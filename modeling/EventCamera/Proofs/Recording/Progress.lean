import EventCamera.Proofs.Recording.Windows

/-!
# Reading makes progress and ends

A caller who asks for windows stops when one holds nothing and the reader says that it is at its
end. For that to happen, a window without events may come only once, behind all the others, and a
window that holds nothing may come only at the end. Behind the end nothing moves any more: whatever
is asked for, and whatever the source would still give, the reader stays as it is.

## Main definitions

* `Reader.Call`, `Reader.afterCalls` — what a reader can be asked for, and the reader behind that
* `Reader.Settled` — nothing is left, and nothing will come
* `Reader.Intact` — what calls keep up on a source that does not fail

## Main results

* `Reader.Intact.afterCalls`, `Reader.Intact.read`, `Reader.Intact.next` — what calls come to
* `Reader.Plays.events_ne_nil` — every window but the last holds an event
* `reading_comes_to_end` — a recording is read to its end, and then nothing moves
-/

namespace EventCamera

namespace Reader

/-- What a reader can be asked for. -/
inductive Call where
  /-- The next window. -/
  | read
  /-- The next window, if there is one. -/
  | next

/-- The reader after a call, whatever came of it. -/
def call (r : Reader) : Call → Reader
  | .read => r.read.reader
  | .next => r.next.reader

/-- The reader after some calls, whatever came of them. -/
def afterCalls (r : Reader) (calls : List Call) : Reader := calls.foldl call r

@[simp] theorem afterCalls_nil (r : Reader) : r.afterCalls [] = r := rfl

theorem afterCalls_cons (r : Reader) (c : Call) (calls : List Call) :
    r.afterCalls (c :: calls) = (r.call c).afterCalls calls := rfl

/-- The reader with another source in place of what is left of its own. -/
def withSource (r : Reader) (source : Source) : Reader := { r with payload.source := source }

/-- Whatever the source would still give and whatever is asked for, the reader is at its end, gives
nothing and stays as it is. -/
def Settled (r : Reader) : Prop :=
  ∀ (source : Source) (calls : List Call),
    let q := (r.withSource source).afterCalls calls
    q = r.withSource source ∧ q.isEndOfStream = true ∧ q.next.result = none ∧
      q.read.result = .ok {}

variable {r last : Reader} {bs : List Batch} {es : List Event}

/-! ### Behind the end -/

theorem next_of_done (hdone : r.done = true) : r.next = { reader := r, result := none } := by
  simp [next, hdone]

/-- A reader that has said that it is at its end is settled. -/
theorem settled_of_isEndOfStream (hend : r.isEndOfStream = true)
    (himplemented : r.header.payloadFormat.isImplemented = true) (hdone : r.done = true) :
    r.Settled := by
  intro source calls
  have hread : (r.withSource source).read = { reader := r.withSource source, result := .ok {} } :=
    read_of_isEndOfStream hend himplemented
  have hnext : (r.withSource source).next = { reader := r.withSource source, result := none } :=
    next_of_done hdone
  have hsame : (r.withSource source).afterCalls calls = r.withSource source := by
    induction calls with
    | nil => rfl
    | cons c calls ih =>
      have hcall : (r.withSource source).call c = r.withSource source := by
        cases c with
        | read => rw [call, hread]
        | next => rw [call, hnext]
      rw [afterCalls_cons, hcall, ih]
  intro q
  rw [show q = r.withSource source from hsame, hnext, hread]
  exact ⟨rfl, hend, rfl, rfl⟩

/-! ### Any calls -/

/-- The reader has events ahead that its window can divide, and has said that there are no more only
at its end. -/
structure Intact (r : Reader) : Prop where
  implemented : r.header.payloadFormat.isImplemented = true
  ahead : ∃ es, r.Ahead es ∧ r.window.CanDivide es
  done : r.done = true → r.isEndOfStream = true

namespace Intact

/-- A window is returned. If it holds no events, the end has been reached. -/
theorem read (h : r.Intact) :
    ∃ b, r.read.result = .ok b ∧ (b.events = [] → r.read.reader.isEndOfStream = true) := by
  obtain ⟨es, hahead, ho⟩ := h.ahead
  obtain ⟨b, -, hread, -⟩ := hahead.read h.implemented ho
  exact ⟨b, hread, hahead.isEndOfStream_of_events_eq_nil h.implemented ho hread⟩

theorem reader_read (h : r.Intact) : r.read.reader.Intact := by
  obtain ⟨es, hahead, ho⟩ := h.ahead
  obtain ⟨hheader, -, hwindow, hsame⟩ := read_keeps r
  obtain ⟨-, n, -, -, -, hahead', -⟩ := hahead.read h.implemented ho
  refine ⟨hheader ▸ h.implemented, ⟨_, hahead', hwindow ▸ ho.drop n⟩, ?_⟩
  intro hdone
  have hend := h.done (hsame ▸ hdone)
  rw [read_of_isEndOfStream hend h.implemented]
  exact hend

/-- Where there are no more windows, the reader is settled. -/
theorem next (h : r.Intact) :
    r.next.reader.Intact ∧ (r.next.result = none → r.next.reader.Settled) := by
  cases hdone : r.done with
  | true =>
    rw [next_of_done hdone]
    exact ⟨h, fun _ => settled_of_isEndOfStream (h.done hdone) h.implemented hdone⟩
  | false =>
    have hread := h.reader_read
    rcases next_cases hdone with ⟨e, hfail, -⟩ | ⟨-, hend, hnext⟩ | ⟨b, -, -, hnext⟩
    · obtain ⟨b, hok, -⟩ := h.read
      cases hfail.symm.trans hok
    · rw [hnext]
      obtain ⟨es, hahead, ho⟩ := hread.ahead
      exact ⟨⟨hread.implemented, ⟨es, ⟨hahead.steady, hahead.ends⟩, ho⟩, fun _ => hend⟩,
        fun _ => settled_of_isEndOfStream hend hread.implemented rfl⟩
    · rw [hnext]
      exact ⟨hread, nofun⟩

theorem afterCalls (h : r.Intact) (calls : List Call) : (r.afterCalls calls).Intact := by
  induction calls generalizing r with
  | nil => exact h
  | cons c calls ih =>
    cases c with
    | read => exact ih h.reader_read
    | next => exact ih h.next.1

end Intact

/-! ### All windows -/

/-- Asking for windows until there are no more leaves a reader that is settled. -/
theorem Plays.settled (h : r.Plays bs last) (hintact : r.Intact) : last.Settled := by
  induction h with
  | ended hnone => exact hintact.next.2 hnone
  | window _ _ ih => exact ih hintact.next.1

/-- A window without events is the last one. -/
theorem Plays.events_ne_nil (h : r.Plays bs last) (hintact : r.Intact) (hdone : r.done = false) :
    ∀ b ∈ bs.dropLast, b.events ≠ [] := by
  induction h, hdone using Plays.induction_read with
  | ended => exact fun _ hb => absurd hb List.not_mem_nil
  | @window r last b bs _ _ rest hsame _ hread ih =>
    cases bs with
    | nil => exact fun _ hb => absurd hb List.not_mem_nil
    | cons b' bs =>
      rw [List.dropLast_cons_cons]
      refine List.forall_mem_cons.2 ⟨?_, ih hintact.reader_read⟩
      -- Behind the end, no window would follow.
      intro hnone
      obtain ⟨b'', hread', hend⟩ := hintact.read
      cases hread.symm.trans hread'
      cases rest.eq_nil_of_isEndOfStream (hend hnone) hintact.reader_read.implemented hsame

/-- Windows of which only the last may hold no events are at most one more than their events. -/
theorem length_le_of_events_ne_nil {bs : List Batch} (h : ∀ b ∈ bs.dropLast, b.events ≠ []) :
    bs.length ≤ (bs.flatMap (·.events)).length + 1 := by
  induction bs with
  | nil => exact Nat.zero_le _
  | cons b bs ih =>
    cases bs with
    | nil => simp
    | cons b' bs =>
      rw [List.dropLast_cons_cons] at h
      obtain ⟨hb, hbs⟩ := List.forall_mem_cons.1 h
      have := List.length_pos_iff.2 hb
      have := ih hbs
      rw [List.flatMap_cons, List.length_append, List.length_cons]
      omega

end Reader

/-- A recording of events in order is read to its end in windows that are never empty, at most one
more than there are events. Whatever calls are made, a window that holds nothing comes only at the
end. -/
theorem reading_comes_to_end {options : ReaderOptions} {window : Window} {source : Source}
    {header : Header} (hwindow : options.window = .ok window) (hsource : source.IsFaultless)
    (hheader : (Header.read source).result = .ok header) (hformat : header.payloadFormat = .evt3)
    (ho : window.CanDivide source.events) :
    ∃ (r last : Reader) (windows : List Batch),
      (Reader.openSource options source).result = .ok r ∧ r.Plays windows last ∧
      windows.flatMap (·.events) = source.events ∧
      (∀ b ∈ windows, b.isEmpty = false) ∧
      (∀ b ∈ windows.dropLast, b.events ≠ []) ∧
      windows.length ≤ source.events.length + 1 ∧
      last.Settled ∧
      ∀ calls : List Reader.Call,
        let q := r.afterCalls calls
        (∃ b, q.read.result = .ok b ∧ (b.isEmpty = true → q.read.reader.isEndOfStream = true)) ∧
          (q.next.result = none → q.next.reader.Settled) := by
  obtain ⟨r, hopen, rfl, himplemented, hcarry, hdone, hpayload, hahead⟩ :=
    Reader.exists_ahead hwindow hsource hheader hformat
  have hintact : r.Intact := ⟨himplemented, ⟨_, hahead, ho⟩, by rw [hdone]; exact nofun⟩
  obtain ⟨windows, last, hplays⟩ := hahead.exists_plays himplemented ho hdone
  have hover := hplays.payload_over hpayload (Header.isFaultless_of_read hsource) hcarry hdone
  have hevents : windows.flatMap (·.events) = source.events := by
    rw [← Batch.events_flatten, hover.batch]
    rfl
  have hsome := hplays.events_ne_nil hintact hdone
  refine ⟨r, last, windows, hopen, hplays, hevents,
    hplays.isEmpty_of_mem hahead himplemented ho hdone, hsome, ?_, hplays.settled hintact, ?_⟩
  · exact hevents ▸ Reader.length_le_of_events_ne_nil hsome
  · intro calls q
    have hq := hintact.afterCalls calls
    obtain ⟨b, hread, hend⟩ := hq.read
    exact ⟨⟨b, hread, fun hempty => hend (Batch.isEmpty_iff.1 hempty).1⟩, hq.next.2⟩

/-- A recording of two events and a trigger that comes with a read of its own, too late for their
windows. -/
def lateTrigger : Source :=
  [.bytes Header.bare, .bytes [0x00, 0x80, 0x01, 0x60, 0x01, 0x20, 0x02, 0x60, 0x02, 0x20],
    .bytes [0x03, 0x60, 0x01, 0xA1]]

theorem reading_comes_to_end_of_lateTrigger :
    ∃ (r last : Reader) (windows : List Batch),
      (Reader.openSource { deltaT := some 100, nEvents := some 1 } lateTrigger).result = .ok r ∧
      r.Plays windows last ∧
      windows.flatMap (·.events) = [⟨1, 1, 0, 0⟩, ⟨2, 2, 0, 0⟩] ∧
      (∀ b ∈ windows.dropLast, b.events ≠ []) ∧ windows.length ≤ 3 ∧ last.Settled := by
  have hfaultless : lateTrigger.IsFaultless := by simp [lateTrigger, Source.IsFaultless]
  have hread := Header.read_of_bare lateTrigger.tail
  change Header.read lateTrigger = _ at hread
  have hevents : lateTrigger.events = [⟨1, 1, 0, 0⟩, ⟨2, 2, 0, 0⟩] := by
    rw [Source.events, hread]
    decide
  have hwindow : ({ deltaT := some 100, nEvents := some 1 } : ReaderOptions).window =
      .ok { deltaT := 100, maxEvents := 1 } := by decide
  obtain ⟨r, last, windows, hopen, hplays, hall, -, hsome, hlength, hsettled, -⟩ :=
    reading_comes_to_end hwindow hfaultless (by rw [hread]; rfl) (by decide)
      (Window.canDivide_of_pairwise (by rw [hevents]; decide))
  rw [hevents] at hall hlength
  exact ⟨r, last, windows, hopen, hplays, hall, hsome, hlength, hsettled⟩

end EventCamera
