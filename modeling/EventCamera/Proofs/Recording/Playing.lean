import EventCamera.Proofs.Recording.Conservation
import EventCamera.Proofs.Window

/-!
# Reading a recording to its end

Windows are asked for until there are no more. If the source does not fail and its events are in
order of time, as far as a span bounds the windows, each window is a cut of the events that are
left, however many of them have been gathered. So every window on the way holds something, and the
end is reached; by then everything has been handed out.

## Main definitions

* `Reader.Plays` — asking for windows until there are no more, without an error on the way
* `Reader.Ahead` — the events that a reader has still to hand out

## Main results

* `Reader.Plays.induction_read` — induction on the windows that calls return
* `Reader.Plays.conserves` — the windows hold everything
* `Reader.Ahead.read` — the next window is a cut of the events that are left
* `Reader.Plays.payload_over` — from a faultless source, they hold what one reading gives
* `Reader.Ahead.exists_plays` — the end is reached
-/

namespace EventCamera.Reader

/-- Asking for windows gives those listed and then no more, and leaves the reader `last`. -/
inductive Plays : Reader → List Batch → Reader → Prop
  | ended {r : Reader} (h : r.next.result = none) : Plays r [] r.next.reader
  | window {r last : Reader} {b : Batch} {bs : List Batch} (h : r.next.result = some (.ok b))
      (rest : Plays r.next.reader bs last) : Plays r (b :: bs) last

/-! ### One window -/

section Next

variable {r : Reader}

/-- What asking for a window can come to: an error, the end, or a window. -/
theorem next_cases (hdone : r.done = false) :
    (∃ e, r.read.result = .error e ∧
        r.next = ⟨{ r.read.reader with done := true }, some (.error e), r.read.notices⟩) ∨
      (r.read.result = .ok {} ∧ r.read.reader.isEndOfStream = true ∧
        r.next = ⟨{ r.read.reader with done := true }, none, r.read.notices⟩) ∨
      ∃ b, r.read.result = .ok b ∧ (b = {} → r.read.reader.isEndOfStream = false) ∧
        r.next = ⟨r.read.reader, some (.ok b), r.read.notices⟩ := by
  have hempty {b : Batch} : b.isEmpty = true ↔ b = {} := by
    rw [Batch.isEmpty_iff, Batch.ext_iff]
  cases hread : r.read.result with
  | error e =>
    refine .inl ⟨e, rfl, ?_⟩
    simp [next, hdone, hread]
  | ok b =>
    by_cases hover : (b.isEmpty && r.read.reader.isEndOfStream) = true
    · have hboth := hover
      rw [Bool.and_eq_true, hempty] at hboth
      obtain ⟨rfl, hend⟩ := hboth
      refine .inr (.inl ⟨rfl, hend, ?_⟩)
      simp [next, hdone, hread, hend]
    · refine .inr (.inr ⟨b, rfl, ?_, ?_⟩)
      · rintro rfl
        simpa using hover
      · simp [next, hdone, hread, hover]

/-- There are no more windows where a call returns nothing and leaves nothing to come. -/
theorem read_of_next_eq_none (hdone : r.done = false) (h : r.next.result = none) :
    r.read.result = .ok {} ∧ r.read.reader.isEndOfStream = true ∧
      r.next.reader = { r.read.reader with done := true } := by
  rcases next_cases hdone with ⟨e, -, hnext⟩ | ⟨hread, hend, hnext⟩ | ⟨b, -, -, hnext⟩
  · rw [hnext] at h
    cases h
  · exact ⟨hread, hend, by rw [hnext]⟩
  · rw [hnext] at h
    cases h

/-- The next window is what a call returns. -/
theorem read_of_next_eq_some {b : Batch} (hdone : r.done = false)
    (h : r.next.result = some (.ok b)) :
    r.read.result = .ok b ∧ r.next.reader = r.read.reader := by
  rcases next_cases hdone with ⟨e, -, hnext⟩ | ⟨-, -, hnext⟩ | ⟨b', hread, -, hnext⟩
  · rw [hnext] at h
    cases h
  · rw [hnext] at h
    cases h
  · rw [hnext] at h ⊢
    cases h
    exact ⟨hread, rfl⟩

/-- Where there are no more windows, nothing is kept. -/
theorem carry_of_isEndOfStream (h : r.isEndOfStream = true) :
    r.payload.exhausted = true ∧ r.carry = {} := by
  simp only [isEndOfStream, Bool.and_eq_true, List.isEmpty_iff] at h
  obtain ⟨⟨hex, hevents⟩, htriggers⟩ := h
  exact ⟨hex, by rw [carry, hevents, htriggers]⟩

end Next

/-! ### All windows -/

/-- Induction on the windows that are still to come, where each of them is what a call returns. -/
@[elab_as_elim]
theorem Plays.induction_read
    {motive : ∀ {r last : Reader} {bs : List Batch}, r.Plays bs last → r.done = false → Prop}
    (ended : ∀ {r : Reader} (h : r.Plays [] r.next.reader) (hdone : r.done = false),
      r.read.result = .ok {} → r.read.reader.isEndOfStream = true →
      r.next.reader = { r.read.reader with done := true } → motive h hdone)
    (window : ∀ {r last : Reader} {b : Batch} {bs : List Batch} (h : r.Plays (b :: bs) last)
      (hdone : r.done = false) (rest : r.read.reader.Plays bs last)
      (hsame : r.read.reader.done = false), r.next.result = some (.ok b) →
      r.read.result = .ok b → motive rest hsame → motive h hdone)
    {r last : Reader} {bs : List Batch} (h : r.Plays bs last) (hdone : r.done = false) :
    motive h hdone := by
  induction h with
  | ended hnone =>
    obtain ⟨hread, hend, hnext⟩ := read_of_next_eq_none hdone hnone
    exact ended _ hdone hread hend hnext
  | @window r last b bs hsome rest ih =>
    obtain ⟨-, -, -, hsame⟩ := read_keeps r
    obtain ⟨hread, hnext⟩ := read_of_next_eq_some hdone hsome
    rw [hdone] at hsame
    refine window _ hdone (hnext ▸ rest) hsame hsome hread ?_
    simpa only [hnext] using ih (hnext ▸ hsame)

/-- The windows of a recording that is read to its end hold what was kept at first and what all its
chunks gave. -/
theorem Plays.conserves {r last : Reader} {bs : List Batch} (h : r.Plays bs last)
    (hdone : r.done = false) :
    last.payload.exhausted = true ∧ last.header = r.header ∧
      last.headerLength = r.headerLength ∧
      last.readEvents = r.readEvents + (Batch.flatten bs).events.length ∧
      ∃ k, last.payload = r.payload.after k ∧
        Batch.flatten bs = r.carry ++ r.payload.gathered k := by
  -- What one window leaves behind the next one starts with.
  induction h, hdone using Plays.induction_read with
  | @ended r _ hdone hread hend hnext =>
    obtain ⟨k, hpayload, hkept, hcount⟩ := read_conserves r
    obtain ⟨hheader, hlength, -, -⟩ := read_keeps r
    obtain ⟨hex, hcarry⟩ := carry_of_isEndOfStream hend
    have hbatch : r.read.batch = {} := by rw [ReadStep.batch, hread]
    rw [hbatch] at hkept hcount
    rw [hcarry] at hkept
    rw [hnext]
    exact ⟨hex, hheader, hlength, hcount, k, hpayload, hkept⟩
  | @window r last b bs _ _ _ _ _ hread ih =>
    obtain ⟨k, hpayload, hkept, hcount⟩ := read_conserves r
    obtain ⟨hheader, hlength, -, -⟩ := read_keeps r
    have hbatch : r.read.batch = b := by rw [ReadStep.batch, hread]
    obtain ⟨hex, hheader', hlength', hcount', m, hpayload', hall⟩ := ih
    rw [hbatch] at hkept hcount
    refine ⟨hex, hheader'.trans hheader, hlength'.trans hlength, ?_, k + m, ?_, ?_⟩
    · rw [hcount', hcount, Batch.flatten_cons, Batch.events_append, List.length_append,
        Nat.add_assoc]
    · rw [hpayload', hpayload, Payload.after_add]
    · rw [Batch.flatten_cons, hall, ← Batch.append_assoc, hkept, hpayload, Batch.append_assoc,
        Payload.gathered_add]

/-! ### Gathering -/

/-- If the payload does not fail, gathering does not. -/
theorem gather_eq_ok {r : Reader} (h : ∀ k, ∃ o, (r.payload.after k).next.result = .ok o)
    (notices : Array Notice) : ∃ reason, (r.gather notices).result = .ok reason := by
  fun_induction gather r notices with
  | case1 => exact ⟨_, rfl⟩
  | case2 => exact ⟨_, rfl⟩
  | case3 r notices _ _ fetch _ message hmessage =>
    obtain ⟨o, ho⟩ := h 0
    cases hmessage.symm.trans ho
  | case4 => exact ⟨_, rfl⟩
  | case5 r notices _ _ fetch _ _ _ ih =>
    -- What the chunk leaves is the payload after one chunk, so its chunks are later ones of `r`.
    apply ih
    intro k
    obtain ⟨o, ho⟩ := h (1 + k)
    rw [Payload.after_add] at ho
    exact ⟨o, ho⟩

/-- Gathering stops because the events are enough for a window, or because the source is at its end
and they are not. -/
theorem gather_stops {r : Reader} {notices : Array Notice} {reason : WindowExit}
    (h : (r.gather notices).result = .ok reason) :
    let q := (r.gather notices).reader
    r.window.exitReason? q.events = some reason ∨
      reason = .endOfStream ∧ q.payload.exhausted = true ∧
        r.window.exitReason? q.events = none := by
  fun_induction gather r notices with
  | case1 r notices reason' hexit =>
    cases h
    exact .inl hexit
  | case2 r notices hexit hex =>
    cases h
    exact .inr ⟨rfl, hex, hexit⟩
  | case3 => cases h
  | case4 r notices hexit _ fetch _ hnone =>
    -- The chunk that meets the end brings no events.
    cases h
    obtain ⟨hex, hbatch⟩ := Payload.exhausted_of_next hnone
    refine .inr ⟨rfl, hex, ?_⟩
    have hevents : (r.take fetch).events = r.events := by
      rw [take, show fetch.batch = {} from hbatch, List.append_nil]
    exact hevents ▸ hexit
  | case5 r notices _ _ fetch _ _ _ ih => exact ih h

/-! ### What is still ahead -/

/-- The reader has the events `es` still to hand out: those that it keeps, and those of the chunks
that are left, of which none fails. -/
structure Ahead (r : Reader) (es : List Event) : Prop where
  steady : ∀ k, ∃ o, (r.payload.after k).next.result = .ok o
  ends : ∃ k, (r.payload.after k).exhausted = true ∧ (r.grown k).events = es

section Ahead

variable {r : Reader} {es : List Event}

/-- Taking over chunks changes nothing about what is ahead. -/
theorem Ahead.grown (h : r.Ahead es) (k : Nat) : (r.grown k).Ahead es := by
  obtain ⟨m, hex, hevents⟩ := h.ends
  refine ⟨?_, m, ?_, ?_⟩
  · intro j
    obtain ⟨o, ho⟩ := h.steady (k + j)
    rw [Payload.after_add] at ho
    exact ⟨o, ho⟩
  · change ((r.payload.after k).after m).exhausted = true
    rw [← Payload.after_add, Payload.after_of_exhausted hex (Nat.le_add_left m k)]
    exact hex
  · -- Behind the end, more chunks add nothing.
    rw [← grown_add, Nat.add_comm, grown_add, grown_of_exhausted hex]
    exact hevents

/-- The events that a reader keeps are the first of those ahead. -/
theorem Ahead.exists_append (h : r.Ahead es) :
    ∃ rest, es = r.events ++ rest ∧ (r.payload.exhausted = true → rest = []) := by
  obtain ⟨m, -, hevents⟩ := h.ends
  refine ⟨(r.payload.gathered m).events, hevents.symm, ?_⟩
  intro hex
  rw [Payload.gathered_of_exhausted hex]

/-- Handing out some events leaves the others ahead. -/
theorem Ahead.handOut (h : r.Ahead es) (reason : WindowExit) :
    (r.handOut reason).1.Ahead (es.drop (r.window.release r.events reason r.search)) := by
  obtain ⟨m, hex, hevents⟩ := h.ends
  refine ⟨h.steady, m, hex, ?_⟩
  rw [← hevents]
  exact (List.drop_append_of_le_length (Window.release_le_length _ _ _ _)).symm

/-- With the source at its end and no event to wait for, nothing is kept. -/
theorem isEndOfStream_handOut {reason : WindowExit} (hex : r.payload.exhausted = true)
    (hnone : r.events.drop (r.window.release r.events reason r.search) = []) :
    (r.handOut reason).1.isEndOfStream = true := by
  simp [Reader.handOut, isEndOfStream, splitTriggers, hnone, hex]

/-- The next window is a cut of the events that are ahead, and leaves the others ahead. If it is not
full and leaves none, the end has been reached. -/
theorem Ahead.read (h : r.Ahead es) (himplemented : r.header.payloadFormat.isImplemented = true)
    (ho : r.window.CanDivide es) :
    ∃ b n, r.read.result = .ok b ∧ r.window.IsCut es n ∧ b.events = es.take n ∧
      r.read.reader.Ahead (es.drop n) ∧
      (n < r.window.maxEvents.toNat → es.drop n = [] → r.read.reader.isEndOfStream = true) := by
  rcases read_cases r with ⟨hno, -, -⟩ | ⟨k, ⟨message, hfail, -, -⟩ |
    ⟨reason, hgather, hgrown, hreader, hresult⟩⟩
  · rw [himplemented] at hno
    cases hno
  · obtain ⟨reason, hok⟩ := gather_eq_ok h.steady #[]
    cases hfail.symm.trans hok
  · have hahead := h.grown k
    obtain ⟨rest, hes, hrest⟩ := hahead.exists_append
    have hstops := gather_stops hgather
    rw [hgrown] at hstops
    have hsorted : r.window.CanDivide (r.grown k).events :=
      ho.sublist (hes ▸ List.sublist_append_left _ _)
    have htake : ((r.grown k).handOut reason).2.events =
        es.take (r.window.release (r.grown k).events reason r.search) := by
      rw [hes, List.take_append_of_le_length (Window.release_le_length _ _ _ _)]
      rfl
    refine ⟨_, r.window.release (r.grown k).events reason r.search, hresult, ?_⟩
    rw [hreader]
    rcases hstops with hexit | ⟨rfl, hex, hexit⟩
    · obtain ⟨hcut, hkept⟩ := Window.isCut_release hsorted hexit r.search rest
      refine ⟨hes ▸ hcut, htake, hahead.handOut reason, ?_⟩
      -- An event that is kept is one of those that are left.
      intro hfew hnone
      have hlt := hkept hfew
      rw [List.drop_eq_nil_iff, hes, List.length_append] at hnone
      omega
    · obtain rfl := hrest hex
      rw [List.append_nil] at hes
      subst hes
      refine ⟨?_, htake, hahead.handOut _, fun _ => isEndOfStream_handOut hex⟩
      rw [(Window.release_endOfStream hexit r.search).1]
      exact Window.isCut_length hsorted hexit

end Ahead

/-! ### Reaching the end -/

/-- A window without events leaves nothing to hand out. -/
theorem Ahead.isEndOfStream_of_events_eq_nil {r : Reader} {es : List Event} {b : Batch}
    (h : r.Ahead es) (himplemented : r.header.payloadFormat.isImplemented = true)
    (ho : r.window.CanDivide es) (hread : r.read.result = .ok b) (hnone : b.events = []) :
    r.read.reader.isEndOfStream = true := by
  obtain ⟨b', n, hread', hcut, hevents, -, hend⟩ := h.read himplemented ho
  cases hread.symm.trans hread'
  obtain rfl : es = [] := by rw [← hcut.take_eq_nil_iff, ← hevents, hnone]
  exact hend (Nat.lt_of_le_of_lt hcut.le_length r.window.maxEvents_pos) List.drop_nil

/-- A window that is returned holds something. -/
theorem Ahead.isEmpty_window {r : Reader} {es : List Event} {b : Batch} (h : r.Ahead es)
    (himplemented : r.header.payloadFormat.isImplemented = true)
    (ho : r.window.CanDivide es) (hdone : r.done = false)
    (hnext : r.next.result = some (.ok b)) : b.isEmpty = false := by
  rcases next_cases hdone with ⟨e, -, hfail⟩ | ⟨-, -, hnone⟩ | ⟨b', hread, hmore, hsome⟩
  · rw [hfail] at hnext
    cases hnext
  · rw [hnone] at hnext
    cases hnext
  · rw [hsome] at hnext
    cases hnext
    rw [Bool.eq_false_iff]
    -- With nothing in it, it would be the end.
    intro hempty
    have hnil := Batch.isEmpty_iff.1 hempty
    have hend := h.isEndOfStream_of_events_eq_nil himplemented ho hread hnil.1
    rw [hmore (Batch.ext_iff.2 hnil)] at hend
    cases hend

/-- Every window of a recording that is read to its end holds something. -/
theorem Plays.isEmpty_of_mem {r last : Reader} {bs : List Batch} {es : List Event}
    (h : r.Plays bs last) (hahead : r.Ahead es)
    (himplemented : r.header.payloadFormat.isImplemented = true)
    (ho : r.window.CanDivide es) (hdone : r.done = false) : ∀ b ∈ bs, b.isEmpty = false := by
  induction h, hdone using Plays.induction_read generalizing es with
  | ended => exact fun _ hb => absurd hb List.not_mem_nil
  | @window r _ _ _ _ hdone _ _ hsome _ ih =>
    obtain ⟨hheader, -, hwindow, -⟩ := read_keeps r
    obtain ⟨-, n, -, -, -, hahead', -⟩ := hahead.read himplemented ho
    exact List.forall_mem_cons.2 ⟨hahead.isEmpty_window himplemented ho hdone hsome,
      ih hahead' (hheader ▸ himplemented) (hwindow ▸ ho.drop n)⟩

/-- Windows are asked for until there are no more. -/
theorem Ahead.exists_plays {r : Reader} {es : List Event} (h : r.Ahead es)
    (himplemented : r.header.payloadFormat.isImplemented = true)
    (ho : r.window.CanDivide es) (hdone : r.done = false) : ∃ bs last, r.Plays bs last := by
  obtain ⟨b, n, hread, -, -, hahead, -⟩ := h.read himplemented ho
  obtain ⟨hheader, -, hwindow, hsame⟩ := read_keeps r
  -- The next window is one of those to come, and after it there is less left to hand out.
  rcases next_cases hdone with ⟨e, hfail, -⟩ | ⟨-, -, hnext⟩ | ⟨b', hread', -, hnext⟩
  · cases hfail.symm.trans hread
  · exact ⟨[], _, .ended (by rw [hnext])⟩
  · cases hread'.symm.trans hread
    have hb : b.isEmpty = false := h.isEmpty_window himplemented ho hdone (by rw [hnext])
    obtain ⟨bs, last, hplays⟩ := hahead.exists_plays (hheader ▸ himplemented)
      (hwindow ▸ ho.drop n) (hsame.trans hdone)
    refine ⟨b :: bs, last, .window (by rw [hnext]) ?_⟩
    rw [hnext]
    exact hplays
termination_by (r.payload.remaining, r.pending)
decreasing_by
  rcases read_progress hread hb with h | ⟨h, h'⟩
  · exact Prod.Lex.left _ _ h
  · rw [h]
    exact Prod.Lex.right _ h'

/-- Ahead of a reader that stands in front of the payload are the events that one reading of the
bytes within reach gives. -/
theorem ahead_of_isFaultless {r : Reader} {source : Source} {chunkWords : Nat}
    (hpayload : r.payload = { source, chunkWords }) (hs : source.IsFaultless)
    (hcarry : r.carry = {}) : r.Ahead (decodeFinal {} (words source.reach)).events.toList := by
  obtain ⟨n, -, -, hover⟩ := Payload.exists_end hs chunkWords
  refine ⟨?_, n + 1, ?_, ?_⟩
  · intro k
    rw [hpayload]
    exact (Payload.next_of_isFaultless hs chunkWords k).1
  · rw [hpayload]
    exact hover.exhausted
  · change (r.carry ++ r.payload.gathered (n + 1)).events = _
    rw [hcarry, Batch.empty_append, hpayload, hover.batch]
    rfl

/-- By the end of a faultless source, the windows hold what one reading of the words within reach
gives. -/
theorem Plays.payload_over {r last : Reader} {bs : List Batch} {source : Source} {chunkWords : Nat}
    (h : r.Plays bs last) (hpayload : r.payload = { source, chunkWords }) (hs : source.IsFaultless)
    (hcarry : r.carry = {}) (hdone : r.done = false) :
    last.payload.Over source.reach (Batch.flatten bs) := by
  obtain ⟨hex, -, -, -, k, hafter, hwindows⟩ := h.conserves hdone
  rw [hafter, hpayload] at hex ⊢
  rw [hwindows, hcarry, hpayload, Batch.empty_append]
  exact Payload.over_of_exhausted hs chunkWords hex

end EventCamera.Reader
