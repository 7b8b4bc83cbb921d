import EventCamera.Proofs.Evt3.Emissions
import EventCamera.Proofs.Recording.Windows

/-!
# Triggers go with their window

A window is a piece of the events alone, and the triggers are divided by where it ends. If events
and triggers come in one order of time, then no trigger goes out in front of an earlier event or
behind a later one, however far the reader has looked ahead, and what is kept begins with an event.

## Main definitions

* `Batch.Before` — neither the triggers nor the events of a batch are late for another one
* `Source.emissions` — the events and triggers of a recording as one sequence
* `Reader.HoldsBack` — what is kept begins with an event
* `Reader.InOrder` — what is kept and what is still to come are in one order of time

## Main results

* `Reader.holdsBack_handOut`, `Reader.before_handOut` — how a window is divided from what is kept
* `Reader.InOrder.read` — a call keeps the order
* `Reader.Plays.pairwise_before` — the windows come one before the other
* `triggers_go_with_windows` — how the windows of a recording divide its triggers
-/

namespace EventCamera

namespace Batch

/-- The events and the triggers of a batch are some of those of another one, in the same order. -/
structure Sublist (a b : Batch) : Prop where
  events : a.events.Sublist b.events
  triggers : a.triggers.Sublist b.triggers

/-- The events are in order of time, and so are the triggers. -/
structure Ordered (b : Batch) : Prop where
  events : b.events.Pairwise (·.t ≤ ·.t)
  triggers : b.triggers.Pairwise (·.t ≤ ·.t)

/-- No trigger of the first batch is later than an event of the second, and no event of the first is
later than a trigger of the second. -/
def Before (a b : Batch) : Prop :=
  (∀ tr ∈ a.triggers, ∀ e ∈ b.events, tr.t ≤ e.t) ∧
    ∀ e ∈ a.events, ∀ tr ∈ b.triggers, e.t ≤ tr.t

variable {a b c : Batch}

theorem sublist_append_left (a b : Batch) : a.Sublist (a ++ b) :=
  ⟨List.sublist_append_left _ _, List.sublist_append_left _ _⟩

theorem sublist_append_right (a b : Batch) : b.Sublist (a ++ b) :=
  ⟨List.sublist_append_right _ _, List.sublist_append_right _ _⟩

theorem Sublist.append_right (h : a.Sublist b) (c : Batch) : (a ++ c).Sublist (b ++ c) :=
  ⟨h.events.append_right _, h.triggers.append_right _⟩

theorem Ordered.sublist (h : b.Ordered) (hab : a.Sublist b) : a.Ordered :=
  ⟨h.events.sublist hab.events, h.triggers.sublist hab.triggers⟩

theorem Before.sublist (h : b.Before c) (hab : a.Sublist b) : a.Before c where
  left tr htr := h.1 tr (hab.triggers.subset htr)
  right e he := h.2 e (hab.events.subset he)

@[simp] theorem before_empty (a : Batch) : a.Before {} := by simp [Before]

@[simp] theorem before_append : a.Before (b ++ c) ↔ a.Before b ∧ a.Before c := by
  simp only [Before, events_append, triggers_append, List.forall_mem_append, forall_and]
  exact and_and_and_comm

theorem before_flatten {bs : List Batch} : a.Before (flatten bs) ↔ ∀ b ∈ bs, a.Before b := by
  induction bs with
  | nil => simp
  | cons b bs ih => simp [ih]

section Emissions

variable {ems ems' : List Emission}

theorem ordered_ofEmissions (h : ems.Pairwise (·.time ≤ ·.time)) : (ofEmissions ems).Ordered where
  events := by
    refine h.filterMap _ fun em em' hle e he e' he' => ?_
    rw [Emission.event?_eq_some] at he he'
    subst he he'
    exact hle
  triggers := by
    refine h.filterMap _ fun em em' hle tr htr tr' htr' => ?_
    rw [Emission.trigger?_eq_some] at htr htr'
    subst htr htr'
    exact hle

theorem before_ofEmissions (h : (ems ++ ems').Pairwise (·.time ≤ ·.time)) :
    (ofEmissions ems).Before (ofEmissions ems') := by
  have hle := (List.pairwise_append.1 h).2.2
  refine ⟨?_, ?_⟩
  · intro tr htr e he
    exact hle _ (mem_triggers_ofEmissions.1 htr) _ (mem_events_ofEmissions.1 he)
  · intro e he tr htr
    exact hle _ (mem_events_ofEmissions.1 he) _ (mem_triggers_ofEmissions.1 htr)

end Emissions

end Batch

namespace Reader

/-! ### One window -/

/-- What is kept begins with an event. Every trigger that is kept waits for that event, which is no
later; without an event, no trigger is kept. -/
def HoldsBack (r : Reader) : Prop :=
  ∀ tr ∈ r.triggers, ∃ next ∈ r.events.head?, next.t ≤ tr.t

section Split

variable {triggers : List Trigger} (htriggers : triggers.Pairwise (·.t ≤ ·.t)) (search : Search)
  (next : Event) (kept : List Event)
include htriggers

/-- The triggers that are earlier than an event come first. -/
theorem pairwise_lt :
    triggers.Pairwise fun a b => decide (b.t < next.t) = true → decide (a.t < next.t) = true :=
  htriggers.imp fun hle hlt =>
    decide_eq_true (UInt64.lt_of_le_of_lt hle (of_decide_eq_true hlt))

theorem splitTriggers_cons :
    splitTriggers search (next :: kept) triggers =
      (triggers.takeWhile (·.t < next.t), triggers.dropWhile (·.t < next.t)) :=
  search.splitAt_count (pairwise_lt htriggers next)

/-- The triggers that wait are no earlier than the next event. -/
theorem le_of_mem_splitTriggers_snd :
    ∀ tr ∈ (splitTriggers search (next :: kept) triggers).2, next.t ≤ tr.t := by
  rw [splitTriggers_cons htriggers]
  intro tr htr
  simpa using Search.of_mem_dropWhile (pairwise_lt htriggers next) tr htr

/-- The triggers that go out are no later than an event that is kept. -/
theorem le_of_mem_splitTriggers_fst {kept : List Event} (hkept : kept.Pairwise (·.t ≤ ·.t)) :
    ∀ tr ∈ (splitTriggers search kept triggers).1, ∀ e ∈ kept, tr.t ≤ e.t := by
  cases kept with
  | nil => exact fun _ _ _ he => absurd he List.not_mem_nil
  | cons next kept =>
    rw [splitTriggers_cons htriggers]
    intro tr htr e he
    have hlt : tr.t < next.t := by simpa using List.mem_takeWhile_imp htr
    rcases List.mem_cons.1 he with rfl | he
    · exact UInt64.le_of_lt hlt
    · exact UInt64.le_trans (UInt64.le_of_lt hlt) (List.rel_of_pairwise_cons hkept he)

end Split

section HandOut

variable {r : Reader} (h : r.carry.Ordered) (reason : WindowExit)
include h

theorem holdsBack_handOut : (r.handOut reason).1.HoldsBack := by
  rw [HoldsBack, handOut]
  dsimp only
  cases r.events.drop (r.window.release r.events reason r.search) with
  | nil => exact fun _ htr => absurd htr List.not_mem_nil
  | cons next kept =>
    intro tr htr
    exact ⟨next, rfl, le_of_mem_splitTriggers_snd h.triggers r.search next kept tr htr⟩

/-- A window comes before what is kept behind it. -/
theorem before_handOut : (r.handOut reason).2.Before (r.handOut reason).1.carry := by
  have hall : ((r.handOut reason).2 ++ (r.handOut reason).1.carry).Ordered := by
    rw [handOut_append_carry]
    exact h
  have hkept := (hall.sublist (Batch.sublist_append_right _ _)).events
  refine ⟨le_of_mem_splitTriggers_fst h.triggers r.search hkept, ?_⟩
  intro e he tr htr
  -- Between the two stands the first event that is kept.
  obtain ⟨next, hnext, hle⟩ := holdsBack_handOut h reason tr htr
  have hevents := hall.events
  rw [Batch.events_append, List.pairwise_append] at hevents
  exact UInt64.le_trans (hevents.2.2 e he next (List.mem_of_mem_head? hnext)) hle

end HandOut

/-! ### Everything that is still to come -/

/-- However many of the chunks that are left are taken over, what is then kept is in order of time
and comes before what the others give. -/
structure InOrder (r : Reader) : Prop where
  ordered : ∀ k, (r.grown k).carry.Ordered
  before : ∀ k m, (r.grown k).carry.Before ((r.payload.after k).gathered m)

namespace InOrder

variable {r : Reader}

theorem grown (h : r.InOrder) (k : Nat) : (r.grown k).InOrder where
  ordered m := grown_add r k m ▸ h.ordered (k + m)
  before m n := by
    have hbefore := h.before (k + m) n
    rwa [grown_add, Payload.after_add] at hbefore

theorem handOut (h : r.InOrder) (reason : WindowExit) : (r.handOut reason).1.InOrder := by
  have hkept (k : Nat) : ((r.handOut reason).1.grown k).carry.Sublist (r.grown k).carry := by
    rw [carry_grown, carry_grown, ← handOut_append_carry r reason]
    exact (Batch.sublist_append_right _ _).append_right _
  exact ⟨fun k => (h.ordered k).sublist (hkept k), fun k m => (h.before k m).sublist (hkept k)⟩

/-- A call keeps the order. -/
theorem read (h : r.InOrder) : r.read.reader.InOrder := by
  rcases read_cases r with ⟨-, hreader, -⟩ | ⟨k, ⟨message, -, hreader, -⟩ |
    ⟨reason, -, -, hreader, -⟩⟩
  · rw [hreader]
    exact h
  · rw [hreader]
    exact h.grown k
  · rw [hreader]
    exact (h.grown k).handOut reason

theorem after (h : r.InOrder) (n : Nat) : (r.after n).InOrder := by
  induction n with
  | zero => exact h
  | succ n ih =>
    rw [after_succ]
    exact ih.read

/-- What is kept behind a window begins with an event, and the window comes before it and before
everything that the chunks will give. -/
theorem window {b : Batch} (h : r.InOrder) (hread : r.read.result = .ok b) :
    r.read.reader.HoldsBack ∧
      ∀ m, b.Before (r.read.reader.carry ++ r.read.reader.payload.gathered m) := by
  rcases read_cases r with ⟨-, -, hfail⟩ | ⟨k, ⟨message, -, -, hfail⟩ |
    ⟨reason, -, -, hreader, hresult⟩⟩
  · cases hfail.symm.trans hread
  · cases hfail.symm.trans hread
  · cases hresult.symm.trans hread
    rw [hreader]
    refine ⟨holdsBack_handOut (h.ordered k) reason, fun m => Batch.before_append.2 ⟨?_, ?_⟩⟩
    · exact before_handOut (h.ordered k) reason
    · refine (h.before k m).sublist ?_
      rw [← handOut_append_carry (r.grown k) reason]
      exact Batch.sublist_append_left _ _

end InOrder

/-- The windows come one before the other. -/
theorem Plays.pairwise_before {r last : Reader} {bs : List Batch} (h : r.Plays bs last)
    (horder : r.InOrder) (hdone : r.done = false) : bs.Pairwise Batch.Before := by
  induction h, hdone using Plays.induction_read with
  | ended => exact .nil
  | window _ _ rest hsame _ hread ih =>
    -- The windows behind this one hold what it has left and what the chunks then gave.
    obtain ⟨-, -, -, -, k, -, hrest⟩ := rest.conserves hsame
    refine .cons ?_ (ih horder.read)
    rw [← Batch.before_flatten, hrest]
    exact (horder.window hread).2 k

end Reader

/-! ### A recording from its start -/

/-- The events and triggers of a recording as one sequence, in stream order. -/
def Source.emissions (source : Source) : List Emission :=
  EventCamera.emissions {} (words (Header.read source).source.reach)

/-- The events among them are the events of the recording. -/
theorem Source.events_ofEmissions (source : Source) :
    (Batch.ofEmissions source.emissions).events = source.events := by
  rw [Source.emissions, ofEmissions_emissions, ← batch_decodeFinal]
  rfl

section Faultless

variable {source : Source} (hs : source.IsFaultless) (chunkWords : Nat)
include hs

/-- Some chunks give the events and triggers of a first part of the words. -/
theorem Payload.gathered_eq_ofEmissions (n : Nat) :
    let p : Payload := { source, chunkWords }
    ∃ ems, ems <+: emissions {} (words source.reach) ∧ p.gathered n = Batch.ofEmissions ems := by
  intro p
  rcases midway_or_over hs chunkWords n with ⟨bs, -, hreach, -, hmid⟩ | hover
  · refine ⟨emissions {} (words bs), isPrefix_emissions {} ?_, ?_⟩
    · rw [hreach, (words_append bs _).1]
      exact List.prefix_append _ _
    · rw [ofEmissions_emissions]
      exact hmid.batch
  · refine ⟨_, List.prefix_rfl, ?_⟩
    rw [ofEmissions_emissions, ← batch_decodeFinal]
    exact hover.batch

/-- If the words give everything in order of time, what some chunks give comes before what the
chunks behind them do. -/
theorem Payload.before_gathered
    (hordered : (emissions {} (words source.reach)).Pairwise (·.time ≤ ·.time)) (k m : Nat) :
    let p : Payload := { source, chunkWords }
    (p.gathered k).Before ((p.after k).gathered m) := by
  intro p
  obtain ⟨first, hfirst, hk⟩ := gathered_eq_ofEmissions hs chunkWords k
  obtain ⟨both, hboth, hkm⟩ := gathered_eq_ofEmissions hs chunkWords (k + m)
  rw [gathered_add, hk] at hkm
  change Batch.ofEmissions first ++ (p.after k).gathered m = Batch.ofEmissions both at hkm
  rw [hk]
  rcases List.prefix_or_prefix_of_prefix hfirst hboth with ⟨more, rfl⟩ | ⟨less, rfl⟩
  · rw [Batch.ofEmissions_append] at hkm
    rw [Batch.append_cancel_left hkm]
    exact Batch.before_ofEmissions (hordered.sublist hboth.sublist)
  · -- More chunks have not given less, so those behind the first have given nothing.
    rw [Batch.ofEmissions_append] at hkm
    rw [Batch.eq_empty_of_append hkm]
    exact Batch.before_empty _

/-- In front of words that give everything in order of time, a reader that keeps nothing has that
order ahead. -/
theorem Reader.inOrder_of_isFaultless {r : Reader} (hpayload : r.payload = { source, chunkWords })
    (hcarry : r.carry = {})
    (hordered : (emissions {} (words source.reach)).Pairwise (·.time ≤ ·.time)) : r.InOrder := by
  have hgrown (k : Nat) : (r.grown k).carry = r.payload.gathered k := by
    rw [carry_grown, hcarry, Batch.empty_append]
  refine ⟨fun k => ?_, fun k m => ?_⟩
  · obtain ⟨ems, hems, hgathered⟩ := Payload.gathered_eq_ofEmissions hs chunkWords k
    rw [hgrown, hpayload, hgathered]
    exact Batch.ordered_ofEmissions (hordered.sublist hems.sublist)
  · rw [hgrown, hpayload]
    exact Payload.before_gathered hs chunkWords hordered k m

end Faultless

/-- If events and triggers come in one order of time, so do the windows: no trigger is out of order
with an event of another window. Behind a window, triggers are kept only with an event that is no
later than they are. -/
theorem triggers_go_with_windows {options : ReaderOptions} {window : Window} {source : Source}
    {header : Header} (hwindow : options.window = .ok window) (hsource : source.IsFaultless)
    (hheader : (Header.read source).result = .ok header) (hformat : header.payloadFormat = .evt3)
    (hordered : source.emissions.Pairwise (·.time ≤ ·.time)) :
    ∃ (r last : Reader) (windows : List Batch),
      (Reader.openSource options source).result = .ok r ∧ r.Plays windows last ∧
      (∀ k, (r.after k).read.result = .ok (windows.getD k {})) ∧
      Batch.flatten windows = Batch.ofEmissions source.emissions ∧
      windows.Pairwise Batch.Before ∧ ∀ k, (r.after (k + 1)).HoldsBack := by
  obtain ⟨r, hopen, rfl, himplemented, hcarry, hdone, hpayload, hahead⟩ :=
    Reader.exists_ahead hwindow hsource hheader hformat
  have hfaultless := Header.isFaultless_of_read hsource
  have hinorder := Reader.inOrder_of_isFaultless hfaultless _ hpayload hcarry hordered
  have hevents := (Batch.ordered_ofEmissions hordered).events
  rw [Source.events_ofEmissions] at hevents
  have hcan : r.window.CanDivide source.events := Window.canDivide_of_pairwise hevents
  obtain ⟨windows, last, hplays⟩ := hahead.exists_plays himplemented hcan hdone
  have hreads := hplays.result_after himplemented hdone
  refine ⟨r, last, windows, hopen, hplays, hreads, ?_, hplays.pairwise_before hinorder hdone, ?_⟩
  · rw [Source.emissions, ofEmissions_emissions, ← batch_decodeFinal]
    exact (hplays.payload_over hpayload hfaultless hcarry hdone).batch
  · intro k
    rw [Reader.after_succ]
    exact ((hinorder.after k).window (hreads k)).1

/-- A recording in which triggers come at the time of an event, on either side of it, and behind the
last event. It is cut between the bytes of a word. -/
def fourTriggers : Source :=
  [.bytes Header.bare, .bytes [0x00, 0x80, 0x01, 0x60, 0x01, 0x20, 0x01], .interruption,
    .bytes [0xA1, 0x02, 0x60, 0x00, 0xA1, 0x02, 0x20, 0x01, 0xA1, 0x03, 0x20, 0x03, 0x60, 0x00,
      0xA1]]

theorem triggers_go_with_windows_of_fourTriggers :
    fourTriggers.emissions.Pairwise (·.time ≤ ·.time) ∧
      ∃ (r last : Reader) (windows : List Batch),
        (Reader.openSource { nEvents := some 1, chunkWords := 1 } fourTriggers).result = .ok r ∧
        r.Plays windows last ∧
        Batch.flatten windows = ⟨[⟨1, 1, 0, 0⟩, ⟨2, 2, 0, 0⟩, ⟨2, 3, 0, 0⟩],
          [⟨1, 1, 1⟩, ⟨2, 0, 1⟩, ⟨2, 1, 1⟩, ⟨3, 0, 1⟩]⟩ ∧
        windows.Pairwise Batch.Before ∧ ∀ k, (r.after (k + 1)).HoldsBack := by
  have hfaultless : fourTriggers.IsFaultless := by simp [fourTriggers, Source.IsFaultless]
  have hread := Header.read_of_bare fourTriggers.tail
  change Header.read fourTriggers = _ at hread
  have hemissions : fourTriggers.emissions = [.event ⟨1, 1, 0, 0⟩, .trigger ⟨1, 1, 1⟩,
      .trigger ⟨2, 0, 1⟩, .event ⟨2, 2, 0, 0⟩, .trigger ⟨2, 1, 1⟩, .event ⟨2, 3, 0, 0⟩,
      .trigger ⟨3, 0, 1⟩] := by
    rw [Source.emissions, hread]
    decide
  have hordered : fourTriggers.emissions.Pairwise (·.time ≤ ·.time) := by
    rw [hemissions]
    decide
  have hwindow : ({ nEvents := some 1, chunkWords := 1 } : ReaderOptions).window =
      .ok { mode := .nEvents, deltaT := 1000000000000, maxEvents := 1 } := by decide
  obtain ⟨r, last, windows, hopen, hplays, -, hall, hbefore, hholds⟩ :=
    triggers_go_with_windows hwindow hfaultless (by rw [hread]; rfl) (by decide) hordered
  rw [hemissions] at hall
  exact ⟨hordered, r, last, windows, hopen, hplays, hall, hbefore, hholds⟩

end EventCamera
