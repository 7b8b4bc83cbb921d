import EventCamera.Proofs.Evt3.Drift
import Mathlib.Data.List.Basic

/-!
# What a stream says of each event

As long as events follow each other within a period, a stream says of each event what has changed
since the one before it. A reader counts a period when bits 12 to 23 of the time go down, so that
all it can miss is a period that begins between two events in which these bits are the same. Such
events are almost a period apart, and only in front of the second one is there a bridge.

## Main definitions

* `Event.withPrevious` — the events of a list, each with the one before it
* `Event.changes` — the words that say what has changed
* `Event.HidesPeriod` — a period has begun that these words do not tell
* `Event.bridgeWords` — the words that tell it
* `Event.Close` — an event less than a period behind the one before it

## Main results

* `Trail.needsBridge_behind` — a bridge is needed only where a period is hidden
* `Trail.encode_behind` — the words of one more event
* `words_of_close_events` — the words of a stream
-/

namespace EventCamera

namespace Event

/-- Bits 0 to 11 of the time. -/
def lower (e : Event) : Nat := e.t.toNat % 2 ^ 12

/-- The events of a list, each with the one before it. -/
def withPrevious (es : List Event) : List (Option Event × Event) := (none :: es.map some).zip es

/-- The word that says a field of an event, unless the event before has the same value in it. -/
def change (previous : Option Event) (e : Event) (field : Event → Nat) (word : Word) : List Word :=
  if previous.map field = some (field e) then [] else [word]

/-- The words that say what has changed since the event before, and the event itself. -/
def changes (role : CameraRole) (previous : Option Event) (e : Event) : List Word :=
  change previous e upper (Word.timeHigh (Trail.upperOf e.t)) ++
    change previous e lower (Word.timeLow (Trail.lowerOf e.t)) ++
    change previous e (·.y.toNat) (Word.addrY e.y role) ++
    [Word.addrX e.x e.p]

/-- A period has begun since the event before, though bits 12 to 23 of the time are the same. -/
def HidesPeriod (previous : Option Event) (e : Event) : Prop :=
  ∃ p ∈ previous, p.period < e.period ∧ p.upper = e.upper

instance (previous : Option Event) (e : Event) : Decidable (HidesPeriod previous e) := by
  unfold HidesPeriod
  infer_instance

/-- The words that tell a hidden period: bits 12 to 23 go down once, and up to where they were. -/
def bridgeWords (previous : Option Event) (e : Event) : List Word :=
  if HidesPeriod previous e then
    [Word.timeHigh 0x0FFF, Word.timeHigh 0] ++
      if e.upper = 0 then [] else [Word.timeHigh (Trail.upperOf e.t)]
  else []

/-- An event is not earlier than the one before it, and less than a period behind it. The first one
is in the first period. -/
def Close : Option Event → Event → Prop
  | none, e => e.t.toNat < 2 ^ 24
  | some p, e => p.t ≤ e.t ∧ e.t.toNat < p.t.toNat + 2 ^ 24

variable {previous : Option Event} {e p : Event} {es : List Event}

/-- A hidden period takes almost as long as a whole one. -/
theorem HidesPeriod.lt (h : HidesPeriod (some p) e) :
    p.t.toNat + (2 ^ 24 - 2 ^ 12) < e.t.toNat := by
  obtain ⟨q, hq, hperiod, hupper⟩ := h
  cases hq
  simp only [period, upper] at hperiod hupper
  omega

/-- An event has none before it or is one of two neighbours. -/
theorem withPrevious_cons (e : Event) (es : List Event) :
    withPrevious (e :: es) = (none, e) :: ((e :: es).zip es).map (Prod.map some id) := by
  rw [withPrevious, List.zip_cons_cons, ← List.zip_map_left]

/-- Events in order that follow each other within a period are close to those before them. -/
theorem close_of_mem_withPrevious (hordered : es.Pairwise (·.t ≤ ·.t))
    (hfirst : ∀ e ∈ es.head?, e.t.toNat < 2 ^ 24)
    (hclose : ∀ pair ∈ es.zip es.tail, pair.2.t.toNat < pair.1.t.toNat + 2 ^ 24) :
    ∀ pair ∈ withPrevious es, Close pair.1 pair.2 := by
  cases es with
  | nil => exact nofun
  | cons e es =>
    rw [withPrevious_cons, List.forall_mem_cons, List.forall_mem_map]
    refine ⟨hfirst e rfl, ?_⟩
    rintro ⟨p, next⟩ hmem
    refine ⟨?_, hclose _ hmem⟩
    obtain ⟨i, hi, hpair⟩ := List.getElem_of_mem hmem
    rw [List.getElem_zip, Prod.mk.injEq] at hpair
    obtain ⟨rfl, rfl⟩ := hpair
    rw [List.length_zip, List.length_cons] at hi
    exact List.pairwise_iff_getElem.1 hordered i (i + 1) (by simp; omega) (by simp; omega)
      (Nat.lt_succ_self i)

/-- Nothing is hidden between events that follow each other within a period less 4096
microseconds. -/
theorem not_hidesPeriod_of_mem_withPrevious
    (hclose : ∀ pair ∈ es.zip es.tail, pair.2.t.toNat ≤ pair.1.t.toNat + (2 ^ 24 - 2 ^ 12)) :
    ∀ pair ∈ withPrevious es, ¬ HidesPeriod pair.1 pair.2 := by
  cases es with
  | nil => exact nofun
  | cons e es =>
    rw [withPrevious_cons, List.forall_mem_cons, List.forall_mem_map]
    refine ⟨by simp [HidesPeriod], ?_⟩
    intro pair hmem hhides
    exact Nat.not_lt.2 (hclose pair hmem) hhides.lt

end Event

namespace Trail

/-- What the stream said last of a field. -/
def last (previous : Option Event) (field : Event → Nat) : Int :=
  (previous.map fun p => (field p : Int)).getD (-1)

/-- What the stream said last behind an event, or before the first one. -/
def behind (previous : Option Event) : Trail where
  upper := last previous Event.upper
  lower := last previous Event.lower
  row := last previous (·.y.toNat)
  period := (previous.map fun p => periodOf p.t).getD 0

variable {previous : Option Event} {e : Event}

/-- The period that the stream has told is not behind that of the next event, and at most one in
front of it. -/
theorem period_behind (h : Event.Close previous e) :
    (behind previous).period.toNat ≤ e.period ∧ e.period ≤ (behind previous).period.toNat + 1 := by
  cases previous with
  | none =>
    have hlt : e.t.toNat < 2 ^ 24 := h
    simp only [behind, Event.period, Option.map_none, Option.getD_none, UInt64.toNat_zero]
    omega
  | some p =>
    obtain ⟨hle, hlt⟩ := h
    rw [UInt64.le_iff_toNat_le] at hle
    simp only [behind, Event.period, Option.map_some, Option.getD_some, toNat_periodOf]
    omega

theorem advance_behind (h : Event.Close previous e) :
    (behind previous).advance e = behind (some e) := by
  obtain ⟨hle, -⟩ := period_behind h
  have hperiod : (behind previous).period ≤ periodOf e.t := by
    rw [UInt64.le_iff_toNat_le, toNat_periodOf]
    exact hle
  rw [advance, behind, Trail.mk.injEq]
  refine ⟨congrArg Int.ofNat (toNat_upperOf _), congrArg Int.ofNat (toNat_lowerOf _), rfl, ?_⟩
  exact if_pos hperiod

theorem periodOf_lt_iff {p : Event} : periodOf p.t < periodOf e.t ↔ p.period < e.period := by
  rw [UInt64.lt_iff_toNat_lt, toNat_periodOf, toNat_periodOf]
  rfl

/-- A close event in another period is in the next one. -/
theorem periodOf_sub_eq_one {p : Event} (h : Event.Close (some p) e)
    (hlater : p.period < e.period) :
    periodOf e.t - periodOf p.t = 1 := by
  obtain ⟨-, hlt⟩ := h
  apply UInt64.toNat.inj
  rw [UInt64.toNat_sub_of_le _ _ (UInt64.le_of_lt (periodOf_lt_iff.2 hlater)), toNat_periodOf,
    toNat_periodOf, UInt64.toNat_one]
  simp only [Event.period] at hlater
  omega

/-- A bridge is needed only where a period is hidden. -/
theorem needsBridge_behind (h : Event.Close previous e) :
    (behind previous).needsBridge e.t = true ↔ Event.HidesPeriod previous e := by
  cases previous with
  | none =>
    -- The first event is in the first period.
    have hperiod : ¬ (0 : UInt64) < periodOf e.t := by
      rw [UInt64.lt_iff_toNat_lt, toNat_periodOf, Nat.div_eq_of_lt h]
      exact Nat.lt_irrefl 0
    simp [needsBridge, behind, Event.HidesPeriod, hperiod]
  | some p =>
    have hdown : ((upperOf e.t).toNat : Int) < last (some p) Event.upper ↔ e.upper < p.upper := by
      rw [toNat_upperOf]
      exact Int.ofNat_lt
    simp only [needsBridge, behind, Option.map_some, Option.getD_some, periodOf_lt_iff, hdown,
      Event.HidesPeriod, Option.mem_some_iff, exists_eq_left', Bool.and_eq_true, decide_eq_true_eq,
      Bool.not_eq_true', Bool.and_eq_false_iff, beq_eq_false_iff_ne, decide_eq_false_iff_not]
    refine and_congr_right fun hlater => ?_
    have hone := periodOf_sub_eq_one h hlater
    obtain ⟨hle, hlt⟩ := h
    rw [UInt64.le_iff_toNat_le] at hle
    -- In the next period, bits 12 to 23 cannot have gone up within less than a period.
    simp only [hone, ne_eq, not_true_eq_false, false_or, Event.period, Event.upper] at hlater ⊢
    omega

/-- A field is said unless it is the same as before. -/
theorem update_last (previous : Option Event) (field : Event → Nat) {new : UInt16}
    (hnew : new.toNat = field e) (word : Word) :
    update (last previous field) new word = Event.change previous e field word := by
  rw [update, Event.change, hnew]
  cases previous with
  | none => simp [last]
  | some p =>
    simp only [last, Option.map_some, Option.getD_some, Int.natCast_inj, Option.some_inj]
    exact if_congr eq_comm rfl rfl

/-- Behind a bridge, bits 12 to 23 are said unless they are zero, though they are the same as before
the bridge. -/
theorem bridge_append_update (h : Event.Close previous e) (hhides : Event.HidesPeriod previous e) :
    bridge (periodOf e.t - (behind previous).period).toNat ++
        update 0 (upperOf e.t) (Word.timeHigh (upperOf e.t)) =
      Event.bridgeWords previous e ++
        Event.change previous e Event.upper (Word.timeHigh (upperOf e.t)) := by
  have hwords : Event.bridgeWords previous e = [Word.timeHigh 0x0FFF, Word.timeHigh 0] ++
      if e.upper = 0 then [] else [Word.timeHigh (upperOf e.t)] := if_pos hhides
  have hzero : ((upperOf e.t).toNat : Int) = 0 ↔ e.upper = 0 := by
    rw [toNat_upperOf]
    exact Int.natCast_eq_zero
  have hupdate : update 0 (upperOf e.t) (Word.timeHigh (upperOf e.t)) =
      if e.upper = 0 then [] else [Word.timeHigh (upperOf e.t)] := if_congr hzero rfl rfl
  obtain ⟨p, rfl, hlater, hsame⟩ := hhides
  have hperiod : (behind (some p)).period = periodOf p.t := rfl
  have hchange : Event.change (some p) e Event.upper (Word.timeHigh (upperOf e.t)) = [] :=
    if_pos (congrArg some hsame)
  rw [hwords, hupdate, hchange, hperiod, periodOf_sub_eq_one h hlater, List.append_nil]
  rfl

/-- The words of one more event say what has changed, behind a bridge over a hidden period. -/
theorem encode_behind (h : Event.Close previous e) (role : CameraRole) :
    (behind previous).encode role e =
      Event.bridgeWords previous e ++ Event.changes role previous e := by
  have hupper := update_last previous Event.upper (toNat_upperOf e.t)
  have hlower := update_last previous Event.lower (toNat_lowerOf e.t)
  have hrow := update_last previous (e := e) (·.y.toNat) rfl
  have hfront :
      (if (behind previous).needsBridge e.t then
          bridge (periodOf e.t - (behind previous).period).toNat else []) ++
        update (if (behind previous).needsBridge e.t then 0 else (behind previous).upper)
          (upperOf e.t) (Word.timeHigh (upperOf e.t)) =
      Event.bridgeWords previous e ++
        Event.change previous e Event.upper (Word.timeHigh (upperOf e.t)) := by
    by_cases hhides : Event.HidesPeriod previous e
    · simp only [(needsBridge_behind h).2 hhides, if_true]
      exact bridge_append_update h hhides
    · have hno : ¬ (behind previous).needsBridge e.t = true := by rwa [needsBridge_behind h]
      simp only [hno, Bool.false_eq_true, if_false, List.nil_append, Event.bridgeWords, hhides]
      exact hupper _
  simp only [encode, hfront, Event.changes, List.append_assoc]
  rw [← hlower, ← hrow]
  rfl

end Trail

namespace Encoder

theorem toList_words_encode_cons (encoder : Encoder) (e : Event) (es : List Event) :
    (encoder.encode (e :: es)).words.toList =
      encoder.trail.encode encoder.role e ++ ((encoder.advance e).encode es).words.toList := by
  have hone : (encoder.encode [e]).words.toList = encoder.trail.encode encoder.role e := by
    simp [encode, Encoded.push]
  rw [← List.singleton_append, encode_append, Array.toList_append, hone]
  rfl

/-- The words of events that are close to each other, behind those of the event before them. -/
theorem words_encode_behind {role : CameraRole} {previous : Option Event} {es : List Event}
    (h : ∀ pair ∈ (previous :: es.map some).zip es, Event.Close pair.1 pair.2)
    (lastTime : Option UInt64) :
    (encode { role, trail := .behind previous, lastTime } es).words.toList =
      ((previous :: es.map some).zip es).flatMap fun pair =>
        Event.bridgeWords pair.1 pair.2 ++ Event.changes role pair.1 pair.2 := by
  induction es generalizing previous lastTime with
  | nil => rfl
  | cons e es ih =>
    rw [List.zip_cons_cons, List.forall_mem_cons] at h
    obtain ⟨hclose, hrest⟩ := h
    -- The event is the one before those that are left.
    have hadvance : advance { role, trail := .behind previous, lastTime } e =
        { role, trail := .behind (some e), lastTime := some e.t } := by
      rw [advance, Trail.advance_behind hclose]
    rw [toList_words_encode_cons, hadvance, ih hrest, Trail.encode_behind hclose]
    rfl

end Encoder

/-- Events in order, each less than a period behind the one before it, are written as what changes
from one to the next, with nothing in front but a bridge over a hidden period. That takes a gap of
more than a period less 4096 microseconds. -/
theorem words_of_close_events (role : CameraRole) (es : List Event)
    (hordered : es.Pairwise (·.t ≤ ·.t)) (hfirst : ∀ e ∈ es.head?, e.t.toNat < 2 ^ 24)
    (hclose : ∀ pair ∈ es.zip es.tail, pair.2.t.toNat < pair.1.t.toNat + 2 ^ 24) :
    let words := (Encoder.encode { role } es).words.toList
    words = (Event.withPrevious es).flatMap (fun pair =>
        Event.bridgeWords pair.1 pair.2 ++ Event.changes role pair.1 pair.2) ∧
      ((∀ pair ∈ es.zip es.tail, pair.2.t.toNat ≤ pair.1.t.toNat + (2 ^ 24 - 2 ^ 12)) →
        words = (Event.withPrevious es).flatMap fun pair => Event.changes role pair.1 pair.2) := by
  intro words
  have hpairs : ∀ pair ∈ (none :: es.map some).zip es, Event.Close pair.1 pair.2 :=
    Event.close_of_mem_withPrevious hordered hfirst hclose
  have hwords : words = (Event.withPrevious es).flatMap fun pair =>
      Event.bridgeWords pair.1 pair.2 ++ Event.changes role pair.1 pair.2 :=
    Encoder.words_encode_behind hpairs none
  refine ⟨hwords, ?_⟩
  intro hcloser
  rw [hwords]
  apply List.flatMap_congr
  intro pair hpair
  rw [Event.bridgeWords, if_neg (Event.not_hidesPeriod_of_mem_withPrevious hcloser pair hpair),
    List.nil_append]

/-- The second event begins a period that its own words tell. The third begins one that only a
bridge tells, which leaves bits 12 to 23 where they are to be. -/
theorem words_of_close_events_with_bridge :
    let es : List Event := [⟨0xFFF800, 7, 4, 1⟩, ⟨0x1000800, 7, 4, 0⟩, ⟨0x20007FF, 9, 4, 0⟩]
    es.Pairwise (·.t ≤ ·.t) ∧
      (∀ pair ∈ es.zip es.tail, pair.2.t.toNat < pair.1.t.toNat + 2 ^ 24) ∧
      (Encoder.encode {} es).words.toList =
        [0x8FFF, 0x6800, 0x0004, 0x2807, 0x8000, 0x2007, 0x8FFF, 0x8000, 0x67FF, 0x2009] := by
  intro es
  have hordered : es.Pairwise (·.t ≤ ·.t) := by decide
  have hclose : ∀ pair ∈ es.zip es.tail, pair.2.t.toNat < pair.1.t.toNat + 2 ^ 24 := by decide
  obtain ⟨hwords, -⟩ := words_of_close_events .master es hordered (by decide) hclose
  exact ⟨hordered, hclose, hwords.trans (by decide)⟩

/-- Two events that are a microsecond less than a period apart, with the same bits 12 to 23. What
has changed does not tell them from events of one period, and there is a bridge between them. -/
theorem words_of_hidden_period :
    let es : List Event := [⟨0x5800, 0, 0, 0⟩, ⟨0x10057FF, 0, 0, 0⟩]
    let words := (Encoder.encode {} es).words.toList
    es.Pairwise (·.t ≤ ·.t) ∧ (∀ e ∈ es.head?, e.t.toNat < 2 ^ 24) ∧
      (∀ pair ∈ es.zip es.tail, pair.2.t.toNat < pair.1.t.toNat + 2 ^ 24) ∧
      words = [0x8005, 0x6800, 0x0000, 0x2000, 0x8FFF, 0x8000, 0x8005, 0x67FF, 0x2000] ∧
      words ≠ (Event.withPrevious es).flatMap
        fun pair => Event.changes .master pair.1 pair.2 := by
  decide

end EventCamera
