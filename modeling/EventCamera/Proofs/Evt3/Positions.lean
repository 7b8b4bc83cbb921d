import EventCamera.Proofs.Evt3.Fields
import EventCamera.Proofs.Evt3.Remainder
import Mathlib.Data.List.Basic
import Mathlib.Data.List.Induction
import Mathlib.Data.List.Infix

/-!
# What each position of a stream says

A reader goes through a stream word by word, and sometimes four words at once. Yet what it gives can
be told position by position: what stands at a position, together with the words behind it, says
what is given there, and the nearest words in front of it say at which time and in which row. The
reason is that the words within a vector group open no group and change no state, so that nothing
is lost by looking at each of them for itself.

## Main definitions

* `firstCounting` — the first position that counts
* `rowAt`, `timeAt` — the row and the time at a position, by the words in front of it
* `groupBits?` — the validity bits of a vector group at the front of some words
* `eventsAt`, `triggerAt?`, `opensNoGroup` — what is given, and what is dropped, at a position
* `StreamState.Reachable` — the states that a reader can come to

## Main results

* `Decoding.readAhead_reads` — reading ahead gives what each position says
* `StreamState.foldl_read_eq` — the state behind some words, by the nearest ones of each kind
* `decodeFinal_by_position` — what a whole stream gives
-/

namespace EventCamera

/-! ### The meaning of a position -/

section Meaning

variable (s : StreamState) (ws : List Word) (i : Nat)

/-- The first position that counts: that of the first word with bits 12 to 23 of a time, unless one
has been met before. Without such a word, it is the end. -/
def firstCounting : Nat := if s.started then 0 else ws.findIdx fun w => w.kind? = some .timeHigh

/-- The words that count in front of a position. -/
def countingBefore : List Word := (ws.take i).drop (firstCounting s ws)

/-- The nearest word of a kind, looking back from the end of a list. -/
def nearest? (kind : WordKind) (before : List Word) : Option Word :=
  before.reverse.find? fun w => w.kind? = some kind

/-- The row at a position. -/
def rowAt : UInt16 :=
  ((nearest? .addrY (countingBefore s ws i)).map Word.coordinate).getD s.row

/-- Bits 0 to 11 of the time at a position. -/
def lowerAt : Nat :=
  ((nearest? .timeLow (countingBefore s ws i)).map (·.payload.toNat)).getD s.lower.toNat

/-- Bits 12 to 23 of the time at a position. -/
def upperAt : Nat :=
  ((nearest? .timeHigh (countingBefore s ws i)).map (·.payload.toNat)).getD s.upper.toNat

/-- The number of times that a sequence of numbers goes down. -/
def stepsDown (ns : List Nat) : Nat := (ns.zip ns.tail).countP fun pair => pair.2 < pair.1

/-- The values that words give to bits 12 to 23 of the time. -/
def uppers (ws : List Word) : List Nat :=
  (ws.filter fun w => w.kind? = some .timeHigh).map (·.payload.toNat)

/-- The number of periods at a position: one more each time that bits 12 to 23 have gone down. -/
def periodAt : Nat :=
  s.period.toNat + stepsDown (s.upper.toNat :: uppers (countingBefore s ws i))

/-- The time at a position. -/
def timeAt : Nat := periodAt s ws i * 2 ^ 24 + upperAt s ws i * 2 ^ 12 + lowerAt s ws i

/-- The 32 validity bits of a vector group, if a list of words starts with a full one. -/
def groupBits? : List Word → Option Nat
  | b :: m :: n :: k :: _ =>
    if b.kind? = some .vectBaseX ∧ m.kind? = some .vect12 ∧ n.kind? = some .vect12 ∧
        k.kind? = some .vect8 then
      some (m.payload.toNat + n.payload.toNat * 2 ^ 12 + k.lowByte.toNat * 2 ^ 24)
    else none
  | _ => none

/-- The columns at which a list of words gives events by its first word: that of a single event, or
those that the validity bits of a full vector group mark, in ascending order. -/
def columns : List Word → List Nat
  | [] => []
  | w :: ahead =>
    if w.kind? = some .addrX then [w.coordinate.toNat]
    else
      match groupBits? (w :: ahead) with
      | some bits => ((List.range 32).filter bits.testBit).map (w.coordinate.toNat + ·)
      | none => []

/-- The events that are given at a position. -/
def eventsAt : List Event :=
  (columns (ws.drop i)).map fun x =>
    ⟨UInt64.ofNat (timeAt s ws i), UInt16.ofNat x, rowAt s ws i, (ws.getD i 0).flag⟩

/-- The trigger that is given at a position. -/
def triggerAt? : Option Trigger :=
  match ws[i]? with
  | some w =>
    if w.kind? = some .extTrigger then
      some ⟨UInt64.ofNat (timeAt s ws i), w.edge, w.channel⟩
    else none
  | none => none

/-- The word at a position is the base word of a vector group, but no full group starts there. -/
def opensNoGroup : Bool :=
  decide ((ws[i]?.bind Word.kind?) = some .vectBaseX) && (groupBits? (ws.drop i)).isNone

end Meaning

/-- The states that a reader can come to, having read any words. -/
inductive StreamState.Reachable : StreamState → Prop
  | start : Reachable {}
  | decode {s : StreamState} (h : Reachable s) (ws : List Word) : Reachable (decode s ws).state
  | decodeFinal {s : StreamState} (h : Reachable s) (ws : List Word) :
    Reachable (decodeFinal s ws).state

/-! ### Looking back -/

theorem nearest?_concat (kind : WordKind) (ws : List Word) (w : Word) :
    nearest? kind (ws ++ [w]) = if w.kind? = some kind then some w else nearest? kind ws := by
  simp only [nearest?, List.reverse_append, List.reverse_singleton, List.singleton_append,
    List.find?_cons]
  split <;> simp_all

theorem uppers_concat (ws : List Word) (w : Word) :
    uppers (ws ++ [w]) =
      uppers ws ++ if w.kind? = some .timeHigh then [w.payload.toNat] else [] := by
  simp only [uppers, List.filter_append, List.map_append]
  split <;> simp_all

/-- A last number is a step down if it is below the one in front of it. -/
theorem stepsDown_concat (first : Nat) (ns : List Nat) (n : Nat) :
    stepsDown (first :: ns ++ [n]) =
      stepsDown (first :: ns) + if n < ns.getLastD first then 1 else 0 := by
  induction ns generalizing first with
  | nil => simp [stepsDown, List.countP_cons]
  | cons m ns ih =>
    have hcons : ∀ ms : List Nat, stepsDown (first :: m :: ms) =
        stepsDown (m :: ms) + if m < first then 1 else 0 := by
      intro ms
      simp [stepsDown, List.countP_cons]
    rw [List.cons_append, List.cons_append, hcons, hcons, ← List.cons_append, ih]
    simp only [List.getLastD_cons]
    omega

/-- More words take no step down back. -/
theorem stepsDown_uppers_le (first : Nat) (ws more : List Word) :
    stepsDown (first :: uppers ws) ≤ stepsDown (first :: uppers (ws ++ more)) := by
  induction more using List.reverseRecOn with
  | nil => simp only [List.append_nil, Nat.le_refl]
  | append_singleton more w ih =>
    rw [← List.append_assoc, uppers_concat]
    split
    · rw [← List.cons_append, stepsDown_concat]
      omega
    · rwa [List.append_nil]

namespace StreamState

/-! ### The state behind some words -/

/-- The state behind a word. -/
def read (s : StreamState) (w : Word) : StreamState :=
  match w.kind? with
  | some .timeHigh => s.setUpper w.payload
  | some .timeLow => s.setLower w.payload
  | some .addrY => s.setRow w.coordinate
  | _ => s

variable {s : StreamState} {w : Word}

/-- The words of a vector group change no state. -/
theorem read_of_group
    (hw : w.kind? = some .vectBaseX ∨ w.kind? = some .vect12 ∨ w.kind? = some .vect8) :
    s.read w = s := by
  rcases hw with hw | hw | hw <;> simp [read, hw]

theorem foldl_read_of_vect12 {ws : List Word} (hws : ∀ w ∈ ws, w.kind? = some .vect12) :
    ws.foldl read s = s := by
  induction ws with
  | nil => rfl
  | cons w ws ih =>
    rw [List.forall_mem_cons] at hws
    rw [List.foldl_cons, read_of_group (.inr (.inl hws.1)), ih hws.2]

/-- A part of the state that is set by the words of one kind has the value of the nearest one. -/
theorem foldl_read_eq {β : Type} (part : StreamState → β) (kind : WordKind) (value : Word → β)
    (hset : ∀ s w, part (read s w) = if w.kind? = some kind then value w else part s)
    (s : StreamState) (ws : List Word) :
    part (ws.foldl read s) = ((nearest? kind ws).map value).getD (part s) := by
  induction ws using List.reverseRecOn with
  | nil => rfl
  | append_singleton ws w ih =>
    rw [List.foldl_append, List.foldl_cons, List.foldl_nil, hset, nearest?_concat]
    split
    · rfl
    · exact ih

theorem row_read (s : StreamState) (w : Word) :
    (s.read w).row = if w.kind? = some .addrY then w.coordinate else s.row := by
  rw [read]
  split <;> simp_all [setUpper, setLower, setRow]

theorem lower_read (s : StreamState) (w : Word) :
    (s.read w).lower.toNat =
      if w.kind? = some .timeLow then w.payload.toNat else s.lower.toNat := by
  rw [read]
  split <;> simp_all [setUpper, setLower, setRow]

theorem upper_read (s : StreamState) (w : Word) :
    (s.read w).upper.toNat =
      if w.kind? = some .timeHigh then w.payload.toNat else s.upper.toNat := by
  rw [read]
  split <;> simp_all [setUpper, setLower, setRow]

theorem period_read (s : StreamState) (w : Word) :
    (s.read w).period =
      if w.kind? = some .timeHigh ∧ w.payload.toNat < s.upper.toNat then s.period + 1
      else s.period := by
  rw [read]
  split <;> simp_all [setUpper, setLower, setRow, UInt32.lt_iff_toNat_lt]

/-- The upper bits behind some words are the last ones that these give. -/
theorem upper_foldl_read (s : StreamState) (ws : List Word) :
    (ws.foldl read s).upper.toNat = (uppers ws).getLastD s.upper.toNat := by
  induction ws using List.reverseRecOn with
  | nil => rfl
  | append_singleton ws w ih =>
    rw [List.foldl_append, List.foldl_cons, List.foldl_nil, upper_read, uppers_concat]
    split
    · rw [List.getLastD_concat]
    · rw [List.append_nil, ih]

/-- A period begins with each step down of the upper bits. -/
theorem period_foldl_read (s : StreamState) (ws : List Word) :
    (ws.foldl read s).period =
      s.period + UInt64.ofNat (stepsDown (s.upper.toNat :: uppers ws)) := by
  induction ws using List.reverseRecOn with
  | nil => simp [uppers, stepsDown]
  | append_singleton ws w ih =>
    rw [List.foldl_append, List.foldl_cons, List.foldl_nil, period_read, uppers_concat,
      upper_foldl_read, ih]
    by_cases hw : w.kind? = some .timeHigh
    · rw [if_pos hw, ← List.cons_append, stepsDown_concat]
      simp only [hw, true_and]
      split
      · rw [UInt64.ofNat_add, ← UInt64.add_assoc]
        rfl
      · rfl
    · rw [if_neg hw, if_neg (fun h => hw h.1), List.append_nil]

/-- The parts of a time stay within their bits. -/
theorem foldl_read_lt (hu : s.upper.toNat < 2 ^ 12) (hl : s.lower.toNat < 2 ^ 12)
    (ws : List Word) :
    (ws.foldl read s).upper.toNat < 2 ^ 12 ∧ (ws.foldl read s).lower.toNat < 2 ^ 12 := by
  induction ws using List.reverseRecOn with
  | nil => exact ⟨hu, hl⟩
  | append_singleton ws w ih =>
    rw [List.foldl_append, List.foldl_cons, List.foldl_nil, upper_read, lower_read]
    have := w.toNat_payload
    refine ⟨?_, ?_⟩ <;> split <;> omega

end StreamState

namespace Decoding

/-! ### Position by position -/

/-- What each position gives, by the state in front of it and the words from it on. -/
def byPosition {α : Type} (give : StreamState → List Word → List α) :
    StreamState → List Word → List α
  | _, [] => []
  | s, w :: ws => give s (w :: ws) ++ byPosition give (s.read w) ws

/-- The events that the first of some words gives. -/
def eventsOf (s : StreamState) (ws : List Word) : List Event :=
  (columns ws).map fun x => ⟨s.timestamp, UInt16.ofNat x, s.row, (ws.getD 0 0).flag⟩

/-- The trigger that the first of some words gives. -/
def triggersOf (s : StreamState) (ws : List Word) : List Trigger :=
  (ws.head?.filter fun w => w.kind? = some .extTrigger).toList.map fun w =>
    ⟨s.timestamp, w.edge, w.channel⟩

/-- The first of some words, if it is a base word that opens no group. -/
def droppedOf (_ : StreamState) (ws : List Word) : List Word :=
  (ws.head?.filter fun w => decide (w.kind? = some .vectBaseX) && (groupBits? ws).isNone).toList

/-- What a reader gives beyond what it had is what each position gives. -/
structure Reads (d : Decoding) (ws : List Word) (d' : Decoding) : Prop where
  events : d'.events.toList = d.events.toList ++ byPosition eventsOf d.state ws
  triggers : d'.triggers.toList = d.triggers.toList ++ byPosition triggersOf d.state ws
  malformed : d'.malformed = d.malformed + (byPosition droppedOf d.state ws).length

variable {d d' : Decoding} {w : Word} {ws : List Word}

theorem state_readWord (d : Decoding) (w : Word) : (d.readWord w).state = d.state.read w := by
  rw [readWord, StreamState.read]
  cases w.kind? with
  | none => rfl
  | some kind => cases kind <;> rfl

/-- The state that a reader comes to is that behind all the words, those of an open group included,
as these change nothing. -/
theorem state_readAhead (final : Bool) (d : Decoding) (ws : List Word) :
    (d.readAhead final ws).state = ws.foldl StreamState.read d.state := by
  fun_induction readAhead final d ws with
  | case1 d => rfl
  | case2 d w ws hw offset found _ ih =>
    rw [ih, List.foldl_cons, StreamState.read_of_group (.inl hw)]
    rfl
  | case3 d w hw m n k ws hcheck ih =>
    have hbehind := behindBase (m :: n :: k :: ws)
    rw [hcheck] at hbehind
    cases hbehind with
    | full hm hn hk =>
      simp only [List.foldl_cons, StreamState.read_of_group (.inl hw),
        StreamState.read_of_group (.inr (.inl hm)), StreamState.read_of_group (.inr (.inl hn)),
        StreamState.read_of_group (.inr (.inr hk))]
      exact ih
    | short hlength =>
      simp only [List.length_cons] at hlength
      omega
  | case4 d w hw ws _ _ _ ih =>
    rw [ih, List.foldl_cons, StreamState.read_of_group (.inl hw)]
    rfl
  | case5 d w hw ws hfew _ hcheck =>
    obtain ⟨-, hws⟩ := short_of_checkGroup hfew hcheck
    rw [List.foldl_cons, StreamState.read_of_group (.inl hw),
      StreamState.foldl_read_of_vect12 hws]
  | case6 d w ws _ ih => rw [ih, state_readWord, List.foldl_cons]

theorem groupBits?_of_spoilt {offset : Nat} {found : Word}
    (hcheck : checkGroup 1 dueKinds ws = some (offset, found)) : groupBits? (w :: ws) = none := by
  have hbehind := behindBase ws
  rw [hcheck] at hbehind
  rw [groupBits?.eq_def]
  split
  · rename_i hws
    rw [List.cons.injEq] at hws
    obtain ⟨-, rfl⟩ := hws
    cases hbehind <;> simp_all
  · rfl

theorem groupBits?_of_short (hlength : ws.length < 3) : groupBits? (w :: ws) = none := by
  match ws with
  | [] => rfl
  | [m] => rfl
  | [m, n] => rfl
  | _ :: _ :: _ :: _ =>
    simp only [List.length_cons] at hlength
    omega

/-- A full group gives the events of its base word's columns. -/
theorem groupEvents_eq (s : StreamState) {b m n k : Word} (hb : b.kind? = some .vectBaseX)
    (hcheck : checkGroup 1 dueKinds (m :: n :: k :: ws) = none) :
    groupEvents s b (groupMask m n k) = eventsOf s (b :: m :: n :: k :: ws) := by
  have hbehind := behindBase (m :: n :: k :: ws)
  rw [hcheck] at hbehind
  cases hbehind with
  | full hm hn hk =>
    have hcolumn (i : Nat) : UInt16.ofNat (b.coordinate.toNat + i) = b.coordinate + i.toUInt16 := by
      rw [UInt16.ofNat_add, UInt16.ofNat_toNat]
    have hx : ¬ b.kind? = some .addrX := by simp [hb]
    have hbits : groupBits? (b :: m :: n :: k :: ws) =
        some (m.payload.toNat + n.payload.toNat * 2 ^ 12 + k.lowByte.toNat * 2 ^ 24) :=
      if_pos ⟨hb, hm, hn, hk⟩
    rw [eventsOf, columns, if_neg hx, hbits]
    dsimp only
    rw [groupEvents, toNat_groupMask, List.map_map, ← List.filterMap_eq_map, List.filterMap_filter]
    congr 1
    funext i
    simp only [Function.comp_apply, hcolumn]
    rfl
  | short hlength =>
    simp only [List.length_cons] at hlength
    omega

/-- A position that gives nothing and changes no state. -/
theorem byPosition_skip {α : Type} {give : StreamState → List Word → List α} {s : StreamState}
    (hgive : give s (w :: ws) = []) (hread : s.read w = s) :
    byPosition give s (w :: ws) = byPosition give s ws := by
  rw [byPosition, hgive, hread, List.nil_append]

/-- The words of the later kinds of a vector group say nothing by themselves. -/
theorem Reads.later (h : Reads d ws d') (hw : w.kind? = some .vect12 ∨ w.kind? = some .vect8) :
    Reads d (w :: ws) d' := by
  have hread : d.state.read w = d.state := StreamState.read_of_group (.inr hw)
  have hbits : groupBits? (w :: ws) = none := by
    rw [groupBits?.eq_def]
    split
    · rename_i heq
      cases heq
      rcases hw with hw | hw <;> simp [hw]
    · rfl
  refine ⟨?_, ?_, ?_⟩
  · rw [byPosition_skip _ hread, h.events]
    rcases hw with hw | hw <;> simp [eventsOf, columns, hw, hbits]
  · rw [byPosition_skip _ hread, h.triggers]
    rcases hw with hw | hw <;> simp [triggersOf, hw]
  · rw [byPosition_skip _ hread, h.malformed]
    rcases hw with hw | hw <;> simp [droppedOf, hw]

/-- A base word that opens no group is dropped, and nothing else. -/
theorem Reads.drop {notice : Notice} (h : Reads (d.drop notice) ws d')
    (hw : w.kind? = some .vectBaseX) (hbits : groupBits? (w :: ws) = none) :
    Reads d (w :: ws) d' := by
  have hread : d.state.read w = d.state := StreamState.read_of_group (.inl hw)
  refine ⟨?_, ?_, ?_⟩
  · rw [byPosition_skip _ hread, h.events]
    · rfl
    · simp [eventsOf, columns, hw, hbits]
  · rw [byPosition_skip _ hread, h.triggers]
    · rfl
    · simp [triggersOf, hw]
  · have hdropped : droppedOf d.state (w :: ws) = [w] := by simp [droppedOf, hw, hbits]
    rw [byPosition, hdropped, hread, h.malformed, List.length_append, ← Nat.add_assoc]
    rfl

/-- The three words behind a base word are passed over as the words of a full group, or one by one:
it comes to the same. -/
theorem Reads.group {m n k : Word} (h : Reads (d.readGroup w m n k) ws d')
    (hw : w.kind? = some .vectBaseX) (hcheck : checkGroup 1 dueKinds (m :: n :: k :: ws) = none) :
    Reads d (w :: m :: n :: k :: ws) d' := by
  have hread : d.state.read w = d.state := StreamState.read_of_group (.inl hw)
  have hevents := groupEvents_eq d.state hw hcheck
  have hbehind := behindBase (m :: n :: k :: ws)
  rw [hcheck] at hbehind
  cases hbehind with
  | full hm hn hk =>
    have hbits : (groupBits? (w :: m :: n :: k :: ws)).isNone = false := by
      rw [groupBits?, if_pos ⟨hw, hm, hn, hk⟩]
      rfl
    obtain ⟨he, ht, hd⟩ := ((h.later (.inr hk)).later (.inl hn)).later (.inl hm)
    refine ⟨?_, ?_, ?_⟩
    · rw [byPosition, ← hevents, hread, he, readGroup, Array.toList_appendList, List.append_assoc]
    · rw [byPosition_skip _ hread, ht]
      · rfl
      · simp [triggersOf, hw]
    · rw [byPosition_skip _ hread, hd]
      · rfl
      · simp [droppedOf, hbits]
  | short hlength =>
    simp only [List.length_cons] at hlength
    omega

/-- A word that opens no group gives and changes what it does at its position. -/
theorem Reads.word (h : Reads (d.readWord w) ws d') (hw : ¬ w.kind? = some .vectBaseX) :
    Reads d (w :: ws) d' := by
  have hbits : groupBits? (w :: ws) = none := by
    rw [groupBits?.eq_def]
    split
    · rename_i heq
      cases heq
      exact if_neg fun h => hw h.1
    · rfl
  have hevents : (d.readWord w).events.toList = d.events.toList ++ eventsOf d.state (w :: ws) := by
    rw [readWord, eventsOf, columns, hbits]
    split <;> simp_all
  have htriggers : (d.readWord w).triggers.toList =
      d.triggers.toList ++ triggersOf d.state (w :: ws) := by
    rw [readWord, triggersOf]
    split <;> simp_all [Option.filter]
  have hdropped : droppedOf d.state (w :: ws) = [] := by simp [droppedOf, hw]
  have hmalformed : (d.readWord w).malformed = d.malformed := by
    rw [readWord]
    split <;> rfl
  refine ⟨?_, ?_, ?_⟩
  · rw [byPosition, h.events, hevents, state_readWord, List.append_assoc]
  · rw [byPosition, h.triggers, htriggers, state_readWord, List.append_assoc]
  · rw [byPosition, hdropped, List.nil_append, h.malformed, hmalformed, state_readWord]

/-- Reading ahead to the end of the stream gives what each position says. -/
theorem readAhead_reads (hg : d.group = .none) (ws : List Word) :
    Reads d ws (d.readAhead true ws) := by
  generalize hfinal : true = final
  fun_induction readAhead final d ws with
  | case1 d => exact ⟨by simp [byPosition], by simp [byPosition], rfl⟩
  | case2 d w ws hw offset found hcheck ih => exact (ih rfl).drop hw (groupBits?_of_spoilt hcheck)
  | case3 d w hw m n k ws hcheck ih => exact (ih hg).group hw hcheck
  | case4 d w hw ws hfew _ hcheck ih =>
    obtain ⟨hlength, -⟩ := short_of_checkGroup hfew hcheck
    exact (ih rfl).drop hw (groupBits?_of_short hlength)
  | case5 d w hw ws hfew hnot => exact absurd hfinal.symm hnot
  | case6 d w ws hw ih => exact (ih ((group_readWord d w).trans hg)).word hw

/-- The state in front of a position is that behind the words before it. -/
theorem byPosition_eq_flatMap {α : Type} (give : StreamState → List Word → List α)
    (s : StreamState) (ws : List Word) :
    byPosition give s ws =
      (List.range ws.length).flatMap fun i =>
        give ((ws.take i).foldl StreamState.read s) (ws.drop i) := by
  induction ws generalizing s with
  | nil => rfl
  | cons w ws ih =>
    rw [byPosition, ih, List.length_cons, List.range_succ_eq_map, List.flatMap_cons,
      List.flatMap_map]
    rfl

end Decoding

/-! ### Whole streams -/

/-- A position that gives one thing or none is counted if it gives one. -/
theorem length_flatMap_eq_countP {α β : Type} {give : α → List β} {p : α → Bool}
    (h : ∀ a, (give a).length = if p a then 1 else 0) (as : List α) :
    (as.flatMap give).length = as.countP p := by
  induction as with
  | nil => rfl
  | cons a as ih =>
    rw [List.flatMap_cons, List.length_append, ih, h, List.countP_cons, Nat.add_comm]

theorem wordsThatCount_eq_drop (s : StreamState) (ws : List Word) :
    wordsThatCount s ws = ws.drop (firstCounting s ws) := by
  rw [wordsThatCount, firstCounting]
  split
  · rfl
  · rw [List.dropWhile_eq_drop_findIdx_not]
    congr 2
    funext w
    by_cases hw : w.kind? = some .timeHigh <;> simp [hw]

/-- What is given from the first position that counts on. -/
theorem byPosition_wordsThatCount {α : Type} (give : StreamState → List Word → List α)
    (s : StreamState) (ws : List Word) :
    Decoding.byPosition give s (wordsThatCount s ws) =
      (List.range' (firstCounting s ws) (ws.length - firstCounting s ws)).flatMap fun i =>
        give ((countingBefore s ws i).foldl StreamState.read s) (ws.drop i) := by
  rw [wordsThatCount_eq_drop, Decoding.byPosition_eq_flatMap, List.length_drop,
    List.range'_eq_map_range, List.flatMap_map]
  congr 1
  funext i
  rw [countingBefore, List.drop_take, List.drop_drop, Nat.add_sub_cancel_left]

theorem wordsThatCount_eq_countingBefore (s : StreamState) (ws : List Word) :
    wordsThatCount s ws = countingBefore s ws ws.length := by
  rw [wordsThatCount_eq_drop, countingBefore, List.take_length]

/-- The parts of the time stay within their bits. -/
theorem StreamState.Reachable.lt {s : StreamState} (h : s.Reachable) :
    s.upper.toNat < 2 ^ 12 ∧ s.lower.toNat < 2 ^ 12 := by
  induction h with
  | start => exact ⟨by decide, by decide⟩
  | decode _ ws ih =>
    rw [EventCamera.decode, Decoding.state_readAhead]
    exact StreamState.foldl_read_lt ih.1 ih.2 _
  | decodeFinal _ ws ih =>
    rw [EventCamera.decodeFinal, Decoding.state_readAhead]
    exact StreamState.foldl_read_lt ih.1 ih.2 _

section Position

variable {s : StreamState} {ws : List Word} {i : Nat}

theorem row_foldl_countingBefore :
    ((countingBefore s ws i).foldl StreamState.read s).row = rowAt s ws i :=
  StreamState.foldl_read_eq StreamState.row .addrY Word.coordinate StreamState.row_read s _

theorem lower_foldl_countingBefore :
    ((countingBefore s ws i).foldl StreamState.read s).lower.toNat = lowerAt s ws i :=
  StreamState.foldl_read_eq (·.lower.toNat) .timeLow (·.payload.toNat) StreamState.lower_read s _

theorem upper_foldl_countingBefore :
    ((countingBefore s ws i).foldl StreamState.read s).upper.toNat = upperAt s ws i :=
  StreamState.foldl_read_eq (·.upper.toNat) .timeHigh (·.payload.toNat) StreamState.upper_read s _

theorem period_foldl_countingBefore :
    ((countingBefore s ws i).foldl StreamState.read s).period = UInt64.ofNat (periodAt s ws i) := by
  rw [StreamState.period_foldl_read, periodAt, UInt64.ofNat_add, UInt64.ofNat_toNat]

theorem timestamp_foldl_countingBefore (h : s.Reachable) :
    ((countingBefore s ws i).foldl StreamState.read s).timestamp =
      UInt64.ofNat (timeAt s ws i) := by
  obtain ⟨hu, hl⟩ := StreamState.foldl_read_lt h.lt.1 h.lt.2 (countingBefore s ws i)
  apply UInt64.toNat.inj
  rw [StreamState.toNat_timestamp hu hl, period_foldl_countingBefore, upper_foldl_countingBefore,
    lower_foldl_countingBefore, UInt64.toNat_ofNat', UInt64.toNat_ofNat', timeAt]
  omega

theorem isPrefix_countingBefore (s : StreamState) (ws : List Word) {i j : Nat} (hij : i ≤ j) :
    countingBefore s ws i <+: countingBefore s ws j :=
  List.IsPrefix.drop (List.take_prefix_take_left hij) _

/-- Periods are counted up. -/
theorem periodAt_le_periodAt (s : StreamState) (ws : List Word) {i j : Nat} (hij : i ≤ j) :
    periodAt s ws i ≤ periodAt s ws j := by
  obtain ⟨more, hmore⟩ := isPrefix_countingBefore s ws hij
  rw [periodAt, periodAt, ← hmore]
  exact Nat.add_le_add_left (stepsDown_uppers_le _ _ more) _

/-- Up to 2⁴⁰ periods, no bit of a time is lost. -/
theorem timeAt_lt (h : s.Reachable) {j : Nat} (hij : i ≤ j) (hperiod : periodAt s ws j < 2 ^ 40) :
    timeAt s ws i < 2 ^ 64 := by
  have hparts := StreamState.foldl_read_lt h.lt.1 h.lt.2 (countingBefore s ws i)
  rw [upper_foldl_countingBefore, lower_foldl_countingBefore] at hparts
  have := periodAt_le_periodAt s ws hij
  rw [timeAt]
  omega

theorem eventsOf_countingBefore (h : s.Reachable) :
    Decoding.eventsOf ((countingBefore s ws i).foldl StreamState.read s) (ws.drop i) =
      eventsAt s ws i := by
  rw [Decoding.eventsOf, timestamp_foldl_countingBefore h, row_foldl_countingBefore, eventsAt]
  simp only [List.getD_eq_getElem?_getD, List.getElem?_drop, Nat.add_zero]

theorem triggersOf_countingBefore (h : s.Reachable) :
    Decoding.triggersOf ((countingBefore s ws i).foldl StreamState.read s) (ws.drop i) =
      (triggerAt? s ws i).toList := by
  rw [Decoding.triggersOf, timestamp_foldl_countingBefore h, List.head?_drop, triggerAt?]
  cases ws[i]? with
  | none => rfl
  | some w => by_cases hw : w.kind? = some .extTrigger <;> simp [Option.filter, hw]

theorem droppedOf_countingBefore (s' : StreamState) :
    (Decoding.droppedOf s' (ws.drop i)).length = if opensNoGroup ws i then 1 else 0 := by
  rw [Decoding.droppedOf, List.head?_drop, opensNoGroup]
  cases ws[i]? with
  | none => rfl
  | some w =>
    rw [Option.bind_some, Option.filter_some]
    split <;> rfl

end Position

/-- What a stream gives can be told from the positions of its words: each gives its own events or
trigger, with the row and the time that the nearest words in front of it say. Up to 2⁴⁰ periods, the
times are exact. -/
theorem decodeFinal_by_position {s : StreamState} (hs : s.Reachable) (ws : List Word) :
    let first := firstCounting s ws
    let positions := List.range' first (ws.length - first)
    let d := decodeFinal s ws
    (d.outcome ws.length).consumed = ws.length ∧
      d.events.toList = positions.flatMap (eventsAt s ws) ∧
      d.triggers.toList = positions.filterMap (triggerAt? s ws) ∧
      d.malformed = positions.countP (opensNoGroup ws) ∧
      d.state.row = rowAt s ws ws.length ∧
      d.state.timestamp = UInt64.ofNat (timeAt s ws ws.length) ∧
      (periodAt s ws ws.length < 2 ^ 40 →
        ∀ i ≤ ws.length, (UInt64.ofNat (timeAt s ws i)).toNat = timeAt s ws i) := by
  intro first positions d
  obtain ⟨hevents, htriggers, hmalformed⟩ :=
    Decoding.readAhead_reads (d := { state := s }) rfl (wordsThatCount s ws)
  have hstate : d.state = (countingBefore s ws ws.length).foldl StreamState.read s := by
    rw [← wordsThatCount_eq_countingBefore]
    exact Decoding.state_readAhead true { state := s } (wordsThatCount s ws)
  refine ⟨consumed_decodeFinal s ws, ?_, ?_, ?_, ?_, ?_, ?_⟩
  · rw [byPosition_wordsThatCount] at hevents
    refine hevents.trans (List.flatMap_congr fun i _ => ?_)
    exact eventsOf_countingBefore hs
  · rw [byPosition_wordsThatCount] at htriggers
    rw [List.filterMap_eq_flatMap_toList]
    refine htriggers.trans (List.flatMap_congr fun i _ => ?_)
    exact triggersOf_countingBefore hs
  · rw [byPosition_wordsThatCount] at hmalformed
    refine (hmalformed.trans (Nat.zero_add _)).trans (length_flatMap_eq_countP (fun i => ?_) _)
    exact droppedOf_countingBefore _
  · rw [hstate]
    exact row_foldl_countingBefore
  · rw [hstate]
    exact timestamp_foldl_countingBefore hs
  · intro hperiod i hi
    exact UInt64.toNat_ofNat_of_lt' (timeAt_lt hs hi hperiod)

/-- A base word behind another one, a full group, a step down of the time, and a group that the end
of the stream cuts off. -/
theorem decodeFinal_by_position_of_nestedBases :
    let s := (decode {} [0x8005, 0x6007]).state
    let ws : List Word :=
      [0x0003, 0x3002, 0x3804, 0x4001, 0x4000, 0x5080, 0x8001, 0xA101, 0x3001, 0x4001]
    let d := decodeFinal s ws
    d.events.toList = [⟨0x5007, 4, 3, 1⟩, ⟨0x5007, 35, 3, 1⟩] ∧
      d.triggers.toList = [⟨0x1001007, 1, 1⟩] ∧ d.malformed = 2 ∧
      (UInt64.ofNat (timeAt s ws 10)).toNat = 0x1001007 := by
  intro s ws d
  obtain ⟨-, hevents, htriggers, hmalformed, -, -, hexact⟩ :=
    decodeFinal_by_position (.decode .start [0x8005, 0x6007]) ws
  exact ⟨hevents.trans (by decide), htriggers.trans (by decide), hmalformed.trans (by decide),
    (hexact (by decide) 10 (by decide)).trans (by decide)⟩

end EventCamera
