import EventCamera.Proofs.Evt3.Chunks
import EventCamera.Proofs.Evt3.Remainder
import EventCamera.Proofs.Evt3.VectorGroups

/-!
# Words held back for the next chunk

A reader of words uses up all of them, unless they end within a vector group. A base word is due in
no group: it breaks off the one that is open in front of it, so that none is hidden behind another,
and it opens a group of its own, which only the words due behind it leave open. At the end of the
list it is held back with these words, of which there are two at most, as if they had not been read.
So what is held back from chunk to chunk does not grow.

## Main definitions

* `IsCutGroup` — the words of a vector group that lacks some
* `EndsWithinGroup` — a list of words ends with such words, behind the first time
* `Payload.newWords`, `Payload.heldBack` — the words that a call adds, and those that the calls so
  far have not used up

## Main results

* `Decoding.started_foldl_feed_iff` — the words that make a reader meet a time
* `Decoding.foldl_feed_of_isCutGroup` — a base word breaks off a group and opens its own
* `EndsWithinGroup.agrees` — words that are held back change nothing but the open group
* `consumed_lt_iff` — all words are used up unless they end within a group
* `Payload.heldBack_eq` — the open group of a payload is made of the words held back
* `words_held_back` — what is held back, of any words and between any two calls
-/

namespace EventCamera

/-- The words of a vector group that lacks some: a base word, and at most two words with twelve
validity bits behind it. -/
def IsCutGroup : List Word → Prop
  | [] => False
  | b :: later =>
    b.kind? = some .vectBaseX ∧ later.length ≤ 2 ∧ ∀ w ∈ later, w.kind? = some .vect12

instance : DecidablePred IsCutGroup
  | [] => inferInstanceAs (Decidable False)
  | _ :: later =>
    -- The words of the list are gone through, rather than all words that there are.
    have : Decidable (∀ w ∈ later, w.kind? = some .vect12) := List.decidableBAll _ later
    inferInstanceAs (Decidable (_ ∧ _ ∧ _))

namespace IsCutGroup

variable {held : List Word}

theorem exists_cons (h : IsCutGroup held) : ∃ b later, held = b :: later := by
  cases held with
  | nil => exact h.elim
  | cons b later => exact ⟨b, later, rfl⟩

theorem length_pos (h : IsCutGroup held) : 1 ≤ held.length := by
  obtain ⟨b, later, rfl⟩ := h.exists_cons
  simp

theorem length_le (h : IsCutGroup held) : held.length ≤ 3 := by
  obtain ⟨b, later, rfl⟩ := h.exists_cons
  exact Nat.succ_le_succ h.2.1

theorem kind?_ne_timeHigh (h : IsCutGroup held) {w : Word} (hw : w ∈ held) :
    w.kind? ≠ some .timeHigh := by
  obtain ⟨b, later, rfl⟩ := h.exists_cons
  obtain ⟨hb, -, hlater⟩ := h
  rcases List.mem_cons.1 hw with rfl | hw
  · simp [hb]
  · simp [hlater w hw]

end IsCutGroup

/-- A list of words ends within a vector group: behind `rest`, the words `held` are those of a group
that lacks some. A time has been met by then, within `rest` if not before. -/
structure EndsWithinGroup (s : StreamState) (rest held : List Word) : Prop where
  isCutGroup : IsCutGroup held
  started : (decode s (rest ++ held)).state.started = true
  behindTime : s.started = false → ∃ w ∈ rest, w.kind? = some .timeHigh

/-! ### Single words -/

namespace Decoding

variable {d : Decoding} {w b : Word} {later : List Word}

/-- Only a word with bits 12 to 23 of a time makes a reader meet one. -/
theorem started_feed_iff :
    (d.feed w).state.started = true ↔
      d.state.started = true ∨ w.kind? = some .timeHigh := by
  constructor
  · intro h
    by_contra hnot
    obtain ⟨hs, hw⟩ := not_or.1 hnot
    -- Before the first time, any other word is passed over.
    have hsame : d.feed w = d := by simp [feed, hs, hw]
    exact hs (hsame ▸ h)
  · rintro (hs | hw)
    · exact started_feed hs w
    · cases hg : d.group <;> simp [feed, feedPlain, readWord, drop, hg, hw]

theorem started_foldl_feed_iff {ws : List Word} :
    (ws.foldl feed d).state.started = true ↔
      d.state.started = true ∨ ∃ w ∈ ws, w.kind? = some .timeHigh := by
  induction ws generalizing d with
  | nil => simp
  | cons w ws ih => rw [List.foldl_cons, ih, started_feed_iff, List.exists_mem_cons_iff, or_assoc]

/-- The words of an open group are a base word and the words due behind it. -/
theorem Sound.isCutGroup (h : d.Sound) (hg : d.group ≠ .none) :
    d.state.started = true ∧ IsCutGroup d.group.words := by
  cases hgroup : d.group with
  | none => exact absurd hgroup hg
  | base b | base12 b m | base24 b m n =>
    simp only [Sound, hgroup] at h
    simp [IsCutGroup, OpenGroup.words, h]

/-- A base word breaks off the open group and opens its own, which stays open behind the words that
are due. -/
theorem foldl_feed_of_isCutGroup (hs : d.state.started = true) (hcut : IsCutGroup (b :: later)) :
    (b :: later).foldl feed d = { d.breakOff b with group := .ofBase b later } := by
  obtain ⟨hb, hlength, hlater⟩ := hcut
  have hstarted : (d.breakOff b).state.started = true := by rwa [state_breakOff]
  rw [List.foldl_cons, feed_of_breaking hs (by simp [hb]) (by simp [hb]),
    feed_of_vectBaseX (group_breakOff d b) hstarted hb,
    foldl_feed_of_short hstarted (Nat.lt_succ_of_le hlength) hlater]

/-- A group is dropped alike by the word that breaks it off and by the end of the stream. -/
theorem agrees_breakOff_close (d : Decoding) (w : Word) : Agrees (d.breakOff w) d.close := by
  rw [breakOff, close]
  cases d.group <;> exact ⟨rfl, rfl, rfl, rfl, rfl⟩

end Decoding

/-! ### Lists of words -/

theorem started_decode_iff (s : StreamState) (ws : List Word) :
    (decode s ws).state.started = true ↔
      s.started = true ∨ ∃ w ∈ ws, w.kind? = some .timeHigh := by
  rw [decode_eq_foldl_feed]
  exact Decoding.started_foldl_feed_iff

variable {s : StreamState} {rest held : List Word}

namespace EndsWithinGroup

/-- Reading the words behind `rest` breaks off the group that `rest` leaves open, if any, and leaves
open their own. -/
theorem exists_decode_eq (h : EndsWithinGroup s rest held) :
    ∃ b later, held = b :: later ∧
      decode s (rest ++ held) =
        { (decode s rest).breakOff b with group := .ofBase b later } := by
  obtain ⟨b, later, rfl⟩ := h.isCutGroup.exists_cons
  have hs : (decode s rest).state.started = true := by
    rw [started_decode_iff]
    cases hstarted : s.started with
    | false => exact .inr (h.behindTime hstarted)
    | true => exact .inl rfl
  exact ⟨b, later, rfl, by rw [decode_append, Decoding.foldl_feed_of_isCutGroup hs h.isCutGroup]⟩

theorem words_group (h : EndsWithinGroup s rest held) :
    (decode s (rest ++ held)).group.words = held := by
  obtain ⟨b, later, rfl, hdecode⟩ := h.exists_decode_eq
  rw [hdecode]
  exact Decoding.words_ofBase b (Nat.lt_succ_of_le h.isCutGroup.2.1)

/-- The words behind `rest` change nothing but the open group. What is in front of them is read as a
stream that ends there. -/
theorem agrees (h : EndsWithinGroup s rest held) :
    Decoding.Agrees { decode s (rest ++ held) with group := .none } (decodeFinal s rest) := by
  obtain ⟨b, later, rfl, hdecode⟩ := h.exists_decode_eq
  have hagrees : Decoding.Agrees ((decode s rest).breakOff b) (decodeFinal s rest) := by
    rw [decodeFinal_eq_close, ← decode_eq_foldl_feed]
    exact Decoding.agrees_breakOff_close _ b
  rw [hdecode]
  exact ⟨hagrees.state, (group_decodeFinal s rest).symm, hagrees.events, hagrees.triggers,
    hagrees.malformed⟩

/-- The words behind `rest` are not used up, and all of those in `rest` are. -/
theorem consumed_eq (h : EndsWithinGroup s rest held) :
    ((decode s (rest ++ held)).outcome (rest ++ held).length).consumed = rest.length := by
  rw [Decoding.outcome, h.words_group, List.length_append, Nat.add_sub_cancel]

end EndsWithinGroup

/-- A group that is left open is one that the words end within. -/
theorem exists_endsWithinGroup (s : StreamState) {ws : List Word}
    (hopen : (decode s ws).group ≠ .none) :
    ∃ rest held, ws = rest ++ held ∧ EndsWithinGroup s rest held := by
  obtain ⟨hs, hcut⟩ := (sound_decode s ws).isCutGroup hopen
  obtain ⟨rest, hws⟩ := isSuffix_decode s ws
  refine ⟨rest, (decode s ws).group.words, hws.symm, hcut, hws.symm ▸ hs, ?_⟩
  intro hstarted
  rcases (started_decode_iff s ws).1 hs with hbefore | ⟨w, hw, hkind⟩
  · simp [hstarted] at hbefore
  · -- The word with the time is none of those in the group.
    rw [← hws, List.mem_append] at hw
    exact hw.elim (fun hw => ⟨w, hw, hkind⟩) fun hw => absurd hkind (hcut.kind?_ne_timeHigh hw)

theorem consumed_lt_iff (s : StreamState) (ws : List Word) :
    ((decode s ws).outcome ws.length).consumed < ws.length ↔
      ∃ rest held, ws = rest ++ held ∧ EndsWithinGroup s rest held := by
  constructor
  · intro hlt
    apply exists_endsWithinGroup
    intro hnone
    simp [Decoding.outcome, hnone, OpenGroup.words] at hlt
  · rintro ⟨rest, held, rfl, h⟩
    have := h.isCutGroup.length_pos
    rw [h.consumed_eq, List.length_append]
    omega

/-! ### Chunks -/

namespace Payload

/-- The words that are made of the bytes of the next read, the byte left over from before
included. -/
def newWords (p : Payload) : List Word :=
  match p.source.read p.bytesPerRead with
  | (.ok bs, _) => (pairBytes p.oddByte bs).1.toList
  | (.error _, _) => []

/-- The words held back behind `n` calls. A call that comes to something is offered those held back
before and the new ones, and holds back what it does not use up; any other call leaves them as they
are. -/
def heldBack (p : Payload) : Nat → List Word
  | 0 => p.group.words
  | n + 1 =>
    match (p.after n).next.result with
    | .ok (some o) => (p.heldBack n ++ (p.after n).newWords).drop o.consumed
    | _ => p.heldBack n

/-- A chunk leaves open what is not used up of the words that it is offered. -/
theorem absorb_group (p : Payload) (source : Source) (bs : List UInt8) :
    ∃ o, (p.absorb source bs).result = .ok (some o) ∧
      (p.absorb source bs).payload.group.words =
        (p.group.words ++ (pairBytes p.oddByte bs).1.toList).drop o.consumed ∧
      ((p.absorb source bs).payload.group = .none ∨
        IsCutGroup (p.absorb source bs).payload.group.words) := by
  refine ⟨_, rfl, (drop_consumed _ _).symm, ?_⟩
  by_cases hnone : (p.absorb source bs).payload.group = .none
  · exact .inl hnone
  · exact .inr ((sound_decode _ _).isCutGroup hnone).2

/-- The end of the source uses up the words that have been kept, if there are any. -/
theorem finish_group (p : Payload) (source : Source) :
    (p.finish source).payload.group = .none ∧
      ((p.finish source).result = .ok none ∧ p.group = .none ∨
        ∃ o, (p.finish source).result = .ok (some o) ∧ o.consumed = p.group.words.length) := by
  cases hg : p.group with
  | none => exact ⟨by simp [finish, hg], .inl ⟨by simp [finish, hg], rfl⟩⟩
  | base | base12 | base24 =>
    simp only [finish, hg]
    exact ⟨group_decodeFinal _ _, .inr ⟨_, rfl, consumed_decodeFinal _ _⟩⟩

/-- A call leaves the open group as it is, or leaves open what is not used up of its words and the
new ones. -/
theorem next_group_cases (p : Payload) :
    ((∀ o, p.next.result ≠ .ok (some o)) ∧ p.next.payload.group = p.group) ∨
      ∃ o, p.next.result = .ok (some o) ∧
        p.next.payload.group.words = (p.group.words ++ p.newWords).drop o.consumed ∧
        (p.next.payload.group = .none ∨ IsCutGroup p.next.payload.group.words) := by
  rw [next, newWords]
  split
  · exact .inl ⟨by simp, rfl⟩
  · split
    · -- A failing read loses a byte at most, and no word.
      exact .inl ⟨by simp, rfl⟩
    · -- At the end of the source there are no new words, and those that were kept are used up.
      rename_i source hread
      obtain ⟨hgroup, ⟨hresult, hnone⟩ | ⟨o, hresult, hconsumed⟩⟩ := p.finish_group source
      · exact .inl ⟨by simp [hresult], hgroup.trans hnone.symm⟩
      · refine .inr ⟨o, hresult, ?_, .inl hgroup⟩
        simp [hread, hgroup, hconsumed, OpenGroup.words, pairBytes]
    · rename_i bs source _ hread
      rw [hread]
      exact .inr (p.absorb_group source bs)

/-- By the counts of the calls, the words held back are those of the group that is open. -/
theorem heldBack_eq (p : Payload) (n : Nat) : p.heldBack n = (p.after n).group.words := by
  induction n with
  | zero => rfl
  | succ n ih =>
    rw [heldBack, after_succ, ih]
    rcases (p.after n).next_group_cases with ⟨hresult, hgroup⟩ | ⟨o, hresult, hwords, -⟩
    · rw [hgroup]
      split
      · exact absurd ‹_› (hresult _)
      · rfl
    · rw [hresult, hwords]

/-- However the calls end, a payload that starts with no open group has one that lacks words, or
none. -/
theorem group_after (source : Source) (chunkWords n : Nat) :
    let p : Payload := { source, chunkWords }
    (p.after n).group = .none ∨ IsCutGroup (p.after n).group.words := by
  intro p
  -- Induction on the number of calls; a call that takes no words leaves the group to the next one.
  induction n with
  | zero => exact .inl rfl
  | succ n ih =>
    rw [after_succ]
    rcases (p.after n).next_group_cases with ⟨-, hgroup⟩ | ⟨o, -, -, hcut⟩
    · rwa [hgroup]
    · exact hcut

end Payload

/-- What is left over of some words is a vector group that the last of them have begun, and it
changes nothing. So between two calls a payload holds back at most three words, and only such words.
-/
theorem words_held_back (s : StreamState) (ws : List Word) (source : Source)
    (chunkWords n : Nat) :
    let consumed := ((decode s ws).outcome ws.length).consumed
    let p : Payload := { source, chunkWords }
    consumed ≤ ws.length ∧
      (consumed < ws.length ↔ ∃ rest held, ws = rest ++ held ∧ EndsWithinGroup s rest held) ∧
      (∀ rest held, ws = rest ++ held → EndsWithinGroup s rest held →
        consumed = rest.length ∧ 1 ≤ held.length ∧ held.length ≤ 3 ∧
          (decode s ws).state = (decodeFinal s rest).state ∧
          (decode s ws).events = (decodeFinal s rest).events ∧
          (decode s ws).triggers = (decodeFinal s rest).triggers ∧
          (decode s ws).malformed = (decodeFinal s rest).malformed) ∧
      (p.after n).group.words = p.heldBack n ∧ (p.heldBack n).length ≤ 3 ∧
      (p.heldBack n ≠ [] → IsCutGroup (p.heldBack n)) := by
  intro consumed p
  have hgroup : p.heldBack n = [] ∨ IsCutGroup (p.heldBack n) := by
    rw [Payload.heldBack_eq]
    exact (Payload.group_after source chunkWords n).imp_left OpenGroup.words_eq_nil_iff.2
  refine ⟨Nat.sub_le _ _, consumed_lt_iff s ws, ?_, (p.heldBack_eq n).symm, ?_,
    hgroup.resolve_left⟩
  · rintro rest held rfl h
    exact ⟨h.consumed_eq, h.isCutGroup.length_pos, h.isCutGroup.length_le, h.agrees.state,
      h.agrees.events, h.agrees.triggers, h.agrees.malformed⟩
  · rcases hgroup with hnil | hcut
    · simp [hnil]
    · exact hcut.length_le

/-- A base word in front of the first time, and two behind it, the second of which breaks off the
group of the first. The chunk ends there, and the next call fails. -/
theorem words_held_back_behind_broken_group :
    let rest : List Word := [0x3001, 0x4002, 0x8001, 0x3002, 0x4003]
    let held : List Word := [0x3804, 0x4FFF, 0x4001]
    let source : Source :=
      [.bytes ((rest ++ held).flatMap Word.littleEndian), .failure "disk failure", .bytes [0x05]]
    EndsWithinGroup {} rest held ∧
      ((decode {} (rest ++ held)).outcome (rest ++ held).length).consumed = rest.length ∧
      (decode {} (rest ++ held)).malformed = 1 ∧
      Payload.heldBack { source, chunkWords := 8 } 2 = held ∧ IsCutGroup held := by
  intro rest held source
  have htime : ∃ w ∈ rest, w.kind? = some .timeHigh := ⟨0x8001, by decide, by decide⟩
  have hends : EndsWithinGroup {} rest held :=
    { isCutGroup := by decide
      started := by
        obtain ⟨w, hw, hkind⟩ := htime
        exact (started_decode_iff _ _).2 (.inr ⟨w, List.mem_append_left held hw, hkind⟩)
      behindTime := fun _ => htime }
  have hheld : Payload.heldBack { source, chunkWords := 8 } 2 = held := by decide
  obtain ⟨-, -, hchanged, -, -, hcut⟩ := words_held_back {} (rest ++ held) source 8 2
  obtain ⟨hconsumed, -, -, -, -, -, hmalformed⟩ := hchanged rest held rfl hends
  rw [hheld] at hcut
  exact ⟨hends, hconsumed, hmalformed.trans (by decide), hheld, hcut (by decide)⟩

end EventCamera
