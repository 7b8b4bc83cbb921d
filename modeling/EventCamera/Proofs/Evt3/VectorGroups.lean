import EventCamera.Proofs.Evt3.Fields
import EventCamera.Proofs.Evt3.Resumption
import Mathlib.Data.List.Basic

/-!
# Vector groups in place of single events

A vector group says in four words what takes one word for each of its events otherwise. Wherever a
stream has one, it may as well have the other. The words around them do not tell the difference: a
group that is open before is broken off by either, at the same place, and neither leaves one open.

## Main definitions

* `Word.singleEvents` — the words of the single events that a vector group stands for
* `Decoding.breakOff` — drops the group that a word breaks off
* `Decoding.Agrees` — two readers that differ in their reports at most

## Main results

* `Decoding.feed_of_breaking` — a word that is due in no group
* `Decoding.Agrees.foldl_feed` — readers that agree go on to agree
* `vectorGroup_as_single_events` — the two forms are read alike
-/

namespace EventCamera

/-- One word for each event of a vector group, by ascending column. -/
def Word.singleEvents (x : UInt16) (p : UInt8) (valid : UInt32) : List Word :=
  ((List.range 32).filter valid.toNat.testBit).map fun k => addrX (x + k.toUInt16) p

namespace Decoding

variable {d e : Decoding} {w : Word}

/-! ### Readers that agree -/

/-- Two readers are at the same place and have read the same. They may have reported different
words. -/
structure Agrees (d e : Decoding) : Prop where
  state : d.state = e.state
  group : d.group = e.group
  events : d.events = e.events
  triggers : d.triggers = e.triggers
  malformed : d.malformed = e.malformed

theorem Agrees.join (h : Agrees d e) (f : Decoding) : Agrees (d.join f) (e.join f) where
  state := rfl
  group := rfl
  events := congrArg (· ++ f.events) h.events
  triggers := congrArg (· ++ f.triggers) h.triggers
  malformed := congrArg (· + f.malformed) h.malformed

theorem Agrees.append_events (h : Agrees d e) (es : List Event) :
    Agrees { d with events := d.events ++ es } { e with events := e.events ++ es } where
  state := h.state
  group := h.group
  events := congrArg (fun events : Array Event => events ++ es) h.events
  triggers := h.triggers
  malformed := h.malformed

theorem Agrees.resume_eq (h : Agrees d e) : d.resume = e.resume := by
  rw [resume, resume, h.state, h.group]

/-- Readers that agree go on to agree, since what comes next depends on the place alone. -/
theorem Agrees.foldl_feed (h : Agrees d e) (ws : List Word) :
    Agrees (ws.foldl feed d) (ws.foldl feed e) := by
  rw [foldl_feed_resume d, foldl_feed_resume e, h.resume_eq]
  exact h.join _

theorem Agrees.close (h : Agrees d e) : Agrees d.close e.close := by
  rw [← join_resume d, ← join_resume e, h.resume_eq, close_join, close_join]
  exact h.join _

/-! ### Words that break off a group -/

/-- Drops the open group because of a word that is not the one due. -/
def breakOff (d : Decoding) (w : Word) : Decoding :=
  match d.group with
  | .none => d
  | g => d.drop (.malformedGroup g.words.length w)

@[simp] theorem group_breakOff (d : Decoding) (w : Word) : (d.breakOff w).group = .none := by
  rw [breakOff]
  split
  · assumption
  · rfl

@[simp] theorem state_breakOff (d : Decoding) (w : Word) : (d.breakOff w).state = d.state := by
  rw [breakOff]
  split <;> rfl

/-- It does not matter which word breaks off the group. -/
theorem agrees_breakOff (d : Decoding) (w v : Word) : Agrees (d.breakOff w) (d.breakOff v) := by
  rw [breakOff, breakOff]
  split
  · exact ⟨rfl, rfl, rfl, rfl, rfl⟩
  · exact ⟨rfl, rfl, rfl, rfl, rfl⟩

/-- A word that is due in no group breaks off the open one and is read for itself. -/
theorem feed_of_breaking (hs : d.state.started = true) (h12 : ¬ w.kind? = some .vect12)
    (h8 : ¬ w.kind? = some .vect8) : d.feed w = (d.breakOff w).feed w := by
  rw [feed_of_none (group_breakOff d w) (by rwa [state_breakOff])]
  cases hg : d.group <;> simp [feed, breakOff, hs, hg, h12, h8, OpenGroup.words]

/-! ### The two forms -/

theorem started_feedPlain (hs : d.state.started = true) (w : Word) :
    (d.feedPlain w).state.started = true := by
  rw [feedPlain]
  split
  · exact hs
  · exact started_readWord hs w

/-- A reader that has met a time keeps one. -/
theorem started_feed (hs : d.state.started = true) (w : Word) :
    (d.feed w).state.started = true := by
  have hdrop (notice : Notice) : ((d.drop notice).feedPlain w).state.started = true :=
    started_feedPlain (d := d.drop notice) hs w
  simp only [feed, hs, Bool.true_or, if_true]
  cases d.group with
  | none => exact started_feedPlain hs w
  | base b | base12 b m | base24 b m n =>
    dsimp only
    split
    · exact hs
    · exact hdrop _

theorem started_foldl_feed (hs : d.state.started = true) (ws : List Word) :
    (ws.foldl feed d).state.started = true := by
  induction ws generalizing d with
  | nil => exact hs
  | cons w ws ih => exact ih (started_feed hs w)

/-- A vector group breaks off the open one, and all its events are given at once. -/
theorem foldl_feed_vectorGroup (hs : d.state.started = true) (x : UInt16) (p : UInt8)
    (valid : UInt32) :
    (Word.vectorGroup x p valid).foldl feed d =
      { d.breakOff (Word.vectBaseX x p) with
        events := (d.breakOff (Word.vectBaseX x p)).events ++
          groupEvents (d.breakOff (Word.vectBaseX x p)).state (Word.vectBaseX x p) valid } := by
  have hbase : (Word.vectBaseX x p).kind? = some .vectBaseX := Word.kind?_make _ _
  have hstarted : (d.breakOff (Word.vectBaseX x p)).state.started = true := by rwa [state_breakOff]
  have hfull : checkGroup 1 dueKinds
      [.vect12 (valid &&& 0x0FFF).toUInt16, .vect12 ((valid >>> 12) &&& 0x0FFF).toUInt16,
        .vect8 ((valid >>> 24) &&& 0xFF).toUInt8] = none := by
    simp [checkGroup, dueKinds, Word.vect12, Word.vect8]
  rw [Word.vectorGroup, List.foldl_cons, feed_of_breaking hs (by simp [hbase]) (by simp [hbase]),
    feed_of_vectBaseX (group_breakOff _ _) hstarted hbase,
    foldl_feed_of_full (group_breakOff _ _) hstarted hfull, List.foldl_nil, readGroup,
    groupMask_vectorGroup]

/-- Single events are given one by one. -/
theorem foldl_feed_addrX (hg : d.group = .none) (hs : d.state.started = true) (p : UInt8)
    (columns : List UInt16) :
    (columns.map (Word.addrX · p)).foldl feed d =
      { d with
        events := d.events ++ columns.map fun x =>
          (⟨d.state.timestamp, x &&& 0x07FF, d.state.row, p &&& 1⟩ : Event) } := by
  induction columns generalizing d with
  | nil => simp
  | cons x columns ih =>
    rw [List.map_cons, List.foldl_cons, feed_addrX hg hs, ih (by exact hg) (by exact hs),
      Decoding.mk.injEq]
    refine ⟨rfl, rfl, ?_, rfl, rfl, rfl⟩
    apply Array.ext'
    simp

/-- The first of some single events breaks off the open group. -/
theorem foldl_feed_addrX_of_started (hs : d.state.started = true) (p : UInt8)
    {columns : List UInt16} (hcolumns : columns ≠ []) :
    ∃ w, (columns.map (Word.addrX · p)).foldl feed d =
      { d.breakOff w with
        events := (d.breakOff w).events ++ columns.map fun x =>
          (⟨(d.breakOff w).state.timestamp, x &&& 0x07FF, (d.breakOff w).state.row, p &&& 1⟩ :
            Event) } := by
  obtain ⟨x, columns, rfl⟩ := List.exists_cons_of_ne_nil hcolumns
  have hkind : (Word.addrX x p).kind? = some .addrX := Word.kind?_make _ _
  have hstarted : (d.breakOff (Word.addrX x p)).state.started = true := by rwa [state_breakOff]
  refine ⟨Word.addrX x p, ?_⟩
  rw [← foldl_feed_addrX (group_breakOff _ _) hstarted, List.map_cons, List.foldl_cons,
    feed_of_breaking hs (by simp [hkind]) (by simp [hkind]), List.foldl_cons]

end Decoding

/-! ### A group as single events -/

/-- A mask that is not zero marks a column. -/
theorem exists_column {valid : UInt32} (hvalid : valid ≠ 0) :
    (List.range 32).filter valid.toNat.testBit ≠ [] := by
  intro hnone
  apply hvalid
  apply UInt32.toNat.inj
  apply Nat.eq_of_testBit_eq
  intro k
  rw [UInt32.toNat_zero, Nat.zero_testBit]
  by_cases hk : k < 32
  · simpa using List.filter_eq_nil_iff.1 hnone k (List.mem_range.2 hk)
  · apply Nat.testBit_lt_two_pow
    exact Nat.lt_of_lt_of_le valid.toNat_lt (Nat.pow_le_pow_right (by omega) (by omega))

/-- The events of a vector group whose columns have eleven bits are those of single words. -/
theorem groupEvents_vectBaseX (s : StreamState) {x : UInt16} (p : UInt8) {valid : UInt32}
    (hfit : ∀ k < 32, valid.toNat.testBit k = true → x.toNat + k ≤ 2047) :
    groupEvents s (Word.vectBaseX x p) valid =
      (((List.range 32).filter valid.toNat.testBit).map fun k => x + k.toUInt16).map fun x =>
        ⟨s.timestamp, x &&& 0x07FF, s.row, p &&& 1⟩ := by
  rw [groupEvents, List.map_map, ← List.filterMap_eq_map, List.filterMap_filter]
  apply List.filterMap_congr
  intro k hk
  split
  · rename_i hbit
    have hle := hfit k (List.mem_range.1 hk) hbit
    -- The base column has eleven bits, and so has the one at bit `k`.
    have hbase : x &&& 0x07FF = x := by
      apply UInt16.toNat.inj
      rw [toNat_and_elevenBits]
      omega
    have hcolumn : (x + k.toUInt16) &&& 0x07FF = x + k.toUInt16 := by
      apply UInt16.toNat.inj
      rw [toNat_and_elevenBits, UInt16.toNat_add, Nat.toUInt16_eq, UInt16.toNat_ofNat']
      omega
    simp only [Word.coordinate_vectBaseX, Word.flag_vectBaseX, Function.comp_apply, hbase, hcolumn]
  · rfl

/-- A vector group and its single events leave readers that agree. -/
theorem Decoding.agrees_vectorGroup {d : Decoding} (hs : d.state.started = true) {x : UInt16}
    (p : UInt8) {valid : UInt32} (hvalid : valid ≠ 0)
    (hfit : ∀ k < 32, valid.toNat.testBit k = true → x.toNat + k ≤ 2047) :
    Agrees ((Word.vectorGroup x p valid).foldl feed d)
      ((Word.singleEvents x p valid).foldl feed d) := by
  have hsingles : Word.singleEvents x p valid =
      (((List.range 32).filter valid.toNat.testBit).map fun k => x + k.toUInt16).map
        (Word.addrX · p) := by
    rw [Word.singleEvents, List.map_map]
    rfl
  have hcolumns : (((List.range 32).filter valid.toNat.testBit).map fun k => x + k.toUInt16) ≠ [] :=
    mt List.map_eq_nil_iff.1 (exists_column hvalid)
  obtain ⟨w, hw⟩ := foldl_feed_addrX_of_started hs p hcolumns
  rw [foldl_feed_vectorGroup hs, groupEvents_vectBaseX _ p hfit, hsingles, hw, state_breakOff,
    state_breakOff]
  exact (agrees_breakOff d _ _).append_events _

/-- Where a stream has a vector group whose columns all have eleven bits, it may as well have one
word for each of its events, whatever the words around it are. -/
theorem vectorGroup_as_single_events {s : StreamState} (hs : s.started = true) {x : UInt16}
    (p : UInt8) {valid : UInt32} (hvalid : valid ≠ 0)
    (hfit : ∀ k < 32, valid.toNat.testBit k = true → x.toNat + k ≤ 2047)
    (before after : List Word) :
    let vectors := decodeFinal s (before ++ Word.vectorGroup x p valid ++ after)
    let singles := decodeFinal s (before ++ Word.singleEvents x p valid ++ after)
    vectors.events = singles.events ∧ vectors.triggers = singles.triggers ∧
      vectors.state = singles.state ∧ vectors.malformed = singles.malformed := by
  intro vectors singles
  have hbefore : (before.foldl Decoding.feed { state := s }).state.started = true :=
    Decoding.started_foldl_feed hs before
  have hagrees : vectors.Agrees singles := by
    simp only [vectors, singles, decodeFinal_eq_close, List.foldl_append]
    exact ((Decoding.agrees_vectorGroup hbefore p hvalid hfit).foldl_feed after).close
  exact ⟨hagrees.events, hagrees.triggers, hagrees.state, hagrees.malformed⟩

/-- The first, the thirteenth and the last bit of a mask at the highest base column that allows the
last, behind a base word and the first validity bits of a group that never gets the rest. -/
theorem vectorGroup_as_single_events_behind_open_group :
    let s : StreamState := { upper := 5, row := 9, started := true }
    let before : List Word := [0x3010, 0x4001]
    let vectors := decodeFinal s (before ++ Word.vectorGroup 2016 1 0x80001001 ++ [0x4FFF, 0x6001])
    let singles := decodeFinal s (before ++ Word.singleEvents 2016 1 0x80001001 ++ [0x4FFF, 0x6001])
    vectors.events = singles.events ∧
      singles.events = #[⟨0x5000, 2016, 9, 1⟩, ⟨0x5000, 2028, 9, 1⟩, ⟨0x5000, 2047, 9, 1⟩] ∧
      vectors.state = singles.state ∧ vectors.malformed = singles.malformed ∧
      singles.malformed = 1 := by
  intro s before vectors singles
  have hfit : ∀ k < 32, (0x80001001 : UInt32).toNat.testBit k = true →
      (2016 : UInt16).toNat + k ≤ 2047 := by decide
  obtain ⟨hevents, -, hstate, hmalformed⟩ :=
    vectorGroup_as_single_events (s := s) rfl 1 (by decide) hfit before [0x4FFF, 0x6001]
  exact ⟨hevents, by decide, hstate, hmalformed, by decide⟩

end EventCamera
