import EventCamera.Proofs.Evt3.Fields

/-!
# A reader that follows an encoder

An encoder says only what changes, so it must know what a reader still holds of what it said
before. `Trail.Matches` is what it has to know; the words of one more event keep it up, whatever
the event is. The number of periods is not part of it: a reader counts every step down of bits 12
to 23 as one, and may so get ahead of the encoder.

## Main definitions

* `Trail.Matches` — a reader holds what the trail says
* `Trail.told` — the number of periods that a reader counts on the way to an event

## Main results

* `Trail.foldl_feed_encode` — what the words of one more event do to a reader
* `Trail.matches_advance` — the reader then holds what the trail says after the event
-/

namespace EventCamera

/-- The state after a number of periods, with given bits 12 to 23 of the time. -/
def StreamState.moved (s : StreamState) (periods : Nat) (upper : UInt32) : StreamState :=
  { s with period := s.period + UInt64.ofNat periods, upper, started := true }

namespace StreamState

@[simp] theorem upper_moved (s : StreamState) (n : Nat) (u : UInt32) : (s.moved n u).upper = u :=
  rfl

@[simp] theorem moved_moved (s : StreamState) (n m : Nat) (u v : UInt32) :
    (s.moved n u).moved m v = s.moved (n + m) v := by
  simp [moved, UInt64.ofNat_add, UInt64.add_assoc]

theorem moved_zero {s : StreamState} (h : s.started = true) : s.moved 0 s.upper = s := by
  simp [moved, ← h]

/-- A step down of bits 12 to 23 counts as one period. -/
theorem setUpper_eq_moved (s : StreamState) (u : UInt16) :
    s.setUpper u = s.moved (if u.toNat < s.upper.toNat then 1 else 0) u.toUInt32 := by
  simp only [setUpper, moved, UInt32.lt_iff_toNat_lt, UInt16.toNat_toUInt32]
  split <;> simp

end StreamState

namespace Trail

/-- A reader holds what the trail says, as far as it says anything. -/
structure Matches (trail : Trail) (s : StreamState) : Prop where
  /-- Bits 12 to 23 of the time, which also start the reader. -/
  upper : 0 ≤ trail.upper → s.started = true ∧ trail.upper = s.upper.toNat
  /-- A reader that has been told nothing has them at zero. -/
  upper_fresh : trail.upper < 0 → s.upper = 0
  upper_lt : s.upper.toNat < 2 ^ 12
  /-- Bits 0 to 11 of the time. -/
  lower : 0 ≤ trail.lower → trail.lower = s.lower.toNat
  /-- The row, of which the reader has eleven bits. -/
  row : 0 ≤ trail.row → ∃ y : UInt16, trail.row = y.toNat ∧ s.row = y &&& 0x07FF

theorem matches_start : Matches {} {} where
  upper h := absurd h (by decide)
  upper_fresh _ := rfl
  upper_lt := by decide
  lower h := absurd h (by decide)
  row h := absurd h (by decide)

/-- The number of periods that a reader counts when it is told of an event: those that the event is
ahead, or one if bits 12 to 23 go down though it is not ahead. -/
def told (trail : Trail) (e : Event) : Nat :=
  if trail.period.toNat < (periodOf e.t).toNat then (periodOf e.t).toNat - trail.period.toNat
  else if ((upperOf e.t).toNat : Int) < trail.upper then 1
  else 0

/-- A bridge has as many pairs of words as the event is periods ahead. -/
theorem told_of_needsBridge {trail : Trail} {e : Event} (h : trail.needsBridge e.t = true) :
    trail.told e = (periodOf e.t - trail.period).toNat ∧ 0 < trail.told e := by
  simp only [needsBridge, Bool.and_eq_true, decide_eq_true_eq, UInt64.lt_iff_toNat_lt] at h
  have hle : trail.period ≤ periodOf e.t := UInt64.le_iff_toNat_le.2 (Nat.le_of_lt h.1)
  rw [told, if_pos h.1, UInt64.toNat_sub_of_le _ _ hle]
  exact ⟨rfl, by omega⟩

/-- Without a bridge, all that a reader can count is a step down of bits 12 to 23. -/
theorem told_of_not_needsBridge {trail : Trail} {e : Event} (h : ¬ trail.needsBridge e.t = true) :
    trail.told e = if ((upperOf e.t).toNat : Int) < trail.upper then 1 else 0 := by
  rw [told]
  by_cases hahead : trail.period.toNat < (periodOf e.t).toNat
  · -- One period ahead with lower bits: the step down says the period by itself.
    have hle : trail.period ≤ periodOf e.t := UInt64.le_iff_toNat_le.2 (Nat.le_of_lt hahead)
    simp only [needsBridge, UInt64.lt_iff_toNat_lt.2 hahead, decide_true, Bool.true_and,
      Bool.not_eq_true', Bool.not_eq_false, Bool.and_eq_true, beq_iff_eq, decide_eq_true_eq] at h
    have hone := congrArg UInt64.toNat h.1
    rw [UInt64.toNat_sub_of_le _ _ hle] at hone
    rw [if_pos hahead, if_pos h.2, hone]
    rfl
  · rw [if_neg hahead]

/-- The state of a reader once it has been told of an event. -/
def stateAt (trail : Trail) (s : StreamState) (e : Event) : StreamState :=
  { s.moved (trail.told e) (upperOf e.t).toUInt32 with
    lower := (lowerOf e.t).toUInt32
    row := e.y &&& 0x07FF }

theorem matches_advance (trail : Trail) (s : StreamState) (e : Event) :
    (trail.advance e).Matches (trail.stateAt s e) where
  upper _ := ⟨rfl, by simp [advance, stateAt]⟩
  upper_fresh h := absurd h (by simp [advance])
  upper_lt := by
    simp only [stateAt, StreamState.upper_moved, UInt16.toNat_toUInt32, toNat_upperOf]
    omega
  lower _ := by simp [advance, stateAt]
  row _ := ⟨e.y, rfl, rfl⟩

/-! ### The words of one event -/

variable {trail : Trail} {d : Decoding} {e : Event}

/-- A bridge makes the reader count its periods, one for each pair of words. -/
theorem foldl_feed_bridge (hg : d.group = .none) (hu : d.state.upper.toNat < 2 ^ 12) {n : Nat}
    (hn : 0 < n) :
    (bridge n).foldl Decoding.feed d = { d with state := d.state.moved n 0 } := by
  -- Up to the highest bits and down to the lowest: whatever the bits were, that is one step down.
  have hpair : ∀ d : Decoding, d.group = .none → d.state.upper.toNat < 2 ^ 12 →
      (d.feed (Word.timeHigh 0x0FFF)).feed (Word.timeHigh 0) =
        { d with state := d.state.moved 1 0 } := by
    intro d hg hu
    have hdown : ¬ 4095 < d.state.upper.toNat := by omega
    rw [Decoding.feed_timeHigh hg, Decoding.feed_timeHigh (by exact hg)]
    simp [StreamState.setUpper_eq_moved, hdown]
  have hstep : ∀ n, bridge (n + 1) = bridge n ++ [Word.timeHigh 0x0FFF, Word.timeHigh 0] := by
    intro n
    simp [bridge, List.replicate_succ']
  induction n with
  | zero => exact absurd hn (Nat.lt_irrefl 0)
  | succ n ih =>
    rw [hstep, List.foldl_append]
    rcases Nat.eq_zero_or_pos n with rfl | hpos
    · simpa [bridge] using hpair d hg hu
    · rw [ih hpos, List.foldl_cons, List.foldl_cons, List.foldl_nil,
        hpair _ (by exact hg) (by simp), StreamState.moved_moved]

/-- Behind a bridge bits 12 to 23 are zero, and need no word if they are to stay so. -/
theorem foldl_feed_upper_of_needsBridge (hg : d.group = .none) (hu : d.state.upper.toNat < 2 ^ 12)
    (hb : trail.needsBridge e.t = true) :
    (update 0 (upperOf e.t) (Word.timeHigh (upperOf e.t))).foldl Decoding.feed
      ((bridge (periodOf e.t - trail.period).toNat).foldl Decoding.feed d) =
      { d with state := d.state.moved (trail.told e) (upperOf e.t).toUInt32 } := by
  obtain ⟨htold, hpos⟩ := told_of_needsBridge hb
  rw [← htold, foldl_feed_bridge hg hu hpos, update]
  split
  · rename_i hzero
    have hupper : (upperOf e.t).toUInt32 = 0 := by
      apply UInt32.toNat.inj
      simpa using hzero
    rw [hupper, List.foldl_nil]
  · rw [List.foldl_cons, List.foldl_nil, Decoding.feed_timeHigh (by exact hg), upperOf_and]
    simp [StreamState.setUpper_eq_moved]

/-- Without a bridge, the word with bits 12 to 23 is left out only if the reader holds them. -/
theorem foldl_feed_upper_of_not_needsBridge (hg : d.group = .none) (hm : trail.Matches d.state)
    (hb : ¬ trail.needsBridge e.t = true) :
    (update trail.upper (upperOf e.t) (Word.timeHigh (upperOf e.t))).foldl Decoding.feed d =
      { d with state := d.state.moved (trail.told e) (upperOf e.t).toUInt32 } := by
  have htold := told_of_not_needsBridge hb
  rw [update]
  split
  · rename_i hsame
    obtain ⟨hstarted, hupper⟩ := hm.upper (by omega)
    have hu : (upperOf e.t).toUInt32 = d.state.upper := by
      apply UInt32.toNat.inj
      rw [UInt16.toNat_toUInt32]
      omega
    rw [htold, if_neg (by omega), hu, List.foldl_nil, StreamState.moved_zero hstarted]
  · -- The reader compares with its own bits, which are zero as long as nothing has been said.
    have hcount : (if (upperOf e.t).toNat < d.state.upper.toNat then 1 else 0) =
        trail.told e := by
      rw [htold]
      by_cases hfresh : 0 ≤ trail.upper
      · have := (hm.upper hfresh).2
        simp only [this, Int.ofNat_lt]
      · have := hm.upper_fresh (by omega)
        rw [this, if_neg (by simp), if_neg (by omega)]
    rw [List.foldl_cons, List.foldl_nil, Decoding.feed_timeHigh hg, upperOf_and,
      StreamState.setUpper_eq_moved, hcount]

/-- The bridge and the word with bits 12 to 23 bring the reader to the period and to these bits. -/
theorem foldl_feed_upper (hg : d.group = .none) (hm : trail.Matches d.state) :
    (update (if trail.needsBridge e.t then 0 else trail.upper) (upperOf e.t)
        (Word.timeHigh (upperOf e.t))).foldl Decoding.feed
      ((if trail.needsBridge e.t then bridge (periodOf e.t - trail.period).toNat else []).foldl
        Decoding.feed d) =
      { d with state := d.state.moved (trail.told e) (upperOf e.t).toUInt32 } := by
  by_cases hb : trail.needsBridge e.t = true
  · simp only [hb, if_true]
    exact foldl_feed_upper_of_needsBridge hg hm.upper_lt hb
  · simp only [hb, Bool.false_eq_true, if_false, List.foldl_nil]
    exact foldl_feed_upper_of_not_needsBridge hg hm hb

/-- The word with bits 0 to 11 is left out only if the reader holds them. -/
theorem foldl_feed_lower (hg : d.group = .none) (hs : d.state.started = true)
    (hl : 0 ≤ trail.lower → trail.lower = d.state.lower.toNat) :
    (update trail.lower (lowerOf e.t) (Word.timeLow (lowerOf e.t))).foldl Decoding.feed d =
      { d with state.lower := (lowerOf e.t).toUInt32 } := by
  rw [update]
  split
  · rename_i hsame
    -- The word is left out, so that something has been said of these bits.
    have hlower := hl (by omega)
    have hu : (lowerOf e.t).toUInt32 = d.state.lower := by
      apply UInt32.toNat.inj
      rw [UInt16.toNat_toUInt32]
      omega
    rw [hu, List.foldl_nil]
  · rw [List.foldl_cons, List.foldl_nil, Decoding.feed_timeLow hg hs, lowerOf_and]
    rfl

/-- The word with the row is left out only if the reader holds the eleven bits it has of the row. -/
theorem foldl_feed_row (hg : d.group = .none) (hs : d.state.started = true)
    (hr : 0 ≤ trail.row → ∃ y : UInt16, trail.row = y.toNat ∧ d.state.row = y &&& 0x07FF)
    (role : CameraRole) :
    (update trail.row e.y (Word.addrY e.y role)).foldl Decoding.feed d =
      { d with state.row := e.y &&& 0x07FF } := by
  rw [update]
  split
  · rename_i hsame
    obtain ⟨y, hy, hrow⟩ := hr (by omega)
    have hey : e.y = y := UInt16.toNat.inj (by omega)
    rw [hey, ← hrow, List.foldl_nil]
  · rw [List.foldl_cons, List.foldl_nil, Decoding.feed_addrY hg hs]
    rfl

/-- The words of one more event bring the reader to its time and row and make it give the event, of
which it has eleven bits of the column and one of the polarity. -/
theorem foldl_feed_encode (hg : d.group = .none) (hm : trail.Matches d.state)
    (role : CameraRole) :
    (trail.encode role e).foldl Decoding.feed d =
      { d with
        state := trail.stateAt d.state e
        events :=
          d.events.push
            ⟨(trail.stateAt d.state e).timestamp, e.x &&& 0x07FF, e.y &&& 0x07FF, e.p &&& 1⟩ } := by
  simp only [encode, List.foldl_append, List.foldl_cons, List.foldl_nil]
  rw [foldl_feed_upper hg hm, foldl_feed_lower (by exact hg) rfl (by exact hm.lower),
    foldl_feed_row (by exact hg) rfl (by exact hm.row), Decoding.feed_addrX (by exact hg) rfl]
  rfl

end Trail

end EventCamera
