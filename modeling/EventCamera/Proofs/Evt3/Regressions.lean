import EventCamera.Proofs.Evt3.Emissions
import EventCamera.Proofs.Evt3.Positions

/-!
# How far times go back

The words of a stream may set the upper and the lower bits of the time in any order. When the upper
bits go down, a new period begins, so that bits 12 and higher of the time never do. The lower bits
begin nothing when they go down: what is given then is earlier than what was given before, but by no
more than these bits can hold.

## Main definitions

* `epochAt` — bits 12 and higher of the time at a position

## Main results

* `epochAt_le_epochAt` — they never go down
* `times_go_back_within_lower_bits` — how far a stream can go back
-/

namespace EventCamera

/-- Bits 12 and higher of the time at a position. -/
def epochAt (s : StreamState) (ws : List Word) (i : Nat) : Nat :=
  periodAt s ws i * 2 ^ 12 + upperAt s ws i

/-! ### The upper bits -/

theorem getLastD_uppers_lt {first : Nat} (hfirst : first < 2 ^ 12) (ws : List Word) :
    (uppers ws).getLastD first < 2 ^ 12 := by
  have hall : ∀ n ∈ first :: uppers ws, n < 2 ^ 12 := by
    refine List.forall_mem_cons.2 ⟨hfirst, ?_⟩
    intro n hn
    obtain ⟨w, -, rfl⟩ := List.mem_map.1 hn
    rw [Word.toNat_payload]
    omega
  exact hall _ List.getLastD_mem_cons

/-- A step down of the upper bits is outweighed by the period that it begins. -/
theorem epoch_append_le {first : Nat} (hfirst : first < 2 ^ 12) (ws more : List Word) :
    stepsDown (first :: uppers ws) * 2 ^ 12 + (uppers ws).getLastD first ≤
      stepsDown (first :: uppers (ws ++ more)) * 2 ^ 12 +
        (uppers (ws ++ more)).getLastD first := by
  induction more using List.reverseRecOn with
  | nil => simp only [List.append_nil, Nat.le_refl]
  | append_singleton more w ih =>
    have hlast := getLastD_uppers_lt hfirst (ws ++ more)
    refine ih.trans ?_
    rw [← List.append_assoc, uppers_concat]
    split
    · rw [← List.cons_append, stepsDown_concat, List.getLastD_concat]
      clear ih
      split <;> omega
    · simp only [List.append_nil, Nat.le_refl]

section Position

variable {s : StreamState} {ws : List Word} {i j : Nat}

theorem upperAt_eq_getLastD (s : StreamState) (ws : List Word) (i : Nat) :
    upperAt s ws i = (uppers (countingBefore s ws i)).getLastD s.upper.toNat := by
  exact upper_foldl_countingBefore.symm.trans (StreamState.upper_foldl_read s _)

/-- Bits 12 and higher of the time never go down. -/
theorem epochAt_le_epochAt (hs : s.Reachable) (hij : i ≤ j) :
    epochAt s ws i ≤ epochAt s ws j := by
  obtain ⟨more, hmore⟩ := isPrefix_countingBefore s ws hij
  have hepoch := epoch_append_le hs.lt.1 (countingBefore s ws i) more
  rw [hmore] at hepoch
  rw [epochAt, epochAt, upperAt_eq_getLastD, upperAt_eq_getLastD, periodAt, periodAt, Nat.add_mul,
    Nat.add_mul, Nat.add_assoc, Nat.add_assoc]
  exact Nat.add_le_add_left hepoch _

theorem timeAt_div (hs : s.Reachable) (ws : List Word) (i : Nat) :
    timeAt s ws i / 2 ^ 12 = epochAt s ws i := by
  have hparts := StreamState.foldl_read_lt hs.lt.1 hs.lt.2 (countingBefore s ws i)
  rw [lower_foldl_countingBefore] at hparts
  rw [timeAt, epochAt]
  omega

/-! ### The state at a position -/

/-- The state at a position is the one that the words in front of it lead to. -/
theorem state_decode_take (s : StreamState) (ws : List Word) (i : Nat) :
    (decode s (ws.take i)).state = (countingBefore s ws i).foldl StreamState.read s := by
  have hcount : wordsThatCount s (ws.take i) = countingBefore s ws i := by
    rw [wordsThatCount_eq_drop, countingBefore, firstCounting, firstCounting]
    split
    · rfl
    · rw [List.findIdx_take]
      rcases Nat.le_total i (ws.findIdx fun w => w.kind? = some .timeHigh) with hle | hle
      · -- No word in front of the position counts.
        rw [Nat.min_eq_left hle, List.drop_eq_nil_of_le (List.length_take_le i ws),
          List.drop_eq_nil_of_le ((List.length_take_le i ws).trans hle)]
      · rw [Nat.min_eq_right hle]
  rw [decode, Decoding.state_readAhead, hcount]

theorem rowAt_lt (hrow : s.row.toNat < 2048) : (rowAt s ws i).toNat < 2048 := by
  rw [rowAt]
  cases nearest? .addrY (countingBefore s ws i) with
  | none => exact hrow
  | some w =>
    rw [Option.map_some, Option.getD_some, Word.toNat_coordinate]
    omega

theorem timestamp_decode_take (hs : s.Reachable) (hi : i ≤ ws.length)
    (hperiod : periodAt s ws ws.length < 2 ^ 40) :
    (decode s (ws.take i)).state.timestamp.toNat = timeAt s ws i := by
  rw [state_decode_take, timestamp_foldl_countingBefore hs,
    UInt64.toNat_ofNat_of_lt' (timeAt_lt hs hi hperiod)]

theorem epoch_of_mem_emittedAt (hs : s.Reachable) (hi : i ≤ ws.length)
    (hperiod : periodAt s ws ws.length < 2 ^ 40) {em : Emission} (hem : em ∈ emittedAt s ws i) :
    em.time.toNat / 2 ^ 12 = epochAt s ws i := by
  rw [time_of_mem_emittedAt hem, timestamp_decode_take hs hi hperiod, timeAt_div hs]

end Position

/-! ### Whole streams -/

/-- What the words of a stream give comes in the order of bits 12 and higher. -/
theorem pairwise_emissions {s : StreamState} {ws : List Word} (hs : s.Reachable)
    (hperiod : periodAt s ws ws.length < 2 ^ 40) :
    (emissions s ws).Pairwise fun a b => a.time.toNat / 2 ^ 12 ≤ b.time.toNat / 2 ^ 12 := by
  refine List.pairwise_flatMap.2 ⟨?_, List.pairwise_lt_range.imp_of_mem ?_⟩
  · -- What one word gives has one time.
    intro i hi
    have hi := (List.mem_range.1 hi).le
    refine List.pairwise_of_forall_mem_list fun a ha b hb => ?_
    rw [epoch_of_mem_emittedAt hs hi hperiod ha, epoch_of_mem_emittedAt hs hi hperiod hb]
  · intro i j hi hj hij a ha b hb
    have hi := (List.mem_range.1 hi).le
    have hj := (List.mem_range.1 hj).le
    rw [epoch_of_mem_emittedAt hs hi hperiod ha, epoch_of_mem_emittedAt hs hj hperiod hb]
    exact epochAt_le_epochAt hs hij.le

/-- Up to 2⁴⁰ periods, bits 12 and higher of the times never go down along a stream, whatever its
words are. So no event or trigger is earlier than one before it by more than bits 0 to 11 can hold.
-/
theorem times_go_back_within_lower_bits (ws : List Word)
    (hperiod : periodAt {} ws ws.length < 2 ^ 40) (final : Bool) :
    let d := if final then decodeFinal {} ws else decode {} ws
    let given := emissions {} ws
    Batch.ofEmissions given = d.batch ∧
      given.Pairwise (fun a b => a.time >>> (12 : UInt64) ≤ b.time >>> (12 : UInt64)) ∧
      given.Pairwise (fun a b => a.time.toNat ≤ b.time.toNat + 4095) ∧
      ∀ i ≤ ws.length,
        let s := (decode {} (ws.take i)).state
        (∀ em ∈ emittedAt {} ws i, em.time = s.timestamp) ∧
          s.upper.toNat < 4096 ∧ s.lower.toNat < 4096 ∧ s.row.toNat < 2048 ∧
          s.timestamp.toNat =
            s.period.toNat * 2 ^ 24 + s.upper.toNat * 2 ^ 12 + s.lower.toNat := by
  intro d given
  have hbatch : Batch.ofEmissions given = d.batch := by
    rw [ofEmissions_emissions]
    cases final with
    | true => exact (batch_decodeFinal {} ws).symm
    | false => rfl
  have hepoch := pairwise_emissions .start hperiod
  refine ⟨hbatch, hepoch.imp ?_, hepoch.imp ?_, ?_⟩
  · intro a b hab
    have hshift (t : UInt64) : (t >>> (12 : UInt64)).toNat = t.toNat / 2 ^ 12 := by
      rw [UInt64.toNat_shiftRight, show (12 : UInt64).toNat % 64 = 12 from rfl,
        Nat.shiftRight_eq_div_pow]
    rwa [UInt64.le_iff_toNat_le, hshift, hshift]
  · intro a b hab
    omega
  · intro i hi
    obtain ⟨hupper, hlower⟩ := StreamState.foldl_read_lt (s := {}) (by decide) (by decide)
      (countingBefore {} ws i)
    have hrow : ((countingBefore {} ws i).foldl StreamState.read {}).row = rowAt {} ws i :=
      row_foldl_countingBefore
    have hcount : ((countingBefore {} ws i).foldl StreamState.read {}).period =
        UInt64.ofNat (periodAt {} ws i) := period_foldl_countingBefore
    rw [← state_decode_take] at hupper hlower hrow hcount
    have hlt := (periodAt_le_periodAt {} ws hi).trans_lt hperiod
    have hexact : (decode {} (ws.take i)).state.period.toNat = periodAt {} ws i := by
      rw [hcount, UInt64.toNat_ofNat_of_lt' (hlt.trans (by decide))]
    refine ⟨fun em hem => time_of_mem_emittedAt hem, hupper, hlower, ?_, ?_⟩
    · exact hrow ▸ rowAt_lt (by decide)
    · rw [StreamState.toNat_timestamp hupper hlower, Nat.mod_eq_of_lt (by omega)]

/-- The lower bits go down by all that they can hold, and behind that a period begins. -/
theorem times_go_back_within_lower_bits_of_lateTrigger :
    let ws : List Word := [0x2001, 0x8001, 0x6FFF, 0x2003, 0x6000, 0xA101, 0x8000, 0x2804, 0x3001]
    let given := emissions {} ws
    periodAt {} ws ws.length = 1 ∧
      given = [.event ⟨0x1FFF, 3, 0, 0⟩, .trigger ⟨0x1000, 1, 1⟩, .event ⟨0x1000000, 4, 0, 1⟩] ∧
      Batch.ofEmissions given = (decodeFinal {} ws).batch ∧
      given.Pairwise (fun a b => a.time.toNat ≤ b.time.toNat + 4095) := by
  intro ws given
  obtain ⟨hbatch, -, hback, -⟩ := times_go_back_within_lower_bits ws (by decide) true
  exact ⟨by decide, by decide, hbatch, hback⟩

end EventCamera
