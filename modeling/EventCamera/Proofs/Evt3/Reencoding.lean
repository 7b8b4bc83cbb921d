import EventCamera.Proofs.Evt3.Drift
import Mathlib.Data.List.Basic

/-!
# Decoded events encoded again

Whatever its words are, a stream gives rows and polarities that fit into words. A column may not:
the columns of a vector group are counted up from that of its base word, up to 31 beyond it. Encoded
again, such a column keeps its eleven bits and loses the bit above them.

## Main definitions

* `Decoding.Within` — the range of what has been read

## Main results

* `Decoding.Within.readAhead` — reading keeps within the range
* `reencode_decoded` — what comes back of decoded events that are encoded again
-/

namespace EventCamera

namespace Decoding

/-- Columns go up to `limit`, rows and polarities as far as their bits do. -/
structure Within (limit : Nat) (d : Decoding) : Prop where
  row : d.state.row.toNat ≤ 2047
  events : ∀ e ∈ d.events.toList, e.x.toNat ≤ limit ∧ e.y.toNat ≤ 2047 ∧ e.p.toNat ≤ 1

variable {limit : Nat} {d : Decoding}

theorem within_start (limit : Nat) : Within limit { state := {} } where
  row := by decide
  events := by simp

theorem Within.push (h : d.Within limit) {e : Event}
    (he : e.x.toNat ≤ limit ∧ e.y.toNat ≤ 2047 ∧ e.p.toNat ≤ 1) :
    Within limit { d with events := d.events.push e } where
  row := h.row
  events e' he' := by
    rw [Array.toList_push, List.mem_append, List.mem_singleton] at he'
    rcases he' with he' | rfl
    · exact h.events e' he'
    · exact he

theorem Within.readWord (h : d.Within limit) (hlimit : 2047 ≤ limit) (w : Word) :
    (d.readWord w).Within limit := by
  have hcoordinate : w.coordinate.toNat ≤ 2047 := by
    rw [Word.toNat_coordinate]
    omega
  have hflag : w.flag.toNat ≤ 1 := by
    rw [Word.toNat_flag]
    omega
  rw [Decoding.readWord]
  split
  · exact ⟨h.row, h.events⟩
  · exact ⟨h.row, h.events⟩
  · exact ⟨hcoordinate, h.events⟩
  · exact h.push ⟨by simpa using Nat.le_trans hcoordinate hlimit, h.row, hflag⟩
  · exact ⟨h.row, h.events⟩
  · exact h

/-- An event of a vector group is at most 31 columns beyond the base word. -/
theorem mem_groupEvents {s : StreamState} {b : Word} {mask : UInt32} {e : Event}
    (he : e ∈ groupEvents s b mask) :
    e.x.toNat ≤ b.coordinate.toNat + 31 ∧ e.y = s.row ∧ e.p = b.flag := by
  obtain ⟨k, hk, hsome⟩ := List.mem_filterMap.1 he
  rw [List.mem_range] at hk
  rw [Option.ite_none_right_eq_some, Option.some_inj] at hsome
  obtain ⟨-, rfl⟩ := hsome
  refine ⟨?_, rfl, rfl⟩
  have hcoordinate := b.toNat_coordinate
  have hcolumn : k.toUInt16.toNat = k := by
    rw [Nat.toUInt16_eq, UInt16.toNat_ofNat', Nat.mod_eq_of_lt (by omega)]
  rw [UInt16.toNat_add, hcolumn]
  omega

theorem Within.readGroup (h : d.Within limit) {b : Word} (hb : b.coordinate.toNat + 31 ≤ limit)
    (m n k : Word) : (d.readGroup b m n k).Within limit where
  row := h.row
  events e he := by
    rw [Decoding.readGroup, Array.toList_appendList, List.mem_append] at he
    rcases he with he | he
    · exact h.events e he
    · obtain ⟨hx, hy, hp⟩ := mem_groupEvents he
      have hflag := b.toNat_flag
      rw [hy, hp]
      exact ⟨Nat.le_trans hx hb, h.row, by omega⟩

/-- Whatever the words are, what is read keeps within the range: up to 31 columns beyond the base
words of the vector groups. -/
theorem Within.readAhead (h : d.Within limit) (hlimit : 2047 ≤ limit) (final : Bool)
    {ws : List Word}
    (hws : ∀ w ∈ ws, w.kind? = some .vectBaseX → w.coordinate.toNat + 31 ≤ limit) :
    (d.readAhead final ws).Within limit := by
  -- Induction along the reader, which goes on behind a word, a group or a base word that it drops.
  fun_induction Decoding.readAhead final d ws with
  | case1 => exact h
  | case2 d w ws _ offset found _ ih =>
    exact ih ⟨h.row, h.events⟩ (List.forall_mem_cons.1 hws).2
  | case3 d w hw m n k ws _ ih =>
    refine ih (h.readGroup (hws w List.mem_cons_self hw) m n k) ?_
    intro w' hmem
    exact hws w' (by simp [hmem])
  | case4 d w _ ws _ _ _ ih => exact ih ⟨h.row, h.events⟩ (List.forall_mem_cons.1 hws).2
  | case5 => exact ⟨h.row, h.events⟩
  | case6 d w ws _ ih => exact ih (h.readWord hlimit w) (List.forall_mem_cons.1 hws).2

/-- The words that are dropped in front of the first time are no matter. -/
theorem within_decodeFinal (hlimit : 2047 ≤ limit) {ws : List Word}
    (hws : ∀ w ∈ ws, w.kind? = some .vectBaseX → w.coordinate.toNat + 31 ≤ limit) :
    (decodeFinal {} ws).Within limit := by
  refine (within_start limit).readAhead hlimit true ?_
  intro w hw
  exact hws w ((List.dropWhile_sublist _).subset hw)

end Decoding

/-- The events of any words that are in order come back, once they are encoded again, with eleven
bits of their columns. So they come back as they are if no column is beyond these, and none is
unless a vector group reaches beyond. -/
theorem reencode_decoded (role : CameraRole) (ws : List Word)
    (hordered : (decodeFinal {} ws).events.toList.Pairwise (·.t ≤ ·.t)) :
    let es := (decodeFinal {} ws).events.toList
    let again := (decodeFinal {} (Encoder.encode { role } es).words.toList).events.toList
    again = es.map Event.narrow ∧
      (again = es ↔ ∀ e ∈ es, e.x ≤ 2047) ∧
      ((∀ w ∈ ws, w.kind? = some .vectBaseX → w.coordinate ≤ 2016) → again = es) := by
  intro es again
  have hnarrow : again = es.map Event.narrow := by
    have hwithin : (decodeFinal {} ws).Within 2078 := by
      apply Decoding.within_decodeFinal (by omega)
      intro w _ _
      rw [Word.toNat_coordinate]
      omega
    have hfit : ∀ e ∈ es, e.y ≤ 2047 ∧ e.p ≤ 1 := by
      intro e he
      obtain ⟨-, hy, hp⟩ := hwithin.events e he
      exact ⟨UInt16.le_iff_toNat_le.2 hy, UInt8.le_iff_toNat_le.2 hp⟩
    calc again
        = (decode {} (Encoder.encode { role } es).words.toList).events.toList :=
          congrArg (·.events.toList) (decodeFinal_encode role es)
      _ = es.map Event.narrow := events_decode_encode_of_rows role hordered hfit
  have hsame : again = es ↔ ∀ e ∈ es, e.x ≤ 2047 := by
    rw [hnarrow, map_narrow_eq_self_iff]
  refine ⟨hnarrow, hsame, ?_⟩
  intro hbase
  have hwithin : (decodeFinal {} ws).Within 2047 := by
    apply Decoding.within_decodeFinal (Nat.le_refl _)
    intro w hw hkind
    exact Nat.add_le_add_right (UInt16.le_iff_toNat_le.1 (hbase w hw hkind)) 31
  rw [hsame]
  intro e he
  exact UInt16.le_iff_toNat_le.2 (hwithin.events e he).1

/-- The last columns that a vector group can reach without going beyond eleven bits. -/
theorem reencode_decoded_of_lastGroup :
    let ws : List Word := [0x8000, 0x37E0, 0x4001, 0x4000, 0x5080]
    let es := (decodeFinal {} ws).events.toList
    es = [⟨0, 2016, 0, 0⟩, ⟨0, 2047, 0, 0⟩] ∧
      (decodeFinal {} (Encoder.encode {} es).words.toList).events.toList = es := by
  intro ws es
  have hbase : ∀ w ∈ ws, w.kind? = some .vectBaseX → w.coordinate ≤ 2016 := by
    rw [← List.forall_iff_forall_mem]
    decide
  obtain ⟨-, -, hback⟩ := reencode_decoded .master ws (by decide)
  exact ⟨by decide, hback hbase⟩

/-- A vector group at the last column reaches one beyond it, which comes back as the first. -/
theorem reencode_decoded_beyond :
    let es := (decodeFinal {} [0x8000, 0x37FF, 0x4002, 0x4000, 0x5000]).events.toList
    es = [⟨0, 2048, 0, 0⟩] ∧
      (decodeFinal {} (Encoder.encode {} es).words.toList).events.toList = [⟨0, 0, 0, 0⟩] := by
  decide

end EventCamera
