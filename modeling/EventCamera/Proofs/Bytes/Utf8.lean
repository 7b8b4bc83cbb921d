import EventCamera.Bytes.Utf8
import Mathlib.Tactic.IntervalCases

/-!
# Texts and their bytes

The bytes of a text are read back to the text. Bytes below 0x80 stand only for themselves, also
among bytes that are no text.

## Main results

* `Utf8.next_encodeChar` — the bytes of a character are taken together
* `Utf8.decodeLossy_encode`, `Utf8.decode?_encode` — the bytes of a text are read back to it
* `Utf8.mem_of_mem_encode` — a byte below 0x80 stands only for itself
* `Utf8.decodeLossy_append_cons`, `Utf8.mem_of_mem_decodeLossy` — so it does among any bytes
-/

namespace EventCamera.Utf8

/-! ### One character -/

private theorem toNat_laterByte {x : Nat} (hx : x < 64) :
    (UInt8.ofNat (x + 0x80)).toNat = x + 0x80 := by
  rw [UInt8.toNat_ofNat']
  omega

/-- A later byte of a character adds its six bits. -/
private theorem continue?_cons (n acc : Nat) {x : Nat} (hx : x < 64) (bs : List UInt8) :
    continue? (n + 1) acc (UInt8.ofNat (x + 0x80) :: bs) = continue? n (acc * 64 + x) bs := by
  have hrange : 0x80 ≤ UInt8.ofNat (x + 0x80) ∧ UInt8.ofNat (x + 0x80) ≤ 0xBF := by
    simp only [UInt8.le_iff_toNat_le, toNat_laterByte hx, UInt8.reduceToNat]
    omega
  rw [continue?, if_pos hrange, toNat_laterByte hx, Nat.add_sub_cancel]

/-- The second byte of a character adds its six bits if the first allows it. -/
private theorem next_cons {b : UInt8} {lead : Lead} (hb : 0x80 ≤ b) (hl : lead? b = some lead)
    {x : Nat} (hx : x < 64) (hlow : lead.low.toNat ≤ x + 0x80) (hhigh : x + 0x80 ≤ lead.high.toNat)
    (bs : List UInt8) :
    next b (UInt8.ofNat (x + 0x80) :: bs) = continue? lead.more (lead.bits * 64 + x) bs := by
  have hrange : lead.low ≤ UInt8.ofNat (x + 0x80) ∧ UInt8.ofNat (x + 0x80) ≤ lead.high := by
    simp only [UInt8.le_iff_toNat_le, toNat_laterByte hx]
    exact ⟨hlow, hhigh⟩
  simp only [next, if_neg (UInt8.not_lt.2 hb), hl, if_pos hrange, toNat_laterByte hx,
    Nat.add_sub_cancel]

private theorem lead?_of_two {k : Nat} (hlow : 2 ≤ k) (hk : k < 32) :
    0x80 ≤ UInt8.ofNat (k + 0xC0) ∧
      lead? (UInt8.ofNat (k + 0xC0)) = some ⟨k, 0x80, 0xBF, 0⟩ := by
  interval_cases k <;> exact ⟨by decide, rfl⟩

private theorem lead?_of_three {k : Nat} (hk : k < 16) :
    0x80 ≤ UInt8.ofNat (k + 0xE0) ∧
      lead? (UInt8.ofNat (k + 0xE0)) =
        some ⟨k, if k = 0 then 0xA0 else 0x80, if k = 13 then 0x9F else 0xBF, 1⟩ := by
  interval_cases k <;> exact ⟨by decide, rfl⟩

private theorem lead?_of_four {k : Nat} (hk : k < 5) :
    0x80 ≤ UInt8.ofNat (k + 0xF0) ∧
      lead? (UInt8.ofNat (k + 0xF0)) =
        some ⟨k, if k = 0 then 0x90 else 0x80, if k = 4 then 0x8F else 0xBF, 2⟩ := by
  interval_cases k <;> exact ⟨by decide, rfl⟩

private theorem next_of_one {v : Nat} (hv : v ≤ 0x7F) (rest : List UInt8) :
    next (UInt8.ofNat v) rest = (some (Char.ofNat v), rest) := by
  have hb : (UInt8.ofNat v).toNat = v := by
    rw [UInt8.toNat_ofNat']
    omega
  have hascii : UInt8.ofNat v < 0x80 := by
    simp only [UInt8.lt_iff_toNat_lt, hb, UInt8.reduceToNat]
    omega
  simp only [next, if_pos hascii, hb]

private theorem next_of_two {v : Nat} (hmin : 0x7F < v) (hmax : v ≤ 0x7FF) (rest : List UInt8) :
    next (UInt8.ofNat (v / 64 % 0x20 + 0xC0)) (UInt8.ofNat (v % 0x40 + 0x80) :: rest) =
      (some (Char.ofNat v), rest) := by
  obtain ⟨hb, hl⟩ := lead?_of_two (k := v / 64 % 0x20) (by omega) (by omega)
  have hv : v / 64 % 0x20 * 64 + v % 0x40 = v := by omega
  have hhigh : v % 0x40 + 0x80 ≤ (0xBF : UInt8).toNat := by
    change _ ≤ 191
    omega
  rw [next_cons hb hl (by omega) (Nat.le_add_left _ _) hhigh, continue?, hv]

/-- Of three bytes, the second tells overlong forms and surrogates from characters. -/
private theorem next_of_three {v : Nat} (hmin : 0x7FF < v) (hmax : v ≤ 0xFFFF)
    (hvalid : v < 0xD800 ∨ 0xDFFF < v) (rest : List UInt8) :
    next (UInt8.ofNat (v / 4096 % 0x10 + 0xE0))
        (UInt8.ofNat (v / 64 % 0x40 + 0x80) :: UInt8.ofNat (v % 0x40 + 0x80) :: rest) =
      (some (Char.ofNat v), rest) := by
  obtain ⟨hb, hl⟩ := lead?_of_three (k := v / 4096 % 0x10) (by omega)
  have hv : (v / 4096 % 0x10 * 64 + v / 64 % 0x40) * 64 + v % 0x40 = v := by omega
  have hlow : (if v / 4096 % 0x10 = 0 then (0xA0 : UInt8) else 0x80).toNat ≤
      v / 64 % 0x40 + 0x80 := by
    split
    · change 160 ≤ _
      omega
    · exact Nat.le_add_left _ _
  have hhigh : v / 64 % 0x40 + 0x80 ≤
      (if v / 4096 % 0x10 = 13 then (0x9F : UInt8) else 0xBF).toNat := by
    split
    · change _ ≤ 159
      omega
    · change _ ≤ 191
      omega
  rw [next_cons hb hl (by omega) hlow hhigh, continue?_cons _ _ (by omega), continue?, hv]

/-- Of four bytes, the second tells overlong forms and what is beyond U+10FFFF from characters. -/
private theorem next_of_four {v : Nat} (hmin : 0xFFFF < v) (hmax : v < 0x110000)
    (rest : List UInt8) :
    next (UInt8.ofNat (v / 262144 % 0x08 + 0xF0))
        (UInt8.ofNat (v / 4096 % 0x40 + 0x80) :: UInt8.ofNat (v / 64 % 0x40 + 0x80) ::
          UInt8.ofNat (v % 0x40 + 0x80) :: rest) =
      (some (Char.ofNat v), rest) := by
  obtain ⟨hb, hl⟩ := lead?_of_four (k := v / 262144 % 0x08) (by omega)
  have hv : ((v / 262144 % 0x08 * 64 + v / 4096 % 0x40) * 64 + v / 64 % 0x40) * 64 +
      v % 0x40 = v := by omega
  have hlow : (if v / 262144 % 0x08 = 0 then (0x90 : UInt8) else 0x80).toNat ≤
      v / 4096 % 0x40 + 0x80 := by
    split
    · change 144 ≤ _
      omega
    · exact Nat.le_add_left _ _
  have hhigh : v / 4096 % 0x40 + 0x80 ≤
      (if v / 262144 % 0x08 = 4 then (0x8F : UInt8) else 0xBF).toNat := by
    split
    · change _ ≤ 143
      omega
    · change _ ≤ 191
      omega
  rw [next_cons hb hl (by omega) hlow hhigh, continue?_cons _ _ (by omega),
    continue?_cons _ _ (by omega), continue?, hv]

/-- The bytes of a character are taken together, and give the character. -/
theorem next_encodeChar (c : Char) (rest : List UInt8) :
    ∃ b bs, String.utf8EncodeChar c = b :: bs ∧ next b (bs ++ rest) = (some c, rest) := by
  have hvalid : c.val.toNat < 0xD800 ∨ 0xDFFF < c.val.toNat ∧ c.val.toNat < 0x110000 := c.valid
  have hofNat : Char.ofNat c.val.toNat = c := Char.ofNat_toNat c
  rw [String.utf8EncodeChar]
  generalize c.val.toNat = v at hvalid hofNat
  subst hofNat
  -- One case for each number of bytes.
  split
  · rename_i hone
    exact ⟨_, _, rfl, next_of_one hone rest⟩
  · rename_i hone
    split
    · rename_i htwo
      exact ⟨_, _, rfl, next_of_two (Nat.lt_of_not_le hone) htwo rest⟩
    · rename_i htwo
      split
      · rename_i hthree
        exact ⟨_, _, rfl, next_of_three (Nat.lt_of_not_le htwo) hthree (by omega) rest⟩
      · rename_i hthree
        exact ⟨_, _, rfl, next_of_four (Nat.lt_of_not_le hthree) (by omega) rest⟩

/-- A byte below 0x80 makes up a character by itself. -/
theorem eq_ofNat_of_mem_encodeChar {b : UInt8} {c : Char} (h : b ∈ String.utf8EncodeChar c)
    (hb : b < 0x80) : c = Char.ofNat b.toNat := by
  have hofNat : Char.ofNat c.val.toNat = c := Char.ofNat_toNat c
  rw [String.utf8EncodeChar] at h
  generalize c.val.toNat = v at h hofNat
  rw [UInt8.lt_iff_toNat_lt] at hb
  change b.toNat < 128 at hb
  split at h
  · rw [List.mem_singleton] at h
    rw [h, UInt8.toNat_ofNat', Nat.mod_eq_of_lt (by omega), hofNat]
  · -- In a longer character every byte has its highest bit set.
    have hhigh : ∀ n, 0x80 ≤ n → n < 0x100 → b ≠ UInt8.ofNat n := by
      rintro n hn hlt rfl
      rw [UInt8.toNat_ofNat'] at hb
      omega
    split at h
    · simp only [List.mem_cons, List.not_mem_nil, or_false] at h
      rcases h with h | h <;> exact absurd h (hhigh _ (by omega) (by omega))
    · split at h
      · simp only [List.mem_cons, List.not_mem_nil, or_false] at h
        rcases h with h | h | h <;> exact absurd h (hhigh _ (by omega) (by omega))
      · simp only [List.mem_cons, List.not_mem_nil, or_false] at h
        rcases h with h | h | h | h <;> exact absurd h (hhigh _ (by omega) (by omega))

/-! ### Texts -/

@[simp] theorem encode_nil : encode [] = [] := rfl

theorem encode_cons (c : Char) (cs : List Char) :
    encode (c :: cs) = String.utf8EncodeChar c ++ encode cs := rfl

theorem encode_append (a b : List Char) : encode (a ++ b) = encode a ++ encode b :=
  List.flatMap_append

theorem encode_ne_nil {cs : List Char} (h : cs ≠ []) : encode cs ≠ [] := by
  obtain ⟨c, cs, rfl⟩ := List.exists_cons_of_ne_nil h
  obtain ⟨b, bs, hc, -⟩ := next_encodeChar c []
  rw [encode_cons, hc]
  exact List.cons_ne_nil _ _

/-- A byte below 0x80 stands only for itself. -/
theorem mem_of_mem_encode {b : UInt8} {cs : List Char} (h : b ∈ encode cs) (hb : b < 0x80) :
    Char.ofNat b.toNat ∈ cs := by
  obtain ⟨c, hc, hbc⟩ := List.mem_flatMap.1 h
  rwa [← eq_ofNat_of_mem_encodeChar hbc hb]

private theorem piecesInto_eq_append (acc : Array (Option Char)) (bs : List UInt8) :
    piecesInto acc bs = acc ++ piecesInto #[] bs := by
  induction h : bs.length using Nat.strongRecOn generalizing acc bs with
  | ind n ih =>
    cases bs with
    | nil => simp [piecesInto]
    | cons b bs =>
      have hlt : (next b bs).2.length < n := by
        have := length_next_le b bs
        rw [List.length_cons] at h
        omega
      rw [piecesInto, piecesInto, ih _ hlt (acc.push _) _ rfl, ih _ hlt (#[].push _) _ rfl]
      simp

theorem pieces_nil : pieces [] = [] := by simp [pieces, piecesInto]

theorem pieces_cons (b : UInt8) (bs : List UInt8) :
    pieces (b :: bs) = (next b bs).1 :: pieces (next b bs).2 := by
  rw [pieces, piecesInto, piecesInto_eq_append]
  simp [pieces]

/-- The bytes of a text give its characters, whatever follows. -/
theorem pieces_encode_append (cs : List Char) (rest : List UInt8) :
    pieces (encode cs ++ rest) = cs.map some ++ pieces rest := by
  induction cs with
  | nil => rfl
  | cons c cs ih =>
    obtain ⟨b, bs, hb, hnext⟩ := next_encodeChar c (encode cs ++ rest)
    rw [encode_cons, hb, List.append_assoc, List.cons_append, pieces_cons, hnext, ih]
    rfl

/-- The bytes of a text stand for its characters and nothing else. -/
theorem pieces_encode (cs : List Char) : pieces (encode cs) = cs.map some := by
  have h := pieces_encode_append cs []
  rwa [List.append_nil, pieces_nil, List.append_nil] at h

/-- The bytes of a text are read back to it. -/
theorem decodeLossy_encode (cs : List Char) : decodeLossy (encode cs) = cs := by
  rw [decodeLossy, pieces_encode]
  simp

theorem decode?_encode (cs : List Char) : decode? (encode cs) = some cs := by
  rw [decode?, pieces_encode]
  induction cs with
  | nil => rfl
  | cons c cs ih =>
    rw [List.map_cons, List.mapM_cons, ih]
    rfl

/-! ### Any bytes -/

/-- The second byte of a longer character is none of those below 0x80, and neither is the character
that the two begin. -/
private theorem le_low_of_lead? {b : UInt8} {lead : Lead} (h : lead? b = some lead) :
    0x80 ≤ lead.low.toNat ∧
      0x80 ≤ (lead.bits * 64 + (lead.low.toNat - 0x80)) * 64 ^ lead.more := by
  simp only [lead?, UInt8.lt_iff_toNat_lt, ← UInt8.toNat_inj, UInt8.reduceToNat] at h
  split at h
  · exact absurd h nofun
  · split at h
    · rw [← Option.some.inj h]
      dsimp only [UInt8.reduceToNat]
      omega
    · split at h
      · rw [← Option.some.inj h]
        dsimp only
        split <;> dsimp only [UInt8.reduceToNat] <;> omega
      · split at h
        · rw [← Option.some.inj h]
          dsimp only
          split <;> dsimp only [UInt8.reduceToNat] <;> omega
        · exact absurd h nofun

variable {a : UInt8}

/-- A byte below 0x80 ends the character in front of it. -/
private theorem continue?_append (ha : a < 0x80) (n acc : Nat) (bs rest : List UInt8) :
    continue? n acc (bs ++ a :: rest) =
      ((continue? n acc bs).1, (continue? n acc bs).2 ++ a :: rest) := by
  fun_induction continue? n acc bs with
  | case1 => rw [continue?]
  | case2 n acc =>
    have hout : ¬ (0x80 ≤ a ∧ a ≤ 0xBF) := fun h => absurd ha (UInt8.not_lt.2 h.1)
    rw [List.nil_append, continue?, if_neg hout]
  | case3 n acc b bs hb ih => rw [List.cons_append, continue?, if_pos hb, ih]
  | case4 n acc b bs hb =>
    rw [List.cons_append, continue?, if_neg hb]

private theorem next_append (ha : a < 0x80) (b : UInt8) (bs rest : List UInt8) :
    next b (bs ++ a :: rest) = ((next b bs).1, (next b bs).2 ++ a :: rest) := by
  by_cases hb : b < 0x80
  · simp only [next, if_pos hb]
  · cases hl : lead? b with
    | none => simp only [next, if_neg hb, hl]
    | some lead =>
      cases bs with
      | nil =>
        have hout : ¬ (lead.low ≤ a ∧ a ≤ lead.high) := fun h =>
          absurd (UInt8.lt_of_lt_of_le ha (le_low_of_lead? hl).1) (UInt8.not_lt.2 h.1)
        simp only [next, if_neg hb, hl, List.nil_append, if_neg hout]
      | cons c cs =>
        simp only [next, if_neg hb, hl, List.cons_append]
        split
        · exact continue?_append ha _ _ _ _
        · rfl

/-- A byte below 0x80 divides what stands in front of it from what follows. -/
theorem pieces_append_cons (ha : a < 0x80) (bs rest : List UInt8) :
    pieces (bs ++ a :: rest) = pieces bs ++ pieces (a :: rest) := by
  induction h : bs.length using Nat.strongRecOn generalizing bs with
  | ind n ih =>
    cases bs with
    | nil => rw [pieces_nil, List.nil_append, List.nil_append]
    | cons b bs =>
      have hlt : (next b bs).2.length < n := by
        have := length_next_le b bs
        rw [List.length_cons] at h
        omega
      rw [List.cons_append, pieces_cons, pieces_cons b bs, next_append ha, ih _ hlt _ rfl,
        List.cons_append]

theorem decodeLossy_append_cons (ha : a < 0x80) (bs rest : List UInt8) :
    decodeLossy (bs ++ a :: rest) = decodeLossy bs ++ decodeLossy (a :: rest) := by
  rw [decodeLossy, pieces_append_cons ha, List.map_append]
  rfl

/-- The bits of a longer character are at least those of its beginning. -/
private theorem exists_of_continue? {n acc : Nat} {bs : List UInt8} {c : Char}
    (h : (continue? n acc bs).1 = some c) : ∃ v, acc * 64 ^ n ≤ v ∧ c = Char.ofNat v := by
  fun_induction continue? n acc bs with
  | case1 acc bs => exact ⟨acc, by omega, by cases h; rfl⟩
  | case2 => cases h
  | case3 n acc b bs hb ih =>
    obtain ⟨v, hv, hc⟩ := ih h
    refine ⟨v, Nat.le_trans ?_ hv, hc⟩
    rw [Nat.pow_succ, Nat.mul_comm (64 ^ n), ← Nat.mul_assoc]
    exact Nat.mul_le_mul_right _ (Nat.le_add_right _ _)
  | case4 => cases h

/-- A longer character is none of those below 0x80. -/
private theorem exists_of_next {b : UInt8} {bs : List UInt8} {c : Char}
    (h : (next b bs).1 = some c) (hb : ¬ b < 0x80) : ∃ v, 0x80 ≤ v ∧ c = Char.ofNat v := by
  simp only [next, if_neg hb] at h
  split at h
  · rename_i lead x cs hl
    split at h
    · rename_i hx
      obtain ⟨v, hv, hc⟩ := exists_of_continue? h
      refine ⟨v, Nat.le_trans (le_low_of_lead? hl).2 (Nat.le_trans ?_ hv), hc⟩
      have hlow := UInt8.le_iff_toNat_le.1 hx.1
      exact Nat.mul_le_mul_right _ (by omega)
    · cases h
  · cases h

/-- An impossible number makes the zero character. -/
private theorem toNat_ofNat (v : Nat) :
    (Char.ofNat v).toNat = v ∨ (Char.ofNat v).toNat = 0 := by
  rw [Char.ofNat]
  by_cases hvalid : v.isValidChar
  · exact .inl (by rw [dif_pos hvalid]; rfl)
  · exact .inr (by rw [dif_neg hvalid]; rfl)

private theorem suffix_continue? (n acc : Nat) (bs : List UInt8) :
    (continue? n acc bs).2 <:+ bs := by
  fun_induction continue? n acc bs with
  | case1 => exact List.suffix_rfl
  | case2 => exact List.suffix_rfl
  | case3 n acc b bs hb ih => exact ih.trans (List.suffix_cons b bs)
  | case4 => exact List.suffix_rfl

theorem suffix_next (b : UInt8) (bs : List UInt8) : (next b bs).2 <:+ bs := by
  unfold next
  split
  · exact List.suffix_rfl
  · split
    · split
      · exact (suffix_continue? _ _ _).trans (List.suffix_cons _ _)
      · exact List.suffix_rfl
    · exact List.suffix_rfl

/-- A character below 0x80 stands for its own byte. The zero character is left out, which would
stand for an impossible number. -/
theorem mem_of_mem_pieces {c : Char} {bs : List UInt8} (h : some c ∈ pieces bs)
    (hpos : 0 < c.toNat) (hc : c.toNat < 0x80) : UInt8.ofNat c.toNat ∈ bs := by
  induction hlength : bs.length using Nat.strongRecOn generalizing bs with
  | ind n ih =>
    cases bs with
    | nil =>
      rw [pieces_nil] at h
      exact absurd h List.not_mem_nil
    | cons b bs =>
      rw [pieces_cons] at h
      rcases List.mem_cons.1 h with hfirst | hlater
      · by_cases hb : b < 0x80
        · have hbyte : c = Char.ofNat b.toNat := by simpa [next, if_pos hb] using hfirst
          have hvalue : c.toNat = b.toNat := by
            have := toNat_ofNat b.toNat
            rw [← hbyte] at this
            omega
          rw [hvalue, UInt8.ofNat_toNat]
          exact List.mem_cons_self
        · obtain ⟨v, hv, rfl⟩ := exists_of_next hfirst.symm hb
          have := toNat_ofNat v
          omega
      · have hlt : (next b bs).2.length < n := by
          have := length_next_le b bs
          rw [List.length_cons] at hlength
          omega
        exact List.mem_cons_of_mem _ ((suffix_next b bs).subset (ih _ hlt hlater rfl))

theorem mem_of_mem_decodeLossy {c : Char} {bs : List UInt8} (h : c ∈ decodeLossy bs)
    (hpos : 0 < c.toNat) (hc : c.toNat < 0x80) : UInt8.ofNat c.toNat ∈ bs := by
  obtain ⟨piece, hpiece, rfl⟩ := List.mem_map.1 h
  cases piece with
  | none => exact absurd hc (by decide)
  | some c => exact mem_of_mem_pieces hpiece hpos hc

end EventCamera.Utf8
