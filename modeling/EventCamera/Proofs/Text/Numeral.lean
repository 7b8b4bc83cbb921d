import EventCamera.Proofs.Text.Trim
import EventCamera.Text.Numeral

/-!
# Decimal digits of a number

## Main results

* `Numeral.parse_decimal` — the digits of a number are read back to it
* `Numeral.isDigit_of_mem_decimal`, `Numeral.decimal_ne_nil` — they are digits, at least one
* `Numeral.isBlank_of_mem_decimal`, `Numeral.trim_decimal` — there are no blanks among them
-/

namespace EventCamera.Numeral

theorem isDigit_of_mem_decimal {c : Char} {n : Nat} (h : c ∈ decimal n) : c.isDigit = true :=
  Nat.isDigit_of_mem_toDigits (by decide) (by decide) h

/-- What is no digit does not stand among the digits of a number. -/
theorem not_mem_decimal {c : Char} (hc : c.isDigit = false) (n : Nat) : c ∉ decimal n := by
  intro hmem
  rw [isDigit_of_mem_decimal hmem] at hc
  cases hc

theorem isBlank_of_mem_decimal {c : Char} {n : Nat} (h : c ∈ decimal n) :
    Text.isBlank c = false :=
  Text.isBlank_of_isDigit (isDigit_of_mem_decimal h)

theorem trim_decimal (n : Nat) : Text.trim (decimal n) = decimal n :=
  Text.trim_eq_self fun _ => isBlank_of_mem_decimal

theorem decimal_ne_nil (n : Nat) : decimal n ≠ [] := Nat.toDigits_ne_nil

/-- Reading further digits does not make a number smaller. -/
private theorem le_ofDigitChars (acc : Nat) (cs : List Char) :
    acc ≤ Nat.ofDigitChars 10 cs acc := by
  induction cs generalizing acc with
  | nil => exact Nat.le_of_eq Nat.ofDigitChars_nil.symm
  | cons c cs ih =>
    rw [Nat.ofDigitChars_cons]
    exact Nat.le_trans (by omega) (ih _)

/-- Digits are read as long as the number stays within the bound. -/
theorem readDigits_eq_ok {bound acc : Nat} {cs : List Char} (hcs : ∀ c ∈ cs, c.isDigit = true)
    (hbound : Nat.ofDigitChars 10 cs acc ≤ bound) :
    readDigits bound acc cs = .ok (Nat.ofDigitChars 10 cs acc) := by
  -- The number read so far grows with each digit, so that it is in the bound all along.
  induction cs generalizing acc with
  | nil => rw [readDigits, Nat.ofDigitChars_nil]
  | cons c cs ih =>
    have hc : digit? c = some (c.toNat - '0'.toNat) := by
      rw [digit?, if_pos (hcs c List.mem_cons_self)]
    rw [Nat.ofDigitChars_cons] at hbound ⊢
    have hle := Nat.le_trans (le_ofDigitChars _ cs) hbound
    rw [readDigits, hc]
    dsimp only
    rw [if_neg (Nat.not_lt.2 hle)]
    exact ih (fun c hc => hcs c (List.mem_cons_of_mem _ hc)) hbound

/-- The digits of a number within the bound are read back to it. -/
theorem parse_decimal {bound n : Nat} (h : n ≤ bound) : parse bound (decimal n) = .ok n := by
  have hvalue : Nat.ofDigitChars 10 (decimal n) 0 = n := Nat.ofDigitChars_ten_toDigits
  have hread : readDigits bound 0 (decimal n) = .ok n := by
    rw [readDigits_eq_ok (fun c => isDigit_of_mem_decimal) (by rwa [hvalue]), hvalue]
  have hplus : '+' ∉ decimal n := not_mem_decimal rfl n
  -- A leading plus would be taken off, but no digit is one.
  rw [parse.eq_def]
  split
  · rename_i hnil
    exact absurd hnil (decimal_ne_nil n)
  · rename_i hcs
    exact absurd (hcs ▸ List.mem_cons_self) hplus
  · rename_i hcs
    exact absurd (hcs ▸ List.mem_cons_self) hplus
  · exact hread

theorem parse32_decimal (n : UInt32) : parse32 (decimal n.toNat) = .ok n := by
  have hlt := n.toNat_lt_size
  rw [parse32, parse_decimal (by omega)]
  exact congrArg Except.ok (UInt32.ofNat_toNat)

theorem parse64_decimal {n : Nat} (h : n < UInt64.size) :
    parse64 (decimal n) = .ok (UInt64.ofNat n) := by
  have hbound : n ≤ UInt64.size - 1 := Nat.le_sub_one_of_lt h
  rw [parse64, parse_decimal hbound]
  rfl

end EventCamera.Numeral
