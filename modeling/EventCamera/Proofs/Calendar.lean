import EventCamera.Calendar
import EventCamera.Proofs.Text.Numeral
import EventCamera.Proofs.Text.Trim
import Mathlib.Data.Nat.Digits.Defs

/-!
# Dates as they are written

A date is read back from its written form, also one whose year has a sign, and one within a leap
second. Reading goes number by number, and each number ends at the mark that follows it.

## Main results

* `DateTime.readNumber_append` — a number is read up to the character that ends it
* `DateTime.readYear_renderYear`, `DateTime.readPart_padded` — the parts of a date
* `DateTime.trim_render`, `DateTime.feed_not_mem_render` — a written date has no blanks around it and
  no line feeds
* `DateTime.parse_render` — a date is read back from its written form
-/

namespace EventCamera.DateTime

/-! ### Numbers with zeros in front -/

theorem isDigit_of_mem_padded {c : Char} {width n : Nat} (h : c ∈ padded width n) :
    c.isDigit = true := by
  rcases List.mem_append.1 h with h | h
  · rw [List.eq_of_mem_replicate h]
    rfl
  · exact Numeral.isDigit_of_mem_decimal h

theorem padded_ne_nil (width n : Nat) : padded width n ≠ [] := by
  intro h
  exact Numeral.decimal_ne_nil n (List.append_eq_nil_iff.1 h).2

theorem length_padded {width n : Nat} (hwidth : 0 < width) (h : n < 10 ^ width) :
    (padded width n).length = width := by
  have := Nat.toDigits_length 10 n width hwidth h
  simp only [padded, Numeral.decimal, List.length_append, List.length_replicate]
  omega

/-- Zeros in front do not change a number. -/
theorem ofDigitChars_padded (width n : Nat) : Nat.ofDigitChars 10 (padded width n) 0 = n := by
  have hzeros (k : Nat) : Nat.ofDigitChars 10 (List.replicate k '0') 0 = 0 := by
    induction k with
    | zero => exact Nat.ofDigitChars_nil
    | succ k ih =>
      rw [List.replicate_succ, Nat.ofDigitChars_cons]
      exact ih
  rw [padded, Nat.ofDigitChars_append, hzeros]
  exact Nat.ofDigitChars_ten_toDigits

/-! ### Parts of a date -/

/-- A number is read up to the character that ends it. -/
theorem readNumber_append {width : Nat} {digits rest : List Char} (hne : digits ≠ [])
    (hdigits : ∀ c ∈ digits, c.isDigit = true) (hwidth : digits.length ≤ width)
    (hrest : ∀ c ∈ rest.head?, c.isDigit = false)
    (hvalue : Nat.ofDigitChars 10 digits 0 ≤ 0x7FFFFFFFFFFFFFFF) :
    readNumber width (digits ++ rest) = .ok (Nat.ofDigitChars 10 digits 0, rest) := by
  have hstop (k : Nat) : (rest.take k).takeWhile Char.isDigit = [] := by
    cases rest with
    | nil => rw [List.take_nil, List.takeWhile_nil]
    | cons c rest =>
      cases k with
      | zero => rfl
      | succ k =>
        have hc : ¬ c.isDigit = true := by simp [hrest c rfl]
        rw [List.take_succ_cons, List.takeWhile_cons_of_neg hc]
  have htaken : ((digits ++ rest).take width).takeWhile Char.isDigit = digits := by
    rw [List.take_append, List.take_of_length_le hwidth, List.takeWhile_append_of_pos hdigits,
      hstop, List.append_nil]
  obtain ⟨c, cs, rfl⟩ := List.exists_cons_of_ne_nil hne
  rw [readNumber.eq_def]
  simp only [List.cons_append] at htaken ⊢
  simp only [htaken, hdigits c List.mem_cons_self, if_true, hvalue]
  rw [← List.cons_append, List.drop_left]

variable {width n least greatest : Nat} {rest : List Char}

theorem readNumber_padded {limit : Nat} (hwidth : (padded width n).length ≤ limit)
    (hrest : ∀ c ∈ rest.head?, c.isDigit = false) (hn : n ≤ 0x7FFFFFFFFFFFFFFF) :
    readNumber limit (padded width n ++ rest) = .ok (n, rest) := by
  have hvalue := ofDigitChars_padded width n
  rw [readNumber_append (padded_ne_nil width n) (fun c => isDigit_of_mem_padded) hwidth hrest
    (by rwa [hvalue]), hvalue]

/-- There are no blanks in front of a number to pass over. -/
theorem trimStart_padded_append (width n : Nat) (rest : List Char) :
    Text.trimStart (padded width n ++ rest) = padded width n ++ rest := by
  obtain ⟨c, cs, hcs⟩ := List.exists_cons_of_ne_nil (padded_ne_nil width n)
  have hc : c.isDigit = true := isDigit_of_mem_padded (hcs ▸ List.mem_cons_self)
  rw [hcs]
  exact Text.trimStart_cons_of_not_blank (Text.isBlank_of_isDigit hc) _

theorem readPart_padded (hleast : least ≤ n) (hgreatest : n ≤ greatest) (hn : n < 100)
    (hrest : ∀ c ∈ rest.head?, c.isDigit = false) :
    readPart least greatest (padded 2 n ++ rest) = .ok (n, rest) := by
  have hlength : (padded 2 n).length = 2 := length_padded (by decide) hn
  rw [readPart, trimStart_padded_append, readNumber_padded (by omega) hrest (by omega)]
  exact if_pos ⟨hleast, hgreatest⟩

theorem readPart_blank (least greatest : Nat) (cs : List Char) :
    readPart least greatest (' ' :: cs) = readPart least greatest cs := by
  rw [readPart, Text.trimStart_cons_of_blank (by decide)]
  rfl

theorem readMark_cons (mark : Char) (cs : List Char) : readMark mark (mark :: cs) = .ok cs :=
  if_pos rfl

/-- Up to 9999, a year has four digits and no sign. -/
private theorem readYear_padded (hn : n ≤ 9999) (hrest : ∀ c ∈ rest.head?, c.isDigit = false) :
    readYear (padded 4 n ++ rest) = .ok ((n : Int), rest) := by
  have hlength : (padded 4 n).length = 4 := length_padded (by decide) (by omega)
  have hread : readNumber 4 (padded 4 n ++ rest) = .ok (n, rest) :=
    readNumber_padded (by omega) hrest (by omega)
  have hhead {c : Char} {cs : List Char} (hcs : padded 4 n ++ rest = c :: cs) :
      c.isDigit = true := by
    obtain ⟨d, ds, hds⟩ := List.exists_cons_of_ne_nil (padded_ne_nil 4 n)
    rw [hds] at hcs
    cases hcs
    exact isDigit_of_mem_padded (hds ▸ List.mem_cons_self)
  rw [readYear, trimStart_padded_append]
  dsimp only
  -- The first character is a digit, so that it is no sign.
  split
  · rename_i hcs
    exact absurd (hhead hcs) (by decide)
  · rename_i hcs
    exact absurd (hhead hcs) (by decide)
  · have hrange : -0x80000000 ≤ (n : Int) ∧ (n : Int) ≤ 0x7FFFFFFF := by omega
    rw [hread]
    exact if_pos hrange

/-- Behind a sign, a year goes on to the mark that ends it. -/
private theorem readYear_sign_padded (negative : Bool) (hn : n ≤ 0x7FFFFFFF)
    (hrest : ∀ c ∈ rest.head?, c.isDigit = false) :
    readYear ((if negative then '-' else '+') :: (padded 4 n ++ rest)) =
      .ok (if negative then -(n : Int) else n, rest) := by
  have hread : readNumber (padded 4 n ++ rest).length (padded 4 n ++ rest) = .ok (n, rest) := by
    apply readNumber_padded _ hrest (by omega)
    rw [List.length_append]
    omega
  have hrange : (-0x80000000 ≤ -(n : Int) ∧ -(n : Int) ≤ 0x7FFFFFFF) ∧
      -0x80000000 ≤ (n : Int) ∧ (n : Int) ≤ 0x7FFFFFFF := by omega
  cases negative with
  | true =>
    rw [if_pos rfl, if_pos rfl, readYear, Text.trimStart_cons_of_not_blank (by decide)]
    change (readNumber _ _).map _ >>= _ = _
    rw [hread]
    exact if_pos hrange.1
  | false =>
    rw [if_neg Bool.false_ne_true, if_neg Bool.false_ne_true, readYear,
      Text.trimStart_cons_of_not_blank (by decide)]
    change (readNumber _ _).map _ >>= _ = _
    rw [hread]
    exact if_pos hrange.2

theorem readYear_renderYear {year : Int} (hleast : -262143 ≤ year) (hgreatest : year ≤ 262142)
    (hrest : ∀ c ∈ rest.head?, c.isDigit = false) :
    readYear (renderYear year ++ rest) = .ok (year, rest) := by
  rw [renderYear]
  split
  · rw [readYear_padded (by omega) hrest, Int.toNat_of_nonneg (by omega)]
  · have hread := readYear_sign_padded (n := year.natAbs) (year < 0) (by omega) hrest
    rw [List.cons_append]
    simp only [decide_eq_true_eq] at hread
    rw [hread]
    congr 2
    split <;> omega

/-! ### Dates -/

/-- A date is read back from its written form. -/
theorem parse_render (d : DateTime) : parse d.render = .ok d := by
  obtain ⟨year, month, day, hour, minute, second, hpossible⟩ := d
  have ⟨hyear, hmonth, hday, hhour, hminute, hsecond⟩ := hpossible
  have hdays : daysInMonth year month ≤ 31 := by
    rw [daysInMonth]
    split
    · split <;> decide
    · split <;> decide
  have hmark {mark : Char} (hdigit : mark.isDigit = false) (cs : List Char) :
      ∀ c ∈ (mark :: cs).head?, c.isDigit = false := by
    simpa using hdigit
  have hreadYear (cs : List Char) :
      readYear (renderYear year ++ '-' :: cs) = .ok (year, '-' :: cs) :=
    readYear_renderYear hyear.1 hyear.2 (hmark rfl _)
  have hreadMonth (cs : List Char) :
      readPart 1 12 (padded 2 month ++ '-' :: cs) = .ok (month, '-' :: cs) :=
    readPart_padded hmonth.1 hmonth.2 (by omega) (hmark rfl _)
  have hreadDay (cs : List Char) :
      readPart 1 31 (padded 2 day ++ ' ' :: cs) = .ok (day, ' ' :: cs) :=
    readPart_padded hday.1 (by omega) (by omega) (hmark rfl _)
  have hreadHour (cs : List Char) :
      readPart 0 23 (' ' :: (padded 2 hour ++ ':' :: cs)) = .ok (hour, ':' :: cs) := by
    rw [readPart_blank, readPart_padded (Nat.zero_le hour) hhour (by omega) (hmark rfl _)]
  have hreadMinute (cs : List Char) :
      readPart 0 59 (padded 2 minute ++ ':' :: cs) = .ok (minute, ':' :: cs) :=
    readPart_padded (Nat.zero_le minute) hminute (by omega) (hmark rfl _)
  have hreadSecond : readPart 0 60 (padded 2 second) = .ok (second, []) := by
    rw [← List.append_nil (padded 2 second)]
    exact readPart_padded (Nat.zero_le second) hsecond (by omega) nofun
  simp only [render, List.append_assoc, List.cons_append, parse, hreadYear, hreadMonth, hreadDay,
    hreadHour, hreadMinute, hreadSecond, readMark_cons, bind, Except.bind]
  -- Nothing is left, and the date is possible, as it was one.
  exact dif_pos hpossible

theorem isBlank_of_mem_padded {c : Char} {width n : Nat} (h : c ∈ padded width n) :
    Text.isBlank c = false :=
  Text.isBlank_of_isDigit (isDigit_of_mem_padded h)

theorem isBlank_of_mem_renderYear {c : Char} {year : Int} (h : c ∈ renderYear year) :
    Text.isBlank c = false := by
  rw [renderYear] at h
  split at h
  · exact isBlank_of_mem_padded h
  · rcases List.mem_cons.1 h with rfl | h
    · split <;> decide
    · exact isBlank_of_mem_padded h

theorem feed_not_mem_render (d : DateTime) : '\n' ∉ d.render := by
  have hyear : '\n' ∉ renderYear d.year :=
    Text.feed_not_mem_of_not_blank fun c => isBlank_of_mem_renderYear
  have hpadded (n : Nat) : '\n' ∉ padded 2 n :=
    Text.feed_not_mem_of_not_blank fun c => isBlank_of_mem_padded
  simp [render, hyear, hpadded]

/-- There are no blanks around a written date. -/
theorem trim_render (d : DateTime) : Text.trim d.render = d.render := by
  have hyear : renderYear d.year ≠ [] := by
    rw [renderYear]
    split
    · exact padded_ne_nil _ _
    · exact List.cons_ne_nil _ _
  obtain ⟨c, cs, hcs⟩ := List.exists_cons_of_ne_nil hyear
  have hfirst : Text.isBlank c = false := isBlank_of_mem_renderYear (hcs ▸ List.mem_cons_self)
  have hlast : ∀ e ∈ ':' :: padded 2 d.second, Text.isBlank e = false :=
    List.forall_mem_cons.2 ⟨by decide, fun e => isBlank_of_mem_padded⟩
  have hend : Text.trimEnd d.render = d.render := by
    rw [render, Text.trimEnd_append ⟨':', List.mem_cons_self, by decide⟩,
      Text.trimEnd_eq_self hlast]
  conv => rhs; rw [← hend]
  simp only [render, hcs, List.cons_append]
  exact Text.trim_cons_of_not_blank hfirst _

end EventCamera.DateTime
