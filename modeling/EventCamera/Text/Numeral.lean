/-!
# Unsigned numerals

Reading a decimal numeral up to a bound, from left to right, with the cause of the first failure.

## Main definitions

* `NumeralError` — why a text is no numeral
* `Numeral.parse` — one optional `+`, then ASCII digits only, with a value up to the bound
* `Numeral.decimal` — the decimal digits of a number
-/

namespace EventCamera

/-- Why a text is not read as a number. -/
inductive NumeralError where
  | empty
  /-- A character is no digit, or a sign stands alone. -/
  | invalidDigit
  | tooLarge
deriving DecidableEq

/-- The wording of a numeral's failure. -/
def NumeralError.message : NumeralError → String
  | .empty => "cannot parse integer from empty string"
  | .invalidDigit => "invalid digit found in string"
  | .tooLarge => "number too large to fit in target type"

namespace Numeral

/-- The value of an ASCII digit. -/
def digit? (c : Char) : Option Nat :=
  if c.isDigit then some (c.toNat - '0'.toNat) else none

/-- Appends the digits `cs` to the number `acc`; the first character that is no digit, or that
takes the number past `bound`, decides the failure. -/
def readDigits (bound : Nat) : Nat → List Char → Except NumeralError Nat
  | acc, [] => .ok acc
  | acc, c :: cs =>
    match digit? c with
    | none => .error .invalidDigit
    | some d =>
      if bound < 10 * acc + d then .error .tooLarge else readDigits bound (10 * acc + d) cs

/-- Reads one optional `+` and at least one ASCII digit as a number up to `bound`. -/
def parse (bound : Nat) : List Char → Except NumeralError Nat
  | [] => .error .empty
  | ['+'] => .error .invalidDigit
  | '+' :: cs => readDigits bound 0 cs
  | cs => readDigits bound 0 cs

/-- Reads a number of 32 bits. -/
def parse32 (cs : List Char) : Except NumeralError UInt32 :=
  (parse (UInt32.size - 1) cs).map UInt32.ofNat

/-- Reads a number of 64 bits. -/
def parse64 (cs : List Char) : Except NumeralError UInt64 :=
  (parse (UInt64.size - 1) cs).map UInt64.ofNat

/-- The decimal digits of a number, without leading zeros. -/
def decimal (n : Nat) : List Char := Nat.toDigits 10 n

end Numeral

end EventCamera
