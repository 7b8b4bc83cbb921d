import EventCamera.Text.Numeral
import EventCamera.Text.Trim
/-!
# Dates and times

The date of a recording: a time of day in the Gregorian calendar, and its written form
`year-month-day hour:minute:second`.

## Main definitions

* `DateTime` — a possible date and time, of which `DateTime.IsPossible` is the condition
* `DateTime.render` — the written form
* `DateTime.parse` — reads the written form, blanks in front of numbers aside, or says with
  `DateError` what is wrong first
-/

namespace EventCamera

/-- Why a text is not read as a date and time. -/
inductive DateError where
  /-- The text ends where a digit or a separator is due. -/
  | premature
  /-- Another character stands where a digit or a separator is due. -/
  | invalid
  /-- A number is not possible at its place, or there is no such date. -/
  | outOfRange
  | trailing
deriving DecidableEq

/-- The wording of a failure. -/
def DateError.message : DateError → String
  | .premature => "premature end of input"
  | .invalid => "input contains invalid characters"
  | .outOfRange => "input is out of range"
  | .trailing => "trailing input"

/-- A leap year has a multiple of four as its number, and one of 400 if it is one of 100. -/
def isLeapYear (year : Int) : Bool := year % 4 == 0 && (year % 100 != 0 || year % 400 == 0)

/-- Length of a month. -/
def daysInMonth (year : Int) (month : Nat) : Nat :=
  if month = 2 then if isLeapYear year then 29 else 28
  else if month = 4 || month = 6 || month = 9 || month = 11 then 30
  else 31

namespace DateTime

/-- There is such a date and time. A leap second is second 60 of its minute. -/
def IsPossible (year : Int) (month day hour minute second : Nat) : Prop :=
  (-262143 ≤ year ∧ year ≤ 262142) ∧ (1 ≤ month ∧ month ≤ 12) ∧
    (1 ≤ day ∧ day ≤ daysInMonth year month) ∧ hour ≤ 23 ∧ minute ≤ 59 ∧ second ≤ 60

instance (year : Int) (month day hour minute second : Nat) :
    Decidable (IsPossible year month day hour minute second) := by
  unfold IsPossible; infer_instance

end DateTime

/-- A date and a time of day. -/
structure DateTime where
  year : Int
  month : Nat
  day : Nat
  hour : Nat
  minute : Nat
  second : Nat
  isPossible : DateTime.IsPossible year month day hour minute second := by decide
deriving DecidableEq

namespace DateTime

/-- The decimal digits of a number, with zeros in front up to a width. -/
def padded (width n : Nat) : List Char :=
  let digits := Numeral.decimal n
  List.replicate (width - digits.length) '0' ++ digits

/-- A year has four digits; beyond 0 to 9999 it has a sign and at least four. -/
def renderYear (year : Int) : List Char :=
  if 0 ≤ year ∧ year ≤ 9999 then padded 4 year.toNat
  else (if year < 0 then '-' else '+') :: padded 4 year.natAbs

/-- The written form of a date and time. -/
def render (d : DateTime) : List Char :=
  renderYear d.year ++ '-' :: padded 2 d.month ++ '-' :: padded 2 d.day ++ ' ' ::
    padded 2 d.hour ++ ':' :: padded 2 d.minute ++ ':' :: padded 2 d.second

/-- Reads at least one and at most `width` digits, as far as they go. -/
def readNumber (width : Nat) (cs : List Char) : Except DateError (Nat × List Char) :=
  match cs with
  | [] => .error .premature
  | c :: _ =>
    if c.isDigit then
      -- Digits beyond the width are left for what is due next.
      let digits := (cs.take width).takeWhile Char.isDigit
      let n := Nat.ofDigitChars 10 digits 0
      if n ≤ 0x7FFFFFFFFFFFFFFF then .ok (n, cs.drop digits.length) else .error .outOfRange
    else .error .invalid

/-- Reads a number of at most two digits, blanks in front of it aside, that is at least `least` and
at most `greatest`. -/
def readPart (least greatest : Nat) (cs : List Char) : Except DateError (Nat × List Char) := do
  let (n, rest) ← readNumber 2 (Text.trimStart cs)
  if least ≤ n ∧ n ≤ greatest then .ok (n, rest) else .error .outOfRange

/-- Reads a year, blanks in front of it aside: up to four digits, or any number after a sign. -/
def readYear (cs : List Char) : Except DateError (Int × List Char) := do
  let cs := Text.trimStart cs
  let (year, rest) ← match cs with
    | '-' :: cs => (readNumber cs.length cs).map fun (n, rest) => (-(n : Int), rest)
    | '+' :: cs => (readNumber cs.length cs).map fun (n, rest) => ((n : Int), rest)
    | cs => (readNumber 4 cs).map fun (n, rest) => ((n : Int), rest)
  if -0x80000000 ≤ year ∧ year ≤ 0x7FFFFFFF then .ok (year, rest) else .error .outOfRange

/-- Reads one given character. -/
def readMark (mark : Char) (cs : List Char) : Except DateError (List Char) :=
  match cs with
  | [] => .error .premature
  | c :: cs => if c = mark then .ok cs else .error .invalid

/-- Reads a date and time. Each number is judged when it has been read; whether the month has the
day, and the calendar the year, after all of it. -/
def parse (cs : List Char) : Except DateError DateTime := do
  let (year, cs) ← readYear cs
  let cs ← readMark '-' cs
  let (month, cs) ← readPart 1 12 cs
  let cs ← readMark '-' cs
  let (day, cs) ← readPart 1 31 cs
  -- Between the day and the hour no mark is due, and blanks are passed over anyway.
  let (hour, cs) ← readPart 0 23 cs
  let cs ← readMark ':' cs
  let (minute, cs) ← readPart 0 59 cs
  let cs ← readMark ':' cs
  let (second, cs) ← readPart 0 60 cs
  if cs.isEmpty then
    if h : IsPossible year month day hour minute second then
      .ok ⟨year, month, day, hour, minute, second, h⟩
    else .error .outOfRange
  else .error .trailing

end DateTime

end EventCamera
