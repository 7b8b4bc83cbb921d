import EventCamera.Text.HiddenTable
/-!
# Quoted texts

A text between double quotes, in which every character that would not be seen as itself is
written by an escape.

## Main definitions

* `Text.escape` — how one character is written between the quotes
* `Text.quote` — a text between quotes
* `Text.hex` — the hexadecimal digits of a number
-/

namespace EventCamera.Text

/-- The lower-case hexadecimal digits of a number, without leading zeros. -/
def hex (n : Nat) : List Char := Nat.toDigits 16 n

/-- A quote, a backslash and the control characters with a letter of their own are written with a
backslash; other characters that are not shown as themselves by their code point. -/
def escape (c : Char) : List Char :=
  if c = '"' then ['\\', '"']
  else if c = '\\' then ['\\', '\\']
  else if c = '\t' then ['\\', 't']
  else if c = '\r' then ['\\', 'r']
  else if c = '\n' then ['\\', 'n']
  else if c.toNat = 0 then ['\\', '0']
  else if c.toNat < 0x20 || c.toNat = 0x7F || (0x80 ≤ c.toNat && inRanges hiddenRanges c.toNat) then
    ['\\', 'u', '\x7b'] ++ hex c.toNat ++ ['\x7d']
  else [c]

/-- A text between double quotes. -/
def quote (s : String) : String :=
  String.ofList ('"' :: s.toList.flatMap escape ++ ['"'])

end EventCamera.Text
