import EventCamera.Text.CaseTable
import EventCamera.Text.HiddenTable
/-!
# Lower case

The lower-case form of a text, by the rules that hold for every language.

## Main definitions

* `Text.lowerChar` — the lower-case form of one character, out of context
* `Text.lower` — the lower-case form of a text, with a sigma in its final form at a word's end
-/

namespace EventCamera.Text

/-- The lower-case form of one character, out of context. Only U+0130 has one of two characters. -/
def lowerChar (c : Char) : List Char :=
  let n := c.toNat
  if n < 0x80 then [if 0x41 ≤ n && n ≤ 0x5A then Char.ofNat (n + 32) else c]
  else if n = 0x130 then ['i', Char.ofNat 0x307]
  else
    match lowerRuns.find? fun r => r.first ≤ n && n ≤ r.last && (n - r.first) % r.step == 0 with
    | none => [c]
    | some r => [Char.ofNat (n + r.shift).toNat]

/-- The first character that is not case-ignorable is a cased one. -/
def meetsCased (cs : List Char) : Bool :=
  match cs.dropWhile fun c => inRanges caseIgnorableRanges c.toNat with
  | [] => false
  | c :: _ => inRanges casedRanges c.toNat

/-- Lower-cases the text `cs` that follows `before`, the latter read backwards. A capital sigma
takes its final form where a cased letter comes before it and none after it. -/
def lowerFrom (lowered : Array Char) (before : List Char) : List Char → Array Char
  | [] => lowered
  | c :: cs =>
    let form :=
      if c.toNat = 0x3A3 then
        [if meetsCased before && !meetsCased cs then Char.ofNat 0x3C2 else Char.ofNat 0x3C3]
      else lowerChar c
    lowerFrom (lowered ++ form) (c :: before) cs

/-- The lower-case form of a text. -/
def lower (cs : List Char) : List Char := (lowerFrom #[] [] cs).toList

@[simp] theorem lower_nil : lower [] = [] := rfl

end EventCamera.Text
