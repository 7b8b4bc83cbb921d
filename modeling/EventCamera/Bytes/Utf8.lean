/-!
# UTF-8

Characters and the bytes that stand for them. Bytes that stand for no character are met one
ill-formed sequence at a time: the longest beginning of a well-formed one, and at least one byte.

## Main definitions

* `Utf8.encode` — the bytes of a text
* `Utf8.pieces` — the characters of some bytes, with `none` for each ill-formed sequence
* `Utf8.decode?` — the text of well-formed bytes
* `Utf8.decodeLossy` — the text of any bytes, with U+FFFD for each ill-formed sequence
-/

namespace EventCamera.Utf8

/-- The bytes of a text. -/
def encode (cs : List Char) : List UInt8 := cs.flatMap String.utf8EncodeChar

/-- What the first byte of a longer character determines. -/
structure Lead where
  /-- The bits that the first byte contributes. -/
  bits : Nat
  /-- The least possible second byte. -/
  low : UInt8
  /-- The greatest possible second byte. -/
  high : UInt8
  /-- The number of bytes after the second. -/
  more : Nat

/-- What a byte determines as the first of two to four. Restricting the second byte leaves out
overlong forms, surrogates, and numbers beyond U+10FFFF. -/
def lead? (b : UInt8) : Option Lead :=
  if b < 0xC2 then none
  else if b < 0xE0 then some ⟨b.toNat - 0xC0, 0x80, 0xBF, 0⟩
  else if b < 0xF0 then
    some ⟨b.toNat - 0xE0, if b = 0xE0 then 0xA0 else 0x80, if b = 0xED then 0x9F else 0xBF, 1⟩
  else if b < 0xF5 then
    some ⟨b.toNat - 0xF0, if b = 0xF0 then 0x90 else 0x80, if b = 0xF4 then 0x8F else 0xBF, 2⟩
  else none

/-- Takes `n` more bytes of a character whose bits so far are `acc`. -/
def continue? : (n acc : Nat) → List UInt8 → Option Char × List UInt8
  | 0, acc, bs => (some (Char.ofNat acc), bs)
  | _ + 1, _, [] => (none, [])
  | n + 1, acc, b :: bs =>
    if 0x80 ≤ b ∧ b ≤ 0xBF then continue? n (acc * 64 + (b.toNat - 0x80)) bs else (none, b :: bs)

/-- Takes the character, or the ill-formed sequence, that starts with `b`. -/
def next (b : UInt8) (bs : List UInt8) : Option Char × List UInt8 :=
  if b < 0x80 then (some (Char.ofNat b.toNat), bs)
  else
    match lead? b, bs with
    | some lead, c :: cs =>
      if lead.low ≤ c ∧ c ≤ lead.high then
        continue? lead.more (lead.bits * 64 + (c.toNat - 0x80)) cs
      else (none, bs)
    | _, _ => (none, bs)

theorem length_continue?_le (n acc : Nat) (bs : List UInt8) :
    (continue? n acc bs).2.length ≤ bs.length := by
  fun_induction continue? n acc bs with
  | case1 => exact Nat.le_refl _
  | case2 => exact Nat.le_refl _
  | case3 n acc b bs h ih => exact Nat.le_succ_of_le ih
  | case4 => exact Nat.le_refl _

theorem length_next_le (b : UInt8) (bs : List UInt8) : (next b bs).2.length ≤ bs.length := by
  unfold next
  split
  · exact Nat.le_refl _
  · split
    · split
      · exact Nat.le_succ_of_le (length_continue?_le _ _ _)
      · exact Nat.le_refl _
    · exact Nat.le_refl _

/-- Adds the characters and ill-formed sequences of some bytes to `acc`. -/
def piecesInto (acc : Array (Option Char)) : List UInt8 → Array (Option Char)
  | [] => acc
  | b :: bs => piecesInto (acc.push (next b bs).1) (next b bs).2
termination_by bs => bs.length
decreasing_by
  have := length_next_le b bs
  simp only [List.length_cons]
  omega

/-- The characters of some bytes, with `none` for each ill-formed sequence. -/
def pieces (bs : List UInt8) : List (Option Char) := (piecesInto #[] bs).toList

/-- The text of well-formed bytes. -/
def decode? (bs : List UInt8) : Option (List Char) := (pieces bs).mapM id

/-- The text of any bytes, with U+FFFD for each ill-formed sequence. -/
def decodeLossy (bs : List UInt8) : List Char :=
  (pieces bs).map fun piece => piece.getD (Char.ofNat 0xFFFD)

end EventCamera.Utf8
