/-!
# Words of an EVT 3.0 stream

A stream is a sequence of 16-bit words. The top four bits of a word are the tag of its kind, the
other twelve its payload.

## Main definitions

* `WordKind` — the kinds, with `WordKind.tag` and `WordKind.ofTag?`
* `Word.kind?`, `Word.payload`, `Word.coordinate`, `Word.flag`, … — the fields of a word
* `Word.addrY`, `Word.addrX`, `Word.vectorGroup`, … — the words that carry given fields
* `Word.littleEndian` — the two bytes of a word, and `Word.ofBytes` back

## Main results

* `kind?_make`, `payload_make` — a word carries the kind and the payload it is made from
-/

namespace EventCamera

/-- One word of a stream. -/
abbrev Word := UInt16

/-- The kinds of words. -/
inductive WordKind where
  /-- Row of the events that follow. -/
  | addrY
  /-- One event, by its column and polarity. -/
  | addrX
  /-- Base column and polarity of a vector group. -/
  | vectBaseX
  /-- Twelve validity bits of a vector group. -/
  | vect12
  /-- Eight validity bits of a vector group, its last word. -/
  | vect8
  /-- Bits 0 to 11 of the time. -/
  | timeLow
  /-- Four bits of vendor data. -/
  | continued4
  /-- Bits 12 to 23 of the time. -/
  | timeHigh
  /-- One trigger, by its input and polarity. -/
  | extTrigger
  | others
  /-- Twelve bits of vendor data. -/
  | continued12
deriving DecidableEq

namespace WordKind

/-- The four bits that mark words of a kind. -/
def tag : WordKind → UInt16
  | addrY => 0x0
  | addrX => 0x2
  | vectBaseX => 0x3
  | vect12 => 0x4
  | vect8 => 0x5
  | timeLow => 0x6
  | continued4 => 0x7
  | timeHigh => 0x8
  | extTrigger => 0xA
  | others => 0xE
  | continued12 => 0xF

/-- Every kind, by ascending tag. -/
def all : List WordKind :=
  [addrY, addrX, vectBaseX, vect12, vect8, timeLow, continued4, timeHigh, extTrigger, others,
    continued12]

/-- The kind with the given tag; some tags are reserved. -/
def ofTag? (tag : UInt16) : Option WordKind := all.find? fun kind => kind.tag = tag

@[simp] theorem ofTag?_tag (kind : WordKind) : ofTag? kind.tag = some kind := by
  cases kind <;> decide

end WordKind

/-- The part a camera plays when several are synchronised. -/
inductive CameraRole where
  /-- The camera that sets the time. -/
  | master
  /-- A camera that follows another one's time. -/
  | slave
deriving DecidableEq, Inhabited

/-- The bit that marks the role in words that carry a row. -/
def CameraRole.bit : CameraRole → UInt16
  | master => 0
  | slave => 1

namespace Word

/-- The top four bits. -/
def tag (w : Word) : UInt16 := w >>> 12

/-- The kind of a word, unless its tag is reserved. -/
def kind? (w : Word) : Option WordKind := WordKind.ofTag? w.tag

/-- The twelve bits beside the tag: a part of the time, or validity bits. -/
def payload (w : Word) : UInt16 := w &&& 0x0FFF

/-- The low eleven bits: a row or a column. -/
def coordinate (w : Word) : UInt16 := w &&& 0x07FF

/-- Bit 11: a polarity, or the role of the camera. -/
def flag (w : Word) : UInt8 := ((w >>> 11) &&& 1).toUInt8

/-- The low eight bits: the validity bits that close a vector group. -/
def lowByte (w : Word) : UInt8 := (w &&& 0x00FF).toUInt8

/-- Bits 8 to 11: the number of a trigger input. -/
def channel (w : Word) : UInt8 := ((w >>> 8) &&& 0x0F).toUInt8

/-- Bit 0: the polarity of a trigger. -/
def edge (w : Word) : UInt8 := (w &&& 1).toUInt8

/-- The word of a kind whose payload is the low twelve bits of `payload`. -/
def make (kind : WordKind) (payload : UInt16) : Word := (kind.tag <<< 12) ||| (payload &&& 0x0FFF)

/-- Sets the row of the events that follow. -/
def addrY (y : UInt16) (role : CameraRole) : Word :=
  make .addrY ((role.bit <<< 11) ||| (y &&& 0x07FF))

/-- A column and a polarity, in their eleven bits and one. -/
def columnAndPolarity (x : UInt16) (p : UInt8) : UInt16 :=
  ((p &&& 1).toUInt16 <<< 11) ||| (x &&& 0x07FF)

/-- One event. -/
def addrX (x : UInt16) (p : UInt8) : Word := make .addrX (columnAndPolarity x p)

/-- Opens a vector group. -/
def vectBaseX (x : UInt16) (p : UInt8) : Word := make .vectBaseX (columnAndPolarity x p)

/-- Twelve validity bits. -/
def vect12 (valid : UInt16) : Word := make .vect12 valid

/-- Eight validity bits. -/
def vect8 (valid : UInt8) : Word := make .vect8 valid.toUInt16

/-- The vector group of the columns `x` to `x + 31`: bit `k` of `valid` marks an event at
`x + k`. -/
def vectorGroup (x : UInt16) (p : UInt8) (valid : UInt32) : List Word :=
  [vectBaseX x p, vect12 (valid &&& 0x0FFF).toUInt16, vect12 ((valid >>> 12) &&& 0x0FFF).toUInt16,
    vect8 ((valid >>> 24) &&& 0xFF).toUInt8]

/-- Sets bits 0 to 11 of the time. -/
def timeLow (lower : UInt16) : Word := make .timeLow lower

/-- Sets bits 12 to 23 of the time. -/
def timeHigh (upper : UInt16) : Word := make .timeHigh upper

/-- One trigger. -/
def extTrigger (id value : UInt8) : Word :=
  make .extTrigger (((id &&& 0x0F).toUInt16 <<< 8) ||| (value &&& 1).toUInt16)

/-- The two bytes of a word, low byte first. -/
def littleEndian (w : Word) : List UInt8 := [w.toUInt8, (w >>> 8).toUInt8]

/-- The word with the given low and high byte. -/
def ofBytes (low high : UInt8) : Word := low.toUInt16 ||| (high.toUInt16 <<< 8)

theorem tag_lt (kind : WordKind) : kind.tag.toNat < 16 := by
  cases kind <;> decide

/-- Two fields that share no bits are added up by joining them. -/
theorem toNat_make (kind : WordKind) (payload : UInt16) :
    (make kind payload).toNat = kind.tag.toNat * 4096 + payload.toNat % 4096 := by
  have h := tag_lt kind
  have hp : payload.toNat &&& 0x0FFF = payload.toNat % 4096 := Nat.and_two_pow_sub_one_eq_mod _ 12
  have ht : kind.tag.toNat <<< 12 % 2 ^ 16 = kind.tag.toNat <<< 12 := by
    rw [Nat.shiftLeft_eq]; omega
  simp only [make, UInt16.toNat_or, UInt16.toNat_shiftLeft, UInt16.toNat_and]
  rw [show (12 : UInt16).toNat % 16 = 12 from rfl, show (0x0FFF : UInt16).toNat = 0x0FFF from rfl,
    ht, hp, ← Nat.shiftLeft_add_eq_or_of_lt (by omega : payload.toNat % 4096 < 2 ^ 12),
    Nat.shiftLeft_eq]

@[simp] theorem tag_make (kind : WordKind) (payload : UInt16) :
    (make kind payload).tag = kind.tag := by
  apply UInt16.toNat.inj
  have h := tag_lt kind
  simp only [tag, UInt16.toNat_shiftRight, toNat_make]
  rw [show (12 : UInt16).toNat % 16 = 12 from rfl, Nat.shiftRight_eq_div_pow]
  omega

@[simp] theorem kind?_make (kind : WordKind) (payload : UInt16) :
    (make kind payload).kind? = some kind := by
  simp [kind?]

@[simp] theorem payload_make (kind : WordKind) (p : UInt16) :
    (make kind p).payload = p &&& 0x0FFF := by
  apply UInt16.toNat.inj
  have hm : ∀ n : Nat, n &&& 0x0FFF = n % 4096 := fun n => Nat.and_two_pow_sub_one_eq_mod n 12
  simp only [payload, UInt16.toNat_and, toNat_make]
  rw [show (0x0FFF : UInt16).toNat = 0x0FFF from rfl, hm, hm]
  omega

end Word

end EventCamera
