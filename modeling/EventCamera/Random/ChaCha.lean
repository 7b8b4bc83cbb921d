/-!
# A stream of random words

The key stream of the ChaCha cipher with twelve rounds, as a source of random 32-bit words. The
key is derived from a seed of 64 bits; the block counter has 64 bits and starts at zero.

## Main definitions

* `ChaCha.seedKey` — the key of a seed
* `ChaCha.block` — the sixteen words of one block
* `RandomStream` — a position in the stream, with `RandomStream.nextWord` and
  `RandomStream.nextLong`
-/

namespace EventCamera

namespace ChaCha

/-- Turns the bits of a word to the left. -/
def rotateLeft (w : UInt32) (n : UInt32) : UInt32 := (w <<< n) ||| (w >>> (32 - n))

/-- The words that a block is mixed from. -/
abbrev State := Vector UInt32 16

/-- Mixes four words of the state. -/
def quarterRound (s : State) (a b c d : Fin 16) : State :=
  let s := s.set a (s[a] + s[b])
  let s := s.set d (rotateLeft (s[d] ^^^ s[a]) 16)
  let s := s.set c (s[c] + s[d])
  let s := s.set b (rotateLeft (s[b] ^^^ s[c]) 12)
  let s := s.set a (s[a] + s[b])
  let s := s.set d (rotateLeft (s[d] ^^^ s[a]) 8)
  let s := s.set c (s[c] + s[d])
  s.set b (rotateLeft (s[b] ^^^ s[c]) 7)

/-- One round over the columns of the state and one over its diagonals. -/
def doubleRound (s : State) : State :=
  let s := quarterRound s 0 4 8 12
  let s := quarterRound s 1 5 9 13
  let s := quarterRound s 2 6 10 14
  let s := quarterRound s 3 7 11 15
  -- From here on the diagonals.
  let s := quarterRound s 0 5 10 15
  let s := quarterRound s 1 6 11 12
  let s := quarterRound s 2 7 8 13
  quarterRound s 3 4 9 14

/-- Applies a function a number of times. -/
def times (f : State → State) : Nat → State → State
  | 0, s => s
  | n + 1, s => times f n (f s)

/-- The state that a block starts from: four constants, the key, the block counter, and zeros. -/
def initial (key : Vector UInt32 8) (counter : UInt64) : State :=
  #v[0x61707865, 0x3320646e, 0x79622d32, 0x6b206574,
    key[0], key[1], key[2], key[3], key[4], key[5], key[6], key[7],
    counter.toUInt32, (counter >>> 32).toUInt32, 0, 0]

/-- The sixteen words of one block. -/
def block (key : Vector UInt32 8) (counter : UInt64) : State :=
  let start := initial key counter
  Vector.zipWith (· + ·) (times doubleRound 6 start) start

/-- One step of the generator that the key is drawn from. -/
def seedStep (s : UInt64) : UInt64 := s * 6364136223846793005 + 11634580027462260723

/-- The word that a state of that generator gives. -/
def seedWord (s : UInt64) : UInt32 :=
  let x := (((s >>> 18) ^^^ s) >>> 27).toUInt32
  -- The five highest bits say how far the word is turned.
  let turn := (s >>> 59).toUInt32
  (x >>> turn) ||| (x <<< ((32 - turn) % 32))

/-- The key of a seed. -/
def seedKey (seed : UInt64) : Vector UInt32 8 :=
  let s₁ := seedStep seed
  let s₂ := seedStep s₁
  let s₃ := seedStep s₂
  let s₄ := seedStep s₃
  let s₅ := seedStep s₄
  let s₆ := seedStep s₅
  let s₇ := seedStep s₆
  let s₈ := seedStep s₇
  #v[seedWord s₁, seedWord s₂, seedWord s₃, seedWord s₄, seedWord s₅, seedWord s₆, seedWord s₇,
    seedWord s₈]

end ChaCha

/-- A position in a stream of random words. -/
structure RandomStream where
  key : Vector UInt32 8
  /-- The number of the next block. -/
  counter : UInt64 := 0
  /-- The words that are left of the last block. -/
  buffered : List UInt32 := []

namespace RandomStream

/-- The stream of a seed. -/
def ofSeed (seed : UInt64) : RandomStream := { key := ChaCha.seedKey seed }

/-- Draws a word. -/
def nextWord (s : RandomStream) : UInt32 × RandomStream :=
  match s.buffered with
  | w :: ws => (w, { s with buffered := ws })
  | [] =>
    let words := ChaCha.block s.key s.counter
    (words[0], { s with counter := s.counter + 1, buffered := words.toList.tail })

/-- Draws two words as one of 64 bits, the low half first. -/
def nextLong (s : RandomStream) : UInt64 × RandomStream :=
  let (low, s) := s.nextWord
  let (high, s) := s.nextWord
  (low.toUInt64 ||| (high.toUInt64 <<< 32), s)

end RandomStream

end EventCamera
