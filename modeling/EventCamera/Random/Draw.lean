import EventCamera.Loop
import EventCamera.Random.ChaCha
/-!
# Random numbers below a bound

A random word is scaled to the bound. The numbers of words that come to each result differ by at
most one before some words are refused; then they are equal. Nothing bounds the number of words
that may be refused.

## Main definitions

* `RandomStream.scale`, `RandomStream.below` — scales a word, and words until one is not refused
* `RandomStream.wordBelow`, `RandomStream.longBelow` — a number below a bound, drawn from words of
  32 and of 64 bits
* `Generator` — whatever numbers below bounds are drawn from, and `RandomStream.generator`

## Main results

* `RandomStream.wordBelow_lt`, `RandomStream.longBelow_lt` — the number is below the bound
-/

namespace EventCamera

/-- What numbers below bounds are drawn from. Each draw goes on from a state. -/
structure Generator (σ : Type) where
  /-- Draws a short number. -/
  word : (n : Nat) → σ → Nat × σ
  /-- Draws a long number. -/
  long : (n : Nat) → σ → Nat × σ
  /-- As long as there is a number below the bound, one is drawn. -/
  word_lt {n : Nat} {s : σ} : 0 < n → (word n s).1 < n
  long_lt {n : Nat} {s : σ} : 0 < n → (long n s).1 < n

namespace RandomStream

/-- A number below `n`, unless that is zero. -/
abbrev NumberBelow (n : Nat) : Type := { v : Nat // 0 < n → v < n }

variable {size : Nat}

/-- Draws a word. The high half of its product with `n` is the result, if the low half is at most
`zone`. -/
def scale (draw : RandomStream → Fin size × RandomStream) (zone n : Nat) (s : RandomStream) :
    RandomStream ⊕ (NumberBelow n × RandomStream) :=
  let (v, s) := draw s
  -- A low half beyond the zone belongs to a result that would otherwise come up too often.
  if v * n % size ≤ zone then
    .inr (⟨v * n / size, fun hn => Nat.div_lt_of_lt_mul (Nat.mul_lt_mul_of_pos_right v.isLt hn)⟩, s)
  else .inl s

/-- Draws words until one gives a result. -/
def below (draw : RandomStream → Fin size × RandomStream) (zone n : Nat) (s : RandomStream) :
    NumberBelow n × RandomStream :=
  have : Nonempty (NumberBelow n × RandomStream) := ⟨⟨0, id⟩, s⟩
  untilResult (scale draw zone n) s

/-- A word as a number. -/
def drawWord (s : RandomStream) : Fin UInt32.size × RandomStream :=
  let (w, s) := s.nextWord
  (w.toFin, s)

/-- A word of 64 bits as a number. -/
def drawLong (s : RandomStream) : Fin UInt64.size × RandomStream :=
  let (w, s) := s.nextLong
  (w.toFin, s)

/-- A number below `n`, of which a word of 32 bits decides; no more words are refused than
needed. -/
def wordBelow (n : Nat) (s : RandomStream) : Nat × RandomStream :=
  let (v, s) := below drawWord (UInt32.size - 1 - (UInt32.size - n) % n) n s
  (v, s)

/-- A number below `n`, of which a word of 64 bits decides; at most half of the words are
refused. -/
def longBelow (n : Nat) (s : RandomStream) : Nat × RandomStream :=
  let (v, s) := below drawLong ((n <<< (63 - n.log2)) - 1) n s
  (v, s)

theorem wordBelow_lt {n : Nat} {s : RandomStream} (hn : 0 < n) : (wordBelow n s).1 < n :=
  (below drawWord _ n s).1.property hn

theorem longBelow_lt {n : Nat} {s : RandomStream} (hn : 0 < n) : (longBelow n s).1 < n :=
  (below drawLong _ n s).1.property hn

/-- The stream as a generator. -/
def generator : Generator RandomStream where
  word := wordBelow
  long := longBelow
  word_lt := wordBelow_lt
  long_lt := longBelow_lt

end RandomStream

end EventCamera
