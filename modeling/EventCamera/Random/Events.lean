import EventCamera.Event
import EventCamera.Random.Draw
/-!
# Random events

Recordings made of events at random times and places, sorted by time. A long one is made chunk by
chunk: each chunk has its own part of the time, so that the chunks together are sorted, too.

## Main definitions

* `RandomRange` — the pixels and the times that events are drawn from
* `randomEvents` — a sorted list of random events
* `RandomChunks` — a recording that is made chunk by chunk, from `RandomChunks.start` on by
  `RandomChunks.next`, and `RandomChunks.all`
-/

namespace EventCamera

/-- The pixels and the times that events are drawn from. -/
structure RandomRange where
  /-- Number of columns; none counts as one. -/
  width : UInt16
  /-- Number of rows; none counts as one. -/
  height : UInt16
  /-- The first time. -/
  start : UInt64
  /-- The time after the last; one that is not after the first counts as the next. -/
  stop : UInt64

namespace RandomRange

/-- The number of times that are drawn from. -/
def duration (r : RandomRange) : Nat := (max r.stop (r.start + 1) - r.start).toNat

variable {σ : Type}

/-- Draws an event: its time, its column, its row and its polarity, in this order. -/
def drawEvent (r : RandomRange) (g : Generator σ) (s : σ) : Event × σ :=
  let (t, s) := g.long r.duration s
  let (x, s) := g.word (max r.width 1).toNat s
  let (y, s) := g.word (max r.height 1).toNat s
  let (p, s) := g.word 2 s
  (⟨r.start + t.toUInt64, x.toUInt16, y.toUInt16, p.toUInt8⟩, s)

/-- Draws `n` events behind those in `drawn`. -/
def drawInto (r : RandomRange) (g : Generator σ) (drawn : Array Event) : Nat → σ → Array Event × σ
  | 0, s => (drawn, s)
  | n + 1, s =>
    let (e, s) := r.drawEvent g s
    r.drawInto g (drawn.push e) n s

/-- Draws `n` events and sorts them by time; of two at the same time the one drawn first comes
first. -/
def draw (r : RandomRange) (g : Generator σ) (n : Nat) (s : σ) : List Event × σ :=
  let (drawn, s) := r.drawInto g #[] n s
  (drawn.toList.mergeSort fun a b => a.t ≤ b.t, s)

end RandomRange

/-- A sorted list of `n` random events. -/
def randomEvents (n : Nat) (range : RandomRange) (seed : UInt64) : List Event :=
  (range.draw RandomStream.generator n (RandomStream.ofSeed seed)).1

/-- A recording that is made chunk by chunk. -/
structure RandomChunks (σ : Type) where
  generator : Generator σ
  /-- The state of the generator. -/
  state : σ
  remaining : Nat
  /-- The number of events of a chunk; only the last may have fewer. -/
  chunkSize : Nat
  /-- The pixels of all events, the start of the next chunk, and the end of the recording. -/
  range : RandomRange
  span : UInt64
  chunkSize_pos : 0 < chunkSize

namespace RandomChunks

variable {σ : Type}

/-- A recording of `n` events that are drawn from a state of a generator. The time is split evenly,
but no part is empty. -/
def start (generator : Generator σ) (state : σ) (n : Nat) (range : RandomRange)
    (chunkSize : Nat) : RandomChunks σ :=
  let size := max chunkSize 1
  -- Rounded up: the last chunk takes what is left.
  let chunks := max ((n + size - 1) / size) 1
  let span := (range.stop.toNat - range.start.toNat) / chunks
  { generator
    state
    remaining := n
    chunkSize := size
    range
    span := (max span 1).toUInt64
    chunkSize_pos := Nat.lt_of_lt_of_le Nat.one_pos (Nat.le_max_right _ _) }

/-- A recording of `n` events that are drawn from a stream. -/
def create (n : Nat) (range : RandomRange) (chunkSize : Nat) (seed : UInt64) :
    RandomChunks RandomStream :=
  start RandomStream.generator (RandomStream.ofSeed seed) n range chunkSize

/-- Number of events of the next chunk. -/
def count (c : RandomChunks σ) : Nat := min c.remaining c.chunkSize

/-- The end of the next chunk. The last one runs to the end of the recording. -/
def chunkStop (c : RandomChunks σ) : UInt64 :=
  if c.remaining - c.count = 0 then max c.range.stop (c.range.start + 1)
  else c.range.start + c.span

/-- Makes the next chunk. -/
def next (c : RandomChunks σ) : List Event × RandomChunks σ :=
  let (events, state) := { c.range with stop := c.chunkStop }.draw c.generator c.count c.state
  (events,
    { c with
      state
      remaining := c.remaining - c.count
      range := { c.range with start := c.chunkStop } })

/-- Makes all chunks that are left, behind those in `made`. -/
def allInto (made : Array (List Event)) (c : RandomChunks σ) : List (List Event) :=
  if c.remaining = 0 then made.toList
  else
    let step := c.next
    allInto (made.push step.1) step.2
termination_by c.remaining
decreasing_by
  have := c.chunkSize_pos
  show c.remaining - min c.remaining c.chunkSize < c.remaining
  omega

/-- Makes all chunks that are left. -/
def all (c : RandomChunks σ) : List (List Event) := allInto #[] c

end RandomChunks

end EventCamera
