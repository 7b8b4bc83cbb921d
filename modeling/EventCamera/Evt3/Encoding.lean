import EventCamera.Event
import EventCamera.Notice
/-!
# Encoding events

A stream says only what changes from one event to the next. It says bits 0 to 23 of the time; a
reader counts the higher bits by itself, one period of `2 ^ 24` microseconds for each time that
bits 12 to 23 go down. Periods in which nothing happens are therefore bridged by words that make
the reader count.

## Main definitions

* `Trail` — what a stream said last, and `Trail.encode`, the words that one more event takes
* `Encoder` — a trail with the time of the last event, and `Encoder.encode`, the words of a list
  of events
-/

namespace EventCamera

/-- What a stream said last. A number that the field cannot hold stands for "nothing yet". -/
structure Trail where
  /-- Bits 12 to 23 of the time. -/
  upper : Int := -1
  /-- Bits 0 to 11 of the time. -/
  lower : Int := -1
  /-- The row. -/
  row : Int := -1
  /-- The period that the reader has counted up to: bits 24 and higher of the time. -/
  period : UInt64 := 0
deriving DecidableEq, Inhabited

namespace Trail

/-- The period of a time. -/
def periodOf (t : UInt64) : UInt64 := t >>> 24

/-- Bits 12 to 23 of a time. -/
def upperOf (t : UInt64) : UInt16 := ((t >>> 12) &&& 0x0FFF).toUInt16

/-- Bits 0 to 11 of a time. -/
def lowerOf (t : UInt64) : UInt16 := (t &&& 0x0FFF).toUInt16

/-- Words that make a reader count `n` periods and leave bits 12 to 23 at zero. -/
def bridge (n : Nat) : List Word :=
  (List.replicate n [Word.timeHigh 0x0FFF, Word.timeHigh 0]).flatten

/-- An event needs a bridge in front of it if it is in a later period, except in the next one
when bits 12 to 23 go down anyway. -/
def needsBridge (trail : Trail) (t : UInt64) : Bool :=
  -- One period with bits 12 to 23 going down is what a reader counts by itself.
  trail.period < periodOf t &&
    !(periodOf t - trail.period == 1 && decide (((upperOf t).toNat : Int) < trail.upper))

/-- The word that sets a field to a new value, if it has another one. -/
def update (last : Int) (new : UInt16) (word : Word) : List Word :=
  if (new.toNat : Int) = last then [] else [word]

/-- The words that one more event takes: a bridge if needed, the parts of the time and the row as
far as they change, and the event itself. -/
def encode (role : CameraRole) (trail : Trail) (e : Event) : List Word :=
  let bridged := trail.needsBridge e.t
  -- A bridge leaves bits 12 to 23 at zero, so that what was said of them before is void.
  (if bridged then bridge (periodOf e.t - trail.period).toNat else []) ++
    update (if bridged then 0 else trail.upper) (upperOf e.t) (Word.timeHigh (upperOf e.t)) ++
    update trail.lower (lowerOf e.t) (Word.timeLow (lowerOf e.t)) ++
    update trail.row e.y (Word.addrY e.y role) ++
    [Word.addrX e.x e.p]

/-- What the stream said last once it has said an event. A row is kept as given, also where its
word cannot hold all of it. -/
def advance (trail : Trail) (e : Event) : Trail where
  upper := (upperOf e.t).toNat
  lower := (lowerOf e.t).toNat
  row := e.y.toNat
  period := max trail.period (periodOf e.t)

end Trail

/-- The state of writing a stream. -/
structure Encoder where
  /-- The role that words with a row carry. -/
  role : CameraRole := .master
  /-- What the stream said last. -/
  trail : Trail := {}
  /-- The time of the last event. -/
  lastTime : Option UInt64 := none
deriving DecidableEq, Inhabited

namespace Encoder

/-- Bridges over more periods than this are reported. -/
def unreportedPeriods : UInt64 := 1024

/-- An event is late if it is earlier than the one before it. -/
def isLate (encoder : Encoder) (e : Event) : Bool :=
  match encoder.lastTime with
  | some last => e.t < last
  | none => false

/-- The report on a long bridge in front of an event. -/
def notices (encoder : Encoder) (e : Event) : List Notice :=
  let period := Trail.periodOf e.t
  if encoder.trail.period < period ∧ unreportedPeriods < period - encoder.trail.period then
    [.farAhead e.t (period - encoder.trail.period).toNat]
  else []

/-- The state after an event. -/
def advance (encoder : Encoder) (e : Event) : Encoder :=
  { encoder with trail := encoder.trail.advance e, lastTime := some e.t }

end Encoder

/-- What encoding a list of events gives. -/
structure Encoded where
  /-- The state after the events. -/
  encoder : Encoder
  /-- The words of the events. -/
  words : Array Word := #[]
  /-- The number of late events; they read back at another time. -/
  late : Nat := 0
  /-- The reports on long bridges. -/
  notices : Array Notice := #[]

namespace Encoded

/-- Encodes one more event. -/
def push (r : Encoded) (e : Event) : Encoded where
  encoder := r.encoder.advance e
  words := r.words ++ r.encoder.trail.encode r.encoder.role e
  late := if r.encoder.isLate e then r.late + 1 else r.late
  notices := r.notices ++ r.encoder.notices e

end Encoded

/-- Encodes a list of events. -/
def Encoder.encode (encoder : Encoder) (events : List Event) : Encoded :=
  events.foldl Encoded.push { encoder := encoder }

namespace Encoded

/-- The bytes of the words, low byte first. -/
def bytes (r : Encoded) : ByteArray :=
  r.words.foldl (fun bytes (w : Word) => (bytes.push w.toUInt8).push (w >>> 8).toUInt8)
    (ByteArray.emptyWithCapacity (2 * r.words.size))

end Encoded

end EventCamera
