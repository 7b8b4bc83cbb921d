/-!
# Byte sinks

Where bytes are written to. A sink takes what it has room for; a buffered sink gathers small
writes and passes them on together, so that a refusal may show only later.

## Main definitions

* `Sink` — what has been accepted, and how much room there is
* `BufferedSink` — a sink behind a buffer
* `BufferedSink.write`, `BufferedSink.writeAll` — add bytes, or several pieces one by one
* `BufferedSink.flush` — passes on what the buffer holds

## Main results

* `Sink.accepted_offer` — what a sink accepts of some bytes is a beginning of them
-/

namespace EventCamera

/-- Where bytes are written to. -/
structure Sink where
  accepted : ByteArray := ByteArray.empty
  /-- The number of bytes that are accepted in all, if it is bounded. -/
  limit : Option Nat := none
  /-- The wording of the refusal once there is no more room. -/
  refusal : String := "sink is full"

namespace Sink

/-- How many of `n` bytes there is room for. -/
def room (s : Sink) (n : Nat) : Nat :=
  match s.limit with
  | none => n
  | some limit => min n (limit - s.accepted.size)

/-- Accepts as many of some bytes as there is room for. -/
def offer (s : Sink) (bs : ByteArray) : Sink :=
  { s with accepted := s.accepted ++ bs.extract 0 (s.room bs.size) }

/-- There is room for all of some bytes. -/
def fits (s : Sink) (bs : ByteArray) : Bool := s.room bs.size == bs.size

/-- What a sink accepts of some bytes is a beginning of them. -/
theorem accepted_offer (s : Sink) (bs : ByteArray) :
    (s.offer bs).accepted = s.accepted ++ bs.extract 0 (s.room bs.size) := rfl

theorem accepted_offer_of_fits {s : Sink} {bs : ByteArray} (h : s.fits bs = true) :
    (s.offer bs).accepted = s.accepted ++ bs := by
  simp only [fits, beq_iff_eq] at h
  rw [accepted_offer, h, ByteArray.extract_zero_size]

end Sink

/-- A sink behind a buffer. -/
structure BufferedSink where
  sink : Sink
  /-- The bytes that the sink has not been offered yet. -/
  buffer : ByteArray := ByteArray.empty

namespace BufferedSink

/-- Number of bytes that the buffer can hold. -/
def capacity : Nat := 8192

/-- Passes on what the buffer holds. What the sink refuses stays in the buffer. -/
def flush (b : BufferedSink) : BufferedSink × Except String Unit :=
  if b.sink.fits b.buffer then
    ({ sink := b.sink.offer b.buffer }, .ok ())
  else
    ({ sink := b.sink.offer b.buffer
       buffer := b.buffer.extract (b.sink.room b.buffer.size) b.buffer.size },
      .error b.sink.refusal)

/-- Adds bytes that the buffer has room for, or passes them on at once if it never has. What the
sink refuses of the latter is lost. -/
def append (b : BufferedSink) (bs : ByteArray) : BufferedSink × Except String Unit :=
  -- Bytes that fill the buffer alone are never put into it.
  if bs.size < capacity then ({ b with buffer := b.buffer ++ bs }, .ok ())
  else
    ({ b with sink := b.sink.offer bs }, if b.sink.fits bs then .ok () else .error b.sink.refusal)

/-- Adds bytes, behind a flush if the buffer has no room for them. -/
def write (b : BufferedSink) (bs : ByteArray) : BufferedSink × Except String Unit :=
  if b.buffer.size + bs.size ≤ capacity then b.append bs
  else
    match b.flush with
    | (b, .error message) => (b, .error message)
    | (b, .ok ()) => b.append bs

/-- Adds several pieces one by one, up to the first refusal. -/
def writeAll (b : BufferedSink) : List ByteArray → BufferedSink × Except String Unit
  | [] => (b, .ok ())
  | piece :: pieces =>
    match b.write piece with
    | (b, .error message) => (b, .error message)
    | (b, .ok ()) => b.writeAll pieces

/-- What the sink holds once the buffer is given up: what it still accepts is passed on. -/
def abandon (b : BufferedSink) : ByteArray := b.flush.1.sink.accepted

end BufferedSink

end EventCamera
