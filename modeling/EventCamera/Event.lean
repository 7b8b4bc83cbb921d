/-!
# Events

What an event camera records: a brightness change at one pixel, or an edge on one of its external
trigger inputs.

## Main definitions

* `Event`, `Trigger` — one timed record of each kind
* `Batch` — the events and triggers handed out together
* `Event.chronological` — the times of a list never decrease
-/

namespace EventCamera

/-- A brightness change at one pixel. -/
structure Event where
  /-- Time in microseconds since the start of the recording. -/
  t : UInt64
  x : UInt16
  y : UInt16
  /-- Polarity: 0 where the pixel got darker, 1 where it got brighter. -/
  p : UInt8
deriving DecidableEq, Inhabited

/-- An edge on an external trigger input. -/
structure Trigger where
  /-- Time in microseconds since the start of the recording. -/
  t : UInt64
  /-- Polarity: 0 for a falling edge, 1 for a rising one. -/
  p : UInt8
  id : UInt8
deriving DecidableEq, Inhabited

/-- Events and triggers that are handed out together, each in stream order. -/
structure Batch where
  events : List Event := []
  triggers : List Trigger := []
deriving DecidableEq, Inhabited

namespace Batch

/-- A batch with neither events nor triggers. -/
def isEmpty (b : Batch) : Bool := b.events.isEmpty && b.triggers.isEmpty

@[simp] theorem isEmpty_iff {b : Batch} : b.isEmpty = true ↔ b.events = [] ∧ b.triggers = [] := by
  simp [isEmpty]

end Batch

namespace Event

/-- Times never decrease from one event to the next. -/
def chronological : List Event → Bool
  | a :: b :: rest => decide (a.t ≤ b.t) && chronological (b :: rest)
  | _ => true

end Event

end EventCamera
