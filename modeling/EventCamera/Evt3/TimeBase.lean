import EventCamera.Evt3.Word
/-!
# Time base of a stream

What a reader of a stream keeps of the words it has seen: the parts of the time, the row, and
whether the stream has named a time at all.

## Main definitions

* `StreamState` — the state of a reader between two words
* `StreamState.timestamp` — the time it has reached
* `StreamState.setUpper`, `StreamState.setLower`, `StreamState.setRow` — what the words change
-/

namespace EventCamera

/-- The state of a reader between two words. -/
structure StreamState where
  /-- The number of times that bits 12 to 23 went down: bits 24 and higher of the time. -/
  period : UInt64 := 0
  /-- Bits 12 to 23 of the time. -/
  upper : UInt32 := 0
  /-- Bits 0 to 11 of the time. -/
  lower : UInt32 := 0
  /-- The row of the events that follow. -/
  row : UInt16 := 0
  /-- The stream has named bits 12 to 23 of a time; nothing counts before that. -/
  started : Bool := false
deriving DecidableEq, Inhabited

namespace StreamState

/-- The time in microseconds, of which 64 bits are kept. -/
def timestamp (s : StreamState) : UInt64 :=
  (s.period <<< 24) ||| (s.upper.toUInt64 <<< 12) ||| s.lower.toUInt64

/-- Takes over bits 12 to 23 of the time. A new period begins when they go down. -/
def setUpper (s : StreamState) (upper : UInt16) : StreamState :=
  { s with
    period := if upper.toUInt32 < s.upper then s.period + 1 else s.period
    upper := upper.toUInt32
    started := true }

/-- Takes over bits 0 to 11 of the time, which begin no period by themselves. -/
def setLower (s : StreamState) (lower : UInt16) : StreamState := { s with lower := lower.toUInt32 }

/-- Takes over a row. -/
def setRow (s : StreamState) (row : UInt16) : StreamState := { s with row }

@[simp] theorem started_setUpper (s : StreamState) (u : UInt16) :
    (s.setUpper u).started = true := rfl

@[simp] theorem started_setLower (s : StreamState) (l : UInt16) :
    (s.setLower l).started = s.started := rfl

@[simp] theorem started_setRow (s : StreamState) (r : UInt16) :
    (s.setRow r).started = s.started := rfl

end StreamState

end EventCamera
