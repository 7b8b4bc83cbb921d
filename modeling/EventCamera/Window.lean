import EventCamera.Event
import EventCamera.Geometry
import EventCamera.PayloadFormat
import EventCamera.Search
import EventCamera.Text.Lower
/-!
# Windows

Events are handed out in windows that are bounded by their number, by the time they span, by
both, or by neither. A window is settled once; it then decides when enough events have been
gathered and how many of them go out.

## Main definitions

* `ReadMode` — how windows are bounded, with `ReadMode.name` and `ReadMode.parse`
* `ConfigError` — why a configuration is refused
* `Window` — the bounds, and `Window.resolve`, which settles them
* `Window.exitReason?` — why gathering stops
* `Window.release` — how many events go out

## Main results

* `Window.release_le_length` — no more go out than there are
-/

namespace EventCamera

/-- How windows are bounded. -/
inductive ReadMode where
  | auto
  | deltaT
  | nEvents
  /-- By both. -/
  | mixed
  /-- By the greatest values only. -/
  | all
deriving DecidableEq, Inhabited

/-- Why a configuration is refused. -/
inductive ConfigError where
  | invalidMode (name : String)
  | missingDeltaT
  | missingNEvents
  | zeroDeltaT
  | zeroNEvents
  /-- A sensor size that coordinates cannot address. -/
  | invalidGeometry (size : Geometry)
  /-- A name that no payload format has. -/
  | unknownFormat (cause : UnknownFormat)
deriving DecidableEq

/-- The wording of a refusal. -/
def ConfigError.message : ConfigError → String
  | invalidMode name =>
    "Mode " ++ name ++ " not supported. Supported modes are: delta_t, n_events, mixed, all, auto"
  | missingDeltaT => "delta_t must be specified in delta_t mode"
  | missingNEvents => "n_events must be specified in n_events mode"
  | zeroDeltaT => "delta_t must be positive"
  | zeroNEvents => "n_events must be positive"
  | invalidGeometry size =>
    "Invalid geometry " ++ String.ofList size.render ++ ": dimensions must be in 1..=2048"
  | unknownFormat cause => cause.message

namespace ReadMode

/-- Name of a mode. -/
def name : ReadMode → String
  | auto => "auto"
  | deltaT => "delta_t"
  | nEvents => "n_events"
  | mixed => "mixed"
  | all => "all"

/-- Every mode. -/
def every : List ReadMode := [auto, deltaT, nEvents, mixed, all]

/-- The mode with a name, letter case and blanks around it aside. -/
def parse (text : String) : Except ConfigError ReadMode :=
  let lowered := Text.lower (Text.trim text.toList)
  match every.find? fun mode => mode.name.toList = lowered with
  | some mode => .ok mode
  | none => .error (.invalidMode text)

end ReadMode

/-- The bounds of windows. Both are positive, so that a window can hold something. -/
structure Window where
  /-- How windows are bounded; never `ReadMode.auto` once settled. -/
  mode : ReadMode := .mixed
  /-- The longest span, in microseconds. -/
  deltaT : UInt64 := 10000
  /-- The greatest number of events. -/
  maxEvents : UInt64 := 10000
  deltaT_ne_zero : deltaT ≠ 0 := by decide
  maxEvents_ne_zero : maxEvents ≠ 0 := by decide
deriving DecidableEq

/-- Why gathering events for a window stops. -/
inductive WindowExit where
  /-- There are as many events as the window may hold. -/
  | eventCap
  /-- The events span more than the window may. -/
  | timeCap
  | endOfStream
deriving DecidableEq

namespace Window

/-- The span where none is given. -/
def defaultDeltaT : UInt64 := 10000

/-- The number of events where none is given. -/
def defaultNEvents : UInt64 := 10000

/-- The mode, the span and the number of events that a mode and the given values come to, before
they are checked. With no mode given, a bound that is given counts, and both have their defaults
if neither is. -/
def choose (mode : ReadMode) (deltaT nEvents : Option UInt64) (maxDeltaT maxEvents : UInt64) :
    Except ConfigError (ReadMode × UInt64 × UInt64) :=
  match mode, deltaT, nEvents with
  | .auto, some dt, some n => .ok (.mixed, dt, n)
  | .auto, some dt, none => .ok (.deltaT, dt, maxEvents)
  | .auto, none, some n => .ok (.nEvents, maxDeltaT, n)
  | .auto, none, none => .ok (.mixed, defaultDeltaT, defaultNEvents)
  | .deltaT, some dt, _ => .ok (.deltaT, dt, maxEvents)
  | .deltaT, none, _ => .error .missingDeltaT
  | .nEvents, _, some n => .ok (.nEvents, maxDeltaT, n)
  | .nEvents, _, none => .error .missingNEvents
  | .mixed, dt, n => .ok (.mixed, dt.getD defaultDeltaT, n.getD defaultNEvents)
  | .all, _, _ => .ok (.all, maxDeltaT, maxEvents)

/-- Settles the bounds of windows; both must be positive. -/
def resolve (mode : ReadMode) (deltaT nEvents : Option UInt64) (maxDeltaT maxEvents : UInt64) :
    Except ConfigError Window :=
  match choose mode deltaT nEvents maxDeltaT maxEvents with
  | .error e => .error e
  | .ok (mode, dt, n) =>
    if hdt : dt = 0 then .error .zeroDeltaT
    else if hn : n = 0 then .error .zeroNEvents
    else .ok ⟨mode, dt, n, hdt, hn⟩

/-- The span bounds the window. -/
def isTimeBounded (w : Window) : Bool :=
  match w.mode with
  | .deltaT | .mixed => true
  | _ => false

/-- The events span more than the window may, judged by the first and the last. -/
def exceedsSpan (w : Window) (events : List Event) : Bool :=
  match events.head?, events.getLast? with
  -- A last event before the first one spans nothing, as the difference stops at zero.
  | some first, some last => decide (w.deltaT.toNat < last.t.toNat - first.t.toNat)
  | _, _ => false

/-- Why no more events are gathered, if so. The number of events is judged before the span. -/
def exitReason? (w : Window) (events : List Event) : Option WindowExit :=
  if w.maxEvents.toNat ≤ events.length then some .eventCap
  else if w.isTimeBounded && w.exceedsSpan events then some .timeCap
  else none

/-- The event is at most as late after `first` as the window may span; a time beyond the greatest
one counts as the greatest. -/
def inSpan (w : Window) (first e : Event) : Bool :=
  decide (e.t.toNat ≤ min (first.t.toNat + w.deltaT.toNat) (UInt64.size - 1))

/-- The number of events that go out: those within the span of the first one if the span was
exceeded, otherwise all, up to the greatest number. The end of the span is searched for, as events
are in order of time. -/
def release (w : Window) (events : List Event) (reason : WindowExit)
    (search : Search := .linear) : Nat :=
  let cut := min events.length w.maxEvents.toNat
  match reason, events with
  -- Events beyond the span have been gathered along with those of the same chunk.
  | .timeCap, first :: _ => min cut (search.count (w.inSpan first) events)
  | _, _ => cut

theorem release_le_length (w : Window) (events : List Event) (reason : WindowExit)
    (search : Search) : w.release events reason search ≤ events.length := by
  simp only [release]
  split <;> omega

theorem inSpan_self (w : Window) (e : Event) : w.inSpan e e = true := by
  have := e.t.toNat_lt
  simp only [inSpan, decide_eq_true_eq, UInt64.size]
  omega

/-- Events within the span of the first one come before the others if events are in order. -/
theorem ordered_inSpan (w : Window) (first : Event) {events : List Event}
    (ho : events.Pairwise (·.t ≤ ·.t)) :
    events.Pairwise fun a b => w.inSpan first b = true → w.inSpan first a = true := by
  apply ho.imp
  intro a b hab hb
  have := UInt64.le_iff_toNat_le.1 hab
  simp only [inSpan, decide_eq_true_eq] at hb ⊢
  omega

theorem maxEvents_pos (w : Window) : 0 < w.maxEvents.toNat := by
  rcases Nat.eq_zero_or_pos w.maxEvents.toNat with h | h
  · exact absurd (UInt64.toNat.inj (by simpa using h)) w.maxEvents_ne_zero
  · exact h

theorem exitReason?_nil (w : Window) : w.exitReason? [] = none := by
  have := w.maxEvents_pos
  simp [exitReason?, exceedsSpan, Nat.not_le.2 this]

end Window

end EventCamera
