import EventCamera.Bytes.Sink
import EventCamera.Csv.FieldOrder
import EventCamera.Geometry
/-!
# Writing tables

Events and triggers as lines of numbers with commas between them. A table of events may start
with a comment that gives the size of the sensor.

## Main definitions

* `Csv.eventRow`, `Csv.triggerRow` — the pieces of a line, which are written one by one
* `Csv.geometryLine`, `Csv.headingLine`, `Csv.triggerHeading` — the lines before the first one
* `Csv.eventTable` — the text of a whole table
-/

namespace EventCamera.Csv

/-- Numbers with commas between them and a line feed behind them, piece by piece. -/
def row : List Nat → List String
  | [] => ["\n"]
  | [n] => [toString n, "\n"]
  | n :: ns => toString n :: "," :: row ns

/-- The line of an event. -/
def eventRow (order : FieldOrder) (e : Event) : List String :=
  row (order.columns.map fun field => field.value e)

/-- The line of a trigger. -/
def triggerRow (t : Trigger) : List String := row [t.t.toNat, t.p.toNat, t.id.toNat]

/-- The comment that gives the size of the sensor. -/
def geometryLine (g : Geometry) : List String := "%geometry:" :: row [g.width.toNat, g.height.toNat]

/-- The line with the names of the columns. -/
def headingLine (order : FieldOrder) : List String := [order.heading, "\n"]

/-- The lines before the first event. -/
def eventHeading (order : FieldOrder) (geometry : Option Geometry) : List String :=
  (geometry.map geometryLine).getD [] ++ headingLine order

/-- The line before the first trigger. -/
def triggerHeading : List String := ["t,p,id\n"]

/-- The text of a table of events. -/
def eventTable (order : FieldOrder) (geometry : Option Geometry) (events : List Event) : String :=
  String.join (eventHeading order geometry ++ events.flatMap (eventRow order))

/-- Writes pieces of text one by one, up to the first refusal. -/
def writePieces (b : BufferedSink) (pieces : List String) : BufferedSink × Except String Unit :=
  b.writeAll (pieces.map String.toUTF8)

/-- Writes the lines of some records, up to the first refusal. -/
def writeRows {α : Type} (line : α → List String) (b : BufferedSink) :
    List α → BufferedSink × Except String Unit
  | [] => (b, .ok ())
  | a :: as =>
    match writePieces b (line a) with
    | (b, .error message) => (b, .error message)
    | (b, .ok ()) => writeRows line b as

end EventCamera.Csv
