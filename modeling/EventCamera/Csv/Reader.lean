import EventCamera.Bytes.Source
import EventCamera.Bytes.Utf8
import EventCamera.Csv.FieldOrder
import EventCamera.Geometry
import EventCamera.Text.Quoted
/-!
# Reading tables

Lines of a table are read one by one. Empty lines, comments and lines that start with a letter
are passed over; any other line is the record of an event. A line that cannot be taken ends the
reading of some events, but the next reading goes on behind it.

## Main definitions

* `RecordError`, `TableError` — why a line, or a table, cannot be taken
* `Csv.TableLine.of` — what a line is
* `Csv.parseRecord` — the event of a record
* `TableReader` — a table that is being read
* `TableReader.readEvents` — reads some of its events
-/

namespace EventCamera

/-- Why a line is no record. -/
inductive RecordError where
  /-- It does not have four columns. -/
  | columnCount (count : Nat)
  | value (column : String) (cause : NumeralError)
  | coordinate (field : EventField) (value : UInt64)
  | polarity (value : UInt64)
deriving DecidableEq

/-- The wording of a failure. -/
def RecordError.message : RecordError → String
  | columnCount count => "expected 4 columns, got " ++ toString count
  | value column cause => "invalid value " ++ Text.quote column ++ ": " ++ cause.message
  | coordinate field n => field.name ++ " " ++ toString n.toNat ++ " out of range"
  | polarity n => "polarity " ++ toString n.toNat ++ " is not 0 or 1"

/-- Why a table cannot be read or written on. -/
inductive TableError where
  /-- The source or the sink failed. -/
  | io (message : String)
  /-- The order of the columns cannot be taken. -/
  | fieldOrder (cause : FieldOrderError)
  /-- The line with the given number, from 1, is no record. -/
  | record (line : Nat) (cause : RecordError)
deriving DecidableEq

/-- The wording of an error. -/
def TableError.message : TableError → String
  | io message => "IO error: " ++ message
  | fieldOrder cause => "Invalid format: " ++ cause.message
  | record line cause => "Line " ++ toString line ++ ": " ++ cause.message

namespace Csv

/-- What a line of a table is. -/
inductive TableLine where
  | skipped
  /-- A comment with the size of the sensor, which may not be readable. -/
  | geometry (size : Option Geometry)
  /-- The record of an event. -/
  | record (text : List Char)

/-- A character of the Latin alphabet without accents. -/
def isLetter (c : Char) : Bool := c.isAlpha

/-- What a line is, blanks around it aside. -/
def TableLine.of (line : List Char) : TableLine :=
  match Text.trim line with
  | [] => .skipped
  | c :: cs =>
    if c = '%' then
      match Text.after "geometry:".toList (Text.trim cs) with
      | some size => .geometry (Geometry.parsePair ',' size)
      | none => .skipped
    else if isLetter c then .skipped
    else .record (c :: cs)

/-- Reads the columns of a record, from left to right. -/
def readValues : List (EventField × List Char) → Except RecordError (List (EventField × UInt64))
  | [] => .ok []
  | (field, column) :: columns =>
    match Numeral.parse64 column with
    | .error e => .error (.value (String.ofList column) e)
    | .ok value =>
      match readValues columns with
      | .error e => .error e
      | .ok values => .ok ((field, value) :: values)

/-- The value of a field. -/
def fieldValue (values : List (EventField × UInt64)) (field : EventField) : UInt64 :=
  (values.lookup field).getD 0

/-- The event with the given values. -/
def eventOf (values : List (EventField × UInt64)) : Except RecordError Event :=
  -- The fields are judged in this order, not in that of the columns.
  let x := fieldValue values .x
  let y := fieldValue values .y
  let p := fieldValue values .p
  if 0xFFFF < x then .error (.coordinate .x x)
  else if 0xFFFF < y then .error (.coordinate .y y)
  else if 1 < p then .error (.polarity p)
  else .ok ⟨fieldValue values .t, x.toUInt16, y.toUInt16, p.toUInt8⟩

/-- The event of a record. -/
def parseRecord (order : FieldOrder) (line : List Char) : Except RecordError Event :=
  let columns := (Text.fields ',' line).map Text.trim
  if columns.length = 4 then
    match readValues (order.columns.zip columns) with
    | .error e => .error e
    | .ok values => eventOf values
  else .error (.columnCount columns.length)

end Csv

/-- A table that is being read. -/
structure TableReader where
  source : Source
  order : FieldOrder
  /-- The size of the sensor, as the last comment that gives one says. -/
  geometry : Option Geometry := none
  lineNumber : Nat := 0
  eof : Bool := false

namespace TableReader

/-- The wording of the refusal of a line that is not well-formed. -/
def invalidText : String := "stream did not contain valid UTF-8"

/-- What reading some events gives. -/
structure Step where
  reader : TableReader
  /-- The events, or why there are none. -/
  result : Except TableError (List Event)

/-- Reads events behind those in `events`, until there are `n` or the table ends. -/
def readInto (n : Nat) (r : TableReader) (events : Array Event) : Step :=
  if n ≤ events.size || r.eof then { reader := r, result := .ok events.toList }
  else if _hs : r.source = [] then
    { reader := { r with eof := true }, result := .ok events.toList }
  else
    match _hl : r.source.readLine with
    | (.error message, source) =>
      { reader := { r with source }, result := .error (.io message) }
    -- A line without a byte, not even a line feed, is the end.
    | (.ok [], source) =>
      { reader := { r with source, eof := true }, result := .ok events.toList }
    | (.ok line, source) =>
      match Utf8.decode? line with
      -- The line is taken, but it does not count.
      | none => { reader := { r with source }, result := .error (.io invalidText) }
      | some text =>
        let r := { r with source, lineNumber := r.lineNumber + 1 }
        match Csv.TableLine.of text with
        | .skipped => readInto n r events
        -- A size that is not readable takes the place of one that was.
        | .geometry size => readInto n { r with geometry := size } events
        | .record record =>
          match Csv.parseRecord r.order record with
          | .error e => { reader := r, result := .error (.record r.lineNumber e) }
          | .ok e => readInto n r (events.push e)
termination_by r.source.size
decreasing_by
  all_goals
    have h := Source.size_readLine_lt _hs
    rw [_hl] at h
    exact h

/-- Reads at most `n` events, fewer only at the end of the table. A failure loses the events that
were read before it. -/
def readEvents (r : TableReader) (n : Nat) : Step := readInto n r #[]

end TableReader

end EventCamera
