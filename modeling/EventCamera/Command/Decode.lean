import EventCamera.Command.Invocation
import EventCamera.Command.Report
import EventCamera.Csv.Writer
import EventCamera.Loop
import EventCamera.Text.Padded
/-!
# Making tables of a recording

The events of a recording go into one table and its triggers into another, window by window. A
failure keeps what has been written before it. A table may go into the file that the recording is
read from: what comes behind the part that had been loaded by then is what the table has put there.

## Main definitions

* `Tables` — the tables that are made and the files that they are in, with `Tables.add`,
  `Tables.flush` and `Tables.giveUp`
* `Spool` — the file that a recording is read from, if it changes on the way
* `DecodeRun` — how far decoding has come
* `decodeWindow`, `decodeWindows` — puts the next window into the tables, and all that are left
* `decodeRecording` — makes tables of a recording in a file
-/

namespace EventCamera

/-- The tables that are made, and the files that they are in. -/
structure Tables where
  order : FieldOrder
  storage : Storage
  events : Outlet
  /-- The table of triggers, if there is one. -/
  triggers : Option Outlet := none

namespace Tables

/-- A step that may fail, after which what has been written is still there. -/
abbrev Step := Tables × Except Failure Unit

/-- Writes into the table of events. -/
def onEvents (t : Tables) (act : BufferedSink → BufferedSink × Except String Unit)
    (failure : List String → Failure) : Step :=
  let (sink, result) := act t.events.sink
  let (events, storage) := { t.events with sink }.settle t.storage
  ({ t with events, storage }, result.mapError fun m => failure (TableError.causes (.io m)))

/-- Writes into the table of triggers, if there is one. -/
def onTriggers (t : Tables) (act : BufferedSink → BufferedSink × Except String Unit)
    (failure : List String → Failure) : Step :=
  match t.triggers with
  | none => (t, .ok ())
  | some outlet =>
    let (sink, result) := act outlet.sink
    let (outlet, storage) := { outlet with sink }.settle t.storage
    ({ t with triggers := some outlet, storage },
      result.mapError fun m => failure (TableError.causes (.io m)))

/-- Writes into both tables, into the second only if the first takes it. -/
def onBoth (t : Tables) (first second : Tables → Step) : Step :=
  match first t with
  | (t, .error e) => (t, .error e)
  | (t, .ok ()) => second t

/-- Adds the events and triggers of a window. -/
def add (t : Tables) (batch : Batch) : Step :=
  t.onBoth
    (·.onEvents (fun b => Csv.writeRows (Csv.eventRow t.order) b batch.events)
      (Failure.mk "Failed to write CSV output"))
    (·.onTriggers (fun b => Csv.writeRows Csv.triggerRow b batch.triggers)
      (Failure.mk "Failed to write trigger CSV"))

/-- Completes the tables. -/
def flush (t : Tables) : Step :=
  t.onBoth (·.onEvents (·.flush) .bare) (·.onTriggers (·.flush) .bare)

/-- Passes on what there is of the tables, in the reverse of the order in which they were begun. -/
def giveUp (t : Tables) : Tables :=
  ((t.onTriggers (·.flush) .bare).1.onEvents (·.flush) .bare).1

/-- A table is in a file. -/
def areIn (t : Tables) (location : Location) : Bool :=
  t.events.place = .file location || t.triggers.any fun o => o.place = .file location

/-- Number of bytes of the tables that have come into a file. -/
def bytesIn (t : Tables) (location : Location) : Nat :=
  let part (o : Outlet) : Nat := if o.place = .file location then o.settled else 0
  part t.events + (t.triggers.map part).getD 0

end Tables

/-- The options that the arguments of decoding come to. -/
def DecodeArguments.readerOptions (a : DecodeArguments) : ReaderOptions :=
  { mode := a.mode, deltaT := a.deltaT, nEvents := a.nEvents }

/-- The file that a recording is read from. -/
structure Spool where
  /-- Where it is, if a table is there as well. -/
  location : Option Location := none
  /-- What of it had been loaded when the header was over. -/
  loaded : List UInt8 := []

namespace Spool

/-- The file that a path leads to, with the content that it had before the tables were begun. -/
def of (storage : Storage) (path : String) (tables : Tables) : Spool :=
  match (Place.of storage path).location? with
  | none => {}
  | some location =>
    -- Only where a table is in the same file can the recording change while it is read.
    if tables.areIn location then
      { location := some location
        loaded := loadedPart ((storage.find? location).getD .empty).toList }
    else {}

/-- Makes a reader read on from what the file holds now. -/
def reload (spool : Spool) (storage : Storage) (reader : Reader) : Reader :=
  match spool.location with
  | none => reader
  | some location =>
    let content := ((storage.find? location).getD .empty).toList
    { reader with
      payload.source := Source.resume spool.loaded content reader.position }

/-- The tables have changed the file. -/
def isChanged (spool : Spool) (before after : Tables) : Bool :=
  match spool.location with
  | none => false
  | some location => before.bytesIn location != after.bytesIn location

end Spool

/-- Creates the files of the tables, one after the other, and writes the lines before the first
record into them. -/
def beginTables (a : DecodeArguments) (size : Geometry) (storage : Storage) :
    Except (Storage × Failure) Tables :=
  match storage.create a.output with
  | .error e => .error (storage, .onFile "create" a.output [e.message])
  | .ok (storage, events) =>
    let heading := Csv.eventHeading a.order (some size)
    let tables : Tables := { order := a.order, storage, events }
    -- The first table is begun before the second is created, and stays if the latter fails.
    match tables.onEvents (Csv.writePieces · heading) .bare, a.triggers with
    | (tables, .error e), _ => .error (tables.giveUp.storage, e)
    | (tables, .ok ()), none => .ok tables
    | (tables, .ok ()), some path =>
      match tables.storage.create path with
      | .error e => .error (tables.giveUp.storage, .onFile "create" path [e.message])
      | .ok (storage, triggers) =>
        let tables := { tables with storage, triggers := some triggers }
        match tables.onTriggers (Csv.writePieces · Csv.triggerHeading) .bare with
        | (tables, .error e) => .error (tables.giveUp.storage, e)
        | (tables, .ok ()) => .ok tables

/-- How far decoding has come. -/
structure DecodeRun where
  reader : Reader
  tables : Tables
  notices : Array Notice := #[]
  windows : Nat := 0
  events : Nat := 0
  triggers : Nat := 0

/-- Counts a window. -/
def DecodeRun.count (run : DecodeRun) (batch : Batch) : DecodeRun :=
  { run with
    windows := run.windows + 1
    events := run.events + batch.events.length
    triggers := run.triggers + batch.triggers.length }

/-- Puts the next window into the tables. A window that holds nothing is the end. -/
def decodeWindow (spool : Spool) (run : DecodeRun) : DecodeRun ⊕ (DecodeRun × Option Failure) :=
  let step := run.reader.read
  let after := { run with reader := step.reader, notices := run.notices ++ step.notices }
  match step.result with
  | .error e => .inr (after, some ⟨"Failed to decode RAW file", e.causes⟩)
  | .ok batch =>
    if batch.isEmpty then .inr (after, none)
    else
      match run.tables.add batch with
      | (tables, .error e) => .inr ({ after with tables }, some e)
      | (tables, .ok ()) =>
        -- A table that has come into the file of the recording changes what is still to be read.
        let reader :=
          if spool.isChanged run.tables tables then spool.reload tables.storage step.reader
          else step.reader
        .inl { after.count batch with tables, reader }

/-- Puts all windows that are left into the tables. Where a table is in the file of the recording,
more may follow with each window. -/
def decodeWindows (spool : Spool) (run : DecodeRun) : DecodeRun × Option Failure :=
  have : Nonempty (DecodeRun × Option Failure) := ⟨run, none⟩
  untilResult (decodeWindow spool) run

/-- The last lines on a recording that has been decoded. -/
def decodeSummary (a : DecodeArguments) (run : DecodeRun) : List String :=
  let line (label text : String) : String := Text.padded 14 label ++ text
  [line "Input:" (Text.quote a.input), line "Output:" (Text.quote a.output),
    line "CD Events:" (toString run.events), line "Triggers:" (toString run.triggers),
    line "Windows:" (toString run.windows),
    line "Sensor:" (String.ofList run.reader.header.size.render)]

/-- Puts all windows of a recording into tables, and completes these. -/
def decodeInto (a : DecodeArguments) (report : Report) (spool : Spool) (start : DecodeRun) :
    Report :=
  let (run, failure) := decodeWindows spool start
  let report := report.note run.notices.toList
  match failure with
  | some e => { report with storage := run.tables.giveUp.storage, failure := some e }
  | none =>
    match run.tables.flush with
    | (tables, .error e) => { report with storage := tables.giveUp.storage, failure := some e }
    | (tables, .ok ()) =>
      -- One report for all groups; those of the single chunks say where each was dropped.
      let dropped := run.reader.payload.malformed
      let report := report.note (if dropped = 0 then [] else [.groupsDropped dropped])
      { report with
        storage := tables.storage
        summary := if a.quiet then [] else decodeSummary a run }

/-- Makes tables of a recording in a file. -/
def decodeRecording (a : DecodeArguments) (storage : Storage) : Report :=
  let opening := openRecording a.readerOptions storage a.input
  let report : Report := { storage }
  let report := report.note opening.notices
  match opening.result with
  | .error e => report.fail (.onFile "open" a.input e.causes)
  | .ok reader =>
    let size := reader.header.size
    let report := report.progress <|
      "Decoding " ++ Text.quote (fileName a.input) ++ " (" ++ String.ofList size.render ++
        ") with " ++ reader.window.mode.name ++ " windows"
    match beginTables a size storage with
    | .error (storage, failure) => { report with storage, failure := some failure }
    | .ok tables =>
      let spool := Spool.of storage a.input tables
      decodeInto a report spool { reader := spool.reload tables.storage reader, tables }

end EventCamera
