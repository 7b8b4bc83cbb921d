import EventCamera.Command.Invocation
import EventCamera.Command.Report
import EventCamera.Loop
/-!
# Making a recording of a table

The events of a table are read and written in turns. A failure keeps what has been written before
it. The recording may go into the file that the table is read from: what comes behind the blocks
that have been loaded by then is what the recording has put there.

## Main definitions

* `Loading` — how far a file has been loaded, with `Loading.source` and `Loading.advance`
* `EncodeRun` — how far encoding has come, with `EncodeRun.readEvents`, which reads the next events
* `encodeBatch`, `encodeEvents` — writes some events, and all that follow them as well
* `encodeTable` — makes a recording of a table in a file
-/

namespace EventCamera

/-- The number of events that are read, or made, at once. -/
def eventsAtOnce : Nat := 1000000

/-- The size of the sensor: as the arguments say, or the table, or else the usual one. -/
def EncodeArguments.size (a : EncodeArguments) (declared : Option Geometry) : Geometry :=
  let g := declared.getD ⟨1280, 720⟩
  ⟨a.width.getD g.width, a.height.getD g.height⟩

/-- What the recording is to be like. -/
def EncodeArguments.writerOptions (a : EncodeArguments) (declared : Option Geometry) :
    WriterOptions :=
  { size := a.size declared, serialNumber := a.serial, format := a.format }

/-- A recording that is given up keeps what has been written. -/
def abandonRecording (report : Report) (path : String) (w : Writer) (failure : Failure) : Report :=
  { report with storage := report.storage.write path w.sink.abandon, failure := some failure }

/-- Completes a recording. Gives also the last line on it, which depends on the number of events
and on that of bytes written up to here. -/
def finishRecording (report : Report) (path : String) (w : Writer)
    (lastLine : Nat → Nat → String) : Report :=
  let finished := w.finish
  let report := report.note finished.notices
  match finished.result with
  | .error e => abandonRecording report path finished.writer ⟨"Failed to finish RAW file", e.causes⟩
  | .ok () =>
    let report := report.progress (lastLine w.writtenEvents w.bytesWritten)
    { report with storage := report.storage.write path finished.writer.accepted }

/-- How far a file has been loaded that is read in blocks. -/
structure Loading where
  /-- What has been loaded but not taken. -/
  waiting : List UInt8 := []
  /-- Number of bytes that have been loaded. -/
  offset : Nat := 0

namespace Loading

/-- What a file with this content has still to give. -/
def source (l : Loading) (content : List UInt8) : Source :=
  [.bytes l.waiting, .bytes (content.drop l.offset)]

/-- Takes `n` bytes. Blocks are loaded as soon as a byte of them is needed, and not before. -/
def advance (l : Loading) (content : List UInt8) (n : Nat) : Loading :=
  let blocks := (content.drop l.offset).take (wholeBlocks (n - l.waiting.length))
  { waiting := (l.waiting ++ blocks).drop n, offset := l.offset + blocks.length }

end Loading

/-- How far the file of a table has been loaded once some of it is left, if the recording is to go
into the same file. -/
def EncodeArguments.loading (a : EncodeArguments) (storage : Storage) (opened : Storage.Opened)
    (left : Source) : Option Loading :=
  match opened, (Place.of storage a.input).location? with
  | .content bytes, some location =>
    if (Place.of storage a.output).location? = some location then
      some (Loading.advance {} bytes (bytes.length - left.content.length))
    else none
  | _, _ => none

/-- How far encoding has come. -/
structure EncodeRun where
  table : TableReader
  writer : Writer
  notices : Array Notice := #[]
  /-- How far the file of the table has been loaded, if the recording is in it as well. -/
  loading : Option Loading := none

/-- Reads the next events. A file that the recording is in has become empty when it was created, and
holds what has been written since. -/
def EncodeRun.readEvents (run : EncodeRun) : EncodeRun × Except TableError (List Event) :=
  match run.loading with
  | none =>
    let step := run.table.readEvents eventsAtOnce
    ({ run with table := step.reader }, step.result)
  | some loading =>
    let content := run.writer.accepted.toList
    let source := loading.source content
    let step := { run.table with source }.readEvents eventsAtOnce
    let taken := source.content.length - step.reader.source.content.length
    ({ run with table := step.reader, loading := some (loading.advance content taken) },
      step.result)

/-- The failure to read a table. -/
def unreadTable (e : TableError) : Failure := ⟨"Failed to read CSV input", e.causes⟩

/-- Writes some events and reads the next ones. None are the end. -/
def encodeBatch : EncodeRun × List Event → (EncodeRun × List Event) ⊕ (EncodeRun × Option Failure)
  | (run, events) =>
    if events.isEmpty then .inr (run, none)
    else
      let written := run.writer.write events
      let run := { run with writer := written.writer, notices := run.notices ++ written.notices }
      match written.result with
      | .error e => .inr (run, some ⟨"Failed to encode events", e.causes⟩)
      | .ok () =>
        match run.readEvents with
        | (run, .error e) => .inr (run, some (unreadTable e))
        | (run, .ok events) => .inl (run, events)

/-- Writes some events and all that follow them. Where the recording is in the file of the table,
more may follow with each batch. -/
def encodeEvents (run : EncodeRun) (events : List Event) : EncodeRun × Option Failure :=
  have : Nonempty (EncodeRun × Option Failure) := ⟨run, none⟩
  untilResult encodeBatch (run, events)

/-- Makes a recording of a table in a file. -/
def encodeTable (a : EncodeArguments) (now : DateTime) (storage : Storage) : Report :=
  let report : Report := { storage }
  match storage.read a.input with
  | .error e => report.fail (.onFile "open" a.input [e.message])
  | .ok opened =>
    let table : TableReader := { source := opened.table, order := a.order }
    let first := table.readEvents eventsAtOnce
    match first.result with
    | .error e => report.fail (unreadTable e)
    | .ok events =>
      let options := a.writerOptions first.reader.geometry
      match createRecording options now storage a.output with
      | .error e => report.fail (.onFile "create" a.output e.causes)
      | .ok (storage, writer) =>
        let report := { report with storage }
        let report := report.progress <|
          "Encoding " ++ Text.quote (fileName a.input) ++ " as " ++ a.format.name ++ " " ++
            String.ofList options.size.render
        let loading := a.loading storage opened first.reader.source
        let (run, failure) := encodeEvents { table := first.reader, writer, loading } events
        let report := report.note run.notices.toList
        match failure with
        | some e => abandonRecording report a.output run.writer e
        | none =>
          finishRecording report a.output run.writer fun events bytes =>
            "Wrote " ++ toString events ++ " events (" ++ toString bytes ++ " bytes) to " ++
              Text.quote (fileName a.output)

end EventCamera
