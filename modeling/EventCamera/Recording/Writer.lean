import EventCamera.Bytes.Sink
import EventCamera.Evt3.Encoding
import EventCamera.Header.Render
import EventCamera.Window
/-!
# Writing a recording

A writer puts a header and the words of events into a sink. The header comes with the first
events, or when the writer finishes without any.

## Main definitions

* `WriterOptions` — what the header says, and the role of the camera
* `WriteError` — why a recording cannot be written
* `Writer` — a recording that is being written, and `Writer.create`, which starts
* `Writer.start` — writes the header, once
* `Writer.write`, `Writer.writeAll` — write events
* `Writer.finish` — completes the recording
-/

namespace EventCamera

/-- What a recording is to be like. -/
structure WriterOptions where
  size : Geometry := ⟨1280, 720⟩
  /-- When the recording was made. -/
  date : Option DateTime := none
  serialNumber : String := "00000000"
  format : PayloadFormat := .evt3
  role : CameraRole := .master

/-- The size of the sensor must be addressable. -/
def WriterOptions.check (o : WriterOptions) : Except ConfigError Unit :=
  if o.size.isAddressable then .ok () else .error (.invalidGeometry o.size)

/-- Why a recording cannot be written. -/
inductive WriteError where
  | io (message : String)
  | config (cause : ConfigError)
  /-- Payloads of this format cannot be written. -/
  | notImplemented (format : PayloadFormat)
deriving DecidableEq

/-- The wording of an error. -/
def WriteError.message : WriteError → String
  | io message => "IO error: " ++ message
  | config cause => "Invalid configuration: " ++ cause.message
  | notImplemented format => "Encoding " ++ format.name ++ " is not implemented"

/-- A recording that is being written. -/
structure Writer where
  /-- Where it is written to. -/
  sink : BufferedSink
  header : Header
  /-- The time that is written if the header has none. -/
  now : DateTime
  encoder : Encoder
  /-- The header has been written. -/
  started : Bool := false
  writtenEvents : Nat := 0
  /-- Number of bytes written, those of the header included. -/
  bytesWritten : Nat := 0

namespace Writer

/-- Starts a recording. Nothing is written yet. A recording with no date given is made now. -/
def create (options : WriterOptions) (now : DateTime) (sink : Sink) : Except WriteError Writer :=
  match options.check with
  | .error e => .error (.config e)
  | .ok () =>
    .ok
      { sink := { sink }
        header :=
          .forRecording options.size options.format (some (options.date.getD now))
            options.serialNumber
        now
        encoder := { role := options.role } }

/-- The bytes of the header. -/
def headerBytes (w : Writer) : ByteArray := (w.header.text w.now).toUTF8

/-- What a step of writing gives. -/
structure Step where
  writer : Writer
  /-- Nothing, or why the step failed. -/
  result : Except WriteError Unit
  /-- The reports on the events. -/
  notices : List Notice := []

/-- Writes the header unless it has been written. -/
def start (w : Writer) : Step :=
  if w.header.payloadFormat.isImplemented then
    if w.started then { writer := w, result := .ok () }
    else
      match w.sink.write w.headerBytes with
      | (sink, .error message) => { writer := { w with sink }, result := .error (.io message) }
      | (sink, .ok ()) =>
        { writer :=
            { w with sink, started := true, bytesWritten := w.bytesWritten + w.headerBytes.size }
          result := .ok () }
  else { writer := w, result := .error (.notImplemented w.header.payloadFormat) }

/-- The greatest coordinate that a word can hold. -/
def maxCoordinate : UInt16 := 0x07FF

/-- The reports on field values that words cannot hold. -/
def fieldNotices (events : List Event) : List Notice :=
  (if events.any fun e => maxCoordinate < e.x || maxCoordinate < e.y then [.coordinatesCut]
    else []) ++
    (if events.any fun e => 1 < e.p then [.polaritiesCut] else [])

/-- Writes events, behind the header if that is still to come. The encoder moves on also if the
sink refuses the words. -/
def write (w : Writer) (events : List Event) : Step :=
  let begun := w.start
  match begun.result with
  | .error e => { writer := begun.writer, result := .error e }
  | .ok () =>
    let w := begun.writer
    let encoded := w.encoder.encode events
    let notices :=
      fieldNotices events ++ encoded.notices.toList ++
        if encoded.late = 0 then [] else [.lateEvents encoded.late]
    let bytes := encoded.bytes
    -- From here on the encoder counts the events as said, whether or not the sink takes them.
    let w := { w with encoder := encoded.encoder }
    match w.sink.write bytes with
    | (sink, .error message) =>
      { writer := { w with sink }, result := .error (.io message), notices }
    | (sink, .ok ()) =>
      { writer :=
          { w with
            sink
            bytesWritten := w.bytesWritten + bytes.size
            writtenEvents := w.writtenEvents + events.length }
        result := .ok ()
        notices }

/-- Writes the events of several batches, up to the first failure, behind the reports in
`notices`. -/
def writeAllInto (w : Writer) (notices : List Notice) : List (List Event) → Step
  | [] => { writer := w, result := .ok (), notices }
  | events :: batches =>
    let step := w.write events
    let notices := notices ++ step.notices
    match step.result with
    | .error e => { writer := step.writer, result := .error e, notices }
    | .ok () => writeAllInto step.writer notices batches

/-- Writes the events of several batches, up to the first failure. -/
def writeAll (w : Writer) (batches : List (List Event)) : Step := w.writeAllInto [] batches

/-- Completes the recording: its header is written if it has not been, and the buffer is passed
on. A format that cannot be written leaves nothing behind. -/
def finish (w : Writer) : Step :=
  let begun :=
    if w.header.payloadFormat.isImplemented then w.start else { writer := w, result := .ok () }
  match begun.result with
  | .error e => { writer := begun.writer, result := .error e }
  | .ok () =>
    match begun.writer.sink.flush with
    | (sink, .error message) =>
      { writer := { begun.writer with sink }, result := .error (.io message) }
    | (sink, .ok ()) => { writer := { begun.writer with sink }, result := .ok () }

/-- The bytes that the sink has accepted. -/
def accepted (w : Writer) : ByteArray := w.sink.sink.accepted

end Writer

end EventCamera
