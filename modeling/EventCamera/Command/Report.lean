import EventCamera.Command.Failure
import EventCamera.Command.Log
import EventCamera.Command.Storage
/-!
# Reports on a task

What carrying out a task comes to: the files and what is shown afterwards, what is logged, and
whether it failed.

## Main definitions

* `Report` — what a task comes to
* `Report.fail`, `Report.log` — a report with a failure, or with more in the log
* `openRecording` — starts to read a recording in a file
* `createRecording` — starts to write a recording into a file
-/

namespace EventCamera

/-- What carrying out a task comes to. -/
structure Report where
  /-- The files afterwards, and what has been shown. -/
  storage : Storage
  entries : List LogEntry := []
  /-- What is shown besides, line by line. -/
  summary : List String := []
  /-- Why the task failed, if it did. -/
  failure : Option Failure := none

namespace Report

/-- The task has failed. -/
def fail (r : Report) (failure : Failure) : Report := { r with failure := some failure }

/-- More is logged. -/
def log (r : Report) (entries : List LogEntry) : Report :=
  { r with entries := r.entries ++ entries }

/-- Notices are logged. -/
def note (r : Report) (notices : List Notice) : Report := r.log (notices.map LogEntry.ofNotice)

/-- A step is logged. -/
def progress (r : Report) (text : String) : Report := r.log [.progress text]

end Report

/-- Starts to read a recording in a file. The options are checked before the file is looked for. -/
def openRecording (options : ReaderOptions) (storage : Storage) (path : String) :
    Reader.Opening :=
  match options.window with
  | .error e => { result := .error (.config e) }
  | .ok _ =>
    match storage.read path with
    | .error e => { result := .error (.io e.message) }
    | .ok opened => Reader.openSource options opened.recording

/-- Starts to write a recording into a file. The options are checked before it is created. -/
def createRecording (options : WriterOptions) (now : DateTime) (storage : Storage)
    (path : String) : Except WriteError (Storage × Writer) :=
  match options.check with
  | .error e => .error (.config e)
  | .ok () =>
    match storage.create path with
    | .error e => .error (.io e.message)
    | .ok (storage, outlet) =>
      (Writer.create options now outlet.sink.sink).map fun writer => (storage, writer)

end EventCamera
