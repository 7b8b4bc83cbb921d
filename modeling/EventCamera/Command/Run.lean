import EventCamera.Command.Decode
import EventCamera.Command.Generate
import EventCamera.Command.Info
/-!
# The program

What the arguments of the program lead to, given the files at hand.

## Main definitions

* `Task.run` — carries out a task
* `Execution` — what the program leaves behind, with `Execution.exitCode`
* `runProgram` — takes the arguments and does what they ask for
-/

namespace EventCamera

/-- Carries out a task. -/
def Task.run (task : Task) (now : DateTime) (storage : Storage) : Report :=
  match task with
  | .info input => showInfo input storage
  | .decode arguments => decodeRecording arguments storage
  | .encode arguments => encodeTable arguments now storage
  | .generate arguments => generateRecording arguments now storage

/-- What the program leaves behind. -/
structure Execution where
  /-- The report on what was asked for, unless the arguments ask for nothing that can be done. -/
  report : Option Report
  filter : LogFilter

namespace Execution

/-- The number that the program ends with. -/
def exitCode (o : Execution) : Nat :=
  match o.report with
  | none => 2
  | some report => if report.failure.isSome then 1 else 0

/-- The entries of the log that are shown. -/
def shown (o : Execution) : List LogEntry :=
  match o.report with
  | none => []
  | some report => report.entries.filter o.filter.shows

end Execution

/-- Takes the arguments of the program and does what they ask for. The setting says what is shown
of the log. -/
def runProgram (args : List String) (setting : Option String) (now : DateTime)
    (storage : Storage) : Execution :=
  match Invocation.parse args with
  | none => { report := none, filter := .ofSetting false setting }
  | some (.show text) =>
    { report := some { storage := storage.silent.print text }, filter := .ofSetting false setting }
  | some (.run verbose task) =>
    { report := some (task.run now storage.silent), filter := .ofSetting verbose setting }

end EventCamera
