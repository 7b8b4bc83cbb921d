import EventCamera.Command.Run
import Std.Time.Zoned
/-!
# The command line

Fetches the files that the arguments name and the time, lets the program do its work on them, and
puts back what has changed.
-/

namespace EventCamera

/-- The time of day, where the program runs. -/
def currentTime : IO DateTime := do
  let now ← Std.Time.PlainDateTime.now
  let year := now.date.year.toInt
  let month := now.date.month.val.toNat
  let day := now.date.day.val.toNat
  let hour := now.time.hour.val.toNat
  let minute := now.time.minute.val.toNat
  let second := now.time.second.val.toNat
  if h : DateTime.IsPossible year month day hour minute second then
    return ⟨year, month, day, hour, minute, second, h⟩
  else
    return { year := 1970, month := 1, day := 1, hour := 0, minute := 0, second := 0 }

/-- The path of a location. -/
def Location.path (location : Location) : String :=
  match location with
  | "/" :: names => "/" ++ "/".intercalate names
  | names => "/".intercalate names

/-- Fetches the files that paths lead to or through, the directories on the way, and what the
program is fed with if a path leads there. -/
def fetchStorage (paths : List String) : IO Storage := do
  let here ← IO.currentDir
  let mut storage : Storage := { directories := [] }
  for path in paths do
    let mut location := Location.startOf path
    for name in pathNames path do
      location := location.enter name
      let place := here / Location.path location
      if Device.at? location = some .input then
        storage := { storage with input := ← (← IO.getStdin).readBinToEnd }
      else if (Device.at? location).isSome then
        pure ()
      else if ← place.isDir then
        storage := { storage with directories := location :: storage.directories }
      else if ← place.pathExists then
        if (← place.metadata).type == .file then
          storage := storage.put location (← IO.FS.readBinFile place)
  return storage

/-- Puts back the files that have changed. -/
def putBack (before after : Storage) : IO Unit := do
  for (location, content) in after.files do
    if (before.find? location).map ByteArray.toList != some content.toList then
      IO.FS.writeBinFile (Location.path location) content

/-- A line of the log. -/
def LogEntry.line (entry : LogEntry) : String :=
  entry.level.name.toUpper ++ " " ++ entry.origin.target ++ ": " ++ entry.shownText

/-- Does what the arguments ask for. -/
def runCommandLine (args : List String) : IO UInt32 := do
  let paths :=
    match Invocation.parse args with
    | some (.run _ task) => task.paths
    | _ => []
  let before ← fetchStorage paths
  let execution := runProgram args (← IO.getEnv "RUST_LOG") (← currentTime) before
  for entry in execution.shown do
    IO.eprintln entry.line
  match execution.report with
  | none => IO.eprint ("error: the arguments cannot be taken\n\n" ++ Command.programHelp)
  | some report =>
    putBack before report.storage
    (← IO.getStdout).write report.storage.shown
    (← IO.getStderr).write report.storage.complaints
    if !report.summary.isEmpty then
      IO.eprintln "\nSummary:"
    for line in report.summary do
      IO.eprintln ("  " ++ line)
    match report.failure with
    | none => pure ()
    | some failure => IO.eprint failure.render
  return execution.exitCode.toUInt32

end EventCamera

/-- Does what the arguments of the program ask for. -/
def main (args : List String) : IO UInt32 := EventCamera.runCommandLine args
