import EventCamera.Command.Encode
import EventCamera.Random.Events
/-!
# Making a recording of random events

## Main definitions

* `generateRecording` — makes a recording of random events in a file
-/

namespace EventCamera

/-- The pixels and times that the events are drawn from. -/
def GenerateArguments.range (a : GenerateArguments) : RandomRange :=
  { width := a.width, height := a.height, start := 0, stop := a.duration }

/-- What the recording is to be like. -/
def GenerateArguments.writerOptions (a : GenerateArguments) : WriterOptions :=
  { size := ⟨a.width.toUInt32, a.height.toUInt32⟩ }

/-- Makes a recording of random events in a file. -/
def generateRecording (a : GenerateArguments) (now : DateTime) (storage : Storage) : Report :=
  let report : Report := { storage }
  match createRecording a.writerOptions now storage a.output with
  | .error e => report.fail (.onFile "create" a.output e.causes)
  | .ok (storage, writer) =>
    let report := { report with storage }
    let written := writer.writeAll (RandomChunks.create a.count a.range eventsAtOnce a.seed).all
    let report := report.note written.notices
    match written.result with
    | .error e =>
      abandonRecording report a.output written.writer ⟨"Failed to encode events", e.causes⟩
    | .ok () =>
      finishRecording report a.output written.writer fun _ bytes =>
        "Generated " ++ toString a.count ++ " events over " ++ toString a.duration.toNat ++
          " us (" ++ toString bytes ++ " bytes) in " ++ Text.quote (fileName a.output)

end EventCamera
