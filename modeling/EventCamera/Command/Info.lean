import EventCamera.Command.Report
import EventCamera.Text.Padded
/-!
# Showing a header

## Main definitions

* `headerLines` — what is shown of a header
* `showInfo` — shows the header of a recording in a file
-/

namespace EventCamera

/-- What is shown of a recording of `size` bytes in a file. -/
def headerLines (path : String) (reader : Reader) (size : Nat) : List String :=
  let h := reader.header
  let line (label text : String) : String := Text.padded 15 label ++ text
  [line "File:" (Text.quote path), line "Format:" h.payloadFormat.name,
    line "Geometry:" (String.ofList h.size.render)] ++
  (h.date.map fun d => line "Date:" (String.ofList d.render)).toList ++
  [line "Serial number:" h.serialNumber, line "System ID:" (toString h.systemId.toNat)] ++
  (h.sensorName.map (line "Sensor:")).toList ++
  (h.sensorGeneration.map (line "Generation:")).toList ++
  [line "Integrator:" h.integratorName,
    line "Header size:" (toString reader.position ++ " bytes"),
    line "Payload size:" (toString (size - reader.position) ++ " bytes")]

/-- Shows the header of a recording in a file. -/
def showInfo (path : String) (storage : Storage) : Report :=
  let opening := openRecording {} storage path
  let report : Report := { storage }
  let report := report.note opening.notices
  match opening.result with
  | .error e => report.fail (.onFile "open" path e.causes)
  | .ok reader =>
    let lines := headerLines path reader (storage.size path)
    { report with storage := storage.print (String.join (lines.map (· ++ "\n"))) }

end EventCamera
