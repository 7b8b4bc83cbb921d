import EventCamera.Calendar
import EventCamera.Geometry
import EventCamera.PayloadFormat
import EventCamera.Text.Lower
/-!
# Header of a recording

A recording starts with lines of text, each a key and its value. This module holds what the lines
say and the keys they use.

## Main definitions

* `HeaderKey` — the known keys, with `HeaderKey.name` and `HeaderKey.ofName?`
* `Header` — the values of the keys, and what they come to
* `Header.forRecording` — the header of a new recording
-/

namespace EventCamera

/-- The known keys of header lines, in the order in which they are written. -/
inductive HeaderKey where
  | cameraIntegratorName
  | date
  | evt
  | format
  | generation
  | geometry
  | integratorName
  | pluginIntegratorName
  | pluginName
  | sensorGeneration
  | sensorName
  | serialNumber
  | systemId
deriving DecidableEq

namespace HeaderKey

/-- A key as it is written. -/
def name : HeaderKey → String
  | cameraIntegratorName => "camera_integrator_name"
  | date => "date"
  | evt => "evt"
  | format => "format"
  | generation => "generation"
  | geometry => "geometry"
  | integratorName => "integrator_name"
  | pluginIntegratorName => "plugin_integrator_name"
  | pluginName => "plugin_name"
  | sensorGeneration => "sensor_generation"
  | sensorName => "sensor_name"
  | serialNumber => "serial_number"
  | systemId => "system_ID"

/-- Every key, in the order in which they are written. -/
def all : List HeaderKey :=
  [cameraIntegratorName, date, evt, format, generation, geometry, integratorName,
    pluginIntegratorName, pluginName, sensorGeneration, sensorName, serialNumber, systemId]

/-- The key with a name, given in lower case. -/
def ofName? (lowered : List Char) : Option HeaderKey :=
  all.find? fun key => Text.lower key.name.toList = lowered

end HeaderKey

/-- The values of the header lines, and what they come to. -/
structure Header where
  date : Option DateTime := none
  /-- The value of the `evt` line. -/
  evt : Option String := none
  /-- The value of the `format` line. -/
  format : Option String := none
  generation : Option String := none
  serialNumber : String := "00000000"
  /-- Number of the kind of camera. -/
  systemId : UInt32 := 49
  /-- Who built the camera. -/
  cameraIntegratorName : String := "Prophesee"
  /-- Who built the system. -/
  integratorName : String := "Prophesee"
  sensorName : Option String := none
  sensorGeneration : Option String := none
  /-- The value of the `geometry` line. -/
  geometry : Option String := none
  /-- Name of the software that made the recording. -/
  pluginName : Option String := none
  /-- Who built that software. -/
  pluginIntegratorName : Option String := none
  /-- The size of the sensor that the lines come to. -/
  size : Geometry := ⟨Geometry.maxDimension, Geometry.maxDimension⟩
  /-- The payload format that the lines come to. -/
  payloadFormat : PayloadFormat := .evt3
deriving DecidableEq

namespace Header

/-- The generation that is written if none is known. -/
def defaultGeneration : String := "4.2"

/-- The name of the software that is written if none is known. -/
def defaultPluginName : String := "hal_plugin_prophesee"

/-- The builder that is written if none is known. -/
def defaultIntegrator : String := "Prophesee"

/-- The value of a `format` line: the name of the format, and the size of the sensor. -/
def formatValue (format : PayloadFormat) (size : Geometry) : List Char :=
  format.name.toList ++ ";height=".toList ++ Numeral.decimal size.height.toNat ++
    ";width=".toList ++ Numeral.decimal size.width.toNat

/-- The header of a new recording. -/
def forRecording (size : Geometry) (format : PayloadFormat) (date : Option DateTime)
    (serialNumber : String) : Header where
  date := date
  evt := some format.version
  format := some (String.ofList (formatValue format size))
  generation := some defaultGeneration
  serialNumber := serialNumber
  sensorGeneration := some defaultGeneration
  geometry := some (String.ofList size.render)
  pluginName := some defaultPluginName
  pluginIntegratorName := some defaultIntegrator
  size := size
  payloadFormat := format

end Header

end EventCamera
