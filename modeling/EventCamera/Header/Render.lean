import EventCamera.Header.Basic
/-!
# Written form of a header

Every key is written on a line of its own, in a fixed order, with a line at the end that says so.
What a header leaves open is filled in, so that reading the text back leaves nothing open.

## Main definitions

* `Header.value?` — what is written for a key
* `Header.lines` — the keys that are written, with their values
* `Header.render` — the written form
-/

namespace EventCamera.Header

/-- What is written for a key: the format and the size that the header has come to, the given
time for a date that is not set, and nothing for a sensor without a name. -/
def value? (h : Header) (now : DateTime) : HeaderKey → Option (List Char)
  | .cameraIntegratorName => some h.cameraIntegratorName.toList
  | .date => some (h.date.getD now).render
  | .evt => some h.payloadFormat.version.toList
  | .format => some (formatValue h.payloadFormat h.size)
  | .generation => some (h.generation.getD defaultGeneration).toList
  | .geometry => some h.size.render
  | .integratorName => some h.integratorName.toList
  | .pluginIntegratorName => some (h.pluginIntegratorName.getD defaultIntegrator).toList
  | .pluginName => some (h.pluginName.getD defaultPluginName).toList
  | .sensorGeneration => some (h.sensorGeneration.getD defaultGeneration).toList
  | .sensorName => h.sensorName.map String.toList
  | .serialNumber => some h.serialNumber.toList
  | .systemId => some (Numeral.decimal h.systemId.toNat)

/-- The keys that are written, with their values, in order. -/
def lines (h : Header) (now : DateTime) : List (HeaderKey × List Char) :=
  HeaderKey.all.filterMap fun key => (h.value? now key).map (key, ·)

/-- One line, with its line feed. -/
def renderLine (key : HeaderKey) (value : List Char) : List Char :=
  '%' :: ' ' :: key.name.toList ++ ' ' :: value ++ ['\n']

/-- The line that ends a header, without its line feed. -/
def endLine : List Char := "% end".toList

/-- The written form of a header. -/
def render (h : Header) (now : DateTime) : List Char :=
  (h.lines now).flatMap (fun (key, value) => renderLine key value) ++ endLine ++ ['\n']

/-- The written form of a header, as a string. -/
def text (h : Header) (now : DateTime) : String := String.ofList (h.render now)

end EventCamera.Header
