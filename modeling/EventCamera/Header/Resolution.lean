import EventCamera.Header.Basic
import EventCamera.Notice
import EventCamera.Text.Split
/-!
# Resolving a header

The size of the sensor and the payload format may be given by several lines, in part, or not at
all. A `geometry` line overrules the dimensions of the `format` line, and the name of a known
sensor fills in for a size that is not complete; an `evt` line overrules the name in the `format`
line. Every conflict and every value that is not taken is reported.

## Main definitions

* `Declared` — dimensions and format as far as lines give them
* `Declared.ofFormatLine`, `Declared.overruleSize`, `Declared.overruleFormat`,
  `Declared.completeSize` — what the lines contribute, in this order
* `Header.resolve` — the size and the format that a header comes to
-/

namespace EventCamera

/-- Dimensions and format, as far as header lines give them. -/
structure Declared where
  width : Option UInt32 := none
  height : Option UInt32 := none
  format : Option PayloadFormat := none
deriving DecidableEq

namespace Declared

/-- Reads a dimension of the `format` line. -/
def dimension (axis : Axis) (value : List Char) : Option UInt32 × List Notice :=
  match Numeral.parse32 (Text.trim value) with
  | .ok n => (some n, [])
  | .error _ => (none, [.formatDimension axis (String.ofList value)])

/-- Takes one part of the `format` line, blanks around it removed. Later parts overrule earlier
ones, also with a dimension that is no number, but not with an unknown format. -/
def addPart (d : Declared) (part : List Char) : Declared × List Notice :=
  match Text.after "height=".toList part with
  | some value =>
    let (height, notices) := dimension .height value
    ({ d with height }, notices)
  | none =>
    match Text.after "width=".toList part with
    | some value =>
      let (width, notices) := dimension .width value
      ({ d with width }, notices)
    | none =>
      if part.isEmpty then (d, [])
      else
        match PayloadFormat.parse (String.ofList part) with
        | .ok format => ({ d with format := some format }, [])
        | .error e => (d, [.unknownFormat e])

/-- What the `format` line gives. -/
def ofFormatLine (line : List Char) : Declared × List Notice :=
  (Text.fields ';' line).foldl
    (fun (d, notices) part =>
      let (d, more) := d.addPart (Text.trim part)
      (d, notices ++ more))
    ({}, [])

/-- Takes the `geometry` line. -/
def overruleSize (d : Declared) (line : String) : Declared × List Notice :=
  match Geometry.parse line.toList with
  | none => (d, [.unreadableGeometry line])
  | some g =>
    let notices :=
      match d.width, d.height with
      -- A size that the `format` line gives in part cannot be told to differ.
      | some w, some h =>
        if (⟨w, h⟩ : Geometry) = g then [] else [Notice.geometryMismatch line ⟨w, h⟩ g]
      | _, _ => []
    ({ d with width := some g.width, height := some g.height }, notices)

/-- Takes the `evt` line. -/
def overruleFormat (d : Declared) (line : String) : Declared × List Notice :=
  match PayloadFormat.ofVersion? line with
  | none => (d, [.unknownVersion line])
  | some format =>
    let notices :=
      match d.format with
      | some declared => if declared = format then [] else [.versionMismatch line declared format]
      | none => []
    ({ d with format := some format }, notices)

/-- Takes the size of a known sensor if a dimension is missing. -/
def completeSize (d : Declared) (sensorName : Option String) : Declared :=
  if d.width.isSome && d.height.isSome then d
  else
    match sensorName.bind fun name => Geometry.ofSensor? name.toList with
    | some g => { d with width := some g.width, height := some g.height }
    | none => d

/-- The format, EVT 3.0 if there is none. -/
def resolveFormat (d : Declared) : PayloadFormat × List Notice :=
  match d.format with
  | some format => (format, [])
  | none => (.evt3, [.missingFormat])

/-- A dimension, the greatest possible one if there is none or if it is impossible. -/
def resolveDimension (axis : Axis) : Option UInt32 → UInt32 × List Notice
  | some n =>
    if Geometry.dimensionOk n then (n, [])
    else (Geometry.maxDimension, [.impossibleDimension axis n])
  | none => (Geometry.maxDimension, [.missingDimension axis])

theorem dimensionOk_resolveDimension (axis : Axis) (n : Option UInt32) :
    Geometry.dimensionOk (resolveDimension axis n).1 = true := by
  have hmax : Geometry.dimensionOk Geometry.maxDimension = true := by decide
  cases n with
  | none => exact hmax
  | some n =>
    simp only [resolveDimension]
    split
    · assumption
    · exact hmax

end Declared

/-- Applies a step to what it needs, if that is there. -/
def Declared.withLine {α : Type} (line : Option α) (step : Declared → α → Declared × List Notice)
    (d : Declared) : Declared × List Notice :=
  match line with
  | some line => step d line
  | none => (d, [])

/-- The size and the format that a header comes to, and the reports on its lines. -/
def Header.resolve (h : Header) : Header × List Notice :=
  -- The order of these steps is that of the reports, and later lines overrule earlier ones.
  let (d, n₁) := Declared.withLine h.format (fun _ line => Declared.ofFormatLine line.toList) {}
  let (d, n₂) := Declared.withLine h.geometry Declared.overruleSize d
  let (d, n₃) := Declared.withLine h.evt Declared.overruleFormat d
  let (format, n₄) := d.resolveFormat
  let d := d.completeSize h.sensorName
  let (width, n₅) := Declared.resolveDimension .width d.width
  let (height, n₆) := Declared.resolveDimension .height d.height
  ({ h with size := ⟨width, height⟩, payloadFormat := format }, n₁ ++ n₂ ++ n₃ ++ n₄ ++ n₅ ++ n₆)

/-- Every pixel of a resolved header can be addressed. -/
theorem Header.isAddressable_resolve (h : Header) : h.resolve.1.size.isAddressable = true := by
  simp [Header.resolve, Geometry.isAddressable, Declared.dimensionOk_resolveDimension]

end EventCamera
