import EventCamera.Text.Trim
/-!
# Payload formats

The encodings that the header of a recording can declare. Only EVT 3.0 can be read and written;
the others are known so that they are refused instead of being misread.

## Main definitions

* `PayloadFormat` — the known payload formats, with `PayloadFormat.name` and `PayloadFormat.version`
* `PayloadFormat.ofVersion?` — the format of an `evt` header line
* `PayloadFormat.parse` — the format of a name, or `UnknownFormat`
-/

namespace EventCamera

/-- A payload format. -/
inductive PayloadFormat where
  | evt3
  | evt2
  | evt21
deriving DecidableEq, Inhabited

/-- A name that no payload format has. -/
structure UnknownFormat where
  name : String
deriving DecidableEq

/-- The wording of the refusal of a format name. -/
def UnknownFormat.message (e : UnknownFormat) : String :=
  s!"Unknown format {e.name}. Supported formats are EVT3, EVT2.1, EVT2"

namespace PayloadFormat

/-- Name in a `format` header line. -/
def name : PayloadFormat → String
  | evt3 => "EVT3"
  | evt2 => "EVT2"
  | evt21 => "EVT2.1"

/-- Version in an `evt` header line. -/
def version : PayloadFormat → String
  | evt3 => "3.0"
  | evt2 => "2.0"
  | evt21 => "2.1"

/-- The format with the given version. -/
def ofVersion? (version : String) : Option PayloadFormat :=
  [evt3, evt21, evt2].find? fun f => f.version = version

/-- Payloads of this format can be read and written. -/
def isImplemented : PayloadFormat → Bool
  | evt3 => true
  | _ => false

/-- The format with the given name, blanks around it aside; EVT 3.0 and EVT 2.0 have two names. -/
def parse (text : String) : Except UnknownFormat PayloadFormat :=
  match String.ofList (Text.trim text.toList) with
  | "EVT3" | "EVT3.0" => .ok evt3
  | "EVT2" | "EVT2.0" => .ok evt2
  | "EVT2.1" => .ok evt21
  | other => .error ⟨other⟩

@[simp] theorem ofVersion?_version (f : PayloadFormat) : ofVersion? f.version = some f := by
  cases f <;> decide

@[simp] theorem isImplemented_iff {f : PayloadFormat} : f.isImplemented = true ↔ f = evt3 := by
  cases f <;> simp [isImplemented]

end PayloadFormat

end EventCamera
