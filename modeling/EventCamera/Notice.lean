import EventCamera.Calendar
import EventCamera.Evt3.Word
import EventCamera.PayloadFormat
import EventCamera.Geometry
import EventCamera.Text.Quoted
/-!
# Notices

What reading and writing a recording reports without giving up: data that was dropped, values
that were replaced, and input that will not read back as it was given.

## Main definitions

* `Notice` — the occasions
* `Notice.message` — their wording
* `Notice.origin` — the part of the program that reports them
-/

namespace EventCamera

/-- Why a header value is not taken. -/
inductive HeaderValueError where
  /-- It is no date. -/
  | date (cause : DateError)
  /-- It is no number. -/
  | number (cause : NumeralError)
deriving DecidableEq

/-- The wording of the refusal of a header value. -/
def HeaderValueError.message : HeaderValueError → String
  | .date cause => cause.message
  | .number cause => cause.message

/-- An occasion that is reported while the work goes on. -/
inductive Notice where
  /-- A vector group holds the word `found` where a continuation is due. -/
  | malformedGroup (offset : Nat) (found : Word)
  /-- The stream ends after `length` words of a vector group. -/
  | groupCut (length : Nat)
  | oddByteDropped
  /-- An event lies so far ahead that many words are spent on the time between. -/
  | farAhead (t : UInt64) (periods : Nat)
  /-- The value of a header line is not taken. -/
  | headerValue (line : String) (cause : HeaderValueError)
  /-- The key of a header line is not known. -/
  | unknownKey (key line : String)
  /-- A dimension in the `format` line is no number. -/
  | formatDimension (axis : Axis) (value : String)
  | unknownFormat (cause : UnknownFormat)
  /-- The `geometry` line overrules the dimensions of the `format` line. -/
  | geometryMismatch (text : String) (declared used : Geometry)
  | unreadableGeometry (text : String)
  /-- The `evt` line overrules the name of the `format` line. -/
  | versionMismatch (version : String) (declared used : PayloadFormat)
  | unknownVersion (version : String)
  /-- No header line gives the payload format. -/
  | missingFormat
  /-- A dimension is beyond what coordinates can address. -/
  | impossibleDimension (axis : Axis) (value : UInt32)
  /-- No header line gives a dimension. -/
  | missingDimension (axis : Axis)
  | coordinatesCut
  | polaritiesCut
  /-- Some events are earlier than the one before them. -/
  | lateEvents (count : Nat)
  /-- The number of vector groups that a whole recording lost. -/
  | groupsDropped (count : Nat)
deriving DecidableEq

/-- The parts of the program that report something. -/
inductive Origin where
  | decoding
  | encoding
  | header
  | recording
  | command
deriving DecidableEq

namespace Notice

/-- The word of a vector group that is due at an offset from its base. -/
def dueWord (offset : Nat) : String := if offset = 3 then "VECT_8" else "VECT_12"

/-- A word as `0x` and four hexadecimal digits. -/
def hexWord (w : Word) : String :=
  let digits := Text.hex w.toNat
  "0x" ++ String.ofList (List.replicate (4 - digits.length) '0' ++ digits)

/-- The written form of a size. -/
def sizeText (g : Geometry) : String := String.ofList g.render

/-- The wording of a notice. -/
def message : Notice → String
  | malformedGroup offset found =>
    "Malformed vector group: expected " ++ dueWord offset ++ " at offset " ++ toString offset ++
      ", got " ++ hexWord found ++ "; skipping group"
  | groupCut length =>
    "Vector group cut after " ++ toString length ++ " of 4 words by end of stream; skipping group"
  | oddByteDropped => "Dropping trailing odd byte at end of stream"
  | farAhead t periods =>
    "Timestamp " ++ toString t.toNat ++ " is " ++ toString periods ++
      " epochs ahead of the stream; writing " ++ toString (periods * 4) ++
      " bytes of TIME_HIGH filler"
  | headerValue line cause =>
    "Error parsing header line " ++ Text.quote line ++ ": " ++ cause.message
  | unknownKey key line => "Unknown key " ++ Text.quote key ++ " in header line " ++ Text.quote line
  | formatDimension axis value =>
    "Invalid " ++ axis.name ++ " " ++ Text.quote value ++ " in header format line"
  | unknownFormat cause => cause.message
  | geometryMismatch text declared used =>
    "Geometry " ++ text ++ " does not match format dimensions " ++ sizeText declared ++
      ", using " ++ sizeText used
  | unreadableGeometry text => "Invalid geometry " ++ Text.quote text ++ " in header"
  | versionMismatch version declared used =>
    "evt " ++ version ++ " does not match format " ++ declared.name ++ ", using " ++ used.name
  | unknownVersion version =>
    "Unknown evt version " ++ Text.quote version ++ ", supported versions are 3.0, 2.1, 2.0"
  | missingFormat => "Format not found in header, assuming EVT3"
  | impossibleDimension axis value =>
    "Invalid " ++ axis.name ++ " " ++ toString value.toNat ++ " in header, setting to 2048"
  | missingDimension axis => "No valid " ++ axis.name ++ " found in header, setting to 2048"
  | coordinatesCut => "Coordinates above 2047 are truncated to 11 bits"
  | polaritiesCut => "Polarities above 1 are truncated to their lowest bit"
  | lateEvents count =>
    toString count ++ " events are out of timestamp order and will not decode to the same time"
  | groupsDropped count => "Dropped " ++ toString count ++ " malformed vector groups"

/-- The part of the program that reports a notice. -/
def origin : Notice → Origin
  | malformedGroup .. | groupCut .. | oddByteDropped => .decoding
  | farAhead .. => .encoding
  | headerValue .. | unknownKey .. | formatDimension .. | unknownFormat .. | geometryMismatch ..
  | unreadableGeometry .. | versionMismatch .. | unknownVersion .. | missingFormat
  | impossibleDimension .. | missingDimension .. => .header
  | coordinatesCut | polaritiesCut | lateEvents .. => .recording
  | groupsDropped .. => .command

end Notice

end EventCamera
