import EventCamera.Notice
import EventCamera.Text.AlphanumericTable
import EventCamera.Text.Split
/-!
# The log

What the program says on its way, and how much of it is shown. A filter is a list of directives;
of those for the part of the program that says something, the one that names it most closely
decides.

## Main definitions

* `LogLevel` — how important an entry is
* `LogEntry` — what is said, and by which part of the program; `LogEntry.shownText` is how
* `LogDirective` — a demand on entries and a level, with `LogDirective.parse?`
* `LogFilter` — what is shown, with `LogFilter.parse?` and `LogFilter.ofSetting`
* `LogFilter.shows` — whether an entry is shown
-/

namespace EventCamera

/-- How important an entry of the log is, or how unimportant it may be. -/
inductive LogLevel where
  | off
  | error
  | warn
  | info
  | debug
  | trace
deriving DecidableEq

namespace LogLevel

/-- Every level, the most important entries first. -/
def every : List LogLevel := [off, error, warn, info, debug, trace]

/-- Name of a level. -/
def name : LogLevel → String
  | off => "off"
  | error => "error"
  | warn => "warn"
  | info => "info"
  | debug => "debug"
  | trace => "trace"

/-- Place of a level among all levels. -/
def rank (level : LogLevel) : Nat := every.idxOf level

/-- The level with a rank, or with a name, the case of letters aside. -/
def parse? (text : List Char) : Option LogLevel :=
  match Numeral.parse64 text with
  | .ok rank => every[rank.toNat]?
  | .error _ => every.find? fun level => level.name.toList = text.map Char.toLower

end LogLevel

/-- The name by which a filter selects a part of the program. -/
def Origin.target : Origin → String
  | .decoding => "evtio_core::decoder"
  | .encoding => "evtio_core::encoder"
  | .header => "evtio_core::header"
  | .recording => "evtio_core::writer"
  | .command => "evtio"

/-- What is said on the way. -/
structure LogEntry where
  level : LogLevel
  /-- The part of the program that says it. -/
  origin : Origin
  text : String

namespace LogEntry

/-- The entry of a notice. -/
def ofNotice (n : Notice) : LogEntry := ⟨.warn, n.origin, n.message⟩

/-- An entry on what the command line does. -/
def progress (text : String) : LogEntry := ⟨.info, .command, text⟩

/-- How a character is shown. Those that a terminal may take for a command are written by their
code points. -/
def shownChar (c : Char) : List Char :=
  let n := c.toNat
  if n = 0x07 || n = 0x08 || n = 0x0C || n = 0x1B || n = 0x7F then
    ['\\', 'x', Nat.digitChar (n / 16), Nat.digitChar (n % 16)]
  else if 0x80 ≤ n && n ≤ 0x9F then ['\\', 'u', '\x7b'] ++ Text.hex n ++ ['\x7d']
  else [c]

/-- How the text of an entry is shown. -/
def shownText (entry : LogEntry) : String :=
  String.ofList (entry.text.toList.flatMap shownChar)

end LogEntry

/-- A demand for a field of an entry. -/
structure FieldDemand where
  name : List Char
  /-- The value that is asked for, if any. -/
  value : Option (List Char) := none
deriving DecidableEq

/-- Reads the demand for a field: its name, with an equals sign and a value behind it or not. -/
def FieldDemand.of (text : List Char) : FieldDemand :=
  match Text.cut '=' text with
  | none => { name := text }
  | some (name, value) => { name, value := some (value.takeWhile (· != '=')) }

/-- A directive of a filter. -/
structure LogDirective where
  /-- The parts of the program whose names start with it are meant. -/
  target : List Char := []
  /-- The span that entries must be made in. -/
  span : Option (List Char) := none
  /-- The field that entries must have. -/
  field : Option FieldDemand := none
  /-- The least important entries that are shown. -/
  level : LogLevel := .trace

namespace LogDirective

/-- A character that the name of a part of the program may start with. -/
def startsTarget (c : Char) : Bool :=
  c = '-' || c = ':' || c = '_' || c.isAlphanum ||
    (0x80 ≤ c.toNat && Text.inRanges Text.alphanumericRanges c.toNat)

/-- A level for all parts of the program, or the name of some. -/
def ofWord (word : List Char) : LogDirective :=
  match LogLevel.parse? word with
  | some level => { level }
  | none => { target := word }

/-- Takes the level behind the equals sign, all entries being meant if it is left out. -/
def takeLevel (d : LogDirective) (text : List Char) : Option LogDirective :=
  if text = [] then some d else (LogLevel.parse? text).map fun level => { d with level }

/-- The characters of a directive, each with the one that is taken in its place when a part is cut
out. -/
abbrev Marked := List (Char × Char)

/-- The part that marked characters make up. -/
def cutOut (chars : Marked) : List Char := chars.map (·.2)

/-- Takes what follows a closing bracket. -/
def takeRest (d : LogDirective) (excess : List Char) : Marked → Option LogDirective
  | [] => some d
  | ('=', _) :: chars => d.takeLevel (cutOut chars ++ excess)
  | _ => none

/-- Takes what stands between brackets, a span, a field in braces, or both, and what follows. -/
def takeBracket (d : LogDirective) (excess : List Char) (chars : Marked) : Option LogDirective :=
  let (span, chars) := chars.span fun (mark, _) => mark != ']' && mark != '\x7b'
  match chars with
  | [] => none
  -- A span alone.
  | (']', _) :: chars => { d with span := some (cutOut span) }.takeRest excess chars
  -- A brace: the span ends there, and may be left out.
  | _ :: chars =>
    let (field, chars) := chars.span fun (mark, _) => mark != '\x7d'
    match chars with
    | _ :: (']', _) :: chars =>
      if field.isEmpty then none
      else
        { d with
          span := if span.isEmpty then none else some (cutOut span)
          field := some (FieldDemand.of (cutOut field)) }.takeRest excess chars
    | _ => none

/-- Reads a directive. Blanks around it are passed over while its marks are looked for, but its
parts are cut out of the text that still has them: they are shifted by the blanks in front. -/
def parse? (text : List Char) : Option LogDirective :=
  let marks := Text.trim text
  let chars : Marked := marks.zip text
  let excess := text.drop marks.length
  match chars with
  | [] => none
  | (mark, _) :: rest =>
    if mark = '[' then takeBracket {} excess rest
    else if startsTarget mark then
      let (word, chars) := chars.span fun (mark, _) => mark != '=' && mark != '['
      match chars with
      -- A word alone may be a level as well as a name.
      | [] => some (ofWord (cutOut word ++ excess))
      | ('=', _) :: chars =>
        { target := cutOut word : LogDirective }.takeLevel (cutOut chars ++ excess)
      | _ :: chars => { target := cutOut word : LogDirective }.takeBracket excess chars
    else none

/-- The directive is for the entries of a part of the program. They are made in no span, and a
message is all that they consist of; a demand for its value is never met. -/
def isFor (d : LogDirective) (origin : Origin) : Bool :=
  d.span.isNone && (d.field.all fun field => field = { name := "message".toList }) &&
    d.target.isPrefixOf origin.target.toList

/-- How closely a directive names what it is for: by the length of the name above all. -/
def weight (d : LogDirective) : Nat := 2 * d.target.length + if d.field.isSome then 1 else 0

/-- The closer of two directives, the second if neither is. -/
def closer (a b : LogDirective) : LogDirective :=
  if b.weight < a.weight then a else b

end LogDirective

/-- What is shown of the log. -/
structure LogFilter where
  /-- The directives; of two for the same parts the later one counts. -/
  directives : List LogDirective

namespace LogFilter

/-- The filter that shows entries of all parts from a level on. -/
def ofLevel (level : LogLevel) : LogFilter := ⟨[{ level }]⟩

/-- Reads directives with commas between them. Without any, only failures are shown. -/
def parse? (text : String) : Option LogFilter :=
  let parts := (Text.fields ',' text.toList).filter (· ≠ [])
  -- One directive that cannot be read spoils the others.
  match parts.mapM LogDirective.parse? with
  | none => none
  | some [] => some (ofLevel .error)
  | some directives => some ⟨directives⟩

/-- The filter of a setting, unless everything is asked for. What is being done is shown if there
is no setting, or none that can be read. -/
def ofSetting (verbose : Bool) (setting : Option String) : LogFilter :=
  if verbose then ofLevel .debug else (setting.bind parse?).getD (ofLevel .info)

/-- The level from which on entries of a part of the program are shown. -/
def level (f : LogFilter) (origin : Origin) : LogLevel :=
  ((f.directives.filter (·.isFor origin)).foldl LogDirective.closer { level := .off }).level

/-- The entry is shown. -/
def shows (f : LogFilter) (entry : LogEntry) : Bool :=
  entry.level.rank ≤ (f.level entry.origin).rank

end LogFilter

end EventCamera
