import EventCamera.Command.Help
import EventCamera.Csv.FieldOrder
import EventCamera.PayloadFormat
import EventCamera.Window
/-!
# Invocations

What the arguments of the program ask for.

## Main definitions

* `DecodeArguments`, `EncodeArguments`, `GenerateArguments`, `Task` — what can be asked for
* `Command.decodeGrammar` and its like — how it is asked for
* `Invocation.parse` — what is asked for
-/

namespace EventCamera

/-- What decoding a recording takes. -/
structure DecodeArguments where
  input : String := ""
  /-- The table of events that is made. -/
  output : String := ""
  mode : ReadMode := .auto
  /-- The span of a window, in microseconds. -/
  deltaT : Option UInt64 := none
  /-- The number of events of a window. -/
  nEvents : Option UInt64 := none
  /-- The table of triggers that is made, if any. -/
  triggers : Option String := none
  order : FieldOrder := .txyp
  /-- There is no summary. -/
  quiet : Bool := false

/-- What encoding a table takes. -/
structure EncodeArguments where
  input : String := ""
  /-- The recording that is made. -/
  output : String := ""
  /-- Number of columns of the sensor, if not as the table says. -/
  width : Option UInt32 := none
  /-- Number of rows of the sensor, if not as the table says. -/
  height : Option UInt32 := none
  serial : String := "00000000"
  format : PayloadFormat := .evt3
  order : FieldOrder := .txyp

/-- What generating a recording takes. -/
structure GenerateArguments where
  /-- The recording that is made. -/
  output : String := ""
  count : Nat := 1000000
  width : UInt16 := 1280
  height : UInt16 := 720
  /-- The length of the recording, in microseconds. -/
  duration : UInt64 := 1000000
  seed : UInt64 := 0

/-- What can be asked for. -/
inductive Task where
  /-- To show the header of a recording. -/
  | info (input : String)
  /-- To make a table of a recording. -/
  | decode (arguments : DecodeArguments)
  /-- To make a recording of a table. -/
  | encode (arguments : EncodeArguments)
  /-- To make a recording of random events. -/
  | generate (arguments : GenerateArguments)

/-- The paths of the files that are read or written. -/
def Task.paths : Task → List String
  | info input => [input]
  | decode a => [a.input, a.output] ++ a.triggers.toList
  | encode a => [a.input, a.output]
  | generate a => [a.output]

/-- What is asked for. -/
inductive Invocation where
  /-- To do something, with more or less said about it. -/
  | run (verbose : Bool) (task : Task)
  /-- To show a text. -/
  | show (text : String)

namespace Command

/-- Name of the program. -/
def programName : String := "evtio"

/-- Version of the program. -/
def programVersion : String := "0.1.0"

/-- A path must not be empty. -/
def path? (value : String) : Option String := if value = "" then none else some value

/-- A number below `bound` that may have a sign. Its value must be one of 64 bits with a sign. -/
def signedBelow? (bound : Nat) (value : String) : Option Nat :=
  match value.toList with
  -- Numbers may have one sign, and the only one below zero that is taken is zero itself.
  | '-' :: '+' :: _ => none
  | '-' :: cs => (Numeral.parse 0x8000000000000000 cs).toOption.filter (· = 0)
  | cs => (Numeral.parse 0x7FFFFFFFFFFFFFFF cs).toOption.filter (· < bound)

/-- A number of 64 bits. -/
def long? (value : String) : Option UInt64 := (Numeral.parse64 value.toList).toOption

variable {α : Type}

/-- The option that asks for more to be said. -/
def verboseSwitch : Switch α where
  long := "verbose"
  short := some 'v'
  effect := .flag id
  about := "Log at debug level (overrides RUST_LOG)"

/-- The option that asks for the description of a command. -/
def helpSwitch : Switch α where
  long := "help"
  short := some 'h'
  effect := .halt .help
  about := "Print help"

/-- How the header of a recording is asked for. -/
def infoGrammar : Grammar String where
  name := "info"
  about := "Print the resolved header of a RAW file"
  operands := [{ name := "INPUT", set := fun v => (path? v).map fun p _ => p }]
  switches := [verboseSwitch, helpSwitch]

/-- How a table of a recording is asked for. -/
def decodeGrammar : Grammar DecodeArguments where
  name := "decode"
  about := "Decode a RAW file to CSV, window by window"
  operands :=
    [{ name := "INPUT"
       set := fun v => (path? v).map fun p a => { a with input := p }
       about := "Input .raw file path" },
     { name := "OUTPUT"
       set := fun v => (path? v).map fun p a => { a with output := p }
       about := "Output .csv file path" }]
  switches :=
    [{ long := "mode"
       short := some 'm'
       effect := .value "MODE" fun v =>
        (ReadMode.parse v).toOption.map fun m a => { a with mode := m }
       about := "Window mode: auto, delta_t, n_events, mixed or all"
       usual := some "auto" },
     verboseSwitch,
     { long := "delta-t"
       effect := .value "DELTA_T" fun v => (long? v).map fun t a => { a with deltaT := some t }
       about := "Window span in microseconds" },
     { long := "n-events"
       effect := .value "N_EVENTS" fun v => (long? v).map fun n a => { a with nEvents := some n }
       about := "Window size in events" },
     { long := "triggers"
       short := some 't'
       effect := .value "PATH" fun v => (path? v).map fun p a => { a with triggers := some p }
       about := "Output file for trigger events (optional)" },
     { long := "order"
       short := some 'o'
       effect := .value "ORDER" fun v =>
        (FieldOrder.parse v).toOption.map fun o a => { a with order := o }
       about := "Field order for CSV output, comma-separated names of t, x, y, p"
       usual := some "t,x,y,p" },
     { long := "quiet"
       short := some 'q'
       effect := .flag fun a => { a with quiet := true }
       about := "Suppress progress output" },
     helpSwitch]

/-- How a recording of a table is asked for. -/
def encodeGrammar : Grammar EncodeArguments where
  name := "encode"
  about := "Encode a CSV file into an EVT 3.0 RAW file"
  operands :=
    [{ name := "INPUT"
       set := fun v => (path? v).map fun p a => { a with input := p }
       about := "Input .csv file path" },
     { name := "OUTPUT"
       set := fun v => (path? v).map fun p a => { a with output := p }
       about := "Output .raw file path" }]
  switches :=
    [verboseSwitch,
     { long := "width"
       effect := .value "WIDTH" fun v =>
        (signedBelow? UInt32.size v).map fun n a => { a with width := some n.toUInt32 }
       about := "Sensor width; defaults to the CSV geometry comment, then 1280" },
     { long := "height"
       effect := .value "HEIGHT" fun v =>
        (signedBelow? UInt32.size v).map fun n a => { a with height := some n.toUInt32 }
       about := "Sensor height; defaults to the CSV geometry comment, then 720" },
     { long := "serial"
       effect := .value "SERIAL" fun v => some fun a => { a with serial := v }
       about := "Serial number written to the header"
       usual := some "00000000" },
     { long := "format"
       short := some 'f'
       effect := .value "FORMAT" fun v =>
        (PayloadFormat.parse v).toOption.map fun f a => { a with format := f }
       about := "Payload format"
       usual := some "EVT3" },
     { long := "order"
       short := some 'o'
       effect := .value "ORDER" fun v =>
        (FieldOrder.parse v).toOption.map fun o a => { a with order := o }
       about := "Field order of the CSV columns"
       usual := some "t,x,y,p" },
     helpSwitch]

/-- How a recording of random events is asked for. -/
def generateGrammar : Grammar GenerateArguments where
  name := "generate"
  about := "Write a RAW file of random events"
  operands :=
    [{ name := "OUTPUT"
       set := fun v => (path? v).map fun p a => { a with output := p }
       about := "Output .raw file path" }]
  switches :=
    [{ long := "count"
       short := some 'n'
       effect := .value "COUNT" fun v => (long? v).map fun n a => { a with count := n.toNat }
       about := "Number of events"
       usual := some "1000000" },
     verboseSwitch,
     { long := "width"
       effect := .value "WIDTH" fun v =>
        (signedBelow? UInt16.size v).map fun n a => { a with width := n.toUInt16 }
       usual := some "1280" },
     { long := "height"
       effect := .value "HEIGHT" fun v =>
        (signedBelow? UInt16.size v).map fun n a => { a with height := n.toUInt16 }
       usual := some "720" },
     { long := "duration"
       short := some 'd'
       effect := .value "DURATION" fun v => (long? v).map fun t a => { a with duration := t }
       about := "Recording length in microseconds"
       usual := some "1000000" },
     { long := "seed"
       short := some 's'
       effect := .value "SEED" fun v => (long? v).map fun n a => { a with seed := n }
       about := "Random seed"
       usual := some "0" },
     helpSwitch]

/-- What can be given before the name of a command. -/
def commonSwitches : List (Switch Unit) :=
  [verboseSwitch, helpSwitch,
    { long := "version"
      short := some 'V'
      effect := .halt .version
      about := "Print version" }]

/-- The names of the commands, and what they are for. -/
def commandList : List (String × String) :=
  [(infoGrammar.name, infoGrammar.about), (decodeGrammar.name, decodeGrammar.about),
    (encodeGrammar.name, encodeGrammar.about), (generateGrammar.name, generateGrammar.about),
    ("help", "Print this message or the help of the given subcommand(s)")]

/-- The description of the program. -/
def programHelp : String :=
  "CLI tool for inspecting, decoding and encoding EVT 3.0 RAW files\n\nUsage: " ++ programName ++
    " [OPTIONS] <COMMAND>\n" ++ listing "Commands" commandList ++
    listing "Options" (commonSwitches.map fun o => (o.usage, o.description))

/-- The description of the command that shows descriptions. -/
def helpHelp : String :=
  "Print this message or the help of the given subcommand(s)\n\nUsage: " ++ programName ++
    " help [COMMAND]...\n" ++
    listing "Arguments" [("[COMMAND]...", "Print help for the subcommand(s)")]

/-- The description that is asked for by the name of a command, or by none. -/
def helpOn : List String → Option String
  | [] => some programHelp
  | ["info"] => some (infoGrammar.help programName)
  | ["decode"] => some (decodeGrammar.help programName)
  | ["encode"] => some (encodeGrammar.help programName)
  | ["generate"] => some (generateGrammar.help programName)
  | ["help"] => some helpHelp
  | _ => none

end Command

namespace Invocation

open Command

/-- Takes the arguments behind the name of a command. -/
def ofGrammar {α : Type} (g : Grammar α) (start : α) (task : α → Task) (verbose : Bool)
    (args : List String) : Option Invocation :=
  match g.scan start args with
  | .ok s => some (.run (verbose || s.given.contains "verbose") (task s.settings))
  | .error .help => some (.show (g.help programName))
  | .error _ => none

/-- Takes the name of a command and the arguments behind it. -/
def ofCommand (verbose : Bool) (name : String) (args : List String) : Option Invocation :=
  match name with
  | "info" => ofGrammar infoGrammar "" .info verbose args
  | "decode" => ofGrammar decodeGrammar {} .decode verbose args
  | "encode" => ofGrammar encodeGrammar {} .encode verbose args
  | "generate" => ofGrammar generateGrammar {} .generate verbose args
  | "help" => (helpOn args).map .show
  | _ => none

/-- Takes the arguments that are left. The first one that is not an option names the command. -/
def parseFrom (s : Scan Unit) : List String → Option Invocation
  | [] => none
  | arg :: args =>
    match s.expecting, isWord arg with
    | .anything, true => ofCommand (s.given.contains "verbose") arg args
    | _, _ =>
      match s.step commonSwitches arg with
      | .error .help => some (.show programHelp)
      | .error .version => some (.show (programName ++ " " ++ programVersion ++ "\n"))
      | .error .misuse => none
      | .ok s => parseFrom s args

/-- What the arguments of the program ask for, if it can be done. -/
def parse (args : List String) : Option Invocation :=
  parseFrom { settings := (), operands := [] } args

end Invocation

end EventCamera
