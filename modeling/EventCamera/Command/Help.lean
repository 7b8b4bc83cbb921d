import EventCamera.Command.Grammar
import EventCamera.Text.Padded
/-!
# Descriptions of commands

The text that describes what a command is for and what it takes: a line on its use, and a table
each for its operands and its options.

## Main definitions

* `Command.table` — lines of two columns
* `Grammar.help` — the description of a command
-/

namespace EventCamera.Command

/-- Lines of two columns, each after two blanks; the first is as wide as its longest entry. -/
def table (rows : List (String × String)) : String :=
  let width := (rows.map fun (term, _) => term.length).foldl max 0
  String.join <| rows.map fun (term, about) =>
    "  " ++ Text.padded width term ++ "  " ++ about ++ "\n"

/-- A table under a heading, behind an empty line. -/
def listing (heading : String) (rows : List (String × String)) : String :=
  "\n" ++ heading ++ ":\n" ++ table rows

/-- How a value is named. -/
def placeholder (name : String) : String := "<" ++ name ++ ">"

variable {α : Type}

/-- How an option is given. -/
def Switch.usage (o : Switch α) : String :=
  let letter :=
    match o.short with
    | some c => "-" ++ String.singleton c ++ ", "
    | none => "    "
  let value :=
    match o.effect with
    | .value name _ => " " ++ placeholder name
    | _ => ""
  letter ++ "--" ++ o.long ++ value

/-- What an option is for, with the value if it is not given. -/
def Switch.description (o : Switch α) : String :=
  match o.usual with
  | none => o.about
  | some value =>
    let note := "[default: " ++ value ++ "]"
    if o.about = "" then note else o.about ++ " " ++ note

/-- The description of a command of `program`. -/
def Grammar.help (program : String) (g : Grammar α) : String :=
  let operands := " ".intercalate (g.operands.map fun o => placeholder o.name)
  g.about ++ "\n\nUsage: " ++ program ++ " " ++ g.name ++ " [OPTIONS] " ++ operands ++ "\n" ++
    listing "Arguments" (g.operands.map fun o => (placeholder o.name, o.about)) ++
    listing "Options" (g.switches.map fun o => (o.usage, o.description))

end EventCamera.Command
