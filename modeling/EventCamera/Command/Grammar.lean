import EventCamera.Text.Split
/-!
# Argument grammars

What the arguments of a command may look like: options, which start with a hyphen and may take a
value, and operands, which stand at fixed places. Arguments are taken one by one, from left to
right, so that the first one that cannot be taken decides the outcome.

## Main definitions

* `Effect`, `Switch`, `Operand`, `Grammar` — what a command takes
* `Halt` — why the taking of arguments ends early
* `Scan` — how far it has come, with `Scan.step` for one argument
* `Grammar.scan` — takes all arguments
-/

namespace EventCamera.Command

/-- Why the taking of arguments ends early. -/
inductive Halt where
  | misuse
  | help
  | version
deriving DecidableEq

/-- What giving an option does. -/
inductive Effect (α : Type) where
  /-- It changes the settings. -/
  | flag (set : α → α)
  /-- It changes the settings as a value says, which is described by a name and may be refused. -/
  | value (name : String) (set : String → Option (α → α))
  /-- It ends the taking of arguments. -/
  | halt (reason : Halt)

/-- An option. -/
structure Switch (α : Type) where
  long : String
  /-- The letter behind one hyphen. -/
  short : Option Char := none
  effect : Effect α
  about : String := ""
  /-- The value if it is not given. -/
  usual : Option String := none

/-- An argument at a fixed place. -/
structure Operand (α : Type) where
  name : String
  /-- What it does to the settings; it may be refused. -/
  set : String → Option (α → α)
  about : String := ""

/-- What a command takes. -/
structure Grammar (α : Type) where
  name : String
  about : String
  switches : List (Switch α)
  operands : List (Operand α)

variable {α : Type}

/-- What is due next. -/
inductive Expecting (α : Type) where
  | anything
  /-- The value of an option. -/
  | value (switch : Switch α) (set : String → Option (α → α))
  | operands

/-- How far the taking of arguments has come. -/
structure Scan (α : Type) where
  settings : α
  operands : List (Operand α)
  /-- The long names of the options that have been given. -/
  given : List String := []
  /-- What is due next. -/
  expecting : Expecting α := .anything

/-- An argument that cannot be an option. -/
def isWord (arg : String) : Bool :=
  match arg.toList with
  | '-' :: _ :: _ => false
  | _ => true

namespace Scan

/-- Changes the settings for an option, which may be given only once. -/
def give (s : Scan α) (o : Switch α) (set : Option (α → α)) : Except Halt (Scan α) :=
  if o.long ∈ s.given then .error .misuse
  else
    match set with
    | none => .error .misuse
    | some set =>
      .ok { s with settings := set s.settings, given := o.long :: s.given, expecting := .anything }

/-- Takes an operand. -/
def operand (s : Scan α) (arg : String) : Except Halt (Scan α) :=
  match s.operands with
  | [] => .error .misuse
  | o :: operands =>
    match o.set arg with
    | none => .error .misuse
    | some set => .ok { s with settings := set s.settings, operands }

/-- Takes an option that is given by its long name, and by its value if an equals sign follows. -/
def long (switches : List (Switch α)) (s : Scan α) (text : List Char) : Except Halt (Scan α) :=
  let (name, attached) :=
    match Text.cut '=' text with
    | some (name, value) => (name, some (String.ofList value))
    | none => (text, none)
  match switches.find? fun o => o.long.toList = name with
  | none => .error .misuse
  | some o =>
    match o.effect, attached with
    -- Only an option with a value may have one attached.
    | .halt reason, none => .error reason
    | .flag set, none => s.give o (some set)
    | .value _ set, none => .ok { s with expecting := .value o set }
    | .value _ set, some value => s.give o (set value)
    | _, some _ => .error .misuse

/-- Takes options that are given by their letters. The first one that takes a value takes what
follows its letter, an equals sign between them aside. -/
def cluster (switches : List (Switch α)) (s : Scan α) : List Char → Except Halt (Scan α)
  | [] => .ok s
  | c :: cs =>
    match switches.find? fun o => o.short = some c with
    | none => .error .misuse
    | some o =>
      match o.effect with
      | .halt reason => .error reason
      | .flag set =>
        match s.give o (some set) with
        | .error reason => .error reason
        | .ok s => cluster switches s cs
      | .value _ set =>
        match cs with
        | [] => .ok { s with expecting := .value o set }
        | '=' :: value => s.give o (set (String.ofList value))
        | value => s.give o (set (String.ofList value))

/-- Takes an argument. -/
def step (switches : List (Switch α)) (s : Scan α) (arg : String) : Except Halt (Scan α) :=
  match s.expecting with
  | .operands => s.operand arg
  | .value o set => if isWord arg then s.give o (set arg) else .error .misuse
  | .anything =>
    match arg.toList with
    -- Two hyphens alone: from here on there are no options.
    | ['-', '-'] => .ok { s with expecting := .operands }
    | '-' :: '-' :: text => s.long switches text
    | '-' :: c :: cs => s.cluster switches (c :: cs)
    | _ => s.operand arg

/-- Nothing is missing. -/
def finish (s : Scan α) : Except Halt (Scan α) :=
  match s.expecting, s.operands with
  | .value .., _ | _, _ :: _ => .error .misuse
  | _, [] => .ok s

end Scan

/-- Takes all arguments of a command, starting with the given settings. -/
def Grammar.scan (g : Grammar α) (settings : α) (args : List String) : Except Halt (Scan α) :=
  match args.foldlM (Scan.step g.switches) { settings, operands := g.operands } with
  | .error reason => .error reason
  | .ok s => s.finish

end EventCamera.Command
