import EventCamera.Csv.Reader
import EventCamera.Recording.Reader
import EventCamera.Recording.Writer
/-!
# Failures of a task

A failure says what could not be done and why, from the task down to the first cause.

## Main definitions

* `ReadError.causes`, `WriteError.causes`, `TableError.causes` — an error and what it was caused by
* `Failure` — what could not be done, and its causes
* `Failure.render` — the text that reports a failure
-/

namespace EventCamera

/-- The wordings of an error and of what it was caused by. -/
def ReadError.causes (e : ReadError) : List String :=
  match e with
  | .io message => [e.message, message]
  | .config cause => [e.message, cause.message]
  | .notImplemented _ => [e.message]

/-- The wordings of an error and of what it was caused by. -/
def WriteError.causes (e : WriteError) : List String :=
  match e with
  | .io message => [e.message, message]
  | .config cause => [e.message, cause.message]
  | .notImplemented _ => [e.message]

/-- The wordings of an error and of what it was caused by. -/
def TableError.causes (e : TableError) : List String :=
  match e with
  | .io message => [e.message, message]
  | .fieldOrder _ | .record .. => [e.message]

/-- Why a task failed. -/
structure Failure where
  summary : String
  /-- Why, each cause before its own cause. -/
  causes : List String

namespace Failure

/-- A failure to do something with a file. -/
def onFile (verb path : String) (causes : List String) : Failure :=
  ⟨"Failed to " ++ verb ++ " " ++ Text.quote path, causes⟩

/-- A failure that has no wording but that of its first cause. -/
def bare : List String → Failure
  | [] => ⟨"", []⟩
  | summary :: causes => ⟨summary, causes⟩

/-- Causes, numbered from `n` on. -/
def numbered (n : Nat) : List String → List String
  | [] => []
  | cause :: causes => ("    " ++ toString n ++ ": " ++ cause) :: numbered (n + 1) causes

/-- The text that reports a failure: what could not be done and, behind an empty line, the causes,
which are numbered if there are several. -/
def render (f : Failure) : String :=
  let lines :=
    match f.causes with
    | [] => []
    | [cause] => ["", "Caused by:", "    " ++ cause]
    | causes => "" :: "Caused by:" :: numbered 0 causes
  String.join ((("Error: " ++ f.summary) :: lines).map fun line => line ++ "\n")

end Failure

end EventCamera
