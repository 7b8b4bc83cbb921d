import EventCamera.Event
import EventCamera.Text.Lower
import EventCamera.Text.Split
import EventCamera.Text.Trim
/-!
# Columns of a table

A table of events has one column for each field of an event, in any order.

## Main definitions

* `EventField` — the fields, with `EventField.name` and `EventField.ofName?`
* `FieldOrder` — an order of the columns
* `FieldOrder.parse` — reads an order from the names of its columns
-/

namespace EventCamera

/-- The fields of an event. -/
inductive EventField where
  | x
  | y
  | p
  | t
deriving DecidableEq, Inhabited

namespace EventField

/-- Name of a field in the heading of a table. -/
def name : EventField → String
  | x => "x"
  | y => "y"
  | p => "p"
  | t => "t"

/-- The field with a name, given in lower case; time and polarity have longer names, too. -/
def ofName? (name : String) : Option EventField :=
  match name with
  | "x" => some x
  | "y" => some y
  | "p" | "pol" | "polarity" => some p
  | "t" | "time" | "timestamp" => some t
  | _ => none

/-- The value of a field of an event. -/
def value (field : EventField) (e : Event) : Nat :=
  match field with
  | x => e.x.toNat
  | y => e.y.toNat
  | p => e.p.toNat
  | t => e.t.toNat

end EventField

/-- Why a text names no order of columns. -/
inductive FieldOrderError where
  | count
  /-- A part is no name of a field. -/
  | unknown (name : String)
  /-- A part names a field that an earlier one has named. -/
  | duplicate (name : String)
deriving DecidableEq

/-- The wording of a failure. -/
def FieldOrderError.message : FieldOrderError → String
  | count => "Format must have exactly 4 fields: t, x, y, p"
  | unknown name => "Unknown field: " ++ name ++ ". Use t, x, y, p"
  | duplicate name => "Duplicate field: " ++ name

/-- An order of the columns: every field has one. -/
structure FieldOrder where
  /-- The field of each column. -/
  columns : List EventField
  /-- No field has two columns. -/
  nodup : columns.Nodup := by decide
  /-- Each of the four fields has a column. -/
  length_eq : columns.length = 4 := by decide
deriving DecidableEq

namespace FieldOrder

open EventField

/-- The usual order. -/
def txyp : FieldOrder := { columns := [t, x, y, p] }

/-- The order with the time last. -/
def xypt : FieldOrder := { columns := [x, y, p, t] }

/-- The order with the polarity last and the time before it. -/
def xytp : FieldOrder := { columns := [x, y, t, p] }

/-- Reads the names of columns behind those in `used`. -/
def readColumns (used : List EventField) : List String → Except FieldOrderError (List EventField)
  | [] => .ok used
  | name :: names =>
    match ofName? name with
    | none => .error (.unknown name)
    | some field =>
      if field ∈ used then .error (.duplicate name) else readColumns (used ++ [field]) names

/-- Columns that are read without a failure are distinct, and there is one for each name. -/
theorem readColumns_ok {used columns : List EventField} {names : List String}
    (hu : used.Nodup) (h : readColumns used names = .ok columns) :
    columns.Nodup ∧ columns.length = used.length + names.length := by
  induction names generalizing used with
  | nil =>
    simp only [readColumns, Except.ok.injEq] at h
    subst h
    exact ⟨hu, rfl⟩
  | cons name names ih =>
    simp only [readColumns] at h
    split at h
    · simp at h
    · rename_i field _
      split at h
      · simp at h
      · rename_i hf
        -- The field is a new one, as it is read only where it has not been used.
        have hn : (used ++ [field]).Nodup := by
          rw [List.nodup_append]
          refine ⟨hu, List.nodup_cons.2 ⟨List.not_mem_nil, List.nodup_nil⟩, ?_⟩
          rintro a ha b hb rfl
          exact hf (by simpa [List.mem_singleton.1 hb] using ha)
        obtain ⟨hnodup, hlength⟩ := ih hn h
        refine ⟨hnodup, ?_⟩
        rw [hlength]
        simp only [List.length_append, List.length_cons, List.length_nil]
        omega

/-- Reads an order from the names of its columns with commas between them, letter case and blanks
around each aside. -/
def parse (text : String) : Except FieldOrderError FieldOrder :=
  let names := (Text.fields ',' text.toList).map fun part =>
    String.ofList (Text.lower (Text.trim part))
  if hn : names.length = 4 then
    match hc : readColumns [] names with
    | .error e => .error e
    | .ok columns =>
      have h := readColumns_ok List.nodup_nil hc
      .ok ⟨columns, h.1, by simpa [hn] using h.2⟩
  else .error .count

/-- The heading of a table. -/
def heading (order : FieldOrder) : String := ",".intercalate (order.columns.map name)

end FieldOrder

end EventCamera
