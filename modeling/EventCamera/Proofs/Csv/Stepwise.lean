import EventCamera.Csv.Reader
import Mathlib.Data.List.Basic

/-!
# Reading tables line by line

Reading some events of a table comes to taking its lines one by one. What is made of a line depends
on its text alone; the reader itself only goes behind the line, counts it, and keeps the size that a
comment gives. Calls for events follow one another, and each goes on where the one before it has
left the reader, also where that one has failed.

## Main definitions

* `Csv.isRecord`, `Csv.eventOn?` — the lines that are records, and the events on them
* `TableReader.Taken`, `TableReader.take` — what the next line comes to
* `TableReader.afterCalls`, `TableReader.results` — what calls for events leave behind and return

## Main results

* `TableReader.readInto_eq` — reading events takes lines until it has enough
-/

namespace EventCamera

namespace Csv

/-! ### Lines -/

/-- A line on which something stands that begins neither a comment nor a heading. -/
def isRecord (line : List Char) : Bool :=
  match Text.trim line with
  | [] => false
  | c :: _ => c != '%' && !isLetter c

/-- The event on a line, if the line is the record of one. -/
def eventOn? (order : FieldOrder) (line : List Char) : Option Event :=
  if isRecord line then (parseRecord order (Text.trim line)).toOption else none

/-- The events on some lines. -/
def eventsOn (order : FieldOrder) (lines : List (List Char)) : List Event :=
  lines.filterMap (eventOn? order)

/-- If a line is a record, an event can be read from it. -/
def IsSound (order : FieldOrder) (line : List Char) : Prop :=
  isRecord line = true → ∃ e, parseRecord order (Text.trim line) = .ok e

instance (order : FieldOrder) (line : List Char) : Decidable (IsSound order line) :=
  decidable_of_iff
    (isRecord line = true → (parseRecord order (Text.trim line)).toOption.isSome = true) <| by
      rw [IsSound]
      cases parseRecord order (Text.trim line) <;> simp [Except.toOption]

/-- The size of the sensor that is known behind a line, if `size` is in front of it. -/
def sizeBehind (size : Option Geometry) (line : List Char) : Option Geometry :=
  match TableLine.of line with
  | .geometry size' => size'
  | _ => size

variable {order : FieldOrder} {line : List Char} {lines more : List (List Char)}

theorem tableLine_eq_record_iff {text : List Char} :
    TableLine.of line = .record text ↔ isRecord line = true ∧ text = Text.trim line := by
  rw [TableLine.of, isRecord]
  cases Text.trim line with
  | nil => simp
  | cons c cs =>
    dsimp only
    split
    · rename_i hpercent
      subst hpercent
      split <;> simp
    · rename_i hpercent
      cases isLetter c with
      | true => simp
      | false => simpa [hpercent] using eq_comm

theorem isRecord_eq_false (h : ∀ text, TableLine.of line ≠ .record text) :
    isRecord line = false := by
  rw [← Bool.not_eq_true]
  intro hrecord
  exact h _ (tableLine_eq_record_iff.2 ⟨hrecord, rfl⟩)

theorem eventOn?_of_passed (h : isRecord line = false) : eventOn? order line = none := by
  rw [eventOn?, h]
  rfl

theorem eventOn?_of_event {e : Event} (hrecord : isRecord line = true)
    (hparse : parseRecord order (Text.trim line) = .ok e) : eventOn? order line = some e := by
  rw [eventOn?, if_pos hrecord, hparse]
  rfl

@[simp] theorem eventsOn_nil : eventsOn order [] = [] := rfl

theorem eventsOn_append :
    eventsOn order (lines ++ more) = eventsOn order lines ++ eventsOn order more :=
  List.filterMap_append

theorem eventsOn_cons :
    eventsOn order (line :: lines) = (eventOn? order line).toList ++ eventsOn order lines := by
  rw [eventsOn, List.filterMap_cons]
  cases eventOn? order line <;> rfl

/-- If the first `n` events are on some lines, the others are on the rest. -/
theorem eventsOn_eq_drop {n : Nat}
    (h : eventsOn order lines = (eventsOn order (lines ++ more)).take n) :
    eventsOn order more = (eventsOn order (lines ++ more)).drop n := by
  have hall : eventsOn order lines ++ eventsOn order more =
      eventsOn order lines ++ (eventsOn order (lines ++ more)).drop n := by
    conv => rhs; rw [h, List.take_append_drop]
    exact eventsOn_append.symm
  exact List.append_cancel_left hall

end Csv

namespace TableReader

/-! ### One line -/

/-- What the next line comes to. -/
inductive Taken where
  /-- There is none. -/
  | ended
  /-- It cannot be read, or no event can be read from it. -/
  | refused (e : TableError)
  /-- It is no record. -/
  | passed
  | event (e : Event)

/-- What the text of the line with a number comes to. -/
def Taken.of (order : FieldOrder) (number : Nat) (text : List Char) : Taken :=
  if Csv.isRecord text then
    match Csv.parseRecord order (Text.trim text) with
    | .error cause => .refused (.record number cause)
    | .ok e => .event e
  else .passed

theorem Taken.of_passed {order : FieldOrder} {number : Nat} {text : List Char}
    (h : Csv.isRecord text = false) : Taken.of order number text = .passed := by
  rw [Taken.of, h]
  rfl

theorem Taken.of_event {order : FieldOrder} {number : Nat} {text : List Char} {e : Event}
    (hrecord : Csv.isRecord text = true)
    (hparse : Csv.parseRecord order (Text.trim text) = .ok e) :
    Taken.of order number text = .event e := by
  rw [Taken.of, if_pos hrecord, hparse]

theorem Taken.of_refused {order : FieldOrder} {number : Nat} {text : List Char}
    {cause : RecordError} (hrecord : Csv.isRecord text = true)
    (hparse : Csv.parseRecord order (Text.trim text) = .error cause) :
    Taken.of order number text = .refused (.record number cause) := by
  rw [Taken.of, if_pos hrecord, hparse]

/-- The reader behind a line with a text. -/
def behind (r : TableReader) (source : Source) (text : List Char) : TableReader :=
  { r with
    source
    lineNumber := r.lineNumber + 1
    geometry := Csv.sizeBehind r.geometry text }

/-- Takes the next line. -/
def take (r : TableReader) : Taken × TableReader :=
  match r.source.readLine with
  | (.error message, source) => (.refused (.io message), { r with source })
  | (.ok [], source) => (.ended, { r with source, eof := true })
  | (.ok line, source) =>
    match Utf8.decode? line with
    | none => (.refused (.io invalidText), { r with source })
    | some text => (.of r.order (r.lineNumber + 1) text, r.behind source text)

variable {r : TableReader} {n : Nat} {events : Array Event} {source : Source}

theorem take_of_error {message : String} (hread : r.source.readLine = (.error message, source)) :
    r.take = (.refused (.io message), { r with source }) := by
  rw [take, hread]

theorem take_of_nil (hread : r.source.readLine = (.ok [], source)) :
    r.take = (.ended, { r with source, eof := true }) := by
  rw [take, hread]

theorem take_of_line {line : List UInt8} (hread : r.source.readLine = (.ok line, source))
    (hne : line ≠ []) :
    r.take =
      match Utf8.decode? line with
      | none => (.refused (.io invalidText), { r with source })
      | some text => (.of r.order (r.lineNumber + 1) text, r.behind source text) := by
  obtain ⟨b, bs, rfl⟩ := List.exists_cons_of_ne_nil hne
  rw [take, hread]

/-- Whatever the line comes to, the source is behind it. -/
theorem take_source (r : TableReader) : r.take.2.source = r.source.readLine.2 := by
  rw [take]
  rcases r.source.readLine with ⟨_ | ⟨_ | ⟨b, bs⟩⟩, source⟩
  · rfl
  · rfl
  · dsimp only
    cases Utf8.decode? (b :: bs) <;> rfl

theorem size_take_lt (h : r.take.1 ≠ .ended) : r.take.2.source.size < r.source.size := by
  have hne : r.source ≠ [] := by
    intro hnil
    refine h ?_
    rw [take, hnil]
    rfl
  rw [take_source]
  exact Source.size_readLine_lt hne

/-- Enough has been read, or there is nothing more. -/
theorem readInto_of_done (h : n ≤ events.size ∨ r.eof = true) :
    readInto n r events = ⟨r, .ok events.toList⟩ := by
  rw [readInto, if_pos (by simpa using h)]

/-- As long as more is asked for, a line is taken, and what it comes to decides. -/
theorem readInto_eq (hroom : events.size < n) (heof : r.eof = false) :
    readInto n r events =
      match r.take with
      | (.ended, r') => ⟨r', .ok events.toList⟩
      | (.refused e, r') => ⟨r', .error e⟩
      | (.passed, r') => readInto n r' events
      | (.event e, r') => readInto n r' (events.push e) := by
  have hgo : ¬(decide (n ≤ events.size) || r.eof) = true := by simp [heof, hroom]
  rw [readInto, if_neg hgo]
  split
  · -- The end is met also by the line that a source without segments gives.
    rename_i hnil
    rw [take, hnil]
    rfl
  · split
    · rename_i hread
      rw [take_of_error hread]
    · rename_i hread
      rw [take_of_nil hread]
    · rename_i line source hne hread
      rw [take_of_line hread hne]
      cases Utf8.decode? line with
      | none => rfl
      | some text =>
        dsimp only [Taken.of, behind, Csv.sizeBehind]
        cases hof : Csv.TableLine.of text with
        | skipped | geometry =>
          have hpassed : Csv.isRecord text = false :=
            Csv.isRecord_eq_false fun _ hrecord => by cases hof.symm.trans hrecord
          rw [hpassed]
          rfl
        | record record =>
          obtain ⟨hrecord, rfl⟩ := Csv.tableLine_eq_record_iff.1 hof
          rw [if_pos hrecord]
          dsimp only
          cases Csv.parseRecord r.order (Text.trim text) <;> rfl

/-! ### Calls -/

/-- The reader behind some calls for events, each for as many as given at most. -/
def afterCalls (r : TableReader) : List Nat → TableReader
  | [] => r
  | n :: sizes => (r.readEvents n).reader.afterCalls sizes

/-- What some calls for events return. -/
def results (r : TableReader) : List Nat → List (Except TableError (List Event))
  | [] => []
  | n :: sizes => (r.readEvents n).result :: (r.readEvents n).reader.results sizes

end TableReader

end EventCamera
