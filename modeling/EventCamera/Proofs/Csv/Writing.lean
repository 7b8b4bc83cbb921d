import EventCamera.Csv.Writer
import EventCamera.Proofs.Bytes.Sink
import EventCamera.Proofs.Bytes.Utf8
import EventCamera.Text.Numeral

/-!
# What a table comes to

Tables are written in small pieces. In a sink that refuses nothing these come to the lines of the
table, one behind the other, however the records were divided into batches.

## Main definitions

* `Csv.joined` — numbers with commas between them
* `Csv.eventText` — the lines of some events
* `Csv.tableBytes` — the bytes that a table of events comes to

## Main results

* `Csv.advances_writePieces`, `Csv.advances_writeRows` — what writing leaves behind
* `Csv.toList_tableBytes` — a table is its heading and then the lines of its events
-/

namespace EventCamera

theorem toList_toUTF8 (text : String) : text.toUTF8.data.toList = Utf8.encode text.toList := by
  rw [String.toUTF8_eq_toByteArray, ← String.utf8Encode_toList, List.utf8Encode,
    List.toList_data_toByteArray]
  rfl

namespace Csv

/-! ### Texts of lines -/

/-- Numbers with commas between them. -/
def joined (ns : List Nat) : List Char := [','].intercalate (ns.map Numeral.decimal)

/-- The pieces of a line are its numbers and a line feed. -/
theorem flatMap_row (ns : List Nat) : (row ns).flatMap String.toList = joined ns ++ ['\n'] := by
  have hdecimal (n : Nat) : (toString n).toList = Numeral.decimal n := Nat.toList_repr
  fun_induction row ns with
  | case1 => rfl
  | case2 n =>
    rw [List.flatMap_cons, hdecimal, joined, List.map_singleton, List.intercalate_singleton]
    rfl
  | case3 n ns hne ih =>
    obtain ⟨m, ns, rfl⟩ := List.exists_cons_of_ne_nil hne
    rw [List.flatMap_cons, List.flatMap_cons, ih, hdecimal, joined, joined]
    simp only [List.map_cons, List.intercalate_cons_cons, List.append_assoc]
    rfl

/-- The line of an event, without its line feed. -/
def record (order : FieldOrder) (e : Event) : List Char :=
  joined (order.columns.map fun field => field.value e)

/-- The lines of some events. -/
def eventText (order : FieldOrder) (es : List Event) : List Char :=
  es.flatMap fun e => record order e ++ ['\n']

@[simp] theorem eventText_nil (order : FieldOrder) : eventText order [] = [] := rfl

theorem eventText_append (order : FieldOrder) (es more : List Event) :
    eventText order (es ++ more) = eventText order es ++ eventText order more :=
  List.flatMap_append

/-- The comment that gives the size of the sensor, without its line feed. -/
def geometryText (g : Geometry) : List Char :=
  "%geometry:".toList ++ joined [g.width.toNat, g.height.toNat]

/-- The lines before the first event. -/
def headingText (order : FieldOrder) (g : Geometry) : List Char :=
  geometryText g ++ '\n' :: (order.heading.toList ++ ['\n'])

theorem flatMap_eventHeading (order : FieldOrder) (g : Geometry) :
    (eventHeading order (some g)).flatMap String.toList = headingText order g := by
  have hgeometry : (geometryLine g).flatMap String.toList = geometryText g ++ ['\n'] := by
    rw [geometryLine, List.flatMap_cons, flatMap_row]
    exact (List.append_assoc _ _ _).symm
  have hheading : (headingLine order).flatMap String.toList = order.heading.toList ++ ['\n'] := by
    rw [headingLine, List.flatMap_cons, List.flatMap_singleton]
    rfl
  rw [eventHeading, Option.map_some, Option.getD_some, List.flatMap_append, hgeometry, hheading,
    headingText, List.append_assoc, List.singleton_append]

theorem flatMap_eventRow (order : FieldOrder) (es : List Event) :
    (es.flatMap (eventRow order)).flatMap String.toList = eventText order es := by
  rw [List.flatMap_assoc, eventText]
  congr 1
  funext e
  exact flatMap_row _

/-! ### Writing -/

section Writing

variable {α : Type} {b : BufferedSink}

theorem advances_writePieces (h : b.IsUnbounded) (pieces : List String) :
    ∃ b', writePieces b pieces = (b', .ok ()) ∧
      b.Advances (Utf8.encode (pieces.flatMap String.toList)) b' := by
  obtain ⟨b', hwrite, hadvances⟩ := h.advances_writeAll (pieces.map String.toUTF8)
  have hbytes : (pieces.map String.toUTF8).flatMap (·.data.toList) =
      Utf8.encode (pieces.flatMap String.toList) := by
    rw [List.flatMap_map, Utf8.encode, List.flatMap_assoc]
    congr 1
    funext piece
    exact toList_toUTF8 piece
  exact ⟨b', hwrite, hbytes ▸ hadvances⟩

theorem advances_writeRows (line : α → List String) (h : b.IsUnbounded) (as : List α) :
    ∃ b', writeRows line b as = (b', .ok ()) ∧
      b.Advances (Utf8.encode ((as.flatMap line).flatMap String.toList)) b' := by
  induction as generalizing b with
  | nil => exact ⟨b, rfl, h.advances⟩
  | cons a as ih =>
    obtain ⟨b', hwrite, hfirst⟩ := advances_writePieces h (line a)
    obtain ⟨b'', hall, hrest⟩ := ih hfirst.isUnbounded
    rw [writeRows, hwrite, List.flatMap_cons, List.flatMap_append, Utf8.encode_append]
    exact ⟨b'', hall, hfirst.trans hrest⟩

end Writing

/-- The bytes that a table of events comes to in a sink with room for everything. -/
def tableBytes (order : FieldOrder) (geometry : Option Geometry) (es : List Event) : ByteArray :=
  let begun := (writePieces { sink := {} } (eventHeading order geometry)).1
  let filled := (writeRows (eventRow order) begun es).1
  filled.flush.1.sink.accepted

/-- A table of events is the text that it stands for. -/
theorem tableBytes_eq (order : FieldOrder) (geometry : Option Geometry) (es : List Event) :
    tableBytes order geometry es = (eventTable order geometry es).toUTF8 := by
  obtain ⟨begun, hbegun, hfirst⟩ :=
    advances_writePieces (b := { sink := {} }) rfl (eventHeading order geometry)
  obtain ⟨filled, hfilled, hrest⟩ := advances_writeRows (eventRow order) hfirst.isUnbounded es
  obtain ⟨flushed, hflush, hflushed, hall⟩ := hrest.isUnbounded.advances_flush
  have hbytes : tableBytes order geometry es = flushed.sink.accepted := by
    rw [tableBytes, hbegun]
    dsimp only
    rw [hfilled]
    dsimp only
    rw [hflush]
  rw [hbytes]
  apply eq_of_toList_data
  rw [hall, (hfirst.trans (hrest.trans hflushed)).stream, toList_toUTF8, eventTable,
    String.toList_join, List.flatMap_append, Utf8.encode_append, List.append_nil]
  rfl

/-- A table of events is its heading and then the lines of its events. -/
theorem toList_tableBytes (order : FieldOrder) (g : Geometry) (es : List Event) :
    (tableBytes order (some g) es).data.toList =
      Utf8.encode (headingText order g ++ eventText order es) := by
  rw [tableBytes_eq, toList_toUTF8, eventTable, String.toList_join, List.flatMap_append,
    flatMap_eventHeading, flatMap_eventRow]

end Csv

end EventCamera
