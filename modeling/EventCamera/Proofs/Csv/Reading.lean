import EventCamera.Proofs.Bytes.Source
import EventCamera.Proofs.Csv.Stepwise
import EventCamera.Proofs.Csv.Writing
import EventCamera.Proofs.Text.Numeral
import EventCamera.Proofs.Text.Trim
import Mathlib.Data.List.Perm.Subperm

/-!
# What the lines of a table say

The lines of a table that was written in some order of columns say, to a reader with that order,
what they were written for: the comment gives the size of the sensor, the heading says nothing, and
each other line gives its event.

## Main results

* `Csv.tableLine_geometryText`, `Csv.tableLine_heading` — the lines in front of the records
* `Csv.parseRecord_record`, `Csv.parseRecord_line` — the line of an event gives the event
-/

namespace EventCamera

namespace Csv

/-! ### Numbers with commas between them -/

/-- Parts with a separator between them come apart again. -/
theorem fields_intercalate {sep : Char} {parts : List (List Char)} (hne : parts ≠ [])
    (hparts : ∀ part ∈ parts, sep ∉ part) : Text.fields sep ([sep].intercalate parts) = parts := by
  induction parts with
  | nil => exact absurd rfl hne
  | cons part parts ih =>
    rw [List.forall_mem_cons] at hparts
    cases parts with
    | nil => rw [List.intercalate_singleton, Text.fields_of_not_mem hparts.1]
    | cons next parts =>
      rw [List.intercalate_cons_cons, List.append_assoc, List.singleton_append,
        Text.fields_append_cons hparts.1, ih (List.cons_ne_nil _ _) hparts.2]

/-- Parts with a separator between them start with the first one. -/
theorem intercalate_cons (sep part : List Char) (parts : List (List Char)) :
    ∃ rest, sep.intercalate (part :: parts) = part ++ rest := by
  cases parts with
  | nil => exact ⟨[], by rw [List.intercalate_singleton, List.append_nil]⟩
  | cons next parts => exact ⟨_, by rw [List.intercalate_cons_cons, List.append_assoc]⟩

/-- Whatever stands in a joined text stands in a part or in the separator. -/
theorem mem_or_mem_of_mem_intercalate {sep : List Char} {parts : List (List Char)} {c : Char}
    (h : c ∈ sep.intercalate parts) : c ∈ sep ∨ ∃ part ∈ parts, c ∈ part := by
  induction parts with
  | nil => exact absurd h List.not_mem_nil
  | cons part parts ih =>
    cases parts with
    | nil =>
      rw [List.intercalate_singleton] at h
      exact .inr ⟨part, List.mem_cons_self, h⟩
    | cons next parts =>
      rw [List.intercalate_cons_cons, List.mem_append, List.mem_append] at h
      rcases h with (h | h) | h
      · exact .inr ⟨part, List.mem_cons_self, h⟩
      · exact .inl h
      · obtain hsep | ⟨other, hmem, hc⟩ := ih h
        · exact .inl hsep
        · exact .inr ⟨other, List.mem_cons_of_mem _ hmem, hc⟩

/-- Numbers come apart at the commas between them. -/
theorem fields_joined {ns : List Nat} (hne : ns ≠ []) :
    (Text.fields ',' (joined ns)).map Text.trim = ns.map Numeral.decimal := by
  have hparts : ∀ part ∈ ns.map Numeral.decimal, ',' ∉ part := by
    intro part hpart
    obtain ⟨n, -, rfl⟩ := List.mem_map.1 hpart
    exact Numeral.not_mem_decimal rfl n
  rw [joined, fields_intercalate (by simpa using hne) hparts, List.map_map]
  congr 1
  funext n
  exact Numeral.trim_decimal n

theorem isBlank_of_mem_joined {ns : List Nat} {c : Char} (h : c ∈ joined ns) :
    Text.isBlank c = false := by
  obtain hcomma | ⟨part, hpart, hc⟩ := mem_or_mem_of_mem_intercalate h
  · rw [List.mem_singleton.1 hcomma]
    decide
  · obtain ⟨n, -, rfl⟩ := List.mem_map.1 hpart
    exact Numeral.isBlank_of_mem_decimal hc

/-! ### Records -/

theorem mem_columns (order : FieldOrder) (field : EventField) : field ∈ order.columns := by
  have hevery : order.columns ⊆ [.x, .y, .p, .t] := by
    intro field _
    cases field <;> decide
  -- Four columns without a repetition are all the fields there are.
  have hperm := (List.subperm_of_subset order.nodup hevery).perm_of_length_le (by
    rw [order.length_eq]
    decide)
  rw [hperm.mem_iff]
  cases field <;> decide

theorem value_lt (field : EventField) (e : Event) : field.value e < UInt64.size := by
  have := e.x.toNat_lt
  have := e.y.toNat_lt
  have := e.p.toNat_lt
  have := e.t.toNat_lt
  have hsize : UInt64.size = 18446744073709551616 := rfl
  cases field <;> simp only [EventField.value] <;> omega

theorem readValues_zip (columns : List EventField) (e : Event) :
    readValues (columns.zip (columns.map fun field => Numeral.decimal (field.value e))) =
      .ok (columns.map fun field => (field, UInt64.ofNat (field.value e))) := by
  induction columns with
  | nil => rfl
  | cons field columns ih =>
    rw [List.map_cons, List.zip_cons_cons, readValues, Numeral.parse64_decimal (value_lt field e)]
    dsimp only
    rw [ih]
    rfl

theorem fieldValue_map {columns : List EventField} {field : EventField}
    (value : EventField → UInt64) (h : field ∈ columns) :
    fieldValue (columns.map fun field => (field, value field)) field = value field := by
  rw [fieldValue]
  induction columns with
  | nil => exact absurd h List.not_mem_nil
  | cons other columns ih =>
    rw [List.map_cons, List.lookup_cons]
    by_cases hfield : field = other
    · rw [hfield, beq_self_eq_true, Option.getD_some]
    · rw [beq_eq_false_iff_ne.2 hfield]
      exact ih ((List.mem_cons.1 h).resolve_left hfield)

/-- The values of an event are in range, so that they give the event. -/
theorem eventOf_values {values : List (EventField × UInt64)} {e : Event}
    (hvalues : ∀ field, fieldValue values field = UInt64.ofNat (field.value e)) (hp : e.p ≤ 1) :
    eventOf values = .ok e := by
  have htoNat (field : EventField) : (fieldValue values field).toNat = field.value e := by
    rw [hvalues]
    exact UInt64.toNat_ofNat_of_lt' (value_lt field e)
  have hx : (fieldValue values .x).toNat = e.x.toNat := htoNat .x
  have hy : (fieldValue values .y).toNat = e.y.toNat := htoNat .y
  have hpol : (fieldValue values .p).toNat = e.p.toNat := htoNat .p
  rw [UInt8.le_iff_toNat_le] at hp
  rw [eventOf, if_neg, if_neg, if_neg]
  · refine congrArg Except.ok ?_
    obtain ⟨t, x, y, p⟩ := e
    rw [Event.mk.injEq]
    refine ⟨UInt64.toNat.inj (htoNat .t), UInt16.toNat.inj ?_, UInt16.toNat.inj ?_,
      UInt8.toNat.inj ?_⟩
    · rw [UInt64.toNat_toUInt16, hx]
      exact Nat.mod_eq_of_lt x.toNat_lt
    · rw [UInt64.toNat_toUInt16, hy]
      exact Nat.mod_eq_of_lt y.toNat_lt
    · rw [UInt64.toNat_toUInt8, hpol]
      exact Nat.mod_eq_of_lt p.toNat_lt
  · rw [UInt64.lt_iff_toNat_lt, hpol]
    exact Nat.not_lt.2 hp
  · rw [UInt64.lt_iff_toNat_lt, hy]
    exact Nat.not_lt.2 (Nat.le_of_lt_succ e.y.toNat_lt)
  · rw [UInt64.lt_iff_toNat_lt, hx]
    exact Nat.not_lt.2 (Nat.le_of_lt_succ e.x.toNat_lt)

/-- The line of an event gives the event, whatever the order of the columns. -/
theorem parseRecord_record (order : FieldOrder) {e : Event} (hp : e.p ≤ 1) :
    parseRecord order (record order e) = .ok e := by
  have hne : (order.columns.map fun field => field.value e) ≠ [] :=
    List.ne_nil_of_length_pos (by rw [List.length_map, order.length_eq]; decide)
  have hfields : (Text.fields ',' (record order e)).map Text.trim =
      order.columns.map fun field => Numeral.decimal (field.value e) := by
    rw [record, fields_joined hne, List.map_map]
    rfl
  rw [parseRecord, hfields, List.length_map, if_pos order.length_eq, readValues_zip]
  refine eventOf_values (fun field => ?_) hp
  exact fieldValue_map (fun field => UInt64.ofNat (field.value e)) (mem_columns order field)

/-! ### Lines -/

theorem trim_line {line : List Char} (hne : line ≠ [])
    (hline : ∀ c ∈ line, Text.isBlank c = false) :
    Text.trim (line ++ ['\n']) = line := by
  have hfeed : ∀ c ∈ ['\n'], Text.isBlank c = true := List.forall_mem_singleton.2 (by decide)
  obtain ⟨c, cs, rfl⟩ := List.exists_cons_of_ne_nil hne
  rw [List.cons_append, Text.trim_cons_of_not_blank (hline c List.mem_cons_self),
    ← List.cons_append, Text.trimEnd_append_of_blank hfeed, Text.trimEnd_eq_self hline]

theorem exists_columns (order : FieldOrder) : ∃ field columns, order.columns = field :: columns :=
  List.exists_cons_of_ne_nil (List.ne_nil_of_length_pos (by rw [order.length_eq]; decide))

theorem isLetter_of_isDigit {c : Char} (h : c.isDigit = true) : isLetter c = false := by
  have hrange : 48 ≤ c.toNat ∧ c.toNat ≤ 57 := by
    simpa [Char.isDigit, UInt32.le_iff_toNat_le] using h
  have hupper : c.isUpper = false := by
    unfold Char.isUpper
    simp [UInt32.le_iff_toNat_le]
    omega
  have hlower : c.isLower = false := by
    unfold Char.isLower
    simp [UInt32.le_iff_toNat_le]
    omega
  unfold isLetter Char.isAlpha
  rw [hupper, hlower]
  rfl

/-- The line of an event begins with a digit. -/
theorem exists_record_cons (order : FieldOrder) (e : Event) :
    ∃ c cs, record order e = c :: cs ∧ c.isDigit = true := by
  obtain ⟨field, columns, hcolumns⟩ := exists_columns order
  obtain ⟨rest, hrest⟩ := intercalate_cons [','] (Numeral.decimal (field.value e))
    ((columns.map fun field => field.value e).map Numeral.decimal)
  obtain ⟨c, digits, hdigits⟩ := List.exists_cons_of_ne_nil (Numeral.decimal_ne_nil (field.value e))
  refine ⟨c, digits ++ rest, ?_, Numeral.isDigit_of_mem_decimal (hdigits ▸ List.mem_cons_self)⟩
  rw [record, hcolumns, List.map_cons, joined, List.map_cons, hrest, hdigits, List.cons_append]

/-- The line of an event is a record. -/
theorem tableLine_record (order : FieldOrder) (e : Event) :
    TableLine.of (record order e ++ ['\n']) = .record (record order e) := by
  obtain ⟨c, cs, hrecord, hc⟩ := exists_record_cons order e
  have htrim : Text.trim (record order e ++ ['\n']) = c :: cs := by
    have hblank : ∀ c ∈ record order e, Text.isBlank c = false := fun _ => isBlank_of_mem_joined
    rw [trim_line (hrecord ▸ List.cons_ne_nil _ _) hblank, hrecord]
  -- Beginning with a digit, it is neither a comment nor a heading.
  have hpercent : c ≠ '%' := by
    rintro rfl
    revert hc
    decide
  rw [TableLine.of, htrim, hrecord]
  dsimp only
  rw [if_neg hpercent, if_neg (by rw [isLetter_of_isDigit hc]; exact Bool.false_ne_true)]

theorem parsePair_joined (g : Geometry) :
    Geometry.parsePair ',' (joined [g.width.toNat, g.height.toNat]) = some g := by
  have hcut : Text.cut ',' (joined [g.width.toNat, g.height.toNat]) =
      some (Numeral.decimal g.width.toNat, Numeral.decimal g.height.toNat) := by
    rw [joined, List.map_cons, List.map_singleton, List.intercalate_cons_cons,
      List.intercalate_singleton, List.append_assoc, List.singleton_append]
    exact Text.cut_append_cons (Numeral.not_mem_decimal rfl _)
  rw [Geometry.parsePair, hcut]
  simp [Numeral.trim_decimal, Numeral.parse32_decimal, Except.toOption]

theorem isBlank_of_mem_geometryText {g : Geometry} {c : Char} (h : c ∈ geometryText g) :
    Text.isBlank c = false := by
  have hmark : "%geometry:".toList.all (fun c => !Text.isBlank c) = true := by decide
  rcases List.mem_append.1 h with h | h
  · exact Text.isBlank_of_all hmark h
  · exact isBlank_of_mem_joined h

/-- The comment gives the size of the sensor. -/
theorem tableLine_geometryText (g : Geometry) :
    TableLine.of (geometryText g ++ ['\n']) = .geometry (some g) := by
  have hmark : "%geometry:".toList = '%' :: "geometry:".toList := by decide
  have htext : geometryText g =
      '%' :: ("geometry:".toList ++ joined [g.width.toNat, g.height.toNat]) :=
    congrArg (· ++ joined [g.width.toNat, g.height.toNat]) hmark
  have hblank : ∀ c ∈ '%' :: ("geometry:".toList ++ joined [g.width.toNat, g.height.toNat]),
      Text.isBlank c = false := by
    rw [← htext]
    exact fun _ => isBlank_of_mem_geometryText
  have htrim : Text.trim (geometryText g ++ ['\n']) =
      '%' :: ("geometry:".toList ++ joined [g.width.toNat, g.height.toNat]) := by
    rw [htext, trim_line (List.cons_ne_nil _ _) hblank]
  rw [TableLine.of, htrim]
  dsimp only
  rw [if_pos rfl, Text.trim_eq_self (List.forall_mem_cons.1 hblank).2, Text.after_append]
  dsimp only
  rw [parsePair_joined]

/-- The heading is passed over. -/
theorem tableLine_heading (order : FieldOrder) :
    TableLine.of (order.heading.toList ++ ['\n']) = .skipped := by
  obtain ⟨field, columns, hcolumns⟩ := exists_columns order
  obtain ⟨rest, hrest⟩ := intercalate_cons ",".toList field.name.toList
    ((columns.map EventField.name).map String.toList)
  obtain ⟨c, cs, hname, hblank, hpercent, hletter⟩ : ∃ c cs, field.name.toList = c :: cs ∧
      Text.isBlank c = false ∧ c ≠ '%' ∧ isLetter c = true := by
    cases field <;> exact ⟨_, _, rfl, by decide, by decide, by decide⟩
  have hheading : order.heading.toList = c :: (cs ++ rest) := by
    rw [FieldOrder.heading, String.toList_intercalate, hcolumns, List.map_cons, List.map_cons,
      hrest, hname, List.cons_append]
  rw [TableLine.of, hheading, List.cons_append, Text.trim_cons_of_not_blank hblank,
    Text.trimEnd_cons_of_not_blank hblank]
  dsimp only
  rw [if_neg hpercent, if_pos hletter]

/-- The line of an event is a record, and gives the event. -/
theorem parseRecord_line (order : FieldOrder) {e : Event} (hp : e.p ≤ 1) :
    isRecord (record order e ++ ['\n']) = true ∧
      parseRecord order (Text.trim (record order e ++ ['\n'])) = .ok e := by
  obtain ⟨hrecord, htrim⟩ := tableLine_eq_record_iff.1 (tableLine_record order e)
  rw [← htrim]
  exact ⟨hrecord, parseRecord_record order hp⟩

theorem isRecord_geometryText (g : Geometry) : isRecord (geometryText g ++ ['\n']) = false :=
  isRecord_eq_false fun _ hrecord => by cases (tableLine_geometryText g).symm.trans hrecord

theorem isRecord_heading (order : FieldOrder) :
    isRecord (order.heading.toList ++ ['\n']) = false :=
  isRecord_eq_false fun _ hrecord => by cases (tableLine_heading order).symm.trans hrecord

/-- Only the comment says what the size of the sensor is. -/
theorem sizeBehind_geometryText (size : Option Geometry) (g : Geometry) :
    sizeBehind size (geometryText g ++ ['\n']) = some g := by
  rw [sizeBehind, tableLine_geometryText]

theorem sizeBehind_heading (size : Option Geometry) (order : FieldOrder) :
    sizeBehind size (order.heading.toList ++ ['\n']) = size := by
  rw [sizeBehind, tableLine_heading]

theorem sizeBehind_record (size : Option Geometry) (order : FieldOrder) (e : Event) :
    sizeBehind size (record order e ++ ['\n']) = size := by
  rw [sizeBehind, tableLine_record]

/-- A line feed is blank, and a text without blanks has none. -/
theorem feed_not_mem_record (order : FieldOrder) (e : Event) : '\n' ∉ record order e :=
  Text.feed_not_mem_of_not_blank fun _ => isBlank_of_mem_joined

theorem feed_not_mem_geometryText (g : Geometry) : '\n' ∉ geometryText g :=
  Text.feed_not_mem_of_not_blank fun _ => isBlank_of_mem_geometryText

theorem feed_not_mem_heading (order : FieldOrder) : '\n' ∉ order.heading.toList := by
  have hname (field : EventField) : '\n' ∉ field.name.toList := by cases field <;> decide
  intro h
  rw [FieldOrder.heading, String.toList_intercalate] at h
  obtain hcomma | ⟨part, hpart, hc⟩ := mem_or_mem_of_mem_intercalate h
  · revert hcomma
    decide
  · obtain ⟨name, hmem, rfl⟩ := List.mem_map.1 hpart
    obtain ⟨field, -, rfl⟩ := List.mem_map.1 hmem
    exact hname field hc

end Csv

end EventCamera
