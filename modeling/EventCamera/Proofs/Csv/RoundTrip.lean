import EventCamera.Proofs.Csv.Lines
import EventCamera.Proofs.Csv.Reading

/-!
# Tables read back in parts

A table that was written is a run of lines: the comment with the size of the sensor, if it is known,
the heading, and one line for each event. Each line is what it was written for, so that calls for
events give those that were written, as many as each asks for, wherever the bytes of the table are
cut on their way to the reader.

## Main definitions

* `Csv.tableLines` — the lines of a table that was written

## Main results

* `Csv.toList_tableBytes_eq_lines`, `Csv.lines_tableLines` — a table comes to its lines
* `Csv.eventsOn_tableLines`, `Csv.size_behind_tableLines` — what these lines say
* `TableReader.readEvents_of_table` — what the first call returns
* `table_read_back` — what any calls return
-/

namespace EventCamera

namespace Csv

/-- The lines of a table that was written. -/
def tableLines (order : FieldOrder) (geometry : Option Geometry) (es : List Event) :
    List (List Char) :=
  (geometry.toList.map geometryText ++ order.heading.toList :: es.map (record order)).map
    (· ++ ['\n'])

variable {order : FieldOrder} {geometry : Option Geometry} {es : List Event} {line : List Char}
  {lines : List (List Char)}

/-! ### The lines -/

theorem flatten_tableLines (order : FieldOrder) (geometry : Option Geometry) (es : List Event) :
    (tableLines order geometry es).flatten =
      (geometry.toList.map fun g => geometryText g ++ ['\n']).flatten ++
        (order.heading.toList ++ ['\n']) ++ eventText order es := by
  rw [tableLines, List.map_append, List.map_cons, List.map_map, List.map_map, List.flatten_append,
    List.flatten_cons, ← List.append_assoc, eventText, List.flatMap_def]
  rfl

/-- The bytes of a table are those of its lines. -/
theorem toList_tableBytes_eq_lines (order : FieldOrder) (geometry : Option Geometry)
    (es : List Event) :
    (tableBytes order geometry es).data.toList =
      Utf8.encode (tableLines order geometry es).flatten := by
  have hheading : (eventHeading order geometry).flatMap String.toList =
      (geometry.toList.map fun g => geometryText g ++ ['\n']).flatten ++
        (order.heading.toList ++ ['\n']) := by
    cases geometry with
    | none => rfl
    | some g =>
      rw [flatMap_eventHeading, headingText, List.append_cons]
      simp
  rw [tableBytes_eq, toList_toUTF8, eventTable, String.toList_join, List.flatMap_append, hheading,
    flatMap_eventRow, flatten_tableLines]

/-- A line of a table has its line feed at its end and no other. -/
theorem exists_of_mem_tableLines (h : line ∈ tableLines order geometry es) :
    ∃ text, line = text ++ ['\n'] ∧ '\n' ∉ text := by
  obtain ⟨text, htext, rfl⟩ := List.mem_map.1 h
  refine ⟨text, rfl, ?_⟩
  rcases List.mem_append.1 htext with hcomment | hlater
  · obtain ⟨g, -, rfl⟩ := List.mem_map.1 hcomment
    exact feed_not_mem_geometryText g
  · rcases List.mem_cons.1 hlater with rfl | hrecord
    · exact feed_not_mem_heading order
    · obtain ⟨e, -, rfl⟩ := List.mem_map.1 hrecord
      exact feed_not_mem_record order e

/-- They are found again in the text that they make up. -/
theorem lines_tableLines (order : FieldOrder) (geometry : Option Geometry) (es : List Event) :
    Text.lines (tableLines order geometry es).flatten = tableLines order geometry es := by
  have hends : ∀ line ∈ tableLines order geometry es, ∃ text c, line = text ++ [c] ∧
      (∀ c ∈ text, (c == '\n') = false) ∧ (c == '\n') = true := by
    intro line hline
    obtain ⟨text, rfl, hfeed⟩ := exists_of_mem_tableLines hline
    refine ⟨text, '\n', rfl, ?_, rfl⟩
    intro c hc
    exact beq_eq_false_iff_ne.2 (ne_of_mem_of_not_mem hc hfeed)
  have hdivided := divideBehind_flatten_append hends []
  rwa [List.append_nil, divideBehind_nil, List.append_nil] at hdivided

/-! ### What they say -/

/-- Only the lines behind the heading have events on them. -/
theorem eventsOn_tableLines (geometry : Option Geometry) (hp : ∀ e ∈ es, e.p ≤ 1) :
    eventsOn order (tableLines order geometry es) = es := by
  have hcomment : eventsOn order ((geometry.toList.map geometryText).map (· ++ ['\n'])) = [] := by
    cases geometry with
    | none => rfl
    | some g =>
      change eventsOn order [geometryText g ++ ['\n']] = []
      rw [eventsOn_cons, eventOn?_of_passed (isRecord_geometryText g)]
      rfl
  have hrecords : eventsOn order ((es.map (record order)).map (· ++ ['\n'])) = es := by
    induction es with
    | nil => rfl
    | cons e es ih =>
      obtain ⟨he, hlater⟩ := List.forall_mem_cons.1 hp
      obtain ⟨hrecord, hparse⟩ := parseRecord_line order he
      rw [List.map_cons, List.map_cons, eventsOn_cons, eventOn?_of_event hrecord hparse, ih hlater]
      rfl
  rw [tableLines, List.map_append, List.map_cons, eventsOn_append, hcomment, eventsOn_cons,
    eventOn?_of_passed (isRecord_heading order), hrecords]
  rfl

theorem isSound_of_mem_tableLines (hp : ∀ e ∈ es, e.p ≤ 1)
    (h : line ∈ tableLines order geometry es) : IsSound order line := by
  intro hrecord
  obtain ⟨text, htext, rfl⟩ := List.mem_map.1 h
  rcases List.mem_append.1 htext with hcomment | hlater
  · obtain ⟨g, -, rfl⟩ := List.mem_map.1 hcomment
    cases (isRecord_geometryText g).symm.trans hrecord
  · rcases List.mem_cons.1 hlater with rfl | hevent
    · cases (isRecord_heading order).symm.trans hrecord
    · obtain ⟨e, he, rfl⟩ := List.mem_map.1 hevent
      exact ⟨e, (parseRecord_line order (hp e he)).2⟩

/-- Behind lines that give no size, the one that has been known is known. -/
theorem foldl_sizeBehind_of_forall (h : ∀ line ∈ lines, ∀ size, sizeBehind size line = size)
    (size : Option Geometry) : lines.foldl sizeBehind size = size := by
  induction lines with
  | nil => rfl
  | cons line lines ih =>
    obtain ⟨hline, hlater⟩ := List.forall_mem_cons.1 h
    rw [List.foldl_cons, hline, ih hlater]

/-- Behind its first lines, the size that a table was written with is known. -/
theorem size_behind_tableLines {taken left : List (List Char)}
    (h : tableLines order geometry es = taken ++ left) (hne : taken ≠ []) :
    taken.foldl sizeBehind none = geometry := by
  have hkeep : ∀ line ∈ (order.heading.toList :: es.map (record order)).map (· ++ ['\n']),
      ∀ size, sizeBehind size line = size := by
    rw [List.map_cons, List.forall_mem_cons]
    constructor
    · exact fun size => sizeBehind_heading size order
    · intro line hline size
      obtain ⟨text, htext, rfl⟩ := List.mem_map.1 hline
      obtain ⟨e, -, rfl⟩ := List.mem_map.1 htext
      exact sizeBehind_record size order e
  obtain ⟨line, taken, rfl⟩ := List.exists_cons_of_ne_nil hne
  rw [tableLines] at h
  cases geometry with
  | none =>
    refine foldl_sizeBehind_of_forall ?_ none
    intro line' hline'
    refine hkeep line' ?_
    change (order.heading.toList :: es.map (record order)).map (· ++ ['\n']) = _ at h
    rw [h]
    exact List.mem_append_left _ hline'
  | some g =>
    obtain ⟨rfl, hlater⟩ := List.cons.inj h
    rw [List.foldl_cons, sizeBehind_geometryText]
    refine foldl_sizeBehind_of_forall ?_ (some g)
    intro line' hline'
    refine hkeep line' ?_
    change (order.heading.toList :: es.map (record order)).map (· ++ ['\n']) = _ at hlater
    rw [hlater]
    exact List.mem_append_left _ hline'

/-- A reader that has been asked for events has passed a line of their table. -/
theorem ne_nil_of_tableLines {taken left : List (List Char)} {n : Nat}
    (h : tableLines order geometry es = taken ++ left) (hn : 0 < n)
    (htaken : eventsOn order taken = es.take n) (hended : es.length < n → left = []) :
    taken ≠ [] := by
  rintro rfl
  have hnone : es = [] := (List.take_eq_nil_iff.1 htaken.symm).resolve_left (Nat.ne_of_gt hn)
  have hleft : left = [] := hended (by rwa [hnone])
  rw [hleft] at h
  cases geometry <;> cases h

end Csv

open Csv TableReader

/-- A reader in front of a table that was written has all of its lines ahead. -/
theorem TableReader.between_tableLines (order : FieldOrder) (geometry : Option Geometry)
    (es : List Event) {source : Source} (hsteady : source.IsSteady)
    (hcontent : source.content = (tableBytes order geometry es).data.toList) :
    Between { source, order } order [] (tableLines order geometry es) := by
  rw [toList_tableBytes_eq_lines] at hcontent
  have hbetween := between_start order hsteady hcontent
  rwa [lines_tableLines] at hbetween

/-- The first call returns the first events of a table that was written, and from then on the size
of the sensor is known. The lines that are left have the other events on them. -/
theorem TableReader.readEvents_of_table {order : FieldOrder} {geometry : Option Geometry}
    {es : List Event} (hp : ∀ e ∈ es, e.p ≤ 1) {source : Source} (hsteady : source.IsSteady)
    (hcontent : source.content = (tableBytes order geometry es).data.toList) {n : Nat}
    (hn : 0 < n) :
    ∃ passed left r', readEvents { source, order } n = ⟨r', .ok (es.take n)⟩ ∧
      r'.geometry = geometry ∧ r'.Between order passed left ∧
      (∀ line ∈ left, IsSound order line) ∧ eventsOn order left = es.drop n := by
  have hsound : ∀ line ∈ tableLines order geometry es, IsSound order line :=
    fun _ => isSound_of_mem_tableLines hp
  have hevents : eventsOn order (tableLines order geometry es) = es :=
    eventsOn_tableLines geometry hp
  have hstart := between_tableLines order geometry es hsteady hcontent
  rw [← List.append_nil (tableLines order geometry es)] at hstart
  obtain ⟨passed, left, r', hlines, hread, heof, hbetween, hpassed⟩ :=
    hstart.readEvents_of_sound hsound (.inl rfl) (n := n)
  rw [List.nil_append, List.append_nil] at hbetween
  have hleft := eventsOn_eq_drop (hlines ▸ hpassed)
  rw [← hlines, hevents] at hleft
  rw [hevents] at hread heof hpassed
  refine ⟨passed, left, r', hread, ?_, hbetween, ?_, hleft⟩
  · rw [hbetween.geometry]
    refine size_behind_tableLines hlines (ne_nil_of_tableLines hlines hn hpassed ?_)
    exact fun hfew => hbetween.ended (heof.2 (.inr hfew))
  · exact fun _ hline => hsound _ (hlines ▸ List.mem_append_right _ hline)

/-- A table that was written is read back by any calls, each of which returns as many of the next
events as it asks for, until none are left. The first call already knows the size of the sensor. -/
theorem table_read_back (order : FieldOrder) (geometry : Option Geometry) (es : List Event)
    (hp : ∀ e ∈ es, e.p ≤ 1) {source : Source} (hsteady : source.IsSteady)
    (hcontent : source.content = (tableBytes order geometry es).data.toList) (sizes : List Nat)
    (hsizes : ∀ n ∈ sizes, 0 < n) :
    let start : TableReader := { source, order }
    start.results sizes = (sizes.splitLengths es).map .ok ∧
      ((start.afterCalls sizes).eof = true ↔ es.length < sizes.sum) ∧
      (sizes ≠ [] → (start.afterCalls sizes).geometry = geometry) ∧
      (es.length ≤ sizes.sum → ∀ n, 0 < n →
        let call := (start.afterCalls sizes).readEvents n
        call.result = .ok [] ∧ call.reader.eof = true) := by
  intro start
  have hstart : start.Between order [] (tableLines order geometry es) :=
    between_tableLines order geometry es hsteady hcontent
  have hsound : ∀ line ∈ tableLines order geometry es, IsSound order line :=
    fun _ => isSound_of_mem_tableLines hp
  have hevents : eventsOn order (tableLines order geometry es) = es :=
    eventsOn_tableLines geometry hp
  have hwhole := hstart
  rw [← List.append_nil (tableLines order geometry es)] at hwhole
  obtain ⟨hresults, heof, taken, left, hlines, hbetween, htaken⟩ :=
    hwhole.results_of_sound sizes hsound (.inl rfl)
  rw [hevents] at hresults heof htaken
  have hended : (start.afterCalls sizes).eof = true ↔ es.length < sizes.sum := by
    rw [heof, or_iff_right Bool.false_ne_true]
  refine ⟨hresults, hended, ?_, ?_⟩
  · intro hne
    obtain ⟨n, more, rfl⟩ := List.exists_cons_of_ne_nil hne
    have hasked : 0 < (n :: more).sum := by
      rw [List.sum_cons]
      exact Nat.add_pos_left (hsizes n List.mem_cons_self) _
    have hleft : es.length < (n :: more).sum → left = [] := by
      intro hfew
      simpa using hbetween.ended (hended.2 hfew)
    rw [hbetween.geometry]
    exact size_behind_tableLines hlines (ne_nil_of_tableLines hlines hasked htaken hleft)
  · intro hall n hn
    obtain ⟨hresult, hend⟩ := hstart.readEvents_afterCalls sizes n hsound
    rw [hevents] at hresult hend
    rw [List.drop_eq_nil_of_le hall, List.take_nil] at hresult
    exact ⟨hresult, (hend (by omega)).2⟩

/-- A table with its columns in an unusual order, in bytes that are cut within the comment and
within a record, is read back one event at a time. -/
theorem table_read_back_one_by_one :
    let order : FieldOrder := { columns := [.y, .t, .p, .x] }
    let source : Source := [.bytes (Utf8.encode "%geometry:429".toList), .interruption,
      .bytes (Utf8.encode "4967295,0\ny,t,p,x\n0,1844674407370".toList),
      .bytes (Utf8.encode "9551615,1,65535\n7,0,0,2\n".toList)]
    let start : TableReader := { source, order }
    start.results [1, 1] = [.ok [⟨18446744073709551615, 65535, 0, 1⟩], .ok [⟨0, 2, 7, 0⟩]] ∧
      (start.afterCalls [1, 1]).eof = false ∧
      (start.afterCalls [1, 1]).geometry = some ⟨4294967295, 0⟩ ∧
      ((start.afterCalls [1, 1]).readEvents 1).result = .ok [] := by
  intro order source start
  have hsteady : source.IsSteady := by simp [source, Source.IsSteady]
  have hcontent : source.content = (tableBytes order (some ⟨4294967295, 0⟩)
      [⟨18446744073709551615, 65535, 0, 1⟩, ⟨0, 2, 7, 0⟩]).data.toList := by
    rw [toList_tableBytes_eq_lines]
    decide +kernel
  obtain ⟨hresults, hended, hgeometry, hend⟩ :=
    table_read_back order (some ⟨4294967295, 0⟩)
      [⟨18446744073709551615, 65535, 0, 1⟩, ⟨0, 2, 7, 0⟩] (by decide) hsteady hcontent [1, 1]
      (by decide)
  have hopen : ¬(start.afterCalls [1, 1]).eof = true := by
    rw [hended]
    decide
  exact ⟨hresults, Bool.eq_false_of_not_eq_true hopen, hgeometry (List.cons_ne_nil _ _),
    (hend (by decide) 1 (by decide)).1⟩

end EventCamera
