import EventCamera.Proofs.Bytes.Source
import EventCamera.Proofs.Bytes.Utf8
import EventCamera.Proofs.Csv.Stepwise
import EventCamera.Proofs.Dividing
import Mathlib.Data.List.SplitLengths

/-!
# Tables read in parts

However many events are asked for at once, the calls give the events of the records one behind the
other, and fewer than asked for only at the end. A record that cannot be taken ends the call that
meets it, with the number of its line among all lines; it costs the events that this call has read
before, and the next call goes on with the next line.

## Main definitions

* `Text.lines` — the lines of a text
* `TableReader.Between` — the lines that a reader has passed, and those that are ahead

## Main results

* `TableReader.Between.take` — a line is taken whole
* `TableReader.Between.readInto` — reading passes lines until it has enough
* `table_read_in_parts` — what any calls return
-/

namespace EventCamera

/-! ### Lines of a text -/

namespace Text

/-- The lines of a text, each up to and with its line feed, which only the last may lack. -/
def lines (text : List Char) : List (List Char) := divideBehind (· == '\n') text

@[simp] theorem flatten_lines (text : List Char) : (lines text).flatten = text :=
  flatten_divideBehind text

theorem feed_not_mem_encode {cs : List Char} (h : ∀ c ∈ cs, (c == '\n') = false) :
    Source.lineFeed ∉ Utf8.encode cs := by
  intro hmem
  have hfeed : '\n' ∈ cs := Utf8.mem_of_mem_encode hmem (by decide)
  cases h _ hfeed

/-- The bytes of the first line are the first line of the bytes. -/
theorem lines_eq_cons {text line : List Char} {more : List (List Char)}
    (h : lines text = line :: more) :
    line ≠ [] ∧ lines more.flatten = more ∧
      Source.lineOf (Utf8.encode text) = Utf8.encode line ∧
      Source.afterLine (Utf8.encode text) = Utf8.encode more.flatten := by
  obtain ⟨later, rfl, hlater, hends⟩ := divideBehind_eq_cons h
  have hmore : more.flatten = later := by rw [← hlater, flatten_divideBehind]
  rw [hmore]
  obtain ⟨front, c, rfl, hfront, hc⟩ | ⟨rfl, hne, hfront⟩ := hends
  · obtain rfl := beq_iff_eq.1 hc
    have hbytes : Utf8.encode (front ++ ['\n'] ++ later) =
        Utf8.encode front ++ Source.lineFeed :: Utf8.encode later := by
      rw [Utf8.encode_append, Utf8.encode_append, List.append_assoc]
      rfl
    obtain ⟨hline, hafter⟩ :=
      Source.lineOf_append (feed_not_mem_encode hfront) (Utf8.encode later)
    rw [hbytes, hline, hafter, Utf8.encode_append]
    exact ⟨by simp, hlater, rfl, rfl⟩
  · obtain ⟨hline, hafter⟩ := Source.lineOf_of_not_mem (feed_not_mem_encode hfront)
    rw [List.append_nil, hline, hafter]
    exact ⟨hne, hlater, rfl, rfl⟩

end Text

namespace TableReader

open Csv

variable {r : TableReader} {n : Nat} {events : Array Event} {order : FieldOrder}
  {line : List Char} {passed ahead front back : List (List Char)}

/-! ### One line -/

/-- The reader has passed some lines of a text, and others are ahead. -/
structure Between (r : TableReader) (order : FieldOrder) (passed ahead : List (List Char)) :
    Prop where
  isSteady : r.source.IsSteady
  content : r.source.content = Utf8.encode ahead.flatten
  lines : Text.lines ahead.flatten = ahead
  order_eq : r.order = order
  lineNumber : r.lineNumber = passed.length
  geometry : r.geometry = passed.foldl sizeBehind none
  ended : r.eof = true → ahead = []

theorem between_start (order : FieldOrder) {source : Source} {text : List Char}
    (hsteady : source.IsSteady) (hcontent : source.content = Utf8.encode text) :
    Between { source, order } order [] (Text.lines text) where
  isSteady := hsteady
  content := by rw [Text.flatten_lines, hcontent]
  lines := by rw [Text.flatten_lines]
  order_eq := rfl
  lineNumber := rfl
  geometry := rfl
  ended := nofun

namespace Between

theorem eof_of_cons (h : r.Between order passed (line :: ahead)) : r.eof = false := by
  rw [← Bool.not_eq_true]
  intro heof
  cases h.ended heof

/-- The next line is taken whole. -/
theorem take (h : r.Between order passed (line :: ahead)) :
    ∃ source, r.take = (.of order (passed.length + 1) line, r.behind source line) ∧
      (r.behind source line).Between order (passed ++ [line]) ahead := by
  obtain ⟨hne, hahead, hline, hafter⟩ := Text.lines_eq_cons h.lines
  obtain ⟨source, hread, hsteady, hcontent⟩ := h.isSteady.readLine
  rw [h.content, hline] at hread
  rw [h.content, hafter] at hcontent
  refine ⟨source, ?_, hsteady, hcontent, hahead, h.order_eq, ?_, ?_, ?_⟩
  · rw [take_of_line hread (Utf8.encode_ne_nil hne), Utf8.decode?_encode, h.lineNumber, h.order_eq]
  · rw [List.length_append, behind, h.lineNumber]
    rfl
  · rw [List.foldl_append, behind, h.geometry]
    rfl
  · intro heof
    cases h.eof_of_cons.symm.trans heof

/-- Behind the last line there is none. -/
theorem take_of_end (h : r.Between order passed []) :
    ∃ source, r.take = (.ended, { r with source, eof := true }) ∧
      { r with source, eof := true }.Between order passed [] := by
  obtain ⟨source, hread, hsteady, hcontent⟩ := h.isSteady.readLine
  rw [h.content] at hread hcontent
  exact ⟨source, take_of_nil hread, hsteady, hcontent, h.lines, h.order_eq, h.lineNumber,
    h.geometry, fun _ => rfl⟩

/-! ### One call -/

/-- A sound line gives its event, if it is the record of one, and reading goes on behind it. -/
theorem readInto_cons (h : r.Between order passed (line :: ahead)) (hsound : IsSound order line)
    (hroom : events.size < n) :
    ∃ source, (r.behind source line).Between order (passed ++ [line]) ahead ∧
      TableReader.readInto n r events =
        TableReader.readInto n (r.behind source line)
          (events ++ (eventOn? order line).toList.toArray) := by
  obtain ⟨source, htake, hbehind⟩ := h.take
  refine ⟨source, hbehind, ?_⟩
  rw [readInto_eq hroom h.eof_of_cons, htake]
  cases hrecord : isRecord line with
  | true =>
    obtain ⟨e, hparse⟩ := hsound hrecord
    rw [Taken.of_event hrecord hparse, eventOn?_of_event hrecord hparse]
    change TableReader.readInto n _ (events.push e) = TableReader.readInto n _ (events ++ #[e])
    rw [Array.push_eq_append]
  | false =>
    rw [Taken.of_passed hrecord, eventOn?_of_passed hrecord]
    change TableReader.readInto n _ events = TableReader.readInto n _ (events ++ #[])
    rw [Array.append_empty]

/-- Reading passes sound lines until it has enough events, and all of them if they do not give
enough. -/
theorem readInto (h : r.Between order passed (front ++ back))
    (hsound : ∀ line ∈ front, IsSound order line) (heof : r.eof = false)
    (hroom : events.size ≤ n) :
    ∃ taken left r', front = taken ++ left ∧ r'.eof = false ∧
      r'.Between order (passed ++ taken) (left ++ back) ∧
      eventsOn order taken = (eventsOn order front).take (n - events.size) ∧
      (events.size + (eventsOn order front).length < n → left = []) ∧
      TableReader.readInto n r events =
        TableReader.readInto n r' (events ++ (eventsOn order taken).toArray) := by
  -- The induction is on the lines; the reader and what it has read change from one to the next.
  induction front generalizing r passed events with
  | nil =>
    refine ⟨[], [], r, rfl, heof, ?_, by simp, fun _ => rfl, by simp⟩
    rwa [List.append_nil]
  | cons line front ih =>
    rcases Nat.eq_or_lt_of_le hroom with hfull | hfew
    · refine ⟨[], line :: front, r, rfl, heof, ?_, by simp [hfull], ?_, by simp⟩
      · rwa [List.append_nil]
      · intro hlt
        omega
    · obtain ⟨hline, hlater⟩ := List.forall_mem_cons.1 hsound
      obtain ⟨source, hbehind, hgo⟩ := h.readInto_cons hline hfew
      have hone : (eventOn? order line).toList.length ≤ 1 := by
        cases eventOn? order line <;> simp
      have hsize : (events ++ (eventOn? order line).toList.toArray).size =
          events.size + (eventOn? order line).toList.length := Array.size_append
      have hroom' : (events ++ (eventOn? order line).toList.toArray).size ≤ n := by omega
      obtain ⟨taken, left, r', rfl, heof', hbetween, htaken, hleft, hread⟩ :=
        ih hbehind hlater heof hroom'
      rw [hsize] at htaken hleft
      refine ⟨line :: taken, left, r', rfl, heof', ?_, ?_, ?_, ?_⟩
      · rwa [List.append_assoc] at hbetween
      · rw [eventsOn_cons, eventsOn_cons, List.take_append, List.take_of_length_le (by omega),
          Nat.sub_sub]
        exact congrArg _ htaken
      · intro hlt
        rw [eventsOn_cons, List.length_append] at hlt
        exact hleft (by omega)
      · rw [hgo, hread, eventsOn_cons, Array.append_assoc,
          List.append_toArray (eventOn? order line).toList]

/-- A call for no more events than sound lines give returns them, and goes no further. -/
theorem readEvents_of_enough (h : r.Between order passed (front ++ back))
    (hsound : ∀ line ∈ front, IsSound order line) (heof : r.eof = false)
    (henough : n ≤ (eventsOn order front).length) :
    ∃ taken left r', front = taken ++ left ∧
      r.readEvents n = ⟨r', .ok ((eventsOn order front).take n)⟩ ∧ r'.eof = false ∧
      r'.Between order (passed ++ taken) (left ++ back) ∧
      eventsOn order taken = (eventsOn order front).take n := by
  have hnone : (#[] : Array Event).size ≤ n := Nat.zero_le n
  obtain ⟨taken, left, r', rfl, heof', hbetween, htaken, -, hread⟩ :=
    h.readInto hsound heof hnone
  have hcount : n ≤ (eventsOn order taken).toArray.size := by
    rw [List.size_toArray, htaken, List.length_take]
    exact Nat.le_min.2 ⟨Nat.le_refl n, henough⟩
  refine ⟨taken, left, r', rfl, ?_, heof', hbetween, htaken⟩
  rw [readEvents, hread, Array.empty_append, readInto_of_done (.inl hcount)]
  exact congrArg (fun es => Step.mk r' (.ok es)) htaken

/-- A call for more events than sound lines give goes on behind them. -/
theorem readEvents_of_few (h : r.Between order passed (front ++ back))
    (hsound : ∀ line ∈ front, IsSound order line) (heof : r.eof = false)
    (hfew : (eventsOn order front).length < n) :
    ∃ r', r'.eof = false ∧ r'.Between order (passed ++ front) back ∧
      (eventsOn order front).toArray.size < n ∧
      r.readEvents n = TableReader.readInto n r' (eventsOn order front).toArray := by
  have hnone : (#[] : Array Event).size ≤ n := Nat.zero_le n
  obtain ⟨taken, left, r', rfl, heof', hbetween, -, hleft, hread⟩ :=
    h.readInto hsound heof hnone
  obtain rfl := hleft (by simpa using hfew)
  rw [List.append_nil]
  refine ⟨r', heof', hbetween, by simpa using hfew, ?_⟩
  rw [readEvents, hread, Array.empty_append]

/-- A call that meets a record which cannot be taken fails with its line, and the reader is behind
this line. -/
theorem readEvents_of_error (h : r.Between order passed (front ++ line :: back))
    (hsound : ∀ line ∈ front, IsSound order line) (hrecord : isRecord line = true)
    {cause : RecordError} (hcause : parseRecord order (Text.trim line) = .error cause)
    (heof : r.eof = false) (hfew : (eventsOn order front).length < n) :
    ∃ r', r.readEvents n = ⟨r', .error (.record (passed.length + front.length + 1) cause)⟩ ∧
      r'.eof = false ∧ r'.Between order (passed ++ front ++ [line]) back := by
  obtain ⟨r', heof', hbetween, hroom, hread⟩ := h.readEvents_of_few hsound heof hfew
  obtain ⟨source, htake, hbehind⟩ := hbetween.take
  refine ⟨r'.behind source line, ?_, heof', hbehind⟩
  rw [hread, readInto_eq hroom heof', htake, Taken.of_refused hrecord hcause, List.length_append]

/-- A call for more events than there are returns them all and meets the end. -/
theorem readEvents_of_end (h : r.Between order passed ahead)
    (hsound : ∀ line ∈ ahead, IsSound order line) (heof : r.eof = false)
    (hfew : (eventsOn order ahead).length < n) :
    ∃ r', r.readEvents n = ⟨r', .ok (eventsOn order ahead)⟩ ∧ r'.eof = true ∧
      r'.Between order (passed ++ ahead) [] := by
  rw [← List.append_nil ahead] at h
  obtain ⟨r', heof', hbetween, hroom, hread⟩ := h.readEvents_of_few hsound heof hfew
  obtain ⟨source, htake, hend⟩ := hbetween.take_of_end
  refine ⟨{ r' with source, eof := true }, ?_, rfl, hend⟩
  rw [hread, readInto_eq hroom heof', htake]

/-! ### Any calls -/

/-- A call returns the next events of sound lines. If there is anything else behind them, it may not
ask for more than they give. -/
theorem readEvents_of_sound (h : r.Between order passed (front ++ back))
    (hsound : ∀ line ∈ front, IsSound order line)
    (hback : back = [] ∨ n ≤ (eventsOn order front).length) :
    ∃ taken left r', front = taken ++ left ∧
      r.readEvents n = ⟨r', .ok ((eventsOn order front).take n)⟩ ∧
      (r'.eof = true ↔ r.eof = true ∨ (eventsOn order front).length < n) ∧
      r'.Between order (passed ++ taken) (left ++ back) ∧
      eventsOn order taken = (eventsOn order front).take n := by
  cases heof : r.eof with
  | true =>
    obtain ⟨rfl, rfl⟩ := List.append_eq_nil_iff.1 (h.ended heof)
    refine ⟨[], [], r, rfl, ?_, by simp [heof], ?_, by simp⟩
    · rw [readEvents, readInto_of_done (.inr heof)]
      simp
    · rwa [List.append_nil]
  | false =>
    rcases Nat.lt_or_ge (eventsOn order front).length n with hfew | henough
    · obtain rfl := hback.resolve_right (Nat.not_le.2 hfew)
      rw [List.append_nil] at h
      obtain ⟨r', hread, heof', hbetween⟩ := h.readEvents_of_end hsound heof hfew
      have hall := List.take_of_length_le (Nat.le_of_lt hfew)
      refine ⟨front, [], r', (List.append_nil _).symm, ?_, by simp [heof', hfew], hbetween,
        hall.symm⟩
      rw [hread, hall]
    · obtain ⟨taken, left, r', rfl, hread, heof', hbetween, htaken⟩ :=
        h.readEvents_of_enough hsound heof henough
      exact ⟨taken, left, r', rfl, hread, by simpa [heof'] using henough, hbetween, htaken⟩

/-- Calls return the events of sound lines part by part, and have met the end once more has been
asked for than there is. -/
theorem results_of_sound (h : r.Between order passed (front ++ back)) (sizes : List Nat)
    (hsound : ∀ line ∈ front, IsSound order line)
    (hback : back = [] ∨ sizes.sum ≤ (eventsOn order front).length) :
    r.results sizes = (sizes.splitLengths (eventsOn order front)).map .ok ∧
      ((r.afterCalls sizes).eof = true ↔
        r.eof = true ∨ (eventsOn order front).length < sizes.sum) ∧
      ∃ taken left, front = taken ++ left ∧
        (r.afterCalls sizes).Between order (passed ++ taken) (left ++ back) ∧
        eventsOn order taken = (eventsOn order front).take sizes.sum := by
  induction sizes generalizing r passed front with
  | nil =>
    refine ⟨rfl, by simp [afterCalls], [], front, rfl, ?_, rfl⟩
    rwa [List.append_nil]
  | cons n sizes ih =>
    rw [List.sum_cons] at hback
    obtain ⟨taken, left, r', rfl, hread, heof, hbetween, htaken⟩ :=
      h.readEvents_of_sound hsound (hback.imp_right Nat.le_of_add_right_le)
    have hleft := eventsOn_eq_drop htaken
    have hback' : back = [] ∨ sizes.sum ≤ (eventsOn order left).length := by
      rw [hleft, List.length_drop]
      exact hback.imp_right Nat.le_sub_of_add_le'
    obtain ⟨hresults, heof', taken', left', rfl, hbetween', htaken'⟩ :=
      ih hbetween (fun _ hline => hsound _ (List.mem_append_right _ hline)) hback'
    rw [results, afterCalls, hread]
    refine ⟨?_, ?_, taken ++ taken', left', (List.append_assoc _ _ _).symm, ?_, ?_⟩
    · rw [List.splitLengths_cons, List.map_cons, hresults, hleft]
    · rw [heof', heof, hleft, List.length_drop, List.sum_cons, or_assoc]
      exact or_congr_right (by omega)
    · rwa [List.append_assoc] at hbetween'
    · rw [eventsOn_append, htaken, htaken', hleft, List.sum_cons, ← List.take_add]

/-- Where nothing else is behind sound lines, any call returns the next of their events, and meets
the end if it returns fewer than it asks for. -/
theorem readEvents_afterCalls (h : r.Between order passed ahead) (sizes : List Nat) (n : Nat)
    (hsound : ∀ line ∈ ahead, IsSound order line) :
    let call := (r.afterCalls sizes).readEvents n
    call.result = .ok (((eventsOn order ahead).drop sizes.sum).take n) ∧
      ((eventsOn order ahead).length < sizes.sum + n →
        call.reader.source.content = [] ∧ call.reader.eof = true) := by
  rw [← List.append_nil ahead] at h
  obtain ⟨-, heof, taken, left, rfl, hbetween, htaken⟩ :=
    h.results_of_sound sizes hsound (.inl rfl)
  obtain ⟨taken', left', r', rfl, hread, heof', hbetween', -⟩ :=
    hbetween.readEvents_of_sound (fun _ hline => hsound _ (List.mem_append_right _ hline))
      (.inl rfl)
  intro call
  have hcall : call = _ := hread
  have hleft := eventsOn_eq_drop htaken
  rw [hcall, ← hleft]
  refine ⟨rfl, ?_⟩
  intro hfew
  have hended : r'.eof = true := by
    rw [heof', heof, hleft, List.length_drop]
    omega
  refine ⟨?_, hended⟩
  rw [hbetween'.content, hbetween'.ended hended]
  rfl

end Between

end TableReader

open Csv TableReader

/-- Parts one behind the other are the beginning that they have been taken from. -/
theorem flatten_splitLengths_eq_take {α : Type} (sizes : List Nat) (as : List α) :
    (sizes.splitLengths as).flatten = as.take sizes.sum := by
  induction sizes generalizing as with
  | nil => rfl
  | cons n sizes ih =>
    rw [List.splitLengths_cons, List.flatten_cons, ih, List.sum_cons, List.take_add]

/-- Calls return the events of a text one behind the other, up to the first record that cannot be
taken. The call that meets this one fails with the number of its line, and the next call goes on
behind it. -/
theorem table_read_in_parts {source : Source} {text : List Char} (order : FieldOrder)
    (hsteady : source.IsSteady) (hcontent : source.content = Utf8.encode text) :
    let start : TableReader := { source, order }
    ((∀ line ∈ Text.lines text, IsSound order line) → ∀ sizes,
      let events := eventsOn order (Text.lines text)
      start.results sizes = (sizes.splitLengths events).map .ok ∧
        (sizes.splitLengths events).flatten = events.take sizes.sum ∧
        ∀ n es, ((start.afterCalls sizes).readEvents n).result = .ok es → es.length < n →
          let behind := ((start.afterCalls sizes).readEvents n).reader
          behind.source.content = [] ∧ behind.eof = true) ∧
    ∀ front bad back cause, Text.lines text = front ++ bad :: back →
      (∀ line ∈ front, IsSound order line) → isRecord bad = true →
      parseRecord order (Text.trim bad) = .error cause → ∀ sizes,
      let events := eventsOn order front
      sizes.sum ≤ events.length →
      start.results sizes = (sizes.splitLengths events).map .ok ∧
        (sizes.splitLengths events).flatten = events.take sizes.sum ∧
        ∀ n, events.length < sizes.sum + n →
          let call := (start.afterCalls sizes).readEvents n
          call.result = .error (.record (front.length + 1) cause) ∧
            call.reader.Between order (front ++ [bad]) back ∧ call.reader.eof = false ∧
            ∀ next rest m, back = next ++ rest → (∀ line ∈ next, IsSound order line) →
              rest = [] ∨ m ≤ (eventsOn order next).length →
              (call.reader.readEvents m).result = .ok ((eventsOn order next).take m) := by
  intro start
  have hstart : start.Between order [] (Text.lines text) := between_start order hsteady hcontent
  constructor
  · intro hsound sizes
    dsimp only
    have hwhole := hstart
    rw [← List.append_nil (Text.lines text)] at hwhole
    obtain ⟨hresults, -⟩ := hwhole.results_of_sound sizes hsound (.inl rfl)
    refine ⟨hresults, flatten_splitLengths_eq_take _ _, ?_⟩
    intro n es hes hfew
    obtain ⟨hresult, hended⟩ := hstart.readEvents_afterCalls sizes n hsound
    cases hresult.symm.trans hes
    rw [List.length_take, List.length_drop] at hfew
    exact hended (by omega)
  · intro front bad back cause hlines hsound hrecord hcause sizes
    dsimp only
    intro henough
    rw [hlines] at hstart
    obtain ⟨hresults, heof, taken, left, rfl, hbetween, htaken⟩ :=
      hstart.results_of_sound sizes hsound (.inr henough)
    refine ⟨hresults, flatten_splitLengths_eq_take _ _, ?_⟩
    intro n hmore
    have hopen : (start.afterCalls sizes).eof = false := by
      rw [← Bool.not_eq_true, heof, not_or]
      exact ⟨Bool.false_ne_true, Nat.not_lt.2 henough⟩
    have hfew : (eventsOn order left).length < n := by
      rw [eventsOn_eq_drop htaken, List.length_drop]
      exact Nat.sub_lt_left_of_lt_add henough hmore
    obtain ⟨r', hread, heof', hbetween'⟩ :=
      hbetween.readEvents_of_error (fun _ hline => hsound _ (List.mem_append_right _ hline)) hrecord
        hcause hopen hfew
    rw [List.nil_append] at hread hbetween'
    rw [hread]
    refine ⟨by rw [List.length_append], hbetween', heof', ?_⟩
    rintro next rest m rfl hnext hrest
    obtain ⟨_, _, _, -, hread', -⟩ := hbetween'.readEvents_of_sound hnext hrest
    rw [hread']

/-- Behind a comment, an empty line, a record and a heading, the record in the fifth line is too
short; the next call reads the one behind it. A text without such a record is read to its end. -/
theorem table_read_in_parts_of_short_record :
    let whole : Source := [.bytes (Utf8.encode "1,2,3,1\n% x\n4,5,6,0".toList)]
    let source : Source := [.bytes (Utf8.encode "% é\r\n\n 1,2,3,1\nt".toList), .interruption,
      .bytes (Utf8.encode ",x\n4,5\r\n6,7,8,0".toList)]
    let start : TableReader := { source, order := .txyp }
    TableReader.results { source := whole, order := .txyp } [1, 3] =
        [.ok [⟨1, 2, 3, 1⟩], .ok [⟨4, 5, 6, 0⟩]] ∧
      start.results [1] = [.ok [⟨1, 2, 3, 1⟩]] ∧
      let call := (start.afterCalls [1]).readEvents 1
      call.result = .error (.record 5 (.columnCount 2)) ∧
        (call.reader.readEvents 2).result = .ok [⟨6, 7, 8, 0⟩] := by
  intro whole source start
  have hplain : whole.IsSteady := by simp [whole, Source.IsSteady]
  have hsteady : source.IsSteady := by simp [source, Source.IsSteady]
  have hcontent : source.content =
      Utf8.encode "% é\r\n\n 1,2,3,1\nt,x\n4,5\r\n6,7,8,0".toList := by decide +kernel
  obtain ⟨hall, -⟩ :=
    (table_read_in_parts .txyp hplain (List.append_nil _)).1 (by decide +kernel) [1, 3]
  obtain ⟨hresults, -, hcall⟩ := (table_read_in_parts .txyp hsteady hcontent).2
    ["% é\r\n".toList, "\n".toList, " 1,2,3,1\n".toList, "t,x\n".toList] "4,5\r\n".toList
    ["6,7,8,0".toList] (.columnCount 2) (by decide +kernel) (by decide +kernel) (by decide +kernel)
    (by decide +kernel) [1] (by decide +kernel)
  obtain ⟨hresult, -, -, hnext⟩ := hcall 1 (by decide +kernel)
  refine ⟨hall.trans (by decide +kernel), hresults, hresult, ?_⟩
  exact hnext ["6,7,8,0".toList] [] 2 rfl (by decide +kernel) (.inl rfl)

end EventCamera
