import EventCamera.Proofs.Bytes.Source
import EventCamera.Proofs.Csv.Stepwise
import EventCamera.Proofs.Dividing

/-!
# Tables from faulty sources

A source may fail within a line, and a line may not be text. Either ends the call that meets it,
and the next call goes on from there. What has been read of a line is lost in a failure, so that
the rest of it is then taken for a line of its own. A line that is not text is passed without being
counted. Apart from that, the calls keep to the lines of the source, in their order and each at most
once.

## Main definitions

* `Moment`, `PhysicalLine` — what a reader meets in a source, and the lines that this makes up
* `PhysicalLine.bytes`, `PhysicalLine.kept` — the bytes of a line, and those that failures leave
* `TableReader.Finding`, `TableReader.findingsOn` — what calls can return of some lines
* `TableReader.Finds` — what a reader can still return

## Main results

* `TableReader.Finds.take`, `TableReader.Finds.readInto` — a line, or a call, returns what is next
* `faulty_table_read_by_lines` — what any calls return, from any source
-/

namespace EventCamera

/-! ### Physical lines -/

/-- What a reader meets in a source. Interruptions are not among it, as no line shows them. -/
inductive Moment where
  | byte (b : UInt8)
  | failure
  | pause
deriving DecidableEq

namespace Moment

/-- A line ends behind its line feed, or in a pause, which its reader takes for the end. -/
def endsLine : Moment → Bool
  | byte b => b == Source.lineFeed
  | failure => false
  | pause => true

def byte? : Moment → Option UInt8
  | byte b => some b
  | failure | pause => none

/-- The bytes that are kept of a line behind a moment of it, which has kept those given so far. -/
def keep (kept : List UInt8) : Moment → List UInt8
  | byte b => kept ++ [b]
  | failure => []
  | pause => kept

end Moment

/-- A line of a source, with all that is met on it. -/
abbrev PhysicalLine := List Moment

namespace PhysicalLine

/-- All bytes of a line. -/
def bytes (line : PhysicalLine) : List UInt8 := line.filterMap Moment.byte?

/-- The bytes of a line behind the last failure that is met on it. -/
def kept (line : PhysicalLine) : List UInt8 := line.foldl Moment.keep []

/-- The text of a line, as far as it is kept. -/
def text? (line : PhysicalLine) : Option (List Char) := Utf8.decode? line.kept

theorem foldl_keep_map_byte (kept bs : List UInt8) :
    (bs.map Moment.byte).foldl Moment.keep kept = kept ++ bs := by
  induction bs generalizing kept with
  | nil => exact (List.append_nil kept).symm
  | cons b bs ih =>
    rw [List.map_cons, List.foldl_cons, ih]
    exact List.append_assoc kept [b] bs

/-- Where nothing has been kept, nothing is kept but what follows. -/
theorem kept_append {front : PhysicalLine} (h : front.kept = []) (more : PhysicalLine) :
    PhysicalLine.kept (front ++ more) = PhysicalLine.kept more := by
  rw [kept, List.foldl_append]
  exact congrArg (more.foldl Moment.keep) h

end PhysicalLine

namespace Source

/-- What a reader meets in a source. -/
def moments : Source → List Moment
  | [] => []
  | .bytes bs :: src => bs.map .byte ++ moments src
  | .failure _ :: src => .failure :: moments src
  | .interruption :: src => moments src
  | .pause :: src => .pause :: moments src

/-- The lines of a source. -/
def physicalLines (src : Source) : List PhysicalLine := divideBehind Moment.endsLine src.moments

theorem endsLine_of_mem_map {bs : List UInt8} (h : lineFeed ∉ bs) :
    ∀ m ∈ bs.map Moment.byte, m.endsLine = false := by
  intro m hm
  obtain ⟨b, hb, rfl⟩ := List.mem_map.1 hm
  exact beq_eq_false_iff_ne.2 (ne_of_mem_of_not_mem hb h)

/-- Reading a line goes up to a failure, up to what ends the line, or up to the end of the source,
and what is kept behind the bytes `taken` is read. -/
theorem moments_of_takeLine {taken : Array UInt8} {src rest : Source}
    {result : Except String (List UInt8)} (h : src.takeLine taken = (result, rest)) :
    ∃ front : PhysicalLine, (∀ m ∈ front, m.endsLine = false) ∧
      ((∃ message, result = .error message ∧ src.moments = front ++ .failure :: rest.moments) ∨
        (∃ m, m.endsLine = true ∧ src.moments = front ++ m :: rest.moments ∧
          result = .ok ((front ++ [m]).foldl Moment.keep taken.toList)) ∨
        src.moments = front ∧ rest.moments = [] ∧
          result = .ok (front.foldl Moment.keep taken.toList)) := by
  fun_induction takeLine taken src with
  | case1 taken =>
    cases h
    exact ⟨[], List.forall_mem_nil _, .inr (.inr ⟨rfl, rfl, rfl⟩)⟩
  | case2 taken bs src hb ih =>
    obtain ⟨front, hfront, hends⟩ := ih h
    have hkeep (line : PhysicalLine) : line.foldl Moment.keep (taken ++ bs).toList =
        (bs.map Moment.byte ++ line).foldl Moment.keep taken.toList := by
      rw [List.foldl_append, PhysicalLine.foldl_keep_map_byte, Array.toList_appendList]
    refine ⟨bs.map .byte ++ front, ?_, ?_⟩
    · intro m hm
      exact (List.mem_append.1 hm).elim
        (endsLine_of_mem_map (feed_not_mem_of_dropWhile hb) m) (hfront m)
    · simpa only [moments, List.append_assoc, List.append_cancel_left_eq, hkeep] using hends
  | case3 taken bs src b after hb =>
    cases h
    obtain ⟨front, rfl, hbefore, rfl, hfeed⟩ := cut_of_dropWhile hb
    refine ⟨front.map .byte, endsLine_of_mem_map hfeed, .inr (.inl ⟨.byte lineFeed, rfl, ?_, ?_⟩)⟩
    · rw [moments, moments, List.map_append, List.append_assoc]
      rfl
    · rw [List.foldl_append, PhysicalLine.foldl_keep_map_byte, hbefore]
      simp [Moment.keep]
  | case4 taken message src =>
    cases h
    exact ⟨[], List.forall_mem_nil _, .inl ⟨message, rfl, rfl⟩⟩
  | case5 taken src ih => exact ih h
  | case6 taken src =>
    cases h
    exact ⟨[], List.forall_mem_nil _, .inr (.inl ⟨.pause, rfl, rfl, rfl⟩)⟩

theorem moments_of_readLine {src rest : Source} {result : Except String (List UInt8)}
    (h : src.readLine = (result, rest)) :
    ∃ front : PhysicalLine, (∀ m ∈ front, m.endsLine = false) ∧
      ((∃ message, result = .error message ∧ src.moments = front ++ .failure :: rest.moments) ∨
        (∃ m, m.endsLine = true ∧ src.moments = front ++ m :: rest.moments ∧
          result = .ok (PhysicalLine.kept (front ++ [m]))) ∨
        src.moments = front ∧ rest.moments = [] ∧ result = .ok front.kept) :=
  moments_of_takeLine h

end Source

namespace TableReader

open Csv

/-- What a call can return of a line: the event on it, or why there is none, with the number that
the line has. -/
inductive Finding where
  | event (e : Event)
  | refusal (number : Nat) (cause : RecordError)
deriving DecidableEq

/-- The event that has been found, if it is one. -/
def Finding.event? : Finding → Option Event
  | .event e => some e
  | .refusal _ _ => none

/-- What is found in an error. -/
def Finding.ofError : TableError → List Finding
  | .record number cause => [.refusal number cause]
  | .io _ | .fieldOrder _ => []

/-- What is found on the next line. -/
def Taken.findings : Taken → List Finding
  | .ended | .passed => []
  | .refused e => Finding.ofError e
  | .event e => [.event e]

/-- What is found in what a call returns. -/
def Finding.ofResult : Except TableError (List Event) → List Finding
  | .ok es => es.map .event
  | .error e => Finding.ofError e

/-- What can be found on some lines, if `number` lines have been counted in front of them. -/
def findingsOn (order : FieldOrder) (number : Nat) : List PhysicalLine → List Finding
  | [] => []
  | line :: lines =>
    match line.text? with
    | none => findingsOn order number lines
    | some text =>
      (Taken.of order (number + 1) text).findings ++ findingsOn order (number + 1) lines

/-- The events that calls have returned. -/
def returned (results : List (Except TableError (List Event))) : List Event :=
  results.flatMap fun result => result.toOption.getD []

/-- A reader can still return these findings. It may be within a line, of which it has lost all that
it has read. -/
def Finds (r : TableReader) (rest : List Finding) : Prop :=
  r.eof = false → ∃ lost : PhysicalLine, (∀ m ∈ lost, m.endsLine = false) ∧ lost.kept = [] ∧
    rest = findingsOn r.order r.lineNumber (divideBehind Moment.endsLine (lost ++ r.source.moments))

variable {r : TableReader} {rest : List Finding} {n number k : Nat} {order : FieldOrder}
  {line : PhysicalLine} {lines : List PhysicalLine} {cause : RecordError}

/-! ### What can be found -/

theorem filterMap_event?_ofResult (result : Except TableError (List Event)) :
    (Finding.ofResult result).filterMap Finding.event? = result.toOption.getD [] := by
  cases result with
  | ok es =>
    rw [Finding.ofResult, List.filterMap_map]
    exact List.filterMap_some
  | error e => cases e <;> rfl

theorem filterMap_event?_flatMap (results : List (Except TableError (List Event))) :
    (results.flatMap Finding.ofResult).filterMap Finding.event? = returned results := by
  rw [List.filterMap_flatMap, returned]
  congr 1
  funext result
  exact filterMap_event?_ofResult result

theorem mem_flatMap_ofResult {results : List (Except TableError (List Event))}
    (h : .error (.record number cause) ∈ results) :
    .refusal number cause ∈ results.flatMap Finding.ofResult :=
  List.mem_flatMap_of_mem h (List.mem_singleton.2 rfl)

/-- The event that can be found on a line is the event on it. -/
theorem filterMap_event?_findings (order : FieldOrder) (number : Nat) (text : List Char) :
    (Taken.of order number text).findings.filterMap Finding.event? =
      (eventOn? order text).toList := by
  cases hrecord : isRecord text with
  | false =>
    rw [Taken.of_passed hrecord, eventOn?_of_passed hrecord]
    rfl
  | true =>
    cases hparse : parseRecord order (Text.trim text) with
    | error cause =>
      rw [Taken.of_refused hrecord hparse, eventOn?, if_pos hrecord, hparse]
      rfl
    | ok e =>
      rw [Taken.of_event hrecord hparse, eventOn?_of_event hrecord hparse]
      rfl

/-- The failure that can be found on a line is that of its record, with the number of the line. -/
theorem mem_findings {text : List Char}
    (h : .refusal number cause ∈ (Taken.of order k text).findings) :
    number = k ∧ isRecord text = true ∧ parseRecord order (Text.trim text) = .error cause := by
  cases hrecord : isRecord text with
  | false =>
    rw [Taken.of_passed hrecord] at h
    cases h
  | true =>
    cases hparse : parseRecord order (Text.trim text) with
    | error cause' =>
      rw [Taken.of_refused hrecord hparse] at h
      cases List.mem_singleton.1 h
      exact ⟨rfl, rfl, rfl⟩
    | ok e =>
      rw [Taken.of_event hrecord hparse] at h
      cases List.mem_singleton.1 h

/-- The events that can be found are those of the lines that are text as they are kept. -/
theorem filterMap_event?_findingsOn (order : FieldOrder) (number : Nat)
    (lines : List PhysicalLine) :
    (findingsOn order number lines).filterMap Finding.event? =
      lines.filterMap fun line => line.text?.bind (eventOn? order) := by
  induction lines generalizing number with
  | nil => rfl
  | cons line lines ih =>
    rw [findingsOn, List.filterMap_cons]
    cases htext : line.text? with
    | none => exact ih number
    | some text =>
      dsimp only
      rw [List.filterMap_append, ih, filterMap_event?_findings, Option.bind_some]
      cases eventOn? order text <;> rfl

/-- A failure that can be found is that of a record, with its number among the lines that are text
as they are kept. -/
theorem mem_findingsOn (h : .refusal number cause ∈ findingsOn order k lines) :
    ∃ before line behind text, lines = before ++ line :: behind ∧ line.text? = some text ∧
      isRecord text = true ∧ parseRecord order (Text.trim text) = .error cause ∧
      number = k + before.countP (·.text?.isSome) + 1 := by
  induction lines generalizing k with
  | nil => cases h
  | cons line lines ih =>
    rw [findingsOn] at h
    cases htext : line.text? with
    | none =>
      rw [htext] at h
      obtain ⟨before, line', behind, text', rfl, htext', hfound⟩ := ih h
      have hcount : (line :: before).countP (·.text?.isSome) = before.countP (·.text?.isSome) :=
        List.countP_cons_of_neg (by simp [htext])
      refine ⟨line :: before, line', behind, text', rfl, htext', ?_⟩
      rwa [hcount]
    | some text =>
      rw [htext] at h
      rcases List.mem_append.1 h with hfirst | hlater
      · obtain ⟨rfl, hrecord, hcause⟩ := mem_findings hfirst
        exact ⟨[], line, lines, text, rfl, htext, hrecord, hcause, rfl⟩
      · obtain ⟨before, line', behind, text', rfl, htext', hrecord, hcause, hnumber⟩ := ih hlater
        have hcount : (line :: before).countP (·.text?.isSome) =
            before.countP (·.text?.isSome) + 1 :=
          List.countP_cons_of_pos (by simp [htext])
        refine ⟨line :: before, line', behind, text', rfl, htext', hrecord, hcause, ?_⟩
        rw [hnumber, hcount]
        omega

/-! ### What is found -/

theorem finds_start (source : Source) (order : FieldOrder) :
    Finds { source, order } (findingsOn order 0 source.physicalLines) := by
  intro _
  exact ⟨[], nofun, rfl, rfl⟩

namespace Finds

/-- What is kept of the next line is taken as a line. -/
theorem take_of_line {source : Source} {line : PhysicalLine} {lines : List PhysicalLine}
    (hread : r.source.readLine = (.ok line.kept, source)) (hne : line.kept ≠ [])
    (hlines : lines = divideBehind Moment.endsLine source.moments) :
    ∃ rest', findingsOn r.order r.lineNumber (line :: lines) = r.take.1.findings ++ rest' ∧
      r.take.2.Finds rest' := by
  subst hlines
  rw [TableReader.take_of_line hread hne, findingsOn, PhysicalLine.text?]
  cases Utf8.decode? line.kept with
  | none => exact ⟨_, rfl, fun _ => ⟨[], nofun, rfl, rfl⟩⟩
  | some text => exact ⟨_, rfl, fun _ => ⟨[], nofun, rfl, rfl⟩⟩

/-- The next line comes to what can be found next. -/
theorem take (h : r.Finds rest) (heof : r.eof = false) :
    ∃ rest', rest = r.take.1.findings ++ rest' ∧ r.take.2.Finds rest' := by
  obtain ⟨lost, hlost, hkept, rfl⟩ := h heof
  obtain ⟨result, source, hread⟩ : ∃ result source, r.source.readLine = (result, source) :=
    ⟨_, _, rfl⟩
  obtain ⟨front, hfront, hcases⟩ := Source.moments_of_readLine hread
  have hopen : ∀ m ∈ lost ++ front, m.endsLine = false := by
    intro m hm
    exact (List.mem_append.1 hm).elim (hlost m) (hfront m)
  rcases hcases with ⟨message, rfl, hmoments⟩ | ⟨m, hm, hmoments, rfl⟩ | ⟨hmoments, hend, rfl⟩
  · -- The reader stays within the line.
    rw [take_of_error hread, hmoments]
    refine ⟨_, rfl, fun _ => ⟨lost ++ front ++ [.failure], ?_, ?_, ?_⟩⟩
    · intro m hm
      rcases List.mem_append.1 hm with hm | hm
      · exact hopen m hm
      · rw [List.mem_singleton.1 hm]
        rfl
    · rw [PhysicalLine.kept, List.foldl_append]
      rfl
    · simp only [List.append_assoc, List.singleton_append]
  · -- The line ends.
    rw [hmoments, ← List.append_assoc, divideBehind_append_cons hopen hm]
    by_cases hnone : PhysicalLine.kept (front ++ [m]) = []
    · rw [hnone] at hread
      rw [take_of_nil hread]
      exact ⟨_, rfl, nofun⟩
    · rw [List.append_assoc]
      rw [← PhysicalLine.kept_append hkept] at hread hnone
      exact take_of_line hread hnone rfl
  · -- The source ends.
    rw [hmoments]
    by_cases hnone : front.kept = []
    · rw [hnone] at hread
      rw [take_of_nil hread]
      exact ⟨_, rfl, nofun⟩
    · rw [← PhysicalLine.kept_append hkept] at hread hnone
      have hne : lost ++ front ≠ [] := by
        intro hnil
        rw [hnil] at hnone
        exact hnone rfl
      rw [divideBehind_of_forall hne hopen]
      refine take_of_line hread hnone ?_
      rw [hend, divideBehind_nil]

/-- Reading returns what can be found next, though a failure may lose some of it. -/
theorem readInto (h : r.Finds rest) (events : Array Event) :
    ∃ found rest', rest = found ++ rest' ∧ (readInto n r events).reader.Finds rest' ∧
      (Finding.ofResult (TableReader.readInto n r events).result).Sublist
        (events.toList.map .event ++ found) := by
  -- Each line that is taken leaves less of the source.
  induction hsize : r.source.size using Nat.strong_induction_on generalizing r rest events with
  | _ size ih =>
    by_cases hdone : n ≤ events.size ∨ r.eof = true
    · rw [readInto_of_done hdone]
      exact ⟨[], rest, rfl, h, by simp [Finding.ofResult]⟩
    · obtain ⟨hroom, heof⟩ := not_or.1 hdone
      have hopen : r.eof = false := Bool.eq_false_iff.2 heof
      obtain ⟨rest', rfl, hnext⟩ := h.take hopen
      have hless := size_take_lt (r := r)
      rw [readInto_eq (Nat.not_le.1 hroom) hopen]
      cases htake : r.take with
      | mk taken r' =>
        rw [htake] at hnext hless
        cases taken with
        | ended => exact ⟨[], rest', rfl, hnext, by simp [Finding.ofResult]⟩
        | refused e => exact ⟨Finding.ofError e, rest', rfl, hnext, List.sublist_append_right _ _⟩
        | passed => exact ih _ (hsize ▸ hless nofun) hnext events rfl
        | event e =>
          obtain ⟨found, rest'', rfl, hafter, hsub⟩ :=
            ih _ (hsize ▸ hless nofun) hnext (events.push e) rfl
          refine ⟨.event e :: found, rest'', rfl, hafter, ?_⟩
          rwa [Array.toList_push, List.map_append, List.append_assoc] at hsub

/-- So do any calls, one behind the other. -/
theorem results (h : r.Finds rest) (sizes : List Nat) :
    ((r.results sizes).flatMap Finding.ofResult).Sublist rest := by
  induction sizes generalizing r rest with
  | nil => exact List.nil_sublist _
  | cons n sizes ih =>
    obtain ⟨found, rest', rfl, hnext, hsub⟩ := h.readInto (n := n) #[]
    rw [TableReader.results, List.flatMap_cons]
    exact List.Sublist.append hsub (ih hnext)

end Finds

end TableReader

open Csv TableReader

/-- From any source, calls return events of its lines in their order, and number a record that
cannot be taken by the lines that are text. Only a failure within a line can make a part of it pass
for a line. -/
theorem faulty_table_read_by_lines (source : Source) (order : FieldOrder) (sizes : List Nat) :
    let results := TableReader.results { source, order } sizes
    let lines := source.physicalLines
    (returned results).Sublist (lines.filterMap fun line => line.text?.bind (eventOn? order)) ∧
      (∀ number cause, .error (.record number cause) ∈ results →
        ∃ before line behind text, lines = before ++ line :: behind ∧ line.text? = some text ∧
          isRecord text = true ∧ parseRecord order (Text.trim text) = .error cause ∧
          number = before.countP (fun line => line.text?.isSome) + 1) ∧
      ((∀ line ∈ lines, line.kept = line.bytes) →
        (returned results).Sublist
            (lines.filterMap fun line => (Utf8.decode? line.bytes).bind (eventOn? order)) ∧
          ((∀ line ∈ lines, (Utf8.decode? line.bytes).isSome = true) →
            ∀ number cause, .error (.record number cause) ∈ results →
              ∃ before line behind text, lines = before ++ line :: behind ∧
                Utf8.decode? line.bytes = some text ∧ isRecord text = true ∧
                parseRecord order (Text.trim text) = .error cause ∧
                number = before.length + 1)) := by
  intro results lines
  have hfound : (results.flatMap Finding.ofResult).Sublist (findingsOn order 0 lines) :=
    (finds_start source order).results sizes
  have hevents : (returned results).Sublist
      (lines.filterMap fun line => line.text?.bind (eventOn? order)) := by
    rw [← filterMap_event?_flatMap, ← filterMap_event?_findingsOn order 0]
    exact hfound.filterMap _
  have hnumbers : ∀ number cause, .error (.record number cause) ∈ results →
      ∃ before line behind text, lines = before ++ line :: behind ∧ line.text? = some text ∧
        isRecord text = true ∧ parseRecord order (Text.trim text) = .error cause ∧
        number = before.countP (fun line => line.text?.isSome) + 1 := by
    intro number cause hmem
    have hall := mem_findingsOn (hfound.subset (mem_flatMap_ofResult hmem))
    simpa only [Nat.zero_add] using hall
  refine ⟨hevents, hnumbers, ?_⟩
  intro hkept
  have hwhole : ∀ line ∈ lines, line.text? = Utf8.decode? line.bytes :=
    fun line hline => congrArg Utf8.decode? (hkept line hline)
  constructor
  · rwa [List.filterMap_congr fun line hline => by rw [hwhole line hline]] at hevents
  · intro htexts number cause hmem
    obtain ⟨before, line, behind, text, hlines, htext, hrecord, hcause, hnumber⟩ :=
      hnumbers number cause hmem
    have hcount : before.countP (fun line => line.text?.isSome) = before.length := by
      rw [List.countP_eq_length]
      intro line' hline'
      have hmem' : line' ∈ lines := by
        rw [hlines]
        exact List.mem_append_left _ hline'
      rw [hwhole line' hmem']
      exact htexts line' hmem'
    have hline : line ∈ lines := by
      rw [hlines]
      exact List.mem_append_right _ List.mem_cons_self
    rw [hcount] at hnumber
    rw [hwhole line hline] at htext
    exact ⟨before, line, behind, text, hlines, htext, hrecord, hcause, hnumber⟩

/-- A failure between two lines does no harm. -/
theorem faulty_table_read_by_lines_of_failure_between :
    let source : Source := [.bytes (Utf8.encode "1,2,3,1\n".toList), .failure "disk failure",
      .bytes (Utf8.encode "4,5\n".toList)]
    let results := TableReader.results { source, order := .txyp } [1, 1, 1]
    results =
        [.ok [⟨1, 2, 3, 1⟩], .error (.io "disk failure"), .error (.record 2 (.columnCount 2))] ∧
      (returned results).Sublist (source.physicalLines.filterMap fun line =>
        (Utf8.decode? line.bytes).bind (eventOn? .txyp)) ∧
      ∃ before line behind text, source.physicalLines = before ++ line :: behind ∧
        Utf8.decode? line.bytes = some text ∧ isRecord text = true ∧
        parseRecord .txyp (Text.trim text) = .error (.columnCount 2) ∧ 2 = before.length + 1 := by
  intro source results
  have hresults : results = [.ok [⟨1, 2, 3, 1⟩], .error (.io "disk failure"),
      .error (.record 2 (.columnCount 2))] := by decide +kernel
  obtain ⟨-, -, hlines⟩ := faulty_table_read_by_lines source .txyp [1, 1, 1]
  obtain ⟨hevents, hnumbers⟩ := hlines (by decide +kernel)
  refine ⟨hresults, hevents, ?_⟩
  refine hnumbers (by decide +kernel) 2 (.columnCount 2) ?_
  change _ ∈ results
  rw [hresults]
  decide

/-- Behind a line that is not text, numbers are too small. Behind a failure within a line, the rest
of it is taken for a record. -/
theorem lines_broken_by_faults :
    let uncounted : Source := [.bytes [0xFF, 0x0A], .bytes (Utf8.encode "1,2\n".toList)]
    let broken : Source := [.bytes (Utf8.encode "12".toList), .failure "disk failure",
      .bytes (Utf8.encode "3,4,5,1\n".toList)]
    (uncounted.physicalLines.map PhysicalLine.bytes = [[0xFF, 0x0A], Utf8.encode "1,2\n".toList] ∧
      TableReader.results { source := uncounted, order := .txyp } [1, 1] =
        [.error (.io invalidText), .error (.record 1 (.columnCount 2))]) ∧
    broken.physicalLines.map PhysicalLine.bytes = [Utf8.encode "123,4,5,1\n".toList] ∧
      eventOn? .txyp "123,4,5,1\n".toList = some ⟨123, 4, 5, 1⟩ ∧
      TableReader.results { source := broken, order := .txyp } [1, 1] =
        [.error (.io "disk failure"), .ok [⟨3, 4, 5, 1⟩]] := by
  decide +kernel

end EventCamera
