import EventCamera.Proofs.Dividing
import EventCamera.Proofs.Header.Reading

/-!
# How far a header reaches

The header of any bytes is the run of lines with a percent sign that they start with, cut behind the
first line that ends a header. However a source cuts these bytes, a reader takes these lines and not
a byte more, and what the header says depends on them alone.

## Main definitions

* `Source.lines` — the lines of some bytes
* `Header.linesIn`, `Header.saidLines` — the lines of a header, with and without the one that ends it
* `Header.ofBytes` — the header of some bytes

## Main results

* `Header.readLines_of_isPlain` — what reading takes, and what it comes to
* `header_is_run_of_lines` — the same for a header from its start, wherever its bytes are cut
-/

namespace EventCamera

/-! ### Lines of bytes -/

namespace Source

/-- The lines of some bytes: each goes up to and with its line feed, which only the last may lack. -/
def lines (bs : List UInt8) : List (List UInt8) := bs.splitBy fun b _ => b != lineFeed

/-- A line with its line feed, the only one that it has. -/
def IsLine (line : List UInt8) : Prop :=
  line.getLast? = some lineFeed ∧ lineFeed ∉ line.dropLast

instance (line : List UInt8) : Decidable (IsLine line) := inferInstanceAs (Decidable (_ ∧ _))

@[simp] theorem flatten_lines (bs : List UInt8) : (lines bs).flatten = bs := List.flatten_splitBy _ bs

theorem isLine_concat {front : List UInt8} (h : lineFeed ∉ front) : IsLine (front ++ [lineFeed]) := by
  rw [IsLine, List.dropLast_concat]
  exact ⟨List.getLast?_concat, h⟩

/-- Bytes are divided into lines behind their line feeds. -/
private theorem lines_eq (bs : List UInt8) : lines bs = divideBehind (· == lineFeed) bs := rfl

private theorem not_feed {bs : List UInt8} (hfeed : lineFeed ∉ bs) :
    ∀ b ∈ bs, (b == lineFeed) = false := by
  intro b hb
  rw [beq_eq_false_iff_ne]
  rintro rfl
  exact hfeed hb

theorem lines_of_not_mem {bs : List UInt8} (hne : bs ≠ []) (hfeed : lineFeed ∉ bs) :
    lines bs = [bs] :=
  divideBehind_of_forall hne (not_feed hfeed)

/-- A line goes in front of those behind it. -/
theorem IsLine.lines_append {line : List UInt8} (h : IsLine line) (more : List UInt8) :
    lines (line ++ more) = line :: lines more := by
  obtain ⟨front, b, rfl⟩ := (List.eq_nil_or_concat' line).resolve_left (by
    rintro rfl
    cases h.1)
  obtain ⟨hlast, hfeed⟩ := h
  rw [List.getLast?_concat, Option.some.injEq] at hlast
  rw [List.dropLast_concat] at hfeed
  rw [lines_eq, List.append_assoc, List.singleton_append,
    divideBehind_append_cons (not_feed hfeed) (by rw [hlast]; exact beq_self_eq_true _)]
  rfl

theorem lines_flatten_append {ls : List (List UInt8)} (h : ∀ line ∈ ls, IsLine line)
    (more : List UInt8) : lines (ls.flatten ++ more) = ls ++ lines more := by
  induction ls with
  | nil => rfl
  | cons line ls ih =>
    obtain ⟨hline, hlater⟩ := List.forall_mem_cons.1 h
    rw [List.flatten_cons, List.append_assoc, hline.lines_append, ih hlater, List.cons_append]

/-- The first line is the one that reading takes. -/
theorem lines_of_ne_nil {bs : List UInt8} (hne : bs ≠ []) :
    lines bs = lineOf bs :: lines (afterLine bs) := by
  by_cases hfeed : lineFeed ∈ bs
  · obtain ⟨front, more, rfl, hfront⟩ := List.eq_append_cons_of_mem hfeed
    obtain ⟨hline, hafter⟩ := lineOf_append hfront more
    rw [hline, hafter, ← (isLine_concat hfront).lines_append, List.append_assoc,
      List.singleton_append]
  · obtain ⟨hline, hafter⟩ := lineOf_of_not_mem hfeed
    rw [lines_of_not_mem hne hfeed, hline, hafter]
    rfl

theorem head?_lineOf (bs : List UInt8) : (lineOf bs).head? = bs.head? := by
  cases bs with
  | nil => rfl
  | cons b bs =>
    by_cases hb : b = lineFeed
    · simp [lineOf, hb]
    · simp [lineOf, hb]

theorem lineOf_append_afterLine (bs : List UInt8) : lineOf bs ++ afterLine bs = bs := by
  rw [lineOf, afterLine, List.append_assoc, List.take_append_drop, List.takeWhile_append_dropWhile]

end Source

/-! ### The lines of a header -/

namespace Header

/-- The lines with a percent sign that some bytes start with. -/
def markedLines (bytes : List UInt8) : List (List UInt8) :=
  (Source.lines bytes).takeWhile fun line => line.head? = some percent

/-- The lines of a header in front of the one that ends it. -/
def saidLines (bytes : List UInt8) : List (List UInt8) :=
  (markedLines bytes).takeWhile fun line => lineText line ≠ endLine

/-- The lines of a header, up to and with the first that ends it. -/
def linesIn (bytes : List UInt8) : List (List UInt8) :=
  saidLines bytes ++ ((markedLines bytes).dropWhile fun line => lineText line ≠ endLine).take 1

/-- The header that some bytes start with. -/
def ofBytes (bytes : List UInt8) : Header :=
  (applyLines {} ((saidLines bytes).map lineText)).1.resolve.1

variable {bytes : List UInt8}

theorem markedLines_of_percent (hhead : bytes.head? = some percent) :
    markedLines bytes = Source.lineOf bytes :: markedLines (Source.afterLine bytes) := by
  have hne : bytes ≠ [] := by
    rintro rfl
    cases hhead
  have hline : (Source.lineOf bytes).head? = some percent := (Source.head?_lineOf bytes).trans hhead
  rw [markedLines, Source.lines_of_ne_nil hne, List.takeWhile_cons_of_pos (by simpa using hline)]
  rfl

theorem markedLines_of_other (hhead : bytes.head? ≠ some percent) : markedLines bytes = [] := by
  by_cases hne : bytes = []
  · rw [hne]
    rfl
  · have hline : (Source.lineOf bytes).head? ≠ some percent := by
      rwa [Source.head?_lineOf]
    rw [markedLines, Source.lines_of_ne_nil hne, List.takeWhile_cons_of_neg (by simpa using hline)]

theorem linesIn_of_other (hhead : bytes.head? ≠ some percent) :
    saidLines bytes = [] ∧ linesIn bytes = [] := by
  rw [linesIn, saidLines, markedLines_of_other hhead]
  exact ⟨rfl, rfl⟩

theorem linesIn_of_end (hhead : bytes.head? = some percent)
    (hend : lineText (Source.lineOf bytes) = endLine) :
    saidLines bytes = [] ∧ linesIn bytes = [Source.lineOf bytes] := by
  simp [linesIn, saidLines, markedLines_of_percent hhead, hend]

theorem linesIn_of_line (hhead : bytes.head? = some percent)
    (hend : lineText (Source.lineOf bytes) ≠ endLine) :
    saidLines bytes = Source.lineOf bytes :: saidLines (Source.afterLine bytes) ∧
      linesIn bytes = Source.lineOf bytes :: linesIn (Source.afterLine bytes) := by
  simp [linesIn, saidLines, markedLines_of_percent hhead, hend]

/-- A line behind which a header goes on. -/
def GoesOn (line : List UInt8) : Prop :=
  Source.IsLine line ∧ line.head? = some percent ∧ lineText line ≠ endLine

instance (line : List UInt8) : Decidable (GoesOn line) := inferInstanceAs (Decidable (_ ∧ _))

/-- Lines behind which a header goes on are among its lines, whatever follows. -/
theorem linesIn_of_goesOn {ls : List (List UInt8)} (hls : ∀ line ∈ ls, GoesOn line)
    (more : List UInt8) :
    saidLines (ls.flatten ++ more) = ls ++ saidLines more ∧
      linesIn (ls.flatten ++ more) = ls ++ linesIn more := by
  have hmarked : markedLines (ls.flatten ++ more) = ls ++ markedLines more := by
    rw [markedLines, Source.lines_flatten_append fun line hline => (hls line hline).1,
      List.takeWhile_append_of_pos fun line hline => by simpa using (hls line hline).2.1]
    rfl
  have hgoes : ∀ line ∈ ls, decide (lineText line ≠ endLine) = true := fun line hline => by
    simpa using (hls line hline).2.2
  rw [linesIn, saidLines, hmarked, List.takeWhile_append_of_pos hgoes,
    List.dropWhile_append_of_pos hgoes, List.append_assoc]
  exact ⟨rfl, rfl⟩

/-! ### Reading them -/

/-- Of a plain source, reading takes the lines of the header, and what they say goes behind what has
been read. -/
theorem readLines_of_isPlain (h : Header) (consumed : Nat) (notices : Array Notice) {src : Source}
    {bytes : List UInt8} (hsrc : src.IsPlain) (hcontent : src.content = bytes) :
    ∃ (rest : Source) (ended : Bool),
      rest.IsPlain ∧ bytes = (linesIn bytes).flatten ++ rest.content ∧
        h.readLines consumed notices src =
          (h.applyLines ((saidLines bytes).map lineText)).1.finishRead
            (consumed + (linesIn bytes).flatten.length)
            (notices ++ (h.applyLines ((saidLines bytes).map lineText)).2) rest ended := by
  by_cases hhead : bytes.head? = some percent
  · have hne : bytes ≠ [] := by
      rintro rfl
      cases hhead
    obtain ⟨bs, peeked, next, hpeek, hline, hnext, hmore⟩ :=
      readLine_of_percent hsrc (hcontent ▸ hhead)
    rw [hcontent] at hline hmore
    by_cases hend : lineText (Source.lineOf bytes) = endLine
    · obtain ⟨hsaid, hlines⟩ := linesIn_of_end hhead hend
      rw [readLines_of_end hpeek hline hend, hsaid, hlines]
      refine ⟨next, true, hnext, ?_, ?_⟩
      · rw [hmore, List.flatten_singleton, Source.lineOf_append_afterLine]
      · simp [applyLines]
    · obtain ⟨hsaid, hlines⟩ := linesIn_of_line hhead hend
      obtain ⟨rest, ended, hrest, hbytes, hread⟩ :=
        readLines_of_isPlain (h.applyLine (lineText (Source.lineOf bytes))).1
          (consumed + (Source.lineOf bytes).length)
          (notices ++ (h.applyLine (lineText (Source.lineOf bytes))).2) hnext hmore
      have htext : Text.trimEnd (lineText (Source.lineOf bytes)) =
          lineText (Source.lineOf bytes) := Text.trimEnd_trimEnd _
      refine ⟨rest, ended, hrest, ?_, ?_⟩
      · rw [hlines, List.flatten_cons, List.append_assoc, ← hbytes,
          Source.lineOf_append_afterLine]
      · rw [readLines_of_line hpeek hline hend, hread, hsaid, hlines, List.map_cons,
          applyLines_cons, htext, List.flatten_cons, List.length_append, ← Nat.add_assoc,
          append_append_notices]
  · obtain ⟨bs, peeked, hpeek, hpeeked, hshown⟩ := hsrc.peek
    obtain ⟨hsaid, hlines⟩ := linesIn_of_other hhead
    rw [readLines_of_other hpeek (by rw [hshown, hcontent]; exact hhead), hsaid, hlines]
    refine ⟨peeked, false, hpeeked, ?_, ?_⟩
    · rw [Source.content_of_peek hpeek, hcontent]
      rfl
    · simp [applyLines]
termination_by bytes.length
decreasing_by exact Source.length_afterLine_lt hne

theorem read_of_isPlain {src : Source} (hsrc : src.IsPlain) :
    (read src).result = .ok (ofBytes src.content) ∧
      (read src).consumed = (linesIn src.content).flatten.length ∧
      (read src).source.IsPlain ∧
      src.content = (linesIn src.content).flatten ++ (read src).source.content := by
  obtain ⟨rest, ended, hrest, hbytes, hread⟩ := readLines_of_isPlain {} 0 #[] hsrc rfl
  rw [read, hread]
  exact ⟨rfl, Nat.zero_add _, hrest, hbytes⟩

end Header

/-- Any bytes begin with a header, wherever a source cuts them: the lines that start with a percent
sign, up to the first that ends a header. It is read from these lines alone, and the bytes behind
them are left as they are. -/
theorem header_is_run_of_lines (parts : List (List UInt8)) :
    let bytes := parts.flatten
    let start := Header.read (parts.map .bytes)
    start.result = .ok (Header.ofBytes bytes) ∧
      start.consumed = (Header.linesIn bytes).flatten.length ∧
      start.source.IsPlain ∧ bytes = (Header.linesIn bytes).flatten ++ start.source.content := by
  intro bytes start
  have hread := Header.read_of_isPlain (Source.isPlain_map_bytes parts)
  rw [Source.content_map_bytes] at hread
  exact hread

/-- What starts with a percent sign behind the last line is not taken. -/
example : Header.linesIn (Utf8.encode "%evt\n% end \r\n% end\n".toList) =
    [Utf8.encode "%evt\n".toList, Utf8.encode "% end \r\n".toList] := by decide +kernel

end EventCamera
