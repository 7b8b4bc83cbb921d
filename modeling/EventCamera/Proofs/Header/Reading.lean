import EventCamera.Header.Read
import EventCamera.Proofs.Bytes.Source
import EventCamera.Proofs.Bytes.Utf8
import EventCamera.Proofs.Header.Lines

/-!
# What reading a header takes from a source

A header is read line by line. Here is what each kind of line does to the reading, and that the
bytes that are counted are those taken.

## Main results

* `Header.readLines_of_line`, `Header.readLines_of_end`, `Header.readLines_of_other` — one line
* `Header.readLines_of_fault`, `Header.readLines_of_failure` — a source that fails
* `Header.content_of_read` — the bytes of a header are taken from the front of the source
* `Header.isFaultless_of_read` — a header leaves a faultless source faultless
* `Header.readLines_of_lines`, `Header.readLines_of_lastLine`, `Header.readLines_of_text` — lines of
  a text
* `Header.read_of_render` — a written header is read back
-/

namespace EventCamera.Header

variable {h : Header} {consumed : Nat} {notices : Array Notice} {src rest : Source}

theorem append_append_notices (notices : Array Notice) (a b : List Notice) :
    notices ++ a ++ b = notices ++ (a ++ b) := by
  rw [← Array.toList_inj]
  simp

/-! ### One line -/

theorem lineText_encode (cs : List Char) : lineText (Utf8.encode cs) = Text.trimEnd cs := by
  rw [lineText, Utf8.decodeLossy_encode]

/-- The reading of lines, without the proofs by which it ends. -/
private theorem readLines_eq (h : Header) (consumed : Nat) (notices : Array Notice)
    (src : Source) :
    h.readLines consumed notices src =
      match src.peek with
      | (.error fault, rest) =>
        { result := .error fault.message, consumed, notices := notices.toList, source := rest,
          ended := false }
      | (.ok [], rest) => h.finishRead consumed notices rest false
      | (.ok (b :: _), rest) =>
        if b = percent then
          match rest.readLine with
          | (.error message, rest) =>
            { result := .error message, consumed, notices := notices.toList, source := rest,
              ended := false }
          | (.ok line, rest) =>
            if lineText line = endLine then h.finishRead (consumed + line.length) notices rest true
            else
              (h.applyLine (lineText line)).1.readLines (consumed + line.length)
                (notices ++ (h.applyLine (lineText line)).2) rest
        else h.finishRead consumed notices rest false := by
  rw [readLines]
  split
  · rename_i hpeek
    rw [hpeek]
  · rename_i hpeek
    rw [hpeek]
  · rename_i hpeek
    rw [hpeek]
    dsimp only
    split
    · split
      · rename_i hline
        rw [hline]
      · rename_i hline
        rw [hline]
    · rfl

/-- A line is taken whole, and its text by the header. -/
theorem readLines_of_line {bs line : List UInt8} {peeked : Source}
    (hpeek : src.peek = (.ok (percent :: bs), peeked)) (hline : peeked.readLine = (.ok line, rest))
    (hend : lineText line ≠ endLine) :
    h.readLines consumed notices src =
      (h.applyLine (lineText line)).1.readLines (consumed + line.length)
        (notices ++ (h.applyLine (lineText line)).2) rest := by
  rw [readLines_eq, hpeek]
  dsimp only
  rw [if_pos rfl, hline]
  exact if_neg hend

/-- Reading stops behind the line that says so. -/
theorem readLines_of_end {bs line : List UInt8} {peeked : Source}
    (hpeek : src.peek = (.ok (percent :: bs), peeked)) (hline : peeked.readLine = (.ok line, rest))
    (hend : lineText line = endLine) :
    h.readLines consumed notices src =
      h.finishRead (consumed + line.length) notices rest true := by
  rw [readLines_eq, hpeek]
  dsimp only
  rw [if_pos rfl, hline]
  exact if_pos hend

/-- Reading stops in front of a byte that starts no line. -/
theorem readLines_of_other {bs : List UInt8} (hpeek : src.peek = (.ok bs, rest))
    (hbs : bs.head? ≠ some percent) :
    h.readLines consumed notices src = h.finishRead consumed notices rest false := by
  rw [readLines_eq, hpeek]
  cases bs with
  | nil => rfl
  | cons b bs =>
    refine if_neg ?_
    intro hb
    exact hbs (congrArg some hb)

/-- Reading fails where a source that is asked what comes next does. -/
theorem readLines_of_fault {fault : ReadFault} (hpeek : src.peek = (.error fault, rest)) :
    h.readLines consumed notices src =
      { result := .error fault.message, consumed, notices := notices.toList, source := rest,
        ended := false } := by
  rw [readLines_eq, hpeek]

/-- A line that cannot be taken whole is lost, and the header with it. -/
theorem readLines_of_failure {bs : List UInt8} {peeked : Source} {message : String}
    (hpeek : src.peek = (.ok (percent :: bs), peeked))
    (hline : peeked.readLine = (.error message, rest)) :
    h.readLines consumed notices src =
      { result := .error message, consumed, notices := notices.toList, source := rest,
        ended := false } := by
  rw [readLines_eq, hpeek]
  dsimp only
  rw [if_pos rfl, hline]

/-- The shortest header is the line that ends it. -/
def bare : List UInt8 := [0x25, 0x20, 0x65, 0x6E, 0x64, 0x0A]

theorem read_of_bare (src : Source) :
    read (.bytes bare :: src) = finishRead {} 6 #[] (.bytes [] :: src) true := by
  have hpeek : Source.peek (.bytes bare :: src) =
      (.ok (percent :: [0x20, 0x65, 0x6E, 0x64, 0x0A]), .bytes bare :: src) := rfl
  have hline : Source.readLine (.bytes bare :: src) =
      (.ok (Utf8.encode ['%', ' ', 'e', 'n', 'd', '\n']), .bytes [] :: src) := rfl
  exact readLines_of_end hpeek hline ((lineText_encode _).trans (by decide))

/-! ### Bytes taken -/

/-- The bytes of the lines that are left are taken from the front of the source. -/
theorem content_of_readLines {result : Header}
    (hresult : (h.readLines consumed notices src).result = .ok result) :
    ∃ bs, src.content = bs ++ (h.readLines consumed notices src).source.content ∧
      (h.readLines consumed notices src).consumed = consumed + bs.length := by
  fun_induction readLines h consumed notices src with
  | case1 => cases hresult
  | case2 h consumed notices src rest hpeek =>
    exact ⟨[], (Source.content_of_peek hpeek).symm, rfl⟩
  | case3 => cases hresult
  | case4 h consumed notices src bs peeked line rest hline _ _ _ hpeek =>
    refine ⟨line, ?_, rfl⟩
    rw [← Source.content_of_peek hpeek]
    exact Source.content_of_readLine hline
  | case5 h consumed notices src bs peeked line rest hline _ _ _ h' more _ hpeek ih =>
    obtain ⟨after, hcontent, hcount⟩ := ih hresult
    refine ⟨line ++ after, ?_, ?_⟩
    · rw [← Source.content_of_peek hpeek, Source.content_of_readLine hline, hcontent,
        List.append_assoc]
    · rw [hcount, List.length_append, Nat.add_assoc]
  | case6 h consumed notices src b bs rest hpeek =>
    exact ⟨[], (Source.content_of_peek hpeek).symm, rfl⟩

theorem content_of_read {result : Header} (hresult : (read src).result = .ok result) :
    ∃ bs, src.content = bs ++ (read src).source.content ∧ (read src).consumed = bs.length := by
  obtain ⟨bs, hcontent, hcount⟩ := content_of_readLines hresult
  exact ⟨bs, hcontent, hcount.trans (Nat.zero_add _)⟩

/-! ### Kinds of sources -/

/-- What the header leaves of a faultless source is faultless. -/
theorem isFaultless_of_readLines (hsrc : src.IsFaultless) :
    (h.readLines consumed notices src).source.IsFaultless := by
  fun_induction readLines h consumed notices src with
  | case1 h consumed notices src fault rest hpeek => exact hsrc.of_peek hpeek
  | case2 h consumed notices src rest hpeek => exact hsrc.of_peek hpeek
  | case3 h consumed notices src bs peeked message rest hline hpeek =>
    exact (hsrc.of_peek hpeek).of_readLine hline
  | case4 h consumed notices src bs peeked line rest hline _ _ _ hpeek =>
    exact (hsrc.of_peek hpeek).of_readLine hline
  | case5 h consumed notices src bs peeked line rest hline _ _ _ h' more _ hpeek ih =>
    exact ih ((hsrc.of_peek hpeek).of_readLine hline)
  | case6 h consumed notices src b bs rest hpeek => exact hsrc.of_peek hpeek

theorem isFaultless_of_read (hsrc : src.IsFaultless) : (read src).source.IsFaultless :=
  isFaultless_of_readLines hsrc

/-- A plain source shows where a line starts, and gives the first line of its content. -/
theorem readLine_of_percent (hsrc : src.IsPlain)
    (hhead : src.content.head? = some percent) :
    ∃ bs peeked rest, src.peek = (.ok (percent :: bs), peeked) ∧
      peeked.readLine = (.ok (Source.lineOf src.content), rest) ∧
      rest.IsPlain ∧ rest.content = Source.afterLine src.content := by
  obtain ⟨shown, peeked, hpeek, hpeeked, hshown⟩ := hsrc.peek
  obtain ⟨rest, hread, hrest, hafter⟩ := hpeeked.readLine
  rw [Source.content_of_peek hpeek] at hread hafter
  obtain ⟨bs, rfl⟩ := List.head?_eq_some_iff.1 (hshown.trans hhead)
  exact ⟨bs, peeked, rest, hpeek, hread, hrest, hafter⟩

/-! ### Lines of a text -/

/-- A plain source that shows a line of a text gives that line. -/
private theorem readLine_of_written {line : List Char} {more : List UInt8} (hsrc : src.IsPlain)
    (hhead : line.head? = some '%') (hline : '\n' ∉ line)
    (hcontent : src.content = Utf8.encode (line ++ ['\n']) ++ more) :
    ∃ bs peeked rest, src.peek = (.ok (percent :: bs), peeked) ∧
      peeked.readLine = (.ok (Utf8.encode (line ++ ['\n'])), rest) ∧
      rest.IsPlain ∧ rest.content = more := by
  have hbytes : Utf8.encode (line ++ ['\n']) = Utf8.encode line ++ [Source.lineFeed] := by
    rw [Utf8.encode_append]
    rfl
  -- Only the line feed at the end has a byte like one.
  have hfeed : Source.lineFeed ∉ Utf8.encode line := by
    intro hmem
    exact hline (Utf8.mem_of_mem_encode hmem (by decide))
  have hwhole : src.content = Utf8.encode line ++ Source.lineFeed :: more := by
    rw [hcontent, hbytes, List.append_assoc, List.singleton_append]
  have hpercent : src.content.head? = some percent := by
    obtain ⟨cs, rfl⟩ := List.head?_eq_some_iff.1 hhead
    rw [hwhole]
    rfl
  obtain ⟨bs, peeked, rest, hpeek, hread, hrest, hafter⟩ := readLine_of_percent hsrc hpercent
  obtain ⟨hfront, hback⟩ := Source.lineOf_append hfeed more
  rw [hwhole] at hread hafter
  exact ⟨bs, peeked, rest, hpeek, by rw [hread, hfront, hbytes], hrest, hafter.trans hback⟩

theorem lineText_encode_feed (line : List Char) :
    lineText (Utf8.encode (line ++ ['\n'])) = Text.trimEnd line := by
  rw [lineText_encode]
  exact Text.trimEnd_append_of_blank (List.forall_mem_singleton.2 (by decide))

/-- Lines behind which a header goes on are all taken. -/
theorem readLines_of_lines (h : Header) (consumed : Nat) (notices : Array Notice)
    {lines : List (List Char)} {more : List UInt8} (hsrc : src.IsPlain)
    (hlines : ∀ line ∈ lines, '\n' ∉ line ∧ Continues line)
    (hcontent : src.content = Utf8.encode (textOf lines) ++ more) :
    ∃ rest, rest.IsPlain ∧ rest.content = more ∧
      h.readLines consumed notices src =
        (h.applyLines lines).1.readLines (consumed + (Utf8.encode (textOf lines)).length)
          (notices ++ (h.applyLines lines).2) rest := by
  induction lines generalizing h consumed notices src with
  | nil => exact ⟨src, hsrc, hcontent, by simp [applyLines]⟩
  | cons line lines ih =>
    obtain ⟨⟨hfeed, hhead, hend⟩, hlater⟩ := List.forall_mem_cons.1 hlines
    have hbytes : Utf8.encode (textOf (line :: lines)) =
        Utf8.encode (line ++ ['\n']) ++ Utf8.encode (textOf lines) := by
      rw [textOf_cons, Utf8.encode_append]
    rw [hbytes, List.append_assoc] at hcontent
    obtain ⟨bs, peeked, next, hpeek, hread, hnext, hmore⟩ :=
      readLine_of_written hsrc hhead hfeed hcontent
    rw [← lineText_encode_feed] at hend
    obtain ⟨rest, hrest, hafter, hstep⟩ := ih (h.applyLine (Text.trimEnd line)).1
      (consumed + (Utf8.encode (line ++ ['\n'])).length)
      (notices ++ (h.applyLine (Text.trimEnd line)).2) hnext hlater hmore
    refine ⟨rest, hrest, hafter, ?_⟩
    rw [readLines_of_line hpeek hread hend, lineText_encode_feed, hstep, applyLines_cons, hbytes,
      List.length_append, ← Nat.add_assoc, append_append_notices]

/-- Reading stops behind a line that says so. -/
theorem readLines_of_lastLine {line : List Char} {more : List UInt8} (hsrc : src.IsPlain)
    (hfeed : '\n' ∉ line) (hend : Text.trimEnd line = endLine)
    (hcontent : src.content = Utf8.encode (line ++ ['\n']) ++ more) :
    ∃ rest, rest.IsPlain ∧ rest.content = more ∧
      h.readLines consumed notices src =
        h.finishRead (consumed + (Utf8.encode (line ++ ['\n'])).length) notices rest true := by
  have hhead : line.head? = some '%' := by
    obtain ⟨blanks, hline⟩ := Text.isPrefix_trimEnd line
    rw [← hline, hend]
    rfl
  obtain ⟨bs, peeked, rest, hpeek, hread, hrest, hmore⟩ :=
    readLine_of_written hsrc hhead hfeed hcontent
  exact ⟨rest, hrest, hmore,
    readLines_of_end hpeek hread ((lineText_encode_feed line).trans hend)⟩

/-- Lines behind which a header goes on are read with the line that ends it. -/
theorem readLines_of_text (h : Header) (consumed : Nat) (notices : Array Notice)
    {lines : List (List Char)} {more : List UInt8} (hsrc : src.IsPlain)
    (hlines : ∀ line ∈ lines, '\n' ∉ line ∧ Continues line)
    (hcontent : src.content = Utf8.encode (textOf lines ++ endLine ++ ['\n']) ++ more) :
    ∃ rest, rest.IsPlain ∧ rest.content = more ∧
      h.readLines consumed notices src =
        (h.applyLines lines).1.finishRead
          (consumed + (Utf8.encode (textOf lines ++ endLine ++ ['\n'])).length)
          (notices ++ (h.applyLines lines).2) rest true := by
  have hbytes : Utf8.encode (textOf lines ++ endLine ++ ['\n']) =
      Utf8.encode (textOf lines) ++ Utf8.encode (endLine ++ ['\n']) := by
    rw [List.append_assoc, Utf8.encode_append]
  rw [hbytes, List.append_assoc] at hcontent
  obtain ⟨next, hnext, hlast, hread⟩ := readLines_of_lines h consumed notices hsrc hlines hcontent
  obtain ⟨rest, hrest, hmore, hstop⟩ :=
    readLines_of_lastLine hnext (by decide) (by decide) hlast
  refine ⟨rest, hrest, hmore, ?_⟩
  rw [hread, hstop, hbytes, List.length_append, ← Nat.add_assoc]

/-! ### Written headers -/

/-- A plain source whose next lines were written for a header is read up to the end of the header,
and the lines are all taken. -/
theorem readLines_of_written (h : Header) (consumed : Nat) (notices : Array Notice)
    {lines : List (HeaderKey × List Char)} {more : List UInt8} (hsrc : src.IsPlain)
    (hlines : ∀ line ∈ lines, '\n' ∉ line.2)
    (hcontent : src.content = Utf8.encode (written lines) ++ more) :
    ∃ rest, rest.IsPlain ∧ rest.content = more ∧
      h.readLines consumed notices src =
        (h.takeLines lines).finishRead (consumed + (Utf8.encode (written lines)).length)
          (notices ++ (h.applyLines (lines.map fun line => lineFor line.1 line.2)).2) rest
          true := by
  have hall : ∀ line ∈ lines.map fun line => lineFor line.1 line.2,
      '\n' ∉ line ∧ Continues line := by
    rintro _ hmem
    obtain ⟨line, hline, rfl⟩ := List.mem_map.1 hmem
    exact ⟨feed_not_mem_lineFor (hlines line hline), continues_lineFor line.1 line.2⟩
  rw [written_eq] at hcontent ⊢
  rw [← applyLines_lineFor]
  exact readLines_of_text h consumed notices hsrc hall hcontent

/-- A plain source that starts with a written header is read to the size and the format of the
header, up to what follows it. -/
theorem read_of_render {more : List UInt8} (header : Header) (now : DateTime)
    (hfits : header.size.isAddressable = true) (hlines : ∀ line ∈ header.lines now, '\n' ∉ line.2)
    (hsrc : src.IsPlain) (hcontent : src.content = Utf8.encode (header.render now) ++ more) :
    ∃ result, (read src).result = .ok result ∧ result.size = header.size ∧
      result.payloadFormat = header.payloadFormat ∧
      (read src).source.IsPlain ∧ (read src).source.content = more ∧
      (read src).consumed = (Utf8.encode (header.render now)).length := by
  rw [render_eq_written] at hcontent ⊢
  obtain ⟨rest, hrest, hmore, hread⟩ := readLines_of_written {} 0 #[] hsrc hlines hcontent
  obtain ⟨hsize, hformat⟩ := resolve_takeLines_lines header now hfits
  rw [read, hread]
  exact ⟨_, rfl, hsize, hformat, hrest, hmore, Nat.zero_add _⟩

end EventCamera.Header
