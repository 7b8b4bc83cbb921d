import EventCamera.Proofs.Header.Reading

/-!
# Where a written header ends

A value with line feeds stands on several lines, of which only the first begins with the key of the
value. The header is read whole if it goes on behind each of the others, and otherwise not to its
end. Another key that they have takes their values.

## Main definitions

* `Header.furtherLines` — the lines of a value behind its first one
* `Header.linesOf` — the lines of some values

## Main results

* `Header.read_of_render_iff` — whether a written header is read whole, whatever its values
-/

namespace EventCamera

/-! ### Texts divided at line feeds -/

namespace Text

variable {sep : Char} {cs part : List Char} {parts : List (List Char)}

theorem not_mem_of_mem_fields (h : part ∈ fields sep cs) : sep ∉ part := by
  induction cs generalizing part with
  | nil =>
    rw [fields_nil, List.mem_singleton] at h
    rw [h]
    exact List.not_mem_nil
  | cons c cs ih =>
    by_cases hc : c = sep
    · rw [hc, fields_cons_self] at h
      rcases List.mem_cons.1 h with rfl | h
      · exact List.not_mem_nil
      · exact ih h
    · obtain ⟨first, later, hfields⟩ := List.exists_cons_of_ne_nil (fields_ne_nil sep cs)
      rw [fields_cons_of_ne hc hfields] at h
      rw [hfields] at ih
      rcases List.mem_cons.1 h with rfl | h
      · rw [List.mem_cons, not_or]
        exact ⟨Ne.symm hc, ih List.mem_cons_self⟩
      · exact ih (List.mem_cons_of_mem _ h)

/-- What has no separator becomes the beginning of the first part. -/
theorem fields_append_of_not_mem {a : List Char} (ha : sep ∉ a)
    (h : fields sep cs = part :: parts) :
    fields sep (a ++ cs) = (a ++ part) :: parts := by
  induction a with
  | nil => exact h
  | cons c a ih =>
    rw [List.mem_cons, not_or] at ha
    exact fields_cons_of_ne (Ne.symm ha.1) (ih ha.2)

end Text

namespace Header

variable {src : Source}

theorem textOf_fields (cs : List Char) : textOf (Text.fields '\n' cs) = cs ++ ['\n'] := by
  induction cs with
  | nil => rfl
  | cons c cs ih =>
    obtain ⟨first, later, hfields⟩ := List.exists_cons_of_ne_nil (Text.fields_ne_nil '\n' cs)
    by_cases hc : c = '\n'
    · rw [hc, Text.fields_cons_self, textOf_cons, ih]
      rfl
    · rw [Text.fields_cons_of_ne hc hfields]
      rw [hfields] at ih
      rw [textOf_cons, List.cons_append, List.cons_append, ← textOf_cons, ih, List.cons_append]

/-- The lines of a value behind its first one. -/
def furtherLines (value : List Char) : List (List Char) := (Text.fields '\n' value).tail

/-- The lines that stand for some values. -/
def linesOf (lines : List (HeaderKey × List Char)) : List (List Char) :=
  lines.flatMap fun line => Text.fields '\n' (lineFor line.1 line.2)

theorem linesOf_append (a b : List (HeaderKey × List Char)) :
    linesOf (a ++ b) = linesOf a ++ linesOf b := List.flatMap_append

/-- The first line of a value begins with its key. -/
theorem exists_fields_lineFor (key : HeaderKey) (value : List Char) :
    ∃ first, Text.fields '\n' (lineFor key value) = lineFor key first :: furtherLines value := by
  obtain ⟨first, later, hfields⟩ := List.exists_cons_of_ne_nil (Text.fields_ne_nil '\n' value)
  have hkey : '\n' ∉ '%' :: ' ' :: key.name.toList ++ [' '] := by cases key <;> decide
  have hline (cs : List Char) :
      lineFor key cs = '%' :: ' ' :: key.name.toList ++ [' '] ++ cs := by simp [lineFor]
  refine ⟨first, ?_⟩
  rw [furtherLines, hfields, List.tail_cons, hline, hline]
  exact Text.fields_append_of_not_mem hkey hfields

theorem written_eq_linesOf (lines : List (HeaderKey × List Char)) :
    written lines = textOf (linesOf lines) ++ endLine ++ ['\n'] := by
  have htext : textOf (linesOf lines) =
      lines.flatMap fun line => renderLine line.1 line.2 := by
    rw [textOf, linesOf, List.flatMap_assoc]
    apply List.flatMap_congr
    intro line _
    exact textOf_fields (lineFor line.1 line.2)
  rw [htext]
  rfl

theorem feed_not_mem_of_mem_linesOf {lines : List (HeaderKey × List Char)} {line : List Char}
    (hline : line ∈ linesOf lines) : '\n' ∉ line := by
  obtain ⟨_, -, hfield⟩ := List.mem_flatMap.1 hline
  exact Text.not_mem_of_mem_fields hfield

theorem eq_or_mem_of_mem_linesOf {lines : List (HeaderKey × List Char)} {line : List Char}
    (hline : line ∈ linesOf lines) :
    ∃ named ∈ lines, (∃ first, line = lineFor named.1 first) ∨ line ∈ furtherLines named.2 := by
  obtain ⟨named, hnamed, hfield⟩ := List.mem_flatMap.1 hline
  obtain ⟨first, hfields⟩ := exists_fields_lineFor named.1 named.2
  rw [hfields] at hfield
  rcases List.mem_cons.1 hfield with hfirst | hfurther
  · exact ⟨named, hnamed, .inl ⟨first, hfirst⟩⟩
  · exact ⟨named, hnamed, .inr hfurther⟩

/-! ### Lines behind which a header does not go on -/

/-- The first byte of a text that does not start with a percent sign is none. -/
theorem head?_encode_ne {cs : List Char} (hne : cs ≠ []) (hcs : cs.head? ≠ some '%')
    (more : List UInt8) : (Utf8.encode cs ++ more).head? ≠ some percent := by
  obtain ⟨c, cs, rfl⟩ := List.exists_cons_of_ne_nil hne
  obtain ⟨b, bs, hb, -⟩ := Utf8.next_encodeChar c []
  rw [Utf8.encode_cons, hb]
  intro hpercent
  obtain rfl : b = percent := Option.some.inj hpercent
  have hc : c = Char.ofNat percent.toNat :=
    Utf8.eq_ofNat_of_mem_encodeChar (hb ▸ List.mem_cons_self) (by decide)
  exact hcs (congrArg some hc)

/-- Reading comes to its end behind or in front of a line behind which a header does not go on. -/
theorem readLines_of_not_continues (h : Header) (consumed : Nat) (notices : Array Notice)
    {line : List Char} {more : List UInt8} (hsrc : src.IsPlain) (hfeed : '\n' ∉ line)
    (hline : ¬ Continues line)
    (hcontent : src.content = Utf8.encode (line ++ ['\n']) ++ more) :
    (h.readLines consumed notices src).result = .ok h.resolve.1 ∧
      (h.readLines consumed notices src).consumed ≤
        consumed + (Utf8.encode (line ++ ['\n'])).length := by
  rcases not_and_or.1 hline with hhead | hend
  · have hne : line ++ ['\n'] ≠ [] := by simp
    have hother : (line ++ ['\n']).head? ≠ some '%' := by
      cases line with
      | nil => decide
      | cons c cs => exact hhead
    obtain ⟨bs, rest, hpeek, -, hfirst⟩ := hsrc.peek
    have hbs : bs.head? ≠ some percent := by
      rw [hfirst, hcontent]
      exact head?_encode_ne hne hother more
    rw [readLines_of_other hpeek hbs]
    exact ⟨rfl, Nat.le_add_right _ _⟩
  · obtain ⟨rest, -, -, hread⟩ :=
      readLines_of_lastLine hsrc hfeed (Classical.not_not.1 hend) hcontent
    rw [hread]
    exact ⟨rfl, Nat.le_refl _⟩

/-- A header whose lines do not all go on is not read to its end. -/
theorem readLines_of_not_forall (h : Header) (consumed : Nat) (notices : Array Notice)
    {lines : List (List Char)} {more : List UInt8} (hsrc : src.IsPlain)
    (hfeed : ∀ line ∈ lines, '\n' ∉ line) (hnot : ¬ ∀ line ∈ lines, Continues line)
    (hcontent : src.content = Utf8.encode (textOf lines ++ endLine ++ ['\n']) ++ more) :
    ∃ result, (h.readLines consumed notices src).result = .ok result ∧
      (h.readLines consumed notices src).consumed <
        consumed + (Utf8.encode (textOf lines ++ endLine ++ ['\n'])).length := by
  have hfind : (lines.find? fun line => !decide (Continues line)).isSome := by
    rw [List.find?_isSome]
    simpa using hnot
  obtain ⟨line, hfound⟩ := Option.isSome_iff_exists.1 hfind
  obtain ⟨hline, front, later, rfl, hfront⟩ := List.find?_eq_some_iff_append.1 hfound
  obtain ⟨hfeedFront, hfeedLine⟩ := List.forall_mem_append.1 hfeed
  have hgoes : ∀ line ∈ front, '\n' ∉ line ∧ Continues line := fun line hmem =>
    ⟨hfeedFront line hmem, by simpa using hfront line hmem⟩
  have hbytes : Utf8.encode (textOf (front ++ line :: later) ++ endLine ++ ['\n']) =
      Utf8.encode (textOf front) ++ (Utf8.encode (line ++ ['\n']) ++
        Utf8.encode (textOf later ++ endLine ++ ['\n'])) := by
    rw [textOf_append, textOf_cons, ← Utf8.encode_append, ← Utf8.encode_append]
    simp only [List.append_assoc]
  -- Behind the line there is at least the one that was to end the header.
  have hrest : 0 < (Utf8.encode (textOf later ++ endLine ++ ['\n'])).length := by
    rw [Utf8.encode_append, List.length_append]
    exact Nat.lt_add_left _ (by decide)
  rw [hbytes, List.append_assoc, List.append_assoc] at hcontent
  obtain ⟨next, hnext, hmore, hread⟩ :=
    readLines_of_lines h consumed notices hsrc hgoes hcontent
  obtain ⟨hresult, hconsumed⟩ := readLines_of_not_continues (h.applyLines front).1
    (consumed + (Utf8.encode (textOf front)).length) (notices ++ (h.applyLines front).2) hnext
    (List.forall_mem_cons.1 hfeedLine).1 (by simpa using hline) hmore
  rw [hread, hbytes]
  refine ⟨_, hresult, ?_⟩
  rw [List.length_append, List.length_append]
  omega

/-! ### Values on several lines -/

theorem furtherLines_of_not_mem {value : List Char} (h : '\n' ∉ value) :
    furtherLines value = [] := by
  rw [furtherLines, Text.fields_of_not_mem h]
  rfl

/-- If a value on one line is the only one for its key, the part that the key sets has it. -/
theorem SetBy.applyLines_linesOf {part : Header → Option String} {key : HeaderKey}
    (hp : SetBy part key) {lines : List (HeaderKey × List Char)} {value : List Char}
    (hnodup : (lines.map Prod.fst).Nodup) (hmem : (key, value) ∈ lines) (hvalue : '\n' ∉ value)
    (hfurther : ∀ line ∈ lines, ∀ further ∈ furtherLines line.2, keyOf further ≠ some key)
    (h : Header) :
    part (h.applyLines (linesOf lines)).1 = some (String.ofList (Text.trim value)) := by
  obtain ⟨front, later, rfl⟩ := List.append_of_mem hmem
  have hone : linesOf ((key, value) :: later) = lineFor key value :: linesOf later := by
    rw [linesOf, List.flatMap_cons, Text.fields_of_not_mem (feed_not_mem_lineFor hvalue)]
    rfl
  rw [linesOf_append, hone]
  apply hp.applyLines_append_cons
  intro line hline
  obtain ⟨named, hnamed, ⟨first, rfl⟩ | hmore⟩ := eq_or_mem_of_mem_linesOf hline
  · rw [keyOf_lineFor, ne_eq, Option.some_inj]
    exact ne_key_of_nodup hnodup hnamed
  · exact hfurther named (List.mem_append_right _ (List.mem_cons_of_mem _ hnamed)) line hmore

/-- A header goes on behind the first line of each value, which begins with its key. -/
theorem forall_continues_linesOf (lines : List (HeaderKey × List Char)) :
    (∀ line ∈ linesOf lines, Continues line) ↔
      ∀ line ∈ lines, ∀ further ∈ furtherLines line.2, Continues further := by
  constructor
  · intro hall line hline further hfurther
    obtain ⟨first, hfields⟩ := exists_fields_lineFor line.1 line.2
    apply hall further
    exact List.mem_flatMap.2 ⟨line, hline, hfields ▸ List.mem_cons_of_mem _ hfurther⟩
  · intro hall line hline
    obtain ⟨named, hnamed, ⟨first, rfl⟩ | hmore⟩ := eq_or_mem_of_mem_linesOf hline
    · exact continues_lineFor named.1 first
    · exact hall named hnamed line hmore

/-- A written header is read whole if and only if it goes on behind each line of its values. It then
comes to the size and the format that it was written for, unless such a line gives others. -/
theorem read_of_render_iff {more : List UInt8} (header : Header) (now : DateTime)
    (hfits : header.size.isAddressable = true) (hsrc : src.IsPlain)
    (hcontent : src.content = Utf8.encode (header.render now) ++ more) :
    ∃ result, (read src).result = .ok result ∧
      ((read src).consumed = (Utf8.encode (header.render now)).length ∧
          (read src).source.content = more ↔
        ∀ line ∈ header.lines now, ∀ further ∈ furtherLines line.2, Continues further) ∧
      ((∀ line ∈ header.lines now, ∀ further ∈ furtherLines line.2,
          Continues further ∧ keyOf further ≠ some .geometry ∧ keyOf further ≠ some .evt) →
        result.size = header.size ∧ result.payloadFormat = header.payloadFormat) := by
  rw [render_eq_written, written_eq_linesOf] at hcontent ⊢
  rw [← forall_continues_linesOf]
  have hfeed : ∀ line ∈ linesOf (header.lines now), '\n' ∉ line := fun line =>
    feed_not_mem_of_mem_linesOf
  by_cases hall : ∀ line ∈ linesOf (header.lines now), Continues line
  · have hgoes : ∀ line ∈ linesOf (header.lines now), '\n' ∉ line ∧ Continues line :=
      fun line hline => ⟨hfeed line hline, hall line hline⟩
    obtain ⟨rest, -, hmore, hread⟩ := readLines_of_text {} 0 #[] hsrc hgoes hcontent
    rw [read, hread]
    refine ⟨_, rfl, iff_of_true ⟨Nat.zero_add _, hmore⟩ hall, ?_⟩
    intro hkeys
    have hgeometry : '\n' ∉ header.size.render :=
      Text.feed_not_mem_of_not_blank fun c => Geometry.isBlank_of_mem_render
    have hevt : '\n' ∉ header.payloadFormat.version.toList := by
      cases header.payloadFormat <;> decide
    exact resolve_of_written
      (geometry_setBy.applyLines_linesOf (header.nodup_lines now) (mem_lines rfl) hgeometry
        (fun line hline further hfurther => (hkeys line hline further hfurther).2.1) {})
      (evt_setBy.applyLines_linesOf (header.nodup_lines now) (mem_lines rfl) hevt
        (fun line hline further hfurther => (hkeys line hline further hfurther).2.2) {}) hfits
  · obtain ⟨result, hresult, hless⟩ := readLines_of_not_forall {} 0 #[] hsrc hfeed hall hcontent
    rw [Nat.zero_add] at hless
    refine ⟨result, hresult, iff_of_false (fun hwhole => Nat.ne_of_lt hless hwhole.1) hall, ?_⟩
    intro hkeys
    exact absurd ((forall_continues_linesOf _).2 fun line hline further hfurther =>
      (hkeys line hline further hfurther).1) hall

end Header

end EventCamera
