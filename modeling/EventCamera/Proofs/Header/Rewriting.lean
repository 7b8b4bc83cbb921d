import EventCamera.Proofs.Header.Reading

/-!
# Headers that are written again

What has been read from any bytes can be written and read again. Each text of such a header is that
of one line without the blanks around it, so that it comes back as it is, and what the lines left
open is filled in once.

## Main definitions

* `Text.IsTidy` — texts that a line can give
* `Header.IsTidy` — headers with such texts only
* `Header.settled` — a header with what its written form fills in

## Main results

* `Header.isTidy_of_read` — a header that has been read is tidy
* `Header.read_of_render_of_isTidy` — a tidy header is read back from its written form
* `read_render_of_read` — a header that has been read is written and read again
-/

namespace EventCamera

/-! ### Texts of lines -/

namespace Text

/-- A text on one line, without blanks around it. -/
def IsTidy (cs : List Char) : Prop := '\n' ∉ cs ∧ trim cs = cs

instance (cs : List Char) : Decidable (IsTidy cs) := inferInstanceAs (Decidable (_ ∧ _))

theorem isTidy_nil : IsTidy [] := by decide

theorem isTidy_of_not_blank {cs : List Char} (h : ∀ c ∈ cs, isBlank c = false) : IsTidy cs :=
  ⟨feed_not_mem_of_not_blank h, trim_eq_self h⟩

theorem isTidy_trim {cs : List Char} (h : '\n' ∉ cs) : IsTidy (trim cs) :=
  ⟨fun hmem => h (mem_of_mem_trim hmem), trim_trim cs⟩

theorem mem_of_mem_cut {sep c : Char} {cs before rest : List Char}
    (h : cut sep cs = some (before, rest)) (hc : c ∈ rest) : c ∈ cs := by
  rw [cut] at h
  split at h
  · cases h
  · rename_i d tail hdrop
    cases h
    apply (List.dropWhile_sublist (· != sep)).subset
    rw [hdrop]
    exact List.mem_cons_of_mem d hc

end Text

namespace Header

variable {h : Header} {src rest : Source}

/-- Only the end of a line has a line feed, which is removed with the blanks there. -/
theorem feed_not_mem_lineText {line : List UInt8} (hline : src.readLine = (.ok line, rest)) :
    '\n' ∉ lineText line := by
  have hnone {bs : List UInt8} (hbs : Source.lineFeed ∉ bs) : '\n' ∉ Utf8.decodeLossy bs := by
    intro hmem
    exact hbs (Utf8.mem_of_mem_decodeLossy hmem (by decide) (by decide))
  obtain ⟨front, hfront, rfl | rfl⟩ := Source.feed_of_readLine hline
  · exact fun hmem => hnone hfront (Text.mem_of_mem_trimEnd hmem)
  · have hfeed : Utf8.decodeLossy [Source.lineFeed] = ['\n'] := Utf8.decodeLossy_encode ['\n']
    rw [lineText, Utf8.decodeLossy_append_cons (by decide), hfeed,
      Text.trimEnd_append_of_blank (List.forall_mem_singleton.2 (by decide))]
    exact fun hmem => hnone hfront (Text.mem_of_mem_trimEnd hmem)

theorem isTidy_splitLine {line : List Char} (hline : '\n' ∉ line) :
    Text.IsTidy (splitLine line).2 := by
  have hbody : '\n' ∉ Text.trim (line.dropWhile (· == '%')) := by
    intro hmem
    exact hline ((List.dropWhile_sublist _).subset (Text.mem_of_mem_trim hmem))
  rw [splitLine]
  split
  · rename_i hcut
    exact Text.isTidy_trim fun hmem => hbody (Text.mem_of_mem_cut hcut hmem)
  · exact Text.isTidy_nil

/-! ### Headers of any source -/

/-- The texts that a header has from its lines, those of the size and the format aside. -/
def texts (h : Header) : List String :=
  [h.cameraIntegratorName, h.integratorName, h.serialNumber] ++ h.generation.toList ++
    h.sensorGeneration.toList ++ h.pluginName.toList ++ h.pluginIntegratorName.toList ++
    h.sensorName.toList

/-- A header whose texts can each be given by a line. -/
def IsTidy (h : Header) : Prop := ∀ text ∈ h.texts, Text.IsTidy text.toList

theorem texts_resolve (h : Header) : h.resolve.1.texts = h.texts := rfl

theorem mem_texts_of_assign {h' : Header} {key : HeaderKey} {value : List Char} {text : String}
    (hok : h.assign key value = .ok h') (htext : text ∈ h'.texts) :
    text ∈ h.texts ∨ text = String.ofList value := by
  cases key with
  | date | systemId =>
    simp only [assign] at hok
    split at hok
    · cases hok
      exact .inl htext
    · cases hok
  | _ =>
    cases hok
    simp only [texts, List.mem_append, List.mem_cons, List.not_mem_nil, or_false,
      Option.mem_toList, Option.some_inj] at htext ⊢
    grind

theorem IsTidy.applyLine (htidy : h.IsTidy) {line : List Char} (hline : '\n' ∉ line) :
    (h.applyLine line).1.IsTidy := by
  have hvalue := isTidy_splitLine hline
  rw [Header.applyLine]
  generalize splitLine line = split at hvalue
  dsimp only
  split
  · exact htidy
  · split
    · rename_i hok
      intro text htext
      rcases mem_texts_of_assign hok htext with hold | rfl
      · exact htidy text hold
      · rwa [String.toList_ofList]
    · exact htidy

theorem isTidy_of_readLines {consumed : Nat} {notices : Array Notice} {result : Header}
    (htidy : h.IsTidy) (hresult : (h.readLines consumed notices src).result = .ok result) :
    result.IsTidy ∧ result.size.isAddressable = true := by
  have hfinish {h : Header} (htidy : h.IsTidy) (hresult : h.resolve.1 = result) :
      result.IsTidy ∧ result.size.isAddressable = true := by
    subst hresult
    refine ⟨?_, h.isAddressable_resolve⟩
    rw [IsTidy, texts_resolve]
    exact htidy
  fun_induction readLines h consumed notices src with
  | case1 => cases hresult
  | case2 h consumed notices src rest hpeek => exact hfinish htidy (Except.ok.inj hresult)
  | case3 => cases hresult
  | case4 h consumed notices src bs peeked line rest hline _ _ _ hpeek =>
    exact hfinish htidy (Except.ok.inj hresult)
  | case5 h consumed notices src bs peeked line rest hline _ text _ h' more happly hpeek ih =>
    have hnext : (h.applyLine text).1.IsTidy := htidy.applyLine (feed_not_mem_lineText hline)
    rw [happly] at hnext
    exact ih hnext hresult
  | case6 h consumed notices src b bs rest hpeek => exact hfinish htidy (Except.ok.inj hresult)

/-- Whatever a header was read from, its texts can be given by lines, and its size is possible. -/
theorem isTidy_of_read {result : Header} (hresult : (read src).result = .ok result) :
    result.IsTidy ∧ result.size.isAddressable = true := by
  have hdefault : ∀ text ∈ texts {}, Text.IsTidy text.toList := by decide
  exact isTidy_of_readLines hdefault hresult

/-! ### Size and format -/

theorem isBlank_of_mem_formatValue {c : Char} {format : PayloadFormat} {size : Geometry}
    (hc : c ∈ formatValue format size) : Text.isBlank c = false := by
  simp only [formatValue, List.mem_append] at hc
  rcases hc with (((hname | hheight) | hdecimal) | hwidth) | hdecimal
  · exact Text.isBlank_of_all (by cases format <;> decide) hname
  · exact Text.isBlank_of_all (by decide) hheight
  · exact Numeral.isBlank_of_mem_decimal hdecimal
  · exact Text.isBlank_of_all (by decide) hwidth
  · exact Numeral.isBlank_of_mem_decimal hdecimal

/-- A part of a written `format` line has no blanks around it. -/
private theorem trim_labelled {label : List Char}
    (hlabel : (label.all fun c => !Text.isBlank c) = true) (n : Nat) :
    Text.trim (label ++ Numeral.decimal n) = label ++ Numeral.decimal n := by
  apply Text.trim_eq_self
  intro c hc
  rcases List.mem_append.1 hc with hc | hc
  · exact Text.isBlank_of_all hlabel hc
  · exact Numeral.isBlank_of_mem_decimal hc

private theorem dimension_decimal (axis : Axis) (n : UInt32) :
    Declared.dimension axis (Numeral.decimal n.toNat) = (some n, []) := by
  rw [Declared.dimension, Numeral.trim_decimal, Numeral.parse32_decimal]

private theorem addPart_name (d : Declared) (format : PayloadFormat) :
    d.addPart (Text.trim format.name.toList) = ({ d with format := some format }, []) := by
  cases format <;> rfl

private theorem addPart_height (d : Declared) (n : UInt32) :
    d.addPart (Text.trim ("height=".toList ++ Numeral.decimal n.toNat)) =
      ({ d with height := some n }, []) := by
  rw [trim_labelled (by decide), Declared.addPart, Text.after_append]
  dsimp only
  rw [dimension_decimal]

private theorem addPart_width (d : Declared) (n : UInt32) :
    d.addPart (Text.trim ("width=".toList ++ Numeral.decimal n.toNat)) =
      ({ d with width := some n }, []) := by
  have hnot : Text.after "height=".toList ("width=".toList ++ Numeral.decimal n.toNat) = none := rfl
  rw [trim_labelled (by decide), Declared.addPart, hnot, Text.after_append]
  dsimp only
  rw [dimension_decimal]

/-- A written `format` line declares the size and the format, and is not reported. -/
theorem ofFormatLine_formatValue (format : PayloadFormat) (size : Geometry) :
    Declared.ofFormatLine (formatValue format size) =
      ({ width := some size.width, height := some size.height, format := some format }, []) := by
  have hdecimal (n : Nat) : ';' ∉ Numeral.decimal n := Numeral.not_mem_decimal rfl n
  have hname : ';' ∉ format.name.toList := by cases format <;> decide
  have hfields : Text.fields ';' (formatValue format size) =
      [format.name.toList, "height=".toList ++ Numeral.decimal size.height.toNat,
        "width=".toList ++ Numeral.decimal size.width.toNat] := by
    have hheight : ';' ∉ "height=".toList ++ Numeral.decimal size.height.toNat := by
      simp [hdecimal]
    have hwidth : ';' ∉ "width=".toList ++ Numeral.decimal size.width.toNat := by
      simp [hdecimal]
    rw [← Text.fields_of_not_mem hwidth, ← Text.fields_append_cons hheight,
      ← Text.fields_append_cons hname]
    simp [formatValue]
  -- Each part gives what the parts before it have left open.
  rw [Declared.ofFormatLine, hfields, List.foldl_cons, List.foldl_cons, List.foldl_cons,
    List.foldl_nil]
  dsimp only
  rw [addPart_name]
  dsimp only
  rw [addPart_height]
  dsimp only
  rw [addPart_width]
  rfl

/-! ### Values that are taken -/

/-- A line whose value is taken is not reported. -/
theorem applyLine_of_assign {h' : Header} {key : HeaderKey} {value : List Char}
    (hok : h.assign key (Text.trim value) = .ok h') :
    h.applyLine (Text.trimEnd (lineFor key value)) = (h', []) := by
  rw [← trimEnd_renderLine, applyLine, splitLine_renderLine]
  dsimp only
  rw [HeaderKey.ofName?_lower_name]
  dsimp only
  rw [hok]

theorem applyLines_of_assign {h' : Header} {lines : List (HeaderKey × List Char)}
    (hlines : ∀ line ∈ lines, Text.trim line.2 = line.2)
    (hok : lines.foldlM (fun h line => h.assign line.1 line.2) h = .ok h') :
    h.applyLines (lines.map fun line => lineFor line.1 line.2) = (h', []) := by
  induction lines generalizing h with
  | nil =>
    cases hok
    rfl
  | cons line lines ih =>
    obtain ⟨hline, hlater⟩ := List.forall_mem_cons.1 hlines
    rw [List.foldlM_cons] at hok
    cases hassign : h.assign line.1 line.2 with
    | error e =>
      rw [hassign] at hok
      cases hok
    | ok next =>
      rw [hassign] at hok
      rw [← hline] at hassign
      rw [List.map_cons, applyLines_cons, applyLine_of_assign hassign, ih hlater hok]
      rfl

/-- A header with what its written form fills in. -/
def settled (h : Header) (now : DateTime) : Header :=
  { h with
    date := some (h.date.getD now)
    evt := some h.payloadFormat.version
    format := some (String.ofList (formatValue h.payloadFormat h.size))
    generation := some (h.generation.getD defaultGeneration)
    sensorGeneration := some (h.sensorGeneration.getD defaultGeneration)
    geometry := some (String.ofList h.size.render)
    pluginName := some (h.pluginName.getD defaultPluginName)
    pluginIntegratorName := some (h.pluginIntegratorName.getD defaultIntegrator) }

/-- Nothing is left to fill in. -/
theorem render_settled (h : Header) (now later : DateTime) :
    (h.settled now).render later = h.render now := by
  have hvalue (key : HeaderKey) : (h.settled now).value? later key = h.value? now key := by
    cases key <;> rfl
  simp only [render, lines, hvalue]

/-- The lines of a header set all that a header has but the size and the format. -/
theorem foldlM_assign_lines (h : Header) (now : DateTime) :
    (h.lines now).foldlM (fun h line => h.assign line.1 line.2) ({} : Header) =
      .ok { h.settled now with size := ({} : Header).size, payloadFormat := .evt3 } := by
  -- Of all keys, only that of the sensor's name may have no line.
  cases hsensor : h.sensorName <;>
    simp [lines, HeaderKey.all, value?, hsensor, assign, settled, DateTime.parse_render,
      Numeral.parse32_decimal, bind, Except.bind, pure, Except.pure]

/-- A text that is there or filled in can be given by a line. -/
private theorem isTidy_getD {text : Option String} (htext : ∀ t ∈ text, Text.IsTidy t.toList)
    {default : String} (hdefault : Text.IsTidy default.toList) :
    Text.IsTidy (text.getD default).toList := by
  cases text with
  | none => exact hdefault
  | some t => exact htext t rfl

theorem isTidy_of_mem_lines (htidy : h.IsTidy) (now : DateTime) :
    ∀ line ∈ h.lines now, Text.IsTidy line.2 := by
  have htext {text : String} (hmem : text ∈ h.texts) : Text.IsTidy text.toList := htidy text hmem
  rintro ⟨key, value⟩ hline
  change Text.IsTidy value
  have hvalue := value?_of_mem_lines hline
  cases key with
  | cameraIntegratorName | integratorName | serialNumber =>
    cases hvalue
    exact htext (by simp [texts])
  | generation | sensorGeneration | pluginName | pluginIntegratorName =>
    cases hvalue
    exact isTidy_getD (fun t ht => htext (by simp [texts, Option.mem_def.1 ht])) (by decide)
  | sensorName =>
    obtain ⟨name, hname, rfl⟩ := Option.map_eq_some_iff.1 hvalue
    exact htext (by simp [texts, hname])
  | date =>
    cases hvalue
    exact ⟨DateTime.feed_not_mem_render _, DateTime.trim_render _⟩
  | evt =>
    cases hvalue
    cases h.payloadFormat <;> decide
  | format =>
    cases hvalue
    exact Text.isTidy_of_not_blank fun c => isBlank_of_mem_formatValue
  | geometry =>
    cases hvalue
    exact Text.isTidy_of_not_blank fun c => Geometry.isBlank_of_mem_render
  | systemId =>
    cases hvalue
    exact Text.isTidy_of_not_blank fun c => Numeral.isBlank_of_mem_decimal

/-! ### Rewriting -/

theorem resolve_settled (h : Header) (now : DateTime) (hfits : h.size.isAddressable = true) :
    resolve { h.settled now with size := ({} : Header).size, payloadFormat := .evt3 } =
      (h.settled now, []) := by
  rw [Geometry.isAddressable, Bool.and_eq_true] at hfits
  simp [resolve, settled, Declared.withLine, ofFormatLine_formatValue, Declared.overruleSize,
    Geometry.parse_render, Declared.overruleFormat, Declared.resolveFormat, Declared.completeSize,
    Declared.resolveDimension, hfits]

/-- A tidy header is read back from its written form, with what that has filled in. -/
theorem read_of_render_of_isTidy {more : List UInt8} (htidy : h.IsTidy)
    (hfits : h.size.isAddressable = true) (now : DateTime) (hsrc : src.IsPlain)
    (hcontent : src.content = Utf8.encode (h.render now) ++ more) :
    (read src).result = .ok (h.settled now) ∧ (read src).notices = [] ∧
      (read src).consumed = (Utf8.encode (h.render now)).length ∧
      (read src).source.IsPlain ∧ (read src).source.content = more := by
  have hlines := isTidy_of_mem_lines htidy now
  have htaken := applyLines_of_assign (fun line hmem => (hlines line hmem).2)
    (h.foldlM_assign_lines now)
  rw [render_eq_written] at hcontent ⊢
  obtain ⟨rest, hrest, hmore, hread⟩ :=
    readLines_of_written {} 0 #[] hsrc (fun line hmem => (hlines line hmem).1) hcontent
  rw [← applyLines_lineFor, htaken, finishRead, resolve_settled h now hfits] at hread
  rw [read, hread]
  exact ⟨rfl, rfl, Nat.zero_add _, hrest, hmore⟩

end Header

/-- What has been read from any source is a fixed point of writing and reading: in front of any
bytes it is read back with all that it had, and it is then written as before. -/
theorem read_render_of_read {src written : Source} {h : Header}
    (hread : (Header.read src).result = .ok h) (now : DateTime) {payload : List UInt8}
    (hwritten : written.IsPlain)
    (hcontent : written.content = Utf8.encode (h.render now) ++ payload) :
    ∃ back, (Header.read written).result = .ok back ∧ (Header.read written).notices = [] ∧
      (Header.read written).consumed = (Utf8.encode (h.render now)).length ∧
      (Header.read written).source.IsPlain ∧ (Header.read written).source.content = payload ∧
      back.size = h.size ∧ back.payloadFormat = h.payloadFormat ∧
      back.serialNumber = h.serialNumber ∧ back.systemId = h.systemId ∧
      back.cameraIntegratorName = h.cameraIntegratorName ∧
      back.integratorName = h.integratorName ∧ back.sensorName = h.sensorName ∧
      (∀ date ∈ h.date, back.date = some date) ∧
      (∀ text ∈ h.generation, back.generation = some text) ∧
      (∀ text ∈ h.sensorGeneration, back.sensorGeneration = some text) ∧
      (∀ text ∈ h.pluginName, back.pluginName = some text) ∧
      (∀ text ∈ h.pluginIntegratorName, back.pluginIntegratorName = some text) ∧
      ∀ later, back.render later = h.render now := by
  obtain ⟨htidy, hfits⟩ := Header.isTidy_of_read hread
  obtain ⟨hresult, hnotices, hconsumed, hplain, hpayload⟩ :=
    Header.read_of_render_of_isTidy htidy hfits now hwritten hcontent
  refine ⟨h.settled now, hresult, hnotices, hconsumed, hplain, hpayload, rfl, rfl, rfl, rfl, rfl,
    rfl, rfl, ?_, ?_, ?_, ?_, ?_, h.render_settled now⟩
  all_goals
    intro value hvalue
    simp [Header.settled, Option.mem_def.1 hvalue]

/-- The header has a byte that is no text in its first line, a year before the first with a leap
second, an empty value, a width that is not possible, and no last line. -/
theorem read_render_of_read_damaged :
    let src : Source :=
      [.bytes (Utf8.encode "%serial_number ".toList ++ [0xC3]), .interruption,
        .bytes (Utf8.encode "\t% 7 \n% date -7-06-30 23:59:60\n".toList),
        .bytes (Utf8.encode "% generation\n% geometry 0x7\n".toList ++ [0x01, 0x80]), .pause]
    let date : DateTime := ⟨-7, 6, 30, 23, 59, 60, by decide⟩
    let h : Header :=
      { date := some date, serialNumber := "\ufffd\t% 7", generation := some "",
        geometry := some "0x7", size := ⟨2048, 7⟩ }
    let now : DateTime := ⟨2024, 1, 2, 3, 4, 5, by decide⟩
    let written : Source := [.bytes (Utf8.encode (h.render now)), .bytes [0x01, 0x80]]
    (Header.read src).result = .ok h ∧
      ∃ back, (Header.read written).result = .ok back ∧ (Header.read written).notices = [] ∧
        (Header.read written).source.content = [0x01, 0x80] ∧
        back.serialNumber = "\ufffd\t% 7" ∧ back.date = some date ∧
        back.generation = some "" := by
  intro src date h now written
  have hread : (Header.read src).result = .ok h := by decide +kernel
  have hnone : Source.IsPlain [] := nofun
  have hplain : written.IsPlain := (hnone.cons_bytes _).cons_bytes _
  obtain ⟨back, hresult, hnotices, -, -, hrest, -, -, hserial, -, -, -, -, hdate, hgeneration, -⟩ :=
    read_render_of_read hread now hplain rfl
  exact ⟨hread, back, hresult, hnotices, hrest, hserial, hdate _ rfl, hgeneration _ rfl⟩

end EventCamera
