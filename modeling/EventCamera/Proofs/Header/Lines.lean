import EventCamera.Header.Read
import EventCamera.Proofs.Calendar
import EventCamera.Proofs.Text.Numeral
import EventCamera.Proofs.Text.Trim
import Mathlib.Data.List.Nodup

/-!
# Header lines as text

A line that was written for a key is taken for that key again, with the blanks around its value
removed. What the lines come to is settled by those for the size and the format.

## Main definitions

* `Header.textOf`, `Header.applyLines` — the text of some lines, and the header behind them
* `Header.Continues` — the lines behind which a header goes on
* `Header.written` — the written form of some lines
* `Header.taken` — a header with the value of a key, if it can be taken
* `Header.takeLines` — the header after some written lines
* `Header.SetBy` — a part of a header that the lines of one key set

## Main results

* `Geometry.parse_render` — a written size is read back
* `Header.splitLine_renderLine` — a written line splits into its key and its value
* `Header.SetBy.takeLines_eq` — the value of a key is that of its line
* `Header.resolve_of_declared` — the size and the format that lines declare
-/

namespace EventCamera

/-! ### Sizes -/

namespace Geometry

theorem isBlank_of_mem_render {c : Char} {g : Geometry} (h : c ∈ g.render) :
    Text.isBlank c = false := by
  rw [render, List.mem_append, List.mem_cons] at h
  rcases h with h | rfl | h
  · exact Numeral.isBlank_of_mem_decimal h
  · decide
  · exact Numeral.isBlank_of_mem_decimal h

theorem parse_render (g : Geometry) : parse g.render = some g := by
  have hx : 'x' ∉ Numeral.decimal g.width.toNat := Numeral.not_mem_decimal rfl _
  have hcut : Text.cut 'x' g.render =
      some (Numeral.decimal g.width.toNat, Numeral.decimal g.height.toNat) :=
    Text.cut_append_cons hx
  rw [parse, Text.trim_eq_self fun c => isBlank_of_mem_render, parsePair, hcut]
  simp [Numeral.trim_decimal, Numeral.parse32_decimal, Except.toOption]

end Geometry

/-! ### Single lines -/

namespace HeaderKey

theorem isBlank_of_mem_name {key : HeaderKey} {c : Char} (h : c ∈ key.name.toList) :
    Text.isBlank c = false := by
  have hall : (key.name.toList.all fun c => !Text.isBlank c) = true := by cases key <;> decide
  exact Text.isBlank_of_all hall h

theorem ofName?_lower_name (key : HeaderKey) : ofName? (Text.lower key.name.toList) = some key := by
  cases key <;> decide

end HeaderKey

namespace Header

/-- The end of a line is removed with the blanks at the end of its value. -/
private theorem trimEnd_line {name : List Char} (hne : name ≠ [])
    (hname : ∀ c ∈ name, Text.isBlank c = false) (value : List Char) :
    Text.trimEnd ('%' :: ' ' :: name ++ ' ' :: value ++ ['\n']) =
      '%' :: ' ' :: (name ++ Text.trimEnd (' ' :: value)) := by
  have hfeed : ∀ c ∈ ['\n'], Text.isBlank c = true :=
    List.forall_mem_singleton.2 (by decide)
  have hmem : ∃ c ∈ name ++ ' ' :: value, Text.isBlank c = false := by
    obtain ⟨c, hc⟩ := List.exists_mem_of_ne_nil name hne
    exact ⟨c, List.mem_append_left _ hc, hname c hc⟩
  rw [Text.trimEnd_append_of_blank hfeed, ← Text.trimEnd_append_of_not_blank hne hname]
  exact Text.trimEnd_append (a := ['%', ' ']) hmem

/-- In front of the name only a blank is removed, and behind it nothing more. -/
private theorem trim_body {name : List Char} (hne : name ≠ [])
    (hname : ∀ c ∈ name, Text.isBlank c = false) (value : List Char) :
    Text.trim (' ' :: (name ++ Text.trimEnd (' ' :: value))) =
      name ++ Text.trimEnd (' ' :: value) := by
  obtain ⟨c, cs, rfl⟩ := List.exists_cons_of_ne_nil hne
  rw [Text.trim_cons_of_blank (by decide), List.cons_append,
    Text.trim_cons_of_not_blank (hname c List.mem_cons_self), ← List.cons_append,
    Text.trimEnd_append_of_not_blank hne hname, Text.trimEnd_trimEnd]

/-- A written line splits into its key and its value, without the blanks around the latter. -/
theorem splitLine_renderLine (key : HeaderKey) (value : List Char) :
    splitLine (Text.trimEnd (renderLine key value)) =
      (Text.lower key.name.toList, Text.trim value) := by
  have hname : ∀ c ∈ key.name.toList, Text.isBlank c = false := fun c =>
    HeaderKey.isBlank_of_mem_name
  have hne : key.name.toList ≠ [] := by cases key <;> decide
  have hspace : ' ' ∉ key.name.toList := fun hmem => absurd (hname _ hmem) (by decide)
  have hblank : Text.isBlank ' ' = true := by decide
  simp only [renderLine]
  generalize key.name.toList = name at hname hne hspace
  have hmark : ('%' :: ' ' :: (name ++ Text.trimEnd (' ' :: value))).dropWhile (· == '%') =
      ' ' :: (name ++ Text.trimEnd (' ' :: value)) := rfl
  rw [splitLine, trimEnd_line hne hname, hmark, trim_body hne hname]
  by_cases hvalue : ∀ c ∈ value, Text.isBlank c = true
  · -- Without a value, the space behind the key is removed, too.
    rw [Text.trimEnd_of_blank (List.forall_mem_cons.2 ⟨hblank, hvalue⟩), List.append_nil,
      Text.cut_eq_none_iff.2 hspace, ← Text.trim_trimEnd, Text.trimEnd_of_blank hvalue,
      Text.trim_nil]
  · have hmem : ∃ c ∈ value, Text.isBlank c = false := by simpa using hvalue
    have hkeep : Text.trimEnd (' ' :: value) = ' ' :: Text.trimEnd value :=
      Text.trimEnd_append (a := [' ']) hmem
    rw [hkeep, Text.cut_append_cons hspace]
    dsimp only
    rw [Text.trim_trimEnd]

/-- A written line does not end a header. -/
theorem trimEnd_renderLine_ne_endLine (key : HeaderKey) (value : List Char) :
    Text.trimEnd (renderLine key value) ≠ endLine := by
  intro h
  have hname := HeaderKey.ofName?_lower_name key
  have hsplit := splitLine_renderLine key value
  rw [h] at hsplit
  have hkey : Text.lower key.name.toList = (splitLine endLine).1 := by rw [hsplit]
  have hend : HeaderKey.ofName? (splitLine endLine).1 = none := by decide
  rw [hkey, hend] at hname
  cases hname

/-- The line that is written for a key, without its line feed. -/
def lineFor (key : HeaderKey) (value : List Char) : List Char :=
  '%' :: ' ' :: key.name.toList ++ ' ' :: value

theorem renderLine_eq (key : HeaderKey) (value : List Char) :
    renderLine key value = lineFor key value ++ ['\n'] := rfl

theorem trimEnd_renderLine (key : HeaderKey) (value : List Char) :
    Text.trimEnd (renderLine key value) = Text.trimEnd (lineFor key value) := by
  rw [renderLine_eq]
  exact Text.trimEnd_append_of_blank (List.forall_mem_singleton.2 (by decide))

theorem feed_not_mem_lineFor {key : HeaderKey} {value : List Char} (h : '\n' ∉ value) :
    '\n' ∉ lineFor key value := by
  have hname : '\n' ∉ key.name.toList := by cases key <;> decide
  simp [lineFor, hname, h]

/-! ### Lines of any kind -/

/-- Some lines as they stand in a text, each with a line feed behind it. -/
def textOf (lines : List (List Char)) : List Char := lines.flatMap (· ++ ['\n'])

@[simp] theorem textOf_nil : textOf [] = [] := rfl

theorem textOf_cons (line : List Char) (lines : List (List Char)) :
    textOf (line :: lines) = line ++ ['\n'] ++ textOf lines := rfl

theorem textOf_append (a b : List (List Char)) : textOf (a ++ b) = textOf a ++ textOf b :=
  List.flatMap_append

/-- A line behind which a header goes on. -/
def Continues (line : List Char) : Prop := line.head? = some '%' ∧ Text.trimEnd line ≠ endLine

instance (line : List Char) : Decidable (Continues line) :=
  inferInstanceAs (Decidable (_ ∧ _))

theorem continues_lineFor (key : HeaderKey) (value : List Char) :
    Continues (lineFor key value) := by
  refine ⟨rfl, ?_⟩
  rw [← trimEnd_renderLine]
  exact trimEnd_renderLine_ne_endLine key value

/-- Takes some lines, blanks at their ends removed. -/
def applyLines (h : Header) : List (List Char) → Header × List Notice
  | [] => (h, [])
  | line :: lines =>
    let (h, notices) := h.applyLine (Text.trimEnd line)
    let (h, more) := h.applyLines lines
    (h, notices ++ more)

theorem applyLines_cons (h : Header) (line : List Char) (lines : List (List Char)) :
    h.applyLines (line :: lines) =
      (((h.applyLine (Text.trimEnd line)).1.applyLines lines).1,
        (h.applyLine (Text.trimEnd line)).2 ++
          ((h.applyLine (Text.trimEnd line)).1.applyLines lines).2) := rfl

theorem applyLines_append (h : Header) (a b : List (List Char)) :
    (h.applyLines (a ++ b)).1 = ((h.applyLines a).1.applyLines b).1 := by
  induction a generalizing h with
  | nil => rfl
  | cons line a ih => rw [List.cons_append, applyLines_cons, applyLines_cons, ih]

/-- The key that a line has a value for. -/
def keyOf (line : List Char) : Option HeaderKey :=
  HeaderKey.ofName? (splitLine (Text.trimEnd line)).1

theorem keyOf_lineFor (key : HeaderKey) (value : List Char) :
    keyOf (lineFor key value) = some key := by
  rw [keyOf, ← trimEnd_renderLine, splitLine_renderLine]
  exact HeaderKey.ofName?_lower_name key

/-- A header with the value of a key, or as it was if the value cannot be taken. -/
def taken (h : Header) (key : HeaderKey) (value : List Char) : Header :=
  match h.assign key value with
  | .ok h' => h'
  | .error _ => h

/-- A line is taken for its key. -/
theorem applyLine_eq (h : Header) (line : List Char) :
    (h.applyLine (Text.trimEnd line)).1 =
      match keyOf line with
      | none => h
      | some key => h.taken key (splitLine (Text.trimEnd line)).2 := by
  rw [applyLine, keyOf]
  dsimp only
  cases HeaderKey.ofName? (splitLine (Text.trimEnd line)).1 with
  | none => rfl
  | some key =>
    dsimp only
    rw [taken]
    cases h.assign key (splitLine (Text.trimEnd line)).2 <;> rfl

/-! ### All lines -/

/-- The written form of some lines, with the line that ends a header. -/
def written (lines : List (HeaderKey × List Char)) : List Char :=
  lines.flatMap (fun (key, value) => renderLine key value) ++ endLine ++ ['\n']

theorem render_eq_written (h : Header) (now : DateTime) : h.render now = written (h.lines now) :=
  rfl

/-- The header after some written lines. -/
def takeLines (h : Header) (lines : List (HeaderKey × List Char)) : Header :=
  lines.foldl (fun h line => (h.applyLine (Text.trimEnd (renderLine line.1 line.2))).1) h

theorem takeLines_cons (h : Header) (line : HeaderKey × List Char)
    (lines : List (HeaderKey × List Char)) :
    h.takeLines (line :: lines) =
      (h.applyLine (Text.trimEnd (renderLine line.1 line.2))).1.takeLines lines := by
  rw [takeLines, takeLines, List.foldl_cons]

theorem written_eq (lines : List (HeaderKey × List Char)) :
    written lines =
      textOf (lines.map fun line => lineFor line.1 line.2) ++ endLine ++ ['\n'] := by
  rw [written, textOf, List.flatMap_map]
  rfl

theorem applyLines_lineFor (h : Header) (lines : List (HeaderKey × List Char)) :
    (h.applyLines (lines.map fun line => lineFor line.1 line.2)).1 = h.takeLines lines := by
  induction lines generalizing h with
  | nil => rfl
  | cons line lines ih =>
    rw [List.map_cons, applyLines_cons, takeLines_cons, trimEnd_renderLine, ih]

/-- A part of a header that is set by the lines of one key and by no others. -/
structure SetBy (part : Header → Option String) (key : HeaderKey) : Prop where
  same (h : Header) (value : List Char) :
    ∃ h', h.assign key value = .ok h' ∧ part h' = some (String.ofList value)
  other {h h' : Header} {k : HeaderKey} {value : List Char} (hk : k ≠ key)
    (hok : h.assign k value = .ok h') : part h' = part h

theorem evt_setBy : SetBy Header.evt .evt where
  same _ _ := ⟨_, rfl, rfl⟩
  other {h h' k value} hk hok := by
    cases k with
    | evt => exact absurd rfl hk
    | date | systemId =>
      -- These values may be refused, and set another part if they are not.
      simp only [assign] at hok
      split at hok
      · cases hok; rfl
      · cases hok
    | _ => cases hok; rfl

theorem geometry_setBy : SetBy Header.geometry .geometry where
  same _ _ := ⟨_, rfl, rfl⟩
  other {h h' k value} hk hok := by
    cases k with
    | geometry => exact absurd rfl hk
    | date | systemId =>
      simp only [assign] at hok
      split at hok
      · cases hok; rfl
      · cases hok
    | _ => cases hok; rfl

variable {part : Header → Option String} {key : HeaderKey} {value : List Char}

theorem SetBy.taken_self (hp : SetBy part key) (h : Header) (value : List Char) :
    part (h.taken key value) = some (String.ofList value) := by
  obtain ⟨h', hok, hpart⟩ := hp.same h value
  rw [taken, hok]
  exact hpart

theorem SetBy.taken_of_ne (hp : SetBy part key) {k : HeaderKey} (hk : k ≠ key) (h : Header)
    (value : List Char) : part (h.taken k value) = part h := by
  rw [taken]
  split
  · rename_i hok
    exact hp.other hk hok
  · rfl

/-- Lines that are not for its key leave a part as it is. -/
theorem SetBy.applyLines_of_forall_ne (hp : SetBy part key) {lines : List (List Char)}
    (hlines : ∀ line ∈ lines, keyOf line ≠ some key) (h : Header) :
    part (h.applyLines lines).1 = part h := by
  induction lines generalizing h with
  | nil => rfl
  | cons line lines ih =>
    obtain ⟨hline, hlater⟩ := List.forall_mem_cons.1 hlines
    rw [applyLines_cons, ih hlater, applyLine_eq]
    split
    · rfl
    · rename_i k hk
      refine hp.taken_of_ne ?_ _ _
      rintro rfl
      exact hline hk

/-- The last line for its key sets a part. -/
theorem SetBy.applyLines_of_last (hp : SetBy part key) {front later : List (List Char)}
    {line : List Char} (hline : keyOf line = some key)
    (hlater : ∀ line ∈ later, keyOf line ≠ some key) (h : Header) :
    part (h.applyLines (front ++ line :: later)).1 =
      some (String.ofList (splitLine (Text.trimEnd line)).2) := by
  rw [applyLines_append, applyLines_cons, hp.applyLines_of_forall_ne hlater, applyLine_eq, hline]
  exact hp.taken_self _ _

theorem SetBy.applyLines_append_cons (hp : SetBy part key) {front later : List (List Char)}
    (hlater : ∀ line ∈ later, keyOf line ≠ some key) (value : List Char) (h : Header) :
    part (h.applyLines (front ++ lineFor key value :: later)).1 =
      some (String.ofList (Text.trim value)) := by
  rw [hp.applyLines_of_last (keyOf_lineFor key value) hlater, ← trimEnd_renderLine,
    splitLine_renderLine]

/-- If no key has two lines, the lines behind one are those of other keys. -/
theorem ne_key_of_nodup {front later : List (HeaderKey × List Char)}
    (hnodup : ((front ++ (key, value) :: later).map Prod.fst).Nodup)
    {line : HeaderKey × List Char} (hline : line ∈ later) : line.1 ≠ key := by
  rw [List.map_append, List.map_cons, List.nodup_append, List.nodup_cons] at hnodup
  rintro rfl
  exact hnodup.2.1.1 (List.mem_map.2 ⟨line, hline, rfl⟩)

/-- If a key has one line, the part that it sets has the value of that line. -/
theorem SetBy.takeLines_eq (hp : SetBy part key) {lines : List (HeaderKey × List Char)}
    (hnodup : (lines.map Prod.fst).Nodup) (hmem : (key, value) ∈ lines) (h : Header) :
    part (h.takeLines lines) = some (String.ofList (Text.trim value)) := by
  obtain ⟨front, later, rfl⟩ := List.append_of_mem hmem
  rw [← applyLines_lineFor, List.map_append, List.map_cons]
  apply hp.applyLines_append_cons
  intro _ hmapped
  obtain ⟨line, hline, rfl⟩ := List.mem_map.1 hmapped
  rw [keyOf_lineFor, ne_eq, Option.some_inj]
  exact ne_key_of_nodup hnodup hline

/-- No key is written twice. -/
theorem nodup_lines (h : Header) (now : DateTime) : ((h.lines now).map Prod.fst).Nodup := by
  have hall : HeaderKey.all.Nodup := by decide
  have hkeys : (h.lines now).map Prod.fst =
      HeaderKey.all.filterMap fun key => (h.value? now key).map fun _ => key := by
    simp [lines, List.map_filterMap, Function.comp_def]
  rw [hkeys]
  apply hall.filterMap
  intro a b c hac hbc
  simp only [Option.mem_def, Option.map_eq_some_iff] at hac hbc
  obtain ⟨-, -, rfl⟩ := hac
  obtain ⟨-, -, rfl⟩ := hbc
  rfl

theorem mem_lines {h : Header} {now : DateTime} (hv : h.value? now key = some value) :
    (key, value) ∈ h.lines now := by
  rw [lines, List.mem_filterMap]
  refine ⟨key, by cases key <;> decide, ?_⟩
  rw [hv]
  rfl

theorem value?_of_mem_lines {h : Header} {now : DateTime} (hline : (key, value) ∈ h.lines now) :
    h.value? now key = some value := by
  simp only [lines, List.mem_filterMap, Option.map_eq_some_iff, Prod.mk.injEq] at hline
  obtain ⟨_, -, _, hvalue, rfl, rfl⟩ := hline
  exact hvalue

/-- Of the values that a new recording gets, only the serial number may have a line feed. -/
theorem feed_not_mem_value_forRecording {size : Geometry} {format : PayloadFormat}
    {date : Option DateTime} {serialNumber : String} {now : DateTime} (hkey : key ≠ .serialNumber)
    (hvalue : (forRecording size format date serialNumber).value? now key = some value) :
    '\n' ∉ value := by
  have hdecimal (n : Nat) : '\n' ∉ Numeral.decimal n := Numeral.not_mem_decimal rfl n
  cases key with
  | cameraIntegratorName | integratorName | pluginIntegratorName =>
    cases hvalue
    exact (by decide : '\n' ∉ defaultIntegrator.toList)
  | generation | sensorGeneration =>
    cases hvalue
    exact (by decide : '\n' ∉ defaultGeneration.toList)
  | pluginName =>
    cases hvalue
    exact (by decide : '\n' ∉ defaultPluginName.toList)
  | date =>
    cases hvalue
    exact DateTime.feed_not_mem_render _
  | evt =>
    cases hvalue
    exact (by cases format <;> decide : '\n' ∉ format.version.toList)
  | format =>
    have hname : '\n' ∉ format.name.toList := by cases format <;> decide
    cases hvalue
    simp [forRecording, formatValue, hdecimal, hname]
  | geometry =>
    cases hvalue
    simp [forRecording, Geometry.render, hdecimal]
  | sensorName => cases hvalue
  | serialNumber => exact absurd rfl hkey
  | systemId =>
    cases hvalue
    exact hdecimal _

theorem feed_not_mem_lines_forRecording {size : Geometry} {format : PayloadFormat}
    {date : Option DateTime} {serialNumber : String} (hserial : '\n' ∉ serialNumber.toList)
    (now : DateTime) :
    ∀ line ∈ (forRecording size format date serialNumber).lines now, '\n' ∉ line.2 := by
  rintro ⟨key, value⟩ hline
  have hvalue := value?_of_mem_lines hline
  by_cases hkey : key = .serialNumber
  · subst hkey
    cases hvalue
    exact hserial
  · exact feed_not_mem_value_forRecording hkey hvalue

/-- A `geometry` line that gives a size settles it, whatever the other lines say. -/
theorem size_resolve_of_geometry {h : Header} {size : Geometry} {geometry : String}
    (hg : h.geometry = some geometry) (hsize : Geometry.parse geometry.toList = some size) :
    h.resolve.1.size = ⟨(Declared.resolveDimension .width (some size.width)).1,
      (Declared.resolveDimension .height (some size.height)).1⟩ := by
  let d := (Declared.withLine h.format (fun _ line => Declared.ofFormatLine line.toList) {}).1
  let sized := (Declared.withLine h.geometry Declared.overruleSize d).1
  let declared := (Declared.withLine h.evt Declared.overruleFormat sized).1
  have hsized : sized = { d with width := some size.width, height := some size.height } := by
    simp only [sized, hg, Declared.withLine, Declared.overruleSize, hsize]
  -- The line for the version leaves the size as it is.
  have hdeclared : declared.width = sized.width ∧ declared.height = sized.height := by
    simp only [declared]
    cases h.evt with
    | none => exact ⟨rfl, rfl⟩
    | some evt =>
      rw [Declared.withLine, Declared.overruleFormat]
      cases PayloadFormat.ofVersion? evt <;> exact ⟨rfl, rfl⟩
  rw [hsized] at hdeclared
  have hcomplete : declared.completeSize h.sensorName = declared := by
    rw [Declared.completeSize, if_pos (by simp [hdeclared])]
  change Geometry.mk
    (Declared.resolveDimension .width (declared.completeSize h.sensorName).width).1
    (Declared.resolveDimension .height (declared.completeSize h.sensorName).height).1 = _
  rw [hcomplete, hdeclared.1, hdeclared.2]

/-- An `evt` line with a known version settles the format, whatever the other lines say. -/
theorem payloadFormat_resolve_of_evt {h : Header} {format : PayloadFormat} {evt : String}
    (he : h.evt = some evt) (hformat : PayloadFormat.ofVersion? evt = some format) :
    h.resolve.1.payloadFormat = format := by
  have hversion (d : Declared) : (d.overruleFormat evt).1 = { d with format := some format } := by
    rw [Declared.overruleFormat, hformat]
  simp [resolve, he, Declared.withLine, hversion, Declared.resolveFormat]

/-- The lines that declare the size and the format settle both, whatever the others say. -/
theorem resolve_of_declared {h : Header} {size : Geometry} {format : PayloadFormat}
    {geometry evt : String} (hg : h.geometry = some geometry)
    (hsize : Geometry.parse geometry.toList = some size) (hfits : size.isAddressable = true)
    (he : h.evt = some evt) (hformat : PayloadFormat.ofVersion? evt = some format) :
    h.resolve.1.size = size ∧ h.resolve.1.payloadFormat = format := by
  rw [Geometry.isAddressable, Bool.and_eq_true] at hfits
  refine ⟨?_, payloadFormat_resolve_of_evt he hformat⟩
  rw [size_resolve_of_geometry hg hsize, Declared.resolveDimension, Declared.resolveDimension,
    if_pos hfits.1, if_pos hfits.2]

/-- A header with the written size and version of another comes to its size and format. -/
theorem resolve_of_written {h header : Header}
    (hg : h.geometry = some (String.ofList (Text.trim header.size.render)))
    (he : h.evt = some (String.ofList (Text.trim header.payloadFormat.version.toList)))
    (hfits : header.size.isAddressable = true) :
    h.resolve.1.size = header.size ∧ h.resolve.1.payloadFormat = header.payloadFormat := by
  rw [Text.trim_eq_self fun c => Geometry.isBlank_of_mem_render] at hg
  refine resolve_of_declared hg ?_ hfits he ?_
  · rw [String.toList_ofList]
    exact Geometry.parse_render header.size
  · cases header.payloadFormat <;> decide

/-- Reading back the lines of a header gives the size and the format that it has come to. -/
theorem resolve_takeLines_lines (h : Header) (now : DateTime)
    (hfits : h.size.isAddressable = true) :
    ((takeLines {} (h.lines now)).resolve.1.size = h.size) ∧
      (takeLines {} (h.lines now)).resolve.1.payloadFormat = h.payloadFormat :=
  resolve_of_written (geometry_setBy.takeLines_eq (h.nodup_lines now) (mem_lines rfl) {})
    (evt_setBy.takeLines_eq (h.nodup_lines now) (mem_lines rfl) {}) hfits

end Header

end EventCamera
