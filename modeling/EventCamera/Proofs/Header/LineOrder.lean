import EventCamera.Proofs.Header.Extent
import Mathlib.Data.List.Perm.Basic

/-!
# Headers whose lines come in another order

Lines for different keys set different parts of a header, and what the parts come to is worked out
only behind the last line. So as long as no key has two lines, their order says nothing.

## Main definitions

* `Header.keyText` — the key of a line, known or not

## Main results

* `Header.taken_comm` — the values of two keys can be taken in either order
* `Header.applyLines_perm` — lines for different keys can be taken in any order
* `header_of_lines_in_any_order` — the header that they come to, its size and its format
-/

namespace EventCamera

theorem HeaderKey.eq_lower_of_ofName? {key : HeaderKey} {lowered : List Char}
    (h : ofName? lowered = some key) : lowered = Text.lower key.name.toList := by
  have hfound := List.find?_some h
  exact (of_decide_eq_true hfound).symm

namespace Header

/-! ### Two lines -/

variable {h : Header} {key key' : HeaderKey} {value value' : List Char}

theorem taken_date (h : Header) (value : List Char) :
    h.taken .date value = { h with date := (DateTime.parse value).toOption.or h.date } := by
  rw [taken, assign]
  cases DateTime.parse value <;> rfl

theorem taken_systemId (h : Header) (value : List Char) :
    h.taken .systemId value =
      { h with systemId := (Numeral.parse32 value).toOption.getD h.systemId } := by
  rw [taken, assign]
  cases Numeral.parse32 value <;> rfl

/-- The values of two keys can be taken in either order, also if one of them is refused. -/
theorem taken_comm (hne : key ≠ key') :
    (h.taken key value).taken key' value' = (h.taken key' value').taken key value := by
  -- Each key has a part of the header for itself; two of them look at their values before.
  cases key <;> cases key' <;>
    first
    | exact absurd rfl hne
    | simp only [taken_date, taken_systemId] <;> rfl
    | rfl

theorem applyLine_comm {line line' : List Char}
    (hne : (splitLine (Text.trimEnd line)).1 ≠ (splitLine (Text.trimEnd line')).1) :
    ((h.applyLine (Text.trimEnd line)).1.applyLine (Text.trimEnd line')).1 =
      ((h.applyLine (Text.trimEnd line')).1.applyLine (Text.trimEnd line)).1 := by
  rw [applyLine_eq, applyLine_eq, applyLine_eq, applyLine_eq]
  cases hkey : keyOf line with
  | none => rfl
  | some key =>
    cases hkey' : keyOf line' with
    | none => rfl
    | some key' =>
      refine taken_comm ?_
      rintro rfl
      exact hne ((HeaderKey.eq_lower_of_ofName? hkey).trans
        (HeaderKey.eq_lower_of_ofName? hkey').symm)

/-! ### Any lines -/

theorem fst_applyLines (h : Header) (lines : List (List Char)) :
    (h.applyLines lines).1 =
      lines.foldl (fun h line => (h.applyLine (Text.trimEnd line)).1) h := by
  induction lines generalizing h with
  | nil => rfl
  | cons line lines ih => rw [applyLines_cons, List.foldl_cons, ih]

/-- Lines for different keys can be taken in any order. -/
theorem applyLines_perm {lines lines' : List (List Char)} (hperm : lines.Perm lines')
    (hkeys : (lines.map fun line => (splitLine (Text.trimEnd line)).1).Nodup) (h : Header) :
    (h.applyLines lines).1 = (h.applyLines lines').1 := by
  rw [fst_applyLines, fst_applyLines]
  refine hperm.foldl_eq' ?_ h
  intro line hline line' hline' h
  by_cases hsame : line = line'
  · rw [hsame]
  · exact applyLine_comm fun hkey => hsame (List.inj_on_of_nodup_map hkeys hline hline' hkey)

/-- The key of a line in lower case, known or not. -/
def keyText (line : List UInt8) : List Char := (splitLine (lineText line)).1

theorem trimEnd_lineText (line : List UInt8) : Text.trimEnd (lineText line) = lineText line :=
  Text.trimEnd_trimEnd _

theorem map_key_lineText (lines : List (List UInt8)) :
    ((lines.map lineText).map fun text => (splitLine (Text.trimEnd text)).1) =
      lines.map keyText := by
  rw [List.map_map]
  apply List.map_congr_left
  intro line _
  rw [Function.comp_apply, trimEnd_lineText, keyText]

/-- A line for a key that no other line has sets the part of the header for that key. -/
theorem SetBy.applyLines_of_mem {part : Header → Option String} (hp : SetBy part key)
    {lines : List (List UInt8)} (hkeys : (lines.map keyText).Nodup) {line : List UInt8}
    (hline : line ∈ lines)
    (hsplit : splitLine (lineText line) = (Text.lower key.name.toList, value)) (h : Header) :
    part (h.applyLines (lines.map lineText)).1 = some (String.ofList value) := by
  obtain ⟨front, later, rfl⟩ := List.append_of_mem hline
  have hkey : keyOf (lineText line) = some key := by
    rw [keyOf, trimEnd_lineText, hsplit]
    exact HeaderKey.ofName?_lower_name key
  rw [List.map_append, List.map_cons, hp.applyLines_of_last hkey, trimEnd_lineText, hsplit]
  intro _ hmapped hother
  obtain ⟨other, hmem, rfl⟩ := List.mem_map.1 hmapped
  rw [keyOf, trimEnd_lineText] at hother
  -- A later line for this key would have the key of the line.
  have hsame : keyText line = keyText other := by
    rw [keyText, hsplit]
    exact (HeaderKey.eq_lower_of_ofName? hother).symm
  rw [List.map_append, List.map_cons, List.nodup_append, List.nodup_cons] at hkeys
  exact hkeys.2.1.1 (hsame ▸ List.mem_map_of_mem hmem)

/-- The line that ends a header is its last one, with or without a line feed. -/
theorem linesIn_endLine {behind : List UInt8} (hbehind : ∀ b ∈ behind.head?, b = Source.lineFeed) :
    saidLines (Utf8.encode endLine ++ behind) = [] ∧
      linesIn (Utf8.encode endLine ++ behind) = [Utf8.encode endLine ++ behind.take 1] := by
  have hfeed : Source.lineFeed ∉ Utf8.encode endLine := by decide
  have hhead : (Utf8.encode endLine ++ behind).head? = some percent := rfl
  obtain ⟨hline, hend⟩ : Source.lineOf (Utf8.encode endLine ++ behind) =
        Utf8.encode endLine ++ behind.take 1 ∧
      lineText (Utf8.encode endLine ++ behind.take 1) = endLine := by
    cases behind with
    | nil => decide +kernel
    | cons b behind =>
      obtain rfl := hbehind b rfl
      exact ⟨(Source.lineOf_append hfeed behind).1,
        (lineText_encode_feed endLine).trans (by decide)⟩
  rw [← hline] at hend ⊢
  exact linesIn_of_end hhead hend

/-- The lines in front of the one that ends a header are what it says. -/
theorem read_of_goesOn {lines : List (List UInt8)} (hlines : ∀ line ∈ lines, GoesOn line)
    {behind : List UInt8} (hbehind : ∀ b ∈ behind.head?, b = Source.lineFeed) {src : Source}
    (hsrc : src.IsPlain) (hcontent : src.content = lines.flatten ++ Utf8.encode endLine ++ behind) :
    (read src).result = .ok (applyLines {} (lines.map lineText)).1.resolve.1 ∧
      (read src).consumed =
        lines.flatten.length + (Utf8.encode endLine ++ behind.take 1).length := by
  obtain ⟨hresult, hconsumed, -, -⟩ := read_of_isPlain hsrc
  rw [List.append_assoc] at hcontent
  obtain ⟨hsaid, hall⟩ := linesIn_of_goesOn hlines (Utf8.encode endLine ++ behind)
  obtain ⟨hnone, hend⟩ := linesIn_endLine hbehind
  rw [hcontent, ofBytes, hsaid, hnone, List.append_nil] at hresult
  rw [hcontent, hall, hend, List.flatten_append, List.length_append,
    List.flatten_singleton] at hconsumed
  exact ⟨hresult, hconsumed⟩

/-! ### Sizes -/

theorem isPossible_iff {n : UInt32} : Geometry.dimensionOk n = true ↔ 1 ≤ n ∧ n ≤ 2048 := by
  simp only [Geometry.dimensionOk, Geometry.maxDimension, Bool.and_eq_true, decide_eq_true_eq,
    UInt32.lt_iff_toNat_lt, UInt32.le_iff_toNat_le, UInt32.toNat_zero, UInt32.toNat_one]
  omega

theorem fst_resolveDimension (axis : Axis) (n : UInt32) :
    (Declared.resolveDimension axis (some n)).1 = if 1 ≤ n ∧ n ≤ 2048 then n else 2048 := by
  rw [Declared.resolveDimension]
  simp only [isPossible_iff]
  split <;> rfl

/-- There are no blanks around the value of a line. -/
theorem trim_splitLine (line : List Char) : Text.trim (splitLine line).2 = (splitLine line).2 := by
  rw [splitLine]
  split
  · exact Text.trim_trim _
  · rfl

/-- A value that is divided at its first `x` into two numbers is a size. -/
theorem parse_of_divided {line name a b : List Char} {width height : UInt32}
    (hsplit : splitLine line = (name, a ++ 'x' :: b)) (ha : 'x' ∉ a)
    (hwidth : Numeral.parse32 (Text.trim a) = .ok width)
    (hheight : Numeral.parse32 (Text.trim b) = .ok height) :
    Geometry.parse (a ++ 'x' :: b) = some ⟨width, height⟩ := by
  have htrim := trim_splitLine line
  rw [hsplit] at htrim
  rw [Geometry.parse, htrim, Geometry.parsePair, Text.cut_append_cons ha]
  simp [hwidth, hheight, Except.toOption]

end Header

open Header (GoesOn keyText splitLine lineText endLine)

/-- Lines for different keys, in front of the line that ends a header, are read to the same header
in any order. A `geometry` line of two numbers settles its size, and an `evt` line with a known
version the format of the payload. -/
theorem header_of_lines_in_any_order {lines : List (List UInt8)}
    (hlines : ∀ line ∈ lines, GoesOn line) (hkeys : (lines.map keyText).Nodup)
    {behind : List UInt8} (hbehind : ∀ b ∈ behind.head?, b = Source.lineFeed) :
    ∃ (h : Header) (consumed : Nat),
      (∀ lines' : List (List UInt8), lines'.Perm lines → ∀ src : Source, src.IsPlain →
        src.content = lines'.flatten ++ Utf8.encode endLine ++ behind →
        (Header.read src).result = .ok h ∧ (Header.read src).consumed = consumed) ∧
      (1 ≤ h.size.width ∧ h.size.width ≤ 2048) ∧ (1 ≤ h.size.height ∧ h.size.height ≤ 2048) ∧
      (∀ line ∈ lines, ∀ a b width height,
        splitLine (lineText line) = ("geometry".toList, a ++ 'x' :: b) → 'x' ∉ a →
        Numeral.parse32 (Text.trim a) = .ok width → Numeral.parse32 (Text.trim b) = .ok height →
        h.size = ⟨if 1 ≤ width ∧ width ≤ 2048 then width else 2048,
          if 1 ≤ height ∧ height ≤ 2048 then height else 2048⟩) ∧
      (∀ line ∈ lines, ∀ format : PayloadFormat,
        splitLine (lineText line) = ("evt".toList, format.version.toList) →
        h.payloadFormat = format) := by
  let said := (Header.applyLines {} (lines.map lineText)).1
  have htexts : ((lines.map lineText).map fun text => (splitLine (Text.trimEnd text)).1).Nodup := by
    rwa [Header.map_key_lineText]
  refine ⟨said.resolve.1,
    lines.flatten.length + (Utf8.encode endLine ++ behind.take 1).length, ?_, ?_, ?_, ?_, ?_⟩
  · intro lines' hperm src hsrc hcontent
    have hgoes : ∀ line ∈ lines', GoesOn line := fun line hline =>
      hlines line (hperm.mem_iff.1 hline)
    obtain ⟨hresult, hconsumed⟩ := Header.read_of_goesOn hgoes hbehind hsrc hcontent
    rw [← Header.applyLines_perm (hperm.symm.map lineText) htexts] at hresult
    rw [hperm.flatten.length_eq] at hconsumed
    exact ⟨hresult, hconsumed⟩
  · have hfits := said.isAddressable_resolve
    rw [Geometry.isAddressable, Bool.and_eq_true] at hfits
    exact Header.isPossible_iff.1 hfits.1
  · have hfits := said.isAddressable_resolve
    rw [Geometry.isAddressable, Bool.and_eq_true] at hfits
    exact Header.isPossible_iff.1 hfits.2
  · intro line hline a b width height hsplit ha hwidth hheight
    have hgeometry := Header.geometry_setBy.applyLines_of_mem hkeys hline hsplit {}
    have hsize := Header.parse_of_divided hsplit ha hwidth hheight
    rw [← String.toList_ofList (l := a ++ 'x' :: b)] at hsize
    rw [Header.size_resolve_of_geometry hgeometry hsize, Header.fst_resolveDimension,
      Header.fst_resolveDimension]
  · intro line hline format hsplit
    have hevt := Header.evt_setBy.applyLines_of_mem hkeys hline hsplit {}
    rw [String.ofList_toList] at hevt
    exact Header.payloadFormat_resolve_of_evt hevt (PayloadFormat.ofVersion?_version format)

/-- Keys of any case, a sign, a blank in a number, a width that is not possible, a line that is no
text, and a size and a version that the other lines contradict. -/
theorem header_of_lines_in_any_order_of_five :
    let lines : List (List UInt8) :=
      ["% format EVT3;height=480;width=640\n", "%\tGEOMETRY 3000 x +7\n", "%% Evt 2.1\r\n",
        "% sensor_name IMX636\n"].map (fun line => Utf8.encode line.toList) ++
        [[0x25, 0xC3, 0x0A]]
    let payload : List UInt8 := [0x0A, 0x25, 0x80]
    ∃ h : Header,
      (Header.read [.bytes (lines.flatten ++ Utf8.encode endLine ++ payload)]).result = .ok h ∧
      (Header.read [.bytes lines.reverse.flatten, .bytes (Utf8.encode endLine),
        .bytes payload]).result = .ok h ∧
      h.size = ⟨2048, 7⟩ ∧ h.payloadFormat = .evt21 := by
  intro lines payload
  have hlines : ∀ line ∈ lines, GoesOn line := by decide +kernel
  have hkeys : (lines.map keyText).Nodup := by decide +kernel
  have hbehind : ∀ b ∈ payload.head?, b = Source.lineFeed := by
    rintro b ⟨⟩
    rfl
  obtain ⟨h, consumed, hread, -, -, hsize, hformat⟩ :=
    header_of_lines_in_any_order hlines hkeys hbehind
  have hnone : Source.IsPlain [] := nofun
  refine ⟨h, ?_, ?_, ?_, ?_⟩
  · exact (hread lines (.refl lines) _ (hnone.cons_bytes _) (List.append_nil _)).1
  · refine (hread lines.reverse lines.reverse_perm _
      (((hnone.cons_bytes _).cons_bytes _).cons_bytes _) ?_).1
    simp [Source.content]
  · exact hsize (Utf8.encode "%\tGEOMETRY 3000 x +7\n".toList) (by decide)
      "3000 ".toList " +7".toList 3000 7 (by decide +kernel) (by decide) (by decide) (by decide)
  · exact hformat (Utf8.encode "%% Evt 2.1\r\n".toList) (by decide) .evt21 (by decide +kernel)

end EventCamera
