/-!
# Splitting texts

Cutting a text at a separator, and taking a known beginning off it.

## Main definitions

* `Text.fields` — the parts between the occurrences of a separator, at least one
* `Text.cut` — the parts before and after the first occurrence of a separator
* `Text.after` — what follows a known beginning
-/

namespace EventCamera.Text

/-- The parts of a text between the occurrences of `sep`; a text without it is its only part. -/
def fields (sep : Char) (cs : List Char) : List (List Char) :=
  cs.foldr
    (fun c parts =>
      if c = sep then [] :: parts
      else
        match parts with
        | [] => [[c]]
        | part :: parts => (c :: part) :: parts)
    [[]]

/-- The parts of a text before and after the first occurrence of `sep`. -/
def cut (sep : Char) (cs : List Char) : Option (List Char × List Char) :=
  match cs.dropWhile (· != sep) with
  | [] => none
  | _ :: rest => some (cs.takeWhile (· != sep), rest)

/-- What follows `beginning` in a text that starts with it. -/
def after : (beginning text : List Char) → Option (List Char)
  | [], cs => some cs
  | _ :: _, [] => none
  | b :: bs, c :: cs => if b = c then after bs cs else none

@[simp] theorem fields_nil (sep : Char) : fields sep [] = [[]] := rfl

/-- A separator closes an empty part in front of the others. -/
theorem fields_cons_self (sep : Char) (cs : List Char) :
    fields sep (sep :: cs) = [] :: fields sep cs := by
  simp [fields]

theorem fields_ne_nil (sep : Char) (cs : List Char) : fields sep cs ≠ [] := by
  cases cs with
  | nil => simp
  | cons c cs => simp only [fields, List.foldr_cons]; split <;> (try split) <;> simp

theorem fields_cons_of_ne {sep c : Char} {cs part : List Char} {parts : List (List Char)}
    (hc : c ≠ sep) (h : fields sep cs = part :: parts) :
    fields sep (c :: cs) = (c :: part) :: parts := by
  simp only [fields] at h
  simp [fields, hc, h]

theorem fields_of_not_mem {sep : Char} {cs : List Char} (h : sep ∉ cs) : fields sep cs = [cs] := by
  induction cs with
  | nil => rfl
  | cons c cs ih =>
    simp only [List.mem_cons, not_or] at h
    exact fields_cons_of_ne (Ne.symm h.1) (ih h.2)

/-- The first part ends at the first separator. -/
theorem fields_append_cons {sep : Char} {cs rest : List Char} (h : sep ∉ cs) :
    fields sep (cs ++ sep :: rest) = cs :: fields sep rest := by
  induction cs with
  | nil => exact fields_cons_self sep rest
  | cons c cs ih =>
    simp only [List.mem_cons, not_or] at h
    exact fields_cons_of_ne (Ne.symm h.1) (ih h.2)

theorem cut_append_cons {sep : Char} {cs rest : List Char} (h : sep ∉ cs) :
    cut sep (cs ++ sep :: rest) = some (cs, rest) := by
  have hne : ∀ c ∈ cs, (c != sep) = true := by
    intro c hc
    simp only [bne_iff_ne, ne_eq]
    rintro rfl
    exact h hc
  simp [cut, List.dropWhile_append_of_pos hne, List.takeWhile_append_of_pos hne]

theorem cut_cons_self (sep : Char) (cs : List Char) : cut sep (sep :: cs) = some ([], cs) := by
  simp [cut]

theorem cut_cons_of_ne {sep c : Char} (hc : c ≠ sep) (cs : List Char) :
    cut sep (c :: cs) = (cut sep cs).map fun (before, rest) => (c :: before, rest) := by
  have hb : (c != sep) = true := bne_iff_ne.2 hc
  simp only [cut, List.dropWhile_cons, List.takeWhile_cons, hb, if_true]
  cases cs.dropWhile (· != sep) with
  | nil => rfl
  | cons d rest => rfl

theorem cut_eq_none_iff {sep : Char} {cs : List Char} : cut sep cs = none ↔ sep ∉ cs := by
  induction cs with
  | nil => exact ⟨fun _ => List.not_mem_nil, fun _ => rfl⟩
  | cons c cs ih =>
    by_cases hc : c = sep
    · subst hc
      rw [cut_cons_self]
      exact ⟨(fun h => nomatch h), fun h => absurd List.mem_cons_self h⟩
    · rw [cut_cons_of_ne hc, Option.map_eq_none_iff, ih, List.mem_cons, not_or]
      exact ⟨fun h => ⟨Ne.symm hc, h⟩, And.right⟩

@[simp] theorem after_append (bs cs : List Char) : after bs (bs ++ cs) = some cs := by
  induction bs with
  | nil => rfl
  | cons b bs ih => simp [after, ih]

end EventCamera.Text
