import Mathlib.Data.List.SplitBy

/-!
# Dividing lists behind their ends

Lines are parts of a list that go up to and with the first element that ends them, be it the line
feed of a text or whatever else ends a line as its reader meets it.

## Main definitions

* `divideBehind` — the parts of a list that its ends divide it into

## Main results

* `divideBehind_append_cons` — the first end divides what is in front of it from what follows
* `divideBehind_eq_cons` — what a first part is, and that the others are those of what follows
-/

namespace EventCamera

variable {α : Type}

/-- The parts of a list, each up to and with its first element that `ends` it, which only the last
part may lack. -/
def divideBehind (ends : α → Bool) (as : List α) : List (List α) := as.splitBy fun a _ => !ends a

variable {ends : α → Bool} {as front more part : List α} {parts : List (List α)} {a : α}

@[simp] theorem divideBehind_nil : divideBehind ends [] = [] := List.splitBy_nil _

@[simp] theorem flatten_divideBehind (as : List α) : (divideBehind ends as).flatten = as :=
  List.flatten_splitBy _ as

/-- What has no end, or one at its end only, is not divided. -/
private theorem divideBehind_concat (hfront : ∀ b ∈ front, ends b = false) (a : α) :
    divideBehind ends (front ++ [a]) = [front ++ [a]] := by
  refine List.splitBy_of_isChain (by simp) ?_
  induction front with
  | nil => exact .singleton a
  | cons b front ih =>
    obtain ⟨hb, hlater⟩ := List.forall_mem_cons.1 hfront
    refine (ih hlater).cons ?_
    intro _ _
    rw [hb]
    rfl

theorem divideBehind_of_forall (hne : as ≠ []) (has : ∀ a ∈ as, ends a = false) :
    divideBehind ends as = [as] := by
  obtain ⟨front, a, rfl⟩ := (List.eq_nil_or_concat' as).resolve_left hne
  exact divideBehind_concat (fun b hb => has b (List.mem_append_left _ hb)) a

/-- The first end divides what is in front of it from what follows. -/
theorem divideBehind_append_cons (hfront : ∀ b ∈ front, ends b = false) (ha : ends a = true)
    (more : List α) :
    divideBehind ends (front ++ a :: more) = (front ++ [a]) :: divideBehind ends more := by
  have hends : ∀ b ∈ (front ++ [a]).getLast?, ∀ b' ∈ more.head?, (!ends b) = false := by
    intro b hb _ _
    rw [List.getLast?_concat] at hb
    cases hb
    rw [ha]
    rfl
  rw [List.append_cons, divideBehind, List.splitBy_append hends]
  exact congrArg (· ++ divideBehind ends more) (divideBehind_concat hfront a)

/-- Parts with an end each go in front of those of what follows. -/
theorem divideBehind_flatten_append
    (hparts : ∀ part ∈ parts, ∃ front a, part = front ++ [a] ∧ (∀ b ∈ front, ends b = false) ∧
      ends a = true) (more : List α) :
    divideBehind ends (parts.flatten ++ more) = parts ++ divideBehind ends more := by
  induction parts with
  | nil => rfl
  | cons part parts ih =>
    obtain ⟨⟨front, a, rfl, hfront, ha⟩, hlater⟩ := List.forall_mem_cons.1 hparts
    rw [List.flatten_cons, List.append_assoc, List.append_assoc, List.singleton_append,
      divideBehind_append_cons hfront ha, ih hlater, List.cons_append]

/-- A first part goes up to the first end. If there is none, nothing follows. -/
theorem divideBehind_eq_cons (h : divideBehind ends as = part :: parts) :
    ∃ more, as = part ++ more ∧ divideBehind ends more = parts ∧
      ((∃ front a, part = front ++ [a] ∧ (∀ b ∈ front, ends b = false) ∧ ends a = true) ∨
        more = [] ∧ part ≠ [] ∧ ∀ b ∈ part, ends b = false) := by
  have hne : as ≠ [] := by
    rintro rfl
    cases h
  cases hfind : as.find? ends with
  | some a =>
    -- Up to its first end, the list is the part, and behind it the others are divided.
    obtain ⟨ha, front, more, rfl, hfront⟩ := List.find?_eq_some_iff_append.1 hfind
    have hfront' : ∀ b ∈ front, ends b = false := by simpa using hfront
    rw [divideBehind_append_cons hfront' ha] at h
    cases h
    exact ⟨more, List.append_cons _ _ _, rfl, .inl ⟨front, a, rfl, hfront', ha⟩⟩
  | none =>
    have has : ∀ a ∈ as, ends a = false := by simpa using hfind
    rw [divideBehind_of_forall hne has] at h
    cases h
    exact ⟨[], (List.append_nil _).symm, rfl, .inr ⟨rfl, hne, has⟩⟩

end EventCamera
