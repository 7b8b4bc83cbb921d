/-!
# Finding a border

In a list whose elements with a property come first, a search finds how many those are. On any
other list there is no such border, and what a search gives is not settled: any number up to the
length of the list is possible.

## Main definitions

* `Search` — a way of finding the border, with `Search.linear`, which looks at every element
* `Search.count` — the number of elements in front of the border

## Main results

* `Search.count_eq_takeWhile`, `Search.splitAt_count` — on an ordered list every search finds the
  border, and cuts the list there
-/

namespace EventCamera

/-- A way of finding the border in a list, given which of its elements have the property. -/
structure Search where
  /-- The number of elements in front of the border. -/
  border : List Bool → Nat
  /-- The border lies within the list. -/
  border_le : ∀ flags, border flags ≤ flags.length
  /-- If the elements with the property come first, the border lies behind the last of them. -/
  border_ordered : ∀ n m, border (List.replicate n true ++ List.replicate m false) = n

namespace Search

/-- Looks at the elements one by one, up to the first without the property. -/
def linear : Search where
  border flags := (flags.takeWhile id).length
  border_le flags := (List.takeWhile_sublist id).length_le
  border_ordered n m := by
    rw [List.takeWhile_append_of_pos (by simp)]
    cases m <;> simp [List.replicate_succ]

variable {α : Type} (search : Search)

/-- The number of elements in front of the border between those with a property and the others. -/
def count (p : α → Bool) (l : List α) : Nat := search.border (l.map p)

/-- The border between elements with the property and elements without it. -/
theorem count_append {p : α → Bool} {a b : List α} (ha : ∀ x ∈ a, p x = true)
    (hb : ∀ x ∈ b, p x = false) : search.count p (a ++ b) = a.length := by
  have hfront : a.map p = List.replicate a.length true := by
    simpa [List.eq_replicate_iff] using ha
  have hback : b.map p = List.replicate b.length false := by
    simpa [List.eq_replicate_iff] using hb
  rw [count, List.map_append, hfront, hback, search.border_ordered]

section Ordered

variable {p : α → Bool} {l : List α} (h : l.Pairwise fun x y => p y = true → p x = true)
include h

/-- If the elements with a property come first, none of those behind them has it. -/
theorem of_mem_dropWhile : ∀ x ∈ l.dropWhile p, p x = false := by
  have hsuffix := h.sublist (List.dropWhile_suffix p).sublist
  cases hd : l.dropWhile p with
  | nil => simp
  | cons x rest =>
    have hx : p x = false := by
      have := List.head_dropWhile_not p (l := l) (by simp [hd])
      simpa [hd] using this
    intro y hy
    rw [hd] at hsuffix
    rcases List.mem_cons.1 hy with rfl | hy
    · exact hx
    · cases hpy : p y with
      | false => rfl
      | true => rw [List.rel_of_pairwise_cons hsuffix hy hpy] at hx; cases hx

/-- On a list whose elements with the property come first, every search finds the border. -/
theorem count_eq_takeWhile : search.count p l = (l.takeWhile p).length := by
  have hfront : ∀ x ∈ l.takeWhile p, p x = true := List.all_eq_true.1 List.all_takeWhile
  conv => lhs; rw [← List.takeWhile_append_dropWhile (p := p) (l := l)]
  exact search.count_append hfront (of_mem_dropWhile h)

/-- There, cutting a list at the border leaves the elements with the property in front of it. -/
theorem splitAt_count : l.splitAt (search.count p l) = (l.takeWhile p, l.dropWhile p) := by
  calc l.splitAt (search.count p l)
      = (l.takeWhile p ++ l.dropWhile p).splitAt (l.takeWhile p).length := by
        rw [List.takeWhile_append_dropWhile, search.count_eq_takeWhile h]
    _ = (l.takeWhile p, l.dropWhile p) := by
        rw [List.splitAt_eq, List.take_left, List.drop_left]

end Ordered

end Search

end EventCamera
