import EventCamera.Text.Trim

/-!
# Texts without the blanks at their ends

## Main results

* `Text.trimEnd_append` — what stands in front of a character that is no blank is kept
* `Text.trim_eq_self` — a text without blanks stays as it is
* `Text.trim_trimEnd`, `Text.trim_trim` — blanks at the ends are removed once and for all
-/

namespace EventCamera.Text

variable {a b cs : List Char}

theorem isBlank_of_isDigit {c : Char} (h : c.isDigit = true) : isBlank c = false := by
  have hrange : 48 ≤ c.toNat ∧ c.toNat ≤ 57 := by
    simpa [Char.isDigit, UInt32.le_iff_toNat_le] using h
  simp only [isBlank, Bool.or_eq_false_iff, Bool.and_eq_false_iff, decide_eq_false_iff_not,
    beq_eq_false_iff_ne]
  omega

/-- Whether there are blanks in a text can be computed. -/
theorem isBlank_of_all (h : (cs.all fun c => !isBlank c) = true) {c : Char} (hc : c ∈ cs) :
    isBlank c = false := by
  simpa using List.all_eq_true.1 h c hc

/-- A text without blanks has no line feed. -/
theorem feed_not_mem_of_not_blank (h : ∀ c ∈ cs, isBlank c = false) : '\n' ∉ cs := by
  intro hmem
  exact absurd (h _ hmem) (by decide)

/-! ### The end of a text -/

theorem trimEnd_append_of_blank (hb : ∀ c ∈ b, isBlank c = true) :
    trimEnd (a ++ b) = trimEnd a := by
  rw [trimEnd, trimEnd, List.reverse_append, List.dropWhile_append_of_pos]
  intro c hc
  exact hb c (List.mem_reverse.1 hc)

/-- A text whose last character is no blank stays as it is. -/
theorem trimEnd_concat {c : Char} (hc : isBlank c = false) : trimEnd (a ++ [c]) = a ++ [c] := by
  rw [trimEnd, List.reverse_append, List.reverse_singleton, List.singleton_append,
    List.dropWhile_cons_of_neg (by rw [hc]; exact Bool.false_ne_true), List.reverse_cons,
    List.reverse_reverse]

/-- A text is blank, or it has a last character that is no blank. -/
theorem blank_or_exists_last (cs : List Char) :
    (∀ c ∈ cs, isBlank c = true) ∨
      ∃ front c blanks, cs = front ++ [c] ++ blanks ∧ isBlank c = false ∧
        ∀ d ∈ blanks, isBlank d = true := by
  induction cs with
  | nil =>
    left
    intro c hc
    exact absurd hc List.not_mem_nil
  | cons d cs ih =>
    rcases ih with hblank | ⟨front, c, blanks, rfl, hc, hblanks⟩
    · by_cases hd : isBlank d = true
      · exact .inl (List.forall_mem_cons.2 ⟨hd, hblank⟩)
      · exact .inr ⟨[], d, cs, rfl, by simpa using hd, hblank⟩
    · exact .inr ⟨d :: front, c, blanks, rfl, hc, hblanks⟩

theorem trimEnd_of_blank (h : ∀ c ∈ cs, isBlank c = true) : trimEnd cs = [] :=
  trimEnd_append_of_blank (a := []) h

/-- What stands in front of a character that is no blank is kept. -/
theorem trimEnd_append (h : ∃ c ∈ b, isBlank c = false) : trimEnd (a ++ b) = a ++ trimEnd b := by
  rcases blank_or_exists_last b with hblank | ⟨front, c, blanks, rfl, hc, hblanks⟩
  · obtain ⟨c, hmem, hc⟩ := h
    rw [hblank c hmem] at hc
    cases hc
  · rw [← List.append_assoc, trimEnd_append_of_blank hblanks, trimEnd_append_of_blank hblanks,
      ← List.append_assoc, trimEnd_concat hc, trimEnd_concat hc, List.append_assoc]

theorem trimEnd_cons_of_not_blank {c : Char} (hc : isBlank c = false) (cs : List Char) :
    trimEnd (c :: cs) = c :: trimEnd cs := by
  rcases blank_or_exists_last cs with hblank | ⟨front, d, blanks, rfl, hd, -⟩
  · rw [← List.singleton_append, trimEnd_append_of_blank hblank, trimEnd_of_blank hblank]
    exact trimEnd_concat (a := []) hc
  · exact trimEnd_append (a := [c]) ⟨d, by simp, hd⟩

/-- What stands in front of blanks is kept up to its last character, which is no blank. -/
theorem trimEnd_append_of_not_blank (hne : a ≠ []) (ha : ∀ c ∈ a, isBlank c = false)
    (b : List Char) : trimEnd (a ++ b) = a ++ trimEnd b := by
  induction a with
  | nil => exact absurd rfl hne
  | cons c cs ih =>
    rw [List.cons_append, trimEnd_cons_of_not_blank (ha c List.mem_cons_self)]
    by_cases hcs : cs = []
    · rw [hcs, List.nil_append, List.singleton_append]
    · have htail : ∀ d ∈ cs, isBlank d = false := by
        intro d hd
        exact ha d (List.mem_cons_of_mem _ hd)
      rw [ih hcs htail, List.cons_append]

theorem trimEnd_eq_self (h : ∀ c ∈ cs, isBlank c = false) : trimEnd cs = cs := by
  by_cases hcs : cs = []
  · rw [hcs, trimEnd_nil]
  · simpa using trimEnd_append_of_not_blank hcs h []

@[simp] theorem trimEnd_trimEnd (cs : List Char) : trimEnd (trimEnd cs) = trimEnd cs := by
  rcases blank_or_exists_last cs with hblank | ⟨front, c, blanks, rfl, hc, hblanks⟩
  · rw [trimEnd_of_blank hblank, trimEnd_nil]
  · rw [trimEnd_append_of_blank hblanks, trimEnd_concat hc, trimEnd_concat hc]

/-! ### Both ends -/

theorem trimStart_cons_of_blank {c : Char} (hc : isBlank c = true) (cs : List Char) :
    trimStart (c :: cs) = trimStart cs :=
  List.dropWhile_cons_of_pos hc

theorem trimStart_cons_of_not_blank {c : Char} (hc : isBlank c = false) (cs : List Char) :
    trimStart (c :: cs) = c :: cs :=
  List.dropWhile_cons_of_neg (by rw [hc]; exact Bool.false_ne_true)

theorem trim_cons_of_blank {c : Char} (hc : isBlank c = true) (cs : List Char) :
    trim (c :: cs) = trim cs := by
  rw [trim, trim, trimStart_cons_of_blank hc]

theorem trim_cons_of_not_blank {c : Char} (hc : isBlank c = false) (cs : List Char) :
    trim (c :: cs) = trimEnd (c :: cs) := by
  rw [trim, trimStart_cons_of_not_blank hc]

theorem trim_eq_self (h : ∀ c ∈ cs, isBlank c = false) : trim cs = cs := by
  cases cs with
  | nil => rfl
  | cons c cs =>
    rw [trim_cons_of_not_blank (h c List.mem_cons_self), trimEnd_eq_self h]

/-- Blanks at the end are removed once and for all. -/
@[simp] theorem trim_trimEnd (cs : List Char) : trim (trimEnd cs) = trim cs := by
  -- Blanks in front go one by one, until one is met that is none, or nothing is left.
  induction cs with
  | nil => rfl
  | cons c cs ih =>
    by_cases hc : isBlank c = true
    · rcases blank_or_exists_last cs with hblank | ⟨front, d, blanks, rfl, hd, hblanks⟩
      · rw [trimEnd_of_blank (List.forall_mem_cons.2 ⟨hc, hblank⟩), trim_cons_of_blank hc, ← ih,
          trimEnd_of_blank hblank]
      · have hmem : ∃ x ∈ front ++ [d] ++ blanks, isBlank x = false := ⟨d, by simp, hd⟩
        rw [trim_cons_of_blank hc, ← ih, ← List.singleton_append, trimEnd_append hmem,
          List.singleton_append, trim_cons_of_blank hc]
    · have hc' : isBlank c = false := by simpa using hc
      rw [trimEnd_cons_of_not_blank hc', trim_cons_of_not_blank hc',
        trimEnd_cons_of_not_blank hc', trimEnd_trimEnd, trim_cons_of_not_blank hc',
        trimEnd_cons_of_not_blank hc']

/-- A text without the blanks at its ends stays as it is. -/
@[simp] theorem trim_trim (cs : List Char) : trim (trim cs) = trim cs := by
  induction cs with
  | nil => rfl
  | cons c cs ih =>
    by_cases hc : isBlank c = true
    · rw [trim_cons_of_blank hc, ih]
    · rw [trim_cons_of_not_blank (by simpa using hc), trim_trimEnd,
        trim_cons_of_not_blank (by simpa using hc)]

/-! ### What is left -/

theorem isPrefix_trimEnd (cs : List Char) : trimEnd cs <+: cs := by
  rw [trimEnd, ← List.reverse_suffix, List.reverse_reverse]
  exact List.dropWhile_suffix isBlank

theorem mem_of_mem_trimEnd {c : Char} (h : c ∈ trimEnd cs) : c ∈ cs :=
  (isPrefix_trimEnd cs).subset h

theorem mem_of_mem_trim {c : Char} (h : c ∈ trim cs) : c ∈ cs :=
  (List.dropWhile_sublist isBlank).subset (mem_of_mem_trimEnd h)

end EventCamera.Text
