import EventCamera.Window
import Mathlib.Data.List.Defs
import Mathlib.Data.List.Pairwise
import Mathlib.Data.List.TakeWhile

/-!
# Events divided into windows

A window takes the first of the events that are left: as many as it may hold, or those within the
span of the first one. Where both are possible, it depends on how many events have been gathered
which of the two it takes. Apart from that, the events alone decide where the windows end.

## Main definitions

* `Window.spanned` — the number of first events within the span
* `Window.CanDivide` — events whose order suffices for the window
* `Window.IsCut` — the number of events that a window may take
* `Window.Divides` — events divided into windows
* `Window.Bounds` — what holds of a window and those behind it
* `Window.Contested` — a window may end at either bound
* `divideBySpan` — events divided by a span alone

## Main results

* `Window.isCut_release` — what is handed out of the events gathered is a cut of all that are left
* `Window.Divides.bounds` — every window of a division is bounded
* `Window.Divides.eq_divideBySpan` — fewer events than a window may hold are divided by the span
* `Window.Divides.eq_toChunks` — a window without a span divides by number
* `Window.Divides.take_eq` — two divisions agree as far as no window is contested
-/

namespace EventCamera

namespace Window

variable {w : Window} {es rest : List Event} {first last next : Event} {n m : Nat}

/-! ### The span -/

/-- No time is beyond the greatest one, so the span need not stop there. -/
theorem inSpan_iff {e : Event} :
    w.inSpan first e = true ↔ e.t.toNat ≤ first.t.toNat + w.deltaT.toNat := by
  have := e.t.toNat_lt
  simp only [inSpan, decide_eq_true_eq, UInt64.size]
  omega

/-- The events span more than the window may if the last of them is beyond the span. -/
theorem exceedsSpan_eq (hfirst : es.head? = some first) (hlast : es.getLast? = some last) :
    w.exceedsSpan es = !w.inSpan first last := by
  rw [Bool.eq_iff_iff, Bool.not_eq_true', ← Bool.not_eq_true, inSpan_iff]
  simp only [exceedsSpan, hfirst, hlast, decide_eq_true_eq]
  omega

/-- The number of first events within the span of the very first; all of them if the span does not
bound the window. -/
def spanned (w : Window) (es : List Event) : Nat :=
  match es with
  | [] => 0
  | first :: _ =>
    if w.isTimeBounded then (es.takeWhile (w.inSpan first)).length else es.length

theorem spanned_of_isTimeBounded (hb : w.isTimeBounded = true) (hfirst : es.head? = some first) :
    w.spanned es = (es.takeWhile (w.inSpan first)).length := by
  obtain ⟨rest, rfl⟩ := List.head?_eq_some_iff.1 hfirst
  rw [spanned, if_pos hb]

theorem spanned_of_not_isTimeBounded (hb : ¬w.isTimeBounded = true) :
    w.spanned es = es.length := by
  cases es with
  | nil => rfl
  | cons first rest => rw [spanned, if_neg hb]

theorem spanned_le_length (w : Window) (es : List Event) : w.spanned es ≤ es.length := by
  cases es with
  | nil => exact Nat.le_refl 0
  | cons first rest =>
    rw [spanned]
    split
    · exact (List.takeWhile_sublist _).length_le
    · exact Nat.le_refl _

theorem spanned_pos (w : Window) (hes : es ≠ []) : 0 < w.spanned es := by
  cases es with
  | nil => exact absurd rfl hes
  | cons first rest =>
    rw [spanned]
    split
    · simp [w.inSpan_self first]
    · simp

/-- The events within the span are those at most the span later than the first. -/
theorem take_spanned (hb : w.isTimeBounded = true) (hfirst : es.head? = some first) :
    es.take (w.spanned es) = es.takeWhile (w.inSpan first) := by
  rw [spanned_of_isTimeBounded hb hfirst]
  exact (List.prefix_iff_eq_take.1 (List.takeWhile_prefix _)).symm

theorem drop_spanned (hb : w.isTimeBounded = true) (hfirst : es.head? = some first) :
    es.drop (w.spanned es) = es.dropWhile (w.inSpan first) := by
  have hsplit := List.takeWhile_append_dropWhile (p := w.inSpan first) (l := es)
  rw [← take_spanned hb hfirst] at hsplit
  exact List.append_cancel_left ((List.take_append_drop _ _).trans hsplit.symm)

/-- The event behind those within the span is beyond it. -/
theorem inSpan_of_head?_drop_spanned (hb : w.isTimeBounded = true)
    (hfirst : es.head? = some first) (hnext : (es.drop (w.spanned es)).head? = some next) :
    w.inSpan first next = false := by
  rw [drop_spanned hb hfirst] at hnext
  have hnot := List.head?_dropWhile_not (w.inSpan first) es
  rw [hnext] at hnot
  exact hnot

/-- The window can divide the events: they are in order of time, if the span bounds it. -/
def CanDivide (w : Window) (es : List Event) : Prop :=
  w.isTimeBounded = true → es.Pairwise (·.t ≤ ·.t)

theorem canDivide_of_pairwise (ho : es.Pairwise (·.t ≤ ·.t)) : w.CanDivide es := fun _ => ho

theorem canDivide_of_not_isTimeBounded (hb : ¬w.isTimeBounded = true) : w.CanDivide es :=
  fun hb' => absurd hb' hb

theorem CanDivide.sublist {es' : List Event} (ho : w.CanDivide es) (hsub : es'.Sublist es) :
    w.CanDivide es' := fun hb => (ho hb).sublist hsub

theorem CanDivide.drop (ho : w.CanDivide es) (n : Nat) : w.CanDivide (es.drop n) :=
  ho.sublist (List.drop_sublist n es)

/-- Events that span no more than the window may are all within the span. -/
theorem spanned_eq_length (ho : w.CanDivide es)
    (hspan : (w.isTimeBounded && w.exceedsSpan es) = false) : w.spanned es = es.length := by
  by_cases hb : w.isTimeBounded = true
  · cases es with
    | nil => rfl
    | cons first rest =>
      have hlast := List.getLast?_eq_some_getLast (List.cons_ne_nil first rest)
      rw [hb, Bool.true_and, exceedsSpan_eq rfl hlast, Bool.not_eq_false', inSpan_iff] at hspan
      -- The last is within the span, and all the others are no later.
      have hall : ∀ e ∈ first :: rest, w.inSpan first e = true := by
        intro e he
        have hle := (ho hb).rel_getLast_of_rel_getLast_getLast he (UInt64.le_refl _)
        rw [inSpan_iff]
        exact Nat.le_trans (UInt64.le_iff_toNat_le.1 hle) hspan
      rw [spanned_of_isTimeBounded hb rfl, List.takeWhile_eq_self_iff.2 hall]
  · exact spanned_of_not_isTimeBounded hb

/-- Once the events span more than the window may, those still to come change nothing. -/
theorem spanned_append (hb : w.isTimeBounded = true) (hexceeds : w.exceedsSpan es = true)
    (rest : List Event) :
    w.spanned (es ++ rest) = w.spanned es ∧ w.spanned es < es.length := by
  cases es with
  | nil => cases hexceeds
  | cons first es =>
    have hlast := List.getLast?_eq_some_getLast (List.cons_ne_nil first es)
    rw [exceedsSpan_eq rfl hlast, Bool.not_eq_true', ← Bool.not_eq_true] at hexceeds
    have hlt : w.spanned (first :: es) < (first :: es).length := by
      refine Nat.lt_of_le_of_ne (w.spanned_le_length _) ?_
      intro hall
      rw [spanned_of_isTimeBounded hb rfl] at hall
      have hself := (List.takeWhile_sublist _).eq_of_length hall
      exact hexceeds (List.takeWhile_eq_self_iff.1 hself _ (List.getLast_mem _))
    refine ⟨?_, hlt⟩
    have hhead : (first :: es ++ rest).head? = some first := rfl
    have hbuffer : w.spanned (first :: es) = _ := spanned_of_isTimeBounded hb rfl
    rw [hbuffer] at hlt ⊢
    rw [spanned_of_isTimeBounded hb hhead, List.takeWhile_append, if_neg (by omega)]

/-! ### Cuts -/

/-- A window may take `n` of the events that are left: as many as it may hold, or, if these are
fewer, those within the span. -/
inductive IsCut (w : Window) (es : List Event) : Nat → Prop
  | full (h : w.maxEvents.toNat ≤ es.length) : IsCut w es w.maxEvents.toNat
  | spanned (h : w.spanned es < w.maxEvents.toNat) : IsCut w es (w.spanned es)

theorem IsCut.le_maxEvents (h : w.IsCut es n) : n ≤ w.maxEvents.toNat := by
  cases h with
  | full => exact Nat.le_refl _
  | spanned h => exact h.le

theorem IsCut.le_length (h : w.IsCut es n) : n ≤ es.length := by
  cases h with
  | full h => exact h
  | spanned => exact w.spanned_le_length es

theorem IsCut.pos (h : w.IsCut es n) (hes : es ≠ []) : 0 < n := by
  cases h with
  | full => exact w.maxEvents_pos
  | spanned => exact w.spanned_pos hes

/-- If there is an event, then the window takes one. -/
theorem IsCut.take_eq_nil_iff (h : w.IsCut es n) : es.take n = [] ↔ es = [] := by
  rw [List.take_eq_nil_iff, or_iff_right_iff_imp]
  rintro rfl
  by_contra hes
  exact absurd (h.pos hes) (Nat.lt_irrefl _)

theorem IsCut.eq_spanned (h : w.IsCut es n) (hn : n < w.maxEvents.toNat) : n = w.spanned es := by
  cases h with
  | full => exact absurd hn (Nat.lt_irrefl _)
  | spanned => rfl

/-- Fewer events than the window may hold are cut by the span. -/
theorem IsCut.eq_spanned_of_length_lt (h : w.IsCut es n) (hlen : es.length < w.maxEvents.toNat) :
    n = w.spanned es :=
  h.eq_spanned (Nat.lt_of_le_of_lt h.le_length hlen)

theorem release_of_ne_timeCap {reason : WindowExit} (h : reason ≠ .timeCap) (search : Search) :
    w.release es reason search = min es.length w.maxEvents.toNat := by
  rw [release]
  intro _ _ htime _
  exact h htime

/-- What is handed out once the events gathered are enough is a cut of all that are left, whatever
is still to come. If it is not a full window, some of the events gathered are kept. -/
theorem isCut_release {buffer : List Event} {reason : WindowExit}
    (ho : w.CanDivide buffer) (hexit : w.exitReason? buffer = some reason)
    (search : Search) (rest : List Event) :
    w.IsCut (buffer ++ rest) (w.release buffer reason search) ∧
      (w.release buffer reason search < w.maxEvents.toNat →
        w.release buffer reason search < buffer.length) := by
  rw [exitReason?] at hexit
  split at hexit
  · rename_i hfull
    cases hexit
    rw [release_of_ne_timeCap (by decide), Nat.min_eq_right hfull]
    refine ⟨.full ?_, fun hfew => absurd hfew (Nat.lt_irrefl _)⟩
    rw [List.length_append]
    omega
  · rename_i hfew
    split at hexit
    · rename_i hspan
      cases hexit
      rw [Bool.and_eq_true] at hspan
      obtain ⟨hb, hexceeds⟩ := hspan
      -- The span is exceeded within the events gathered, so its end can be found among them.
      obtain ⟨happend, hlt⟩ := spanned_append hb hexceeds rest
      have hrelease : w.release buffer .timeCap search = w.spanned buffer := by
        cases buffer with
        | nil => cases hexceeds
        | cons first buffer =>
          rw [spanned_of_isTimeBounded hb rfl,
            ← search.count_eq_takeWhile (w.ordered_inSpan first (ho hb))] at hlt ⊢
          rw [release]
          omega
      rw [hrelease]
      refine ⟨?_, fun _ => hlt⟩
      rw [← happend]
      exact .spanned (by omega)
    · cases hexit

/-- At the end of the stream, all events gathered are handed out, as fewer were not enough. -/
theorem release_endOfStream (hexit : w.exitReason? es = none) (search : Search) :
    w.release es .endOfStream search = es.length ∧ es.length < w.maxEvents.toNat := by
  rw [exitReason?] at hexit
  split at hexit
  · cases hexit
  · rename_i hfew
    rw [Nat.not_le] at hfew
    rw [release_of_ne_timeCap (by decide), Nat.min_eq_left hfew.le]
    exact ⟨rfl, hfew⟩

theorem isCut_length (ho : w.CanDivide es) (hexit : w.exitReason? es = none) :
    w.IsCut es es.length := by
  obtain ⟨-, hfew⟩ := release_endOfStream hexit .linear
  rw [exitReason?, if_neg (Nat.not_le.2 hfew)] at hexit
  have hall : w.spanned es = es.length := by
    refine spanned_eq_length ho (Bool.eq_false_iff.2 ?_)
    intro hspan
    rw [if_pos hspan] at hexit
    cases hexit
  rw [← hall] at hfew ⊢
  exact .spanned hfew

/-! ### Divisions -/

/-- The events are divided into the windows listed, each of them a cut of what is left by those
before it. -/
inductive Divides (w : Window) : List Event → List (List Event) → Prop
  | done : Divides w [] []
  | window {es : List Event} {n : Nat} {parts : List (List Event)} (hes : es ≠ [])
      (hcut : w.IsCut es n) (rest : Divides w (es.drop n) parts) : Divides w es (es.take n :: parts)

variable {parts parts' : List (List Event)}

theorem Divides.eq_nil (h : w.Divides [] parts) : parts = [] := by
  cases h with
  | done => rfl
  | window hes => exact absurd rfl hes

theorem Divides.flatten (h : w.Divides es parts) : parts.flatten = es := by
  induction h with
  | done => rfl
  | window _ _ _ ih => rw [List.flatten_cons, ih, List.take_append_drop]

theorem Divides.ne_nil (h : w.Divides es parts) : ∀ part ∈ parts, part ≠ [] := by
  induction h with
  | done => simp
  | window hes hcut _ ih =>
    intro part hpart
    rcases List.mem_cons.1 hpart with rfl | hpart
    · rwa [Ne, hcut.take_eq_nil_iff]
    · exact ih part hpart

theorem Divides.length_le (h : w.Divides es parts) :
    ∀ part ∈ parts, part.length ≤ w.maxEvents.toNat := by
  induction h with
  | done => simp
  | window _ hcut _ ih =>
    refine List.forall_mem_cons.2 ⟨?_, ih⟩
    exact (List.length_take_le _ _).trans hcut.le_maxEvents

/-- What holds of the events `es` of a window and of those of the windows behind it: no more than
the window may hold; if fewer, then no more than it may span, and what follows is beyond. -/
structure Bounds (w : Window) (es : List Event) (later : List (List Event)) : Prop where
  length_le : es.length ≤ w.maxEvents.toNat
  span_le (h : es.length < w.maxEvents.toNat) (hb : w.isTimeBounded = true) :
    ∀ first ∈ es.head?, ∀ last ∈ es.getLast?, last.t.toNat - first.t.toNat ≤ w.deltaT.toNat
  next_beyond (h : es.length < w.maxEvents.toNat) (hlater : ∃ part ∈ later, part ≠ []) :
    ∃ first next, es.head? = some first ∧ later.head?.bind List.head? = some next ∧
      first.t.toNat + w.deltaT.toNat < next.t.toNat

theorem Divides.head?_bind (h : w.Divides es parts) : parts.head?.bind List.head? = es.head? := by
  cases h with
  | done => rfl
  | window hes hcut _ =>
    rw [List.head?_cons, Option.bind_some, List.head?_take, if_neg (hcut.pos hes).ne']

/-- A window is bounded by itself and by the first event behind it. Windows without events may
follow those of a division. -/
theorem IsCut.bounds (hcut : w.IsCut es n) (hrest : w.Divides (es.drop n) parts)
    {trail : List (List Event)} (htrail : ∀ part ∈ trail, part = []) :
    w.Bounds (es.take n) (parts ++ trail) := by
  have hlength : (es.take n).length = n := by
    rw [List.length_take, Nat.min_eq_left hcut.le_length]
  refine ⟨by rw [hlength]; exact hcut.le_maxEvents, ?_, ?_⟩
  · intro hfew hb first hfirst last hlast
    rw [hlength] at hfew
    have hhead : es.head? = some first := by
      rw [Option.mem_def, List.head?_take] at hfirst
      split at hfirst
      · cases hfirst
      · exact hfirst
    have hin : last ∈ es.takeWhile (w.inSpan first) := by
      rw [← take_spanned hb hhead, ← hcut.eq_spanned hfew]
      exact List.mem_of_getLast? hlast
    have := inSpan_iff.1 (List.mem_takeWhile_imp hin)
    omega
  · rintro hfew ⟨part, hpart, hsome⟩
    rw [hlength] at hfew
    -- An event behind the window is one of the division, so the division goes on.
    have hparts : part ∈ parts := by
      rcases List.mem_append.1 hpart with hpart | hpart
      · exact hpart
      · exact absurd (htrail part hpart) hsome
    have hmore : es.drop n ≠ [] := by
      rw [← hrest.flatten, Ne, List.flatten_eq_nil_iff]
      intro hnone
      exact hsome (hnone part hparts)
    obtain ⟨next, hnext⟩ : ∃ next, (es.drop n).head? = some next :=
      ⟨_, List.head?_eq_some_head hmore⟩
    obtain ⟨first, hfirst⟩ : ∃ first, es.head? = some first :=
      ⟨_, List.head?_eq_some_head (by rintro rfl; exact hmore List.drop_nil)⟩
    obtain rfl := hcut.eq_spanned hfew
    -- Without a bound on the span, nothing would be left.
    have hb : w.isTimeBounded = true := by
      by_contra hb
      rw [spanned_of_not_isTimeBounded hb, List.drop_length] at hmore
      exact hmore rfl
    refine ⟨first, next, ?_, ?_, ?_⟩
    · rw [List.head?_take, if_neg (w.spanned_pos (by rintro rfl; cases hfirst)).ne', hfirst]
    · obtain ⟨second, others, rfl⟩ := List.exists_cons_of_ne_nil (List.ne_nil_of_mem hparts)
      exact hrest.head?_bind.trans hnext
    · rw [← Nat.not_le, ← inSpan_iff, inSpan_of_head?_drop_spanned hb hfirst hnext]
      exact Bool.false_ne_true

theorem bounds_nil {later : List (List Event)} (hlater : ∀ part ∈ later, part = []) :
    w.Bounds [] later where
  length_le := Nat.zero_le _
  span_le := by simp
  next_beyond := by
    rintro - ⟨part, hpart, hsome⟩
    exact absurd (hlater part hpart) hsome

/-- Every window of a division is bounded. -/
theorem Divides.bounds (h : w.Divides es parts) {trail : List (List Event)}
    (htrail : ∀ part ∈ trail, part = []) {before later : List (List Event)} {part : List Event}
    (hpart : parts ++ trail = before ++ part :: later) : w.Bounds part later := by
  -- Induction on the division; the window in question is the first one or one of the rest.
  induction h generalizing before with
  | done =>
    rw [List.nil_append] at hpart
    rw [hpart] at htrail
    obtain rfl := htrail part (by simp)
    exact bounds_nil fun part' hmem => htrail part' (by simp [hmem])
  | @window es n parts hes hcut hrest ih =>
    cases before with
    | nil =>
      obtain ⟨rfl, rfl⟩ := List.cons.inj hpart
      exact hcut.bounds hrest htrail
    | cons first before => exact ih (List.cons.inj hpart).2

end Window

/-- Events divided by a span alone: each part takes those at most the span later than the first
event that is left. -/
def divideBySpan (span : Nat) : List Event → List (List Event)
  | [] => []
  | first :: rest =>
    (first :: rest.takeWhile (·.t.toNat ≤ first.t.toNat + span)) ::
      divideBySpan span (rest.dropWhile (·.t.toNat ≤ first.t.toNat + span))
termination_by es => es.length
decreasing_by exact Nat.lt_succ_of_le (List.dropWhile_sublist _).length_le

namespace Window

variable {w : Window} {es : List Event} {parts parts' : List (List Event)} {n m : Nat}

/-- Fewer events than a window may hold are divided by the span. -/
theorem Divides.eq_divideBySpan (h : w.Divides es parts) (hb : w.isTimeBounded = true)
    (hfew : es.length < w.maxEvents.toNat) : parts = divideBySpan w.deltaT.toNat es := by
  induction h with
  | done => rw [divideBySpan]
  | @window es n parts hes hcut hrest ih =>
    obtain ⟨first, rest, rfl⟩ := List.exists_cons_of_ne_nil hes
    obtain rfl := hcut.eq_spanned_of_length_lt hfew
    have hself := w.inSpan_self first
    have hin : w.inSpan first = fun e => decide (e.t.toNat ≤ first.t.toNat + w.deltaT.toNat) := by
      funext e
      rw [Bool.eq_iff_iff, inSpan_iff, decide_eq_true_eq]
    rw [ih (Nat.lt_of_le_of_lt (List.drop_sublist _ _).length_le hfew), take_spanned hb rfl,
      drop_spanned hb rfl, List.takeWhile_cons_of_pos hself, List.dropWhile_cons_of_pos hself,
      divideBySpan, hin]

end Window

/-! ### Division by number alone -/

section Chunks

variable {α : Type} {n : Nat}

theorem toChunks_cons (hn : n ≠ 0) (x : α) (xs : List α) :
    (x :: xs).toChunks n = List.toChunks.go n xs #[x] #[] := by
  cases n with
  | zero => exact absurd rfl hn
  | succ n => rfl

/-- The part that is being filled takes what it lacks, and the rest is divided. -/
theorem toChunks_go (hn : n ≠ 0) (xs : List α) (part : Array α) (parts : Array (List α))
    (hpart : part.size ≤ n) :
    List.toChunks.go n xs part parts =
      parts.toList ++ (part.toList ++ xs.take (n - part.size)) ::
        (xs.drop (n - part.size)).toChunks n := by
  induction xs generalizing part parts with
  | nil => simp [List.toChunks.go, List.toChunks]
  | cons x xs ih =>
    rw [List.toChunks.go]
    by_cases hfull : part.size = n
    · -- A new part begins, here as at the front of what is left.
      have hnew : (Array.mkEmpty n : Array α).push x = #[x] := rfl
      have hone : #[x].size ≤ n := Nat.one_le_iff_ne_zero.2 hn
      rw [if_pos (beq_iff_eq.2 hfull), hnew, ih _ _ hone, hfull, Nat.sub_self, List.drop_zero,
        toChunks_cons hn, ih _ _ hone]
      simp
    · obtain ⟨k, hk⟩ : ∃ k, n - part.size = k + 1 := ⟨n - part.size - 1, by omega⟩
      have hnext : n - (part.push x).size = k := by
        rw [Array.size_push]
        omega
      have hsize : (part.push x).size ≤ n := by
        rw [Array.size_push]
        omega
      rw [if_neg (by simpa using hfull), ih _ _ hsize, hk, hnext]
      simp

/-- The first part takes as many as a part may hold. -/
theorem toChunks_of_ne_nil {xs : List α} (hn : n ≠ 0) (hxs : xs ≠ []) :
    xs.toChunks n = xs.take n :: (xs.drop n).toChunks n := by
  obtain ⟨x, xs, rfl⟩ := List.exists_cons_of_ne_nil hxs
  obtain ⟨k, rfl⟩ := Nat.exists_eq_succ_of_ne_zero hn
  rw [toChunks_cons hn, toChunks_go hn _ _ _ (by simp)]
  simp

end Chunks

namespace Window

variable {w : Window} {es : List Event} {parts parts' : List (List Event)} {n m : Nat}

/-- Without a bound on the span, a window takes as many events as it may hold, or all. -/
theorem IsCut.eq_min (h : w.IsCut es n) (hb : ¬w.isTimeBounded = true) :
    n = min w.maxEvents.toNat es.length := by
  cases h with
  | full h => exact (Nat.min_eq_left h).symm
  | spanned h =>
    rw [spanned_of_not_isTimeBounded hb] at h ⊢
    exact (Nat.min_eq_right h.le).symm

/-- Without a bound on the span, events are divided by their number alone. -/
theorem Divides.eq_toChunks (h : w.Divides es parts) (hb : ¬w.isTimeBounded = true) :
    parts = es.toChunks w.maxEvents.toNat := by
  induction h with
  | done => rw [List.toChunks]
  | @window es n parts hes hcut _ ih =>
    obtain rfl := hcut.eq_min hb
    rw [toChunks_of_ne_nil w.maxEvents_pos.ne' hes, ih]
    rcases Nat.le_total w.maxEvents.toNat es.length with hle | hle
    · rw [Nat.min_eq_left hle]
    · rw [Nat.min_eq_right hle, List.drop_length, List.take_length, List.drop_eq_nil_of_le hle,
        List.take_of_length_le hle]

/-- Only the last part may hold fewer events than a window may. -/
theorem Divides.length_of_mem_dropLast (h : w.Divides es parts) (hb : ¬w.isTimeBounded = true) :
    ∀ part ∈ parts.dropLast, part.length = w.maxEvents.toNat := by
  induction h with
  | done => exact fun _ hpart => absurd hpart List.not_mem_nil
  | @window es n parts _ hcut hrest ih =>
    cases parts with
    | nil => exact fun _ hpart => absurd hpart List.not_mem_nil
    | cons next parts =>
      rw [List.dropLast_cons_cons]
      refine List.forall_mem_cons.2 ⟨?_, ih⟩
      -- Behind a part that is not full, no event would be left.
      have hmore : es.drop n ≠ [] := by
        intro hnone
        rw [hnone] at hrest
        cases hrest.eq_nil
      rw [Ne, List.drop_eq_nil_iff] at hmore
      have hn := hcut.eq_min hb
      rw [List.length_take]
      omega

/-! ### Windows that may end at either bound -/

/-- There are as many events as the window may hold, and these span more than it may. How many of
them have been gathered decides at which bound the window ends. -/
def Contested (w : Window) (es : List Event) : Prop :=
  w.isTimeBounded = true ∧ ∃ first last, es.head? = some first ∧
    es[w.maxEvents.toNat - 1]? = some last ∧ first.t.toNat + w.deltaT.toNat < last.t.toNat

/-- Contested is what can be cut by either bound. -/
theorem contested_iff (ho : es.Pairwise (·.t ≤ ·.t)) :
    w.Contested es ↔ w.maxEvents.toNat ≤ es.length ∧ w.spanned es < w.maxEvents.toNat := by
  have hpos := w.maxEvents_pos
  constructor
  · rintro ⟨hb, first, last, hfirst, hlast, hbeyond⟩
    obtain ⟨hlt, rfl⟩ := List.getElem?_eq_some_iff.1 hlast
    refine ⟨by omega, ?_⟩
    -- Were the last one within the span, it would be among the first ones that are.
    by_contra hspanned
    have hmem : es[w.maxEvents.toNat - 1] ∈ es.takeWhile (w.inSpan first) := by
      rw [← take_spanned hb hfirst]
      exact List.mem_take_iff_getElem.2 ⟨_, by omega, rfl⟩
    have := inSpan_iff.1 (List.mem_takeWhile_imp hmem)
    omega
  · rintro ⟨hfull, hspanned⟩
    have hb : w.isTimeBounded = true := by
      by_contra hb
      rw [spanned_of_not_isTimeBounded hb] at hspanned
      omega
    obtain ⟨first, hfirst⟩ : ∃ first, es.head? = some first :=
      ⟨_, List.head?_eq_some_head (List.ne_nil_of_length_pos (by omega))⟩
    have hlt : w.maxEvents.toNat - 1 < es.length := by omega
    have hspanned' : w.spanned es < es.length := by omega
    refine ⟨hb, first, _, hfirst, List.getElem?_eq_getElem hlt, ?_⟩
    -- The last one is no earlier than the first event beyond the span.
    have hbeyond : ¬w.inSpan first es[w.spanned es] = true := by
      rw [inSpan_of_head?_drop_spanned hb hfirst
        (by rw [List.head?_drop, List.getElem?_eq_getElem hspanned'])]
      exact Bool.false_ne_true
    rw [inSpan_iff, Nat.not_le] at hbeyond
    have hle : es[w.spanned es].t ≤ es[w.maxEvents.toNat - 1].t := by
      rcases Nat.eq_or_lt_of_le (Nat.le_sub_one_of_lt hspanned) with heq | hlt'
      · simp only [heq]
        exact UInt64.le_refl _
      · exact List.pairwise_iff_getElem.1 ho _ _ hspanned' hlt hlt'
    exact Nat.lt_of_lt_of_le hbeyond (UInt64.le_iff_toNat_le.1 hle)

/-- Only where the window is contested does it depend on anything but the events how many it
takes. -/
theorem IsCut.unique (ho : es.Pairwise (·.t ≤ ·.t)) (hn : w.IsCut es n) (hm : w.IsCut es m)
    (hcontested : ¬w.Contested es) : n = m := by
  rw [contested_iff ho] at hcontested
  cases hn with
  | full hfull =>
    cases hm with
    | full => rfl
    | spanned hspanned => exact absurd ⟨hfull, hspanned⟩ hcontested
  | spanned hspanned =>
    cases hm with
    | full hfull => exact absurd ⟨hfull, hspanned⟩ hcontested
    | spanned => rfl

/-- Two divisions agree up to the first window that is contested. -/
theorem Divides.take_eq (ho : es.Pairwise (·.t ≤ ·.t)) (h : w.Divides es parts)
    (h' : w.Divides es parts') {k : Nat}
    (hcontested : ∀ j < k, ¬w.Contested (parts.drop j).flatten) :
    parts.take k = parts'.take k := by
  -- Induction on the division; both start with the same window, and go on behind it.
  induction h generalizing parts' k with
  | done => rw [h'.eq_nil]
  | @window es n parts hes hcut hrest ih =>
    cases h' with
    | done => exact absurd rfl hes
    | @window _ m parts' _ hcut' hrest' =>
      cases k with
      | zero => rfl
      | succ k =>
        have hfirst : ¬w.Contested es := by
          have := hcontested 0 k.succ_pos
          rwa [List.drop_zero, (Divides.window hes hcut hrest).flatten] at this
        obtain rfl := hcut.unique ho hcut' hfirst
        have hparts := ih (ho.sublist (List.drop_sublist _ _)) hrest'
          (fun j hj => hcontested (j + 1) (Nat.succ_lt_succ hj))
        rw [List.take_succ_cons, List.take_succ_cons, hparts]

/-- If no window can be contested, there is only one division. -/
theorem Divides.unique (ho : es.Pairwise (·.t ≤ ·.t)) (h : w.Divides es parts)
    (h' : w.Divides es parts') (hcontested : ∀ k, ¬w.Contested (es.drop k)) : parts = parts' := by
  have htake := h.take_eq ho h' (k := parts.length + parts'.length) fun j _ => by
    -- What is left behind some windows is what is left behind so many events.
    have hsplit : (parts.take j).flatten ++ (parts.drop j).flatten = es := by
      rw [← List.flatten_append, List.take_append_drop, h.flatten]
    have hdrop : (parts.drop j).flatten = es.drop (parts.take j).flatten.length := by
      rw [← hsplit, List.drop_left]
    rw [hdrop]
    exact hcontested _
  rwa [List.take_of_length_le (by omega), List.take_of_length_le (by omega)] at htake

end Window

end EventCamera
