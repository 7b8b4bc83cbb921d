import EventCamera.Random.Events
import Mathlib.Algebra.Order.Floor.Div
import Mathlib.Data.UInt

/-!
# Random recordings made chunk by chunk

A recording of random events is made in chunks, each from its own part of the time. The parts follow
one another, as each begins where the one before it has ended, so that the chunks together are
sorted. Where the times run out, because there are fewer of them than chunks or none at all, each
chunk still has one of its own, and the recording runs on behind its end. All that is known of the
generator is that it draws numbers below a bound.

## Main definitions

* `RandomRange.IsDrawable` — events can be drawn from a range
* `RandomRange.Holds` — an event lies in a range
* `RandomChunks.after` — what is left behind some chunks
* `RandomChunks.OnCourse` — there is room in time for the chunks that are left

## Main results

* `RandomChunks.OnCourse.next` — there is room for the next chunk, and behind it for the others
* `RandomChunks.OnCourse.pairwise_all`, `RandomChunks.OnCourse.holds_all` — the chunks together are
  sorted and in range
* `random_recording_in_chunks` — what all chunks come to
-/

namespace EventCamera

variable {σ : Type}

/-! ### Drawing events -/

namespace RandomRange

variable {r : RandomRange} {g : Generator σ} {e : Event}

/-- Events can be drawn from a range: the time behind the first is a number of 64 bits, and there
are times, columns and rows to choose from. -/
structure IsDrawable (r : RandomRange) : Prop where
  toNat_next : (r.start + 1).toNat = r.start.toNat + 1
  times : r.start < max r.stop (r.start + 1)
  columns : 0 < max r.width 1
  rows : 0 < max r.height 1

/-- The event lies in the range. -/
structure Holds (r : RandomRange) (e : Event) : Prop where
  start_le : r.start ≤ e.t
  lt_stop : e.t < max r.stop (r.start + 1)
  column_lt : e.x < max r.width 1
  row_lt : e.y < max r.height 1
  polarity_le : e.p ≤ 1

theorem isDrawable (h : r.start.toNat + 1 < UInt64.size) : r.IsDrawable := by
  have hnext : (r.start + 1).toNat = r.start.toNat + 1 := by
    rw [UInt64.toNat_add]
    exact Nat.mod_eq_of_lt h
  refine ⟨hnext, ?_, ?_, ?_⟩
  · rw [UInt64.lt_iff_toNat_lt, UInt64.toNat_max, hnext]
    omega
  · rw [UInt16.lt_iff_toNat_lt, UInt16.toNat_max]
    exact Nat.lt_of_lt_of_le Nat.one_pos (Nat.le_max_right _ _)
  · rw [UInt16.lt_iff_toNat_lt, UInt16.toNat_max]
    exact Nat.lt_of_lt_of_le Nat.one_pos (Nat.le_max_right _ _)

/-- The times go from the first up to the last. -/
theorem IsDrawable.add_duration (h : r.IsDrawable) :
    r.start.toNat + r.duration = (max r.stop (r.start + 1)).toNat := by
  rw [duration, UInt64.toNat_sub_of_le _ _ (UInt64.le_of_lt h.times)]
  exact Nat.add_sub_cancel' (Nat.le_of_lt (UInt64.lt_iff_toNat_lt.1 h.times))

theorem IsDrawable.duration_pos (h : r.IsDrawable) : 0 < r.duration := by
  have htimes := UInt64.lt_iff_toNat_lt.1 h.times
  rw [← h.add_duration] at htimes
  omega

/-- No time that is drawn goes beyond 64 bits. -/
theorem IsDrawable.toNat_time (h : r.IsDrawable) {t : Nat} (ht : t < r.duration) :
    (r.start + t.toUInt64).toNat = r.start.toNat + t := by
  have hfits : r.start.toNat + t < UInt64.size := by
    refine Nat.lt_trans (Nat.add_lt_add_left ht _) ?_
    rw [h.add_duration]
    exact UInt64.toNat_lt _
  rw [UInt64.toNat_add, Nat.toUInt64_eq,
    UInt64.toNat_ofNat_of_lt' (Nat.lt_of_le_of_lt (Nat.le_add_left _ _) hfits)]
  exact Nat.mod_eq_of_lt hfits

theorem toUInt16_lt {n : Nat} {bound : UInt16} (h : n < bound.toNat) : n.toUInt16 < bound := by
  rw [UInt16.lt_iff_toNat_lt, Nat.toUInt16_eq,
    UInt16.toNat_ofNat_of_lt' (Nat.lt_trans h bound.toNat_lt)]
  exact h

/-- What is drawn from a range lies in it. -/
theorem IsDrawable.holds_drawEvent (h : r.IsDrawable) (g : Generator σ) (s : σ) :
    r.Holds (r.drawEvent g s).1 := by
  obtain ⟨t, s₁, hlong⟩ : ∃ t s₁, g.long r.duration s = (t, s₁) := ⟨_, _, rfl⟩
  obtain ⟨x, s₂, hcolumn⟩ : ∃ x s₂, g.word (max r.width 1).toNat s₁ = (x, s₂) := ⟨_, _, rfl⟩
  obtain ⟨y, s₃, hrow⟩ : ∃ y s₃, g.word (max r.height 1).toNat s₂ = (y, s₃) := ⟨_, _, rfl⟩
  obtain ⟨p, s₄, hpolarity⟩ : ∃ p s₄, g.word 2 s₃ = (p, s₄) := ⟨_, _, rfl⟩
  have ht : t < r.duration := by simpa only [hlong] using g.long_lt (s := s) h.duration_pos
  have hx : x < (max r.width 1).toNat := by
    simpa only [hcolumn] using g.word_lt (s := s₁) (UInt16.lt_iff_toNat_lt.1 h.columns)
  have hy : y < (max r.height 1).toNat := by
    simpa only [hrow] using g.word_lt (s := s₂) (UInt16.lt_iff_toNat_lt.1 h.rows)
  have hp : p < 2 := by simpa only [hpolarity] using g.word_lt (s := s₃) Nat.two_pos
  have hevent : r.drawEvent g s =
      (⟨r.start + t.toUInt64, x.toUInt16, y.toUInt16, p.toUInt8⟩, s₄) := by
    simp only [drawEvent, hlong, hcolumn, hrow, hpolarity]
  have htime := h.toNat_time ht
  rw [hevent]
  refine ⟨?_, ?_, toUInt16_lt hx, toUInt16_lt hy, ?_⟩
  · rw [UInt64.le_iff_toNat_le, htime]
    exact Nat.le_add_right _ _
  · rw [UInt64.lt_iff_toNat_lt, htime, ← h.add_duration]
    exact Nat.add_lt_add_left ht _
  · rw [UInt8.le_iff_toNat_le, Nat.toUInt8_eq,
      UInt8.toNat_ofNat_of_lt' (Nat.lt_trans hp (by decide))]
    exact Nat.le_of_lt_succ hp

theorem size_drawInto (r : RandomRange) (g : Generator σ) (drawn : Array Event) (n : Nat) (s : σ) :
    (r.drawInto g drawn n s).1.size = drawn.size + n := by
  induction n generalizing drawn s with
  | zero => rfl
  | succ n ih =>
    rw [drawInto, ih, Array.size_push]
    omega

theorem IsDrawable.holds_drawInto (h : r.IsDrawable) {drawn : Array Event}
    (hdrawn : ∀ e ∈ drawn, r.Holds e) {n : Nat} {s : σ} :
    ∀ e ∈ (r.drawInto g drawn n s).1, r.Holds e := by
  induction n generalizing drawn s with
  | zero => exact hdrawn
  | succ n ih =>
    refine ih ?_
    intro e he
    rcases Array.mem_push.1 he with he | rfl
    · exact hdrawn e he
    · exact h.holds_drawEvent g s

@[simp] theorem length_draw (r : RandomRange) (g : Generator σ) (n : Nat) (s : σ) :
    (r.draw g n s).1.length = n := by
  rw [draw]
  dsimp only
  rw [List.length_mergeSort, Array.length_toList, size_drawInto]
  exact Nat.zero_add n

theorem IsDrawable.holds_draw (h : r.IsDrawable) {n : Nat} {s : σ} (he : e ∈ (r.draw g n s).1) :
    r.Holds e := by
  have hmem : e ∈ (r.drawInto g #[] n s).1 := by simpa [draw] using he
  exact h.holds_drawInto (by simp) e hmem

theorem pairwise_draw (r : RandomRange) (g : Generator σ) (n : Nat) (s : σ) :
    (r.draw g n s).1.Pairwise (·.t ≤ ·.t) := by
  have htrans : ∀ a b c : Event, decide (a.t ≤ b.t) = true → decide (b.t ≤ c.t) = true →
      decide (a.t ≤ c.t) = true := by
    intro a b c hab hbc
    exact decide_eq_true (UInt64.le_trans (of_decide_eq_true hab) (of_decide_eq_true hbc))
  have htotal : ∀ a b : Event, (decide (a.t ≤ b.t) || decide (b.t ≤ a.t)) = true := by
    intro a b
    simpa using UInt64.le_total a.t b.t
  rw [draw]
  exact (List.pairwise_mergeSort htrans htotal _).imp of_decide_eq_true

end RandomRange

/-! ### Making chunks -/

namespace RandomChunks

variable {c : RandomChunks σ} {limit i : Nat}

/-- The range that the events of the next chunk are drawn from. -/
def chunkRange (c : RandomChunks σ) : RandomRange := { c.range with stop := c.chunkStop }

theorem next_fst (c : RandomChunks σ) :
    c.next.1 = (c.chunkRange.draw c.generator c.count c.state).1 := rfl

@[simp] theorem remaining_next (c : RandomChunks σ) :
    c.next.2.remaining = c.remaining - c.count := rfl

@[simp] theorem chunkSize_next (c : RandomChunks σ) : c.next.2.chunkSize = c.chunkSize := rfl

@[simp] theorem range_next (c : RandomChunks σ) :
    c.next.2.range = { c.range with start := c.chunkStop } := rfl

theorem count_pos (h : c.remaining ≠ 0) : 0 < c.count :=
  Nat.lt_min.2 ⟨Nat.pos_of_ne_zero h, c.chunkSize_pos⟩

theorem remaining_next_lt (h : c.remaining ≠ 0) : c.next.2.remaining < c.remaining :=
  Nat.sub_lt (Nat.pos_of_ne_zero h) (count_pos h)

/-- Chunks that have been made stay in front of those that are left. -/
theorem allInto_eq (made : Array (List Event)) (c : RandomChunks σ) :
    allInto made c = made.toList ++ allInto #[] c := by
  induction hn : c.remaining using Nat.strong_induction_on generalizing made c with
  | _ n ih =>
    subst hn
    rw [allInto, allInto.eq_def #[] c]
    split
    · exact (List.append_nil _).symm
    · rename_i hmore
      have hless := remaining_next_lt hmore
      dsimp only
      rw [ih _ hless (made.push c.next.1) _ rfl, ih _ hless (#[].push c.next.1) _ rfl,
        Array.toList_push, List.append_assoc]
      rfl

theorem all_of_done (h : c.remaining = 0) : c.all = [] := by
  rw [all, allInto, if_pos h]

theorem all_of_more (h : c.remaining ≠ 0) : c.all = c.next.1 :: c.next.2.all := by
  rw [all, allInto, if_neg h]
  exact allInto_eq _ _

/-- Number of chunks that are left. -/
def left (c : RandomChunks σ) : Nat := c.remaining ⌈/⌉ c.chunkSize

theorem left_of_done (h : c.remaining = 0) : c.left = 0 := by
  rw [left, h, zero_ceilDiv]

theorem remaining_next_of_last (h : c.remaining ≤ c.chunkSize) : c.next.2.remaining = 0 := by
  rw [remaining_next, count, Nat.min_eq_left h, Nat.sub_self]

theorem left_of_more (h : c.remaining ≠ 0) : c.left = c.next.2.left + 1 := by
  have hsize := c.chunkSize_pos
  rcases Nat.le_total c.remaining c.chunkSize with hlast | hfull
  · rw [left_of_done (remaining_next_of_last hlast), left, Nat.ceilDiv_eq_add_pred_div]
    exact Nat.div_eq_of_lt_le (by omega) (by omega)
  · rw [left, left, Nat.ceilDiv_eq_add_pred_div, Nat.ceilDiv_eq_add_pred_div, remaining_next,
      chunkSize_next, count, Nat.min_eq_right hfull, ← Nat.add_div_right _ hsize]
    congr 1
    omega

/-- What holds when nothing is left, and in front of a chunk if it holds behind it, holds always. -/
theorem chunk_induction {motive : RandomChunks σ → Prop}
    (done : ∀ c, c.remaining = 0 → motive c)
    (more : ∀ c, c.remaining ≠ 0 → motive c.next.2 → motive c) (c : RandomChunks σ) : motive c := by
  induction hn : c.remaining using Nat.strong_induction_on generalizing c with
  | _ n ih =>
    subst hn
    by_cases h : c.remaining = 0
    · exact done c h
    · exact more c h (ih _ (remaining_next_lt h) _ rfl)

/-! ### Sizes of chunks -/

theorem length_all (c : RandomChunks σ) : c.all.length = c.left := by
  induction c using chunk_induction with
  | done c h => rw [all_of_done h, left_of_done h, List.length_nil]
  | more c h ih => rw [all_of_more h, left_of_more h, List.length_cons, ih]

theorem length_next (c : RandomChunks σ) : c.next.1.length = c.count := by
  rw [next_fst, RandomRange.length_draw]

theorem length_flatten_all (c : RandomChunks σ) : c.all.flatten.length = c.remaining := by
  induction c using chunk_induction with
  | done c h =>
    rw [all_of_done h, h]
    rfl
  | more c h ih =>
    rw [all_of_more h, List.flatten_cons, List.length_append, ih, length_next, remaining_next]
    exact Nat.add_sub_cancel' (Nat.min_le_left _ _)

theorem length_of_mem_all (c : RandomChunks σ) :
    ∀ chunk ∈ c.all, chunk ≠ [] ∧ chunk.length ≤ c.chunkSize := by
  induction c using chunk_induction with
  | done c h =>
    rw [all_of_done h]
    nofun
  | more c h ih =>
    rw [all_of_more h, List.forall_mem_cons]
    refine ⟨⟨List.ne_nil_of_length_pos ?_, ?_⟩, ih⟩
    · rw [length_next]
      exact count_pos h
    · rw [length_next]
      exact Nat.min_le_right _ _

/-- Only the last chunk can have fewer events. -/
theorem length_of_mem_dropLast (c : RandomChunks σ) :
    ∀ chunk ∈ c.all.dropLast, chunk.length = c.chunkSize := by
  induction c using chunk_induction with
  | done c h =>
    rw [all_of_done h]
    nofun
  | more c h ih =>
    rw [all_of_more h]
    by_cases hlast : c.remaining ≤ c.chunkSize
    · rw [all_of_done (remaining_next_of_last hlast)]
      nofun
    · have hmore : c.next.2.remaining ≠ 0 := by
        rw [remaining_next, count]
        omega
      have hne : c.next.2.all ≠ [] := by
        rw [all_of_more hmore]
        exact List.cons_ne_nil _ _
      rw [List.dropLast_cons_of_ne_nil hne, List.forall_mem_cons]
      refine ⟨?_, ih⟩
      rw [length_next]
      exact Nat.min_eq_right (Nat.le_of_not_le hlast)

/-! ### Times of chunks -/

/-- Up to a time, there is room for a span for each chunk that is left. -/
structure OnCourse (c : RandomChunks σ) (limit : Nat) : Prop where
  span_pos : 0 < c.span.toNat
  room : c.range.start.toNat + c.left * c.span.toNat ≤ limit
  stop_le : c.range.stop.toNat ≤ limit
  limit_lt : limit < UInt64.size

namespace OnCourse

theorem add_span_le (h : c.OnCourse limit) (hmore : c.remaining ≠ 0) :
    c.range.start.toNat + c.span.toNat ≤ limit := by
  have hroom := h.room
  rw [left_of_more hmore, Nat.succ_mul] at hroom
  omega

theorem toNat_add_span (h : c.OnCourse limit) (hmore : c.remaining ≠ 0) :
    (c.range.start + c.span).toNat = c.range.start.toNat + c.span.toNat := by
  rw [UInt64.toNat_add]
  exact Nat.mod_eq_of_lt (Nat.lt_of_le_of_lt (h.add_span_le hmore) h.limit_lt)

/-- The next chunk can be drawn. -/
theorem isDrawable (h : c.OnCourse limit) (hmore : c.remaining ≠ 0) : c.chunkRange.IsDrawable := by
  refine RandomRange.isDrawable (Nat.lt_of_le_of_lt ?_ h.limit_lt)
  exact Nat.le_trans (Nat.add_le_add_left h.span_pos _) (h.add_span_le hmore)

/-- The next chunk ends behind its start. -/
theorem toNat_chunkStop (h : c.OnCourse limit) (hmore : c.remaining ≠ 0) :
    c.range.start.toNat < c.chunkStop.toNat ∧
      c.chunkStop.toNat + c.next.2.left * c.span.toNat ≤ limit := by
  have hspan := h.span_pos
  have hfits := h.add_span_le hmore
  have hstop := h.stop_le
  have hnext : (c.range.start + 1).toNat = c.range.start.toNat + 1 :=
    (h.isDrawable hmore).toNat_next
  rw [chunkStop]
  split
  · rename_i hlast
    rw [left_of_done hlast, UInt64.toNat_max, hnext]
    omega
  · have hroom := h.room
    rw [left_of_more hmore, Nat.succ_mul] at hroom
    rw [h.toNat_add_span hmore]
    omega

/-- Behind the next chunk there is room for the others. -/
theorem next (h : c.OnCourse limit) (hmore : c.remaining ≠ 0) : c.next.2.OnCourse limit where
  span_pos := h.span_pos
  room := (h.toNat_chunkStop hmore).2
  stop_le := h.stop_le
  limit_lt := h.limit_lt

/-- The events of the next chunk lie between its start and its end. -/
theorem holds_next (h : c.OnCourse limit) (hmore : c.remaining ≠ 0) {e : Event}
    (he : e ∈ c.next.1) :
    c.range.start ≤ e.t ∧ e.t < c.chunkStop ∧ e.x < max c.range.width 1 ∧
      e.y < max c.range.height 1 ∧ e.p ≤ 1 := by
  have hdrawable := h.isDrawable hmore
  obtain ⟨hstart, hstop, hx, hy, hp⟩ := hdrawable.holds_draw he
  have hbehind := (h.toNat_chunkStop hmore).1
  refine ⟨hstart, ?_, hx, hy, hp⟩
  rw [UInt64.lt_iff_toNat_lt, UInt64.toNat_max, hdrawable.toNat_next] at hstop
  rw [UInt64.lt_iff_toNat_lt]
  change e.t.toNat < max c.chunkStop.toNat (c.range.start.toNat + 1) at hstop
  omega

/-- All events that are left lie between the start and the limit. -/
theorem holds_all (h : c.OnCourse limit) :
    ∀ e ∈ c.all.flatten, c.range.start ≤ e.t ∧ e.t.toNat < limit ∧ e.x < max c.range.width 1 ∧
      e.y < max c.range.height 1 ∧ e.p ≤ 1 := by
  induction c using chunk_induction with
  | done c hdone =>
    rw [all_of_done hdone]
    nofun
  | more c hmore ih =>
    have hends := h.toNat_chunkStop hmore
    rw [all_of_more hmore]
    intro e he
    rcases List.mem_append.1 he with he | he
    · obtain ⟨hstart, hstop, hrest⟩ := h.holds_next hmore he
      rw [UInt64.lt_iff_toNat_lt] at hstop
      exact ⟨hstart, by omega, hrest⟩
    · obtain ⟨hstart, hrest⟩ := ih (h.next hmore) e he
      refine ⟨?_, hrest⟩
      rw [range_next, UInt64.le_iff_toNat_le] at hstart
      rw [UInt64.le_iff_toNat_le]
      exact Nat.le_trans (Nat.le_of_lt hends.1) hstart

/-- The chunks together are sorted, as each begins where the one before it has ended. -/
theorem pairwise_all (h : c.OnCourse limit) : c.all.flatten.Pairwise (·.t ≤ ·.t) := by
  induction c using chunk_induction with
  | done c hdone =>
    rw [all_of_done hdone]
    exact .nil
  | more c hmore ih =>
    rw [all_of_more hmore, List.flatten_cons, List.pairwise_append]
    refine ⟨RandomRange.pairwise_draw _ _ _ _, ih (h.next hmore), ?_⟩
    intro e he e' he'
    obtain ⟨-, hstop, -⟩ := h.holds_next hmore he
    obtain ⟨hstart, -⟩ := (h.next hmore).holds_all e' he'
    exact UInt64.le_trans (UInt64.le_of_lt hstop) hstart

end OnCourse

/-- What is left behind some chunks. -/
def after (c : RandomChunks σ) : Nat → RandomChunks σ
  | 0 => c
  | i + 1 => c.next.2.after i

/-- There is room for every chunk when it is made. -/
theorem OnCourse.after (h : c.OnCourse limit) (hi : i < c.left) :
    (c.after i).OnCourse limit ∧ (c.after i).remaining ≠ 0 ∧
      c.all[i]? = some (c.after i).next.1 := by
  have hmore : c.remaining ≠ 0 := by
    intro hdone
    rw [left_of_done hdone] at hi
    cases hi
  induction i generalizing c with
  | zero =>
    rw [all_of_more hmore]
    exact ⟨h, hmore, rfl⟩
  | succ i ih =>
    rw [left_of_more hmore] at hi
    have hi' := Nat.lt_of_succ_lt_succ hi
    have hmore' : c.next.2.remaining ≠ 0 := by
      intro hdone
      rw [left_of_done hdone] at hi'
      cases hi'
    rw [all_of_more hmore]
    exact ih (h.next hmore) hi' hmore'

/-- At the start there is room for all chunks up to the end of the range, or up to a time for each
of them if that comes later. -/
theorem onCourse_start (g : Generator σ) (s : σ) {n chunkSize : Nat} {range : RandomRange}
    (hfits : range.start.toNat + max (n ⌈/⌉ max chunkSize 1) 1 < UInt64.size) :
    (start g s n range chunkSize).OnCourse
      (max range.stop.toNat (range.start.toNat + max (n ⌈/⌉ max chunkSize 1) 1)) := by
  generalize hcount : n ⌈/⌉ max chunkSize 1 = count at hfits ⊢
  have hstop := range.stop.toNat_lt
  have hleft : (start g s n range chunkSize).left = count := hcount
  -- The times that are left over by the division are those of the last chunk.
  obtain ⟨span, hspan⟩ : ∃ span, (range.stop.toNat - range.start.toNat) / max count 1 = span :=
    ⟨_, rfl⟩
  have hall : max count 1 * span ≤ range.stop.toNat - range.start.toNat := by
    rw [← hspan]
    exact Nat.mul_div_le _ _
  have htoNat : (start g s n range chunkSize).span.toNat = max span 1 := by
    have hsmall : max span 1 < UInt64.size := by
      have hle := Nat.div_le_self (range.stop.toNat - range.start.toNat) (max count 1)
      rw [hspan] at hle
      have hsize : UInt64.size = 2 ^ 64 := rfl
      omega
    rw [← hspan, ← hcount] at hsmall ⊢
    exact UInt64.toNat_ofNat_of_lt' hsmall
  refine ⟨?_, ?_, Nat.le_max_left _ _, Nat.max_lt.2 ⟨hstop, hfits⟩⟩
  · rw [htoNat]
    exact Nat.lt_of_lt_of_le Nat.one_pos (Nat.le_max_right _ _)
  · rw [hleft, htoNat]
    have hcounted : count * max span 1 ≤ max count 1 * max span 1 :=
      Nat.mul_le_mul_right _ (Nat.le_max_left _ _)
    change range.start.toNat + count * max span 1 ≤ _
    rcases Nat.eq_zero_or_pos span with hnone | hsome
    · rw [hnone, Nat.zero_max, Nat.mul_one] at hcounted
      rw [hnone, Nat.zero_max, Nat.mul_one]
      omega
    · rw [Nat.max_eq_left hsome] at hcounted ⊢
      have hpos : 0 < max count 1 * span :=
        Nat.mul_pos (Nat.lt_of_lt_of_le Nat.one_pos (Nat.le_max_right _ _)) hsome
      omega

end RandomChunks

open RandomChunks

/-- Chunks of random events are full up to the last one, in order of time, and within the range, or
behind it where it has fewer times than there are chunks. No draw is from an empty range, and no sum
of times wraps around. -/
theorem random_recording_in_chunks (g : Generator σ) (s : σ) (n : Nat) (range : RandomRange)
    (chunkSize : Nat)
    (hfits : range.start.toNat + max (n ⌈/⌉ max chunkSize 1) 1 < UInt64.size) :
    let size := max chunkSize 1
    let count := n ⌈/⌉ size
    let start := RandomChunks.start g s n range chunkSize
    (start.all.length = count ∧ (∀ chunk ∈ start.all, chunk ≠ [] ∧ chunk.length ≤ size) ∧
        (∀ chunk ∈ start.all.dropLast, chunk.length = size) ∧ start.all.flatten.length = n) ∧
      (start.all.flatten.Pairwise (·.t ≤ ·.t) ∧
        ∀ e ∈ start.all.flatten, range.start ≤ e.t ∧
          e.t.toNat < max range.stop.toNat (range.start.toNat + max count 1) ∧
          e.x < max range.width 1 ∧ e.y < max range.height 1 ∧ e.p ≤ 1) ∧
      ∀ i < count,
        let c := start.after i
        start.all[i]? = some (c.chunkRange.draw c.generator c.count c.state).1 ∧
          c.chunkRange.IsDrawable ∧ 0 < c.chunkRange.duration ∧
          (c.range.start + 1).toNat = c.range.start.toNat + 1 ∧
          (c.range.start + c.span).toNat = c.range.start.toNat + c.span.toNat := by
  intro size count start
  have hcourse := onCourse_start g s hfits
  refine ⟨⟨length_all start, length_of_mem_all start, length_of_mem_dropLast start,
    length_flatten_all start⟩, ⟨hcourse.pairwise_all, hcourse.holds_all⟩, ?_⟩
  intro i hi c
  obtain ⟨hcourse', hmore, hchunk⟩ := hcourse.after hi
  have hdrawable := hcourse'.isDrawable hmore
  exact ⟨hchunk, hdrawable, hdrawable.duration_pos, hdrawable.toNat_next,
    hcourse'.toNat_add_span hmore⟩

/-- Three events in chunks of two, from a range that ends before it starts, close to the last time
there is, and has no columns. -/
theorem random_recording_in_chunks_of_reversed_range :
    let range : RandomRange := ⟨0, 5, 18446744073709551613, 7⟩
    let chunks := (RandomChunks.create 3 range 2 1).all
    chunks.length = 2 ∧ chunks.flatten.length = 3 ∧ chunks.flatten.Pairwise (·.t ≤ ·.t) ∧
      ∀ e ∈ chunks.flatten, 18446744073709551613 ≤ e.t ∧ e.t < 18446744073709551615 ∧ e.x < 1 := by
  intro range chunks
  obtain ⟨⟨hlength, -, -, htotal⟩, ⟨hsorted, hevents⟩, -⟩ :=
    random_recording_in_chunks RandomStream.generator (RandomStream.ofSeed 1) 3 range 2 (by decide)
  refine ⟨hlength, htotal, hsorted, ?_⟩
  intro e he
  obtain ⟨hstart, hstop, hx, -⟩ := hevents e he
  exact ⟨hstart, UInt64.lt_iff_toNat_lt.2 hstop, hx⟩

end EventCamera
