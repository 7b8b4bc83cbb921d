import EventCamera.Evt3.Decoding

/-!
# Words one by one

A reader that takes one word at a time cannot look ahead. At the base word of a vector group it
opens a group, which waits until the words that are due have come; a word that is not the one due
ends it. Such a reader needs nothing but its state to go on, and it reads what a reader that looks
ahead reads.

## Main definitions

* `Decoding.feed` — takes one word
* `Decoding.close` — takes the end of the stream
* `Decoding.BehindBase` — what looking ahead from a base word can come to
* `Decoding.Sound` — what an open group is made of

## Main results

* `decode_eq_foldl_feed`, `decodeFinal_eq_close` — looking ahead makes no difference
* `sound_decode` — a group is left open only behind the first time, with the words due
* `Decoding.Sound.foldl_feed_words` — the words of an open group open it once more
-/

namespace EventCamera

namespace Decoding

/-- Takes a word while no group is open. -/
def feedPlain (d : Decoding) (w : Word) : Decoding :=
  if w.kind? = some .vectBaseX then { d with group := .base w } else d.readWord w

/-- Takes a word. Nothing counts before the first word with bits 12 to 23 of a time. -/
def feed (d : Decoding) (w : Word) : Decoding :=
  if d.state.started || w.kind? == some .timeHigh then
    match d.group with
    | .none => d.feedPlain w
    | .base b =>
      -- A word that ends a group is still read for itself, here and below.
      if w.kind? = some .vect12 then { d with group := .base12 b w }
      else (d.drop (.malformedGroup 1 w)).feedPlain w
    | .base12 b m =>
      if w.kind? = some .vect12 then { d with group := .base24 b m w }
      else (d.drop (.malformedGroup 2 w)).feedPlain w
    | .base24 b m n =>
      if w.kind? = some .vect8 then { d with group := .none }.readGroup b m n w
      else (d.drop (.malformedGroup 3 w)).feedPlain w
  else d

/-- The end of the stream drops the open group. -/
def close (d : Decoding) : Decoding :=
  match d.group with
  | .none => d
  | g => d.drop (.groupCut g.words.length)

variable {d : Decoding} {w : Word}

/-! ### Single words -/

@[simp] theorem group_readWord (d : Decoding) (w : Word) : (d.readWord w).group = d.group := by
  simp only [readWord]
  split <;> rfl

theorem started_readWord (h : d.state.started = true) (w : Word) :
    (d.readWord w).state.started = true := by
  simp only [readWord]
  split <;> simp [h]

theorem feed_of_none (hg : d.group = .none) (hs : d.state.started = true) (w : Word) :
    d.feed w = d.feedPlain w := by
  simp [feed, hg, hs]

theorem feed_of_not_vectBaseX (hg : d.group = .none) (hs : d.state.started = true)
    (hw : ¬ w.kind? = some .vectBaseX) : d.feed w = d.readWord w := by
  rw [feed_of_none hg hs, feedPlain, if_neg hw]

theorem feed_of_vectBaseX (hg : d.group = .none) (hs : d.state.started = true)
    (hw : w.kind? = some .vectBaseX) : d.feed w = { d with group := .base w } := by
  rw [feed_of_none hg hs, feedPlain, if_pos hw]

/-- Validity bits outside a group say nothing. -/
theorem feed_of_vect12 (hg : d.group = .none) (hs : d.state.started = true)
    (hw : w.kind? = some .vect12) : d.feed w = d := by
  rw [feed_of_not_vectBaseX hg hs (by simp [hw])]
  simp [readWord, hw]

/-! ### Vector groups -/

/-- What the words behind a base word are, and what looking for a wrong one among them gives: one
of the three is wrong, all of them are right, or there are fewer and none of these is wrong. -/
inductive BehindBase : List Word → Option (Nat × Word) → Prop
  | first {m : Word} {ws : List Word} (hm : ¬ m.kind? = some .vect12) :
      BehindBase (m :: ws) (some (1, m))
  | second {m n : Word} {ws : List Word} (hm : m.kind? = some .vect12)
      (hn : ¬ n.kind? = some .vect12) : BehindBase (m :: n :: ws) (some (2, n))
  | third {m n k : Word} {ws : List Word} (hm : m.kind? = some .vect12)
      (hn : n.kind? = some .vect12) (hk : ¬ k.kind? = some .vect8) :
      BehindBase (m :: n :: k :: ws) (some (3, k))
  | full {m n k : Word} {ws : List Word} (hm : m.kind? = some .vect12)
      (hn : n.kind? = some .vect12) (hk : k.kind? = some .vect8) :
      BehindBase (m :: n :: k :: ws) none
  | short {ws : List Word} (hlength : ws.length < 3)
      (hws : ∀ w ∈ ws, w.kind? = some .vect12) : BehindBase ws none

theorem behindBase (ws : List Word) : BehindBase ws (checkGroup 1 dueKinds ws) := by
  match ws with
  | [] => exact .short (by simp) (by simp)
  | m :: ws =>
    by_cases hm : m.kind? = some .vect12
    · match ws with
      | [] =>
        simp only [checkGroup, dueKinds, hm, if_true]
        exact .short (by simp) (by simp [hm])
      | n :: ws =>
        by_cases hn : n.kind? = some .vect12
        · match ws with
          | [] =>
            simp only [checkGroup, dueKinds, hm, hn, if_true]
            exact .short (by simp) (by simp [hm, hn])
          | k :: ws =>
            by_cases hk : k.kind? = some .vect8
            · simp only [checkGroup, dueKinds, hm, hn, hk, if_true]
              exact .full hm hn hk
            · simp only [checkGroup, dueKinds, hm, hn, hk, if_true, if_false]
              exact .third hm hn hk
        · simp only [checkGroup, dueKinds, hm, hn, if_true, if_false]
          exact .second hm hn
    · simp only [checkGroup, dueKinds, hm, if_false]
      exact .first hm

/-- Validity bits outside a group say nothing. -/
theorem foldl_feed_of_vect12 (hg : d.group = .none) (hs : d.state.started = true)
    {ws : List Word} (hws : ∀ w ∈ ws, w.kind? = some .vect12) : ws.foldl feed d = d := by
  induction ws with
  | nil => rfl
  | cons w ws ih =>
    rw [List.forall_mem_cons] at hws
    rw [List.foldl_cons, feed_of_vect12 hg hs hws.1, ih hws.2]

/-- A spoilt group comes to the same whether its base word is dropped at once or when the word
arrives that is not the one due. -/
theorem foldl_feed_of_spoilt (hs : d.state.started = true) {b : Word} {ws : List Word}
    {offset : Nat} {found : Word} (hcheck : checkGroup 1 dueKinds ws = some (offset, found)) :
    ws.foldl feed { d with group := .base b } =
      ws.foldl feed (d.drop (.malformedGroup offset found)) := by
  have hplain (notice : Notice) (w : Word) :
      (d.drop notice).feed w = (d.drop notice).feedPlain w :=
    feed_of_none (d := d.drop notice) rfl hs w
  -- The right words in front of the wrong one say nothing once the base word has been dropped.
  have hskip (notice : Notice) {w : Word} (hw : w.kind? = some .vect12) :
      (d.drop notice).feed w = d.drop notice :=
    feed_of_vect12 (d := d.drop notice) rfl hs hw
  have hbehind := behindBase ws
  rw [hcheck] at hbehind
  cases hbehind with
  | first hm =>
    simp only [List.foldl_cons, hplain]
    simp [feed, hs, hm, drop]
  | second hm hn =>
    simp only [List.foldl_cons, hskip _ hm, hplain]
    simp [feed, hs, hm, hn, drop]
  | third hm hn hk =>
    simp only [List.foldl_cons, hskip _ hm, hskip _ hn, hplain]
    simp [feed, hs, hm, hn, hk, drop]

/-- Without a wrong word, a group is full or lacks words. -/
theorem short_of_checkGroup {ws : List Word}
    (hfew : ∀ m n k rest, ws = m :: n :: k :: rest → False)
    (hcheck : checkGroup 1 dueKinds ws = none) :
    ws.length < 3 ∧ ∀ w ∈ ws, w.kind? = some .vect12 := by
  have hbehind := behindBase ws
  rw [hcheck] at hbehind
  cases hbehind with
  | full => exact (hfew _ _ _ _ rfl).elim
  | short hlength hws => exact ⟨hlength, hws⟩

theorem foldl_feed_of_full (hg : d.group = .none) (hs : d.state.started = true)
    {b m n k : Word} {ws : List Word}
    (hcheck : checkGroup 1 dueKinds (m :: n :: k :: ws) = none) :
    (m :: n :: k :: ws).foldl feed { d with group := .base b } =
      ws.foldl feed (d.readGroup b m n k) := by
  have hbehind := behindBase (m :: n :: k :: ws)
  rw [hcheck] at hbehind
  cases hbehind with
  | full hm hn hk => simp [feed, hs, hm, hn, hk, readGroup, ← hg]
  | short hlength =>
    simp only [List.length_cons] at hlength
    omega

/-- A group that lacks words waits for them. -/
theorem foldl_feed_of_short (hs : d.state.started = true) {b : Word} {ws : List Word}
    (hlength : ws.length < 3) (hws : ∀ w ∈ ws, w.kind? = some .vect12) :
    ws.foldl feed { d with group := .base b } = { d with group := .ofBase b ws } := by
  match ws with
  | [] => rfl
  | [m] =>
    rw [List.forall_mem_singleton] at hws
    simp [feed, hs, hws, OpenGroup.ofBase]
  | [m, n] =>
    obtain ⟨hm, hn⟩ := List.forall_mem_cons.1 hws
    rw [List.forall_mem_singleton] at hn
    simp [feed, hs, hm, hn, OpenGroup.ofBase]
  | _ :: _ :: _ :: _ =>
    simp only [List.length_cons] at hlength
    omega

theorem close_of_short (d : Decoding) (b : Word) {ws : List Word} (hlength : ws.length < 3) :
    close { d with group := .ofBase b ws } = d.drop (.groupCut (ws.length + 1)) := by
  match ws with
  | [] => rfl
  | [m] => rfl
  | [m, n] => rfl
  | _ :: _ :: _ :: _ =>
    simp only [List.length_cons] at hlength
    omega

/-! ### Looking ahead -/

/-- Behind the first time, looking ahead gives what reading the words one by one gives, and the
end of the stream if that has been met. -/
theorem readAhead_eq (final : Bool) (hg : d.group = .none) (hs : d.state.started = true)
    (ws : List Word) :
    d.readAhead final ws = if final then (ws.foldl feed d).close else ws.foldl feed d := by
  fun_induction readAhead final d ws with
  | case1 d => simp [close, hg]
  | case2 d w ws hw offset found hcheck ih =>
    rw [ih rfl hs, List.foldl_cons, feed_of_vectBaseX hg hs hw, foldl_feed_of_spoilt hs hcheck]
  | case3 d w hw m n k ws hcheck ih =>
    rw [ih hg hs, List.foldl_cons, feed_of_vectBaseX hg hs hw, foldl_feed_of_full hg hs hcheck]
  | case4 d w hw ws hfew hfinal hcheck ih =>
    obtain ⟨hlength, hws⟩ := short_of_checkGroup hfew hcheck
    have hdrop : ws.foldl feed (d.drop (.groupCut (ws.length + 1))) =
        d.drop (.groupCut (ws.length + 1)) :=
      foldl_feed_of_vect12 (d := d.drop (.groupCut (ws.length + 1))) rfl hs hws
    rw [ih rfl hs, if_pos hfinal, if_pos hfinal, hdrop, List.foldl_cons,
      feed_of_vectBaseX hg hs hw, foldl_feed_of_short hs hlength hws, close_of_short d w hlength]
    rfl
  | case5 d w hw ws hfew hfinal hcheck =>
    obtain ⟨hlength, hws⟩ := short_of_checkGroup hfew hcheck
    rw [if_neg hfinal, List.foldl_cons, feed_of_vectBaseX hg hs hw,
      foldl_feed_of_short hs hlength hws]
  | case6 d w ws hw ih =>
    rw [ih ((group_readWord d w).trans hg) (started_readWord hs w), List.foldl_cons,
      feed_of_not_vectBaseX hg hs hw]

/-- Before the first time no word counts. -/
theorem foldl_feed_dropWhile (hs : d.state.started = false) (ws : List Word) :
    (ws.dropWhile fun w => w.kind? != some .timeHigh).foldl feed d = ws.foldl feed d := by
  induction ws with
  | nil => rfl
  | cons w ws ih =>
    by_cases hw : w.kind? = some .timeHigh
    · rw [List.dropWhile_cons_of_neg (by simp [hw])]
    · have hsame : d.feed w = d := by simp [feed, hs, hw]
      rw [List.dropWhile_cons_of_pos (by simpa using hw), ih, List.foldl_cons, hsame]

theorem readAhead_of_not_vectBaseX {final : Bool} (hw : ¬ w.kind? = some .vectBaseX)
    (ws : List Word) : d.readAhead final (w :: ws) = (d.readWord w).readAhead final ws := by
  rw [readAhead.eq_def]
  exact if_neg hw

/-- The first word that counts starts the reader. -/
theorem readAhead_wordsThatCount (final : Bool) (s : StreamState) (ws : List Word) :
    readAhead final { state := s } (wordsThatCount s ws) =
      if final then (ws.foldl feed { state := s }).close else ws.foldl feed { state := s } := by
  rw [wordsThatCount]
  by_cases hs : s.started = true
  · rw [if_pos hs]
    exact readAhead_eq final rfl hs ws
  · have hs' : s.started = false := by simpa using hs
    rw [if_neg hs, ← foldl_feed_dropWhile (d := { state := s }) hs' ws]
    cases hcount : ws.dropWhile fun w => w.kind? != some .timeHigh with
    | nil => simp [readAhead, close]
    | cons w rest =>
      have hw : w.kind? = some .timeHigh := by
        have hnot := List.head?_dropWhile_not (fun w : Word => w.kind? != some .timeHigh) ws
        simpa [hcount] using hnot
      have hfeed : feed { state := s } w = readWord { state := s } w := by
        simp [feed, feedPlain, hw]
      have hstarted : (readWord { state := s } w).state.started = true := by
        simp [readWord, hw]
      rw [readAhead_of_not_vectBaseX (by simp [hw]), List.foldl_cons, hfeed]
      exact readAhead_eq final (group_readWord _ w) hstarted rest

/-! ### Open groups -/

/-- A group is open only behind the first time, and its words are of the kinds due. -/
def Sound (d : Decoding) : Prop :=
  match d.group with
  | .none => True
  | .base b => d.state.started = true ∧ b.kind? = some .vectBaseX
  | .base12 b m =>
    d.state.started = true ∧ b.kind? = some .vectBaseX ∧ m.kind? = some .vect12
  | .base24 b m n =>
    d.state.started = true ∧ b.kind? = some .vectBaseX ∧ m.kind? = some .vect12 ∧
      n.kind? = some .vect12

theorem sound_of_none (hg : d.group = .none) : d.Sound := by
  simp [Sound, hg]

theorem sound_feedPlain (hg : d.group = .none)
    (hs : d.state.started = true ∨ w.kind? = some .timeHigh) :
    (d.feedPlain w).Sound := by
  rw [feedPlain]
  split
  · rename_i hw
    simpa [Sound, hw] using hs
  · exact sound_of_none ((group_readWord d w).trans hg)

/-- A word keeps what is known of the open group. -/
theorem Sound.feed (h : d.Sound) (w : Word) : (d.feed w).Sound := by
  rw [Decoding.feed]
  split
  · rename_i hcounts
    have hs : d.state.started = true ∨ w.kind? = some .timeHigh := by simpa using hcounts
    cases hg : d.group with
    | none => exact sound_feedPlain hg hs
    | base b =>
      simp only [Sound, hg] at h
      dsimp only
      split
      · rename_i hw
        exact ⟨h.1, h.2, hw⟩
      · exact sound_feedPlain rfl hs
    | base12 b m =>
      simp only [Sound, hg] at h
      dsimp only
      split
      · rename_i hw
        exact ⟨h.1, h.2.1, h.2.2, hw⟩
      · exact sound_feedPlain rfl hs
    | base24 b m n =>
      dsimp only
      split
      · exact sound_of_none rfl
      · exact sound_feedPlain rfl hs
  · exact h

theorem Sound.foldl_feed (h : d.Sound) (ws : List Word) : (ws.foldl Decoding.feed d).Sound := by
  induction ws generalizing d with
  | nil => exact h
  | cons w ws ih => exact ih (h.feed w)

/-- The words of an open group, offered once more, open it again. -/
theorem Sound.foldl_feed_words (h : d.Sound) :
    d.group.words.foldl Decoding.feed { state := d.state } =
      { state := d.state, group := d.group } := by
  cases hg : d.group with
  | none => rfl
  | base b =>
    simp only [Sound, hg] at h
    simp [OpenGroup.words, Decoding.feed, feedPlain, h]
  | base12 b m =>
    simp only [Sound, hg] at h
    simp [OpenGroup.words, Decoding.feed, feedPlain, h]
  | base24 b m n =>
    simp only [Sound, hg] at h
    simp [OpenGroup.words, Decoding.feed, feedPlain, h]

end Decoding

/-! ### Lists of words -/

theorem decode_eq_foldl_feed (s : StreamState) (ws : List Word) :
    decode s ws = ws.foldl Decoding.feed { state := s } := by
  simpa [decode] using Decoding.readAhead_wordsThatCount false s ws

theorem decodeFinal_eq_close (s : StreamState) (ws : List Word) :
    decodeFinal s ws = (ws.foldl Decoding.feed { state := s }).close := by
  simpa [decodeFinal] using Decoding.readAhead_wordsThatCount true s ws

theorem decodeFinal_nil (s : StreamState) : decodeFinal s [] = { state := s } := by
  rw [decodeFinal_eq_close]
  rfl

/-- Reading on is reading from where the first part stopped. -/
theorem decode_append (s : StreamState) (a b : List Word) :
    decode s (a ++ b) = b.foldl Decoding.feed (decode s a) := by
  rw [decode_eq_foldl_feed, decode_eq_foldl_feed, List.foldl_append]

theorem sound_decode (s : StreamState) (ws : List Word) : (decode s ws).Sound := by
  rw [decode_eq_foldl_feed]
  exact Decoding.Sound.foldl_feed (Decoding.sound_of_none rfl) ws

end EventCamera
