import EventCamera.Proofs.Evt3.Resumption

/-!
# Words that are not used up

Reading a list of words uses up all of them but those of the group that it leaves open, which are
the last ones. Offered again in front of more words, they make two readings come to the same as one.

## Main results

* `isSuffix_decode` — the words of the open group are the last ones of the list
* `drop_consumed` — they are what is not used up
* `decode_unconsumed_append` — a list may be cut anywhere if these are offered again
-/

namespace EventCamera

namespace Decoding

variable {d : Decoding}

theorem words_ofBase {ws : List Word} (b : Word) (h : ws.length < 3) :
    (OpenGroup.ofBase b ws).words = b :: ws := by
  match ws with
  | [] => rfl
  | [m] => rfl
  | [m, n] => rfl
  | _ :: _ :: _ :: _ =>
    simp only [List.length_cons] at h
    omega

/-- A reader that looks ahead leaves a group open only at the end of its words. -/
theorem isSuffix_readAhead (final : Bool) (hg : d.group = .none) (ws : List Word) :
    (d.readAhead final ws).group.words <:+ ws := by
  fun_induction readAhead final d ws with
  | case1 d => simp [hg, OpenGroup.words]
  | case2 d w ws _ offset found _ ih => exact (ih rfl).trans (List.suffix_cons w ws)
  | case3 d w _ m n k ws _ ih => exact (ih hg).trans (List.suffix_append [w, m, n, k] ws)
  | case4 d w _ ws _ _ _ ih => exact (ih rfl).trans (List.suffix_cons w ws)
  | case5 d w _ ws hfew _ hcheck =>
    obtain ⟨hlength, -⟩ := short_of_checkGroup hfew hcheck
    exact words_ofBase w hlength ▸ List.suffix_rfl
  | case6 d w ws _ ih =>
    exact (ih ((group_readWord d w).trans hg)).trans (List.suffix_cons w ws)

/-- The end of the stream leaves no group open. -/
theorem group_close (d : Decoding) : d.close.group = .none := by
  rw [close]
  split
  · assumption
  · rfl

end Decoding

/-- The words of the group that is left open are the last ones of the list. -/
theorem isSuffix_decode (s : StreamState) (ws : List Word) : (decode s ws).group.words <:+ ws := by
  have hcount : wordsThatCount s ws <:+ ws := by
    rw [wordsThatCount]
    split
    · exact List.suffix_rfl
    · exact List.dropWhile_suffix _
  exact (Decoding.isSuffix_readAhead false rfl _).trans hcount

theorem group_decodeFinal (s : StreamState) (ws : List Word) :
    (decodeFinal s ws).group = .none := by
  rw [decodeFinal_eq_close]
  exact Decoding.group_close _

/-- What reading a list does not use up is the group that it leaves open. -/
theorem drop_consumed (s : StreamState) (ws : List Word) :
    ws.drop ((decode s ws).outcome ws.length).consumed = (decode s ws).group.words :=
  (List.suffix_iff_eq_drop.1 (isSuffix_decode s ws)).symm

/-- At the end of the stream all words are used up. -/
theorem consumed_decodeFinal (s : StreamState) (ws : List Word) :
    ((decodeFinal s ws).outcome ws.length).consumed = ws.length := by
  rw [Decoding.outcome, group_decodeFinal]
  rfl

/-- A list of words may be cut anywhere. If the words that the first part leaves unused are offered
again in front of the second, the two readings together come to one reading of the whole list. -/
theorem decode_unconsumed_append (s : StreamState) (a b : List Word) (final : Bool) :
    let read := if final then decodeFinal else decode
    let first := decode s a
    let offered := a.drop (first.outcome a.length).consumed ++ b
    let second := read first.state offered
    let whole := read s (a ++ b)
    whole.events = first.events ++ second.events ∧
      whole.triggers = first.triggers ++ second.triggers ∧
      whole.notices = first.notices ++ second.notices ∧
      whole.state = second.state ∧ whole.group = second.group ∧
      whole.malformed = first.malformed + second.malformed ∧
      (whole.outcome (a ++ b).length).consumed =
        (first.outcome a.length).consumed + (second.outcome offered.length).consumed := by
  intro read first offered second whole
  have hoffered : offered = first.group.words ++ b := congrArg (· ++ b) (drop_consumed s a)
  have hwhole : whole = first.join second := by
    have hsecond : second = read first.state (first.group.words ++ b) := by rw [← hoffered]
    rw [hsecond]
    cases final with
    | true => exact decodeFinal_append_eq_join s a b
    | false => exact decode_append_eq_join s a b
  -- Neither reading can leave open more than it has been offered.
  have hfirst : first.group.words.length ≤ a.length := (isSuffix_decode s a).length_le
  have hsecond : second.group.words.length ≤ offered.length := by
    cases final with
    | true =>
      have hnone : second.group = .none := group_decodeFinal _ _
      simp [hnone, OpenGroup.words]
    | false => exact (isSuffix_decode first.state offered).length_le
  have hconsumed : (whole.outcome (a ++ b).length).consumed =
      (first.outcome a.length).consumed + (second.outcome offered.length).consumed := by
    have hgroup : whole.group = second.group := by rw [hwhole]; rfl
    have hlength : offered.length = first.group.words.length + b.length := by
      rw [hoffered, List.length_append]
    simp only [Decoding.outcome, hgroup, List.length_append]
    omega
  refine ⟨?_, ?_, ?_, ?_, ?_, ?_, hconsumed⟩ <;> rw [hwhole] <;> rfl

end EventCamera
