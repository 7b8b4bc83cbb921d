import EventCamera.Proofs.Evt3.Chunks

/-!
# Reading on behind a failure

A payload may be asked for its next chunk again after its source has failed. A failing read takes
nothing from the source, and leaves what has been given, the state and an open vector group as they
are. But the first byte of a word whose second is still to come is part of the read that fails, and
is lost: the words behind the failure are then made of other pairs of bytes. Failures that strike
between two words make no difference in the end.

## Main definitions

* `wholeWords` — some bytes without the one left over
* `Source.kept` — the bytes that words are made of, over all failures
* `Source.withoutFailures` — the same reads without the failures
* `Source.FailsBetweenWords` — every failure stands behind an even number of bytes

## Main results

* `Payload.next_of_error` — what a failing read leaves as it was
* `Payload.kept_or_over` — the invariant of reading on, whatever fails
* `Payload.resume_behind_failures` — what reading to the end over all failures comes to
-/

namespace EventCamera

/-- Some bytes without the one left over when words are put together. -/
def wholeWords : List UInt8 → List UInt8
  | low :: high :: bs => low :: high :: wholeWords bs
  | _ => []

theorem words_wholeWords (bs : List UInt8) : words (wholeWords bs) = words bs := by
  fun_induction wholeWords bs with
  | case1 low high bs ih => rw [words, words, ih]
  | case2 bs h =>
    match bs with
    | [] => rfl
    | [b] => rfl
    | low :: high :: bs => exact absurd rfl (h low high bs)

theorem leftOver_wholeWords (bs : List UInt8) : leftOver (wholeWords bs) = none := by
  fun_induction wholeWords bs with
  | case1 low high bs ih => rw [leftOver, ih]
  | case2 => rfl

theorem wholeWords_eq_self {bs : List UInt8} (h : bs.length % 2 = 0) : wholeWords bs = bs := by
  fun_induction wholeWords bs with
  | case1 low high bs ih =>
    simp only [List.length_cons] at h
    rw [ih (by omega)]
  | case2 bs hfew =>
    match bs with
    | [] => rfl
    | [b] => simp at h
    | low :: high :: bs => exact absurd rfl (hfew low high bs)

namespace Source

/-- The bytes that words are made of, behind those in `bs`, up to the first empty read. A failure
loses the byte left over in front of it. -/
def keptBehind (bs : List UInt8) : Source → List UInt8
  | [] => bs
  | .bytes new :: src => keptBehind (bs ++ new) src
  | .failure _ :: src => keptBehind (wholeWords bs) src
  | .interruption :: src => keptBehind bs src
  | .pause :: _ => bs

/-- The bytes that words are made of. -/
def kept (src : Source) : List UInt8 := src.keptBehind []

/-- The same reads without the failures. -/
def withoutFailures (src : Source) : Source :=
  src.filter fun
    | .failure _ => false
    | _ => true

/-- Every failure stands behind an even number of bytes. -/
def FailsBetweenWords (src : Source) : Prop :=
  ∀ (before : Source) message after, src = before ++ .failure message :: after →
    before.content.length % 2 = 0

variable {src rest : Source} {n : Nat} {bs new : List UInt8}

theorem keptBehind_of_read (hn : 0 < n) (h : src.read n = (.ok new, rest)) (bs : List UInt8) :
    src.keptBehind bs = if new = [] then bs else rest.keptBehind (bs ++ new) := by
  fun_induction Source.read n src with
  | case1 => cases h; rfl
  | case2 src ih => rw [keptBehind, List.append_nil]; exact ih h
  | case3 b new' src =>
    cases h
    obtain ⟨n, rfl⟩ := Nat.exists_eq_add_of_lt hn
    rw [if_neg (by simp), keptBehind, keptBehind, List.append_assoc, List.take_append_drop]
  | case4 => cases h
  | case5 src ih => exact ih h
  | case6 => cases h; rfl

theorem reach_of_read (hn : 0 < n) (h : src.read n = (.ok new, rest)) :
    src.reach = if new = [] then [] else new ++ rest.reach := by
  fun_induction Source.read n src with
  | case1 => cases h; rfl
  | case2 src ih => exact ih h
  | case3 b new' src =>
    cases h
    obtain ⟨n, rfl⟩ := Nat.exists_eq_add_of_lt hn
    rw [if_neg (by simp), reach, reach, ← List.append_assoc, List.take_append_drop]
  | case4 => cases h
  | case5 src ih => exact ih h
  | case6 => cases h; rfl

/-- A read that fails takes nothing, but the byte left over from before is lost. -/
theorem keptBehind_of_read_error {message : String} (h : src.read n = (.error message, rest))
    (bs : List UInt8) :
    src.keptBehind bs = rest.keptBehind (wholeWords bs) ∧ src.reach = rest.reach := by
  fun_induction Source.read n src with
  | case1 => cases h
  | case2 src ih =>
    rw [keptBehind, List.append_nil]
    exact ih h
  | case3 => cases h
  | case4 => cases h; exact ⟨rfl, rfl⟩
  | case5 src ih => exact ih h
  | case6 => cases h

/-- Between words there is no byte to be lost. -/
theorem keptBehind_eq_append (h : ∀ (before : Source) message after,
    src = before ++ .failure message :: after → (bs.length + before.content.length) % 2 = 0) :
    src.keptBehind bs = bs ++ src.reach := by
  induction src generalizing bs with
  | nil => exact (List.append_nil bs).symm
  | cons seg src ih =>
    -- The failures of the tail stand behind the first segment as well.
    have htail : ∀ (before : Source) message after, src = before ++ .failure message :: after →
        (bs.length + (content (seg :: before)).length) % 2 = 0 := by
      intro before message after hsrc
      exact h (seg :: before) message after (by rw [hsrc, List.cons_append])
    cases seg with
    | bytes new =>
      change keptBehind (bs ++ new) src = bs ++ (new ++ reach src)
      rw [← List.append_assoc]
      apply ih
      intro before message after hsrc
      have heven := htail before message after hsrc
      rw [content_bytes, List.length_append] at heven
      rw [List.length_append]
      omega
    | failure message =>
      have heven := h [] message src rfl
      change keptBehind (wholeWords bs) src = bs ++ reach src
      rw [wholeWords_eq_self (by simpa using heven)]
      exact ih htail
    | interruption => exact ih htail
    | pause => exact (List.append_nil bs).symm

theorem FailsBetweenWords.kept_eq_reach (h : src.FailsBetweenWords) : src.kept = src.reach := by
  have hnil : src.keptBehind [] = [] ++ src.reach := by
    apply keptBehind_eq_append
    intro before message after hsrc
    rw [List.length_nil, Nat.zero_add]
    exact h before message after hsrc
  exact hnil

theorem isFaultless_withoutFailures (src : Source) : src.withoutFailures.IsFaultless := by
  rintro seg hseg message rfl
  cases (List.mem_filter.1 hseg).2

theorem reach_withoutFailures (src : Source) : src.withoutFailures.reach = src.reach := by
  induction src with
  | nil => rfl
  | cons seg src ih =>
    cases seg with
    | bytes bs => exact congrArg (bs ++ ·) ih
    | failure | interruption => exact ih
    | pause => rfl

end Source

namespace Payload

/-- The payload with another count of bytes read, which nothing else depends on. -/
def recounted (p : Payload) (n : Nat) : Payload := { p with bytesRead := n }

variable {p : Payload} {bs : List UInt8} {b : Batch}

theorem absorb_recounted (p : Payload) (n : Nat) (source : Source) (new : List UInt8) :
    ((p.recounted n).absorb source new).payload =
        (p.absorb source new).payload.recounted (n + new.length) ∧
      ((p.recounted n).absorb source new).batch = (p.absorb source new).batch :=
  ⟨rfl, rfl⟩

theorem finish_recounted (p : Payload) (n : Nat) (source : Source) :
    ((p.recounted n).finish source).payload = (p.finish source).payload.recounted n ∧
      ((p.recounted n).finish source).batch = (p.finish source).batch := by
  simp only [finish, recounted]
  cases p.group <;> exact ⟨rfl, rfl⟩

/-- A failing read gives nothing, takes nothing from the source, and changes nothing but that the
byte left over from before is lost. -/
theorem next_of_error {message : String} (h : p.next.result = .error message) :
    p.next.payload = { p with source := p.next.payload.source, oddByte := none } ∧
      p.next.batch = {} ∧ p.next.payload.source.content = p.source.content := by
  simp only [next] at h ⊢
  split
  · rename_i hex
    simp [hex] at h
  · rename_i hex
    simp only [hex, Bool.false_eq_true, if_false] at h
    split
    · rename_i hread
      exact ⟨rfl, rfl, Source.content_of_read_error hread⟩
    · rename_i hread
      simp only [hread] at h
      cases hg : p.group <;> simp [finish, hg] at h
    · rename_i hread
      simp [hread, absorb] at h

/-- A payload that has been made for `source` has made words of the bytes `bs` and given `b`, and
the end of the source is still to be met. -/
structure UnderWay (source : Source) (p : Payload) (bs : List UInt8) (b : Batch) : Prop where
  kept : source.kept = p.source.keptBehind bs
  /-- Bytes that are lost are counted as well. -/
  reach : ∃ taken, source.reach = taken ++ p.source.reach ∧ p.bytesRead = taken.length
  midway : (p.recounted bs.length).Midway bs b

/-- A payload that has been made for `source` has met its end and given `b`. -/
structure Through (source : Source) (p : Payload) (b : Batch) : Prop where
  bytesRead : p.bytesRead = source.reach.length
  ended : (p.recounted source.kept.length).Over source.kept b

section Step

variable {source rest : Source} {new : List UInt8}

/-- Behind a failure, the words of the bytes before it are as they were. -/
theorem UnderWay.fail (h : p.UnderWay source bs b) {message : String}
    (hread : p.source.read p.bytesPerRead = (.error message, rest)) :
    UnderWay source { p with source := rest, oddByte := none } (wholeWords bs) b := by
  obtain ⟨hkept, hreach⟩ := Source.keptBehind_of_read_error hread bs
  refine ⟨h.kept.trans hkept, hreach ▸ h.reach, ?_⟩
  have hmid := h.midway
  constructor
  · exact hmid.exhausted
  · rw [words_wholeWords]; exact hmid.state
  · rw [words_wholeWords]; exact hmid.group
  · rw [words_wholeWords]; exact hmid.malformed
  · rw [words_wholeWords]; exact hmid.batch
  · exact (leftOver_wholeWords bs).symm
  · rfl

theorem UnderWay.absorb (h : p.UnderWay source bs b)
    (hread : p.source.read p.bytesPerRead = (.ok new, rest)) (hnew : new ≠ []) :
    UnderWay source (p.absorb rest new).payload (bs ++ new) (b ++ (p.absorb rest new).batch) := by
  have hpos := p.bytesPerRead_pos
  obtain ⟨taken, hreach, hcount⟩ := h.reach
  obtain ⟨hpayload, hbatch⟩ := absorb_recounted p bs.length rest new
  refine ⟨?_, ⟨taken ++ new, ?_, ?_⟩, ?_⟩
  · rw [h.kept, Source.keptBehind_of_read hpos hread, if_neg hnew]
    rfl
  · rw [hreach, Source.reach_of_read hpos hread, if_neg hnew, List.append_assoc]
    rfl
  · rw [List.length_append, ← hcount]
    rfl
  · rw [List.length_append, ← hpayload, ← hbatch]
    exact h.midway.absorb rest new

theorem UnderWay.finish (h : p.UnderWay source bs b)
    (hread : p.source.read p.bytesPerRead = (.ok [], rest)) :
    Through source (p.finish rest).payload (b ++ (p.finish rest).batch) := by
  have hpos := p.bytesPerRead_pos
  obtain ⟨taken, hreach, hcount⟩ := h.reach
  obtain ⟨hpayload, hbatch⟩ := finish_recounted p bs.length rest
  have hkept : source.kept = bs := by
    rw [h.kept, Source.keptBehind_of_read hpos hread, if_pos rfl]
  constructor
  · rw [hreach, Source.reach_of_read hpos hread, if_pos rfl, List.append_nil, ← hcount]
    simp only [Payload.finish]
    cases p.group <;> rfl
  · rw [hkept, ← hpayload, ← hbatch]
    exact h.midway.finish rest

/-- Asking for a chunk fails, reads on, or meets the end. -/
theorem UnderWay.next (h : p.UnderWay source bs b) :
    (∃ bs', p.next.payload.UnderWay source bs' (b ++ p.next.batch)) ∨
      p.next.payload.Through source (b ++ p.next.batch) := by
  have hexhausted : ¬ p.exhausted = true := Bool.eq_false_iff.1 h.midway.exhausted
  rw [Payload.next, if_neg hexhausted]
  split
  · rename_i hread
    rw [Batch.append_empty]
    exact .inl ⟨_, h.fail hread⟩
  · rename_i hread
    exact .inr (h.finish hread)
  · rename_i hnew hread
    exact .inl ⟨_, h.absorb hread hnew⟩

end Step

/-- However often the source fails, what has been given is what one reading of the bytes kept so far
gives, and every byte that was read is counted. -/
theorem underWay_or_through (source : Source) (chunkWords n : Nat) :
    let p : Payload := { source, chunkWords }
    (∃ bs, (p.after n).UnderWay source bs (p.gathered n)) ∨
      (p.after n).Through source (p.gathered n) := by
  intro p
  induction n with
  | zero => exact .inl ⟨[], rfl, ⟨[], rfl, rfl⟩, midway_start source chunkWords⟩
  | succ n ih =>
    rw [after_succ, gathered_succ]
    rcases ih with ⟨bs, hunder⟩ | hthrough
    · exact hunder.next
    · have hexhausted : (p.after n).exhausted = true := hthrough.ended.exhausted
      rw [next_of_exhausted hexhausted, Batch.append_empty]
      exact .inr hthrough

/-- Whatever fails on the way, the end of the source is met. -/
theorem exists_exhausted (p : Payload) : ∃ n, (p.after n).exhausted = true := by
  induction hr : p.remaining using Nat.strongRecOn generalizing p with
  | ind r ih =>
    by_cases hex : p.exhausted = true
    · exact ⟨0, hex⟩
    · have hlt := remaining_next_lt (p := p) (by simpa using hex)
      obtain ⟨n, hn⟩ := ih _ (hr ▸ hlt) p.next.payload rfl
      exact ⟨n + 1, hn⟩

/-- Asked again after each failure, a payload gives in the end what one reading of the bytes kept
gives. -/
theorem exists_through (source : Source) (chunkWords : Nat) :
    let p : Payload := { source, chunkWords }
    ∃ n, (∀ k < n, (p.after k).next.result ≠ .ok none) ∧ (p.after n).next.result = .ok none ∧
      (p.after (n + 1)).Through source (p.gathered (n + 1)) := by
  intro p
  have hends : ∃ n, (p.after n).next.result = .ok none := by
    obtain ⟨n, hex⟩ := p.exists_exhausted
    exact ⟨n, by rw [next_of_exhausted hex]⟩
  classical
  refine ⟨Nat.find hends, fun k hk => Nat.find_min hends hk, Nat.find_spec hends, ?_⟩
  obtain ⟨hex, -⟩ := exhausted_of_next (Nat.find_spec hends)
  rcases underWay_or_through source chunkWords (Nat.find hends + 1) with ⟨bs, hunder⟩ | hthrough
  · -- A payload that is under way has not met the end.
    have hmid := hunder.midway.exhausted
    rw [after_succ] at hmid
    cases hex.symm.trans hmid
  · exact hthrough

/-- A payload that is asked for chunks through all failures reads every byte. A failure costs only
the byte left over in front of it, and failures between words cost nothing. -/
theorem resume_behind_failures (source : Source) (chunkWords : Nat) :
    let p : Payload := { source, chunkWords }
    let undisturbed : Payload := { source := source.withoutFailures, chunkWords }
    let whole := decodeFinal {} (words source.kept)
    (∀ k message, (p.after k).next.result = .error message →
      p.after (k + 1) = { p.after k with source := (p.after (k + 1)).source, oddByte := none } ∧
        (p.after k).next.batch = {} ∧
        (p.after (k + 1)).source.content = (p.after k).source.content) ∧
    ∃ n m,
      (∀ k < n, (p.after k).next.result ≠ .ok none) ∧
      (p.after n).next.result = .ok none ∧
      p.gathered (n + 1) = whole.batch ∧
      (p.after (n + 1)).state = whole.state ∧
      (p.after (n + 1)).malformed = whole.malformed ∧
      (∀ k < m, ∃ o, (undisturbed.after k).next.result = .ok (some o)) ∧
      (undisturbed.after m).next.result = .ok none ∧
      (p.after (n + 1)).bytesRead = source.reach.length ∧
      (undisturbed.after (m + 1)).bytesRead = source.reach.length ∧
      (source.FailsBetweenWords →
        p.gathered (n + 1) = undisturbed.gathered (m + 1) ∧
        (p.after (n + 1)).state = (undisturbed.after (m + 1)).state ∧
        (p.after (n + 1)).malformed = (undisturbed.after (m + 1)).malformed) := by
  intro p undisturbed whole
  obtain ⟨n, hsome, hnone, hthrough⟩ := exists_through source chunkWords
  obtain ⟨m, hchunks, hend, hover⟩ :=
    exists_end (Source.isFaultless_withoutFailures source) chunkWords
  rw [Source.reach_withoutFailures] at hover
  refine ⟨?_, n, m, hsome, hnone, hthrough.ended.batch, hthrough.ended.state,
    hthrough.ended.malformed, hchunks, hend, hthrough.bytesRead, hover.bytesRead, ?_⟩
  · intro k message herror
    rw [after_succ]
    exact next_of_error herror
  · intro hbetween
    have hkept := hbetween.kept_eq_reach
    refine ⟨?_, ?_, ?_⟩
    · rw [hthrough.ended.batch, hover.batch, hkept]
    · exact hthrough.ended.state.trans (by rw [hover.state, hkept])
    · exact hthrough.ended.malformed.trans (by rw [hover.malformed, hkept])

/-- The failure strikes between two words, and an interruption within the second of them. -/
theorem resume_behind_failures_between_words :
    let source : Source :=
      [.bytes [0x00, 0x80, 0x05, 0x20], .failure "disk failure", .bytes [0x06], .interruption,
        .bytes [0x20]]
    source.FailsBetweenWords ∧
      let p : Payload := { source, chunkWords := 1 }
      let undisturbed : Payload := { source := source.withoutFailures, chunkWords := 1 }
      ∃ n m, (p.after n).next.result = .ok none ∧ (undisturbed.after m).next.result = .ok none ∧
        p.gathered (n + 1) = undisturbed.gathered (m + 1) ∧
        p.gathered (n + 1) = ⟨[⟨0, 5, 0, 0⟩, ⟨0, 6, 0, 0⟩], []⟩ ∧
        (p.after (n + 1)).bytesRead = 6 := by
  intro source
  have hbetween : source.FailsBetweenWords := by
    intro before message after hsource
    -- Only behind the first segment is there a failure.
    rcases before with _ | ⟨a, _ | ⟨b, _ | ⟨c, _ | ⟨d, _ | ⟨e, before⟩⟩⟩⟩⟩ <;>
      simp [source] at hsource
    simp [← hsource.1, Source.content]
  obtain ⟨-, n, m, -, hnone, hbatch, -, -, -, hend, hbytes, -, hsame⟩ :=
    resume_behind_failures source 1
  obtain ⟨hgathered, -, -⟩ := hsame hbetween
  exact ⟨hbetween, n, m, hnone, hend, hgathered, hbatch.trans (by decide), hbytes⟩

/-- The second read ends within a word. Behind the failure its byte is missing, so that the event is
not read. -/
theorem resume_within_word :
    let reads : List Segment := [.bytes [0x00, 0x80], .bytes [0x01], .bytes [0x20]]
    let disturbed : List Segment :=
      [.bytes [0x00, 0x80], .bytes [0x01], .failure "disk failure", .bytes [0x20]]
    let p : Payload := { source := disturbed }
    let q : Payload := { source := reads }
    Source.withoutFailures disturbed = reads ∧
      (p.after 2).next.result.toOption = none ∧ (p.after 2).oddByte = some 0x01 ∧
      (p.after 3).oddByte = none ∧
      (p.after 4).next.result.toOption = some none ∧ p.gathered 5 = {} ∧
      (q.after 3).next.result.toOption = some none ∧ q.gathered 4 = ⟨[⟨0, 1, 0, 0⟩], []⟩ := by
  decide

end Payload

end EventCamera
