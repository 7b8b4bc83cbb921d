import EventCamera.Proofs.Bytes.Source
import EventCamera.Proofs.Evt3.Resumption
import Mathlib.Data.Nat.Find
import Mathlib.Logic.Function.Iterate

/-!
# A payload read in chunks

A payload is pulled from its source chunk by chunk. The borders of chunks fall anywhere: within a
word, within a vector group, or in front of the first time. What comes out in the end is what one
reading of all the words gives, with the words of a last group that is not complete judged as at
the end of a stream.

## Main definitions

* `Payload.after`, `Payload.gathered` — the payload after some chunks, and what they held
* `Payload.Midway`, `Payload.Over` — what has been read and given so far, before and after the end
  of the source has been met

## Main results

* `Payload.after_takes` — the bytes taken from any source are counted
* `Payload.midway_or_over` — the invariant of reading chunk by chunk
* `Payload.gathered_eq_decodeFinal` — the chunks of a steady source hold what one reading gives
-/

namespace EventCamera.Payload

/-- The payload after `n` chunks have been asked for, whatever came of it. -/
def after (p : Payload) (n : Nat) : Payload := (fun q : Payload => q.next.payload)^[n] p

/-- The events and triggers of the first `n` chunks. -/
def gathered (p : Payload) : Nat → Batch
  | 0 => {}
  | n + 1 => gathered p n ++ (p.after n).next.batch

@[simp] theorem after_zero (p : Payload) : p.after 0 = p := rfl

theorem after_succ (p : Payload) (n : Nat) : p.after (n + 1) = (p.after n).next.payload :=
  Function.iterate_succ_apply' _ n p

@[simp] theorem gathered_zero (p : Payload) : p.gathered 0 = {} := rfl

theorem gathered_succ (p : Payload) (n : Nat) :
    p.gathered (n + 1) = p.gathered n ++ (p.after n).next.batch := rfl

theorem after_add (p : Payload) (m n : Nat) : p.after (m + n) = (p.after m).after n := by
  rw [after, Nat.add_comm, Function.iterate_add_apply]
  rfl

theorem gathered_add (p : Payload) (m n : Nat) :
    p.gathered (m + n) = p.gathered m ++ (p.after m).gathered n := by
  induction n with
  | zero => rw [gathered_zero, Batch.append_empty, Nat.add_zero]
  | succ n ih =>
    rw [← Nat.add_assoc, gathered_succ, gathered_succ, ih, after_add, Batch.append_assoc]

/-- Something is asked for, whatever the size of a chunk: an empty read then means the end. -/
theorem bytesPerRead_pos (p : Payload) : 0 < p.bytesPerRead := by
  simp only [bytesPerRead]
  omega

/-- Asking for a chunk takes the bytes that are counted, also where it fails. -/
theorem next_takes (p : Payload) :
    ∃ bs, p.source.content = bs ++ p.next.payload.source.content ∧
      p.next.payload.bytesRead = p.bytesRead + bs.length := by
  simp only [next]
  split
  · exact ⟨[], rfl, rfl⟩
  · split
    · -- A failure takes nothing from the source, and is not counted either.
      rename_i hread
      exact ⟨[], (Source.content_of_read_error hread).symm, rfl⟩
    · rename_i hread
      refine ⟨[], (Source.content_of_read hread).trans ?_, ?_⟩ <;>
        cases hg : p.group <;> simp [finish, hg]
    · rename_i hread
      exact ⟨_, Source.content_of_read hread, rfl⟩

/-- Whatever comes of the chunks, the bytes that are counted are those taken from the source. -/
theorem after_takes (p : Payload) (n : Nat) :
    ∃ bs, p.source.content = bs ++ (p.after n).source.content ∧
      (p.after n).bytesRead = p.bytesRead + bs.length := by
  induction n with
  | zero => exact ⟨[], rfl, rfl⟩
  | succ n ih =>
    obtain ⟨bs, hcontent, hcount⟩ := ih
    obtain ⟨more, hmore, hnext⟩ := next_takes (p.after n)
    refine ⟨bs ++ more, ?_, ?_⟩
    · rw [after_succ, hcontent, hmore, List.append_assoc]
    · rw [after_succ, hnext, hcount, List.length_append, Nat.add_assoc]

/-- A chunk that gives nothing holds nothing, and means that the end of the source has been
met. -/
theorem exhausted_of_next {p : Payload} (h : p.next.result = .ok none) :
    p.next.payload.exhausted = true ∧ p.next.batch = {} := by
  simp only [next] at h ⊢
  split
  · exact ⟨‹_›, rfl⟩
  · rename_i hex
    simp only [hex, Bool.false_eq_true, if_false] at h
    split
    · rename_i hread
      simp [hread] at h
    · rename_i hread
      simp only [hread] at h
      refine ⟨exhausted_finish _ _, ?_⟩
      -- A group that was kept would have been a chunk of its own.
      cases hg : p.group <;> simp [finish, hg] at h ⊢
    · rename_i hnil hread
      simp [hread, absorb] at h

theorem after_of_exhausted {p : Payload} {n m : Nat} (h : (p.after n).exhausted = true)
    (hm : n ≤ m) : p.after m = p.after n := by
  induction m, hm using Nat.le_induction with
  | base => rfl
  | succ m _ ih => rw [after_succ, ih, next_of_exhausted h]

theorem gathered_of_exhausted {p : Payload} (h : p.exhausted = true) (n : Nat) :
    p.gathered n = {} := by
  induction n with
  | zero => rfl
  | succ n ih =>
    have hsame : p.after n = p := after_of_exhausted (n := 0) h n.zero_le
    rw [gathered_succ, ih, hsame, next_of_exhausted h, Batch.append_empty]

/-! ### What has been read so far -/

/-- The payload has read the bytes `bs` and given `b`, and the end of the source is still to be
met. -/
structure Midway (p : Payload) (bs : List UInt8) (b : Batch) : Prop where
  exhausted : p.exhausted = false
  state : p.state = (decode {} (words bs)).state
  group : p.group = (decode {} (words bs)).group
  malformed : p.malformed = (decode {} (words bs)).malformed
  batch : b = (decode {} (words bs)).batch
  oddByte : p.oddByte = leftOver bs
  bytesRead : p.bytesRead = bs.length

/-- The payload has read the bytes `bs`, met the end of the source and given `b`. -/
structure Over (p : Payload) (bs : List UInt8) (b : Batch) : Prop where
  exhausted : p.exhausted = true
  state : p.state = (decodeFinal {} (words bs)).state
  malformed : p.malformed = (decodeFinal {} (words bs)).malformed
  batch : b = (decodeFinal {} (words bs)).batch
  bytesRead : p.bytesRead = bs.length

theorem midway_start (source : Source) (chunkWords : Nat) :
    Midway { source, chunkWords } [] {} where
  exhausted := rfl
  state := rfl
  group := rfl
  malformed := rfl
  batch := rfl
  oddByte := rfl
  bytesRead := rfl

variable {p : Payload} {bs : List UInt8} {b : Batch}

/-- A chunk is read behind the bytes read before. -/
theorem Midway.absorb (h : p.Midway bs b) (source : Source) (new : List UInt8) :
    Midway (p.absorb source new).payload (bs ++ new) (b ++ (p.absorb source new).batch) := by
  obtain ⟨hwords, hodd⟩ := words_append bs new
  -- The words that are offered are the new ones, behind those of the group that `bs` leaves open.
  have hdecode : decode {} (words (bs ++ new)) = (decode {} (words bs)).join
      (decode p.state (p.group.words ++ (pairBytes p.oddByte new).1.toList)) := by
    rw [hwords, decode_append_eq_join, ← h.state, ← h.group, ← h.oddByte]
  constructor
  · exact h.exhausted
  · rw [hdecode, Decoding.state_join]; rfl
  · rw [hdecode, Decoding.group_join]; rfl
  · rw [hdecode, Decoding.malformed_join, ← h.malformed]; rfl
  · rw [hdecode, Decoding.batch_join, ← h.batch]; rfl
  · rw [hodd, ← h.oddByte]; rfl
  · rw [List.length_append, ← h.bytesRead]; rfl

/-- The end of the source judges what has been kept as the end of a stream does. -/
theorem Midway.finish (h : p.Midway bs b) (source : Source) :
    Over (p.finish source).payload bs (b ++ (p.finish source).batch) := by
  have hfinal : decodeFinal {} (words bs) =
      (decode {} (words bs)).join (decodeFinal p.state p.group.words) := by
    have happend := decodeFinal_append_eq_join {} (words bs) []
    rwa [List.append_nil, List.append_nil, ← h.state, ← h.group] at happend
  rw [Payload.finish]
  cases hg : p.group with
  | none =>
    -- Nothing was kept, so that the chunks before have given everything.
    rw [hg, OpenGroup.words, decodeFinal_nil] at hfinal
    refine ⟨rfl, ?_, ?_, ?_, h.bytesRead⟩
    · rw [hfinal]
      rfl
    · rw [hfinal, Decoding.malformed_join, ← h.malformed]
      rfl
    · rw [hfinal, Decoding.batch_join, ← h.batch]
      rfl
  | base | base12 | base24 =>
    -- The words of the group that is not complete are counted, and reported in a last batch.
    rw [hg] at hfinal
    refine ⟨rfl, ?_, ?_, ?_, h.bytesRead⟩
    · rw [hfinal]
      rfl
    · rw [hfinal, Decoding.malformed_join, ← h.malformed]
    · rw [hfinal, Decoding.batch_join, ← h.batch]

/-- Asking a faultless source for a chunk reads some of the bytes within reach, or meets the end. -/
theorem Midway.next (h : p.Midway bs b) (hs : p.source.IsFaultless) :
    (∃ new, new ≠ [] ∧ (∃ o, p.next.result = .ok (some o)) ∧
        p.source.reach = new ++ p.next.payload.source.reach ∧
        p.next.payload.source.IsFaultless ∧
        p.next.payload.Midway (bs ++ new) (b ++ p.next.batch)) ∨
      p.source.reach = [] ∧ (∃ o, p.next.result = .ok o) ∧
        p.next.payload.Over bs (b ++ p.next.batch) := by
  obtain ⟨new, rest, hread, hrest, hempty, hmore⟩ := hs.read p.bytesPerRead_pos
  have hnext : p.next = if new = [] then p.finish rest else p.absorb rest new := by
    simp only [Payload.next, h.exhausted, hread, Bool.false_eq_true, if_false]
    cases new <;> rfl
  by_cases hnew : new = []
  · rw [if_pos hnew] at hnext
    rw [hnext]
    refine .inr ⟨hempty hnew, ?_, h.finish rest⟩
    cases hg : p.group <;> simp [Payload.finish, hg]
  · rw [if_neg hnew] at hnext
    rw [hnext]
    exact .inl ⟨new, hnew, ⟨_, rfl⟩, hmore hnew, hrest, h.absorb rest new⟩

section Faultless

variable {source : Source} (hs : source.IsFaultless) (chunkWords : Nat)
include hs

/-- Reading chunk by chunk, a faultless source has given what its first bytes hold, at least one
byte for each chunk, or all that it holds within reach. -/
theorem midway_or_over (n : Nat) :
    let p : Payload := { source, chunkWords }
    (∃ bs, n ≤ bs.length ∧ source.reach = bs ++ (p.after n).source.reach ∧
        (p.after n).source.IsFaultless ∧ (p.after n).Midway bs (p.gathered n)) ∨
      (p.after n).Over source.reach (p.gathered n) := by
  intro p
  -- Induction on the number of chunks. Each one reads on, meets the end, or finds it already met.
  induction n with
  | zero => exact .inl ⟨[], Nat.le_refl 0, rfl, hs, midway_start source chunkWords⟩
  | succ n ih =>
    rw [after_succ, gathered_succ]
    rcases ih with ⟨bs, hlen, hreach, hfaultless, hmid⟩ | hover
    · rcases hmid.next hfaultless with ⟨new, hnew, -, hmore, hrest, hmid'⟩ | ⟨hend, -, hover⟩
      · refine .inl ⟨bs ++ new, ?_, ?_, hrest, hmid'⟩
        · have := List.length_pos_iff.2 hnew
          rw [List.length_append]
          omega
        · rw [hreach, hmore, List.append_assoc]
      · rw [hend, List.append_nil] at hreach
        exact .inr (hreach ▸ hover)
    · rw [next_of_exhausted hover.exhausted, Batch.append_empty]
      exact .inr hover

/-- Once the end of a faultless source has been met, it has given all that it holds within reach. -/
theorem over_of_exhausted {n : Nat} :
    let p : Payload := { source, chunkWords }
    (p.after n).exhausted = true → (p.after n).Over source.reach (p.gathered n) := by
  intro p hex
  rcases midway_or_over hs chunkWords n with ⟨bs, -, -, -, hmid⟩ | hover
  · rw [hmid.exhausted] at hex
    cases hex
  · exact hover

/-- A faultless source never fails, and its end is met after at most one chunk for each byte. -/
theorem next_of_isFaultless (n : Nat) :
    let p : Payload := { source, chunkWords }
    (∃ o, (p.after n).next.result = .ok o) ∧
      (source.reach.length < n → (p.after n).next.result = .ok none) := by
  intro p
  rcases midway_or_over hs chunkWords n with ⟨bs, hlen, hreach, hfaultless, hmid⟩ | hover
  · refine ⟨?_, ?_⟩
    · rcases hmid.next hfaultless with ⟨-, -, ⟨o, ho⟩, -⟩ | ⟨-, ho, -⟩
      · exact ⟨_, ho⟩
      · exact ho
    · -- Each chunk so far has taken a byte, and there are not that many.
      intro hn
      have := congrArg List.length hreach
      rw [List.length_append] at this
      omega
  · have hnext : (p.after n).next.result = .ok none := by
      rw [next_of_exhausted hover.exhausted]
    exact ⟨⟨_, hnext⟩, fun _ => hnext⟩

/-- The chunks of a faultless source go on until one gives nothing, which means that all within
reach has been given. -/
theorem exists_end :
    let p : Payload := { source, chunkWords }
    ∃ n, (∀ k < n, ∃ o, (p.after k).next.result = .ok (some o)) ∧
      (p.after n).next.result = .ok none ∧
      (p.after (n + 1)).Over source.reach (p.gathered (n + 1)) := by
  intro p
  have hends : ∃ n, (p.after n).next.result = .ok none :=
    ⟨_, (next_of_isFaultless hs chunkWords (source.reach.length + 1)).2 (Nat.lt_succ_self _)⟩
  classical
  -- The last chunk is the first that gives nothing.
  refine ⟨Nat.find hends, ?_, Nat.find_spec hends, ?_⟩
  · intro k hk
    obtain ⟨o, ho⟩ := (next_of_isFaultless hs chunkWords k).1
    cases o with
    | none => exact absurd ho (Nat.find_min hends hk)
    | some o => exact ⟨o, ho⟩
  · apply over_of_exhausted hs chunkWords
    rw [after_succ]
    exact (exhausted_of_next (Nat.find_spec hends)).1

end Faultless

/-- By the end, a steady source has given all that it holds. -/
theorem exists_last_chunk {source : Source} (hs : source.IsSteady) (chunkWords : Nat) :
    let p : Payload := { source, chunkWords }
    ∃ n, (∀ k < n, ∃ o, (p.after k).next.result = .ok (some o)) ∧
      (p.after n).next.result = .ok none ∧
      (p.after (n + 1)).Over source.content (p.gathered (n + 1)) := by
  intro p
  rw [← hs.reach_eq]
  exact exists_end hs.isFaultless chunkWords

/-- The chunks of a steady source hold what one reading of all its words gives, wherever the source
is cut, interrupted or asked for less than it has. Once a chunk gives nothing, none does. -/
theorem gathered_eq_decodeFinal (source : Source) (chunkWords : Nat) (hs : source.IsSteady) :
    let p : Payload := { source, chunkWords }
    let whole := decodeFinal {} (words source.content)
    ∃ n,
      (∀ k < n, ∃ o, (p.after k).next.result = .ok (some o)) ∧
      (p.after n).next.result = .ok none ∧
      (p.gathered (n + 1)).events = whole.events.toList ∧
      (p.gathered (n + 1)).triggers = whole.triggers.toList ∧
      (p.after (n + 1)).state = whole.state ∧
      (p.after (n + 1)).malformed = whole.malformed ∧
      (p.after (n + 1)).bytesRead = source.content.length ∧
      ∀ m, n < m → p.after m = p.after (n + 1) ∧
        (p.after m).next = { payload := p.after m, result := .ok none } := by
  intro p whole
  obtain ⟨n, hsome, hnone, hover⟩ := exists_last_chunk hs chunkWords
  refine ⟨n, hsome, hnone, ?_, ?_, hover.state, hover.malformed, hover.bytesRead, ?_⟩
  · rw [hover.batch]; rfl
  · rw [hover.batch]; rfl
  · intro m hm
    have hm : p.after m = p.after (n + 1) := after_of_exhausted hover.exhausted hm
    exact ⟨hm, next_of_exhausted (hm ▸ hover.exhausted)⟩

/-- A source whose segments end within words and within a vector group. Its last group lacks two
words, and its last byte is half a word. -/
def raggedSource : Source :=
  [.bytes [0x01], .bytes [0x80, 0x05, 0x00, 0x0A], .interruption, .bytes [0x38, 0x03, 0x40, 0x00],
    .bytes [0x40, 0x80, 0x50, 0x00, 0x30, 0x01, 0x40, 0xFF]]

theorem gathered_eq_decodeFinal_ragged :
    raggedSource.IsSteady ∧
      let p : Payload := { source := raggedSource, chunkWords := 1 }
      ∃ n, (p.after n).next.result = .ok none ∧
        (p.gathered (n + 1)).events =
          [⟨4096, 10, 5, 1⟩, ⟨4096, 11, 5, 1⟩, ⟨4096, 41, 5, 1⟩] ∧
        (p.gathered (n + 1)).triggers = [] ∧
        (p.after (n + 1)).malformed = 1 ∧ (p.after (n + 1)).bytesRead = 17 := by
  have hs : raggedSource.IsSteady := by
    simp [raggedSource, Source.IsSteady]
  refine ⟨hs, ?_⟩
  obtain ⟨n, -, hnone, hevents, htriggers, -, hmalformed, hbytes, -⟩ :=
    gathered_eq_decodeFinal raggedSource 1 hs
  exact ⟨n, hnone, hevents.trans (by decide), htriggers.trans (by decide),
    hmalformed.trans (by decide), hbytes⟩

end EventCamera.Payload
