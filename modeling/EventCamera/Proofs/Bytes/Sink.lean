import EventCamera.Bytes.Sink
import Mathlib.Logic.Relation

/-!
# What sinks accept

What has been written to a buffered sink is what the sink has accepted and, behind it, what the
buffer holds. A sink without a bound takes it all. One with a bound takes a beginning of it, and
once it has refused something it takes nothing more.

## Main definitions

* `Sink.IsFull` — the sink has no room left
* `Sink.Offered` — one sink has become another by what it was offered
* `BufferedSink.stream` — what has been written and not refused
* `BufferedSink.IsUnbounded` — the sink accepts any number of bytes
* `BufferedSink.Advances` — some bytes are written, and none that were accepted is taken back

## Main results

* `Sink.Offered.isPrefix`, `Sink.Offered.eq_of_isFull` — what offers keep
* `BufferedSink.write_cases`, `BufferedSink.flush_cases` — all goes on, or the sink is full
* `BufferedSink.IsUnbounded.write`, `BufferedSink.IsUnbounded.flush` — nothing is refused
* `BufferedSink.IsUnbounded.advances_writeAll` — several pieces go behind one another
-/

namespace EventCamera

theorem length_toList_data (bs : ByteArray) : bs.data.toList.length = bs.size := by
  rw [Array.length_toList, ByteArray.size_data]

theorem eq_of_toList_data {bs bs' : ByteArray} (h : bs.data.toList = bs'.data.toList) : bs = bs' :=
  ByteArray.ext (Array.toList_inj.1 h)

namespace Sink

/-- The sink has no room left. -/
def IsFull (s : Sink) : Prop := ∃ limit, s.limit = some limit ∧ limit ≤ s.accepted.size

/-- From `s` on, offers have led to `s'`. -/
def Offered : Sink → Sink → Prop := Relation.ReflTransGen fun s s' => ∃ bs, s' = s.offer bs

variable {s s' s'' : Sink}

/-- A sink that has no room for all of some bytes is full once it has been offered them. -/
theorem isFull_offer {bs : ByteArray} (h : ¬s.fits bs = true) : (s.offer bs).IsFull := by
  rw [fits, beq_iff_eq, room] at h
  cases hlimit : s.limit with
  | none =>
    rw [hlimit] at h
    exact absurd rfl h
  | some limit =>
    rw [hlimit] at h
    refine ⟨limit, hlimit, ?_⟩
    rw [accepted_offer, room, hlimit, ByteArray.size_append, ByteArray.size_extract]
    dsimp only at h ⊢
    omega

/-- A full sink accepts nothing. -/
theorem IsFull.offer (h : s.IsFull) (bs : ByteArray) : s.offer bs = s := by
  obtain ⟨limit, hlimit, hsize⟩ := h
  have hroom : s.room bs.size = 0 := by
    rw [room, hlimit]
    dsimp only
    omega
  rw [Sink.offer, hroom, ByteArray.extract_same, ByteArray.append_empty]

/-- What is accepted of some bytes is a beginning of them, behind what has been accepted before. -/
theorem isPrefix_accepted_offer (s : Sink) (bs : ByteArray) :
    (s.offer bs).accepted.data.toList <+: s.accepted.data.toList ++ bs.data.toList := by
  rw [accepted_offer, ByteArray.data_append, Array.toList_append, ByteArray.data_extract,
    Array.toList_extract]
  exact (List.prefix_append_right_inj _).2 (List.take_prefix _ _)

/-! ### Any number of offers -/

namespace Offered

theorem refl (s : Sink) : s.Offered s := Relation.ReflTransGen.refl

theorem offer (s : Sink) (bs : ByteArray) : s.Offered (s.offer bs) :=
  Relation.ReflTransGen.single ⟨bs, rfl⟩

theorem trans (h : s.Offered s') (h' : s'.Offered s'') : s.Offered s'' :=
  Relation.ReflTransGen.trans h h'

theorem limit (h : s.Offered s') : s'.limit = s.limit := by
  induction h with
  | refl => rfl
  | tail _ hoffer ih =>
    obtain ⟨bs, rfl⟩ := hoffer
    exact ih

/-- What a sink has accepted stays, with more behind it. -/
theorem isPrefix (h : s.Offered s') : s.accepted.data.toList <+: s'.accepted.data.toList := by
  induction h with
  | refl => exact List.prefix_rfl
  | tail _ hoffer ih =>
    obtain ⟨bs, rfl⟩ := hoffer
    rw [accepted_offer, ByteArray.data_append, Array.toList_append]
    exact ih.trans (List.prefix_append _ _)

/-- No more is accepted than the bound allows. -/
theorem size_le {limit : Nat} (h : s.Offered s') (hlimit : s.limit = some limit)
    (hs : s.accepted.size ≤ limit) : s'.accepted.size ≤ limit := by
  induction h with
  | refl => exact hs
  | tail hbefore hoffer ih =>
    obtain ⟨bs, rfl⟩ := hoffer
    rw [accepted_offer, room, Offered.limit hbefore, hlimit, ByteArray.size_append,
      ByteArray.size_extract]
    dsimp only
    omega

/-- A full sink stays as it is. -/
theorem eq_of_isFull (h : s.Offered s') (hs : s.IsFull) : s' = s := by
  induction h with
  | refl => rfl
  | tail _ hoffer ih =>
    obtain ⟨bs, rfl⟩ := hoffer
    rw [ih, hs.offer]

end Offered

end Sink

namespace BufferedSink

/-- What has been written and not refused: what has been accepted, and what the buffer holds. -/
def stream (b : BufferedSink) : List UInt8 := b.sink.accepted.data.toList ++ b.buffer.data.toList

/-- The sink accepts any number of bytes. -/
def IsUnbounded (b : BufferedSink) : Prop := b.sink.limit = none

variable {b : BufferedSink}

/-! ### Any sink -/

theorem offered_flush (b : BufferedSink) : b.sink.Offered b.flush.1.sink := by
  rw [flush]
  split <;> exact .offer _ _

private theorem offered_append (b : BufferedSink) (bs : ByteArray) :
    b.sink.Offered (b.append bs).1.sink := by
  rw [append]
  split
  · exact .refl _
  · exact .offer _ _

theorem offered_write (b : BufferedSink) (bs : ByteArray) :
    b.sink.Offered (b.write bs).1.sink := by
  rw [write]
  split
  · exact b.offered_append bs
  · have hflush := b.offered_flush
    split
    · rename_i hresult
      rwa [hresult] at hflush
    · rename_i hresult
      rw [hresult] at hflush
      exact hflush.trans (offered_append _ bs)

/-- A flush passes on all that has been written, or fills the sink with a beginning of it. -/
theorem flush_cases (b : BufferedSink) :
    (∃ b' : BufferedSink, b.flush = (b', .ok ()) ∧ b'.buffer = ByteArray.empty ∧
      b'.sink.accepted.data.toList = b.stream) ∨
    ∃ (b' : BufferedSink) (message : String), b.flush = (b', .error message) ∧
      b'.sink.IsFull ∧ b'.sink.accepted.data.toList <+: b.stream := by
  rw [flush]
  split
  · rename_i hfits
    refine .inl ⟨_, rfl, rfl, ?_⟩
    rw [Sink.accepted_offer_of_fits hfits, ByteArray.data_append, Array.toList_append]
    rfl
  · rename_i hfits
    exact .inr ⟨_, _, rfl, Sink.isFull_offer hfits, Sink.isPrefix_accepted_offer _ _⟩

/-- Bytes that are too many for the buffer go to the sink at once, which is right only behind what
the buffer holds. -/
private theorem append_cases (b : BufferedSink) (bs : ByteArray)
    (hroom : b.buffer.size + bs.size ≤ capacity ∨ b.buffer = ByteArray.empty) :
    (∃ b' : BufferedSink, b.append bs = (b', .ok ()) ∧
      b'.stream = b.stream ++ bs.data.toList) ∨
    ∃ (b' : BufferedSink) (message : String), b.append bs = (b', .error message) ∧
      b'.sink.IsFull ∧ b'.sink.accepted.data.toList <+: b.stream ++ bs.data.toList := by
  rw [append]
  split
  · refine .inl ⟨_, rfl, ?_⟩
    simp [stream]
  · rename_i hsize
    -- Were the buffer not empty, the bytes would have had to fit into it.
    have hempty : b.buffer = ByteArray.empty := by
      rcases hroom with hroom | hempty
      · have hzero : b.buffer.size = 0 := by omega
        exact ByteArray.size_eq_zero_iff.1 hzero
      · exact hempty
    have hstream : b.stream = b.sink.accepted.data.toList := by simp [stream, hempty]
    rw [hstream]
    split
    · rename_i hfits
      refine .inl ⟨_, rfl, ?_⟩
      simp [stream, hempty, Sink.accepted_offer_of_fits hfits]
    · rename_i hfits
      exact .inr ⟨_, _, rfl, Sink.isFull_offer hfits, Sink.isPrefix_accepted_offer _ _⟩

/-- Bytes go behind those written before, or the sink is full and has accepted a beginning of them
all. -/
theorem write_cases (b : BufferedSink) (bs : ByteArray) :
    (∃ b' : BufferedSink, b.write bs = (b', .ok ()) ∧
      b'.stream = b.stream ++ bs.data.toList) ∨
    ∃ (b' : BufferedSink) (message : String), b.write bs = (b', .error message) ∧
      b'.sink.IsFull ∧ b'.sink.accepted.data.toList <+: b.stream ++ bs.data.toList := by
  rw [write]
  split
  · rename_i hroom
    exact b.append_cases bs (.inl hroom)
  · -- The buffer goes to the sink first, so that the order is kept.
    obtain ⟨b', hflush, hempty, hall⟩ | ⟨b', message, hflush, hfull, hsome⟩ := b.flush_cases
    · have hstream : b'.stream = b.stream := by rw [stream, hempty, ← hall]; simp
      rw [hflush, ← hstream]
      exact b'.append_cases bs (.inr hempty)
    · rw [hflush]
      exact .inr ⟨b', message, rfl, hfull, hsome.trans (List.prefix_append _ _)⟩

/-! ### A sink with room for everything -/

theorem IsUnbounded.not_isFull (h : b.IsUnbounded) : ¬b.sink.IsFull := by
  rintro ⟨limit, hlimit, -⟩
  cases hlimit.symm.trans h

theorem IsUnbounded.of_offered {b' : BufferedSink} (h : b.IsUnbounded)
    (hoffered : b.sink.Offered b'.sink) : b'.IsUnbounded :=
  hoffered.limit.trans h

theorem IsUnbounded.flush (h : b.IsUnbounded) :
    ∃ b' : BufferedSink, b.flush = (b', .ok ()) ∧ b'.IsUnbounded ∧ b'.buffer = ByteArray.empty ∧
      b'.sink.accepted.data.toList = b.stream := by
  have hoffered := b.offered_flush
  obtain ⟨b', hflush, hempty, hall⟩ | ⟨b', message, hflush, hfull, -⟩ := b.flush_cases
  · rw [hflush] at hoffered
    exact ⟨b', hflush, h.of_offered hoffered, hempty, hall⟩
  · rw [hflush] at hoffered
    exact absurd hfull (h.of_offered hoffered).not_isFull

/-- A sink without a bound refuses nothing, and the bytes go behind those written before. -/
theorem IsUnbounded.write (h : b.IsUnbounded) (bs : ByteArray) :
    ∃ b' : BufferedSink, b.write bs = (b', .ok ()) ∧ b'.IsUnbounded ∧
      b'.stream = b.stream ++ bs.data.toList := by
  have hoffered := b.offered_write bs
  obtain ⟨b', hwrite, hstream⟩ | ⟨b', message, hwrite, hfull, -⟩ := b.write_cases bs
  · rw [hwrite] at hoffered
    exact ⟨b', hwrite, h.of_offered hoffered, hstream⟩
  · rw [hwrite] at hoffered
    exact absurd hfull (h.of_offered hoffered).not_isFull

/-- Writing the bytes `bs` leads from `b` to `b'`: they go behind what has been written before, and
what the sink has accepted stays. -/
structure Advances (b : BufferedSink) (bs : List UInt8) (b' : BufferedSink) : Prop where
  isUnbounded : b'.IsUnbounded
  stream : b'.stream = b.stream ++ bs
  accepted : b.sink.accepted.data.toList <+: b'.sink.accepted.data.toList

theorem IsUnbounded.advances (h : b.IsUnbounded) : b.Advances [] b where
  isUnbounded := h
  stream := (List.append_nil _).symm
  accepted := List.prefix_rfl

theorem Advances.trans {b' b'' : BufferedSink} {bs more : List UInt8} (h : b.Advances bs b')
    (h' : b'.Advances more b'') : b.Advances (bs ++ more) b'' where
  isUnbounded := h'.isUnbounded
  stream := by rw [h'.stream, h.stream, List.append_assoc]
  accepted := h.accepted.trans h'.accepted

theorem IsUnbounded.advances_write (h : b.IsUnbounded) (bs : ByteArray) :
    ∃ b' : BufferedSink, b.write bs = (b', .ok ()) ∧ b.Advances bs.data.toList b' := by
  obtain ⟨b', hwrite, hb', hstream⟩ := h.write bs
  have hoffered := b.offered_write bs
  rw [hwrite] at hoffered
  exact ⟨b', hwrite, hb', hstream, hoffered.isPrefix⟩

/-- Several pieces go behind one another. -/
theorem IsUnbounded.advances_writeAll (h : b.IsUnbounded) (pieces : List ByteArray) :
    ∃ b' : BufferedSink, b.writeAll pieces = (b', .ok ()) ∧
      b.Advances (pieces.flatMap (·.data.toList)) b' := by
  induction pieces generalizing b with
  | nil => exact ⟨b, rfl, h.advances⟩
  | cons piece pieces ih =>
    obtain ⟨b', hwrite, hfirst⟩ := h.advances_write piece
    obtain ⟨b'', hall, hrest⟩ := ih hfirst.isUnbounded
    rw [writeAll, hwrite, List.flatMap_cons]
    exact ⟨b'', hall, hfirst.trans hrest⟩

/-- Once the buffer has been passed on, the sink has accepted all that has been written. -/
theorem IsUnbounded.advances_flush (h : b.IsUnbounded) :
    ∃ b' : BufferedSink, b.flush = (b', .ok ()) ∧ b.Advances [] b' ∧
      b'.sink.accepted.data.toList = b'.stream := by
  obtain ⟨b', hflush, hb', hempty, hall⟩ := h.flush
  have hoffered := b.offered_flush
  rw [hflush] at hoffered
  have hstream : b'.sink.accepted.data.toList = b'.stream := by
    rw [stream, hempty]
    exact (List.append_nil _).symm
  refine ⟨b', hflush, ⟨hb', ?_, hoffered.isPrefix⟩, hstream⟩
  rw [← hstream, hall, List.append_nil]

end BufferedSink

end EventCamera
