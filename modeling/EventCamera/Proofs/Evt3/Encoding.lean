import EventCamera.Evt3.Encoding
import EventCamera.Proofs.Evt3.Resumption
import Mathlib.Data.List.Induction

/-!
# Encoding in parts

An encoder that goes on with further events writes what one encoding of all the events writes, and
the bytes of the words are put together to the words again.

## Main results

* `Encoder.late_encode` — the late events are those earlier than the one in front of them
* `Encoder.encode_append` — encoding on is encoding from where the first part stopped
* `Encoded.toList_bytes` — the bytes of a stream, two for each word
* `words_flatMap_littleEndian` — the words of these bytes
-/

namespace EventCamera

/-- Encoding on adds what an encoder in the same state gives that has written nothing yet. -/
theorem Encoded.foldl_push (r : Encoded) (es : List Event) :
    es.foldl push r =
      { encoder := (r.encoder.encode es).encoder
        words := r.words ++ (r.encoder.encode es).words
        late := r.late + (r.encoder.encode es).late
        notices := r.notices ++ (r.encoder.encode es).notices } := by
  -- Events are pushed at the end, so the induction is from that end too.
  induction es using List.reverseRecOn with
  | nil => simp [Encoder.encode]
  | append_singleton es e ih =>
    have hlast : r.encoder.encode (es ++ [e]) = (r.encoder.encode es).push e := by
      rw [Encoder.encode, List.foldl_append]
      rfl
    rw [List.foldl_append, ih, hlast]
    rw [List.foldl_cons, List.foldl_nil, push, push, Encoded.mk.injEq]
    refine ⟨rfl, ?_, ?_, ?_⟩
    · apply Array.ext'
      simp
    · dsimp only
      split <;> omega
    · apply Array.ext'
      simp

namespace Encoder

variable (encoder : Encoder)

theorem encode_append (a b : List Event) :
    encoder.encode (a ++ b) =
      { encoder := ((encoder.encode a).encoder.encode b).encoder
        words := (encoder.encode a).words ++ ((encoder.encode a).encoder.encode b).words
        late := (encoder.encode a).late + ((encoder.encode a).encoder.encode b).late
        notices :=
          (encoder.encode a).notices ++ ((encoder.encode a).encoder.encode b).notices } := by
  rw [encode, List.foldl_append]
  exact Encoded.foldl_push _ b

theorem encode_concat (es : List Event) (e : Event) :
    encoder.encode (es ++ [e]) = (encoder.encode es).push e := by
  rw [encode, List.foldl_append]
  rfl

@[simp] theorem role_encode (es : List Event) :
    (encoder.encode es).encoder.role = encoder.role := by
  induction es using List.reverseRecOn with
  | nil => rfl
  | append_singleton es e ih =>
    rw [encode_concat]
    exact ih

end Encoder

/-! ### Late events -/

/-- The number of events that are earlier than the one in front of them. -/
def Event.descents (es : List Event) : Nat :=
  (es.zip es.tail).countP fun pair => pair.2.t < pair.1.t

theorem Event.descents_cons_cons (e next : Event) (es : List Event) :
    descents (e :: next :: es) = (if next.t < e.t then 1 else 0) + descents (next :: es) := by
  simp [descents, List.countP_cons, Nat.add_comm]

namespace Encoder

variable (encoder : Encoder)

theorem late_encode_cons (e : Event) (es : List Event) :
    (encoder.encode (e :: es)).late =
      (if encoder.isLate e then 1 else 0) + ((encoder.advance e).encode es).late := by
  have hone : (encoder.encode [e]).late = if encoder.isLate e then 1 else 0 := by
    change (if encoder.isLate e then 0 + 1 else 0) = _
    rw [Nat.zero_add]
  rw [← List.singleton_append, encode_append, hone]
  rfl

/-- Behind an event, the late events are those earlier than the one in front of them. -/
theorem late_encode_advance (e : Event) (es : List Event) :
    ((encoder.advance e).encode es).late = Event.descents (e :: es) := by
  induction es generalizing encoder e with
  | nil => rfl
  | cons next es ih =>
    have hlate : (encoder.advance e).isLate next = decide (next.t < e.t) := rfl
    rw [late_encode_cons, ih, Event.descents_cons_cons, hlate]
    simp only [decide_eq_true_eq]

/-- An encoder that has written nothing yet counts all of them. -/
theorem late_encode (role : CameraRole) (es : List Event) :
    (Encoder.encode { role } es).late = Event.descents es := by
  cases es with
  | nil => rfl
  | cons e es =>
    rw [late_encode_cons, late_encode_advance]
    exact Nat.zero_add _

end Encoder

/-! ### Bytes of words -/

theorem Encoded.toList_bytes (r : Encoded) :
    r.bytes.data.toList = r.words.toList.flatMap Word.littleEndian := by
  -- The loop is told for any bytes that stand before those of the words.
  have hfold : ∀ (ws : List Word) (start : ByteArray),
      (ws.foldl (fun bytes w => (bytes.push w.toUInt8).push (w >>> 8).toUInt8)
        start).data.toList = start.data.toList ++ ws.flatMap Word.littleEndian := by
    intro ws
    induction ws with
    | nil =>
      intro start
      simp
    | cons w ws ih =>
      intro start
      rw [List.foldl_cons, ih]
      simp [Word.littleEndian]
  rw [bytes, ← Array.foldl_toList, hfold]
  rfl

theorem Word.ofBytes_littleEndian (w : Word) : Word.ofBytes w.toUInt8 (w >>> 8).toUInt8 = w := by
  have hlt := w.toNat_lt
  have hlow : w.toUInt8.toUInt16.toNat = w.toNat % 256 := by simp
  have hhigh : ((w >>> 8).toUInt8.toUInt16 <<< 8).toNat = (w.toNat / 256) <<< 8 := by
    rw [UInt16.toNat_shiftLeft, UInt8.toNat_toUInt16, UInt16.toNat_toUInt8,
      UInt16.toNat_shiftRight, show (8 : UInt16).toNat % 16 = 8 from rfl,
      Nat.shiftRight_eq_div_pow, Nat.shiftLeft_eq, Nat.shiftLeft_eq]
    omega
  apply UInt16.toNat.inj
  rw [ofBytes, UInt16.toNat_or, hlow, hhigh, Nat.or_comm,
    ← Nat.shiftLeft_add_eq_or_of_lt (Nat.mod_lt _ (by decide)), Nat.shiftLeft_eq]
  omega

/-- Words are put together again from their bytes. -/
theorem words_flatMap_littleEndian (ws : List Word) :
    words (ws.flatMap Word.littleEndian) = ws := by
  induction ws with
  | nil => rfl
  | cons w ws ih =>
    rw [List.flatMap_cons, Word.littleEndian, List.cons_append, List.singleton_append, words,
      Word.ofBytes_littleEndian, ih]

end EventCamera
