import EventCamera.Evt3.Payload
import EventCamera.Proofs.Batch
import EventCamera.Proofs.Evt3.Stepwise

/-!
# Reading a stream in parts

What a reader of words has read so far has no influence on what it reads next, beyond the state it
has reached and the vector group it has left open. So a stream may be read in parts, each of which
starts where the one before stopped. The same holds one level below, where words are put together
from bytes.

## Main definitions

* `Decoding.resume` — a reader that goes on from the same place with nothing read yet
* `Decoding.join` — what has been read in two parts
* `words`, `leftOver` — the words of some bytes, and the byte left over

## Main results

* `foldl_feed_resume` — reading on is joining what the second part gives
* `decode_append_eq_join`, `decodeFinal_append_eq_join` — so is reading ahead, if the words of a
  group that was left open are offered again
* `pairBytes_append` — words are put together across the border of two parts
-/

namespace EventCamera

namespace Decoding

/-- A reader at the same place that has read nothing yet. -/
def resume (d : Decoding) : Decoding := { state := d.state, group := d.group }

/-- What has been read in two parts, with the place that the second has reached. -/
def join (d e : Decoding) : Decoding :=
  { e with
    events := d.events ++ e.events
    triggers := d.triggers ++ e.triggers
    malformed := d.malformed + e.malformed
    notices := d.notices ++ e.notices }

theorem join_resume (d : Decoding) : d.join d.resume = d := by
  simp [join, resume]

@[simp] theorem state_join (d e : Decoding) : (d.join e).state = e.state := rfl

@[simp] theorem group_join (d e : Decoding) : (d.join e).group = e.group := rfl

@[simp] theorem malformed_join (d e : Decoding) :
    (d.join e).malformed = d.malformed + e.malformed := rfl

@[simp] theorem batch_join (d e : Decoding) : (d.join e).batch = d.batch ++ e.batch := by
  ext1 <;> simp [join, batch]

theorem readWord_join (d e : Decoding) (w : Word) :
    (d.join e).readWord w = d.join (e.readWord w) := by
  simp only [readWord]
  split <;> simp [join]

theorem readGroup_join (d e : Decoding) (b m n k : Word) :
    (d.join e).readGroup b m n k = d.join (e.readGroup b m n k) := by
  rw [readGroup, join, join, Decoding.mk.injEq]
  refine ⟨rfl, rfl, ?_, rfl, rfl, rfl⟩
  apply Array.ext'
  simp [readGroup]

theorem feedPlain_join (d e : Decoding) (w : Word) :
    (d.join e).feedPlain w = d.join (e.feedPlain w) := by
  rw [feedPlain, feedPlain]
  split
  · rfl
  · exact readWord_join d e w

theorem drop_join (d e : Decoding) (notice : Notice) :
    (d.join e).drop notice = d.join (e.drop notice) := by
  simp [drop, join, Nat.add_assoc]

/-- A word is read in the same way whatever has been read before. -/
theorem feed_join (d e : Decoding) (w : Word) : (d.join e).feed w = d.join (e.feed w) := by
  -- Before the first time a word is dropped unread, and neither side looks at it.
  by_cases hw : (e.state.started || w.kind? == some .timeHigh) = true
  · simp only [feed, state_join, group_join, hw, if_true]
    -- A word that breaks off a group is read once more as a word of its own.
    have hdrop (notice : Notice) :
        ((d.join e).drop notice).feedPlain w = d.join ((e.drop notice).feedPlain w) := by
      rw [drop_join, feedPlain_join]
    cases e.group with
    | none => exact feedPlain_join d e w
    | base b =>
      dsimp only
      split
      · rfl
      · exact hdrop _
    | base12 b m =>
      dsimp only
      split
      · rfl
      · exact hdrop _
    | base24 b m n =>
      dsimp only
      split
      · -- The group is complete: its events stand behind those of both parts.
        exact readGroup_join d { e with group := .none } b m n w
      · exact hdrop _
  · simp [feed, hw]

theorem close_join (d e : Decoding) : (d.join e).close = d.join e.close := by
  simp only [close, group_join]
  split
  · rfl
  · exact drop_join d e _

theorem foldl_feed_join (d e : Decoding) (ws : List Word) :
    ws.foldl feed (d.join e) = d.join (ws.foldl feed e) := by
  induction ws generalizing e with
  | nil => rfl
  | cons w ws ih => rw [List.foldl_cons, List.foldl_cons, feed_join, ih]

theorem foldl_feed_resume (d : Decoding) (ws : List Word) :
    ws.foldl feed d = d.join (ws.foldl feed d.resume) := by
  conv => lhs; rw [← join_resume d]
  exact foldl_feed_join d d.resume ws

end Decoding

/-! ### Offering words again -/

private theorem foldl_feed_words_append (s : StreamState) (a b : List Word) :
    ((decode s a).group.words ++ b).foldl Decoding.feed { state := (decode s a).state } =
      b.foldl Decoding.feed (decode s a).resume := by
  rw [List.foldl_append, (sound_decode s a).foldl_feed_words]
  rfl

/-- A list of words may be read in two parts. The words of a group that the first part leaves open
are offered again, in front of the second. -/
theorem decode_append_eq_join (s : StreamState) (a b : List Word) :
    decode s (a ++ b) =
      (decode s a).join (decode (decode s a).state ((decode s a).group.words ++ b)) := by
  rw [decode_append, Decoding.foldl_feed_resume, decode_eq_foldl_feed _ (_ ++ b),
    foldl_feed_words_append]

theorem decodeFinal_append_eq_join (s : StreamState) (a b : List Word) :
    decodeFinal s (a ++ b) =
      (decode s a).join (decodeFinal (decode s a).state ((decode s a).group.words ++ b)) := by
  rw [decodeFinal_eq_close, decodeFinal_eq_close, foldl_feed_words_append, List.foldl_append,
    ← decode_eq_foldl_feed, Decoding.foldl_feed_resume, Decoding.close_join]

/-! ### Words from bytes -/

/-- The words of some bytes, low bytes first. The last byte of an odd number is left over. -/
def words : List UInt8 → List Word
  | low :: high :: bs => Word.ofBytes low high :: words bs
  | _ => []

/-- The byte left over when words are put together. -/
def leftOver : List UInt8 → Option UInt8
  | _ :: _ :: bs => leftOver bs
  | [b] => some b
  | [] => none

private theorem foldl_pairByte (acc : Array Word) (bs : List UInt8) :
    bs.foldl pairByte (acc, none) = (acc ++ words bs, leftOver bs) := by
  fun_induction words bs generalizing acc with
  | case1 low high bs ih => simp [pairByte, leftOver, ih]
  | case2 bs h =>
    match bs with
    | [] => simp [leftOver]
    | [b] => simp [pairByte, leftOver]
    | low :: high :: bs => exact absurd rfl (h low high bs)

theorem pairBytes_none (bs : List UInt8) :
    pairBytes none bs = ((words bs).toArray, leftOver bs) := by
  simp [pairBytes, foldl_pairByte]

private theorem foldl_pairByte_acc (acc : Array Word) (odd : Option UInt8) (bs : List UInt8) :
    bs.foldl pairByte (acc, odd) =
      (acc ++ (bs.foldl pairByte (#[], odd)).1, (bs.foldl pairByte (#[], odd)).2) := by
  -- The byte left over changes from byte to byte, and so do the words already put together.
  induction bs generalizing acc odd with
  | nil => simp
  | cons b bs ih =>
    cases odd with
    | none => simpa [pairByte] using ih acc (some b)
    | some low =>
      simp only [List.foldl_cons, pairByte]
      rw [ih, ih (#[].push _)]
      simp

theorem pairBytes_append (odd : Option UInt8) (a b : List UInt8) :
    pairBytes odd (a ++ b) =
      ((pairBytes odd a).1 ++ (pairBytes (pairBytes odd a).2 b).1,
        (pairBytes (pairBytes odd a).2 b).2) := by
  rw [pairBytes, List.foldl_append]
  exact foldl_pairByte_acc _ _ b

/-- The words of two parts, the second of which starts with the byte left over from the first. -/
theorem words_append (a b : List UInt8) :
    words (a ++ b) = words a ++ (pairBytes (leftOver a) b).1.toList ∧
      leftOver (a ++ b) = (pairBytes (leftOver a) b).2 := by
  have h := pairBytes_append none a b
  simp only [pairBytes_none, Prod.mk.injEq] at h
  refine ⟨?_, h.2⟩
  have := congrArg Array.toList h.1
  simpa using this

end EventCamera
