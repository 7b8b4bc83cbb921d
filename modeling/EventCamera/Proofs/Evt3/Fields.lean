import EventCamera.Evt3.Encoding
import EventCamera.Proofs.Evt3.Stepwise
import Mathlib.Algebra.Group.Nat.Defs

/-!
# Fields as numbers

The fields of words and the parts of times are cut out by shifts and masks. Here they are told as
quotients and remainders, and the words that an encoder writes are read one by one.

## Main results

* `Word.coordinate_addrX`, `Word.flag_addrX`, … — a word carries the fields it is made from
* `groupMask_vectorGroup` — the words of a vector group carry all its validity bits
* `Trail.toNat_periodOf`, `Trail.toNat_upperOf`, `Trail.toNat_lowerOf` — the parts of a time
* `StreamState.toNat_timestamp` — a time is put together from its parts, up to 64 bits of it
* `Decoding.feed_timeHigh`, `Decoding.feed_addrX`, … — what each word does to a reader
-/

namespace EventCamera

/-! ### Masks -/

theorem toNat_and_elevenBits (x : UInt16) : (x &&& 0x07FF).toNat = x.toNat % 2048 := by
  rw [UInt16.toNat_and]
  exact Nat.and_two_pow_sub_one_eq_mod _ 11

theorem toNat_and_twelveBits (x : UInt16) : (x &&& 0x0FFF).toNat = x.toNat % 2 ^ 12 := by
  rw [UInt16.toNat_and]
  exact Nat.and_two_pow_sub_one_eq_mod _ 12

theorem toNat_and_lowestBit (p : UInt8) : (p &&& 1).toNat = p.toNat % 2 := by
  rw [UInt8.toNat_and]
  exact Nat.and_two_pow_sub_one_eq_mod _ 1

/-! ### Fields of words -/

namespace Word

theorem toNat_coordinate (w : Word) : w.coordinate.toNat = w.toNat % 2048 :=
  toNat_and_elevenBits w

theorem toNat_payload (w : Word) : w.payload.toNat = w.toNat % 2 ^ 12 := toNat_and_twelveBits w

theorem toNat_flag (w : Word) : w.flag.toNat = w.toNat / 2048 % 2 := by
  have h : ((w >>> 11) &&& 1).toNat = w.toNat / 2048 % 2 := by
    rw [UInt16.toNat_and, UInt16.toNat_shiftRight, show (11 : UInt16).toNat % 16 = 11 from rfl,
      Nat.shiftRight_eq_div_pow]
    exact Nat.and_two_pow_sub_one_eq_mod _ 1
  rw [flag, UInt16.toNat_toUInt8, h]
  omega

/-- A column has eleven bits, and the polarity stands above them. -/
theorem toNat_columnAndPolarity (x : UInt16) (p : UInt8) :
    (columnAndPolarity x p).toNat = p.toNat % 2 * 2048 + x.toNat % 2048 := by
  -- The polarity is moved above the eleven bits of the column, so that `or` is addition.
  rw [columnAndPolarity, UInt16.toNat_or, UInt16.toNat_shiftLeft, UInt8.toNat_toUInt16,
    toNat_and_lowestBit, toNat_and_elevenBits,
    show (11 : UInt16).toNat % 16 = 11 from rfl, Nat.shiftLeft_eq, Nat.mod_eq_of_lt (by omega),
    ← Nat.shiftLeft_eq, ← Nat.shiftLeft_add_eq_or_of_lt (by omega), Nat.shiftLeft_eq]

theorem coordinate_make_columnAndPolarity (kind : WordKind) (x : UInt16) (p : UInt8) :
    (make kind (columnAndPolarity x p)).coordinate = x &&& 0x07FF := by
  apply UInt16.toNat.inj
  rw [toNat_coordinate, toNat_make, toNat_columnAndPolarity, toNat_and_elevenBits]
  omega

theorem flag_make_columnAndPolarity (kind : WordKind) (x : UInt16) (p : UInt8) :
    (make kind (columnAndPolarity x p)).flag = p &&& 1 := by
  apply UInt8.toNat.inj
  rw [toNat_flag, toNat_make, toNat_columnAndPolarity, toNat_and_lowestBit]
  omega

@[simp] theorem coordinate_addrX (x : UInt16) (p : UInt8) :
    (addrX x p).coordinate = x &&& 0x07FF :=
  coordinate_make_columnAndPolarity _ x p

@[simp] theorem flag_addrX (x : UInt16) (p : UInt8) : (addrX x p).flag = p &&& 1 :=
  flag_make_columnAndPolarity _ x p

@[simp] theorem coordinate_vectBaseX (x : UInt16) (p : UInt8) :
    (vectBaseX x p).coordinate = x &&& 0x07FF :=
  coordinate_make_columnAndPolarity _ x p

@[simp] theorem flag_vectBaseX (x : UInt16) (p : UInt8) : (vectBaseX x p).flag = p &&& 1 :=
  flag_make_columnAndPolarity _ x p

@[simp] theorem lowByte_vect8 (valid : UInt8) : (vect8 valid).lowByte = valid := by
  have hlt := valid.toNat_lt
  have hlow : (vect8 valid &&& 0x00FF).toNat = valid.toNat := by
    rw [UInt16.toNat_and, vect8, toNat_make, UInt8.toNat_toUInt16]
    exact (Nat.and_two_pow_sub_one_eq_mod _ 8).trans (by omega)
  apply UInt8.toNat.inj
  rw [lowByte, UInt16.toNat_toUInt8, hlow]
  omega

@[simp] theorem coordinate_addrY (y : UInt16) (role : CameraRole) :
    (addrY y role).coordinate = y &&& 0x07FF := by
  have hrole : (role.bit <<< 11).toNat = role.bit.toNat * 2048 := by cases role <;> rfl
  apply UInt16.toNat.inj
  rw [toNat_coordinate, addrY, toNat_make, UInt16.toNat_or, toNat_and_elevenBits, hrole,
    show role.bit.toNat * 2048 = role.bit.toNat <<< 11 from (Nat.shiftLeft_eq _ 11).symm,
    ← Nat.shiftLeft_add_eq_or_of_lt (by omega), Nat.shiftLeft_eq]
  omega

end Word

/-! ### Vector groups -/

/-- The bits of the three words do not overlap. -/
theorem toNat_groupMask (m n k : Word) :
    (groupMask m n k).toNat =
      m.payload.toNat + n.payload.toNat * 2 ^ 12 + k.lowByte.toNat * 2 ^ 24 := by
  have hm := m.toNat_payload
  have hn := n.toNat_payload
  have hk := k.lowByte.toNat_lt
  have hsecond : (n.payload.toUInt32 <<< 12).toNat = n.payload.toNat <<< 12 := by
    rw [UInt32.toNat_shiftLeft, show (12 : UInt32).toNat % 32 = 12 from rfl,
      UInt16.toNat_toUInt32, Nat.shiftLeft_eq]
    omega
  have hthird : (k.lowByte.toUInt32 <<< 24).toNat = k.lowByte.toNat <<< 24 := by
    rw [UInt32.toNat_shiftLeft, show (24 : UInt32).toNat % 32 = 24 from rfl,
      UInt8.toNat_toUInt32, Nat.shiftLeft_eq]
    omega
  rw [groupMask, UInt32.toNat_or, UInt32.toNat_or, UInt16.toNat_toUInt32, hsecond, hthird,
    Nat.or_comm m.payload.toNat, ← Nat.shiftLeft_add_eq_or_of_lt (by omega), Nat.or_comm,
    ← Nat.shiftLeft_add_eq_or_of_lt (by rw [Nat.shiftLeft_eq]; omega)]
  simp only [Nat.shiftLeft_eq]
  omega

/-- The words of a vector group carry all its validity bits. -/
theorem groupMask_vectorGroup (valid : UInt32) :
    groupMask (.vect12 (valid &&& 0x0FFF).toUInt16)
        (.vect12 ((valid >>> 12) &&& 0x0FFF).toUInt16)
        (.vect8 ((valid >>> 24) &&& 0xFF).toUInt8) = valid := by
  have hlt := valid.toNat_lt
  have htwelve (bits : UInt32) :
      (Word.vect12 (bits &&& 0x0FFF).toUInt16).payload.toNat = bits.toNat % 2 ^ 12 := by
    have hbits : (bits &&& 0x0FFF).toNat = bits.toNat % 2 ^ 12 := by
      rw [UInt32.toNat_and]
      exact Nat.and_two_pow_sub_one_eq_mod _ 12
    rw [Word.vect12, Word.payload_make, toNat_and_twelveBits, UInt32.toNat_toUInt16, hbits]
    omega
  have height : ((valid >>> 24) &&& 0xFF).toUInt8.toNat = valid.toNat / 2 ^ 24 % 2 ^ 8 := by
    rw [UInt32.toNat_toUInt8, UInt32.toNat_and, UInt32.toNat_shiftRight,
      show (24 : UInt32).toNat % 32 = 24 from rfl, Nat.shiftRight_eq_div_pow]
    exact (congrArg (· % 2 ^ 8) (Nat.and_two_pow_sub_one_eq_mod _ 8)).trans (Nat.mod_mod _ _)
  apply UInt32.toNat.inj
  rw [toNat_groupMask, htwelve, htwelve, Word.lowByte_vect8, height, UInt32.toNat_shiftRight,
    show (12 : UInt32).toNat % 32 = 12 from rfl, Nat.shiftRight_eq_div_pow]
  omega

/-! ### Parts of times -/

namespace Trail

theorem toNat_periodOf (t : UInt64) : (periodOf t).toNat = t.toNat / 2 ^ 24 := by
  rw [periodOf, UInt64.toNat_shiftRight, show (24 : UInt64).toNat % 64 = 24 from rfl,
    Nat.shiftRight_eq_div_pow]

theorem toNat_upperOf (t : UInt64) : (upperOf t).toNat = t.toNat / 2 ^ 12 % 2 ^ 12 := by
  have h : ((t >>> 12) &&& 0x0FFF).toNat = t.toNat / 2 ^ 12 % 2 ^ 12 := by
    rw [UInt64.toNat_and, UInt64.toNat_shiftRight, show (12 : UInt64).toNat % 64 = 12 from rfl,
      Nat.shiftRight_eq_div_pow]
    exact Nat.and_two_pow_sub_one_eq_mod _ 12
  rw [upperOf, UInt64.toNat_toUInt16, h]
  omega

theorem toNat_lowerOf (t : UInt64) : (lowerOf t).toNat = t.toNat % 2 ^ 12 := by
  have h : (t &&& 0x0FFF).toNat = t.toNat % 2 ^ 12 := by
    rw [UInt64.toNat_and]
    exact Nat.and_two_pow_sub_one_eq_mod _ 12
  rw [lowerOf, UInt64.toNat_toUInt16, h]
  omega

/-- A part of a time fits into the word that carries it. -/
theorem upperOf_and (t : UInt64) : upperOf t &&& 0x0FFF = upperOf t := by
  apply UInt16.toNat.inj
  rw [toNat_and_twelveBits, toNat_upperOf, Nat.mod_mod]

theorem lowerOf_and (t : UInt64) : lowerOf t &&& 0x0FFF = lowerOf t := by
  apply UInt16.toNat.inj
  rw [toNat_and_twelveBits, toNat_lowerOf, Nat.mod_mod]

end Trail

/-- The parts of a time do not overlap. Of the number of periods, only as much counts as fits into
64 bits of time. -/
theorem StreamState.toNat_timestamp {s : StreamState} (hu : s.upper.toNat < 2 ^ 12)
    (hl : s.lower.toNat < 2 ^ 12) :
    s.timestamp.toNat =
      (s.period.toNat * 2 ^ 24 + s.upper.toNat * 2 ^ 12 + s.lower.toNat) % 2 ^ 64 := by
  -- The shift drops what of the number of periods lies beyond 64 bits of time.
  have hperiod : (s.period <<< 24).toNat = (s.period.toNat % 2 ^ 40) <<< 24 := by
    rw [UInt64.toNat_shiftLeft, show (24 : UInt64).toNat % 64 = 24 from rfl, Nat.shiftLeft_eq,
      Nat.shiftLeft_eq]
    omega
  have hupper : (s.upper.toUInt64 <<< 12).toNat = s.upper.toNat <<< 12 := by
    rw [UInt64.toNat_shiftLeft, show (12 : UInt64).toNat % 64 = 12 from rfl,
      UInt32.toNat_toUInt64, Nat.shiftLeft_eq]
    omega
  have hhigh : (s.period.toNat % 2 ^ 40) <<< 24 ||| s.upper.toNat <<< 12 =
      ((s.period.toNat % 2 ^ 40) <<< 12 + s.upper.toNat) <<< 12 := by
    rw [← Nat.shiftLeft_add_eq_or_of_lt (by rw [Nat.shiftLeft_eq]; omega)]
    simp only [Nat.shiftLeft_eq]
    omega
  rw [timestamp, UInt64.toNat_or, UInt64.toNat_or, UInt32.toNat_toUInt64, hperiod, hupper, hhigh,
    ← Nat.shiftLeft_add_eq_or_of_lt hl]
  simp only [Nat.shiftLeft_eq]
  omega

/-! ### Words one by one -/

namespace Decoding

variable {d : Decoding}

theorem feed_timeHigh (hg : d.group = .none) (u : UInt16) :
    d.feed (Word.timeHigh u) = { d with state := d.state.setUpper (u &&& 0x0FFF) } := by
  simp [feed, feedPlain, readWord, hg, Word.timeHigh]

theorem feed_timeLow (hg : d.group = .none) (hs : d.state.started = true) (l : UInt16) :
    d.feed (Word.timeLow l) = { d with state := d.state.setLower (l &&& 0x0FFF) } := by
  simp [feed, feedPlain, readWord, hg, hs, Word.timeLow]

theorem feed_addrY (hg : d.group = .none) (hs : d.state.started = true) (y : UInt16)
    (role : CameraRole) :
    d.feed (Word.addrY y role) = { d with state := d.state.setRow (y &&& 0x07FF) } := by
  have hk : (Word.addrY y role).kind? = some .addrY := Word.kind?_make _ _
  simp [feed, feedPlain, readWord, hg, hs, hk]

theorem feed_addrX (hg : d.group = .none) (hs : d.state.started = true) (x : UInt16) (p : UInt8) :
    d.feed (Word.addrX x p) =
      { d with
        events := d.events.push ⟨d.state.timestamp, x &&& 0x07FF, d.state.row, p &&& 1⟩ } := by
  have hk : (Word.addrX x p).kind? = some .addrX := Word.kind?_make _ _
  simp [feed, feedPlain, readWord, hg, hs, hk]

end Decoding

end EventCamera
