import EventCamera.Proofs.Evt3.Encoding
import EventCamera.Proofs.Evt3.Tracking
import Mathlib.Order.Monotone.Basic

/-!
# Events in any order

A stream says bits 0 to 23 of each time, and a reader counts the periods. Events that are encoded
out of order are still read back one for one, but the reader counts each step down of bits 12 to 23
within the periods it has already reached as one more period, and never takes one back. How far it
is ahead after some events is a matter of all of them.

## Main definitions

* `latestPeriod`, `drift` — the highest period among the first events, and the steps down among them
* `readBack` — an event as it is read back
* `Event.narrow` — an event with the bits of its column that a word can carry
* `ReadBack` — what a reader has after the first events

## Main results

* `events_decode_encode` — what a reader of encoded events gives
* `drift_of_pairwise` — events in order do not drift
* `decode_encode_of_any_order` — the times, fields and counts that come back, whatever the order
-/

namespace EventCamera

/-- Bits 24 and higher of the time. -/
def Event.period (e : Event) : Nat := e.t.toNat / 2 ^ 24

/-- Bits 12 to 23 of the time. -/
def Event.upper (e : Event) : Nat := e.t.toNat / 2 ^ 12 % 2 ^ 12

/-- The highest period among the first `n` events. -/
def latestPeriod (es : List Event) (n : Nat) : Nat := ((es.take n).map Event.period).foldl max 0

/-- Bits 12 to 23 of the time go down from the event at `j` to the next, which is in none but the
periods reached by then. -/
def turnsBack (es : List Event) (j : Nat) : Bool :=
  match es[j]?, es[j + 1]? with
  | some a, some b => decide (b.period ≤ latestPeriod es (j + 1)) && decide (b.upper < a.upper)
  | _, _ => false

/-- The number of steps down among the first `n` events. -/
def drift (es : List Event) (n : Nat) : Nat := (List.range (n - 1)).countP (turnsBack es)

/-- The event at `i` as it is read back. -/
def readBack (es : List Event) (i : Nat) (e : Event) : Event where
  t := UInt64.ofNat (e.t.toNat % 2 ^ 24 + 2 ^ 24 * (latestPeriod es (i + 1) + drift es (i + 1)))
  x := e.x &&& 0x07FF
  y := e.y &&& 0x07FF
  p := e.p &&& 1

variable {es : List Event} {n : Nat}

@[simp] theorem latestPeriod_zero : latestPeriod es 0 = 0 := rfl

theorem latestPeriod_succ (hn : n < es.length) :
    latestPeriod es (n + 1) = max (latestPeriod es n) es[n].period := by
  rw [latestPeriod, List.take_succ_eq_append_getElem hn, List.map_append, List.foldl_append]
  rfl

@[simp] theorem drift_zero : drift es 0 = 0 := rfl

@[simp] theorem drift_one : drift es 1 = 0 := rfl

theorem drift_succ_succ (es : List Event) (n : Nat) :
    drift es (n + 2) = drift es (n + 1) + if turnsBack es n then 1 else 0 := by
  simp [drift, List.range_succ, List.countP_append, List.countP_cons]

/-- What a reader is ahead it never loses. -/
theorem drift_monotone (es : List Event) : Monotone (drift es) := by
  apply monotone_nat_of_le_succ
  intro n
  cases n with
  | zero => simp
  | succ n =>
    rw [drift_succ_succ]
    exact Nat.le_add_right _ _

theorem turnsBack_eq (hn : n + 1 < es.length) :
    turnsBack es n = (decide (es[n + 1].period ≤ latestPeriod es (n + 1)) &&
      decide (es[n + 1].upper < es[n].upper)) := by
  rw [turnsBack, List.getElem?_eq_getElem (by omega), List.getElem?_eq_getElem hn]

theorem period_le_latestPeriod {i : Nat} (hi : i < n) (hn : n ≤ es.length) :
    es[i].period ≤ latestPeriod es n := by
  induction n with
  | zero => exact absurd hi (Nat.not_lt_zero i)
  | succ n ih =>
    rw [latestPeriod_succ (by omega)]
    rcases Nat.lt_succ_iff_lt_or_eq.1 hi with hlt | rfl
    · exact Nat.le_trans (ih hlt (by omega)) (Nat.le_max_left _ _)
    · exact Nat.le_max_right _ _

/-- Of the periods that are counted, only as much counts as fits into 64 bits of time. -/
theorem toNat_t_readBack (es : List Event) (i : Nat) (e : Event) :
    (readBack es i e).t.toNat =
      (e.t.toNat % 2 ^ 24 + 2 ^ 24 * (latestPeriod es (i + 1) + drift es (i + 1))) % 2 ^ 64 :=
  UInt64.toNat_ofNat'

/-! ### What a reader has after the first events -/

/-- What the first `n` events leave behind: what the stream said last, and a reader of it. -/
structure ReadBack (es : List Event) (n : Nat) (trail : Trail) (d : Decoding) : Prop where
  reader : trail.Matches d.state
  latest : trail.period.toNat = latestPeriod es n
  /-- Before the first event nothing has been said of bits 12 to 23. -/
  fresh : n = 0 → trail.upper = -1
  last : ∀ k (hk : k < es.length), n = k + 1 → trail.upper = es[k].upper
  period : d.state.period = UInt64.ofNat (latestPeriod es n + drift es n)
  events : d.events.toList = (es.take n).mapIdx (readBack es)
  group : d.group = .none
  malformed : d.malformed = 0
  triggers : d.triggers = #[]

theorem readBack_start (es : List Event) : ReadBack es 0 {} { state := {} } where
  reader := Trail.matches_start
  latest := rfl
  fresh _ := rfl
  last _ _ h := absurd h (by omega)
  period := rfl
  events := rfl
  group := rfl
  malformed := rfl
  triggers := rfl

namespace ReadBack

variable {trail : Trail} {d : Decoding}

/-- The periods that a reader counts on the way to the next event: up to a new highest one, or one
that no time has reached. -/
theorem told (h : ReadBack es n trail d) (hn : n < es.length) :
    latestPeriod es n + drift es n + trail.told es[n] =
      latestPeriod es (n + 1) + drift es (n + 1) := by
  have hperiod : (Trail.periodOf es[n].t).toNat = es[n].period := Trail.toNat_periodOf _
  have hupper : (Trail.upperOf es[n].t).toNat = es[n].upper := Trail.toNat_upperOf _
  rw [Trail.told, hperiod, hupper, h.latest, latestPeriod_succ hn]
  cases n with
  | zero =>
    -- The first event is not behind another, and what has not been said is below all bits.
    rw [h.fresh rfl]
    have hfirst : ¬ (es[0].upper : Int) < -1 := by omega
    simp only [latestPeriod_zero, drift_zero, Nat.zero_add, drift_one, hfirst, if_false]
    split <;> omega
  | succ k =>
    rw [h.last k (by omega) rfl, drift_succ_succ, turnsBack_eq hn]
    by_cases hahead : latestPeriod es (k + 1) < es[k + 1].period
    · -- A new highest period is told in full, and what the reader was ahead stays.
      simp only [hahead, if_true, Nat.not_le.2 hahead, decide_false, Bool.false_and,
        Bool.false_eq_true, if_false]
      omega
    · -- Within the periods reached, a step down is the one thing that counts.
      simp only [hahead, if_false, Nat.not_lt.1 hahead, decide_true, Bool.true_and,
        decide_eq_true_eq, Int.ofNat_lt]
      omega

theorem timestamp (h : ReadBack es n trail d) (hn : n < es.length) :
    (trail.stateAt d.state es[n]).timestamp = (readBack es n es[n]).t := by
  have hupper : (trail.stateAt d.state es[n]).upper.toNat = es[n].t.toNat / 2 ^ 12 % 2 ^ 12 := by
    simp [Trail.stateAt, Trail.toNat_upperOf]
  have hlower : (trail.stateAt d.state es[n]).lower.toNat = es[n].t.toNat % 2 ^ 12 := by
    simp [Trail.stateAt, Trail.toNat_lowerOf]
  have hperiod : (trail.stateAt d.state es[n]).period.toNat =
      (latestPeriod es (n + 1) + drift es (n + 1)) % 2 ^ 64 := by
    rw [← h.told hn]
    simp only [Trail.stateAt, StreamState.moved, h.period, ← UInt64.ofNat_add]
    exact UInt64.toNat_ofNat'
  apply UInt64.toNat.inj
  rw [StreamState.toNat_timestamp (by omega) (by omega), hperiod, hupper, hlower, readBack,
    UInt64.toNat_ofNat']
  omega

/-- The words of one more event keep up what is known of the reader. -/
theorem step (h : ReadBack es n trail d) (hn : n < es.length) (role : CameraRole) :
    ReadBack es (n + 1) (trail.advance es[n])
      ((trail.encode role es[n]).foldl Decoding.feed d) := by
  have htold := h.told hn
  rw [Trail.foldl_feed_encode h.group h.reader role, h.timestamp hn]
  refine ⟨Trail.matches_advance _ _ _, ?_, ?_, ?_, ?_, ?_, h.group, h.malformed, h.triggers⟩
  · rw [latestPeriod_succ hn, ← h.latest]
    have hperiod : (Trail.periodOf es[n].t).toNat = es[n].period := Trail.toNat_periodOf _
    rw [← hperiod]
    -- The encoder keeps the higher of the two periods, as `max` does.
    change (if trail.period ≤ Trail.periodOf es[n].t then Trail.periodOf es[n].t
      else trail.period).toNat = _
    simp only [apply_ite UInt64.toNat, UInt64.le_iff_toNat_le, Nat.max_def]
  · intro hzero
    exact absurd hzero (Nat.succ_ne_zero n)
  · intro k hk hnk
    obtain rfl : n = k := by omega
    exact congrArg Int.ofNat (Trail.toNat_upperOf _)
  · simp only [Trail.stateAt, StreamState.moved, h.period, ← UInt64.ofNat_add, htold]
  · rw [Array.toList_push, h.events, List.take_succ_eq_append_getElem hn, List.mapIdx_concat,
      List.length_take_of_le (by omega)]
    rfl

end ReadBack

/-! ### Whole lists of events -/

theorem readBack_take (role : CameraRole) (es : List Event) (hn : n ≤ es.length) :
    ReadBack es n (Encoder.encode { role } (es.take n)).encoder.trail
      (decode {} (Encoder.encode { role } (es.take n)).words.toList) := by
  induction n with
  | zero => exact readBack_start es
  | succ n ih =>
    have hstep := (ih (by omega)).step (by omega) role
    rw [List.take_succ_eq_append_getElem (by omega), Encoder.encode_concat]
    simpa [Encoded.push, Encoder.advance, decode_append] using hstep

theorem readBack_encode (role : CameraRole) (es : List Event) :
    ReadBack es es.length (Encoder.encode { role } es).encoder.trail
      (decode {} (Encoder.encode { role } es).words.toList) := by
  simpa using readBack_take role es (Nat.le_refl es.length)

/-- A reader of an encoded list gives its events, each as it is read back. -/
theorem events_decode_encode (role : CameraRole) (es : List Event) :
    (decode {} (Encoder.encode { role } es).words.toList).events.toList =
      es.mapIdx (readBack es) := by
  simpa using (readBack_encode role es).events

/-- No group is open behind the last event, and the end of the stream adds nothing. -/
theorem decodeFinal_encode (role : CameraRole) (es : List Event) :
    decodeFinal {} (Encoder.encode { role } es).words.toList =
      decode {} (Encoder.encode { role } es).words.toList := by
  rw [decodeFinal_eq_close, ← decode_eq_foldl_feed, Decoding.close, (readBack_encode role es).group]

/-- Events in any order come back one for one, with the fields that words can carry. Their times
are right in bits 0 to 23, and the periods are the highest so far with the drift on top. -/
theorem decode_encode_of_any_order (role : CameraRole) (es : List Event) :
    let ws := (Encoder.encode { role } es).words.toList
    let d := decode {} ws
    d.outcome ws.length =
        { events := es.length, triggers := 0, consumed := ws.length, malformed := 0 } ∧
      (∀ i (hi : i < es.length), ∃ e, d.events[i]? = some e ∧
        e.x = es[i].x &&& 0x07FF ∧ e.y = es[i].y &&& 0x07FF ∧ e.p = es[i].p &&& 1 ∧
        e.t.toNat % 2 ^ 24 = es[i].t.toNat % 2 ^ 24 ∧
        (latestPeriod es (i + 1) + drift es (i + 1) < 2 ^ 40 →
          e.t.toNat = es[i].t.toNat % 2 ^ 24 +
              2 ^ 24 * (latestPeriod es (i + 1) + drift es (i + 1)) ∧
            es[i].t ≤ e.t)) ∧
      Monotone (drift es) := by
  intro ws d
  have hread := readBack_encode role es
  have hevents : d.events.toList = es.mapIdx (readBack es) := events_decode_encode role es
  refine ⟨?_, ?_, drift_monotone es⟩
  · have hsize : d.events.size = es.length := by
      rw [← Array.length_toList, hevents, List.length_mapIdx]
    rw [Decoding.outcome, hsize, hread.triggers, hread.group, hread.malformed]
    rfl
  · intro i hi
    have hget : d.events[i]? = some (readBack es i es[i]) := by
      rw [← Array.getElem?_toList, hevents, List.getElem?_mapIdx, List.getElem?_eq_getElem hi]
      rfl
    have htime := toNat_t_readBack es i es[i]
    refine ⟨readBack es i es[i], hget, rfl, rfl, rfl, by omega, ?_⟩
    -- Below 2 ^ 40 periods nothing is cut off, and no event is in a later period than the latest.
    intro hfits
    have hle : es[i].period ≤ latestPeriod es (i + 1) := period_le_latestPeriod (by omega) hi
    rw [Event.period] at hle
    have hexact : (readBack es i es[i]).t.toNat = es[i].t.toNat % 2 ^ 24 +
        2 ^ 24 * (latestPeriod es (i + 1) + drift es (i + 1)) := by omega
    refine ⟨hexact, ?_⟩
    rw [UInt64.le_iff_toNat_le, hexact]
    omega

/-- An event that is late by four steps of bits 12 to 23 comes back one period later. -/
theorem decode_encode_of_late_event :
    let late : List Event := [⟨0x2005000, 7, 1, 1⟩, ⟨0x2001003, 0x0FFF, 1, 2⟩]
    ∃ e, (decode {} (Encoder.encode { role := .slave } late).words.toList).events[1]? = some e ∧
      e.t.toNat = 0x3001003 ∧ e.x = 0x07FF ∧ e.p = 0 := by
  intro late
  obtain ⟨_, hread, _⟩ := decode_encode_of_any_order .slave late
  obtain ⟨e, hget, hx, _, hp, _, htime⟩ := hread 1 (by decide)
  obtain ⟨hexact, _⟩ := htime (by decide)
  exact ⟨e, hget, hexact.trans (by decide), hx.trans (by decide), hp.trans (by decide)⟩

/-! ### Events in order -/

/-- Among events in order, each is in the highest period so far. -/
theorem latestPeriod_of_pairwise (h : es.Pairwise (·.t ≤ ·.t)) {i : Nat} (hi : i < es.length) :
    latestPeriod es (i + 1) = es[i].period := by
  induction i with
  | zero => rw [latestPeriod_succ hi, latestPeriod_zero, Nat.zero_max]
  | succ i ih =>
    have hle := List.pairwise_iff_getElem.1 h i (i + 1) (by omega) hi (Nat.lt_succ_self i)
    rw [UInt64.le_iff_toNat_le] at hle
    rw [latestPeriod_succ hi, ih (by omega), Event.period, Event.period, Nat.max_eq_right]
    exact Nat.div_le_div_right hle

theorem drift_of_pairwise (h : es.Pairwise (·.t ≤ ·.t)) (hn : n ≤ es.length) :
    drift es n = 0 := by
  rw [drift, List.countP_eq_zero]
  intro j hj
  rw [List.mem_range] at hj
  have hle := List.pairwise_iff_getElem.1 h j (j + 1) (by omega) (by omega) (Nat.lt_succ_self j)
  rw [UInt64.le_iff_toNat_le] at hle
  rw [turnsBack_eq (by omega), latestPeriod_of_pairwise h (by omega)]
  intro hdown
  simp only [Bool.and_eq_true, decide_eq_true_eq] at hdown
  -- Both times lie in one period, and there the upper bits have the order of the times.
  simp only [Event.period, Event.upper] at hdown
  omega

theorem and_elevenBits_eq_self_iff {c : UInt16} : c &&& 0x07FF = c ↔ c ≤ 2047 := by
  rw [← UInt16.toNat_inj, toNat_and_elevenBits, UInt16.le_iff_toNat_le,
    show (2047 : UInt16).toNat = 2047 from rfl]
  omega

/-- The event with the eleven bits of its column that a word can carry. -/
def Event.narrow (e : Event) : Event := { e with x := e.x &&& 0x07FF }

theorem Event.narrow_eq_self_iff {e : Event} : e.narrow = e ↔ e.x ≤ 2047 := by
  rw [← and_elevenBits_eq_self_iff]
  constructor
  · exact congrArg Event.x
  · intro hx
    rw [narrow, hx]

/-- An event in its period without drift whose row and polarity fit into words is read back with
eleven bits of its column. -/
theorem readBack_eq_narrow {i : Nat} {e : Event} (hperiod : latestPeriod es (i + 1) = e.period)
    (hdrift : drift es (i + 1) = 0) (hy : e.y ≤ 2047) (hp : e.p ≤ 1) :
    readBack es i e = e.narrow := by
  have hpolarity : e.p &&& 1 = e.p := by
    rw [UInt8.le_iff_toNat_le] at hp
    apply UInt8.toNat.inj
    rw [toNat_and_lowestBit]
    exact Nat.mod_eq_of_lt (Nat.lt_succ_of_le hp)
  have htime : (readBack es i e).t = e.t := by
    have hlt := e.t.toNat_lt
    apply UInt64.toNat.inj
    rw [toNat_t_readBack, hperiod, hdrift, Event.period]
    omega
  calc readBack es i e
      = ⟨(readBack es i e).t, e.x &&& 0x07FF, e.y &&& 0x07FF, e.p &&& 1⟩ := rfl
    _ = e.narrow := by rw [htime, and_elevenBits_eq_self_iff.2 hy, hpolarity, Event.narrow]

/-- Events in order whose rows and polarities fit into words come back with eleven bits of their
columns. -/
theorem events_decode_encode_of_rows (role : CameraRole) (h : es.Pairwise (·.t ≤ ·.t))
    (hfit : ∀ e ∈ es, e.y ≤ 2047 ∧ e.p ≤ 1) :
    (decode {} (Encoder.encode { role } es).words.toList).events.toList = es.map Event.narrow := by
  rw [events_decode_encode]
  apply List.ext_getElem
  · simp
  intro i _ hi
  rw [List.length_map] at hi
  obtain ⟨hy, hp⟩ := hfit _ (List.getElem_mem hi)
  rw [List.getElem_mapIdx, List.getElem_map]
  exact readBack_eq_narrow (latestPeriod_of_pairwise h hi) (drift_of_pairwise h hi) hy hp

theorem map_narrow_eq_self_iff : es.map Event.narrow = es ↔ ∀ e ∈ es, e.x ≤ 2047 := by
  conv => lhs; rhs; rw [← List.map_id es]
  rw [List.map_inj_left]
  exact forall₂_congr fun e _ => Event.narrow_eq_self_iff

/-- Events in order whose fields fit into words come back as they are. -/
theorem events_decode_encode_of_pairwise (role : CameraRole) (h : es.Pairwise (·.t ≤ ·.t))
    (hfit : ∀ e ∈ es, e.x ≤ 2047 ∧ e.y ≤ 2047 ∧ e.p ≤ 1) :
    (decode {} (Encoder.encode { role } es).words.toList).events.toList = es := by
  rw [events_decode_encode_of_rows role h fun e he => (hfit e he).2]
  exact map_narrow_eq_self_iff.2 fun e he => (hfit e he).1

end EventCamera
