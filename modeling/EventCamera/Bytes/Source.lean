/-!
# Byte sources

A source of bytes as its reader meets it: bytes that are there at once, and moments at which there
are none, because a read fails, is interrupted or comes back empty. One read never goes across
such a moment, nor across the border of two segments.

## Main definitions

* `Segment`, `Source` — what a source has to give, in order
* `Source.content` — the bytes that a source has still to give
* `Source.peek` — the bytes that are there now, without taking them
* `Source.read` — takes at most a number of bytes, trying again after interruptions
* `Source.readLine` — takes the bytes up to a line feed
* `Source.readAll` — takes the bytes up to the end
* `Source.size` — a bound on how often a source can be read before it ends
-/

namespace EventCamera

/-- What a source has to give next. -/
inductive Segment where
  /-- Bytes that are there at once. -/
  | bytes (bs : List UInt8)
  /-- One failing read. -/
  | failure (message : String)
  /-- One interrupted read. -/
  | interruption
  /-- One empty read, though more may follow. -/
  | pause
deriving DecidableEq

/-- What a source has to give, in order. After the last segment it is at its end. -/
abbrev Source := List Segment

/-- Why a read gives nothing. -/
inductive ReadFault where
  | interrupted
  | failed (message : String)
deriving DecidableEq

/-- The wording of a fault. -/
def ReadFault.message : ReadFault → String
  | interrupted => "operation interrupted"
  | failed message => message

namespace Source

/-- The bytes that a source has still to give. -/
def content : Source → List UInt8
  | [] => []
  | .bytes bs :: src => bs ++ content src
  | _ :: src => content src

/-- A bound on how often a source can be read before it ends. -/
def size : Source → Nat
  | [] => 0
  | .bytes bs :: src => bs.length + 1 + size src
  | _ :: src => 1 + size src

/-- The bytes that are there now, none at the end of the source or in a pause. They are not taken,
but faults and pauses are. -/
def peek : Source → Except ReadFault (List UInt8) × Source
  | [] => (.ok [], [])
  | .bytes [] :: src => peek src
  | .bytes (b :: bs) :: src => (.ok (b :: bs), .bytes (b :: bs) :: src)
  | .failure message :: src => (.error (.failed message), src)
  | .interruption :: src => (.error .interrupted, src)
  | .pause :: src => (.ok [], src)

/-- Takes at most `n` bytes, none at the end of the source or in a pause. Interrupted reads are
tried again. -/
def read (n : Nat) : Source → Except String (List UInt8) × Source
  | [] => (.ok [], [])
  -- An empty segment must not be taken for the end of the source.
  | .bytes [] :: src => read n src
  | .bytes (b :: bs) :: src => (.ok ((b :: bs).take n), .bytes ((b :: bs).drop n) :: src)
  | .failure message :: src => (.error message, src)
  | .interruption :: src => read n src
  | .pause :: src => (.ok [], src)

/-- The byte that ends a line. -/
def lineFeed : UInt8 := 10

/-- Adds the bytes up to the next line feed to `taken`, those up to the end of the source or up to
a pause if there is none. A failure loses the bytes taken. -/
def takeLine (taken : Array UInt8) : Source → Except String (List UInt8) × Source
  | [] => (.ok taken.toList, [])
  | .bytes bs :: src =>
    match bs.dropWhile (· != lineFeed) with
    -- A line may go on in the next segment.
    | [] => takeLine (taken ++ bs) src
    | b :: rest => (.ok (taken ++ bs.takeWhile (· != lineFeed) ++ [b]).toList, .bytes rest :: src)
  | .failure message :: src => (.error message, src)
  | .interruption :: src => takeLine taken src
  | .pause :: src => (.ok taken.toList, src)

/-- Takes the bytes up to and with the next line feed. -/
def readLine (src : Source) : Except String (List UInt8) × Source := takeLine #[] src

/-- Adds the bytes up to the end of the source, or up to a pause, to `taken`. -/
def takeAll (taken : Array UInt8) : Source → Except String (List UInt8) × Source
  | [] => (.ok taken.toList, [])
  | .bytes bs :: src => takeAll (taken ++ bs) src
  | .failure message :: src => (.error message, src)
  | .interruption :: src => takeAll taken src
  | .pause :: src => (.ok taken.toList, src)

/-- Takes the bytes up to the end of the source, or up to a pause. -/
def readAll (src : Source) : Except String (List UInt8) × Source := takeAll #[] src

@[simp] theorem content_nil : content [] = [] := rfl

@[simp] theorem content_bytes (bs : List UInt8) (src : Source) :
    content (.bytes bs :: src) = bs ++ content src := rfl

@[simp] theorem content_failure (message : String) (src : Source) :
    content (.failure message :: src) = content src := rfl

@[simp] theorem content_interruption (src : Source) :
    content (.interruption :: src) = content src := rfl

@[simp] theorem content_pause (src : Source) : content (.pause :: src) = content src := rfl

@[simp] theorem size_nil : size [] = 0 := rfl

@[simp] theorem size_bytes (bs : List UInt8) (src : Source) :
    size (.bytes bs :: src) = bs.length + 1 + size src := rfl

/-- Reading at least one byte leaves less to read, unless the source is at its end. -/
theorem size_read_lt {n : Nat} {src : Source} (hn : 0 < n) (h : src ≠ []) :
    size (read n src).2 < size src := by
  -- The cases are those of the first segment; only in two of them does the read go on behind it.
  fun_induction read n src with
  | case1 => exact absurd rfl h
  | case2 src ih =>
    simp only [size_bytes, List.length_nil]
    by_cases hs : src = []
    · subst hs; simp [read]
    · have := ih hs; omega
  | case3 b bs src => simp only [size_bytes, List.length_drop, List.length_cons]; omega
  | case4 => simp [size]
  | case5 src ih =>
    simp only [size]
    by_cases hs : src = []
    · subst hs; simp [read]
    · have := ih hs; omega
  | case6 => simp [size]

theorem size_peek_le (src : Source) : size (peek src).2 ≤ size src := by
  fun_induction peek src with
  | case1 => simp
  | case2 src ih => simp only [size_bytes, List.length_nil]; omega
  | case3 => exact Nat.le_refl _
  | case4 => simp [size]
  | case5 => simp [size]
  | case6 => simp [size]

theorem size_takeLine_lt {taken : Array UInt8} {src : Source} (h : src ≠ []) :
    size (takeLine taken src).2 < size src := by
  fun_induction takeLine taken src with
  | case1 => exact absurd rfl h
  | case2 taken bs src hb ih =>
    simp only [size_bytes]
    by_cases hs : src = []
    · subst hs; simp [takeLine]
    · have := ih hs; omega
  | case3 taken bs src b rest hb =>
    -- The line feed at least is taken.
    have hl := congrArg List.length hb
    have := (List.dropWhile_suffix (p := (· != lineFeed)) (l := bs)).length_le
    simp only [List.length_cons] at hl
    simp only [size_bytes]; omega
  | case4 => simp [size]
  | case5 taken src ih =>
    simp only [size]
    by_cases hs : src = []
    · subst hs; simp [takeLine]
    · have := ih hs; omega
  | case6 => simp [size]

theorem size_readLine_lt {src : Source} (h : src ≠ []) : size (readLine src).2 < size src :=
  size_takeLine_lt h

end Source

end EventCamera
