import EventCamera.Bytes.Source
import EventCamera.Evt3.Decoding
/-!
# Payload of a recording

The words of a recording are pulled from a byte source chunk by chunk. A chunk may end anywhere:
the byte of a word that is not complete and the words of a vector group that is not complete are
kept for the next chunk.

## Main definitions

* `pairBytes` — the words of some bytes, and the byte that is left over
* `Payload` — a source of words and what has been read from it
* `Payload.next` — reads and decodes one chunk
* `Payload.drain` — reads and decodes all chunks that are left

## Main results

* `Payload.remaining_next_lt` — every chunk brings the end of the payload nearer
-/

namespace EventCamera

/-- Takes a byte: the first of a word is kept until the second comes. -/
def pairByte (acc : Array Word × Option UInt8) (b : UInt8) : Array Word × Option UInt8 :=
  match acc.2 with
  | none => (acc.1, some b)
  | some low => (acc.1.push (Word.ofBytes low b), none)

/-- The words of some bytes, low bytes first, and the byte left over; `odd` is the byte left over
from before. -/
def pairBytes (odd : Option UInt8) (bs : List UInt8) : Array Word × Option UInt8 :=
  bs.foldl pairByte (#[], odd)

/-- What one chunk of words came to. -/
structure Outcome where
  /-- Number of events. -/
  events : Nat := 0
  /-- Number of triggers. -/
  triggers : Nat := 0
  /-- Number of words that were used up. Words kept for the next chunk are offered again there. -/
  consumed : Nat := 0
  /-- Number of vector groups that were dropped. -/
  malformed : Nat := 0
deriving DecidableEq, Inhabited

/-- What reading `offered` words came to; those of a group that is left open are not used up. -/
def Decoding.outcome (d : Decoding) (offered : Nat) : Outcome where
  events := d.events.size
  triggers := d.triggers.size
  consumed := offered - d.group.words.length
  malformed := d.malformed

/-- The events and triggers that have been read. -/
def Decoding.batch (d : Decoding) : Batch := ⟨d.events.toList, d.triggers.toList⟩

/-- A source of words and what has been read from it. -/
structure Payload where
  /-- What is still to be read. -/
  source : Source
  /-- Number of words that are asked for at once; fewer than four count as four. -/
  chunkWords : Nat := 1000000
  /-- The time and the row reached. -/
  state : StreamState := {}
  /-- The vector group that waits for the next chunk. -/
  group : OpenGroup := .none
  /-- The first byte of a word whose second is still to come. -/
  oddByte : Option UInt8 := none
  /-- Number of bytes read. -/
  bytesRead : Nat := 0
  /-- Number of vector groups dropped. -/
  malformed : Nat := 0
  /-- The end of the source has been met. -/
  exhausted : Bool := false

/-- What asking for one chunk gives. -/
structure Fetch where
  /-- The payload afterwards. -/
  payload : Payload
  /-- The outcome of the chunk, nothing at the end, or the failure of the source. -/
  result : Except String (Option Outcome)
  /-- The events and triggers of the chunk. -/
  batch : Batch := {}
  /-- The reports on the chunk. -/
  notices : List Notice := []

namespace Payload

/-- Number of bytes that are asked for at once. -/
def bytesPerRead (p : Payload) : Nat := 2 * max p.chunkWords 4

/-- Decodes the bytes of a chunk behind what was kept from the one before. -/
def absorb (p : Payload) (source : Source) (bs : List UInt8) : Fetch :=
  let (words, odd) := pairBytes p.oddByte bs
  -- The words of a group that was left open are offered once more, in front of the new ones.
  let offered := p.group.words ++ words.toList
  let d := decode p.state offered
  { payload :=
      { p with
        source := source
        state := d.state
        group := d.group
        oddByte := odd
        bytesRead := p.bytesRead + bs.length
        malformed := p.malformed + d.malformed }
    result := .ok (some (d.outcome offered.length))
    batch := d.batch
    notices := d.notices.toList }

/-- The end of the source drops what was kept. A vector group among it counts as a chunk. -/
def finish (p : Payload) (source : Source) : Fetch :=
  let notices := if p.oddByte.isSome then [Notice.oddByteDropped] else []
  let p' := { p with source := source, oddByte := none, exhausted := true }
  match p.group with
  -- The odd byte alone is no chunk: the payload is over at once.
  | .none => { payload := p', result := .ok none, notices := notices }
  | group =>
    let d := decodeFinal p.state group.words
    { payload :=
        { p' with state := d.state, group := d.group, malformed := p.malformed + d.malformed }
      result := .ok (some (d.outcome group.words.length))
      batch := d.batch
      notices := notices ++ d.notices.toList }

/-- Reads and decodes one chunk. A failure of the source loses the first byte of a word. -/
def next (p : Payload) : Fetch :=
  if p.exhausted then { payload := p, result := .ok none }
  else
    match p.source.read p.bytesPerRead with
    -- The byte kept from before is part of the read that fails, and is lost with it.
    | (.error message, source) =>
      { payload := { p with source := source, oddByte := none }, result := .error message }
    | (.ok [], source) => p.finish source
    | (.ok bs, source) => p.absorb source bs

/-- A bound on the number of chunks that are left. -/
def remaining (p : Payload) : Nat := if p.exhausted then 0 else p.source.size + 1

@[simp] theorem exhausted_finish (p : Payload) (source : Source) :
    (p.finish source).payload.exhausted = true := by
  cases hg : p.group <;> simp [finish, hg]

/-- Every chunk brings the end of the payload nearer. -/
theorem remaining_next_lt {p : Payload} (h : p.exhausted = false) :
    p.next.payload.remaining < p.remaining := by
  have hlt : ∀ r src, p.source.read p.bytesPerRead = (r, src) → p.source ≠ [] →
      src.size < p.source.size := by
    intro r src hr hs
    have := Source.size_read_lt (n := p.bytesPerRead) (by simp only [bytesPerRead]; omega) hs
    rwa [hr] at this
  have hnil : p.source = [] → p.source.read p.bytesPerRead = (.ok [], []) := by
    intro hs
    rw [hs]
    rfl
  simp only [next, h, Bool.false_eq_true, if_false]
  split
  · rename_i message src hr
    have hs : p.source ≠ [] := by
      intro hs
      rw [hnil hs] at hr
      simp at hr
    have := hlt _ _ hr hs
    simp [remaining, h]
    omega
  · simp [remaining, h]
  · rename_i bs src hbs hr
    -- A read that gives something has a segment to take it from.
    have hs : p.source ≠ [] := by
      intro hs
      rw [hnil hs] at hr
      simp only [Prod.mk.injEq, Except.ok.injEq] at hr
      exact hbs hr.1.symm
    have := hlt _ _ hr hs
    simp [remaining, absorb, h]
    omega

/-- Once the end of the source has been met, nothing is left. -/
theorem next_of_exhausted {p : Payload} (h : p.exhausted = true) :
    p.next = { payload := p, result := .ok none } := by
  simp [next, h]

/-- Reads and decodes all chunks that are left, behind the events and triggers in `batch`. A
failure loses them. -/
def drainInto (p : Payload) (events : Array Event) (triggers : Array Trigger)
    (notices : Array Notice) : Payload × Except String Batch × List Notice :=
  if p.exhausted then (p, .ok ⟨events.toList, triggers.toList⟩, notices.toList)
  else
    let fetch := p.next
    let notices := notices ++ fetch.notices
    match fetch.result with
    | .error message => (fetch.payload, .error message, notices.toList)
    | .ok none => (fetch.payload, .ok ⟨events.toList, triggers.toList⟩, notices.toList)
    | .ok (some _) =>
      fetch.payload.drainInto (events ++ fetch.batch.events) (triggers ++ fetch.batch.triggers)
        notices
termination_by p.remaining
decreasing_by exact remaining_next_lt (by simpa using ‹¬p.exhausted = true›)

/-- Reads and decodes all chunks that are left. -/
def drain (p : Payload) : Payload × Except String Batch × List Notice := p.drainInto #[] #[] #[]

end Payload

end EventCamera
