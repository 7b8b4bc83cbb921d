import EventCamera.Event
import EventCamera.Evt3.TimeBase
import EventCamera.Notice
/-!
# Decoding words

Words are read from the front of a list. At the base word of a vector group the reader looks ahead
to the three words that are due behind it. A word that is not the one due spoils the group: its
base word is dropped, and what stands behind that is read for itself. Where the words run out first,
the group is left open, to be offered again with more words; at the end of the stream it is dropped.

## Main definitions

* `OpenGroup` — the words of a vector group that have come so far
* `Decoding` — the state of a reader together with what it has read
* `checkGroup` — looks for a word that is not the one due
* `Decoding.readAhead` — reads the words that are left
* `decode`, `decodeFinal` — read a list of words; the latter knows that no more will come
-/

namespace EventCamera

/-- The words of a vector group that have come so far. -/
inductive OpenGroup where
  | none
  /-- The base word. -/
  | base (b : Word)
  /-- The base word and the first twelve validity bits. -/
  | base12 (b m : Word)
  /-- The base word and twice twelve validity bits. -/
  | base24 (b m n : Word)
deriving DecidableEq, Inhabited

namespace OpenGroup

/-- The words of the group, in stream order. -/
def words : OpenGroup → List Word
  | none => []
  | base b => [b]
  | base12 b m => [b, m]
  | base24 b m n => [b, m, n]

/-- The group of a base word and the words behind it, of which there are at most two. -/
def ofBase (b : Word) : List Word → OpenGroup
  | [] => base b
  | [m] => base12 b m
  | m :: n :: _ => base24 b m n

@[simp] theorem words_eq_nil_iff {g : OpenGroup} : g.words = [] ↔ g = none := by
  cases g <;> simp [words]

end OpenGroup

/-- The kinds of the words that are due behind the base word of a vector group. -/
def dueKinds : List WordKind := [.vect12, .vect12, .vect8]

/-- The first word that is not of the kind due, with its place, counted from `offset` on. Words
that are still to come are not missed. -/
def checkGroup (offset : Nat) : List WordKind → List Word → Option (Nat × Word)
  | kind :: kinds, w :: ws =>
    if w.kind? = some kind then checkGroup (offset + 1) kinds ws else some (offset, w)
  | _, _ => none

/-- The validity bits of a full vector group. -/
def groupMask (m n k : Word) : UInt32 :=
  m.payload.toUInt32 ||| (n.payload.toUInt32 <<< 12) ||| (k.lowByte.toUInt32 <<< 24)

/-- The events of a full vector group with base word `b`: one for each validity bit, by ascending
column. -/
def groupEvents (s : StreamState) (b : Word) (mask : UInt32) : List Event :=
  (List.range 32).filterMap fun k =>
    if mask.toNat.testBit k then some ⟨s.timestamp, b.coordinate + k.toUInt16, s.row, b.flag⟩
    else none

/-- The state of a reader together with what it has read. -/
structure Decoding where
  /-- The time and the row it has reached. -/
  state : StreamState
  /-- The group it has left open. -/
  group : OpenGroup := .none
  events : Array Event := #[]
  triggers : Array Trigger := #[]
  /-- The number of groups that it dropped. -/
  malformed : Nat := 0
  /-- The reports on dropped groups. -/
  notices : Array Notice := #[]

namespace Decoding

/-- Reads a word that opens no vector group. -/
def readWord (d : Decoding) (w : Word) : Decoding :=
  match w.kind? with
  | some .timeHigh => { d with state := d.state.setUpper w.payload }
  | some .timeLow => { d with state := d.state.setLower w.payload }
  | some .addrY => { d with state := d.state.setRow w.coordinate }
  | some .addrX =>
    { d with events := d.events.push ⟨d.state.timestamp, w.coordinate, d.state.row, w.flag⟩ }
  | some .extTrigger =>
    { d with triggers := d.triggers.push ⟨d.state.timestamp, w.edge, w.channel⟩ }
  -- What is left are words that say nothing here: vendor data, and the later words of a group.
  | _ => d

/-- Reads a full vector group. Its words carry no time, so all its events have the one reached. -/
def readGroup (d : Decoding) (b m n k : Word) : Decoding :=
  { d with events := d.events ++ groupEvents d.state b (groupMask m n k) }

/-- Drops a group for a reason. -/
def drop (d : Decoding) (notice : Notice) : Decoding :=
  { d with group := .none, malformed := d.malformed + 1, notices := d.notices.push notice }

/-- Reads words. A group that lacks words is left open, or dropped if no more will come. -/
def readAhead (final : Bool) (d : Decoding) : List Word → Decoding
  | [] => d
  | w :: ws =>
    if w.kind? = some .vectBaseX then
      match checkGroup 1 dueKinds ws with
      -- Only the base word is dropped; the words behind it are read for themselves.
      | some (offset, found) => readAhead final (d.drop (.malformedGroup offset found)) ws
      | none =>
        match ws with
        | m :: n :: k :: ws => readAhead final (d.readGroup w m n k) ws
        | ws =>
          if final then readAhead final (d.drop (.groupCut (ws.length + 1))) ws
          else { d with group := .ofBase w ws }
    else readAhead final (d.readWord w) ws

end Decoding

/-- The words that count: those from the first one on that says bits 12 to 23 of a time, unless one
has been met before. -/
def wordsThatCount (s : StreamState) (ws : List Word) : List Word :=
  if s.started then ws else ws.dropWhile fun w => w.kind? != some .timeHigh

/-- Reads a list of words, from a given state. -/
def decode (s : StreamState) (ws : List Word) : Decoding :=
  Decoding.readAhead false { state := s } (wordsThatCount s ws)

/-- Reads a list of words after which no more will come. -/
def decodeFinal (s : StreamState) (ws : List Word) : Decoding :=
  Decoding.readAhead true { state := s } (wordsThatCount s ws)

end EventCamera
