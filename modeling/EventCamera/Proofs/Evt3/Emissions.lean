import EventCamera.Proofs.Evt3.Resumption
import Mathlib.Data.List.Infix
import Mathlib.Data.List.Induction

/-!
# Events and triggers in stream order

A reader gives the events and the triggers of a stream apart from each other. In the stream they
stand in one sequence: each is given by the word that completes it. What a word gives is what
reading up to and with it gives beyond what the words in front of it give.

## Main definitions

* `Emission` — an event or a trigger
* `emittedAt`, `emissions` — what a word, and a list of words, gives in stream order
* `Batch.ofEmissions` — the events and the triggers of such a sequence

## Main results

* `ofEmissions_emissions`, `batch_decodeFinal` — the events and triggers are those that are read
* `isPrefix_emissions` — more words give more behind what the first ones give
* `time_of_mem_emittedAt` — a word gives everything at the time reached in front of it
-/

namespace EventCamera

/-- An event or a trigger, where both stand in one sequence. -/
inductive Emission where
  | event (e : Event)
  | trigger (tr : Trigger)
deriving DecidableEq

namespace Emission

/-- The time of the event or the trigger. -/
def time : Emission → UInt64
  | event e => e.t
  | trigger tr => tr.t

def event? : Emission → Option Event
  | event e => some e
  | trigger _ => none

def trigger? : Emission → Option Trigger
  | event _ => none
  | trigger tr => some tr

@[simp] theorem event?_eq_some {em : Emission} {e : Event} :
    em.event? = some e ↔ em = .event e := by
  cases em <;> simp [event?]

@[simp] theorem trigger?_eq_some {em : Emission} {tr : Trigger} :
    em.trigger? = some tr ↔ em = .trigger tr := by
  cases em <;> simp [trigger?]

end Emission

namespace Batch

/-- What a batch holds behind another one that it starts with. -/
def beyond (b a : Batch) : Batch :=
  ⟨b.events.drop a.events.length, b.triggers.drop a.triggers.length⟩

theorem append_beyond (a b : Batch) : (a ++ b).beyond a = b := by
  ext1 <;> simp [beyond]

/-- A batch as one sequence. A single word never gives both events and triggers, so that their order
within a batch of its own does not matter. -/
def emissions (b : Batch) : List Emission := b.events.map .event ++ b.triggers.map .trigger

/-- The events and the triggers of a sequence of both. -/
def ofEmissions (ems : List Emission) : Batch :=
  ⟨ems.filterMap Emission.event?, ems.filterMap Emission.trigger?⟩

@[simp] theorem ofEmissions_append (a b : List Emission) :
    ofEmissions (a ++ b) = ofEmissions a ++ ofEmissions b := by
  ext1 <;> simp [ofEmissions]

@[simp] theorem ofEmissions_emissions (b : Batch) : ofEmissions b.emissions = b := by
  ext1 <;> simp [ofEmissions, emissions, Function.comp_def, Emission.event?, Emission.trigger?]

@[simp] theorem mem_events_ofEmissions {ems : List Emission} {e : Event} :
    e ∈ (ofEmissions ems).events ↔ .event e ∈ ems := by
  simp [ofEmissions]

@[simp] theorem mem_triggers_ofEmissions {ems : List Emission} {tr : Trigger} :
    tr ∈ (ofEmissions ems).triggers ↔ .trigger tr ∈ ems := by
  simp [ofEmissions]

end Batch

section Sequence

variable (s : StreamState) (ws : List Word)

/-- What the word at a position makes a reader give. -/
def emittedAt (i : Nat) : List Emission :=
  ((decode s (ws.take (i + 1))).batch.beyond (decode s (ws.take i)).batch).emissions

/-- What a list of words makes a reader give, in stream order. -/
def emissions : List Emission := (List.range ws.length).flatMap (emittedAt s ws)

end Sequence

variable {s : StreamState} {ws : List Word}

/-! ### Longer lists of words -/

theorem emittedAt_append {i : Nat} (h : i < ws.length) (more : List Word) :
    emittedAt s (ws ++ more) i = emittedAt s ws i := by
  rw [emittedAt, emittedAt, List.take_append_of_le_length h, List.take_append_of_le_length h.le]

/-- More words give more, behind what the first ones give. -/
theorem isPrefix_emissions (s : StreamState) {a b : List Word} (h : a <+: b) :
    emissions s a <+: emissions s b := by
  obtain ⟨more, rfl⟩ := h
  refine ⟨((List.range more.length).map (a.length + ·)).flatMap (emittedAt s (a ++ more)), ?_⟩
  rw [emissions, emissions, List.length_append, List.range_add, List.flatMap_append]
  congr 1
  refine List.flatMap_congr fun i hi => ?_
  exact (emittedAt_append (List.mem_range.1 hi) more).symm

theorem batch_decode_append (s : StreamState) (a b : List Word) :
    ∃ more : Batch, (decode s (a ++ b)).batch = (decode s a).batch ++ more := by
  rw [decode_append_eq_join, Decoding.batch_join]
  exact ⟨_, rfl⟩

/-- Taken apart, what a list of words gives are the events and the triggers that are read. -/
theorem ofEmissions_emissions (s : StreamState) (ws : List Word) :
    Batch.ofEmissions (emissions s ws) = (decode s ws).batch := by
  induction ws using List.reverseRecOn with
  | nil =>
    rw [decode_eq_foldl_feed]
    rfl
  | append_singleton ws w ih =>
    obtain ⟨more, hmore⟩ := batch_decode_append s ws [w]
    have hfirst : (List.range ws.length).flatMap (emittedAt s (ws ++ [w])) = emissions s ws :=
      List.flatMap_congr fun i hi => emittedAt_append (List.mem_range.1 hi) [w]
    have hlast : emittedAt s (ws ++ [w]) ws.length = more.emissions := by
      rw [emittedAt, List.take_left, List.take_of_length_le (by simp), hmore, Batch.append_beyond]
    rw [emissions, List.length_append, List.length_singleton, List.range_succ,
      List.flatMap_append, List.flatMap_singleton, hfirst, hlast, Batch.ofEmissions_append, ih,
      Batch.ofEmissions_emissions, hmore]

/-- The end of the stream gives nothing more. -/
theorem batch_decodeFinal (s : StreamState) (ws : List Word) :
    (decodeFinal s ws).batch = (decode s ws).batch := by
  rw [decodeFinal_eq_close, decode_eq_foldl_feed, Decoding.close]
  split
  · rfl
  · rfl

/-! ### The time of what a word gives -/

namespace Decoding

/-- Everything that has been read has the time `t`. -/
structure GivesAt (t : UInt64) (d : Decoding) : Prop where
  events : ∀ e ∈ d.events.toList, e.t = t
  triggers : ∀ tr ∈ d.triggers.toList, tr.t = t

variable {d : Decoding} {t : UInt64}

theorem givesAt_resume (t : UInt64) (d : Decoding) : d.resume.GivesAt t where
  events := by simp [resume]
  triggers := by simp [resume]

theorem GivesAt.readWord (h : d.GivesAt t) (ht : d.state.timestamp = t) (w : Word) :
    (d.readWord w).GivesAt t := by
  rw [Decoding.readWord]
  split
  · exact ⟨h.events, h.triggers⟩
  · exact ⟨h.events, h.triggers⟩
  · exact ⟨h.events, h.triggers⟩
  · refine ⟨?_, h.triggers⟩
    intro e he
    rw [Array.toList_push, List.mem_append, List.mem_singleton] at he
    rcases he with he | rfl
    · exact h.events e he
    · exact ht
  · refine ⟨h.events, ?_⟩
    intro tr htr
    rw [Array.toList_push, List.mem_append, List.mem_singleton] at htr
    rcases htr with htr | rfl
    · exact h.triggers tr htr
    · exact ht
  · exact h

theorem GivesAt.readGroup (h : d.GivesAt t) (ht : d.state.timestamp = t) (b m n k : Word) :
    (d.readGroup b m n k).GivesAt t := by
  refine ⟨?_, h.triggers⟩
  intro e he
  rw [Decoding.readGroup, Array.toList_appendList, List.mem_append] at he
  rcases he with he | he
  · exact h.events e he
  · obtain ⟨k, -, hsome⟩ := List.mem_filterMap.1 he
    rw [Option.ite_none_right_eq_some, Option.some_inj] at hsome
    obtain ⟨-, rfl⟩ := hsome
    exact ht

theorem GivesAt.feedPlain (h : d.GivesAt t) (ht : d.state.timestamp = t) (w : Word) :
    (d.feedPlain w).GivesAt t := by
  rw [Decoding.feedPlain]
  split
  · exact ⟨h.events, h.triggers⟩
  · exact h.readWord ht w

/-- A word gives everything at the time reached in front of it. If it sets the time, it gives
nothing. -/
theorem GivesAt.feed (h : d.GivesAt t) (ht : d.state.timestamp = t) (w : Word) :
    (d.feed w).GivesAt t := by
  have hdrop (notice : Notice) : ((d.drop notice).feedPlain w).GivesAt t :=
    GivesAt.feedPlain (d := d.drop notice) ⟨h.events, h.triggers⟩ ht w
  rw [Decoding.feed]
  split
  · cases d.group with
    | none => exact h.feedPlain ht w
    | base b =>
      dsimp only
      split
      · exact ⟨h.events, h.triggers⟩
      · exact hdrop _
    | base12 b m =>
      dsimp only
      split
      · exact ⟨h.events, h.triggers⟩
      · exact hdrop _
    | base24 b m n =>
      dsimp only
      split
      · exact GivesAt.readGroup (d := { d with group := .none }) ⟨h.events, h.triggers⟩ ht
          b m n w
      · exact hdrop _
  · exact h

end Decoding

/-- What a word gives is what it makes a reader give that has read nothing yet but stands where the
words in front of it lead. -/
theorem emittedAt_eq {i : Nat} (h : i < ws.length) :
    emittedAt s ws i = ((decode s (ws.take i)).resume.feed ws[i]).batch.emissions := by
  rw [emittedAt, List.take_succ_eq_append_getElem h, decode_append, Decoding.foldl_feed_resume,
    Decoding.batch_join, Batch.append_beyond]
  rfl

theorem time_of_mem_emittedAt {i : Nat} {em : Emission} (h : em ∈ emittedAt s ws i) :
    em.time = (decode s (ws.take i)).state.timestamp := by
  by_cases hi : i < ws.length
  · have hgives := (Decoding.givesAt_resume _ (decode s (ws.take i))).feed rfl ws[i]
    rw [emittedAt_eq hi, Batch.emissions, List.mem_append, List.mem_map, List.mem_map] at h
    rcases h with ⟨e, he, rfl⟩ | ⟨tr, htr, rfl⟩
    · exact hgives.events e he
    · exact hgives.triggers tr htr
  · -- Behind the last word, no more is read.
    rw [emittedAt, List.take_of_length_le (by omega), List.take_of_length_le (by omega)] at h
    simp [Batch.beyond, Batch.emissions] at h

end EventCamera
