import EventCamera.Proofs.Recording.Writing

/-!
# Recordings written call by call

A writer may be asked for its header at any time, and be given events in batches of any size. What
it leaves behind, and what it counts, are those of one batch of all the events. If its format cannot
be written, every call says so and nothing is left behind.

## Main definitions

* `Writer.Call`, `Writer.call` — what a writer can be asked for
* `Writer.afterCalls` — the writer after some calls
* `Writer.lateEvents` — the number of late events that the encoder counts in them

## Main results

* `Writer.Written.afterCalls` — what has been written after some calls
* `Writer.call_of_not_implemented` — calls for a format that cannot be written
* `Writer.calls_eq_one_batch` — any calls come to the same as one batch
-/

namespace EventCamera.Writer

/-- What a writer can be asked for before it finishes. -/
inductive Call where
  /-- To write its header, if it has not. -/
  | start
  /-- To write events. -/
  | write (events : List Event)

/-- The events that a call gives. -/
def Call.events : Call → List Event
  | start => []
  | write events => events

/-- What a call comes to. -/
def call (w : Writer) : Call → Step
  | .start => w.start
  | .write events => w.write events

/-- The writer after some calls, whatever came of them. -/
def afterCalls (w : Writer) (calls : List Call) : Writer :=
  calls.foldl (fun w c => (w.call c).writer) w

/-- The number of late events that the encoder counts, call by call. -/
def lateEvents (w : Writer) : List Call → Nat
  | [] => 0
  | c :: calls => (w.encoder.encode c.events).late + (w.call c).writer.lateEvents calls

@[simp] theorem afterCalls_nil (w : Writer) : w.afterCalls [] = w := rfl

theorem afterCalls_cons (w : Writer) (c : Call) (calls : List Call) :
    w.afterCalls (c :: calls) = (w.call c).writer.afterCalls calls := rfl

theorem afterCalls_append (w : Writer) (calls later : List Call) :
    w.afterCalls (calls ++ later) = (w.afterCalls calls).afterCalls later :=
  List.foldl_append

theorem afterCalls_concat (w : Writer) (calls : List Call) (c : Call) :
    w.afterCalls (calls ++ [c]) = ((w.afterCalls calls).call c).writer :=
  w.afterCalls_append calls [c]

variable {w : Writer} {o : WriterOptions} {now : DateTime} {es : List Event}

/-! ### A format that can be written -/

namespace Written

/-- A call succeeds, and its events go behind what has been written. -/
theorem call (h : w.Written o now es) (hformat : o.format = .evt3) (c : Call) :
    (w.call c).result = .ok () ∧ (w.call c).writer.Written o now (es ++ c.events) ∧
      (w.call c).writer.started = true := by
  cases c with
  | start =>
    rw [Call.events, List.append_nil]
    exact h.start hformat
  | write events => exact h.write hformat events

theorem afterCalls (h : w.Written o now es) (hformat : o.format = .evt3) (calls : List Call) :
    (w.afterCalls calls).Written o now (es ++ calls.flatMap Call.events) := by
  induction calls generalizing w es with
  | nil => simpa using h
  | cons c calls ih =>
    obtain ⟨-, hwritten, -⟩ := h.call hformat c
    rw [afterCalls_cons, List.flatMap_cons, ← List.append_assoc]
    exact ih hwritten

/-- The header has been written once there has been a call. -/
theorem started_afterCalls (h : w.Written o now es) (hformat : o.format = .evt3)
    {calls : List Call} (hcalls : calls ≠ []) : (w.afterCalls calls).started = true := by
  cases calls using List.reverseRecOn with
  | nil => exact absurd rfl hcalls
  | append_singleton calls c =>
    obtain ⟨-, -, hstarted⟩ := (h.afterCalls hformat calls).call hformat c
    rw [afterCalls_concat]
    exact hstarted

/-- The late events of the calls are those of one encoding of all the events. -/
theorem lateEvents_eq (h : w.Written o now es) (hformat : o.format = .evt3) (calls : List Call) :
    (Encoder.encode { role := o.role } es).late + w.lateEvents calls =
      (Encoder.encode { role := o.role } (es ++ calls.flatMap Call.events)).late := by
  induction calls generalizing w es with
  | nil => simp [lateEvents]
  | cons c calls ih =>
    obtain ⟨-, hwritten, -⟩ := h.call hformat c
    rw [List.flatMap_cons, ← List.append_assoc, ← ih hwritten, lateEvents, ← Nat.add_assoc,
      Encoder.encode_append, h.encoder]

/-- A recording is the header of its writer and then the bytes of one encoding. -/
theorem toList_recording (h : w.Written o now es) (es' : List Event) :
    (w.headerBytes ++ (Encoder.encode { role := o.role } es').bytes).data.toList =
      o.recording now es' :=
  h.onCourse.toList_recording es'

end Written

/-! ### A format that cannot be written -/

/-- Every call is refused, and changes nothing. -/
theorem call_of_not_implemented (h : w.header.payloadFormat.isImplemented = false) (c : Call) :
    w.call c = { writer := w, result := .error (.notImplemented w.header.payloadFormat) } := by
  have hstart : w.start =
      { writer := w, result := .error (.notImplemented w.header.payloadFormat) } := by
    rw [start, if_neg (by simp [h])]
  cases c with
  | start => exact hstart
  | write events => rw [call, write, hstart]

theorem afterCalls_of_not_implemented (h : w.header.payloadFormat.isImplemented = false)
    (calls : List Call) : w.afterCalls calls = w := by
  induction calls with
  | nil => rfl
  | cons c calls ih => rw [afterCalls_cons, call_of_not_implemented h, ih]

/-- A writer that has written nothing leaves nothing behind. -/
theorem finish_of_not_implemented (h : w.header.payloadFormat.isImplemented = false)
    (hw : w.Written o now es) (hstarted : w.started = false) :
    w.finish.result = .ok () ∧ w.finish.writer.accepted = ByteArray.empty := by
  obtain ⟨sink, hflush, -, -, hall⟩ := hw.sink.flush
  have hempty : sink.sink.accepted = ByteArray.empty := by
    rw [hw.stream, hstarted, if_neg Bool.false_ne_true] at hall
    exact ByteArray.ext (Array.ext' hall)
  rw [finish, if_neg (by simp [h])]
  dsimp only
  rw [hflush]
  exact ⟨rfl, hempty⟩

/-! ### Any calls -/

/-- However events are divided into calls, and wherever among them the header is asked for, the
finished recording is that of one batch, and so are the counts. A format that cannot be written is
refused by every call and leaves nothing behind. -/
theorem calls_eq_one_batch (hcreate : create o now {} = .ok w) (calls : List Call) :
    let es := calls.flatMap Call.events
    let encoded := Encoder.encode { role := o.role } es
    let after := w.afterCalls calls
    (o.format = .evt3 →
      (∀ before c later, calls = before ++ c :: later →
        ((w.afterCalls before).call c).result = .ok ()) ∧
      after.finish.result = .ok () ∧
      after.finish.writer.accepted = w.headerBytes ++ encoded.bytes ∧
      (calls ≠ [] → after.bytesWritten = (w.headerBytes ++ encoded.bytes).size) ∧
      after.writtenEvents = es.length ∧
      w.lateEvents calls = Event.descents es) ∧
    (o.format ≠ .evt3 →
      (∀ before c later, calls = before ++ c :: later →
        ((w.afterCalls before).call c).result = .error (.notImplemented o.format)) ∧
      after.finish.result = .ok () ∧
      after.finish.writer.accepted = ByteArray.empty) := by
  intro es encoded after
  obtain ⟨hw, hfresh⟩ := written_of_create hcreate
  refine ⟨?_, ?_⟩
  · intro hformat
    have hafter : after.Written o now es := hw.afterCalls hformat calls
    obtain ⟨hfinish, haccepted⟩ := hafter.finish hformat
    have hbytes : (w.headerBytes ++ encoded.bytes).data.toList = o.recording now es :=
      hw.toList_recording es
    refine ⟨?_, hfinish, ?_, ?_, hafter.writtenEvents, ?_⟩
    · intro before c later _
      exact ((hw.afterCalls hformat before).call hformat c).1
    · exact ByteArray.ext (Array.ext' (haccepted.trans hbytes.symm))
    · intro hcalls
      rw [hafter.bytesWritten, hafter.stream, if_pos (hw.started_afterCalls hformat hcalls),
        ← hbytes, length_toList_data]
    · have hlate := hw.lateEvents_eq hformat calls
      rw [List.nil_append, Encoder.late_encode, Encoder.late_encode] at hlate
      exact (Nat.zero_add _).symm.trans hlate
  · intro hformat
    have hno : w.header.payloadFormat.isImplemented = false := by
      rw [hw.header, ← Bool.not_eq_true, PayloadFormat.isImplemented_iff]
      exact hformat
    refine ⟨?_, ?_⟩
    · intro before c later _
      rw [afterCalls_of_not_implemented hno, call_of_not_implemented hno, hw.header]
      rfl
    · rw [show after = w from afterCalls_of_not_implemented hno calls]
      exact finish_of_not_implemented hno hw hfresh

/-- The header is asked for twice, one batch is empty, and the second event is late. -/
theorem calls_eq_one_batch_of_two_events :
    let now : DateTime :=
      { year := 2024, month := 2, day := 29, hour := 0, minute := 0, second := 0 }
    let o : WriterOptions := { date := some now, role := .slave }
    let calls : List Call :=
      [.start, .write [⟨0x2000003, 2047, 0, 1⟩], .write [], .start, .write [⟨5, 3, 4, 0⟩]]
    ∃ w, create o now {} = .ok w ∧
      (w.afterCalls calls).finish.writer.accepted = w.headerBytes ++
        (Encoder.encode { role := .slave } [⟨0x2000003, 2047, 0, 1⟩, ⟨5, 3, 4, 0⟩]).bytes ∧
      (w.afterCalls calls).writtenEvents = 2 ∧ w.lateEvents calls = 1 := by
  intro now o calls
  obtain ⟨w, hcreate, -⟩ := exists_create (o := o) (by decide) now
  obtain ⟨hwritten, -⟩ := calls_eq_one_batch hcreate calls
  obtain ⟨-, -, haccepted, -, hcount, hlate⟩ := hwritten rfl
  exact ⟨w, hcreate, haccepted, hcount, hlate.trans (by decide)⟩

end EventCamera.Writer
