import EventCamera.Proofs.Recording.Calls

/-!
# Recordings in a sink that fills up

A sink may have room for less than a recording. What it takes is a beginning of the recording, and
it never takes back what it has taken. As the bytes wait in a buffer, a refusal may show late, but
it shows: whoever is never told of an error has the whole recording in the sink.

## Main results

* `Writer.OnCourse.afterCalls_cases` — some calls go on, or one of them is told of a refusal
* `Writer.sink_holds_beginning` — what the sink holds, and when an error is returned
-/

namespace EventCamera.Writer

variable {w : Writer} {o : WriterOptions} {now : DateTime} {es : List Event}

theorem offered_call (w : Writer) (c : Call) : w.sink.sink.Offered (w.call c).writer.sink.sink := by
  cases c with
  | start => exact w.offered_start
  | write events => exact w.offered_write events

theorem offered_afterCalls (w : Writer) (calls : List Call) :
    w.sink.sink.Offered (w.afterCalls calls).sink.sink := by
  induction calls generalizing w with
  | nil => exact .refl _
  | cons c calls ih => exact (w.offered_call c).trans (ih _)

/-! ### Calls -/

/-- The events of a call go behind what has been written, or the call is told of a refusal. -/
theorem OnCourse.call_cases (h : w.OnCourse o now es) (hformat : o.format = .evt3) (c : Call) :
    ((w.call c).result = .ok () ∧ (w.call c).writer.OnCourse o now (es ++ c.events)) ∨
    ∃ message, (w.call c).result = .error (.io message) ∧
      (w.call c).writer.CutShort o now (es ++ c.events) := by
  cases c with
  | start =>
    rw [Call.events, List.append_nil]
    exact (h.start_cases hformat).imp_left fun hbegun => ⟨hbegun.1, hbegun.2.1⟩
  | write events =>
    exact (h.write_cases hformat events).imp_left fun hwritten => ⟨hwritten.1, hwritten.2.1⟩

/-- Some calls go on, or one of them is told of a refusal. -/
theorem OnCourse.afterCalls_cases (h : w.OnCourse o now es) (hformat : o.format = .evt3)
    (calls : List Call) :
    (w.afterCalls calls).OnCourse o now (es ++ calls.flatMap Call.events) ∨
    (∃ before c later message, calls = before ++ c :: later ∧
      ((w.afterCalls before).call c).result = .error (.io message)) ∧
      (w.afterCalls calls).CutShort o now (es ++ calls.flatMap Call.events) := by
  induction calls generalizing w es with
  | nil => exact .inl (by simpa using h)
  | cons c calls ih =>
    rw [afterCalls_cons, List.flatMap_cons, ← List.append_assoc]
    obtain ⟨-, hnext⟩ | ⟨message, hfail, hcut⟩ := h.call_cases hformat c
    · refine (ih hnext).imp_right ?_
      rintro ⟨⟨before, c', later, message, rfl, hfail⟩, hcut⟩
      exact ⟨⟨c :: before, c', later, message, rfl, hfail⟩, hcut⟩
    · exact .inr ⟨⟨[], c, calls, message, rfl, hfail⟩, hcut.of_offered (offered_afterCalls _ calls) _⟩

/-- Some calls and then finishing complete the recording, or an error is returned. -/
theorem OnCourse.finish_afterCalls_cases (h : w.OnCourse o now es) (hformat : o.format = .evt3)
    (calls : List Call) :
    let finished := (w.afterCalls calls).finish
    (finished.result = .ok () ∧
      finished.writer.OnCourse o now (es ++ calls.flatMap Call.events) ∧
      finished.writer.started = true ∧
      finished.writer.accepted.data.toList =
        o.recording now (es ++ calls.flatMap Call.events)) ∨
    ((∃ before c later message, calls = before ++ c :: later ∧
        ((w.afterCalls before).call c).result = .error (.io message)) ∨
      ∃ message, finished.result = .error (.io message)) ∧
      finished.writer.CutShort o now (es ++ calls.flatMap Call.events) := by
  intro finished
  obtain hafter | ⟨htold, hcut⟩ := h.afterCalls_cases hformat calls
  · refine (hafter.finish_cases hformat).imp_right ?_
    rintro ⟨message, hresult, hcut⟩
    exact ⟨.inr ⟨message, hresult⟩, hcut⟩
  · have hcut' := hcut.of_offered (w.afterCalls calls).offered_finish []
    rw [List.append_nil] at hcut'
    exact .inr ⟨.inl htold, hcut'⟩

/-! ### What the sink holds -/

/-- The sink holds a beginning of the recording, also once the buffer has been given up. -/
theorem isPrefix_recording (h : w.OnCourse o now es ∨ w.CutShort o now es) :
    w.accepted.data.toList <+: o.recording now es ∧
      w.sink.abandon.data.toList <+: o.recording now es := by
  obtain h | h := h
  · refine ⟨(List.prefix_append _ _).trans h.isPrefix_stream, ?_⟩
    rw [BufferedSink.abandon]
    obtain ⟨sink, hflush, -, hall⟩ | ⟨sink, message, hflush, -, hsome⟩ := w.sink.flush_cases
    · rw [hflush, hall]
      exact h.isPrefix_stream
    · rw [hflush]
      exact hsome.trans h.isPrefix_stream
  · refine ⟨h.accepted, ?_⟩
    rw [BufferedSink.abandon, w.sink.offered_flush.eq_of_isFull h.full]
    exact h.accepted

/-- At any moment a sink with a bound holds a beginning of the recording of all the events, whatever
the calls are. If there is no room for the whole recording, one of them fails; if none fails, the
sink holds all of it. -/
theorem sink_holds_beginning {limit : Nat} {refusal : String}
    (hcreate : create o now { limit := some limit, refusal } = .ok w) (hformat : o.format = .evt3)
    (calls : List Call) :
    let recording (es : List Event) :=
      w.headerBytes ++ (Encoder.encode { role := o.role } es).bytes
    let es := calls.flatMap Call.events
    let after := w.afterCalls calls
    let finished := after.finish
    ((∀ before later, calls = before ++ later →
        (w.afterCalls before).accepted.data.toList <+:
          (recording (before.flatMap Call.events)).data.toList ∧
        (w.afterCalls before).sink.sink.Offered finished.writer.sink.sink) ∧
      (∀ moment : Sink, moment.Offered finished.writer.sink.sink →
        moment.accepted.data.toList <+: (recording es).data.toList) ∧
      after.sink.abandon.data.toList <+: (recording es).data.toList ∧
      finished.writer.sink.abandon.data.toList <+: (recording es).data.toList) ∧
    (limit < (recording es).size →
      (∃ before c later message, calls = before ++ c :: later ∧
        ((w.afterCalls before).call c).result = .error (.io message)) ∨
      ∃ message, finished.result = .error (.io message)) ∧
    ((∀ before c later, calls = before ++ c :: later →
        ((w.afterCalls before).call c).result = .ok ()) →
      finished.result = .ok () →
      finished.writer.accepted = recording es ∧
      finished.writer.bytesWritten = (recording es).size ∧
      finished.writer.writtenEvents = es.length) := by
  intro recording es after finished
  obtain ⟨hw, hsink, -⟩ := onCourse_of_create hcreate rfl
  have hbytes (es : List Event) : (recording es).data.toList = o.recording now es :=
    hw.toList_recording es
  have hcalls (calls : List Call) :=
    isPrefix_recording ((hw.afterCalls_cases hformat calls).imp_right And.right)
  have hfinish := hw.finish_afterCalls_cases hformat calls
  obtain ⟨hbeginning, habandoned⟩ := isPrefix_recording (hfinish.imp (·.2.1) And.right)
  refine ⟨⟨?_, ?_, ?_, ?_⟩, ?_, ?_⟩
  · rintro before later rfl
    have hmore := (w.afterCalls before).offered_afterCalls later
    rw [← afterCalls_append] at hmore
    rw [hbytes]
    exact ⟨(hcalls before).1, hmore.trans after.offered_finish⟩
  · intro moment hmoment
    rw [hbytes]
    exact hmoment.isPrefix.trans hbeginning
  · rw [hbytes]
    exact (hcalls calls).2
  · rw [hbytes]
    exact habandoned
  · intro hlimit
    obtain ⟨-, -, -, hall⟩ | ⟨htold, -⟩ := hfinish
    · -- The sink would hold more than it has room for.
      have hroom : finished.writer.accepted.size ≤ limit :=
        ((w.offered_afterCalls calls).trans after.offered_finish).size_le (by rw [hsink])
          (by rw [hsink]; exact Nat.zero_le _)
      rw [eq_of_toList_data (hall.trans (hbytes es).symm)] at hroom
      omega
    · exact htold
  · intro hok hresult
    obtain ⟨-, hwritten, hstarted, hall⟩ |
      ⟨⟨before, c, later, message, hsplit, hfail⟩ | ⟨message, hfail⟩, -⟩ := hfinish
    · have haccepted : finished.writer.accepted = recording es :=
        eq_of_toList_data (hall.trans (hbytes es).symm)
      refine ⟨haccepted, ?_, hwritten.writtenEvents⟩
      rw [hwritten.bytesWritten, hwritten.stream, if_pos hstarted, ← length_toList_data, hbytes]
      rfl
    · cases hfail.symm.trans (hok before c later hsplit)
    · cases hfail.symm.trans hresult

/-- A sink that has room for a part of the header only. -/
theorem sink_holds_beginning_of_header :
    let now : DateTime :=
      { year := 2024, month := 1, day := 2, hour := 3, minute := 4, second := 5 }
    let o : WriterOptions := { date := some now }
    let calls : List Call := [.start, .write [⟨0, 1, 1, 1⟩]]
    ∃ w, create o now { limit := some 10 } = .ok w ∧
      (w.afterCalls calls).finish.writer.accepted.data.toList <+: o.recording now [⟨0, 1, 1, 1⟩] ∧
      ((∃ before c later message, calls = before ++ c :: later ∧
          ((w.afterCalls before).call c).result = .error (.io message)) ∨
        ∃ message, (w.afterCalls calls).finish.result = .error (.io message)) := by
  intro now o calls
  obtain ⟨w, hcreate⟩ := exists_create_into (o := o) (by decide) now { limit := some 10 }
  obtain ⟨hw, -⟩ := onCourse_of_create hcreate rfl
  obtain ⟨⟨-, hbeginning, -⟩, htold, -⟩ := sink_holds_beginning hcreate rfl calls
  have hlimit : 10 < (o.recording now [⟨0, 1, 1, 1⟩]).length := by decide +kernel
  rw [← hw.toList_recording, length_toList_data] at hlimit
  have hall := hbeginning _ (.refl _)
  rw [hw.toList_recording] at hall
  exact ⟨w, hcreate, hall, htold hlimit⟩

end EventCamera.Writer
