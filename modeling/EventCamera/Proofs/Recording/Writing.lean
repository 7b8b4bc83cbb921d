import EventCamera.Proofs.Bytes.Sink
import EventCamera.Proofs.Bytes.Utf8
import EventCamera.Proofs.Evt3.Encoding
import EventCamera.Recording.Writer

/-!
# What a writer leaves behind

A recording is its header and then the bytes of the words that one encoding of all the events gives,
however they were divided into batches. A sink that refuses nothing is left with all of it. One that
refuses something is left with a beginning of it, and takes nothing more.

## Main definitions

* `WriterOptions.recording` — the bytes of a recording
* `Writer.OnCourse` — what has been written so far
* `Writer.CutShort` — what the sink holds once it has refused something
* `Writer.Written` — what has been written so far to a sink that refuses nothing

## Main results

* `Writer.OnCourse.write_cases`, `Writer.OnCourse.finish_cases` — a step goes on, or is cut short
* `Writer.Written.write`, `Writer.Written.writeAllInto` — batches go behind what has been written
* `Writer.Written.finish` — the finished recording
-/

namespace EventCamera

namespace WriterOptions

/-- The header of a recording that is started at a time. -/
def header (o : WriterOptions) (now : DateTime) : Header :=
  .forRecording o.size o.format (some (o.date.getD now)) o.serialNumber

/-- The bytes of the words of some events. -/
def payload (o : WriterOptions) (es : List Event) : List UInt8 :=
  (Encoder.encode { role := o.role } es).words.toList.flatMap Word.littleEndian

/-- The bytes of a recording of some events that is started at a time. -/
def recording (o : WriterOptions) (now : DateTime) (es : List Event) : List UInt8 :=
  Utf8.encode ((o.header now).render now) ++ o.payload es

/-- The encoder goes on from where the events before have left it. -/
theorem recording_append (o : WriterOptions) (now : DateTime) (es batch : List Event) :
    o.recording now (es ++ batch) = o.recording now es ++
      ((Encoder.encode { role := o.role } es).encoder.encode batch).bytes.data.toList := by
  rw [recording, recording, payload, payload, Encoder.encode_append, Array.toList_append,
    List.flatMap_append, Encoded.toList_bytes, List.append_assoc]

theorem isPrefix_recording (o : WriterOptions) (now : DateTime) (es batch : List Event) :
    o.recording now es <+: o.recording now (es ++ batch) := by
  rw [recording_append]
  exact List.prefix_append _ _

end WriterOptions

namespace Writer

/-- The writer has been given the events `es`, and its sink has refused nothing so far. -/
structure OnCourse (w : Writer) (o : WriterOptions) (now : DateTime) (es : List Event) : Prop where
  header : w.header = o.header now
  clock : w.now = now
  encoder : w.encoder = (Encoder.encode { role := o.role } es).encoder
  /-- There are no events without a header. -/
  fresh : w.started = false → es = []
  stream : w.sink.stream = if w.started then o.recording now es else []
  bytesWritten : w.bytesWritten = w.sink.stream.length
  writtenEvents : w.writtenEvents = es.length

/-- The writer has been given the events `es`, and its sink has refused something. -/
structure CutShort (w : Writer) (o : WriterOptions) (now : DateTime) (es : List Event) : Prop where
  full : w.sink.sink.IsFull
  accepted : w.accepted.data.toList <+: o.recording now es

/-- The writer has been given the events `es`, and its sink has refused nothing. -/
structure Written (w : Writer) (o : WriterOptions) (now : DateTime) (es : List Event) : Prop where
  header : w.header = o.header now
  clock : w.now = now
  encoder : w.encoder = (Encoder.encode { role := o.role } es).encoder
  sink : w.sink.IsUnbounded
  /-- There are no events without a header. -/
  fresh : w.started = false → es = []
  stream : w.sink.stream = if w.started then o.recording now es else []
  bytesWritten : w.bytesWritten = w.sink.stream.length
  writtenEvents : w.writtenEvents = es.length

variable {w w' : Writer} {o : WriterOptions} {now : DateTime} {es : List Event}

theorem Written.onCourse (h : w.Written o now es) : w.OnCourse o now es where
  header := h.header
  clock := h.clock
  encoder := h.encoder
  fresh := h.fresh
  stream := h.stream
  bytesWritten := h.bytesWritten
  writtenEvents := h.writtenEvents

theorem OnCourse.written (h : w.OnCourse o now es) (hsink : w.sink.IsUnbounded) :
    w.Written o now es where
  header := h.header
  clock := h.clock
  encoder := h.encoder
  sink := hsink
  fresh := h.fresh
  stream := h.stream
  bytesWritten := h.bytesWritten
  writtenEvents := h.writtenEvents

/-! ### Creation -/

/-- A writer has written nothing when it is created. -/
theorem onCourse_of_create {sink : Sink} (hcreate : create o now sink = .ok w)
    (hempty : sink.accepted = ByteArray.empty) :
    w.OnCourse o now [] ∧ w.sink.sink = sink ∧ w.started = false := by
  rw [create] at hcreate
  cases hcheck : o.check with
  | error e =>
    rw [hcheck] at hcreate
    cases hcreate
  | ok =>
    rw [hcheck] at hcreate
    cases hcreate
    have hstream : BufferedSink.stream { sink } = [] := by simp [BufferedSink.stream, hempty]
    exact ⟨⟨rfl, rfl, rfl, fun _ => rfl, hstream, (congrArg List.length hstream).symm, rfl⟩,
      rfl, rfl⟩

theorem written_of_create (hcreate : create o now {} = .ok w) :
    w.Written o now [] ∧ w.started = false := by
  obtain ⟨h, hsink, hstarted⟩ := onCourse_of_create hcreate rfl
  exact ⟨h.written (congrArg Sink.limit hsink), hstarted⟩

theorem exists_create_into (hfits : o.size.isAddressable = true) (now : DateTime) (sink : Sink) :
    ∃ w, create o now sink = .ok w := by
  rw [create, WriterOptions.check, if_pos hfits]
  exact ⟨_, rfl⟩

theorem exists_create (hfits : o.size.isAddressable = true) (now : DateTime) :
    ∃ w, create o now {} = .ok w ∧ w.Written o now [] ∧ w.started = false := by
  obtain ⟨w, hcreate⟩ := exists_create_into hfits now {}
  exact ⟨w, hcreate, written_of_create hcreate⟩

theorem toList_headerBytes (w : Writer) :
    w.headerBytes.data.toList = Utf8.encode (w.header.render w.now) := by
  rw [headerBytes, Header.text, String.toUTF8_eq_toByteArray, String.toByteArray_ofList,
    List.utf8Encode, List.toList_data_toByteArray]
  rfl

/-! ### What the sink is offered -/

theorem offered_start (w : Writer) : w.sink.sink.Offered w.start.writer.sink.sink := by
  have hoffered := w.sink.offered_write w.headerBytes
  rw [start]
  split
  · split
    · exact .refl _
    · split
      · rename_i hwrite
        rwa [hwrite] at hoffered
      · rename_i hwrite
        rwa [hwrite] at hoffered
  · exact .refl _

theorem offered_write (w : Writer) (batch : List Event) :
    w.sink.sink.Offered (w.write batch).writer.sink.sink := by
  have hstart := w.offered_start
  rw [write]
  dsimp only
  split
  · exact hstart
  · have hoffered :=
      w.start.writer.sink.offered_write (w.start.writer.encoder.encode batch).bytes
    split
    · rename_i hwrite
      rw [hwrite] at hoffered
      exact hstart.trans hoffered
    · rename_i hwrite
      rw [hwrite] at hoffered
      exact hstart.trans hoffered

theorem offered_finish (w : Writer) : w.sink.sink.Offered w.finish.writer.sink.sink := by
  rw [finish]
  dsimp only
  generalize hbegun : (if w.header.payloadFormat.isImplemented then w.start
    else { writer := w, result := .ok () }) = begun
  have hstart : w.sink.sink.Offered begun.writer.sink.sink := by
    rw [← hbegun]
    split
    · exact w.offered_start
    · exact .refl _
  split
  · exact hstart
  · have hoffered := begun.writer.sink.offered_flush
    split
    · rename_i hflush
      rw [hflush] at hoffered
      exact hstart.trans hoffered
    · rename_i hflush
      rw [hflush] at hoffered
      exact hstart.trans hoffered

/-! ### A sink that has refused something -/

/-- Whatever else is given, a sink that has refused something stays as it is. -/
theorem CutShort.of_offered (h : w.CutShort o now es)
    (hoffered : w.sink.sink.Offered w'.sink.sink) (batch : List Event) :
    w'.CutShort o now (es ++ batch) := by
  have hsame : w'.sink.sink = w.sink.sink := hoffered.eq_of_isFull h.full
  refine ⟨hsame ▸ h.full, ?_⟩
  rw [Writer.accepted, hsame]
  exact h.accepted.trans (o.isPrefix_recording now es batch)

/-! ### Any sink -/

namespace OnCourse

theorem isImplemented (h : w.OnCourse o now es) (hformat : o.format = .evt3) :
    w.header.payloadFormat.isImplemented = true := by
  rw [h.header, PayloadFormat.isImplemented_iff]
  exact hformat

/-- A recording is the header of its writer and then the bytes of one encoding. -/
theorem toList_recording (h : w.OnCourse o now es) (es' : List Event) :
    (w.headerBytes ++ (Encoder.encode { role := o.role } es').bytes).data.toList =
      o.recording now es' := by
  rw [ByteArray.data_append, Array.toList_append, toList_headerBytes, Encoded.toList_bytes,
    h.header, h.clock]
  rfl

theorem isPrefix_stream (h : w.OnCourse o now es) : w.sink.stream <+: o.recording now es := by
  rw [h.stream]
  split
  · exact List.prefix_rfl
  · exact List.nil_prefix

/-- The header is written once. -/
theorem start_cases (h : w.OnCourse o now es) (hformat : o.format = .evt3) :
    (w.start.result = .ok () ∧ w.start.writer.OnCourse o now es ∧
      w.start.writer.started = true) ∨
    ∃ message, w.start.result = .error (.io message) ∧ w.start.writer.CutShort o now es := by
  rw [Writer.start, if_pos (h.isImplemented hformat)]
  by_cases hstarted : w.started = true
  · rw [if_pos hstarted]
    exact .inl ⟨rfl, h, hstarted⟩
  · -- Nothing has been written, so that the header comes first.
    have hrecording : w.sink.stream ++ w.headerBytes.data.toList = o.recording now es := by
      rw [h.stream, if_neg hstarted, toList_headerBytes, h.header, h.clock,
        h.fresh (Bool.eq_false_iff.2 hstarted)]
      exact (List.append_nil _).symm
    rw [if_neg hstarted]
    obtain ⟨sink, hwrite, hstream⟩ | ⟨sink, message, hwrite, hfull, hsome⟩ :=
      w.sink.write_cases w.headerBytes
    · have hcount : w.bytesWritten + w.headerBytes.size = sink.stream.length := by
        rw [h.bytesWritten, hstream, List.length_append, length_toList_data]
      rw [hwrite]
      exact .inl ⟨rfl, ⟨h.header, h.clock, h.encoder, nofun, hstream.trans hrecording, hcount,
        h.writtenEvents⟩, rfl⟩
    · rw [hwrite]
      exact .inr ⟨message, rfl, hfull, hrecording ▸ hsome⟩

/-- A batch goes behind what has been written. -/
theorem write_cases (h : w.OnCourse o now es) (hformat : o.format = .evt3) (batch : List Event) :
    ((w.write batch).result = .ok () ∧ (w.write batch).writer.OnCourse o now (es ++ batch) ∧
      (w.write batch).writer.started = true) ∨
    ∃ message, (w.write batch).result = .error (.io message) ∧
      (w.write batch).writer.CutShort o now (es ++ batch) := by
  rw [Writer.write]
  obtain ⟨hresult, hbegun, hstarted⟩ | ⟨message, hresult, hcut⟩ := h.start_cases hformat
  · have hrecording : w.start.writer.sink.stream ++
        (w.start.writer.encoder.encode batch).bytes.data.toList =
          o.recording now (es ++ batch) := by
      rw [hbegun.stream, if_pos hstarted, hbegun.encoder, o.recording_append]
    rw [hresult]
    dsimp only
    obtain ⟨sink, hwrite, hstream⟩ | ⟨sink, message, hwrite, hfull, hsome⟩ :=
      w.start.writer.sink.write_cases (w.start.writer.encoder.encode batch).bytes
    · have hcount : w.start.writer.bytesWritten +
          (w.start.writer.encoder.encode batch).bytes.size = sink.stream.length := by
        rw [hbegun.bytesWritten, hstream, List.length_append, length_toList_data]
      rw [hwrite]
      refine .inl ⟨rfl, ⟨hbegun.header, hbegun.clock, ?_, ?_, ?_, hcount, ?_⟩, hstarted⟩
      · rw [Encoder.encode_append, ← hbegun.encoder]
      · intro hno
        rw [hstarted] at hno
        cases hno
      · exact (hstream.trans hrecording).trans (if_pos hstarted).symm
      · rw [List.length_append, ← hbegun.writtenEvents]
    · rw [hwrite]
      exact .inr ⟨message, rfl, hfull, hrecording ▸ hsome⟩
  · rw [hresult]
    exact .inr ⟨message, rfl, hcut.of_offered (.refl _) batch⟩

/-- A finished recording is complete. -/
theorem finish_cases (h : w.OnCourse o now es) (hformat : o.format = .evt3) :
    (w.finish.result = .ok () ∧ w.finish.writer.OnCourse o now es ∧
      w.finish.writer.started = true ∧
      w.finish.writer.accepted.data.toList = o.recording now es) ∨
    ∃ message, w.finish.result = .error (.io message) ∧ w.finish.writer.CutShort o now es := by
  rw [Writer.finish, if_pos (h.isImplemented hformat)]
  dsimp only
  obtain ⟨hresult, hbegun, hstarted⟩ | ⟨message, hresult, hcut⟩ := h.start_cases hformat
  · have hrecording : w.start.writer.sink.stream = o.recording now es := by
      rw [hbegun.stream, if_pos hstarted]
    rw [hresult]
    dsimp only
    obtain ⟨sink, hflush, hempty, hall⟩ | ⟨sink, message, hflush, hfull, hsome⟩ :=
      w.start.writer.sink.flush_cases
    · -- What the buffer held has been handed on, so that the sink has accepted the whole stream.
      have hstream : sink.stream = w.start.writer.sink.stream := by
        rw [BufferedSink.stream, hempty, ← hall]
        exact List.append_nil _
      rw [hflush]
      exact .inl ⟨rfl, ⟨hbegun.header, hbegun.clock, hbegun.encoder, hbegun.fresh,
        hstream.trans hbegun.stream, hstream ▸ hbegun.bytesWritten, hbegun.writtenEvents⟩,
        hstarted, hall.trans hrecording⟩
    · rw [hflush]
      exact .inr ⟨message, rfl, hfull, hrecording ▸ hsome⟩
  · rw [hresult]
    exact .inr ⟨message, rfl, hcut⟩

end OnCourse

/-! ### A sink that refuses nothing -/

namespace Written

/-- The header is written once. -/
theorem start (h : w.Written o now es) (hformat : o.format = .evt3) :
    w.start.result = .ok () ∧ w.start.writer.Written o now es ∧ w.start.writer.started = true := by
  have hsink := h.sink.of_offered w.offered_start
  obtain ⟨hresult, hbegun, hstarted⟩ | ⟨message, -, hcut⟩ := h.onCourse.start_cases hformat
  · exact ⟨hresult, hbegun.written hsink, hstarted⟩
  · exact absurd hcut.full hsink.not_isFull

/-- A batch goes behind what has been written. -/
theorem write (h : w.Written o now es) (hformat : o.format = .evt3) (batch : List Event) :
    (w.write batch).result = .ok () ∧ (w.write batch).writer.Written o now (es ++ batch) ∧
      (w.write batch).writer.started = true := by
  have hsink := h.sink.of_offered (w.offered_write batch)
  obtain ⟨hresult, hwritten, hstarted⟩ | ⟨message, -, hcut⟩ :=
    h.onCourse.write_cases hformat batch
  · exact ⟨hresult, hwritten.written hsink, hstarted⟩
  · exact absurd hcut.full hsink.not_isFull

theorem writeAllInto (h : w.Written o now es) (hformat : o.format = .evt3)
    (notices : List Notice) (batches : List (List Event)) :
    (w.writeAllInto notices batches).result = .ok () ∧
      (w.writeAllInto notices batches).writer.Written o now (es ++ batches.flatten) := by
  induction batches generalizing w es notices with
  | nil =>
    rw [Writer.writeAllInto, List.flatten_nil, List.append_nil]
    exact ⟨rfl, h⟩
  | cons batch batches ih =>
    obtain ⟨hresult, hwritten, -⟩ := h.write hformat batch
    rw [Writer.writeAllInto, hresult, List.flatten_cons, ← List.append_assoc]
    exact ih hwritten _

/-- A finished recording is complete. -/
theorem finish (h : w.Written o now es) (hformat : o.format = .evt3) :
    w.finish.result = .ok () ∧ w.finish.writer.accepted.data.toList = o.recording now es := by
  have hsink := h.sink.of_offered w.offered_finish
  obtain ⟨hresult, -, -, hall⟩ | ⟨message, -, hcut⟩ := h.onCourse.finish_cases hformat
  · exact ⟨hresult, hall⟩
  · exact absurd hcut.full hsink.not_isFull

end Written

/-- Whatever the batches, a recording of them can be made, and it is that of all their events. -/
theorem exists_recording (hfits : o.size.isAddressable = true) (hformat : o.format = .evt3)
    (now : DateTime) (batches : List (List Event)) :
    ∃ w, create o now {} = .ok w ∧ (w.writeAll batches).result = .ok () ∧
      (w.writeAll batches).writer.finish.result = .ok () ∧
      (w.writeAll batches).writer.finish.writer.accepted.data.toList =
        o.recording now batches.flatten := by
  obtain ⟨w, hcreate, hw, -⟩ := exists_create hfits now
  obtain ⟨hresult, hwritten⟩ := hw.writeAllInto hformat [] batches
  obtain ⟨hfinish, hall⟩ := hwritten.finish hformat
  exact ⟨w, hcreate, hresult, hfinish, hall⟩

end Writer

end EventCamera
