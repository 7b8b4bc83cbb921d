import EventCamera.Proofs.Evt3.Drift
import EventCamera.Proofs.Recording.Playing
import EventCamera.Proofs.Recording.Writing

/-!
# Recordings lose nothing

Events in order whose fields fit into words are read back from a recording of them as they were
written, whatever batches they were written in, however the recording is cut, and by windows of
whatever bounds.

## Main results

* `WriterOptions.decode_payload` — the words of a recording give back its events
* `WriterOptions.exists_opening` — a recording can be opened
* `WriterOptions.exists_windows` — it is read to its end
* `read_back_recording` — batches of events are written and read back
-/

namespace EventCamera

namespace WriterOptions

variable {o : WriterOptions} {now : DateTime} {es : List Event}

/-- The words of a recording end with no open group, and hold the events and nothing else. -/
theorem decode_payload (o : WriterOptions) (hordered : es.Pairwise (·.t ≤ ·.t))
    (hfields : ∀ e ∈ es, e.x ≤ 2047 ∧ e.y ≤ 2047 ∧ e.p ≤ 1) :
    (decodeFinal {} (words (o.payload es))).batch = ⟨es, []⟩ ∧
      (decodeFinal {} (words (o.payload es))).malformed = 0 := by
  have hread := readBack_encode o.role es
  rw [payload, words_flatMap_littleEndian, decodeFinal_encode, Decoding.batch, hread.triggers,
    hread.malformed, events_decode_encode_of_pairwise o.role hordered hfields]
  exact ⟨rfl, rfl⟩

/-- A recording can be opened wherever it is cut. The reader knows its size and stands in front of
the words. -/
theorem exists_opening (hfits : o.size.isAddressable = true) (hformat : o.format = .evt3)
    (hserial : '\n' ∉ o.serialNumber.toList) {options : ReaderOptions} {window : Window}
    (hwindow : options.window = .ok window) {source : Source} (hsource : source.IsPlain)
    (hcontent : source.content = o.recording now es) :
    ∃ (r : Reader) (rest : Source), (Reader.openSource options source).result = .ok r ∧
      r.payload = { source := rest, chunkWords := options.chunkWords } ∧ rest.IsPlain ∧
      rest.content = o.payload es ∧ r.carry = {} ∧ r.done = false ∧ r.readEvents = 0 ∧
      r.header.size = o.size ∧ r.header.payloadFormat = .evt3 ∧
      r.headerLength + (o.payload es).length = source.content.length := by
  obtain ⟨result, hread, hsize, hpayload, hrest, hmore, hlength⟩ :=
    Header.read_of_render (o.header now) now hfits
      (Header.feed_not_mem_lines_forRecording hserial now) hsource hcontent
  rw [Reader.openSource, hwindow]
  dsimp only
  rw [hread]
  refine ⟨_, _, rfl, rfl, hrest, hmore, rfl, rfl, rfl, hsize, hpayload.trans hformat, ?_⟩
  rw [hlength, hcontent, recording, List.length_append]

/-- A recording of events in order whose fields fit into words is read to its end, wherever it is
cut, in windows that hold something and together all the events. -/
theorem exists_windows (hfits : o.size.isAddressable = true) (hformat : o.format = .evt3)
    (hserial : '\n' ∉ o.serialNumber.toList) (hordered : es.Pairwise (·.t ≤ ·.t))
    (hfields : ∀ e ∈ es, e.x ≤ 2047 ∧ e.y ≤ 2047 ∧ e.p ≤ 1) {options : ReaderOptions}
    {window : Window} (hwindow : options.window = .ok window) {source : Source}
    (hsource : source.IsPlain) (hcontent : source.content = o.recording now es) :
    ∃ (r last : Reader) (windows : List Batch),
      (Reader.openSource options source).result = .ok r ∧ r.Plays windows last ∧
      r.done = false ∧ r.header.size = o.size ∧ Batch.flatten windows = ⟨es, []⟩ ∧
      (∀ b ∈ windows, b.isEmpty = false) ∧ last.payload.malformed = 0 ∧
      last.readEvents = es.length ∧ last.header.size = o.size ∧
      last.position = source.content.length := by
  obtain ⟨r, rest, hopen, hpayload, hrest, hmore, hcarry, hdone, hcount, hsize, hevt3, hlength⟩ :=
    exists_opening hfits hformat hserial hwindow hsource hcontent
  obtain ⟨hbatch, hmalformed⟩ := o.decode_payload hordered hfields
  have himplemented : r.header.payloadFormat.isImplemented = true := hevt3 ▸ rfl
  have hevents : (decodeFinal {} (words rest.reach)).events.toList = es := by
    rw [hrest.isSteady.reach_eq, hmore]
    exact congrArg Batch.events hbatch
  have hahead : r.Ahead es :=
    hevents ▸ Reader.ahead_of_isFaultless hpayload hrest.isSteady.isFaultless hcarry
  have hcan : r.window.CanDivide es := Window.canDivide_of_pairwise hordered
  obtain ⟨windows, last, hplays⟩ := hahead.exists_plays himplemented hcan hdone
  obtain ⟨-, hheader, hsame, hgiven, -⟩ := hplays.conserves hdone
  -- At the end everything has been handed out, and that is what one reading of the words gives.
  have hover := hplays.payload_over hpayload hrest.isSteady.isFaultless hcarry hdone
  rw [hrest.isSteady.reach_eq] at hover
  have hflatten : Batch.flatten windows = ⟨es, []⟩ := by rw [hover.batch, hmore, hbatch]
  refine ⟨r, last, windows, hopen, hplays, hdone, hsize, hflatten,
    hplays.isEmpty_of_mem hahead himplemented hcan hdone, ?_, ?_, ?_, ?_⟩
  · rw [hover.malformed, hmore, hmalformed]
  · rw [hgiven, hflatten, hcount, Nat.zero_add]
  · rw [hheader, hsize]
  · rw [Reader.position, hsame, hover.bytesRead, hmore, hlength]

end WriterOptions

/-- A recording of events in order whose fields fit into words gives them back. It can be made
whatever the batches are. However it is cut and whatever the bounds of windows are, it is read to
its end without an error. -/
theorem read_back_recording (o : WriterOptions) (now : DateTime) (batches : List (List Event))
    (hfits : o.size.isAddressable = true) (hformat : o.format = .evt3)
    (hserial : '\n' ∉ o.serialNumber.toList)
    (hordered : batches.flatten.Pairwise (·.t ≤ ·.t))
    (hfields : ∀ e ∈ batches.flatten, e.x ≤ 2047 ∧ e.y ≤ 2047 ∧ e.p ≤ 1) :
    ∃ w : Writer, Writer.create o now {} = .ok w ∧
      (w.writeAll batches).result = .ok () ∧
      (w.writeAll batches).writer.finish.result = .ok () ∧
      let recording := (w.writeAll batches).writer.finish.writer.accepted
      ∀ (options : ReaderOptions) (window : Window) (source : Source),
        options.window = .ok window → source.IsPlain →
        source.content = recording.data.toList →
        ∃ (r last : Reader) (windows : List Batch),
          (Reader.openSource options source).result = .ok r ∧ r.Plays windows last ∧
          windows.flatMap (·.events) = batches.flatten ∧
          windows.flatMap (·.triggers) = [] ∧
          last.payload.malformed = 0 ∧
          last.readEvents = batches.flatten.length ∧
          last.header.size = o.size ∧
          last.position = recording.size := by
  obtain ⟨w, hcreate, hwrite, hfinish, hall⟩ :=
    Writer.exists_recording hfits hformat now batches
  refine ⟨w, hcreate, hwrite, hfinish, ?_⟩
  intro recording options window source hwindow hsource hcontent
  obtain ⟨r, last, windows, hopen, hplays, -, -, hflatten, -, hmalformed, hcount, hsize,
      hposition⟩ :=
    WriterOptions.exists_windows hfits hformat hserial hordered hfields hwindow hsource
      (hcontent.trans hall)
  refine ⟨r, last, windows, hopen, hplays, ?_, ?_, hmalformed, hcount, hsize, ?_⟩
  · rw [← Batch.events_flatten, hflatten]
  · rw [← Batch.triggers_flatten, hflatten]
  · rw [hposition, hcontent, length_toList_data]

/-- The recording of two batches, with an empty one between them and a period passed over, is read
back from single bytes, one event at a time. -/
theorem read_back_recording_from_single_bytes :
    let batches : List (List Event) := [[⟨5, 3, 4, 1⟩], [], [⟨0x2000003, 2047, 0, 0⟩]]
    let now : DateTime :=
      { year := 2024, month := 2, day := 29, hour := 0, minute := 0, second := 0 }
    ∃ w : Writer, Writer.create { role := .slave } now {} = .ok w ∧
      ∃ (r last : Reader) (windows : List Batch),
        (Reader.openSource { nEvents := some 1, chunkWords := 0 }
          ((w.writeAll batches).writer.finish.writer.accepted.data.toList.map
            fun b => .bytes [b])).result = .ok r ∧
        r.Plays windows last ∧ windows.flatMap (·.events) = batches.flatten := by
  intro batches now
  obtain ⟨w, hcreate, -, -, hread⟩ :=
    read_back_recording { role := .slave } now batches (by decide) rfl (by decide) (by decide)
      (by decide)
  have hcut : ∀ bs : List UInt8, Source.content (bs.map fun b => .bytes [b]) = bs := by
    intro bs
    induction bs with
    | nil => rfl
    | cons b bs ih => rw [List.map_cons, Source.content_bytes, ih, List.singleton_append]
  have hplain : ∀ bs : List UInt8, Source.IsPlain (bs.map fun b => .bytes [b]) := by
    intro bs segment hsegment
    obtain ⟨b, -, rfl⟩ := List.mem_map.1 hsegment
    exact ⟨[b], rfl⟩
  obtain ⟨r, last, windows, hopen, hplays, hevents, -⟩ :=
    hread { nEvents := some 1, chunkWords := 0 } _ _ rfl (hplain _) (hcut _)
  exact ⟨w, hcreate, r, last, windows, hopen, hplays, hevents⟩

end EventCamera
