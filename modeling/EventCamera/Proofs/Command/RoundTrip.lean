import EventCamera.Command.Run
import EventCamera.Proofs.Command.Arguments
import EventCamera.Proofs.Command.Tables
import EventCamera.Proofs.Csv.RoundTrip

/-!
# Tables that go through a recording

A table of events in order is made into a recording, and the recording into a table again. The
columns may come in another order, and the recording may be read in any windows: what comes out is
the table of the same events, with the size of the sensor that the first one gave.

## Main results

* `encodeTable_of_table` — the recording that is made of a table
* `decode_encoded_table` — the table that is made of that recording
-/

namespace EventCamera

/-! ### Making the recording -/

section Encode

variable {o : WriterOptions} {now : DateTime} {storage : Storage} {path : String} {raw : Location}

/-- A recording is created in an empty file. -/
theorem createRecording_of_file (hfits : o.size.isAddressable = true) (now : DateTime)
    (hplace : Place.of storage path = .file raw) :
    ∃ s' w, createRecording o now storage path = .ok (s', w) ∧ w.Written o now [] ∧
      storage.SameBut raw s' ∧ s'.find? raw = some .empty := by
  obtain ⟨s', outlet, hcreate, hfills, hsink, hsame⟩ := Storage.create_of_file hplace
  obtain ⟨w, hwriter, hw, -⟩ := Writer.exists_create hfits now
  have hempty : s'.find? raw = some .empty := by
    rw [hfills.file, hsink]
  refine ⟨s', w, ?_, hw, hsame, hempty⟩
  rw [createRecording, WriterOptions.check, if_pos hfits]
  dsimp only
  rw [hcreate]
  dsimp only
  rw [hsink, hwriter]
  rfl

/-- A recording comes into its file when it is finished. -/
theorem finishRecording_of_written {report : Report} {w : Writer} {es : List Event}
    (h : w.Written o now es) (hformat : o.format = .evt3)
    (hplace : Place.of report.storage path = .file raw)
    (hempty : report.storage.find? raw = some .empty) (lastLine : Nat → Nat → String) :
    let finished := finishRecording report path w lastLine
    finished.failure = report.failure ∧ report.storage.SameBut raw finished.storage ∧
      ∃ recording, finished.storage.find? raw = some recording ∧
        recording.data.toList = o.recording now es := by
  intro finished
  obtain ⟨hfinish, hbytes⟩ := h.finish hformat
  have hwrite : report.storage.write path w.finish.writer.accepted =
      report.storage.put raw w.finish.writer.accepted := by
    rw [Storage.write, hplace, Storage.patch, hempty, Option.getD_some]
    exact congrArg _ ((Storage.overlay_size .empty _).trans ByteArray.empty_append)
  have hfinished : finished.failure = report.failure ∧
      finished.storage = report.storage.write path w.finish.writer.accepted := by
    rw [show finished = finishRecording report path w lastLine from rfl, finishRecording, hfinish]
    exact ⟨rfl, rfl⟩
  obtain ⟨hfailure, hstorage⟩ := hfinished
  rw [hstorage, hwrite]
  exact ⟨hfailure, Storage.sameBut_put _ _ _, _, Storage.find?_put_self _ _ _, hbytes⟩

variable {a : EncodeArguments} {g : Geometry} {es : List Event}

/-- A table that is not in the file of the recording is read on as it is. -/
theorem EncodeArguments.loading_eq_none {s' : Storage} (hsame : storage.SameBut raw s')
    (houtput : Place.of storage a.output = .file raw)
    (hother : Place.of storage a.input ≠ .file raw) (opened : Storage.Opened) (left : Source) :
    a.loading s' opened left = none := by
  unfold EncodeArguments.loading
  rw [hsame.place_of houtput]
  split
  · rename_i location hinput
    -- Creating the recording has not moved the table.
    have hne : ¬ some raw = some location := by
      rintro ⟨⟩
      exact hother
        (Storage.place_of_congr hsame.directories.symm (Place.location?_eq_some.1 hinput))
    exact if_neg hne
  · rfl

variable {order : FieldOrder} {run : EncodeRun} {events : List Event}
  {passed ahead : List (List Char)}

theorem drop_eq_nil_of_take_eq_nil {n : Nat} (hn : 0 < n) (h : es.take n = []) :
    es.drop n = [] := by
  rw [(List.take_eq_nil_iff.1 h).resolve_left (Nat.ne_of_gt hn), List.drop_nil]

/-- The events at hand are written, and the next ones of the table are read. -/
theorem encodeBatch_of_ne_nil (hw : run.writer.Written o now es) (hformat : o.format = .evt3)
    (hloading : run.loading = none) (hbetween : run.table.Between order passed ahead)
    (hsound : ∀ line ∈ ahead, Csv.IsSound order line) (hne : events ≠ []) :
    ∃ run' taken left, encodeBatch (run, events) =
        .inl (run', (Csv.eventsOn order ahead).take eventsAtOnce) ∧
      run'.writer.Written o now (es ++ events) ∧ run'.loading = none ∧ ahead = taken ++ left ∧
      run'.table.Between order (passed ++ taken) left ∧
      Csv.eventsOn order left = (Csv.eventsOn order ahead).drop eventsAtOnce := by
  obtain ⟨hresult, hwritten, -⟩ := hw.write hformat events
  rw [← List.append_nil ahead] at hbetween
  obtain ⟨taken, left, r', rfl, hread, -, hbetween', htaken⟩ :=
    hbetween.readEvents_of_sound hsound (.inl rfl) (n := eventsAtOnce)
  rw [List.append_nil] at hbetween'
  refine ⟨{ run with
    writer := (run.writer.write events).writer
    notices := run.notices ++ (run.writer.write events).notices
    table := r' }, taken, left, ?_, hwritten, hloading, rfl, hbetween',
    Csv.eventsOn_eq_drop htaken⟩
  rw [encodeBatch, if_neg (by simpa using hne)]
  dsimp only
  rw [hresult, EncodeRun.readEvents]
  dsimp only
  rw [hloading]
  dsimp only
  rw [hread]

/-- All events of sound lines come into the recording, one part behind the other. -/
theorem encodeEvents_of_sound (hw : run.writer.Written o now es) (hformat : o.format = .evt3)
    (hloading : run.loading = none) (hbetween : run.table.Between order passed ahead)
    (hsound : ∀ line ∈ ahead, Csv.IsSound order line)
    (hnone : events = [] → Csv.eventsOn order ahead = []) :
    ∃ run', encodeEvents run events = (run', none) ∧
      run'.writer.Written o now (es ++ events ++ Csv.eventsOn order ahead) := by
  -- The induction is on the events that have not been written; with each turn there are fewer.
  induction hcount : (events ++ Csv.eventsOn order ahead).length using Nat.strong_induction_on
    generalizing run es events passed ahead with
  | h count ih =>
    by_cases hne : events = []
    · subst hne
      refine ⟨run, untilResult_of_inr rfl, ?_⟩
      rwa [hnone rfl, List.append_nil, List.append_nil]
    · obtain ⟨run', taken, left, hbatch, hw', hloading', rfl, hbetween', hleft⟩ :=
        encodeBatch_of_ne_nil hw hformat hloading hbetween hsound hne
      have hall : (Csv.eventsOn order (taken ++ left)).take eventsAtOnce ++
          Csv.eventsOn order left = Csv.eventsOn order (taken ++ left) := by
        rw [hleft, List.take_append_drop]
      have hfewer : (Csv.eventsOn order (taken ++ left)).length < count := by
        rw [← hcount, List.length_append]
        exact Nat.lt_add_of_pos_left (List.length_pos_iff.2 hne)
      have hnone' : (Csv.eventsOn order (taken ++ left)).take eventsAtOnce = [] →
          Csv.eventsOn order left = [] := by
        rw [hleft]
        exact drop_eq_nil_of_take_eq_nil (by decide)
      obtain ⟨run'', hrest, hwritten⟩ :=
        ih _ (by rwa [hall]) hw' hloading' hbetween'
          (fun _ hline => hsound _ (List.mem_append_right _ hline)) hnone' rfl
      rw [List.append_assoc (es ++ events), hall] at hwritten
      exact ⟨run'', (untilResult_of_inl hbatch).trans hrest, hwritten⟩

/-- A table is made into the recording of its events, if that is in another file. -/
theorem encodeTable_of_table (now : DateTime) (hsize : a.size (some g) = g)
    (hfits : g.isAddressable = true) (hformat : a.format = .evt3) (hp : ∀ e ∈ es, e.p ≤ 1)
    (hinput : storage.read a.input =
      .ok (.content (Csv.tableBytes a.order (some g) es).toList))
    (houtput : Place.of storage a.output = .file raw)
    (hother : Place.of storage a.input ≠ .file raw) :
    let report := encodeTable a now storage
    report.failure = none ∧ storage.SameBut raw report.storage ∧
      ∃ recording, report.storage.find? raw = some recording ∧
        recording.data.toList = (a.writerOptions (some g)).recording now es := by
  intro report
  have hn : 0 < eventsAtOnce := by decide
  have hfits' : (a.writerOptions (some g)).size.isAddressable = true := by
    rw [EncodeArguments.writerOptions, hsize, hfits]
  have hsteady : Source.IsSteady [.bytes (Csv.tableBytes a.order (some g) es).toList] := by
    intro segment hsegment
    exact .inr ⟨_, List.mem_singleton.1 hsegment⟩
  -- The first part is read before the recording is created, as it says how large the sensor is.
  obtain ⟨passed, left, first, hread, hgeometry, hbetween, hsound, hleft⟩ :=
    TableReader.readEvents_of_table hp hsteady
      ((List.append_nil _).trans (toList_eq_toList_data _)) hn
  obtain ⟨s', w, hcreate, hw, hsame, hempty⟩ := createRecording_of_file hfits' now houtput
  have hnone : es.take eventsAtOnce = [] → Csv.eventsOn a.order left = [] := by
    rw [hleft]
    exact drop_eq_nil_of_take_eq_nil hn
  let start : EncodeRun := { table := first, writer := w }
  have hempty' : start.writer.Written (a.writerOptions (some g)) now [] := hw
  obtain ⟨run, hrun, hwritten⟩ :=
    encodeEvents_of_sound hempty' hformat rfl hbetween hsound hnone
  rw [List.nil_append, hleft, List.take_append_drop] at hwritten
  have hreport : ∃ (begun : Report) (lastLine : Nat → Nat → String),
      begun.failure = none ∧ begun.storage = s' ∧
        report = finishRecording begun a.output run.writer lastLine := by
    rw [show report = encodeTable a now storage from rfl, encodeTable, hinput]
    dsimp only
    rw [Storage.Opened.table, hread]
    dsimp only
    rw [hgeometry, hcreate]
    dsimp only
    rw [EncodeArguments.loading_eq_none hsame houtput hother, hrun]
    exact ⟨_, _, rfl, rfl, rfl⟩
  obtain ⟨begun, lastLine, hbegun, rfl, hreport⟩ := hreport
  obtain ⟨hfailure, hsame', hrecording⟩ := finishRecording_of_written hwritten hformat
    (hsame.place_of houtput) hempty lastLine
  rw [← hreport] at hfailure hsame' hrecording
  exact ⟨hfailure.trans hbegun, hsame.trans hsame', hrecording⟩

end Encode

/-! ### From a table to a table -/

section RoundTrip

variable {storage : Storage} {g : Geometry} {es : List Event} {a : EncodeArguments}
  {b : DecodeArguments} {raw csv : Location}

/-- A table of events in order is made into a recording, and that into a table of the same events,
whatever the orders of columns and the windows. The table of triggers, if there is to be one, is
its heading. -/
theorem decode_encoded_table (hfits : g.isAddressable = true) (hordered : es.Pairwise (·.t ≤ ·.t))
    (hfields : ∀ e ∈ es, e.x ≤ 2047 ∧ e.y ≤ 2047 ∧ e.p ≤ 1)
    {columns columns' : String} {order order' : FieldOrder}
    (horder : FieldOrder.parse columns = .ok order)
    (horder' : FieldOrder.parse columns' = .ok order') {encoding decoding : List String}
    (hencoding : Command.encodeGrammar.LeavesOpen "order" {} encoding a)
    (hdecoding : Command.decodeGrammar.LeavesOpen "order" {} decoding b)
    (hsize : a.size (some g) = g) (hformat : a.format = .evt3) (hserial : '\n' ∉ a.serial.toList)
    {window : Window} (hwindow : b.readerOptions.window = .ok window)
    (htable : storage.read a.input = .ok (.content (Csv.tableBytes order (some g) es).toList))
    (hraw : Place.of storage a.output = .file raw) (hother : Place.of storage a.input ≠ .file raw)
    (hinput : Place.of storage b.input = .file raw)
    (hcsv : Place.of storage b.output = .file csv) (hne : csv ≠ raw)
    (htriggers : ∀ path, b.triggers = some path →
      ∃ other, Place.of storage path = .file other ∧ other ≠ csv ∧ other ≠ raw)
    (setting setting' : Option String) (now now' : DateTime) :
    ∃ encoded decoded : Report,
      (runProgram ("encode" :: (encoding ++ ["--order", columns])) setting now storage).report =
        some encoded ∧
      encoded.failure = none ∧
      (runProgram ("decode" :: (decoding ++ ["--order", columns'])) setting' now'
        encoded.storage).report = some decoded ∧
      decoded.failure = none ∧
      decoded.storage.find? csv = some (Csv.tableBytes order' (some g) es) ∧
      ∀ path other, b.triggers = some path → Place.of storage path = .file other →
        decoded.storage.find? other = some "t,p,id\n".toUTF8 := by
  obtain ⟨verbose, hencode⟩ := Invocation.parse_encode hencoding horder
  obtain ⟨verbose', hdecode⟩ := Invocation.parse_decode hdecoding horder'
  obtain ⟨hencoded, hsame, recording, hfile, hrecording⟩ :=
    encodeTable_of_table (a := { a with order }) now hsize hfits hformat
      (fun e he => (hfields e he).2.2) (show storage.silent.read a.input = _ from htable) hraw
      hother
  -- No directory has changed, so that the places are the same for the second command.
  have hplace {path : String} {location : Location} (h : Place.of storage path = .file location) :
      Place.of (encodeTable { a with order } now storage.silent).storage.silent path =
        .file location :=
    hsame.place_of h
  obtain ⟨hdecoded, htable', htriggers'⟩ :=
    decodeRecording_of_recording (a := { b with order := order' })
      (o := a.writerOptions (some g)) ((congrArg _ hsize).trans hfits) hformat hserial hordered
      hfields hwindow (hplace hinput) hfile hrecording (hplace hcsv) hne
      fun path hpath => (htriggers path hpath).imp fun _ h => ⟨hplace h.1, h.2⟩
  refine ⟨_, _, ?_, hencoded, ?_, hdecoded, ?_,
    fun path other hpath h => htriggers' path other hpath (hplace h)⟩
  · rw [runProgram, hencode]
    rfl
  · rw [runProgram, hdecode]
    rfl
  · exact htable'.trans (congrArg (fun size => some (Csv.tableBytes order' (some size) es)) hsize)

/-- A table whose last column is the time becomes one whose first column it is. The recording is
read one event at a time. -/
theorem decode_encoded_table_one_by_one :
    let es : List Event := [⟨7, 2047, 0, 1⟩, ⟨5000000, 0, 2047, 0⟩]
    let g : Geometry := ⟨640, 480⟩
    let now : DateTime :=
      { year := 2024, month := 2, day := 29, hour := 23, minute := 59, second := 58 }
    let order : FieldOrder := { columns := [.p, .y, .x, .t] }
    let storage : Storage := { files := [(["a.csv"], Csv.tableBytes order (some g) es)] }
    ∃ encoded decoded : Report,
      (runProgram ["encode", "a.csv", "b.raw", "--order", "pol, Y, x, time"] none now
        storage).report = some encoded ∧
      encoded.failure = none ∧
      (runProgram ["decode", "b.raw", "c.csv", "--triggers", "d.csv", "--mode", "n_events",
        "--n-events", "1", "--order", "t,x,y,p"] none now encoded.storage).report = some decoded ∧
      decoded.failure = none ∧
      decoded.storage.find? ["c.csv"] = some (Csv.tableBytes .txyp (some g) es) ∧
      decoded.storage.find? ["d.csv"] = some "t,p,id\n".toUTF8 := by
  intro es g now order storage
  have hordered : es.Pairwise (·.t ≤ ·.t) := by decide
  have horder : FieldOrder.parse "pol, Y, x, time" = .ok order := rfl
  have horder' : FieldOrder.parse "t,x,y,p" = .ok .txyp := rfl
  have hencoding : Command.encodeGrammar.LeavesOpen "order" {} ["a.csv", "b.raw"]
      { input := "a.csv", output := "b.raw" } := ⟨[], by decide, rfl⟩
  have hdecoding : Command.decodeGrammar.LeavesOpen "order" {}
      ["b.raw", "c.csv", "--triggers", "d.csv", "--mode", "n_events", "--n-events", "1"]
      { input := "b.raw", output := "c.csv", triggers := some "d.csv", mode := .nEvents,
        nEvents := some 1 } := ⟨["n-events", "mode", "triggers"], by decide, rfl⟩
  have htable : Place.of storage "a.csv" = .file ["a.csv"] := rfl
  have hraw : Place.of storage "b.raw" = .file ["b.raw"] := rfl
  have hcsv : Place.of storage "c.csv" = .file ["c.csv"] := rfl
  have htriggers : Place.of storage "d.csv" = .file ["d.csv"] := rfl
  obtain ⟨encoded, decoded, hencode, hencoded, hdecode, hdecoded, hevents, hheading⟩ :=
    decode_encoded_table (g := g) rfl hordered (by decide) horder horder' hencoding hdecoding rfl
      rfl (by decide) rfl rfl hraw (by rw [htable]; decide) hraw hcsv (by decide)
      (by rintro _ ⟨⟩; exact ⟨_, htriggers, by decide, by decide⟩) none none now now
  exact ⟨encoded, decoded, hencode, hencoded, hdecode, hdecoded, hevents,
    hheading "d.csv" _ rfl htriggers⟩

end RoundTrip

end EventCamera
