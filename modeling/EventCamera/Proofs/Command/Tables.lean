import EventCamera.Command.Decode
import EventCamera.Proofs.Command.Files
import EventCamera.Proofs.Csv.Writing
import EventCamera.Proofs.Recording.Lossless

/-!
# Tables of a recording

A recording of events in order is made into a table, window by window, and comes to the table of all
its events, whatever the bounds of windows. The table of triggers, if there is to be one, has
nothing but its heading.

## Main definitions

* `Tables.Hold` — what has been written into the tables so far

## Main results

* `Tables.Hold.add`, `Tables.Hold.flush` — one more window, and the finished tables
* `decodeWindows_of_plays` — all windows
* `decodeRecording_of_recording` — the tables of a recording
-/

namespace EventCamera

/-- The bytes of a table of triggers without any. -/
def Csv.triggerHeadingBytes : List UInt8 := Utf8.encode (triggerHeading.flatMap String.toList)

namespace Tables

/-- The table of triggers, if there is one, is in a file of its own and has only its heading. -/
inductive HoldTriggers (s : Storage) (location : Location) :
    Option Location → Option Outlet → Prop
  | none : HoldTriggers s location none none
  | some {other : Location} {outlet : Outlet} (hne : other ≠ location)
      (h : outlet.Fills s other Csv.triggerHeadingBytes) :
      HoldTriggers s location (some other) (some outlet)

/-- The bytes `bs` have been written into the table of events, which is in the file at `location`.
That of triggers is in the file at `other`, if there is one. -/
structure Hold (t : Tables) (order : FieldOrder) (location : Location) (other : Option Location)
    (bs : List UInt8) : Prop where
  order : t.order = order
  events : t.events.Fills t.storage location bs
  triggers : HoldTriggers t.storage location other t.triggers

variable {t : Tables} {order : FieldOrder} {location : Location} {other : Option Location}
  {bs more : List UInt8}

theorem HoldTriggers.of_sameBut {s s' : Storage} {outlet : Option Outlet}
    (h : HoldTriggers s location other outlet) (hsame : s.SameBut location s') :
    HoldTriggers s' location other outlet := by
  cases h with
  | none => exact .none
  | some hne h => exact .some hne (h.of_sameBut hsame hne)

namespace Hold

/-- Writing into the table of events leaves that of triggers alone. -/
theorem onEvents (h : t.Hold order location other bs)
    (act : BufferedSink → BufferedSink × Except String Unit) {sink : BufferedSink}
    (hact : act t.events.sink = (sink, .ok ())) (hsink : t.events.sink.Advances more sink)
    (failure : List String → Failure) :
    ∃ t', t.onEvents act failure = (t', .ok ()) ∧ t'.Hold order location other (bs ++ more) ∧
      t'.events.sink = sink ∧ t.storage.SameBut location t'.storage := by
  obtain ⟨o', s', hsettle, hfills, hsink', hsame⟩ := h.events.settle hsink
  refine ⟨{ t with events := o', storage := s' }, ?_,
    ⟨h.order, hfills, h.triggers.of_sameBut hsame⟩, hsink', hsame⟩
  rw [Tables.onEvents, hact]
  dsimp only
  rw [hsettle]
  rfl

/-- Writing nothing into the table of triggers leaves that of events alone. -/
theorem onTriggers (h : t.Hold order location other bs)
    (act : BufferedSink → BufferedSink × Except String Unit)
    (hact : ∀ b : BufferedSink, b.IsUnbounded → ∃ b', act b = (b', .ok ()) ∧ b.Advances [] b')
    (failure : List String → Failure) :
    ∃ t', t.onTriggers act failure = (t', .ok ()) ∧ t'.Hold order location other bs ∧
      t'.events = t.events ∧
      ∀ outlet', t'.triggers = some outlet' →
        ∃ b : BufferedSink, b.IsUnbounded ∧ act b = (outlet'.sink, .ok ()) := by
  obtain ⟨horder, hevents, htriggers⟩ := h
  rw [Tables.onTriggers]
  cases houtlet : t.triggers with
  | none =>
    refine ⟨t, rfl, ⟨horder, hevents, htriggers⟩, rfl, ?_⟩
    intro outlet' houtlet'
    cases houtlet.symm.trans houtlet'
  | some outlet =>
    rw [houtlet] at htriggers
    cases htriggers with
    | some hne hfills =>
      obtain ⟨sink, hsink, hadvances⟩ := hact outlet.sink hfills.isUnbounded
      obtain ⟨o', s', hsettle, hfills', hsink', hsame⟩ := hfills.settle hadvances
      rw [List.append_nil] at hfills'
      refine ⟨{ t with triggers := some o', storage := s' }, ?_,
        ⟨horder, hevents.of_sameBut hsame hne.symm, .some hne hfills'⟩, rfl, ?_⟩
      · dsimp only
        rw [hsink]
        dsimp only
        rw [hsettle]
        rfl
      · rintro _ ⟨⟩
        exact ⟨outlet.sink, hfills.isUnbounded, by rw [hsink, hsink']⟩

/-- The events of a window without triggers come behind those of the windows before. -/
theorem add (h : t.Hold order location other bs) {batch : Batch} (hnone : batch.triggers = []) :
    ∃ t', t.add batch = (t', .ok ()) ∧
      t'.Hold order location other (bs ++ Utf8.encode (Csv.eventText order batch.events)) := by
  obtain ⟨sink, hwrite, hsink⟩ :=
    Csv.advances_writeRows (Csv.eventRow order) h.events.isUnbounded batch.events
  rw [Csv.flatMap_eventRow] at hsink
  obtain ⟨t', hevents, ht', -, -⟩ :=
    h.onEvents (fun b => Csv.writeRows (Csv.eventRow t.order) b batch.events)
      (by rw [h.order, hwrite]) hsink (Failure.mk "Failed to write CSV output")
  obtain ⟨t'', htriggers, ht'', -, -⟩ :=
    ht'.onTriggers (fun b => Csv.writeRows Csv.triggerRow b batch.triggers)
      (fun b hb => ⟨b, by rw [hnone]; rfl, hb.advances⟩) (Failure.mk "Failed to write trigger CSV")
  refine ⟨t'', ?_, ht''⟩
  rw [Tables.add, onBoth, hevents]
  exact htriggers

/-- Once the tables are finished, their files hold all that has been written. -/
theorem flush (h : t.Hold order location other bs) :
    ∃ t', t.flush = (t', .ok ()) ∧
      (∃ content, t'.storage.find? location = some content ∧ content.data.toList = bs) ∧
      ∀ location', other = some location' →
        ∃ content, t'.storage.find? location' = some content ∧
          content.data.toList = Csv.triggerHeadingBytes := by
  obtain ⟨sink, hflush, hsink, hall⟩ := h.events.isUnbounded.advances_flush
  obtain ⟨t', hevents, ht', hsink', -⟩ := h.onEvents (·.flush) hflush hsink .bare
  obtain ⟨t'', htriggers, ht'', hsame, hflushed⟩ :=
    ht'.onTriggers (·.flush)
      (fun b hb => hb.advances_flush.imp fun _ hb' => ⟨hb'.1, hb'.2.1⟩) .bare
  refine ⟨t'', ?_, ⟨_, ht''.events.file, ?_⟩, ?_⟩
  · rw [Tables.flush, onBoth, hevents]
    exact htriggers
  · rw [← List.append_nil bs, ← ht''.events.stream, hsame, hsink', hall]
  · rintro location' rfl
    obtain ⟨-, -, hother⟩ := ht''
    cases houtlet : t''.triggers with
    | none =>
      rw [houtlet] at hother
      cases hother
    | some outlet =>
      rw [houtlet] at hother
      cases hother with
      | some _ hfills =>
        obtain ⟨b, hb, hact⟩ := hflushed outlet houtlet
        obtain ⟨b', hflush', -, hall'⟩ := hb.advances_flush
        cases hact.symm.trans hflush'
        exact ⟨_, hfills.file, hall'.trans hfills.stream⟩

end Hold

end Tables

/-! ### All windows -/

section Windows

variable {spool : Spool} {run : DecodeRun} {order : FieldOrder}
  {location : Location} {other : Option Location} {bs : List UInt8}

/-- A window that holds nothing is the end. -/
theorem decodeWindows_of_end (hread : run.reader.read.result = .ok {}) :
    ∃ run', decodeWindows spool run = (run', none) ∧ run'.tables = run.tables := by
  have hempty : ({} : Batch).isEmpty = true := rfl
  have hwindow : ∃ run', decodeWindow spool run = .inr (run', none) ∧
      run'.tables = run.tables := by
    rw [decodeWindow]
    dsimp only
    rw [hread]
    dsimp only
    rw [if_pos hempty]
    exact ⟨_, rfl, rfl⟩
  obtain ⟨run', hstep, htables⟩ := hwindow
  exact ⟨run', untilResult_of_inr hstep, htables⟩

/-- Behind a window, the others follow. -/
theorem decodeWindows_of_window (hspool : spool.location = none) {batch : Batch}
    {tables : Tables}
    (hread : run.reader.read.result = .ok batch) (hnonempty : batch.isEmpty = false)
    (hadd : run.tables.add batch = (tables, .ok ())) :
    ∃ run', decodeWindows spool run = decodeWindows spool run' ∧
      run'.tables = tables ∧ run'.reader = run.reader.read.reader := by
  have hunchanged : spool.isChanged run.tables tables = false := by rw [Spool.isChanged, hspool]
  have hwindow : ∃ run', decodeWindow spool run = .inl run' ∧ run'.tables = tables ∧
      run'.reader = run.reader.read.reader := by
    rw [decodeWindow]
    dsimp only
    rw [hread]
    dsimp only
    rw [if_neg (by rw [hnonempty]; exact Bool.false_ne_true), hadd]
    dsimp only
    rw [hunchanged]
    exact ⟨_, rfl, rfl, rfl⟩
  obtain ⟨run', hstep, hafter⟩ := hwindow
  exact ⟨run', untilResult_of_inl hstep, hafter⟩

/-- The windows of a recording without triggers come into the table one behind the other, if it is
not in the file of the recording. -/
theorem decodeWindows_of_plays (hspool : spool.location = none) {r last : Reader}
    {windows : List Batch} (hplays : r.Plays windows last) (hreader : run.reader = r)
    (hdone : r.done = false) (hnonempty : ∀ b ∈ windows, b.isEmpty = false)
    (hnone : ∀ b ∈ windows, b.triggers = []) (h : run.tables.Hold order location other bs) :
    ∃ run', decodeWindows spool run = (run', none) ∧
      run'.tables.Hold order location other
        (bs ++ Utf8.encode (Csv.eventText order (windows.flatMap (·.events)))) := by
  induction hplays, hdone using Reader.Plays.induction_read generalizing run bs with
  | ended _ _ hread =>
    rw [← hreader] at hread
    obtain ⟨run', hrun, htables⟩ := decodeWindows_of_end hread
    refine ⟨run', hrun, ?_⟩
    rw [htables, List.flatMap_nil, Csv.eventText_nil, Utf8.encode_nil, List.append_nil]
    exact h
  | window _ _ _ _ _ hread ih =>
    rw [List.forall_mem_cons] at hnonempty hnone
    rw [← hreader] at hread
    obtain ⟨tables, hadd, htables⟩ := h.add hnone.1
    obtain ⟨run', hrun, rfl, hreader'⟩ :=
      decodeWindows_of_window hspool hread hnonempty.1 hadd
    obtain ⟨run'', hrun', hall⟩ :=
      ih (hreader'.trans (by rw [hreader])) hnonempty.2 hnone.2 htables
    refine ⟨run'', hrun.trans hrun', ?_⟩
    rw [List.flatMap_cons, Csv.eventText_append, Utf8.encode_append, ← List.append_assoc]
    exact hall

/-- The finished tables of a recording without triggers. -/
theorem decodeInto_of_plays (a : DecodeArguments) (report : Report) (spool : Spool)
    (run : DecodeRun) (hspool : spool.location = none) {last : Reader} {windows : List Batch}
    (hplays : run.reader.Plays windows last) (hdone : run.reader.done = false)
    (hnonempty : ∀ b ∈ windows, b.isEmpty = false) (hnone : ∀ b ∈ windows, b.triggers = [])
    (h : run.tables.Hold order location other bs) :
    let finished := decodeInto a report spool run
    finished.failure = report.failure ∧
      (∃ content, finished.storage.find? location = some content ∧
        content.data.toList =
          bs ++ Utf8.encode (Csv.eventText order (windows.flatMap (·.events)))) ∧
      ∀ location', other = some location' →
        ∃ content, finished.storage.find? location' = some content ∧
          content.data.toList = Csv.triggerHeadingBytes := by
  intro finished
  obtain ⟨run', hrun, htables⟩ := decodeWindows_of_plays hspool hplays rfl hdone
    hnonempty hnone h
  obtain ⟨tables, hflush, hevents, htriggers⟩ := htables.flush
  have hfinished : finished.failure = report.failure ∧ finished.storage = tables.storage := by
    rw [show finished = decodeInto a report spool run from rfl, decodeInto, hrun]
    dsimp only
    rw [hflush]
    exact ⟨rfl, rfl⟩
  obtain ⟨hfailure, hstorage⟩ := hfinished
  rw [hstorage]
  exact ⟨hfailure, hevents, htriggers⟩

end Windows

/-! ### The tables of a recording -/

/-- Where the table of triggers is to be, if there is to be one. -/
def DecodeArguments.triggersAt? (a : DecodeArguments) (storage : Storage) : Option Location :=
  a.triggers.bind fun path => (Place.of storage path).location?

section Recording

variable {a : DecodeArguments} {storage : Storage} {raw location : Location}

/-- Tables that are in different files are begun with their headings. -/
theorem exists_beginTables (size : Geometry) (houtput : Place.of storage a.output = .file location)
    (htriggers : ∀ path, a.triggers = some path →
      ∃ other, Place.of storage path = .file other ∧ other ≠ location) :
    ∃ tables, beginTables a size storage = .ok tables ∧
      tables.Hold a.order location (a.triggersAt? storage)
        (Utf8.encode (Csv.headingText a.order size)) := by
  obtain ⟨s', events, hcreate, hfills, -, hsame⟩ := Storage.create_of_file houtput
  obtain ⟨sink, hwrite, hsink⟩ :=
    Csv.advances_writePieces hfills.isUnbounded (Csv.eventHeading a.order (some size))
  rw [Csv.flatMap_eventHeading] at hsink
  have hempty : Tables.Hold { order := a.order, storage := s', events } a.order location none [] :=
    ⟨rfl, hfills, .none⟩
  obtain ⟨tables, hheading, htables, -, hsame'⟩ :=
    hempty.onEvents (Csv.writePieces · (Csv.eventHeading a.order (some size))) hwrite hsink .bare
  rw [List.nil_append] at htables
  rw [beginTables, hcreate]
  dsimp only
  rw [hheading]
  cases hpath : a.triggers with
  | none =>
    refine ⟨tables, rfl, ?_⟩
    rw [DecodeArguments.triggersAt?, hpath]
    exact htables
  | some path =>
    obtain ⟨other, hplace, hother⟩ := htriggers path hpath
    -- The directories are still those in which the place was found.
    obtain ⟨s'', outlet, hcreate', houtlet, -, hsame''⟩ :=
      Storage.create_of_file ((hsame.trans hsame').place_of hplace)
    obtain ⟨sink', hwrite', hsink'⟩ :=
      Csv.advances_writePieces houtlet.isUnbounded Csv.triggerHeading
    obtain ⟨outlet', s''', hsettle, hfills', -, hlast⟩ := houtlet.settle hsink'
    have hevents := (htables.events.of_sameBut hsame'' hother.symm).of_sameBut hlast hother.symm
    dsimp only
    rw [hcreate']
    dsimp only
    rw [Tables.onTriggers]
    dsimp only
    rw [hwrite']
    dsimp only
    rw [hsettle]
    refine ⟨_, rfl, htables.order, hevents, ?_⟩
    rw [DecodeArguments.triggersAt?, hpath, Option.bind_some, hplace]
    exact .some hother hfills'

/-- A file in which there is no table does not change while it is read. -/
theorem Spool.location_of {tables : Tables} {other : Option Location} {bs : List UInt8}
    (hinput : Place.of storage a.input = .file raw)
    (h : tables.Hold a.order location other bs) (hraw : location ≠ raw)
    (hother : other ≠ some raw) : Spool.of storage a.input tables = {} := by
  have hevents : ¬ tables.events.place = .file raw := by
    rw [h.events.place]
    exact fun hplace => hraw (Place.file.inj hplace)
  have htriggers : tables.triggers.any (fun o => o.place = .file raw) = false := by
    obtain ⟨-, -, hnone⟩ := h
    cases houtlet : tables.triggers with
    | none => rfl
    | some outlet =>
      rw [houtlet] at hnone
      cases hnone with
      | some _ hfills =>
        have hplace : ¬ outlet.place = .file raw := by
          rw [hfills.place]
          exact fun hplace => hother (congrArg some (Place.file.inj hplace))
        simp [hplace]
  have hareIn : tables.areIn raw = false := by
    rw [Tables.areIn, htriggers, Bool.or_false, decide_eq_false_iff_not]
    exact hevents
  rw [Spool.of, hinput]
  dsimp only [Place.location?]
  rw [hareIn]
  rfl

/-- A file is a plain source of its bytes. -/
theorem isPlain_ofFile (content : List UInt8) :
    (Source.ofFile content).IsPlain ∧ (Source.ofFile content).content = content := by
  have hempty : Source.IsPlain [] := fun _ h => absurd h List.not_mem_nil
  refine ⟨(hempty.cons_bytes _).cons_bytes _, ?_⟩
  -- What has been loaded is the beginning, and the rest follows.
  obtain ⟨n, hloaded⟩ : ∃ n, loadedPart content = content.take n := ⟨_, rfl⟩
  rw [Source.ofFile, Source.resume, Source.content_bytes, Source.content_bytes,
    Source.content_nil, List.append_nil, List.drop_zero, Nat.zero_max, hloaded, List.length_take,
    List.take_eq_take_min, List.take_append_drop]

/-- A recording of events in order is made into the table of them, if that is in another file. That
of triggers, if there is to be one in a third file, is its heading. -/
theorem decodeRecording_of_recording {o : WriterOptions} {now : DateTime} {es : List Event}
    {window : Window} {recording : ByteArray} (hfits : o.size.isAddressable = true)
    (hformat : o.format = .evt3) (hserial : '\n' ∉ o.serialNumber.toList)
    (hordered : es.Pairwise (·.t ≤ ·.t)) (hfields : ∀ e ∈ es, e.x ≤ 2047 ∧ e.y ≤ 2047 ∧ e.p ≤ 1)
    (hwindow : a.readerOptions.window = .ok window)
    (hinput : Place.of storage a.input = .file raw)
    (hfile : storage.find? raw = some recording)
    (hrecording : recording.data.toList = o.recording now es)
    (houtput : Place.of storage a.output = .file location) (hraw : location ≠ raw)
    (htriggers : ∀ path, a.triggers = some path →
      ∃ other, Place.of storage path = .file other ∧ other ≠ location ∧ other ≠ raw) :
    let report := decodeRecording a storage
    report.failure = none ∧
      report.storage.find? location = some (Csv.tableBytes a.order (some o.size) es) ∧
      ∀ path other, a.triggers = some path → Place.of storage path = .file other →
        report.storage.find? other = some "t,p,id\n".toUTF8 := by
  intro report
  obtain ⟨hplain, hcontent⟩ := isPlain_ofFile (o.recording now es)
  obtain ⟨r, last, windows, hopen, hplays, hdone, hsize, hflatten, hnonempty, -⟩ :=
    WriterOptions.exists_windows hfits hformat hserial hordered hfields hwindow hplain hcontent
  have hopening : (openRecording a.readerOptions storage a.input).result = .ok r := by
    rw [openRecording, hwindow]
    dsimp only
    rw [Storage.read, hinput]
    dsimp only
    rw [hfile, ← hopen, ← hrecording, ← toList_eq_toList_data]
    rfl
  obtain ⟨tables, hbegin, htables⟩ :=
    exists_beginTables r.header.size houtput fun path hpath =>
      (htriggers path hpath).imp fun _ hother => ⟨hother.1, hother.2.1⟩
  have hother : a.triggersAt? storage ≠ some raw := by
    intro hsome
    obtain ⟨path, hpath, hlocation⟩ := Option.bind_eq_some_iff.1 hsome
    obtain ⟨other, hplace, -, hne⟩ := htriggers path hpath
    rw [hplace] at hlocation
    exact hne (Option.some.inj hlocation)
  have hspool := Spool.location_of hinput htables hraw hother
  have hevents : windows.flatMap (·.events) = es := by rw [← Batch.events_flatten, hflatten]
  have hnone : ∀ b ∈ windows, b.triggers = [] := by
    rw [← List.flatMap_eq_nil_iff, ← Batch.triggers_flatten, hflatten]
  have hreport : ∃ begun : Report, begun.failure = none ∧
      report = decodeInto a begun {} { reader := r, tables } := by
    rw [show report = decodeRecording a storage from rfl, decodeRecording]
    dsimp only
    rw [hopening]
    dsimp only
    rw [hbegin]
    dsimp only
    rw [hspool]
    exact ⟨_, rfl, rfl⟩
  obtain ⟨begun, hbegun, hreport⟩ := hreport
  obtain ⟨hfailure, ⟨content, hfind, hbytes⟩, hheadings⟩ :=
    decodeInto_of_plays a begun {} { reader := r, tables } rfl hplays hdone hnonempty hnone htables
  rw [← hreport] at hfailure hfind hheadings
  refine ⟨hfailure.trans hbegun, ?_, ?_⟩
  · rw [hfind, Option.some.injEq]
    apply eq_of_toList_data
    rw [hbytes, hevents, hsize, Csv.toList_tableBytes, Utf8.encode_append]
  · intro path other hpath hplace
    have hsome : a.triggersAt? storage = some other := by
      rw [DecodeArguments.triggersAt?, hpath, Option.bind_some, hplace]
      rfl
    obtain ⟨content', hfind', hbytes'⟩ := hheadings other hsome
    rw [hfind', Option.some.injEq]
    apply eq_of_toList_data
    rw [hbytes', toList_toUTF8]
    rfl

end Recording

end EventCamera
