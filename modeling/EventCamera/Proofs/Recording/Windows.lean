import EventCamera.Proofs.Header.Extent
import EventCamera.Proofs.Recording.Playing

/-!
# The windows of a recording

Reading a recording whose events are in order of time divides these into windows. Where the windows
end follows from the bounds alone, except where a window may end at either of them: there the size
of the chunks decides.

## Main definitions

* `Source.events` — the events of a recording
* `eventWindows` — the events of the windows that hold any

## Main results

* `Reader.Plays.result_after` — calls return the windows in turn, and then nothing
* `Reader.Plays.exists_divides` — the windows divide the events that are ahead of the reader
* `exists_division` — a recording is opened and read to its end, and its windows divide its events
* `windows_bounded_by_span` — what bounds the windows of a recording
* `windows_divide_by_number` — the windows of a recording that no span bounds
* `windows_agree` — how far the windows of two readings of one recording agree
-/

namespace EventCamera

/-- The events of a recording: those of the words behind its header, up to the end of the source or
to an empty read, which is taken for the end. -/
def Source.events (source : Source) : List Event :=
  (decodeFinal {} (words (Header.read source).source.reach)).events.toList

/-- The events of the windows that hold any. A window may also hold nothing but triggers. -/
def eventWindows (windows : List Batch) : List (List Event) :=
  (windows.map (·.events)).filter fun es => !es.isEmpty

namespace Reader

variable {r last : Reader} {bs : List Batch} {es : List Event}

/-! ### Behind the end -/

/-- At the end, there is nothing to gather and nothing to hand out. -/
theorem read_of_isEndOfStream (h : r.isEndOfStream = true)
    (himplemented : r.header.payloadFormat.isImplemented = true) :
    r.read = { reader := r, result := .ok {} } := by
  simp only [isEndOfStream, Bool.and_eq_true, List.isEmpty_iff] at h
  obtain ⟨⟨hex, hevents⟩, htriggers⟩ := h
  have hgather : r.gather #[] = { reader := r, result := .ok .endOfStream, notices := #[] } := by
    rw [gather, hevents, Window.exitReason?_nil]
    simp [hex]
  have hout : r.handOut .endOfStream = (r, {}) := by
    obtain ⟨⟩ := r
    simp_all [handOut, splitTriggers]
  simp [read, himplemented, hgather, hout]

theorem after_of_isEndOfStream (h : r.isEndOfStream = true)
    (himplemented : r.header.payloadFormat.isImplemented = true) (k : Nat) : r.after k = r := by
  induction k with
  | zero => rfl
  | succ k ih => rw [after_succ, ih, read_of_isEndOfStream h himplemented]

theorem Plays.eq_nil_of_isEndOfStream (h : r.Plays bs last) (hend : r.isEndOfStream = true)
    (himplemented : r.header.payloadFormat.isImplemented = true) (hdone : r.done = false) :
    bs = [] := by
  cases h with
  | ended => rfl
  | window hsome =>
    have hread := read_of_isEndOfStream hend himplemented
    simp [next, hdone, hread, hend, Batch.isEmpty] at hsome

/-! ### All windows -/

theorem after_succ' (r : Reader) (k : Nat) : r.after (k + 1) = r.read.reader.after k :=
  Function.iterate_succ_apply _ k r

/-- Calls return the windows in turn. When there are no more, they return nothing, again and
again. -/
theorem Plays.result_after (h : r.Plays bs last)
    (himplemented : r.header.payloadFormat.isImplemented = true) (hdone : r.done = false)
    (k : Nat) : (r.after k).read.result = .ok (bs.getD k {}) := by
  induction h, hdone using Plays.induction_read generalizing k with
  | ended _ _ hread hend =>
    cases k with
    | zero => exact hread
    | succ k =>
      rw [← (read_keeps _).1] at himplemented
      rw [after_succ', after_of_isEndOfStream hend himplemented,
        read_of_isEndOfStream hend himplemented]
      rfl
  | window _ _ _ _ _ hread ih =>
    cases k with
    | zero => exact hread
    | succ k =>
      rw [← (read_keeps _).1] at himplemented
      rw [after_succ', ih himplemented k, List.getD_cons_succ]

/-- The windows divide the events that are ahead, and behind them there may be one that holds only
triggers. There is none if the windows leave off before they are full. -/
theorem Plays.exists_divides (h : r.Plays bs last) (hahead : r.Ahead es)
    (himplemented : r.header.payloadFormat.isImplemented = true)
    (ho : r.window.CanDivide es) (hdone : r.done = false) :
    ∃ parts trail, bs.map (·.events) = parts ++ trail ∧ r.window.Divides es parts ∧
      (∀ part ∈ trail, part = []) ∧
      (es ≠ [] → es.length < r.window.maxEvents.toNat → trail = []) := by
  -- Each of the windows is a cut of what is ahead.
  induction h, hdone using Plays.induction_read generalizing es with
  | ended _ _ hread =>
    obtain ⟨b, n, hread', hcut, hevents, -, -⟩ := hahead.read himplemented ho
    cases hread.symm.trans hread'
    obtain rfl : es = [] := hcut.take_eq_nil_iff.1 hevents.symm
    exact ⟨[], [], rfl, .done, by simp, fun _ _ => rfl⟩
  | @window r last b bs _ _ rest hsame _ hread ih =>
    obtain ⟨hheader, -, hwindow, -⟩ := read_keeps r
    obtain ⟨b', n, hread', hcut, hevents, hahead', hend⟩ := hahead.read himplemented ho
    cases hread.symm.trans hread'
    rw [← hheader] at himplemented
    obtain ⟨parts, trail, hmap, hdivides, htrail, hnone⟩ :=
      ih hahead' himplemented (hwindow ▸ ho.drop n)
    rw [hwindow] at hdivides hnone
    by_cases hes : es = []
    · -- Without an event, this window and those behind it hold only triggers.
      subst hes
      rw [List.drop_nil] at hdivides
      obtain rfl := hdivides.eq_nil
      refine ⟨[], b.events :: trail, by rw [List.map_cons, hmap]; rfl, .done, ?_, ?_⟩
      · intro part hpart
        rcases List.mem_cons.1 hpart with rfl | hpart
        · rw [hevents, List.take_nil]
        · exact htrail part hpart
      · intro hnil
        exact absurd rfl hnil
    · refine ⟨es.take n :: parts, trail, ?_, .window hes hcut hdivides, htrail, ?_⟩
      · rw [List.map_cons, hmap, hevents, List.cons_append]
      · intro _ hfew
        by_cases hleft : es.drop n = []
        · -- This window is the last one.
          obtain rfl := rest.eq_nil_of_isEndOfStream
            (hend (Nat.lt_of_le_of_lt hcut.le_length hfew) hleft) himplemented hsame
          exact (List.append_eq_nil_iff.1 hmap.symm).2
        · exact hnone hleft (Nat.lt_of_le_of_lt (List.drop_sublist _ _).length_le hfew)

/-- A recording whose header can be read is opened, and the reader stands in front of the words. -/
theorem exists_opening {options : ReaderOptions} {window : Window} {source : Source}
    {header : Header} (hwindow : options.window = .ok window)
    (hheader : (Header.read source).result = .ok header) :
    ∃ r : Reader, (openSource options source).result = .ok r ∧ r.window = window ∧
      r.header = header ∧ r.carry = {} ∧ r.done = false ∧
      r.payload =
        { source := (Header.read source).source, chunkWords := options.chunkWords } := by
  rw [openSource, hwindow]
  dsimp only
  rw [hheader]
  exact ⟨_, rfl, rfl, rfl, rfl, rfl, rfl⟩

/-- A reader that has just been opened has the events of the recording ahead. -/
theorem exists_ahead {options : ReaderOptions} {window : Window} {source : Source}
    {header : Header} (hwindow : options.window = .ok window) (hsource : source.IsFaultless)
    (hheader : (Header.read source).result = .ok header)
    (hformat : header.payloadFormat = .evt3) :
    ∃ r : Reader, (openSource options source).result = .ok r ∧ r.window = window ∧
      r.header.payloadFormat.isImplemented = true ∧ r.carry = {} ∧ r.done = false ∧
      r.payload = { source := (Header.read source).source, chunkWords := options.chunkWords } ∧
      r.Ahead source.events := by
  obtain ⟨r, hopen, hsame, rfl, hcarry, hdone, hpayload⟩ := exists_opening hwindow hheader
  exact ⟨r, hopen, hsame, hformat ▸ rfl, hcarry, hdone, hpayload,
    ahead_of_isFaultless hpayload (Header.isFaultless_of_read hsource) hcarry⟩

end Reader

/-- A recording that its window can divide is opened and read to its end without an error. The
windows divide its events, and behind them there may be one that holds only triggers. -/
theorem exists_division_of_canDivide {options : ReaderOptions} {window : Window} {source : Source}
    {header : Header} (hwindow : options.window = .ok window) (hsource : source.IsFaultless)
    (hheader : (Header.read source).result = .ok header) (hformat : header.payloadFormat = .evt3)
    (ho : window.CanDivide source.events) :
    ∃ (r last : Reader) (windows : List Batch) (parts trail : List (List Event)),
      (Reader.openSource options source).result = .ok r ∧ r.Plays windows last ∧
      (∀ k, (r.after k).read.result = .ok (windows.getD k {})) ∧
      windows.map (·.events) = parts ++ trail ∧ window.Divides source.events parts ∧
      (∀ part ∈ trail, part = []) ∧
      (source.events ≠ [] → source.events.length < window.maxEvents.toNat → trail = []) := by
  obtain ⟨r, hopen, rfl, himplemented, -, hdone, -, hahead⟩ :=
    Reader.exists_ahead hwindow hsource hheader hformat
  obtain ⟨windows, last, hplays⟩ := hahead.exists_plays himplemented ho hdone
  obtain ⟨parts, trail, hmap, hdivides, htrail, hnone⟩ :=
    hplays.exists_divides hahead himplemented ho hdone
  exact ⟨r, last, windows, parts, trail, hopen, hplays, hplays.result_after himplemented hdone,
    hmap, hdivides, htrail, hnone⟩

/-- Events in order can be divided by any window. -/
theorem exists_division {options : ReaderOptions} {window : Window} {source : Source}
    {header : Header} (hwindow : options.window = .ok window) (hsource : source.IsFaultless)
    (hheader : (Header.read source).result = .ok header) (hformat : header.payloadFormat = .evt3)
    (hordered : source.events.Pairwise (·.t ≤ ·.t)) :
    ∃ (r last : Reader) (windows : List Batch) (parts trail : List (List Event)),
      (Reader.openSource options source).result = .ok r ∧ r.Plays windows last ∧
      (∀ k, (r.after k).read.result = .ok (windows.getD k {})) ∧
      windows.map (·.events) = parts ++ trail ∧ window.Divides source.events parts ∧
      (∀ part ∈ trail, part = []) ∧
      (source.events ≠ [] → source.events.length < window.maxEvents.toNat → trail = []) :=
  exists_division_of_canDivide hwindow hsource hheader hformat
    (Window.canDivide_of_pairwise hordered)

/-- The windows that hold events are the parts of the division. -/
theorem eventWindows_eq {window : Window} {es : List Event} {windows : List Batch}
    {parts trail : List (List Event)} (hmap : windows.map (·.events) = parts ++ trail)
    (hdivides : window.Divides es parts) (htrail : ∀ part ∈ trail, part = []) :
    eventWindows windows = parts := by
  have hparts : parts.filter (fun es => !es.isEmpty) = parts := by
    rw [List.filter_eq_self]
    intro part hpart
    simpa using hdivides.ne_nil part hpart
  have hnone : trail.filter (fun es => !es.isEmpty) = [] := by
    rw [List.filter_eq_nil_iff]
    intro part hpart
    simp [htrail part hpart]
  rw [eventWindows, hmap, List.filter_append, hparts, hnone, List.append_nil]

/-- A recording of events in order is divided into windows that hold no more events than they may
and, unless they are full, end only where the next event is beyond their span. With fewer events in
all, the span alone decides, whatever the chunks are. -/
theorem windows_bounded_by_span {options : ReaderOptions} {window : Window} {source : Source}
    {header : Header} (hwindow : options.window = .ok window)
    (hmode : window.mode = .deltaT ∨ window.mode = .mixed) (hsource : source.IsFaultless)
    (hheader : (Header.read source).result = .ok header) (hformat : header.payloadFormat = .evt3)
    (hordered : source.events.Pairwise (·.t ≤ ·.t)) :
    ∃ (r last : Reader) (windows : List Batch),
      (Reader.openSource options source).result = .ok r ∧ r.Plays windows last ∧
      (∀ k, (r.after k).read.result = .ok (windows.getD k {})) ∧
      windows.flatMap (·.events) = source.events ∧
      (∀ before b later, windows = before ++ b :: later →
        window.Bounds b.events (later.map (·.events))) ∧
      (source.events.length < window.maxEvents.toNat →
        eventWindows windows = divideBySpan window.deltaT.toNat source.events ∧
        (source.events ≠ [] →
          windows.map (·.events) = divideBySpan window.deltaT.toNat source.events)) := by
  obtain ⟨r, last, windows, parts, trail, hopen, hplays, hreads, hmap, hdivides, htrail, hnone⟩ :=
    exists_division hwindow hsource hheader hformat hordered
  have hb : window.isTimeBounded = true := by
    rcases hmode with hmode | hmode <;> rw [Window.isTimeBounded, hmode]
  refine ⟨r, last, windows, hopen, hplays, hreads, ?_, ?_, ?_⟩
  · have hflat : trail.flatten = [] := List.flatten_eq_nil_iff.2 htrail
    rw [List.flatMap_def, hmap, List.flatten_append, hdivides.flatten, hflat, List.append_nil]
  · rintro before b later rfl
    rw [List.map_append, List.map_cons] at hmap
    exact hdivides.bounds htrail hmap.symm
  · intro hfew
    have hparts := hdivides.eq_divideBySpan hb hfew
    refine ⟨(eventWindows_eq hmap hdivides htrail).trans hparts, ?_⟩
    intro hsome
    rw [hmap, hnone hsome hfew, List.append_nil, hparts]

/-- A recording of three events, the last two of them beyond the span of the first. It is cut
between the bytes of a word, and what comes behind an empty read is not read. -/
def threeEvents : Source :=
  [.bytes Header.bare, .bytes [0x00, 0x80, 0x00, 0x60, 0x01, 0x00, 0x01], .interruption,
    .bytes [0x28, 0xC8, 0x60, 0x02, 0x28, 0xD2, 0x60, 0x03, 0x28], .pause, .bytes [0x04, 0x28]]

theorem windows_bounded_by_span_of_threeEvents :
    ∃ (r last : Reader) (windows : List Batch),
      (Reader.openSource { deltaT := some 100, nEvents := some 4, chunkWords := 1 }
        threeEvents).result = .ok r ∧
      r.Plays windows last ∧
      windows.map (·.events) = [[⟨0, 1, 1, 1⟩], [⟨200, 2, 1, 1⟩, ⟨210, 3, 1, 1⟩]] := by
  have hfaultless : threeEvents.IsFaultless := by simp [threeEvents, Source.IsFaultless]
  have hread := Header.read_of_bare threeEvents.tail
  change Header.read threeEvents = _ at hread
  have hevents : threeEvents.events = [⟨0, 1, 1, 1⟩, ⟨200, 2, 1, 1⟩, ⟨210, 3, 1, 1⟩] := by
    rw [Source.events, hread]
    decide
  have hwindow : ({ deltaT := some 100, nEvents := some 4, chunkWords := 1 } :
      ReaderOptions).window = .ok { deltaT := 100, maxEvents := 4 } := by decide
  obtain ⟨r, last, windows, hopen, hplays, -, -, -, hdivided⟩ :=
    windows_bounded_by_span hwindow (.inr rfl) hfaultless (by rw [hread]; rfl) (by decide)
      (by rw [hevents]; decide)
  rw [hevents] at hdivided
  refine ⟨r, last, windows, hopen, hplays, ?_⟩
  rw [(hdivided (by decide)).2 (by decide)]
  simp [divideBySpan]

/-- Without a bound on the span, the windows that hold events are the events of the recording
divided by number alone. Neither their times nor the chunks have a part in it. -/
theorem windows_divide_by_number {options : ReaderOptions} {window : Window} {source : Source}
    {header : Header} (hwindow : options.window = .ok window)
    (hmode : window.mode = .nEvents ∨ window.mode = .all) (hsource : source.IsFaultless)
    (hheader : (Header.read source).result = .ok header)
    (hformat : header.payloadFormat = .evt3) :
    ∃ (r last : Reader) (windows : List Batch),
      (Reader.openSource options source).result = .ok r ∧ r.Plays windows last ∧
      (∀ k, (r.after k).read.result = .ok (windows.getD k {})) ∧
      let parts := eventWindows windows
      parts = source.events.toChunks window.maxEvents.toNat ∧ parts.flatten = source.events ∧
      (∀ part ∈ parts.dropLast, part.length = window.maxEvents.toNat) ∧
      ∀ part ∈ parts, part ≠ [] ∧ part.length ≤ window.maxEvents.toNat := by
  have hb : ¬window.isTimeBounded = true := by
    rcases hmode with hmode | hmode <;> simp [Window.isTimeBounded, hmode]
  obtain ⟨r, last, windows, parts, trail, hopen, hplays, hreads, hmap, hdivides, htrail, -⟩ :=
    exists_division_of_canDivide hwindow hsource hheader hformat
      (Window.canDivide_of_not_isTimeBounded hb)
  refine ⟨r, last, windows, hopen, hplays, hreads, ?_⟩
  rw [eventWindows_eq hmap hdivides htrail]
  exact ⟨hdivides.eq_toChunks hb, hdivides.flatten, hdivides.length_of_mem_dropLast hb,
    fun part hpart => ⟨hdivides.ne_nil part hpart, hdivides.length_le part hpart⟩⟩

/-- A recording in which the time goes back and a vector group brings more events than a window may
hold. It is cut between the bytes of a word. -/
def sixEvents : Source :=
  [.bytes Header.bare, .bytes [0x00, 0x80, 0x05, 0x60, 0x01, 0x20, 0x03], .interruption,
    .bytes [0x60, 0x02, 0x20, 0x10, 0x30, 0x07, 0x40, 0x00, 0x40, 0x00, 0x50, 0x04, 0x20]]

theorem windows_divide_by_number_of_sixEvents :
    ∃ (r last : Reader) (windows : List Batch),
      (Reader.openSource { nEvents := some 4, chunkWords := 1 } sixEvents).result = .ok r ∧
      r.Plays windows last ∧
      eventWindows windows = [[⟨5, 1, 0, 0⟩, ⟨3, 2, 0, 0⟩, ⟨3, 16, 0, 0⟩, ⟨3, 17, 0, 0⟩],
        [⟨3, 18, 0, 0⟩, ⟨3, 4, 0, 0⟩]] := by
  have hfaultless : sixEvents.IsFaultless := by simp [sixEvents, Source.IsFaultless]
  have hread := Header.read_of_bare sixEvents.tail
  change Header.read sixEvents = _ at hread
  have hevents : sixEvents.events = [⟨5, 1, 0, 0⟩, ⟨3, 2, 0, 0⟩, ⟨3, 16, 0, 0⟩, ⟨3, 17, 0, 0⟩,
      ⟨3, 18, 0, 0⟩, ⟨3, 4, 0, 0⟩] := by
    rw [Source.events, hread]
    decide
  have hwindow : ({ nEvents := some 4, chunkWords := 1 } : ReaderOptions).window =
      .ok { mode := .nEvents, deltaT := 1000000000000, maxEvents := 4 } := by decide
  obtain ⟨r, last, windows, hopen, hplays, -, hparts, -⟩ :=
    windows_divide_by_number hwindow (.inl rfl) hfaultless (by rw [hread]; rfl) (by decide)
  refine ⟨r, last, windows, hopen, hplays, ?_⟩
  rw [hparts, hevents]
  decide

/-! ### However a recording is cut -/

/-- A recording is the same however a plain source is cut. -/
theorem events_eq_of_content_eq {source source' : Source} (hsource : source.IsPlain)
    (hsource' : source'.IsPlain) (hsame : source.content = source'.content) :
    source.events = source'.events ∧ ∃ header,
      (Header.read source).result = .ok header ∧ (Header.read source').result = .ok header := by
  obtain ⟨hheader, -, hplain, hrest⟩ := Header.read_of_isPlain hsource
  obtain ⟨hheader', -, hplain', hrest'⟩ := Header.read_of_isPlain hsource'
  rw [← hsame] at hheader' hrest'
  refine ⟨?_, _, hheader, hheader'⟩
  rw [Source.events, Source.events, hplain.isSteady.reach_eq, hplain'.isSteady.reach_eq,
    List.append_cancel_left (hrest.symm.trans hrest')]

/-- Two readings of the same bytes, whatever the chunks of either are and wherever its source is
cut, divide the same events. The windows that hold events agree up to the first that may end at
either bound, and so they all agree if no window can. -/
theorem windows_agree {options options' : ReaderOptions} {window : Window}
    (hwindow : options.window = .ok window) (hwindow' : options'.window = .ok window)
    {source source' : Source} (hsource : source.IsPlain) (hsource' : source'.IsPlain)
    (hsame : source.content = source'.content)
    (hformat : ∀ header, (Header.read source).result = .ok header → header.payloadFormat = .evt3)
    (hordered : source.events.Pairwise (·.t ≤ ·.t)) :
    ∃ (r last r' last' : Reader) (windows windows' : List Batch),
      (Reader.openSource options source).result = .ok r ∧ r.Plays windows last ∧
      (Reader.openSource options' source').result = .ok r' ∧ r'.Plays windows' last' ∧
      window.Divides source.events (eventWindows windows) ∧
      window.Divides source.events (eventWindows windows') ∧
      (∀ k, (∀ j < k, ¬window.Contested ((eventWindows windows).drop j).flatten) →
        (eventWindows windows).take k = (eventWindows windows').take k) ∧
      ((∀ k, ¬window.Contested (source.events.drop k)) →
        eventWindows windows = eventWindows windows') := by
  obtain ⟨hevents, header, hheader, hheader'⟩ := events_eq_of_content_eq hsource hsource' hsame
  have hevt3 := hformat header hheader
  obtain ⟨r, last, windows, parts, trail, hopen, hplays, -, hmap, hdivides, htrail, -⟩ :=
    exists_division hwindow hsource.isSteady.isFaultless hheader hevt3 hordered
  obtain ⟨r', last', windows', parts', trail', hopen', hplays', -, hmap', hdivides', htrail', -⟩ :=
    exists_division hwindow' hsource'.isSteady.isFaultless hheader' hevt3 (hevents ▸ hordered)
  rw [← hevents] at hdivides'
  refine ⟨r, last, r', last', windows, windows', hopen, hplays, hopen', hplays', ?_⟩
  rw [eventWindows_eq hmap hdivides htrail, eventWindows_eq hmap' hdivides' htrail']
  exact ⟨hdivides, hdivides', fun k => hdivides.take_eq hordered hdivides',
    hdivides.unique hordered hdivides'⟩

/-- A recording of three events, each with its time and its row. -/
def threeRows : Source :=
  [.bytes Header.bare, .bytes [0x00, 0x80, 0x00, 0x60, 0x01, 0x00, 0x01, 0x28, 0xC8, 0x60, 0x02,
    0x00, 0x02, 0x28, 0xD2, 0x60, 0x03, 0x00, 0x03, 0x28]]

theorem isPlain_threeRows : threeRows.IsPlain := by
  simp [threeRows, Source.IsPlain]

theorem read_threeRows :
    Header.read threeRows = Header.finishRead {} 6 #[] (.bytes [] :: threeRows.tail) true :=
  Header.read_of_bare threeRows.tail

theorem events_threeRows :
    threeRows.events = [⟨0, 1, 1, 1⟩, ⟨200, 2, 2, 1⟩, ⟨210, 3, 3, 1⟩] := by
  rw [Source.events, read_threeRows]
  decide

/-- Where no two neighbours are further apart than the span, windows of two agree. -/
theorem windows_agree_of_threeRows :
    ∃ (r last r' last' : Reader) (windows windows' : List Batch),
      (Reader.openSource { deltaT := some 250, nEvents := some 2, chunkWords := 1 }
        threeRows).result = .ok r ∧ r.Plays windows last ∧
      (Reader.openSource { mode := .mixed, deltaT := some 250, nEvents := some 2 }
        [.bytes threeRows.content]).result = .ok r' ∧ r'.Plays windows' last' ∧
      eventWindows windows = eventWindows windows' := by
  have hformat : ∀ header, (Header.read threeRows).result = .ok header →
      header.payloadFormat = .evt3 := by
    intro header hheader
    rw [read_threeRows] at hheader
    cases hheader
    decide
  have hwhole : Source.IsPlain [.bytes threeRows.content] := by simp [Source.IsPlain]
  have hwindow : ({ deltaT := some 250, nEvents := some 2, chunkWords := 1 } :
      ReaderOptions).window = .ok { deltaT := 250, maxEvents := 2 } := rfl
  have hwindow' : ({ mode := .mixed, deltaT := some 250, nEvents := some 2 } :
      ReaderOptions).window = .ok { deltaT := 250, maxEvents := 2 } := rfl
  obtain ⟨r, last, r', last', windows, windows', hopen, hplays, hopen', hplays', -, -, -, hagree⟩ :=
    windows_agree hwindow hwindow' isPlain_threeRows hwhole (List.append_nil _).symm hformat
      (by rw [events_threeRows]; decide)
  refine ⟨r, last, r', last', windows, windows', hopen, hplays, hopen', hplays', hagree ?_⟩
  intro k
  rw [events_threeRows]
  rintro ⟨-, first, second, hfirst, hsecond, hbeyond⟩
  match k with
  | 0 =>
    cases hfirst
    cases hsecond
    exact absurd hbeyond (by decide)
  | 1 =>
    cases hfirst
    cases hsecond
    exact absurd hbeyond (by decide)
  | k + 2 => cases k <;> simp at hsecond hfirst

/-- The reader that stands in front of the words of that recording. -/
def threeRowsReader (chunkWords : Nat) : Reader where
  header := ({} : Header).resolve.1
  headerLength := 6
  window := { deltaT := 100, maxEvents := 3 }
  payload := { source := .bytes [] :: threeRows.tail, chunkWords }

/-- Three events fill a window that may hold three, though the last two are beyond the span of the
first. If they are gathered at once, they go out at once; in chunks of four words, the first goes
out alone. -/
theorem windows_depend_on_chunks :
    ∃ (window : Window) (few many : ReaderOptions),
      window.mode = .mixed ∧ few.window = .ok window ∧ many.window = .ok window ∧
      threeRows.IsPlain ∧ threeRows.events.Pairwise (·.t ≤ ·.t) ∧
      ∃ (r last r' last' : Reader) (windows windows' : List Batch),
        (Reader.openSource few threeRows).result = .ok r ∧ r.Plays windows last ∧
        (Reader.openSource many threeRows).result = .ok r' ∧ r'.Plays windows' last' ∧
        r.header.payloadFormat = .evt3 ∧
        eventWindows windows = [[⟨0, 1, 1, 1⟩], [⟨200, 2, 2, 1⟩, ⟨210, 3, 3, 1⟩]] ∧
        eventWindows windows' = [[⟨0, 1, 1, 1⟩, ⟨200, 2, 2, 1⟩, ⟨210, 3, 3, 1⟩]] := by
  let options (chunkWords : Nat) : ReaderOptions :=
    { mode := .mixed, deltaT := some 100, nEvents := some 3, chunkWords }
  have hwindow (chunkWords : Nat) :
      (options chunkWords).window = .ok { deltaT := 100, maxEvents := 3 } := rfl
  have hopen (chunkWords : Nat) :
      (Reader.openSource (options chunkWords) threeRows).result =
        .ok (threeRowsReader chunkWords) := by
    rw [Reader.openSource, hwindow, read_threeRows]
    rfl
  have hordered : threeRows.events.Pairwise (·.t ≤ ·.t) := by
    rw [events_threeRows]
    decide
  have hfew : (threeRowsReader 4).Plays
      [⟨[⟨0, 1, 1, 1⟩], []⟩, ⟨[⟨200, 2, 2, 1⟩, ⟨210, 3, 3, 1⟩], []⟩] _ :=
    .window (by decide +kernel) (.window (by decide +kernel) (.ended (by decide +kernel)))
  have hmany : (threeRowsReader 1000000).Plays
      [⟨[⟨0, 1, 1, 1⟩, ⟨200, 2, 2, 1⟩, ⟨210, 3, 3, 1⟩], []⟩] _ :=
    .window (by decide +kernel) (.ended (by decide +kernel))
  exact ⟨_, options 4, options 1000000, rfl, hwindow 4, hwindow 1000000, isPlain_threeRows,
    hordered, _, _, _, _, _, _, hopen 4, hfew, hopen 1000000, hmany, by decide, rfl, rfl⟩

end EventCamera
