import EventCamera.Proofs.Header.Extent
import EventCamera.Proofs.Recording.Progress

/-!
# Interrupted reads

A read that is interrupted is tried again, within a line of the header as well as between words, so
that its reader is not told. Only a reader that looks for the next line of the header does not try
again: it passes the interruption on, and the recording is not opened. So an interruption is either
hidden from everything that follows, or it is the end of the reading before that has begun.

## Main definitions

* `Source.calm`, `Payload.calm`, `Reader.calm` — the same reads without the interruptions
* `Header.Place` — where in the reading of a header a moment falls
* `Header.isInterrupted` — an interruption stands where a line of a header would start
* `Reader.Agree` — two readers give the same, whatever is asked for

## Main results

* `Header.readLines_of_interrupted`, `Header.readLines_calm` — what interruptions do to a header
* `Reader.read_calm`, `Reader.next_calm` — they do nothing to the windows
* `interruptions_hidden_behind_line_starts` — which interruptions a reader is told
* `interruption_shown_at_line_start` — one that it is told
-/

namespace EventCamera

/-! ### Sources -/

namespace Source

/-- The same reads without the interruptions. -/
def calm (src : Source) : Source := src.filter (· ≠ .interruption)

@[simp] theorem calm_nil : calm [] = [] := rfl

@[simp] theorem calm_bytes (bs : List UInt8) (src : Source) :
    calm (.bytes bs :: src) = .bytes bs :: calm src := rfl

@[simp] theorem calm_failure (message : String) (src : Source) :
    calm (.failure message :: src) = .failure message :: calm src := rfl

@[simp] theorem calm_interruption (src : Source) : calm (.interruption :: src) = calm src := rfl

@[simp] theorem calm_pause (src : Source) : calm (.pause :: src) = .pause :: calm src := rfl

variable {src rest : Source}

theorem read_calm (n : Nat) (src : Source) :
    src.calm.read n = ((src.read n).1, (src.read n).2.calm) := by
  fun_induction read n src with
  | case1 => rfl
  | case2 src ih => exact ih
  | case3 => rfl
  | case4 => rfl
  | case5 src ih => exact ih
  | case6 => rfl

theorem takeLine_calm (taken : Array UInt8) (src : Source) :
    src.calm.takeLine taken = ((src.takeLine taken).1, (src.takeLine taken).2.calm) := by
  fun_induction takeLine taken src with
  | case1 => rfl
  | case2 taken bs src hb ih =>
    rw [calm_bytes, takeLine, hb]
    exact ih
  | case3 taken bs src b after hb =>
    rw [calm_bytes, takeLine, hb]
    rfl
  | case4 => rfl
  | case5 taken src ih => exact ih
  | case6 => rfl

theorem readLine_calm {result : Except String (List UInt8)} (h : src.readLine = (result, rest)) :
    src.calm.readLine = (result, rest.calm) := by
  rw [readLine, takeLine_calm]
  rw [readLine] at h
  rw [h]

/-- Only an interruption that is met at once is shown to a reader that peeks. -/
theorem peek_calm {result : Except ReadFault (List UInt8)} (h : src.peek = (result, rest))
    (hresult : result ≠ .error .interrupted) : src.calm.peek = (result, rest.calm) := by
  fun_induction peek src with
  | case1 => cases h; rfl
  | case2 src ih => exact ih h
  | case3 => cases h; rfl
  | case4 => cases h; rfl
  | case5 => cases h; exact absurd rfl hresult
  | case6 => cases h; rfl

end Source

/-! ### Headers -/

namespace Header

/-- Where in the reading of a header a moment falls. -/
inductive Place where
  /-- In front of a line, or of what is behind the header. -/
  | lineStart
  /-- Behind the bytes `taken` of a line. -/
  | inLine (taken : List UInt8)
  /-- Behind the header. -/
  | behind
deriving DecidableEq

/-- The place behind a line. -/
def Place.afterLine (line : List UInt8) : Place :=
  if lineText line = endLine then .behind else .lineStart

/-- The place behind one more byte. -/
def Place.feed : Place → UInt8 → Place
  | .lineStart, b => if b = percent then .inLine [b] else .behind
  | .inLine taken, b =>
    if b = Source.lineFeed then afterLine (taken ++ [b]) else .inLine (taken ++ [b])
  | .behind, _ => .behind

/-- The place behind an empty read, which ends a line, or the header. -/
def Place.pause : Place → Place
  | .lineStart => .behind
  | .inLine taken => afterLine taken
  | .behind => .behind

/-- From a place on, an interruption comes in front of a line. Behind a failure none does. -/
def interruptedFrom (place : Place) : Source → Bool
  | [] => false
  | .bytes bs :: src => interruptedFrom (bs.foldl Place.feed place) src
  | .failure _ :: _ => false
  | .interruption :: src => place = .lineStart || interruptedFrom place src
  | .pause :: src => interruptedFrom place.pause src

/-- An interruption stands where a line of the header would start. -/
def isInterrupted (src : Source) : Bool := interruptedFrom .lineStart src

variable {h : Header} {consumed : Nat} {notices : Array Notice} {src rest : Source}

theorem foldl_feed_behind (bs : List UInt8) : bs.foldl Place.feed .behind = .behind := by
  induction bs with
  | nil => rfl
  | cons b bs ih => exact ih

@[simp] theorem interruptedFrom_behind (src : Source) : interruptedFrom .behind src = false := by
  induction src with
  | nil => rfl
  | cons seg src ih =>
    cases seg with
    | bytes bs => rw [interruptedFrom, foldl_feed_behind, ih]
    | failure => rfl
    | interruption => rw [interruptedFrom, ih]; rfl
    | pause => exact ih

theorem interruptedFrom_calm (place : Place) (src : Source) :
    interruptedFrom place src.calm = false := by
  induction src generalizing place with
  | nil => rfl
  | cons seg src ih =>
    cases seg with
    | bytes bs => exact ih _
    | failure => rfl
    | interruption => exact ih place
    | pause => exact ih _

/-- Where there are no interruptions, none is in front of a line. -/
theorem isInterrupted_calm (src : Source) : isInterrupted src.calm = false :=
  interruptedFrom_calm .lineStart src

theorem foldl_feed_inLine {bs : List UInt8} (hbs : ∀ b ∈ bs, (b != Source.lineFeed) = true)
    (taken : List UInt8) : bs.foldl Place.feed (.inLine taken) = .inLine (taken ++ bs) := by
  induction bs generalizing taken with
  | nil => rw [List.foldl_nil, List.append_nil]
  | cons b bs ih =>
    obtain ⟨hb, hlater⟩ := List.forall_mem_cons.1 hbs
    rw [List.foldl_cons, Place.feed, if_neg (bne_iff_ne.1 hb), ih hlater, List.append_assoc,
      List.singleton_append]

/-- Interruptions within a line do not count. -/
theorem interruptedFrom_of_takeLine {taken : Array UInt8} {line : List UInt8}
    (hline : src.takeLine taken = (.ok line, rest)) :
    interruptedFrom (.inLine taken.toList) src = interruptedFrom (Place.afterLine line) rest := by
  fun_induction Source.takeLine taken src with
  | case1 => cases hline; rfl
  | case2 taken bs src hb ih =>
    rw [interruptedFrom, foldl_feed_inLine (List.dropWhile_eq_nil_iff.1 hb), ← ih hline,
      Array.toList_appendList]
  | case3 taken bs src b after hb =>
    cases hline
    obtain ⟨front, rfl, hfront, rfl, hfeed⟩ := Source.cut_of_dropWhile hb
    have hbefore : ∀ c ∈ front, (c != Source.lineFeed) = true :=
      fun c hc => bne_iff_ne.2 (ne_of_mem_of_not_mem hc hfeed)
    have htaken : (front ++ Source.lineFeed :: after).foldl Place.feed (.inLine taken.toList) =
        after.foldl Place.feed (Place.afterLine (taken.toList ++ front ++ [Source.lineFeed])) := by
      rw [List.foldl_append, foldl_feed_inLine hbefore, List.foldl_cons, Place.feed, if_pos rfl]
    rw [interruptedFrom, interruptedFrom, htaken, hfront]
    simp
  | case4 => cases hline
  | case5 taken src ih =>
    rw [interruptedFrom, ih hline]
    rfl
  | case6 => cases hline; rfl

theorem interruptedFrom_of_takeLine_error {taken : Array UInt8} {message : String}
    (hline : src.takeLine taken = (.error message, rest)) :
    interruptedFrom (.inLine taken.toList) src = false := by
  fun_induction Source.takeLine taken src with
  | case1 => cases hline
  | case2 taken bs src hb ih =>
    rw [interruptedFrom, foldl_feed_inLine (List.dropWhile_eq_nil_iff.1 hb), ← ih hline,
      Array.toList_appendList]
  | case3 => cases hline
  | case4 => rfl
  | case5 taken src ih =>
    rw [interruptedFrom, ih hline]
    rfl
  | case6 => cases hline

/-- A reader that looks for a line is shown an interruption, or the line that it stands behind. -/
theorem isInterrupted_iff_of_peek {result : Except ReadFault (List UInt8)}
    (hpeek : src.peek = (result, rest)) :
    isInterrupted src = true ↔ result = .error .interrupted ∨
      ∃ bs, result = .ok (percent :: bs) ∧ interruptedFrom (.inLine []) rest = true := by
  unfold isInterrupted
  fun_induction Source.peek src with
  | case1 => cases hpeek; simp [interruptedFrom]
  | case2 src ih => exact ih hpeek
  | case3 b bs src =>
    cases hpeek
    by_cases hb : b = percent
    · subst hb
      simp [interruptedFrom, Place.feed, percent, Source.lineFeed]
    · simp [interruptedFrom, Place.feed, hb, foldl_feed_behind]
  | case4 => cases hpeek; simp [interruptedFrom]
  | case5 => cases hpeek; simp [interruptedFrom]
  | case6 => cases hpeek; simp [interruptedFrom, Place.pause]

/-- Behind a line that is taken, interruptions count as they did in front of it. -/
theorem isInterrupted_of_readLine {bs line : List UInt8} {peeked : Source}
    (hpeek : src.peek = (.ok (percent :: bs), peeked)) (hline : peeked.readLine = (.ok line, rest)) :
    isInterrupted src = interruptedFrom (Place.afterLine line) rest := by
  have hbehind : interruptedFrom (.inLine []) peeked = interruptedFrom (Place.afterLine line) rest :=
    interruptedFrom_of_takeLine hline
  rw [← hbehind, Bool.eq_iff_iff, isInterrupted_iff_of_peek hpeek]
  simp

/-- A header whose source is interrupted in front of a line is not read. -/
theorem readLines_of_interrupted (h : Header) (consumed : Nat) (notices : Array Notice)
    (hsrc : isInterrupted src = true) :
    (h.readLines consumed notices src).result = .error ReadFault.interrupted.message := by
  fun_induction readLines h consumed notices src with
  | case1 h consumed notices src fault rest hpeek =>
    obtain ⟨⟨⟩⟩ | ⟨bs, ⟨⟩, -⟩ := (isInterrupted_iff_of_peek hpeek).1 hsrc
    rfl
  | case2 h consumed notices src rest hpeek =>
    obtain ⟨⟨⟩⟩ | ⟨bs, ⟨⟩, -⟩ := (isInterrupted_iff_of_peek hpeek).1 hsrc
  | case3 h consumed notices src bs peeked message rest hline hpeek =>
    obtain ⟨⟨⟩⟩ | ⟨bs, -, hlate⟩ := (isInterrupted_iff_of_peek hpeek).1 hsrc
    have hnone : interruptedFrom (.inLine []) peeked = false :=
      interruptedFrom_of_takeLine_error hline
    cases hlate.symm.trans hnone
  | case4 h consumed notices src bs peeked line rest hline _ text hend hpeek =>
    rw [isInterrupted_of_readLine hpeek hline, Place.afterLine, if_pos hend,
      interruptedFrom_behind] at hsrc
    cases hsrc
  | case5 h consumed notices src bs peeked line rest hline _ text hend h' more _ hpeek ih =>
    rw [isInterrupted_of_readLine hpeek hline, Place.afterLine, if_neg hend] at hsrc
    exact ih hsrc
  | case6 h consumed notices src b bs rest hpeek hb =>
    obtain ⟨⟨⟩⟩ | ⟨bs, hshown, -⟩ := (isInterrupted_iff_of_peek hpeek).1 hsrc
    cases hshown
    exact absurd rfl hb

/-- Where no line of a header is interrupted, interruptions make no difference to the header. -/
theorem readLines_calm (h : Header) (consumed : Nat) (notices : Array Notice)
    (hsrc : isInterrupted src = false) :
    h.readLines consumed notices src.calm =
      { h.readLines consumed notices src with
        source := (h.readLines consumed notices src).source.calm } := by
  have hshown {result : Except ReadFault (List UInt8)} {src rest : Source}
      (hpeek : src.peek = (result, rest)) (hsrc : isInterrupted src = false) :
      src.calm.peek = (result, rest.calm) := by
    refine Source.peek_calm hpeek ?_
    rintro rfl
    rw [(isInterrupted_iff_of_peek hpeek).2 (.inl rfl)] at hsrc
    cases hsrc
  fun_induction readLines h consumed notices src with
  | case1 h consumed notices src fault rest hpeek => exact readLines_of_fault (hshown hpeek hsrc)
  | case2 h consumed notices src rest hpeek =>
    refine readLines_of_other (hshown hpeek hsrc) ?_
    rintro ⟨⟩
  | case3 h consumed notices src bs peeked message rest hline hpeek =>
    exact readLines_of_failure (hshown hpeek hsrc) (Source.readLine_calm hline)
  | case4 h consumed notices src bs peeked line rest hline _ text hend hpeek =>
    exact readLines_of_end (hshown hpeek hsrc) (Source.readLine_calm hline) hend
  | case5 h consumed notices src bs peeked line rest hline _ text hend h' more happly hpeek ih =>
    rw [readLines_of_line (hshown hpeek hsrc) (Source.readLine_calm hline) hend]
    rw [isInterrupted_of_readLine hpeek hline, Place.afterLine, if_neg hend] at hsrc
    have hgo := ih hsrc
    rw [happly]
    exact hgo
  | case6 h consumed notices src b bs rest hpeek hb =>
    refine readLines_of_other (hshown hpeek hsrc) ?_
    rw [List.head?_cons]
    intro hsame
    exact hb (Option.some.inj hsame)

theorem read_calm (hsrc : isInterrupted src = false) :
    read src.calm = { read src with source := (read src).source.calm } :=
  readLines_calm {} 0 #[] hsrc

end Header

/-! ### Windows -/

/-- The payload whose reads are not interrupted. -/
def Payload.calm (p : Payload) : Payload := { p with source := p.source.calm }

/-- The chunk, with a payload whose reads are not interrupted. -/
def Fetch.calm (f : Fetch) : Fetch := { f with payload := f.payload.calm }

namespace Payload

@[simp] theorem calm_exhausted (p : Payload) : p.calm.exhausted = p.exhausted := rfl

theorem finish_calm (p : Payload) (source : Source) :
    p.calm.finish source.calm = (p.finish source).calm := by
  cases hgroup : p.group <;> simp [finish, calm, Fetch.calm, hgroup]

theorem next_calm (p : Payload) : p.calm.next = p.next.calm := by
  have hread : p.calm.source.read p.calm.bytesPerRead = _ :=
    Source.read_calm p.bytesPerRead p.source
  cases hover : p.exhausted with
  | true =>
    rw [next_of_exhausted hover]
    exact next_of_exhausted hover
  | false =>
    rw [next, next, hread, calm_exhausted, hover]
    obtain ⟨result, rest⟩ := p.source.read p.bytesPerRead
    cases result with
    | error message => rfl
    | ok bs =>
      cases bs with
      | nil => exact p.finish_calm rest
      | cons b bs => rfl

end Payload

namespace Reader

/-- The reader whose reads are not interrupted. -/
def calm (r : Reader) : Reader := { r with payload := r.payload.calm }

/-- The gathering, with a reader whose reads are not interrupted. -/
def Gathering.calm (g : Gathering) : Gathering := { g with reader := g.reader.calm }

/-- The window, with a reader whose reads are not interrupted. -/
def ReadStep.calm (step : ReadStep) : ReadStep := { step with reader := step.reader.calm }

/-- The next window, with a reader whose reads are not interrupted. -/
def NextStep.calm (step : NextStep) : NextStep := { step with reader := step.reader.calm }

@[simp] theorem calm_header (r : Reader) : r.calm.header = r.header := rfl

@[simp] theorem calm_window (r : Reader) : r.calm.window = r.window := rfl

@[simp] theorem calm_events (r : Reader) : r.calm.events = r.events := rfl

@[simp] theorem calm_done (r : Reader) : r.calm.done = r.done := rfl

@[simp] theorem calm_payload (r : Reader) : r.calm.payload = r.payload.calm := rfl

@[simp] theorem calm_isEndOfStream (r : Reader) : r.calm.isEndOfStream = r.isEndOfStream := rfl

theorem gather_calm (r : Reader) (notices : Array Notice) :
    r.calm.gather notices = (r.gather notices).calm := by
  fun_induction gather r notices with
  | case1 r notices reason hexit =>
    rw [gather, calm_window, calm_events, hexit]
    rfl
  | case2 r notices hexit hover =>
    rw [gather, calm_window, calm_events, hexit]
    exact if_pos hover
  | case3 r notices hexit hover fetch _ message hfail =>
    have hcalm : fetch.calm.result = .error message := hfail
    rw [gather, calm_window, calm_events, hexit, calm_payload, Payload.next_calm]
    dsimp only
    rw [hcalm]
    exact if_neg hover
  | case4 r notices hexit hover fetch _ hend =>
    have hcalm : fetch.calm.result = .ok none := hend
    rw [gather, calm_window, calm_events, hexit, calm_payload, Payload.next_calm]
    dsimp only
    rw [hcalm]
    exact if_neg hover
  | case5 r notices hexit hover fetch _ o hchunk ih =>
    have hcalm : fetch.calm.result = .ok (some o) := hchunk
    rw [gather, calm_window, calm_events, hexit, calm_payload, Payload.next_calm]
    dsimp only
    rw [hcalm, Payload.calm_exhausted, if_neg hover]
    exact ih

theorem read_calm (r : Reader) : r.calm.read = r.read.calm := by
  rw [read, read, calm_header, gather_calm]
  split
  · obtain ⟨reader, result, notices⟩ := r.gather #[]
    cases result <;> rfl
  · rfl

theorem next_calm (r : Reader) : r.calm.next = r.next.calm := by
  rw [next, next, calm_done, read_calm]
  split
  · rfl
  · obtain ⟨reader, result, notices⟩ := r.read
    cases result with
    | error e => rfl
    | ok batch =>
      rw [ReadStep.calm]
      dsimp only
      rw [calm_isEndOfStream]
      split <;> rfl

theorem afterCalls_calm (r : Reader) (calls : List Call) :
    r.calm.afterCalls calls = (r.afterCalls calls).calm := by
  induction calls generalizing r with
  | nil => rfl
  | cons c calls ih =>
    have hcall : r.calm.call c = (r.call c).calm := by
      cases c with
      | read => rw [call, read_calm]; rfl
      | next => rw [call, next_calm]; rfl
    rw [afterCalls_cons, hcall, ih, afterCalls_cons]

/-- Whatever is asked for, both readers say the same: of themselves, and when they are asked for one
window more. -/
def Agree (r r' : Reader) : Prop :=
  ∀ calls : List Call,
    let q := r.afterCalls calls
    let q' := r'.afterCalls calls
    q.header = q'.header ∧ q.window = q'.window ∧ q.position = q'.position ∧
      q.readEvents = q'.readEvents ∧ q.isEndOfStream = q'.isEndOfStream ∧
      q.read.result = q'.read.result ∧ q.read.notices = q'.read.notices ∧
      q.next.result = q'.next.result ∧ q.next.notices = q'.next.notices

/-- Readers that differ only in the interruptions of their reads agree. -/
theorem agree_of_calm_eq {r r' : Reader} (h : r.calm = r'.calm) : r.Agree r' := by
  intro calls q q'
  have hcalm : q.calm = q'.calm := by
    rw [← afterCalls_calm, ← afterCalls_calm, h]
  have hread : q.read.calm = q'.read.calm := by
    rw [← read_calm, ← read_calm, hcalm]
  have hnext : q.next.calm = q'.next.calm := by
    rw [← next_calm, ← next_calm, hcalm]
  exact ⟨(congrArg Reader.header hcalm :), (congrArg Reader.window hcalm :),
    (congrArg Reader.position hcalm :), (congrArg Reader.readEvents hcalm :),
    (congrArg Reader.isEndOfStream hcalm :), (congrArg ReadStep.result hread :),
    (congrArg ReadStep.notices hread :), (congrArg NextStep.result hnext :),
    (congrArg NextStep.notices hnext :)⟩

/-! ### Opening -/

/-- The opening, with a reader whose reads are not interrupted. -/
def Opening.calm (o : Opening) : Opening := { o with result := o.result.map Reader.calm }

theorem openSource_calm {options : ReaderOptions} {src : Source}
    (hsrc : Header.isInterrupted src = false) :
    openSource options src.calm = (openSource options src).calm := by
  rw [openSource, openSource]
  cases options.window with
  | error e => rfl
  | ok window =>
    dsimp only
    rw [Header.read_calm hsrc]
    obtain ⟨result, consumed, notices, rest, ended⟩ := Header.read src
    cases result <;> rfl

/-- A recording whose header is interrupted in front of a line is not opened. -/
theorem openSource_of_interrupted {options : ReaderOptions} {window : Window} {src : Source}
    (hwindow : options.window = .ok window) (hsrc : Header.isInterrupted src = true) :
    (openSource options src).result = .error (.io ReadFault.interrupted.message) := by
  have hread : (Header.read src).result = .error ReadFault.interrupted.message :=
    Header.readLines_of_interrupted {} 0 #[] hsrc
  rw [openSource, hwindow]
  dsimp only
  rw [hread]

end Reader

/-- An interruption shows only where a line of the header would start, and there it keeps the
recording from being opened. Sources that differ in others alone are refused for the same reason, or
read alike. -/
theorem interruptions_hidden_behind_line_starts {options : ReaderOptions} {window : Window}
    {src src' : Source} (hwindow : options.window = .ok window) (hsame : src.calm = src'.calm) :
    (Header.isInterrupted src = true →
      (Reader.openSource options src).result = .error (.io "operation interrupted")) ∧
    (Header.isInterrupted src = false → Header.isInterrupted src' = false →
      (Reader.openSource options src).notices = (Reader.openSource options src').notices ∧
      ((∃ e, (Reader.openSource options src).result = .error e ∧
          (Reader.openSource options src').result = .error e) ∨
        ∃ r r', (Reader.openSource options src).result = .ok r ∧
          (Reader.openSource options src').result = .ok r' ∧ r.Agree r')) := by
  refine ⟨Reader.openSource_of_interrupted hwindow, ?_⟩
  intro hsrc hsrc'
  have hcalm : (Reader.openSource options src).calm = (Reader.openSource options src').calm := by
    rw [← Reader.openSource_calm hsrc, ← Reader.openSource_calm hsrc', hsame]
  refine ⟨(congrArg Reader.Opening.notices hcalm :), ?_⟩
  have hresult : (Reader.openSource options src).result.map Reader.calm =
      (Reader.openSource options src').result.map Reader.calm :=
    congrArg Reader.Opening.result hcalm
  cases hopen : (Reader.openSource options src).result with
  | error e =>
    cases hopen' : (Reader.openSource options src').result with
    | error e' =>
      rw [hopen, hopen'] at hresult
      cases hresult
      exact .inl ⟨e, rfl, rfl⟩
    | ok r' =>
      rw [hopen, hopen'] at hresult
      cases hresult
  | ok r =>
    cases hopen' : (Reader.openSource options src').result with
    | error e' =>
      rw [hopen, hopen'] at hresult
      cases hresult
    | ok r' =>
      rw [hopen, hopen'] at hresult
      exact .inr ⟨r, r', rfl, rfl, Reader.agree_of_calm_eq (Except.ok.inj hresult)⟩

/-- A recording of one event whose reads are interrupted within a line of the header, behind the
header and within a word. -/
def interruptedRecording : Source :=
  [.bytes [0x25, 0x20], .interruption, .bytes [0x65, 0x6E, 0x64, 0x0A], .interruption,
    .bytes [0x00, 0x80, 0x01], .interruption, .bytes [0x20]]

theorem interruptions_hidden_behind_line_starts_of_interruptedRecording :
    ∃ r r', (Reader.openSource {} interruptedRecording).result = .ok r ∧
      (Reader.openSource {} interruptedRecording.calm).result = .ok r' ∧ r.Agree r' := by
  have hplain : interruptedRecording.calm.IsPlain :=
    Source.isPlain_map_bytes
      [[0x25, 0x20], [0x65, 0x6E, 0x64, 0x0A], [0x00, 0x80, 0x01], [0x20]]
  have hwindow : ({} : ReaderOptions).window = .ok {} := by decide
  obtain ⟨r', hopen', -⟩ := Reader.exists_opening hwindow (Header.read_of_isPlain hplain).1
  have hsame : interruptedRecording.calm = interruptedRecording.calm.calm := by decide
  obtain ⟨-, hboth⟩ := interruptions_hidden_behind_line_starts hwindow hsame
  obtain ⟨-, ⟨e, -, hfail⟩ | hagree⟩ := hboth (by decide +kernel) (Header.isInterrupted_calm _)
  · cases hfail.symm.trans hopen'
  · exact hagree

/-- An interruption between two lines of a header is told: without it the recording is opened, and
with it it is not. -/
theorem interruption_shown_at_line_start :
    let line := [0x25, 0x20, 0x65, 0x76, 0x74, 0x20, 0x33, 0x2E, 0x30, 0x0A]
    let words := [0x00, 0x80, 0x01, 0x20]
    (∃ r, (Reader.openSource {} [.bytes line, .bytes (Header.bare ++ words)]).result = .ok r) ∧
      (Reader.openSource {} [.bytes line, .interruption, .bytes (Header.bare ++ words)]).result =
        .error (.io "operation interrupted") := by
  intro line words
  have hwindow : ({} : ReaderOptions).window = .ok {} := by decide
  have hplain : Source.IsPlain [.bytes line, .bytes (Header.bare ++ words)] :=
    Source.isPlain_map_bytes [line, Header.bare ++ words]
  obtain ⟨r, hopen, -⟩ := Reader.exists_opening hwindow (Header.read_of_isPlain hplain).1
  exact ⟨⟨r, hopen⟩, Reader.openSource_of_interrupted hwindow (by decide +kernel)⟩

end EventCamera
