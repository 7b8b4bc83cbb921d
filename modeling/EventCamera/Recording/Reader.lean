import EventCamera.Evt3.Payload
import EventCamera.Header.Read
import EventCamera.Window
/-!
# Reading a recording

A reader takes the header of a recording and then hands out its events in windows. It gathers
events chunk by chunk until a window is full; what has been gathered beyond the window is kept for
the next one. A trigger goes out with the last window before the first event that is later.

## Main definitions

* `ReaderOptions` — the bounds of windows and the size of chunks
* `ReadError` — why a recording cannot be read on
* `Reader` — a recording that is being read, and `Reader.openSource`, which starts
* `Reader.read` — the next window
* `Reader.next` — the next window, if there is one
* `Reader.windows` — all windows that are left

## Main results

* `Reader.gather_progress` — gathering either brings the end nearer or leaves everything as it is
-/

namespace EventCamera

/-- How a recording is read. -/
structure ReaderOptions where
  mode : ReadMode := .auto
  deltaT : Option UInt64 := none
  nEvents : Option UInt64 := none
  /-- The number of events of a window that is not bounded by it. -/
  maxEvents : UInt64 := 10000000
  /-- The span of a window that is not bounded by it. -/
  maxDeltaT : UInt64 := 1000000000000
  /-- The number of words that are asked for at once. -/
  chunkWords : Nat := 1000000
  /-- How a time is found among events or triggers. It makes no difference where these are in order
  of time; where they are not, what is found is not settled. -/
  search : Search := .linear

/-- The bounds of windows that the options come to. -/
def ReaderOptions.window (o : ReaderOptions) : Except ConfigError Window :=
  Window.resolve o.mode o.deltaT o.nEvents o.maxDeltaT o.maxEvents

/-- Why a recording cannot be read on. -/
inductive ReadError where
  | io (message : String)
  | config (cause : ConfigError)
  /-- Payloads of this format cannot be read. -/
  | notImplemented (format : PayloadFormat)
deriving DecidableEq

/-- The wording of an error. -/
def ReadError.message : ReadError → String
  | io message => "IO error: " ++ message
  | config cause => "Invalid configuration: " ++ cause.message
  | notImplemented format => "Decoding " ++ format.name ++ " is not implemented"

/-- A recording that is being read. -/
structure Reader where
  header : Header
  /-- Number of bytes of the header. -/
  headerLength : Nat
  window : Window
  payload : Payload
  search : Search := .linear
  /-- The events gathered but not handed out. -/
  events : List Event := []
  /-- The triggers gathered but not handed out. -/
  triggers : List Trigger := []
  readEvents : Nat := 0
  /-- There are no more windows to ask for. -/
  done : Bool := false

namespace Reader

/-- What starting to read gives. -/
structure Opening where
  /-- The reader, or why there is none. -/
  result : Except ReadError Reader
  notices : List Notice := []

/-- Starts to read a recording. The options are checked before the source is touched. -/
def openSource (options : ReaderOptions) (source : Source) : Opening :=
  match options.window with
  | .error e => { result := .error (.config e) }
  | .ok window =>
    let start := Header.read source
    match start.result with
    | .error message => { result := .error (.io message), notices := start.notices }
    | .ok header =>
      { result := .ok
          { header, window
            headerLength := start.consumed
            payload := { source := start.source, chunkWords := options.chunkWords }
            search := options.search }
        notices := start.notices }

/-- Number of bytes read. -/
def position (r : Reader) : Nat := r.headerLength + r.payload.bytesRead

/-- The source is at its end and nothing is left to hand out. -/
def isEndOfStream (r : Reader) : Bool :=
  r.payload.exhausted && r.events.isEmpty && r.triggers.isEmpty

/-- Takes over what a chunk gave. -/
def take (r : Reader) (fetch : Fetch) : Reader :=
  { r with
    payload := fetch.payload
    events := r.events ++ fetch.batch.events
    triggers := r.triggers ++ fetch.batch.triggers }

/-- What gathering events for a window gives. -/
structure Gathering where
  reader : Reader
  /-- Why gathering stopped, or the failure of the source. -/
  result : Except String WindowExit
  notices : Array Notice

/-- Gathers events until a window is full or the source ends or fails. A failure loses nothing. -/
def gather (r : Reader) (notices : Array Notice) : Gathering :=
  match r.window.exitReason? r.events with
  | some reason => { reader := r, result := .ok reason, notices }
  | none =>
    if r.payload.exhausted then { reader := r, result := .ok .endOfStream, notices }
    else
      let fetch := r.payload.next
      let notices := notices ++ fetch.notices
      match fetch.result with
      -- What has been gathered stays with the reader, for the call after this one.
      | .error message => { reader := r.take fetch, result := .error message, notices }
      | .ok none => { reader := r.take fetch, result := .ok .endOfStream, notices }
      | .ok (some _) => gather (r.take fetch) notices
termination_by r.payload.remaining
decreasing_by exact Payload.remaining_next_lt (by simpa using ‹¬r.payload.exhausted = true›)

/-- The triggers that go out, and those that are kept: the ones before the first event that is
kept, or all if none is. -/
def splitTriggers (search : Search) (kept : List Event) (triggers : List Trigger) :
    List Trigger × List Trigger :=
  match kept with
  | [] => (triggers, [])
  -- A trigger at the time of the next event waits for it.
  | next :: _ => triggers.splitAt (search.count (·.t < next.t) triggers)

/-- Hands out a window of what has been gathered. -/
def handOut (r : Reader) (reason : WindowExit) : Reader × Batch :=
  let cut := r.window.release r.events reason r.search
  let kept := r.events.drop cut
  let (out, keptTriggers) := splitTriggers r.search kept r.triggers
  let events := r.events.take cut
  ({ r with
      events := kept
      triggers := keptTriggers
      readEvents := r.readEvents + events.length },
    ⟨events, out⟩)

/-- What asking for a window gives. -/
structure ReadStep where
  reader : Reader
  /-- The window, or why there is none. -/
  result : Except ReadError Batch
  notices : List Notice := []

/-- Reads the next window. It holds nothing at the end of the stream. -/
def read (r : Reader) : ReadStep :=
  if r.header.payloadFormat.isImplemented then
    let g := r.gather #[]
    match g.result with
    | .error message =>
      { reader := g.reader, result := .error (.io message), notices := g.notices.toList }
    | .ok reason =>
      let (reader, batch) := g.reader.handOut reason
      { reader, result := .ok batch, notices := g.notices.toList }
  else { reader := r, result := .error (.notImplemented r.header.payloadFormat) }

/-- What asking for a window, if there is one, gives. -/
structure NextStep where
  reader : Reader
  /-- The window or an error, unless there are no more. -/
  result : Option (Except ReadError Batch)
  notices : List Notice := []

/-- Reads the next window, if there is one. After an error there are no more. -/
def next (r : Reader) : NextStep :=
  if r.done then { reader := r, result := none }
  else
    let step := r.read
    match step.result with
    -- Asked directly, the reader could go on behind an error; asked this way, it does not.
    | .error e =>
      { reader := { step.reader with done := true }, result := some (.error e)
        notices := step.notices }
    | .ok batch =>
      -- A window that holds nothing is none, unless something is still to come.
      if batch.isEmpty && step.reader.isEndOfStream then
        { reader := { step.reader with done := true }, result := none, notices := step.notices }
      else { reader := step.reader, result := some (.ok batch), notices := step.notices }

theorem gather_progress (r : Reader) (notices : Array Notice) :
    (r.gather notices).reader.payload.remaining < r.payload.remaining ∨
      (r.gather notices).reader = r := by
  fun_induction gather r notices with
  | case1 => exact .inr rfl
  | case2 => exact .inr rfl
  | case3 r notices hw hx fetch =>
    exact .inl (Payload.remaining_next_lt (by simpa using hx))
  | case4 r notices hw hx fetch =>
    exact .inl (Payload.remaining_next_lt (by simpa using hx))
  | case5 r notices hw hx fetch notices' o hr ih =>
    have h := Payload.remaining_next_lt (p := r.payload) (by simpa using hx)
    rcases ih with ih | ih
    · exact .inl (Nat.lt_trans ih h)
    · rw [ih]
      exact .inl h

@[simp] theorem splitTriggers_append (search : Search) (kept : List Event)
    (triggers : List Trigger) :
    (splitTriggers search kept triggers).1 ++ (splitTriggers search kept triggers).2 =
      triggers := by
  cases kept <;> simp [splitTriggers]

/-- Number of events and triggers that have been gathered but not handed out. -/
def pending (r : Reader) : Nat := r.events.length + r.triggers.length

/-- Handing out a window that holds something leaves less to hand out. -/
theorem pending_handOut_lt {r : Reader} {reason : WindowExit}
    (h : (r.handOut reason).2.isEmpty = false) :
    (r.handOut reason).1.pending < r.pending := by
  generalize hcut : r.window.release r.events reason r.search = cut
  have htrig := congrArg List.length
    (splitTriggers_append r.search (r.events.drop cut) r.triggers)
  simp only [List.length_append] at htrig
  -- Something goes out: were there neither events nor triggers, the window would be empty.
  have hne : ¬((r.events.take cut).length = 0 ∧
      (splitTriggers r.search (r.events.drop cut) r.triggers).1.length = 0) := by
    rintro ⟨h₁, h₂⟩
    have : (r.handOut reason).2.isEmpty = true := by
      simp only [handOut, Batch.isEmpty_iff, hcut]
      exact ⟨List.length_eq_zero_iff.1 h₁, List.length_eq_zero_iff.1 h₂⟩
    rw [h] at this
    exact Bool.noConfusion this
  have hev : (r.events.take cut).length + (r.events.drop cut).length = r.events.length := by
    simp only [List.length_take, List.length_drop]
    omega
  simp only [pending, handOut, hcut]
  omega

@[simp] theorem payload_handOut (r : Reader) (reason : WindowExit) :
    (r.handOut reason).1.payload = r.payload := rfl

/-- Reading a window that holds something brings the end of the payload nearer, or leaves less of
what has been gathered. -/
theorem read_progress {r : Reader} {batch : Batch} (h : r.read.result = .ok batch)
    (hb : batch.isEmpty = false) :
    r.read.reader.payload.remaining < r.payload.remaining ∨
      r.read.reader.payload.remaining = r.payload.remaining ∧
        r.read.reader.pending < r.pending := by
  unfold read at h ⊢
  split at h
  · rename_i himp
    simp only [himp, if_true]
    cases hg : (r.gather #[]).result with
    | error message => simp [hg] at h
    | ok reason =>
      simp only [hg, Except.ok.injEq] at h ⊢
      have hlt : ((r.gather #[]).reader.handOut reason).1.pending < (r.gather #[]).reader.pending :=
        pending_handOut_lt (by rw [h]; exact hb)
      rcases gather_progress r #[] with hp | hp
      · exact .inl (by simpa using hp)
      · rw [hp] at hlt ⊢
        exact .inr ⟨by simp, hlt⟩
  · simp at h

/-- A window with the reports made while it was gathered. -/
structure Delivery where
  batch : Batch
  notices : List Notice

/-- What reading all windows gives. -/
structure Playback where
  /-- The windows that hold something. -/
  deliveries : List Delivery
  reader : Reader
  /-- The error that ended the reading, if any. -/
  failure : Option ReadError
  notices : List Notice

/-- Reads all windows that are left, behind those in `deliveries`. -/
def windowsInto (deliveries : Array Delivery) (r : Reader) : Playback :=
  let step := r.read
  match _h : step.result with
  | .error e =>
    { deliveries := deliveries.toList, reader := step.reader, failure := some e
      notices := step.notices }
  | .ok batch =>
    if _hb : batch.isEmpty = true then
      { deliveries := deliveries.toList, reader := step.reader, failure := none
        notices := step.notices }
    else windowsInto (deliveries.push ⟨batch, step.notices⟩) step.reader
termination_by (r.payload.remaining, r.pending)
decreasing_by
  rcases read_progress _h (Bool.eq_false_iff.2 _hb) with h | ⟨h, h'⟩
  · exact Prod.Lex.left _ _ h
  · rw [show step.reader.payload.remaining = r.payload.remaining from h]
    exact Prod.Lex.right _ h'

/-- Reads all windows that are left. The stream is over when a window holds nothing. -/
def windows (r : Reader) : Playback := windowsInto #[] r

end Reader

namespace Reader.Playback

/-- The events and triggers of all windows. -/
def batch (p : Playback) : Batch where
  events := p.deliveries.flatMap (·.batch.events)
  triggers := p.deliveries.flatMap (·.batch.triggers)

/-- The reports of the whole reading. -/
def allNotices (p : Playback) : List Notice := p.deliveries.flatMap (·.notices) ++ p.notices

end Reader.Playback

end EventCamera
