import EventCamera.Proofs.Evt3.Chunks
import EventCamera.Proofs.Header.Reading
import EventCamera.Recording.Reader

/-!
# Windows neither lose nor repeat anything

A reader keeps what has been gathered beyond a window for the next one, and keeps it also when its
source fails. So at any moment, what has been handed out and then what is kept are together what
the payload has given, in the same order.

## Main definitions

* `Reader.after`, `Reader.handedOut` — the reader after some calls, and what they returned
* `Reader.carry` — what has been gathered and not handed out
* `Reader.grown` — the reader after it has taken over some chunks

## Main results

* `Reader.read_cases`, `Reader.read_conserves` — what one call does
* `Reader.handedOut_conserves` — what any number of calls come to
* `Reader.handedOut_append_carry` — the same for a recording from its start, with its positions
-/

namespace EventCamera

namespace Reader

/-- What has been gathered and not handed out. -/
def carry (r : Reader) : Batch := ⟨r.events, r.triggers⟩

/-- The window that a call returned, nothing if it failed. -/
def ReadStep.batch (step : ReadStep) : Batch :=
  match step.result with
  | .ok batch => batch
  | .error _ => {}

/-- The reader after `n` calls, whatever came of them. -/
def after (r : Reader) (n : Nat) : Reader := (fun q : Reader => q.read.reader)^[n] r

/-- What the first `n` calls returned. -/
def handedOut (r : Reader) : Nat → Batch
  | 0 => {}
  | n + 1 => handedOut r n ++ (r.after n).read.batch

@[simp] theorem after_zero (r : Reader) : r.after 0 = r := rfl

theorem after_succ (r : Reader) (n : Nat) : r.after (n + 1) = (r.after n).read.reader :=
  Function.iterate_succ_apply' _ n r

@[simp] theorem handedOut_zero (r : Reader) : r.handedOut 0 = {} := rfl

theorem handedOut_succ (r : Reader) (n : Nat) :
    r.handedOut (n + 1) = r.handedOut n ++ (r.after n).read.batch := rfl

/-- The reader after it has taken over `k` more chunks. -/
def grown (r : Reader) (k : Nat) : Reader :=
  { r with
    payload := r.payload.after k
    events := (r.carry ++ r.payload.gathered k).events
    triggers := (r.carry ++ r.payload.gathered k).triggers }

@[simp] theorem carry_grown (r : Reader) (k : Nat) :
    (r.grown k).carry = r.carry ++ r.payload.gathered k := rfl

@[simp] theorem grown_zero (r : Reader) : r.grown 0 = r := by
  simp [grown, carry]

theorem grown_add (r : Reader) (k m : Nat) : r.grown (k + m) = (r.grown k).grown m := by
  rw [grown, Payload.after_add, Payload.gathered_add, ← Batch.append_assoc]
  rfl

theorem take_next (r : Reader) : r.take r.payload.next = r.grown 1 := rfl

/-- Behind the end of the source there are no more chunks to take over. -/
theorem grown_of_exhausted {r : Reader} (h : r.payload.exhausted = true) (k : Nat) :
    r.grown k = r := by
  have hsame : r.payload.after k = r.payload := Payload.after_of_exhausted (n := 0) h k.zero_le
  simp [grown, hsame, Payload.gathered_of_exhausted h, carry]

/-! ### One call -/

/-- Gathering takes over a number of chunks and changes nothing else, also when it fails. -/
theorem gather_eq_grown (r : Reader) (notices : Array Notice) :
    ∃ k, (r.gather notices).reader = r.grown k := by
  fun_induction gather r notices with
  | case1 r => exact ⟨0, (grown_zero r).symm⟩
  | case2 r => exact ⟨0, (grown_zero r).symm⟩
  | case3 r => exact ⟨1, take_next r⟩
  | case4 r => exact ⟨1, take_next r⟩
  | case5 r notices _ _ fetch _ _ _ ih =>
    -- One chunk, and then those of the rest of the loop.
    obtain ⟨k, hk⟩ := ih
    exact ⟨1 + k, by rw [hk, take_next, grown_add]⟩

/-- A window and what is kept behind it are what was kept before. -/
theorem handOut_append_carry (r : Reader) (reason : WindowExit) :
    (r.handOut reason).2 ++ (r.handOut reason).1.carry = r.carry := by
  ext1
  · exact List.take_append_drop _ _
  · exact splitTriggers_append _ _ _

/-- What a call can come to: the payload is of a format that cannot be read, the source fails, or a
window is handed out of what has been gathered. -/
theorem read_cases (r : Reader) :
    (r.header.payloadFormat.isImplemented = false ∧ r.read.reader = r ∧
        r.read.result = .error (.notImplemented r.header.payloadFormat)) ∨
      ∃ k, (∃ message, (r.gather #[]).result = .error message ∧
          r.read.reader = r.grown k ∧ r.read.result = .error (.io message)) ∨
        ∃ reason, (r.gather #[]).result = .ok reason ∧ (r.gather #[]).reader = r.grown k ∧
          r.read.reader = ((r.grown k).handOut reason).1 ∧
          r.read.result = .ok ((r.grown k).handOut reason).2 := by
  by_cases himplemented : r.header.payloadFormat.isImplemented = true
  · obtain ⟨k, hk⟩ := gather_eq_grown r #[]
    refine .inr ⟨k, ?_⟩
    cases hresult : (r.gather #[]).result with
    | error message =>
      refine .inl ⟨message, rfl, ?_⟩
      simp [read, himplemented, hresult, hk]
    | ok reason =>
      refine .inr ⟨reason, rfl, hk, ?_⟩
      simp [read, himplemented, hresult, hk]
  · refine .inl ⟨Bool.eq_false_iff.2 himplemented, ?_⟩
    simp [read, himplemented]

/-- A call takes over a number of chunks. What it returns and what it then keeps are what was kept
before and what the chunks gave. It counts what it returns, and if it fails it returns nothing. -/
theorem read_conserves (r : Reader) :
    ∃ k, r.read.reader.payload = r.payload.after k ∧
      r.read.batch ++ r.read.reader.carry = r.carry ++ r.payload.gathered k ∧
      r.read.reader.readEvents = r.readEvents + r.read.batch.events.length := by
  rcases read_cases r with ⟨-, hreader, hresult⟩ | ⟨k, ⟨message, -, hreader, hresult⟩ |
    ⟨reason, -, -, hreader, hresult⟩⟩
  · refine ⟨0, ?_, ?_, ?_⟩ <;> simp [ReadStep.batch, hreader, hresult]
  · -- The chunks before a failure are kept for the next call.
    rw [ReadStep.batch, hresult, hreader]
    exact ⟨k, rfl, rfl, rfl⟩
  · refine ⟨k, ?_, ?_, ?_⟩
    · rw [hreader]
      rfl
    · rw [ReadStep.batch, hresult, hreader]
      exact handOut_append_carry _ _
    · rw [ReadStep.batch, hresult, hreader]
      rfl

theorem read_keeps (r : Reader) :
    r.read.reader.header = r.header ∧ r.read.reader.headerLength = r.headerLength ∧
      r.read.reader.window = r.window ∧ r.read.reader.done = r.done := by
  rcases read_cases r with ⟨-, hreader, -⟩ | ⟨k, ⟨message, -, hreader, -⟩ |
    ⟨reason, -, -, hreader, -⟩⟩
  · rw [hreader]
    exact ⟨rfl, rfl, rfl, rfl⟩
  · rw [hreader]
    exact ⟨rfl, rfl, rfl, rfl⟩
  · rw [hreader]
    exact ⟨rfl, rfl, rfl, rfl⟩

/-! ### Any number of calls -/

/-- After any number of calls, some chunks have been taken over. What has been returned and what is
kept are what was kept at first and what the chunks gave. -/
theorem handedOut_conserves (r : Reader) (n : Nat) :
    ∃ k, (r.after n).payload = r.payload.after k ∧
      r.handedOut n ++ (r.after n).carry = r.carry ++ r.payload.gathered k ∧
      (r.after n).readEvents = r.readEvents + (r.handedOut n).events.length := by
  induction n with
  | zero => exact ⟨0, rfl, by simp, rfl⟩
  | succ n ih =>
    obtain ⟨k, hpayload, hkept, hcount⟩ := ih
    obtain ⟨m, hpayload', hkept', hcount'⟩ := read_conserves (r.after n)
    rw [after_succ, handedOut_succ]
    refine ⟨k + m, ?_, ?_, ?_⟩
    · rw [hpayload', hpayload, Payload.after_add]
    · calc r.handedOut n ++ (r.after n).read.batch ++ (r.after n).read.reader.carry
          = r.handedOut n ++ ((r.after n).carry ++ (r.after n).payload.gathered m) := by
            rw [Batch.append_assoc, hkept']
        _ = r.carry ++ r.payload.gathered k ++ (r.payload.after k).gathered m := by
            rw [← Batch.append_assoc, hkept, hpayload]
        _ = r.carry ++ r.payload.gathered (k + m) := by
            rw [Payload.gathered_add, Batch.append_assoc]
    · rw [hcount', hcount, Batch.events_append, List.length_append, Nat.add_assoc]

/-- Calls change neither what the header says nor how windows are bounded. -/
theorem after_keeps (r : Reader) (n : Nat) :
    (r.after n).header = r.header ∧ (r.after n).headerLength = r.headerLength ∧
      (r.after n).window = r.window ∧ (r.after n).done = r.done := by
  induction n with
  | zero => exact ⟨rfl, rfl, rfl, rfl⟩
  | succ n ih =>
    obtain ⟨hheader, hlength, hwindow, hdone⟩ := read_keeps (r.after n)
    rw [after_succ, hheader, hlength, hwindow, hdone]
    exact ih

/-- A call that fails returns nothing and keeps what was kept before, with more behind it. -/
theorem read_error {r : Reader} {e : ReadError} (h : r.read.result = .error e) :
    r.read.batch = {} ∧ ∃ more : Batch, r.read.reader.carry = r.carry ++ more := by
  have hbatch : r.read.batch = {} := by rw [ReadStep.batch, h]
  obtain ⟨k, -, hkept, -⟩ := read_conserves r
  rw [hbatch, Batch.empty_append] at hkept
  exact ⟨hbatch, _, hkept⟩

/-- A reader that has just been opened stands behind the header and keeps nothing. -/
theorem openSource_eq_ok {options : ReaderOptions} {source : Source} {r : Reader}
    (h : (openSource options source).result = .ok r) :
    ∃ window header, options.window = .ok window ∧ (Header.read source).result = .ok header ∧
      r = { header, window, headerLength := (Header.read source).consumed
            payload := { source := (Header.read source).source, chunkWords := options.chunkWords }
            search := options.search } := by
  rw [openSource] at h
  split at h
  · cases h
  · rename_i window hwindow
    dsimp only at h
    split at h
    · cases h
    · rename_i header hheader
      cases h
      exact ⟨window, header, hwindow, hheader, rfl⟩

/-- However a recording is cut and wherever it fails, what the calls have returned and then what is
kept are all that its chunks have given so far, in order. A call that fails neither returns nor
discards anything. -/
theorem handedOut_append_carry {options : ReaderOptions} {source : Source} {r : Reader}
    (h : (openSource options source).result = .ok r) (n : Nat) :
    (∃ k, (r.after n).payload = r.payload.after k ∧
        r.handedOut n ++ (r.after n).carry = r.payload.gathered k) ∧
      (r.after n).readEvents = (r.handedOut n).events.length ∧
      (∃ head taken, source.content = head ++ taken ++ (r.after n).payload.source.content ∧
        head.length = r.headerLength ∧ (r.after n).position = r.headerLength + taken.length) ∧
      ∀ e, (r.after n).read.result = .error e →
        r.handedOut (n + 1) = r.handedOut n ∧
          ∃ more : Batch, (r.after (n + 1)).carry = (r.after n).carry ++ more := by
  obtain ⟨window, header, -, hheader, hr⟩ := openSource_eq_ok h
  obtain ⟨head, hhead, hlength⟩ := Header.content_of_read hheader
  obtain ⟨k, hpayload, hkept, hcount⟩ := handedOut_conserves r n
  obtain ⟨-, hsame, -, -⟩ := after_keeps r n
  obtain ⟨taken, htaken, hbytes⟩ := r.payload.after_takes k
  have hcarry : r.carry = {} := by rw [hr]; rfl
  refine ⟨⟨k, hpayload, ?_⟩, ?_, ⟨head, taken, ?_, ?_, ?_⟩, ?_⟩
  · rw [hkept, hcarry, Batch.empty_append]
  · rw [hcount, hr, Nat.zero_add]
  · have hsource : (Header.read source).source = r.payload.source := by rw [hr]
    rw [hhead, hsource, htaken, hpayload, List.append_assoc]
  · rw [hr, ← hlength]
  · rw [position, hsame, hpayload, hbytes, hr, Nat.zero_add]
  · intro e he
    obtain ⟨hnone, more, hmore⟩ := read_error he
    refine ⟨?_, more, ?_⟩
    · rw [handedOut_succ, hnone, Batch.append_empty]
    · rw [after_succ, hmore]

/-- A recording that fails behind its first event, and then goes on with another one. -/
def faultySource : Source :=
  [.bytes [0x25, 0x20, 0x65, 0x6E, 0x64, 0x0A], .bytes [0x00, 0x80, 0x03, 0x60, 0x05, 0x20],
    .failure "disk failure", .bytes [0x06, 0x20]]

theorem handedOut_append_carry_faulty :
    ∃ r, (openSource {} faultySource).result = .ok r ∧ r.headerLength = 6 ∧
      (∃ k, (r.after 3).payload = r.payload.after k ∧
        r.handedOut 3 ++ (r.after 3).carry = r.payload.gathered k) ∧
      (r.after 3).readEvents = (r.handedOut 3).events.length := by
  -- The header is the one line that ends it; the words of the payload need not be read.
  have hpeek : faultySource.peek =
      (.ok (Header.percent :: [0x20, 0x65, 0x6E, 0x64, 0x0A]), faultySource) := rfl
  have hline : faultySource.readLine =
      (.ok (Utf8.encode ['%', ' ', 'e', 'n', 'd', '\n']), .bytes [] :: faultySource.tail) := rfl
  have hread : Header.readLines {} 0 #[] faultySource =
      Header.finishRead {} 6 #[] (.bytes [] :: faultySource.tail) true :=
    Header.readLines_of_end hpeek hline ((Header.lineText_encode _).trans (by decide))
  have hwindow : ({} : ReaderOptions).window = .ok {} := by decide
  obtain ⟨r, hr, hlength⟩ :
      ∃ r, (openSource {} faultySource).result = .ok r ∧ r.headerLength = 6 := by
    rw [openSource, hwindow, Header.read, hread]
    exact ⟨_, rfl, rfl⟩
  obtain ⟨hkept, hcount, -, -⟩ := handedOut_append_carry hr 3
  exact ⟨r, hr, hlength, hkept, hcount⟩

end Reader

end EventCamera
