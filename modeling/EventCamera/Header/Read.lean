import EventCamera.Bytes.Source
import EventCamera.Bytes.Utf8
import EventCamera.Header.Render
import EventCamera.Header.Resolution
/-!
# Reading a header

A header is a run of lines that start with a percent sign. It ends behind the line that says so,
or in front of the first line that starts otherwise. Bytes that are no text are replaced, and
lines that cannot be taken are reported: no header is refused.

## Main definitions

* `Header.applyLine` — takes one line
* `HeaderRead` — a header with what was left in the source
* `Header.read` — reads a header from a source
-/

namespace EventCamera

/-- What reading a header gives. -/
structure HeaderRead where
  /-- The header, or the failure of the source. -/
  result : Except String Header
  /-- Number of bytes read. -/
  consumed : Nat
  /-- The reports on the lines. -/
  notices : List Notice
  /-- What is still to be read. -/
  source : Source
  /-- The header had a last line that says so. -/
  ended : Bool

namespace Header

/-- Takes the value of a key. -/
def assign (h : Header) (key : HeaderKey) (value : List Char) : Except HeaderValueError Header :=
  let text := String.ofList value
  match key with
  | .cameraIntegratorName => .ok { h with cameraIntegratorName := text }
  | .date =>
    match DateTime.parse value with
    | .ok date => .ok { h with date := some date }
    | .error e => .error (.date e)
  | .evt => .ok { h with evt := some text }
  | .format => .ok { h with format := some text }
  | .generation => .ok { h with generation := some text }
  | .geometry => .ok { h with geometry := some text }
  | .integratorName => .ok { h with integratorName := text }
  | .pluginIntegratorName => .ok { h with pluginIntegratorName := some text }
  | .pluginName => .ok { h with pluginName := some text }
  | .sensorGeneration => .ok { h with sensorGeneration := some text }
  | .sensorName => .ok { h with sensorName := some text }
  | .serialNumber => .ok { h with serialNumber := text }
  | .systemId =>
    match Numeral.parse32 value with
    | .ok systemId => .ok { h with systemId }
    | .error e => .error (.number e)

/-- The key of a line in lower case, and its value: what stands before and after the first space,
percent signs at the start and blanks around either aside. -/
def splitLine (line : List Char) : List Char × List Char :=
  let body := Text.trim (line.dropWhile (· == '%'))
  match Text.cut ' ' body with
  | some (key, value) => (Text.lower key, Text.trim value)
  | none => (Text.lower body, [])

/-- Takes one line, blanks at its end removed. -/
def applyLine (h : Header) (line : List Char) : Header × List Notice :=
  let (name, value) := splitLine line
  match HeaderKey.ofName? name with
  | none => (h, [.unknownKey (String.ofList name) (String.ofList line)])
  | some key =>
    match h.assign key value with
    | .ok h => (h, [])
    | .error e => (h, [.headerValue (String.ofList line) e])

/-- The byte that starts a header line. -/
def percent : UInt8 := 37

/-- The text of a line: blanks at its end are removed, its line feed among them. -/
def lineText (line : List UInt8) : List Char := Text.trimEnd (Utf8.decodeLossy line)

/-- Resolves a header whose lines have all been read. -/
def finishRead (h : Header) (consumed : Nat) (notices : Array Notice) (source : Source)
    (ended : Bool) : HeaderRead :=
  let (h, more) := h.resolve
  { result := .ok h, consumed, notices := (notices ++ more).toList, source, ended }

end Header

namespace Source

theorem ne_nil_of_peek {src rest : Source} {b : UInt8} {bs : List UInt8}
    (h : src.peek = (.ok (b :: bs), rest)) : rest ≠ [] := by
  fun_induction peek src with
  | case1 => simp at h
  | case2 src ih => exact ih h
  | case3 => simp only [Prod.mk.injEq] at h; rw [← h.2]; simp
  | case4 => simp at h
  | case5 => simp at h
  | case6 => simp at h

end Source

namespace Header

/-- Reads the lines that are left of a header. -/
def readLines (h : Header) (consumed : Nat) (notices : Array Notice) (src : Source) : HeaderRead :=
  match _hp : src.peek with
  | (.error fault, rest) =>
    { result := .error fault.message, consumed, notices := notices.toList, source := rest,
      ended := false }
  | (.ok [], rest) => h.finishRead consumed notices rest false
  | (.ok (b :: _), rest) =>
    -- The first byte that starts no header line is left for the reader of the payload.
    if b = percent then
      match _hl : rest.readLine with
      | (.error message, rest) =>
        { result := .error message, consumed, notices := notices.toList, source := rest,
          ended := false }
      | (.ok line, rest) =>
        let consumed := consumed + line.length
        let text := lineText line
        -- The line that ends a header is counted, but says nothing.
        if text = endLine then h.finishRead consumed notices rest true
        else
          let (h, more) := h.applyLine text
          readLines h consumed (notices ++ more) rest
    else h.finishRead consumed notices rest false
termination_by src.size
decreasing_by
  have h₁ := Source.size_peek_le src
  have h₂ := Source.size_readLine_lt (Source.ne_nil_of_peek _hp)
  rw [_hp] at h₁
  rw [_hl] at h₂
  exact Nat.lt_of_lt_of_le h₂ h₁

/-- Reads a header. -/
def read (src : Source) : HeaderRead := readLines {} 0 #[] src

end Header

end EventCamera
