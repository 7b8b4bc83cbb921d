import EventCamera.Recording.Reader
/-!
# Recordings in files

A file is read in blocks as long as its header lasts. Behind the header the rest of the block at
hand is given at once, and after it all that is asked for.

## Main definitions

* `wholeBlocks` — the bytes of the blocks that some bytes touch
* `loadedPart` — what has been read of a file when its header is over
* `Source.ofFile` — the source that a file is
* `Source.resume` — the source that a file is once it has been read in part
* `decodeAll` — all of a recording
-/

namespace EventCamera

/-- Number of bytes of a block. -/
def fileBlock : Nat := 8192

/-- Number of bytes in the blocks that some bytes make up, the last one perhaps in part. -/
def wholeBlocks (n : Nat) : Nat := (n + fileBlock - 1) / fileBlock * fileBlock

/-- Number of bytes in the blocks that reading a header touches: those of the header, and the next
byte if that shows that the header is over. -/
def loadedBytes (consumed : Nat) (ended : Bool) : Nat :=
  wholeBlocks (if ended then consumed else consumed + 1)

/-- What has been read of a file when its header is over. -/
def loadedPart (content : List UInt8) : List UInt8 :=
  let start := Header.read [.bytes content]
  content.take (loadedBytes start.consumed start.ended)

/-- The source that a file is once `position` bytes of it have been read. What had been loaded
with the header is as it was then; behind it the file has the content that it has now. -/
def Source.resume (loaded content : List UInt8) (position : Nat) : Source :=
  [.bytes (loaded.drop position), .bytes (content.drop (max position loaded.length))]

/-- The source that a file is. -/
def Source.ofFile (content : List UInt8) : Source := resume (loadedPart content) content 0

/-- What reading all of a recording gives. -/
structure Decoded where
  header : Header
  batch : Batch

/-- Reads all of a recording, in windows that are as large as can be. -/
def decodeAll (source : Source) : Except ReadError Decoded × List Notice :=
  let opening := Reader.openSource { mode := .all } source
  match opening.result with
  | .error e => (.error e, opening.notices)
  | .ok reader =>
    let playback := reader.windows
    let notices := opening.notices ++ playback.allNotices
    match playback.failure with
    | some e => (.error e, notices)
    | none => (.ok ⟨reader.header, playback.batch⟩, notices)

end EventCamera
