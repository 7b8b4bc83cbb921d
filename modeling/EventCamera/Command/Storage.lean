import EventCamera.Bytes.Sink
import EventCamera.Recording.File
/-!
# Files by name

The files that the command line reads and writes, the directories that they are in, and the
devices. A file that is written is changed whenever the buffer in front of it is passed on, so that
two outlets to one file, or an outlet to a file that is being read, meet each other's bytes.

## Main definitions

* `Storage` — files and directories
* `Place.of` — what a path leads to
* `Storage.read` — a file that is opened for reading
* `Storage.create` — an outlet to an empty file in place of what was there, if that can be
* `Storage.patch`, `Storage.write` — put bytes over those that are there
* `Outlet.settle` — passes on what a sink has accepted

## Main results

* `Storage.find?_put_self`, `Storage.find?_put_of_ne` — a file that is put is there, and no other
  one changes
-/

namespace EventCamera

/-- Why a path cannot be used. -/
inductive PathError where
  | notFound
  | notDirectory
  | isDirectory
  | nameTooLong
deriving DecidableEq

/-- The wording of an error, with the number that the system gives it. -/
def PathError.message : PathError → String
  | notFound => "No such file or directory (os error 2)"
  | notDirectory => "Not a directory (os error 20)"
  | isDirectory => "Is a directory (os error 21)"
  | nameTooLong => "File name too long (os error 36)"

/-- The wording of the refusal of a device without room. -/
def noSpaceMessage : String := "No space left on device (os error 28)"

/-- The names that lead to a file or a directory: from the current directory on, or from the root,
which is named `/`. The name `..` stands in front of all others. -/
abbrev Location := List String

namespace Location

/-- The directory above. The root is above itself. -/
def parent (d : Location) : Location :=
  if d = ["/"] then d else if d.all (· = "..") then ".." :: d else d.dropLast

/-- Where a name in a directory leads. -/
def enter (d : Location) (name : String) : Location :=
  if name = "." then d else if name = ".." then d.parent else d ++ [name]

/-- The directory that a path starts in. -/
def startOf (path : String) : Location := if path.toList.head? = some '/' then ["/"] else []

end Location

/-- The names in a path, which stand between slashes. -/
def pathNames (path : String) : List String :=
  ((Text.fields '/' path.toList).filter (· ≠ [])).map String.ofList

/-- A path with a slash at its end, which demands a directory there. -/
def endsInSlash (path : String) : Bool := path.toList.getLast? = some '/'

/-- The last name in a path, empty if it ends in none. -/
def fileName (path : String) : String :=
  match ((pathNames path).filter (· ≠ ".")).getLast? with
  | some name => if name = ".." then "" else name
  | none => ""

/-- Something with the name of a file that keeps no bytes. -/
inductive Device where
  /-- It takes everything and gives nothing. -/
  | sinkhole
  /-- It takes nothing. -/
  | full
  /-- It gives what the program is fed with. -/
  | input
  /-- It shows what it takes where the program shows its results. -/
  | output
  /-- It shows what it takes where the program shows its failures. -/
  | complaints
deriving DecidableEq

/-- The devices, each with its location. -/
def Device.table : List (Location × Device) :=
  [(["/", "dev", "null"], .sinkhole), (["/", "dev", "zero"], .sinkhole),
    (["/", "dev", "full"], .full),
    (["/", "dev", "stdin"], .input), (["/", "dev", "fd", "0"], .input),
    (["/", "dev", "stdout"], .output), (["/", "dev", "fd", "1"], .output),
    (["/", "dev", "stderr"], .complaints), (["/", "dev", "fd", "2"], .complaints)]

/-- The device at a location, if there is one. -/
def Device.at? (location : Location) : Option Device := table.lookup location

/-- The directories that are there by custom. -/
def customaryDirectories : List Location :=
  ["/", "dev", "fd"] ::
    ["bin", "boot", "dev", "etc", "home", "lib", "lib64", "media", "mnt", "opt", "proc", "root",
      "run", "sbin", "srv", "sys", "tmp", "usr", "var"].map fun name => ["/", name]

/-- Files, and the directories that they may be in. -/
structure Storage where
  /-- The files, each with its content. -/
  files : List (Location × ByteArray) := []
  /-- The directories besides the root, the current one and those above it. -/
  directories : List Location := customaryDirectories
  /-- What the program is fed with. -/
  input : ByteArray := .empty
  /-- What has been shown of its results. -/
  shown : ByteArray := .empty
  /-- What has been shown besides by way of a device. -/
  complaints : ByteArray := .empty

/-- What a path leads to. -/
inductive Place where
  /-- A file in a directory, whether it exists or not. -/
  | file (location : Location)
  | device (device : Device)
  | directory
  /-- Nothing: the path cannot be followed, or what it names must be a directory. -/
  | nowhere (reading writing : PathError)
deriving DecidableEq

namespace Storage

/-- Files given by their paths. -/
def ofFiles (files : List (String × ByteArray)) : Storage :=
  { files := files.map fun (path, content) =>
      ((pathNames path).foldl Location.enter (Location.startOf path), content) }

/-- The content of a file, if there is one. -/
def find? (s : Storage) (location : Location) : Option ByteArray := s.files.lookup location

/-- Puts a file in place of what was there. -/
def put (s : Storage) (location : Location) (content : ByteArray) : Storage :=
  { s with files := (location, content) :: s.files.filter fun (other, _) => other != location }

/-- Nothing has been shown yet. -/
def silent (s : Storage) : Storage := { s with shown := .empty, complaints := .empty }

/-- Shows a text. -/
def print (s : Storage) (text : String) : Storage := { s with shown := s.shown ++ text.toUTF8 }

/-- There is a directory. -/
def isDirectory (s : Storage) (location : Location) : Bool :=
  location == ["/"] || location.all (· = "..") || s.directories.contains location

/-- There is a file or a device. -/
def holds (s : Storage) (location : Location) : Bool :=
  (s.find? location).isSome || (Device.at? location).isSome

/-- Number of bytes that a name may have at most. -/
def maxNameBytes : Nat := 255

/-- Number of bytes that a path may have at most. -/
def maxPathBytes : Nat := 4095

/-- Why there is nothing by a name that nothing has. -/
def absence (name : String) : PathError :=
  if maxNameBytes < name.utf8ByteSize then .nameTooLong else .notFound

/-- Goes from a directory into another one. -/
def follow (s : Storage) (d : Location) (name : String) : Except PathError Location :=
  let next := d.enter name
  if s.isDirectory next then .ok next
  else if s.holds next then .error .notDirectory
  else .error (absence name)

/-- What a name in a directory leads to. A slash behind it demands a directory; none is made for
it. -/
def placeIn (s : Storage) (d : Location) (name : String) (slash : Bool) : Place :=
  let location := d.enter name
  if s.isDirectory location then .directory
  else if slash then
    -- Only a reader is told what is missing; a file is never made with a slash behind its name.
    .nowhere (if s.holds location then .notDirectory else absence name) .isDirectory
  else
    match Device.at? location with
    | some device => .device device
    | none =>
      if maxNameBytes < name.utf8ByteSize then .nowhere .nameTooLong .nameTooLong
      else .file location

end Storage

/-- What a path leads to. Its names are followed one by one. -/
def Place.of (s : Storage) (path : String) : Place :=
  if path = "" then .nowhere .notFound .notFound
  else if Storage.maxPathBytes < path.utf8ByteSize then .nowhere .nameTooLong .nameTooLong
  else
    let names := pathNames path
    match names.getLast? with
    | none => .directory
    | some name =>
      -- All names but the last must lead to directories.
      match names.dropLast.foldlM s.follow (Location.startOf path) with
      | .error e => .nowhere e e
      | .ok d => s.placeIn d name (endsInSlash path)

/-- The file at a place, if it is one for files. -/
def Place.location? : Place → Option Location
  | .file location => some location
  | _ => none

namespace Storage

/-- What opening a file for reading gives: its content, or the failure of every read. -/
inductive Opened where
  | content (bytes : List UInt8)
  /-- Something that cannot be read from. -/
  | unreadable (cause : PathError)

/-- Opens a file for reading. A directory can be opened, but not read. -/
def read (s : Storage) (path : String) : Except PathError Opened :=
  match Place.of s path with
  | .file location =>
    match s.find? location with
    | some content => .ok (.content content.toList)
    | none => .error .notFound
  -- Of the devices only one gives anything.
  | .device .input => .ok (.content s.input.toList)
  | .device _ => .ok (.content [])
  | .directory => .ok (.unreadable .isDirectory)
  | .nowhere reading _ => .error reading

/-- The source that an opened file is to the reader of a recording. -/
def Opened.recording : Opened → Source
  | .content bytes => Source.ofFile bytes
  | .unreadable cause => [.failure cause.message]

/-- The source that an opened file is to the reader of a table. -/
def Opened.table : Opened → Source
  | .content bytes => [.bytes bytes]
  | .unreadable cause => [.failure cause.message]

/-- Number of bytes of a file. Devices have none. -/
def size (s : Storage) (path : String) : Nat :=
  match Place.of s path with
  | .file location => ((s.find? location).getD .empty).size
  | _ => 0

/-- Bytes with others put over them from an offset on, behind zeros if they do not reach up to
there. -/
def overlay (content : ByteArray) (offset : Nat) (bytes : ByteArray) : ByteArray :=
  content.extract 0 offset ++ (List.replicate (offset - content.size) 0).toByteArray ++ bytes ++
    content.extract (offset + bytes.size) content.size

/-- Puts bytes over those that are there from an offset on. What a device takes has no offset. -/
def patch (s : Storage) (place : Place) (offset : Nat) (bytes : ByteArray) : Storage :=
  match place with
  | .file location =>
    s.put location (overlay ((s.find? location).getD .empty) offset bytes)
  | .device .output => { s with shown := s.shown ++ bytes }
  | .device .complaints => { s with complaints := s.complaints ++ bytes }
  | _ => s

/-- Puts all bytes that a created file has taken to their place. -/
def write (s : Storage) (path : String) (bytes : ByteArray) : Storage :=
  s.patch (Place.of s path) 0 bytes

end Storage

/-- A place that bytes are written to by way of a buffer. -/
structure Outlet where
  place : Place
  sink : BufferedSink
  /-- Number of bytes that have come to the place. -/
  settled : Nat := 0

/-- Puts the bytes that the sink has accepted since the last time to their place. -/
def Outlet.settle (o : Outlet) (s : Storage) : Outlet × Storage :=
  let accepted := o.sink.sink.accepted
  if accepted.size = o.settled then (o, s)
  else
    ({ o with settled := accepted.size },
      s.patch o.place o.settled (accepted.extract o.settled accepted.size))

namespace Storage

/-- Creates an empty file in place of what was there, and an outlet to it. -/
def create (s : Storage) (path : String) : Except PathError (Storage × Outlet) :=
  match Place.of s path with
  | .file location =>
    .ok (s.put location .empty, { place := .file location, sink := { sink := {} } })
  -- The refusal shows when the buffer is passed on, not when the device is opened.
  | .device .full =>
    .ok (s,
      { place := .device .full
        sink := { sink := { limit := some 0, refusal := noSpaceMessage } } })
  | .device device => .ok (s, { place := .device device, sink := { sink := {} } })
  | .directory => .error .isDirectory
  | .nowhere _ writing => .error writing

@[simp] theorem find?_put_self (s : Storage) (location : Location) (content : ByteArray) :
    (s.put location content).find? location = some content := by
  simp [put, find?]

theorem find?_put_of_ne (s : Storage) {location other : Location} (content : ByteArray)
    (h : other ≠ location) : (s.put location content).find? other = s.find? other := by
  have hb : (other == location) = false := by simpa using h
  simp only [put, find?, List.lookup_cons, hb]
  induction s.files with
  | nil => rfl
  | cons file files ih =>
    obtain ⟨name, bytes⟩ := file
    -- A file of the same name is left out, and is not the one that is looked for.
    by_cases hn : name = location
    · subst hn
      simp only [bne_self_eq_false, Bool.false_eq_true, not_false_eq_true, List.filter_cons_of_neg,
        List.lookup_cons, hb]
      exact ih
    · rw [List.filter_cons_of_pos (by simpa using hn)]
      simp only [List.lookup_cons]
      split
      · rfl
      · exact ih

end Storage

end EventCamera
