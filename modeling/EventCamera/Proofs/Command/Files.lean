import EventCamera.Command.Storage
import EventCamera.Proofs.Bytes.Sink

/-!
# Files that are written by way of a buffer

A path that leads to a file goes on leading there while files are written, as no directory is made
or removed. A file that is created and written to through a buffer holds at any time what the sink
behind the buffer has accepted, and no other file changes.

## Main definitions

* `Storage.SameBut` — storages that agree but for the file at a location
* `Outlet.Fills` — an outlet through which a file has been given some bytes

## Main results

* `Storage.SameBut.place_of` — a path goes on leading to its file
* `Storage.create_of_file` — an outlet to an empty file
* `Outlet.Fills.settle` — more bytes come into the file
-/

namespace EventCamera

/-! ### Bytes of files -/

private theorem toList_loop (bs : ByteArray) (i : Nat) (taken : List UInt8) :
    ByteArray.toList.loop bs i taken = taken.reverse ++ bs.data.toList.drop i := by
  induction i, taken using ByteArray.toList.loop.induct bs with
  | case1 i taken hlt ih =>
    have hi : i < bs.data.toList.length := by rwa [length_toList_data]
    have hget : bs.get! i = bs.data.toList[i] := by
      rw [ByteArray.get!, Array.getElem_toList]
      exact getElem!_pos bs.data i hi
    rw [ByteArray.toList.loop, if_pos hlt, ih, List.reverse_cons, List.append_assoc,
      List.drop_eq_getElem_cons hi, hget, List.singleton_append]
  | case2 i taken hge =>
    rw [ByteArray.toList.loop, if_neg hge, List.drop_eq_nil_of_le, List.append_nil]
    rw [length_toList_data]
    exact Nat.not_lt.1 hge

theorem toList_eq_toList_data (bs : ByteArray) : bs.toList = bs.data.toList :=
  toList_loop bs 0 []

/-- Bytes with those behind them are all the bytes. -/
theorem append_extract_of_isPrefix {a b : ByteArray} (h : a.data.toList <+: b.data.toList) :
    a ++ b.extract a.size b.size = b := by
  obtain ⟨more, hmore⟩ := h
  apply eq_of_toList_data
  rw [ByteArray.data_append, Array.toList_append, ByteArray.data_extract, Array.toList_extract,
    ← hmore, ← length_toList_data a, ← length_toList_data b, ← hmore]
  simp

theorem Place.location?_eq_some {place : Place} {location : Location} :
    place.location? = some location ↔ place = .file location := by
  cases place <;> simp [Place.location?]

namespace Storage

/-- Bytes that are put where a file ends come behind it. -/
theorem overlay_size (content bs : ByteArray) :
    overlay content content.size bs = content ++ bs := by
  have hbehind : content.extract (content.size + bs.size) content.size = ByteArray.empty := by
    simp
  have hfill : (List.replicate 0 (0 : UInt8)).toByteArray = ByteArray.empty := by simp
  rw [overlay, ByteArray.extract_zero_size, Nat.sub_self, hfill, hbehind, ByteArray.append_empty,
    ByteArray.append_empty]

/-! ### Storages that agree but for one file -/

/-- The storages agree but for the file at a location. -/
structure SameBut (location : Location) (s s' : Storage) : Prop where
  directories : s'.directories = s.directories
  find? : ∀ other, other ≠ location → s'.find? other = s.find? other

variable {s s' s'' : Storage} {location : Location} {path : String}

theorem SameBut.refl (location : Location) (s : Storage) : SameBut location s s :=
  ⟨rfl, fun _ _ => rfl⟩

theorem SameBut.trans (h : SameBut location s s') (h' : SameBut location s' s'') :
    SameBut location s s'' where
  directories := h'.directories.trans h.directories
  find? other hne := (h'.find? other hne).trans (h.find? other hne)

theorem sameBut_put (s : Storage) (location : Location) (content : ByteArray) :
    SameBut location s (s.put location content) where
  directories := rfl
  find? _ hne := find?_put_of_ne s content hne

theorem isDirectory_congr (h : s'.directories = s.directories) (location : Location) :
    s'.isDirectory location = s.isDirectory location := by
  rw [isDirectory, isDirectory, h]

/-- Names that can be followed can be followed where there are the same directories. -/
theorem foldlM_follow_congr (h : s'.directories = s.directories) {names : List String}
    {d d' : Location} (hfollow : names.foldlM s.follow d = .ok d') :
    names.foldlM s'.follow d = .ok d' := by
  induction names generalizing d with
  | nil => exact hfollow
  | cons name names ih =>
    rw [List.foldlM_cons] at hfollow ⊢
    by_cases hdirectory : s.isDirectory (d.enter name) = true
    · have hthere : s.follow d name = .ok (d.enter name) := if_pos hdirectory
      have hthere' : s'.follow d name = .ok (d.enter name) :=
        if_pos ((isDirectory_congr h _).trans hdirectory)
      rw [hthere] at hfollow
      rw [hthere']
      exact ih hfollow
    · rw [follow, if_neg hdirectory] at hfollow
      split at hfollow <;> cases hfollow

theorem placeIn_congr (h : s'.directories = s.directories) {d : Location} {name : String}
    {slash : Bool} (hplace : s.placeIn d name slash = .file location) :
    s'.placeIn d name slash = .file location := by
  rw [placeIn] at hplace ⊢
  rw [isDirectory_congr h]
  -- A place for files is told apart from the others by the directories alone.
  split at hplace
  · cases hplace
  · rename_i hfile
    rw [if_neg hfile]
    split at hplace
    · cases hplace
    · rename_i hslash
      rw [if_neg hslash]
      exact hplace

/-- A path that leads to a file leads there as long as there are the same directories. -/
theorem place_of_congr (h : s'.directories = s.directories)
    (hplace : Place.of s path = .file location) : Place.of s' path = .file location := by
  rw [Place.of] at hplace ⊢
  split at hplace
  · cases hplace
  · rename_i hne
    rw [if_neg hne]
    split at hplace
    · cases hplace
    · rename_i hshort
      rw [if_neg hshort]
      dsimp only at hplace ⊢
      split at hplace
      · cases hplace
      · rename_i name hname
        split at hplace
        · cases hplace
        · rename_i d hfollow
          rw [foldlM_follow_congr h hfollow]
          exact placeIn_congr h hplace

theorem SameBut.place_of (h : SameBut location s s') {other : Location}
    (hplace : Place.of s path = .file other) : Place.of s' path = .file other :=
  place_of_congr h.directories hplace

end Storage

/-! ### Outlets -/

namespace Outlet

variable {o : Outlet} {s s' : Storage} {location : Location} {bs more : List UInt8}

/-- The bytes `bs` have been written to the outlet, which puts them into a file. So far, the file
holds those that the sink has accepted. -/
structure Fills (o : Outlet) (s : Storage) (location : Location) (bs : List UInt8) : Prop where
  place : o.place = .file location
  isUnbounded : o.sink.IsUnbounded
  stream : o.sink.stream = bs
  file : s.find? location = some o.sink.sink.accepted
  settled : o.settled = o.sink.sink.accepted.size

/-- What becomes of other files does not matter. -/
theorem Fills.of_sameBut (h : o.Fills s location bs) {other : Location}
    (hsame : s.SameBut other s') (hne : location ≠ other) : o.Fills s' location bs where
  place := h.place
  isUnbounded := h.isUnbounded
  stream := h.stream
  file := (hsame.find? location hne).trans h.file
  settled := h.settled

/-- What more is written comes into the file as far as the sink accepts it, and into no other. -/
theorem Fills.settle (h : o.Fills s location bs) {sink : BufferedSink}
    (hsink : o.sink.Advances more sink) :
    ∃ o' s', { o with sink }.settle s = (o', s') ∧ o'.Fills s' location (bs ++ more) ∧
      o'.sink = sink ∧ s.SameBut location s' := by
  have hstream : sink.stream = bs ++ more := by rw [hsink.stream, h.stream]
  have hall := append_extract_of_isPrefix hsink.accepted
  rw [Outlet.settle]
  dsimp only
  split
  · rename_i hsize
    -- Nothing has been accepted since the last time.
    rw [h.settled] at hsize
    have hsame : sink.sink.accepted = o.sink.sink.accepted := by
      rw [← hall, hsize]
      simp
    exact ⟨_, s, rfl, ⟨h.place, hsink.isUnbounded, hstream, hsame ▸ h.file,
      h.settled.trans hsize.symm⟩, rfl, .refl _ s⟩
  · have hpatch : s.patch o.place o.settled
        (sink.sink.accepted.extract o.settled sink.sink.accepted.size) =
          s.put location sink.sink.accepted := by
      rw [h.place, Storage.patch, h.file, Option.getD_some, h.settled, Storage.overlay_size, hall]
    rw [hpatch]
    exact ⟨_, _, rfl, ⟨h.place, hsink.isUnbounded, hstream, Storage.find?_put_self _ _ _, rfl⟩,
      rfl, Storage.sameBut_put s location _⟩

end Outlet

/-- A file is created empty, with an outlet to it. -/
theorem Storage.create_of_file {s : Storage} {path : String} {location : Location}
    (hplace : Place.of s path = .file location) :
    ∃ s' o, s.create path = .ok (s', o) ∧ o.Fills s' location [] ∧ o.sink.sink = {} ∧
      s.SameBut location s' := by
  rw [create, hplace]
  exact ⟨_, _, rfl, ⟨rfl, rfl, rfl, find?_put_self _ _ _, rfl⟩, rfl, sameBut_put s location _⟩

end EventCamera
