/-
NativeBindings/Proofs/Files/Writing.lean

What writing leaves behind.  An update (`IsUpdate`) tells a file system from an earlier one by the
files written in between:

  content at a location after = last content written to a path that leads there,
                                or else the content at the location before

where paths are followed after the update.  New directories may lie anywhere and none is gone.
Making directories, however many of them, is an update that writes nothing
(`IsUpdate.of_makesDirectories`), writing one file is an update, and one update after another is an
update (`IsUpdate.trans`), since the paths of the first one still lead where they led.
-/
import Mathlib.Data.List.Nodup
import Mathlib.Logic.Relation
import NativeBindings.Files.FileSystem
import NativeBindings.Proofs.Files.Resolution

namespace NativeBindings.Files

/-- The bytes of an entry that is a file. -/
def Entry.bytes? : Entry → Option ByteArray
  | directory => none
  | file bytes => some bytes

namespace FileSystem

variable {files after last : FileSystem} {location : Location} {path content : String}

/-! ### Content -/

/-- The bytes of the file at a location. -/
def fileAt? (files : FileSystem) (location : Location) : Option ByteArray :=
  (files.find? location).bind Entry.bytes?

theorem fileAt?_put {entry : Entry} (hlocation : location ≠ []) (other : Location) :
    (files.put location entry).fileAt? other =
      if other = location then entry.bytes? else files.fileAt? other := by
  rw [fileAt?, find?_put hlocation]
  split
  · exact Option.bind_some entry Entry.bytes?
  · rfl

/-- The bytes of a text are a text. -/
theorem fromUTF8?_toUTF8 (text : String) : String.fromUTF8? text.toUTF8 = some text := by
  have hvalid : text.toUTF8.IsValidUTF8 := text.isValidUTF8
  rw [String.fromUTF8?, dif_pos hvalid]
  rfl

section Named

variable {parent : Location} {name : String}

theorem readBytes_of_named (h : files.resolve path = .ok (.named parent name)) :
    files.readBytes path =
      match files.find? (parent ++ [name]) with
      | none => .error .notFound
      | some .directory => .error .isDirectory
      | some (.file bytes) => .ok bytes := by
  unfold readBytes
  rw [h]
  rfl

theorem write_of_named (h : files.resolve path = .ok (.named parent name)) :
    files.write path content =
      match files.find? (parent ++ [name]) with
      | some .directory => .error .isDirectory
      | _ => .ok (files.put (parent ++ [name]) (.file content.toUTF8)) := by
  unfold write
  rw [h]
  rfl

end Named

/-- The text at a location is read under each path that leads there. -/
theorem read_eq_ok (hlocation : files.location? path = some location)
    (hfile : files.fileAt? location = some content.toUTF8) : files.read path = .ok content := by
  obtain ⟨parent, name, hresolve, rfl⟩ := location?_eq_some_iff.mp hlocation
  obtain ⟨entry, hfind, hentry⟩ := Option.bind_eq_some_iff.mp hfile
  cases entry with
  | directory => cases hentry
  | file bytes =>
    obtain rfl := Option.some.inj hentry
    rw [read, readBytes_of_named hresolve, hfind]
    dsimp only [bind, Except.bind]
    rw [fromUTF8?_toUTF8]
    rfl

/-- Paths that lead to one location are read alike. -/
theorem read_congr {other : String} (h : files.location? path = some location)
    (hother : files.location? other = some location) : files.read path = files.read other := by
  obtain ⟨parent, name, hresolve, rfl⟩ := location?_eq_some_iff.mp h
  obtain ⟨otherParent, otherName, hotherResolve, heq⟩ := location?_eq_some_iff.mp hother
  rw [read, read, readBytes_of_named hresolve, readBytes_of_named hotherResolve, heq]

/-- A file is written at the location that its path names, unless a directory lies there. -/
theorem exists_of_write_eq_ok (h : files.write path content = .ok after) :
    ∃ location, files.location? path = some location ∧ files.find? location ≠ some .directory ∧
      after = files.put location (.file content.toUTF8) := by
  rcases hresolve : files.resolve path with cause | ⟨place⟩ | ⟨parent, name⟩
  · rw [write, hresolve] at h
    cases h
  · rw [write, hresolve] at h
    cases h
  · rw [write_of_named hresolve] at h
    refine ⟨parent ++ [name], location?_eq_some_iff.mpr ⟨parent, name, hresolve, rfl⟩, ?_⟩
    split at h
    case h_1 => cases h
    case h_2 hnot =>
      cases h
      exact ⟨hnot, rfl⟩

theorem write_eq_ok (content : String) (hlocation : files.location? path = some location)
    (hnot : files.find? location ≠ some .directory) :
    files.write path content = .ok (files.put location (.file content.toUTF8)) := by
  obtain ⟨parent, name, hresolve, rfl⟩ := location?_eq_some_iff.mp hlocation
  rw [write_of_named hresolve]
  split
  case h_1 hdirectory => exact absurd hdirectory hnot
  case h_2 => rfl

/-- No file is written over a directory. -/
theorem write_eq_error (content : String) (hlocation : files.location? path = some location)
    (hdirectory : files.find? location = some .directory) :
    files.write path content = .error .isDirectory := by
  obtain ⟨parent, name, hresolve, rfl⟩ := location?_eq_some_iff.mp hlocation
  rw [write_of_named hresolve, hdirectory]

/-- A directory is made where nothing lies. -/
theorem exists_of_makeDirectory_eq_ok (h : files.makeDirectory path = .ok after) :
    ∃ location, location ≠ [] ∧ files.find? location = none ∧
      after = files.put location .directory := by
  unfold makeDirectory at h
  rcases hcheck : checkPath path with cause | ⟨⟩
  · rw [hcheck] at h
    cases h
  rcases hresolve : files.resolveParts (files.start path) (partsOfDirectory path) with
    cause | ⟨place⟩ | ⟨parent, name⟩
  · rw [hcheck, hresolve] at h
    cases h
  · rw [hcheck, hresolve] at h
    cases h
  · rw [hcheck, hresolve] at h
    dsimp only [bind, Except.bind] at h
    refine ⟨parent ++ [name], List.concat_ne_nil name parent, ?_⟩
    split at h
    case h_1 => cases h
    case h_2 hnone =>
      cases h
      exact ⟨hnone, rfl⟩

/-! ### Directories -/

/-- Some directories are made, one after the other. -/
def MakesDirectories : FileSystem → FileSystem → Prop :=
  Relation.ReflTransGen fun files after => ∃ path, files.makeDirectory path = .ok after

/-- A chain of directories is made one directory at a time, as far as it can be. -/
theorem makesDirectories_makeChain (paths : List String) (files : FileSystem) :
    MakesDirectories files (makeChain paths files).2 := by
  induction paths generalizing files with
  | nil => exact .refl
  | cons path above ih =>
    rw [makeChain]
    split
    case h_1 made hmade => exact .single ⟨path, hmade⟩
    case h_2 =>
      have habove := ih files
      split
      case h_1 cause made hmade =>
        rw [hmade] at habove
        exact habove
      case h_2 made hmade =>
        rw [hmade] at habove
        split
        case h_1 whole hwhole => exact habove.tail ⟨path, hwhole⟩
        case h_2 => exact habove
    case h_3 => exact .refl

theorem makesDirectories (path : String) (files : FileSystem) :
    MakesDirectories files (makeDirectories path files).2 := by
  unfold makeDirectories
  split
  · exact .refl
  · exact makesDirectories_makeChain (path :: parents path) files

/-! ### Updates -/

/-- Of some files, each with its path and its content, the last content for a location. -/
def lastContent? (files : FileSystem) (written : List (String × String)) (location : Location) :
    Option String :=
  ((written.filter fun file => files.location? file.1 = some location).getLast?).map Prod.snd

theorem lastContent?_append (written more : List (String × String)) :
    files.lastContent? (written ++ more) location =
      (files.lastContent? more location).or (files.lastContent? written location) := by
  rw [lastContent?, List.filter_append, List.getLast?_append, Option.map_or]
  rfl

theorem exists_of_lastContent?_eq_some {written : List (String × String)}
    (h : files.lastContent? written location = some content) :
    ∃ path, (path, content) ∈ written ∧ files.location? path = some location := by
  obtain ⟨⟨path, _⟩, hlast, rfl⟩ := Option.map_eq_some_iff.mp h
  obtain ⟨hmem, hlocation⟩ := List.mem_filter.mp (List.mem_of_getLast? hlast)
  exact ⟨path, hmem, of_decide_eq_true hlocation⟩

/-- Whatever has been written to a location, there is a last content of it. -/
theorem exists_lastContent?_eq_some {written : List (String × String)}
    (hmem : (path, content) ∈ written) (hlocation : files.location? path = some location) :
    ∃ last, files.lastContent? written location = some last := by
  have hfilter : (path, content) ∈
      written.filter fun file => files.location? file.1 = some location :=
    List.mem_filter.mpr ⟨hmem, decide_eq_true hlocation⟩
  exact ⟨_, congrArg (Option.map Prod.snd)
    (List.getLast?_eq_some_getLast (List.ne_nil_of_mem hfilter))⟩

/-- A file system after some files are written, each given by its path and its content. -/
structure IsUpdate (files : FileSystem) (written : List (String × String)) (after : FileSystem) :
    Prop where
  keepsDirectories : KeepsDirectories files after
  /-- The path of each file leads somewhere. -/
  located : ∀ path content, (path, content) ∈ written →
    ∃ location, after.location? path = some location
  fileAt?_eq : ∀ location, after.fileAt? location =
    ((after.lastContent? written location).map String.toUTF8).or (files.fileAt? location)

namespace IsUpdate

variable {written more : List (String × String)}

/-- Nothing is written where no file changes. -/
theorem of_fileAt?_eq (hkeeps : KeepsDirectories files after)
    (h : ∀ location, after.fileAt? location = files.fileAt? location) :
    IsUpdate files [] after where
  keepsDirectories := hkeeps
  located := by
    intro path content hmem
    cases hmem
  fileAt?_eq := h

theorem refl (files : FileSystem) : IsUpdate files [] files :=
  of_fileAt?_eq (KeepsDirectories.refl files) fun _ => rfl

theorem trans (h : IsUpdate files written after) (hlast : IsUpdate after more last) :
    IsUpdate files (written ++ more) last where
  keepsDirectories := h.keepsDirectories.trans hlast.keepsDirectories
  located := by
    intro path content hmem
    rcases List.mem_append.mp hmem with hmem | hmem
    · obtain ⟨location, hlocation⟩ := h.located path content hmem
      exact ⟨location, hlast.keepsDirectories.location? hlocation⟩
    · exact hlast.located path content hmem
  fileAt?_eq := by
    intro location
    -- the paths of the first update lead where they led when it was made
    have hsame : last.lastContent? written location = after.lastContent? written location := by
      unfold lastContent?
      congr 2
      refine List.filter_congr fun ⟨path, content⟩ hmem => ?_
      obtain ⟨place, hplace⟩ := h.located path content hmem
      rw [hplace, hlast.keepsDirectories.location? hplace]
    rw [hlast.fileAt?_eq, h.fileAt?_eq, lastContent?_append, Option.map_or, Option.or_assoc, hsame]

/-- A file is written. -/
theorem of_write (h : files.write path content = .ok after) :
    IsUpdate files [(path, content)] after := by
  obtain ⟨location, hlocation, hnot, rfl⟩ := exists_of_write_eq_ok h
  have hroot := ne_nil_of_location? hlocation
  have hkeeps : KeepsDirectories files (files.put location (.file content.toUTF8)) :=
    KeepsDirectories.put hroot fun hdirectory => absurd hdirectory hnot
  have hplace := hkeeps.location? hlocation
  refine ⟨hkeeps, ?_, ?_⟩
  · intro other bytes hmem
    obtain ⟨rfl, rfl⟩ := Prod.mk.inj (List.mem_singleton.mp hmem)
    exact ⟨location, hplace⟩
  · intro other
    rw [fileAt?_put hroot, lastContent?, List.filter_singleton, hplace]
    rcases eq_or_ne other location with rfl | hother
    · simp [Entry.bytes?]
    · simp [hother, hother.symm]

theorem of_makeDirectory (h : files.makeDirectory path = .ok after) : IsUpdate files [] after := by
  obtain ⟨location, hroot, hnone, rfl⟩ := exists_of_makeDirectory_eq_ok h
  refine of_fileAt?_eq (KeepsDirectories.put hroot fun _ => rfl) fun other => ?_
  rw [fileAt?_put hroot]
  split
  case isTrue heq =>
    rw [heq, fileAt?, hnone]
    rfl
  case isFalse => rfl

/-- Where directories are made, no file is written. -/
theorem of_makesDirectories (h : MakesDirectories files after) : IsUpdate files [] after := by
  induction h with
  | refl => exact refl files
  | tail _ hmade ih =>
    obtain ⟨path, hmade⟩ := hmade
    exact ih.trans (of_makeDirectory hmade)

/-! ### Reading after an update -/

variable (h : IsUpdate files written after)
include h

/-- The path of a written file is read as the last content for its location. -/
theorem exists_read_eq_ok (hmem : (path, content) ∈ written) :
    ∃ location last, after.location? path = some location ∧
      after.lastContent? written location = some last ∧ after.read path = .ok last := by
  obtain ⟨location, hlocation⟩ := h.located path content hmem
  obtain ⟨last, hlast⟩ := exists_lastContent?_eq_some hmem hlocation
  refine ⟨location, last, hlocation, hlast, read_eq_ok hlocation ?_⟩
  rw [h.fileAt?_eq, hlast]
  rfl

/-- Files whose paths lead to different locations all have their content. -/
theorem read_eq_ok_of_nodup (hnodup : (written.map fun file => after.location? file.1).Nodup)
    (hmem : (path, content) ∈ written) : after.read path = .ok content := by
  obtain ⟨location, last, hlocation, hlast, hread⟩ := h.exists_read_eq_ok hmem
  obtain ⟨other, hother, hsame⟩ := exists_of_lastContent?_eq_some hlast
  obtain ⟨rfl, rfl⟩ := Prod.mk.inj
    (List.inj_on_of_nodup_map hnodup hmem hother (hlocation.trans hsame.symm))
  exact hread

end IsUpdate

end FileSystem

end NativeBindings.Files
