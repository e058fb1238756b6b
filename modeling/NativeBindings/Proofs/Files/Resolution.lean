/-
NativeBindings/Proofs/Files/Resolution.lean

Where paths lead.  Following a path reads nothing of a file system but the directories on the way.
So a path that leads somewhere leads there for as long as no directory disappears
(`KeepsDirectories.resolve`), and whatever is written in the meantime.  Two paths with different
texts may lead to one location; the paths of two names without a slash do not
(`getLast?_of_location?_join`).
-/
import Mathlib.Data.List.Basic
import NativeBindings.Files.FileSystem
import NativeBindings.Proofs.Text.Lines

namespace NativeBindings.Files

open Text

/-! ### Entries -/

section Lookup

variable {entries : List (Location × Entry)} {location other : Location} {entry : Entry}

theorem lookup_replace_of_ne (h : other ≠ location) :
    (entries.map fun old => if old.1 = location then (location, entry) else old).lookup other =
      entries.lookup other := by
  induction entries with
  | nil => rfl
  | cons old rest ih =>
    obtain ⟨place, lying⟩ := old
    rw [List.map_cons]
    rcases eq_or_ne place location with rfl | hplace
    · rw [if_pos rfl, List.lookup_cons, List.lookup_cons, beq_false_of_ne h]
      exact ih
    · rw [if_neg hplace, List.lookup_cons, List.lookup_cons, ih]

theorem lookup_replace_self (h : ∃ old ∈ entries, old.1 = location) :
    (entries.map fun old => if old.1 = location then (location, entry) else old).lookup location =
      some entry := by
  induction entries with
  | nil =>
    obtain ⟨_, hmem, -⟩ := h
    cases hmem
  | cons old rest ih =>
    obtain ⟨place, lying⟩ := old
    rw [List.map_cons]
    rcases eq_or_ne place location with rfl | hplace
    · rw [if_pos rfl, List.lookup_cons_self]
    · rw [if_neg hplace, List.lookup_cons, beq_false_of_ne hplace.symm]
      obtain ⟨found, hmem, hfound⟩ := h
      rcases List.mem_cons.mp hmem with rfl | hmem
      · exact absurd hfound hplace
      · exact ih ⟨found, hmem, hfound⟩

end Lookup

namespace FileSystem

variable {files after last : FileSystem} {location other : Location} {entry : Entry}
  {parent : Location} {names : List String} {name path directory : String}

@[simp] theorem put_workingDirectory :
    (files.put location entry).workingDirectory = files.workingDirectory := by
  unfold put
  split <;> rfl

/-- What is put at a location lies there, and everything else where it did. -/
theorem find?_put (hlocation : location ≠ []) :
    (files.put location entry).find? other =
      if other = location then some entry else files.find? other := by
  rcases eq_or_ne other [] with rfl | hother
  · rw [if_neg hlocation.symm]
    rfl
  rw [find?, find?, if_neg hother, if_neg hother, put]
  split
  case isTrue h =>
    -- something lies there, and is replaced
    have hold : ∃ old ∈ files.entries, old.1 = location := by simpa using h
    split
    case isTrue heq => rw [heq, lookup_replace_self hold]
    case isFalse hne => rw [lookup_replace_of_ne hne]
  case isFalse h =>
    have hnone : files.entries.lookup location = none := by
      rw [List.lookup_eq_none_iff]
      intro old hmem
      simp only [List.any_eq_true, decide_eq_true_eq, not_exists, not_and] at h
      exact bne_iff_ne.mpr (Ne.symm (h old hmem))
    rw [List.lookup_append]
    split
    case isTrue heq => rw [heq, hnone, List.lookup_cons_self, Option.none_or]
    case isFalse hne =>
      rw [List.lookup_cons, beq_false_of_ne hne]
      exact Option.or_none

/-! ### Paths -/

/-- A path names a location if its last part is a name, and the parts before it lead to a
directory. -/
theorem resolve_eq_named_iff :
    files.resolve path = .ok (.named parent name) ↔
      checkPath path = .ok () ∧ (parts path).getLast? = some name ∧
        ¬ (name = "" ∨ name = "." ∨ name = "..") ∧
        files.walk (files.start path) (parts path).dropLast = .ok parent ∧
        ¬ longestName < name.utf8ByteSize := by
  rcases hcheck : checkPath path with cause | ⟨⟩
  · rw [resolve, hcheck]
    exact iff_of_false nofun nofun
  rcases hlast : (parts path).getLast? with - | last
  · rw [resolve, hcheck, resolveParts, hlast]
    exact iff_of_false nofun nofun
  rw [resolve, hcheck, resolveParts, hlast]
  show (if last = "" ∨ last = "." ∨ last = ".." then
      Target.directory <$> files.walk (files.start path) (parts path)
    else do
      let parent ← files.walk (files.start path) (parts path).dropLast
      if longestName < last.utf8ByteSize then throw .nameTooLong
      return .named parent last) = Except.ok (Target.named parent name) ↔ _
  split
  case isTrue hdirectory =>
    refine iff_of_false ?_ ?_
    · rcases files.walk (files.start path) (parts path) with cause | place <;> exact nofun
    · rintro ⟨-, ⟨⟩, hname, -⟩
      exact hname hdirectory
  case isFalse hname =>
    rcases files.walk (files.start path) (parts path).dropLast with cause | place
    · exact iff_of_false nofun nofun
    · show (if longestName < last.utf8ByteSize then throw FileError.nameTooLong
        else pure (Target.named place last)) = Except.ok (Target.named parent name) ↔ _
      split
      case isTrue hlong =>
        refine iff_of_false nofun ?_
        rintro ⟨-, ⟨⟩, -, -, hshort⟩
        exact hshort hlong
      case isFalse hshort =>
        constructor
        · rintro ⟨⟩
          exact ⟨rfl, rfl, hname, rfl, hshort⟩
        · rintro ⟨-, ⟨⟩, -, ⟨⟩, -⟩
          rfl

/-- The location that a path names, in an existing directory. -/
def location? (files : FileSystem) (path : String) : Option Location :=
  match files.resolve path with
  | .ok (.named parent name) => some (parent ++ [name])
  | _ => none

theorem location?_eq_some_iff :
    files.location? path = some location ↔
      ∃ parent name, files.resolve path = .ok (.named parent name) ∧
        location = parent ++ [name] := by
  unfold location?
  split
  case h_1 parent name hresolve =>
    rw [hresolve]
    constructor
    · rintro ⟨⟩
      exact ⟨parent, name, rfl, rfl⟩
    · rintro ⟨_, _, ⟨⟩, rfl⟩
      rfl
  case h_2 hnot =>
    refine iff_of_false nofun ?_
    rintro ⟨parent, name, hresolve, -⟩
    exact hnot parent name hresolve

/-- The root has no name. -/
theorem ne_nil_of_location? (h : files.location? path = some location) : location ≠ [] := by
  obtain ⟨parent, name, -, rfl⟩ := location?_eq_some_iff.mp h
  exact List.concat_ne_nil name parent

/-- Whether a path leads to a location at which nothing lies. -/
def isFree (files : FileSystem) (path : String) : Bool :=
  (files.location? path).any fun location => (files.find? location).isNone

theorem exists_of_isFree (h : files.isFree path = true) :
    ∃ location, files.location? path = some location ∧ files.find? location = none := by
  obtain ⟨location, hlocation, hnone⟩ := (Option.any_eq_true _ _).mp h
  exact ⟨location, hlocation, Option.isNone_iff_eq_none.mp hnone⟩

/-- No directory disappears, and relative paths start where they did. -/
structure KeepsDirectories (files after : FileSystem) : Prop where
  workingDirectory_eq : after.workingDirectory = files.workingDirectory
  find?_eq : ∀ location, files.find? location = some .directory →
    after.find? location = some .directory

namespace KeepsDirectories

theorem refl (files : FileSystem) : KeepsDirectories files files where
  workingDirectory_eq := rfl
  find?_eq := fun _ h => h

theorem trans (h : KeepsDirectories files after) (hlast : KeepsDirectories after last) :
    KeepsDirectories files last where
  workingDirectory_eq := hlast.workingDirectory_eq.trans h.workingDirectory_eq
  find?_eq := fun location hfind => hlast.find?_eq location (h.find?_eq location hfind)

/-- An entry takes no directory away if none lies at its location, or if it is one. -/
theorem put (hlocation : location ≠ [])
    (hentry : files.find? location = some .directory → entry = .directory) :
    KeepsDirectories files (files.put location entry) where
  workingDirectory_eq := put_workingDirectory
  find?_eq := by
    intro other hother
    rw [find?_put hlocation]
    split
    case isTrue heq =>
      subst heq
      rw [hentry hother]
    case isFalse => exact hother

variable (h : KeepsDirectories files after)
include h

theorem walk (hwalk : files.walk location names = .ok other) :
    after.walk location names = .ok other := by
  induction names generalizing location with
  | nil => exact hwalk
  | cons name rest ih =>
    rw [FileSystem.walk] at hwalk ⊢
    split at hwalk
    case isTrue hstay =>
      rw [if_pos hstay]
      exact ih hwalk
    rename_i hstay
    split at hwalk
    case isTrue hup =>
      rw [if_neg hstay, if_pos hup]
      exact ih hwalk
    rename_i hup
    split at hwalk
    case isTrue => cases hwalk
    rename_i hlong
    rw [if_neg hstay, if_neg hup, if_neg hlong]
    split at hwalk
    case h_1 => cases hwalk
    case h_2 => cases hwalk
    case h_3 hdirectory =>
      rw [h.find?_eq _ hdirectory]
      exact ih hwalk

theorem resolve (hresolve : files.resolve path = .ok (.named parent name)) :
    after.resolve path = .ok (.named parent name) := by
  obtain ⟨hcheck, hlast, hname, hwalk, hshort⟩ := resolve_eq_named_iff.mp hresolve
  have hstart : after.start path = files.start path := by
    rw [start, start, h.workingDirectory_eq]
  refine resolve_eq_named_iff.mpr ⟨hcheck, hlast, hname, ?_, hshort⟩
  rw [hstart]
  exact h.walk hwalk

theorem location? (hlocation : files.location? path = some location) :
    after.location? path = some location := by
  obtain ⟨parent, name, hresolve, rfl⟩ := location?_eq_some_iff.mp hlocation
  exact location?_eq_some_iff.mpr ⟨parent, name, h.resolve hresolve, rfl⟩

end KeepsDirectories

/-! ### Names without a slash -/

theorem getLast?_splitOn {before cs : List Char} (hcs : '/' ∉ cs)
    (hbefore : before = [] ∨ before.getLast? = some '/') :
    ((before ++ cs).splitOn '/').getLast? = some cs := by
  rcases hbefore with rfl | hlast
  · rw [List.nil_append, List.splitOn_eq_singleton hcs]
    rfl
  · obtain ⟨front, rfl⟩ := List.getLast?_eq_some_iff.mp hlast
    rw [List.append_assoc, List.singleton_append, List.splitOn_append_cons_self,
      List.getLast?_append, List.splitOn_eq_singleton hcs]
    rfl

/-- A name without a slash is the last part of its path. -/
theorem getLast?_parts_join (hname : Lacks '/' name) :
    (parts (join directory name)).getLast? = some name := by
  have hrelative : ¬ isAbsolute name = true := by
    intro habsolute
    exact hname (List.mem_of_head? (of_decide_eq_true habsolute))
  have hparts : ∀ before : String, before.toList = [] ∨ before.toList.getLast? = some '/' →
      (parts (before ++ name)).getLast? = some name := by
    intro before hbefore
    rw [parts, String.toList_append, List.getLast?_map, getLast?_splitOn hname hbefore]
    exact congrArg some String.ofList_toList
  rw [join, if_neg hrelative]
  split
  case isTrue h =>
    refine hparts directory (h.imp_left ?_)
    rintro rfl
    rfl
  case isFalse =>
    refine hparts (directory ++ "/") (.inr ?_)
    rw [String.toList_append]
    exact List.getLast?_concat

/-- A name without a slash is the name of the location to which its path leads. -/
theorem getLast?_of_location?_join (hname : Lacks '/' name)
    (hlocation : files.location? (join directory name) = some location) :
    location.getLast? = some name := by
  obtain ⟨parent, last, hresolve, rfl⟩ := location?_eq_some_iff.mp hlocation
  obtain ⟨-, hlast, -⟩ := resolve_eq_named_iff.mp hresolve
  rw [getLast?_parts_join hname] at hlast
  rw [Option.some.inj hlast, List.getLast?_concat]

end FileSystem

end NativeBindings.Files
