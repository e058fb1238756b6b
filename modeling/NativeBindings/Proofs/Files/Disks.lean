/-
NativeBindings/Proofs/Files/Disks.lean

The laws of a disk.  A disk works on states of its own, and each state shows a file system.  What an
operation does when it succeeds is what it does in memory, but it may fail for any reason, with any
error:

    reading            the files stay as they are
    making directories some directories are made, one after the other
    writing            the file is written if it succeeds, and nothing is changed if it fails

(`Disk.IsLawful`).  The disk in memory obeys these laws, and so does one that is full after some
writes (`fullDisk`).
-/
import NativeBindings.Files.Disk
import NativeBindings.Proofs.Files.Writing

namespace NativeBindings.Files

open FileSystem

/-- A disk on states that show file systems. -/
structure Disk.IsLawful {σ : Type} (disk : Disk (StateM σ)) (files : σ → FileSystem) : Prop where
  /-- Reading leaves the files as they are. -/
  read : ∀ path state result after,
    disk.read path state = (result, after) → files after = files state
  /-- Whether all of them can be made or not, directories are made one after the other. -/
  makeDirectories : ∀ path state result after,
    disk.makeDirectories path state = (result, after) → MakesDirectories (files state) (files after)
  /-- A write that succeeds has written the file. -/
  write_of_ok : ∀ path content state after,
    disk.write path content state = (.ok (), after) →
      (files state).write path content = .ok (files after)
  /-- A write that fails has changed nothing. -/
  write_of_error : ∀ path content state cause after,
    disk.write path content state = (.error cause, after) → files after = files state

theorem memoryDisk_read {path : String} {files : FileSystem} {result : Except FileError String}
    (h : files.read path = result) : memoryDisk.read path files = (result, files) :=
  congrArg (·, files) h

theorem memoryDisk_write_of_ok {path content : String} {files after : FileSystem}
    (h : files.write path content = .ok after) :
    memoryDisk.write path content files = (.ok (), after) := by
  simp only [memoryDisk, h]

theorem memoryDisk_write_of_error {path content : String} {files : FileSystem} {cause : FileError}
    (h : files.write path content = .error cause) :
    memoryDisk.write path content files = (.error cause, files) := by
  simp only [memoryDisk, h]

/-- The disk in memory shows its states as they are. -/
theorem memoryDisk_isLawful : memoryDisk.IsLawful id where
  read := by
    rintro path state result after ⟨⟩
    rfl
  makeDirectories := by
    intro path state result after h
    obtain rfl : (FileSystem.makeDirectories path state).2 = after := congrArg Prod.snd h
    exact makesDirectories path state
  write_of_ok := by
    intro path content state after h
    rcases hwrite : state.write path content with cause | written
    · cases (memoryDisk_write_of_error hwrite).symm.trans h
    · cases (memoryDisk_write_of_ok hwrite).symm.trans h
      exact hwrite
  write_of_error := by
    intro path content state cause after h
    rcases hwrite : state.write path content with other | written
    · cases (memoryDisk_write_of_error hwrite).symm.trans h
      rfl
    · cases (memoryDisk_write_of_ok hwrite).symm.trans h

/-! ### A disk that is full -/

/-- The error of a full disk. -/
def fullError : FileError := .other "No space left on device (os error 28)"

/-- A disk in memory that takes so many writes, and no more. -/
def fullDisk : Disk (StateM (FileSystem × Nat)) where
  read := fun path (files, room) => (files.read path, files, room)
  makeDirectories := fun path (files, room) =>
    let (result, made) := memoryDisk.makeDirectories path files
    (result, made, room)
  write := fun path content (files, room) =>
    match room with
    | 0 => (.error fullError, files, 0)
    | room + 1 =>
        let (result, written) := memoryDisk.write path content files
        (result, written, room)

theorem fullDisk_read {path : String} {files : FileSystem} {result : Except FileError String}
    (room : Nat) (h : files.read path = result) :
    fullDisk.read path (files, room) = (result, files, room) :=
  congrArg (·, files, room) h

theorem fullDisk_write_of_ok {path content : String} {files after : FileSystem} (room : Nat)
    (h : files.write path content = .ok after) :
    fullDisk.write path content (files, room + 1) = (.ok (), after, room) := by
  simp only [fullDisk, memoryDisk_write_of_ok h]

theorem fullDisk_isLawful : fullDisk.IsLawful Prod.fst where
  read := by
    rintro path ⟨files, room⟩ result after ⟨⟩
    rfl
  makeDirectories := by
    rintro path ⟨files, room⟩ result after ⟨⟩
    exact memoryDisk_isLawful.makeDirectories path files _ _ rfl
  write_of_ok := by
    rintro path content ⟨files, room⟩ after h
    cases room with
    | zero => cases h
    | succ room =>
      obtain ⟨hresult, rfl⟩ := Prod.mk.inj h
      exact memoryDisk_isLawful.write_of_ok path content files _ (Prod.ext hresult rfl)
  write_of_error := by
    rintro path content ⟨files, room⟩ cause after h
    cases room with
    | zero =>
      cases h
      rfl
    | succ room =>
      obtain ⟨hresult, rfl⟩ := Prod.mk.inj h
      exact memoryDisk_isLawful.write_of_error path content files _ _ (Prod.ext hresult rfl)

end NativeBindings.Files
