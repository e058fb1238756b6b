/-
NativeBindings/Proofs/CommandLine/WrittenFiles.lean

The files of a run that succeeds (`generateFrom_written`).  The path of an artifact is read as the
last source that was written where the path leads.  So all artifacts have files of their own if
their paths lead to different locations.  The names in a batch are different texts, which is enough
where no name has a slash; a name such as `./A.g.cs` leads to the file of another one
(`generateFrom_overwritten`).
-/
import Mathlib.Data.Finset.Card
import NativeBindings.Proofs.Batch.Selection
import NativeBindings.Proofs.CommandLine.Running

namespace NativeBindings

open Files Files.FileSystem Text

variable {cancelled : Bool} {arguments : List String} {files after : FileSystem}
  {options : GenerateOptions} {batch : Batch} {summary : Summary}

/-- A run that succeeds has compiled a batch and written all of it. -/
theorem exists_compiles_of_run_eq_ok
    (h : runOn (generateFrom memoryDisk cancelled arguments) files = (.ok summary, after)) :
    ∃ options batch, Compiles cancelled arguments files options batch ∧
      summary.written = batch.artifacts.map (pathIn options.output) ∧
      IsUpdate files (filesIn options.output batch.artifacts) after := by
  rcases failed_or_compiles cancelled arguments files with
    ⟨failure, hrun, -⟩ | ⟨options, batch, hcompiles⟩
  · rw [hrun] at h
    cases h
  · have hspec := writeBatch_spec memoryDisk_isLawful options.output batch files
    rw [← hcompiles.runOn_eq, h] at hspec
    exact ⟨options, batch, hcompiles, hspec⟩

/-- The names in the batch of a run are different texts. -/
theorem Compiles.nodup_hintName (h : Compiles cancelled arguments files options batch) :
    (batch.artifacts.map Artifact.hintName).Nodup := by
  obtain ⟨-, config, structs, -, -, hbatch⟩ := h
  cases cancelled with
  | true => cases hbatch
  | false =>
    cases hbatch
    exact Batch.nodup_hintName_artifacts config structs

/-- Artifacts whose names are different and have no slash lead to different locations. -/
theorem nodup_location?_of_lacks {directory : String} {artifacts : List Artifact}
    (hnames : (artifacts.map Artifact.hintName).Nodup)
    (hlacks : ∀ artifact ∈ artifacts, Lacks '/' artifact.hintName)
    (hlocated : ∀ artifact ∈ artifacts, ∃ location,
      after.location? (pathIn directory artifact) = some location) :
    (artifacts.map fun artifact => after.location? (pathIn directory artifact)).Nodup := by
  refine List.Nodup.map_on ?_ hnames.of_map
  intro artifact hmem other hother hsame
  obtain ⟨location, hlocation⟩ := hlocated artifact hmem
  -- both locations end in the name of their artifact
  have hname := getLast?_of_location?_join (hlacks artifact hmem) hlocation
  have hotherName := getLast?_of_location?_join (hlacks other hother) (hsame.symm.trans hlocation)
  exact List.inj_on_of_nodup_map hnames hmem hother
    (Option.some.inj (hname.symm.trans hotherName))

/-- **The files of a run that succeeds.**  It writes one path for each artifact of its batch, and
each path is read as the last source written to the location to which it leads.  If the paths lead
to different locations, then each one is read as the source of its artifact, and there are as many
files as paths.  They do if no name in the batch has a slash. -/
theorem generateFrom_written
    (h : runOn (generateFrom memoryDisk cancelled arguments) files = (.ok summary, after)) :
    ∃ options batch, Compiles cancelled arguments files options batch ∧
      summary.written = batch.artifacts.map (pathIn options.output) ∧
      (∀ artifact ∈ batch.artifacts, ∃ location source,
        after.location? (pathIn options.output artifact) = some location ∧
          after.lastContent? (filesIn options.output batch.artifacts) location = some source ∧
          after.read (pathIn options.output artifact) = .ok source) ∧
      ((summary.written.map after.location?).Nodup →
        (∀ artifact ∈ batch.artifacts,
          after.read (pathIn options.output artifact) = .ok artifact.source) ∧
        (summary.written.map after.location?).toFinset.card = summary.written.length) ∧
      ((∀ artifact ∈ batch.artifacts, Lacks '/' artifact.hintName) →
        (summary.written.map after.location?).Nodup) := by
  obtain ⟨options, batch, hcompiles, hwritten, hupdate⟩ := exists_compiles_of_run_eq_ok h
  have hfile : ∀ artifact ∈ batch.artifacts, (pathIn options.output artifact, artifact.source) ∈
      filesIn options.output batch.artifacts :=
    fun artifact hmem => List.mem_map_of_mem hmem
  have hlocations : summary.written.map after.location? =
      batch.artifacts.map fun artifact => after.location? (pathIn options.output artifact) := by
    rw [hwritten, List.map_map]
    rfl
  refine ⟨options, batch, hcompiles, hwritten, ?_, ?_, ?_⟩
  · intro artifact hmem
    exact hupdate.exists_read_eq_ok (hfile artifact hmem)
  · intro hnodup
    refine ⟨fun artifact hmem => ?_, ?_⟩
    · have hfiles : ((filesIn options.output batch.artifacts).map fun file =>
          after.location? file.1).Nodup := by
        rw [filesIn, List.map_map]
        rw [hlocations] at hnodup
        exact hnodup
      exact hupdate.read_eq_ok_of_nodup hfiles (hfile artifact hmem)
    · exact (List.toFinset_card_of_nodup hnodup).trans (List.length_map after.location?)
  · intro hlacks
    rw [hlocations]
    refine nodup_location?_of_lacks hcompiles.nodup_hintName hlacks fun artifact hmem => ?_
    exact hupdate.located _ _ (hfile artifact hmem)

/-- A run that writes the sources of two structs, and has a file for each of its sources. -/
theorem generateFrom_written_two_structs :
    let structs : List NativeStruct := [{ name := "A" }, { name := "B" }]
    ∃ summary after options batch,
      runOn (generateFrom memoryDisk false ["d.json"]) (withDocument structs []) =
          (.ok summary, after) ∧
        Compiles false ["d.json"] (withDocument structs []) options batch ∧
        batch.artifacts.map Artifact.hintName =
          ["A.g.cs", "B.g.cs", "Interop.Generated.Addresses.g.cs",
            "Interop.Generated.FixedSizeArrays.g.cs"] ∧
        (∀ artifact ∈ batch.artifacts,
          after.read (pathIn options.output artifact) = .ok artifact.source) ∧
        (summary.written.map after.location?).toFinset.card = 4 := by
  intro structs
  have hnames : (Batch.compile {} structs).artifacts.map Artifact.hintName =
      ["A.g.cs", "B.g.cs", "Interop.Generated.Addresses.g.cs",
        "Interop.Generated.FixedSizeArrays.g.cs"] := by decide
  obtain ⟨summary, after, hrun, -⟩ :=
    exists_run_withDocument_eq_ok structs (by rw [hnames]; decide)
  obtain ⟨options, batch, hcompiles, hwritten, -, hread, hlacks⟩ := generateFrom_written hrun
  obtain ⟨-, rfl⟩ := hcompiles.unique (compiles_withDocument structs [])
  have hslash : ∀ artifact ∈ (Batch.compile {} structs).artifacts,
      Lacks '/' artifact.hintName := by
    rw [← List.forall_mem_map, hnames]
    decide
  obtain ⟨hsources, hcard⟩ := hread (hlacks hslash)
  have hlength : summary.written.length = 4 := by
    rw [hwritten, List.length_map, ← List.length_map Artifact.hintName, hnames]
    rfl
  exact ⟨summary, after, options, _, hrun, hcompiles, hnames, hsources, hcard.trans hlength⟩

/-- A run that loses a source: the name `./A.g.cs` is not that of a source yet, so the second struct
is kept, and its source is written over that of the first one. -/
theorem generateFrom_overwritten :
    let structs : List NativeStruct := [{ name := "A" }, { name := "./A" }]
    ∃ summary after options batch,
      runOn (generateFrom memoryDisk false ["d.json"]) (withDocument structs []) =
          (.ok summary, after) ∧
        Compiles false ["d.json"] (withDocument structs []) options batch ∧
        summary.errors = [] ∧
        ∃ artifact ∈ batch.artifacts,
          after.read (pathIn options.output artifact) ≠ .ok artifact.source := by
  intro structs
  have hstructs : (Batch.compile {} structs).structs = [
      { hintName := "A.g.cs"
        source := "// <auto-generated/>\n\nunsafe partial struct A\n\x7b\n\x7d\n" },
      { hintName := "./A.g.cs"
        source := "// <auto-generated/>\n\nunsafe partial struct ./A\n\x7b\n\x7d\n" }] := by
    decide
  have hnames : (Batch.compile {} structs).artifacts.map Artifact.hintName =
      ["A.g.cs", "./A.g.cs", "Interop.Generated.Addresses.g.cs",
        "Interop.Generated.FixedSizeArrays.g.cs"] := by decide
  obtain ⟨summary, after, hrun, herrors⟩ :=
    exists_run_withDocument_eq_ok structs (by rw [hnames]; decide)
  obtain ⟨_, _, -, -, hupdate⟩ := exists_compiles_of_run_eq_ok hrun
  -- both paths lead to one location, so they are read alike
  have hfirst : after.location? "./A.g.cs" = some ["A.g.cs"] :=
    hupdate.keepsDirectories.location? rfl
  have hsecond : after.location? "././A.g.cs" = some ["A.g.cs"] :=
    hupdate.keepsDirectories.location? rfl
  refine ⟨summary, after, _, _, hrun, compiles_withDocument structs [],
    herrors.trans (by decide), ?_⟩
  rw [Batch.artifacts, hstructs]
  by_cases hread : after.read "./A.g.cs" =
      .ok "// <auto-generated/>\n\nunsafe partial struct A\n\x7b\n\x7d\n"
  · refine ⟨_, List.mem_cons_of_mem _ List.mem_cons_self, ?_⟩
    show after.read "././A.g.cs" ≠ _
    rw [← read_congr hfirst hsecond, hread]
    decide
  · exact ⟨_, List.mem_cons_self, hread⟩

end NativeBindings
