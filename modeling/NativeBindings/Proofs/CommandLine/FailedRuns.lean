/-
NativeBindings/Proofs/CommandLine/FailedRuns.lean

What a run that fails leaves behind (`generateFrom_failed`).  The disk may refuse any operation, for
any reason, as long as it obeys the laws of a disk.  A run that fails before it writes leaves all
files as they were.  One that fails in writing leaves the files of the sources that were written up
to then:

    artifacts = done ++ artifact :: rest      the path of the failure is that of the artifact

or nothing but directories, if its own directory could not be made.
-/
import NativeBindings.Proofs.CommandLine.Running

namespace NativeBindings

open Files Files.FileSystem

variable {σ : Type} {files : σ → FileSystem} {disk : Disk (StateM σ)} {cancelled : Bool}
  {arguments : List String} {state reached after : σ} {failure : Failure}

/-- **A run that fails leaves the files clean**, on every disk that obeys its laws.  A failure of
writing leaves the sources of some artifacts, the first ones of the batch in its order, in their
files, and each other file as it was; no directory is gone.  The path of the failure is that of the
next artifact, or that of the output directory, with nothing written.  Any other failure leaves all
files and directories as they were. -/
theorem generateFrom_failed (hdisk : disk.IsLawful files)
    (h : runOn (generateFrom disk cancelled arguments) state = (.error failure, after)) :
    match failure with
    | .write path _ =>
        ∃ options batch reached done,
          CompilesOn disk cancelled arguments state options batch reached ∧
          done <+: batch.artifacts ∧
          (done = [] ∧ path = options.output ∨
            ∃ artifact, done ++ [artifact] <+: batch.artifacts ∧
              path = pathIn options.output artifact) ∧
          IsUpdate (files state) (filesIn options.output done) (files after)
    | _ => files after = files state := by
  rcases failed_or_compilesOn hdisk cancelled arguments state with
    ⟨cause, left, hrun, hfiles, hcause⟩ | ⟨options, batch, reached, hcompiles, hfiles⟩
  · rw [hrun] at h
    cases h
    split
    · exact absurd rfl (hcause _ _)
    · exact hfiles
  · rw [hcompiles.runOn_eq] at h
    have hspec := writeBatch_spec hdisk options.output batch reached
    rw [h, hfiles] at hspec
    obtain ⟨path, reason, done, rfl, hstop, hupdate⟩ := hspec
    refine ⟨options, batch, reached, done, hcompiles, ?_, hstop, hupdate⟩
    -- what is written is nothing, or what stands before the artifact of the failure
    rcases hstop with ⟨rfl, -⟩ | ⟨artifact, hdone, -⟩
    · exact List.nil_prefix
    · exact (List.prefix_append done [artifact]).trans hdone

/-- A run stops at the artifact whose write fails. -/
theorem CompilesOn.run_eq_error {options : GenerateOptions} {batch : Batch} {made written : σ}
    {first next : Artifact} {rest : List Artifact} {cause : FileError}
    (h : CompilesOn disk cancelled arguments state options batch reached)
    (hartifacts : batch.artifacts = first :: next :: rest)
    (hmade : disk.makeDirectories options.output reached = (.ok (), made))
    (hfirst : disk.write (pathIn options.output first) first.source made = (.ok (), written))
    (hnext : disk.write (pathIn options.output next) next.source written = (.error cause, after)) :
    runOn (generateFrom disk cancelled arguments) state =
      (.error (.write (pathIn options.output next) cause), after) := by
  have hrest : runOn (writeArtifacts disk options.output (next :: rest)) written =
      (.error (.write (pathIn options.output next) cause), after) :=
    runOn_operation_of_error hnext
  have hall : runOn (writeArtifacts disk options.output (first :: next :: rest)) made =
      (.error (.write (pathIn options.output next) cause), after) :=
    (runOn_operation_of_ok hfirst).trans (runOn_bind_of_error hrest)
  rw [h.runOn_eq, writeBatch, runOn_operation_of_ok hmade, hartifacts, runOn_bind_of_error hall]

/-! ### Runs that stop at the registration -/

theorem artifacts_one_struct : (Batch.compile {} [{ name := "A" }]).artifacts =
    [{ hintName := "A.g.cs"
       source := "// <auto-generated/>\n\nunsafe partial struct A\n\x7b\n\x7d\n" },
      (Batch.compile {} [{ name := "A" }]).registration,
      (Batch.compile {} [{ name := "A" }]).arrayTypes] := by
  have hstructs : (Batch.compile {} [{ name := "A" }]).structs =
      [{ hintName := "A.g.cs"
         source := "// <auto-generated/>\n\nunsafe partial struct A\n\x7b\n\x7d\n" }] := by decide
  rw [Batch.artifacts, hstructs]
  rfl

theorem pathIn_registration : pathIn "." (Batch.compile {} [{ name := "A" }]).registration =
    "./Interop.Generated.Addresses.g.cs" := by
  show join "." (({} : Configuration).batchHint registrationName) = _
  decide

theorem pathIn_arrayTypes : pathIn "." (Batch.compile {} [{ name := "A" }]).arrayTypes =
    "./Interop.Generated.FixedSizeArrays.g.cs" := by
  show join "." (({} : Configuration).batchHint _) = _
  decide

/-- Only the source of the struct stands before the registration. -/
theorem filesIn_before_registration {done : List Artifact} {artifact : Artifact}
    (hdone : done ++ [artifact] <+: (Batch.compile {} [{ name := "A" }]).artifacts)
    (hpath : "./Interop.Generated.Addresses.g.cs" = pathIn "." artifact) :
    filesIn "." done =
      [("./A.g.cs", "// <auto-generated/>\n\nunsafe partial struct A\n\x7b\n\x7d\n")] := by
  rw [artifacts_one_struct] at hdone
  obtain ⟨tail, htail⟩ := hdone
  rcases done with - | ⟨first, - | ⟨second, done⟩⟩
  · -- the artifact is that of the struct
    obtain ⟨rfl, -⟩ := List.cons.inj htail
    exact absurd hpath (by decide)
  · obtain ⟨rfl, -⟩ := List.cons.inj htail
    decide
  · -- the artifact is the last one, or there is none
    obtain ⟨-, hrest⟩ := List.cons.inj htail
    obtain ⟨-, hlast⟩ := List.cons.inj hrest
    rcases done with - | ⟨third, done⟩
    · obtain ⟨rfl, -⟩ := List.cons.inj hlast
      rw [pathIn_arrayTypes] at hpath
      exact absurd hpath (by decide)
    · exact absurd (List.cons.inj hlast).2 (by simp)

theorem CompilesOn.isUpdate_of_stop
    (h : CompilesOn disk cancelled arguments state { input := "d.json" }
      (Batch.compile {} [{ name := "A" }]) reached)
    (hstop : ∃ options batch reached done,
      CompilesOn disk cancelled arguments state options batch reached ∧
      done <+: batch.artifacts ∧
      (done = [] ∧ "./Interop.Generated.Addresses.g.cs" = options.output ∨
        ∃ artifact, done ++ [artifact] <+: batch.artifacts ∧
          "./Interop.Generated.Addresses.g.cs" = pathIn options.output artifact) ∧
      IsUpdate (files state) (filesIn options.output done) (files after)) :
    IsUpdate (files state)
      [("./A.g.cs", "// <auto-generated/>\n\nunsafe partial struct A\n\x7b\n\x7d\n")]
      (files after) := by
  obtain ⟨options, batch, _, done, hother, -, hpath, hupdate⟩ := hstop
  obtain ⟨rfl, rfl⟩ := hother.unique h
  obtain ⟨-, houtput⟩ | ⟨artifact, hdone, hartifact⟩ := hpath
  · exact absurd houtput (by decide)
  · rw [filesIn_before_registration hdone hartifact] at hupdate
    exact hupdate

/-- Two runs that write the source of their struct, and stop at the registration: one on a disk in
memory, where a directory is in the way, and one on a disk that is full after the first write. -/
theorem generateFrom_failed_partway :
    let source := "// <auto-generated/>\n\nunsafe partial struct A\n\x7b\n\x7d\n"
    let clean := withDocument [{ name := "A" }] []
    let blocked := withDocument [{ name := "A" }]
      [(["Interop.Generated.Addresses.g.cs"], .directory)]
    (∃ after, runOn (generateFrom memoryDisk false ["d.json"]) blocked =
          (.error (.write "./Interop.Generated.Addresses.g.cs" .isDirectory), after) ∧
        IsUpdate blocked [("./A.g.cs", source)] after) ∧
      ∃ after, runOn (generateFrom fullDisk false ["d.json"]) (clean, 1) =
          (.error (.write "./Interop.Generated.Addresses.g.cs" fullError), after) ∧
        IsUpdate clean [("./A.g.cs", source)] after.1 := by
  intro source clean blocked
  constructor
  · have hcompiles := compiles_iff.mp (compiles_withDocument [{ name := "A" }]
      [(["Interop.Generated.Addresses.g.cs"], .directory)])
    have hfirst : blocked.write "./A.g.cs" source =
        .ok (blocked.put ["A.g.cs"] (.file source.toUTF8)) := write_eq_ok source rfl nofun
    have hplace : blocked.location? "./Interop.Generated.Addresses.g.cs" =
        some ["Interop.Generated.Addresses.g.cs"] := rfl
    have hnext : (blocked.put ["A.g.cs"] (.file source.toUTF8)).write
        "./Interop.Generated.Addresses.g.cs"
        (Batch.compile {} [{ name := "A" }]).registration.source = .error .isDirectory :=
      write_eq_error _ ((IsUpdate.of_write hfirst).keepsDirectories.location? hplace) rfl
    rw [← pathIn_registration] at hnext
    have hrun := hcompiles.run_eq_error artifacts_one_struct rfl
      (memoryDisk_write_of_ok hfirst) (memoryDisk_write_of_error hnext)
    rw [pathIn_registration] at hrun
    exact ⟨_, hrun, hcompiles.isUpdate_of_stop (generateFrom_failed memoryDisk_isLawful hrun)⟩
  · have hdocument := read_withDocument [{ name := "A" }] []
    have hcompiles := compilesOn_of_read _ (fullDisk_read 1 hdocument)
    have hfirst : clean.write "./A.g.cs" source =
        .ok (clean.put ["A.g.cs"] (.file source.toUTF8)) := write_eq_ok source rfl nofun
    have hrun := hcompiles.run_eq_error artifacts_one_struct rfl
      (fullDisk_write_of_ok 0 hfirst) rfl
    rw [pathIn_registration] at hrun
    exact ⟨_, hrun, hcompiles.isUpdate_of_stop (generateFrom_failed fullDisk_isLawful hrun)⟩

end NativeBindings
