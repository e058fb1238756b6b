/-
NativeBindings/Proofs/CommandLine/Running.lean

Runs on the states of a disk.  On a disk that obeys the laws, a run of `generate` has two halves.
The first one reads: whatever it does, the files stay as they are (`IsReading`), and it ends with a
failure or with a batch (`CompilesOn`).  The second one writes the sources of the batch in order, up
to the first one that cannot be written (`writeBatch_spec`).  In memory the first half leaves the
state as it is (`Compiles`).
-/
import NativeBindings.CommandLine.Generate
import NativeBindings.Proofs.Files.Disks
import NativeBindings.Proofs.NativeStruct.DocumentRoundTrip

namespace NativeBindings

open Files Files.FileSystem

variable {σ α β : Type}

/-- The outcome of an action on a state, and the state that it leaves. -/
def runOn (action : ExceptT Failure (StateM σ) α) (state : σ) : Except Failure α × σ :=
  (action.run.run state).run

/-! ### Sequences -/

section Sequence

variable {action : ExceptT Failure (StateM σ) α}
  {next : α → ExceptT Failure (StateM σ) β} {state after : σ}

theorem runOn_bind_of_ok {a : α} (h : runOn action state = (.ok a, after)) :
    runOn (action >>= next) state = runOn (next a) after := by
  show (ExceptT.bindCont next (runOn action state).1 (runOn action state).2 :
    Except Failure β × σ) = _
  rw [h]
  rfl

theorem runOn_bind_of_error {failure : Failure} (h : runOn action state = (.error failure, after)) :
    runOn (action >>= next) state = (.error failure, after) := by
  show (ExceptT.bindCont next (runOn action state).1 (runOn action state).2 :
    Except Failure β × σ) = _
  rw [h]
  rfl

theorem runOn_pure (a : α) (state : σ) : runOn (pure a) state = (.ok a, state) := rfl

theorem runOn_orFail_ok {ε : Type} (failure : ε → Failure) (a : α) (state : σ) :
    runOn (orFail failure (.ok a)) state = (.ok a, state) :=
  rfl

theorem runOn_orFail_error {ε : Type} (failure : ε → Failure) (cause : ε) (state : σ) :
    runOn (orFail failure (.error cause : Except ε α)) state = (.error (failure cause), state) :=
  rfl

/-- An operation of a disk succeeds, and the run goes on. -/
theorem runOn_operation_of_ok {ε : Type} {failure : ε → Failure}
    {operation : StateM σ (Except ε α)} {a : α} (h : operation state = (.ok a, after)) :
    runOn (liftM operation >>= fun result => orFail failure result >>= next) state =
      runOn (next a) after := by
  show runOn (orFail failure (operation state).1 >>= next) (operation state).2 = _
  rw [h]
  rfl

/-- An operation of a disk fails, and the run with it. -/
theorem runOn_operation_of_error {ε : Type} {failure : ε → Failure} {cause : ε}
    {operation : StateM σ (Except ε α)} (h : operation state = (.error cause, after)) :
    runOn (liftM operation >>= fun result => orFail failure result >>= next) state =
      (.error (failure cause), after) := by
  show runOn (orFail failure (operation state).1 >>= next) (operation state).2 = _
  rw [h]
  rfl

end Sequence

/-! ### Reading -/

/-- A file is read as the disk says. -/
theorem runOn_readFile {disk : Disk (StateM σ)} {path : String} {result : Except FileError String}
    {state after : σ} (h : disk.read path state = (result, after)) :
    runOn (readFile disk path) state = runOn (orFail (.read path) result) after := by
  show runOn (orFail (.read path) (disk.read path state).1) (disk.read path state).2 = _
  rw [h]

/-- An action that leaves the files of a state as they are, and none of whose failures is one of
writing. -/
structure IsReading (files : σ → FileSystem) (action : ExceptT Failure (StateM σ) α) : Prop where
  files_eq : ∀ state, files (runOn action state).2 = files state
  ne_write : ∀ state path cause, (runOn action state).1 ≠ .error (.write path cause)

namespace IsReading

variable {files : σ → FileSystem} {action : ExceptT Failure (StateM σ) α}
  {next : α → ExceptT Failure (StateM σ) β} {disk : Disk (StateM σ)}

theorem pure (a : α) : IsReading files (pure a : ExceptT Failure (StateM σ) α) where
  files_eq := fun _ => rfl
  ne_write := nofun

theorem orFail {ε : Type} (failure : ε → Failure)
    (hfailure : ∀ cause path reason, failure cause ≠ .write path reason) (result : Except ε α) :
    IsReading files (orFail failure result : ExceptT Failure (StateM σ) α) := by
  cases result with
  | ok a => exact pure a
  | error cause =>
    refine ⟨fun _ => rfl, fun state path reason h => hfailure cause path reason ?_⟩
    rw [runOn_orFail_error] at h
    exact Except.error.inj h

/-- An action that reads fails and changes no file, or another one follows on the same files. -/
theorem run_bind (h : IsReading files action) (next : α → ExceptT Failure (StateM σ) β)
    (state : σ) :
    (∃ failure reached, runOn (action >>= next) state = (.error failure, reached) ∧
        files reached = files state ∧ ∀ path cause, failure ≠ .write path cause) ∨
      ∃ a reached, runOn action state = (.ok a, reached) ∧ files reached = files state ∧
        runOn (action >>= next) state = runOn (next a) reached := by
  have hfiles := h.files_eq state
  rcases hrun : runOn action state with ⟨failure | a, reached⟩
  · rw [hrun] at hfiles
    refine .inl ⟨failure, reached, runOn_bind_of_error hrun, hfiles, ?_⟩
    rintro path cause rfl
    exact h.ne_write state path cause (by rw [hrun])
  · rw [hrun] at hfiles
    exact .inr ⟨a, reached, rfl, hfiles, runOn_bind_of_ok hrun⟩

theorem bind (h : IsReading files action) (hnext : ∀ a, IsReading files (next a)) :
    IsReading files (action >>= next) := by
  constructor
  · intro state
    rcases h.run_bind next state with ⟨failure, reached, hrun, hfiles, -⟩ |
      ⟨a, reached, -, hfiles, hrun⟩
    · rw [hrun, hfiles]
    · rw [hrun, (hnext a).files_eq, hfiles]
  · intro state path cause hwrite
    rcases h.run_bind next state with ⟨failure, reached, hrun, -, hfailure⟩ |
      ⟨a, reached, -, -, hrun⟩
    · rw [hrun] at hwrite
      exact hfailure path cause (Except.error.inj hwrite)
    · rw [hrun] at hwrite
      exact (hnext a).ne_write reached path cause hwrite

variable (hdisk : disk.IsLawful files)
include hdisk

/-- Reading a file changes none. -/
theorem read (path : String) :
    IsReading files (liftM (disk.read path) : ExceptT Failure (StateM σ) _) where
  files_eq := fun state => hdisk.read path state _ _ rfl
  ne_write := nofun

theorem readFile (path : String) : IsReading files (readFile disk path) :=
  (read hdisk path).bind fun _ => orFail (.read path) nofun _

theorem configurationOf (options : GenerateOptions) :
    IsReading files (configurationOf disk options) := by
  unfold NativeBindings.configurationOf
  cases options.config with
  | none => exact pure _
  | some path =>
    refine (readFile hdisk path).bind fun text => ?_
    exact (orFail (.configuration path) nofun _).bind fun config => pure _

theorem readStructs (path : String) : IsReading files (readStructs disk path) :=
  (readFile hdisk path).bind fun _ => orFail (.descriptors path) nofun _

end IsReading

/-- The configuration of a run is the default, or that of the document, with the settings of the
options in its place. -/
theorem exists_of_runOn_configurationOf {options : GenerateOptions} {files after : FileSystem}
    {config : Configuration}
    (h : runOn (configurationOf memoryDisk options) files = (.ok config, after)) :
    ∃ base, config = options.override base ∧
      (options.config = none ∧ base = {} ∨
        ∃ path text, options.config = some path ∧ files.read path = .ok text ∧
          Configuration.readDocument text = .ok base) := by
  rw [configurationOf] at h
  rcases hpath : options.config with - | path
  · rw [hpath] at h
    cases h
    exact ⟨{}, rfl, .inl ⟨rfl, rfl⟩⟩
  · rw [hpath] at h
    rcases htext : files.read path with cause | text
    · have hread : runOn (readFile memoryDisk path) files = (.error (.read path cause), files) :=
        runOn_readFile (memoryDisk_read htext)
      rw [runOn_bind_of_error hread] at h
      cases h
    have hread : runOn (readFile memoryDisk path) files = (.ok text, files) :=
      runOn_readFile (memoryDisk_read htext)
    rw [runOn_bind_of_ok hread] at h
    rcases hbase : Configuration.readDocument text with cause | base
    · rw [hbase, runOn_bind_of_error (runOn_orFail_error _ _ _)] at h
      cases h
    · rw [hbase, runOn_bind_of_ok (runOn_orFail_ok _ _ _)] at h
      cases h
      exact ⟨base, rfl, .inr ⟨path, text, rfl, htext, hbase⟩⟩

/-! ### Writing -/

/-- The path of an artifact in a directory. -/
def pathIn (directory : String) (artifact : Artifact) : String := join directory artifact.hintName

/-- The files of artifacts in a directory, each with its path and its content. -/
def filesIn (directory : String) (artifacts : List Artifact) : List (String × String) :=
  artifacts.map fun artifact => (pathIn directory artifact, artifact.source)

/-- Artifacts are written in order, up to the first one that cannot be written. -/
theorem writeArtifacts_spec {files : σ → FileSystem} {disk : Disk (StateM σ)}
    (hdisk : disk.IsLawful files) (directory : String) (artifacts : List Artifact) (state : σ) :
    match runOn (writeArtifacts disk directory artifacts) state with
    | (.ok written, after) =>
        written = artifacts.map (pathIn directory) ∧
          IsUpdate (files state) (filesIn directory artifacts) (files after)
    | (.error failure, after) =>
        ∃ done artifact cause, failure = .write (pathIn directory artifact) cause ∧
          done ++ [artifact] <+: artifacts ∧
          IsUpdate (files state) (filesIn directory done) (files after) := by
  induction artifacts generalizing state with
  | nil => exact ⟨rfl, IsUpdate.refl (files state)⟩
  | cons artifact rest ih =>
    rw [writeArtifacts]
    rcases hwrite : disk.write (join directory artifact.hintName) artifact.source state with
      ⟨cause | ⟨⟩, after⟩
    · have hsame : files after = files state := hdisk.write_of_error _ _ _ _ _ hwrite
      rw [runOn_operation_of_error hwrite]
      refine ⟨[], artifact, cause, rfl, List.prefix_append [artifact] rest, ?_⟩
      rw [hsame]
      exact IsUpdate.refl (files state)
    · have hfirst := IsUpdate.of_write (hdisk.write_of_ok _ _ _ _ hwrite)
      have hrest := ih after
      rw [runOn_operation_of_ok hwrite]
      rcases hrun : runOn (writeArtifacts disk directory rest) after with
        ⟨failure | written, last⟩
      · rw [hrun] at hrest
        rw [runOn_bind_of_error hrun]
        obtain ⟨done, stopped, cause, hfailure, hdone, hupdate⟩ := hrest
        exact ⟨artifact :: done, stopped, cause, hfailure, List.cons_prefix_cons.mpr ⟨rfl, hdone⟩,
          hfirst.trans hupdate⟩
      · rw [hrun] at hrest
        rw [runOn_bind_of_ok hrun, runOn_pure]
        obtain ⟨rfl, hupdate⟩ := hrest
        exact ⟨rfl, hfirst.trans hupdate⟩

/-- Artifacts are all written where each path leads somewhere, and to no directory. -/
theorem exists_writeArtifacts_eq_ok {directory : String} {artifacts : List Artifact}
    {files : FileSystem}
    (h : ∀ artifact ∈ artifacts, ∃ location,
      files.location? (pathIn directory artifact) = some location ∧
        files.find? location ≠ some .directory) :
    ∃ after, runOn (writeArtifacts memoryDisk directory artifacts) files =
      (.ok (artifacts.map (pathIn directory)), after) := by
  induction artifacts generalizing files with
  | nil => exact ⟨files, rfl⟩
  | cons artifact rest ih =>
    obtain ⟨⟨location, hlocation, hnot⟩, hrest⟩ := List.forall_mem_cons.mp h
    have hwrite := write_eq_ok artifact.source hlocation hnot
    have hkeeps := (IsUpdate.of_write hwrite).keepsDirectories
    have hdisk := memoryDisk_write_of_ok hwrite
    have hfree : ∀ other ∈ rest, ∃ place,
        (files.put location (.file artifact.source.toUTF8)).location? (pathIn directory other) =
          some place ∧
        (files.put location (.file artifact.source.toUTF8)).find? place ≠ some .directory := by
      -- what is written first is a file, so it is in nobody's way
      intro other hother
      obtain ⟨place, hplace, hfree⟩ := hrest other hother
      refine ⟨place, hkeeps.location? hplace, ?_⟩
      rw [find?_put (ne_nil_of_location? hlocation)]
      split
      · exact nofun
      · exact hfree
    obtain ⟨after, hafter⟩ := ih hfree
    refine ⟨after, ?_⟩
    rw [writeArtifacts]
    show runOn (liftM (memoryDisk.write (pathIn directory artifact) artifact.source) >>= _) _ = _
    rw [runOn_operation_of_ok hdisk, runOn_bind_of_ok hafter]
    rfl

/-- The half of a run that writes. -/
def writeBatch (disk : Disk (StateM σ)) (output : String) (batch : Batch) :
    ExceptT Failure (StateM σ) Summary := do
  orFail (.write output) (← disk.makeDirectories output)
  let written ← writeArtifacts disk output batch.artifacts
  return { written, errors := batch.errors }

/-- A batch is written in the order of its artifacts, as far as its directory and their files can be
made. -/
theorem writeBatch_spec {files : σ → FileSystem} {disk : Disk (StateM σ)}
    (hdisk : disk.IsLawful files) (output : String) (batch : Batch) (state : σ) :
    match runOn (writeBatch disk output batch) state with
    | (.ok summary, after) =>
        summary.written = batch.artifacts.map (pathIn output) ∧
          IsUpdate (files state) (filesIn output batch.artifacts) (files after)
    | (.error failure, after) =>
        ∃ path cause done, failure = .write path cause ∧
          (done = [] ∧ path = output ∨
            ∃ artifact, done ++ [artifact] <+: batch.artifacts ∧ path = pathIn output artifact) ∧
          IsUpdate (files state) (filesIn output done) (files after) := by
  rw [writeBatch]
  rcases hmake : disk.makeDirectories output state with ⟨result, made⟩
  have hmade := IsUpdate.of_makesDirectories (hdisk.makeDirectories _ _ _ _ hmake)
  rcases result with cause | ⟨⟩
  · rw [runOn_operation_of_error hmake]
    exact ⟨output, cause, [], rfl, .inl ⟨rfl, rfl⟩, hmade⟩
  · rw [runOn_operation_of_ok hmake]
    have hartifacts := writeArtifacts_spec hdisk output batch.artifacts made
    rcases hrun : runOn (writeArtifacts disk output batch.artifacts) made with
      ⟨failure | written, last⟩
    · rw [hrun] at hartifacts
      rw [runOn_bind_of_error hrun]
      obtain ⟨done, artifact, cause, hfailure, hdone, hupdate⟩ := hartifacts
      exact ⟨pathIn output artifact, cause, done, hfailure, .inr ⟨artifact, hdone, rfl⟩,
        hmade.trans hupdate⟩
    · rw [hrun] at hartifacts
      rw [runOn_bind_of_ok hrun, runOn_pure]
      obtain ⟨rfl, hupdate⟩ := hartifacts
      exact ⟨rfl, hmade.trans hupdate⟩

/-! ### The two halves of a run -/

/-- The batch that a run compiles, and its options.  The documents are read on the way from the
state in which the run starts to the one that it reaches then. -/
structure CompilesOn (disk : Disk (StateM σ)) (cancelled : Bool) (arguments : List String)
    (state : σ) (options : GenerateOptions) (batch : Batch) (reached : σ) : Prop where
  options_eq : GenerateOptions.ofArguments arguments = .ok options
  batch_eq : ∃ config structs between,
    runOn (configurationOf disk options) state = (.ok config, between) ∧
    runOn (readStructs disk options.input) between = (.ok structs, reached) ∧
    Batch.compileUnless cancelled config structs = .ok batch

section Halves

variable {disk : Disk (StateM σ)} {cancelled : Bool} {arguments : List String} {state reached : σ}
  {options : GenerateOptions} {batch : Batch}

/-- A run compiles one batch. -/
theorem CompilesOn.unique {other : GenerateOptions} {otherBatch : Batch} {otherReached : σ}
    (h : CompilesOn disk cancelled arguments state options batch reached)
    (hother : CompilesOn disk cancelled arguments state other otherBatch otherReached) :
    options = other ∧ batch = otherBatch := by
  obtain ⟨hoptions, config, structs, between, hconfig, hstructs, hbatch⟩ := h
  obtain ⟨hoptions', config', structs', between', hconfig', hstructs', hbatch'⟩ := hother
  obtain rfl := Except.ok.inj (hoptions.symm.trans hoptions')
  obtain ⟨hsame, rfl⟩ := Prod.mk.inj (hconfig.symm.trans hconfig')
  obtain rfl := Except.ok.inj hsame
  obtain rfl := Except.ok.inj (Prod.mk.inj (hstructs.symm.trans hstructs')).1
  exact ⟨rfl, Except.ok.inj (hbatch.symm.trans hbatch')⟩

/-- A run that compiles a batch goes on to write it. -/
theorem CompilesOn.runOn_eq (h : CompilesOn disk cancelled arguments state options batch reached) :
    runOn (generateFrom disk cancelled arguments) state =
      runOn (writeBatch disk options.output batch) reached := by
  obtain ⟨hoptions, config, structs, between, hconfig, hstructs, hbatch⟩ := h
  rw [generateFrom, hoptions, runOn_bind_of_ok (runOn_orFail_ok _ options state), generate,
    runOn_bind_of_ok hconfig, runOn_bind_of_ok hstructs, hbatch,
    runOn_bind_of_ok (runOn_orFail_ok _ batch reached)]
  rfl

/-- A run fails before anything is written, or compiles a batch and has written nothing yet. -/
theorem failed_or_compilesOn {files : σ → FileSystem} (hdisk : disk.IsLawful files)
    (cancelled : Bool) (arguments : List String) (state : σ) :
    (∃ failure after, runOn (generateFrom disk cancelled arguments) state =
        (.error failure, after) ∧ files after = files state ∧
        ∀ path cause, failure ≠ .write path cause) ∨
      ∃ options batch reached, CompilesOn disk cancelled arguments state options batch reached ∧
        files reached = files state := by
  rw [generateFrom]
  -- each step leaves the files to the next one as it finds them, or ends the run
  rcases hoptions : GenerateOptions.ofArguments arguments with cause | options
  · exact .inl ⟨_, state, runOn_bind_of_error (runOn_orFail_error _ cause state), rfl, nofun⟩
  rw [runOn_bind_of_ok (runOn_orFail_ok _ options state), generate]
  rcases (IsReading.configurationOf hdisk options).run_bind _ state with
    hfailed | ⟨config, between, hconfig, hbetween, hrun⟩
  · exact .inl hfailed
  rw [hrun, ← hbetween]
  rcases (IsReading.readStructs hdisk options.input).run_bind _ between with
    hfailed | ⟨structs, reached, hstructs, hreached, hrun⟩
  · exact .inl hfailed
  rw [hrun, ← hreached]
  rcases hbatch : Batch.compileUnless cancelled config structs with cause | batch
  · exact .inl ⟨_, reached, runOn_bind_of_error (runOn_orFail_error _ cause reached), rfl, nofun⟩
  exact .inr ⟨options, batch, reached,
    ⟨hoptions, config, structs, between, hconfig, hstructs, hbatch⟩, rfl⟩

end Halves

/-! ### The two halves of a run in memory -/

/-- The batch that a run compiles, and its options.  The documents are read from the files that the
run finds. -/
structure Compiles (cancelled : Bool) (arguments : List String) (files : FileSystem)
    (options : GenerateOptions) (batch : Batch) : Prop where
  options_eq : GenerateOptions.ofArguments arguments = .ok options
  batch_eq : ∃ config structs,
    runOn (configurationOf memoryDisk options) files = (.ok config, files) ∧
    runOn (readStructs memoryDisk options.input) files = (.ok structs, files) ∧
    Batch.compileUnless cancelled config structs = .ok batch

section Memory

variable {cancelled : Bool} {arguments : List String} {files : FileSystem}
  {options : GenerateOptions} {batch : Batch}

/-- In memory, the first half of a run leaves the state as it is. -/
theorem compiles_iff : Compiles cancelled arguments files options batch ↔
    CompilesOn memoryDisk cancelled arguments files options batch files := by
  constructor
  · rintro ⟨hoptions, config, structs, hconfig, hstructs, hbatch⟩
    exact ⟨hoptions, config, structs, files, hconfig, hstructs, hbatch⟩
  · rintro ⟨hoptions, config, structs, between, hconfig, hstructs, hbatch⟩
    -- in memory a state is its files, so reading leaves the state as it is
    have hbetween := (IsReading.configurationOf memoryDisk_isLawful options).files_eq files
    rw [hconfig] at hbetween
    obtain rfl : between = files := hbetween
    exact ⟨hoptions, config, structs, hconfig, hstructs, hbatch⟩

/-- A run in memory compiles one batch. -/
theorem Compiles.unique {other : GenerateOptions} {otherBatch : Batch}
    (h : Compiles cancelled arguments files options batch)
    (hother : Compiles cancelled arguments files other otherBatch) :
    options = other ∧ batch = otherBatch :=
  (compiles_iff.mp h).unique (compiles_iff.mp hother)

theorem Compiles.runOn_eq (h : Compiles cancelled arguments files options batch) :
    runOn (generateFrom memoryDisk cancelled arguments) files =
      runOn (writeBatch memoryDisk options.output batch) files :=
  (compiles_iff.mp h).runOn_eq

/-- A run in memory that compiles a batch succeeds if its directory can be made, or is there, and
the path of each artifact leads somewhere, and to no directory. -/
theorem Compiles.exists_run_eq_ok {made : FileSystem}
    (h : Compiles cancelled arguments files options batch)
    (hmade : makeDirectories options.output files = (.ok (), made))
    (hfree : ∀ artifact ∈ batch.artifacts, ∃ location,
      made.location? (pathIn options.output artifact) = some location ∧
        made.find? location ≠ some .directory) :
    ∃ summary after, runOn (generateFrom memoryDisk cancelled arguments) files =
      (.ok summary, after) ∧ summary.errors = batch.errors := by
  obtain ⟨after, hafter⟩ := exists_writeArtifacts_eq_ok hfree
  have hdisk : memoryDisk.makeDirectories options.output files = (.ok (), made) := hmade
  refine ⟨{ written := batch.artifacts.map (pathIn options.output), errors := batch.errors }, after,
    ?_, rfl⟩
  rw [h.runOn_eq, writeBatch, runOn_operation_of_ok hdisk, runOn_bind_of_ok hafter, runOn_pure]

/-- A run in memory fails before anything is written, or compiles a batch. -/
theorem failed_or_compiles (cancelled : Bool) (arguments : List String) (files : FileSystem) :
    (∃ failure, runOn (generateFrom memoryDisk cancelled arguments) files =
        (.error failure, files) ∧ ∀ path cause, failure ≠ .write path cause) ∨
      ∃ options batch, Compiles cancelled arguments files options batch := by
  rcases failed_or_compilesOn memoryDisk_isLawful cancelled arguments files with
    ⟨failure, after, hrun, rfl, hfailure⟩ | ⟨options, batch, reached, hcompiles, rfl⟩
  · exact .inl ⟨failure, hrun, hfailure⟩
  · exact .inr ⟨options, batch, compiles_iff.mpr hcompiles⟩

end Memory

/-! ### A run on a document -/

/-- Files with a descriptor document, as it is written, and with other entries. -/
def withDocument (structs : List NativeStruct) (others : List (Location × Entry)) : FileSystem where
  entries := (["d.json"], .file (NativeStruct.writeDocument structs).toUTF8) :: others

variable (structs : List NativeStruct) (others : List (Location × Entry))

theorem read_withDocument :
    (withDocument structs others).read "d.json" = .ok (NativeStruct.writeDocument structs) :=
  read_eq_ok (rfl : (withDocument structs others).location? "d.json" = some ["d.json"]) rfl

/-- A run that reads the document compiles its structs. -/
theorem compilesOn_of_read {disk : Disk (StateM σ)} {state : σ}
    (hread : disk.read "d.json" state = (.ok (NativeStruct.writeDocument structs), state)) :
    CompilesOn disk false ["d.json"] state { input := "d.json" } (Batch.compile {} structs)
      state := by
  refine ⟨by decide, {}, structs, state, rfl, ?_, rfl⟩
  have htext : runOn (readFile disk "d.json") state =
      (.ok (NativeStruct.writeDocument structs), state) := runOn_readFile hread
  rw [readStructs, runOn_bind_of_ok htext, NativeStruct.readDocument_writeDocument]
  rfl

theorem compiles_withDocument :
    Compiles false ["d.json"] (withDocument structs others) { input := "d.json" }
      (Batch.compile {} structs) :=
  compiles_iff.mpr (compilesOn_of_read structs (memoryDisk_read (read_withDocument structs others)))

/-- The run succeeds if nothing lies where its paths lead. -/
theorem exists_run_withDocument_eq_ok
    (hfree : ∀ name ∈ (Batch.compile {} structs).artifacts.map Artifact.hintName,
      (withDocument structs []).isFree (join "." name) = true) :
    ∃ summary after, runOn (generateFrom memoryDisk false ["d.json"]) (withDocument structs []) =
      (.ok summary, after) ∧ summary.errors = (Batch.compile {} structs).errors := by
  refine (compiles_withDocument structs []).exists_run_eq_ok rfl fun artifact hmem => ?_
  obtain ⟨location, hlocation, hnone⟩ :=
    exists_of_isFree (hfree artifact.hintName (List.mem_map_of_mem hmem))
  refine ⟨location, hlocation, ?_⟩
  rw [hnone]
  exact nofun

end NativeBindings
