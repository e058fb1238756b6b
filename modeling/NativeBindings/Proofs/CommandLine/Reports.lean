/-
NativeBindings/Proofs/CommandLine/Reports.lean

What the program says of a run of `generate` (`runProgram_generate_report`).  The report is made
from the outcome of the run alone, so it is truthful if the outcome is.  A run that goes through has
written one file for each source of its batch, and each struct of the document is the cause of one
source or of one error:

    written files = structs - skipped structs + 2

Of the failures, those of the arguments come first: once the options are read, nothing blames the
arguments any more (`SparesArguments.generate`).
-/
import NativeBindings.CommandLine.Program
import NativeBindings.Proofs.CommandLine.WrittenFiles
import NativeBindings.Proofs.Source.LaidOut

namespace NativeBindings

open Files Files.FileSystem

variable {α β : Type} {cancelled : Bool} {arguments : List String} {files after : FileSystem}
  {options : GenerateOptions} {config : Configuration} {batch : Batch} {summary : Summary}
  {failure : Failure}

/-! ### From the run to its report -/

theorem runProgram_generate_of_ok
    (h : runOn (generateFrom memoryDisk false arguments) files = (.ok summary, after)) :
    (runProgram memoryDisk ("generate" :: arguments)).run files = (summary.report, after) := by
  have hrun : (generateFrom memoryDisk false arguments).run.run files = (.ok summary, after) := h
  rw [runProgram, if_pos rfl, generateReport, StateT.run_bind, hrun]
  rfl

theorem runProgram_generate_of_error
    (h : runOn (generateFrom memoryDisk false arguments) files = (.error failure, after)) :
    (runProgram memoryDisk ("generate" :: arguments)).run files = (failure.report, after) := by
  have hrun : (generateFrom memoryDisk false arguments).run.run files = (.error failure, after) := h
  rw [runProgram, if_pos rfl, generateReport, StateT.run_bind, hrun]
  rfl

/-! ### Failures that the arguments are not to blame for -/

/-- No failure of an action is one of the arguments. -/
def SparesArguments (action : ExceptT Failure (StateM FileSystem) α) : Prop :=
  ∀ files cause, (runOn action files).1 ≠ .error (.usage cause)

namespace SparesArguments

variable {action : ExceptT Failure (StateM FileSystem) α}
  {next : α → ExceptT Failure (StateM FileSystem) β}

theorem pure (a : α) : SparesArguments (pure a : ExceptT Failure (StateM FileSystem) α) := by
  intro files cause h
  cases h

theorem orFail {ε : Type} {failure : ε → Failure}
    (hfailure : ∀ cause other, failure cause ≠ .usage other) (result : Except ε α) :
    SparesArguments (orFail failure result : ExceptT Failure (StateM FileSystem) α) := by
  intro files cause h
  cases result with
  | ok a => cases h
  | error reason => exact hfailure reason cause (Except.error.inj h)

theorem bind (h : SparesArguments action) (hnext : ∀ a, SparesArguments (next a)) :
    SparesArguments (action >>= next) := by
  intro files cause
  rcases hrun : runOn action files with ⟨failure | a, after⟩
  · rw [runOn_bind_of_error hrun]
    intro hfailure
    obtain rfl := Except.error.inj hfailure
    exact h files cause (by rw [hrun])
  · rw [runOn_bind_of_ok hrun]
    exact hnext a after cause

/-- An operation on the files does not fail itself; its result may be a reason to. -/
theorem operation {operation : StateM FileSystem α} (hnext : ∀ a, SparesArguments (next a)) :
    SparesArguments (liftM operation >>= next) := by
  intro files
  exact hnext (operation files).1 (operation files).2

theorem readFile (path : String) : SparesArguments (readFile memoryDisk path) :=
  operation fun result => orFail nofun result

theorem configurationOf (options : GenerateOptions) :
    SparesArguments (configurationOf memoryDisk options) := by
  unfold NativeBindings.configurationOf
  cases options.config with
  | none => exact pure _
  | some path =>
    refine (readFile path).bind fun text => ?_
    exact (orFail nofun _).bind fun config => pure _

theorem readStructs (path : String) : SparesArguments (readStructs memoryDisk path) :=
  (readFile path).bind fun _ => orFail nofun _

theorem writeArtifacts (directory : String) (artifacts : List Artifact) :
    SparesArguments (writeArtifacts memoryDisk directory artifacts) := by
  induction artifacts with
  | nil => exact pure _
  | cons artifact rest ih =>
    refine operation fun result => ?_
    refine (orFail nofun result).bind fun _ => ?_
    exact ih.bind fun written => pure _

/-- **A run with options never blames the arguments.** -/
theorem generate (cancelled : Bool) (options : GenerateOptions) :
    SparesArguments (generate memoryDisk cancelled options) := by
  refine (configurationOf options).bind fun config => ?_
  refine (readStructs options.input).bind fun structs => ?_
  refine (orFail nofun _).bind fun batch => ?_
  refine operation fun result => ?_
  refine (orFail nofun result).bind fun _ => ?_
  exact (writeArtifacts options.output batch.artifacts).bind fun written => pure _

end SparesArguments

/-- A run fails for its arguments exactly if they give no options. -/
theorem usage_or_options
    (h : runOn (generateFrom memoryDisk cancelled arguments) files = (.error failure, after)) :
    (∃ cause, failure = .usage cause ∧ GenerateOptions.ofArguments arguments = .error cause) ∨
      (∀ cause, failure ≠ .usage cause) ∧
        ∃ options, GenerateOptions.ofArguments arguments = .ok options := by
  rw [generateFrom] at h
  rcases hoptions : GenerateOptions.ofArguments arguments with cause | options
  · rw [hoptions, runOn_bind_of_error (runOn_orFail_error _ cause files)] at h
    obtain rfl := Except.error.inj (Prod.mk.inj h).1
    exact .inl ⟨cause, rfl, rfl⟩
  · rw [hoptions, runOn_bind_of_ok (runOn_orFail_ok _ options files)] at h
    refine .inr ⟨?_, options, rfl⟩
    rintro cause rfl
    exact SparesArguments.generate cancelled options files cause (by rw [h])

/-! ### The structs that are skipped -/

/-- The structs that a batch leaves out, in its order, and the error of each one. -/
structure Batch.LeavesOut (config : Configuration) (structs skipped : List NativeStruct)
    (errors : List GenerationError) : Prop where
  sublist : skipped.Sublist structs
  exists_greedy : ∃ keep, IsGreedy config.batchHints structs keep ∧
    skipped = picked (keep.map not) structs
  faults : List.Forall₂ (IsFaultOf config) skipped errors

theorem Batch.picked_sublist {α : Type} {keep : List Bool} {items : List α}
    (h : keep.length = items.length) : (picked keep items).Sublist items := by
  have hfilter : (picked keep items).Sublist ((items.zip keep).map Prod.fst) :=
    List.filter_sublist.map Prod.fst
  rwa [List.map_fst_zip h.ge] at hfilter

/-- A batch has a source for each struct that is not skipped, and two more. -/
theorem Batch.exists_leavesOut (config : Configuration) (structs : List NativeStruct) :
    ∃ skipped, LeavesOut config structs skipped (compile config structs).errors ∧
      (compile config structs).artifacts.length = structs.length - skipped.length + 2 := by
  obtain ⟨keep, hgreedy, hkept, -, herrors⟩ :=
    exists_isGreedy_select config config.batchHints structs
  have hleft : (keep.map not).length = structs.length :=
    (List.length_map not).trans hgreedy.length_eq
  refine ⟨picked (keep.map not) structs,
    ⟨picked_sublist hleft, ⟨keep, hgreedy, rfl⟩, herrors⟩, ?_⟩
  have hstructs : (compile config structs).structs.length = (picked keep structs).length := by
    rw [← hkept, List.length_map]
    exact List.length_map _
  have hlength := length_picked_add hgreedy.length_eq
  rw [artifacts, List.length_append, hstructs]
  show (picked keep structs).length + 2 = _
  omega

/-- The errors of a run are those of its batch. -/
theorem errors_of_writeBatch {output : String}
    (h : runOn (writeBatch memoryDisk output batch) files = (.ok summary, after)) :
    summary.errors = batch.errors := by
  rw [writeBatch] at h
  rcases hdisk : memoryDisk.makeDirectories output files with ⟨cause | ⟨⟩, made⟩
  · rw [runOn_operation_of_error hdisk] at h
    cases h
  rw [runOn_operation_of_ok hdisk] at h
  rcases hrun : runOn (writeArtifacts memoryDisk output batch.artifacts) made with
    ⟨failure | written, last⟩
  · rw [runOn_bind_of_error hrun] at h
    cases h
  · rw [runOn_bind_of_ok hrun, runOn_pure] at h
    cases h
    rfl

/-! ### The reports -/

theorem lines_unlines {texts : List String} (h : ∀ text ∈ texts, Text.SingleLine text) :
    Source.lines (unlines texts) = texts.map String.toList := by
  apply Source.lines_eq_of_toList
  · intro line hline
    obtain ⟨text, htext, rfl⟩ := List.mem_map.mp hline
    exact h text htext
  · rw [unlines, String.toList_join, List.flatMap_map, List.flatMap_map]
    exact congrArg (fun write => texts.flatMap write) (funext fun _ => String.toList_append)

/-- A literal is looked at as the list of its characters. -/
theorem not_wrote_ofList {cs : List Char} (h : '\n' ∉ cs ∧ cs.head? ≠ some 'w') :
    Text.SingleLine (String.ofList cs) ∧ (String.ofList cs).toList.head? ≠ some 'w' := by
  rw [String.toList_ofList]
  exact ⟨Text.lacks_ofList.mpr h.1, h.2⟩

/-- No line of the usage tells of files that were written. -/
theorem wrote_not_mem_lines_usageText (count : String) :
    ("wrote " ++ count).toList ∉ Source.lines usageText := by
  obtain ⟨texts, husage, htexts⟩ : ∃ texts, usageText = unlines texts ∧
      ∀ text ∈ texts, Text.SingleLine text ∧ text.toList.head? ≠ some 'w' := by
    refine ⟨_, rfl, ?_⟩
    repeat refine List.forall_mem_cons.mpr ⟨not_wrote_ofList (by decide), ?_⟩
    exact List.forall_mem_nil _
  rw [husage, lines_unlines fun text htext => (htexts text htext).1]
  intro hmem
  obtain ⟨text, htext, heq⟩ := List.mem_map.mp hmem
  apply (htexts text htext).2
  rw [heq, String.toList_append]
  rfl

/-- **The exit report is truthful.**  If the run of `generate` on the same files returns a summary,
then it has compiled the structs of the document that its options name.  The count is that of the
files that it wrote, which is the number of structs without the skipped ones, and two.  There is one
message for each skipped struct in the order of the document, then their number if there are any,
and the exit code is zero if there are none.  If the run fails, the exit code is one, and nothing
but the usage can be on the standard output, which is there exactly if the arguments are refused. -/
theorem runProgram_generate_report (arguments : List String) (files : FileSystem) :
    ∃ report after, (runProgram memoryDisk ("generate" :: arguments)).run files = (report, after) ∧
      match runOn (generateFrom memoryDisk false arguments) files with
      | (.ok summary, left) => after = left ∧
          ∃ options config structs skipped artifacts,
            GenerateOptions.ofArguments arguments = .ok options ∧
            runOn (configurationOf memoryDisk options) files = (.ok config, files) ∧
            runOn (readStructs memoryDisk options.input) files = (.ok structs, files) ∧
            Batch.LeavesOut config structs skipped summary.errors ∧
            artifacts = (Batch.compile config structs).artifacts ∧
            IsUpdate files (filesIn options.output artifacts) after ∧
            artifacts.length = structs.length - skipped.length + 2 ∧
            report.standardOutput =
              "wrote " ++ toString (structs.length - skipped.length + 2) ++ " file(s)\n" ∧
            report.standardError =
              unlines (summary.errors.map fun error => "error: " ++ error.message) ++
                (if skipped.length = 0 then ""
                else toString skipped.length ++ " struct(s) skipped\n") ∧
            report.exitCode = (if skipped.length = 0 then 0 else 1)
      | (.error failure, left) => after = left ∧
          report.exitCode = 1 ∧
          report.standardError =
            "error: " ++ failure.message ++ "\n" ++ (if failure.isUsage then "\n" else "") ∧
          ((∃ cause, failure = .usage cause ∧
              GenerateOptions.ofArguments arguments = .error cause) ∧
              report.standardOutput = usageText ∨
            ((∀ cause, failure ≠ .usage cause) ∧
              ∃ options, GenerateOptions.ofArguments arguments = .ok options) ∧
              report.standardOutput = "") ∧
          ∀ count, ("wrote " ++ count).toList ∉ Source.lines report.standardOutput := by
  rcases hrun : runOn (generateFrom memoryDisk false arguments) files with ⟨failure | summary, left⟩
  · refine ⟨failure.report, left, runProgram_generate_of_error hrun, rfl, rfl, rfl, ?_⟩
    rcases usage_or_options hrun with ⟨cause, rfl, hcause⟩ | ⟨hfailure, hoptions⟩
    · exact ⟨.inl ⟨⟨cause, rfl, hcause⟩, rfl⟩, wrote_not_mem_lines_usageText⟩
    · have hsilent : failure.report.standardOutput = "" := by
        cases failure with
        | usage cause => exact absurd rfl (hfailure cause)
        | _ => rfl
      refine ⟨.inr ⟨⟨hfailure, hoptions⟩, hsilent⟩, ?_⟩
      intro count
      rw [hsilent]
      exact List.not_mem_nil
  · obtain ⟨options, batch, hcompiles, hwritten, hupdate⟩ := exists_compiles_of_run_eq_ok hrun
    have hreport := runProgram_generate_of_ok hrun
    rw [hcompiles.runOn_eq] at hrun
    have herrors := errors_of_writeBatch hrun
    obtain ⟨hoptions, config, structs, hconfig, hstructs, hbatch⟩ := hcompiles
    obtain rfl : Batch.compile config structs = batch := Except.ok.inj hbatch
    obtain ⟨skipped, hskipped, hcount⟩ := Batch.exists_leavesOut config structs
    rw [← herrors] at hskipped
    have hwrote : summary.written.length = structs.length - skipped.length + 2 := by
      rw [hwritten, List.length_map, hcount]
    have hsuccess : summary.isSuccess = true ↔ skipped.length = 0 := by
      rw [Summary.isSuccess, List.isEmpty_iff_length_eq_zero, hskipped.faults.length_eq]
    refine ⟨summary.report, left, hreport, rfl, options, config, structs, skipped, _, hoptions,
      hconfig, hstructs, hskipped, rfl, hupdate, hcount, ?_, ?_, ?_⟩
    · rw [← hwrote]
      rfl
    · simp only [Summary.report, hsuccess, hskipped.faults.length_eq]
    · simp only [Summary.report, hsuccess]

end NativeBindings
