/-
NativeBindings/Proofs/Cancellation/Checks.lean

Compilers that look at the cancellation more often.  A struct can be compiled with a look before its
signatures are encoded, one before its blocks and one behind each of them, and a batch with a look
whenever a part of it is done, where an error that is a cancellation stops the whole batch.  As long
as the answer to these looks stays the same, one look at the start is enough:

    struct.compileChecked cancelled config = struct.compileUnless cancelled config

and the same holds of batches (`Batch.compileChecked_eq`).  What has been done before a look is lost
if the look fails, and no other error comes first.
-/
import NativeBindings.Proofs.Batch.Selection

namespace NativeBindings

open Source

/-! ### Structs -/

namespace NativeStruct

variable {cancelled : Bool} {config : Configuration} {struct : NativeStruct}

/-- Write blocks behind what is written, with a look behind each of them. -/
def blocksChecked (cancelled : Bool) (config : Configuration) (table : AddressTable)
    (struct : NativeStruct) : Layout → List Block → Except GenerationError Layout
  | written, [] => return written
  | written, block :: rest => do
      let written := written ++ Block.layout config table struct block
      checkCancelled cancelled
      blocksChecked cancelled config table struct written rest

/-- Compile a struct with a look before its signatures, one before its blocks and one behind each
block. -/
def compileChecked (cancelled : Bool) (config : Configuration) (struct : NativeStruct) :
    Except GenerationError String := do
  checkCancelled cancelled
  let table ← AddressTable.encode struct
  let opening := Layout.fileHeader struct.nameSpace ++ struct.openings
  checkCancelled cancelled
  let written ← blocksChecked cancelled config table struct opening Block.all
  return (written ++ struct.closings).render

theorem blocksChecked_false (table : AddressTable) (written : Layout) (blocks : List Block) :
    blocksChecked false config table struct written blocks =
      .ok (written ++ blocks.flatMap (Block.layout config table struct)) := by
  induction blocks generalizing written with
  | nil => rw [List.flatMap_nil, List.append_nil]; rfl
  | cons block rest ih =>
    rw [List.flatMap_cons, ← List.append_assoc]
    exact ih _

/-- **One look at the start is enough for a struct.** -/
theorem compileChecked_eq (cancelled : Bool) (config : Configuration) (struct : NativeStruct) :
    struct.compileChecked cancelled config = struct.compileUnless cancelled config := by
  cases cancelled with
  | true => rfl
  | false =>
    simp only [compileChecked, compileUnless, compile, blocksChecked_false]
    rfl

/-- A struct that is not cancelled is refused for its signatures only. -/
theorem isCancellation_of_compile_eq_error {error : GenerationError}
    (h : struct.compile config = .error error) : error.isCancellation = false := by
  obtain ⟨named, -, cause, -, rfl⟩ := exists_of_compile_eq_error h
  rfl

end NativeStruct

/-! ### Batches -/

namespace Batch

/-- Keep what can be kept of structs with their results; a cancellation among the results is the
result of all. -/
def collect : (taken : List String) → List (NativeStruct × Except GenerationError String) →
    Except GenerationError Selection
  | _, [] => .ok {}
  | taken, (_, .error error) :: rest =>
      if error.isCancellation then .error error
      else Selection.leaveOut error <$> collect taken rest
  | taken, (struct, .ok source) :: rest =>
      if struct.hintName ∈ taken then
        Selection.leaveOut (.duplicateArtifact struct.hintName) <$> collect taken rest
      else Selection.keep struct source <$> collect (struct.hintName :: taken) rest

/-- Compile a batch with all looks inside its structs, one behind them and one behind each source
that covers the batch. -/
def compileChecked (cancelled : Bool) (config : Configuration) (structs : List NativeStruct) :
    Except GenerationError Batch := do
  let results := structs.map fun struct => (struct, struct.compileChecked cancelled config)
  checkCancelled cancelled
  let selection ← collect config.batchHints results
  let kept := selection.kept.map Prod.fst
  let registration : Artifact :=
    { hintName := config.batchHint registrationName, source := registrationSource kept config }
  checkCancelled cancelled
  let arrayTypes : Artifact :=
    { hintName := config.batchHint arrayTypesName
      source := (ArraySizes.ofStructs kept).render config }
  checkCancelled cancelled
  return { structs := selection.kept.map fun (struct, source) =>
             { hintName := struct.hintName, source }
           registration, arrayTypes, errors := selection.errors }

/-- Without a cancellation among them, the results are collected as the loop selects them. -/
theorem collect_compile (config : Configuration) (taken : List String)
    (structs : List NativeStruct) :
    collect taken (structs.map fun struct => (struct, struct.compile config)) =
      .ok (select config taken structs) := by
  induction structs generalizing taken with
  | nil => rfl
  | cons struct rest ih =>
    rw [List.map_cons]
    rcases hcompile : struct.compile config with error | source
    · rw [collect, NativeStruct.isCancellation_of_compile_eq_error hcompile, ih,
        select_cons_of_error hcompile]
      rfl
    · rcases Decidable.em (struct.hintName ∈ taken) with htaken | hfree
      · rw [collect, if_pos htaken, ih, select_cons_of_mem hcompile htaken]
        rfl
      · rw [collect, if_neg hfree, ih, select_cons_of_not_mem hcompile hfree]
        rfl

/-- **One look at the start is enough for a batch.** -/
theorem compileChecked_eq (cancelled : Bool) (config : Configuration)
    (structs : List NativeStruct) :
    compileChecked cancelled config structs = compileUnless cancelled config structs := by
  cases cancelled with
  | true => rfl
  | false =>
    have hresults : (structs.map fun struct => (struct, struct.compileChecked false config)) =
        structs.map fun struct => (struct, struct.compile config) := by
      refine List.map_congr_left fun struct _ => ?_
      rw [NativeStruct.compileChecked_eq]
      rfl
    rw [compileChecked, hresults]
    show (collect _ _ >>= _) = _
    rw [collect_compile]
    rfl

end Batch

end NativeBindings
