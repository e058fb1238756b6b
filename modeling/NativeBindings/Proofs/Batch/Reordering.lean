/-
NativeBindings/Proofs/Batch/Reordering.lean

Batches whose structs are put in another order.  What is left over when the loop has gone through a
batch depends on the order, since of structs that share a file name the first one is kept.  But
which names are used does not:

    a name is used  ↔  it is not taken and some well-formed struct has it

(`mem_hintName_select`).  No name is used twice, so the number of kept structs does not depend on the
order either.  If no two structs share a name, the loop never looks at what it has done before, and
it keeps the same structs in any order (`kept_select`).
-/
import NativeBindings.Proofs.Batch.Selection
import Mathlib.Data.List.Nodup
import Mathlib.Data.List.Perm.Basic

namespace NativeBindings

/-- Whether an error is that of a struct by itself. -/
def GenerationError.isMalformed : GenerationError → Bool
  | malformedSignature _ _ => true
  | _ => false

/-- The error of a struct by itself, if its signatures are not well formed. -/
def NativeStruct.fault? (config : Configuration) (struct : NativeStruct) :
    Option GenerationError :=
  match struct.compile config with
  | .error error => some error
  | .ok _ => none

namespace Batch

/-- A struct with its source, if it can be kept next to the names that are taken. -/
def candidate? (config : Configuration) (taken : List String) (struct : NativeStruct) :
    Option (NativeStruct × String) :=
  if struct.hintName ∈ taken then none
  else (struct.compile config).toOption.map fun source => (struct, source)

/-- The registration source with the paths of its records. -/
def registrationOf (config : Configuration) (paths : List String) : String :=
  Source.Layout.render <|
    Source.Layout.fileHeader config.generatedNamespace ++
      Source.Layout.item (Source.Layout.scope "public static class Addresses"
        (resolverMethod config "Register" "RegisterAddress" paths ++
          resolverMethod config "Unregister" "UnregisterAddress" paths))

variable {config : Configuration} {taken : List String} {structs other : List NativeStruct}

/-! ### The loop -/

/-- **The names that the loop uses.** -/
theorem mem_hintName_select {name : String} :
    name ∈ ((select config taken structs).kept.map keptArtifact).map Artifact.hintName ↔
      name ∉ taken ∧ ∃ struct ∈ structs, struct.WellFormed ∧ struct.hintName = name := by
  induction structs generalizing taken with
  | nil => simp [select]
  | cons struct rest ih =>
    rw [List.exists_mem_cons_iff]
    rcases hcompile : struct.compile config with error | source
    · have hill : ¬struct.WellFormed := by
        intro hwell
        obtain ⟨source, hsource⟩ := NativeStruct.exists_compile_eq_ok_iff.mpr hwell
        cases hcompile.symm.trans hsource
      rw [select_cons_of_error hcompile]
      refine ih.trans (and_congr_right' ?_)
      simp only [hill, false_and, false_or]
    have hwell : struct.WellFormed := NativeStruct.exists_compile_eq_ok_iff.mp ⟨source, hcompile⟩
    rcases Decidable.em (struct.hintName ∈ taken) with htaken | hfree
    · rw [select_cons_of_mem hcompile htaken]
      refine ih.trans (and_congr_right fun hname => ?_)
      have hne : struct.hintName ≠ name := by
        rintro rfl
        exact hname htaken
      simp only [hne, and_false, false_or]
    · -- the name of the struct is used here, and by nobody in the rest
      rw [select_cons_of_not_mem hcompile hfree]
      refine List.mem_cons.trans ?_
      rw [ih, List.mem_cons, not_or]
      rcases Decidable.em (struct.hintName = name) with rfl | hne
      · exact iff_of_true (.inl rfl) ⟨hfree, .inl ⟨hwell, rfl⟩⟩
      · have hne' : name ≠ struct.hintName := Ne.symm hne
        show name = struct.hintName ∨ _ ↔ _
        simp only [hne, hne', and_false, false_or, not_false_eq_true, true_and]

/-- The errors of structs by themselves do not depend on what the loop has done before. -/
theorem filter_isMalformed_errors :
    (select config taken structs).errors.filter GenerationError.isMalformed =
      structs.filterMap (NativeStruct.fault? config) := by
  induction structs generalizing taken with
  | nil => rfl
  | cons struct rest ih =>
    rcases hcompile : struct.compile config with error | source
    · have hfault : struct.fault? config = some error := by
        rw [NativeStruct.fault?, hcompile]
      obtain ⟨named, -, cause, -, rfl⟩ := NativeStruct.exists_of_compile_eq_error hcompile
      rw [select_cons_of_error hcompile, List.filterMap_cons_some hfault, ← ih]
      rfl
    have hfault : struct.fault? config = none := by
      rw [NativeStruct.fault?, hcompile]
    rw [List.filterMap_cons_none hfault]
    rcases Decidable.em (struct.hintName ∈ taken) with htaken | hfree
    · rw [select_cons_of_mem hcompile htaken]
      exact ih
    · rw [select_cons_of_not_mem hcompile hfree]
      exact ih

/-- Each struct is kept or has an error. -/
theorem length_kept_add_length_errors (config : Configuration) (taken : List String)
    (structs : List NativeStruct) :
    (select config taken structs).kept.length + (select config taken structs).errors.length =
      structs.length := by
  obtain ⟨keep, hgreedy, hkept, -, herrors⟩ := exists_isGreedy_select config taken structs
  rw [← length_picked_add hgreedy.length_eq, herrors.length_eq, ← hkept, List.length_map]

/-- Among structs of different names, what is kept is told struct by struct. -/
theorem kept_select (h : (structs.map NativeStruct.hintName).Nodup) :
    (select config taken structs).kept = structs.filterMap (candidate? config taken) := by
  induction structs generalizing taken with
  | nil => rfl
  | cons struct rest ih =>
    obtain ⟨hnew, hrest⟩ := List.nodup_cons.mp h
    rcases hcompile : struct.compile config with error | source
    · have hnone : candidate? config taken struct = none := by
        rw [candidate?, hcompile]
        exact ite_self none
      rw [select_cons_of_error hcompile, List.filterMap_cons_none hnone]
      exact ih hrest
    rcases Decidable.em (struct.hintName ∈ taken) with htaken | hfree
    · have hnone : candidate? config taken struct = none := if_pos htaken
      rw [select_cons_of_mem hcompile htaken, List.filterMap_cons_none hnone]
      exact ih hrest
    · have hsome : candidate? config taken struct = some (struct, source) := by
        rw [candidate?, if_neg hfree, hcompile]
        rfl
      -- the name that is taken now is that of no struct in the rest
      have hsame : ∀ later ∈ rest, candidate? config (struct.hintName :: taken) later =
          candidate? config taken later := by
        intro later hlater
        have hne : later.hintName ≠ struct.hintName := by
          intro heq
          exact hnew (heq ▸ List.mem_map_of_mem hlater)
        simp only [candidate?, List.mem_cons, hne, false_or]
      rw [select_cons_of_not_mem hcompile hfree, List.filterMap_cons_some hsome,
        ← List.filterMap_congr hsame, ← ih hrest]
      rfl

/-! ### Two orders -/

/-- The same names are used in any order. -/
theorem hintName_select_perm (config : Configuration) (h : structs.Perm other)
    (htaken : taken.Nodup) :
    (((select config taken structs).kept.map keptArtifact).map Artifact.hintName).Perm
      (((select config taken other).kept.map keptArtifact).map Artifact.hintName) := by
  have hnodup := List.Nodup.of_append_left (nodup_select config structs htaken)
  have hnodup' := List.Nodup.of_append_left (nodup_select config other htaken)
  refine (List.perm_ext_iff_of_nodup hnodup hnodup').mpr fun name => ?_
  rw [mem_hintName_select, mem_hintName_select]
  simp only [h.mem_iff]

/-- As many structs are left out in any order. -/
theorem length_errors_perm (config : Configuration) (h : structs.Perm other)
    (htaken : taken.Nodup) :
    (select config taken structs).errors.length = (select config taken other).errors.length := by
  have hkept := (hintName_select_perm config h htaken).length_eq
  simp only [List.length_map] at hkept
  have hall := length_kept_add_length_errors config taken structs
  have hall' := length_kept_add_length_errors config taken other
  rw [h.length_eq] at hall
  omega

/-- The same structs are kept in any order, if no two share a name. -/
theorem kept_select_perm (config : Configuration) (taken : List String)
    (h : structs.Perm other) (hnames : (structs.map NativeStruct.hintName).Nodup) :
    (select config taken structs).kept.Perm (select config taken other).kept := by
  rw [kept_select hnames, kept_select ((h.map _).nodup_iff.mp hnames)]
  exact h.filterMap _

/-- Structs of different dotted names have different file names. -/
theorem nodup_hintName (h : (structs.map NativeStruct.qualifiedName).Nodup) :
    (structs.map NativeStruct.hintName).Nodup := by
  have hinjective : Function.Injective fun name => name ++ generatedSuffix := by
    intro name name' heq
    exact (String.append_left_inj _).mp heq
  have hnodup := List.Nodup.map hinjective h
  rw [List.map_map] at hnodup
  exact hnodup

/-- **The order of a batch only decides which of several structs of one name is kept.**  In any
order a batch uses the same names, leaves out as many structs and refuses the same signatures.  If
the dotted names are different, it also has the same source under each name, the same inline array
types, and registers the same records in another order. -/
theorem compileUnless_perm (config : Configuration) {structs other : List NativeStruct}
    (h : structs.Perm other) :
    ∃ batch batch', compileUnless false config structs = .ok batch ∧
      compileUnless false config other = .ok batch' ∧
      (batch.artifacts.map Artifact.hintName).Perm (batch'.artifacts.map Artifact.hintName) ∧
      batch.errors.length = batch'.errors.length ∧
      (batch.errors.filter GenerationError.isMalformed).Perm
        (batch'.errors.filter GenerationError.isMalformed) ∧
      ((structs.map NativeStruct.qualifiedName).Nodup →
        batch.structs.Perm batch'.structs ∧
        (∀ artifact ∈ batch.structs, ∀ artifact' ∈ batch'.structs,
          artifact.hintName = artifact'.hintName → artifact.source = artifact'.source) ∧
        batch.arrayTypes = batch'.arrayTypes ∧
        ∃ paths paths' : List String, paths.Perm paths' ∧
          batch.registration.source = registrationOf config paths ∧
          batch'.registration.source = registrationOf config paths') := by
  have hhints := nodup_batchHints config
  refine ⟨compile config structs, compile config other, rfl, rfl, ?_,
    length_errors_perm config h hhints, ?_, ?_⟩
  · rw [artifacts, artifacts, List.map_append, List.map_append]
    exact (hintName_select_perm config h hhints).append (List.Perm.refl config.batchHints)
  · show List.Perm ((select config config.batchHints structs).errors.filter _)
      ((select config config.batchHints other).errors.filter _)
    rw [filter_isMalformed_errors, filter_isMalformed_errors]
    exact h.filterMap _
  · intro hnames
    have hkept := kept_select_perm config config.batchHints h (nodup_hintName hnames)
    have hstructs : (compile config structs).structs.Perm (compile config other).structs :=
      hkept.map keptArtifact
    refine ⟨hstructs, ?_, ?_, ?_⟩
    · intro artifact hartifact artifact' hartifact' hname
      have hnodup := nodup_hintName_artifacts config structs
      rw [artifacts, List.map_append] at hnodup
      exact congrArg Artifact.source (List.inj_on_of_nodup_map (List.Nodup.of_append_left hnodup)
        hartifact (hstructs.mem_iff.mpr hartifact') hname)
    · have hsizes := ArraySizes.ofStructs_perm (hkept.map Prod.fst)
      exact congrArg (fun sizes : ArraySizes =>
        Artifact.mk (config.batchHint arrayTypesName) (sizes.render config)) hsizes
    · exact ⟨_, _, (hkept.map Prod.fst).flatMap_right _, rfl, rfl⟩

/-- A batch with a malformed signature, and one in which two structs share a name, from the front
and from the back. -/
theorem compileUnless_perm_reversed :
    let function (pattern : String) : MemberFunction :=
      { method := .ofInstance "Run" "void", signature := { pattern } }
    let array (length : UInt32) : FixedArray := { field := "_items", elementType := "int", length }
    let first : NativeStruct :=
      { name := "A", memberFunctions := [function "E8"], fixedArrays := [array 8] }
    let second : NativeStruct :=
      { name := "B", memberFunctions := [function "E9 ??"], fixedArrays := [array 4, array 8] }
    let malformed : NativeStruct := { name := "C", memberFunctions := [function "xyz"] }
    let namesake : NativeStruct := { name := "A", fixedArrays := [array 2] }
    [first, second, malformed].Perm [malformed, second, first] ∧
    ([first, second, malformed].map NativeStruct.qualifiedName).Nodup ∧
    (∃ batch batch', compileUnless false {} [first, second, malformed] = .ok batch ∧
      compileUnless false {} [malformed, second, first] = .ok batch' ∧
      batch.structs.Perm batch'.structs ∧ batch.arrayTypes = batch'.arrayTypes) ∧
    [first, namesake].Perm [namesake, first] ∧
    ∃ batch batch', compileUnless false {} [first, namesake] = .ok batch ∧
      compileUnless false {} [namesake, first] = .ok batch' ∧
      (batch.artifacts.map Artifact.hintName).Perm (batch'.artifacts.map Artifact.hintName) ∧
      batch.errors.length = batch'.errors.length := by
  intro function array first second malformed namesake
  have hperm : [first, second, malformed].Perm [malformed, second, first] :=
    List.reverse_perm [malformed, second, first]
  have hnames : ([first, second, malformed].map NativeStruct.qualifiedName).Nodup := by decide
  have hswap : [first, namesake].Perm [namesake, first] := List.Perm.swap namesake first []
  obtain ⟨batch, batch', hbatch, hbatch', -, -, -, hdistinct⟩ := compileUnless_perm {} hperm
  obtain ⟨hstructs, -, harrays, -⟩ := hdistinct hnames
  obtain ⟨shared, shared', hshared, hshared', hhints, herrors, -⟩ := compileUnless_perm {} hswap
  exact ⟨hperm, hnames, ⟨batch, batch', hbatch, hbatch', hstructs, harrays⟩, hswap, shared, shared',
    hshared, hshared', hhints, herrors⟩

end Batch

end NativeBindings
