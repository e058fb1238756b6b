/-
NativeBindings/Proofs/NativeStruct/BuildOrder.lean

The order in which a descriptor is built.  Each step adds to one part of the descriptor, and a part
can be told as the steps that make it (`partSteps`).  What is built is made, part by part, of the
steps for this part, and of the static virtual tables only the last one counts:

    ((ofName nameSpace name).extendAll steps).partSteps part = stepsFor part steps

(`partSteps_built`).  So two sequences build one descriptor exactly if they have the same steps for
each part, however these are interleaved (`extendAll_eq_iff`), and whether a descriptor has anything
to scan for, or a virtual table, shows by the parts of its steps.
-/
import Mathlib.Data.List.Basic
import Mathlib.Data.List.Induction
import NativeBindings.Binding.StructSource
import NativeBindings.NativeStruct.Builder

namespace NativeBindings.NativeStruct

/-! ### Steps for one part -/

/-- The parts of a descriptor that grow. -/
inductive Part where
  | containingTypes
  | memberFunctions
  | virtualFunctions
  | staticAddresses
  | stringOverloads
  | fixedArrays
  | staticVirtualTable
deriving DecidableEq

/-- The part that a step adds to. -/
def Step.part : Step → Part
  | nestedIn _ => .containingTypes
  | memberFunction _ => .memberFunctions
  | virtualFunction _ => .virtualFunctions
  | staticAddress _ => .staticAddresses
  | stringOverload _ => .stringOverloads
  | fixedArray _ => .fixedArrays
  | staticVirtualTable _ => .staticVirtualTable

/-- What a step gives to scan for. -/
def Step.namedSignature? : Step → Option NamedSignature
  | memberFunction f => some { name := f.method.name, signature := f.signature }
  | staticAddress a => some { name := a.method.name, signature := a.signature }
  | staticVirtualTable signature => some { name := staticVirtualTableName, signature }
  | _ => none

/-- The steps for one part, in their order; of the static virtual tables, the last one. -/
def stepsFor (part : Part) (steps : List Step) : List Step :=
  let own := steps.filter (·.part = part)
  if part = .staticVirtualTable then own.getLast?.toList else own

/-- The steps that make a part of a descriptor. -/
def partSteps (struct : NativeStruct) : Part → List Step
  | .containingTypes => struct.containingTypes.map .nestedIn
  | .memberFunctions => struct.memberFunctions.map .memberFunction
  | .virtualFunctions => struct.virtualFunctions.map .virtualFunction
  | .staticAddresses => struct.staticAddresses.map .staticAddress
  | .stringOverloads => struct.stringOverloads.map .stringOverload
  | .fixedArrays => struct.fixedArrays.map .fixedArray
  | .staticVirtualTable => struct.staticVirtualTable.toList.map .staticVirtualTable

variable {struct other : NativeStruct} {step : Step} {steps others : List Step} {part : Part}

/-! ### What a descriptor is made of -/

/-- A descriptor is its names and its parts. -/
theorem eq_of_partSteps (hname : struct.name = other.name)
    (hnameSpace : struct.nameSpace = other.nameSpace)
    (h : ∀ part, struct.partSteps part = other.partSteps part) : struct = other := by
  have hparents := (List.map_inj_right fun _ _ => Step.nestedIn.inj).mp (h .containingTypes)
  have hmembers := (List.map_inj_right fun _ _ => Step.memberFunction.inj).mp (h .memberFunctions)
  have hvirtuals :=
    (List.map_inj_right fun _ _ => Step.virtualFunction.inj).mp (h .virtualFunctions)
  have haddresses := (List.map_inj_right fun _ _ => Step.staticAddress.inj).mp (h .staticAddresses)
  have hoverloads :=
    (List.map_inj_right fun _ _ => Step.stringOverload.inj).mp (h .stringOverloads)
  have harrays := (List.map_inj_right fun _ _ => Step.fixedArray.inj).mp (h .fixedArrays)
  have htables :=
    (List.map_inj_right fun _ _ => Step.staticVirtualTable.inj).mp (h .staticVirtualTable)
  have htable : struct.staticVirtualTable = other.staticVirtualTable := by
    simpa using congrArg List.head? htables
  cases struct
  cases other
  rw [mk.injEq]
  exact ⟨hname, hnameSpace, hparents, hmembers, hvirtuals, haddresses, hoverloads, harrays, htable⟩

/-- The entries to scan for come part by part. -/
theorem namedSignatures_eq (struct : NativeStruct) :
    struct.namedSignatures =
      (struct.partSteps .memberFunctions ++ struct.partSteps .staticAddresses ++
        struct.partSteps .staticVirtualTable).filterMap Step.namedSignature? := by
  have hmap {α : Type} (make : α → Step) {entry : α → NamedSignature} (items : List α)
      (h : ∀ item, (make item).namedSignature? = some (entry item)) :
      items.map entry = (items.map make).filterMap Step.namedSignature? := by
    rw [List.filterMap_map, ← List.filterMap_eq_map]
    exact List.filterMap_congr fun item _ => (h item).symm
  rw [List.filterMap_append, List.filterMap_append, namedSignatures]
  simp only [partSteps]
  rw [hmap .memberFunction _ fun _ => rfl, hmap .staticAddress _ fun _ => rfl,
    hmap .staticVirtualTable _ fun _ => rfl]

theorem hasSignatures_iff :
    struct.hasSignatures = true ↔
      struct.partSteps .memberFunctions ≠ [] ∨ struct.partSteps .staticAddresses ≠ [] ∨
        struct.partSteps .staticVirtualTable ≠ [] := by
  simp [hasSignatures, partSteps, or_assoc, Option.isSome_iff_ne_none]

theorem hasVirtualTable_iff :
    struct.hasVirtualTable = true ↔
      struct.partSteps .virtualFunctions ≠ [] ∨ struct.partSteps .staticVirtualTable ≠ [] := by
  simp [hasVirtualTable, partSteps, Option.isSome_iff_ne_none]

/-! ### What is built -/

/-- **One step** makes its part longer, or replaces the static virtual table. -/
theorem partSteps_extend :
    (struct.extend step).partSteps part =
      if step.part = part then
        if part = .staticVirtualTable then [step] else struct.partSteps part ++ [step]
      else struct.partSteps part := by
  cases step <;> cases part <;> simp [extend, partSteps, Step.part]

theorem stepsFor_concat :
    stepsFor part (steps ++ [step]) =
      if step.part = part then
        if part = .staticVirtualTable then [step] else stepsFor part steps ++ [step]
      else stepsFor part steps := by
  rw [stepsFor, stepsFor, List.filter_append]
  rcases Decidable.em (step.part = part) with hpart | hpart
  · have hown : [step].filter (·.part = part) = [step] := by simp [hpart]
    rw [hown, if_pos hpart, List.getLast?_concat]
    split <;> rfl
  · have hown : [step].filter (·.part = part) = [] := by simp [hpart]
    rw [hown, if_neg hpart, List.append_nil]

theorem stepsFor_ne_nil_iff : stepsFor part steps ≠ [] ↔ ∃ step ∈ steps, step.part = part := by
  have hown : steps.filter (·.part = part) ≠ [] ↔ ∃ step ∈ steps, step.part = part := by
    simp
  rw [← hown, stepsFor]
  split
  · simp
  · rfl

/-- What a descriptor is built of, when it starts from its names. -/
theorem partSteps_built (nameSpace name : String) (steps : List Step) (part : Part) :
    ((ofName nameSpace name).extendAll steps).partSteps part = stepsFor part steps := by
  induction steps using List.reverseRecOn with
  | nil => cases part <;> rfl
  | append_singleton steps step ih =>
    rw [extendAll, List.foldl_append, stepsFor_concat, ← ih]
    exact partSteps_extend

theorem name_built (nameSpace name : String) (steps : List Step) :
    ((ofName nameSpace name).extendAll steps).name = name ∧
      ((ofName nameSpace name).extendAll steps).nameSpace = nameSpace := by
  induction steps using List.reverseRecOn with
  | nil => exact ⟨rfl, rfl⟩
  | append_singleton steps step ih =>
    rw [extendAll, List.foldl_append]
    cases step <;> exact ih

/-- **How the steps for different parts are interleaved does not show.**  Two sequences of steps
build one descriptor exactly if, for each part, they have the same steps for it in the same order,
where only the last static virtual table counts.  The descriptors then have one name, the same
entries to scan for, and one source or error.  The entries come from the member functions, then from
the static addresses, then from the static virtual table, in whatever order the steps were taken.
After any number of steps there is something to scan for exactly if one of these was among them, and
a virtual table exactly if a virtual function or a static virtual table was. -/
theorem extendAll_eq_iff (nameSpace name : String) (steps others : List Step) :
    let built (steps : List Step) := (ofName nameSpace name).extendAll steps
    (built steps = built others ↔ ∀ part, stepsFor part steps = stepsFor part others) ∧
    ((∀ part, stepsFor part steps = stepsFor part others) →
      (built steps).qualifiedName = (built others).qualifiedName ∧
        (built steps).namedSignatures = (built others).namedSignatures ∧
        ∀ config, (built steps).compile config = (built others).compile config) ∧
    (built steps).namedSignatures =
      (stepsFor .memberFunctions steps ++ stepsFor .staticAddresses steps ++
        stepsFor .staticVirtualTable steps).filterMap Step.namedSignature? ∧
    ∀ count,
      ((built (steps.take count)).hasSignatures = true ↔ ∃ step ∈ steps.take count,
        step.part = .memberFunctions ∨ step.part = .staticAddresses ∨
          step.part = .staticVirtualTable) ∧
      ((built (steps.take count)).hasVirtualTable = true ↔ ∃ step ∈ steps.take count,
        step.part = .virtualFunctions ∨ step.part = .staticVirtualTable) := by
  intro built
  have hparts : built steps = built others ↔
      ∀ part, stepsFor part steps = stepsFor part others := by
    constructor
    · intro h part
      rw [← partSteps_built nameSpace name, ← partSteps_built nameSpace name]
      exact congrArg (partSteps · part) h
    · intro h
      obtain ⟨hname, hnameSpace⟩ := name_built nameSpace name steps
      obtain ⟨hname', hnameSpace'⟩ := name_built nameSpace name others
      refine eq_of_partSteps (hname.trans hname'.symm) (hnameSpace.trans hnameSpace'.symm) ?_
      intro part
      rw [partSteps_built, partSteps_built, h part]
  refine ⟨hparts, fun h => ?_, ?_, fun count => ⟨?_, ?_⟩⟩
  · rw [hparts.mpr h]
    exact ⟨rfl, rfl, fun _ => rfl⟩
  · rw [namedSignatures_eq, partSteps_built, partSteps_built, partSteps_built]
  · rw [hasSignatures_iff, partSteps_built, partSteps_built, partSteps_built,
      stepsFor_ne_nil_iff, stepsFor_ne_nil_iff, stepsFor_ne_nil_iff]
    simp only [and_or_left, exists_or]
  · rw [hasVirtualTable_iff, partSteps_built, partSteps_built, stepsFor_ne_nil_iff,
      stepsFor_ne_nil_iff]
    simp only [and_or_left, exists_or]

/-- Two ways to build a nested type, with a static virtual table that is replaced in one of them. -/
theorem extendAll_eq_iff_interleaved :
    let function : MemberFunction :=
      { method := .ofInstance "Close" "void", signature := { pattern := "E8 ??" } }
    let address : StaticAddress :=
      { method := .ofStatic "Instance" "Foo*", signature := { pattern := "48 8B" } }
    let steps : List Step :=
      [.staticVirtualTable { pattern := "CC" }, .staticAddress address, .nestedIn "Bar",
        .memberFunction function, .staticVirtualTable { pattern := "48 8D" }, .nestedIn "Outer"]
    let others : List Step :=
      [.nestedIn "Bar", .nestedIn "Outer", .memberFunction function,
        .staticVirtualTable { pattern := "48 8D" }, .staticAddress address]
    let built (steps : List Step) := (ofName "Game" "Foo").extendAll steps
    (∀ part, stepsFor part steps = stepsFor part others) ∧
      (built steps).namedSignatures.map NamedSignature.name =
        ["Close", "Instance", "StaticVirtualTable"] ∧
      (∀ config, (built steps).compile config = (built others).compile config) ∧
      (built (steps.take 1)).hasSignatures = true := by
  intro function address steps others built
  have hsame : ∀ part, stepsFor part steps = stepsFor part others := by
    intro part
    cases part <;> rfl
  obtain ⟨-, hbuilt, hentries, hflags⟩ := extendAll_eq_iff "Game" "Foo" steps others
  refine ⟨hsame, ?_, (hbuilt hsame).2.2, (hflags 1).1.mpr ⟨_, List.mem_cons_self, .inr (.inr rfl)⟩⟩
  exact (congrArg (List.map NamedSignature.name) hentries).trans rfl

end NativeBindings.NativeStruct
