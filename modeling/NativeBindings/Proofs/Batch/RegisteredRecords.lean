/-
NativeBindings/Proofs/Batch/RegisteredRecords.lean

The registration and the sources of the structs name the same records.  Each side is read from its
own text: the registration is taken apart as a whole, and a path is put together from the rows that
a struct's source opens.  That both readings agree needs no look at how either text came about: both
are the record paths of the structs that are kept.
-/
import NativeBindings.Proofs.Batch.RegistrationReading
import NativeBindings.Proofs.Batch.Selection
import NativeBindings.Proofs.Binding.AddressClass
import NativeBindings.Proofs.Binding.StructReading

namespace NativeBindings.Batch

/-- What the source of a struct says about records: their paths, read from the one place where their
class is, and that the class is in no other place. -/
structure DeclaresRecords (config : Configuration) (artifact : Artifact) (paths : List String) :
    Prop where
  read_eq : readRecordPaths config artifact.source = some paths
  class_once : ∃ layout : Source.Layout, artifact.source = layout.render ∧
    layout.count addressClass = if paths = [] then 0 else 1

theorem IsSourceOf.declaresRecords {config : Configuration} {struct : NativeStruct}
    {artifact : Artifact} (hsource : IsSourceOf config struct artifact) (h : struct.IsSingleLine) :
    DeclaresRecords config artifact struct.recordPaths where
  read_eq := readRecordPaths_compile hsource.compiled h
  class_once := by
    obtain ⟨table, -, hlayout⟩ := NativeStruct.compile_eq_ok_iff.mp hsource.compiled
    refine ⟨struct.sourceLayout config table, hlayout, ?_⟩
    rw [count_addressClass_sourceLayout]
    have hempty : struct.recordPaths = [] ↔ ¬ struct.hasSignatures := by
      rw [Bool.not_eq_true, NativeStruct.hasSignatures_eq_false_iff, NativeStruct.recordPaths,
        List.map_eq_nil_iff]
    rw [if_congr hempty rfl rfl, ite_not]

theorem source_registration_compile (config : Configuration) (structs : List NativeStruct) :
    (compile config structs).registration.source =
      registrationSource ((select config config.batchHints structs).kept.map Prod.fst) config :=
  rfl

/-- **The registration names the records that the sources of the structs declare.**  It makes one
call for each of them, in the order of the sources and of the records in a source, first to register
and then to unregister, and no other call. -/
theorem compileUnless_registers_records (config : Configuration) {structs : List NativeStruct}
    (h : ∀ struct ∈ structs, struct.IsSingleLine) :
    ∃ batch paths, compileUnless false config structs = .ok batch ∧
      List.Forall₂ (DeclaresRecords config) batch.structs paths ∧
      readRegistration config batch.registration.source = some (paths.flatten, paths.flatten) := by
  obtain ⟨keep, -, hkept, hsources, -⟩ := exists_isGreedy_select config config.batchHints structs
  have hlines : ∀ struct ∈ picked keep structs, struct.IsSingleLine := by
    intro struct hstruct
    exact h struct (mem_of_mem_picked hstruct)
  refine ⟨compile config structs, (picked keep structs).map NativeStruct.recordPaths, rfl, ?_, ?_⟩
  · rw [List.forall₂_map_right_iff]
    have hboth := (List.forall₂_and_left _ _).mpr ⟨hlines, hsources⟩
    apply List.Forall₂.flip
    refine hboth.imp ?_
    rintro struct artifact ⟨hline, hsource⟩
    exact hsource.declaresRecords hline
  · rw [source_registration_compile, hkept, readRegistration_registrationSource hlines, recordPaths,
      List.flatMap_def]

/-- A nested struct with two records next to a struct without any. -/
theorem compileUnless_registers_records_nested :
    let inner : NativeStruct :=
      { name := "Inner"
        nameSpace := "Game.UI"
        containingTypes := ["Middle", "Outer"]
        memberFunctions :=
          [{ method := .ofInstance "Run" "void", signature := { pattern := "E8 ?? 10" } }]
        staticVirtualTable := some { pattern := "48 8D" } }
    let plain : NativeStruct := { name := "Plain" }
    (∀ struct ∈ [inner, plain], struct.IsSingleLine) ∧
    ∃ batch paths, compileUnless false {} [inner, plain] = .ok batch ∧
      List.Forall₂ (DeclaresRecords {}) batch.structs paths ∧
      paths.flatten = ["global::Game.UI.Outer.Middle.Inner.Addresses.Run",
        "global::Game.UI.Outer.Middle.Inner.Addresses.StaticVirtualTable"] := by
  intro inner plain
  have hlines : ∀ struct ∈ [inner, plain], struct.IsSingleLine := by decide
  obtain ⟨batch, paths, hbatch, hread, hregistered⟩ := compileUnless_registers_records {} hlines
  refine ⟨hlines, batch, paths, hbatch, hread, ?_⟩
  have hkept : (select {} (Configuration.batchHints {}) [inner, plain]).kept.map Prod.fst =
      [inner, plain] := rfl
  obtain rfl := Except.ok.inj hbatch
  rw [source_registration_compile, hkept, readRegistration_registrationSource hlines] at hregistered
  exact (congrArg Prod.fst (Option.some.inj hregistered)).symm

end NativeBindings.Batch
