/-
NativeBindings/Proofs/Batch/UniqueAddresses.lean

The identifiers of addresses are unique in a batch.  A dotted name alone does not tell where its
namespace ends and its types begin, so structs that are declared in different places can have the
same dotted name.  They then have the same file name as well, and a batch keeps one of them only.
What is put behind the dotted name of a struct has no dot, so an identifier is cut at its last dot,

    identifier = dotted name ++ "." ++ name,

and two of them are the same only for the same struct and the same name (`nodup_dotted`).
-/
import NativeBindings.Proofs.Batch.Selection
import NativeBindings.Proofs.Text.Lines
import Mathlib.Data.List.Nodup

namespace NativeBindings

open Source Text

/-! ### Names with a last dot -/

theorem eq_of_append_cons_eq {α : Type} {separator : α} {path path' name name' : List α}
    (h : path ++ separator :: name = path' ++ separator :: name')
    (hname : separator ∉ name) (hname' : separator ∉ name') : path = path' ∧ name = name' := by
  rcases List.append_eq_append_iff.mp h with ⟨more, rfl, hmore⟩ | ⟨more, rfl, hmore⟩
  · cases more with
    | nil => exact ⟨(List.append_nil path).symm, (List.cons.inj hmore).2⟩
    | cons first more =>
      -- the name on the left would reach over the separator on the right
      rw [(List.cons.inj hmore).2] at hname
      exact absurd (List.mem_append_right more List.mem_cons_self) hname
  · cases more with
    | nil => exact ⟨List.append_nil path', (List.cons.inj hmore).2.symm⟩
    | cons first more =>
      rw [(List.cons.inj hmore).2] at hname'
      exact absurd (List.mem_append_right more List.mem_cons_self) hname'

/-- Two dotted names whose last parts have no dot are the same only if their parts are. -/
theorem eq_of_dotted_eq {path path' name name' : String}
    (h : path ++ "." ++ name = path' ++ "." ++ name') (hname : Lacks '.' name)
    (hname' : Lacks '.' name') : path = path' ∧ name = name' := by
  have hchars : path.toList ++ '.' :: name.toList = path'.toList ++ '.' :: name'.toList := by
    simpa using congrArg String.toList h
  obtain ⟨hpath, hrest⟩ := eq_of_append_cons_eq hchars hname hname'
  exact ⟨String.toList_inj.mp hpath, String.toList_inj.mp hrest⟩

/-- The names of the signatures of a struct are different from each other, and none has a dot. -/
structure NativeStruct.DistinctNames (struct : NativeStruct) : Prop where
  nodup : (struct.namedSignatures.map NamedSignature.name).Nodup
  lacks_dot : ∀ named ∈ struct.namedSignatures, Lacks '.' named.name

/-- Names behind the paths of their structs, if the paths are different. -/
theorem nodup_dotted {structs : List NativeStruct} {path : NativeStruct → String}
    (hpaths : (structs.map path).Nodup) (hnames : ∀ struct ∈ structs, struct.DistinctNames) :
    (structs.flatMap fun struct =>
      struct.namedSignatures.map fun named => path struct ++ "." ++ named.name).Nodup := by
  rw [List.nodup_flatMap]
  constructor
  · intro struct hstruct
    have hinjective : Function.Injective fun name => path struct ++ "." ++ name := by
      intro name name' h
      exact (String.append_right_inj _).mp h
    have hnodup := List.Nodup.map hinjective (hnames struct hstruct).nodup
    rw [List.map_map] at hnodup
    exact hnodup
  · -- an identifier of two structs would have both their paths before its last dot
    have hpairs := List.pairwise_map.mp hpaths
    refine hpairs.imp_of_mem ?_
    intro struct other hstruct hother hne
    refine List.disjoint_left.mpr fun id hid hid' => ?_
    obtain ⟨named, hnamed, rfl⟩ := List.mem_map.mp hid
    obtain ⟨named', hnamed', heq⟩ := List.mem_map.mp hid'
    obtain ⟨hpath, -⟩ := eq_of_dotted_eq heq ((hnames other hother).lacks_dot named' hnamed')
      ((hnames struct hstruct).lacks_dot named hnamed)
    exact hne hpath.symm

namespace Batch

/-! ### The identifiers of a batch -/

variable {config : Configuration} {structs : List NativeStruct} {artifacts : List Artifact}

/-- Structs whose sources have different names have different dotted names. -/
theorem nodup_qualifiedName (h : List.Forall₂ (IsSourceOf config) structs artifacts)
    (hhints : (artifacts.map Artifact.hintName).Nodup) :
    (structs.map NativeStruct.qualifiedName).Nodup := by
  have hnames : structs.map NativeStruct.hintName = artifacts.map Artifact.hintName :=
    map_eq_map_of_forall₂ h fun struct artifact hsource => hsource.hintName_eq.symm
  -- file names all have one ending, so they differ in what stands before it
  have hsuffix : structs.map NativeStruct.hintName =
      (structs.map NativeStruct.qualifiedName).map (· ++ generatedSuffix) := by
    rw [List.map_map]
    rfl
  rw [← hnames, hsuffix] at hhints
  exact List.Nodup.of_map _ hhints

/-- The tables of structs that have sources. -/
theorem exists_tables (h : List.Forall₂ (IsSourceOf config) structs artifacts) :
    ∃ tables, List.Forall₂ (fun struct table => AddressTable.encode struct = .ok table)
      structs tables := by
  induction h with
  | nil => exact ⟨[], .nil⟩
  | cons hsource _ ih =>
    obtain ⟨tables, htables⟩ := ih
    obtain ⟨table, htable, -⟩ := NativeStruct.compile_eq_ok_iff.mp hsource.compiled
    exact ⟨table :: tables, .cons htable htables⟩

theorem flatMap_id_records {tables : List AddressTable}
    (h : List.Forall₂ (fun struct table => AddressTable.encode struct = .ok table)
      structs tables) :
    (tables.flatMap fun table => table.records.map AddressRecord.id) =
      structs.flatMap fun struct =>
        struct.namedSignatures.map fun named => struct.qualifiedName ++ "." ++ named.name := by
  rw [List.flatMap_def, List.flatMap_def]
  refine congrArg List.flatten (map_eq_map_of_forall₂ h ?_).symm
  intro struct table htable
  exact (AddressTable.map_id_records htable).symm

/-- The paths that are registered are dotted names as well. -/
theorem recordPaths_eq (structs : List NativeStruct) :
    recordPaths structs = structs.flatMap fun struct => struct.namedSignatures.map fun named =>
      (struct.globalTypePath ++ ".Addresses") ++ "." ++ named.name := by
  refine congrArg (fun paths => structs.flatMap paths) ?_
  funext struct
  refine congrArg (fun path => struct.namedSignatures.map path) ?_
  funext named
  have hdot : ".Addresses." = ".Addresses" ++ "." := by decide
  rw [hdot, ← String.append_assoc]

theorem nodup_recordPaths (hnames : ∀ struct ∈ structs, struct.DistinctNames)
    (h : (structs.map NativeStruct.qualifiedName).Nodup) : (recordPaths structs).Nodup := by
  have hinjective : Function.Injective fun name : String => "global::" ++ name ++ ".Addresses" := by
    intro name name' heq
    exact (String.append_right_inj _).mp ((String.append_left_inj _).mp heq)
  have hpaths := List.Nodup.map hinjective h
  rw [List.map_map] at hpaths
  rw [recordPaths_eq]
  exact nodup_dotted hpaths hnames

/-- **No two addresses of a batch share an identifier.**  Of structs whose names of signatures are
different and without dots, the batch keeps some; the identifiers of all their records are
different, and so are the paths of the records that it registers. -/
theorem compileUnless_unique_addresses (config : Configuration) {structs : List NativeStruct}
    (h : ∀ struct ∈ structs, struct.DistinctNames) :
    ∃ batch keep tables paths, compileUnless false config structs = .ok batch ∧
      IsGreedy config.batchHints structs keep ∧
      List.Forall₂ (IsSourceOf config) (picked keep structs) batch.structs ∧
      List.Forall₂ (fun struct table => AddressTable.encode struct = .ok table)
        (picked keep structs) tables ∧
      (tables.flatMap fun table => table.records.map AddressRecord.id).Nodup ∧
      paths = recordPaths (picked keep structs) ∧
      batch.registration.source =
        Layout.render (Layout.fileHeader config.generatedNamespace ++
          Layout.item (Layout.scope "public static class Addresses"
            (resolverMethod config "Register" "RegisterAddress" paths ++
              resolverMethod config "Unregister" "UnregisterAddress" paths))) ∧
      paths.Nodup := by
  obtain ⟨keep, hgreedy, hkept, hsources, -⟩ :=
    exists_isGreedy_select config config.batchHints structs
  have hnames : ∀ struct ∈ picked keep structs, struct.DistinctNames := by
    intro struct hstruct
    exact h struct (mem_of_mem_picked hstruct)
  have hhints : (((compile config structs).structs).map Artifact.hintName).Nodup := by
    have hall := nodup_hintName_artifacts config structs
    rw [artifacts, List.map_append] at hall
    exact List.Nodup.of_append_left hall
  have hqualified := nodup_qualifiedName hsources hhints
  obtain ⟨tables, htables⟩ := exists_tables hsources
  refine ⟨compile config structs, keep, tables, recordPaths (picked keep structs), rfl, hgreedy,
    hsources, htables, ?_, rfl, ?_, nodup_recordPaths hnames hqualified⟩
  · rw [flatMap_id_records htables]
    exact nodup_dotted hqualified hnames
  · rw [← hkept]
    rfl

/-- Two structs with one dotted name, of which the second one is left out, and a struct below that
name. -/
theorem compileUnless_unique_addresses_flattened :
    let run : List MemberFunction :=
      [{ method := .ofInstance "Run" "void", signature := { pattern := "E8" } }]
    let first : NativeStruct := { name := "C", nameSpace := "A.B", memberFunctions := run }
    let second : NativeStruct :=
      { name := "C", nameSpace := "A", containingTypes := ["B"], memberFunctions := run }
    let below : NativeStruct :=
      { name := "D"
        nameSpace := "A.B.C"
        memberFunctions := run
        staticVirtualTable := some { pattern := "48 8D" } }
    (∀ struct ∈ [first, second, below], struct.DistinctNames) ∧
    ∃ batch, ∃ tables : List AddressTable,
      compileUnless false {} [first, second, below] = .ok batch ∧
      List.Forall₂ (IsSourceOf {}) [first, below] batch.structs ∧
      List.Forall₂ (fun struct table => AddressTable.encode struct = .ok table)
        [first, below] tables ∧
      (tables.flatMap fun table => table.records.map AddressRecord.id) =
        ["A.B.C.Run", "A.B.C.D.Run", "A.B.C.D.StaticVirtualTable"] ∧
      (tables.flatMap fun table => table.records.map AddressRecord.id).Nodup := by
  intro run first second below
  have hnames : ∀ struct ∈ [first, second, below], struct.DistinctNames := by
    intro struct hstruct
    obtain rfl | rfl | rfl : struct = first ∨ struct = second ∨ struct = below := by
      simpa using hstruct
    · exact ⟨by decide, by decide⟩
    · exact ⟨by decide, by decide⟩
    · exact ⟨by decide, by decide⟩
  obtain ⟨batch, keep, tables, paths, hbatch, hgreedy, hsources, htables, hnodup, -⟩ :=
    compileUnless_unique_addresses {} hnames
  obtain ⟨other, hother, hkept, -, -⟩ :=
    exists_isGreedy_select {} (Configuration.batchHints {}) [first, second, below]
  obtain rfl := hgreedy.unique hother
  have hpicked : picked keep [first, second, below] = [first, below] := hkept.symm
  rw [hpicked] at hsources htables
  refine ⟨hnames, batch, tables, hbatch, hsources, htables, ?_, hnodup⟩
  rw [flatMap_id_records htables]
  decide

end Batch

end NativeBindings
