/-
NativeBindings/Proofs/Binding/AddressTable.lean

When a struct can be encoded.  The signatures are taken in order, so encoding all of them succeeds
exactly if each of them is well formed (`exists_encode_eq_ok_iff`), and a failure is that of the
first one that is not (`encodeAll_eq_error_iff`).  The source of a struct
is laid out after its table is made, and laying out cannot fail: a struct has a source if and only
if its signatures are well formed (`exists_compile_eq_ok_iff`).
-/
import NativeBindings.Binding.StructSource
import NativeBindings.Proofs.Signature.Padding
import Mathlib.Data.List.Forall2

namespace NativeBindings

open Signature

/-- A signature whose pattern is made of tokens. -/
def Signature.WellFormed (signature : Signature) : Prop :=
  ∃ tokens, tokenize signature.pattern = .ok tokens

/-- A struct all of whose signatures are made of tokens. -/
def NativeStruct.WellFormed (struct : NativeStruct) : Prop :=
  ∀ named ∈ struct.namedSignatures, named.signature.WellFormed

theorem Signature.exists_encode_eq_ok_iff {signature : Signature} :
    (∃ packed, signature.encode = .ok packed) ↔ signature.WellFormed := by
  constructor
  · rintro ⟨packed, h⟩
    obtain ⟨tokens, htokens, -⟩ := encode_eq_ok_iff.mp h
    exact ⟨tokens, htokens⟩
  · rintro ⟨tokens, htokens⟩
    exact ⟨_, encode_eq_ok_iff.mpr ⟨tokens, htokens, rfl⟩⟩

namespace NativeStruct

variable {struct : NativeStruct}

theorem hasSignatures_eq_false_iff :
    struct.hasSignatures = false ↔ struct.namedSignatures = [] := by
  simp [hasSignatures, namedSignatures, and_assoc]

/-! ### One signature -/

/-- A record is made of the name, the identifier and the packed signature, and of nothing else. -/
theorem encodeNamed_eq_ok_iff {named : NamedSignature} {record : AddressRecord} :
    struct.encodeNamed named = .ok record ↔
      ∃ encoded, named.signature.encode = .ok encoded ∧
        record = { name := named.name, id := struct.addressId named.name, encoded } := by
  rw [encodeNamed]
  rcases named.signature.encode with fault | encoded
  · simp
  · simp [eq_comm]

theorem exists_encodeNamed_eq_ok_iff (struct : NativeStruct) {named : NamedSignature} :
    (∃ record, struct.encodeNamed named = .ok record) ↔ named.signature.WellFormed := by
  rw [← Signature.exists_encode_eq_ok_iff]
  constructor
  · rintro ⟨record, h⟩
    obtain ⟨encoded, hencoded, -⟩ := encodeNamed_eq_ok_iff.mp h
    exact ⟨encoded, hencoded⟩
  · rintro ⟨encoded, hencoded⟩
    exact ⟨_, encodeNamed_eq_ok_iff.mpr ⟨encoded, hencoded, rfl⟩⟩

/-- A signature fails with its identifier and with the word that is no token. -/
theorem encodeNamed_eq_error_iff {named : NamedSignature} {error : GenerationError} :
    struct.encodeNamed named = .error error ↔
      ∃ cause, named.signature.encode = .error cause ∧
        error = .malformedSignature (struct.addressId named.name) cause := by
  rw [encodeNamed]
  rcases named.signature.encode with cause | encoded
  · simp [eq_comm]
  · simp

/-! ### All signatures -/

theorem encodeAll_cons_eq_ok_iff {named : NamedSignature} {rest : List NamedSignature}
    {records : List AddressRecord} :
    struct.encodeAll (named :: rest) = .ok records ↔
      ∃ record others, struct.encodeNamed named = .ok record ∧
        struct.encodeAll rest = .ok others ∧ records = record :: others := by
  rw [encodeAll]
  rcases struct.encodeNamed named with error | record
  · simp [bind, Except.bind]
  · rcases struct.encodeAll rest with error | others
    · simp [bind, Except.bind]
    · simp [bind, Except.bind, pure, Except.pure, eq_comm]

/-- One record for each signature, in order. -/
theorem encodeAll_eq_ok_iff {signatures : List NamedSignature} {records : List AddressRecord} :
    struct.encodeAll signatures = .ok records ↔
      List.Forall₂ (fun named record => struct.encodeNamed named = .ok record)
        signatures records := by
  induction signatures generalizing records with
  | nil =>
    rw [encodeAll, List.forall₂_nil_left_iff, Except.ok.injEq]
    exact eq_comm
  | cons named rest ih =>
    rw [encodeAll_cons_eq_ok_iff, List.forall₂_cons_left_iff]
    constructor
    · rintro ⟨record, others, hrecord, hothers, rfl⟩
      exact ⟨record, others, hrecord, ih.mp hothers, rfl⟩
    · rintro ⟨record, others, hrecord, hothers, rfl⟩
      exact ⟨record, others, hrecord, ih.mpr hothers, rfl⟩

theorem exists_encodeAll_eq_ok_iff (struct : NativeStruct) {signatures : List NamedSignature} :
    (∃ records, struct.encodeAll signatures = .ok records) ↔
      ∀ named ∈ signatures, named.signature.WellFormed := by
  induction signatures with
  | nil => simp [encodeAll]
  | cons named rest ih =>
    rw [List.forall_mem_cons, ← ih, ← exists_encodeNamed_eq_ok_iff struct]
    constructor
    · rintro ⟨records, h⟩
      obtain ⟨record, others, hrecord, hothers, -⟩ := encodeAll_cons_eq_ok_iff.mp h
      exact ⟨⟨record, hrecord⟩, others, hothers⟩
    · rintro ⟨⟨record, hrecord⟩, others, hothers⟩
      exact ⟨_, encodeAll_cons_eq_ok_iff.mpr ⟨record, others, hrecord, hothers, rfl⟩⟩

theorem encodeAll_cons_eq_error_iff {named : NamedSignature} {rest : List NamedSignature}
    {error : GenerationError} :
    struct.encodeAll (named :: rest) = .error error ↔
      struct.encodeNamed named = .error error ∨
        named.signature.WellFormed ∧ struct.encodeAll rest = .error error := by
  rw [← exists_encodeNamed_eq_ok_iff struct, encodeAll]
  rcases struct.encodeNamed named with cause | record
  · simp [bind, Except.bind]
  · rcases struct.encodeAll rest with cause | others
    · simp [bind, Except.bind]
    · simp [bind, Except.bind, pure, Except.pure]

/-- A failure is that of the first malformed signature. -/
theorem encodeAll_eq_error_iff {signatures : List NamedSignature} {error : GenerationError} :
    struct.encodeAll signatures = .error error ↔
      ∃ front named behind, signatures = front ++ named :: behind ∧
        (∀ earlier ∈ front, earlier.signature.WellFormed) ∧
        struct.encodeNamed named = .error error := by
  induction signatures with
  | nil => simp [encodeAll]
  | cons first rest ih =>
    rw [encodeAll_cons_eq_error_iff, ih]
    constructor
    · rintro (hfirst | ⟨hwell, front, named, behind, rfl, hfront, hnamed⟩)
      · exact ⟨[], first, rest, rfl, List.forall_mem_nil _, hfirst⟩
      · exact ⟨first :: front, named, behind, rfl, List.forall_mem_cons.mpr ⟨hwell, hfront⟩,
          hnamed⟩
    · rintro ⟨front, named, behind, heq, hfront, hnamed⟩
      cases front with
      | nil =>
        obtain ⟨rfl, -⟩ := List.cons.inj heq
        exact .inl hnamed
      | cons earlier front =>
        obtain ⟨rfl, rfl⟩ := List.cons.inj heq
        obtain ⟨hwell, hfront⟩ := List.forall_mem_cons.mp hfront
        exact .inr ⟨hwell, front, named, behind, rfl, hfront, hnamed⟩

end NativeStruct

/-! ### Lists that agree item by item -/

section Pairs

variable {α β γ : Type} {R : α → β → Prop} {xs : List α} {ys : List β}

theorem map_eq_map_of_forall₂ {f : α → γ} {g : β → γ} (h : List.Forall₂ R xs ys)
    (hfg : ∀ x y, R x y → f x = g y) : xs.map f = ys.map g := by
  rw [← List.forall₂_eq_eq_eq, List.forall₂_map_left_iff, List.forall₂_map_right_iff]
  exact h.imp hfg

theorem exists_getElem?_of_forall₂ (h : List.Forall₂ R xs ys) {i : Nat} {x : α}
    (hx : xs[i]? = some x) : ∃ y, ys[i]? = some y ∧ R x y := by
  obtain ⟨hi, rfl⟩ := List.getElem?_eq_some_iff.mp hx
  have hi' : i < ys.length := Nat.lt_of_lt_of_eq hi h.length_eq
  exact ⟨ys[i], List.getElem?_eq_getElem hi', h.get hi hi'⟩

theorem exists_mem_of_forall₂ (h : List.Forall₂ R xs ys) {y : β} (hy : y ∈ ys) :
    ∃ x ∈ xs, R x y := by
  obtain ⟨i, hi, rfl⟩ := List.getElem_of_mem hy
  have hi' : i < xs.length := Nat.lt_of_lt_of_eq hi h.length_eq.symm
  exact ⟨xs[i], List.getElem_mem hi', h.get hi' hi⟩

end Pairs

/-! ### The table and the source of a struct -/

theorem AddressTable.encode_eq_ok_iff {struct : NativeStruct} {table : AddressTable} :
    AddressTable.encode struct = .ok table ↔
      List.Forall₂ (fun named record => struct.encodeNamed named = .ok record)
        struct.namedSignatures table.records := by
  rw [← NativeStruct.encodeAll_eq_ok_iff, encode]
  rcases struct.encodeAll struct.namedSignatures with error | records
  · simp [bind, Except.bind]
  · obtain ⟨others⟩ := table
    simp [bind, Except.bind, pure, Except.pure]

theorem AddressTable.encode_eq_error_iff {struct : NativeStruct} {error : GenerationError} :
    AddressTable.encode struct = .error error ↔
      struct.encodeAll struct.namedSignatures = .error error := by
  rw [encode]
  rcases struct.encodeAll struct.namedSignatures with cause | records
  · simp [bind, Except.bind]
  · simp [bind, Except.bind, pure, Except.pure]

theorem AddressTable.exists_encode_eq_ok_iff {struct : NativeStruct} :
    (∃ table, AddressTable.encode struct = .ok table) ↔ struct.WellFormed := by
  rw [NativeStruct.WellFormed, ← NativeStruct.exists_encodeAll_eq_ok_iff struct, encode]
  rcases struct.encodeAll struct.namedSignatures with error | records
  · simp [bind, Except.bind]
  · simp [bind, Except.bind, pure, Except.pure]

/-- The names of the records are those of the signatures. -/
theorem AddressTable.map_name_records {struct : NativeStruct} {table : AddressTable}
    (h : AddressTable.encode struct = .ok table) :
    table.records.map AddressRecord.name = struct.namedSignatures.map NamedSignature.name := by
  refine (map_eq_map_of_forall₂ (encode_eq_ok_iff.mp h) ?_).symm
  intro named record hrecord
  obtain ⟨encoded, -, rfl⟩ := NativeStruct.encodeNamed_eq_ok_iff.mp hrecord
  rfl

/-- The identifiers of the records are made from the same names. -/
theorem AddressTable.map_id_records {struct : NativeStruct} {table : AddressTable}
    (h : AddressTable.encode struct = .ok table) :
    table.records.map AddressRecord.id =
      struct.namedSignatures.map fun named => struct.addressId named.name := by
  refine (map_eq_map_of_forall₂ (encode_eq_ok_iff.mp h) ?_).symm
  intro named record hrecord
  obtain ⟨encoded, -, rfl⟩ := NativeStruct.encodeNamed_eq_ok_iff.mp hrecord
  rfl

namespace NativeStruct

variable {struct : NativeStruct} {config : Configuration}

theorem compile_eq_ok_iff {source : String} :
    struct.compile config = .ok source ↔
      ∃ table, AddressTable.encode struct = .ok table ∧
        source = (struct.sourceLayout config table).render := by
  rw [compile]
  rcases AddressTable.encode struct with error | table
  · simp [bind, Except.bind]
  · simp [bind, Except.bind, pure, Except.pure, eq_comm]

/-- Laying out cannot fail, so a struct fails as its table does. -/
theorem compile_eq_error_iff {error : GenerationError} :
    struct.compile config = .error error ↔ AddressTable.encode struct = .error error := by
  rw [compile]
  rcases AddressTable.encode struct with cause | table
  · simp [bind, Except.bind]
  · simp [bind, Except.bind, pure, Except.pure]

/-- A struct has a source exactly if its signatures are well formed. -/
theorem exists_compile_eq_ok_iff :
    (∃ source, struct.compile config = .ok source) ↔ struct.WellFormed := by
  rw [← AddressTable.exists_encode_eq_ok_iff]
  constructor
  · rintro ⟨source, h⟩
    obtain ⟨table, htable, -⟩ := compile_eq_ok_iff.mp h
    exact ⟨table, htable⟩
  · rintro ⟨table, htable⟩
    exact ⟨_, compile_eq_ok_iff.mpr ⟨table, htable, rfl⟩⟩

/-- A struct without a source has a malformed signature, and no other fault. -/
theorem exists_of_compile_eq_error {error : GenerationError}
    (h : struct.compile config = .error error) :
    ∃ named ∈ struct.namedSignatures, ∃ cause, named.signature.encode = .error cause ∧
      error = .malformedSignature (struct.addressId named.name) cause := by
  rw [compile_eq_error_iff, AddressTable.encode_eq_error_iff, encodeAll_eq_error_iff] at h
  obtain ⟨front, named, behind, hsplit, -, hnamed⟩ := h
  refine ⟨named, ?_, encodeNamed_eq_error_iff.mp hnamed⟩
  rw [hsplit]
  exact List.mem_append_right _ List.mem_cons_self

end NativeStruct

end NativeBindings
