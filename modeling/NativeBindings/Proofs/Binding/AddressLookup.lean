/-
NativeBindings/Proofs/Binding/AddressLookup.lean

What an address table holds, and what it answers.  A table can be filled record by record, with the
number of the last record of each name kept beside the records (`AddressIndex`).  Every number that
is kept is that of a record (`inRange_ofRecords`), so a look-up by number obeys

    (index.push record).get? name = if record.name = name then some record else index.get? name

and finds what a search from the end finds (`get?_ofRecords`).  The table of a struct fails with the
first malformed signature and for no other reason.  Otherwise it has one record for each signature,
in order, and answers a name with the last record of that name (`encode_contents`).
-/
import Mathlib.Data.List.Induction
import NativeBindings.Cancellation
import NativeBindings.Proofs.Binding.AddressTable

namespace NativeBindings

open Signature

/-! ### Tables that are filled -/

/-- Records in order, with the number of the last record of each name. -/
structure AddressIndex where
  records : List AddressRecord := []
  numbers : Std.HashMap String Nat := {}

namespace AddressIndex

/-- Append a record; its number takes the place of an earlier one of the same name. -/
def push (index : AddressIndex) (record : AddressRecord) : AddressIndex where
  records := index.records ++ [record]
  numbers := index.numbers.insert record.name index.records.length

/-- Append records one after the other. -/
def ofRecords (records : List AddressRecord) : AddressIndex :=
  records.foldl push {}

/-- Encode the signatures of a struct one after the other; the first malformed one is reported. -/
def encode (struct : NativeStruct) : Except GenerationError AddressIndex :=
  struct.namedSignatures.foldlM
    (fun index named => do return index.push (← struct.encodeNamed named)) {}

/-- The record whose number is kept for a name. -/
def get? (index : AddressIndex) (name : String) : Option AddressRecord :=
  index.numbers[name]?.bind fun number => index.records[number]?

/-- Every number is that of a record. -/
def InRange (index : AddressIndex) : Prop :=
  ∀ (name : String) (number : Nat),
    index.numbers[name]? = some number → number < index.records.length

/-! ### One record more -/

section Push

variable {index : AddressIndex}

theorem inRange_push (h : index.InRange) (record : AddressRecord) :
    (index.push record).InRange := by
  intro name number hnumber
  have hlength : (index.push record).records.length = index.records.length + 1 :=
    List.length_append
  rw [push, Std.HashMap.getElem?_insert] at hnumber
  rw [hlength]
  split at hnumber
  · obtain rfl := Option.some.inj hnumber
    exact Nat.lt_succ_self _
  · exact Nat.lt_succ_of_lt (h name number hnumber)

/-- A record that is appended is found under its name, and the others are found as before. -/
theorem get?_push (h : index.InRange) (record : AddressRecord) (name : String) :
    (index.push record).get? name =
      if record.name = name then some record else index.get? name := by
  rw [get?, push, Std.HashMap.getElem?_insert]
  rcases Decidable.em (record.name = name) with rfl | hne
  · simp
  · rw [if_neg (by simpa using hne), if_neg hne, get?]
    refine Option.bind_congr fun number hnumber => ?_
    -- the number is kept from before, so it does not reach the new record
    exact List.getElem?_append_left (h name number hnumber)

end Push

/-! ### All records -/

theorem ofRecords_concat (records : List AddressRecord) (record : AddressRecord) :
    ofRecords (records ++ [record]) = (ofRecords records).push record := by
  rw [ofRecords, List.foldl_append]
  rfl

@[simp] theorem records_ofRecords (records : List AddressRecord) :
    (ofRecords records).records = records := by
  induction records using List.reverseRecOn with
  | nil => rfl
  | append_singleton records record ih => rw [ofRecords_concat, push, ih]

theorem inRange_ofRecords (records : List AddressRecord) : (ofRecords records).InRange := by
  induction records using List.reverseRecOn with
  | nil =>
    intro name number hnumber
    cases hnumber.symm.trans Std.HashMap.getElem?_empty
  | append_singleton records record ih =>
    rw [ofRecords_concat]
    exact inRange_push ih record

/-- **Looking up by number is searching from the end.** -/
theorem get?_ofRecords (records : List AddressRecord) (name : String) :
    (ofRecords records).get? name = AddressTable.get? { records } name := by
  induction records using List.reverseRecOn with
  | nil => rw [ofRecords, List.foldl_nil, get?, Std.HashMap.getElem?_empty]; rfl
  | append_singleton records record ih =>
    rw [ofRecords_concat, get?_push (inRange_ofRecords records), ih, AddressTable.get?,
      AddressTable.get?, List.reverse_append, List.reverse_singleton, List.singleton_append,
      List.find?_cons]
    split <;> simp [*]

/-- Filling stops at the first malformed signature, as encoding all of them does. -/
theorem encode_eq (struct : NativeStruct) :
    encode struct = (AddressTable.encode struct).map fun table => ofRecords table.records := by
  have hfill : ∀ (signatures : List NamedSignature) (index : AddressIndex),
      signatures.foldlM
          (fun index named => do return index.push (← struct.encodeNamed named)) index =
        (struct.encodeAll signatures).map fun records => records.foldl push index := by
    intro signatures
    induction signatures with
    | nil => exact fun _ => rfl
    | cons named rest ih =>
      intro index
      rw [List.foldlM_cons, NativeStruct.encodeAll]
      rcases struct.encodeNamed named with error | record
      · rfl
      · show rest.foldlM _ (index.push record) = _
        rw [ih]
        rcases struct.encodeAll rest with error | records <;> rfl
  rw [encode, hfill, AddressTable.encode]
  rcases struct.encodeAll struct.namedSignatures with error | records <;> rfl

end AddressIndex

/-! ### Contents and answers -/

/-- The last record of a name. -/
def IsLastRecord (records : List AddressRecord) (name : String) (record : AddressRecord) : Prop :=
  ∃ front behind, records = front ++ record :: behind ∧ record.name = name ∧
    ∀ later ∈ behind, later.name ≠ name

/-- What is found for a name among records, and the pattern that is given for it. -/
inductive Answers (records : List AddressRecord) (name : String) :
    Option AddressRecord → String → Prop where
  | last {record : AddressRecord} (h : IsLastRecord records name record) :
      Answers records name (some record) record.encoded.pattern
  | unknown (h : ∀ record ∈ records, record.name ≠ name) : Answers records name none ""

/-- The first malformed signature of a struct, and the word of it that is no token. -/
def NativeStruct.FirstMalformed (struct : NativeStruct) (named : NamedSignature)
    (cause : InvalidToken) : Prop :=
  ∃ front behind, struct.namedSignatures = front ++ named :: behind ∧
    (∀ earlier ∈ front, earlier.signature.WellFormed) ∧
    tokenize named.signature.pattern = .error cause

/-- A record that is made of a signature of the struct and of nothing else. -/
structure NativeStruct.Encodes (struct : NativeStruct) (named : NamedSignature)
    (record : AddressRecord) : Prop where
  name : record.name = named.name
  id : record.id = struct.addressId named.name
  encoded : named.signature.encode = .ok record.encoded

theorem NativeStruct.encodeNamed_eq_ok_iff_encodes {struct : NativeStruct}
    {named : NamedSignature} {record : AddressRecord} :
    struct.encodeNamed named = .ok record ↔ struct.Encodes named record := by
  rw [encodeNamed_eq_ok_iff]
  constructor
  · rintro ⟨encoded, hencoded, rfl⟩
    exact ⟨rfl, rfl, hencoded⟩
  · rintro ⟨hname, hid, hencoded⟩
    refine ⟨record.encoded, hencoded, ?_⟩
    rw [← hname, ← hid.trans (congrArg struct.addressId hname.symm)]

namespace AddressTable

variable {table : AddressTable} {name : String}

theorem get?_eq_some_iff {record : AddressRecord} :
    table.get? name = some record ↔ IsLastRecord table.records name record := by
  rw [get?, List.find?_eq_some_iff_append]
  constructor
  · rintro ⟨hname, behind, front, hsplit, hbehind⟩
    refine ⟨front.reverse, behind.reverse, ?_, of_decide_eq_true hname, fun later hlater => ?_⟩
    · rw [← List.reverse_inj, hsplit]
      simp
    · simpa using hbehind later (List.mem_reverse.mp hlater)
  · rintro ⟨front, behind, hsplit, hname, hbehind⟩
    refine ⟨decide_eq_true hname, behind.reverse, front.reverse, ?_, fun later hlater => ?_⟩
    · rw [hsplit]
      simp
    · simpa using hbehind later (List.mem_reverse.mp hlater)

theorem get?_eq_none_iff :
    table.get? name = none ↔ ∀ record ∈ table.records, record.name ≠ name := by
  simp [get?]

/-- A table answers with the last record of a name, or not at all. -/
theorem answers (table : AddressTable) (name : String) :
    Answers table.records name (table.get? name) (table.pattern name) := by
  rw [pattern]
  rcases hget : table.get? name with - | record
  · exact .unknown (get?_eq_none_iff.mp hget)
  · exact .last (get?_eq_some_iff.mp hget)

/-- **What an address table holds, and when there is none.**  The signatures of a struct are those
of its member functions, then those of its static addresses, then that of its static virtual table.
Encoding fails exactly if one of them is malformed, with the identifier and the cause of the first
one.  Else there is one record for each signature, in order, made of its name, its identifier and
its own encoding.  The table is the one that is filled record by record; by number or from the end,
a name is answered with the last record of that name, and an unknown name with none and with an
empty pattern.  A struct that is not cancelled has no source exactly if it has no table, for the
same error. -/
theorem encode_contents (struct : NativeStruct) :
    struct.namedSignatures =
      struct.memberFunctions.map (fun function => ⟨function.method.name, function.signature⟩) ++
        struct.staticAddresses.map (fun address => ⟨address.method.name, address.signature⟩) ++
        struct.staticVirtualTable.toList.map (⟨"StaticVirtualTable", ·⟩) ∧
    (∀ error, AddressTable.encode struct = .error error ↔
      ∃ named cause, struct.FirstMalformed named cause ∧
        error = .malformedSignature (struct.addressId named.name) cause) ∧
    ((∃ error, AddressTable.encode struct = .error error) ↔
      ∃ named ∈ struct.namedSignatures, ¬ named.signature.WellFormed) ∧
    (∀ table, AddressTable.encode struct = .ok table ↔
      List.Forall₂ struct.Encodes struct.namedSignatures table.records) ∧
    AddressIndex.encode struct =
      (AddressTable.encode struct).map (fun table => AddressIndex.ofRecords table.records) ∧
    (∀ (table : AddressTable) (name : String),
      (AddressIndex.ofRecords table.records).get? name = table.get? name ∧
        Answers table.records name (table.get? name) (table.pattern name)) ∧
    ∀ config error,
      struct.compileUnless false config = .error error ↔
        AddressTable.encode struct = .error error := by
  have herror (error : GenerationError) : AddressTable.encode struct = .error error ↔
      ∃ named cause, struct.FirstMalformed named cause ∧
        error = .malformedSignature (struct.addressId named.name) cause := by
    rw [encode_eq_error_iff, NativeStruct.encodeAll_eq_error_iff]
    constructor
    · rintro ⟨front, named, behind, hsplit, hfront, hnamed⟩
      obtain ⟨cause, hcause, rfl⟩ := NativeStruct.encodeNamed_eq_error_iff.mp hnamed
      exact ⟨named, cause,
        ⟨front, behind, hsplit, hfront, Signature.encode_eq_error_iff.mp hcause⟩, rfl⟩
    · rintro ⟨named, cause, ⟨front, behind, hsplit, hfront, hcause⟩, rfl⟩
      exact ⟨front, named, behind, hsplit, hfront, NativeStruct.encodeNamed_eq_error_iff.mpr
        ⟨cause, Signature.encode_eq_error_iff.mpr hcause, rfl⟩⟩
  refine ⟨rfl, herror, ?_, fun table => ?_, AddressIndex.encode_eq struct,
    fun table name => ⟨AddressIndex.get?_ofRecords table.records name, table.answers name⟩,
    fun config error => NativeStruct.compile_eq_error_iff⟩
  · constructor
    · rintro ⟨error, h⟩
      obtain ⟨named, cause, ⟨front, behind, hsplit, -, hcause⟩, -⟩ := (herror error).mp h
      refine ⟨named, hsplit ▸ List.mem_append_right _ List.mem_cons_self, ?_⟩
      rintro ⟨tokens, htokens⟩
      cases hcause.symm.trans htokens
    · rintro ⟨named, hmem, hmalformed⟩
      rcases h : AddressTable.encode struct with error | table
      · exact ⟨error, rfl⟩
      · exact absurd (exists_encode_eq_ok_iff.mp ⟨table, h⟩ named hmem) hmalformed
  · rw [encode_eq_ok_iff]
    simp only [NativeStruct.encodeNamed_eq_ok_iff_encodes]

end AddressTable

end NativeBindings
