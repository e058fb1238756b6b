/-
NativeBindings/Proofs/Binding/RecordDecoding.lean

An address record can be read back from its row.  The decoder knows the namespace of the types that
the sources call, and nothing else of the configuration or the struct.  It goes from the left: the
name ends at the first blank, and each literal behind it says itself where it ends
(`decodeRecord_render`).  So all fields of a record come back, also an identifier with quotes, line
feeds or backslashes, and arrays without items.
-/
import NativeBindings.Proofs.Binding.RecordReading
import NativeBindings.Proofs.Binding.SourceRows
import NativeBindings.Proofs.Source.LiteralReading

namespace NativeBindings

open Source Text

/-! ### The decoder -/

/-- What the row of an address record says. -/
structure DecodedRecord where
  name : String
  id : String
  padded : String
  relocationOffsets : List UInt8
  signatureWords : List UInt64
  maskWords : List UInt64
deriving DecidableEq

/-- Read the row of an address record, with its indentation and its line feed. -/
def decodeRecord (runtimeNamespace row : String) : Option DecodedRecord := do
  let type := Configuration.runtimeType { runtimeNamespace } "Address"
  let text ← expect (declarationStart type) (row.toList.dropWhile (· = ' '))
  let name := String.ofList (text.takeWhile (· ≠ ' '))
  let text ← expect (valueStart type) (text.dropWhile (· ≠ ' '))
  let (id, text) ← readString text
  let (padded, text) ← readString (← expect ", " text)
  let (relocationOffsets, text) ← readByteArray (← expect ", " text)
  let (signatureWords, text) ← readWordArray (← expect ", " text)
  let (maskWords, text) ← readWordArray (← expect ", " text)
  if text = ", 0);\n".toList then
    some { name, id, padded, relocationOffsets, signatureWords, maskWords }
  else none

/-! ### One row -/

/-- The characters of a row behind the blanks of its depth. -/
theorem dropWhile_render_text (depth : Nat) {content : String}
    (h : content.toList.head? ≠ some ' ') :
    (Row.text depth content).render.toList.dropWhile (· = ' ') = content.toList ++ ['\n'] := by
  have hblanks : ∀ c ∈ List.replicate (indentWidth * depth) ' ', decide (c = ' ') = true := by
    intro c hc
    exact decide_eq_true (List.eq_of_mem_replicate hc)
  have hrow : (Row.text depth content).render.toList =
      List.replicate (indentWidth * depth) ' ' ++ (content.toList ++ ['\n']) := by
    simp [Row.render]
  rw [hrow, List.dropWhile_append_of_pos hblanks]
  cases hcontent : content.toList with
  | nil => rfl
  | cons c rest =>
    have hc : c ≠ ' ' := by
      rintro rfl
      exact h (congrArg List.head? hcontent)
    rw [List.cons_append, List.dropWhile_cons_of_neg]
    rw [decide_eq_true_iff]
    exact hc

/-- A name without a blank ends where the value starts. -/
theorem name_append_valueStart {name : String} (h : Lacks ' ' name) (type : String)
    (text : List Char) :
    (name.toList ++ ((valueStart type).toList ++ text)).takeWhile (· ≠ ' ') = name.toList ∧
      (name.toList ++ ((valueStart type).toList ++ text)).dropWhile (· ≠ ' ') =
        (valueStart type).toList ++ text := by
  have hname : ∀ c ∈ name.toList, decide (c ≠ ' ') = true := by
    intro c hc
    rw [decide_eq_true_iff]
    rintro rfl
    exact h hc
  rw [List.takeWhile_append_of_pos hname, List.dropWhile_append_of_pos hname]
  constructor
  · simp [valueStart]
  · simp [valueStart]

/-- The characters behind the opening bracket of a value, cut where the decoder cuts them. -/
def valueChars (record : AddressRecord) : List Char :=
  (stringLiteral record.id).toList ++ (", ".toList ++
    ((stringLiteral record.encoded.padded).toList ++ (", ".toList ++
      ((byteArrayLiteral record.encoded.relocationOffsets).toList ++ (", ".toList ++
        ((wordArrayLiteral record.encoded.signatureWords).toList ++ (", ".toList ++
          ((wordArrayLiteral record.encoded.maskWords).toList ++ ", 0);\n".toList))))))))

theorem toList_addressLine (config : Configuration) (record : AddressRecord) :
    (Block.addressLine config record).toList ++ ['\n'] =
      (declarationStart (config.runtimeType "Address")).toList ++ (record.name.toList ++
        ((valueStart (config.runtimeType "Address")).toList ++ valueChars record)) := by
  have hend : ", 0);\n".toList = ", 0);".toList ++ ['\n'] := by decide
  rw [addressLine_eq, valueChars, hend]
  simp only [declaration, valueEnd, String.toList_append, List.append_assoc]

/-- **A row that was written for a record is decoded to the record.** -/
theorem decodeRecord_render (config : Configuration) {record : AddressRecord}
    (h : Lacks ' ' record.name) (depth : Nat) :
    decodeRecord config.runtimeNamespace
        (Row.text depth (Block.addressLine config record)).render =
      some
        { name := record.name
          id := record.id
          padded := record.encoded.padded
          relocationOffsets := record.encoded.relocationOffsets
          signatureWords := record.encoded.signatureWords
          maskWords := record.encoded.maskWords } := by
  have htype : Configuration.runtimeType { runtimeNamespace := config.runtimeNamespace }
      "Address" = config.runtimeType "Address" := rfl
  have hstart : (Block.addressLine config record).toList.head? ≠ some ' ' := by
    rw [addressLine_eq]
    unfold declarationStart
    simp
  obtain ⟨hname, hbehind⟩ :=
    name_append_valueStart h (config.runtimeType "Address") (valueChars record)
  unfold decodeRecord
  simp only [htype, dropWhile_render_text depth hstart, toList_addressLine, expect_append, hname,
    hbehind, Option.bind_eq_bind, Option.bind_some]
  -- what is left are the literals, each with the rest behind it
  simp only [valueChars, readString_append, readByteArray_append, readWordArray_append,
    expect_append, Option.bind_some, String.ofList_toList, if_true]

/-! ### The class of the addresses -/

/-- **An address record is read back without loss.**  Inside its braces the class of the addresses
has one row for each signature of the struct, and the decoder for the runtime namespace returns from
the row what was encoded, for every name without a blank. -/
theorem decodeRecord_addressBlock (config : Configuration) {struct : NativeStruct}
    {table : AddressTable} (h : AddressTable.encode struct = .ok table) (depth : Nat) :
    ∃ records : List Row,
      (Block.addressBlock config table struct).rows { depth } =
        (if struct.namedSignatures = [] then [] else
          [.text depth "public static class Addresses", .text depth "\x7b"] ++ records ++
            [.text depth "\x7d"]) ∧
      List.Forall₂ (fun named row => Lacks ' ' named.name →
        ∃ packed, named.signature.encode = .ok packed ∧
          decodeRecord config.runtimeNamespace row.render =
            some
              { name := named.name
                id := struct.addressId named.name
                padded := packed.padded
                relocationOffsets := named.signature.relocationOffsets
                signatureWords := packed.signatureWords
                maskWords := packed.maskWords })
        struct.namedSignatures records := by
  refine ⟨table.records.map fun record =>
    Row.text (depth + 1) (Block.addressLine config record), ?_, ?_⟩
  · rcases hsignatures : struct.hasSignatures with - | -
    · rw [if_pos (NativeStruct.hasSignatures_eq_false_iff.mp hsignatures), Block.addressBlock,
        hsignatures]
      rfl
    · have hne : struct.namedSignatures ≠ [] := by
        intro hempty
        rw [NativeStruct.hasSignatures_eq_false_iff.mpr hempty] at hsignatures
        cases hsignatures
      rw [if_neg hne, rows_addressBlock config table hsignatures]
      rfl
  · rw [List.forall₂_map_right_iff]
    refine (AddressTable.encode_eq_ok_iff.mp h).imp ?_
    intro named record hrecord hname
    obtain ⟨packed, hpacked, rfl⟩ := NativeStruct.encodeNamed_eq_ok_iff.mp hrecord
    -- the offsets are those of the signature
    obtain ⟨tokens, -, rfl⟩ := Signature.encode_eq_ok_iff.mp hpacked
    exact ⟨_, hpacked, decodeRecord_render config hname (depth + 1)⟩

/-- A struct whose name needs every kind of spelling, with a record that has arrays and one that has
none. -/
theorem decodeRecord_addressBlock_spelled :
    let struct : NativeStruct :=
      { name := "A\"\\\n\r\t\x00"
        memberFunctions :=
          [{ method := .ofInstance "Run" "void"
             signature := { pattern := "48 8b ?? 10", relocationOffsets := [3, 200] } }]
        staticVirtualTable := some { pattern := "" } }
    ∃ table run virtualTable, AddressTable.encode struct = .ok table ∧
      (Block.addressBlock {} table struct).rows { depth := 1 } =
        [.text 1 "public static class Addresses", .text 1 "\x7b", run, virtualTable,
          .text 1 "\x7d"] ∧
      decodeRecord "Interop.Runtime" run.render =
        some
          { name := "Run"
            id := "A\"\\\n\r\t\x00.Run"
            padded := "48 8B ?? 10 ?? ?? ?? ??"
            relocationOffsets := [3, 200]
            signatureWords := [0x0000000010008B48]
            maskWords := [0x00000000FF00FFFF] } ∧
      decodeRecord "Interop.Runtime" virtualTable.render =
        some
          { name := "StaticVirtualTable"
            id := "A\"\\\n\r\t\x00.StaticVirtualTable"
            padded := ""
            relocationOffsets := []
            signatureWords := []
            maskWords := [] } := by
  intro struct
  obtain ⟨table, htable⟩ : ∃ table, AddressTable.encode struct = .ok table := ⟨_, rfl⟩
  obtain ⟨records, hrows, hdecoded⟩ := decodeRecord_addressBlock {} htable 1
  obtain ⟨run, others, hrun, hothers, rfl⟩ := List.forall₂_cons_left_iff.mp hdecoded
  obtain ⟨virtualTable, none, hvirtualTable, hnone, rfl⟩ := List.forall₂_cons_left_iff.mp hothers
  obtain rfl := List.forall₂_nil_left_iff.mp hnone
  obtain ⟨packedRun, hpackedRun, hdecodedRun⟩ := hrun (by decide)
  obtain ⟨packedTable, hpackedTable, hdecodedTable⟩ := hvirtualTable (by decide)
  obtain rfl := Except.ok.inj hpackedRun
  obtain rfl := Except.ok.inj hpackedTable
  exact ⟨table, run, virtualTable, htable, hrows, hdecodedRun, hdecodedTable⟩

end NativeBindings
