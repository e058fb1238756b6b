/-
NativeBindings/Proofs/Binding/RecordReading.lean

Reading the row of an address record.  A name can hold anything, also what looks like the start of a
value, so it is found from the right: behind the two string literals of the value no quote stands, a
literal is passed over backwards, and the name is what remains (`readRecordName_declaration`).  The
type may be written over several lines, but its line feeds are known.
-/
import NativeBindings.Binding.Block.Addresses
import NativeBindings.Proofs.Source.Literals
import NativeBindings.Proofs.Source.Rendering

namespace NativeBindings

open Source Text

/-- What stands before the name of a record. -/
def declarationStart (type : String) : String := "public static readonly " ++ type ++ " "

/-- What stands behind the name of a record, up to its first string literal. -/
def valueStart (type : String) : String := " = new " ++ type ++ "("

/-- The name in a declaration, which is followed by the value of the record. -/
def readRecordName (type : String) (declaration : List Char) : Option String := do
  let text ← passLiteral (declaration.reverse.dropWhile (· ≠ '"'))
  let text ← expectBack ", " text
  let text ← passLiteral text
  let text ← expectBack (valueStart type) text
  return String.ofList text.reverse

/-- Read the row of a record, and return the name. -/
def readRecord (config : Configuration) (depth : Nat) (text : List Char) :
    Option (String × List Char) := do
  let type := config.runtimeType "Address"
  let text ← expect (indented depth (declarationStart type)) text
  let (declaration, text) ← splitLine (type.toList.count '\n') text
  let name ← readRecordName type declaration
  return (name, text)

/-! ### The value of a record -/

/-- What stands behind the two string literals of a record. -/
def valueEnd (encoded : PackedSignature) : String :=
  ", " ++ byteArrayLiteral encoded.relocationOffsets ++ ", " ++
    wordArrayLiteral encoded.signatureWords ++ ", " ++ wordArrayLiteral encoded.maskWords ++
    ", 0);"

theorem lacks_valueEnd {c : Char} (hc : c = '"' ∨ c = '\n') (encoded : PackedSignature) :
    Lacks c (valueEnd encoded) := by
  have hcomma : Lacks c ", " := by rcases hc with rfl | rfl <;> decide
  have hend : Lacks c ", 0);" := by rcases hc with rfl | rfl <;> decide
  simp only [valueEnd, lacks_append]
  exact ⟨⟨⟨⟨⟨⟨hcomma, lacks_byteArrayLiteral hc _⟩, hcomma⟩, lacks_wordArrayLiteral hc _⟩, hcomma⟩,
    lacks_wordArrayLiteral hc _⟩, hend⟩

/-- A declaration: the name, the start of the value, the two string literals and the rest. -/
def declaration (config : Configuration) (record : AddressRecord) : String :=
  record.name ++ valueStart (config.runtimeType "Address") ++ stringLiteral record.id ++ ", " ++
    stringLiteral record.encoded.padded ++ valueEnd record.encoded

theorem addressLine_eq (config : Configuration) (record : AddressRecord) :
    Block.addressLine config record =
      declarationStart (config.runtimeType "Address") ++ declaration config record := by
  have hend : (", 0);" : String) = ", " ++ ("0" ++ ");") := by decide
  unfold Block.addressLine declarationStart declaration valueStart valueEnd
  simp only [String.intercalate_cons_cons, String.intercalate_singleton, String.append_assoc, hend]

/-- All line feeds of a declaration are those of the type. -/
theorem count_declaration (config : Configuration) {record : AddressRecord}
    (h : SingleLine record.name) :
    (declaration config record).toList.count '\n' =
      (config.runtimeType "Address").toList.count '\n' := by
  have hzero {s : String} (hs : SingleLine s) : s.toList.count '\n' = 0 :=
    List.count_eq_zero_of_not_mem hs
  have hname := hzero h
  have hid := hzero (singleLine_stringLiteral record.id)
  have hpadded := hzero (singleLine_stringLiteral record.encoded.padded)
  have hend := hzero (lacks_valueEnd (.inr rfl) record.encoded)
  have hfixed := hzero (s := " = new ") (by decide)
  have hopen := hzero (s := "(") (by decide)
  have hcomma := hzero (s := ", ") (by decide)
  simp only [declaration, valueStart, String.toList_append, List.count_append]
  omega

/-- The name is what remains in front of the value. -/
theorem readRecordName_declaration (config : Configuration) (record : AddressRecord) :
    readRecordName (config.runtimeType "Address") (declaration config record).toList =
      some record.name := by
  let front := (valueStart (config.runtimeType "Address")).toList.reverse ++
    record.name.toList.reverse
  have hreverse : (declaration config record).toList.reverse =
      (valueEnd record.encoded).toList.reverse ++
        ((stringLiteral record.encoded.padded).toList.reverse ++ (", ".toList.reverse ++
          ((stringLiteral record.id).toList.reverse ++ front))) := by
    simp only [declaration, front, String.toList_append, List.reverse_append, List.append_assoc]
  have hquotes : ∀ c ∈ (valueEnd record.encoded).toList.reverse, decide (c ≠ '"') = true := by
    intro c hc
    rw [decide_eq_true_iff]
    rintro rfl
    exact lacks_valueEnd (.inl rfl) record.encoded (List.mem_reverse.mp hc)
  have hliteral (value : String) (rest : List Char) :
      ((stringLiteral value).toList.reverse ++ rest).dropWhile (· ≠ '"') =
        (stringLiteral value).toList.reverse ++ rest := by
    simp [stringLiteral]
  -- a literal stands behind a blank or a bracket, not behind a backslash
  have hcomma (rest : List Char) : (", ".toList.reverse ++ rest).head? ≠ some '\\' := by
    simp
  have hstart : front.head? ≠ some '\\' := by
    simp [front, valueStart]
  unfold readRecordName
  rw [hreverse, List.dropWhile_append_of_pos hquotes, hliteral]
  simp only [passLiteral_append _ (hcomma _), passLiteral_append _ hstart, expectBack_append, front,
    Option.bind_eq_bind, Option.bind_some, List.reverse_reverse, String.ofList_toList]
  rfl

/-- A row that was written for a record is read as its name. -/
theorem readRecord_append {config : Configuration} {record : AddressRecord}
    (h : SingleLine record.name) (depth : Nat) (rest : List Char) :
    readRecord config depth ((row depth (Block.addressLine config record)).toList ++ rest) =
      some (record.name, rest) := by
  have hstart : expect (indented depth (declarationStart (config.runtimeType "Address")))
      ((row depth (Block.addressLine config record)).toList ++ rest) =
        some ((declaration config record).toList ++ '\n' :: rest) := by
    rw [expect_indented_row, addressLine_eq, String.toList_append, List.append_assoc, expect_append]
  have hline : splitLine ((config.runtimeType "Address").toList.count '\n')
      ((declaration config record).toList ++ '\n' :: rest) =
        some ((declaration config record).toList, rest) := by
    rw [← count_declaration config h, splitLine_append]
  unfold readRecord
  simp only [hstart, hline, readRecordName_declaration, Option.bind_eq_bind, Option.bind_some]
  rfl

/-- The records end where the closing brace stands, which is less indented. -/
theorem readRecord_closing (config : Configuration) (depth : Nat) (rest : List Char) :
    readRecord config (depth + 1) ((row depth "\x7d").toList ++ rest) = none := by
  unfold readRecord
  simp only [expect_indented_closing (Nat.lt_succ_self depth)]
  rfl

/-- All records of a class are read, and nothing behind its closing brace. -/
theorem readMany_records {config : Configuration} {records : List AddressRecord}
    (h : ∀ record ∈ records, SingleLine record.name) (depth : Nat) (rest : List Char) :
    readMany (fun _ => readRecord config (depth + 1)) 0
      (records.flatMap (fun record =>
          (row (depth + 1) (Block.addressLine config record)).toList) ++
        ((row depth "\x7d").toList ++ rest)) =
      (records.map AddressRecord.name, (row depth "\x7d").toList ++ rest) := by
  let read := fun _ : Nat => readRecord config (depth + 1)
  show readMany read 0 _ = _
  rw [← writeMany_const _ 0, readMany_append AddressRecord.name]
  · rw [readMany_of_none read (readRecord_closing config depth rest), List.append_nil]
  · intro _ record
    exact length_row_pos _ _
  · intro record hrecord _ rest
    exact readRecord_append (h record hrecord) _ rest

end NativeBindings
