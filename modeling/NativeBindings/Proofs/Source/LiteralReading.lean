/-
NativeBindings/Proofs/Source/LiteralReading.lean

Reading literals from the front.  A literal says itself where it ends: a string literal at the first
quote without a backslash before it, a word after its sixteen digits, a number where its digits end,
and an array at its closing brace, or at once if it gives a length.  So a literal is read back
whatever follows it (`readString_append`, `readByteArray_append`, `readWordArray_append`), except
that a number must not run into another digit (`EndsNumber`).
-/
import NativeBindings.Proofs.Source.Reading
import NativeBindings.Proofs.Text.Digits

namespace NativeBindings.Source

open Text

/-! ### String literals -/

/-- The character that is spelled by a backslash and a character behind it. -/
def escaped : Char → Char
  | 'n' => '\n'
  | 'r' => '\r'
  | 't' => '\t'
  | '0' => '\x00'
  | c => c

/-- Read the inside of a string literal and the quote that ends it. -/
def readQuoted : List Char → Option (List Char × List Char)
  | [] => none
  | '"' :: rest => some ([], rest)
  | '\\' :: c :: rest => (readQuoted rest).map fun (value, rest) => (escaped c :: value, rest)
  | c :: rest => (readQuoted rest).map fun (value, rest) => (c :: value, rest)

/-- Read a string literal. -/
def readString (text : List Char) : Option (String × List Char) := do
  let (value, text) ← readQuoted (← expect "\"" text)
  return (String.ofList value, text)

/-- A spelled character is read as itself. -/
theorem readQuoted_literalChar (c : Char) (text : List Char) :
    readQuoted (literalChar c ++ text) =
      (readQuoted text).map fun (value, rest) => (c :: value, rest) := by
  unfold literalChar
  split
  case h_7 hquote hbackslash _ _ _ _ =>
    -- neither of the two characters that mean something else
    rw [List.singleton_append, readQuoted]
    · exact hquote
    · intro next rest heq
      exact absurd heq hbackslash
  all_goals rfl

theorem readQuoted_append (value text : List Char) :
    readQuoted (value.flatMap literalChar ++ '"' :: text) = some (value, text) := by
  induction value with
  | nil => rfl
  | cons c value ih =>
    rw [List.flatMap_cons, List.append_assoc, readQuoted_literalChar, ih]
    rfl

/-- **A string literal is read as the text it spells**, whatever the text. -/
theorem readString_append (value : String) (text : List Char) :
    readString ((stringLiteral value).toList ++ text) = some (value, text) := by
  have hspelled : (stringLiteral value).toList ++ text =
      "\"".toList ++ (value.toList.flatMap literalChar ++ '"' :: text) := by
    simp [stringLiteral]
  rw [readString, hspelled, expect_append]
  show (readQuoted _).bind _ = _
  rw [readQuoted_append]
  show some (String.ofList value.toList, text) = _
  rw [String.ofList_toList]

/-! ### Numbers -/

/-- No digit follows. -/
def EndsNumber (text : List Char) : Prop := ∀ c ∈ text.head?, c.isDigit = false

theorem endsNumber_append {ending : String} {c : Char} (h : ending.toList.head? = some c)
    (hc : c.isDigit = false) (text : List Char) : EndsNumber (ending.toList ++ text) := by
  intro d hd
  rw [List.head?_append, h] at hd
  obtain rfl := Option.some.inj hd
  exact hc

/-- Read a byte in decimal. -/
def readByte (text : List Char) : Option (UInt8 × List Char) := do
  let n ← naturalBelow? 256 (String.ofList (text.takeWhile Char.isDigit))
  return (UInt8.ofNat n, text.dropWhile Char.isDigit)

theorem readByte_append (b : UInt8) {text : List Char} (h : EndsNumber text) :
    readByte ((toString b.toNat).toList ++ text) = some (b, text) := by
  have hall : ∀ c ∈ (toString b.toNat).toList, c.isDigit = true := fun _ => isDigit_of_mem_toString
  obtain ⟨hdigits, hbehind⟩ := span_isDigit_append hall h
  rw [readByte, hdigits, hbehind, String.ofList_toList, naturalBelow?_toString b.toNat_lt]
  show some (UInt8.ofNat b.toNat, text) = _
  rw [UInt8.ofNat_toNat]

/-- Read a word in hexadecimal, with all its digits. -/
def readWord (text : List Char) : Option (UInt64 × List Char) := do
  let text ← expect "0x" text
  let n ← hexNumber? (text.take 16)
  return (UInt64.ofNat n, text.drop 16)

theorem readWord_append (word : UInt64) (text : List Char) :
    readWord ((hexWord word).toList ++ text) = some (word, text) := by
  have hspelled : (hexWord word).toList ++ text =
      "0x".toList ++ (hexDigits 16 word.toNat ++ text) := by
    simp [hexWord]
  have hlength : (hexDigits 16 word.toNat).length = 16 := length_hexDigits _ _
  have htake : (hexDigits 16 word.toNat ++ text).take 16 = hexDigits 16 word.toNat :=
    List.take_left' hlength
  have hdrop : (hexDigits 16 word.toNat ++ text).drop 16 = text := List.drop_left' hlength
  have hvalue : hexNumber? (hexDigits 16 word.toNat) = some word.toNat := by
    have hlt := word.toNat_lt
    rw [hexNumber?_hexDigits, Nat.mod_eq_of_lt]
    omega
  unfold readWord
  simp only [hspelled, expect_append, htake, hvalue, hdrop, UInt64.ofNat_toNat,
    Option.bind_eq_bind, Option.bind_some]
  rfl

/-! ### Arrays -/

section Arrays

variable {α : Type}

/-- Read an item and the comma before it. -/
def readNext (read : List Char → Option (α × List Char)) (text : List Char) :
    Option (α × List Char) := do
  read (← expect ", " text)

/-- Read an array literal: one that gives its length, or one with items between braces. -/
def readArray (element : String) (read : List Char → Option (α × List Char)) (text : List Char) :
    Option (List α × List Char) := do
  let text ← expect ("new " ++ element ++ "[") text
  match expect "0]" text with
  | some text => some ([], text)
  | none => do
      let (first, text) ← read (← expect "] \x7b " text)
      let (others, text) := readMany (fun _ => readNext read) 0 text
      let text ← expect " \x7d" text
      return (first :: others, text)

theorem toList_intercalate_cons (separator first : String) (others : List String) :
    (separator.intercalate (first :: others)).toList =
      first.toList ++ others.flatMap fun other => separator.toList ++ other.toList := by
  induction others generalizing first with
  | nil => simp
  | cons other others ih =>
    rw [String.intercalate_cons_cons, String.toList_append, String.toList_append, ih,
      List.flatMap_cons, List.append_assoc, List.append_assoc]

variable {element : String} {read : List Char → Option (α × List Char)} {spell : α → String}

/-- The items behind the first one, up to the brace. -/
theorem readMany_next {items : List α}
    (hread : ∀ item ∈ items, ∀ rest, EndsNumber rest →
      read ((spell item).toList ++ rest) = some (item, rest)) (rest : List Char) :
    readMany (fun _ => readNext read) 0
        ((items.flatMap fun item => ", ".toList ++ (spell item).toList) ++ (" \x7d".toList ++ rest)) =
      (items, " \x7d".toList ++ rest) := by
  have hbrace : readNext read (" \x7d".toList ++ rest) = none := rfl
  have hend : EndsNumber (" \x7d".toList ++ rest) := endsNumber_append rfl (by decide) rest
  rw [← writeMany_const _ 0, readMany_append_of EndsNumber id _ _ _ _ hend]
  · rw [readMany_of_none _ hbrace, List.map_id, List.append_nil]
  · intro _ item
    rw [List.length_append]
    exact Nat.add_pos_left (by decide) _
  · intro _ item text
    rw [List.append_assoc]
    exact endsNumber_append rfl (by decide) _
  · intro item hitem _ text htext
    rw [List.append_assoc, readNext, expect_append]
    exact hread item hitem text htext

theorem readArray_append {items : List α}
    (hread : ∀ item ∈ items, ∀ rest, EndsNumber rest →
      read ((spell item).toList ++ rest) = some (item, rest)) (rest : List Char) :
    readArray element read ((arrayLiteral element (items.map spell)).toList ++ rest) =
      some (items, rest) := by
  cases items with
  | nil =>
    have hspelled : (arrayLiteral element ([].map spell)).toList ++ rest =
        ("new " ++ element ++ "[").toList ++ ("0]".toList ++ rest) := by
      simp [arrayLiteral]
    unfold readArray
    simp only [hspelled, expect_append, Option.bind_eq_bind, Option.bind_some]
  | cons item items =>
    obtain ⟨hitem, hitems⟩ := List.forall_mem_cons.mp hread
    let inside := (spell item).toList ++
      ((items.flatMap fun item => ", ".toList ++ (spell item).toList) ++ (" \x7d".toList ++ rest))
    have hspelled : (arrayLiteral element ((item :: items).map spell)).toList ++ rest =
        ("new " ++ element ++ "[").toList ++ ("] \x7b ".toList ++ inside) := by
      simp only [arrayLiteral, List.map_cons, String.toList_append, toList_intercalate_cons,
        List.flatMap_map, List.append_assoc, inside]
      rfl
    -- what follows the first item is a comma, or the blank before the brace
    have hend : EndsNumber ((items.flatMap fun item => ", ".toList ++ (spell item).toList) ++
        (" \x7d".toList ++ rest)) := by
      cases items with
      | nil => exact endsNumber_append rfl (by decide) rest
      | cons next items =>
        rw [List.flatMap_cons, List.append_assoc, List.append_assoc]
        exact endsNumber_append rfl (by decide) _
    have hlength : expect "0]" ("] \x7b ".toList ++ inside) = none := rfl
    unfold readArray
    simp only [hspelled, hlength, hitem _ hend, readMany_next hitems, expect_append,
      Option.bind_eq_bind, Option.bind_some, inside]
    rfl

end Arrays

/-- Read an array of bytes. -/
def readByteArray (text : List Char) : Option (List UInt8 × List Char) :=
  readArray "byte" readByte text

theorem readByteArray_append (bytes : List UInt8) (text : List Char) :
    readByteArray ((byteArrayLiteral bytes).toList ++ text) = some (bytes, text) :=
  readArray_append (fun b _ _ => readByte_append b) text

/-- Read an array of words. -/
def readWordArray (text : List Char) : Option (List UInt64 × List Char) :=
  readArray "ulong" readWord text

theorem readWordArray_append (words : List UInt64) (text : List Char) :
    readWordArray ((wordArrayLiteral words).toList ++ text) = some (words, text) :=
  readArray_append (fun word _ rest _ => readWord_append word rest) text

end NativeBindings.Source
