/-
NativeBindings/Proofs/Batch/ArrayTypes.lean

The source of the inline array types as a text.  It is the rows at the top and then, for each
length, the text of one type (`render_arrayTypes`).  A length is told by its digits, which end at a
bracket, so the types tell the lengths and their order (`arrayTypesText_inj`).
-/
import NativeBindings.Batch.ArraySizes
import NativeBindings.Proofs.Source.Balance
import NativeBindings.Proofs.Text.Digits

namespace NativeBindings

open Source Text

/-- The rows at the top of a source: the marker, and the namespace if it is not the global one. -/
def bannerText (nameSpace : String) : String :=
  "// <auto-generated/>\n" ++ if nameSpace = "" then "" else "\nnamespace " ++ nameSpace ++ ";\n"

/-- What stands before the length in the attribute of an inline array type. -/
def attributeStart : String := "[" ++ compilerServices ++ ".InlineArrayAttribute("

/-- The inline array type of a length, with the blank row that sets it apart. -/
def arrayTypeText (length : UInt32) : String :=
  "\n" ++ row 0 (attributeStart ++ toString length.toNat ++ ")]") ++
    row 0 ("public struct FixedSizeArray" ++ toString length.toNat ++ "<T> where T : unmanaged") ++
    row 0 "\x7b" ++ row 1 "private T _element0;" ++ row 0 "\x7d"

/-- The inline array types of some lengths, one after the other. -/
def arrayTypesText (lengths : List UInt32) : String := String.join (lengths.map arrayTypeText)

theorem toList_arrayTypesText (lengths : List UInt32) :
    (arrayTypesText lengths).toList = lengths.flatMap fun n => (arrayTypeText n).toList := by
  rw [arrayTypesText, String.toList_join, List.flatMap_map]

/-! ### What is written -/

theorem finish_fileHeader (nameSpace : String) :
    (Layout.fileHeader nameSpace).finish {} = ⟨0, false⟩ := by
  rw [Layout.fileHeader]
  split <;> rfl

theorem renderFrom_fileHeader (nameSpace : String) :
    (Layout.fileHeader nameSpace).renderFrom {} = bannerText nameSpace := by
  apply String.toList_inj.mp
  show Layout.chars ⟨0, true⟩ (Layout.fileHeader nameSpace) = _
  unfold Layout.fileHeader bannerText
  rcases Decidable.em (nameSpace = "") with h | h
  · simp [h]
  · simp [h]

theorem renderFrom_arrayType (length : UInt32) :
    (ArraySizes.arrayType length).renderFrom ⟨0, false⟩ = arrayTypeText length := by
  apply String.toList_inj.mp
  show Layout.chars ⟨0, false⟩ (ArraySizes.arrayType length) = _
  unfold ArraySizes.arrayType arrayTypeText Layout.item Layout.scope attributeStart
  simp

theorem renderFrom_arrayTypes (lengths : List UInt32) :
    Layout.renderFrom ⟨0, false⟩ (lengths.flatMap ArraySizes.arrayType) =
      arrayTypesText lengths := by
  induction lengths with
  | nil => rfl
  | cons length lengths ih =>
    have hfinish : (ArraySizes.arrayType length).finish ⟨0, false⟩ = ⟨0, false⟩ := rfl
    rw [List.flatMap_cons, Layout.renderFrom_append, renderFrom_arrayType, hfinish, ih]
    apply String.toList_inj.mp
    rw [String.toList_append, toList_arrayTypesText, toList_arrayTypesText, List.flatMap_cons]

/-- **The rows at the top, and one type for each length in the order of the lengths.** -/
theorem render_arrayTypes (nameSpace : String) (lengths : List UInt32) :
    Layout.render (Layout.fileHeader nameSpace ++ lengths.flatMap ArraySizes.arrayType) =
      bannerText nameSpace ++ arrayTypesText lengths := by
  rw [Layout.render, Layout.renderFrom_append, renderFrom_fileHeader, finish_fileHeader,
    renderFrom_arrayTypes]

/-! ### What is told by it -/

/-- A number that ends at a bracket is told by its digits. -/
theorem toString_inj_of_bracket {m n : Nat} {text rest : List Char}
    (h : (toString m).toList ++ ')' :: text = (toString n).toList ++ ')' :: rest) : m = n := by
  have hdigits (k : Nat) (behind : List Char) :
      ((toString k).toList ++ ')' :: behind).takeWhile Char.isDigit = (toString k).toList :=
    (span_isDigit_append (fun _ => isDigit_of_mem_toString) (by simp)).1
  have hvalue (k : Nat) : Nat.ofDigitChars 10 (toString k).toList 0 = k := by
    rw [toList_toString]
    exact Nat.ofDigitChars_ten_toDigits
  rw [← hvalue m, ← hdigits m text, h, hdigits, hvalue]

/-- A type is a blank row, the attribute with the length, and more. -/
theorem exists_toList_arrayTypeText (length : UInt32) (rest : List Char) :
    ∃ more, (arrayTypeText length).toList ++ rest =
      '\n' :: (attributeStart.toList ++ ((toString length.toNat).toList ++ ')' :: more)) := by
  unfold arrayTypeText
  simp only [row_zero, String.toList_append, List.append_assoc]
  exact ⟨_, rfl⟩

/-- The first type of a text is the type of one length only. -/
theorem arrayTypeText_append_inj {m n : UInt32} {text rest : List Char}
    (h : (arrayTypeText m).toList ++ text = (arrayTypeText n).toList ++ rest) :
    m = n ∧ text = rest := by
  obtain ⟨more, htext⟩ := exists_toList_arrayTypeText m text
  obtain ⟨more', hrest⟩ := exists_toList_arrayTypeText n rest
  rw [htext, hrest] at h
  have hnumbers : m.toNat = n.toNat :=
    toString_inj_of_bracket (List.append_cancel_left (List.cons.inj h).2)
  obtain rfl := UInt32.toNat_inj.mp hnumbers
  rw [← htext, ← hrest] at h
  exact ⟨rfl, List.append_cancel_left h⟩

theorem arrayTypesText_inj {lengths other : List UInt32} :
    arrayTypesText lengths = arrayTypesText other ↔ lengths = other := by
  refine ⟨fun h => ?_, congrArg arrayTypesText⟩
  replace h := congrArg String.toList h
  rw [toList_arrayTypesText, toList_arrayTypesText] at h
  induction lengths generalizing other with
  | nil =>
    cases other with
    | nil => rfl
    | cons n other =>
      obtain ⟨more, hmore⟩ := exists_toList_arrayTypeText n _
      cases h.trans hmore
  | cons m lengths ih =>
    cases other with
    | nil =>
      obtain ⟨more, hmore⟩ := exists_toList_arrayTypeText m _
      cases h.symm.trans hmore
    | cons n other =>
      obtain ⟨rfl, hrest⟩ := arrayTypeText_append_inj h
      rw [ih hrest]

end NativeBindings
