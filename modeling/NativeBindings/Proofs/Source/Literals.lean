/-
NativeBindings/Proofs/Source/Literals.lean

What a literal cannot hold.  A string literal is a single line whatever it spells, and an array
literal has neither a line feed nor a quote.
-/
import NativeBindings.Proofs.Text.Digits
import NativeBindings.Proofs.Text.Lines
import NativeBindings.Source.Literal

namespace NativeBindings.Source

open Text

/-! ### String literals -/

theorem lineFeed_not_mem_literalChar (c : Char) : '\n' ∉ literalChar c := by
  unfold literalChar
  split
  case h_7 hne _ _ _ =>
    rw [List.mem_singleton]
    exact fun h => hne h.symm
  all_goals decide

/-- A line feed is spelled, not written. -/
theorem singleLine_stringLiteral (value : String) : SingleLine (stringLiteral value) := by
  refine lacks_append.mpr ⟨lacks_append.mpr ⟨by decide, ?_⟩, by decide⟩
  apply lacks_ofList.mpr
  rw [List.mem_flatMap]
  rintro ⟨c, -, hc⟩
  exact lineFeed_not_mem_literalChar c hc

/-! ### Array literals -/

section Arrays

variable {c : Char}

theorem lacks_arrayLiteral {element : String} {items : List String}
    (hc : Lacks c "new []\x7b, \x7d0") (helement : Lacks c element)
    (hitems : ∀ item ∈ items, Lacks c item) : Lacks c (arrayLiteral element items) := by
  have hfixed {s : String} (hs : s.toList ⊆ "new []\x7b, \x7d0".toList) : Lacks c s :=
    fun h => hc (hs h)
  have hnew : Lacks c ("new " ++ element) := lacks_append.mpr ⟨hfixed (by decide), helement⟩
  -- an empty array gives its length, and another one its items between braces
  cases items with
  | nil => exact lacks_append.mpr ⟨hnew, hfixed (by decide)⟩
  | cons item items =>
    have hcomma : Lacks c ", " := hfixed (by decide)
    have hjoined := Lacks.intercalate hcomma hitems
    have hopen := lacks_append.mpr ⟨hnew, hfixed (s := "[] \x7b ") (by decide)⟩
    exact lacks_append.mpr ⟨lacks_append.mpr ⟨hopen, hjoined⟩, hfixed (by decide)⟩

/-- A number is written with decimal digits only. -/
theorem lacks_toString (hc : c.isDigit = false) (n : Nat) : Lacks c (toString n) := by
  intro h
  have hdigit := isDigit_of_mem_toString h
  rw [hc] at hdigit
  cases hdigit

/-- A word is written with hexadecimal digits behind its mark. -/
theorem lacks_hexWord (hx : c ≠ 'x') (hc : ∀ k : Fin 16, c ≠ hexDigit k) (word : UInt64) :
    Lacks c (hexWord word) := by
  refine lacks_append.mpr ⟨?_, ?_⟩
  · show c ∉ ['0', 'x']
    simp [hx, show c ≠ '0' from hc 0]
  · apply lacks_ofList.mpr
    intro h
    obtain ⟨k, hk, heq⟩ := exists_of_mem_hexDigits h
    exact hc ⟨k, hk⟩ heq

end Arrays

/-- The marks that end a row and a literal do not occur in an array. -/
theorem lacks_byteArrayLiteral {c : Char} (hc : c = '"' ∨ c = '\n') (bytes : List UInt8) :
    Lacks c (byteArrayLiteral bytes) := by
  have hdigit : c.isDigit = false := by rcases hc with rfl | rfl <;> rfl
  apply lacks_arrayLiteral
  · rcases hc with rfl | rfl <;> decide
  · rcases hc with rfl | rfl <;> decide
  · intro item hitem
    obtain ⟨b, -, rfl⟩ := List.mem_map.mp hitem
    exact lacks_toString hdigit b.toNat

theorem lacks_wordArrayLiteral {c : Char} (hc : c = '"' ∨ c = '\n') (words : List UInt64) :
    Lacks c (wordArrayLiteral words) := by
  apply lacks_arrayLiteral
  · rcases hc with rfl | rfl <;> decide
  · rcases hc with rfl | rfl <;> decide
  · intro item hitem
    obtain ⟨word, -, rfl⟩ := List.mem_map.mp hitem
    apply lacks_hexWord
    · rcases hc with rfl | rfl <;> decide
    · rcases hc with rfl | rfl <;> decide

end NativeBindings.Source
