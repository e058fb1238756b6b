/-
NativeBindings/Proofs/Text/Digits.lean

Digits as characters.  Each of the sixteen hexadecimal digits is read back as its value, and none of
them separates words or is a question mark.  The characters that are read as digits are those of two
lists, which differ in case (`hexValue?_eq_some_iff`).  A number comes back from its digits, from
all of them in decimal (`naturalBelow?_toString`) and modulo the width in hexadecimal
(`hexNumber?_hexDigits`).
-/
import Mathlib.Algebra.Group.Nat.Defs
import NativeBindings.Text.Blank
import NativeBindings.Text.Hex
import NativeBindings.Text.Natural

namespace NativeBindings.Text

/-! ### Hexadecimal digits -/

/-- A digit is read as its value. -/
theorem hexValue?_hexDigit {n : Nat} (h : n < 16) : hexValue? (hexDigit n) = some n := by
  have hall : ∀ k : Fin 16, hexValue? (hexDigit k) = some k.val := by decide
  exact hall ⟨n, h⟩

theorem isBlank_hexDigit {n : Nat} (h : n < 16) : isBlank (hexDigit n) = false := by
  have hall : ∀ k : Fin 16, isBlank (hexDigit k) = false := by decide
  exact hall ⟨n, h⟩

/-- All that is spelled with digits is a digit. -/
theorem exists_of_mem_hexDigits {width n : Nat} {c : Char} (h : c ∈ hexDigits width n) :
    ∃ k < 16, c = hexDigit k := by
  induction width generalizing n with
  | zero => cases h
  | succ width ih =>
    rw [hexDigits, List.mem_append, List.mem_singleton] at h
    rcases h with h | rfl
    · exact ih h
    · exact ⟨n % 16, Nat.mod_lt n (by decide), rfl⟩

@[simp] theorem length_hexDigits (width n : Nat) : (hexDigits width n).length = width := by
  induction width generalizing n with
  | zero => rfl
  | succ width ih => simp [hexDigits, ih]

/-- The number with hexadecimal digits, the most significant first. -/
def hexNumber? (digits : List Char) : Option Nat :=
  digits.foldlM (fun n c => (hexValue? c).map (16 * n + ·)) 0

theorem hexNumber?_hexDigits (width n : Nat) :
    hexNumber? (hexDigits width n) = some (n % 16 ^ width) := by
  induction width generalizing n with
  | zero => simp [hexNumber?, hexDigits, Nat.mod_one]
  | succ width ih =>
    -- the last digit is the remainder, and the digits before it are those of the quotient
    have hlast := hexValue?_hexDigit (Nat.mod_lt n (by decide : 0 < 16))
    have hrest := ih (n / 16)
    rw [hexNumber?] at hrest
    rw [hexNumber?, hexDigits, List.foldlM_append, hrest, Nat.pow_succ', Nat.mod_mul]
    simp [hlast, Nat.add_comm]

/-! ### Digits of either case -/

/-- A hexadecimal digit of either case, with its value. -/
def IsHexDigit (c : Char) (value : Nat) : Prop :=
  "0123456789ABCDEF".toList[value]? = some c ∨ "0123456789abcdef".toList[value]? = some c

instance (c : Char) (value : Nat) : Decidable (IsHexDigit c value) :=
  inferInstanceAs (Decidable (_ ∨ _))

theorem IsHexDigit.lt {c : Char} {value : Nat} (h : IsHexDigit c value) : value < 16 := by
  rcases h with h | h
  · exact (List.getElem?_eq_some_iff.mp h).1
  · exact (List.getElem?_eq_some_iff.mp h).1

/-- What is true of all ASCII characters is true of an ASCII character. -/
theorem forall_ascii {p : Char → Prop} (h : ∀ k : Fin 128, p (Char.ofNat k)) {c : Char}
    (hc : c.toNat < 128) : p c := by
  have hp := h ⟨c.toNat, hc⟩
  rwa [Char.ofNat_toNat] at hp

/-- No digit lies beyond ASCII, whatever its encoding looks like. -/
theorem hexValue?_of_le {c : Char} (h : 128 ≤ c.toNat) : hexValue? c = none := by
  have hlt {d : Char} (hd : d.toNat < 128) : ¬ c ≤ d := by
    intro hle
    have : c.toNat ≤ d.toNat := hle
    omega
  rw [hexValue?, if_neg, if_neg, if_neg]
  · exact fun hc => hlt (by decide) hc.2
  · exact fun hc => hlt (by decide) hc.2
  · exact fun hc => hlt (by decide) hc.2

theorem toNat_lt_of_hexValue? {c : Char} {n : Nat} (h : hexValue? c = some n) :
    c.toNat < 128 := by
  rw [← Nat.not_le]
  intro hc
  rw [hexValue?_of_le hc] at h
  cases h

/-- **The digits that are read** are the sixteen of each list. -/
theorem hexValue?_eq_some_iff {c : Char} {n : Nat} : hexValue? c = some n ↔ IsHexDigit c n := by
  constructor
  · intro h
    have hall : ∀ k : Fin 128, ∀ n ∈ hexValue? (Char.ofNat k), IsHexDigit (Char.ofNat k) n := by
      decide
    exact forall_ascii (p := fun c => ∀ n ∈ hexValue? c, IsHexDigit c n) hall
      (toNat_lt_of_hexValue? h) n h
  · have hupper : ∀ k : Fin 16, "0123456789ABCDEF".toList[k.val]?.bind hexValue? = some k.val := by
      decide
    have hlower : ∀ k : Fin 16, "0123456789abcdef".toList[k.val]?.bind hexValue? = some k.val := by
      decide
    intro h
    have hn : n < 16 := h.lt
    rcases h with hc | hc
    · have hvalue : "0123456789ABCDEF".toList[n]?.bind hexValue? = some n := hupper ⟨n, hn⟩
      rwa [hc] at hvalue
    · have hvalue : "0123456789abcdef".toList[n]?.bind hexValue? = some n := hlower ⟨n, hn⟩
      rwa [hc] at hvalue

theorem toLower_of_le {c : Char} (h : 128 ≤ c.toNat) : c.toLower = c := by
  refine dif_neg ?_
  rintro ⟨-, hle⟩
  have hz : c.toNat ≤ 'Z'.toNat := hle
  have hvalue : 'Z'.toNat = 90 := rfl
  omega

/-- The case of a digit does not count. -/
theorem hexValue?_toLower (c : Char) : hexValue? c.toLower = hexValue? c := by
  rcases Nat.lt_or_ge c.toNat 128 with hc | hc
  · exact forall_ascii (p := fun c => hexValue? c.toLower = hexValue? c) (by decide) hc
  · rw [toLower_of_le hc]

/-! ### Decimal digits -/

/-- Digits end where something else begins. -/
theorem span_isDigit_append {digits text : List Char} (hdigits : ∀ c ∈ digits, c.isDigit = true)
    (h : ∀ c ∈ text.head?, c.isDigit = false) :
    (digits ++ text).takeWhile Char.isDigit = digits ∧
      (digits ++ text).dropWhile Char.isDigit = text := by
  rw [List.takeWhile_append_of_pos hdigits, List.dropWhile_append_of_pos hdigits]
  cases text with
  | nil => exact ⟨List.append_nil digits, rfl⟩
  | cons c text =>
    have hc : c.isDigit = false := h c rfl
    simp [hc]

theorem toList_toString (n : Nat) : (toString n).toList = Nat.toDigits 10 n :=
  String.toList_ofList

theorem isDigit_of_mem_toString {n : Nat} {c : Char} (h : c ∈ (toString n).toList) :
    c.isDigit = true := by
  rw [toList_toString] at h
  exact Nat.isDigit_of_mem_toDigits (by decide) (by decide) h

/-- A number is read from its decimal digits. -/
theorem naturalBelow?_toString {bound n : Nat} (h : n < bound) :
    naturalBelow? bound (toString n) = some n := by
  have hdigits : ∀ c ∈ (toString n).toList, c.isDigit = true := fun _ => isDigit_of_mem_toString
  have hvalue : Nat.ofDigitChars 10 (toString n).toList 0 = n := by
    rw [toList_toString]
    exact Nat.ofDigitChars_toDigits (by decide) (by decide)
  rw [naturalBelow?]
  rcases hs : (toString n).toList with - | ⟨first, rest⟩
  · rw [toList_toString] at hs
    exact absurd hs Nat.toDigits_ne_nil
  · rw [hs] at hdigits hvalue
    -- the first digit is no plus sign
    have hplus : withoutPlus (first :: rest) = first :: rest := by
      have hfirst := hdigits first List.mem_cons_self
      rw [withoutPlus]
      rintro _ heq
      obtain ⟨rfl, -⟩ := List.cons.inj heq
      cases hfirst
    rw [hplus]
    simp [List.all_eq_true.mpr hdigits, hvalue, h]

end NativeBindings.Text
