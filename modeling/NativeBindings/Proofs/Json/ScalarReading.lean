/-
NativeBindings/Proofs/Json/ScalarReading.lean

Strings and numbers are read from their JSON text.  The scanner cuts a string into the pieces that
are spelled (`scanString_pieces`), whichever spelling there is for a character, and the pieces are
read as what they mean (`pieceChars_of_denotes`).  The spelling that is written is one of them
(`spellsPiece_escapeChar`), so every string comes back.  A number is spelled without leading zeros,
and its digits end where nothing follows that could go on with a number (`scanMagnitude_append`).
-/
import NativeBindings.Json.Value
import NativeBindings.Proofs.Json.Grammar
import NativeBindings.Proofs.Text.Digits

namespace NativeBindings.Json

open Text

/-! ### Strings -/

/-- A character that neither ends a string nor begins an escape is a piece by itself. -/
theorem scanString_plain {c : Char} (hcontrol : ¬ c.toNat < 0x20) (hquote : c ≠ '"')
    (hbackslash : c ≠ '\\') (rest : List Char) :
    scanString (c :: rest) = StringLexeme.push (.char c) (scanString rest) := by
  rw [scanString, if_neg hcontrol]
  -- the equation is for a character that begins neither an escape nor the end
  · exact hquote
  · intro _ _ _ _ _ h _
    exact hbackslash h
  · intro _ h _
    exact hbackslash h
  · intro h _
    exact hbackslash h
  · intro _ _ h _
    exact hbackslash h

/-- **A spelled piece is scanned as this piece**, whatever follows. -/
theorem scanString_piece {piece : Piece} {text : String} (h : SpellsPiece piece text)
    (rest : List Char) :
    scanString (text.toList ++ rest) = StringLexeme.push piece (scanString rest) := by
  cases h with
  | @plain c hcontrol hquote hbackslash =>
    rw [String.toList_ofList]
    exact scanString_plain (Nat.not_lt.mpr hcontrol) hquote hbackslash rest
  | @short c d h =>
    rw [String.toList_ofList]
    simp only [shortEscapes, List.mem_cons, Prod.mk.injEq, List.not_mem_nil, or_false] at h
    obtain ⟨rfl, rfl⟩ | ⟨rfl, rfl⟩ | ⟨rfl, rfl⟩ | ⟨rfl, rfl⟩ | ⟨rfl, rfl⟩ | ⟨rfl, rfl⟩ |
      ⟨rfl, rfl⟩ | ⟨rfl, rfl⟩ := h
    all_goals rfl
  | @unit a b c d w x y z ha hb hc hd =>
    have hcode : codeUnit? a b c d = some (4096 * w + 256 * x + 16 * y + z) := by
      rw [codeUnit?, ha, hb, hc, hd]
      rfl
    rw [String.toList_ofList]
    show scanString ('\\' :: 'u' :: a :: b :: c :: d :: rest) = _
    rw [scanString, hcode]

/-- A string is scanned up to its closing quote. -/
theorem scanString_pieces {pieces : List Piece} {spelled : List String}
    (h : List.Forall₂ SpellsPiece pieces spelled) (rest : List Char) :
    scanString ((String.join spelled).toList ++ '"' :: rest) = ({ pieces }, rest) := by
  induction h with
  | nil => rfl
  | cons hpiece _ ih =>
    rw [String.join_cons, String.toList_append, List.append_assoc, scanString_piece hpiece, ih]
    rfl

/-- A code unit that is no half of a pair stands for its character, whatever follows. -/
theorem pieceChars_unit_cons {code : Nat} (hleading : isLeading code = false)
    (htrailing : isTrailing code = false) (rest : List Piece) :
    pieceChars none (.unit code :: rest) = (Char.ofNat code :: ·) <$> pieceChars none rest := by
  -- what a code unit means depends on the piece behind it
  rcases rest with - | ⟨next | next, rest⟩
  · simp only [pieceChars, hleading, htrailing]
    rfl
  · simp [pieceChars, hleading, htrailing]
  · simp [pieceChars, hleading, htrailing]

/-- **What pieces mean is what they are read as.** -/
theorem pieceChars_of_denotes {pieces : List Piece} {chars : List Char}
    (h : Denotes pieces chars) : pieceChars none pieces = .ok chars := by
  induction h with
  | nil => rfl
  | char c _ ih =>
    rw [pieceChars, ih]
    rfl
  | @unit code hcode pieces chars _ ih =>
    have hleading : isLeading code = false := by
      rw [isLeading, Bool.and_eq_false_iff, decide_eq_false_iff_not, decide_eq_false_iff_not]
      omega
    have htrailing : isTrailing code = false := by
      rw [isTrailing, Bool.and_eq_false_iff, decide_eq_false_iff_not, decide_eq_false_iff_not]
      omega
    rw [pieceChars_unit_cons hleading htrailing, ih]
    rfl
  | @pair leading trailing hleading htrailing pieces chars _ ih =>
    have hfirst : isLeading leading = true := by
      rw [isLeading, Bool.and_eq_true, decide_eq_true_iff, decide_eq_true_iff]
      exact hleading
    have hsecond : isTrailing trailing = true := by
      rw [isTrailing, Bool.and_eq_true, decide_eq_true_iff, decide_eq_true_iff]
      exact htrailing
    rw [pieceChars, if_pos hfirst, if_pos hsecond, ih]
    rfl

theorem value_of_denotes {pieces : List Piece} {s : String} (h : Denotes pieces s.toList) :
    StringLexeme.value { pieces } = .ok s := by
  rw [StringLexeme.value, pieceChars_of_denotes h]
  show Except.ok (String.ofList s.toList) = _
  rw [String.ofList_toList]

/-! ### Strings that are written -/

/-- A control character that has no short escape. -/
def isNumbered (c : Char) : Bool :=
  c.toNat < 0x20 && !(['\n', '\r', '\t', '\x08', '\x0C'].contains c)

/-- The piece of a string that the spelling of a character is. -/
def pieceOf (c : Char) : Piece := if isNumbered c then .unit c.toNat else .char c

/-- The lexeme of a string. -/
def stringLexeme (s : String) : StringLexeme := { pieces := s.toList.map pieceOf }

/-- A code below the blank is spelled with four digits. -/
theorem spellsPiece_controlEscape {n : Nat} (h : n < 0x20) :
    SpellsPiece (.unit n) (controlEscape n) := by
  have hall : ∀ k : Fin 0x20, controlEscape k = String.ofList
          ['\\', 'u', '0', '0', if k.val < 0x10 then '0' else '1', Nat.digitChar (k % 0x10)] ∧
        hexValue? (if k.val < 0x10 then '0' else '1') = some (k.val / 0x10) ∧
        hexValue? (Nat.digitChar (k % 0x10)) = some (k.val % 0x10) := by
    decide
  obtain ⟨hspelled, hhigh, hlow⟩ := hall ⟨n, h⟩
  have hzero : hexValue? '0' = some 0 := rfl
  have hcode : 4096 * 0 + 256 * 0 + 16 * (n / 0x10) + n % 0x10 = n := by omega
  have hpiece := SpellsPiece.unit hzero hzero hhigh hlow
  rw [hcode, ← hspelled] at hpiece
  exact hpiece

/-- **The spelling that is written spells the piece of the character.** -/
theorem spellsPiece_escapeChar (c : Char) : SpellsPiece (pieceOf c) (escapeChar c) := by
  unfold escapeChar
  split
  case h_8 hquote hbackslash hfeed hreturn htab hback hform =>
    split
    case isTrue hcontrol =>
      have hpiece : pieceOf c = .unit c.toNat := by
        simp_all [pieceOf, isNumbered]
      rw [hpiece]
      exact spellsPiece_controlEscape hcontrol
    case isFalse hplain =>
      have hpiece : pieceOf c = .char c := by
        simp [pieceOf, isNumbered, hplain]
      rw [hpiece]
      exact .plain (Nat.not_lt.mp hplain) hquote hbackslash
  all_goals exact .short (by decide)

theorem forall₂_spellsPiece_escapeChar (s : String) :
    List.Forall₂ SpellsPiece (s.toList.map pieceOf) (s.toList.map escapeChar) := by
  rw [List.forall₂_map_left_iff, List.forall₂_map_right_iff, List.forall₂_same]
  exact fun c _ => spellsPiece_escapeChar c

/-- The pieces of characters mean these characters. -/
theorem denotes_map_pieceOf (chars : List Char) : Denotes (chars.map pieceOf) chars := by
  induction chars with
  | nil => exact .nil
  | cons c chars ih =>
    rw [List.map_cons, pieceOf]
    split
    case isFalse => exact .char c ih
    case isTrue hnumbered =>
      have hcontrol : c.toNat < 0x20 := by
        rw [isNumbered, Bool.and_eq_true, decide_eq_true_iff] at hnumbered
        exact hnumbered.1
      have hunit := Denotes.unit (.inl (Nat.lt_trans hcontrol (by decide))) ih
      rw [Char.ofNat_toNat] at hunit
      exact hunit

/-- **The text of a string spells the string.** -/
theorem spellsString_renderString (s : String) : SpellsString s (renderString s) :=
  ⟨s.toList.map pieceOf, denotes_map_pieceOf s.toList, s.toList.map escapeChar,
    forall₂_spellsPiece_escapeChar s, rfl⟩

/-- A written string is scanned up to its closing quote. -/
theorem scanString_append (s : String) (rest : List Char) :
    scanString ((String.join (s.toList.map escapeChar)).toList ++ '"' :: rest) =
      (stringLexeme s, rest) :=
  scanString_pieces (forall₂_spellsPiece_escapeChar s) rest

/-- **The lexeme of a string stands for the string.** -/
theorem value_stringLexeme (s : String) : (stringLexeme s).value = .ok s :=
  value_of_denotes (denotes_map_pieceOf s.toList)

/-! ### Numbers -/

/-- Nothing follows that could go on with a number. -/
def EndsNumeral (text : List Char) : Prop :=
  ∀ c ∈ text.head?, c.isDigit = false ∧ c ≠ '.' ∧ c ≠ 'e' ∧ c ≠ 'E'

/-- A number as it is spelled. -/
def numeralOf (n : Nat) : Numeral := { negative := false, whole := Nat.toDigits 10 n }

theorem head?_toDigits_ne {n : Nat} (h : 0 < n) : (Nat.toDigits 10 n).head? ≠ some '0' := by
  induction n using Nat.strongRecOn with
  | ind n ih =>
    rcases Nat.lt_or_ge n 10 with hsmall | hlarge
    · have hall : ∀ k : Fin 10, 0 < k.val → [Nat.digitChar k].head? ≠ some '0' := by decide
      rw [Nat.toDigits_of_lt_base hsmall]
      exact hall ⟨n, hsmall⟩ h
    · -- the first digit is that of the number without its last digit
      obtain ⟨first, rest, hfirst⟩ :=
        List.exists_cons_of_ne_nil (Nat.toDigits_ne_nil (n := n / 10) (b := 10))
      have hne := ih (n / 10) (by omega) (by omega)
      rw [hfirst] at hne
      rw [Nat.toDigits_of_base_le (by decide) hlarge, hfirst]
      exact hne

/-- Only zero itself begins with a zero. -/
theorem not_leadingZero_toDigits (n : Nat) :
    ¬((Nat.toDigits 10 n).head? = some '0' ∧ 1 < (Nat.toDigits 10 n).length) := by
  rintro ⟨hzero, hlength⟩
  rcases Nat.eq_zero_or_pos n with rfl | hpos
  · exact absurd hlength (by decide)
  · exact head?_toDigits_ne hpos hzero

theorem scanExponent_of_endsNumeral (numeral : Numeral) {text : List Char}
    (h : EndsNumeral text) : scanExponent numeral text = (.numeral numeral, text) := by
  cases text with
  | nil => rfl
  | cons c rest =>
    obtain ⟨-, -, hlower, hupper⟩ := h c rfl
    rw [scanExponent, if_neg (not_or.mpr ⟨hlower, hupper⟩)]

theorem scanFraction_of_endsNumeral (numeral : Numeral) {text : List Char}
    (h : EndsNumeral text) : scanFraction numeral text = (.numeral numeral, text) := by
  rw [scanFraction.eq_def]
  split
  · obtain ⟨-, hpoint, -⟩ := h '.' rfl
    exact absurd rfl hpoint
  · exact scanExponent_of_endsNumeral numeral h

/-- The whole digits of a number end where no digit follows.  None stands behind a zero in front. -/
theorem scanMagnitude_digits (negative : Bool) {digits text : List Char} (hne : digits ≠ [])
    (hdigits : ∀ c ∈ digits, c.isDigit = true)
    (hzero : ¬(digits.head? = some '0' ∧ 1 < digits.length))
    (h : ∀ c ∈ text.head?, c.isDigit = false) :
    scanMagnitude negative (digits ++ text) = scanFraction { negative, whole := digits } text := by
  obtain ⟨hwhole, hbehind⟩ := span_isDigit_append hdigits h
  have hempty : digits.isEmpty = false := List.isEmpty_eq_false_iff.mpr hne
  rw [scanMagnitude, hwhole, hbehind]
  simp only [hempty, Bool.false_eq_true, if_false, if_neg hzero]

/-- **A number is scanned up to its last digit**, if nothing follows that goes on with it. -/
theorem scanMagnitude_append (n : Nat) {text : List Char} (h : EndsNumeral text) :
    scanMagnitude false (Nat.toDigits 10 n ++ text) = (.numeral (numeralOf n), text) := by
  have hdigits : ∀ c ∈ Nat.toDigits 10 n, c.isDigit = true :=
    fun _ => Nat.isDigit_of_mem_toDigits (by decide) (by decide)
  rw [scanMagnitude_digits false Nat.toDigits_ne_nil hdigits (not_leadingZero_toDigits n)
    fun c hc => (h c hc).1]
  exact scanFraction_of_endsNumeral _ h

/-- A number that is a word is denoted as itself. -/
theorem value_numeralOf {n : Nat} (h : n < wordBound) :
    (NumberLexeme.numeral (numeralOf n)).value = .ok (.integer n) := by
  have hvalue : digitsValue (Nat.toDigits 10 n) = n :=
    Nat.ofDigitChars_toDigits (by decide) (by decide)
  have hquantity : (numeralOf n).quantity? = some (.integer n) := by
    simp [Numeral.quantity?, numeralOf, hvalue, h]
  rw [NumberLexeme.value, hquantity]

end NativeBindings.Json
