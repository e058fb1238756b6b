/-
NativeBindings/Json/Lexeme.lean

The lexemes of JSON text.  A string or number that is not well formed is still one lexeme, which
remembers how it breaks, and ends the text: whether the break is reported as it is depends on the
place where the lexeme stands.  A value that is skipped may spell half a surrogate pair, and where
the text ends inside a skipped number the number counts as malformed.
-/
import NativeBindings.Json.Fault
import NativeBindings.Text.Hex

namespace NativeBindings.Json

open Text

/-! ### Strings -/

/-- A part of a string: a character, or a code unit written as `\u` and four digits. -/
inductive Piece where
  | char (c : Char)
  | unit (code : Nat)
deriving DecidableEq

/-- A string as it is spelled, up to its closing quote or to where it breaks. -/
structure StringLexeme where
  pieces : List Piece
  ending : Option Break := none
deriving DecidableEq

/-- The character after a backslash, other than `u`, and what it stands for. -/
def shortEscape? : Char → Option Char
  | '"' => some '"'
  | '\\' => some '\\'
  | '/' => some '/'
  | 'b' => some '\x08'
  | 'f' => some '\x0C'
  | 'n' => some '\n'
  | 'r' => some '\r'
  | 't' => some '\t'
  | _ => none

/-- The code unit with the given four digits. -/
def codeUnit? (a b c d : Char) : Option Nat := do
  return 4096 * (← hexValue? a) + 256 * (← hexValue? b) + 16 * (← hexValue? c) + (← hexValue? d)

/-- How a text breaks whose four digits of a code unit are missing or wrong: it is truncated if
fewer than four bytes are left of it. -/
def codeUnitBreak (rest : List Char) : Break :=
  if (String.ofList (rest.take 4)).utf8ByteSize < 4 then .truncated else .malformed

/-- Put a piece in front of a string. -/
def StringLexeme.push (piece : Piece) (result : StringLexeme × List Char) :
    StringLexeme × List Char :=
  ({ result.1 with pieces := piece :: result.1.pieces }, result.2)

/-- Read a string after its opening quote; what follows it is left over. -/
def scanString : List Char → StringLexeme × List Char
  | [] => ({ pieces := [], ending := some .truncated }, [])
  | '"' :: rest => ({ pieces := [] }, rest)
  | '\\' :: 'u' :: a :: b :: c :: d :: rest =>
      match codeUnit? a b c d with
      | some code => StringLexeme.push (.unit code) (scanString rest)
      | none => ({ pieces := [], ending := some (codeUnitBreak (a :: b :: c :: d :: rest)) }, [])
  | '\\' :: 'u' :: rest => ({ pieces := [], ending := some (codeUnitBreak rest) }, [])
  | ['\\'] => ({ pieces := [], ending := some .truncated }, [])
  | '\\' :: c :: rest =>
      match shortEscape? c with
      | some d => StringLexeme.push (.char d) (scanString rest)
      | none => ({ pieces := [], ending := some .malformed }, [])
  | c :: rest =>
      if c.toNat < 0x20 then ({ pieces := [], ending := some .malformed }, [])
      else StringLexeme.push (.char c) (scanString rest)

/-- A code unit that begins a pair. -/
def isLeading (code : Nat) : Bool := 0xD800 ≤ code && code ≤ 0xDBFF

/-- A code unit that completes a pair. -/
def isTrailing (code : Nat) : Bool := 0xDC00 ≤ code && code ≤ 0xDFFF

/-- The character that a pair of code units stands for. -/
def pairChar (leading trailing : Nat) : Char :=
  Char.ofNat (0x10000 + 0x400 * (leading - 0xD800) + (trailing - 0xDC00))

/-- The characters that pieces stand for, given how the string ends.  A code unit of a pair cannot
stand alone. -/
def pieceChars (ending : Option Break) : List Piece → Except Break (List Char)
  | [] =>
      match ending with
      | none => .ok []
      | some cause => .error cause
  | .char c :: rest => (c :: ·) <$> pieceChars ending rest
  | [.unit code] =>
      match isLeading code, isTrailing code, ending with
      | true, _, none => .error .malformed
      | true, _, some cause => .error cause
      | false, true, _ => .error .malformed
      | false, false, none => .ok [Char.ofNat code]
      | false, false, some cause => .error cause
  | .unit code :: .unit next :: rest =>
      if isLeading code then
        if isTrailing next then (pairChar code next :: ·) <$> pieceChars ending rest
        else .error .malformed
      else if isTrailing code then .error .malformed
      else (Char.ofNat code :: ·) <$> pieceChars ending (.unit next :: rest)
  | .unit code :: .char c :: rest =>
      if isLeading code || isTrailing code then .error .malformed
      else (Char.ofNat code :: ·) <$> pieceChars ending (.char c :: rest)

/-- The text that a string stands for. -/
def StringLexeme.value (lexeme : StringLexeme) : Except Break String :=
  String.ofList <$> pieceChars lexeme.ending lexeme.pieces

/-- Whether a string can be passed over: only how it ends matters. -/
def StringLexeme.skip (lexeme : StringLexeme) : Except Break Unit :=
  match lexeme.ending with
  | none => .ok ()
  | some cause => .error cause

/-! ### Numbers -/

/-- A number as it is spelled, or how it breaks. -/
inductive NumberLexeme where
  | numeral (value : Numeral)
  | broken (cause : Break)
deriving DecidableEq

/-- How a number breaks where a digit is missing. -/
def digitBreak : List Char → Break
  | [] => .truncated
  | _ => .malformed

/-- Read the sign of an exponent: whether it is negative, and what follows. -/
def scanExponentSign : List Char → Bool × List Char
  | '+' :: rest => (false, rest)
  | '-' :: rest => (true, rest)
  | rest => (false, rest)

/-- Read the exponent of a number, if there is one. -/
def scanExponent (numeral : Numeral) : List Char → NumberLexeme × List Char
  | [] => (.numeral numeral, [])
  | c :: rest =>
      if c = 'e' ∨ c = 'E' then
        let digits := (scanExponentSign rest).2.takeWhile Char.isDigit
        let left := (scanExponentSign rest).2.dropWhile Char.isDigit
        if digits.isEmpty then (.broken (digitBreak left), [])
        else (.numeral { numeral with exponent := some ((scanExponentSign rest).1, digits) }, left)
      else (.numeral numeral, c :: rest)

/-- Read the fraction of a number, if there is one, and its exponent. -/
def scanFraction (numeral : Numeral) (cs : List Char) : NumberLexeme × List Char :=
  match cs with
  | '.' :: rest =>
      let digits := rest.takeWhile Char.isDigit
      let rest := rest.dropWhile Char.isDigit
      if digits.isEmpty then (.broken (digitBreak rest), [])
      else scanExponent { numeral with fraction := digits } rest
  | cs => scanExponent numeral cs

/-- Read a number after its sign.  Only a single zero may stand in front of other digits. -/
def scanMagnitude (negative : Bool) (cs : List Char) : NumberLexeme × List Char :=
  let digits := cs.takeWhile Char.isDigit
  let rest := cs.dropWhile Char.isDigit
  if digits.isEmpty then (.broken (digitBreak rest), [])
  else if digits.head? = some '0' ∧ 1 < digits.length then (.broken .malformed, [])
  else scanFraction { negative, whole := digits } rest

/-- What a number denotes; one that is too large is malformed. -/
def NumberLexeme.value : NumberLexeme → Except Break Quantity
  | numeral n =>
      match n.quantity? with
      | some quantity => .ok quantity
      | none => .error .malformed
  | broken cause => .error cause

/-- Whether a number can be passed over. -/
def NumberLexeme.skip : NumberLexeme → Except Break Unit
  | numeral _ => .ok ()
  | broken _ => .error .malformed

/-! ### Lexemes -/

/-- A lexeme of JSON text. -/
inductive Lexeme where
  | openArray
  | closeArray
  | openObject
  | closeObject
  | comma
  | colon
  | null
  | bool (value : Bool)
  | number (lexeme : NumberLexeme)
  | string (lexeme : StringLexeme)
  /-- No lexeme, but how the text breaks if a value should begin here. -/
  | junk (cause : Break)

/-- Insignificant white space. -/
def isSpace (c : Char) : Bool := c = ' ' || c = '\t' || c = '\n' || c = '\r'

/-- The lexemes of one character. -/
def punctuation? : Char → Option Lexeme
  | '[' => some .openArray
  | ']' => some .closeArray
  | '\x7b' => some .openObject
  | '\x7d' => some .closeObject
  | ',' => some .comma
  | ':' => some .colon
  | _ => none

/-- Read the rest of a literal. -/
def scanLiteral (literal : Lexeme) : (expected : List Char) → List Char → Lexeme × List Char
  | [], rest => (literal, rest)
  | _ :: _, [] => (.junk .truncated, [])
  | e :: expected, c :: rest =>
      if c = e then scanLiteral literal expected rest else (.junk .malformed, [])

/-- Read a lexeme that begins with a character other than white space. -/
def scanLexeme (c : Char) (rest : List Char) : Lexeme × List Char :=
  match punctuation? c with
  | some lexeme => (lexeme, rest)
  | none =>
      match c with
      | '"' => let (s, rest) := scanString rest; (.string s, rest)
      | 'n' => scanLiteral .null ['u', 'l', 'l'] rest
      | 't' => scanLiteral (.bool true) ['r', 'u', 'e'] rest
      | 'f' => scanLiteral (.bool false) ['a', 'l', 's', 'e'] rest
      | '-' => let (n, rest) := scanMagnitude true rest; (.number n, rest)
      | c =>
          if c.isDigit then let (n, rest) := scanMagnitude false (c :: rest); (.number n, rest)
          else (.junk .malformed, [])

/-! ### Reading goes forward -/

theorem length_scanString_le (cs : List Char) : (scanString cs).2.length ≤ cs.length := by
  fun_induction scanString cs <;> simp_all [StringLexeme.push] <;> omega

theorem length_scanLiteral_le (literal : Lexeme) (expected cs : List Char) :
    (scanLiteral literal expected cs).2.length ≤ cs.length := by
  fun_induction scanLiteral literal expected cs with
  | case1 => simp
  | case2 => simp
  | case3 expected c rest ih => exact Nat.le_succ_of_le ih
  | case4 => simp

theorem length_dropWhile_le (p : Char → Bool) (cs : List Char) :
    (cs.dropWhile p).length ≤ cs.length :=
  (List.dropWhile_sublist p).length_le

theorem length_scanExponentSign_le (cs : List Char) :
    (scanExponentSign cs).2.length ≤ cs.length := by
  unfold scanExponentSign
  split <;> simp

theorem length_scanExponent_le (numeral : Numeral) (cs : List Char) :
    (scanExponent numeral cs).2.length ≤ cs.length := by
  unfold scanExponent
  split
  · simp
  · rename_i c rest
    have := length_dropWhile_le Char.isDigit (scanExponentSign rest).2
    have := length_scanExponentSign_le rest
    dsimp only
    split
    · split
      · simp
      · simp only [List.length_cons]
        omega
    · simp

theorem length_scanFraction_le (numeral : Numeral) (cs : List Char) :
    (scanFraction numeral cs).2.length ≤ cs.length := by
  unfold scanFraction
  split
  · rename_i rest
    have := length_dropWhile_le Char.isDigit rest
    have := length_scanExponent_le { numeral with fraction := rest.takeWhile Char.isDigit }
      (rest.dropWhile Char.isDigit)
    dsimp only
    split
    · simp
    · simp only [List.length_cons]
      omega
  · exact length_scanExponent_le numeral cs

/-- A number that begins with a digit leaves less than all characters. -/
theorem length_scanMagnitude_le (negative : Bool) (cs : List Char) :
    (scanMagnitude negative cs).2.length ≤ (cs.dropWhile Char.isDigit).length := by
  unfold scanMagnitude
  dsimp only
  split
  · simp
  · split
    · simp
    · exact length_scanFraction_le _ _

theorem length_scanLexeme_le (c : Char) (rest : List Char) :
    (scanLexeme c rest).2.length ≤ rest.length := by
  unfold scanLexeme
  split
  · simp
  · split
    · exact length_scanString_le rest
    · exact length_scanLiteral_le _ _ rest
    · exact length_scanLiteral_le _ _ rest
    · exact length_scanLiteral_le _ _ rest
    · exact Nat.le_trans (length_scanMagnitude_le true rest) (length_dropWhile_le Char.isDigit rest)
    · split
      · rename_i h
        refine Nat.le_trans (length_scanMagnitude_le false (c :: rest)) ?_
        rw [List.dropWhile_cons_of_pos h]
        exact length_dropWhile_le Char.isDigit rest
      · simp

/-- The lexemes of a text. -/
def lexemes : List Char → List Lexeme
  | [] => []
  | c :: rest =>
      if isSpace c then lexemes rest
      else (scanLexeme c rest).1 :: lexemes (scanLexeme c rest).2
termination_by cs => cs.length
decreasing_by
  · simp
  · have := length_scanLexeme_le c rest
    simp only [List.length_cons]
    omega

end NativeBindings.Json
