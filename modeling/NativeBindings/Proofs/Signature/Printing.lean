/-
NativeBindings/Proofs/Signature/Printing.lean

The tokenizer undoes the printer: all 257 tokens are read back from their normal form
(`parse?_text`), each of them is one word of a pattern (`isWord_chars`), and so any list of tokens
is what the tokenizer finds in its joined text (`tokenize_join`).
-/
import NativeBindings.Signature.Pattern
import NativeBindings.Proofs.Text.Digits
import NativeBindings.Proofs.Text.Words

namespace NativeBindings.Signature

open Text

namespace Token

/-! ### One token -/

theorem chars_byte (value : UInt8) :
    (byte value).chars = [hexDigit (value.toNat / 16 % 16), hexDigit (value.toNat % 16)] := rfl

/-- Two digits are read as one byte. -/
theorem parse?_pair {high low : Char} {m n : Nat} (hhigh : hexValue? high = some m)
    (hlow : hexValue? low = some n) :
    parse? (String.ofList [high, low]) = some (byte (UInt8.ofNat (16 * m + n))) := by
  -- a question mark is no digit, so the pair is not the wildcard
  have hmark : high ≠ '?' := by
    rintro rfl
    cases hhigh
  rw [parse?, String.toList_ofList]
  simp [hmark, hhigh, hlow]

@[simp] theorem parse?_text (token : Token) : parse? token.text = some token := by
  cases token with
  | wildcard => rfl
  | byte value =>
    have hlt := value.toNat_lt
    have hhigh := hexValue?_hexDigit (Nat.mod_lt (value.toNat / 16) (by decide : 0 < 16))
    have hlow := hexValue?_hexDigit (Nat.mod_lt value.toNat (by decide : 0 < 16))
    have hvalue : 16 * (value.toNat / 16 % 16) + value.toNat % 16 = value.toNat := by omega
    rw [text, chars_byte, parse?_pair hhigh hlow, hvalue, UInt8.ofNat_toNat]

/-- A token is one word. -/
theorem isWord_chars (token : Token) : IsWord token.chars := by
  cases token with
  | wildcard =>
    have hmark : isBlank '?' = false := by decide
    exact ⟨List.cons_ne_nil _ _, by simp [chars, hmark]⟩
  | byte value =>
    refine ⟨by simp [chars_byte], fun c hc => ?_⟩
    obtain ⟨n, hn, rfl⟩ := exists_of_mem_hexDigits hc
    exact isBlank_hexDigit hn

end Token

/-! ### Token lists -/

theorem words_join (tokens : List Token) : words (join tokens) = tokens.map Token.text := by
  apply words_intercalate
  intro word hword
  obtain ⟨token, -, rfl⟩ := List.mem_map.mp hword
  rw [Token.text, String.toList_ofList]
  exact token.isWord_chars

theorem parseWords_map_text (tokens : List Token) (position : Nat) :
    parseWords position (tokens.map Token.text) = .ok tokens := by
  induction tokens generalizing position with
  | nil => rfl
  | cons token tokens ih =>
    rw [List.map_cons, parseWords, Token.parse?_text]
    show (token :: ·) <$> parseWords (position + 1) (tokens.map Token.text) = .ok (token :: tokens)
    rw [ih]
    rfl

/-- **The tokenizer undoes the printer.** -/
theorem tokenize_join (tokens : List Token) : tokenize (join tokens) = .ok tokens := by
  rw [tokenize, words_join]
  exact parseWords_map_text tokens 0

end NativeBindings.Signature
