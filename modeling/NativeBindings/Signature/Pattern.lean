/-
NativeBindings/Signature/Pattern.lean

Patterns as token lists.  `tokenize` reads a pattern word by word and reports the leftmost word that
is no token; `join` writes tokens back in normal form, one blank between two of them.
-/
import NativeBindings.Signature.Token
import NativeBindings.Text.Blank

namespace NativeBindings.Signature

/-- A word of a pattern that is no token, with its place among the words counted from zero. -/
structure InvalidToken where
  token : String
  position : Nat
deriving DecidableEq

/-- The report of a word that is no token. -/
def InvalidToken.message (fault : InvalidToken) : String :=
  "invalid signature token `" ++ fault.token ++ "` at position " ++ toString fault.position

/-- Read words as tokens, the first of them at `position`. -/
def parseWords (position : Nat) : List String → Except InvalidToken (List Token)
  | [] => .ok []
  | word :: rest =>
      match Token.parse? word with
      | none => .error { token := word, position }
      | some token => (token :: ·) <$> parseWords (position + 1) rest

/-- Split a pattern into its tokens. -/
def tokenize (pattern : String) : Except InvalidToken (List Token) :=
  parseWords 0 (Text.words pattern)

/-- Tokens in normal form, one blank between two of them. -/
def join (tokens : List Token) : String :=
  " ".intercalate (tokens.map Token.text)

end NativeBindings.Signature
