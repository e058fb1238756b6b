/-
NativeBindings/Proofs/Json/Grammar.lean

The grammar of JSON texts.  It says which texts are values and which texts spell a string, without
saying how they are read.  A value may have white space around it wherever it stands, and a string
may be spelled in many ways: a character as itself, by a short escape, by the code of its unit, or
by those of a pair of units.

A text is a string as soon as its escapes are well formed (`IsString`).  That it spells a string of
characters is more, since half of a pair of units stands for no character (`SpellsString`).

A record is told by its cells, and they can be spelled as the members of an object or as the items of
an array (`SpellsRecord`).
-/
import NativeBindings.Json.Lexeme
import Mathlib.Data.List.Forall2
import Mathlib.Data.List.ReduceOption

namespace NativeBindings.Json

open Text

/-! ### White space and punctuation -/

/-- White space that means nothing. -/
def IsWhite (text : String) : Prop :=
  ∀ c ∈ text.toList, c = ' ' ∨ c = '\t' ∨ c = '\n' ∨ c = '\r'

instance (text : String) : Decidable (IsWhite text) :=
  List.decidableBAll (fun c => c = ' ' ∨ c = '\t' ∨ c = '\n' ∨ c = '\r') text.toList

/-- A text with white space around it. -/
def IsPadded (text padded : String) : Prop :=
  ∃ before after, IsWhite before ∧ IsWhite after ∧ padded = before ++ text ++ after

/-- Parts between brackets, each with white space around it, and with commas between them. -/
def Enclosed (opening closing : String) (parts : List String) (text : String) : Prop :=
  ∃ gap padded, IsWhite gap ∧ List.Forall₂ IsPadded parts padded ∧
    text = opening ++ gap ++ ",".intercalate padded ++ closing

theorem isPadded_self (text : String) : IsPadded text text :=
  ⟨"", "", by decide, by decide, by simp⟩

/-- Parts may be enclosed without white space. -/
theorem enclosed_intercalate (opening closing : String) (parts : List String) :
    Enclosed opening closing parts (opening ++ ",".intercalate parts ++ closing) :=
  ⟨"", parts, by decide, List.forall₂_same.mpr fun part _ => isPadded_self part, by simp⟩

/-- The text of a member of an object, with its key and its value. -/
structure MemberText where
  key : String
  value : String
  text : String

/-- The key, a colon and the value, with white space around the colon. -/
def MemberText.IsJoined (member : MemberText) : Prop :=
  ∃ before after, IsWhite before ∧ IsWhite after ∧
    member.text = member.key ++ before ++ ":" ++ after ++ member.value

/-- A member without white space. -/
def MemberText.plain (key value : String) : MemberText where
  key := key
  value := value
  text := key ++ ":" ++ value

theorem isJoined_plain (key value : String) : (MemberText.plain key value).IsJoined :=
  ⟨"", "", by decide, by decide, by simp [MemberText.plain]⟩

/-! ### Strings -/

/-- The characters behind a backslash, each with the character that it means there. -/
def shortEscapes : List (Char × Char) :=
  [('"', '"'), ('\\', '\\'), ('/', '/'), ('b', '\x08'), ('f', '\x0C'), ('n', '\n'), ('r', '\r'),
    ('t', '\t')]

/-- How the parts of a string are spelled. -/
inductive SpellsPiece : Piece → String → Prop where
  | plain {c : Char} (hcontrol : 0x20 ≤ c.toNat) (hquote : c ≠ '"') (hbackslash : c ≠ '\\') :
      SpellsPiece (.char c) (String.ofList [c])
  | short {c d : Char} (h : (c, d) ∈ shortEscapes) : SpellsPiece (.char d) (String.ofList ['\\', c])
  | unit {a b c d : Char} {w x y z : Nat} (ha : hexValue? a = some w) (hb : hexValue? b = some x)
      (hc : hexValue? c = some y) (hd : hexValue? d = some z) :
      SpellsPiece (.unit (4096 * w + 256 * x + 16 * y + z)) (String.ofList ['\\', 'u', a, b, c, d])

/-- The text of a string, between quotes. -/
def SpellsPieces (pieces : List Piece) (text : String) : Prop :=
  ∃ spelled, List.Forall₂ SpellsPiece pieces spelled ∧ text = "\"" ++ String.join spelled ++ "\""

/-- A string, whatever its code units are. -/
def IsString (text : String) : Prop := ∃ pieces, SpellsPieces pieces text

/-- The characters that the parts of a string mean.  A code unit is a character by itself or half of
a pair, of which the first one counts in steps of 1024. -/
inductive Denotes : List Piece → List Char → Prop where
  | nil : Denotes [] []
  | char (c : Char) {pieces : List Piece} {chars : List Char} (h : Denotes pieces chars) :
      Denotes (.char c :: pieces) (c :: chars)
  | unit {code : Nat} (hcode : code < 0xD800 ∨ 0xDFFF < code) {pieces : List Piece}
      {chars : List Char} (h : Denotes pieces chars) :
      Denotes (.unit code :: pieces) (Char.ofNat code :: chars)
  | pair {leading trailing : Nat} (hleading : 0xD800 ≤ leading ∧ leading ≤ 0xDBFF)
      (htrailing : 0xDC00 ≤ trailing ∧ trailing ≤ 0xDFFF) {pieces : List Piece}
      {chars : List Char} (h : Denotes pieces chars) :
      Denotes (.unit leading :: .unit trailing :: pieces)
        (Char.ofNat (0x10000 + 0x400 * (leading - 0xD800) + (trailing - 0xDC00)) :: chars)

/-- A text that spells a string of characters. -/
def SpellsString (s text : String) : Prop :=
  ∃ pieces, Denotes pieces s.toList ∧ SpellsPieces pieces text

/-! ### Numbers -/

/-- Decimal digits, at least one. -/
def IsDigits (digits : String) : Prop := digits ≠ "" ∧ ∀ c ∈ digits.toList, c.isDigit = true

instance (digits : String) : Decidable (IsDigits digits) :=
  @instDecidableAnd _ _ inferInstance
    (List.decidableBAll (fun c => c.isDigit = true) digits.toList)

/-- What may stand between the whole digits of a number and its exponent. -/
inductive IsFraction : String → Prop where
  | none : IsFraction ""
  | some {digits : String} (h : IsDigits digits) : IsFraction ("." ++ digits)

/-- What may stand at the end of a number. -/
inductive IsExponent : String → Prop where
  | none : IsExponent ""
  | some {mark sign digits : String} (hmark : mark = "e" ∨ mark = "E")
      (hsign : sign = "" ∨ sign = "+" ∨ sign = "-") (h : IsDigits digits) :
      IsExponent (mark ++ sign ++ digits)

/-- A number.  No other digit stands behind a zero in front. -/
def IsNumber (text : String) : Prop :=
  ∃ sign whole fraction exponent, (sign = "" ∨ sign = "-") ∧ IsDigits whole ∧
    (whole.toList.head? = some '0' → whole = "0") ∧ IsFraction fraction ∧ IsExponent exponent ∧
    text = sign ++ whole ++ fraction ++ exponent

/-! ### Values -/

/-- A text that is a JSON value, of any depth. -/
inductive IsValue : String → Prop where
  | null : IsValue "null"
  | true : IsValue "true"
  | false : IsValue "false"
  | number {text : String} (h : IsNumber text) : IsValue text
  | string {text : String} (h : IsString text) : IsValue text
  | array {items : List String} {text : String} (hitems : ∀ item ∈ items, IsValue item)
      (h : Enclosed "[" "]" items text) : IsValue text
  | object {members : List MemberText} {text : String}
      (hkeys : ∀ member ∈ members, IsString member.key)
      (hvalues : ∀ member ∈ members, IsValue member.value)
      (hmembers : ∀ member ∈ members, member.IsJoined)
      (h : Enclosed "\x7b" "\x7d" (members.map MemberText.text) text) : IsValue text

/-! ### Records -/

/-- One of the values of a record, in the order of the declaration. -/
structure Cell where
  /-- The key under which it stands in an object. -/
  name : String
  /-- It may be left out, and it has the value that it has then. -/
  omissible : Prop
  spells : String → Prop

/-- A cell with its member, or one that is left out. -/
def Cell.IsWritten (cell : Cell) : Option MemberText → Prop
  | none => cell.omissible
  | some member =>
      SpellsString cell.name member.key ∧ cell.spells member.value ∧ member.IsJoined

/-- A member whose key is that of no cell, with any value. -/
structure IsForeign (cells : List Cell) (key : String) (member : MemberText) : Prop where
  not_mem : key ∉ cells.map Cell.name
  spells_key : SpellsString key member.key
  isValue : IsValue member.value
  isJoined : member.IsJoined

/-- An object with members for cells and for foreign keys, in any order. -/
def SpellsObject (cells : List Cell) (foreign : List String) (text : String) : Prop :=
  ∃ (own : List (Option MemberText)) (others members : List MemberText),
    List.Forall₂ Cell.IsWritten cells own ∧ List.Forall₂ (IsForeign cells) foreign others ∧
    members.Perm (own.reduceOption ++ others) ∧
    Enclosed "\x7b" "\x7d" (members.map MemberText.text) text

/-- An array of cells in their order, of which the last ones may be left out. -/
def SpellsArray (cells : List Cell) (text : String) : Prop :=
  ∃ (written left : List Cell) (items : List String), cells = written ++ left ∧
    (∀ cell ∈ left, cell.omissible) ∧ List.Forall₂ Cell.spells written items ∧
    Enclosed "[" "]" items text

/-- A record, with foreign keys if it is an object. -/
def SpellsRecord (cells : List Cell) (text : String) : Prop :=
  (∃ foreign, SpellsObject cells foreign text) ∨ SpellsArray cells text

/-- A list of values. -/
def SpellsList {α : Type} (spells : α → String → Prop) (values : List α) (text : String) : Prop :=
  ∃ items, List.Forall₂ spells values items ∧ Enclosed "[" "]" items text

/-- A number without sign, fraction and exponent. -/
def SpellsNumber (n : Nat) (text : String) : Prop := text = toString n

/-- A truth value. -/
def SpellsBool (b : Bool) (text : String) : Prop := text = if b then "true" else "false"

namespace Cell

/-- A string that has to be given. -/
def string (name value : String) : Cell where
  name := name
  omissible := False
  spells := SpellsString value

/-- A string that is empty if it is left out. -/
def stringOrEmpty (name value : String) : Cell where
  name := name
  omissible := value = ""
  spells := SpellsString value

/-- A truth value that is false if it is left out. -/
def flag (name : String) (value : Bool) : Cell where
  name := name
  omissible := value = false
  spells := SpellsBool value

/-- A number that has to be given. -/
def number (name : String) (value : Nat) : Cell where
  name := name
  omissible := False
  spells := SpellsNumber value

/-- A list that is empty if it is left out. -/
def list {α : Type} (name : String) (spells : α → String → Prop) (values : List α) : Cell where
  name := name
  omissible := values = []
  spells := SpellsList spells values

/-- A record that has to be given. -/
def record (name : String) (cells : List Cell) : Cell where
  name := name
  omissible := False
  spells := SpellsRecord cells

end Cell

end NativeBindings.Json
