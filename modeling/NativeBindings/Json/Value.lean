/-
NativeBindings/Json/Value.lean

JSON values and their compact text.
-/

namespace NativeBindings

/-- A JSON value; the members of an object stand in the order in which they are written. -/
inductive Json where
  | null
  | bool (value : Bool)
  | number (value : Nat)
  | string (value : String)
  | array (items : List Json)
  | object (members : List (String × Json))

namespace Json

/-- The spelling of a code below the blank: four digits, of which the last two can differ from
zero. -/
def controlEscape (n : Nat) : String :=
  "\\u00" ++ (if n < 0x10 then "0" else "1") ++ String.ofList (Nat.toDigits 16 (n % 0x10))

/-- The spelling of a character inside a string: a short escape where there is one, the code in four
digits for the other characters below the blank, and itself otherwise. -/
def escapeChar (c : Char) : String :=
  match c with
  | '"' => "\\\""
  | '\\' => "\\\\"
  | '\n' => "\\n"
  | '\r' => "\\r"
  | '\t' => "\\t"
  | '\x08' => "\\b"
  | '\x0C' => "\\f"
  | c => if c.toNat < 0x20 then controlEscape c.toNat else c.toString

/-- The text of a string. -/
def renderString (s : String) : String :=
  "\"" ++ String.join (s.toList.map escapeChar) ++ "\""

mutual

/-- The text of a value, without white space. -/
def render : Json → String
  | null => "null"
  | bool true => "true"
  | bool false => "false"
  | number n => toString n
  | string s => renderString s
  | array items => "[" ++ ",".intercalate (renderItems items) ++ "]"
  | object members => "\x7b" ++ ",".intercalate (renderMembers members) ++ "\x7d"

/-- The texts of the items of an array. -/
def renderItems : List Json → List String
  | [] => []
  | item :: rest => render item :: renderItems rest

/-- The texts of the members of an object. -/
def renderMembers : List (String × Json) → List String
  | [] => []
  | (key, value) :: rest => (renderString key ++ ":" ++ render value) :: renderMembers rest

end

end Json

end NativeBindings
