/-
NativeBindings/Json/Node.lean

The tree of a JSON text.  A text that breaks still has a tree: it holds everything up to the place
where the text breaks, and at that place the break itself.  A reader that walks the tree in the
order of the text therefore meets a wrong shape before a later break, and a break before a later
wrong shape.

The tree is built from the lexemes one by one, with the open arrays and objects on a stack.
-/
import NativeBindings.Json.Lexeme

namespace NativeBindings.Json

/-- A value in a text, with the break of the text if it lies inside. -/
inductive Node where
  | null
  | bool (value : Bool)
  | number (lexeme : NumberLexeme)
  | string (lexeme : StringLexeme)
  /-- The items, and how the text breaks where the next item or the end should stand. -/
  | array (items : List Node) (ending : Option Break)
  /-- The members, and how the text breaks where the next member or the end should stand. -/
  | object (members : List (StringLexeme × Node)) (ending : Option Break)
  /-- The text breaks where a value should begin. -/
  | gap (cause : Break)

/-- An array or object that is open, with its items or members so far, the last one first. -/
inductive Frame where
  | items (before : List Node)
  | member (before : List (StringLexeme × Node)) (name : StringLexeme)

/-- What is expected next, below it the open arrays and objects. -/
inductive Expectation where
  /-- A value. -/
  | value (stack : List Frame)
  /-- The first item of an array, or its end. -/
  | firstItem (stack : List Frame)
  /-- The first member of an object, or its end. -/
  | firstMember (stack : List Frame)
  /-- The key of a member after a comma. -/
  | key (before : List (StringLexeme × Node)) (stack : List Frame)
  /-- The colon after a key. -/
  | colon (before : List (StringLexeme × Node)) (name : StringLexeme) (stack : List Frame)
  /-- What follows a complete value: a comma, the end of what is open, or the end of the text. -/
  | after (node : Node) (stack : List Frame)

/-- Close everything that is open around a node in which the text breaks. -/
def closeBroken (cause : Break) (node : Node) : List Frame → Node
  | [] => node
  | .items before :: stack =>
      closeBroken cause (.array (node :: before).reverse (some cause)) stack
  | .member before name :: stack =>
      closeBroken cause (.object ((name, node) :: before).reverse (some cause)) stack

/-- The tree of a text that breaks at the current place. -/
def Expectation.stop (cause : Break) : Expectation → Node
  | value stack => closeBroken cause (.gap cause) stack
  | firstItem stack => closeBroken cause (.array [] (some cause)) stack
  | firstMember stack => closeBroken cause (.object [] (some cause)) stack
  | key before stack => closeBroken cause (.object before.reverse (some cause)) stack
  | colon before name stack =>
      closeBroken cause (.object ((name, .gap cause) :: before).reverse (some cause)) stack
  | after node stack => closeBroken cause node stack

/-- The node that a lexeme makes by itself. -/
def Lexeme.scalar? : Lexeme → Option Node
  | null => some .null
  | bool b => some (.bool b)
  | number n => some (.number n)
  | string s => some (.string s)
  | junk cause => some (.gap cause)
  | _ => none

/-- Where a value should begin: the next expectation, or none if no value begins so. -/
def beginValue (stack : List Frame) : Lexeme → Option Expectation
  | .openArray => some (.firstItem stack)
  | .openObject => some (.firstMember stack)
  | lexeme => lexeme.scalar?.map (.after · stack)

/-- Take one lexeme; none if it cannot stand here. -/
def Expectation.take : Expectation → Lexeme → Option Expectation
  | value stack, lexeme => beginValue stack lexeme
  | firstItem stack, .closeArray => some (.after (.array [] none) stack)
  | firstItem stack, lexeme => beginValue (.items [] :: stack) lexeme
  | firstMember stack, .closeObject => some (.after (.object [] none) stack)
  | firstMember stack, .string s => some (.colon [] s stack)
  | key before stack, .string s => some (.colon before s stack)
  | colon before name stack, .colon => some (.value (.member before name :: stack))
  | after node (.items before :: stack), .comma => some (.value (.items (node :: before) :: stack))
  | after node (.items before :: stack), .closeArray =>
      some (.after (.array (node :: before).reverse none) stack)
  | after node (.member before name :: stack), .comma =>
      some (.key ((name, node) :: before) stack)
  | after node (.member before name :: stack), .closeObject =>
      some (.after (.object ((name, node) :: before).reverse none) stack)
  | _, _ => none

/-- A text as one value and, if it goes on behind the value, how it breaks there. -/
structure Parsed where
  root : Node
  trailing : Option Break := none

/-- The tree of the lexemes that follow. -/
def Expectation.run : Expectation → List Lexeme → Parsed
  | after node [], [] => { root := node }
  | after node [], _ :: _ => { root := node, trailing := some .malformed }
  | state, [] => { root := state.stop .truncated }
  | state, lexeme :: rest =>
      match state.take lexeme with
      | some next => next.run rest
      | none => { root := state.stop .malformed }

/-- The tree of a text. -/
def parse (text : String) : Parsed :=
  (Expectation.value []).run (lexemes text.toList)

end NativeBindings.Json
