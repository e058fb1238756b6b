/-
NativeBindings/Json/Reader.lean

Readers of scalars and lists, which report the first problem in the order of the text, and the check
of a value that is passed over.
-/
import NativeBindings.Json.Node

namespace NativeBindings.Json

/-- Reads a value of a document. -/
abbrev Reader (α : Type) := Node → Except Fault α

/-- Report a break where it lies. -/
def orBroken {α : Type} : Except Break α → Except Fault α
  | .ok a => .ok a
  | .error cause => .error (.broken cause)

/-- The end of an array or object. -/
def checkEnding : Option Break → Except Fault Unit
  | none => .ok ()
  | some cause => .error (.broken cause)

/-! ### Values that are passed over -/

mutual

/-- The first break inside a value. -/
def Node.skip : Node → Except Fault Unit
  | .null => .ok ()
  | .bool _ => .ok ()
  | .number lexeme => orBroken lexeme.skip
  | .string lexeme => orBroken lexeme.skip
  | .array items ending => do
      skipItems items
      checkEnding ending
  | .object members ending => do
      skipMembers members
      checkEnding ending
  | .gap cause => .error (.broken cause)

/-- The first break inside the items of an array. -/
def skipItems : List Node → Except Fault Unit
  | [] => .ok ()
  | node :: rest => do
      node.skip
      skipItems rest

/-- The first break inside the members of an object. -/
def skipMembers : List (StringLexeme × Node) → Except Fault Unit
  | [] => .ok ()
  | (key, node) :: rest => do
      orBroken key.skip
      node.skip
      skipMembers rest

end

/-! ### Scalars -/

/-- Refuse a value of the wrong kind.  A scalar is read to its end first, for the report names
it. -/
def refuse {α : Type} (expected : String) (node : Node) : Except Fault α := do
  let found ← match node with
    | .null => pure Kind.null
    | .bool b => pure (Kind.boolean b)
    | .number lexeme => Kind.quantity <$> orBroken lexeme.value
    | .string lexeme => Kind.text <$> orBroken lexeme.value
    | .array _ _ => pure Kind.sequence
    | .object _ _ => pure Kind.map
    | .gap cause => throw (.broken cause)
  throw (.shape (.wrongKind found expected))

/-- Read a string. -/
def readString : Reader String
  | .string lexeme => orBroken lexeme.value
  | node => refuse "a string" node

/-- Read a truth value. -/
def readBool : Reader Bool
  | .bool b => .ok b
  | node => refuse "a boolean" node

/-- Read a natural number below a bound. -/
def readBelow (bound : Nat) (expected : String) : Reader Nat
  | .number lexeme => do
      match ← orBroken lexeme.value with
      | .integer n =>
          if 0 ≤ n ∧ n < bound then .ok n.toNat
          else .error (.shape (.outOfRange n expected))
      | quantity => .error (.shape (.wrongKind (.quantity quantity) expected))
  | node => refuse expected node

/-- Read a number of eight bits. -/
def readUInt8 : Reader UInt8 := fun node => UInt8.ofNat <$> readBelow UInt8.size "u8" node

/-- Read a number of 32 bits. -/
def readUInt32 : Reader UInt32 := fun node => UInt32.ofNat <$> readBelow UInt32.size "u32" node

/-! ### Lists and optional values -/

/-- Read the items of an array one by one. -/
def readItems {α : Type} (read : Reader α) : List Node → Except Fault (List α)
  | [] => .ok []
  | node :: rest => do
      let a ← read node
      let as ← readItems read rest
      return a :: as

/-- Read a list. -/
def readList {α : Type} (read : Reader α) : Reader (List α)
  | .array items ending => do
      let as ← readItems read items
      checkEnding ending
      return as
  | node => refuse "a sequence" node

/-- Read a value that may be null. -/
def readOption {α : Type} (read : Reader α) : Reader (Option α)
  | .null => .ok none
  | node => some <$> read node

end NativeBindings.Json
