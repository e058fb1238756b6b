/-
NativeBindings/Json/Record.lean

Records of a document.  A record format lists the fields of a record in their order, each with a
name, a reader, a writer and, unless the field is required, a default.  A record is written as the
object of all its fields.  It is read from an object, whose members may stand in any order, or from
the array of its fields, in which trailing optional fields may be left out.
-/
import NativeBindings.Json.Reader
import NativeBindings.Json.Value

namespace NativeBindings.Json

/-- A field of a record. -/
structure FieldFormat (α : Type) where
  name : String
  read : Reader α
  write : α → Json
  /-- The value of a field that is left out; a field without one is required. -/
  default : Option α := none

/-- The fields of a record, whose types are listed. -/
inductive Fields : List Type → Type 1 where
  | nil : Fields []
  | cons {α : Type} {αs : List Type} (field : FieldFormat α) (rest : Fields αs) : Fields (α :: αs)

/-- One value for each field. -/
def Values : List Type → Type
  | [] => Unit
  | α :: αs => α × Values αs

/-- A value for each field that has been read. -/
def Slots : List Type → Type
  | [] => Unit
  | α :: αs => Option α × Slots αs

namespace Fields

/-- No field has been read. -/
def empty : {αs : List Type} → Fields αs → Slots αs
  | _, nil => ()
  | _, cons _ rest => (none, rest.empty)

/-- The names of the fields. -/
def names : {αs : List Type} → Fields αs → List String
  | _, nil => []
  | _, cons field rest => field.name :: rest.names

/-- Read a member into the slot of its field; none if there is no such field.  A field is read once
only. -/
def place (key : String) (node : Node) :
    {αs : List Type} → Fields αs → Slots αs → Option (Except Fault (Slots αs))
  | _, nil, () => none
  | _, cons field rest, (slot, slots) =>
      if key = field.name then
        some <|
          if slot.isSome then .error (.shape (.duplicateField key))
          else do return (some (← field.read node), slots)
      else (rest.place key node slots).map fun result => do return (slot, ← result)

/-- Complete the slots by the defaults, from the first field to the last. -/
def complete : {αs : List Type} → Fields αs → Slots αs → Except Fault (Values αs)
  | _, nil, () => .ok ()
  | _, cons field rest, (slot, slots) => do
      let value ← match slot, field.default with
        | some value, _ => pure value
        | none, some value => pure value
        | none, none => throw (.shape (.missingField field.name))
      return (value, ← rest.complete slots)

/-- Read the items of an array as the fields, the first of them at `position`; what is left over of
the items is returned. -/
def readItems (record : String) (total : Nat) (ending : Option Break) :
    {αs : List Type} → (position : Nat) → Fields αs → List Node →
      Except Fault (Values αs × List Node)
  | _, _, nil, items => .ok ((), items)
  | _, position, cons field rest, node :: items => do
      let value ← field.read node
      let (values, left) ← rest.readItems record total ending (position + 1) items
      return ((value, values), left)
  | _, position, cons field rest, [] => do
      checkEnding ending
      match field.default with
      | some value =>
          let (values, left) ← rest.readItems record total ending (position + 1) []
          return ((value, values), left)
      | none => throw (.shape (.wrongLength position record total))

/-- The members that spell all fields. -/
def write : {αs : List Type} → Fields αs → Values αs → List (String × Json)
  | _, nil, () => []
  | _, cons field rest, (value, values) => (field.name, field.write value) :: rest.write values

end Fields

/-- How a record stands in a document. -/
structure Format (ρ : Type) where
  /-- The name of the record in reports. -/
  name : String
  types : List Type
  fields : Fields types
  ofValues : Values types → ρ
  toValues : ρ → Values types
  /-- Whether a key that is no field is refused. -/
  closed : Bool := false

namespace Format

variable {ρ : Type} (format : Format ρ)

/-- Read the members of an object into slots. -/
def readMembers :
    List (StringLexeme × Node) → Slots format.types → Except Fault (Slots format.types)
  | [], slots => .ok slots
  | (key, node) :: rest, slots => do
      let key ← orBroken key.value
      match format.fields.place key node slots with
      | some result => readMembers rest (← result)
      | none =>
          if format.closed then throw (.shape (.unknownField key format.fields.names))
          else
            node.skip
            readMembers rest slots

/-- Read a record. -/
def read : Reader ρ
  | .array items ending => do
      let (values, left) ←
        format.fields.readItems format.name format.types.length ending 0 items
      if left.isEmpty then
        checkEnding ending
        return format.ofValues values
      else throw (.broken .malformed)
  | .object members ending => do
      let slots ← format.readMembers members format.fields.empty
      checkEnding ending
      return format.ofValues (← format.fields.complete slots)
  | node => refuse ("struct " ++ format.name) node

/-- Write a record with all its fields. -/
def write (record : ρ) : Json :=
  .object (format.fields.write (format.toValues record))

/-- Read the text of a document that is one record. -/
def readDocument (text : String) : Except Fault ρ := do
  let parsed := parse text
  let record ← format.read parsed.root
  checkEnding parsed.trailing
  return record

end Format

end NativeBindings.Json
