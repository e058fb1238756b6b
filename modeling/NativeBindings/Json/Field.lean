/-
NativeBindings/Json/Field.lean

The kinds of fields that records are made of.
-/
import NativeBindings.Json.Record

namespace NativeBindings.Json

/-- A field that holds a string. -/
def FieldFormat.string (name : String) (default : Option String := none) : FieldFormat String :=
  { name, read := readString, write := .string, default }

/-- A field that holds a truth value. -/
def FieldFormat.bool (name : String) (default : Bool) : FieldFormat Bool :=
  { name, read := readBool, write := .bool, default := some default }

/-- A field that holds a number of 32 bits. -/
def FieldFormat.uint32 (name : String) (default : Option UInt32 := none) : FieldFormat UInt32 :=
  { name, read := readUInt32, write := fun n => .number n.toNat, default }

/-- A field that holds a list of scalars; left out, it is empty. -/
def FieldFormat.list {α : Type} (name : String) (read : Reader α) (write : α → Json) :
    FieldFormat (List α) :=
  { name, read := readList read, write := fun as => .array (as.map write), default := some [] }

/-- A required field that holds a record. -/
def FieldFormat.record {ρ : Type} (name : String) (format : Format ρ) : FieldFormat ρ :=
  { name, read := format.read, write := format.write }

/-- A field that holds a list of records; left out, it is empty. -/
def FieldFormat.records {ρ : Type} (name : String) (format : Format ρ) : FieldFormat (List ρ) :=
  list name format.read format.write

end NativeBindings.Json
