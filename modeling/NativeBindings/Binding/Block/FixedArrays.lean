/-
NativeBindings/Binding/Block/FixedArrays.lean

The fixed array block: a span over each array and, where characters are kept, a string property.
The setter refuses a value that leaves no room for the terminator before it touches the array.

The terminator takes one element off the length of an array.  How that is done is a parameter of the
block (`fixedArrayBlockWith`), since a length of zero has no element to give.
-/
import NativeBindings.Binding.CallShape
import NativeBindings.Configuration.Basic
import NativeBindings.Source.Layout
import NativeBindings.Source.Literal

namespace NativeBindings.Block

open Source

/-- The property that shows an array as a span. -/
def spanProperty (array : FixedArray) : Layout :=
  Layout.item
    [.line "[global::System.Diagnostics.CodeAnalysis.UnscopedRefAttribute]",
      .line ("public global::System.Span<" ++ array.elementType ++ "> " ++ array.publicName ++
        " => " ++ array.field ++ ";")]

/-- The name of the string property of an array. -/
def stringPropertyName (array : FixedArray) : String := array.publicName ++ "String"

/-- The length of an array without the element of the terminator; zero if there is none. -/
def capacityOf (array : FixedArray) : Nat := array.length.toNat - 1

/-- The guard of a setter, for an array that takes so many units. -/
def capacityCheck (config : Configuration) (array : FixedArray) (capacity : Nat)
    (length : String) : Layout :=
  Layout.scope ("if (" ++ length ++ " > " ++ toString capacity ++ ")")
    [.line (config.runtimeType "ThrowHelper" ++ ".ThrowStringSizeTooLarge(" ++
      stringLiteral (stringPropertyName array) ++ ", " ++ toString capacity ++ ");")]

/-- The string property of an array of bytes that hold UTF-8. -/
def utf8Property (config : Configuration) (array : FixedArray) (capacity : Nat) : Layout :=
  Layout.scope "get"
      [.line ("global::System.ReadOnlySpan<byte> span = " ++ array.field ++ ";"),
        .line "int length = span.IndexOf((byte)0);",
        .line ("return global::System.Text.Encoding.UTF8.GetString(" ++
          "length < 0 ? span : span[..length]);")] ++
    Layout.scope "set"
      (.line "int length = global::System.Text.Encoding.UTF8.GetByteCount(value);" ::
        capacityCheck config array capacity "length" ++
        [.line ("global::System.Span<byte> span = " ++ array.field ++ ";"),
          .line "global::System.Text.Encoding.UTF8.GetBytes(value, span);",
          .line "span[length..].Clear();"])

/-- The string property of an array of characters that hold UTF-16. -/
def utf16Property (config : Configuration) (array : FixedArray) (capacity : Nat) : Layout :=
  Layout.scope "get"
      [.line ("global::System.ReadOnlySpan<char> span = " ++ array.field ++ ";"),
        .line "int length = span.IndexOf('\\0');",
        .line "return new string(length < 0 ? span : span[..length]);"] ++
    Layout.scope "set"
      (capacityCheck config array capacity "value.Length" ++
        [.line ("global::System.Span<char> span = " ++ array.field ++ ";"),
          .line "value.AsSpan().CopyTo(span);",
          .line "span[value.Length..].Clear();"])

/-- The scopes that read and write the string property of an array. -/
def stringAccessors (config : Configuration) (array : FixedArray) (capacity : Nat) :
    CharacterKind → Layout
  | .utf8 => utf8Property config array capacity
  | .utf16 => utf16Property config array capacity

section TakeOneOff

variable {m : Type → Type} [Monad m] (takeOneOff : FixedArray → m Nat) (config : Configuration)

/-- The string property of an array.  An array of length zero has no room for a terminator, and no
such property. -/
def stringPropertyWith (array : FixedArray) : m Layout :=
  match array.stringKind with
  | none => return []
  | some kind =>
      if array.length = 0 then return []
      else do
        let capacity ← takeOneOff array
        return Layout.item (Layout.scope ("public string " ++ stringPropertyName array)
          (stringAccessors config array capacity kind))

/-- The properties of arrays. -/
def fixedArrayBlockWith : List FixedArray → m Layout
  | [] => return []
  | array :: rest => do
      let text ← stringPropertyWith takeOneOff config array
      return spanProperty array ++ text ++ (← fixedArrayBlockWith rest)

end TakeOneOff

/-- The string property of an array, whose length is not checked again. -/
def stringProperty (config : Configuration) (array : FixedArray) : Layout :=
  Id.run (stringPropertyWith (fun array => pure (capacityOf array)) config array)

/-- The properties of all arrays. -/
def fixedArrayBlock (config : Configuration) (struct : NativeStruct) : Layout :=
  Id.run (fixedArrayBlockWith (fun array => pure (capacityOf array)) config struct.fixedArrays)

theorem stringProperty_eq (config : Configuration) (array : FixedArray) :
    stringProperty config array =
      match array.stringKind with
      | none => []
      | some kind =>
          if array.length = 0 then []
          else Layout.item (Layout.scope ("public string " ++ stringPropertyName array)
            (stringAccessors config array (capacityOf array) kind)) := by
  rw [stringProperty, stringPropertyWith]
  split
  · rfl
  · split <;> rfl

theorem fixedArrayBlock_eq_flatMap (config : Configuration) (struct : NativeStruct) :
    fixedArrayBlock config struct = struct.fixedArrays.flatMap fun array =>
      spanProperty array ++ stringProperty config array := by
  rw [fixedArrayBlock]
  induction struct.fixedArrays with
  | nil => rfl
  | cons array rest ih =>
    rw [List.flatMap_cons, ← ih]
    rfl

section Lawful

variable {m : Type → Type} [Monad m] [LawfulMonad m] {takeOneOff : FixedArray → m Nat}

/-- One element is taken off arrays that have one, and off no other ones. -/
theorem stringPropertyWith_eq {array : FixedArray}
    (h : array.length ≠ 0 → takeOneOff array = pure (capacityOf array))
    (config : Configuration) :
    stringPropertyWith takeOneOff config array = pure (stringProperty config array) := by
  rw [stringPropertyWith, stringProperty_eq]
  split
  · rfl
  · -- the guard of the property keeps an array without elements from giving one
    by_cases hlength : array.length = 0
    · rw [if_pos hlength, if_pos hlength]
    · rw [if_neg hlength, if_neg hlength, h hlength, pure_bind]

theorem fixedArrayBlockWith_eq
    (h : ∀ array : FixedArray, array.length ≠ 0 → takeOneOff array = pure (capacityOf array))
    (config : Configuration) (struct : NativeStruct) :
    fixedArrayBlockWith takeOneOff config struct.fixedArrays =
      pure (fixedArrayBlock config struct) := by
  rw [fixedArrayBlock_eq_flatMap]
  induction struct.fixedArrays with
  | nil => rfl
  | cons array rest ih =>
    rw [fixedArrayBlockWith, stringPropertyWith_eq (h array), pure_bind, ih, pure_bind,
      List.flatMap_cons]

end Lawful

end NativeBindings.Block
