/-
NativeBindings/Proofs/Binding/OverloadNames.lean

The names that a string overload declares.  An overload is the text of a method in a small syntax
(`MethodForm`): it declares its parameters, a local in some of its statements, and a pointer for each
buffer that it pins.  With the three locals of a converted parameter, it declares

    the parameters, then name ++ "Length" and name ++ "Bytes", then name ++ "Ptr".

Two locals are the same only for the same parameter, since no two endings have the same last
character.  So a name is declared twice only where a parameter has the name of a local
(`nodup_declared_iff`).
-/
import Mathlib.Data.List.Nodup
import NativeBindings.Binding.Block.StringOverloads

namespace NativeBindings.Block

open Source

/-! ### Methods as syntax -/

/-- A name with its type. -/
structure Declaration where
  type : String
  name : String
deriving DecidableEq

/-- A declaration as it is written. -/
def Declaration.text (declaration : Declaration) : String :=
  declaration.type ++ " " ++ declaration.name

/-- A statement of a method. -/
inductive Statement where
  /-- Declare a local with a value. -/
  | declare (declaration : Declaration) (value : String)
  /-- Any other statement, as it is written. -/
  | run (code : String)
deriving DecidableEq

/-- A statement as it is written. -/
def Statement.text : Statement → String
  | declare declaration value => declaration.text ++ " = " ++ value ++ ";"
  | run code => code

/-- The name of the local that a statement declares. -/
def Statement.declared? : Statement → Option String
  | declare declaration _ => some declaration.name
  | run _ => none

/-- A pointer to a buffer that is pinned. -/
structure Pin where
  pointer : String
  buffer : String
deriving DecidableEq

/-- A pin as it is written. -/
def Pin.text (pin : Pin) : String := pin.pointer ++ " = " ++ pin.buffer

/-- A method that pins buffers, after some statements, and makes a call. -/
structure MethodForm where
  /-- What stands in front of the parameters. -/
  head : String
  parameters : List Declaration
  statements : List Statement
  pins : List Pin
  call : String
deriving DecidableEq

namespace MethodForm

/-- A method as it is written. -/
def layout (method : MethodForm) : Layout :=
  Layout.item <|
    Layout.scope
      (method.head ++ "(" ++ ", ".intercalate (method.parameters.map Declaration.text) ++ ")") <|
      (method.statements.map fun statement => Step.line statement.text) ++
        Layout.scope ("fixed (byte* " ++ ", ".intercalate (method.pins.map Pin.text) ++ ")")
          [.line method.call]

/-- The names that a method declares. -/
def declared (method : MethodForm) : List String :=
  method.parameters.map Declaration.name ++
    (method.statements.filterMap Statement.declared? ++ method.pins.map Pin.pointer)

end MethodForm

/-! ### Overloads as syntax -/

/-- The statements that build the buffer of a converted parameter. -/
def bufferStatements (source : ArgumentForm) (name : String) : List Statement :=
  let length := name ++ "Length"
  [.declare { type := "int", name := length } (source.lengthExpr name),
    .declare { type := "global::System.Span<byte>", name := name ++ "Bytes" }
      (length ++ " <= " ++ toString stackLimit ++ " ? stackalloc byte[" ++ length ++
        " + 1] : new byte[" ++ length ++ " + 1]"),
    .run (source.copyStatement name),
    .run (name ++ "Bytes[" ++ length ++ "] = 0;")]

/-- What an overload writes in front of its parameters. -/
def overloadHead (overload : StringOverload) : String :=
  let modifiers := overload.method.modifiersWithoutPartial
  (if modifiers = "" then "" else modifiers ++ " ") ++
    overload.method.returnType ++ " " ++ overload.method.name

/-- The syntax of an overload. -/
def overloadForm (overload : StringOverload) (source : ArgumentForm) : MethodForm where
  head := overloadHead overload
  parameters := overload.method.parameters.map fun parameter =>
    { type := if overload.converts parameter then source.parameterType else parameter.type
      name := parameter.name }
  statements := overload.stringParameters.flatMap (bufferStatements source)
  pins := overload.stringParameters.map fun name =>
    { pointer := name ++ "Ptr", buffer := name ++ "Bytes" }
  call := overload.method.returnKeyword ++ overload.method.name ++ "(" ++
    ", ".intercalate (overloadArguments overload) ++ ");"

variable (overload : StringOverload) (source : ArgumentForm)

theorem overloadParameters_eq :
    overloadParameters overload source =
      (overloadForm overload source).parameters.map Declaration.text := by
  rw [overloadForm, List.map_map, overloadParameters]
  refine List.map_congr_left fun parameter _ => ?_
  rw [Function.comp_apply, Declaration.text]
  split <;> rfl

theorem bufferLines_eq (name : String) :
    bufferLines source name = (bufferStatements source name).map Statement.text := by
  have hint : "int " = "int" ++ " " := rfl
  have hspan : "global::System.Span<byte> " = "global::System.Span<byte>" ++ " " := rfl
  have hbytes : "Bytes = " = "Bytes" ++ " = " := rfl
  have hend : " + 1];" = " + 1]" ++ ";" := rfl
  simp only [bufferLines, bufferStatements, List.map_cons, List.map_nil, Statement.text,
    Declaration.text, hint, hspan, hbytes, hend, String.append_assoc]

theorem pin_eq (name : String) :
    pin name = Pin.text { pointer := name ++ "Ptr", buffer := name ++ "Bytes" } := by
  have hpointer : "Ptr = " = "Ptr" ++ " = " := rfl
  rw [pin, Pin.text, hpointer]
  simp only [String.append_assoc]

/-- An overload is written as its syntax says. -/
theorem overloadMethod_eq :
    overloadMethod overload source = (overloadForm overload source).layout := by
  have hlines : (overload.stringParameters.flatMap (bufferLines source)).map Step.line =
      (overloadForm overload source).statements.map fun statement => .line statement.text := by
    rw [overloadForm, List.map_flatMap, List.map_flatMap]
    refine List.flatMap_congr fun name _ => ?_
    rw [bufferLines_eq, List.map_map]
    rfl
  have hpins : overload.stringParameters.map pin =
      (overloadForm overload source).pins.map Pin.text := by
    rw [overloadForm, List.map_map]
    exact List.map_congr_left fun name _ => pin_eq name
  rw [overloadMethod, overloadHeader, overloadParameters_eq, hlines, hpins]
  rfl

/-! ### Names -/

/-- The endings of the locals of a converted parameter. -/
def localEndings : List String := ["Length", "Bytes", "Ptr"]

/-- The locals of converted parameters, in the order in which they are declared. -/
def localNames (names : List String) : List String :=
  (names.flatMap fun name => [name ++ "Length", name ++ "Bytes"]) ++ names.map (· ++ "Ptr")

variable {names : List String} {name other ending otherEnding : String}

theorem mem_localNames :
    other ∈ localNames names ↔
      ∃ name ∈ names, ∃ ending ∈ localEndings, name ++ ending = other := by
  rw [localNames, List.mem_append, List.mem_flatMap, List.mem_map]
  constructor
  · rintro (⟨name, hname, hlocal⟩ | ⟨name, hname, rfl⟩)
    · rcases List.mem_pair.mp hlocal with rfl | rfl
      · exact ⟨name, hname, "Length", by simp [localEndings], rfl⟩
      · exact ⟨name, hname, "Bytes", by simp [localEndings], rfl⟩
    · exact ⟨name, hname, "Ptr", by simp [localEndings], rfl⟩
  · rintro ⟨name, hname, ending, hending, rfl⟩
    simp only [localEndings, List.mem_cons, List.not_mem_nil, or_false] at hending
    rcases hending with rfl | rfl | rfl
    · exact .inl ⟨name, hname, List.mem_pair.mpr (.inl rfl)⟩
    · exact .inl ⟨name, hname, List.mem_pair.mpr (.inr rfl)⟩
    · exact .inr ⟨name, hname, rfl⟩

/-- The last character of a local tells its ending, and what stands before the ending is left. -/
theorem eq_of_append_ending (hending : ending ∈ localEndings) (hother : otherEnding ∈ localEndings)
    (h : name ++ ending = other ++ otherEnding) : name = other ∧ ending = otherEnding := by
  have hsome : ∀ ending ∈ localEndings, ending.toList.getLast?.isSome := by decide
  have hlast : ∀ name : String, ∀ ending ∈ localEndings,
      (name ++ ending).toList.getLast? = ending.toList.getLast? := by
    intro name ending hmem
    rw [String.toList_append, List.getLast?_append, Option.or_of_isSome (hsome ending hmem)]
  have hdistinct : ∀ ending ∈ localEndings, ∀ other ∈ localEndings,
      ending.toList.getLast? = other.toList.getLast? → ending = other := by decide
  obtain rfl : ending = otherEnding := by
    refine hdistinct ending hending otherEnding hother ?_
    rw [← hlast name ending hending, h, hlast other otherEnding hother]
  exact ⟨(String.append_left_inj ending).mp h, rfl⟩

/-- The locals of different parameters are different, and so are those of one parameter. -/
theorem nodup_localNames (h : names.Nodup) : (localNames names).Nodup := by
  have hlength : "Length" ∈ localEndings := by simp [localEndings]
  have hbytes : "Bytes" ∈ localEndings := by simp [localEndings]
  have hpointer : "Ptr" ∈ localEndings := by simp [localEndings]
  have hpair : ∀ name localName, localName ∈ [name ++ "Length", name ++ "Bytes"] →
      ∃ ending ∈ localEndings, localName = name ++ ending ∧ ending ≠ "Ptr" := by
    intro name localName hmem
    rcases List.mem_pair.mp hmem with rfl | rfl
    · exact ⟨"Length", hlength, rfl, by decide⟩
    · exact ⟨"Bytes", hbytes, rfl, by decide⟩
  refine List.nodup_append.mpr ⟨List.nodup_flatMap.mpr ⟨?_, ?_⟩, ?_, ?_⟩
  · intro name _
    refine List.nodup_cons.mpr ⟨fun hmem => ?_, List.nodup_singleton _⟩
    obtain ⟨-, heq⟩ := eq_of_append_ending hlength hbytes (List.mem_singleton.mp hmem)
    exact absurd heq (by decide)
  · refine h.imp ?_
    intro name other hne
    refine List.disjoint_left.mpr fun localName hmem hother => ?_
    obtain ⟨ending, hending, rfl, -⟩ := hpair name localName hmem
    obtain ⟨otherEnding, hotherEnding, heq, -⟩ := hpair other _ hother
    exact hne (eq_of_append_ending hending hotherEnding heq).1
  · exact h.map fun name other heq => (String.append_left_inj "Ptr").mp heq
  · rintro localName hlocal pointer hmem rfl
    obtain ⟨name, -, hmemPair⟩ := List.mem_flatMap.mp hlocal
    obtain ⟨other, -, heq⟩ := List.mem_map.mp hmem
    obtain ⟨ending, hending, rfl, hne⟩ := hpair name localName hmemPair
    exact hne (eq_of_append_ending hpointer hending heq).2.symm

theorem declared_overloadForm :
    (overloadForm overload source).declared =
      overload.method.parameters.map Parameter.name ++ localNames overload.stringParameters := by
  have hstatements : (overloadForm overload source).statements.filterMap Statement.declared? =
      overload.stringParameters.flatMap fun name => [name ++ "Length", name ++ "Bytes"] := by
    rw [overloadForm, List.filterMap_flatMap]
    rfl
  rw [MethodForm.declared, hstatements, localNames, overloadForm, List.map_map, List.map_map]
  rfl

theorem nodup_stringParameters
    (h : (overload.method.parameters.map Parameter.name).Nodup) :
    overload.stringParameters.Nodup :=
  h.sublist (List.filter_sublist.map Parameter.name)

/-- **The names that an overload declares.**  It declares its parameters and three locals for each
converted one.  If the parameters have different names, then no name is declared twice exactly if no
parameter has the name of a local. -/
theorem nodup_declared_iff (h : (overload.method.parameters.map Parameter.name).Nodup) :
    overloadMethod overload source = (overloadForm overload source).layout ∧
      (overloadForm overload source).declared =
        overload.method.parameters.map Parameter.name ++ localNames overload.stringParameters ∧
      ((overloadForm overload source).declared.Nodup ↔
        ∀ name ∈ overload.stringParameters, ∀ ending ∈ localEndings,
          name ++ ending ∉ overload.method.parameters.map Parameter.name) := by
  refine ⟨overloadMethod_eq overload source, declared_overloadForm overload source, ?_⟩
  rw [declared_overloadForm, List.nodup_append]
  constructor
  · rintro ⟨-, -, hapart⟩ name hname ending hending hmem
    exact hapart _ hmem _ (mem_localNames.mpr ⟨name, hname, ending, hending, rfl⟩) rfl
  · intro hfree
    refine ⟨h, nodup_localNames (nodup_stringParameters overload h), ?_⟩
    rintro parameter hparameter localName hlocal rfl
    obtain ⟨name, hname, ending, hending, rfl⟩ := mem_localNames.mp hlocal
    exact hfree name hname ending hending hparameter

/-- The overload of a method that prints what its parameters say. -/
def printOverload (parameters : List Parameter) : StringOverload where
  method := { name := "Print", modifiers := "public partial", returnType := "void", parameters }

/-- Two strings around a number have names of their own for all they declare. -/
theorem nodup_declared_two_strings :
    let overload := printOverload
      [{ name := "format", type := "byte*" }, { name := "count", type := "int" },
        { name := "text", type := "byte*" }]
    (overloadForm overload .text).declared =
        ["format", "count", "text", "formatLength", "formatBytes", "textLength", "textBytes",
          "formatPtr", "textPtr"] ∧
      (overloadForm overload .text).declared.Nodup := by
  intro overload
  have hnames : (overload.method.parameters.map Parameter.name).Nodup := by decide
  obtain ⟨-, hdeclared, hnodup⟩ := nodup_declared_iff overload .text hnames
  exact ⟨hdeclared, hnodup.mpr (by decide)⟩

/-- A text next to its length: both overloads declare the name `textLength` as a parameter and again
as a local. -/
theorem not_nodup_declared_text_length :
    let overload := printOverload
      [{ name := "text", type := "byte*" }, { name := "textLength", type := "int" }]
    (overload.method.parameters.map Parameter.name).Nodup ∧
      overload.stringParameters = ["text"] ∧
      ¬ (overloadForm overload .text).declared.Nodup ∧
      ¬ (overloadForm overload .bytes).declared.Nodup := by
  intro overload
  rw [declared_overloadForm, declared_overloadForm]
  decide

end NativeBindings.Block
