/-
NativeBindings/Proofs/NativeStruct/DocumentSpelling.lean

All spellings of a descriptor document mean the same.  For each record it is said which cells it has:
their keys, which of them may be left out, and how they are spelled.  With this a document may order
its keys, leave out what is the default, write records as arrays, hold foreign keys inside structs,
and have white space everywhere, and it is still read as the structs that it spells
(`readDocument_spellings`).  A foreign key at the top is refused.  The document that is written for
structs is one of their spellings (`spellsDocument_writeDocument`).
-/
import NativeBindings.Proofs.Json.RecordSpelling
import NativeBindings.Proofs.NativeStruct.DocumentRoundTrip

namespace NativeBindings

open Json

/-! ### The cells of the records -/

/-- The cells of a signature. -/
def Signature.cells (signature : Signature) : List Cell :=
  [.string "pattern" signature.pattern,
    .list "relocation_offsets" (fun n : UInt8 => SpellsNumber n.toNat)
      signature.relocationOffsets]

/-- The cells of a parameter. -/
def Parameter.cells (parameter : Parameter) : List Cell :=
  [.string "name" parameter.name, .string "type" parameter.type]

/-- The cells of a method. -/
def Method.cells (method : Method) : List Cell :=
  [.string "name" method.name, .string "modifiers" method.modifiers,
    .string "return_type" method.returnType,
    .list "parameters" (fun parameter => SpellsRecord parameter.cells) method.parameters,
    .flag "is_static" method.isStatic]

/-- The cells of a member function. -/
def MemberFunction.cells (function : MemberFunction) : List Cell :=
  [.record "method" function.method.cells, .record "signature" function.signature.cells]

/-- The cells of a virtual function. -/
def VirtualFunction.cells (function : VirtualFunction) : List Cell :=
  [.record "method" function.method.cells, .number "index" function.index.toNat]

/-- The cells of a static address. -/
def StaticAddress.cells (address : StaticAddress) : List Cell :=
  [.record "method" address.method.cells, .record "signature" address.signature.cells,
    .flag "is_pointer" address.isPointer]

/-- The cells of a string overload. -/
def StringOverload.cells (overload : StringOverload) : List Cell :=
  [.record "method" overload.method.cells,
    .list "ignored_parameters" SpellsString overload.ignoredParameters]

/-- The cells of a fixed array. -/
def FixedArray.cells (array : FixedArray) : List Cell :=
  [.string "field" array.field, .string "element_type" array.elementType,
    .number "length" array.length.toNat, .flag "is_string" array.isString]

namespace NativeStruct

/-- The cell of a static virtual table: null, or a signature. -/
def staticVirtualTableCell (table : Option Signature) : Cell where
  name := "static_virtual_table"
  omissible := table = none
  spells text :=
    match table with
    | none => text = "null"
    | some signature => SpellsRecord signature.cells text

/-- The cells of a struct. -/
def cells (struct : NativeStruct) : List Cell :=
  [.stringOrEmpty "name" struct.name, .stringOrEmpty "namespace" struct.nameSpace,
    .list "containing_types" SpellsString struct.containingTypes,
    .list "member_functions" (fun function => SpellsRecord function.cells) struct.memberFunctions,
    .list "virtual_functions" (fun function => SpellsRecord function.cells)
      struct.virtualFunctions,
    .list "static_addresses" (fun address => SpellsRecord address.cells) struct.staticAddresses,
    .list "string_overloads" (fun overload => SpellsRecord overload.cells)
      struct.stringOverloads,
    .list "fixed_arrays" (fun array => SpellsRecord array.cells) struct.fixedArrays,
    staticVirtualTableCell struct.staticVirtualTable]

/-- The cells of a document. -/
def documentCells (structs : List NativeStruct) : List Cell :=
  [.list "structs" (fun struct => SpellsRecord struct.cells) structs]

/-- A text that spells a list of structs: an object without foreign keys, or an array, and white
space around it. -/
def SpellsDocument (structs : List NativeStruct) (text : String) : Prop :=
  ∃ document, (SpellsObject (documentCells structs) [] document ∨
    SpellsArray (documentCells structs) document) ∧ IsPadded document text

/-- A text that spells a list of structs, but for foreign keys at the top. -/
def SpellsForeignDocument (structs : List NativeStruct) (foreign : List String) (text : String) :
    Prop :=
  ∃ document, SpellsObject (documentCells structs) foreign document ∧ IsPadded document text

end NativeStruct

/-! ### The formats -/

theorem Signature.agrees_format : Signature.format.Agrees Signature.cells :=
  Format.agrees_of_fields Signature.lawful_format rfl fun signature =>
    ⟨FieldFormat.agrees_string _ signature.pattern,
      FieldFormat.agrees_list _ (fun n : UInt8 => .number n.toNat) (fun _ _ => reads_uint8)
        (fun _ => rfl) signature.relocationOffsets, rfl⟩

theorem Parameter.agrees_format : Parameter.format.Agrees Parameter.cells :=
  Format.agrees_of_fields Parameter.lawful_format rfl fun parameter =>
    ⟨FieldFormat.agrees_string _ parameter.name, FieldFormat.agrees_string _ parameter.type, rfl⟩

theorem Method.agrees_format : Method.format.Agrees Method.cells :=
  Format.agrees_of_fields Method.lawful_format rfl fun method =>
    ⟨FieldFormat.agrees_string _ method.name, FieldFormat.agrees_string _ method.modifiers,
      FieldFormat.agrees_string _ method.returnType,
      FieldFormat.agrees_records _ Parameter.agrees_format method.parameters,
      FieldFormat.agrees_bool _ method.isStatic, rfl⟩

theorem MemberFunction.agrees_format : MemberFunction.format.Agrees MemberFunction.cells :=
  Format.agrees_of_fields MemberFunction.lawful_format rfl fun function =>
    ⟨FieldFormat.agrees_record _ Method.agrees_format function.method,
      FieldFormat.agrees_record _ Signature.agrees_format function.signature, rfl⟩

theorem VirtualFunction.agrees_format : VirtualFunction.format.Agrees VirtualFunction.cells :=
  Format.agrees_of_fields VirtualFunction.lawful_format rfl fun function =>
    ⟨FieldFormat.agrees_record _ Method.agrees_format function.method,
      FieldFormat.agrees_uint32 _ function.index, rfl⟩

theorem StaticAddress.agrees_format : StaticAddress.format.Agrees StaticAddress.cells :=
  Format.agrees_of_fields StaticAddress.lawful_format rfl fun address =>
    ⟨FieldFormat.agrees_record _ Method.agrees_format address.method,
      FieldFormat.agrees_record _ Signature.agrees_format address.signature,
      FieldFormat.agrees_bool _ address.isPointer, rfl⟩

theorem StringOverload.agrees_format : StringOverload.format.Agrees StringOverload.cells :=
  Format.agrees_of_fields StringOverload.lawful_format rfl fun overload =>
    ⟨FieldFormat.agrees_record _ Method.agrees_format overload.method,
      FieldFormat.agrees_strings _ overload.ignoredParameters, rfl⟩

theorem FixedArray.agrees_format : FixedArray.format.Agrees FixedArray.cells :=
  Format.agrees_of_fields FixedArray.lawful_format rfl fun array =>
    ⟨FieldFormat.agrees_string _ array.field, FieldFormat.agrees_string _ array.elementType,
      FieldFormat.agrees_uint32 _ array.length, FieldFormat.agrees_bool _ array.isString, rfl⟩

namespace NativeStruct

/-- Null is read as no table, and a signature is no null. -/
theorem agrees_staticVirtualTable (table : Option Signature) :
    staticVirtualTableField.Agrees table (staticVirtualTableCell table) where
  name_eq := rfl
  default_eq := fun h => congrArg some h.symm
  reads := by
    intro text hspells
    cases table with
    | none =>
      obtain rfl : text = "null" := hspells
      exact ⟨.null, .null, rfl⟩
    | some signature =>
      obtain ⟨node, hnode, hread⟩ := Signature.agrees_format.reads signature text hspells
      refine ⟨node, hnode, ?_⟩
      cases node with
      | null => cases hread
      | _ =>
        show some <$> Signature.format.read _ = _
        rw [hread]
        rfl
  spells_write := by
    cases table with
    | none => rfl
    | some signature => exact Signature.agrees_format.spells_write signature

theorem agrees_format : NativeStruct.format.Agrees NativeStruct.cells :=
  Format.agrees_of_fields lawful_format rfl fun struct =>
    ⟨FieldFormat.agrees_stringOrEmpty _ struct.name,
      FieldFormat.agrees_stringOrEmpty _ struct.nameSpace,
      FieldFormat.agrees_strings _ struct.containingTypes,
      FieldFormat.agrees_records _ MemberFunction.agrees_format struct.memberFunctions,
      FieldFormat.agrees_records _ VirtualFunction.agrees_format struct.virtualFunctions,
      FieldFormat.agrees_records _ StaticAddress.agrees_format struct.staticAddresses,
      FieldFormat.agrees_records _ StringOverload.agrees_format struct.stringOverloads,
      FieldFormat.agrees_records _ FixedArray.agrees_format struct.fixedArrays,
      agrees_staticVirtualTable struct.staticVirtualTable, rfl⟩

theorem agrees_document (structs : List NativeStruct) :
    documentFormat.fields.Agrees (documentFormat.toValues structs) (documentCells structs) :=
  ⟨FieldFormat.agrees_records _ agrees_format structs, rfl⟩

/-! ### The document -/

/-- The document that is written for structs is one of their spellings. -/
theorem spellsDocument_writeDocument (structs : List NativeStruct) :
    SpellsDocument structs (writeDocument structs) :=
  ⟨writeDocument structs, .inl (Format.spellsObject_write (agrees_document structs)),
    isPadded_self _⟩

/-- **All spellings of a document mean the same.**  Every text that spells a list of structs is read
as this list, and with a foreign key at the top it is refused for such a key. -/
theorem readDocument_spellings (structs : List NativeStruct) :
    (∀ text, SpellsDocument structs text → readDocument text = .ok structs) ∧
    ∀ foreign text, foreign ≠ [] → SpellsForeignDocument structs foreign text →
      ∃ key ∈ foreign, readDocument text = .error (.shape (.unknownField key ["structs"])) := by
  constructor
  · rintro text ⟨document, hdocument, hpadded⟩
    have hreads : Reads documentFormat.read document structs := by
      rcases hdocument with hobject | harray
      · exact Format.reads_object lawful_documentFormat (agrees_document structs) (.inr rfl) hobject
      · exact Format.reads_array lawful_documentFormat (agrees_document structs) harray
    obtain ⟨node, hnode, hread⟩ := hreads
    rw [readDocument, Format.readDocument_of_yields (hnode.pad hpadded)]
    exact hread
  · rintro foreign text hforeign ⟨document, hobject, hpadded⟩
    obtain ⟨node, hnode, key, hkey, hread⟩ := Format.exists_refused lawful_documentFormat rfl
      (agrees_document structs) hforeign hobject
    refine ⟨key, hkey, ?_⟩
    rw [readDocument, Format.readDocument_of_yields (hnode.pad hpadded)]
    exact hread

/-- A document with its keys in another order and one of them with an escape, records as arrays
without their last fields, a foreign key below the top, whose value has half of a pair of units, and
white space.  Another one has a foreign key at the top. -/
theorem readDocument_spellings_mixed :
    let method : Method := { name := "Run", modifiers := "", returnType := "void" }
    let struct : NativeStruct := { name := "A", virtualFunctions := [{ method, index := 3 }] }
    let methodText := "[\"Run\",\"\",\"void\"]"
    let functionText :=
      "\x7b\"index\":3,\"x\":[null,\"\\uD800\"],\"method\":" ++ methodText ++ "\x7d"
    let structText :=
      "\x7b\"virtual_functions\":[" ++ functionText ++ "],\"n\\u0061me\" : \"A\"\x7d"
    let text := "\t\x7b\"structs\":[" ++ structText ++ " ,\n[]]\x7d"
    let refused := "\x7b\"x\":-1e3,\"structs\":[]\x7d"
    SpellsDocument [struct, {}] text ∧ readDocument text = .ok [struct, {}] ∧
      SpellsForeignDocument [] ["x"] refused ∧
      ∃ key ∈ ["x"], readDocument refused = .error (.shape (.unknownField key ["structs"])) := by
  intro method struct methodText functionText structText text refused
  have hplain : ∀ s text, text = renderString s → SpellsString s text := by
    rintro s _ rfl
    exact spellsString_renderString s
  have hmethod : SpellsRecord method.cells methodText := by
    refine .inr ⟨[.string "name" "Run", .string "modifiers" "", .string "return_type" "void"],
      _, ["\"Run\"", "\"\"", "\"void\""], rfl, ?_, ?_, enclosed_intercalate _ _ _⟩
    · exact List.forall_mem_cons.mpr ⟨rfl, List.forall_mem_singleton.mpr rfl⟩
    · exact .cons (hplain _ _ (by decide)) <| .cons (hplain _ _ (by decide)) <|
        .cons (hplain _ _ (by decide)) .nil
  have hvalue : IsValue "[null,\"\\uD800\"]" := by
    have hhalf : IsString "\"\\uD800\"" :=
      ⟨[.unit 0xD800], ["\\uD800"],
        .cons (.unit (w := 13) (x := 8) (y := 0) (z := 0) rfl rfl rfl rfl) .nil, by decide⟩
    have hitems : ∀ item ∈ ["null", "\"\\uD800\""], IsValue item :=
      List.forall_mem_cons.mpr ⟨.null, List.forall_mem_singleton.mpr (.string hhalf)⟩
    exact .array hitems (enclosed_intercalate _ _ _)
  have hfunction : SpellsRecord (VirtualFunction.cells { method, index := 3 }) functionText := by
    let own : MemberText := .plain "\"method\"" methodText
    let index : MemberText := .plain "\"index\"" "3"
    let other : MemberText := .plain "\"x\"" "[null,\"\\uD800\"]"
    have hindex : SpellsNumber 3 "3" := (by decide : "3" = toString 3)
    refine .inl ⟨["x"], [some own, some index], [other], [index, other, own], ?_, ?_,
      List.perm_append_singleton own [index, other], enclosed_intercalate _ _ _⟩
    · exact .cons ⟨hplain _ _ (by decide), hmethod, isJoined_plain _ _⟩ <|
        .cons ⟨hplain _ _ (by decide), hindex, isJoined_plain _ _⟩ .nil
    · exact .cons ⟨by decide, hplain _ _ (by decide), hvalue, isJoined_plain _ _⟩ .nil
  have hescaped : SpellsString "name" "\"n\\u0061me\"" := by
    refine ⟨[.char 'n', .unit 0x61, .char 'm', .char 'e'], ?_, ["n", "\\u0061", "m", "e"], ?_,
      by decide⟩
    · exact .char 'n' (.unit (.inl (by decide)) (.char 'm' (.char 'e' .nil)))
    · exact .cons (.plain (by decide) (by decide) (by decide)) <|
        .cons (.unit (w := 0) (x := 0) (y := 6) (z := 1) rfl rfl rfl rfl) <|
        .cons (.plain (by decide) (by decide) (by decide)) <|
        .cons (.plain (by decide) (by decide) (by decide)) .nil
  have hstruct : SpellsRecord struct.cells structText := by
    let name : MemberText := ⟨"\"n\\u0061me\"", "\"A\"", "\"n\\u0061me\" : \"A\""⟩
    let functions : MemberText := .plain "\"virtual_functions\"" ("[" ++ functionText ++ "]")
    refine .inl ⟨[], [some name, none, none, none, some functions, none, none, none, none], [],
      [functions, name], ?_, .nil, .swap _ _ _, enclosed_intercalate _ _ _⟩
    exact .cons ⟨hescaped, hplain _ _ (by decide), " ", " ", by decide, by decide, by decide⟩ <|
      .cons rfl <| .cons rfl <| .cons rfl <|
      .cons ⟨hplain _ _ (by decide), ⟨[functionText], .cons hfunction .nil,
        enclosed_intercalate _ _ _⟩, isJoined_plain _ _⟩ <|
      .cons rfl <| .cons rfl <| .cons rfl <| .cons rfl .nil
  have hempty : SpellsRecord (NativeStruct.cells {}) "[]" := by
    refine .inr ⟨[], _, [], rfl, ?_, .nil, enclosed_intercalate _ _ _⟩
    simp [Cell.stringOrEmpty, Cell.list, staticVirtualTableCell]
  have htext : SpellsDocument [struct, {}] text := by
    let structs : MemberText := .plain "\"structs\"" ("[" ++ structText ++ " ,\n[]]")
    have hpadded : List.Forall₂ IsPadded [structText, "[]"] [structText ++ " ", "\n[]"] :=
      .cons ⟨"", " ", by decide, by decide, by decide⟩ <|
        .cons ⟨"\n", "", by decide, by decide, by decide⟩ .nil
    refine ⟨"\x7b" ++ structs.text ++ "\x7d", .inl ⟨[some structs], [], [structs], ?_, .nil,
      .refl _, enclosed_intercalate _ _ _⟩, "\t", "", by decide, by decide, by decide⟩
    exact .cons ⟨hplain _ _ (by decide), ⟨[structText, "[]"], .cons hstruct (.cons hempty .nil),
      "", _, by decide, hpadded, by decide⟩, isJoined_plain _ _⟩ .nil
  have hrefused : SpellsForeignDocument [] ["x"] refused := by
    let other : MemberText := .plain "\"x\"" "-1e3"
    let structs : MemberText := .plain "\"structs\"" "[]"
    have hexponent : IsExponent "e3" :=
      @IsExponent.some "e" "" "3" (.inl rfl) (.inl rfl) (by decide)
    have hnumber : IsNumber "-1e3" :=
      ⟨"-", "1", "", "e3", .inr rfl, by decide, by decide, .none, hexponent, by decide⟩
    refine ⟨refused, ⟨[some structs], [other], [other, structs], ?_, ?_, .swap _ _ _,
      enclosed_intercalate _ _ _⟩, isPadded_self _⟩
    · exact .cons ⟨hplain _ _ (by decide), ⟨[], .nil, enclosed_intercalate _ _ _⟩,
        isJoined_plain _ _⟩ .nil
    · exact .cons ⟨by decide, hplain _ _ (by decide), .number hnumber, isJoined_plain _ _⟩ .nil
  exact ⟨htext, (readDocument_spellings _).1 _ htext, hrefused,
    (readDocument_spellings _).2 _ _ (by decide) hrefused⟩

end NativeStruct

end NativeBindings
