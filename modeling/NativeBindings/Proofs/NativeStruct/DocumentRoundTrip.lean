/-
NativeBindings/Proofs/NativeStruct/DocumentRoundTrip.lean

Descriptor documents are read back.  All formats are lawful, from signatures and parameters up to
structs, so the document that is written for a list of structs is read as this list
(`readDocument_documentText`): every string comes back, whatever its characters, and every number,
and a static virtual table that is missing is told apart from an empty signature.  The document may
have white space behind its colon and its commas.
-/
import NativeBindings.NativeStruct.Document
import NativeBindings.Proofs.Json.RecordRoundTrip

namespace NativeBindings

open Json

/-! ### The formats -/

theorem Signature.lawful_format : Signature.format.Lawful where
  fields := ⟨FieldFormat.lawful_string _ _, FieldFormat.lawful_list _ readUInt8_node, trivial⟩
  nodup_names := by decide
  ofValues_toValues := fun _ => rfl

theorem Parameter.lawful_format : Parameter.format.Lawful where
  fields := ⟨FieldFormat.lawful_string _ _, FieldFormat.lawful_string _ _, trivial⟩
  nodup_names := by decide
  ofValues_toValues := fun _ => rfl

theorem Method.lawful_format : Method.format.Lawful where
  fields := ⟨FieldFormat.lawful_string _ _, FieldFormat.lawful_string _ _,
    FieldFormat.lawful_string _ _, FieldFormat.lawful_records _ Parameter.lawful_format,
    FieldFormat.lawful_bool _ _, trivial⟩
  nodup_names := by decide
  ofValues_toValues := fun _ => rfl

theorem MemberFunction.lawful_format : MemberFunction.format.Lawful where
  fields := ⟨FieldFormat.lawful_record _ Method.lawful_format,
    FieldFormat.lawful_record _ Signature.lawful_format, trivial⟩
  nodup_names := by decide
  ofValues_toValues := fun _ => rfl

theorem VirtualFunction.lawful_format : VirtualFunction.format.Lawful where
  fields := ⟨FieldFormat.lawful_record _ Method.lawful_format,
    FieldFormat.lawful_uint32 _ _, trivial⟩
  nodup_names := by decide
  ofValues_toValues := fun _ => rfl

theorem StaticAddress.lawful_format : StaticAddress.format.Lawful where
  fields := ⟨FieldFormat.lawful_record _ Method.lawful_format,
    FieldFormat.lawful_record _ Signature.lawful_format, FieldFormat.lawful_bool _ _, trivial⟩
  nodup_names := by decide
  ofValues_toValues := fun _ => rfl

theorem StringOverload.lawful_format : StringOverload.format.Lawful where
  fields := ⟨FieldFormat.lawful_record _ Method.lawful_format,
    FieldFormat.lawful_list _ readString_node, trivial⟩
  nodup_names := by decide
  ofValues_toValues := fun _ => rfl

theorem FixedArray.lawful_format : FixedArray.format.Lawful where
  fields := ⟨FieldFormat.lawful_string _ _, FieldFormat.lawful_string _ _,
    FieldFormat.lawful_uint32 _ _, FieldFormat.lawful_bool _ _, trivial⟩
  nodup_names := by decide
  ofValues_toValues := fun _ => rfl

namespace NativeStruct

/-- A table that is missing is written as null, and no signature is. -/
theorem lawful_staticVirtualTableField : staticVirtualTableField.Lawful := by
  intro table
  cases table with
  | none => rfl
  | some signature =>
    show some <$> Signature.format.read (Signature.format.write signature).node = _
    rw [Signature.lawful_format.read_write]
    rfl

theorem lawful_format : NativeStruct.format.Lawful where
  fields := ⟨FieldFormat.lawful_string _ _, FieldFormat.lawful_string _ _,
    FieldFormat.lawful_list _ readString_node,
    FieldFormat.lawful_records _ MemberFunction.lawful_format,
    FieldFormat.lawful_records _ VirtualFunction.lawful_format,
    FieldFormat.lawful_records _ StaticAddress.lawful_format,
    FieldFormat.lawful_records _ StringOverload.lawful_format,
    FieldFormat.lawful_records _ FixedArray.lawful_format,
    lawful_staticVirtualTableField, trivial⟩
  nodup_names := by decide
  ofValues_toValues := fun _ => rfl

theorem lawful_documentFormat : documentFormat.Lawful where
  fields := ⟨FieldFormat.lawful_records _ lawful_format, trivial⟩
  nodup_names := by decide
  ofValues_toValues := fun _ => rfl

/-! ### The document -/

/-- White space. -/
def IsGap (gap : String) : Prop := ∀ c ∈ gap.toList, isSpace c = true

instance (gap : String) : Decidable (IsGap gap) :=
  List.decidableBAll (fun c => isSpace c = true) gap.toList

/-- The list of the structs of a document, with a gap behind each comma. -/
def structsText (gap : String) (structs : List NativeStruct) : String :=
  "[" ++ ("," ++ gap).intercalate (structs.map fun struct => (format.write struct).render) ++ "]"

/-- The text of a document, with a gap behind the colon and another one behind each comma. -/
def documentText (colonGap commaGap : String) (structs : List NativeStruct) : String :=
  "\x7b\"structs\":" ++ colonGap ++ structsText commaGap structs ++ "\x7d"

variable {colonGap commaGap : String}

/-- A document is written without gaps. -/
theorem writeDocument_eq (structs : List NativeStruct) :
    writeDocument structs = documentText "" "" structs := by
  have hitems : renderItems (structs.map format.write) =
      structs.map fun struct => (format.write struct).render := by
    rw [renderItems_eq_map, List.map_map]
    rfl
  have hkey : renderString "structs" = "\"structs\"" := by decide
  show "\x7b" ++ ",".intercalate
    [renderString "structs" ++ ":" ++
      ("[" ++ ",".intercalate (renderItems (structs.map format.write)) ++ "]")] ++ "\x7d" = _
  rw [hitems, hkey, String.intercalate_singleton, documentText, structsText, String.append_empty,
    String.append_empty]
  simp only [← String.append_assoc]
  rfl

theorem spells_structsText {gap : String} (hgap : IsGap gap) (structs : List NativeStruct) :
    Spells (structsText gap structs) (Json.array (structs.map format.write)).spelling := by
  have hstructs : List.Forall₂ Spells (structs.map fun struct => (format.write struct).render)
      (structs.map fun struct => (format.write struct).spelling) := by
    rw [List.forall₂_map_left_iff, List.forall₂_map_right_iff, List.forall₂_same]
    exact fun struct _ => spells_render (format.write struct)
  have hitems : itemSpellings (structs.map format.write) =
      structs.map fun struct => (format.write struct).spelling := by
    rw [itemSpellings_eq_map, List.map_map]
    rfl
  rw [spelling, hitems]
  refine Spells.enclose '[' ']' (Spells.intercalate gap hgap hstructs) rfl rfl ?_
  simp [structsText]

theorem spells_documentText (hcolon : IsGap colonGap) (hcomma : IsGap commaGap)
    (structs : List NativeStruct) :
    Spells (documentText colonGap commaGap structs) (documentFormat.write structs).spelling := by
  have hmember : Spells ("\"structs\":" ++ colonGap ++ structsText commaGap structs)
      (memberSpelling ("structs", Json.array (structs.map format.write))) := by
    intro rest hrest
    have hspelled : ("\"structs\":" ++ colonGap ++ structsText commaGap structs).toList ++ rest =
        (renderString "structs").toList ++
          ':' :: (colonGap.toList ++ ((structsText commaGap structs).toList ++ rest)) := by
      have hkey : "\"structs\":" = renderString "structs" ++ ":" := by decide
      rw [hkey]
      simp
    rw [hspelled, lexemes_renderString, lexemes_punctuation rfl, lexemes_blanks hcolon,
      spells_structsText hcomma structs rest hrest]
    rfl
  have hobject : documentFormat.write structs =
      .object [("structs", .array (structs.map format.write))] := rfl
  rw [hobject, spelling, memberSpellings_eq_map, List.map_singleton, List.intercalate_singleton]
  refine Spells.enclose '{' '}' hmember rfl rfl ?_
  simp [documentText]

theorem readDocument_writeDocument (structs : List NativeStruct) :
    readDocument (writeDocument structs) = .ok structs :=
  lawful_documentFormat.readDocument_of_spells (spells_render _)

/-- **Descriptor documents are read back.**  The document of a list of structs is read as the list,
with white space behind its colon and its commas, or without as it is written. -/
theorem readDocument_documentText (hcolon : IsGap colonGap) (hcomma : IsGap commaGap)
    (structs : List NativeStruct) :
    readDocument (documentText colonGap commaGap structs) = .ok structs ∧
      writeDocument structs = documentText "" "" structs :=
  ⟨lawful_documentFormat.readDocument_of_spells (spells_documentText hcolon hcomma structs),
    writeDocument_eq structs⟩

/-- A document whose strings need every kind of spelling, with the greatest numbers. -/
theorem readDocument_documentText_spelled :
    let struct : NativeStruct :=
      { name := "\"\\\n\x00\x1F\x7F😀"
        containingTypes := ["", "/"]
        virtualFunctions :=
          [{ method := (Method.ofInstance "Run" "void").withParameter "type" "byte*"
             index := 4294967295 }]
        fixedArrays := [{ field := "_f", elementType := "char", length := 0, isString := true }]
        staticVirtualTable := some { pattern := "", relocationOffsets := [0, 255] } }
    IsGap " " ∧ IsGap "\r\n\t" ∧
      readDocument (documentText " " "\r\n\t" [struct, {}]) = .ok [struct, {}] := by
  intro struct
  have hcolon : IsGap " " := by decide
  have hcomma : IsGap "\r\n\t" := by decide
  exact ⟨hcolon, hcomma, (readDocument_documentText hcolon hcomma [struct, {}]).1⟩

end NativeStruct

end NativeBindings
