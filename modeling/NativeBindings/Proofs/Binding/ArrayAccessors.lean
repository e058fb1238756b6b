/-
NativeBindings/Proofs/Binding/ArrayAccessors.lean

The names that the fixed array block declares.  The block is the text of properties in a small
syntax (`Property`), one or two for each array:

    publicName, and publicName ++ "String" where there is a string property.

Up to their order these are the names of all spans and then those of all string properties
(`propertyNames_perm`).  String properties are apart if the spans are, so all names are apart
exactly if the spans are and no span has the name of a string property
(`nodup_propertyNames_iff`).

A public name keeps what a field has behind its leading underscores (`FixedArray.stem`), up to the
case of the first character.  So it starts with no underscore, and is no field that does
(`head?_ne_of_mem_propertyNames`).  Nothing keeps the public names of different fields apart:
`_name` and `__name` have one.  Where the stems start with lower-case letters, they can be told from
the public names (`stemNamed_publicName`), so all names are apart exactly if the stems are, and none
of them is that of an array with a string property, followed by `String`.  The main result is
`fixedArrayBlock_declares`.
-/
import Mathlib.Data.List.Nodup
import NativeBindings.Binding.Block.FixedArrays
import NativeBindings.Proofs.Text.Uppercase

namespace NativeBindings

open Source Text

/-! ### Properties as syntax -/

/-- A property of a struct. -/
inductive Property where
  /-- A span over a field. -/
  | span (elementType name field : String)
  /-- A string, with the scopes that read and write it. -/
  | text (name : String) (accessors : Layout)
deriving DecidableEq

namespace Property

/-- The name that a property declares. -/
def name : Property → String
  | span _ name _ => name
  | text name _ => name

/-- A property as it is written. -/
def layout : Property → Layout
  | span elementType name field =>
      Layout.item
        [.line "[global::System.Diagnostics.CodeAnalysis.UnscopedRefAttribute]",
          .line ("public global::System.Span<" ++ elementType ++ "> " ++ name ++ " => " ++ field ++
            ";")]
  | text name accessors => Layout.item (Layout.scope ("public string " ++ name) accessors)

end Property

namespace FixedArray

variable (array : FixedArray)

/-- Whether an array has a string property: it wants one, its elements are character units, and
there is room for a terminator. -/
def hasStringProperty : Bool := array.stringKind.isSome && array.length ≠ 0

/-- The names of the properties of an array. -/
def propertyNames : List String :=
  array.publicName :: if array.hasStringProperty then [Block.stringPropertyName array] else []

/-- The string property, if the array has one. -/
def stringProperty? (config : Configuration) : Option Property :=
  match array.stringKind with
  | none => none
  | some kind =>
      if array.length = 0 then none
      else some (.text (Block.stringPropertyName array)
        (Block.stringAccessors config array (Block.capacityOf array) kind))

/-- The properties of an array. -/
def properties (config : Configuration) : List Property :=
  .span array.elementType array.publicName array.field :: (array.stringProperty? config).toList

theorem layout_properties (config : Configuration) :
    (array.properties config).flatMap Property.layout =
      Block.spanProperty array ++ Block.stringProperty config array := by
  rw [properties, List.flatMap_cons, stringProperty?, Block.stringProperty_eq]
  refine congrArg (Block.spanProperty array ++ ·) ?_
  rcases array.stringKind with - | kind
  · rfl
  · by_cases hlength : array.length = 0
    · simp [hlength]
    · simp [hlength, Property.layout]

theorem map_name_properties (config : Configuration) :
    (array.properties config).map Property.name = array.propertyNames := by
  rw [properties, List.map_cons, propertyNames, stringProperty?, hasStringProperty]
  refine congrArg (array.publicName :: ·) ?_
  rcases array.stringKind with - | kind
  · rfl
  · by_cases hlength : array.length = 0
    · simp [hlength]
    · simp [hlength, Property.name]

end FixedArray

namespace NativeStruct

variable (struct : NativeStruct)

/-- The properties of all arrays of a struct. -/
def arrayProperties (config : Configuration) : List Property :=
  struct.fixedArrays.flatMap fun array => array.properties config

/-- The backing fields of a struct. -/
def backingFields : List String := struct.fixedArrays.map FixedArray.field

/-- The names of the spans of a struct. -/
def spanNames : List String := struct.fixedArrays.map FixedArray.publicName

/-- The block is written as its syntax says. -/
theorem fixedArrayBlock_eq (config : Configuration) :
    Block.fixedArrayBlock config struct =
      (struct.arrayProperties config).flatMap Property.layout := by
  rw [Block.fixedArrayBlock_eq_flatMap, arrayProperties, List.flatMap_assoc]
  exact List.flatMap_congr fun array _ => (array.layout_properties config).symm

theorem map_name_arrayProperties (config : Configuration) :
    (struct.arrayProperties config).map Property.name =
      struct.fixedArrays.flatMap FixedArray.propertyNames := by
  rw [arrayProperties, List.map_flatMap]
  exact List.flatMap_congr fun array _ => array.map_name_properties config

end NativeStruct

/-! ### Names that are apart -/

namespace FixedArray

variable (arrays : List FixedArray)

/-- The names are those of the spans and those of the string properties. -/
theorem propertyNames_perm :
    (arrays.flatMap propertyNames).Perm
      (arrays.map publicName ++
        (arrays.filter hasStringProperty).map Block.stringPropertyName) := by
  induction arrays with
  | nil => exact List.Perm.refl []
  | cons array rest ih =>
    rw [List.flatMap_cons, List.map_cons, propertyNames]
    refine List.Perm.cons _ ?_
    by_cases hstring : array.hasStringProperty = true
    · rw [if_pos hstring, List.filter_cons_of_pos hstring, List.map_cons]
      exact (ih.cons _).trans List.perm_middle.symm
    · rw [if_neg hstring, List.filter_cons_of_neg hstring]
      exact ih

/-- All names are apart exactly if those of the spans are and none of them is the name of a string
property. -/
theorem nodup_propertyNames_iff :
    (arrays.flatMap propertyNames).Nodup ↔
      (arrays.map publicName).Nodup ∧
        ∀ array ∈ arrays, array.hasStringProperty = true →
          Block.stringPropertyName array ∉ arrays.map publicName := by
  rw [(propertyNames_perm arrays).nodup_iff, List.nodup_append]
  constructor
  · rintro ⟨hspans, -, hapart⟩
    refine ⟨hspans, fun array harray hstring hmem => ?_⟩
    exact hapart _ hmem _
      (List.mem_map_of_mem (List.mem_filter.mpr ⟨harray, hstring⟩)) rfl
  · rintro ⟨hspans, hapart⟩
    refine ⟨hspans, ?_, ?_⟩
    · -- the string properties carry the names of some of the spans
      have hkept : ((arrays.filter hasStringProperty).map publicName).Nodup :=
        hspans.sublist (List.filter_sublist.map publicName)
      have hsuffixed : (((arrays.filter hasStringProperty).map publicName).map
          (· ++ "String")).Nodup :=
        hkept.map fun name other heq => (String.append_left_inj "String").mp heq
      rwa [List.map_map] at hsuffixed
    · rintro name hname other hother rfl
      obtain ⟨array, hmem, rfl⟩ := List.mem_map.mp hother
      obtain ⟨harray, hstring⟩ := List.mem_filter.mp hmem
      exact hapart array harray hstring hname

end FixedArray

/-! ### What a public name keeps of its field -/

namespace FixedArray

variable {array other : FixedArray} {ending : String}

/-- The stem of a field: what is left without its leading underscores. -/
def stem (array : FixedArray) : List Char := array.field.toList.dropWhile (· == '_')

theorem publicName_of_stem {first : Char} {rest : List Char} (h : array.stem = first :: rest) :
    array.publicName = String.ofList (uppercase first ++ rest) := by
  rw [stem] at h
  rw [publicName, h]

/-- Unless the field is made of underscores only, its public name starts with no underscore. -/
theorem exists_toList_publicName (h : array.stem ≠ []) :
    ∃ first rest, array.publicName.toList = first :: rest ∧ first ≠ '_' := by
  obtain ⟨letter, tail, hstem⟩ := List.exists_cons_of_ne_nil h
  have hletter : letter ≠ '_' := by
    have hkept := List.head?_dropWhile_not (· == '_') array.field.toList
    rw [← stem, hstem] at hkept
    simpa using hkept
  obtain ⟨first, rest, hupper⟩ := List.exists_cons_of_ne_nil (uppercase_ne_nil letter)
  refine ⟨first, rest ++ tail, ?_, ?_⟩
  · rw [publicName_of_stem hstem, String.toList_ofList, hupper]
    rfl
  · -- an upper case with an underscore is that of an underscore
    rintro rfl
    refine underscore_not_mem_uppercase hletter ?_
    rw [hupper]
    exact List.mem_cons_self

theorem exists_of_mem_propertyNames {name : String} (h : name ∈ array.propertyNames) :
    ∃ ending, name = array.publicName ++ ending := by
  rw [propertyNames, List.mem_cons] at h
  rcases h with rfl | h
  · exact ⟨"", String.append_empty.symm⟩
  · split at h
    · exact ⟨"String", List.mem_singleton.mp h⟩
    · cases h

/-- No property starts with an underscore, unless its field is made of underscores only. -/
theorem head?_ne_of_mem_propertyNames (h : array.stem ≠ []) {name : String}
    (hname : name ∈ array.propertyNames) : name.toList.head? ≠ some '_' := by
  obtain ⟨ending, rfl⟩ := exists_of_mem_propertyNames hname
  obtain ⟨first, rest, hlist, hfirst⟩ := exists_toList_publicName h
  rw [String.toList_append, hlist, List.cons_append, List.head?_cons]
  exact fun heq => hfirst (Option.some.inj heq)

/-- Whether the stem starts with an ASCII lower-case letter. -/
def startsLower (array : FixedArray) : Bool := array.stem.head?.any Char.isLower

theorem exists_of_startsLower (h : array.startsLower = true) :
    ∃ first rest, first.isLower = true ∧ array.stem = first :: rest := by
  rw [startsLower] at h
  rcases hstem : array.stem with - | ⟨first, rest⟩
  · rw [hstem] at h
    cases h
  · rw [hstem] at h
    exact ⟨first, rest, h, rfl⟩

theorem stem_ne_nil (h : array.startsLower = true) : array.stem ≠ [] := by
  obtain ⟨first, rest, -, hstem⟩ := exists_of_startsLower h
  rw [hstem]
  exact List.cons_ne_nil first rest

/-- The field starts with an underscore then, or with a lower-case letter. -/
theorem head?_field (h : array.startsLower = true) :
    ∃ c, array.field.toList.head? = some c ∧ (c = '_' ∨ c.isLower = true) := by
  obtain ⟨first, rest, hfirst, hstem⟩ := exists_of_startsLower h
  rw [stem] at hstem
  rcases hfield : array.field.toList with - | ⟨c, tail⟩
  · rw [hfield] at hstem
    cases hstem
  · refine ⟨c, rfl, ?_⟩
    by_cases hc : c = '_'
    · exact .inl hc
    · rw [hfield, List.dropWhile_cons_of_neg (by simpa using hc)] at hstem
      obtain ⟨rfl, -⟩ := List.cons.inj hstem
      exact .inr hfirst

/-- Its properties start with neither, so none of them is named as such a field. -/
theorem ne_field_of_mem_propertyNames (h : array.startsLower = true)
    (hother : other.startsLower = true) {name : String} (hname : name ∈ array.propertyNames) :
    name ≠ other.field := by
  rintro rfl
  obtain ⟨c, hhead, hc⟩ := head?_field hother
  rcases hc with rfl | hlower
  · exact head?_ne_of_mem_propertyNames (stem_ne_nil h) hname hhead
  · obtain ⟨ending, heq⟩ := exists_of_mem_propertyNames hname
    obtain ⟨first, rest, hfirst, hstem⟩ := exists_of_startsLower h
    obtain ⟨hupper, -, hcapital⟩ := uppercase_of_isLower hfirst
    rw [heq, publicName_of_stem hstem, hupper, String.toList_append, String.toList_ofList] at hhead
    obtain rfl : first.toUpper = c := Option.some.inj hhead
    cases hcapital.symm.trans hlower

/-- The stem with a public name, if it starts with a lower-case letter. -/
def stemNamed (name : String) : List Char :=
  match name.toList with
  | [] => []
  | first :: rest => first.toLower :: rest

/-- The stem is told by the public name, and by the public name with an ending. -/
theorem stemNamed_publicName (h : array.startsLower = true) (ending : String) :
    stemNamed (array.publicName ++ ending) = array.stem ++ ending.toList := by
  obtain ⟨first, rest, hfirst, hstem⟩ := exists_of_startsLower h
  obtain ⟨hupper, hlower, -⟩ := uppercase_of_isLower hfirst
  have hname : (array.publicName ++ ending).toList =
      first.toUpper :: (rest ++ ending.toList) := by
    rw [publicName_of_stem hstem, hupper, String.toList_append, String.toList_ofList]
    rfl
  rw [stemNamed, hname, hstem]
  show first.toUpper.toLower :: _ = _
  rw [hlower]
  rfl

/-- A public name is another one with an ending exactly if the stem is the other one with that
ending. -/
theorem publicName_eq_append_iff (h : array.startsLower = true)
    (hother : other.startsLower = true) :
    other.publicName = array.publicName ++ ending ↔
      other.stem = array.stem ++ ending.toList := by
  constructor
  · intro hname
    have htold := stemNamed_publicName hother ""
    rw [String.append_empty, hname, stemNamed_publicName h, String.toList_empty,
      List.append_nil] at htold
    exact htold.symm
  · intro hstems
    obtain ⟨first, rest, -, hstem⟩ := exists_of_startsLower h
    rw [hstem, List.cons_append] at hstems
    rw [publicName_of_stem hstem, publicName_of_stem hstems]
    apply String.toList_injective
    rw [String.toList_append, String.toList_ofList, String.toList_ofList, List.append_assoc]

end FixedArray

/-! ### The names that the block declares -/

namespace NativeStruct

variable {struct : NativeStruct}

/-- The stems of the fields of a struct. -/
def stems (struct : NativeStruct) : List (List Char) := struct.fixedArrays.map FixedArray.stem

/-- Public names are apart exactly if the stems are. -/
theorem nodup_spanNames_iff (h : ∀ array ∈ struct.fixedArrays, array.startsLower = true) :
    struct.spanNames.Nodup ↔ struct.stems.Nodup := by
  have htold : struct.spanNames.map FixedArray.stemNamed = struct.stems := by
    rw [spanNames, stems, List.map_map]
    refine List.map_congr_left fun array harray => ?_
    have hstem := FixedArray.stemNamed_publicName (h array harray) ""
    rwa [String.append_empty, String.toList_empty, List.append_nil] at hstem
  constructor
  · -- arrays with one stem have one public name
    intro hspans
    rw [stems]
    refine List.Nodup.map_on ?_ hspans.of_map
    intro array harray other hother hsame
    refine List.inj_on_of_nodup_map hspans harray hother ?_
    have hended : array.stem = other.stem ++ "".toList := by
      rw [hsame, String.toList_empty, List.append_nil]
    have hname := (FixedArray.publicName_eq_append_iff (h other hother) (h array harray)).mpr hended
    rwa [String.append_empty] at hname
  · intro hstems
    exact List.Nodup.of_map FixedArray.stemNamed (htold ▸ hstems)

/-- A string property has the name of a span exactly if its stem with the ending is a stem. -/
theorem stringPropertyName_mem_spanNames_iff
    (h : ∀ array ∈ struct.fixedArrays, array.startsLower = true) {array : FixedArray}
    (harray : array ∈ struct.fixedArrays) :
    Block.stringPropertyName array ∈ struct.spanNames ↔
      array.stem ++ "String".toList ∈ struct.stems := by
  rw [spanNames, stems, List.mem_map, List.mem_map]
  refine exists_congr fun other => and_congr_right fun hother => ?_
  exact FixedArray.publicName_eq_append_iff (h array harray) (h other hother)

/-- **The names that the fixed array block declares.**  There is a span for each array and a string
property for each array that can have one.  All names are apart exactly if those of the spans are
and none of them is the name of a string property.  No property of an array has the name of a field
that starts with an underscore, unless the field of the array is made of underscores only.  If each
field goes on with a lower-case letter behind its leading underscores, however many there are, then
no property has the name of a field, and all names are apart exactly if the stems of the fields are
and none of them is that of an array with a string property, followed by `String`. -/
theorem fixedArrayBlock_declares (config : Configuration) (struct : NativeStruct) :
    let names := (struct.arrayProperties config).map Property.name
    Block.fixedArrayBlock config struct =
        (struct.arrayProperties config).flatMap Property.layout ∧
      names = struct.fixedArrays.flatMap FixedArray.propertyNames ∧
      (names.Nodup ↔
        struct.spanNames.Nodup ∧
          ∀ array ∈ struct.fixedArrays, array.hasStringProperty = true →
            Block.stringPropertyName array ∉ struct.spanNames) ∧
      (∀ array ∈ struct.fixedArrays, array.stem ≠ [] →
        ∀ name ∈ array.propertyNames, ∀ field ∈ struct.backingFields,
          field.toList.head? = some '_' → name ≠ field) ∧
      ((∀ array ∈ struct.fixedArrays, array.startsLower = true) →
        (∀ name ∈ names, name ∉ struct.backingFields) ∧
          (names.Nodup ↔
            struct.stems.Nodup ∧
              ∀ array ∈ struct.fixedArrays, array.hasStringProperty = true →
                array.stem ++ "String".toList ∉ struct.stems)) := by
  intro names
  have hnames : names = struct.fixedArrays.flatMap FixedArray.propertyNames :=
    struct.map_name_arrayProperties config
  have hnodup := FixedArray.nodup_propertyNames_iff struct.fixedArrays
  rw [← hnames] at hnodup
  refine ⟨struct.fixedArrayBlock_eq config, hnames, hnodup, ?_, fun hlower => ⟨?_, ?_⟩⟩
  · rintro array - hstem name hname field - hfield rfl
    exact FixedArray.head?_ne_of_mem_propertyNames hstem hname hfield
  · intro name hname hfield
    rw [hnames] at hname
    obtain ⟨array, harray, hmem⟩ := List.mem_flatMap.mp hname
    obtain ⟨other, hother, rfl⟩ := List.mem_map.mp hfield
    exact FixedArray.ne_field_of_mem_propertyNames (hlower array harray) (hlower other hother)
      hmem rfl
  · refine hnodup.trans (and_congr (nodup_spanNames_iff hlower) ?_)
    refine forall₂_congr fun array harray => imp_congr_right fun _ => not_congr ?_
    exact stringPropertyName_mem_spanNames_iff hlower harray

/-- A text, whose field has two underscores, next to a table of numbers: three properties, whose
names are apart from each other and from the fields. -/
theorem fixedArrayBlock_declares_label :
    let struct : NativeStruct :=
      { name := "Label"
        fixedArrays :=
          [{ field := "__textBuffer", elementType := "byte", length := 16, isString := true },
            { field := "_glyphs", elementType := "int", length := 4 }] }
    let names := (struct.arrayProperties {}).map Property.name
    names = ["TextBuffer", "TextBufferString", "Glyphs"] ∧ names.Nodup ∧
      ∀ name ∈ names, name ∉ struct.backingFields := by
  intro struct names
  obtain ⟨-, hnames, -, -, hlower⟩ := fixedArrayBlock_declares {} struct
  obtain ⟨hapart, hnodup⟩ := hlower (by decide)
  exact ⟨hnames.trans (by decide +kernel), hnodup.mpr (by decide), hapart⟩

/-- An array named as a text followed by `String` declares the name of the string property again, and
a field that is spelled like a public name is the name of its own span. -/
theorem not_nodup_arrayProperties :
    let text : FixedArray :=
      { field := "_name", elementType := "byte", length := 16, isString := true }
    let table : FixedArray := { field := "_nameString", elementType := "int", length := 4 }
    let items : FixedArray := { field := "Items", elementType := "int", length := 4 }
    let struct : NativeStruct := { name := "Foo", fixedArrays := [text, table] }
    let plain : NativeStruct := { name := "Foo", fixedArrays := [items] }
    (struct.backingFields.Nodup ∧
        (struct.arrayProperties {}).map Property.name = ["Name", "NameString", "NameString"] ∧
        ¬ ((struct.arrayProperties {}).map Property.name).Nodup) ∧
      (plain.backingFields.Nodup ∧
        (plain.arrayProperties {}).map Property.name = plain.backingFields) := by
  intro text table items struct plain
  rw [map_name_arrayProperties, map_name_arrayProperties]
  decide +kernel

end NativeStruct

end NativeBindings
