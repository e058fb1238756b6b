/-
NativeBindings/Proofs/Binding/StructReading.lean

Reading the address records of a struct from its source, with their paths.  The reader follows the
text: the namespace row, if there is one, the rows that open the enclosing types, from the outside
in, and then the class of the addresses, which is the first thing inside the struct or is not there
at all.  A path is read off the rows that were passed (`readRecordPaths_compile`).
-/
import NativeBindings.Proofs.Binding.AddressTable
import NativeBindings.Proofs.Binding.FirstRow
import NativeBindings.Proofs.Binding.RecordReading

namespace NativeBindings

open Source Text

/-! ### The reader -/

/-- Read the row of a namespace and the blank row behind it, if they are there. -/
def readNameSpace (text : List Char) : Option (List String × List Char) :=
  match expect "namespace " text with
  | none => some ([], text)
  | some text => do
      let (line, text) ← splitLine 0 text
      let name ← dropEnding ";" line
      let text ← expect "\n" text
      return ([String.ofList name], text)

/-- Read the rows that open a type, and return its name. -/
def readScope (depth : Nat) (text : List Char) : Option (String × List Char) := do
  let text ← expect (indented depth "unsafe partial struct ") text
  let (name, text) ← splitLine 0 text
  let text ← expect (row depth "\x7b") text
  return (String.ofList name, text)

/-- Read the class of the addresses, and return the names of its records.  Where the class is not
there, there are no records. -/
def readAddresses (config : Configuration) (depth : Nat) (text : List Char) :
    Option (List String) :=
  match expect (row depth "public static class Addresses") text with
  | none => some []
  | some text => do
      let text ← expect (row depth "\x7b") text
      let (records, text) := readMany (fun _ => readRecord config (depth + 1)) 0 text
      let _ ← expect (row depth "\x7d") text
      return records

/-- Read types that are opened one inside the other, from a depth on, and then the names of the
records inside the last one. -/
def readScopes (config : Configuration) (depth : Nat) (text : List Char) :
    List String × Option (List String) :=
  let (scopes, text) := readMany readScope depth text
  (scopes, readAddresses config (depth + scopes.length) text)

/-- The path of a record, from the names that lead to it. -/
def joinPath (nameSpace scopes : List String) (record : String) : String :=
  "global::" ++ ".".intercalate (nameSpace ++ scopes ++ ["Addresses", record])

/-- Read the source of a struct, and return the paths of its address records. -/
def readRecordPaths (config : Configuration) (source : String) : Option (List String) := do
  let text ← expect "// <auto-generated/>\n\n" source.toList
  let (nameSpace, text) ← readNameSpace text
  let (scopes, records) := readScopes config 0 text
  return (← records).map (joinPath nameSpace scopes)

/-! ### The file header -/

/-- What follows a file header is not taken for a namespace if it does not start like one. -/
theorem readNameSpace_headerText {nameSpace : String} (h : SingleLine nameSpace)
    {text : List Char} (htext : expect "namespace " text = none) :
    (expect "// <auto-generated/>\n\n" ((headerText nameSpace).toList ++ text)).bind
        readNameSpace =
      some (if nameSpace = "" then [] else [nameSpace], text) := by
  rcases Decidable.em (nameSpace = "") with rfl | hne
  · have hheader : (headerText "").toList ++ text = "// <auto-generated/>\n\n".toList ++ text := by
      unfold headerText
      simp
    rw [hheader, expect_append, Option.bind_some, readNameSpace, htext, if_pos rfl]
  · have hheader : (headerText nameSpace).toList ++ text =
        "// <auto-generated/>\n\n".toList ++ ("namespace ".toList ++
          ((nameSpace.toList ++ ";".toList) ++ '\n' :: ("\n".toList ++ text))) := by
      unfold headerText
      simp [hne]
    have hline : '\n' ∉ nameSpace.toList ++ ";".toList := by
      rw [← String.toList_append]
      exact lacks_append.mpr ⟨h, by decide⟩
    rw [hheader, expect_append, Option.bind_some, readNameSpace, expect_append]
    simp only [splitLine_zero_append hline, dropEnding_append, expect_append, Option.bind_eq_bind,
      Option.bind_some, if_neg hne, String.ofList_toList]
    rfl

/-! ### The enclosing types -/

/-- The rows that open a type. -/
def scopeChars (depth : Nat) (name : String) : List Char :=
  (row depth ("unsafe partial struct " ++ name)).toList ++ (row depth "\x7b").toList

theorem length_scopeChars_pos (depth : Nat) (name : String) :
    0 < (scopeChars depth name).length := by
  rw [scopeChars, List.length_append]
  exact Nat.add_pos_left (length_row_pos _ _) _

theorem readScope_append {name : String} (h : SingleLine name) (depth : Nat) (rest : List Char) :
    readScope depth (scopeChars depth name ++ rest) = some (name, rest) := by
  have hstart : expect (indented depth "unsafe partial struct ") (scopeChars depth name ++ rest) =
      some (name.toList ++ '\n' :: ((row depth "\x7b").toList ++ rest)) := by
    rw [scopeChars, List.append_assoc, expect_indented_row, String.toList_append, List.append_assoc,
      expect_append]
  unfold readScope
  simp only [hstart, splitLine_zero_append h, expect_append, Option.bind_eq_bind, Option.bind_some,
    String.ofList_toList]
  rfl

/-- Scopes inside one another are written at depth after depth. -/
theorem chars_scopes (names : List String) (depth : Nat) (rest : Layout) :
    Layout.chars ⟨depth, true⟩ ((names.flatMap fun name =>
        Layout.item [.openScope ("unsafe partial struct " ++ name)]) ++ rest) =
      writeMany scopeChars depth names ++ Layout.chars ⟨depth + names.length, true⟩ rest := by
  induction names generalizing depth with
  | nil => rfl
  | cons name names ih =>
    have hwritten : writeMany scopeChars depth (name :: names) =
        scopeChars depth name ++ writeMany scopeChars (depth + 1) names := rfl
    rw [List.flatMap_cons, List.append_assoc, hwritten, List.length_cons, Layout.item,
      List.cons_append, Layout.chars_separator_start, List.cons_append, Layout.chars_openScope,
      List.nil_append, ih, scopeChars, List.append_assoc, List.append_assoc, Nat.add_assoc,
      Nat.add_comm 1]

theorem exists_typePath_eq_cons (struct : NativeStruct) :
    ∃ outer inner, struct.typePath = outer :: inner := by
  apply List.exists_cons_of_ne_nil
  simp [NativeStruct.typePath, NativeStruct.hierarchy]

/-- The source of a struct: the file header, the enclosing types, and what stands inside. -/
theorem toList_sourceLayout (config : Configuration) (table : AddressTable)
    (struct : NativeStruct) :
    (struct.sourceLayout config table).render.toList =
      (headerText struct.nameSpace).toList ++ (writeMany scopeChars 0 struct.typePath ++
        Layout.chars ⟨struct.typePath.length, true⟩
          (struct.blocks config table ++ struct.closings)) := by
  -- the outermost type is set apart from the file header
  obtain ⟨outer, inner, hpath⟩ := exists_typePath_eq_cons struct
  have hwritten : writeMany scopeChars 0 (outer :: inner) =
      scopeChars 0 outer ++ writeMany scopeChars 1 inner := rfl
  rw [Layout.toList_render, NativeStruct.sourceLayout, NativeStruct.openings, hpath, hwritten,
    List.flatMap_cons, Layout.item, scopeChars]
  simp only [List.append_assoc, List.cons_append, List.nil_append, Layout.chars_fileHeader,
    Layout.chars_openScope, chars_scopes, List.length_cons, Nat.zero_add, Nat.add_comm 1]

/-! ### The class of the addresses -/

/-- Scopes that are opened one inside the other are passed. -/
theorem readScopes_append {names : List String} (h : ∀ name ∈ names, SingleLine name)
    (config : Configuration) (depth : Nat) (text : List Char) :
    readScopes config depth (writeMany scopeChars depth names ++ text) =
      (names ++ (readScopes config (depth + names.length) text).1,
        (readScopes config (depth + names.length) text).2) := by
  have hscopes : readMany readScope depth (writeMany scopeChars depth names ++ text) =
      (names ++ (readMany readScope (depth + names.length) text).1,
        (readMany readScope (depth + names.length) text).2) := by
    rw [readMany_append id length_scopeChars_pos, List.map_id]
    intro name hname number rest
    exact readScope_append (h name hname) number rest
  simp only [readScopes, hscopes, List.length_append, Nat.add_assoc]

theorem readScope_of_none {depth : Nat} {text : List Char}
    (h : expect (indented depth "unsafe partial struct ") text = none) :
    readScope depth text = none := by
  unfold readScope
  rw [h]
  rfl

/-- Nothing is read where neither a type nor the class stands. -/
theorem readScopes_of_none {config : Configuration} {depth : Nat} {text : List Char}
    (htype : expect (indented depth "unsafe partial struct ") text = none)
    (hclass : expect (row depth "public static class Addresses") text = none) :
    readScopes config depth text = ([], some []) := by
  rw [readScopes, readMany_of_none readScope (readScope_of_none htype)]
  show ([], readAddresses config depth text) = _
  rw [readAddresses, hclass]

/-- The class of the addresses is read where it stands. -/
theorem readScopes_addressBlock {config : Configuration} {table : AddressTable}
    {struct : NativeStruct} (hsignatures : struct.hasSignatures)
    (h : ∀ record ∈ table.records, SingleLine record.name) (depth : Nat) (rest : Layout) :
    readScopes config depth
        (Layout.chars ⟨depth, true⟩ (Block.addressBlock config table struct ++ rest)) =
      ([], some (table.records.map AddressRecord.name)) := by
  have hlines : (table.records.map fun record => Step.line (Block.addressLine config record)) =
      (table.records.map (Block.addressLine config)).map Step.line := by
    rw [List.map_map]
    rfl
  rw [Block.addressBlock, if_pos hsignatures, Layout.item, List.cons_append,
    Layout.chars_separator_start, hlines, Layout.chars_scope_lines, List.flatMap_map]
  have hscope (rest : List Char) :
      readScope depth ((row depth "public static class Addresses").toList ++ rest) = none :=
    readScope_of_none (expect_indented_row_of_head_ne rfl rfl (by decide) rest)
  rw [readScopes, readMany_of_none readScope (hscope _)]
  show ([], readAddresses config depth _) = _
  rw [readAddresses, expect_append]
  simp only [expect_append, readMany_records h, Option.bind_eq_bind, Option.bind_some]
  rfl

/-! ### Structs without addresses -/

theorem readScopes_closing (config : Configuration) (depth : Nat) (rest : List Char) :
    readScopes config (depth + 1) ((row depth "\x7d").toList ++ rest) = ([], some []) := by
  apply readScopes_of_none
  · exact expect_indented_closing (Nat.lt_succ_self depth) _ rest
  · rw [row_eq_indented]
    exact expect_indented_closing (Nat.lt_succ_self depth) _ rest

/-- A row that starts neither like a type nor like a class is told by its first character. -/
theorem readScopes_row_of_head_ne {content : String} {c : Char}
    (h : content.toList.head? = some c) (htype : 'u' ≠ c) (hclass : 'p' ≠ c)
    (config : Configuration) (depth : Nat) (rest : List Char) :
    readScopes config depth ((row depth content).toList ++ rest) = ([], some []) := by
  apply readScopes_of_none
  · exact expect_indented_row_of_head_ne rfl h htype rest
  · rw [row_eq_indented]
    exact expect_indented_row_of_head_ne rfl h hclass rest

/-- The header of an overload may look like an enclosing type, but what stands inside does not look
like the class of the addresses. -/
theorem readScopes_overload {header content : String} (hline : SingleLine header)
    (hheader : header ≠ "public static class Addresses") (h : content.toList.head? = some 'i')
    (config : Configuration) (depth : Nat) (rest : List Char) :
    (readScopes config depth ((row depth header).toList ++ ((row depth "\x7b").toList ++
      ((row (depth + 1) content).toList ++ rest)))).2 = some [] := by
  let body := (row (depth + 1) content).toList ++ rest
  let text := (row depth header).toList ++ ((row depth "\x7b").toList ++ body)
  show (readScopes config depth text).2 = some []
  rcases htype : expect (indented depth "unsafe partial struct ") text with - | behind
  · have hclass : expect (row depth "public static class Addresses") text = none := by
      rw [Option.eq_none_iff_forall_ne_some]
      intro rest hrest
      exact hheader (eq_of_expect_row (by decide) hline hrest).symm
    rw [readScopes_of_none htype hclass]
  · -- the header passes for a scope, and its row of an `int` is all that is seen inside
    obtain ⟨name, rfl⟩ := exists_of_expect_indented (by decide) htype
    obtain ⟨-, hname⟩ := lacks_append.mp hline
    have htext : text = writeMany scopeChars depth [name] ++ body := by
      simp [text, writeMany, scopeChars]
    have hnames : ∀ name' ∈ [name], SingleLine name' := by
      intro name' hname'
      obtain rfl := List.mem_singleton.mp hname'
      exact hname
    rw [htext, readScopes_append hnames]
    exact congrArg Prod.snd
      (readScopes_row_of_head_ne h (by decide) (by decide) config (depth + 1) rest)

/-- A struct whose blocks start with something else has no records. -/
theorem readScopes_of_startsOtherwise {layout : Layout} (h : StartsOtherwise layout)
    (config : Configuration) (depth : Nat) (rest : Layout) :
    (readScopes config (depth + 1)
      (Layout.chars ⟨depth + 1, true⟩ (layout ++ .closeScope :: rest))).2 = some [] := by
  cases h with
  | nil =>
    rw [List.nil_append, Layout.chars_closeScope, readScopes_closing]
  | attributeRow h =>
    rw [List.cons_append, Layout.chars_separator_start, List.cons_append, Layout.chars_line,
      readScopes_row_of_head_ne h (by decide) (by decide)]
  | overload hline h =>
    rw [List.cons_append, Layout.chars_separator_start, List.cons_append, Layout.chars_openScope,
      List.cons_append, Layout.chars_line]
    apply readScopes_overload hline _ h
    intro heq
    have hlast := congrArg (fun s => s.toList.getLast?) heq
    simp at hlast

/-! ### The paths of a source -/

theorem intercalate_append_pair {parts : List String} (h : parts ≠ []) (first second : String) :
    ".".intercalate (parts ++ [first, second]) =
      ".".intercalate parts ++ "." ++ first ++ "." ++ second := by
  induction parts with
  | nil => exact absurd rfl h
  | cons part parts ih =>
    cases parts with
    | nil => simp [String.intercalate_cons_cons, String.append_assoc]
    | cons next parts =>
      have hrest := ih (List.cons_ne_nil next parts)
      rw [List.cons_append, List.cons_append, String.intercalate_cons_cons, ← List.cons_append,
        hrest, String.intercalate_cons_cons]
      simp only [String.append_assoc]

/-- The names that lead to a record are those that stand in its registered path. -/
theorem joinPath_typePath (struct : NativeStruct) (record : String) :
    joinPath (if struct.nameSpace = "" then [] else [struct.nameSpace]) struct.typePath record =
      struct.globalTypePath ++ ".Addresses." ++ record := by
  have hne : struct.qualifiedParts ≠ [] := by
    simp [NativeStruct.qualifiedParts, NativeStruct.typePath, NativeStruct.hierarchy]
  have hdots : (".Addresses." : String) = "." ++ "Addresses" ++ "." := by decide
  show "global::" ++ ".".intercalate (struct.qualifiedParts ++ ["Addresses", record]) = _
  rw [intercalate_append_pair hne, hdots, NativeStruct.globalTypePath, NativeStruct.qualifiedName]
  simp only [String.append_assoc]

/-- What is read from the inside of a struct. -/
theorem readScopes_inside (config : Configuration) {struct : NativeStruct} {table : AddressTable}
    (htable : AddressTable.encode struct = .ok table) (h : struct.IsSingleLine) :
    ∃ scopes, readScopes config struct.typePath.length
        (Layout.chars ⟨struct.typePath.length, true⟩
          (struct.blocks config table ++ struct.closings)) =
        (scopes, some (struct.namedSignatures.map NamedSignature.name)) ∧
      (struct.namedSignatures ≠ [] → scopes = []) := by
  have hnames := AddressTable.map_name_records htable
  rcases hsignatures : struct.hasSignatures with - | -
  · have hlength : struct.typePath.length = struct.containingTypes.length + 1 := by
      rw [NativeStruct.typePath, List.length_reverse]
      rfl
    have hempty := NativeStruct.hasSignatures_eq_false_iff.mp hsignatures
    have hread := readScopes_of_startsOtherwise (startsOtherwise_blocks h hsignatures config table)
      config struct.containingTypes.length (struct.containingTypes.map fun _ => .closeScope)
    rw [hlength, hempty]
    refine ⟨_, Prod.ext rfl hread, ?_⟩
    intro hne
    exact absurd rfl hne
  · obtain ⟨others, hblocks⟩ : ∃ others, struct.blocks config table =
        Block.addressBlock config table struct ++ others := ⟨_, rfl⟩
    have hrecords : ∀ record ∈ table.records, SingleLine record.name := by
      intro record hrecord
      have hmem : record.name ∈ struct.namedSignatures.map NamedSignature.name := by
        rw [← hnames]
        exact List.mem_map_of_mem hrecord
      obtain ⟨named, hnamed, heq⟩ := List.mem_map.mp hmem
      rw [← heq]
      exact h.recordName hnamed
    refine ⟨[], ?_, fun _ => rfl⟩
    rw [hblocks, List.append_assoc, readScopes_addressBlock hsignatures hrecords, hnames]

/-- **The source of a struct shows the paths that are registered for it.** -/
theorem readRecordPaths_compile {config : Configuration} {struct : NativeStruct} {source : String}
    (hcompile : struct.compile config = .ok source) (h : struct.IsSingleLine) :
    readRecordPaths config source = some struct.recordPaths := by
  obtain ⟨table, htable, rfl⟩ := NativeStruct.compile_eq_ok_iff.mp hcompile
  obtain ⟨more, hinside, hmore⟩ := readScopes_inside config htable h
  let inside := Layout.chars ⟨struct.typePath.length, true⟩
    (struct.blocks config table ++ struct.closings)
  let body := writeMany scopeChars 0 struct.typePath ++ inside
  have hscopes : readScopes config 0 body = (struct.typePath ++ more,
      some (struct.namedSignatures.map NamedSignature.name)) := by
    rw [readScopes_append (fun name hname => h.typePath hname), Nat.zero_add, hinside]
  -- an enclosing type stands first, so nothing is taken for a second namespace
  have hbody : expect "namespace " body = none := by
    obtain ⟨outer, inner, hpath⟩ := exists_typePath_eq_cons struct
    have hhead : body.head? = some 'u' := by
      simp [body, hpath, writeMany, scopeChars]
    exact expect_of_head_ne rfl hhead (by decide)
  obtain ⟨text, hmarker, hnameSpace⟩ :=
    Option.bind_eq_some_iff.mp (readNameSpace_headerText h.nameSpace hbody)
  unfold readRecordPaths
  rw [toList_sourceLayout, hmarker]
  simp only [Option.bind_eq_bind, Option.bind_some, hnameSpace, hscopes]
  -- scopes beyond those of the struct are seen only where there are no records
  refine congrArg some ?_
  rw [List.map_map, NativeStruct.recordPaths]
  apply List.map_congr_left
  intro named hnamed
  obtain rfl := hmore (List.ne_nil_of_mem hnamed)
  rw [List.append_nil]
  exact joinPath_typePath struct named.name

end NativeBindings
