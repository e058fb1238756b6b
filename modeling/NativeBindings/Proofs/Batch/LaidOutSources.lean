/-
NativeBindings/Proofs/Batch/LaidOutSources.lean

All sources of a run are well laid out (`wellLaidOut_sources`).  Each of them is a file header above
a balanced layout whose rows are plain: the types of a struct are scopes that stand one inside the
other around its blocks, and the two sources that cover a batch are made of scopes alone.
-/
import NativeBindings.Proofs.Batch.Selection
import NativeBindings.Proofs.Binding.BlockComposition
import NativeBindings.Proofs.Binding.PlainBlocks

namespace NativeBindings

open Source Source.Layout Text

/-- A configuration whose namespaces are single lines. -/
structure Configuration.IsSingleLine (config : Configuration) : Prop where
  runtimeNamespace : SingleLine config.runtimeNamespace
  generatedNamespace : SingleLine config.generatedNamespace

variable {config : Configuration} {table : AddressTable} {struct : NativeStruct}
  {structs : List NativeStruct}

/-! ### The source of a struct -/

/-- Scopes that stand one inside the other. -/
theorem balanced_nested {body : Layout} (h : Balanced body) (names : List String) :
    Balanced ((names.flatMap fun name =>
        Layout.item [.openScope ("unsafe partial struct " ++ name)]) ++ body ++
      names.map fun _ => .closeScope) := by
  induction names with
  | nil =>
    show Balanced (body ++ [])
    rwa [List.append_nil]
  | cons name names ih =>
    have hscope := IsBlock.item_scope ("unsafe partial struct " ++ name) ih
    -- the closing braces are all alike, so the last one can stand for the first scope
    have hclosings : ((name :: names).map fun _ => Step.closeScope) =
        (names.map fun _ => Step.closeScope) ++ [.closeScope] := by
      rw [List.map_const', List.map_const', List.length_cons, List.replicate_succ']
    rw [hclosings]
    have hbalanced := hscope.balanced
    simpa [Layout.item, Layout.scope] using hbalanced

theorem balanced_inside (config : Configuration) (table : AddressTable) (struct : NativeStruct) :
    Balanced (struct.openings ++ struct.blocks config table ++ struct.closings) := by
  have hblocks : Balanced (struct.blocks config table) :=
    .flatMap fun block _ => (Block.isBlock_layout config table struct block).balanced
  have hclosings : struct.closings = struct.typePath.map fun _ => .closeScope := by
    simp [NativeStruct.closings, NativeStruct.typePath]
  rw [hclosings]
  exact balanced_nested hblocks struct.typePath

theorem isPlain_inside (hconfig : config.IsSingleLine) (h : struct.IsSingleLine)
    (htable : AddressTable.encode struct = .ok table) :
    (struct.openings ++ struct.blocks config table ++ struct.closings).IsPlain := by
  refine .append (.append ?_ ?_) ?_
  · refine .flatMap fun name hname => .item (.opening ?_ .nil)
    exact isPlainText_literal_append (by decide) (h.typePath hname)
  · exact .flatMap fun block _ => Block.isPlain_layout hconfig.runtimeNamespace h htable block
  · intro step hstep
    obtain ⟨name, -, rfl⟩ := List.mem_map.mp hstep
    trivial

theorem wellLaidOut_compile (hconfig : config.IsSingleLine) (h : struct.IsSingleLine)
    {source : String} (hcompile : struct.compile config = .ok source) : WellLaidOut source := by
  obtain ⟨table, htable, rfl⟩ := NativeStruct.compile_eq_ok_iff.mp hcompile
  have hlayout : struct.sourceLayout config table = Layout.fileHeader struct.nameSpace ++
      (struct.openings ++ struct.blocks config table ++ struct.closings) := by
    simp only [NativeStruct.sourceLayout, List.append_assoc]
  rw [hlayout]
  exact wellLaidOut_render h.nameSpace (balanced_inside config table struct)
    (isPlain_inside hconfig h htable)

/-! ### The sources of a batch -/

theorem balanced_resolverMethod (config : Configuration) (name call : String)
    (paths : List String) : Balanced (resolverMethod config name call paths) :=
  (IsBlock.item_scope _ (.map_line _ _)).balanced

theorem isPlain_resolverMethod (hconfig : config.IsSingleLine) {name call : String}
    (hname : SingleLine name) (hcall : SingleLine call) {paths : List String}
    (hpaths : ∀ path ∈ paths, SingleLine path) :
    (resolverMethod config name call paths).IsPlain := by
  have hresolver : SingleLine (config.runtimeType "Resolver") :=
    Configuration.singleLine_runtimeType hconfig.runtimeNamespace (lacks_ofList.mpr (by decide))
  refine .item (.scope ?_ (.map_line fun path hpath => ?_))
  · refine (isPlainText_literal_append ?_ hname).literal ?_ <;> decide
  · have hinstance : IsPlainText (config.runtimeType "Resolver" ++ ".GetInstance.") :=
      .prepend hresolver (isPlainText_literal (by decide))
    refine ((hinstance.append hcall).literal_append ?_ (hpaths path hpath)).literal ?_ <;> decide

theorem wellLaidOut_registrationSource (hconfig : config.IsSingleLine)
    (h : ∀ struct ∈ structs, struct.IsSingleLine) :
    WellLaidOut (registrationSource structs config) := by
  have hpaths : ∀ path ∈ recordPaths structs, SingleLine path := by
    intro path hpath
    obtain ⟨struct, hstruct, hmem⟩ := List.mem_flatMap.mp hpath
    exact (h struct hstruct).recordPath hmem
  apply wellLaidOut_render hconfig.generatedNamespace
  · refine (IsBlock.item_scope _ ?_).balanced
    exact (balanced_resolverMethod _ _ _ _).append (balanced_resolverMethod _ _ _ _)
  · refine .item (.scope (isPlainText_literal (by decide)) (.append ?_ ?_))
    all_goals
      refine isPlain_resolverMethod hconfig (lacks_ofList.mpr ?_) (lacks_ofList.mpr ?_) hpaths
      all_goals decide

theorem isBlock_arrayType (length : UInt32) : IsBlock (ArraySizes.arrayType length) :=
  .item (.line _ (.whole_scope _ (.singleton_line _))) (.line _ _)

theorem isPlain_arrayType (length : UInt32) : (ArraySizes.arrayType length).IsPlain := by
  have hlength : SingleLine (toString length.toNat) := lacks_toString rfl _
  refine .item (.line ?_ (.scope ?_ (.line (isPlainText_literal (by decide)) .nil)))
  · have hattribute : IsPlainText ("[" ++ compilerServices) :=
      isPlainText_literal_append (by decide) singleLine_compilerServices
    refine (hattribute.literal_append ?_ hlength).literal ?_ <;> decide
  · refine (isPlainText_literal_append ?_ hlength).literal ?_ <;> decide

theorem wellLaidOut_render_arraySizes (hconfig : config.IsSingleLine) (sizes : ArraySizes) :
    WellLaidOut (sizes.render config) := by
  apply wellLaidOut_render hconfig.generatedNamespace
  · exact .flatMap fun length _ => (isBlock_arrayType length).balanced
  · exact .flatMap fun length _ => isPlain_arrayType length

/-! ### All sources -/

/-- The sources of a batch are those of its structs, the registration of the kept ones, and the
types of some lengths. -/
theorem Batch.wellLaidOut_artifacts (hconfig : config.IsSingleLine)
    (h : ∀ struct ∈ structs, struct.IsSingleLine) :
    ∀ artifact ∈ (Batch.compile config structs).artifacts, WellLaidOut artifact.source := by
  obtain ⟨keep, -, hkept, hsources, -⟩ := exists_isGreedy_select config config.batchHints structs
  have hlines : ∀ struct ∈ picked keep structs, struct.IsSingleLine := by
    intro struct hmem
    exact h struct (mem_of_mem_picked hmem)
  intro artifact hmem
  rcases List.mem_append.mp hmem with hmem | hmem
  · obtain ⟨struct, hstruct, hsource⟩ := exists_mem_of_forall₂ hsources hmem
    exact wellLaidOut_compile hconfig (hlines struct hstruct) hsource.compiled
  · simp only [List.mem_cons, List.not_mem_nil, or_false] at hmem
    rcases hmem with rfl | rfl
    · rw [← hkept] at hlines
      exact wellLaidOut_registrationSource hconfig hlines
    · exact wellLaidOut_render_arraySizes hconfig _

/-- **Every source is well laid out.**  No string of the configuration and of the structs may hold a
line feed; other than that they are arbitrary, and may be empty, or look like a brace.  The source
of each struct is well laid out, if it has one, and so are the registration of the structs, the
types of any array lengths, and all sources of a batch. -/
theorem wellLaidOut_sources (hconfig : config.IsSingleLine)
    (h : ∀ struct ∈ structs, struct.IsSingleLine) :
    (∀ struct ∈ structs,
        (∀ source, struct.compile config = .ok source → WellLaidOut source) ∧
          ((∃ source, struct.compile config = .ok source) ↔ struct.WellFormed)) ∧
      WellLaidOut (registrationSource structs config) ∧
      (∀ sizes : ArraySizes, WellLaidOut (sizes.render config)) ∧
      ∀ artifact ∈ (Batch.compile config structs).artifacts, WellLaidOut artifact.source := by
  refine ⟨fun struct hstruct => ⟨fun source hcompile => ?_, ?_⟩, ?_, ?_, ?_⟩
  · exact wellLaidOut_compile hconfig (h struct hstruct) hcompile
  · exact NativeStruct.exists_compile_eq_ok_iff
  · exact wellLaidOut_registrationSource hconfig h
  · exact wellLaidOut_render_arraySizes hconfig
  · exact Batch.wellLaidOut_artifacts hconfig h

/-- The source of a struct whose name is a brace, inside a type without a name, with a method that
has no modifiers. -/
theorem wellLaidOut_sources_braces :
    let struct : NativeStruct :=
      { name := "\x7b"
        containingTypes := [""]
        memberFunctions := [{
          method := { name := "\x7d", modifiers := "", returnType := "void" }
          signature := { pattern := "48 ??" } }] }
    Configuration.IsSingleLine {} ∧ (∀ other ∈ [struct], other.IsSingleLine) ∧
      ∃ source, struct.compile {} = .ok source ∧ WellLaidOut source := by
  intro struct
  have hconfig : Configuration.IsSingleLine {} := ⟨by decide, by decide⟩
  have hlines : ∀ other ∈ [struct], other.IsSingleLine := by decide
  obtain ⟨hstruct, -⟩ := wellLaidOut_sources hconfig hlines
  obtain ⟨hlaidOut, hexists⟩ := hstruct struct List.mem_cons_self
  have hwell : struct.WellFormed := by
    intro named hnamed
    obtain rfl := List.mem_singleton.mp hnamed
    exact ⟨[.byte 0x48, .wildcard], rfl⟩
  obtain ⟨source, hsource⟩ := hexists.mpr hwell
  exact ⟨hconfig, hlines, source, hsource, hlaidOut source hsource⟩

end NativeBindings
