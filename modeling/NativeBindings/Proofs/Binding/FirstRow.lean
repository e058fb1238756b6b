/-
NativeBindings/Proofs/Binding/FirstRow.lean

What stands first inside a struct without signatures: nothing at all, an attribute, or an overload
(`startsOtherwise_blocks`).  The class of the addresses would stand there if there were one, so each
of the three has to be told from it.
-/
import NativeBindings.Binding.StructSource
import NativeBindings.Proofs.NativeStruct.Strings
import NativeBindings.Proofs.Text.Words

namespace NativeBindings

open Source Text

/-! ### How blocks can start -/

/-- A layout that starts with something else than the class of the addresses: with nothing, with an
attribute, or with a method, which has a bracket at the end of its header and declares an `int` in
its first row. -/
inductive StartsOtherwise : Layout → Prop where
  | nil : StartsOtherwise []
  | attributeRow {content : String} {rest : Layout} (h : content.toList.head? = some '[') :
      StartsOtherwise (.separator :: .line content :: rest)
  | overload {declaration content : String} {rest : Layout}
      (hline : SingleLine (declaration ++ ")")) (h : content.toList.head? = some 'i') :
      StartsOtherwise (.separator :: .openScope (declaration ++ ")") :: .line content :: rest)

namespace StartsOtherwise

theorem append_of_ne_nil {first : Layout} (h : StartsOtherwise first) (hne : first ≠ [])
    (second : Layout) : StartsOtherwise (first ++ second) := by
  cases h with
  | nil => exact absurd rfl hne
  | attributeRow h => exact .attributeRow h
  | overload hline h => exact .overload hline h

/-- What follows counts only if there is nothing before it. -/
theorem append {first second : Layout} (hfirst : StartsOtherwise first)
    (hsecond : StartsOtherwise second) : StartsOtherwise (first ++ second) := by
  rcases Decidable.em (first = []) with rfl | hne
  · exact hsecond
  · exact hfirst.append_of_ne_nil hne second

theorem flatMap {α : Type} {items : List α} {layout : α → Layout}
    (h : ∀ item ∈ items, StartsOtherwise (layout item)) :
    StartsOtherwise (items.flatMap layout) := by
  induction items with
  | nil => exact .nil
  | cons item items ih =>
    obtain ⟨hitem, hitems⟩ := List.forall_mem_cons.mp h
    rw [List.flatMap_cons]
    exact hitem.append (ih hitems)

end StartsOtherwise

/-! ### The blocks -/

theorem startsOtherwise_virtualTableBlock (config : Configuration) (struct : NativeStruct) :
    StartsOtherwise (Block.virtualTableBlock config struct) := by
  rw [Block.virtualTableBlock]
  split
  · apply StartsOtherwise.attributeRow
    simp
  · exact .nil

theorem startsOtherwise_fixedArrayBlock (config : Configuration) (struct : NativeStruct) :
    StartsOtherwise (Block.fixedArrayBlock config struct) := by
  rw [Block.fixedArrayBlock_eq_flatMap]
  apply StartsOtherwise.flatMap
  intro array _
  exact .attributeRow rfl

/-- The words that are kept of the modifiers hold no white space. -/
theorem singleLine_modifiersWithoutPartial (method : Method) :
    SingleLine method.modifiersWithoutPartial := by
  apply Lacks.intercalate
  · decide
  intro word hword
  obtain ⟨hword, -⟩ := List.mem_filter.mp hword
  obtain ⟨cs, hcs, rfl⟩ := List.mem_map.mp hword
  apply lacks_ofList.mpr
  intro hmem
  exact absurd ((isWord_of_mem_wordsOf hcs).solid _ hmem) (by decide)

theorem singleLine_overloadParameters {overload : StringOverload}
    (h : overload.method.IsSingleLine) (source : Block.ArgumentForm) :
    SingleLine (", ".intercalate (Block.overloadParameters overload source)) := by
  apply Lacks.intercalate
  · decide
  intro text htext
  obtain ⟨parameter, hmem, rfl⟩ := List.mem_map.mp htext
  obtain ⟨hname, htype⟩ := h.parameter hmem
  split
  · have hsource : SingleLine source.parameterType := by cases source <;> decide
    exact lacks_append.mpr ⟨lacks_append.mpr ⟨hsource, by decide⟩, hname⟩
  · exact lacks_append.mpr ⟨lacks_append.mpr ⟨htype, by decide⟩, hname⟩

theorem singleLine_overloadHeader {overload : StringOverload}
    (h : ∀ s ∈ overload.strings, SingleLine s) (source : Block.ArgumentForm) :
    SingleLine (Block.overloadHeader overload source) := by
  have hmethod : overload.method.IsSingleLine := fun s hs => h s (List.mem_append_left _ hs)
  have hparameters := singleLine_overloadParameters hmethod source
  have hmodifiers : SingleLine (if overload.method.modifiersWithoutPartial = "" then ""
      else overload.method.modifiersWithoutPartial ++ " ") := by
    split
    · decide
    · exact lacks_append.mpr ⟨singleLine_modifiersWithoutPartial _, by decide⟩
  unfold Block.overloadHeader
  simp only [lacks_append]
  exact ⟨⟨⟨⟨⟨⟨hmodifiers, hmethod.returnType⟩, by decide⟩, hmethod.name⟩, by decide⟩,
    hparameters⟩, by decide⟩

theorem startsOtherwise_stringOverloadBlock {struct : NativeStruct} (h : struct.IsSingleLine) :
    StartsOtherwise (Block.stringOverloadBlock struct) := by
  apply StartsOtherwise.flatMap
  intro overload hmem
  split
  · exact .nil
  · -- there is a parameter to convert, so the first row declares the length of its buffer
    rename_i hsome
    obtain ⟨name, names, hnames⟩ : ∃ name names, overload.stringParameters = name :: names := by
      apply List.exists_cons_of_ne_nil
      simpa using hsome
    rw [Block.overloadMethod, hnames]
    apply StartsOtherwise.overload
    · exact singleLine_overloadHeader (fun s hs => h.overload hmem hs) .text
    · simp

/-- A struct without signatures starts with something else. -/
theorem startsOtherwise_blocks {struct : NativeStruct} (h : struct.IsSingleLine)
    (hsignatures : struct.hasSignatures = false) (config : Configuration) (table : AddressTable) :
    StartsOtherwise (struct.blocks config table) := by
  obtain ⟨⟨hmembers, hstatics⟩, htable⟩ :
      (struct.memberFunctions = [] ∧ struct.staticAddresses = []) ∧
        struct.staticVirtualTable = none := by
    simpa [NativeStruct.hasSignatures] using hsignatures
  have haddresses : Block.addressBlock config table struct = [] := by
    rw [Block.addressBlock, hsignatures]
    rfl
  have hmemberBlock : Block.memberFunctionBlock config table struct = [] := by
    rw [Block.memberFunctionBlock, hmembers]
    rfl
  have hstaticBlock : Block.staticAddressBlock config table struct = [] := by
    rw [Block.staticAddressBlock, hstatics]
    rfl
  have hlast : StartsOtherwise
      (Block.stringOverloadBlock struct ++ Block.fixedArrayBlock config struct) :=
    (startsOtherwise_stringOverloadBlock h).append (startsOtherwise_fixedArrayBlock config struct)
  have hblocks : struct.blocks config table = Block.virtualTableBlock config struct ++
      (Block.delegateBlock struct ++ (Block.virtualDispatchBlock struct ++
        (Block.stringOverloadBlock struct ++ Block.fixedArrayBlock config struct))) := by
    simp [NativeStruct.blocks, Block.all, Block.layout, haddresses, hmemberBlock, hstaticBlock]
  rw [hblocks]
  rcases hvirtual : struct.virtualFunctions with - | ⟨function, functions⟩
  · -- the first three blocks are empty as well
    have htableBlock : Block.virtualTableBlock config struct = [] := by
      rw [Block.virtualTableBlock, if_neg]
      simp [NativeStruct.hasVirtualTable, hvirtual, htable]
    have hdelegates : Block.delegateBlock struct = [] := by
      rw [Block.delegateBlock, hmembers, hvirtual]
      rfl
    have hdispatch : Block.virtualDispatchBlock struct = [] := by
      rw [Block.virtualDispatchBlock, hvirtual]
      rfl
    rw [htableBlock, hdelegates, hdispatch]
    exact hlast
  · -- the table type is written for the virtual functions, and it decides alone
    apply (startsOtherwise_virtualTableBlock config struct).append_of_ne_nil
    rw [Block.virtualTableBlock, if_pos]
    · exact List.cons_ne_nil _ _
    · simp [NativeStruct.hasVirtualTable, hvirtual]

end NativeBindings
