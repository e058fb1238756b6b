/-
NativeBindings/Proofs/Binding/AddressClass.lean

The class of the addresses is opened once in the source of a struct that has signatures, and never
in another one (`count_addressClass_sourceLayout`).  All other scopes have headers that start or end
differently, whatever the descriptor says.
-/
import NativeBindings.Binding.StructSource
import Mathlib.Data.List.Infix

namespace NativeBindings

open Source

/-- The step that opens the class of the addresses. -/
abbrev addressClass : Step := .openScope "public static class Addresses"

theorem addressClass_ne_of_start {start : String}
    (h : ¬ start.toList <+: "public static class Addresses".toList) (rest : String) :
    addressClass ≠ .openScope (start ++ rest) := by
  intro heq
  apply h
  rw [Step.openScope.inj heq, String.toList_append]
  exact List.prefix_append _ _

theorem addressClass_ne_of_end {ending : String}
    (h : ¬ ending.toList <:+ "public static class Addresses".toList) (front : String) :
    addressClass ≠ .openScope (front ++ ending) := by
  intro heq
  apply h
  rw [Step.openScope.inj heq, String.toList_append]
  exact List.suffix_append _ _

/-! ### Layouts that do not open the class -/

theorem addressClass_not_mem_scope {header : String} {body : Layout}
    (hheader : addressClass ≠ .openScope header) (hbody : addressClass ∉ body) :
    addressClass ∉ Layout.scope header body := by
  rw [Layout.scope, List.cons_append, List.mem_cons, List.mem_append, not_or, not_or]
  exact ⟨hheader, hbody, by simp⟩

theorem addressClass_not_mem_item {body : Layout} (h : addressClass ∉ body) :
    addressClass ∉ Layout.item body := by
  rw [Layout.item, List.mem_cons, not_or]
  exact ⟨by simp, h⟩

theorem addressClass_not_mem_append {first second : Layout} (hfirst : addressClass ∉ first)
    (hsecond : addressClass ∉ second) : addressClass ∉ first ++ second := by
  rw [List.mem_append, not_or]
  exact ⟨hfirst, hsecond⟩

theorem addressClass_not_mem_flatMap {α : Type} {items : List α} {layout : α → Layout}
    (h : ∀ item ∈ items, addressClass ∉ layout item) : addressClass ∉ items.flatMap layout := by
  rw [List.mem_flatMap]
  rintro ⟨item, hitem, hmem⟩
  exact h item hitem hmem

theorem addressClass_not_mem_map_line {α : Type} (items : List α) (content : α → String) :
    addressClass ∉ items.map fun item => Step.line (content item) := by
  simp

namespace Block

variable (config : Configuration) (table : AddressTable) (struct : NativeStruct)

theorem addressClass_not_mem_virtualTableBlock :
    addressClass ∉ virtualTableBlock config struct := by
  rw [virtualTableBlock]
  split
  · refine addressClass_not_mem_append (addressClass_not_mem_append ?_ ?_) ?_
    · apply addressClass_not_mem_item
      rw [List.mem_cons, not_or]
      refine ⟨by simp, addressClass_not_mem_scope ?_ (addressClass_not_mem_map_line _ _)⟩
      exact addressClass_ne_of_start (by decide) _
    · simp [Layout.item]
    · split <;> simp [Layout.item]
  · exact List.not_mem_nil

theorem addressClass_not_mem_delegateBlock : addressClass ∉ delegateBlock struct := by
  have hdelegate (method : Method) (isInstance : Bool) :
      addressClass ∉ delegate struct method isInstance := by
    rw [delegate]
    split <;> simp
  rw [delegateBlock]
  split
  · exact List.not_mem_nil
  · apply addressClass_not_mem_item
    apply addressClass_not_mem_scope (by decide)
    apply addressClass_not_mem_append
    · exact addressClass_not_mem_flatMap fun f _ => hdelegate _ _
    · exact addressClass_not_mem_flatMap fun f _ => hdelegate _ _

/-- The header of a method ends with a bracket. -/
theorem addressClass_not_mem_guardedMethod (method : Method) (holder statement : String) :
    addressClass ∉ guardedMethod config table struct method holder statement := by
  apply addressClass_not_mem_item
  apply addressClass_not_mem_scope
  · exact addressClass_ne_of_end (by decide) _
  apply addressClass_not_mem_append
  · -- the guard is a condition in brackets
    apply addressClass_not_mem_scope
    · exact addressClass_ne_of_end (by decide) _
    · simp
  · simp

theorem addressClass_not_mem_memberFunctionBlock :
    addressClass ∉ memberFunctionBlock config table struct := by
  rw [memberFunctionBlock]
  split
  · exact List.not_mem_nil
  · apply addressClass_not_mem_append
    · apply addressClass_not_mem_item
      exact addressClass_not_mem_scope (by decide) (addressClass_not_mem_map_line _ _)
    · apply addressClass_not_mem_flatMap
      intro f _
      exact addressClass_not_mem_guardedMethod config table struct _ _ _

theorem addressClass_not_mem_staticAddressBlock :
    addressClass ∉ staticAddressBlock config table struct := by
  rw [staticAddressBlock]
  split
  · exact List.not_mem_nil
  · apply addressClass_not_mem_append
    · apply addressClass_not_mem_item
      exact addressClass_not_mem_scope (by decide) (addressClass_not_mem_map_line _ _)
    · apply addressClass_not_mem_flatMap
      intro address _
      exact addressClass_not_mem_guardedMethod config table struct _ _ _

theorem addressClass_not_mem_virtualDispatchBlock : addressClass ∉ virtualDispatchBlock struct := by
  apply addressClass_not_mem_flatMap
  intro f _
  simp [dispatcher, Layout.item]

theorem addressClass_not_mem_overloadMethod (overload : StringOverload) (source : ArgumentForm) :
    addressClass ∉ overloadMethod overload source := by
  apply addressClass_not_mem_item
  apply addressClass_not_mem_scope
  · exact addressClass_ne_of_end (by decide) _
  apply addressClass_not_mem_append
  · simp
  · -- the pinned buffers stand in brackets as well
    apply addressClass_not_mem_scope
    · exact addressClass_ne_of_end (by decide) _
    · simp

theorem addressClass_not_mem_stringOverloadBlock :
    addressClass ∉ stringOverloadBlock struct := by
  apply addressClass_not_mem_flatMap
  intro overload _
  split
  · exact List.not_mem_nil
  · exact addressClass_not_mem_append (addressClass_not_mem_overloadMethod _ _)
      (addressClass_not_mem_overloadMethod _ _)

theorem addressClass_not_mem_capacityCheck (array : FixedArray) (capacity : Nat)
    (length : String) : addressClass ∉ capacityCheck config array capacity length := by
  apply addressClass_not_mem_scope
  · exact addressClass_ne_of_end (by decide) _
  · simp

theorem addressClass_not_mem_stringProperty (array : FixedArray) :
    addressClass ∉ stringProperty config array := by
  have hcheck := addressClass_not_mem_capacityCheck config array (capacityOf array)
  rw [stringProperty_eq]
  split
  · exact List.not_mem_nil
  · rename_i kind _
    split
    · exact List.not_mem_nil
    · apply addressClass_not_mem_item
      apply addressClass_not_mem_scope
      · exact addressClass_ne_of_start (by decide) _
      · cases kind with
        | utf8 => simp [stringAccessors, utf8Property, Layout.scope, hcheck]
        | utf16 => simp [stringAccessors, utf16Property, Layout.scope, hcheck]

theorem addressClass_not_mem_fixedArrayBlock : addressClass ∉ fixedArrayBlock config struct := by
  rw [fixedArrayBlock_eq_flatMap]
  apply addressClass_not_mem_flatMap
  intro array _
  apply addressClass_not_mem_append
  · simp [spanProperty, Layout.item]
  · exact addressClass_not_mem_stringProperty config array

theorem count_addressClass_addressBlock :
    (addressBlock config table struct).count addressClass =
      if struct.hasSignatures then 1 else 0 := by
  rw [addressBlock]
  split
  · have hlines : (table.records.map fun record => Step.line (addressLine config record)).count
        addressClass = 0 :=
      List.count_eq_zero_of_not_mem (addressClass_not_mem_map_line _ _)
    rw [Layout.item, Layout.scope, List.count_cons_of_ne (by simp), List.cons_append,
      List.count_cons_self, List.count_append, hlines]
    rfl
  · rfl

end Block

theorem addressClass_not_mem_fileHeader (nameSpace : String) :
    addressClass ∉ Layout.fileHeader nameSpace := by
  rw [Layout.fileHeader]
  split <;> simp

/-- The enclosing types are no classes. -/
theorem addressClass_not_mem_openings (struct : NativeStruct) : addressClass ∉ struct.openings := by
  apply addressClass_not_mem_flatMap
  intro name _
  rw [Layout.item, List.mem_cons, List.mem_singleton, not_or]
  exact ⟨by simp, addressClass_ne_of_start (by decide) _⟩

theorem addressClass_not_mem_closings (struct : NativeStruct) : addressClass ∉ struct.closings := by
  simp [NativeStruct.closings]

/-- One class if there is anything to scan for, and else none. -/
theorem count_addressClass_sourceLayout (config : Configuration) (table : AddressTable)
    (struct : NativeStruct) :
    (struct.sourceLayout config table).count addressClass =
      if struct.hasSignatures then 1 else 0 := by
  have hblocks : struct.blocks config table = Block.addressBlock config table struct ++
      (Block.virtualTableBlock config struct ++ (Block.delegateBlock struct ++
        (Block.memberFunctionBlock config table struct ++ (Block.virtualDispatchBlock struct ++
          (Block.staticAddressBlock config table struct ++ (Block.stringOverloadBlock struct ++
            (Block.fixedArrayBlock config struct ++ []))))))) := rfl
  have hzero {layout : Layout} (h : addressClass ∉ layout) : layout.count addressClass = 0 :=
    List.count_eq_zero_of_not_mem h
  rw [NativeStruct.sourceLayout, hblocks]
  simp only [List.count_append, Block.count_addressClass_addressBlock,
    hzero (addressClass_not_mem_fileHeader _), hzero (addressClass_not_mem_openings struct),
    hzero (addressClass_not_mem_closings struct),
    hzero (Block.addressClass_not_mem_virtualTableBlock config struct),
    hzero (Block.addressClass_not_mem_delegateBlock struct),
    hzero (Block.addressClass_not_mem_memberFunctionBlock config table struct),
    hzero (Block.addressClass_not_mem_virtualDispatchBlock struct),
    hzero (Block.addressClass_not_mem_staticAddressBlock config table struct),
    hzero (Block.addressClass_not_mem_stringOverloadBlock struct),
    hzero (Block.addressClass_not_mem_fixedArrayBlock config struct), List.count_nil, Nat.zero_add,
    Nat.add_zero]

end NativeBindings
