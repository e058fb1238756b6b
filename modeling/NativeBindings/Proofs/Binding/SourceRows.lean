/-
NativeBindings/Proofs/Binding/SourceRows.lean

The rows of a source, cut where its addresses are declared and used: the class of the records
(`rows_addressBlock`), the table type (`exists_virtualTableBlock_eq`), a class of holders with the
methods behind it (`exists_rows_holders`, `rows_guardedMethod`), and the whole source around them
(`exists_rows_sourceLayout`).
-/
import NativeBindings.Proofs.Binding.AddressTable
import NativeBindings.Proofs.Source.Balance

namespace NativeBindings

open Source Source.Layout

/-! ### The class of the addresses -/

theorem rows_addressBlock (config : Configuration) (table : AddressTable) {struct : NativeStruct}
    (h : struct.hasSignatures) (depth : Nat) (atStart : Bool) :
    rows ⟨depth, atStart⟩ (Block.addressBlock config table struct) =
      Step.separator.rows ⟨depth, atStart⟩ ++
        (.text depth "public static class Addresses" :: .text depth "\x7b" ::
          ((table.records.map fun record =>
            Row.text (depth + 1) (Block.addressLine config record)) ++ [.text depth "\x7d"])) := by
  rw [Block.addressBlock, if_pos h, rows_item, rows_scope _ (.map_line _ _), rows_map_line]

/-- With or without signatures, the records stand one below the other. -/
theorem exists_rows_addressBlock (config : Configuration) {table : AddressTable}
    {struct : NativeStruct} (h : AddressTable.encode struct = .ok table) (cursor : Cursor) :
    ∃ depth opening closing,
      rows cursor (Block.addressBlock config table struct) =
        opening ++ (table.records.map fun record =>
          Row.text depth (Block.addressLine config record)) ++ closing := by
  obtain ⟨depth, atStart⟩ := cursor
  rcases hsignatures : struct.hasSignatures with - | -
  · have hrecords : table.records = [] := by
      have hnames := AddressTable.map_name_records h
      rw [NativeStruct.hasSignatures_eq_false_iff.mp hsignatures] at hnames
      exact List.map_eq_nil_iff.mp hnames
    refine ⟨depth, [], [], ?_⟩
    rw [Block.addressBlock, hsignatures, hrecords]
    rfl
  · refine ⟨depth + 1, Step.separator.rows ⟨depth, atStart⟩ ++
      [.text depth "public static class Addresses", .text depth "\x7b"], [.text depth "\x7d"], ?_⟩
    rw [rows_addressBlock config table hsignatures]
    simp only [List.append_assoc, List.cons_append, List.nil_append]

/-! ### The table type -/

theorem hasVirtualTable_of_ne_nil {struct : NativeStruct} (h : struct.virtualFunctions ≠ []) :
    struct.hasVirtualTable := by
  rw [NativeStruct.hasVirtualTable, List.isEmpty_eq_false_iff.mpr h]
  rfl

/-- The type of the virtual table stands below an attribute, with one line for each slot. -/
theorem exists_virtualTableBlock_eq (config : Configuration) {struct : NativeStruct}
    (h : struct.hasVirtualTable) :
    ∃ marker behind, Block.virtualTableBlock config struct =
      [.separator, .line marker] ++
        (Layout.scope ("public unsafe partial struct " ++ struct.virtualTableType)
          (struct.virtualFunctions.map fun function =>
            .line (Block.slotLine config struct function)) ++ behind) := by
  rw [Block.virtualTableBlock, if_pos h, List.append_assoc]
  exact ⟨_, _, rfl⟩

/-! ### Holders -/

/-- A class of holders and the methods behind it. -/
theorem exists_rows_holders {α : Type} (items : List α) (header : String) (holder : α → String)
    {method : α → Layout} (hmethod : ∀ item ∈ items, Balanced (method item)) (depth : Nat)
    (atStart : Bool) :
    ∃ front,
      rows ⟨depth, atStart⟩
          (if items.isEmpty then [] else
            Layout.item (Layout.scope header (items.map fun item => .line (holder item))) ++
              items.flatMap method) =
        front ++ (scopeRows depth header (items.map holder) ++
          items.flatMap fun item => rows ⟨depth, false⟩ (method item)) := by
  cases items with
  | nil => exact ⟨[], rfl⟩
  | cons first items =>
    have hscope := IsBlock.item_scope header (Balanced.map_line (first :: items) holder)
    refine ⟨Step.separator.rows ⟨depth, atStart⟩, ?_⟩
    rw [if_neg (by simp), rows_append, hscope.balanced.finish_eq]
    -- the class has been written, so the methods do not depend on what stood before it
    show _ ++ rows ⟨depth, atStart && false⟩ _ = _
    rw [Bool.and_false, rows_flatMap hmethod, rows_item, ← List.append_assoc,
      rows_scope_lines _ (List.cons_ne_nil _ _)]

/-- The rows of a method that checks its holder. -/
theorem rows_guardedMethod {config : Configuration} (table : AddressTable) (struct : NativeStruct)
    (method : Method) (holder statement : String) (depth : Nat) :
    rows ⟨depth, false⟩ (Block.guardedMethod config table struct method holder statement) =
      [.blank, .text depth method.header, .text depth "\x7b",
        .text (depth + 1) ("if (" ++ holder ++ " is null)"), .text (depth + 1) "\x7b",
        .text (depth + 2) (config.runtimeType "ThrowHelper" ++ ".ThrowNullAddress(" ++
          stringLiteral (struct.addressId method.name) ++ ", " ++
          stringLiteral (table.pattern method.name) ++ ");"),
        .text (depth + 1) "\x7d", .text (depth + 1) statement, .text depth "\x7d"] :=
  rfl

/-! ### The whole source -/

theorem exists_rows_sourceLayout (config : Configuration) (table : AddressTable)
    (struct : NativeStruct) :
    ∃ first second third before between behind after,
      (struct.sourceLayout config table).rows {} =
        before ++ (rows first (Block.addressBlock config table struct) ++ (between ++
          (rows second (Block.memberFunctionBlock config table struct) ++ (behind ++
            (rows third (Block.staticAddressBlock config table struct) ++ after))))) := by
  have hlayout : struct.sourceLayout config table =
      (Layout.fileHeader struct.nameSpace ++ struct.openings) ++
        (Block.addressBlock config table struct ++
          ((Block.virtualTableBlock config struct ++ Block.delegateBlock struct) ++
            (Block.memberFunctionBlock config table struct ++
              (Block.virtualDispatchBlock struct ++
                (Block.staticAddressBlock config table struct ++
                  (Block.stringOverloadBlock struct ++ (Block.fixedArrayBlock config struct ++
                    struct.closings))))))) := by
    simp only [NativeStruct.sourceLayout, NativeStruct.blocks, Block.all, Block.layout,
      List.flatMap_cons, List.flatMap_nil, List.append_assoc, List.append_nil]
  obtain ⟨before, first, cursor, hfirst⟩ := exists_rows_append {}
    (Layout.fileHeader struct.nameSpace ++ struct.openings)
    (Block.addressBlock config table struct) _
  obtain ⟨between, second, cursor', hsecond⟩ := exists_rows_append cursor
    (Block.virtualTableBlock config struct ++ Block.delegateBlock struct)
    (Block.memberFunctionBlock config table struct) _
  obtain ⟨behind, third, cursor'', hthird⟩ := exists_rows_append cursor'
    (Block.virtualDispatchBlock struct) (Block.staticAddressBlock config table struct) _
  exact ⟨first, second, third, before, between, behind, _, by
    rw [hlayout, hfirst, hsecond, hthird]⟩

end NativeBindings
