/-
NativeBindings/Proofs/Binding/SlotRanges.lean

Where the slots of virtual functions lie.  In the source of a struct the table type has one row for
each virtual function, and the offset of the slot can be read from its row:

    offset = index * width of a pointer

(`placesSlots_compile`).  A slot takes as many bytes as a pointer has.  So if pointers have any width
at all, slots of different index have no byte in common (`disjoint_slotBytes`), and if they have
none, every slot lies at the start of the table.
-/
import NativeBindings.Proofs.Binding.RecordDecoding
import Mathlib.Data.Set.Lattice
import Mathlib.Order.CompletePartialOrder
import Mathlib.Order.Interval.Set.Basic

namespace NativeBindings

open Source Source.Layout Text

/-! ### Bytes -/

/-- The bytes of a slot at an offset, for a width of pointers. -/
def slotBytes (width : UInt32) (offset : Nat) : Set Nat := Set.Ico offset (offset + width.toNat)

variable {width : UInt32}

theorem nonempty_slotBytes (h : width ≠ 0) (offset : Nat) : (slotBytes width offset).Nonempty := by
  have hpos : 0 < width.toNat := by
    rw [Nat.pos_iff_ne_zero]
    intro hzero
    exact h (UInt32.toNat_inj.mp hzero)
  exact Set.nonempty_Ico.mpr (Nat.lt_add_of_pos_right hpos)

theorem slotBytes_zero (offset : Nat) : slotBytes 0 offset = ∅ := Set.Ico_self offset

/-- A slot ends where the next one starts, or before. -/
theorem disjoint_slotBytes {index other : Nat} (h : index ≠ other) :
    Disjoint (slotBytes width (index * width.toNat)) (slotBytes width (other * width.toNat)) := by
  rw [Set.disjoint_left]
  rintro byte ⟨hstart, hend⟩ ⟨hstart', hend'⟩
  rw [← Nat.succ_mul] at hend hend'
  rcases Nat.lt_or_gt_of_ne h with hlt | hgt
  · have hle := Nat.mul_le_mul_right width.toNat (Nat.succ_le_of_lt hlt)
    omega
  · have hle := Nat.mul_le_mul_right width.toNat (Nat.succ_le_of_lt hgt)
    omega

/-! ### Rows -/

/-- The text in front of the offset of a field. -/
def offsetStart : String := "[global::System.Runtime.InteropServices.FieldOffsetAttribute("

/-- Read the offset in the row of a field that has one. -/
def readFieldOffset (row : String) : Option Nat := do
  let text ← expect offsetStart (row.toList.dropWhile (· = ' '))
  let _ ← expect ")] public " (text.dropWhile Char.isDigit)
  naturalBelow? UInt64.size (String.ofList (text.takeWhile Char.isDigit))

/-- A row that declares the slot of a virtual function at an offset. -/
structure PlacesSlot (function : VirtualFunction) (offset : Nat) (row : Row) : Prop where
  offset_eq : readFieldOffset row.render = some offset
  named : ∃ front, row.render = front ++ " " ++ function.method.name ++ ";\n"

variable {config : Configuration} {struct : NativeStruct}

theorem slotLine_eq (function : VirtualFunction) :
    Block.slotLine config struct function =
      offsetStart ++ toString (config.slotOffset function.index).toNat ++ ")] public " ++
        (struct.functionPointerType function.method true ++ " " ++ function.method.name ++ ";") := by
  have hstart : "[" ++ interopServices ++ ".FieldOffsetAttribute(" = offsetStart := by decide
  have hend : ")] public " = ")]" ++ " public " := by decide
  rw [Block.slotLine, Block.fieldOffset, hstart, hend]
  simp only [String.append_assoc]

/-- **The row of a virtual function places its slot.**  A product of two numbers of 32 bits fits
into 64 bits, so the offset is not cut. -/
theorem placesSlot_slotLine (function : VirtualFunction) (depth : Nat) :
    PlacesSlot function (function.index.toNat * config.pointerSize.toNat)
      (.text depth (Block.slotLine config struct function)) where
  offset_eq := by
    generalize hrest : struct.functionPointerType function.method true ++ " " ++
      function.method.name ++ ";" = rest
    have hhead : (Block.slotLine config struct function).toList.head? ≠ some ' ' := by
      rw [slotLine_eq]
      unfold offsetStart
      simp
    have hline : (Block.slotLine config struct function).toList ++ ['\n'] = offsetStart.toList ++
        ((toString (config.slotOffset function.index).toNat).toList ++
          (")] public ".toList ++ (rest.toList ++ ['\n']))) := by
      rw [slotLine_eq, hrest]
      simp only [String.toList_append, List.append_assoc]
    have hend : EndsNumber (")] public ".toList ++ (rest.toList ++ ['\n'])) :=
      endsNumber_append rfl (by decide) _
    have hall : ∀ c ∈ (toString (config.slotOffset function.index).toNat).toList,
        c.isDigit = true := fun _ => isDigit_of_mem_toString
    obtain ⟨hdigits, hbehind⟩ := span_isDigit_append hall hend
    have hoffset := naturalBelow?_toString (config.slotOffset function.index).toNat_lt
    rw [readFieldOffset, dropWhile_render_text depth hhead, hline]
    simp only [expect_append, hdigits, hbehind, Option.bind_eq_bind, Option.bind_some,
      String.ofList_toList]
    rw [← Configuration.toNat_slotOffset]
    exact hoffset
  named := by
    refine ⟨String.ofList (List.replicate (indentWidth * depth) ' ') ++
      Block.fieldOffset (config.slotOffset function.index).toNat ++ " public " ++
      struct.functionPointerType function.method true, ?_⟩
    have hend : ";\n" = ";" ++ "\n" := by decide
    rw [Row.render, Block.slotLine, hend]
    simp only [String.append_assoc]

/-! ### The table -/

/-- A source that declares the table type of a struct, with a row for each virtual function, in
order, that places its slot. -/
def PlacesSlots (struct : NativeStruct) (offset : VirtualFunction → Nat) (source : String) :
    Prop :=
  ∃ before depth slots behind,
    source = renderRows (before ++
      .text depth ("public unsafe partial struct " ++ struct.virtualTableType) ::
        .text depth "\x7b" :: (slots ++ .text depth "\x7d" :: behind)) ∧
    List.Forall₂ (fun function row => PlacesSlot function (offset function) row)
      struct.virtualFunctions slots

/-- The table type is one scope of the source. -/
theorem exists_sourceLayout_eq_table (config : Configuration) (table : AddressTable)
    {struct : NativeStruct} (h : struct.hasVirtualTable) :
    ∃ before behind, struct.sourceLayout config table =
      before ++ (Layout.scope ("public unsafe partial struct " ++ struct.virtualTableType)
        (struct.virtualFunctions.map fun function =>
          .line (Block.slotLine config struct function)) ++ behind) := by
  obtain ⟨marker, behind, hblock⟩ := exists_virtualTableBlock_eq config h
  refine ⟨Layout.fileHeader struct.nameSpace ++ struct.openings ++
    Block.addressBlock config table struct ++ [.separator, .line marker], behind ++
      ((Block.all.drop 2).flatMap (Block.layout config table struct) ++ struct.closings), ?_⟩
  simp only [NativeStruct.sourceLayout, NativeStruct.blocks, Block.all, Block.layout, hblock,
    List.drop, List.flatMap_cons, List.flatMap_nil, List.append_assoc, List.append_nil]

/-- **The slots in the source of a struct.** -/
theorem placesSlots_compile {source : String} (h : struct.compile config = .ok source)
    (hne : struct.virtualFunctions ≠ []) :
    PlacesSlots struct (fun function => function.index.toNat * config.pointerSize.toNat)
      source := by
  obtain ⟨table, -, rfl⟩ := NativeStruct.compile_eq_ok_iff.mp h
  obtain ⟨before, behind, hlayout⟩ :=
    exists_sourceLayout_eq_table config table (hasVirtualTable_of_ne_nil hne)
  have hbody := Balanced.map_line struct.virtualFunctions (Block.slotLine config struct)
  obtain ⟨front, ⟨depth, atStart⟩, cursor, hrows⟩ := exists_rows_append {} before
    (Layout.scope ("public unsafe partial struct " ++ struct.virtualTableType)
      (struct.virtualFunctions.map fun function => .line (Block.slotLine config struct function)))
    behind
  rw [rows_scope _ hbody, rows_map_line] at hrows
  refine ⟨front, depth, struct.virtualFunctions.map fun function =>
    Row.text (depth + 1) (Block.slotLine config struct function), rows cursor behind, ?_, ?_⟩
  · rw [Layout.render, renderFrom, hlayout, hrows]
    simp only [List.append_assoc, List.cons_append, List.nil_append]
  · rw [List.forall₂_map_right_iff, List.forall₂_same]
    exact fun function _ => placesSlot_slotLine function (depth + 1)

end NativeBindings
