/-
NativeBindings/Proofs/Binding/BlockComposition.lean

The source of a struct as the composition of texts that are made apart from each other.  Each of the
eight kinds of code is a block (`isBlock_layout`): it begins with what sets it apart, it comes back
to its depth, and it clears the start of the scope exactly if it writes.  So what a block writes
does not depend on the blocks before it, whichever of these are empty, and the whole is

    file header, opened types, texts of the blocks with a line feed between two, closing braces.
-/
import NativeBindings.Proofs.Binding.StructReading
import NativeBindings.Proofs.Source.Balance

namespace NativeBindings

open Source Source.Layout

namespace Block

variable (config : Configuration) (table : AddressTable) (struct : NativeStruct)

/-! ### The eight kinds of code -/

theorem isBlock_addressBlock : IsBlock (addressBlock config table struct) := by
  rw [addressBlock]
  split
  · exact .item_scope _ (.map_line _ _)
  · exact .nil

theorem isBlock_virtualTableBlock : IsBlock (virtualTableBlock config struct) := by
  rw [virtualTableBlock]
  split
  · refine (IsBlock.append ?_ ?_).append ?_
    · -- the attribute and the type below it are one item
      exact .item (.line _ (.whole_scope _ (.map_line _ _))) (.line _ _)
    · exact .item (.singleton_line _) (.line _ _)
    · split
      · exact .item (.singleton_line _) (.line _ _)
      · exact .nil
  · exact .nil

theorem balanced_delegate (method : Method) (isInstance : Bool) :
    Balanced (delegate struct method isInstance) := by
  rw [delegate]
  split
  · exact (Balanced.singleton_line _).append (.singleton_line _)
  · exact .singleton_line _

theorem isBlock_delegateBlock : IsBlock (delegateBlock struct) := by
  rw [delegateBlock]
  split
  · exact .nil
  · apply IsBlock.item_scope
    apply Balanced.append
    · exact .flatMap fun f _ => balanced_delegate struct _ _
    · exact .flatMap fun f _ => balanced_delegate struct _ _

theorem balanced_nullGuard (holder id pattern : String) :
    Balanced (nullGuard config holder id pattern) :=
  .whole_scope _ (.singleton_line _)

theorem isBlock_guardedMethod (method : Method) (holder statement : String) :
    IsBlock (guardedMethod config table struct method holder statement) :=
  .item_scope _ ((balanced_nullGuard config _ _ _).append (.singleton_line _))

theorem isBlock_memberFunctionBlock : IsBlock (memberFunctionBlock config table struct) := by
  rw [memberFunctionBlock]
  split
  · exact .nil
  · apply IsBlock.append
    · exact .item_scope _ (.map_line _ _)
    · exact .flatMap fun f _ => isBlock_guardedMethod config table struct _ _ _

theorem isBlock_staticAddressBlock : IsBlock (staticAddressBlock config table struct) := by
  rw [staticAddressBlock]
  split
  · exact .nil
  · apply IsBlock.append
    · exact .item_scope _ (.map_line _ _)
    · exact .flatMap fun address _ => isBlock_guardedMethod config table struct _ _ _

theorem isBlock_virtualDispatchBlock : IsBlock (virtualDispatchBlock struct) :=
  .flatMap fun _ _ => .item (.line _ (.singleton_line _)) (.line _ _)

theorem isBlock_overloadMethod (overload : StringOverload) (source : ArgumentForm) :
    IsBlock (overloadMethod overload source) := by
  apply IsBlock.item_scope
  apply Balanced.append
  · exact .map_line _ _
  · exact .whole_scope _ (.singleton_line _)

theorem isBlock_stringOverloadBlock : IsBlock (stringOverloadBlock struct) := by
  apply IsBlock.flatMap
  intro overload _
  split
  · exact .nil
  · exact (isBlock_overloadMethod overload _).append (isBlock_overloadMethod overload _)

theorem balanced_capacityCheck (array : FixedArray) (capacity : Nat) (length : String) :
    Balanced (capacityCheck config array capacity length) :=
  .whole_scope _ (.singleton_line _)

theorem balanced_stringAccessors (array : FixedArray) (capacity : Nat) (kind : CharacterKind) :
    Balanced (stringAccessors config array capacity kind) := by
  have hcheck := balanced_capacityCheck config array capacity
  cases kind with
  | utf8 =>
    apply Balanced.append
    · exact .whole_scope _ (.line _ (.line _ (.singleton_line _)))
    · apply Balanced.whole_scope
      exact .line _ ((hcheck _).append (.line _ (.line _ (.singleton_line _))))
  | utf16 =>
    apply Balanced.append
    · exact .whole_scope _ (.line _ (.line _ (.singleton_line _)))
    · apply Balanced.whole_scope
      exact (hcheck _).append (.line _ (.line _ (.singleton_line _)))

theorem isBlock_stringProperty (array : FixedArray) : IsBlock (stringProperty config array) := by
  rw [stringProperty_eq]
  split
  · exact .nil
  · split
    · exact .nil
    · exact IsBlock.item_scope _ (balanced_stringAccessors config array _ _)

theorem isBlock_fixedArrayBlock : IsBlock (fixedArrayBlock config struct) := by
  rw [fixedArrayBlock_eq_flatMap]
  apply IsBlock.flatMap
  intro array _
  apply IsBlock.append
  · exact .item (.line _ (.singleton_line _)) (.line _ _)
  · exact isBlock_stringProperty config array

/-- **Every kind of code is a block.** -/
theorem isBlock_layout (block : Block) : IsBlock (block.layout config table struct) := by
  cases block with
  | addresses => exact isBlock_addressBlock config table struct
  | virtualTable => exact isBlock_virtualTableBlock config struct
  | delegates => exact isBlock_delegateBlock struct
  | memberFunctions => exact isBlock_memberFunctionBlock config table struct
  | virtualDispatch => exact isBlock_virtualDispatchBlock struct
  | staticAddresses => exact isBlock_staticAddressBlock config table struct
  | stringOverloads => exact isBlock_stringOverloadBlock struct
  | fixedArrays => exact isBlock_fixedArrayBlock config struct

/-- What a block writes by itself, at the depth of the inside of the struct and at the start of a
scope. -/
def text (block : Block) : String :=
  renderFrom { depth := struct.hierarchy.length, atScopeStart := true }
    (block.layout config table struct)

end Block

/-! ### The composition -/

/-- The rows that open types, each inside the one before it. -/
def openingText (names : List String) : String :=
  String.join (names.zipIdx.map fun (name, depth) =>
    row depth ("unsafe partial struct " ++ name) ++ row depth "\x7b")

/-- The closing braces of as many scopes, from the innermost to the outermost. -/
def closingText (count : Nat) : String :=
  String.join ((List.range count).reverse.map fun depth => row depth "\x7d")

theorem toList_openingText (names : List String) :
    (openingText names).toList = writeMany scopeChars 0 names := by
  rw [openingText, String.toList_join, List.flatMap_map, writeMany]
  refine congrArg (fun write => List.flatMap write names.zipIdx) ?_
  funext pair
  exact String.toList_append

theorem closingText_succ (count : Nat) :
    closingText (count + 1) = row count "\x7d" ++ closingText count := by
  simp [closingText, List.range_succ]

/-- The braces are written in the same way whatever stands before them. -/
theorem renderFrom_closings {α : Type} (items : List α) (atStart : Bool) :
    renderFrom ⟨items.length, atStart⟩ (items.map fun _ => .closeScope) =
      closingText items.length := by
  induction items generalizing atStart with
  | nil => simp [closingText, renderFrom, rows, renderRows]
  | cons item items ih =>
    rw [List.length_cons, closingText_succ, ← ih false]
    apply String.toList_inj.mp
    rw [String.toList_append]
    exact chars_closeScope _

theorem renderFrom_blocks (config : Configuration) (table : AddressTable)
    (struct : NativeStruct) :
    renderFrom { depth := struct.hierarchy.length } (struct.blocks config table) =
      "\n".intercalate ((Block.all.map (Block.text config table struct)).filter (· ≠ "")) := by
  have hblocks : ∀ layout ∈ Block.all.map (Block.layout config table struct), IsBlock layout := by
    intro layout hlayout
    obtain ⟨block, -, rfl⟩ := List.mem_map.mp hlayout
    exact Block.isBlock_layout config table struct block
  rw [NativeStruct.blocks, List.flatMap_def, renderFrom_flatten hblocks, if_pos (.inl rfl),
    String.empty_append, texts, List.map_map]
  rfl

/-- **The source of a struct is composed of independent texts.**  A struct has a source exactly if
its signatures can be encoded, and the source is the file header, the rows that open the types, the
texts that the eight blocks write by themselves, less the empty ones and with one line feed between
two, and one closing brace for each type. -/
theorem compile_eq_ok_iff_composed (config : Configuration) (struct : NativeStruct)
    (source : String) :
    struct.compile config = .ok source ↔
      ∃ table, AddressTable.encode struct = .ok table ∧
        source = headerText struct.nameSpace ++ openingText struct.typePath ++
          "\n".intercalate ((Block.all.map (Block.text config table struct)).filter (· ≠ "")) ++
          closingText struct.hierarchy.length := by
  rw [NativeStruct.compile_eq_ok_iff]
  refine exists_congr fun table => and_congr_right fun _ => Eq.congr_right ?_
  have hlength : struct.typePath.length = struct.hierarchy.length := List.length_reverse
  -- the blocks come back to their depth, where the closing braces start
  have hfinish : (struct.blocks config table).finish { depth := struct.hierarchy.length } =
      ⟨struct.hierarchy.length, (struct.blocks config table).isEmpty⟩ := by
    have hbalanced : Balanced (struct.blocks config table) :=
      .flatMap fun block _ => (Block.isBlock_layout config table struct block).balanced
    exact hbalanced.finish_eq
  apply String.toList_inj.mp
  rw [toList_sourceLayout, hlength]
  have hinside : Layout.chars ⟨struct.hierarchy.length, true⟩
      (struct.blocks config table ++ struct.closings) =
        ("\n".intercalate ((Block.all.map (Block.text config table struct)).filter (· ≠ "")) ++
          closingText struct.hierarchy.length).toList := by
    rw [← renderFrom_blocks, ← renderFrom_closings struct.hierarchy
      (struct.blocks config table).isEmpty, ← hfinish]
    exact congrArg String.toList (renderFrom_append _ _ _)
  rw [hinside, ← toList_openingText]
  simp only [String.toList_append, List.append_assoc]

end NativeBindings
