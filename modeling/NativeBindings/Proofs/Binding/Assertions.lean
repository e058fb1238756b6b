/-
NativeBindings/Proofs/Binding/Assertions.lean

A compiler that checks what it relies on.  Tokens that are packed have to fill whole words, there
have to be records exactly where a struct has signatures, a number that is kept for a name has to be
that of a record, the offset of a slot has to fit into 64 bits, and an array has to have room where
one element is taken off.  A scope that is closed has to be open, a block has to end at the depth
where it starts, and a source outside all scopes.  Without the checks the compiler would go on: an
offset would wrap around, a length or a depth would stay at zero, a group of tokens would be
dropped.  With them a run stops, for a cause that is no error of the compiler.

The checks never fail, so they can be left out:

    struct.compileAsserted config = (struct.compileUnless false config).mapError Stop.error

(`compileAsserted_eq`).  A page is written step by step and refuses to close what is not open.  One
lemma each says what it makes of layouts that close nothing, of balanced layouts, and of closing
braces; a block is balanced, and its own checks are met by what the table of addresses holds
(`Block.check_eq`).  The check of an array stands where one element is taken off its length, so it
is met only because nothing is taken off an array that has none (`Block.layoutAsserted_eq`).
-/
import NativeBindings.Proofs.Binding.AddressLookup
import NativeBindings.Proofs.Binding.BlockComposition

namespace NativeBindings

open Signature Source

/-- A check that fails. -/
inductive AssertionFailure where
  /-- Tokens that do not fill whole words. -/
  | partialWord
  /-- Records without signatures, or signatures without records. -/
  | recordMismatch
  /-- A name with the number of no record. -/
  | noRecord (name : String)
  /-- A slot whose offset does not fit into 64 bits. -/
  | offsetOverflow (index : UInt32)
  /-- An array of which no element can be taken off. -/
  | noRoom (field : String)
  /-- A scope that is closed where none is open. -/
  | nothingOpen
  /-- A block that ends at another depth than it starts at. -/
  | depthChanged (block : Block)
  /-- A source that ends inside a scope. -/
  | scopeOpen
deriving DecidableEq

/-- Why a run stops. -/
inductive Stop where
  | failure (failure : AssertionFailure)
  | error (error : GenerationError)
deriving DecidableEq

/-- Go on if a condition holds. -/
def ensure (condition : Prop) [Decidable condition] (failure : AssertionFailure) :
    Except Stop Unit :=
  if condition then .ok () else .error (.failure failure)

/-- A part of a run that is not stopped hands over its value. -/
theorem bind_of_ok {α β : Type} {run : Except Stop α} {value : α} (h : run = .ok value)
    (next : α → Except Stop β) : (run >>= next) = next value := by
  rw [h]
  rfl

theorem ensure_eq {condition : Prop} [Decidable condition] (h : condition)
    (failure : AssertionFailure) : ensure condition failure = .ok () :=
  if_pos h

/-! ### Signatures -/

/-- Pack tokens that fill whole words. -/
def packAsserted (byte : Token → UInt8) (tokens : List Token) : Except Stop (List UInt64) := do
  ensure (tokens.length % bytesPerWord = 0) .partialWord
  return pack byte tokens

/-- Encode one signature of a struct. -/
def NativeStruct.encodeNamedAsserted (struct : NativeStruct) (named : NamedSignature) :
    Except Stop AddressRecord :=
  let id := struct.addressId named.name
  match tokenize named.signature.pattern with
  | .error cause => .error (.error (.malformedSignature id cause))
  | .ok tokens => do
      let signatureWords ← packAsserted Token.signatureByte (pad tokens)
      let maskWords ← packAsserted Token.maskByte (pad tokens)
      return { name := named.name, id
               encoded :=
                { pattern := join tokens
                  padded := join (pad tokens)
                  relocationOffsets := named.signature.relocationOffsets
                  signatureWords, maskWords } }

/-- Encode the signatures of a struct one after the other. -/
def AddressIndex.encodeAsserted (struct : NativeStruct) : Except Stop AddressIndex :=
  struct.namedSignatures.foldlM
    (fun index named => do return index.push (← struct.encodeNamedAsserted named)) {}

theorem packAsserted_pad (byte : Token → UInt8) (tokens : List Token) :
    packAsserted byte (pad tokens) = .ok (pack byte (pad tokens)) := by
  have hwords : (pad tokens).length % bytesPerWord = 0 := by
    rw [length_pad]
    exact Nat.mod_eq_zero_of_dvd (dvd_paddedLength tokens.length)
  rw [packAsserted, bind_of_ok (ensure_eq hwords _)]
  rfl

/-- Padded tokens are packed, so a signature fails for its words only. -/
theorem NativeStruct.encodeNamedAsserted_eq (struct : NativeStruct) (named : NamedSignature) :
    struct.encodeNamedAsserted named = (struct.encodeNamed named).mapError Stop.error := by
  rw [encodeNamedAsserted, encodeNamed, Signature.encode]
  rcases tokenize named.signature.pattern with cause | tokens
  · rfl
  · simp only [packAsserted_pad]
    rfl

theorem AddressIndex.encodeAsserted_eq (struct : NativeStruct) :
    encodeAsserted struct = (encode struct).mapError Stop.error := by
  have hfill : ∀ (signatures : List NamedSignature) (index : AddressIndex),
      signatures.foldlM
          (fun (index : AddressIndex) named => do
            return index.push (← struct.encodeNamedAsserted named)) index =
        (signatures.foldlM
          (fun (index : AddressIndex) named => do
            return index.push (← struct.encodeNamed named)) index).mapError Stop.error := by
    intro signatures
    induction signatures with
    | nil => exact fun _ => rfl
    | cons named rest ih =>
      intro index
      rw [List.foldlM_cons, List.foldlM_cons, struct.encodeNamedAsserted_eq]
      rcases struct.encodeNamed named with error | record
      · rfl
      · exact ih (index.push record)
  exact hfill _ _

/-! ### Pages -/

/-- What has been written, and where the next step is taken. -/
structure Page where
  cursor : Cursor := {}
  rows : List Row := []

/-- Whether a step goes back one level. -/
def Source.Step.goesBack : Step → Bool
  | dedent | closeScope => true
  | _ => false

namespace Page

/-- Take a step; there has to be a level to go back. -/
def take (page : Page) (step : Step) : Except Stop Page := do
  if step.goesBack then ensure (page.cursor.depth ≠ 0) .nothingOpen
  return { cursor := step.next page.cursor, rows := page.rows ++ step.rows page.cursor }

/-- Take all steps of a layout. -/
def write (page : Page) (layout : Layout) : Except Stop Page := layout.foldlM take page

/-- The page behind a layout. -/
def after (page : Page) (layout : Layout) : Page where
  cursor := layout.finish page.cursor
  rows := page.rows ++ layout.rows page.cursor

variable {page : Page} {layout first second : Layout}

@[simp] theorem after_nil (page : Page) : page.after [] = page := by
  rw [after, Layout.finish_nil, Layout.rows, List.append_nil]

theorem after_append (page : Page) (first second : Layout) :
    page.after (first ++ second) = (page.after first).after second := by
  simp only [after, Layout.finish_append, Layout.rows_append, List.append_assoc]

theorem write_nil (page : Page) : page.write [] = .ok (page.after []) := by
  rw [after_nil]
  rfl

/-- The rest is written from where a step leads; a step that goes back needs a level. -/
theorem write_cons {step : Step} {rest : Layout}
    (hstep : step.goesBack = true → page.cursor.depth ≠ 0)
    (hrest : (page.after [step]).write rest = .ok ((page.after [step]).after rest)) :
    page.write (step :: rest) = .ok (page.after (step :: rest)) := by
  have hafter : page.after [step] =
      { cursor := step.next page.cursor, rows := page.rows ++ step.rows page.cursor } := by
    rw [after, Layout.rows, Layout.rows, List.append_nil]
    rfl
  have htaken : page.take step = .ok (page.after [step]) := by
    rw [take, hafter]
    cases hback : step.goesBack with
    | false => rfl
    | true => exact bind_of_ok (ensure_eq (hstep hback) _) _
  have hsplit : page.after (step :: rest) = (page.after [step]).after rest :=
    page.after_append [step] rest
  rw [write, List.foldlM_cons, bind_of_ok htaken, hsplit]
  exact hrest

theorem write_append (hfirst : page.write first = .ok (page.after first))
    (hsecond : (page.after first).write second = .ok ((page.after first).after second)) :
    page.write (first ++ second) = .ok (page.after (first ++ second)) := by
  rw [after_append, ← hsecond, write, List.foldlM_append]
  exact bind_of_ok hfirst _

/-- A layout that never goes back is written. -/
theorem write_of_not_goesBack (h : ∀ step ∈ layout, step.goesBack = false) :
    page.write layout = .ok (page.after layout) := by
  induction layout generalizing page with
  | nil => exact page.write_nil
  | cons step rest ih =>
    obtain ⟨hstep, hrest⟩ := List.forall_mem_cons.mp h
    refine write_cons (fun hback => ?_) (ih hrest)
    cases hstep.symm.trans hback

/-- A balanced layout is written: it closes the scopes that it opens, and no others. -/
theorem write_of_balanced (h : layout.Balanced) : page.write layout = .ok (page.after layout) := by
  induction h generalizing page with
  | nil => exact page.write_nil
  | line content _ ih => exact write_cons nofun ih
  | separator _ _ ih => exact write_cons nofun ih
  | @scope header body rest hbody _ ihbody ih =>
    -- the depth behind the body is that behind the opening brace
    have hdepth : ((page.after [.openScope header]).after body).cursor.depth ≠ 0 := by
      show (body.finish ⟨page.cursor.depth + 1, true⟩).depth ≠ 0
      rw [hbody.finish_eq]
      exact Nat.succ_ne_zero _
    have hclosed : (page.after [.openScope header]).write (body ++ [.closeScope]) =
        .ok ((page.after [.openScope header]).after (body ++ [.closeScope])) :=
      write_append ihbody (write_cons (fun _ => hdepth) (write_nil _))
    have hscope : page.write (Layout.scope header body) =
        .ok (page.after (Layout.scope header body)) := write_cons nofun hclosed
    exact write_append hscope ih

/-- One closing brace more is refused. -/
example : Page.write {} [.openScope "union U", .closeScope, .closeScope] =
    .error (.failure .nothingOpen) := rfl

/-- Closing braces are written as long as scopes are open. -/
theorem write_closings {α : Type} {items : List α} (h : items.length ≤ page.cursor.depth) :
    page.write (items.map fun _ => .closeScope) =
      .ok (page.after (items.map fun _ => .closeScope)) := by
  induction items generalizing page with
  | nil => exact page.write_nil
  | cons item items ih =>
    rw [List.length_cons] at h
    refine write_cons (fun _ => by omega) (ih ?_)
    show items.length ≤ page.cursor.depth - 1
    omega

end Page

/-- Each opened type is one level. -/
theorem depth_finish_openings (names : List String) (cursor : Cursor) :
    (Layout.finish cursor (names.flatMap fun name =>
      Layout.item [.openScope ("unsafe partial struct " ++ name)])).depth =
        cursor.depth + names.length := by
  induction names generalizing cursor with
  | nil => rfl
  | cons name names ih =>
    rw [List.flatMap_cons, Layout.finish_append, ih, List.length_cons]
    show cursor.depth + 1 + names.length = _
    omega

/-- Each closing brace takes one level. -/
theorem depth_finish_closings {α : Type} (items : List α) (cursor : Cursor) :
    (Layout.finish cursor (items.map fun _ => .closeScope)).depth =
      cursor.depth - items.length := by
  induction items generalizing cursor with
  | nil => rfl
  | cons item items ih =>
    rw [List.map_cons, Layout.finish_cons, ih, List.length_cons]
    show cursor.depth - 1 - items.length = _
    omega

/-! ### Blocks -/

/-- Check that the number kept for a name is that of a record. -/
def AddressIndex.checkNumber (index : AddressIndex) (name : String) : Except Stop Unit :=
  match index.numbers[name]? with
  | none => .ok ()
  | some number => ensure (number < index.records.length) (.noRecord name)

/-- Check that the offset of a slot fits into 64 bits. -/
def Configuration.checkOffset (config : Configuration) (index : UInt32) : Except Stop Unit :=
  ensure (index.toNat * config.pointerSize.toNat < 2 ^ 64) (.offsetOverflow index)

/-- Take one element off an array; there has to be one. -/
def FixedArray.takeOneOff (array : FixedArray) : Except Stop Nat := do
  ensure (1 ≤ array.length.toNat) (.noRoom array.field)
  return Block.capacityOf array

namespace Block

/-- What a block relies on: the addresses on the records, the virtual table on the offsets of its
slots, and what uses addresses on their numbers. -/
def check (config : Configuration) (index : AddressIndex) (struct : NativeStruct) :
    Block → Except Stop Unit
  | .addresses => ensure (struct.hasSignatures = !index.records.isEmpty) .recordMismatch
  | .virtualTable =>
      if struct.hasVirtualTable then
        struct.virtualFunctions.forM fun function => config.checkOffset function.index
      else .ok ()
  | .memberFunctions =>
      struct.memberFunctions.forM fun function => index.checkNumber function.method.name
  | .staticAddresses =>
      struct.staticAddresses.forM fun address => index.checkNumber address.method.name
  | .delegates | .virtualDispatch | .stringOverloads | .fixedArrays => .ok ()

/-- Lay out a block; the arrays are checked where one element is taken off them. -/
def layoutAsserted (config : Configuration) (index : AddressIndex) (struct : NativeStruct) :
    Block → Except Stop Layout
  | .fixedArrays => fixedArrayBlockWith FixedArray.takeOneOff config struct.fixedArrays
  | block => return block.layout config { records := index.records } struct

/-- Check what a block relies on, write it, and check that it comes back to its depth. -/
def writeAsserted (config : Configuration) (index : AddressIndex) (struct : NativeStruct)
    (page : Page) (block : Block) : Except Stop Page := do
  block.check config index struct
  let written ← page.write (← block.layoutAsserted config index struct)
  ensure (written.cursor.depth = page.cursor.depth) (.depthChanged block)
  return written

end Block

theorem forM_eq_ok {α : Type} {check : α → Except Stop Unit} {items : List α}
    (h : ∀ item ∈ items, check item = .ok ()) : items.forM check = .ok () := by
  induction items with
  | nil => rfl
  | cons item items ih =>
    obtain ⟨hitem, hitems⟩ := List.forall_mem_cons.mp h
    exact (bind_of_ok hitem _).trans (ih hitems)

theorem AddressIndex.checkNumber_eq {index : AddressIndex} (h : index.InRange) (name : String) :
    index.checkNumber name = .ok () := by
  rw [checkNumber]
  split
  · rfl
  · rename_i number hnumber
    exact ensure_eq (h name number hnumber) _

/-- A slot's number and the width of a pointer have 32 bits each. -/
theorem Configuration.checkOffset_eq (config : Configuration) (index : UInt32) :
    config.checkOffset index = .ok () := by
  refine ensure_eq ?_ _
  rw [← config.toNat_slotOffset]
  exact (config.slotOffset index).toNat_lt

theorem FixedArray.takeOneOff_eq {array : FixedArray} (h : array.length ≠ 0) :
    array.takeOneOff = .ok (Block.capacityOf array) := by
  have hroom : 1 ≤ array.length.toNat :=
    Nat.one_le_iff_ne_zero.mpr fun hzero => h (UInt32.toNat_inj.mp hzero)
  exact bind_of_ok (ensure_eq hroom _) _

/-- An array without elements has none to take off. -/
example : FixedArray.takeOneOff { field := "_name", elementType := "byte", length := 0 } =
    .error (.failure (.noRoom "_name")) := rfl

/-- There are records exactly where there is something to scan for. -/
theorem hasSignatures_eq {struct : NativeStruct} {table : AddressTable}
    (h : AddressTable.encode struct = .ok table) :
    struct.hasSignatures = !table.records.isEmpty := by
  have hnone : struct.hasSignatures = false ↔ table.records = [] := by
    rw [NativeStruct.hasSignatures_eq_false_iff, ← List.length_eq_zero_iff,
      (AddressTable.encode_eq_ok_iff.mp h).length_eq, List.length_eq_zero_iff]
  cases hrecords : table.records with
  | nil => exact hnone.mpr hrecords
  | cons record rest =>
    show struct.hasSignatures = true
    rw [← Bool.not_eq_false, hnone, hrecords]
    exact List.cons_ne_nil record rest

namespace Block

variable {config : Configuration} {struct : NativeStruct} {table : AddressTable}

/-- No check of a block fails. -/
theorem check_eq (h : AddressTable.encode struct = .ok table) (block : Block) :
    block.check config (.ofRecords table.records) struct = .ok () := by
  have hnumber (name : String) :
      (AddressIndex.ofRecords table.records).checkNumber name = .ok () :=
    AddressIndex.checkNumber_eq (AddressIndex.inRange_ofRecords table.records) name
  cases block with
  | addresses =>
    refine ensure_eq ?_ _
    rw [AddressIndex.records_ofRecords]
    exact hasSignatures_eq h
  | virtualTable =>
    rw [check]
    split
    · exact forM_eq_ok fun function _ => config.checkOffset_eq function.index
    · rfl
  | memberFunctions => exact forM_eq_ok fun function _ => hnumber function.method.name
  | staticAddresses => exact forM_eq_ok fun address _ => hnumber address.method.name
  | delegates | virtualDispatch | stringOverloads | fixedArrays => rfl

theorem layoutAsserted_eq (index : AddressIndex) (block : Block) :
    block.layoutAsserted config index struct =
      .ok (block.layout config { records := index.records } struct) := by
  cases block with
  | fixedArrays => exact fixedArrayBlockWith_eq (fun _ => FixedArray.takeOneOff_eq) config struct
  | _ => rfl

/-- A block is written and comes back to its depth. -/
theorem writeAsserted_eq (h : AddressTable.encode struct = .ok table) (page : Page)
    (block : Block) :
    writeAsserted config (.ofRecords table.records) struct page block =
      .ok (page.after (block.layout config table struct)) := by
  have hbalanced := (isBlock_layout config table struct block).balanced
  have hdepth : (page.after (block.layout config table struct)).cursor.depth =
      page.cursor.depth := by
    show (Layout.finish ⟨page.cursor.depth, page.cursor.atScopeStart⟩ _).depth = _
    rw [hbalanced.finish_eq]
  rw [writeAsserted, bind_of_ok (check_eq h block), bind_of_ok (layoutAsserted_eq _ block),
    AddressIndex.records_ofRecords, bind_of_ok (Page.write_of_balanced hbalanced),
    bind_of_ok (ensure_eq hdepth _)]
  rfl

theorem foldlM_writeAsserted (h : AddressTable.encode struct = .ok table) (blocks : List Block)
    (page : Page) :
    blocks.foldlM (writeAsserted config (.ofRecords table.records) struct) page =
      .ok (page.after (blocks.flatMap (Block.layout config table struct))) := by
  induction blocks generalizing page with
  | nil => rw [List.flatMap_nil, Page.after_nil]; rfl
  | cons block rest ih =>
    rw [List.foldlM_cons, bind_of_ok (writeAsserted_eq h page block), List.flatMap_cons,
      Page.after_append]
    exact ih _

end Block

/-! ### Structs -/

namespace NativeStruct

/-- Compile a struct and check what is relied on. -/
def compileAsserted (config : Configuration) (struct : NativeStruct) : Except Stop String := do
  let index ← AddressIndex.encodeAsserted struct
  let page ← Page.write {} (Layout.fileHeader struct.nameSpace ++ struct.openings)
  let page ← Block.all.foldlM (Block.writeAsserted config index struct) page
  let page ← page.write struct.closings
  ensure (page.cursor.depth = 0) .scopeOpen
  return renderRows page.rows

theorem write_opening (struct : NativeStruct) :
    Page.write {} (Layout.fileHeader struct.nameSpace ++ struct.openings) =
      .ok (Page.after {} (Layout.fileHeader struct.nameSpace ++ struct.openings)) := by
  refine Page.write_of_not_goesBack fun step hstep => ?_
  rw [List.mem_append] at hstep
  rcases hstep with hheader | hopening
  · rw [Layout.fileHeader, List.mem_cons] at hheader
    rcases hheader with rfl | hheader
    · rfl
    · split at hheader
      · cases hheader
      · rcases List.mem_pair.mp hheader with rfl | rfl <;> rfl
  · obtain ⟨name, -, hitem⟩ := List.mem_flatMap.mp hopening
    rcases List.mem_pair.mp hitem with rfl | rfl <;> rfl

/-- The blocks start at a depth that is the number of closing braces. -/
theorem depth_finish_blocks (config : Configuration) (table : AddressTable)
    (struct : NativeStruct) :
    (Layout.finish {} (Layout.fileHeader struct.nameSpace ++ struct.openings ++
      struct.blocks config table)).depth = struct.hierarchy.length := by
  have hbalanced : Layout.Balanced (struct.blocks config table) :=
    .flatMap fun block _ => (Block.isBlock_layout config table struct block).balanced
  have hheader : (Layout.finish {} (Layout.fileHeader struct.nameSpace)).depth = 0 := by
    rw [Layout.fileHeader]
    split <;> rfl
  rw [Layout.finish_append, hbalanced.finish_eq, Layout.finish_append]
  show (Layout.finish _ struct.openings).depth = _
  rw [openings, depth_finish_openings, hheader, Nat.zero_add, typePath, List.length_reverse]

/-- **The checks can be left out.** -/
theorem compileAsserted_eq (config : Configuration) (struct : NativeStruct) :
    struct.compileAsserted config = (struct.compileUnless false config).mapError Stop.error := by
  have hplain : struct.compileUnless false config = struct.compile config := rfl
  rw [compileAsserted, AddressIndex.encodeAsserted_eq, AddressIndex.encode_eq, hplain, compile]
  rcases htable : AddressTable.encode struct with error | table
  · rfl
  · let opened := Page.after {} (Layout.fileHeader struct.nameSpace ++ struct.openings)
    let filled := opened.after (struct.blocks config table)
    have hblocks :
        Block.all.foldlM (Block.writeAsserted config (.ofRecords table.records) struct) opened =
          .ok filled := Block.foldlM_writeAsserted htable Block.all opened
    have hdepth : filled.cursor.depth = struct.hierarchy.length := by
      rw [← depth_finish_blocks config table struct, Layout.finish_append]
      rfl
    have hclosings : filled.write struct.closings = .ok (filled.after struct.closings) :=
      Page.write_closings (Nat.le_of_eq hdepth.symm)
    have houtside : (filled.after struct.closings).cursor.depth = 0 := by
      show (Layout.finish filled.cursor struct.closings).depth = 0
      rw [closings, depth_finish_closings, hdepth, Nat.sub_self]
    have hsource :
        filled.after struct.closings = Page.after {} (struct.sourceLayout config table) := by
      rw [sourceLayout, Page.after_append, Page.after_append]
    show (Page.write {} _ >>= _) = Except.ok (renderRows _)
    rw [bind_of_ok struct.write_opening, bind_of_ok hblocks, bind_of_ok hclosings,
      bind_of_ok (ensure_eq houtside _), hsource]
    rfl

/-- **No assertion fails.**  A struct that is compiled with all checks has the source that it has
without them, or none for the same malformed signature; no check is what stops it.  Each number that
is kept for a name, whether it is asked for or not, is that of a record. -/
theorem compileAsserted_ne_failure (config : Configuration) (struct : NativeStruct) :
    struct.compileAsserted config = (struct.compileUnless false config).mapError Stop.error ∧
      (∀ failure, struct.compileAsserted config ≠ .error (.failure failure)) ∧
      ∀ index, AddressIndex.encode struct = .ok index → index.InRange := by
  refine ⟨struct.compileAsserted_eq config, fun failure h => ?_, fun index h => ?_⟩
  · rw [compileAsserted_eq] at h
    cases hrun : struct.compileUnless false config with
    | error error => rw [hrun] at h; cases h
    | ok source => rw [hrun] at h; cases h
  · rw [AddressIndex.encode_eq] at h
    rcases htable : AddressTable.encode struct with error | table
    · rw [htable] at h
      cases h
    · rw [htable] at h
      obtain rfl := Except.ok.inj h
      exact AddressIndex.inRange_ofRecords table.records

end NativeStruct

end NativeBindings
