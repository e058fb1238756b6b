/-
NativeBindings/Proofs/Binding/CallShapes.lean

The shapes of the calls of native functions.  A function is written four times with its parameters:
as the type of its pointer, as a delegate, as the method that calls it, and as that call.  With the
name of the struct `S`, parameters of types `t` and names `n`, and the return type `r`, these list

    S*, t₁, …, tₖ, r        S* thisPtr, t₁ n₁, …, tₖ nₖ        t₁ n₁, …, tₖ nₖ        this, n₁, …, nₖ

and the struct comes first in three of them or in none (`CallLists.Agree`).  It does for virtual
functions, whatever their methods say, and for member functions that are not static.  Each of the
four texts is found in the source of the struct, in the order of the functions
(`compile_callShapes`).
-/
import NativeBindings.Proofs.Binding.BlockComposition
import NativeBindings.Proofs.Binding.SourceRows
import NativeBindings.Proofs.Text.CommaLists

namespace NativeBindings

open Source Source.Layout Text

/-! ### Shapes -/

/-- The lists that are written for a function. -/
structure CallLists where
  /-- The types of its pointer. -/
  types : String
  /-- The parameters of its delegate. -/
  parameters : String
  /-- The parameters of the method that calls it. -/
  declared : String
  /-- The arguments of the call. -/
  arguments : String

/-- The lists have the parameters of a method in order, and the struct in front or not. -/
structure CallLists.Agree (struct : NativeStruct) (method : Method) (withThis : Bool)
    (lists : CallLists) : Prop where
  types : Lists lists.types
    ((if withThis then [struct.name ++ "*"] else []) ++
      method.parameters.map Parameter.type ++ [method.returnType])
  parameters : Lists lists.parameters
    ((if withThis then [struct.name ++ "* thisPtr"] else []) ++
      method.parameters.map fun parameter => parameter.type ++ " " ++ parameter.name)
  declared : Lists lists.declared
    (method.parameters.map fun parameter => parameter.type ++ " " ++ parameter.name)
  arguments : Lists lists.arguments
    ((if withThis then ["(" ++ struct.name ++
        "*)global::System.Runtime.CompilerServices.Unsafe.AsPointer(ref this)"] else []) ++
      method.parameters.map Parameter.name)

/-- A method of a struct without commas in the strings that its lists are made of. -/
structure IsCommaFree (struct : NativeStruct) (method : Method) : Prop where
  name : Lacks ',' struct.name
  returnType : Lacks ',' method.returnType
  parameters : ∀ parameter ∈ method.parameters,
    Lacks ',' parameter.name ∧ Lacks ',' parameter.type

/-- What is written for a function. -/
structure CallTexts where
  /-- The row that declares its pointer. -/
  pointer : String
  /-- The rows of its delegate. -/
  delegate : List String
  /-- The rows of the method that calls it. -/
  method : List Row

/-- A delegate with a list of parameters, behind its attributes. -/
def IsDelegate (method : Method) (lists : CallLists) (contents : List String) : Prop :=
  ∃ attributes, contents = attributes ++
    ["public delegate " ++ method.returnType ++ " " ++ method.name ++ "(" ++
      lists.parameters ++ ");"]

/-- The header of a method with a list of parameters. -/
def headerWith (method : Method) (lists : CallLists) : String :=
  method.modifiers ++ " " ++ method.returnType ++ " " ++ method.name ++ "(" ++ lists.declared ++ ")"

/-- The texts of a member function: a pointer, a delegate, and a method that calls the pointer at its
end and returns the value if there is one. -/
structure IsMember (method : Method) (depth : Nat) (lists : CallLists) (texts : CallTexts) :
    Prop where
  pointer : texts.pointer =
    "public static delegate* unmanaged<" ++ lists.types ++ "> " ++ method.name ++
      " => (delegate* unmanaged<" ++ lists.types ++ ">)Addresses." ++ method.name ++ ".Value;"
  delegate : IsDelegate method lists texts.delegate
  method : ∃ checks call,
    texts.method = .blank :: .text depth (headerWith method lists) :: .text depth "\x7b" ::
      (checks ++ [.text (depth + 1) call, .text depth "\x7d"]) ∧
    call = (if method.returnType = "void" then "" else "return ") ++
      "MemberFunctionPointers." ++ method.name ++ "(" ++ lists.arguments ++ ");" ∧
    ("return ".toList <+: call.toList ↔ method.returnType ≠ "void")

/-- The texts of a virtual function: a slot, a delegate, and a method that is the call. -/
structure IsVirtual (method : Method) (depth : Nat) (lists : CallLists) (texts : CallTexts) :
    Prop where
  pointer : ∃ offset : Nat, texts.pointer =
    "[global::System.Runtime.InteropServices.FieldOffsetAttribute(" ++ toString offset ++
      ")] public delegate* unmanaged<" ++ lists.types ++ "> " ++ method.name ++ ";"
  delegate : IsDelegate method lists texts.delegate
  method : ∃ attributes, texts.method = .blank :: (attributes ++
    [.text depth (headerWith method lists ++ " => VirtualTable->" ++ method.name ++ "(" ++
      lists.arguments ++ ");")])

/-! ### Lists -/

variable (config : Configuration) (table : AddressTable) (struct : NativeStruct)

/-- The lists of a function. -/
def callLists (method : Method) (withThis : Bool) : CallLists where
  types := ", ".intercalate (struct.pointerTypes method withThis)
  parameters := ", ".intercalate (Block.delegateParameters struct method withThis)
  declared := method.parameterList
  arguments := struct.callArgumentList method withThis

theorem thisPointer_eq : struct.thisPointer = "(" ++ struct.name ++
    "*)global::System.Runtime.CompilerServices.Unsafe.AsPointer(ref this)" := by
  have hliteral : "*)global::System.Runtime.CompilerServices.Unsafe.AsPointer(ref this)" =
      "*" ++ (")" ++ (compilerServices ++ ".Unsafe.AsPointer(ref this)")) := rfl
  rw [NativeStruct.thisPointer, NativeStruct.thisPointerType, hliteral]
  simp only [String.append_assoc]

theorem delegateParameters_eq (method : Method) (withThis : Bool) :
    Block.delegateParameters struct method withThis =
      (if withThis then [struct.name ++ "* thisPtr"] else []) ++
        method.parameters.map fun parameter => parameter.type ++ " " ++ parameter.name := by
  have hliteral : "* thisPtr" = "*" ++ (" " ++ thisParameter) := rfl
  have hthis : struct.thisPointerType ++ " " ++ thisParameter = struct.name ++ "* thisPtr" := by
    rw [NativeStruct.thisPointerType, hliteral, String.append_assoc, String.append_assoc]
  rw [Block.delegateParameters, hthis]
  rfl

/-- **The lists of a function agree.** -/
theorem agree_callLists {method : Method} (h : IsCommaFree struct method) (withThis : Bool) :
    (callLists struct method withThis).Agree struct method withThis := by
  have hfront {front item : String} (hfront : front ∈ if withThis then [item] else [])
      (hitem : Lacks ',' item) : Lacks ',' front := by
    split at hfront
    · rw [List.mem_singleton.mp hfront]
      exact hitem
    · cases hfront
  have hdeclared : ∀ item ∈ method.parameters.map fun parameter =>
      parameter.type ++ " " ++ parameter.name, Lacks ',' item := by
    rw [List.forall_mem_map]
    intro parameter hmem
    obtain ⟨hname, htype⟩ := h.parameters parameter hmem
    rw [lacks_append, lacks_append]
    exact ⟨⟨htype, by decide⟩, hname⟩
  constructor
  · refine lists_intercalate fun item hitem => ?_
    rcases List.mem_append.mp hitem with hitem | hitem
    · rcases List.mem_append.mp hitem with hitem | hitem
      · exact hfront hitem (lacks_append.mpr ⟨h.name, by decide⟩)
      · obtain ⟨parameter, hmem, rfl⟩ := List.mem_map.mp hitem
        exact (h.parameters parameter hmem).2
    · rw [List.mem_singleton.mp hitem]
      exact h.returnType
  · rw [callLists, delegateParameters_eq]
    refine lists_intercalate fun item hitem => ?_
    rcases List.mem_append.mp hitem with hitem | hitem
    · exact hfront hitem (lacks_append.mpr ⟨h.name, by decide⟩)
    · exact hdeclared item hitem
  · exact lists_intercalate hdeclared
  · rw [callLists, NativeStruct.callArgumentList, NativeStruct.callArguments, thisPointer_eq]
    refine lists_intercalate fun item hitem => ?_
    rcases List.mem_append.mp hitem with hitem | hitem
    · exact hfront hitem (lacks_append.mpr ⟨lacks_append.mpr ⟨by decide, h.name⟩, by decide⟩)
    · obtain ⟨parameter, hmem, rfl⟩ := List.mem_map.mp hitem
      exact (h.parameters parameter hmem).1

/-! ### Texts -/

/-- The rows of a delegate. -/
def delegateLines (method : Method) (withThis : Bool) : List String :=
  (if method.returnsBool then
    ["[return: " ++ interopServices ++ ".MarshalAsAttribute(" ++ interopServices ++
      ".UnmanagedType.U1)]"]
  else []) ++
  ["public delegate " ++ method.returnType ++ " " ++ method.name ++ "(" ++
    (callLists struct method withThis).parameters ++ ");"]

theorem delegate_eq (method : Method) (withThis : Bool) :
    Block.delegate struct method withThis =
      (delegateLines struct method withThis).map Step.line := by
  rw [Block.delegate, delegateLines, List.map_append]
  split <;> rfl

/-- The texts of a member function. -/
def memberTexts (depth : Nat) (method : Method) : CallTexts where
  pointer := Block.pointerLine struct method
  delegate := delegateLines struct method (!method.isStatic)
  method := rows ⟨depth, false⟩ (Block.forwarder config table struct method)

/-- The texts of a virtual function. -/
def virtualTexts (depth : Nat) (function : VirtualFunction) : CallTexts where
  pointer := Block.slotLine config struct function
  delegate := delegateLines struct function.method true
  method := rows ⟨depth, false⟩ (Block.dispatcher struct function.method)

theorem isDelegate_delegateLines (method : Method) (withThis : Bool) :
    IsDelegate method (callLists struct method withThis) (delegateLines struct method withThis) := by
  rw [delegateLines]
  exact ⟨_, rfl⟩

theorem functionPointerType_eq (method : Method) (withThis : Bool) :
    struct.functionPointerType method withThis =
      "delegate* unmanaged<" ++ (callLists struct method withThis).types ++ ">" := by
  unfold NativeStruct.functionPointerType
  rfl

theorem header_eq (method : Method) (withThis : Bool) :
    method.header = headerWith method (callLists struct method withThis) := by
  rw [Method.header, headerWith, callLists]

theorem returnKeyword_eq (method : Method) :
    method.returnKeyword = if method.returnType = "void" then "" else "return " := by
  rw [Method.returnKeyword, Method.returnsVoid]
  simp only [decide_eq_true_eq]

/-- The value of a call is returned if there is one. -/
theorem return_prefix_iff (method : Method) (call : String) :
    "return ".toList <+: ((if method.returnType = "void" then "" else "return ") ++
        "MemberFunctionPointers." ++ call).toList ↔ method.returnType ≠ "void" := by
  split
  · rename_i hvoid
    refine iff_of_false ?_ (not_not.mpr hvoid)
    rw [String.empty_append, String.toList_append]
    rintro ⟨rest, hrest⟩
    -- the name of the class has another first letter
    exact absurd (List.cons.inj hrest).1 (by decide)
  · rename_i hvalue
    refine iff_of_true ?_ hvalue
    rw [String.append_assoc, String.toList_append]
    exact List.prefix_append _ _

theorem forwarder_eq (method : Method) :
    Block.forwarder config table struct method =
      Block.guardedMethod config table struct method ("MemberFunctionPointers." ++ method.name)
        ((if method.returnType = "void" then "" else "return ") ++ "MemberFunctionPointers." ++
          method.name ++ "(" ++ (callLists struct method (!method.isStatic)).arguments ++ ");") := by
  have hholder (keyword : String) : keyword ++ "MemberFunctionPointers." ++ method.name =
      keyword ++ ("MemberFunctionPointers." ++ method.name) := String.append_assoc
  unfold Block.forwarder
  rw [returnKeyword_eq, hholder]
  rfl

theorem isMember_memberTexts (depth : Nat) (method : Method) :
    IsMember method depth (callLists struct method (!method.isStatic))
      (memberTexts config table struct depth method) where
  pointer := by
    have hfirst : "public static delegate* unmanaged<" =
        "public static " ++ "delegate* unmanaged<" := rfl
    have hsecond : " => (delegate* unmanaged<" = " => (" ++ "delegate* unmanaged<" := rfl
    have hthird : "> " = ">" ++ " " := rfl
    have hfourth : ">)Addresses." = ">" ++ ")Addresses." := rfl
    rw [memberTexts, Block.pointerLine, functionPointerType_eq, hfirst, hsecond, hthird, hfourth]
    unfold Block.holderLine
    simp only [String.append_assoc]
  delegate := isDelegate_delegateLines struct _ _
  method := by
    refine ⟨rows ⟨depth + 1, true⟩ (Block.nullGuard config
      ("MemberFunctionPointers." ++ method.name) (struct.addressId method.name)
      (table.pattern method.name)), _, ?_, rfl, ?_⟩
    · rw [memberTexts, forwarder_eq, rows_guardedMethod,
        header_eq struct method (!method.isStatic)]
      rfl
    · have hcall := return_prefix_iff method (method.name ++ "(" ++
        (callLists struct method (!method.isStatic)).arguments ++ ");")
      simpa only [String.append_assoc] using hcall

theorem isVirtual_virtualTexts (depth : Nat) (function : VirtualFunction) :
    IsVirtual function.method depth (callLists struct function.method true)
      (virtualTexts config struct depth function) where
  pointer := by
    refine ⟨(config.slotOffset function.index).toNat, ?_⟩
    have hfirst : "[global::System.Runtime.InteropServices.FieldOffsetAttribute(" =
        "[" ++ (interopServices ++ ".FieldOffsetAttribute(") := rfl
    have hsecond : ")] public delegate* unmanaged<" =
        ")]" ++ (" public " ++ "delegate* unmanaged<") := rfl
    have hthird : "> " = ">" ++ " " := rfl
    rw [virtualTexts, Block.slotLine, Block.fieldOffset, functionPointerType_eq, hfirst, hsecond,
      hthird]
    simp only [String.append_assoc]
  delegate := isDelegate_delegateLines struct _ _
  method := by
    refine ⟨[.text depth ("[" ++ compilerServices ++ ".MethodImplAttribute(" ++ compilerServices ++
      ".MethodImplOptions.AggressiveInlining)]")], ?_⟩
    rw [← header_eq]
    rfl

/-! ### Rows -/

theorem exists_rows_virtualTableBlock (depth : Nat) (atStart : Bool) :
    ∃ front behind, rows ⟨depth, atStart⟩ (Block.virtualTableBlock config struct) =
      front ++ (scopeRows depth ("public unsafe partial struct " ++ struct.virtualTableType)
        (struct.virtualFunctions.map (Block.slotLine config struct)) ++ behind) := by
  rcases hfunctions : struct.virtualFunctions with - | ⟨first, others⟩
  · exact ⟨_, [], by rw [List.map_nil, scopeRows, if_pos rfl, List.append_nil, List.append_nil]⟩
  · have hne : struct.virtualFunctions ≠ [] := hfunctions ▸ List.cons_ne_nil _ _
    obtain ⟨marker, behind, hblock⟩ :=
      exists_virtualTableBlock_eq config (hasVirtualTable_of_ne_nil hne)
    rw [hblock, hfunctions, rows_append, rows_append]
    show ∃ front behind, _ ++ (rows ⟨depth, false⟩ _ ++ _) = _
    rw [rows_scope_lines _ (List.cons_ne_nil first others)]
    exact ⟨_, _, rfl⟩

/-- The delegates are lines of one class. -/
theorem exists_rows_delegateBlock (depth : Nat) (atStart : Bool) :
    ∃ front, rows ⟨depth, atStart⟩ (Block.delegateBlock struct) =
      front ++ scopeRows depth "public static class Delegates"
        ((struct.memberFunctions.flatMap fun f =>
            delegateLines struct f.method (!f.method.isStatic)) ++
          struct.virtualFunctions.flatMap fun f => delegateLines struct f.method true) := by
  have hne (method : Method) (withThis : Bool) : delegateLines struct method withThis ≠ [] :=
    List.append_ne_nil_of_right_ne_nil _ (List.cons_ne_nil _ _)
  rw [Block.delegateBlock]
  split
  · rename_i hempty
    obtain ⟨hmembers, hvirtuals⟩ := (Bool.and_eq_true _ _).mp hempty
    rw [List.isEmpty_iff.mp hmembers, List.isEmpty_iff.mp hvirtuals]
    exact ⟨[], rfl⟩
  · rename_i hsome
    generalize hcontents : ((struct.memberFunctions.flatMap fun f =>
      delegateLines struct f.method (!f.method.isStatic)) ++
      struct.virtualFunctions.flatMap fun f => delegateLines struct f.method true) = contents
    have hbody : ((struct.memberFunctions.flatMap fun f =>
        Block.delegate struct f.method (!f.method.isStatic)) ++
        struct.virtualFunctions.flatMap fun f => Block.delegate struct f.method true) =
          contents.map .line := by
      rw [← hcontents, List.map_append, List.map_flatMap, List.map_flatMap]
      simp only [delegate_eq]
    have hfilled : contents ≠ [] := by
      rintro rfl
      obtain ⟨hmembers, hvirtuals⟩ := List.append_eq_nil_iff.mp hcontents
      refine hsome ((Bool.and_eq_true _ _).mpr ⟨List.isEmpty_iff.mpr ?_, List.isEmpty_iff.mpr ?_⟩)
      · exact List.eq_nil_iff_forall_not_mem.mpr fun f hf =>
          hne _ _ (List.flatMap_eq_nil_iff.mp hmembers f hf)
      · exact List.eq_nil_iff_forall_not_mem.mpr fun f hf =>
          hne _ _ (List.flatMap_eq_nil_iff.mp hvirtuals f hf)
    rw [hbody, rows_item, rows_scope_lines _ hfilled, List.map_id']
    exact ⟨_, rfl⟩

theorem exists_rows_pointers (depth : Nat) (atStart : Bool) :
    ∃ front, rows ⟨depth, atStart⟩ (Block.memberFunctionBlock config table struct) =
      front ++ (scopeRows depth "public unsafe static class MemberFunctionPointers"
          (struct.memberFunctions.map fun f => Block.pointerLine struct f.method) ++
        struct.memberFunctions.flatMap fun f =>
          rows ⟨depth, false⟩ (Block.forwarder config table struct f.method)) :=
  exists_rows_holders struct.memberFunctions _ (fun f => Block.pointerLine struct f.method)
    (fun _ _ => (Block.isBlock_guardedMethod config table struct _ _ _).balanced) depth atStart

theorem rows_virtualDispatchBlock (depth : Nat) {atStart : Bool}
    (h : struct.virtualFunctions = [] ∨ atStart = false) :
    rows ⟨depth, atStart⟩ (Block.virtualDispatchBlock struct) =
      struct.virtualFunctions.flatMap fun f =>
        rows ⟨depth, false⟩ (Block.dispatcher struct f.method) := by
  rcases h with hnone | rfl
  · rw [Block.virtualDispatchBlock, hnone]
    rfl
  · exact rows_flatMap fun _ _ => .separator (.line _ (.singleton_line _)) (.line _ _)

/-- The four blocks follow each other, and there is something in front of the dispatchers. -/
theorem exists_rows_callBlocks :
    ∃ depth atStart delegatesStart pointersStart before behind,
      (struct.sourceLayout config table).rows {} =
        before ++ (rows ⟨depth, atStart⟩ (Block.virtualTableBlock config struct) ++
          (rows ⟨depth, delegatesStart⟩ (Block.delegateBlock struct) ++
            (rows ⟨depth, pointersStart⟩ (Block.memberFunctionBlock config table struct) ++
              ((struct.virtualFunctions.flatMap fun f =>
                rows ⟨depth, false⟩ (Block.dispatcher struct f.method)) ++ behind)))) := by
  obtain ⟨front, rest, hlayout⟩ : ∃ front rest, struct.sourceLayout config table =
      front ++ (Block.virtualTableBlock config struct ++ (Block.delegateBlock struct ++
        (Block.memberFunctionBlock config table struct ++
          (Block.virtualDispatchBlock struct ++ rest)))) := by
    refine ⟨Layout.fileHeader struct.nameSpace ++ struct.openings ++
      Block.addressBlock config table struct,
      (Block.all.drop 5).flatMap (Block.layout config table struct) ++ struct.closings, ?_⟩
    simp only [NativeStruct.sourceLayout, NativeStruct.blocks, Block.all, Block.layout, List.drop,
      List.flatMap_cons, List.flatMap_nil, List.append_assoc, List.append_nil]
  rcases hcursor : Layout.finish {} front with ⟨depth, atStart⟩
  have hwritten : struct.virtualFunctions = [] ∨
      (((atStart && (Block.virtualTableBlock config struct).isEmpty) &&
        (Block.delegateBlock struct).isEmpty) &&
          (Block.memberFunctionBlock config table struct).isEmpty) = false := by
    refine or_iff_not_imp_left.mpr fun hne => ?_
    obtain ⟨marker, behind, hblock⟩ :=
      exists_virtualTableBlock_eq config (hasVirtualTable_of_ne_nil hne)
    rw [hblock]
    simp
  rw [hlayout, rows_append, hcursor, rows_append,
    (Block.isBlock_virtualTableBlock config struct).balanced.finish_eq, rows_append,
    (Block.isBlock_delegateBlock struct).balanced.finish_eq, rows_append,
    (Block.isBlock_memberFunctionBlock config table struct).balanced.finish_eq, rows_append,
    rows_virtualDispatchBlock struct depth hwritten]
  exact ⟨depth, _, _, _, _, _, rfl⟩

/-! ### The source -/

/-- The rows of all functions: the table type, the delegates, the pointers and the methods. -/
def callRows (struct : NativeStruct) (depth : Nat) (members virtuals : List CallTexts)
    (between gap : List Row) : List Row :=
  scopeRows depth ("public unsafe partial struct " ++ struct.name ++ "VirtualTable")
      (virtuals.map CallTexts.pointer) ++ (between ++
    (scopeRows depth "public static class Delegates"
      ((members ++ virtuals).flatMap CallTexts.delegate) ++ (gap ++
    (scopeRows depth "public unsafe static class MemberFunctionPointers"
      (members.map CallTexts.pointer) ++ (members ++ virtuals).flatMap CallTexts.method))))

variable {config struct}

/-- **All call shapes of a function agree.**  The source of a struct has the pointer, the delegate and
the method of each member function and of each virtual function, in order.  If there are no commas in
the names and types, then these list the same parameters.  The struct comes first in the types of the
pointer, in the parameters of the delegate and in the arguments of the call, or in none of them: it
does for a member function that is not static and for every virtual function. -/
theorem compile_callShapes {source : String} (h : struct.compile config = .ok source) :
    ∃ (depth : Nat) (members virtuals : List CallTexts) (before between gap behind : List Row),
      source = renderRows
        (before ++ (callRows struct depth members virtuals between gap ++ behind)) ∧
      List.Forall₂
        (fun f texts => ∃ lists, IsMember f.method depth lists texts ∧
          (IsCommaFree struct f.method → lists.Agree struct f.method (!f.method.isStatic)))
        struct.memberFunctions members ∧
      List.Forall₂
        (fun f texts => ∃ lists, IsVirtual f.method depth lists texts ∧
          (IsCommaFree struct f.method → lists.Agree struct f.method true))
        struct.virtualFunctions virtuals := by
  obtain ⟨table, -, rfl⟩ := NativeStruct.compile_eq_ok_iff.mp h
  obtain ⟨depth, tableStart, delegatesStart, pointersStart, before, behind, hrows⟩ :=
    exists_rows_callBlocks config table struct
  obtain ⟨front, between, htable⟩ := exists_rows_virtualTableBlock config struct depth tableStart
  obtain ⟨gap, hdelegates⟩ := exists_rows_delegateBlock struct depth delegatesStart
  obtain ⟨space, hpointers⟩ := exists_rows_pointers config table struct depth pointersStart
  refine ⟨depth,
    struct.memberFunctions.map fun f => memberTexts config table struct depth f.method,
    struct.virtualFunctions.map fun f => virtualTexts config struct depth f,
    before ++ front, between ++ gap, space, behind, ?_, ?_, ?_⟩
  · rw [Layout.render, renderFrom, hrows, htable, hdelegates, hpointers, callRows]
    simp only [List.map_map, List.flatMap_append, List.flatMap_map, List.append_assoc]
    rfl
  · rw [List.forall₂_map_right_iff, List.forall₂_same]
    exact fun f _ => ⟨_, isMember_memberTexts config table struct depth f.method,
      fun hfree => agree_callLists struct hfree _⟩
  · rw [List.forall₂_map_right_iff, List.forall₂_same]
    exact fun f _ => ⟨_, isVirtual_virtualTexts config struct depth f,
      fun hfree => agree_callLists struct hfree _⟩

/-- A static function, one that is not, and a virtual function whose method says that it is static. -/
theorem compile_callShapes_static :
    let size : Parameter := { name := "size", type := "uint" }
    let create : Method := { Method.ofStatic "Create" "void" with parameters := [size] }
    let resize : Method := { Method.ofInstance "Resize" "bool" with parameters := [size] }
    let draw : Method := { Method.ofStatic "Draw" "int" with parameters := [size] }
    let struct : NativeStruct :=
      { name := "Foo"
        memberFunctions :=
          [{ method := create, signature := { pattern := "48 8B" } },
            { method := resize, signature := { pattern := "E8 ??" } }]
        virtualFunctions := [{ method := draw, index := 2 }] }
    ∃ source depth createTexts resizeTexts drawTexts before between gap behind
        createLists resizeLists drawLists,
      struct.compile {} = .ok source ∧
      source = renderRows (before ++
        (callRows struct depth [createTexts, resizeTexts] [drawTexts] between gap ++ behind)) ∧
      IsMember create depth createLists createTexts ∧ createLists.Agree struct create false ∧
      IsMember resize depth resizeLists resizeTexts ∧ resizeLists.Agree struct resize true ∧
      IsVirtual draw depth drawLists drawTexts ∧ drawLists.Agree struct draw true := by
  intro size create resize draw struct
  have hfree (method : Method) (hmethod : method ∈ [create, resize, draw]) :
      IsCommaFree struct method := by
    have hall : ∀ method ∈ [create, resize, draw], Lacks ',' method.returnType ∧
        ∀ parameter ∈ method.parameters, Lacks ',' parameter.name ∧ Lacks ',' parameter.type := by
      decide
    exact ⟨by decide, (hall method hmethod).1, (hall method hmethod).2⟩
  obtain ⟨source, hsource⟩ : ∃ source, struct.compile {} = .ok source := by
    dsimp only [struct, create, resize, draw, size]
    exact ⟨_, NativeStruct.compile_eq_ok_iff.mpr ⟨_, rfl, rfl⟩⟩
  obtain ⟨depth, members, virtuals, before, between, gap, behind, hrows, hmembers, hvirtuals⟩ :=
    compile_callShapes hsource
  rcases hmembers with - | ⟨⟨createLists, hcreate, hcreateLists⟩, hmembers⟩
  rcases hmembers with - | ⟨⟨resizeLists, hresize, hresizeLists⟩, ⟨⟩⟩
  rcases hvirtuals with - | ⟨⟨drawLists, hdraw, hdrawLists⟩, ⟨⟩⟩
  exact ⟨source, depth, _, _, _, before, between, gap, behind, createLists, resizeLists, drawLists,
    hsource, hrows, hcreate, hcreateLists (hfree create (by simp)), hresize,
    hresizeLists (hfree resize (by simp)), hdraw, hdrawLists (hfree draw (by simp))⟩

end NativeBindings
