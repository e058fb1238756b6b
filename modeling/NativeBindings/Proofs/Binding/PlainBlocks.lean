/-
NativeBindings/Proofs/Binding/PlainBlocks.lean

Every row of a source shows what it is.  If no string of a struct holds a line feed, then each row
that a block writes is one line, and in each of them stands some text of the block itself, so it is
never taken for a blank line or for a brace, whatever the strings are (`isPlain_layout`).
-/
import NativeBindings.Proofs.Binding.AddressTable
import NativeBindings.Proofs.Binding.FirstRow
import NativeBindings.Proofs.Source.LaidOut
import NativeBindings.Proofs.Source.Literals

namespace NativeBindings

open Source Source.Layout Text

theorem Configuration.singleLine_runtimeType {config : Configuration}
    (h : SingleLine config.runtimeNamespace) {name : String} (hname : SingleLine name) :
    SingleLine (config.runtimeType name) := by
  have hglobal : SingleLine ("global::" ++ config.runtimeNamespace) :=
    lacks_append.mpr ⟨lacks_ofList.mpr (by decide), h⟩
  have hdot : SingleLine ("global::" ++ config.runtimeNamespace ++ ".") :=
    lacks_append.mpr ⟨hglobal, lacks_ofList.mpr (by decide)⟩
  exact lacks_append.mpr ⟨hdot, hname⟩

theorem singleLine_interopServices : SingleLine interopServices :=
  lacks_ofList.mpr (by decide)

theorem singleLine_compilerServices : SingleLine compilerServices :=
  lacks_ofList.mpr (by decide)

/-- A header of a method shows its parentheses. -/
theorem Method.IsSingleLine.isPlainText_header {method : Method} (h : method.IsSingleLine) :
    IsPlainText method.header := by
  have hopen : IsPlainText (method.modifiers ++ " " ++ method.returnType ++ " " ++ method.name ++
      "(") := by
    have hfront : SingleLine
        (method.modifiers ++ " " ++ method.returnType ++ " " ++ method.name) := by
      simp only [lacks_append]
      exact ⟨⟨⟨⟨h.modifiers, by decide⟩, h.returnType⟩, by decide⟩, h.name⟩
    exact .prepend hfront (isPlainText_literal (by decide))
  exact (hopen.append h.parameterList).literal (by decide)

namespace Block

variable {config : Configuration} (hconfig : SingleLine config.runtimeNamespace)
  {table : AddressTable} {struct : NativeStruct} (h : struct.IsSingleLine)

/-! ### Addresses -/

include hconfig in
theorem isPlainText_addressLine {record : AddressRecord} (hname : SingleLine record.name) :
    IsPlainText (addressLine config record) := by
  have htype : SingleLine (config.runtimeType "Address") :=
    Configuration.singleLine_runtimeType hconfig (lacks_ofList.mpr (by decide))
  have hvalues : SingleLine (", ".intercalate
      [stringLiteral record.id, stringLiteral record.encoded.padded,
        byteArrayLiteral record.encoded.relocationOffsets,
        wordArrayLiteral record.encoded.signatureWords,
        wordArrayLiteral record.encoded.maskWords, "0"]) := by
    apply Lacks.intercalate (lacks_ofList.mpr (by decide))
    simp only [List.forall_mem_cons]
    exact ⟨singleLine_stringLiteral _, singleLine_stringLiteral _,
      lacks_byteArrayLiteral (.inr rfl) _, lacks_wordArrayLiteral (.inr rfl) _,
      lacks_wordArrayLiteral (.inr rfl) _, lacks_ofList.mpr (by decide), List.forall_mem_nil _⟩
  have hdeclared : IsPlainText ("public static readonly " ++ config.runtimeType "Address" ++ " " ++
      record.name ++ " = new " ++ config.runtimeType "Address" ++ "(") := by
    have hfield : IsPlainText ("public static readonly " ++ config.runtimeType "Address" ++ " " ++
        record.name) := by
      refine (isPlainText_literal_append ?_ htype).literal_append ?_ hname <;> decide
    refine (hfield.literal_append ?_ htype).literal ?_ <;> decide
  exact (hdeclared.append hvalues).literal (by decide)

include hconfig h in
theorem isPlain_addressBlock (htable : AddressTable.encode struct = .ok table) :
    (addressBlock config table struct).IsPlain := by
  rw [addressBlock]
  split
  · refine .item (.scope (isPlainText_literal (by decide)) (.map_line fun record hrecord => ?_))
    apply isPlainText_addressLine hconfig
    -- a record has the name of a signature
    have hname : record.name ∈ struct.namedSignatures.map NamedSignature.name := by
      rw [← AddressTable.map_name_records htable]
      exact List.mem_map_of_mem hrecord
    obtain ⟨named, hnamed, heq⟩ := List.mem_map.mp hname
    rw [← heq]
    exact h.recordName hnamed
  · exact .nil

/-! ### The virtual table -/

/-- An attribute whose value is a member of the same namespace. -/
theorem isPlainText_attribute {services : String} (hservices : SingleLine services)
    {name value : List Char} (hname : '\n' ∉ name) (hvalue : '\n' ∉ value) :
    IsPlainText ("[" ++ services ++ String.ofList name ++ services ++ String.ofList value) := by
  have hopen : IsPlainText ("[" ++ services) := isPlainText_literal_append (by decide) hservices
  exact (hopen.literal_append hname hservices).literal hvalue

theorem isPlainText_fieldOffset (offset : Nat) : IsPlainText (fieldOffset offset) := by
  have hattribute : IsPlainText ("[" ++ interopServices ++ ".FieldOffsetAttribute(") := by
    refine (isPlainText_literal_append ?_ singleLine_interopServices).literal ?_ <;> decide
  exact (hattribute.append (lacks_toString rfl offset)).literal (by decide)

include h in
theorem isPlainText_slotLine {function : VirtualFunction}
    (hmem : function ∈ struct.virtualFunctions) :
    IsPlainText (slotLine config struct function) := by
  have hmethod := h.virtualFunction hmem
  have htype := h.functionPointerType function.method hmethod true
  have hoffset := isPlainText_fieldOffset (config.slotOffset function.index).toNat
  refine ((hoffset.literal_append ?_ htype).literal_append ?_ hmethod.name).literal ?_ <;> decide

include h in
theorem isPlain_virtualTableBlock : (virtualTableBlock config struct).IsPlain := by
  have htype : SingleLine struct.virtualTableType :=
    lacks_append.mpr ⟨h.name, lacks_ofList.mpr (by decide)⟩
  rw [virtualTableBlock]
  split
  · refine (Layout.IsPlain.append ?_ ?_).append ?_
    · refine .item (.line ?_ (.scope ?_ (.map_line fun function hmem => ?_)))
      · exact isPlainText_attribute singleLine_interopServices (by decide) (by decide)
      · exact isPlainText_literal_append (by decide) htype
      · exact isPlainText_slotLine h hmem
    · refine .item (.line ?_ .nil)
      refine ((isPlainText_fieldOffset 0).literal_append ?_ htype).literal ?_ <;> decide
    · split
      · refine .item (.line ?_ .nil)
        have htypes : IsPlainText ("public static " ++ struct.virtualTableType ++
            "* StaticVirtualTablePointer => (" ++ struct.virtualTableType) := by
          refine (isPlainText_literal_append ?_ htype).literal_append ?_ htype <;> decide
        refine ((htypes.literal ?_).literal ?_).literal ?_ <;> decide
      · exact .nil
  · exact .nil

include h in
theorem isPlain_virtualDispatchBlock : (virtualDispatchBlock struct).IsPlain := by
  refine .flatMap fun function hmem => .item (.line ?_ (.line ?_ .nil))
  · exact isPlainText_attribute singleLine_compilerServices (by decide) (by decide)
  · have hmethod := h.virtualFunction hmem
    have harguments := h.callArgumentList function.method hmethod true
    have hheader := hmethod.isPlainText_header
    have hcall : IsPlainText (function.method.header ++ " => VirtualTable->" ++
        function.method.name) :=
      hheader.literal_append (by decide) hmethod.name
    refine (hcall.literal_append ?_ harguments).literal ?_ <;> decide

/-! ### Delegates -/

include h in
theorem isPlain_delegate {method : Method} (hmethod : method.IsSingleLine) (isInstance : Bool) :
    (delegate struct method isInstance).IsPlain := by
  have hparameters : SingleLine
      (", ".intercalate (delegateParameters struct method isInstance)) := by
    refine Lacks.intercalate (lacks_ofList.mpr (by decide)) fun parameter hmem => ?_
    rcases List.mem_append.mp hmem with hmem | hmem
    · split at hmem
      · obtain rfl := List.mem_singleton.mp hmem
        have hpointer : SingleLine (struct.thisPointerType ++ " ") :=
          lacks_append.mpr ⟨lacks_append.mpr ⟨h.name, by decide⟩, by decide⟩
        exact lacks_append.mpr ⟨hpointer, lacks_ofList.mpr (by decide)⟩
      · cases hmem
    · exact hmethod.declaration hmem
  refine .append ?_ (.line ?_ .nil)
  · split
    · refine .line ?_ .nil
      have hmarshalling : IsPlainText
          ("[return: " ++ interopServices ++ ".MarshalAsAttribute(") := by
        refine (isPlainText_literal_append ?_ singleLine_interopServices).literal ?_ <;> decide
      exact (hmarshalling.append singleLine_interopServices).literal (by decide)
    · exact .nil
  · have hdeclared : IsPlainText
        ("public delegate " ++ method.returnType ++ " " ++ method.name) := by
      have hreturn : IsPlainText ("public delegate " ++ method.returnType) :=
        isPlainText_literal_append (by decide) hmethod.returnType
      exact hreturn.literal_append (by decide) hmethod.name
    refine (hdeclared.literal_append ?_ hparameters).literal ?_ <;> decide

include h in
theorem isPlain_delegateBlock : (delegateBlock struct).IsPlain := by
  rw [delegateBlock]
  split
  · exact .nil
  · refine .item (.scope (isPlainText_literal (by decide)) (.append ?_ ?_))
    · exact .flatMap fun f hmem => isPlain_delegate h (h.memberFunction hmem) _
    · exact .flatMap fun f hmem => isPlain_delegate h (h.virtualFunction hmem) _

/-! ### Resolved pointers -/

theorem isPlainText_holderLine {type holder address : String} (htype : SingleLine type)
    (hholder : SingleLine holder) (haddress : SingleLine address) :
    IsPlainText (holderLine type holder address) := by
  have hdeclared : IsPlainText ("public static " ++ type ++ " " ++ holder ++ " => (" ++ type) := by
    have hname : IsPlainText ("public static " ++ type ++ " " ++ holder) := by
      refine (isPlainText_literal_append ?_ htype).literal_append ?_ hholder <;> decide
    exact hname.literal_append (by decide) htype
  refine (hdeclared.literal_append ?_ haddress).literal ?_ <;> decide

include hconfig in
theorem isPlain_guardedMethod {method : Method} (hmethod : method.IsSingleLine)
    {holder statement : String} (hholder : SingleLine holder) (hstatement : IsPlainText statement) :
    (guardedMethod config table struct method holder statement).IsPlain := by
  have hhelper : SingleLine (config.runtimeType "ThrowHelper") :=
    Configuration.singleLine_runtimeType hconfig (lacks_ofList.mpr (by decide))
  refine .item (.scope hmethod.isPlainText_header (.append (.scope ?_ (.line ?_ .nil)) ?_))
  · refine (isPlainText_literal_append ?_ hholder).literal ?_ <;> decide
  · have hcall : IsPlainText (config.runtimeType "ThrowHelper" ++ ".ThrowNullAddress(") :=
      .prepend hhelper (isPlainText_literal (by decide))
    have hid := hcall.append (singleLine_stringLiteral (struct.addressId method.name))
    refine (hid.literal_append ?_ (singleLine_stringLiteral _)).literal ?_ <;> decide
  · exact .line hstatement .nil

include hconfig h in
theorem isPlain_memberFunctionBlock : (memberFunctionBlock config table struct).IsPlain := by
  rw [memberFunctionBlock]
  split
  · exact .nil
  · refine .append (.item (.scope (isPlainText_literal (by decide)) ?_)) ?_
    · refine .map_line fun f hmem => ?_
      have hmethod := h.memberFunction hmem
      exact isPlainText_holderLine (h.functionPointerType f.method hmethod _) hmethod.name
        hmethod.name
    · refine .flatMap fun f hmem => ?_
      have hmethod := h.memberFunction hmem
      have hholder : SingleLine ("MemberFunctionPointers." ++ f.method.name) :=
        lacks_append.mpr ⟨lacks_ofList.mpr (by decide), hmethod.name⟩
      have hcall : IsPlainText (f.method.returnKeyword ++ ("MemberFunctionPointers." ++
          f.method.name) ++ "(") :=
        .prepend (lacks_append.mpr ⟨f.method.singleLine_returnKeyword, hholder⟩)
          (isPlainText_literal (by decide))
      apply isPlain_guardedMethod hconfig hmethod hholder
      exact (hcall.append (h.callArgumentList f.method hmethod _)).literal (by decide)

include hconfig h in
theorem isPlain_staticAddressBlock : (staticAddressBlock config table struct).IsPlain := by
  have hname {address : StaticAddress} (hmem : address ∈ struct.staticAddresses) :
      SingleLine (holderName address) := by
    refine lacks_append.mpr ⟨?_, (h.staticAddress hmem).name⟩
    split <;> exact lacks_ofList.mpr (by decide)
  have htype {address : StaticAddress} (hmem : address ∈ struct.staticAddresses) :
      SingleLine (holderType address) := by
    refine lacks_append.mpr ⟨(h.staticAddress hmem).returnType, ?_⟩
    split <;> exact lacks_ofList.mpr (by decide)
  rw [staticAddressBlock]
  split
  · exact .nil
  · refine .append (.item (.scope (isPlainText_literal (by decide)) ?_)) ?_
    · refine .map_line fun address hmem => ?_
      exact isPlainText_holderLine (htype hmem) (hname hmem) (h.staticAddress hmem).name
    · refine .flatMap fun address hmem => ?_
      have hholder : SingleLine ("StaticAddressPointers." ++ holderName address) :=
        lacks_append.mpr ⟨lacks_ofList.mpr (by decide), hname hmem⟩
      have hlevel : SingleLine (if address.isPointer then "*" else "") := by
        split <;> exact lacks_ofList.mpr (by decide)
      apply isPlain_guardedMethod hconfig (h.staticAddress hmem) hholder
      refine ((isPlainText_literal_append ?_ hlevel).append hholder).literal ?_ <;> decide

/-! ### String overloads -/

theorem isPlainText_bufferLines (source : ArgumentForm) {name : String} (hname : SingleLine name) :
    ∀ text ∈ bufferLines source name, IsPlainText text := by
  have hlength : SingleLine (name ++ "Length") :=
    lacks_append.mpr ⟨hname, lacks_ofList.mpr (by decide)⟩
  have hexpr : SingleLine (source.lengthExpr name) := by
    cases source with
    | text =>
      refine lacks_append.mpr ⟨lacks_append.mpr ⟨?_, hname⟩, ?_⟩
      · exact lacks_ofList.mpr (by decide)
      · exact lacks_ofList.mpr (by decide)
    | bytes => exact lacks_append.mpr ⟨hname, lacks_ofList.mpr (by decide)⟩
  simp only [bufferLines, List.forall_mem_cons]
  refine ⟨?_, ?_, ?_, ?_, List.forall_mem_nil _⟩
  · refine ((isPlainText_literal_append ?_ hlength).literal_append ?_ hexpr).literal ?_ <;> decide
  · have hdeclared : IsPlainText ("global::System.Span<byte> " ++ name ++ "Bytes = ") := by
      refine (isPlainText_literal_append ?_ hname).literal ?_ <;> decide
    have hlimit : SingleLine (toString stackLimit) := lacks_toString rfl stackLimit
    have hguarded : IsPlainText ("global::System.Span<byte> " ++ name ++ "Bytes = " ++
        (name ++ "Length") ++ " <= " ++ toString stackLimit) :=
      (hdeclared.append hlength).literal_append (by decide) hlimit
    refine ((hguarded.literal_append ?_ hlength).literal_append ?_ hlength).literal ?_ <;> decide
  · cases source with
    | text =>
      refine ((isPlainText_literal_append ?_ hname).literal_append ?_ hname).literal ?_ <;> decide
    | bytes =>
      have hcopy : IsPlainText (name ++ ".CopyTo(") :=
        .prepend hname (isPlainText_literal (by decide))
      exact (hcopy.append hname).literal (by decide)
  · have hbuffer : IsPlainText (name ++ "Bytes[") :=
      .prepend hname (isPlainText_literal (by decide))
    exact (hbuffer.append hlength).literal (by decide)

theorem isPlain_overloadMethod {overload : StringOverload}
    (h : ∀ s ∈ overload.strings, SingleLine s) (source : ArgumentForm) :
    (overloadMethod overload source).IsPlain := by
  have hmethod : overload.method.IsSingleLine := fun s hs => h s (List.mem_append_left _ hs)
  have hname {name : String} (hmem : name ∈ overload.stringParameters) : SingleLine name := by
    obtain ⟨parameter, hparameter, rfl⟩ := List.mem_map.mp hmem
    exact (hmethod.parameter (List.mem_of_mem_filter hparameter)).1
  refine .item (.scope ?_ (.append ?_ (.scope ?_ (.line ?_ .nil))))
  · -- whatever the modifiers are, a header has parentheses
    refine ⟨singleLine_overloadHeader h source, ?_⟩
    have hopen : Visible "(" := IsPlainText.visible (isPlainText_literal (by decide))
    exact visible_append.mpr (.inl (visible_append.mpr (.inl (visible_append.mpr (.inr hopen)))))
  · refine .map_line fun text htext => ?_
    obtain ⟨name, hmem, hbuffer⟩ := List.mem_flatMap.mp htext
    exact isPlainText_bufferLines source (hname hmem) text hbuffer
  · have hpins : SingleLine (", ".intercalate (overload.stringParameters.map pin)) := by
      refine Lacks.intercalate (lacks_ofList.mpr (by decide)) fun text htext => ?_
      obtain ⟨name, hmem, rfl⟩ := List.mem_map.mp htext
      unfold pin
      simp only [lacks_append]
      exact ⟨⟨⟨hname hmem, by decide⟩, hname hmem⟩, by decide⟩
    refine (isPlainText_literal_append ?_ hpins).literal ?_ <;> decide
  · have harguments : SingleLine (", ".intercalate (overloadArguments overload)) := by
      refine Lacks.intercalate (lacks_ofList.mpr (by decide)) fun text htext => ?_
      obtain ⟨parameter, hparameter, rfl⟩ := List.mem_map.mp htext
      have hparameterName := (hmethod.parameter hparameter).1
      split
      · exact lacks_append.mpr ⟨hparameterName, by decide⟩
      · exact hparameterName
    have hcall : IsPlainText (overload.method.returnKeyword ++ overload.method.name ++ "(") :=
      .prepend (lacks_append.mpr ⟨overload.method.singleLine_returnKeyword, hmethod.name⟩)
        (isPlainText_literal (by decide))
    exact (hcall.append harguments).literal (by decide)

include h in
theorem isPlain_stringOverloadBlock : (stringOverloadBlock struct).IsPlain := by
  refine .flatMap fun overload hmem => ?_
  have hstrings : ∀ s ∈ overload.strings, SingleLine s := fun s hs => h.overload hmem hs
  split
  · exact .nil
  · exact (isPlain_overloadMethod hstrings _).append (isPlain_overloadMethod hstrings _)

/-! ### Fixed arrays -/

section Arrays

variable {array : FixedArray}

theorem isPlain_spanProperty (hfield : SingleLine array.field)
    (helement : SingleLine array.elementType) : (spanProperty array).IsPlain := by
  refine .item (.line (isPlainText_literal (by decide)) (.line ?_ .nil))
  have hname := FixedArray.singleLine_publicName hfield
  have hdeclared : IsPlainText ("public global::System.Span<" ++ array.elementType ++ "> " ++
      array.publicName) := by
    refine (isPlainText_literal_append ?_ helement).literal_append ?_ hname <;> decide
  refine (hdeclared.literal_append ?_ hfield).literal ?_ <;> decide

include hconfig in
theorem isPlain_capacityCheck {length : String} (hlength : SingleLine length) (capacity : Nat) :
    (capacityCheck config array capacity length).IsPlain := by
  have hcapacity : SingleLine (toString capacity) := lacks_toString rfl capacity
  have hhelper : SingleLine (config.runtimeType "ThrowHelper") :=
    Configuration.singleLine_runtimeType hconfig (lacks_ofList.mpr (by decide))
  refine .scope ?_ (.line ?_ .nil)
  · have htest : IsPlainText ("if (" ++ length) := isPlainText_literal_append (by decide) hlength
    refine (htest.literal_append ?_ hcapacity).literal ?_ <;> decide
  · have hcall : IsPlainText (config.runtimeType "ThrowHelper" ++ ".ThrowStringSizeTooLarge(") :=
      .prepend hhelper (isPlainText_literal (by decide))
    have hproperty := hcall.append (singleLine_stringLiteral (stringPropertyName array))
    refine (hproperty.literal_append ?_ hcapacity).literal ?_ <;> decide

/-- A declaration of a span over an array. -/
theorem isPlainText_spanLine {cs : List Char} (hfield : SingleLine array.field)
    (h : IsPlainText (String.ofList cs)) : IsPlainText (String.ofList cs ++ array.field ++ ";") :=
  (h.append hfield).literal (by decide)

include hconfig in
theorem isPlain_utf8Property (hfield : SingleLine array.field) (capacity : Nat) :
    (utf8Property config array capacity).IsPlain := by
  refine .append (.scope ?_ (.line ?_ (.line ?_ (.line ?_ .nil)))) (.scope ?_ (.line ?_ ?_))
  · exact isPlainText_literal (by decide)
  · exact isPlainText_spanLine hfield (isPlainText_literal (by decide))
  · exact isPlainText_literal (by decide)
  · exact .literal (isPlainText_literal (by decide)) (by decide)
  · exact isPlainText_literal (by decide)
  · exact isPlainText_literal (by decide)
  · refine .append (isPlain_capacityCheck hconfig (lacks_ofList.mpr (by decide)) capacity) ?_
    refine .line (isPlainText_spanLine hfield ?_) (.line ?_ (.line ?_ .nil))
    all_goals exact isPlainText_literal (by decide)

include hconfig in
theorem isPlain_utf16Property (hfield : SingleLine array.field) (capacity : Nat) :
    (utf16Property config array capacity).IsPlain := by
  refine .append (.scope ?_ (.line ?_ (.line ?_ (.line ?_ .nil)))) (.scope ?_ ?_)
  · exact isPlainText_literal (by decide)
  · exact isPlainText_spanLine hfield (isPlainText_literal (by decide))
  · exact isPlainText_literal (by decide)
  · exact isPlainText_literal (by decide)
  · exact isPlainText_literal (by decide)
  · refine .append (isPlain_capacityCheck hconfig (lacks_ofList.mpr (by decide)) capacity) ?_
    refine .line (isPlainText_spanLine hfield ?_) (.line ?_ (.line ?_ .nil))
    all_goals exact isPlainText_literal (by decide)

include hconfig in
theorem isPlain_stringProperty (hfield : SingleLine array.field) :
    (stringProperty config array).IsPlain := by
  rw [stringProperty_eq]
  split
  · exact .nil
  · rename_i kind _
    split
    · exact .nil
    · have hname : SingleLine (stringPropertyName array) :=
        lacks_append.mpr ⟨FixedArray.singleLine_publicName hfield, by decide⟩
      refine .item (.scope (isPlainText_literal_append (by decide) hname) ?_)
      cases kind with
      | utf8 => exact isPlain_utf8Property hconfig hfield _
      | utf16 => exact isPlain_utf16Property hconfig hfield _

end Arrays

include hconfig h in
theorem isPlain_fixedArrayBlock : (fixedArrayBlock config struct).IsPlain := by
  rw [fixedArrayBlock_eq_flatMap]
  refine .flatMap fun array hmem => ?_
  obtain ⟨hfield, helement⟩ := h.fixedArray hmem
  exact (isPlain_spanProperty hfield helement).append (isPlain_stringProperty hconfig hfield)

/-- **Every row of every block is plain.** -/
theorem isPlain_layout (hconfig : SingleLine config.runtimeNamespace) (h : struct.IsSingleLine)
    (htable : AddressTable.encode struct = .ok table) (block : Block) :
    (block.layout config table struct).IsPlain := by
  cases block with
  | addresses => exact isPlain_addressBlock hconfig h htable
  | virtualTable => exact isPlain_virtualTableBlock h
  | delegates => exact isPlain_delegateBlock h
  | memberFunctions => exact isPlain_memberFunctionBlock hconfig h
  | virtualDispatch => exact isPlain_virtualDispatchBlock h
  | staticAddresses => exact isPlain_staticAddressBlock hconfig h
  | stringOverloads => exact isPlain_stringOverloadBlock h
  | fixedArrays => exact isPlain_fixedArrayBlock hconfig h

end Block

end NativeBindings
