/-
NativeBindings/Proofs/NativeStruct/Strings.lean

All strings of a descriptor, and descriptors whose strings are single lines.  What the sources make
of such strings is a single line as well: dotted names, record paths, the types and the arguments of
calls, headers, and the names of array properties, where no upper case brings in a line feed.
-/
import NativeBindings.Batch.Registration
import NativeBindings.Proofs.Text.Lines
import NativeBindings.Proofs.Text.Uppercase

namespace NativeBindings

open Text

/-- The name and the type of a parameter. -/
def Parameter.strings (parameter : Parameter) : List String := [parameter.name, parameter.type]

/-- All strings of a method. -/
def Method.strings (method : Method) : List String :=
  [method.name, method.modifiers, method.returnType] ++ method.parameters.flatMap Parameter.strings

/-- A method none of whose strings contains a line feed. -/
def Method.IsSingleLine (method : Method) : Prop := ∀ s ∈ method.strings, SingleLine s

namespace Method.IsSingleLine

variable {method : Method} (h : method.IsSingleLine)
include h

theorem name : SingleLine method.name := by
  apply h
  simp [strings]

theorem returnType : SingleLine method.returnType := by
  apply h
  simp [strings]

theorem modifiers : SingleLine method.modifiers := by
  apply h
  simp [strings]

theorem parameter {parameter : Parameter} (hmem : parameter ∈ method.parameters) :
    SingleLine parameter.name ∧ SingleLine parameter.type := by
  have hstrings : ∀ s ∈ parameter.strings, SingleLine s := by
    intro s hs
    exact h s (List.mem_append_right _ (List.mem_flatMap.mpr ⟨parameter, hmem, hs⟩))
  exact ⟨hstrings _ (by simp [Parameter.strings]), hstrings _ (by simp [Parameter.strings])⟩

/-- Each parameter is declared in one line. -/
theorem declaration {text : String} (htext : text ∈ method.declarations) : SingleLine text := by
  obtain ⟨parameter, hmem, rfl⟩ := List.mem_map.mp htext
  obtain ⟨hname, htype⟩ := h.parameter hmem
  exact lacks_append.mpr ⟨lacks_append.mpr ⟨htype, by decide⟩, hname⟩

theorem parameterList : SingleLine method.parameterList :=
  Lacks.intercalate (by decide) fun _ htext => h.declaration htext

theorem header : SingleLine method.header := by
  unfold Method.header
  simp only [lacks_append]
  exact ⟨⟨⟨⟨⟨⟨⟨h.modifiers, by decide⟩, h.returnType⟩, by decide⟩, h.name⟩, by decide⟩,
    h.parameterList⟩, by decide⟩

end Method.IsSingleLine

theorem Method.singleLine_returnKeyword (method : Method) : SingleLine method.returnKeyword := by
  rw [returnKeyword]
  split
  · decide
  · decide

/-- All strings of a string overload. -/
def StringOverload.strings (overload : StringOverload) : List String :=
  overload.method.strings ++ overload.ignoredParameters

namespace NativeStruct

/-- All strings of a struct. -/
def strings (struct : NativeStruct) : List String :=
  [struct.name, struct.nameSpace] ++ struct.containingTypes ++
    struct.memberFunctions.flatMap (fun f => f.method.strings ++ [f.signature.pattern]) ++
    struct.virtualFunctions.flatMap (fun f => f.method.strings) ++
    struct.staticAddresses.flatMap (fun a => a.method.strings ++ [a.signature.pattern]) ++
    struct.stringOverloads.flatMap StringOverload.strings ++
    struct.fixedArrays.flatMap (fun array => [array.field, array.elementType]) ++
    struct.staticVirtualTable.toList.map Signature.pattern

/-- A struct none of whose strings contains a line feed. -/
def IsSingleLine (struct : NativeStruct) : Prop := ∀ s ∈ struct.strings, SingleLine s

instance (struct : NativeStruct) : Decidable struct.IsSingleLine :=
  inferInstanceAs (Decidable (∀ s ∈ struct.strings, SingleLine s))

namespace IsSingleLine

variable {struct : NativeStruct} (h : struct.IsSingleLine)
include h

theorem nameSpace : SingleLine struct.nameSpace := by
  apply h
  simp [strings]

theorem typePath {name : String} (hname : name ∈ struct.typePath) : SingleLine name := by
  rw [NativeStruct.typePath, hierarchy, List.mem_reverse, List.mem_cons] at hname
  apply h
  rcases hname with rfl | hname
  · simp [strings]
  · simp [strings, hname]

theorem overload {overload : StringOverload} (hmem : overload ∈ struct.stringOverloads)
    {s : String} (hs : s ∈ overload.strings) : SingleLine s := by
  apply h
  have hall : s ∈ struct.stringOverloads.flatMap StringOverload.strings :=
    List.mem_flatMap.mpr ⟨overload, hmem, hs⟩
  simp only [strings, List.mem_append]
  exact .inl (.inl (.inr hall))

theorem name : SingleLine struct.name :=
  h.typePath (List.mem_reverse.mpr List.mem_cons_self)

theorem memberFunction {f : MemberFunction} (hmem : f ∈ struct.memberFunctions) :
    f.method.IsSingleLine := by
  intro s hs
  apply h
  have hall : s ∈
      struct.memberFunctions.flatMap (fun f => f.method.strings ++ [f.signature.pattern]) :=
    List.mem_flatMap.mpr ⟨f, hmem, List.mem_append_left _ hs⟩
  simp only [strings, List.mem_append]
  exact .inl (.inl (.inl (.inl (.inl (.inr hall)))))

theorem virtualFunction {f : VirtualFunction} (hmem : f ∈ struct.virtualFunctions) :
    f.method.IsSingleLine := by
  intro s hs
  apply h
  have hall : s ∈ struct.virtualFunctions.flatMap (fun f => f.method.strings) :=
    List.mem_flatMap.mpr ⟨f, hmem, hs⟩
  simp only [strings, List.mem_append]
  exact .inl (.inl (.inl (.inl (.inr hall))))

theorem staticAddress {a : StaticAddress} (hmem : a ∈ struct.staticAddresses) :
    a.method.IsSingleLine := by
  intro s hs
  apply h
  have hall : s ∈
      struct.staticAddresses.flatMap (fun a => a.method.strings ++ [a.signature.pattern]) :=
    List.mem_flatMap.mpr ⟨a, hmem, List.mem_append_left _ hs⟩
  simp only [strings, List.mem_append]
  exact .inl (.inl (.inl (.inr hall)))

theorem fixedArray {array : FixedArray} (hmem : array ∈ struct.fixedArrays) :
    SingleLine array.field ∧ SingleLine array.elementType := by
  have hall : ∀ s ∈ [array.field, array.elementType], SingleLine s := by
    intro s hs
    apply h
    have hs : s ∈ struct.fixedArrays.flatMap fun array => [array.field, array.elementType] :=
      List.mem_flatMap.mpr ⟨array, hmem, hs⟩
    simp only [strings, List.mem_append]
    exact .inl (.inr hs)
  exact ⟨hall _ List.mem_cons_self, hall _ (by simp)⟩

theorem recordName {named : NamedSignature} (hmem : named ∈ struct.namedSignatures) :
    SingleLine named.name := by
  rw [namedSignatures, List.mem_append, List.mem_append, List.mem_map, List.mem_map,
    List.mem_map] at hmem
  rcases hmem with (⟨f, hf, rfl⟩ | ⟨a, ha, rfl⟩) | ⟨signature, -, rfl⟩
  · exact (h.memberFunction hf).name
  · exact (h.staticAddress ha).name
  · show SingleLine staticVirtualTableName
    decide

/-- The dotted name of the struct is a line as well. -/
theorem qualifiedName : SingleLine struct.qualifiedName := by
  apply Lacks.intercalate
  · decide
  intro part hpart
  rw [qualifiedParts, List.mem_append] at hpart
  rcases hpart with hpart | hpart
  · split at hpart
    · cases hpart
    · obtain rfl := List.mem_singleton.mp hpart
      exact h.nameSpace
  · exact h.typePath hpart

/-- The path of a record is a line as well. -/
theorem recordPath {path : String} (hpath : path ∈ struct.recordPaths) : SingleLine path := by
  obtain ⟨named, hmem, rfl⟩ := List.mem_map.mp hpath
  have hstruct : SingleLine struct.globalTypePath :=
    lacks_append.mpr ⟨by decide, h.qualifiedName⟩
  have hclass : SingleLine (struct.globalTypePath ++ ".Addresses.") :=
    lacks_append.mpr ⟨hstruct, by decide⟩
  exact lacks_append.mpr ⟨hclass, h.recordName hmem⟩

theorem functionPointerType (method : Method) (hmethod : method.IsSingleLine) (isInstance : Bool) :
    SingleLine (struct.functionPointerType method isInstance) := by
  refine lacks_append.mpr ⟨lacks_append.mpr ⟨by decide, Lacks.intercalate (by decide) ?_⟩,
    by decide⟩
  intro type htype
  rw [pointerTypes, List.mem_append, List.mem_append, List.mem_singleton] at htype
  rcases htype with (htype | htype) | rfl
  · split at htype
    · obtain rfl := List.mem_singleton.mp htype
      exact lacks_append.mpr ⟨h.name, by decide⟩
    · cases htype
  · obtain ⟨parameter, hmem, rfl⟩ := List.mem_map.mp htype
    exact (hmethod.parameter hmem).2
  · exact hmethod.returnType

theorem callArgumentList (method : Method) (hmethod : method.IsSingleLine) (isInstance : Bool) :
    SingleLine (struct.callArgumentList method isInstance) := by
  refine Lacks.intercalate (by decide) fun argument hargument => ?_
  rw [callArguments, List.mem_append] at hargument
  rcases hargument with hargument | hargument
  · split at hargument
    · obtain rfl := List.mem_singleton.mp hargument
      have hpointer : SingleLine struct.thisPointerType := lacks_append.mpr ⟨h.name, by decide⟩
      unfold thisPointer
      simp only [lacks_append]
      exact ⟨⟨⟨⟨by decide, hpointer⟩, by decide⟩, by decide⟩, by decide⟩
    · cases hargument
  · obtain ⟨parameter, hmem, rfl⟩ := List.mem_map.mp hargument
    exact (hmethod.parameter hmem).1

end IsSingleLine

end NativeStruct

/-! ### The names of array properties -/

theorem FixedArray.singleLine_publicName {array : FixedArray} (h : SingleLine array.field) :
    SingleLine array.publicName := by
  rw [publicName]
  split
  · exact h
  · rename_i first rest hname
    -- what is left of the field is a part of it
    have hkept : ∀ c ∈ first :: rest, c ≠ '\n' := by
      rintro c hc rfl
      rw [← hname] at hc
      exact h ((List.dropWhile_sublist _).mem hc)
    obtain ⟨hfirst, hrest⟩ := List.forall_mem_cons.mp hkept
    refine lacks_ofList.mpr ?_
    rw [List.mem_append, not_or]
    exact ⟨lineFeed_not_mem_uppercase hfirst, fun hmem => hrest _ hmem rfl⟩

end NativeBindings
