/-
NativeBindings/NativeStruct/Builder.lean

Descriptors grown step by step.  Each step adds to one part of a descriptor, and the static virtual
table of the last step that names one counts.
-/
import NativeBindings.NativeStruct.Basic

namespace NativeBindings

namespace NativeStruct

/-- A struct with nothing in it. -/
def ofName (nameSpace name : String) : NativeStruct := { name, nameSpace }

/-- One addition to a descriptor. -/
inductive Step where
  /-- Nest the type inside another; the innermost enclosing type comes first. -/
  | nestedIn (parent : String)
  | memberFunction (function : MemberFunction)
  | virtualFunction (function : VirtualFunction)
  | staticAddress (address : StaticAddress)
  | stringOverload (overload : StringOverload)
  | fixedArray (array : FixedArray)
  | staticVirtualTable (signature : Signature)
deriving DecidableEq

/-- Take one step. -/
def extend (struct : NativeStruct) : Step → NativeStruct
  | .nestedIn parent => { struct with containingTypes := struct.containingTypes ++ [parent] }
  | .memberFunction f => { struct with memberFunctions := struct.memberFunctions ++ [f] }
  | .virtualFunction f => { struct with virtualFunctions := struct.virtualFunctions ++ [f] }
  | .staticAddress a => { struct with staticAddresses := struct.staticAddresses ++ [a] }
  | .stringOverload o => { struct with stringOverloads := struct.stringOverloads ++ [o] }
  | .fixedArray a => { struct with fixedArrays := struct.fixedArrays ++ [a] }
  | .staticVirtualTable signature => { struct with staticVirtualTable := some signature }

/-- Take all steps, the first one first. -/
def extendAll (struct : NativeStruct) (steps : List Step) : NativeStruct :=
  steps.foldl extend struct

end NativeStruct

end NativeBindings
