/-
NativeBindings/Cancellation.lean

Cancellation.  Handles fall into families: a new handle starts a family and a clone joins the family
of the handle it is made from.  Cancelling a handle cancels its family, for good, and with it
everything that is asked for under one of its handles.
-/
import NativeBindings.Batch.Basic

namespace NativeBindings

/-- Go on unless the run is cancelled. -/
def checkCancelled (cancelled : Bool) : Except GenerationError Unit :=
  if cancelled then .error .cancelled else .ok ()

/-- Compile a struct unless the run is cancelled, which is looked at before the signatures are. -/
def NativeStruct.compileUnless (cancelled : Bool) (config : Configuration)
    (struct : NativeStruct) : Except GenerationError String := do
  checkCancelled cancelled
  struct.compile config

/-- Compile a batch unless the run is cancelled. -/
def Batch.compileUnless (cancelled : Bool) (config : Configuration)
    (structs : List NativeStruct) : Except GenerationError Batch := do
  checkCancelled cancelled
  return Batch.compile config structs

/-- Handles of cancellation, numbered from zero in the order in which they were made. -/
structure Handles where
  /-- The family of each handle, named by the handle that started it. -/
  family : List Nat
  /-- The families that are cancelled. -/
  cancelledFamilies : List Nat := []
deriving DecidableEq

namespace Handles

/-- One handle. -/
def initial : Handles := { family := [0] }

/-- The number of handles. -/
def count (handles : Handles) : Nat := handles.family.length

/-- A handle of a new family. -/
def new (handles : Handles) : Handles :=
  { handles with family := handles.family ++ [handles.count] }

/-- A handle of the family of another one; a handle that does not exist has no clone. -/
def clone (handles : Handles) (handle : Nat) : Handles :=
  match handles.family[handle]? with
  | some family => { handles with family := handles.family ++ [family] }
  | none => handles

/-- Cancel the family of a handle. -/
def cancel (handles : Handles) (handle : Nat) : Handles :=
  match handles.family[handle]? with
  | some family => { handles with cancelledFamilies := family :: handles.cancelledFamilies }
  | none => handles

/-- Whether a handle is cancelled. -/
def isCancelled (handles : Handles) (handle : Nat) : Bool :=
  match handles.family[handle]? with
  | some family => handles.cancelledFamilies.contains family
  | none => false

/-- For each handle, whether it is cancelled. -/
def flags (handles : Handles) : List Bool :=
  handles.family.map handles.cancelledFamilies.contains

/-! ### Sessions -/

/-- What is done with handles, and under them. -/
inductive Operation where
  | new
  | clone (handle : Nat)
  | cancel (handle : Nat)
  | check (handle : Nat)
  | compile (handle : Nat) (config : Configuration) (struct : NativeStruct)
  | batch (handle : Nat) (config : Configuration) (structs : List NativeStruct)
deriving DecidableEq

/-- The answer to an operation. -/
inductive Answer where
  | handles (count : Nat)
  | flags (cancelled : List Bool)
  | checked (result : Except GenerationError Unit)
  | compiled (result : Except GenerationError String)
  | batch (result : Except GenerationError Batch)

/-- The handles after an operation.  Compiling changes none. -/
def next (handles : Handles) : Operation → Handles
  | .new => handles.new
  | .clone handle => handles.clone handle
  | .cancel handle => handles.cancel handle
  | .check _ | .compile _ _ _ | .batch _ _ _ => handles

/-- The answer to an operation, for the handles before it. -/
def answer (handles : Handles) (operation : Operation) : Answer :=
  match operation with
  | .new | .clone _ => .handles (handles.next operation).count
  | .cancel _ => .flags (handles.next operation).flags
  | .check handle => .checked (checkCancelled (handles.isCancelled handle))
  | .compile handle config struct =>
      .compiled (struct.compileUnless (handles.isCancelled handle) config)
  | .batch handle config structs =>
      .batch (Batch.compileUnless (handles.isCancelled handle) config structs)

/-- The answers to operations, one after the other. -/
def answers : Handles → List Operation → List Answer
  | _, [] => []
  | handles, operation :: rest => handles.answer operation :: (handles.next operation).answers rest

/-! ### Requests -/

/-- An operation on structs that are given beforehand. -/
inductive Request where
  | new
  | clone (handle : Nat)
  | cancel (handle : Nat)
  | check (handle : Nat)
  /-- Compile the struct with a number. -/
  | compile (handle index : Nat)
  /-- Compile all structs. -/
  | batch (handle : Nat)
deriving DecidableEq

/-- The operation that is asked for.  A number that is that of no struct asks for none. -/
def Request.operation? (config : Configuration) (structs : List NativeStruct) :
    Request → Option Operation
  | .new => some .new
  | .clone handle => some (.clone handle)
  | .cancel handle => some (.cancel handle)
  | .check handle => some (.check handle)
  | .compile handle index => structs[index]?.map (.compile handle config)
  | .batch handle => some (.batch handle config structs)

/-- The answers to requests, one after the other. -/
def run (config : Configuration) (structs : List NativeStruct) (handles : Handles)
    (requests : List Request) : List Answer :=
  handles.answers (requests.filterMap (Request.operation? config structs))

end Handles

end NativeBindings
