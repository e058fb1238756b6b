/-
NativeBindings/Proofs/Cancellation/Sessions.lean

What is done under a handle.  The answer to an operation depends on the handles that the operations
before it have left, and on nothing else of the session (`getElem?_answers`).  A check, a struct or
a batch is answered by a cancellation exactly if its handle is cancelled, whatever is wrong with the
structs, and leaves all handles as they are; which handles are cancelled is told by their families
(`run_cancels_families`).
-/
import NativeBindings.Proofs.Cancellation.Families

namespace NativeBindings

/-- A struct is answered by a cancellation if the run is cancelled, and only then. -/
theorem NativeStruct.compileUnless_eq_cancelled_iff {cancelled : Bool} {config : Configuration}
    {struct : NativeStruct} :
    struct.compileUnless cancelled config = .error .cancelled ↔ cancelled = true := by
  cases cancelled with
  | true => exact iff_of_true rfl rfl
  | false =>
    refine iff_of_false (fun h => ?_) Bool.false_ne_true
    have hcompile : struct.compile config = .error .cancelled := h
    cases isCancellation_of_compile_eq_error hcompile

namespace Handles

/-- The handle under which something is checked or compiled. -/
def Operation.subject? : Operation → Option Nat
  | check handle => some handle
  | compile handle _ _ => some handle
  | batch handle _ _ => some handle
  | _ => none

/-- Whether an operation is answered by a cancellation. -/
def Answer.IsCancelled : Answer → Prop
  | checked result => result = .error .cancelled
  | compiled result => result = .error .cancelled
  | batch result => result = .error .cancelled
  | _ => False

/-- The answer to an operation by compilers that look at the cancellation at every step. -/
def answerChecked (handles : Handles) (operation : Operation) : Answer :=
  match operation with
  | .compile handle config struct =>
      .compiled (struct.compileChecked (handles.isCancelled handle) config)
  | .batch handle config structs =>
      .batch (Batch.compileChecked (handles.isCancelled handle) config structs)
  | _ => handles.answer operation

theorem answerChecked_eq (handles : Handles) (operation : Operation) :
    handles.answerChecked operation = handles.answer operation := by
  cases operation with
  | compile handle config struct =>
    rw [answerChecked, NativeStruct.compileChecked_eq]
    rfl
  | batch handle config structs =>
    rw [answerChecked, Batch.compileChecked_eq]
    rfl
  | new | clone | cancel | check => rfl

/-- An operation is answered for the handles that the operations before it leave. -/
theorem getElem?_answers (handles : Handles) (before later : List Operation)
    (operation : Operation) :
    (handles.answers (before ++ operation :: later))[before.length]? =
      some ((before.foldl next handles).answer operation) := by
  induction before generalizing handles with
  | nil => rfl
  | cons first before ih => exact ih (handles.next first)

/-- What is done under a handle is answered by a cancellation if the handle is cancelled, and only
then. -/
theorem isCancelled_answer_iff {handles : Handles} {operation : Operation} {handle : Nat}
    (h : operation.subject? = some handle) :
    (handles.answer operation).IsCancelled ↔ handles.isCancelled handle = true := by
  cases operation with
  | check other =>
    obtain rfl := Option.some.inj h
    show checkCancelled _ = _ ↔ _
    cases handles.isCancelled other <;> simp [checkCancelled]
  | compile other config struct =>
    obtain rfl := Option.some.inj h
    exact NativeStruct.compileUnless_eq_cancelled_iff
  | batch other config structs =>
    obtain rfl := Option.some.inj h
    show Batch.compileUnless _ config structs = _ ↔ _
    cases handles.isCancelled other with
    | true => exact iff_of_true rfl rfl
    | false => exact iff_of_false nofun Bool.false_ne_true
  | new | clone | cancel => cases h

/-- An operation under a handle changes none. -/
theorem next_eq_self {handles : Handles} {operation : Operation} {handle : Nat}
    (h : operation.subject? = some handle) : handles.next operation = handles := by
  cases operation with
  | check | compile | batch => rfl
  | new | clone | cancel => cases h

/-- **Cancelling a handle cancels its family, for good.**  At any point of a session a handle is
cancelled exactly if a handle of its family was cancelled before, and it stays cancelled.  What is
checked or compiled under a handle is answered by a cancellation exactly if the handle is cancelled
then, whatever the structs are and however often the compilers look, and changes no handle. -/
theorem run_cancels_families (before later : List Operation) (operation : Operation) :
    (∀ handle, (after before).isCancelled handle = true ↔
      ∃ canceller, Cancels before canceller ∧ SameFamily before canceller handle) ∧
    (∀ handle, (after before).isCancelled handle = true →
      (after (before ++ operation :: later)).isCancelled handle = true) ∧
    ∃ answer, (initial.answers (before ++ operation :: later))[before.length]? = some answer ∧
      answer = (after before).answerChecked operation ∧
      (∀ handle, operation = .cancel handle → answer =
        .flags ((List.range (after before).count).map
          (after (before ++ [operation])).isCancelled)) ∧
      (∀ handle, operation.subject? = some handle →
        (answer.IsCancelled ↔ (after before).isCancelled handle = true) ∧
          after (before ++ [operation]) = after before) := by
  refine ⟨fun _ => isCancelled_after_iff, fun _ h => isCancelled_append h _,
    (after before).answer operation, getElem?_answers initial before later operation,
    (answerChecked_eq _ _).symm, ?_, ?_⟩
  · rintro handle rfl
    have hcount : ((after before).next (.cancel handle)).count = (after before).count :=
      congrArg List.length ((family_next _ _).trans (List.append_nil _))
    rw [answer, flags_eq_map_isCancelled, hcount, after_concat]
  · intro handle hsubject
    rw [after_concat]
    exact ⟨isCancelled_answer_iff hsubject, next_eq_self hsubject⟩

/-- A clone of a handle that is already cancelled by way of another clone.  A malformed struct is
answered by a cancellation under it, and by an error of its own in a batch under a new handle. -/
theorem run_cancels_families_late_clone :
    let malformed : NativeStruct :=
      { name := "A"
        memberFunctions :=
          [{ method := .ofInstance "Run" "void", signature := { pattern := "XY" } }] }
    let before : List Operation := [.clone 0, .cancel 1, .clone 0, .new]
    (Operation.compile 2 {} malformed).subject? = some 2 ∧
      (after before).isCancelled 2 = true ∧
      (∃ answer, (initial.answers (before ++ [.compile 2 {} malformed]))[4]? = some answer ∧
        answer.IsCancelled) ∧
      (Operation.batch 3 {} [malformed]).subject? = some 3 ∧
      (after before).isCancelled 3 = false ∧
      ∃ answer, (initial.answers (before ++ [.batch 3 {} [malformed]]))[4]? = some answer ∧
        ¬ answer.IsCancelled := by
  intro malformed before
  have hcancelled : (after before).isCancelled 2 = true := by decide
  have hfree : (after before).isCancelled 3 = false := by decide
  obtain ⟨-, -, answer, hanswer, -, -, hiff⟩ :=
    run_cancels_families before [] (.compile 2 {} malformed)
  obtain ⟨-, -, other, hother, -, -, hotherIff⟩ :=
    run_cancels_families before [] (.batch 3 {} [malformed])
  refine ⟨rfl, hcancelled, ⟨answer, hanswer, (hiff 2 rfl).1.mpr hcancelled⟩, rfl, hfree,
    other, hother, fun h => ?_⟩
  have hset := (hotherIff 3 rfl).1.mp h
  rw [hfree] at hset
  cases hset

end Handles

end NativeBindings
