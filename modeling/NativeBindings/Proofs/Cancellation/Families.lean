/-
NativeBindings/Proofs/Cancellation/Families.lean

What a session of operations does to its handles.  An operation adds at most one handle behind the
others and at most one family to the cancelled ones, and takes nothing away (`family_next`,
`cancelledFamilies_next`).  So the family that is recorded for a handle is always the handle that
started it, from which it was reached by cloning (`getElem?_family_iff`), and the cancelled families
are those of which a handle has been cancelled (`mem_cancelledFamilies_iff`):

    a handle is cancelled  ↔  a handle of its family was cancelled in the session.

Clones made after a cancellation are cancelled like those made before it.
-/
import Mathlib.Data.List.Induction
import Mathlib.Logic.Relation
import NativeBindings.Proofs.Cancellation.Checks

namespace NativeBindings.Handles

/-! ### Sessions -/

/-- The handles after a session, which begins with one handle. -/
def after (operations : List Operation) : Handles := operations.foldl next initial

/-- In a session, an operation is made when there are so many handles. -/
def IsMadeAt (operations : List Operation) (operation : Operation) (count : Nat) : Prop :=
  ∃ before later, operations = before ++ operation :: later ∧ (after before).count = count

/-- A session makes a handle by cloning another one, which was there already. -/
def Clones (operations : List Operation) (handle copy : Nat) : Prop :=
  handle < copy ∧ IsMadeAt operations (.clone handle) copy

/-- A handle that is no clone: the first one, or one that is made new. -/
def Starts (operations : List Operation) (handle : Nat) : Prop :=
  handle = 0 ∨ IsMadeAt operations .new handle

/-- A handle is reached from another one by cloning, any number of times. -/
def Reaches (operations : List Operation) : Nat → Nat → Prop :=
  Relation.ReflTransGen (Clones operations)

/-- Two handles that are reached from one that is no clone. -/
def SameFamily (operations : List Operation) (handle other : Nat) : Prop :=
  ∃ first, Starts operations first ∧
    Reaches operations first handle ∧ Reaches operations first other

/-- A session cancels a handle that is there. -/
def Cancels (operations : List Operation) (handle : Nat) : Prop :=
  ∃ count, handle < count ∧ IsMadeAt operations (.cancel handle) count

variable {operations : List Operation} {operation : Operation} {handle other first : Nat}

theorem after_append (operations more : List Operation) :
    after (operations ++ more) = more.foldl next (after operations) :=
  List.foldl_append

theorem after_concat (operations : List Operation) (operation : Operation) :
    after (operations ++ [operation]) = (after operations).next operation :=
  after_append operations [operation]

theorem IsMadeAt.append {count : Nat} (h : IsMadeAt operations operation count)
    (more : List Operation) : IsMadeAt (operations ++ more) operation count := by
  obtain ⟨before, later, rfl, hcount⟩ := h
  exact ⟨before, later ++ more, by rw [List.append_assoc, List.cons_append], hcount⟩

/-- The last operation of a session is made when there are the handles of those before it. -/
theorem isMadeAt_concat (operations : List Operation) (operation : Operation) :
    IsMadeAt (operations ++ [operation]) operation (after operations).count :=
  ⟨operations, [], rfl, rfl⟩

theorem Starts.append (h : Starts operations first) (more : List Operation) :
    Starts (operations ++ more) first :=
  h.imp_right fun hmade => hmade.append more

theorem Clones.append (h : Clones operations handle other) (more : List Operation) :
    Clones (operations ++ more) handle other :=
  ⟨h.1, h.2.append more⟩

theorem Reaches.append (h : Reaches operations handle other) (more : List Operation) :
    Reaches (operations ++ more) handle other :=
  Relation.ReflTransGen.mono (fun _ _ hclones => Clones.append hclones more) _ _ h

theorem Cancels.append (h : Cancels operations handle) (more : List Operation) :
    Cancels (operations ++ more) handle := by
  obtain ⟨count, hlt, hmade⟩ := h
  exact ⟨count, hlt, hmade.append more⟩

/-! ### One operation -/

/-- The families of the handles that an operation adds. -/
def added (handles : Handles) : Operation → List Nat
  | .new => [handles.count]
  | .clone handle => handles.family[handle]?.toList
  | _ => []

/-- The families that an operation cancels. -/
def struck (handles : Handles) : Operation → List Nat
  | .cancel handle => handles.family[handle]?.toList
  | _ => []

/-- An operation keeps all handles in their families. -/
theorem family_next (handles : Handles) (operation : Operation) :
    (handles.next operation).family = handles.family ++ handles.added operation := by
  cases operation with
  | new => rfl
  | clone handle =>
    rw [next, clone, added]
    cases handles.family[handle]? with
    | none => exact (List.append_nil _).symm
    | some family => rfl
  | cancel handle =>
    show (handles.cancel handle).family = handles.family ++ []
    rw [cancel, List.append_nil]
    cases handles.family[handle]? <;> rfl
  | check | compile | batch => exact (List.append_nil _).symm

/-- At most one handle is added: a new one, in its own family, or a clone. -/
theorem exists_of_getElem?_added {handles : Handles} {k family : Nat}
    (h : (handles.added operation)[k]? = some family) :
    k = 0 ∧ (operation = .new ∧ family = handles.count ∨
      ∃ i, operation = .clone i ∧ handles.family[i]? = some family) := by
  cases operation with
  | new =>
    obtain ⟨rfl, rfl⟩ : k = 0 ∧ handles.count = family := by
      simpa [added, List.getElem?_singleton] using h
    exact ⟨rfl, .inl ⟨rfl, rfl⟩⟩
  | clone i =>
    rcases hi : handles.family[i]? with - | old
    · simp [added, hi] at h
    · obtain ⟨rfl, rfl⟩ : k = 0 ∧ old = family := by
        simpa [added, hi, List.getElem?_singleton] using h
      exact ⟨rfl, .inr ⟨i, rfl, hi⟩⟩
  | cancel | check | compile | batch => cases h

/-- An operation keeps all families cancelled that are cancelled. -/
theorem cancelledFamilies_next (handles : Handles) (operation : Operation) :
    (handles.next operation).cancelledFamilies =
      handles.struck operation ++ handles.cancelledFamilies := by
  cases operation with
  | clone handle =>
    show (handles.clone handle).cancelledFamilies = handles.cancelledFamilies
    rw [clone]
    cases handles.family[handle]? <;> rfl
  | cancel handle =>
    rw [next, cancel, struck]
    cases handles.family[handle]? <;> rfl
  | new | check | compile | batch => rfl

/-! ### A whole session -/

/-- A handle stays in its family. -/
theorem getElem?_family_append {family : Nat} (h : (after operations).family[handle]? = some family)
    (more : List Operation) : (after (operations ++ more)).family[handle]? = some family := by
  induction more using List.reverseRecOn with
  | nil => rwa [List.append_nil]
  | append_singleton more operation ih =>
    rw [← List.append_assoc, after_concat, family_next]
    obtain ⟨hlt, -⟩ := List.getElem?_eq_some_iff.mp ih
    rwa [List.getElem?_append_left hlt]

/-- A handle that was there earlier was in its family then. -/
theorem getElem?_family_before {before more : List Operation} {family : Nat}
    (hlt : handle < (after before).count)
    (h : (after (before ++ more)).family[handle]? = some family) :
    (after before).family[handle]? = some family := by
  have hbefore : (after before).family[handle]? = some (after before).family[handle] :=
    List.getElem?_eq_getElem hlt
  exact hbefore.trans ((getElem?_family_append hbefore more).symm.trans h)

/-- A cancelled family stays cancelled. -/
theorem mem_cancelledFamilies_append {family : Nat}
    (h : family ∈ (after operations).cancelledFamilies) (more : List Operation) :
    family ∈ (after (operations ++ more)).cancelledFamilies := by
  induction more using List.reverseRecOn with
  | nil => rwa [List.append_nil]
  | append_singleton more operation ih =>
    rw [← List.append_assoc, after_concat, cancelledFamilies_next]
    exact List.mem_append_right _ ih

/-- What the operation in the middle of a session has added is there at its end. -/
theorem getElem?_family_of_added {before later : List Operation} {family : Nat}
    (h : (after before).added operation = [family]) :
    (after (before ++ operation :: later)).family[(after before).count]? = some family := by
  have hnext : (after (before ++ [operation])).family[(after before).count]? = some family := by
    rw [after_concat, family_next, h]
    exact List.getElem?_concat_length
  rw [← List.singleton_append, ← List.append_assoc]
  exact getElem?_family_append hnext later

/-- A handle that is no clone has a family of its own. -/
theorem Starts.getElem?_family (h : Starts operations first) :
    (after operations).family[first]? = some first := by
  rcases h with rfl | ⟨before, later, rfl, rfl⟩
  · have hinitial : (after []).family[0]? = some 0 := rfl
    exact getElem?_family_append hinitial operations
  · exact getElem?_family_of_added rfl

/-- A clone is in the family of the handle it was made from. -/
theorem Clones.getElem?_family {family : Nat} (h : Clones operations handle other)
    (hfamily : (after operations).family[handle]? = some family) :
    (after operations).family[other]? = some family := by
  obtain ⟨hlt, before, later, rfl, rfl⟩ := h
  refine getElem?_family_of_added ?_
  rw [added, getElem?_family_before hlt hfamily]
  rfl

/-- **The family of a handle is named by the handle from which it was reached by cloning.** -/
theorem getElem?_family_iff :
    (after operations).family[handle]? = some first ↔
      Starts operations first ∧ Reaches operations first handle := by
  constructor
  · intro h
    induction operations using List.reverseRecOn generalizing handle with
    | nil =>
      have hmem : first ∈ initial.family := List.mem_of_getElem? h
      obtain rfl := List.mem_singleton.mp hmem
      have hlt : handle < 1 := (List.getElem?_eq_some_iff.mp h).1
      obtain rfl : handle = 0 := by omega
      exact ⟨.inl rfl, .refl⟩
    | append_singleton operations operation ih =>
      rw [after_concat, family_next] at h
      rcases Nat.lt_or_ge handle (after operations).count with hold | hnew
      · rw [List.getElem?_append_left hold] at h
        obtain ⟨hstarts, hreached⟩ := ih h
        exact ⟨hstarts.append _, hreached.append _⟩
      · rw [List.getElem?_append_right hnew] at h
        obtain ⟨hzero, hmade⟩ := exists_of_getElem?_added h
        obtain rfl : handle = (after operations).count :=
          Nat.le_antisymm (Nat.sub_eq_zero_iff_le.mp hzero) hnew
        rcases hmade with ⟨rfl, rfl⟩ | ⟨i, rfl, hi⟩
        · exact ⟨.inr (isMadeAt_concat _ _), .refl⟩
        · -- a clone is one step away from the handle it is made from
          obtain ⟨hstarts, hreached⟩ := ih hi
          have hlt : i < (after operations).count := (List.getElem?_eq_some_iff.mp hi).1
          exact ⟨hstarts.append _, (hreached.append _).tail ⟨hlt, isMadeAt_concat _ _⟩⟩
  · rintro ⟨hstarts, hreached⟩
    induction hreached with
    | refl => exact hstarts.getElem?_family
    | tail _ hclones ih => exact hclones.getElem?_family ih

/-- Handles are of one family if one family is recorded for both. -/
theorem sameFamily_iff :
    SameFamily operations handle other ↔ ∃ family,
      (after operations).family[handle]? = some family ∧
        (after operations).family[other]? = some family := by
  refine exists_congr fun first => ?_
  rw [getElem?_family_iff, getElem?_family_iff, ← and_and_left]

theorem mem_cancelledFamilies_iff {family : Nat} :
    family ∈ (after operations).cancelledFamilies ↔
      ∃ canceller, Cancels operations canceller ∧
        (after operations).family[canceller]? = some family := by
  constructor
  · intro h
    induction operations using List.reverseRecOn with
    | nil => cases h
    | append_singleton operations operation ih =>
      rw [after_concat, cancelledFamilies_next, List.mem_append] at h
      rcases h with hstruck | hold
      · cases operation with
        | cancel canceller =>
          have hfamily : (after operations).family[canceller]? = some family :=
            Option.mem_toList.mp hstruck
          have hlt : canceller < (after operations).count :=
            (List.getElem?_eq_some_iff.mp hfamily).1
          exact ⟨canceller, ⟨_, hlt, isMadeAt_concat _ _⟩, getElem?_family_append hfamily _⟩
        | new | clone | check | compile | batch => cases hstruck
      · obtain ⟨canceller, hcancels, hfamily⟩ := ih hold
        exact ⟨canceller, hcancels.append _, getElem?_family_append hfamily _⟩
  · rintro ⟨canceller, ⟨_, hlt, before, later, rfl, rfl⟩, hfamily⟩
    have hnext : family ∈ (after (before ++ [.cancel canceller])).cancelledFamilies := by
      rw [after_concat, cancelledFamilies_next]
      exact List.mem_append_left _ (Option.mem_toList.mpr (getElem?_family_before hlt hfamily))
    rw [← List.singleton_append, ← List.append_assoc]
    exact mem_cancelledFamilies_append hnext later

theorem isCancelled_iff_exists_mem {handles : Handles} :
    handles.isCancelled handle = true ↔ ∃ family,
      handles.family[handle]? = some family ∧ family ∈ handles.cancelledFamilies := by
  rw [isCancelled]
  cases handles.family[handle]? with
  | none => simp
  | some family => simp

/-- **A handle is cancelled if a handle of its family was.** -/
theorem isCancelled_after_iff :
    (after operations).isCancelled handle = true ↔
      ∃ canceller, Cancels operations canceller ∧ SameFamily operations canceller handle := by
  rw [isCancelled_iff_exists_mem]
  constructor
  · rintro ⟨family, hfamily, hmem⟩
    obtain ⟨canceller, hcancels, hcanceller⟩ := mem_cancelledFamilies_iff.mp hmem
    exact ⟨canceller, hcancels, sameFamily_iff.mpr ⟨family, hcanceller, hfamily⟩⟩
  · rintro ⟨canceller, hcancels, hsame⟩
    obtain ⟨family, hcanceller, hfamily⟩ := sameFamily_iff.mp hsame
    exact ⟨family, hfamily, mem_cancelledFamilies_iff.mpr ⟨canceller, hcancels, hcanceller⟩⟩

/-- A handle that is cancelled stays so. -/
theorem isCancelled_append (h : (after operations).isCancelled handle = true)
    (more : List Operation) : (after (operations ++ more)).isCancelled handle = true := by
  obtain ⟨family, hfamily, hmem⟩ := isCancelled_iff_exists_mem.mp h
  exact isCancelled_iff_exists_mem.mpr
    ⟨family, getElem?_family_append hfamily more, mem_cancelledFamilies_append hmem more⟩

/-- The flags tell for each handle whether it is cancelled. -/
theorem flags_eq_map_isCancelled (handles : Handles) :
    handles.flags = (List.range handles.count).map handles.isCancelled := by
  refine List.ext_getElem (by simp [flags, count]) fun i hi _ => ?_
  have hlt : i < handles.family.length := by
    rw [flags, List.length_map] at hi
    exact hi
  simp [flags, isCancelled, List.getElem?_eq_getElem hlt]

end NativeBindings.Handles
