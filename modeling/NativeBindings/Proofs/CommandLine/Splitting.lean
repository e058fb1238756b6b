/-
NativeBindings/Proofs/CommandLine/Splitting.lean

Arguments as items.  Where an item begins and ends in a list of arguments depends on everything to
the left of it, for an argument that looks like a flag may be the value of another one.  So the list
is cut from left to right, into groups of arguments that each spell an item (`SplitInto`).  If no
group is the front of another one, there is one way at most to cut a list (`SplitInto.unique`).
-/
import Mathlib.Data.List.Basic

namespace NativeBindings

variable {ι : Type} {spells : List String → ι → Prop} {arguments : List String} {items : List ι}

/-- Arguments that are cut, from left to right, into groups that each spell an item. -/
inductive SplitInto (spells : List String → ι → Prop) : List String → List ι → Prop where
  | nil : SplitInto spells [] []
  | cons {group rest : List String} {item : ι} {items : List ι} (hitem : spells group item)
      (hrest : SplitInto spells rest items) : SplitInto spells (group ++ rest) (item :: items)

/-- A group is told by the arguments at the front, whatever follows it. -/
structure IsPrefixFree (spells : List String → ι → Prop) : Prop where
  ne_nil : ∀ {group item}, spells group item → group ≠ []
  unique : ∀ {group other rest otherRest item otherItem}, spells group item →
    spells other otherItem → group ++ rest = other ++ otherRest →
    item = otherItem ∧ rest = otherRest

namespace SplitInto

/-- Each item is spelled by a group. -/
theorem exists_of_mem {item : ι} (h : SplitInto spells arguments items) (hmem : item ∈ items) :
    ∃ group, spells group item := by
  induction h with
  | nil => cases hmem
  | cons hitem _ ih =>
    rcases List.mem_cons.mp hmem with rfl | hmem
    · exact ⟨_, hitem⟩
    · exact ih hmem

/-- **There is one way at most to cut arguments.** -/
theorem unique (hspells : IsPrefixFree spells) {others : List ι}
    (h : SplitInto spells arguments items) (hother : SplitInto spells arguments others) :
    items = others := by
  induction h generalizing others with
  | nil =>
    generalize harguments : ([] : List String) = arguments at hother
    cases hother with
    | nil => rfl
    | cons hitem _ =>
      exact absurd (List.append_eq_nil_iff.mp harguments.symm).1 (hspells.ne_nil hitem)
  | @cons group rest item items hitem _ ih =>
    generalize harguments : group ++ rest = arguments at hother
    cases hother with
    | nil => exact absurd (List.append_eq_nil_iff.mp harguments).1 (hspells.ne_nil hitem)
    | cons hother hothers =>
      obtain ⟨rfl, rfl⟩ := hspells.unique hitem hother harguments
      rw [ih hothers]

end SplitInto

end NativeBindings
