/-
NativeBindings/Proofs/Json/RecordFields.lean

Where the fields of a record come from.  Whatever the document looks like, a record that is read from
it has in each field what the document holds for the field, the member with its name or the item at
its place, and the default where it holds nothing:

    format.read node = .ok record  →  format.fields.Take node.field? 0 (the values of the record)

(`Format.exists_take_of_read`).  For an object the slots hold, after some members, what these members
have under the names of the fields (`Fields.Holds`), and one more member keeps that
(`Fields.Holds.place`).
-/
import NativeBindings.Json.Record
import Mathlib.Data.List.Nodup

namespace NativeBindings.Json

/-- The first member with a key. -/
def member? (members : List (StringLexeme × Node)) (key : String) : Option Node :=
  (members.find? fun member => member.1.value = .ok key).map Prod.snd

/-- What a document holds for a field: in an object the member with its name, in an array the item at
its place. -/
def Node.field? : Node → (name : String) → (place : Nat) → Option Node
  | .object members _, name, _ => member? members name
  | .array items _, _, place => items[place]?
  | _, _, _ => none

/-- The value that is read from what is found, or the default if nothing is. -/
def Takes {α : Type} (read : Reader α) (default : Option α) (found : Option Node) (value : α) :
    Prop :=
  match found with
  | some node => read node = .ok value
  | none => default = some value

theorem member?_append_singleton (members : List (StringLexeme × Node)) {lexeme : StringLexeme}
    {key : String} (hkey : lexeme.value = .ok key) (node : Node) (name : String) :
    member? (members ++ [(lexeme, node)]) name =
      (member? members name).or (if key = name then some node else none) := by
  rw [member?, List.find?_append, Option.map_or, List.find?_singleton, hkey]
  rcases Decidable.em (key = name) with rfl | hne
  · rw [if_pos (decide_eq_true rfl), if_pos rfl]
    rfl
  · rw [if_neg hne, if_neg fun h => hne (Except.ok.inj (of_decide_eq_true h))]
    rfl

/-- What succeeds in two steps succeeds in the first one and then in the other. -/
theorem exists_of_bind_eq_ok {ε α β : Type} {first : Except ε α} {next : α → Except ε β} {b : β}
    (h : first >>= next = .ok b) : ∃ a, first = .ok a ∧ next a = .ok b := by
  rcases first with cause | a
  · cases h
  · exact ⟨a, rfl, h⟩

theorem refuse_ne_ok {α : Type} (expected : String) (node : Node) (a : α) :
    refuse expected node ≠ .ok a := by
  intro h
  cases node
  all_goals
    rw [refuse] at h
    obtain ⟨found, -, h⟩ := exists_of_bind_eq_ok h
    cases h

namespace Fields

variable {αs : List Type} {fields : Fields αs} {find : String → Option Node} {slots next : Slots αs}
  {values : Values αs}

/-- Each field, the first of them at a place, takes what is found for it. -/
def Take (find : (name : String) → (place : Nat) → Option Node) :
    {αs : List Type} → (place : Nat) → Fields αs → Values αs → Prop
  | _, _, nil, () => True
  | _, place, cons field rest, (value, values) =>
      Takes field.read field.default (find field.name place) value ∧
        rest.Take find (place + 1) values

/-- Each slot holds what is found under the name of its field. -/
def Holds (find : String → Option Node) : {αs : List Type} → Fields αs → Slots αs → Prop
  | _, nil, () => True
  | _, cons field rest, (slot, slots) =>
      (find field.name).map field.read = slot.map .ok ∧ rest.Holds find slots

/-! ### Items -/

/-- **The items of an array go to the fields in order**, from a place on. -/
theorem take_of_readItems {record : String} {total place : Nat} {ending : Option Break}
    {items all left : List Node} (hall : ∀ i, all[place + i]? = items[i]?)
    (h : fields.readItems record total ending place items = .ok (values, left)) :
    fields.Take (fun _ place => all[place]?) place values := by
  induction fields generalizing place items with
  | nil => trivial
  | cons field rest ih =>
    have hfirst : all[place]? = items[0]? := hall 0
    have hbehind : ∀ i, all[place + 1 + i]? = items.tail[i]? := by
      intro i
      rw [Nat.add_assoc, Nat.add_comm 1 i, hall (i + 1), List.getElem?_tail]
    rcases items with - | ⟨node, items⟩
    · rw [readItems] at h
      obtain ⟨-, -, h⟩ := exists_of_bind_eq_ok h
      rcases hdefault : field.default with - | value
      · rw [hdefault] at h
        cases h
      · rw [hdefault] at h
        obtain ⟨⟨others, behind⟩, hrest, h⟩ := exists_of_bind_eq_ok h
        cases h
        refine ⟨?_, ih hbehind hrest⟩
        dsimp only
        rw [hfirst]
        exact hdefault
    · rw [readItems] at h
      obtain ⟨value, hvalue, h⟩ := exists_of_bind_eq_ok h
      obtain ⟨⟨others, behind⟩, hrest, h⟩ := exists_of_bind_eq_ok h
      cases h
      refine ⟨?_, ih hbehind hrest⟩
      dsimp only
      rw [hfirst]
      exact hvalue

/-! ### Members -/

theorem holds_empty (fields : Fields αs) : fields.Holds (member? []) fields.empty := by
  induction fields with
  | nil => trivial
  | cons field rest ih => exact ⟨rfl, ih⟩

theorem Holds.congr {other : String → Option Node} (h : fields.Holds find slots)
    (hfind : ∀ name ∈ fields.names, find name = other name) : fields.Holds other slots := by
  induction fields with
  | nil => trivial
  | cons field rest ih =>
    obtain ⟨slot, slots⟩ := slots
    obtain ⟨hfirst, hrest⟩ := List.forall_mem_cons.mp hfind
    exact ⟨hfirst ▸ h.1, ih h.2 hrest⟩

theorem not_mem_names_of_place {key : String} {node : Node}
    (h : fields.place key node slots = none) : key ∉ fields.names := by
  induction fields with
  | nil => exact List.not_mem_nil
  | cons field rest ih =>
    obtain ⟨slot, slots⟩ := slots
    rw [place] at h
    split at h
    · cases h
    · rename_i hne
      exact List.not_mem_cons_of_ne_of_not_mem hne (ih (Option.map_eq_none_iff.mp h))

/-- **One more member.**  The slots go on to hold what is found. -/
theorem Holds.place {key : String} {node : Node} (h : fields.Holds find slots)
    (hnames : fields.names.Nodup) (hplace : fields.place key node slots = some (.ok next)) :
    fields.Holds (fun name => (find name).or (if key = name then some node else none)) next := by
  induction fields with
  | nil => trivial
  | cons field rest ih =>
    obtain ⟨slot, slots⟩ := slots
    obtain ⟨hslot, hrest⟩ := h
    obtain ⟨hname, hnames⟩ := List.nodup_cons.mp hnames
    rw [Fields.place] at hplace
    split at hplace
    · -- the slot was empty, and no other field has the name
      rename_i hkey
      subst hkey
      rcases slot with - | earlier
      · have hnone : find field.name = none := Option.map_eq_none_iff.mp hslot
        obtain ⟨value, hvalue, hnext⟩ := exists_of_bind_eq_ok (Option.some.inj hplace)
        cases hnext
        refine ⟨?_, hrest.congr fun name hmem => ?_⟩
        · dsimp only
          rw [hnone, if_pos rfl]
          exact congrArg some hvalue
        · have hne : field.name ≠ name := fun heq => hname (heq ▸ hmem)
          rw [if_neg hne, Option.or_none]
      · cases Option.some.inj hplace
    · rename_i hne
      obtain ⟨result, hresult, hnext⟩ := Option.map_eq_some_iff.mp hplace
      obtain ⟨others, rfl, hnext⟩ := exists_of_bind_eq_ok hnext
      cases hnext
      refine ⟨?_, ih hrest hnames hresult⟩
      dsimp only
      rw [if_neg hne, Option.or_none]
      exact hslot

/-- Slots are completed by the defaults of the fields that nothing is found for. -/
theorem Holds.take_of_complete (h : fields.Holds find slots)
    (hcomplete : fields.complete slots = .ok values) (place : Nat) :
    fields.Take (fun name _ => find name) place values := by
  induction fields generalizing place with
  | nil => trivial
  | cons field rest ih =>
    rw [complete.eq_def] at hcomplete
    obtain ⟨slot, slots⟩ := slots
    obtain ⟨hslot, hrest⟩ := h
    rcases slot with - | value
    · have hnone : find field.name = none := Option.map_eq_none_iff.mp hslot
      rcases hdefault : field.default with - | value
      · dsimp only at hcomplete
        rw [hdefault] at hcomplete
        cases hcomplete
      · dsimp only at hcomplete
        rw [hdefault] at hcomplete
        obtain ⟨_, ⟨⟩, hcomplete⟩ := exists_of_bind_eq_ok hcomplete
        obtain ⟨others, hothers, ⟨⟩⟩ := exists_of_bind_eq_ok hcomplete
        refine ⟨?_, ih hrest hothers (place + 1)⟩
        dsimp only
        rw [hnone]
        exact hdefault
    · obtain ⟨node, hnode, hvalue⟩ := Option.map_eq_some_iff.mp hslot
      obtain ⟨_, ⟨⟩, hcomplete⟩ := exists_of_bind_eq_ok hcomplete
      obtain ⟨others, hothers, ⟨⟩⟩ := exists_of_bind_eq_ok hcomplete
      refine ⟨?_, ih hrest hothers (place + 1)⟩
      dsimp only
      rw [hnode]
      exact hvalue

end Fields

namespace Format

variable {ρ : Type} {format : Format ρ}

/-- **The slots hold the members that have been read.** -/
theorem holds_readMembers {seen members : List (StringLexeme × Node)}
    {slots final : Slots format.types} (hnames : format.fields.names.Nodup)
    (h : format.fields.Holds (member? seen) slots)
    (hread : format.readMembers members slots = .ok final) :
    format.fields.Holds (member? (seen ++ members)) final := by
  induction members generalizing seen slots with
  | nil =>
    cases hread
    rwa [List.append_nil]
  | cons member members ih =>
    obtain ⟨lexeme, node⟩ := member
    rw [readMembers] at hread
    obtain ⟨key, hkey, hread⟩ := exists_of_bind_eq_ok hread
    have hlexeme : lexeme.value = .ok key := by
      rcases hvalue : lexeme.value with cause | found
      · rw [hvalue] at hkey
        cases hkey
      · rw [hvalue] at hkey
        cases hkey
        rfl
    rw [← List.singleton_append, ← List.append_assoc]
    rcases hplace : format.fields.place key node slots with - | result
    · rw [hplace] at hread
      have hother : format.readMembers members slots = .ok final := by
        dsimp only at hread
        split at hread
        · cases hread
        · obtain ⟨-, -, hread⟩ := exists_of_bind_eq_ok hread
          exact hread
      refine ih (h.congr fun name hmem => ?_) hother
      have hne : key ≠ name := fun heq => Fields.not_mem_names_of_place hplace (heq ▸ hmem)
      rw [member?_append_singleton seen hlexeme, if_neg hne, Option.or_none]
    · rw [hplace] at hread
      obtain ⟨next, rfl, hread⟩ := exists_of_bind_eq_ok hread
      refine ih ((h.place hnames hplace).congr fun name _ => ?_) hread
      rw [member?_append_singleton seen hlexeme]

/-- **Fields come from the document or are the defaults.** -/
theorem exists_take_of_read {node : Node} {record : ρ} (hnames : format.fields.names.Nodup)
    (h : format.read node = .ok record) :
    ∃ values, format.fields.Take node.field? 0 values ∧ record = format.ofValues values := by
  cases node with
  | array items ending =>
    obtain ⟨⟨values, left⟩, hitems, h⟩ := exists_of_bind_eq_ok h
    refine ⟨values, Fields.take_of_readItems (fun i => by rw [Nat.zero_add]) hitems, ?_⟩
    dsimp only at h
    split at h
    · obtain ⟨-, -, h⟩ := exists_of_bind_eq_ok h
      exact (Except.ok.inj h).symm
    · cases h
  | object members ending =>
    obtain ⟨slots, hslots, h⟩ := exists_of_bind_eq_ok h
    obtain ⟨-, -, h⟩ := exists_of_bind_eq_ok h
    obtain ⟨values, hvalues, h⟩ := exists_of_bind_eq_ok h
    have hholds := holds_readMembers hnames (Fields.holds_empty format.fields) hslots
    exact ⟨values, hholds.take_of_complete hvalues 0, (Except.ok.inj h).symm⟩
  | null | bool | number | string | gap =>
    rw [read.eq_def] at h
    exact absurd h (refuse_ne_ok _ _ _)

theorem exists_take_of_readDocument {text : String} {record : ρ}
    (hnames : format.fields.names.Nodup) (h : format.readDocument text = .ok record) :
    ∃ values, format.fields.Take (parse text).root.field? 0 values ∧
      record = format.ofValues values := by
  obtain ⟨found, hread, h⟩ := exists_of_bind_eq_ok h
  obtain ⟨-, -, h⟩ := exists_of_bind_eq_ok h
  cases h
  exact exists_take_of_read hnames hread

end Format

end NativeBindings.Json
