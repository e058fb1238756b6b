/-
NativeBindings/Proofs/Json/RecordRoundTrip.lean

A record that was written is read back.  A format is lawful if each of its fields reads back what
it writes, no two of its fields share a name, and its values make the record that they were taken
from.  Then the members of a written record fill the slots one after the other, each the slot of its
own field, and the filled slots are the values:

    format.read (format.write record).node = .ok record

Formats are built from fields, and fields again from formats, so that a format is lawful is shown
for one record type after the other, from the innermost outwards.
-/
import NativeBindings.Json.Field
import NativeBindings.Proofs.Json.ValueReading

namespace NativeBindings.Json

/-- A field reads back what it writes. -/
def FieldFormat.Lawful {α : Type} (field : FieldFormat α) : Prop :=
  ∀ a, field.read (field.write a).node = .ok a

namespace Fields

variable {αs : List Type}

/-- Every field reads back what it writes. -/
def Lawful : {αs : List Type} → Fields αs → Prop
  | _, nil => True
  | _, cons field rest => field.Lawful ∧ rest.Lawful

/-- All fields have been read. -/
def fill : {αs : List Type} → Fields αs → Values αs → Slots αs
  | _, nil, () => ()
  | _, cons _ rest, (value, values) => (some value, rest.fill values)

/-- Filled slots need no defaults. -/
theorem complete_fill (fields : Fields αs) (values : Values αs) :
    fields.complete (fields.fill values) = .ok values := by
  induction fields with
  | nil => rfl
  | cons field rest ih =>
    obtain ⟨value, values⟩ := values
    rw [fill, complete, ih]
    rfl

theorem map_fst_write (fields : Fields αs) (values : Values αs) :
    (fields.write values).map Prod.fst = fields.names := by
  induction fields with
  | nil => rfl
  | cons field rest ih =>
    obtain ⟨value, values⟩ := values
    rw [write, List.map_cons, ih, names]

/-- Members are placed one after the other, each in the slot of its field. -/
inductive Places (fields : Fields αs) : List (String × Json) → Slots αs → Slots αs → Prop
  | nil {slots : Slots αs} : Places fields [] slots slots
  | cons {member : String × Json} {rest : List (String × Json)} {slots next final : Slots αs} :
      fields.place member.1 member.2.node slots = some (.ok next) →
      Places fields rest next final → Places fields (member :: rest) slots final

/-- Members of the fields behind the first one leave its slot alone. -/
theorem Places.behind {α : Type} {field : FieldFormat α} {rest : Fields αs}
    {members : List (String × Json)} {slots final : Slots αs} (slot : Option α)
    (h : rest.Places members slots final) (hname : field.name ∉ members.map Prod.fst) :
    (Fields.cons field rest).Places members (slot, slots) (slot, final) := by
  induction h with
  | nil => exact .nil
  | @cons member others slots next final hplace _ ih =>
    rw [List.map_cons, List.mem_cons, not_or] at hname
    refine .cons ?_ (ih hname.2)
    rw [place, if_neg (Ne.symm hname.1), hplace]
    rfl

/-- **The members that fields write fill their slots**, if no two fields share a name. -/
theorem places_write {fields : Fields αs} (h : fields.Lawful) (hnames : fields.names.Nodup)
    (values : Values αs) : fields.Places (fields.write values) fields.empty (fields.fill values) := by
  induction fields with
  | nil => exact .nil
  | cons field rest ih =>
    obtain ⟨value, values⟩ := values
    obtain ⟨hfield, hrest⟩ := h
    obtain ⟨hname, hnames⟩ := List.nodup_cons.mp hnames
    refine .cons ?_ ((ih hrest hnames values).behind (some value) ?_)
    · rw [empty, place, if_pos rfl, hfield value]
      rfl
    · rw [map_fst_write]
      exact hname

end Fields

namespace Format

variable {ρ : Type} {format : Format ρ}

/-- The fields of a format read back what they write, they have different names, and their values
make the record that they are taken from. -/
structure Lawful (format : Format ρ) : Prop where
  fields : format.fields.Lawful
  nodup_names : format.fields.names.Nodup
  ofValues_toValues : ∀ record, format.ofValues (format.toValues record) = record

theorem readMembers_of_places {members : List (String × Json)} {slots final : Slots format.types}
    (h : format.fields.Places members slots final) :
    format.readMembers (members.map memberNode) slots = .ok final := by
  induction h with
  | nil => rfl
  | @cons member rest slots next final hplace _ ih =>
    rw [List.map_cons, memberNode, readMembers, value_stringLexeme]
    dsimp only [orBroken, bind, Except.bind]
    rw [hplace]
    exact ih

/-- **A written record is read back.** -/
theorem Lawful.read_write (h : format.Lawful) (record : ρ) :
    format.read (format.write record).node = .ok record := by
  have hmembers := readMembers_of_places
    (Fields.places_write h.fields h.nodup_names (format.toValues record))
  rw [write, node, memberNodes_eq_map, read, hmembers]
  show (do return format.ofValues (← format.fields.complete _)) = _
  rw [Fields.complete_fill]
  show Except.ok (format.ofValues (format.toValues record)) = _
  rw [h.ofValues_toValues]

/-- A document with the lexemes of a written record is read as the record. -/
theorem Lawful.readDocument_of_spells (h : format.Lawful) {text : String} {record : ρ}
    (htext : Spells text (format.write record).spelling) :
    format.readDocument text = .ok record := by
  rw [readDocument, parse_of_spells htext]
  dsimp only
  rw [h.read_write]
  rfl

end Format

/-! ### Kinds of fields -/

theorem readString_node (s : String) : readString (Json.string s).node = .ok s := by
  show orBroken (stringLexeme s).value = _
  rw [value_stringLexeme]
  rfl

theorem readBelow_node {bound n : Nat} (h : n < bound) (hword : n < wordBound)
    (expected : String) : readBelow bound expected (Json.number n).node = .ok n := by
  rw [node, readBelow, value_numeralOf hword]
  show (if (0 : Int) ≤ n ∧ (n : Int) < bound then _ else _) = _
  rw [if_pos ⟨by omega, by omega⟩]
  rfl

theorem readUInt8_node (n : UInt8) : readUInt8 (Json.number n.toNat).node = .ok n := by
  have hlt := n.toNat_lt
  rw [readUInt8, readBelow_node hlt (Nat.lt_trans hlt (by decide))]
  show Except.ok (UInt8.ofNat n.toNat) = _
  rw [UInt8.ofNat_toNat]

theorem readUInt32_node (n : UInt32) : readUInt32 (Json.number n.toNat).node = .ok n := by
  have hlt := n.toNat_lt
  rw [readUInt32, readBelow_node hlt (Nat.lt_trans hlt (by decide))]
  show Except.ok (UInt32.ofNat n.toNat) = _
  rw [UInt32.ofNat_toNat]

/-- A list is read back if its items are. -/
theorem readList_node {α : Type} {read : Reader α} {write : α → Json}
    (h : ∀ a, read (write a).node = .ok a) (as : List α) :
    readList read (Json.array (as.map write)).node = .ok as := by
  have hitems : readItems read (as.map fun a => (write a).node) = .ok as := by
    induction as with
    | nil => rfl
    | cons a as ih =>
      rw [List.map_cons, readItems, h, ih]
      rfl
  have hnodes : itemNodes (as.map write) = as.map fun a => (write a).node := by
    rw [itemNodes_eq_map, List.map_map]
    rfl
  rw [node, hnodes, readList, hitems]
  rfl

namespace FieldFormat

theorem lawful_string (name : String) (default : Option String) :
    (FieldFormat.string name default).Lawful := readString_node

theorem lawful_bool (name : String) (default : Bool) : (FieldFormat.bool name default).Lawful :=
  fun _ => rfl

theorem lawful_uint32 (name : String) (default : Option UInt32) :
    (FieldFormat.uint32 name default).Lawful := readUInt32_node

theorem lawful_list {α : Type} (name : String) {read : Reader α} {write : α → Json}
    (h : ∀ a, read (write a).node = .ok a) : (FieldFormat.list name read write).Lawful :=
  readList_node h

variable {ρ : Type} {format : Format ρ}

theorem lawful_record (name : String) (h : format.Lawful) :
    (FieldFormat.record name format).Lawful := h.read_write

theorem lawful_records (name : String) (h : format.Lawful) :
    (FieldFormat.records name format).Lawful := lawful_list name h.read_write

end FieldFormat

end NativeBindings.Json
