/-
NativeBindings/Proofs/Json/RecordSpelling.lean

Records are read from any of their spellings, of which one is the text that is written for them.
A format agrees with cells if each of its fields reads every spelling of its cell as the value of
the record, writes one of them, and takes this value if the cell may be left out (`Fields.Agrees`).
Then an array is read field by field.  For an object the members may
come in any order, so what has been read is told by the keys that have been seen,

    slots = fields.slotsOf values seen

and one member moves its key to the seen ones, whatever they are (`place_slotsOf`).  At the end, the
values of the keys that have not been seen are those of the defaults (`complete_slotsOf`).
-/
import NativeBindings.Proofs.Json.GrammarReading
import NativeBindings.Proofs.Json.RecordRoundTrip
import Mathlib.Data.List.Perm.Basic

namespace NativeBindings.Json

/-! ### Reading from a text -/

section Scalars

variable {α : Type} {read : Reader α} {text padded : String} {a : α}

/-- A text yields a tree that is read as a value. -/
def Reads (read : Reader α) (text : String) (a : α) : Prop :=
  ∃ node, Yields text node ∧ read node = .ok a

theorem reads_string {s : String} (h : SpellsString s text) : Reads readString text s := by
  obtain ⟨pieces, hdenotes, hpieces⟩ := h
  refine ⟨.string { pieces }, .string hpieces, ?_⟩
  rw [readString, value_of_denotes hdenotes]
  rfl

theorem reads_uint8 {n : UInt8} (h : SpellsNumber n.toNat text) : Reads readUInt8 text n := by
  rw [SpellsNumber] at h
  subst h
  exact ⟨_, .scalar (spells_number n.toNat) fun _ => rfl, readUInt8_node n⟩

theorem reads_uint32 {n : UInt32} (h : SpellsNumber n.toNat text) : Reads readUInt32 text n := by
  rw [SpellsNumber] at h
  subst h
  exact ⟨_, .scalar (spells_number n.toNat) fun _ => rfl, readUInt32_node n⟩

theorem reads_bool {b : Bool} (h : SpellsBool b text) : Reads readBool text b := by
  rw [SpellsBool] at h
  subst h
  exact ⟨.bool b, .bool b, rfl⟩

/-- A list is read if its items are. -/
theorem reads_list {spells : α → String → Prop} {values : List α}
    (hitem : ∀ a text, spells a text → Reads read text a) (h : SpellsList spells values text) :
    Reads (readList read) text values := by
  obtain ⟨items, hitems, htext⟩ := h
  obtain ⟨nodes, hnodes, hread⟩ : ∃ nodes, List.Forall₂ Yields items nodes ∧
      readItems read nodes = .ok values := by
    clear htext
    induction hitems with
    | nil => exact ⟨[], .nil, rfl⟩
    | @cons value item values items hvalue _ ih =>
      obtain ⟨node, hnode, hfirst⟩ := hitem value item hvalue
      obtain ⟨nodes, hnodes, hrest⟩ := ih
      refine ⟨node :: nodes, .cons hnode hnodes, ?_⟩
      rw [readItems, hfirst, hrest]
      rfl
  refine ⟨.array nodes none, .array hnodes htext, ?_⟩
  rw [readList, hread]
  rfl

/-- The text of a list spells it if the texts of its items do. -/
theorem spellsList_render {spells : α → String → Prop} {write : α → Json}
    (h : ∀ a, spells a (write a).render) (values : List α) :
    SpellsList spells values (Json.array (values.map write)).render := by
  rw [render, renderItems_eq_map, List.map_map]
  refine ⟨values.map (render ∘ write), ?_, enclosed_intercalate "[" "]" _⟩
  rw [List.forall₂_map_right_iff, List.forall₂_same]
  exact fun a _ => h a

end Scalars

/-! ### Fields -/

/-- The text of a member as it is written. -/
def memberText (member : String × Json) : MemberText :=
  .plain (renderString member.1) member.2.render

/-- A field has the name of a cell, reads every spelling of it as a value, writes one of them for the
value, and has the value as its default if the cell may be left out. -/
structure FieldFormat.Agrees {α : Type} (field : FieldFormat α) (value : α) (cell : Cell) :
    Prop where
  name_eq : field.name = cell.name
  default_eq : cell.omissible → field.default = some value
  reads : ∀ text, cell.spells text → Reads field.read text value
  spells_write : cell.spells (field.write value).render

namespace FieldFormat

theorem agrees_string (name value : String) :
    (FieldFormat.string name).Agrees value (.string name value) where
  name_eq := rfl
  default_eq := False.elim
  reads := fun _ => reads_string
  spells_write := spellsString_renderString value

theorem agrees_stringOrEmpty (name value : String) :
    (FieldFormat.string name (some "")).Agrees value (.stringOrEmpty name value) where
  name_eq := rfl
  default_eq := fun h => congrArg some h.symm
  reads := fun _ => reads_string
  spells_write := spellsString_renderString value

theorem agrees_bool (name : String) (value : Bool) :
    (FieldFormat.bool name false).Agrees value (.flag name value) where
  name_eq := rfl
  default_eq := fun h => congrArg some h.symm
  reads := fun _ => reads_bool
  spells_write := by cases value <;> rfl

theorem agrees_uint32 (name : String) (value : UInt32) :
    (FieldFormat.uint32 name).Agrees value (.number name value.toNat) where
  name_eq := rfl
  default_eq := False.elim
  reads := fun _ => reads_uint32
  spells_write := rfl

theorem agrees_list {α : Type} (name : String) {read : Reader α} (write : α → Json)
    {spells : α → String → Prop} (hread : ∀ a text, spells a text → Reads read text a)
    (hwrite : ∀ a, spells a (write a).render) (values : List α) :
    (FieldFormat.list name read write).Agrees values (.list name spells values) where
  name_eq := rfl
  default_eq := fun h => congrArg some h.symm
  reads := fun _ => reads_list hread
  spells_write := spellsList_render hwrite values

theorem agrees_strings (name : String) (values : List String) :
    (FieldFormat.list name readString .string).Agrees values (.list name SpellsString values) :=
  agrees_list name .string (fun _ _ => reads_string) spellsString_renderString values

end FieldFormat

namespace Fields

variable {αs : List Type} {key : String} {node : Node} {seen : List String}

/-- There is one cell for each field, and it agrees with the field. -/
def Agrees : {αs : List Type} → Fields αs → Values αs → List Cell → Prop
  | _, nil, (), cells => cells = []
  | _, cons _ _, _, [] => False
  | _, cons field rest, (value, values), cell :: cells =>
      field.Agrees value cell ∧ rest.Agrees values cells

/-- The field with a name reads a tree as its value. -/
def ReadsAt (key : String) (node : Node) : {αs : List Type} → Fields αs → Values αs → Prop
  | _, nil, () => False
  | _, cons field rest, (value, values) =>
      key = field.name ∧ field.read node = .ok value ∨
        key ≠ field.name ∧ rest.ReadsAt key node values

/-- The slots when the members of some names have been read. -/
def slotsOf (seen : List String) : {αs : List Type} → Fields αs → Values αs → Slots αs
  | _, nil, () => ()
  | _, cons field rest, (value, values) =>
      (if field.name ∈ seen then some value else none, rest.slotsOf seen values)

/-- Each field has been seen, or has the value as its default. -/
def Covers (seen : List String) : {αs : List Type} → Fields αs → Values αs → Prop
  | _, nil, () => True
  | _, cons field rest, (value, values) =>
      (field.name ∈ seen ∨ field.default = some value) ∧ rest.Covers seen values

theorem names_of_agrees {fields : Fields αs} {values : Values αs} {cells : List Cell}
    (h : fields.Agrees values cells) : fields.names = cells.map Cell.name := by
  induction fields generalizing cells with
  | nil =>
    obtain rfl : cells = [] := h
    rfl
  | cons field rest ih =>
    obtain ⟨value, values⟩ := values
    rcases cells with - | ⟨cell, cells⟩
    · exact h.elim
    · obtain ⟨⟨hname, -⟩, hrest⟩ := h
      rw [names, List.map_cons, hname, ih hrest]

/-- Each cell has its member among those that are written. -/
theorem isWritten_write {fields : Fields αs} {values : Values αs} {cells : List Cell}
    (h : fields.Agrees values cells) :
    List.Forall₂ Cell.IsWritten cells
      ((fields.write values).map fun member => some (memberText member)) := by
  induction fields generalizing cells with
  | nil =>
    obtain rfl : cells = [] := h
    exact .nil
  | cons field rest ih =>
    obtain ⟨value, values⟩ := values
    rcases cells with - | ⟨cell, cells⟩
    · exact h.elim
    · obtain ⟨hfield, hrest⟩ := h
      have hkey : SpellsString cell.name (renderString field.name) := by
        rw [hfield.name_eq]
        exact spellsString_renderString cell.name
      exact .cons ⟨hkey, hfield.spells_write, isJoined_plain _ _⟩ (ih hrest)

theorem mem_names_of_readsAt {fields : Fields αs} {values : Values αs}
    (h : fields.ReadsAt key node values) : key ∈ fields.names := by
  induction fields with
  | nil => exact h.elim
  | cons field rest ih =>
    obtain ⟨value, values⟩ := values
    rcases h with ⟨rfl, -⟩ | ⟨-, h⟩
    · exact List.mem_cons_self
    · exact List.mem_cons_of_mem _ (ih h)

theorem slotsOf_nil (fields : Fields αs) (values : Values αs) :
    fields.slotsOf [] values = fields.empty := by
  induction fields with
  | nil => rfl
  | cons field rest ih =>
    obtain ⟨value, values⟩ := values
    rw [slotsOf, empty, ih, if_neg List.not_mem_nil]

/-- A name of no field changes no slot. -/
theorem slotsOf_cons_of_not_mem {fields : Fields αs} {values : Values αs}
    (h : key ∉ fields.names) : fields.slotsOf (key :: seen) values = fields.slotsOf seen values := by
  induction fields with
  | nil => rfl
  | cons field rest ih =>
    obtain ⟨value, values⟩ := values
    rw [names, List.mem_cons, not_or] at h
    have hslot : field.name ∈ key :: seen ↔ field.name ∈ seen := by
      simp only [List.mem_cons, Ne.symm h.1, false_or]
    rw [slotsOf, ih h.2, if_congr hslot rfl rfl]
    rfl

/-- **A member moves its name to those that have been seen.** -/
theorem place_slotsOf {fields : Fields αs} {values : Values αs} (hnames : fields.names.Nodup)
    (h : fields.ReadsAt key node values) (hnew : key ∉ seen) :
    fields.place key node (fields.slotsOf seen values) =
      some (.ok (fields.slotsOf (key :: seen) values)) := by
  induction fields with
  | nil => exact h.elim
  | cons field rest ih =>
    obtain ⟨value, values⟩ := values
    obtain ⟨hname, hrest⟩ := List.nodup_cons.mp hnames
    rcases h with ⟨rfl, hread⟩ | ⟨hne, h⟩
    · -- the slot is empty, and no other field has the name
      rw [slotsOf, place, if_pos rfl, if_neg hnew, hread, slotsOf, if_pos List.mem_cons_self,
        slotsOf_cons_of_not_mem hname]
      rfl
    · have hslot : field.name ∈ key :: seen ↔ field.name ∈ seen := by
        simp only [List.mem_cons, Ne.symm hne, false_or]
      rw [slotsOf, place, if_neg hne, ih hrest h, slotsOf, if_congr hslot rfl rfl]
      rfl

theorem place_of_not_mem {fields : Fields αs} (h : key ∉ fields.names) (slots : Slots αs) :
    fields.place key node slots = none := by
  induction fields with
  | nil => rfl
  | cons field rest ih =>
    obtain ⟨slot, slots⟩ := slots
    rw [names, List.mem_cons, not_or] at h
    rw [place, if_neg h.1, ih h.2]
    rfl

/-- **What has not been seen is taken from the defaults.** -/
theorem complete_slotsOf {fields : Fields αs} {values : Values αs} (h : fields.Covers seen values) :
    fields.complete (fields.slotsOf seen values) = .ok values := by
  induction fields with
  | nil => rfl
  | cons field rest ih =>
    obtain ⟨value, values⟩ := values
    obtain ⟨hvalue, hrest⟩ := h
    rcases Decidable.em (field.name ∈ seen) with hseen | hunseen
    · rw [slotsOf, if_pos hseen, complete, ih hrest]
      rfl
    · rw [slotsOf, if_neg hunseen, complete, ih hrest]
      · rfl
      · exact hvalue.resolve_left hunseen

theorem Covers.mono {fields : Fields αs} {values : Values αs} {later : List String}
    (h : fields.Covers seen values) (hmem : ∀ name ∈ seen, name ∈ later) :
    fields.Covers later values := by
  induction fields with
  | nil => trivial
  | cons field rest ih =>
    obtain ⟨value, values⟩ := values
    exact ⟨h.1.imp_left (hmem _), ih h.2⟩

/-- The cells that are written have members that their fields read, under different names, and the
other fields have defaults. -/
theorem exists_entries_of_agrees {fields : Fields αs} {values : Values αs} {cells : List Cell}
    {own : List (Option MemberText)} (h : fields.Agrees values cells)
    (hnames : fields.names.Nodup) (hown : List.Forall₂ Cell.IsWritten cells own) :
    ∃ entries : List (String × StringLexeme × Node),
      List.Forall₂ (fun member entry => YieldsMember member.text entry.2) own.reduceOption entries ∧
      (∀ entry ∈ entries, entry.2.1.value = .ok entry.1 ∧
        fields.ReadsAt entry.1 entry.2.2 values) ∧
      (entries.map Prod.fst).Nodup ∧ fields.Covers (entries.map Prod.fst) values := by
  induction fields generalizing cells own with
  | nil =>
    obtain rfl : cells = [] := h
    cases hown
    exact ⟨[], .nil, List.forall_mem_nil _, List.nodup_nil, trivial⟩
  | cons field rest ih =>
    obtain ⟨value, values⟩ := values
    rcases hown with - | @⟨cell, member, cells, own, hwritten, hothers⟩
    · exact h.elim
    obtain ⟨⟨hname, hdefault, hreads⟩, hrest⟩ := h
    obtain ⟨hfresh, hnames⟩ := List.nodup_cons.mp hnames
    obtain ⟨entries, hyields, hentries, hnodup, hcovers⟩ := ih hrest hnames hothers
    have hbehind : ∀ entry ∈ entries, entry.2.1.value = .ok entry.1 ∧
        (cons field rest).ReadsAt entry.1 entry.2.2 (value, values) := by
      intro entry hentry
      obtain ⟨hkey, hread⟩ := hentries entry hentry
      refine ⟨hkey, .inr ⟨?_, hread⟩⟩
      rintro heq
      exact hfresh (heq ▸ mem_names_of_readsAt hread)
    cases member with
    | none =>
      exact ⟨entries, hyields, hbehind, hnodup, .inr (hdefault hwritten), hcovers⟩
    | some member =>
      obtain ⟨⟨pieces, hdenotes, hpieces⟩, hspells, hjoined⟩ := hwritten
      obtain ⟨node, hnode, hread⟩ := hreads member.value hspells
      refine ⟨(field.name, { pieces }, node) :: entries, .cons (hnode.member hpieces hjoined) hyields,
        List.forall_mem_cons.mpr ⟨⟨?_, .inl ⟨rfl, hread⟩⟩, hbehind⟩, ?_, .inl List.mem_cons_self,
        hcovers.mono fun name hmem => List.mem_cons_of_mem _ hmem⟩
      · rw [hname]
        exact value_of_denotes hdenotes
      · rw [List.map_cons, List.nodup_cons]
        refine ⟨fun hmem => hfresh ?_, hnodup⟩
        obtain ⟨entry, hentry, heq⟩ := List.mem_map.mp hmem
        have hentryName := mem_names_of_readsAt (hentries entry hentry).2
        rw [heq] at hentryName
        exact hentryName

/-- Items are read by the fields in their order, and the other fields have defaults. -/
theorem exists_nodes_of_agrees {fields : Fields αs} {values : Values αs}
    {written left : List Cell} {items : List String} (record : String) (total : Nat)
    (h : fields.Agrees values (written ++ left)) (hleft : ∀ cell ∈ left, cell.omissible)
    (hitems : List.Forall₂ Cell.spells written items) :
    ∃ nodes, List.Forall₂ Yields items nodes ∧
      ∀ position, fields.readItems record total none position nodes = .ok (values, []) := by
  induction fields generalizing written left items with
  | nil =>
    obtain ⟨rfl, rfl⟩ := List.append_eq_nil_iff.mp h
    cases hitems
    exact ⟨[], .nil, fun _ => rfl⟩
  | cons field rest ih =>
    obtain ⟨value, values⟩ := values
    cases hitems with
    | nil =>
      rcases left with - | ⟨cell, left⟩
      · exact h.elim
      obtain ⟨⟨-, hdefault, -⟩, hrest⟩ := h
      obtain ⟨hcell, hleft⟩ := List.forall_mem_cons.mp hleft
      have hnone : rest.Agrees values ([] ++ left) := hrest
      obtain ⟨nodes, hnodes, hreadItems⟩ := ih hnone hleft .nil
      cases hnodes
      refine ⟨[], .nil, fun position => ?_⟩
      rw [readItems, hdefault hcell, hreadItems]
      rfl
    | @cons cell item written items hspells hothers =>
      obtain ⟨⟨-, -, hreads⟩, hrest⟩ := h
      obtain ⟨node, hnode, hread⟩ := hreads item hspells
      obtain ⟨nodes, hnodes, hreadItems⟩ := ih hrest hleft hothers
      refine ⟨node :: nodes, .cons hnode hnodes, fun position => ?_⟩
      rw [readItems, hread]
      dsimp only [bind, Except.bind]
      rw [hreadItems]
      rfl

end Fields

/-! ### Members in any order -/

namespace Format

variable {ρ : Type} {format : Format ρ} {values : Values format.types}

/-- A member with its key, as it stands in the tree: it belongs to a field and is read as the value
of the field, or it can be passed over. -/
def IsEntry (format : Format ρ) (values : Values format.types)
    (entry : String × StringLexeme × Node) : Prop :=
  entry.2.1.value = .ok entry.1 ∧
    (format.fields.ReadsAt entry.1 entry.2.2 values ∨
      entry.1 ∉ format.fields.names ∧ entry.2.2.skip = .ok ())

/-- A member of a field moves its key to the seen ones. -/
theorem readMembers_field {key : String} {lexeme : StringLexeme} {node : Node}
    {rest : List (StringLexeme × Node)} {seen : List String}
    (hnames : format.fields.names.Nodup) (hkey : lexeme.value = .ok key)
    (hread : format.fields.ReadsAt key node values) (hnew : key ∉ seen) :
    format.readMembers ((lexeme, node) :: rest) (format.fields.slotsOf seen values) =
      format.readMembers rest (format.fields.slotsOf (key :: seen) values) := by
  rw [readMembers, hkey]
  dsimp only [orBroken, bind, Except.bind]
  rw [Fields.place_slotsOf hnames hread hnew]

/-- A member of no field is passed over, unless the format is closed. -/
theorem readMembers_foreign {key : String} {lexeme : StringLexeme} {node : Node}
    {rest : List (StringLexeme × Node)} {slots : Slots format.types}
    (hopen : format.closed = false) (hkey : lexeme.value = .ok key)
    (hforeign : key ∉ format.fields.names) (hskip : node.skip = .ok ()) :
    format.readMembers ((lexeme, node) :: rest) slots = format.readMembers rest slots := by
  rw [readMembers, hkey]
  dsimp only [orBroken, bind, Except.bind]
  rw [Fields.place_of_not_mem hforeign]
  dsimp only
  rw [hopen, hskip]
  rfl

section Members

variable {entries : List (String × StringLexeme × Node)} {seen : List String}

theorem not_mem_seen {key : String} {keys : List String} (hkey : key ∈ format.fields.names)
    (honce : ((key :: keys ++ seen).filter (· ∈ format.fields.names)).Nodup) : key ∉ seen := by
  rw [List.cons_append, List.filter_cons_of_pos (by simpa using hkey), List.nodup_cons] at honce
  intro hmem
  refine honce.1 (List.mem_filter.mpr ⟨List.mem_append_right keys hmem, ?_⟩)
  simpa using hkey

theorem once_of_cons {key : String} {keys : List String}
    (honce : ((key :: keys ++ seen).filter (· ∈ format.fields.names)).Nodup) :
    ((keys ++ key :: seen).filter (· ∈ format.fields.names)).Nodup :=
  (List.perm_middle.filter _).nodup_iff.mpr honce

/-- **Members in any order.**  If the name of a field comes once at most, all members are read, and
what has been read is told by their keys. -/
theorem readMembers_entries (hnames : format.fields.names.Nodup)
    (hentries : ∀ entry ∈ entries, format.IsEntry values entry)
    (hopen : format.closed = false ∨ ∀ entry ∈ entries, entry.1 ∈ format.fields.names)
    (honce : ((entries.map Prod.fst ++ seen).filter (· ∈ format.fields.names)).Nodup) :
    format.readMembers (entries.map Prod.snd) (format.fields.slotsOf seen values) =
      .ok (format.fields.slotsOf ((entries.map Prod.fst).reverse ++ seen) values) := by
  induction entries generalizing seen with
  | nil => rfl
  | cons entry entries ih =>
    obtain ⟨key, lexeme, node⟩ := entry
    obtain ⟨⟨hkey, hentry⟩, hentries⟩ := List.forall_mem_cons.mp hentries
    have hrest := ih hentries (hopen.imp_right fun hall => (List.forall_mem_cons.mp hall).2)
      (once_of_cons honce)
    rw [List.map_cons, List.map_cons, List.reverse_cons, List.append_assoc, List.singleton_append,
      ← hrest]
    rcases hentry with hread | ⟨hforeign, hskip⟩
    · exact readMembers_field hnames hkey hread
        (not_mem_seen (Fields.mem_names_of_readsAt hread) honce)
    · have hclosed : format.closed = false :=
        hopen.resolve_right fun hall => hforeign (List.forall_mem_cons.mp hall).1
      rw [readMembers_foreign hclosed hkey hforeign hskip, Fields.slotsOf_cons_of_not_mem hforeign]

/-- **A closed format refuses the first foreign key**, wherever it stands. -/
theorem readMembers_closed (hclosed : format.closed = true) (hnames : format.fields.names.Nodup)
    (hentries : ∀ entry ∈ entries, format.IsEntry values entry)
    (hforeign : ∃ entry ∈ entries, entry.1 ∉ format.fields.names)
    (honce : ((entries.map Prod.fst ++ seen).filter (· ∈ format.fields.names)).Nodup) :
    ∃ key ∈ entries.map Prod.fst, key ∉ format.fields.names ∧
      format.readMembers (entries.map Prod.snd) (format.fields.slotsOf seen values) =
        .error (.shape (.unknownField key format.fields.names)) := by
  induction entries generalizing seen with
  | nil =>
    obtain ⟨entry, hmem, -⟩ := hforeign
    cases hmem
  | cons entry entries ih =>
    obtain ⟨key, lexeme, node⟩ := entry
    obtain ⟨⟨hkey, hentry⟩, hentries⟩ := List.forall_mem_cons.mp hentries
    rcases hentry with hread | ⟨hnew, -⟩
    · -- a field is read, and the foreign key comes later
      have hname := Fields.mem_names_of_readsAt hread
      have hlater : ∃ entry ∈ entries, entry.1 ∉ format.fields.names :=
        ((List.exists_mem_cons_iff ..).mp hforeign).resolve_left fun hnot => hnot hname
      obtain ⟨found, hmem, hfound, hrun⟩ := ih hentries hlater (once_of_cons honce)
      refine ⟨found, List.mem_cons_of_mem _ hmem, hfound, ?_⟩
      rw [← hrun]
      exact readMembers_field hnames hkey hread (not_mem_seen hname honce)
    · refine ⟨key, List.mem_cons_self, hnew, ?_⟩
      rw [List.map_cons, readMembers, hkey]
      dsimp only [orBroken, bind, Except.bind]
      rw [Fields.place_of_not_mem hnew]
      dsimp only
      rw [hclosed]
      rfl

end Members

/-! ### Spellings of a record -/

variable {record : ρ} {cells : List Cell} {foreign : List String} {text : String}

/-- Foreign members have trees that can be passed over. -/
theorem exists_entries_of_foreign {others : List MemberText}
    (h : List.Forall₂ (IsForeign cells) foreign others) :
    ∃ entries : List (String × StringLexeme × Node),
      List.Forall₂ (fun member entry => YieldsMember member.text entry.2) others entries ∧
      (∀ entry ∈ entries, entry.2.1.value = .ok entry.1 ∧ entry.1 ∉ cells.map Cell.name ∧
        entry.2.2.skip = .ok ()) ∧
      entries.map Prod.fst = foreign := by
  induction h with
  | nil => exact ⟨[], .nil, List.forall_mem_nil _, rfl⟩
  | @cons key member foreign others hmember _ ih =>
    obtain ⟨entries, hyields, hentries, rfl⟩ := ih
    obtain ⟨pieces, hdenotes, hpieces⟩ := hmember.spells_key
    obtain ⟨node, hnode, hskip⟩ := exists_yields_skip hmember.isValue
    exact ⟨(key, { pieces }, node) :: entries,
      .cons (hnode.member hpieces hmember.isJoined) hyields,
      List.forall_mem_cons.mpr ⟨⟨value_of_denotes hdenotes, hmember.not_mem, hskip⟩, hentries⟩, rfl⟩

/-- The members of a spelled object, in the order of the text, and what their keys are. -/
theorem exists_entries (hlawful : format.Lawful)
    (hagrees : format.fields.Agrees (format.toValues record) cells)
    (h : SpellsObject cells foreign text) :
    ∃ (entries : List (String × StringLexeme × Node)) (keys : List String),
      Yields text (.object (entries.map Prod.snd) none) ∧
      (∀ entry ∈ entries, format.IsEntry (format.toValues record) entry) ∧
      (entries.map Prod.fst).Perm (keys ++ foreign) ∧
      (∀ key ∈ keys, key ∈ format.fields.names) ∧ (∀ key ∈ foreign, key ∉ format.fields.names) ∧
      ((entries.map Prod.fst ++ []).filter (· ∈ format.fields.names)).Nodup ∧
      format.fields.Covers (entries.map Prod.fst) (format.toValues record) := by
  obtain ⟨own, others, members, hown, hothers, hperm, htext⟩ := h
  obtain ⟨fieldEntries, hyields, hfields, hnodup, hcovers⟩ :=
    Fields.exists_entries_of_agrees hagrees hlawful.nodup_names hown
  obtain ⟨otherEntries, hyields', hforeign, rfl⟩ := exists_entries_of_foreign hothers
  rw [← Fields.names_of_agrees hagrees] at hforeign
  have hnew : ∀ key ∈ otherEntries.map Prod.fst, key ∉ format.fields.names := by
    rw [List.forall_mem_map]
    exact fun entry hentry => (hforeign entry hentry).2.1
  -- the entries come in the order of the members
  obtain ⟨entries, hmembers, hentries⟩ :=
    List.perm_comp_forall₂ hperm (List.rel_append hyields hyields')
  have hkeys : (entries.map Prod.fst).Perm
      (fieldEntries.map Prod.fst ++ otherEntries.map Prod.fst) := by
    rw [← List.map_append]
    exact hentries.map Prod.fst
  refine ⟨entries, fieldEntries.map Prod.fst, .object ?_ htext, ?_, hkeys, ?_, hnew, ?_, ?_⟩
  · rw [List.forall₂_map_left_iff, List.forall₂_map_right_iff]
    exact hmembers
  · intro entry hentry
    rcases List.mem_append.mp (hentries.mem_iff.mp hentry) with hfield | hother
    · obtain ⟨hkey, hread⟩ := hfields entry hfield
      exact ⟨hkey, .inl hread⟩
    · obtain ⟨hkey, hskipped⟩ := hforeign entry hother
      exact ⟨hkey, .inr hskipped⟩
  · rw [List.forall_mem_map]
    exact fun entry hentry => Fields.mem_names_of_readsAt (hfields entry hentry).2
  · have hnone : (otherEntries.map Prod.fst).filter (· ∈ format.fields.names) = [] := by
      rw [List.filter_eq_nil_iff]
      exact fun key hkey => by simpa using hnew key hkey
    rw [List.append_nil, (hkeys.filter _).nodup_iff, List.filter_append, hnone, List.append_nil]
    exact hnodup.filter _
  · exact hcovers.mono fun name hmem => hkeys.mem_iff.mpr (List.mem_append_left _ hmem)

/-- **A record is read from every object that spells it.** -/
theorem reads_object (hlawful : format.Lawful)
    (hagrees : format.fields.Agrees (format.toValues record) cells)
    (hopen : format.closed = false ∨ foreign = []) (h : SpellsObject cells foreign text) :
    Reads format.read text record := by
  obtain ⟨entries, keys, hyields, hentries, hperm, hkeys, -, honce, hcovers⟩ :=
    exists_entries hlawful hagrees h
  have hall : format.closed = false ∨ ∀ entry ∈ entries, entry.1 ∈ format.fields.names := by
    refine hopen.imp_right ?_
    rintro rfl entry hentry
    rw [List.append_nil] at hperm
    exact hkeys _ (hperm.mem_iff.mp (List.mem_map_of_mem hentry))
  have hmembers := readMembers_entries hlawful.nodup_names hentries hall honce
  rw [Fields.slotsOf_nil] at hmembers
  have hseen : format.fields.Covers ((entries.map Prod.fst).reverse ++ [])
      (format.toValues record) := by
    refine hcovers.mono fun name hmem => ?_
    rw [List.append_nil, List.mem_reverse]
    exact hmem
  refine ⟨_, hyields, ?_⟩
  rw [read, hmembers]
  show (do return format.ofValues (← format.fields.complete _)) = _
  rw [Fields.complete_slotsOf hseen]
  show Except.ok (format.ofValues (format.toValues record)) = _
  rw [hlawful.ofValues_toValues]

/-- **A record is read from every array that spells it.** -/
theorem reads_array (hlawful : format.Lawful)
    (hagrees : format.fields.Agrees (format.toValues record) cells) (h : SpellsArray cells text) :
    Reads format.read text record := by
  obtain ⟨written, left, items, rfl, hleft, hitems, htext⟩ := h
  obtain ⟨nodes, hnodes, hread⟩ := Fields.exists_nodes_of_agrees format.name format.types.length
    hagrees hleft hitems
  refine ⟨_, .array hnodes htext, ?_⟩
  rw [read, hread]
  show Except.ok (format.ofValues (format.toValues record)) = _
  rw [hlawful.ofValues_toValues]

/-- **A record is written as an object that spells it.** -/
theorem spellsObject_write (hagrees : format.fields.Agrees (format.toValues record) cells) :
    SpellsObject cells [] (format.write record).render := by
  rw [write, render, renderMembers_eq_map]
  refine ⟨_, [], (format.fields.write (format.toValues record)).map memberText,
    Fields.isWritten_write hagrees, .nil, ?_, ?_⟩
  · rw [List.append_nil, List.reduceOption, List.filterMap_map]
    exact .of_eq (congrFun List.filterMap_eq_map _).symm
  · rw [List.map_map]
    exact enclosed_intercalate "\x7b" "\x7d" _

/-- A format reads all spellings of its records, told by their cells, and writes one of them. -/
structure Agrees (format : Format ρ) (cells : ρ → List Cell) : Prop where
  reads : ∀ record text, SpellsRecord (cells record) text → Reads format.read text record
  spells_write : ∀ record, SpellsRecord (cells record) (format.write record).render

/-- **Records are read from every spelling.** -/
theorem agrees_of_fields {cells : ρ → List Cell} (hlawful : format.Lawful)
    (hopen : format.closed = false)
    (hagrees : ∀ record, format.fields.Agrees (format.toValues record) (cells record)) :
    format.Agrees cells where
  reads := by
    rintro record text (⟨foreign, hobject⟩ | harray)
    · exact reads_object hlawful (hagrees record) (.inl hopen) hobject
    · exact reads_array hlawful (hagrees record) harray
  spells_write := fun record => .inl ⟨[], spellsObject_write (hagrees record)⟩

/-- **A closed record is refused for a foreign key.** -/
theorem exists_refused (hlawful : format.Lawful) (hclosed : format.closed = true)
    (hagrees : format.fields.Agrees (format.toValues record) cells) (hforeign : foreign ≠ [])
    (h : SpellsObject cells foreign text) :
    ∃ node, Yields text node ∧ ∃ key ∈ foreign,
      format.read node = .error (.shape (.unknownField key (cells.map Cell.name))) := by
  obtain ⟨entries, keys, hyields, hentries, hperm, hkeys, hnew, honce, -⟩ :=
    exists_entries hlawful hagrees h
  obtain ⟨first, others, rfl⟩ := List.exists_cons_of_ne_nil hforeign
  have hsome : ∃ entry ∈ entries, entry.1 ∉ format.fields.names := by
    have hmem := hperm.mem_iff.mpr (List.mem_append_right keys List.mem_cons_self)
    obtain ⟨entry, hentry, rfl⟩ := List.mem_map.mp hmem
    exact ⟨entry, hentry, hnew _ List.mem_cons_self⟩
  obtain ⟨key, hmem, hkey, hmembers⟩ :=
    readMembers_closed hclosed hlawful.nodup_names hentries hsome honce
  rw [Fields.slotsOf_nil] at hmembers
  refine ⟨_, hyields, key, ?_, ?_⟩
  · exact (List.mem_append.mp (hperm.mem_iff.mp hmem)).resolve_left fun hfield =>
      hkey (hkeys key hfield)
  · rw [read, hmembers, Fields.names_of_agrees hagrees]
    rfl

/-- Nothing is behind a record that is a whole document. -/
theorem readDocument_of_yields {node : Node} (h : Yields text node) :
    format.readDocument text = format.read node := by
  rw [readDocument, h.parse]
  dsimp only
  cases format.read node <;> rfl

end Format

namespace FieldFormat

variable {ρ : Type} {format : Format ρ} {cells : ρ → List Cell}

theorem agrees_record (name : String) (h : format.Agrees cells) (record : ρ) :
    (FieldFormat.record name format).Agrees record (.record name (cells record)) where
  name_eq := rfl
  default_eq := False.elim
  reads := h.reads record
  spells_write := h.spells_write record

theorem agrees_records (name : String) (h : format.Agrees cells) (records : List ρ) :
    (FieldFormat.records name format).Agrees records
      (.list name (fun record => SpellsRecord (cells record)) records) :=
  agrees_list name format.write h.reads h.spells_write records

end FieldFormat

end NativeBindings.Json
