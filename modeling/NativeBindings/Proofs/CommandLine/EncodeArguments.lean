/-
NativeBindings/Proofs/CommandLine/EncodeArguments.lean

The arguments of `encode`.  They are split into relocation offsets, each behind its flag, and parts
of the pattern, and the pattern is the text of all parts with a blank between two of them.  Its words
are the words of the parts, one after the other, however the parts are cut, so

    description = description of (the words of all parts, the offsets)

(`describe_eq`), and two lists of arguments that agree in both are answered alike
(`ofArguments_describe`).
-/
import NativeBindings.CommandLine.Encode
import NativeBindings.Proofs.CommandLine.Splitting
import NativeBindings.Proofs.Signature.Grammar

namespace NativeBindings.EncodeOptions

open Signature Text

/-! ### Items -/

/-- An item of the arguments of `encode`. -/
inductive Item where
  /-- A part of the pattern. -/
  | part (text : String)
  | relocation (offset : UInt8)
deriving DecidableEq

/-- Arguments that spell an item. -/
inductive SpellsItem : List String → Item → Prop where
  | part {text : String} (h : text ≠ "--reloc") : SpellsItem [text] (.part text)
  | relocation {value : String} {offset : UInt8}
      (h : naturalBelow? UInt8.size value = some offset.toNat) :
      SpellsItem ["--reloc", value] (.relocation offset)

theorem splitInto_part {text : String} {rest : List String} {items : List Item}
    (h : text ≠ "--reloc") (hrest : SplitInto SpellsItem rest items) :
    SplitInto SpellsItem (text :: rest) (.part text :: items) :=
  .cons (SpellsItem.part h) hrest

theorem splitInto_relocation {value : String} {offset : UInt8} {rest : List String}
    {items : List Item} (h : naturalBelow? UInt8.size value = some offset.toNat)
    (hrest : SplitInto SpellsItem rest items) :
    SplitInto SpellsItem ("--reloc" :: value :: rest) (.relocation offset :: items) :=
  .cons (SpellsItem.relocation h) hrest

/-- The parts of the pattern among items. -/
def parts (items : List Item) : List String :=
  items.filterMap fun
    | .part text => some text
    | .relocation _ => none

/-- The relocation offsets among items. -/
def offsets (items : List Item) : List UInt8 :=
  items.filterMap fun
    | .part _ => none
    | .relocation offset => some offset

theorem readOffset_eq_ok_iff {value : String} {offset : UInt8} :
    readOffset value = .ok offset ↔ naturalBelow? UInt8.size value = some offset.toNat := by
  rw [readOffset]
  rcases hvalue : naturalBelow? UInt8.size value with - | n
  · exact iff_of_false nofun nofun
  · have hlt : n < UInt8.size := by
      rw [naturalBelow?] at hvalue
      split at hvalue
      · cases hvalue
      · split at hvalue
        · exact of_decide_eq_true (Option.filter_eq_some_iff.mp hvalue).2
        · cases hvalue
    constructor
    · intro h
      obtain rfl := Except.ok.inj h
      rw [UInt8.toNat_ofNat_of_lt' hlt]
    · intro h
      obtain rfl := Option.some.inj h
      exact congrArg Except.ok UInt8.ofNat_toNat

theorem isPrefixFree_spellsItem : IsPrefixFree SpellsItem where
  ne_nil := by
    rintro group item (_ | _) <;> exact List.cons_ne_nil _ _
  unique := by
    rintro group other rest otherRest item otherItem (h | h) (hother | hother) heq
    · obtain ⟨rfl, rfl⟩ := List.cons.inj heq
      exact ⟨rfl, rfl⟩
    · exact absurd (List.cons.inj heq).1 h
    · exact absurd (List.cons.inj heq).1.symm hother
    · obtain ⟨-, hvalue⟩ := List.cons.inj heq
      obtain ⟨rfl, rfl⟩ := List.cons.inj hvalue
      rw [h] at hother
      exact ⟨congrArg Item.relocation (UInt8.toNat_inj.mp (Option.some.inj hother)), rfl⟩

/-! ### Reading -/

variable {arguments others : List String} {options otherOptions : EncodeOptions}
  {items : List Item}

/-- The options that items make. -/
def ofItems (items : List Item) : EncodeOptions where
  patterns := parts items
  relocationOffsets := offsets items

/-- The options with an item in front of those that they were made of. -/
def prepend : Item → EncodeOptions → EncodeOptions
  | .part text, options => { options with patterns := text :: options.patterns }
  | .relocation offset, options =>
      { options with relocationOffsets := offset :: options.relocationOffsets }

theorem ofItems_cons (item : Item) (items : List Item) :
    ofItems (item :: items) = prepend item (ofItems items) := by
  cases item <;> rfl

/-- **One item is read.** -/
theorem readArguments_append {group : List String} {item : Item} (h : SpellsItem group item)
    (rest : List String) :
    readArguments (group ++ rest) = prepend item <$> readArguments rest := by
  cases h with
  | part hpart =>
    rw [List.singleton_append, readArguments.eq_def]
    dsimp only
    rw [relocationFlag, if_neg hpart]
    rcases readArguments rest with cause | options <;> rfl
  | relocation hvalue =>
    rw [List.cons_append, List.singleton_append, readArguments, relocationFlag, if_pos rfl,
      readOffset_eq_ok_iff.mpr hvalue]
    rcases readArguments rest with cause | options <;> rfl

theorem readArguments_of_splitInto (h : SplitInto SpellsItem arguments items) :
    readArguments arguments = .ok (ofItems items) := by
  induction h with
  | nil => rfl
  | @cons group rest item items hitem _ ih =>
    rw [readArguments_append hitem, ih, ofItems_cons]
    rfl

/-- Arguments that are read are split. -/
theorem exists_splitInto_of_readArguments (h : readArguments arguments = .ok options) :
    ∃ items, SplitInto SpellsItem arguments items := by
  induction arguments using readArguments.induct generalizing options with
  | case1 => exact ⟨[], .nil⟩
  | case2 => cases h
  | case3 value rest ih =>
    rw [readArguments, relocationFlag, if_pos rfl] at h
    rcases hvalue : readOffset value with cause | offset
    · rw [hvalue] at h
      cases h
    rcases hrest : readArguments rest with cause | others
    · rw [hvalue, hrest] at h
      cases h
    · obtain ⟨items, hitems⟩ := ih hrest
      exact ⟨_, splitInto_relocation (readOffset_eq_ok_iff.mp hvalue) hitems⟩
  | case4 text rest hpart ih =>
    rcases hrest : readArguments rest with cause | others
    · have hread : readArguments (text :: rest) = _ := readArguments_append (.part hpart) rest
      rw [hread, hrest] at h
      cases h
    · obtain ⟨items, hitems⟩ := ih hrest
      exact ⟨_, splitInto_part hpart hitems⟩

theorem ofArguments_of_readArguments (h : readArguments arguments = .ok options) :
    ofArguments arguments =
      if options.patterns = [] then .error .missingPattern else .ok options := by
  rw [ofArguments, h]
  rcases options with ⟨- | ⟨part, rest⟩, offsets⟩ <;> rfl

/-- **The arguments that are accepted** are those that are split into items with a part of the
pattern among them. -/
theorem ofArguments_eq_ok_iff :
    ofArguments arguments = .ok options ↔
      ∃ items, SplitInto SpellsItem arguments items ∧ parts items ≠ [] ∧
        options = ofItems items := by
  constructor
  · intro h
    rcases hread : readArguments arguments with cause | found
    · rw [ofArguments, hread] at h
      cases h
    obtain ⟨items, hitems⟩ := exists_splitInto_of_readArguments hread
    obtain rfl := Except.ok.inj (hread.symm.trans (readArguments_of_splitInto hitems))
    rw [ofArguments_of_readArguments hread] at h
    split at h
    · cases h
    · rename_i hparts
      exact ⟨items, hitems, hparts, (Except.ok.inj h).symm⟩
  · rintro ⟨items, hitems, hparts, rfl⟩
    rw [ofArguments_of_readArguments (readArguments_of_splitInto hitems)]
    exact if_neg hparts

/-! ### Answers -/

/-- What is shown depends on the words of the parts, one after the other, and on the offsets. -/
theorem describe_eq (options : EncodeOptions) :
    options.describe =
      match parseWords 0 (options.patterns.flatMap words) with
      | .ok tokens =>
          .ok (PackedSignature.ofTokens tokens options.relocationOffsets).describe
      | .error fault => .error (.signature fault) := by
  rw [describe, Signature.encode, tokenize, pattern, words_join_blank]
  rcases parseWords 0 (options.patterns.flatMap words) with fault | tokens <;> rfl

/-- The position of a fault is the place of its word. -/
theorem getElem?_of_parseWords_eq_error {ws : List String} {fault : InvalidToken}
    (h : parseWords 0 ws = .error fault) : ws[fault.position]? = some fault.token := by
  have hws : ws = (ws.map String.toList).map String.ofList := by
    rw [List.map_map]
    exact (List.map_id'' (fun _ => String.ofList_toList) ws).symm
  rw [hws] at h ⊢
  obtain ⟨good, bad, rest, hruns, -, -, rfl⟩ := parseWords_eq_error_iff.mp h
  rw [hruns, List.map_append, List.getElem?_append_right] <;> simp

/-- **How a pattern is split does not show.**  Arguments that are accepted are split into items in one
way.  If two lists of arguments have the same words in their parts, whatever the words are grouped
in, and the same relocation offsets, wherever these stand, they are answered alike: by the same
description, or by the report of the same word at the same place. -/
theorem ofArguments_describe (h : ofArguments arguments = .ok options)
    (hother : ofArguments others = .ok otherOptions) :
    ∃ items otherItems,
      (∀ split, SplitInto SpellsItem arguments split ↔ split = items) ∧
      (∀ split, SplitInto SpellsItem others split ↔ split = otherItems) ∧
      ((parts items).flatMap words = (parts otherItems).flatMap words →
        offsets items = offsets otherItems →
        (∃ description, options.describe = .ok description ∧
          otherOptions.describe = .ok description) ∨
        ∃ fault, options.describe = .error (.signature fault) ∧
          otherOptions.describe = .error (.signature fault) ∧
          ((parts items).flatMap words)[fault.position]? = some fault.token) := by
  obtain ⟨items, hitems, -, rfl⟩ := ofArguments_eq_ok_iff.mp h
  obtain ⟨otherItems, hotherItems, -, rfl⟩ := ofArguments_eq_ok_iff.mp hother
  have hunique {arguments : List String} {items : List Item}
      (hitems : SplitInto SpellsItem arguments items) (split : List Item) :
      SplitInto SpellsItem arguments split ↔ split = items :=
    ⟨fun hsplit => hsplit.unique isPrefixFree_spellsItem hitems, fun heq => heq ▸ hitems⟩
  refine ⟨items, otherItems, hunique hitems, hunique hotherItems, fun hwords hoffsets => ?_⟩
  rw [describe_eq, describe_eq]
  dsimp only [ofItems]
  rw [← hwords, ← hoffsets]
  rcases hparse : parseWords 0 ((parts items).flatMap words) with fault | tokens
  · exact .inr ⟨fault, rfl, rfl, getElem?_of_parseWords_eq_error hparse⟩
  · exact .inl ⟨_, rfl, rfl⟩

/-- The words in other groups, with white space around them, empty parts and the offset elsewhere. -/
theorem ofArguments_describe_regrouped :
    let arguments := ["48 8B", "--reloc", "1", "XY", "??"]
    let others := ["", "48", "\t8B  XY", " ", "?? ", "--reloc", "+01"]
    ∃ options otherOptions fault, ofArguments arguments = .ok options ∧
      ofArguments others = .ok otherOptions ∧
      options.describe = .error (.signature fault) ∧
      otherOptions.describe = .error (.signature fault) ∧
      fault = { token := "XY", position := 2 } := by
  intro arguments others
  let items : List Item := [.part "48 8B", .relocation 1, .part "XY", .part "??"]
  let otherItems : List Item :=
    [.part "", .part "48", .part "\t8B  XY", .part " ", .part "?? ", .relocation 1]
  have hsplit : SplitInto SpellsItem arguments items :=
    splitInto_part (by decide) <| splitInto_relocation rfl <| splitInto_part (by decide) <|
      splitInto_part (by decide) .nil
  have hotherSplit : SplitInto SpellsItem others otherItems :=
    splitInto_part (by decide) <| splitInto_part (by decide) <| splitInto_part (by decide) <|
      splitInto_part (by decide) <| splitInto_part (by decide) <| splitInto_relocation rfl .nil
  have hoptions : ofArguments arguments = .ok (ofItems items) :=
    ofArguments_eq_ok_iff.mpr ⟨items, hsplit, by decide, rfl⟩
  have hotherOptions : ofArguments others = .ok (ofItems otherItems) :=
    ofArguments_eq_ok_iff.mpr ⟨otherItems, hotherSplit, by decide, rfl⟩
  obtain ⟨found, otherFound, hfound, hotherFound, halike⟩ :=
    ofArguments_describe hoptions hotherOptions
  obtain rfl := (hfound items).mp hsplit
  obtain rfl := (hotherFound otherItems).mp hotherSplit
  have herror : (ofItems items).describe =
      .error (.signature { token := "XY", position := 2 }) := by
    have hwords : (parts items).flatMap words = ["48", "8B", "XY", "??"] := by decide
    have hparse : parseWords 0 ["48", "8B", "XY", "??"] =
        .error { token := "XY", position := 2 } := by decide
    rw [describe_eq]
    dsimp only [ofItems]
    rw [hwords, hparse]
  rcases halike (by decide) rfl with ⟨description, hok, -⟩ | ⟨fault, hfault, hotherFault, -⟩
  · rw [herror] at hok
    cases hok
  · obtain rfl := Failure.signature.inj (Except.error.inj (herror.symm.trans hfault))
    exact ⟨_, _, _, hoptions, hotherOptions, hfault, hotherFault, rfl⟩

end NativeBindings.EncodeOptions
