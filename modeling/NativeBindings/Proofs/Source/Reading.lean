/-
NativeBindings/Proofs/Source/Reading.lean

Readers of generated text.  A reader takes something from the front of a text and hands on the
rest, and for each reader there is a lemma about text that was written for it.  Fixed text is
expected from the front (`expect`) or, in a text that is held backwards, from the end
(`expectBack`); items are read as long as there is another one (`readMany`); a string literal is
passed over backwards, where a quote inside it shows by the backslash that follows (`passLiteral`).
-/
import NativeBindings.Source.Literal
import Mathlib.Data.List.Basic

namespace NativeBindings.Source

/-! ### Fixed text -/

/-- The text behind a fixed beginning. -/
def expect (beginning : String) (text : List Char) : Option (List Char) :=
  beginning.toList.isPrefixOf? text

theorem expect_eq_some_iff {beginning : String} {text rest : List Char} :
    expect beginning text = some rest ↔ beginning.toList ++ rest = text :=
  List.isPrefixOf?_eq_some_iff_append_eq

theorem expect_append (beginning : String) (rest : List Char) :
    expect beginning (beginning.toList ++ rest) = some rest :=
  expect_eq_some_iff.mpr rfl

/-- What two texts share at the front does not decide. -/
theorem expect_append_append (front beginning : String) (text : List Char) :
    expect (front ++ beginning) (front.toList ++ text) = expect beginning text := by
  apply Option.ext
  intro rest
  rw [expect_eq_some_iff, expect_eq_some_iff, String.toList_append, List.append_assoc,
    List.append_right_inj]

/-- A text that starts with another character does not start as expected. -/
theorem expect_of_head_ne {beginning : String} {text : List Char} {c d : Char}
    (hbeginning : beginning.toList.head? = some c) (htext : text.head? = some d) (hne : c ≠ d) :
    expect beginning text = none := by
  rw [Option.eq_none_iff_forall_ne_some]
  intro rest hrest
  obtain rfl := expect_eq_some_iff.mp hrest
  rw [List.head?_append, hbeginning] at htext
  exact hne (Option.some.inj htext)

/-- The text before a fixed ending, both of them backwards. -/
def expectBack (ending : String) (text : List Char) : Option (List Char) :=
  ending.toList.reverse.isPrefixOf? text

theorem expectBack_append (ending : String) (rest : List Char) :
    expectBack ending (ending.toList.reverse ++ rest) = some rest :=
  List.isPrefixOf?_eq_some_iff_append_eq.mpr rfl

/-- The text before a fixed ending. -/
def dropEnding (ending : String) (text : List Char) : Option (List Char) :=
  (expectBack ending text.reverse).map List.reverse

theorem dropEnding_append (ending : String) (text : List Char) :
    dropEnding ending (text ++ ending.toList) = some text := by
  rw [dropEnding, List.reverse_append, expectBack_append, Option.map_some, List.reverse_reverse]

theorem dropEnding_eq_some_iff {ending : String} {text front : List Char} :
    dropEnding ending text = some front ↔ front ++ ending.toList = text := by
  constructor
  · intro h
    obtain ⟨back, hback, rfl⟩ := Option.map_eq_some_iff.mp h
    have heq := List.isPrefixOf?_eq_some_iff_append_eq.mp hback
    rw [← List.reverse_inj, List.reverse_append, List.reverse_reverse]
    exact heq
  · rintro rfl
    exact dropEnding_append ending front

/-! ### Items -/

section Items

variable {α β : Type} {read : Nat → List Char → Option (β × List Char)}
  {write : Nat → α → List Char}

/-- Read one item after the other, as long as there is another one.  The items are counted, and how
one is read may depend on its number. -/
def readMany (read : Nat → List Char → Option (β × List Char)) (number : Nat)
    (text : List Char) : List β × List Char :=
  match read number text with
  | none => ([], text)
  | some (item, rest) =>
      if rest.length < text.length then
        let (items, rest) := readMany read (number + 1) rest
        (item :: items, rest)
      else ([], text)
termination_by text.length

theorem readMany_of_none (read : Nat → List Char → Option (β × List Char)) {number : Nat}
    {text : List Char} (h : read number text = none) :
    readMany read number text = ([], text) := by
  rw [readMany, h]

theorem readMany_cons {number : Nat} {item : β} {text rest : List Char}
    (h : read number text = some (item, rest)) (hlength : rest.length < text.length) :
    readMany read number text =
      (item :: (readMany read (number + 1) rest).1, (readMany read (number + 1) rest).2) := by
  rw [readMany, h]
  exact if_pos hlength

/-- Items one after the other, each written for its number. -/
def writeMany (write : Nat → α → List Char) (number : Nat) (items : List α) : List Char :=
  (items.zipIdx number).flatMap fun (item, number) => write number item

theorem writeMany_const (write : α → List Char) (number : Nat) (items : List α) :
    writeMany (fun _ => write) number items = items.flatMap write := by
  induction items generalizing number with
  | nil => rfl
  | cons item items ih => exact congrArg (write item ++ ·) (ih (number + 1))

/-- Items that are written one by one are read one by one, and then what stands behind them.  Where
an item can be read depends on what follows it, which is the next item or the end. -/
theorem readMany_append_of (Ends : List Char → Prop) (value : α → β) {items : List α}
    (hlength : ∀ number item, 0 < (write number item).length)
    (hends : ∀ number item rest, Ends (write number item ++ rest))
    (hread : ∀ item ∈ items, ∀ number rest, Ends rest →
      read number (write number item ++ rest) = some (value item, rest))
    (number : Nat) {rest : List Char} (hrest : Ends rest) :
    readMany read number (writeMany write number items ++ rest) =
      (items.map value ++ (readMany read (number + items.length) rest).1,
        (readMany read (number + items.length) rest).2) := by
  induction items generalizing number with
  | nil => rfl
  | cons item items ih =>
    obtain ⟨hitem, hitems⟩ := List.forall_mem_cons.mp hread
    -- the written item is not empty, so the text gets shorter and reading goes on
    let behind := writeMany write (number + 1) items ++ rest
    have hwritten : writeMany write number (item :: items) ++ rest =
        write number item ++ behind := List.append_assoc _ _ _
    have hshorter : behind.length < (write number item ++ behind).length := calc
      behind.length < (write number item).length + behind.length :=
        Nat.lt_add_of_pos_left (hlength number item)
      _ = (write number item ++ behind).length := List.length_append.symm
    have hbehind : Ends behind := by
      cases items with
      | nil => exact hrest
      | cons next items =>
        show Ends ((write (number + 1) next ++ writeMany write (number + 2) items) ++ rest)
        rw [List.append_assoc]
        exact hends _ next _
    rw [hwritten, readMany_cons (hitem number _ hbehind) hshorter, ih hitems, List.length_cons,
      Nat.add_assoc, Nat.add_comm 1]
    rfl

/-- Items that can be read whatever follows. -/
theorem readMany_append (value : α → β) {items : List α}
    (hlength : ∀ number item, 0 < (write number item).length)
    (hread : ∀ item ∈ items, ∀ number rest,
      read number (write number item ++ rest) = some (value item, rest))
    (number : Nat) (rest : List Char) :
    readMany read number (writeMany write number items ++ rest) =
      (items.map value ++ (readMany read (number + items.length) rest).1,
        (readMany read (number + items.length) rest).2) :=
  readMany_append_of (fun _ => True) value hlength (fun _ _ _ => trivial)
    (fun item hitem number rest _ => hread item hitem number rest) number trivial

end Items

/-! ### Literals, from the end -/

/-- Go back to the quote that opens a literal. -/
def passQuoted : List Char → Option (List Char)
  | [] => none
  | '"' :: '\\' :: rest => passQuoted rest
  | '"' :: rest => some rest
  | _ :: rest => passQuoted rest

/-- Go back over a literal. -/
def passLiteral (text : List Char) : Option (List Char) := do
  passQuoted (← expectBack "\"" text)

theorem passQuoted_of_ne {c : Char} (h : c ≠ '"') (text : List Char) :
    passQuoted (c :: text) = passQuoted text := by
  rw [passQuoted]
  · rintro rest rfl
    exact absurd rfl h
  · exact h

theorem passQuoted_literalChar (c : Char) (text : List Char) :
    passQuoted ((literalChar c).reverse ++ text) = passQuoted text := by
  rcases Decidable.em (c = '"') with rfl | hquote
  · rfl
  · -- no other spelling has a quote in it
    unfold literalChar
    split
    · exact absurd rfl hquote
    all_goals exact passQuoted_of_ne hquote text

theorem passQuoted_append (value text : List Char) :
    passQuoted ((value.flatMap literalChar).reverse ++ text) = passQuoted text := by
  induction value generalizing text with
  | nil => rfl
  | cons c value ih =>
    rw [List.flatMap_cons, List.reverse_append, List.append_assoc, ih, passQuoted_literalChar]

/-- The quote that opens a literal has no backslash before it. -/
theorem passQuoted_quote {rest : List Char} (h : rest.head? ≠ some '\\') :
    passQuoted ('"' :: rest) = some rest := by
  cases rest with
  | nil => rfl
  | cons c rest =>
    rw [passQuoted]
    rintro _ hc
    obtain ⟨rfl, -⟩ := List.cons.inj hc
    exact h rfl

theorem passLiteral_append (value : String) {rest : List Char} (h : rest.head? ≠ some '\\') :
    passLiteral ((stringLiteral value).toList.reverse ++ rest) = some rest := by
  have hreverse : (stringLiteral value).toList.reverse ++ rest =
      "\"".toList.reverse ++ ((value.toList.flatMap literalChar).reverse ++ '"' :: rest) := by
    simp [stringLiteral]
  rw [hreverse, passLiteral, expectBack_append]
  exact (passQuoted_append value.toList _).trans (passQuoted_quote h)

end NativeBindings.Source
