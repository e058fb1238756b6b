/-
NativeBindings/Proofs/Source/RegularLiterals.lean

String literals as the generated language reads them.  Between its quotes, a regular literal holds
plain characters and simple escape sequences, and no plain character ends the line
(`IsRegularLiteral`).  The lexer reads exactly these literals (`lexRegular_eq_some_iff`), so it finds
at most one at the front of a text, and it stops behind it.

The literal of a text is regular as long as no line end is written as it is:

    IsRegularLiteral lineEnds (stringLiteral v) v ↔ no c in v is a line end with literalChar c = [c].

Line feed and carriage return have escape sequences.  The next line and the two Unicode separators
have none, so the literal of a text with one of them is no regular one
(`isRegularLiteral_stringLiteral_iff`).
-/
import Mathlib.Data.List.Forall2
import NativeBindings.Source.Literal

namespace NativeBindings.Source

/-! ### Regular literals -/

/-- The character that a simple escape sequence is for, by what stands behind the backslash. -/
def simpleEscape? : Char → Option Char
  | '"' => some '"'
  | '\\' => some '\\'
  | 'n' => some '\n'
  | 'r' => some '\r'
  | 't' => some '\t'
  | '0' => some '\x00'
  | _ => none

/-- A spelling of one character between the quotes of a literal. -/
inductive SpellsChar (lineEnds : List Char) : List Char → Char → Prop where
  | plain {c : Char} (hquote : c ≠ '"') (hbackslash : c ≠ '\\') (hline : c ∉ lineEnds) :
      SpellsChar lineEnds [c] c
  | escape {letter c : Char} (h : simpleEscape? letter = some c) :
      SpellsChar lineEnds ['\\', letter] c

/-- A regular literal that denotes a text: spellings of its characters, one after the other, between
two quotes. -/
def IsRegularLiteral (lineEnds literal value : List Char) : Prop :=
  ∃ spellings, List.Forall₂ (SpellsChar lineEnds) spellings value ∧
    literal = '"' :: (spellings.flatten ++ ['"'])

/-! ### The lexer -/

/-- Read the inside of a regular literal and the quote that ends it. -/
def lexInside (lineEnds : List Char) : List Char → Option (List Char × List Char)
  | [] => none
  | '"' :: rest => some ([], rest)
  | '\\' :: letter :: rest =>
      match simpleEscape? letter with
      | some c => (lexInside lineEnds rest).map fun (value, rest) => (c :: value, rest)
      | none => none
  | c :: rest =>
      if c ∈ lineEnds then none
      else (lexInside lineEnds rest).map fun (value, rest) => (c :: value, rest)

/-- Read a regular literal: the text that it denotes, and what stands behind it. -/
def lexRegular (lineEnds : List Char) : List Char → Option (List Char × List Char)
  | '"' :: text => lexInside lineEnds text
  | _ => none

variable {lineEnds : List Char}

theorem lexInside_of_ne {c : Char} (hquote : c ≠ '"') (hbackslash : c ≠ '\\') (text : List Char) :
    lexInside lineEnds (c :: text) =
      if c ∈ lineEnds then none
      else (lexInside lineEnds text).map fun (value, rest) => (c :: value, rest) := by
  rw [lexInside]
  · exact hquote
  · intro letter rest heq
    exact absurd heq hbackslash

/-- A spelling is read as its character. -/
theorem SpellsChar.lexInside_append {spelling : List Char} {c : Char}
    (h : SpellsChar lineEnds spelling c) (text : List Char) :
    lexInside lineEnds (spelling ++ text) =
      (lexInside lineEnds text).map fun (value, rest) => (c :: value, rest) := by
  cases h with
  | plain hquote hbackslash hline =>
    rw [List.singleton_append, lexInside_of_ne hquote hbackslash, if_neg hline]
  | escape h =>
    rw [List.cons_append, List.singleton_append, lexInside, h]

/-- What the lexer has read is spellings up to a quote. -/
theorem exists_of_lexInside {text value rest : List Char}
    (h : lexInside lineEnds text = some (value, rest)) :
    ∃ spellings, List.Forall₂ (SpellsChar lineEnds) spellings value ∧
      text = spellings.flatten ++ '"' :: rest := by
  fun_induction lexInside lineEnds text generalizing value with
  | case1 => cases h
  | case2 behind =>
    cases h
    exact ⟨[], .nil, rfl⟩
  | case3 letter behind c hescape ih =>
    obtain ⟨⟨others, _⟩, hothers, heq⟩ := Option.map_eq_some_iff.mp h
    obtain ⟨rfl, rfl⟩ := Prod.mk.inj heq
    obtain ⟨spellings, hspellings, rfl⟩ := ih hothers
    exact ⟨_ :: spellings, .cons (.escape hescape) hspellings, rfl⟩
  | case4 => cases h
  | case5 => cases h
  | case6 c behind hquote hbackslash hline ih =>
    obtain ⟨⟨others, _⟩, hothers, heq⟩ := Option.map_eq_some_iff.mp h
    obtain ⟨rfl, rfl⟩ := Prod.mk.inj heq
    obtain ⟨spellings, hspellings, rfl⟩ := ih hothers
    -- a lone backslash has no text behind it, not even the quote
    have hne : c ≠ '\\' := by
      rintro rfl
      obtain ⟨letter, others, hbehind⟩ :=
        List.exists_cons_of_ne_nil (List.append_ne_nil_of_right_ne_nil spellings.flatten
          (List.cons_ne_nil '"' _))
      exact hbackslash letter others rfl hbehind
    exact ⟨[c] :: spellings, .cons (.plain hquote hne hline) hspellings, rfl⟩

/-- **The lexer reads the regular literals**, and it stops at the end of one. -/
theorem lexRegular_eq_some_iff {text value rest : List Char} :
    lexRegular lineEnds text = some (value, rest) ↔
      ∃ literal, IsRegularLiteral lineEnds literal value ∧ text = literal ++ rest := by
  constructor
  · intro h
    rw [lexRegular.eq_def] at h
    split at h
    · obtain ⟨spellings, hspellings, rfl⟩ := exists_of_lexInside h
      exact ⟨_, ⟨spellings, hspellings, rfl⟩, by simp⟩
    · cases h
  · rintro ⟨_, ⟨spellings, hspellings, rfl⟩, rfl⟩
    show lexInside lineEnds ((spellings.flatten ++ ['"']) ++ rest) = some (value, rest)
    induction hspellings with
    | nil => rfl
    | cons hspelling _ ih =>
      rw [List.flatten_cons, List.append_assoc, List.append_assoc, hspelling.lexInside_append,
        ← List.append_assoc, ih]
      rfl

/-! ### Literals that are written -/

/-- Whether a character ends the line and is written as it is. -/
def staysBare (lineEnds : List Char) (c : Char) : Bool :=
  lineEnds.contains c && literalChar c == [c]

/-- A character that does not end the line where it is written is spelled. -/
theorem spellsChar_literalChar {c : Char} (h : staysBare lineEnds c = false) :
    SpellsChar lineEnds (literalChar c) c := by
  have hbare (hwritten : literalChar c = [c]) : c ∉ lineEnds := by
    simpa [staysBare, hwritten] using h
  unfold literalChar at hbare ⊢
  split at hbare
  case h_7 hquote hbackslash _ _ _ _ => exact .plain hquote hbackslash (hbare rfl)
  all_goals exact .escape rfl

/-- One that does is where the lexer gives up. -/
theorem lexInside_literalChar {c : Char} (h : staysBare lineEnds c = true) (text : List Char) :
    lexInside lineEnds (literalChar c ++ text) = none := by
  obtain ⟨hline, hwritten⟩ : c ∈ lineEnds ∧ literalChar c = [c] := by
    simpa [staysBare] using h
  have hquote : c ≠ '"' := by
    rintro rfl
    cases hwritten
  have hbackslash : c ≠ '\\' := by
    rintro rfl
    cases hwritten
  rw [hwritten, List.singleton_append, lexInside_of_ne hquote hbackslash, if_pos hline]

theorem lexInside_append (value rest : List Char) :
    lexInside lineEnds (value.flatMap literalChar ++ '"' :: rest) =
      if value.any (staysBare lineEnds) then none else some (value, rest) := by
  induction value with
  | nil => rfl
  | cons c value ih =>
    rw [List.flatMap_cons, List.append_assoc, List.any_cons]
    cases hc : staysBare lineEnds c with
    | true => rw [lexInside_literalChar hc, Bool.true_or]; rfl
    | false =>
      rw [(spellsChar_literalChar hc).lexInside_append, ih, Bool.false_or]
      split <;> rfl

/-- The lexer reads a literal that is written back, and stops behind it, unless a line end is
written as it is; then there is nothing to read. -/
theorem lexRegular_stringLiteral (value : String) (rest : List Char) :
    lexRegular lineEnds ((stringLiteral value).toList ++ rest) =
      if value.toList.any (staysBare lineEnds) then none else some (value.toList, rest) := by
  have hwritten : (stringLiteral value).toList ++ rest =
      '"' :: (value.toList.flatMap literalChar ++ '"' :: rest) := by
    simp [stringLiteral]
  rw [hwritten]
  exact lexInside_append value.toList rest

theorem isRegularLiteral_stringLiteral (value : String) :
    IsRegularLiteral lineEnds (stringLiteral value).toList value.toList ↔
      value.toList.any (staysBare lineEnds) = false := by
  have hread := @lexRegular_stringLiteral lineEnds value []
  rw [List.append_nil] at hread
  constructor
  · intro h
    have hlex := lexRegular_eq_some_iff.mpr ⟨_, h, (List.append_nil _).symm⟩
    rw [hread] at hlex
    cases hbare : value.toList.any (staysBare lineEnds) with
    | true => rw [hbare] at hlex; cases hlex
    | false => rfl
  · intro hbare
    rw [hbare] at hread
    obtain ⟨literal, hliteral, heq⟩ := lexRegular_eq_some_iff.mp hread
    rw [List.append_nil] at heq
    rwa [heq]

/-! ### Line ends of the generated language -/

/-- The characters that end a line: line feed, carriage return, next line, line separator and
paragraph separator. -/
def newLines : List Char := ['\n', '\r', Char.ofNat 0x85, Char.ofNat 0x2028, Char.ofNat 0x2029]

/-- Those that are written as they are. -/
def bareNewLines : List Char := [Char.ofNat 0x85, Char.ofNat 0x2028, Char.ofNat 0x2029]

theorem staysBare_newLines (c : Char) : staysBare newLines c = bareNewLines.contains c := by
  rcases Decidable.em (c ∈ newLines) with hline | hline
  · simp only [newLines, List.mem_cons, List.not_mem_nil, or_false] at hline
    rcases hline with rfl | rfl | rfl | rfl | rfl <;> rfl
  · have hbare : c ∉ bareNewLines := by
      intro hmem
      exact hline (List.mem_cons_of_mem _ (List.mem_cons_of_mem _ hmem))
    rw [staysBare, List.contains_eq_mem, List.contains_eq_mem, decide_eq_false hline,
      decide_eq_false hbare, Bool.false_and]

/-- **The literal of a text is a regular one that denotes it, if the text has no next line, no line
separator and no paragraph separator.**  Then a lexer stops exactly at its end, whatever follows.
Else these line ends are written as they are, and there is no literal to read; they are all that
makes the difference. -/
theorem isRegularLiteral_stringLiteral_iff (value : String) :
    (IsRegularLiteral newLines (stringLiteral value).toList value.toList ↔
      value.toList.any bareNewLines.contains = false) ∧
    (∀ rest, lexRegular newLines ((stringLiteral value).toList ++ rest) =
      if value.toList.any bareNewLines.contains then none else some (value.toList, rest)) ∧
    IsRegularLiteral ['\n', '\r'] (stringLiteral value).toList value.toList ∧
    ∀ rest, lexRegular ['\n', '\r'] ((stringLiteral value).toList ++ rest) =
      some (value.toList, rest) := by
  have hall : staysBare newLines = bareNewLines.contains := funext staysBare_newLines
  have hspelled : value.toList.any (staysBare ['\n', '\r']) = false := by
    rw [List.any_eq_false]
    intro c _ hbare
    obtain ⟨hline, hwritten⟩ : (c = '\n' ∨ c = '\r') ∧ literalChar c = [c] := by
      simpa [staysBare] using hbare
    rcases hline with rfl | rfl <;> cases hwritten
  refine ⟨?_, fun rest => ?_, isRegularLiteral_stringLiteral value |>.mpr hspelled, fun rest => ?_⟩
  · rw [isRegularLiteral_stringLiteral, hall]
  · rw [lexRegular_stringLiteral, hall]
  · rw [lexRegular_stringLiteral, hspelled]
    rfl

/-- The literal of a next line is no regular one, and a lexer finds none in front of anything. -/
theorem not_isRegularLiteral_nextLine :
    let value := String.singleton (Char.ofNat 0x85)
    ¬ IsRegularLiteral newLines (stringLiteral value).toList value.toList ∧
      ∀ rest, lexRegular newLines ((stringLiteral value).toList ++ rest) = none := by
  intro value
  have hbare : value.toList.any (staysBare newLines) = true := by decide
  constructor
  · rw [isRegularLiteral_stringLiteral, hbare]
    exact Bool.noConfusion
  · intro rest
    rw [lexRegular_stringLiteral, hbare]
    rfl

end NativeBindings.Source
