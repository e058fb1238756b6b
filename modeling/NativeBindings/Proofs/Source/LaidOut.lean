/-
NativeBindings/Proofs/Source/LaidOut.lean

Well laid out texts.  Behind its blanks, a line is nothing, an opening brace, a closing brace or
text.  A text is well laid out if its blank lines only set things apart and its braces match at the
right indentation: a count of the open scopes that goes through the lines is never negative, comes
back to zero, and tells where each line may start (`WellLaidOut`).

A layout whose texts show what they are (`Layout.IsPlain`) and whose scopes are whole
(`Layout.Balanced`) writes such a text.  Both halves are inductions over a balanced layout.  The
count behind it is the count in front of it (`Balanced.foldlM_nestingAfter`).  What stands right
above the next row is known from the cursor alone: the brace of a scope at its start, and elsewhere
a row of text or a closing brace (`Balanced.isChain_rowLines`).
-/
import Mathlib.Data.List.Chain
import NativeBindings.Proofs.Source.Balance

namespace NativeBindings.Source

open Text

/-! ### Lines -/

/-- The lines of a text whose last line ends with a line feed. -/
def lines (text : String) : List (List Char) := (text.toList.splitOn '\n').dropLast

theorem lines_eq_of_toList {text : String} {parts : List (List Char)}
    (h : ∀ part ∈ parts, '\n' ∉ part) (htext : text.toList = parts.flatMap (· ++ ['\n'])) :
    lines text = parts := by
  have hsplit : (parts.flatMap (· ++ ['\n'])).splitOn '\n' = parts ++ [[]] := by
    clear htext
    induction parts with
    | nil => rfl
    | cons part parts ih =>
      obtain ⟨hpart, hparts⟩ := List.forall_mem_cons.mp h
      rw [List.flatMap_cons, List.append_assoc, List.singleton_append,
        List.splitOn_append_cons_self_of_not_mem hpart, ih hparts]
      rfl
  rw [lines, htext, hsplit, List.dropLast_concat]

/-- The number of blanks in front of a line. -/
def indentation (line : List Char) : Nat := (line.takeWhile (· == ' ')).length

/-- A line without the blanks in front of it. -/
def stripped (line : List Char) : List Char := line.dropWhile (· == ' ')

/-- What stands in a line. -/
inductive LineKind where
  | blank
  | opening
  | closing
  | text
deriving DecidableEq

/-- What stands in a line behind its blanks. -/
def lineKind (line : List Char) : LineKind :=
  if stripped line = [] then .blank
  else if stripped line = ['{'] then .opening
  else if stripped line = ['}'] then .closing
  else .text

/-- The number of open scopes behind a line, from the number in front of it.  There is none if the
line stands where it should not: a brace is indented like the header of its scope, text is indented
at least as deep as the scopes that are open, and no brace closes a scope that is not open. -/
def nestingAfter (nesting : Nat) (line : List Char) : Option Nat :=
  match lineKind line with
  | .blank => some nesting
  | .opening => if indentation line = 4 * nesting then some (nesting + 1) else none
  | .closing =>
      if nesting ≠ 0 ∧ indentation line = 4 * (nesting - 1) then some (nesting - 1) else none
  | .text => if 4 * nesting ≤ indentation line then some nesting else none

/-- Whether a line may stand right below another one.  No blank line stands below a blank one or at
the start of a scope, and none at its end.  What stands above an opening brace is its header. -/
structure MayFollow (line next : List Char) : Prop where
  blank : lineKind next = .blank → lineKind line ≠ .blank ∧ lineKind line ≠ .opening
  closing : lineKind next = .closing → lineKind line ≠ .blank
  opening : lineKind next = .opening → lineKind line = .text

/-- A text that is well laid out. -/
structure WellLaidOut (text : String) : Prop where
  /-- It ends with one line feed, and not with two. -/
  ends_once : ∃ front, text.toList = front ++ ['\n'] ∧ front.getLast? ≠ some '\n'
  blank_eq : ∀ line ∈ lines text, lineKind line = .blank → line = []
  spaced : (lines text).IsChain MayFollow
  nested : (lines text).foldlM nestingAfter 0 = some 0

/-! ### Plain texts -/

/-- A text with a character that is neither a blank nor a brace. -/
def Visible (s : String) : Prop := ∃ c ∈ s.toList, c ≠ ' ' ∧ c ≠ '{' ∧ c ≠ '}'

theorem visible_append {s t : String} : Visible (s ++ t) ↔ Visible s ∨ Visible t := by
  simp only [Visible, String.toList_append, List.mem_append, or_and_right, exists_or]

/-- A text that is one line of text wherever it stands in a row. -/
structure IsPlainText (content : String) : Prop where
  singleLine : SingleLine content
  visible : Visible content

/-- Literals are looked at as lists of characters. -/
theorem isPlainText_literal {cs : List Char}
    (h : '\n' ∉ cs ∧ (cs.any fun c => c != ' ' && c != '{' && c != '}') = true) :
    IsPlainText (String.ofList cs) where
  singleLine := lacks_ofList.mpr h.1
  visible := by
    obtain ⟨c, hmem, hc⟩ := List.any_eq_true.mp h.2
    refine ⟨c, ?_, ?_⟩
    · rw [String.toList_ofList]
      exact hmem
    · simpa [and_assoc] using hc

namespace IsPlainText

variable {s t : String} {cs : List Char}

theorem append (hs : IsPlainText s) (ht : SingleLine t) : IsPlainText (s ++ t) where
  singleLine := lacks_append.mpr ⟨hs.singleLine, ht⟩
  visible := visible_append.mpr (.inl hs.visible)

theorem prepend (hs : SingleLine s) (ht : IsPlainText t) : IsPlainText (s ++ t) where
  singleLine := lacks_append.mpr ⟨hs, ht.singleLine⟩
  visible := visible_append.mpr (.inr ht.visible)

theorem literal (hs : IsPlainText s) (h : '\n' ∉ cs) : IsPlainText (s ++ String.ofList cs) :=
  hs.append (lacks_ofList.mpr h)

theorem literal_append (hs : IsPlainText s) (h : '\n' ∉ cs) (ht : SingleLine t) :
    IsPlainText (s ++ String.ofList cs ++ t) :=
  (hs.literal h).append ht

end IsPlainText

theorem isPlainText_literal_append {cs : List Char} {t : String}
    (h : '\n' ∉ cs ∧ (cs.any fun c => c != ' ' && c != '{' && c != '}') = true)
    (ht : SingleLine t) : IsPlainText (String.ofList cs ++ t) :=
  (isPlainText_literal h).append ht

variable {depth : Nat} {content : String}

theorem stripped_indented (depth : Nat) (content : String) :
    stripped (indented depth content).toList = stripped content.toList := by
  rw [toList_indented, stripped, List.dropWhile_append_of_pos]
  · rfl
  · intro c hc
    rw [List.eq_of_mem_replicate hc]
    rfl

theorem indentation_indented (depth : Nat) (content : String) :
    indentation (indented depth content).toList = 4 * depth + indentation content.toList := by
  rw [toList_indented, indentation, List.takeWhile_append_of_pos]
  · rw [List.length_append, List.length_replicate]
    rfl
  · intro c hc
    rw [List.eq_of_mem_replicate hc]
    rfl

/-- A character that is no blank is not stripped. -/
theorem mem_stripped {line : List Char} {c : Char} (hmem : c ∈ line) (hc : c ≠ ' ') :
    c ∈ stripped line := by
  induction line with
  | nil => cases hmem
  | cons d line ih =>
    rcases Decidable.em (d = ' ') with rfl | hd
    · rcases List.mem_cons.mp hmem with rfl | hmem
      · exact absurd rfl hc
      · exact ih hmem
    · have hkept : stripped (d :: line) = d :: line :=
        List.dropWhile_cons_of_neg (by simp [hd])
      rw [hkept]
      exact hmem

theorem IsPlainText.lineKind_eq (h : IsPlainText content) :
    lineKind (indented depth content).toList = .text := by
  obtain ⟨c, hmem, hblank, hopen, hclose⟩ := h.visible
  have hshown : c ∈ stripped (indented depth content).toList := by
    rw [stripped_indented]
    exact mem_stripped hmem hblank
  have hne {line : List Char} (hline : c ∉ line) :
      stripped (indented depth content).toList ≠ line := by
    rintro rfl
    exact hline hshown
  rw [lineKind, if_neg (hne List.not_mem_nil), if_neg (hne (by simp [hopen])),
    if_neg (hne (by simp [hclose]))]

theorem lineKind_opening (depth : Nat) : lineKind (indented depth "\x7b").toList = .opening := by
  rw [lineKind, stripped_indented]
  decide

theorem lineKind_closing (depth : Nat) : lineKind (indented depth "\x7d").toList = .closing := by
  rw [lineKind, stripped_indented]
  decide

/-! ### The count of open scopes -/

theorem nestingAfter_blank (nesting : Nat) : nestingAfter nesting [] = some nesting := rfl

theorem IsPlainText.nestingAfter_eq (h : IsPlainText content) (depth : Nat) :
    nestingAfter depth (indented depth content).toList = some depth := by
  rw [nestingAfter, h.lineKind_eq, indentation_indented]
  exact if_pos (Nat.le_add_right _ _)

theorem nestingAfter_opening (depth : Nat) :
    nestingAfter depth (indented depth "\x7b").toList = some (depth + 1) := by
  rw [nestingAfter, lineKind_opening, indentation_indented]
  exact if_pos rfl

theorem nestingAfter_closing (depth : Nat) :
    nestingAfter (depth + 1) (indented depth "\x7d").toList = some depth := by
  rw [nestingAfter, lineKind_closing, indentation_indented]
  exact if_pos ⟨Nat.succ_ne_zero depth, rfl⟩

/-! ### Rows -/

/-- The characters of a row, without its line feed. -/
def Row.chars : Row → List Char
  | text depth content => (indented depth content).toList
  | blank => []

theorem Row.toList_render (row : Row) : row.render.toList = row.chars ++ ['\n'] := by
  cases row with
  | text depth content => exact toList_row depth content
  | blank => rfl

/-- A row with a plain text or a brace, or nothing. -/
inductive Row.IsPlain : Row → Prop where
  | text (depth : Nat) {content : String} (h : IsPlainText content) : IsPlain (.text depth content)
  | opening (depth : Nat) : IsPlain (.text depth "\x7b")
  | closing (depth : Nat) : IsPlain (.text depth "\x7d")
  | blank : IsPlain .blank

namespace Row.IsPlain

variable {row : Row}

theorem lineFeed_not_mem (h : row.IsPlain) : '\n' ∉ row.chars := by
  have hline {depth : Nat} {content : String} (hcontent : SingleLine content) :
      '\n' ∉ (indented depth content).toList := by
    rw [toList_indented, List.mem_append, not_or]
    refine ⟨fun hmem => ?_, hcontent⟩
    exact absurd (List.eq_of_mem_replicate hmem) (by decide)
  cases h with
  | text depth h => exact hline h.singleLine
  | opening depth => exact hline (by decide)
  | closing depth => exact hline (by decide)
  | blank => exact List.not_mem_nil

theorem eq_nil_of_blank (h : row.IsPlain) (hblank : lineKind row.chars = .blank) :
    row.chars = [] := by
  cases h with
  | text depth h => cases h.lineKind_eq.symm.trans hblank
  | opening depth => cases (lineKind_opening depth).symm.trans hblank
  | closing depth => cases (lineKind_closing depth).symm.trans hblank
  | blank => rfl

end Row.IsPlain

/-- The lines of rows are their characters. -/
theorem lines_renderRows {rows : List Row} (h : ∀ row ∈ rows, row.IsPlain) :
    lines (renderRows rows) = rows.map Row.chars := by
  apply lines_eq_of_toList
  · intro line hline
    obtain ⟨row, hrow, rfl⟩ := List.mem_map.mp hline
    exact (h row hrow).lineFeed_not_mem
  · rw [renderRows, String.toList_join, List.flatMap_map, List.flatMap_map]
    exact congrArg (fun write => rows.flatMap write) (funext Row.toList_render)

/-! ### Plain layouts -/

/-- A step whose text is plain. -/
def Step.IsPlain : Step → Prop
  | line content => IsPlainText content
  | openScope header => IsPlainText header
  | _ => True

namespace Layout

/-- A layout all of whose texts are plain. -/
def IsPlain (layout : Layout) : Prop := ∀ step ∈ layout, step.IsPlain

namespace IsPlain

variable {first second body : Layout} {header : String}

theorem nil : IsPlain [] :=
  fun _ h => absurd h List.not_mem_nil

theorem cons {step : Step} {rest : Layout} (hstep : step.IsPlain) (h : IsPlain rest) :
    IsPlain (step :: rest) :=
  List.forall_mem_cons.mpr ⟨hstep, h⟩

theorem of_cons {step : Step} {rest : Layout} (h : IsPlain (step :: rest)) :
    step.IsPlain ∧ IsPlain rest :=
  List.forall_mem_cons.mp h

theorem line {rest : Layout} (hcontent : IsPlainText content) (h : IsPlain rest) :
    IsPlain (.line content :: rest) :=
  List.forall_mem_cons.mpr ⟨hcontent, h⟩

theorem opening {rest : Layout} (hheader : IsPlainText header) (h : IsPlain rest) :
    IsPlain (.openScope header :: rest) :=
  List.forall_mem_cons.mpr ⟨hheader, h⟩

theorem append (hfirst : IsPlain first) (hsecond : IsPlain second) : IsPlain (first ++ second) :=
  List.forall_mem_append.mpr ⟨hfirst, hsecond⟩

theorem of_append (h : IsPlain (first ++ second)) : IsPlain first ∧ IsPlain second :=
  List.forall_mem_append.mp h

theorem of_scope (h : IsPlain (Layout.scope header body)) :
    IsPlainText header ∧ IsPlain body := by
  obtain ⟨hheader, hrest⟩ := h.of_cons
  exact ⟨hheader, (of_append hrest).1⟩

theorem scope (hheader : IsPlainText header) (h : IsPlain body) :
    IsPlain (Layout.scope header body) :=
  (opening hheader h).append (cons trivial nil)

theorem item (h : IsPlain body) : IsPlain (Layout.item body) :=
  cons trivial h

theorem map_line {α : Type} {items : List α} {content : α → String}
    (h : ∀ item ∈ items, IsPlainText (content item)) :
    IsPlain (items.map fun item => .line (content item)) := by
  intro step hstep
  obtain ⟨item, hitem, rfl⟩ := List.mem_map.mp hstep
  exact h item hitem

theorem flatMap {α : Type} {items : List α} {layout : α → Layout}
    (h : ∀ item ∈ items, IsPlain (layout item)) : IsPlain (items.flatMap layout) := by
  intro step hstep
  obtain ⟨item, hitem, hmem⟩ := List.mem_flatMap.mp hstep
  exact h item hitem step hmem

/-- A plain layout writes plain rows, whatever scopes it leaves open. -/
theorem rows {layout : Layout} (h : IsPlain layout) (cursor : Cursor) :
    ∀ row ∈ layout.rows cursor, row.IsPlain := by
  induction layout generalizing cursor with
  | nil => exact fun _ hrow => absurd hrow List.not_mem_nil
  | cons step rest ih =>
    obtain ⟨hstep, hrest⟩ := List.forall_mem_cons.mp h
    refine List.forall_mem_append.mpr ⟨?_, ih hrest _⟩
    cases step with
    | line content => exact List.forall_mem_singleton.mpr (.text _ hstep)
    | openScope header =>
      exact List.forall_mem_cons.mpr ⟨.text _ hstep, List.forall_mem_singleton.mpr (.opening _)⟩
    | closeScope => exact List.forall_mem_singleton.mpr (.closing _)
    | newline => exact List.forall_mem_singleton.mpr .blank
    | separator =>
      rw [Step.rows]
      split
      · exact fun _ hrow => absurd hrow List.not_mem_nil
      · exact List.forall_mem_singleton.mpr .blank
    | indent => exact fun _ hrow => absurd hrow List.not_mem_nil
    | dedent => exact fun _ hrow => absurd hrow List.not_mem_nil

end IsPlain

/-! ### Balanced layouts -/

section Balanced

variable {atStart : Bool} {layout : Layout}

/-- The characters of the rows of a layout, line by line. -/
def rowLines (cursor : Cursor) (layout : Layout) : List (List Char) :=
  (layout.rows cursor).map Row.chars

/-- A scope, its braces and what stands behind it, line by line. -/
theorem rowLines_scope_append (header : String) {body : Layout} (h : Balanced body)
    (rest : Layout) :
    rowLines ⟨depth, atStart⟩ (scope header body ++ rest) =
      (indented depth header).toList :: (indented depth "\x7b").toList ::
        (rowLines ⟨depth + 1, true⟩ body ++
          (indented depth "\x7d").toList :: rowLines ⟨depth, false⟩ rest) := by
  have hfinish : finish ⟨depth, atStart⟩ (scope header body) = ⟨depth, false⟩ := by
    rw [(Balanced.whole_scope header h).finish_eq]
    exact congrArg _ (Bool.and_false _)
  rw [rowLines, rows_append, rows_scope header h, hfinish]
  simp [rowLines, Row.chars]

/-- **The count of open scopes comes back.**  Behind a balanced layout it is the depth at which the
layout is written, as it is in front. -/
theorem Balanced.foldlM_nestingAfter (h : Balanced layout) (hplain : layout.IsPlain) :
    (rowLines ⟨depth, atStart⟩ layout).foldlM nestingAfter depth = some depth := by
  induction h generalizing depth atStart with
  | nil => rfl
  | @line content rest _ ih =>
    obtain ⟨hcontent, hrest⟩ := hplain.of_cons
    show (nestingAfter depth (indented depth content).toList).bind _ = _
    rw [IsPlainText.nestingAfter_eq hcontent]
    exact ih hrest
  | @scope header body rest hbody _ ihbody ih =>
    obtain ⟨hscope, hrest⟩ := hplain.of_append
    obtain ⟨hheader, hinside⟩ := hscope.of_scope
    -- the header keeps the count, the braces move it by one, and the body keeps it in between
    rw [rowLines_scope_append header hbody]
    simp only [List.foldlM_cons, List.foldlM_append, IsPlainText.nestingAfter_eq hheader,
      nestingAfter_opening, ihbody hinside, nestingAfter_closing, Option.bind_eq_bind,
      Option.bind_some]
    exact ih hrest
  | @separator rest _ hrow ih =>
    obtain ⟨-, hrest⟩ := hplain.of_cons
    cases atStart with
    | true => exact ih hrest
    | false => exact ih hrest

/-- What can stand right above the place of a cursor. -/
def IsAbove (atStart : Bool) (line : List Char) : Prop :=
  if atStart then lineKind line = .opening
  else lineKind line = .text ∨ lineKind line = .closing

variable {line next : List Char}

theorem isAbove_opening (h : lineKind line = .opening) : IsAbove true line := h

theorem isAbove_text (h : lineKind line = .text) : IsAbove false line := .inl h

theorem isAbove_closing (h : lineKind line = .closing) : IsAbove false line := .inr h

theorem IsAbove.ne_blank (h : IsAbove atStart line) : lineKind line ≠ .blank := by
  cases atStart with
  | true =>
    have hkind : lineKind line = .opening := h
    simp [hkind]
  | false =>
    rcases h with hkind | hkind
    · simp [hkind]
    · simp [hkind]

/-- Text may stand below every line. -/
theorem mayFollow_text (h : lineKind next = .text) : MayFollow line next where
  blank := by simp [h]
  closing := by simp [h]
  opening := by simp [h]

theorem mayFollow_opening (hheader : lineKind line = .text) (h : lineKind next = .opening) :
    MayFollow line next where
  blank := by simp [h]
  closing := by simp [h]
  opening := fun _ => hheader

theorem mayFollow_closing (habove : IsAbove atStart line) (h : lineKind next = .closing) :
    MayFollow line next where
  blank := by simp [h]
  closing := fun _ => habove.ne_blank
  opening := by simp [h]

/-- A blank line sets apart what stands in one scope. -/
theorem mayFollow_nil (h : IsAbove false line) : MayFollow line [] where
  blank := by
    intro _
    refine ⟨h.ne_blank, ?_⟩
    rcases h with hkind | hkind
    · simp [hkind]
    · simp [hkind]
  closing := nofun
  opening := nofun

theorem StartsWithRow.exists_rowLines (h : StartsWithRow layout) (hplain : layout.IsPlain)
    (cursor : Cursor) :
    ∃ first others, rowLines cursor layout = first :: others ∧ lineKind first = .text := by
  cases h with
  | line content rest => exact ⟨_, _, rfl, IsPlainText.lineKind_eq hplain.of_cons.1⟩
  | openScope header rest => exact ⟨_, _, rfl, IsPlainText.lineKind_eq hplain.of_cons.1⟩

/-- **Rows are spaced as they should be.**  A balanced layout may follow what can stand above it,
and what follows it may follow what it leaves. -/
theorem Balanced.isChain_rowLines (h : Balanced layout) (hplain : layout.IsPlain)
    {above : List Char} (habove : IsAbove atStart above) {behind : List (List Char)}
    (hbehind : ∀ line, IsAbove (atStart && layout.isEmpty) line →
      (line :: behind).IsChain MayFollow) :
    (above :: (rowLines ⟨depth, atStart⟩ layout ++ behind)).IsChain MayFollow := by
  induction h generalizing depth atStart above behind with
  | nil =>
    apply hbehind
    rw [List.isEmpty_nil, Bool.and_true]
    exact habove
  | @line content rest _ ih =>
    obtain ⟨hcontent, hrest⟩ := hplain.of_cons
    have hkind : lineKind (indented depth content).toList = .text :=
      IsPlainText.lineKind_eq hcontent
    refine .cons_cons (mayFollow_text hkind) (ih hrest (isAbove_text hkind) ?_)
    intro line hline
    apply hbehind
    rwa [List.isEmpty_cons, Bool.and_false]
  | @scope header body rest hbody _ ihbody ih =>
    obtain ⟨hscope, hrest⟩ := hplain.of_append
    obtain ⟨hheader, hinside⟩ := hscope.of_scope
    have hkind : lineKind (indented depth header).toList = .text := hheader.lineKind_eq
    have hopening := lineKind_opening depth
    have hclosing := lineKind_closing depth
    rw [rowLines_scope_append header hbody]
    simp only [List.cons_append, List.append_assoc]
    -- header, brace, body, brace, and then the rest below the brace
    refine .cons_cons (mayFollow_text hkind) (.cons_cons (mayFollow_opening hkind hopening) ?_)
    refine ihbody hinside (isAbove_opening hopening) fun line hline => ?_
    refine .cons_cons (mayFollow_closing hline hclosing) ?_
    refine ih hrest (isAbove_closing hclosing) fun line hline => hbehind line ?_
    have hwritten : (Layout.scope header body ++ rest).isEmpty = false := rfl
    rwa [hwritten, Bool.and_false]
  | @separator rest _ hrow ih =>
    obtain ⟨-, hrest⟩ := hplain.of_cons
    have hwritten : rest.isEmpty = false := by cases hrow <;> rfl
    have hchain : (above :: (rowLines ⟨depth, atStart⟩ rest ++ behind)).IsChain MayFollow := by
      refine ih hrest habove fun line hline => hbehind line ?_
      rwa [hwritten] at hline
    cases atStart with
    | true => exact hchain
    | false =>
      -- the row behind the blank line is text, which may stand below anything
      obtain ⟨first, others, hrows, hkind⟩ := hrow.exists_rowLines hrest ⟨depth, false⟩
      have hlines : rowLines ⟨depth, false⟩ (.separator :: rest) = [] :: first :: others :=
        congrArg ([] :: ·) hrows
      rw [hrows] at hchain
      rw [hlines]
      exact .cons_cons (mayFollow_nil habove)
        (.cons_cons (mayFollow_text hkind) (List.isChain_cons_cons.mp hchain).2)

end Balanced

/-! ### Sources -/

variable {nameSpace : String} {body : Layout}

theorem isPlain_fileHeader (h : SingleLine nameSpace) : IsPlain (fileHeader nameSpace) := by
  have hmarker : IsPlainText "// <auto-generated/>" := isPlainText_literal (by decide)
  have hnameSpace : IsPlainText ("namespace " ++ nameSpace ++ ";") :=
    ((isPlainText_literal (by decide)).append h).literal (by decide)
  rw [fileHeader]
  split
  · exact .line hmarker .nil
  · exact .line hmarker (.cons trivial (.line hnameSpace .nil))

/-- A file header is spaced as it should be, and what may stand below text may stand below it. -/
theorem isChain_fileHeader (h : SingleLine nameSpace) {behind : List (List Char)}
    (hbehind : ∀ line, lineKind line = .text → (line :: behind).IsChain MayFollow) :
    (rowLines {} (fileHeader nameSpace) ++ behind).IsChain MayFollow := by
  have hplain := isPlain_fileHeader h
  rw [fileHeader] at hplain ⊢
  split at hplain
  · rename_i hempty
    rw [if_pos hempty]
    exact hbehind _ (IsPlainText.lineKind_eq hplain.of_cons.1)
  · rename_i hne
    obtain ⟨hmarker, hrest⟩ := hplain.of_cons
    have hname := hrest.of_cons.2.of_cons.1
    have hkind : lineKind (indented 0 ("namespace " ++ nameSpace ++ ";")).toList = .text :=
      IsPlainText.lineKind_eq hname
    rw [if_neg hne]
    exact .cons_cons (mayFollow_nil (isAbove_text (IsPlainText.lineKind_eq hmarker)))
      (.cons_cons (mayFollow_text hkind) (hbehind _ hkind))

theorem foldlM_nestingAfter_fileHeader (h : SingleLine nameSpace) :
    (rowLines {} (fileHeader nameSpace)).foldlM nestingAfter 0 = some 0 := by
  have hplain := isPlain_fileHeader h
  rw [fileHeader] at hplain ⊢
  obtain ⟨hmarker, hrest⟩ := hplain.of_cons
  have hfirst := IsPlainText.nestingAfter_eq hmarker 0
  split at hrest
  · rename_i hempty
    rw [if_pos hempty]
    exact hfirst
  · rename_i hne
    have hsecond := IsPlainText.nestingAfter_eq hrest.of_cons.2.of_cons.1 0
    have hlines : rowLines {} [.line "// <auto-generated/>", .newline,
        .line ("namespace " ++ nameSpace ++ ";")] =
          [(indented 0 "// <auto-generated/>").toList, [],
            (indented 0 ("namespace " ++ nameSpace ++ ";")).toList] := rfl
    rw [if_neg hne, hlines]
    simp only [List.foldlM_cons, hfirst, nestingAfter_blank, hsecond, Option.bind_eq_bind,
      Option.bind_some]
    rfl

theorem rowLines_fileHeader_append (nameSpace : String) (body : Layout) :
    rowLines {} (fileHeader nameSpace ++ body) =
      rowLines {} (fileHeader nameSpace) ++ rowLines ⟨0, false⟩ body := by
  have hfinish : finish {} (fileHeader nameSpace) = ⟨0, false⟩ := by
    rw [fileHeader]
    split <;> rfl
  rw [rowLines, rows_append, hfinish, List.map_append]
  rfl

/-- Rows whose last one shows something end with one line feed. -/
theorem exists_renderRows_eq {rows : List Row} {last : Row} (h : ∀ row ∈ rows, row.IsPlain)
    (hlast : rows.getLast? = some last) (hne : last.chars ≠ []) :
    ∃ front, (renderRows rows).toList = front ++ ['\n'] ∧ front.getLast? ≠ some '\n' := by
  obtain ⟨others, rfl⟩ := List.getLast?_eq_some_iff.mp hlast
  refine ⟨(renderRows others).toList ++ last.chars, ?_, ?_⟩
  · simp [renderRows, String.toList_join, Row.toList_render]
  · have hline := (h last (by simp)).lineFeed_not_mem
    intro hfeed
    obtain ⟨c, hc⟩ := Option.ne_none_iff_exists'.mp (mt List.getLast?_eq_none_iff.mp hne)
    rw [List.getLast?_append, hc] at hfeed
    obtain rfl := Option.some.inj hfeed
    exact hline (List.mem_of_getLast? hc)

/-- **A source is well laid out** if its body is balanced and shows text in every row. -/
theorem wellLaidOut_render (h : SingleLine nameSpace) (hbalanced : Balanced body)
    (hplain : body.IsPlain) : WellLaidOut (fileHeader nameSpace ++ body).render := by
  have hrows : ∀ row ∈ (fileHeader nameSpace ++ body).rows {}, row.IsPlain :=
    ((isPlain_fileHeader h).append hplain).rows {}
  have hlines : lines (fileHeader nameSpace ++ body).render =
      rowLines {} (fileHeader nameSpace ++ body) :=
    lines_renderRows hrows
  -- one more closing brace could follow, so the last line is not blank
  have hchain : (rowLines {} (fileHeader nameSpace ++ body) ++
      [(indented 0 "\x7d").toList]).IsChain MayFollow := by
    rw [rowLines_fileHeader_append, List.append_assoc]
    refine isChain_fileHeader h fun line hline => ?_
    refine hbalanced.isChain_rowLines hplain (isAbove_text hline) fun last habove => ?_
    exact .cons_cons (mayFollow_closing habove (lineKind_closing 0)) (.singleton _)
  obtain ⟨hspaced, -, hlast⟩ := List.isChain_append.mp hchain
  constructor
  · obtain ⟨last, hrow⟩ : ∃ last, ((fileHeader nameSpace ++ body).rows {}).getLast? = some last :=
      ⟨_, List.getLast?_cons⟩
    refine exists_renderRows_eq hrows hrow fun hnil => ?_
    have hmem : last.chars ∈ (rowLines {} (fileHeader nameSpace ++ body)).getLast? := by
      rw [rowLines, List.getLast?_map, hrow]
      rfl
    refine (hlast _ hmem _ rfl).closing (lineKind_closing 0) ?_
    rw [hnil]
    rfl
  · rw [hlines]
    intro line hline hblank
    obtain ⟨row, hrow, rfl⟩ := List.mem_map.mp hline
    exact (hrows row hrow).eq_nil_of_blank hblank
  · rw [hlines]
    exact hspaced
  · rw [hlines, rowLines_fileHeader_append, List.foldlM_append,
      foldlM_nestingAfter_fileHeader h]
    exact hbalanced.foldlM_nestingAfter hplain

end Layout

end NativeBindings.Source
