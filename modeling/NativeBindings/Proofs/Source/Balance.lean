/-
NativeBindings/Proofs/Source/Balance.lean

Layouts that come back to where they start.  A balanced layout is made of rows, of whole scopes, and
of separators that each stand before a row.  It ends at its own depth, and it is past the start of
the scope exactly if it has written something (`Balanced.finish_eq`).

A block is a balanced layout that is set apart from what stands before it, or nothing at all.  Since
only its first step looks at what was written before, a block writes one text wherever it stands, up
to the line feed in front.  So blocks one after the other write, at the start of a scope,

    "\n".intercalate (the texts of the blocks that are not empty)

which is `renderFrom_flatten`.
-/
import NativeBindings.Proofs.Source.Rendering

namespace NativeBindings.Source.Layout

variable {depth : Nat} {atStart : Bool}

/-! ### Balanced layouts -/

/-- A layout whose first step writes a row, whatever stands before it. -/
inductive StartsWithRow : Layout → Prop where
  | line (content : String) (rest : Layout) : StartsWithRow (.line content :: rest)
  | openScope (header : String) (rest : Layout) : StartsWithRow (.openScope header :: rest)

/-- Rows, whole scopes, and separators that each stand before one of them. -/
inductive Balanced : Layout → Prop where
  | nil : Balanced []
  | line (content : String) {rest : Layout} (h : Balanced rest) : Balanced (.line content :: rest)
  | scope (header : String) {body rest : Layout} (hbody : Balanced body) (h : Balanced rest) :
      Balanced (scope header body ++ rest)
  | separator {rest : Layout} (h : Balanced rest) (hrow : StartsWithRow rest) :
      Balanced (.separator :: rest)

theorem StartsWithRow.append {first : Layout} (h : StartsWithRow first) (second : Layout) :
    StartsWithRow (first ++ second) := by
  cases h with
  | line content rest => exact .line content _
  | openScope header rest => exact .openScope header _

theorem startsWithRow_scope (header : String) (body : Layout) :
    StartsWithRow (scope header body) :=
  .openScope header _

namespace Balanced

theorem append {first second : Layout} (hfirst : Balanced first) (hsecond : Balanced second) :
    Balanced (first ++ second) := by
  induction hfirst with
  | nil => exact hsecond
  | line content _ ih => exact .line content ih
  | scope header hbody _ _ ih =>
    rw [List.append_assoc]
    exact .scope header hbody ih
  | separator _ hrow ih => exact .separator ih (hrow.append second)

theorem flatMap {α : Type} {items : List α} {layout : α → Layout}
    (h : ∀ item ∈ items, Balanced (layout item)) : Balanced (items.flatMap layout) := by
  induction items with
  | nil => exact .nil
  | cons item items ih =>
    obtain ⟨hitem, hitems⟩ := List.forall_mem_cons.mp h
    exact hitem.append (ih hitems)

theorem map_line {α : Type} (items : List α) (content : α → String) :
    Balanced (items.map fun item => .line (content item)) := by
  induction items with
  | nil => exact .nil
  | cons item items ih => exact .line _ ih

theorem singleton_line (content : String) : Balanced [.line content] :=
  .line content .nil

/-- A scope alone. -/
theorem whole_scope (header : String) {body : Layout} (h : Balanced body) :
    Balanced (Layout.scope header body) := by
  rw [← List.append_nil (Layout.scope header body)]
  exact .scope header h .nil

/-- The depth is the old one, and the scope has been started if anything was written. -/
theorem finish_eq {layout : Layout} (h : Balanced layout) :
    layout.finish ⟨depth, atStart⟩ = ⟨depth, atStart && layout.isEmpty⟩ := by
  induction h generalizing depth atStart with
  | nil =>
    show (⟨depth, atStart⟩ : Cursor) = ⟨depth, atStart && true⟩
    rw [Bool.and_true]
  | @line content rest _ ih =>
    show finish ⟨depth, false⟩ rest = ⟨depth, atStart && false⟩
    rw [ih, Bool.false_and, Bool.and_false]
  | @scope header body rest _ _ ihbody ih =>
    -- the body starts one level deeper, and the closing brace leads back
    have hscope : finish ⟨depth, atStart⟩ (Layout.scope header body) = ⟨depth, false⟩ := by
      show finish ⟨depth + 1, true⟩ (body ++ [.closeScope]) = _
      rw [finish_append, ihbody]
      rfl
    rw [finish_append, hscope, ih, Bool.false_and]
    show _ = (⟨depth, atStart && false⟩ : Cursor)
    rw [Bool.and_false]
  | @separator rest _ hrow ih =>
    show finish ⟨depth, atStart⟩ rest = ⟨depth, atStart && false⟩
    rw [ih]
    -- a row follows, so the rest is not empty
    cases hrow <;> rfl

end Balanced

/-! ### Rows -/

theorem rows_item (cursor : Cursor) (body : Layout) :
    rows cursor (item body) = Step.separator.rows cursor ++ rows cursor body :=
  rfl

/-- A part of a layout writes its own rows, from the cursor where it is reached. -/
theorem exists_rows_append (cursor : Cursor) (first part rest : Layout) :
    ∃ front inside behind,
      rows cursor (first ++ (part ++ rest)) = front ++ (rows inside part ++ rows behind rest) :=
  ⟨_, _, _, by rw [rows_append, rows_append]⟩

/-- A scope writes its header and its braces around what stands inside. -/
theorem rows_scope (header : String) {body : Layout} (h : Balanced body) :
    rows ⟨depth, atStart⟩ (scope header body) =
      .text depth header :: .text depth "\x7b" ::
        (rows ⟨depth + 1, true⟩ body ++ [.text depth "\x7d"]) := by
  show _ :: _ :: rows ⟨depth + 1, true⟩ (body ++ [.closeScope]) = _
  rw [rows_append, h.finish_eq]
  rfl

theorem rows_map_line {α : Type} (items : List α) (content : α → String) :
    rows ⟨depth, atStart⟩ (items.map fun item => .line (content item)) =
      items.map fun item => .text depth (content item) := by
  induction items generalizing atStart with
  | nil => rfl
  | cons item items ih => exact congrArg (_ :: ·) ih

/-- The rows of a scope with lines inside; without any, the scope is left out. -/
def scopeRows (depth : Nat) (header : String) (contents : List String) : List Row :=
  if contents = [] then []
  else
    .text depth header :: .text depth "\x7b" ::
      (contents.map (Row.text (depth + 1)) ++ [.text depth "\x7d"])

theorem rows_scope_lines {α : Type} (header : String) {items : List α} (h : items ≠ [])
    (content : α → String) :
    rows ⟨depth, atStart⟩ (scope header (items.map fun item => .line (content item))) =
      scopeRows depth header (items.map content) := by
  rw [rows_scope _ (.map_line _ _), rows_map_line, scopeRows, if_neg (by simpa using h),
    List.map_map]
  rfl

/-- Behind something else, balanced layouts write one after the other what each of them writes. -/
theorem rows_flatMap {α : Type} {items : List α} {layout : α → Layout}
    (h : ∀ item ∈ items, Balanced (layout item)) :
    rows ⟨depth, false⟩ (items.flatMap layout) =
      items.flatMap fun item => rows ⟨depth, false⟩ (layout item) := by
  induction items with
  | nil => rfl
  | cons item items ih =>
    obtain ⟨hitem, hitems⟩ := List.forall_mem_cons.mp h
    rw [List.flatMap_cons, rows_append, hitem.finish_eq, Bool.false_and, ih hitems,
      List.flatMap_cons]

/-! ### Texts -/

theorem renderFrom_append (cursor : Cursor) (first second : Layout) :
    renderFrom cursor (first ++ second) =
      renderFrom cursor first ++ renderFrom (first.finish cursor) second := by
  apply String.toList_inj.mp
  rw [String.toList_append]
  exact chars_append cursor first second

/-- What is set apart has a line feed in front, except at the start of a scope. -/
theorem renderFrom_item (depth : Nat) (atStart : Bool) (body : Layout) :
    renderFrom ⟨depth, atStart⟩ (item body) =
      (if atStart then "" else "\n") ++ renderFrom ⟨depth, atStart⟩ body := by
  cases atStart with
  | true => exact String.empty_append.symm
  | false =>
    apply String.toList_inj.mp
    rw [String.toList_append]
    exact chars_separator body

/-- A first row is written in the same way at the start of a scope and behind other rows. -/
theorem StartsWithRow.renderFrom_eq {layout : Layout} (h : StartsWithRow layout) (depth : Nat)
    (atStart : Bool) : renderFrom ⟨depth, atStart⟩ layout = renderFrom ⟨depth, true⟩ layout := by
  cases h <;> rfl

theorem StartsWithRow.renderFrom_ne_empty {layout : Layout} (h : StartsWithRow layout) :
    renderFrom ⟨depth, atStart⟩ layout ≠ "" := by
  intro hempty
  have hchars : chars ⟨depth, atStart⟩ layout = [] := congrArg String.toList hempty
  have hpos (content : String) := length_row_pos depth content
  cases h with
  | line content rest =>
    rw [chars_line, List.append_eq_nil_iff] at hchars
    exact absurd (hpos content) (by simp [hchars.1])
  | openScope header rest =>
    rw [chars_openScope, List.append_eq_nil_iff] at hchars
    exact absurd (hpos header) (by simp [hchars.1])

/-! ### Blocks -/

/-- Nothing, or a balanced layout that is set apart from what stands before it. -/
inductive IsBlock : Layout → Prop where
  | nil : IsBlock []
  | item {body : Layout} (hbody : Balanced body) (hrow : StartsWithRow body) : IsBlock (item body)

namespace IsBlock

theorem balanced {layout : Layout} (h : IsBlock layout) : Balanced layout := by
  cases h with
  | nil => exact .nil
  | item hbody hrow => exact .separator hbody hrow

/-- One scope that is set apart. -/
theorem item_scope (header : String) {body : Layout} (h : Balanced body) :
    IsBlock (Layout.item (scope header body)) :=
  .item (.whole_scope header h) (startsWithRow_scope header body)

/-- What follows a block belongs to the same item. -/
theorem append {first second : Layout} (hfirst : IsBlock first) (hsecond : IsBlock second) :
    IsBlock (first ++ second) := by
  cases hfirst with
  | nil => exact hsecond
  | item hbody hrow => exact .item (hbody.append hsecond.balanced) (hrow.append second)

theorem flatMap {α : Type} {items : List α} {layout : α → Layout}
    (h : ∀ item ∈ items, IsBlock (layout item)) : IsBlock (items.flatMap layout) := by
  induction items with
  | nil => exact .nil
  | cons item items ih =>
    obtain ⟨hitem, hitems⟩ := List.forall_mem_cons.mp h
    exact hitem.append (ih hitems)

end IsBlock

/-! ### Blocks one after the other -/

/-- What layouts write by themselves at the start of a scope; those that write nothing are left
out. -/
def texts (depth : Nat) (layouts : List Layout) : List String :=
  (layouts.map (renderFrom { depth })).filter (· ≠ "")

theorem intercalate_cons (separator first : String) (others : List String) :
    separator.intercalate (first :: others) =
      first ++ ((if others = [] then "" else separator) ++ separator.intercalate others) := by
  cases others with
  | nil => simp
  | cons next others =>
    rw [String.intercalate_cons_of_ne_nil (List.cons_ne_nil _ _), if_neg (List.cons_ne_nil _ _),
      String.append_assoc]

/-- **Blocks compose.**  One after the other they write the texts that they write alone, with one
line feed between two of them; behind something else, there is one in front as well. -/
theorem renderFrom_flatten {layouts : List Layout} (h : ∀ layout ∈ layouts, IsBlock layout) :
    renderFrom ⟨depth, atStart⟩ layouts.flatten =
      (if atStart ∨ texts depth layouts = [] then "" else "\n") ++
        "\n".intercalate (texts depth layouts) := by
  -- the flag is general: it is cleared by the first block that writes
  induction layouts generalizing atStart with
  | nil => simp [texts, renderFrom, rows, renderRows]
  | cons layout layouts ih =>
    obtain ⟨hlayout, hlayouts⟩ := List.forall_mem_cons.mp h
    cases hlayout with
    | nil => exact ih hlayouts
    | @item body hbody hrow =>
      have htexts : texts depth (item body :: layouts) =
          renderFrom ⟨depth, true⟩ body :: texts depth layouts := by
        have halone : renderFrom { depth } (item body) = renderFrom ⟨depth, true⟩ body := rfl
        rw [texts, List.map_cons, halone, List.filter_cons_of_pos]
        · rfl
        · simp [hrow.renderFrom_ne_empty]
      have hfinish : finish ⟨depth, atStart⟩ (item body) = ⟨depth, false⟩ := by
        rw [(IsBlock.item hbody hrow).balanced.finish_eq]
        exact congrArg _ (Bool.and_false _)
      rw [List.flatten_cons, renderFrom_append, renderFrom_item, hrow.renderFrom_eq,
        hfinish, ih hlayouts, htexts, intercalate_cons]
      simp [String.append_assoc]

end NativeBindings.Source.Layout
