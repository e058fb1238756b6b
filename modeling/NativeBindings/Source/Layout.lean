/-
NativeBindings/Source/Layout.lean

Generated text as a list of layout steps.  A step writes rows and moves a cursor, which knows the
depth of indentation and whether anything has been written since the innermost scope was opened.  A
separator is a blank row, but writes nothing at the start of a scope, so the items of a scope are
set apart and its first item follows the brace directly.

The text depends on the steps and the cursor alone, and it is the concatenation of the texts of its
parts: see `rows_append`.
-/

namespace NativeBindings.Source

/-- A row of generated text. -/
inductive Row where
  /-- Text behind four blanks for each level of depth. -/
  | text (depth : Nat) (content : String)
  | blank
deriving DecidableEq

/-- Blanks per level of depth. -/
def indentWidth : Nat := 4

/-- A row with its line feed. -/
def Row.render : Row → String
  | text depth content =>
      String.ofList (List.replicate (indentWidth * depth) ' ') ++ content ++ "\n"
  | blank => "\n"

/-- The text of rows. -/
def renderRows (rows : List Row) : String :=
  String.join (rows.map Row.render)

/-- One step of a layout. -/
inductive Step where
  | indent
  | dedent
  /-- Write a row of text. -/
  | line (content : String)
  /-- Write a blank row. -/
  | newline
  /-- Set the next item apart from the one before it, unless it is the first of its scope. -/
  | separator
  /-- Write a header and an opening brace, and go one level deeper. -/
  | openScope (header : String)
  /-- Go back one level and write the closing brace. -/
  | closeScope
deriving DecidableEq

/-- Where a layout stands. -/
structure Cursor where
  depth : Nat := 0
  /-- Nothing has been written since the innermost scope was opened. -/
  atScopeStart : Bool := true
deriving DecidableEq

/-- The rows that a step writes. -/
def Step.rows (cursor : Cursor) : Step → List Row
  | indent => []
  | dedent => []
  | line content => [.text cursor.depth content]
  | newline => [.blank]
  | separator => if cursor.atScopeStart then [] else [.blank]
  | openScope header => [.text cursor.depth header, .text cursor.depth "\x7b"]
  | closeScope => [.text (cursor.depth - 1) "\x7d"]

/-- The cursor after a step. -/
def Step.next (cursor : Cursor) : Step → Cursor
  | indent => { cursor with depth := cursor.depth + 1 }
  | dedent => { cursor with depth := cursor.depth - 1 }
  | line _ => { cursor with atScopeStart := false }
  | newline => cursor
  | separator => cursor
  | openScope _ => { depth := cursor.depth + 1, atScopeStart := true }
  | closeScope => { depth := cursor.depth - 1, atScopeStart := false }

/-- A layout. -/
abbrev Layout := List Step

namespace Layout

/-- The cursor after all steps. -/
def finish (cursor : Cursor) (layout : Layout) : Cursor :=
  layout.foldl Step.next cursor

/-- The rows that all steps write. -/
def rows (cursor : Cursor) : Layout → List Row
  | [] => []
  | step :: rest => step.rows cursor ++ rows (step.next cursor) rest

/-- The text that a layout writes from a cursor on. -/
def renderFrom (cursor : Cursor) (layout : Layout) : String :=
  renderRows (layout.rows cursor)

/-- The text of a layout that stands by itself. -/
def render (layout : Layout) : String := layout.renderFrom {}

@[simp] theorem finish_nil (cursor : Cursor) : finish cursor [] = cursor := rfl

@[simp] theorem finish_cons (cursor : Cursor) (step : Step) (rest : Layout) :
    finish cursor (step :: rest) = finish (step.next cursor) rest := rfl

theorem finish_append (cursor : Cursor) (first second : Layout) :
    finish cursor (first ++ second) = finish (finish cursor first) second :=
  List.foldl_append

theorem rows_append (cursor : Cursor) (first second : Layout) :
    rows cursor (first ++ second) = rows cursor first ++ rows (finish cursor first) second := by
  induction first generalizing cursor with
  | nil => rfl
  | cons step rest ih => simp [rows, ih]

/-- A scope around a layout. -/
def scope (header : String) (body : Layout) : Layout :=
  .openScope header :: body ++ [.closeScope]

/-- A layout that is set apart from what stands before it. -/
def item (body : Layout) : Layout :=
  .separator :: body

/-- The marker at the top of a source, and its namespace if it is not the global one. -/
def fileHeader (nameSpace : String) : Layout :=
  .line "// <auto-generated/>" ::
    if nameSpace = "" then [] else [.newline, .line ("namespace " ++ nameSpace ++ ";")]

end Layout

end NativeBindings.Source
