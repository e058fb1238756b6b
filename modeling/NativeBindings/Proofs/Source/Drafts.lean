/-
NativeBindings/Proofs/Source/Drafts.lean

A text in progress, and the same text further to the right.  A draft is written character by
character, by a few operations that move its cursor and add to what is pending; and what is pending
can be taken at any time.  A layout that is written adds the text that it renders to:

    (draft.write layout).pending = draft.pending ++ layout.renderFrom draft.cursor

(`Draft.write_eq`).  Levels are counted from where a layout starts.  A layout that never goes back
behind its start reaches one level from every depth (`Layout.exists_finish_eq`), and from deeper on
it writes the same rows, each of them deeper (`Layout.rows_deeper`).  Balanced layouts come back to
their level (`Balanced.levelAfter`).
-/
import NativeBindings.Proofs.Source.Balance

namespace NativeBindings.Source

open Layout

/-! ### Drafts -/

/-- A text in progress. -/
structure Draft where
  cursor : Cursor := {}
  /-- What has been written and not been taken yet. -/
  pending : String := ""
deriving DecidableEq

namespace Draft

/-- Go one level deeper. -/
def indent (draft : Draft) : Draft :=
  { draft with cursor := { draft.cursor with depth := draft.cursor.depth + 1 } }

/-- Go back one level, but not below zero. -/
def dedent (draft : Draft) : Draft :=
  { draft with cursor := { draft.cursor with depth := draft.cursor.depth - 1 } }

/-- Write a line feed. -/
def newline (draft : Draft) : Draft := { draft with pending := draft.pending.push '\n' }

/-- Write four blanks for each level. -/
def writeBlanks (draft : Draft) : Draft :=
  { draft with
    pending := (List.replicate (draft.cursor.depth * indentWidth) ' ').foldl String.push
      draft.pending }

/-- Write a row of text. -/
def writeLine (draft : Draft) (content : String) : Draft :=
  let blanks := draft.writeBlanks
  { cursor := { draft.cursor with atScopeStart := false }
    pending := (blanks.pending ++ content).push '\n' }

/-- Write a header and an opening brace, and start a scope. -/
def openScope (draft : Draft) (header : String) : Draft :=
  let inside := ((draft.writeLine header).writeLine "\x7b").indent
  { inside with cursor := { inside.cursor with atScopeStart := true } }

/-- Go back one level and write the closing brace. -/
def closeScope (draft : Draft) : Draft := draft.dedent.writeLine "\x7d"

/-- Write a line feed, unless nothing has been written since the scope was opened. -/
def separate (draft : Draft) : Draft :=
  if draft.cursor.atScopeStart then draft else draft.newline

/-- Take one step of a layout. -/
def step (draft : Draft) : Step → Draft
  | .indent => draft.indent
  | .dedent => draft.dedent
  | .line content => draft.writeLine content
  | .newline => draft.newline
  | .separator => draft.separate
  | .openScope header => draft.openScope header
  | .closeScope => draft.closeScope

/-- Take all steps of a layout. -/
def write (draft : Draft) (layout : Layout) : Draft := layout.foldl step draft

/-- Take what is pending. -/
def take (draft : Draft) : String × Draft := (draft.pending, { draft with pending := "" })

/-- Characters that are pushed one after the other are appended. -/
theorem foldl_push (characters : List Char) (text : String) :
    characters.foldl String.push text = text ++ String.ofList characters := by
  induction characters generalizing text with
  | nil => rw [List.foldl_nil, String.ofList_nil, String.append_empty]
  | cons c characters ih =>
    rw [List.foldl_cons, ih]
    apply String.toList_inj.mp
    simp

/-- A row that is written is pending behind the others. -/
theorem writeLine_eq (draft : Draft) (content : String) :
    draft.writeLine content =
      { cursor := { draft.cursor with atScopeStart := false }
        pending := draft.pending ++ (Row.text draft.cursor.depth content).render } := by
  have hpending : ((draft.writeBlanks).pending ++ content).push '\n' =
      draft.pending ++ (Row.text draft.cursor.depth content).render := by
    rw [writeBlanks, foldl_push, Row.render, Nat.mul_comm]
    apply String.toList_inj.mp
    simp
  rw [writeLine, hpending]

/-- A step moves the cursor and adds its rows. -/
theorem step_eq (draft : Draft) (step : Step) :
    draft.step step =
      { cursor := step.next draft.cursor
        pending := draft.pending ++ renderRows (step.rows draft.cursor) } := by
  have hnone : draft.pending ++ renderRows [] = draft.pending := String.append_empty
  have hone (row : Row) : renderRows [row] = row.render := by simp [renderRows]
  cases step with
  | indent =>
    rw [Step.rows, hnone]
    rfl
  | dedent =>
    rw [Step.rows, hnone]
    rfl
  | line content =>
    rw [Step.rows, hone]
    exact draft.writeLine_eq content
  | newline =>
    rw [Step.rows, hone]
    rfl
  | separator =>
    show draft.separate = _
    rw [separate, Step.rows]
    split
    · rw [hnone]
      rfl
    · rw [hone]
      rfl
  | openScope header =>
    show draft.openScope header = _
    rw [openScope, writeLine_eq, writeLine_eq]
    simp [Step.rows, renderRows, String.append_assoc, indent, Step.next]
  | closeScope =>
    rw [Step.rows, hone]
    exact draft.dedent.writeLine_eq "\x7d"

/-- **A draft holds what its layouts render to.** -/
theorem write_eq (draft : Draft) (layout : Layout) :
    draft.write layout =
      { cursor := layout.finish draft.cursor
        pending := draft.pending ++ layout.renderFrom draft.cursor } := by
  induction layout generalizing draft with
  | nil =>
    have hpending : draft.pending ++ renderFrom draft.cursor [] = draft.pending :=
      String.append_empty
    rw [hpending]
    rfl
  | cons step rest ih =>
    have hrest : renderFrom draft.cursor (step :: rest) =
        renderRows (step.rows draft.cursor) ++ renderFrom (step.next draft.cursor) rest := by
      simp [renderFrom, rows, renderRows]
    show (draft.step step).write rest = _
    rw [ih, step_eq, hrest, ← String.append_assoc]
    rfl

end Draft

/-! ### Levels -/

/-- The level that a step leads to, if it does not go back behind the start. -/
def Step.levelAfter : Nat → Step → Option Nat
  | level, .indent => some (level + 1)
  | level, .openScope _ => some (level + 1)
  | 0, .dedent => none
  | 0, .closeScope => none
  | level + 1, .dedent => some level
  | level + 1, .closeScope => some level
  | level, .line _ => some level
  | level, .newline => some level
  | level, .separator => some level

/-- A row that stands deeper; a blank row has no indentation. -/
def Row.deeper (more : Nat) : Row → Row
  | .text depth content => .text (depth + more) content
  | .blank => .blank

/-- The blanks in front of a row that stands deeper. -/
def Row.margin (more : Nat) : Row → String
  | .text _ _ => String.ofList (List.replicate (indentWidth * more) ' ')
  | .blank => ""

theorem Row.render_deeper (more : Nat) (row : Row) :
    (row.deeper more).render = row.margin more ++ row.render := by
  cases row with
  | text depth content =>
    apply String.toList_inj.mp
    simp [deeper, render, margin, Nat.mul_add, Nat.add_comm, ← List.replicate_append_replicate]
  | blank => rfl

variable {step : Step} {level level' : Nat}

/-- A step leads to its level from every depth, and starts the same scopes. -/
theorem Step.exists_next_eq (h : step.levelAfter level = some level') (atStart : Bool) :
    ∃ atStart', ∀ depth,
      step.next ⟨depth + level, atStart⟩ = ⟨depth + level', atStart'⟩ := by
  cases step with
  | indent | openScope header =>
    cases h
    exact ⟨_, fun _ => rfl⟩
  | dedent | closeScope =>
    cases level with
    | zero => cases h
    | succ level =>
      cases h
      exact ⟨_, fun _ => rfl⟩
  | line content | newline | separator =>
    cases h
    exact ⟨_, fun _ => rfl⟩

/-- From deeper on, a step writes the same rows deeper. -/
theorem Step.rows_deeper (h : step.levelAfter level = some level') (depth more : Nat)
    (atStart : Bool) :
    step.rows ⟨depth + more + level, atStart⟩ =
      (step.rows ⟨depth + level, atStart⟩).map (Row.deeper more) := by
  cases step with
  | indent | dedent | newline => rfl
  | line content | openScope header =>
    simp [rows, Row.deeper, Nat.add_right_comm]
  | separator => cases atStart <;> rfl
  | closeScope =>
    cases level with
    | zero => cases h
    | succ level =>
      -- there is a level to go back, so the brace moves with the rest
      have hdepth : depth + more + (level + 1) - 1 = depth + (level + 1) - 1 + more := by omega
      simp [rows, Row.deeper, hdepth]

namespace Layout

variable {layout : Layout}

/-- A layout leads to its level from every depth. -/
theorem exists_finish_eq (h : layout.foldlM Step.levelAfter level = some level')
    (atStart : Bool) :
    ∃ atStart', ∀ depth,
      layout.finish ⟨depth + level, atStart⟩ = ⟨depth + level', atStart'⟩ := by
  -- no step looks at the depth to set the flag, so the flag is found before the depth is given
  induction layout generalizing level atStart with
  | nil =>
    cases h
    exact ⟨atStart, fun _ => rfl⟩
  | cons step rest ih =>
    obtain ⟨between, hstep, hrest⟩ := Option.bind_eq_some_iff.mp h
    obtain ⟨atStart₁, hnext⟩ := Step.exists_next_eq hstep atStart
    obtain ⟨atStart₂, hfinish⟩ := ih hrest atStart₁
    refine ⟨atStart₂, fun depth => ?_⟩
    rw [finish_cons, hnext, hfinish]

/-- **From deeper on, a layout writes the same rows deeper**, as long as it does not go back behind
its start. -/
theorem rows_deeper (h : layout.foldlM Step.levelAfter level = some level') (depth more : Nat)
    (atStart : Bool) :
    layout.rows ⟨depth + more + level, atStart⟩ =
      (layout.rows ⟨depth + level, atStart⟩).map (Row.deeper more) := by
  induction layout generalizing level atStart with
  | nil => rfl
  | cons step rest ih =>
    obtain ⟨between, hstep, hrest⟩ := Option.bind_eq_some_iff.mp h
    obtain ⟨atStart₁, hnext⟩ := Step.exists_next_eq hstep atStart
    rw [rows, rows, hnext, hnext, Step.rows_deeper hstep, ih hrest, List.map_append]

/-- A balanced layout comes back to its level. -/
theorem Balanced.levelAfter (h : Balanced layout) (level : Nat) :
    layout.foldlM Step.levelAfter level = some level := by
  induction h generalizing level with
  | nil => rfl
  | line content _ ih => exact ih level
  | separator _ _ ih => exact ih level
  | @scope header body rest _ _ ihbody ih =>
    -- the body comes back to the level behind the opening brace, and the closing brace below it
    have hscope : (Layout.scope header body).foldlM Step.levelAfter level = some level := by
      show List.foldlM Step.levelAfter (level + 1) (body ++ [.closeScope]) = _
      rw [List.foldlM_append, ihbody]
      rfl
    rw [List.foldlM_append, hscope]
    exact ih level

/-- What a layout writes from deeper on: the same text, with a margin in front of each row. -/
theorem renderFrom_deeper (h : layout.foldlM Step.levelAfter level = some level')
    (depth more : Nat) (atStart : Bool) :
    layout.renderFrom ⟨depth + more + level, atStart⟩ =
      String.join ((layout.rows ⟨depth + level, atStart⟩).map fun row =>
        row.margin more ++ row.render) := by
  rw [renderFrom, rows_deeper h, renderRows, List.map_map]
  refine congrArg String.join (List.map_congr_left fun row _ => ?_)
  exact row.render_deeper more

end Layout

end NativeBindings.Source
