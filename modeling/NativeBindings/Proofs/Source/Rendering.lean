/-
NativeBindings/Proofs/Source/Rendering.lean

The characters of a layout, step by step, and what can be expected at the front of a row.  A row
that closes a scope is told from the rows inside by its indentation (`expect_indented_closing`).
-/
import NativeBindings.Source.Layout
import NativeBindings.Proofs.Source.Reading
import NativeBindings.Proofs.Text.Lines

namespace NativeBindings.Source

open Text

/-! ### Rows -/

/-- Text behind the blanks of a depth. -/
def indented (depth : Nat) (content : String) : String :=
  String.ofList (List.replicate (indentWidth * depth) ' ') ++ content

/-- A row of text with its line feed. -/
def row (depth : Nat) (content : String) : String := indented depth content ++ "\n"

theorem toList_indented (depth : Nat) (content : String) :
    (indented depth content).toList =
      List.replicate (indentWidth * depth) ' ' ++ content.toList := by
  rw [indented, String.toList_append, String.toList_ofList]

theorem row_eq_indented (depth : Nat) (content : String) :
    row depth content = indented depth (content ++ "\n") :=
  String.append_assoc

theorem toList_row (depth : Nat) (content : String) :
    (row depth content).toList = (indented depth content).toList ++ ['\n'] :=
  String.toList_append

@[simp] theorem row_zero (content : String) : row 0 content = content ++ "\n" := by
  rw [row, indented, Nat.mul_zero, List.replicate_zero, String.ofList_nil, String.empty_append]

theorem length_row_pos (depth : Nat) (content : String) :
    0 < (row depth content).toList.length := by
  rw [toList_row, List.length_append]
  exact Nat.succ_pos _

/-- Text that is expected at the depth of a row is expected of its content. -/
theorem expect_indented_row (depth : Nat) (beginning content : String) (rest : List Char) :
    expect (indented depth beginning) ((row depth content).toList ++ rest) =
      expect beginning (content.toList ++ '\n' :: rest) := by
  have hrow : (row depth content).toList ++ rest =
      (String.ofList (List.replicate (indentWidth * depth) ' ')).toList ++
        (content.toList ++ '\n' :: rest) := by
    simp [toList_row, toList_indented]
  rw [hrow, indented, expect_append_append]

/-- What is expected of the start of a row, and found, is the start of its content. -/
theorem exists_of_expect_indented {depth : Nat} {beginning content : String}
    {text rest : List Char} (hline : SingleLine beginning)
    (h : expect (indented depth beginning) ((row depth content).toList ++ text) = some rest) :
    ∃ behind : String, content = beginning ++ behind := by
  rw [expect_indented_row, expect_eq_some_iff, List.append_eq_append_iff] at h
  obtain ⟨behind, hcontent, -⟩ | ⟨reach, hbeginning, hreach⟩ := h
  · refine ⟨String.ofList behind, String.toList_inj.mp ?_⟩
    rw [String.toList_append, String.toList_ofList, hcontent]
  · -- the beginning cannot reach over the line feed
    cases reach with
    | nil =>
      refine ⟨"", String.toList_inj.mp ?_⟩
      rw [String.append_empty, hbeginning, List.append_nil]
    | cons c reach =>
      obtain ⟨rfl, -⟩ := List.cons.inj hreach
      refine absurd ?_ hline
      rw [hbeginning]
      exact List.mem_append_right _ List.mem_cons_self

/-- A row that is expected where another one stands is the same row. -/
theorem eq_of_expect_row {depth : Nat} {content other : String} {text rest : List Char}
    (hcontent : SingleLine content) (hother : SingleLine other)
    (h : expect (row depth content) ((row depth other).toList ++ text) = some rest) :
    content = other := by
  rw [row_eq_indented depth content, expect_indented_row, expect_eq_some_iff,
    String.toList_append, List.append_assoc] at h
  exact String.toList_inj.mp (line_unique hcontent hother h)

/-- A row that starts with another character does not start as expected. -/
theorem expect_indented_row_of_head_ne {depth : Nat} {beginning content : String} {c d : Char}
    (hbeginning : beginning.toList.head? = some c) (hcontent : content.toList.head? = some d)
    (hne : c ≠ d) (text : List Char) :
    expect (indented depth beginning) ((row depth content).toList ++ text) = none := by
  rw [expect_indented_row]
  apply expect_of_head_ne hbeginning _ hne
  rw [List.head?_append, hcontent]
  rfl

/-- Text that is expected deeper than a closing brace stands is not there. -/
theorem expect_indented_closing {depth deeper : Nat} (h : depth < deeper) (beginning : String)
    (behind : List Char) :
    expect (indented deeper beginning) ((row depth "\x7d").toList ++ behind) = none := by
  obtain ⟨more, rfl⟩ : ∃ more, deeper = depth + more + 1 := ⟨deeper - depth - 1, by omega⟩
  rw [Option.eq_none_iff_forall_ne_some]
  intro rest hrest
  have heq := expect_eq_some_iff.mp hrest
  -- the blanks that both have, then a blank against the brace
  have hblanks : indentWidth * (depth + more + 1) =
      indentWidth * depth + (indentWidth * more + 3 + 1) := by
    simp only [indentWidth]
    omega
  have hbrace : "\x7d".toList = ['}'] := rfl
  rw [toList_indented, toList_row, toList_indented, hbrace, hblanks,
    ← List.replicate_append_replicate, List.replicate_succ] at heq
  simp only [List.append_assoc, List.append_cancel_left_eq, List.cons_append] at heq
  exact absurd (List.cons.inj heq).1 (by decide)

/-! ### Layouts -/

namespace Layout

/-- The characters that a layout writes from a cursor on. -/
def chars (cursor : Cursor) (layout : Layout) : List Char := (layout.renderFrom cursor).toList

theorem toList_render (layout : Layout) : layout.render.toList = chars {} layout := rfl

theorem chars_eq_flatMap (cursor : Cursor) (layout : Layout) :
    chars cursor layout = (layout.rows cursor).flatMap fun row => row.render.toList := by
  rw [chars, renderFrom, renderRows, String.toList_join, List.flatMap_map]

@[simp] theorem chars_nil (cursor : Cursor) : chars cursor [] = [] := rfl

theorem chars_cons (cursor : Cursor) (step : Step) (rest : Layout) :
    chars cursor (step :: rest) =
      ((step.rows cursor).flatMap fun row => row.render.toList) ++
        chars (step.next cursor) rest := by
  rw [chars_eq_flatMap, chars_eq_flatMap, rows, List.flatMap_append]

theorem chars_append (cursor : Cursor) (first second : Layout) :
    chars cursor (first ++ second) = chars cursor first ++ chars (first.finish cursor) second := by
  rw [chars_eq_flatMap, chars_eq_flatMap, chars_eq_flatMap, rows_append, List.flatMap_append]

variable {depth : Nat} {atStart : Bool}

@[simp] theorem chars_line (content : String) (rest : Layout) :
    chars ⟨depth, atStart⟩ (.line content :: rest) =
      (row depth content).toList ++ chars ⟨depth, false⟩ rest := by
  rw [chars_cons]
  exact congrArg (· ++ _) (List.append_nil _)

@[simp] theorem chars_newline (rest : Layout) :
    chars ⟨depth, atStart⟩ (.newline :: rest) = '\n' :: chars ⟨depth, atStart⟩ rest :=
  chars_cons _ _ _

@[simp] theorem chars_separator_start (rest : Layout) :
    chars ⟨depth, true⟩ (.separator :: rest) = chars ⟨depth, true⟩ rest :=
  chars_cons _ _ _

@[simp] theorem chars_separator (rest : Layout) :
    chars ⟨depth, false⟩ (.separator :: rest) = '\n' :: chars ⟨depth, false⟩ rest :=
  chars_cons _ _ _

@[simp] theorem chars_openScope (header : String) (rest : Layout) :
    chars ⟨depth, atStart⟩ (.openScope header :: rest) =
      (row depth header).toList ++ ((row depth "\x7b").toList ++ chars ⟨depth + 1, true⟩ rest) := by
  rw [chars_cons, ← List.append_assoc]
  exact congrArg (fun text => _ ++ text ++ _) (List.append_nil _)

@[simp] theorem chars_closeScope (rest : Layout) :
    chars ⟨depth + 1, atStart⟩ (.closeScope :: rest) =
      (row depth "\x7d").toList ++ chars ⟨depth, false⟩ rest := by
  rw [chars_cons]
  exact congrArg (· ++ _) (List.append_nil _)

theorem chars_map_line (contents : List String) :
    chars ⟨depth, atStart⟩ (contents.map Step.line) =
      contents.flatMap fun content => (row depth content).toList := by
  induction contents generalizing atStart with
  | nil => rfl
  | cons content contents ih => rw [List.map_cons, chars_line, ih, List.flatMap_cons]

theorem depth_finish_map_line (cursor : Cursor) (contents : List String) :
    (finish cursor (contents.map Step.line)).depth = cursor.depth := by
  induction contents generalizing cursor with
  | nil => rfl
  | cons content contents ih => exact ih _

/-- A scope with nothing but lines inside. -/
theorem chars_scope_lines (header : String) (contents : List String) (rest : Layout) :
    chars ⟨depth, atStart⟩ (scope header (contents.map Step.line) ++ rest) =
      (row depth header).toList ++ ((row depth "\x7b").toList ++
        (contents.flatMap (fun content => (row (depth + 1) content).toList) ++
          ((row depth "\x7d").toList ++ chars ⟨depth, false⟩ rest))) := by
  rw [scope, List.cons_append, List.cons_append, chars_openScope, List.append_assoc, chars_append,
    chars_map_line, List.singleton_append]
  obtain ⟨depth', atStart', hcursor⟩ : ∃ depth' atStart',
      finish ⟨depth + 1, true⟩ (contents.map Step.line) = ⟨depth', atStart'⟩ := ⟨_, _, rfl⟩
  have hdepth := depth_finish_map_line ⟨depth + 1, true⟩ contents
  rw [hcursor] at hdepth ⊢
  obtain rfl : depth' = depth + 1 := hdepth
  rw [chars_closeScope]

end Layout

/-! ### The file header -/

/-- The text of a file header and of the blank row behind it. -/
def headerText (nameSpace : String) : String :=
  "// <auto-generated/>\n" ++
    (if nameSpace = "" then "" else "\nnamespace " ++ nameSpace ++ ";\n") ++ "\n"

theorem Layout.chars_fileHeader (nameSpace : String) (rest : Layout) :
    chars {} (fileHeader nameSpace ++ .separator :: rest) =
      (headerText nameSpace).toList ++ chars ⟨0, false⟩ rest := by
  unfold fileHeader headerText
  rcases Decidable.em (nameSpace = "") with h | h
  · simp [h]
  · simp [h]

end NativeBindings.Source
