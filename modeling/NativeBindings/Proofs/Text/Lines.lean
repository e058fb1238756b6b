/-
NativeBindings/Proofs/Text/Lines.lean

Lines.  A text is cut at a line feed, and a part of it that is known to hold line feeds of its own
is passed over by their number (`splitLine_append`).
-/
import NativeBindings.Text.Blank

namespace NativeBindings.Text

/-- A text without a character. -/
def Lacks (c : Char) (s : String) : Prop := c ∉ s.toList

instance (c : Char) (s : String) : Decidable (Lacks c s) :=
  inferInstanceAs (Decidable (c ∉ s.toList))

/-- A text without a line feed. -/
abbrev SingleLine (s : String) : Prop := Lacks '\n' s

variable {c : Char}

@[simp] theorem lacks_append {s t : String} : Lacks c (s ++ t) ↔ Lacks c s ∧ Lacks c t := by
  rw [Lacks, String.toList_append, List.mem_append, not_or]
  rfl

theorem lacks_ofList {cs : List Char} : Lacks c (String.ofList cs) ↔ c ∉ cs := by
  rw [Lacks, String.toList_ofList]

theorem Lacks.intercalate {separator : String} {parts : List String}
    (hseparator : Lacks c separator) (hparts : ∀ part ∈ parts, Lacks c part) :
    Lacks c (separator.intercalate parts) := by
  induction parts with
  | nil => exact List.not_mem_nil
  | cons part rest ih =>
    obtain ⟨hpart, hrest⟩ := List.forall_mem_cons.mp hparts
    cases rest with
    | nil =>
      rw [String.intercalate_singleton]
      exact hpart
    | cons next rest =>
      rw [String.intercalate_cons_cons, lacks_append, lacks_append]
      exact ⟨⟨hpart, hseparator⟩, ih hrest⟩

/-! ### Cutting at a line feed -/

/-- The text before a line feed and the text behind it.  A number of line feeds is passed over
first. -/
def splitLine : (passed : Nat) → List Char → Option (List Char × List Char)
  | _, [] => none
  | 0, c :: rest =>
      if c = '\n' then some ([], rest)
      else (splitLine 0 rest).map fun (line, rest) => (c :: line, rest)
  | passed + 1, c :: rest =>
      (splitLine (if c = '\n' then passed else passed + 1) rest).map fun (line, rest) =>
        (c :: line, rest)

theorem splitLine_append (line rest : List Char) :
    splitLine (line.count '\n') (line ++ '\n' :: rest) = some (line, rest) := by
  induction line with
  | nil => rfl
  | cons c line ih =>
    rcases Decidable.em (c = '\n') with rfl | hc
    · -- a line feed of the line itself is passed
      rw [List.count_cons_self, List.cons_append, splitLine, if_pos rfl, ih]
      rfl
    · rw [List.count_cons_of_ne hc, List.cons_append]
      rcases hcount : line.count '\n' with - | passed
      · rw [hcount] at ih
        rw [splitLine, if_neg hc, ih]
        rfl
      · rw [hcount] at ih
        rw [splitLine, if_neg hc, ih]
        rfl

theorem splitLine_zero_append {line : List Char} (h : '\n' ∉ line) (rest : List Char) :
    splitLine 0 (line ++ '\n' :: rest) = some (line, rest) := by
  rw [← splitLine_append line rest, List.count_eq_zero_of_not_mem h]

/-- Two lines at the start of one text are the same line. -/
theorem line_unique {line other rest behind : List Char} (h : '\n' ∉ line) (hother : '\n' ∉ other)
    (heq : line ++ '\n' :: rest = other ++ '\n' :: behind) : line = other := by
  have hsplit := splitLine_zero_append h rest
  rw [heq, splitLine_zero_append hother] at hsplit
  exact (congrArg Prod.fst (Option.some.inj hsplit)).symm

end NativeBindings.Text
