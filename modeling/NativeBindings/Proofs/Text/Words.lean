/-
NativeBindings/Proofs/Text/Words.lean

White space ends the words before it (`wordsOf_append_cons`).  So texts that are written with one
blank between two of them have the words of each of them (`words_join_blank`), and words written so
are the words of the text (`words_intercalate`), as long as each of them is a word: not empty, and
without white space inside.

Whatever white space stands around them, the words of a text are its maximal runs of other
characters, and no text has two lists of runs (`hasRuns_iff`).
-/
import NativeBindings.Text.Blank
import Mathlib.Data.List.Basic

namespace NativeBindings.Text

/-- One word of a text: some characters, none of which separates words. -/
structure IsWord (cs : List Char) : Prop where
  nonempty : cs ≠ []
  solid : ∀ c ∈ cs, isBlank c = false

/-- What lies between two separators holds none. -/
theorem forall_mem_splitOnP (cs : List Char) :
    ∀ group ∈ cs.splitOnP isBlank, ∀ c ∈ group, isBlank c = false := by
  induction cs with
  | nil => simp [List.splitOnP_nil]
  | cons c cs ih =>
    rw [List.splitOnP_cons_eq_if_modifyHead]
    split
    · exact List.forall_mem_cons.mpr ⟨by simp, ih⟩
    · rename_i hc
      rcases hgroups : cs.splitOnP isBlank with - | ⟨first, groups⟩
      · exact absurd hgroups (List.splitOnP_ne_nil _ _)
      · rw [hgroups] at ih
        obtain ⟨hfirst, hgroups⟩ := List.forall_mem_cons.mp ih
        exact List.forall_mem_cons.mpr
          ⟨List.forall_mem_cons.mpr ⟨Bool.not_eq_true _ ▸ hc, hfirst⟩, hgroups⟩

theorem isWord_of_mem_wordsOf {word cs : List Char} (h : word ∈ wordsOf cs) : IsWord word := by
  obtain ⟨hgroup, hne⟩ := List.mem_filter.mp h
  exact ⟨of_decide_eq_true hne, forall_mem_splitOnP cs word hgroup⟩

theorem wordsOf_nil : wordsOf [] = [] := rfl

/-- A word that ends where the text ends. -/
theorem wordsOf_word {word : List Char} (h : IsWord word) : wordsOf word = [word] := by
  rw [wordsOf, List.splitOnP_eq_singleton h.solid]
  simp [h.nonempty]

/-- White space ends the words before it, whatever stands behind it. -/
theorem wordsOf_append_cons {c : Char} (hc : isBlank c) (cs rest : List Char) :
    wordsOf (cs ++ c :: rest) = wordsOf cs ++ wordsOf rest := by
  rw [wordsOf, List.splitOnP_append_cons cs rest hc, List.filter_append]
  rfl

/-- A word that ends at white space. -/
theorem wordsOf_word_append {word : List Char} (h : IsWord word) {c : Char} (hc : isBlank c)
    (rest : List Char) : wordsOf (word ++ c :: rest) = word :: wordsOf rest := by
  rw [wordsOf_append_cons hc, wordsOf_word h, List.singleton_append]

/-- White space in front belongs to no word. -/
theorem wordsOf_cons_blank {c : Char} (hc : isBlank c) (cs : List Char) :
    wordsOf (c :: cs) = wordsOf cs :=
  wordsOf_append_cons hc [] cs

/-- **Texts with a blank between two of them have the words of each**, also where a text has no word
or more than one. -/
theorem words_join_blank (texts : List String) :
    words (" ".intercalate texts) = texts.flatMap words := by
  induction texts with
  | nil => rfl
  | cons text rest ih =>
    cases rest with
    | nil => rw [String.intercalate_singleton, List.flatMap_singleton]
    | cons next rest =>
      have hchars : (" ".intercalate (text :: next :: rest)).toList =
          text.toList ++ ' ' :: (" ".intercalate (next :: rest)).toList := by
        rw [String.intercalate_cons_cons, String.toList_append, String.toList_append,
          List.append_assoc]
        rfl
      rw [List.flatMap_cons, ← ih, words, hchars, wordsOf_append_cons (by decide), List.map_append]
      rfl

theorem words_intercalate {ws : List String} (h : ∀ word ∈ ws, IsWord word.toList) :
    words (" ".intercalate ws) = ws := by
  have hword : ∀ word ∈ ws, words word = [word] := by
    intro word hmem
    rw [words, wordsOf_word (h word hmem), List.map_singleton, String.ofList_toList]
  rw [words_join_blank, List.flatMap_congr hword, List.flatMap_singleton']

/-! ### Maximal runs -/

/-- A text and its maximal runs of characters without white space, from left to right.  A run
starts where the text starts or behind white space, and ends at white space or where the text
ends. -/
inductive HasRuns : List Char → List (List Char) → Prop where
  | nil : HasRuns [] []
  | blank {c : Char} {cs : List Char} {runs : List (List Char)} (hc : isBlank c)
      (h : HasRuns cs runs) : HasRuns (c :: cs) runs
  | last {run : List Char} (hrun : IsWord run) : HasRuns run [run]
  | next {run : List Char} {c : Char} {cs : List Char} {runs : List (List Char)}
      (hrun : IsWord run) (hc : isBlank c) (h : HasRuns cs runs) :
      HasRuns (run ++ c :: cs) (run :: runs)

theorem HasRuns.wordsOf_eq {cs : List Char} {runs : List (List Char)} (h : HasRuns cs runs) :
    wordsOf cs = runs := by
  induction h with
  | nil => exact wordsOf_nil
  | blank hc _ ih => rw [wordsOf_cons_blank hc, ih]
  | last hrun => exact wordsOf_word hrun
  | next hrun hc _ ih => rw [wordsOf_word_append hrun hc, ih]

/-- The runs of a text are found from left to right, with the start of a run in front. -/
theorem hasRuns_append {front : List Char} (hfront : ∀ c ∈ front, isBlank c = false)
    (cs : List Char) : HasRuns (front ++ cs) (wordsOf (front ++ cs)) := by
  -- a run that has been started is carried along in `front` until white space ends it
  induction cs generalizing front with
  | nil =>
    rw [List.append_nil]
    rcases Decidable.em (front = []) with rfl | hne
    · exact .nil
    · rw [wordsOf_word ⟨hne, hfront⟩]
      exact .last ⟨hne, hfront⟩
  | cons c cs ih =>
    have hrest : HasRuns cs (wordsOf cs) := @ih [] (by simp)
    rcases hc : isBlank c with - | -
    · have hlonger : ∀ d ∈ front ++ [c], isBlank d = false := by
        simpa [or_imp, forall_and, hc] using hfront
      simpa using ih hlonger
    · rcases Decidable.em (front = []) with rfl | hne
      · rw [List.nil_append, wordsOf_cons_blank hc]
        exact .blank hc hrest
      · rw [wordsOf_word_append ⟨hne, hfront⟩ hc]
        exact .next ⟨hne, hfront⟩ hc hrest

/-- **Words are maximal runs.** -/
theorem hasRuns_iff {cs : List Char} {runs : List (List Char)} :
    HasRuns cs runs ↔ wordsOf cs = runs := by
  constructor
  · exact HasRuns.wordsOf_eq
  · rintro rfl
    have hempty : ∀ c ∈ ([] : List Char), isBlank c = false := by simp
    exact hasRuns_append hempty cs

end NativeBindings.Text
