/-
NativeBindings/Proofs/Text/Uppercase.lean

What an upper case can be.  It is never empty, and a character that no mapping leads to stands in no
upper case but its own (`not_mem_uppercase`).  The line feed and the underscore are such characters,
so an upper case starts no new line, and no part of a name that is left without its underscores gets
one.  An ASCII letter can be told from its upper case:

    c lower-case:  uppercase c = [c.toUpper],  c.toUpper.toLower = c
-/
import NativeBindings.Proofs.Text.Digits
import NativeBindings.Text.Uppercase

namespace NativeBindings.Text

theorem eq_toNat_of_ofNat_eq {n : Nat} {c : Char} (hc : c ≠ '\x00') (h : Char.ofNat n = c) :
    n = c.toNat := by
  rcases Decidable.em n.isValidChar with hvalid | hinvalid
  · have hcode : Char.ofNat n = Char.ofNatAux n hvalid := dif_pos hvalid
    exact congrArg Char.toNat (hcode.symm.trans h)
  · -- a number that is no code point stands for the null character
    have hnull : Char.ofNat n = '\x00' := dif_neg hinvalid
    exact absurd (h.symm.trans hnull) hc

theorem mem_of_lookup_eq_some {table : List (Nat × List Nat)} {n : Nat} {codes : List Nat}
    (h : table.lookup n = some codes) : (n, codes) ∈ table := by
  obtain ⟨before, behind, rfl, -⟩ := List.lookup_eq_some_iff.mp h
  exact List.mem_append_right before List.mem_cons_self

/-- A code point that no mapping leads to: it is in no expansion, and behind no run. -/
def IsNoTarget (code : Nat) : Prop :=
  (∀ entry ∈ uppercaseExpansions, code ∉ entry.2) ∧
    ∀ run ∈ uppercaseRuns, code < run.2.2.2 ∨ run.2.2.2 + (run.2.1 - run.1) < code

instance (code : Nat) : Decidable (IsNoTarget code) := inferInstanceAs (Decidable (_ ∧ _))

theorem not_mem_uppercaseCodes {code n : Nat} (hcode : IsNoTarget code) (h : n ≠ code) :
    code ∉ uppercaseCodes n := by
  obtain ⟨hexpansions, hruns⟩ := hcode
  rw [uppercaseCodes]
  split
  · rename_i codes hcodes
    exact hexpansions (n, codes) (mem_of_lookup_eq_some hcodes)
  · split
    · -- a run leads from its target on, as far as it is long
      rename_i first last step target hrun
      have htarget : code < target ∨ target + (last - first) < code :=
        hruns _ (List.mem_of_find?_eq_some hrun)
      have hwithin : first ≤ n ∧ n ≤ last := by
        have hfound := List.find?_some hrun
        simp only [Bool.and_eq_true, decide_eq_true_eq] at hfound
        exact hfound.1
      rw [List.mem_singleton]
      omega
    · rw [List.mem_singleton]
      exact Ne.symm h

/-- A character that no mapping leads to stands in no upper case but its own. -/
theorem not_mem_uppercase {c other : Char} (hnull : c ≠ '\x00') (hc : IsNoTarget c.toNat)
    (h : other ≠ c) : c ∉ uppercase other := by
  intro hmem
  obtain ⟨code, hcode, heq⟩ := List.mem_map.mp hmem
  obtain rfl := eq_toNat_of_ofNat_eq hnull heq
  refine not_mem_uppercaseCodes hc (fun hsame => h ?_) hcode
  rw [← Char.ofNat_toNat other, hsame, Char.ofNat_toNat]

theorem lineFeed_not_mem_uppercase {c : Char} (h : c ≠ '\n') : '\n' ∉ uppercase c :=
  not_mem_uppercase (by decide) (by decide +kernel) h

theorem underscore_not_mem_uppercase {c : Char} (h : c ≠ '_') : '_' ∉ uppercase c :=
  not_mem_uppercase (by decide) (by decide +kernel) h

/-- No character is lost in upper case. -/
theorem uppercase_ne_nil (c : Char) : uppercase c ≠ [] := by
  have hexpansions : ∀ entry ∈ uppercaseExpansions, entry.2 ≠ [] := by decide +kernel
  have hcodes : uppercaseCodes c.toNat ≠ [] := by
    rw [uppercaseCodes]
    split
    · rename_i codes hcodes
      exact hexpansions (c.toNat, codes) (mem_of_lookup_eq_some hcodes)
    · split <;> exact List.cons_ne_nil _ _
  exact fun h => hcodes (List.map_eq_nil_iff.mp h)

theorem toNat_lt_of_isLower {c : Char} (h : c.isLower = true) : c.toNat < 128 := by
  have hle : c.toNat ≤ 'z'.toNat := of_decide_eq_true (Bool.and_eq_true_iff.mp h).2
  have hvalue : 'z'.toNat = 122 := rfl
  omega

/-- A lower-case letter has one upper-case letter, which tells it and is not in lower case. -/
theorem uppercase_of_isLower {c : Char} (h : c.isLower = true) :
    uppercase c = [c.toUpper] ∧ c.toUpper.toLower = c ∧ c.toUpper.isLower = false := by
  have hall : ∀ k : Fin 128, (Char.ofNat k).isLower = true →
      uppercase (Char.ofNat k) = [(Char.ofNat k).toUpper] ∧
        (Char.ofNat k).toUpper.toLower = Char.ofNat k ∧
        (Char.ofNat k).toUpper.isLower = false := by
    decide +kernel
  exact forall_ascii
    (p := fun c => c.isLower = true →
      uppercase c = [c.toUpper] ∧ c.toUpper.toLower = c ∧ c.toUpper.isLower = false)
    hall (toNat_lt_of_isLower h) h

end NativeBindings.Text
