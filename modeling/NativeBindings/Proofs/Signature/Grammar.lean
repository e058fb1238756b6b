/-
NativeBindings/Proofs/Signature/Grammar.lean

The grammar of patterns.  A pattern is cut into maximal runs of characters without white space, and
a token is spelled by a run of its own: `??`, or two hexadecimal digits of either case.  The
tokenizer reads exactly the patterns all of whose runs spell tokens, run by run; any other pattern
is refused for its first run that spells none (`tokenize_runs`).  What is no run does not count, and
neither does the case of a digit (`tokenize_eq_ok_iff_of_map_toLower`).
-/
import NativeBindings.Proofs.Signature.Printing
import Mathlib.Data.List.Forall2

namespace NativeBindings.Signature

open Text

/-! ### The spelling of a token -/

/-- A run of characters that spells a token. -/
inductive SpellsToken : List Char → Token → Prop where
  | wildcard : SpellsToken ['?', '?'] .wildcard
  | byte {high low : Char} {m n : Nat} {value : UInt8} (hhigh : IsHexDigit high m)
      (hlow : IsHexDigit low n) (hvalue : value.toNat = 16 * m + n) :
      SpellsToken [high, low] (.byte value)

/-- Two digits stay below the size of a byte. -/
theorem toNat_ofNat_digits {high low : Char} {m n : Nat} (hhigh : IsHexDigit high m)
    (hlow : IsHexDigit low n) : (UInt8.ofNat (16 * m + n)).toNat = 16 * m + n := by
  have hm := hhigh.lt
  have hn := hlow.lt
  rw [UInt8.toNat_ofNat']
  omega

theorem SpellsToken.ascii {run : List Char} {token : Token} (h : SpellsToken run token) :
    ∀ c ∈ run, c.toNat < 128 := by
  cases h with
  | wildcard =>
    intro c hc
    rcases List.mem_pair.mp hc with rfl | rfl
    · decide
    · decide
  | byte hhigh hlow _ =>
    intro c hc
    rcases List.mem_pair.mp hc with rfl | rfl
    · exact toNat_lt_of_hexValue? (hexValue?_eq_some_iff.mpr hhigh)
    · exact toNat_lt_of_hexValue? (hexValue?_eq_some_iff.mpr hlow)

/-- The runs that spell a token: the wildcard, and all pairs of digits. -/
theorem exists_spellsToken_iff {run : List Char} :
    (∃ token, SpellsToken run token) ↔ run = ['?', '?'] ∨
      ∃ high low m n, run = [high, low] ∧ IsHexDigit high m ∧ IsHexDigit low n := by
  constructor
  · rintro ⟨token, - | ⟨hhigh, hlow, -⟩⟩
    · exact .inl rfl
    · exact .inr ⟨_, _, _, _, rfl, hhigh, hlow⟩
  · rintro (rfl | ⟨high, low, m, n, rfl, hhigh, hlow⟩)
    · exact ⟨_, .wildcard⟩
    · exact ⟨_, .byte hhigh hlow (toNat_ofNat_digits hhigh hlow)⟩

/-- **One word is read as the token that it spells**, and as nothing if it spells none. -/
theorem Token.parse?_eq_some_iff {run : List Char} {token : Token} :
    parse? (String.ofList run) = some token ↔ SpellsToken run token := by
  constructor
  · intro h
    rw [parse?, String.toList_ofList] at h
    split at h
    · obtain rfl := Option.some.inj h
      exact .wildcard
    · rename_i high low _
      obtain ⟨m, hm, h⟩ := Option.bind_eq_some_iff.mp h
      obtain ⟨n, hn, h⟩ := Option.bind_eq_some_iff.mp h
      obtain rfl := Option.some.inj h
      have hhigh := hexValue?_eq_some_iff.mp hm
      have hlow := hexValue?_eq_some_iff.mp hn
      exact .byte hhigh hlow (toNat_ofNat_digits hhigh hlow)
    · cases h
  · intro h
    cases h with
    | wildcard => rfl
    | byte hhigh hlow hvalue =>
      rw [parse?_pair (hexValue?_eq_some_iff.mpr hhigh) (hexValue?_eq_some_iff.mpr hlow),
        ← hvalue, UInt8.ofNat_toNat]

/-! ### The case of digits -/

theorem isHexDigit_toLower {c : Char} {n : Nat} : IsHexDigit c.toLower n ↔ IsHexDigit c n := by
  rw [← hexValue?_eq_some_iff, hexValue?_toLower, hexValue?_eq_some_iff]

theorem toLower_eq_mark_iff {c : Char} : c.toLower = '?' ↔ c = '?' := by
  rcases Nat.lt_or_ge c.toNat 128 with hc | hc
  · exact forall_ascii (p := fun c => c.toLower = '?' ↔ c = '?') (by decide) hc
  · rw [toLower_of_le hc]

theorem exists_pair_of_map_eq {run : List Char} {c d : Char}
    (h : run.map Char.toLower = [c, d]) :
    ∃ high low, run = [high, low] ∧ high.toLower = c ∧ low.toLower = d := by
  obtain ⟨high, rest, rfl, hhigh, hrest⟩ := List.map_eq_cons_iff.mp h
  obtain ⟨low, tail, rfl, hlow, htail⟩ := List.map_eq_cons_iff.mp hrest
  obtain rfl := List.map_eq_nil_iff.mp htail
  exact ⟨high, low, rfl, hhigh, hlow⟩

/-- A run spells the same token in either case. -/
theorem spellsToken_map_toLower {run : List Char} {token : Token} :
    SpellsToken (run.map Char.toLower) token ↔ SpellsToken run token := by
  constructor
  · intro h
    generalize hlowered : run.map Char.toLower = lowered at h
    cases h with
    | wildcard =>
      obtain ⟨high, low, rfl, hhigh, hlow⟩ := exists_pair_of_map_eq hlowered
      obtain rfl := toLower_eq_mark_iff.mp hhigh
      obtain rfl := toLower_eq_mark_iff.mp hlow
      exact .wildcard
    | byte hhigh hlow hvalue =>
      obtain ⟨high, low, rfl, rfl, rfl⟩ := exists_pair_of_map_eq hlowered
      exact .byte (isHexDigit_toLower.mp hhigh) (isHexDigit_toLower.mp hlow) hvalue
  · intro h
    cases h with
    | wildcard => exact .wildcard
    | byte hhigh hlow hvalue =>
      exact .byte (isHexDigit_toLower.mpr hhigh) (isHexDigit_toLower.mpr hlow) hvalue

/-! ### Runs one after the other -/

section Runs

variable {run : List Char} {runs : List (List Char)} {position : Nat} {fault : InvalidToken}
  {token : Token} {tokens : List Token}

/-- The first run that spells no token, with its place behind the runs before it. -/
def IsFirstFault (runs : List (List Char)) (position : Nat) (fault : InvalidToken) : Prop :=
  ∃ good bad rest, runs = good ++ bad :: rest ∧ (∀ run ∈ good, ∃ token, SpellsToken run token) ∧
    (∀ token, ¬ SpellsToken bad token) ∧
    fault = { token := String.ofList bad, position := position + good.length }

/-- A run that spells no token is the fault, whatever follows. -/
theorem isFirstFault_cons_of_not_spells (h : ∀ token, ¬ SpellsToken run token) :
    IsFirstFault (run :: runs) position fault ↔
      fault = { token := String.ofList run, position } := by
  constructor
  · rintro ⟨- | ⟨first, good⟩, bad, rest, hruns, hgood, -, rfl⟩
    · obtain ⟨rfl, -⟩ := List.cons.inj hruns
      rfl
    · obtain ⟨rfl, -⟩ := List.cons.inj hruns
      obtain ⟨token, htoken⟩ := hgood run List.mem_cons_self
      exact absurd htoken (h token)
  · rintro rfl
    exact ⟨[], run, runs, rfl, by simp, h, rfl⟩

/-- Behind a run that spells a token, the fault is one place further on. -/
theorem isFirstFault_cons_of_spells (h : SpellsToken run token) :
    IsFirstFault (run :: runs) position fault ↔ IsFirstFault runs (position + 1) fault := by
  constructor
  · rintro ⟨- | ⟨first, good⟩, bad, rest, hruns, hgood, hbad, rfl⟩
    · obtain ⟨rfl, -⟩ := List.cons.inj hruns
      exact absurd h (hbad token)
    · obtain ⟨-, rfl⟩ := List.cons.inj hruns
      refine ⟨good, bad, rest, rfl, (List.forall_mem_cons.mp hgood).2, hbad, ?_⟩
      rw [List.length_cons, Nat.add_assoc, Nat.add_comm 1]
  · rintro ⟨good, bad, rest, rfl, hgood, hbad, rfl⟩
    refine ⟨run :: good, bad, rest, rfl, List.forall_mem_cons.mpr ⟨⟨token, h⟩, hgood⟩, hbad, ?_⟩
    rw [List.length_cons, Nat.add_assoc, Nat.add_comm 1]

theorem parseWords_cons_of_not_spells (h : ∀ token, ¬ SpellsToken run token) :
    parseWords position ((run :: runs).map String.ofList) =
      .error { token := String.ofList run, position } := by
  have hparse : Token.parse? (String.ofList run) = none := by
    rw [Option.eq_none_iff_forall_ne_some]
    exact fun token htoken => h token (Token.parse?_eq_some_iff.mp htoken)
  rw [List.map_cons, parseWords, hparse]

theorem parseWords_cons_of_spells (h : SpellsToken run token) :
    parseWords position ((run :: runs).map String.ofList) =
      (token :: ·) <$> parseWords (position + 1) (runs.map String.ofList) := by
  rw [List.map_cons, parseWords, Token.parse?_eq_some_iff.mpr h]

/-- A run spells one token at most. -/
theorem SpellsToken.unique {other : Token} (h : SpellsToken run token)
    (hother : SpellsToken run other) : token = other := by
  have hparse := Token.parse?_eq_some_iff.mpr h
  rw [Token.parse?_eq_some_iff.mpr hother] at hparse
  exact (Option.some.inj hparse).symm

/-- The tokens that are read are those that the runs spell. -/
theorem parseWords_eq_ok_iff :
    parseWords position (runs.map String.ofList) = .ok tokens ↔
      List.Forall₂ SpellsToken runs tokens := by
  induction runs generalizing position tokens with
  | nil =>
    rw [List.forall₂_nil_left_iff]
    exact ⟨fun h => (Except.ok.inj h).symm, fun h => h ▸ rfl⟩
  | cons run runs ih =>
    rw [List.forall₂_cons_left_iff]
    by_cases hrun : ∃ token, SpellsToken run token
    · obtain ⟨token, htoken⟩ := hrun
      rw [parseWords_cons_of_spells htoken]
      constructor
      · intro h
        rcases hrest : parseWords (position + 1) (runs.map String.ofList) with fault | others
        · rw [hrest] at h
          cases h
        · rw [hrest] at h
          obtain rfl := Except.ok.inj h
          exact ⟨token, others, htoken, ih.mp hrest, rfl⟩
      · rintro ⟨other, others, hother, hothers, rfl⟩
        rw [ih.mpr hothers, hother.unique htoken]
        rfl
    · rw [parseWords_cons_of_not_spells (not_exists.mp hrun)]
      refine iff_of_false nofun ?_
      rintro ⟨token, _, htoken, -⟩
      exact hrun ⟨token, htoken⟩

/-- The fault that is reported is the first one. -/
theorem parseWords_eq_error_iff :
    parseWords position (runs.map String.ofList) = .error fault ↔
      IsFirstFault runs position fault := by
  induction runs generalizing position with
  | nil =>
    refine iff_of_false nofun ?_
    rintro ⟨good, bad, rest, hruns, -⟩
    simp at hruns
  | cons run runs ih =>
    by_cases hrun : ∃ token, SpellsToken run token
    · obtain ⟨token, htoken⟩ := hrun
      rw [parseWords_cons_of_spells htoken, isFirstFault_cons_of_spells htoken, ← ih]
      rcases parseWords (position + 1) (runs.map String.ofList) with other | others
      · exact Iff.rfl
      · exact iff_of_false nofun nofun
    · rw [parseWords_cons_of_not_spells (not_exists.mp hrun),
        isFirstFault_cons_of_not_spells (not_exists.mp hrun), Except.error.injEq, eq_comm]

end Runs

/-! ### Patterns -/

theorem words_eq_of_hasRuns {pattern : String} {runs : List (List Char)}
    (h : HasRuns pattern.toList runs) : words pattern = runs.map String.ofList := by
  rw [words, h.wordsOf_eq]

theorem exists_spellsToken_of_forall₂ {runs : List (List Char)} {tokens : List Token}
    (h : List.Forall₂ SpellsToken runs tokens) : ∀ run ∈ runs, ∃ token, SpellsToken run token := by
  induction h with
  | nil => simp
  | cons htoken _ ih => exact List.forall_mem_cons.mpr ⟨⟨_, htoken⟩, ih⟩

theorem tokenize_eq_of_hasRuns {pattern : String} {runs : List (List Char)}
    (h : HasRuns pattern.toList runs) :
    tokenize pattern = parseWords 0 (runs.map String.ofList) := by
  rw [tokenize, words_eq_of_hasRuns h]

/-- Patterns whose runs differ in case only are read alike. -/
theorem tokenize_eq_ok_iff_of_map_toLower {pattern other : String} {runs others : List (List Char)}
    (hruns : HasRuns pattern.toList runs) (hothers : HasRuns other.toList others)
    (h : runs.map (List.map Char.toLower) = others.map (List.map Char.toLower))
    (tokens : List Token) : tokenize pattern = .ok tokens ↔ tokenize other = .ok tokens := by
  have hlowered (runs : List (List Char)) :
      List.Forall₂ SpellsToken (runs.map (List.map Char.toLower)) tokens ↔
        List.Forall₂ SpellsToken runs tokens := by
    simp only [List.forall₂_map_left_iff, spellsToken_map_toLower]
  rw [tokenize_eq_of_hasRuns hruns, tokenize_eq_of_hasRuns hothers, parseWords_eq_ok_iff,
    parseWords_eq_ok_iff, ← hlowered, h, hlowered]

/-- **The tokenizer reads its grammar and reports the first fault.**  A pattern has one list of
maximal runs.  It is read exactly if each of them is `??` or two hexadecimal digits, with one token
for each run, in order, and the value of its digits.  Else the report has the text of the leftmost
run that is neither, and its number among the runs.  So white space counts for nothing but to set
runs apart, and a run with a character beyond ASCII is refused. -/
theorem tokenize_runs (pattern : String) :
    ∃ runs, HasRuns pattern.toList runs ∧
      (∀ others, HasRuns pattern.toList others → others = runs) ∧
      ((∃ tokens, tokenize pattern = .ok tokens) ↔
        ∀ run ∈ runs, run = ['?', '?'] ∨
          ∃ high low m n, run = [high, low] ∧ IsHexDigit high m ∧ IsHexDigit low n) ∧
      (∀ tokens, tokenize pattern = .ok tokens ↔ List.Forall₂ SpellsToken runs tokens) ∧
      (∀ fault, tokenize pattern = .error fault ↔
        ∃ good bad rest, runs = good ++ bad :: rest ∧
          (∀ run ∈ good, ∃ token, SpellsToken run token) ∧
          (∀ token, ¬ SpellsToken bad token) ∧
          fault = { token := String.ofList bad, position := good.length }) ∧
      (∀ other : String, HasRuns other.toList runs → tokenize other = tokenize pattern) ∧
      ((∃ run ∈ runs, ∃ c ∈ run, 128 ≤ c.toNat) → ∃ fault, tokenize pattern = .error fault) := by
  have hruns := hasRuns_iff.mpr (rfl : wordsOf pattern.toList = wordsOf pattern.toList)
  have hread := tokenize_eq_of_hasRuns hruns
  have hspelled : (∃ tokens, tokenize pattern = .ok tokens) ↔
      ∀ run ∈ wordsOf pattern.toList, ∃ token, SpellsToken run token := by
    rw [hread]
    constructor
    · rintro ⟨tokens, htokens⟩
      exact exists_spellsToken_of_forall₂ (parseWords_eq_ok_iff.mp htokens)
    · -- a refusal would name a run that spells no token
      intro hall
      rcases hparse : parseWords 0 ((wordsOf pattern.toList).map String.ofList) with
        fault | tokens
      · obtain ⟨good, bad, rest, hcut, -, hbad, -⟩ := parseWords_eq_error_iff.mp hparse
        obtain ⟨token, htoken⟩ := hall bad (hcut ▸ List.mem_append_right good List.mem_cons_self)
        exact absurd htoken (hbad token)
      · exact ⟨tokens, rfl⟩
  refine ⟨wordsOf pattern.toList, hruns, fun others h => h.wordsOf_eq.symm, ?_, ?_, ?_, ?_, ?_⟩
  · rw [hspelled]
    exact forall₂_congr fun run _ => exists_spellsToken_iff
  · intro tokens
    rw [hread]
    exact parseWords_eq_ok_iff
  · intro fault
    rw [hread, parseWords_eq_error_iff]
    simp only [IsFirstFault, Nat.zero_add]
  · intro other hother
    rw [hread, tokenize_eq_of_hasRuns hother]
  · rintro ⟨run, hrun, c, hc, hlarge⟩
    rcases hresult : tokenize pattern with fault | tokens
    · exact ⟨fault, rfl⟩
    · obtain ⟨token, htoken⟩ := hspelled.mp ⟨tokens, hresult⟩ run hrun
      exact absurd (htoken.ascii c hc) (Nat.not_lt.mpr hlarge)

end NativeBindings.Signature
