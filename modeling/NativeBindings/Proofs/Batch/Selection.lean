/-
NativeBindings/Proofs/Batch/Selection.lean

What a batch keeps.  A choice is a list of flags, one for each struct, and it is greedy if a flag is
set exactly where the struct can be kept next to those that are kept before it.  There is one greedy
choice (`IsGreedy.unique`), and the loop over a batch makes it (`exists_isGreedy_select`): the loop
carries the taken names, so that what is said of the rest of a batch is said for the names that the
structs before it have taken.  All parts of a batch are then told by the choice alone.
-/
import NativeBindings.Cancellation
import NativeBindings.Proofs.Batch.ArraySizes
import NativeBindings.Proofs.Batch.ArrayTypes
import NativeBindings.Proofs.Binding.AddressTable

namespace NativeBindings.Batch

/-! ### Choices -/

/-- The items whose flag is set, in order. -/
def picked {α : Type} (keep : List Bool) (items : List α) : List α :=
  ((items.zip keep).filter Prod.snd).map Prod.fst

section Picked

variable {α : Type} {item : α} {items : List α} {keep : List Bool}

theorem mem_of_mem_picked (h : item ∈ picked keep items) : item ∈ items := by
  obtain ⟨⟨other, flag⟩, hmem, rfl⟩ := List.mem_map.mp h
  exact (List.of_mem_zip (List.mem_of_mem_filter hmem)).1

/-- What is picked and what is not make up the whole. -/
theorem length_picked_add (h : keep.length = items.length) :
    (picked keep items).length + (picked (keep.map not) items).length = items.length := by
  induction items generalizing keep with
  | nil => rfl
  | cons item items ih =>
    obtain - | ⟨flag, keep⟩ := keep
    · cases h
    have hrest := ih (Nat.succ.inj h)
    cases flag with
    | true =>
      show (picked keep items).length + 1 + (picked (keep.map not) items).length = _
      rw [List.length_cons, ← hrest]
      omega
    | false =>
      show (picked keep items).length + ((picked (keep.map not) items).length + 1) = _
      rw [List.length_cons, ← hrest]
      omega

end Picked

/-- A choice that goes through the structs in order and keeps one exactly if its signatures are well
formed and its file name is neither taken from the start nor that of a struct kept before it. -/
structure IsGreedy (taken : List String) (structs : List NativeStruct) (keep : List Bool) :
    Prop where
  length_eq : keep.length = structs.length
  kept_iff : ∀ (i : Nat) (struct : NativeStruct), structs[i]? = some struct →
    (keep[i]? = some true ↔
      struct.WellFormed ∧ struct.hintName ∉ taken ∧
        ∀ (j : Nat) (earlier : NativeStruct), j < i → structs[j]? = some earlier →
          keep[j]? = some true → earlier.hintName ≠ struct.hintName)

namespace IsGreedy

variable {taken : List String} {structs rest : List NativeStruct} {struct : NativeStruct}
  {keep other : List Bool}

theorem nil : IsGreedy taken [] [] where
  length_eq := rfl
  kept_iff := by
    intro i struct h
    simp at h

/-- A struct that is kept takes its name from those behind it. -/
theorem cons_true (hwell : struct.WellFormed) (hfree : struct.hintName ∉ taken)
    (h : IsGreedy (struct.hintName :: taken) rest keep) :
    IsGreedy taken (struct :: rest) (true :: keep) where
  length_eq := congrArg Nat.succ h.length_eq
  kept_iff := by
    rintro (- | i) current hcurrent
    · obtain rfl := Option.some.inj hcurrent
      refine iff_of_true rfl ⟨hwell, hfree, ?_⟩
      intro j earlier hj
      exact absurd hj (Nat.not_lt_zero j)
    · -- a name that the rest finds taken is the name of the struct in front, or was taken before
      refine (h.kept_iff i current hcurrent).trans ?_
      rw [List.mem_cons, not_or]
      constructor
      · rintro ⟨hcurrentWell, ⟨hne, hnot⟩, hearlier⟩
        refine ⟨hcurrentWell, hnot, ?_⟩
        rintro (- | j) earlier hj hstruct hkeep
        · obtain rfl := Option.some.inj hstruct
          exact Ne.symm hne
        · exact hearlier j earlier (Nat.lt_of_succ_lt_succ hj) hstruct hkeep
      · rintro ⟨hcurrentWell, hnot, hearlier⟩
        refine ⟨hcurrentWell, ⟨?_, hnot⟩, ?_⟩
        · exact Ne.symm (hearlier 0 struct (Nat.succ_pos i) rfl rfl)
        · intro j earlier hj hstruct hkeep
          exact hearlier (j + 1) earlier (Nat.succ_lt_succ hj) hstruct hkeep

/-- A struct that is left out takes no name. -/
theorem cons_false (hnot : ¬(struct.WellFormed ∧ struct.hintName ∉ taken))
    (h : IsGreedy taken rest keep) : IsGreedy taken (struct :: rest) (false :: keep) where
  length_eq := congrArg Nat.succ h.length_eq
  kept_iff := by
    rintro (- | i) current hcurrent
    · obtain rfl := Option.some.inj hcurrent
      refine iff_of_false (by simp) ?_
      rintro ⟨hwell, hfree, -⟩
      exact hnot ⟨hwell, hfree⟩
    · -- the flag in front is not set, so the struct there is in nobody's way
      refine (h.kept_iff i current hcurrent).trans (and_congr_right' (and_congr_right' ?_))
      constructor
      · rintro hearlier (- | j) earlier hj hstruct hkeep
        · cases hkeep
        · exact hearlier j earlier (Nat.lt_of_succ_lt_succ hj) hstruct hkeep
      · intro hearlier j earlier hj hstruct hkeep
        exact hearlier (j + 1) earlier (Nat.succ_lt_succ hj) hstruct hkeep

/-- The flags before an index decide the flag at the index. -/
theorem unique (h : IsGreedy taken structs keep) (hother : IsGreedy taken structs other) :
    keep = other := by
  have hset : ∀ i : Nat, keep[i]? = some true ↔ other[i]? = some true := by
    -- the condition at an index reads only the flags before it
    intro i
    induction i using Nat.strongRecOn with
    | ind i ih =>
      rcases hi : structs[i]? with - | struct
      · have hlength := List.getElem?_eq_none_iff.mp hi
        rw [List.getElem?_eq_none (Nat.le_trans (Nat.le_of_eq h.length_eq) hlength),
          List.getElem?_eq_none (Nat.le_trans (Nat.le_of_eq hother.length_eq) hlength)]
      · rw [h.kept_iff i struct hi, hother.kept_iff i struct hi]
        refine and_congr_right' (and_congr_right' (forall_congr' fun j => ?_))
        refine forall_congr' fun earlier => forall_congr' fun hj => forall_congr' fun _ => ?_
        rw [ih j hj]
  have hlength : keep.length = other.length := h.length_eq.trans hother.length_eq.symm
  refine List.ext_getElem hlength fun i hi hi' => ?_
  have hflag := hset i
  rw [List.getElem?_eq_getElem hi, List.getElem?_eq_getElem hi', Option.some.injEq,
    Option.some.injEq] at hflag
  exact Bool.eq_iff_iff.mpr hflag

end IsGreedy

/-! ### The loop -/

variable {config : Configuration} {taken : List String} {structs rest : List NativeStruct}
  {struct : NativeStruct}

/-- The source of a kept struct. -/
structure IsSourceOf (config : Configuration) (struct : NativeStruct) (artifact : Artifact) :
    Prop where
  hintName_eq : artifact.hintName = struct.hintName
  compiled : struct.compile config = .ok artifact.source

/-- The error of a struct that is left out: its own, or that its file name is taken. -/
inductive IsFaultOf (config : Configuration) (struct : NativeStruct) : GenerationError → Prop where
  | malformed {symbol : String} {cause : Signature.InvalidToken}
      (h : struct.compile config = .error (.malformedSignature symbol cause)) :
      IsFaultOf config struct (.malformedSignature symbol cause)
  | duplicate (h : struct.WellFormed) : IsFaultOf config struct (.duplicateArtifact struct.hintName)

theorem select_cons_of_error {error : GenerationError} (h : struct.compile config = .error error) :
    select config taken (struct :: rest) = (select config taken rest).leaveOut error := by
  rw [select, h]

theorem select_cons_of_mem {source : String} (h : struct.compile config = .ok source)
    (htaken : struct.hintName ∈ taken) :
    select config taken (struct :: rest) =
      (select config taken rest).leaveOut (.duplicateArtifact struct.hintName) := by
  rw [select, h]
  exact if_pos htaken

theorem select_cons_of_not_mem {source : String} (h : struct.compile config = .ok source)
    (hfree : struct.hintName ∉ taken) :
    select config taken (struct :: rest) =
      (select config (struct.hintName :: taken) rest).keep struct source := by
  rw [select, h]
  exact if_neg hfree

/-- The artifact of a kept struct. -/
def keptArtifact (kept : NativeStruct × String) : Artifact :=
  { hintName := kept.1.hintName, source := kept.2 }

/-- **The loop chooses greedily.**  It keeps what the choice picks and has one error for each of the
others. -/
theorem exists_isGreedy_select (config : Configuration) (taken : List String)
    (structs : List NativeStruct) :
    ∃ keep, IsGreedy taken structs keep ∧
      (select config taken structs).kept.map Prod.fst = picked keep structs ∧
      List.Forall₂ (IsSourceOf config) (picked keep structs)
        ((select config taken structs).kept.map keptArtifact) ∧
      List.Forall₂ (IsFaultOf config) (picked (keep.map not) structs)
        (select config taken structs).errors := by
  induction structs generalizing taken with
  | nil => exact ⟨[], IsGreedy.nil, rfl, .nil, .nil⟩
  | cons struct rest ih =>
    rcases hcompile : struct.compile config with error | source
    · obtain ⟨keep, hgreedy, hkept, hsources, herrors⟩ := ih taken
      rw [select_cons_of_error hcompile]
      refine ⟨false :: keep, hgreedy.cons_false ?_, hkept, hsources, .cons ?_ herrors⟩
      · rintro ⟨hwell, -⟩
        obtain ⟨source, hsource⟩ := NativeStruct.exists_compile_eq_ok_iff.mpr hwell
        cases hcompile.symm.trans hsource
      · obtain ⟨named, -, cause, -, rfl⟩ := NativeStruct.exists_of_compile_eq_error hcompile
        exact .malformed hcompile
    · have hwell : struct.WellFormed := NativeStruct.exists_compile_eq_ok_iff.mp ⟨source, hcompile⟩
      rcases Decidable.em (struct.hintName ∈ taken) with htaken | hfree
      · obtain ⟨keep, hgreedy, hkept, hsources, herrors⟩ := ih taken
        rw [select_cons_of_mem hcompile htaken]
        refine ⟨false :: keep, hgreedy.cons_false ?_, hkept, hsources, .cons ?_ herrors⟩
        · rintro ⟨-, hfree⟩
          exact hfree htaken
        · exact .duplicate hwell
      · -- the only case in which the rest of the batch finds one name more taken
        obtain ⟨keep, hgreedy, hkept, hsources, herrors⟩ := ih (struct.hintName :: taken)
        rw [select_cons_of_not_mem hcompile hfree]
        refine ⟨true :: keep, hgreedy.cons_true hwell hfree, ?_, .cons ?_ hsources, herrors⟩
        · exact congrArg (struct :: ·) hkept
        · exact ⟨rfl, hcompile⟩

/-- The names of the kept structs are new, and no two of them are the same. -/
theorem nodup_select (config : Configuration) (structs : List NativeStruct) (h : taken.Nodup) :
    (((select config taken structs).kept.map keptArtifact).map Artifact.hintName ++
      taken).Nodup := by
  induction structs generalizing taken with
  | nil => exact h
  | cons struct rest ih =>
    rcases hcompile : struct.compile config with error | source
    · rw [select_cons_of_error hcompile]
      exact ih h
    · rcases Decidable.em (struct.hintName ∈ taken) with htaken | hfree
      · rw [select_cons_of_mem hcompile htaken]
        exact ih h
      · rw [select_cons_of_not_mem hcompile hfree]
        -- the new name moves from the taken ones to the front
        exact List.perm_middle.nodup_iff.mp (ih (List.nodup_cons.mpr ⟨hfree, h⟩))

/-! ### The batch -/

/-- The two sources of the whole batch do not share a name. -/
theorem nodup_batchHints (config : Configuration) : config.batchHints.Nodup := by
  rw [Configuration.batchHints, List.nodup_cons]
  refine ⟨?_, List.nodup_cons.mpr ⟨List.not_mem_nil, List.nodup_nil⟩⟩
  rw [List.mem_singleton, Configuration.batchHint, Configuration.batchHint]
  intro h
  have hname := String.append_right_inj _ |>.mp (String.append_left_inj _ |>.mp h)
  exact absurd hname (by decide)

/-- No two sources of a batch share a name. -/
theorem nodup_hintName_artifacts (config : Configuration) (structs : List NativeStruct) :
    ((compile config structs).artifacts.map Artifact.hintName).Nodup := by
  have h := nodup_select config structs (nodup_batchHints config)
  rw [artifacts, List.map_append]
  exact h

/-- **Every struct of a batch is accounted for.**  A batch that is not cancelled has a result.  It
is made of the one greedy choice: a source for each struct that is kept, an error for each of the
others, the registration of the kept structs, and one type for each positive length of their arrays,
in ascending order. -/
theorem compileUnless_accounts (config : Configuration) (structs : List NativeStruct) :
    ∃ batch keep, compileUnless false config structs = .ok batch ∧
      IsGreedy config.batchHints structs keep ∧
      (∀ other, IsGreedy config.batchHints structs other → other = keep) ∧
      List.Forall₂ (IsSourceOf config) (picked keep structs) batch.structs ∧
      List.Forall₂ (IsFaultOf config) (picked (keep.map not) structs) batch.errors ∧
      batch.registration =
        { hintName := config.batchHint registrationName
          source := registrationSource (picked keep structs) config } ∧
      (∃ lengths : List UInt32, lengths.Pairwise (· < ·) ∧
        (∀ n, n ∈ lengths ↔ 0 < n ∧ ∃ struct ∈ picked keep structs,
          ∃ array ∈ struct.fixedArrays, array.length = n) ∧
        batch.arrayTypes =
          { hintName := config.batchHint arrayTypesName
            source := bannerText config.generatedNamespace ++ arrayTypesText lengths }) ∧
      batch.structs.length + batch.errors.length = structs.length ∧
      (batch.artifacts.map Artifact.hintName).Nodup := by
  obtain ⟨keep, hgreedy, hkept, hsources, herrors⟩ :=
    exists_isGreedy_select config config.batchHints structs
  refine ⟨compile config structs, keep, rfl, hgreedy, ?_, hsources, herrors, ?_, ?_, ?_, ?_⟩
  · intro other hother
    exact hother.unique hgreedy
  · rw [← hkept]
    rfl
  · refine ⟨_, (ArraySizes.ofStructs (picked keep structs)).ascending,
      fun n => ArraySizes.mem_ofStructs, ?_⟩
    rw [← hkept, ← render_arrayTypes]
    rfl
  · rw [← length_picked_add hgreedy.length_eq, hsources.length_eq, herrors.length_eq]
    rfl
  · exact nodup_hintName_artifacts config structs

end NativeBindings.Batch
