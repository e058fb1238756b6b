/-
NativeBindings/Proofs/CommandLine/GenerateArguments.lean

The arguments of `generate`.  They are accepted if they are cut, from left to right, into items with
one input among them, and of each flag the last item counts:

    arguments = item₁ ++ … ++ itemₙ,  one input  ⟷  ofArguments arguments = .ok options

(`ofArguments_eq_ok_iff`).  The value of a flag is whatever stands behind it, a flag or not.  What
comes last among the items of one flag does not depend on where the other items stand, so the options
do not either (`Reordered.isMadeOf`), nor does the configuration of the run, in which a setting is the
last value of its flag, else that of the configuration document, else the default.
-/
import NativeBindings.Proofs.CommandLine.Running
import NativeBindings.Proofs.CommandLine.Splitting
import NativeBindings.Proofs.Json.RecordFields

namespace NativeBindings

open Files Json Text

/-! ### Items -/

namespace GenerateOptions

/-- Arguments that spell an item. -/
inductive SpellsItem : List String → Item → Prop where
  /-- An argument that does not begin like a flag. -/
  | input {path : String} (h : path.toList.head? ≠ some '-') : SpellsItem [path] (.input path)
  | output {flag : String} (hflag : flag = "-o" ∨ flag = "--output") (path : String) :
      SpellsItem [flag, path] (.output path)
  | config (path : String) : SpellsItem ["--config", path] (.config path)
  /-- Four or eight, as a number of 32 bits. -/
  | pointerSize {value : String} {size : UInt32}
      (hvalue : naturalBelow? UInt32.size value = some size.toNat) (hsize : size = 4 ∨ size = 8) :
      SpellsItem ["--pointer-size", value] (.pointerSize size)
  | runtimeNamespace (name : String) :
      SpellsItem ["--runtime-namespace", name] (.runtimeNamespace name)
  | generatedNamespace (name : String) :
      SpellsItem ["--generated-namespace", name] (.generatedNamespace name)
  | noParallel : SpellsItem ["--no-parallel"] .noParallel

/-- The flags of `generate`. -/
inductive Flag where
  | output
  | config
  | pointerSize
  | runtimeNamespace
  | generatedNamespace
  | noParallel
deriving DecidableEq

namespace Item

/-- The flag of an item; the input has none. -/
def flag? : Item → Option Flag
  | input _ => none
  | output _ => some .output
  | config _ => some .config
  | pointerSize _ => some .pointerSize
  | runtimeNamespace _ => some .runtimeNamespace
  | generatedNamespace _ => some .generatedNamespace
  | noParallel => some .noParallel

def input? : Item → Option String
  | input path => some path
  | _ => none

def output? : Item → Option String
  | output path => some path
  | _ => none

def config? : Item → Option String
  | config path => some path
  | _ => none

def pointerSize? : Item → Option UInt32
  | pointerSize size => some size
  | _ => none

def runtimeNamespace? : Item → Option String
  | runtimeNamespace name => some name
  | _ => none

def generatedNamespace? : Item → Option String
  | generatedNamespace name => some name
  | _ => none

end Item

/-- The inputs among items. -/
def inputs (items : List Item) : List String := items.filterMap Item.input?

/-- The last value among those that some items have. -/
def last? {α : Type} (value? : Item → Option α) (items : List Item) : Option α :=
  (items.filterMap value?).getLast?

/-- Options that items make: the one input, and of each flag the last value. -/
structure IsMadeOf (items : List Item) (options : GenerateOptions) : Prop where
  input : inputs items = [options.input]
  output : options.output = (last? Item.output? items).getD "."
  config : options.config = last? Item.config? items
  pointerSize : options.pointerSize = last? Item.pointerSize? items
  runtimeNamespace : options.runtimeNamespace = last? Item.runtimeNamespace? items
  generatedNamespace : options.generatedNamespace = last? Item.generatedNamespace? items
  noParallel : options.noParallel = decide (.noParallel ∈ items)

/-- The same items, those of one flag in the same order. -/
structure Reordered (items others : List Item) : Prop where
  perm : items.Perm others
  filter_eq : ∀ flag : Flag, items.filter (·.flag? = some flag) = others.filter (·.flag? = some flag)

/-! ### The item at the front -/

variable {arguments rest : List String} {item : Item} {items others : List Item} {hasInput : Bool}

/-- The item at the front of arguments, and what is behind it. -/
def front? : List String → Option (Item × List String)
  | [] => none
  | argument :: rest =>
      match role argument, rest with
      | .valued read, value :: rest => (read value).toOption.map fun item => (item, rest)
      | .switch item, rest => some (item, rest)
      | .operand, rest => some (.input argument, rest)
      | _, _ => none

theorem readPointerSize_eq_ok_iff {value : String} :
    readPointerSize value = .ok item ↔
      ∃ size : UInt32, (size = 4 ∨ size = 8) ∧
        naturalBelow? UInt32.size value = some size.toNat ∧ item = .pointerSize size := by
  rw [readPointerSize]
  constructor
  · intro h
    split at h
    · rename_i hvalue
      exact ⟨4, .inl rfl, hvalue, (Except.ok.inj h).symm⟩
    · rename_i hvalue
      exact ⟨8, .inr rfl, hvalue, (Except.ok.inj h).symm⟩
    · cases h
  · rintro ⟨size, rfl | rfl, hvalue, rfl⟩
    · rw [hvalue]
      rfl
    · rw [hvalue]
      rfl

theorem role_of_head?_ne {argument : String} (h : argument.toList.head? ≠ some '-') :
    role argument = .operand := by
  have hne (flag : String) (hflag : flag.toList.head? = some '-') : argument ≠ flag := by
    rintro rfl
    exact h hflag
  unfold role
  rw [if_neg (not_or.mpr ⟨hne "-o" rfl, hne "--output" rfl⟩), if_neg (hne "--config" rfl),
    if_neg (hne "--pointer-size" rfl), if_neg (hne "--runtime-namespace" rfl),
    if_neg (hne "--generated-namespace" rfl), if_neg (hne "--no-parallel" rfl), if_neg h]

theorem spellsItem_of_valued {argument value : String} {read : String → Except UsageError Item}
    (hrole : role argument = .valued read) (hread : read value = .ok item) :
    SpellsItem [argument, value] item ∧ item.input? = none := by
  unfold role at hrole
  split_ifs at hrole with houtput hconfig hsize hruntime hgenerated
  all_goals obtain rfl := Role.valued.inj hrole
  · cases hread
    exact ⟨.output houtput value, rfl⟩
  · cases hread
    subst hconfig
    exact ⟨.config value, rfl⟩
  · obtain ⟨size, hwidth, hvalue, rfl⟩ := readPointerSize_eq_ok_iff.mp hread
    subst hsize
    exact ⟨.pointerSize hvalue hwidth, rfl⟩
  · cases hread
    subst hruntime
    exact ⟨.runtimeNamespace value, rfl⟩
  · cases hread
    subst hgenerated
    exact ⟨.generatedNamespace value, rfl⟩

theorem spellsItem_of_switch {argument : String} (hrole : role argument = .switch item) :
    SpellsItem [argument] item ∧ item.input? = none := by
  unfold role at hrole
  split_ifs at hrole with _ _ _ _ _ hparallel
  obtain rfl := Role.switch.inj hrole
  subst hparallel
  exact ⟨.noParallel, rfl⟩

theorem spellsItem_of_operand {argument : String} (hrole : role argument = .operand) :
    SpellsItem [argument] (.input argument) := by
  unfold role at hrole
  split_ifs at hrole with _ _ _ _ _ _ hhead
  exact .input hhead

theorem front?_append {group : List String} (h : SpellsItem group item) (rest : List String) :
    front? (group ++ rest) = some (item, rest) := by
  cases h with
  | input hpath =>
    simp only [List.singleton_append, front?, role_of_head?_ne hpath]
  | output hflag path => rcases hflag with rfl | rfl <;> rfl
  | config path => rfl
  | pointerSize hvalue hsize =>
    show ((readPointerSize _).toOption.map fun item => (item, rest)) = _
    rw [readPointerSize_eq_ok_iff.mpr ⟨_, hsize, hvalue, rfl⟩]
    rfl
  | runtimeNamespace name => rfl
  | generatedNamespace name => rfl
  | noParallel => rfl

theorem isPrefixFree_spellsItem : IsPrefixFree SpellsItem where
  ne_nil := by
    rintro group item h rfl
    cases h
  unique := by
    rintro group other rest otherRest item otherItem h hother heq
    have hfront := front?_append h rest
    rw [heq, front?_append hother otherRest] at hfront
    exact Prod.mk.inj (Option.some.inj hfront.symm)

/-! ### Splitting into items -/

/-- **One item is read**, unless it is a second input. -/
theorem readItems_append {group : List String} (h : SpellsItem group item)
    (hfree : item.input? = none ∨ hasInput = false) (rest : List String) :
    readItems hasInput (group ++ rest) =
      (item :: ·) <$> readItems (hasInput || item.input?.isSome) rest := by
  have hstep {later : Bool} (hlater : later = (hasInput || item.input?.isSome)) :
      (do return item :: (← readItems later rest) : Except UsageError (List Item)) =
        (item :: ·) <$> readItems (hasInput || item.input?.isSome) rest := by
    rw [hlater]
    rcases readItems (hasInput || item.input?.isSome) rest with cause | items <;> rfl
  have hkept (hnone : item.input? = none) : hasInput = (hasInput || item.input?.isSome) := by
    rw [hnone, Option.isSome_none, Bool.or_false]
  cases h with
  | input hpath =>
    obtain rfl := hfree.resolve_left nofun
    simp only [List.singleton_append, readItems, role_of_head?_ne hpath]
    exact hstep rfl
  | output hflag path => rcases hflag with rfl | rfl <;> exact hstep (hkept rfl)
  | config path => exact hstep (hkept rfl)
  | @pointerSize value size hvalue hsize =>
    show (do
      let item ← readPointerSize value
      return item :: (← readItems hasInput rest) : Except UsageError (List Item)) = _
    rw [readPointerSize_eq_ok_iff.mpr ⟨_, hsize, hvalue, rfl⟩]
    exact hstep (hkept rfl)
  | runtimeNamespace name => exact hstep (hkept rfl)
  | generatedNamespace name => exact hstep (hkept rfl)
  | noParallel => exact hstep (hkept rfl)

/-- What is read begins with an item. -/
theorem exists_of_readItems_cons {argument : String}
    (h : readItems hasInput (argument :: arguments) = .ok items) :
    ∃ group item rest others, SpellsItem group item ∧ argument :: arguments = group ++ rest ∧
      (item.input? = none ∨ hasInput = false) ∧
      readItems (hasInput || item.input?.isSome) rest = .ok others ∧ items = item :: others := by
  -- an item that is no input leaves the question open whether there is one
  have hkept {item : Item} {rest : List String} {others : List Item} (hnone : item.input? = none)
      (hothers : readItems hasInput rest = .ok others) :
      (item.input? = none ∨ hasInput = false) ∧
        readItems (hasInput || item.input?.isSome) rest = .ok others := by
    rw [hnone, Option.isSome_none, Bool.or_false]
    exact ⟨.inl rfl, hothers⟩
  rw [readItems.eq_def] at h
  dsimp only at h
  rcases hrole : role argument with read | item | - | -
  · rw [hrole] at h
    rcases arguments with - | ⟨value, rest⟩
    · cases h
    · obtain ⟨item, hread, h⟩ := exists_of_bind_eq_ok h
      obtain ⟨others, hothers, ⟨⟩⟩ := exists_of_bind_eq_ok h
      obtain ⟨hspells, hnone⟩ := spellsItem_of_valued hrole hread
      obtain ⟨hfree, hothers⟩ := hkept hnone hothers
      exact ⟨_, item, rest, others, hspells, rfl, hfree, hothers, rfl⟩
  · rw [hrole] at h
    obtain ⟨others, hothers, ⟨⟩⟩ := exists_of_bind_eq_ok h
    obtain ⟨hspells, hnone⟩ := spellsItem_of_switch hrole
    obtain ⟨hfree, hothers⟩ := hkept hnone hothers
    exact ⟨_, item, arguments, others, hspells, rfl, hfree, hothers, rfl⟩
  · rw [hrole] at h
    cases h
  · rw [hrole] at h
    dsimp only at h
    split at h
    · cases h
    · rename_i hfree
      obtain rfl := (Bool.not_eq_true _).mp hfree
      obtain ⟨others, hothers, ⟨⟩⟩ := exists_of_bind_eq_ok h
      exact ⟨_, _, arguments, others, spellsItem_of_operand hrole, rfl, .inr rfl, hothers, rfl⟩

theorem inputs_cons (item : Item) (items : List Item) :
    inputs (item :: items) = item.input?.toList ++ inputs items := by
  cases item <;> rfl

/-- Whether there is an input, counted, when one more item has been read. -/
theorem toNat_or_isSome (hfree : item.input? = none ∨ hasInput = false) (items : List Item) :
    (hasInput || item.input?.isSome).toNat + (inputs items).length =
      hasInput.toNat + (inputs (item :: items)).length := by
  rw [inputs_cons, List.length_append]
  rcases hfree with hnone | rfl
  · rw [hnone, Option.isSome_none, Bool.or_false, Option.toList_none, List.length_nil, Nat.zero_add]
  · rcases item.input? with - | path
    · exact congrArg (false.toNat + ·) (Nat.zero_add _).symm
    · exact (Nat.zero_add _).symm

/-- **Arguments are read as items if they are split into these**, with one input among what has been
read and them. -/
theorem readItems_eq_ok_iff :
    readItems hasInput arguments = .ok items ↔
      SplitInto SpellsItem arguments items ∧ hasInput.toNat + (inputs items).length = 1 := by
  constructor
  · intro h
    induction items generalizing arguments hasInput with
    | nil =>
      rcases arguments with - | ⟨argument, arguments⟩
      · rcases hasInput with - | -
        · cases h
        · exact ⟨.nil, rfl⟩
      · obtain ⟨_, _, _, _, -, -, -, -, hitems⟩ := exists_of_readItems_cons h
        cases hitems
    | cons item items ih =>
      rcases arguments with - | ⟨argument, arguments⟩
      · rcases hasInput with - | - <;> cases h
      · obtain ⟨group, first, rest, others, hspells, hgroup, hfree, hothers, hitems⟩ :=
          exists_of_readItems_cons h
        obtain ⟨rfl, rfl⟩ := List.cons.inj hitems
        obtain ⟨hsplit, hcount⟩ := ih hothers
        rw [hgroup, ← toNat_or_isSome hfree]
        exact ⟨.cons hspells hsplit, hcount⟩
  · rintro ⟨hsplit, hcount⟩
    induction hsplit generalizing hasInput with
    | nil =>
      rcases hasInput with - | -
      · cases hcount
      · rfl
    | @cons group rest item items hspells hrest ih =>
      have hfree : item.input? = none ∨ hasInput = false := by
        rcases hinput : item.input? with - | path
        · exact .inl rfl
        · rcases hasInput with - | -
          · exact .inr rfl
          · rw [inputs_cons, hinput] at hcount
            simp at hcount
      rw [← toNat_or_isSome hfree] at hcount
      rw [readItems_append hspells hfree, ih hcount]
      rfl

/-! ### The last item of a flag -/

variable {options other : GenerateOptions}

theorem last?_cons {α : Type} (value? : Item → Option α) (item : Item) (items : List Item) :
    last? value? (item :: items) = (last? value? items).or (value? item) := by
  rw [last?, last?, List.filterMap_cons]
  rcases value? item with - | a
  · exact (Option.or_none ..).symm
  · dsimp only
    rw [List.getLast?_cons]
    rcases (items.filterMap value?).getLast? with - | last <;> rfl

/-- **The last item prevails.**  A setting that each item leaves alone or replaces by its value is the
last of these values, if there is one. -/
theorem foldl_set {α : Type} (setting : GenerateOptions → Option α) (value? : Item → Option α)
    (hset : ∀ options item, setting (options.set item) = (value? item).or (setting options))
    (items : List Item) (options : GenerateOptions) :
    setting (items.foldl set options) = (last? value? items).or (setting options) := by
  induction items generalizing options with
  | nil => rfl
  | cons item items ih => rw [List.foldl_cons, ih, hset, last?_cons, Option.or_assoc]

theorem noParallel_foldl_set (items : List Item) (options : GenerateOptions) :
    (items.foldl set options).noParallel =
      (options.noParallel || decide (.noParallel ∈ items)) := by
  induction items generalizing options with
  | nil => exact (Bool.or_false _).symm
  | cons item items ih =>
    rw [List.foldl_cons, ih]
    cases item <;> simp [set]

/-- Items with one input make options. -/
theorem isMadeOf_ofItems (h : (inputs items).length = 1) : IsMadeOf items (ofItems items) where
  input := by
    obtain ⟨path, hpath⟩ := List.length_eq_one_iff.mp h
    have hinput := foldl_set (fun options => some options.input) Item.input?
      (fun _ item => by cases item <;> rfl) items { input := "" }
    have hlast : last? Item.input? items = some path := congrArg List.getLast? hpath
    rw [hlast] at hinput
    rw [hpath, ← Option.some.inj hinput]
    rfl
  output := by
    have houtput := foldl_set (fun options => some options.output) Item.output?
      (fun _ item => by cases item <;> rfl) items { input := "" }
    rw [Option.or_some] at houtput
    exact Option.some.inj houtput
  config := by
    have hconfig := foldl_set config Item.config? (fun _ item => by cases item <;> rfl) items
      { input := "" }
    rwa [Option.or_none] at hconfig
  pointerSize := by
    have hsize := foldl_set pointerSize Item.pointerSize? (fun _ item => by cases item <;> rfl) items
      { input := "" }
    rwa [Option.or_none] at hsize
  runtimeNamespace := by
    have hruntime := foldl_set runtimeNamespace Item.runtimeNamespace?
      (fun _ item => by cases item <;> rfl) items { input := "" }
    rwa [Option.or_none] at hruntime
  generatedNamespace := by
    have hgenerated := foldl_set generatedNamespace Item.generatedNamespace?
      (fun _ item => by cases item <;> rfl) items { input := "" }
    rwa [Option.or_none] at hgenerated
  noParallel := noParallel_foldl_set items { input := "" }

/-- Items make one options. -/
theorem IsMadeOf.unique (h : IsMadeOf items options) (hother : IsMadeOf items other) :
    options = other := by
  have hinput : options.input = other.input :=
    (List.cons.inj (h.input.symm.trans hother.input)).1
  rcases options with ⟨input, output, config, size, runtime, generated, noParallel⟩
  rcases other with ⟨input', output', config', size', runtime', generated', noParallel'⟩
  obtain rfl : input = input' := hinput
  obtain rfl : output = output' := h.output.trans hother.output.symm
  obtain rfl : config = config' := h.config.trans hother.config.symm
  obtain rfl : size = size' := h.pointerSize.trans hother.pointerSize.symm
  obtain rfl : runtime = runtime' := h.runtimeNamespace.trans hother.runtimeNamespace.symm
  obtain rfl : generated = generated' := h.generatedNamespace.trans hother.generatedNamespace.symm
  obtain rfl : noParallel = noParallel' := h.noParallel.trans hother.noParallel.symm
  rfl

/-- **The arguments that are accepted** are those that are split into items with one input among
them. -/
theorem ofArguments_eq_ok_iff :
    ofArguments arguments = .ok options ↔
      ∃ items, SplitInto SpellsItem arguments items ∧ IsMadeOf items options := by
  constructor
  · intro h
    rcases hread : readItems false arguments with cause | items
    · rw [ofArguments, hread] at h
      cases h
    · rw [ofArguments, hread] at h
      cases h
      obtain ⟨hsplit, hcount⟩ := readItems_eq_ok_iff.mp hread
      rw [Bool.toNat_false, Nat.zero_add] at hcount
      exact ⟨items, hsplit, isMadeOf_ofItems hcount⟩
  · rintro ⟨items, hsplit, hmade⟩
    have hcount : (inputs items).length = 1 := congrArg List.length hmade.input
    have hread : readItems false arguments = .ok items :=
      readItems_eq_ok_iff.mpr ⟨hsplit, (Nat.zero_add _).trans hcount⟩
    rw [ofArguments, hread, hmade.unique (isMadeOf_ofItems hcount)]
    rfl

/-- The values of one flag come in the same order. -/
theorem Reordered.last?_eq {α : Type} {value? : Item → Option α} (h : Reordered items others)
    (flag : Flag) (hvalue : ∀ item, item.flag? ≠ some flag → value? item = none) :
    last? value? items = last? value? others := by
  have hkept (items : List Item) :
      (items.filter (·.flag? = some flag)).filterMap value? = items.filterMap value? := by
    rw [List.filterMap_filter]
    refine List.filterMap_congr fun item _ => ?_
    split
    · rfl
    · rename_i hflag
      exact (hvalue item fun heq => hflag (decide_eq_true heq)).symm
  rw [last?, last?, ← hkept, h.filter_eq flag, hkept]

/-- **Items of different flags may change places.** -/
theorem Reordered.isMadeOf (h : Reordered items others) (hmade : IsMadeOf items options) :
    IsMadeOf others options where
  input := by
    have hperm : (inputs items).Perm (inputs others) := h.perm.filterMap _
    rw [hmade.input] at hperm
    exact (List.singleton_perm.mp hperm).symm
  output := by
    rw [hmade.output,
      h.last?_eq .output fun item => by cases item <;> simp [Item.flag?, Item.output?]]
  config := by
    rw [hmade.config,
      h.last?_eq .config fun item => by cases item <;> simp [Item.flag?, Item.config?]]
  pointerSize := by
    rw [hmade.pointerSize,
      h.last?_eq .pointerSize fun item => by cases item <;> simp [Item.flag?, Item.pointerSize?]]
  runtimeNamespace := by
    rw [hmade.runtimeNamespace, h.last?_eq .runtimeNamespace fun item => by
      cases item <;> simp [Item.flag?, Item.runtimeNamespace?]]
  generatedNamespace := by
    rw [hmade.generatedNamespace, h.last?_eq .generatedNamespace fun item => by
      cases item <;> simp [Item.flag?, Item.generatedNamespace?]]
  noParallel := by
    rw [hmade.noParallel]
    exact decide_eq_decide.mpr h.perm.mem_iff

end GenerateOptions

/-! ### The configuration of a run -/

open GenerateOptions

/-- The configuration of a run with some arguments. -/
def configurationFrom {m : Type → Type} [Monad m] (disk : Disk m) (arguments : List String) :
    ExceptT Failure m Configuration := do
  configurationOf disk (← orFail .usage (ofArguments arguments))

/-- Each setting is that of a document, or the default if it has none. -/
structure Configuration.TakenFrom (root : Node) (base : Configuration) : Prop where
  pointerSize : Takes readUInt32 (some 8) (root.field? "pointer_size" 0) base.pointerSize
  runtimeNamespace : Takes readString (some "Interop.Runtime") (root.field? "runtime_namespace" 1)
    base.runtimeNamespace
  generatedNamespace : Takes readString (some "Interop.Generated")
    (root.field? "generated_namespace" 2) base.generatedNamespace
  parallel : Takes readBool (some true) (root.field? "parallel" 3) base.parallel

/-- The settings of the configuration document, if there is one, else the defaults. -/
def IsBase (path? : Option String) (files : FileSystem) (base : Configuration) : Prop :=
  match path? with
  | none => base = {}
  | some path => ∃ text, files.read path = .ok text ∧ Configuration.readDocument text = .ok base ∧
      base.TakenFrom (parse text).root

/-- Each setting is the last value of its flag, or that of the base if there is none. -/
structure GenerateOptions.Overrides (items : List Item) (base config : Configuration) : Prop where
  pointerSize : config.pointerSize = (last? Item.pointerSize? items).getD base.pointerSize
  runtimeNamespace :
    config.runtimeNamespace = (last? Item.runtimeNamespace? items).getD base.runtimeNamespace
  generatedNamespace :
    config.generatedNamespace = (last? Item.generatedNamespace? items).getD base.generatedNamespace
  parallel : config.parallel = if .noParallel ∈ items then false else base.parallel

variable {arguments : List String} {options : GenerateOptions} {items : List Item}
  {files : FileSystem} {base config : Configuration}

theorem Configuration.takenFrom_of_readDocument {text : String}
    (h : readDocument text = .ok base) : base.TakenFrom (parse text).root := by
  obtain ⟨⟨size, runtime, generated, parallel, ⟨⟩⟩, ⟨hsize, hruntime, hgenerated, hparallel, -⟩,
    rfl⟩ := Format.exists_take_of_readDocument (by decide) h
  exact ⟨hsize, hruntime, hgenerated, hparallel⟩

theorem overrides_iff (hmade : IsMadeOf items options) :
    Overrides items base config ↔ config = options.override base := by
  have hparallel : (options.override base).parallel =
      if .noParallel ∈ items then false else base.parallel := by
    rw [override, hmade.noParallel]
    dsimp only
    split
    · rename_i hmem
      rw [decide_eq_true hmem]
      rfl
    · rename_i hmem
      rw [decide_eq_false hmem]
      rfl
  constructor
  · intro h
    rcases config with ⟨size, runtime, generated, parallel⟩
    obtain rfl : size = options.pointerSize.getD base.pointerSize :=
      hmade.pointerSize ▸ h.pointerSize
    obtain rfl : runtime = options.runtimeNamespace.getD base.runtimeNamespace :=
      hmade.runtimeNamespace ▸ h.runtimeNamespace
    obtain rfl : generated = options.generatedNamespace.getD base.generatedNamespace :=
      hmade.generatedNamespace ▸ h.generatedNamespace
    obtain rfl : parallel = (options.override base).parallel := h.parallel.trans hparallel.symm
    rfl
  · rintro rfl
    exact
      { pointerSize := hmade.pointerSize ▸ rfl
        runtimeNamespace := hmade.runtimeNamespace ▸ rfl
        generatedNamespace := hmade.generatedNamespace ▸ rfl
        parallel := hparallel }

/-- **Where the settings of a run come from.** -/
theorem runOn_configurationOf_eq_ok_iff (hmade : IsMadeOf items options) :
    runOn (configurationOf memoryDisk options) files = (.ok config, files) ↔
      ∃ base, IsBase (last? Item.config? items) files base ∧ Overrides items base config := by
  rw [← hmade.config]
  constructor
  · intro h
    obtain ⟨base, rfl, hbase⟩ := exists_of_runOn_configurationOf h
    refine ⟨base, ?_, (overrides_iff hmade).mpr rfl⟩
    rcases hbase with ⟨hnone, rfl⟩ | ⟨path, text, hpath, htext, hdocument⟩
    · rw [hnone]
      rfl
    · rw [hpath]
      exact ⟨text, htext, hdocument, Configuration.takenFrom_of_readDocument hdocument⟩
  · rintro ⟨base, hbase, hoverrides⟩
    obtain rfl := (overrides_iff hmade).mp hoverrides
    rw [configurationOf]
    rcases hpath : options.config with - | path
    · rw [hpath] at hbase
      obtain rfl : base = {} := hbase
      rfl
    · rw [hpath] at hbase
      obtain ⟨text, htext, hdocument, -⟩ := hbase
      have hread : runOn (readFile memoryDisk path) files = (.ok text, files) :=
        runOn_readFile (memoryDisk_read htext)
      rw [runOn_bind_of_ok hread, hdocument]
      rfl

/-- **The arguments of `generate`.**  They are split into items in one way at most, and they are
accepted if they are split with one input among the items.  The options are the input and the last
value of each flag.  Whatever the order of the items is, as long as it stays the same among those of
one flag, the options are the same, and so is the outcome of reading the configuration.  Each of its
settings is the last value of its flag, else that of the configuration document, else the default. -/
theorem GenerateOptions.ofArguments_items (arguments : List String) :
    (∀ items others, SplitInto SpellsItem arguments items → SplitInto SpellsItem arguments others →
      items = others) ∧
    ((∃ options, ofArguments arguments = .ok options) ↔
      ∃ items path, SplitInto SpellsItem arguments items ∧ inputs items = [path]) ∧
    ∀ items options, SplitInto SpellsItem arguments items → ofArguments arguments = .ok options →
      IsMadeOf items options ∧
      (∀ otherArguments others, SplitInto SpellsItem otherArguments others →
        Reordered items others →
        ofArguments otherArguments = .ok options ∧
          ∀ files, runOn (configurationFrom memoryDisk otherArguments) files =
            runOn (configurationFrom memoryDisk arguments) files) ∧
      ∀ files config,
        runOn (configurationFrom memoryDisk arguments) files = (.ok config, files) ↔
          ∃ base, IsBase (last? Item.config? items) files base ∧ Overrides items base config := by
  have hunique : ∀ items others, SplitInto SpellsItem arguments items →
      SplitInto SpellsItem arguments others → items = others :=
    fun items others hsplit hother => hsplit.unique isPrefixFree_spellsItem hother
  refine ⟨hunique, ⟨?_, ?_⟩, ?_⟩
  · rintro ⟨options, hoptions⟩
    obtain ⟨items, hsplit, hmade⟩ := ofArguments_eq_ok_iff.mp hoptions
    exact ⟨items, options.input, hsplit, hmade.input⟩
  · rintro ⟨items, path, hsplit, hpath⟩
    exact ⟨ofItems items,
      ofArguments_eq_ok_iff.mpr ⟨items, hsplit, isMadeOf_ofItems (congrArg List.length hpath)⟩⟩
  · intro items options hsplit hoptions
    obtain ⟨found, hfound, hmade⟩ := ofArguments_eq_ok_iff.mp hoptions
    obtain rfl := hunique _ _ hsplit hfound
    refine ⟨hmade, ?_, ?_⟩
    · intro otherArguments others hother hreordered
      have hsame : ofArguments otherArguments = .ok options :=
        ofArguments_eq_ok_iff.mpr ⟨others, hother, hreordered.isMadeOf hmade⟩
      refine ⟨hsame, fun files => ?_⟩
      rw [configurationFrom, configurationFrom, hsame, hoptions]
    · intro files config
      rw [configurationFrom, hoptions, runOn_bind_of_ok (runOn_orFail_ok _ _ _)]
      exact runOn_configurationOf_eq_ok_iff hmade

/-- A flag may be the value of another one. -/
example : ofArguments ["--config", "--no-parallel", "-o", "a", "b.json", "--output", "-o"] =
    .ok { input := "b.json", output := "-o", config := some "--no-parallel" } := by decide

end NativeBindings
