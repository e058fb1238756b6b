/-
NativeBindings/Proofs/CommandLine/PointerWidth.lean

The width of a pointer in a run.  It is that of the flag, that of the configuration document, or the
default.  The flag takes four and eight only, but a document may name any number, so what is known of
the width of a run is

    width = 4  ∨  width = 8  ∨  there is no flag, and the document names the width

(`pointerSize_of_configurationOf`).  The slots of virtual functions lie apart for every width but
zero, and with zero they all lie in one place (`configurationOf_zero_width`).
-/
import NativeBindings.Proofs.Binding.SlotRanges
import NativeBindings.Proofs.CommandLine.GenerateArguments

namespace NativeBindings

open Files Files.FileSystem Json

/-! ### The flag -/

namespace GenerateOptions

/-- **The width that arguments give is four or eight**, for the flag takes no other one. -/
theorem width_of_ofArguments {arguments : List String} {options : GenerateOptions} {size : UInt32}
    (h : ofArguments arguments = .ok options) (hsize : options.pointerSize = some size) :
    size = 4 ∨ size = 8 := by
  obtain ⟨items, hsplit, hmade⟩ := ofArguments_eq_ok_iff.mp h
  have hlast : last? Item.pointerSize? items = some size := hmade.pointerSize.symm.trans hsize
  obtain ⟨item, hitem, hwidth⟩ := List.mem_filterMap.mp (List.mem_of_getLast? hlast)
  obtain ⟨group, hgroup⟩ := hsplit.exists_of_mem hitem
  cases hgroup with
  | pointerSize _ htaken =>
    obtain rfl := Option.some.inj hwidth
    exact htaken
  | _ => cases hwidth

end GenerateOptions

/-! ### The configuration of a run -/

variable {arguments : List String} {options : GenerateOptions} {files after : FileSystem}
  {config : Configuration}

/-- **Where the width of a run comes from.** -/
theorem pointerSize_of_configurationOf (hoptions : GenerateOptions.ofArguments arguments = .ok options)
    (hconfig : runOn (configurationOf memoryDisk options) files = (.ok config, after)) :
    config.pointerSize = 4 ∨ config.pointerSize = 8 ∨
      options.pointerSize = none ∧ ∃ path text document, options.config = some path ∧
        files.read path = .ok text ∧ Configuration.readDocument text = .ok document ∧
        document.pointerSize = config.pointerSize := by
  obtain ⟨base, rfl, hbase⟩ := exists_of_runOn_configurationOf hconfig
  rcases hflag : options.pointerSize with - | size
  · have hsize : (options.override base).pointerSize = base.pointerSize := by
      rw [GenerateOptions.override, hflag]
      rfl
    rcases hbase with ⟨-, rfl⟩ | ⟨path, text, hpath, htext, hdocument⟩
    · exact .inr (.inl hsize)
    · exact .inr (.inr ⟨rfl, path, text, base, hpath, htext, hdocument, hsize.symm⟩)
  · have hsize : (options.override base).pointerSize = size := by
      rw [GenerateOptions.override, hflag]
      rfl
    rw [hsize]
    rcases GenerateOptions.width_of_ofArguments hoptions hflag with hfour | height
    · exact .inl hfour
    · exact .inr (.inl height)

/-- **Slots do not overlap in a run whose pointers have a width.**  The width is four or eight, unless
there is no flag and the configuration document names another one.  If it is not zero, then in the
source of every struct the slots of virtual functions are placed at offsets such that those of
different index have bytes, and none in common. -/
theorem configurationOf_slots (hoptions : GenerateOptions.ofArguments arguments = .ok options)
    (hconfig : runOn (configurationOf memoryDisk options) files = (.ok config, after)) :
    (config.pointerSize = 4 ∨ config.pointerSize = 8 ∨
      options.pointerSize = none ∧ ∃ path text document, options.config = some path ∧
        files.read path = .ok text ∧ Configuration.readDocument text = .ok document ∧
        document.pointerSize = config.pointerSize) ∧
    (config.pointerSize ≠ 0 →
      ∀ struct source, NativeStruct.compile config struct = .ok source →
        struct.virtualFunctions ≠ [] →
        ∃ offset, PlacesSlots struct offset source ∧
          ∀ function ∈ struct.virtualFunctions, ∀ other ∈ struct.virtualFunctions,
            function.index ≠ other.index →
            (slotBytes config.pointerSize (offset function)).Nonempty ∧
              (slotBytes config.pointerSize (offset other)).Nonempty ∧
              Disjoint (slotBytes config.pointerSize (offset function))
                (slotBytes config.pointerSize (offset other))) := by
  refine ⟨pointerSize_of_configurationOf hoptions hconfig, ?_⟩
  intro hwidth struct source hsource hne
  refine ⟨_, placesSlots_compile hsource hne, ?_⟩
  intro function _ other _ hindex
  refine ⟨nonempty_slotBytes hwidth _, nonempty_slotBytes hwidth _, disjoint_slotBytes ?_⟩
  intro heq
  exact hindex (UInt32.toNat_inj.mp heq)

/-- A run with the flag, and a struct with two slots. -/
theorem configurationOf_slots_flag :
    let arguments := ["structs.json", "--pointer-size", "4"]
    let struct : NativeStruct :=
      { name := "A"
        virtualFunctions :=
          [{ method := .ofInstance "First" "void", index := 3 },
            { method := .ofInstance "Second" "int", index := 2 }] }
    ∃ options config, GenerateOptions.ofArguments arguments = .ok options ∧
      runOn (configurationOf memoryDisk options) { entries := [] } =
        (.ok config, { entries := [] }) ∧
      config.pointerSize = 4 ∧
      ∃ source offset, struct.compile config = .ok source ∧ PlacesSlots struct offset source ∧
        ∀ function ∈ struct.virtualFunctions, ∀ other ∈ struct.virtualFunctions,
          function.index ≠ other.index →
          (slotBytes 4 (offset function)).Nonempty ∧ (slotBytes 4 (offset other)).Nonempty ∧
            Disjoint (slotBytes 4 (offset function)) (slotBytes 4 (offset other)) := by
  intro arguments struct
  have hoptions : GenerateOptions.ofArguments arguments =
      .ok { input := "structs.json", pointerSize := some 4 } := by decide
  have hconfig : runOn (configurationOf memoryDisk
      { input := "structs.json", pointerSize := some 4 }) { entries := [] } =
      (.ok { pointerSize := 4 }, { entries := [] }) := rfl
  obtain ⟨source, hsource⟩ : ∃ source, struct.compile { pointerSize := 4 } = .ok source := ⟨_, rfl⟩
  obtain ⟨-, hslots⟩ := configurationOf_slots hoptions hconfig
  obtain ⟨offset, hplaces, hapart⟩ := hslots (by decide) struct source hsource (by decide)
  exact ⟨_, _, hoptions, hconfig, rfl, source, offset, hsource, hplaces, hapart⟩

/-- A configuration document that names the width zero.  The two functions of the struct have slots
of different index at the same offset, and the slots have no bytes. -/
theorem configurationOf_zero_width :
    let arguments := ["structs.json", "--config", "config.json"]
    let files : FileSystem :=
      { entries := [(["config.json"], .file "\x7b\"pointer_size\":0\x7d".toUTF8)] }
    let struct : NativeStruct :=
      { name := "A"
        virtualFunctions :=
          [{ method := .ofInstance "First" "void", index := 0 },
            { method := .ofInstance "Second" "int", index := 1 }] }
    ∃ options config source, GenerateOptions.ofArguments arguments = .ok options ∧
      runOn (configurationOf memoryDisk options) files = (.ok config, files) ∧
      config.pointerSize = 0 ∧ struct.compile config = .ok source ∧
      PlacesSlots struct (fun _ => 0) source ∧ slotBytes config.pointerSize 0 = ∅ := by
  intro arguments files struct
  have hoptions : GenerateOptions.ofArguments arguments =
      .ok { input := "structs.json", config := some "config.json" } := by decide
  have hread : runOn (readFile memoryDisk "config.json") files =
      (.ok "\x7b\"pointer_size\":0\x7d", files) := by
    have htext : files.read "config.json" = .ok "\x7b\"pointer_size\":0\x7d" :=
      read_eq_ok (rfl : files.location? "config.json" = some ["config.json"]) rfl
    exact runOn_readFile (memoryDisk_read htext)
  -- the document is the rendered form of its tree, so its lexemes are known
  have hdocument : Configuration.readDocument "\x7b\"pointer_size\":0\x7d" =
      .ok { pointerSize := 0 } := by
    have hrender : (Json.object [("pointer_size", .number 0)]).render =
        "\x7b\"pointer_size\":0\x7d" := by decide
    rw [← hrender, Configuration.readDocument, Format.readDocument,
      parse_of_spells (spells_render _)]
    rfl
  have hconfig : runOn (configurationOf memoryDisk
      { input := "structs.json", config := some "config.json" }) files =
      (.ok { pointerSize := 0 }, files) := by
    rw [configurationOf, runOn_bind_of_ok hread, hdocument]
    rfl
  obtain ⟨source, hsource⟩ : ∃ source, struct.compile { pointerSize := 0 } = .ok source := ⟨_, rfl⟩
  exact ⟨_, _, source, hoptions, hconfig, rfl, hsource, placesSlots_compile hsource (by decide),
    slotBytes_zero 0⟩

end NativeBindings
