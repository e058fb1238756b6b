/-
NativeBindings/Proofs/Binding/Commands.lean

Sessions in which a text is written by single steps, file headers, and the code of structs, in any
order.  Commands that never go back behind the depth where they start write one text from every
depth, up to the blanks in front of its rows (`Command.run_eq_of_levelAfter`): a file header opens
nothing, and a block is balanced, so both come back to their level.  The source of a struct is
written in this way (`NativeStruct.compile_eq_taken`).

What is pending may be taken between two commands.  Taking moves no cursor, so the pieces and what
is left add up to the text that is pending otherwise,

    String.join session.taken ++ session.draft.pending = draft.pending,

and every action keeps this (`Session.Shows.write`, `Session.Shows.take`).
-/
import NativeBindings.Proofs.Binding.BlockComposition
import NativeBindings.Proofs.Source.Drafts

namespace NativeBindings

open Source

/-- What a session writes at once. -/
inductive Command where
  | single (step : Step)
  | fileHeader (nameSpace : String)
  | code (struct : NativeStruct) (block : Block)

namespace Command

variable (config : Configuration) (table : AddressTable)

/-- The steps of a command. -/
def layout : Command → Layout
  | .single step => [step]
  | .fileHeader nameSpace => Layout.fileHeader nameSpace
  | .code struct block => block.layout config table struct

/-- The steps of commands one after the other. -/
def layouts (commands : List Command) : Layout := commands.flatMap (layout config table)

/-- Carry out a command. -/
def apply (draft : Draft) (command : Command) : Draft :=
  draft.write (command.layout config table)

/-- Carry out commands one after the other. -/
def run (draft : Draft) (commands : List Command) : Draft :=
  commands.foldl (apply config table) draft

/-- The level that a command leads to, if it does not go back behind the start. -/
def levelAfter (level : Nat) : Command → Option Nat
  | .single step => step.levelAfter level
  | .fileHeader _ => some level
  | .code _ _ => some level

variable {config table}

theorem layout_levelAfter {command : Command} {level level' : Nat}
    (h : command.levelAfter level = some level') :
    (command.layout config table).foldlM Step.levelAfter level = some level' := by
  cases command with
  | single step =>
    rw [layout, List.foldlM_cons]
    exact Option.bind_eq_some_iff.mpr ⟨level', h, rfl⟩
  | fileHeader nameSpace =>
    cases h
    rw [layout, Layout.fileHeader]
    split <;> rfl
  | code struct block =>
    cases h
    exact (Block.isBlock_layout config table struct block).balanced.levelAfter level

theorem layouts_levelAfter {commands : List Command} {level level' : Nat}
    (h : commands.foldlM levelAfter level = some level') :
    (layouts config table commands).foldlM Step.levelAfter level = some level' := by
  induction commands generalizing level with
  | nil => exact h
  | cons command rest ih =>
    obtain ⟨between, hcommand, hrest⟩ := Option.bind_eq_some_iff.mp h
    rw [layouts, List.flatMap_cons, List.foldlM_append]
    exact Option.bind_eq_some_iff.mpr ⟨between, layout_levelAfter hcommand, ih hrest⟩

/-- Commands write the layouts that they stand for. -/
theorem run_eq_write (draft : Draft) (commands : List Command) :
    run config table draft commands = draft.write (layouts config table commands) := by
  rw [run, Draft.write, layouts, List.foldl_flatMap]
  rfl

/-- Commands that stay at or above their start reach one level from every depth, and write one text
there, with a margin in front of each row that is as wide as they stand deeper. -/
theorem run_eq_of_levelAfter {commands : List Command} {level : Nat}
    (h : commands.foldlM levelAfter 0 = some level) (depth more : Nat) (atStart : Bool)
    (pending pending' : String) :
    let rows := (layouts config table commands).rows ⟨depth, atStart⟩
    ∃ atStart',
      run config table ⟨⟨depth, atStart⟩, pending⟩ commands =
        ⟨⟨depth + level, atStart'⟩, pending ++ String.join (rows.map Row.render)⟩ ∧
      run config table ⟨⟨depth + more, atStart⟩, pending'⟩ commands =
        ⟨⟨depth + level + more, atStart'⟩,
          pending' ++ String.join (rows.map fun row => row.margin more ++ row.render)⟩ := by
  intro rows
  have hlevel : (layouts config table commands).foldlM Step.levelAfter 0 = some level :=
    layouts_levelAfter h
  -- the flag is that of the steps, whatever the depth
  obtain ⟨atStart', hfinish⟩ := Layout.exists_finish_eq hlevel atStart
  refine ⟨atStart', ?_, ?_⟩
  · rw [run_eq_write, Draft.write_eq]
    exact congrArg (Draft.mk · _) (hfinish depth)
  · have hdeeper := Layout.renderFrom_deeper hlevel depth more atStart
    have hcursor : (layouts config table commands).finish ⟨depth + more, atStart⟩ =
        ⟨depth + level + more, atStart'⟩ := by
      rw [Nat.add_right_comm depth level more]
      exact hfinish (depth + more)
    rw [run_eq_write, Draft.write_eq]
    exact congrArg₂ Draft.mk hcursor (congrArg (pending' ++ ·) hdeeper)

end Command

/-! ### The commands of a struct -/

/-- The commands that write the source of a struct. -/
def NativeStruct.commands (struct : NativeStruct) : List Command :=
  [.fileHeader struct.nameSpace] ++ struct.openings.map .single ++
    Block.all.map (.code struct) ++ struct.closings.map .single

namespace Command

variable (config : Configuration) (table : AddressTable)

theorem layouts_append (first second : List Command) :
    layouts config table (first ++ second) =
      layouts config table first ++ layouts config table second :=
  List.flatMap_append

/-- Steps can be taken one by one. -/
theorem layouts_single (layout : Layout) : layouts config table (layout.map .single) = layout := by
  rw [layouts, List.flatMap_map]
  exact List.flatMap_singleton' layout

theorem layouts_code (struct : NativeStruct) :
    layouts config table (Block.all.map (.code struct)) = struct.blocks config table :=
  List.flatMap_map _ _ Block.all

theorem layouts_commands (struct : NativeStruct) :
    layouts config table struct.commands = struct.sourceLayout config table := by
  have hheader : layouts config table [.fileHeader struct.nameSpace] =
      Layout.fileHeader struct.nameSpace := List.append_nil _
  rw [NativeStruct.commands, layouts_append, layouts_append, layouts_append, hheader,
    layouts_single, layouts_code, layouts_single]
  rfl

end Command

/-- **The source of a struct is what is taken at the end of its commands.** -/
theorem NativeStruct.compile_eq_taken (config : Configuration) (struct : NativeStruct) :
    struct.compile config = (AddressTable.encode struct).map fun table =>
      (Command.run config table {} struct.commands).take.1 := by
  have hrun (table : AddressTable) :
      (Command.run config table {} struct.commands).take.1 =
        (struct.sourceLayout config table).render := by
    rw [Command.run_eq_write, Command.layouts_commands, Draft.write_eq]
    exact String.empty_append
  simp only [hrun]
  rfl

/-! ### Sessions -/

/-- A command, or taking what is pending. -/
inductive Action where
  | write (command : Command)
  | take

/-- The command of an action. -/
def Action.command? : Action → Option Command
  | .write command => some command
  | .take => none

/-- A draft, and what has been taken of it. -/
structure Session where
  draft : Draft := {}
  taken : List String := []

namespace Session

/-- Carry out one action. -/
def act (config : Configuration) (table : AddressTable) (session : Session) : Action → Session
  | .write command => { session with draft := command.apply config table session.draft }
  | .take =>
      { draft := session.draft.take.2
        taken := session.taken ++ [session.draft.take.1] }

/-- Carry out actions one after the other. -/
def run (config : Configuration) (table : AddressTable) (session : Session)
    (actions : List Action) : Session :=
  actions.foldl (act config table) session

/-- A session shows a draft if it stands at the same place, and what has been taken and what is
pending add up to what is pending in the draft. -/
structure Shows (session : Session) (draft : Draft) : Prop where
  cursor : session.draft.cursor = draft.cursor
  text : String.join session.taken ++ session.draft.pending = draft.pending

variable {config : Configuration} {table : AddressTable} {session : Session} {draft : Draft}

/-- A command adds the same text to both, since it does not look at what is pending. -/
theorem Shows.write (h : session.Shows draft) (command : Command) :
    (session.act config table (.write command)).Shows (command.apply config table draft) := by
  have hsession := session.draft.write_eq (command.layout config table)
  have hdraft := draft.write_eq (command.layout config table)
  constructor
  · show (session.draft.write _).cursor = (draft.write _).cursor
    rw [hsession, hdraft, h.cursor]
  · show String.join session.taken ++ (session.draft.write _).pending = (draft.write _).pending
    rw [hsession, hdraft, h.cursor, ← h.text, String.append_assoc]

/-- Taking moves what is pending to what has been taken. -/
theorem Shows.take (h : session.Shows draft) : (session.act config table .take).Shows draft := by
  constructor
  · exact h.cursor
  · show String.join (session.taken ++ [session.draft.pending]) ++ "" = draft.pending
    rw [← h.text]
    simp

theorem Shows.run (h : session.Shows draft) (actions : List Action) :
    (session.run config table actions).Shows
      (Command.run config table draft (actions.filterMap Action.command?)) := by
  -- the draft is general, since each command moves both on
  induction actions generalizing session draft with
  | nil => exact h
  | cons action rest ih =>
    cases action with
    | write command => exact ih (h.write command)
    | take => exact ih h.take

/-- **Text is written at any depth, and taken in any pieces.**  Commands that never go back behind
their start reach the same level, and leave the same flag, wherever they start.  From deeper on, each
row of text has four more blanks in front for each level more, and a blank row has none.  What is
taken between the commands, and at their end, makes the text that is taken at the end alone. -/
theorem deeper_and_in_pieces (config : Configuration) (table : AddressTable) :
    (∀ (commands : List Command) (level : Nat), commands.foldlM Command.levelAfter 0 = some level →
      ∀ (depth more : Nat) (atStart : Bool) (pending pending' : String),
        let rows := (Command.layouts config table commands).rows ⟨depth, atStart⟩
        ∃ atStart',
          Command.run config table ⟨⟨depth, atStart⟩, pending⟩ commands =
            ⟨⟨depth + level, atStart'⟩, pending ++ String.join (rows.map Row.render)⟩ ∧
          Command.run config table ⟨⟨depth + more, atStart⟩, pending'⟩ commands =
            ⟨⟨depth + level + more, atStart'⟩,
              pending' ++ String.join (rows.map fun row => row.margin more ++ row.render)⟩) ∧
    ∀ (actions : List Action) (draft : Draft),
      let session := run config table { draft } actions
      let whole := Command.run config table draft (actions.filterMap Action.command?)
      String.join (session.taken ++ [session.draft.take.1]) = whole.take.1 ∧
        session.draft.cursor = whole.cursor := by
  refine ⟨fun commands level h => Command.run_eq_of_levelAfter h, fun actions draft => ?_⟩
  have hstart : Shows { draft } draft := ⟨rfl, String.empty_append⟩
  have hshows : (run config table { draft } actions).Shows
      (Command.run config table draft (actions.filterMap Action.command?)) := hstart.run actions
  refine ⟨Eq.trans ?_ hshows.text, hshows.cursor⟩
  simp [Draft.take]

/-- A class of delegates inside another class, and the same one level deeper and behind a comment,
where the first half is taken before the second half is written. -/
theorem deeper_and_in_pieces_delegates :
    let function : MemberFunction :=
      { method := .ofStatic "Beep" "void", signature := { pattern := "E8" } }
    let struct : NativeStruct := { name := "Foo", memberFunctions := [function] }
    let first : List Command := [.single (.openScope "class A"), .code struct .delegates]
    let second : List Command :=
      [.single .newline, .single .separator, .single (.line "int x;"), .single .closeScope]
    let written (depth : Nat) (pending : String) :=
      (Command.run {} {} ⟨⟨depth, true⟩, pending⟩ (first ++ second)).pending
    let session := run {} {} { draft := ⟨⟨1, true⟩, "// A\n"⟩ }
      (first.map .write ++ .take :: second.map .write)
    (first ++ second).foldlM Command.levelAfter 0 = some 0 ∧
      written 0 "" =
        "class A\n\x7b\n    public static class Delegates\n    \x7b\n" ++
          "        public delegate void Beep();\n    \x7d\n\n\n    int x;\n\x7d\n" ∧
      written 1 "// A\n" =
        "// A\n    class A\n    \x7b\n        public static class Delegates\n        \x7b\n" ++
          "            public delegate void Beep();\n        \x7d\n\n\n        int x;\n    \x7d\n" ∧
      String.join (session.taken ++ [session.draft.pending]) = written 1 "// A\n" := by
  intro function struct first second written session
  have hlevel : (first ++ second).foldlM Command.levelAfter 0 = some 0 := rfl
  obtain ⟨htexts, hpieces⟩ := deeper_and_in_pieces {} {}
  obtain ⟨atStart', hfirst, hsecond⟩ := htexts (first ++ second) 0 hlevel 0 1 true "" "// A\n"
  refine ⟨hlevel, ?_, ?_, ?_⟩
  · exact (congrArg Draft.pending hfirst).trans (by rfl)
  · exact (congrArg Draft.pending hsecond).trans (by rfl)
  · exact (hpieces _ _).1

end Session

end NativeBindings
