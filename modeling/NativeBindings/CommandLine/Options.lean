/-
NativeBindings/CommandLine/Options.lean

The options of the two commands.  The arguments of `generate` are split into items: a flag with the
argument behind it, whatever that is, the one flag without value, and a single input.  Of several
items of one kind the last one counts.
-/
import NativeBindings.CommandLine.Failure
import NativeBindings.Configuration.Basic
import NativeBindings.Text.Natural

namespace NativeBindings

open Text

/-! ### Generating -/

/-- The options of `generate`. -/
structure GenerateOptions where
  /-- The descriptor document. -/
  input : String
  /-- The directory for the sources. -/
  output : String := "."
  /-- The configuration document. -/
  config : Option String := none
  pointerSize : Option UInt32 := none
  runtimeNamespace : Option String := none
  generatedNamespace : Option String := none
  noParallel : Bool := false
deriving DecidableEq

namespace GenerateOptions

/-- An item of the arguments of `generate`. -/
inductive Item where
  | input (path : String)
  | output (path : String)
  | config (path : String)
  | pointerSize (size : UInt32)
  | runtimeNamespace (name : String)
  | generatedNamespace (name : String)
  | noParallel
deriving DecidableEq

/-- Read a pointer width: four or eight. -/
def readPointerSize (value : String) : Except UsageError Item :=
  match naturalBelow? UInt32.size value with
  | some 4 => .ok (.pointerSize 4)
  | some 8 => .ok (.pointerSize 8)
  | _ => .error (.invalidPointerSize value)

/-- What an argument is, where an item begins. -/
inductive Role where
  /-- A flag whose value is the next argument. -/
  | valued (read : (value : String) → Except UsageError Item)
  /-- A flag without value. -/
  | switch (item : Item)
  /-- It begins like a flag but is none. -/
  | unknown
  | operand

/-- The role of an argument where an item begins. -/
def role (argument : String) : Role :=
  if argument = "-o" ∨ argument = "--output" then .valued fun value => .ok (.output value)
  else if argument = "--config" then .valued fun value => .ok (.config value)
  else if argument = "--pointer-size" then .valued readPointerSize
  else if argument = "--runtime-namespace" then
    .valued fun value => .ok (.runtimeNamespace value)
  else if argument = "--generated-namespace" then
    .valued fun value => .ok (.generatedNamespace value)
  else if argument = "--no-parallel" then .switch .noParallel
  else if argument.toList.head? = some '-' then .unknown
  else .operand

/-- Split arguments into items, given whether the input has been seen. -/
def readItems (hasInput : Bool) : List String → Except UsageError (List Item)
  | [] => if hasInput then .ok [] else .error .missingInput
  | argument :: rest =>
      match role argument with
      | .valued read =>
          match rest with
          | [] => .error (.missingValue argument)
          | value :: rest => do
              let item ← read value
              return item :: (← readItems hasInput rest)
      | .switch item => do return item :: (← readItems hasInput rest)
      | .unknown => .error (.unknownOption argument)
      | .operand =>
          if hasInput then .error (.unexpectedArgument argument)
          else do return .input argument :: (← readItems true rest)

/-- Set the option that an item names. -/
def set (options : GenerateOptions) : Item → GenerateOptions
  | .input path => { options with input := path }
  | .output path => { options with output := path }
  | .config path => { options with config := some path }
  | .pointerSize size => { options with pointerSize := some size }
  | .runtimeNamespace name => { options with runtimeNamespace := some name }
  | .generatedNamespace name => { options with generatedNamespace := some name }
  | .noParallel => { options with noParallel := true }

/-- The options that items set, the last one of a kind prevailing. -/
def ofItems (items : List Item) : GenerateOptions :=
  items.foldl set { input := "" }

/-- Read the arguments of `generate`. -/
def ofArguments (arguments : List String) : Except UsageError GenerateOptions :=
  ofItems <$> readItems false arguments

/-- A configuration with the settings that the options name in place of its own. -/
def override (options : GenerateOptions) (config : Configuration) : Configuration where
  pointerSize := options.pointerSize.getD config.pointerSize
  runtimeNamespace := options.runtimeNamespace.getD config.runtimeNamespace
  generatedNamespace := options.generatedNamespace.getD config.generatedNamespace
  parallel := !options.noParallel && config.parallel

end GenerateOptions

/-! ### Encoding -/

/-- The options of `encode`. -/
structure EncodeOptions where
  patterns : List String := []
  relocationOffsets : List UInt8 := []
deriving DecidableEq

namespace EncodeOptions

/-- The flag in front of a relocation offset. -/
def relocationFlag : String := "--reloc"

/-- Read a relocation offset. -/
def readOffset (value : String) : Except UsageError UInt8 :=
  match naturalBelow? UInt8.size value with
  | some n => .ok (UInt8.ofNat n)
  | none => .error (.invalidRelocationOffset value)

/-- Split arguments into relocation offsets and parts of the pattern. -/
def readArguments : List String → Except UsageError EncodeOptions
  | [] => .ok {}
  | argument :: rest =>
      if argument = relocationFlag then
        match rest with
        | [] => .error (.missingValue argument)
        | value :: rest => do
            let offset ← readOffset value
            let options ← readArguments rest
            return { options with relocationOffsets := offset :: options.relocationOffsets }
      else do
        let options ← readArguments rest
        return { options with patterns := argument :: options.patterns }

/-- Read the arguments of `encode`; a pattern is needed. -/
def ofArguments (arguments : List String) : Except UsageError EncodeOptions := do
  let options ← readArguments arguments
  if options.patterns.isEmpty then throw .missingPattern
  return options

/-- The pattern: all its parts with a blank between them. -/
def pattern (options : EncodeOptions) : String := " ".intercalate options.patterns

end EncodeOptions

end NativeBindings
