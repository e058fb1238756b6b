/-
NativeBindings/Proofs/Batch/RegistrationReading.lean

Reading the registration source.  The reader takes the whole text apart, so nothing stands in it
besides the rows it names: two methods, each with one call of the resolver on a row.  Of a source
that was made for structs of single lines it returns the arguments of the calls, the record paths,
once for each method (`readRegistration_registrationSource`).
-/
import NativeBindings.Proofs.NativeStruct.Strings
import NativeBindings.Proofs.Source.Rendering

namespace NativeBindings

open Source Text

/-! ### The reader -/

/-- What stands before the argument in a call of the resolver. -/
def callStart (config : Configuration) (call : String) : String :=
  config.runtimeType "Resolver" ++ ".GetInstance." ++ call ++ "("

/-- Read the row of a call of the resolver, and return the argument. -/
def readCall (config : Configuration) (call : String) (text : List Char) :
    Option (String × List Char) := do
  let text ← expect (indented 2 (callStart config call)) text
  let (line, text) ← splitLine 0 text
  let argument ← dropEnding ");" line
  return (String.ofList argument, text)

/-- Read a method that calls the resolver, and return the arguments of its calls. -/
def readResolverMethod (config : Configuration) (name call : String) (text : List Char) :
    Option (List String × List Char) := do
  let text ← expect (row 1 ("public static void " ++ name ++ "()")) text
  let text ← expect (row 1 "\x7b") text
  let (arguments, text) := readMany (fun _ => readCall config call) 0 text
  let text ← expect (row 1 "\x7d") text
  return (arguments, text)

/-- Read a registration source, and return the arguments of its calls, those of the first method and
those of the second. -/
def readRegistration (config : Configuration) (source : String) :
    Option (List String × List String) := do
  let text ← expect (headerText config.generatedNamespace) source.toList
  let text ← expect (row 0 "public static class Addresses") text
  let text ← expect (row 0 "\x7b") text
  let (registered, text) ← readResolverMethod config "Register" "RegisterAddress" text
  let text ← expect "\n" text
  let (unregistered, text) ← readResolverMethod config "Unregister" "UnregisterAddress" text
  let text ← expect (row 0 "\x7d") text
  if text = [] then some (registered, unregistered) else none

/-! ### What is read -/

variable {config : Configuration} {call name : String} {paths : List String}

/-- The row of a call of the resolver. -/
def callRow (config : Configuration) (call path : String) : String :=
  row 2 (callStart config call ++ path ++ ");")

theorem readCall_append {path : String} (h : SingleLine path) (rest : List Char) :
    readCall config call ((callRow config call path).toList ++ rest) = some (path, rest) := by
  have hcontent : (callStart config call ++ path ++ ");").toList ++ '\n' :: rest =
      (callStart config call).toList ++ ((path.toList ++ ");".toList) ++ '\n' :: rest) := by
    rw [String.toList_append, String.toList_append, List.append_assoc, List.append_assoc,
      List.append_assoc]
  -- the argument ends with the row, less the bracket and the semicolon
  have hline : '\n' ∉ path.toList ++ ");".toList := by
    rw [← String.toList_append]
    exact lacks_append.mpr ⟨h, by decide⟩
  have hstart : expect (indented 2 (callStart config call))
      ((callRow config call path).toList ++ rest) =
      some ((path.toList ++ ");".toList) ++ '\n' :: rest) := by
    rw [callRow, expect_indented_row, hcontent, expect_append]
  unfold readCall
  simp only [hstart, splitLine_zero_append hline, dropEnding_append, Option.bind_eq_bind,
    Option.bind_some, String.ofList_toList]
  rfl

/-- The calls end where the closing brace stands, which is less indented. -/
theorem readCall_closing (rest : List Char) :
    readCall config call ((row 1 "\x7d").toList ++ rest) = none := by
  rw [readCall, expect_indented_closing (by decide)]
  rfl

theorem readMany_calls (h : ∀ path ∈ paths, SingleLine path) (rest : List Char) :
    readMany (fun _ => readCall config call) 0
      (paths.flatMap (fun path => (callRow config call path).toList) ++
        ((row 1 "\x7d").toList ++ rest)) = (paths, (row 1 "\x7d").toList ++ rest) := by
  rw [← writeMany_const _ 0, readMany_append id]
  · rw [readMany_of_none _ (readCall_closing rest), List.map_id, List.append_nil]
  · intro _ path
    exact length_row_pos _ _
  · intro path hpath _ rest
    exact readCall_append (h path hpath) rest

/-- The characters of a method that makes a call of the resolver for each path. -/
def resolverMethodChars (config : Configuration) (name call : String) (paths : List String) :
    List Char :=
  (row 1 ("public static void " ++ name ++ "()")).toList ++ ((row 1 "\x7b").toList ++
    (paths.flatMap (fun path => (callRow config call path).toList) ++ (row 1 "\x7d").toList))

theorem readResolverMethod_append (h : ∀ path ∈ paths, SingleLine path) (rest : List Char) :
    readResolverMethod config name call (resolverMethodChars config name call paths ++ rest) =
      some (paths, rest) := by
  simp only [readResolverMethod, resolverMethodChars, List.append_assoc, expect_append,
    Option.bind_eq_bind, Option.bind_some, readMany_calls h]
  rfl

theorem chars_scope_resolverMethod (atStart : Bool) (rest : Layout) :
    Layout.chars ⟨1, atStart⟩ ((resolverMethod config name call paths).tail ++ rest) =
      resolverMethodChars config name call paths ++ Layout.chars ⟨1, false⟩ rest := by
  let content := fun path =>
    config.runtimeType "Resolver" ++ ".GetInstance." ++ call ++ "(" ++ path ++ ");"
  have hscope : Layout.chars ⟨1, atStart⟩ _ = _ :=
    Layout.chars_scope_lines ("public static void " ++ name ++ "()") (paths.map content) rest
  rw [List.map_map, List.flatMap_map] at hscope
  simp only [resolverMethodChars, List.append_assoc]
  exact hscope

/-- The first method follows the brace directly. -/
theorem chars_resolverMethod_start (rest : Layout) :
    Layout.chars ⟨1, true⟩ (resolverMethod config name call paths ++ rest) =
      resolverMethodChars config name call paths ++ Layout.chars ⟨1, false⟩ rest :=
  (Layout.chars_separator_start _).trans (chars_scope_resolverMethod true rest)

/-- Another method is set apart. -/
theorem chars_resolverMethod (rest : Layout) :
    Layout.chars ⟨1, false⟩ (resolverMethod config name call paths ++ rest) =
      '\n' :: (resolverMethodChars config name call paths ++ Layout.chars ⟨1, false⟩ rest) :=
  (Layout.chars_separator _).trans (congrArg _ (chars_scope_resolverMethod false rest))

/-- Between the file header and the end stand the two methods. -/
theorem toList_registrationSource (structs : List NativeStruct) (config : Configuration) :
    (registrationSource structs config).toList =
      (headerText config.generatedNamespace).toList ++
        ((row 0 "public static class Addresses").toList ++ ((row 0 "\x7b").toList ++
          (resolverMethodChars config "Register" "RegisterAddress" (recordPaths structs) ++
            '\n' :: (resolverMethodChars config "Unregister" "UnregisterAddress"
              (recordPaths structs) ++ (row 0 "\x7d").toList)))) := by
  unfold registrationSource
  simp only [Layout.toList_render, Layout.item, Layout.scope, List.cons_append, List.append_assoc,
    Layout.chars_fileHeader, Layout.chars_openScope, Nat.zero_add, chars_resolverMethod_start,
    chars_resolverMethod, Layout.chars_closeScope, Layout.chars_nil, List.append_nil]

/-- **What is registered is unregistered**, in the same order, and nothing else is called. -/
theorem readRegistration_registrationSource {structs : List NativeStruct}
    (h : ∀ struct ∈ structs, struct.IsSingleLine) :
    readRegistration config (registrationSource structs config) =
      some (recordPaths structs, recordPaths structs) := by
  have hpaths : ∀ path ∈ recordPaths structs, SingleLine path := by
    intro path hpath
    obtain ⟨struct, hstruct, hpath⟩ := List.mem_flatMap.mp hpath
    exact (h struct hstruct).recordPath hpath
  have hblank (rest : List Char) : expect "\n" ('\n' :: rest) = some rest := expect_append "\n" rest
  have hend : expect (row 0 "\x7d") (row 0 "\x7d").toList = some [] := by
    simpa using expect_append (row 0 "\x7d") []
  simp only [readRegistration, toList_registrationSource, expect_append, Option.bind_eq_bind,
    Option.bind_some, readResolverMethod_append hpaths, hblank, hend]
  rfl

end NativeBindings
