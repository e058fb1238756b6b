/-
NativeBindings/Proofs/Binding/OverloadForms.lean

What the overloads that take strings look like.  With the C strings of a method, those parameters of
type `byte*` that are not ignored, an overload is a method in the syntax of `MethodForm`:

    modifiers type name(parameters, the C strings converted)
        the length, the buffer, the copy and the terminator of each C string
        fixed (byte* the buffer of each C string)
            name(arguments, the pointers of the C strings)

(`IsOverload`, where all these texts are written out).  The parameters and the arguments are chosen
one by one, the statements and the pins from the list of the C strings, and these agree also where
names are repeated.  A struct has two such methods for each overload with a C string, and nothing
else (`stringOverloadBlock_forms`).
-/
import NativeBindings.Proofs.Binding.BlockComposition
import NativeBindings.Proofs.Binding.OverloadNames
import NativeBindings.Proofs.Text.Words

namespace NativeBindings

open Source Source.Layout Text

/-- The parameters that are C strings and are not ignored, in the order of their declaration. -/
def StringOverload.cStrings (overload : StringOverload) : List Parameter :=
  overload.method.parameters.filter fun parameter =>
    parameter.type = "byte*" ∧ parameter.name ∉ overload.ignoredParameters

/-- The modifiers of a method other than `partial`. -/
def Method.otherModifiers (method : Method) : List String :=
  (words method.modifiers).filter (· ≠ "partial")

namespace Block

/-- What stands in the place of `byte*`. -/
def convertedType : ArgumentForm → String
  | .text => "string"
  | .bytes => "global::System.ReadOnlySpan<byte>"

/-- The statements for one C string: its length in bytes, a buffer with a byte more, the copy, and
the terminator behind it. -/
def convertingLines (name : String) : ArgumentForm → List String
  | .text =>
      ["int " ++ name ++ "Length = global::System.Text.Encoding.UTF8.GetByteCount(" ++ name ++ ");",
        "global::System.Span<byte> " ++ name ++ "Bytes = " ++ name ++
          "Length <= 512 ? stackalloc byte[" ++ name ++ "Length + 1] : new byte[" ++ name ++
          "Length + 1];",
        "global::System.Text.Encoding.UTF8.GetBytes(" ++ name ++ ", " ++ name ++ "Bytes);",
        name ++ "Bytes[" ++ name ++ "Length] = 0;"]
  | .bytes =>
      ["int " ++ name ++ "Length = " ++ name ++ ".Length;",
        "global::System.Span<byte> " ++ name ++ "Bytes = " ++ name ++
          "Length <= 512 ? stackalloc byte[" ++ name ++ "Length + 1] : new byte[" ++ name ++
          "Length + 1];",
        name ++ ".CopyTo(" ++ name ++ "Bytes);",
        name ++ "Bytes[" ++ name ++ "Length] = 0;"]

/-- A method that takes the C strings of another one in some form, and calls it. -/
structure IsOverload (overload : StringOverload) (source : ArgumentForm) (form : MethodForm) :
    Prop where
  head : form.head =
    " ".intercalate
      (overload.method.otherModifiers ++ [overload.method.returnType, overload.method.name])
  /-- The types of the C strings are replaced, and no others. -/
  parameters : List.Forall₂
    (fun parameter declaration => declaration.name = parameter.name ∧
      declaration.type =
        if parameter ∈ overload.cStrings then convertedType source else parameter.type)
    overload.method.parameters form.parameters
  /-- The length, the buffer with a byte more, the copy and the terminator of each C string. -/
  statements : form.statements.map Statement.text =
    overload.cStrings.flatMap fun parameter => convertingLines parameter.name source
  pins : form.pins = overload.cStrings.map fun parameter =>
    { pointer := parameter.name ++ "Ptr", buffer := parameter.name ++ "Bytes" }
  /-- All parameters are passed on, the C strings as pointers. -/
  call : ∃ arguments,
    List.Forall₂
      (fun (parameter : Parameter) argument => argument =
        if parameter ∈ overload.cStrings then parameter.name ++ "Ptr" else parameter.name)
      overload.method.parameters arguments ∧
    form.call = (if overload.method.returnType = "void" then "" else "return ") ++
      overload.method.name ++ "(" ++ ", ".intercalate arguments ++ ");"

/-- The overloads of a struct: for each method with a C string the one that takes texts, then the one
that takes bytes. -/
def overloadPairs (struct : NativeStruct) : List (StringOverload × ArgumentForm) :=
  (struct.stringOverloads.filter fun overload => overload.cStrings ≠ []).flatMap fun overload =>
    [(overload, .text), (overload, .bytes)]

/-- The rows of a method whose header stands at a depth. -/
def MethodForm.rows (method : MethodForm) (depth : Nat) : List Row :=
  [.text depth
      (method.head ++ "(" ++ ", ".intercalate (method.parameters.map Declaration.text) ++ ")"),
    .text depth "\x7b"] ++
  (method.statements.map fun statement => .text (depth + 1) statement.text) ++
  [.text (depth + 1) ("fixed (byte* " ++ ", ".intercalate (method.pins.map Pin.text) ++ ")"),
    .text (depth + 1) "\x7b", .text (depth + 2) method.call, .text (depth + 1) "\x7d",
    .text depth "\x7d"]

/-! ### C strings -/

variable (overload : StringOverload) (source : ArgumentForm)

theorem converts_iff (parameter : Parameter) :
    overload.converts parameter ↔
      parameter.type = "byte*" ∧ parameter.name ∉ overload.ignoredParameters := by
  rw [StringOverload.converts, Bool.and_eq_true, decide_eq_true_iff, Bool.not_eq_true',
    ← Bool.not_eq_true, List.contains_iff_mem]
  rfl

/-- The C strings are told one by one. -/
theorem converts_iff_mem {parameter : Parameter} (h : parameter ∈ overload.method.parameters) :
    overload.converts parameter ↔ parameter ∈ overload.cStrings := by
  rw [StringOverload.cStrings, List.mem_filter, decide_eq_true_iff, converts_iff]
  exact (and_iff_right h).symm

/-- The C strings are told from the list of all parameters. -/
theorem stringParameters_eq :
    overload.stringParameters = overload.cStrings.map Parameter.name := by
  rw [StringOverload.stringParameters, StringOverload.cStrings]
  refine congrArg _ (List.filter_congr fun parameter _ => ?_)
  rw [Bool.eq_iff_iff, decide_eq_true_iff, converts_iff]

/-! ### The head -/

theorem ne_empty_of_mem_words {text word : String} (h : word ∈ words text) : word ≠ "" := by
  rintro rfl
  obtain ⟨cs, hcs, hempty⟩ := List.mem_map.mp h
  exact (isWord_of_mem_wordsOf hcs).nonempty (String.ofList_eq_empty_iff.mp hempty)

/-- The modifiers are left out with the blank behind them if there are none. -/
theorem overloadHead_eq :
    overloadHead overload = " ".intercalate
      (overload.method.otherModifiers ++ [overload.method.returnType, overload.method.name]) := by
  have hmodifiers : overload.method.modifiersWithoutPartial =
      " ".intercalate overload.method.otherModifiers := rfl
  rw [overloadHead, hmodifiers]
  rcases hwords : overload.method.otherModifiers with - | ⟨first, others⟩
  · rw [String.intercalate_nil, if_pos rfl, String.empty_append, List.nil_append,
      String.intercalate_cons_cons, String.intercalate_singleton]
  · have hfirst : first ≠ "" := by
      have hmem : first ∈ overload.method.otherModifiers := hwords ▸ List.mem_cons_self
      exact ne_empty_of_mem_words (List.mem_of_mem_filter hmem)
    have hne : " ".intercalate (first :: others) ≠ "" := by
      rw [intercalate_cons]
      exact fun h => hfirst (String.append_eq_empty_iff.mp h).1
    rw [if_neg hne, String.intercalate_append_of_ne_nil (List.cons_ne_nil _ _)
      (List.cons_ne_nil _ _), String.intercalate_cons_cons, String.intercalate_singleton]
    simp only [String.append_assoc]

/-! ### Overloads -/

theorem parameterType_eq : source.parameterType = convertedType source := by
  cases source <;> rfl

/-- The texts of the four statements, put together. -/
theorem bufferLines_eq_convertingLines (name : String) :
    bufferLines source name = convertingLines name source := by
  -- both sides are the same texts, cut in other places
  have hlimit : "Length <= 512 ? stackalloc byte[" =
      "Length" ++ (" <= " ++ (toString stackLimit ++ " ? stackalloc byte[")) := by decide
  have hstack : "Length + 1] : new byte[" = "Length" ++ " + 1] : new byte[" := by decide
  have hheap : "Length + 1];" = "Length" ++ " + 1];" := by decide
  have hend : "Length] = 0;" = "Length" ++ "] = 0;" := by decide
  cases source with
  | text =>
    have hcount : "Length = global::System.Text.Encoding.UTF8.GetByteCount(" =
        "Length" ++ (" = " ++ "global::System.Text.Encoding.UTF8.GetByteCount(") := by decide
    have hclose : ");" = ")" ++ ";" := by decide
    show bufferLines .text name = [_, _, _, _]
    unfold bufferLines ArgumentForm.lengthExpr ArgumentForm.copyStatement
    rw [hcount, hclose, hlimit, hstack, hheap, hend]
    simp only [String.append_assoc]
  | bytes =>
    have hcount : "Length = " = "Length" ++ " = " := by decide
    have hclose : ".Length;" = ".Length" ++ ";" := by decide
    show bufferLines .bytes name = [_, _, _, _]
    unfold bufferLines ArgumentForm.lengthExpr ArgumentForm.copyStatement
    rw [hcount, hclose, hlimit, hstack, hheap, hend]
    simp only [String.append_assoc]

/-- **An overload converts, pins and passes on the same parameters.** -/
theorem isOverload_overloadForm : IsOverload overload source (overloadForm overload source) where
  head := overloadHead_eq overload
  parameters := by
    rw [overloadForm, List.forall₂_map_right_iff, List.forall₂_same]
    intro parameter hmem
    exact ⟨rfl, if_congr (converts_iff_mem overload hmem) (parameterType_eq source) rfl⟩
  statements := by
    show (overload.stringParameters.flatMap (bufferStatements source)).map Statement.text = _
    rw [stringParameters_eq, List.flatMap_map, List.map_flatMap]
    refine List.flatMap_congr fun parameter _ => ?_
    rw [← bufferLines_eq]
    exact bufferLines_eq_convertingLines source parameter.name
  pins := by
    rw [overloadForm, stringParameters_eq, List.map_map]
    rfl
  call := by
    refine ⟨overloadArguments overload, ?_, ?_⟩
    · rw [overloadArguments, List.forall₂_map_right_iff, List.forall₂_same]
      exact fun parameter hmem => if_congr (converts_iff_mem overload hmem) rfl rfl
    · rw [overloadForm, Method.returnKeyword, Method.returnsVoid]
      simp only [decide_eq_true_eq]

theorem rows_layout (form : MethodForm) (depth : Nat) (atStart : Bool) :
    rows ⟨depth, atStart⟩ form.layout =
      Step.separator.rows ⟨depth, atStart⟩ ++ form.rows depth := by
  have hbody : Balanced (form.statements.map fun statement => Step.line statement.text) :=
    .map_line _ _
  have hfixed : Balanced (Layout.scope
      ("fixed (byte* " ++ ", ".intercalate (form.pins.map Pin.text) ++ ")") [.line form.call]) :=
    .whole_scope _ (.singleton_line _)
  rw [MethodForm.layout, rows_item, rows_scope _ (hbody.append hfixed), rows_append, rows_map_line,
    hbody.finish_eq, rows_scope _ (.singleton_line _), MethodForm.rows]
  simp only [List.append_assoc, List.cons_append, List.nil_append]
  rfl

/-- By itself a method writes its rows. -/
theorem renderFrom_layout (form : MethodForm) (depth : Nat) :
    renderFrom { depth } form.layout = renderRows (form.rows depth) := by
  rw [renderFrom, rows_layout]
  rfl

/-- Overloads stand for themselves only where there is something to convert. -/
theorem stringOverloadBlock_eq (struct : NativeStruct) :
    stringOverloadBlock struct =
      ((overloadPairs struct).map fun pair => overloadMethod pair.1 pair.2).flatten := by
  rw [overloadPairs, stringOverloadBlock, ← List.flatMap_def, List.flatMap_assoc]
  induction struct.stringOverloads with
  | nil => rfl
  | cons overload overloads ih =>
    have hempty : overload.stringParameters.isEmpty ↔ ¬ overload.cStrings ≠ [] := by
      rw [stringParameters_eq, List.isEmpty_iff, List.map_eq_nil_iff, not_not]
    rw [List.flatMap_cons, ih]
    rcases Decidable.em (overload.cStrings ≠ []) with hsome | hnone
    · have hkept : (overload :: overloads).filter (fun overload => overload.cStrings ≠ []) =
          overload :: overloads.filter (fun overload => overload.cStrings ≠ []) :=
        List.filter_cons_of_pos (decide_eq_true hsome)
      rw [if_neg fun h => hempty.mp h hsome, hkept, List.flatMap_cons, List.flatMap_cons,
        List.flatMap_singleton]
    · have hleft : (overload :: overloads).filter (fun overload => overload.cStrings ≠ []) =
          overloads.filter (fun overload => overload.cStrings ≠ []) :=
        List.filter_cons_of_neg fun h => hnone (of_decide_eq_true h)
      rw [if_pos (hempty.mpr hnone), hleft, List.nil_append]

/-- **The overloads of a struct.**  For each method with a C string, and for no other one, there are
two methods, in the order of the descriptions and set apart by one line feed.  Each of them replaces
the types of the C strings, builds a buffer with a terminator for each of them, pins these buffers,
and passes on all parameters with the pointers in the place of the C strings. -/
theorem stringOverloadBlock_forms (struct : NativeStruct) :
    ∃ forms : List MethodForm,
      List.Forall₂ (fun pair form => IsOverload pair.1 pair.2 form) (overloadPairs struct) forms ∧
      ∀ depth atStart, renderFrom ⟨depth, atStart⟩ (stringOverloadBlock struct) =
        (if atStart ∨ forms = [] then "" else "\n") ++
          "\n".intercalate (forms.map fun form => renderRows (form.rows depth)) := by
  refine ⟨(overloadPairs struct).map fun pair => overloadForm pair.1 pair.2, ?_, ?_⟩
  · rw [List.forall₂_map_right_iff, List.forall₂_same]
    exact fun pair _ => isOverload_overloadForm pair.1 pair.2
  · intro depth atStart
    have hblocks : ∀ layout ∈ (overloadPairs struct).map fun pair => overloadMethod pair.1 pair.2,
        IsBlock layout := by
      rw [List.forall_mem_map]
      exact fun pair _ => isBlock_overloadMethod pair.1 pair.2
    -- no method is empty, so none is left out
    have htexts : texts depth ((overloadPairs struct).map fun pair => overloadMethod pair.1 pair.2) =
        (overloadPairs struct).map fun pair =>
          renderRows ((overloadForm pair.1 pair.2).rows depth) := by
      rw [texts, List.map_map, List.filter_eq_self.mpr]
      · refine List.map_congr_left fun pair _ => ?_
        rw [Function.comp_apply, overloadMethod_eq, renderFrom_layout]
      · rw [List.forall_mem_map]
        intro pair _
        refine decide_eq_true ?_
        rw [Function.comp_apply]
        exact (startsWithRow_scope _ _).renderFrom_ne_empty
    rw [stringOverloadBlock_eq, renderFrom_flatten hblocks, htexts, List.map_map]
    simp only [List.map_eq_nil_iff]
    rfl

/-- Two parameters of one name, of which one is a C string, and a C string that is ignored. -/
example :
    let overload : StringOverload :=
      { method :=
          { name := "Print", modifiers := "public partial static", returnType := "int"
            parameters :=
              [{ name := "a", type := "byte*" }, { name := "a", type := "int" },
                { name := "b", type := "byte*" }] }
        ignoredParameters := ["b"] }
    (overloadForm overload .text).head = "public static int Print" ∧
      (overloadForm overload .text).call = "return Print(aPtr, a, b);" := by decide

end Block

end NativeBindings
