/-
NativeBindings/Proofs/Binding/NullReports.lean

What is reported when an address was not found.  The method of a member function or of a static
address looks up the pattern by name, and the table answers with the last record of that name
(`AddressTable.get?_of_last`), while the class of the addresses has its records in order.  So a
method reports its own signature as long as no later entry of the struct has the same name
(`nullReports_own_signature`); where one has, its pattern is reported instead
(`nullReports_overloaded`).
-/
import NativeBindings.Proofs.Binding.AddressLookup
import NativeBindings.Proofs.Binding.BlockComposition
import NativeBindings.Proofs.Binding.SourceRows
import NativeBindings.Proofs.Source.LiteralReading

namespace NativeBindings

open Source Source.Layout Signature

/-! ### Reports -/

/-- The call that reports a null address, up to its arguments. -/
def reportStart (config : Configuration) : String :=
  config.runtimeType "ThrowHelper" ++ ".ThrowNullAddress("

/-- Read a statement that reports a null address, and return the identifier and the pattern. -/
def readNullReport (config : Configuration) (content : String) : Option (String × String) := do
  let text ← dropEnding ");" content.toList
  let (id, text) ← readString (← expect (reportStart config) text)
  let (pattern, text) ← readString (← expect ", " text)
  if text = [] then some (id, pattern) else none

/-- The reports in rows, in order. -/
def nullReports (config : Configuration) (rows : List Row) : List (String × String) :=
  rows.filterMap fun
    | .text _ content => readNullReport config content
    | .blank => none

variable {config : Configuration}

/-- A report begins with the call and ends with a semicolon. -/
theorem exists_of_readNullReport {content : String} {report : String × String}
    (h : readNullReport config content = some report) :
    ∃ arguments, content.toList = (reportStart config).toList ++ arguments ++ ");".toList := by
  obtain ⟨front, hfront, h⟩ := Option.bind_eq_some_iff.mp h
  obtain ⟨arguments, harguments, -⟩ := Option.bind_eq_some_iff.mp h
  refine ⟨arguments, ?_⟩
  rw [expect_eq_some_iff.mp harguments]
  exact (dropEnding_eq_some_iff.mp hfront).symm

theorem readNullReport_of_head_ne {content : String} {c : Char}
    (h : content.toList.head? = some c) (hne : c ≠ 'g') : readNullReport config content = none := by
  rw [Option.eq_none_iff_forall_ne_some]
  intro report hreport
  obtain ⟨arguments, harguments⟩ := exists_of_readNullReport hreport
  have hhead : content.toList.head? = some 'g' := by
    rw [harguments]
    simp [reportStart, Configuration.runtimeType]
  exact hne (Option.some.inj (h.symm.trans hhead))

theorem readNullReport_of_last_ne {content : String} {c : Char}
    (h : content.toList.getLast? = some c) (hne : c ≠ ';') :
    readNullReport config content = none := by
  rw [Option.eq_none_iff_forall_ne_some]
  intro report hreport
  obtain ⟨arguments, harguments⟩ := exists_of_readNullReport hreport
  have hlast : content.toList.getLast? = some ';' := by
    rw [harguments]
    simp
  exact hne (Option.some.inj (h.symm.trans hlast))

/-- **The guard of a holder reports the identifier and the pattern that it is made for.** -/
theorem readNullReport_append (id pattern : String) :
    readNullReport config (config.runtimeType "ThrowHelper" ++ ".ThrowNullAddress(" ++
      stringLiteral id ++ ", " ++ stringLiteral pattern ++ ");") = some (id, pattern) := by
  have hcontent : (config.runtimeType "ThrowHelper" ++ ".ThrowNullAddress(" ++ stringLiteral id ++
      ", " ++ stringLiteral pattern ++ ");").toList =
        ((reportStart config).toList ++ ((stringLiteral id).toList ++ (", ".toList ++
          ((stringLiteral pattern).toList ++ [])))) ++ ");".toList := by
    simp only [reportStart, String.toList_append, List.append_assoc, List.append_nil]
  unfold readNullReport
  simp only [hcontent, dropEnding_append, expect_append, readString_append, Option.bind_eq_bind,
    Option.bind_some, if_true]

/-! ### The last record of a name -/

/-- The table answers with a record if no later one has its name. -/
theorem AddressTable.get?_of_last {table : AddressTable} {i : Nat} {record : AddressRecord}
    (h : table.records[i]? = some record)
    (hlater : ∀ other ∈ table.records.drop (i + 1), other.name ≠ record.name) :
    table.get? record.name = some record := by
  obtain ⟨hlt, rfl⟩ := List.getElem?_eq_some_iff.mp h
  refine get?_eq_some_iff.mpr ⟨table.records.take i, table.records.drop (i + 1), ?_, rfl, hlater⟩
  rw [← List.drop_eq_getElem_cons hlt, List.take_append_drop]

/-! ### Methods that check a holder -/

theorem nullReports_text_cons (depth : Nat) (content : String) (rest : List Row) :
    nullReports config (.text depth content :: rest) =
      (readNullReport config content).toList ++ nullReports config rest := by
  rw [nullReports, List.filterMap_cons]
  cases hread : readNullReport config content with
  | none => simp [hread, nullReports]
  | some report => simp [hread, nullReports]

theorem readNullReport_append_of_last_ne (front : String) {ending : String} {c : Char}
    (h : ending.toList.getLast? = some c) (hne : c ≠ ';') :
    readNullReport config (front ++ ending) = none := by
  apply readNullReport_of_last_ne _ hne
  rw [String.toList_append, List.getLast?_append, h]
  rfl

/-- There is one report in it, with the pattern that the table has for the name. -/
theorem nullReports_guardedMethod (table : AddressTable) (struct : NativeStruct) (method : Method)
    (holder : String) {statement : String} (h : readNullReport config statement = none)
    (depth : Nat) :
    nullReports config
        (rows ⟨depth, false⟩ (Block.guardedMethod config table struct method holder statement)) =
      [(struct.addressId method.name, table.pattern method.name)] := by
  -- neither a bracket nor a brace is the semicolon that a report ends with
  have hheader : readNullReport config method.header = none := by
    apply readNullReport_append_of_last_ne _ _ (by decide : ')' ≠ ';')
    rfl
  have hguard : readNullReport config ("if (" ++ holder ++ " is null)") = none := by
    apply readNullReport_append_of_last_ne _ _ (by decide : ')' ≠ ';')
    rfl
  have hopen : readNullReport config "\x7b" = none :=
    readNullReport_of_last_ne rfl (by decide : '{' ≠ ';')
  have hclose : readNullReport config "\x7d" = none :=
    readNullReport_of_last_ne rfl (by decide : '}' ≠ ';')
  rw [rows_guardedMethod]
  show nullReports config (.text depth method.header :: _) = _
  simp only [nullReports_text_cons, hheader, hopen, hguard, hclose, h, readNullReport_append,
    Option.toList_none, Option.toList_some, List.nil_append]
  rfl

/-- The rows of a method: its header, and one report with the pattern that the table has for its
name. -/
structure ReportsPattern (config : Configuration) (table : AddressTable) (struct : NativeStruct)
    (method : Method) (rows : List Row) : Prop where
  header : ∃ depth rest, rows = .blank :: .text depth method.header :: rest
  reports_eq : nullReports config rows =
    [(struct.addressId method.name, table.pattern method.name)]

theorem reportsPattern_guardedMethod (table : AddressTable) (struct : NativeStruct)
    (method : Method) (holder : String) {statement : String}
    (h : readNullReport config statement = none) (depth : Nat) :
    ReportsPattern config table struct method
      (rows ⟨depth, false⟩
        (Block.guardedMethod config table struct method holder statement)) where
  header := ⟨depth, _, rows_guardedMethod table struct method holder statement depth⟩
  reports_eq := nullReports_guardedMethod table struct method holder h depth

/-- A call is no report, with or without the keyword in front of it. -/
theorem reportsPattern_forwarder (table : AddressTable) (struct : NativeStruct) (method : Method)
    (depth : Nat) :
    ReportsPattern config table struct method
      (rows ⟨depth, false⟩ (Block.forwarder config table struct method)) := by
  apply reportsPattern_guardedMethod
  cases hvoid : method.returnsVoid with
  | false =>
    apply readNullReport_of_head_ne _ (by decide : 'r' ≠ 'g')
    simp [Method.returnKeyword, hvoid]
  | true =>
    apply readNullReport_of_head_ne _ (by decide : 'M' ≠ 'g')
    simp [Method.returnKeyword, hvoid]

theorem reportsPattern_accessor (table : AddressTable) (struct : NativeStruct)
    (address : StaticAddress) (depth : Nat) :
    ReportsPattern config table struct address.method
      (rows ⟨depth, false⟩ (Block.accessor config table struct address)) := by
  apply reportsPattern_guardedMethod
  apply readNullReport_of_head_ne _ (by decide : 'r' ≠ 'g')
  simp

/-! ### The blocks -/

/-- Behind a class of holders, each method reports one pattern. -/
theorem exists_rows_reports {α : Type} (items : List α) (header : String) (holder : α → String)
    {table : AddressTable} {struct : NativeStruct} {method : α → Method} {layout : α → Layout}
    (hlayout : ∀ item ∈ items, Balanced (layout item))
    (hreports : ∀ item depth,
      ReportsPattern config table struct (method item) (rows ⟨depth, false⟩ (layout item)))
    (cursor : Cursor) :
    ∃ holders methods,
      rows cursor
          (if items.isEmpty then [] else
            Layout.item (Layout.scope header (items.map fun item => .line (holder item))) ++
              items.flatMap layout) =
        holders ++ methods.flatten ∧
      List.Forall₂ (ReportsPattern config table struct) (items.map method) methods := by
  obtain ⟨depth, atStart⟩ := cursor
  obtain ⟨front, hrows⟩ := exists_rows_holders items header holder hlayout depth atStart
  refine ⟨front ++ scopeRows depth header (items.map holder),
    items.map fun item => rows ⟨depth, false⟩ (layout item), ?_, ?_⟩
  · rw [hrows, List.flatMap_def, List.append_assoc]
  rw [List.forall₂_map_left_iff, List.forall₂_map_right_iff, List.forall₂_same]
  intro item _
  exact hreports item depth

theorem exists_rows_memberFunctionBlock (config : Configuration) (table : AddressTable)
    (struct : NativeStruct) (cursor : Cursor) :
    ∃ holders methods,
      rows cursor (Block.memberFunctionBlock config table struct) = holders ++ methods.flatten ∧
      List.Forall₂ (ReportsPattern config table struct)
        (struct.memberFunctions.map MemberFunction.method) methods := by
  apply exists_rows_reports
  · intro f _
    exact (Block.isBlock_guardedMethod config table struct _ _ _).balanced
  · intro f depth
    exact reportsPattern_forwarder table struct f.method depth

theorem exists_rows_staticAddressBlock (config : Configuration) (table : AddressTable)
    (struct : NativeStruct) (cursor : Cursor) :
    ∃ holders methods,
      rows cursor (Block.staticAddressBlock config table struct) = holders ++ methods.flatten ∧
      List.Forall₂ (ReportsPattern config table struct)
        (struct.staticAddresses.map StaticAddress.method) methods := by
  apply exists_rows_reports
  · intro address _
    exact (Block.isBlock_guardedMethod config table struct _ _ _).balanced
  · intro address depth
    exact reportsPattern_accessor table struct address depth

/-! ### The signatures of the methods -/

namespace NativeStruct

variable {struct : NativeStruct}

/-- The methods of a struct that check a holder: those of its member functions, then those of its
static addresses. -/
def guardedMethods (struct : NativeStruct) : List Method :=
  struct.memberFunctions.map MemberFunction.method ++
    struct.staticAddresses.map StaticAddress.method

/-- The methods have the names of the signatures that are found by scanning. -/
theorem map_name_namedSignatures (struct : NativeStruct) :
    struct.namedSignatures.map NamedSignature.name =
      struct.guardedMethods.map Method.name ++
        struct.staticVirtualTable.toList.map fun _ => staticVirtualTableName := by
  simp only [namedSignatures, guardedMethods, List.map_append, List.map_map]
  rfl

theorem name_eq_of_guardedMethods {i : Nat} {method : Method} {named : NamedSignature}
    (hmethod : struct.guardedMethods[i]? = some method)
    (hnamed : struct.namedSignatures[i]? = some named) : named.name = method.name := by
  have hname : (struct.namedSignatures.map NamedSignature.name)[i]? = some named.name := by
    rw [List.getElem?_map, hnamed]
    rfl
  have hsame : (struct.guardedMethods.map Method.name)[i]? = some method.name := by
    rw [List.getElem?_map, hmethod]
    rfl
  have hlt : i < (struct.guardedMethods.map Method.name).length :=
    (List.getElem?_eq_some_iff.mp hsame).1
  rw [map_name_namedSignatures, List.getElem?_append_left hlt, hsame] at hname
  exact (Option.some.inj hname).symm

/-- The signature at a place, if no later one of the struct has its name. -/
def IsLastOfItsName (struct : NativeStruct) (i : Nat) (named : NamedSignature) : Prop :=
  struct.namedSignatures[i]? = some named ∧
    ∀ other ∈ struct.namedSignatures.drop (i + 1), other.name ≠ named.name

end NativeStruct

/-- What a record says about the signature at its place. -/
structure IsRecordOf (struct : NativeStruct) (named : NamedSignature) (tokens : List Token)
    (record : AddressRecord) : Prop where
  tokenized : tokenize named.signature.pattern = .ok tokens
  name_eq : record.name = named.name
  id_eq : record.id = struct.addressId named.name
  pattern_eq : record.encoded.pattern = join tokens
  padded_eq : record.encoded.padded = join (pad tokens)

theorem AddressTable.exists_isRecordOf {struct : NativeStruct} {table : AddressTable}
    (h : AddressTable.encode struct = .ok table) {i : Nat} {named : NamedSignature}
    (hnamed : struct.namedSignatures[i]? = some named) :
    ∃ record tokens, table.records[i]? = some record ∧
      IsRecordOf struct named tokens record := by
  obtain ⟨record, hrecord, hencoded⟩ :=
    exists_getElem?_of_forall₂ (AddressTable.encode_eq_ok_iff.mp h) hnamed
  obtain ⟨packed, hpacked, rfl⟩ := NativeStruct.encodeNamed_eq_ok_iff.mp hencoded
  obtain ⟨tokens, htokens, rfl⟩ := Signature.encode_eq_ok_iff.mp hpacked
  exact ⟨_, tokens, hrecord, ⟨htokens, rfl, rfl, rfl, rfl⟩⟩

/-- The pattern that the table has for a name is that of the last record of the name. -/
theorem AddressTable.pattern_of_isLast {struct : NativeStruct} {table : AddressTable}
    (h : AddressTable.encode struct = .ok table) {i : Nat} {named : NamedSignature}
    (hlast : struct.IsLastOfItsName i named) {record : AddressRecord}
    (hrecord : table.records[i]? = some record) (hname : record.name = named.name) :
    table.pattern named.name = record.encoded.pattern := by
  have hget : table.get? record.name = some record := by
    apply AddressTable.get?_of_last hrecord
    intro other hother
    -- the names of the records are those of the signatures
    have hmem : other.name ∈ (struct.namedSignatures.drop (i + 1)).map NamedSignature.name := by
      rw [List.map_drop, ← AddressTable.map_name_records h, ← List.map_drop]
      exact List.mem_map_of_mem hother
    obtain ⟨later, hlater, heq⟩ := List.mem_map.mp hmem
    rw [← heq, hname]
    exact hlast.2 later hlater
  rw [AddressTable.pattern, ← hname, hget]

/-! ### The reports of a source -/

/-- The rows of a method report a signature: the identifier is that of the record, and the tokens
become the pattern of the record when wildcards complete the last word. -/
structure ReportsSignature (config : Configuration) (struct : NativeStruct) (method : Method)
    (named : NamedSignature) (record : AddressRecord) (rows : List Row) : Prop where
  header : ∃ depth rest, rows = .blank :: .text depth method.header :: rest
  name_eq : named.name = method.name
  reported : ∃ tokens, IsRecordOf struct named tokens record ∧
    nullReports config rows = [(struct.addressId method.name, join tokens)]

/-- A method reports the last signature of its name. -/
theorem ReportsPattern.reportsSignature {struct : NativeStruct} {table : AddressTable}
    {method : Method} {rows : List Row} (hrows : ReportsPattern config table struct method rows)
    (h : AddressTable.encode struct = .ok table) {i : Nat} {named : NamedSignature}
    (hlast : struct.IsLastOfItsName i named) (hname : named.name = method.name) :
    ∃ record, table.records[i]? = some record ∧
      ReportsSignature config struct method named record rows := by
  obtain ⟨record, tokens, hrecord, hrecordOf⟩ := AddressTable.exists_isRecordOf h hlast.1
  refine ⟨record, hrecord, hrows.header, hname, tokens, hrecordOf, ?_⟩
  rw [hrows.reports_eq, ← hname, AddressTable.pattern_of_isLast h hlast hrecord hrecordOf.name_eq,
    hrecordOf.pattern_eq]

/-- In the source of a struct its records stand one below the other, and behind them the methods that
check a holder: each reports the pattern that the table has for its name. -/
theorem exists_rows_reportsPattern (config : Configuration) {struct : NativeStruct}
    {table : AddressTable} (h : AddressTable.encode struct = .ok table) :
    ∃ depth before between behind after, ∃ members statics : List (List Row),
      (struct.sourceLayout config table).rows {} = before ++
        (table.records.map fun record => Row.text depth (Block.addressLine config record)) ++
        between ++ members.flatten ++ behind ++ statics.flatten ++ after ∧
      List.Forall₂ (ReportsPattern config table struct)
        (struct.memberFunctions.map MemberFunction.method) members ∧
      List.Forall₂ (ReportsPattern config table struct)
        (struct.staticAddresses.map StaticAddress.method) statics := by
  obtain ⟨first, second, third, before, between, behind, after, hrows⟩ :=
    exists_rows_sourceLayout config table struct
  obtain ⟨depth, opening, closing, haddresses⟩ := exists_rows_addressBlock config h first
  obtain ⟨pointers, members, hmembers, hmemberReports⟩ :=
    exists_rows_memberFunctionBlock config table struct second
  obtain ⟨holders, statics, hstatics, hstaticReports⟩ :=
    exists_rows_staticAddressBlock config table struct third
  refine ⟨depth, before ++ opening, closing ++ between ++ pointers, behind ++ holders, after,
    members, statics, ?_, hmemberReports, hstaticReports⟩
  rw [hrows, haddresses, hmembers, hstatics]
  simp only [List.append_assoc]

/-- **A null address is reported with the signature that it was searched by**, as long as no later
signature of the struct has the same name.  In the source of a struct the records stand in the order
of its signatures, and behind them the methods of its member functions and of its static addresses;
each of these reports, once, the record at its own place. -/
theorem nullReports_own_signature {config : Configuration} {struct : NativeStruct}
    {source : String} (h : struct.compile config = .ok source) :
    ∃ table depth before between behind after, ∃ members statics : List (List Row),
      AddressTable.encode struct = .ok table ∧
      source = renderRows (before ++
        (table.records.map fun record => Row.text depth (Block.addressLine config record)) ++
        between ++ members.flatten ++ behind ++ statics.flatten ++ after) ∧
      members.length = struct.memberFunctions.length ∧
      statics.length = struct.staticAddresses.length ∧
      ∀ i method named, struct.guardedMethods[i]? = some method →
        struct.IsLastOfItsName i named →
        ∃ record rows, table.records[i]? = some record ∧ (members ++ statics)[i]? = some rows ∧
          ReportsSignature config struct method named record rows := by
  obtain ⟨table, htable, rfl⟩ := NativeStruct.compile_eq_ok_iff.mp h
  obtain ⟨depth, before, between, behind, after, members, statics, hrows, hmembers, hstatics⟩ :=
    exists_rows_reportsPattern config htable
  refine ⟨table, depth, before, between, behind, after, members, statics, htable,
    congrArg renderRows hrows, ?_, ?_, ?_⟩
  · rw [← hmembers.length_eq, List.length_map]
  · rw [← hstatics.length_eq, List.length_map]
  · intro i method named hmethod hlast
    obtain ⟨rows, hi, hreports⟩ :=
      exists_getElem?_of_forall₂ (List.rel_append hmembers hstatics) hmethod
    have hname := NativeStruct.name_eq_of_guardedMethods hmethod hlast.1
    obtain ⟨record, hrecord, hsignature⟩ := hreports.reportsSignature htable hlast hname
    exact ⟨record, rows, hrecord, hi, hsignature⟩

/-- The second of two member functions of one name, and a static address. -/
theorem nullReports_own_signature_last :
    let struct : NativeStruct :=
      { name := "Foo"
        memberFunctions :=
          [{ method := .ofInstance "Get" "int", signature := { pattern := "AA" } },
            { method := (Method.ofInstance "Get" "int").withParameter "i" "int"
              signature := { pattern := "e8  ??" } }]
        staticAddresses :=
          [{ method := .ofStatic "Instance" "Foo*", signature := { pattern := "48 8B" } }] }
    ∃ source front get between instanceRows behind, struct.compile {} = .ok source ∧
      source = renderRows (front ++ get ++ between ++ instanceRows ++ behind) ∧
      nullReports {} get = [("Foo.Get", "E8 ??")] ∧
      nullReports {} instanceRows = [("Foo.Instance", "48 8B")] := by
  intro struct
  obtain ⟨source, hsource⟩ : ∃ source, struct.compile {} = .ok source :=
    ⟨_, NativeStruct.compile_eq_ok_iff.mpr ⟨_, rfl, rfl⟩⟩
  obtain ⟨table, depth, before, between, behind, after, members, statics, -, hrows, hmembers,
    hstatics, hreports⟩ := nullReports_own_signature hsource
  obtain ⟨first, get, rfl⟩ := List.length_eq_two.mp hmembers
  obtain ⟨instanceRows, rfl⟩ := List.length_eq_one_iff.mp hstatics
  obtain ⟨_, _, -, hget, -, -, getTokens, hgetRecord, hgetReports⟩ :=
    hreports 1 _ _ rfl ⟨rfl, by decide⟩
  obtain ⟨_, _, -, hinstance, -, -, tokens, hrecord, hinstanceReports⟩ :=
    hreports 2 _ _ rfl ⟨rfl, by decide⟩
  obtain rfl := Option.some.inj hget
  obtain rfl := Option.some.inj hinstance
  have hgetTokens : tokenize "e8  ??" = .ok [.byte 0xE8, .wildcard] := rfl
  have htokens : tokenize "48 8B" = .ok [.byte 0x48, .byte 0x8B] := rfl
  obtain rfl := Except.ok.inj (hgetTokens.symm.trans hgetRecord.tokenized)
  obtain rfl := Except.ok.inj (htokens.symm.trans hrecord.tokenized)
  refine ⟨source, before ++ (table.records.map fun record =>
    Row.text depth (Block.addressLine {} record)) ++ between ++ first, get, behind, instanceRows,
    after, hsource, ?_, hgetReports, hinstanceReports⟩
  rw [hrows]
  simp only [List.flatten_cons, List.flatten_nil, List.append_nil, List.append_assoc]

/-- Of two member functions of one name, the first one has its own pattern in its record, but the
methods of both report the pattern of the second one. -/
theorem nullReports_overloaded :
    let struct : NativeStruct :=
      { name := "Foo"
        memberFunctions :=
          [{ method := .ofInstance "Get" "int", signature := { pattern := "AA" } },
            { method := (Method.ofInstance "Get" "int").withParameter "i" "int"
              signature := { pattern := "BB" } }] }
    ∃ table before first second behind,
      AddressTable.encode struct = .ok table ∧
      (table.records.map fun record => (record.id, record.encoded.pattern)) =
        [("Foo.Get", "AA"), ("Foo.Get", "BB")] ∧
      struct.compile {} = .ok (renderRows (before ++ first ++ second ++ behind)) ∧
      (∃ depth rest, first = .blank :: .text depth "public partial int Get()" :: rest) ∧
      nullReports {} first = [("Foo.Get", "BB")] ∧
      nullReports {} second = [("Foo.Get", "BB")] := by
  intro struct
  obtain ⟨table, htable⟩ : ∃ table, AddressTable.encode struct = .ok table := ⟨_, rfl⟩
  obtain ⟨depth, before, between, behind, after, members, statics, hrows, hmembers, -⟩ :=
    exists_rows_reportsPattern {} htable
  obtain ⟨first, _, hfirst, hothers, rfl⟩ := List.forall₂_cons_left_iff.mp hmembers
  obtain ⟨second, _, hsecond, hnone, rfl⟩ := List.forall₂_cons_left_iff.mp hothers
  obtain rfl := List.forall₂_nil_left_iff.mp hnone
  have hpattern : table.pattern "Get" = "BB" := by
    obtain rfl := Except.ok.inj htable
    decide
  refine ⟨table, before ++ (table.records.map fun record =>
    Row.text depth (Block.addressLine {} record)) ++ between, first, second,
    behind ++ statics.flatten ++ after, htable, ?_, ?_, hfirst.header, ?_, ?_⟩
  · obtain rfl := Except.ok.inj htable
    decide
  · refine NativeStruct.compile_eq_ok_iff.mpr ⟨table, htable, ?_⟩
    rw [Layout.render, renderFrom, hrows]
    simp only [List.flatten_cons, List.flatten_nil, List.append_nil, List.append_assoc]
  · exact hfirst.reports_eq.trans (congrArg (fun pattern => [("Foo.Get", pattern)]) hpattern)
  · exact hsecond.reports_eq.trans (congrArg (fun pattern => [("Foo.Get", pattern)]) hpattern)

end NativeBindings
