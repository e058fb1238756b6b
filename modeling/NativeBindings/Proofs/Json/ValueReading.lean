/-
NativeBindings/Proofs/Json/ValueReading.lean

The text of a JSON value is read back as the tree of the value:

    parse (render value) = { root := value.node }

The way leads over the lexemes.  The text of a value is cut into the lexemes that spell it, whatever
follows (`spells_render`), and from these lexemes the tree is built in one place of whatever is open
around it (`builds_spelling`).  Arrays and objects differ only in their brackets and in what stands
in front of a value, so both go through the same lemmas on parts that are separated by commas, with
or without white space behind them (`Spells.intercalate`).
-/
import NativeBindings.Json.Node
import NativeBindings.Proofs.Json.ScalarReading
import Mathlib.Data.List.Forall2

namespace NativeBindings.Json

/-! ### Induction over values -/

/-- What holds of a value as soon as it holds of everything inside it holds of all values. -/
@[elab_as_elim]
theorem value_induction {P : Json → Prop} (null : P .null) (bool : ∀ b, P (.bool b))
    (number : ∀ n, P (.number n)) (string : ∀ s, P (.string s))
    (array : ∀ items, (∀ item ∈ items, P item) → P (.array items))
    (object : ∀ members : List (String × Json), (∀ member ∈ members, P member.2) →
      P (.object members)) :
    ∀ value, P value
  | .null => null
  | .bool b => bool b
  | .number n => number n
  | .string s => string s
  | .array items => array items fun item _ =>
      value_induction null bool number string array object item
  | .object members => object members fun member h =>
      have : sizeOf member.2 < sizeOf members := by
        have := List.sizeOf_lt_of_mem h
        obtain ⟨key, value⟩ := member
        simp only [Prod.mk.sizeOf_spec] at this ⊢
        omega
      value_induction null bool number string array object member.2

/-! ### The lexemes and the tree of a value -/

mutual

/-- The lexemes that spell a value. -/
def spelling : Json → List Lexeme
  | null => [.null]
  | bool b => [.bool b]
  | number n => [.number (.numeral (numeralOf n))]
  | string s => [.string (stringLexeme s)]
  | array items => .openArray :: ([.comma].intercalate (itemSpellings items) ++ [.closeArray])
  | object members =>
      .openObject :: ([.comma].intercalate (memberSpellings members) ++ [.closeObject])

/-- The lexemes of the items of an array. -/
def itemSpellings : List Json → List (List Lexeme)
  | [] => []
  | item :: rest => spelling item :: itemSpellings rest

/-- The lexemes of the members of an object. -/
def memberSpellings : List (String × Json) → List (List Lexeme)
  | [] => []
  | (key, value) :: rest =>
      (.string (stringLexeme key) :: .colon :: spelling value) :: memberSpellings rest

end

mutual

/-- The tree of a value. -/
def node : Json → Node
  | null => .null
  | bool b => .bool b
  | number n => .number (.numeral (numeralOf n))
  | string s => .string (stringLexeme s)
  | array items => .array (itemNodes items) none
  | object members => .object (memberNodes members) none

/-- The trees of the items of an array. -/
def itemNodes : List Json → List Node
  | [] => []
  | item :: rest => node item :: itemNodes rest

/-- The trees of the members of an object, with their keys. -/
def memberNodes : List (String × Json) → List (StringLexeme × Node)
  | [] => []
  | (key, value) :: rest => (stringLexeme key, node value) :: memberNodes rest

end

/-- The lexemes of a member. -/
def memberSpelling (member : String × Json) : List Lexeme :=
  .string (stringLexeme member.1) :: .colon :: spelling member.2

/-- The tree of a member. -/
def memberNode (member : String × Json) : StringLexeme × Node :=
  (stringLexeme member.1, node member.2)

/-- The text of a member. -/
def renderMember (member : String × Json) : String :=
  renderString member.1 ++ ":" ++ render member.2

theorem renderItems_eq_map (items : List Json) : renderItems items = items.map render := by
  induction items with
  | nil => rfl
  | cons item rest ih => rw [renderItems, ih, List.map_cons]

theorem renderMembers_eq_map (members : List (String × Json)) :
    renderMembers members = members.map renderMember := by
  induction members with
  | nil => rfl
  | cons member rest ih => rw [renderMembers, ih, List.map_cons, renderMember]

theorem itemSpellings_eq_map (items : List Json) : itemSpellings items = items.map spelling := by
  induction items with
  | nil => rfl
  | cons item rest ih => rw [itemSpellings, ih, List.map_cons]

theorem memberSpellings_eq_map (members : List (String × Json)) :
    memberSpellings members = members.map memberSpelling := by
  induction members with
  | nil => rfl
  | cons member rest ih => rw [memberSpellings, ih, List.map_cons, memberSpelling]

theorem itemNodes_eq_map (items : List Json) : itemNodes items = items.map node := by
  induction items with
  | nil => rfl
  | cons item rest ih => rw [itemNodes, ih, List.map_cons]

theorem memberNodes_eq_map (members : List (String × Json)) :
    memberNodes members = members.map memberNode := by
  induction members with
  | nil => rfl
  | cons member rest ih => rw [memberNodes, ih, List.map_cons, memberNode]

/-! ### From text to lexemes -/

theorem lexemes_cons {c : Char} (h : isSpace c = false) (rest : List Char) :
    lexemes (c :: rest) = (scanLexeme c rest).1 :: lexemes (scanLexeme c rest).2 := by
  rw [lexemes, if_neg (by rw [h]; exact Bool.false_ne_true)]

/-- White space is passed over. -/
theorem lexemes_blanks {blanks : List Char} (h : ∀ c ∈ blanks, isSpace c = true)
    (rest : List Char) : lexemes (blanks ++ rest) = lexemes rest := by
  induction blanks with
  | nil => rfl
  | cons c blanks ih =>
    obtain ⟨hc, hblanks⟩ := List.forall_mem_cons.mp h
    rw [List.cons_append, lexemes, if_pos hc, ih hblanks]

/-- A lexeme of one character is no white space and does not go on with a number. -/
theorem of_punctuation {c : Char} {lexeme : Lexeme} (h : punctuation? c = some lexeme) :
    isSpace c = false ∧ ∀ rest, EndsNumeral (c :: rest) := by
  have hc : isSpace c = false ∧ c.isDigit = false ∧ c ≠ '.' ∧ c ≠ 'e' ∧ c ≠ 'E' := by
    unfold punctuation? at h
    split at h
    case h_7 => cases h
    all_goals decide
  refine ⟨hc.1, ?_⟩
  intro rest d hd
  obtain rfl := Option.some.inj hd
  exact hc.2

theorem lexemes_punctuation {c : Char} {lexeme : Lexeme} (h : punctuation? c = some lexeme)
    (rest : List Char) : lexemes (c :: rest) = lexeme :: lexemes rest := by
  rw [lexemes_cons (of_punctuation h).1]
  unfold scanLexeme
  rw [h]

theorem lexemes_renderString (s : String) (rest : List Char) :
    lexemes ((renderString s).toList ++ rest) = .string (stringLexeme s) :: lexemes rest := by
  have hspelled : (renderString s).toList ++ rest =
      '"' :: ((String.join (s.toList.map escapeChar)).toList ++ '"' :: rest) := by
    simp [renderString]
  rw [hspelled, lexemes_cons rfl, scanLexeme]
  show Lexeme.string (scanString _).1 :: lexemes (scanString _).2 = _
  rw [scanString_append]

/-- The literals end with their last letter. -/
theorem lexemes_literals (rest : List Char) :
    lexemes ("null".toList ++ rest) = .null :: lexemes rest ∧
      lexemes ("true".toList ++ rest) = .bool true :: lexemes rest ∧
      lexemes ("false".toList ++ rest) = .bool false :: lexemes rest := by
  refine ⟨?_, ?_, ?_⟩
  · show lexemes ('n' :: 'u' :: 'l' :: 'l' :: rest) = _
    rw [lexemes_cons rfl]
    rfl
  · show lexemes ('t' :: 'r' :: 'u' :: 'e' :: rest) = _
    rw [lexemes_cons rfl]
    rfl
  · show lexemes ('f' :: 'a' :: 'l' :: 's' :: 'e' :: rest) = _
    rw [lexemes_cons rfl]
    rfl

/-- A text is cut into the given lexemes, whatever follows that does not go on with a number. -/
def Spells (text : String) (spelled : List Lexeme) : Prop :=
  ∀ rest, EndsNumeral rest → lexemes (text.toList ++ rest) = spelled ++ lexemes rest

theorem scanLexeme_digit {c : Char} (h : c.isDigit = true) (rest : List Char) :
    scanLexeme c rest =
      (.number (scanMagnitude false (c :: rest)).1, (scanMagnitude false (c :: rest)).2) := by
  unfold scanLexeme
  split
  case h_1 lexeme hlexeme =>
    have hc := ((of_punctuation hlexeme).2 [] c rfl).1
    rw [h] at hc
    cases hc
  case h_2 =>
    -- none of the characters that begin another lexeme is a digit
    split
    case h_6 => rw [if_pos h]
    all_goals cases h

theorem isSpace_of_isDigit {c : Char} (h : c.isDigit = true) : isSpace c = false := by
  rw [Bool.eq_false_iff]
  intro hspace
  simp only [isSpace, Bool.or_eq_true, decide_eq_true_iff] at hspace
  obtain ((rfl | rfl) | rfl) | rfl := hspace <;> cases h

theorem spells_number (n : Nat) : Spells (toString n) [.number (.numeral (numeralOf n))] := by
  intro rest hrest
  obtain ⟨first, others, hdigits⟩ :=
    List.exists_cons_of_ne_nil (Nat.toDigits_ne_nil (n := n) (b := 10))
  have hfirst : first.isDigit = true := by
    refine Nat.isDigit_of_mem_toDigits (by decide) (by decide) (b := 10) (n := n) ?_
    rw [hdigits]
    exact List.mem_cons_self
  have hscan := scanMagnitude_append n hrest
  rw [hdigits, List.cons_append] at hscan
  rw [Text.toList_toString, hdigits, List.cons_append, lexemes_cons (isSpace_of_isDigit hfirst),
    scanLexeme_digit hfirst, hscan]
  rfl

/-- Texts with commas between them, and white space behind the commas. -/
theorem Spells.intercalate (gap : String) (hgap : ∀ c ∈ gap.toList, isSpace c = true)
    {texts : List String} {parts : List (List Lexeme)} (h : List.Forall₂ Spells texts parts) :
    Spells (("," ++ gap).intercalate texts) ([Lexeme.comma].intercalate parts) := by
  induction h with
  | nil => exact fun _ _ => rfl
  | @cons text part texts parts htext htexts ih =>
    intro rest hrest
    cases htexts with
    | nil =>
      rw [String.intercalate_singleton, List.intercalate_singleton]
      exact htext rest hrest
    | @cons next nextPart texts parts hnext htexts =>
      have hcomma : punctuation? ',' = some .comma := rfl
      have hspelled : (("," ++ gap).intercalate (text :: next :: texts)).toList ++ rest =
          text.toList ++ ',' :: (gap.toList ++
            ((("," ++ gap).intercalate (next :: texts)).toList ++ rest)) := by
        simp [String.intercalate_cons_cons]
      rw [hspelled, htext _ ((of_punctuation hcomma).2 _), lexemes_punctuation hcomma,
        lexemes_blanks hgap, ih rest hrest, List.intercalate_cons_cons]
      simp

/-- A text between brackets. -/
theorem Spells.enclose {body text : String} {spelled : List Lexeme} {first last : Lexeme}
    (opening closing : Char) (h : Spells body spelled)
    (hfirst : punctuation? opening = some first) (hlast : punctuation? closing = some last)
    (htext : text.toList = opening :: (body.toList ++ [closing])) :
    Spells text (first :: (spelled ++ [last])) := by
  intro rest _
  rw [htext, List.cons_append, List.append_assoc, List.singleton_append,
    lexemes_punctuation hfirst, h _ ((of_punctuation hlast).2 _), lexemes_punctuation hlast]
  simp

theorem spells_member {member : String × Json}
    (h : Spells (render member.2) (spelling member.2)) :
    Spells (renderMember member) (memberSpelling member) := by
  intro rest hrest
  have hspelled : (renderMember member).toList ++ rest =
      (renderString member.1).toList ++ ':' :: ((render member.2).toList ++ rest) := by
    simp [renderMember]
  rw [hspelled, lexemes_renderString, lexemes_punctuation rfl, h rest hrest]
  rfl

/-- **The text of a value is cut into the lexemes that spell it.** -/
theorem spells_render (value : Json) : Spells (render value) (spelling value) := by
  induction value using value_induction with
  | null => exact fun rest _ => (lexemes_literals rest).1
  | bool b =>
    cases b with
    | true => exact fun rest _ => (lexemes_literals rest).2.1
    | false => exact fun rest _ => (lexemes_literals rest).2.2
  | number n => exact spells_number n
  | string s => exact fun rest _ => lexemes_renderString s rest
  | array items ih =>
    rw [render, spelling, renderItems_eq_map, itemSpellings_eq_map]
    have hitems : List.Forall₂ Spells (items.map render) (items.map spelling) := by
      rw [List.forall₂_map_left_iff, List.forall₂_map_right_iff, List.forall₂_same]
      exact ih
    refine Spells.enclose '[' ']' (Spells.intercalate "" (by simp) hitems) rfl rfl ?_
    simp
  | object members ih =>
    rw [render, spelling, renderMembers_eq_map, memberSpellings_eq_map]
    have hmembers :
        List.Forall₂ Spells (members.map renderMember) (members.map memberSpelling) := by
      rw [List.forall₂_map_left_iff, List.forall₂_map_right_iff, List.forall₂_same]
      intro member hmember
      exact spells_member (ih member hmember)
    refine Spells.enclose '{' '}' (Spells.intercalate "" (by simp) hmembers) rfl rfl ?_
    simp

/-! ### From lexemes to the tree -/

/-- From the lexemes, where a value is expected, a node is built, and what is open stays open. -/
def Builds (spelled : List Lexeme) (node : Node) : Prop :=
  ∀ stack rest, (Expectation.value stack).run (spelled ++ rest) =
    (Expectation.after node stack).run rest

theorem run_value_cons {first : Lexeme} {stack : List Frame} {next : Expectation}
    (h : beginValue stack first = some next) (rest : List Lexeme) :
    (Expectation.value stack).run (first :: rest) = next.run rest := by
  rw [Expectation.run, Expectation.take, h]
  all_goals nofun

/-- A lexeme that is a value by itself. -/
theorem builds_scalar {lexeme : Lexeme} {node : Node}
    (h : ∀ stack, beginValue stack lexeme = some (.after node stack)) : Builds [lexeme] node :=
  fun stack rest => run_value_cons (h stack) rest

/-- The first of the lexemes begins a value. -/
def Begins (spelled : List Lexeme) : Prop :=
  ∃ first others, spelled = first :: others ∧ ∀ stack, ∃ next, beginValue stack first = some next

theorem begins_spelling (value : Json) : Begins (spelling value) := by
  cases value <;> exact ⟨_, _, rfl, fun _ => ⟨_, rfl⟩⟩

/-- The first item of an array stands where its end could stand as well. -/
theorem run_firstItem_cons {first : Lexeme} {stack : List Frame} {next : Expectation}
    (h : beginValue (.items [] :: stack) first = some next) (rest : List Lexeme) :
    (Expectation.firstItem stack).run (first :: rest) = next.run rest := by
  have htake : (Expectation.firstItem stack).take first = some next := by
    cases first with
    | closeArray => cases h
    | _ => exact h
  rw [Expectation.run, htake]
  all_goals nofun

theorem run_firstItem {spelled : List Lexeme} {node : Node} (hbegins : Begins spelled)
    (h : Builds spelled node) (stack : List Frame) (rest : List Lexeme) :
    (Expectation.firstItem stack).run (spelled ++ rest) =
      (Expectation.after node (.items [] :: stack)).run rest := by
  obtain ⟨first, others, rfl, hfirst⟩ := hbegins
  obtain ⟨next, hnext⟩ := hfirst (.items [] :: stack)
  rw [← h, List.cons_append, run_value_cons hnext, run_firstItem_cons hnext]

/-- Parts with commas between them are the first one and the others, each behind its comma. -/
theorem intercalate_comma_cons (first : List Lexeme) (parts : List (List Lexeme)) :
    [Lexeme.comma].intercalate (first :: parts) = first ++ parts.flatMap (.comma :: ·) := by
  induction parts generalizing first with
  | nil => simp
  | cons part parts ih =>
    rw [List.intercalate_cons_cons, ih, List.flatMap_cons]
    simp

/-- The items behind the first one, up to the end of the array. -/
theorem run_items {items : List (List Lexeme × Node)} (h : ∀ item ∈ items, Builds item.1 item.2)
    (before : List Node) (last : Node) (stack : List Frame) (rest : List Lexeme) :
    (Expectation.after last (.items before :: stack)).run
        ((items.map Prod.fst).flatMap (.comma :: ·) ++ .closeArray :: rest) =
      (Expectation.after (.array (before.reverse ++ last :: items.map Prod.snd) none) stack).run
        rest := by
  induction items generalizing before last with
  | nil =>
    show (Expectation.after (.array (last :: before).reverse none) stack).run rest = _
    rw [List.reverse_cons, List.map_nil]
  | cons item items ih =>
    obtain ⟨hitem, hitems⟩ := List.forall_mem_cons.mp h
    rw [List.map_cons, List.flatMap_cons, List.append_assoc, List.cons_append]
    show (Expectation.value (.items (last :: before) :: stack)).run _ = _
    rw [hitem, ih hitems, List.reverse_cons, List.append_assoc]
    rfl

/-- **From the lexemes of items, an array is built.** -/
theorem builds_array {items : List (List Lexeme × Node)}
    (h : ∀ item ∈ items, Begins item.1 ∧ Builds item.1 item.2) :
    Builds (.openArray :: ([.comma].intercalate (items.map Prod.fst) ++ [.closeArray]))
      (.array (items.map Prod.snd) none) := by
  intro stack rest
  rw [List.cons_append, List.append_assoc, List.singleton_append]
  show (Expectation.firstItem stack).run _ = _
  cases items with
  | nil => rfl
  | cons item items =>
    obtain ⟨⟨hbegins, hitem⟩, hitems⟩ := List.forall_mem_cons.mp h
    rw [List.map_cons, intercalate_comma_cons, List.append_assoc, run_firstItem hbegins hitem,
      run_items fun other hother => (hitems other hother).2]
    rfl

/-- A member of an object: its key, the lexemes of its value and the tree of its value. -/
abbrev MemberParts := StringLexeme × List Lexeme × Node

/-- The lexemes of a member. -/
def MemberParts.lexemes (member : MemberParts) : List Lexeme :=
  .string member.1 :: .colon :: member.2.1

/-- The entry of a member in the tree of its object. -/
def MemberParts.entry (member : MemberParts) : StringLexeme × Node := (member.1, member.2.2)

/-- The members behind the first one, up to the end of the object. -/
theorem run_members {members : List MemberParts}
    (h : ∀ member ∈ members, Builds member.2.1 member.2.2) (before : List (StringLexeme × Node))
    (key : StringLexeme) (last : Node) (stack : List Frame) (rest : List Lexeme) :
    (Expectation.after last (.member before key :: stack)).run
        ((members.map MemberParts.lexemes).flatMap (.comma :: ·) ++ .closeObject :: rest) =
      (Expectation.after
        (.object (before.reverse ++ (key, last) :: members.map MemberParts.entry) none) stack).run
        rest := by
  induction members generalizing before key last with
  | nil =>
    show (Expectation.after (.object ((key, last) :: before).reverse none) stack).run rest = _
    rw [List.reverse_cons, List.map_nil]
  | cons member members ih =>
    obtain ⟨hmember, hmembers⟩ := List.forall_mem_cons.mp h
    rw [List.map_cons, List.flatMap_cons, List.append_assoc, List.cons_append]
    -- a comma, the key and its colon
    show (Expectation.value (.member ((key, last) :: before) member.1 :: stack)).run
      (member.2.1 ++ _) = _
    rw [hmember, ih hmembers, List.reverse_cons, List.append_assoc]
    rfl

/-- **From the lexemes of members, an object is built.** -/
theorem builds_object {members : List MemberParts}
    (h : ∀ member ∈ members, Builds member.2.1 member.2.2) :
    Builds (.openObject :: ([.comma].intercalate (members.map MemberParts.lexemes) ++
        [.closeObject]))
      (.object (members.map MemberParts.entry) none) := by
  intro stack rest
  rw [List.cons_append, List.append_assoc, List.singleton_append]
  show (Expectation.firstMember stack).run _ = _
  cases members with
  | nil => rfl
  | cons member members =>
    obtain ⟨hmember, hmembers⟩ := List.forall_mem_cons.mp h
    rw [List.map_cons, intercalate_comma_cons, List.append_assoc]
    show (Expectation.value (.member [] member.1 :: stack)).run (member.2.1 ++ _) = _
    rw [hmember, run_members hmembers]
    rfl

/-- **From the lexemes that spell a value, its tree is built.** -/
theorem builds_spelling (value : Json) : Builds (spelling value) value.node := by
  induction value using value_induction with
  | null => exact builds_scalar fun _ => rfl
  | bool b => exact builds_scalar fun _ => rfl
  | number n => exact builds_scalar fun _ => rfl
  | string s => exact builds_scalar fun _ => rfl
  | array items ih =>
    have hitems : ∀ item ∈ items.map fun item => (spelling item, node item),
        Begins item.1 ∧ Builds item.1 item.2 := by
      rw [List.forall_mem_map]
      exact fun item hitem => ⟨begins_spelling item, ih item hitem⟩
    have hbuilds := builds_array hitems
    rw [List.map_map, List.map_map] at hbuilds
    rw [spelling, node, itemSpellings_eq_map, itemNodes_eq_map]
    exact hbuilds
  | object members ih =>
    have hmembers : ∀ member ∈ members.map fun member =>
        (stringLexeme member.1, spelling member.2, node member.2),
        Builds member.2.1 member.2.2 := by
      rw [List.forall_mem_map]
      exact ih
    have hbuilds := builds_object hmembers
    rw [List.map_map, List.map_map] at hbuilds
    rw [spelling, node, memberSpellings_eq_map, memberNodes_eq_map]
    exact hbuilds

/-- A text is parsed as the tree that its lexemes build. -/
theorem parse_of_builds {text : String} {spelled : List Lexeme} {node : Node}
    (htext : Spells text spelled) (h : Builds spelled node) : parse text = { root := node } := by
  have hlexemes := htext [] nofun
  rw [List.append_nil] at hlexemes
  rw [parse, hlexemes, h, lexemes]
  rfl

/-- A text that is cut into the lexemes of a value has the tree of the value. -/
theorem parse_of_spells {text : String} {value : Json} (h : Spells text (spelling value)) :
    parse text = { root := value.node } :=
  parse_of_builds h (builds_spelling value)

end NativeBindings.Json
