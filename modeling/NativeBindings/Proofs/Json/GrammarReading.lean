/-
NativeBindings/Proofs/Json/GrammarReading.lean

Texts of the grammar and the trees that they are read as.  A text yields a tree if it is cut into
lexemes that build the tree (`Yields`).  White space around a text changes nothing, and an array or
an object yields the tree of what its parts yield, so every value yields a tree, and one that can be
passed over:

    IsValue text  →  ∃ node, Yields text node ∧ node.skip = .ok ()

A string yields its pieces, whatever they mean, and a number its digits.
-/
import NativeBindings.Json.Reader
import NativeBindings.Proofs.Json.ValueReading

namespace NativeBindings.Json

open Text

/-- Where each item has an image with a property, so has the list. -/
theorem exists_forall₂ {α β : Type} {R : α → β → Prop} {P : β → Prop} {xs : List α}
    (h : ∀ x ∈ xs, ∃ y, R x y ∧ P y) : ∃ ys, List.Forall₂ R xs ys ∧ ∀ y ∈ ys, P y := by
  induction xs with
  | nil => exact ⟨[], .nil, List.forall_mem_nil P⟩
  | cons x xs ih =>
    obtain ⟨⟨y, hxy, hy⟩, hrest⟩ := List.forall_mem_cons.mp h
    obtain ⟨ys, hys, hall⟩ := ih hrest
    exact ⟨y :: ys, .cons hxy hys, List.forall_mem_cons.mpr ⟨hy, hall⟩⟩

/-- Where each pair of items has something between them, so have the lists. -/
theorem exists_between {α β γ : Type} {R : α → γ → Prop} {P : γ → Prop} {f : γ → β} {xs : List α}
    {ys : List β} (h : List.Forall₂ (fun x y => ∃ z, R x z ∧ P z ∧ f z = y) xs ys) :
    ∃ zs, List.Forall₂ R xs zs ∧ (∀ z ∈ zs, P z) ∧ zs.map f = ys := by
  induction h with
  | nil => exact ⟨[], .nil, List.forall_mem_nil P, rfl⟩
  | cons hfirst _ ih =>
    obtain ⟨z, hz, hproperty, rfl⟩ := hfirst
    obtain ⟨zs, hzs, hall, rfl⟩ := ih
    exact ⟨z :: zs, .cons hz hzs, List.forall_mem_cons.mpr ⟨hproperty, hall⟩, rfl⟩

/-! ### White space and punctuation -/

section Texts

variable {gap text padded : String} {spelled : List Lexeme} {rest : List Char}

theorem IsWhite.isSpace (h : IsWhite gap) : ∀ c ∈ gap.toList, isSpace c = true := by
  intro c hc
  obtain rfl | rfl | rfl | rfl := h c hc <;> rfl

/-- White space does not go on with a number. -/
theorem IsWhite.endsNumeral (h : IsWhite gap) (hrest : EndsNumeral rest) :
    EndsNumeral (gap.toList ++ rest) := by
  intro c hc
  rcases hgap : gap.toList with - | ⟨first, others⟩
  · rw [hgap] at hc
    exact hrest c hc
  · rw [hgap] at hc
    obtain rfl := Option.some.inj hc
    obtain rfl | rfl | rfl | rfl := h first (by rw [hgap]; exact List.mem_cons_self)
    all_goals decide

/-- **White space around a text changes nothing.** -/
theorem Spells.pad (h : Spells text spelled) (hpadded : IsPadded text padded) :
    Spells padded spelled := by
  obtain ⟨before, after, hbefore, hafter, rfl⟩ := hpadded
  intro rest hrest
  rw [String.toList_append, String.toList_append, List.append_assoc, List.append_assoc,
    lexemes_blanks hbefore.isSpace, h _ (hafter.endsNumeral hrest), lexemes_blanks hafter.isSpace]

/-- Parts between brackets are cut into their lexemes. -/
theorem Spells.enclosed {parts : List String} {spellings : List (List Lexeme)}
    {opening closing : Char} {first last : Lexeme} (h : List.Forall₂ Spells parts spellings)
    (hfirst : punctuation? opening = some first) (hlast : punctuation? closing = some last)
    (htext : Enclosed (String.ofList [opening]) (String.ofList [closing]) parts text) :
    Spells text (first :: ([.comma].intercalate spellings ++ [last])) := by
  obtain ⟨gap, padded, hgap, hpadded, rfl⟩ := htext
  have hparts : List.Forall₂ Spells padded spellings := by
    induction hpadded generalizing spellings with
    | nil => exact h
    | cons hpad _ ih =>
      obtain ⟨spelled, others, hspelled, hothers, rfl⟩ := List.forall₂_cons_left_iff.mp h
      exact .cons (hspelled.pad hpad) (ih hothers)
  have hbody : Spells (gap ++ ",".intercalate padded) ([.comma].intercalate spellings) := by
    intro rest hrest
    rw [String.toList_append, List.append_assoc, lexemes_blanks hgap.isSpace]
    exact Spells.intercalate "" (by simp) hparts rest hrest
  refine Spells.enclose opening closing hbody hfirst hlast ?_
  simp

end Texts

/-! ### Strings -/

/-- **A string is one lexeme**, with the pieces that are spelled. -/
theorem spells_pieces {pieces : List Piece} {text : String} (h : SpellsPieces pieces text) :
    Spells text [.string { pieces }] := by
  obtain ⟨spelled, hspelled, rfl⟩ := h
  intro rest _
  have htext : ("\"" ++ String.join spelled ++ "\"").toList ++ rest =
      '"' :: ((String.join spelled).toList ++ '"' :: rest) := by
    simp
  rw [htext, lexemes_cons rfl, scanLexeme]
  show Lexeme.string (scanString _).1 :: lexemes (scanString _).2 = _
  rw [scanString_pieces hspelled]
  rfl

/-! ### Numbers -/

section Numbers

variable {numeral : Numeral} {digits exponent fraction : String} {rest : List Char}

theorem IsDigits.toList_ne_nil (h : IsDigits digits) : digits.toList ≠ [] := by
  intro hnil
  exact h.1 (String.toList_eq_nil_iff.mp hnil)

theorem IsDigits.span (h : IsDigits digits) (hrest : ∀ c ∈ rest.head?, c.isDigit = false) :
    (digits.toList ++ rest).takeWhile Char.isDigit = digits.toList ∧
      (digits.toList ++ rest).dropWhile Char.isDigit = rest :=
  span_isDigit_append h.2 hrest

/-- A digit in front of an exponent is no sign. -/
theorem IsDigits.scanExponentSign (h : IsDigits digits) (rest : List Char) :
    scanExponentSign (digits.toList ++ rest) = (false, digits.toList ++ rest) := by
  obtain ⟨first, others, hdigits⟩ := List.exists_cons_of_ne_nil h.toList_ne_nil
  have hfirst := h.2 first (by rw [hdigits]; exact List.mem_cons_self)
  rw [hdigits, List.cons_append]
  unfold Json.scanExponentSign
  split
  · rename_i heq
    obtain ⟨rfl, -⟩ := List.cons.inj heq
    cases hfirst
  · rename_i heq
    obtain ⟨rfl, -⟩ := List.cons.inj heq
    cases hfirst
  · rfl

/-- The mark of an exponent is one character. -/
theorem exists_toList_mark {mark : String} (h : mark = "e" ∨ mark = "E") :
    ∃ c, (c = 'e' ∨ c = 'E') ∧ mark.toList = [c] := by
  rcases h with rfl | rfl
  · exact ⟨'e', .inl rfl, rfl⟩
  · exact ⟨'E', .inr rfl, rfl⟩

theorem scanExponent_digits (numeral : Numeral) {c : Char} {sign : List Char} {negative : Bool}
    (hc : c = 'e' ∨ c = 'E') (h : IsDigits digits)
    (hsign : scanExponentSign (sign ++ (digits.toList ++ rest)) = (negative, digits.toList ++ rest))
    (hrest : EndsNumeral rest) :
    scanExponent numeral (c :: (sign ++ (digits.toList ++ rest))) =
      (.numeral { numeral with exponent := some (negative, digits.toList) }, rest) := by
  obtain ⟨htake, hdrop⟩ := h.span fun d hd => (hrest d hd).1
  have hempty : digits.toList.isEmpty = false := List.isEmpty_eq_false_iff.mpr h.toList_ne_nil
  rw [scanExponent, if_pos hc, hsign]
  simp only [htake, hdrop, hempty, Bool.false_eq_true, if_false]

/-- An exponent is scanned to its last digit. -/
theorem IsExponent.scan (h : IsExponent exponent) (numeral : Numeral) :
    ∃ scanned, ∀ rest, EndsNumeral rest →
      scanExponent numeral (exponent.toList ++ rest) = (.numeral scanned, rest) := by
  cases h with
  | none => exact ⟨numeral, fun rest hrest => scanExponent_of_endsNumeral numeral hrest⟩
  | @some mark sign digits hmark hsign hdigits =>
    obtain ⟨c, hc, hmark⟩ := exists_toList_mark hmark
    have hspelled (rest : List Char) : (mark ++ sign ++ digits).toList ++ rest =
        c :: (sign.toList ++ (digits.toList ++ rest)) := by
      simp [hmark]
    simp only [hspelled]
    rcases hsign with rfl | rfl | rfl
    · exact ⟨_, fun rest hrest =>
        scanExponent_digits numeral hc hdigits (hdigits.scanExponentSign rest) hrest⟩
    · exact ⟨_, fun rest hrest => scanExponent_digits numeral hc hdigits rfl hrest⟩
    · exact ⟨_, fun rest hrest => scanExponent_digits numeral hc hdigits rfl hrest⟩

/-- An exponent does not go on with the digits before it, nor with a point. -/
theorem IsExponent.head (h : IsExponent exponent) (hrest : EndsNumeral rest) :
    ∀ c ∈ (exponent.toList ++ rest).head?, c.isDigit = false ∧ c ≠ '.' := by
  cases h with
  | none => exact fun c hc => ⟨(hrest c hc).1, (hrest c hc).2.1⟩
  | @some mark sign digits hmark hsign hdigits =>
    obtain ⟨first, hfirst, hmark⟩ := exists_toList_mark hmark
    intro c hc
    rw [String.toList_append, String.toList_append, hmark] at hc
    obtain rfl := Option.some.inj hc
    obtain rfl | rfl := hfirst
    · decide
    · decide

/-- A fraction and an exponent are scanned to their last digits. -/
theorem IsFraction.scan (h : IsFraction fraction) (hexponent : IsExponent exponent)
    (numeral : Numeral) :
    ∃ scanned, ∀ rest, EndsNumeral rest →
      scanFraction numeral (fraction.toList ++ (exponent.toList ++ rest)) =
        (.numeral scanned, rest) := by
  cases h with
  | none =>
    obtain ⟨scanned, hscanned⟩ := hexponent.scan numeral
    refine ⟨scanned, fun rest hrest => ?_⟩
    have hhead := hexponent.head hrest
    show scanFraction numeral (exponent.toList ++ rest) = _
    rw [scanFraction.eq_def]
    split
    · rename_i heq
      rw [heq] at hhead
      exact absurd rfl (hhead '.' rfl).2
    · exact hscanned rest hrest
  | @some digits hdigits =>
    obtain ⟨scanned, hscanned⟩ := hexponent.scan { numeral with fraction := digits.toList }
    refine ⟨scanned, fun rest hrest => ?_⟩
    obtain ⟨htake, hdrop⟩ := hdigits.span fun c hc => (hexponent.head hrest c hc).1
    have hempty : digits.toList.isEmpty = false :=
      List.isEmpty_eq_false_iff.mpr hdigits.toList_ne_nil
    have hspelled : ("." ++ digits).toList ++ (exponent.toList ++ rest) =
        '.' :: (digits.toList ++ (exponent.toList ++ rest)) := by
      simp
    rw [hspelled, scanFraction]
    simp only [htake, hdrop, hempty, Bool.false_eq_true, if_false]
    exact hscanned rest hrest

/-- What stands behind the whole digits is no digit. -/
theorem IsFraction.head (h : IsFraction fraction) (hexponent : IsExponent exponent)
    (hrest : EndsNumeral rest) :
    ∀ c ∈ (fraction.toList ++ (exponent.toList ++ rest)).head?, c.isDigit = false := by
  cases h with
  | none => exact fun c hc => (hexponent.head hrest c hc).1
  | @some digits hdigits =>
    intro c hc
    rw [String.toList_append] at hc
    obtain rfl := Option.some.inj hc
    decide

/-- **A number is one lexeme**, whatever follows that does not go on with it. -/
theorem IsNumber.spells {text : String} (h : IsNumber text) :
    ∃ numeral, Spells text [.number (.numeral numeral)] := by
  obtain ⟨sign, whole, fraction, exponent, hsign, hwhole, hzero, hfraction, hexponent, rfl⟩ := h
  have hspelled (rest : List Char) : (sign ++ whole ++ fraction ++ exponent).toList ++ rest =
      sign.toList ++ (whole.toList ++ (fraction.toList ++ (exponent.toList ++ rest))) := by
    simp
  have hleading : ¬(whole.toList.head? = some '0' ∧ 1 < whole.toList.length) := by
    rintro ⟨hfirst, hlength⟩
    rw [hzero hfirst] at hlength
    exact absurd hlength (by decide)
  -- the sign is looked at before the digits
  have hscan (negative : Bool) : ∃ numeral, ∀ rest, EndsNumeral rest →
      scanMagnitude negative (whole.toList ++ (fraction.toList ++ (exponent.toList ++ rest))) =
        (.numeral numeral, rest) := by
    obtain ⟨numeral, hnumeral⟩ := hfraction.scan hexponent { negative, whole := whole.toList }
    refine ⟨numeral, fun rest hrest => ?_⟩
    rw [scanMagnitude_digits negative hwhole.toList_ne_nil hwhole.2 hleading
      (hfraction.head hexponent hrest), hnumeral rest hrest]
  rcases hsign with rfl | rfl
  · obtain ⟨numeral, hnumeral⟩ := hscan false
    refine ⟨numeral, fun rest hrest => ?_⟩
    obtain ⟨first, others, hdigits⟩ := List.exists_cons_of_ne_nil hwhole.toList_ne_nil
    have hfirst := hwhole.2 first (by rw [hdigits]; exact List.mem_cons_self)
    have hmagnitude := hnumeral rest hrest
    rw [hdigits, List.cons_append] at hmagnitude
    rw [hspelled]
    show lexemes (whole.toList ++ _) = _
    rw [hdigits, List.cons_append, lexemes_cons (isSpace_of_isDigit hfirst),
      scanLexeme_digit hfirst, hmagnitude]
    rfl
  · obtain ⟨numeral, hnumeral⟩ := hscan true
    refine ⟨numeral, fun rest hrest => ?_⟩
    rw [hspelled]
    show lexemes ('-' :: (whole.toList ++ _)) = _
    rw [lexemes_cons rfl, scanLexeme]
    show Lexeme.number (scanMagnitude true _).1 :: lexemes (scanMagnitude true _).2 = _
    rw [hnumeral rest hrest]
    rfl

end Numbers

/-! ### Trees -/

/-- A text is cut into lexemes that begin a value and build a tree. -/
def Yields (text : String) (node : Node) : Prop :=
  ∃ spelled, Spells text spelled ∧ Begins spelled ∧ Builds spelled node

/-- A text is cut into a key, a colon and the lexemes of a value. -/
def YieldsMember (text : String) (entry : StringLexeme × Node) : Prop :=
  ∃ spelled, Spells text (.string entry.1 :: .colon :: spelled) ∧ Builds spelled entry.2

namespace Yields

variable {text padded : String} {node : Node} {lexeme : Lexeme}

theorem parse (h : Yields text node) : parse text = { root := node } := by
  obtain ⟨spelled, hspells, -, hbuilds⟩ := h
  exact parse_of_builds hspells hbuilds

theorem pad (h : Yields text node) (hpadded : IsPadded text padded) : Yields padded node := by
  obtain ⟨spelled, hspells, hbegins, hbuilds⟩ := h
  exact ⟨spelled, hspells.pad hpadded, hbegins, hbuilds⟩

/-- A lexeme that is a value by itself. -/
theorem scalar (h : Spells text [lexeme])
    (hbegin : ∀ stack, beginValue stack lexeme = some (.after node stack)) : Yields text node :=
  ⟨[lexeme], h, ⟨lexeme, [], rfl, fun stack => ⟨_, hbegin stack⟩⟩, builds_scalar hbegin⟩

theorem null : Yields "null" .null :=
  .scalar (fun rest _ => (lexemes_literals rest).1) fun _ => rfl

theorem bool (b : Bool) : Yields (if b then "true" else "false") (.bool b) := by
  cases b with
  | true => exact .scalar (fun rest _ => (lexemes_literals rest).2.1) fun _ => rfl
  | false => exact .scalar (fun rest _ => (lexemes_literals rest).2.2) fun _ => rfl

theorem string {pieces : List Piece} (h : SpellsPieces pieces text) :
    Yields text (.string { pieces }) :=
  .scalar (spells_pieces h) fun _ => rfl

/-- **Items between brackets yield an array.** -/
theorem array {items : List String} {nodes : List Node} (h : List.Forall₂ Yields items nodes)
    (htext : Enclosed "[" "]" items text) : Yields text (.array nodes none) := by
  have hbetween : List.Forall₂ (fun item node => ∃ part : List Lexeme × Node,
      Spells item part.1 ∧ (Begins part.1 ∧ Builds part.1 part.2) ∧ part.2 = node) items nodes := by
    refine h.imp ?_
    rintro item node ⟨spelled, hspells, hvalue⟩
    exact ⟨(spelled, node), hspells, hvalue, rfl⟩
  obtain ⟨parts, hspells, hparts, rfl⟩ := exists_between hbetween
  rw [← List.forall₂_map_right_iff] at hspells
  exact ⟨_, Spells.enclosed hspells rfl rfl htext, ⟨_, _, rfl, fun _ => ⟨_, rfl⟩⟩,
    builds_array hparts⟩

/-- **Members between braces yield an object.** -/
theorem object {members : List String} {entries : List (StringLexeme × Node)}
    (h : List.Forall₂ YieldsMember members entries)
    (htext : Enclosed "\x7b" "\x7d" members text) : Yields text (.object entries none) := by
  have hbetween : List.Forall₂ (fun text entry => ∃ member : MemberParts,
      Spells text member.lexemes ∧ Builds member.2.1 member.2.2 ∧ member.entry = entry)
      members entries := by
    refine h.imp ?_
    rintro text ⟨key, node⟩ ⟨spelled, hspells, hbuilds⟩
    exact ⟨(key, spelled, node), hspells, hbuilds, rfl⟩
  obtain ⟨parts, hspells, hparts, rfl⟩ := exists_between hbetween
  rw [← List.forall₂_map_right_iff] at hspells
  exact ⟨_, Spells.enclosed hspells rfl rfl htext, ⟨_, _, rfl, fun _ => ⟨_, rfl⟩⟩,
    builds_object hparts⟩

/-- A key and a value yield a member. -/
theorem member {member : MemberText} {pieces : List Piece} (h : Yields member.value node)
    (hkey : SpellsPieces pieces member.key) (hjoined : member.IsJoined) :
    YieldsMember member.text ({ pieces }, node) := by
  obtain ⟨spelled, hspells, -, hbuilds⟩ := h
  obtain ⟨before, after, hbefore, hafter, htext⟩ := hjoined
  refine ⟨spelled, fun rest hrest => ?_, hbuilds⟩
  have hspelled : member.text.toList ++ rest = member.key.toList ++ (before.toList ++
      ':' :: (after.toList ++ (member.value.toList ++ rest))) := by
    rw [htext]
    simp
  have hcolon : punctuation? ':' = some .colon := rfl
  rw [hspelled, spells_pieces hkey _ (hbefore.endsNumeral ((of_punctuation hcolon).2 _)),
    lexemes_blanks hbefore.isSpace, lexemes_punctuation hcolon, lexemes_blanks hafter.isSpace,
    hspells rest hrest]
  rfl

end Yields

/-! ### Values that are passed over -/

theorem skipItems_eq_ok {nodes : List Node} (h : ∀ node ∈ nodes, node.skip = .ok ()) :
    skipItems nodes = .ok () := by
  induction nodes with
  | nil => rfl
  | cons node nodes ih =>
    obtain ⟨hnode, hnodes⟩ := List.forall_mem_cons.mp h
    rw [skipItems, hnode]
    exact ih hnodes

theorem skipMembers_eq_ok {entries : List (StringLexeme × Node)}
    (h : ∀ entry ∈ entries, entry.1.skip = .ok () ∧ entry.2.skip = .ok ()) :
    skipMembers entries = .ok () := by
  induction entries with
  | nil => rfl
  | cons entry entries ih =>
    obtain ⟨⟨hkey, hnode⟩, hentries⟩ := List.forall_mem_cons.mp h
    rw [skipMembers, hkey]
    show (do entry.2.skip; skipMembers entries) = _
    rw [hnode]
    exact ih hentries

/-- **Every value can be passed over**, of any depth and whatever its strings and numbers are. -/
theorem exists_yields_skip {text : String} (h : IsValue text) :
    ∃ node, Yields text node ∧ node.skip = .ok () := by
  induction h with
  | null => exact ⟨.null, .null, rfl⟩
  | true => exact ⟨.bool true, .bool true, rfl⟩
  | false => exact ⟨.bool false, .bool false, rfl⟩
  | number h =>
    obtain ⟨numeral, hspells⟩ := h.spells
    exact ⟨.number (.numeral numeral), .scalar hspells fun _ => rfl, rfl⟩
  | string h =>
    obtain ⟨pieces, hpieces⟩ := h
    exact ⟨.string { pieces }, .string hpieces, rfl⟩
  | array _ htext ih =>
    obtain ⟨nodes, hnodes, hskip⟩ := exists_forall₂ ih
    refine ⟨.array nodes none, .array hnodes htext, ?_⟩
    rw [Node.skip, skipItems_eq_ok hskip]
    rfl
  | @object members text hkeys _ hjoined htext ih =>
    have hentries : ∀ member ∈ members, ∃ entry : StringLexeme × Node,
        YieldsMember member.text entry ∧ entry.1.skip = .ok () ∧ entry.2.skip = .ok () := by
      intro member hmember
      obtain ⟨pieces, hpieces⟩ := hkeys member hmember
      obtain ⟨node, hnode, hskip⟩ := ih member hmember
      exact ⟨_, hnode.member hpieces (hjoined member hmember), rfl, hskip⟩
    obtain ⟨entries, hyields, hskip⟩ := exists_forall₂ hentries
    rw [← List.forall₂_map_left_iff (f := MemberText.text)] at hyields
    refine ⟨.object entries none, .object hyields htext, ?_⟩
    rw [Node.skip, skipMembers_eq_ok hskip]
    rfl

end NativeBindings.Json
