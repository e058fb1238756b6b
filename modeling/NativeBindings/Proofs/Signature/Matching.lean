/-
NativeBindings/Proofs/Signature/Matching.lean

What a scanner finds.  It compares an image with a packed signature word by word under the mask
words; the comparison holds exactly where the image shows, byte for byte, what the authored tokens
ask for.  One masked word stands for eight tokens (`maskedWord_eq_iff`), words one after the other
stand for the concatenation of their groups (`masksMatch_iff_shows`), and the wildcards behind the
last token ask for nothing (`shows_pad`).
-/
import NativeBindings.Proofs.Signature.Padding

namespace NativeBindings.Signature

/-! ### Tokens against bytes -/

/-- The image begins with bytes that the tokens allow, one after the other. -/
def Shows (image : List UInt8) (tokens : List Token) : Prop :=
  ∀ pair ∈ tokens.zip image, pair.1.Allows pair.2

/-- One byte under its mask byte. -/
theorem Token.and_maskByte_eq_iff (token : Token) (b : UInt8) :
    b &&& token.maskByte = token.signatureByte ↔ token.Allows b := by
  cases token with
  | byte value =>
    have hones : b &&& 0xFF = b := UInt8.and_neg_one
    rw [maskByte, signatureByte, hones, Allows]
  | wildcard => simp [maskByte, signatureByte, Allows]

theorem shows_cons (b : UInt8) (image : List UInt8) (token : Token) (tokens : List Token) :
    Shows (b :: image) (token :: tokens) ↔ token.Allows b ∧ Shows image tokens := by
  simp [Shows]

theorem shows_append (image : List UInt8) (first second : List Token) :
    Shows image (first ++ second) ↔ Shows image first ∧ Shows (image.drop first.length) second := by
  induction first generalizing image with
  | nil => simp [Shows]
  | cons token first ih =>
    cases image with
    | nil => simp [Shows]
    | cons b image =>
      rw [List.cons_append, shows_cons, ih, shows_cons, List.length_cons, List.drop_succ_cons,
        and_assoc]

/-- Only as many bytes count as there are tokens. -/
theorem shows_take (image : List UInt8) (tokens : List Token) :
    Shows (image.take tokens.length) tokens ↔ Shows image tokens := by
  induction tokens generalizing image with
  | nil => simp [Shows]
  | cons token tokens ih =>
    cases image with
    | nil => simp
    | cons b image => rw [List.length_cons, List.take_succ_cons, shows_cons, ih, shows_cons]

/-- Wildcards allow everything. -/
theorem shows_replicate_wildcard (image : List UInt8) (count : Nat) :
    Shows image (List.replicate count Token.wildcard) := by
  intro pair hpair
  have htoken := List.eq_of_mem_replicate (List.of_mem_zip hpair).1
  rw [htoken]
  trivial

/-- Padding asks for nothing. -/
theorem shows_pad (image : List UInt8) (tokens : List Token) :
    Shows image (pad tokens) ↔ Shows image tokens := by
  rw [pad, shows_append, and_iff_left (shows_replicate_wildcard _ _)]

/-- What the image shows, place by place. -/
theorem shows_iff_forall {image : List UInt8} {tokens : List Token}
    (h : tokens.length ≤ image.length) :
    Shows image tokens ↔ ∀ (j : Nat) (token : Token), tokens[j]? = some token →
      token = .wildcard ∨ ∃ value, token = .byte value ∧ image[j]? = some value := by
  induction tokens generalizing image with
  | nil => simp [Shows]
  | cons token tokens ih =>
    cases image with
    | nil => cases h
    | cons b image =>
      have hallows : token.Allows b ↔
          (token = .wildcard ∨ ∃ value, token = .byte value ∧ b = value) := by
        cases token with
        | wildcard => exact iff_of_true trivial (.inl rfl)
        | byte value =>
          constructor
          · rintro rfl
            exact .inr ⟨_, rfl, rfl⟩
          · rintro (hbyte | ⟨_, hbyte, rfl⟩)
            · cases hbyte
            · cases hbyte
              rfl
      rw [shows_cons, ih (Nat.le_of_succ_le_succ h), hallows]
      constructor
      · rintro ⟨hfirst, hrest⟩ j token' htoken
        cases j with
        | zero =>
          obtain rfl : token = token' := by simpa using htoken
          simpa using hfirst
        | succ j => simpa using hrest j token' (by simpa using htoken)
      · intro hall
        refine ⟨by simpa using hall 0 token rfl, fun j token' htoken => ?_⟩
        simpa using hall (j + 1) token' (by simpa using htoken)

/-! ### Words against groups -/

/-- The bytes of one word under its mask, before they are assembled. -/
theorem zipWith_and_eq_iff_shows {group : List Token} {bytes : List UInt8}
    (h : bytes.length = group.length) :
    List.zipWith (· &&& ·) bytes (group.map Token.maskByte) = group.map Token.signatureByte ↔
      Shows bytes group := by
  induction group generalizing bytes with
  | nil => simp [Shows]
  | cons token group ih =>
    cases bytes with
    | nil => cases h
    | cons b bytes =>
      rw [shows_cons, List.map_cons, List.map_cons, List.zipWith_cons_cons, List.cons_eq_cons,
        token.and_maskByte_eq_iff, ih (Nat.succ.inj h)]

/-- One masked word stands for its group of tokens. -/
theorem maskedWord_eq_iff {group : List Token} {bytes : List UInt8}
    (hgroup : group.length = bytesPerWord) (hbytes : bytes.length = bytesPerWord) :
    wordOfBytes bytes &&& wordOfBytes (group.map Token.maskByte) =
        wordOfBytes (group.map Token.signatureByte) ↔ Shows bytes group := by
  have hmask : (group.map Token.maskByte).length = bytesPerWord := by rw [List.length_map, hgroup]
  have hsig : (group.map Token.signatureByte).length = bytesPerWord := by
    rw [List.length_map, hgroup]
  -- words are equal if their bytes are, and masking goes through to the bytes
  rw [← zipWith_and_eq_iff_shows (hbytes.trans hgroup.symm)]
  constructor
  · intro h
    rw [← wordBytes_wordOfBytes hsig, ← h, wordBytes_and, wordBytes_wordOfBytes hbytes,
      wordBytes_wordOfBytes hmask]
  · intro h
    apply eq_of_wordBytes_eq
    rw [wordBytes_and, wordBytes_wordOfBytes hbytes, wordBytes_wordOfBytes hmask, h,
      wordBytes_wordOfBytes hsig]

/-- Masked words one after the other stand for their groups one after the other. -/
theorem masksMatch_iff_shows {gs : List (List Token)}
    (hgs : ∀ group ∈ gs, group.length = bytesPerWord) {image : List UInt8}
    (himage : bytesPerWord * gs.length ≤ image.length) :
    MasksMatch (gs.map fun group => wordOfBytes (group.map Token.signatureByte))
        (gs.map fun group => wordOfBytes (group.map Token.maskByte)) image ↔
      Shows image gs.flatten := by
  induction gs generalizing image with
  | nil => simp [MasksMatch, Shows]
  | cons group rest ih =>
    -- the first word looks at the first eight bytes, the other words at what is behind them
    have hgroup := hgs group (by simp)
    rw [List.length_cons, Nat.mul_succ] at himage
    have hfirst : (image.take bytesPerWord).length = bytesPerWord := by
      rw [List.length_take]
      omega
    have hrest : bytesPerWord * rest.length ≤ (image.drop bytesPerWord).length := by
      rw [List.length_drop]
      omega
    rw [List.map_cons, List.map_cons, MasksMatch, maskedWord_eq_iff hgroup hfirst,
      ih (fun g hg => hgs g (by simp [hg])) hrest, List.flatten_cons, shows_append,
      ← hgroup, shows_take]

/-- The comparison of all words, word number by word number. -/
theorem masksMatch_iff_forall {signatures masks : List UInt64} {image : List UInt8} :
    MasksMatch signatures masks image ↔
      ∀ (i : Nat) (word mask : UInt64), signatures[i]? = some word → masks[i]? = some mask →
        wordOfBytes ((image.drop (bytesPerWord * i)).take bytesPerWord) &&& mask = word := by
  induction signatures generalizing masks image with
  | nil => simp [MasksMatch]
  | cons word signatures ih =>
    cases masks with
    | nil => simp [MasksMatch]
    | cons mask masks =>
      rw [MasksMatch, ih]
      constructor
      · rintro ⟨hfirst, hrest⟩ i word' mask' hword hmask
        cases i with
        | zero =>
          obtain rfl : word = word' := by simpa using hword
          obtain rfl : mask = mask' := by simpa using hmask
          exact hfirst
        | succ i =>
          -- the comparison drops eight bytes at each word, the statement all of them at once
          have := hrest i word' mask' (by simpa using hword) (by simpa using hmask)
          rw [List.drop_drop] at this
          rw [Nat.mul_succ, Nat.add_comm]
          exact this
      · intro h
        refine ⟨h 0 word mask rfl rfl, fun i word' mask' hword hmask => ?_⟩
        have := h (i + 1) word' mask' (by simpa using hword) (by simpa using hmask)
        rw [Nat.mul_succ, Nat.add_comm] at this
        rw [List.drop_drop]
        exact this

end NativeBindings.Signature

namespace NativeBindings

open Signature

/-! ### Encoded signatures against images -/

/-- The masked comparison of an image with all words of a packed signature. -/
def PackedSignature.Matches (packed : PackedSignature) (image : List UInt8) : Prop :=
  ∀ (i : Nat) (word mask : UInt64),
    packed.signatureWords[i]? = some word → packed.maskWords[i]? = some mask →
      wordOfBytes ((image.drop (bytesPerWord * i)).take bytesPerWord) &&& mask = word

theorem PackedSignature.matches_ofTokens {tokens : List Token} {relocationOffsets : List UInt8}
    {image : List UInt8} (h : (pad tokens).length ≤ image.length) :
    (ofTokens tokens relocationOffsets).Matches image ↔ Shows image tokens := by
  have hgroups : ∀ group ∈ groups (pad tokens), group.length = bytesPerWord :=
    fun _ => length_of_mem_groups
  rw [length_pad_eq] at h
  rw [← shows_pad, ← flatten_groups_pad, ← masksMatch_iff_shows hgroups h, masksMatch_iff_forall]
  rfl

/-- **Masked words mean the authored pattern.**  There are as many mask words as signature words,
an image agrees with all of them exactly where it shows every authored token, and two images that
agree on the authored places are not told apart by the padding. -/
theorem Signature.encode_matches_iff {signature : Signature} {packed : PackedSignature}
    (h : signature.encode = .ok packed) :
    ∃ tokens, tokenize signature.pattern = .ok tokens ∧
      packed.maskWords.length = packed.signatureWords.length ∧
      tokens.length ≤ bytesPerWord * packed.signatureWords.length ∧
      (∀ image : List UInt8, bytesPerWord * packed.signatureWords.length ≤ image.length →
        (packed.Matches image ↔ ∀ (j : Nat) (token : Token), tokens[j]? = some token →
          token = .wildcard ∨ ∃ value, token = .byte value ∧ image[j]? = some value)) ∧
      (∀ image other : List UInt8,
        bytesPerWord * packed.signatureWords.length ≤ image.length →
        bytesPerWord * packed.signatureWords.length ≤ other.length →
        image.take tokens.length = other.take tokens.length →
          (packed.Matches image ↔ packed.Matches other)) := by
  obtain ⟨tokens, htokens, rfl⟩ := encode_eq_ok_iff.mp h
  have hwords : bytesPerWord *
      (PackedSignature.ofTokens tokens signature.relocationOffsets).signatureWords.length =
        (pad tokens).length := by
    rw [length_pad_eq]
    exact congrArg _ (length_pack _ _)
  have hcount : tokens.length ≤ (pad tokens).length := by
    rw [length_pad]
    exact le_paddedLength _
  refine ⟨tokens, htokens, ?_, ?_, ?_, ?_⟩
  · exact (length_pack _ _).trans (length_pack _ _).symm
  · rw [hwords]
    exact hcount
  · intro image himage
    rw [hwords] at himage
    rw [PackedSignature.matches_ofTokens himage, shows_iff_forall (Nat.le_trans hcount himage)]
  · intro image other himage hother hagree
    rw [hwords] at himage hother
    rw [PackedSignature.matches_ofTokens himage, PackedSignature.matches_ofTokens hother,
      ← shows_take, hagree, shows_take]

/-- A pattern of nine tokens needs two words; the image after the ninth byte is free. -/
theorem Signature.encode_matches_iff_nine_tokens :
    ∃ packed, ({ pattern := "48 8b ?? 10 e8 00 00 00 0f" } : Signature).encode = .ok packed ∧
      packed.Matches [0x48, 0x8B, 0x77, 0x10, 0xE8, 0, 0, 0, 0x0F, 1, 2, 3, 4, 5, 6, 7] ∧
      ¬ packed.Matches [0x48, 0x8B, 0x77, 0x10, 0xE8, 0, 0, 0, 0xF0, 1, 2, 3, 4, 5, 6, 7] := by
  obtain ⟨packed, h⟩ : ∃ packed,
      ({ pattern := "48 8b ?? 10 e8 00 00 00 0f" } : Signature).encode = .ok packed := ⟨_, rfl⟩
  obtain ⟨tokens, htokens, -, hcount, hmatches, -⟩ := encode_matches_iff h
  have hread : tokenize "48 8b ?? 10 e8 00 00 00 0f" = .ok [.byte 0x48, .byte 0x8B, .wildcard,
      .byte 0x10, .byte 0xE8, .byte 0, .byte 0, .byte 0, .byte 0x0F] := rfl
  obtain rfl := Except.ok.inj (htokens.symm.trans hread)
  have hlong (image : List UInt8) (himage : image.length = 16) :
      bytesPerWord * packed.signatureWords.length ≤ image.length := by
    cases h
    exact Nat.le_of_eq himage.symm
  refine ⟨packed, h, (hmatches _ (hlong _ rfl)).mpr ?_, fun hwrong => ?_⟩
  · apply (shows_iff_forall (by decide)).mp
    simp [Shows, Token.Allows]
  · have := (hmatches _ (hlong _ rfl)).mp hwrong 8 (.byte 0x0F) rfl
    simp at this

end NativeBindings
