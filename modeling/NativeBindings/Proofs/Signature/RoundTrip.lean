/-
NativeBindings/Proofs/Signature/RoundTrip.lean

Encoding and decoding.  Unpacking the words of an encoded signature gives the authored tokens back,
followed by the padding and by nothing else.  In the other direction, not every pair of word lists
comes from an encoding: mask bytes are all or nothing, and a signature word has no bits outside its
mask (`MaskedWords`).  These are exactly the words that encoding produces (`maskedWords_pack`) and
the words that it reproduces from their own printed tokens (`pack_unpack`).
-/
import NativeBindings.Proofs.Signature.Matching
import NativeBindings.Proofs.Signature.Printing

namespace NativeBindings.Signature

/-! ### Bytes under their mask bytes -/

/-- A byte that a token can contribute, next to the mask byte of that token. -/
structure MaskedByte (b mask : UInt8) : Prop where
  allOrNothing : mask = 0x00 ∨ mask = 0xFF
  covered : b &&& mask = b

namespace Token

theorem maskByte_ofBytes {b mask : UInt8} (h : MaskedByte b mask) :
    (ofBytes b mask).maskByte = mask := by
  rcases h.allOrNothing with rfl | rfl <;> rfl

theorem signatureByte_ofBytes {b mask : UInt8} (h : MaskedByte b mask) :
    (ofBytes b mask).signatureByte = b := by
  rcases h.allOrNothing with rfl | rfl
  · -- no bit of the byte is outside the empty mask
    have hzero : b &&& 0 = 0 := UInt8.and_zero
    exact hzero.symm.trans h.covered
  · rfl

theorem maskedByte (token : Token) : MaskedByte token.signatureByte token.maskByte where
  allOrNothing := by cases token <;> simp [maskByte]
  covered := by
    apply (token.and_maskByte_eq_iff _).mpr
    cases token
    · rfl
    · trivial

end Token

/-- Bytes inside their masks, all at once and one by one. -/
theorem zipWith_and_eq_left_iff {bytes masks : List UInt8} (h : bytes.length = masks.length) :
    List.zipWith (· &&& ·) bytes masks = bytes ↔
      ∀ pair ∈ bytes.zip masks, pair.1 &&& pair.2 = pair.1 := by
  induction bytes generalizing masks with
  | nil => simp
  | cons b bytes ih =>
    cases masks with
    | nil => cases h
    | cons mask masks =>
      rw [List.zipWith_cons_cons, List.zip_cons_cons, List.cons_eq_cons, List.forall_mem_cons,
        ih (Nat.succ.inj h)]

/-- Bytes of tokens that were made from masked bytes. -/
theorem map_zipWith_ofBytes {bytes masks : List UInt8} (hlength : bytes.length = masks.length)
    (h : ∀ pair ∈ bytes.zip masks, MaskedByte pair.1 pair.2) :
    (List.zipWith Token.ofBytes bytes masks).map Token.signatureByte = bytes ∧
      (List.zipWith Token.ofBytes bytes masks).map Token.maskByte = masks := by
  induction bytes generalizing masks with
  | nil =>
    obtain rfl := List.eq_nil_of_length_eq_zero hlength.symm
    exact ⟨rfl, rfl⟩
  | cons b bytes ih =>
    cases masks with
    | nil => cases hlength
    | cons mask masks =>
      have hfirst : MaskedByte b mask := h (b, mask) (by simp)
      obtain ⟨hsig, hmask⟩ := ih (Nat.succ.inj hlength) fun pair hpair => h pair (by simp [hpair])
      rw [List.zipWith_cons_cons, List.map_cons, List.map_cons, hsig, hmask,
        Token.signatureByte_ofBytes hfirst, Token.maskByte_ofBytes hfirst]
      exact ⟨rfl, rfl⟩

/-! ### Words under their mask words -/

/-- No bits outside a mask, said in two ways. -/
theorem and_compl_eq_zero_iff (word mask : UInt64) :
    word &&& ~~~mask = 0 ↔ word &&& mask = word := by
  constructor
  · intro h
    calc word &&& mask
        = word &&& mask ||| word &&& ~~~mask := by rw [h, UInt64.or_zero]
      _ = word &&& (mask ||| ~~~mask) := UInt64.toBitVec_inj.mp BitVec.and_or_distrib_left.symm
      _ = word := by rw [UInt64.or_not_self, UInt64.and_neg_one]
  · intro h
    calc word &&& ~~~mask
        = word &&& mask &&& ~~~mask := by rw [h]
      _ = word &&& (mask &&& ~~~mask) := UInt64.and_assoc _ _ _
      _ = 0 := by rw [UInt64.and_not_self, UInt64.and_zero]

/-- A word that a group of tokens can be packed into, next to the mask word of that group. -/
structure MaskedWord (word mask : UInt64) : Prop where
  allOrNothing : ∀ b ∈ wordBytes mask, b = 0x00 ∨ b = 0xFF
  covered : word &&& ~~~mask = 0

/-- The bytes of a masked word are masked bytes. -/
theorem MaskedWord.maskedByte {word mask : UInt64} (h : MaskedWord word mask) :
    ∀ pair ∈ (wordBytes word).zip (wordBytes mask), MaskedByte pair.1 pair.2 := by
  have hcovered : List.zipWith (· &&& ·) (wordBytes word) (wordBytes mask) = wordBytes word := by
    rw [← wordBytes_and, (and_compl_eq_zero_iff word mask).mp h.covered]
  have hlength : (wordBytes word).length = (wordBytes mask).length := by
    rw [length_wordBytes, length_wordBytes]
  intro pair hpair
  refine ⟨h.allOrNothing _ (List.of_mem_zip hpair).2, ?_⟩
  exact (zipWith_and_eq_left_iff hlength).mp hcovered pair hpair

/-- Packing a group gives a masked word. -/
theorem maskedWord_of_group {group : List Token} (h : group.length = bytesPerWord) :
    MaskedWord (wordOfBytes (group.map Token.signatureByte))
      (wordOfBytes (group.map Token.maskByte)) where
  allOrNothing := by
    rw [wordBytes_wordOfBytes (by rw [List.length_map, h])]
    intro b hb
    obtain ⟨token, -, rfl⟩ := List.mem_map.mp hb
    exact token.maskedByte.allOrNothing
  covered := by
    -- no bit outside the mask means that masking changes no byte
    have hsig : (group.map Token.signatureByte).length = bytesPerWord := by rw [List.length_map, h]
    apply (and_compl_eq_zero_iff _ _).mpr
    have hmask : (group.map Token.maskByte).length = bytesPerWord := by rw [List.length_map, h]
    apply eq_of_wordBytes_eq
    rw [wordBytes_and, wordBytes_wordOfBytes hsig, wordBytes_wordOfBytes hmask]
    apply (zipWith_and_eq_left_iff (hsig.trans hmask.symm)).mpr
    intro pair hpair
    rw [List.zip_map', List.mem_map] at hpair
    obtain ⟨token, -, rfl⟩ := hpair
    exact token.maskedByte.covered

/-! ### Word lists under their mask lists -/

/-- Word lists that encoding can produce: as many masks as words, and every word masked. -/
structure MaskedWords (signatures masks : List UInt64) : Prop where
  length_eq : signatures.length = masks.length
  masked : ∀ pair ∈ signatures.zip masks, MaskedWord pair.1 pair.2

theorem maskedWords_pack (tokens : List Token) :
    MaskedWords (pack Token.signatureByte tokens) (pack Token.maskByte tokens) where
  length_eq := by rw [length_pack, length_pack]
  masked := by
    intro pair hpair
    rw [pack, pack, List.zip_map', List.mem_map] at hpair
    obtain ⟨group, hgroup, rfl⟩ := hpair
    exact maskedWord_of_group (length_of_mem_groups hgroup)

/-! ### Unpacking -/

@[simp] theorem length_unpackWord (word mask : UInt64) :
    (unpackWord word mask).length = bytesPerWord := by
  rw [unpackWord, List.length_zipWith, length_wordBytes, length_wordBytes, Nat.min_self]

/-- Unpacking undoes packing, group by group. -/
theorem unpackWord_pack {group : List Token} (h : group.length = bytesPerWord) :
    unpackWord (wordOfBytes (group.map Token.signatureByte))
      (wordOfBytes (group.map Token.maskByte)) = group := by
  rw [unpackWord, wordBytes_wordOfBytes (by rw [List.length_map, h]),
    wordBytes_wordOfBytes (by rw [List.length_map, h]), List.zipWith_map, List.zipWith_self]
  have hid : (fun token : Token => Token.ofBytes token.signatureByte token.maskByte) = id :=
    funext Token.ofBytes_signatureByte_maskByte
  rw [hid, List.map_id]

theorem unpack_pack (tokens : List Token) :
    unpack (pack Token.signatureByte tokens) (pack Token.maskByte tokens) =
      (groups tokens).flatten := by
  have hgroups : ∀ group ∈ groups tokens,
      unpackWord (wordOfBytes (group.map Token.signatureByte))
        (wordOfBytes (group.map Token.maskByte)) = group :=
    fun _ hgroup => unpackWord_pack (length_of_mem_groups hgroup)
  rw [unpack, pack, pack, List.zipWith_map, List.zipWith_self, List.map_congr_left hgroups,
    List.map_id']

/-- Packing undoes unpacking where the words are masked. -/
theorem pack_unpackWord {word mask : UInt64} (h : MaskedWord word mask) :
    wordOfBytes ((unpackWord word mask).map Token.signatureByte) = word ∧
      wordOfBytes ((unpackWord word mask).map Token.maskByte) = mask := by
  have hlength : (wordBytes word).length = (wordBytes mask).length := by
    rw [length_wordBytes, length_wordBytes]
  obtain ⟨hsig, hmask⟩ := map_zipWith_ofBytes hlength h.maskedByte
  rw [unpackWord, hsig, hmask, wordOfBytes_wordBytes, wordOfBytes_wordBytes]
  exact ⟨rfl, rfl⟩

/-- The groups of unpacked tokens have eight tokens each. -/
theorem length_of_mem_zipWith_unpackWord {signatures masks : List UInt64} {group : List Token}
    (h : group ∈ List.zipWith unpackWord signatures masks) : group.length = bytesPerWord := by
  rw [← List.map_uncurry_zip_eq_zipWith, List.mem_map] at h
  obtain ⟨pair, -, rfl⟩ := h
  exact length_unpackWord _ _

theorem groups_unpack (signatures masks : List UInt64) :
    groups (unpack signatures masks) = List.zipWith unpackWord signatures masks :=
  groups_flatten fun _ hgroup => length_of_mem_zipWith_unpackWord hgroup

/-- Unpacked tokens fill whole words. -/
theorem pad_unpack (signatures masks : List UInt64) :
    pad (unpack signatures masks) = unpack signatures masks := by
  apply pad_of_dvd
  rw [unpack, length_flatten_of_groups fun _ hgroup => length_of_mem_zipWith_unpackWord hgroup]
  exact Nat.dvd_mul_right _ _

theorem pack_unpack {signatures masks : List UInt64} (h : MaskedWords signatures masks) :
    pack Token.signatureByte (unpack signatures masks) = signatures ∧
      pack Token.maskByte (unpack signatures masks) = masks := by
  obtain ⟨hlength, hmasked⟩ := h
  -- the groups of the unpacked tokens are the unpacked words, so the words are packed one by one
  rw [pack, pack, groups_unpack]
  induction signatures generalizing masks with
  | nil =>
    obtain rfl := List.eq_nil_of_length_eq_zero hlength.symm
    exact ⟨rfl, rfl⟩
  | cons word signatures ih =>
    cases masks with
    | nil => cases hlength
    | cons mask masks =>
      obtain ⟨hword, hmask⟩ := pack_unpackWord (hmasked (word, mask) (by simp))
      obtain ⟨hwords, hmasks⟩ := ih (Nat.succ.inj hlength) fun pair hpair =>
        hmasked pair (by simp [hpair])
      rw [List.zipWith_cons_cons, List.map_cons, List.map_cons, hword, hmask, hwords, hmasks]
      exact ⟨rfl, rfl⟩

end NativeBindings.Signature

namespace NativeBindings

open Signature

/-! ### Encoded signatures -/

theorem PackedSignature.tokens_ofTokens (tokens : List Token) (relocationOffsets : List UInt8) :
    (ofTokens tokens relocationOffsets).tokens = pad tokens := by
  show unpack (pack Token.signatureByte (pad tokens)) (pack Token.maskByte (pad tokens)) = _
  rw [unpack_pack, flatten_groups_pad]

/-- Encoding the printed form of tokens packs these tokens. -/
theorem Signature.encode_join (tokens : List Token) (relocationOffsets : List UInt8) :
    ({ pattern := join tokens, relocationOffsets } : Signature).encode =
      .ok (PackedSignature.ofTokens tokens relocationOffsets) :=
  encode_eq_ok_iff.mpr ⟨tokens, tokenize_join tokens, rfl⟩

/-- **Encoding and decoding undo each other.**  What is unpacked from an encoded signature is what
was authored and its padding, which is also what its padded text says; and the words that encoding
produces are exactly those that come back when their tokens are printed and encoded. -/
theorem Signature.encode_inverse :
    (∀ (signature : Signature) (packed : PackedSignature), signature.encode = .ok packed →
      ∃ tokens, tokenize signature.pattern = .ok tokens ∧
        packed.tokens = tokens ++
          List.replicate (paddedLength tokens.length - tokens.length) Token.wildcard ∧
        tokenize packed.padded = .ok packed.tokens ∧
        MaskedWords packed.signatureWords packed.maskWords) ∧
    (∀ (packed : PackedSignature) (relocationOffsets : List UInt8),
      MaskedWords packed.signatureWords packed.maskWords →
      ∃ again, ({ pattern := join packed.tokens, relocationOffsets } : Signature).encode =
          .ok again ∧
        again.signatureWords = packed.signatureWords ∧ again.maskWords = packed.maskWords) := by
  constructor
  · intro signature packed h
    obtain ⟨tokens, htokens, rfl⟩ := encode_eq_ok_iff.mp h
    refine ⟨tokens, htokens, ?_, ?_, maskedWords_pack _⟩
    · rw [PackedSignature.tokens_ofTokens, pad]
    · rw [PackedSignature.tokens_ofTokens]
      exact tokenize_join (pad tokens)
  · intro packed relocationOffsets h
    refine ⟨_, encode_join packed.tokens relocationOffsets, ?_⟩
    show pack Token.signatureByte (pad packed.tokens) = _ ∧
      pack Token.maskByte (pad packed.tokens) = _
    rw [PackedSignature.tokens, pad_unpack]
    exact pack_unpack h

/-- Both directions at one word with a wildcard inside and padding behind. -/
theorem Signature.encode_inverse_one_word :
    (∃ packed, ({ pattern := "48 8b ?? 10" } : Signature).encode = .ok packed ∧
      packed.tokens = [.byte 0x48, .byte 0x8B, .wildcard, .byte 0x10, .wildcard, .wildcard,
        .wildcard, .wildcard]) ∧
    MaskedWords [0x0000000010008B48] [0x00000000FF00FFFF] ∧
    ∃ again, ({ pattern := "48 8B ?? 10 ?? ?? ?? ??" } : Signature).encode = .ok again ∧
      again.signatureWords = [0x0000000010008B48] ∧ again.maskWords = [0x00000000FF00FFFF] := by
  obtain ⟨hdecode, hencode⟩ := encode_inverse
  have hmasked : MaskedWords [0x0000000010008B48] [0x00000000FF00FFFF] :=
    ⟨rfl, by simpa using ⟨by decide +kernel, by decide +kernel⟩⟩
  refine ⟨?_, hmasked, ?_⟩
  · obtain ⟨packed, h⟩ : ∃ packed, ({ pattern := "48 8b ?? 10" } : Signature).encode = .ok packed :=
      ⟨_, rfl⟩
    obtain ⟨tokens, htokens, hunpacked, -⟩ := hdecode _ packed h
    have hread : tokenize "48 8b ?? 10" = .ok [.byte 0x48, .byte 0x8B, .wildcard, .byte 0x10] := rfl
    obtain rfl := Except.ok.inj (htokens.symm.trans hread)
    exact ⟨packed, h, hunpacked⟩
  · let packed : PackedSignature :=
      { pattern := ""
        padded := ""
        relocationOffsets := []
        signatureWords := [0x0000000010008B48]
        maskWords := [0x00000000FF00FFFF] }
    exact hencode packed [] hmasked

end NativeBindings
