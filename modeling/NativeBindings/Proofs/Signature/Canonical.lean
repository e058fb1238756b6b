/-
NativeBindings/Proofs/Signature/Canonical.lean

Packed signatures as normal forms.  Two patterns have one packed form exactly if they have the same
tokens (`ofTokens_inj`).  The words keep less: authored wildcards at the end are not told from
padding, so that words stand for padded tokens, and so does the padded text (`pack_pad_inj`).  Both
texts of a packed signature are patterns again, and packing them changes nothing:

    encode packed.pattern = packed        (encode packed.padded).padded = packed.padded
-/
import NativeBindings.Proofs.Signature.Grammar
import NativeBindings.Proofs.Signature.RoundTrip

namespace NativeBindings.Signature

/-! ### Normal forms of token lists -/

/-- Different token lists have different texts. -/
theorem join_inj {tokens others : List Token} : join tokens = join others ↔ tokens = others := by
  constructor
  · intro h
    have hread := tokenize_join tokens
    rw [h, tokenize_join others] at hread
    exact (Except.ok.inj hread).symm
  · rintro rfl
    rfl

/-- Padding completes the last word once. -/
theorem pad_pad (tokens : List Token) : pad (pad tokens) = pad tokens := by
  apply pad_of_dvd
  rw [length_pad]
  exact dvd_paddedLength _

/-- The words stand for the padded tokens. -/
theorem pack_pad_inj {tokens others : List Token} :
    (pack Token.signatureByte (pad tokens) = pack Token.signatureByte (pad others) ∧
        pack Token.maskByte (pad tokens) = pack Token.maskByte (pad others)) ↔
      pad tokens = pad others := by
  constructor
  · rintro ⟨hsignatures, hmasks⟩
    calc pad tokens
        = unpack (pack Token.signatureByte (pad tokens)) (pack Token.maskByte (pad tokens)) := by
          rw [unpack_pack, flatten_groups_pad]
      _ = unpack (pack Token.signatureByte (pad others)) (pack Token.maskByte (pad others)) := by
          rw [hsignatures, hmasks]
      _ = pad others := by rw [unpack_pack, flatten_groups_pad]
  · intro h
    rw [h]
    exact ⟨rfl, rfl⟩

end NativeBindings.Signature

namespace NativeBindings

open Signature Text

theorem PackedSignature.ofTokens_inj {tokens others : List Token}
    {relocationOffsets : List UInt8} :
    ofTokens tokens relocationOffsets = ofTokens others relocationOffsets ↔ tokens = others := by
  constructor
  · intro h
    exact join_inj.mp (congrArg PackedSignature.pattern h)
  · rintro rfl
    rfl

/-- **Encoding is canonical.**  Let two patterns be encoded with the same offsets.

* They have the same packed form exactly if they have the same tokens.  So white space and the case
  of digits do not count: a pattern with the same runs but for their case has this packed form too.
* They have the same words exactly if they have the same padded text, and exactly if their tokens
  are the same when both are padded.
* The normal pattern of a packed form has this packed form, and its padded pattern has the same
  words and is its own normal and padded pattern. -/
theorem Signature.encode_canonical {p q : String} {relocationOffsets : List UInt8}
    {packed other : PackedSignature}
    (hp : ({ pattern := p, relocationOffsets } : Signature).encode = .ok packed)
    (hq : ({ pattern := q, relocationOffsets } : Signature).encode = .ok other) :
    (packed = other ↔ tokenize p = tokenize q) ∧
      (∀ (r : String) (runs others : List (List Char)),
        HasRuns p.toList runs → HasRuns r.toList others →
          runs.map (List.map Char.toLower) = others.map (List.map Char.toLower) →
            ({ pattern := r, relocationOffsets } : Signature).encode = .ok packed) ∧
      ((packed.signatureWords = other.signatureWords ∧ packed.maskWords = other.maskWords) ↔
        packed.padded = other.padded) ∧
      (∃ tokens others, tokenize p = .ok tokens ∧ tokenize q = .ok others ∧
        (packed.padded = other.padded ↔ pad tokens = pad others)) ∧
      ({ pattern := packed.pattern, relocationOffsets } : Signature).encode = .ok packed ∧
      (∃ again, ({ pattern := packed.padded, relocationOffsets } : Signature).encode = .ok again ∧
        again.signatureWords = packed.signatureWords ∧ again.maskWords = packed.maskWords ∧
        again.pattern = packed.padded ∧ again.padded = packed.padded) := by
  obtain ⟨tokens, htokens, rfl⟩ := encode_eq_ok_iff.mp hp
  obtain ⟨others, hothers, rfl⟩ := encode_eq_ok_iff.mp hq
  have hread : tokenize p = .ok tokens := htokens
  have hreadOther : tokenize q = .ok others := hothers
  refine ⟨?_, ?_, ?_, ⟨tokens, others, hread, hreadOther, join_inj⟩, ?_, ?_⟩
  · rw [PackedSignature.ofTokens_inj, hread, hreadOther, Except.ok.injEq]
  · intro r runs runs' hruns hruns' hcase
    exact encode_eq_ok_iff.mpr
      ⟨tokens, (tokenize_eq_ok_iff_of_map_toLower hruns hruns' hcase tokens).mp hread, rfl⟩
  · exact pack_pad_inj.trans join_inj.symm
  · exact encode_join tokens relocationOffsets
  · refine ⟨_, encode_join (pad tokens) relocationOffsets, ?_, ?_, rfl, ?_⟩
    · exact congrArg (pack Token.signatureByte) (pad_pad tokens)
    · exact congrArg (pack Token.maskByte) (pad_pad tokens)
    · exact congrArg join (pad_pad tokens)

/-- An authored wildcard at the end is kept in the packed form and lost in the words; other white
space and other letters change nothing. -/
theorem Signature.encode_canonical_last_wildcard :
    ∃ packed other,
      ({ pattern := "48 8b", relocationOffsets := [1] } : Signature).encode = .ok packed ∧
        ({ pattern := "48 8b ??", relocationOffsets := [1] } : Signature).encode = .ok other ∧
        packed ≠ other ∧ packed.signatureWords = other.signatureWords ∧
        packed.maskWords = other.maskWords ∧
        ({ pattern := "\t48\u3000 8B\n", relocationOffsets := [1] } : Signature).encode =
          .ok packed := by
  obtain ⟨packed, hp⟩ : ∃ packed,
      ({ pattern := "48 8b", relocationOffsets := [1] } : Signature).encode = .ok packed := ⟨_, rfl⟩
  obtain ⟨other, hq⟩ : ∃ other,
      ({ pattern := "48 8b ??", relocationOffsets := [1] } : Signature).encode = .ok other :=
    ⟨_, rfl⟩
  obtain ⟨hequal, hcase, hwords, ⟨tokens, others, htokens, hothers, hpad⟩, -⟩ :=
    encode_canonical hp hq
  have hread : tokenize "48 8b" = .ok [.byte 0x48, .byte 0x8B] := rfl
  have hreadOther : tokenize "48 8b ??" = .ok [.byte 0x48, .byte 0x8B, .wildcard] := rfl
  obtain rfl := Except.ok.inj (htokens.symm.trans hread)
  obtain rfl := Except.ok.inj (hothers.symm.trans hreadOther)
  obtain ⟨hsignatures, hmasks⟩ := hwords.mpr (hpad.mpr rfl)
  refine ⟨packed, other, hp, hq, ?_, hsignatures, hmasks, ?_⟩
  · rw [Ne, hequal, hread, hreadOther]
    exact nofun
  · exact hcase "\t48\u3000 8B\n" [['4', '8'], ['8', 'b']] [['4', '8'], ['8', 'B']]
      (hasRuns_iff.mpr rfl) (hasRuns_iff.mpr rfl) rfl

end NativeBindings
