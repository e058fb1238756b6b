/-
NativeBindings/Proofs/Signature/Padding.lean

What packing starts from.  Padding completes the last word and no more: the padded length is the
least multiple of the word size that is not below the number of tokens, and whole groups are left
alone.  Encoding is then one equation away from tokens (`encode_eq_ok_iff`), and its words are made
group by group from the padded tokens.
-/
import NativeBindings.Signature.Packed
import NativeBindings.Proofs.Signature.Words

namespace NativeBindings.Signature

/-! ### Padded lengths -/

theorem le_paddedLength (count : Nat) : count ≤ paddedLength count := by
  simp only [paddedLength, bytesPerWord]
  omega

theorem dvd_paddedLength (count : Nat) : bytesPerWord ∣ paddedLength count :=
  Nat.dvd_mul_left _ _

theorem paddedLength_of_dvd {count : Nat} (h : bytesPerWord ∣ count) :
    paddedLength count = count := by
  simp only [paddedLength, bytesPerWord] at h ⊢
  omega

@[simp] theorem length_pad (tokens : List Token) :
    (pad tokens).length = paddedLength tokens.length := by
  have := le_paddedLength tokens.length
  rw [pad, List.length_append, List.length_replicate]
  omega

/-- Whole words need no padding. -/
theorem pad_of_dvd {tokens : List Token} (h : bytesPerWord ∣ tokens.length) :
    pad tokens = tokens := by
  rw [pad, paddedLength_of_dvd h, Nat.sub_self, List.replicate_zero, List.append_nil]

/-! ### Packed words -/

/-- The padded tokens are whole groups, and nothing else. -/
theorem flatten_groups_pad (tokens : List Token) : (groups (pad tokens)).flatten = pad tokens :=
  flatten_groups (by rw [length_pad]; exact dvd_paddedLength _)

@[simp] theorem length_pack (byte : Token → UInt8) (tokens : List Token) :
    (pack byte tokens).length = (groups tokens).length := by
  rw [pack, List.length_map]

theorem length_pad_eq (tokens : List Token) :
    (pad tokens).length = bytesPerWord * (groups (pad tokens)).length := by
  have hgroups : ∀ group ∈ groups (pad tokens), group.length = bytesPerWord :=
    fun _ => length_of_mem_groups
  have hlength := length_flatten_of_groups hgroups
  rw [flatten_groups_pad] at hlength
  exact hlength

end NativeBindings.Signature

namespace NativeBindings

open Signature

/-- Encoding succeeds where the pattern can be read, with the tokens that were read. -/
theorem Signature.encode_eq_ok_iff {signature : Signature} {packed : PackedSignature} :
    signature.encode = .ok packed ↔
      ∃ tokens, tokenize signature.pattern = .ok tokens ∧
        packed = PackedSignature.ofTokens tokens signature.relocationOffsets := by
  rw [encode]
  rcases tokenize signature.pattern with fault | tokens
  · simp [bind, Except.bind]
  · simp [bind, Except.bind, pure, Except.pure, eq_comm]

/-- Encoding fails where the pattern cannot be read, for the same word. -/
theorem Signature.encode_eq_error_iff {signature : Signature} {cause : InvalidToken} :
    signature.encode = .error cause ↔ tokenize signature.pattern = .error cause := by
  rw [encode]
  rcases tokenize signature.pattern with fault | tokens
  · simp [bind, Except.bind]
  · simp [bind, Except.bind, pure, Except.pure]

end NativeBindings
