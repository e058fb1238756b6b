/-
NativeBindings/Proofs/Signature/Words.lean

Bytes inside words, and whole groups inside lists.  A word is its eight bytes
(`wordBytes_wordOfBytes`, `wordOfBytes_wordBytes`), so a word operation that works bit by bit is the
same operation on each byte:

    wordBytes (a &&& b) = zipWith (· &&& ·) (wordBytes a) (wordBytes b).

Likewise a list of whole groups is the concatenation of its groups (`flatten_groups`,
`groups_flatten`).  What is proved of one group of eight is carried to patterns of any length by
these four equations.
-/
import NativeBindings.Signature.Word
import Mathlib.Algebra.Group.Nat.Defs

namespace NativeBindings.Signature

/-! ### Bytes of a number -/

theorem littleEndian_lt (bytes : List UInt8) : littleEndian bytes < 256 ^ bytes.length := by
  induction bytes with
  | nil => simp [littleEndian]
  | cons b rest ih =>
    -- the first byte stays below the step of 256 that the rest leaves free
    have hb := b.toNat_lt
    rw [littleEndian, List.length_cons, Nat.pow_succ]
    omega

@[simp] theorem length_bytesOf (count n : Nat) : (bytesOf count n).length = count := by
  induction count generalizing n with
  | zero => rfl
  | succ count ih => simp [bytesOf, ih]

theorem bytesOf_littleEndian (bytes : List UInt8) :
    bytesOf bytes.length (littleEndian bytes) = bytes := by
  induction bytes with
  | nil => rfl
  | cons b rest ih =>
    have hb := b.toNat_lt
    have hmod : (b.toNat + 256 * littleEndian rest) % 256 = b.toNat := by omega
    have hdiv : (b.toNat + 256 * littleEndian rest) / 256 = littleEndian rest := by omega
    rw [littleEndian, List.length_cons, bytesOf, hmod, hdiv, ih, UInt8.ofNat_toNat]

theorem littleEndian_bytesOf (count n : Nat) :
    littleEndian (bytesOf count n) = n % 256 ^ count := by
  induction count generalizing n with
  | zero => rw [Nat.pow_zero, Nat.mod_one]; rfl
  | succ count ih =>
    have hb : (UInt8.ofNat (n % 256)).toNat = n % 256 := by
      rw [UInt8.toNat_ofNat']
      omega
    rw [bytesOf, littleEndian, ih, hb, Nat.pow_succ', Nat.mod_mul]

theorem bytesOf_and (count m n : Nat) :
    bytesOf count (m &&& n) = List.zipWith (· &&& ·) (bytesOf count m) (bytesOf count n) := by
  induction count generalizing m n with
  | zero => rfl
  | succ count ih =>
    -- the last eight bits and the others are masked apart from each other
    have hmod : (m &&& n) % 256 = (m % 256) &&& (n % 256) := Nat.and_mod_two_pow (n := 8)
    have hdiv : (m &&& n) / 256 = (m / 256) &&& (n / 256) := Nat.and_div_two_pow (n := 8)
    rw [bytesOf, bytesOf, bytesOf, List.zipWith_cons_cons, hmod, hdiv, ih, UInt8.ofNat_and]

/-! ### Bytes of a word -/

@[simp] theorem length_wordBytes (word : UInt64) : (wordBytes word).length = bytesPerWord :=
  length_bytesOf _ _

theorem wordBytes_wordOfBytes {bytes : List UInt8} (h : bytes.length = bytesPerWord) :
    wordBytes (wordOfBytes bytes) = bytes := by
  -- eight bytes fit into a word, so nothing is cut off
  have hlt : littleEndian bytes < 2 ^ 64 := by
    have := littleEndian_lt bytes
    rw [h] at this
    exact this
  rw [wordBytes, wordOfBytes, UInt64.toNat_ofNat', Nat.mod_eq_of_lt hlt, ← h]
  exact bytesOf_littleEndian bytes

theorem wordOfBytes_wordBytes (word : UInt64) : wordOfBytes (wordBytes word) = word := by
  rw [wordOfBytes, wordBytes, littleEndian_bytesOf]
  have hlt : word.toNat < 256 ^ bytesPerWord := word.toNat_lt
  rw [Nat.mod_eq_of_lt hlt, UInt64.ofNat_toNat]

/-- Two words with the same bytes are equal. -/
theorem eq_of_wordBytes_eq {a b : UInt64} (h : wordBytes a = wordBytes b) : a = b := by
  rw [← wordOfBytes_wordBytes a, h, wordOfBytes_wordBytes]

/-- Masking works byte by byte. -/
theorem wordBytes_and (a b : UInt64) :
    wordBytes (a &&& b) = List.zipWith (· &&& ·) (wordBytes a) (wordBytes b) := by
  rw [wordBytes, UInt64.toNat_and, bytesOf_and]
  rfl

/-! ### Whole groups -/

variable {α : Type}

theorem length_of_mem_groups {group xs : List α} (h : group ∈ groups xs) :
    group.length = bytesPerWord := by
  fun_induction groups xs with
  | case1 a b c d e f g i rest ih =>
    rcases List.mem_cons.mp h with rfl | h
    · rfl
    · exact ih h
  | case2 => cases h

/-- Whole groups hold eight elements each. -/
theorem length_flatten_of_groups {gs : List (List α)}
    (h : ∀ group ∈ gs, group.length = bytesPerWord) :
    gs.flatten.length = bytesPerWord * gs.length := by
  induction gs with
  | nil => rfl
  | cons group rest ih =>
    rw [List.flatten_cons, List.length_append, h group (by simp), ih fun g hg => h g (by simp [hg]),
      List.length_cons, Nat.mul_succ, Nat.add_comm]

/-- A group in front comes off first. -/
theorem groups_append {group : List α} (h : group.length = bytesPerWord) (rest : List α) :
    groups (group ++ rest) = group :: groups rest := by
  match group, h with
  | [_, _, _, _, _, _, _, _], _ => rfl

/-- The groups of a concatenation of groups. -/
theorem groups_flatten {gs : List (List α)} (h : ∀ group ∈ gs, group.length = bytesPerWord) :
    groups gs.flatten = gs := by
  induction gs with
  | nil => rfl
  | cons group rest ih =>
    rw [List.flatten_cons, groups_append (h group (by simp)), ih fun g hg => h g (by simp [hg])]

theorem flatten_groups {xs : List α} (h : bytesPerWord ∣ xs.length) : (groups xs).flatten = xs := by
  -- by induction on the number of groups, since a group is eight constructors deep
  obtain ⟨count, hcount⟩ := h
  induction count generalizing xs with
  | zero =>
    obtain rfl := List.eq_nil_of_length_eq_zero hcount
    rfl
  | succ count ih =>
    have hfirst : (xs.take bytesPerWord).length = bytesPerWord := by
      rw [List.length_take, hcount, Nat.mul_succ]
      omega
    have hrest : (xs.drop bytesPerWord).length = bytesPerWord * count := by
      rw [List.length_drop, hcount, Nat.mul_succ]
      omega
    have hgroups : groups xs = xs.take bytesPerWord :: groups (xs.drop bytesPerWord) := by
      rw [← groups_append hfirst, List.take_append_drop]
    rw [hgroups, List.flatten_cons, ih hrest, List.take_append_drop]

end NativeBindings.Signature
