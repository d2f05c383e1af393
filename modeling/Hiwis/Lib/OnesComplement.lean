import Hiwis.Lib.Octets

/-!
# One's complement sums

The one's complement sum of 16-bit words is their sum with end-around carry.  It is the number of
16 bits that is congruent to the sum modulo `2 ^ 16 - 1`, and 0 only when all words are 0.

* `onesSum_eq_iff` : what determines a one's complement sum;
* `onesSum_add_complement` : with the complement, the sum is `0xFFFF`;
* `onesSum_eq_onesSum_add` : which words leave the sum as it is;
* `wordSum_load` : the part of one word in the sum over a memory.
-/

namespace Hiwis

/-- The one's complement sum of words, from their plain sum. -/
def onesSum (n : ℕ) : ℕ := if n = 0 then 0 else (n - 1) % 65535 + 1

/-- The plain sum of the words that octets make up, the most significant octet first.  The last
octet of an odd number is padded on the right with 0. -/
def wordSum : List UInt8 → ℕ
  | a :: b :: l => 256 * a.toNat + b.toNat + wordSum l
  | [a] => 256 * a.toNat
  | [] => 0

/-! ### End-around carry -/

section Sum

variable {n k w : ℕ}

theorem onesSum_eq_iff : onesSum n = k ↔ k ≤ 65535 ∧ k % 65535 = n % 65535 ∧ (k = 0 ↔ n = 0) := by
  unfold onesSum
  split_ifs with hn
  · subst hn
    constructor
    · rintro rfl
      simp
    · rintro ⟨-, -, h⟩
      exact (h.2 rfl).symm
  · constructor
    · rintro rfl
      refine ⟨by omega, by omega, by simp [hn]⟩
    · rintro ⟨hle, hmod, h⟩
      have hk : k ≠ 0 := fun hk => hn (h.1 hk)
      omega

theorem onesSum_spec (n : ℕ) :
    onesSum n ≤ 65535 ∧ onesSum n % 65535 = n % 65535 ∧ (onesSum n = 0 ↔ n = 0) :=
  onesSum_eq_iff.1 rfl

theorem onesSum_congr (hmod : n % 65535 = k % 65535) (hzero : n = 0 ↔ k = 0) :
    onesSum n = onesSum k := by
  obtain ⟨hle, hmod', hzero'⟩ := onesSum_spec k
  exact onesSum_eq_iff.2 ⟨hle, hmod'.trans hmod.symm, hzero'.trans hzero.symm⟩

theorem onesSum_add_complement (n : ℕ) : onesSum (n + (65535 - onesSum n)) = 65535 := by
  obtain ⟨hle, hmod, hzero⟩ := onesSum_spec n
  refine onesSum_eq_iff.2 ⟨le_rfl, by omega, ?_⟩
  constructor
  · intro h
    cases h
  · intro h
    have := hzero.2 (by omega)
    omega

/-- A further word makes no difference when it is 0, or when it is `0xFFFF` and not the first one
that is not 0. -/
theorem onesSum_eq_onesSum_add (hw : w ≤ 65535) :
    onesSum (n + w) = onesSum n ↔ w = 0 ∨ w = 65535 ∧ n ≠ 0 := by
  obtain ⟨hle, hmod, hzero⟩ := onesSum_spec n
  rw [onesSum_eq_iff]
  constructor
  · rintro ⟨-, hmod', hzero'⟩
    by_cases h0 : w = 0
    · exact .inl h0
    · refine .inr ⟨by omega, fun hn => h0 ?_⟩
      have := hzero'.1 (hzero.2 hn)
      omega
  · intro h
    refine ⟨hle, by omega, hzero.trans ?_⟩
    omega

end Sum

/-! ### Words -/

variable (l l' : List UInt8)

theorem wordSum_append (h : Even l.length) : wordSum (l ++ l') = wordSum l + wordSum l' := by
  induction l using wordSum.induct with
  | case1 a b l ih =>
    have hl : Even l.length := by simpa [Nat.even_add_one] using h
    simp only [List.cons_append, wordSum, ih hl, Nat.add_assoc]
  | case2 a => simp at h
  | case3 => simp [wordSum]

theorem wordSum_eq_zero : wordSum l = 0 ↔ ∀ b ∈ l, b = 0 := by
  have htoNat : ∀ b : UInt8, b.toNat = 0 ↔ b = 0 := fun b =>
    ⟨fun h => UInt8.toNat_inj.1 h, fun h => h ▸ rfl⟩
  induction l using wordSum.induct with
  | case1 a b l ih =>
    simp [wordSum, htoNat, ih, and_assoc]
  | case2 a => simp [wordSum, htoNat]
  | case3 => simp [wordSum]

theorem wordSum_pair (a b : UInt8) : wordSum [a, b] = ofOctets [a, b] := by
  simp [wordSum, ofOctets, Nat.mul_comm]

variable (m : Memory) {a n : ℕ}

/-- The word at an even address, taken as 0 and added again. -/
theorem wordSum_load (ha : Even a) (hn : a + 2 ≤ n) :
    wordSum (m.load 0 n) = wordSum ((m.store a [0, 0]).load 0 n) + ofOctets (m.load a 2) := by
  obtain ⟨k, rfl⟩ := Nat.exists_eq_add_of_le hn
  have hword : ∀ m : Memory, wordSum (m.load a 2) = ofOctets (m.load a 2) :=
    fun m => wordSum_pair ..
  have hsplit : ∀ m : Memory, wordSum (m.load 0 (a + 2 + k)) =
      wordSum (m.load 0 a) + ofOctets (m.load a 2) + wordSum (m.load (a + 2) k) := by
    intro m
    rw [Memory.load_add, Memory.load_add, wordSum_append _ _ (by simp [ha, Nat.even_add]),
      wordSum_append _ _ (by simpa using ha), Nat.zero_add, hword, Nat.zero_add]
  have hfield : (m.store a [0, 0]).load a 2 = [0, 0] := Memory.load_store_of_length _ _ rfl
  have hzero : ofOctets [0, 0] = 0 := rfl
  rw [hsplit, hsplit, Memory.load_store_of_disjoint _ _ (by simp), hfield, hzero,
    Memory.load_store_of_disjoint _ _ (by simp)]
  omega

end Hiwis
