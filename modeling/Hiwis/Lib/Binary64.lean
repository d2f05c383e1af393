import Mathlib

/-!
# Binary64 numbers

The result of an operation on numbers of 64 bits, in the range in which it neither overflows nor is
too small: the exact result is rounded to a number with a significand of 53 bits.

* `Binary64.abs_nearest_sub_le` : the error of the rounding;
* `Binary64.le_shares` : two shares that are rounded up make up for the whole.
-/

namespace Hiwis

namespace Binary64

/-- The nearest integer, and of two nearest ones the even one. -/
def nearestInt (x : ℚ) : ℤ :=
  if x - ⌊x⌋ < 1 / 2 then ⌊x⌋
  else if 1 / 2 < x - ⌊x⌋ then ⌊x⌋ + 1
  else if ⌊x⌋ % 2 = 0 then ⌊x⌋ else ⌊x⌋ + 1

/-- The distance of the neighbours of `x` with a significand of 53 bits. -/
def ulp (x : ℚ) : ℚ := 2 ^ (Int.log 2 |x| - 52)

/-- The rounded number. -/
def nearest (x : ℚ) : ℚ := nearestInt (x / ulp x) * ulp x

theorem abs_nearestInt_sub_le (x : ℚ) : |(nearestInt x : ℚ) - x| ≤ 1 / 2 := by
  have hle := Int.floor_le x
  have hlt := Int.lt_floor_add_one x
  unfold nearestInt
  rw [abs_le]
  split_ifs with h1 h2 h3
  · constructor <;> linarith
  · push_cast
    constructor <;> linarith
  · constructor <;> linarith
  · push_cast
    constructor <;> linarith

theorem ulp_pos (x : ℚ) : 0 < ulp x := zpow_pos (by norm_num) _

theorem ulp_le {x : ℚ} (hx : x ≠ 0) : ulp x ≤ |x| / 2 ^ 52 := by
  have hlog : (2 : ℚ) ^ Int.log 2 |x| ≤ |x| := by
    have := Int.zpow_log_le_self (b := 2) (by decide) (abs_pos.2 hx)
    exact_mod_cast this
  unfold ulp
  rw [zpow_sub₀ (by norm_num)]
  have h52 : (2 : ℚ) ^ (52 : ℤ) = 2 ^ 52 := by norm_cast
  rw [h52]
  gcongr

theorem nearest_zero : nearest 0 = 0 := by
  have h : nearestInt 0 = 0 := by decide +kernel
  simp [nearest, h]

/-- The error is at most half of the distance of the neighbours. -/
theorem abs_nearest_sub_le (x : ℚ) : |nearest x - x| ≤ |x| / 2 ^ 53 := by
  by_cases hx : x = 0
  · subst hx
    simp [nearest_zero]
  have hulp := ulp_pos x
  have hround := abs_nearestInt_sub_le (x / ulp x)
  have hscale : nearest x - x = ((nearestInt (x / ulp x) : ℚ) - x / ulp x) * ulp x := by
    unfold nearest
    rw [sub_mul, div_mul_cancel₀ x hulp.ne']
  calc |nearest x - x| = |(nearestInt (x / ulp x) : ℚ) - x / ulp x| * ulp x := by
        rw [hscale, abs_mul, abs_of_pos hulp]
    _ ≤ 1 / 2 * (|x| / 2 ^ 52) := by
        gcongr
        exact ulp_le hx
    _ = |x| / 2 ^ 53 := by ring

/-- The rounded part `f` of a number that is not too large is nearly the part. -/
theorem abs_part_sub_le {n : ℕ} (hn : n < 2 ^ 32) {f : ℚ} (hf : |f| ≤ 2) :
    |nearest (n * f) - n * f| ≤ 1 / 8 := by
  have hn : (n : ℚ) ≤ 2 ^ 32 := by exact_mod_cast hn.le
  have herror := abs_nearest_sub_le (n * f)
  rw [abs_mul, Nat.abs_cast] at herror
  calc |nearest (n * f) - n * f| ≤ n * |f| / 2 ^ 53 := herror
    _ ≤ 2 ^ 32 * 2 / 2 ^ 53 := by gcongr
    _ ≤ 1 / 8 := by norm_num

/-- Two parts of a number that are nearly complementary. -/
theorem abs_mul_sub_le {n : ℕ} (hn : n < 2 ^ 32) {f g : ℚ} (h : |f - g| ≤ 1 / 2 ^ 53) :
    |n * f - n * g| ≤ 1 / 8 := by
  have hn : (n : ℚ) ≤ 2 ^ 32 := by exact_mod_cast hn.le
  rw [← mul_sub, abs_mul, Nat.abs_cast]
  calc (n : ℚ) * |f - g| ≤ 2 ^ 32 * (1 / 2 ^ 53) := by gcongr
    _ ≤ 1 / 8 := by norm_num

/-- A number `n` is divided in the ratio of `a` and `b`, with the rounded fraction of `a`, and both
shares are rounded up.  The shares make up for `n`, also when one of them is cut down. -/
theorem le_shares {n a b : ℕ} (hn : n < 2 ^ 32) (hle : n ≤ a + b) (hpos : 0 < a + b) {f : ℚ}
    (hf : f = nearest (a / (a + b : ℕ))) :
    n ≤ min a ⌈nearest (n * f)⌉.toNat + min b ⌈nearest (n * nearest (1 - f))⌉.toNat := by
  have hsum : (0 : ℚ) < (a + b : ℕ) := by exact_mod_cast hpos
  obtain ⟨q, hq⟩ : ∃ q : ℚ, q = a / (a + b : ℕ) := ⟨_, rfl⟩
  have hq0 : 0 ≤ q := hq ▸ by positivity
  have hq1 : q ≤ 1 := by
    rw [hq, div_le_one hsum]
    exact_mod_cast Nat.le_add_right a b
  have hqa : q * (a + b : ℕ) = a := by rw [hq, div_mul_cancel₀ _ hsum.ne']
  rw [← hq] at hf
  -- the fractions are nearly `q` and `1 - q`
  have herror : |f - q| ≤ 1 / 2 ^ 53 := by
    rw [hf]
    refine (abs_nearest_sub_le q).trans ?_
    gcongr
    rwa [abs_of_nonneg hq0]
  have hf' := abs_le.1 herror
  have hrest : |1 - f| ≤ 2 := by
    rw [abs_le]
    constructor <;> linarith
  have herror' : |nearest (1 - f) - (1 - f)| ≤ 2 / 2 ^ 53 := by
    refine (abs_nearest_sub_le (1 - f)).trans ?_
    gcongr
  generalize nearest (1 - f) = g at herror' ⊢
  have hg' := abs_le.1 herror'
  -- and so are the shares
  have hx := abs_le.1 (abs_part_sub_le hn (f := f) (by rw [abs_le]; constructor <;> linarith))
  have hy := abs_le.1 (abs_part_sub_le hn (f := g) (by rw [abs_le]; constructor <;> linarith))
  have hn' : (n : ℚ) ≤ 2 ^ 32 := by exact_mod_cast hn.le
  have hn0 : (0 : ℚ) ≤ n := Nat.cast_nonneg n
  have hnf : (n : ℚ) * q - 1 / 8 ≤ n * f := by
    have := abs_le.1 (abs_mul_sub_le hn herror)
    linarith
  have hng : (n : ℚ) - n * q - 1 / 8 ≤ n * g := by
    have hdist : (1 - q) - 3 / 2 ^ 53 ≤ g := by linarith
    have hmul : (n : ℚ) * (1 - q - 3 / 2 ^ 53) ≤ n * g := mul_le_mul_of_nonneg_left hdist hn0
    linarith
  have hfg : (n : ℚ) - 3 / 8 ≤ n * f + n * g := by
    have hdist : 1 - 2 / 2 ^ 53 ≤ f + g := by linarith
    have hmul : (n : ℚ) * (1 - 2 / 2 ^ 53) ≤ n * (f + g) := mul_le_mul_of_nonneg_left hdist hn0
    linarith
  -- the share of `a` is at least what `b` leaves, and the other way round
  have hnq : (n : ℚ) - b ≤ n * q ∧ n * q ≤ a := by
    have hle' : (n : ℚ) ≤ (a + b : ℕ) := by exact_mod_cast hle
    have h1 : (n : ℚ) * q ≤ (a + b : ℕ) * q := mul_le_mul_of_nonneg_right hle' hq0
    have h2 : (n : ℚ) * (1 - q) ≤ (a + b : ℕ) * (1 - q) :=
      mul_le_mul_of_nonneg_right hle' (by linarith)
    push_cast at h1 h2 hqa
    constructor <;> linarith
  obtain ⟨x, hx0⟩ : ∃ x, x = nearest (n * f) := ⟨_, rfl⟩
  obtain ⟨y, hy0⟩ : ∃ y, y = nearest (n * g) := ⟨_, rfl⟩
  rw [← hx0] at hx ⊢
  rw [← hy0] at hy ⊢
  have hcx := Int.le_ceil x
  have hcy := Int.le_ceil y
  have h1 : ((n - b - 1 : ℤ) : ℚ) < ((⌈x⌉ : ℤ) : ℚ) := by
    push_cast
    linarith
  have h2 : ((n - a - 1 : ℤ) : ℚ) < ((⌈y⌉ : ℤ) : ℚ) := by
    push_cast
    linarith
  have h3 : ((n - 1 : ℤ) : ℚ) < ((⌈x⌉ + ⌈y⌉ : ℤ) : ℚ) := by
    push_cast
    linarith
  have h1 := Int.cast_lt.1 h1
  have h2 := Int.cast_lt.1 h2
  have h3 := Int.cast_lt.1 h3
  omega

end Binary64

end Hiwis
