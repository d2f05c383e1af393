import Mathlib

/-!
# Serial numbers

A *serial number* is a `w`-bit counter that is allowed to wrap around.  Behind every serial
number stands an unbounded *position*, an integer of which the counter keeps the low `w` bits
(`Serial.wrap`).  Counters are compared by the sign of their difference modulo `2^w`; as long as
two positions are less than half the number space apart this comparison agrees with the order of
the positions.

* `Serial.wrap_add_ofNat`, `Serial.toNat_wrap_sub` : arithmetic on counters is arithmetic on
  positions;
* `Serial.lt_wrap`, `Serial.le_wrap` : the modular comparisons of positions that are near to
  each other;
* `Serial.wrap_inj` : near positions with the same counter are equal;
* `Serial.near` : the position of a counter nearest to a given position;
* `Serial.exists_wrap` : every counter is the counter of exactly one position of a given half
  space.
-/

namespace Serial

variable {w : ℕ}

/-- The counter of the position `p`: its low `w` bits. -/
def wrap (w : ℕ) (p : ℤ) : BitVec w := BitVec.ofInt w p

/-- `a` precedes `b`: `b - a` is positive and less than half of the number space. -/
def lt (a b : BitVec w) : Bool := a != b && decide ((b - a).toNat < 2 ^ (w - 1))

/-- `a` precedes or equals `b`. -/
def le (a b : BitVec w) : Bool := decide ((b - a).toNat < 2 ^ (w - 1))

theorem toNat_wrap (p : ℤ) : ((wrap w p).toNat : ℤ) = p % 2 ^ w := by
  simp only [wrap, BitVec.toNat_ofInt]
  rw [Int.toNat_of_nonneg (Int.emod_nonneg _ (by positivity))]
  simp

theorem wrap_toNat (x : BitVec w) : wrap w (x.toNat : ℤ) = x := by
  simp [wrap]

variable {p q : ℤ}

theorem wrap_eq_wrap_iff : wrap w p = wrap w q ↔ p ≡ q [ZMOD 2 ^ w] := by
  rw [Int.ModEq, ← toNat_wrap, ← toNat_wrap, Int.natCast_inj, BitVec.toNat_inj]

theorem wrap_add (p q : ℤ) : wrap w p + wrap w q = wrap w (p + q) := (BitVec.ofInt_add p q).symm

theorem wrap_ofNat (n : ℕ) : BitVec.ofNat w n = wrap w n := by
  simp [wrap]

@[simp] theorem wrap_add_ofNat (p : ℤ) (n : ℕ) : wrap w p + BitVec.ofNat w n = wrap w (p + n) := by
  rw [wrap_ofNat, wrap_add]

theorem wrap_sub (p q : ℤ) : wrap w p - wrap w q = wrap w (p - q) := by
  rw [BitVec.sub_eq_iff_eq_add, wrap_add, sub_add_cancel]

@[simp] theorem wrap_sub_ofNat (p : ℤ) (n : ℕ) : wrap w p - BitVec.ofNat w n = wrap w (p - n) := by
  rw [wrap_ofNat, wrap_sub]

/-- The distance of two counters is the distance of their positions, modulo `2^w`. -/
theorem toNat_wrap_sub (p q : ℤ) : ((wrap w p - wrap w q).toNat : ℤ) = (p - q) % 2 ^ w := by
  rw [wrap_sub, toNat_wrap]

/-- The distance of a position to one at most `2^w` before it. -/
theorem dist_wrap (h0 : q ≤ p) (h1 : p - q < 2 ^ w) :
    (wrap w p - wrap w q).toNat = (p - q).toNat := by
  have h := toNat_wrap_sub (w := w) p q
  rw [Int.emod_eq_of_lt (by omega) h1] at h
  omega

/-- The distance of a position to one after it. -/
theorem dist_wrap_neg (h0 : p < q) (h1 : q - p ≤ 2 ^ w) :
    ((wrap w p - wrap w q).toNat : ℤ) = p - q + 2 ^ w := by
  have h := toNat_wrap_sub (w := w) p q
  rw [← Int.add_emod_right, Int.emod_eq_of_lt (by omega) (by omega)] at h
  exact h

/-- Positions less than the whole number space apart are told apart by their counters. -/
theorem wrap_inj (h0 : p - q < 2 ^ w) (h1 : q - p < 2 ^ w) : wrap w p = wrap w q ↔ p = q := by
  refine ⟨fun h => ?_, fun h => h ▸ rfl⟩
  rw [wrap_eq_wrap_iff, Int.modEq_iff_dvd] at h
  obtain ⟨k, hk⟩ := h
  have hpos : (0 : ℤ) < 2 ^ w := by positivity
  have hk1 : k < 1 := by nlinarith
  have hk2 : -1 < k := by nlinarith
  have : k = 0 := by omega
  subst this
  omega

theorem two_pow_half (h : 0 < w) : (2 : ℤ) ^ w = 2 * 2 ^ (w - 1) := by
  obtain ⟨n, rfl⟩ := Nat.exists_eq_succ_of_ne_zero h.ne'
  simp [pow_succ, mul_comm]

/-- The distance of two near counters is below the half space exactly when the positions are in
order. -/
theorem dist_lt_half_iff (hw : 0 < w) (h0 : q - p < 2 ^ (w - 1)) (h1 : p - q ≤ 2 ^ (w - 1)) :
    (wrap w q - wrap w p).toNat < 2 ^ (w - 1) ↔ p ≤ q := by
  have h2 := two_pow_half hw
  have hpos : (0 : ℤ) < 2 ^ (w - 1) := by positivity
  have hcast : ((2 ^ (w - 1) : ℕ) : ℤ) = 2 ^ (w - 1) := by push_cast; rfl
  by_cases hpq : p ≤ q
  · have h := dist_wrap (w := w) hpq (by omega)
    omega
  · have h := dist_wrap_neg (w := w) (p := q) (q := p) (by omega) (by omega)
    omega

theorem le_wrap (hw : 0 < w) (h0 : q - p < 2 ^ (w - 1)) (h1 : p - q ≤ 2 ^ (w - 1)) :
    le (wrap w p) (wrap w q) = decide (p ≤ q) := by
  rw [le, decide_eq_decide]
  exact dist_lt_half_iff hw h0 h1

theorem lt_wrap (hw : 0 < w) (h0 : q - p < 2 ^ (w - 1)) (h1 : p - q ≤ 2 ^ (w - 1)) :
    lt (wrap w p) (wrap w q) = decide (p < q) := by
  have h2 := two_pow_half hw
  have hpos : (0 : ℤ) < 2 ^ (w - 1) := by positivity
  have hne : wrap w p = wrap w q ↔ p = q := wrap_inj (by omega) (by omega)
  rw [Bool.eq_iff_iff, lt, Bool.and_eq_true, bne_iff_ne, decide_eq_true_eq, decide_eq_true_eq,
    dist_lt_half_iff hw h0 h1, Ne, hne]
  omega

/-- A counter that lies ahead by more than half of the number space seems to be behind. -/
theorem le_wrap_of_lt (hw : 0 < w) (h0 : p < q) (h1 : q - p ≤ 2 ^ w) :
    le (wrap w q) (wrap w p) = decide (2 ^ (w - 1) < q - p) := by
  have h2 := two_pow_half hw
  have hcast : ((2 ^ (w - 1) : ℕ) : ℤ) = 2 ^ (w - 1) := by push_cast; rfl
  have h := dist_wrap_neg h0 h1
  rw [le, decide_eq_decide]
  omega

/-- Every counter belongs to a position in the half-open space that starts at `r`. -/
theorem exists_wrap (x : BitVec w) (r : ℤ) : ∃ p, wrap w p = x ∧ r ≤ p ∧ p < r + 2 ^ w := by
  have hpos : (0 : ℤ) < 2 ^ w := by positivity
  refine ⟨r + (x - wrap w r).toNat, ?_, by omega, ?_⟩
  · rw [← wrap_add, wrap_toNat, BitVec.add_comm, BitVec.sub_add_cancel]
  · have : ((x - wrap w r).toNat : ℤ) < 2 ^ w := by exact_mod_cast (x - wrap w r).isLt
    omega

/-- The position of the counter `x` that is nearest to the position `q`. -/
def near (q : ℤ) (x : BitVec w) : ℤ := q + (x - wrap w q).toInt

@[simp] theorem wrap_near (q : ℤ) (x : BitVec w) : wrap w (near q x) = x := by
  have hdiff : wrap w (x - wrap w q).toInt = x - wrap w q := BitVec.ofInt_toInt
  rw [near, ← wrap_add, hdiff, BitVec.add_comm, BitVec.sub_add_cancel]

theorem near_wrap (hw : 0 < w) (h0 : q - p ≤ 2 ^ (w - 1)) (h1 : p - q < 2 ^ (w - 1)) :
    near q (wrap w p) = p := by
  have h2 := two_pow_half hw
  have hdiff : (wrap w (p - q)).toInt = p - q := by
    rw [wrap, BitVec.toInt_ofInt]
    refine Int.bmod_eq_of_le_mul_two ?_ ?_ <;> push_cast <;> omega
  rw [near, wrap_sub, hdiff, add_sub_cancel]

end Serial
