import Hiwis.Lib.Serial

/-!
# Transmission and stream sequence numbers

The comparisons of sequence numbers of `SCTPAssociation`: the sign of the difference, taken as a
signed number of the same width.

* `SCTP.tsnLe_wrap`, `SCTP.tsnGt_wrap`, `SCTP.tsnGe_wrap` : the comparisons of positions that are
  less than half of the number space apart;
* `SCTP.tsnBetween_wrap` : the test for an interval.
-/

namespace Hiwis

namespace SCTP

open Serial (wrap)

/-- A transmission sequence number. -/
abbrev TSN := BitVec 32

/-- A stream sequence number. -/
abbrev SSN := BitVec 16

def tsnLt (tsn1 tsn2 : TSN) : Bool := decide ((tsn1 - tsn2).toInt < 0)

def tsnLe (tsn1 tsn2 : TSN) : Bool := decide ((tsn1 - tsn2).toInt ≤ 0)

def tsnGe (tsn1 tsn2 : TSN) : Bool := decide (0 ≤ (tsn1 - tsn2).toInt)

def tsnGt (tsn1 tsn2 : TSN) : Bool := decide (0 < (tsn1 - tsn2).toInt)

def tsnBetween (tsn1 midtsn tsn2 : TSN) : Bool :=
  decide ((midtsn - tsn1).toNat ≤ (tsn2 - tsn1).toNat)

def ssnGt (ssn1 ssn2 : SSN) : Bool := decide (0 < (ssn1 - ssn2).toInt)

/-- The difference of two numbers, as a signed number, is the difference of near positions. -/
theorem toInt_wrap_sub {w : ℕ} (hw : 0 < w) {p q : ℤ} (h₀ : p - q < 2 ^ (w - 1))
    (h₁ : q - p < 2 ^ (w - 1)) : (wrap w p - wrap w q).toInt = p - q := by
  have h2 := Serial.two_pow_half hw
  rw [Serial.wrap_sub, wrap, BitVec.toInt_ofInt]
  refine Int.bmod_eq_of_le_mul_two ?_ ?_
  · push_cast
    linarith
  · push_cast
    linarith

variable {p q : ℤ}

section

variable (h₀ : p - q < 2 ^ 31) (h₁ : q - p < 2 ^ 31)
include h₀ h₁

theorem tsnLe_wrap : tsnLe (wrap 32 p) (wrap 32 q) = decide (p ≤ q) := by
  rw [tsnLe, toInt_wrap_sub (by decide) h₀ h₁, decide_eq_decide, sub_nonpos]

theorem tsnGe_wrap : tsnGe (wrap 32 p) (wrap 32 q) = decide (q ≤ p) := by
  rw [tsnGe, toInt_wrap_sub (by decide) h₀ h₁, decide_eq_decide, sub_nonneg]

theorem tsnGt_wrap : tsnGt (wrap 32 p) (wrap 32 q) = decide (q < p) := by
  rw [tsnGt, toInt_wrap_sub (by decide) h₀ h₁, decide_eq_decide, sub_pos]

end

/-- A position is tested against an interval that is less than the number space away. -/
theorem tsnBetween_wrap {m : ℤ} (hpq : p ≤ q) (h₀ : q - p < 2 ^ 32) (h₁ : m - p < 2 ^ 32)
    (h2 : q - m < 2 ^ 32) :
    tsnBetween (wrap 32 p) (wrap 32 m) (wrap 32 q) = decide (p ≤ m ∧ m ≤ q) := by
  have hq := Serial.dist_wrap (w := 32) hpq h₀
  rw [tsnBetween, decide_eq_decide, hq]
  by_cases hm : p ≤ m
  · rw [Serial.dist_wrap (w := 32) hm h₁]
    omega
  · have hneg := Serial.dist_wrap_neg (w := 32) (p := m) (q := p) (by omega) (by omega)
    omega

end SCTP

end Hiwis
