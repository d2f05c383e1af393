import Hiwis.Lib.History

/-!
# Token buckets

A machine has a clock, which every action sets to the time of the action.  A bucket of the machine
is filled at a rate up to its size, and an action may draw from it.

* `TokenBucket.IsBucket.amountIn_le` : what is drawn in an interval is at most the size and the rate
  times the length of the interval;
* `TokenBucket.credited_add_lost` : where tokens are credited as integers, the fractions are lost.
-/

namespace TokenBucket

variable {S A : Type*}

/-- A sum over the actions of a history. -/
def total {R : Type*} [Zero R] [Add R] (act : S → A → S) (f : S → A → R) : S → List A → R
  | _, [] => 0
  | σ, a :: as => f σ a + total act f (act σ a) as

/-- The sum over the actions in an interval of time. -/
def amountIn (act : S → A → S) (time : A → ℚ) (amount : S → A → ℚ) (s t : ℚ) : S → List A → ℚ :=
  total act fun σ a => if s ≤ time a ∧ time a ≤ t then amount σ a else 0

variable {act : S → A → S} {now : S → ℚ} {time : A → ℚ} {rate : ℚ} {σ : S} {as : List A}

section Drawn

variable {I : S → Prop} {level : S → ℚ} {size : ℚ} {amount : S → A → ℚ} {s t : ℚ}

theorem amountIn_cons {a : A} : amountIn act time amount s t σ (a :: as) =
    (if s ≤ time a ∧ time a ≤ t then amount σ a else 0) +
      amountIn act time amount s t (act σ a) as := rfl

/-- The bucket grows at the rate at most, and not above its size. -/
structure IsBucket (act : S → A → S) (now : S → ℚ) (time : A → ℚ) (I : S → Prop) (level : S → ℚ)
    (rate size : ℚ) (amount : S → A → ℚ) : Prop where
  rate_nonneg : 0 ≤ rate
  now_act : ∀ σ a, now (act σ a) = time a
  keeps : ∀ σ a, I σ → now σ ≤ time a → I (act σ a)
  level_nonneg : ∀ σ, I σ → 0 ≤ level σ
  amount_nonneg : ∀ σ a, 0 ≤ amount σ a
  le_size : ∀ σ a, I σ → now σ ≤ time a → level (act σ a) + amount σ a ≤ size
  le_level : ∀ σ a, I σ → now σ ≤ time a →
    level (act σ a) + amount σ a ≤ level σ + rate * (time a - now σ)

variable (h : IsBucket act now time I level rate size amount)
  (has : History.Each act (fun σ a => now σ ≤ time a) σ as)
include h has

theorem IsBucket.amountIn_eq_zero (ht : t < now σ) : amountIn act time amount s t σ as = 0 := by
  induction as generalizing σ with
  | nil => rfl
  | cons a as ih =>
    have hlt : t < time a := ht.trans_le has.1
    rw [amountIn_cons, if_neg fun hin => hlt.not_ge hin.2, zero_add]
    exact ih has.2 (by rwa [h.now_act])

/-- From now on no more is drawn than the bucket holds and gets. -/
theorem IsBucket.amountIn_le_level (hσ : I σ) (ht : now σ ≤ t) :
    amountIn act time amount s t σ as ≤ level σ + rate * (t - now σ) := by
  induction as generalizing σ with
  | nil => exact add_nonneg (h.level_nonneg σ hσ) (mul_nonneg h.rate_nonneg (sub_nonneg.2 ht))
  | cons a as ih =>
    have hI := h.keeps σ a hσ has.1
    have hlevel := h.le_level σ a hσ has.1
    have hamount := h.amount_nonneg σ a
    rw [amountIn_cons]
    rcases le_or_gt (time a) t with hle | hlt
    · have hrest := ih has.2 hI (by rwa [h.now_act])
      rw [h.now_act] at hrest
      have hfirst : (if s ≤ time a ∧ time a ≤ t then amount σ a else 0) ≤ amount σ a := by
        split_ifs
        · exact le_rfl
        · exact hamount
      linarith
    · rw [if_neg fun hin => hlt.not_ge hin.2, h.amountIn_eq_zero has.2 (by rwa [h.now_act]), add_zero]
      exact add_nonneg (h.level_nonneg σ hσ) (mul_nonneg h.rate_nonneg (sub_nonneg.2 ht))

/-- The first packet of the interval finds a bucket that is not above its size. -/
theorem IsBucket.amountIn_le (hσ : I σ) (hsize : 0 ≤ size) (hst : s ≤ t) :
    amountIn act time amount s t σ as ≤ size + rate * (t - s) := by
  have hrate := h.rate_nonneg
  induction as generalizing σ with
  | nil => exact add_nonneg hsize (mul_nonneg hrate (sub_nonneg.2 hst))
  | cons a as ih =>
    have hI := h.keeps σ a hσ has.1
    rw [amountIn_cons]
    by_cases hin : s ≤ time a ∧ time a ≤ t
    · have hrest := h.amountIn_le_level (s := s) has.2 hI ((h.now_act σ a).trans_le hin.2)
      have hle := h.le_size σ a hσ has.1
      have hlength : rate * (t - time a) ≤ rate * (t - s) :=
        mul_le_mul_of_nonneg_left (by linarith) hrate
      rw [h.now_act] at hrest
      rw [if_pos hin]
      linarith
    · rw [if_neg hin, zero_add]
      exact ih has.2 hI

end Drawn

/-- The fractions of tokens in the gaps between the times. -/
def lost (rate : ℚ) : ℚ → List ℚ → ℚ
  | _, [] => 0
  | last, t :: times => Int.fract ((t - last) * rate) + lost rate t times

theorem lost_nonneg (rate last : ℚ) (times : List ℚ) : 0 ≤ lost rate last times := by
  induction times generalizing last with
  | nil => exact le_rfl
  | cons t times ih => exact add_nonneg (Int.fract_nonneg _) (ih t)

/-- What is credited as integers, and the fractions that are lost, make up the rate times the
elapsed time. -/
theorem credited_add_lost (hnow : ∀ σ a, now (act σ a) = time a) {credit : S → A → ℤ}
    (hcredit : History.Each act (fun σ a => credit σ a = ⌊(time a - now σ) * rate⌋) σ as) :
    ((total act credit σ as : ℤ) : ℚ) + lost rate (now σ) (as.map time) =
      (now (as.foldl act σ) - now σ) * rate := by
  induction as generalizing σ with
  | nil => simp [total, lost]
  | cons a as ih =>
    have hrest := ih hcredit.2
    have hfloor := Int.floor_add_fract ((time a - now σ) * rate)
    rw [hnow] at hrest
    rw [total, hcredit.1, List.map_cons, lost, List.foldl_cons, Int.cast_add]
    linarith

end TokenBucket
