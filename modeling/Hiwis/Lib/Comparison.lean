import Mathlib

/-!
# Three-way comparisons

A comparison function returns a positive number when its first argument comes before the second
one, a negative number when it comes after it, and 0 when there is no difference.

* `Comparison.ite` : comparing two keys of a linear order;
* `Comparison.lex` : comparing a second key when the first one makes no difference is the
  lexicographic order;
* `Comparison.foldl_le` : a loop that keeps the better one of two ends with one of the best.
-/

/-- The number is the result of comparing `a` with `b`. -/
structure Comparison {α : Type*} [LinearOrder α] (result : ℤ) (a b : α) : Prop where
  pos : 0 < result ↔ a < b
  neg : result < 0 ↔ b < a

namespace Comparison

variable {α β : Type*} [LinearOrder α] [LinearOrder β] {a b : α} {c d : β} {r r' : ℤ}

theorem eq_zero (h : Comparison r a b) : r = 0 ↔ a = b := by
  have hpos := h.pos
  have hneg := h.neg
  constructor
  · rintro rfl
    exact le_antisymm (not_lt.1 fun hlt => lt_irrefl _ (hneg.2 hlt))
      (not_lt.1 fun hlt => lt_irrefl _ (hpos.2 hlt))
  · rintro rfl
    have h1 : ¬0 < r := fun hlt => lt_irrefl _ (hpos.1 hlt)
    have h2 : ¬r < 0 := fun hlt => lt_irrefl _ (hneg.1 hlt)
    exact le_antisymm (not_lt.1 h1) (not_lt.1 h2)

theorem nonneg (h : Comparison r a b) : 0 ≤ r ↔ a ≤ b := by
  rw [← not_lt, ← not_lt, h.neg]

theorem nonpos (h : Comparison r a b) : r ≤ 0 ↔ b ≤ a := by
  rw [← not_lt, ← not_lt, h.pos]

/-- Comparing two keys, the smaller one first. -/
theorem ite (a b : α) : Comparison (if a < b then 1 else if b < a then -1 else 0) a b := by
  by_cases hab : a < b
  · rw [if_pos hab]
    exact ⟨iff_of_true Int.one_pos hab, iff_of_false (by decide) hab.not_gt⟩
  rw [if_neg hab]
  by_cases hba : b < a
  · rw [if_pos hba]
    exact ⟨iff_of_false (by decide) hab, iff_of_true (by decide) hba⟩
  · rw [if_neg hba]
    exact ⟨iff_of_false (by decide) hab, iff_of_false (by decide) hba⟩

/-- The second key decides when the first one makes no difference. -/
theorem lex (h : Comparison r a b) (h' : Comparison r' c d) :
    Comparison (if r ≠ 0 then r else r') (toLex (a, c)) (toLex (b, d)) := by
  have hzero := h.eq_zero
  by_cases hr : r = 0
  · rw [if_neg (not_not.2 hr)]
    have hab : a = b := hzero.1 hr
    constructor
    · rw [h'.pos, Prod.Lex.toLex_lt_toLex]
      simp [hab]
    · rw [h'.neg, Prod.Lex.toLex_lt_toLex]
      simp [hab]
  · rw [if_pos hr]
    have hab : a ≠ b := fun heq => hr (hzero.2 heq)
    constructor
    · rw [h.pos, Prod.Lex.toLex_lt_toLex]
      simp [hab]
    · rw [h.neg, Prod.Lex.toLex_lt_toLex]
      simp [hab.symm]

/-- Comparing the first keys on the spot. -/
theorem ite_lex (a b : α) (h : Comparison r c d) :
    Comparison (if a < b then 1 else if b < a then -1 else r) (toLex (a, c)) (toLex (b, d)) := by
  have hlex := (ite a b).lex h
  by_cases hab : a < b
  · rw [if_pos hab]
    simpa [hab] using hlex
  by_cases hba : b < a
  · rw [if_neg hab, if_pos hba]
    simpa [hab, hba] using hlex
  · rw [if_neg hab, if_neg hba]
    simpa [hab, hba] using hlex

/-- A loop over candidates, each round of which keeps one that is not worse than both. -/
theorem foldl_le {γ : Type*} (key : γ → α) {step : γ → γ → γ}
    (hstep : ∀ best i, key (step best i) ≤ key best ∧ key (step best i) ≤ key i) (l : List γ)
    (best : γ) : key (l.foldl step best) ≤ key best ∧ ∀ i ∈ l, key (l.foldl step best) ≤ key i := by
  induction l generalizing best with
  | nil => exact ⟨le_rfl, fun i hi => by cases hi⟩
  | cons j l ih =>
    obtain ⟨hbest, hl⟩ := ih (step best j)
    refine ⟨hbest.trans (hstep best j).1, fun i hi => ?_⟩
    rcases List.mem_cons.1 hi with rfl | hi
    · exact hbest.trans (hstep best i).2
    · exact hl i hi

end Comparison
