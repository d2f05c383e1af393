import Mathlib

/-!
# Consecutive ranges

Lists of ranges of natural numbers that follow each other without a gap, as they arise when a range
is cut into pieces.

* `Consecutive.append` : pieces of two adjacent ranges make up pieces of their union;
* `Consecutive.disjoint`, `Consecutive.cover` : each number lies in exactly one piece.
-/

namespace Hiwis

open List

/-- The ranges of the list are not empty, and they follow each other from `a` to `b`. -/
inductive Consecutive : ℕ → List (ℕ × ℕ) → ℕ → Prop
  | nil (a : ℕ) : Consecutive a [] a
  | cons {a c b : ℕ} {L : List (ℕ × ℕ)} :
      a < c → Consecutive c L b → Consecutive a ((a, c) :: L) b

section Consecutive

variable {a b c : ℕ} {L L' : List (ℕ × ℕ)}

theorem Consecutive.append (h : Consecutive a L c) (h' : Consecutive c L' b) :
    Consecutive a (L ++ L') b := by
  induction h with
  | nil => exact h'
  | cons hlt _ ih => exact .cons hlt (ih h')

theorem Consecutive.single (h : a < b) : Consecutive a [(a, b)] b := .cons h (.nil b)

variable (h : Consecutive a L b)
include h

theorem Consecutive.le : a ≤ b := by
  induction h with
  | nil => exact le_rfl
  | cons hlt _ ih => omega

variable {p : ℕ × ℕ}

theorem Consecutive.bounds (hp : p ∈ L) : a ≤ p.1 ∧ p.1 < p.2 ∧ p.2 ≤ b := by
  induction h with
  | nil => cases hp
  | cons hlt hrest ih =>
    have hle := hrest.le
    rcases mem_cons.1 hp with rfl | hp
    · exact ⟨le_rfl, hlt, hle⟩
    · have := ih hp
      omega

theorem Consecutive.disjoint {p q : ℕ × ℕ} (hp : p ∈ L) (hq : q ∈ L) :
    p = q ∨ p.2 ≤ q.1 ∨ q.2 ≤ p.1 := by
  induction h with
  | nil => cases hp
  | cons hlt hrest ih =>
    rcases mem_cons.1 hp with rfl | hp <;> rcases mem_cons.1 hq with rfl | hq
    · exact .inl rfl
    · exact .inr (.inl (hrest.bounds hq).1)
    · exact .inr (.inr (hrest.bounds hp).1)
    · exact ih hp hq

theorem Consecutive.cover {k : ℕ} (hk : a ≤ k) (hk' : k < b) : ∃ p ∈ L, p.1 ≤ k ∧ k < p.2 := by
  induction h with
  | nil => omega
  | @cons a c b L hlt hrest ih =>
    by_cases hkc : k < c
    · exact ⟨(a, c), mem_cons_self, hk, hkc⟩
    · obtain ⟨p, hp, hkp⟩ := ih (by omega) hk'
      exact ⟨p, mem_cons_of_mem _ hp, hkp⟩

theorem Consecutive.nodup : L.Nodup := by
  induction h with
  | nil => exact nodup_nil
  | @cons a c b L hlt hrest ih =>
    refine nodup_cons.2 ⟨fun hmem => ?_, ih⟩
    have := (hrest.bounds hmem).1
    dsimp only at this
    omega

/-- A range that is the whole is the only one. -/
theorem Consecutive.eq_single (hab : (a, b) ∈ L) : L = [(a, b)] := by
  cases h with
  | nil => cases hab
  | @cons _ c _ L hlt hrest =>
    rcases mem_cons.1 hab with heq | hmem
    · cases heq
      cases hrest with
      | nil => rfl
      | cons hlt' hrest' =>
        have := hrest'.le
        omega
    · have := (hrest.bounds hmem).1
      dsimp only at this
      omega

/-- A range that is all there is, is the whole. -/
theorem Consecutive.eq_single_of_forall (hab : a < b) (hp : ∀ q ∈ L, q = p) :
    L = [(a, b)] := by
  obtain ⟨q, hq, hqa, -⟩ := h.cover le_rfl hab
  obtain ⟨r, hr, -, hrb⟩ := h.cover (k := b - 1) (by omega) (by omega)
  have hqp := hp q hq
  have hrp := hp r hr
  subst hqp
  subst hrp
  have hbounds := h.bounds hq
  refine h.eq_single ?_
  rwa [show (a, b) = r from Prod.ext (by dsimp only; omega) (by dsimp only; omega)]

end Consecutive

end Hiwis
