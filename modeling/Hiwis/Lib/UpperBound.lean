import Mathlib

/-!
# Insertion at the upper bound

`std::upper_bound` finds, by halving, the first element of a sorted vector before which a value has
to be put.  The vector is a list here, and the order the one of a key.

* `UpperBound.index_spec` : no element before the index comes after the value, all others do;
* `UpperBound.pairwise_insert` : insertion there keeps the vector sorted.
-/

namespace Hiwis

open List

namespace UpperBound

variable {α β : Type*}

/-- The loop of `upper_bound`: `len` elements from index `first` on are left, and `after` tells
which of them come after the value. -/
def loop (after : α → Bool) (l : List α) : ℕ → ℕ → ℕ → ℕ
  | 0, first, _ => first
  | fuel + 1, first, len =>
    if len = 0 then first
    else
      let half := len / 2
      if (l[first + half]?).any after then loop after l fuel first half
      else loop after l fuel (first + half + 1) (len - half - 1)

/-- `std::upper_bound`, as an index. -/
def index (comp : α → α → Bool) (value : α) (l : List α) : ℕ :=
  loop (comp value) l l.length 0 l.length

/-- `insert` at the position that `upper_bound` has found. -/
def insert (comp : α → α → Bool) (value : α) (l : List α) : List α :=
  l.take (index comp value l) ++ value :: l.drop (index comp value l)

/-- The loop keeps the elements before `first` on the one side and those from `first + len` on on
the other one. -/
theorem loop_spec {after : α → Bool} {l : List α} {fuel first len : ℕ} (hfuel : len ≤ fuel)
    (hlen : first + len ≤ l.length)
    (hmono : ∀ i j (hi : i < l.length) (hj : j < l.length), i ≤ j → after l[i] → after l[j])
    (hlow : ∀ i (hi : i < l.length), i < first → after l[i] = false)
    (hhigh : ∀ i (hi : i < l.length), first + len ≤ i → after l[i] = true) :
    loop after l fuel first len ≤ l.length ∧
      (∀ i (hi : i < l.length), i < loop after l fuel first len → after l[i] = false) ∧
      ∀ i (hi : i < l.length), loop after l fuel first len ≤ i → after l[i] = true := by
  induction fuel generalizing first len with
  | zero =>
    obtain rfl : len = 0 := by omega
    exact ⟨hlen, hlow, hhigh⟩
  | succ fuel ih =>
    unfold loop
    by_cases hzero : len = 0
    · rw [if_pos hzero]
      subst hzero
      exact ⟨hlen, hlow, hhigh⟩
    · rw [if_neg hzero]
      have hmid : first + len / 2 < l.length := by omega
      simp only [List.getElem?_eq_getElem hmid, Option.any_some]
      split_ifs with hafter
      · -- the middle comes after the value: look to the left of it
        refine ih (by omega) (by omega) hlow fun i hi hle => ?_
        exact hmono _ i hmid hi hle hafter
      · refine ih (by omega) (by omega) (fun i hi hlt => ?_) fun i hi hle => hhigh i hi (by omega)
        by_contra hcon
        rw [Bool.not_eq_false] at hcon
        exact hafter (hmono i _ hi hmid (by omega) hcon)

section Key

variable [LinearOrder β] {key : α → β} {comp : α → α → Bool} {l : List α}

theorem index_spec (hcomp : ∀ a b, comp a b = decide (key a < key b))
    (hl : l.Pairwise fun a b => key a ≤ key b) (value : α) :
    index comp value l ≤ l.length ∧
      (∀ i (hi : i < l.length), i < index comp value l → key l[i] ≤ key value) ∧
      ∀ i (hi : i < l.length), index comp value l ≤ i → key value < key l[i] := by
  have hmono : ∀ i j (hi : i < l.length) (hj : j < l.length), i ≤ j →
      comp value l[i] → comp value l[j] := by
    intro i j hi hj hij h
    rw [hcomp, decide_eq_true_eq] at h ⊢
    rcases Nat.eq_or_lt_of_le hij with rfl | hlt
    · exact h
    · exact h.trans_le (pairwise_iff_getElem.1 hl i j hi hj hlt)
  obtain ⟨hle, hlow, hhigh⟩ := @loop_spec _ (comp value) l l.length 0 l.length le_rfl (by omega)
    hmono (fun i _ hi => absurd hi (Nat.not_lt_zero i)) (fun i hi hle => by omega)
  refine ⟨hle, fun i hi hlt => ?_, fun i hi hle => ?_⟩
  · have := hlow i hi hlt
    rw [hcomp, decide_eq_false_iff_not] at this
    exact le_of_not_gt this
  · have := hhigh i hi hle
    rwa [hcomp, decide_eq_true_eq] at this

theorem mem_insert {value a : α} : a ∈ insert comp value l ↔ a = value ∨ a ∈ l := by
  unfold insert
  conv_rhs => rw [← take_append_drop (index comp value l) l]
  simp only [mem_append, mem_cons]
  tauto

theorem insert_perm (value : α) : (insert comp value l).Perm (value :: l) := by
  unfold insert
  refine perm_middle.trans (List.Perm.cons _ ?_)
  rw [take_append_drop]

/-- A sorted vector stays sorted. -/
theorem pairwise_insert (hcomp : ∀ a b, comp a b = decide (key a < key b))
    (hl : l.Pairwise fun a b => key a ≤ key b) (value : α) :
    (insert comp value l).Pairwise fun a b => key a ≤ key b := by
  obtain ⟨hle, hlow, hhigh⟩ := index_spec hcomp hl value
  have hlow' : ∀ a ∈ l.take (index comp value l), key a ≤ key value := by
    intro a ha
    obtain ⟨i, hi, rfl⟩ := mem_iff_getElem.1 ha
    rw [length_take] at hi
    rw [getElem_take]
    exact hlow i (by omega) (by omega)
  have hhigh' : ∀ a ∈ l.drop (index comp value l), key value ≤ key a := by
    intro a ha
    obtain ⟨i, hi, rfl⟩ := mem_iff_getElem.1 ha
    rw [length_drop] at hi
    rw [getElem_drop]
    exact (hhigh _ (by omega) (by omega)).le
  have hsplit := hl
  rw [← take_append_drop (index comp value l) l, pairwise_append] at hsplit
  refine pairwise_append.2 ⟨hsplit.1, pairwise_cons.2 ⟨hhigh', hsplit.2.1⟩, ?_⟩
  intro a ha b hb
  rcases mem_cons.1 hb with rfl | hb
  · exact hlow' a ha
  · exact (hlow' a ha).trans (hhigh' b hb)

end Key

end UpperBound

end Hiwis
