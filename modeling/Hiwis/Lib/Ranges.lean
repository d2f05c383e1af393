import Mathlib

/-!
# Separated lists of ranges

A finite set of positions that falls into a few long runs is stored as the list of its runs:
half-open ranges `[b, e)` over a linear order, each non-empty, in ascending order, with a gap
between any two of them (`Ranges.Sep`).  `Ranges.cover` is the set such a list stands for.

* `Ranges.Sep.cons_iff`, `Ranges.Sep.append_iff` : separated lists by their parts;
* `Ranges.cover_append`, `Ranges.cover_cons` : the cover by its parts;
* `Ranges.Sep.head_le`, `Ranges.Sep.head_end_notMem` : the first range of a separated list is the
  initial run of its cover.
-/

namespace Ranges

open List

variable {α : Type*} [LinearOrder α]

/-- The set of positions covered by a list of ranges. -/
def cover (L : List (α × α)) : Set α := {x | ∃ r ∈ L, r.1 ≤ x ∧ x < r.2}

/-- Ranges are non-empty, ascending, and no two of them touch. -/
def Sep (L : List (α × α)) : Prop := (∀ r ∈ L, r.1 < r.2) ∧ L.Pairwise fun r s => r.2 < s.1

variable {L : List (α × α)} {x : α}

@[simp] theorem mem_cover : x ∈ cover L ↔ ∃ r ∈ L, r.1 ≤ x ∧ x < r.2 := Iff.rfl

@[simp] theorem cover_nil : cover ([] : List (α × α)) = ∅ := by
  ext x; simp

theorem cover_cons (r : α × α) (L : List (α × α)) : cover (r :: L) = Set.Ico r.1 r.2 ∪ cover L := by
  ext x; simp

theorem cover_append (L M : List (α × α)) : cover (L ++ M) = cover L ∪ cover M := by
  ext x; simp [or_and_right, exists_or]

@[simp] theorem cover_reverse (L : List (α × α)) : cover L.reverse = cover L := by
  ext x; simp

@[simp] theorem Sep.nil : Sep ([] : List (α × α)) := by simp [Sep]

variable {r : α × α}

theorem Sep.cons_iff : Sep (r :: L) ↔ r.1 < r.2 ∧ (∀ s ∈ L, r.2 < s.1) ∧ Sep L := by
  simp only [Sep, mem_cons, forall_eq_or_imp, pairwise_cons]
  tauto

theorem Sep.append_iff {L M : List (α × α)} :
    Sep (L ++ M) ↔ Sep L ∧ Sep M ∧ ∀ r ∈ L, ∀ s ∈ M, r.2 < s.1 := by
  simp only [Sep, mem_append, pairwise_append]
  constructor
  · rintro ⟨h, hL, hM, hLM⟩
    exact ⟨⟨fun r hr => h r (.inl hr), hL⟩, ⟨fun r hr => h r (.inr hr), hM⟩, hLM⟩
  · rintro ⟨⟨hL, hL'⟩, ⟨hM, hM'⟩, hLM⟩
    exact ⟨fun r hr => hr.elim (hL r) (hM r), hL', hM', hLM⟩

theorem Sep.pos (h : Sep L) (hr : r ∈ L) : r.1 < r.2 := h.1 r hr

/-- No position below the first range is covered. -/
theorem Sep.head_le (h : Sep (r :: L)) (hx : x ∈ cover (r :: L)) : r.1 ≤ x := by
  obtain ⟨hr, hL, hs⟩ := Sep.cons_iff.1 h
  rw [cover_cons] at hx
  rcases hx with hx | ⟨s, hs', hx, -⟩
  · exact hx.1
  · exact (hr.le.trans (hL s hs').le).trans hx

/-- The end of the first range is not covered. -/
theorem Sep.head_end_notMem (h : Sep (r :: L)) : r.2 ∉ cover (r :: L) := by
  obtain ⟨hr, hL, hs⟩ := Sep.cons_iff.1 h
  rw [cover_cons]
  rintro (hx | ⟨s, hs', hx, -⟩)
  · exact lt_irrefl _ hx.2
  · exact absurd (hL s hs') (not_lt.2 hx)

theorem Sep.head_subset : Set.Ico r.1 r.2 ⊆ cover (r :: L) := by
  rw [cover_cons]; exact Set.subset_union_left

/-- No position from the end of the last range on is covered. -/
theorem Sep.lt_last (h : Sep (L ++ [r])) (hx : x ∈ cover (L ++ [r])) : x < r.2 := by
  obtain ⟨-, hr, hL⟩ := Sep.append_iff.1 h
  obtain ⟨s, hs, -, hx⟩ := hx
  rcases mem_append.1 hs with hs | hs
  · exact hx.trans ((hL s hs r (by simp)).trans (hr.pos (by simp)))
  · rw [mem_singleton] at hs
    exact hs ▸ hx

/-- The ranges of a separated list lie within the bounds of its cover. -/
theorem Sep.bounds {a c : α} (h : Sep L) (hc : cover L ⊆ Set.Ico a c) (hr : r ∈ L) :
    a ≤ r.1 ∧ r.2 ≤ c := by
  have hpos := h.pos hr
  refine ⟨(hc ⟨r, hr, le_rfl, hpos⟩).1, not_lt.1 fun hlt => ?_⟩
  have hmem : max r.1 c ∈ cover L := ⟨r, hr, le_max_left _ _, max_lt hpos hlt⟩
  exact absurd (hc hmem).2 (not_lt.2 (le_max_right _ _))

/-- Replacing the first range by a later part of it. -/
theorem Sep.drop_head {b m e : α} (h : Sep ((b, e) :: L)) (hm : m < e) : Sep ((m, e) :: L) := by
  obtain ⟨-, hL, hs⟩ := Sep.cons_iff.1 h
  exact Sep.cons_iff.2 ⟨hm, hL, hs⟩

/-- Taking an initial part of the first range out of a separated list. -/
theorem Sep.cover_diff_head {b m e : α} (h : Sep ((b, e) :: L)) (hb : b ≤ m) (hm : m ≤ e) :
    cover ((b, e) :: L) \ Set.Ico b m = Set.Ico m e ∪ cover L := by
  obtain ⟨hr, hL, hs⟩ := Sep.cons_iff.1 h
  have hL' : ∀ x ∈ cover L, e < x := fun x ⟨s, hs, hx, _⟩ => (hL s hs).trans_le hx
  ext x
  simp only [cover_cons, Set.mem_sdiff, Set.mem_union, Set.mem_Ico, not_and, not_lt]
  constructor
  · rintro ⟨⟨hx, hx'⟩ | hx, hn⟩
    · exact .inl ⟨hn hx, hx'⟩
    · exact .inr hx
  · rintro (⟨hx, hx'⟩ | hx)
    · exact ⟨.inl ⟨hb.trans hx, hx'⟩, fun _ => hx⟩
    · exact ⟨.inr hx, fun _ => hm.trans (hL' x hx).le⟩

end Ranges
