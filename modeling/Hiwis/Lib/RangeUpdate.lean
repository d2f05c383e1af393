import Hiwis.Lib.Ranges

/-!
# Updating a separated list of ranges

Single positions are put into and taken out of a separated list of ranges of integers, and an
initial part of the positions is cut off.

* `Ranges.insertFrom` adds a position that does not lie below the first range: it extends a range
  at either end, joins two ranges or opens a new one (`Ranges.insertFrom_spec`);
* `Ranges.pieces` is what is left of a range without one of its positions (`Ranges.Sep.pieces`,
  `Ranges.Sep.cover_pieces`);
* `Ranges.Sep.cover_dropWhile` : leaving out the ranges that start before a position which is not
  covered.
-/

namespace Ranges

open List Set

section General

variable {α : Type*} [LinearOrder α] {L : List (α × α)} {r : α × α} {m : α}

/-- A range below everything that is covered may be put in front. -/
theorem Sep.cons_of_cover (hr : r.1 < r.2) (h : Sep L) (hlt : ∀ x ∈ cover L, r.2 < x) :
    Sep (r :: L) :=
  Sep.cons_iff.2 ⟨hr, fun s hs => hlt s.1 ⟨s, hs, le_rfl, h.pos hs⟩, h⟩

/-- What the further ranges cover lies above the first one. -/
theorem Sep.lt_of_mem_cover (h : Sep (r :: L)) {x : α} (hx : x ∈ cover L) : r.2 < x := by
  obtain ⟨-, hL, -⟩ := Sep.cons_iff.1 h
  obtain ⟨s, hs, hsx, -⟩ := hx
  exact (hL s hs).trans_le hsx

theorem Sep.tail (h : Sep (r :: L)) : Sep L := (Sep.cons_iff.1 h).2.2

theorem Sep.dropWhile (h : Sep L) : Sep (L.dropWhile fun r => decide (r.1 < m)) := by
  induction L with
  | nil => exact h
  | cons r L ih =>
    rw [dropWhile_cons]
    split_ifs with hr
    · exact ih h.tail
    · exact h

/-- Cutting a list of ranges at a position that is not covered. -/
theorem Sep.cover_dropWhile (h : Sep L) (hm : m ∉ cover L) :
    cover (L.dropWhile fun r => decide (r.1 < m)) = cover L ∩ Set.Ici m := by
  induction L with
  | nil => simp
  | cons r L ih =>
    rw [cover_cons] at hm
    have hrange : m ∉ Set.Ico r.1 r.2 := fun hmem => hm (.inl hmem)
    rw [dropWhile_cons, cover_cons, union_inter_distrib_right]
    by_cases hr : r.1 < m
    · -- the whole range lies below the cut
      have hempty : Set.Ico r.1 r.2 ∩ Set.Ici m = ∅ := by
        ext x
        refine ⟨fun hx => hrange ⟨hr.le, hx.2.trans_lt hx.1.2⟩, fun hx => hx.elim⟩
      rw [if_pos (decide_eq_true hr), hempty, empty_union, ih h.tail fun hmem => hm (.inr hmem)]
    · rw [if_neg (by simpa using hr), cover_cons]
      congr 1
      · ext x
        exact ⟨fun hx => ⟨hx, (not_lt.1 hr).trans hx.1⟩, fun hx => hx.1⟩
      · ext x
        refine ⟨fun hx => ⟨hx, ?_⟩, fun hx => hx.1⟩
        exact (not_lt.1 hr).trans ((h.pos mem_cons_self).trans (h.lt_of_mem_cover hx)).le

end General

variable {L A B : List (ℤ × ℤ)} {r : ℤ × ℤ} {p : ℤ}

/-! ### Adding a position -/

/-- Adds the position `p` to the ranges `r :: L`, when it does not lie below `r`. -/
def insertFrom (p : ℤ) (r : ℤ × ℤ) : List (ℤ × ℤ) → List (ℤ × ℤ)
  | [] => if r.2 = p then [(r.1, p + 1)] else if r.2 < p then [r, (p, p + 1)] else [r]
  | s :: L =>
    if r.2 ≤ p ∧ p < s.1 then
      if r.2 = p then
        if p + 1 = s.1 then (r.1, s.2) :: L else (r.1, p + 1) :: s :: L
      else
        if p + 1 = s.1 then r :: (p, s.2) :: L else r :: (p, p + 1) :: s :: L
    else r :: insertFrom p s L

/-- A position below the end of the first range needs no change. -/
theorem insertFrom_of_lt (h : Sep (r :: L)) (hp : p < r.2) : insertFrom p r L = r :: L := by
  induction L generalizing r with
  | nil => rw [insertFrom, if_neg (by omega), if_neg (by omega)]
  | cons s L ih =>
    have hs : r.2 < s.1 := (Sep.cons_iff.1 h).2.1 s mem_cons_self
    have hpos := h.tail.pos mem_cons_self
    rw [insertFrom, if_neg (by omega), ih h.tail (by omega)]

/-- Adding a position adds it to what is covered and keeps the ranges apart. -/
theorem insertFrom_spec (h : Sep (r :: L)) (hp : r.1 ≤ p) :
    Sep (insertFrom p r L) ∧ cover (insertFrom p r L) = insert p (cover (r :: L)) := by
  induction L generalizing r with
  | nil =>
    have hr := h.pos mem_cons_self
    rw [insertFrom]
    split_ifs with heq hlt
    · refine ⟨Sep.cons_iff.2 ⟨by simp only; omega, by simp, .nil⟩, Set.ext fun x => ?_⟩
      simp only [cover_cons, cover_nil, union_empty, mem_Ico, mem_insert_iff]
      omega
    · refine ⟨Sep.cons_iff.2 ⟨hr, by simpa using hlt, Sep.cons_iff.2 ⟨by simp, by simp, .nil⟩⟩,
        Set.ext fun x => ?_⟩
      simp only [cover_cons, cover_nil, union_empty, mem_union, mem_Ico, mem_insert_iff]
      omega
    · refine ⟨h, (insert_eq_of_mem ?_).symm⟩
      exact ⟨r, mem_cons_self, hp, by omega⟩
  | cons s L ih =>
    have hr := h.pos mem_cons_self
    have hs := h.tail.pos mem_cons_self
    have hrs : r.2 < s.1 := (Sep.cons_iff.1 h).2.1 s mem_cons_self
    have hL : ∀ x ∈ cover L, s.2 < x := fun x => h.tail.lt_of_mem_cover
    rw [insertFrom]
    by_cases hgap : r.2 ≤ p ∧ p < s.1
    · -- the position lies between the first two ranges
      rw [if_pos hgap]
      have hsL : ∀ x ∈ cover (s :: L), s.1 ≤ x := fun x => h.tail.head_le
      split_ifs with hend hbegin hbegin
      · refine ⟨Sep.cons_of_cover (by simp only; omega) h.tail.tail hL, Set.ext fun x => ?_⟩
        simp only [cover_cons, mem_union, mem_Ico, mem_insert_iff]
        grind
      · refine ⟨Sep.cons_of_cover (by simp only; omega) h.tail fun x hx => ?_,
          Set.ext fun x => ?_⟩
        · have := hsL x hx
          simp only
          omega
        · simp only [cover_cons, mem_union, mem_Ico, mem_insert_iff]
          grind
      · have hnew : Sep ((p, s.2) :: L) :=
          Sep.cons_of_cover (by simp only; omega) h.tail.tail hL
        refine ⟨Sep.cons_of_cover hr hnew fun x hx => ?_, Set.ext fun x => ?_⟩
        · have : p ≤ x := hnew.head_le hx
          omega
        · simp only [cover_cons, mem_union, mem_Ico, mem_insert_iff]
          grind
      · have hnew : Sep ((p, p + 1) :: s :: L) :=
          Sep.cons_of_cover (by simp only; omega) h.tail fun x hx => by
            have := hsL x hx
            simp only
            omega
        refine ⟨Sep.cons_of_cover hr hnew fun x hx => ?_, Set.ext fun x => ?_⟩
        · have : p ≤ x := hnew.head_le hx
          omega
        · simp only [cover_cons, mem_union, mem_Ico, mem_insert_iff]
          grind
    · rw [if_neg hgap]
      by_cases hlt : p < r.2
      · have hmem : p ∈ cover (r :: s :: L) := ⟨r, mem_cons_self, hp, hlt⟩
        rw [insertFrom_of_lt h.tail (by omega)]
        exact ⟨h, (insert_eq_of_mem hmem).symm⟩
      · obtain ⟨hsep, hcover⟩ := ih h.tail (by omega)
        refine ⟨Sep.cons_of_cover hr hsep fun x hx => ?_, ?_⟩
        · rw [hcover] at hx
          rcases hx with rfl | hx
          · omega
          · exact hrs.trans_le (h.tail.head_le hx)
        · rw [cover_cons, hcover, cover_cons r, union_insert]

/-- The first range keeps its begin. -/
theorem exists_insertFrom (p : ℤ) (r : ℤ × ℤ) (L : List (ℤ × ℤ)) :
    ∃ e M, insertFrom p r L = (r.1, e) :: M := by
  cases L with
  | nil =>
    rw [insertFrom]
    split_ifs <;> exact ⟨_, _, rfl⟩
  | cons s L =>
    rw [insertFrom]
    split_ifs <;> exact ⟨_, _, rfl⟩

/-! ### Taking a position out -/

/-- What is left of a range without the position `p`. -/
def pieces (r : ℤ × ℤ) (p : ℤ) : List (ℤ × ℤ) :=
  [(r.1, p), (p + 1, r.2)].filter fun s => decide (s.1 < s.2)

theorem mem_pieces {s : ℤ × ℤ} :
    s ∈ pieces r p ↔ s.1 < s.2 ∧ (s = (r.1, p) ∨ s = (p + 1, r.2)) := by
  simp [pieces, and_comm]

theorem pieces_inner (h0 : r.1 < p) (h1 : p + 1 < r.2) : pieces r p = [(r.1, p), (p + 1, r.2)] := by
  simp [pieces, h0, h1]

theorem pieces_last (h0 : r.1 < p) (h1 : p + 1 = r.2) : pieces r p = [(r.1, p)] := by
  simp [pieces, h0, h1]

theorem pieces_first (h0 : r.1 = p) (h1 : p + 1 < r.2) : pieces r p = [(p + 1, r.2)] := by
  simp [pieces, h0, h1]

theorem pieces_single (h0 : r.1 = p) (h1 : p + 1 = r.2) : pieces r p = [] := by
  simp [pieces, h0, h1]

theorem cover_pieces (hp : r.1 ≤ p ∧ p < r.2) : cover (pieces r p) = Set.Ico r.1 r.2 \ {p} := by
  ext x
  simp only [mem_cover, mem_pieces, mem_sdiff, mem_Ico, mem_singleton_iff]
  constructor
  · rintro ⟨s, ⟨-, rfl | rfl⟩, hx⟩
    · simp only at hx
      omega
    · simp only at hx
      omega
  · intro hx
    rcases lt_or_gt_of_ne hx.2 with hlt | hgt
    · exact ⟨(r.1, p), ⟨by simp only; omega, .inl rfl⟩, by simp only; omega⟩
    · exact ⟨(p + 1, r.2), ⟨by simp only; omega, .inr rfl⟩, by simp only; omega⟩

theorem sep_pieces (r : ℤ × ℤ) (p : ℤ) : Sep (pieces r p) := by
  refine ⟨fun s hs => (mem_pieces.1 hs).1, List.Pairwise.filter _ ?_⟩
  simp

theorem Sep.pieces (h : Sep (A ++ r :: B)) (hp : r.1 ≤ p ∧ p < r.2) :
    Sep (A ++ pieces r p ++ B) := by
  obtain ⟨hA, hB, hAB⟩ := Sep.append_iff.1 h
  have hbounds : ∀ s ∈ Ranges.pieces r p, r.1 ≤ s.1 ∧ s.2 ≤ r.2 := by
    intro s hs
    obtain ⟨-, rfl | rfl⟩ := mem_pieces.1 hs
    · exact ⟨le_rfl, by simp only; omega⟩
    · exact ⟨by simp only; omega, le_rfl⟩
  refine Sep.append_iff.2 ⟨Sep.append_iff.2 ⟨hA, sep_pieces r p, fun a ha s hs => ?_⟩,
    hB.tail, fun a ha b hb => ?_⟩
  · exact (hAB a ha r mem_cons_self).trans_le (hbounds s hs).1
  · rcases mem_append.1 ha with ha | ha
    · exact hAB a ha b (mem_cons_of_mem _ hb)
    · exact (hbounds a ha).2.trans_lt ((Sep.cons_iff.1 hB).2.1 b hb)

theorem Sep.cover_pieces (h : Sep (A ++ r :: B)) (hp : r.1 ≤ p ∧ p < r.2) :
    cover (A ++ Ranges.pieces r p ++ B) = cover (A ++ r :: B) \ {p} := by
  obtain ⟨hA, hB, hAB⟩ := Sep.append_iff.1 h
  have hbelow : p ∉ cover A := by
    rintro ⟨a, ha, -, hlt⟩
    have := hAB a ha r mem_cons_self
    omega
  have habove : p ∉ cover B := by
    intro hmem
    have := hB.lt_of_mem_cover hmem
    omega
  rw [cover_append, cover_append, Ranges.cover_pieces hp, cover_append, cover_cons,
    union_sdiff_distrib, union_sdiff_distrib, sdiff_singleton_eq_self hbelow,
    sdiff_singleton_eq_self habove, union_assoc]

end Ranges
