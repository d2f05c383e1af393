import Hiwis.Lib.RangeUpdate
import Hiwis.Sctp.SCTPGapList

/-!
# The blocks of a gap list as ranges of positions

A simple gap list is the image of a separated list of ranges of positions that lie above the
cumulative acknowledgement and less than half of the number space away from it
(`SCTP.Above`).  Each operation of the code is the operation on ranges.

* `SCTP.Above.check`, `SCTP.Above.tsnInGapList_iff` : what the assertions and the lookup say;
* `SCTP.Above.forwardCumAckTSN`, `SCTP.Above.tryToAdvanceCumAckTSN`,
  `SCTP.Above.removeFromGapList` : the operations that report nothing;
* `SCTP.Above.updateGapList` : reporting a TSN, as long as the search does not pass over a block
  that starts at TSN 0 (`SCTP.skipsBlock`).
-/

namespace Hiwis

open List

namespace SCTP

open Serial (wrap)
open Ranges (Sep cover insertFrom)

/-- The block of a range of positions. -/
def block (r : ℤ × ℤ) : GapBlock := ⟨wrap 32 r.1, wrap 32 (r.2 - 1)⟩

/-- The ranges lie above the position `C`, of which they are separated by a missing position. -/
structure Above (C : ℤ) (L : List (ℤ × ℤ)) : Prop where
  sep : Sep ((C, C + 1) :: L)
  near : ∀ x ∈ cover L, x < C + 2 ^ 31

variable {C p : ℤ} {r : ℤ × ℤ} {L : List (ℤ × ℤ)}

theorem Above.lt (h : Above C L) {x : ℤ} (hx : x ∈ cover L) : C + 1 < x := h.sep.lt_of_mem_cover hx

theorem Above.bounds (h : Above C L) (hr : r ∈ L) : C + 1 < r.1 ∧ r.1 < r.2 ∧ r.2 ≤ C + 2 ^ 31 := by
  have hpos := h.sep.tail.pos hr
  refine ⟨h.lt ⟨r, hr, le_rfl, hpos⟩, hpos, ?_⟩
  have := h.near (r.2 - 1) ⟨r, hr, by omega, by omega⟩
  omega

/-! ### Assertions and lookup -/

theorem checkFrom_map (h : Sep (r :: L)) (hnear : ∀ s ∈ L, s.2 < r.1 + 2 ^ 31 + 1) :
    SCTPSimpleGapList.checkFrom (block r).stop (L.map block) = true := by
  induction L generalizing r with
  | nil => rfl
  | cons s L ih =>
    have hr := h.pos mem_cons_self
    have hs := h.tail.pos mem_cons_self
    have hrs : r.2 < s.1 := (Sep.cons_iff.1 h).2.1 s mem_cons_self
    have hlast := hnear s mem_cons_self
    have hgt : tsnGt (wrap 32 s.1) (wrap 32 (r.2 - 1) + 1) = true := by
      rw [show (1 : TSN) = BitVec.ofNat 32 1 from rfl, Serial.wrap_add_ofNat,
        tsnGt_wrap (by push_cast; omega) (by push_cast; omega)]
      exact decide_eq_true (by push_cast; omega)
    have hle : tsnLe (wrap 32 s.1) (wrap 32 (s.2 - 1)) = true := by
      rw [tsnLe_wrap (by omega) (by omega)]
      exact decide_eq_true (by omega)
    have hrest : SCTPSimpleGapList.checkFrom (block s).stop (L.map block) = true :=
      ih h.tail fun t ht => by
        have := hnear t (mem_cons_of_mem _ ht)
        omega
    change (tsnGt (wrap 32 s.1) (wrap 32 (r.2 - 1) + 1) &&
      tsnLe (wrap 32 s.1) (wrap 32 (s.2 - 1)) &&
      SCTPSimpleGapList.checkFrom (block s).stop (L.map block)) = true
    rw [hgt, hle, hrest]
    rfl

theorem Above.check (h : Above C L) : SCTPSimpleGapList.check (L.map block) (wrap 32 C) = true := by
  have hstop : wrap 32 C = (block (C, C + 1)).stop := by
    change wrap 32 C = wrap 32 (C + 1 - 1)
    rw [add_sub_cancel_right]
  rw [SCTPSimpleGapList.check, hstop]
  refine checkFrom_map h.sep fun s hs => ?_
  have := (h.bounds hs).2.2
  simp only
  omega

/-- A block is found by the positions of its range. -/
theorem Above.tsnBetween_block (h : Above C L) (hr : r ∈ L) (h0 : p - C ≤ 2 ^ 31)
    (h1 : C - p < 2 ^ 31) :
    tsnBetween (block r).start (wrap 32 p) (block r).stop = decide (r.1 ≤ p ∧ p < r.2) := by
  obtain ⟨hC, hpos, hle⟩ := h.bounds hr
  change tsnBetween (wrap 32 r.1) (wrap 32 p) (wrap 32 (r.2 - 1)) = _
  rw [tsnBetween_wrap (by omega) (by omega) (by omega) (by omega), decide_eq_decide]
  omega

theorem Above.tsnInGapList_iff (h : Above C L) (h0 : p - C ≤ 2 ^ 31) (h1 : C - p < 2 ^ 31) :
    SCTPSimpleGapList.tsnInGapList (L.map block) (wrap 32 p) = true ↔ p ∈ cover L := by
  simp only [SCTPSimpleGapList.tsnInGapList, any_map, any_eq_true, Function.comp_apply,
    Ranges.mem_cover]
  refine exists_congr fun r => and_congr_right fun hr => ?_
  rw [h.tsnBetween_block hr h0 h1, decide_eq_true_eq]

/-! ### Advancing and removing -/

theorem Above.forwardCumAckTSN (h : Above C L) (hC : C ≤ p) (hp : p - C < 2 ^ 31)
    (hnext : p + 1 ∉ cover L) :
    ∃ M, SCTPSimpleGapList.forwardCumAckTSN (L.map block) (wrap 32 p) = M.map block ∧
      Above p M ∧ cover M = cover L ∩ Set.Ioi p := by
  refine ⟨L.dropWhile fun r => decide (r.1 < p + 1), ?_, ?_⟩
  · have hbounds : ∀ r ∈ L, C + 1 < r.1 ∧ r.1 < r.2 ∧ r.2 ≤ C + 2 ^ 31 := fun r hr => h.bounds hr
    clear h hnext
    induction L with
    | nil => rfl
    | cons r L ih =>
      have hr := hbounds r mem_cons_self
      have hge : tsnGe (wrap 32 p) (wrap 32 r.1) = decide (r.1 < p + 1) := by
        rw [tsnGe_wrap (by omega) (by omega), decide_eq_decide, Int.lt_add_one_iff]
      rw [map_cons, SCTPSimpleGapList.forwardCumAckTSN, dropWhile_cons, dropWhile_cons]
      change (if tsnGe (wrap 32 p) (wrap 32 r.1) = true then _ else _) = _
      rw [hge]
      split_ifs
      · exact ih fun s hs => hbounds s (mem_cons_of_mem _ hs)
      · rfl
  · have hcover : cover (L.dropWhile fun r => decide (r.1 < p + 1)) = cover L ∩ Set.Ioi p := by
      rw [h.sep.tail.cover_dropWhile hnext]
      rfl
    refine ⟨⟨Ranges.Sep.cons_of_cover (by simp) h.sep.tail.dropWhile fun x hx => ?_,
      fun x hx => ?_⟩, hcover⟩
    · rw [hcover] at hx
      have hne : x ≠ p + 1 := fun heq => hnext (heq ▸ hx.1)
      have hlt : p < x := hx.2
      simp only
      omega
    · rw [hcover] at hx
      have := h.near x hx.1
      omega

/-- No block begins right above the cumulative acknowledgement, so there is nothing to advance
over. -/
theorem Above.tryToAdvanceCumAckTSN (h : Above C L) :
    SCTPSimpleGapList.tryToAdvanceCumAckTSN (L.map block) (wrap 32 C) =
      (L.map block, wrap 32 C, false) := by
  have hrounds : ∀ n, SCTPSimpleGapList.advanceRounds n (L.map block) (wrap 32 C) false =
      (L.map block, wrap 32 C, false) := by
    intro n
    induction n with
    | zero => rfl
    | succ n ih =>
      cases L with
      | nil => rfl
      | cons r L =>
        obtain ⟨hC, hpos, hle⟩ := h.bounds mem_cons_self
        have hne : wrap 32 C + 1 ≠ (block r).start := by
          change wrap 32 C + BitVec.ofNat 32 1 ≠ wrap 32 r.1
          rw [Serial.wrap_add_ofNat, Ne, Serial.wrap_inj (by push_cast; omega)
            (by push_cast; omega)]
          push_cast
          omega
        rw [map_cons, SCTPSimpleGapList.advanceRounds, if_neg hne]
        exact ih
  exact hrounds _

/-- What is left of a block are the pieces of its range. -/
theorem withoutTSN_block (hp : r.1 ≤ p ∧ p < r.2) (hr : r.2 - r.1 < 2 ^ 31) :
    SCTPSimpleGapList.withoutTSN (block r) (wrap 32 p) = (Ranges.pieces r p).map block := by
  have hsize : ((block r).stop - (block r).start + 1).toInt = r.2 - r.1 := by
    change (wrap 32 (r.2 - 1) - wrap 32 r.1 + BitVec.ofNat 32 1).toInt = _
    rw [BitVec.sub_add_comm, Serial.wrap_add_ofNat, toInt_wrap_sub (by decide)
      (by push_cast; omega) (by push_cast; omega)]
    push_cast
    omega
  have hstop : (block r).stop = wrap 32 p ↔ r.2 - 1 = p :=
    Serial.wrap_inj (w := 32) (by omega) (by omega)
  have hstart : (block r).start = wrap 32 p ↔ r.1 = p :=
    Serial.wrap_inj (w := 32) (by omega) (by omega)
  have hpred : ∀ q : ℤ, wrap 32 q - 1 = wrap 32 (q - 1) := fun q => Serial.wrap_sub_ofNat q 1
  have hsucc : ∀ q : ℤ, wrap 32 q + 1 = wrap 32 (q + 1) := fun q => Serial.wrap_add_ofNat q 1
  rw [SCTPSimpleGapList.withoutTSN, hsize]
  by_cases hone : 1 < r.2 - r.1
  · rw [if_pos hone]
    by_cases hlast : r.2 - 1 = p
    · rw [if_pos (hstop.2 hlast), Ranges.pieces_last (by omega) (by omega)]
      change [(⟨wrap 32 r.1, wrap 32 (r.2 - 1) - 1⟩ : GapBlock)] = [⟨wrap 32 r.1, wrap 32 (p - 1)⟩]
      rw [hpred, hlast]
    · rw [if_neg fun h => hlast (hstop.1 h)]
      by_cases hfirst : r.1 = p
      · rw [if_pos (hstart.2 hfirst), Ranges.pieces_first hfirst (by omega)]
        change [(⟨wrap 32 r.1 + 1, wrap 32 (r.2 - 1)⟩ : GapBlock)] =
          [⟨wrap 32 (p + 1), wrap 32 (r.2 - 1)⟩]
        rw [hsucc, hfirst]
      · rw [if_neg fun h => hfirst (hstart.1 h), Ranges.pieces_inner (by omega) (by omega), hpred,
          hsucc]
        rfl
  · rw [if_neg hone, Ranges.pieces_single (by omega) (by omega)]
    rfl

/-- The search from the last block on finds the range that covers the position. -/
theorem removeLoop_map (A B : List (ℤ × ℤ)) (h : Above C (A.reverse ++ B)) (h0 : p - C < 2 ^ 31)
    (h1 : C - p < 2 ^ 31) (hB : p ∉ cover B) (hlen : A.length + B.length < maxGapCount) :
    ∃ M, SCTPSimpleGapList.removeLoop (wrap 32 p) (A.map block) (B.map block) = M.map block ∧
      Above C M ∧ cover M = cover (A.reverse ++ B) \ {p} := by
  induction A generalizing B with
  | nil =>
    refine ⟨B, rfl, h, (Set.sdiff_singleton_eq_self hB).symm⟩
  | cons r A ih =>
    rw [reverse_cons, append_assoc, singleton_append] at h ⊢
    have hr : r ∈ A.reverse ++ r :: B := mem_append_right _ mem_cons_self
    rw [map_cons, SCTPSimpleGapList.removeLoop, h.tsnBetween_block hr h0.le h1]
    by_cases hp : r.1 ≤ p ∧ p < r.2
    · obtain ⟨hC, hpos, hle⟩ := h.bounds hr
      have hsep : Sep ((C, C + 1) :: A.reverse ++ Ranges.pieces r p ++ B) :=
        Ranges.Sep.pieces (A := (C, C + 1) :: A.reverse) h.sep hp
      have hcover := h.sep.tail.cover_pieces hp
      rw [if_pos (decide_eq_true hp), withoutTSN_block hp (by omega)]
      refine ⟨A.reverse ++ Ranges.pieces r p ++ B, ?_, ⟨hsep, fun x hx => ?_⟩, hcover⟩
      · have hpieces : (Ranges.pieces r p).length ≤ 2 := length_filter_le _ _
        rw [← map_reverse, ← map_append, ← map_append, take_of_length_le]
        simp only [length_map, length_append, length_reverse] at hlen ⊢
        simp only [length_cons] at hlen
        omega
      · rw [hcover] at hx
        exact h.near x hx.1
    · have hB' : p ∉ cover (r :: B) := by
        rw [Ranges.cover_cons]
        exact fun hmem => hmem.elim hp hB
      rw [if_neg (by simpa using hp)]
      exact ih (r :: B) h hB' (by simp only [length_cons] at hlen ⊢; omega)

theorem Above.removeFromGapList (h : Above C L) (h0 : p - C < 2 ^ 31) (h1 : C - p < 2 ^ 31)
    (hlen : L.length < maxGapCount) :
    ∃ M, SCTPSimpleGapList.removeFromGapList (L.map block) (wrap 32 p) = M.map block ∧
      Above C M ∧ cover M = cover L \ {p} := by
  obtain ⟨M, hM, hAbove, hcover⟩ := removeLoop_map L.reverse [] (by simpa using h) h0 h1
    (by simp) (by simpa using hlen)
  refine ⟨M, ?_, hAbove, by simpa using hcover⟩
  rw [SCTPSimpleGapList.removeFromGapList, ← map_reverse]
  exact hM

/-! ### Reporting a TSN -/

/-- The search of `updateGapList` passes over a block that starts at TSN 0. -/
def skipsBlock (receivedTSN lo : TSN) : List GapBlock → Bool
  | [] => false
  | b :: after =>
    if 0 < b.start.toNat then
      if tsnBetween lo receivedTSN (b.start - 1) then false
      else skipsBlock receivedTSN (b.stop + 1) after
    else true

theorem skipsBlock_cons {receivedTSN lo : TSN} {b : GapBlock} {after : List GapBlock}
    (h : skipsBlock receivedTSN lo (b :: after) = false) :
    0 < b.start.toNat ∧ (tsnBetween lo receivedTSN (b.start - 1) = false →
      skipsBlock receivedTSN (b.stop + 1) after = false) := by
  rw [skipsBlock] at h
  by_cases hpos : 0 < b.start.toNat
  · rw [if_pos hpos] at h
    refine ⟨hpos, fun hbetween => ?_⟩
    rwa [hbetween] at h
  · rw [if_neg hpos] at h
    cases h

/-- The blocks and the cumulative acknowledgement that a list of ranges stands for, whose first
range ends with the acknowledged position. -/
def encode : List (ℤ × ℤ) → SCTPSimpleGapList × TSN
  | [] => ([], 0)
  | s :: M => (M.map block, wrap 32 (s.2 - 1))

section Update

variable {A P : List (ℤ × ℤ)} (flag : Bool)

/-- The ranges that the search has passed, with the acknowledged position in front. -/
theorem zipper_append (hzip : A ++ [r] = (C, C + 1) :: P) (M : List (ℤ × ℤ)) :
    A ++ r :: M = (C, C + 1) :: (P ++ M) := by
  rw [← singleton_append, ← append_assoc, hzip]
  rfl

theorem encode_zipper (hzip : A ++ [r] = (C, C + 1) :: P) (M : List (ℤ × ℤ)) :
    encode (A ++ r :: M) = (P.map block ++ M.map block, wrap 32 C) := by
  rw [zipper_append hzip, encode, map_append]
  simp only [add_sub_cancel_right]

/-- The range at which the search stands is the acknowledged position or the last one passed. -/
theorem zipper_cases (hzip : A ++ [r] = (C, C + 1) :: P) :
    (A = [] ∧ P = [] ∧ r = (C, C + 1)) ∨ ∃ A', A = (C, C + 1) :: A' ∧ P = A' ++ [r] := by
  cases A with
  | nil =>
    obtain ⟨hr, hP⟩ := List.cons.inj hzip
    exact .inl ⟨rfl, hP.symm, hr⟩
  | cons a A' =>
    obtain ⟨ha, hP⟩ := List.cons.inj hzip
    exact .inr ⟨A', by rw [ha], hP.symm⟩

theorem setLastStop_map (A' : List (ℤ × ℤ)) (f : TSN → TSN) :
    SCTPSimpleGapList.setLastStop ((A' ++ [r]).map block) f =
      A'.map block ++ [{ block r with stop := f (block r).stop }] := by
  rw [SCTPSimpleGapList.setLastStop, map_append, map_singleton, dropLast_concat, getLast?_concat]
  rfl

/-- The next position to look at follows the acknowledged one only at the beginning. -/
theorem Above.eq_acked_iff (h : Above C (P ++ L)) (hzip : A ++ [r] = (C, C + 1) :: P) :
    r.2 = C + 1 ↔ A = [] := by
  rcases zipper_cases hzip with ⟨hA, -, rfl⟩ | ⟨A', rfl, rfl⟩
  · exact ⟨fun _ => hA, fun _ => rfl⟩
  · have hr := h.bounds (r := r) (by simp)
    refine ⟨fun heq => ?_, fun hnil => by cases hnil⟩
    omega

variable {s : ℤ × ℤ}

theorem Above.lt_next (h : Above C (P ++ s :: L)) (hzip : A ++ [r] = (C, C + 1) :: P) :
    r.2 < s.1 ∧ C < r.2 := by
  have hsep : Sep (A ++ r :: s :: L) := zipper_append hzip (s :: L) ▸ h.sep
  refine ⟨(Sep.cons_iff.1 (Ranges.Sep.append_iff.1 hsep).2.1).2.1 s mem_cons_self, ?_⟩
  rcases zipper_cases hzip with ⟨-, -, rfl⟩ | ⟨A', -, rfl⟩
  · exact Int.lt_add_one_of_le le_rfl
  · have := h.bounds (r := r) (by simp)
    omega

/-- The gap before the next block, seen by the code. -/
theorem Above.gap (h : Above C (P ++ r :: L)) {lo : ℤ} (hlo : lo < r.1) (hC : C < lo)
    (h0 : C < p) (h1 : p < C + 2 ^ 31) :
    tsnBetween (wrap 32 lo) (wrap 32 p) ((block r).start - 1) = decide (lo ≤ p ∧ p < r.1) := by
  obtain ⟨-, hpos, hle⟩ := h.bounds (r := r) (by simp)
  change tsnBetween _ _ (wrap 32 r.1 - BitVec.ofNat 32 1) = _
  rw [Serial.wrap_sub_ofNat, tsnBetween_wrap (by push_cast; omega) (by push_cast; omega)
    (by omega) (by push_cast; omega), decide_eq_decide]
  push_cast
  omega

/-- The search goes on when the TSN does not lie in the gap. -/
theorem updateLoop_next (h : Above C (P ++ r :: L)) {lo : ℤ} (hlo : lo < r.1) (hC : C < lo)
    (h0 : C < p) (h1 : p < C + 2 ^ 31) (hpos : 0 < (block r).start.toNat)
    (hgap : ¬(lo ≤ p ∧ p < r.1)) :
    tsnBetween (wrap 32 lo) (wrap 32 p) ((block r).start - 1) = false ∧
      (block r).stop + 1 = wrap 32 r.2 ∧
      SCTPSimpleGapList.updateLoop (wrap 32 p) (wrap 32 C) flag (P.map block) (wrap 32 lo)
        ((r :: L).map block) =
      SCTPSimpleGapList.updateLoop (wrap 32 p) (wrap 32 C) flag ((P ++ [r]).map block)
        (wrap 32 r.2) (L.map block) := by
  have hbetween : tsnBetween (wrap 32 lo) (wrap 32 p) ((block r).start - 1) = false := by
    rw [h.gap hlo hC h0 h1]
    exact decide_eq_false hgap
  have hstop : (block r).stop + 1 = wrap 32 r.2 := by
    change wrap 32 (r.2 - 1) + BitVec.ofNat 32 1 = _
    rw [Serial.wrap_add_ofNat]
    push_cast
    rw [sub_add_cancel]
  refine ⟨hbetween, hstop, ?_⟩
  rw [map_cons, SCTPSimpleGapList.updateLoop, if_pos hpos, map_append, map_singleton]
  simp only [hbetween, Bool.false_eq_true, ↓reduceIte, hstop]

section

variable (hzip : A ++ [r] = (C, C + 1) :: P)
include hzip

/-- A TSN that is covered already changes nothing. -/
theorem updateLoop_of_lt (h : Above C (P ++ L)) (h0 : C < p) (h1 : p < C + 2 ^ 31) (hlt : p < r.2)
    (hskip : skipsBlock (wrap 32 p) (wrap 32 r.2) (L.map block) = false) :
    SCTPSimpleGapList.updateLoop (wrap 32 p) (wrap 32 C) flag (P.map block) (wrap 32 r.2)
      (L.map block) = (P.map block ++ L.map block, wrap 32 C, flag) := by
  induction L generalizing A r P with
  | nil =>
    rcases zipper_cases hzip with ⟨-, -, rfl⟩ | ⟨A', -, rfl⟩
    · simp only at hlt
      omega
    · obtain ⟨-, hpos, hle⟩ := h.bounds (r := r) (by simp)
      have hne : wrap 32 p ≠ wrap 32 r.2 := by
        rw [Ne, Serial.wrap_inj (by omega) (by omega)]
        omega
      have hgt : tsnGt (wrap 32 p) ((block r).stop + 1) = false := by
        change tsnGt _ (wrap 32 (r.2 - 1) + BitVec.ofNat 32 1) = _
        rw [Serial.wrap_add_ofNat, tsnGt_wrap (by push_cast; omega) (by push_cast; omega)]
        exact decide_eq_false (by push_cast; omega)
      rw [map_nil, SCTPSimpleGapList.updateLoop, SCTPSimpleGapList.updateEnd, if_neg hne,
        map_append, map_singleton, getLast?_concat, Option.all_some, hgt,
        append_nil]
      rfl
  | cons s L ih =>
    obtain ⟨hpos, hnext⟩ := skipsBlock_cons hskip
    obtain ⟨hrs, hlo⟩ := h.lt_next hzip
    have hs := h.bounds (r := s) (by simp)
    obtain ⟨hbetween, hstop, hloop⟩ := updateLoop_next flag h hrs hlo h0 h1 hpos (by omega)
    have hzip' : (A ++ [r]) ++ [s] = (C, C + 1) :: (P ++ [s]) := by rw [hzip]; rfl
    rw [hloop, ih hzip' (by simpa using h) (by omega) (hstop ▸ hnext hbetween)]
    simp

/-- The TSN of a gap becomes part of a block next to it or a block of its own. -/
theorem updateLoop_gap (h : Above C (P ++ s :: L)) (hrs : r.2 < s.1) (h0 : C < p)
    (h1 : p < C + 2 ^ 31) (hgap : r.2 ≤ p ∧ p < s.1) (hr : C < r.2)
    (hpos : 0 < (block s).start.toNat) (hlen : P.length + (s :: L).length < maxGapCount) :
    SCTPSimpleGapList.updateLoop (wrap 32 p) (wrap 32 C) flag (P.map block) (wrap 32 r.2)
        ((s :: L).map block) =
      ((encode (A ++ insertFrom p r (s :: L))).1, (encode (A ++ insertFrom p r (s :: L))).2,
        true) := by
  have hs := h.bounds (r := s) (by simp)
  have hhi : (block s).start - 1 = wrap 32 (s.1 - 1) := Serial.wrap_sub_ofNat s.1 1
  have hbetween : tsnBetween (wrap 32 r.2) (wrap 32 p) (wrap 32 (s.1 - 1)) = true := by
    rw [← hhi, h.gap hrs hr h0 h1]
    exact decide_eq_true hgap
  have hone : ∀ q : ℤ, wrap 32 q + 1 = wrap 32 (q + 1) := fun q => Serial.wrap_add_ofNat q 1
  have hsize : (wrap 32 (s.1 - 1) - wrap 32 r.2 + 1).toNat = (s.1 - r.2).toNat := by
    rw [BitVec.sub_add_comm, hone, sub_add_cancel, Serial.dist_wrap (by omega) (by omega)]
  have hphi : wrap 32 p = wrap 32 (s.1 - 1) ↔ p + 1 = s.1 := by
    rw [Serial.wrap_inj (by omega) (by omega), eq_sub_iff_add_eq]
  have hplo : wrap 32 p = wrap 32 r.2 ↔ r.2 = p := by
    rw [Serial.wrap_inj (by omega) (by omega), eq_comm]
  have hpc : wrap 32 p = wrap 32 C + 1 ↔ p = C + 1 := by
    rw [hone, Serial.wrap_inj (by omega) (by omega)]
  have hloc : wrap 32 r.2 = wrap 32 C + 1 ↔ r.2 = C + 1 := by
    rw [hone, Serial.wrap_inj (by omega) (by omega)]
  rw [map_cons, SCTPSimpleGapList.updateLoop, if_pos hpos, insertFrom, if_pos hgap]
  simp only [hhi, hbetween, ↓reduceIte, hsize]
  by_cases hmany : 1 < (s.1 - r.2).toNat
  · rw [if_pos hmany]
    by_cases hbegin : p + 1 = s.1
    · -- the block after the gap grows at its begin
      rw [if_pos (hphi.2 hbegin), if_neg (by omega), if_pos hbegin, encode_zipper hzip]
      rfl
    · rw [if_neg fun heq => hbegin (hphi.1 heq)]
      by_cases hend : r.2 = p
      · rw [if_pos (hplo.2 hend), if_pos hend, if_neg hbegin]
        rcases zipper_cases hzip with ⟨rfl, rfl, rfl⟩ | ⟨A', rfl, rfl⟩
        · -- the acknowledgement advances by one
          rw [if_pos (hpc.2 hend.symm), hone]
          simp [encode, ← hend]
        · -- the block before the gap grows at its end
          have hne : r.2 ≠ C + 1 := fun heq => cons_ne_nil _ _ ((h.eq_acked_iff hzip).1 heq)
          rw [if_neg fun heq => hne (hend.trans (hpc.1 heq)), setLastStop_map]
          simp [encode, block]
      · -- a new block within the gap
        rw [if_neg fun heq => hend (hplo.1 heq), if_neg hend, if_neg hbegin, encode_zipper hzip,
          take_of_length_le]
        · simp [block]
        · simp only [length_append, length_map, length_cons] at hlen ⊢
          omega
  · have hend : r.2 = p := by omega
    have hbegin : p + 1 = s.1 := by omega
    rw [if_neg hmany, if_pos hend, if_pos hbegin]
    rcases zipper_cases hzip with ⟨rfl, rfl, rfl⟩ | ⟨A', rfl, rfl⟩
    · -- the acknowledgement advances over the block after the gap
      rw [if_pos (hloc.2 rfl)]
      simp [encode, block]
    · -- the two blocks are joined
      have hne : r.2 ≠ C + 1 := fun heq => cons_ne_nil _ _ ((h.eq_acked_iff hzip).1 heq)
      rw [if_neg fun heq => hne (hloc.1 heq), setLastStop_map]
      simp [encode, block]

/-- The end of the search. -/
theorem updateEnd_map (h : Above C P) (h0 : C < p) (h1 : p < C + 2 ^ 31) (hle : r.2 ≤ p)
    (hlen : P.length < maxGapCount) :
    SCTPSimpleGapList.updateEnd (wrap 32 p) (wrap 32 C) flag (P.map block) (wrap 32 r.2) =
      ((encode (A ++ insertFrom p r [])).1, (encode (A ++ insertFrom p r [])).2, true) := by
  have hone : ∀ q : ℤ, wrap 32 q + 1 = wrap 32 (q + 1) := fun q => Serial.wrap_add_ofNat q 1
  have hr : C < r.2 := by
    rcases zipper_cases hzip with ⟨-, -, rfl⟩ | ⟨A', -, rfl⟩
    · exact Int.lt_add_one_of_le le_rfl
    · have := h.bounds (r := r) (by simp)
      omega
  have hplo : wrap 32 p = wrap 32 r.2 ↔ r.2 = p := by
    rw [Serial.wrap_inj (by omega) (by omega), eq_comm]
  have hpc : wrap 32 p = wrap 32 C + 1 ↔ p = C + 1 := by
    rw [hone, Serial.wrap_inj (by omega) (by omega)]
  rw [SCTPSimpleGapList.updateEnd, insertFrom]
  by_cases hend : r.2 = p
  · rw [if_pos (hplo.2 hend), if_pos hend]
    have hacked : r.2 = C + 1 → A = [] :=
      (Above.eq_acked_iff (P := P) ((append_nil P).symm ▸ h) hzip).1
    rcases zipper_cases hzip with ⟨rfl, rfl, rfl⟩ | ⟨A', rfl, rfl⟩
    · rw [if_pos (hpc.2 hend.symm)]
      simp [encode]
    · have hne : r.2 ≠ C + 1 := fun heq => cons_ne_nil _ _ (hacked heq)
      have hstop : (block r).stop + 1 = wrap 32 r.2 := by
        change wrap 32 (r.2 - 1) + 1 = _
        rw [hone, sub_add_cancel]
      rw [if_neg fun heq => hne (hend.trans (hpc.1 heq)), setLastStop_map, ← hend, hstop]
      simp [encode, block]
  · have hall : (P.map block).getLast?.all (fun b => tsnGt (wrap 32 p) (b.stop + 1)) = true := by
      rcases zipper_cases hzip with ⟨-, rfl, -⟩ | ⟨A', -, rfl⟩
      · rfl
      · rw [map_append, map_singleton, getLast?_concat, Option.all_some]
        change tsnGt _ (wrap 32 (r.2 - 1) + 1) = true
        rw [hone, sub_add_cancel, tsnGt_wrap (by omega) (by omega)]
        exact decide_eq_true (by omega)
    rw [if_neg fun heq => hend (hplo.1 heq), if_pos hall, if_pos (by simpa using hlen),
      if_neg hend, if_pos (by omega), encode_zipper hzip]
    simp [block]

/-- The search stores the TSN unless it is covered already. -/
theorem updateLoop_map (h : Above C (P ++ L)) (h0 : C < p) (h1 : p < C + 2 ^ 31) (hle : r.2 ≤ p)
    (hskip : skipsBlock (wrap 32 p) (wrap 32 r.2) (L.map block) = false)
    (hlen : P.length + L.length < maxGapCount) :
    ∃ f, SCTPSimpleGapList.updateLoop (wrap 32 p) (wrap 32 C) flag (P.map block) (wrap 32 r.2)
        (L.map block) =
      ((encode (A ++ insertFrom p r L)).1, (encode (A ++ insertFrom p r L)).2, f) ∧
      (f = true ↔ flag = true ∨ p ∉ cover L) := by
  induction L generalizing A r P with
  | nil =>
    refine ⟨true, updateEnd_map flag hzip (by simpa using h) h0 h1 hle (by simpa using hlen),
      iff_of_true rfl (.inr ?_)⟩
    rw [Ranges.cover_nil]
    exact fun hmem => hmem
  | cons s L ih =>
    obtain ⟨hpos, hnext⟩ := skipsBlock_cons hskip
    obtain ⟨hrs, hlo⟩ := h.lt_next hzip
    have hsep : Sep (s :: L) :=
      (Ranges.Sep.append_iff.1 (zipper_append hzip (s :: L) ▸ h.sep)).2.1.tail
    by_cases hgap : p < s.1
    · refine ⟨true, updateLoop_gap flag hzip h hrs h0 h1 ⟨hle, hgap⟩ hlo hpos hlen,
        iff_of_true rfl (.inr ?_)⟩
      exact fun hmem => absurd (hsep.head_le hmem) (not_le.2 hgap)
    have hnot : ¬(r.2 ≤ p ∧ p < s.1) := fun hboth => hgap hboth.2
    obtain ⟨hbetween, hstop, hloop⟩ := updateLoop_next flag h hrs hlo h0 h1 hpos hnot
    have hzip' : (A ++ [r]) ++ [s] = (C, C + 1) :: (P ++ [s]) := by rw [hzip]; rfl
    have h' : Above C (P ++ [s] ++ L) := by simpa using h
    have hskip' := hstop ▸ hnext hbetween
    rw [hloop, insertFrom, if_neg hnot]
    by_cases hlt : p < s.2
    · -- the TSN lies within the next block
      have hmem : p ∈ cover (s :: L) := ⟨s, mem_cons_self, not_lt.1 hgap, hlt⟩
      refine ⟨flag, ?_, ⟨.inl, fun hor => hor.resolve_right fun hnot => hnot hmem⟩⟩
      rw [updateLoop_of_lt flag hzip' h' h0 h1 hlt hskip', Ranges.insertFrom_of_lt hsep hlt,
        encode_zipper hzip]
      simp
    · have hlen' : (P ++ [s]).length + L.length < maxGapCount := by
        simp only [length_append, length_cons, length_nil] at hlen ⊢
        omega
      obtain ⟨f, hrest, hf⟩ := ih hzip' h' (not_lt.1 hlt) hskip' hlen'
      have hmem : p ∈ cover (s :: L) ↔ p ∈ cover L := by
        rw [Ranges.cover_cons]
        exact ⟨fun hor => hor.resolve_left fun hmem => hlt hmem.2, .inr⟩
      refine ⟨f, ?_, by rw [hmem]; exact hf⟩
      rw [hrest, append_assoc, singleton_append]

end

/-- **Reporting a TSN** above the cumulative acknowledgement adds it to the positions that the
list and the acknowledgement stand for. -/
theorem Above.updateGapList (h : Above C L) (h0 : C < p) (h1 : p < C + 2 ^ 31)
    (hskip : skipsBlock (wrap 32 p) (wrap 32 C + 1) (L.map block) = false)
    (hlen : L.length < maxGapCount) (flag : Bool) :
    ∃ M C' f, SCTPSimpleGapList.updateGapList (L.map block) (wrap 32 p) (wrap 32 C) flag =
        ((M.map block, wrap 32 C', f), true) ∧
      Above C' M ∧ C ≤ C' ∧ Set.Iic C' ∪ cover M = Set.Iic C ∪ insert p (cover L) ∧
      (f = true ↔ flag = true ∨ p ∉ cover L) := by
  have hone : wrap 32 C + 1 = wrap 32 (C + 1) := Serial.wrap_add_ofNat C 1
  have hle : tsnLe (wrap 32 p) (wrap 32 C) = false := by
    rw [tsnLe_wrap (by omega) (by omega)]
    exact decide_eq_false (by omega)
  obtain ⟨f, hloop, hf⟩ := updateLoop_map (A := []) (P := []) (r := (C, C + 1)) flag rfl
    (by simpa using h) h0 h1 h0 (hone ▸ hskip) (by simpa using hlen)
  obtain ⟨e, M, hM⟩ := Ranges.exists_insertFrom p (C, C + 1) L
  obtain ⟨hsep, hcover⟩ := Ranges.insertFrom_spec h.sep h0.le
  rw [hM] at hsep hcover
  rw [nil_append, hM, encode] at hloop
  have he : C < e := hsep.pos mem_cons_self
  have hmem : ∀ x, C ≤ x ∧ x < e ∨ x ∈ cover M ↔ x = p ∨ (C ≤ x ∧ x < C + 1) ∨ x ∈ cover L := by
    intro x
    have := Set.ext_iff.1 hcover x
    simpa [Ranges.cover_cons] using this
  refine ⟨M, e - 1, f, ?_, ⟨Ranges.Sep.cons_of_cover (by simp) hsep.tail fun x hx => ?_,
    fun x hx => ?_⟩, by omega, Set.ext fun x => ?_, hf⟩
  · rw [SCTPSimpleGapList.updateGapList, hle, if_neg Bool.false_ne_true, hone]
    exact congrArg (fun res => (res, true)) hloop
  · have hlt : e < x := hsep.lt_of_mem_cover hx
    simp only
    omega
  · rcases (hmem x).1 (.inr hx) with rfl | hC | hL
    · omega
    · omega
    · have := h.near x hL
      omega
  · have hx := hmem x
    simp only [Set.mem_union, Set.mem_Iic, Set.mem_insert_iff]
    by_cases hxC : C ≤ x
    · constructor
      · rintro (hxe | hxM)
        · rcases hx.1 (.inl ⟨hxC, by omega⟩) with rfl | hxr | hxL
          · exact .inr (.inl rfl)
          · exact .inl (by omega)
          · exact .inr (.inr hxL)
        · rcases hx.1 (.inr hxM) with rfl | hxr | hxL
          · exact .inr (.inl rfl)
          · exact .inl (by omega)
          · exact .inr (.inr hxL)
      · intro hor
        have hor' : x = p ∨ (C ≤ x ∧ x < C + 1) ∨ x ∈ cover L := by
          rcases hor with hle | hp | hL
          · exact .inr (.inl ⟨hxC, by omega⟩)
          · exact .inl hp
          · exact .inr (.inr hL)
        rcases hx.2 hor' with hxe | hxM
        · exact .inl (by omega)
        · exact .inr hxM
    · exact ⟨fun _ => .inl (by omega), fun _ => .inl (by omega)⟩

/-- A TSN that is covered by the cumulative acknowledgement is not looked for. -/
theorem updateGapList_of_le (l : SCTPSimpleGapList) (h0 : p ≤ C) (h1 : C - p < 2 ^ 31)
    (flag : Bool) :
    l.updateGapList (wrap 32 p) (wrap 32 C) flag = ((l, wrap 32 C, flag), false) := by
  have hle : tsnLe (wrap 32 p) (wrap 32 C) = true := by
    rw [tsnLe_wrap (by omega) h1]
    exact decide_eq_true h0
  rw [SCTPSimpleGapList.updateGapList, hle, if_pos rfl]

end Update

end SCTP

end Hiwis
