import Hiwis.Lib.Trace
import Hiwis.Sctp.GapBlocks

/-!
# Runs of the gap list

The gap list of an association, followed over any sequence of its calls together with the set of
positions that were reported and not removed.

* `SCTP.GapListRun.run_exact` : the list represents that set exactly, in every run whose calls
  meet the condition `SCTP.GapListRun.Meets`;
* `SCTP.GapListRun.not_exact` : a chunk whose TSN is 0 is enough to break this.
-/

namespace Hiwis

open List Set

namespace SCTP

open Serial (wrap)
open Ranges (Sep cover)

/-- A call on the gap list; the TSN is given by its position. -/
inductive GapListCall
  | updateGapList (receivedTSN : ℤ) (tsnIsRevokable : Bool)
  | removeFromGapList (removedTSN : ℤ)
  | forwardCumAckTSN (cumAckTSN : ℤ)
  | tryToAdvanceCumAckTSN
deriving DecidableEq

/-- The TSN of the call is less than half of the number space away from the position `C`. -/
def GapListCall.Within (C : ℤ) : GapListCall → Prop
  | .updateGapList p _ => p - C < 2 ^ 31 ∧ C - p < 2 ^ 31
  | .removeFromGapList p => p - C < 2 ^ 31 ∧ C - p < 2 ^ 31
  | .forwardCumAckTSN p => p - C < 2 ^ 31 ∧ C - p < 2 ^ 31
  | .tryToAdvanceCumAckTSN => True

namespace SCTPGapList

def call (g : SCTPGapList) : GapListCall → SCTPGapList
  | .updateGapList p tsnIsRevokable => (g.updateGapList (wrap 32 p) false tsnIsRevokable).1.1
  | .removeFromGapList p => g.removeFromGapList (wrap 32 p)
  | .forwardCumAckTSN p => g.forwardCumAckTSN (wrap 32 p)
  | .tryToAdvanceCumAckTSN => g.tryToAdvanceCumAckTSN.1

/-- One of the two searches of `updateGapList` passes over a block that starts at TSN 0. -/
def skipsBlock (g : SCTPGapList) (receivedTSN : TSN) (tsnIsRevokable : Bool) : Bool :=
  !tsnLe receivedTSN g.cumAckTSN &&
    (SCTP.skipsBlock receivedTSN (g.cumAckTSN + 1) g.combinedGapList ||
      SCTP.skipsBlock receivedTSN (g.cumAckTSN + 1)
        (if tsnIsRevokable then g.revokableGapList else g.nonRevokableGapList))

/-- The lists are the blocks of ranges above the acknowledged position `C`, and together with it
they stand for the set `S`. -/
structure Blocks (g : SCTPGapList) (S : Set ℤ) (C : ℤ)
    (combined revokable nonRevokable : List (ℤ × ℤ)) : Prop where
  cumAckTSN : g.cumAckTSN = wrap 32 C
  combinedGapList : g.combinedGapList = combined.map block
  revokableGapList : g.revokableGapList = revokable.map block
  nonRevokableGapList : g.nonRevokableGapList = nonRevokable.map block
  aboveCombined : Above C combined
  aboveRevokable : Above C revokable
  aboveNonRevokable : Above C nonRevokable
  received : S = Set.Iic C ∪ cover combined
  union : cover revokable ∪ cover nonRevokable = cover combined
  disjoint : Disjoint (cover revokable) (cover nonRevokable)

/-- **The gap list represents the set exactly**: blocks in order, apart from each other and above
the cumulative acknowledgement, the revokable and non-revokable ones a partition of all. -/
def Represents (g : SCTPGapList) (S : Set ℤ) : Prop :=
  ∃ C combined revokable nonRevokable, g.Blocks S C combined revokable nonRevokable

/-- All three lists have fewer than `maxGapCount` blocks. -/
def FewBlocks (g : SCTPGapList) : Prop :=
  g.combinedGapList.length < maxGapCount ∧ g.revokableGapList.length < maxGapCount ∧
    g.nonRevokableGapList.length < maxGapCount

instance (g : SCTPGapList) : Decidable g.FewBlocks := inferInstanceAs (Decidable (_ ∧ _ ∧ _))

end SCTPGapList

/-- All positions up to `C` were received, and the next one was not. -/
def IsCumAck (S : Set ℤ) (C : ℤ) : Prop := Set.Iic C ⊆ S ∧ C + 1 ∉ S

theorem IsCumAck.unique {S : Set ℤ} {C C' : ℤ} (h : IsCumAck S C) (h' : IsCumAck S C') :
    C = C' := by
  rcases lt_trichotomy C C' with hlt | heq | hgt
  · exact absurd (h'.1 (Int.add_one_le_iff.2 hlt)) h.2
  · exact heq
  · exact absurd (h.1 (Int.add_one_le_iff.2 hgt)) h'.2

/-- The reported positions after a call.  What is acknowledged cannot be removed any more. -/
def reported (S : Set ℤ) : GapListCall → Set ℤ
  | .updateGapList p _ => insert p S
  | .removeFromGapList p => {q | q ∈ S ∧ (q = p → Set.Iic p ⊆ S)}
  | .forwardCumAckTSN p => S ∪ Set.Iic p
  | .tryToAdvanceCumAckTSN => S

/-! ### One call -/

variable {C C' p : ℤ} {L M : List (ℤ × ℤ)} {X Y : Set ℤ}

/-- A list of blocks that has grown to the positions `X` above `C`, some of which the cumulative
acknowledgement `C'` has absorbed. -/
structure Grown (C : ℤ) (X : Set ℤ) (C' : ℤ) (M : List (ℤ × ℤ)) : Prop where
  above : Above C' M
  le : C ≤ C'
  union : Set.Iic C' ∪ cover M = Set.Iic C ∪ X

namespace Grown

theorem next_notMem (h : Grown C X C' M) : C' + 1 ∉ Set.Iic C ∪ X := by
  rw [← h.union]
  rintro (hle | hmem)
  · exact absurd hle (not_le.2 (Int.lt_add_one_of_le le_rfl))
  · exact lt_irrefl _ (h.above.lt hmem)

theorem cover_eq (h : Grown C X C' M) : cover M = X ∩ Set.Ioi C' := by
  ext x
  have hx : x ∈ Set.Iic C' ∪ cover M ↔ x ∈ Set.Iic C ∪ X := by rw [h.union]
  constructor
  · intro hmem
    have hlt : C' < x := (Int.lt_add_one_of_le le_rfl).trans (h.above.lt hmem)
    exact ⟨(hx.1 (.inr hmem)).resolve_left fun hle => absurd (h.le.trans_lt hlt) (not_lt.2 hle),
      hlt⟩
  · rintro ⟨hmem, hlt⟩
    have hlt' : C' < x := hlt
    exact (hx.2 (.inr hmem)).resolve_left fun hle => absurd hlt' (not_lt.2 hle)

theorem near (h : Grown C X C' M) (hX : ∀ x ∈ X, x < C + 2 ^ 31) : C' - C < 2 ^ 31 := by
  rcases (h.union ▸ mem_union_left _ self_mem_Iic : C' ∈ Set.Iic C ∪ X) with hle | hmem
  · have : C' ≤ C := hle
    omega
  · have := hX _ hmem
    omega

/-- A list that holds part of what another one holds follows its acknowledgement. -/
theorem advance {C1 : ℤ} {K : List (ℤ × ℤ)} (h : Grown C X C1 M) (hK : Grown C Y C' K)
    (hXY : X ⊆ Y) (hY : ∀ y ∈ Y, y < C + 2 ^ 31) :
    ∃ N, (if wrap 32 C ≠ wrap 32 C' then
        SCTPSimpleGapList.forwardCumAckTSN (M.map block) (wrap 32 C') else M.map block) =
      N.map block ∧ Above C' N ∧ cover N = X ∩ Set.Ioi C' := by
  have hnear := hK.near hY
  have hsub : Set.Iic C1 ∪ cover M ⊆ Set.Iic C ∪ Y := by
    rw [h.union]
    exact union_subset_union_right _ hXY
  have hnext : C' + 1 ∉ Set.Iic C1 ∪ cover M := fun hmem => hK.next_notMem (hsub hmem)
  have hle : C1 ≤ C' := by
    by_contra hgt
    exact hnext (.inl (Int.add_one_le_iff.2 (not_le.1 hgt)))
  have hCle := h.le
  by_cases heq : C = C'
  · obtain rfl : C' = C1 := le_antisymm (heq ▸ hCle) hle
    rw [if_neg fun hne => hne (by rw [heq])]
    exact ⟨M, rfl, h.above, h.cover_eq⟩
  · have hne : wrap 32 C ≠ wrap 32 C' := by
      rw [Ne, Serial.wrap_inj (by omega) (by omega)]
      exact heq
    obtain ⟨N, hN, hAbove, hcover⟩ :=
      h.above.forwardCumAckTSN hle (by omega) fun hmem => hnext (.inr hmem)
    refine ⟨N, by rw [if_pos hne]; exact hN, hAbove, ?_⟩
    rw [hcover, h.cover_eq, inter_assoc, Set.Ioi_inter_Ioi, max_eq_right hle]

end Grown

namespace SCTPGapList.Blocks

variable {g : SCTPGapList} {S : Set ℤ} {K R N : List (ℤ × ℤ)} {tsnIsRevokable : Bool}

section

variable (h : g.Blocks S C K R N)
include h

theorem isCumAck : IsCumAck S C := by
  rw [IsCumAck, h.received]
  refine ⟨subset_union_left, ?_⟩
  rintro (hle | hmem)
  · exact absurd hle (not_le.2 (Int.lt_add_one_of_le le_rfl))
  · exact lt_irrefl _ (h.aboveCombined.lt hmem)

theorem mem_iff : p ∈ cover K ↔ p ∈ cover R ∨ p ∈ cover N := by
  rw [← h.union]
  rfl

theorem check : g.check = true := by
  rw [SCTPGapList.check, h.combinedGapList, h.revokableGapList, h.nonRevokableGapList, h.cumAckTSN,
    h.aboveCombined.check, h.aboveRevokable.check, h.aboveNonRevokable.check]
  rfl

theorem tsnIsRevokable_iff (h₀ : p - C < 2 ^ 31) (h₁ : C - p < 2 ^ 31) :
    g.tsnIsRevokable (wrap 32 p) = true ↔ p ∈ cover R := by
  rw [SCTPGapList.tsnIsRevokable, h.revokableGapList]
  exact h.aboveRevokable.tsnInGapList_iff h₀.le h₁

theorem tsnIsNonRevokable_iff (h₀ : p - C < 2 ^ 31) (h₁ : C - p < 2 ^ 31) :
    g.tsnIsNonRevokable (wrap 32 p) = true ↔ p ∈ cover N := by
  rw [SCTPGapList.tsnIsNonRevokable, h.nonRevokableGapList]
  exact h.aboveNonRevokable.tsnInGapList_iff h₀.le h₁

end

/-- The calls that add nothing leave three lists with the parts of a set above `C'`. -/
theorem of_parts {g' : SCTPGapList} {S' : Set ℤ} {K' R' N' : List (ℤ × ℤ)} {XR XN : Set ℤ}
    (hcum : g'.cumAckTSN = wrap 32 C') (hK : g'.combinedGapList = K'.map block)
    (hR : g'.revokableGapList = R'.map block) (hN : g'.nonRevokableGapList = N'.map block)
    (aK : Above C' K') (aR : Above C' R') (aN : Above C' N') (cK : cover K' = Y ∩ Set.Ioi C')
    (cR : cover R' = XR ∩ Set.Ioi C') (cN : cover N' = XN ∩ Set.Ioi C') (hunion : XR ∪ XN = Y)
    (hdisjoint : Disjoint XR XN) (hS : S' = Set.Iic C' ∪ cover K') :
    g'.Blocks S' C' K' R' N' where
  cumAckTSN := hcum
  combinedGapList := hK
  revokableGapList := hR
  nonRevokableGapList := hN
  aboveCombined := aK
  aboveRevokable := aR
  aboveNonRevokable := aN
  received := hS
  union := by rw [cR, cN, cK, ← union_inter_distrib_right, hunion]
  disjoint := by
    rw [cR, cN]
    exact hdisjoint.mono inter_subset_left inter_subset_left

/-- What the update of one of the two partial lists leaves. -/
theorem updateSublist (h : g.Blocks S C K R N) (hfew : g.FewBlocks) (h₀ : C < p)
    (h₁ : p < C + 2 ^ 31) (hskip : g.skipsBlock (wrap 32 p) tsnIsRevokable = false)
    (hmove : tsnIsRevokable = true → p ∉ cover N) (flag : Bool) :
    ∃ CR R' XR CN N' XN f,
      g.updateSublist (wrap 32 p) flag tsnIsRevokable =
        ({ g with revokableGapList := R'.map block, nonRevokableGapList := N'.map block }, f) ∧
      Grown C XR CR R' ∧ Grown C XN CN N' ∧ XR ∪ XN = insert p (cover K) ∧ Disjoint XR XN ∧
      (f = true ↔ flag = true ∨ p ∉ cover K ∨ (tsnIsRevokable = false ∧ p ∈ cover R)) := by
  have hle : tsnLe (wrap 32 p) g.cumAckTSN = false := by
    rw [h.cumAckTSN, tsnLe_wrap (by omega) (by omega)]
    exact decide_eq_false (by omega)
  obtain ⟨-, hskip⟩ : _ ∧ _ := by
    simpa [SCTPGapList.skipsBlock, hle] using hskip
  have hdisj : p ∈ cover R → p ∉ cover N := fun hR hN => disjoint_left.1 h.disjoint hR hN
  have hstay : ∀ {L}, Above C L → Grown C (cover L) C L := fun hL => ⟨hL, le_rfl, rfl⟩
  cases tsnIsRevokable with
  | true =>
    rw [if_pos rfl, h.cumAckTSN, h.revokableGapList] at hskip
    obtain ⟨R', CR, f, hcode, aR, hCR, hunion, hf⟩ :=
      h.aboveRevokable.updateGapList h₀ h₁ hskip
        (by have := hfew.2.1; rwa [h.revokableGapList, length_map] at this) flag
    refine ⟨CR, R', insert p (cover R), C, N, cover N, f, ?_, ⟨aR, hCR, hunion⟩,
      hstay h.aboveNonRevokable, ?_, ?_, ?_⟩
    · rw [SCTPGapList.updateSublist, if_pos rfl, h.revokableGapList, h.cumAckTSN, hcode,
        ← h.nonRevokableGapList]
    · rw [insert_union, h.union]
    · exact disjoint_insert_left.2 ⟨hmove rfl, h.disjoint⟩
    · rw [hf, h.mem_iff]
      have := hmove rfl
      simp [this]
  | false =>
    rw [if_neg Bool.false_ne_true, h.cumAckTSN, h.nonRevokableGapList] at hskip
    obtain ⟨N', CN, f, hcode, aN, hCN, hunion, hf⟩ :=
      h.aboveNonRevokable.updateGapList h₀ h₁ hskip
        (by have := hfew.2.2; rwa [h.nonRevokableGapList, length_map] at this) flag
    obtain ⟨R', hremove, aR, hcover⟩ :=
      h.aboveRevokable.removeFromGapList (p := p) (by omega) (by omega)
        (by have := hfew.2.1; rwa [h.revokableGapList, length_map] at this)
    refine ⟨C, R', cover R \ {p}, CN, N', insert p (cover N), f, ?_, ⟨aR, le_rfl, by rw [hcover]⟩,
      ⟨aN, hCN, hunion⟩, ?_, ?_, ?_⟩
    · rw [SCTPGapList.updateSublist, if_neg Bool.false_ne_true, h.nonRevokableGapList,
        h.cumAckTSN, hcode, h.revokableGapList, ← hremove]
      rfl
    · ext x
      simp only [mem_union, mem_sdiff, mem_singleton_iff, mem_insert_iff, h.mem_iff]
      by_cases hx : x = p
      · simp [hx]
      · simp [hx]
    · refine disjoint_insert_right.2 ⟨fun hmem => hmem.2 rfl, ?_⟩
      exact h.disjoint.mono_left sdiff_subset
    · rw [hf, h.mem_iff]
      by_cases hR : p ∈ cover R
      · simp [hR, hdisj hR]
      · simp [hR]

theorem updateGapList_eq {g1 : SCTPGapList} {tsn cumAckTSN : TSN} {combined : SCTPSimpleGapList}
    {flag f f' result : Bool} (hsub : g.updateSublist tsn flag tsnIsRevokable = (g1, f))
    (hcombined : g1.combinedGapList.updateGapList tsn g1.cumAckTSN f =
      ((combined, cumAckTSN, f'), result)) :
    g.updateGapList tsn flag tsnIsRevokable =
      (({ cumAckTSN := cumAckTSN
          combinedGapList := combined
          revokableGapList :=
            if g1.cumAckTSN ≠ cumAckTSN then g1.revokableGapList.forwardCumAckTSN cumAckTSN
            else g1.revokableGapList
          nonRevokableGapList :=
            if g1.cumAckTSN ≠ cumAckTSN then g1.nonRevokableGapList.forwardCumAckTSN cumAckTSN
            else g1.nonRevokableGapList }, f'), result) := by
  rw [SCTPGapList.updateGapList, hsub]
  simp only [hcombined]
  by_cases hne : g1.cumAckTSN ≠ cumAckTSN
  · rw [if_pos hne, if_pos hne, if_pos hne]
  · rw [if_neg hne, if_neg hne, if_neg hne]

section

variable (h : g.Blocks S C K R N) (hfew : g.FewBlocks) (h₀ : p - C < 2 ^ 31) (h₁ : C - p < 2 ^ 31)
include h hfew h₀ h₁

/-- **Reporting a TSN**. -/
theorem updateGapList (hskip : g.skipsBlock (wrap 32 p) tsnIsRevokable = false)
    (hmove : tsnIsRevokable = true → g.tsnIsNonRevokable (wrap 32 p) = false) (flag : Bool) :
    (g.updateGapList (wrap 32 p) flag tsnIsRevokable).1.1.Represents (insert p S) ∧
      ((g.updateGapList (wrap 32 p) flag tsnIsRevokable).1.2 = true ↔ flag = true ∨ p ∉ S ∨
        (tsnIsRevokable = false ∧ g.tsnIsRevokable (wrap 32 p) = true)) := by
  rw [h.tsnIsRevokable_iff h₀ h₁]
  by_cases hle : p ≤ C
  · -- the TSN is acknowledged already
    have hmem : p ∈ S := by
      rw [h.received]
      exact .inl hle
    have hR : p ∉ cover R := fun hmemR => by
      have := h.aboveRevokable.lt hmemR
      omega
    have hkeep : ∀ l : SCTPSimpleGapList,
        l.updateGapList (wrap 32 p) g.cumAckTSN flag = ((l, g.cumAckTSN, flag), false) := by
      intro l
      rw [h.cumAckTSN]
      exact updateGapList_of_le l hle h₁ flag
    have hsub : g.updateSublist (wrap 32 p) flag tsnIsRevokable = (g, flag) := by
      rw [SCTPGapList.updateSublist, hkeep, hkeep]
      cases tsnIsRevokable <;> rfl
    have hcode : g.updateGapList (wrap 32 p) flag tsnIsRevokable = ((g, flag), false) := by
      rw [updateGapList_eq hsub (hkeep _), if_neg fun hne => hne rfl, if_neg fun hne => hne rfl]
    rw [hcode, insert_eq_of_mem hmem]
    refine ⟨⟨C, K, R, N, h⟩, ?_⟩
    simp [hmem, hR]
  · have hlt : C < p := not_le.1 hle
    have hmove' : tsnIsRevokable = true → p ∉ cover N := fun hrev hmem => by
      rw [← h.tsnIsNonRevokable_iff h₀ h₁, hmove hrev] at hmem
      cases hmem
    have hmem : p ∈ S ↔ p ∈ cover K := by
      rw [h.received]
      exact ⟨fun hor => hor.resolve_left hle, .inr⟩
    obtain ⟨CR, R', XR, CN, N', XN, f, hsub, gR, gN, hunion, hdisjoint, hf⟩ :=
      h.updateSublist hfew hlt (by omega) hskip hmove' flag
    have hskipK : SCTP.skipsBlock (wrap 32 p) (wrap 32 C + 1) (K.map block) = false := by
      have hnle : tsnLe (wrap 32 p) g.cumAckTSN = false := by
        rw [h.cumAckTSN, tsnLe_wrap (by omega) (by omega)]
        exact decide_eq_false hle
      rw [SCTPGapList.skipsBlock, hnle, h.cumAckTSN, h.combinedGapList] at hskip
      exact (Bool.or_eq_false_iff.1 hskip).1
    obtain ⟨K', C', f', hcode, aK, hC', hunionK, hf'⟩ :=
      h.aboveCombined.updateGapList hlt (by omega) hskipK
        (by have := hfew.1; rwa [h.combinedGapList, length_map] at this) f
    have gK : Grown C (insert p (cover K)) C' K' := ⟨aK, hC', hunionK⟩
    have hnear : ∀ y ∈ insert p (cover K), y < C + 2 ^ 31 := by
      rintro y (rfl | hy)
      · omega
      · exact h.aboveCombined.near y hy
    obtain ⟨R'', hR'', aR, cR⟩ := gR.advance gK (hunion ▸ subset_union_left) hnear
    obtain ⟨N'', hN'', aN, cN⟩ := gN.advance gK (hunion ▸ subset_union_right) hnear
    have hres : g.updateGapList (wrap 32 p) flag tsnIsRevokable =
        (({ cumAckTSN := wrap 32 C', combinedGapList := K'.map block,
            revokableGapList := R''.map block, nonRevokableGapList := N''.map block }, f'),
          true) := by
      rw [← h.combinedGapList, ← h.cumAckTSN] at hcode
      rw [updateGapList_eq hsub hcode, h.cumAckTSN, hR'', hN'']
    rw [hres]
    refine ⟨⟨C', K', R'', N'', of_parts rfl rfl rfl rfl aK aR aN gK.cover_eq cR cN hunion hdisjoint
      ?_⟩, ?_⟩
    · rw [hunionK, h.received, union_insert]
    · rw [hf', hf, hmem]
      refine ⟨?_, .inl⟩
      rintro (hor | hnot)
      · exact hor
      · exact .inr (.inl hnot)

/-- **Removing a TSN**, which does nothing when it is acknowledged already. -/
theorem removeFromGapList :
    (g.removeFromGapList (wrap 32 p)).Represents (reported S (.removeFromGapList p)) := by
  obtain ⟨K', hK', aK, cK⟩ := h.aboveCombined.removeFromGapList h₀ h₁
    (by have := hfew.1; rwa [h.combinedGapList, length_map] at this)
  obtain ⟨R', hR', aR, cR⟩ := h.aboveRevokable.removeFromGapList h₀ h₁
    (by have := hfew.2.1; rwa [h.revokableGapList, length_map] at this)
  obtain ⟨N', hN', aN, cN⟩ := h.aboveNonRevokable.removeFromGapList h₀ h₁
    (by have := hfew.2.2; rwa [h.nonRevokableGapList, length_map] at this)
  rw [← h.combinedGapList] at hK'
  rw [← h.revokableGapList] at hR'
  rw [← h.nonRevokableGapList] at hN'
  refine ⟨C, K', R', N', ⟨h.cumAckTSN, hK', hR', hN', aK, aR, aN, ?_, ?_, ?_⟩⟩
  · have hacked : Set.Iic p ⊆ S ↔ p ≤ C := by
      refine ⟨fun hsub => ?_, fun hle q hq => h.isCumAck.1 (le_trans hq hle)⟩
      by_contra hlt
      exact h.isCumAck.2 (hsub (Int.add_one_le_iff.2 (not_le.1 hlt)))
    ext q
    change q ∈ S ∧ (q = p → Set.Iic p ⊆ S) ↔ _
    rw [hacked, cK, h.received]
    constructor
    · rintro ⟨hle | hmem, himp⟩
      · exact .inl hle
      · refine .inr ⟨hmem, fun heq => ?_⟩
        have heq' : q = p := heq
        have := h.aboveCombined.lt hmem
        have := himp heq'
        omega
    · rintro (hle | ⟨hmem, hne⟩)
      · have hle' : q ≤ C := hle
        exact ⟨.inl hle, fun heq => heq ▸ hle'⟩
      · exact ⟨.inr hmem, fun heq => absurd heq hne⟩
  · rw [cR, cN, cK, ← union_sdiff_distrib, h.union]
  · rw [cR, cN]
    exact h.disjoint.mono sdiff_subset sdiff_subset

end

/-- **Forwarding the cumulative acknowledgement** to a position after which one is missing. -/
theorem forwardCumAckTSN (h : g.Blocks S C K R N) (hC : C ≤ p) (hp : p - C < 2 ^ 31)
    (hnext : p + 1 ∉ cover K) :
    (g.forwardCumAckTSN (wrap 32 p)).Represents (reported S (.forwardCumAckTSN p)) := by
  obtain ⟨K', hK', aK, cK⟩ := h.aboveCombined.forwardCumAckTSN hC hp hnext
  obtain ⟨R', hR', aR, cR⟩ :=
    h.aboveRevokable.forwardCumAckTSN hC hp fun hmem => hnext (h.mem_iff.2 (.inl hmem))
  obtain ⟨N', hN', aN, cN⟩ :=
    h.aboveNonRevokable.forwardCumAckTSN hC hp fun hmem => hnext (h.mem_iff.2 (.inr hmem))
  rw [← h.combinedGapList] at hK'
  rw [← h.revokableGapList] at hR'
  rw [← h.nonRevokableGapList] at hN'
  refine ⟨p, K', R', N', of_parts rfl hK' hR' hN' aK aR aN cK cR cN h.union h.disjoint ?_⟩
  ext q
  change q ∈ S ∪ Set.Iic p ↔ _
  rw [cK, h.received]
  simp only [mem_union, mem_Iic, mem_inter_iff, mem_Ioi]
  constructor
  · rintro ((hle | hmem) | hle)
    · exact .inl (hle.trans hC)
    · rcases le_or_gt q p with hle | hlt
      · exact .inl hle
      · exact .inr ⟨hmem, hlt⟩
    · exact .inl hle
  · rintro (hle | ⟨hmem, -⟩)
    · exact .inr hle
    · exact .inl (.inr hmem)

/-- There is never anything to advance over. -/
theorem tryToAdvanceCumAckTSN (h : g.Blocks S C K R N) : g.tryToAdvanceCumAckTSN = (g, false) := by
  have hcode : g.combinedGapList.tryToAdvanceCumAckTSN g.cumAckTSN =
      (g.combinedGapList, g.cumAckTSN, false) := by
    rw [h.combinedGapList, h.cumAckTSN]
    exact h.aboveCombined.tryToAdvanceCumAckTSN
  rw [SCTPGapList.tryToAdvanceCumAckTSN, hcode]

end SCTPGapList.Blocks

/-! ### Runs -/

/-- The gap list together with the positions that were reported and not removed. -/
structure GapListRun where
  gapList : SCTPGapList
  received : Set ℤ

namespace GapListRun

/-- An association begins with the position `C` as its cumulative acknowledgement. -/
def initial (C : ℤ) : GapListRun where
  gapList := { cumAckTSN := wrap 32 C }
  received := Set.Iic C

def step (s : GapListRun) (c : GapListCall) : Except Unit GapListRun :=
  .ok ⟨s.gapList.call c, reported s.received c⟩

/-- The TSN of the call lies in the window around the acknowledged one, and there are fewer than
`maxGapCount` blocks. -/
def Legal (s : GapListRun) (c : GapListCall) : Prop :=
  (∀ C, IsCumAck s.received C → c.Within C) ∧ s.gapList.FewBlocks

/-- The call stays clear of what the code does not handle. -/
def Meets (s : GapListRun) : GapListCall → Prop
  | .updateGapList p tsnIsRevokable =>
    s.gapList.skipsBlock (wrap 32 p) tsnIsRevokable = false ∧
      (tsnIsRevokable = true → s.gapList.tsnIsNonRevokable (wrap 32 p) = false)
  | .forwardCumAckTSN p =>
    tsnGe (wrap 32 p) s.gapList.cumAckTSN = true ∧
      s.gapList.combinedGapList.tsnInGapList (wrap 32 p + 1) = false
  | .removeFromGapList _ => True
  | .tryToAdvanceCumAckTSN => True

/-- The gap list represents the reported TSNs, its assertions hold, and it says of the next TSN
whether it is new. -/
structure Exact (s : GapListRun) : Prop where
  represents : s.gapList.Represents s.received
  check : s.gapList.check = true
  newChunkReceived : ∀ p tsnIsRevokable flag, s.Legal (.updateGapList p tsnIsRevokable) →
    ((s.gapList.updateGapList (wrap 32 p) flag tsnIsRevokable).1.2 = true ↔
      flag = true ∨ p ∉ s.received)

theorem initial_represents (C : ℤ) : (initial C).gapList.Represents (initial C).received := by
  have hnil : Above C [] := ⟨Sep.cons_iff.2 ⟨by simp, by simp, .nil⟩, by simp⟩
  refine ⟨C, [], [], [], ⟨rfl, rfl, rfl, rfl, hnil, hnil, hnil, ?_, by simp, by simp⟩⟩
  simp [initial]

variable {c : GapListCall}

/-- What every call preserves. -/
theorem step_represents {s s' : GapListRun} (h : s.gapList.Represents s.received)
    (hlegal : s.Legal c) (hmeets : s.Meets c) (hstep : s.step c = .ok s') :
    s'.gapList.Represents s'.received := by
  cases hstep
  obtain ⟨C, K, R, N, h⟩ := h
  have hwithin := hlegal.1 C h.isCumAck
  cases c with
  | updateGapList p tsnIsRevokable =>
    exact (h.updateGapList hlegal.2 hwithin.1 hwithin.2 hmeets.1 hmeets.2 false).1
  | removeFromGapList p => exact h.removeFromGapList hlegal.2 hwithin.1 hwithin.2
  | forwardCumAckTSN p =>
    obtain ⟨hge, hnext⟩ := hmeets
    rw [h.cumAckTSN, tsnGe_wrap hwithin.1 hwithin.2] at hge
    have hC : C ≤ p := of_decide_eq_true hge
    refine h.forwardCumAckTSN hC hwithin.1 fun hmem => ?_
    have hp := hwithin.1
    rw [← h.aboveCombined.tsnInGapList_iff (by omega) (by omega), ← h.combinedGapList] at hmem
    rw [show wrap 32 p + 1 = wrap 32 (p + 1) from Serial.wrap_add_ofNat p 1, hmem] at hnext
    cases hnext
  | tryToAdvanceCumAckTSN =>
    have hcode : s.gapList.tryToAdvanceCumAckTSN.1 = s.gapList := by rw [h.tryToAdvanceCumAckTSN]
    change s.gapList.tryToAdvanceCumAckTSN.1.Represents s.received
    rw [hcode]
    exact ⟨C, K, R, N, h⟩

/-- **In every run whose calls are legal and stay clear of what the code does not handle**, the
gap list represents the reported TSNs exactly and its assertions hold; and the next call reports a
new chunk when the TSN is new, or when a revokable one becomes non-revokable. -/
theorem run_exact {C : ℤ} {calls : List GapListCall} {s : GapListRun}
    (h : Trace.Run step (fun s c => s.Legal c ∧ s.Meets c) (initial C) calls s) :
    s.gapList.Represents s.received ∧ s.gapList.check = true ∧
      ∀ p tsnIsRevokable flag, s.Legal (.updateGapList p tsnIsRevokable) →
        s.Meets (.updateGapList p tsnIsRevokable) →
        ((s.gapList.updateGapList (wrap 32 p) flag tsnIsRevokable).1.2 = true ↔
          flag = true ∨ p ∉ s.received ∨
            (tsnIsRevokable = false ∧ s.gapList.tsnIsRevokable (wrap 32 p) = true)) := by
  have hrep : s.gapList.Represents s.received := h.invariant
    (fun s c s' hs hP hstep => step_represents hs hP.1 hP.2 hstep) (initial_represents C)
  refine ⟨hrep, ?_, fun p tsnIsRevokable flag hlegal hmeets => ?_⟩
  · obtain ⟨C, K, R, N, hblocks⟩ := hrep
    exact hblocks.check
  · obtain ⟨C, K, R, N, hblocks⟩ := hrep
    have hwithin := hlegal.1 C hblocks.isCumAck
    exact (hblocks.updateGapList hlegal.2 hwithin.1 hwithin.2 hmeets.1 hmeets.2 flag).2

theorem Legal.of_isCumAck {s : GapListRun} {C : ℤ} (hC : IsCumAck s.received C)
    (hwithin : c.Within C) (hfew : s.gapList.FewBlocks) :
    s.Legal c :=
  ⟨fun _ hC' => hC'.unique hC ▸ hwithin, hfew⟩

theorem isCumAck_initial (C : ℤ) : IsCumAck (initial C).received C :=
  ⟨le_rfl, fun hmem => absurd hmem (not_le.2 (Int.lt_add_one_of_le le_rfl))⟩

/-- A chunk that is received out of order. -/
theorem run_exact_sample :
    ((initial 5).gapList.call (.updateGapList 8 true)).Represents
      (reported (initial 5).received (.updateGapList 8 true)) := by
  have hlegal : (initial 5).Legal (.updateGapList 8 true) :=
    .of_isCumAck (isCumAck_initial 5) ⟨by decide, by decide⟩ (by decide)
  have hmeets : (initial 5).Meets (.updateGapList 8 true) := ⟨by decide, by decide⟩
  exact (run_exact (.cons ⟨hlegal, hmeets⟩ rfl (.nil _))).1

/-- **The gap list does not represent the reported TSNs in every legal run**: when TSN 0 is the
first one received out of order, the block that it opens is never acknowledged. -/
theorem not_exact : ¬∀ (C : ℤ) (calls : List GapListCall) (s : GapListRun),
    Trace.Run step Legal (initial C) calls s → Exact s := by
  intro h
  have h₁ : IsCumAck (insert (2 ^ 32) (Set.Iic (2 ^ 32 - 3))) (2 ^ 32 - 3) :=
    ⟨subset_insert _ _, by simp⟩
  have h₂ : IsCumAck (insert (2 ^ 32 - 2) (insert (2 ^ 32) (Set.Iic (2 ^ 32 - 3))))
      (2 ^ 32 - 2) := by
    refine ⟨fun q hq => ?_, by simp⟩
    rcases eq_or_lt_of_le (mem_Iic.1 hq) with rfl | hlt
    · exact .inl rfl
    · exact .inr (.inr (by simp only [mem_Iic]; omega))
  have hrun := h (2 ^ 32 - 3) [.updateGapList (2 ^ 32) true, .updateGapList (2 ^ 32 - 2) true,
    .updateGapList (2 ^ 32 - 1) true] _
    (.cons (.of_isCumAck (isCumAck_initial _) ⟨by decide, by decide⟩ (by decide)) rfl
      (.cons (.of_isCumAck h₁ ⟨by decide, by decide⟩ (by decide)) rfl
        (.cons (.of_isCumAck h₂ ⟨by decide, by decide⟩ (by decide)) rfl (.nil _))))
  exact absurd hrun.check (by decide)

end GapListRun

end SCTP

end Hiwis
