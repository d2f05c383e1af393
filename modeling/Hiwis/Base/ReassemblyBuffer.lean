import Mathlib

/-!
# The reassembly buffer

`ReassemblyBuffer` keeps track of the octets of a datagram whose fragments have arrived.  It grows
one main region and puts fragments that do not touch this region aside until the gap is filled.

It stores no octets, and it ignores a fragment that overlaps the main region without touching an end
of it.  So it is exact for the fragments of one cutting of a datagram (`Cutting`), in any order and
with duplicates:

* `Rep.addFragment` : the regions of the buffer follow the set of fragments that have arrived;
* `Rep.complete_iff` : `addFragment` returns `true` exactly when all octets have arrived.
-/

namespace Hiwis

open List Bool

namespace ReassemblyBuffer

/-- A range of offsets, and whether it ends with the last octet of the datagram. -/
structure Region where
  /-- The first offset. -/
  beg : ℕ
  /-- The offset after the last one. -/
  past : ℕ
  islast : Bool
  deriving DecidableEq

end ReassemblyBuffer

open ReassemblyBuffer (Region)

/-- `ReassemblyBuffer`.  A list without regions stands for the vector that is not allocated yet. -/
structure ReassemblyBuffer where
  main : ReassemblyBuffer.Region
  fragments : List ReassemblyBuffer.Region
  deriving DecidableEq

namespace ReassemblyBuffer

/-- A buffer that has just been constructed. -/
def empty : ReassemblyBuffer := ⟨⟨0, 0, false⟩, []⟩

/-- One pass of `mergeFragments` over the regions put aside: the main region after it, the regions
that stay, and whether one was deleted. -/
def mergePass : Region → List Region → Region × List Region × Bool
  | main, [] => (main, [], false)
  | main, frag :: frags =>
    if main.past = frag.beg then
      let r := mergePass { main with past := frag.past, islast := main.islast || frag.islast } frags
      (r.1, r.2.1, true)
    else if main.beg = frag.past then
      let r := mergePass { main with beg := frag.beg } frags
      (r.1, r.2.1, true)
    else if main.beg ≤ frag.beg ∧ frag.past ≤ main.past then
      let r := mergePass main frags
      (r.1, r.2.1, true)
    else
      let r := mergePass main frags
      (r.1, frag :: r.2.1, r.2.2)

/-- The loop of `mergeFragments`, at most `n` passes. -/
def mergeLoop : ℕ → Region → List Region → Region × List Region
  | 0, main, frags => (main, frags)
  | n + 1, main, frags =>
    let r := mergePass main frags
    if r.2.2 then mergeLoop n r.1 r.2.1 else (r.1, r.2.1)

section

variable (b : ReassemblyBuffer)

/-- `mergeFragments`.  Each pass but the last one deletes a region. -/
def mergeFragments : ReassemblyBuffer :=
  let r := mergeLoop (b.fragments.length + 1) b.main b.fragments
  ⟨r.1, r.2⟩

/-- `merge`. -/
def merge (beg past : ℕ) (islast : Bool) : ReassemblyBuffer :=
  if b.main.past = beg then
    mergeFragments { b with main := { b.main with past, islast := b.main.islast || islast } }
  else if b.main.beg = past then
    mergeFragments { b with main := { b.main with beg } }
  else if b.main.past < beg ∨ past < b.main.beg then
    { b with fragments := b.fragments ++ [⟨beg, past, islast⟩] }
  else b

/-- `addFragment`: the buffer after the fragment, and whether the datagram is complete. -/
def addFragment (beg past : ℕ) (islast : Bool) : Bool × ReassemblyBuffer :=
  let b := b.merge beg past islast
  (b.main.beg = 0 && b.main.islast, b)

/-- `getTotalLength`. -/
def getTotalLength : ℕ := b.main.past

end

/-! ### The loop of `mergeFragments` -/

/-- What the passes over the regions put aside keep: their order does not matter, the main region
may grow by one that follows it, and one that it contains may be deleted. -/
structure Keeps (I : Region → List Region → Prop) : Prop where
  beg_lt : ∀ {main frag frags}, I main (frag :: frags) → main.beg < frag.past
  congr : ∀ {main frags frags'}, I main frags → (∀ p, p ∈ frags ↔ p ∈ frags') → I main frags'
  extend : ∀ {main frag frags}, I main (frag :: frags) → main.past = frag.beg →
    I { main with past := frag.past, islast := main.islast || frag.islast } frags
  delete : ∀ {main frag frags}, I main (frag :: frags) →
    main.beg ≤ frag.beg ∧ frag.past ≤ main.past → I main frags

section Keeps

variable {I : Region → List Region → Prop} {main : Region} {frags : List Region}

/-- If a pass deletes nothing, no region follows the main region or is contained in it. -/
theorem Keeps.mergePass (hI : Keeps I) (frags kept : List Region) (h : I main (frags ++ kept)) :
    I (mergePass main frags).1 ((mergePass main frags).2.1 ++ kept) ∧
      (mergePass main frags).2.1.length ≤ frags.length ∧
      if (mergePass main frags).2.2 then (mergePass main frags).2.1.length < frags.length
      else (mergePass main frags).1 = main ∧ (mergePass main frags).2.1 = frags ∧
        ∀ p ∈ frags, main.past ≠ p.beg ∧ ¬(main.beg ≤ p.beg ∧ p.past ≤ main.past) := by
  induction frags generalizing main kept with
  | nil => exact ⟨h, le_rfl, by simp [ReassemblyBuffer.mergePass]⟩
  | cons frag frags ih =>
    have hprev := (hI.beg_lt h).ne
    by_cases hnext : main.past = frag.beg
    · -- `frag` follows the main region
      obtain ⟨hih, hlen, -⟩ := ih kept (hI.extend h hnext)
      rw [ReassemblyBuffer.mergePass, if_pos hnext]
      simp only [if_true, length_cons]
      exact ⟨hih, by omega, by omega⟩
    · by_cases hin : main.beg ≤ frag.beg ∧ frag.past ≤ main.past
      · obtain ⟨hih, hlen, -⟩ := ih kept (hI.delete h hin)
        rw [ReassemblyBuffer.mergePass, if_neg hnext, if_neg hprev, if_pos hin]
        simp only [if_true, length_cons]
        exact ⟨hih, by omega, by omega⟩
      · obtain ⟨hih, hlen, hif⟩ := ih (frag :: kept) (hI.congr h fun p => by simp; tauto)
        rw [ReassemblyBuffer.mergePass, if_neg hnext, if_neg hprev, if_neg hin]
        dsimp only
        refine ⟨hI.congr hih fun p => by simp; tauto, by simpa using hlen, ?_⟩
        split_ifs at hif ⊢ with hmore
        · simpa using hif
        · refine ⟨hif.1, by rw [hif.2.1], fun p hp => ?_⟩
          rcases mem_cons.1 hp with rfl | hp
          · exact ⟨hnext, hin⟩
          · exact hif.2.2 p hp

/-- The loop ends with a pass that deletes nothing. -/
theorem Keeps.mergeLoop (hI : Keeps I) {n : ℕ} (hn : frags.length < n) (h : I main frags) :
    I (mergeLoop n main frags).1 (mergeLoop n main frags).2 ∧
      ∀ p ∈ (mergeLoop n main frags).2, (mergeLoop n main frags).1.past ≠ p.beg ∧
        ¬((mergeLoop n main frags).1.beg ≤ p.beg ∧ p.past ≤ (mergeLoop n main frags).1.past) := by
  induction n generalizing main frags with
  | zero => omega
  | succ n ih =>
    have hpass := hI.mergePass frags [] (by simpa using h)
    rw [append_nil] at hpass
    obtain ⟨hkept, hlen, hif⟩ := hpass
    unfold ReassemblyBuffer.mergeLoop
    dsimp only
    split_ifs at hif ⊢ with hmore
    · exact ih (by omega) hkept
    · obtain ⟨hmain, hfrags, hnone⟩ := hif
      rw [hmain, hfrags]
      exact ⟨h, hnone⟩

end Keeps

/-! ### Cuttings -/

/-- The regions into which a datagram of `T` octets is cut: any two of them are equal or have no
octet in common. -/
structure Cutting (T : ℕ) (P : Set Region) : Prop where
  pos : 0 < T
  beg_lt : ∀ p ∈ P, p.beg < p.past
  past_le : ∀ p ∈ P, p.past ≤ T
  islast_iff : ∀ p ∈ P, p.islast = true ↔ p.past = T
  disjoint : ∀ p ∈ P, ∀ q ∈ P, p = q ∨ p.past ≤ q.beg ∨ q.past ≤ p.beg
  cover : ∀ k < T, ∃ p ∈ P, p.beg ≤ k ∧ k < p.past

/-- The main region `[0, e)` of the buffer and the regions put aside, when the fragments in `A` have
arrived: the former is a union of fragments, the latter may still contain what it contains. -/
structure Holds (T : ℕ) (P A : Set Region) (main : Region) (frags : List Region) : Prop where
  sub : A ⊆ P
  beg_eq : main.beg = 0
  past_le : main.past ≤ T
  islast_iff : main.islast = true ↔ main.past = T
  covered : ∀ k < main.past, ∃ p ∈ A, p.beg ≤ k ∧ k < p.past
  aligned : ∀ p ∈ P, p.past ≤ main.past ∨ main.past ≤ p.beg
  mem : ∀ p ∈ frags, p ∈ A
  complete : ∀ p ∈ A, p.past ≤ main.past ∨ p ∈ frags

/-- The buffer, when the fragments in `A` have arrived. -/
structure Rep (T : ℕ) (P A : Set Region) (b : ReassemblyBuffer) : Prop
    extends Holds T P A b.main b.fragments where
  past_lt : ∀ p ∈ b.fragments, b.main.past < p.beg

section Merge

variable {T : ℕ} {P A : Set Region} {main : Region} {frags : List Region} {b : ReassemblyBuffer}

variable {frag : Region}

/-- The main region grows by a fragment that follows it. -/
theorem Holds.extend (hP : Cutting T P) {rest : List Region} (h : Holds T P A main (frag :: rest))
    (hbeg : main.past = frag.beg) :
    Holds T P A { main with past := frag.past, islast := main.islast || frag.islast } rest := by
  have hfA : frag ∈ A := h.mem _ mem_cons_self
  have hfP := h.sub hfA
  have hlt := hP.beg_lt _ hfP
  have hle := hP.past_le _ hfP
  refine ⟨h.sub, h.beg_eq, hle, ?_, ?_, ?_, fun p hp => h.mem p (mem_cons_of_mem _ hp), ?_⟩
  · -- the old main region does not reach the end
    have hno : main.islast = false := by
      rw [← not_eq_true, h.islast_iff]
      omega
    simpa [hno] using hP.islast_iff _ hfP
  · intro k hk
    by_cases hkm : k < main.past
    · exact h.covered k hkm
    · exact ⟨frag, hfA, by omega, hk⟩
  · intro p hp
    rcases hP.disjoint p hp frag hfP with rfl | hpf | hpf
    · exact .inl le_rfl
    · exact .inl (by dsimp only; omega)
    · exact .inr hpf
  · intro p hp
    rcases h.complete p hp with hpm | hpm
    · exact .inl (by dsimp only; omega)
    · rcases mem_cons.1 hpm with rfl | hpm
      · exact .inl le_rfl
      · exact .inr hpm

theorem Holds.congr {frags' : List Region} (h : Holds T P A main frags)
    (hmem : ∀ p, p ∈ frags ↔ p ∈ frags') : Holds T P A main frags' where
  __ := h
  mem := fun p hp => h.mem p ((hmem p).2 hp)
  complete := fun p hp => (h.complete p hp).imp_right (hmem p).1

/-- A region that the main region contains may be deleted. -/
theorem Holds.delete (h : Holds T P A main (frag :: frags)) (hle : frag.past ≤ main.past) :
    Holds T P A main frags where
  __ := h
  mem := fun p hp => h.mem p (mem_cons_of_mem _ hp)
  complete := by
    intro p hp
    rcases h.complete p hp with hpm | hpm
    · exact .inl hpm
    · rcases mem_cons.1 hpm with rfl | hpm
      · exact .inl hle
      · exact .inr hpm

theorem keeps_holds (hP : Cutting T P) : Keeps (Holds T P A) where
  beg_lt h := by
    have hlt := hP.beg_lt _ (h.sub (h.mem _ mem_cons_self))
    have hbeg := h.beg_eq
    omega
  congr := Holds.congr
  extend := Holds.extend hP
  delete h hin := h.delete hin.2

/-- The loop ends when no region can be merged any more: all of them come after the main region. -/
theorem mergeFragments_spec (hP : Cutting T P) (h : Holds T P A b.main b.fragments) :
    Rep T P A b.mergeFragments := by
  obtain ⟨hholds, hnone⟩ := (keeps_holds hP).mergeLoop (Nat.lt_succ_self _) h
  refine ⟨hholds, fun p hp => ?_⟩
  obtain ⟨hnext, hin⟩ := hnone p hp
  have hbeg := hholds.beg_eq
  rcases hholds.aligned p (hholds.sub (hholds.mem p hp)) with hle | hle
  · exact absurd ⟨by omega, hle⟩ hin
  · exact lt_of_le_of_ne hle hnext

theorem Rep.empty (hP : Cutting T P) : Rep T P ∅ empty where
  sub := Set.empty_subset _
  beg_eq := rfl
  past_le := Nat.zero_le _
  islast_iff := by
    have := hP.pos
    simp only [ReassemblyBuffer.empty, false_eq_true, false_iff]
    omega
  covered := fun k hk => absurd hk (Nat.not_lt_zero k)
  aligned := fun p _ => .inr (Nat.zero_le _)
  mem := fun p hp => absurd hp not_mem_nil
  complete := fun p hp => absurd hp (Set.notMem_empty p)
  past_lt := fun p hp => absurd hp not_mem_nil

variable {p : Region}

/-- A fragment arrives that is kept aside before the regions are merged. -/
theorem Holds.insert (h : Holds T P A main frags) (hp : p ∈ P) :
    Holds T P (insert p A) main (p :: frags) where
  __ := h
  sub := Set.insert_subset hp h.sub
  covered := fun k hk => by
    obtain ⟨q, hq, hk⟩ := h.covered k hk
    exact ⟨q, Set.mem_insert_of_mem _ hq, hk⟩
  mem := by
    intro q hq
    rcases mem_cons.1 hq with rfl | hq
    · exact Set.mem_insert _ _
    · exact Set.mem_insert_of_mem _ (h.mem q hq)
  complete := by
    intro q hq
    rcases Set.mem_insert_iff.1 hq with rfl | hq
    · exact .inr mem_cons_self
    · exact (h.complete q hq).imp_right (mem_cons_of_mem _)

variable (hP : Cutting T P) (h : Rep T P A b)
include hP h

/-- A fragment arrives. -/
theorem Rep.merge (hp : p ∈ P) : Rep T P (insert p A) (b.merge p.beg p.past p.islast) := by
  have hlt := hP.beg_lt p hp
  have hbeg := h.beg_eq
  have hholds := h.toHolds.insert hp
  unfold ReassemblyBuffer.merge
  split_ifs with hnext hprev hout
  · exact mergeFragments_spec hP (hholds.extend hP hnext)
  · omega
  · refine ⟨hholds.congr fun q => ?_, fun q hq => ?_⟩
    · rw [mem_cons, mem_append, mem_singleton]
      exact or_comm
    rcases mem_append.1 hq with hq | hq
    · exact h.past_lt q hq
    · rw [mem_singleton] at hq
      subst hq
      dsimp only
      omega
  · -- the fragment is a duplicate
    have hin : p.past ≤ b.main.past := by
      rcases h.aligned p hp with hle | hle
      · exact hle
      · omega
    exact ⟨hholds.delete hin, h.past_lt⟩

/-- The datagram is complete when all its fragments have arrived, and then its length is that of the
main region. -/
theorem Rep.complete_iff : (b.main.beg = 0 && b.main.islast) = true ↔ P ⊆ A := by
  rw [and_eq_true, decide_eq_true_eq, h.islast_iff, and_iff_right h.beg_eq]
  constructor
  · intro hT p hp
    have hlt := hP.beg_lt p hp
    have hle := hP.past_le p hp
    obtain ⟨q, hq, hk⟩ := h.covered p.beg (by omega)
    rcases hP.disjoint p hp q (h.sub hq) with rfl | hpq | hpq
    · exact hq
    · omega
    · omega
  · intro hPA
    by_contra hne
    have hle := h.past_le
    obtain ⟨p, hp, hk⟩ := hP.cover b.main.past (by omega)
    rcases h.complete p (hPA hp) with hpm | hpm
    · omega
    · have := h.past_lt p hpm
      omega

theorem Rep.getTotalLength_eq (hPA : P ⊆ A) : b.getTotalLength = T := by
  have := (h.complete_iff hP).2 hPA
  rw [and_eq_true] at this
  exact h.islast_iff.1 this.2

/-- `addFragment` answers whether all fragments have arrived. -/
theorem Rep.addFragment (hp : p ∈ P) :
    Rep T P (insert p A) (b.addFragment p.beg p.past p.islast).2 ∧
      ((b.addFragment p.beg p.past p.islast).1 = true ↔ P ⊆ insert p A) :=
  ⟨h.merge hP hp, (h.merge hP hp).complete_iff hP⟩

end Merge

/-! ### Buffers that are not completed -/

/-- No region ends with the last octet of the datagram. -/
structure NoLast (main : Region) (frags : List Region) : Prop where
  main : main.islast = false
  frags : ∀ p ∈ frags, p.islast = false

section NoLast

variable {main : Region} {frags : List Region} {b : ReassemblyBuffer}

theorem NoLast.tail {p : Region} (h : NoLast main (p :: frags)) : NoLast main frags :=
  ⟨h.main, fun q hq => h.frags q (mem_cons_of_mem _ hq)⟩

theorem NoLast.mergePass (h : NoLast main frags) :
    NoLast (mergePass main frags).1 (mergePass main frags).2.1 := by
  induction frags generalizing main with
  | nil => exact h
  | cons frag frags ih =>
    have hfrag := h.frags frag mem_cons_self
    unfold ReassemblyBuffer.mergePass
    split_ifs with hnext hprev hin
    · exact ih ⟨by simp [h.main, hfrag], h.tail.frags⟩
    · exact ih ⟨h.main, h.tail.frags⟩
    · exact ih h.tail
    · have hrest := ih h.tail
      refine ⟨hrest.main, fun q hq => ?_⟩
      rcases mem_cons.1 hq with rfl | hq
      · exact hfrag
      · exact hrest.frags q hq

theorem NoLast.mergeLoop (h : NoLast main frags) (n : ℕ) :
    NoLast (mergeLoop n main frags).1 (mergeLoop n main frags).2 := by
  induction n generalizing main frags with
  | zero => exact h
  | succ n ih =>
    unfold ReassemblyBuffer.mergeLoop
    dsimp only
    split_ifs
    · exact ih h.mergePass
    · exact h.mergePass

/-- A buffer without the last octet is not completed by a fragment without it. -/
theorem NoLast.addFragment (h : NoLast b.main b.fragments) (beg past : ℕ) :
    (b.addFragment beg past false).1 = false ∧
      NoLast (b.addFragment beg past false).2.main (b.addFragment beg past false).2.fragments := by
  have hmerge : NoLast (b.merge beg past false).main (b.merge beg past false).fragments := by
    unfold merge
    split_ifs
    · exact NoLast.mergeLoop ⟨by simp [h.main], h.frags⟩ _
    · have hbeg : NoLast { b.main with beg } b.fragments := ⟨h.main, h.frags⟩
      exact hbeg.mergeLoop _
    · refine ⟨h.main, fun p hp => ?_⟩
      rcases mem_append.1 hp with hp | hp
      · exact h.frags p hp
      · rw [mem_singleton] at hp
        rw [hp]
    · exact h
  exact ⟨by simp [ReassemblyBuffer.addFragment, hmerge.main], hmerge⟩

variable {beg past : ℕ}

/-- A fragment beyond the main region is put aside. -/
theorem addFragment_of_lt {islast : Bool} (hbeg : b.main.past < beg) (hpast : b.main.beg ≠ past) :
    b.addFragment beg past islast =
      (b.main.beg = 0 && b.main.islast, ⟨b.main, b.fragments ++ [⟨beg, past, islast⟩]⟩) := by
  have hmerge : b.merge beg past islast = ⟨b.main, b.fragments ++ [⟨beg, past, islast⟩]⟩ := by
    unfold merge
    rw [if_neg hbeg.ne, if_neg hpast, if_pos (.inl hbeg)]
  rw [addFragment, hmerge]

/-- The last fragment arrives first. -/
theorem addFragment_empty_last (hbeg : 0 < beg) :
    empty.addFragment beg past true =
      (false, if past = 0 then ⟨⟨beg, 0, false⟩, []⟩
        else ⟨⟨0, 0, false⟩, [⟨beg, past, true⟩]⟩) := by
  by_cases hpast : past = 0
  · simp [addFragment, merge, empty, hbeg.ne, hpast, mergeFragments, mergeLoop, mergePass]
  · rw [addFragment_of_lt hbeg (Ne.symm hpast), if_neg hpast]
    rfl

/-- The first fragment arrives after the last one. -/
theorem addFragment_first (beg past past0 : ℕ) (hpast : past ≠ 0) :
    (ReassemblyBuffer.mk ⟨0, 0, false⟩ [⟨beg, past, true⟩]).addFragment 0 past0 false =
      if past0 = beg then (true, ⟨⟨0, past, true⟩, []⟩)
      else (false, ⟨⟨0, past0, false⟩, if past ≤ past0 then [] else [⟨beg, past, true⟩]⟩) := by
  by_cases hbeg : past0 = beg
  · simp [addFragment, merge, mergeFragments, mergeLoop, mergePass, hbeg]
  · by_cases hle : past ≤ past0 <;>
      simp [addFragment, merge, mergeFragments, mergeLoop, mergePass, hbeg, hle, hpast.symm]

end NoLast

end ReassemblyBuffer

end Hiwis
