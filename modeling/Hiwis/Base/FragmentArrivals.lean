import Hiwis.Base.ReassemblyBuffer

/-!
# Arrivals of the fragments of one datagram

The fragments of a datagram arrive in any order and with duplicates, and the reassembly buffer is
thrown away when the datagram is complete.  A fragment may be anything that tells its region.

* `Tracked.addFragment` : `addFragment` answers whether all fragments have arrived since the last
  completion (`see`), and then the total length is that of the datagram;
* `foldl_see` : nothing is complete before the last fragment.
-/

namespace Hiwis

open List

namespace ReassemblyBuffer

variable {X : Type*} (region : X → Region)

/-- The regions of a list of fragments. -/
def regions (l : List X) : Set Region := {r | ∃ x ∈ l, region x = r}

/-- The fragments that have arrived since the datagram was last complete, after one more arrival. -/
def see [DecidableEq X] (frags seen : List X) (x : X) : List X :=
  if frags ⊆ x :: seen then [] else x :: seen

/-- The fragments make up a datagram of `T` octets, and no two of them have the same region. -/
structure CutInto (T : ℕ) (frags : List X) : Prop where
  cutting : Cutting T (regions region frags)
  inj : ∀ x ∈ frags, ∀ y ∈ frags, region x = region y → x = y

/-- The buffer, if there is one, when the fragments in `seen` have arrived. -/
structure Tracked (T : ℕ) (frags seen : List X) (buf : Option ReassemblyBuffer) : Prop where
  sub : seen ⊆ frags
  isNone_iff : buf.isNone = true ↔ seen = []
  rep : Rep T (regions region frags) (regions region seen) (buf.getD empty)

section Arrivals

variable {region} {T : ℕ} {frags seen : List X} {buf : Option ReassemblyBuffer} {x : X}

theorem regions_cons (x : X) (l : List X) :
    regions region (x :: l) = insert (region x) (regions region l) := by
  ext r
  simp [regions, eq_comm]

/-- The regions tell which fragments have arrived. -/
theorem CutInto.regions_subset_iff (hP : CutInto region T frags) (hseen : seen ⊆ frags) :
    regions region frags ⊆ regions region seen ↔ frags ⊆ seen := by
  constructor
  · intro h x hx
    obtain ⟨y, hy, heq⟩ := h ⟨x, hx, rfl⟩
    rwa [hP.inj x hx y (hseen hy) heq.symm]
  · rintro h r ⟨x, hx, rfl⟩
    exact ⟨x, h hx, rfl⟩

/-- Before the first arrival there is no buffer. -/
theorem Tracked.nil (hP : CutInto region T frags) : Tracked region T frags [] none where
  sub := nil_subset _
  isNone_iff := by simp
  rep := by
    have hnone : regions region ([] : List X) = ∅ := by
      ext r
      simp [regions]
    rw [hnone]
    exact .empty hP.cutting

/-- A fragment arrives: the answer of `addFragment`, and the buffer that remains. -/
theorem Tracked.addFragment [DecidableEq X] (hP : CutInto region T frags)
    (h : Tracked region T frags seen buf) (hx : x ∈ frags) {b : Bool × ReassemblyBuffer}
    (hb : (buf.getD empty).addFragment (region x).beg (region x).past (region x).islast = b) :
    (b.1 = true ↔ frags ⊆ x :: seen) ∧ (b.1 = true → b.2.getTotalLength = T) ∧
      Tracked region T frags (see frags seen x) (if b.1 then none else some b.2) := by
  obtain ⟨hrep, hcomplete⟩ := h.rep.addFragment hP.cutting (p := region x) ⟨x, hx, rfl⟩
  have hsub : x :: seen ⊆ frags := cons_subset.2 ⟨hx, h.sub⟩
  rw [← regions_cons, hb] at hrep
  rw [← regions_cons, hb] at hcomplete
  have hall : b.1 = true ↔ frags ⊆ x :: seen := hcomplete.trans (hP.regions_subset_iff hsub)
  refine ⟨hall, fun hc => hrep.getTotalLength_eq hP.cutting (hcomplete.1 hc), ?_⟩
  by_cases hc : b.1 = true
  · rw [see, if_pos hc, if_pos (hall.1 hc)]
    exact .nil hP
  · rw [see, if_neg hc, if_neg (mt hall.2 hc)]
    exact ⟨hsub, by simp, hrep⟩

/-- Fragments arrive, and a certain one is not among them. -/
theorem foldl_see [DecidableEq X] {z : X} (hz : z ∈ frags) (xs : List X) (hxs : z ∉ xs)
    (hseen : z ∉ seen) : xs.foldl (see frags) seen = xs.reverse ++ seen := by
  induction xs generalizing seen with
  | nil => rfl
  | cons x xs ih =>
    rw [mem_cons, not_or] at hxs
    have hmem : z ∉ x :: seen := by simp [hxs.1, hseen]
    -- the fragment `z` is missing, so the buffer stays
    have hsee : see frags seen x = x :: seen := if_neg fun hsub => hmem (hsub hz)
    rw [foldl_cons, hsee, ih hxs.2 hmem, reverse_cons, append_assoc, singleton_append]

end Arrivals

end ReassemblyBuffer

end Hiwis
