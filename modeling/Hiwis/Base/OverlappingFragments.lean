import Hiwis.Base.ReassemblyBuffer

/-!
# Fragments that overlap

`ReassemblyBuffer` takes it that "overlapping is not possible".  Fragments of differently fragmented
copies do overlap.  The main region grows by fragments that begin where it ends; what begins inside
of it is taken for a duplicate, and what it grows into stays aside.

* `follows_addAll` : the main region is a chain of fragments, and no fragment begins at its end;
* `addFragment_overlapping` : what `addFragment` answers to fragments that overlap in any way.
-/

namespace Hiwis

open List ReassemblyBuffer

namespace ReassemblyBuffer

/-- The ranges of fragments of a datagram of `T` octets, cut in any way. -/
def ConsistentWith (T : ℕ) (rs : List Region) : Prop :=
  ∀ r ∈ rs, r.beg < r.past ∧ r.past ≤ T ∧ (r.islast = true ↔ r.past = T)

instance (T : ℕ) (rs : List Region) : Decidable (ConsistentWith T rs) :=
  inferInstanceAs (Decidable (∀ r ∈ rs, _))

/-- The union of the ranges is `[0, T)`. -/
def Covers (T : ℕ) (rs : List Region) : Prop := ∀ k < T, ∃ r ∈ rs, r.beg ≤ k ∧ k < r.past

instance (T : ℕ) (rs : List Region) : Decidable (Covers T rs) :=
  inferInstanceAs (Decidable (∀ k < T, ∃ r ∈ rs, _))

/-- The fragments follow each other from offset 0 on, and the last of them ends at `x`. -/
inductive Chain (rs : List Region) : List Region → ℕ → Prop
  | nil : Chain rs [] 0
  | concat {c : List Region} {r : Region} : Chain rs c r.beg → r ∈ rs → Chain rs (c ++ [r]) r.past

/-- Wherever a chain of the fragments ends before `T`, another one of them begins. -/
def Continues (T : ℕ) (rs : List Region) : Prop := ∀ c x, Chain rs c x → x < T → ∃ r ∈ rs, r.beg = x

/-- The buffer after the fragments. -/
def addAll (rs : List Region) : ReassemblyBuffer :=
  rs.foldl (fun b r => (b.addFragment r.beg r.past r.islast).2) empty

/-- The main region and the regions put aside, when the fragments of the list have arrived and may
still have to be merged. -/
structure Follows (T : ℕ) (rs : List Region) (main : Region) (frags : List Region) : Prop where
  beg_eq : main.beg = 0
  chain : ∃ c, Chain rs c main.past
  past_le : main.past ≤ T
  islast_iff : main.islast = true ↔ main.past = T
  sub : frags ⊆ rs
  mem : ∀ r ∈ rs, main.past ≤ r.beg → r ∈ frags

section Overlaps

variable {T x : ℕ} {rs c frags : List Region} {r : Region} {main : Region} {b : ReassemblyBuffer}

variable {rs' : List Region}

theorem ConsistentWith.mono (h : ConsistentWith T rs) (hsub : rs' ⊆ rs) :
    ConsistentWith T rs' :=
  fun r hr => h r (hsub hr)

section

variable (h : Chain rs c x)
include h

theorem Chain.mono (hsub : rs ⊆ rs') : Chain rs' c x := by
  induction h with
  | nil => exact .nil
  | concat _ hr ih => exact .concat ih (hsub hr)

theorem Chain.sub : c ⊆ rs := by
  induction h with
  | nil => exact nil_subset _
  | concat _ hr ih =>
    intro q hq
    rcases mem_append.1 hq with hq | hq
    · exact ih hq
    · exact mem_singleton.1 hq ▸ hr

theorem Chain.past_le (hrs : ConsistentWith T rs) : ∀ q ∈ c, q.past ≤ x := by
  induction h with
  | nil => simp
  | concat _ hr ih =>
    intro q hq
    rcases mem_append.1 hq with hq | hq
    · exact (ih q hq).trans (hrs _ hr).1.le
    · exact (mem_singleton.1 hq ▸ le_rfl)

theorem Chain.nodup (hrs : ConsistentWith T rs) : c.Nodup := by
  induction h with
  | nil => exact nodup_nil
  | @concat c r hchain hr ih =>
    refine nodup_append.2 ⟨ih, nodup_singleton _, ?_⟩
    rintro q hq _ hr' rfl
    obtain rfl := mem_singleton.1 hr'
    have hle := hchain.past_le hrs q hq
    have hlt := (hrs q hr).1
    omega

/-- All octets below the end of a chain have arrived. -/
theorem Chain.covers : Covers x rs := by
  induction h with
  | nil => exact fun k hk => absurd hk (Nat.not_lt_zero k)
  | @concat c r _ hr ih =>
    intro k hk
    by_cases hkr : k < r.beg
    · exact ih k hkr
    · exact ⟨r, hr, not_lt.1 hkr, hk⟩

end

/-! ### What the buffer keeps -/

variable {frag : Region}

/-- The main region grows by a fragment that follows it. -/
theorem Follows.extend (hrs : ConsistentWith T rs) (h : Follows T rs main (frag :: frags))
    (hbeg : main.past = frag.beg) :
    Follows T rs { main with past := frag.past, islast := main.islast || frag.islast } frags := by
  have hfrag : frag ∈ rs := h.sub mem_cons_self
  obtain ⟨hlt, hle, hlast⟩ := hrs _ hfrag
  obtain ⟨c, hc⟩ := h.chain
  refine ⟨h.beg_eq, ⟨c ++ [frag], .concat (hbeg ▸ hc) hfrag⟩, hle, ?_,
    fun q hq => h.sub (mem_cons_of_mem _ hq), ?_⟩
  · -- the old main region does not reach the end
    have hno : main.islast = false := by
      rw [← Bool.not_eq_true, h.islast_iff]
      omega
    simpa [hno] using hlast
  · intro q hq hqbeg
    dsimp only at hqbeg
    rcases mem_cons.1 (h.mem q hq (by omega)) with rfl | hmem
    · omega
    · exact hmem

theorem Follows.congr {frags' : List Region} (h : Follows T rs main frags)
    (hmem : ∀ q, q ∈ frags ↔ q ∈ frags') : Follows T rs main frags' where
  __ := h
  sub := fun q hq => h.sub ((hmem q).2 hq)
  mem := fun q hq hbeg => (hmem q).1 (h.mem q hq hbeg)

/-- A fragment that begins inside of the main region may be deleted. -/
theorem Follows.delete (h : Follows T rs main (frag :: frags)) (hlt : frag.beg < main.past) :
    Follows T rs main frags where
  __ := h
  sub := fun q hq => h.sub (mem_cons_of_mem _ hq)
  mem := by
    intro q hq hbeg
    rcases mem_cons.1 (h.mem q hq hbeg) with rfl | hmem
    · omega
    · exact hmem

theorem keeps_follows (hrs : ConsistentWith T rs) : Keeps (Follows T rs) where
  beg_lt h := by
    have hlt := (hrs _ (h.sub mem_cons_self)).1
    have hbeg := h.beg_eq
    omega
  congr := Follows.congr
  extend := Follows.extend hrs
  delete {main frag frags} h hin := by
    have hlt := (hrs frag (h.sub mem_cons_self)).1
    exact h.delete (by omega)

/-- A fragment arrives that is kept aside before the regions are merged. -/
theorem Follows.insert (h : Follows T rs main frags) (r : Region) :
    Follows T (rs ++ [r]) main (r :: frags) where
  beg_eq := h.beg_eq
  chain := by
    obtain ⟨c, hc⟩ := h.chain
    exact ⟨c, hc.mono (subset_append_left rs [r])⟩
  past_le := h.past_le
  islast_iff := h.islast_iff
  sub := by
    intro q hq
    rcases mem_cons.1 hq with rfl | hq
    · exact mem_append_right _ mem_cons_self
    · exact mem_append_left _ (h.sub hq)
  mem := by
    intro q hq hbeg
    rcases mem_append.1 hq with hq | hq
    · exact mem_cons_of_mem _ (h.mem q hq hbeg)
    · exact mem_singleton.1 hq ▸ mem_cons_self

theorem Follows.addFragment (hrs : ConsistentWith T (rs ++ [r]))
    (h : Follows T rs b.main b.fragments) (hnone : ∀ q ∈ b.fragments, b.main.past ≠ q.beg) :
    Follows T (rs ++ [r]) (b.merge r.beg r.past r.islast).main
        (b.merge r.beg r.past r.islast).fragments ∧
      ∀ q ∈ (b.merge r.beg r.past r.islast).fragments,
        (b.merge r.beg r.past r.islast).main.past ≠ q.beg := by
  have hlt := (hrs r (mem_append_right _ mem_cons_self)).1
  have hbeg := h.beg_eq
  have hinsert := h.insert r
  unfold merge
  split_ifs with hnext hprev hout
  · obtain ⟨hfollows, hstop⟩ :=
      (keeps_follows hrs).mergeLoop (Nat.lt_succ_self _) (hinsert.extend hrs hnext)
    exact ⟨hfollows, fun q hq => (hstop q hq).1⟩
  · omega
  · refine ⟨hinsert.congr fun q => ?_, fun q hq => ?_⟩
    · rw [mem_cons, mem_append, mem_singleton]
      exact or_comm
    · rcases mem_append.1 hq with hq | hq
      · exact hnone q hq
      · rw [mem_singleton] at hq
        subst hq
        exact hnext
  · exact ⟨hinsert.delete (by omega), hnone⟩

/-- After any fragments the main region is a chain of them, and no fragment begins at its end. -/
theorem follows_addAll (hT : 0 < T) (hrs : ConsistentWith T rs) :
    Follows T rs (addAll rs).main (addAll rs).fragments ∧
      ∀ q ∈ (addAll rs).fragments, (addAll rs).main.past ≠ q.beg := by
  induction rs using List.reverseRecOn with
  | nil =>
    refine ⟨⟨rfl, ⟨[], .nil⟩, Nat.zero_le _, ?_, nil_subset _, ?_⟩, ?_⟩
    · exact iff_of_false (by decide) hT.ne
    · exact fun q hq => absurd hq not_mem_nil
    · exact fun q hq => absurd hq not_mem_nil
  | append_singleton rs r ih =>
    obtain ⟨hfollows, hnone⟩ := ih (hrs.mono (subset_append_left rs [r]))
    rw [addAll, foldl_concat]
    exact hfollows.addFragment hrs hnone

/-- When chains continue up to the end of the datagram, the main region has reached it. -/
theorem Follows.past_eq (h : Follows T rs main frags) (hnone : ∀ q ∈ frags, main.past ≠ q.beg)
    (hrs : Continues T rs) : main.past = T := by
  by_contra hne
  obtain ⟨c, hc⟩ := h.chain
  have hle := h.past_le
  obtain ⟨r, hr, hbeg⟩ := hrs c _ hc (by omega)
  exact hnone r (h.mem r hr hbeg.ge) hbeg.symm

/-! ### A chain that does not continue -/

/-- The fragments of a chain arrive in order. -/
theorem addAll_chain (h : Chain rs c x) : (addAll c).main.beg = 0 ∧ (addAll c).main.past = x ∧
    (addAll c).fragments = [] := by
  induction h with
  | nil => exact ⟨rfl, rfl, rfl⟩
  | @concat c r _ _ ih =>
    obtain ⟨hbeg, hpast, hfrags⟩ := ih
    rw [addAll, foldl_concat]
    change (merge (addAll c) _ _ _).main.beg = 0 ∧
      (merge (addAll c) _ _ _).main.past = r.past ∧
      (merge (addAll c) _ _ _).fragments = []
    rw [merge, if_pos hpast, mergeFragments, hfrags]
    exact ⟨hbeg, rfl, rfl⟩

/-- Where no fragment begins, the main region stays. -/
theorem foldl_addFragment_stays {b : ReassemblyBuffer} {l : List Region}
    (hbeg : b.main.beg = 0) (hl : ∀ r ∈ l, 0 < r.past ∧ r.beg ≠ b.main.past) :
    (l.foldl (fun b r => (b.addFragment r.beg r.past r.islast).2) b).main = b.main := by
  induction l generalizing b with
  | nil => rfl
  | cons r l ih =>
    obtain ⟨hpos, hne⟩ := hl r mem_cons_self
    have hmain : (b.merge r.beg r.past r.islast).main = b.main := by
      rw [merge, if_neg hne.symm, if_neg (by omega)]
      split_ifs
      · rfl
      · rfl
    rw [foldl_cons]
    change (List.foldl _ (b.merge r.beg r.past r.islast) l).main = b.main
    rw [ih (by rw [hmain]; exact hbeg) fun q hq => ?_, hmain]
    rw [hmain]
    exact hl q (mem_cons_of_mem _ hq)

/-- If a chain does not continue, there is an order of the fragments in which the buffer does not
become complete. -/
theorem exists_perm_of_chain (hrs : ConsistentWith T rs) (hc : Chain rs c x)
    (hnone : ∀ r ∈ rs, r.beg ≠ x) : ∃ ss, ss.Perm rs ∧ (addAll ss).main.past = x := by
  obtain ⟨c', hperm, hsub⟩ := subperm_of_subset (hc.nodup hrs) hc.sub
  obtain ⟨l, hl'⟩ := hsub.exists_perm_append
  have hl : rs.Perm (c ++ l) := hl'.trans (hperm.append_right l)
  obtain ⟨hbeg, hpast, -⟩ := addAll_chain hc
  refine ⟨c ++ l, hl.symm, ?_⟩
  rw [addAll, foldl_append]
  have hstays := foldl_addFragment_stays (l := l) hbeg fun r hr => by
    have hmem : r ∈ rs := hl.mem_iff.2 (mem_append_right _ hr)
    rw [hpast]
    exact ⟨Nat.zero_lt_of_lt (hrs r hmem).1, hnone r hmem⟩
  exact (congrArg Region.past hstays).trans hpast

/-! ### What `addFragment` answers -/

theorem addFragment_fst (rs : List Region) (r : Region) :
    ((addAll rs).addFragment r.beg r.past r.islast).1 =
      ((addAll (rs ++ [r])).main.beg = 0 && (addAll (rs ++ [r])).main.islast) := by
  have hlast : addAll (rs ++ [r]) = (addAll rs).merge r.beg r.past r.islast := by
    rw [addAll, foldl_concat]
    rfl
  rw [hlast]
  rfl

theorem ConsistentWith.pos (h : ConsistentWith T (rs ++ [r])) : 0 < T := by
  obtain ⟨hlt, hle, -⟩ := h r (mem_append_right _ mem_cons_self)
  omega

/-- The answer is `true` if and only if the main region has reached the end of the datagram. -/
theorem addFragment_eq_true_iff (h : ConsistentWith T (rs ++ [r])) :
    ((addAll rs).addFragment r.beg r.past r.islast).1 = true ↔
      (addAll (rs ++ [r])).main.past = T := by
  obtain ⟨hfollows, -⟩ := follows_addAll h.pos h
  rw [addFragment_fst, Bool.and_eq_true, decide_eq_true_eq, and_iff_right hfollows.beg_eq]
  exact hfollows.islast_iff

/-- `addFragment` does not return `true` before the union of the ranges is `[0, T)`.  It returns
`true`, in whatever order the fragments have arrived, if and only if another fragment begins wherever
a chain of them ends before `T`. -/
theorem addFragment_overlapping (h : ConsistentWith T (rs ++ [r])) :
    (((addAll rs).addFragment r.beg r.past r.islast).1 = true → Covers T (rs ++ [r])) ∧
    ((∀ ss s, (ss ++ [s]).Perm (rs ++ [r]) →
        ((addAll ss).addFragment s.beg s.past s.islast).1 = true) ↔
      Continues T (rs ++ [r])) := by
  refine ⟨fun htrue => ?_, fun hall => ?_, fun hcontinues ss s hperm => ?_⟩
  · obtain ⟨⟨-, ⟨c, hc⟩, -⟩, -⟩ := follows_addAll h.pos h
    rw [(addFragment_eq_true_iff h).1 htrue] at hc
    exact hc.covers
  · intro c x hc hx
    by_contra hnone
    push Not at hnone
    obtain ⟨l, hperm, hpast⟩ := exists_perm_of_chain h hc hnone
    -- the order ends with some fragment
    obtain rfl | ⟨ss, s, rfl⟩ := eq_nil_or_concat' l
    · exact absurd hperm.length_eq (by simp)
    · have hss := h.mono hperm.subset
      have hT := (addFragment_eq_true_iff hss).1 (hall ss s hperm)
      omega
  · have hss := h.mono hperm.subset
    obtain ⟨hfollows, hnone⟩ := follows_addAll hss.pos hss
    refine (addFragment_eq_true_iff hss).2 (hfollows.past_eq hnone fun c x hc hx => ?_)
    obtain ⟨q, hq, hbeg⟩ := hcontinues c x (hc.mono hperm.subset) hx
    exact ⟨q, hperm.symm.subset hq, hbeg⟩

/-- A fragment of another copy lies within the first one. -/
theorem addFragment_overlapping_inside :
    ((addAll [⟨8, 16, false⟩, ⟨0, 16, false⟩]).addFragment 16 24 true).1 = true ∧
      Covers 24 [⟨8, 16, false⟩, ⟨0, 16, false⟩, ⟨16, 24, true⟩] := by
  have htrue : ((addAll [⟨8, 16, false⟩, ⟨0, 16, false⟩]).addFragment 16 24 true).1 = true := by
    decide
  have hconsistent : ConsistentWith 24
      ([⟨8, 16, false⟩, ⟨0, 16, false⟩] ++ [⟨16, 24, true⟩]) := by
    decide
  exact ⟨htrue, (addFragment_overlapping hconsistent).1 htrue⟩

/-- The last fragment of another copy begins inside of the first one, and is ignored. -/
theorem not_addFragment_overlapping :
    ConsistentWith 24 [⟨0, 16, false⟩, ⟨8, 24, true⟩] ∧
      Covers 24 [⟨0, 16, false⟩, ⟨8, 24, true⟩] ∧
      ((addAll [⟨0, 16, false⟩]).addFragment 8 24 true).1 = false := by
  refine ⟨?_, ?_, ?_⟩
  · decide
  · decide
  · decide

end Overlaps

end ReassemblyBuffer

end Hiwis
