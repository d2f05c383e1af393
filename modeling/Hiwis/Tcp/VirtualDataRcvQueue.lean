import Hiwis.Lib.Ranges
import Hiwis.Tcp.Segment

/-!
# The receive queue

`TCPVirtualDataRcvQueue` keeps the octets that have arrived and are not handed up yet as a list
of regions.  The queue is written once over the class `Region` of the virtual member functions of
its regions; `VirtualRegion` is the region of the queue that counts octets only.

A region type is described by a `RegionSpec`: what it means for a region to stand for the octets
`[b, e)`, and that merging and splitting respect this.  Over it, `RcvInv q H nxt C` says that the
queue `q` has handed up everything below position `H`, stores the octets of `C`, and waits for
position `nxt`.

* `mergeLoop_spec` : the walk of `merge` over the region list adds one range to the cover;
* `insertBytesFromSegment_spec`, `extractTo_spec` : the operations on `RcvInv`.
-/

namespace Hiwis

open List Set

/-- The virtual member functions of `TCPVirtualDataRcvQueue::Region`. -/
class Region (ρ : Type) where
  getBegin : ρ → SeqNo
  getEnd : ρ → SeqNo
  /-- Merge the second region into the first; `none` when the function returns `false`. -/
  merge : ρ → ρ → Option ρ
  /-- Split into the part before the sequence number and the part from it on. -/
  split : ρ → SeqNo → Except Fault (ρ × ρ)
  createRegionFromSegment : TCPSegment → Except Fault ρ

/-- `Region::CompareStatus`. -/
inductive CompareStatus
  | before | beforeTouch | overlap | afterTouch | after
  deriving DecidableEq

/-- A receive queue with regions of type `ρ`. -/
structure TCPVirtualDataRcvQueue (ρ : Type) where
  rcvNxt : SeqNo
  regionList : List ρ
  deriving DecidableEq

namespace Region

variable {ρ : Type} [Region ρ]

/-- `Region::compare`. -/
protected def compare (self other : ρ) : CompareStatus :=
  if getEnd self = getBegin other then .beforeTouch
  else if getBegin self = getEnd other then .afterTouch
  else if seqLess (getEnd self) (getBegin other) then .before
  else if seqLess (getEnd other) (getBegin self) then .after
  else .overlap

/-- `Region::getLength`. -/
def getLength (self : ρ) : ℕ := (getEnd self - getBegin self).toNat

end Region

namespace TCPVirtualDataRcvQueue

open Region

variable {ρ : Type} [Region ρ]

/-- `init`. -/
def init (startSeq : SeqNo) : TCPVirtualDataRcvQueue ρ := ⟨startSeq, []⟩

/-- The walk of `merge` from the back of the region list: `rest` are the regions still to be
visited, last one first, `done` the regions that have been passed. -/
def mergeLoop : List ρ → ρ → List ρ → Except Fault (List ρ)
  | [], seg, done => .ok (seg :: done)
  | i :: rest, seg, done =>
    match Region.compare i seg with
    | .before => .ok ((i :: rest).reverse ++ seg :: done)
    | .after => mergeLoop rest seg (i :: done)
    | _ =>
      match Region.merge seg i with
      | some seg => mergeLoop rest seg done
      | none => .error .mergeFailed

variable (q : TCPVirtualDataRcvQueue ρ)

/-- `merge`: insert the region of a new segment into the region list. -/
def merge (seg : ρ) : Except Fault (TCPVirtualDataRcvQueue ρ) := do
  let regionList ← mergeLoop q.regionList.reverse seg []
  pure { q with regionList }

/-- The range check at the head of `insertBytesFromSegment`. -/
def outOfRange (region : ρ) : Bool :=
  match q.regionList.head?, q.regionList.getLast? with
  | some front, some back =>
    let ob := getBegin front
    let oe := getEnd back
    let nb := getBegin region
    let ne := getEnd region
    let minb := seqMin ob nb
    let maxe := seqMax oe ne
    seqGE minb oe || seqGE minb ne || seqGE ob maxe || seqGE nb maxe
  | _, _ => false

/-- The update of `rcv_nxt` at the end of `insertBytesFromSegment`. -/
def advance : TCPVirtualDataRcvQueue ρ :=
  match q.regionList with
  | front :: _ => if seqGE q.rcvNxt (getBegin front) then { q with rcvNxt := getEnd front } else q
  | [] => q

/-- `insertBytesFromSegment`: returns the new `rcv_nxt`. -/
def insertBytesFromSegment (tcpseg : TCPSegment) :
    Except Fault (SeqNo × TCPVirtualDataRcvQueue ρ) := do
  let region ← createRegionFromSegment tcpseg
  if q.outOfRange region then throw .rcvQueueRange
  let q ← q.merge region
  let q := q.advance
  pure (q.rcvNxt, q)

/-- `extractTo`: take the octets of the first region that lie below `seq`. -/
def extractTo (seq : SeqNo) :
    Except Fault (Option ρ × TCPVirtualDataRcvQueue ρ) := do
  if ¬ seqLE seq q.rcvNxt then throw .extractBeyond
  match q.regionList with
  | [] => pure (none, q)
  | reg :: rest =>
    if seqLE seq (getBegin reg) then pure (none, q)
    else if seqGE seq (getEnd reg) then pure (some reg, { q with regionList := rest })
    else do
      let (front, reg) ← split reg seq
      pure (some front, { q with regionList := reg :: rest })

/-- `getAmountOfBufferedBytes`. -/
def getAmountOfBufferedBytes : ℕ :=
  q.regionList.foldl (fun bytes i => (bytes + getLength i) % 2 ^ 32) 0

/-- `getAmountOfFreeBytes`. -/
def getAmountOfFreeBytes (maxRcvBuffer : ℕ) : ℕ := maxRcvBuffer - q.getAmountOfBufferedBytes

/-- `getFirstSeqNo`. -/
def getFirstSeqNo : SeqNo :=
  match q.regionList with
  | [] => q.rcvNxt
  | front :: _ => seqMin (getBegin front) q.rcvNxt

/-- `getLE`: the left edge of the region that contains `fromSeqNum`. -/
def getLE (fromSeqNum : SeqNo) : SeqNo :=
  match q.regionList.find? fun i =>
    seqLE (getBegin i) fromSeqNum && seqLess fromSeqNum (getEnd i) with
  | some i => getBegin i
  | none => fromSeqNum

/-- `getRE`: the right edge of the region that ends in or after `toSeqNum`. -/
def getRE (toSeqNum : SeqNo) : SeqNo :=
  match q.regionList.find? fun i => seqLess (getBegin i) toSeqNum && seqLE toSeqNum (getEnd i) with
  | some i => getEnd i
  | none => toSeqNum

end TCPVirtualDataRcvQueue

/-! ### Regions and ranges of positions -/

/-- What the proofs use of a region type. -/
structure RegionSpec (ρ : Type) [Region ρ] where
  /-- The region holds the octets at the positions `[b, e)`. -/
  Rep : ρ → ℤ → ℤ → Prop
  /-- A region that ends in `e` may be merged with a stored region `[b', e')`. -/
  Fits : ℤ → ℤ → ℤ → Prop
  getBegin_eq : ∀ {r b e}, Rep r b e → Region.getBegin r = pos b
  getEnd_eq : ∀ {r b e}, Rep r b e → Region.getEnd r = pos e
  fits_of_le : ∀ {e b' e'}, e' ≤ e → Fits e b' e'
  merge_rep : ∀ {r r' b e b' e'}, Rep r b e → Rep r' b' e' → b < e → b' < e' → b ≤ e' → b' ≤ e →
    max e e' - min b b' ≤ 2 ^ 31 → Fits e b' e' →
    ∃ m, Region.merge r r' = some m ∧ Rep m (min b b') (max e e')
  split_rep : ∀ {r b e m}, Rep r b e → b < m → m < e → e - b ≤ 2 ^ 31 →
    ∃ r₁ r₂, Region.split r (pos m) = .ok (r₁, r₂) ∧ Rep r₁ b m ∧ Rep r₂ m e

namespace RegionSpec

open Region

variable {ρ : Type} [Region ρ] (S : RegionSpec ρ)

/-- The list of regions holds the octets of the list of ranges. -/
def Reps (rs : List ρ) (L : List (ℤ × ℤ)) : Prop := List.Forall₂ (fun r p => S.Rep r p.1 p.2) rs L

variable {S}

section Compare

variable {r r' : ρ} {b e b' e' : ℤ} (h : S.Rep r b e) (h' : S.Rep r' b' e') (hb : b < e)
  (hb' : b' < e') (hs : e - b' ≤ 2 ^ 31) (hs' : e' - b ≤ 2 ^ 31)
include h h' hb hb' hs hs'

theorem compare_eq : Region.compare r r' =
    if e = b' then .beforeTouch else if b = e' then .afterTouch else if e < b' then .before
    else if e' < b then .after else .overlap := by
  simp only [Region.compare, S.getBegin_eq h, S.getEnd_eq h, S.getBegin_eq h', S.getEnd_eq h',
    pos_inj (p := e) (q := b') (by omega) (by omega),
    pos_inj (p := b) (q := e') (by omega) (by omega),
    seqLess_pos (p := e) (q := b') (by omega) (by omega),
    seqLess_pos (p := e') (q := b) (by omega) (by omega), decide_eq_true_eq]

theorem compare_eq_before_iff : Region.compare r r' = .before ↔ e < b' := by
  rw [compare_eq h h' hb hb' hs hs']
  split_ifs <;> simp <;> omega

theorem compare_eq_after_iff : Region.compare r r' = .after ↔ e' < b := by
  rw [compare_eq h h' hb hb' hs hs']
  split_ifs <;> simp <;> omega

end Compare

theorem Reps.append {rs rs' : List ρ} {L L' : List (ℤ × ℤ)} (h : S.Reps rs L)
    (h' : S.Reps rs' L') : S.Reps (rs ++ rs') (L ++ L') :=
  rel_append h h'

variable {L : List (ℤ × ℤ)} {rs : List ρ}

theorem Reps.reverse (h : S.Reps rs L) :
    S.Reps rs.reverse L.reverse :=
  rel_reverse h

theorem Reps.exists_of_mem (h : S.Reps rs L) {p : ℤ × ℤ} (hp : p ∈ L) :
    ∃ r ∈ rs, S.Rep r p.1 p.2 := by
  induction h with
  | nil => cases hp
  | cons hr _ ih =>
    rcases mem_cons.1 hp with rfl | hp
    · exact ⟨_, mem_cons_self, hr⟩
    · obtain ⟨r, hr, hrep⟩ := ih hp
      exact ⟨r, mem_cons_of_mem _ hr, hrep⟩

/-- The first and the last region of a queue bound the octets it stores. -/
theorem Reps.exists_ends (h : S.Reps rs L) (hL : Ranges.Sep L) (hne : rs ≠ []) :
    ∃ front back ob oe, rs.head? = some front ∧ rs.getLast? = some back ∧
      getBegin front = pos ob ∧ getEnd back = pos oe ∧ ob ∈ Ranges.cover L ∧
      oe - 1 ∈ Ranges.cover L ∧ ∀ x ∈ Ranges.cover L, ob ≤ x ∧ x < oe := by
  have hrev := h.reverse
  cases h with
  | nil => exact absurd rfl hne
  | @cons front p rs' L' hfront hrest =>
    obtain ⟨back, rs'', hback⟩ := exists_cons_of_ne_nil
      (l := (front :: rs').reverse) (by simp)
    rw [hback] at hrev
    generalize hL'' : (p :: L').reverse = M at hrev
    cases hrev with
    | @cons _ p' _ L'' hb _ =>
      have hsplit : p :: L' = L''.reverse ++ [p'] := by
        rw [← reverse_reverse (p :: L'), hL'', reverse_cons]
      have hp := hL.pos mem_cons_self
      have hp' := hL.pos (r := p') (by rw [hsplit]; simp)
      refine ⟨front, back, p.1, p'.2, rfl, ?_, S.getBegin_eq hfront, S.getEnd_eq hb,
        ⟨p, mem_cons_self, le_rfl, hp⟩, ⟨p', by rw [hsplit]; simp, by omega, by omega⟩,
        fun x hx => ⟨hL.head_le hx, ?_⟩⟩
      · rw [← List.head?_reverse, hback]; rfl
      · rw [hsplit] at hL hx
        exact hL.lt_last hx

end RegionSpec

/-! ### Inserting a range -/

namespace TCPVirtualDataRcvQueue

open Region RegionSpec Ranges

variable {ρ : Type} [Region ρ] {S : RegionSpec ρ}

theorem mergeLoop_cons (i seg : ρ) (rest done : List ρ) :
    mergeLoop (i :: rest) seg done =
      if Region.compare i seg = .before then .ok ((i :: rest).reverse ++ seg :: done)
      else if Region.compare i seg = .after then mergeLoop rest seg (i :: done)
      else match Region.merge seg i with
        | some seg => mergeLoop rest seg done
        | none => .error .mergeFailed := by
  rw [mergeLoop]
  cases Region.compare i seg <;> rfl

/-- The walk over the region list ends without a failed merge, and the new list covers one range
more.  `Lr` are the ranges still to be visited, last one first, and `Ld` those that are passed. -/
theorem mergeLoop_spec {w : ℤ} {rest : List ρ} {Lr : List (ℤ × ℤ)} (hrest : S.Reps rest Lr) :
    ∀ {done : List ρ} {Ld : List (ℤ × ℤ)} {seg : ρ} {b e : ℤ}, S.Reps done Ld → S.Rep seg b e →
      b < e → Sep (Lr.reverse ++ Ld) → (∀ p ∈ Ld, e < p.1) → w ≤ b → e ≤ w + 2 ^ 31 →
      (∀ p ∈ Lr, w ≤ p.1 ∧ p.2 ≤ w + 2 ^ 31) → (∀ p ∈ Lr, S.Fits e p.1 p.2) →
      ∃ out L, mergeLoop rest seg done = .ok out ∧ S.Reps out L ∧ Sep L ∧
        cover L = cover Lr ∪ Set.Ico b e ∪ cover Ld := by
  induction hrest with
  | nil =>
    intro done Ld seg b e hdone hseg hbe hsep hd _ _ _ _
    refine ⟨seg :: done, (b, e) :: Ld, rfl, .cons hseg hdone, Sep.cons_iff.2 ⟨hbe, hd, ?_⟩, ?_⟩
    · simpa using hsep
    · simp [cover_cons]
  | @cons i p rest Lr hi hrest ih =>
    obtain ⟨b', e'⟩ := p
    dsimp only at hi
    intro done Ld seg b e hdone hseg hbe hsep hd hwb hwe hw hfit
    have hsep' := hsep
    simp only [reverse_cons, append_assoc, singleton_append, Sep.append_iff,
      Sep.cons_iff, mem_cons, mem_reverse, forall_eq_or_imp] at hsep'
    obtain ⟨hsr, ⟨hbe', hdi, hsd⟩, hri⟩ := hsep'
    simp only [mem_cons, forall_eq_or_imp] at hw hfit
    obtain ⟨⟨hw1, hw2⟩, hw⟩ := hw
    obtain ⟨hfi, hfit⟩ := hfit
    have hbef := compare_eq_before_iff hi hseg hbe' hbe (by omega) (by omega)
    have haft := compare_eq_after_iff hi hseg hbe' hbe (by omega) (by omega)
    have merge_case : b ≤ e' → b' ≤ e →
        ∃ m, Region.merge seg i = some m ∧ ∃ out L, mergeLoop rest m done = .ok out ∧
          S.Reps out L ∧ Sep L ∧
          cover L = cover ((b', e') :: Lr) ∪ Set.Ico b e ∪ cover Ld := by
      intro h1 h2
      obtain ⟨m, hm, hmrep⟩ := S.merge_rep hseg hi hbe hbe' h1 h2 (by omega) hfi
      refine ⟨m, hm, ?_⟩
      obtain ⟨out, L, hout, hreps, hsepL, hcov⟩ := ih hdone hmrep (by omega)
        (Sep.append_iff.2 ⟨hsr, hsd, fun r hr s hs => (hri r (by simpa using hr)).2 s hs⟩)
        (fun p hp => max_lt (hd p hp) (hdi p hp)) (by omega) (by omega) hw
        (fun p hp => S.fits_of_le (by have := (hri p hp).1; omega))
      refine ⟨out, L, hout, hreps, hsepL, ?_⟩
      rw [hcov, cover_cons, ← Set.Ico_union_Ico' h2 h1]
      ext x; simp only [mem_union]; tauto
    rw [mergeLoop_cons]
    simp only [hbef, haft]
    split_ifs with h1 h2
    · -- the regions still to be visited lie before the segment
      refine ⟨_, ((b', e') :: Lr).reverse ++ (b, e) :: Ld, rfl,
        (Reps.reverse (.cons hi hrest)).append (.cons hseg hdone), ?_, ?_⟩
      · simp only [reverse_cons, append_assoc, singleton_append, Sep.append_iff,
          Sep.cons_iff, mem_cons, mem_reverse, forall_eq_or_imp]
        exact ⟨hsr, ⟨hbe', ⟨h1, hdi⟩, hbe, hd, hsd⟩,
          fun r hr => ⟨(hri r hr).1, by have := (hri r hr).1; omega, (hri r hr).2⟩⟩
      · rw [cover_append, cover_reverse, cover_cons (b, e), union_assoc]
    · obtain ⟨out, L, hout, hreps, hsepL, hcov⟩ := ih (.cons hi hdone) hseg hbe
        (by simpa using hsep) (by simpa [h2] using hd) hwb hwe hw hfit
      refine ⟨out, L, hout, hreps, hsepL, ?_⟩
      rw [hcov, cover_cons, cover_cons]
      ext x; simp only [mem_union]; tauto
    · obtain ⟨m, hm, out, L, hout, hL⟩ := merge_case (by omega) (by omega)
      rw [hm]
      exact ⟨out, L, hout, hL⟩

/-- `merge` within a window of half of the sequence space adds the range of the segment to the
cover. -/
theorem merge_reps {q : TCPVirtualDataRcvQueue ρ} {L : List (ℤ × ℤ)} {region : ρ} {nb ne w : ℤ}
    (hL : S.Reps q.regionList L) (hsep : Sep L) (hr : S.Rep region nb ne) (hlt : nb < ne)
    (hw : cover L ∪ Set.Ico nb ne ⊆ Set.Ico w (w + 2 ^ 31))
    (hfit : ∀ p ∈ L, S.Fits ne p.1 p.2) :
    ∃ rs L', q.merge region = .ok { q with regionList := rs } ∧ S.Reps rs L' ∧ Sep L' ∧
      cover L' = cover L ∪ Set.Ico nb ne := by
  have hwL : ∀ p ∈ L, w ≤ p.1 ∧ p.2 ≤ w + 2 ^ 31 :=
    fun p hp => hsep.bounds (subset_union_left.trans hw) hp
  have hnb := hw (.inr ⟨le_rfl, hlt⟩)
  have hne := hw (.inr (show ne - 1 ∈ Set.Ico nb ne from ⟨by omega, by omega⟩))
  obtain ⟨out, L', hout, hreps, hsep', hcov⟩ := mergeLoop_spec (w := w) (Reps.reverse hL)
    (List.Forall₂.nil : S.Reps [] []) hr hlt (by simpa using hsep) (by simp) hnb.1
    (by have := hne.2; omega) (by simpa using hwL) (by simpa using hfit)
  refine ⟨out, L', ?_, hreps, hsep', by simpa using hcov⟩
  rw [TCPVirtualDataRcvQueue.merge, hout]
  rfl

end TCPVirtualDataRcvQueue

/-- The queue has handed up everything below position `H`, stores the octets at the positions `C`
and waits for position `nxt`. -/
structure RcvInv {ρ : Type} [Region ρ] (S : RegionSpec ρ) (q : TCPVirtualDataRcvQueue ρ)
    (H nxt : ℤ) (C : Set ℤ) : Prop where
  rcvNxt : q.rcvNxt = pos nxt
  regions : ∃ L, S.Reps q.regionList L ∧ Ranges.Sep L ∧ Ranges.cover L = C
  le : H ≤ nxt
  bounds : C ⊆ Set.Ico H (nxt + 2 ^ 31)
  span : ∀ x ∈ C, ∀ y ∈ C, y - x < 2 ^ 31
  full : Set.Ico H nxt ⊆ C
  notMem : nxt ∉ C

namespace RcvInv

open Region RegionSpec Ranges TCPVirtualDataRcvQueue

variable {ρ : Type} [Region ρ] {S : RegionSpec ρ} {q : TCPVirtualDataRcvQueue ρ} {H nxt : ℤ}
  {C : Set ℤ}

/-- A freshly initialised queue. -/
theorem init (p : ℤ) : RcvInv S (TCPVirtualDataRcvQueue.init (pos p)) p p ∅ where
  rcvNxt := rfl
  regions := ⟨[], .nil, Sep.nil, cover_nil⟩
  le := le_rfl
  bounds := empty_subset _
  span := by simp
  full := by simp
  notMem := by simp

theorem rcvNxt_sub_le (h : RcvInv S q H nxt C) : nxt - H ≤ 2 ^ 31 := by
  rcases h.le.eq_or_lt with heq | hlt
  · omega
  · have := h.span H (h.full ⟨le_rfl, hlt⟩) (nxt - 1) (h.full ⟨by omega, by omega⟩)
    omega

variable {region : ρ} {nb ne : ℤ}

/-- A segment that passes the range check leaves less than half of the sequence space between any
two stored octets. -/
theorem span_of_inRange (h : RcvInv S q H nxt C) (hr : S.Rep region nb ne) (hlt : nb < ne)
    (hH : H ≤ nb) (hne : ne ≤ nxt + 2 ^ 31) (hq : q.outOfRange region = false) :
    ∀ x ∈ C ∪ Set.Ico nb ne, ∀ y ∈ C ∪ Set.Ico nb ne, y - x < 2 ^ 31 := by
  obtain ⟨L, hL, hsep, rfl⟩ := h.regions
  by_cases hnil : q.regionList = []
  · rw [hnil] at hL
    cases hL
    have hle := h.le
    have hfull : nxt ≤ H := by simpa [Set.Ico_eq_empty_iff] using h.full
    simp only [cover_nil, empty_union, mem_Ico]
    intro x hx y hy
    omega
  · obtain ⟨front, back, ob, oe, hf, hb, hob, hoe, hobm, hoem, hall⟩ :=
      Reps.exists_ends hL hsep hnil
    have h0 := h.le
    have hobH := (h.bounds hobm).1
    have hoeN := (h.bounds hoem).2
    have hspan := h.span _ hobm _ hoem
    have hoe' := (hall _ hoem).1
    have hcase : H = nxt ∨ ob = H ∧ nxt ≤ oe := by
      rcases h.le.eq_or_lt with heq | hlt'
      · exact .inl heq
      · have hob' := (hall H (h.full ⟨le_rfl, hlt'⟩)).1
        have hoe' := (hall (nxt - 1) (h.full ⟨by omega, by omega⟩)).2
        exact .inr ⟨by omega, by omega⟩
    simp only [outOfRange, hf, hb, hob, hoe, S.getBegin_eq hr, S.getEnd_eq hr, Bool.or_eq_false_iff]
      at hq
    obtain ⟨⟨⟨hq1, -⟩, hq3⟩, hq4⟩ := hq
    rw [seqMax_pos (by omega) (by omega)] at hq3 hq4
    rw [seqGE_pos_of_lt (by omega) (by omega)] at hq3 hq4
    simp only [decide_eq_false_iff_not] at hq3 hq4
    have hlo : ∀ x ∈ cover L ∪ Set.Ico nb ne, ob ≤ x ∨ nb ≤ x := by
      rintro x (hx | ⟨hx, -⟩)
      · exact .inl (hall x hx).1
      · exact .inr hx
    have hhi : ∀ y ∈ cover L ∪ Set.Ico nb ne, y < max oe ne := by
      rintro y (hy | ⟨-, hy⟩)
      · exact lt_max_of_lt_left (hall y hy).2
      · exact lt_max_of_lt_right hy
    intro x hx y hy
    have hx' := hlo x hx
    have hy' := hhi y hy
    omega

/-- `merge` adds the octets of the segment to the queue. -/
theorem merge_spec (h : RcvInv S q H nxt C) (hr : S.Rep region nb ne) (hlt : nb < ne)
    (hspan : ∀ x ∈ C ∪ Set.Ico nb ne, ∀ y ∈ C ∪ Set.Ico nb ne, y - x < 2 ^ 31)
    (hfit : ∀ L, S.Reps q.regionList L → Sep L → cover L = C → ∀ p ∈ L, S.Fits ne p.1 p.2) :
    ∃ rs L, q.merge region = .ok { q with regionList := rs } ∧ S.Reps rs L ∧ Sep L ∧
      cover L = C ∪ Set.Ico nb ne := by
  obtain ⟨L, hL, hsep, rfl⟩ := h.regions
  have hbdd : ∀ z ∈ cover L ∪ Set.Ico nb ne, min H nb ≤ z := by
    rintro z (hz | hz)
    · exact min_le_of_left_le (h.bounds hz).1
    · exact min_le_of_right_le hz.1
  obtain ⟨w, hw, hmin⟩ := Int.exists_least_of_bdd (P := (· ∈ cover L ∪ Set.Ico nb ne))
    ⟨min H nb, hbdd⟩ ⟨nb, .inr ⟨le_rfl, hlt⟩⟩
  exact merge_reps hL hsep hr hlt (w := w)
    (fun x hx => ⟨hmin x hx, by have := hspan w hw x hx; omega⟩) (hfit L hL hsep rfl)

/-- `rcv_nxt` moves to the first octet that is missing. -/
theorem advance_spec {L : List (ℤ × ℤ)} (hnxt : q.rcvNxt = pos nxt) (hL : S.Reps q.regionList L)
    (hsep : Sep L) (hle : H ≤ nxt) (hb : cover L ⊆ Set.Ico H (nxt + 2 ^ 31))
    (hspan : ∀ x ∈ cover L, ∀ y ∈ cover L, y - x < 2 ^ 31) (hfull : Set.Ico H nxt ⊆ cover L) :
    ∃ nxt', nxt ≤ nxt' ∧ RcvInv S q.advance H nxt' (cover L) := by
  cases L with
  | nil =>
    cases hrs : q.regionList with
    | nil =>
      have hadv : q.advance = q := by rw [advance, hrs]
      rw [hadv]
      exact ⟨nxt, le_rfl, hnxt, ⟨[], hL, hsep, rfl⟩, hle, hb, hspan, hfull, by simp⟩
    | cons => rw [hrs] at hL; cases hL
  | cons p L =>
    obtain ⟨fb, fe⟩ := p
    cases hrs : q.regionList with
    | nil => rw [hrs] at hL; cases hL
    | cons front rs =>
      have hL' := hL
      rw [hrs] at hL'
      cases hL' with
      | cons hf _ =>
        have hpos : fb < fe := hsep.pos mem_cons_self
        have hfbm : fb ∈ cover ((fb, fe) :: L) := Sep.head_subset ⟨le_rfl, hpos⟩
        have hfem : fe - 1 ∈ cover ((fb, fe) :: L) :=
          Sep.head_subset ⟨show fb ≤ fe - 1 by omega, show fe - 1 < fe by omega⟩
        have hfb := hb hfbm
        have hspan' := hspan _ hfbm _ hfem
        have hadv : q.advance = if seqGE (pos nxt) (pos fb) then { q with rcvNxt := pos fe }
            else q := by
          rw [advance, hrs, ← hnxt, ← S.getBegin_eq hf, ← S.getEnd_eq hf]
        by_cases hlt : nxt < fb
        · rw [seqGE_pos (by omega) (by have := hfb.2; omega), if_neg (by simpa using hlt)] at hadv
          refine ⟨nxt, le_rfl, by rw [hadv]; exact hnxt, ⟨_, by rw [hadv]; exact hL, hsep, rfl⟩,
            hle, hb, hspan, hfull, fun hmem => ?_⟩
          have := hsep.head_le hmem
          omega
        · have hH : fb = H := by
            rcases hle.eq_or_lt with heq | hlt'
            · have := hfb.1; omega
            · have := hsep.head_le (hfull ⟨le_rfl, hlt'⟩)
              have := hfb.1
              omega
          have hnfe : nxt ≤ fe := by
            by_contra hcon
            exact hsep.head_end_notMem (hfull ⟨show H ≤ fe by omega, show fe < nxt by omega⟩)
          -- at the very distance of half the space `rcv_nxt` stays, where it already is the end
          have hadv' : q.advance = { q with rcvNxt := pos fe } := by
            rw [hadv]
            split_ifs with hge
            · rfl
            · by_cases hd : nxt - fb < 2 ^ 31
              · rw [seqGE_pos hd (by omega)] at hge
                simp only [decide_eq_true_eq] at hge
                omega
              · rw [show fe = nxt by omega, ← hnxt]
          refine ⟨fe, hnfe, by rw [hadv'], ⟨_, by rw [hadv']; exact hL, hsep, rfl⟩, by omega,
            fun x hx => ⟨(hb hx).1, by have := (hb hx).2; omega⟩, hspan, ?_, hsep.head_end_notMem⟩
          rw [← hH]
          exact Sep.head_subset (r := (fb, fe))

/-- `insertBytesFromSegment` on the octets of `[a, e)`, none of which has been handed up: unless
the range check fails, the queue then stores them too. -/
theorem insertBytesFromSegment_spec (h : RcvInv S q H nxt C) {seg : TCPSegment} {a e : ℤ}
    (hseg : createRegionFromSegment seg = .ok region) (hr : S.Rep region a e) (hlt : a < e)
    (hH : H ≤ a) (he : e ≤ nxt + 2 ^ 31)
    (hfit : ∀ L, S.Reps q.regionList L → Sep L → cover L = C → ∀ p ∈ L, S.Fits e p.1 p.2) :
    q.insertBytesFromSegment seg = .error .rcvQueueRange ∨
      ∃ q' nxt', q.insertBytesFromSegment seg = .ok (pos nxt', q') ∧ nxt ≤ nxt' ∧
        RcvInv S q' H nxt' (C ∪ Set.Ico a e) := by
  by_cases hq : q.outOfRange region
  · left
    simp [insertBytesFromSegment, hseg, hq]
  · right
    rw [Bool.not_eq_true] at hq
    have hspan := h.span_of_inRange hr hlt hH he hq
    obtain ⟨rs, L, hmerge, hL, hsep, hcov⟩ := h.merge_spec hr hlt hspan hfit
    rw [← hcov] at hspan ⊢
    have hb : cover L ⊆ Set.Ico H (nxt + 2 ^ 31) := by
      rw [hcov]
      exact union_subset h.bounds fun x hx => ⟨hH.trans hx.1, hx.2.trans_le he⟩
    obtain ⟨nxt', hle, hinv⟩ := advance_spec (q := { q with regionList := rs }) h.rcvNxt hL hsep
      h.le hb hspan (hcov ▸ h.full.trans subset_union_left)
    refine ⟨_, nxt', ?_, hle, hinv⟩
    simp [insertBytesFromSegment, hseg, hq, hmerge, hinv.rcvNxt]

theorem seqLE_of_extractTo {seq : SeqNo} {x : Option ρ × TCPVirtualDataRcvQueue ρ}
    (hx : q.extractTo seq = .ok x) : seqLE seq q.rcvNxt = true := by
  by_contra hcon
  simp [extractTo, hcon] at hx

/-- `extractTo` of a sequence number up to `rcv_nxt`: either there is nothing to hand up, or the
octets from the first one on are. -/
theorem extractTo_spec (h : RcvInv S q H nxt C) {s : ℤ} (hs : s ≤ nxt) (hs' : nxt - s < 2 ^ 31)
    (hC : ∀ x ∈ C, (∀ y ∈ C, x ≤ y) → x - s < 2 ^ 31) :
    (s ≤ H ∧ q.extractTo (pos s) = .ok (none, q)) ∨
      ∃ r q', H < s ∧ q.extractTo (pos s) = .ok (some r, q') ∧ S.Rep r H s ∧
        RcvInv S q' s nxt (C \ Set.Ico H s) := by
  obtain ⟨L, hL, hsep, rfl⟩ := h.regions
  have hasrt : seqLE (pos s) q.rcvNxt = true := by
    rw [h.rcvNxt, seqLE_pos hs' (by omega)]
    simpa using hs
  cases hrs : q.regionList with
  | nil =>
    rw [hrs] at hL
    cases hL
    have hfull : nxt ≤ H := by simpa [Set.Ico_eq_empty_iff] using h.full
    exact .inl ⟨by omega, by simp [extractTo, hasrt, hrs]⟩
  | cons reg rest =>
    rw [hrs] at hL
    cases hL with
    | @cons _ p _ L hf hrest =>
      obtain ⟨fb, fe⟩ := p
      dsimp only at hf
      have hpos : fb < fe := hsep.pos mem_cons_self
      have hfbm : fb ∈ cover ((fb, fe) :: L) := Sep.head_subset ⟨le_rfl, hpos⟩
      have hfem : fe - 1 ∈ cover ((fb, fe) :: L) :=
        Sep.head_subset ⟨show fb ≤ fe - 1 by omega, show fe - 1 < fe by omega⟩
      have hspan := h.span _ hfbm _ hfem
      have hfbs := hC fb hfbm fun y hy => hsep.head_le hy
      have hfbH := (h.bounds hfbm).1
      have hcase : H = nxt ∧ nxt < fb ∨ fb = H ∧ nxt = fe := by
        rcases h.le.eq_or_lt with heq | hlt
        · have : nxt ≠ fb := fun heq' => h.notMem (heq' ▸ hfbm)
          exact .inl ⟨heq, by omega⟩
        · have hfb := hsep.head_le (h.full ⟨le_rfl, hlt⟩)
          dsimp only at hfb
          refine .inr ⟨by omega, le_antisymm ?_ ?_⟩
          · by_contra hcon
            exact hsep.head_end_notMem (h.full ⟨show H ≤ fe by omega, show fe < nxt by omega⟩)
          · by_contra hcon
            exact h.notMem (Sep.head_subset ⟨show fb ≤ nxt by omega, show nxt < fe by omega⟩)
      have hle : seqLE (pos s) (getBegin reg) = decide (s ≤ fb) := by
        rw [S.getBegin_eq hf, seqLE_pos (by omega) (by omega)]
      by_cases hsfb : s ≤ fb
      · exact .inl ⟨by omega, by simp [extractTo, hasrt, hrs, hle, hsfb]⟩
      · have hge : seqGE (pos s) (getEnd reg) = decide (fe ≤ s) := by
          rw [S.getEnd_eq hf, seqGE_pos (by omega) (by omega)]
        obtain ⟨rfl, rfl⟩ : fb = H ∧ nxt = fe := by omega
        have hcov := hsep.cover_diff_head (m := s) (by omega) (by omega)
        have hsub : cover ((fb, nxt) :: L) \ Set.Ico fb s ⊆ cover ((fb, nxt) :: L) := sdiff_subset
        -- what holds of the octets that stay, however the first region is cut
        have hinv : ∀ q' : TCPVirtualDataRcvQueue ρ, q'.rcvNxt = pos nxt →
            (∃ M, S.Reps q'.regionList M ∧ Sep M ∧ cover M = Set.Ico s nxt ∪ cover L) →
            RcvInv S q' s nxt (cover ((fb, nxt) :: L) \ Set.Ico fb s) := by
          intro q' hq' hM
          refine ⟨hq', hcov ▸ hM, hs, fun x hx => ⟨?_, (h.bounds hx.1).2⟩,
            fun x hx y hy => h.span x hx.1 y hy.1, ?_, fun hx => h.notMem hx.1⟩
          · have h1 := (h.bounds hx.1).1
            exact not_lt.1 fun hlt => hx.2 ⟨h1, hlt⟩
          · rw [hcov]
            exact subset_union_left
        right
        by_cases hfes : nxt ≤ s
        · obtain rfl : s = nxt := by omega
          refine ⟨reg, { q with regionList := rest }, by omega,
            by simp [extractTo, hasrt, hrs, hle, hsfb, hge], hf,
            hinv _ h.rcvNxt ⟨L, hrest, (Sep.cons_iff.1 hsep).2.2, by simp⟩⟩
        · obtain ⟨r1, r2, hsplit, hr1, hr2⟩ := S.split_rep hf (m := s) (by omega) (by omega)
            (by omega)
          refine ⟨r1, { q with regionList := r2 :: rest }, by omega,
            by simp [extractTo, hasrt, hrs, hle, hsfb, hge, hfes, hsplit], hr1,
            hinv _ h.rcvNxt ⟨(s, nxt) :: L, .cons hr2 hrest, hsep.drop_head (by omega), ?_⟩⟩
          rw [cover_cons]

/-- A segment that passes the receiver's test against `getFirstSeqNo` starts at an octet that has
not been handed up. -/
theorem le_of_firstSeqNo_le (h : RcvInv S q H nxt C) {a : ℤ} (ha : nxt - 2 ^ 31 ≤ a)
    (hfirst : seqLE q.getFirstSeqNo (pos a) = true) : H ≤ a := by
  obtain ⟨L, hL, hsep, rfl⟩ := h.regions
  have hle := h.le
  obtain ⟨f, hf, hHf, hfn⟩ : ∃ f, q.getFirstSeqNo = pos f ∧ H ≤ f ∧ f ≤ nxt := by
    cases hrs : q.regionList with
    | nil => exact ⟨nxt, by simp only [getFirstSeqNo, hrs, h.rcvNxt], h.le, le_rfl⟩
    | cons reg rest =>
      rw [hrs] at hL
      cases hL with
      | @cons _ p _ L hreg hrest =>
        have hmem : p.1 ∈ cover (p :: L) := Sep.head_subset ⟨le_rfl, hsep.pos mem_cons_self⟩
        have hb := h.bounds hmem
        have hgs : q.getFirstSeqNo = seqMin (pos p.1) (pos nxt) := by
          rw [getFirstSeqNo, hrs, h.rcvNxt, ← S.getBegin_eq hreg]
        have hspan : nxt - p.1 ≤ 2 ^ 31 := by
          rcases h.le.eq_or_lt with heq | hlt
          · have := hb.1; omega
          · have := h.span _ hmem (nxt - 1) (h.full ⟨by omega, by omega⟩)
            omega
        rcases hspan.eq_or_lt with heq | hlt
        · exact ⟨nxt, by rw [hgs, seqMin_pos_of_eq heq], h.le, le_rfl⟩
        · refine ⟨min p.1 nxt, by rw [hgs, seqMin_pos hlt (by have := hb.2; omega)], ?_, min_le_right _ _⟩
          exact le_min hb.1 h.le
  by_contra hcon
  rw [hf, seqLE_pos (by omega) (by omega)] at hfirst
  simp only [decide_eq_true_eq] at hfirst
  omega

end RcvInv

/-! ### Regions that count octets -/

/-- A region of the queue that counts octets only. -/
structure VirtualRegion where
  getBegin : SeqNo
  getEnd : SeqNo
  deriving DecidableEq

namespace VirtualRegion

/-- `TCPVirtualDataRcvQueue::Region::merge`. -/
def merge (self other : VirtualRegion) : Option VirtualRegion :=
  if seqLess self.getEnd other.getBegin || seqLess other.getEnd self.getBegin then none
  else some
    { getBegin := if seqLess other.getBegin self.getBegin then other.getBegin else self.getBegin
      getEnd := if seqLess self.getEnd other.getEnd then other.getEnd else self.getEnd }

/-- `TCPVirtualDataRcvQueue::Region::split`. -/
def split (self : VirtualRegion) (seq : SeqNo) : Except Fault (VirtualRegion × VirtualRegion) :=
  if seqGreater seq self.getBegin && seqLess seq self.getEnd then
    .ok (⟨self.getBegin, seq⟩, ⟨seq, self.getEnd⟩)
  else .error .splitRange

/-- `TCPVirtualDataRcvQueue::createRegionFromSegment`. -/
def createRegionFromSegment (tcpseg : TCPSegment) : VirtualRegion :=
  ⟨tcpseg.sequenceNo, tcpseg.endSeq⟩

instance : Region VirtualRegion where
  getBegin := getBegin
  getEnd := getEnd
  merge := merge
  split := split
  createRegionFromSegment := fun tcpseg => .ok (createRegionFromSegment tcpseg)

/-- A counting region stands for the octets between its two sequence numbers. -/
def spec : RegionSpec VirtualRegion where
  Rep r b e := r = ⟨pos b, pos e⟩
  Fits _ _ _ := True
  getBegin_eq h := h ▸ rfl
  getEnd_eq h := h ▸ rfl
  fits_of_le _ := trivial
  merge_rep := by
    rintro _ _ b e b' e' rfl rfl hb hb' h h' hs -
    refine ⟨_, ?_, rfl⟩
    change merge _ _ = _
    simp only [merge]
    rw [seqLess_pos (by omega) (by omega), seqLess_pos (by omega) (by omega),
      seqLess_pos (by omega) (by omega), seqLess_pos (by omega) (by omega)]
    simp only [decide_eq_true_eq, not_lt.2 h, not_lt.2 h', decide_false, Bool.or_self,
      Bool.false_eq_true, if_false, Option.some.injEq, mk.injEq]
    exact ⟨by split_ifs <;> congr 1 <;> omega, by split_ifs <;> congr 1 <;> omega⟩
  split_rep := by
    rintro _ b e m rfl hbm hme hs
    refine ⟨_, _, ?_, rfl, rfl⟩
    change split _ _ = _
    simp only [split]
    rw [seqGreater_pos (by omega) (by omega), seqLess_pos (by omega) (by omega)]
    simp [hbm, hme]

end VirtualRegion

namespace TCPVirtualDataRcvQueue

/-- `extractBytesUpTo`: the length of the packet that is handed up. -/
def extractBytesUpTo (q : TCPVirtualDataRcvQueue VirtualRegion) (seq : SeqNo) :
    Except Fault (Option ℕ × TCPVirtualDataRcvQueue VirtualRegion) := do
  let (reg, q) ← q.extractTo seq
  pure (reg.map Region.getLength, q)

end TCPVirtualDataRcvQueue

end Hiwis
