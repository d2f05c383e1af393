import Hiwis.Tcp.VirtualDataRcvQueue

/-!
# Segments out of order

Runs of `TCPVirtualDataRcvQueue` over arbitrary calls, old segments included.  `Tracked` follows the
queue with the positions of the octets: which ones have been inserted, which of them are stored,
and the position of `rcv_nxt`.

* `Tracked.run_spec` : what the region list and `rcv_nxt` are after every run, and what the next
  call does to them;
* `Tracked.run_received` : with the caller's test, `rcv_nxt` is the first octet that is missing.
-/

namespace Hiwis

open List Set Region Trace

namespace OutOfOrder

open Ranges TCPVirtualDataRcvQueue

/-- A call of the owner of the queue. -/
inductive Call
  | insertBytesFromSegment (tcpseg : TCPSegment)
  | extractBytesUpTo (seq : SeqNo)

/-- A queue, the position of its `rcv_nxt`, and the octets that have been inserted since `init` and
that have been inserted and not extracted. -/
structure Tracked where
  queue : TCPVirtualDataRcvQueue VirtualRegion
  nxt : ℤ
  inserted : Set ℤ
  stored : Set ℤ

/-- The octets of `A` and the borders of `B` lie in a window of less than half of the sequence
space. -/
def InWindow (A B : Set ℤ) : Prop :=
  ∃ w, A ⊆ Set.Ico w (w + (2 ^ 31 - 1)) ∧ B ⊆ Set.Icc w (w + (2 ^ 31 - 1))

/-- `[b, e)` is a longest run of octets of `A`. -/
structure IsRun (A : Set ℤ) (b e : ℤ) : Prop where
  lt : b < e
  subset : Set.Ico b e ⊆ A
  begin_notMem : b - 1 ∉ A
  end_notMem : e ∉ A

namespace Tracked

/-- A queue after `init`. -/
def init (p : ℤ) : Tracked := ⟨TCPVirtualDataRcvQueue.init (pos p), p, ∅, ∅⟩

section

variable (t : Tracked)

/-- The position of a sequence number. -/
def position (x : SeqNo) : ℤ := Serial.near t.nxt x

/-- The octets of a segment. -/
def octets (tcpseg : TCPSegment) : Set ℤ :=
  Set.Ico (t.position tcpseg.sequenceNo) (t.position tcpseg.sequenceNo + tcpseg.payloadLength)

/-- A call, with the length of the packet that it hands up. -/
def call : Call → Except Fault (Option ℕ × Tracked)
  | .insertBytesFromSegment tcpseg => do
    let (rcvNxt, queue) ← t.queue.insertBytesFromSegment tcpseg
    pure (none, ⟨queue, t.position rcvNxt, t.inserted ∪ t.octets tcpseg,
      t.stored ∪ t.octets tcpseg⟩)
  | .extractBytesUpTo seq => do
    let (msg, queue) ← t.queue.extractBytesUpTo seq
    pure (msg, { t with queue, stored := t.stored \ Set.Iio (t.position seq) })

def step (c : Call) : Except Fault Tracked := Prod.snd <$> t.call c

/-- The segments are not empty and stay in the window; nothing is asked for that has not arrived. -/
def Admissible : Call → Prop
  | .insertBytesFromSegment tcpseg =>
    0 < tcpseg.payloadLength ∧ InWindow (t.stored ∪ t.octets tcpseg) {t.nxt}
  | .extractBytesUpTo seq => t.position seq ≤ t.nxt ∧ InWindow t.stored {t.position seq, t.nxt}

/-- The caller's test against `getFirstSeqNo`. -/
def FromFirst : Call → Prop
  | .insertBytesFromSegment tcpseg => seqLE t.queue.getFirstSeqNo tcpseg.sequenceNo
  | .extractBytesUpTo _ => True

end

/-- What a run keeps: the region list stands for the stored octets, and those below `rcv_nxt` reach
up to it. -/
structure Inv (t : Tracked) : Prop where
  rcvNxt : t.queue.rcvNxt = pos t.nxt
  regions : ∃ L, VirtualRegion.spec.Reps t.queue.regionList L ∧ Sep L ∧ cover L = t.stored
  window : InWindow t.stored {t.nxt}
  reaches : ∀ x ∈ t.stored, x ≤ t.nxt → Set.Ico x t.nxt ⊆ t.stored
  notMem : t.nxt ∉ t.stored

end Tracked

/-! ### The runs of a set of octets -/

variable {L : List (ℤ × ℤ)} {r : ℤ × ℤ}

/-- The ranges of a separated list are the longest runs of its cover. -/
theorem isRun_of_mem (h : Sep L) (hr : r ∈ L) : IsRun (cover L) r.1 r.2 := by
  obtain ⟨L1, L2, rfl⟩ := append_of_mem hr
  obtain ⟨-, h2, h12⟩ := Sep.append_iff.1 h
  obtain ⟨hpos, hrL2, -⟩ := Sep.cons_iff.1 h2
  have hother : ∀ s ∈ L1 ++ r :: L2, s = r ∨ s.2 < r.1 ∨ r.2 < s.1 := by
    intro s hs
    rcases mem_append.1 hs with hs | hs
    · exact .inr (.inl (h12 s hs r mem_cons_self))
    · rcases mem_cons.1 hs with rfl | hs
      · exact .inl rfl
      · exact .inr (.inr (hrL2 s hs))
  refine ⟨hpos, fun x hx => ⟨r, hr, hx.1, hx.2⟩, ?_, ?_⟩
  · rintro ⟨s, hs, hx, hx'⟩
    rcases hother s hs with rfl | hlt | hlt <;> omega
  · rintro ⟨s, hs, hx, hx'⟩
    rcases hother s hs with rfl | hlt | hlt <;> omega

theorem ncard_Ico (a b : ℤ) : (Set.Ico a b).ncard = (b - a).toNat := by
  rw [← Finset.coe_Ico, ncard_coe_finset, Int.card_Ico]

theorem finite_cover (L : List (ℤ × ℤ)) : (cover L).Finite := by
  induction L with
  | nil => simp
  | cons r L ih => exact cover_cons r L ▸ (Set.toFinite _).union ih

/-- The octets of a separated list are those of its first range and the others. -/
theorem ncard_cover_cons (h : Sep (r :: L)) :
    (cover (r :: L)).ncard = (r.2 - r.1).toNat + (cover L).ncard := by
  obtain ⟨-, hrL, -⟩ := Sep.cons_iff.1 h
  have hdisj : Disjoint (Set.Ico r.1 r.2) (cover L) := by
    rw [Set.disjoint_left]
    rintro x hx ⟨s, hs, hsx, -⟩
    have := hrL s hs
    have := hx.2
    omega
  rw [cover_cons, ncard_union_eq hdisj (Set.toFinite _) (finite_cover L), ncard_Ico]

/-- The sum of `getAmountOfBufferedBytes`, from any octets on that are counted already. -/
theorem foldl_getLength {ρ : Type} [Region ρ] {S : RegionSpec ρ} {rs : List ρ}
    (hL : S.Reps rs L) (hsep : Sep L) {k : ℕ} (hk : k + (cover L).ncard < 2 ^ 32) :
    rs.foldl (fun bytes i => (bytes + getLength i) % 2 ^ 32) k = k + (cover L).ncard := by
  induction hL generalizing k with
  | nil => simp
  | @cons reg r rs L hreg _ ih =>
    rw [ncard_cover_cons hsep] at hk ⊢
    have hpos := hsep.pos mem_cons_self
    have hreg' : getLength reg = (r.2 - r.1).toNat := by
      rw [getLength, S.getEnd_eq hreg, S.getBegin_eq hreg]
      exact dist_pos (by omega) (by omega)
    rw [foldl_cons, hreg', Nat.mod_eq_of_lt (by omega), ih (Sep.cons_iff.1 hsep).2.2 (by omega)]
    omega

namespace Tracked

variable {t : Tracked} {tcpseg : TCPSegment} {seq : SeqNo}

@[simp] theorem pos_position (x : SeqNo) : pos (t.position x) = x := Serial.wrap_near _ _

theorem position_pos {m : ℤ} (h0 : t.nxt - m ≤ 2 ^ 31) (h1 : m - t.nxt < 2 ^ 31) :
    t.position (pos m) = m :=
  Serial.near_wrap (w := 32) (by decide) h0 h1

theorem Inv.start (p : ℤ) : Inv (init p) where
  rcvNxt := rfl
  regions := ⟨[], .nil, Sep.nil, cover_nil⟩
  window := ⟨p, empty_subset _, singleton_subset_iff.2 ⟨le_rfl, by simp [init]⟩⟩
  reaches := fun _ hx => hx.elim
  notMem := fun hx => hx

/-- The new position of `rcv_nxt` when the octets `A` are stored and it was `n`: the end of the
first run if that has begun, and `n` if not. -/
def Next (A : Set ℤ) (n n' : ℤ) : Prop :=
  (n' = n ∧ ∀ x ∈ A, n < x) ∨ ∃ b ≤ n, (∀ x ∈ A, b ≤ x) ∧ IsRun A b n'

/-- A segment in the window passes the range check. -/
theorem outOfRange_eq_false {q : TCPVirtualDataRcvQueue VirtualRegion}
    {a e w : ℤ} (hL : VirtualRegion.spec.Reps q.regionList L) (hsep : Sep L) (hlt : a < e)
    (hw : cover L ∪ Set.Ico a e ⊆ Set.Ico w (w + (2 ^ 31 - 1))) :
    q.outOfRange (⟨pos a, pos e⟩ : VirtualRegion) = false := by
  have ha := hw (.inr ⟨le_rfl, hlt⟩)
  have he := hw (.inr (show e - 1 ∈ Set.Ico a e from ⟨by omega, by omega⟩))
  simp only [mem_Ico] at ha he
  by_cases hnil : q.regionList = []
  · simp [outOfRange, hnil]
  · obtain ⟨front, back, ob, oe, hf, hb, hob, hoe, hobm, hoem, hall⟩ :=
      RegionSpec.Reps.exists_ends hL hsep hnil
    have h1 := hw (.inl hobm)
    have h2 := hw (.inl hoem)
    have h3 := (hall _ hobm).2
    simp only [mem_Ico] at h1 h2
    have hab : getBegin (⟨pos a, pos e⟩ : VirtualRegion) = pos a := rfl
    have hae : getEnd (⟨pos a, pos e⟩ : VirtualRegion) = pos e := rfl
    simp only [outOfRange, hf, hb, hob, hoe, hab, hae]
    rw [seqMin_pos (by omega) (by omega), seqMax_pos (by omega) (by omega),
      seqGE_pos (by omega) (by omega), seqGE_pos (by omega) (by omega),
      seqGE_pos (by omega) (by omega), seqGE_pos (by omega) (by omega)]
    simp only [Bool.or_eq_false_iff, decide_eq_false_iff_not]
    omega

/-- A segment in the window is inserted. -/
theorem Inv.insert (h : Inv t) (hc : t.Admissible (.insertBytesFromSegment tcpseg)) :
    ∃ q n', t.queue.insertBytesFromSegment tcpseg = .ok (pos n', q) ∧ t.position (pos n') = n' ∧
      Inv ⟨q, n', t.inserted ∪ t.octets tcpseg, t.stored ∪ t.octets tcpseg⟩ ∧
      Next (t.stored ∪ t.octets tcpseg) t.nxt n' := by
  obtain ⟨hn, w, hA, hB⟩ := hc
  obtain ⟨L, hL, hsep, hcov⟩ := h.regions
  obtain ⟨a, ha⟩ : ∃ a, t.position tcpseg.sequenceNo = a := ⟨_, rfl⟩
  obtain ⟨e, he⟩ : ∃ e, a + (tcpseg.payloadLength : ℤ) = e := ⟨_, rfl⟩
  have hae : a < e := by omega
  have hoct : t.octets tcpseg = Set.Ico a e := by rw [octets, ha, he]
  have hreg : VirtualRegion.createRegionFromSegment tcpseg = ⟨pos a, pos e⟩ := by
    have hseq : tcpseg.sequenceNo = pos a := by rw [← ha, pos_position]
    rw [VirtualRegion.createRegionFromSegment, TCPSegment.endSeq, hseq, Serial.wrap_add_ofNat, he]
  rw [hoct] at hA ⊢
  rw [← hcov] at hA ⊢
  have hnxt : w ≤ t.nxt ∧ t.nxt ≤ w + (2 ^ 31 - 1) := hB rfl
  obtain ⟨rs, L', hmerge, hL', hsep', hcov'⟩ := merge_reps (w := w) hL hsep
    (show VirtualRegion.spec.Rep ⟨pos a, pos e⟩ a e from rfl) hae
    (hA.trans (Set.Ico_subset_Ico_right (by omega))) fun _ _ => trivial
  have hrange := outOfRange_eq_false hL hsep hae hA
  rw [← hcov'] at hA ⊢
  -- the new list begins with a region
  obtain ⟨⟨fb, fe⟩, Lt, rfl⟩ : ∃ r Lt, L' = r :: Lt := by
    cases L' with
    | nil =>
      have hmem : a ∈ cover ([] : List (ℤ × ℤ)) := hcov' ▸ .inr ⟨le_rfl, hae⟩
      simp at hmem
    | cons r Lt => exact ⟨r, Lt, rfl⟩
  obtain ⟨front, rest, rfl⟩ : ∃ front rest, rs = front :: rest := by
    cases hL' with
    | cons => exact ⟨_, _, rfl⟩
  have hfront : front = ⟨pos fb, pos fe⟩ := by
    cases hL' with
    | cons hf => exact hf
  have hrun := isRun_of_mem hsep' mem_cons_self
  have hfb := hA (hrun.subset ⟨le_rfl, hrun.lt⟩)
  have hfe := hA (hrun.subset (show fe - 1 ∈ Set.Ico fb fe from
    ⟨by have := hrun.lt; dsimp only at this; omega, by omega⟩))
  simp only [mem_Ico] at hfb hfe
  have hge : seqGE (pos t.nxt) (pos fb) = decide (fb ≤ t.nxt) := seqGE_pos (by omega) (by omega)
  have hadv : advance ⟨t.queue.rcvNxt, front :: rest⟩ =
      ⟨pos (if fb ≤ t.nxt then fe else t.nxt), front :: rest⟩ := by
    have hfb' : getBegin front = pos fb := hfront ▸ rfl
    have hfe' : getEnd front = pos fe := hfront ▸ rfl
    simp only [advance, hfb', hfe', h.rcvNxt, hge, decide_eq_true_eq]
    split_ifs <;> rfl
  refine ⟨⟨pos (if fb ≤ t.nxt then fe else t.nxt), front :: rest⟩,
    if fb ≤ t.nxt then fe else t.nxt, ?_, ?_, ⟨rfl, ⟨_, hL', hsep', rfl⟩, ⟨w, hA, ?_⟩, ?_, ?_⟩, ?_⟩
  · have hcreate : createRegionFromSegment tcpseg =
        (.ok ⟨pos a, pos e⟩ : Except Fault VirtualRegion) := congrArg Except.ok hreg
    simp only [insertBytesFromSegment, hcreate, hrange, hmerge, Except.ok_bind, hadv]
    rfl
  · refine position_pos ?_ ?_ <;> split_ifs <;> omega
  · refine singleton_subset_iff.2 (mem_Icc.2 ?_)
    dsimp only
    split_ifs <;> omega
  · intro x hx hxn
    have hle := hsep'.head_le hx
    dsimp only at hxn hle ⊢
    split_ifs at hxn ⊢ with hb
    · exact (Set.Ico_subset_Ico_left hle).trans hrun.subset
    · omega
  · dsimp only
    split_ifs with hb
    · exact hrun.end_notMem
    · exact fun hx => hb (hsep'.head_le hx)
  · by_cases hb : fb ≤ t.nxt
    · rw [if_pos hb]
      exact .inr ⟨fb, hb, fun x hx => hsep'.head_le hx, hrun⟩
    · rw [if_neg hb]
      exact .inl ⟨rfl, fun x hx => by have := hsep'.head_le hx; dsimp only at this; omega⟩

/-- `rcv_nxt` moves backwards when the segment and all that is stored lie beyond a gap: the segment
ends before it, and whatever is stored begins after the segment. -/
theorem Inv.next_lt_iff (h : Inv t) {a e n' : ℤ} (hae : a < e)
    (hn : Next (t.stored ∪ Set.Ico a e) t.nxt n') :
    n' < t.nxt ↔ e < t.nxt ∧ ∀ x ∈ t.stored, e < x := by
  have hemem : e - 1 ∈ t.stored ∪ Set.Ico a e := .inr ⟨by omega, by omega⟩
  obtain ⟨rfl, hall⟩ | ⟨b, hb, hall, hrun⟩ := hn
  · have := hall _ hemem
    exact iff_of_false (lt_irrefl _) fun hlt => by omega
  · have hlt := hrun.lt
    constructor
    · intro hback
      -- no stored octet below the old `rcv_nxt` can be the reason for this
      have hstored : ∀ x ∈ t.stored, n' < x := by
        intro x hx
        by_contra hcon
        have hreach := h.reaches x hx (by omega)
        exact hrun.end_notMem (.inl (hreach ⟨by omega, hback⟩))
      have hend : n' = e := by
        obtain hx | hx := hrun.subset (show n' - 1 ∈ Set.Ico b n' from ⟨by omega, by omega⟩)
        · have := hstored _ hx
          omega
        · by_contra hne
          exact hrun.end_notMem (.inr ⟨by have := hx.1; omega, by have := hx.2; omega⟩)
      exact ⟨by omega, fun x hx => hend ▸ hstored x hx⟩
    · rintro ⟨hen, hbeyond⟩
      by_contra hcon
      -- the end of the segment would belong to the first run
      have hba := hall _ hemem
      obtain hx | hx := hrun.subset (show e ∈ Set.Ico b n' from ⟨by omega, by omega⟩)
      · exact lt_irrefl _ (hbeyond e hx)
      · exact lt_irrefl _ hx.2

/-- What lies below `rcv_nxt` is handed up. -/
theorem Inv.extract (h : Inv t) (hc : t.Admissible (.extractBytesUpTo seq)) :
    ∃ msg q, t.queue.extractBytesUpTo seq = .ok (msg, q) ∧
      msg.getD 0 = (t.stored ∩ Set.Iio (t.position seq)).ncard ∧
      Inv { t with queue := q, stored := t.stored \ Set.Iio (t.position seq) } := by
  obtain ⟨hle, w, hA, hB⟩ := hc
  obtain ⟨L, hL, hsep, hcov⟩ := h.regions
  obtain ⟨s, hs⟩ : ∃ s, t.position seq = s := ⟨_, rfl⟩
  obtain rfl : seq = pos s := by rw [← hs, pos_position]
  rw [hs] at hle hB ⊢
  have hsw : w ≤ s ∧ s ≤ w + (2 ^ 31 - 1) := hB (.inl rfl)
  have hnw : w ≤ t.nxt ∧ t.nxt ≤ w + (2 ^ 31 - 1) := hB (.inr rfl)
  have hasrt : seqLE (pos s) t.queue.rcvNxt = true := by
    rw [h.rcvNxt, seqLE_pos (by omega) (by omega)]
    simpa using hle
  -- the octets that stay are as the invariant wants them, whatever the new region list
  have hinv : ∀ q : TCPVirtualDataRcvQueue VirtualRegion, q.rcvNxt = t.queue.rcvNxt →
      (∃ M, VirtualRegion.spec.Reps q.regionList M ∧ Sep M ∧ cover M = t.stored \ Set.Iio s) →
      Inv { t with queue := q, stored := t.stored \ Set.Iio s } := by
    intro q hq hM
    refine ⟨hq.trans h.rcvNxt, hM, ⟨w, sdiff_subset.trans hA, ?_⟩, ?_, fun hx => h.notMem hx.1⟩
    · exact singleton_subset_iff.2 hnw
    · intro x hx hxn y hy
      have hsx : s ≤ x := not_lt.1 fun hxs => hx.2 hxs
      exact ⟨h.reaches x hx.1 hxn hy, not_lt.2 (hsx.trans hy.1)⟩
  -- nothing is stored below the sequence number
  have hnone : (∀ x ∈ t.stored, s ≤ x) → t.queue.extractTo (pos s) = .ok (none, t.queue) →
      ∃ msg q, t.queue.extractBytesUpTo (pos s) = .ok (msg, q) ∧
        msg.getD 0 = (t.stored ∩ Set.Iio s).ncard ∧
        Inv { t with queue := q, stored := t.stored \ Set.Iio s } := by
    intro hall hq
    refine ⟨none, t.queue, by simp [extractBytesUpTo, hq], ?_, hinv _ rfl ⟨L, hL, hsep, ?_⟩⟩
    · have hempty : t.stored ∩ Set.Iio s = ∅ :=
        eq_empty_of_forall_notMem fun x hx => not_lt.2 (hall x hx.1) hx.2
      simp [hempty]
    · rw [hcov]
      exact (sdiff_eq_left.2 (Set.disjoint_left.2 fun x hx hxs => not_lt.2 (hall x hx) hxs)).symm
  cases hrs : t.queue.regionList with
  | nil =>
    rw [hrs] at hL
    cases hL
    refine hnone (fun x hx => ?_) (by simp [extractTo, hasrt, hrs])
    rw [← hcov] at hx
    simp at hx
  | cons reg rest =>
    rw [hrs] at hL
    cases hL with
    | @cons _ p _ L hreg hrest =>
      obtain ⟨fb, fe⟩ := p
      obtain rfl : reg = ⟨pos fb, pos fe⟩ := hreg
      have hrun := isRun_of_mem hsep mem_cons_self
      rw [hcov] at hrun
      have hlt := hrun.lt
      dsimp only at hlt hrun
      have hfb := hA (hrun.subset ⟨le_rfl, hlt⟩)
      have hfe := hA (hrun.subset (show fe - 1 ∈ Set.Ico fb fe from ⟨by omega, by omega⟩))
      simp only [mem_Ico] at hfb hfe
      have hbeg : seqLE (pos s) (getBegin (⟨pos fb, pos fe⟩ : VirtualRegion)) =
          decide (s ≤ fb) := seqLE_pos (by omega) (by omega)
      have hend : seqGE (pos s) (getEnd (⟨pos fb, pos fe⟩ : VirtualRegion)) =
          decide (fe ≤ s) := seqGE_pos (by omega) (by omega)
      by_cases hsfb : s ≤ fb
      · refine hnone (fun x hx => hsfb.trans ?_) (by simp [extractTo, hasrt, hrs, hbeg, hsfb])
        exact hsep.head_le (hcov ▸ hx)
      · -- the first region reaches up to `rcv_nxt`
        have hfen : t.nxt ≤ fe := by
          by_contra hcon
          exact hrun.end_notMem (h.reaches fb (hrun.subset ⟨le_rfl, hlt⟩) (by omega)
            ⟨by omega, by omega⟩)
        have hbelow : t.stored ∩ Set.Iio s = Set.Ico fb s := by
          ext x
          refine ⟨fun hx => ⟨hsep.head_le (hcov ▸ hx.1), hx.2⟩, fun hx => ⟨hrun.subset ?_, hx.2⟩⟩
          exact ⟨hx.1, by have := hx.2; omega⟩
        have hdiff : t.stored \ Set.Iio s = Set.Ico s fe ∪ cover L := by
          rw [← hsep.cover_diff_head (m := s) (by omega) (by omega), hcov]
          ext x
          exact and_congr_right fun hx => not_congr
            ⟨fun hxs => ⟨hsep.head_le (hcov ▸ hx), hxs⟩, fun hxs => hxs.2⟩
        by_cases hfes : fe ≤ s
        · obtain rfl : s = fe := by omega
          refine ⟨some (getLength (⟨pos fb, pos s⟩ : VirtualRegion)),
            { t.queue with regionList := rest },
            by simp [extractBytesUpTo, extractTo, hasrt, hrs, hbeg, hsfb, hend], ?_,
            hinv _ rfl ⟨L, hrest, (Sep.cons_iff.1 hsep).2.2, by simp [hdiff]⟩⟩
          rw [hbelow, ncard_Ico]
          exact dist_pos (by omega) (by omega)
        · obtain ⟨r1, r2, hsplit, hr1, hr2⟩ :=
            VirtualRegion.spec.split_rep (show VirtualRegion.spec.Rep _ fb fe from rfl) (m := s)
              (by omega) (by omega) (by omega)
          refine ⟨some (getLength r1), { t.queue with regionList := r2 :: rest },
            by simp [extractBytesUpTo, extractTo, hasrt, hrs, hbeg, hsfb, hend, hfes, hsplit], ?_,
            hinv _ rfl ⟨(s, fe) :: L, .cons hr2 hrest, hsep.drop_head (by omega), ?_⟩⟩
          · obtain rfl : r1 = ⟨pos fb, pos s⟩ := hr1
            rw [hbelow, ncard_Ico]
            exact dist_pos (by omega) (by omega)
          · rw [cover_cons, hdiff]

/-! ### What the queue answers -/

theorem reps_eq_map {rs : List VirtualRegion}
    (hL : VirtualRegion.spec.Reps rs L) : rs = L.map fun r => ⟨pos r.1, pos r.2⟩ := by
  induction hL with
  | nil => rfl
  | cons hreg _ ih => rw [map_cons, ← ih, show _ = _ from hreg]

/-- A query about the octet `f` that asks for the region of the octet `x`. -/
theorem Inv.find?_region (h : Inv t) {f x : ℤ} (hf : InWindow t.stored {f})
    {p : VirtualRegion → Bool} (hp : ∀ w b e : ℤ, w ≤ f ∧ f ≤ w + (2 ^ 31 - 1) →
      b < e ∧ w ≤ b ∧ e ≤ w + (2 ^ 31 - 1) → (p ⟨pos b, pos e⟩ = true ↔ b ≤ x ∧ x < e)) :
    (x ∉ t.stored ∧ t.queue.regionList.find? p = none) ∨
      ∃ b e, IsRun t.stored b e ∧ x ∈ Set.Ico b e ∧
        t.queue.regionList.find? p = some ⟨pos b, pos e⟩ := by
  obtain ⟨w, hA, hB⟩ := hf
  obtain ⟨L, hL, hsep, hcov⟩ := h.regions
  rw [← hcov] at hA ⊢
  have hin : ∀ r ∈ L, p ⟨pos r.1, pos r.2⟩ = true ↔ r.1 ≤ x ∧ x < r.2 := fun r hr =>
    hp w r.1 r.2 (hB rfl) ⟨hsep.pos hr, hsep.bounds hA hr⟩
  rw [reps_eq_map hL, find?_map]
  cases hfind : L.find? (p ∘ fun r => ⟨pos r.1, pos r.2⟩) with
  | none =>
    exact .inl ⟨fun ⟨r, hr, hxr⟩ => find?_eq_none.1 hfind r hr ((hin r hr).2 hxr), rfl⟩
  | some r =>
    have hr := mem_of_find?_eq_some hfind
    have hpr := find?_some hfind
    exact .inr ⟨r.1, r.2, isRun_of_mem hsep hr, (hin r hr).1 hpr, rfl⟩

/-- `getLE` is the begin of the run of stored octets that contains the octet asked for. -/
theorem Inv.getLE_eq (h : Inv t) {f : ℤ} (hf : InWindow t.stored {f}) :
    (f ∉ t.stored ∧ t.queue.getLE (pos f) = pos f) ∨
      ∃ b e, IsRun t.stored b e ∧ f ∈ Set.Ico b e ∧ t.queue.getLE (pos f) = pos b := by
  unfold getLE
  obtain ⟨hno, hnone⟩ | ⟨b, e, hrun, hfr, hsome⟩ := h.find?_region (x := f) hf (p := fun i =>
    seqLE (getBegin i) (pos f) && seqLess (pos f) (getEnd i)) fun w b e _ _ => by
      change (seqLE (pos b) (pos f) && seqLess (pos f) (pos e)) = true ↔ _
      rw [seqLE_pos (by omega) (by omega), seqLess_pos (by omega) (by omega)]
      simp
  · exact .inl ⟨hno, by rw [hnone]⟩
  · exact .inr ⟨b, e, hrun, hfr, by rw [hsome]; rfl⟩

/-- `getRE` is the end of the run of stored octets that contains the octet before the one asked
for. -/
theorem Inv.getRE_eq (h : Inv t) {f : ℤ} (hf : InWindow t.stored {f}) :
    (f - 1 ∉ t.stored ∧ t.queue.getRE (pos f) = pos f) ∨
      ∃ b e, IsRun t.stored b e ∧ f - 1 ∈ Set.Ico b e ∧ t.queue.getRE (pos f) = pos e := by
  unfold getRE
  obtain ⟨hno, hnone⟩ | ⟨b, e, hrun, hfr, hsome⟩ := h.find?_region (x := f - 1) hf (p := fun i =>
    seqLess (getBegin i) (pos f) && seqLE (pos f) (getEnd i)) fun w b e _ _ => by
      change (seqLess (pos b) (pos f) && seqLE (pos f) (pos e)) = true ↔ _
      rw [seqLess_pos (by omega) (by omega), seqLE_pos (by omega) (by omega)]
      simp only [Bool.and_eq_true, decide_eq_true_eq]
      omega
  · exact .inl ⟨hno, by rw [hnone]⟩
  · exact .inr ⟨b, e, hrun, hfr, by rw [hsome]; rfl⟩

/-- `getAmountOfBufferedBytes` is the number of stored octets. -/
theorem Inv.getAmountOfBufferedBytes_eq (h : Inv t) :
    t.queue.getAmountOfBufferedBytes = t.stored.ncard := by
  obtain ⟨w, hA, -⟩ := h.window
  obtain ⟨L, hL, hsep, hcov⟩ := h.regions
  rw [← hcov] at hA ⊢
  have hcard : (cover L).ncard ≤ 2 ^ 31 - 1 := by
    refine (ncard_le_ncard hA (Set.toFinite _)).trans ?_
    rw [ncard_Ico]
    omega
  have hsum := foldl_getLength hL hsep (k := 0) (by omega)
  rw [getAmountOfBufferedBytes, hsum, Nat.zero_add]

/-! ### Every run -/

/-- What an insertion does. -/
theorem Inv.step_insert (h : Inv t) (hc : t.Admissible (.insertBytesFromSegment tcpseg)) :
    ∃ t', t.step (.insertBytesFromSegment tcpseg) = .ok t' ∧ Inv t' ∧
      t'.inserted = t.inserted ∪ t.octets tcpseg ∧ t'.stored = t.stored ∪ t.octets tcpseg ∧
      Next t'.stored t.nxt t'.nxt := by
  obtain ⟨q, n', hins, hpos, hinv, hnext⟩ := h.insert hc
  exact ⟨_, by simp [step, call, hins, hpos], hinv, rfl, rfl, hnext⟩

theorem Inv.step_extract (h : Inv t) (hc : t.Admissible (.extractBytesUpTo seq)) :
    ∃ msg t', t.call (.extractBytesUpTo seq) = .ok (msg, t') ∧ Inv t' ∧
      msg.getD 0 = (t.stored ∩ Set.Iio (t.position seq)).ncard ∧ t'.nxt = t.nxt ∧
      t'.inserted = t.inserted ∧ t'.stored = t.stored \ Set.Iio (t.position seq) := by
  obtain ⟨msg, q, hext, hmsg, hinv⟩ := h.extract hc
  exact ⟨msg, _, by simp [call, hext], hinv, hmsg, rfl, rfl, rfl⟩

variable {t' : Tracked} {c : Call}

theorem Inv.step (h : Inv t) (hc : t.Admissible c) (hstep : t.step c = .ok t') :
    Inv t' := by
  cases c with
  | insertBytesFromSegment tcpseg =>
    obtain ⟨t'', hstep', hinv, -⟩ := h.step_insert hc
    rw [hstep] at hstep'
    exact Except.ok.inj hstep' ▸ hinv
  | extractBytesUpTo seq =>
    obtain ⟨msg, t'', hcall, hinv, -⟩ := h.step_extract hc
    rw [Tracked.step, hcall] at hstep
    exact Except.ok.inj hstep ▸ hinv

theorem run_inv {p : ℤ} {cs : List Call} (h : Run step Admissible (init p) cs t) : Inv t :=
  h.invariant (fun _ _ _ hinv hc hstep => hinv.step hc hstep) (Inv.start p)

/-- A segment that passes the caller's test does not move `rcv_nxt` backwards. -/
theorem Inv.le_next (h : Inv t) (hc : t.Admissible (.insertBytesFromSegment tcpseg))
    (hfirst : t.FromFirst (.insertBytesFromSegment tcpseg))
    (hstored : t'.stored = t.stored ∪ t.octets tcpseg) (hn : Next t'.stored t.nxt t'.nxt) :
    t.nxt ≤ t'.nxt := by
  obtain ⟨hlen, w, hA, hB⟩ := hc
  obtain ⟨L, hL, hsep, hcov⟩ := h.regions
  have hnw : w ≤ t.nxt ∧ t.nxt ≤ w + (2 ^ 31 - 1) := hB rfl
  obtain ⟨a, ha⟩ : ∃ a, t.position tcpseg.sequenceNo = a := ⟨_, rfl⟩
  have haw := hA (.inr ⟨le_rfl, by omega⟩)
  rw [ha, mem_Ico] at haw
  by_contra hcon
  rw [hstored, octets, ha] at hn
  obtain ⟨hen, hbeyond⟩ := (h.next_lt_iff (by omega) hn).1 (not_le.1 hcon)
  -- the first octet that the queue has or waits for lies beyond the segment
  obtain ⟨f, hf, hfw, haf⟩ : ∃ f, t.queue.getFirstSeqNo = pos f ∧
      (w ≤ f ∧ f ≤ w + (2 ^ 31 - 1)) ∧ a < f := by
    cases hrs : t.queue.regionList with
    | nil => exact ⟨t.nxt, by rw [getFirstSeqNo, hrs, h.rcvNxt], hnw, by omega⟩
    | cons reg rest =>
      rw [hrs] at hL
      cases hL with
      | @cons _ r _ L hreg _ =>
        have hmem : r.1 ∈ t.stored := by
          rw [← hcov]
          exact Sep.head_subset ⟨le_rfl, hsep.pos mem_cons_self⟩
        have hrw := hA (.inl hmem)
        have hbr := hbeyond _ hmem
        rw [mem_Ico] at hrw
        have hbeg : getBegin reg = pos r.1 := VirtualRegion.spec.getBegin_eq hreg
        refine ⟨min r.1 t.nxt, ?_, by omega, by omega⟩
        rw [getFirstSeqNo, hrs, h.rcvNxt]
        simp only [hbeg]
        exact seqMin_pos (by omega) (by omega)
  have hseq : tcpseg.sequenceNo = pos a := by rw [← ha, pos_position]
  simp only [FromFirst, hf, hseq] at hfirst
  rw [seqLE_pos (by omega) (by omega), decide_eq_true_eq] at hfirst
  omega

/-- What every run in which all segments pass the caller's test keeps: everything below `rcv_nxt`
has been inserted, and nothing above it has been extracted. -/
structure Received (p : ℤ) (t : Tracked) : Prop where
  inv : Inv t
  le : p ≤ t.nxt
  all : Set.Ico p t.nxt ⊆ t.inserted
  stored : t.stored ⊆ t.inserted
  extracted : ∀ x ∈ t.inserted, x ∉ t.stored → x < t.nxt

theorem Received.step {p : ℤ} (h : Received p t) (hc : t.Admissible c) (hfirst : t.FromFirst c)
    (hstep : t.step c = .ok t') : Received p t' := by
  cases c with
  | insertBytesFromSegment tcpseg =>
    obtain ⟨t'', hstep', hinv, hins, hst, hnext⟩ := h.inv.step_insert hc
    rw [hstep] at hstep'
    cases hstep'
    have hle := h.inv.le_next hc hfirst hst hnext
    have hsub : t'.stored ⊆ t'.inserted := by
      rw [hins, hst]
      exact union_subset_union_left _ h.stored
    have hold : t.inserted ⊆ t'.inserted := hins ▸ subset_union_left
    refine ⟨hinv, h.le.trans hle, fun x hx => ?_, hsub, fun x hx hx' => ?_⟩
    · by_cases hxn : x < t.nxt
      · exact hold (h.all ⟨hx.1, hxn⟩)
      · obtain ⟨heq, -⟩ | ⟨b, hb, -, hrun⟩ := hnext
        · have := hx.2
          omega
        · exact hsub (hrun.subset ⟨by omega, hx.2⟩)
    · rw [hins] at hx
      rw [hst] at hx'
      obtain hx | hx := hx
      · exact (h.extracted x hx fun hs => hx' (.inl hs)).trans_le hle
      · exact absurd (.inr hx) hx'
  | extractBytesUpTo seq =>
    obtain ⟨msg, t'', hcall, hinv, -, hnxt, hins, hst⟩ := h.inv.step_extract hc
    rw [Tracked.step, hcall] at hstep
    cases hstep
    refine ⟨hinv, hnxt ▸ h.le, hnxt ▸ hins ▸ h.all, ?_, fun x hx hx' => ?_⟩
    · rw [hst, hins]
      exact sdiff_subset.trans h.stored
    · rw [hst] at hx'
      rw [hnxt]
      by_cases hs : x ∈ t.stored
      · have hlt : x < t.position seq := by
          by_contra hcon
          exact hx' ⟨hs, hcon⟩
        exact hlt.trans_le hc.1
      · exact h.extracted x (hins ▸ hx) hs

/-- After every run with segments in the window, the region list stands for the octets that have
been inserted and not extracted, sorted, with no two regions that overlap or touch, and every
further call succeeds.  `rcv_nxt` becomes the end of the first region if this has begun; it moves
backwards for a segment that lies, with a gap, in front of it and of all that is stored, so never
for one that passes the caller's test against `getFirstSeqNo`.  When all segments have passed this
test, `rcv_nxt` is the first octet that has not been received contiguously. -/
theorem run_spec (p : ℤ) (cs : List Call) (t : Tracked)
    (h : Run step Admissible (init p) cs t) :
    (∃ L, t.queue.regionList = L.map (fun r => ⟨pos r.1, pos r.2⟩) ∧ Sep L ∧ cover L = t.stored) ∧
      t.queue.rcvNxt = pos t.nxt ∧
      (∀ tcpseg, t.Admissible (.insertBytesFromSegment tcpseg) →
        ∃ t', t.step (.insertBytesFromSegment tcpseg) = .ok t' ∧
          Next t'.stored t.nxt t'.nxt ∧
          (t'.nxt < t.nxt ↔ t.position tcpseg.sequenceNo + tcpseg.payloadLength < t.nxt ∧
            ∀ x ∈ t.stored, t.position tcpseg.sequenceNo + tcpseg.payloadLength < x) ∧
          (t.FromFirst (.insertBytesFromSegment tcpseg) → t.nxt ≤ t'.nxt)) ∧
      (∀ seq, t.Admissible (.extractBytesUpTo seq) →
        ∃ msg t', t.call (.extractBytesUpTo seq) = .ok (msg, t') ∧ t'.nxt = t.nxt ∧
          msg.getD 0 = (t.stored ∩ Set.Iio (t.position seq)).ncard) ∧
      (∀ f, InWindow t.stored {f} → (f ∉ t.stored ∧ t.queue.getLE (pos f) = pos f) ∨
        ∃ b e, IsRun t.stored b e ∧ f ∈ Set.Ico b e ∧ t.queue.getLE (pos f) = pos b) ∧
      (∀ f, InWindow t.stored {f} → (f - 1 ∉ t.stored ∧ t.queue.getRE (pos f) = pos f) ∨
        ∃ b e, IsRun t.stored b e ∧ f - 1 ∈ Set.Ico b e ∧ t.queue.getRE (pos f) = pos e) ∧
      t.queue.getAmountOfBufferedBytes = t.stored.ncard ∧
      (Run step (fun t c => t.Admissible c ∧ t.FromFirst c) (init p) cs t →
        p ≤ t.nxt ∧ Set.Ico p t.nxt ⊆ t.inserted ∧ t.nxt ∉ t.inserted) := by
  have hinv := run_inv h
  obtain ⟨L, hL, hsep, hcov⟩ := hinv.regions
  refine ⟨⟨L, reps_eq_map hL, hsep, hcov⟩, hinv.rcvNxt, fun tcpseg hc => ?_, fun seq hc => ?_,
    fun f => hinv.getLE_eq, fun f => hinv.getRE_eq, hinv.getAmountOfBufferedBytes_eq,
    fun hfirst => ?_⟩
  · obtain ⟨t', hstep, -, -, hst, hnext⟩ := hinv.step_insert hc
    refine ⟨t', hstep, hnext, ?_, fun hfirst => hinv.le_next hc hfirst hst hnext⟩
    rw [hst, octets] at hnext
    exact hinv.next_lt_iff (by have := hc.1; omega) hnext
  · obtain ⟨msg, t', hcall, -, hmsg, hnxt, -⟩ := hinv.step_extract hc
    exact ⟨msg, t', hcall, hnxt, hmsg⟩
  · have hrec : Received p t := hfirst.invariant
      (fun _ _ _ hrec hc hstep => hrec.step hc.1 hc.2 hstep)
      ⟨Inv.start p, le_rfl, by simp [init], fun _ hx => hx.elim, fun _ hx => hx.elim⟩
    refine ⟨hrec.le, hrec.all, fun hx => ?_⟩
    exact lt_irrefl _ (hrec.extracted _ hx hrec.inv.notMem)

/-- The first segment of a connection, inserted into the new queue. -/
theorem step_first : (init 1000).Admissible
        (.insertBytesFromSegment { sequenceNo := 1000, payloadLength := 300 }) ∧
      (init 1000).step (.insertBytesFromSegment { sequenceNo := 1000, payloadLength := 300 }) =
        .ok ⟨⟨1300, [⟨1000, 1300⟩]⟩, 1300, Set.Ico 1000 1300, Set.Ico 1000 1300⟩ := by
  have hoct : (init 1000).octets { sequenceNo := 1000, payloadLength := 300 } =
      Set.Ico 1000 1300 := by
    have hpos : (init 1000).position 1000 = 1000 := by decide
    rw [octets, hpos]
    rfl
  refine ⟨⟨by decide, 1000, ?_, singleton_subset_iff.2 ⟨le_rfl, by decide⟩⟩, ?_⟩
  · rw [hoct]
    intro x hx
    simp only [init, empty_union, mem_Ico] at hx ⊢
    omega
  · have hnew : (init 1000).stored ∪ (init 1000).octets
        { sequenceNo := 1000, payloadLength := 300 } = Set.Ico 1000 1300 := by
      rw [hoct]
      exact empty_union _
    rw [← hnew]
    rfl

theorem run_spec_first : ∃ t, Run step Admissible (init 1000)
    [.insertBytesFromSegment { sequenceNo := 1000, payloadLength := 300 }] t ∧
      t.queue = ⟨1300, [⟨1000, 1300⟩]⟩ ∧ t.queue.getAmountOfBufferedBytes = t.stored.ncard :=
  have hrun := Run.cons step_first.1 step_first.2 (.nil _)
  ⟨_, hrun, rfl, (run_spec 1000 _ _ hrun).2.2.2.2.2.2.1⟩

/-- An old segment moves `rcv_nxt` from 1300 back to 899; and a segment without octets is stored as
an empty region. -/
theorem not_forward_not_nonempty : (∃ t t', Run step Admissible (init 1000)
        [.insertBytesFromSegment { sequenceNo := 1000, payloadLength := 300 }] t ∧
      t.Admissible (.insertBytesFromSegment { sequenceNo := 800, payloadLength := 99 }) ∧
      t.step (.insertBytesFromSegment { sequenceNo := 800, payloadLength := 99 }) = .ok t' ∧
      t.queue.rcvNxt = 1300 ∧ t'.queue.rcvNxt = 899 ∧ t.nxt = 1300 ∧ t'.nxt = 899) ∧
    ∃ t', (init 1000).step (.insertBytesFromSegment { sequenceNo := 1100 }) = .ok t' ∧
      t'.queue.regionList = [⟨1100, 1100⟩] := by
  refine ⟨⟨_, _, .cons step_first.1 step_first.2 (.nil _), ⟨by decide, 800, ?_, ?_⟩, rfl, rfl, rfl,
    rfl, by decide⟩, _, rfl, rfl⟩
  · have hpos : Serial.near 1300 (800 : SeqNo) = 800 := by decide
    simp only [octets, position, hpos]
    rintro x (hx | hx)
    · simp only [mem_Ico] at hx ⊢
      omega
    · simp only [mem_Ico, Nat.cast_ofNat] at hx ⊢
      omega
  · exact singleton_subset_iff.2 (mem_Icc.2 (by decide))

end Tracked

end OutOfOrder

end Hiwis
