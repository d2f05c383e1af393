import Hiwis.Rsvp.RSVP

/-!
# Bandwidth accounting

What is left of a link at a priority is its bandwidth less what the reservations on it hold at that
priority or a stronger one, in every state that is reached.

* `Rsvp.preempt_spec` : what preemption gives back, and that it is enough;
* `Rsvp.Allocating.round` : one round of the loop of `allocateResource`;
* `Rsvp.RSVP.bandwidth_accounted` : every run.
-/

namespace Hiwis

open List Except Function

namespace Rsvp

variable {OI OI' : IPv4Address} {p q : Fin 8} {rsb : ResvStateBlock} {rsbs : List ResvStateBlock}
  {bandwidth : ℚ}

/-! ### Sums over the blocks -/

/-- The bandwidth that is allocated on an interface at a priority or a stronger one. -/
def reserved (rsbs : List ResvStateBlock) (OI : IPv4Address) (p : Fin 8) : ℚ :=
  (rsbs.map fun rsb =>
    if rsb.OI = OI ∧ rsb.session.holdingPri ≤ p then rsb.reqBandwidth else 0).sum

/-- The bandwidth that is allocated on an interface at one priority. -/
def heldAt (rsbs : List ResvStateBlock) (OI : IPv4Address) (p : Fin 8) : ℚ :=
  (rsbs.map fun rsb =>
    if rsb.OI = OI ∧ rsb.session.holdingPri = p then rsb.reqBandwidth else 0).sum

@[simp] theorem reserved_nil : reserved [] OI p = 0 := rfl

@[simp] theorem reserved_cons : reserved (rsb :: rsbs) OI p =
    (if rsb.OI = OI ∧ rsb.session.holdingPri ≤ p then rsb.reqBandwidth else 0) +
      reserved rsbs OI p := by
  simp [reserved]

variable {rsbs' : List ResvStateBlock}

@[simp] theorem reserved_append :
    reserved (rsbs ++ rsbs') OI p = reserved rsbs OI p + reserved rsbs' OI p := by
  simp [reserved]

@[simp] theorem heldAt_nil : heldAt [] OI p = 0 := rfl

@[simp] theorem heldAt_cons : heldAt (rsb :: rsbs) OI p =
    (if rsb.OI = OI ∧ rsb.session.holdingPri = p then rsb.reqBandwidth else 0) +
      heldAt rsbs OI p := by
  simp [heldAt]

theorem reserved_nonneg (h : ∀ rsb ∈ rsbs, 0 ≤ rsb.reqBandwidth) : 0 ≤ reserved rsbs OI p := by
  refine sum_nonneg fun x hx => ?_
  obtain ⟨rsb, hrsb, rfl⟩ := mem_map.1 hx
  split_ifs
  · exact h rsb hrsb
  · exact le_rfl

theorem reserved_mono (OI : IPv4Address) (h : ∀ rsb ∈ rsbs, 0 ≤ rsb.reqBandwidth) (hpq : p ≤ q) :
    reserved rsbs OI p ≤ reserved rsbs OI q := by
  refine sum_le_sum fun rsb hrsb => ?_
  have hreq := h rsb hrsb
  split_ifs with hp hq hq
  · exact le_rfl
  · exact absurd ⟨hp.1, hp.2.trans hpq⟩ hq
  · exact hreq
  · exact le_rfl

theorem heldAt_eq (hpq : q.val + 1 = p.val) :
    heldAt rsbs OI p = reserved rsbs OI p - reserved rsbs OI q := by
  induction rsbs with
  | nil => simp
  | cons rsb rsbs ih =>
    rw [heldAt_cons, reserved_cons, reserved_cons, ih]
    have hsplit : rsb.session.holdingPri ≤ p ↔
        rsb.session.holdingPri ≤ q ∨ rsb.session.holdingPri = p := by
      rw [Fin.le_def, Fin.le_def, Fin.ext_iff]
      omega
    have hdisjoint : rsb.session.holdingPri = p → ¬rsb.session.holdingPri ≤ q := by
      rw [Fin.le_def, Fin.ext_iff]
      omega
    by_cases hOI : rsb.OI = OI
    · by_cases heq : rsb.session.holdingPri = p
      · rw [if_pos ⟨hOI, heq⟩, if_pos ⟨hOI, hsplit.2 (.inr heq)⟩,
          if_neg fun h => hdisjoint heq h.2]
        ring
      · have hiff := hsplit.trans (or_iff_left heq)
        simp only [hOI, heq, hiff, true_and, if_false]
        ring
    · simp [hOI]

/-! ### Preemption -/

/-- What the accounting sees of a block. -/
def account (rsb : ResvStateBlock) : ℕ × IPv4Address × SessionObj × ℚ :=
  (rsb.id, rsb.OI, rsb.session, rsb.reqBandwidth)

/-- What never changes of the account of a block. -/
def owner (rsb : ResvStateBlock) : ℕ × IPv4Address × SessionObj := (rsb.id, rsb.OI, rsb.session)

/-- Preemption gives `freed` back on the interface, at its priority and the weaker ones, which
covers the deficit when the blocks of the priority do; the other blocks keep what they have. -/
structure Frees (OI : IPv4Address) (p : Fin 8) (bandwidth : ℚ) (U : Fin 8 → ℚ)
    (rsbs : List ResvStateBlock) (s : (Fin 8 → ℚ) × List ResvStateBlock) (freed : ℚ) : Prop where
  freed_nonneg : 0 ≤ freed
  unResvBandwidth : ∀ i, s.1 i = if p ≤ i then U i + freed else U i
  reserved : ∀ OI' q, reserved s.2 OI' q =
    reserved rsbs OI' q - if OI' = OI ∧ p ≤ q then freed else 0
  covers : bandwidth ≤ heldAt rsbs OI p → bandwidth ≤ freed
  nonneg : ∀ rsb ∈ s.2, 0 ≤ rsb.reqBandwidth
  owner : s.2.map owner = rsbs.map owner
  kept : ∀ rsb ∈ rsbs, rsb.session.holdingPri ≠ p → rsb ∈ s.2

namespace Frees

variable {U : Fin 8 → ℚ} {s : (Fin 8 → ℚ) × List ResvStateBlock} {freed : ℚ}

/-- A block that has nothing to give. -/
theorem skip (h : Frees OI p bandwidth U rsbs s freed) (hreq : 0 ≤ rsb.reqBandwidth)
    (hskip : rsb.OI ≠ OI ∨ rsb.session.holdingPri ≠ p ∨ rsb.reqBandwidth = 0) :
    Frees OI p bandwidth U (rsb :: rsbs) (s.1, rsb :: s.2) freed := by
  refine ⟨h.freed_nonneg, h.unResvBandwidth, fun OI' q => ?_, fun hheld => h.covers ?_,
    forall_mem_cons.2 ⟨hreq, h.nonneg⟩, by simp [h.owner], ?_⟩
  · rw [reserved_cons, reserved_cons, h.reserved]
    ring
  · rw [heldAt_cons] at hheld
    have hzero :
        (if rsb.OI = OI ∧ rsb.session.holdingPri = p then rsb.reqBandwidth else 0) = 0 := by
      split_ifs with hheld
      · exact (hskip.resolve_left (not_not_intro hheld.1)).resolve_left (not_not_intro hheld.2)
      · rfl
    rwa [hzero, zero_add] at hheld
  · intro r hr hpri
    obtain rfl | hr := mem_cons.1 hr
    · exact mem_cons_self
    · exact mem_cons_of_mem _ (h.kept r hr hpri)

/-- The block that is preempted. -/
def preempted (rsb : ResvStateBlock) : ResvStateBlock :=
  { rsb with reqBandwidth := 0, commitScheduled := true }

theorem take (h : Frees OI p (bandwidth - rsb.reqBandwidth)
      (fun i => if p ≤ i then U i + rsb.reqBandwidth else U i) rsbs s freed)
    (hreq : 0 ≤ rsb.reqBandwidth) (hOI : rsb.OI = OI) (hpri : rsb.session.holdingPri = p) :
    Frees OI p bandwidth U (rsb :: rsbs) (s.1, preempted rsb :: s.2)
      (rsb.reqBandwidth + freed) := by
  refine ⟨add_nonneg hreq h.freed_nonneg, fun i => ?_, fun OI' q => ?_, fun hheld => ?_,
    forall_mem_cons.2 ⟨le_rfl, h.nonneg⟩, by simp [h.owner, preempted, Rsvp.owner], ?_⟩
  · rw [h.unResvBandwidth]
    split_ifs
    · ring
    · rfl
  · rw [reserved_cons, reserved_cons, h.reserved]
    simp only [preempted, hOI, hpri, ite_self, eq_comm (a := OI')]
    split_ifs <;> ring
  · rw [heldAt_cons, if_pos ⟨hOI, hpri⟩] at hheld
    have hcovers := h.covers (by linarith)
    linarith
  · intro r hr hne
    obtain rfl | hr := mem_cons.1 hr
    · exact absurd hpri hne
    · exact mem_cons_of_mem _ (h.kept r hr hne)

theorem done (h : ∀ rsb ∈ rsbs, 0 ≤ rsb.reqBandwidth) (hdone : bandwidth ≤ 0) :
    Frees OI p bandwidth U rsbs (U, rsbs) 0 :=
  ⟨le_rfl, fun i => by simp, fun OI' q => by simp, fun _ => hdone, h, rfl, fun _ hr _ => hr⟩

end Frees

theorem preempt_spec (OI : IPv4Address) (p : Fin 8) (bandwidth : ℚ) (U : Fin 8 → ℚ)
    (h : ∀ rsb ∈ rsbs, 0 ≤ rsb.reqBandwidth) :
    ∃ freed, Frees OI p bandwidth U rsbs (preempt OI p bandwidth U rsbs) freed := by
  induction rsbs generalizing bandwidth U with
  | nil => exact ⟨0, le_rfl, by simp [preempt], by simp [preempt], fun h => h, by simp [preempt],
      rfl, by simp⟩
  | cons rsb rsbs ih =>
    have hreq := h rsb mem_cons_self
    have hrest : ∀ r ∈ rsbs, 0 ≤ r.reqBandwidth := fun r hr => h r (mem_cons_of_mem _ hr)
    unfold preempt
    split_ifs with hskip hdone
    · obtain ⟨freed, hfreed⟩ := ih bandwidth U hrest
      exact ⟨freed, hfreed.skip hreq hskip⟩
    · push Not at hskip
      exact ⟨_, (Frees.done hrest hdone).take hreq hskip.1 hskip.2.1⟩
    · push Not at hskip
      obtain ⟨freed, hfreed⟩ := ih _ _ hrest
      exact ⟨_, hfreed.take hreq hskip.1 hskip.2.1⟩

/-! ### Allocation -/

/-- The loop of `allocateResource` before its round `k`, for a session with the given priorities:
the bandwidth has been taken at the priorities from the holding priority to `k`, and no block that
is at least as strong as the setup priority has been preempted. -/
structure Allocating (M : ℚ) (rsbs : List ResvStateBlock) (OI : IPv4Address)
    (holdingPri setupPri : Fin 8) (bandwidth : ℚ) (k : ℕ)
    (s : (Fin 8 → ℚ) × List ResvStateBlock) : Prop where
  nonneg : ∀ rsb ∈ s.2, 0 ≤ rsb.reqBandwidth
  avail : ∀ i, 0 ≤ s.1 i
  balance : ∀ i, s.1 i = M - reserved s.2 OI i - if holdingPri ≤ i ∧ i.val < k then bandwidth else 0
  room : k ≤ setupPri.val → bandwidth ≤ s.1 setupPri
  other : ∀ OI', OI' ≠ OI → ∀ q, reserved s.2 OI' q = reserved rsbs OI' q
  owner : s.2.map owner = rsbs.map owner
  kept : ∀ rsb ∈ rsbs, rsb.session.holdingPri ≤ setupPri → rsb ∈ s.2

namespace Allocating

variable {M : ℚ} {holdingPri setupPri : Fin 8} {k : ℕ} {s : (Fin 8 → ℚ) × List ResvStateBlock}

section

variable (h : Allocating M rsbs OI holdingPri setupPri bandwidth p.val s)
include h

/-- Nothing is taken before the holding priority. -/
theorem pass (hp : ¬holdingPri ≤ p) :
    Allocating M rsbs OI holdingPri setupPri bandwidth (p.val + 1) s := by
  refine ⟨h.nonneg, h.avail, fun i => ?_, fun hk => h.room (by omega), h.other, h.owner, h.kept⟩
  have hiff : holdingPri ≤ i ∧ i.val < p.val + 1 ↔ holdingPri ≤ i ∧ i.val < p.val := by
    rw [Fin.le_def] at hp ⊢
    omega
  rw [h.balance i]
  simp only [hiff]

/-- Up to the setup priority there is enough bandwidth left. -/
theorem setupPri_lt (hlt : s.1 p < bandwidth) : setupPri < p := by
  by_contra hle
  rw [not_lt] at hle
  have hroom := h.room hle
  have hmono := reserved_mono OI h.nonneg hle
  rw [h.balance, if_neg fun h => absurd h.2 (by rw [Fin.le_def] at hle; omega)] at hroom
  rw [h.balance, if_neg fun h => absurd h.2 (lt_irrefl _)] at hlt
  linarith

/-- The blocks of a weaker priority hold enough to cover what is missing there. -/
theorem deficit_le (hpri : holdingPri ≤ setupPri) (hlt : s.1 p < bandwidth) :
    bandwidth - s.1 p ≤ heldAt s.2 OI p := by
  have hsetup := h.setupPri_lt hlt
  rw [Fin.lt_def] at hsetup
  rw [Fin.le_def] at hpri
  -- the priority before this one has been served
  have hq : (⟨p.val - 1, by omega⟩ : Fin 8).val + 1 = p.val := Nat.sub_add_cancel (by omega)
  have havail := h.avail ⟨p.val - 1, by omega⟩
  rw [h.balance, if_pos ⟨Fin.le_def.2 (by dsimp only; omega), by dsimp only; omega⟩] at havail
  rw [heldAt_eq hq, h.balance p, if_neg fun h => absurd h.2 (lt_irrefl _)]
  linarith

theorem round (hpri : holdingPri ≤ setupPri) :
    Allocating M rsbs OI holdingPri setupPri bandwidth (p.val + 1)
      (if holdingPri ≤ p then allocateAt OI bandwidth s p else s) := by
  split_ifs with hp
  · have hbalance : ∀ i, update s.1 p (s.1 p - bandwidth) i = M - reserved s.2 OI i -
        if holdingPri ≤ i ∧ i.val < p.val + 1 then bandwidth else 0 := by
      intro i
      by_cases hi : i = p
      · subst hi
        rw [update_self, h.balance i, if_neg fun h => absurd h.2 (lt_irrefl _),
          if_pos ⟨hp, Nat.lt_succ_self _⟩]
        ring
      · have hiff : holdingPri ≤ i ∧ i.val < p.val + 1 ↔ holdingPri ≤ i ∧ i.val < p.val := by
          have hne : i.val ≠ p.val := fun heq => hi (Fin.ext heq)
          omega
        rw [update_of_ne hi, h.balance i]
        simp only [hiff]
    have havail : ∀ i, i ≠ p → 0 ≤ update s.1 p (s.1 p - bandwidth) i := fun i hi => by
      rw [update_of_ne hi]
      exact h.avail i
    unfold allocateAt
    dsimp only
    rw [update_self]
    split_ifs with hneg
    · have hlt : s.1 p < bandwidth := by linarith
      have hsetup := h.setupPri_lt hlt
      obtain ⟨freed, hfreed⟩ := preempt_spec OI p (-(s.1 p - bandwidth))
        (update s.1 p (s.1 p - bandwidth)) h.nonneg
      have hcovers := hfreed.covers (by linarith [h.deficit_le hpri hlt])
      refine ⟨hfreed.nonneg, fun i => ?_, fun i => ?_, fun hk => ?_, fun OI' hne q => ?_,
        hfreed.owner.trans h.owner, fun r hr hr' => ?_⟩
      · have hpos := hfreed.freed_nonneg
        rw [hfreed.unResvBandwidth]
        by_cases hi : i = p
        · subst hi
          rw [if_pos le_rfl, update_self]
          linarith
        · have hi' := havail i hi
          split_ifs <;> linarith
      · rw [hfreed.unResvBandwidth, hfreed.reserved, hbalance i]
        simp only [true_and]
        split_ifs <;> ring
      · rw [Fin.lt_def] at hsetup
        omega
      · rw [hfreed.reserved, if_neg fun h => hne h.1, sub_zero, h.other OI' hne]
      · exact hfreed.kept r (h.kept r hr hr') (ne_of_lt (hr'.trans_lt hsetup))
    · refine ⟨h.nonneg, fun i => ?_, hbalance, fun hk => ?_, h.other, h.owner, h.kept⟩
      · by_cases hi : i = p
        · subst hi
          dsimp only
          rw [update_self]
          linarith
        · exact havail i hi
      · have hne : setupPri ≠ p := fun heq => by subst heq; omega
        dsimp only
        rw [update_of_ne hne]
        exact h.room (by omega)
  · exact h.pass hp

end

/-- A loop over all the priorities. -/
theorem foldl_finRange {σ : Type} {I : ℕ → σ → Prop} {m : ℕ} {f : σ → Fin m → σ}
    (hstep : ∀ (i : Fin m) s, I i.val s → I (i.val + 1) (f s i)) {s : σ} (h0 : I 0 s) :
    I m ((finRange m).foldl f s) := by
  induction m with
  | zero => simpa using h0
  | succ m ih =>
    rw [finRange_succ_last, foldl_append, foldl_map]
    exact hstep (Fin.last m) _ (ih (f := fun s i => f s i.castSucc)
      fun i s hs => hstep i.castSucc s hs)

end Allocating

namespace RSVP

variable {numLinks : ℕ} {n n' : RSVP numLinks} {i : Fin numLinks}

/-- The entry of the `TED` for the link of one of the interfaces. -/
structure IsLocalLink (n : RSVP numLinks) (OI : IPv4Address) (i : Fin numLinks) : Prop where
  specified : OI.isUnspecified = false
  isLocalAddress : n.isLocalAddress OI = true
  linkIndex : n.linkIndex OI = some i

theorem isLocalLink_of_same (h : n'.IsLocalLink OI i) (hrouter : n'.routerId = n.routerId)
    (haddrs : n'.interfaceAddrs = n.interfaceAddrs) (hted : n'.ted = n.ted) :
    n.IsLocalLink OI i := by
  have haddr : n'.isLocalAddress OI = n.isLocalAddress OI := by
    rw [RSVP.isLocalAddress, RSVP.isLocalAddress, haddrs]
  have hindex : n'.linkIndex OI = n.linkIndex OI := by
    rw [RSVP.linkIndex, RSVP.linkIndex, hted, hrouter]
  exact ⟨h.specified, haddr ▸ h.isLocalAddress, hindex ▸ h.linkIndex⟩

/-- What remains of every local link, when `pending OI p` has been taken from it that no block has
yet, or given back by a block that still has it. -/
structure Balanced (n : RSVP numLinks) (pending : IPv4Address → Fin 8 → ℚ) : Prop where
  ids : (n.RSBList.map ResvStateBlock.id).Nodup
  fresh : ∀ rsb ∈ n.RSBList, rsb.id ≤ n.maxRsbId
  nonneg : ∀ rsb ∈ n.RSBList, 0 ≤ rsb.reqBandwidth
  priorities : ∀ rsb ∈ n.RSBList, rsb.session.holdingPri ≤ rsb.session.setupPri
  balance : ∀ OI i, n.IsLocalLink OI i → ∀ p, (n.ted i).unResvBandwidth p =
    (n.ted i).maxBandwidth - reserved n.RSBList OI p - pending OI p
  avail : ∀ OI i, n.IsLocalLink OI i → ∀ p, 0 ≤ (n.ted i).unResvBandwidth p

def Inv (n : RSVP numLinks) : Prop := n.Balanced fun _ _ => 0

/-- A change that the accounting does not see. -/
structure SameAccounts (n n' : RSVP numLinks) : Prop where
  routerId : n'.routerId = n.routerId
  interfaceAddrs : n'.interfaceAddrs = n.interfaceAddrs
  ted : n'.ted = n.ted
  maxRsbId : n'.maxRsbId = n.maxRsbId
  accounts : n'.RSBList.map account = n.RSBList.map account

namespace SameAccounts

theorem refl : SameAccounts n n := ⟨rfl, rfl, rfl, rfl, rfl⟩

theorem trans {n'' : RSVP numLinks} (h : SameAccounts n n') (h' : SameAccounts n' n'') :
    SameAccounts n n'' :=
  ⟨h'.routerId.trans h.routerId, h'.interfaceAddrs.trans h.interfaceAddrs, h'.ted.trans h.ted,
    h'.maxRsbId.trans h.maxRsbId, h'.accounts.trans h.accounts⟩

end SameAccounts

theorem reserved_eq_of_accounts
    (h : rsbs'.map account = rsbs.map account) : reserved rsbs' OI p = reserved rsbs OI p := by
  have hsum : ∀ l : List ResvStateBlock, reserved l OI p = ((l.map account).map fun a =>
      if a.2.1 = OI ∧ a.2.2.1.holdingPri ≤ p then a.2.2.2 else 0).sum := fun l => by
    rw [map_map]
    rfl
  rw [hsum, hsum, h]

theorem forall_of_accounts
    {P : ℕ × IPv4Address × SessionObj × ℚ → Prop} (h : rsbs'.map account = rsbs.map account)
    (hall : ∀ rsb ∈ rsbs, P (account rsb)) : ∀ rsb ∈ rsbs', P (account rsb) := by
  rw [← forall_mem_map (P := P), h, forall_mem_map]
  exact hall

theorem Balanced.congr {pending : IPv4Address → Fin 8 → ℚ} (h : n.Balanced pending)
    (hsame : SameAccounts n n') : n'.Balanced pending := by
  refine ⟨?_, ?_, forall_of_accounts (P := fun a => 0 ≤ a.2.2.2) hsame.accounts h.nonneg,
    forall_of_accounts (P := fun a => a.2.2.1.holdingPri ≤ a.2.2.1.setupPri) hsame.accounts
      h.priorities, fun OI i hl p => ?_, fun OI i hl => ?_⟩
  · have hids : ∀ l : List ResvStateBlock,
        l.map ResvStateBlock.id = (l.map account).map Prod.fst := fun l => by
      rw [map_map]
      rfl
    rw [hids, hsame.accounts, ← hids]
    exact h.ids
  · rw [hsame.maxRsbId]
    exact forall_of_accounts (P := fun a => a.1 ≤ n.maxRsbId) hsame.accounts h.fresh
  · rw [hsame.ted, reserved_eq_of_accounts hsame.accounts]
    exact h.balance OI i (isLocalLink_of_same hl hsame.routerId hsame.interfaceAddrs hsame.ted) p
  · rw [hsame.ted]
    exact h.avail OI i (isLocalLink_of_same hl hsame.routerId hsame.interfaceAddrs hsame.ted)

theorem Inv.congr (h : n.Inv) (hsame : SameAccounts n n') : n'.Inv := Balanced.congr h hsame

/-- Bandwidth that a session takes of a link, or gives back to it. -/
def taken (OI : IPv4Address) (holdingPri : Fin 8) (bandwidth : ℚ) : IPv4Address → Fin 8 → ℚ :=
  fun OI' p => if OI' = OI ∧ holdingPri ≤ p then bandwidth else 0

/-- The interface of a link is the one in its entry. -/
theorem IsLocalLink.localAddress_eq (h : n.IsLocalLink OI i) : (n.ted i).localAddress = OI := by
  have hfound := find?_some h.linkIndex
  simp only [Bool.and_eq_true, beq_iff_eq] at hfound
  exact hfound.2

variable {j : Fin numLinks}

theorem isLocalLink_setLink (rsbs : List ResvStateBlock) (U : Fin 8 → ℚ) (log : List Observation) :
    IsLocalLink { n with
      ted := update n.ted j { n.ted j with unResvBandwidth := U }
      RSBList := rsbs
      log } OI i ↔ n.IsLocalLink OI i := by
  have hindex : linkIndex { n with
      ted := update n.ted j { n.ted j with unResvBandwidth := U }
      RSBList := rsbs
      log } OI = n.linkIndex OI := by
    unfold linkIndex
    refine congrArg (find? · _) (funext fun k => ?_)
    by_cases hk : k = j
    · subst hk
      simp
    · simp [update_of_ne hk]
  exact ⟨fun h => ⟨h.specified, h.isLocalAddress, hindex ▸ h.linkIndex⟩,
    fun h => ⟨h.specified, h.isLocalAddress, hindex ▸ h.linkIndex⟩⟩

/-- What `allocateResource` leaves alone. -/
structure Allocated (n n' : RSVP numLinks) (setupPri : Fin 8) : Prop where
  owner : n'.RSBList.map owner = n.RSBList.map owner
  kept : ∀ rsb ∈ n.RSBList, rsb.session.holdingPri ≤ setupPri → rsb ∈ n'.RSBList

theorem forall_of_owners
    {P : ℕ × IPv4Address × SessionObj → Prop} (h : rsbs'.map owner = rsbs.map owner)
    (hall : ∀ rsb ∈ rsbs, P (owner rsb)) : ∀ rsb ∈ rsbs', P (owner rsb) := by
  rw [← forall_mem_map (P := P), h, forall_mem_map]
  exact hall

theorem ids_of_owners (h : rsbs'.map owner = rsbs.map owner) :
    rsbs'.map ResvStateBlock.id = rsbs.map ResvStateBlock.id := by
  have hids : ∀ l : List ResvStateBlock,
      l.map ResvStateBlock.id = (l.map owner).map Prod.fst := fun l => by
    rw [map_map]
    rfl
  rw [hids, h, ← hids]

variable {session : SessionObj}

/-- The state after the loop of `allocateResource`. -/
theorem Inv.setLink (h : n.Inv)
    (hlink : n.IsLocalLink OI j) {s : (Fin 8 → ℚ) × List ResvStateBlock}
    (hs : Allocating (n.ted j).maxBandwidth n.RSBList OI session.holdingPri session.setupPri
      bandwidth 8 s) (log : List Observation) :
    Balanced { n with
      ted := update n.ted j { n.ted j with unResvBandwidth := s.1 }
      RSBList := s.2
      log } (taken OI session.holdingPri bandwidth) := by
  refine ⟨?_, forall_of_owners (P := fun a => a.1 ≤ n.maxRsbId) hs.owner h.fresh, hs.nonneg,
    forall_of_owners (P := fun a => a.2.2.holdingPri ≤ a.2.2.setupPri) hs.owner h.priorities,
    fun OI' i hl p => ?_, fun OI' i hl p => ?_⟩
  · dsimp only
    rw [ids_of_owners hs.owner]
    exact h.ids
  all_goals
    rw [isLocalLink_setLink] at hl
    dsimp only
    by_cases hi : i = j
  · subst hi
    obtain rfl : OI' = OI := hl.localAddress_eq.symm.trans hlink.localAddress_eq
    rw [update_self]
    dsimp only
    rw [hs.balance p, taken]
    simp [p.isLt]
  · have hne : OI' ≠ OI := fun heq => by
      subst heq
      exact hi (Option.some.inj (hl.linkIndex.symm.trans hlink.linkIndex))
    rw [update_of_ne hi, h.balance OI' i hl p, hs.other OI' hne, taken,
      if_neg fun hand => hne hand.1]
  · subst hi
    rw [update_self]
    exact hs.avail p
  · rw [update_of_ne hi]
    exact h.avail OI' i hl p

theorem Inv.allocateResource (h : n.Inv)
    (hpri : session.holdingPri ≤ session.setupPri) {bandwidth : ℚ}
    (hres : n.allocateResource OI session bandwidth = .ok (some n')) :
    n'.Balanced (taken OI session.holdingPri bandwidth) ∧ Allocated n n' session.setupPri := by
  -- nothing is taken, of a link at least
  have hnothing : (∀ i, n.IsLocalLink OI i → bandwidth = 0) →
      n.Balanced (taken OI session.holdingPri bandwidth) ∧ Allocated n n session.setupPri := by
    intro hzero
    refine ⟨⟨h.ids, h.fresh, h.nonneg, h.priorities, fun OI' i hl p => ?_, h.avail⟩, rfl,
      fun _ hr _ => hr⟩
    rw [h.balance OI' i hl p, taken]
    split_ifs with heq
    · rw [hzero i (heq.1 ▸ hl)]
    · rfl
  unfold RSVP.allocateResource at hres
  split_ifs at hres with hunspec hlocal hzero
  · cases hres
    exact hnothing fun i hl => absurd hunspec (by simp [hl.specified])
  · cases hres
    exact hnothing fun i hl => absurd hlocal (by simp [hl.isLocalAddress])
  · cases hres
    exact hnothing fun _ _ => hzero
  · cases hindex : n.linkIndex OI with
    | none =>
      rw [hindex] at hres
      cases hres
    | some j =>
      rw [hindex] at hres
      dsimp only at hres
      have hroom : ¬(n.ted j).unResvBandwidth session.setupPri < bandwidth := fun hlt => by
        rw [if_pos hlt] at hres
        cases hres
      rw [if_neg hroom] at hres
      cases Except.ok.inj hres
      have hlink : n.IsLocalLink OI j := ⟨by simpa using hunspec, by simpa using hlocal, hindex⟩
      have hloop := Allocating.foldl_finRange
        (I := Allocating (n.ted j).maxBandwidth n.RSBList OI session.holdingPri session.setupPri
          bandwidth)
        (f := fun s p => if session.holdingPri ≤ p then allocateAt OI bandwidth s p else s)
        (fun p s hs => hs.round hpri) (s := ((n.ted j).unResvBandwidth, n.RSBList))
        ⟨h.nonneg, h.avail OI j hlink, fun i => by simpa using h.balance OI j hlink i,
          fun _ => not_lt.1 hroom, fun _ _ _ => rfl, rfl, fun _ hr _ => hr⟩
      exact ⟨h.setLink hlink hloop _, hloop.owner, hloop.kept⟩

/-! ### A block takes or returns what is pending -/

theorem eq_of_id_eq (hids : (rsbs.map ResvStateBlock.id).Nodup) {r r' : ResvStateBlock}
    (hr : r ∈ rsbs) (hr' : r' ∈ rsbs) (hid : r.id = r'.id) : r = r' :=
  inj_on_of_nodup_map hids hr hr' hid

variable {id : ℕ}

theorem reserved_map_add (hids : (rsbs.map ResvStateBlock.id).Nodup) (hr : rsb ∈ rsbs)
    (hid : rsb.id = id) :
    reserved (rsbs.map fun r =>
      if r.id = id then { r with reqBandwidth := r.reqBandwidth + bandwidth } else r) OI p =
      reserved rsbs OI p + if OI = rsb.OI ∧ rsb.session.holdingPri ≤ p then bandwidth else 0 := by
  induction rsbs with
  | nil => cases hr
  | cons r rsbs ih =>
    rw [map_cons, nodup_cons] at hids
    rw [map_cons, reserved_cons, reserved_cons]
    obtain rfl | hr := mem_cons.1 hr
    · have hrest : (rsbs.map fun r => if r.id = id then
          { r with reqBandwidth := r.reqBandwidth + bandwidth } else r) = rsbs := by
        refine (map_congr_left fun r hr => ?_).trans (map_id _)
        rw [if_neg fun heq => hids.1 (mem_map.2 ⟨r, hr, heq.trans hid.symm⟩)]
        rfl
      rw [hrest, if_pos hid]
      simp only [eq_comm (a := OI)]
      split_ifs <;> ring
    · have hne : r.id ≠ id := fun heq =>
        hids.1 (mem_map.2 ⟨rsb, hr, hid.trans heq.symm⟩)
      rw [if_neg hne, ih hids.2 hr]
      ring

theorem reserved_eraseP (hfind : rsbs.find? (·.id == id) = some rsb) :
    reserved (rsbs.eraseP (·.id == id)) OI p =
      reserved rsbs OI p -
        if OI = rsb.OI ∧ rsb.session.holdingPri ≤ p then rsb.reqBandwidth else 0 := by
  induction rsbs with
  | nil => cases hfind
  | cons r rsbs ih =>
    by_cases hid : (r.id == id) = true
    · rw [find?_cons_of_pos (p := fun r : ResvStateBlock => r.id == id) hid] at hfind
      cases hfind
      rw [eraseP_cons_of_pos (p := fun r : ResvStateBlock => r.id == id) hid, reserved_cons]
      simp only [eq_comm (a := OI)]
      ring
    · rw [find?_cons_of_neg (p := fun r : ResvStateBlock => r.id == id) hid] at hfind
      rw [eraseP_cons_of_neg (p := fun r : ResvStateBlock => r.id == id) hid,
        reserved_cons, reserved_cons, ih hfind]
      ring

/-- The block takes what has been allocated for it. -/
theorem Balanced.addBandwidth (hr : rsb ∈ n.RSBList) (hid : rsb.id = id)
    (h : n.Balanced (taken rsb.OI rsb.session.holdingPri bandwidth))
    (hnonneg : 0 ≤ rsb.reqBandwidth + bandwidth) :
    Inv (n.modifyRSB id fun r => { r with reqBandwidth := r.reqBandwidth + bandwidth }) := by
  have howner : (n.modifyRSB id fun r =>
      { r with reqBandwidth := r.reqBandwidth + bandwidth }).RSBList.map owner =
        n.RSBList.map owner := by
    rw [modifyRSB, map_map]
    refine map_congr_left fun r _ => ?_
    simp only [comp]
    split_ifs <;> rfl
  refine ⟨?_, forall_of_owners (P := fun a => a.1 ≤ n.maxRsbId) howner h.fresh, ?_,
    forall_of_owners (P := fun a => a.2.2.holdingPri ≤ a.2.2.setupPri) howner h.priorities,
    fun OI i hl p => ?_, fun OI i hl => h.avail OI i (isLocalLink_of_same hl rfl rfl rfl)⟩
  · rw [ids_of_owners howner]
    exact h.ids
  · intro r' hr'
    obtain ⟨r, hmem, rfl⟩ := mem_map.1 hr'
    split_ifs with heq
    · obtain rfl := eq_of_id_eq h.ids hmem hr (heq.trans hid.symm)
      exact hnonneg
    · exact h.nonneg r hmem
  · have hbalance := h.balance OI i (isLocalLink_of_same hl rfl rfl rfl) p
    rw [modifyRSB]
    dsimp only
    rw [reserved_map_add h.ids hr hid, hbalance, taken]
    ring

/-- The block is removed after it has returned what it had. -/
theorem Balanced.erase (hfind : n.RSBList.find? (·.id == id) = some rsb)
    (h : n.Balanced (taken rsb.OI rsb.session.holdingPri (-rsb.reqBandwidth))) :
    Inv { n with RSBList := n.RSBList.eraseP (·.id == id) } := by
  have hsub : (n.RSBList.eraseP (·.id == id)).Sublist n.RSBList := eraseP_sublist
  refine ⟨h.ids.sublist (hsub.map _), fun r hr => h.fresh r (hsub.subset hr),
    fun r hr => h.nonneg r (hsub.subset hr), fun r hr => h.priorities r (hsub.subset hr),
    fun OI i hl p => ?_, fun OI i hl => h.avail OI i (isLocalLink_of_same hl rfl rfl rfl)⟩
  have hbalance := h.balance OI i (isLocalLink_of_same hl rfl rfl rfl) p
  dsimp only
  rw [reserved_eraseP hfind, hbalance, taken]
  split_ifs <;> ring

/-! ### Changes that the accounting does not see -/

theorem sameAccounts_modifyRSB (id : ℕ) {f : ResvStateBlock → ResvStateBlock}
    (hf : ∀ r, account (f r) = account r) : SameAccounts n (n.modifyRSB id f) := by
  refine ⟨rfl, rfl, rfl, rfl, ?_⟩
  rw [modifyRSB, map_map]
  refine map_congr_left fun r _ => ?_
  simp only [comp]
  split_ifs
  · exact hf r
  · rfl

theorem sameAccounts_removeLibEntry {inLabel : ℤ} (h : n.removeLibEntry inLabel = .ok n') :
    SameAccounts n n' := by
  unfold removeLibEntry at h
  split_ifs at h
  cases h
  exact ⟨rfl, rfl, rfl, rfl, rfl⟩

theorem sameAccounts_installLibEntry {inLabel newInLabel : ℤ}
    (h : n.installLibEntry inLabel = .ok (n', newInLabel)) : SameAccounts n n' := by
  unfold installLibEntry at h
  split_ifs at h
  · cases h
    exact ⟨rfl, rfl, rfl, rfl, rfl⟩
  · cases h
    exact .refl

variable {flows : List FlowDescriptor}

theorem sameAccounts_installLabels {inLabels inLabels' : List ℤ}
    (h : n.installLabels flows inLabels = .ok (n', inLabels')) : SameAccounts n n' := by
  induction flows generalizing n inLabels inLabels' with
  | nil =>
    cases h
    exact .refl
  | cons flow flows ih =>
    cases inLabels with
    | nil => cases h
    | cons oldInLabel inLabels =>
      unfold installLabels at h
      obtain ⟨⟨n1, inLabel⟩, hinstall, h⟩ := bind_eq_ok.1 h
      dsimp only at h
      split_ifs at h
      · cases h
      obtain ⟨⟨n2, ls⟩, hrest, h⟩ := bind_eq_ok.1 h
      cases h
      have hsame := ih hrest
      refine (sameAccounts_installLibEntry hinstall).trans (.trans ?_ hsame)
      refine ⟨rfl, rfl, rfl, rfl, ?_⟩
      rw [map_map]
      refine map_congr_left fun r _ => ?_
      simp only [comp]
      split_ifs <;> rfl

variable {inLabels : List ℤ}

theorem sameAccounts_install (h : n.install id flows inLabels = .ok n') : SameAccounts n n' := by
  unfold install at h
  split_ifs at h
  obtain ⟨⟨n1, inLabels'⟩, hlabels, h⟩ := bind_eq_ok.1 h
  cases h
  exact (sameAccounts_installLabels hlabels).trans (sameAccounts_modifyRSB id fun _ => rfl)

theorem sameAccounts_rejectFlow {sender : SenderTemplateObj}
    {oldInLabel : ℤ} (h : n.rejectFlow session sender oldInLabel = .ok n') :
    SameAccounts n n' := by
  have hobserve : ∀ o, SameAccounts n (n.observe o) := fun _ => ⟨rfl, rfl, rfl, rfl, rfl⟩
  unfold rejectFlow at h
  split_ifs at h
  · exact (hobserve _).trans (sameAccounts_removeLibEntry h)
  · cases h
    exact hobserve _

theorem sameAccounts_removeRsbFilter {id index : ℕ} (h : n.removeRsbFilter id index = .ok n') :
    SameAccounts n n' := by
  unfold removeRsbFilter at h
  cases hfind : n.findRsbById id with
  | none =>
    rw [hfind] at h
    cases h
  | some rsb =>
    rw [hfind] at h
    dsimp only at h
    split_ifs at h
    · obtain ⟨n1, hlib, h⟩ := bind_eq_ok.1 h
      cases h
      exact (sameAccounts_removeLibEntry hlib).trans (sameAccounts_modifyRSB id fun _ => rfl)
    · cases h
      exact sameAccounts_modifyRSB id fun _ => rfl

/-! ### Commits and removals -/

theorem maxFlow_fst_nonneg (flows : List FlowDescriptor) : 0 ≤ (maxFlow flows).1 := by
  have hfold : ∀ (l : List (FlowDescriptor × ℕ)) (req : ℚ × ℕ), 0 ≤ req.1 →
      0 ≤ (l.foldl (fun req f =>
        if req.1 < f.1.reqBandwidth then (f.1.reqBandwidth, f.2) else req) req).1 := by
    intro l
    induction l with
    | nil => exact fun _ hreq => hreq
    | cons f l ih =>
      intro req hreq
      refine ih _ ?_
      dsimp only
      split_ifs with hlt
      · exact hreq.trans hlt.le
      · exact hreq
  exact hfold _ _ le_rfl

/-- The module refuses only what is more than is left of a link. -/
theorem allocateResource_eq_none (h : n.allocateResource OI session bandwidth = .ok none) :
    ∃ i, n.IsLocalLink OI i ∧ (n.ted i).unResvBandwidth session.setupPri < bandwidth := by
  unfold allocateResource at h
  split_ifs at h with hunspec hlocal hzero
  · cases h
  · cases h
  · cases h
  · cases hindex : n.linkIndex OI with
    | none =>
      rw [hindex] at h
      cases h
    | some j =>
      rw [hindex] at h
      dsimp only at h
      split_ifs at h with hroom
      · exact ⟨j, ⟨by simpa using hunspec, by simpa using hlocal, hindex⟩, hroom⟩
      · cases h

theorem find?_id_eq_some (hids : (rsbs.map ResvStateBlock.id).Nodup) (hr : rsb ∈ rsbs)
    (hid : rsb.id = id) : rsbs.find? (·.id == id) = some rsb := by
  cases hfind : rsbs.find? (·.id == id) with
  | none => exact absurd hid (by simpa using find?_eq_none.1 hfind rsb hr)
  | some r =>
    have hrid : r.id = id := by simpa using find?_some hfind
    rw [eq_of_id_eq hids (mem_of_find?_eq_some hfind) hr (hrid.trans hid.symm)]

theorem Inv.removeRSB (h : n.Inv) (hres : n.removeRSB id = .ok n') : n'.Inv := by
  unfold RSVP.removeRSB at hres
  cases hfind : n.findRsbById id with
  | none =>
    rw [hfind] at hres
    cases hres
  | some rsb =>
    have hmem := mem_of_find?_eq_some hfind
    have hid : rsb.id = id := by simpa using find?_some hfind
    rw [hfind] at hres
    dsimp only at hres
    split_ifs at hres with hflows hpos
    · obtain ⟨freed, hfreed, hres⟩ := bind_eq_ok.1 hres
      cases hres
      cases freed with
      | none =>
        obtain ⟨i, hl, hlt⟩ := allocateResource_eq_none hfreed
        have havail := h.avail _ i hl rsb.session.setupPri
        linarith
      | some n1 =>
        have hpri := h.priorities rsb hmem
        obtain ⟨hbalanced, hallocated⟩ := h.allocateResource hpri hfreed
        exact hbalanced.erase
          (find?_id_eq_some hbalanced.ids (hallocated.kept rsb hmem hpri) hid)
    · cases hres
      have hzero : rsb.reqBandwidth = 0 := le_antisymm (not_lt.1 hpos) (h.nonneg rsb hmem)
      have htaken : taken rsb.OI rsb.session.holdingPri (-rsb.reqBandwidth) = fun _ _ => 0 := by
        funext OI p
        simp [taken, hzero]
      refine Balanced.erase hfind ?_
      rw [htaken]
      exact h

theorem Inv.commitFlows (h : n.Inv) (hr : ∃ r ∈ n.RSBList, account r = account rsb)
    (hres : n.commitFlows rsb flows inLabels = .ok n') : n'.Inv := by
  -- the flow with the greatest bandwidth is given up until the rest can be served
  induction hk : flows.length using Nat.strong_induction_on generalizing n flows inLabels with
  | _ k ih =>
    subst hk
    rw [RSVP.commitFlows] at hres
    by_cases hempty : flows = []
    · rw [dif_pos hempty] at hres
      refine Inv.removeRSB ?_ hres
      exact h.congr (sameAccounts_modifyRSB rsb.id fun _ => rfl)
    rw [dif_neg hempty] at hres
    dsimp only at hres
    by_cases hneeded : (maxFlow flows).1 - rsb.reqBandwidth = 0
    · rw [if_pos hneeded] at hres
      exact h.congr (sameAccounts_install hres)
    rw [if_neg hneeded] at hres
    obtain ⟨r, hmem, hacc⟩ := hr
    obtain ⟨hid, hOI, hsession, hreq⟩ : r.id = rsb.id ∧ r.OI = rsb.OI ∧
        r.session = rsb.session ∧ r.reqBandwidth = rsb.reqBandwidth := by
      simpa [account] using hacc
    cases halloc : n.allocateResource rsb.OI rsb.session ((maxFlow flows).1 - rsb.reqBandwidth) with
    | error e =>
      rw [halloc] at hres
      cases hres
    | ok allocated =>
      rw [halloc] at hres
      cases allocated with
      | some n1 =>
        have hpri := hsession ▸ h.priorities r hmem
        obtain ⟨hbalanced, hallocated⟩ := h.allocateResource hpri halloc
        rw [← hOI, ← hsession] at hbalanced
        have hadded := hbalanced.addBandwidth
          (hallocated.kept r hmem (hsession ▸ hpri)) hid (by
            rw [hreq]
            linarith [maxFlow_fst_nonneg flows])
        exact hadded.congr (sameAccounts_install hres)
      | none =>
        dsimp only at hres
        split_ifs at hres with hlength
        split at hres
        · cases hres
        · rename_i n1 hreject
          have hsame := sameAccounts_rejectFlow hreject
          have hlt : (flows.eraseIdx (maxFlow flows).2).length < flows.length := by
            rw [length_eraseIdx_of_lt (maxFlow_snd_lt hempty)]
            exact Nat.sub_one_lt (Nat.ne_of_gt (length_pos_of_ne_nil hempty))
          refine ih _ hlt (h.congr hsame) ?_ hres rfl
          have hin : account r ∈ n1.RSBList.map account := hsame.accounts ▸ mem_map_of_mem hmem
          obtain ⟨r', hr', hacc'⟩ := mem_map.1 hin
          exact ⟨r', hr', hacc'.trans hacc⟩

/-! ### Messages -/

theorem Inv.createRSB (h : n.Inv)
    (hpri : session.holdingPri ≤ session.setupPri) (nextHopAddress OI : IPv4Address)
    (flows : List FlowDescriptor) (timeoutScheduled : Bool) :
    (n.createRSB session nextHopAddress OI flows timeoutScheduled).Inv := by
  unfold RSVP.createRSB
  refine ⟨?_, ?_, ?_, ?_, fun OI i hl p => ?_, fun OI i hl =>
    h.avail OI i (isLocalLink_of_same hl rfl rfl rfl)⟩
  · rw [map_append, map_singleton]
    refine nodup_append.2 ⟨h.ids, nodup_singleton _, fun a ha b hb heq => ?_⟩
    obtain ⟨r, hr, rfl⟩ := mem_map.1 ha
    have hle := h.fresh r hr
    rw [heq, mem_singleton.1 hb] at hle
    exact absurd hle (Nat.not_succ_le_self _)
  · intro r hr
    obtain hr | hr := mem_append.1 hr
    · exact (h.fresh r hr).trans (Nat.le_succ _)
    · rw [mem_singleton.1 hr]
  · intro r hr
    obtain hr | hr := mem_append.1 hr
    · exact h.nonneg r hr
    · rw [mem_singleton.1 hr]
  · intro r hr
    obtain hr | hr := mem_append.1 hr
    · exact h.priorities r hr
    · rw [mem_singleton.1 hr]
      exact hpri
  · have hbalance := h.balance OI i (isLocalLink_of_same hl rfl rfl rfl) p
    dsimp only
    rw [reserved_append, hbalance]
    simp

theorem account_foldl_updateFlow (flows : List FlowDescriptor) (rsb : ResvStateBlock) :
    account (flows.foldl ResvStateBlock.updateFlow rsb) = account rsb := by
  induction flows generalizing rsb with
  | nil => rfl
  | cons flow flows ih =>
    rw [foldl_cons, ih]
    unfold ResvStateBlock.updateFlow
    split
    · split_ifs <;> rfl
    · rfl

theorem Inv.processResvMsg (h : n.Inv)
    (hpri : session.holdingPri ≤ session.setupPri) (nhop lih : IPv4Address)
    (flows : List FlowDescriptor) : (n.processResvMsg session nhop lih flows).Inv := by
  unfold RSVP.processResvMsg
  split
  · exact h.createRSB hpri nhop lih flows true
  · refine h.congr (sameAccounts_modifyRSB _ fun r => ?_)
    exact account_foldl_updateFlow flows r

theorem Inv.processEgressPath (h : n.Inv)
    (hpri : session.holdingPri ≤ session.setupPri) (previousHopAddress : IPv4Address)
    (sender : SenderTemplateObj) (reqBandwidth : ℚ) :
    (n.processEgressPath session previousHopAddress sender reqBandwidth).Inv := by
  unfold RSVP.processEgressPath
  split
  · exact h.createRSB hpri _ _ _ _
  · exact h

theorem sameAccounts_removeFilters {id fuel i : ℕ} (h : removeFilters id fuel i n = .ok n') :
    SameAccounts n n' := by
  induction fuel generalizing i n with
  | zero =>
    cases h
    exact .refl
  | succ fuel ih =>
    unfold removeFilters at h
    cases hfind : n.findRsbById id with
    | none =>
      rw [hfind] at h
      cases h
    | some rsb =>
      rw [hfind] at h
      dsimp only at h
      split_ifs at h
      · obtain ⟨n1, hremove, h⟩ := bind_eq_ok.1 h
        exact (sameAccounts_removeRsbFilter hremove).trans (ih h)
      · cases h
        exact .refl

theorem Inv.processRSB_TIMEOUT (h : n.Inv) (hres : n.processRSB_TIMEOUT rsb = .ok n') : n'.Inv := by
  unfold RSVP.processRSB_TIMEOUT at hres
  split_ifs at hres
  obtain ⟨n1, hfilters, hres⟩ := bind_eq_ok.1 hres
  exact (h.congr (sameAccounts_removeFilters hfilters)).removeRSB hres

theorem Inv.clear (h : n.Inv) (hres : n.clear = .ok n') : n'.Inv := by
  have hfold : ∀ (l : List ResvStateBlock) (m : RSVP numLinks), m.Inv →
      l.foldlM (fun n rsb => n.removeRSB rsb.id) m = .ok n' → n'.Inv := by
    intro l
    induction l with
    | nil =>
      intro m hm hres
      cases hres
      exact hm
    | cons rsb l ih =>
      intro m hm hres
      rw [foldlM_cons] at hres
      obtain ⟨m1, hremove, hres⟩ := bind_eq_ok.1 hres
      exact ih m1 (hm.removeRSB hremove) hres
  exact hfold _ n h hres

theorem Inv.handleMessage (h : n.Inv) {m : Message} (hm : n.CanHappen m)
    (hstep : n.handleMessage m = .ok n') : n'.Inv := by
  cases m with
  | resv session nhop lih flows =>
    cases hstep
    exact h.processResvMsg hm.1 nhop lih flows
  | egressPath session previousHopAddress sender reqBandwidth =>
    cases hstep
    exact h.processEgressPath hm previousHopAddress sender reqBandwidth
  | pathRemoved session sender =>
    have hremove : n.removePSB session sender = .ok n' := hstep
    unfold removePSB at hremove
    split at hremove
    · cases hremove
      exact h
    · exact h.congr (sameAccounts_removeRsbFilter hremove)
  | commitTimer id =>
    unfold RSVP.handleMessage at hstep
    dsimp only at hstep
    cases hfind : n.findRsbById id with
    | none =>
      rw [hfind] at hstep
      cases hstep
    | some rsb =>
      rw [hfind] at hstep
      have hsame : SameAccounts n (n.modifyRSB id fun rsb =>
          { rsb with commitScheduled := false }) := sameAccounts_modifyRSB id fun _ => rfl
      refine (h.congr hsame).commitFlows ?_ hstep
      have hin : account rsb ∈ (n.modifyRSB id fun rsb =>
          { rsb with commitScheduled := false }).RSBList.map account :=
        hsame.accounts ▸ mem_map_of_mem (mem_of_find?_eq_some hfind)
      exact mem_map.1 hin
  | timeout id =>
    unfold RSVP.handleMessage at hstep
    dsimp only at hstep
    cases hfind : n.findRsbById id with
    | none =>
      rw [hfind] at hstep
      cases hstep
    | some rsb =>
      rw [hfind] at hstep
      refine Inv.processRSB_TIMEOUT ?_ hstep
      exact h.congr (sameAccounts_modifyRSB id fun _ => rfl)
  | clear => exact h.clear hstep

/-! ### Runs -/

/-- The module before its first message: nothing is reserved, and all of every link is left. -/
structure Initial (n : RSVP numLinks) : Prop where
  empty : n.RSBList = []
  maxBandwidth_nonneg : ∀ i, 0 ≤ (n.ted i).maxBandwidth
  unResvBandwidth : ∀ i p, (n.ted i).unResvBandwidth p = (n.ted i).maxBandwidth

theorem Initial.inv (h : n.Initial) : n.Inv := by
  refine ⟨by simp [h.empty], by simp [h.empty], by simp [h.empty], by simp [h.empty],
    fun OI i _ p => ?_, fun OI i _ p => ?_⟩
  · rw [h.empty, h.unResvBandwidth]
    simp
  · rw [h.unResvBandwidth]
    exact h.maxBandwidth_nonneg i

/-- **Bandwidth accounting.**  In every state that is reached, what is left of a local link at a
priority is its bandwidth less what is allocated on it at that priority or a stronger one; it lies
between nothing and all of the link, and does not increase towards the weaker priorities. -/
theorem bandwidth_accounted {n₀ : RSVP numLinks} {ms : List Message} (h₀ : n₀.Initial)
    (hrun : Trace.Run handleMessage CanHappen n₀ ms n) (hlink : n.IsLocalLink OI i) (p : Fin 8) :
    (n.ted i).unResvBandwidth p = (n.ted i).maxBandwidth - reserved n.RSBList OI p ∧
      0 ≤ (n.ted i).unResvBandwidth p ∧
      (n.ted i).unResvBandwidth p ≤ (n.ted i).maxBandwidth ∧
      ∀ q, p ≤ q → (n.ted i).unResvBandwidth q ≤ (n.ted i).unResvBandwidth p := by
  have hinv : n.Inv := hrun.invariant (I := Inv)
    (fun _ _ _ h hm hstep => h.handleMessage hm hstep) h₀.inv
  have hbalance : ∀ q, (n.ted i).unResvBandwidth q =
      (n.ted i).maxBandwidth - reserved n.RSBList OI q := fun q => by
    rw [hinv.balance OI i hlink q, sub_zero]
  refine ⟨hbalance p, hinv.avail OI i hlink p, ?_, fun q hpq => ?_⟩
  · rw [hbalance p]
    exact sub_le_self _ (reserved_nonneg hinv.nonneg)
  · rw [hbalance p, hbalance q]
    exact sub_le_sub_left (reserved_mono OI hinv.nonneg hpq) _

/-- A router with one link, of the bandwidth 100. -/
def oneLink : RSVP 1 where
  routerId := 1
  interfaceAddrs := [10]
  ted := fun _ => ⟨1, 10, 100, fun _ => 100⟩

theorem bandwidth_accounted_commit : ∃ n : RSVP 1, Trace.Run handleMessage CanHappen oneLink
        [.resv ⟨1, 1, 7, 4, 4⟩ 2 10 [⟨60, ⟨3, 1⟩, 17⟩], .commitTimer 1] n ∧
      (n.ted 0).unResvBandwidth 7 = 40 ∧
      (n.ted 0).unResvBandwidth 7 = (n.ted 0).maxBandwidth - reserved n.RSBList 10 7 := by
  let n₁ := oneLink.processResvMsg ⟨1, 1, 7, 4, 4⟩ 2 10 [⟨60, ⟨3, 1⟩, 17⟩]
  have hfind : n₁.findRsbById 1 =
      some ⟨1, ⟨1, 1, 7, 4, 4⟩, 2, 10, [⟨60, ⟨3, 1⟩, 17⟩], [-1], 0, true, true⟩ := by decide
  have hcommit : ((n₁.handleMessage (.commitTimer 1)).toOption.map fun n =>
      ((n.ted 0).unResvBandwidth 7, n.isLocalAddress 10, n.linkIndex 10)) =
        some (40, true, some 0) := by
    unfold handleMessage
    dsimp only
    rw [hfind]
    dsimp only
    rw [commitResv, commitFlows]
    decide +kernel
  cases hstep : n₁.handleMessage (.commitTimer 1) with
  | error e =>
    rw [hstep] at hcommit
    cases hcommit
  | ok n =>
    rw [hstep] at hcommit
    have hn := Prod.ext_iff.1 (Option.some.inj hcommit)
    have hlink := Prod.ext_iff.1 hn.2
    have hrun : Trace.Run handleMessage CanHappen oneLink
        [.resv ⟨1, 1, 7, 4, 4⟩ 2 10 [⟨60, ⟨3, 1⟩, 17⟩], .commitTimer 1] n :=
      .cons ⟨le_rfl, cons_ne_nil _ _⟩ rfl (.cons ⟨_, hfind, rfl⟩ hstep (.nil n))
    have h₀ : oneLink.Initial := ⟨rfl, fun _ => show (0 : ℚ) ≤ 100 by norm_num, fun _ _ => rfl⟩
    exact ⟨n, hrun, hn.1, (bandwidth_accounted h₀ hrun ⟨by decide, hlink.1, hlink.2⟩ 7).1⟩

end RSVP

end Rsvp

end Hiwis
