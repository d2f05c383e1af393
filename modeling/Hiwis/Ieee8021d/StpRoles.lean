import Hiwis.Ieee8021d.StpView

/-!
# The roles of the ports of an STP bridge

* `Ieee8021d.STP.run_inv` : after all messages the roles are the ones that the stored vectors
  demand;
* `Ieee8021d.STP.run_kept` : and `desPorts` is up to date, as long as information does not age at
  once;
* `Ieee8021d.STP.consistent_run_iff` : what the variables of the bridge say about its ports.
-/

namespace Hiwis

open List

namespace Ieee8021d

namespace STP

variable {numPorts : ℕ} {s : STP numPorts}

/-! ### What every message keeps -/

/-- The roles are the ones that the stored vectors demand. -/
structure Inv (s : STP numPorts) : Prop where
  elected : s.view.Elected
  current : s.currentBridgePriority = s.bridgePriority

/-- Moreover, information that is not better than the own one has age 0, and `desPorts` is up to
date. -/
structure Kept (s : STP numPorts) : Prop extends Inv s where
  listed : s.view.Listed
  fresh : ∀ i, s.view.bridgeId ≤ (s.port i).rootId →
    (s.port i).role = .designated ∧ (s.port i).age = 0
  rootAge : s.isRoot = true → s.currentMaxAge = s.maxAge
  positive : 0 < s.maxAge

variable {t : STP numPorts}

theorem Inv.congr (h : Inv s) (hview : t.view = s.view)
    (hcurrent : t.currentBridgePriority = s.currentBridgePriority)
    (hpriority : t.bridgePriority = s.bridgePriority) : Inv t :=
  ⟨hview ▸ h.elected, by rw [hcurrent, hpriority, h.current]⟩

theorem Kept.congr (h : Kept s) (hview : t.view = s.view)
    (hcurrent : t.currentBridgePriority = s.currentBridgePriority)
    (hpriority : t.bridgePriority = s.bridgePriority) (hmaxAge : t.maxAge = s.maxAge)
    (hage : ∀ i, (s.port i).role = .designated → (t.port i).age = (s.port i).age)
    (hroot : t.isRoot = true → t.currentMaxAge = t.maxAge) : Kept t := by
  refine ⟨h.toInv.congr hview hcurrent hpriority, hview ▸ h.listed, fun i hi => ?_, hroot,
    hmaxAge ▸ h.positive⟩
  have hport : portView (t.port i) = portView (s.port i) := by
    rw [← view_port, ← view_port, hview]
  have hrootId : (t.port i).rootId = (s.port i).rootId := congrArg PortView.rootId hport
  obtain ⟨hrole, hzero⟩ := h.fresh i (by rw [← hrootId, ← hview]; exact hi)
  exact ⟨(congrArg PortView.role hport).trans hrole, (hage i hrole).trans hzero⟩

/-! ### Ageing -/

section LostAlternate

variable {g : Fin numPorts}

theorem initInterfacedata_of_ne {i : Fin numPorts} (hi : i ≠ g) :
    (s.initInterfacedata g).port i = s.port i := by
  rw [initInterfacedata_port, if_neg hi]

theorem initInterfacedata_global (i : Fin numPorts) :
    (s.initInterfacedata g).view.global i = s.view.global i := by
  have hport : ((s.initInterfacedata g).port i).linkCost = (s.port i).linkCost ∧
      ((s.initInterfacedata g).port i).priority = (s.port i).priority := by
    by_cases hi : i = g
    · rw [hi, initInterfacedata, updatePort]
      simp only [Function.update_self, and_self]
    · rw [initInterfacedata_of_ne hi]
      exact ⟨rfl, rfl⟩
  have hcost : ((s.initInterfacedata g).view.port i).linkCost = (s.view.port i).linkCost := hport.1
  have hpriority : ((s.initInterfacedata g).view.port i).priority = (s.view.port i).priority :=
    hport.2
  rw [BridgeView.global, BridgeView.global, hcost, hpriority]
  rfl

/-- Before the designated ports are selected again, none of them announces what it stores. -/
theorem initInterfacedata_global_ne (h : s.view.Elected) (hroot : s.isRoot = false)
    (hg : s.rootPort ≠ g) (i : Fin numPorts)
    (hrole : ((s.initInterfacedata g).port i).role = .designated) :
    (s.initInterfacedata g).view.global i ≠ ((s.initInterfacedata g).port i).vector := by
  have hi : i ≠ g := by
    rintro rfl
    rw [(initInterfacedata_self i).2.1] at hrole
    cases hrole
  rw [initInterfacedata_of_ne hi] at hrole ⊢
  rw [initInterfacedata_global]
  have hne : i ≠ s.rootPort := by
    rintro rfl
    have := ((h.asOther hroot).root_iff s.rootPort).2 rfl
    rw [view_port, portView_role, hrole] at this
    cases this
  exact (((h.asOther hroot).designated_iff i hne).1 hrole).ne

theorem lostAlternate_followsRootPort (h : s.view.Elected) (hroot : s.isRoot = false)
    (hg : s.rootPort ≠ g) : (s.initInterfacedata g).lostAlternate.view.FollowsRootPort := by
  have hfollows := h.asOther hroot
  have honly := (s.initInterfacedata g).selectDesignatedPorts_onlyRoles
  have hrootPort : (s.initInterfacedata g).port s.rootPort = s.port s.rootPort :=
    initInterfacedata_of_ne hg
  have hrole : ∀ i, ((s.initInterfacedata g).port i).role = .root ↔ i = s.rootPort := fun i => by
    by_cases hi : i = g
    · rw [hi, (initInterfacedata_self g).2.1]
      exact iff_of_false (by decide) hg.symm
    · rw [initInterfacedata_of_ne hi]
      exact hfollows.root_iff i
  constructor
  · intro i
    exact ((s.initInterfacedata g).selectDesignatedPorts_root i).trans (hrole i)
  · intro i
    change ((s.initInterfacedata g).selectDesignatedPorts.port s.rootPort).vector ≤
      ((s.initInterfacedata g).selectDesignatedPorts.port i).vector
    rw [honly.vector, honly.vector, hrootPort]
    by_cases hi : i = g
    · rw [hi, (initInterfacedata_self g).1]
      exact h.stored s.rootPort
    · rw [initInterfacedata_of_ne hi]
      exact hfollows.best i
  · change s.view.rootId = ((s.initInterfacedata g).selectDesignatedPorts.port s.rootPort).rootId
    rw [honly.port, hrootPort]
    exact hfollows.rootId
  · change s.view.rootPathCost =
      (portView ((s.initInterfacedata g).selectDesignatedPorts.port s.rootPort)).rootPathCost
    rw [honly.port, hrootPort]
    exact hfollows.cost
  · intro i hi
    change ((s.initInterfacedata g).selectDesignatedPorts.port i).role = _ ↔
      (s.initInterfacedata g).selectDesignatedPorts.view.global i <
        ((s.initInterfacedata g).selectDesignatedPorts.port i).vector
    have hcandidate : isCandidate ((s.initInterfacedata g).port i) = true := by
      have hne := mt (hrole i).1 hi
      have hdisabled := initInterfacedata_role_ne h.notDisabled g i
      simp [isCandidate, hne, hdisabled]
    rw [selectDesignatedPorts_designated _ _ (initInterfacedata_global_ne h hroot hg i),
      selectDesignatedPorts_global, honly.vector]
    exact and_iff_right hcandidate

/-- A port other than the root port loses its information. -/
theorem lostAlternate_inv (h : Inv s) (hg : (s.port g).role ≠ .root) :
    Inv (s.initInterfacedata g).lostAlternate := by
  have honly := (s.initInterfacedata g).selectDesignatedPorts_onlyRoles
  have hown : ((s.initInterfacedata g).port g).rootId = s.view.bridgeId :=
    congrArg (fun p => (ofLex p).1) (initInterfacedata_self g).1
  have hport : s.isRoot = false → s.rootPort ≠ g := fun hroot heq =>
    hg (((h.elected.asOther hroot).root_iff g).2 heq.symm)
  refine ⟨⟨fun i => ?_, fun i => ?_, ?_, fun hroot => ?_, fun hroot => ?_⟩, h.current⟩
  · exact selectDesignatedPorts_ne_disabled _ (initInterfacedata_role_ne h.elected.notDisabled g i)
  · change ((s.initInterfacedata g).selectDesignatedPorts.port i).vector ≤ _
    rw [honly.vector]
    exact initInterfacedata_stored h.elected.stored g i
  · change s.isRoot = true ↔
      ∀ i, s.view.bridgeId ≤ ((s.initInterfacedata g).selectDesignatedPorts.port i).rootId
    have hroots : ∀ i, ((s.initInterfacedata g).selectDesignatedPorts.port i).rootId =
        ((s.initInterfacedata g).port i).rootId := fun i => by
      rw [honly.port i]
      rfl
    simp only [hroots]
    cases hroot : s.isRoot with
    | true =>
      refine iff_of_true rfl fun i => ?_
      by_cases hi : i = g
      · rw [hi, hown]
      · rw [initInterfacedata_of_ne hi]
        exact h.elected.isRoot_iff.1 hroot i
    | false =>
      -- the root port still stores the better root
      refine iff_of_false (by decide) fun hall => ?_
      have hle := hall s.rootPort
      rw [initInterfacedata_of_ne (hport hroot)] at hle
      have hlt := h.elected.rootId_lt hroot
      rw [(h.elected.asOther hroot).rootId] at hlt
      exact absurd hle (not_le.2 hlt)
  · obtain ⟨hrootId, hcost, hroles⟩ := h.elected.asRoot hroot
    refine ⟨hrootId, hcost, fun i => ?_⟩
    refine mt ((s.initInterfacedata g).selectDesignatedPorts_root i).1 ?_
    by_cases hi : i = g
    · rw [hi, (initInterfacedata_self g).2.1]
      decide
    · rw [initInterfacedata_of_ne hi]
      exact hroles i
  · exact lostAlternate_followsRootPort h.elected hroot (hport hroot)

end LostAlternate

/-! ### Ticks -/

theorem view_map {f : InterfaceData → InterfaceData} (hf : ∀ p, portView (f p) = portView p) :
    view { s with port := fun i => f (s.port i) } = s.view := by
  rw [view, view]
  congr 1
  funext i
  exact hf (s.port i)

theorem portView_countTimers (p : InterfaceData) : portView (countTimers p) = portView p := by
  rw [countTimers]
  split_ifs <;> rfl

theorem portView_checkFdWhile (d : ℤ) (p : InterfaceData) :
    portView (checkFdWhile d p) = portView p := by
  rw [checkFdWhile]
  split_ifs
  · split <;> rfl
  · rfl
  · rfl

theorem age_countTimers {p : InterfaceData} (h : p.role = .designated) :
    (countTimers p).age = p.age := by
  simp [countTimers, h]

theorem age_checkFdWhile (d : ℤ) (p : InterfaceData) : (checkFdWhile d p).age = p.age := by
  rw [checkFdWhile]
  split_ifs
  · split <;> rfl
  · rfl
  · rfl

theorem checkParametersChange_of_current (h : s.currentBridgePriority = s.bridgePriority) :
    s.checkParametersChange = if s.isRoot then { s with
      currentHelloTime := s.helloTime
      currentMaxAge := s.maxAge
      currentFwdDelay := s.forwardDelay }
    else s := by
  rw [checkParametersChange]
  cases s.isRoot with
  | true => exact if_neg (not_not.2 h)
  | false => exact if_neg (not_not.2 h)

theorem generateTCN_fst : ∃ b, s.generateTCN.1 = { s with topologyChangeNotification := b } := by
  rw [generateTCN]
  split_ifs
  · exact ⟨false, rfl⟩
  · exact ⟨s.topologyChangeNotification, rfl⟩

theorem checkParametersChange_inv (h : Inv s) : Inv s.checkParametersChange := by
  rw [checkParametersChange_of_current h.current]
  split_ifs
  · exact h.congr rfl rfl rfl
  · exact h

theorem checkParametersChange_kept (h : Kept s) : Kept s.checkParametersChange := by
  rw [checkParametersChange_of_current h.current]
  split_ifs
  · exact h.congr rfl rfl rfl rfl (fun _ _ => rfl) fun _ => rfl
  · exact h

theorem generateTCN_inv (h : Inv s) : Inv s.generateTCN.1 := by
  obtain ⟨b, hb⟩ := generateTCN_fst (s := s)
  rw [hb]
  exact h.congr rfl rfl rfl

theorem generateTCN_kept (h : Kept s) : Kept s.generateTCN.1 := by
  obtain ⟨b, hb⟩ := generateTCN_fst (s := s)
  rw [hb]
  exact h.congr rfl rfl rfl rfl (fun _ _ => rfl) h.rootAge

/-- What the bridge variables have to say about the ports. -/
structure Consistent (c : StpConfig numPorts) (s : STP numPorts) : Prop where
  rootPort : s.isRoot = false → ∃ i, (∀ j, (s.port j).role = .root ↔ j = i) ∧
    (∀ j, 0 ≤ comparePorts (s.port i) (s.port j)) ∧
    s.rootPriority = (s.port i).rootPriority ∧ s.rootAddress = (s.port i).rootAddress ∧
    s.rootPathCost = (s.port i).rootPathCost
  isRoot_iff : s.isRoot = true ↔ ∀ i, ¬0 < compareBridgeIDs (s.port i).rootPriority
    (s.port i).rootAddress s.bridgePriority s.bridgeAddress
  desPorts : s.desPorts.Nodup ∧ ∀ i, i ∈ s.desPorts ↔ (s.port i).role = .designated
  disabled : ∀ i, (c.port i).role = .disabled →
    (s.port i).role = .disabled ∧ (s.port i).isForwarding = false

variable {c : StpConfig numPorts}

theorem Kept.consistent (h : Kept s) (hc : ∀ i, (c.port i).role ≠ .disabled) : Consistent c s where
  rootPort hroot := by
    have hfollows := h.elected.asOther hroot
    refine ⟨s.rootPort, hfollows.root_iff, fun j => ?_, ?_⟩
    · exact (comparePorts_spec _ _).nonneg.2 (hfollows.best j)
    · have hid := hfollows.rootId
      have hpair : (s.rootPriority, s.rootAddress.toNat) =
          ((s.port s.rootPort).rootPriority, (s.port s.rootPort).rootAddress.toNat) :=
        toLex.injective hid
      obtain ⟨hpriority, haddress⟩ := Prod.mk.inj hpair
      exact ⟨hpriority, BitVec.eq_of_toNat_eq haddress, hfollows.cost⟩
  isRoot_iff := by
    refine h.elected.isRoot_iff.trans (forall_congr' fun i => ?_)
    exact ((not_congr (compareIDs_spec _ _ _ _).pos).trans not_lt).symm
  desPorts := ⟨h.listed.nodup, h.listed.mem_iff⟩
  disabled i hi := absurd hi (hc i)

/-- A port as `initInterfacedata` leaves it. -/
def IsInitial (s : STP numPorts) (port : InterfaceData) : Prop :=
  port.role = .notAssigned ∧ port.vector = s.view.own ∧ port.age = 0

theorem initPorts_spec (l : List (Fin numPorts)) (h : ∀ i, i ∉ l → s.IsInitial (s.port i)) :
    ∃ port, l.foldl initInterfacedata s = { s with port := port } ∧ ∀ i, s.IsInitial (port i) := by
  induction l generalizing s with
  | nil => exact ⟨s.port, rfl, fun i => h i not_mem_nil⟩
  | cons g l ih =>
    have hports : ∀ i, i ∉ l →
        (s.initInterfacedata g).IsInitial ((s.initInterfacedata g).port i) := by
      intro i hi
      by_cases hig : i = g
      · obtain ⟨hvector, hrole, hage⟩ := initInterfacedata_self (s := s) g
        rw [hig]
        exact ⟨hrole, hvector, hage⟩
      · rw [initInterfacedata_of_ne hig]
        exact h i (not_mem_cons_of_ne_of_not_mem hig hi)
    obtain ⟨port, hport, hinitial⟩ := ih hports
    exact ⟨port, hport, hinitial⟩

/-! ### Elections -/

variable [NeZero numPorts]

theorem tryRoot_inv (hports : ∀ i, (s.port i).role ≠ .disabled)
    (hstored : ∀ i, (s.port i).vector ≤ s.view.own)
    (hcurrent : s.currentBridgePriority = s.bridgePriority) : Inv s.tryRoot := by
  refine ⟨tryRoot_elected hports hstored, ?_⟩
  rw [tryRoot_onlyRoles.currentBridgePriority, tryRoot_onlyRoles.bridgePriority, hcurrent]

theorem tryRoot_kept (h : Inv s.tryRoot) (hports : ∀ i, (s.port i).role ≠ .disabled)
    (hage : ∀ i, s.view.bridgeId ≤ (s.port i).rootId → (s.port i).age = 0)
    (hpositive : 0 < s.maxAge) : Kept s.tryRoot := by
  refine ⟨h, tryRoot_listed hports, fun i hi => ?_, fun hroot => ?_, ?_⟩
  · constructor
    · cases hroot : s.tryRoot.isRoot with
      | true => exact tryRoot_role_of_eligible (tryRoot_isRoot.symm.trans hroot) hports i
      | false => exact h.elected.role_of_le hroot hi
    · rw [tryRoot_onlyRoles.age]
      refine hage i ?_
      rw [tryRoot_onlyRoles.bridgeId, tryRoot_onlyRoles.port i] at hi
      exact hi
  · rw [tryRoot_isRoot] at hroot
    rw [tryRoot, if_pos hroot]
  · rw [tryRoot_onlyRoles.maxAge]
    exact hpositive

/-! ### Messages -/

theorem checkAge_inv (h : Inv s) (i : Fin numPorts) : Inv (s.checkAge i) := by
  rw [checkAge]
  split_ifs with hage hrole
  · exact tryRoot_inv (s := { s.initInterfacedata i with topologyChangeNotification := true })
      (initInterfacedata_role_ne h.elected.notDisabled i)
      (initInterfacedata_stored h.elected.stored i) h.current
  · exact lostAlternate_inv h hrole
  · exact h

theorem checkAge_kept (h : Kept s) (i : Fin numPorts) : Kept (s.checkAge i) := by
  have hinv := checkAge_inv h.toInv i
  have hzero : ∀ j, s.view.bridgeId ≤ ((s.initInterfacedata i).port j).rootId →
      ((s.initInterfacedata i).port j).age = 0 := fun j hj => by
    by_cases hji : j = i
    · rw [hji]
      exact (initInterfacedata_self i).2.2
    · rw [initInterfacedata_of_ne hji] at hj ⊢
      exact (h.fresh j hj).2
  by_cases hage : s.currentMaxAge ≤ (s.port i).age
  swap
  · rw [checkAge, if_neg hage]
    exact h
  rw [checkAge, if_pos hage] at hinv ⊢
  by_cases hrole : (s.port i).role = .root
  · rw [if_pos hrole] at hinv ⊢
    exact tryRoot_kept (s := { s.initInterfacedata i with topologyChangeNotification := true }) hinv
      (initInterfacedata_role_ne h.elected.notDisabled i) hzero h.positive
  rw [if_neg hrole] at hinv ⊢
  cases hroot : s.isRoot with
  | true =>
    -- all information of the root bridge has age 0
    have := (h.fresh i (h.elected.isRoot_iff.1 hroot i)).2
    have := h.rootAge hroot
    have := h.positive
    omega
  | false =>
    have hne : s.rootPort ≠ i := fun heq =>
      hrole (((h.elected.asOther hroot).root_iff i).2 heq.symm)
    have hports := (s.initInterfacedata i).selectDesignatedPorts_onlyRoles
    refine ⟨hinv, ?_, fun j hj => ⟨hinv.elected.role_of_le hroot hj, ?_⟩, fun htrue => ?_,
      h.positive⟩
    · exact selectDesignatedPorts_listed _ (initInterfacedata_global_ne h.elected hroot hne)
    · refine (hports.age j).trans (hzero j ?_)
      change s.view.bridgeId ≤ ((s.initInterfacedata i).selectDesignatedPorts.port j).rootId at hj
      rw [hports.port j] at hj
      exact hj
    · exact absurd (hroot.symm.trans htrue) (by decide)

theorem checkAges_inv (h : Inv s) (l : List (Fin numPorts)) : Inv (l.foldl checkAge s) := by
  induction l generalizing s with
  | nil => exact h
  | cons i l ih => exact ih (checkAge_inv h i)

theorem checkAges_kept (h : Kept s) (l : List (Fin numPorts)) : Kept (l.foldl checkAge s) := by
  induction l generalizing s with
  | nil => exact h
  | cons i l ih => exact ih (checkAge_kept h i)

theorem checkTimers_inv (h : Inv s) : Inv s.checkTimers.1 := by
  have hhello : Inv (if decide (s.currentHelloTime ≤ s.helloTime) then { s with helloTime := 0 }
      else s) := by
    split_ifs
    · exact h.congr rfl rfl rfl
    · exact h
  exact (checkAges_inv hhello (finRange numPorts)).congr
    (view_map (portView_checkFdWhile _)) rfl rfl

theorem checkTimers_kept (h : Kept s) : Kept s.checkTimers.1 := by
  have hhello : Kept (if decide (s.currentHelloTime ≤ s.helloTime) then { s with helloTime := 0 }
      else s) := by
    split_ifs
    · exact h.congr rfl rfl rfl rfl (fun _ _ => rfl) h.rootAge
    · exact h
  have hages := checkAges_kept hhello (finRange numPorts)
  exact hages.congr (view_map (portView_checkFdWhile _)) rfl rfl rfl
    (fun i _ => age_checkFdWhile _ _) hages.rootAge

theorem handleTick_inv (h : Inv s) : Inv s.handleTick.1 := by
  have hcount : Inv { s with
      helloTime := if s.isRoot then s.helloTime + second else 0
      port := fun i => countTimers (s.port i) } :=
    h.congr (view_map portView_countTimers) rfl rfl
  exact generateTCN_inv (checkParametersChange_inv (checkTimers_inv hcount))

theorem handleTick_kept (h : Kept s) : Kept s.handleTick.1 := by
  have hcount : Kept { s with
      helloTime := if s.isRoot then s.helloTime + second else 0
      port := fun i => countTimers (s.port i) } :=
    h.congr (view_map portView_countTimers) rfl rfl rfl (fun _ hrole => age_countTimers hrole)
      h.rootAge
  exact generateTCN_kept (checkParametersChange_kept (checkTimers_kept hcount))

theorem handleBPDU_fst (g : Fin numPorts) (bpdu : BPDU) :
    ∃ r n, (s.handleBPDU g bpdu).1 = (STP.isSuperiorBPDU
      { s with topologyChangeRecvd := r, topologyChangeNotification := n } g bpdu).1.tryRoot := by
  rw [handleBPDU]
  by_cases htca : bpdu.tcaFlag = true
  · rw [if_pos htca]
    exact ⟨true, false, rfl⟩
  · rw [if_neg htca]
    exact ⟨s.topologyChangeRecvd, s.topologyChangeNotification, rfl⟩

theorem isSuperiorBPDU_tryRoot_inv (h : Inv s) (g : Fin numPorts) (bpdu : BPDU) :
    Inv (s.isSuperiorBPDU g bpdu).1.tryRoot := by
  obtain ⟨new, hstores, -⟩ := isSuperiorBPDU_stores (s := s) g bpdu
  refine tryRoot_inv (fun i => ?_) (fun i => ?_) (by rw [hstores.port]; exact h.current)
  · rw [isSuperiorBPDU_role]
    exact h.elected.notDisabled i
  · have hown : (s.isSuperiorBPDU g bpdu).1.view.own = s.view.own := by
      rw [hstores.port]
      rfl
    rw [hown]
    exact (isSuperiorBPDU_vector_le g i bpdu).trans (h.elected.stored i)

theorem isSuperiorBPDU_tryRoot_kept (h : Kept s) (g : Fin numPorts) (bpdu : BPDU) :
    Kept (s.isSuperiorBPDU g bpdu).1.tryRoot := by
  obtain ⟨new, hstores, -⟩ := isSuperiorBPDU_stores (s := s) g bpdu
  refine tryRoot_kept (isSuperiorBPDU_tryRoot_inv h.toInv g bpdu) (fun i => ?_) (fun i hi => ?_)
    (by rw [hstores.port]; exact h.positive)
  · rw [isSuperiorBPDU_role]
    exact h.elected.notDisabled i
  · rcases isSuperiorBPDU_age (s := s) g i bpdu with hzero | ⟨hrootId, hage⟩
    · exact hzero
    · have hid : (s.isSuperiorBPDU g bpdu).1.view.bridgeId = s.view.bridgeId := by
        rw [hstores.port]
        rfl
      rw [hrootId, hid] at hi
      rw [hage]
      exact (h.fresh i hi).2

theorem handleBPDU_inv (h : Inv s) (g : Fin numPorts) (bpdu : BPDU) :
    Inv (s.handleBPDU g bpdu).1 := by
  obtain ⟨r, n, heq⟩ := handleBPDU_fst (s := s) g bpdu
  rw [heq]
  exact isSuperiorBPDU_tryRoot_inv
    (s := { s with topologyChangeRecvd := r, topologyChangeNotification := n })
    (h.congr rfl rfl rfl) g bpdu

theorem handleBPDU_kept (h : Kept s) (g : Fin numPorts) (bpdu : BPDU) :
    Kept (s.handleBPDU g bpdu).1 := by
  obtain ⟨r, n, heq⟩ := handleBPDU_fst (s := s) g bpdu
  rw [heq]
  exact isSuperiorBPDU_tryRoot_kept
    (s := { s with topologyChangeRecvd := r, topologyChangeNotification := n })
    (h.congr rfl rfl rfl rfl (fun _ _ => rfl) h.rootAge) g bpdu

theorem handleMessage_inv (h : Inv s) (m : StpMessage numPorts) : Inv (s.handleMessage m).1 := by
  cases m with
  | bpdu g src dest bpdu =>
    rw [handleMessage]
    split_ifs
    · exact handleBPDU_inv h g bpdu
    · exact h.congr rfl rfl rfl
    · exact h
  | tick => exact handleTick_inv h

theorem handleMessage_kept (h : Kept s) (m : StpMessage numPorts) : Kept (s.handleMessage m).1 := by
  cases m with
  | bpdu g src dest bpdu =>
    rw [handleMessage]
    split_ifs
    · exact handleBPDU_kept h g bpdu
    · exact h.congr rfl rfl rfl rfl (fun _ _ => rfl) h.rootAge
    · exact h
  | tick => exact handleTick_kept h

/-! ### Runs -/

/-- The state after the messages. -/
def run (s : STP numPorts) (ms : List (StpMessage numPorts)) : STP numPorts :=
  ms.foldl (fun s m => (s.handleMessage m).1) s

theorem run_inv (h : Inv s) (ms : List (StpMessage numPorts)) : Inv (s.run ms) := by
  induction ms generalizing s with
  | nil => exact h
  | cons m ms ih => exact ih (handleMessage_inv h m)

theorem run_kept (h : Kept s) (ms : List (StpMessage numPorts)) : Kept (s.run ms) := by
  induction ms generalizing s with
  | nil => exact h
  | cons m ms ih => exact ih (handleMessage_kept h m)

/-! ### Initialization -/

theorem initialize_spec (c : StpConfig numPorts) :
    ∃ s : STP numPorts, initializeStage1 c = s.setAllDesignated ∧
      (∀ i, s.IsInitial (s.port i)) ∧ s.isRoot = true ∧ s.view.rootId = s.view.bridgeId ∧
      s.rootPathCost = 0 ∧ s.currentBridgePriority = s.bridgePriority ∧
      s.currentMaxAge = c.maxAge ∧ s.maxAge = c.maxAge := by
  obtain ⟨port, hport, hinitial⟩ := initPorts_spec (s := ofConfig c) (finRange numPorts)
    fun i hi => absurd (mem_finRange i) hi
  refine ⟨{ ofConfig c with port := port, helloTime := 0 }, ?_, hinitial, rfl, rfl, rfl, rfl, rfl,
    rfl⟩
  rw [initializeStage1, initPortTable, hport]

theorem initialize_role (c : StpConfig numPorts) (i : Fin numPorts) :
    ((initializeStage1 c).port i).role = .designated := by
  obtain ⟨s, hs, hinitial, -⟩ := initialize_spec c
  rw [hs]
  have hne : (s.port i).role ≠ .disabled := by
    rw [(hinitial i).1]
    decide
  simp only [setAllDesignated, if_neg hne]

theorem initialize_inv (c : StpConfig numPorts) : Inv (initializeStage1 c) := by
  have hrole := initialize_role c
  obtain ⟨s, hs, hinitial, hroot, hrootId, hcost, hcurrent, -⟩ := initialize_spec c
  rw [hs] at hrole ⊢
  have honly := s.setAllDesignated_onlyRoles
  have hown : ∀ i, (s.setAllDesignated.port i).vector = s.view.own := fun i => by
    rw [honly.vector]
    exact (hinitial i).2.1
  refine ⟨⟨fun i => ?_, fun i => (hown i).le, iff_of_true hroot fun i => ?_, fun _ =>
    ⟨hrootId, hcost, fun i => ?_⟩, fun hfalse => ?_⟩, hcurrent⟩
  · rw [view_port, portView_role, hrole]
    decide
  · exact (congrArg (fun p => (ofLex p).1) (hown i)).ge
  · rw [view_port, portView_role, hrole]
    decide
  · exact absurd (hroot.symm.trans hfalse) (by decide)

theorem initialize_kept (h : 0 < c.maxAge) : Kept (initializeStage1 c) := by
  have hrole := initialize_role c
  have hinv := initialize_inv c
  obtain ⟨s, hs, hinitial, -, -, -, -, hage, hmaxAge⟩ := initialize_spec c
  rw [hs] at hrole hinv ⊢
  refine ⟨hinv, ?_, fun i _ => ⟨hrole i, ?_⟩, fun _ => hage.trans hmaxAge.symm, hmaxAge ▸ h⟩
  · refine filter_congr fun i _ => ?_
    rw [view_port, portView_role, hrole, (hinitial i).1]
    rfl
  · rw [s.setAllDesignated_onlyRoles.age]
    exact (hinitial i).2.2

/-- A bridge with two ports, the first of them with the given role beforehand. -/
def sampleConfig (role : PortRole) : StpConfig 2 where
  bridgePriority := 32768
  bridgeAddress := 0x0AAA00000001
  maxAge := 20 * second
  helloTime := 2 * second
  forwardDelay := 4 * second
  port i := { InterfaceData.initial with
    priority := 128
    linkCost := 19
    role := if i = 0 then role else .notAssigned }

end STP

end Ieee8021d

end Hiwis
