import Hiwis.Ieee8021d.RSTP
import Hiwis.Lib.Comparison

/-!
# The view of an RSTP bridge

What a bridge has to do with the spanning tree are role, state and stored data of its ports
(`Ieee8021d.RstpPort`).  Each operation of the bridge is an update of these.

* `Ieee8021d.compareRSTPData_spec` : the comparison is the lexicographic order;
* `Ieee8021d.RSTP.getBestAlternate_eq_some` : the best of the alternate ports;
* `Ieee8021d.RSTP.initPorts_info`, `Ieee8021d.RSTP.startAnew_info` : all ports at once.
-/

namespace Hiwis

open List Function Comparison

namespace Ieee8021d

/-! ### Comparing -/

/-- The sign of the result, the better data first. -/
def CompareResult.sign (c : CompareResult) : ℤ :=
  if c.isWorse then 1 else if c.isBetter then -1 else 0

namespace RstpData

/-- The data in the order in which they are compared.  The smaller key is the better one. -/
def key (a : RstpData) : ℤ ×ₗ ℕ ×ₗ ℤ ×ₗ ℤ ×ₗ ℕ ×ₗ ℤ ×ₗ ℤ :=
  toLex (a.rootPriority, toLex (a.rootAddress.toNat, toLex (a.rootPathCost,
    toLex (a.bridgePriority, toLex (a.bridgeAddress.toNat, toLex (a.portPriority, a.portNum))))))

/-- The root. -/
def rootId (a : RstpData) : ℤ ×ₗ ℕ := toLex (a.rootPriority, a.rootAddress.toNat)

end RstpData

variable {a b : RstpData}

theorem rootId_le_of_key_le (h : a.key ≤ b.key) : a.rootId ≤ b.rootId := by
  rw [RstpData.key, RstpData.key, Prod.Lex.toLex_le_toLex] at h
  rw [RstpData.rootId, RstpData.rootId, Prod.Lex.toLex_le_toLex]
  exact h.imp id fun ⟨heq, hle⟩ => ⟨heq, Prod.Lex.monotone_fst _ _ hle⟩

theorem key_lt_of_rootId_lt (h : a.rootId < b.rootId) : a.key < b.key :=
  not_le.1 fun hle => absurd (rootId_le_of_key_le hle) (not_le.2 h)

theorem sign_ite {α : Type*} [LinearOrder α] (x y : α) {worse better c : CompareResult}
    (hworse : worse.sign = 1) (hbetter : better.sign = -1) :
    (if x ≠ y then if x < y then worse else better else c).sign =
      if x < y then 1 else if y < x then -1 else c.sign := by
  rcases lt_trichotomy x y with hlt | rfl | hgt
  · rw [if_pos hlt.ne, if_pos hlt, if_pos hlt, hworse]
  · simp
  · rw [if_pos hgt.ne', if_neg hgt.not_gt, if_neg hgt.not_gt, if_pos hgt, hbetter]

theorem compareRSTPData_spec (a b : RstpData) :
    Comparison (compareRSTPData a b).sign a.key b.key := by
  have h := ite a.portNum b.portNum
  have h := ite_lex a.portPriority b.portPriority h
  have h := ite_lex a.bridgeAddress.toNat b.bridgeAddress.toNat h
  have h := ite_lex a.bridgePriority b.bridgePriority h
  have h := ite_lex a.rootPathCost b.rootPathCost h
  have h := ite_lex a.rootAddress.toNat b.rootAddress.toNat h
  have h := ite_lex a.rootPriority b.rootPriority h
  unfold compareRSTPData
  rw [sign_ite _ _ rfl rfl, sign_ite _ _ rfl rfl, sign_ite _ _ rfl rfl, sign_ite _ _ rfl rfl,
    sign_ite _ _ rfl rfl, sign_ite _ _ rfl rfl, sign_ite _ _ rfl rfl]
  exact h

theorem isWorse_iff : (compareRSTPData a b).isWorse = true ↔ a.key < b.key := by
  rw [← (compareRSTPData_spec a b).pos]
  cases compareRSTPData a b <;> decide

theorem isBetter_iff : (compareRSTPData a b).isBetter = true ↔ b.key < a.key := by
  rw [← (compareRSTPData_spec a b).neg]
  cases compareRSTPData a b <;> decide

theorem eq_similar_iff : compareRSTPData a b = .similar ↔ a.key = b.key := by
  rw [← (compareRSTPData_spec a b).eq_zero]
  cases compareRSTPData a b <;> decide

theorem eq_betterRoot_iff : compareRSTPData a b = .betterRoot ↔ b.rootId < a.rootId := by
  rw [RstpData.rootId, RstpData.rootId, Prod.Lex.toLex_lt_toLex]
  unfold compareRSTPData
  split_ifs <;> simp_all <;> omega

theorem eq_worseRoot_iff : compareRSTPData a b = .worseRoot ↔ a.rootId < b.rootId := by
  rw [RstpData.rootId, RstpData.rootId, Prod.Lex.toLex_lt_toLex]
  unfold compareRSTPData
  split_ifs <;> simp_all

/-- A difference other than in the root. -/
theorem rootId_eq_of_not (hworse : compareRSTPData a b ≠ .worseRoot)
    (hbetter : compareRSTPData a b ≠ .betterRoot) : a.rootId = b.rootId :=
  le_antisymm (not_lt.1 (mt eq_betterRoot_iff.2 hbetter))
    (not_lt.1 (mt eq_worseRoot_iff.2 hworse))

/-! ### Ports -/

/-- What is kept of the data of a port. -/
structure RstpPort where
  role : PortRole
  state : PortState
  edge : Bool
  linkCost : ℕ
  lostBPDU : ℕ
  data : RstpData

def InterfaceData.rstp (p : InterfaceData) : RstpPort where
  role := p.role
  state := p.state
  edge := p.edge
  linkCost := p.linkCost
  lostBPDU := p.lostBPDU
  data := p.data

namespace RstpPort

/-- Three hello times have passed without the best BPDU. -/
def IsLost (p : RstpPort) : Prop :=
  p.edge = false ∧ (p.role = .root ∨ p.role = .alternate ∨ p.role = .backup) ∧ 3 ≤ p.lostBPDU

instance : DecidablePred IsLost := fun p =>
  inferInstanceAs (Decidable (p.edge = false ∧
    (p.role = .root ∨ p.role = .alternate ∨ p.role = .backup) ∧ 3 ≤ p.lostBPDU))

/-- A port after a hello time, if it is not a root port that is lost. -/
def aged (own : RstpData) (p : RstpPort) : RstpPort :=
  if p.IsLost then
    { p with role := .designated, state := .discarding, data := own, lostBPDU := 0 }
  else if p.edge = false ∧ (p.role = .root ∨ p.role = .alternate ∨ p.role = .backup) then
    { p with lostBPDU := p.lostBPDU + 1 }
  else p

variable {own : RstpData} {p : RstpPort}

theorem aged_of_isLost (h : p.IsLost) : p.aged own =
    { p with role := .designated, state := .discarding, data := own, lostBPDU := 0 } :=
  if_pos h

theorem aged_of_not_isLost (h : ¬p.IsLost) :
    (p.aged own).role = p.role ∧ (p.aged own).state = p.state ∧ (p.aged own).data = p.data := by
  rw [aged, if_neg h]
  split_ifs <;> exact ⟨rfl, rfl, rfl⟩

end RstpPort

namespace RSTP

variable {numPorts : ℕ} (s : RSTP numPorts)

def info (i : Fin numPorts) : RstpPort := (s.port i).rstp

/-- The data of a port that `initInterfacedata` has reset. -/
def own : RstpData where
  rootPriority := toInt s.bridgePriority
  rootAddress := s.bridgeAddress
  rootPathCost := toInt 0
  bridgePriority := toInt s.bridgePriority
  bridgeAddress := s.bridgeAddress
  portPriority := toInt (2 ^ 32 - 1)
  portNum := toInt (2 ^ 32 - 1)

theorem toInt_mod (a : ℕ) : toInt (a % 2 ^ 32) = toInt a := by
  rw [toInt, toInt, Nat.mod_mod]

/-! ### Updates -/

section Update

variable (i j : Fin numPorts) (now : ℤ)

theorem info_updatePort (f : InterfaceData → InterfaceData) :
    (s.updatePort i f).info = update s.info i (f (s.port i)).rstp := by
  funext k
  by_cases hk : k = i
  · rw [hk, update_self, info, updatePort]
    simp only [update_self]
  · rw [update_of_ne hk, info, updatePort]
    simp only [update_of_ne hk]
    rfl

@[simp] theorem info_flush : (s.flush i).info = s.info := rfl

@[simp] theorem info_copyTable : (s.copyTable i j).info = s.info := rfl

@[simp] theorem info_flushOtherPorts : (s.flushOtherPorts now i).info = s.info := rfl

@[simp] theorem info_setRole (role : PortRole) (state : PortState) : (s.setRole i role state).info =
      update s.info i { s.info i with role := role, state := state } :=
  s.info_updatePort i _

@[simp] theorem info_resetLostBPDU :
    (s.resetLostBPDU i).info = update s.info i { s.info i with lostBPDU := 0 } :=
  s.info_updatePort i _

theorem info_nextUpgrade (t : ℤ) :
    (s.updatePort i fun port => { port with nextUpgrade := t }).info = s.info := by
  rw [info_updatePort]
  exact update_eq_self i s.info

theorem info_tcWhile (t : ℤ) :
    (s.updatePort i fun port => { port with tcWhile := t }).info = s.info := by
  rw [info_updatePort]
  exact update_eq_self i s.info

@[simp] theorem info_setDesignated : (s.setDesignated now i).info =
    update s.info i { s.info i with role := .designated, state := .discarding } := by
  rw [setDesignated, info_nextUpgrade, info_setRole]

@[simp] theorem info_initInterfacedata : (s.initInterfacedata i).info =
    update s.info i { s.info i with data := s.own, lostBPDU := 0 } :=
  s.info_updatePort i _

@[simp] theorem info_updateInterfacedata (frame : BPDU) : (s.updateInterfacedata frame i).info =
    update s.info i
      { s.info i with data := frame.data (s.info i).linkCost, lostBPDU := 0 } := by
  rw [updateInterfacedata, info_updatePort]
  refine congrArg (update s.info i) ?_
  simp only [info, InterfaceData.rstp, InterfaceData.data, BPDU.data, toInt_mod]

theorem info_sendBPDU : (s.sendBPDU now i).info = s.info := by
  rw [sendBPDU]
  split_ifs <;> rfl

theorem info_sendTCNtoRoot : (s.sendTCNtoRoot now).info = s.info := by
  rw [sendTCNtoRoot]
  split
  · rfl
  · split_ifs <;> rfl

theorem info_checkTC (frame : BPDU) : (s.checkTC now frame i).info = s.info := by
  rw [checkTC]
  split_ifs
  · funext k
    simp only [info]
    split_ifs <;> rfl
  · rfl

end Update

/-- Same parameters. -/
structure Same (s t : RSTP numPorts) : Prop where
  bridgePriority : t.bridgePriority = s.bridgePriority
  bridgeAddress : t.bridgeAddress = s.bridgeAddress
  maxAge : t.maxAge = s.maxAge

theorem Same.refl : Same s s := ⟨rfl, rfl, rfl⟩

variable {s}

theorem Same.trans {t u : RSTP numPorts} (h : Same s t) (h' : Same t u) : Same s u :=
  ⟨h'.bridgePriority.trans h.bridgePriority, h'.bridgeAddress.trans h.bridgeAddress,
    h'.maxAge.trans h.maxAge⟩

section Update

variable (i j : Fin numPorts) (now : ℤ) {t : RSTP numPorts}

@[simp] theorem same_updatePort (f : InterfaceData → InterfaceData) :
    Same t (s.updatePort i f) ↔ Same t s :=
  ⟨fun h => ⟨h.1, h.2, h.3⟩, fun h => ⟨h.1, h.2, h.3⟩⟩

@[simp] theorem same_act (a : RstpAction numPorts) : Same t (s.act a) ↔ Same t s :=
  ⟨fun h => ⟨h.1, h.2, h.3⟩, fun h => ⟨h.1, h.2, h.3⟩⟩

@[simp] theorem same_flush : Same t (s.flush i) ↔ Same t s := same_act _

@[simp] theorem same_copyTable : Same t (s.copyTable i j) ↔ Same t s := same_act _

@[simp] theorem same_flushOtherPorts : Same t (s.flushOtherPorts now i) ↔ Same t s :=
  ⟨fun h => ⟨h.1, h.2, h.3⟩, fun h => ⟨h.1, h.2, h.3⟩⟩

@[simp] theorem same_setRole (role : PortRole) (state : PortState) :
    Same t (s.setRole i role state) ↔ Same t s :=
  same_updatePort i _

@[simp] theorem same_resetLostBPDU : Same t (s.resetLostBPDU i) ↔ Same t s := same_updatePort i _

@[simp] theorem same_setDesignated : Same t (s.setDesignated now i) ↔ Same t s := by
  simp [setDesignated]

@[simp] theorem same_initInterfacedata : Same t (s.initInterfacedata i) ↔ Same t s :=
  same_updatePort i _

@[simp] theorem same_updateInterfacedata (frame : BPDU) :
    Same t (s.updateInterfacedata frame i) ↔ Same t s :=
  same_updatePort i _

@[simp] theorem same_sendBPDU : Same t (s.sendBPDU now i) ↔ Same t s := by
  rw [sendBPDU]
  split_ifs <;> simp

@[simp] theorem same_checkTC (frame : BPDU) : Same t (s.checkTC now frame i) ↔ Same t s := by
  rw [checkTC]
  split_ifs
  · exact ⟨fun h => ⟨h.1, h.2, h.3⟩, fun h => ⟨h.1, h.2, h.3⟩⟩
  · rfl

end Update

theorem Same.own {t : RSTP numPorts} (h : Same s t) : t.own = s.own := by
  rw [RSTP.own, RSTP.own, h.bridgePriority, h.bridgeAddress]

variable {step : RSTP numPorts → Fin numPorts → RSTP numPorts}

/-- A loop whose rounds change the port they are about, in a way that does not depend on the other
ports. -/
theorem foldl_info {P : RstpPort → Prop} (g : RstpData → Fin numPorts → RstpPort → RstpPort)
    (hstep : ∀ s i, P (s.info i) → Same s (step s i) ∧
      (step s i).info = update s.info i (g s.own i (s.info i)))
    (s : RSTP numPorts) {l : List (Fin numPorts)} (hl : l.Nodup) (hP : ∀ i ∈ l, P (s.info i)) :
    Same s (l.foldl step s) ∧
      (l.foldl step s).info = fun i => if i ∈ l then g s.own i (s.info i) else s.info i := by
  induction l generalizing s with
  | nil => exact ⟨Same.refl s, by simp⟩
  | cons j l ih =>
    obtain ⟨hj, hl⟩ := nodup_cons.1 hl
    obtain ⟨hPj, hP⟩ := forall_mem_cons.1 hP
    obtain ⟨hsame, hinfo⟩ := hstep s j hPj
    obtain ⟨hsame', hinfo'⟩ := ih (step s j) hl fun i hi => by
      rw [hinfo, update_of_ne (ne_of_mem_of_not_mem hi hj)]
      exact hP i hi
    refine ⟨hsame.trans hsame', ?_⟩
    rw [foldl_cons, hinfo', hsame.own, hinfo]
    funext i
    by_cases hij : i = j
    · rw [hij, update_self, if_neg hj, if_pos mem_cons_self]
    · rw [update_of_ne hij]
      simp [hij]

/-- Such a loop over all ports. -/
theorem foldl_finRange_info (g : RstpData → Fin numPorts → RstpPort → RstpPort)
    (hstep : ∀ s i, Same s (step s i) ∧ (step s i).info = update s.info i (g s.own i (s.info i)))
    (s : RSTP numPorts) : Same s ((finRange numPorts).foldl step s) ∧
      ((finRange numPorts).foldl step s).info = fun i => g s.own i (s.info i) := by
  obtain ⟨hsame, hinfo⟩ := foldl_info (P := fun _ => True) g (fun s i _ => hstep s i) s
    (nodup_finRange numPorts) fun _ _ => trivial
  refine ⟨hsame, hinfo.trans ?_⟩
  funext i
  exact if_pos (mem_finRange i)

/-- A loop that changes no port. -/
theorem foldl_finRange_self
    (hstep : ∀ s i, Same s (step s i) ∧ (step s i).info = s.info) (s : RSTP numPorts) :
    Same s ((finRange numPorts).foldl step s) ∧
      ((finRange numPorts).foldl step s).info = s.info := by
  refine foldl_finRange_info (fun _ _ p => p) (fun s i => ?_) s
  rw [update_eq_self]
  exact hstep s i

/-! ### All ports -/

/-- A port as `initPorts` leaves it. -/
def initialPort (own : RstpData) (p : RstpPort) : RstpPort :=
  { p with
    role := if p.edge then .designated else .notAssigned
    state := if p.edge then .forwarding else .discarding
    lostBPDU := 0
    data := own }

/-- A port that starts anew, unless it is an edge port or the arrival port. -/
def anewPort (own : RstpData) (arrivalPortNum i : Fin numPorts) (p : RstpPort) : RstpPort :=
  if p.edge ∨ i = arrivalPortNum then p
  else { p with role := .notAssigned, state := .discarding, lostBPDU := 0, data := own }

theorem initPort_info (s : RSTP numPorts) (now : ℤ) (i : Fin numPorts) : Same s (s.initPort now i) ∧
      (s.initPort now i).info = update s.info i (initialPort s.own (s.info i)) := by
  have hedge : (s.port i).edge = (s.info i).edge := rfl
  rw [initPort, hedge]
  cases h : (s.info i).edge with
  | true =>
    refine ⟨by simp [Same.refl], ?_⟩
    simp [initialPort, h]
    rfl
  | false =>
    refine ⟨by simp [Same.refl], ?_⟩
    simp [initialPort, h, info_nextUpgrade]
    rfl

theorem initPorts_info (s : RSTP numPorts) (now : ℤ) :
    Same s (s.initPorts now) ∧ (s.initPorts now).info = fun i => initialPort s.own (s.info i) :=
  foldl_finRange_info (fun own _ p => initialPort own p) (fun s i => s.initPort_info now i) s

theorem startAnew_info (s : RSTP numPorts) (now : ℤ) (arrivalPortNum i : Fin numPorts) :
    Same s (s.startAnew now arrivalPortNum i) ∧ (s.startAnew now arrivalPortNum i).info =
      update s.info i (anewPort s.own arrivalPortNum i (s.info i)) := by
  have hself : ∀ t : RSTP numPorts, t.info = s.info → (s.info i).edge = true ∨ i = arrivalPortNum →
      t.info = update s.info i (anewPort s.own arrivalPortNum i (s.info i)) := by
    intro t ht h
    rw [anewPort, if_pos h, update_eq_self, ht]
  by_cases hedge : (s.port i).edge = true
  · rw [startAnew, if_neg (by simp [hedge])]
    exact ⟨Same.refl s, hself s rfl (.inl hedge)⟩
  rw [startAnew, if_pos (by simp [hedge])]
  dsimp only
  generalize hs1 : (if (s.port arrivalPortNum).state ≠ .forwarding then
    s.updatePort i fun iPort => { iPort with tcWhile := now + s.tcWhileTime } else s) = s1
  have hsame : Same s s1 := by
    rw [← hs1]
    split_ifs <;> simp [Same.refl]
  have hinfo : s1.info = s.info := by
    rw [← hs1]
    split_ifs
    · exact s.info_tcWhile i _
    · rfl
  by_cases hi : i = arrivalPortNum
  · rw [if_neg (not_not.2 hi)]
    exact ⟨(same_flush i).2 hsame, hself _ hinfo (.inr hi)⟩
  · rw [if_pos hi]
    refine ⟨by simpa using hsame, ?_⟩
    have hown : ((s1.flush i).setRole i .notAssigned .discarding).own = s.own := hsame.own
    have hnot : ¬((s.info i).edge = true ∨ i = arrivalPortNum) := not_or.2 ⟨hedge, hi⟩
    rw [anewPort, if_neg hnot, info_initInterfacedata, info_nextUpgrade, info_setRole, info_flush,
      hinfo, update_idem, update_self]
    exact congrArg (fun own => update s.info i
      { s.info i with role := .notAssigned, state := .discarding, lostBPDU := 0, data := own }) hown

theorem startAnews_info (s : RSTP numPorts) (now : ℤ) (arrivalPortNum : Fin numPorts) :
    Same s ((finRange numPorts).foldl (fun s i => s.startAnew now arrivalPortNum i) s) ∧
      ((finRange numPorts).foldl (fun s i => s.startAnew now arrivalPortNum i) s).info =
        fun i => anewPort s.own arrivalPortNum i (s.info i) :=
  foldl_finRange_info (fun own i p => anewPort own arrivalPortNum i p)
    (fun s i => s.startAnew_info now arrivalPortNum i) s

theorem flushes_info (s : RSTP numPorts) : Same s ((finRange numPorts).foldl flush s) ∧
      ((finRange numPorts).foldl flush s).info = s.info := by
  refine foldl_finRange_self (fun s i => ?_) s
  exact ⟨(same_flush i).2 (Same.refl s), s.info_flush i⟩

theorem sendBPDUs_info (s : RSTP numPorts) (now : ℤ) :
    Same s (s.sendBPDUs now) ∧ (s.sendBPDUs now).info = s.info := by
  refine foldl_finRange_self (fun s i => ?_) s
  split_ifs
  · exact ⟨(same_sendBPDU i now).2 (Same.refl s), s.info_sendBPDU i now⟩
  · exact ⟨Same.refl s, rfl⟩

/-! ### Searching -/

theorem getRootIndex_eq_none (s : RSTP numPorts) :
    s.getRootIndex = none ↔ ∀ i, (s.info i).role ≠ .root := by
  rw [getRootIndex, find?_eq_none]
  refine ⟨fun h i hi => h i (mem_finRange i) (beq_iff_eq.2 hi), fun h i _ => ?_⟩
  exact fun hi => h i (beq_iff_eq.1 hi)

theorem getRootIndex_congr {s t : RSTP numPorts} (h : ∀ i, (t.info i).role = (s.info i).role) :
    t.getRootIndex = s.getRootIndex := by
  rw [getRootIndex, getRootIndex]
  refine congrArg (find? · (finRange numPorts)) ?_
  funext i
  exact congrArg (· == PortRole.root) (h i)

theorem getRootIndex_role {s : RSTP numPorts} {r : Fin numPorts} (h : s.getRootIndex = some r) :
    (s.info r).role = .root := by
  have hfound := find?_some h
  exact beq_iff_eq.1 hfound

/-- One round of the search for the best alternate port. -/
theorem betterAlternate_spec (s : RSTP numPorts) (candidate : Option (Fin numPorts))
    (a : Fin numPorts) (hcandidate : ∀ c, candidate = some c → (s.info c).role = .alternate) :
    (s.betterAlternate candidate a = none → candidate = none ∧ (s.info a).role ≠ .alternate) ∧
    ∀ c, s.betterAlternate candidate a = some c → (s.info c).role = .alternate ∧
      (∀ c', candidate = some c' → (s.info c).data.key ≤ (s.info c').data.key) ∧
      ((s.info a).role = .alternate → (s.info c).data.key ≤ (s.info a).data.key) := by
  unfold betterAlternate
  by_cases ha : (s.port a).role = .alternate
  swap
  · rw [if_neg ha]
    refine ⟨fun h => ⟨h, ha⟩, fun c hc => ⟨hcandidate c hc, fun c' hc' => ?_, fun h => absurd h ha⟩⟩
    rw [hc, Option.some.injEq] at hc'
    rw [hc']
  rw [if_pos ha]
  cases candidate with
  | none =>
    refine ⟨fun h => (by cases h), fun c hc => ?_⟩
    cases hc
    exact ⟨ha, fun c' hc' => (by cases hc'), fun _ => le_rfl⟩
  | some d =>
    dsimp only
    by_cases hworse : (compareRSTPData (s.port a).data (s.port d).data).isWorse = true
    · rw [if_pos hworse]
      refine ⟨fun h => (by cases h), fun c hc => ?_⟩
      cases hc
      refine ⟨ha, fun c' hc' => ?_, fun _ => le_rfl⟩
      cases hc'
      exact (isWorse_iff.1 hworse).le
    · rw [if_neg hworse]
      refine ⟨fun h => (by cases h), fun c hc => ?_⟩
      cases hc
      refine ⟨hcandidate d rfl, fun c' hc' => ?_, fun _ => not_lt.1 (mt isWorse_iff.2 hworse)⟩
      cases hc'
      exact le_rfl

/-- The search for the best alternate port, from a candidate on. -/
theorem foldl_betterAlternate (s : RSTP numPorts) (l : List (Fin numPorts))
    (candidate : Option (Fin numPorts))
    (hcandidate : ∀ c, candidate = some c → (s.info c).role = .alternate) :
    (l.foldl s.betterAlternate candidate = none →
      candidate = none ∧ ∀ a ∈ l, (s.info a).role ≠ .alternate) ∧
    ∀ c, l.foldl s.betterAlternate candidate = some c → (s.info c).role = .alternate ∧
      (∀ c', candidate = some c' → (s.info c).data.key ≤ (s.info c').data.key) ∧
      ∀ a ∈ l, (s.info a).role = .alternate → (s.info c).data.key ≤ (s.info a).data.key := by
  induction l generalizing candidate with
  | nil =>
    refine ⟨fun h => ⟨h, by simp⟩, fun c hc => ⟨hcandidate c hc, fun c' hc' => ?_, by simp⟩⟩
    rw [foldl_nil, hc', Option.some.injEq] at hc
    rw [hc]
  | cons a l ih =>
    rw [foldl_cons]
    obtain ⟨hnone, hround⟩ := s.betterAlternate_spec candidate a hcandidate
    obtain ⟨ihnone, ihsome⟩ := ih (s.betterAlternate candidate a) fun c hc => (hround c hc).1
    constructor
    · intro h
      obtain ⟨hcandidate', hl⟩ := ihnone h
      obtain ⟨hcnone, ha⟩ := hnone hcandidate'
      exact ⟨hcnone, forall_mem_cons.2 ⟨ha, hl⟩⟩
    · intro c hc
      obtain ⟨hrole, hle, hl⟩ := ihsome c hc
      refine ⟨hrole, fun c' hc' => ?_, forall_mem_cons.2 ⟨fun ha => ?_, hl⟩⟩
      · cases hround' : s.betterAlternate candidate a with
        | none => rw [(hnone hround').1] at hc'; cases hc'
        | some d => exact (hle d hround').trans ((hround d hround').2.1 c' hc')
      · cases hround' : s.betterAlternate candidate a with
        | none => exact absurd ha (hnone hround').2
        | some d => exact (hle d hround').trans ((hround d hround').2.2 ha)

theorem getBestAlternate_congr {s t : RSTP numPorts}
    (hrole : ∀ i, (t.info i).role = (s.info i).role)
    (hdata : ∀ i, (t.info i).data = (s.info i).data) : t.getBestAlternate = s.getBestAlternate := by
  rw [getBestAlternate, getBestAlternate]
  refine congrArg (foldl · none (finRange numPorts)) ?_
  funext candidate j
  have hr : ∀ i, (t.port i).role = (s.port i).role := hrole
  have hd : ∀ i, (t.port i).data = (s.port i).data := hdata
  simp only [betterAlternate, hr, hd]

/-- **The best alternate port**, if there is one. -/
theorem getBestAlternate_eq_some {s : RSTP numPorts} {c : Fin numPorts}
    (h : s.getBestAlternate = some c) : (s.info c).role = .alternate ∧
      ∀ a, (s.info a).role = .alternate → (s.info c).data.key ≤ (s.info a).data.key := by
  obtain ⟨hrole, -, hle⟩ := (s.foldl_betterAlternate _ none (by simp)).2 c h
  exact ⟨hrole, fun a => hle a (mem_finRange a)⟩

/-! ### Hello times -/

section Hello

variable (now : ℤ) (i : Fin numPorts)

/-- The port after its lost BPDU has been counted. -/
theorem info_lostBPDU (s : RSTP numPorts) :
    (s.updatePort i fun port => { port with lostBPDU := port.lostBPDU + 1 }).info =
      update s.info i { s.info i with lostBPDU := (s.info i).lostBPDU + 1 } :=
  s.info_updatePort i _

/-- A port that is not the root port, or that is not lost, at a hello time. -/
theorem helloPort_info (s : RSTP numPorts) (hroot : (s.info i).role = .root → ¬(s.info i).IsLost) :
    Same s (s.helloPort now i) ∧
      (s.helloPort now i).info = update s.info i ((s.info i).aged s.own) := by
  have hedge : (s.port i).edge = (s.info i).edge := rfl
  have hrole : (s.port i).role = (s.info i).role := rfl
  have hinfo := info_lostBPDU i s
  have hsame : Same s (s.updatePort i fun port => { port with lostBPDU := port.lostBPDU + 1 }) :=
    (same_updatePort i _).2 (Same.refl s)
  rw [helloPort, hedge, hrole]
  generalize (s.updatePort i fun port => { port with lostBPDU := port.lostBPDU + 1 }) = s1 at *
  have hinfoi := congrFun hinfo i
  rw [update_self] at hinfoi
  have hlost1 : (s1.port i).lostBPDU = (s.info i).lostBPDU + 1 := congrArg RstpPort.lostBPDU hinfoi
  by_cases hcounted : (s.info i).edge = false ∧
    ((s.info i).role = .root ∨ (s.info i).role = .alternate ∨ (s.info i).role = .backup)
  swap
  · rw [if_neg (by simpa using hcounted), RstpPort.aged,
      if_neg fun h => hcounted ⟨h.1, h.2.1⟩, if_neg hcounted, update_eq_self]
    exact ⟨Same.refl s, rfl⟩
  rw [if_pos (by simpa using hcounted)]
  dsimp only
  rw [hlost1]
  by_cases hthree : 3 ≤ (s.info i).lostBPDU
  · have hlost : (s.info i).IsLost := ⟨hcounted.1, hcounted.2, hthree⟩
    have hne : (s1.port i).role ≠ .root := by
      have hrole1 : (s1.port i).role = (s.info i).role := congrArg RstpPort.role hinfoi
      rw [hrole1]
      exact fun h => hroot h hlost
    rw [if_pos (by omega), lostPort, if_neg hne, RstpPort.aged_of_isLost hlost]
    refine ⟨by simpa using hsame, ?_⟩
    have hown : (s1.setDesignated now i).own = s.own := ((same_setDesignated i now).2 hsame).own
    simp only [info_resetLostBPDU, info_initInterfacedata, info_setDesignated, hinfo, hown,
      update_idem, update_self]
  · rw [if_neg (by omega), RstpPort.aged, if_neg fun h => hthree h.2.2, if_pos hcounted]
    exact ⟨hsame, hinfo⟩

/-- The lost root port, and the best alternate port. -/
theorem helloPort_lost {s : RSTP numPorts} (hrole : (s.info i).role = .root)
    (hlost : (s.info i).IsLost) : Same s (s.helloPort now i) ∧
      (s.getBestAlternate = none →
        (s.helloPort now i).info = fun j => initialPort s.own (s.info j)) ∧
      ∀ c, s.getBestAlternate = some c → (s.helloPort now i).info =
        update (update s.info i { s.info i with
          role := .designated, state := .discarding, data := s.own, lostBPDU := 0 }) c
          { s.info c with role := .root, state := .forwarding, lostBPDU := 0 } := by
  have hedge : (s.port i).edge = (s.info i).edge := rfl
  have hrole' : (s.port i).role = (s.info i).role := rfl
  have hinfo := info_lostBPDU i s
  have hsame : Same s (s.updatePort i fun port => { port with lostBPDU := port.lostBPDU + 1 }) :=
    (same_updatePort i _).2 (Same.refl s)
  rw [helloPort, hedge, hrole', if_pos (by simpa using ⟨hlost.1, hlost.2.1⟩)]
  generalize (s.updatePort i fun port => { port with lostBPDU := port.lostBPDU + 1 }) = s1 at *
  have hport : ∀ j, (s1.info j).role = (s.info j).role ∧ (s1.info j).data = (s.info j).data := by
    intro j
    rw [hinfo]
    by_cases hj : j = i
    · rw [hj, update_self]
      exact ⟨rfl, rfl⟩
    · rw [update_of_ne hj]
      exact ⟨rfl, rfl⟩
  have hinfoi := congrFun hinfo i
  rw [update_self] at hinfoi
  have hthree : 3 < (s1.port i).lostBPDU := by
    have hlost1 : (s1.port i).lostBPDU = (s.info i).lostBPDU + 1 :=
      congrArg RstpPort.lostBPDU hinfoi
    rw [hlost1]
    exact Nat.lt_succ_of_le hlost.2.2
  have hroot : (s1.port i).role = .root := (hport i).1.trans hrole
  dsimp only
  rw [if_pos hthree, lostPort, if_pos hroot,
    getBestAlternate_congr (fun j => (hport j).1) fun j => (hport j).2]
  cases halternate : s.getBestAlternate with
  | none =>
    obtain ⟨hsame', hinfo'⟩ := s1.initPorts_info now
    refine ⟨by simpa using hsame.trans hsame', fun _ => ?_, fun c hc => (by cases hc)⟩
    dsimp only
    rw [info_resetLostBPDU, hinfo', hsame.own]
    funext j
    by_cases hj : j = i
    · rw [hj, update_self]
      dsimp only
      rw [hinfoi]
      rfl
    · rw [update_of_ne hj, hinfo, update_of_ne hj]
  | some c =>
    obtain ⟨hc, -⟩ := getBestAlternate_eq_some halternate
    have hci : c ≠ i := by
      rintro rfl
      rw [hrole] at hc
      cases hc
    refine ⟨by simpa using hsame, fun h => (by cases h), fun c' hc' => ?_⟩
    cases hc'
    have hown : (s1.setDesignated now i).own = s.own := ((same_setDesignated i now).2 hsame).own
    simp only [info_resetLostBPDU, info_copyTable, info_flushOtherPorts, info_setRole,
      info_initInterfacedata, info_setDesignated, hinfo, hown, update_idem,
      update_self, update_of_ne hci, update_of_ne hci.symm]
    rw [update_comm hci, update_idem]

end Hello

end RSTP

end Ieee8021d

end Hiwis
