import Hiwis.Ieee8021d.STP
import Hiwis.Lib.Comparison

/-!
# The view of an STP bridge

What a bridge has to do with the spanning tree is its `Ieee8021d.BridgeView`: identifiers and
path costs in their order, and the role of each port.

* `Ieee8021d.comparePorts_spec` : the comparison is the lexicographic order of priority vectors;
* `Ieee8021d.BridgeView.Elected` : the roles are the ones that the stored vectors demand;
* `Ieee8021d.STP.tryRoot_elected` : an election makes them so;
* `Ieee8021d.STP.isSuperiorBPDU_stores` : what becomes of a BPDU.
-/

namespace Hiwis

open List Function Comparison

namespace Ieee8021d

/-! ### Priority vectors -/

/-- A bridge identifier: the priority, and the address when priorities are equal. -/
abbrev BridgeId := ℕ ×ₗ ℕ

/-- Root, path cost, designated bridge, designated port.  The smaller vector is the better one. -/
abbrev PriorityVector := BridgeId ×ₗ ℕ ×ₗ BridgeId ×ₗ ℕ ×ₗ ℕ

def priorityVector (root : BridgeId) (cost : ℕ) (bridge : BridgeId) (port : ℕ ×ₗ ℕ) :
    PriorityVector :=
  toLex (root, toLex (cost, toLex (bridge, port)))

def InterfaceData.rootId (port : InterfaceData) : BridgeId :=
  toLex (port.rootPriority, port.rootAddress.toNat)

def InterfaceData.vector (port : InterfaceData) : PriorityVector :=
  priorityVector port.rootId port.rootPathCost
    (toLex (port.bridgePriority, port.bridgeAddress.toNat))
    (toLex (port.portPriority, port.portNum))

theorem compareIDs_spec (aPriority a bPriority b : ℕ) :
    Comparison (STP.compareIDs aPriority a bPriority b) (toLex (aPriority, a))
      (toLex (bPriority, b)) :=
  ite_lex aPriority bPriority (ite a b)

theorem comparePorts_spec (portA portB : InterfaceData) :
    Comparison (STP.comparePorts portA portB) portA.vector portB.vector := by
  have hroot := compareIDs_spec portA.rootPriority portA.rootAddress.toNat portB.rootPriority
    portB.rootAddress.toNat
  have hbridge := compareIDs_spec portA.bridgePriority portA.bridgeAddress.toNat
    portB.bridgePriority portB.bridgeAddress.toNat
  have hport := compareIDs_spec portA.portPriority portA.portNum portB.portPriority portB.portNum
  exact hroot.lex (ite_lex _ _ (hbridge.lex hport))

/-! ### The view of a bridge -/

structure PortView where
  role : PortRole
  vector : PriorityVector
  linkCost : ℕ
  priority : ℕ

namespace PortView

def rootId (p : PortView) : BridgeId := (ofLex p.vector).1

def rootPathCost (p : PortView) : ℕ := (ofLex (ofLex p.vector).2).1

theorem rootId_le {p q : PortView} (h : p.vector ≤ q.vector) : p.rootId ≤ q.rootId :=
  Prod.Lex.monotone_fst _ _ h

end PortView

/-- The part of a bridge that the tree depends on. -/
structure BridgeView (numPorts : ℕ) where
  bridgeId : BridgeId
  isRoot : Bool
  rootPort : Fin numPorts
  desPorts : List (Fin numPorts)
  rootId : BridgeId
  rootPathCost : ℕ
  port : Fin numPorts → PortView

theorem PriorityVector.lt_of_fst {p q : PriorityVector} (h : (ofLex p).1 < (ofLex q).1) : p < q :=
  Prod.Lex.toLex_lt_toLex.2 (.inl h)

namespace BridgeView

variable {numPorts : ℕ} (v : BridgeView numPorts)

/-- What the bridge announces on a port, with the cost of this port added. -/
def global (i : Fin numPorts) : PriorityVector :=
  priorityVector v.rootId (STP.addCost v.rootPathCost (v.port i).linkCost) v.bridgeId
    (toLex ((v.port i).priority, i.val))

/-- What a port stores that has not heard of any other bridge. -/
def own : PriorityVector := priorityVector v.bridgeId 0 v.bridgeId (toLex (2 ^ 32 - 1, 2 ^ 32 - 1))

/-- The root port is the best one, and the bridge takes the root and the cost from it. -/
structure FollowsRootPort : Prop where
  root_iff : ∀ i, (v.port i).role = .root ↔ i = v.rootPort
  best : ∀ i, (v.port v.rootPort).vector ≤ (v.port i).vector
  rootId : v.rootId = (v.port v.rootPort).rootId
  cost : v.rootPathCost = (v.port v.rootPort).rootPathCost
  designated_iff : ∀ i, i ≠ v.rootPort →
    ((v.port i).role = .designated ↔ v.global i < (v.port i).vector)

/-- Roles and root are the ones that the stored vectors demand. -/
structure Elected : Prop where
  notDisabled : ∀ i, (v.port i).role ≠ .disabled
  stored : ∀ i, (v.port i).vector ≤ v.own
  isRoot_iff : v.isRoot = true ↔ ∀ i, v.bridgeId ≤ (v.port i).rootId
  asRoot : v.isRoot = true → v.rootId = v.bridgeId ∧ v.rootPathCost = 0 ∧
    ∀ i, (v.port i).role ≠ .root
  asOther : v.isRoot = false → v.FollowsRootPort

/-- `desPorts` holds the designated ports. -/
def Listed : Prop := v.desPorts = (finRange numPorts).filter fun i => (v.port i).role == .designated

variable {v}

theorem Listed.mem_iff (h : v.Listed) (i : Fin numPorts) :
    i ∈ v.desPorts ↔ (v.port i).role = .designated := by
  rw [h, mem_filter, beq_iff_eq]
  exact and_iff_right (mem_finRange i)

theorem Listed.nodup (h : v.Listed) : v.desPorts.Nodup := by
  rw [h]
  exact (nodup_finRange numPorts).filter _

/-- A bridge that is not the root has heard of a better one. -/
theorem Elected.rootId_lt (h : v.Elected) (hroot : v.isRoot = false) : v.rootId < v.bridgeId := by
  have hother := h.asOther hroot
  have hnot : ¬∀ i, v.bridgeId ≤ (v.port i).rootId := fun hall => by
    rw [h.isRoot_iff.2 hall] at hroot
    cases hroot
  obtain ⟨i, hi⟩ := not_forall.1 hnot
  rw [hother.rootId]
  exact (PortView.rootId_le (hother.best i)).trans_lt (not_le.1 hi)

/-- A port that has not heard of a better root is designated when the bridge has. -/
theorem Elected.role_of_le (h : v.Elected) (hroot : v.isRoot = false) {i : Fin numPorts}
    (hi : v.bridgeId ≤ (v.port i).rootId) : (v.port i).role = .designated := by
  have hother := h.asOther hroot
  have hlt : v.rootId < (v.port i).rootId := (h.rootId_lt hroot).trans_le hi
  have hne : i ≠ v.rootPort := by
    rintro rfl
    exact absurd hother.rootId hlt.ne
  exact (hother.designated_iff i hne).2 (PriorityVector.lt_of_fst hlt)

end BridgeView

namespace STP

variable {numPorts : ℕ} (s : STP numPorts)

def portView (port : InterfaceData) : PortView where
  role := port.role
  vector := port.vector
  linkCost := port.linkCost
  priority := port.priority

def view : BridgeView numPorts where
  bridgeId := toLex (s.bridgePriority, s.bridgeAddress.toNat)
  isRoot := s.isRoot
  rootPort := s.rootPort
  desPorts := s.desPorts
  rootId := toLex (s.rootPriority, s.rootAddress.toNat)
  rootPathCost := s.rootPathCost
  port i := portView (s.port i)

@[simp] theorem view_port (i : Fin numPorts) : s.view.port i = portView (s.port i) := rfl

@[simp] theorem portView_role (port : InterfaceData) : (portView port).role = port.role := rfl

@[simp] theorem portView_vector (port : InterfaceData) : (portView port).vector = port.vector := rfl

@[simp] theorem portView_rootId (port : InterfaceData) : (portView port).rootId = port.rootId := rfl

theorem bridgeGlobal_vector (i : Fin numPorts) : (s.bridgeGlobal i).vector = s.view.global i := rfl

theorem checkRootEligibility_iff :
    s.checkRootEligibility = true ↔ ∀ i, s.view.bridgeId ≤ (s.port i).rootId := by
  simp only [checkRootEligibility, all_eq_true, mem_finRange, true_imp_iff,
    Bool.not_eq_true', decide_eq_false_iff_not]
  refine forall_congr' fun i => ?_
  have h := compareIDs_spec (s.port i).rootPriority (s.port i).rootAddress.toNat s.bridgePriority
    s.bridgeAddress.toNat
  exact (not_congr h.pos).trans not_lt

/-! ### Selecting -/

theorem betterRootPort_le (best i : Fin numPorts) :
    (s.port (s.betterRootPort best i)).vector ≤ (s.port best).vector ∧
      (s.port (s.betterRootPort best i)).vector ≤ (s.port i).vector := by
  have h := comparePorts_spec (s.port i) (s.port best)
  rw [betterRootPort]
  by_cases hpos : 0 < comparePorts (s.port i) (s.port best)
  · rw [if_pos hpos]
    exact ⟨(h.pos.1 hpos).le, le_rfl⟩
  rw [if_neg hpos]
  by_cases hneg : comparePorts (s.port i) (s.port best) < 0
  · rw [if_pos hneg]
    exact ⟨le_rfl, (h.neg.1 hneg).le⟩
  · -- the vectors are equal, and the priority of the port decides
    rw [if_neg hneg]
    have heq : (s.port i).vector = (s.port best).vector :=
      h.eq_zero.1 (le_antisymm (not_lt.1 hpos) (not_lt.1 hneg))
    split_ifs
    · exact ⟨heq.le, le_rfl⟩
    · exact ⟨le_rfl, heq.ge⟩

/-- The states differ in the roles, and in what follows from them. -/
structure OnlyRoles (s t : STP numPorts) : Prop where
  bridgePriority : t.bridgePriority = s.bridgePriority
  bridgeAddress : t.bridgeAddress = s.bridgeAddress
  maxAge : t.maxAge = s.maxAge
  currentBridgePriority : t.currentBridgePriority = s.currentBridgePriority
  port : ∀ i, t.port i = { s.port i with role := (t.port i).role }

namespace OnlyRoles

variable {s t u : STP numPorts}

variable (h : OnlyRoles s t)
include h

theorem trans (h' : OnlyRoles t u) : OnlyRoles s u where
  bridgePriority := h'.bridgePriority.trans h.bridgePriority
  bridgeAddress := h'.bridgeAddress.trans h.bridgeAddress
  maxAge := h'.maxAge.trans h.maxAge
  currentBridgePriority := h'.currentBridgePriority.trans h.currentBridgePriority
  port i := by rw [h'.port i, h.port i]

theorem bridgeId : t.view.bridgeId = s.view.bridgeId := by
  rw [view, view, h.bridgePriority, h.bridgeAddress]

theorem own : t.view.own = s.view.own := by
  rw [BridgeView.own, BridgeView.own, h.bridgeId]

theorem vector (i : Fin numPorts) : (t.port i).vector = (s.port i).vector := by
  rw [h.port i]
  rfl

theorem age (i : Fin numPorts) : (t.port i).age = (s.port i).age := by
  rw [h.port i]

end OnlyRoles

theorem setAllDesignated_onlyRoles : OnlyRoles s s.setAllDesignated := by
  refine ⟨rfl, rfl, rfl, rfl, fun i => ?_⟩
  simp only [setAllDesignated]
  split_ifs <;> rfl

theorem selectDesignatedPorts_onlyRoles : OnlyRoles s s.selectDesignatedPorts := by
  refine ⟨rfl, rfl, rfl, rfl, fun i => ?_⟩
  simp only [selectDesignatedPorts]
  split_ifs <;> rfl

/-- What `selectDesignatedPorts` does to a port: nothing to the root port and to a disabled one,
nothing when the announcement is the stored vector. -/
theorem selectDesignatedPorts_role (i : Fin numPorts) :
    (s.selectDesignatedPorts.port i).role =
      if isCandidate (s.port i) then
        if s.view.global i < (s.port i).vector then .designated
        else if (s.port i).vector < s.view.global i then .alternate
        else (s.port i).role
      else (s.port i).role := by
  have h := comparePorts_spec (s.bridgeGlobal i) (s.port i)
  rw [bridgeGlobal_vector] at h
  simp only [selectDesignatedPorts, h.pos, h.neg]
  split_ifs <;> rfl

/-- Which ports are designated.  A role can only stay when the announcement is the stored
vector. -/
theorem selectDesignatedPorts_designated (i : Fin numPorts)
    (h : (s.port i).role = .designated → s.view.global i ≠ (s.port i).vector) :
    (s.selectDesignatedPorts.port i).role = .designated ↔
      isCandidate (s.port i) = true ∧ s.view.global i < (s.port i).vector := by
  rw [selectDesignatedPorts_role]
  by_cases hcandidate : isCandidate (s.port i) = true
  · rw [if_pos hcandidate]
    by_cases hlt : s.view.global i < (s.port i).vector
    · simp [hcandidate, hlt]
    by_cases hgt : (s.port i).vector < s.view.global i
    · simp [hlt, hgt]
    · have hnot : (s.port i).role ≠ .designated := fun hrole =>
        h hrole (le_antisymm (not_lt.1 hgt) (not_lt.1 hlt))
      simp [hlt, hgt, hnot]
  · have hnot : (s.port i).role ≠ .designated := fun hrole => by
      rw [isCandidate, hrole] at hcandidate
      exact hcandidate rfl
    simp [hcandidate, hnot]

theorem selectDesignatedPorts_root (i : Fin numPorts) :
    (s.selectDesignatedPorts.port i).role = .root ↔ (s.port i).role = .root := by
  rw [selectDesignatedPorts_role]
  by_cases hcandidate : isCandidate (s.port i) = true
  · have hne : (s.port i).role ≠ .root := fun hrole => by
      rw [isCandidate, hrole] at hcandidate
      cases hcandidate
    rw [if_pos hcandidate]
    split_ifs <;> simp [hne]
  · rw [if_neg hcandidate]

theorem selectDesignatedPorts_ne_disabled {i : Fin numPorts} (h : (s.port i).role ≠ .disabled) :
    (s.selectDesignatedPorts.port i).role ≠ .disabled := by
  rw [selectDesignatedPorts_role]
  split_ifs
  · decide
  · decide
  · exact h
  · exact h

/-- The list of designated ports is renewed with the roles. -/
theorem selectDesignatedPorts_listed
    (h : ∀ i, (s.port i).role = .designated → s.view.global i ≠ (s.port i).vector) :
    s.selectDesignatedPorts.view.Listed := by
  refine filter_congr fun i _ => ?_
  have hcompare := comparePorts_spec (s.bridgeGlobal i) (s.port i)
  rw [bridgeGlobal_vector] at hcompare
  rw [Bool.eq_iff_iff, Bool.and_eq_true, decide_eq_true_eq, beq_iff_eq, view_port, portView_role,
    hcompare.pos]
  exact (s.selectDesignatedPorts_designated i (h i)).symm

theorem selectDesignatedPorts_global (i : Fin numPorts) :
    s.selectDesignatedPorts.view.global i = s.view.global i := by
  simp only [BridgeView.global, view_port]
  rw [s.selectDesignatedPorts_onlyRoles.port i]
  rfl

variable {s}

/-! ### BPDUs -/

/-- What a BPDU announces, with the cost of the port where it arrives. -/
def bpduVector (bpdu : BPDU) (linkCost : ℕ) : PriorityVector :=
  priorityVector (toLex (bpdu.rootPriority, bpdu.rootAddress.toNat))
    (addCost bpdu.rootPathCost linkCost) (toLex (bpdu.bridgePriority, bpdu.bridgeAddress.toNat))
    (toLex (bpdu.portPriority, bpdu.portNum))

/-- A change of one port that keeps its role and its parameters. -/
structure Stores (s t : STP numPorts) (g : Fin numPorts) (new : InterfaceData) : Prop where
  port : t = { s with port := update s.port g new }
  role : new.role = (s.port g).role
  linkCost : new.linkCost = (s.port g).linkCost
  priority : new.priority = (s.port g).priority

theorem setSuperiorBPDU_stores (g : Fin numPorts) (bpdu : BPDU) :
    ∃ new, Stores s (s.setSuperiorBPDU g bpdu) g new ∧
      (bpdu.maxAge ≤ bpdu.messageAge ∧ new = s.port g ∨
        bpdu.messageAge < bpdu.maxAge ∧ new.age = 0 ∧
          new.vector = bpduVector bpdu (s.port g).linkCost) := by
  rw [setSuperiorBPDU]
  by_cases hold : bpdu.maxAge ≤ bpdu.messageAge
  · rw [if_pos hold]
    refine ⟨s.port g, ⟨?_, rfl, rfl, rfl⟩, .inl ⟨hold, rfl⟩⟩
    rw [update_eq_self]
  · rw [if_neg hold]
    exact ⟨_, ⟨rfl, rfl, rfl, rfl⟩, .inr ⟨not_le.1 hold, rfl, rfl⟩⟩

/-- A port stores a BPDU unless what it has stored is better. -/
theorem isSuperiorBPDU_stores (g : Fin numPorts) (bpdu : BPDU) :
    ∃ new, Stores s (s.isSuperiorBPDU g bpdu).1 g new ∧
      ((new.vector = (s.port g).vector ∧ new.age = (s.port g).age ∧
          (bpdu.messageAge < bpdu.maxAge →
            (s.port g).vector < bpduVector bpdu (s.port g).linkCost)) ∨
        new.vector = bpduVector bpdu (s.port g).linkCost ∧ new.age = 0 ∧
          bpduVector bpdu (s.port g).linkCost ≤ (s.port g).vector) := by
  have h := comparePorts_spec (s.port g) (withBPDU (s.port g) bpdu .initial)
  change Comparison _ (s.port g).vector (bpduVector bpdu (s.port g).linkCost) at h
  rw [isSuperiorBPDU]
  by_cases hpos : 0 < comparePorts (s.port g) (withBPDU (s.port g) bpdu .initial)
  · rw [if_pos hpos]
    refine ⟨s.port g, ⟨?_, rfl, rfl, rfl⟩, .inl ⟨rfl, rfl, fun _ => h.pos.1 hpos⟩⟩
    rw [update_eq_self]
  have hle := h.nonpos.1 (not_lt.1 hpos)
  rw [if_neg hpos]
  by_cases hneg : comparePorts (s.port g) (withBPDU (s.port g) bpdu .initial) < 0
  · rw [if_pos hneg]
    -- the timer of the port is renewed before the information
    obtain ⟨new, hnew, hcases⟩ := setSuperiorBPDU_stores (s := s.updatePort g fun port =>
      { port with fdWhile := 0, state := .discarding }) g bpdu
    have hport : (s.updatePort g fun port =>
          { port with fdWhile := 0, state := .discarding }).port g =
        { s.port g with fdWhile := 0, state := .discarding } := update_self ..
    refine ⟨new, ⟨hnew.port.trans ?_, ?_, ?_, ?_⟩, ?_⟩
    · rw [updatePort]
      simp only [update_idem]
    · rw [hnew.role, hport]
    · rw [hnew.linkCost, hport]
    · rw [hnew.priority, hport]
    · rcases hcases with ⟨hold, rfl⟩ | ⟨-, hage, hvector⟩
      · rw [hport]
        exact .inl ⟨rfl, rfl, fun hlt => absurd hlt (not_lt.2 hold)⟩
      · rw [hport] at hvector
        exact .inr ⟨hvector, hage, hle⟩
  · rw [if_neg hneg]
    obtain ⟨new, hnew, ⟨hold, rfl⟩ | ⟨-, hage, hvector⟩⟩ := setSuperiorBPDU_stores (s := s) g bpdu
    · exact ⟨_, hnew, .inl ⟨rfl, rfl, fun hlt => absurd hlt (not_lt.2 hold)⟩⟩
    · exact ⟨new, hnew, .inr ⟨hvector, hage, hle⟩⟩

theorem Stores.port_eq {t : STP numPorts} {g : Fin numPorts} {new : InterfaceData}
    (h : Stores s t g new) (i : Fin numPorts) : t.port i = if i = g then new else s.port i := by
  rw [h.port]
  exact update_apply ..

theorem isSuperiorBPDU_role (g i : Fin numPorts) (bpdu : BPDU) :
    ((s.isSuperiorBPDU g bpdu).1.port i).role = (s.port i).role := by
  obtain ⟨new, hstores, -⟩ := isSuperiorBPDU_stores (s := s) g bpdu
  rw [hstores.port_eq]
  by_cases hi : i = g
  · rw [if_pos hi, hi, hstores.role]
  · rw [if_neg hi]

theorem isSuperiorBPDU_vector_le (g i : Fin numPorts) (bpdu : BPDU) :
    ((s.isSuperiorBPDU g bpdu).1.port i).vector ≤ (s.port i).vector := by
  obtain ⟨new, hstores, hnew⟩ := isSuperiorBPDU_stores (s := s) g bpdu
  rw [hstores.port_eq]
  by_cases hi : i = g
  · rw [if_pos hi, hi]
    rcases hnew with ⟨heq, -, -⟩ | ⟨heq, -, hle⟩
    · exact heq.le
    · exact heq.trans_le hle
  · rw [if_neg hi]

theorem isSuperiorBPDU_age (g i : Fin numPorts) (bpdu : BPDU) :
    ((s.isSuperiorBPDU g bpdu).1.port i).age = 0 ∨
      ((s.isSuperiorBPDU g bpdu).1.port i).rootId = (s.port i).rootId ∧
        ((s.isSuperiorBPDU g bpdu).1.port i).age = (s.port i).age := by
  obtain ⟨new, hstores, hnew⟩ := isSuperiorBPDU_stores (s := s) g bpdu
  rw [hstores.port_eq]
  by_cases hi : i = g
  · rw [if_pos hi, hi]
    rcases hnew with ⟨hvector, hage, -⟩ | ⟨-, hage, -⟩
    · exact .inr ⟨congrArg (fun p => (ofLex p).1) hvector, hage⟩
    · exact .inl hage
  · rw [if_neg hi]
    exact .inr ⟨rfl, rfl⟩

/-! ### Default information -/

theorem initInterfacedata_port (g i : Fin numPorts) : (s.initInterfacedata g).port i =
    if i = g then (s.initInterfacedata g).port g else s.port i := by
  by_cases hi : i = g
  · rw [hi, if_pos rfl]
  · rw [if_neg hi]
    exact update_of_ne hi ..

theorem initInterfacedata_self (g : Fin numPorts) :
    ((s.initInterfacedata g).port g).vector = s.view.own ∧
      ((s.initInterfacedata g).port g).role = .notAssigned ∧
      ((s.initInterfacedata g).port g).age = 0 := by
  have hport : (s.initInterfacedata g).port g = _ := update_self ..
  rw [hport]
  exact ⟨rfl, rfl, rfl⟩

theorem initInterfacedata_role_ne (h : ∀ i, (s.port i).role ≠ .disabled) (g i : Fin numPorts) :
    ((s.initInterfacedata g).port i).role ≠ .disabled := by
  rw [initInterfacedata_port]
  by_cases hi : i = g
  · rw [if_pos hi, (initInterfacedata_self g).2.1]
    decide
  · rw [if_neg hi]
    exact h i

theorem initInterfacedata_stored (h : ∀ i, (s.port i).vector ≤ s.view.own) (g i : Fin numPorts) :
    ((s.initInterfacedata g).port i).vector ≤ (s.initInterfacedata g).view.own := by
  change _ ≤ s.view.own
  rw [initInterfacedata_port]
  by_cases hi : i = g
  · rw [if_pos hi, (initInterfacedata_self g).1]
  · rw [if_neg hi]
    exact h i

/-! ### Choosing the ports -/

section Election

variable [NeZero numPorts]

theorem selectRootPort_best (i : Fin numPorts) :
    (s.port s.selectRootPort.rootPort).vector ≤ (s.port i).vector :=
  (foldl_le (fun i => (s.port i).vector) s.betterRootPort_le (finRange numPorts)
    0).2 i (mem_finRange i)

theorem selectRootPort_role (i : Fin numPorts) :
    (s.selectRootPort.port i).role =
      if i = s.selectRootPort.rootPort then .root else .notAssigned := rfl

theorem selectRootPort_onlyRoles : OnlyRoles s s.selectRootPort :=
  ⟨rfl, rfl, rfl, rfl, fun _ => rfl⟩

theorem selectRootPort_not_designated (i : Fin numPorts) :
    (s.selectRootPort.port i).role ≠ .designated := by
  rw [selectRootPort_role]
  split_ifs <;> decide

/-- The election of a root port, and of designated ports among the others. -/
theorem selectPorts_followsRootPort :
    s.selectRootPort.selectDesignatedPorts.view.FollowsRootPort := by
  have hports := selectRootPort_onlyRoles.trans s.selectRootPort.selectDesignatedPorts_onlyRoles
  constructor
  · intro i
    rw [view_port, portView_role, selectDesignatedPorts_root, selectRootPort_role]
    change _ ↔ i = s.selectRootPort.rootPort
    by_cases hi : i = s.selectRootPort.rootPort <;> simp [hi]
  · intro i
    simp only [view_port, portView_vector, hports.vector]
    exact selectRootPort_best i
  · rw [view_port, portView_rootId, hports.port]
    rfl
  · rw [view_port, hports.port]
    rfl
  · intro i hi
    change i ≠ s.selectRootPort.rootPort at hi
    rw [view_port, portView_role, portView_vector, selectDesignatedPorts_designated _ _ fun hrole =>
      absurd hrole (selectRootPort_not_designated i), selectDesignatedPorts_global, hports.vector,
      selectRootPort_onlyRoles.vector, isCandidate, selectRootPort_role, if_neg hi]
    exact and_iff_right rfl

theorem selectPorts_listed : s.selectRootPort.selectDesignatedPorts.view.Listed :=
  selectDesignatedPorts_listed _ fun i hrole => absurd hrole (selectRootPort_not_designated i)

/-! ### Choosing the root -/

theorem tryRoot_onlyRoles : OnlyRoles s s.tryRoot := by
  rw [tryRoot]
  split_ifs
  · obtain ⟨hpriority, haddress, hage, hcurrent, hport⟩ :=
      setAllDesignated_onlyRoles { s with isRoot := true }
    exact ⟨hpriority, haddress, hage, hcurrent, hport⟩
  · have h := (selectRootPort_onlyRoles (s := { s with isRoot := false })).trans
      (selectDesignatedPorts_onlyRoles _)
    exact ⟨h.bridgePriority, h.bridgeAddress, h.maxAge, h.currentBridgePriority, h.port⟩

theorem tryRoot_role_of_eligible (h : s.checkRootEligibility = true)
    (hports : ∀ i, (s.port i).role ≠ .disabled) (i : Fin numPorts) :
    (s.tryRoot.port i).role = .designated := by
  rw [tryRoot, if_pos h]
  simp only [setAllDesignated, if_neg (hports i)]

theorem tryRoot_role_ne (hports : ∀ i, (s.port i).role ≠ .disabled) (i : Fin numPorts) :
    (s.tryRoot.port i).role ≠ .disabled := by
  by_cases h : s.checkRootEligibility = true
  · rw [tryRoot_role_of_eligible h hports]
    decide
  · rw [tryRoot, if_neg h]
    refine selectDesignatedPorts_ne_disabled _ ?_
    rw [selectRootPort_role]
    split_ifs <;> decide

theorem tryRoot_isRoot : s.tryRoot.isRoot = s.checkRootEligibility := by
  rw [tryRoot]
  cases h : s.checkRootEligibility with
  | true => rfl
  | false => rfl

/-- **The election** gives every port the role that the stored vectors demand. -/
theorem tryRoot_elected (hports : ∀ i, (s.port i).role ≠ .disabled)
    (hstored : ∀ i, (s.port i).vector ≤ s.view.own) : s.tryRoot.view.Elected := by
  have honly := tryRoot_onlyRoles (s := s)
  refine ⟨fun i => tryRoot_role_ne hports i, fun i => ?_, ?_, fun hroot => ?_, fun hroot => ?_⟩
  · rw [view_port, portView_vector, honly.vector, honly.own]
    exact hstored i
  · change s.tryRoot.isRoot = true ↔ _
    rw [tryRoot_isRoot, checkRootEligibility_iff, honly.bridgeId]
    refine forall_congr' fun i => ?_
    rw [view_port, portView_rootId, honly.port i]
    rfl
  · have h : s.checkRootEligibility = true := tryRoot_isRoot.symm.trans hroot
    refine ⟨?_, ?_, fun i => ?_⟩
    · rw [view, tryRoot, if_pos h]
    · rw [view, tryRoot, if_pos h]
    · rw [view_port, portView_role, tryRoot_role_of_eligible h hports]
      decide
  · have h : s.checkRootEligibility = false := tryRoot_isRoot.symm.trans hroot
    rw [tryRoot, if_neg (by rw [h]; decide)]
    exact selectPorts_followsRootPort

theorem tryRoot_listed (hports : ∀ i, (s.port i).role ≠ .disabled) : s.tryRoot.view.Listed := by
  by_cases h : s.checkRootEligibility = true
  · have hall : ∀ i, ((s.tryRoot.port i).role == .designated) = true := fun i => by
      rw [tryRoot_role_of_eligible h hports]
      rfl
    have hlist : s.tryRoot.desPorts =
        (finRange numPorts).filter fun i => (s.port i).role != .disabled := by
      rw [tryRoot, if_pos h]
      rfl
    change s.tryRoot.desPorts = _
    rw [hlist]
    refine filter_congr fun i _ => ?_
    rw [view_port, portView_role, hall, bne_iff_ne]
    exact hports i
  · rw [tryRoot, if_neg h]
    exact selectPorts_listed

end Election

end STP

end Ieee8021d

end Hiwis
