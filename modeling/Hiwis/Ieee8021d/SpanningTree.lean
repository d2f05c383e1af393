import Hiwis.Ieee8021d.StpRoles
import Hiwis.Lib.Distance
import Hiwis.Lib.RootedTree

/-!
# The spanning tree of quiescent STP bridges

A network of bridges comes to rest when every port stores the BPDU of its designated neighbour
(`Ieee8021d.StpNetwork.Quiescent`).

* `Ieee8021d.StpNetwork.Quiescent.not_both_designated` : a link has one designated end;
* `Ieee8021d.StpNetwork.spanningTree` : the bridges agree on the root, the root path costs are
  least, and the links between root and designated ports form a tree.
-/

namespace Hiwis

open RootedTree

namespace Ieee8021d

/-- Bridges, some of whose ports are joined by links. -/
structure StpNetwork (B : Type) where
  numPorts : B → ℕ
  pos : ∀ b, NeZero (numPorts b)
  bridge : ∀ b, STP (numPorts b)
  partner : (Σ b, Fin (numPorts b)) → Option (Σ b, Fin (numPorts b))
  symm : ∀ p q, partner p = some q → partner q = some p

namespace StpNetwork

variable {B : Type} (n : StpNetwork B)

instance (b : B) : NeZero (n.numPorts b) := n.pos b

abbrev Port : Type := Σ b, Fin (n.numPorts b)

def data (p : n.Port) : InterfaceData := (n.bridge p.1).port p.2

def id (b : B) : BridgeId := (n.bridge b).view.bridgeId

def rootId (b : B) : BridgeId := (n.bridge b).view.rootId

def cost (b : B) : ℕ := (n.bridge b).rootPathCost

/-- The configuration BPDU that the bridge sends on the port. -/
def announcement (q : n.Port) : BPDU := (n.bridge q.1).configBPDU q.2 false false

/-- Two bridges have a link. -/
def Linked (a b : B) : Prop := ∃ p q, n.partner p = some q ∧ p.1 = a ∧ q.1 = b

def Connected : Prop := (SimpleGraph.fromRel n.Linked).Connected

/-- Every bridge is in a state that it can reach, every port stores what its designated neighbour
announces, and a port is designated itself unless it has such a neighbour. -/
structure Quiescent : Prop where
  reachable : ∀ b, ∃ c ms, n.bridge b = (STP.initializeStage1 c).run ms
  stored : ∀ p q, n.partner p = some q → (n.data q).role = .designated →
    STP.withBPDU (n.data p) (n.announcement q) (n.data p) = n.data p
  neighbour : ∀ p, (n.data p).role ≠ .designated →
    ∃ q, n.partner p = some q ∧ (n.data q).role = .designated

/-- The path costs that the bridges compute fit into 32 bits. -/
def NoOverflow : Prop :=
  ∀ p q, n.partner p = some q → n.cost q.1 + (n.data p).linkCost < 2 ^ 32 ∧
    ((n.data p).role ≠ .root → n.cost p.1 + (n.data p).linkCost < 2 ^ 32)

/-- A root or designated port. -/
def Active (p : n.Port) : Prop := (n.data p).role = .root ∨ (n.data p).role = .designated

/-- The link belongs to the tree: both ends are root or designated ports. -/
def TreeLink (p q : n.Port) : Prop := n.partner p = some q ∧ n.Active p ∧ n.Active q

def treeGraph : SimpleGraph B :=
  SimpleGraph.fromRel fun a b => ∃ p q, n.TreeLink p q ∧ p.1 = a ∧ q.1 = b

/-- One gets to the other end of a link at the cost of the port. -/
def Edge (a b : B) (c : ℕ) : Prop :=
  ∃ p q, n.partner p = some q ∧ p.1 = a ∧ q.1 = b ∧ c = (n.data p).linkCost

/-- The root port of a bridge. -/
def rootPort (b : B) : n.Port := ⟨b, (n.bridge b).rootPort⟩

/-- The next bridge on the way to the root. -/
def parent (b : B) : Option B :=
  if (n.bridge b).isRoot then none else (n.partner (n.rootPort b)).map Sigma.fst

/-- What the protocol is for. -/
structure IsSpanningTree : Prop where
  root : ∃ r, (∀ b, n.id r ≤ n.id b) ∧ (∀ b, n.rootId b = n.id r) ∧
    ∀ b, Distance.dist n.Edge (fun a c => a = r ∧ c = 0) b = n.cost b
  tree : n.treeGraph.IsTree
  noLoop : ∀ p q, n.TreeLink p q → p.1 ≠ q.1
  noParallel : ∀ p q p' q', n.TreeLink p q → n.TreeLink p' q' → p.1 = p'.1 → q.1 = q'.1 →
    p = p' ∧ q = q'

variable {n}

/-! ### What the ends of a link know -/

variable {i i' : ℕ ×ₗ ℕ} {r r' : BridgeId}

theorem priorityVector_add_lt {c c' k : ℕ} {b b' : BridgeId} :
    priorityVector r (c + k) b i < priorityVector r' (c' + k) b' i' ↔
      priorityVector r c b i < priorityVector r' c' b' i' := by
  simp [priorityVector, Prod.Lex.toLex_lt_toLex]

theorem fst_le_of_le {c c' : ℕ} {b b' : BridgeId}
    (h : priorityVector r c b i ≤ priorityVector r' c' b' i') : r ≤ r' :=
  Prod.Lex.monotone_fst _ _ h

theorem cost_le_of_le {r : BridgeId} {c c' : ℕ} {b b' : BridgeId}
    (h : priorityVector r c b i ≤ priorityVector r c' b' i') : c ≤ c' := by
  rcases Prod.Lex.toLex_le_toLex.1 h with hlt | ⟨-, hle⟩
  · exact absurd hlt (lt_irrefl _)
  · exact Prod.Lex.monotone_fst _ _ hle

section Quiescent

variable {p q : n.Port} {b : B}

/-- What a port stores that has heard the announcement of its neighbour. -/
def offer (n : StpNetwork B) (p q : n.Port) : PriorityVector :=
  priorityVector (n.rootId q.1) (n.cost q.1 + (n.data p).linkCost) (n.id q.1)
    (toLex ((n.data q).priority, q.2.val))

theorem Quiescent.elected (h : n.Quiescent) (b : B) : (n.bridge b).view.Elected := by
  obtain ⟨c, ms, hb⟩ := h.reachable b
  rw [hb]
  exact (STP.run_inv (STP.initialize_inv c) ms).elected

theorem Quiescent.vector (h : n.Quiescent) (hover : n.NoOverflow) (hpq : n.partner p = some q)
    (hq : (n.data q).role = .designated) : (n.data p).vector = n.offer p q := by
  have hcost : STP.addCost (n.cost q.1) (n.data p).linkCost =
      n.cost q.1 + (n.data p).linkCost := Nat.mod_eq_of_lt (hover p q hpq).1
  rw [← h.stored p q hpq hq, offer, ← hcost]
  rfl

/-- The port of a bridge that regards itself as the root has no designated neighbour. -/
theorem Quiescent.not_root (h : n.Quiescent) (hover : n.NoOverflow)
    (hpositive : ∀ p q, n.partner p = some q → 0 < (n.data p).linkCost)
    (hpq : n.partner p = some q) (hq : (n.data q).role = .designated) :
    (n.bridge p.1).isRoot = false := by
  by_contra htrue
  rw [Bool.not_eq_false] at htrue
  have helected := h.elected p.1
  have hstored : n.offer p q ≤ (n.bridge p.1).view.own := by
    rw [← h.vector hover hpq hq]
    exact helected.stored p.2
  have hle : n.rootId q.1 ≤ n.id p.1 := fst_le_of_le hstored
  have hge : n.id p.1 ≤ n.rootId q.1 := by
    have := helected.isRoot_iff.1 htrue p.2
    rw [STP.view_port, PortView.rootId, STP.portView_vector] at this
    change _ ≤ (ofLex (n.data p).vector).1 at this
    rw [h.vector hover hpq hq] at this
    exact this
  rw [offer, le_antisymm hle hge] at hstored
  have hcost := cost_le_of_le hstored
  have := hpositive p q hpq
  omega

theorem Quiescent.follows (h : n.Quiescent) (hb : (n.bridge b).isRoot = false) :
    (n.bridge b).view.FollowsRootPort :=
  (h.elected b).asOther hb

theorem Quiescent.eq_rootPort_iff (h : n.Quiescent) (hp : (n.bridge p.1).isRoot = false) :
    (n.data p).role = .root ↔ p = n.rootPort p.1 := by
  refine ((h.follows hp).root_iff p.2).trans ⟨fun heq => ?_, fun heq => ?_⟩
  · exact Sigma.ext rfl (heq_of_eq heq)
  · exact eq_of_heq (Sigma.ext_iff.1 heq).2

theorem global_eq (hover : n.NoOverflow) (hpq : n.partner p = some q)
    (hp : (n.data p).role ≠ .root) : (n.bridge p.1).view.global p.2 =
      priorityVector (n.rootId p.1) (n.cost p.1 + (n.data p).linkCost) (n.id p.1)
        (toLex ((n.data p).priority, p.2.val)) := by
  have hcost : STP.addCost (n.cost p.1) (n.data p).linkCost =
      n.cost p.1 + (n.data p).linkCost := Nat.mod_eq_of_lt ((hover p q hpq).2 hp)
  rw [← hcost]
  rfl

theorem Quiescent.designated_iff (h : n.Quiescent) (hover : n.NoOverflow)
    (hpq : n.partner p = some q) (hroot : (n.bridge p.1).isRoot = false)
    (hp : (n.data p).role ≠ .root) : (n.data p).role = .designated ↔
      priorityVector (n.rootId p.1) (n.cost p.1 + (n.data p).linkCost) (n.id p.1)
        (toLex ((n.data p).priority, p.2.val)) < (n.data p).vector := by
  rw [← global_eq hover hpq hp]
  have hne : p.2 ≠ (n.bridge p.1).view.rootPort := mt ((h.follows hroot).root_iff p.2).2 hp
  exact (h.follows hroot).designated_iff p.2 hne

/-- **A link has one designated end** at most. -/
theorem Quiescent.not_both_designated (h : n.Quiescent) (hover : n.NoOverflow)
    (hpositive : ∀ p q, n.partner p = some q → 0 < (n.data p).linkCost)
    (hpq : n.partner p = some q) (hp : (n.data p).role = .designated) :
    (n.data q).role ≠ .designated := by
  intro hq
  have hqp := n.symm p q hpq
  have hroot := h.not_root hover hpositive hpq hq
  have hroot' := h.not_root hover hpositive hqp hp
  have hlt := (h.designated_iff hover hpq hroot (by rw [hp]; decide)).1 hp
  have hlt' := (h.designated_iff hover hqp hroot' (by rw [hq]; decide)).1 hq
  rw [h.vector hover hpq hq, offer, priorityVector_add_lt] at hlt
  rw [h.vector hover hqp hp, offer, priorityVector_add_lt] at hlt'
  exact absurd hlt hlt'.not_gt

theorem Quiescent.designated_of_not (h : n.Quiescent) (hpq : n.partner p = some q)
    (hp : (n.data p).role ≠ .designated) : (n.data q).role = .designated := by
  obtain ⟨q', hpq', hq'⟩ := h.neighbour p hp
  rw [hpq, Option.some.injEq] at hpq'
  exact hpq' ▸ hq'

/-! ### Root and costs -/

variable (h : n.Quiescent) (hover : n.NoOverflow)
  (hpositive : ∀ p q, n.partner p = some q → 0 < (n.data p).linkCost)

include h

/-- The stored vector of the root port has the root and the cost of the bridge. -/
theorem Quiescent.vector_rootPort (hb : (n.bridge b).isRoot = false) :
    ∃ bridge port, (n.data (n.rootPort b)).vector =
      priorityVector (n.rootId b) (n.cost b) bridge port := by
  have hrootId : n.rootId b = (n.data (n.rootPort b)).rootId := (h.follows hb).rootId
  have hcost : n.cost b = (n.data (n.rootPort b)).rootPathCost := (h.follows hb).cost
  rw [hrootId, hcost]
  exact ⟨_, _, rfl⟩

include hover

/-- The root port leads to a bridge with the same root. -/
theorem Quiescent.rootPort_spec (hb : (n.bridge b).isRoot = false) :
    ∃ q, n.partner (n.rootPort b) = some q ∧ (n.data q).role = .designated ∧
      n.rootId b = n.rootId q.1 ∧ n.cost b = n.cost q.1 + (n.data (n.rootPort b)).linkCost := by
  have hrole : (n.data (n.rootPort b)).role = .root :=
    (h.eq_rootPort_iff (p := n.rootPort b) hb).2 rfl
  obtain ⟨q, hpq, hq⟩ := h.neighbour (n.rootPort b) (by rw [hrole]; decide)
  obtain ⟨bridge, port, hvector⟩ := h.vector_rootPort hb
  rw [h.vector hover hpq hq, offer] at hvector
  obtain ⟨hroot, hrest⟩ := Prod.mk.inj (toLex.injective hvector)
  obtain ⟨hcost, -⟩ := Prod.mk.inj (toLex.injective hrest)
  exact ⟨q, hpq, hq, hroot.symm, hcost.symm⟩

include hpositive

/-- The two bridges of a link agree on the root. -/
theorem Quiescent.rootId_eq_of_not (hpq : n.partner p = some q)
    (hp : (n.data p).role ≠ .designated) : n.rootId p.1 = n.rootId q.1 := by
  have hq := h.designated_of_not hpq hp
  have hroot := h.not_root hover hpositive hpq hq
  have hvector := h.vector hover hpq hq
  by_cases hrole : (n.data p).role = .root
  · obtain ⟨q', hpq', -, heq, -⟩ := h.rootPort_spec hover hroot
    rw [← (h.eq_rootPort_iff hroot).1 hrole, hpq, Option.some.injEq] at hpq'
    exact hpq' ▸ heq
  · refine le_antisymm ?_ ?_
    · obtain ⟨bridge, port, hbest⟩ := h.vector_rootPort hroot
      have hle : (n.data (n.rootPort p.1)).vector ≤ (n.data p).vector := (h.follows hroot).best p.2
      rw [hbest, hvector] at hle
      exact fst_le_of_le hle
    · have hle := not_lt.1 (mt (h.designated_iff hover hpq hroot hrole).2 hp)
      rw [hvector] at hle
      exact fst_le_of_le hle

theorem Quiescent.rootId_eq (hpq : n.partner p = some q) : n.rootId p.1 = n.rootId q.1 := by
  by_cases hp : (n.data p).role = .designated
  · have hq := h.not_both_designated hover hpositive hpq hp
    exact (h.rootId_eq_of_not hover hpositive (n.symm p q hpq) hq).symm
  · exact h.rootId_eq_of_not hover hpositive hpq hp

/-- A way over a link is not cheaper than the root path cost. -/
theorem Quiescent.cost_le (hpq : n.partner p = some q) :
    n.cost p.1 ≤ (n.data p).linkCost + n.cost q.1 := by
  have hrootId := h.rootId_eq hover hpositive hpq
  by_cases hp : (n.data p).role = .designated
  · -- the other end has chosen not to be designated
    have hqp := n.symm p q hpq
    have hq := h.not_both_designated hover hpositive hpq hp
    have hroot := h.not_root hover hpositive hqp hp
    suffices hle : n.cost p.1 ≤ n.cost q.1 from hle.trans (Nat.le_add_left _ _)
    by_cases hrole : (n.data q).role = .root
    · obtain ⟨p', hqp', -, -, hcost⟩ := h.rootPort_spec hover hroot
      rw [← (h.eq_rootPort_iff hroot).1 hrole, hqp, Option.some.injEq] at hqp'
      rw [hcost, ← hqp']
      exact Nat.le_add_right _ _
    · have hle := not_lt.1 (mt (h.designated_iff hover hqp hroot hrole).2 hq)
      rw [h.vector hover hqp hp, offer, hrootId] at hle
      exact Nat.le_of_add_le_add_right (cost_le_of_le hle)
  · have hq := h.designated_of_not hpq hp
    have hroot := h.not_root hover hpositive hpq hq
    obtain ⟨bridge, port, hbest⟩ := h.vector_rootPort hroot
    have hle : (n.data (n.rootPort p.1)).vector ≤ (n.data p).vector := (h.follows hroot).best p.2
    rw [hbest, h.vector hover hpq hq, offer, hrootId] at hle
    rw [add_comm]
    exact cost_le_of_le hle

/-! ### The tree -/

omit hpositive in
theorem Quiescent.parent_spec (hb : (n.bridge b).isRoot = false) :
    ∃ q, n.partner (n.rootPort b) = some q ∧ (n.data q).role = .designated ∧
      n.parent b = some q.1 ∧ n.cost b = n.cost q.1 + (n.data (n.rootPort b)).linkCost := by
  obtain ⟨q, hpq, hq, -, hcost⟩ := h.rootPort_spec hover hb
  refine ⟨q, hpq, hq, ?_, hcost⟩
  rw [parent, if_neg (by rw [hb]; decide), hpq]
  rfl

omit hpositive in
theorem Quiescent.parent_eq_none_iff : n.parent b = none ↔ (n.bridge b).isRoot = true := by
  cases hb : (n.bridge b).isRoot with
  | true => exact iff_of_true (if_pos hb) rfl
  | false =>
    obtain ⟨q, -, -, hparent, -⟩ := h.parent_spec hover hb
    rw [hparent]
    exact iff_of_false (by simp) (by simp)

theorem Quiescent.cost_parent {a : B} (hab : n.parent b = some a) : n.cost a < n.cost b := by
  have hb : (n.bridge b).isRoot = false := by
    by_contra htrue
    rw [Bool.not_eq_false, ← h.parent_eq_none_iff hover, hab] at htrue
    cases htrue
  obtain ⟨q, hpq, -, hparent, hcost⟩ := h.parent_spec hover hb
  rw [hab, Option.some.injEq] at hparent
  have := hpositive _ _ hpq
  rw [hparent]
  omega

theorem Quiescent.exists_isRoot (b : B) : ∃ r, (n.bridge r).isRoot = true := by
  induction hc : n.cost b using Nat.strong_induction_on generalizing b with
  | _ c ih =>
    cases hparent : n.parent b with
    | none => exact ⟨b, (h.parent_eq_none_iff hover).1 hparent⟩
    | some a => exact ih _ (hc ▸ h.cost_parent hover hpositive hparent) a rfl

theorem Quiescent.rootId_const (hconn : n.Connected) (a b : B) : n.rootId a = n.rootId b := by
  obtain ⟨walk⟩ := hconn.preconnected a b
  induction walk with
  | nil => rfl
  | cons hadj _ ih =>
    refine Eq.trans ?_ ih
    rcases hadj with ⟨-, ⟨p, q, hpq, rfl, rfl⟩ | ⟨p, q, hpq, rfl, rfl⟩⟩
    · exact h.rootId_eq hover hpositive hpq
    · exact (h.rootId_eq hover hpositive hpq).symm

omit hover hpositive in
theorem Quiescent.rootId_le (b : B) : n.rootId b ≤ n.id b := by
  cases hb : (n.bridge b).isRoot with
  | true => exact ((h.elected b).asRoot hb).1.le
  | false => exact ((h.elected b).rootId_lt hb).le

/-- The link of a root port, from either end. -/
theorem Quiescent.treeLink_cases (htree : n.TreeLink p q) :
    (p = n.rootPort p.1 ∧ n.parent p.1 = some q.1) ∨
      (q = n.rootPort q.1 ∧ n.parent q.1 = some p.1) := by
  have hside : ∀ p q, n.partner p = some q → n.Active p → (n.data p).role ≠ .designated →
      p = n.rootPort p.1 ∧ n.parent p.1 = some q.1 := by
    intro p q hpq hactive hp
    have hroot := h.not_root hover hpositive hpq (h.designated_of_not hpq hp)
    have heq := (h.eq_rootPort_iff hroot).1 (hactive.resolve_right hp)
    refine ⟨heq, ?_⟩
    rw [parent, if_neg (by rw [hroot]; decide), ← heq, hpq]
    rfl
  obtain ⟨hpq, hp, hq⟩ := htree
  by_cases hrole : (n.data p).role = .designated
  · have hnot := h.not_both_designated hover hpositive hpq hrole
    exact .inr (hside q p (n.symm p q hpq) hq hnot)
  · exact .inl (hside p q hpq hp hrole)

/-- The links of the tree join the bridges to their parents. -/
theorem Quiescent.treeGraph_eq : n.treeGraph = graph n.parent := by
  ext a b
  have hparent : ∀ a b, n.parent a = some b → ∃ p q, n.TreeLink p q ∧ p.1 = a ∧ q.1 = b := by
    intro a b hab
    have ha : (n.bridge a).isRoot = false := by
      by_contra htrue
      rw [Bool.not_eq_false, ← h.parent_eq_none_iff hover, hab] at htrue
      cases htrue
    obtain ⟨q, hpq, hq, hparent, -⟩ := h.parent_spec hover ha
    rw [hab, Option.some.injEq] at hparent
    have hrole : (n.data (n.rootPort a)).role = .root :=
      (h.eq_rootPort_iff (p := n.rootPort a) ha).2 rfl
    exact ⟨n.rootPort a, q, ⟨hpq, .inl hrole, .inr hq⟩, rfl, hparent.symm⟩
  have hlink : ∀ a b, (∃ p q, n.TreeLink p q ∧ p.1 = a ∧ q.1 = b) →
      n.parent a = some b ∨ n.parent b = some a := by
    rintro _ _ ⟨p, q, htree, rfl, rfl⟩
    exact (h.treeLink_cases hover hpositive htree).imp And.right And.right
  rw [treeGraph, graph, SimpleGraph.fromRel_adj, SimpleGraph.fromRel_adj]
  refine and_congr_right fun _ => ⟨fun hor => ?_, fun hor => ?_⟩
  · exact hor.elim (hlink a b) fun hba => (hlink b a hba).symm
  · exact hor.imp (hparent a b) (hparent b a)

/-- The way along the parents is a cheapest one. -/
theorem Quiescent.dist_eq {r : B} (hr : ∀ b, (n.bridge b).isRoot = true ↔ b = r) (b : B) :
    Distance.dist n.Edge (fun a c => a = r ∧ c = 0) b = n.cost b := by
  have hcost : n.cost r = 0 := ((h.elected r).asRoot ((hr r).2 rfl)).2.1
  refine Distance.dist_eq_of_walk ?_ ?_ (fun b => ?_) b
  · rintro _ _ _ ⟨p, q, hpq, rfl, rfl, rfl⟩
    exact h.cost_le hover hpositive hpq
  · rintro _ _ ⟨rfl, rfl⟩
    exact hcost.le
  · induction hc : n.cost b using Nat.strong_induction_on generalizing b with
    | _ c ih =>
      cases hb : (n.bridge b).isRoot with
      | true =>
        obtain rfl := (hr b).1 hb
        exact hc ▸ .origin ⟨rfl, hcost⟩
      | false =>
        obtain ⟨q, hpq, -, hparent, hsum⟩ := h.parent_spec hover hb
        have hwalk := ih _ (hc ▸ h.cost_parent hover hpositive hparent) q.1 rfl
        rw [← hc, hsum, add_comm]
        exact .step ⟨_, q, hpq, rfl, rfl, rfl⟩ hwalk

end Quiescent

/-- **The spanning tree.** -/
theorem isSpanningTree [Finite B] (hconn : n.Connected) (hid : Function.Injective n.id)
    (hpositive : ∀ p q, n.partner p = some q → 0 < (n.data p).linkCost) (hover : n.NoOverflow)
    (h : n.Quiescent) : n.IsSpanningTree := by
  have hrank : ∀ v w, n.parent v = some w → n.cost w < n.cost v := fun v w hvw =>
    h.cost_parent hover hpositive hvw
  obtain ⟨b₀⟩ := hconn.nonempty
  obtain ⟨r, hr⟩ := h.exists_isRoot hover hpositive b₀
  have hrootId : ∀ b, (n.bridge b).isRoot = true → n.rootId b = n.id b := fun b hb =>
    ((h.elected b).asRoot hb).1
  have hall : ∀ b, n.rootId b = n.id r := fun b =>
    (h.rootId_const hover hpositive hconn b r).trans (hrootId r hr)
  have hunique : ∀ b, (n.bridge b).isRoot = true ↔ b = r := fun b =>
    ⟨fun hb => hid ((hrootId b hb).symm.trans (hall b)), fun heq => heq ▸ hr⟩
  refine ⟨⟨r, fun b => hall b ▸ h.rootId_le b, hall, h.dist_eq hover hpositive hunique⟩, ?_, ?_, ?_⟩
  · rw [h.treeGraph_eq hover hpositive]
    exact isTree hrank fun b => (h.parent_eq_none_iff hover).trans (hunique b)
  · intro p q htree heq
    rcases h.treeLink_cases hover hpositive htree with ⟨-, hparent⟩ | ⟨-, hparent⟩
    · exact ne_of_parent hrank hparent heq
    · exact ne_of_parent hrank hparent heq.symm
  · intro p q p' q' htree htree' hp hq
    have hboth : ∀ p q p' q' : n.Port, n.partner p = some q → n.partner p' = some q' →
        p = n.rootPort p.1 → p' = n.rootPort p'.1 → p.1 = p'.1 → p = p' ∧ q = q' := by
      intro p q p' q' hpq hpq' hroot hroot' heq
      have hpp : p = p' := by rw [hroot, hroot', heq]
      exact ⟨hpp, Option.some.inj (hpq.symm.trans (hpp ▸ hpq'))⟩
    have hsym : n.partner q = some p := n.symm p q htree.1
    have hsym' : n.partner q' = some p' := n.symm p' q' htree'.1
    rcases h.treeLink_cases hover hpositive htree with ⟨hroot, hparent⟩ | ⟨hroot, hparent⟩ <;>
      rcases h.treeLink_cases hover hpositive htree' with ⟨hroot', hparent'⟩ | ⟨hroot', hparent'⟩
    · exact hboth p q p' q' htree.1 htree'.1 hroot hroot' hp
    · -- two bridges are not the parents of each other
      rw [← hp, ← hq] at hparent'
      exact absurd (hrank _ _ hparent) (hrank _ _ hparent').not_gt
    · rw [← hp, ← hq] at hparent'
      exact absurd (hrank _ _ hparent) (hrank _ _ hparent').not_gt
    · exact (hboth q p q' p' hsym hsym' hroot hroot' hq).symm

/-! ### Three bridges in a ring -/

local instance ringPorts : NeZero 2 := ⟨Nat.succ_ne_zero 1⟩

def ringConfig (linkCost : ℕ) (address : MACAddress) : StpConfig 2 where
  bridgePriority := 32768
  bridgeAddress := address
  maxAge := 20 * second
  helloTime := 2 * second
  forwardDelay := 15 * second
  port _ := { InterfaceData.initial with priority := 128, linkCost := linkCost }

/-- The BPDU that arrives from a neighbour. -/
def heard (arrivalGate : Fin 2) (sender : STP 2) (port : Fin 2) : StpMessage 2 :=
  .bpdu arrivalGate sender.bridgeAddress MACAddress.stpMulticastAddress
    (sender.configBPDU port false false)

section

variable (linkCost : ℕ)

def ringRoot : STP 2 := STP.initializeStage1 (ringConfig linkCost 1)

def ringSecond : STP 2 :=
  (STP.initializeStage1 (ringConfig linkCost 2)).run [heard 0 (ringRoot linkCost) 0]

def ringThird : STP 2 :=
  (STP.initializeStage1 (ringConfig linkCost 3)).run
    [heard 0 (ringRoot linkCost) 1, heard 1 (ringSecond linkCost) 1]

def ringBridge : Fin 3 → STP 2
  | 0 => ringRoot linkCost
  | 1 => ringSecond linkCost
  | 2 => ringThird linkCost

def ring : StpNetwork (Fin 3) where
  numPorts _ := 2
  pos _ := inferInstanceAs (NeZero 2)
  bridge := ringBridge linkCost
  partner p := match p with
    | ⟨0, 0⟩ => some ⟨1, 0⟩
    | ⟨0, 1⟩ => some ⟨2, 0⟩
    | ⟨1, 0⟩ => some ⟨0, 0⟩
    | ⟨1, 1⟩ => some ⟨2, 1⟩
    | ⟨2, 0⟩ => some ⟨0, 1⟩
    | ⟨2, 1⟩ => some ⟨1, 1⟩
  symm := by decide

end

theorem ring_connected (linkCost : ℕ) : (ring linkCost).Connected := by
  refine SimpleGraph.connected_iff_exists_forall_reachable _ |>.2 ⟨0, fun b => ?_⟩
  by_cases hb : b = 0
  · rw [hb]
  · refine SimpleGraph.Adj.reachable ⟨Ne.symm hb, .inl ?_⟩
    fin_cases b
    · exact absurd rfl hb
    · exact ⟨⟨0, 0⟩, ⟨1, 0⟩, rfl, rfl, rfl⟩
    · exact ⟨⟨0, 1⟩, ⟨2, 0⟩, rfl, rfl, rfl⟩

theorem ring_reachable (linkCost : ℕ) (b : Fin 3) :
    ∃ c ms, (ring linkCost).bridge b = (STP.initializeStage1 c).run ms := by
  change ∃ c ms, ringBridge linkCost b = (STP.initializeStage1 c).run ms
  match b with
  | 0 => exact ⟨ringConfig linkCost 1, [], by rw [ringBridge, ringRoot, STP.run, List.foldl_nil]⟩
  | 1 => exact ⟨ringConfig linkCost 2, [heard 0 (ringRoot linkCost) 0], by
      rw [ringBridge, ringSecond]⟩
  | 2 => exact ⟨ringConfig linkCost 3, [heard 0 (ringRoot linkCost) 1,
      heard 1 (ringSecond linkCost) 1], by rw [ringBridge, ringThird]⟩

theorem isSpanningTree_ring : (ring 19).IsSpanningTree := by
  have hover : (ring 19).NoOverflow := by
    unfold NoOverflow
    decide +kernel
  exact isSpanningTree (ring_connected 19) (by decide +kernel) (by decide +kernel) hover
    ⟨ring_reachable 19, by decide +kernel, by decide +kernel⟩

/-- The path cost of the third bridge wraps around: over the second bridge it is 0. -/
theorem not_isSpanningTree :
    ¬∀ (B : Type) (_ : Finite B) (n : StpNetwork B), n.Connected → Function.Injective n.id →
      (∀ p q, n.partner p = some q → 0 < (n.data p).linkCost) → n.Quiescent →
      n.IsSpanningTree := by
  intro hall
  have htree := hall (Fin 3) inferInstance (ring (2 ^ 31)) (ring_connected _) (by decide +kernel)
    (by decide +kernel) ⟨ring_reachable _, by decide +kernel, by decide +kernel⟩
  obtain ⟨r, hr, -, hdist⟩ := htree.root
  have hne : r ≠ 2 := by
    rintro rfl
    exact absurd (hr 0) (by decide +kernel)
  have hzero := hdist 2
  have hcost : (ring (2 ^ 31)).cost 2 = 0 := by decide +kernel
  rw [hcost] at hzero
  obtain ⟨c, hwalk, hc⟩ := Distance.exists_walk (hzero ▸ ENat.natCast_ne_top 0)
  rw [hzero, Nat.cast_inj] at hc
  subst hc
  generalize hv : (2 : Fin 3) = v at hwalk
  generalize hn : 0 = m at hwalk
  cases hwalk with
  | origin horigin => exact hne (horigin.1 ▸ hv).symm
  | step hedge hrest =>
    obtain ⟨p, q, hpq, -, -, rfl⟩ := hedge
    have hlink : ∀ p q, (ring (2 ^ 31)).partner p = some q →
        0 < ((ring (2 ^ 31)).data p).linkCost := by decide +kernel
    have := hlink p q hpq
    omega

end StpNetwork

end Ieee8021d

end Hiwis
