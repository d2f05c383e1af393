import Hiwis.Dymo.Routes
import Hiwis.Lib.Serial

/-!
# Loops of DYMO routes

When the routes of a network lead packets round in circles, and when they do not.  A node that hands
routing information on does not change its metric, a route that is broken is repaired with any
information, also with information that is older, and information about an address that the node
itself serves is stored.  What keeps the routes free of loops is then only the order of the sequence
numbers and the order in which equal information is stored:

* `Fresh` : what is stored is newer than what the node remembers, and not about its own addresses;
* `Apart` : the relay does not remember the same number, and numbers that are compared are less than
  half of the sequence space apart;
* `Ahead`, `Inv` : who hands information on remembers it, or remembers newer information, and has
  learnt it from a packet that was sent earlier.
-/

namespace Hiwis

open List Except Function Bool Trace

namespace Dymo

namespace Routes

open XDYMO

variable {c : IPv4Address → Parameters}

/-! ### What is to hold -/

/-- The node sends the packets for the target to the gateway. -/
def Hop (s : Network) (target : IPv4Address) (node gateway : IPv4Address) : Prop :=
  ∃ r ∈ (s.modules node).routes, r.destination = target ∧ r.broken = false ∧ r.gateway = gateway

instance (s : Network) (target node gateway : IPv4Address) :
    Decidable (Hop s target node gateway) := by
  unfold Hop
  infer_instance

/-- Following the next hops from node to node never visits a node twice. -/
def LoopFree (s : Network) : Prop :=
  ∀ target (path : List IPv4Address), path.IsChain (Hop s target) → path.Nodup

/-- The wrap-around order of 16-bit sequence numbers: `a` is newer than `b`. -/
def newer (a b : ℕ) : Bool := Serial.lt (BitVec.ofNat 16 b) (BitVec.ofNat 16 a)

/-- The second route is newer, or as new and shorter. -/
def Improves (r r' : Route) : Prop :=
  newer r'.sequenceNumber r.sequenceNumber ∨
    BitVec.ofNat 16 r'.sequenceNumber = BitVec.ofNat 16 r.sequenceNumber ∧ r'.metric < r.metric

/-- Along each hop to a node with a route of its own the route strictly improves. -/
def StrictlyImproving (s : Network) : Prop :=
  ∀ node, ∀ r ∈ (s.modules node).routes, ∀ r' ∈ (s.modules r.gateway).routes,
    r'.destination = r.destination → r.broken = false → r'.broken = false → Improves r r'

/-- The sequence number that the node remembers for the target. -/
def remembered (s : Network) (node target : IPv4Address) : Option ℕ :=
  (s.modules node).targetAddressToSequenceNumber.lookup target

/-- The node has information on the target with the sequence number: remembered, or in a route. -/
def Knows (s : Network) (node target : IPv4Address) (q : ℕ) : Prop :=
  remembered s node target = some q ∨
    ∃ r ∈ (s.modules node).routes, r.destination = target ∧ r.sequenceNumber = q

/-- No node replaces its information on a target by older information. -/
def KeepsNewest (s s' : Network) : Prop :=
  ∀ node target q q', Knows s node target q → Knows s' node target q' → newer q q' = false

/-! ### The conditions -/

/-- The blocks that the receiver uses. -/
def usedBlocks (c : Parameters) (timeToLive : ℕ) (packet : DYMOPacket) : List AddressBlock :=
  match packet with
  | .rreq rteMsg =>
    if permissibleRteMsg c timeToLive rteMsg rteMsg.originatorNode then packet.blocks else []
  | .rrep rteMsg =>
    if permissibleRteMsg c timeToLive rteMsg rteMsg.targetNode then packet.blocks else []
  | .rerr .. => []

/-- The node has no unbroken route for the address that is as new as the block. -/
def Accepts (n : XDYMO) (b : AddressBlock) : Prop :=
  ∀ r ∈ n.routes, r.destination = b.address → r.broken = false → r.sequenceNumber < b.sequenceNumber

/-- What the node accepts is not about its own addresses, and newer than what it remembers. -/
def Fresh (c : Parameters) (self : IPv4Address) (n : XDYMO) (b : AddressBlock) : Prop :=
  b.address ≠ self → Accepts n b → isClientAddress c b.address = false ∧
    ∀ q, n.targetAddressToSequenceNumber.lookup b.address = some q → q < b.sequenceNumber

/-- What the node accepts is not what its relay still remembers, and less than half of the 16-bit
sequence space ahead of what it is compared with. -/
structure Apart (s : Network) (node relay : IPv4Address) (b : AddressBlock) : Prop where
  relay_ne : ∀ q, remembered s relay b.address = some q →
    q ≠ b.sequenceNumber ∧ q < b.sequenceNumber + 2 ^ 15
  upstream : ∀ other, ∀ r ∈ (s.modules other).routes, r.destination = b.address →
    r.broken = false → r.gateway = node → b.sequenceNumber < r.sequenceNumber + 2 ^ 15

/-- The new information is less than half of the 16-bit sequence space ahead of the old one. -/
def Near (n : XDYMO) (b : AddressBlock) : Prop :=
  ∀ q, n.targetAddressToSequenceNumber.lookup b.address = some q → b.sequenceNumber < q + 2 ^ 15

/-- Every block that is used in the event meets the condition. -/
def Meets (P : Network → IPv4Address → IPv4Address → AddressBlock → Prop)
    (c : IPv4Address → Parameters) (s : Network) : Event → Prop
  | .receive self _ packet _ timeToLive =>
    ∀ p, s.sent[packet]? = some p → Network.arrives c self p →
      ∀ b ∈ usedBlocks (c self) timeToLive p.encapsulatedPacket, P s self p.srcAddr b
  | _ => True

/-- Every block that is stored is fresh. -/
def StoresFresh (c : IPv4Address → Parameters) : Network → Event → Prop :=
  Meets (fun s self _ b => Fresh (c self) self (s.modules self) b) c

/-- The blocks that are stored also keep their distance. -/
def StoresApart (c : IPv4Address → Parameters) (s : Network) (e : Event) : Prop :=
  StoresFresh c s e ∧
    Meets (fun s self relay b => b.address ≠ self → Accepts (s.modules self) b →
      Apart s self relay b ∧ Near (s.modules self) b) c s e

/-- The modules before anything has happened. -/
def Network.initial (sequenceNumber : IPv4Address → ℕ) : Network where
  modules := fun self => { sequenceNumber := sequenceNumber self }

/-! ### One block -/

/-- The routes of the module lead to different destinations. -/
def OneEach (n : XDYMO) : Prop := (n.routes.map Route.destination).Nodup

/-- The routes carry the numbers that the module remembers, and metrics that no node has
increased. -/
structure Sound (n : XDYMO) : Prop where
  oneEach : OneEach n
  known : ∀ r ∈ n.routes,
    n.targetAddressToSequenceNumber.lookup r.destination = some r.sequenceNumber
  metric : ∀ r ∈ n.routes, r.metric = 0

/-- The module has stored the block. -/
structure Stored (now : ℤ) (control : IPv4ControlInfo) (b : AddressBlock) (n n' : XDYMO) :
    Prop where
  known : n'.targetAddressToSequenceNumber =
    n.targetAddressToSequenceNumber.insert b.address b.sequenceNumber
  routes : n'.routes =
    n.routes.filter (fun r => r.destination ≠ b.address) ++ [routeOf now control b]

variable {n n' : XDYMO} {now : ℤ} {p : Parameters}

theorem scheduleExpungeTimer_ok
    (h : n.scheduleExpungeTimer p now = .ok n') : ∃ t, n' = { n with expungeTimer := t } := by
  unfold scheduleExpungeTimer at h
  split at h
  · exact ⟨none, (Except.ok.inj h).symm⟩
  · rename_i next _
    split_ifs at h
    · exact ⟨n.expungeTimer, (Except.ok.inj h).symm⟩
    · exact ⟨some next, (Except.ok.inj h).symm⟩

variable {control : IPv4ControlInfo} {b : AddressBlock}

theorem updateRoute_ok (h : n.updateRoute p now control b = .ok n') :
    n'.targetAddressToSequenceNumber =
        n.targetAddressToSequenceNumber.insert b.address b.sequenceNumber ∧
      n'.routes = n.routes ++ [routeOf now control b] := by
  unfold updateRoute at h
  obtain ⟨n1, h1, h2⟩ := bind_eq_ok.1 h
  obtain ⟨t, rfl⟩ := scheduleExpungeTimer_ok h1
  cases h2
  exact ⟨rfl, rfl⟩

/-- With one route for each destination the removed route is the only one that goes there. -/
theorem eraseP_destination {l : List Route} (h : (l.map Route.destination).Nodup)
    (address : IPv4Address) :
    l.eraseP (fun r => r.destination = address) = l.filter fun r => r.destination ≠ address := by
  induction l with
  | nil => rfl
  | cons r l ih =>
    rw [map_cons, nodup_cons] at h
    by_cases hr : r.destination = address
    · subst hr
      have hnot : ∀ r' ∈ l, r'.destination ≠ r.destination := by
        intro r' hr' heq
        exact h.1 (heq ▸ mem_map_of_mem hr')
      simp only [decide_true, eraseP_cons_of_pos, ne_eq, not_true_eq_false, decide_false,
        false_eq_true, not_false_eq_true, filter_cons_of_neg]
      exact (filter_eq_self.2 fun r' hr' => by simpa using hnot r' hr').symm
    · simp only [hr, decide_false, false_eq_true, not_false_eq_true, eraseP_cons_of_neg,
        ne_eq, decide_true, filter_cons_of_pos, ih h.2]

variable {self : IPv4Address}

/-- A block is stored, or it is about the node itself or no improvement of its route. -/
theorem updateRoutes_cases (hn : OneEach n) (h : n.updateRoutes p self now control b = .ok n') :
    n' = n ∧ (b.address = self ∨
        ∃ r ∈ n.routes, r.destination = b.address ∧ offersImprovement b r = false) ∨
      b.address ≠ self ∧
        (∀ r ∈ n.routes, r.destination = b.address → offersImprovement b r = true) ∧
        Stored now control b n n' := by
  unfold updateRoutes at h
  by_cases hself : b.address = self
  · rw [if_pos hself] at h
    exact .inl ⟨(Except.ok.inj h).symm, .inl hself⟩
  rw [if_neg hself] at h
  cases hfind : n.routes.find? (fun r : Route => decide (r.destination = b.address)) with
  | none =>
    rw [hfind] at h
    have hnot : ∀ r ∈ n.routes, r.destination ≠ b.address := by
      intro r hr
      simpa using List.find?_eq_none.1 hfind r hr
    obtain ⟨hknown, hroutes⟩ := updateRoute_ok h
    refine .inr ⟨hself, fun r hr hd => absurd hd (hnot r hr), hknown, ?_⟩
    rw [hroutes, filter_eq_self.2 fun r hr => by simpa using hnot r hr]
  | some r =>
    rw [hfind] at h
    have hr := mem_of_find?_eq_some hfind
    have hd : r.destination = b.address := by simpa using List.find?_some hfind
    by_cases hoff : offersImprovement b r = true
    · simp only [hoff, if_true] at h
      obtain ⟨hknown, hroutes⟩ := updateRoute_ok h
      refine .inr ⟨hself, ?_, hknown, ?_⟩
      · intro r' hr' hd'
        -- the route that was found is the only one with this destination
        rwa [inj_on_of_nodup_map hn hr' hr (hd'.trans hd.symm)]
      · rw [hroutes, removeRoute, eraseP_destination hn]
    · simp only [hoff] at h
      exact .inl ⟨(Except.ok.inj h).symm, .inr ⟨r, hr, hd, by simpa using hoff⟩⟩

section

variable (h : Stored now control b n n')
include h

theorem Stored.oneEach (hn : OneEach n) : OneEach n' := by
  unfold OneEach at hn ⊢
  rw [h.routes, map_append, nodup_append]
  refine ⟨hn.sublist (filter_sublist.map _), nodup_singleton _, ?_⟩
  intro d hd d' hd'
  obtain ⟨r, hr, rfl⟩ := mem_map.1 hd
  cases mem_singleton.1 hd'
  have hne : r.destination ≠ b.address := by simpa using (mem_filter.1 hr).2
  exact hne

theorem Stored.mem {r : Route} :
    r ∈ n'.routes ↔ (r ∈ n.routes ∧ r.destination ≠ b.address) ∨ r = routeOf now control b := by
  rw [h.routes, mem_append, mem_filter, mem_singleton, decide_eq_true_eq]

theorem Stored.lookup_self :
    n'.targetAddressToSequenceNumber.lookup b.address = some b.sequenceNumber := by
  rw [h.known, AList.lookup_insert]

theorem Stored.lookup_ne {target : IPv4Address} (ht : target ≠ b.address) :
    n'.targetAddressToSequenceNumber.lookup target =
      n.targetAddressToSequenceNumber.lookup target := by
  rw [h.known, AList.lookup_insert_ne ht]

theorem Stored.sound (hn : Sound n) (hb : b.metric = 0) : Sound n' := by
  refine ⟨h.oneEach hn.oneEach, fun r hr => ?_, fun r hr => ?_⟩
  · obtain ⟨hr, hd⟩ | rfl := h.mem.1 hr
    · rw [h.lookup_ne hd]
      exact hn.known r hr
    · exact h.lookup_self
  · obtain ⟨hr, -⟩ | rfl := h.mem.1 hr
    · exact hn.metric r hr
    · exact hb

end

/-- As all metrics are zero, what improves a route is accepted. -/
theorem Sound.accepts (h : Sound n) (hb : b.metric = 0)
    (himp : ∀ r ∈ n.routes, r.destination = b.address → offersImprovement b r = true) :
    Accepts n b := by
  intro r hr hd hbroken
  have himp := himp r hr hd
  simp only [offersImprovement, hb, h.metric r hr, hbroken, lt_irrefl, decide_false,
    Bool.and_false, Bool.or_false, Bool.false_and, decide_eq_true_eq] at himp
  exact himp

/-- After a block has been stored only newer information about its address is accepted. -/
theorem Stored.accepts {b b' : AddressBlock}
    (h : Stored now control b n n') (hb : Accepts n b) (hb' : Accepts n' b') :
    Accepts n b' ∧ (b'.address = b.address → b.sequenceNumber < b'.sequenceNumber) := by
  have hnew : b'.address = b.address → b.sequenceNumber < b'.sequenceNumber :=
    fun heq => hb' (routeOf now control b) (h.mem.2 (.inr rfl)) heq.symm rfl
  refine ⟨fun r hr hd hbroken => ?_, hnew⟩
  by_cases hrb : r.destination = b.address
  · have := hb r hr hrb hbroken
    have := hnew (hd.symm.trans hrb)
    omega
  · exact hb' r (h.mem.2 (.inl ⟨hr, hrb⟩)) hd hbroken

theorem Stored.fresh {b b' : AddressBlock} (h : Stored now control b n n') (hb : Accepts n b)
    (hb' : Fresh p self n b') : Fresh p self n' b' := by
  intro hself hacc
  obtain ⟨hacc0, hnew⟩ := h.accepts hb hacc
  obtain ⟨hclient, hknown⟩ := hb' hself hacc0
  refine ⟨hclient, fun q hq => ?_⟩
  by_cases heq : b'.address = b.address
  · rw [heq, h.lookup_self, Option.some_inj] at hq
    exact hq ▸ hnew heq
  · rw [h.lookup_ne heq] at hq
    exact hknown q hq

/-! ### Who hands information on -/

/-- The node itself serves the target. -/
def Serves (c : IPv4Address → Parameters) (node target : IPv4Address) : Prop :=
  target = node ∨ isClientAddress (c node) target = true

instance (node target : IPv4Address) : Decidable (Serves c node target) := by
  unfold Serves
  infer_instance

/-- The node serves the target, or remembers a newer number than `q`, or remembers `q` and has
learnt it from a packet before the `i`-th. -/
def Ahead (c : IPv4Address → Parameters) (s : Network) (learnt : IPv4Address → IPv4Address → ℕ)
    (node target : IPv4Address) (q i : ℕ) : Prop :=
  Serves c node target ∨ ∃ q', remembered s node target = some q' ∧
    (q < q' ∨ q = q' ∧ learnt node target < i)

/-- The stamp of what the node knows about the target: the nodes that serve it come last, then those
with the higher number, then those that have learnt it from an earlier packet. -/
def stamp (c : IPv4Address → Parameters) (s : Network) (learnt : IPv4Address → IPv4Address → ℕ)
    (target node : IPv4Address) : WithTop (ℕ ×ₗ ℕᵒᵈ) :=
  if Serves c node target then ⊤
  else (toLex ((remembered s node target).getD 0, OrderDual.toDual (learnt node target)) : ℕ ×ₗ ℕᵒᵈ)

/-- The order in the network; `learnt` says for every node and target from which packet the
information was learnt that the node remembers. -/
structure Inv (c : IPv4Address → Parameters) (s : Network)
    (learnt : IPv4Address → IPv4Address → ℕ) : Prop where
  sound : ∀ node, Sound (s.modules node)
  ahead : ∀ node, ∀ r ∈ (s.modules node).routes,
    Ahead c s learnt r.gateway r.destination r.sequenceNumber (learnt node r.destination)
  past : ∀ node target q, remembered s node target = some q →
    ¬Serves c node target ∧ learnt node target < s.sent.length
  sent : ∀ i p, s.sent[i]? = some p → ∀ b ∈ p.encapsulatedPacket.blocks,
    b.metric = 0 ∧ Ahead c s learnt p.srcAddr b.address b.sequenceNumber i

namespace Inv

variable {s : Network} {learnt : IPv4Address → IPv4Address → ℕ}

theorem known (h : Inv c s learnt) (node : IPv4Address) (r : Route)
    (hr : r ∈ (s.modules node).routes) :
    remembered s node r.destination = some r.sequenceNumber := (h.sound node).known r hr

theorem not_serves (h : Inv c s learnt) {node : IPv4Address} {r : Route}
    (hr : r ∈ (s.modules node).routes) : ¬Serves c node r.destination :=
  (h.past node _ _ (h.known node r hr)).1

/-- Along each hop the stamp grows. -/
theorem stamp_lt (h : Inv c s learnt) {target node gateway : IPv4Address}
    (hop : Hop s target node gateway) :
    stamp c s learnt target node < stamp c s learnt target gateway := by
  obtain ⟨r, hr, rfl, -, rfl⟩ := hop
  unfold stamp
  rw [if_neg (h.not_serves hr), h.known node r hr]
  by_cases hserves : Serves c r.gateway r.destination
  · rw [if_pos hserves]
    exact WithTop.coe_lt_top _
  rw [if_neg hserves, WithTop.coe_lt_coe, Prod.Lex.toLex_lt_toLex]
  obtain hs | ⟨q, hq, hlt⟩ := h.ahead node r hr
  · exact absurd hs hserves
  · rw [hq]
    obtain hlt | ⟨heq, hlt⟩ := hlt
    · exact .inl hlt
    · exact .inr ⟨heq, OrderDual.toDual_lt_toDual.2 hlt⟩

theorem loopFree (h : Inv c s learnt) : LoopFree s := by
  intro target path hpath
  have hchain : (path.map (stamp c s learnt target)).IsChain (· < ·) :=
    (isChain_map _).2 (hpath.imp fun _ _ hop => h.stamp_lt hop)
  -- the stamps grow along the path, so that no node comes back
  exact (isChain_iff_pairwise.1 hchain).nodup.of_map

end Inv

/-! ### Storing a block -/

variable {s s' : Network} {node target : IPv4Address}

/-- Where a node remembers something else than before it is newer. -/
theorem Ahead.mono {learnt learnt' : IPv4Address → IPv4Address → ℕ}
    {q i : ℕ} (h : Ahead c s learnt node target q i)
    (hkeep : ∀ q0, remembered s node target = some q0 →
      remembered s' node target = some q0 ∧ learnt' node target = learnt node target ∨
        ∃ q1, remembered s' node target = some q1 ∧ q0 < q1) :
    Ahead c s' learnt' node target q i := by
  obtain hserves | ⟨q0, hq0, hlt⟩ := h
  · exact .inl hserves
  · obtain ⟨hq, hl⟩ | ⟨q1, hq1, hlt1⟩ := hkeep q0 hq0
    · exact .inr ⟨q0, hq, by rwa [hl]⟩
    · exact .inr ⟨q1, hq1, .inl (by omega)⟩

/-- The module of a node is replaced. -/
def Network.setModule (s : Network) (self : IPv4Address) (n : XDYMO) : Network :=
  { s with modules := update s.modules self n }

@[simp] theorem setModule_self (s : Network) (self : IPv4Address) (n : XDYMO) :
    (s.setModule self n).modules self = n := update_self ..

theorem setModule_ne (s : Network) {self node : IPv4Address} (n : XDYMO) (h : node ≠ self) :
    (s.setModule self n).modules node = s.modules node := update_of_ne h ..

theorem remembered_setModule_ne (s : Network) {self node : IPv4Address} (n : XDYMO)
    (h : node ≠ self) (target : IPv4Address) :
    remembered (s.setModule self n) node target = remembered s node target := by
  rw [remembered, setModule_ne s n h, remembered]

@[simp] theorem remembered_setModule_self (s : Network) (self : IPv4Address) (n : XDYMO)
    (target : IPv4Address) : remembered (s.setModule self n) self target =
      n.targetAddressToSequenceNumber.lookup target := by
  rw [remembered, setModule_self]

namespace Inv

variable {s : Network} {learnt : IPv4Address → IPv4Address → ℕ}

/-- A fresh block of a packet of another node is stored. -/
theorem store (h : Inv c s learnt) {i : ℕ} (hst : Stored s.now control b (s.modules self) n)
    (hself : b.address ≠ self) (hmetric : b.metric = 0) (hacc : Accepts (s.modules self) b)
    (hfresh : Fresh (c self) self (s.modules self) b) (hi : i < s.sent.length)
    (hne : control.srcAddr ≠ self)
    (hahead : Ahead c s learnt control.srcAddr b.address b.sequenceNumber i) :
    Inv c (s.setModule self n)
      (update learnt self (update (learnt self) b.address i)) := by
  obtain ⟨hclient, hnew⟩ := hfresh hself hacc
  have hserves : ¬Serves c self b.address := by simp [Serves, hself, hclient]
  -- what the node remembers about the address becomes newer, all else stays
  have hkeep : ∀ node target q0, remembered s node target = some q0 →
      remembered (s.setModule self n) node target = some q0 ∧
          update learnt self (update (learnt self) b.address i) node target = learnt node target ∨
        ∃ q1, remembered (s.setModule self n) node target = some q1 ∧ q0 < q1 := by
    intro node target q0 hq0
    by_cases hnode : node = self
    · subst hnode
      by_cases ht : target = b.address
      · subst ht
        exact .inr ⟨_, by rw [remembered_setModule_self, hst.lookup_self], hnew q0 hq0⟩
      · refine .inl ⟨?_, by rw [update_self, update_of_ne ht]⟩
        rw [remembered_setModule_self, hst.lookup_ne ht]
        exact hq0
    · exact .inl ⟨by rwa [remembered_setModule_ne s n hnode], by rw [update_of_ne hnode]⟩
  have hmono : ∀ node target q j, Ahead c s learnt node target q j →
      Ahead c (s.setModule self n)
        (update learnt self (update (learnt self) b.address i))
        node target q j :=
    fun node target q j ha => ha.mono (hkeep node target)
  constructor
  · intro node
    by_cases hnode : node = self
    · subst hnode
      rw [setModule_self]
      exact hst.sound (h.sound node) hmetric
    · rw [setModule_ne s n hnode]
      exact h.sound node
  · intro node r hr
    by_cases hnode : node = self
    · subst hnode
      rw [setModule_self, hst.mem] at hr
      rw [update_self]
      obtain ⟨hr, hd⟩ | rfl := hr
      · rw [update_of_ne hd]
        exact hmono _ _ _ _ (h.ahead node r hr)
      · rw [show (routeOf s.now control b).destination = b.address from rfl, update_self]
        exact hmono _ _ _ _ hahead
    · rw [setModule_ne s n hnode] at hr
      rw [update_of_ne hnode]
      exact hmono _ _ _ _ (h.ahead node r hr)
  · intro node target q hq
    by_cases hnode : node = self
    · subst hnode
      rw [remembered_setModule_self] at hq
      rw [update_self]
      by_cases ht : target = b.address
      · subst ht
        rw [update_self]
        exact ⟨hserves, hi⟩
      · rw [hst.lookup_ne ht] at hq
        rw [update_of_ne ht]
        exact h.past node target q hq
    · rw [remembered_setModule_ne s n hnode] at hq
      rw [update_of_ne hnode]
      exact h.past node target q hq
  · intro j p hp b' hb'
    obtain ⟨hm, ha⟩ := h.sent j p hp b' hb'
    exact ⟨hm, hmono _ _ _ _ ha⟩

end Inv

/-- Along each hop of an unbroken route the numbers grow, by less than half of the 16-bit space. -/
def Spaced (s : Network) : Prop :=
  ∀ node, ∀ r ∈ (s.modules node).routes, r.broken = false → ∀ q,
    remembered s r.gateway r.destination = some q →
      r.sequenceNumber < q ∧ q < r.sequenceNumber + 2 ^ 15

variable {learnt : IPv4Address → IPv4Address → ℕ} {s : Network} {i : ℕ}

theorem Spaced.store (hs : Spaced s) (h : Inv c s learnt)
    (hst : Stored s.now control b (s.modules self) n) (hself : b.address ≠ self)
    (hacc : Accepts (s.modules self) b) (hfresh : Fresh (c self) self (s.modules self) b)
    (hne : control.srcAddr ≠ self)
    (hahead : Ahead c s learnt control.srcAddr b.address b.sequenceNumber i)
    (hapart : Apart s self control.srcAddr b) : Spaced (s.setModule self n) := by
  obtain ⟨-, hnew⟩ := hfresh hself hacc
  intro node r hr hbroken q hq
  by_cases hnode : node = self
  · subst hnode
    rw [setModule_self, hst.mem] at hr
    obtain ⟨hr, hd⟩ | rfl := hr
    · -- an old route to another destination
      by_cases hg : r.gateway = node
      · rw [hg, remembered_setModule_self, hst.lookup_ne hd] at hq
        exact hs node r hr hbroken q (by rw [hg]; exact hq)
      · rw [remembered_setModule_ne s n hg] at hq
        exact hs node r hr hbroken q hq
    · -- the new route, over a relay that remembers at least as much
      have hg : (routeOf s.now control b).gateway ≠ node := hne
      rw [remembered_setModule_ne s n hg] at hq
      obtain ⟨hqb, hlt⟩ := hapart.relay_ne q hq
      refine ⟨?_, hlt⟩
      obtain hserves | ⟨q', hq', hle⟩ := hahead
      · exact absurd hserves (h.past _ _ _ hq).1
      · cases hq.symm.trans hq'
        change b.sequenceNumber < q
        omega
  · rw [setModule_ne s n hnode] at hr
    by_cases hg : r.gateway = self
    · by_cases hd : r.destination = b.address
      · -- a route over the node, which knows more now
        rw [hg, remembered_setModule_self, hd, hst.lookup_self, Option.some_inj] at hq
        refine ⟨?_, hq ▸ hapart.upstream node r hr hd hbroken hg⟩
        obtain hserves | ⟨q', hq', hle⟩ := h.ahead node r hr
        · exact absurd hserves (by
            rw [hg, hd]
            simp [Serves, hself, (hfresh hself hacc).1])
        · rw [hg, hd] at hq'
          have := hnew q' hq'
          omega
      · rw [hg, remembered_setModule_self, hst.lookup_ne hd] at hq
        exact hs node r hr hbroken q (by rw [hg]; exact hq)
    · rw [remembered_setModule_ne s n hg] at hq
      exact hs node r hr hbroken q hq

/-! ### The blocks of a message -/

/-- The module works through the blocks: it stores some of them and passes over those that are about
its own node or not newer than what it remembers. -/
inductive Processed (p : Parameters) (self : IPv4Address) (now : ℤ) (control : IPv4ControlInfo) :
    XDYMO → List AddressBlock → XDYMO → Prop
  | nil (n : XDYMO) : Processed p self now control n [] n
  | skip {n n' : XDYMO} {b : AddressBlock} {bs : List AddressBlock} :
      (b.address = self ∨ ∃ q, n.targetAddressToSequenceNumber.lookup b.address = some q ∧
        b.sequenceNumber ≤ q) →
      Processed p self now control n bs n' → Processed p self now control n (b :: bs) n'
  | store {n n₁ n' : XDYMO} {b : AddressBlock} {bs : List AddressBlock} :
      b.address ≠ self → Accepts n b → Fresh p self n b → Stored now control b n n₁ →
      Processed p self now control n₁ bs n' → Processed p self now control n (b :: bs) n'

theorem processed_of_foldlM {bs : List AddressBlock} (hn : Sound n)
    (hmetric : ∀ b ∈ bs, b.metric = 0) (hfresh : ∀ b ∈ bs, Fresh p self n b)
    (h : bs.foldlM (fun n b => n.updateRoutes p self now control b) n = .ok n') :
    Processed p self now control n bs n' := by
  induction bs generalizing n with
  | nil =>
    cases h
    exact .nil _
  | cons b bs ih =>
    rw [foldlM_cons] at h
    obtain ⟨n1, h1, h2⟩ := bind_eq_ok.1 h
    rw [forall_mem_cons] at hmetric hfresh
    obtain ⟨rfl, hskip⟩ | ⟨hself, himp, hst⟩ := updateRoutes_cases hn.oneEach h1
    · refine .skip ?_ (ih hn hmetric.2 hfresh.2 h2)
      refine hskip.imp_right ?_
      rintro ⟨r, hr, hd, hoff⟩
      -- the route is not improved: it is as new as the block
      refine ⟨r.sequenceNumber, hd ▸ hn.known r hr, ?_⟩
      simp only [offersImprovement, or_eq_false_iff, decide_eq_false_iff_not] at hoff
      omega
    · have hacc := hn.accepts hmetric.1 himp
      refine .store hself hacc hfresh.1 hst (ih (hst.sound hn hmetric.1) hmetric.2 ?_ h2)
      exact fun b' hb' => hst.fresh hacc (hfresh.2 b' hb')

namespace Processed

variable {p : Parameters} {self : IPv4Address} {now : ℤ} {control : IPv4ControlInfo}
  {n n' : XDYMO} {bs : List AddressBlock}

variable (h : Processed p self now control n bs n')
include h

/-- What is remembered only grows. -/
theorem grows {target : IPv4Address} {q : ℕ}
    (hq : n.targetAddressToSequenceNumber.lookup target = some q) :
    ∃ q', n'.targetAddressToSequenceNumber.lookup target = some q' ∧ q ≤ q' := by
  induction h generalizing q with
  | nil => exact ⟨q, hq, le_rfl⟩
  | skip _ _ ih => exact ih hq
  | @store n n1 n' b bs hself hacc hfresh hst _ ih =>
    by_cases ht : target = b.address
    · subst ht
      obtain ⟨q', hq', hle⟩ := ih hst.lookup_self
      have := (hfresh hself hacc).2 q hq
      exact ⟨q', hq', by omega⟩
    · exact ih (by rwa [hst.lookup_ne ht])

/-- Whatever the blocks say is remembered then, or something newer. -/
theorem covers (hb : b ∈ bs) :
    b.address = self ∨ ∃ q, n'.targetAddressToSequenceNumber.lookup b.address = some q ∧
      b.sequenceNumber ≤ q := by
  induction h with
  | nil => simp at hb
  | skip hskip hrest ih =>
    obtain rfl | hb := mem_cons.1 hb
    · refine hskip.imp_right ?_
      rintro ⟨q, hq, hle⟩
      obtain ⟨q', hq', hle'⟩ := hrest.grows hq
      exact ⟨q', hq', hle.trans hle'⟩
    · exact ih hb
  | store _ _ _ hst hrest ih =>
    obtain rfl | hb := mem_cons.1 hb
    · exact .inr (hrest.grows hst.lookup_self)
    · exact ih hb

/-- What is remembered was remembered before, or comes from a block that was accepted. -/
theorem origin {target : IPv4Address} {q : ℕ}
    (hq : n'.targetAddressToSequenceNumber.lookup target = some q) :
    n.targetAddressToSequenceNumber.lookup target = some q ∨
      ∃ b ∈ bs, b.address = target ∧ b.address ≠ self ∧ Accepts n b ∧ b.sequenceNumber = q := by
  induction h with
  | nil => exact .inl hq
  | skip _ _ ih =>
    refine (ih hq).imp_right ?_
    rintro ⟨b, hb, hrest⟩
    exact ⟨b, mem_cons_of_mem _ hb, hrest⟩
  | @store n n1 n' b bs hself hacc _ hst _ ih =>
    obtain hq | ⟨b', hb', ht, hself', hacc', hseq⟩ := ih hq
    · by_cases ht : target = b.address
      · subst ht
        rw [hst.lookup_self, Option.some_inj] at hq
        exact .inr ⟨b, mem_cons_self, rfl, hself, hacc, hq⟩
      · rw [hst.lookup_ne ht] at hq
        exact .inl hq
    · exact .inr ⟨b', mem_cons_of_mem _ hb', ht, hself', (hst.accepts hacc hacc').1, hseq⟩

end Processed

@[simp] theorem setModule_setModule (s : Network) (self : IPv4Address) (n n' : XDYMO) :
    (s.setModule self n).setModule self n' = s.setModule self n' := by
  simp [Network.setModule]

theorem setModule_eq_self (s : Network) (self : IPv4Address) :
    s.setModule self (s.modules self) = s := by
  simp [Network.setModule]

/-- The distances to other nodes are not changed by what a node stores. -/
theorem Apart.setModule {self relay : IPv4Address} {b b' : AddressBlock}
    (h : Apart s self relay b') (hne : relay ≠ self)
    (hcontrol : control.srcAddr ≠ self) (hst : Stored s.now control b (s.modules self) n) :
    Apart (s.setModule self n) self relay b' := by
  refine ⟨fun q hq => ?_, fun other r hr hd hbroken hg => ?_⟩
  · rw [remembered_setModule_ne s n hne] at hq
    exact h.relay_ne q hq
  · by_cases hother : other = self
    · subst hother
      rw [setModule_self, hst.mem] at hr
      obtain ⟨hr, -⟩ | rfl := hr
      · exact h.upstream other r hr hd hbroken hg
      · exact absurd hg hcontrol
    · rw [setModule_ne s n hother] at hr
      exact h.upstream other r hr hd hbroken hg

/-- A message of another node is worked through. -/
theorem Inv.process (h : Inv c s learnt) {bs : List AddressBlock} (hn : s.modules self = n)
    (hnow : s.now = now) (hne : control.srcAddr ≠ self) (hi : i < s.sent.length)
    (hbs : ∀ b ∈ bs, b.metric = 0 ∧ Ahead c s learnt control.srcAddr b.address b.sequenceNumber i)
    (hproc : Processed (c self) self now control n bs n') :
    ∃ learnt', Inv c (s.setModule self n') learnt' ∧ (Spaced s →
      (∀ b ∈ bs, b.address ≠ self → Accepts n b → Apart s self control.srcAddr b) →
        Spaced (s.setModule self n')) := by
  induction hproc generalizing s learnt with
  | nil n =>
    subst hn
    rw [setModule_eq_self]
    exact ⟨learnt, h, fun hs _ => hs⟩
  | skip _ _ ih =>
    rw [forall_mem_cons] at hbs
    obtain ⟨learnt', hinv, hspaced⟩ := ih h hn hnow hi hbs.2
    refine ⟨learnt', hinv, fun hs hapart => hspaced hs ?_⟩
    exact fun b hb => hapart b (mem_cons_of_mem _ hb)
  | @store n n1 n' b bs hself hacc hfresh hst _ ih =>
    subst hn hnow
    rw [forall_mem_cons] at hbs
    have hinv1 := h.store hst hself hbs.1.1 hacc hfresh hi hne hbs.1.2
    have hrelay : ∀ target q, remembered s control.srcAddr target = some q →
        remembered (s.setModule self n1) control.srcAddr target = some q := by
      intro target q hq
      rwa [remembered_setModule_ne s n1 hne]
    obtain ⟨learnt', hinv, hspaced⟩ := ih hinv1 (setModule_self s self n1) rfl hi fun b' hb' => by
      refine ⟨(hbs.2 b' hb').1, (hbs.2 b' hb').2.mono fun q0 hq0 => .inl ⟨hrelay _ _ hq0, ?_⟩⟩
      rw [update_of_ne hne]
    rw [setModule_setModule] at hinv hspaced
    refine ⟨learnt', hinv, fun hs hapart => ?_⟩
    refine hspaced (hs.store h hst hself hacc hfresh hne hbs.1.2
      (hapart b mem_cons_self hself hacc)) fun b' hb' hself' hacc' => ?_
    exact (hapart b' (mem_cons_of_mem _ hb') hself' (hst.accepts hacc hacc').1).setModule
      hne hne hst

/-! ### Packets that are sent -/

/-- The module remembers the same; its routes are as before, apart from those that are gone, broken
or used. -/
structure Weakens (n n' : XDYMO) : Prop where
  known : n'.targetAddressToSequenceNumber = n.targetAddressToSequenceNumber
  oneEach : OneEach n → OneEach n'
  routes : ∀ r' ∈ n'.routes, ∃ r ∈ n.routes, r'.destination = r.destination ∧
    r'.gateway = r.gateway ∧ r'.metric = r.metric ∧ r'.sequenceNumber = r.sequenceNumber ∧
    (r'.broken = false → r.broken = false)

/-- The node says nothing that it does not serve or remember. -/
def Relays (c : IPv4Address → Parameters) (self : IPv4Address) (n : XDYMO)
    (out : List UDPPacket) : Prop :=
  ∀ u ∈ out, u.srcAddr = self ∧ ∀ b ∈ u.encapsulatedPacket.blocks, b.metric = 0 ∧
    (Serves c self b.address ∨ ∃ q, n.targetAddressToSequenceNumber.lookup b.address = some q ∧
      b.sequenceNumber ≤ q)

theorem Weakens.refl (n : XDYMO) : Weakens n n :=
  ⟨rfl, id, fun r hr => ⟨r, hr, rfl, rfl, rfl, rfl, id⟩⟩

theorem Weakens.trans {n n1 n2 : XDYMO} (h : Weakens n n1) (h' : Weakens n1 n2) : Weakens n n2 := by
  refine ⟨h'.known.trans h.known, fun hn => h'.oneEach (h.oneEach hn), fun r2 hr2 => ?_⟩
  obtain ⟨r1, hr1, hd1, hg1, hm1, hq1, hb1⟩ := h'.routes r2 hr2
  obtain ⟨r, hr, hd, hg, hm, hq, hb⟩ := h.routes r1 hr1
  exact ⟨r, hr, hd1.trans hd, hg1.trans hg, hm1.trans hm, hq1.trans hq, fun hbr => hb (hb1 hbr)⟩

variable {out : List UDPPacket}

theorem remembered_set (hw : Weakens (s.modules self) n) (node target : IPv4Address) :
    remembered (s.set self (n, out)) node target = remembered s node target := by
  unfold remembered Network.set
  by_cases hnode : node = self
  · subst hnode
    simp only [update_self]
    rw [hw.known]
  · simp only [update_of_ne hnode]

theorem Weakens.sound (h : Weakens n n') (hn : Sound n) : Sound n' := by
  refine ⟨h.oneEach hn.oneEach, fun r' hr' => ?_, fun r' hr' => ?_⟩
  · obtain ⟨r, hr, hd, -, -, hseq, -⟩ := h.routes r' hr'
    rw [h.known, hd, hseq]
    exact hn.known r hr
  · obtain ⟨r, hr, -, -, hm, -⟩ := h.routes r' hr'
    rw [hm]
    exact hn.metric r hr

/-- Every route after the change stems from a route before it. -/
theorem route_set (hw : Weakens (s.modules self) n) {node : IPv4Address} {r' : Route}
    (hr' : r' ∈ ((s.set self (n, out)).modules node).routes) :
    ∃ r ∈ (s.modules node).routes, r'.destination = r.destination ∧
      r'.gateway = r.gateway ∧ r'.metric = r.metric ∧ r'.sequenceNumber = r.sequenceNumber ∧
      (r'.broken = false → r.broken = false) := by
  unfold Network.set at hr'
  by_cases hnode : node = self
  · subst hnode
    simp only [update_self] at hr'
    exact hw.routes r' hr'
  · simp only [update_of_ne hnode] at hr'
    exact ⟨r', hr', rfl, rfl, rfl, rfl, id⟩

theorem Spaced.set (hs : Spaced s)
    (hw : Weakens (s.modules self) n) : Spaced (s.set self (n, out)) := by
  intro node r' hr' hbroken q hq
  obtain ⟨r, hr, hd, hg, -, hseq, hb⟩ := route_set hw hr'
  rw [remembered_set hw, hg, hd] at hq
  rw [hseq]
  exact hs node r hr (hb hbroken) q hq

theorem Inv.set (h : Inv c s learnt) (hw : Weakens (s.modules self) n)
    (hout : Relays c self n out) : Inv c (s.set self (n, out)) learnt := by
  have hmono : ∀ node target q j, Ahead c s learnt node target q j →
      Ahead c (s.set self (n, out)) learnt node target q j := by
    intro node target q j ha
    exact ha.mono fun q0 hq0 => .inl ⟨by rwa [remembered_set hw], rfl⟩
  have hsent : (s.set self (n, out)).sent = s.sent ++ out := rfl
  constructor
  · intro node
    unfold Network.set
    by_cases hnode : node = self
    · subst hnode
      simp only [update_self]
      exact hw.sound (h.sound node)
    · simp only [update_of_ne hnode]
      exact h.sound node
  · intro node r' hr'
    obtain ⟨r, hr, hd, hg, -, hseq, -⟩ := route_set hw hr'
    rw [hg, hd, hseq]
    exact hmono _ _ _ _ (h.ahead node r hr)
  · intro node target q hq
    rw [remembered_set hw] at hq
    obtain ⟨hserves, hlt⟩ := h.past node target q hq
    rw [hsent, length_append]
    exact ⟨hserves, by omega⟩
  · intro j p hp b hb
    rw [hsent, List.getElem?_append] at hp
    split_ifs at hp with hj
    · obtain ⟨hm, ha⟩ := h.sent j p hp b hb
      exact ⟨hm, hmono _ _ _ _ ha⟩
    · -- what is sent now is remembered, and was learnt from a packet before
      obtain ⟨rfl, hblocks⟩ := hout p (mem_of_getElem? hp)
      obtain ⟨hm, hserves | ⟨q, hq, hle⟩⟩ := hblocks b hb
      · exact ⟨hm, .inl hserves⟩
      · rw [hw.known] at hq
        refine ⟨hm, hmono _ _ _ _ (.inr ⟨q, hq, ?_⟩)⟩
        have := (h.past _ _ q hq).2
        omega

/-! ### What the handlers do -/

theorem weakens_of_routes_eq
    (hknown : n'.targetAddressToSequenceNumber = n.targetAddressToSequenceNumber)
    (hroutes : n'.routes = n.routes) : Weakens n n' :=
  ⟨hknown, fun hn => by rwa [OneEach, hroutes],
    fun r hr => ⟨r, hroutes ▸ hr, rfl, rfl, rfl, rfl, id⟩⟩

theorem weakens_incrementSequenceNumber (n : XDYMO) : Weakens n n.incrementSequenceNumber :=
  weakens_of_routes_eq rfl rfl

theorem weakens_filter (n : XDYMO) (keep : Route → Bool) :
    Weakens n { n with routes := n.routes.filter keep } := by
  refine ⟨rfl, fun hn => hn.sublist (filter_sublist.map _), fun r hr => ?_⟩
  exact ⟨r, (mem_filter.1 hr).1, rfl, rfl, rfl, rfl, id⟩

theorem weakens_map (n : XDYMO) {f : Route → Route}
    (hf : ∀ r, (f r).destination = r.destination ∧ (f r).gateway = r.gateway ∧
      (f r).metric = r.metric ∧ (f r).sequenceNumber = r.sequenceNumber ∧
      ((f r).broken = false → r.broken = false)) :
    Weakens n { n with routes := n.routes.map f } := by
  refine ⟨rfl, fun hn => ?_, fun r' hr' => ?_⟩
  · have hcomp : Route.destination ∘ f = Route.destination := by
      funext r
      exact (hf r).1
    rw [OneEach, map_map, hcomp]
    exact hn
  · obtain ⟨r, hr, rfl⟩ := mem_map.1 hr'
    exact ⟨r, hr, hf r⟩

theorem weakens_markBroken (n : XDYMO) (marked : Route → Bool) :
    Weakens n (n.markBroken marked).1 := by
  refine weakens_map n fun r => ?_
  split_ifs <;> simp

theorem weakens_scheduleExpungeTimer
    (h : n.scheduleExpungeTimer p now = .ok n') : Weakens n n' := by
  obtain ⟨t, rfl⟩ := scheduleExpungeTimer_ok h
  exact weakens_of_routes_eq rfl rfl

theorem weakens_processExpungeTimer (h : n.processExpungeTimer p now = .ok n') : Weakens n n' := by
  have htimer : Weakens n { n with expungeTimer := none } := weakens_of_routes_eq rfl rfl
  exact (htimer.trans (weakens_filter _ _)).trans (weakens_scheduleExpungeTimer h)

theorem weakens_ensureRouteForDatagram (n : XDYMO) (p : Parameters) (now : ℤ)
    (foreign : ForeignRoutes) (destination : IPv4Address) :
    Weakens n (n.ensureRouteForDatagram p now foreign destination) := by
  unfold ensureRouteForDatagram
  split_ifs with hlocal
  · exact .refl n
  split
  · split_ifs
    · refine weakens_map n fun r => ?_
      split_ifs <;> simp
    · exact .refl n
  · exact .refl n

/-- The packets have no blocks that their receivers use, and come from the node. -/
def Silent (self : IPv4Address) (out : List UDPPacket) : Prop :=
  ∀ u ∈ out, u.srcAddr = self ∧ u.encapsulatedPacket.blocks = []

theorem silent_nil (self : IPv4Address) : Silent self [] := by
  intro u hu
  cases hu

theorem silent_sendRERR (self : IPv4Address) (n : XDYMO) (hopLimit : ℤ)
    (addresses : List IPv4Address) :
    Silent self [sendRERR self (n.createRERR hopLimit addresses)] := by
  intro u hu
  cases mem_singleton.1 hu
  exact ⟨rfl, rfl⟩

theorem linkBreak_spec (n : XDYMO) (p : Parameters) (self : IPv4Address) (now : ℤ)
    (foreign : ForeignRoutes) (destination : IPv4Address) :
    Weakens n (n.linkBreak p self now foreign destination).1 ∧
      Silent self (n.linkBreak p self now foreign destination).2 := by
  unfold linkBreak
  split
  · unfold sendRERRForBrokenLink
    dsimp only
    split_ifs
    · exact ⟨weakens_markBroken n _, silent_nil self⟩
    · exact ⟨weakens_markBroken n _, silent_sendRERR self _ _ _⟩
  · exact ⟨.refl n, silent_nil self⟩

theorem weakens_foldl_markBroken (control : IPv4ControlInfo) (bs : List AddressBlock)
    (acc : XDYMO × List IPv4Address) :
    Weakens acc.1 (bs.foldl (fun (acc : XDYMO × List IPv4Address) b =>
      let (n, addresses) := acc.1.markBroken (isUnreachable control b)
      (n, acc.2 ++ addresses)) acc).1 := by
  induction bs generalizing acc with
  | nil => exact .refl _
  | cons b bs ih =>
    have hmark := weakens_markBroken acc.1 (isUnreachable control b)
    exact hmark.trans (ih ((acc.1.markBroken (isUnreachable control b)).1,
      acc.2 ++ (acc.1.markBroken (isUnreachable control b)).2))

theorem processRERR_spec (n : XDYMO) (self : IPv4Address) (control : IPv4ControlInfo)
    (hopLimit : ℤ) (unreachableNode : List AddressBlock) :
    Weakens n (n.processRERR self control hopLimit unreachableNode).1 ∧
      Silent self (n.processRERR self control hopLimit unreachableNode).2 := by
  have hfold := weakens_foldl_markBroken control unreachableNode (n, [])
  unfold processRERR
  by_cases hdrop : hopLimit = 0 ∨ unreachableNode = []
  · rw [if_pos hdrop]
    exact ⟨.refl n, silent_nil self⟩
  rw [if_neg hdrop]
  dsimp only
  split_ifs
  · exact ⟨hfold, silent_nil self⟩
  · exact ⟨hfold, silent_sendRERR self _ _ _⟩

/-- The node says what the blocks said, or something about what it serves. -/
def Announces (p : Parameters) (self : IPv4Address) (n : XDYMO) (bs : List AddressBlock)
    (out : List UDPPacket) : Prop :=
  ∀ u ∈ out, u.srcAddr = self ∧ ∀ b ∈ u.encapsulatedPacket.blocks, b ∈ bs ∨
    (b.address = self ∨ isClientAddress p b.address = true) ∧
      (b.metric = 0 ∨ ∃ r ∈ n.routes, b.metric = r.metric)

theorem Silent.announces (h : Silent self out)
    (p : Parameters) (n : XDYMO) (bs : List AddressBlock) : Announces p self n bs out := by
  intro u hu
  refine ⟨(h u hu).1, fun b hb => ?_⟩
  rw [(h u hu).2] at hb
  cases hb

/-- A message that is passed on has its blocks, and perhaps one about the node itself. -/
theorem mem_addedNode_forwarded {rteMsg : RteMsg} (hb : b ∈ (n.forwarded p self rteMsg).addedNode) :
    b ∈ rteMsg.addedNode ∨ b.address = self ∧ b.metric = 0 := by
  unfold forwarded at hb
  split_ifs at hb
  · obtain hb | hb := mem_append.1 hb
    · exact .inl hb
    · cases mem_singleton.1 hb
      exact .inr ⟨rfl, rfl⟩
  · exact .inl hb

theorem forwarded_nodes (n : XDYMO) (p : Parameters) (self : IPv4Address) (rteMsg : RteMsg) :
    (n.forwarded p self rteMsg).originatorNode = rteMsg.originatorNode ∧
      (n.forwarded p self rteMsg).targetNode = rteMsg.targetNode := by
  unfold forwarded addSelfNode
  split_ifs <;> exact ⟨rfl, rfl⟩

variable {foreign : ForeignRoutes}

theorem findBestMatchingRoute_own {address : IPv4Address}
    {r : Route} (h : n.findBestMatchingRoute foreign address = some (.own r)) : r ∈ n.routes := by
  unfold findBestMatchingRoute at h
  split at h
  · cases h
  · obtain ⟨r', hr', heq⟩ := Option.map_eq_some_iff.1 h
    cases heq
    exact mem_of_find?_eq_some hr'

theorem createRREQ_spec (n : XDYMO) (p : Parameters) (self target : IPv4Address) (retryCount : ℤ) :
    Weakens n (n.createRREQ p self target retryCount).1 ∧
      Announces p self n [] [sendRREQ self (n.createRREQ p self target retryCount).2] := by
  refine ⟨weakens_incrementSequenceNumber n, fun u hu => ?_⟩
  cases mem_singleton.1 hu
  refine ⟨rfl, fun b hb => ?_⟩
  cases mem_singleton.1 hb
  exact .inr ⟨.inl rfl, .inl rfl⟩

theorem processRREQ_spec {rreq : RteMsg}
    (h : n.processRREQ p self now foreign control rreq = .ok (n', out)) :
    ∃ n1, (usedBlocks p control.timeToLive (.rreq rreq)).foldlM
        (fun n b => n.updateRoutes p self now control b) n = .ok n1 ∧ Weakens n1 n' ∧
      Announces p self n1 (usedBlocks p control.timeToLive (.rreq rreq)) out := by
  unfold processRREQ at h
  unfold usedBlocks
  dsimp only
  by_cases hperm : permissibleRteMsg p control.timeToLive rreq rreq.originatorNode = true
  swap
  · rw [if_neg hperm] at h ⊢
    cases h
    exact ⟨_, rfl, .refl _, (silent_nil self).announces p _ []⟩
  rw [if_pos hperm] at h ⊢
  obtain ⟨⟨n1, m⟩, h1, h2⟩ := bind_eq_ok.1 h
  unfold processRteMsg at h1
  obtain ⟨n2, hfold, heq⟩ := bind_eq_ok.1 h1
  cases heq
  refine ⟨n1, hfold, ?_⟩
  dsimp only at h2
  by_cases hclient : isClientAddress p rreq.targetNode.address = true
  · -- the route to the originator gives the metric of the reply
    rw [if_pos hclient] at h2
    obtain ⟨⟨n2, rrep⟩, h3, h4⟩ := bind_eq_ok.1 h2
    cases h4
    unfold createRREP at h3
    split at h3
    · cases h3
    · cases h3
    · rename_i r hr
      cases h3
      split_ifs at hr with hmulti
      refine ⟨weakens_incrementSequenceNumber n1, fun u hu => ?_⟩
      cases mem_singleton.1 hu
      refine ⟨rfl, fun b hb => ?_⟩
      cases mem_singleton.1 hb
      exact .inr ⟨.inr hclient, .inr ⟨r, findBestMatchingRoute_own hr, rfl⟩⟩
  · rw [if_neg hclient] at h2
    cases h2
    refine ⟨.refl _, fun u hu => ?_⟩
    cases mem_singleton.1 hu
    refine ⟨rfl, fun b hb => ?_⟩
    obtain rfl | hb := mem_cons.1 hb
    · exact .inl (by rw [(forwarded_nodes ..).1]; exact mem_cons_self)
    · obtain hb | ⟨hself, hm⟩ := mem_addedNode_forwarded hb
      · exact .inl (mem_cons_of_mem _ hb)
      · exact .inr ⟨.inl hself, .inl hm⟩

theorem processRREP_spec {rrep : RteMsg}
    (h : n.processRREP p self now foreign control rrep = .ok (n', out)) :
    ∃ n1, (usedBlocks p control.timeToLive (.rrep rrep)).foldlM
        (fun n b => n.updateRoutes p self now control b) n = .ok n1 ∧ Weakens n1 n' ∧
      Announces p self n1 (usedBlocks p control.timeToLive (.rrep rrep)) out := by
  unfold processRREP at h
  unfold usedBlocks
  dsimp only
  by_cases hperm : permissibleRteMsg p control.timeToLive rrep rrep.targetNode = true
  swap
  · rw [if_neg hperm] at h ⊢
    cases h
    exact ⟨_, rfl, .refl _, (silent_nil self).announces p _ []⟩
  rw [if_pos hperm] at h ⊢
  obtain ⟨⟨n1, m⟩, h1, h2⟩ := bind_eq_ok.1 h
  unfold processRteMsg at h1
  obtain ⟨n2, hfold, heq⟩ := bind_eq_ok.1 h1
  cases heq
  refine ⟨n1, hfold, ?_⟩
  have hannounces : ∀ route, Announces p self n1 (DYMOPacket.rrep rrep).blocks [sendRREP self
      (n1.forwarded p self
        { rrep with hopLimit := rrep.hopLimit - 1, hopCount := rrep.hopCount + 1 }) route] := by
    intro route u hu
    cases mem_singleton.1 hu
    refine ⟨rfl, fun b hb => ?_⟩
    obtain rfl | hb := mem_cons.1 hb
    · exact .inl (by rw [(forwarded_nodes ..).2]; exact mem_cons_self)
    · obtain hb | ⟨hself, hm⟩ := mem_addedNode_forwarded hb
      · exact .inl (mem_cons_of_mem _ hb)
      · exact .inr ⟨.inl hself, .inl hm⟩
  dsimp only at h2
  split_ifs at h2
  · cases h2
    exact ⟨.refl _, (silent_nil self).announces p n' _⟩
  · cases h2
    exact ⟨.refl _, hannounces none⟩
  · split at h2
    · cases h2
      exact ⟨.refl _, hannounces _⟩
    · cases h2
      exact ⟨.refl _, (silent_nil self).announces p n' _⟩

variable {packet : DYMOPacket}

theorem processDYMOPacket_spec
    (h : n.processDYMOPacket p self now foreign control packet = .ok (n', out)) :
    ∃ n1, (usedBlocks p control.timeToLive packet).foldlM
        (fun n b => n.updateRoutes p self now control b) n = .ok n1 ∧ Weakens n1 n' ∧
      Announces p self n1 (usedBlocks p control.timeToLive packet) out := by
  cases packet with
  | rreq rreq => exact processRREQ_spec h
  | rrep rrep => exact processRREP_spec h
  | rerr hopLimit unreachableNode =>
    obtain ⟨hweak, hsilent⟩ := processRERR_spec n self control hopLimit unreachableNode
    obtain heq := Except.ok.inj h
    rw [heq] at hweak hsilent
    exact ⟨n, rfl, hweak, hsilent.announces p n []⟩

theorem mem_blocks_of_mem_usedBlocks {timeToLive : ℕ} (hb : b ∈ usedBlocks p timeToLive packet) :
    b ∈ packet.blocks := by
  unfold usedBlocks at hb
  split at hb
  · split_ifs at hb
    · exact hb
    · cases hb
  · split_ifs at hb
    · exact hb
    · cases hb
  · cases hb

/-! ### Steps -/

/-- A step changes only the time, or the routes of one node weaken, or a node works through a packet
that reaches it. -/
theorem step_cases {e : Event} (h : Network.step c s e = .ok s') :
    s'.modules = s.modules ∧ s'.sent = s.sent ∨
    (∃ self n' out, Weakens (s.modules self) n' ∧
      Announces (c self) self (s.modules self) [] out ∧ s' = s.set self (n', out)) ∨
    ∃ self foreign packet interfaceId timeToLive p n1 n' out,
      e = .receive self foreign packet interfaceId timeToLive ∧ s.sent[packet]? = some p ∧
      Network.arrives c self p = true ∧
      (usedBlocks (c self) timeToLive p.encapsulatedPacket).foldlM
        (fun n b => n.updateRoutes (c self) self s.now ⟨p.srcAddr, interfaceId, timeToLive⟩ b)
        (s.modules self) = .ok n1 ∧ Weakens n1 n' ∧
      Announces (c self) self n1 (usedBlocks (c self) timeToLive p.encapsulatedPacket) out ∧
      s' = s.set self (n', out) := by
  cases e with
  | elapse time =>
    cases h
    exact .inl ⟨rfl, rfl⟩
  | discover self target retryCount =>
    cases h
    obtain ⟨hweak, hann⟩ := createRREQ_spec (s.modules self) (c self) self target retryCount
    exact .inr (.inl ⟨self, _, _, hweak, hann, rfl⟩)
  | receive self foreign packet interfaceId timeToLive =>
    unfold Network.step at h
    dsimp only at h
    split at h
    · cases h
      exact .inl ⟨rfl, rfl⟩
    · rename_i p hp
      split_ifs at h with harr
      · obtain ⟨⟨n', out⟩, h1, h2⟩ := bind_eq_ok.1 h
        cases h2
        obtain ⟨n1, hfold, hweak, hann⟩ := processDYMOPacket_spec h1
        exact .inr (.inr ⟨self, foreign, packet, interfaceId, timeToLive, p, n1, n', out, rfl, hp,
          harr, hfold, hweak, hann, rfl⟩)
      · cases h
        exact .inl ⟨rfl, rfl⟩
  | linkBreak self foreign destination =>
    cases h
    obtain ⟨hweak, hsilent⟩ :=
      linkBreak_spec (s.modules self) (c self) self s.now foreign destination
    exact .inr (.inl ⟨self, _, _, hweak, hsilent.announces _ _ [], rfl⟩)
  | datagram self foreign destination =>
    cases h
    have hweak := weakens_ensureRouteForDatagram (s.modules self) (c self) s.now foreign destination
    exact .inr (.inl ⟨self, _, _, hweak, (silent_nil self).announces _ _ [], rfl⟩)
  | expungeTimer self =>
    unfold Network.step at h
    dsimp only at h
    split_ifs at h
    · obtain ⟨n', h1, h2⟩ := bind_eq_ok.1 h
      cases h2
      exact .inr (.inl ⟨self, _, _, weakens_processExpungeTimer h1,
        (silent_nil self).announces _ _ [], rfl⟩)
    · cases h
      exact .inl ⟨rfl, rfl⟩

theorem Announces.relays {bs : List AddressBlock}
    (h : Announces (c self) self n bs out) (hn : Sound n)
    (hweak : Weakens n n')
    (hbs : ∀ b ∈ bs, b.metric = 0 ∧ (b.address = self ∨
      ∃ q, n.targetAddressToSequenceNumber.lookup b.address = some q ∧ b.sequenceNumber ≤ q)) :
    Relays c self n' out := by
  intro u hu
  obtain ⟨hsrc, hblocks⟩ := h u hu
  refine ⟨hsrc, fun b hb => ?_⟩
  rw [hweak.known]
  obtain hb | ⟨hserves, hm⟩ := hblocks b hb
  · obtain ⟨hm, hself | hq⟩ := hbs b hb
    · exact ⟨hm, .inl (.inl hself)⟩
    · exact ⟨hm, .inr hq⟩
  · refine ⟨?_, .inl hserves⟩
    obtain hm | ⟨r, hr, hm⟩ := hm
    · exact hm
    · rw [hm, hn.metric r hr]

/-- What the nodes remember grows, by little if the blocks are near. -/
def Grows (s s' : Network) (near : Prop) : Prop :=
  ∀ node target q q', remembered s node target = some q → remembered s' node target = some q' →
    q ≤ q' ∧ (near → q' < q + 2 ^ 15)

/-- A step that stores only fresh blocks keeps the order. -/
theorem Inv.step {e : Event}
    (h : Inv c s learnt) (hfresh : StoresFresh c s e) (hstep : Network.step c s e = .ok s') :
    ∃ learnt', Inv c s' learnt' ∧ (Spaced s → StoresApart c s e → Spaced s') ∧
      Grows s s' (StoresApart c s e) := by
  have hsame : ∀ s' : Network, (∀ node target,
      remembered s' node target = remembered s node target) → Grows s s' (StoresApart c s e) := by
    intro s' heq node target q q' hq hq'
    rw [heq, hq, Option.some_inj] at hq'
    omega
  obtain ⟨hmod, hsent⟩ | ⟨self, n', out, hweak, hann, rfl⟩ | hrec := step_cases hstep
  · have heq : ∀ node target, remembered s' node target = remembered s node target := by
      intro node target
      rw [remembered, hmod, remembered]
    have hahead : ∀ node target q i, Ahead c s learnt node target q i →
        Ahead c s' learnt node target q i :=
      fun node target q i ha => ha.mono fun q0 hq0 => .inl ⟨by rwa [heq], rfl⟩
    refine ⟨learnt, ⟨fun node => hmod ▸ h.sound node, fun node r hr => ?_,
      fun node target q hq => ?_, fun i p hp b hb => ?_⟩,
      fun hs _ node r hr hbroken q hq => ?_, hsame s' heq⟩
    · exact hahead _ _ _ _ (h.ahead node r (hmod ▸ hr))
    · rw [hsent]
      exact h.past node target q (heq node target ▸ hq)
    · obtain ⟨hm, ha⟩ := h.sent i p (hsent ▸ hp) b hb
      exact ⟨hm, hahead _ _ _ _ ha⟩
    · exact hs node r (hmod ▸ hr) hbroken q (heq _ _ ▸ hq)
  · have hrelays := hann.relays (h.sound self) hweak fun b hb => by cases hb
    exact ⟨learnt, h.set hweak hrelays, fun hs _ => hs.set hweak, hsame _ (remembered_set hweak)⟩
  · obtain ⟨self, foreign, packet, interfaceId, timeToLive, p, n1, n', out, rfl, hp, harr, hfold,
      hweak, hann, rfl⟩ := hrec
    have hne : p.srcAddr ≠ self := by
      simp only [Network.arrives, and_eq_true, decide_eq_true_eq] at harr
      exact harr.1
    have hbs : ∀ b ∈ usedBlocks (c self) timeToLive p.encapsulatedPacket, b.metric = 0 ∧
        Ahead c s learnt p.srcAddr b.address b.sequenceNumber packet :=
      fun b hb => h.sent packet p hp b (mem_blocks_of_mem_usedBlocks hb)
    have hproc := processed_of_foldlM (h.sound self) (fun b hb => (hbs b hb).1)
      (fun b hb => hfresh p hp harr b hb) hfold
    obtain ⟨learnt', hinv, hspaced⟩ := h.process rfl rfl hne (List.getElem?_eq_some_iff.1 hp).1
      hbs hproc
    have hset : s.set self (n', out) = (s.setModule self n1).set self (n', out) := by
      simp [Network.set, Network.setModule]
    have hweak' : Weakens ((s.setModule self n1).modules self) n' := by
      rwa [setModule_self]
    have hrelays := hann.relays (by simpa using hinv.sound self) hweak fun b hb =>
      ⟨(hbs b hb).1, hproc.covers hb⟩
    rw [hset]
    refine ⟨learnt', hinv.set hweak' hrelays, fun hs hapart => ?_, ?_⟩
    · exact (hspaced hs fun b hb hself hacc => (hapart.2 p hp harr b hb hself hacc).1).set hweak'
    · intro node target q q' hq hq'
      rw [remembered_set hweak'] at hq'
      by_cases hnode : node = self
      · subst hnode
        rw [remembered_setModule_self] at hq'
        obtain ⟨q1, hq1, hle⟩ := hproc.grows hq
        cases hq1.symm.trans hq'
        refine ⟨hle, fun hapart => ?_⟩
        obtain hold | ⟨b, hb, rfl, hself, hacc, rfl⟩ := hproc.origin hq'
        · cases hq.symm.trans hold
          omega
        · exact (hapart.2 p hp harr b hb hself hacc).2 q hq
      · rw [remembered_setModule_ne s n1 hnode, hq, Option.some_inj] at hq'
        omega

/-! ### Runs -/

theorem inv_initial (sequenceNumber : IPv4Address → ℕ) :
    Inv c (Network.initial sequenceNumber) fun _ _ => 0 := by
  refine ⟨fun node => ⟨nodup_nil, ?_, ?_⟩, ?_, ?_, ?_⟩
  · intro r hr
    cases hr
  · intro r hr
    cases hr
  · intro node r hr
    cases hr
  · intro node target q hq
    cases hq
  · intro i p hp
    cases hp

theorem spaced_initial (sequenceNumber : IPv4Address → ℕ) :
    Spaced (Network.initial sequenceNumber) := by
  intro node r hr
  cases hr

variable {es : List Event}

theorem Inv.run (hrun : Run (Network.step c)
    (StoresFresh c) s es s') (h : ∃ learnt, Inv c s learnt) : ∃ learnt, Inv c s' learnt := by
  refine hrun.invariant (I := fun s => ∃ learnt, Inv c s learnt) ?_ h
  rintro s e s' ⟨learnt, h⟩ hfresh hstep
  obtain ⟨learnt', h', -⟩ := h.step hfresh hstep
  exact ⟨learnt', h'⟩

theorem Spaced.run (hrun : Run (Network.step c)
    (StoresApart c) s es s') (h : (∃ learnt, Inv c s learnt) ∧ Spaced s) :
    (∃ learnt, Inv c s' learnt) ∧ Spaced s' := by
  refine hrun.invariant (I := fun s => (∃ learnt, Inv c s learnt) ∧ Spaced s) ?_ h
  rintro s e s' ⟨⟨learnt, h⟩, hs⟩ hapart hstep
  obtain ⟨learnt', h', hspaced, -⟩ := h.step hapart.1 hstep
  exact ⟨⟨learnt', h'⟩, hspaced hs hapart⟩

/-- Numbers less than half of the 16-bit space apart are compared as they are. -/
theorem newer_eq {a b : ℕ} (h1 : a < b + 2 ^ 15) (h2 : b ≤ a + 2 ^ 15) :
    newer a b = decide (b < a) := by
  have h := Serial.lt_wrap (w := 16) (p := b) (q := a) (by decide) (by norm_num; omega)
    (by norm_num; omega)
  rw [newer, Serial.wrap_ofNat, Serial.wrap_ofNat, h, decide_eq_decide, Int.ofNat_lt]

theorem Spaced.strictlyImproving (hs : Spaced s) (h : Inv c s learnt) : StrictlyImproving s := by
  intro node r hr r' hr' hd hbroken _
  obtain ⟨hlt, hnear⟩ := hs node r hr hbroken r'.sequenceNumber (hd ▸ h.known r.gateway r' hr')
  left
  rw [newer_eq hnear (by omega)]
  exact decide_eq_true hlt

theorem Inv.remembered_of_knows (h : Inv c s learnt) {q : ℕ} (hq : Knows s node target q) :
    remembered s node target = some q := by
  obtain hq | ⟨r, hr, rfl, rfl⟩ := hq
  · exact hq
  · exact h.known node r hr

theorem Grows.keepsNewest {learnt learnt' : IPv4Address → IPv4Address → ℕ}
    {near : Prop} (hgrows : Grows s s' near) (h : Inv c s learnt) (h' : Inv c s' learnt')
    (hnear : near) : KeepsNewest s s' := by
  intro node target q q' hq hq'
  obtain ⟨hle, hlt⟩ :=
    hgrows node target q q' (h.remembered_of_knows hq) (h'.remembered_of_knows hq')
  have := hlt hnear
  rw [newer_eq (by omega) (by omega)]
  exact decide_eq_false (by omega)

/-- As long as the nodes only store what is fresh no routes lead in a circle; as long as they also
keep their distance the routes strictly improve from hop to hop and are never replaced by older
ones. -/
theorem loopFree_of_storesFresh (c : IPv4Address → Parameters) (sequenceNumber : IPv4Address → ℕ) :
    (∀ es s, Run (Network.step c) (StoresFresh c) (.initial sequenceNumber) es s → LoopFree s) ∧
    ∀ es s, Run (Network.step c) (StoresApart c) (.initial sequenceNumber) es s →
      LoopFree s ∧ StrictlyImproving s ∧
        ∀ e s', StoresApart c s e → Network.step c s e = .ok s' → KeepsNewest s s' := by
  have h₀ : ∃ learnt, Inv c (.initial sequenceNumber) learnt := ⟨_, inv_initial sequenceNumber⟩
  refine ⟨fun es s hrun => ?_, fun es s hrun => ?_⟩
  · obtain ⟨learnt, h⟩ := Inv.run hrun h₀
    exact h.loopFree
  · obtain ⟨⟨learnt, h⟩, hs⟩ := Spaced.run hrun ⟨h₀, spaced_initial sequenceNumber⟩
    refine ⟨h.loopFree, hs.strictlyImproving h, fun e s' hapart hstep => ?_⟩
    obtain ⟨learnt', h', -, hgrows⟩ := h.step hapart.1 hstep
    exact hgrows.keepsNewest h h' hapart

/-! ### Three nodes -/

def nodeA : IPv4Address := 0x0A000001
def nodeB : IPv4Address := 0x0A000002
def nodeC : IPv4Address := 0x0A000003

def hosts (self : IPv4Address) : Parameters := { isLocalAddress := fun a => a = self }

/-- Node B hears what node A says about itself. -/
def heard : List Event := [.discover nodeA 9 0, .receive nodeB (fun _ => none) 0 0 254]

theorem run_heard : ∃ s, Run (Network.step hosts) (StoresApart hosts) (.initial fun _ => 0)
    heard s ∧ Hop s nodeA nodeB nodeA := by
  refine ⟨_, .cons ⟨trivial, trivial⟩ rfl (.cons ?_ rfl (.nil _)), by decide +kernel⟩
  have hbs : ∀ b ∈ usedBlocks (hosts nodeB) 254
      (sendRREQ nodeA (createRREQ (hosts nodeA) nodeA ⟨0, ∅, [], none⟩ 9 0).2).encapsulatedPacket,
      b = ⟨nodeA, none, true, 0, true, 1⟩ := by decide +kernel
  -- before B hears of it nobody has any routes
  have hnone : ∀ other, ((Network.set (.initial fun _ => 0) nodeA
      (((⟨0, ∅, [], none⟩ : XDYMO).createRREQ (hosts nodeA) nodeA 9 0).1, [])).modules
        other).routes = [] := by
    intro other
    unfold Network.set
    dsimp only
    by_cases hother : other = nodeA
    · subst hother
      rw [update_self]
      rfl
    · rw [update_of_ne hother]
      rfl
  refine ⟨fun p hp _ b hb => ?_, fun p hp _ b hb => ?_⟩
  · cases hp
    obtain rfl := hbs b hb
    refine fun _ _ => ⟨by decide, fun q hq => ?_⟩
    cases hq
  · cases hp
    obtain rfl := hbs b hb
    refine fun _ _ => ⟨⟨fun q hq => ?_, fun other r hr => ?_⟩, fun q hq => ?_⟩
    · cases hq
    · have hr' := (congrArg (r ∈ ·) (hnone other)).mp hr
      cases hr'
    · cases hq

theorem loopFree_of_storesFresh_heard :
    ∃ s, Hop s nodeA nodeB nodeA ∧ LoopFree s ∧ StrictlyImproving s := by
  obtain ⟨s, hrun, hhop⟩ := run_heard
  obtain ⟨hfree, himp, -⟩ := (loopFree_of_storesFresh hosts fun _ => 0).2 heard s hrun
  exact ⟨s, hhop, hfree, himp⟩

/-- Node B loses its route to A and takes one from C, which has it from B. -/
def repair : List Event :=
  [.discover nodeA 9 0, .receive nodeB (fun _ => none) 0 0 254,
    .receive nodeC (fun _ => none) 1 0 254, .linkBreak nodeB (fun _ => none) nodeA,
    .receive nodeB (fun _ => none) 2 0 254]

/-- The routes of B and C to A lead in a circle, with the same number and the same metric. -/
def Circle (s : Network) : Prop :=
  Hop s nodeA nodeB nodeC ∧ Hop s nodeA nodeC nodeB ∧
    ∃ r ∈ (s.modules nodeB).routes, ∃ r' ∈ (s.modules r.gateway).routes,
      r'.destination = r.destination ∧ r.broken = false ∧ r'.broken = false ∧
        r.sequenceNumber = 1 ∧ r'.sequenceNumber = 1 ∧ r.metric = r'.metric

instance (s : Network) : Decidable (Circle s) := by
  unfold Circle
  infer_instance

theorem not_loopFree_repair : ∃ es s, Run (Network.step hosts) (fun _ _ => True)
    (.initial fun _ => 0) es s ∧ ¬LoopFree s ∧ ¬StrictlyImproving s := by
  obtain ⟨s, hrun, hs⟩ := exists_run_of_exec (f := fun s => decide (Circle s)) (t := true)
    (by decide +kernel : (exec (Network.step hosts) (fun _ _ => True) (.initial fun _ => 0)
      repair).map (fun s => decide (Circle s)) = some true)
  obtain ⟨hBC, hCB, r, hr, r', hr', hd, hbroken, hbroken', hq, hq', hm⟩ := of_decide_eq_true hs
  refine ⟨repair, s, hrun, fun hfree => ?_, fun himp => ?_⟩
  · have hnodup := hfree nodeA [nodeB, nodeC, nodeB] (by simp [hBC, hCB])
    exact absurd hnodup (by decide)
  · obtain hnewer | ⟨-, hlt⟩ := himp nodeB r hr r' hr' hd hbroken hbroken'
    · rw [hq, hq'] at hnewer
      exact absurd hnewer (by decide)
    · omega

end Routes

end Dymo

end Hiwis
