import Hiwis.Lib.Distance
import Hiwis.Rip.Uniqueness

/-!
# A network of RIP modules

Each node of a network runs a `RIPRouting` module.  A packet that a module has sent stays in flight
for good: it is delivered at any time, any number of times, or never, to any interface that is
attached to the link on which it goes out.  A multicast packet goes out on the interface that the
module has chosen, a unicast packet on any one, and arrives at a neighbour there.

* `Network.cost` : the least cost of a way from a node to a destination;
* `Network.sound_of_run` : no metric is below this cost, cut off at the infinite metric, and the next
  hop of a route that has been learnt is a neighbour on its interface.
-/

namespace Hiwis

open List Except

open IPv4Address RIPRouting

/-- The module has not been started yet. -/
structure RIPRouting.Idle (s : RIPRouting) : Prop where
  kernelOk : KernelOk s
  ripInterfaces : s.ripInterfaces = []
  ripRoutes : s.ripRoutes = []
  subscribed : s.subscribed = false

/-- A static network with nodes in `V` and links in `L`. -/
structure Network (V L : Type) where
  cfg : V → RIPConfig
  /-- The interfaces of a node. -/
  ift : V → List ℕ
  /-- The link that an interface is attached to. -/
  link : V → ℕ → Option L
  /-- The address of an interface. -/
  address : V → ℕ → IPv4Address
  view : V → AddressView
  /-- The module of a node, with its IPv4 routing table, before the start. -/
  node : V → RIPRouting
  idle : ∀ v, (node v).Idle

namespace Network

variable {V L : Type} (N : Network V L)

/-! ### Costs -/

/-- Two interfaces are attached to the same link. -/
def Linked (v : V) (ie : ℕ) (w : V) (ie' : ℕ) : Prop :=
  N.link v ie ≠ none ∧ N.link v ie = N.link w ie'

instance [DecidableEq L] (v : V) (ie : ℕ) (w : V) (ie' : ℕ) : Decidable (N.Linked v ie w ie') :=
  inferInstanceAs (Decidable (_ ∧ _))

/-- The interfaces of a node on which it runs RIP. -/
def ripIft (v : V) : List ℕ :=
  (N.ift v).filter fun ie => (N.cfg v).isMulticast ie && !(N.cfg v).isLoopback ie

/-- The metric of an interface: it is 1 unless it is configured. -/
def metric (v : V) (ie : ℕ) : ℤ :=
  if ie ∈ N.ripIft v then (((N.cfg v).interfaceElement ie).bind (·.metric)).getD 1 else 1

/-- The cost at which a node has an IPv4 route itself, when it imports the route at all. -/
def ownCost (v : V) (route : IPv4Route) : Option ℤ :=
  if isLoopbackInterfaceRoute (N.cfg v) route then none
  else
    match (N.node v).localInterface (N.cfg v) route with
    | some ie => some (N.metric v ie)
    | none => if isDefaultRoute route || !isMulticast route.dest then some 1 else none

/-- A node gets to a neighbour at the metric of its own interface. -/
def Edge (v w : V) (c : ℕ) : Prop := ∃ ie ie', N.Linked v ie w ie' ∧ (c : ℤ) = N.metric v ie

/-- A node has the destination itself. -/
def Origin (dest : IPv4Address × ℤ) (v : V) (c : ℕ) : Prop :=
  ∃ route ∈ (N.node v).rt.routes, routeKey route = dest ∧ N.ownCost v route = some (c : ℤ)

/-- The least cost of a way from a node to a destination. -/
noncomputable def cost (dest : IPv4Address × ℤ) (v : V) : ℕ∞ :=
  Distance.dist N.Edge (N.Origin dest) v

/-! ### The network as a machine -/

/-- A packet in flight. -/
structure Message (V : Type) where
  sender : V
  sent : SentPacket

/-- The modules of the nodes, and the packets in flight. -/
structure State (V : Type) where
  node : V → RIPRouting
  inFlight : List (Message V)

/-- What happens in a network. -/
inductive Action (V : Type)
  | start (v : V)
  | advance (time : ℕ)
  /-- The update timer of a node, or the one for triggered updates, expires. -/
  | update (v : V) (triggered : Bool)
  /-- The packet with the index `i` goes out on an interface of its sender, and arrives at the
  interface `ie` of the node `v`. -/
  | deliver (i out : ℕ) (v : V) (ie : ℕ)

/-- No module has been started. -/
def initial : State V := ⟨N.node, []⟩

/-- A module takes an action. -/
def act [DecidableEq V] (σ : State V) (v : V) (a : RIPAction) : Except RIPFault (State V) := do
  let (s, sent) ← (σ.node v).handle (N.cfg v) a
  pure ⟨Function.update σ.node v s, σ.inFlight ++ sent.map (⟨v, ·⟩)⟩

/-- The packet gets from the interface `out` of its sender to the interface `ie` of the node `v`. -/
def Carries (m : Message V) (out : ℕ) (v : V) (ie : ℕ) : Prop :=
  (∀ i ∈ m.sent.destInterface, i = out) ∧ N.Linked v ie m.sender out

instance [DecidableEq L] (m : Message V) (out : ℕ) (v : V) (ie : ℕ) :
    Decidable (N.Carries m out v ie) :=
  inferInstanceAs (Decidable (_ ∧ _))

/-- The control information of a packet that arrives. -/
def indication (m : Message V) (out ie : ℕ) : UDPDataIndication where
  srcAddr := N.address m.sender out
  srcPort := (N.cfg m.sender).ripUdpPort
  interfaceId := ie

/-- The state after an action; nothing happens when there is no such packet, or no such way. -/
def step [DecidableEq V] [DecidableEq L] (σ : State V) : Action V → Except RIPFault (State V)
  | .start v => N.act σ v (.start (N.ift v))
  | .advance time =>
    .ok { σ with node := fun v => { σ.node v with simTime := (σ.node v).simTime + time } }
  | .update v triggered => N.act σ v (.update triggered)
  | .deliver i out v ie =>
    match σ.inFlight[i]? with
    | none => .ok σ
    | some m =>
      if N.Carries m out v ie then
        N.act σ v (.receive (N.view v) (N.indication m out ie) m.sent.packet)
      else .ok σ

/-! ### The invariant -/

variable {N} {v w : V} {s s' : RIPRouting} {r r' : RIPRoute} {σ σ' : State V}

/-- The RIP route has been learnt from a neighbour. -/
def IsLearnt (r : RIPRoute) : Prop := r.type = .rte ∨ r.fromAddr ≠ unspecifiedAddress

variable (N) in
/-- The next hop of a RIP route is a neighbour on the interface of the route. -/
def HasNeighbor (v : V) (r : RIPRoute) : Prop :=
  ∃ ie w ie', r.ie = some ie ∧ N.Linked v ie w ie' ∧ r.nextHop = N.address w ie'

variable (N) in
/-- The metric for a destination is not below the cost, cut off at the infinite metric. -/
def Bounded (dest : IPv4Address × ℤ) (v : V) (metric : ℕ) : Prop :=
  min (N.cost dest v) ripInfiniteMetric.toNat ≤ metric

variable (N) in
/-- The invariant of a RIP route of a node. -/
structure RouteSound (v : V) (r : RIPRoute) : Prop where
  bounded : N.Bounded (RIPRoute.key r) v r.metric.toNat
  hasNeighbor : IsLearnt r → N.HasNeighbor v r

variable (N) in
/-- The invariant of an entry that a node has sent. -/
structure EntrySound (w : V) (entry : RIPEntry) : Prop where
  bounded : N.Bounded (entry.address, entry.prefixLength) w entry.metric
  nextHop : isUnspecified entry.nextHop = true

variable (N) in
/-- The invariant of a packet in flight. -/
structure MessageSound (m : Message V) : Prop where
  request : m.sent.packet.command = ripRequest →
    ∀ entry ∈ m.sent.packet.entries, entry.addressFamilyId = ripAfNone
  response : m.sent.packet.command = ripResponse →
    ∀ entry ∈ m.sent.packet.entries, N.EntrySound m.sender entry

variable (N) in
/-- The invariant of a module that has been started. -/
structure Started (v : V) (s : RIPRouting) : Prop where
  ok : Ok s
  subscribed : s.subscribed = true
  metric : ∀ ripInterface ∈ s.ripInterfaces, ripInterface.metric = N.metric v ripInterface.ie
  sound : ∀ r ∈ s.ripRoutes, N.RouteSound v r

variable (N) in
/-- The invariant of the module of a node. -/
def NodeSound (v : V) (s : RIPRouting) : Prop :=
  (∃ time, s = { N.node v with simTime := time }) ∨ N.Started v s

variable (N) in
/-- The invariant of a network. -/
structure Sound (σ : State V) : Prop where
  node : ∀ v, N.NodeSound v (σ.node v)
  inFlight : ∀ m ∈ σ.inFlight, N.MessageSound m

theorem bounded_infinite (dest : IPv4Address × ℤ) (v : V) :
    N.Bounded dest v ripInfiniteMetric.toNat := min_le_right _ _

theorem RouteSound.of_weaker (h : N.RouteSound v r) (hw : r'.Weaker r) : N.RouteSound v r' := by
  refine ⟨?_, fun hlearnt => ?_⟩
  · rw [key_eq_of_weaker hw]
    rcases hw.metric with ⟨hmetric, -⟩ | ⟨hmetric, -⟩
    · rw [hmetric]
      exact h.bounded
    · rw [hmetric]
      exact bounded_infinite _ v
  · have hlearnt' : IsLearnt r := by
      unfold IsLearnt at hlearnt ⊢
      rwa [← hw.type, ← hw.fromAddr]
    obtain ⟨ie, w, ie', hie, hlinked, hhop⟩ := h.hasNeighbor hlearnt'
    exact ⟨ie, w, ie', hw.ie.trans hie, hlinked, hw.nextHop.trans hhop⟩

theorem Started.of_weakened (h : N.Started v s) (hw : Weakened s s') : N.Started v s' where
  ok := h.ok.of_weakened hw
  subscribed := hw.subscribed.trans h.subscribed
  metric := by
    rw [hw.ripInterfaces]
    exact h.metric
  sound r' hr' := by
    obtain ⟨r, hr, hweaker⟩ := hw.exists_of_mem hr'
    exact (h.sound r hr).of_weaker hweaker

/-! ### Sending -/

variable {entry : RIPEntry}

theorem entrySound_of_announces (h : ∀ r ∈ s.ripRoutes, N.RouteSound v r)
    (ha : Announces s.ripRoutes entry) : N.EntrySound v entry := by
  obtain ⟨r, hr, hdest, hlength, hhop, hmetric⟩ := ha
  refine ⟨?_, hhop⟩
  rcases hmetric with hmetric | hmetric
  · rw [hmetric, hdest, hlength]
    exact (h r hr).bounded
  · rw [hmetric]
    exact bounded_infinite _ v

theorem messageSound_of_allResponses (h : ∀ r ∈ s.ripRoutes, N.RouteSound v r)
    {sent : List SentPacket} (hsent : AllResponses s.ripRoutes sent) :
    ∀ p ∈ sent, N.MessageSound ⟨v, p⟩ := by
  intro p hp
  obtain ⟨hcommand, hentries⟩ := hsent p hp
  refine ⟨fun hrequest => ?_, fun _ entry hentry => ?_⟩
  · rw [hcommand] at hrequest
    cases hrequest
  · exact entrySound_of_announces h (hentries entry hentry)

/-! ### The start -/

variable {ripInterface : RIPInterfaceEntry}

/-- A RIP interface gets the metric of its element, which is 1 by default. -/
theorem configure_eq {ie : ℕ} {config : Option InterfaceElement}
    (h : RIPInterfaceEntry.configure ie config = .ok ripInterface) :
    ripInterface.ie = ie ∧ ripInterface.metric = (config.bind (·.metric)).getD 1 := by
  cases config with
  | none =>
    cases h
    exact ⟨rfl, rfl⟩
  | some config =>
    simp only [RIPInterfaceEntry.configure] at h
    split_ifs at h
    obtain ⟨mode, -, h⟩ := bind_eq_ok.1 h
    cases h
    exact ⟨rfl, rfl⟩

variable {cfg : RIPConfig}

theorem configureInterfaces_eq {ift : List ℕ} (h : configureInterfaces cfg ift s = .ok s') :
    ∃ ifs, s' = { s with ripInterfaces := s.ripInterfaces ++ ifs } ∧
      ifs.map (fun ripInterface => (ripInterface.ie, ripInterface.metric)) =
        (ift.filter fun ie => cfg.isMulticast ie && !cfg.isLoopback ie).map fun ie =>
          (ie, ((cfg.interfaceElement ie).bind (·.metric)).getD 1) := by
  induction ift generalizing s with
  | nil =>
    cases h
    exact ⟨[], by rw [append_nil], rfl⟩
  | cons ie ift ih =>
    obtain ⟨s1, hs1, h⟩ := bind_eq_ok.1 h
    obtain ⟨ifs, hs', hifs⟩ := ih h
    unfold configureInterface at hs1
    split_ifs at hs1 with hrip
    · unfold addInterface at hs1
      rw [ite_error_eq_ok] at hs1
      obtain ⟨ripInterface, hconfigure, hs1⟩ := bind_eq_ok.1 hs1.2
      obtain ⟨hie, hmetric⟩ := configure_eq hconfigure
      cases hs1
      refine ⟨ripInterface :: ifs, ?_, ?_⟩
      · rw [hs', append_assoc, singleton_append]
      · rw [filter_cons, if_pos hrip, map_cons, map_cons, hifs, hie, hmetric]
    · cases hs1
      refine ⟨ifs, hs', ?_⟩
      rw [filter_cons, if_neg hrip, hifs]

/-- The RIP interfaces are those of the node, with their metrics. -/
theorem metric_of_mem {ifs : List RIPInterfaceEntry}
    (hifs : ifs.map (fun ripInterface => (ripInterface.ie, ripInterface.metric)) =
      (N.ripIft v).map fun ie => (ie, (((N.cfg v).interfaceElement ie).bind (·.metric)).getD 1))
    (h : ripInterface ∈ ifs) :
    ripInterface.metric = N.metric v ripInterface.ie := by
  have hmem := mem_map_of_mem (f := fun ri : RIPInterfaceEntry => (ri.ie, ri.metric)) h
  rw [hifs] at hmem
  obtain ⟨ie, hie, heq⟩ := mem_map.1 hmem
  obtain ⟨rfl, hmetric⟩ := Prod.mk.inj heq
  unfold metric
  rw [if_pos hie, hmetric]

theorem getInterfaceMetric_eq
    (hifs : s.ripInterfaces.map (fun ripInterface => (ripInterface.ie, ripInterface.metric)) =
      (N.ripIft v).map fun ie => (ie, (((N.cfg v).interfaceElement ie).bind (·.metric)).getD 1))
    (ie : ℕ) : s.getInterfaceMetric ie = N.metric v ie := by
  unfold getInterfaceMetric
  cases hfind : s.findInterfaceById ie with
  | some ripInterface =>
    have hie : ripInterface.ie = ie := by simpa using find?_some hfind
    simp only
    rw [metric_of_mem hifs (mem_of_find?_eq_some hfind), hie]
  | none =>
    have hnot : ie ∉ N.ripIft v := by
      intro hmem
      have hpair := mem_map_of_mem
        (f := fun ie => (ie, (((N.cfg v).interfaceElement ie).bind (·.metric)).getD 1)) hmem
      rw [← hifs] at hpair
      obtain ⟨ripInterface, hri, heq⟩ := mem_map.1 hpair
      have := find?_eq_none.1 hfind ripInterface hri
      simp [(Prod.mk.inj heq).1] at this
    unfold metric
    rw [if_neg hnot]

variable {route : IPv4Route}

/-- What is known of the RIP route as which a route is imported. -/
theorem initialRoute_spec (hsource : s.source = (N.node v).source)
    (hmetric : ∀ ie, s.getInterfaceMetric ie = N.metric v ie)
    (h : s.initialRoute (N.cfg v) route = some r) :
    RIPRoute.key r = routeKey route ∧ N.ownCost v route = some r.metric ∧ ¬IsLearnt r := by
  have hlocal : s.localInterface (N.cfg v) route = (N.node v).localInterface (N.cfg v) route := by
    unfold localInterface
    rw [hsource]
  have hnot : ∀ (type : RouteType) (metric : ℤ), type ≠ .rte →
      ¬IsLearnt (RIPRoute.ofRoute route type metric 0) := by
    rintro type metric htype (hrte | hfrom)
    · exact htype hrte
    · exact hfrom rfl
  unfold initialRoute at h
  unfold ownCost
  rw [← hlocal]
  by_cases hloop : isLoopbackInterfaceRoute (N.cfg v) route = true
  · rw [if_pos hloop] at h
    cases h
  rw [if_neg hloop] at h ⊢
  cases hie : s.localInterface (N.cfg v) route with
  | some ie =>
    rw [hie] at h
    cases h
    refine ⟨rfl, ?_, hnot .iface (s.getInterfaceMetric ie) nofun⟩
    exact congrArg some (hmetric ie).symm
  | none =>
    rw [hie] at h
    by_cases hdefault : isDefaultRoute route = true
    · simp only [hdefault, if_true] at h
      cases h
      exact ⟨rfl, by simp [hdefault, RIPRoute.ofRoute], hnot .default 1 nofun⟩
    · by_cases hmulticast : isMulticast route.dest = true
      · simp [hdefault, hmulticast] at h
      · simp only [hdefault, hmulticast] at h
        cases h
        exact ⟨rfl, by simp [hmulticast, RIPRoute.ofRoute], hnot .static 1 nofun⟩

/-- The RIP routes of a module that has just been started are sound. -/
theorem routeSound_of_initialRoute (hroute : route ∈ (N.node v).rt.routes)
    (hsource : s.source = (N.node v).source)
    (hmetric : ∀ ie, s.getInterfaceMetric ie = N.metric v ie) (hone : 1 ≤ r.metric)
    (h : s.initialRoute (N.cfg v) route = some r) : N.RouteSound v r := by
  obtain ⟨hkey, hcost, hnot⟩ := initialRoute_spec hsource hmetric h
  refine ⟨?_, fun hlearnt => absurd hlearnt hnot⟩
  have horigin : N.Origin (RIPRoute.key r) v r.metric.toNat := by
    refine ⟨route, hroute, hkey.symm, ?_⟩
    rw [hcost, Int.toNat_of_nonneg (by omega)]
  exact (min_le_left _ _).trans (Distance.dist_le_of_origin horigin)

theorem idle_of_eq {time : ℤ} (hs : s = { N.node v with simTime := time }) : s.Idle := by
  subst hs
  have h := N.idle v
  exact ⟨⟨h.kernelOk.lt, h.kernelOk.nodup⟩, h.ripInterfaces, h.ripRoutes, h.subscribed⟩

theorem ok_of_idle (h : s.Idle) : Ok s := by
  refine ⟨h.kernelOk, fun r hr => ?_⟩
  rw [h.ripRoutes] at hr
  cases hr

variable {p : RIPRouting × List SentPacket}

theorem started_startRIPRouting {time : ℤ} (hs : s = { N.node v with simTime := time })
    (h : s.startRIPRouting (N.cfg v) (N.ift v) = .ok p) :
    N.Started v p.1 ∧ ∀ q ∈ p.2, N.MessageSound ⟨v, q⟩ := by
  have hidle := idle_of_eq hs
  have hok := (safe_startRIPRouting (ok_of_idle hidle) (N.cfg v) (N.ift v)).of_eq_ok h
  obtain ⟨s1, hs1, h⟩ := bind_eq_ok.1 h
  obtain ⟨s2, hs2, h⟩ := bind_eq_ok.1 h
  cases h
  obtain ⟨ifs, rfl, hifs⟩ := configureInterfaces_eq hs1
  rw [hidle.ripInterfaces, nil_append] at hs2
  have hs2 := configureInitialRoutes_eq _ hs2
  rw [hidle.ripRoutes, nil_append] at hs2
  subst hs2
  refine ⟨⟨hok.ok, rfl, fun ri hri => metric_of_mem hifs hri, fun r hr => ?_⟩, fun q hq => ?_⟩
  · obtain ⟨route, hroute, hr'⟩ := mem_filterMap.1 hr
    refine routeSound_of_initialRoute ?_ ?_ ?_ (hok.ok.routes r hr).one_le_metric hr'
    · rw [hs] at hroute
      exact hroute
    · rw [hs]
    · exact getInterfaceMetric_eq hifs
  · -- a request asks for the whole table
    obtain ⟨ri, -, rfl⟩ := mem_map.1 hq
    refine ⟨fun _ entry hentry => ?_, nofun⟩
    rw [mem_singleton.1 hentry]

/-! ### Responses -/

variable {incomingIe : RIPInterfaceEntry}

/-- An entry that is sound makes a sound RIP route at a neighbour of its sender. -/
theorem routeSound_of_learnt {out : ℕ}
    {type : RouteType} (hmetric : incomingIe.metric = N.metric v incomingIe.ie)
    (hlinked : N.Linked v incomingIe.ie w out) (hentry : N.EntrySound w entry)
    (h : Learnt s s' type entry.address entry.prefixLength incomingIe.ie
      (entryNextHop (N.address w out) entry) (receivedMetric incomingIe entry) (N.address w out) r) :
    N.RouteSound v r := by
  refine ⟨?_, fun _ => ⟨incomingIe.ie, w, out, h.ie_eq, hlinked, ?_⟩⟩
  · have hkey : RIPRoute.key r = (entry.address, entry.prefixLength) :=
      Prod.ext h.dest_eq h.prefixLength_eq
    have hone := incomingIe.one_le_metric
    have hedge : N.Edge v w incomingIe.metric.toNat := by
      refine ⟨incomingIe.ie, out, hlinked, ?_⟩
      rw [← hmetric, Int.toNat_of_nonneg (by omega)]
    have hsum : r.metric.toNat =
        min (entry.metric + incomingIe.metric.toNat) ripInfiniteMetric.toNat := by
      rw [h.metric_eq]
      unfold receivedMetric
      omega
    rw [hkey, hsum]
    exact Distance.min_dist_le_relax hedge hentry.bounded
  · rw [h.nextHop_eq]
    unfold entryNextHop
    rw [if_pos hentry.nextHop]

theorem safe_processEntries_sound {out : ℕ} (hmetric : incomingIe.metric = N.metric v incomingIe.ie)
    (hlinked : N.Linked v incomingIe.ie w out) (entries : List RIPEntry)
    (hentries : ∀ entry ∈ entries, N.EntrySound w entry) (h : N.Started v s) :
    Safe (N.Started v) (processEntries incomingIe (N.address w out) entries s) := by
  induction entries generalizing s with
  | nil => exact h
  | cons entry rest ih =>
    refine (safe_processEntry_true h.ok incomingIe _ entry).bind fun s1 he => ?_
    have henv := EntryEffect.env h.ok.kernelOk he
    refine ih (fun e hmem => hentries e (mem_cons_of_mem _ hmem))
      ⟨EntryEffect.ok h.ok he, henv.subscribed.trans h.subscribed, ?_, fun r' hr' => ?_⟩
    · rw [henv.ripInterfaces]
      exact h.metric
    · rcases EntryEffect.mem he hr' with ⟨r, hr, hweaker⟩ | ⟨type, hlearnt⟩
      · exact (h.sound r hr).of_weaker hweaker
      · exact routeSound_of_learnt hmetric hlinked (hentries entry mem_cons_self) hlearnt

/-! ### Every action -/

variable {triggered : Bool}

theorem started_update (h : N.Started v s) (hp : s.processUpdate (N.cfg v) triggered = .ok p) :
    N.Started v p.1 ∧ ∀ q ∈ p.2, N.MessageSound ⟨v, q⟩ := by
  obtain ⟨hweak, hsent, -⟩ := (safe_processUpdate h.ok.kernelOk (N.cfg v) triggered).of_eq_ok hp
  exact ⟨h.of_weakened hweak, messageSound_of_allResponses h.sound hsent⟩

variable {m : Message V} {out ie : ℕ}

/-- A packet that is in flight arrives at a module that has been started. -/
theorem started_receive (h : N.Started v s) (hm : N.MessageSound m)
    (hlinked : N.Linked v ie m.sender out)
    (hp : s.receivePacket (N.cfg v) (N.view v) (N.indication m out ie) m.sent.packet = .ok p) :
    N.Started v p.1 ∧ ∀ q ∈ p.2, N.MessageSound ⟨v, q⟩ := by
  unfold receivePacket at hp
  by_cases hrequest : m.sent.packet.command = ripRequest
  · rw [if_pos hrequest] at hp
    obtain ⟨hweak, hsent⟩ := (safe_processRequest h.ok.kernelOk (N.cfg v) _ _).of_eq_ok hp
    exact ⟨h.of_weakened hweak, messageSound_of_allResponses h.sound (hsent (hm.request hrequest))⟩
  rw [if_neg hrequest] at hp
  by_cases hresponse : m.sent.packet.command = ripResponse
  · rw [if_pos hresponse] at hp
    obtain ⟨s1, hs1, hp⟩ := bind_eq_ok.1 hp
    cases hp
    refine ⟨?_, nofun⟩
    unfold processResponse at hs1
    split_ifs at hs1
    · cases hie : s.findInterfaceById (N.indication m out ie).interfaceId with
      | none =>
        rw [hie] at hs1
        cases hs1
        exact h
      | some incomingIe =>
        rw [hie] at hs1
        have hid : incomingIe.ie = ie := by simpa [indication] using find?_some hie
        subst hid
        exact (safe_processEntries_sound (h.metric _ (mem_of_find?_eq_some hie)) hlinked _
          (hm.response hresponse) h).of_eq_ok hs1
    · cases hs1
      exact h
  · rw [if_neg hresponse] at hp
    cases hp

/-- A module that has not been started has nothing to send. -/
theorem update_of_idle (h : s.Idle) (hp : s.processUpdate cfg triggered = .ok p) : p = (s, []) := by
  obtain ⟨rt, source, nextId, ifs, routes, subscribed, time⟩ := s
  obtain ⟨-, rfl, rfl, -⟩ := h
  cases hp
  rfl

/-- A module that has not been started drops what it receives. -/
theorem receive_of_idle (h : s.Idle) {view : AddressView} (hm : N.MessageSound m)
    (hp : s.receivePacket cfg view (N.indication m out ie) m.sent.packet = .ok p) :
    p = (s, []) := by
  have hnone : ∀ i, s.findInterfaceById i = none := by
    intro i
    unfold findInterfaceById
    rw [h.ripInterfaces]
    rfl
  unfold receivePacket at hp
  by_cases hrequest : m.sent.packet.command = ripRequest
  · rw [if_pos hrequest] at hp
    unfold processRequest at hp
    split_ifs at hp with hempty
    · cases hp
      rfl
    obtain ⟨filled, hfilled, hp⟩ := bind_eq_ok.1 hp
    obtain rfl := answers_of_none hempty (hm.request hrequest) hfilled
    simp only [hnone] at hp
    cases hp
    rfl
  rw [if_neg hrequest] at hp
  by_cases hresponse : m.sent.packet.command = ripResponse
  · rw [if_pos hresponse] at hp
    obtain ⟨s1, hs1, hp⟩ := bind_eq_ok.1 hp
    cases hp
    unfold processResponse at hs1
    simp only [hnone, ite_self] at hs1
    cases hs1
    rfl
  · rw [if_neg hresponse] at hp
    cases hp

theorem nodeSound_start (h : N.NodeSound v s) (hp : s.handle (N.cfg v) (.start (N.ift v)) = .ok p) :
    N.NodeSound v p.1 ∧ ∀ q ∈ p.2, N.MessageSound ⟨v, q⟩ := by
  simp only [handle] at hp
  rcases h with ⟨time, hs⟩ | hstarted
  · rw [(idle_of_eq hs).subscribed, if_neg Bool.false_ne_true] at hp
    exact (started_startRIPRouting hs hp).imp .inr id
  · rw [if_pos hstarted.subscribed] at hp
    cases hp
    exact ⟨.inr hstarted, fun _ hq => absurd hq not_mem_nil⟩

theorem nodeSound_update (h : N.NodeSound v s) (hp : s.handle (N.cfg v) (.update triggered) = .ok p)
    :
    N.NodeSound v p.1 ∧ ∀ q ∈ p.2, N.MessageSound ⟨v, q⟩ := by
  rcases h with ⟨time, hs⟩ | hstarted
  · rw [update_of_idle (idle_of_eq hs) hp]
    exact ⟨.inl ⟨time, hs⟩, nofun⟩
  · exact (started_update hstarted hp).imp .inr id

theorem nodeSound_receive (h : N.NodeSound v s) (hm : N.MessageSound m)
    (hlinked : N.Linked v ie m.sender out)
    (hp : s.handle (N.cfg v) (.receive (N.view v) (N.indication m out ie) m.sent.packet) = .ok p) :
    N.NodeSound v p.1 ∧ ∀ q ∈ p.2, N.MessageSound ⟨v, q⟩ := by
  rcases h with ⟨time, hs⟩ | hstarted
  · rw [receive_of_idle (idle_of_eq hs) hm hp]
    exact ⟨.inl ⟨time, hs⟩, nofun⟩
  · exact (started_receive hstarted hm hlinked hp).imp .inr id

theorem NodeSound.advance (h : N.NodeSound v s) (time : ℕ) :
    N.NodeSound v { s with simTime := s.simTime + time } := by
  rcases h with ⟨time0, hs⟩ | hstarted
  · subst hs
    exact .inl ⟨time0 + time, rfl⟩
  · have hkeeps : Keeps s { s with simTime := s.simTime + time } :=
      .of_subset hstarted.ok (List.Subset.refl _) rfl rfl rfl
    exact .inr ⟨hkeeps.ok, hstarted.subscribed, hstarted.metric, hstarted.sound⟩

variable (N) in
theorem sound_initial : N.Sound N.initial := ⟨fun v => .inl ⟨(N.node v).simTime, rfl⟩, nofun⟩

section Decidable

variable [DecidableEq V]

/-- A module takes an action and keeps the invariant. -/
theorem Sound.act (h : N.Sound σ) {a : RIPAction}
    (hnode : ∀ p, (σ.node v).handle (N.cfg v) a = .ok p →
      N.NodeSound v p.1 ∧ ∀ q ∈ p.2, N.MessageSound ⟨v, q⟩)
    (hact : N.act σ v a = .ok σ') : N.Sound σ' := by
  obtain ⟨p, hp, hact⟩ := bind_eq_ok.1 hact
  cases hact
  obtain ⟨hs, hsent⟩ := hnode p hp
  refine ⟨fun w => ?_, fun m hm => ?_⟩
  · by_cases hw : w = v
    · subst hw
      simpa using hs
    · simpa [Function.update_of_ne hw] using h.node w
  · rcases mem_append.1 hm with hm | hm
    · exact h.inFlight m hm
    · obtain ⟨q, hq, rfl⟩ := mem_map.1 hm
      exact hsent q hq

theorem Sound.step [DecidableEq L] (h : N.Sound σ) {a : Action V}
    (hstep : N.step σ a = .ok σ') : N.Sound σ' := by
  cases a with
  | start v => exact h.act (fun p hp => nodeSound_start (h.node v) hp) hstep
  | advance time =>
    cases hstep
    exact ⟨fun v => (h.node v).advance time, h.inFlight⟩
  | update v triggered => exact h.act (fun p hp => nodeSound_update (h.node v) hp) hstep
  | deliver i out v ie =>
    simp only [Network.step] at hstep
    cases hm : σ.inFlight[i]? with
    | none =>
      rw [hm] at hstep
      cases hstep
      exact h
    | some m =>
      simp only [hm] at hstep
      split_ifs at hstep with hcarries
      · have hsound := h.inFlight m (mem_of_getElem? hm)
        exact h.act (fun p hp => nodeSound_receive (h.node v) hsound hcarries.2 hp) hstep
      · cases hstep
        exact h

/-! ### Runs -/

theorem sound_of_run [DecidableEq L] {acts : List (Action V)}
    (h : Trace.Run N.step (fun _ _ => True) N.initial acts σ) (v : V) :
    ∀ r ∈ (σ.node v).ripRoutes,
      min (N.cost (RIPRoute.key r) v) ripInfiniteMetric.toNat ≤ r.metric.toNat ∧
      (IsLearnt r → r.metric < ripInfiniteMetric → N.HasNeighbor v r) := by
  have hsound : N.Sound σ := h.invariant (I := N.Sound) (fun _ _ _ hσ _ hstep => hσ.step hstep)
    (sound_initial N)
  intro r hr
  rcases hsound.node v with ⟨time, hs⟩ | hstarted
  · -- a module that has not been started has no RIP routes
    rw [(idle_of_eq hs).ripRoutes] at hr
    cases hr
  · have hroute := hstarted.sound r hr
    exact ⟨hroute.bounded, fun hlearnt _ => hroute.hasNeighbor hlearnt⟩

end Decidable

/-- A node whose interfaces have got their routes. -/
def sampleNode (cfg : RIPConfig) (ies : List InterfaceEntry) : RIPRouting :=
  ies.foldl (fun s ie => ((s.netmaskRouteAdded cfg ie).toOption).getD s) RIPRouting.init

local instance sampleLinks : NeZero 2 := ⟨Nat.succ_ne_zero 1⟩

local instance sampleRouters : NeZero 3 := ⟨Nat.succ_ne_zero 2⟩

/-- The metrics of the interfaces of three nodes in a row. -/
def sampleMetrics (v : Fin 3) : RIPConfig where
  interfaceElement ie :=
    some ⟨if v = 0 then some 2 else if v = 2 ∧ ie = 2 then some 5 else none, none⟩

/-- Three nodes in a row with the networks 10.1.0.0/16 and 10.2.0.0/16 between them; the last one
also has the network 10.3.0.0/16. -/
def sample : Network (Fin 3) (Fin 2) where
  cfg := sampleMetrics
  ift v := if v = 0 then [1] else [1, 2]
  link v ie := if v = 0 ∧ ie = 1 ∨ v = 1 ∧ ie = 1 then some 0
    else if v = 1 ∧ ie = 2 ∨ v = 2 ∧ ie = 1 then some 1 else none
  address v ie := if v = 0 then 0x0A010001 else if v = 1 ∧ ie = 1 then 0x0A010002
    else if v = 1 then 0x0A020001 else if ie = 1 then 0x0A020002 else 0x0A030001
  view _ := ⟨fun _ => false, fun _ => true⟩
  node v :=
    if v = 0 then sampleNode (sampleMetrics 0)
      [⟨1, 1500, false, some ⟨0x0A010001, 0xFFFF0000, 1⟩⟩]
    else if v = 1 then sampleNode (sampleMetrics 1)
      [⟨1, 1500, false, some ⟨0x0A010002, 0xFFFF0000, 1⟩⟩,
        ⟨2, 1500, false, some ⟨0x0A020001, 0xFFFF0000, 1⟩⟩]
    else sampleNode (sampleMetrics 2)
      [⟨1, 1500, false, some ⟨0x0A020002, 0xFFFF0000, 1⟩⟩,
        ⟨2, 1500, false, some ⟨0x0A030001, 0xFFFF0000, 1⟩⟩]
  idle v := by
    fin_cases v
    · exact ⟨⟨by decide, by decide⟩, rfl, rfl, rfl⟩
    · exact ⟨⟨by decide, by decide⟩, rfl, rfl, rfl⟩
    · exact ⟨⟨by decide, by decide⟩, rfl, rfl, rfl⟩

/-- The last node sends its routes to the second one, and that one to the first one, twice. -/
theorem sound_of_run_sample : ∃ σ : State (Fin 3),
    (σ.node 0).ripRoutes.map (fun r => (r.dest, r.metric)) =
      [(0x0A010000, 2), (0x0A020000, 3), (0x0A030000, 8)] ∧
    ∀ r ∈ (σ.node 0).ripRoutes,
      min (sample.cost (RIPRoute.key r) 0) ripInfiniteMetric.toNat ≤ r.metric.toNat ∧
      (IsLearnt r → r.metric < ripInfiniteMetric → sample.HasNeighbor 0 r) := by
  obtain ⟨σ, hσ, hroutes⟩ : ∃ σ, Trace.Run sample.step (fun _ _ => True) sample.initial
      [.start 0, .start 1, .start 2, .update 2 false, .deliver 5 1 1 2, .advance 30,
        .update 1 false, .deliver 7 1 0 1, .deliver 7 1 0 1] σ ∧
      (σ.node 0).ripRoutes.map (fun r => (r.dest, r.metric)) =
        [(0x0A010000, 2), (0x0A020000, 3), (0x0A030000, 8)] :=
    Trace.exists_run_of_exec (by decide +kernel)
  exact ⟨σ, hroutes, sound_of_run hσ 0⟩

end Network

end Hiwis
