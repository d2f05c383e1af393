import Hiwis.Ospf.OriginateSummaryLSA

/-!
# The destinations that a router summarises

The summary LSAs of the router are a map from link state IDs, in which each LSA stands for the
destination that its ID and its mask give.  A network either has its address as ID, or it has been
displaced by one with a shorter mask and has its broadcast address as ID.

* `OSPF.SummaryOrigination.Placed.unique` : a destination has one LSA;
* `OSPF.SummaryOrigination.Places.spec` : one LSA is placed, and all others still advertise what
  they did;
* `OSPF.SummaryOrigination.originations_ok` : when every origination finds a free ID and a range
  that its entry stands for, each LSA is that of the destination summarised;
* `OSPF.SummaryOrigination.not_originations_ok` : two networks in an address range.
-/

namespace Hiwis

open List Option Function

namespace OSPF

namespace SummaryOrigination

/-! ### Placements -/

/-- The destination of a summary LSA. -/
structure Destination where
  lsType : LSAType
  range : IPv4AddressRange
  deriving DecidableEq

/-- What a summary LSA advertises. -/
structure Summary where
  lsType : LSAType
  networkMask : IPv4Address
  routeCost : Metric
  deriving DecidableEq

/-- The destination that a summary with a link state ID stands for. -/
def Summary.destination (x : Summary) (id : LinkStateID) : Destination :=
  if x.lsType = .summaryLSANetworks then ⟨x.lsType, ⟨id &&& x.networkMask, x.networkMask⟩⟩
  else ⟨x.lsType, ⟨id, x.networkMask⟩⟩

/-- The summaries under their link state IDs. -/
abbrev Placement : Type := LinkStateID → Option Summary

/-- A destination is advertised with a cost. -/
def Advertises (f : Placement) (d : Destination) (cost : Metric) : Prop :=
  ∃ id x, f id = some x ∧ x.destination id = d ∧ x.routeCost = cost

/-- A network has its address as link state ID, or it has the broadcast address and a network with a
shorter mask has the address. -/
def PlacedAt (f : Placement) (id : LinkStateID) (x : Summary) : Prop :=
  id &&& x.networkMask = id ∨
    id = makeBroadcastAddress (id &&& x.networkMask) x.networkMask ∧
      ∃ y, f (id &&& x.networkMask) = some y ∧ y.networkMask < x.networkMask

/-- Every network has its place. -/
def Placed (f : Placement) : Prop :=
  ∀ id x, f id = some x → x.lsType = .summaryLSANetworks → PlacedAt f id x

variable {f f' : Placement} {id id' : LinkStateID} {x y : Summary} {d d' : Destination}
  {cost cost' : Metric}

theorem Summary.destination_of_network (h : x.lsType = .summaryLSANetworks) :
    x.destination id = ⟨.summaryLSANetworks, ⟨id &&& x.networkMask, x.networkMask⟩⟩ := by
  rw [Summary.destination, if_pos h, h]

theorem and_makeBroadcastAddress (addr netmask : IPv4Address) :
    makeBroadcastAddress addr netmask &&& netmask = addr &&& netmask := by
  ext i hi
  simp only [makeBroadcastAddress, BitVec.getElem_and, BitVec.getElem_or, BitVec.getElem_not]
  cases addr[i] <;> cases netmask[i] <;> rfl

/-- The broadcast address depends on the network only. -/
theorem makeBroadcastAddress_and (addr netmask : IPv4Address) :
    makeBroadcastAddress (addr &&& netmask) netmask = makeBroadcastAddress addr netmask := by
  ext i hi
  simp only [makeBroadcastAddress, BitVec.getElem_and, BitVec.getElem_or, BitVec.getElem_not]
  cases addr[i] <;> cases netmask[i] <;> rfl

theorem Placed.unique (h : Placed f) (hx : f id = some x) (hy : f id' = some y)
    (heq : x.destination id = y.destination id') : id = id' := by
  by_cases hxn : x.lsType = .summaryLSANetworks
  · have hyn : y.lsType = .summaryLSANetworks := by
      have htype := congrArg Destination.lsType heq
      unfold Summary.destination at htype
      split_ifs at htype <;> simp_all
    rw [Summary.destination_of_network hxn, Summary.destination_of_network hyn] at heq
    obtain ⟨haddr, hmask⟩ := IPv4AddressRange.mk.inj (Destination.mk.inj heq).2
    rcases h id x hx hxn with hid | ⟨hid, z, hz, hlt⟩ <;>
      rcases h id' y hy hyn with hid' | ⟨hid', z', hz', hlt'⟩
    · rw [← hid, ← hid', haddr]
    · -- the first one has the address for which the second one had to give way
      rw [← haddr, hid, hx] at hz'
      cases hz'
      rw [hmask] at hlt'
      exact absurd hlt' (BitVec.lt_irrefl _)
    · rw [haddr, hid', hy] at hz
      cases hz
      rw [hmask] at hlt
      exact absurd hlt (BitVec.lt_irrefl _)
    · rw [hid, hid', haddr, hmask]
  · have hyn : y.lsType ≠ .summaryLSANetworks := by
      intro hyn
      have htype := congrArg Destination.lsType heq
      unfold Summary.destination at htype
      split_ifs at htype
      simp_all
    rw [Summary.destination, if_neg hxn, Summary.destination, if_neg hyn] at heq
    exact (IPv4AddressRange.mk.inj (Destination.mk.inj heq).2).1

/-- A summary is stored under a link state ID.  What stood there gives way to a mask that is not
longer. -/
theorem Placed.update (h : Placed f) (hx : x.lsType = .summaryLSANetworks → PlacedAt f id x)
    (hmask : ∀ y, f id = some y → x.networkMask ≤ y.networkMask) :
    Placed (update f id (some x)) := by
  intro i z hz hzn
  have hplace : PlacedAt f i z := by
    by_cases hi : i = id
    · subst hi
      rw [update_self] at hz
      cases hz
      exact hx hzn
    · rw [update_of_ne hi] at hz
      exact h i z hz hzn
  rcases hplace with hid | ⟨hid, y, hy, hlt⟩
  · exact .inl hid
  · refine .inr ⟨hid, ?_⟩
    by_cases hi : i &&& z.networkMask = id
    · rw [hi] at hy
      rw [hi, update_self]
      refine ⟨x, rfl, ?_⟩
      have hle := hmask y hy
      rw [BitVec.lt_def, BitVec.le_def] at *
      exact lt_of_le_of_lt hle hlt
    · rw [update_of_ne hi]
      exact ⟨y, hy, hlt⟩

/-! ### Placing a summary -/

/-- A summary takes the place of that of its destination, or a free one. -/
def Free (f : Placement) (id : LinkStateID) (x : Summary) : Prop :=
  ∀ y ∈ f id, y.lsType = x.lsType ∧ y.networkMask = x.networkMask

instance : Decidable (Free f id x) := inferInstanceAs (Decidable (∀ y ∈ f id, _ ∧ _))

/-- One summary is placed, and another one possibly moves to its broadcast address. -/
inductive Places (f : Placement) : Destination → Metric → Placement → Prop
  | stored {id : LinkStateID} {x : Summary} :
      (x.lsType = .summaryLSANetworks → PlacedAt f id x) → Free f id x →
      Places f (x.destination id) x.routeCost (update f id (some x))
  | displaced {id : LinkStateID} {x y : Summary} :
      x.lsType = .summaryLSANetworks → id &&& x.networkMask = id → f id = some y →
      y.lsType = .summaryLSANetworks → x.networkMask < y.networkMask →
      makeBroadcastAddress id y.networkMask ≠ id →
      f (makeBroadcastAddress id y.networkMask) = none →
      Places f (x.destination id) x.routeCost
        (update (update f id (some x)) (makeBroadcastAddress id y.networkMask)
          (some y))

theorem Free.destination_eq (h : Free f id x) (hy : f id = some y) :
    y.destination id = x.destination id := by
  obtain ⟨htype, hmask⟩ := h y hy
  rw [Summary.destination, Summary.destination, htype, hmask]

theorem Places.placed (h : Places f d cost f') (hf : Placed f) : Placed f' := by
  cases h with
  | stored hplace hfree =>
    refine hf.update hplace fun y hy => ?_
    rw [(hfree y hy).2]
    exact BitVec.le_refl _
  | @displaced id x y hx hid hy hyn hlt hne hnone =>
    have hkeep : Placed (update f id (some x)) := by
      refine hf.update (fun _ => .inl hid) fun z hz => ?_
      rw [hy] at hz
      cases hz
      exact BitVec.le_of_lt hlt
    refine hkeep.update (fun _ => ?_) fun z hz => ?_
    · -- the summary that gives way had its address as ID
      have hhome : id &&& y.networkMask = id := by
        refine (hf id y hy hyn).resolve_right fun hdisplaced => hne ?_
        rw [← makeBroadcastAddress_and]
        exact hdisplaced.1.symm
      refine .inr ⟨?_, x, ?_, hlt⟩
      · rw [and_makeBroadcastAddress, makeBroadcastAddress_and]
      · rw [and_makeBroadcastAddress, hhome, update_self]
    · rw [update_of_ne hne, hnone] at hz
      cases hz

/-- A placement that holds a summary and otherwise advertises what another one does. -/
theorem advertises_iff (hf' : Placed f') (hx : f' id = some x)
    (hold : ∀ i z, i ≠ id → f' i = some z → Advertises f (z.destination i) z.routeCost)
    (hnew : ∀ i z, f i = some z → z.destination i ≠ x.destination id →
      Advertises f' (z.destination i) z.routeCost) :
    Advertises f' d' cost' ↔
      if d' = x.destination id then cost' = x.routeCost else Advertises f d' cost' := by
  constructor
  · rintro ⟨i, z, hz, rfl, rfl⟩
    split_ifs with heq
    · obtain rfl := hf'.unique hz hx heq
      rw [hx] at hz
      cases hz
      rfl
    · refine hold i z ?_ hz
      rintro rfl
      rw [hx] at hz
      cases hz
      exact heq rfl
  · intro hif
    split_ifs at hif with heq
    · exact ⟨id, x, hx, heq.symm, hif.symm⟩
    · obtain ⟨i, z, hz, rfl, rfl⟩ := hif
      exact hnew i z hz heq

/-- The destination is advertised with the cost, all others as before. -/
theorem Places.spec (h : Places f d cost f') (hf : Placed f) :
    Advertises f' d' cost' ↔ if d' = d then cost' = cost else Advertises f d' cost' := by
  have hf' := h.placed hf
  cases h with
  | @stored id x hplace hfree =>
    refine advertises_iff hf' (update_self ..) ?_ ?_
    · intro i z hi hz
      rw [update_of_ne hi] at hz
      exact ⟨i, z, hz, rfl, rfl⟩
    · intro i z hz hne
      refine ⟨i, z, ?_, rfl, rfl⟩
      rw [update_of_ne]
      · exact hz
      · rintro rfl
        exact hne (hfree.destination_eq hz)
  | @displaced id x y hx hid hy hyn hlt hne hnone =>
    set id' := makeBroadcastAddress id y.networkMask with hid'
    have hsame : y.destination id' = y.destination id := by
      rw [Summary.destination_of_network hyn, Summary.destination_of_network hyn, hid',
        and_makeBroadcastAddress]
    refine advertises_iff hf' ?_ ?_ ?_
    · rw [update_of_ne hne.symm, update_self]
    · intro i z hi hz
      by_cases hi' : i = id'
      · subst hi'
        rw [update_self] at hz
        cases hz
        exact ⟨id, y, hy, hsame.symm, rfl⟩
      · rw [update_of_ne hi', update_of_ne hi] at hz
        exact ⟨i, z, hz, rfl, rfl⟩
    · intro i z hz _
      by_cases hi : i = id
      · subst hi
        rw [hy] at hz
        cases hz
        exact ⟨id', y, update_self .., hsame, rfl⟩
      · have hi' : i ≠ id' := by
          rintro rfl
          rw [hnone] at hz
          cases hz
        exact ⟨i, z, by rw [update_of_ne hi', update_of_ne hi, hz], rfl, rfl⟩

/-! ### The database -/

/-- What an LSA advertises. -/
def SummaryLSA.summary (lsa : SummaryLSA) : Summary :=
  ⟨lsa.header.lsType, lsa.networkMask, lsa.routeCost⟩

/-- What the LSAs of a router advertise. -/
def placement (routerID : RouterID) (summaryLSAs : SummaryLSAs) : Placement :=
  fun id => (summaryLSAs ⟨id, routerID⟩).map SummaryLSA.summary

/-- The LSAs of a router are stored under their keys. -/
def Keyed (routerID : RouterID) (summaryLSAs : SummaryLSAs) : Prop :=
  ∀ id lsa, summaryLSAs ⟨id, routerID⟩ = some lsa → lsa.header.lsaKey = ⟨id, routerID⟩

variable {routerID : RouterID} {summaryLSAs : SummaryLSAs} {lsa : SummaryLSA}

theorem placement_eq_some (h : summaryLSAs ⟨id, routerID⟩ = some lsa) :
    placement routerID summaryLSAs id = some lsa.summary := by
  rw [placement, h, map_some]

theorem placement_eq_none (h : summaryLSAs ⟨id, routerID⟩ = none) :
    placement routerID summaryLSAs id = none := by
  rw [placement, h, map_none]

theorem placement_installSummaryLSA (h : lsa.header.lsaKey = ⟨id, routerID⟩) :
    placement routerID (installSummaryLSA summaryLSAs lsa) =
      update (placement routerID summaryLSAs) id (some lsa.summary) := by
  funext i
  rw [placement, installSummaryLSA, h]
  by_cases hi : i = id
  · subst hi
    rw [update_self, update_self, map_some]
  · rw [update_of_ne hi, update_of_ne]
    · rfl
    · intro heq
      exact hi (LSAKeyType.mk.inj heq).1

theorem installSummaryLSA_of_ne {key : LSAKeyType} (h : lsa.header.lsaKey = ⟨id, routerID⟩)
    (hne : key.advertisingRouter ≠ routerID) :
    installSummaryLSA summaryLSAs lsa key = summaryLSAs key := by
  rw [installSummaryLSA, h, update_of_ne]
  rintro rfl
  exact hne rfl

theorem Keyed.installSummaryLSA (h : Keyed routerID summaryLSAs) (lsa : SummaryLSA) :
    Keyed routerID (installSummaryLSA summaryLSAs lsa) := by
  intro id lsa' hlsa'
  unfold SummaryOrigination.installSummaryLSA at hlsa'
  by_cases hkey : (⟨id, routerID⟩ : LSAKeyType) = lsa.header.lsaKey
  · rw [hkey, update_self] at hlsa'
    cases hlsa'
    exact hkey.symm
  · rw [update_of_ne hkey] at hlsa'
    exact h id lsa' hlsa'

theorem SummaryLSA.lsaKey_moved (h : lsa.header.lsaKey = ⟨id, routerID⟩) :
    (lsa.moved id').header.lsaKey = ⟨id', routerID⟩ := by
  rw [OSPFLSAHeader.lsaKey] at h ⊢
  rw [← (LSAKeyType.mk.inj h).2]
  rfl

/-! ### The link state ID -/

/-- The link state ID of the LSA for a network. -/
def chosenID (f : Placement) (destination : IPv4AddressRange) : LinkStateID :=
  if (f destination.address).any fun y => decide (y.networkMask < destination.mask) then
    makeBroadcastAddress destination.address destination.mask
  else destination.address

/-- Either the LSA that is stored under the address has a longer mask and gives way, or the network
gets its link state ID. -/
theorem getUniqueLinkStateID_cases (hkeyed : Keyed routerID summaryLSAs)
    (destination : IPv4AddressRange) (destinationCost : Metric) :
    (∀ y ∈ placement routerID summaryLSAs destination.address,
        y.networkMask ≤ destination.mask) ∧
      getUniqueLinkStateID routerID summaryLSAs destination destinationCost =
        (chosenID (placement routerID summaryLSAs) destination, none) ∨
    ∃ foundLSA lsaToReoriginate,
      summaryLSAs ⟨destination.address, routerID⟩ = some foundLSA ∧
      destination.mask < foundLSA.networkMask ∧
      getUniqueLinkStateID routerID summaryLSAs destination destinationCost =
        (makeBroadcastAddress destination.address foundLSA.networkMask, some lsaToReoriginate) ∧
      lsaToReoriginate.header.lsaKey = ⟨destination.address, routerID⟩ ∧
      lsaToReoriginate.summary = ⟨foundLSA.header.lsType, destination.mask, destinationCost⟩ := by
  unfold getUniqueLinkStateID chosenID
  cases hfound : summaryLSAs ⟨destination.address, routerID⟩ with
  | none =>
    rw [placement_eq_none hfound]
    exact .inl ⟨by simp, rfl⟩
  | some foundLSA =>
    rw [placement_eq_some hfound]
    have hmask : foundLSA.summary.networkMask = foundLSA.networkMask := rfl
    simp only [mem_some_iff, forall_eq', any_some, hmask, decide_eq_true_eq]
    by_cases heq : destination.mask = foundLSA.networkMask
    · rw [if_pos heq, if_neg (by rw [heq]; exact BitVec.lt_irrefl _), heq]
      exact .inl ⟨BitVec.le_refl _, rfl⟩
    · rw [if_neg heq]
      by_cases hle : foundLSA.networkMask ≤ destination.mask
      · rw [if_pos hle, if_pos (BitVec.lt_of_le_ne hle (Ne.symm heq))]
        exact .inl ⟨hle, rfl⟩
      · rw [if_neg hle]
        have hkey : foundLSA.header.lsaKey = ⟨destination.address, routerID⟩ := hkeyed _ _ hfound
        exact .inr ⟨foundLSA, _, rfl, BitVec.not_le.1 hle, rfl, hkey, rfl⟩

/-! ### Originations -/

/-- The intra-area entries in an address range. -/
def rangeComponents (router : Router) (range : IPv4AddressRange) : List RoutingTableEntry :=
  router.routingTable.filter fun entry => entry.destinationType == networkDestination &&
    (entry.pathType == .intraArea && range.containsRange entry.destination entry.netmask)

/-- The largest cost of the components of an address range. -/
def largestCost (router : Router) (range : IPv4AddressRange) : Metric :=
  ((rangeComponents router range).map (·.cost)).foldr max 0

/-- An entry that is summarised into an area, and what the router has originated before. -/
structure Origination where
  router : Router
  area : Area
  entry : RoutingTableEntry
  originatedLSAs : List LSAKeyType

namespace Origination

variable (o : Origination)

/-- The address range that stands for the entry, with its flag. -/
def containingAddressRange : IPv4AddressRange × Bool :=
  o.router.getContainingAddressRange ⟨o.entry.destination, o.entry.netmask⟩

/-- The entry stands for itself. -/
def standsForItself : Bool :=
  o.entry.pathType == .interArea || ignoresRanges o.router o.area o.entry

/-- The destination that is summarised, and its cost. -/
def summary : Destination × Metric :=
  if o.entry.isASBoundaryRouter then
    (⟨.summaryLSAASBoundaryRouters, ⟨o.entry.destination, o.entry.netmask⟩⟩, o.entry.cost)
  else if o.standsForItself then
    (⟨.summaryLSANetworks, ⟨o.entry.destination, o.entry.netmask⟩⟩, o.entry.cost)
  else (⟨.summaryLSANetworks, o.containingAddressRange.1⟩,
    largestCost o.router o.containingAddressRange.1)

/-- What the caller promises: the addresses of networks and of address ranges are masked. -/
structure WellFormed (routerID : RouterID) : Prop where
  routerID : o.router.routerID = routerID
  mem : o.entry ∈ o.router.routingTable
  entry : o.entry.isASBoundaryRouter = false →
    o.entry.destination &&& o.entry.netmask = o.entry.destination
  ranges : ∀ area ∈ o.router.areas, ∀ range ∈ area.areaAddressRanges,
    range.1.address &&& range.1.mask = range.1.address

instance : Decidable (o.WellFormed routerID) :=
  decidable_of_iff (o.router.routerID = routerID ∧ o.entry ∈ o.router.routingTable ∧
      (o.entry.isASBoundaryRouter = false →
        o.entry.destination &&& o.entry.netmask = o.entry.destination) ∧
      ∀ area ∈ o.router.areas, ∀ range ∈ area.areaAddressRanges,
        range.1.address &&& range.1.mask = range.1.address)
    ⟨fun ⟨h₁, h₂, h₃, h₄⟩ => ⟨h₁, h₂, h₃, h₄⟩, fun ⟨h₁, h₂, h₃, h₄⟩ => ⟨h₁, h₂, h₃, h₄⟩⟩

end Origination

/-- The summary LSAs, and the destinations that have been summarised so far. -/
structure State where
  summaryLSAs : SummaryLSAs
  summarised : Destination → Option Metric

/-- One origination.  It never fails. -/
def step (s : State) (o : Origination) : Except Empty State :=
  let result := originateSummaryLSA o.router o.area s.summaryLSAs o.entry o.originatedLSAs
  .ok
    { summaryLSAs := installOriginated s.summaryLSAs result
      summarised := if result.isSome then
          update s.summarised o.summary.1 (some o.summary.2)
        else s.summarised }

/-- The network finds a free link state ID, or that of its own LSA. -/
def IDOk (f : Placement) (destination : IPv4AddressRange) : Prop :=
  ∀ y ∈ f destination.address,
    (y.networkMask = destination.mask → y.lsType = .summaryLSANetworks) ∧
    (y.networkMask < destination.mask →
      Free f (makeBroadcastAddress destination.address destination.mask)
        ⟨.summaryLSANetworks, destination.mask, 0⟩) ∧
    (destination.mask < y.networkMask → y.lsType = .summaryLSANetworks ∧
      makeBroadcastAddress destination.address y.networkMask ≠ destination.address ∧
      f (makeBroadcastAddress destination.address y.networkMask) = none)

/-- The entry has what is advertised for its address range, or its LSA is the one that moves. -/
def RangeOk (f : Placement) (entry : RoutingTableEntry) (range : IPv4AddressRange)
    (rangeCost : Metric) : Prop :=
  ((∀ y ∈ f range.address, y.networkMask ≤ range.mask) →
    entry.netmask = range.mask ∧ entry.cost = rangeCost) ∧
  ∀ y ∈ f range.address, range.mask < y.networkMask → ∀ x ∈ f entry.destination, x = y

/-- The condition under which an origination does what it is for. -/
def OriginationOk (s : State) (o : Origination) : Prop :=
  let f := placement o.router.routerID s.summaryLSAs
  let range := o.containingAddressRange.1
  isSummarised o.router o.area o.entry = true →
    if o.entry.isASBoundaryRouter then
      isPreferred o.router o.area o.entry = true →
        Free f o.entry.destination ⟨.summaryLSAASBoundaryRouters, o.entry.netmask, 0⟩
    else if o.standsForItself then IDOk f ⟨o.entry.destination, o.entry.netmask⟩
    else o.containingAddressRange.2 = true →
      ⟨chosenID f range, o.router.routerID⟩ ∉ o.originatedLSAs →
        IDOk f range ∧ RangeOk f o.entry range (largestCost o.router range)

instance (f : Placement) (destination : IPv4AddressRange) : Decidable (IDOk f destination) :=
  inferInstanceAs (Decidable (∀ y ∈ f destination.address, (_ → _) ∧ (_ → _) ∧ (_ → _)))

instance (f : Placement) (entry : RoutingTableEntry) (range : IPv4AddressRange)
    (rangeCost : Metric) : Decidable (RangeOk f entry range rangeCost) :=
  inferInstanceAs (Decidable ((_ → _) ∧ ∀ y ∈ f range.address, _ → ∀ x ∈ f entry.destination, _))

instance (s : State) (o : Origination) : Decidable (OriginationOk s o) :=
  inferInstanceAs (Decidable (_ → ite _ _ _))

/-- The LSAs of the router stand for the destinations that have been summarised, one for each. -/
structure SummariesOk (routerID : RouterID) (s : State) : Prop where
  advertises : ∀ d cost,
    Advertises (placement routerID s.summaryLSAs) d cost ↔ s.summarised d = some cost
  unique : ∀ id id' x y, placement routerID s.summaryLSAs id = some x →
    placement routerID s.summaryLSAs id' = some y → x.destination id = y.destination id' → id = id'

/-! ### What one origination does -/

theorem largestCost_eq (router : Router) (range : IPv4AddressRange) :
    maxRangeCost router range = largestCost router range := by
  have hfold : ∀ (entries : List RoutingTableEntry) (cost : Metric),
      entries.foldl (fun maxRangeCost routingEntry =>
        if routingEntry.destinationType = networkDestination ∧
            routingEntry.pathType = .intraArea ∧
            range.containsRange routingEntry.destination routingEntry.netmask ∧
            maxRangeCost < routingEntry.cost
        then routingEntry.cost else maxRangeCost) cost =
      max cost (((entries.filter fun entry => entry.destinationType == networkDestination &&
        (entry.pathType == .intraArea &&
          range.containsRange entry.destination entry.netmask)).map (·.cost)).foldr max 0) := by
    intro entries
    induction entries with
    | nil => exact fun cost => (Nat.max_zero cost).symm
    | cons entry entries ih =>
      intro cost
      rw [foldl_cons, ih, filter_cons]
      simp only [Bool.and_eq_true, beq_iff_eq]
      by_cases hcomponent : entry.destinationType = networkDestination ∧
          entry.pathType = .intraArea ∧ range.containsRange entry.destination entry.netmask = true
      · rw [if_pos hcomponent, map_cons, foldr_cons, ← max_assoc]
        congr 1
        by_cases hlt : cost < entry.cost
        · rw [if_pos ⟨hcomponent.1, hcomponent.2.1, hcomponent.2.2, hlt⟩,
            max_eq_right (le_of_lt hlt)]
        · rw [if_neg (fun h => hlt h.2.2.2), max_eq_left (not_lt.1 hlt)]
      · rw [if_neg hcomponent, if_neg fun h => hcomponent ⟨h.1, h.2.1, h.2.2.1⟩]
  exact (hfold router.routingTable 0).trans (Nat.zero_max _)

variable {destination : IPv4AddressRange} {router : Router} {area : Area}
  {entry : RoutingTableEntry} {originatedLSAs : List LSAKeyType} {o : Origination} {s s' : State}

theorem Area.getContainingAddressRange_masked
    (h : ∀ range ∈ area.areaAddressRanges, range.1.address &&& range.1.mask = range.1.address) :
    (area.getContainingAddressRange destination).1.address &&&
        (area.getContainingAddressRange destination).1.mask =
      (area.getContainingAddressRange destination).1.address := by
  unfold Area.getContainingAddressRange
  cases hfind : area.areaAddressRanges.find? _ with
  | none => exact BitVec.and_self
  | some range => exact h range (mem_of_find?_eq_some hfind)

theorem Origination.WellFormed.range_masked (h : o.WellFormed routerID) :
    o.containingAddressRange.1.address &&& o.containingAddressRange.1.mask =
      o.containingAddressRange.1.address := by
  unfold Origination.containingAddressRange Router.getContainingAddressRange
  cases hfind : find? _ _ with
  | none => exact BitVec.and_self
  | some range =>
    obtain ⟨area, harea, rfl⟩ := mem_map.1 (mem_of_find?_eq_some hfind)
    exact Area.getContainingAddressRange_masked (h.ranges area harea)

/-- An AS boundary router has its ID as link state ID. -/
theorem places_router {mask : IPv4Address}
    (hok : Free f id ⟨.summaryLSAASBoundaryRouters, mask, 0⟩) :
    Places f ⟨.summaryLSAASBoundaryRouters, ⟨id, mask⟩⟩ cost
      (update f id (some ⟨.summaryLSAASBoundaryRouters, mask, cost⟩)) := by
  have hstored := Places.stored (x := ⟨.summaryLSAASBoundaryRouters, mask, cost⟩)
    (fun h => by cases h) hok
  exact hstored

section

variable (hmasked : destination.address &&& destination.mask = destination.address) (hok : IDOk f destination)
include hmasked hok

/-- A network gets its link state ID. -/
theorem places_chosenID (hle : ∀ y ∈ f destination.address, y.networkMask ≤ destination.mask) :
    Places f ⟨.summaryLSANetworks, destination⟩ cost
      (update f (chosenID f destination)
        (some ⟨.summaryLSANetworks, destination.mask, cost⟩)) := by
  set x : Summary := ⟨.summaryLSANetworks, destination.mask, cost⟩ with hx
  have hdest : ∀ id, id &&& destination.mask = destination.address →
      x.destination id = ⟨.summaryLSANetworks, destination⟩ := by
    intro id hid
    rw [Summary.destination_of_network rfl, hx, hid]
  have hstored : ∀ id, id &&& destination.mask = destination.address → PlacedAt f id x →
      Free f id x → Places f ⟨.summaryLSANetworks, destination⟩ cost
        (update f id (some x)) := by
    intro id hid hplace hfree
    rw [← hdest id hid]
    exact .stored (fun _ => hplace) hfree
  unfold chosenID
  cases hy : f destination.address with
  | none =>
    rw [any_none, if_neg Bool.false_ne_true]
    refine hstored _ hmasked (.inl hmasked) fun y hy' => ?_
    rw [hy] at hy'
    cases hy'
  | some y =>
    obtain ⟨heq, hlonger, -⟩ := hok y hy
    rw [any_some]
    by_cases hlt : y.networkMask < destination.mask
    · have hid := and_makeBroadcastAddress destination.address destination.mask
      rw [if_pos (decide_eq_true hlt)]
      refine hstored _ (hid.trans hmasked) (.inr ⟨?_, y, ?_, hlt⟩) (hlonger hlt)
      · rw [hid, hmasked]
      · rw [hid, hmasked, hy]
    · have hmask : y.networkMask = destination.mask := by
        have hle' := hle y hy
        rw [BitVec.lt_def] at hlt
        rw [BitVec.le_def] at hle'
        exact BitVec.toNat_inj.1 (le_antisymm hle' (not_lt.1 hlt))
      rw [if_neg (by rwa [decide_eq_true_eq])]
      refine hstored _ hmasked (.inl hmasked) fun z hz => ?_
      rw [hy] at hz
      cases hz
      exact ⟨heq hmask, hmask⟩

/-- A network takes the address from one with a longer mask. -/
theorem places_longer (hy : f destination.address = some y) (hlt : destination.mask < y.networkMask)
    :
    Places f ⟨.summaryLSANetworks, destination⟩ cost
      (update
        (update f destination.address
          (some ⟨.summaryLSANetworks, destination.mask, cost⟩))
        (makeBroadcastAddress destination.address y.networkMask) (some y)) := by
  set x : Summary := ⟨.summaryLSANetworks, destination.mask, cost⟩ with hx
  have hdest : x.destination destination.address = ⟨.summaryLSANetworks, destination⟩ := by
    rw [Summary.destination_of_network rfl, hx, hmasked]
  obtain ⟨hnetwork, hne, hnone⟩ := (hok y hy).2.2 hlt
  rw [← hdest]
  exact .displaced rfl hmasked hy hnetwork hlt hne hnone

end

/-- One summary is placed, and the LSAs of other routers stay as they are. -/
structure Installs (routerID : RouterID) (summaryLSAs : SummaryLSAs) (d : Destination)
    (cost : Metric) (summaryLSAs' : SummaryLSAs) : Prop where
  places : Places (placement routerID summaryLSAs) d cost (placement routerID summaryLSAs')
  keyed : Keyed routerID summaryLSAs'
  others : ∀ key, key.advertisingRouter ≠ routerID → summaryLSAs' key = summaryLSAs key

/-- What an origination returns is nothing, or one summary is placed when it is installed. -/
def Leads (routerID : RouterID) (summaryLSAs : SummaryLSAs) (d : Destination) (cost : Metric)
    (result : Originated) : Prop :=
  result.isSome = true → Installs routerID summaryLSAs d cost (installOriginated summaryLSAs result)

theorem leads_none : Leads routerID summaryLSAs d cost none := nofun

theorem leads_newSummaryLSA {lsType : LSAType} (hkeyed : Keyed router.routerID summaryLSAs)
    (hplaces : Places (placement router.routerID summaryLSAs) d cost
      (update (placement router.routerID summaryLSAs) id
        (some ⟨lsType, entry.netmask, entry.cost⟩))) :
    Leads router.routerID summaryLSAs d cost
      (some (newSummaryLSA router area entry lsType id, none)) := by
  intro _
  have hkey : (newSummaryLSA router area entry lsType id).header.lsaKey = ⟨id, router.routerID⟩ :=
    rfl
  refine ⟨?_, hkeyed.installSummaryLSA _, fun key hne => installSummaryLSA_of_ne hkey hne⟩
  rw [installOriginated, placement_installSummaryLSA hkey]
  exact hplaces

/-- The LSA with the longer mask moves, and the new one is stored in its place. -/
theorem leads_moved {summaryLSA lsaToReoriginate : SummaryLSA} {addr : IPv4Address}
    (hkeyed : Keyed routerID summaryLSAs)
    (hmoved : summaryLSA.header.lsaKey = ⟨id, routerID⟩)
    (hkey : lsaToReoriginate.header.lsaKey = ⟨addr, routerID⟩)
    (hplaces : Places (placement routerID summaryLSAs) d cost
      (update
        (update (placement routerID summaryLSAs) addr (some lsaToReoriginate.summary))
        id' (some summaryLSA.summary))) :
    Leads routerID summaryLSAs d cost (some (summaryLSA.moved id', some lsaToReoriginate)) := by
  intro _
  have hkey' : (summaryLSA.moved id').header.lsaKey = ⟨id', routerID⟩ :=
    SummaryLSA.lsaKey_moved hmoved
  refine ⟨?_, (hkeyed.installSummaryLSA _).installSummaryLSA _, fun key hne => ?_⟩
  · rw [installOriginated, placement_installSummaryLSA hkey', placement_installSummaryLSA hkey]
    exact hplaces
  · rw [installOriginated, installSummaryLSA_of_ne hkey' hne, installSummaryLSA_of_ne hkey hne]

theorem leads_originateDestination (hkeyed : Keyed router.routerID summaryLSAs)
    (hmasked : entry.destination &&& entry.netmask = entry.destination)
    (hok : IDOk (placement router.routerID summaryLSAs) ⟨entry.destination, entry.netmask⟩) :
    Leads router.routerID summaryLSAs
      ⟨.summaryLSANetworks, ⟨entry.destination, entry.netmask⟩⟩ entry.cost
      (originateDestination router area summaryLSAs entry) := by
  unfold originateDestination
  rcases getUniqueLinkStateID_cases hkeyed ⟨entry.destination, entry.netmask⟩ entry.cost with
    ⟨hle, hunique⟩ | ⟨foundLSA, lsaToReoriginate, hfound, hlt, hunique, hkey, hsummary⟩
  · rw [hunique]
    exact leads_newSummaryLSA hkeyed (places_chosenID hmasked hok hle)
  · rw [hunique]
    simp only [hfound, map_some]
    refine leads_moved hkeyed (hkeyed _ _ hfound) hkey ?_
    have hnetwork := ((hok _ (placement_eq_some hfound)).2.2 hlt).1
    rw [hsummary, show foundLSA.header.lsType = .summaryLSANetworks from hnetwork]
    exact places_longer hmasked hok (placement_eq_some hfound) hlt

theorem chosenID_of_longer (hy : f destination.address = some y)
    (hlt : destination.mask < y.networkMask) : chosenID f destination = destination.address := by
  rw [chosenID, hy, any_some, if_neg]
  rw [decide_eq_true_eq, BitVec.lt_def] at *
  exact not_lt.2 (le_of_lt hlt)

theorem leads_originateRange (hkeyed : Keyed router.routerID summaryLSAs)
    (hmasked : destination.address &&& destination.mask = destination.address)
    (hok : ⟨chosenID (placement router.routerID summaryLSAs) destination, router.routerID⟩ ∉
        originatedLSAs → IDOk (placement router.routerID summaryLSAs) destination ∧
      RangeOk (placement router.routerID summaryLSAs) entry destination
        (largestCost router destination)) :
    Leads router.routerID summaryLSAs ⟨.summaryLSANetworks, destination⟩
      (largestCost router destination)
      (originateRange router area summaryLSAs entry originatedLSAs destination) := by
  unfold originateRange
  rcases getUniqueLinkStateID_cases hkeyed destination (maxRangeCost router destination) with
    ⟨hle, hunique⟩ | ⟨foundLSA, lsaToReoriginate, hfound, hlt, hunique, hkey, hsummary⟩
  · rw [hunique]
    dsimp only
    split_ifs with horiginated
    · exact leads_none
    · obtain ⟨hid, hrange, -⟩ := hok horiginated
      obtain ⟨hmask, hcost⟩ := hrange hle
      refine leads_newSummaryLSA hkeyed ?_
      rw [hmask, hcost]
      exact places_chosenID hmasked hid hle
  · have hy := placement_eq_some hfound
    rw [hunique]
    dsimp only
    split_ifs with horiginated
    · exact leads_none
    · rw [OSPFLSAHeader.lsaKey] at hkey
      obtain ⟨hid, -, hmoves⟩ := hok (by
        rwa [chosenID_of_longer hy hlt, ← (LSAKeyType.mk.inj hkey).1])
      cases hlsa : summaryLSAs ⟨entry.destination, router.routerID⟩ with
      | none => exact leads_none
      | some summaryLSA =>
        have hsame := hmoves _ hy hlt _ (placement_eq_some hlsa)
        have hnetwork : foundLSA.header.lsType = .summaryLSANetworks := ((hid _ hy).2.2 hlt).1
        refine leads_moved hkeyed (hkeyed _ _ hlsa) hkey ?_
        rw [hsummary, hsame, hnetwork, ← largestCost_eq]
        exact places_longer hmasked hid hy hlt

/-- An origination that meets the condition leads to the summary of its destination. -/
theorem leads_originateSummaryLSA (hkeyed : Keyed o.router.routerID s.summaryLSAs)
    (hwf : o.WellFormed routerID) (hok : OriginationOk s o) :
    Leads o.router.routerID s.summaryLSAs o.summary.1 o.summary.2
      (originateSummaryLSA o.router o.area s.summaryLSAs o.entry o.originatedLSAs) := by
  unfold originateSummaryLSA
  unfold OriginationOk at hok
  unfold Origination.summary
  cases hsummarised : isSummarised o.router o.area o.entry with
  | false => exact leads_none
  | true =>
    have hok := hok hsummarised
    rw [if_neg (show ¬ true = false from nofun)]
    cases hasbr : o.entry.isASBoundaryRouter with
    | true =>
      rw [if_pos hasbr] at hok
      rw [if_pos rfl, if_pos rfl]
      split_ifs with hpreferred
      · exact leads_newSummaryLSA hkeyed (places_router (hok hpreferred))
      · exact leads_none
    | false =>
      have hmasked := hwf.entry hasbr
      rw [if_neg (by rw [hasbr]; exact Bool.false_ne_true)] at hok
      rw [if_neg Bool.false_ne_true, if_neg Bool.false_ne_true]
      by_cases hitself : o.standsForItself = true
      · rw [if_pos hitself] at hok ⊢
        have hleads : Leads o.router.routerID s.summaryLSAs _ _
            (originateDestination o.router o.area s.summaryLSAs o.entry) :=
          leads_originateDestination hkeyed hmasked hok
        rw [Origination.standsForItself, Bool.or_eq_true, beq_iff_eq] at hitself
        split_ifs with hinter hignores
        · exact hleads
        · exact hleads
        · exact absurd hitself (not_or.2 ⟨hinter, hignores⟩)
      · rw [if_neg hitself] at hok ⊢
        rw [Origination.standsForItself, Bool.or_eq_true, beq_iff_eq, not_or] at hitself
        rw [if_neg hitself.1, if_neg hitself.2]
        change Leads _ _ _ _ (if o.containingAddressRange.2 = true then originateRange o.router
          o.area s.summaryLSAs o.entry o.originatedLSAs o.containingAddressRange.1 else none)
        split_ifs with hadvertise
        · exact leads_originateRange hkeyed hwf.range_masked (hok hadvertise)
        · exact leads_none

/-! ### Runs -/

/-- What holds of the state in between. -/
structure Inv (routerID : RouterID) (s : State) : Prop where
  placed : Placed (placement routerID s.summaryLSAs)
  keyed : Keyed routerID s.summaryLSAs
  advertises : ∀ d cost,
    Advertises (placement routerID s.summaryLSAs) d cost ↔ s.summarised d = some cost

theorem Inv.summariesOk (h : Inv routerID s) : SummariesOk routerID s :=
  ⟨h.advertises, fun _ _ _ _ hx hy heq => h.placed.unique hx hy heq⟩

/-- The router has not originated anything yet. -/
theorem Inv.of_none (hlsas : ∀ id, s.summaryLSAs ⟨id, routerID⟩ = none)
    (hsummarised : ∀ d, s.summarised d = none) : Inv routerID s where
  placed := by
    intro id x hx
    rw [placement_eq_none (hlsas id)] at hx
    cases hx
  keyed := by
    intro id lsa hlsa
    rw [hlsas id] at hlsa
    cases hlsa
  advertises := by
    intro d cost
    rw [hsummarised d]
    refine iff_of_false ?_ nofun
    rintro ⟨id, x, hx, -⟩
    rw [placement_eq_none (hlsas id)] at hx
    cases hx

/-- One origination keeps the invariant, and the LSAs of other routers. -/
theorem Inv.step (hinv : Inv routerID s) (hwf : o.WellFormed routerID) (hok : OriginationOk s o)
    (h : step s o = .ok s') :
    Inv routerID s' ∧ ∀ key, key.advertisingRouter ≠ routerID →
      s'.summaryLSAs key = s.summaryLSAs key := by
  have hleads := leads_originateSummaryLSA (hwf.routerID ▸ hinv.keyed) hwf hok
  rw [hwf.routerID] at hleads
  cases h
  generalize originateSummaryLSA o.router o.area s.summaryLSAs o.entry o.originatedLSAs = result
    at hleads ⊢
  cases result with
  | none => exact ⟨hinv, fun _ _ => rfl⟩
  | some lsas =>
    have hinstalls := hleads rfl
    refine ⟨⟨hinstalls.places.placed hinv.placed, hinstalls.keyed, fun d cost => ?_⟩,
      hinstalls.others⟩
    rw [hinstalls.places.spec hinv.placed]
    simp only [isSome_some, if_true]
    by_cases hd : d = o.summary.1
    · rw [if_pos hd, hd, update_self, some_inj, eq_comm]
    · rw [if_neg hd, update_of_ne hd]
      exact hinv.advertises d cost

/-- In every history of originations that find a free link state ID and a range that their entry
stands for, each destination that has been summarised has one LSA, with its mask and its cost, and
nothing else of the router's is in the database. -/
theorem originations_ok {os : List Origination}
    (hlsas : ∀ id, s.summaryLSAs ⟨id, routerID⟩ = none) (hsummarised : ∀ d, s.summarised d = none)
    (h : Trace.Run step (fun s o => o.WellFormed routerID ∧ OriginationOk s o) s os s') :
    SummariesOk routerID s' ∧ ∀ key, key.advertisingRouter ≠ routerID →
      s'.summaryLSAs key = s.summaryLSAs key := by
  have hrun : Inv routerID s' ∧ ∀ key, key.advertisingRouter ≠ routerID →
      s'.summaryLSAs key = s.summaryLSAs key := by
    refine h.invariant (I := fun t => Inv routerID t ∧ ∀ key, key.advertisingRouter ≠ routerID →
      t.summaryLSAs key = s.summaryLSAs key) ?_ ⟨.of_none hlsas hsummarised, fun _ _ => rfl⟩
    rintro t o t' ⟨hinv, hothers⟩ ⟨hwf, hok⟩ hstep
    obtain ⟨hinv', hothers'⟩ := hinv.step hwf hok hstep
    exact ⟨hinv', fun key hkey => (hothers' key hkey).trans (hothers key hkey)⟩
  exact ⟨hrun.1.summariesOk, hrun.2⟩

/-! ### Samples -/

/-- A router with an interface in the backbone and one in an area with the address ranges. -/
def sampleRouter (ranges : List (IPv4AddressRange × Bool)) (routingTable : List RoutingTableEntry) :
    Router where
  routerID := 0x01010101
  rfc1583Compatibility := false
  areas := [⟨backboneAreaID, true, false, [], [⟨false, 1⟩]⟩, ⟨1, true, false, ranges, [⟨false, 2⟩]⟩]
  routingTable := routingTable

/-- A network of the area. -/
def sampleEntry (destination netmask : IPv4Address) (cost : Metric) : RoutingTableEntry where
  destination := destination
  netmask := netmask
  area := 1
  cost := cost
  nextHops := [⟨2, 0x0A010002, 0x01010101⟩]

/-- The entry is summarised into the backbone. -/
def sampleOrigination (router : Router) (entry : RoutingTableEntry) : Origination where
  router := router
  area := ⟨backboneAreaID, true, false, [], [⟨false, 1⟩]⟩
  entry := entry
  originatedLSAs := []

/-- The router has no LSAs. -/
def sampleState : State := ⟨fun _ => none, fun _ => none⟩

/-- 10.1.0.0/24 and then 10.1.0.0/16 are summarised. -/
def sampleOriginations : List Origination :=
  let longer := sampleEntry 0x0A010000 0xFFFFFF00 10
  let shorter := sampleEntry 0x0A010000 0xFFFF0000 20
  let router := sampleRouter [] [longer, shorter]
  [sampleOrigination router longer, sampleOrigination router shorter]

theorem originations_ok_sample : ∃ s, SummariesOk 0x01010101 s ∧
    placement 0x01010101 s.summaryLSAs 0x0A010000 = some ⟨.summaryLSANetworks, 0xFFFF0000, 20⟩ ∧
    placement 0x01010101 s.summaryLSAs 0x0A0100FF = some ⟨.summaryLSANetworks, 0xFFFFFF00, 10⟩ := by
  have hrun : ∃ s, Trace.Run step (fun s o => o.WellFormed 0x01010101 ∧ OriginationOk s o)
      sampleState sampleOriginations s ∧
        (placement 0x01010101 s.summaryLSAs 0x0A010000,
          placement 0x01010101 s.summaryLSAs 0x0A0100FF) =
        (some ⟨.summaryLSANetworks, 0xFFFF0000, 20⟩, some ⟨.summaryLSANetworks, 0xFFFFFF00, 10⟩) :=
    Trace.exists_run_of_exec (by decide +kernel)
  obtain ⟨s, hs, hplaced⟩ := hrun
  obtain ⟨hshorter, hlonger⟩ := Prod.mk.inj hplaced
  exact ⟨s, (originations_ok (fun _ => rfl) (fun _ => rfl) hs).1, hshorter, hlonger⟩

/-- A network of the address range 10.1.0.0/16, which also contains 10.1.2.0/24. -/
def sampleComponent : Origination :=
  let component := sampleEntry 0x0A010100 0xFFFFFF00 10
  sampleOrigination (sampleRouter [(⟨0x0A010000, 0xFFFF0000⟩, true)]
    [component, sampleEntry 0x0A010200 0xFFFFFF00 20]) component

/-- The LSA for 10.1.0.0/16 with the mask and the cost of its component 10.1.1.0/24. -/
theorem not_originations_ok : ∃ s,
    Trace.Run step (fun _ o => o.WellFormed 0x01010101) sampleState [sampleComponent] s ∧
      ¬ SummariesOk 0x01010101 s := by
  refine ⟨_, .cons (by decide +kernel) rfl (.nil _), fun h => ?_⟩
  have hsummarised := (h.advertises ⟨.summaryLSANetworks, ⟨0x0A010000, 0xFFFFFF00⟩⟩ 10).1
    ⟨0x0A010000, ⟨.summaryLSANetworks, 0xFFFFFF00, 10⟩, by decide +kernel, rfl, rfl⟩
  revert hsummarised
  decide +kernel

end SummaryOrigination

end OSPF

end Hiwis
