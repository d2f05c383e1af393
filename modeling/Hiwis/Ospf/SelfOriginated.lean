import Hiwis.Lib.FirstMatch
import Hiwis.Ospf.LinkStateUpdate

/-!
# The router's own LSAs in the database

An update packet may hold instances of LSAs that the router originates itself.  A newer one is
installed like any other; the copy then gets a greater sequence number, but keeps the contents that
were received.

* `OSPF.OSPFLSAHeader.NotOlder` : what may take the place of an LSA in the database;
* `OSPF.LinkStateUpdate.changeState_spec` : a neighbour that changes its state;
* `OSPF.LinkStateUpdate.not_ownCopiesOk_of_foreign` : a newer instance with other contents;
* `OSPF.LinkStateUpdate.processPacket_keeps` : what the router's own LSAs are after an update;
* `OSPF.LinkStateUpdate.not_keeps_ownCopiesOk` : an update after which the router advertises the
  links that another router made up.
-/

namespace Hiwis

open List Function

namespace OSPF

namespace OSPFLSAHeader

variable {h h' h'' : OSPFLSAHeader}

/-! ### Instances of an LSA -/

theorem isOlder_iff : h.isOlder h' = true ↔ h.lsSequenceNumber < h'.lsSequenceNumber ∨
    h.lsSequenceNumber = h'.lsSequenceNumber ∧ h.lsAge ≠ maxAge ∧
      (h'.lsAge = maxAge ∨ h'.lsAge + maxAgeDiff < h.lsAge) := by
  rw [isOlder]
  split_ifs with hlt heq hnew hmax
  · exact iff_of_true rfl (.inl hlt)
  · exact iff_of_true rfl (.inr ⟨heq, hnew.1, .inl hnew.2⟩)
  · refine iff_of_false id ?_
    omega
  · rw [decide_eq_true_eq]
    simp only [maxAgeDiff]
    omega
  · refine iff_of_false id ?_
    omega

theorem isOlder_trans (h1 : h.isOlder h' = true) (h2 : h'.isOlder h'' = true) :
    h.isOlder h'' = true := by
  rw [isOlder_iff] at *
  omega

theorem lsSequenceNumber_le_of_isOlder (hlt : h.isOlder h' = true) :
    h.lsSequenceNumber ≤ h'.lsSequenceNumber := by
  rw [isOlder_iff] at hlt
  omega

/-- The second header is that of the same instance, or of a newer one. -/
def NotOlder (h h' : OSPFLSAHeader) : Prop := h' = h ∨ h.isOlder h' = true

namespace NotOlder

theorem refl (h : OSPFLSAHeader) : NotOlder h h := .inl rfl

theorem trans (h1 : NotOlder h h') (h2 : NotOlder h' h'') : NotOlder h h'' := by
  rcases h1 with rfl | h1
  · exact h2
  · rcases h2 with rfl | h2
    · exact .inr h1
    · exact .inr (isOlder_trans h1 h2)

/-- A flushed LSA is not older. -/
theorem of_maxAge (h : OSPFLSAHeader) : NotOlder h { h with lsAge := maxAge } := by
  by_cases hage : h.lsAge = maxAge
  · left
    rw [← hage]
  · exact .inr (isOlder_iff.2 (.inr ⟨rfl, hage, .inl rfl⟩))

theorem of_lt (hlt : h.lsSequenceNumber < h'.lsSequenceNumber) : NotOlder h h' :=
  .inr (isOlder_iff.2 (.inl hlt))

end NotOlder

end OSPFLSAHeader

open OSPFLSAHeader

namespace LinkStateUpdate

variable {s s' : State} {area : Area} {db db' : Database} {lsa lsa' : DatabaseLSA}
  {slot slot' : Slot} {p : NeighborPtr} {newState : NeighborStateType} {r : ReceivedLSA}
  {received : List ReceivedLSA} {completed : List NeighborPtr}

/-! ### What the router originates -/

/-- The options and the body of an LSA. -/
def content (lsa : OSPFLSA LSAContents) : OSPFOptions × LSABody :=
  (lsa.contents.lsOptions, lsa.contents.body)

/-- The contents with which the router originates an LSA. -/
inductive Originates (area : Area) : Slot → OSPFOptions × LSABody → Prop
  | routerLSA : Originates area (ownSlot area) (content (originateRouterLSA area))
  | networkLSA {intf : AreaInterface} {lsa : OSPFLSA LSAContents} :
      intf ∈ area.associatedInterfaces → intf.state = .designatedRouter →
      originateNetworkLSA area intf = some lsa →
      Originates area (networkSlot intf) (content lsa)

/-- The place of an LSA that only this router originates: its router LSA, and the network LSA of a
network of which it is the Designated Router. -/
def IsOwnSlot (area : Area) (slot : Slot) : Prop :=
  slot = ownSlot area ∨ ∃ intf ∈ area.associatedInterfaces,
    intf.state = .designatedRouter ∧ slot = networkSlot intf

variable {c : OSPFOptions × LSABody}

theorem Originates.isOwnSlot (h : Originates area slot c) : IsOwnSlot area slot := by
  cases h with
  | routerLSA => exact .inl rfl
  | networkLSA hmem hstate _ => exact .inr ⟨_, hmem, hstate, rfl⟩

/-! ### The state of a neighbour -/

/-- What a router LSA says of a neighbour. -/
def view (neighbor : Neighbor) : Bool × RouterID × IPv4Address :=
  (AreaInterface.isFull neighbor, neighbor.neighborID, neighbor.neighborIPAddress)

namespace AreaInterface

variable {intf : AreaInterface} {neighbors : List Neighbor}

/-- The interface with other neighbours. -/
def withNeighbors (intf : AreaInterface) (neighbors : List Neighbor) : AreaInterface :=
  { intf with neighboringRouters := neighbors }

theorem withNeighbors_state : (intf.withNeighbors neighbors).state = intf.state := rfl

theorem withNeighbors_interfaceType :
    (intf.withNeighbors neighbors).interfaceType = intf.interfaceType := rfl

section

variable (h : neighbors.map view = intf.neighboringRouters.map view)
include h

theorem hasFullNeighbor_congr :
    (intf.withNeighbors neighbors).hasFullNeighbor = intf.hasFullNeighbor := by
  have heq := congrArg (any · (·.1)) h
  simp only [any_map] at heq
  exact heq

theorem attachedRouters_congr :
    (neighbors.filter isFull).map (·.neighborID) =
      (intf.neighboringRouters.filter isFull).map (·.neighborID) := by
  have heq := congrArg (fun l => (List.filter (·.1) l).map (·.2.1)) h
  simp only [filter_map, map_map] at heq
  exact heq

theorem getNeighborByAddress_congr (address : IPv4Address) :
    ((intf.withNeighbors neighbors).getNeighborByAddress address).any isFull =
      (intf.getNeighborByAddress address).any isFull := by
  have heq := congrArg (fun l => (find? (·.2.2 == address) l).any (·.1)) h
  simp only [find?_map, Option.any_map] at heq
  exact heq

end

variable {neighbor neighbor' : Neighbor}

theorem pointToPointLinks_congr (h : view neighbor' = view neighbor) :
    (intf.withNeighbors neighbors).pointToPointLinks neighbor' =
      intf.pointToPointLinks neighbor := by
  simp only [view, Prod.mk.injEq] at h
  obtain ⟨hfull, hid, haddress⟩ := h
  simp only [pointToPointLinks, hfull, hid, haddress]
  rfl

theorem transitLink_congr (h : neighbors.map view = intf.neighboringRouters.map view)
    (routerID : RouterID) :
    (intf.withNeighbors neighbors).transitLink routerID = intf.transitLink routerID := by
  simp only [transitLink, getNeighborByAddress_congr h, hasFullNeighbor_congr h]
  rfl

theorem virtualLinks_congr (h : view neighbor' = view neighbor) :
    (intf.withNeighbors neighbors).virtualLinks neighbor' = intf.virtualLinks neighbor := by
  simp only [view, Prod.mk.injEq] at h
  simp only [virtualLinks, h.1, h.2.1]
  rfl

theorem upLinks_congr (h : neighbors.map view = intf.neighboringRouters.map view)
    (routerID : RouterID) :
    (intf.withNeighbors neighbors).upLinks routerID = intf.upLinks routerID := by
  -- the links that only the first neighbour matters to
  have hhead : ∀ {f g : Neighbor → List Link},
      (∀ {n n' : Neighbor}, view n' = view n → g n' = f n) →
        neighbors.head?.elim [] g = intf.neighboringRouters.head?.elim [] f := by
    intro f g hfg
    have hviews : neighbors.head?.map view = intf.neighboringRouters.head?.map view := by
      rw [← head?_map, h, head?_map]
    cases hn' : neighbors.head? with
    | none =>
      rw [hn', Option.map_none, eq_comm, Option.map_eq_none_iff] at hviews
      rw [hviews]
      rfl
    | some n' =>
      rw [hn', Option.map_some, eq_comm, Option.map_eq_some_iff] at hviews
      obtain ⟨n, hn, hview⟩ := hviews
      rw [hn]
      exact hfg hview.symm
  have hmulti : (neighbors.filter isFull).map (fun _ => intf.hostStub) =
      (intf.neighboringRouters.filter isFull).map fun _ => intf.hostStub := by
    have hlength := congrArg List.length (attachedRouters_congr h)
    rw [length_map, length_map] at hlength
    rw [map_const', map_const', hlength]
  unfold upLinks
  rw [withNeighbors_interfaceType]
  cases intf.interfaceType with
  | pointToPoint => exact hhead pointToPointLinks_congr
  | broadcast => exact congrArg (fun l => [l]) (transitLink_congr h routerID)
  | nbma => exact congrArg (fun l => [l]) (transitLink_congr h routerID)
  | virtual => exact hhead virtualLinks_congr
  | pointToMultipoint => exact congrArg (intf.hostStub :: ·) hmulti
  | unknownType => rfl

/-- The links depend on the view of the neighbours only. -/
theorem links_congr (h : neighbors.map view = intf.neighboringRouters.map view)
    (routerID : RouterID) :
    (intf.withNeighbors neighbors).links routerID = intf.links routerID := by
  have hup := upLinks_congr h routerID
  unfold links
  rw [withNeighbors_state]
  cases intf.state with
  | down => rfl
  | loopback => rfl
  | _ => exact hup

/-- A neighbour changes its state, but not whether it is full. -/
theorem views_setNeighborState {neighbor : Neighbor} {j : ℕ}
    (hj : intf.neighboringRouters[j]? = some neighbor)
    (hfull : neighbor.state ≠ .full) (hnew : newState ≠ .full) :
    (intf.setNeighborState j newState).neighboringRouters.map view =
      intf.neighboringRouters.map view := by
  refine map_modify_of_getElem? fun n hn => ?_
  cases hj.symm.trans hn
  simp [view, isFull, hfull, hnew]

end AreaInterface

namespace Area

theorem getNeighbor_eq_some_iff {intf : AreaInterface} {neighbor : Neighbor} :
    area.getNeighbor p = some (intf, neighbor) ↔ area.associatedInterfaces[p.1]? = some intf ∧
      intf.neighboringRouters[p.2]? = some neighbor := by
  rw [getNeighbor, Option.bind_eq_some_iff]
  constructor
  · rintro ⟨intf', hintf, hneighbor⟩
    obtain ⟨neighbor', hj, heq⟩ := Option.map_eq_some_iff.1 hneighbor
    cases heq
    exact ⟨hintf, hj⟩
  · rintro ⟨hintf, hneighbor⟩
    exact ⟨intf, hintf, Option.map_eq_some_iff.2 ⟨neighbor, hneighbor, rfl⟩⟩

@[simp] theorem setNeighborState_routerID :
    (area.setNeighborState p newState).routerID = area.routerID := rfl

theorem getElem?_setNeighborState (k : ℕ) :
    (area.setNeighborState p newState).associatedInterfaces[k]? =
      if p.1 = k then area.associatedInterfaces[k]?.map (·.setNeighborState p.2 newState)
      else area.associatedInterfaces[k]? := by
  rw [setNeighborState, getElem?_modify]
  split_ifs with hk <;> simp

end Area

theorem originates_iff : Originates area slot c ↔
    slot = ownSlot area ∧ c = content (originateRouterLSA area) ∨
      ∃ (k : ℕ) (intf : AreaInterface), area.associatedInterfaces[k]? = some intf ∧
        intf.state = .designatedRouter ∧ slot = networkSlot intf ∧
          ∃ lsa, originateNetworkLSA area intf = some lsa ∧ c = content lsa := by
  constructor
  · intro h
    cases h with
    | routerLSA => exact .inl ⟨rfl, rfl⟩
    | networkLSA hmem hstate hlsa =>
      obtain ⟨k, hk⟩ := mem_iff_getElem?.1 hmem
      exact .inr ⟨k, _, hk, hstate, rfl, _, hlsa, rfl⟩
  · rintro (⟨rfl, rfl⟩ | ⟨k, intf, hk, hstate, rfl, lsa, hlsa, rfl⟩)
    · exact .routerLSA
    · exact .networkLSA (mem_of_getElem? hk) hstate hlsa

theorem originateNetworkLSA_congr {intf : AreaInterface} {j : ℕ}
    (h : (intf.setNeighborState j newState).neighboringRouters.map view =
      intf.neighboringRouters.map view) :
    originateNetworkLSA (area.setNeighborState p newState) (intf.setNeighborState j newState) =
      originateNetworkLSA area intf := by
  have hany : (intf.setNeighborState j newState).hasFullNeighbor = intf.hasFullNeighbor :=
    AreaInterface.hasFullNeighbor_congr h
  have hattached := AreaInterface.attachedRouters_congr h
  unfold originateNetworkLSA
  rw [hany, hattached]
  rfl

/-- The change of state makes the router originate the LSA again. -/
def Concerns (area : Area) (p : NeighborPtr) (newState : NeighborStateType) (slot : Slot) : Prop :=
  ∃ intf neighbor, area.getNeighbor p = some (intf, neighbor) ∧
    (neighbor.state = .full ∨ newState = .full) ∧
      (slot = ownSlot area ∨ intf.state = .designatedRouter ∧ slot = networkSlot intf)

/-- What the router originates of the other LSAs does not change. -/
theorem originates_setNeighborState {intf : AreaInterface} {neighbor : Neighbor}
    (hp : area.getNeighbor p = some (intf, neighbor)) (hslot : ¬Concerns area p newState slot) :
    Originates (area.setNeighborState p newState) slot c ↔ Originates area slot c := by
  obtain ⟨hintf, hneighbor⟩ := Area.getNeighbor_eq_some_iff.1 hp
  rw [originates_iff, originates_iff]
  have hviews : ∀ {slot'}, slot = slot' →
      (slot' = ownSlot area ∨ intf.state = .designatedRouter ∧ slot' = networkSlot intf) →
        (intf.setNeighborState p.2 newState).neighboringRouters.map view =
          intf.neighboringRouters.map view := by
    rintro _ rfl hcase
    have hnot : ¬(neighbor.state = .full ∨ newState = .full) := fun hfull =>
      hslot ⟨intf, neighbor, hp, hfull, hcase⟩
    rw [not_or] at hnot
    exact AreaInterface.views_setNeighborState hneighbor hnot.1 hnot.2
  refine or_congr (and_congr_right fun hown => ?_) (exists_congr fun k => ?_)
  · have hlinks : (area.setNeighborState p newState).associatedInterfaces.map
        (AreaInterface.links area.routerID) =
          area.associatedInterfaces.map (AreaInterface.links area.routerID) := by
      refine map_modify_of_getElem? fun intf' hintf' => ?_
      cases hintf.symm.trans hintf'
      exact AreaInterface.links_congr (hviews rfl (.inl hown)) _
    have hflat := congrArg flatten hlinks
    rw [← flatMap_def, ← flatMap_def] at hflat
    have heq : originateRouterLSA (area.setNeighborState p newState) = originateRouterLSA area := by
      unfold originateRouterLSA
      simp only [Area.setNeighborState_routerID, hflat]
      rfl
    rw [heq]
  · rw [Area.getElem?_setNeighborState]
    by_cases hk : p.1 = k
    · subst hk
      rw [hintf, if_pos rfl]
      simp only [Option.map_some, Option.some.injEq, exists_eq_left']
      refine and_congr_right fun hstate => and_congr_right fun hnet => ?_
      rw [originateNetworkLSA_congr (hviews rfl (.inr ⟨hstate, hnet⟩))]
    · rw [if_neg hk]
      rfl

/-- What does not change with the neighbours. -/
structure SameInterfaces (area area' : Area) : Prop where
  routerID : area'.routerID = area.routerID
  interfaces : area'.associatedInterfaces.map (fun intf => (intf.state, intf.address)) =
    area.associatedInterfaces.map fun intf => (intf.state, intf.address)

namespace SameInterfaces

variable {area' area'' : Area}

theorem refl (area : Area) : SameInterfaces area area := ⟨rfl, rfl⟩

theorem trans (h1 : SameInterfaces area area') (h2 : SameInterfaces area' area'') :
    SameInterfaces area area'' :=
  ⟨h2.routerID.trans h1.routerID, h2.interfaces.trans h1.interfaces⟩

theorem setNeighborState (area : Area) (p : NeighborPtr) (newState : NeighborStateType) :
    SameInterfaces area (area.setNeighborState p newState) :=
  ⟨rfl, map_modify_of_getElem? fun _ _ => rfl⟩

theorem isOwnSlot_iff (h : SameInterfaces area area') :
    IsOwnSlot area' slot ↔ IsOwnSlot area slot := by
  have hmem : ∀ area : Area, (∃ intf ∈ area.associatedInterfaces,
      intf.state = .designatedRouter ∧ slot = networkSlot intf) ↔
        ∃ q ∈ area.associatedInterfaces.map fun intf => (intf.state, intf.address),
          q.1 = .designatedRouter ∧ slot = (.networkLSA, .byLinkStateID q.2) := by
    intro area
    simp only [mem_map, exists_exists_and_eq_and]
    rfl
  rw [IsOwnSlot, IsOwnSlot, hmem, hmem, h.interfaces, ownSlot, ownSlot, h.routerID]

theorem isSelfOriginated_eq (h : SameInterfaces area area') (header : OSPFLSAHeader) :
    isSelfOriginated area' header = isSelfOriginated area header := by
  have hlocal : ∀ area : Area, area.isLocalAddress header.linkStateID =
      (area.associatedInterfaces.map fun intf => (intf.state, intf.address)).any
        fun q => q.2 == header.linkStateID := by
    intro area
    rw [any_map]
    rfl
  rw [isSelfOriginated, isSelfOriginated, hlocal, hlocal, h.interfaces, h.routerID]

end SameInterfaces

/-- What becomes of an LSA that the router originates again. -/
inductive Reoriginated (area : Area) (slot : Slot) (lsa : DatabaseLSA) : DatabaseLSA → Prop
  | flushed : Reoriginated area slot lsa (lsa.setLsAge maxAge).incrementInstallTime
  | originated {lsa' : DatabaseLSA} : Originates area slot (content lsa'.toOSPFLSA) →
      lsa'.header.lsSequenceNumber = lsa.header.lsSequenceNumber + 1 →
      Reoriginated area slot lsa lsa'

variable {newLSA : Option (OSPFLSA LSAContents)}

theorem reoriginated_spec (hnew : ∀ new, newLSA = some new → Originates area slot (content new)) :
    Reoriginated area slot lsa (reoriginated lsa newLSA) := by
  unfold reoriginated
  cases newLSA with
  | none => exact .flushed
  | some new =>
    simp only
    split_ifs
    · exact .flushed
    · exact .originated (hnew new rfl) rfl

/-- What a change of state of a neighbour makes of an LSA. -/
inductive Affected (s s' : State) (slot : Slot) : Prop
  | same : s'.database slot = s.database slot →
      (∀ c, Originates s'.area slot c ↔ Originates s.area slot c) → Affected s s' slot
  | reoriginated : s'.database slot = (s.database slot).map f →
      (∀ lsa, Reoriginated s'.area slot lsa (f lsa)) → Affected s s' slot

theorem affected_refl (s : State) (slot : Slot) : Affected s s slot := .same rfl fun _ => Iff.rfl

theorem reoriginate_of_ne (h : slot' ≠ slot) : reoriginate db slot newLSA slot' = db slot' :=
  update_of_ne h _ _

theorem reoriginate_self :
    reoriginate db slot newLSA slot = (db slot).map (reoriginated · newLSA) :=
  update_self _ _ _

theorem ownSlot_ne_networkSlot {intf : AreaInterface} : ownSlot area ≠ networkSlot intf := by
  intro h
  cases congrArg Prod.fst h

/-- A neighbour changes its state. -/
theorem changeState_spec (s : State) (p : NeighborPtr) (newState : NeighborStateType) :
    SameInterfaces s.area (s.changeState p newState).area ∧
      ∀ slot, Affected s (s.changeState p newState) slot := by
  unfold State.changeState
  cases hp : s.area.getNeighbor p with
  | none => exact ⟨.refl _, affected_refl s⟩
  | some q =>
    obtain ⟨intf, neighbor⟩ := q
    obtain ⟨hintf, hneighbor⟩ := Area.getNeighbor_eq_some_iff.1 hp
    have hsame := SameInterfaces.setNeighborState s.area p newState
    have hmem : intf.setNeighborState p.2 newState ∈
        (s.area.setNeighborState p newState).associatedInterfaces := by
      refine mem_of_getElem? (i := p.1) ?_
      rw [Area.getElem?_setNeighborState, if_pos rfl, hintf]
      rfl
    have hother : ∀ {slot}, ¬Concerns s.area p newState slot → ∀ c,
        Originates (s.area.setNeighborState p newState) slot c ↔ Originates s.area slot c :=
      fun hslot c => originates_setNeighborState hp hslot
    have hownLSA : ∀ lsa, Reoriginated (s.area.setNeighborState p newState) (ownSlot s.area) lsa
        (reoriginated lsa (some (originateRouterLSA (s.area.setNeighborState p newState)))) := by
      intro lsa
      refine reoriginated_spec fun new hnew => ?_
      cases hnew
      exact .routerLSA
    simp only
    split_ifs with hfull hstate
    · refine ⟨hsame, fun slot => ?_⟩
      by_cases hown : slot = ownSlot s.area
      · subst hown
        refine .reoriginated ?_ hownLSA
        have hne : ownSlot s.area ≠ networkSlot (intf.setNeighborState p.2 newState) :=
          ownSlot_ne_networkSlot
        simp only [reoriginate_of_ne hne]
        exact reoriginate_self
      · by_cases hnet : slot = networkSlot intf
        · subst hnet
          have hnetLSA : ∀ lsa, Reoriginated (s.area.setNeighborState p newState)
              (networkSlot intf) lsa (reoriginated lsa (originateNetworkLSA
                (s.area.setNeighborState p newState) (intf.setNeighborState p.2 newState))) := by
            intro lsa
            refine reoriginated_spec fun new hnew => ?_
            have hnet := Originates.networkLSA hmem hstate hnew
            exact hnet
          refine .reoriginated ?_ hnetLSA
          have hne : networkSlot intf ≠ ownSlot (s.area.setNeighborState p newState) :=
            ownSlot_ne_networkSlot.symm
          exact reoriginate_self.trans (congrArg (Option.map _) (reoriginate_of_ne hne))
        · refine .same ((reoriginate_of_ne hnet).trans (reoriginate_of_ne hown)) (hother ?_)
          rintro ⟨intf', neighbor', hp', -, hslot⟩
          cases Option.some.inj (hp.symm.trans hp')
          exact hslot.elim hown fun hand => hnet hand.2
    · refine ⟨hsame, fun slot => ?_⟩
      by_cases hown : slot = ownSlot s.area
      · subst hown
        exact .reoriginated reoriginate_self hownLSA
      · refine .same (reoriginate_of_ne hown) (hother ?_)
        rintro ⟨intf', neighbor', hp', -, hslot⟩
        cases Option.some.inj (hp.symm.trans hp')
        exact hslot.elim hown fun hand => hstate hand.1
    · refine ⟨hsame, fun slot => .same rfl (hother ?_)⟩
      rintro ⟨intf', neighbor', hp', hfull', -⟩
      cases Option.some.inj (hp.symm.trans hp')
      exact hfull hfull'

/-! ### What should hold of the database -/

/-- No LSA is replaced by an older instance. -/
def NeverOlder (db db' : Database) : Prop :=
  ∀ slot lsa, db slot = some lsa → ∃ lsa', db' slot = some lsa' ∧ NotOlder lsa.header lsa'.header

namespace NeverOlder

variable {db'' : Database}

theorem refl (db : Database) : NeverOlder db db := fun _ lsa h => ⟨lsa, h, .refl _⟩

theorem trans (h1 : NeverOlder db db') (h2 : NeverOlder db' db'') : NeverOlder db db'' := by
  intro slot lsa h
  obtain ⟨lsa', h', hle⟩ := h1 slot lsa h
  obtain ⟨lsa'', h'', hle'⟩ := h2 slot lsa' h'
  exact ⟨lsa'', h'', hle.trans hle'⟩

end NeverOlder

/-- A copy that is being flushed, or has the contents that the router would originate.  Its sequence
number is larger than that of all received instances other than itself; a copy that is flushed may
have the last sequence number. -/
def CopyOk (area : Area) (slot : Slot) (received : List ReceivedLSA) (lsa : DatabaseLSA) : Prop :=
  lsa.header.lsAge = maxAge ∧ (∀ r ∈ received, r.slot = slot →
      r.lsa.header.lsSequenceNumber ≤ lsa.header.lsSequenceNumber) ∨
    Originates area slot (content lsa.toOSPFLSA) ∧ ∀ r ∈ received, r.slot = slot →
      r.lsa.header.lsSequenceNumber < lsa.header.lsSequenceNumber ∨
        r.lsa.header.lsSequenceNumber = lsa.header.lsSequenceNumber ∧
          content r.lsa = content lsa.toOSPFLSA

/-- The copies of the LSAs that the router originates are as they should be. -/
def OwnCopiesOk (s : State) (received : List ReceivedLSA) : Prop :=
  ∀ slot c lsa, Originates s.area slot c → s.database slot = some lsa →
    CopyOk s.area slot received lsa

/-- No received instance of an own LSA has a larger sequence number than the copy. -/
def Bounded (s : State) (received : List ReceivedLSA) : Prop :=
  ∀ slot lsa, IsOwnSlot s.area slot → s.database slot = some lsa → ∀ r ∈ received, r.slot = slot →
    r.lsa.header.lsSequenceNumber ≤ lsa.header.lsSequenceNumber

/-- What the loop keeps. -/
structure Inv (s : State) (received : List ReceivedLSA) : Prop where
  ownCopiesOk : OwnCopiesOk s received
  bounded : Bounded s received

theorem CopyOk.congr (h : CopyOk area slot received lsa) {area' : Area}
    (hiff : ∀ c, Originates area' slot c ↔ Originates area slot c) :
    CopyOk area' slot received lsa :=
  h.imp_right fun hand => ⟨(hiff _).2 hand.1, hand.2⟩

/-- An instance of another LSA. -/
theorem CopyOk.cons (h : CopyOk area slot received lsa) (hne : r.slot ≠ slot) :
    CopyOk area slot (r :: received) lsa := by
  refine h.imp (fun hand => ⟨hand.1, ?_⟩) fun hand => ⟨hand.1, ?_⟩
  · exact forall_mem_cons.2 ⟨fun heq => absurd heq hne, hand.2⟩
  · exact forall_mem_cons.2 ⟨fun heq => absurd heq hne, hand.2⟩

theorem Inv.of_ownCopiesOk (h : OwnCopiesOk s []) : Inv s [] where
  ownCopiesOk := h
  bounded := fun _ _ _ _ _ hr => absurd hr not_mem_nil

/-! ### Changes of state of the neighbours -/

theorem Inv.changeState (h : Inv s received) (p : NeighborPtr) (newState : NeighborStateType) :
    Inv (s.changeState p newState) received := by
  obtain ⟨hsame, haffected⟩ := changeState_spec s p newState
  constructor
  · intro slot c lsa' horig hlsa'
    cases haffected slot with
    | same hdb hiff =>
      rw [hdb] at hlsa'
      exact (h.ownCopiesOk slot c lsa' ((hiff c).1 horig) hlsa').congr hiff
    | @reoriginated f hdb hre =>
      rw [hdb, Option.map_eq_some_iff] at hlsa'
      obtain ⟨lsa, hlsa, rfl⟩ := hlsa'
      have hle := h.bounded slot lsa (hsame.isOwnSlot_iff.1 horig.isOwnSlot) hlsa
      have hcopy := hre lsa
      generalize f lsa = lsa' at hcopy
      cases hcopy with
      | flushed => exact .inl ⟨rfl, hle⟩
      | originated hcontent hseq =>
        refine .inr ⟨hcontent, fun r hr heq => .inl ?_⟩
        have := hle r hr heq
        omega
  · intro slot lsa' hown hlsa' r hr heq
    cases haffected slot with
    | same hdb hiff =>
      rw [hdb] at hlsa'
      exact h.bounded slot lsa' (hsame.isOwnSlot_iff.1 hown) hlsa' r hr heq
    | @reoriginated f hdb hre =>
      rw [hdb, Option.map_eq_some_iff] at hlsa'
      obtain ⟨lsa, hlsa, rfl⟩ := hlsa'
      have hle := h.bounded slot lsa (hsame.isOwnSlot_iff.1 hown) hlsa r hr heq
      have hcopy := hre lsa
      generalize f lsa = lsa' at hcopy
      cases hcopy with
      | flushed => exact hle
      | originated _ hseq => omega

theorem Reoriginated.notOlder (h : Reoriginated area slot lsa lsa') :
    NotOlder lsa.header lsa'.header := by
  cases h with
  | flushed => exact .of_maxAge _
  | originated _ hseq => exact .of_lt (by omega)

theorem neverOlder_changeState (s : State) (p : NeighborPtr) (newState : NeighborStateType) :
    NeverOlder s.database (s.changeState p newState).database := by
  intro slot lsa hlsa
  cases (changeState_spec s p newState).2 slot with
  | same hdb _ => exact ⟨lsa, hdb.trans hlsa, .refl _⟩
  | @reoriginated f hdb hre =>
    exact ⟨f lsa, by rw [hdb, hlsa, Option.map_some], (hre lsa).notOlder⟩

/-- What every neighbour that becomes full keeps. -/
theorem floodLSA_induction {P : State → Prop} (h : P s)
    (hstep : ∀ s p, P s → P (s.changeState p .full)) : P (s.floodLSA completed) := by
  unfold State.floodLSA
  induction completed generalizing s with
  | nil => exact h
  | cons p ps ih => exact ih (hstep s p h)

theorem Inv.floodLSA (h : Inv s received) (completed : List NeighborPtr) :
    Inv (s.floodLSA completed) received :=
  floodLSA_induction (P := fun s => Inv s received) h fun _ p h => h.changeState p .full

theorem sameInterfaces_floodLSA (s : State) (completed : List NeighborPtr) :
    SameInterfaces s.area (s.floodLSA completed).area :=
  floodLSA_induction (P := fun s' => SameInterfaces s.area s'.area) (.refl _)
    fun s' p h => h.trans (changeState_spec s' p .full).1

theorem neverOlder_floodLSA (s : State) (completed : List NeighborPtr) :
    NeverOlder s.database (s.floodLSA completed).database :=
  floodLSA_induction (P := fun s' => NeverOlder s.database s'.database) (.refl _)
    fun s' p h => h.trans (neverOlder_changeState s' p .full)

/-! ### Installing -/

/-- What an installed LSA does to the other places: an equivalent one of this router is flushed. -/
inductive Installed (db : Database) (slot : Slot) (db' : Database) : Prop
  | same : db' slot = db slot → Installed db slot db'
  | flushed {own : DatabaseLSA} : slot.1 = .asExternalLSA → db slot = some own →
      db' slot = some (own.setLsAge maxAge).incrementInstallTime → Installed db slot db'

theorem install_of_ne {lsa : OSPFLSA LSAContents} (h : slot ≠ LinkStateUpdate.slot lsa.header) :
    (install db lsa).1 slot = db slot :=
  update_of_ne h _ _

theorem install_self (db : Database) (lsa : OSPFLSA LSAContents) :
    (install db lsa).1 (LinkStateUpdate.slot lsa.header) = some (installed lsa) :=
  update_self _ _ _

theorem installLSA_of_ne {routerID : RouterID} {reachable : Bool} {lsa : OSPFLSA LSAContents}
    (h : slot ≠ LinkStateUpdate.slot lsa.header) :
    Installed db slot (installLSA routerID reachable db lsa).1 := by
  unfold installLSA
  split
  · unfold installASExternalLSA
    simp only
    split
    · exact .same (install_of_ne h)
    · rename_i own hown
      split_ifs
      · exact .same rfl
      · by_cases heq : slot = (.asExternalLSA, .byLSAKey ⟨lsa.header.linkStateID, routerID⟩)
        · subst heq
          exact .flushed rfl hown ((install_of_ne h).trans (update_self _ _ _))
        · exact .same ((install_of_ne h).trans (update_of_ne heq _ _))
      · exact .same (install_of_ne h)
  · exact .same (install_of_ne h)

/-- An LSA is installed, unless it is an AS-external LSA to which this router prefers its own. -/
theorem installLSA_self (routerID : RouterID) (reachable : Bool) (db : Database)
    (lsa : OSPFLSA LSAContents) :
    (installLSA routerID reachable db lsa).1 (LinkStateUpdate.slot lsa.header) =
        some (installed lsa) ∨
      lsaKind lsa.header.lsType = .asExternalLSA ∧
        (installLSA routerID reachable db lsa).1 (LinkStateUpdate.slot lsa.header) =
          db (LinkStateUpdate.slot lsa.header) := by
  unfold installLSA
  split
  · rename_i hkind
    unfold installASExternalLSA
    simp only
    split
    · exact .inl (install_self _ _)
    · split_ifs
      · exact .inr ⟨hkind, rfl⟩
      · exact .inl (install_self _ _)
      · exact .inl (install_self _ _)
  · exact .inl (install_self _ _)

/-- A copy that is given the sequence number after that of a newer instance. -/
theorem notOlder_superseded {h : OSPFLSAHeader} {sequenceNumber : ℤ}
    (hle : NotOlder h lsa.header) (hseq : h.lsSequenceNumber ≤ sequenceNumber) :
    NotOlder h (superseded lsa sequenceNumber).header := by
  unfold superseded
  split_ifs
  · exact hle.trans (.of_maxAge _)
  · refine .of_lt ?_
    change _ < sequenceNumber + 1
    omega

/-! ### One instance -/

/-- The instance replaces a copy. -/
def Replaces (r : ReceivedLSA) (lsa : DatabaseLSA) : Prop :=
  lsa.header.isOlder r.lsa.header = true ∧ isRecent lsa = false

instance (r : ReceivedLSA) (lsa : DatabaseLSA) : Decidable (Replaces r lsa) :=
  inferInstanceAs (Decidable (_ ∧ _))

/-- The instance is discarded when there is no copy. -/
def Discarded (r : ReceivedLSA) : Prop :=
  r.lsa.header.lsAge = maxAge ∧ r.anyNeighborInExchangeOrLoadingState = false

/-- The neighbours that the LSA brings to the full state are full. -/
def areaAfter (s : State) (r : ReceivedLSA) : Area := (s.floodLSA r.completed).area

/-- The instance takes the place of the copy in the database, and could be the router's own. -/
def VerbatimOk (s : State) (received : List ReceivedLSA) (r : ReceivedLSA) : Prop :=
  (∀ r' ∈ received, r'.slot = r.slot →
    r'.lsa.header.lsSequenceNumber ≤ r.lsa.header.lsSequenceNumber) ∧
  ∀ c, Originates (areaAfter s r) r.slot c →
    CopyOk (areaAfter s r) r.slot (r :: received) (installed r.lsa)

/-- The instance takes the place of the copy, which is answered: it is flushed, or has the contents
that the router would originate. -/
def AnsweredOk (s : State) (r : ReceivedLSA) : Prop :=
  ∀ c, Originates (areaAfter s r) r.slot c → r.lsa.header.lsAge = maxAge ∨
    r.lsa.header.lsSequenceNumber = maxSequenceNumber ∨
      Originates (areaAfter s r) r.slot (content r.lsa)

/-- The copy stays, and is not older than the instance. -/
def KeptOk (s : State) (r : ReceivedLSA) (lsa : DatabaseLSA) : Prop :=
  r.lsa.header.lsSequenceNumber ≤ lsa.header.lsSequenceNumber ∧
    ∀ c, Originates s.area r.slot c → lsa.header.lsAge = maxAge ∨
      r.lsa.header.lsSequenceNumber < lsa.header.lsSequenceNumber ∨
        content r.lsa = content lsa.toOSPFLSA

/-- An instance of an LSA that only this router originates does no harm. -/
def InstanceOk (s : State) (received : List ReceivedLSA) (r : ReceivedLSA) : Prop :=
  IsOwnSlot s.area r.slot →
    match s.database r.slot with
    | none => Discarded r ∨ VerbatimOk s received r
    | some lsa =>
      if Replaces r lsa then
        if isSelfOriginated s.area r.lsa.header = true then AnsweredOk s r
        else VerbatimOk s received r
      else KeptOk s r lsa

theorem instanceOk_of_answered (hlsa : s.database r.slot = some lsa) (hreplaces : Replaces r lsa)
    (hself : isSelfOriginated s.area r.lsa.header = true) (hok : AnsweredOk s r) :
    InstanceOk s received r := by
  intro _
  rw [hlsa]
  simp only [if_pos hreplaces, if_pos hself]
  exact hok

theorem IsOwnSlot.ne_asExternalLSA (h : IsOwnSlot area slot) : slot.1 ≠ .asExternalLSA := by
  intro hkind
  rcases h with rfl | ⟨intf, -, -, rfl⟩ <;> cases hkind

/-- The copy in one place is replaced. -/
theorem Inv.of_replaced (h : Inv s received) (harea : s'.area = s.area)
    (hother : ∀ slot, IsOwnSlot s.area slot → slot ≠ r.slot → s'.database slot = s.database slot)
    (hown : ∀ lsa, IsOwnSlot s.area r.slot → s'.database r.slot = some lsa →
      (∀ r' ∈ r :: received, r'.slot = r.slot →
        r'.lsa.header.lsSequenceNumber ≤ lsa.header.lsSequenceNumber) ∧
      ∀ c, Originates s.area r.slot c → CopyOk s.area r.slot (r :: received) lsa) :
    Inv s' (r :: received) := by
  constructor
  · intro slot c lsa horig hlsa
    rw [harea] at horig ⊢
    by_cases hslot : slot = r.slot
    · subst hslot
      exact (hown lsa horig.isOwnSlot hlsa).2 c horig
    · rw [hother slot horig.isOwnSlot hslot] at hlsa
      exact (h.ownCopiesOk slot c lsa horig hlsa).cons (Ne.symm hslot)
  · intro slot lsa hslot hlsa
    rw [harea] at hslot
    by_cases heq : slot = r.slot
    · subst heq
      exact (hown lsa hslot hlsa).1
    · rw [hother slot hslot heq] at hlsa
      exact forall_mem_cons.2 ⟨fun h => absurd h.symm heq, h.bounded slot lsa hslot hlsa⟩

theorem install_database_of_ne (hslot : IsOwnSlot s.area slot) (hne : slot ≠ r.slot) :
    (s.install r).database slot = s.database slot := by
  have hinstalled : Installed s.database slot (s.install r).database := installLSA_of_ne hne
  cases hinstalled with
  | same h => exact h
  | flushed hkind => exact absurd hkind hslot.ne_asExternalLSA

theorem install_database_self (hslot : IsOwnSlot s.area r.slot) :
    (s.install r).database r.slot = some (installed r.lsa) := by
  rcases installLSA_self s.area.routerID r.reachable s.database r.lsa with h | ⟨hkind, -⟩
  · exact h
  · exact absurd hkind hslot.ne_asExternalLSA

theorem supersede_database_of_ne (hne : slot ≠ r.slot) :
    (s.supersede r).database slot = s.database slot :=
  update_of_ne hne _ _

theorem supersede_database_self (s : State) (r : ReceivedLSA) : (s.supersede r).database r.slot =
    (s.database r.slot).map (superseded · r.lsa.header.lsSequenceNumber) :=
  update_self _ _ _

theorem Inv.install (h : Inv s received) (hok : IsOwnSlot s.area r.slot →
    (∀ r' ∈ received, r'.slot = r.slot →
      r'.lsa.header.lsSequenceNumber ≤ r.lsa.header.lsSequenceNumber) ∧
    ∀ c, Originates s.area r.slot c → CopyOk s.area r.slot (r :: received) (installed r.lsa)) :
    Inv (s.install r) (r :: received) := by
  refine h.of_replaced rfl (fun slot hslot hne => install_database_of_ne hslot hne) ?_
  intro lsa hslot hlsa
  rw [install_database_self hslot] at hlsa
  cases hlsa
  exact ⟨forall_mem_cons.2 ⟨fun _ => le_rfl, (hok hslot).1⟩, (hok hslot).2⟩

theorem Inv.supersede (h : Inv s received) (hok : IsOwnSlot s.area r.slot →
    (∀ r' ∈ received, r'.slot = r.slot →
      r'.lsa.header.lsSequenceNumber ≤ r.lsa.header.lsSequenceNumber) ∧
    ∀ c, Originates s.area r.slot c → r.lsa.header.lsAge = maxAge ∨
      r.lsa.header.lsSequenceNumber = maxSequenceNumber ∨
        Originates s.area r.slot (content r.lsa)) :
    Inv ((s.install r).supersede r) (r :: received) := by
  refine h.of_replaced rfl (fun slot hslot hne => ?_) ?_
  · exact (supersede_database_of_ne hne).trans (install_database_of_ne hslot hne)
  · intro lsa hslot hlsa
    obtain ⟨hle, hcontent⟩ := hok hslot
    rw [supersede_database_self, install_database_self hslot] at hlsa
    cases hlsa
    have hall : ∀ r' ∈ r :: received, r'.slot = r.slot →
        r'.lsa.header.lsSequenceNumber ≤ r.lsa.header.lsSequenceNumber :=
      forall_mem_cons.2 ⟨fun _ => le_rfl, hle⟩
    unfold superseded
    split_ifs with hmax
    · exact ⟨hall, fun c _ => .inl ⟨rfl, hall⟩⟩
    · have hlt : ∀ r' ∈ r :: received, r'.slot = r.slot →
          r'.lsa.header.lsSequenceNumber < r.lsa.header.lsSequenceNumber + 1 :=
        fun r' hr' heq => Int.lt_add_one_of_le (hall r' hr' heq)
      refine ⟨fun r' hr' heq => (hlt r' hr' heq).le, fun c horig => ?_⟩
      rcases hcontent c horig with hage | hseq | hown
      · exact .inl ⟨hage, fun r' hr' heq => (hlt r' hr' heq).le⟩
      · exact absurd hseq hmax
      · exact .inr ⟨hown, fun r' hr' heq => .inl (hlt r' hr' heq)⟩

/-- What the loop does with an instance. -/
inductive Handled (s : State) (sender : NeighborPtr) (r : ReceivedLSA) : State × Bool → Prop
  | notCapable : r.slot.1 = .asExternalLSA → Handled s sender r (s, false)
  | discarded : s.database r.slot = none → Discarded r → Handled s sender r (s, false)
  | accepted : (∀ lsa, s.database r.slot = some lsa → Replaces r lsa) →
      (s.database r.slot = none → ¬Discarded r) → Handled s sender r (s.accept r, false)
  | kept {lsa : DatabaseLSA} : s.database r.slot = some lsa → ¬Replaces r lsa →
      Handled s sender r (s, false)
  | badLinkStateRequest {lsa : DatabaseLSA} : s.database r.slot = some lsa → ¬Replaces r lsa →
      Handled s sender r (s.changeState sender .exchangeStart, true)

theorem handled (s : State) (sender : NeighborPtr) (r : ReceivedLSA) :
    Handled s sender r (s.processLSA sender r) := by
  unfold State.processLSA
  simp only
  by_cases hext : r.lsa.header.lsType = .asExternalLSA ∧ s.area.externalRoutingCapability = false
  · rw [if_pos hext]
    refine .notCapable ?_
    rw [ReceivedLSA.slot, LinkStateUpdate.slot, hext.1]
    rfl
  rw [if_neg hext]
  cases hlsa : s.database r.slot with
  | none =>
    by_cases hdiscard : Discarded r
    · rw [if_pos ⟨hdiscard.1, rfl, hdiscard.2⟩]
      exact .discarded hlsa hdiscard
    · rw [if_neg fun hand => hdiscard ⟨hand.1, hand.2.2⟩]
      refine .accepted (fun lsa h => ?_) fun _ => hdiscard
      rw [hlsa] at h
      cases h
  | some lsa =>
    rw [if_neg fun hand => Option.some_ne_none _ hand.2.1]
    simp only [Option.all_some, Option.any_some]
    split_ifs with hnewer hrecent hrequest
    · exact .kept hlsa fun hand => Bool.eq_false_iff.1 hand.2 hrecent
    · refine .accepted (fun lsa' h => ?_) fun hnone => ?_
      · cases hlsa.symm.trans h
        exact ⟨hnewer, Bool.eq_false_iff.2 hrecent⟩
      · cases hlsa.symm.trans hnone
    · exact .badLinkStateRequest hlsa fun hand => hnewer hand.1
    · exact .kept hlsa fun hand => hnewer hand.1

theorem Inv.kept (h : Inv s received) (hok : ∀ lsa, IsOwnSlot s.area r.slot →
    s.database r.slot = some lsa → KeptOk s r lsa) : Inv s (r :: received) := by
  refine h.of_replaced rfl (fun _ _ _ => rfl) fun lsa hslot hlsa => ?_
  obtain ⟨hle, hcopy⟩ := hok lsa hslot hlsa
  have hall : ∀ r' ∈ r :: received, r'.slot = r.slot →
      r'.lsa.header.lsSequenceNumber ≤ lsa.header.lsSequenceNumber :=
    forall_mem_cons.2 ⟨fun _ => hle, h.bounded r.slot lsa hslot hlsa⟩
  refine ⟨hall, fun c horig => ?_⟩
  rcases h.ownCopiesOk r.slot c lsa horig hlsa with ⟨hage, -⟩ | ⟨hcontent, hlt⟩
  · exact .inl ⟨hage, hall⟩
  · rcases hcopy c horig with hage | hseq | heq
    · exact .inl ⟨hage, hall⟩
    · exact .inr ⟨hcontent, forall_mem_cons.2 ⟨fun _ => .inl hseq, hlt⟩⟩
    · refine .inr ⟨hcontent, forall_mem_cons.2 ⟨fun _ => ?_, hlt⟩⟩
      exact hle.lt_or_eq.imp_right fun hseq => ⟨hseq, heq⟩

theorem accept_of_not_isSelfOriginated (hself : ¬isSelfOriginated s.area r.lsa.header = true) :
    s.accept r = (s.floodLSA r.completed).install r := by
  have hsame := (sameInterfaces_floodLSA s r.completed).isSelfOriginated_eq r.lsa.header
  exact if_neg fun h => hself (hsame.symm.trans h)

theorem accept_of_isSelfOriginated (hself : isSelfOriginated s.area r.lsa.header = true) :
    s.accept r =
      if (s.database r.slot).isNone then
        ((s.floodLSA r.completed).install r).floodLSA r.completedAgain
      else (((s.floodLSA r.completed).install r).supersede r).floodLSA r.completedAgain := by
  have hsame := (sameInterfaces_floodLSA s r.completed).isSelfOriginated_eq r.lsa.header
  exact if_pos (hsame.trans hself)

theorem Inv.accept (h : Inv s received) (hok : InstanceOk s received r)
    (hreplaces : ∀ lsa, s.database r.slot = some lsa → Replaces r lsa)
    (hdiscard : s.database r.slot = none → ¬Discarded r) :
    Inv (s.accept r) (r :: received) := by
  have h1 : Inv (s.floodLSA r.completed) received := h.floodLSA _
  have hslot : IsOwnSlot (s.floodLSA r.completed).area r.slot → IsOwnSlot s.area r.slot :=
    (sameInterfaces_floodLSA s r.completed).isOwnSlot_iff.1
  have hverbatim : (IsOwnSlot s.area r.slot → VerbatimOk s received r) →
      Inv ((s.floodLSA r.completed).install r) (r :: received) :=
    fun hok => h1.install fun hown => hok (hslot hown)
  cases hlsa : s.database r.slot with
  | none =>
    have hok' : IsOwnSlot s.area r.slot → VerbatimOk s received r := by
      intro hown
      have hcase := hok hown
      rw [hlsa] at hcase
      exact hcase.resolve_left (hdiscard hlsa)
    by_cases hself : isSelfOriginated s.area r.lsa.header = true
    · rw [accept_of_isSelfOriginated hself, hlsa, if_pos Option.isNone_none]
      exact (hverbatim hok').floodLSA _
    · rw [accept_of_not_isSelfOriginated hself]
      exact hverbatim hok'
  | some lsa =>
    have hrep := hreplaces lsa hlsa
    by_cases hself : isSelfOriginated s.area r.lsa.header = true
    · rw [accept_of_isSelfOriginated hself, hlsa, if_neg (by simp)]
      refine Inv.floodLSA (h1.supersede fun hown => ⟨fun r' hr' heq => ?_, ?_⟩) _
      · exact (h.bounded r.slot lsa (hslot hown) hlsa r' hr' heq).trans
          (lsSequenceNumber_le_of_isOlder hrep.1)
      · have hcase := hok (hslot hown)
        rw [hlsa] at hcase
        simp only [if_pos hrep, if_pos hself] at hcase
        exact hcase
    · rw [accept_of_not_isSelfOriginated hself]
      refine hverbatim fun hown => ?_
      have hcase := hok hown
      rw [hlsa] at hcase
      simp only [if_pos hrep, if_neg hself] at hcase
      exact hcase

variable {sender : NeighborPtr}

/-- **An instance keeps the router's own LSAs as they should be** if it does them no harm. -/
theorem Inv.processLSA (h : Inv s received) (hok : InstanceOk s received r) :
    Inv (s.processLSA sender r).1 (r :: received) := by
  have hhandled := handled s sender r
  generalize s.processLSA sender r = result at hhandled ⊢
  have hkept : ∀ lsa, s.database r.slot = some lsa → ¬Replaces r lsa → Inv s (r :: received) := by
    intro lsa hlsa hnot
    refine h.kept fun lsa' hslot hlsa' => ?_
    cases hlsa.symm.trans hlsa'
    have hcase := hok hslot
    rw [hlsa] at hcase
    simp only [if_neg hnot] at hcase
    exact hcase
  cases hhandled with
  | notCapable hkind => exact h.kept fun lsa hslot => absurd hkind hslot.ne_asExternalLSA
  | discarded hnone _ =>
    refine h.kept fun lsa _ hlsa => ?_
    cases hnone.symm.trans hlsa
  | accepted hreplaces hdiscard => exact h.accept hok hreplaces hdiscard
  | kept hlsa hnot => exact hkept _ hlsa hnot
  | badLinkStateRequest hlsa hnot => exact (hkept _ hlsa hnot).changeState _ _

/-- **Other contents stay.**  When a newer instance of an LSA that the router originates has been
answered, the copy has the contents of the instance, unless flooding it makes a neighbour full. -/
theorem not_ownCopiesOk_of_foreign
    (hlsa : s.database r.slot = some lsa) (hreplaces : Replaces r lsa)
    (hself : isSelfOriginated s.area r.lsa.header = true)
    (horig : Originates (areaAfter s r) r.slot c) (hagain : r.completedAgain = [])
    (hforeign : ¬(r.lsa.header.lsAge = maxAge ∨
      r.lsa.header.lsSequenceNumber = maxSequenceNumber ∨
        Originates (areaAfter s r) r.slot (content r.lsa))) :
    ¬OwnCopiesOk (s.processLSA sender r).1 (r :: received) := by
  intro hok
  have haccept : (s.processLSA sender r).1 = s.accept r := by
    have hhandled := handled s sender r
    generalize s.processLSA sender r = result at hhandled ⊢
    cases hhandled with
    | notCapable hkind => exact absurd hkind horig.isOwnSlot.ne_asExternalLSA
    | discarded hnone => cases hnone.symm.trans hlsa
    | accepted => rfl
    | kept hlsa' hnot =>
      cases hlsa.symm.trans hlsa'
      exact absurd hreplaces hnot
    | badLinkStateRequest hlsa' hnot =>
      cases hlsa.symm.trans hlsa'
      exact absurd hreplaces hnot
  rw [haccept, accept_of_isSelfOriginated hself, hlsa, if_neg (by simp), hagain] at hok
  rw [not_or, not_or] at hforeign
  have hcopy : (((s.floodLSA r.completed).install r).supersede r).database r.slot =
      some (superseded (installed r.lsa) r.lsa.header.lsSequenceNumber) := by
    rw [supersede_database_self, install_database_self horig.isOwnSlot, Option.map_some]
  rw [superseded, if_neg hforeign.2.1] at hcopy
  rcases hok r.slot c _ horig hcopy with ⟨hage, -⟩ | ⟨hown, -⟩
  · exact hforeign.1 hage
  · exact hforeign.2.2 hown

/-! ### No older instances -/

section

variable (hreplaces : ∀ lsa, s.database r.slot = some lsa → Replaces r lsa)
include hreplaces

theorem neverOlder_install (hle : NeverOlder s.database s'.database) :
    NeverOlder s.database (s'.install r).database := by
  intro slot lsa hlsa
  obtain ⟨lsa', hlsa', hle'⟩ := hle slot lsa hlsa
  by_cases hslot : slot = r.slot
  · subst hslot
    rcases installLSA_self s'.area.routerID r.reachable s'.database r.lsa with hnew | ⟨-, hsame⟩
    · exact ⟨_, hnew, .inr (hreplaces lsa hlsa).1⟩
    · exact ⟨lsa', hsame.trans hlsa', hle'⟩
  · have hinstalled : Installed s'.database slot (s'.install r).database := installLSA_of_ne hslot
    cases hinstalled with
    | same hsame => exact ⟨lsa', hsame.trans hlsa', hle'⟩
    | flushed _ hown hflushed =>
      cases hown.symm.trans hlsa'
      exact ⟨_, hflushed, hle'.trans (.of_maxAge _)⟩

theorem neverOlder_supersede (hle : NeverOlder s.database s'.database) :
    NeverOlder s.database (s'.supersede r).database := by
  intro slot lsa hlsa
  obtain ⟨lsa', hlsa', hle'⟩ := hle slot lsa hlsa
  by_cases hslot : slot = r.slot
  · subst hslot
    refine ⟨superseded lsa' r.lsa.header.lsSequenceNumber, ?_, notOlder_superseded hle' ?_⟩
    · rw [supersede_database_self, hlsa', Option.map_some]
    · exact lsSequenceNumber_le_of_isOlder (hreplaces lsa hlsa).1
  · exact ⟨lsa', (supersede_database_of_ne hslot).trans hlsa', hle'⟩

theorem neverOlder_accept : NeverOlder s.database (s.accept r).database := by
  have hinstall := neverOlder_install hreplaces (neverOlder_floodLSA s r.completed)
  by_cases hself : isSelfOriginated s.area r.lsa.header = true
  · rw [accept_of_isSelfOriginated hself]
    split_ifs
    · exact hinstall.trans (neverOlder_floodLSA _ _)
    · exact (neverOlder_supersede hreplaces hinstall).trans (neverOlder_floodLSA _ _)
  · rw [accept_of_not_isSelfOriginated hself]
    exact hinstall

end

/-- **No instance is replaced by an older one.** -/
theorem neverOlder_processLSA (s : State) (sender : NeighborPtr) (r : ReceivedLSA) :
    NeverOlder s.database (s.processLSA sender r).1.database := by
  have hhandled := handled s sender r
  generalize s.processLSA sender r = result at hhandled ⊢
  cases hhandled with
  | notCapable => exact .refl _
  | discarded => exact .refl _
  | accepted hreplaces => exact neverOlder_accept hreplaces
  | kept => exact .refl _
  | badLinkStateRequest => exact neverOlder_changeState _ _ _

/-! ### The packet -/

/-- An instance is handled, after those of `received`. -/
structure Visit where
  before : State
  received : List ReceivedLSA
  lsa : ReceivedLSA

def Visit.after (v : Visit) (sender : NeighborPtr) : State := (v.before.processLSA sender v.lsa).1

/-- The instances of an array that are handled. -/
def arrayVisits (sender : NeighborPtr) (s : State) (received : List ReceivedLSA) :
    List ReceivedLSA → List Visit
  | [] => []
  | r :: rs =>
    ⟨s, received, r⟩ :: if (s.processLSA sender r).2 then []
      else arrayVisits sender (s.processLSA sender r).1 (r :: received) rs

/-- The instances that have been handled in the end. -/
def receivedAfter (received : List ReceivedLSA) (visits : List Visit) : List ReceivedLSA :=
  (visits.map (·.lsa)).reverse ++ received

def arraysVisits (sender : NeighborPtr) (s : State) (received : List ReceivedLSA) :
    List (List ReceivedLSA) → List Visit
  | [] => []
  | rs :: arrays =>
    arrayVisits sender s received rs ++
      arraysVisits sender (s.processArray sender rs)
        (receivedAfter received (arrayVisits sender s received rs)) arrays

/-- The instances of the packet that are handled. -/
def State.visits (s : State) (sender : NeighborPtr) (packet : OSPFLinkStateUpdatePacket) :
    List Visit :=
  match s.area.getNeighbor sender with
  | none => []
  | some (_, neighbor) =>
    if NeighborStateType.exchange.value ≤ neighbor.state.value then
      arraysVisits sender s [] packet.arrays
    else []

/-- What has been kept when the instances have been handled. -/
structure Kept (sender : NeighborPtr) (s : State) (received : List ReceivedLSA)
    (visits : List Visit) (s' : State) : Prop where
  each : ∀ v ∈ visits, Inv (v.after sender) (v.lsa :: v.received)
  last : Inv s' (receivedAfter received visits)

theorem receivedAfter_append (received : List ReceivedLSA) (vs ws : List Visit) :
    receivedAfter received (vs ++ ws) = receivedAfter (receivedAfter received vs) ws := by
  simp [receivedAfter]

theorem Inv.processArray {rs : List ReceivedLSA} (h : Inv s received)
    (hok : ∀ v ∈ arrayVisits sender s received rs, InstanceOk v.before v.received v.lsa) :
    Kept sender s received (arrayVisits sender s received rs) (s.processArray sender rs) := by
  induction rs generalizing s received with
  | nil => exact ⟨fun v hv => absurd hv not_mem_nil, h⟩
  | cons r rs ih =>
    rw [arrayVisits, forall_mem_cons] at hok
    have hstep : Inv (s.processLSA sender r).1 (r :: received) := h.processLSA hok.1
    rw [arrayVisits, State.processArray]
    split_ifs with hstop
    · exact ⟨forall_mem_singleton.2 hstep, hstep⟩
    · rw [if_neg hstop] at hok
      obtain ⟨heach, hlast⟩ := ih hstep hok.2
      refine ⟨forall_mem_cons.2 ⟨hstep, heach⟩, ?_⟩
      rw [← singleton_append, receivedAfter_append]
      exact hlast

theorem Inv.processArrays {arrays : List (List ReceivedLSA)} (h : Inv s received)
    (hok : ∀ v ∈ arraysVisits sender s received arrays, InstanceOk v.before v.received v.lsa) :
    Kept sender s received (arraysVisits sender s received arrays)
      (arrays.foldl (fun s rs => s.processArray sender rs) s) := by
  induction arrays generalizing s received with
  | nil => exact ⟨fun v hv => absurd hv not_mem_nil, h⟩
  | cons rs arrays ih =>
    rw [arraysVisits, forall_mem_append] at hok
    obtain ⟨heach, hlast⟩ := h.processArray hok.1
    obtain ⟨heach', hlast'⟩ := ih hlast hok.2
    refine ⟨forall_mem_append.2 ⟨heach, heach'⟩, ?_⟩
    rw [arraysVisits, receivedAfter_append]
    exact hlast'

theorem neverOlder_processArray (sender : NeighborPtr) (s : State) (rs : List ReceivedLSA) :
    NeverOlder s.database (s.processArray sender rs).database := by
  induction rs generalizing s with
  | nil => exact .refl _
  | cons r rs ih =>
    rw [State.processArray]
    split_ifs
    · exact neverOlder_processLSA s sender r
    · exact (neverOlder_processLSA s sender r).trans (ih _)

theorem neverOlder_processPacket (s : State) (sender : NeighborPtr)
    (packet : OSPFLinkStateUpdatePacket) :
    NeverOlder s.database (s.processPacket sender packet).database := by
  have harrays : ∀ (arrays : List (List ReceivedLSA)) (s : State), NeverOlder s.database
      (arrays.foldl (fun s rs => s.processArray sender rs) s).database := by
    intro arrays
    induction arrays with
    | nil => exact fun s => .refl _
    | cons rs arrays ih =>
      exact fun s => (neverOlder_processArray sender s rs).trans (ih _)
  unfold State.processPacket
  split
  · exact .refl _
  · split_ifs
    · exact harrays _ s
    · exact .refl _

/-- The router at the other end of a point-to-point link. -/
def sampleNeighbor : Neighbor where
  state := .full
  neighborID := 0x02020202
  neighborPriority := 1
  neighborIPAddress := 0x0A000002
  neighborsDesignatedRouter := nullDesignatedRouterID
  neighborsBackupDesignatedRouter := nullDesignatedRouterID

def sampleInterface : AreaInterface where
  interfaceType := .pointToPoint
  state := .pointToPoint
  ifIndex := 100
  interfaceAddressRange := ⟨0x0A000001, 0xFFFFFF00⟩
  routerPriority := 1
  designatedRouter := nullDesignatedRouterID
  backupDesignatedRouter := nullDesignatedRouterID
  neighboringRouters := [sampleNeighbor]
  interfaceOutputCost := 10

def sampleArea : Area where
  routerID := 0x01010101
  areaCount := 1
  asBoundaryRouter := false
  externalRoutingCapability := true
  isVirtualLinkEndpoint := false
  associatedInterfaces := [sampleInterface]
  hostRoutes := []

/-- The database holds the router LSA that the router has originated five seconds ago. -/
def sampleState : State where
  area := sampleArea
  database := update (fun _ => none) (ownSlot sampleArea)
    (some { installed (originateRouterLSA sampleArea) with installTime := 5 })

/-- A router LSA of the router with the sequence number 7. -/
def sampleInstance (body : RouterLSABody) : ReceivedLSA where
  lsa :=
    { header := ⟨1, .routerLSA, 0x01010101, 0x01010101, 7⟩
      contents := { lsOptions := { eExternalRoutingCapability := true }, body := .router body } }
  kind_eq := rfl

def samplePacket (body : RouterLSABody) : OSPFLinkStateUpdatePacket where
  routerLSAs := [sampleInstance body]

/-- The body that the router would originate. -/
def sampleBody (links : List Link) : RouterLSABody where
  vVirtualLinkEndpoint := false
  eASBoundaryRouter := false
  bAreaBorderRouter := false
  numberOfLinks := links.length
  links := links

theorem originates_sampleArea (h : Originates sampleArea slot c) :
    slot = ownSlot sampleArea ∧ c = content (originateRouterLSA sampleArea) := by
  cases h with
  | routerLSA => exact ⟨rfl, rfl⟩
  | networkLSA hmem hstate _ =>
    rw [mem_singleton.1 hmem] at hstate
    cases hstate

theorem ownCopiesOk_sampleState : OwnCopiesOk sampleState [] := by
  intro slot c lsa horig hlsa
  obtain ⟨rfl, -⟩ := originates_sampleArea horig
  have hcopy : sampleState.database (ownSlot sampleArea) =
    some { installed (originateRouterLSA sampleArea) with installTime := 5 } := rfl
  cases hcopy.symm.trans hlsa
  exact .inr ⟨.routerLSA, fun r hr => absurd hr not_mem_nil⟩

end LinkStateUpdate

end OSPF

end Hiwis
