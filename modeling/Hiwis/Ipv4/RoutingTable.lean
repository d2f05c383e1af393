import Hiwis.Ipv4.InterfaceEntry
import Hiwis.Lib.Trace
import Hiwis.Lib.UpperBound

/-!
# The IPv4 routing table

`RoutingTable` keeps its unicast routes in one vector, sorted so that the first route that matches a
destination is the best one, and remembers for each destination the route that was found last.  A
route tells the table when one of its fields is changed.

* `RoutingTable.Ok.findBestMatchingRoute_eq` : the cache does not change what is found;
* `RoutingRun.best_of_run` : after any history in which no change of an administrative distance
  unsorts the vector, what is found is the best valid route.
-/

namespace Hiwis

open List UpperBound Trace

namespace IPv4Address

/-- `getNetmaskLength`. -/
def getNetmaskLength (addr : IPv4Address) : ℕ :=
  match (range 32).find? fun i => addr &&& (1 <<< i) ≠ 0 with
  | some i => 32 - i
  | none => 0

/-- `_makeNetmask`. -/
def makeNetmask (length : ℕ) : IPv4Address :=
  if 32 ≤ length then BitVec.allOnes 32 else ~~~(BitVec.allOnes 32 >>> length)

/-- `isValidNetmask`. -/
def isValidNetmask (addr : IPv4Address) : Bool := addr == makeNetmask (getNetmaskLength addr)

/-- `maskedAddrAreEqual`. -/
def maskedAddrAreEqual (addr1 addr2 netmask : IPv4Address) : Bool :=
  (addr1 ^^^ addr2) &&& netmask == 0

end IPv4Address

open IPv4Address

/-- `IPv4Route::SourceType`. -/
inductive SourceType
  | manual | ifaceNetmask | rip | ospf | bgp | zebra | manet | manet2 | dymo | aodv
  deriving DecidableEq

/-- `IPv4Route::dDirectlyConnected`. -/
def dDirectlyConnected : ℕ := 0

/-- `IPv4Route::dUnknown`. -/
def dUnknown : ℕ := 255

/-- `IPv4Route`, or a subclass of it. -/
structure IPv4Route where
  /-- Which object this is. -/
  id : ℕ
  dest : IPv4Address := unspecifiedAddress
  netmask : IPv4Address := unspecifiedAddress
  gateway : IPv4Address := unspecifiedAddress
  /-- The interface; `none` stands for `NULL`. -/
  interfacePtr : Option ℕ := none
  sourceType : SourceType := .manual
  adminDist : ℕ := dUnknown
  metric : ℤ := 0
  /-- The field of `DSDVIPv4Route`; a route of another class does not expire. -/
  expiryTime : ℤ := 0
  deriving DecidableEq

namespace IPv4Route

/-- `isValid`, at the given simulation time. -/
def isValid (simTime : ℤ) (r : IPv4Route) : Bool :=
  r.expiryTime == 0 || decide (simTime < r.expiryTime)

/-- The route is one for the destination. -/
def isMatch (dest : IPv4Address) (r : IPv4Route) : Bool := maskedAddrAreEqual dest r.dest r.netmask

/-- The field codes of `changed`. -/
inductive FieldCode
  | destination | netmask | gateway | iface | type | source | adminDist | metric
  deriving DecidableEq

end IPv4Route

open IPv4Route (FieldCode)

/-- What stops a routing table. -/
inductive RoutingFault
  /-- `addRoute(): wrong netmask %s in route`. -/
  | wrongNetmask (netmask : IPv4Address)
  /-- `addRoute(): all bits of destination address %s is 0 inside non zero netmask %s`. -/
  | allBitsZero (dest netmask : IPv4Address)
  /-- `addRoute(): suspicious route: destination IP address %s has bits set outside netmask %s`. -/
  | suspiciousRoute (dest netmask : IPv4Address)
  /-- `addRoute(): interface cannot be NULL`. -/
  | interfaceNull
  /-- The cache leads to a route that is not in the table any more. -/
  | danglingRoute
  deriving DecidableEq

/-- The unicast part of `RoutingTable`. -/
structure RoutingTable where
  routes : List IPv4Route
  /-- For each destination the route found last, if there is an entry; `some none` stands for an
  entry `NULL`. -/
  routingCache : IPv4Address → Option (Option ℕ)

namespace RoutingTable

/-- A table without routes. -/
def empty : RoutingTable := ⟨[], fun _ => none⟩

/-- `invalidateCache`. -/
def invalidateCache (t : RoutingTable) : RoutingTable := { t with routingCache := fun _ => none }

/-- `routeLessThan`. -/
def routeLessThan (a b : IPv4Route) : Bool :=
  if a.netmask ≠ b.netmask then decide (b.netmask.toNat < a.netmask.toNat)
  else if a.dest ≠ b.dest then decide (a.dest.toNat < b.dest.toNat)
  else if a.adminDist ≠ b.adminDist then decide (a.adminDist < b.adminDist)
  else decide (a.metric < b.metric)

/-- The first route of the list that is valid and matches. -/
def firstMatch (simTime : ℤ) (dest : IPv4Address) (routes : List IPv4Route) : Option IPv4Route :=
  routes.find? fun e => e.isValid simTime && e.isMatch dest

section

variable (t : RoutingTable)

/-- `routingCache[dest] = bestRoute`. -/
def remember (dest : IPv4Address) (bestRoute : Option IPv4Route) :
    RoutingTable :=
  { t with
    routingCache := fun d => if d = dest then some (bestRoute.map (·.id)) else t.routingCache d }

/-- `findBestMatchingRoute`. -/
def findBestMatchingRoute (simTime : ℤ) (dest : IPv4Address) :
    Except RoutingFault (Option IPv4Route × RoutingTable) :=
  let bestRoute := firstMatch simTime dest t.routes
  let search := (bestRoute, t.remember dest bestRoute)
  match t.routingCache dest with
  | none => .ok search
  | some none => .ok (none, t)
  | some (some i) =>
    match t.routes.find? (·.id == i) with
    | none => .error .danglingRoute
    | some r => .ok (if r.isValid simTime then (some r, t) else search)

/-- `internalRemoveRoute`. -/
def internalRemoveRoute (i : ℕ) : RoutingTable := { t with routes := t.routes.eraseP (·.id == i) }

/-- `removeRoute` and `deleteRoute`, which differ in what becomes of the object. -/
def removeRoute (i : ℕ) : RoutingTable :=
  if t.routes.any (·.id == i) then (t.internalRemoveRoute i).invalidateCache else t

/-- `getDefaultRoute`. -/
def getDefaultRoute (simTime : ℤ) : Option IPv4Route :=
  (t.routes.reverse.takeWhile fun r => isUnspecified r.netmask).find? (·.isValid simTime)

variable (simTime : ℤ) (entry : IPv4Route)

/-- `internalAddRoute`. -/
def internalAddRoute :
    Except RoutingFault RoutingTable :=
  if !isValidNetmask entry.netmask then .error (.wrongNetmask entry.netmask)
  else if entry.netmask ≠ 0 ∧ entry.dest &&& entry.netmask = 0 then
    .error (.allBitsZero entry.dest entry.netmask)
  else if entry.dest &&& ~~~entry.netmask ≠ 0 then
    .error (.suspiciousRoute entry.dest entry.netmask)
  else if entry.interfacePtr.isNone then .error .interfaceNull
  else
    let t :=
      if isUnspecified entry.netmask then
        match t.getDefaultRoute simTime with
        | some oldDefaultRoute => t.removeRoute oldDefaultRoute.id
        | none => t
      else t
    .ok { t with routes := insert routeLessThan entry t.routes }

/-- `addRoute`. -/
def addRoute :
    Except RoutingFault RoutingTable := do
  let t ← t.internalAddRoute simTime entry
  pure t.invalidateCache

/-- `routeChanged`. -/
def routeChanged (fieldCode : FieldCode) :
    Except RoutingFault RoutingTable :=
  if fieldCode = .destination ∨ fieldCode = .netmask ∨ fieldCode = .metric then do
    let t ← (t.internalRemoveRoute entry.id).internalAddRoute simTime entry
    pure t.invalidateCache
  else .ok t

end

/-- The routes after the object `i` has been changed. -/
def modify (i : ℕ) (f : IPv4Route → IPv4Route) (routes : List IPv4Route) : List IPv4Route :=
  routes.map fun r => if r.id = i then f r else r

section

variable (t : RoutingTable) (simTime : ℤ)

/-- A setter of the route `i`, which changes a field with `f` and tells the table. -/
def setField (i : ℕ) (fieldCode : FieldCode) (f : IPv4Route → IPv4Route) :
    Except RoutingFault RoutingTable :=
  match t.routes.find? (·.id == i) with
  | none => .ok t
  | some r =>
    if f r = r then .ok t
    else { t with routes := modify i f t.routes }.routeChanged simTime (f r) fieldCode

/-- `IPv4Route::setDestination`. -/
def setDestination (i : ℕ) (dest : IPv4Address) :
    Except RoutingFault RoutingTable :=
  t.setField simTime i .destination fun r => { r with dest }

/-- `IPv4Route::setNetmask`. -/
def setNetmask (i : ℕ) (netmask : IPv4Address) :
    Except RoutingFault RoutingTable :=
  t.setField simTime i .netmask fun r => { r with netmask }

/-- `IPv4Route::setGateway`. -/
def setGateway (i : ℕ) (gateway : IPv4Address) :
    Except RoutingFault RoutingTable :=
  t.setField simTime i .gateway fun r => { r with gateway }

/-- `IPv4Route::setInterface`. -/
def setInterface (i : ℕ) (interfacePtr : Option ℕ) :
    Except RoutingFault RoutingTable :=
  t.setField simTime i .iface fun r => { r with interfacePtr }

/-- `IPv4Route::setSourceType`. -/
def setSourceType (i : ℕ) (sourceType : SourceType) :
    Except RoutingFault RoutingTable :=
  t.setField simTime i .source fun r => { r with sourceType }

/-- `IPv4Route::setAdminDist`. -/
def setAdminDist (i adminDist : ℕ) :
    Except RoutingFault RoutingTable :=
  t.setField simTime i .adminDist fun r => { r with adminDist }

/-- `IPv4Route::setMetric`. -/
def setMetric (i : ℕ) (metric : ℤ) :
    Except RoutingFault RoutingTable :=
  t.setField simTime i .metric fun r => { r with metric }

end

/-- Erase the routes with a property, and invalidate the cache if there was one. -/
def eraseRoutes (t : RoutingTable) (p : IPv4Route → Bool) : RoutingTable :=
  if t.routes.any p then { t with routes := t.routes.filter fun r => !p r }.invalidateCache else t

/-- The unicast part of `purge`. -/
def purge (t : RoutingTable) (simTime : ℤ) : RoutingTable :=
  t.eraseRoutes fun r => !r.isValid simTime

/-- The unicast part of `deleteInterfaceRoutes`. -/
def deleteInterfaceRoutes (t : RoutingTable) (entry : ℕ) : RoutingTable :=
  t.eraseRoutes fun r => r.interfacePtr == some entry

/-- The route that `updateNetmaskRoutes` makes for an interface, if any.  The interface comes with
the object that `createNewRoute` returns. -/
def netmaskRoute (x : ℕ × InterfaceEntry) : Option IPv4Route :=
  match x.2.ipv4Data with
  | none => none
  | some data =>
    if data.netmask ≠ allonesAddress then
      some
        { id := x.1
          sourceType := .ifaceNetmask
          dest := data.inetAddr &&& data.netmask
          netmask := data.netmask
          gateway := unspecifiedAddress
          adminDist := dDirectlyConnected
          metric := data.metric
          interfacePtr := some x.2.interfaceId }
    else none

/-- `updateNetmaskRoutes`. -/
def updateNetmaskRoutes (t : RoutingTable) (ift : List (ℕ × InterfaceEntry)) : RoutingTable :=
  let kept := t.routes.filter fun r => r.sourceType != .ifaceNetmask
  let added := ift.filterMap netmaskRoute
  { t with
    routes := added.foldl (fun routes r => insert routeLessThan r routes) kept
    }.invalidateCache

/-! ### The order of the routes -/

/-- The fields that `routeLessThan` compares. -/
def key (r : IPv4Route) : ℕᵒᵈ ×ₗ ℕ ×ₗ ℕ ×ₗ ℤ :=
  toLex (OrderDual.toDual r.netmask.toNat, toLex (r.dest.toNat, toLex (r.adminDist, r.metric)))

theorem routeLessThan_eq (a b : IPv4Route) : routeLessThan a b = decide (key a < key b) := by
  unfold routeLessThan key
  simp only [Prod.Lex.toLex_lt_toLex, OrderDual.toDual_lt_toDual, OrderDual.toDual_inj]
  split_ifs with hmask hdest had
  · have : b.netmask.toNat ≠ a.netmask.toNat := fun h => hmask (BitVec.eq_of_toNat_eq h.symm)
    simp [this.symm]
  · rw [not_not] at hmask
    have : a.dest.toNat ≠ b.dest.toNat := fun h => hdest (BitVec.eq_of_toNat_eq h)
    simp [hmask, this]
  · rw [not_not] at hmask hdest
    simp [hmask, hdest, had]
  · rw [not_not] at hmask hdest had
    simp [hmask, hdest, had]

/-- The vector is sorted. -/
def SortedRoutes (routes : List IPv4Route) : Prop :=
  routes.Pairwise fun a b => routeLessThan b a = false

instance (routes : List IPv4Route) : Decidable (SortedRoutes routes) :=
  inferInstanceAs (Decidable (routes.Pairwise fun a b => routeLessThan b a = false))

theorem sortedRoutes_iff {routes : List IPv4Route} :
    SortedRoutes routes ↔ routes.Pairwise fun a b => key a ≤ key b := by
  unfold SortedRoutes
  simp only [routeLessThan_eq, decide_eq_false_iff_not, not_lt]

/-- What holds of the vector between two calls: it is sorted, the routes have passed the checks of
`addRoute`, and no object is in it twice. -/
structure RoutesOk (routes : List IPv4Route) : Prop where
  sorted : SortedRoutes routes
  wellFormed : ∀ r ∈ routes, isValidNetmask r.netmask = true ∧ r.dest &&& ~~~r.netmask = 0
  nodup : routes.Pairwise fun a b => a.id ≠ b.id

section RoutesOk

variable {routes routes' : List IPv4Route} {i : ℕ} {f : IPv4Route → IPv4Route}

theorem RoutesOk.sublist (h : RoutesOk routes) (hsub : routes'.Sublist routes) :
    RoutesOk routes' :=
  ⟨h.sorted.sublist hsub, fun r hr => h.wellFormed r (hsub.subset hr), h.nodup.sublist hsub⟩

theorem RoutesOk.insert (h : RoutesOk routes) {entry : IPv4Route}
    (hmask : isValidNetmask entry.netmask = true) (hdest : entry.dest &&& ~~~entry.netmask = 0)
    (hnew : ∀ r ∈ routes, r.id ≠ entry.id) :
    RoutesOk (insert routeLessThan entry routes) := by
  refine ⟨?_, fun r hr => ?_, ?_⟩
  · rw [sortedRoutes_iff]
    exact pairwise_insert routeLessThan_eq (sortedRoutes_iff.1 h.sorted) entry
  · rcases mem_insert.1 hr with rfl | hr
    · exact ⟨hmask, hdest⟩
    · exact h.wellFormed r hr
  · rw [(insert_perm entry).pairwise_iff (fun {a b} hab => hab.symm)]
    exact pairwise_cons.2 ⟨fun r hr => (hnew r hr).symm, h.nodup⟩

/-- Erasing an object that has been changed is erasing it as it was. -/
theorem eraseP_modify (hnodup : routes.Pairwise fun a b => a.id ≠ b.id)
    (hid : ∀ r, (f r).id = r.id) :
    (modify i f routes).eraseP (·.id == i) = routes.eraseP (·.id == i) := by
  induction routes with
  | nil => rfl
  | cons a routes ih =>
    rw [pairwise_cons] at hnodup
    unfold modify at ih ⊢
    rw [map_cons]
    by_cases ha : a.id = i
    · rw [if_pos ha, eraseP_cons_of_pos (by simp [hid, ha]),
        eraseP_cons_of_pos (by simp [ha])]
      -- no other route is this object
      have hsame : routes.map (fun r => if r.id = i then f r else r) = routes.map id :=
        map_congr_left fun r hr => if_neg (ha ▸ (hnodup.1 r hr).symm)
      rw [hsame, map_id]
    · rw [if_neg ha, eraseP_cons_of_neg (by simp [ha]), eraseP_cons_of_neg (by simp [ha]),
        ih hnodup.2]

theorem ne_of_mem_eraseP (hnodup : routes.Pairwise fun a b => a.id ≠ b.id) {r : IPv4Route}
    (hr : r ∈ routes.eraseP (·.id == i)) : r.id ≠ i := by
  induction routes with
  | nil => cases hr
  | cons a routes ih =>
    rw [pairwise_cons] at hnodup
    by_cases ha : a.id = i
    · rw [eraseP_cons_of_pos (by simp [ha])] at hr
      exact ha ▸ (hnodup.1 r hr).symm
    · rw [eraseP_cons_of_neg (by simp [ha])] at hr
      rcases mem_cons.1 hr with rfl | hr
      · exact ha
      · exact ih hnodup.2 hr

/-- A change of a field that is in no check keeps the vector in order when it stays sorted. -/
theorem RoutesOk.modify (h : RoutesOk routes) (hid : ∀ r, (f r).id = r.id)
    (hdest : ∀ r, (f r).dest = r.dest) (hmask : ∀ r, (f r).netmask = r.netmask)
    (hsorted : SortedRoutes (modify i f routes)) : RoutesOk (modify i f routes) := by
  refine ⟨hsorted, fun r hr => ?_, ?_⟩
  · obtain ⟨r', hr', rfl⟩ := mem_map.1 hr
    have hwf := h.wellFormed r' hr'
    split_ifs
    · rwa [hdest, hmask]
    · exact hwf
  · refine pairwise_map.2 (h.nodup.imp fun {a b} hab => ?_)
    split_ifs <;> simpa only [hid] using hab

theorem sorted_modify_of_key (h : SortedRoutes routes) (hkey : ∀ r, key (f r) = key r) :
    SortedRoutes (RoutingTable.modify i f routes) := by
  rw [sortedRoutes_iff] at h ⊢
  refine pairwise_map.2 (h.imp fun {a b} hab => ?_)
  split_ifs <;> simpa only [hkey] using hab

end RoutesOk

/-! ### The cache -/

/-- The cache entry for a destination is what a search of the vector has found, or a route that was
found and is not valid any more: no valid route before it matches. -/
def CacheEntry (simTime : ℤ) (dest : IPv4Address) (routes : List IPv4Route) : Option ℕ → Prop
  | none => ∀ r ∈ routes, r.isMatch dest = true → r.isValid simTime = false
  | some i => ∃ before r after, routes = before ++ r :: after ∧ r.id = i ∧ r.isMatch dest = true ∧
      ∀ r' ∈ before, r'.isMatch dest = true → r'.isValid simTime = false

/-- The invariant of the table. -/
structure Ok (simTime : ℤ) (t : RoutingTable) : Prop where
  routes : RoutesOk t.routes
  cache : ∀ dest c, t.routingCache dest = some c → CacheEntry simTime dest t.routes c

section Cache

variable {simTime : ℤ} {dest : IPv4Address} {routes : List IPv4Route} {t t' : RoutingTable}

theorem RoutesOk.ok_invalidateCache (h : RoutesOk t.routes) : Ok simTime t.invalidateCache :=
  ⟨h, fun _ _ hc => by cases hc⟩

/-- What a search has found may be cached. -/
theorem cacheEntry_firstMatch (simTime : ℤ) (dest : IPv4Address) (routes : List IPv4Route) :
    CacheEntry simTime dest routes ((firstMatch simTime dest routes).map (·.id)) := by
  cases hfirst : firstMatch simTime dest routes with
  | none =>
    intro r hr hmatch
    have hno := find?_eq_none.1 hfirst r hr
    simpa [hmatch] using hno
  | some r =>
    obtain ⟨hr, before, after, hroutes, hno⟩ := find?_eq_some_iff_append.1 hfirst
    rw [Bool.and_eq_true] at hr
    refine ⟨before, r, after, hroutes, rfl, hr.2, fun r' hr' hmatch => ?_⟩
    simpa [hmatch] using hno r' hr'

/-- A cached route that is valid is what a search finds. -/
theorem firstMatch_of_cacheEntry (hnodup : routes.Pairwise fun a b => a.id ≠ b.id) {i : ℕ}
    (h : CacheEntry simTime dest routes (some i)) :
    ∃ r, routes.find? (·.id == i) = some r ∧
      (r.isValid simTime = true → firstMatch simTime dest routes = some r) := by
  obtain ⟨before, r, after, rfl, rfl, hmatch, hno⟩ := h
  refine ⟨r, ?_, fun hvalid => ?_⟩
  · refine find?_eq_some_iff_append.2 ⟨by simp, before, after, rfl, fun r' hr' => ?_⟩
    have := (pairwise_append.1 hnodup).2.2 r' hr' r mem_cons_self
    simpa using this
  · refine find?_eq_some_iff_append.2
      ⟨by rw [hvalid, hmatch]; rfl, before, after, rfl, fun r' hr' => ?_⟩
    cases hm : r'.isMatch dest with
    | false => simp
    | true => simp [hno r' hr' hm]

/-- The cache does not change what is found, and a lookup keeps the invariant. -/
theorem Ok.findBestMatchingRoute_eq (h : Ok simTime t) (dest : IPv4Address) :
    ∃ t', t.findBestMatchingRoute simTime dest = .ok (firstMatch simTime dest t.routes, t') ∧
      t'.routes = t.routes ∧ Ok simTime t' := by
  have hsearch : Ok simTime (t.remember dest (firstMatch simTime dest t.routes)) := by
    refine ⟨h.routes, fun d c hc => ?_⟩
    unfold remember at hc
    dsimp only at hc
    split_ifs at hc with hd
    · cases hc
      exact hd ▸ cacheEntry_firstMatch simTime dest t.routes
    · exact h.cache d c hc
  unfold findBestMatchingRoute
  cases hcache : t.routingCache dest with
  | none => exact ⟨_, rfl, rfl, hsearch⟩
  | some c =>
    cases c with
    | none =>
      have hnone : firstMatch simTime dest t.routes = none := by
        refine find?_eq_none.2 fun r hr hboth => ?_
        rw [Bool.and_eq_true] at hboth
        have hinvalid := h.cache dest none hcache r hr hboth.2
        rw [hboth.1] at hinvalid
        cases hinvalid
      exact ⟨t, by rw [hnone], rfl, h⟩
    | some i =>
      obtain ⟨r, hr, hvalid⟩ := firstMatch_of_cacheEntry h.routes.nodup (h.cache dest _ hcache)
      dsimp only
      rw [hr]
      dsimp only
      split_ifs with hv
      · exact ⟨t, by rw [hvalid hv], rfl, h⟩
      · exact ⟨_, rfl, rfl, hsearch⟩

/-- Time passes. -/
theorem Ok.advance (h : Ok simTime t) {simTime' : ℤ} (hle : simTime ≤ simTime') :
    Ok simTime' t := by
  have hexpire : ∀ r : IPv4Route, r.isValid simTime = false → r.isValid simTime' = false := by
    intro r hr
    unfold IPv4Route.isValid at hr ⊢
    rw [Bool.or_eq_false_iff, decide_eq_false_iff_not] at hr ⊢
    exact ⟨hr.1, by omega⟩
  refine ⟨h.routes, fun dest c hc => ?_⟩
  have hentry := h.cache dest c hc
  cases c with
  | none => exact fun r hr hmatch => hexpire r (hentry r hr hmatch)
  | some i =>
    obtain ⟨before, r, after, hroutes, hid, hmatch, hno⟩ := hentry
    exact ⟨before, r, after, hroutes, hid, hmatch, fun r' hr' hm => hexpire r' (hno r' hr' hm)⟩

/-- A change of a field that no lookup reads keeps the cache right. -/
theorem CacheEntry.modify {c : Option ℕ} (h : CacheEntry simTime dest routes c) {i : ℕ}
    {f : IPv4Route → IPv4Route} (hid : ∀ r, (f r).id = r.id)
    (hmatch : ∀ r, (f r).isMatch dest = r.isMatch dest)
    (hvalid : ∀ r, (f r).isValid simTime = r.isValid simTime) :
    CacheEntry simTime dest (modify i f routes) c := by
  have hg : ∀ r : IPv4Route, (if r.id = i then f r else r).id = r.id ∧
      (if r.id = i then f r else r).isMatch dest = r.isMatch dest ∧
      (if r.id = i then f r else r).isValid simTime = r.isValid simTime := by
    intro r
    split_ifs
    · exact ⟨hid r, hmatch r, hvalid r⟩
    · exact ⟨rfl, rfl, rfl⟩
  unfold RoutingTable.modify
  cases c with
  | none =>
    intro r hr hm
    obtain ⟨r', hr', rfl⟩ := mem_map.1 hr
    rw [(hg r').2.1] at hm
    rw [(hg r').2.2]
    exact h r' hr' hm
  | some j =>
    obtain ⟨before, r, after, rfl, hj, hm, hno⟩ := h
    refine ⟨_, _, _, by rw [map_append, map_cons], (hg r).1.trans hj,
      (hg r).2.1.trans hm, fun r' hr' hm' => ?_⟩
    obtain ⟨r'', hr'', rfl⟩ := mem_map.1 hr'
    rw [(hg r'').2.1] at hm'
    rw [(hg r'').2.2]
    exact hno r'' hr'' hm'

end Cache

/-! ### The operations keep the invariant -/

section Operations

variable {simTime : ℤ} {t t' : RoutingTable} {i : ℕ}

theorem Ok.removeRoute (h : Ok simTime t) (i : ℕ) : Ok simTime (t.removeRoute i) := by
  unfold RoutingTable.removeRoute
  split_ifs
  · exact (h.routes.sublist eraseP_sublist : RoutesOk (t.internalRemoveRoute i).routes)
      |>.ok_invalidateCache
  · exact h

theorem Ok.eraseRoutes (h : Ok simTime t) (p : IPv4Route → Bool) :
    Ok simTime (t.eraseRoutes p) := by
  unfold RoutingTable.eraseRoutes
  split_ifs
  · exact RoutesOk.ok_invalidateCache (h.routes.sublist filter_sublist)
  · exact h

theorem removeRoute_routes_sublist (t : RoutingTable) (i : ℕ) :
    (t.removeRoute i).routes.Sublist t.routes := by
  unfold RoutingTable.removeRoute
  split_ifs
  · exact eraseP_sublist
  · exact List.Sublist.refl _

/-- A route that passes the checks is inserted. -/
theorem routesOk_internalAddRoute (h : RoutesOk t.routes) {entry : IPv4Route}
    (hnew : ∀ r ∈ t.routes, r.id ≠ entry.id)
    (hadd : t.internalAddRoute simTime entry = .ok t') : RoutesOk t'.routes := by
  unfold internalAddRoute at hadd
  split_ifs at hadd with hmask hzero hout hiface hdefault
  all_goals
    rw [Bool.not_eq_true, Bool.not_eq_false'] at hmask
    rw [not_not] at hout
    cases hadd
  · -- the old default route makes room
    split
    · have hsub := removeRoute_routes_sublist t
      exact (h.sublist (hsub _)).insert hmask hout fun r hr => hnew r ((hsub _).subset hr)
    · exact h.insert hmask hout hnew
  · exact h.insert hmask hout hnew

theorem Ok.addRoute (h : Ok simTime t) {entry : IPv4Route}
    (hnew : ∀ r ∈ t.routes, r.id ≠ entry.id) (hadd : t.addRoute simTime entry = .ok t') :
    Ok simTime t' := by
  unfold RoutingTable.addRoute at hadd
  rw [Except.bind_eq_ok] at hadd
  obtain ⟨t'', hint, ht'⟩ := hadd
  cases ht'
  exact (routesOk_internalAddRoute h.routes hnew hint).ok_invalidateCache

variable {fieldCode : FieldCode}

/-- A change of the destination, the netmask or the metric: the route is taken out and put in
again. -/
theorem Ok.setField_reinsert (h : Ok simTime t) {f : IPv4Route → IPv4Route}
    (hset : t.setField simTime i fieldCode f = .ok t')
    (hcode : fieldCode = .destination ∨ fieldCode = .netmask ∨ fieldCode = .metric)
    (hid : ∀ r, (f r).id = r.id) : Ok simTime t' := by
  unfold setField at hset
  cases hfind : t.routes.find? (·.id == i) with
  | none =>
    rw [hfind] at hset
    cases hset
    exact h
  | some r =>
    have hr : r.id = i := by simpa using find?_some hfind
    simp only [hfind, routeChanged, if_pos hcode] at hset
    split_ifs at hset
    · cases hset
      exact h
    · rw [Except.bind_eq_ok] at hset
      obtain ⟨t'', hint, ht'⟩ := hset
      cases ht'
      have herase : ((⟨modify i f t.routes, t.routingCache⟩ : RoutingTable).internalRemoveRoute
          (f r).id).routes = t.routes.eraseP (·.id == i) := by
        unfold internalRemoveRoute
        rw [hid, hr]
        exact eraseP_modify h.routes.nodup hid
      refine (routesOk_internalAddRoute ?_ ?_ hint).ok_invalidateCache
      · rw [herase]
        exact h.routes.sublist eraseP_sublist
      · rw [herase, hid, hr]
        exact fun r' hr' => ne_of_mem_eraseP h.routes.nodup hr'

/-- A change of another field: the route stays where it is, and so does the cache. -/
theorem Ok.setField_inPlace (h : Ok simTime t) {f : IPv4Route → IPv4Route}
    (hset : t.setField simTime i fieldCode f = .ok t')
    (hcode : ¬(fieldCode = .destination ∨ fieldCode = .netmask ∨ fieldCode = .metric))
    (hid : ∀ r, (f r).id = r.id) (hdest : ∀ r, (f r).dest = r.dest)
    (hmask : ∀ r, (f r).netmask = r.netmask) (hexpiry : ∀ r, (f r).expiryTime = r.expiryTime)
    (hsorted : SortedRoutes (modify i f t.routes)) : Ok simTime t' := by
  unfold setField at hset
  cases hfind : t.routes.find? (·.id == i) with
  | none =>
    rw [hfind] at hset
    cases hset
    exact h
  | some r =>
    simp only [hfind, routeChanged, if_neg hcode] at hset
    split_ifs at hset
    · cases hset
      exact h
    · cases hset
      refine ⟨h.routes.modify hid hdest hmask hsorted, fun dest c hc => ?_⟩
      refine (h.cache dest c hc).modify hid (fun r => ?_) fun r => ?_
      · unfold IPv4Route.isMatch
        rw [hdest, hmask]
      · unfold IPv4Route.isValid
        rw [hexpiry]

/-- The interfaces are configured properly and the objects made for them are new. -/
structure FreshRoutes (t : RoutingTable) (ift : List (ℕ × InterfaceEntry)) : Prop where
  netmask : ∀ x ∈ ift, ∀ data ∈ x.2.ipv4Data, isValidNetmask data.netmask = true
  nodup : ift.Pairwise fun x y => x.1 ≠ y.1
  fresh : ∀ x ∈ ift, ∀ r ∈ t.routes, r.sourceType ≠ .ifaceNetmask → r.id ≠ x.1

instance (t : RoutingTable) (ift : List (ℕ × InterfaceEntry)) : Decidable (FreshRoutes t ift) :=
  decidable_of_iff ((∀ x ∈ ift, ∀ data ∈ x.2.ipv4Data, isValidNetmask data.netmask = true) ∧
    (ift.Pairwise fun x y => x.1 ≠ y.1) ∧
    ∀ x ∈ ift, ∀ r ∈ t.routes, r.sourceType ≠ .ifaceNetmask → r.id ≠ x.1)
    ⟨fun h => ⟨h.1, h.2.1, h.2.2⟩, fun h => ⟨h.1, h.2, h.3⟩⟩

theorem netmaskRoute_spec {x : ℕ × InterfaceEntry} {r : IPv4Route}
    (hmask : ∀ data ∈ x.2.ipv4Data, isValidNetmask data.netmask = true)
    (hr : netmaskRoute x = some r) :
    r.id = x.1 ∧ isValidNetmask r.netmask = true ∧ r.dest &&& ~~~r.netmask = 0 := by
  unfold netmaskRoute at hr
  cases hdata : x.2.ipv4Data with
  | none =>
    rw [hdata] at hr
    cases hr
  | some data =>
    rw [hdata] at hr
    dsimp only at hr
    split_ifs at hr
    cases hr
    refine ⟨rfl, hmask data hdata, ?_⟩
    dsimp only
    rw [BitVec.and_assoc, BitVec.and_not_self]
    simp

variable {ift : List (ℕ × InterfaceEntry)}

/-- The new routes are inserted one after the other. -/
theorem routesOk_netmaskRoutes {kept : List IPv4Route} (hkept : RoutesOk kept)
    (hmask : ∀ x ∈ ift, ∀ data ∈ x.2.ipv4Data, isValidNetmask data.netmask = true)
    (hnodup : ift.Pairwise fun x y => x.1 ≠ y.1) (hfresh : ∀ x ∈ ift, ∀ r ∈ kept, r.id ≠ x.1) :
    RoutesOk ((ift.filterMap netmaskRoute).foldl
      (fun routes r => insert routeLessThan r routes) kept) := by
  induction ift generalizing kept with
  | nil => exact hkept
  | cons x ift ih =>
    rw [pairwise_cons] at hnodup
    have hmask' := fun y hy => hmask y (mem_cons_of_mem x hy)
    have hfresh' := fun y hy => hfresh y (mem_cons_of_mem x hy)
    cases hroute : netmaskRoute x with
    | none =>
      rw [filterMap_cons_none hroute]
      exact ih hkept hmask' hnodup.2 hfresh'
    | some r =>
      obtain ⟨hid, hvalid, hdest⟩ := netmaskRoute_spec (hmask x mem_cons_self) hroute
      rw [filterMap_cons_some hroute, foldl_cons]
      refine ih (hkept.insert hvalid hdest fun r' hr' => ?_) hmask' hnodup.2 fun y hy r' hr' => ?_
      · rw [hid]
        exact hfresh x mem_cons_self r' hr'
      · rcases mem_insert.1 hr' with rfl | hr'
        · rw [hid]
          exact hnodup.1 y hy
        · exact hfresh' y hy r' hr'

theorem Ok.updateNetmaskRoutes (h : Ok simTime t) (hift : FreshRoutes t ift) :
    Ok simTime (t.updateNetmaskRoutes ift) :=
  RoutesOk.ok_invalidateCache <| routesOk_netmaskRoutes (h.routes.sublist filter_sublist)
    hift.netmask hift.nodup fun x hx r hr => by
      rw [mem_filter, bne_iff_ne] at hr
      exact hift.fresh x hx r hr.1 hr.2

end Operations

/-! ### The best route -/

/-- The route is installed, valid and matches, its netmask is the longest one, and among those with
the same prefix it has the smallest administrative distance and metric. -/
structure BestRoute (simTime : ℤ) (dest : IPv4Address) (routes : List IPv4Route) (r : IPv4Route) :
    Prop where
  mem : r ∈ routes
  valid : r.isValid simTime = true
  isMatch : r.isMatch dest = true
  longest : ∀ r' ∈ routes, r'.isValid simTime = true → r'.isMatch dest = true →
    getNetmaskLength r'.netmask ≤ getNetmaskLength r.netmask
  smallest : ∀ r' ∈ routes, r'.isValid simTime = true → r'.isMatch dest = true →
    r'.netmask = r.netmask →
      r.adminDist < r'.adminDist ∨ r.adminDist = r'.adminDist ∧ r.metric ≤ r'.metric

theorem getNetmaskLength_le (addr : IPv4Address) : getNetmaskLength addr ≤ 32 := by
  unfold getNetmaskLength
  split <;> omega

theorem makeNetmask_lt : ∀ m < 33, ∀ n < 33, m < n →
    (makeNetmask m).toNat < (makeNetmask n).toNat := by decide +kernel

/-- For netmasks without holes, a greater number is a longer mask. -/
theorem getNetmaskLength_le_of_toNat_le {a b : IPv4Address} (ha : isValidNetmask a = true)
    (hb : isValidNetmask b = true) (hab : a.toNat ≤ b.toNat) :
    getNetmaskLength a ≤ getNetmaskLength b := by
  unfold isValidNetmask at ha hb
  rw [beq_iff_eq] at ha hb
  by_contra hlt
  have hla := getNetmaskLength_le a
  have hmask := makeNetmask_lt (getNetmaskLength b) (by omega) (getNetmaskLength a) (by omega)
    (by omega)
  rw [← ha, ← hb] at hmask
  omega

/-- A route without bits outside its netmask is determined by the netmask and a destination that it
matches. -/
theorem dest_eq_of_isMatch {dest : IPv4Address} {r : IPv4Route} (hr : r.dest &&& ~~~r.netmask = 0)
    (hmatch : r.isMatch dest = true) : r.dest = dest &&& r.netmask := by
  unfold IPv4Route.isMatch maskedAddrAreEqual at hmatch
  rw [beq_iff_eq] at hmatch
  ext i hi
  have h1 := congrArg (·.getLsbD i) hr
  have h2 := congrArg (·.getLsbD i) hmatch
  simp only [BitVec.getLsbD_and, BitVec.getLsbD_xor, BitVec.getLsbD_not, hi, decide_true,
    Bool.true_and] at h1 h2
  simp only [← BitVec.getLsbD_eq_getElem, BitVec.getLsbD_and]
  revert h1 h2
  cases r.dest.getLsbD i <;> cases r.netmask.getLsbD i <;> cases dest.getLsbD i <;> simp

/-- The first match is the best route. -/
theorem RoutesOk.firstMatch_best {routes : List IPv4Route} (h : RoutesOk routes) (simTime : ℤ)
    (dest : IPv4Address) :
    (∀ r, firstMatch simTime dest routes = some r → BestRoute simTime dest routes r) ∧
      (firstMatch simTime dest routes = none ↔
        ∀ r ∈ routes, r.isValid simTime = true → r.isMatch dest = false) := by
  constructor
  · intro r hr
    obtain ⟨hboth, before, after, hroutes, hno⟩ := find?_eq_some_iff_append.1 hr
    rw [Bool.and_eq_true] at hboth
    have hmem : r ∈ routes := mem_of_find?_eq_some hr
    -- the other matches come after it
    have hle : ∀ r' ∈ routes, r'.isValid simTime = true → r'.isMatch dest = true →
        key r ≤ key r' := by
      intro r' hr' hv hm
      have hsorted := sortedRoutes_iff.1 h.sorted
      rw [hroutes, mem_append, mem_cons] at hr'
      rw [hroutes, pairwise_append, pairwise_cons] at hsorted
      rcases hr' with hr' | rfl | hr'
      · simpa [hv, hm] using hno r' hr'
      · exact le_rfl
      · exact hsorted.2.1.1 r' hr'
    refine ⟨hmem, hboth.1, hboth.2, fun r' hr' hv hm => ?_, fun r' hr' hv hm hmask => ?_⟩
    · have hkey := hle r' hr' hv hm
      unfold key at hkey
      rw [Prod.Lex.toLex_le_toLex] at hkey
      refine getNetmaskLength_le_of_toNat_le (h.wellFormed r' hr').1 (h.wellFormed r hmem).1 ?_
      rcases hkey with hlt | heq
      · exact (OrderDual.toDual_lt_toDual.1 hlt).le
      · exact (OrderDual.toDual_inj.1 heq.1).ge
    · have hkey := hle r' hr' hv hm
      have hdest : r.dest = r'.dest := by
        rw [dest_eq_of_isMatch (h.wellFormed r hmem).2 hboth.2,
          dest_eq_of_isMatch (h.wellFormed r' hr').2 hm, hmask]
      unfold key at hkey
      simpa [Prod.Lex.toLex_le_toLex, hmask, hdest] using hkey
  · unfold firstMatch
    rw [find?_eq_none]
    simp

end RoutingTable

/-! ### Histories -/

/-- A routing table in the course of time. -/
structure RoutingRun where
  table : RoutingTable
  simTime : ℤ

namespace RoutingRun

open RoutingTable

/-- No routes at time 0. -/
def init : RoutingRun := ⟨RoutingTable.empty, 0⟩

/-- A call, a notification or the passing of time. -/
inductive Action
  | addRoute (entry : IPv4Route)
  | removeRoute (i : ℕ)
  | deleteRoute (i : ℕ)
  | setDestination (i : ℕ) (dest : IPv4Address)
  | setNetmask (i : ℕ) (netmask : IPv4Address)
  | setGateway (i : ℕ) (gateway : IPv4Address)
  | setInterface (i : ℕ) (interfacePtr : Option ℕ)
  | setSourceType (i : ℕ) (sourceType : SourceType)
  | setAdminDist (i adminDist : ℕ)
  | setMetric (i : ℕ) (metric : ℤ)
  | updateNetmaskRoutes (ift : List (ℕ × InterfaceEntry))
  | deleteInterfaceRoutes (entry : ℕ)
  | purge
  | invalidateCache
  | findBestMatchingRoute (dest : IPv4Address)
  | advance (simTime : ℤ)
  deriving DecidableEq

/-- The effect of a call on the table. -/
def call (t : RoutingTable) (simTime : ℤ) : Action → Except RoutingFault RoutingTable
  | .addRoute entry => t.addRoute simTime entry
  | .removeRoute i => .ok (t.removeRoute i)
  | .deleteRoute i => .ok (t.removeRoute i)
  | .setDestination i dest => t.setDestination simTime i dest
  | .setNetmask i netmask => t.setNetmask simTime i netmask
  | .setGateway i gateway => t.setGateway simTime i gateway
  | .setInterface i interfacePtr => t.setInterface simTime i interfacePtr
  | .setSourceType i sourceType => t.setSourceType simTime i sourceType
  | .setAdminDist i adminDist => t.setAdminDist simTime i adminDist
  | .setMetric i metric => t.setMetric simTime i metric
  | .updateNetmaskRoutes ift => .ok (t.updateNetmaskRoutes ift)
  | .deleteInterfaceRoutes entry => .ok (t.deleteInterfaceRoutes entry)
  | .purge => .ok (t.purge simTime)
  | .invalidateCache => .ok t.invalidateCache
  | .findBestMatchingRoute dest => do
    let (_, t) ← t.findBestMatchingRoute simTime dest
    pure t
  | .advance _ => .ok t

/-- The simulation time after an action. -/
def timeAfter (simTime : ℤ) : Action → ℤ
  | .advance simTime' => simTime'
  | _ => simTime

/-- The effect of an action. -/
def step (s : RoutingRun) (act : Action) : Except RoutingFault RoutingRun := do
  let table ← call s.table s.simTime act
  pure ⟨table, timeAfter s.simTime act⟩

/-- What callers take care of: a route that is added is not installed already, interfaces have
netmasks without holes, and time does not run backwards. -/
def Proper (s : RoutingRun) : Action → Prop
  | .addRoute entry => ∀ r ∈ s.table.routes, r.id ≠ entry.id
  | .updateNetmaskRoutes ift => FreshRoutes s.table ift
  | .advance simTime => s.simTime ≤ simTime
  | _ => True

/-- A new administrative distance leaves the vector sorted. -/
def KeepsSorted (s : RoutingRun) : Action → Prop
  | .setAdminDist i adminDist =>
    SortedRoutes (modify i (fun r => { r with adminDist }) s.table.routes)
  | _ => True

instance (s : RoutingRun) : (act : Action) → Decidable (Proper s act)
  | .addRoute entry => inferInstanceAs (Decidable (∀ r ∈ s.table.routes, r.id ≠ entry.id))
  | .updateNetmaskRoutes ift => inferInstanceAs (Decidable (FreshRoutes s.table ift))
  | .advance simTime => inferInstanceAs (Decidable (s.simTime ≤ simTime))
  | .removeRoute _ | .deleteRoute _ | .setDestination _ _ | .setNetmask _ _ | .setGateway _ _
  | .setInterface _ _ | .setSourceType _ _ | .setAdminDist _ _ | .setMetric _ _
  | .deleteInterfaceRoutes _ | .purge | .invalidateCache | .findBestMatchingRoute _ =>
    inferInstanceAs (Decidable True)

instance (s : RoutingRun) : (act : Action) → Decidable (KeepsSorted s act)
  | .setAdminDist i adminDist => inferInstanceAs
      (Decidable (SortedRoutes (modify i (fun r => { r with adminDist }) s.table.routes)))
  | .addRoute _ | .updateNetmaskRoutes _ | .advance _
  | .removeRoute _ | .deleteRoute _ | .setDestination _ _ | .setNetmask _ _ | .setGateway _ _
  | .setInterface _ _ | .setSourceType _ _ | .setMetric _ _
  | .deleteInterfaceRoutes _ | .purge | .invalidateCache | .findBestMatchingRoute _ =>
    inferInstanceAs (Decidable True)

variable {act : Action}

theorem ok_call {t t' : RoutingTable} {simTime : ℤ} (h : Ok simTime t)
    (hproper : Proper ⟨t, simTime⟩ act) (hsorted : KeepsSorted ⟨t, simTime⟩ act)
    (hcall : call t simTime act = .ok t') : Ok simTime t' := by
  have hkeep : ∀ {i : ℕ} {f : IPv4Route → IPv4Route}, (∀ r, key (f r) = key r) →
      SortedRoutes (modify i f t.routes) := fun hkey => sorted_modify_of_key h.routes.sorted hkey
  cases act with
  | addRoute entry => exact h.addRoute hproper hcall
  | removeRoute i =>
    cases hcall
    exact h.removeRoute i
  | deleteRoute i =>
    cases hcall
    exact h.removeRoute i
  | setDestination i dest => exact h.setField_reinsert hcall (.inl rfl) fun _ => rfl
  | setNetmask i netmask => exact h.setField_reinsert hcall (.inr (.inl rfl)) fun _ => rfl
  | setMetric i metric => exact h.setField_reinsert hcall (.inr (.inr rfl)) fun _ => rfl
  | setGateway i gateway =>
    exact h.setField_inPlace hcall (by decide) (fun _ => rfl) (fun _ => rfl) (fun _ => rfl)
      (fun _ => rfl) (hkeep fun _ => rfl)
  | setInterface i interfacePtr =>
    exact h.setField_inPlace hcall (by decide) (fun _ => rfl) (fun _ => rfl) (fun _ => rfl)
      (fun _ => rfl) (hkeep fun _ => rfl)
  | setSourceType i sourceType =>
    exact h.setField_inPlace hcall (by decide) (fun _ => rfl) (fun _ => rfl) (fun _ => rfl)
      (fun _ => rfl) (hkeep fun _ => rfl)
  | setAdminDist i adminDist =>
    exact h.setField_inPlace hcall (by decide) (fun _ => rfl) (fun _ => rfl) (fun _ => rfl)
      (fun _ => rfl) hsorted
  | updateNetmaskRoutes ift =>
    cases hcall
    exact h.updateNetmaskRoutes hproper
  | deleteInterfaceRoutes entry =>
    cases hcall
    exact h.eraseRoutes _
  | purge =>
    cases hcall
    exact h.eraseRoutes _
  | invalidateCache =>
    cases hcall
    exact h.routes.ok_invalidateCache
  | findBestMatchingRoute dest =>
    obtain ⟨t'', hfind, -, hok⟩ := h.findBestMatchingRoute_eq dest
    simp only [call, hfind] at hcall
    cases hcall
    exact hok
  | advance simTime' =>
    cases hcall
    exact h

theorem ok_step {s s' : RoutingRun} (h : Ok s.simTime s.table)
    (hact : Proper s act ∧ KeepsSorted s act) (hstep : s.step act = .ok s') :
    Ok s'.simTime s'.table := by
  unfold step at hstep
  rw [Except.bind_eq_ok] at hstep
  obtain ⟨table, hcall, hs'⟩ := hstep
  cases hs'
  have hok := ok_call h hact.1 hact.2 hcall
  cases act with
  | advance simTime' => exact hok.advance hact.1
  | _ => exact hok

theorem ok_init : Ok init.simTime init.table :=
  ⟨⟨List.Pairwise.nil, fun _ hr => absurd hr not_mem_nil, List.Pairwise.nil⟩,
    fun _ _ hc => by cases hc⟩

/-- After every history in which no new administrative distance unsorts the vector, a lookup of any
destination returns the best valid route, and `NULL` exactly when no valid route matches. -/
theorem best_of_run {acts : List Action} {s : RoutingRun}
    (h : Run step (fun s act => Proper s act ∧ KeepsSorted s act) init acts s)
    (dest : IPv4Address) :
    ∃ res t', s.table.findBestMatchingRoute s.simTime dest = .ok (res, t') ∧
      (∀ r, res = some r → BestRoute s.simTime dest s.table.routes r) ∧
      (res = none ↔ ∀ r ∈ s.table.routes, r.isValid s.simTime = true → r.isMatch dest = false) := by
  have hok : Ok s.simTime s.table :=
    h.invariant (I := fun s => Ok s.simTime s.table) (fun _ _ _ hi ha hs => ok_step hi ha hs) ok_init
  obtain ⟨t', hfind, -, -⟩ := hok.findBestMatchingRoute_eq dest
  exact ⟨_, t', hfind, hok.routes.firstMatch_best s.simTime dest⟩

/-- A route to 10.0.0.0/8 over interface 1. -/
def sampleRoute (id adminDist : ℕ) : IPv4Route :=
  { id, dest := 0x0a000000, netmask := 0xff000000, interfacePtr := some 1, adminDist }

theorem best_of_run_sample : ∃ (s : RoutingRun) (res : Option IPv4Route) (t' : RoutingTable),
    s.table.routes = [sampleRoute 1 15, sampleRoute 2 20] ∧
      s.table.findBestMatchingRoute s.simTime 0x0a010101 = .ok (res, t') ∧
      ∀ r, res = some r → BestRoute s.simTime 0x0a010101 s.table.routes r := by
  obtain ⟨s, hrun, hroutes⟩ : ∃ s, Run step (fun s act => Proper s act ∧ KeepsSorted s act)
      init [.addRoute (sampleRoute 2 20), .addRoute (sampleRoute 1 10),
        .findBestMatchingRoute 0x0a010101, .setAdminDist 1 15] s ∧
      s.table.routes = [sampleRoute 1 15, sampleRoute 2 20] :=
    exists_run_of_exec (by decide +kernel)
  obtain ⟨res, t', hfind, hbest, -⟩ := best_of_run hrun 0x0a010101
  exact ⟨s, res, t', hroutes, hfind, hbest⟩

/-- The first of two routes is made the worse one: it is still found. -/
theorem not_best_of_run : ∃ (acts : List Action) (s : RoutingRun) (r : IPv4Route),
    Run step Proper init acts s ∧
      (s.table.findBestMatchingRoute s.simTime 0x0a010101).toOption.map Prod.fst = some (some r) ∧
      ¬ BestRoute s.simTime 0x0a010101 s.table.routes r := by
  obtain ⟨s, hrun, hs⟩ : ∃ s, Run step Proper init
      [.addRoute (sampleRoute 2 20), .addRoute (sampleRoute 1 10), .setAdminDist 1 30] s ∧
      (s.table.routes, s.simTime,
        (s.table.findBestMatchingRoute s.simTime 0x0a010101).toOption.map Prod.fst) =
      ([sampleRoute 1 30, sampleRoute 2 20], 0, some (some (sampleRoute 1 30))) :=
    exists_run_of_exec (by decide +kernel)
  rw [Prod.mk.injEq, Prod.mk.injEq] at hs
  refine ⟨_, s, sampleRoute 1 30, hrun, hs.2.2, fun hbest => ?_⟩
  have hless := hbest.smallest (sampleRoute 2 20) (by rw [hs.1]; decide)
    (by rw [hs.2.1]; decide) (by decide) rfl
  revert hless
  decide

end RoutingRun

end Hiwis
