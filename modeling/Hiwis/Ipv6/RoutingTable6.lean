import Hiwis.Lib.Trace

/-!
# The IPv6 routing table

`RoutingTable6`: the routes, and the destination cache.  Routes are named by their positions in the
list.  `std::sort` may put routes of which none is less than the other in any order, so it is a
parameter (`RouteSort`).
-/

namespace Hiwis

/-- `IPv6Address`. -/
abbrev IPv6Address : Type := BitVec 128

namespace IPv6Address

/-- `UNSPECIFIED_ADDRESS`. -/
def unspecifiedAddress : IPv6Address := 0

/-- `isUnspecified`. -/
def isUnspecified (addr : IPv6Address) : Bool := addr == unspecifiedAddress

/-- `constructMask`, for a length that passes its assertion. -/
def constructMask (prefixLength : ℤ) : IPv6Address :=
  BitVec.allOnes 128 <<< (128 - prefixLength).toNat

/-- `matches`. -/
def isMatch (addr prefixAddr : IPv6Address) (prefixLength : ℤ) : Bool :=
  (addr ^^^ prefixAddr) &&& constructMask prefixLength == 0

end IPv6Address

namespace Ipv6

/-- `IPv6Route::RouteSrc`. -/
inductive RouteSrc
  | fromRA
  | ownAdvPrefix
  | static
  | routingProt
  deriving DecidableEq

def dDirectlyConnected : ℕ := 0

def dStatic : ℕ := 1

def dUnknown : ℕ := 255

/-- `IPv6Route`. -/
structure IPv6Route where
  destPrefix : IPv6Address
  prefixLength : ℤ
  src : RouteSrc
  interfaceId : ℤ := -1
  /-- The unspecified address stands for a direct route. -/
  nextHop : IPv6Address := .unspecifiedAddress
  /-- 0 stands for a route that does not expire. -/
  expiryTime : ℤ := 0
  metric : ℤ := 0
  adminDist : ℕ := dUnknown
  deriving DecidableEq

/-- `DestCacheEntry`. -/
structure DestCacheEntry where
  interfaceId : ℤ
  nextHopAddr : IPv6Address
  expiryTime : ℤ
  deriving DecidableEq

inductive RouteFault
  /-- A failed `ASSERT`. -/
  | assertion
  /-- A loop that does not advance. -/
  | diverges
  deriving DecidableEq

def routeLessThan (a b : IPv6Route) : Bool :=
  if a.prefixLength ≠ b.prefixLength then b.prefixLength < a.prefixLength
  else if a.adminDist ≠ b.adminDist then a.adminDist < b.adminDist
  else a.metric < b.metric

/-- `std::sort` by `routeLessThan`. -/
structure RouteSort where
  sort : List IPv6Route → List IPv6Route
  perm : ∀ l, (sort l).Perm l
  sorted : ∀ l, (sort l).Pairwise fun a b => routeLessThan b a = false

/-- The state of the module. -/
structure State where
  now : ℤ := 0
  routeList : List IPv6Route := []
  destCache : List (IPv6Address × DestCacheEntry) := []

namespace IPv6Route

/-- The assertion of `constructMask`. -/
def validLength (r : IPv6Route) : Bool := 0 ≤ r.prefixLength && r.prefixLength ≤ 128

def isMatch (r : IPv6Route) (dest : IPv6Address) : Bool := dest.isMatch r.destPrefix r.prefixLength

def isExpired (r : IPv6Route) (now : ℤ) : Bool := r.expiryTime < now && r.expiryTime != 0

/-- The route to a prefix, from a source. -/
def isPrefixFrom (src : RouteSrc) (destPrefix : IPv6Address) (prefixLength : ℤ) (r : IPv6Route) :
    Bool :=
  r.src == src && r.destPrefix == destPrefix && r.prefixLength == prefixLength

/-- A default route of an interface. -/
def isDefaultOf (interfaceID : ℤ) (r : IPv6Route) : Bool :=
  r.interfaceId == interfaceID && r.prefixLength == 0

/-- A prefix of an interface. -/
def isPrefixOf (interfaceID : ℤ) (r : IPv6Route) : Bool :=
  r.interfaceId == interfaceID && 0 < r.prefixLength

/-- The next hop that is put into the cache. -/
def nextHopFor (r : IPv6Route) (dest : IPv6Address) : IPv6Address :=
  if r.nextHop.isUnspecified then dest else r.nextHop

end IPv6Route

/-- `doLongestPrefixMatch`: the route, and the list after it.  An expired route of a router
advertisement is erased; at another expired route that matches the iterator does not advance. -/
def doLongestPrefixMatch (now : ℤ) (dest : IPv6Address) :
    List IPv6Route → Except RouteFault (Option IPv6Route × List IPv6Route)
  | [] => .ok (none, [])
  | r :: rs =>
    if !r.validLength then .error .assertion
    else if r.isMatch dest then
      if r.isExpired now then
        if r.src = .fromRA then doLongestPrefixMatch now dest rs else .error .diverges
      else .ok (some r, r :: rs)
    else (doLongestPrefixMatch now dest rs).map fun x => (x.1, r :: x.2)

namespace State

variable (p : RouteSort) (s : State)

/-! ### The destination cache -/

def findDestCache (dest : IPv6Address) : Option DestCacheEntry :=
  (s.destCache.find? fun x => x.1 == dest).map Prod.snd

def eraseDestCache (dest : IPv6Address) : State :=
  { s with destCache := s.destCache.filter fun x => x.1 != dest }

/-- `lookupDestCache`: the interface, which is -1 when there is no entry, and the next hop. -/
def lookupDestCache (dest : IPv6Address) : (ℤ × IPv6Address) × State :=
  match s.findDestCache dest with
  | none => ((-1, .unspecifiedAddress), s)
  | some entry =>
    if 0 < entry.expiryTime ∧ entry.expiryTime < s.now then
      ((-1, .unspecifiedAddress), s.eraseDestCache dest)
    else ((entry.interfaceId, entry.nextHopAddr), s)

def updateDestCache (dest nextHopAddr : IPv6Address) (interfaceId expiryTime : ℤ) : State :=
  { s with destCache :=
      (dest, ⟨interfaceId, nextHopAddr, expiryTime⟩) :: (s.eraseDestCache dest).destCache }

def purgeDestCache : State := { s with destCache := [] }

def purgeDestCacheEntriesToNeighbour (nextHopAddr : IPv6Address) (interfaceId : ℤ) : State :=
  { s with destCache := s.destCache.filter fun x =>
      !(x.2.interfaceId == interfaceId && x.2.nextHopAddr == nextHopAddr) }

def purgeDestCacheForInterfaceID (interfaceId : ℤ) : State :=
  { s with destCache := s.destCache.filter fun x => x.2.interfaceId != interfaceId }

/-- `IPv6::determineOutputInterface`: the interface and the next hop, if there are any. -/
def determineOutputInterface (destAddress : IPv6Address) :
    Except RouteFault (Option (ℤ × IPv6Address) × State) :=
  let (out, s) := s.lookupDestCache destAddress
  if out.1 ≠ -1 then .ok (some out, s)
  else
    (doLongestPrefixMatch s.now destAddress s.routeList).map fun (route, routes) =>
      let s := { s with routeList := routes }
      match route with
      | none => (none, s)
      | some route =>
        let nextHop := route.nextHopFor destAddress
        (some (route.interfaceId, nextHop),
          s.updateDestCache destAddress nextHop route.interfaceId route.expiryTime)

/-! ### Fields of routes -/

/-- A field of a route changes. -/
def modifyRoute (i : ℕ) (f : IPv6Route → IPv6Route) : State :=
  { s with routeList := s.routeList.modify i f }

def setInterfaceId (i : ℕ) (interfaceId : ℤ) : State :=
  if s.routeList[i]?.any fun r => r.interfaceId != interfaceId then
    (s.modifyRoute i fun r => { r with interfaceId := interfaceId }).purgeDestCache
  else s

def setNextHop (i : ℕ) (nextHop : IPv6Address) : State :=
  if s.routeList[i]?.any fun r => r.nextHop != nextHop then
    (s.modifyRoute i fun r => { r with nextHop := nextHop }).purgeDestCache
  else s

/-- `routeChanged` does not purge the cache here, nor for the next two fields. -/
def setExpiryTime (i : ℕ) (expiryTime : ℤ) : State :=
  s.modifyRoute i fun r => { r with expiryTime := expiryTime }

def setMetric (i : ℕ) (metric : ℤ) : State := s.modifyRoute i fun r => { r with metric := metric }

def setAdminDist (i adminDist : ℕ) : State :=
  s.modifyRoute i fun r => { r with adminDist := adminDist }

/-! ### Adding and removing routes -/

def addRoute (route : IPv6Route) : State :=
  { s with routeList := p.sort (s.routeList ++ [route]) }.purgeDestCache

/-- `addOrUpdateOnLinkPrefix` and `addOrUpdateOwnAdvPrefix`, which differ in the source of the
route. -/
def addOrUpdatePrefix (src : RouteSrc) (destPrefix : IPv6Address) (prefixLength interfaceId
    expiryTime : ℤ) : State :=
  match s.routeList.findIdx? (IPv6Route.isPrefixFrom src destPrefix prefixLength) with
  | none => s.addRoute p {
      destPrefix := destPrefix
      prefixLength := prefixLength
      src := src
      interfaceId := interfaceId
      expiryTime := expiryTime
      metric := 0
      adminDist := dDirectlyConnected }
  | some i => (s.setInterfaceId i interfaceId).setExpiryTime i expiryTime

section

variable (destPrefix : IPv6Address)

def addOrUpdateOnLinkPrefix (prefixLength interfaceId expiryTime : ℤ) :
    State :=
  s.addOrUpdatePrefix p .fromRA destPrefix prefixLength interfaceId expiryTime

def addOrUpdateOwnAdvPrefix (prefixLength interfaceId expiryTime : ℤ) :
    State :=
  s.addOrUpdatePrefix p .ownAdvPrefix destPrefix prefixLength interfaceId expiryTime

/-- The first such route is erased; the cache is not purged. -/
def removeOnLinkPrefix (prefixLength : ℤ) : State :=
  { s with
    routeList := s.routeList.eraseP (IPv6Route.isPrefixFrom .fromRA destPrefix prefixLength) }

def addStaticRoute (prefixLength interfaceId : ℤ) (nextHop : IPv6Address) (metric : ℤ) : State :=
  s.addRoute p {
    destPrefix := destPrefix
    prefixLength := prefixLength
    src := .static
    interfaceId := interfaceId
    nextHop := nextHop
    metric := if metric = 0 then 10 else metric
    adminDist := dStatic }

end

def addDefaultRoute (nextHop : IPv6Address) (ifID routerLifetime : ℤ) : State :=
  s.addRoute p {
    destPrefix := .unspecifiedAddress
    prefixLength := 0
    src := .fromRA
    interfaceId := ifID
    nextHop := nextHop
    expiryTime := routerLifetime
    metric := 10
    adminDist := dStatic }

def addRoutingProtocolRoute (route : IPv6Route) : Except RouteFault State :=
  if route.src ≠ .routingProt then .error .assertion else .ok (s.addRoute p route)

def removeRoute (i : ℕ) : Except RouteFault State :=
  if s.routeList.length ≤ i then .error .assertion
  else .ok { s with routeList := s.routeList.eraseIdx i }.purgeDestCache

/-- The cache is not purged, nor by the next two functions. -/
def removeDefaultRoutes (interfaceID : ℤ) : State :=
  { s with routeList := s.routeList.filter fun r => !r.isDefaultOf interfaceID }

def removeAllRoutes : State := { s with routeList := [] }

def removePrefixes (interfaceID : ℤ) : State :=
  { s with routeList := s.routeList.filter fun r => !r.isPrefixOf interfaceID }

/-- `receiveChangeNotification`, for an interface that is deleted. -/
def interfaceDeleted (interfaceId : ℤ) : State := s.purgeDestCacheForInterfaceID interfaceId

/-- `receiveChangeNotification`, for an interface whose state has changed. -/
def interfaceStateChanged (interfaceId : ℤ) (isUp : Bool) : State :=
  if !isUp then s.purgeDestCacheForInterfaceID interfaceId else s

end State

/-! ### Steps -/

inductive Action
  | determineOutputInterface (destAddress : IPv6Address)
  | addOrUpdateOnLinkPrefix (destPrefix : IPv6Address) (prefixLength interfaceId expiryTime : ℤ)
  | addOrUpdateOwnAdvPrefix (destPrefix : IPv6Address) (prefixLength interfaceId expiryTime : ℤ)
  | removeOnLinkPrefix (destPrefix : IPv6Address) (prefixLength : ℤ)
  | addStaticRoute (destPrefix : IPv6Address) (prefixLength interfaceId : ℤ) (nextHop : IPv6Address)
      (metric : ℤ)
  | addDefaultRoute (nextHop : IPv6Address) (ifID routerLifetime : ℤ)
  | addRoutingProtocolRoute (route : IPv6Route)
  | removeRoute (i : ℕ)
  | removeDefaultRoutes (interfaceID : ℤ)
  | removeAllRoutes
  | removePrefixes (interfaceID : ℤ)
  | setInterfaceId (i : ℕ) (interfaceId : ℤ)
  | setNextHop (i : ℕ) (nextHop : IPv6Address)
  | setExpiryTime (i : ℕ) (expiryTime : ℤ)
  | setMetric (i : ℕ) (metric : ℤ)
  | setAdminDist (i adminDist : ℕ)
  | interfaceDeleted (interfaceId : ℤ)
  | interfaceStateChanged (interfaceId : ℤ) (isUp : Bool)
  | purgeDestCacheEntriesToNeighbour (nextHopAddr : IPv6Address) (interfaceId : ℤ)

/-- A call of the module. -/
def call (p : RouteSort) (s : State) : Action → Except RouteFault State
  | .determineOutputInterface dest => (s.determineOutputInterface dest).map Prod.snd
  | .addOrUpdateOnLinkPrefix dest len ifId exp =>
    .ok (s.addOrUpdateOnLinkPrefix p dest len ifId exp)
  | .addOrUpdateOwnAdvPrefix dest len ifId exp =>
    .ok (s.addOrUpdateOwnAdvPrefix p dest len ifId exp)
  | .removeOnLinkPrefix dest len => .ok (s.removeOnLinkPrefix dest len)
  | .addStaticRoute dest len ifId nextHop metric =>
    .ok (s.addStaticRoute p dest len ifId nextHop metric)
  | .addDefaultRoute nextHop ifID routerLifetime =>
    .ok (s.addDefaultRoute p nextHop ifID routerLifetime)
  | .addRoutingProtocolRoute route => s.addRoutingProtocolRoute p route
  | .removeRoute i => s.removeRoute i
  | .removeDefaultRoutes ifID => .ok (s.removeDefaultRoutes ifID)
  | .removeAllRoutes => .ok s.removeAllRoutes
  | .removePrefixes ifID => .ok (s.removePrefixes ifID)
  | .setInterfaceId i ifId => .ok (s.setInterfaceId i ifId)
  | .setNextHop i nextHop => .ok (s.setNextHop i nextHop)
  | .setExpiryTime i exp => .ok (s.setExpiryTime i exp)
  | .setMetric i metric => .ok (s.setMetric i metric)
  | .setAdminDist i adminDist => .ok (s.setAdminDist i adminDist)
  | .interfaceDeleted ifId => .ok (s.interfaceDeleted ifId)
  | .interfaceStateChanged ifId isUp => .ok (s.interfaceStateChanged ifId isUp)
  | .purgeDestCacheEntriesToNeighbour nextHop ifId =>
    .ok (s.purgeDestCacheEntriesToNeighbour nextHop ifId)

/-- A call at a time. -/
def step (p : RouteSort) (s : State) (a : ℤ × Action) : Except RouteFault State :=
  call p { s with now := a.1 } a.2

end Ipv6

end Hiwis
