import Hiwis.Ipv4.RoutingTable
import Hiwis.Lib.Ensures

/-!
# The optimization of routes by the network configurator

`optimizeRoutes` merges routes of a node that forward packets in the same way, until no two of them
can be merged.  Such routes have the same color.  A merged route has the longest common prefix, and
may match addresses that neither of the two routes has matched.
-/

namespace Hiwis

open IPv4Address

namespace IPv4NetworkConfigurator

/-- A route in the format of the optimizer. -/
structure OriginalRouteInfo where
  /-- The index of a route that forwards packets in the same way. -/
  color : ℕ
  destination : IPv4Address
  netmask : IPv4Address
  deriving DecidableEq

/-- `RouteInfo`: an optimized route, with the original routes that it takes care of. -/
structure RouteInfo extends OriginalRouteInfo where
  enabled : Bool := true
  originalRouteInfos : List OriginalRouteInfo := []
  deriving DecidableEq

/-- What stops the optimizer. -/
inductive OptimizerFault
  /-- A failed `ASSERT`. -/
  | assertion
  deriving DecidableEq

/-- `routesHaveSameColor`. -/
def routesHaveSameColor (route1 route2 : IPv4Route) : Bool :=
  route1.sourceType == route2.sourceType && route1.metric == route2.metric &&
    route1.gateway == route2.gateway && route1.interfacePtr == route2.interfacePtr

/-- `findRouteIndexWithSameColor`. -/
def findRouteIndexWithSameColor (routes : List IPv4Route) (route : IPv4Route) : Option ℕ :=
  routes.findIdx? fun r => routesHaveSameColor r route

/-! ### `RoutingTableInfo` -/

/-- The route info matches a destination. -/
def OriginalRouteInfo.isMatch (destination : IPv4Address) (r : OriginalRouteInfo) : Bool :=
  (destination ^^^ r.destination) &&& r.netmask == 0

/-- The route info is enabled and matches a destination. -/
def RouteInfo.routes (destination : IPv4Address) (r : RouteInfo) : Bool :=
  r.enabled && r.isMatch destination

/-- `routeInfoLessThan`. -/
def routeInfoLessThan (a b : RouteInfo) : Bool :=
  if a.netmask ≠ b.netmask then decide (b.netmask.toNat < a.netmask.toNat)
  else decide (a.destination.toNat < b.destination.toNat)

/-- `findBestMatchingRouteInfo` between two indices. -/
def findBestMatchingRouteInfo (t : List RouteInfo) (destination : IPv4Address) (first last : ℕ) :
    Option ℕ :=
  (List.range' first (last - first)).find? fun index => t[index]?.any (·.routes destination)

/-- `addRouteInfo`, with the index of the new element. -/
def addRouteInfo (t : List RouteInfo) (routeInfo : RouteInfo) : ℕ × List RouteInfo :=
  (UpperBound.index routeInfoLessThan routeInfo t, UpperBound.insert routeInfoLessThan routeInfo t)

/-! ### Merging two routes -/

/-- `routesCanBeSwapped`. -/
def routesCanBeSwapped (routeInfo1 routeInfo2 : RouteInfo) : Bool :=
  if routeInfo1.color = routeInfo2.color then true
  else
    let netmask := routeInfo1.netmask &&& routeInfo2.netmask
    routeInfo1.destination &&& netmask != routeInfo2.destination &&& netmask

section

variable (t : List RouteInfo)

/-- `routesCanBeNeighbors`. -/
def routesCanBeNeighbors (i j : ℕ) : Bool :=
  (List.range' (min i j + 1) (max i j - (min i j + 1))).all fun index =>
    t[min i j]?.all fun first => t[index]?.all (routesCanBeSwapped first)

/-- `interruptsOriginalRoute`. -/
def interruptsOriginalRoute (first last : ℕ) (o : OriginalRouteInfo) : Bool :=
  (findBestMatchingRouteInfo t o.destination first last).any fun k => t[k]?.any (·.color != o.color)

/-- `interruptsAnyOriginalRoute`. -/
def interruptsAnyOriginalRoute (first last : ℕ) (originalRouteInfos : List OriginalRouteInfo) :
    Bool :=
  decide (first < last) && originalRouteInfos.any (interruptsOriginalRoute t first last)

/-- `interruptsSubsequentOriginalRoutes`. -/
def interruptsSubsequentOriginalRoutes (index : ℕ) : Bool :=
  (t.drop (index + 1)).any fun routeInfo =>
    interruptsAnyOriginalRoute t index (index + 1) routeInfo.originalRouteInfos

/-- `checkOriginalRoutes`. -/
def checkOriginalRoutes (originalRouteInfos : List OriginalRouteInfo) :
    Except OptimizerFault Unit :=
  if originalRouteInfos.all fun o =>
      (findBestMatchingRouteInfo t o.destination 0 t.length).any fun k =>
        t[k]?.any (·.color == o.color) then .ok ()
  else .error .assertion

end

/-- The loop of `findLongestCommonDestinationPrefix`, with the number of bits that are left. -/
def commonPrefixLoop (destination1 netmask1 destination2 netmask2 : IPv4Address) :
    ℕ → IPv4Address → IPv4Address → IPv4Address × IPv4Address
  | 0, destinationOut, netmaskOut => (destinationOut, netmaskOut)
  | bitIndex + 1, destinationOut, netmaskOut =>
    let mask : IPv4Address := 1 <<< bitIndex
    if destination1 &&& mask = destination2 &&& mask ∧ netmask1 &&& mask ≠ 0 ∧
        netmask2 &&& mask ≠ 0 then
      commonPrefixLoop destination1 netmask1 destination2 netmask2 bitIndex
        (destinationOut ||| (destination1 &&& mask)) (netmaskOut ||| mask)
    else (destinationOut, netmaskOut)

/-- `findLongestCommonDestinationPrefix`: the destination and the netmask. -/
def findLongestCommonDestinationPrefix (destination1 netmask1 destination2 netmask2 : IPv4Address) :
    IPv4Address × IPv4Address :=
  commonPrefixLoop destination1 netmask1 destination2 netmask2 32 0 0

/-- `addOriginalRouteInfos`. -/
def addOriginalRouteInfos (first last : ℕ) :
    List OriginalRouteInfo → List RouteInfo → Except OptimizerFault (List RouteInfo)
  | [], t => .ok t
  | o :: rest, t =>
    match findBestMatchingRouteInfo t o.destination first last with
    | none => .error .assertion
    | some k =>
      if t[k]?.any (·.color == o.color) then
        addOriginalRouteInfos first last rest
          (t.modify k fun r => { r with originalRouteInfos := r.originalRouteInfos ++ [o] })
      else .error .assertion

/-- The original routes that the merged route takes over from those that follow it. -/
def capturedRouteInfos (merged : RouteInfo) (following : List RouteInfo) : List OriginalRouteInfo :=
  following.flatMap fun r => r.originalRouteInfos.filter fun o => merged.isMatch o.destination

/-- The original routes that the route at the index `m` captures are moved to it. -/
def captureOriginalRouteInfos (t : List RouteInfo) (m : ℕ) :
    Except OptimizerFault (List RouteInfo) :=
  match t[m]? with
  | none => .ok t
  | some merged =>
    let captured := capturedRouteInfos merged (t.drop (m + 1))
    if captured.all fun o => o.color == merged.color then
      .ok (t.take m ++
        { merged with originalRouteInfos := merged.originalRouteInfos ++ captured } ::
        (t.drop (m + 1)).map fun r =>
          { r with
            originalRouteInfos :=
              r.originalRouteInfos.filter fun o => !merged.isMatch o.destination })
    else .error .assertion

/-- A route is turned off. -/
def disable (t : List RouteInfo) (i : ℕ) : List RouteInfo :=
  t.modify i fun r => { r with enabled := false }

/-- A route is turned on. -/
def enable (t : List RouteInfo) (i : ℕ) : List RouteInfo :=
  t.modify i fun r => { r with enabled := true }

/-- The route that two routes are merged into. -/
def mergedRouteInfo (routeInfoI routeInfoJ : RouteInfo) : RouteInfo :=
  let (destination, netmask) := findLongestCommonDestinationPrefix routeInfoI.destination
    routeInfoI.netmask routeInfoJ.destination routeInfoJ.netmask
  { color := routeInfoI.color, destination, netmask }

/-- The merge conflicts with no route of the table. -/
def mergeIsPossible (t : List RouteInfo) (i j m : ℕ) (routeInfoI routeInfoJ : RouteInfo) : Bool :=
  !interruptsAnyOriginalRoute t (j + 1) i routeInfoJ.originalRouteInfos &&
    !interruptsAnyOriginalRoute t (i + 1) m routeInfoJ.originalRouteInfos &&
    !interruptsAnyOriginalRoute t (i + 1) m routeInfoI.originalRouteInfos &&
    !interruptsSubsequentOriginalRoutes t m

/-- `tryToMergeTwoRoutes`: whether the two routes have been merged, and the table. -/
def tryToMergeTwoRoutes (t : List RouteInfo) (i j : ℕ) (routeInfoI routeInfoJ : RouteInfo) :
    Except OptimizerFault (Bool × List RouteInfo) :=
  let (m, t) := addRouteInfo (disable (disable t i) j) (mergedRouteInfo routeInfoI routeInfoJ)
  if ¬(i < m ∧ j < m) then .error .assertion
  else if mergeIsPossible t i j m routeInfoI routeInfoJ then do
    let t ← addOriginalRouteInfos (i + 1) (m + 1) routeInfoI.originalRouteInfos t
    let t ← addOriginalRouteInfos (j + 1) (m + 1) routeInfoJ.originalRouteInfos t
    let t ← captureOriginalRouteInfos t m
    pure (true, (t.eraseIdx i).eraseIdx j)
  else
    -- the two routes come before the merged one and keep their indices when it is removed
    .ok (false, (enable (enable t i) j).eraseIdx m)

/-! ### The optimizer -/

/-- The pairs of indices in the order in which `tryToMergeAnyTwoRoutes` takes them. -/
def mergePairs (n : ℕ) : List (ℕ × ℕ) :=
  (List.range n).flatMap fun i => (List.range i).reverse.map fun j => (i, j)

/-- `tryToMergeAnyTwoRoutes` for the remaining pairs of indices. -/
def tryToMergePairs :
    List (ℕ × ℕ) → List RouteInfo → Except OptimizerFault (Bool × List RouteInfo)
  | [], t => .ok (false, t)
  | (i, j) :: rest, t =>
    match t[i]?, t[j]? with
    | some routeInfoI, some routeInfoJ =>
      if routeInfoI.color = routeInfoJ.color ∧ routesCanBeNeighbors t i j then do
        let (merged, t) ← tryToMergeTwoRoutes t i j routeInfoI routeInfoJ
        if merged then pure (true, t) else tryToMergePairs rest t
      else tryToMergePairs rest t
    | _, _ => tryToMergePairs rest t

/-- `tryToMergeAnyTwoRoutes`: whether two routes have been merged, and the table. -/
def tryToMergeAnyTwoRoutes (t : List RouteInfo) :
    Except OptimizerFault (Bool × List RouteInfo) :=
  tryToMergePairs (mergePairs t.length) t

/-- The main loop, in at most the given number of rounds. -/
def mergeLoop : ℕ → List RouteInfo → Except OptimizerFault (List RouteInfo)
  | 0, t => .ok t
  | rounds + 1, t => do
    let (merged, t) ← tryToMergeAnyTwoRoutes t
    if merged then mergeLoop rounds t else pure t

/-- The color of a route, and the routes that stand for the colors. -/
def colorOf (colorToRoute : List IPv4Route) (route : IPv4Route) : ℕ × List IPv4Route :=
  match findRouteIndexWithSameColor colorToRoute route with
  | some color => (color, colorToRoute)
  | none => (colorToRoute.length, colorToRoute ++ [route])

/-- Step 1: the routes that stand for the colors, and the original routes with their colors. -/
def colorRoutes : List IPv4Route → List IPv4Route → List IPv4Route × List OriginalRouteInfo
  | [], colorToRoute => (colorToRoute, [])
  | route :: routes, colorToRoute =>
    let (color, colorToRoute) := colorOf colorToRoute route
    let (colorToRoute, infos) := colorRoutes routes colorToRoute
    (colorToRoute, ⟨color, route.dest, route.netmask⟩ :: infos)

/-- The table with a copy of each original route. -/
def initialTable (originalRouteInfos : List OriginalRouteInfo) : List RouteInfo :=
  originalRouteInfos.foldl
    (fun t o => (addRouteInfo t { o with originalRouteInfos := [o] }).2) []

/-- Step 3: the route for a route info; `none` when there is no such color.  The new route has an
identity of its own. -/
def optimizedRoute (colorToRoute : List IPv4Route) (id : ℕ) (routeInfo : RouteInfo) :
    Option IPv4Route :=
  colorToRoute[routeInfo.color]?.map fun routeColor =>
    { id
      dest := routeInfo.destination
      netmask := routeInfo.netmask
      interfacePtr := routeColor.interfacePtr
      gateway := routeColor.gateway
      sourceType := routeColor.sourceType
      metric := routeColor.metric }

/-- `optimizeRoutes`; the identities of the new routes are taken from `nextId` on. -/
def optimizeRoutes (nextId : ℕ) (originalRoutes : List IPv4Route) :
    Except OptimizerFault (List IPv4Route) := do
  let (colorToRoute, originalRouteInfos) := colorRoutes originalRoutes []
  let t := initialTable originalRouteInfos
  checkOriginalRoutes t originalRouteInfos
  -- every round makes the table shorter, so there are not more rounds than routes
  let t ← mergeLoop t.length t
  checkOriginalRoutes t originalRouteInfos
  pure (t.zipIdx.filterMap fun (routeInfo, i) => optimizedRoute colorToRoute (nextId + i) routeInfo)

end IPv4NetworkConfigurator

end Hiwis
