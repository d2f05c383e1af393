import Hiwis.Ospf.RoutingTableEntry

/-!
# OSPF interfaces and neighbours

The parts of `OSPF::Interface` and `OSPF::Neighbor` that say which routers are on a network.
-/

namespace Hiwis

namespace OSPF

/-- `DesignatedRouterID`. -/
structure DesignatedRouterID where
  routerID : RouterID
  ipInterfaceAddress : IPv4Address
  deriving DecidableEq

/-- `NULL_DESIGNATEDROUTERID`. -/
def nullDesignatedRouterID : DesignatedRouterID := ⟨0, 0⟩

/-- `NeighborStateType`. -/
inductive NeighborStateType
  | down
  | attempt
  | init
  | twoWay
  | exchangeStart
  | exchange
  | loading
  | full
  deriving DecidableEq

/-- The values of the enumeration. -/
def NeighborStateType.value : NeighborStateType → ℕ
  | .down => 0
  | .attempt => 1
  | .init => 2
  | .twoWay => 4
  | .exchangeStart => 8
  | .exchange => 16
  | .loading => 32
  | .full => 64

/-- `Neighbor`, as other routers of the network see it. -/
structure Neighbor where
  state : NeighborStateType
  neighborID : RouterID
  neighborPriority : ℕ
  neighborIPAddress : IPv4Address
  neighborsDesignatedRouter : DesignatedRouterID
  neighborsBackupDesignatedRouter : DesignatedRouterID
  deriving DecidableEq

/-- `OSPFInterfaceType`. -/
inductive OSPFInterfaceType
  | unknownType
  | pointToPoint
  | broadcast
  | nbma
  | pointToMultipoint
  | virtual
  deriving DecidableEq

/-- `InterfaceStateType`. -/
inductive InterfaceStateType
  | down
  | loopback
  | waiting
  | pointToPoint
  | notDesignatedRouter
  | backup
  | designatedRouter
  deriving DecidableEq

/-- The values of the enumeration. -/
def InterfaceStateType.value : InterfaceStateType → ℕ
  | .down => 0
  | .loopback => 1
  | .waiting => 2
  | .pointToPoint => 3
  | .notDesignatedRouter => 4
  | .backup => 5
  | .designatedRouter => 6

/-- `Interface`, with the routers on its network. -/
structure Interface where
  interfaceType : OSPFInterfaceType
  state : InterfaceStateType
  ifIndex : ℤ
  interfaceAddressRange : IPv4AddressRange
  routerPriority : ℕ
  designatedRouter : DesignatedRouterID
  backupDesignatedRouter : DesignatedRouterID
  neighboringRouters : List Neighbor
  deriving DecidableEq

end OSPF

end Hiwis
