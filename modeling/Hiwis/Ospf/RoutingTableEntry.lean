import Hiwis.Ospf.LSA

/-!
# Entries of the OSPF routing table

`IPv4AddressRange` and `RoutingTableEntry`.
-/

namespace Hiwis

open BitVec

namespace OSPF

/-- `IPv4AddressRange`. -/
structure IPv4AddressRange where
  address : IPv4Address
  mask : IPv4Address
  deriving DecidableEq

/-- `IPv4Address::maskedAddrAreEqual`. -/
def maskedAddrAreEqual (addr1 addr2 netmask : IPv4Address) : Bool :=
  decide ((addr1 ^^^ addr2) &&& netmask = 0)

theorem maskedAddrAreEqual_iff {addr1 addr2 netmask : IPv4Address} :
    maskedAddrAreEqual addr1 addr2 netmask = true ↔ addr1 &&& netmask = addr2 &&& netmask := by
  rw [maskedAddrAreEqual, decide_eq_true_eq]
  constructor
  · intro h
    ext b hb
    have hbit : ((addr1 ^^^ addr2) &&& netmask).getLsbD b = false := by
      rw [h]
      exact getLsbD_zero
    simp only [getLsbD_and, getLsbD_xor] at hbit
    simp only [← getLsbD_eq_getElem, getLsbD_and]
    revert hbit
    cases addr1.getLsbD b <;> cases addr2.getLsbD b <;> cases netmask.getLsbD b <;> simp
  · intro h
    ext b hb
    have hbit := congrArg (·.getLsbD b) h
    simp only [getLsbD_and] at hbit
    simp only [← getLsbD_eq_getElem, getLsbD_and, getLsbD_xor]
    revert hbit
    cases addr1.getLsbD b <;> cases addr2.getLsbD b <;> cases netmask.getLsbD b <;> simp

namespace IPv4AddressRange

/-- `contains`, for an address. -/
def contains (range : IPv4AddressRange) (other : IPv4Address) : Bool :=
  maskedAddrAreEqual range.address other range.mask

/-- `containsRange`. -/
def containsRange (range : IPv4AddressRange) (otherAddress otherMask : IPv4Address) : Bool :=
  maskedAddrAreEqual range.address otherAddress range.mask && decide (range.mask ≤ otherMask)

end IPv4AddressRange

/-- `RoutingDestinationType`, a bit field. -/
abbrev RoutingDestinationType : Type := BitVec 8

/-- `NETWORK_DESTINATION`. -/
def networkDestination : RoutingDestinationType := 0

/-- `AREA_BORDER_ROUTER_DESTINATION`. -/
def areaBorderRouterDestination : RoutingDestinationType := 1

/-- `AS_BOUNDARY_ROUTER_DESTINATION`. -/
def asBoundaryRouterDestination : RoutingDestinationType := 2

/-- `RoutingPathType`. -/
inductive RoutingPathType
  | intraArea
  | interArea
  | type1External
  | type2External
  deriving DecidableEq

/-- `RoutingTableEntry`, without the optional capabilities and the cost of a type 2 path. -/
structure RoutingTableEntry where
  destination : IPv4Address
  netmask : IPv4Address := IPv4Address.allonesAddress
  destinationType : RoutingDestinationType := networkDestination
  area : AreaID := backboneAreaID
  pathType : RoutingPathType := .intraArea
  cost : Metric := 0
  /-- The header of the LSA that it points to. -/
  linkStateOrigin : Option OSPFLSAHeader := none
  nextHops : List NextHop := []
  deriving DecidableEq

/-- An entry for a network whose prefix contains a destination. -/
def RoutingTableEntry.Covers (entry : RoutingTableEntry) (destination : IPv4Address) : Prop :=
  entry.destinationType = networkDestination ∧
    entry.destination &&& entry.netmask = destination &&& entry.netmask

instance (entry : RoutingTableEntry) (destination : IPv4Address) :
    Decidable (entry.Covers destination) :=
  inferInstanceAs (Decidable (_ ∧ _))

end OSPF

end Hiwis
