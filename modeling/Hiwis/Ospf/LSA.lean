import Hiwis.Ipv4.InterfaceEntry

/-!
# Link state advertisements

The constants and types of `OSPFcommon.h` and the header of an LSA, with the comparison of two
instances.
-/

namespace Hiwis

namespace OSPF

/-- `RouterID`. -/
abbrev RouterID : Type := IPv4Address

/-- `AreaID`. -/
abbrev AreaID : Type := IPv4Address

/-- `LinkStateID`. -/
abbrev LinkStateID : Type := IPv4Address

/-- `Metric`, an `unsigned long`. -/
abbrev Metric : Type := ℕ

/-- `LS_REFRESH_TIME`. -/
def lsRefreshTime : ℕ := 1800

/-- `MAX_AGE`. -/
def maxAge : ℕ := 3600

/-- `CHECK_AGE`. -/
def checkAge : ℕ := 300

/-- `MAX_AGE_DIFF`. -/
def maxAgeDiff : ℕ := 900

/-- `LS_INFINITY`. -/
def lsInfinity : ℕ := 16777215

/-- `MAX_SEQUENCE_NUMBER`. -/
def maxSequenceNumber : ℤ := 2147483647

/-- `NULL_ROUTERID`. -/
def nullRouterID : RouterID := 0

/-- `BACKBONE_AREAID`. -/
def backboneAreaID : AreaID := 0

/-- `LSAType`. -/
inductive LSAType
  | routerLSA
  | networkLSA
  | summaryLSANetworks
  | summaryLSAASBoundaryRouters
  | asExternalLSA
  deriving DecidableEq

/-- `LSAKeyType`. -/
structure LSAKeyType where
  linkStateID : LinkStateID
  advertisingRouter : RouterID
  deriving DecidableEq

/-- `OSPFLSAHeader`, without the options and the length. -/
structure OSPFLSAHeader where
  lsAge : ℕ
  lsType : LSAType
  linkStateID : LinkStateID
  advertisingRouter : RouterID
  lsSequenceNumber : ℤ
  deriving DecidableEq

namespace OSPFLSAHeader

/-- The key under which an LSA is stored. -/
def lsaKey (h : OSPFLSAHeader) : LSAKeyType := ⟨h.linkStateID, h.advertisingRouter⟩

/-- `operator<`: the left LSA is older than the right one. -/
def isOlder (leftLSA rightLSA : OSPFLSAHeader) : Bool :=
  if leftLSA.lsSequenceNumber < rightLSA.lsSequenceNumber then true
  else if leftLSA.lsSequenceNumber = rightLSA.lsSequenceNumber then
    if leftLSA.lsAge ≠ maxAge ∧ rightLSA.lsAge = maxAge then true
    else if leftLSA.lsAge = maxAge ∧ rightLSA.lsAge ≠ maxAge then false
    else decide (maxAgeDiff < ((leftLSA.lsAge : ℤ) - rightLSA.lsAge).natAbs ∧
      rightLSA.lsAge < leftLSA.lsAge)
  else false

/-- `operator==`: the left LSA is the same age as the right one. -/
def isSameAge (leftLSA rightLSA : OSPFLSAHeader) : Bool :=
  decide (leftLSA.lsSequenceNumber = rightLSA.lsSequenceNumber ∧
    ((leftLSA.lsAge = maxAge ∧ rightLSA.lsAge = maxAge) ∨
      ((leftLSA.lsAge ≠ maxAge ∧ rightLSA.lsAge ≠ maxAge) ∧
        ((leftLSA.lsAge : ℤ) - rightLSA.lsAge).natAbs ≤ maxAgeDiff)))

end OSPFLSAHeader

/-- `NextHop`. -/
structure NextHop where
  ifIndex : ℤ
  hopAddress : IPv4Address
  advertisingRouter : RouterID
  deriving DecidableEq

end OSPF

end Hiwis
