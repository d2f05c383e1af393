import Mathlib

/-!
# Addresses and interfaces

`IPv4Address`, `IPvXAddress`, and the parts of `InterfaceEntry` and `IPv4InterfaceData` that the
IPv4 module and its routing table read.
-/

namespace Hiwis

/-- `IPv4Address`. -/
abbrev IPv4Address : Type := BitVec 32

namespace IPv4Address

/-- `UNSPECIFIED_ADDRESS`. -/
def unspecifiedAddress : IPv4Address := 0

/-- `ALLONES_ADDRESS`. -/
def allonesAddress : IPv4Address := BitVec.allOnes 32

/-- `isUnspecified`. -/
def isUnspecified (addr : IPv4Address) : Bool := addr == unspecifiedAddress

/-- `isMulticast`. -/
def isMulticast (addr : IPv4Address) : Bool := addr &&& 0xF0000000 == 0xE0000000

end IPv4Address

/-- `IPvXAddress`.  The null address is always stored as an IPv4 address. -/
inductive IPvXAddress
  | ipv4 (addr : IPv4Address)
  | ipv6 (addr : BitVec 128)
deriving DecidableEq

namespace IPvXAddress

/-- `IPvXAddress()`. -/
def unspecified : IPvXAddress := .ipv4 0

/-- `isUnspecified`. -/
def isUnspecified (addr : IPvXAddress) : Bool := addr == unspecified

/-- `isMulticast`. -/
def isMulticast : IPvXAddress → Bool
  | .ipv4 addr => addr.isMulticast
  | .ipv6 addr => addr &&& (0xFF <<< 120) == 0xFF <<< 120

end IPvXAddress

/-- `IPv4InterfaceData`. -/
structure IPv4InterfaceData where
  inetAddr : IPv4Address
  netmask : IPv4Address
  metric : ℤ
  deriving DecidableEq

/-- `InterfaceEntry`. -/
structure InterfaceEntry where
  interfaceId : ℕ
  /-- The maximum length of a datagram; 0 stands for no limit. -/
  mtu : ℕ
  loopback : Bool
  /-- `none` when the interface has no IPv4 data. -/
  ipv4Data : Option IPv4InterfaceData
  deriving DecidableEq

end Hiwis
