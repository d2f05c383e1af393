import Hiwis.Ipv4.InterfaceEntry
import Hiwis.Lib.PackedBits
import Hiwis.Lib.SpecifiedBits
import Hiwis.Lib.Ensures

/-!
# The assignment of addresses by the network configurator

`assignAddresses` takes the links one by one.  Interfaces of a link with compatible templates form a
group and get addresses of one network.  The network has the longest netmask that leaves room for
them, and each interface gets the address after the greatest one that fits its template.
-/

namespace Hiwis

open SpecifiedBits

namespace IPv4NetworkConfigurator

/-- `InterfaceInfo`, with the fields that the assignment of addresses reads and writes. -/
structure InterfaceInfo where
  /-- Which object this is. -/
  interfaceEntry : ℕ
  address : IPv4Address := 0
  addressSpecifiedBits : IPv4Address := 0
  netmask : IPv4Address := 0
  netmaskSpecifiedBits : IPv4Address := 0
  deriving DecidableEq

/-- What stops the assignment of addresses. -/
inductive AssignFault
  /-- `Failed to find address prefix (using %s with specified bits %s) and netmask (length from %d
  bits to %d bits) for interface %s and %d other interface(s). Please refine your parameters and try
  again!` -/
  | addressPrefix (address specifiedBits : IPv4Address) (minimumNetmaskLength
      maximumNetmaskLength : ℤ) (interfaceEntry : Option ℕ) (others : ℕ)
  /-- `Failed to configure unique address for %s. Please refine your parameters and try again!` -/
  | uniqueAddress (interfaceEntry : ℕ)
  deriving DecidableEq

/-! ### Bits -/

/-- `getRepresentationBitCount`. -/
def getRepresentationBitCount (count : ℕ) : ℕ :=
  ((List.range 32).find? fun bitCount => decide (count ≤ 2 ^ bitCount)).getD 32

/-- `getMostSignificantBitIndex`. -/
def getMostSignificantBitIndex (value : IPv4Address) (bitValue : Bool) (defaultIndex : ℤ) : ℤ :=
  match (List.range 32).reverse.find? fun bitIndex => value.getLsbD bitIndex == bitValue with
  | some bitIndex => bitIndex
  | none => defaultIndex

/-- `getLeastSignificantBitIndex`. -/
def getLeastSignificantBitIndex (value : IPv4Address) (bitValue : Bool) (defaultIndex : ℤ) : ℤ :=
  match (List.range 32).find? fun bitIndex => value.getLsbD bitIndex == bitValue with
  | some bitIndex => bitIndex
  | none => defaultIndex

/-- `getPackedBits`. -/
def getPackedBits (value valueMask : IPv4Address) : IPv4Address := PackedBits.get value valueMask

/-- `setPackedBits`. -/
def setPackedBits (value valueMask packedValue : IPv4Address) : IPv4Address :=
  PackedBits.set value valueMask packedValue

/-! ### `collectCompatibleInterfaces` -/

/-- The address with its specified bits. -/
def InterfaceInfo.addressTemplate (i : InterfaceInfo) : Template 32 :=
  ⟨i.address, i.addressSpecifiedBits⟩

/-- The netmask with its specified bits. -/
def InterfaceInfo.netmaskTemplate (i : InterfaceInfo) : Template 32 :=
  ⟨i.netmask, i.netmaskSpecifiedBits⟩

/-- The merged address and the merged netmask, each with its specified and incompatible bits. -/
structure MergedSpecification where
  address : Merged 32 := {}
  netmask : Merged 32 := {}
  deriving DecidableEq

/-- The specification of one more interface is merged, unless the interface is skipped. -/
def MergedSpecification.merge (m : MergedSpecification) (candidateInterface : InterfaceInfo) :
    Option MergedSpecification :=
  let netmask := m.netmask.add candidateInterface.netmaskTemplate
  -- skip interface if there's a bit where the netmasks are incompatible
  if netmask.incompatible ≠ 0 then none
  else
    let address := m.address.add candidateInterface.addressTemplate
    -- skip interface if there's a bit where the netmask is 1 and the addresses are incompatible
    if netmask.bits &&& netmask.specified &&& address.incompatible ≠ 0 then none
    else some ⟨address, netmask⟩

/-- The loop of `collectCompatibleInterfaces`: the compatible interfaces, those that are skipped, and
the merged specification. -/
def collectLoop :
    List InterfaceInfo → MergedSpecification →
      List InterfaceInfo × List InterfaceInfo × MergedSpecification
  | [], m => ([], [], m)
  | candidateInterface :: interfaces, m =>
    match m.merge candidateInterface with
    | some m' =>
      let (compatible, skipped, merged) := collectLoop interfaces m'
      (candidateInterface :: compatible, skipped, merged)
    | none =>
      let (compatible, skipped, merged) := collectLoop interfaces m
      (compatible, candidateInterface :: skipped, merged)

/-- `compareInterfaceInfos`. -/
def compareInterfaceInfos (i j : InterfaceInfo) : Bool :=
  decide (j.addressSpecifiedBits.toNat < i.addressSpecifiedBits.toNat)

/-- `std::sort` with `compareInterfaceInfos`: it leaves open in which order elements come that none
of the two precedes. -/
structure InterfaceSort where
  sort : List InterfaceInfo → List InterfaceInfo
  perm : ∀ l, (sort l).Perm l
  sorted : ∀ l, (sort l).Pairwise fun i j => compareInterfaceInfos j i = false

/-- The parameters of the assignment. -/
structure AssignParameters where
  assignDisjunctSubnetAddresses : Bool := true
  interfaceSort : InterfaceSort

/-- `collectCompatibleInterfaces`, with the interfaces that stay unconfigured. -/
def collectCompatibleInterfaces (p : AssignParameters) (interfaces : List InterfaceInfo) :
    List InterfaceInfo × List InterfaceInfo × MergedSpecification :=
  let (compatible, skipped, merged) := collectLoop interfaces {}
  (p.interfaceSort.sort compatible, skipped, merged)

/-! ### `assignAddresses` -/

/-- The local variables of `assignAddresses`. -/
structure AssignState where
  /-- `assignedNetworkAddresses` and `assignedNetworkNetmasks`. -/
  assignedNetworks : List (IPv4Address × IPv4Address) := []
  assignedInterfaceAddresses : List IPv4Address := []
  assignedAddressToInterfaceEntryMap : IPv4Address → Option ℕ := fun _ => none

/-- A value raises the maximum when its address agrees with the given one in all other bits, and its
packed part is greater.  The value comes with the address to compare. -/
def raiseMaximum (address unspecifiedBits maximum : IPv4Address) :
    IPv4Address × IPv4Address → IPv4Address
  | (other, value) =>
    if other &&& ~~~unspecifiedBits = address &&& ~~~unspecifiedBits then
      let part := getPackedBits value unspecifiedBits
      if maximum < part then part else maximum
    else maximum

/-- The greatest packed part. -/
def packedMaximum (values : List (IPv4Address × IPv4Address))
    (address unspecifiedBits : IPv4Address) : IPv4Address :=
  values.foldl (raiseMaximum address unspecifiedBits) 0

/-- Step 2: the range of netmask lengths. -/
def netmaskLengthRange (m : MergedSpecification) (compatibleInterfaceCount : ℕ) : ℤ × ℤ :=
  let bitSize : ℤ := 32
  let minimumNetmaskLength := bitSize -
    getLeastSignificantBitIndex (m.netmask.bits &&& m.netmask.specified) true bitSize
  let maximumNetmaskLength := bitSize - 1 -
    getMostSignificantBitIndex (~~~m.netmask.bits &&& m.netmask.specified) true (-1)
  let maximumNetmaskLength := min maximumNetmaskLength
    (bitSize - 1 - getMostSignificantBitIndex m.address.incompatible true (-1))
  (minimumNetmaskLength,
    min maximumNetmaskLength (bitSize - getRepresentationBitCount compatibleInterfaceCount))

/-- The netmask with the given number of ones. -/
def networkNetmaskOf (netmaskLength : ℕ) : IPv4Address :=
  ((1 <<< netmaskLength) - 1) <<< (32 - netmaskLength)

/-- The number of addresses that have the same address prefix. -/
def interfaceCount (s : AssignState) (networkAddress networkNetmask : IPv4Address) : ℕ :=
  s.assignedInterfaceAddresses.countP fun a => a &&& networkNetmask == networkAddress

section

variable (p : AssignParameters) (s : AssignState)

/-- The checks of a network address. -/
def networkIsPossible (compatibleInterfaceCount : ℕ) (netmaskLength : ℕ)
    (networkAddress : IPv4Address) : Bool :=
  let count := interfaceCount s networkAddress (networkNetmaskOf netmaskLength)
  if p.assignDisjunctSubnetAddresses && count != 0 then false
  else
    -- an `int`: for the lengths 0 and 1 it is not greater than any number of interfaces
    decide ((count + compatibleInterfaceCount : ℤ) ≤
      ((1 : IPv4Address) <<< (32 - netmaskLength)).toInt)

/-- The network addresses of step 3 for a netmask length. -/
def tryNetmask (m : MergedSpecification) (compatibleInterfaceCount netmaskLength : ℕ) :
    Option (IPv4Address × IPv4Address) :=
  let networkNetmask := networkNetmaskOf netmaskLength
  let networkAddress := m.address.bits &&& m.address.specified &&& networkNetmask
  let unspecifiedBits := ~~~m.address.specified &&& networkNetmask
  let maximum := packedMaximum
    (s.assignedNetworks.map fun (address, netmask) => (address, address ||| ~~~netmask))
    networkAddress unspecifiedBits
  let limit := getPackedBits (BitVec.allOnes 32) unspecifiedBits + 1
  (List.range' maximum.toNat (limit.toNat + 1 - maximum.toNat)).findSome? fun part =>
    let networkAddress := setPackedBits networkAddress unspecifiedBits (BitVec.ofNat 32 part)
    if networkIsPossible p s compatibleInterfaceCount netmaskLength networkAddress then
      some (networkAddress, networkNetmask)
    else none

/-- Step 3: the network address and the netmask, from the longest netmask to the shortest one. -/
def findNetwork (m : MergedSpecification) (compatibleInterfaceCount : ℕ) :
    Option (IPv4Address × IPv4Address) :=
  let (minimum, maximum) := netmaskLengthRange m compatibleInterfaceCount
  ((List.range 33).reverse.filter fun netmaskLength : ℕ =>
    decide (minimum ≤ netmaskLength ∧ netmaskLength ≤ maximum)).findSome?
      (tryNetmask p s m compatibleInterfaceCount)

end

/-- Step 4: the complete address of an interface. -/
def completeAddress (s : AssignState) (networkAddress networkNetmask : IPv4Address)
    (i : InterfaceInfo) : IPv4Address :=
  let interfaceAddress := i.address &&& ~~~networkNetmask
  let unspecifiedBits := ~~~i.addressSpecifiedBits &&& ~~~networkNetmask
  let maximum := packedMaximum (s.assignedInterfaceAddresses.map fun other => (other, other))
    (networkAddress ||| interfaceAddress) unspecifiedBits
  networkAddress ||| setPackedBits interfaceAddress unspecifiedBits (maximum + 1)

/-- An interface is configured with an address and a netmask. -/
def InterfaceInfo.configured (address netmask : IPv4Address) (i : InterfaceInfo) : InterfaceInfo :=
  { i with
    address
    addressSpecifiedBits := BitVec.allOnes 32
    netmask
    netmaskSpecifiedBits := BitVec.allOnes 32 }

/-- A group of interfaces that are configured together: each one as it was and as it is now. -/
structure Group where
  networkAddress : IPv4Address
  networkNetmask : IPv4Address
  interfaces : List (InterfaceInfo × InterfaceInfo)
  deriving DecidableEq

/-- Step 4 for the interfaces of a group. -/
def assignInterfaces (networkAddress networkNetmask : IPv4Address) :
    List InterfaceInfo → AssignState →
      Except AssignFault (List (InterfaceInfo × InterfaceInfo) × AssignState)
  | [], s => .ok ([], s)
  | i :: interfaces, s =>
    let address := completeAddress s networkAddress networkNetmask i
    if (s.assignedAddressToInterfaceEntryMap address).isSome then
      .error (.uniqueAddress i.interfaceEntry)
    else do
      let s' : AssignState :=
        { s with
          assignedInterfaceAddresses := s.assignedInterfaceAddresses ++ [address]
          assignedAddressToInterfaceEntryMap := fun a =>
            if a = address then some i.interfaceEntry
            else s.assignedAddressToInterfaceEntryMap a }
      let (configured, s') ← assignInterfaces networkAddress networkNetmask interfaces s'
      pure ((i, i.configured address networkNetmask) :: configured, s')

/-- Steps 1 to 4: the group, and the interfaces that stay unconfigured. -/
def assignGroup (p : AssignParameters) (unconfiguredInterfaces : List InterfaceInfo)
    (s : AssignState) : Except AssignFault (Group × List InterfaceInfo × AssignState) :=
  let (compatible, skipped, m) := collectCompatibleInterfaces p unconfiguredInterfaces
  -- the +2 means that all-0 and all-1 addresses are ruled out
  let compatibleInterfaceCount := compatible.length + 2
  match findNetwork p s m compatibleInterfaceCount with
  | none =>
    let (minimum, maximum) := netmaskLengthRange m compatibleInterfaceCount
    .error (.addressPrefix m.address.bits m.address.specified minimum maximum
      (compatible.head?.map (·.interfaceEntry)) (compatible.length - 1))
  | some (networkAddress, networkNetmask) => do
    let (interfaces, s) ← assignInterfaces networkAddress networkNetmask compatible s
    let assignedNetworks := s.assignedNetworks ++ [(networkAddress, networkNetmask)]
    pure (⟨networkAddress, networkNetmask, interfaces⟩, skipped, { s with assignedNetworks })

/-- The groups of a link, in at most the given number of rounds. -/
def assignLink (p : AssignParameters) :
    ℕ → List InterfaceInfo → AssignState → Except AssignFault (List Group × AssignState)
  | 0, _, s => .ok ([], s)
  | rounds + 1, unconfiguredInterfaces, s =>
    if unconfiguredInterfaces = [] then .ok ([], s)
    else do
      let (group, unconfiguredInterfaces, s) ← assignGroup p unconfiguredInterfaces s
      let (groups, s) ← assignLink p rounds unconfiguredInterfaces s
      pure (group :: groups, s)

/-- The links that are left. -/
def assignLinks (p : AssignParameters) :
    List (List InterfaceInfo) → AssignState → Except AssignFault (List (List Group) × AssignState)
  | [], s => .ok ([], s)
  | interfaceInfos :: linkInfos, s => do
    -- every round configures an interface, so there are not more rounds than interfaces
    let (groups, s) ← assignLink p interfaceInfos.length interfaceInfos s
    let (links, s) ← assignLinks p linkInfos s
    pure (groups :: links, s)

/-- `assignAddresses`: the groups of each link. -/
def assignAddresses (p : AssignParameters) (linkInfos : List (List InterfaceInfo)) :
    Except AssignFault (List (List Group)) := do
  let (links, _) ← assignLinks p linkInfos {}
  pure links

end IPv4NetworkConfigurator

end Hiwis
