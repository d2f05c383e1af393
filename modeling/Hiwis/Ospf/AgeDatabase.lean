import Hiwis.Lib.Trace
import Hiwis.Ospf.Interface

/-!
# Aging of the link state database

`OSPF::Area::ageDatabase` and `OSPF::Router::ageDatabase`, with the functions that install LSAs.
The contents of an LSA, and what the code finds out from the routing table, the neighbours and the
retransmission lists when it comes to an LSA, are given from outside.
-/

namespace Hiwis

namespace OSPF

/-- `INITIAL_SEQUENCE_NUMBER`. -/
def initialSequenceNumber : ℤ := -2147483647

/-- The vectors of LSAs: three in each area, and that of the AS-external LSAs in the router. -/
inductive LSAKind
  | routerLSA
  | networkLSA
  | summaryLSA
  | asExternalLSA
  deriving DecidableEq

/-- An LSA of the database, with contents of any kind. -/
structure LSA (β : Type*) where
  header : OSPFLSAHeader
  contents : β
  installTime : ℕ := 0
  purgeable : Bool := false
  deriving DecidableEq

/-- What the code reads of an interface to age a network LSA. -/
structure LocalInterface where
  type : OSPFInterfaceType
  address : IPv4Address
  state : InterfaceStateType
  neighborStates : List NeighborStateType
  deriving DecidableEq

/-- What the code finds when it comes to an LSA. -/
structure AgeContext (β : Type*) where
  unreachable : Bool
  onAnyRetransmissionList : Bool
  anyNeighborInExchangeOrLoading : Bool
  interfaces : List LocalInterface
  /-- The type and the link state ID of the summary LSA, if one is originated. -/
  summary : Option (LSAType × LinkStateID)
  /-- The contents of the LSA that is originated. -/
  contents : β

/-- What becomes of an LSA.  A dangling one is deleted but stays in the vector and the map. -/
inductive AgeOutcome (β : Type*)
  | kept (lsa : LSA β) (flooded : Bool)
  | removed
  | dangling
  deriving DecidableEq

namespace LSA

variable {β : Type*}

/-- `update`. -/
def update (_lsa newLSA : LSA β) : LSA β := { newLSA with installTime := 0, purgeable := false }

def setLsAge (lsa : LSA β) (lsAge : ℕ) : LSA β :=
  { lsa with header := { lsa.header with lsAge := lsAge } }

def setLsSequenceNumber (lsa : LSA β) (lsSequenceNumber : ℤ) : LSA β :=
  { lsa with header := { lsa.header with lsSequenceNumber := lsSequenceNumber } }

def incrementInstallTime (lsa : LSA β) : LSA β := { lsa with installTime := lsa.installTime + 1 }

/-- A new LSA with this header. -/
def originate (routerID : RouterID) (lsType : LSAType) (linkStateID : LinkStateID) (contents : β) :
    LSA β where
  header := ⟨0, lsType, linkStateID, routerID, initialSequenceNumber⟩
  contents := contents

end LSA

section Aging

variable {β : Type*}

def getInterface (interfaces : List LocalInterface) (address : IPv4Address) :
    Option LocalInterface :=
  interfaces.find? fun intf => intf.type != .virtual && intf.address == address

def LocalInterface.hasFullNeighbor (intf : LocalInterface) : Bool :=
  intf.neighborStates.any fun st => st == .full

/-! ### Originating -/

section

variable (routerID : RouterID) (ctx : AgeContext β)

def originateRouterLSA : LSA β := .originate routerID .routerLSA routerID ctx.contents

def originateNetworkLSA (intf : LocalInterface) :
    Option (LSA β) :=
  if intf.hasFullNeighbor then some (.originate routerID .networkLSA intf.address ctx.contents)
  else none

def originateSummaryLSA : Option (LSA β) :=
  ctx.summary.map fun (lsType, linkStateID) => .originate routerID lsType linkStateID ctx.contents

end

def originateASExternalLSA (lsa : LSA β) : LSA β :=
  (lsa.setLsAge 0).setLsSequenceNumber initialSequenceNumber

/-- Whether the router counts as the originator of the LSA. -/
def selfOriginated (kind : LSAKind) (routerID : RouterID) (ctx : AgeContext β) (lsa : LSA β) :
    Bool :=
  match kind with
  | .networkLSA =>
    match getInterface ctx.interfaces lsa.header.linkStateID with
    | some intf => intf.state == .designatedRouter && decide (0 < intf.neighborStates.length) &&
        intf.hasFullNeighbor
    | none => false
  | _ => lsa.header.advertisingRouter == routerID

/-- The LSA that is originated to replace this one. -/
def newLSA (kind : LSAKind) (routerID : RouterID) (ctx : AgeContext β) (lsa : LSA β) :
    Option (LSA β) :=
  match kind with
  | .routerLSA => some (originateRouterLSA routerID ctx)
  | .networkLSA =>
    (getInterface ctx.interfaces lsa.header.linkStateID).bind (originateNetworkLSA routerID ctx)
  | .summaryLSA => originateSummaryLSA routerID ctx
  | .asExternalLSA => some (originateASExternalLSA lsa)

/-! ### One LSA -/

/-- What happens to an LSA at MAX_AGE that the router still originates. -/
def reoriginateAtMaxAge (kind : LSAKind) (routerID : RouterID) (ctx : AgeContext β) (lsa : LSA β) :
    AgeOutcome β :=
  let sequenceNumber := lsa.header.lsSequenceNumber
  let next := if sequenceNumber = maxSequenceNumber then initialSequenceNumber
    else sequenceNumber + 1
  match newLSA kind routerID ctx lsa with
  | some newLSA =>
    if kind = .asExternalLSA ∧ lsa.purgeable then .removed
    else .kept (lsa.update (newLSA.setLsSequenceNumber next)) true
  | none => if kind = .networkLSA then .dangling else .removed

/-- One pass of the loops of `ageDatabase`.  The cases of the source compare the age from before
the pass, so that at most one of them is taken. -/
def ageLSA (kind : LSAKind) (routerID : RouterID) (ctx : AgeContext β) (lsa : LSA β) :
    AgeOutcome β :=
  let lsAge := lsa.header.lsAge
  let selfOriginated := selfOriginated kind routerID ctx lsa
  if selfOriginated = true ∧ lsAge < lsRefreshTime - 1 ∨
      selfOriginated = false ∧ lsAge < maxAge - 1 then
    .kept (lsa.setLsAge (lsAge + 1)).incrementInstallTime false
  else if selfOriginated = true ∧ lsAge = lsRefreshTime - 1 then
    if ctx.unreachable ∨ lsa.header.lsSequenceNumber = maxSequenceNumber then
      .kept (lsa.setLsAge maxAge).incrementInstallTime true
    else
      match newLSA kind routerID ctx lsa with
      | some newLSA =>
        .kept (lsa.update (newLSA.setLsSequenceNumber (lsa.header.lsSequenceNumber + 1))) true
      | none => .kept (lsa.setLsAge maxAge).incrementInstallTime true
  else if selfOriginated = false ∧ lsAge = maxAge - 1 then
    .kept (lsa.setLsAge maxAge).incrementInstallTime true
  else if lsAge = maxAge ∧ ctx.onAnyRetransmissionList = false ∧
      ctx.anyNeighborInExchangeOrLoading = false then
    if selfOriginated = false ∨ ctx.unreachable = true then .removed
    else reoriginateAtMaxAge kind routerID ctx lsa
  else .kept lsa false

end Aging

/-! ### The vectors and maps -/

/-- An LSA in memory. -/
abbrev LSAPtr : Type := ℕ

/-- The key of an LSA in the map: its link state ID, or this and the advertising router. -/
inductive IDKey
  | byLinkStateID (linkStateID : LinkStateID)
  | byLSAKey (lsaKey : LSAKeyType)
  deriving DecidableEq

def idKey (kind : LSAKind) (header : OSPFLSAHeader) : IDKey :=
  match kind with
  | .routerLSA => .byLinkStateID header.linkStateID
  | .networkLSA => .byLinkStateID header.linkStateID
  | .summaryLSA => .byLSAKey header.lsaKey
  | .asExternalLSA => .byLSAKey header.lsaKey

/-- A deleted LSA is used. -/
inductive DatabaseFault
  | dangling
  deriving DecidableEq

/-- A vector of LSAs with its map, and the LSAs in memory. -/
structure LSADatabase (β : Type*) where
  lsas : List LSAPtr := []
  lsasByID : Finmap fun _ : IDKey => LSAPtr := ∅
  heap : Finmap fun _ : LSAPtr => LSA β := ∅
  nextLSA : LSAPtr := 0

namespace LSADatabase

variable {β : Type*}

/-- An LSA of the vector is aged.  The source sets the element of an LSA that is removed to `NULL`
and erases these elements after the loop. -/
def visit (kind : LSAKind) (routerID : RouterID) (ctx : LSAPtr → AgeContext β)
    (s : LSADatabase β) (p : LSAPtr) : Except DatabaseFault (LSADatabase β × List LSAPtr) :=
  match s.heap.lookup p with
  | none => .error .dangling
  | some lsa =>
    match ageLSA kind routerID (ctx p) lsa with
    | .kept lsa' flooded =>
      .ok ({ s with heap := s.heap.insert p lsa' }, if flooded then [p] else [])
    | .removed => .ok ({ s with
        lsas := s.lsas.filter (· ≠ p)
        lsasByID := s.lsasByID.erase (idKey kind lsa.header)
        heap := s.heap.erase p }, [])
    | .dangling => .ok ({ s with heap := s.heap.erase p }, [])

def visitAll (kind : LSAKind) (routerID : RouterID) (ctx : LSAPtr → AgeContext β) :
    List LSAPtr → LSADatabase β → Except DatabaseFault (LSADatabase β × List LSAPtr)
  | [], s => .ok (s, [])
  | p :: ps, s => do
    let (s, flooded) ← s.visit kind routerID ctx p
    let (s, more) ← visitAll kind routerID ctx ps s
    .ok (s, flooded ++ more)

/-- One of the loops of `ageDatabase`.  The second result are the LSAs that are flooded. -/
def ageLSAs (kind : LSAKind) (routerID : RouterID) (ctx : LSAPtr → AgeContext β)
    (s : LSADatabase β) : Except DatabaseFault (LSADatabase β × List LSAPtr) :=
  visitAll kind routerID ctx s.lsas s

/-- `installRouterLSA`, `installNetworkLSA`, `installSummaryLSA`, and the second half of
`installASExternalLSA`. -/
def install (kind : LSAKind) (s : LSADatabase β) (lsa : LSA β) :
    Except DatabaseFault (LSADatabase β) :=
  match s.lsasByID.lookup (idKey kind lsa.header) with
  | some p =>
    match s.heap.lookup p with
    | some old => .ok { s with heap := s.heap.insert p (old.update lsa) }
    | none => .error .dangling
  | none => .ok { s with
      lsas := s.lsas ++ [s.nextLSA]
      lsasByID := s.lsasByID.insert (idKey kind lsa.header) s.nextLSA
      heap := s.heap.insert s.nextLSA { lsa with installTime := 0, purgeable := false }
      nextLSA := s.nextLSA + 1 }

/-- The first half of `installASExternalLSA`: an LSA of this router that is equivalent to the one
of another router gives way to it if the other router has the higher ID. -/
def flushEquivalent (s : LSADatabase β) (routerID : RouterID) (lsa : LSA β) :
    Except DatabaseFault (LSADatabase β) :=
  match s.lsasByID.lookup (.byLSAKey ⟨lsa.header.linkStateID, routerID⟩) with
  | none => .ok s
  | some p =>
    match s.heap.lookup p with
    | some own => .ok { s with heap := s.heap.insert p (own.setLsAge maxAge).incrementInstallTime }
    | none => .error .dangling

/-- `installLSA`, with the answer whether an equivalent LSA of this router exists. -/
def installLSA (kind : LSAKind) (routerID : RouterID) (equivalent : Bool) (s : LSADatabase β)
    (lsa : LSA β) : Except DatabaseFault (LSADatabase β) :=
  if kind = .asExternalLSA ∧ equivalent then
    if lsa.header.advertisingRouter.toNat < routerID.toNat then .ok s
    else do
      let s ← s.flushEquivalent routerID lsa
      s.install kind lsa
  else s.install kind lsa

end LSADatabase

/-! ### The router -/

/-- The vectors of the router and of its areas, in the order in which they are aged. -/
structure Router (β : Type*) where
  routerID : RouterID
  databases : List (LSAKind × LSADatabase β)

inductive DatabaseEvent (β : Type*)
  | ageDatabase (ctx : ℕ → LSAPtr → AgeContext β)
  | installLSA (i : ℕ) (equivalent : Bool) (lsa : LSA β)

namespace Router

variable {β : Type*}

/-- The loops of `ageDatabase`, from the `i`-th one on. -/
def ageFrom (routerID : RouterID) (ctx : ℕ → LSAPtr → AgeContext β) :
    ℕ → List (LSAKind × LSADatabase β) →
      Except DatabaseFault (List (LSAKind × LSADatabase β) × List (ℕ × LSAPtr))
  | _, [] => .ok ([], [])
  | i, (kind, db) :: rest => do
    let (db, flooded) ← db.ageLSAs kind routerID (ctx i)
    let (rest, more) ← ageFrom routerID ctx (i + 1) rest
    .ok ((kind, db) :: rest, flooded.map (Prod.mk i) ++ more)

def ageDatabase (r : Router β) (ctx : ℕ → LSAPtr → AgeContext β) :
    Except DatabaseFault (Router β × List (ℕ × LSAPtr)) := do
  let (databases, flooded) ← ageFrom r.routerID ctx 0 r.databases
  .ok ({ r with databases := databases }, flooded)

def installLSA (r : Router β) (i : ℕ) (equivalent : Bool) (lsa : LSA β) :
    Except DatabaseFault (Router β) :=
  match r.databases[i]? with
  | none => .ok r
  | some (kind, db) => do
    let db ← db.installLSA kind r.routerID equivalent lsa
    .ok { r with databases := r.databases.set i (kind, db) }

def step (r : Router β) : DatabaseEvent β → Except DatabaseFault (Router β)
  | .ageDatabase ctx => do
    let (r, _) ← r.ageDatabase ctx
    .ok r
  | .installLSA i equivalent lsa => r.installLSA i equivalent lsa

end Router

end OSPF

end Hiwis
