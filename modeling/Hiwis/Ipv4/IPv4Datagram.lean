import Hiwis.Ipv4.InterfaceEntry
import Hiwis.Lib.Consecutive
import Hiwis.Lib.Ensures
import Hiwis.Lib.Trace

/-!
# IPv4 datagrams and their fragmentation

`IPv4.fragmentAndSend` sends a datagram out on an interface, in fragments when it is longer than the
MTU.  A fragment may be cut again on a later hop.

* `fragmentAndSend_piece` : a piece of a datagram is cut into consecutive pieces of this datagram;
* `sendAlong_piece` : so is a datagram that travels along any chain of hops;
* `sendAll_onLink` : what leaves an interface fits into its MTU.
-/

namespace Hiwis

open List IPv4Address

/-- `IPv4RecordRouteOption`. -/
structure IPv4RecordRouteOption where
  recordAddress : List IPv4Address := []
  nextAddressPtr : ℤ := 0
  deriving DecidableEq

/-- `IPv4TimestampOption`. -/
structure IPv4TimestampOption where
  flag : ℕ := 0
  overflow : ℤ := 0
  nextAddressPtr : ℤ := 0
  recordAddress : List IPv4Address := []
  recordTimestamp : List ℤ := []
  deriving DecidableEq

/-- `IPv4SourceRoutingOption`. -/
structure IPv4SourceRoutingOption where
  recordAddress : List IPv4Address := []
  nextAddressPtr : ℤ := 0
  lastAddressPtr : ℤ := 0
  deriving DecidableEq

/-- `IP_HEADER_BYTES`. -/
def ipHeaderBytes : ℕ := 20

/-- `IP_PROT_NONE`. -/
def ipProtNone : ℤ := 59

/-- `IPOPTION_NO_OPTION`. -/
def ipOptionNoOption : ℕ := 1

/-- `IPv4Datagram`, which encapsulates a packet of type `α`. -/
structure IPv4Datagram (α : Type) where
  version : ℤ := 4
  headerLength : ℕ := ipHeaderBytes
  srcAddress : IPv4Address := unspecifiedAddress
  destAddress : IPv4Address := unspecifiedAddress
  transportProtocol : ℤ := ipProtNone
  timeToLive : ℤ := 0
  identification : ℕ := 0
  moreFragments : Bool := false
  dontFragment : Bool := false
  /-- In octets. -/
  fragmentOffset : ℕ := 0
  typeOfService : UInt8 := 0
  optionCode : ℕ := ipOptionNoOption
  recordRoute : IPv4RecordRouteOption := {}
  timestampOption : IPv4TimestampOption := {}
  sourceRoutingOption : IPv4SourceRoutingOption := {}
  /-- The length of the datagram, its header included. -/
  byteLength : ℕ := 0
  encapsulatedPacket : Option α := none
  deriving DecidableEq

/-- What stops the IPv4 module. -/
inductive IPv4Fault
  /-- `Cannot fragment datagram: MTU=%d too small for header size (%d bytes)`. -/
  | cannotFragment (mtu headerLength : ℕ)
  /-- The IPv4 data of an interface without such data is read. -/
  | noIPv4Data
  /-- A reassembly buffer is erased that was created by the same call. -/
  | eraseEnd
  deriving DecidableEq

/-- The ICMP errors that `fragmentAndSend` reports. -/
inductive ICMPError
  /-- `ICMP_TIME_EXCEEDED`. -/
  | timeExceeded
  /-- `ICMP_DESTINATION_UNREACHABLE`, `ICMP_DU_FRAGMENTATION_NEEDED`. -/
  | fragmentationNeeded
  deriving DecidableEq

namespace IPv4Datagram

variable {α : Type}

/-- The number of octets after the header. -/
def payloadLength (d : IPv4Datagram α) : ℕ := d.byteLength - d.headerLength

/-- The loop of `fragmentAndSend` from the given offset on, for at most `fuel` rounds. -/
def fragmentLoop (d : IPv4Datagram α) (fragmentLength : ℕ) : ℕ → ℕ → List (IPv4Datagram α)
  | 0, _ => []
  | fuel + 1, offset =>
    if offset < d.payloadLength then
      let lastFragment := decide (d.payloadLength ≤ offset + fragmentLength)
      let thisFragmentLength := if lastFragment then d.payloadLength - offset else fragmentLength
      { d with
        moreFragments := if lastFragment then d.moreFragments else true
        byteLength := d.headerLength + thisFragmentLength
        fragmentOffset := d.fragmentOffset + offset } ::
          fragmentLoop d fragmentLength fuel (offset + fragmentLength)
    else []

/-- `fragmentAndSend` fills in the source address. -/
def fillSrcAddress (ie : InterfaceEntry) (srcAddress : IPv4Address) :
    Except IPv4Fault IPv4Address :=
  if isUnspecified srcAddress then
    match ie.ipv4Data with
    | some data => .ok data.inetAddr
    | none => .error .noIPv4Data
  else .ok srcAddress

/-- `fragmentAndSend` from the hop counter check on: the datagrams that it hands to
`sendDatagramToOutput`, and the datagrams that it drops with an ICMP error. -/
def checkAndSend (ie : InterfaceEntry) (d : IPv4Datagram α) :
    Except IPv4Fault (List (IPv4Datagram α) × List (IPv4Datagram α × ICMPError)) :=
  if d.timeToLive < 0 then .ok ([], [(d, .timeExceeded)])
  else if ie.mtu = 0 ∨ d.byteLength ≤ ie.mtu then .ok ([d], [])
  else if d.dontFragment then .ok ([], [(d, .fragmentationNeeded)])
  else
    let fragmentLength := (ie.mtu - d.headerLength) / 8 * 8
    if fragmentLength = 0 then .error (.cannotFragment ie.mtu d.headerLength)
    else .ok (d.fragmentLoop fragmentLength d.payloadLength 0, [])

/-- `fragmentAndSend`. -/
def fragmentAndSend (ie : InterfaceEntry) (d : IPv4Datagram α) :
    Except IPv4Fault (List (IPv4Datagram α) × List (IPv4Datagram α × ICMPError)) := do
  let srcAddress ← fillSrcAddress ie d.srcAddress
  checkAndSend ie { d with
    srcAddress, timeToLive := if ie.loopback then d.timeToLive else d.timeToLive - 1 }

/-- All datagrams of a list go over a hop. -/
def sendAll (ie : InterfaceEntry) : List (IPv4Datagram α) → Except IPv4Fault (List (IPv4Datagram α))
  | [] => pure []
  | d :: ds => do
    let (sent, _) ← fragmentAndSend ie d
    let rest ← sendAll ie ds
    pure (sent ++ rest)

/-- All datagrams of a list travel along a chain of hops. -/
def sendAlong : List InterfaceEntry → List (IPv4Datagram α) →
    Except IPv4Fault (List (IPv4Datagram α))
  | [], ds => pure ds
  | ie :: ies, ds => do
    let ds ← sendAll ie ds
    sendAlong ies ds

/-! ### Pieces -/

/-- The fragment with the octets `[c.1, c.2)` of a datagram with `T` octets of payload. -/
def piece (d : IPv4Datagram α) (T : ℕ) (c : ℕ × ℕ) : IPv4Datagram α :=
  { d with
    moreFragments := decide (c.2 ≠ T)
    byteLength := d.headerLength + (c.2 - c.1)
    fragmentOffset := c.1 }

/-- The source address after a hop. -/
def hopSrcAddress (ie : InterfaceEntry) (srcAddress : IPv4Address) : IPv4Address :=
  if isUnspecified srcAddress then (ie.ipv4Data.map (·.inetAddr)).getD srcAddress
  else srcAddress

/-- The header after a hop. -/
def hop (ie : InterfaceEntry) (d : IPv4Datagram α) : IPv4Datagram α :=
  { d with
    srcAddress := hopSrcAddress ie d.srcAddress
    timeToLive := if ie.loopback then d.timeToLive else d.timeToLive - 1 }

/-! ### Cutting -/

variable {d : IPv4Datagram α} {T a b : ℕ}

@[simp] theorem piece_payloadLength (c : ℕ × ℕ) : (d.piece T c).payloadLength = c.2 - c.1 := by
  simp [piece, payloadLength]

/-- The loop cuts what is left into consecutive pieces. -/
theorem fragmentLoop_piece {fragmentLength fuel : ℕ} (offset : ℕ) (hlen : 0 < fragmentLength)
    (hb : b ≤ T) (hoff : a + offset < b) (hfuel : b - a - offset ≤ fuel) :
    ∃ L, Consecutive (a + offset) L b ∧
      (d.piece T (a, b)).fragmentLoop fragmentLength fuel offset = L.map (d.piece T) := by
  induction fuel generalizing offset with
  | zero => omega
  | succ fuel ih =>
    rw [fragmentLoop, piece_payloadLength, if_pos (by dsimp only; omega)]
    by_cases hlast : b - a ≤ offset + fragmentLength
    · -- the last piece inherits the flag of the whole
      refine ⟨[(a + offset, b)], .single hoff, ?_⟩
      have hrest : (d.piece T (a, b)).fragmentLoop fragmentLength fuel (offset + fragmentLength) =
          [] := by
        cases fuel with
        | zero => rfl
        | succ fuel =>
          rw [fragmentLoop, piece_payloadLength, if_neg (by dsimp only; omega)]
      rw [hrest]
      simp only [hlast, decide_true, if_true, map_cons, map_nil, piece, Nat.sub_sub]
    · obtain ⟨L, hL, hmap⟩ := ih (offset + fragmentLength) (by omega) (by omega)
      rw [← Nat.add_assoc] at hL
      refine ⟨(a + offset, a + offset + fragmentLength) :: L, .cons (by omega) hL, ?_⟩
      rw [hmap]
      have hmore : a + offset + fragmentLength ≠ T := by omega
      simp [hlast, hmore, piece]

/-- The MTU of an interface leaves room for a header and eight octets, and the interface has an
address. -/
structure Link (headerLength : ℕ) (ie : InterfaceEntry) : Prop where
  mtu : ie.mtu = 0 ∨ headerLength + 8 ≤ ie.mtu
  ipv4Data : ie.ipv4Data.isSome = true

variable {ie : InterfaceEntry}

theorem fillSrcAddress_eq {headerLength : ℕ} (hie : Link headerLength ie) (srcAddress : IPv4Address)
    :
    fillSrcAddress ie srcAddress = .ok (hopSrcAddress ie srcAddress) := by
  obtain ⟨data, hdata⟩ := Option.isSome_iff_exists.1 hie.ipv4Data
  unfold fillSrcAddress hopSrcAddress
  rw [hdata]
  split_ifs <;> rfl

theorem fragmentAndSend_eq (hie : Link d.headerLength ie) :
    fragmentAndSend ie d = checkAndSend ie (d.hop ie) := by
  unfold fragmentAndSend
  rw [fillSrcAddress_eq hie]
  rfl

/-- A piece is dropped when its time to live is over, and cut into consecutive pieces otherwise. -/
theorem checkAndSend_piece (hie : Link d.headerLength ie) (hdf : d.dontFragment = false)
    (hab : a < b) (hb : b ≤ T) :
    ∃ L, Consecutive a L b ∧ ∃ icmp, checkAndSend ie (d.piece T (a, b)) =
      .ok (if d.timeToLive < 0 then [] else L.map (d.piece T), icmp) := by
  unfold checkAndSend
  by_cases httl : d.timeToLive < 0
  · refine ⟨[(a, b)], .single hab, [(d.piece T (a, b), .timeExceeded)], ?_⟩
    rw [if_pos httl, if_pos (show (d.piece T (a, b)).timeToLive < 0 from httl)]
  · rw [if_neg (show ¬ (d.piece T (a, b)).timeToLive < 0 from httl)]
    by_cases hfits : ie.mtu = 0 ∨ (d.piece T (a, b)).byteLength ≤ ie.mtu
    · refine ⟨[(a, b)], .single hab, [], ?_⟩
      rw [if_neg httl, if_pos hfits]
      rfl
    · have hmtu : d.headerLength + 8 ≤ ie.mtu := by
        rcases hie.mtu with h | h
        · exact absurd (.inl h) hfits
        · exact h
      have hlen : 0 < (ie.mtu - (d.piece T (a, b)).headerLength) / 8 * 8 := by
        change 0 < (ie.mtu - d.headerLength) / 8 * 8
        omega
      have hfuel : b - a - 0 ≤ (d.piece T (a, b)).payloadLength := by
        rw [piece_payloadLength]
        exact Nat.sub_le _ _
      obtain ⟨L, hL, hmap⟩ := fragmentLoop_piece (d := d) 0 hlen hb hab hfuel
      refine ⟨L, hL, [], ?_⟩
      rw [if_neg httl, if_neg hfits, if_neg (by simp [piece, hdf])]
      dsimp only
      rw [if_neg hlen.ne', hmap]

theorem fragmentAndSend_piece (hie : Link d.headerLength ie) (hdf : d.dontFragment = false)
    (hab : a < b) (hb : b ≤ T) :
    ∃ L, Consecutive a L b ∧ ∃ icmp, fragmentAndSend ie (d.piece T (a, b)) =
      .ok (if (d.hop ie).timeToLive < 0 then [] else L.map ((d.hop ie).piece T), icmp) := by
  have hpiece := checkAndSend_piece (d := d.hop ie) hie hdf hab hb
  rwa [fragmentAndSend_eq (d := d.piece T (a, b)) hie]

variable {L : List (ℕ × ℕ)}

/-- The pieces of a datagram go over a hop. -/
theorem sendAll_piece (hie : Link d.headerLength ie) (hdf : d.dontFragment = false)
    (hL : Consecutive a L b) (hb : b ≤ T) :
    ∃ L', Consecutive a L' b ∧ sendAll ie (L.map (d.piece T)) =
      .ok (if (d.hop ie).timeToLive < 0 then [] else L'.map ((d.hop ie).piece T)) := by
  induction hL with
  | nil a => exact ⟨[], .nil a, by simp [sendAll]⟩
  | @cons a c b L hlt hrest ih =>
    obtain ⟨L', hL', hsend⟩ := ih hb
    have hcb := hrest.le
    obtain ⟨K, hK, icmp, hpiece⟩ := fragmentAndSend_piece hie hdf hlt (by omega : c ≤ T)
    refine ⟨K ++ L', hK.append hL', ?_⟩
    rw [map_cons, sendAll, hpiece, hsend]
    simp only [Except.ok_bind, Except.pure_eq_ok, map_append]
    split_ifs <;> rfl

/-- The header after a chain of hops. -/
def hops (ies : List InterfaceEntry) (d : IPv4Datagram α) : IPv4Datagram α :=
  ies.foldl (fun d ie => d.hop ie) d

@[simp] theorem hops_cons (ie : InterfaceEntry) (ies : List InterfaceEntry) (d : IPv4Datagram α) :
    d.hops (ie :: ies) = (d.hop ie).hops ies := rfl

theorem hop_timeToLive_le (ie : InterfaceEntry) (d : IPv4Datagram α) :
    (d.hop ie).timeToLive ≤ d.timeToLive := by
  unfold hop
  dsimp only
  split_ifs <;> omega

theorem hops_timeToLive_le (ies : List InterfaceEntry) (d : IPv4Datagram α) :
    (d.hops ies).timeToLive ≤ d.timeToLive := by
  induction ies generalizing d with
  | nil => exact le_rfl
  | cons ie ies ih => exact (ih (d.hop ie)).trans (hop_timeToLive_le ie d)

theorem sendAlong_nil (ies : List InterfaceEntry) :
    sendAlong ies ([] : List (IPv4Datagram α)) = .ok [] := by
  induction ies with
  | nil => rfl
  | cons ie ies ih => simpa [sendAlong, sendAll] using ih

variable {ies : List InterfaceEntry}

/-- A datagram travels along a chain of hops: it arrives in consecutive pieces, or not at all when
the chain is longer than its time to live. -/
theorem sendAlong_piece (hies : ∀ ie ∈ ies, Link d.headerLength ie) (hdf : d.dontFragment = false)
    (httl : 0 ≤ d.timeToLive) (hL : Consecutive 0 L T) :
    ∃ L', Consecutive 0 L' T ∧ sendAlong ies (L.map (d.piece T)) =
      .ok (if (d.hops ies).timeToLive < 0 then [] else L'.map ((d.hops ies).piece T)) := by
  induction ies generalizing d L with
  | nil => exact ⟨L, hL, by simp [sendAlong, hops, httl.not_gt]⟩
  | cons ie ies ih =>
    obtain ⟨L', hL', hsend⟩ := sendAll_piece (hies ie mem_cons_self) hdf hL le_rfl
    rw [sendAlong, hsend, Except.ok_bind]
    by_cases hhop : (d.hop ie).timeToLive < 0
    · have hlt := (hops_timeToLive_le ies (d.hop ie)).trans_lt hhop
      exact ⟨L', hL', by rw [if_pos hhop, sendAlong_nil, hops_cons, if_pos hlt]⟩
    · rw [if_neg hhop]
      exact ih (d := d.hop ie) (fun ie' h => hies ie' (mem_cons_of_mem _ h)) hdf (by omega) hL'

/-- A datagram without payload is never cut. -/
theorem sendAlong_empty (hies : ∀ ie ∈ ies, Link d.headerLength ie)
    (hlen : d.byteLength = d.headerLength) (httl : 0 ≤ d.timeToLive) :
    sendAlong ies [d] = .ok (if (d.hops ies).timeToLive < 0 then [] else [d.hops ies]) := by
  induction ies generalizing d with
  | nil => simp [sendAlong, hops, httl.not_gt]
  | cons ie ies ih =>
    have hie := hies ie mem_cons_self
    have hfits : ie.mtu = 0 ∨ (d.hop ie).byteLength ≤ ie.mtu := by
      refine hie.mtu.imp_right fun h => ?_
      change d.byteLength ≤ ie.mtu
      omega
    rw [sendAlong, sendAll, fragmentAndSend_eq hie, checkAndSend, hops_cons]
    by_cases hhop : (d.hop ie).timeToLive < 0
    · have hlt := (hops_timeToLive_le ies (d.hop ie)).trans_lt hhop
      rw [if_pos hhop, if_pos hlt]
      exact sendAlong_nil ies
    · rw [if_neg hhop, if_pos hfits]
      exact ih (d := d.hop ie) (fun ie' h => hies ie' (mem_cons_of_mem _ h)) hlen (by omega)

/-- What an interface can carry. -/
def OnLink (ie : InterfaceEntry) (f : IPv4Datagram α) : Prop :=
  (ie.mtu = 0 ∨ f.byteLength ≤ ie.mtu) ∧ 0 ≤ f.timeToLive

theorem mem_fragmentLoop {f : IPv4Datagram α} {l fuel offset : ℕ}
    (hf : f ∈ d.fragmentLoop l fuel offset) :
    f.byteLength ≤ d.headerLength + l ∧ f.timeToLive = d.timeToLive := by
  induction fuel generalizing offset with
  | zero => cases hf
  | succ fuel ih =>
    unfold fragmentLoop at hf
    split_ifs at hf
    · rcases mem_cons.1 hf with rfl | hf
      · refine ⟨?_, rfl⟩
        simp only [decide_eq_true_eq]
        split_ifs <;> omega
      · exact ih hf
    · cases hf

theorem checkAndSend_onLink (ie : InterfaceEntry) (d : IPv4Datagram α) :
    (checkAndSend ie d).Ensures (fun _ => True) fun p => ∀ f ∈ p.1, OnLink ie f := by
  unfold checkAndSend
  dsimp only
  split_ifs with httl hfits hdf hlen
  · simp
  · simpa using ⟨hfits, not_lt.1 httl⟩
  · simp
  · trivial
  · intro f hf
    obtain ⟨hle, hf⟩ := mem_fragmentLoop hf
    exact ⟨.inr (by omega), by omega⟩

/-- Whatever datagrams reach an interface, those that leave it fit into its MTU and have hops
left. -/
theorem sendAll_onLink (ie : InterfaceEntry) (ds : List (IPv4Datagram α)) :
    (sendAll ie ds).Ensures (fun _ => True) fun out => ∀ f ∈ out, OnLink ie f := by
  induction ds with
  | nil => exact forall_mem_nil _
  | cons d ds ih =>
    rw [sendAll, fragmentAndSend]
    refine Except.Ensures.bind (P := fun p => ∀ f ∈ p.1, OnLink ie f) ?_ fun p hp =>
      ih.bind fun rest hrest => forall_mem_append.2 ⟨hp, hrest⟩
    cases fillSrcAddress ie d.srcAddress with
    | error e => trivial
    | ok srcAddress => exact checkAndSend_onLink ie _

end IPv4Datagram

end Hiwis
