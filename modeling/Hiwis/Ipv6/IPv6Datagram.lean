import Hiwis.Ipv6.RoutingTable6
import Hiwis.Lib.Consecutive

/-!
# IPv6 datagrams and their fragmentation

A datagram keeps its extension headers in the order of RFC 2460; `addExtensionHeader` inserts a
header at its place, and a copy of a datagram gets its headers in the same way.
`IPv6.fragmentAndSend` sends a datagram out on an interface, in fragments when it is longer than the
MTU.

* `copyHeaders_eq` : a copy has the headers of the original;
* `insertFrom_fragment` : the place of the Fragment header;
* `fragmentAndSend_eq` : a datagram is cut into consecutive pieces.
-/

namespace Hiwis

open List Option Except

/-- The types of the extension headers other than the Fragment header. -/
inductive ExtensionType
  | hop
  | dest
  | routing
  | auth
  | esp
  | mob
  /-- A type that has no place in RFC 2460 4.1. -/
  | other (protocol : ℤ)
  deriving DecidableEq

/-- `IPv6FragmentHeader`. -/
structure IPv6FragmentHeader where
  identification : UInt32
  /-- In octets. -/
  fragmentOffset : ℕ
  moreFragments : Bool
  deriving DecidableEq

/-- `IPv6ExtensionHeader`; `β` is the type of the contents of the other headers. -/
inductive IPv6ExtensionHeader (β : Type)
  | fragment (fh : IPv6FragmentHeader)
  | general (type : ExtensionType) (byteLength : ℕ) (content : β)
  deriving DecidableEq

/-- What stops the IPv6 module. -/
inductive IPv6Fault
  /-- `addExtensionHeader() duplicate extension header: %d`. -/
  | duplicateHeader
  /-- A failed `ASSERT`. -/
  | assertion
  /-- A reassembly buffer is erased that was created by the same call. -/
  | eraseEnd
  deriving DecidableEq

/-- `IPv6_HEADER_BYTES`. -/
def ipv6HeaderBytes : ℕ := 40

/-- `IPv6_FRAGMENT_HEADER_LENGTH`. -/
def ipv6FragmentHeaderLength : ℕ := 8

namespace IPv6ExtensionHeader

variable {β : Type}

/-- `getByteLength`. -/
def byteLength : IPv6ExtensionHeader β → ℕ
  | fragment _ => ipv6FragmentHeaderLength
  | general _ byteLength _ => byteLength

/-- `getExtensionHeaderOrder`. -/
def order : IPv6ExtensionHeader β → ℤ
  | general .hop _ _ => 0
  | general .dest _ _ => 1
  | general .routing _ _ => 2
  | fragment _ => 3
  | general .auth _ _ => 4
  | general .esp _ _ => 5
  -- the second Destination Options header has order 6
  | general .mob _ _ => 7
  | general (.other _) _ _ => -1

/-- Whether the type is `IP_PROT_IPv6EXT_FRAGMENT`. -/
def isFragment : IPv6ExtensionHeader β → Bool
  | fragment _ => true
  | general .. => false

/-- Whether the type is `IP_PROT_IPv6EXT_ROUTING` or `IP_PROT_IPv6EXT_HOP`. -/
def isRoutingOrHop : IPv6ExtensionHeader β → Bool
  | general .routing _ _ => true
  | general .hop _ _ => true
  | _ => false

/-! ### The list of extension headers -/

/-- The loop of `addExtensionHeader` at a header of the list: `thisOrder` afterwards, or `none` when
the new header comes before it. -/
def look (thisOrder thatOrder : ℤ) : Except IPv6Fault (Option ℤ) :=
  if thisOrder ≠ -1 ∧ thatOrder > thisOrder then .ok none
  else if thisOrder = thatOrder then
    if thisOrder = 1 then .ok (some 6)
    else if thisOrder ≠ -1 then .error .duplicateHeader
    else .ok (some thisOrder)
  else .ok (some thisOrder)

/-- The loop of `addExtensionHeader`, and the insertion. -/
def insertFrom (eh : IPv6ExtensionHeader β) :
    ℤ → List (IPv6ExtensionHeader β) → Except IPv6Fault (List (IPv6ExtensionHeader β))
  | _, [] => .ok [eh]
  | thisOrder, h :: hs =>
    match look thisOrder h.order with
    | .error fault => .error fault
    | .ok none => .ok (eh :: h :: hs)
    | .ok (some thisOrder) => (insertFrom eh thisOrder hs).map (h :: ·)

section

variable (hs : List (IPv6ExtensionHeader β))

/-- `addExtensionHeader`. -/
def addExtensionHeader (eh : IPv6ExtensionHeader β) :
    Except IPv6Fault (List (IPv6ExtensionHeader β)) :=
  insertFrom eh eh.order hs

/-- `IPv6Datagram::copy`. -/
def copyHeaders :
    Except IPv6Fault (List (IPv6ExtensionHeader β)) :=
  hs.foldlM addExtensionHeader []

/-- `removeExtensionHeader(IP_PROT_IPv6EXT_FRAGMENT)`. -/
def removeFragment : List (IPv6ExtensionHeader β) := hs.eraseP isFragment

/-- The sum of the lengths of a list of headers. -/
def totalLength : ℕ := (hs.map byteLength).sum

/-- The headers up to the last Routing or Hop-by-Hop Options header. -/
def unfragmentable : List (IPv6ExtensionHeader β) := hs.rdropWhile fun h => !h.isRoutingOrHop

/-- The headers up to the place of the Fragment header. -/
def beforeFragment : List (IPv6ExtensionHeader β) := hs.takeWhile fun h => h.order ≤ 3

/-- The headers that come after the last Routing or Hop-by-Hop Options header, but before the place
of the Fragment header. -/
def straddling : List (IPv6ExtensionHeader β) := (beforeFragment hs).drop (unfragmentable hs).length

end

/-- The order after the loop has gone through the headers of a list, if it does. -/
def scan : ℤ → List (IPv6ExtensionHeader β) → Option ℤ
  | thisOrder, [] => some thisOrder
  | thisOrder, h :: hs =>
    match look thisOrder h.order with
    | .ok (some thisOrder) => scan thisOrder hs
    | _ => none

/-- Each header has been put after those before it. -/
def Ordered (hs : List (IPv6ExtensionHeader β)) : Prop :=
  ∀ pre h post, hs = pre ++ h :: post → (scan h.order pre).isSome = true

section Order

variable {eh h : IPv6ExtensionHeader β} {pre hs hs' : List (IPv6ExtensionHeader β)} {t t' : ℤ}

theorem insertFrom_append (h : scan t pre = some t') :
    insertFrom eh t (pre ++ hs) = (insertFrom eh t' hs).map (pre ++ ·) := by
  induction pre generalizing t with
  | nil =>
    rw [scan, Option.some.injEq] at h
    subst h
    rw [nil_append]
    cases insertFrom eh t hs <;> rfl
  | cons x pre ih =>
    rw [scan] at h
    rw [cons_append, insertFrom]
    split at h
    · next t1 hlook =>
      rw [hlook]
      dsimp only
      rw [ih h]
      cases insertFrom eh t' hs <;> rfl
    · cases h

/-- Where a header is inserted. -/
theorem insertFrom_eq_ok (h : insertFrom eh t hs = .ok hs') :
    ∃ pre post t', hs = pre ++ post ∧ hs' = pre ++ eh :: post ∧ scan t pre = some t' ∧
      ∀ b ∈ post.head?, t' ≠ -1 ∧ t' < b.order := by
  induction hs generalizing t hs' with
  | nil =>
    cases h
    exact ⟨[], [], t, rfl, rfl, rfl, by simp⟩
  | cons x hs ih =>
    rw [insertFrom] at h
    split at h
    · cases h
    · next hlook =>
      -- the header is inserted before `x`
      cases h
      refine ⟨[], x :: hs, t, rfl, rfl, rfl, ?_⟩
      intro b hb
      cases hb
      unfold look at hlook
      split_ifs at hlook with hbreak <;> first | exact hbreak | cases hlook
    · next t1 hlook =>
      cases hrest : insertFrom eh t1 hs with
      | error e =>
        rw [hrest] at h
        cases h
      | ok r =>
        rw [hrest] at h
        cases h
        obtain ⟨pre, post, t', rfl, rfl, hscan, hpost⟩ := ih hrest
        refine ⟨x :: pre, post, t', rfl, rfl, ?_, hpost⟩
        rw [scan, hlook]
        exact hscan

theorem scan_append (t : ℤ) (pre hs : List (IPv6ExtensionHeader β)) :
    scan t (pre ++ hs) = (scan t pre).bind fun t' => scan t' hs := by
  induction pre generalizing t with
  | nil => rfl
  | cons x pre ih =>
    rw [cons_append, scan, scan]
    split
    · exact ih _
    · rfl

/-- How the loop passes a header. -/
theorem look_eq_some {o : ℤ} (h : look t o = .ok (some t')) :
    (t = -1 ∨ o ≤ t) ∧ (t' = t ∨ t = 1 ∧ t' = 6) := by
  unfold look at h
  split_ifs at h with hbreak heq hone <;> cases h <;> omega

theorem look_of_lt {o : ℤ} (h : t = -1 ∨ o < t) : look t o = .ok (some t) := by
  unfold look
  split_ifs with hbreak heq hone hno <;> first | rfl | omega

/-- The order changes at most once. -/
theorem scan_eq_some (h : scan t pre = some t') : t' = t ∨ t = 1 ∧ t' = 6 := by
  induction pre generalizing t with
  | nil =>
    cases h
    exact .inl rfl
  | cons x pre ih =>
    rw [scan] at h
    split at h
    · next t1 hlook =>
      have hstep := (look_eq_some hlook).2
      have hrest := ih h
      omega
    · cases h

/-- A header whose type has a place comes after headers of lower orders only. -/
theorem order_le_of_scan (h : scan t pre = some t') (ht : t ≠ -1) : ∀ x ∈ pre, x.order ≤ t' := by
  induction pre generalizing t with
  | nil => simp
  | cons x pre ih =>
    rw [scan] at h
    split at h
    · next t1 hlook =>
      obtain ⟨hle, hstep⟩ := look_eq_some hlook
      have hrest := scan_eq_some h
      intro y hy
      rcases mem_cons.1 hy with rfl | hy
      · omega
      · exact ih h (by omega) y hy
    · cases h

/-- A header that is inserted does not stop the loop for the headers behind it. -/
theorem Ordered.insert (h : Ordered hs) (hadd : addExtensionHeader hs eh = .ok hs') :
    Ordered hs' := by
  obtain ⟨pre, post, t', rfl, rfl, hscan, hpost⟩ := insertFrom_eq_ok hadd
  intro pre' x post' heq
  rcases append_eq_append_iff.1 heq with ⟨mid, rfl, hmid⟩ | ⟨mid, rfl, hmid⟩
  · cases mid with
    | nil =>
      obtain ⟨rfl, rfl⟩ := List.cons.inj hmid
      rw [append_nil, hscan]
      rfl
    | cons y mid =>
      obtain ⟨rfl, rfl⟩ := List.cons.inj hmid
      have hold := h (pre ++ mid) x post' (append_assoc ..).symm
      rw [scan_append] at hold ⊢
      cases ht1 : scan x.order pre with
      | none =>
        rw [ht1] at hold
        cases hold
      | some t1 =>
        rw [ht1] at hold
        -- the new header is less than the one behind it, which `x` passes or is
        have hlt : t1 = -1 ∨ eh.order < t1 := by
          have hnew := scan_eq_some hscan
          have hx := scan_eq_some ht1
          cases mid with
          | nil =>
            have := hpost x rfl
            omega
          | cons b mid =>
            have hb := hpost b rfl
            rw [bind_some, scan] at hold
            split at hold
            · next hlook =>
              have := (look_eq_some hlook).1
              omega
            · cases hold
        rw [bind_some, scan, look_of_lt hlt]
        exact hold
  · cases mid with
    | nil =>
      obtain ⟨rfl, rfl⟩ := List.cons.inj hmid
      rw [append_nil] at hscan
      rw [hscan]
      rfl
    | cons y mid =>
      obtain ⟨rfl, -⟩ := List.cons.inj hmid
      exact h pre' x (mid ++ post) (by simp)

/-- The headers that have been added one by one are ordered. -/
theorem ordered_of_foldlM {l : List (IPv6ExtensionHeader β)} (h : Ordered hs)
    (hl : l.foldlM addExtensionHeader hs = .ok hs') : Ordered hs' := by
  induction l generalizing hs with
  | nil =>
    cases hl
    exact h
  | cons x l ih =>
    rw [foldlM_cons, bind_eq_ok] at hl
    obtain ⟨hs1, hadd, hl⟩ := hl
    exact ih (h.insert hadd) hl

theorem Ordered.nil : Ordered ([] : List (IPv6ExtensionHeader β)) := by
  intro pre h post heq
  simp at heq

/-- A header that has been put after those before it is put there again. -/
theorem addExtensionHeader_of_scan (h : (scan eh.order pre).isSome = true) :
    addExtensionHeader pre eh = .ok (pre ++ [eh]) := by
  obtain ⟨t, ht⟩ := isSome_iff_exists.1 h
  have hins : insertFrom eh eh.order (pre ++ []) = (insertFrom eh t []).map (pre ++ ·) :=
    insertFrom_append ht
  rw [append_nil] at hins
  exact hins

theorem Ordered.foldlM_eq (h : Ordered (pre ++ hs)) :
    hs.foldlM addExtensionHeader pre = .ok (pre ++ hs) := by
  induction hs generalizing pre with
  | nil => simp
  | cons x hs ih =>
    have hadd := addExtensionHeader_of_scan (h pre x hs rfl)
    have hsplit : pre ++ x :: hs = (pre ++ [x]) ++ hs := by simp
    rw [foldlM_cons, hadd, ok_bind, hsplit]
    exact ih (hsplit ▸ h)

/-- A copy has the headers of the original. -/
theorem Ordered.copyHeaders_eq (h : Ordered hs) : copyHeaders hs = .ok hs := by
  have hnil : Ordered ([] ++ hs) := h
  exact hnil.foldlM_eq

/-- The Fragment header comes before the first header of a higher order. -/
theorem addExtensionHeader_fragment (fh : IPv6FragmentHeader) (h : ∀ x ∈ hs, x.isFragment = false) :
    addExtensionHeader hs (.fragment fh) =
      .ok (beforeFragment hs ++ .fragment fh :: hs.drop (beforeFragment hs).length) := by
  induction hs with
  | nil => rfl
  | cons x hs ih =>
    have hx : x.order ≠ 3 := by
      have := h x mem_cons_self
      cases x with
      | fragment fh => simp [isFragment] at this
      | general type byteLength content => cases type <;> simp [order]
    have ih := ih fun y hy => h y (mem_cons_of_mem _ hy)
    change insertFrom _ 3 _ = _ at ih
    change insertFrom _ 3 _ = _
    by_cases hle : x.order ≤ 3
    · have hlook : look 3 x.order = .ok (some 3) := look_of_lt (.inr (by omega))
      rw [insertFrom, hlook]
      dsimp only
      rw [ih]
      simp [beforeFragment, hle, Except.map]
    · have hlook : look 3 x.order = .ok none := by
        rw [look, if_pos ⟨by decide, by omega⟩]
      rw [insertFrom, hlook]
      simp [beforeFragment, hle]

/-- The headers before the last Routing or Hop-by-Hop Options header come before the Fragment
header. -/
theorem Ordered.unfragmentable_le (h : Ordered hs) : ∀ x ∈ unfragmentable hs, x.order ≤ 3 := by
  intro x hx
  obtain ⟨post, hpost⟩ := rdropWhile_prefix (p := fun h => !h.isRoutingOrHop) (l := hs)
  change unfragmentable hs ++ post = hs at hpost
  have hne : unfragmentable hs ≠ [] := ne_nil_of_mem hx
  have hlast : ((unfragmentable hs).getLast hne).isRoutingOrHop = true := by
    have := rdropWhile_last_not (fun h : IPv6ExtensionHeader β => !h.isRoutingOrHop) hs hne
    rw [Bool.not_eq_true', Bool.not_eq_false] at this
    exact this
  obtain ⟨pre, r, heq⟩ := eq_nil_or_concat' (unfragmentable hs) |>.resolve_left hne
  have hr : r.isRoutingOrHop = true := by
    simpa [heq] using hlast
  have hsome := h pre r post (by rw [← hpost, heq]; simp)
  obtain ⟨t, ht⟩ := isSome_iff_exists.1 hsome
  have horder : r.order = 0 ∨ r.order = 2 := by
    cases r with
    | fragment fh => simp [isRoutingOrHop] at hr
    | general type byteLength content => cases type <;> simp_all [isRoutingOrHop, order]
  have htr := scan_eq_some ht
  rw [heq, mem_append, mem_singleton] at hx
  rcases hx with hx | rfl
  · have := order_le_of_scan ht (by omega) x hx
    omega
  · omega

/-- The headers before the Fragment header: those that the sender does not count as fragmentable,
and those that it does. -/
theorem Ordered.beforeFragment_eq (h : Ordered hs) :
    beforeFragment hs = unfragmentable hs ++ straddling hs := by
  obtain ⟨post, hpost⟩ := rdropWhile_prefix (p := fun h => !h.isRoutingOrHop) (l := hs)
  change unfragmentable hs ++ post = hs at hpost
  have htake : beforeFragment hs = unfragmentable hs ++ beforeFragment post := by
    conv_lhs => rw [← hpost]
    exact takeWhile_append_of_pos fun x hx => decide_eq_true (h.unfragmentable_le x hx)
  rw [straddling, htake, drop_left]

end Order

end IPv6ExtensionHeader

open IPv6ExtensionHeader

/-! ### Datagrams -/

/-- `SOLICITED_NODE_PREFIX`. -/
def solicitedNodePrefix : IPv6Address := 0xFF0200000000000000000001FF000000

/-- `isSolicitedNodeMulticastAddress`. -/
def IPv6Address.isSolicitedNodeMulticastAddress (addr : IPv6Address) : Bool :=
  addr.isMatch solicitedNodePrefix 104

/-- `IPv6Datagram`, which encapsulates a packet of type `α`. -/
structure IPv6Datagram (α β : Type) where
  srcAddress : IPv6Address := .unspecifiedAddress
  destAddress : IPv6Address := .unspecifiedAddress
  trafficClass : UInt8 := 0
  flowLabel : UInt32 := 0
  hopLimit : ℤ := 0
  transportProtocol : ℤ := 0
  extensionHeaders : List (IPv6ExtensionHeader β) := []
  /-- The length of the datagram, its header included. -/
  byteLength : ℕ := 0
  encapsulatedPacket : Option α := none
  deriving DecidableEq

/-- What `fragmentAndSend` reads of the outgoing interface. -/
structure OutInterface where
  mtu : ℕ
  preferredAddress : IPv6Address
  /-- `isTentativeAddress` of the preferred address. -/
  tentative : Bool
  deriving DecidableEq

inductive ICMPv6Error
  /-- `ICMPv6_TIME_EXCEEDED`. -/
  | timeExceeded
  /-- `ICMPv6_PACKET_TOO_BIG`. -/
  | packetTooBig
  /-- `ICMPv6_PARAMETER_PROBLEM`, `ERROREOUS_HDR_FIELD`. -/
  | parameterProblem
  deriving DecidableEq

/-- What `fragmentAndSend` does with a datagram. -/
inductive SendEffect (α β : Type)
  | sendDatagramToOutput (d : IPv6Datagram α β)
  | sendErrorMessage (d : IPv6Datagram α β) (error : ICMPv6Error)
  /-- The source address is tentative, so the datagram is kept for later. -/
  | enqueue (d : IPv6Datagram α β)
  deriving DecidableEq

/-- The datagram that goes out, if there is one. -/
def SendEffect.sent {α β : Type} : SendEffect α β → Option (IPv6Datagram α β)
  | sendDatagramToOutput d => some d
  | _ => none

namespace IPv6Datagram

variable {α β : Type}

/-- `calculateHeaderByteLength`. -/
def calculateHeaderByteLength (d : IPv6Datagram α β) : ℕ :=
  ipv6HeaderBytes + totalLength d.extensionHeaders

/-- `calculateUnfragmentableHeaderByteLength`. -/
def calculateUnfragmentableHeaderByteLength (d : IPv6Datagram α β) : ℕ :=
  ipv6HeaderBytes + totalLength (unfragmentable d.extensionHeaders)

/-- The loop of `calculateFragmentLength`. -/
def fragmentLengthFrom : ℤ → List (IPv6ExtensionHeader β) → Except IPv6Fault ℤ
  | _, [] => .error .assertion
  | len, h :: hs =>
    if h.isFragment then .ok (len - h.byteLength) else fragmentLengthFrom (len - h.byteLength) hs

/-- `calculateFragmentLength`. -/
def calculateFragmentLength (d : IPv6Datagram α β) : Except IPv6Fault ℤ :=
  fragmentLengthFrom (d.byteLength - ipv6HeaderBytes) d.extensionHeaders

/-- `dup`. -/
def dup (d : IPv6Datagram α β) : Except IPv6Fault (IPv6Datagram α β) := do
  let extensionHeaders ← copyHeaders d.extensionHeaders
  pure { d with extensionHeaders }

/-- The fragment that `fragmentAndSend` creates in a round of its loop. -/
def fragmentAt (d : IPv6Datagram α β) (identification : UInt32)
    (headerLength payloadLength fragmentLength offset : ℕ) :
    Except IPv6Fault (IPv6Datagram α β) := do
  let lastFragment := decide (payloadLength ≤ offset + fragmentLength)
  let thisFragmentLength := if lastFragment then payloadLength - offset else fragmentLength
  let fh : IPv6FragmentHeader := ⟨identification, offset % 2 ^ 16, !lastFragment⟩
  let fragment ← d.dup
  let extensionHeaders ← addExtensionHeader fragment.extensionHeaders (.fragment fh)
  pure { fragment with
    extensionHeaders
    encapsulatedPacket := if offset = 0 then d.encapsulatedPacket else none
    byteLength := headerLength + ipv6FragmentHeaderLength + thisFragmentLength }

/-- The loop of `fragmentAndSend` from the given offset on, for at most `fuel` rounds. -/
def fragmentLoop (d : IPv6Datagram α β) (identification : UInt32)
    (headerLength payloadLength fragmentLength : ℕ) :
    ℕ → ℕ → Except IPv6Fault (List (IPv6Datagram α β))
  | 0, _ => pure []
  | fuel + 1, offset =>
    if offset < payloadLength then do
      let fragment ←
        d.fragmentAt identification headerLength payloadLength fragmentLength offset
      let rest ← fragmentLoop d identification headerLength payloadLength fragmentLength fuel
        (offset + fragmentLength)
      pure (fragment :: rest)
    else pure []

/-- Whether `fragmentAndSend` fills in the source address; it stays unspecified during duplicate
address detection. -/
def needsSrcAddress (d : IPv6Datagram α β) (fromHL : Bool) : Bool :=
  fromHL && d.srcAddress.isUnspecified && !d.destAddress.isSolicitedNodeMulticastAddress

/-- `fragmentAndSend` from the check of the length on: what is done, and `curFragmentId`. -/
def cutAndSend (ie : OutInterface) (curFragmentId : UInt32) (d : IPv6Datagram α β) (fromHL : Bool) :
    Except IPv6Fault (List (SendEffect α β) × UInt32) :=
  if d.byteLength ≤ ie.mtu then pure ([.sendDatagramToOutput d], curFragmentId)
  else if !fromHL then pure ([.sendErrorMessage d .packetTooBig], curFragmentId)
  else do
    let headerLength := d.calculateUnfragmentableHeaderByteLength
    let payloadLength := d.byteLength - headerLength
    let fragmentLength := (ie.mtu - headerLength - ipv6FragmentHeaderLength) / 8 * 8
    if fragmentLength = 0 then throw .assertion
    else
      let fragments ← d.fragmentLoop curFragmentId headerLength payloadLength fragmentLength
        payloadLength 0
      pure (fragments.map .sendDatagramToOutput, curFragmentId + 1)

/-- `fragmentAndSend`. -/
def fragmentAndSend (ie : OutInterface) (curFragmentId : UInt32) (d : IPv6Datagram α β)
    (fromHL : Bool) : Except IPv6Fault (List (SendEffect α β) × UInt32) :=
  if d.hopLimit ≤ 0 then pure ([.sendErrorMessage d .timeExceeded], curFragmentId)
  else if d.needsSrcAddress fromHL then
    if ie.preferredAddress.isUnspecified then throw .assertion
    else
      let d := { d with srcAddress := ie.preferredAddress }
      if ie.tentative then pure ([.enqueue d], curFragmentId)
      else d.cutAndSend ie curFragmentId fromHL
  else d.cutAndSend ie curFragmentId fromHL

/-! ### Pieces -/

/-- The list of extension headers with a Fragment header. -/
def withFragment (hs : List (IPv6ExtensionHeader β)) (fh : IPv6FragmentHeader) :
    List (IPv6ExtensionHeader β) :=
  beforeFragment hs ++ .fragment fh :: hs.drop (beforeFragment hs).length

/-- The fragment with the octets `[c.1, c.2)` of a datagram with `T` fragmentable octets. -/
def piece (d : IPv6Datagram α β) (identification : UInt32) (T : ℕ) (c : ℕ × ℕ) :
    IPv6Datagram α β :=
  { d with
    extensionHeaders := withFragment d.extensionHeaders ⟨identification, c.1, decide (c.2 ≠ T)⟩
    encapsulatedPacket := if c.1 = 0 then d.encapsulatedPacket else none
    byteLength := d.calculateUnfragmentableHeaderByteLength + ipv6FragmentHeaderLength +
      (c.2 - c.1) }

/-- The octets of the datagram that its sender may put into fragments. -/
def fragmentableLength (d : IPv6Datagram α β) : ℕ :=
  d.byteLength - d.calculateUnfragmentableHeaderByteLength

/-- A datagram from a higher layer: its extension headers have been added one by one, and what is
left after the unfragmentable part fits in 65535 octets. -/
structure Legal (d : IPv6Datagram α β) : Prop where
  headers : ∃ l, copyHeaders l = .ok d.extensionHeaders
  isFragment : ∀ eh ∈ d.extensionHeaders, eh.isFragment = false
  byteLength_pos : ∀ eh ∈ d.extensionHeaders, 0 < eh.byteLength
  header_le : d.calculateHeaderByteLength ≤ d.byteLength
  fragmentable_le : d.fragmentableLength ≤ 65535
  hopLimit : 0 < d.hopLimit

/-- An interface over which a datagram goes out in fragments: the MTU leaves room for eight octets,
and there is a source address. -/
structure Link (d : IPv6Datagram α β) (ie : OutInterface) : Prop where
  room : d.calculateUnfragmentableHeaderByteLength + ipv6FragmentHeaderLength + 8 ≤ ie.mtu
  mtu_lt : ie.mtu < d.byteLength
  srcAddress : d.needsSrcAddress true = true →
    ie.preferredAddress.isUnspecified = false ∧ ie.tentative = false

/-- The datagram with its source address. -/
def filled (d : IPv6Datagram α β) (ie : OutInterface) : IPv6Datagram α β :=
  if d.needsSrcAddress true then { d with srcAddress := ie.preferredAddress } else d

section Cutting

variable {d : IPv6Datagram α β} {ie : OutInterface} {identification : UInt32}

theorem Legal.ordered (h : Legal d) : Ordered d.extensionHeaders := by
  obtain ⟨l, hl⟩ := h.headers
  exact ordered_of_foldlM .nil hl

theorem Legal.dup_eq (h : Legal d) : d.dup = .ok d := by
  unfold dup
  rw [h.ordered.copyHeaders_eq]
  rfl

theorem Legal.filled (h : Legal d) (ie : OutInterface) : Legal (d.filled ie) := by
  unfold IPv6Datagram.filled
  split_ifs
  · exact ⟨h.headers, h.isFragment, h.byteLength_pos, h.header_le, h.fragmentable_le, h.hopLimit⟩
  · exact h

/-- A round of the loop cuts off a piece. -/
theorem Legal.fragmentAt_eq (h : Legal d) {fragmentLength offset : ℕ}
    (hoff : offset < d.fragmentableLength) :
    d.fragmentAt identification d.calculateUnfragmentableHeaderByteLength d.fragmentableLength
      fragmentLength offset =
        .ok (d.piece identification d.fragmentableLength
          (offset, min (offset + fragmentLength) d.fragmentableLength)) := by
  have hmod : offset % 2 ^ 16 = offset := Nat.mod_eq_of_lt (by have := h.fragmentable_le; omega)
  unfold fragmentAt
  rw [h.dup_eq, ok_bind, addExtensionHeader_fragment _ h.isFragment, ok_bind, hmod]
  by_cases hlast : d.fragmentableLength ≤ offset + fragmentLength
  · simp [piece, withFragment, hlast]
  · have hlt : offset + fragmentLength < d.fragmentableLength := by omega
    simp [piece, withFragment, hlast, min_eq_left hlt.le, hlt.ne]

/-- The loop cuts what is left into consecutive pieces, all of the same length but for the last. -/
theorem Legal.fragmentLoop_eq (h : Legal d) (identification : UInt32) {fragmentLength : ℕ}
    (hlen : 0 < fragmentLength) {fuel offset : ℕ} (hoff : offset ≤ d.fragmentableLength)
    (hfuel : d.fragmentableLength - offset ≤ fuel) :
    ∃ L, Consecutive offset L d.fragmentableLength ∧
      (∀ c ∈ L, c.2 = min (c.1 + fragmentLength) d.fragmentableLength) ∧
      d.fragmentLoop identification d.calculateUnfragmentableHeaderByteLength d.fragmentableLength
        fragmentLength fuel offset = .ok (L.map (d.piece identification d.fragmentableLength)) := by
  induction fuel generalizing offset with
  | zero =>
    obtain rfl : offset = d.fragmentableLength := by omega
    exact ⟨[], .nil _, by simp, rfl⟩
  | succ fuel ih =>
    by_cases hlt : offset < d.fragmentableLength
    · by_cases hlast : d.fragmentableLength ≤ offset + fragmentLength
      · refine ⟨[(offset, d.fragmentableLength)], .single hlt, by simp [hlast], ?_⟩
        have hrest : d.fragmentLoop identification d.calculateUnfragmentableHeaderByteLength
            d.fragmentableLength fragmentLength fuel (offset + fragmentLength) = .ok [] := by
          cases fuel with
          | zero => rfl
          | succ fuel =>
            rw [fragmentLoop, if_neg (by omega)]
            rfl
        rw [fragmentLoop, if_pos hlt, h.fragmentAt_eq hlt, hrest, min_eq_right hlast]
        rfl
      · have hnext : offset + fragmentLength ≤ d.fragmentableLength := by omega
        obtain ⟨L, hL, hmin, hloop⟩ := ih hnext (by omega)
        refine ⟨(offset, offset + fragmentLength) :: L, .cons (by omega) hL, ?_, ?_⟩
        · intro c hc
          rcases mem_cons.1 hc with rfl | hc
          · exact (min_eq_left (by omega)).symm
          · exact hmin c hc
        · rw [fragmentLoop, if_pos hlt, h.fragmentAt_eq hlt, hloop, min_eq_left (by omega)]
          rfl
    · obtain rfl : offset = d.fragmentableLength := by omega
      refine ⟨[], .nil _, by simp, ?_⟩
      rw [fragmentLoop, if_neg hlt]
      rfl

/-- The pieces into which a datagram of `T` octets is cut: all of them but the last have the same
length, a multiple of eight. -/
structure Cuts (T fragmentLength : ℕ) (L : List (ℕ × ℕ)) : Prop where
  consecutive : Consecutive 0 L T
  snd_eq : ∀ c ∈ L, c.2 = min (c.1 + fragmentLength) T
  pos : 0 < fragmentLength
  mod : fragmentLength % 8 = 0
  lt : fragmentLength < T

variable {L : List (ℕ × ℕ)} {T l : ℕ}

/-- A piece is told by its offset. -/
theorem Cuts.inj (hL : Cuts T l L) {c c' : ℕ × ℕ} (hc : c ∈ L) (hc' : c' ∈ L) (h : c.1 = c'.1) :
    c = c' := by
  have h1 := hL.snd_eq c hc
  have h2 := hL.snd_eq c' hc'
  exact Prod.ext h (by omega)

theorem Cuts.first_mem (hL : Cuts T l L) : (0, l) ∈ L := by
  have hlt := hL.lt
  obtain ⟨c, hc, hle, -⟩ := hL.consecutive.cover le_rfl (by omega : 0 < T)
  have hsnd := hL.snd_eq c hc
  obtain rfl : c = (0, l) := Prod.ext (by dsimp only; omega) (by dsimp only; omega)
  exact hc

variable {c : ℕ × ℕ}

theorem Cuts.eq_first (hL : Cuts T l L) (hc : c ∈ L) (h : c.1 = 0) :
    c = (0, l) := hL.inj hc hL.first_mem h

/-- All pieces but the first one begin after it. -/
theorem Cuts.le_fst (hL : Cuts T l L) (hc : c ∈ L) (h : c.1 ≠ 0) : l ≤ c.1 := by
  rcases hL.consecutive.disjoint hL.first_mem hc with rfl | hle | hle
  · exact absurd rfl h
  · exact hle
  · have := hL.consecutive.bounds hc
    dsimp only at hle
    omega

/-- A datagram is cut into two pieces at least. -/
theorem Cuts.last_mem (hL : Cuts T l L) : ∃ o, (o, T) ∈ L ∧ l ≤ o ∧ o < T := by
  have hlt := hL.lt
  obtain ⟨c, hc, hle, hcT⟩ := hL.consecutive.cover (k := T - 1) (by omega) (by omega)
  have hbounds := hL.consecutive.bounds hc
  have heq : c = (c.1, T) := Prod.ext rfl (by dsimp only; omega)
  refine ⟨c.1, heq ▸ hc, hL.le_fst hc fun hzero => ?_, by omega⟩
  have hsnd := hL.snd_eq c hc
  omega

/-- The pieces but the last one. -/
theorem Cuts.mem_erase_last {T l o : ℕ} (hL : Cuts T l L) (ho : (o, T) ∈ L)
    (hc : c ∈ L.erase (o, T)) : c ∈ L ∧ c.2 ≠ T := by
  obtain ⟨hne, hc⟩ := hL.consecutive.nodup.mem_erase_iff.1 hc
  have hbounds := hL.consecutive.bounds hc
  have hbounds' := hL.consecutive.bounds ho
  refine ⟨hc, fun hend => ?_⟩
  rcases hL.consecutive.disjoint hc ho with rfl | hle | hle
  · exact hne rfl
  · dsimp only at hle hbounds'
    omega
  · dsimp only at hle
    omega

/-- The pieces but the last one and the first one. -/
theorem Cuts.mem_erase_first {T l o : ℕ} (hL : Cuts T l L) (ho : (o, T) ∈ L)
    (hc : c ∈ (L.erase (o, T)).erase (0, l)) : c ∈ L ∧ c.2 ≠ T ∧ l ≤ c.1 := by
  obtain ⟨hne, hc⟩ := (hL.consecutive.nodup.erase _).mem_erase_iff.1 hc
  obtain ⟨hcL, hend⟩ := hL.mem_erase_last ho hc
  exact ⟨hcL, hend, hL.le_fst hcL fun hzero => hne (hL.eq_first hcL hzero)⟩

theorem Legal.cutAndSend_eq (h : Legal d) (hie : Link d ie) (curFragmentId : UInt32) :
    ∃ fragmentLength L, Cuts d.fragmentableLength fragmentLength L ∧
      d.cutAndSend ie curFragmentId true =
        .ok ((L.map (d.piece curFragmentId d.fragmentableLength)).map .sendDatagramToOutput,
          curFragmentId + 1) := by
  have hroom := hie.room
  have hmtu := hie.mtu_lt
  set fragmentLength := (ie.mtu - d.calculateUnfragmentableHeaderByteLength -
    ipv6FragmentHeaderLength) / 8 * 8 with hfl
  have hpos : 0 < fragmentLength := by
    omega
  have hlt : fragmentLength < d.fragmentableLength := by
    unfold fragmentableLength
    omega
  obtain ⟨L, hL, hmin, hloop⟩ := h.fragmentLoop_eq curFragmentId hpos
    (Nat.zero_le _) (Nat.sub_zero _).le
  refine ⟨fragmentLength, L, ⟨hL, hmin, hpos, by omega, hlt⟩, ?_⟩
  unfold cutAndSend
  rw [if_neg (by omega), if_neg (by simp)]
  dsimp only
  rw [← hfl, if_neg hpos.ne']
  change (d.fragmentLoop curFragmentId _ d.fragmentableLength fragmentLength d.fragmentableLength 0
    >>= _) = _
  rw [hloop]
  rfl

/-- A datagram that is longer than the MTU is cut into consecutive pieces. -/
theorem Legal.fragmentAndSend_eq (h : Legal d) (hie : Link d ie) (curFragmentId : UInt32) :
    ∃ fragmentLength L, Cuts d.fragmentableLength fragmentLength L ∧
      fragmentAndSend ie curFragmentId d true =
        .ok ((L.map ((d.filled ie).piece curFragmentId d.fragmentableLength)).map
          .sendDatagramToOutput, curFragmentId + 1) := by
  have hhop : ¬ d.hopLimit ≤ 0 := by
    have := h.hopLimit
    omega
  unfold fragmentAndSend
  rw [if_neg hhop]
  by_cases hsrc : d.needsSrcAddress true = true
  · obtain ⟨hspec, htent⟩ := hie.srcAddress hsrc
    have hfill : d.filled ie = { d with srcAddress := ie.preferredAddress } := if_pos hsrc
    have hlink : Link (d.filled ie) ie := by
      rw [hfill]
      exact ⟨hie.room, hie.mtu_lt, fun _ => ⟨hspec, htent⟩⟩
    obtain ⟨fragmentLength, L, hL, hcut⟩ := (h.filled ie).cutAndSend_eq hlink curFragmentId
    have hT : (d.filled ie).fragmentableLength = d.fragmentableLength := by
      rw [hfill]
      rfl
    rw [hT] at hL hcut
    refine ⟨fragmentLength, L, hL, ?_⟩
    rw [if_pos hsrc, hspec, htent]
    dsimp only
    rw [← hfill]
    exact hcut
  · have hfill : d.filled ie = d := if_neg hsrc
    obtain ⟨fragmentLength, L, hL, hcut⟩ := h.cutAndSend_eq hie curFragmentId
    exact ⟨fragmentLength, L, hL, by rw [if_neg hsrc, hfill, hcut]⟩

end Cutting

end IPv6Datagram

end Hiwis
