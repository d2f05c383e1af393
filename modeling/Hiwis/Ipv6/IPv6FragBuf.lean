import Hiwis.Base.FragmentArrivals
import Hiwis.Ipv6.IPv6Datagram

/-!
# Reassembly of IPv6 datagrams

`IPv6FragBuf` keeps a reassembly buffer and the first fragment for each datagram that is not
complete yet.

The sender counts the octets after the last Routing or Hop-by-Hop Options header, and the receiver
counts those after the Fragment header.  The headers in between (`straddling`) are counted by the
sender only.
-/

namespace Hiwis

open List ReassemblyBuffer

open IPv6Datagram IPv6ExtensionHeader

/-- `IPv6FragBuf::DatagramBuffer`. -/
structure DatagramBuffer6 (α β : Type) where
  buf : ReassemblyBuffer
  datagram : Option (IPv6Datagram α β)
  createdAt : ℤ

/-- `IPv6FragBuf::Key`. -/
structure FragKey6 where
  id : UInt32
  src : IPv6Address
  dest : IPv6Address
  deriving DecidableEq

/-- `IPv6FragBuf`: the map from keys to buffers. -/
structure IPv6FragBuf (α β : Type) where
  bufs : FragKey6 → Option (DatagramBuffer6 α β)

/-- What `addFragment` does with a fragment. -/
inductive FragmentResult (α β : Type)
  /-- The datagram is complete. -/
  | complete (d : IPv6Datagram α β)
  /-- `NULL` is returned. -/
  | incomplete
  /-- `NULL` is returned, and an ICMP error has been sent. -/
  | rejected (error : ICMPv6Error)
  deriving DecidableEq

/-- The datagram that `addFragment` returns. -/
def FragmentResult.returned {α β : Type} : FragmentResult α β → Option (IPv6Datagram α β)
  | complete d => some d
  | _ => none

namespace IPv6FragBuf

variable {α β : Type}

/-- No buffers. -/
def empty : IPv6FragBuf α β := ⟨fun _ => none⟩

/-- The Fragment header, if there is one. -/
def findFragmentHeader (d : IPv6Datagram α β) : Option IPv6FragmentHeader :=
  d.extensionHeaders.findSome? fun
    | .fragment fh => some fh
    | .general .. => none

def key (d : IPv6Datagram α β) (fh : IPv6FragmentHeader) : FragKey6 :=
  ⟨fh.identification, d.srcAddress, d.destAddress⟩

/-- The buffer after `bufs[key]` has been assigned or erased. -/
def set (fb : IPv6FragBuf α β) (k : FragKey6) (b : Option (DatagramBuffer6 α β)) :
    IPv6FragBuf α β :=
  ⟨fun k' => if k' = k then b else fb.bufs k'⟩

@[simp] theorem set_bufs (fb : IPv6FragBuf α β) (k : FragKey6)
    (b : Option (DatagramBuffer6 α β)) : (fb.set k b).bufs k = b := if_pos rfl

theorem set_bufs_of_ne (fb : IPv6FragBuf α β) {k k' : FragKey6}
    (b : Option (DatagramBuffer6 α β)) (h : k' ≠ k) : (fb.set k b).bufs k' = fb.bufs k' := if_neg h

/-- The datagram that is handed out: the Fragment header is removed, and the length is that of the
unfragmentable part and of the fragments. -/
def reassembled (ret : IPv6Datagram α β) (totalLength : ℕ) : IPv6Datagram α β :=
  let ret := { ret with extensionHeaders := removeFragment ret.extensionHeaders }
  { ret with byteLength := ret.calculateUnfragmentableHeaderByteLength + totalLength }

section

variable (fb : IPv6FragBuf α β)

/-- What `addFragment` finds under a key, or creates. -/
def find (k : FragKey6) (now : ℤ) : DatagramBuffer6 α β :=
  (fb.bufs k).getD ⟨ReassemblyBuffer.empty, none, now⟩

/-- `addFragment` for a fragment that has passed the checks of RFC 2460 4.5. -/
def addRegion (k : FragKey6) (datagram : IPv6Datagram α β) (r : Region) (now : ℤ) :
    Except IPv6Fault (FragmentResult α β × IPv6FragBuf α β) :=
  let buf := fb.find k now
  let (isComplete, rb) := buf.buf.addFragment r.beg r.past r.islast
  let stored := if r.beg = 0 then some datagram else buf.datagram
  if isComplete then
    match stored with
    | none => throw .assertion
    | some ret =>
      -- `bufs.erase(i)`, where `i` is the end when the buffer is a new one
      if (fb.bufs k).isNone then throw .eraseEnd
      else pure (.complete (reassembled ret rb.getTotalLength), fb.set k none)
  else pure (.incomplete, fb.set k (some ⟨rb, stored, buf.createdAt⟩))

/-- `addFragment`.  The offsets of the reassembly buffer have 16 bits. -/
def addFragment (datagram : IPv6Datagram α β) (fh : IPv6FragmentHeader) (now : ℤ) :
    Except IPv6Fault (FragmentResult α β × IPv6FragBuf α β) := do
  let k := key datagram fh
  let fragmentLength ← datagram.calculateFragmentLength
  let past : ℤ := fh.fragmentOffset + fragmentLength
  if fh.moreFragments ∧ fragmentLength % 8 ≠ 0 then
    pure (.rejected .parameterProblem, fb.set k (some (fb.find k now)))
  else if past > 65535 then
    pure (.rejected .parameterProblem, fb.set k (some (fb.find k now)))
  else
    fb.addRegion k datagram
      ⟨fh.fragmentOffset, (past % 2 ^ 16).toNat, !fh.moreFragments⟩ now

/-- The reassembly part of `IPv6::localDeliver`: a datagram without a Fragment header does not go
through the buffer. -/
def defragment (datagram : IPv6Datagram α β) (now : ℤ) :
    Except IPv6Fault (FragmentResult α β × IPv6FragBuf α β) :=
  match findFragmentHeader datagram with
  | some fh => fb.addFragment datagram fh now
  | none => pure (.complete datagram, fb)

/-- The buffer after an arrival. -/
def receive (arrival : IPv6Datagram α β × ℤ) :
    Except IPv6Fault (IPv6FragBuf α β) := do
  let (_, fb) ← fb.defragment arrival.1 arrival.2
  pure fb

end

theorem find_buf (fb : IPv6FragBuf α β) (k : FragKey6) (now : ℤ) :
    (fb.find k now).buf = ((fb.bufs k).map (·.buf)).getD ReassemblyBuffer.empty := by
  unfold find
  cases fb.bufs k <;> rfl

variable {r : Region} {x : IPv6Datagram α β} {k : FragKey6} {rb : ReassemblyBuffer}

/-- A fragment that is added to a buffer does not complete it. -/
theorem addRegion_of_incomplete {fb : IPv6FragBuf α β} {now : ℤ}
    (h : (fb.find k now).buf.addFragment r.beg r.past r.islast = (false, rb)) :
    fb.addRegion k x r now = .ok (.incomplete, fb.set k (some ⟨rb,
      if r.beg = 0 then some x else (fb.find k now).datagram, (fb.find k now).createdAt⟩)) := by
  unfold addRegion
  dsimp only
  rw [h]
  rfl

/-- A fragment that is added to a buffer completes it. -/
theorem addRegion_of_complete {fb : IPv6FragBuf α β} {now : ℤ}
    (h : (fb.find k now).buf.addFragment r.beg r.past r.islast = (true, rb)) :
    fb.addRegion k x r now =
      match if r.beg = 0 then some x else (fb.find k now).datagram with
      | none => .error .assertion
      | some ret => if (fb.bufs k).isNone then .error .eraseEnd
        else .ok (.complete (reassembled ret rb.getTotalLength), fb.set k none) := by
  unfold addRegion
  dsimp only
  rw [h]
  rfl

/-- What `addFragment` does to the map, when it stops with no fault. -/
theorem addRegion_eq_ok {fb fb' : IPv6FragBuf α β} {now : ℤ} {out : FragmentResult α β}
    (h : fb.addRegion k x r now = .ok (out, fb')) :
    (out.returned = none ∧ ∃ b, fb' = fb.set k (some b)) ∨ fb' = fb.set k none := by
  obtain ⟨⟨complete, rb⟩, hb⟩ :
    ∃ b, (fb.find k now).buf.addFragment r.beg r.past r.islast = b := ⟨_, rfl⟩
  cases complete with
  | false =>
    rw [addRegion_of_incomplete hb] at h
    cases h
    exact .inl ⟨rfl, _, rfl⟩
  | true =>
    rw [addRegion_of_complete hb] at h
    split at h
    · cases h
    · split_ifs at h
      cases h
      exact .inr rfl

/-! ### What is expected of the buffer -/

/-- The key under which a datagram goes through the buffer. -/
def key? (d : IPv6Datagram α β) : Option FragKey6 := (findFragmentHeader d).map (key d)

/-- The fragments that have arrived since the datagram was last complete, after one more arrival. -/
def arrive [DecidableEq α] [DecidableEq β] (frags seen : List (IPv6Datagram α β))
    (arrival : IPv6Datagram α β × ℤ) : List (IPv6Datagram α β) :=
  if arrival.1 ∈ frags then see frags seen arrival.1 else seen

/-- A fragment of `frags`, or a datagram that uses another buffer. -/
def Admissible (frags : List (IPv6Datagram α β)) (arrival : IPv6Datagram α β × ℤ) : Prop :=
  arrival.1 ∈ frags ∨ ∀ y ∈ frags, key? arrival.1 ≠ key? y

/-- The returned datagram has the length, the extension headers and the packet of `d`. -/
def Restores (d out : IPv6Datagram α β) : Prop :=
  out.byteLength = d.byteLength ∧ out.extensionHeaders = d.extensionHeaders ∧
    out.encapsulatedPacket = d.encapsulatedPacket

/-- The fragments arrive in any order, with duplicates and among other datagrams: nothing is
returned before the last missing fragment, and then one datagram that restores `d`. -/
def Reassembles [DecidableEq α] [DecidableEq β] (d : IPv6Datagram α β)
    (frags : List (IPv6Datagram α β)) : Prop :=
  ∀ arrivals fb, Trace.Run receive (fun _ x => Admissible frags x) empty arrivals fb →
    ∀ x ∈ frags, ∀ now, ∃ r fb', fb.defragment x now = .ok (r, fb') ∧
      if frags ⊆ x :: arrivals.foldl (arrive frags) [] then ∃ out, r.returned = some out ∧
        Restores d out
      else r.returned = none

/-- How the fragments of a datagram come about: `fragmentAndSend` has cut it, or it arrives as one
single fragment. -/
inductive Origin
  | cut (ie : OutInterface) (curFragmentId : UInt32)
  | single (identification : UInt32)

section

variable (d : IPv6Datagram α β)

/-- The fragments. -/
def Origin.fragments : Origin → Except IPv6Fault (List (IPv6Datagram α β))
  | cut ie curFragmentId => do
    let (effects, _) ← fragmentAndSend ie curFragmentId d true
    pure (effects.filterMap SendEffect.sent)
  | single identification => do
    let extensionHeaders ←
      addExtensionHeader d.extensionHeaders (.fragment ⟨identification, 0, false⟩)
    pure [{ d with extensionHeaders, byteLength := d.byteLength + ipv6FragmentHeaderLength }]

/-- The interface of a datagram that is cut has room for fragments. -/
def Origin.Legal : Origin → Prop
  | cut ie _ => Link d ie
  | single _ => True

/-- The datagram leaves in fragments that are reassembled. -/
def Inverse [DecidableEq α] [DecidableEq β] (d : IPv6Datagram α β) (o : Origin) : Prop :=
  ∃ frags, o.fragments d = .ok frags ∧ frags ≠ [] ∧ Reassembles d frags

/-- The datagram has been cut, and sender and receiver count the same octets. -/
def Origin.Agrees : Origin → Prop
  | cut _ _ => straddling d.extensionHeaders = []
  | single _ => False

end

/-! ### One fragment -/

/-- The length of the headers that only the sender counts. -/
def gap (d : IPv6Datagram α β) : ℕ := totalLength (straddling d.extensionHeaders)

/-- The region that `addFragment` hands to the reassembly buffer for the octets `[c.1, c.2)`. -/
def region (d : IPv6Datagram α β) (c : ℕ × ℕ) : Region :=
  ⟨c.1, (((c.2 : ℤ) - gap d) % 2 ^ 16).toNat, decide (c.2 = d.fragmentableLength)⟩

/-- The key of the pieces. -/
def pieceKey (d : IPv6Datagram α β) (id : UInt32) : FragKey6 := ⟨id, d.srcAddress, d.destAddress⟩

section Piece

variable {d : IPv6Datagram α β} {id : UInt32} {T : ℕ} {c : ℕ × ℕ} {fb : IPv6FragBuf α β} {now : ℤ}

theorem beforeFragment_subset {hs : List (IPv6ExtensionHeader β)} : beforeFragment hs ⊆ hs :=
  (List.takeWhile_prefix _).subset

/-- A list without a Fragment header does not decide what comes after it. -/
theorem fragmentLengthFrom_append {pre : List (IPv6ExtensionHeader β)}
    (hpre : ∀ x ∈ pre, x.isFragment = false) (len : ℤ) (hs : List (IPv6ExtensionHeader β)) :
    fragmentLengthFrom len (pre ++ hs) = fragmentLengthFrom (len - totalLength pre) hs := by
  induction pre generalizing len with
  | nil => simp [totalLength]
  | cons x pre ih =>
    have hx := hpre x mem_cons_self
    rw [cons_append, fragmentLengthFrom, hx, if_neg Bool.false_ne_true,
      ih fun y hy => hpre y (mem_cons_of_mem _ hy)]
    congr 1
    simp only [totalLength, map_cons, sum_cons]
    omega

/-- The receiver does not count the headers before the Fragment header. -/
theorem calculateFragmentLength_piece (h : d.Legal) (hc : c.1 ≤ c.2) :
    (d.piece id T c).calculateFragmentLength = .ok ((c.2 : ℤ) - c.1 - gap d) := by
  have hpre : ∀ x ∈ beforeFragment d.extensionHeaders, x.isFragment = false :=
    fun x hx => h.isFragment x (beforeFragment_subset hx)
  have hsum : totalLength (beforeFragment d.extensionHeaders) =
      totalLength (unfragmentable d.extensionHeaders) + gap d := by
    rw [h.ordered.beforeFragment_eq]
    simp [totalLength, gap]
  unfold calculateFragmentLength
  simp only [piece, withFragment]
  rw [fragmentLengthFrom_append hpre, fragmentLengthFrom, hsum]
  simp only [isFragment, if_true, Except.ok.injEq, calculateUnfragmentableHeaderByteLength,
    IPv6ExtensionHeader.byteLength]
  omega

theorem findFragmentHeader_piece (h : d.Legal) :
    findFragmentHeader (d.piece id T c) = some ⟨id, c.1, decide (c.2 ≠ T)⟩ := by
  have hpre : (beforeFragment d.extensionHeaders).findSome? (fun
      | .fragment fh => some fh
      | .general .. => none) = none := by
    rw [List.findSome?_eq_none_iff]
    intro x hx
    have := h.isFragment x (beforeFragment_subset hx)
    cases x with
    | fragment fh => cases this
    | general type byteLength content => rfl
  unfold findFragmentHeader
  simp only [piece, withFragment]
  rw [List.findSome?_append, hpre]
  rfl

theorem removeFragment_withFragment (h : d.Legal) (fh : IPv6FragmentHeader) :
    removeFragment (withFragment d.extensionHeaders fh) = d.extensionHeaders := by
  have hpre : ∀ x ∈ beforeFragment d.extensionHeaders, ¬ x.isFragment = true := by
    intro x hx
    simp [h.isFragment x (beforeFragment_subset hx)]
  rw [removeFragment, withFragment, eraseP_append_right _ hpre, eraseP_cons_of_pos rfl]
  exact prefix_iff_eq_append.1 (List.takeWhile_prefix _)

theorem totalLength_unfragmentable_le (hs : List (IPv6ExtensionHeader β)) :
    totalLength (unfragmentable hs) ≤ totalLength hs := by
  obtain ⟨post, hpost⟩ := rdropWhile_prefix (p := fun h => !h.isRoutingOrHop) (l := hs)
  conv_rhs => rw [← hpost]
  simp [totalLength, unfragmentable]

theorem reassembled_byteLength (h : d.Legal) (totalLength : ℕ) :
    (reassembled (d.piece id T c) totalLength).byteLength =
      d.calculateUnfragmentableHeaderByteLength + totalLength := by
  simp only [reassembled, piece, calculateUnfragmentableHeaderByteLength,
    removeFragment_withFragment h]

theorem calculateUnfragmentableHeaderByteLength_le (h : d.Legal) :
    d.calculateUnfragmentableHeaderByteLength ≤ d.byteLength := by
  have hle := h.header_le
  have hsub := totalLength_unfragmentable_le d.extensionHeaders
  unfold calculateHeaderByteLength at hle
  unfold calculateUnfragmentableHeaderByteLength
  omega

/-- What is handed out when the first piece has been kept. -/
theorem restores_reassembled (h : d.Legal) (hc : c.1 = 0) :
    Restores d (reassembled (d.piece id T c) d.fragmentableLength) := by
  have hle := calculateUnfragmentableHeaderByteLength_le h
  refine ⟨?_, removeFragment_withFragment h _, if_pos hc⟩
  rw [reassembled_byteLength h, fragmentableLength]
  omega

/-- A piece goes through the buffer. -/
theorem defragment_piece (h : d.Legal) (hc : c.1 ≤ c.2) (hle : c.2 ≤ d.fragmentableLength) :
    fb.defragment (d.piece id d.fragmentableLength c) now =
      if c.2 ≠ d.fragmentableLength ∧ ((c.2 : ℤ) - c.1 - gap d) % 8 ≠ 0 then
        .ok (.rejected .parameterProblem,
          fb.set (pieceKey d id) (some (fb.find (pieceKey d id) now)))
      else fb.addRegion (pieceKey d id) (d.piece id d.fragmentableLength c) (region d c) now := by
  have hpast : (c.1 : ℤ) + (c.2 - c.1 - gap d) = c.2 - gap d := by omega
  have hbig : ¬ ((c.2 : ℤ) - gap d > 65535) := by
    have := h.fragmentable_le
    omega
  unfold defragment
  rw [findFragmentHeader_piece h]
  dsimp only
  unfold addFragment
  rw [calculateFragmentLength_piece h hc, Except.ok_bind]
  dsimp only
  rw [hpast, if_neg hbig]
  simp only [decide_not, Bool.not_not, Bool.not_eq_true', decide_eq_false_iff_not]
  rfl

end Piece

end IPv6FragBuf

end Hiwis
