import Hiwis.Base.ReassemblyBuffer
import Hiwis.Ipv4.IPv4Datagram

/-!
# Reassembly of IPv4 datagrams

`IPv4FragBuf` keeps a reassembly buffer and one of the fragments for each datagram that is not
complete yet.

* `IPv4FragBuf.reassemble_eq` : a datagram that has travelled along a chain of hops is handed up when
  the last of its fragments arrives, and not before, whatever the order of the arrivals.
-/

namespace Hiwis

open List ReassemblyBuffer Trace

open IPv4Datagram

/-- `IPv4FragBuf::Key`. -/
structure FragKey where
  id : ℕ
  src : IPv4Address
  dest : IPv4Address
  deriving DecidableEq

/-- `IPv4FragBuf::DatagramBuffer`. -/
structure DatagramBuffer (α : Type) where
  buf : ReassemblyBuffer
  datagram : Option (IPv4Datagram α)
  lastupdate : ℤ

/-- `IPv4FragBuf`: the map from keys to buffers. -/
structure IPv4FragBuf (α : Type) where
  bufs : FragKey → Option (DatagramBuffer α)

namespace IPv4FragBuf

variable {α : Type}

/-- No buffers. -/
def empty : IPv4FragBuf α := ⟨fun _ => none⟩

/-- The key of a datagram; its identification is stored in 16 bits. -/
def key (d : IPv4Datagram α) : FragKey := ⟨d.identification % 2 ^ 16, d.srcAddress, d.destAddress⟩

/-- The buffer after `bufs[key]` has been assigned or erased. -/
def set (fb : IPv4FragBuf α) (k : FragKey) (b : Option (DatagramBuffer α)) : IPv4FragBuf α :=
  ⟨fun k' => if k' = k then b else fb.bufs k'⟩

@[simp] theorem set_bufs (fb : IPv4FragBuf α) (k : FragKey) (b : Option (DatagramBuffer α)) :
    (fb.set k b).bufs k = b := if_pos rfl

theorem set_bufs_of_ne (fb : IPv4FragBuf α) {k k' : FragKey} (b : Option (DatagramBuffer α))
    (h : k' ≠ k) : (fb.set k b).bufs k' = fb.bufs k' := if_neg h

/-- The datagram that `addFragment` keeps: the first one that has an encapsulated packet. -/
def keep (old : Option (IPv4Datagram α)) (datagram : IPv4Datagram α) : IPv4Datagram α :=
  match old with
  | none => datagram
  | some old =>
    if old.encapsulatedPacket.isNone && datagram.encapsulatedPacket.isSome then datagram else old

/-- `addFragment`.  The offsets of the reassembly buffer have 16 bits. -/
def addFragment (fb : IPv4FragBuf α) (datagram : IPv4Datagram α) (now : ℤ) :
    Except IPv4Fault (Option (IPv4Datagram α) × IPv4FragBuf α) :=
  let k := key datagram
  let i := fb.bufs k
  let buf := i.getD ⟨ReassemblyBuffer.empty, none, 0⟩
  let bytes := datagram.byteLength - datagram.headerLength
  let (isComplete, rb) := buf.buf.addFragment (datagram.fragmentOffset % 2 ^ 16)
    ((datagram.fragmentOffset + bytes) % 2 ^ 16) (!datagram.moreFragments)
  let kept := keep buf.datagram datagram
  if isComplete then
    if i.isNone then .error .eraseEnd
    else
      let ret := { kept with
        byteLength := kept.headerLength + rb.getTotalLength
        fragmentOffset := 0
        moreFragments := false }
      .ok (some ret, fb.set k none)
  else .ok (none, fb.set k (some ⟨rb, some kept, now⟩))

/-- The reassembly part of `IPv4::reassembleAndDeliver`: a datagram that is not a fragment does not
go through the buffer. -/
def reassemble (fb : IPv4FragBuf α) (datagram : IPv4Datagram α) (now : ℤ) :
    Except IPv4Fault (Option (IPv4Datagram α) × IPv4FragBuf α) :=
  if datagram.fragmentOffset ≠ 0 ∨ datagram.moreFragments then fb.addFragment datagram now
  else .ok (some datagram, fb)

/-- The buffer after an arrival. -/
def receive (fb : IPv4FragBuf α) (arrival : IPv4Datagram α × ℤ) :
    Except IPv4Fault (IPv4FragBuf α) := do
  let (_, fb) ← fb.reassemble arrival.1 arrival.2
  pure fb

/-! ### The fragments of one datagram -/

/-- The fragments that have arrived since the datagram was last complete, after one more arrival. -/
def see [DecidableEq α] (frags seen : List (IPv4Datagram α)) (arrival : IPv4Datagram α × ℤ) :
    List (IPv4Datagram α) :=
  if arrival.1 ∈ frags then
    if frags ⊆ arrival.1 :: seen then [] else arrival.1 :: seen
  else seen

/-- The region that `addFragment` hands to the reassembly buffer. -/
def offsets (d : IPv4Datagram α) : Region :=
  ⟨d.fragmentOffset, d.fragmentOffset + d.payloadLength, !d.moreFragments⟩

/-- The regions of a list of fragments. -/
def regions (l : List (IPv4Datagram α)) : Set Region := {r | ∃ x ∈ l, offsets x = r}

theorem regions_cons (x : IPv4Datagram α) (l : List (IPv4Datagram α)) :
    regions (x :: l) = insert (offsets x) (regions l) := by
  ext r
  simp [regions, eq_comm]

section Pieces

variable {d : IPv4Datagram α} {T : ℕ} {L : List (ℕ × ℕ)} {c : ℕ × ℕ}

theorem offsets_piece (hL : Consecutive 0 L T) (hc : c ∈ L) :
    offsets (d.piece T c) = ⟨c.1, c.2, decide (c.2 = T)⟩ := by
  have := hL.bounds hc
  unfold offsets
  rw [piece_payloadLength]
  simp only [piece, Region.mk.injEq, true_and]
  refine ⟨by omega, ?_⟩
  simp

/-- The regions of the pieces of a datagram are a cutting. -/
theorem cutting_regions (hT : 0 < T) (hL : Consecutive 0 L T) :
    Cutting T (regions (L.map (d.piece T))) := by
  have hmem : ∀ r ∈ regions (L.map (d.piece T)), ∃ c ∈ L, r = ⟨c.1, c.2, decide (c.2 = T)⟩ := by
    rintro r ⟨x, hx, rfl⟩
    obtain ⟨c, hc, rfl⟩ := mem_map.1 hx
    exact ⟨c, hc, offsets_piece hL hc⟩
  refine ⟨hT, ?_, ?_, ?_, ?_, ?_⟩
  · intro r hr
    obtain ⟨c, hc, rfl⟩ := hmem r hr
    exact (hL.bounds hc).2.1
  · intro r hr
    obtain ⟨c, hc, rfl⟩ := hmem r hr
    exact (hL.bounds hc).2.2
  · intro r hr
    obtain ⟨c, hc, rfl⟩ := hmem r hr
    exact decide_eq_true_iff
  · intro r hr r' hr'
    obtain ⟨c, hc, rfl⟩ := hmem r hr
    obtain ⟨c', hc', rfl⟩ := hmem r' hr'
    rcases hL.disjoint hc hc' with rfl | h | h
    · exact .inl rfl
    · exact .inr (.inl h)
    · exact .inr (.inr h)
  · intro k hk
    obtain ⟨c, hc, hck⟩ := hL.cover (Nat.zero_le k) hk
    exact ⟨_, ⟨_, mem_map_of_mem hc, offsets_piece (d := d) hL hc⟩, hck⟩

theorem piece_inj (hL : Consecutive 0 L T) {c c' : ℕ × ℕ} (hc : c ∈ L) (hc' : c' ∈ L)
    (h : offsets (d.piece T c) = offsets (d.piece T c')) : c = c' := by
  rw [offsets_piece hL hc, offsets_piece hL hc', Region.mk.injEq] at h
  exact Prod.ext h.1 h.2.1

variable {seen : List (IPv4Datagram α)}

/-- The regions tell which fragments have arrived. -/
theorem regions_subset_iff (hL : Consecutive 0 L T) (hseen : seen ⊆ L.map (d.piece T)) :
    regions (L.map (d.piece T)) ⊆ regions seen ↔ L.map (d.piece T) ⊆ seen := by
  constructor
  · intro h x hx
    obtain ⟨c, hc, rfl⟩ := mem_map.1 hx
    obtain ⟨y, hy, heq⟩ := h ⟨_, hx, rfl⟩
    obtain ⟨c', hc', rfl⟩ := mem_map.1 (hseen hy)
    rwa [piece_inj hL hc hc' heq.symm]
  · rintro h r ⟨x, hx, rfl⟩
    exact ⟨x, h hx, rfl⟩

/-- The datagram that is kept is one of the pieces. -/
theorem keep_piece (hc : c ∈ L) {old : Option (IPv4Datagram α)}
    (hold : ∀ x ∈ old, ∃ c ∈ L, x = d.piece T c) :
    ∃ c' ∈ L, keep old (d.piece T c) = d.piece T c' := by
  unfold keep
  cases old with
  | none => exact ⟨c, hc, rfl⟩
  | some x =>
    obtain ⟨c', hc', rfl⟩ := hold x rfl
    refine ⟨c', hc', ?_⟩
    dsimp only
    rw [if_neg]
    -- both carry the same packet
    simp [piece]

/-- The buffer, when the fragments in `seen` have arrived since the datagram was last complete. -/
structure Tracks (d : IPv4Datagram α) (T : ℕ) (L : List (ℕ × ℕ)) (fb : IPv4FragBuf α)
    (seen : List (IPv4Datagram α)) : Prop where
  sub : seen ⊆ L.map (d.piece T)
  bufs_eq_none : seen = [] → fb.bufs (key d) = none
  rep : seen ≠ [] → ∃ b, fb.bufs (key d) = some b ∧
    Rep T (regions (L.map (d.piece T))) (regions seen) b.buf ∧
    ∀ x ∈ b.datagram, ∃ c ∈ L, x = d.piece T c

variable {fb : IPv4FragBuf α}

/-- What the buffer of the datagram contains before a fragment is added. -/
theorem Tracks.getD (hT : 0 < T) (hL : Consecutive 0 L T) (h : Tracks d T L fb seen) :
    Rep T (regions (L.map (d.piece T))) (regions seen)
      ((fb.bufs (key d)).getD ⟨ReassemblyBuffer.empty, none, 0⟩).buf ∧
    ∀ x ∈ ((fb.bufs (key d)).getD ⟨ReassemblyBuffer.empty, none, 0⟩).datagram,
      ∃ c ∈ L, x = d.piece T c := by
  by_cases hseen : seen = []
  · subst hseen
    rw [h.bufs_eq_none rfl]
    have hempty : regions ([] : List (IPv4Datagram α)) = ∅ := by
      ext r
      simp [regions]
    rw [hempty]
    exact ⟨.empty (cutting_regions hT hL), by simp⟩
  · obtain ⟨b, hb, hrep, hold⟩ := h.rep hseen
    rw [hb]
    exact ⟨hrep, hold⟩

/-- Adding a fragment of a datagram that has been cut. -/
theorem Tracks.addFragment [DecidableEq α] (hT : 0 < T) (hT' : T < 2 ^ 16) (hL : Consecutive 0 L T)
    (hcut : L ≠ [(0, T)]) (h : Tracks d T L fb seen) (hc : c ∈ L) (now : ℤ) :
    ∃ fb', fb.addFragment (d.piece T c) now = .ok
        (if L.map (d.piece T) ⊆ d.piece T c :: seen then some (d.piece T (0, T)) else none, fb') ∧
      Tracks d T L fb' (see (L.map (d.piece T)) seen (d.piece T c, now)) := by
  have hbounds := hL.bounds hc
  have hcutting := cutting_regions (d := d) hT hL
  obtain ⟨hrep, hold⟩ := h.getD hT hL
  have hxmem : d.piece T c ∈ L.map (d.piece T) := mem_map_of_mem hc
  have hsub : d.piece T c :: seen ⊆ L.map (d.piece T) := cons_subset.2 ⟨hxmem, h.sub⟩
  obtain ⟨hrep', hcomplete⟩ := hrep.addFragment hcutting (p := offsets (d.piece T c)) ⟨_, hxmem, rfl⟩
  rw [← regions_cons] at hrep' hcomplete
  rw [regions_subset_iff hL hsub] at hcomplete
  obtain ⟨c', hc', hkeep⟩ := keep_piece (d := d) (T := T) hc hold
  have hk : key (d.piece T c) = key d := rfl
  have hbeg : (d.piece T c).fragmentOffset % 2 ^ 16 = (offsets (d.piece T c)).beg :=
    Nat.mod_eq_of_lt (by change c.1 < 2 ^ 16; omega)
  have hpast : ((d.piece T c).fragmentOffset + ((d.piece T c).byteLength -
      (d.piece T c).headerLength)) % 2 ^ 16 = (offsets (d.piece T c)).past := by
    refine Nat.mod_eq_of_lt ?_
    change c.1 + (d.headerLength + (c.2 - c.1) - d.headerLength) < 2 ^ 16
    omega
  unfold IPv4FragBuf.addFragment see
  simp only [hk, hbeg, hpast, hkeep, if_pos hxmem]
  rw [show (!(d.piece T c).moreFragments) = (offsets (d.piece T c)).islast from rfl]
  by_cases hall : L.map (d.piece T) ⊆ d.piece T c :: seen
  · rw [if_pos (hcomplete.2 hall), if_pos hall, if_pos hall]
    -- a datagram that is cut is not complete with its first fragment
    have hne : seen ≠ [] := by
      rintro rfl
      refine hcut (hL.eq_single_of_forall hT (p := c) fun q hq => ?_)
      have hq' := hall (mem_map_of_mem hq)
      rw [mem_singleton] at hq'
      exact piece_inj hL hq hc (congrArg offsets hq')
    obtain ⟨b, hb, -⟩ := h.rep hne
    have hnone : (fb.bufs (key d)).isNone = false := by
      rw [hb]
      rfl
    have htotal := hrep'.getTotalLength_eq hcutting
      ((regions_subset_iff hL hsub).2 hall)
    rw [hnone, if_neg Bool.false_ne_true]
    refine ⟨_, ?_, nil_subset _, fun _ => set_bufs fb (key d) none, by simp⟩
    rw [Except.ok.injEq, Prod.mk.injEq, Option.some.injEq]
    refine ⟨?_, rfl⟩
    rw [show (ReassemblyBuffer.addFragment _ _ _ _).2.getTotalLength = T from htotal]
    simp [piece]
  · rw [if_neg (mt hcomplete.1 hall), if_neg hall, if_neg hall]
    refine ⟨_, rfl, hsub, by simp, fun _ => ⟨_, set_bufs _ _ _, hrep', ?_⟩⟩
    rintro x hx
    exact ⟨c', hc', (Option.mem_some_iff.1 hx).symm⟩

variable {x : IPv4Datagram α × ℤ}

/-- A datagram of another key leaves the buffer as it is. -/
theorem bufs_of_receive {fb fb' : IPv4FragBuf α} (hx : key x.1 ≠ key d)
    (hs : fb.receive x = .ok fb') : fb'.bufs (key d) = fb.bufs (key d) := by
  unfold receive at hs
  rw [Except.bind_eq_ok] at hs
  obtain ⟨⟨out, fb''⟩, hre, hfb⟩ := hs
  cases hfb
  unfold reassemble at hre
  split_ifs at hre
  · unfold IPv4FragBuf.addFragment at hre
    dsimp only at hre
    split_ifs at hre <;> cases hre <;> exact set_bufs_of_ne _ _ hx.symm
  · cases hre
    rfl

/-- A fragment of a datagram that has been cut goes through the buffer. -/
theorem Tracks.reassemble [DecidableEq α] (hT : 0 < T) (hT' : T < 2 ^ 16) (hL : Consecutive 0 L T)
    (hcut : L ≠ [(0, T)]) (h : Tracks d T L fb seen) {x : IPv4Datagram α}
    (hx : x ∈ L.map (d.piece T)) (now : ℤ) :
    ∃ fb', fb.reassemble x now = .ok
        (if L.map (d.piece T) ⊆ x :: seen then some (d.piece T (0, T)) else none, fb') ∧
      Tracks d T L fb' (see (L.map (d.piece T)) seen (x, now)) := by
  obtain ⟨c, hc, rfl⟩ := mem_map.1 hx
  have hfrag : (d.piece T c).fragmentOffset ≠ 0 ∨ (d.piece T c).moreFragments = true := by
    by_contra hno
    rw [not_or, not_not] at hno
    obtain ⟨hbeg, hmore⟩ := hno
    have hend : c.2 = T := by simpa [piece] using hmore
    refine hcut (hL.eq_single ?_)
    rwa [show (0, T) = c from Prod.ext hbeg.symm hend.symm]
  rw [IPv4FragBuf.reassemble, if_pos hfrag]
  exact h.addFragment hT hT' hL hcut hc now

theorem Tracks.receive [DecidableEq α] {fb fb' : IPv4FragBuf α} (hT : 0 < T) (hT' : T < 2 ^ 16)
    (hL : Consecutive 0 L T) (hcut : L ≠ [(0, T)]) (h : Tracks d T L fb seen)
    (hx : x.1 ∈ L.map (d.piece T) ∨ key x.1 ≠ key d) (hs : fb.receive x = .ok fb') :
    Tracks d T L fb' (see (L.map (d.piece T)) seen x) := by
  by_cases hmem : x.1 ∈ L.map (d.piece T)
  · obtain ⟨fb'', hre, htracks⟩ := h.reassemble hT hT' hL hcut hmem x.2
    rw [IPv4FragBuf.receive, hre] at hs
    cases hs
    exact htracks
  · have hbufs := bufs_of_receive (hx.resolve_left hmem) hs
    rw [see, if_neg hmem]
    exact ⟨h.sub, by rw [hbufs]; exact h.bufs_eq_none, by rw [hbufs]; exact h.rep⟩

end Pieces

/-! ### Datagrams that travel -/

variable {d : IPv4Datagram α}

/-- A datagram that is not a fragment, may be fragmented and fits in 65535 octets. -/
structure Whole (d : IPv4Datagram α) : Prop where
  fragmentOffset : d.fragmentOffset = 0
  moreFragments : d.moreFragments = false
  dontFragment : d.dontFragment = false
  headerLength : d.headerLength ≤ d.byteLength
  byteLength : d.byteLength ≤ 65535
  timeToLive : 0 ≤ d.timeToLive

/-- The datagram that is handed up: the time to live has been counted down, and an unspecified
source address has been filled in. -/
def received (ies : List InterfaceEntry) (d : IPv4Datagram α) : IPv4Datagram α :=
  { d with
    srcAddress := ies.foldl (fun a ie => hopSrcAddress ie a) d.srcAddress
    timeToLive := d.timeToLive - ies.countP fun ie => !ie.loopback }

theorem hops_eq_received (ies : List InterfaceEntry) (d : IPv4Datagram α) :
    d.hops ies = received ies d := by
  induction ies generalizing d with
  | nil => simp [hops, received]
  | cons ie ies ih =>
    rw [hops_cons, ih]
    unfold received hop
    simp only [foldl_cons, countP_cons, IPv4Datagram.mk.injEq, true_and, and_true]
    cases ie.loopback
    · simp
      omega
    · simp

/-- The whole of a datagram is a piece of it. -/
theorem piece_whole (hoff : d.fragmentOffset = 0) (hmore : d.moreFragments = false)
    (hle : d.headerLength ≤ d.byteLength) : d.piece d.payloadLength (0, d.payloadLength) = d := by
  have hlen : d.headerLength + (d.payloadLength - 0) = d.byteLength := by
    unfold payloadLength
    omega
  unfold piece
  dsimp only
  rw [hlen]
  cases d
  simp_all

/-- The whole of the datagram that is handed up. -/
theorem Whole.piece_received (h : Whole d) (ies : List InterfaceEntry) :
    (received ies d).piece d.payloadLength (0, d.payloadLength) = received ies d :=
  piece_whole (d := received ies d) h.fragmentOffset h.moreFragments h.headerLength

/-- How a datagram arrives after a chain of hops: whole, or in consecutive pieces. -/
theorem Whole.sendAlong_eq (h : Whole d) {ies : List InterfaceEntry}
    (hies : ∀ ie ∈ ies, Link d.headerLength ie) :
    ∃ L, (L = [(0, d.payloadLength)] ∨ 0 < d.payloadLength ∧ Consecutive 0 L d.payloadLength) ∧
      sendAlong ies [d] = .ok (if (received ies d).timeToLive < 0 then []
        else L.map ((received ies d).piece d.payloadLength)) := by
  rcases Nat.eq_zero_or_pos d.payloadLength with hzero | hpos
  · refine ⟨[(0, d.payloadLength)], .inl rfl, ?_⟩
    have hle := h.headerLength
    have hempty := sendAlong_empty hies (by unfold payloadLength at hzero; omega) h.timeToLive
    rw [map_singleton, h.piece_received, ← hops_eq_received]
    exact hempty
  · obtain ⟨L, hL, hsend⟩ := sendAlong_piece hies h.dontFragment h.timeToLive
      (Consecutive.single hpos)
    rw [map_singleton, piece_whole h.fragmentOffset h.moreFragments h.headerLength,
      hops_eq_received] at hsend
    exact ⟨L, .inr ⟨hpos, hL⟩, hsend⟩

/-- A datagram that fits in 65535 octets and may be fragmented travels along a chain of hops and its
fragments arrive in any order, with duplicates and among other datagrams.  It is handed up whenever
the last missing fragment arrives, and not before; its header is the one that was sent but for the
time to live and a source address that was unspecified. -/
theorem reassemble_eq [DecidableEq α] (h : Whole d) {ies : List InterfaceEntry}
    (hies : ∀ ie ∈ ies, Link d.headerLength ie) :
    ∃ frags, sendAlong ies [d] = .ok frags ∧
      ((ies.countP fun ie => !ie.loopback) ≤ d.timeToLive → frags ≠ []) ∧
      ∀ arrivals fb, Run receive
          (fun _ x => x.1 ∈ frags ∨ key x.1 ≠ key (received ies d)) empty arrivals fb →
        ∀ x ∈ frags, ∀ now, ∃ fb', fb.reassemble x now =
          .ok (if frags ⊆ x :: arrivals.foldl (see frags) [] then some (received ies d) else none,
            fb') := by
  obtain ⟨L, hL, hsend⟩ := h.sendAlong_eq hies
  refine ⟨_, hsend, ?_, ?_⟩
  · intro httl
    have hnn : ¬ (received ies d).timeToLive < 0 := by
      simp only [received]
      omega
    rw [if_neg hnn, Ne, map_eq_nil_iff]
    rintro rfl
    rcases hL with hL | ⟨hpos, hL⟩
    · cases hL
    · obtain ⟨c, hc, -⟩ := hL.cover le_rfl hpos
      cases hc
  · intro arrivals fb hrun x hx now
    have hnn : ¬ (received ies d).timeToLive < 0 := by
      intro hneg
      rw [if_pos hneg] at hx
      cases hx
    rw [if_neg hnn] at hrun hx ⊢
    by_cases hone : L = [(0, d.payloadLength)]
    · -- the datagram has not been cut
      subst hone
      rw [map_singleton, h.piece_received] at hrun hx ⊢
      rw [mem_singleton] at hx
      subst hx
      refine ⟨fb, ?_⟩
      rw [IPv4FragBuf.reassemble, if_neg (by
        simp [received, h.fragmentOffset, h.moreFragments]), if_pos (by simp)]
    · obtain ⟨hpos, hcons⟩ := hL.resolve_left hone
      have hlt : d.payloadLength < 2 ^ 16 := by
        have := h.byteLength
        unfold payloadLength
        omega
      have htracks : Tracks (received ies d) d.payloadLength L fb
          (arrivals.foldl (see (L.map ((received ies d).piece d.payloadLength))) []) :=
        hrun.simulation (R := Tracks (received ies d) d.payloadLength L)
          (f := see (L.map ((received ies d).piece d.payloadLength)))
          (fun fb seen x fb' ht hP hs => ht.receive hpos hlt hcons hone hP hs)
          ⟨nil_subset _, fun _ => rfl, fun hne => absurd rfl hne⟩
      obtain ⟨fb', hre, -⟩ := htracks.reassemble hpos hlt hcons hone hx now
      exact ⟨fb', hre.trans (by rw [h.piece_received])⟩

/-- A datagram with 40 octets of payload. -/
def sample : IPv4Datagram ℕ :=
  { srcAddress := 1, destAddress := 2, timeToLive := 9, byteLength := 60,
    encapsulatedPacket := some 7 }

/-- It is cut into fragments of 24 octets, and these into fragments of 16. -/
def sampleHops : List InterfaceEntry :=
  [⟨1, 44, false, some ⟨3, 0, 1⟩⟩, ⟨2, 36, false, some ⟨4, 0, 1⟩⟩]

theorem sample_whole : Whole sample := by constructor <;> decide

theorem sample_link : ∀ ie ∈ sampleHops, Link sample.headerLength ie := by
  simp only [sampleHops, forall_mem_cons]
  refine ⟨⟨by decide, by decide⟩, ⟨by decide, by decide⟩, by simp⟩

/-- The fragments of the sample. -/
def sampleFrags : List (IPv4Datagram ℕ) :=
  [(0, 16), (16, 24), (24, 40)].map ((received sampleHops sample).piece 40)

theorem reassemble_eq_sample : ∃ (fb fb' : IPv4FragBuf ℕ),
    fb.reassemble ((received sampleHops sample).piece 40 (16, 24)) 3 =
      .ok (some { sample with timeToLive := 7 }, fb') := by
  obtain ⟨frags, hfrags, -, harrive⟩ := reassemble_eq sample_whole sample_link
  have heq : sendAlong sampleHops [sample] = .ok sampleFrags := by decide +kernel
  obtain rfl : sampleFrags = frags := Except.ok.inj (heq.symm.trans hfrags)
  obtain ⟨fb, hrun, -⟩ : ∃ fb, Run receive
      (fun _ x => x.1 ∈ sampleFrags ∨ key x.1 ≠ key (received sampleHops sample)) empty
      [((received sampleHops sample).piece 40 (24, 40), 0),
        ((received sampleHops sample).piece 40 (0, 16), 1),
        ((received sampleHops sample).piece 40 (24, 40), 2)] fb ∧ () = () :=
    exists_run_of_exec (by decide +kernel)
  obtain ⟨fb', hfb'⟩ := harrive _ fb hrun ((received sampleHops sample).piece 40 (16, 24))
    (by decide +kernel) 3
  refine ⟨fb, fb', hfb'.trans ?_⟩
  rw [if_pos (by decide +kernel)]
  rfl

/-- The time to live of the datagram that is handed up is not the one of the datagram that was
sent. -/
theorem reassemble_ne_sample : sendAlong sampleHops [sample] = .ok sampleFrags ∧
    ∃ fb : IPv4FragBuf ℕ, Run receive (fun _ x => x.1 ∈ sampleFrags) empty
        [((received sampleHops sample).piece 40 (24, 40), 0),
          ((received sampleHops sample).piece 40 (0, 16), 1)] fb ∧
      (fb.reassemble ((received sampleHops sample).piece 40 (16, 24)) 2).toOption.map Prod.fst =
        some (some { sample with timeToLive := 7 }) ∧
      { sample with timeToLive := 7 } ≠ sample := by
  obtain ⟨fb, hrun, hout⟩ : ∃ fb, Run receive (fun _ x => x.1 ∈ sampleFrags) empty
        [((received sampleHops sample).piece 40 (24, 40), 0),
          ((received sampleHops sample).piece 40 (0, 16), 1)] fb ∧
      (fb.reassemble ((received sampleHops sample).piece 40 (16, 24)) 2).toOption.map Prod.fst =
        some (some { sample with timeToLive := 7 }) :=
    exists_run_of_exec (by decide +kernel)
  exact ⟨by decide +kernel, fb, hrun, hout, by decide⟩

end IPv4FragBuf

end Hiwis
