import Hiwis.Ipv6.Reassembly

/-!
# Headers between the unfragmentable part and the Fragment header

The sender counts the octets of such headers, the receiver does not.  Then there is an order of
arrival in which the datagram is not put together, or not with its length: the last fragment comes
first, then the first one, then all the others.

* `inverse_iff` : a datagram is reassembled in every order of arrival if and only if it has been cut
  and has no such headers.
-/

namespace Hiwis

namespace IPv6FragBuf

open IPv6Datagram IPv6ExtensionHeader ReassemblyBuffer

variable {α β : Type}

/-- The arrivals of the given pieces. -/
def arrivalsOf (d : IPv6Datagram α β) (id : UInt32) (cs : List (ℕ × ℕ)) :
    List (IPv6Datagram α β × ℤ) :=
  cs.map fun c => (d.piece id d.fragmentableLength c, 0)

/-- There is a buffer for the datagram, and it satisfies `Q`. -/
def Stuck (d : IPv6Datagram α β) (id : UInt32) (Q : ReassemblyBuffer → Prop)
    (fb : IPv6FragBuf α β) : Prop :=
  ∃ b, fb.bufs (pieceKey d id) = some b ∧ Q b.buf

/-- What the buffer needs to stay incomplete when a piece arrives. -/
def Harmless (d : IPv6Datagram α β) (l : ℕ) (Q : ReassemblyBuffer → Prop) (c : ℕ × ℕ) : Prop :=
  ((l : ℤ) - gap d) % 8 ≠ 0 ∨ ∀ b, Q b →
    (b.addFragment (region d c).beg (region d c).past (region d c).islast).1 = false ∧
    Q (b.addFragment (region d c).beg (region d c).past (region d c).islast).2

section Runs

variable {d : IPv6Datagram α β} {id : UInt32} {l : ℕ} {L cs : List (ℕ × ℕ)} {c : ℕ × ℕ}
  {fb fb' : IPv6FragBuf α β} {Q : ReassemblyBuffer → Prop}

section

variable (h : d.Legal) (hL : Cuts d.fragmentableLength l L)
include h hL

/-- A piece goes through the buffer: the key is that of the pieces. -/
theorem defragment_piece_eq_ok (hc : c ∈ L) {now : ℤ} {r : FragmentResult α β}
    (hre : fb.defragment (d.piece id d.fragmentableLength c) now = .ok (r, fb')) :
    r.returned = none ∨ fb'.bufs (pieceKey d id) = none := by
  have hbounds := hL.consecutive.bounds hc
  rw [defragment_piece h hbounds.2.1.le hbounds.2.2] at hre
  split_ifs at hre
  · cases hre
    exact .inl rfl
  · rcases addRegion_eq_ok hre with ⟨hnone, -⟩ | rfl
    · exact .inl hnone
    · exact .inr (set_bufs _ _ _)

/-- A fragment that is not the last one leaves the buffer as incomplete as it was. -/
theorem Stuck.receive (hc : c ∈ L) (hne : c.2 ≠ d.fragmentableLength) (hQ : Harmless d l Q c)
    (hs : Stuck d id Q fb) (hre : fb.receive (d.piece id d.fragmentableLength c, 0) = .ok fb') :
    Stuck d id Q fb' := by
  obtain ⟨b, hb, hQb⟩ := hs
  have hbounds := hL.consecutive.bounds hc
  have hlen : (c.2 : ℤ) - c.1 = l := by
    have := hL.snd_eq c hc
    omega
  have hfind : fb.find (pieceKey d id) 0 = b := by
    rw [find, hb]
    rfl
  rw [IPv6FragBuf.receive, Except.bind_eq_ok] at hre
  obtain ⟨⟨r, fb1⟩, hdef, hre⟩ := hre
  cases hre
  rw [defragment_piece h hbounds.2.1.le hbounds.2.2, hlen] at hdef
  split_ifs at hdef with hmod
  · -- the fragment is rejected
    cases hdef
    exact ⟨b, (set_bufs _ _ _).trans (congrArg some hfind), hQb⟩
  · obtain ⟨hfalse, hQ'⟩ := hQ.resolve_left (fun hm => hmod ⟨hne, hm⟩) b.buf hQb
    have hrb : (fb.find (pieceKey d id) 0).buf.addFragment (region d c).beg (region d c).past
        (region d c).islast = (false,
          (b.buf.addFragment (region d c).beg (region d c).past (region d c).islast).2) := by
      rw [hfind, ← hfalse]
    rw [addRegion_of_incomplete hrb] at hdef
    cases hdef
    exact ⟨_, set_bufs _ _ _, hQ'⟩

theorem Stuck.run (hcs : ∀ c ∈ cs, c ∈ L ∧ c.2 ≠ d.fragmentableLength ∧ Harmless d l Q c)
    {P : IPv6FragBuf α β → IPv6Datagram α β × ℤ → Prop} (hs : Stuck d id Q fb)
    (hrun : Trace.Run IPv6FragBuf.receive P fb (arrivalsOf d id cs) fb') : Stuck d id Q fb' := by
  induction cs generalizing fb with
  | nil =>
    cases hrun
    exact hs
  | cons c cs ih =>
    obtain ⟨hc, hne, hQ⟩ := hcs c List.mem_cons_self
    rcases hrun with _ | ⟨-, hre, hrun⟩
    exact ih (fun c' hc' => hcs c' (List.mem_cons_of_mem _ hc')) (hs.receive h hL hc hne hQ hre)
      hrun

end

theorem Stuck.bufs_ne_none (hs : Stuck d id Q fb) : fb.bufs (pieceKey d id) ≠ none := by
  obtain ⟨b, hb, -⟩ := hs
  rw [hb]
  exact Option.some_ne_none b

variable [DecidableEq α] [DecidableEq β]

/-- The fragments of a datagram that is reassembled go through the buffer in every order. -/
theorem Reassembles.exists_run (hr : Reassembles d (pieces d id L)) (hcs : cs ⊆ L) :
    ∃ fb, Trace.Run receive (fun _ x => Admissible (pieces d id L) x) empty
      (arrivalsOf d id cs) fb := by
  induction cs using List.reverseRecOn with
  | nil => exact ⟨empty, .nil _⟩
  | append_singleton cs c ih =>
    obtain ⟨hcs, hc⟩ := List.append_subset.1 hcs
    obtain ⟨fb, hrun⟩ := ih hcs
    have hmem : d.piece id d.fragmentableLength c ∈ pieces d id L :=
      List.mem_map_of_mem (hc List.mem_cons_self)
    obtain ⟨r, fb', hre, -⟩ := hr _ fb hrun _ hmem 0
    refine ⟨fb', ?_⟩
    rw [arrivalsOf, List.map_append]
    refine hrun.append (.cons (.inl hmem) ?_ (.nil _))
    rw [receive, hre]
    rfl

theorem foldl_arrive (hcs : cs ⊆ L) (seen : List (IPv6Datagram α β)) :
    (arrivalsOf d id cs).foldl (arrive (pieces d id L)) seen =
      (pieces d id cs).foldl (see (pieces d id L)) seen := by
  induction cs generalizing seen with
  | nil => rfl
  | cons c cs ih =>
    obtain ⟨hc, hcs⟩ := List.cons_subset.1 hcs
    have hmem : d.piece id d.fragmentableLength c ∈ pieces d id L := List.mem_map_of_mem hc
    have hsee : arrive (pieces d id L) seen (d.piece id d.fragmentableLength c, 0) =
        see (pieces d id L) seen (d.piece id d.fragmentableLength c) := if_pos hmem
    rw [arrivalsOf, List.map_cons, List.foldl_cons, hsee, ← arrivalsOf, ih hcs]
    rfl

/-- All fragments arrive once, in the given order: then there is no buffer any more. -/
theorem Reassembles.exists_run_perm (h : d.Legal) (hL : Cuts d.fragmentableLength l L)
    (hr : Reassembles d (pieces d id L)) (hcs : cs.Perm L) :
    ∃ fb, Trace.Run receive (fun _ x => Admissible (pieces d id L) x) empty
      (arrivalsOf d id cs) fb ∧ fb.bufs (pieceKey d id) = none := by
  rcases List.eq_nil_or_concat' cs with rfl | ⟨ys, z, rfl⟩
  · exact absurd (hcs.mem_iff.2 hL.first_mem) List.not_mem_nil
  · obtain ⟨hys, hz⟩ := List.append_subset.1 hcs.subset
    have hzL : z ∈ L := hz List.mem_cons_self
    obtain ⟨fb, hrun⟩ := hr.exists_run hys
    have hmem : d.piece id d.fragmentableLength z ∈ pieces d id L := List.mem_map_of_mem hzL
    obtain ⟨r, fb', hre, hif⟩ := hr _ fb hrun _ hmem 0
    -- `z` has not arrived yet, and it is the last one
    have hnot : d.piece id d.fragmentableLength z ∉ pieces d id ys := by
      intro hin
      obtain ⟨c, hc, heq⟩ := List.mem_map.1 hin
      obtain rfl := hL.inj (hys hc) hzL (piece_fst h heq)
      have hnodup := hcs.nodup_iff.2 hL.consecutive.nodup
      rw [List.nodup_append] at hnodup
      exact hnodup.2.2 c hc c List.mem_cons_self rfl
    rw [foldl_arrive hys, foldl_see hmem _ hnot List.not_mem_nil, List.append_nil, if_pos] at hif
    · obtain ⟨out, hout, -⟩ := hif
      refine ⟨fb', ?_, ?_⟩
      · rw [arrivalsOf, List.map_append]
        refine hrun.append (.cons (.inl hmem) ?_ (.nil _))
        rw [receive, hre]
        rfl
      · refine (defragment_piece_eq_ok h hL hzL hre).resolve_left ?_
        rw [hout]
        exact Option.some_ne_none out
    · intro x hx
      obtain ⟨c, hc, rfl⟩ := List.mem_map.1 hx
      rcases List.mem_append.1 (hcs.mem_iff.2 hc) with hc | hc
      · exact List.mem_cons_of_mem _ (List.mem_reverse.2 (List.mem_map_of_mem hc))
      · rw [List.mem_singleton] at hc
        rw [hc]
        exact List.mem_cons_self

end Runs

/-! ### The order of arrival that fails -/

section Order

variable {d : IPv6Datagram α β} {id : UInt32} {l : ℕ} {L : List (ℕ × ℕ)} {c : ℕ × ℕ} {o : ℕ}
  {fb fb' : IPv6FragBuf α β}

/-- The sender counts the straddling headers. -/
theorem gap_le (h : d.Legal) : gap d ≤ d.fragmentableLength := by
  have hle := h.header_le
  obtain ⟨post, hpost⟩ := List.takeWhile_prefix (l := d.extensionHeaders)
    fun h : IPv6ExtensionHeader β => decide (h.order ≤ 3)
  change beforeFragment d.extensionHeaders ++ post = d.extensionHeaders at hpost
  have htotal : totalLength d.extensionHeaders =
      totalLength (unfragmentable d.extensionHeaders) + gap d + totalLength post := by
    conv_lhs => rw [← hpost]
    rw [h.ordered.beforeFragment_eq]
    simp [totalLength, gap, Nat.add_assoc]
  unfold fragmentableLength calculateUnfragmentableHeaderByteLength
  unfold calculateHeaderByteLength at hle
  omega

/-- The last fragment arrives first. -/
theorem receive_last (h : d.Legal) (ho : 0 < o) (hoT : o < d.fragmentableLength)
    (hre : (empty : IPv6FragBuf α β).receive
      (d.piece id d.fragmentableLength (o, d.fragmentableLength), 0) = .ok fb) :
    fb.bufs (pieceKey d id) = some ⟨if d.fragmentableLength - gap d = 0 then ⟨⟨o, 0, false⟩, []⟩
      else ⟨⟨0, 0, false⟩, [⟨o, d.fragmentableLength - gap d, true⟩]⟩, none, 0⟩ := by
  have hle := h.fragmentable_le
  have hgap := gap_le h
  have hregion : region d (o, d.fragmentableLength) =
      ⟨o, d.fragmentableLength - gap d, true⟩ := by
    unfold region
    rw [Region.mk.injEq]
    exact ⟨rfl, by dsimp only; omega, decide_eq_true rfl⟩
  have hrb : ((empty : IPv6FragBuf α β).find (pieceKey d id) 0).buf.addFragment o
      (d.fragmentableLength - gap d) true = _ := addFragment_empty_last ho
  rw [IPv6FragBuf.receive, defragment_piece h hoT.le le_rfl, if_neg (by simp), hregion,
    addRegion_of_incomplete hrb, if_neg ho.ne'] at hre
  cases hre
  exact set_bufs _ _ _

/-- The first fragment arrives after the last one. -/
theorem defragment_first (h : d.Legal) (hL : Cuts d.fragmentableLength l L)
    (hmod : ((l : ℤ) - gap d) % 8 = 0) (hgap : gap d < d.fragmentableLength)
    (hfb : fb.bufs (pieceKey d id) = some ⟨⟨⟨0, 0, false⟩,
      [⟨o, d.fragmentableLength - gap d, true⟩]⟩, none, 0⟩) :
    fb.defragment (d.piece id d.fragmentableLength (0, l)) 0 =
      if (((l : ℤ) - gap d) % 2 ^ 16).toNat = o then
        .ok (.complete (reassembled (d.piece id d.fragmentableLength (0, l))
          (d.fragmentableLength - gap d)), fb.set (pieceKey d id) none)
      else .ok (.incomplete, fb.set (pieceKey d id) (some ⟨⟨
          ⟨0, (((l : ℤ) - gap d) % 2 ^ 16).toNat, false⟩,
          if d.fragmentableLength - gap d ≤ (((l : ℤ) - gap d) % 2 ^ 16).toNat then []
          else [⟨o, d.fragmentableLength - gap d, true⟩]⟩,
        some (d.piece id d.fragmentableLength (0, l)), 0⟩)) := by
  have hlt := hL.lt
  have hregion : region d (0, l) = ⟨0, (((l : ℤ) - gap d) % 2 ^ 16).toNat, false⟩ := by
    unfold region
    rw [Region.mk.injEq]
    exact ⟨rfl, rfl, decide_eq_false hlt.ne⟩
  have hfind : fb.find (pieceKey d id) 0 = ⟨⟨⟨0, 0, false⟩,
      [⟨o, d.fragmentableLength - gap d, true⟩]⟩, none, 0⟩ := by
    rw [find, hfb]
    rfl
  have hfirst := addFragment_first o (d.fragmentableLength - gap d)
    (((l : ℤ) - gap d) % 2 ^ 16).toNat (by omega)
  rw [defragment_piece h (Nat.zero_le _) hlt.le, if_neg (by dsimp only; omega), hregion]
  by_cases heq : (((l : ℤ) - gap d) % 2 ^ 16).toNat = o
  · rw [if_pos heq] at hfirst ⊢
    rw [addRegion_of_complete (by rw [hfind]; exact hfirst), hfb]
    rfl
  · rw [if_neg heq] at hfirst ⊢
    rw [addRegion_of_incomplete (by rw [hfind]; exact hfirst), hfind]
    rfl

variable [DecidableEq α] [DecidableEq β]

variable (h : d.Legal) (hL : Cuts d.fragmentableLength l L)
include h hL

/-- The last fragment comes first, and it is lost or all the others are rejected. -/
theorem not_reassembles_of_lost
    (hlost : ((l : ℤ) - gap d) % 8 ≠ 0 ∨ d.fragmentableLength - gap d = 0) :
    ¬ Reassembles d (pieces d id L) := by
  intro hr
  have hpos := hL.pos
  obtain ⟨o, ho, hlo, hoT⟩ := hL.last_mem
  obtain ⟨fb, hrun, hnone⟩ := hr.exists_run_perm h hL (List.perm_cons_erase ho).symm
  rcases hrun with _ | ⟨-, hre, hrun⟩
  have hfb := receive_last h (by omega) hoT hre
  refine (Stuck.run h hL (Q := fun b => ((l : ℤ) - gap d) % 8 ≠ 0 ∨ NoLast b.main b.fragments)
    ?_ ⟨_, hfb, ?_⟩ hrun).bufs_ne_none hnone
  · intro c hc
    obtain ⟨hcL, hend⟩ := hL.mem_erase_last ho hc
    refine ⟨hcL, hend, ?_⟩
    by_cases hmod : ((l : ℤ) - gap d) % 8 ≠ 0
    · exact .inl hmod
    · refine .inr fun b hQ => ?_
      have hlast : (region d c).islast = false := decide_eq_false hend
      have hadd := (hQ.resolve_left hmod).addFragment (region d c).beg (region d c).past
      rw [hlast]
      exact ⟨hadd.1, .inr hadd.2⟩
  · refine hlost.imp_right fun hzero => ?_
    rw [if_pos hzero]
    exact ⟨rfl, by simp⟩

/-- The last fragment comes first and the first one second: they touch each other, or the last one
is thrown away, or the first one is too short for the third. -/
theorem not_reassembles_of_short (hgap : 0 < gap d) (hmod : ((l : ℤ) - gap d) % 8 = 0)
    (hlast : d.fragmentableLength - gap d ≠ 0) : ¬ Reassembles d (pieces d id L) := by
  intro hr
  have hle := h.fragmentable_le
  have hlT := hL.lt
  have hpos := hL.pos
  obtain ⟨o, ho, hlo, hoT⟩ := hL.last_mem
  have ho0 : 0 < o := by omega
  have hfirst : (0, l) ∈ L.erase (o, d.fragmentableLength) :=
    hL.consecutive.nodup.mem_erase_iff.2 ⟨fun heq => ho0.ne (congrArg Prod.fst heq), hL.first_mem⟩
  have hperm := ((List.perm_cons_erase hfirst).symm.cons _).trans (List.perm_cons_erase ho).symm
  obtain ⟨fb, hrun, hnone⟩ := hr.exists_run_perm h hL hperm
  rcases hrun with _ | ⟨hP, hre, hrun⟩
  rcases hrun with _ | ⟨-, hre', hrun⟩
  have hfb := receive_last h ho0 hoT hre
  rw [if_neg hlast] at hfb
  have hdef := defragment_first h hL hmod (by omega) hfb
  by_cases hjoin : (((l : ℤ) - gap d) % 2 ^ 16).toNat = o
  · rw [if_pos hjoin] at hdef
    obtain ⟨r, fb', hre'', hif⟩ := hr [_] _ (.cons hP hre (.nil _)) _
      (List.mem_map_of_mem hL.first_mem) 0
    rw [hdef] at hre''
    cases hre''
    split_ifs at hif
    · -- the datagram does not have its length
      obtain ⟨out, hout, hlen, -⟩ := hif
      cases hout
      have hhead := calculateUnfragmentableHeaderByteLength_le h
      have hsplit : d.fragmentableLength =
        d.byteLength - d.calculateUnfragmentableHeaderByteLength := rfl
      rw [reassembled_byteLength h] at hlen
      omega
    · cases hif
  · rw [if_neg hjoin] at hdef
    rw [receive, hdef] at hre'
    cases hre'
    by_cases hsmall : gap d ≤ l
    · have hpast : (((l : ℤ) - gap d) % 2 ^ 16).toNat = l - gap d := by omega
      refine Stuck.bufs_ne_none (Stuck.run h hL (Q := fun b => b.main = ⟨0, l - gap d, false⟩)
        ?_ ⟨_, set_bufs _ _ _, by dsimp only; rw [hpast]⟩ hrun) hnone
      intro c hc
      obtain ⟨hcL, hend, hlc⟩ := hL.mem_erase_first ho hc
      have hbounds := hL.consecutive.bounds hcL
      refine ⟨hcL, hend, .inr fun b hQ => ?_⟩
      rw [addFragment_of_lt (by rw [hQ]; dsimp only [region]; omega)
        (by rw [hQ]; dsimp only [region]; omega)]
      exact ⟨by simp [hQ], hQ⟩
    · -- the offset of the end of the first fragment wraps, so it covers the last one
      have hcover : d.fragmentableLength - gap d ≤ (((l : ℤ) - gap d) % 2 ^ 16).toNat := by
        omega
      refine Stuck.bufs_ne_none (Stuck.run h hL (Q := fun b => NoLast b.main b.fragments)
        ?_ ⟨_, set_bufs _ _ _, by rw [if_pos hcover]; exact ⟨rfl, by simp⟩⟩ hrun) hnone
      intro c hc
      obtain ⟨hcL, hend, -⟩ := hL.mem_erase_first ho hc
      refine ⟨hcL, hend, .inr fun b hQ => ?_⟩
      have hlast : (region d c).islast = false := decide_eq_false hend
      rw [hlast]
      exact hQ.addFragment _ _

/-- A datagram with straddling headers is not reassembled in every order of arrival. -/
theorem not_reassembles_of_gap_pos (hgap : 0 < gap d) : ¬ Reassembles d (pieces d id L) := by
  by_cases hlost : ((l : ℤ) - gap d) % 8 ≠ 0 ∨ d.fragmentableLength - gap d = 0
  · exact not_reassembles_of_lost h hL hlost
  · rw [not_or, not_not] at hlost
    exact not_reassembles_of_short h hL hgap hlost.1 hlost.2

end Order

/-! ### Which datagrams are reassembled -/

section Inverse

variable {d : IPv6Datagram α β}

theorem gap_eq_zero_iff (h : d.Legal) : gap d = 0 ↔ straddling d.extensionHeaders = [] := by
  constructor
  · intro hgap
    rw [List.eq_nil_iff_forall_not_mem]
    intro x hx
    have hpos := h.byteLength_pos x (beforeFragment_subset (List.mem_of_mem_drop hx))
    rw [gap, totalLength, List.sum_eq_zero_iff_forall_eq_nat] at hgap
    exact hpos.ne' (hgap _ (List.mem_map_of_mem hx))
  · intro hnil
    rw [gap, hnil]
    rfl

variable [DecidableEq α] [DecidableEq β]

/-- The source address that is filled in is not among what is restored. -/
theorem reassembles_filled_iff (ie : OutInterface) {frags : List (IPv6Datagram α β)} :
    Reassembles (d.filled ie) frags ↔ Reassembles d frags := by
  have hres : ∀ out, Restores (d.filled ie) out ↔ Restores d out := by
    intro out
    unfold filled
    split_ifs <;> rfl
  simp only [Reassembles, hres]

/-- A datagram that arrives as one single fragment: a buffer is created and erased by one call. -/
theorem not_inverse_single (h : d.Legal) (id : UInt32) : ¬ Inverse d (.single id) := by
  rintro ⟨frags, hfrags, -, hr⟩
  have hhead := calculateUnfragmentableHeaderByteLength_le h
  have hpiece : Origin.fragments d (.single id) =
      .ok [d.piece id d.fragmentableLength (0, d.fragmentableLength)] := by
    have hlen : d.byteLength + ipv6FragmentHeaderLength =
        d.calculateUnfragmentableHeaderByteLength + ipv6FragmentHeaderLength +
          (d.fragmentableLength - 0) := by
      unfold fragmentableLength
      omega
    unfold Origin.fragments
    dsimp only
    rw [addExtensionHeader_fragment _ h.isFragment]
    simp [piece, withFragment, hlen]
  cases hpiece.symm.trans hfrags
  obtain ⟨r, fb', hre, -⟩ := hr [] empty (.nil _) _ List.mem_cons_self 0
  have hcomplete : ((empty : IPv6FragBuf α β).find (pieceKey d id) 0).buf.addFragment
      (region d (0, d.fragmentableLength)).beg (region d (0, d.fragmentableLength)).past
      (region d (0, d.fragmentableLength)).islast =
        (true, ⟨region d (0, d.fragmentableLength), []⟩) := by
    simp [region, find, empty, ReassemblyBuffer.empty, ReassemblyBuffer.addFragment, merge,
      mergeFragments, mergeLoop, mergePass]
  rw [defragment_piece h (Nat.zero_le _) le_rfl, if_neg (by simp),
    addRegion_of_complete hcomplete] at hre
  cases hre

/-- A datagram is reassembled in every order of arrival if and only if it has been cut, and no
header lies between its unfragmentable part and the Fragment header. -/
theorem inverse_iff (h : d.Legal) {o : Origin} (ho : o.Legal d) : Inverse d o ↔ o.Agrees d := by
  cases o with
  | single id => exact iff_of_false (not_inverse_single h id) not_false
  | cut ie id =>
    obtain ⟨l, L, hL, hsend⟩ := h.fragmentAndSend_eq ho id
    have hT : (d.filled ie).fragmentableLength = d.fragmentableLength := by
      unfold filled
      split_ifs <;> rfl
    have hgap : gap (d.filled ie) = gap d := by
      unfold filled
      split_ifs <;> rfl
    have hfrags : Origin.fragments d (.cut ie id) = .ok (pieces (d.filled ie) id L) := by
      unfold Origin.fragments
      dsimp only
      rw [hsend, pieces, hT]
      simp [List.filterMap_map, SendEffect.sent, Function.comp_def]
    have hne : pieces (d.filled ie) id L ≠ [] :=
      List.ne_nil_of_mem (List.mem_map_of_mem hL.first_mem)
    rw [← hT] at hL
    have hiff : Inverse d (.cut ie id) ↔ gap d = 0 := by
      constructor
      · rintro ⟨frags, hok, -, hr⟩
        cases hfrags.symm.trans hok
        by_contra hpos
        exact not_reassembles_of_gap_pos (h.filled ie) hL (by rw [hgap]; omega)
          ((reassembles_filled_iff ie).2 hr)
      · intro hzero
        exact ⟨_, hfrags, hne, (reassembles_filled_iff ie).1
          (reassembles_of_gap_eq (h.filled ie) hL (hgap.trans hzero))⟩
    exact hiff.trans (gap_eq_zero_iff h)

/-- A datagram with a Hop-by-Hop Options, a Routing and an Authentication header. -/
def sample : IPv6Datagram ℕ ℕ :=
  { srcAddress := 1, destAddress := 2, hopLimit := 9, byteLength := 104
    extensionHeaders := [.general .hop 8 0, .general .routing 8 0, .general .auth 8 0]
    encapsulatedPacket := some 7 }

/-- An interface over which it goes out in fragments of 16 octets. -/
def sampleInterface : OutInterface := ⟨80, 1, false⟩

theorem sample_legal : sample.Legal where
  headers := ⟨sample.extensionHeaders, by decide⟩
  isFragment := by decide
  byteLength_pos := by decide
  header_le := by decide
  fragmentable_le := by decide
  hopLimit := by decide

/-- The sample is reassembled when it has been cut, and not when it arrives as one fragment. -/
theorem inverse_iff_sample :
    Inverse sample (.cut sampleInterface 3) ∧ ¬ Inverse sample (.single 3) := by
  have hlink : Link sample sampleInterface := ⟨by decide, by decide, by decide⟩
  exact ⟨(inverse_iff sample_legal (o := .cut sampleInterface 3) hlink).2
    (show straddling sample.extensionHeaders = [] by decide),
    (inverse_iff sample_legal (o := .single 3) trivial).not.2 not_false⟩

/-- A datagram with a Destination Options header. -/
def destSample : IPv6Datagram ℕ ℕ :=
  { srcAddress := 1, destAddress := 2, hopLimit := 9, byteLength := 72
    extensionHeaders := [.general .dest 8 0]
    encapsulatedPacket := some 7 }

/-- It is cut into two fragments of 16 octets, and each of them is received as one of 8. -/
def destFrags : List (IPv6Datagram ℕ ℕ) := [(0, 16), (16, 32)].map (destSample.piece 3 32)

/-- A datagram without straddling headers that arrives as one fragment, and one with a Destination
Options header that is cut. -/
theorem not_inverse_sample :
    (sample.Legal ∧ ¬ Inverse sample (.single 3)) ∧
      destSample.Legal ∧ Link destSample ⟨64, 1, false⟩ ∧
        ¬ Inverse destSample (.cut ⟨64, 1, false⟩ 3) := by
  refine ⟨⟨sample_legal, ?_⟩, ⟨⟨destSample.extensionHeaders, by decide⟩, by decide, by decide,
    by decide, by decide, by decide⟩, ⟨by decide, by decide, by decide⟩, ?_⟩
  · rintro ⟨frags, hfrags, -, hr⟩
    have heq : Origin.fragments sample (.single 3) = .ok [sample.piece 3 48 (0, 48)] := by
      decide +kernel
    cases heq.symm.trans hfrags
    obtain ⟨r, fb', hre, -⟩ := hr [] empty (.nil _) _ List.mem_cons_self 0
    have hfault : (empty : IPv6FragBuf ℕ ℕ).defragment (sample.piece 3 48 (0, 48)) 0 =
      .error .eraseEnd := rfl
    rw [hfault] at hre
    cases hre
  · rintro ⟨frags, hfrags, -, hr⟩
    have heq : Origin.fragments destSample (.cut ⟨64, 1, false⟩ 3) = .ok destFrags := by
      decide +kernel
    cases heq.symm.trans hfrags
    obtain ⟨fb, hrun, hout⟩ : ∃ fb, Trace.Run receive (fun _ x => x.1 ∈ destFrags) empty
          [(destSample.piece 3 32 (0, 16), 0)] fb ∧
        ((fb.defragment (destSample.piece 3 32 (16, 32)) 0).toOption.map fun r => r.1.returned) =
          some none :=
      Trace.exists_run_of_exec (f := fun fb : IPv6FragBuf ℕ ℕ =>
        (fb.defragment (destSample.piece 3 32 (16, 32)) 0).toOption.map fun r => r.1.returned)
        (by decide +kernel)
    obtain ⟨r, fb', hre, hif⟩ := hr _ fb (hrun.mono fun _ _ => .inl)
      (destSample.piece 3 32 (16, 32)) (by decide +kernel) 0
    rw [if_pos (by decide +kernel)] at hif
    obtain ⟨out, hsome, -⟩ := hif
    rw [hre] at hout
    have hnone : r.returned = none := Option.some.inj hout
    rw [hsome] at hnone
    cases hnone

end Inverse

end IPv6FragBuf

end Hiwis
