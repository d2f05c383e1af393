import Hiwis.Ipv6.IPv6FragBuf

/-!
# Reassembly where sender and receiver agree

A datagram that `fragmentAndSend` cuts is put together again, whatever the order of the arrivals,
when no header lies between its unfragmentable part and the Fragment header.

* `Tracks.defragment` : the buffer follows the fragments that have arrived;
* `reassembles_of_gap_eq` : the datagram is handed out when the last of them arrives.
-/

namespace Hiwis

open List Option

namespace IPv6FragBuf

open IPv6Datagram IPv6ExtensionHeader ReassemblyBuffer

variable {α β : Type}

/-- The fragments into which a datagram is cut. -/
def pieces (d : IPv6Datagram α β) (id : UInt32) (L : List (ℕ × ℕ)) : List (IPv6Datagram α β) :=
  L.map (d.piece id d.fragmentableLength)

section Pieces

variable {d : IPv6Datagram α β} {id : UInt32} {l : ℕ} {L : List (ℕ × ℕ)} {c : ℕ × ℕ}

theorem key?_piece (h : d.Legal) (T : ℕ) (c : ℕ × ℕ) :
    key? (d.piece id T c) = some (pieceKey d id) := by
  unfold key?
  rw [findFragmentHeader_piece h]
  rfl

theorem piece_fst (h : d.Legal) {T : ℕ} {c c' : ℕ × ℕ} (heq : d.piece id T c = d.piece id T c') :
    c.1 = c'.1 := by
  have hfind := congrArg findFragmentHeader heq
  rw [findFragmentHeader_piece h, findFragmentHeader_piece h, Option.some.injEq,
    IPv6FragmentHeader.mk.injEq] at hfind
  exact hfind.2.1

/-- The region of a fragment of the cutting, told by its offset. -/
def cutRegion (d : IPv6Datagram α β) (l : ℕ) (x : IPv6Datagram α β) : Region :=
  let offset := ((findFragmentHeader x).map (·.fragmentOffset)).getD 0
  let past := min (offset + l) d.fragmentableLength
  ⟨offset, past, decide (past = d.fragmentableLength)⟩

theorem cutRegion_piece (h : d.Legal) (hL : Cuts d.fragmentableLength l L) (hc : c ∈ L) :
    cutRegion d l (d.piece id d.fragmentableLength c) =
      ⟨c.1, c.2, decide (c.2 = d.fragmentableLength)⟩ := by
  unfold cutRegion
  rw [findFragmentHeader_piece h]
  simp only [map_some, getD_some, ← hL.snd_eq c hc]

/-- Where sender and receiver count the same octets. -/
theorem region_eq (h : d.Legal) (hgap : gap d = 0) (hc : c.2 ≤ d.fragmentableLength) :
    region d c = ⟨c.1, c.2, decide (c.2 = d.fragmentableLength)⟩ := by
  have hle := h.fragmentable_le
  unfold region
  rw [hgap]
  congr 1
  omega

theorem cutInto_pieces (h : d.Legal) (hL : Cuts d.fragmentableLength l L) :
    CutInto (cutRegion d l) d.fragmentableLength (pieces d id L) := by
  have hmem : ∀ r ∈ regions (cutRegion d l) (pieces d id L),
      ∃ c ∈ L, r = ⟨c.1, c.2, decide (c.2 = d.fragmentableLength)⟩ := by
    rintro r ⟨x, hx, rfl⟩
    obtain ⟨c, hc, rfl⟩ := mem_map.1 hx
    exact ⟨c, hc, cutRegion_piece h hL hc⟩
  have hlt := hL.lt
  refine ⟨⟨by omega, ?_, ?_, ?_, ?_, ?_⟩, ?_⟩
  · intro r hr
    obtain ⟨c, hc, rfl⟩ := hmem r hr
    exact (hL.consecutive.bounds hc).2.1
  · intro r hr
    obtain ⟨c, hc, rfl⟩ := hmem r hr
    exact (hL.consecutive.bounds hc).2.2
  · intro r hr
    obtain ⟨c, hc, rfl⟩ := hmem r hr
    exact decide_eq_true_iff
  · intro r hr r' hr'
    obtain ⟨c, hc, rfl⟩ := hmem r hr
    obtain ⟨c', hc', rfl⟩ := hmem r' hr'
    rcases hL.consecutive.disjoint hc hc' with rfl | hdis | hdis
    · exact .inl rfl
    · exact .inr (.inl hdis)
    · exact .inr (.inr hdis)
  · intro k hk
    obtain ⟨c, hc, hck⟩ := hL.consecutive.cover (Nat.zero_le k) hk
    exact ⟨_, ⟨_, mem_map_of_mem hc, cutRegion_piece h hL hc⟩, hck⟩
  · intro x hx y hy hxy
    obtain ⟨c, hc, rfl⟩ := mem_map.1 hx
    obtain ⟨c', hc', rfl⟩ := mem_map.1 hy
    rw [cutRegion_piece h hL hc, cutRegion_piece h hL hc', Region.mk.injEq] at hxy
    rw [hL.inj hc hc' hxy.1]

/-- The buffer, when the fragments in `seen` have arrived since the datagram was last complete. -/
structure Tracks (d : IPv6Datagram α β) (id : UInt32) (l : ℕ) (L : List (ℕ × ℕ))
    (fb : IPv6FragBuf α β) (seen : List (IPv6Datagram α β)) : Prop where
  tracked : Tracked (cutRegion d l) d.fragmentableLength (pieces d id L) seen
    ((fb.bufs (pieceKey d id)).map (·.buf))
  stored : d.piece id d.fragmentableLength (0, l) ∈ seen →
    ∀ b ∈ fb.bufs (pieceKey d id), b.datagram = some (d.piece id d.fragmentableLength (0, l))

section

variable (h : d.Legal) (hL : Cuts d.fragmentableLength l L)
include h hL

variable {seen : List (IPv6Datagram α β)}

/-- A single fragment is not all of a datagram that has been cut. -/
theorem ne_nil_of_pieces_subset (hall : pieces d id L ⊆ d.piece id d.fragmentableLength c :: seen) :
    seen ≠ [] := by
  rintro rfl
  have hfst : ∀ c' ∈ L, c'.1 = c.1 := by
    intro c' hc'
    have hmem := hall (mem_map_of_mem hc')
    rw [mem_singleton] at hmem
    exact piece_fst h hmem
  obtain ⟨o, ho, hlo, -⟩ := hL.last_mem
  have h0 := hfst _ hL.first_mem
  have h1 := hfst _ ho
  have := hL.pos
  dsimp only at h0 h1
  omega

/-- The first fragment is kept, when it has arrived. -/
theorem Tracks.stored_eq {fb : IPv6FragBuf α β} (ht : Tracks d id l L fb seen)
    (hc : c ∈ L) (now : ℤ) (hmem : d.piece id d.fragmentableLength (0, l) ∈
      d.piece id d.fragmentableLength c :: seen) :
    (if c.1 = 0 then some (d.piece id d.fragmentableLength c)
      else (fb.find (pieceKey d id) now).datagram) =
        some (d.piece id d.fragmentableLength (0, l)) := by
  by_cases hzero : c.1 = 0
  · rw [if_pos hzero, hL.eq_first hc hzero]
  · rw [if_neg hzero]
    rcases mem_cons.1 hmem with heq | hmem
    · exact absurd (piece_fst h heq).symm hzero
    · have hsome : (fb.bufs (pieceKey d id)).isNone ≠ true := by
        intro hnone
        have := ht.tracked.isNone_iff.1 (by simpa using hnone)
        rw [this] at hmem
        cases hmem
      obtain ⟨b, hb⟩ := ne_none_iff_exists'.1 (mt isNone_iff_eq_none.2 hsome)
      rw [find, hb]
      exact ht.stored hmem b hb

/-- A fragment goes through the buffer, where sender and receiver count the same octets. -/
theorem Tracks.defragment [DecidableEq α] [DecidableEq β] (hgap : gap d = 0) {fb : IPv6FragBuf α β}
    (ht : Tracks d id l L fb seen) (hc : c ∈ L) (now : ℤ) :
    ∃ r fb', fb.defragment (d.piece id d.fragmentableLength c) now = .ok (r, fb') ∧
      (if pieces d id L ⊆ d.piece id d.fragmentableLength c :: seen then
        ∃ out, r.returned = some out ∧ Restores d out else r.returned = none) ∧
      Tracks d id l L fb'
        (see (pieces d id L) seen (d.piece id d.fragmentableLength c)) := by
  have hbounds := hL.consecutive.bounds hc
  have hlen : ¬ (c.2 ≠ d.fragmentableLength ∧ ((c.2 : ℤ) - c.1 - gap d) % 8 ≠ 0) := by
    rintro ⟨hne, hmod⟩
    have hsnd := hL.snd_eq c hc
    have := hL.mod
    omega
  have hregion : region d c = cutRegion d l (d.piece id d.fragmentableLength c) :=
    (region_eq h hgap hbounds.2.2).trans (cutRegion_piece h hL hc).symm
  rw [defragment_piece h hbounds.2.1.le hbounds.2.2, if_neg hlen, hregion]
  have hxmem : d.piece id d.fragmentableLength c ∈ pieces d id L := mem_map_of_mem hc
  obtain ⟨⟨complete, rb⟩, hb⟩ : ∃ b, (fb.find (pieceKey d id) now).buf.addFragment
      (cutRegion d l (d.piece id d.fragmentableLength c)).beg
      (cutRegion d l (d.piece id d.fragmentableLength c)).past
      (cutRegion d l (d.piece id d.fragmentableLength c)).islast = b := ⟨_, rfl⟩
  obtain ⟨hall, htotal, htracked⟩ := ht.tracked.addFragment (cutInto_pieces h hL) hxmem
    ((find_buf fb _ now) ▸ hb)
  have hbeg : (cutRegion d l (d.piece id d.fragmentableLength c)).beg = c.1 := by
    rw [cutRegion_piece h hL hc]
  have hstored := ht.stored_eq h hL hc now
  cases complete with
  | false =>
    have hmore : ¬ pieces d id L ⊆ d.piece id d.fragmentableLength c :: seen := by
      intro hsub
      simpa using hall.2 hsub
    have hadd := addRegion_of_incomplete (x := d.piece id d.fragmentableLength c) hb
    rw [hbeg] at hadd
    refine ⟨_, _, hadd, by rw [if_neg hmore]; rfl, ?_, ?_⟩
    · rw [set_bufs]
      exact htracked
    · intro hmem b hbuf
      rw [set_bufs, mem_some_iff] at hbuf
      subst hbuf
      rw [see, if_neg hmore] at hmem
      exact hstored hmem
  | true =>
    have hsub := hall.1 rfl
    have hfirst := hstored (hsub (mem_map_of_mem hL.first_mem))
    have hadd := addRegion_of_complete (x := d.piece id d.fragmentableLength c) hb
    -- the buffer is an old one
    have hsome : (fb.bufs (pieceKey d id)).isNone = false := by
      have := mt ht.tracked.isNone_iff.1 (ne_nil_of_pieces_subset h hL hsub)
      rwa [isNone_map, Bool.not_eq_true] at this
    rw [hbeg, hfirst, hsome] at hadd
    rw [show rb.getTotalLength = d.fragmentableLength from htotal rfl] at hadd
    refine ⟨_, _, hadd, by rw [if_pos hsub]; exact ⟨_, rfl, restores_reassembled h rfl⟩, ?_, ?_⟩
    · rw [set_bufs]
      exact htracked
    · intro _ b hbuf
      rw [set_bufs] at hbuf
      cases hbuf

end

variable {x : IPv6Datagram α β × ℤ} {fb fb' : IPv6FragBuf α β}

/-- A datagram that uses another buffer leaves this one as it is. -/
theorem bufs_of_receive {k : FragKey6} (hx : key? x.1 ≠ some k) (hs : fb.receive x = .ok fb') :
    fb'.bufs k = fb.bufs k := by
  unfold receive at hs
  rw [Except.bind_eq_ok] at hs
  obtain ⟨⟨out, fb''⟩, hre, hfb⟩ := hs
  cases hfb
  unfold IPv6FragBuf.defragment at hre
  cases hfind : findFragmentHeader x.1 with
  | none =>
    rw [hfind] at hre
    cases hre
    rfl
  | some fh =>
    have hk : k ≠ key x.1 fh := by
      rintro rfl
      exact hx (by rw [key?, hfind]; rfl)
    rw [hfind] at hre
    change fb.addFragment x.1 fh x.2 = _ at hre
    unfold addFragment at hre
    rw [Except.bind_eq_ok] at hre
    obtain ⟨len, -, hre⟩ := hre
    dsimp only at hre
    split_ifs at hre
    · cases hre
      exact set_bufs_of_ne _ _ hk
    · cases hre
      exact set_bufs_of_ne _ _ hk
    · rcases addRegion_eq_ok hre with ⟨-, b, rfl⟩ | rfl <;> exact set_bufs_of_ne _ _ hk

theorem Tracks.receive [DecidableEq α] [DecidableEq β] (h : d.Legal)
    (hL : Cuts d.fragmentableLength l L) (hgap : gap d = 0) {seen : List (IPv6Datagram α β)}
    (ht : Tracks d id l L fb seen) (hx : Admissible (pieces d id L) x) (hs : fb.receive x = .ok fb')
    :
    Tracks d id l L fb' (arrive (pieces d id L) seen x) := by
  by_cases hmem : x.1 ∈ pieces d id L
  · obtain ⟨c, hc, hcx⟩ := mem_map.1 hmem
    obtain ⟨r, fb'', hre, -, ht'⟩ := ht.defragment h hL hgap hc x.2
    rw [hcx] at hre ht'
    rw [IPv6FragBuf.receive, hre] at hs
    cases hs
    rwa [arrive, if_pos hmem]
  · have hkey := hx.resolve_left hmem _ (mem_map_of_mem hL.first_mem)
    rw [key?_piece h] at hkey
    have hbufs := bufs_of_receive hkey hs
    rw [arrive, if_neg hmem]
    exact ⟨by rw [hbufs]; exact ht.tracked, by rw [hbufs]; exact ht.stored⟩

/-- The fragments are reassembled, where sender and receiver count the same octets. -/
theorem reassembles_of_gap_eq [DecidableEq α] [DecidableEq β] (h : d.Legal)
    (hL : Cuts d.fragmentableLength l L) (hgap : gap d = 0) : Reassembles d (pieces d id L) := by
  intro arrivals fb hrun x hx now
  have htracks : Tracks d id l L fb (arrivals.foldl (arrive (pieces d id L)) []) :=
    hrun.simulation (R := Tracks d id l L) (f := arrive (pieces d id L))
      (fun fb seen x fb' ht hP hs => ht.receive h hL hgap hP hs)
      ⟨.nil (cutInto_pieces h hL), by simp⟩
  obtain ⟨c, hc, rfl⟩ := mem_map.1 hx
  obtain ⟨r, fb', hre, hr, -⟩ := htracks.defragment h hL hgap hc now
  exact ⟨r, fb', hre, hr⟩

end Pieces

end IPv6FragBuf

end Hiwis
