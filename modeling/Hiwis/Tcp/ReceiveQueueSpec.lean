import Hiwis.Tcp.OutOfOrder
import Hiwis.Tcp.QueueInit

/-!
# What a connection relies on in its receive queue

The three receive queues store different things, but a connection counts on the same facts: which
octets are stored, where the first of them lies, and how `rcv_nxt` moves.  `ReceiveQueueSpec` states
them for the virtual functions of `TCPReceiveQueue`.

* `RcvInv.getFirstSeqNo_eq`, `RcvInv.getAmountOfBufferedBytes_eq` : what the queries return;
* `virtualDataSpec`, `byteStreamSpec`, `msgBasedSpec` : the three queues.
-/

namespace Hiwis

open List Except VirtualRegion RcvInv ByteData ByteStreamRegion TCPReceiveQueue

open OutOfOrder Ranges

/-! ### Segments -/

namespace TCPSegment

/-- The number of text octets up to the end of each message of the segment. -/
def payloadOffsets (seg : TCPSegment) : List ℕ :=
  seg.payloadList.map fun i => (i.endSequenceNo - seg.sequenceNo).toNat

/-- The messages of a segment end inside of its text, and they are in order. -/
def PayloadsInside (seg : TCPSegment) : Prop :=
  seg.payloadOffsets.Pairwise (· ≤ ·) ∧ ∀ k ∈ seg.payloadOffsets, 0 < k ∧ k ≤ seg.payloadLength

instance (seg : TCPSegment) : Decidable seg.PayloadsInside := inferInstanceAs (Decidable (_ ∧ _))

variable {seg cut : TCPSegment} {l r : ℕ}

/-- What `truncateData` leaves of a segment. -/
theorem truncateData_spec (h : seg.PayloadsInside) (hlen : seg.payloadLength < 2 ^ 32)
    (hlr : l + r ≤ seg.payloadLength) (hcut : seg.truncateData l r = .ok cut) :
    cut.sequenceNo = seg.sequenceNo + BitVec.ofNat 32 l ∧
      cut.payloadLength = seg.payloadLength - (l + r) ∧ cut.finBit = seg.finBit ∧
      cut.PayloadsInside := by
  have hmod : (l + r) % 2 ^ 32 = l + r := Nat.mod_eq_of_lt (by omega)
  obtain ⟨byteArray, rfl⟩ : ∃ byteArray, cut = { seg with
      byteArray
      sequenceNo := seg.sequenceNo + BitVec.ofNat 32 l
      payloadLength := seg.payloadLength - (l + r)
      payloadList := dropPayloadRight (seg.sequenceNo + BitVec.ofNat 32 l)
        (seg.payloadLength - (l + r)) (dropPayloadLeft seg.sequenceNo l seg.payloadList) } := by
    rw [truncateData, hmod, if_neg (not_not.2 hlr)] at hcut
    dsimp only at hcut
    split_ifs at hcut
    all_goals
      obtain ⟨byteArray, -, hcut⟩ := bind_eq_ok.1 hcut
      exact ⟨byteArray, (Except.ok.inj hcut).symm⟩
  refine ⟨rfl, rfl, rfl, ?_⟩
  obtain ⟨hsorted, hin⟩ := h
  rw [payloadOffsets, pairwise_map] at hsorted
  rw [payloadOffsets, forall_mem_map] at hin
  have hmono : Sorted.Mono (fun i : TCPPayloadMessage =>
      decide ((i.endSequenceNo - seg.sequenceNo).toNat ≤ l)) seg.payloadList := by
    refine hsorted.imp ?_
    intro i j hij hj
    simp only [decide_eq_true_eq] at hj ⊢
    omega
  have hleft : dropPayloadLeft seg.sequenceNo l seg.payloadList =
      seg.payloadList.filter fun i => !decide ((i.endSequenceNo - seg.sequenceNo).toNat ≤ l) :=
    Sorted.dropWhile_eq_filter hmono
  -- the new offset of a message that is left
  have hoff : ∀ i ∈ dropPayloadLeft seg.sequenceNo l seg.payloadList,
      (i.endSequenceNo - (seg.sequenceNo + BitVec.ofNat 32 l)).toNat =
        (i.endSequenceNo - seg.sequenceNo).toNat - l ∧
      l < (i.endSequenceNo - seg.sequenceNo).toNat := by
    intro i hi
    rw [hleft, mem_filter, Bool.not_eq_true', decide_eq_false_iff_not, not_le] at hi
    have hlt := hi.2
    have hi' := hin i hi.1
    refine ⟨?_, hlt⟩
    bv_omega
  have hsub : (dropPayloadLeft seg.sequenceNo l seg.payloadList).Pairwise fun i j =>
      (i.endSequenceNo - (seg.sequenceNo + BitVec.ofNat 32 l)).toNat ≤
        (j.endSequenceNo - (seg.sequenceNo + BitVec.ofNat 32 l)).toNat := by
    refine List.Pairwise.imp_of_mem ?_ (hsorted.sublist (dropWhile_sublist _))
    intro i j hi hj hij
    rw [(hoff i hi).1, (hoff j hj).1]
    omega
  have hmono' : Sorted.Mono (fun i : TCPPayloadMessage => decide
      ((i.endSequenceNo - (seg.sequenceNo + BitVec.ofNat 32 l)).toNat ≤
        seg.payloadLength - (l + r))) (dropPayloadLeft seg.sequenceNo l seg.payloadList) := by
    refine hsub.imp ?_
    intro i j hij hj
    simp only [decide_eq_true_eq] at hj ⊢
    omega
  have hright : dropPayloadRight (seg.sequenceNo + BitVec.ofNat 32 l)
      (seg.payloadLength - (l + r)) (dropPayloadLeft seg.sequenceNo l seg.payloadList) =
      (dropPayloadLeft seg.sequenceNo l seg.payloadList).filter fun i => decide
        ((i.endSequenceNo - (seg.sequenceNo + BitVec.ofNat 32 l)).toNat ≤
          seg.payloadLength - (l + r)) := by
    rw [← Sorted.reverse_dropWhile hmono', dropPayloadRight]
    simp only [← decide_not, not_le]
  refine ⟨?_, ?_⟩
  · rw [payloadOffsets, pairwise_map, hright]
    exact hsub.sublist filter_sublist
  · rw [payloadOffsets, forall_mem_map, hright]
    intro i hi
    rw [mem_filter, decide_eq_true_eq] at hi
    have hi' := hoff i hi.1
    exact ⟨by dsimp only; omega, hi.2⟩

/-- A segment that reaches into the window `[f, e)` is cut down to it. -/
theorem truncateSegment_spec {a f e : ℤ} (h : seg.PayloadsInside) (hseq : seg.sequenceNo = pos a)
    (hlen : seg.payloadLength < 2 ^ 31) (hfe : f ≤ e) (hea : e - a < 2 ^ 31)
    (hnf : a + seg.payloadLength - f < 2 ^ 31)
    (hcut : seg.truncateSegment (pos f) (pos e) = .ok cut) :
    cut.sequenceNo = pos (max a f) ∧
      max a f + cut.payloadLength = min (a + seg.payloadLength) e ∧
      max a f ≤ min (a + seg.payloadLength) e ∧ cut.finBit = seg.finBit ∧
      cut.PayloadsInside := by
  have hn : 0 < seg.payloadLength := by
    by_contra hcon
    rw [truncateSegment, if_pos (by omega)] at hcut
    cases hcut
  rw [truncateSegment_eq hseq hn hfe hea hnf] at hcut
  split_ifs at hcut with hin
  obtain ⟨hs, hl, hfin, hpay⟩ := truncateData_spec h (by omega) (by omega) hcut
  refine ⟨?_, by omega, by omega, hfin, hpay⟩
  rw [hs, hseq, Serial.wrap_add_ofNat]
  congr 1
  omega

end TCPSegment

/-! ### The queries of a queue -/

namespace RcvInv

open RegionSpec TCPVirtualDataRcvQueue

variable {ρ : Type} [Region ρ] {S : RegionSpec ρ} {q : TCPVirtualDataRcvQueue ρ} {H nxt : ℤ}
  {C : Set ℤ}

variable (h : RcvInv S q H nxt C)
include h

theorem finite : C.Finite := by
  obtain ⟨L, -, -, rfl⟩ := h.regions
  exact finite_cover L

/-- The octets that are stored below `rcv_nxt` are among the stored ones. -/
theorem le_ncard : (nxt - H).toNat ≤ C.ncard := by
  rw [← ncard_Ico]
  exact Set.ncard_le_ncard h.full h.finite

/-- `getAmountOfBufferedBytes` is the number of stored octets. -/
theorem getAmountOfBufferedBytes_eq (hlt : nxt - H < 2 ^ 31) :
    q.getAmountOfBufferedBytes = C.ncard := by
  have hcard : C.ncard ≤ (nxt + 2 ^ 31 - H).toNat := by
    rw [← ncard_Ico]
    exact Set.ncard_le_ncard h.bounds (Set.toFinite _)
  obtain ⟨L, hL, hsep, rfl⟩ := h.regions
  rw [getAmountOfBufferedBytes, foldl_getLength hL hsep (by omega), Nat.zero_add]

/-- `getFirstSeqNo` is the first octet that has not been handed up. -/
theorem getFirstSeqNo_eq (hlt : nxt - H < 2 ^ 31) : q.getFirstSeqNo = pos H := by
  obtain ⟨L, hL, hsep, rfl⟩ := h.regions
  have hle := h.le
  cases hrs : q.regionList with
  | nil =>
    rw [hrs] at hL
    cases hL
    have hfull : nxt ≤ H := by simpa [Set.Ico_eq_empty_iff] using h.full
    simp only [getFirstSeqNo, hrs, h.rcvNxt]
    rw [le_antisymm hfull hle]
  | cons reg rest =>
    rw [hrs] at hL
    cases hL with
    | @cons _ p _ L hreg hrest =>
      have hmem : p.1 ∈ cover (p :: L) := Sep.head_subset ⟨le_rfl, hsep.pos mem_cons_self⟩
      have hb := h.bounds hmem
      have hgs : q.getFirstSeqNo = seqMin (pos p.1) (pos nxt) := by
        rw [getFirstSeqNo, hrs, h.rcvNxt, ← S.getBegin_eq hreg]
      rw [hgs, seqMin_pos (by have := hb.1; omega) (by have := hb.2; omega)]
      congr 1
      rcases h.le.eq_or_lt with heq | hlt'
      · have := hb.1
        omega
      · have hfront := hsep.head_le (h.full ⟨le_rfl, hlt'⟩)
        have := hb.1
        omega

/-- An insertion that succeeds adds the text of the segment. -/
theorem insert_of_eq_ok {seg : TCPSegment} {a : ℤ} {x : SeqNo}
    {q' : TCPVirtualDataRcvQueue ρ}
    (hseg : ∀ region, Region.createRegionFromSegment seg = .ok region →
      S.Rep region a (a + seg.payloadLength))
    (hfits : ∀ e b' e', S.Fits e b' e') (hpos : 0 < seg.payloadLength) (hH : H ≤ a)
    (he : a + seg.payloadLength ≤ nxt + 2 ^ 31)
    (hq : q.insertBytesFromSegment seg = .ok (x, q')) :
    ∃ nxt', x = pos nxt' ∧ q'.rcvNxt = x ∧ nxt ≤ nxt' ∧
      RcvInv S q' H nxt' (C ∪ Set.Ico a (a + seg.payloadLength)) := by
  obtain ⟨region, hregion, -⟩ := bind_eq_ok.1 hq
  rcases h.insertBytesFromSegment_spec hregion (hseg region hregion) (by omega) hH he
    (fun _ _ _ _ _ _ => hfits _ _ _) with hfault | ⟨q1, nxt', hq1, hle, hinv⟩
  · rw [hfault] at hq
    cases hq
  · cases hq1.symm.trans hq
    exact ⟨nxt', rfl, hinv.rcvNxt, hle, hinv⟩

/-- A call of `extractTo` that succeeds hands up what lies below the sequence number. -/
theorem extract_of_eq_ok {s : ℤ} {reg : Option ρ} {q' : TCPVirtualDataRcvQueue ρ} (hs : s ≤ nxt)
    (hH : H < s ∨ s = nxt) (hq : q.extractTo (pos s) = .ok (reg, q')) :
    RcvInv S q' s nxt (C \ Set.Ico H s) ∧ (reg = none → H = nxt) ∧ ∀ r ∈ reg, S.Rep r H s := by
  have hspan := h.rcvNxt_sub_le
  have hle := h.le
  have hnear : nxt - s < 2 ^ 31 := by omega
  have hfirst : ∀ x ∈ C, (∀ y ∈ C, x ≤ y) → x - s < 2 ^ 31 := by
    intro x hx hmin
    rcases hle.eq_or_lt with heq | hlt
    · have := (h.bounds hx).2
      omega
    · have := hmin H (h.full ⟨le_rfl, hlt⟩)
      omega
  rcases h.extractTo_spec hs hnear hfirst with ⟨hsH, hq1⟩ | ⟨r, q1, -, hq1, hr, hinv⟩
  · cases hq1.symm.trans hq
    obtain rfl : s = nxt := by omega
    obtain rfl : H = s := by omega
    refine ⟨by simpa using h, fun _ => rfl, ?_⟩
    intro r hr
    cases hr
  · cases hq1.symm.trans hq
    refine ⟨hinv, by simp, ?_⟩
    intro r' hr'
    cases hr'
    exact hr

end RcvInv

/-- What holds of a receive queue in the hands of a connection: `Holds q H nxt C` says that the
queue `q` has handed up everything below position `H`, stores the octets at the positions `C` and
waits for position `nxt`. -/
structure ReceiveQueueSpec (κ : Type) {μ ρ : Type} [Region ρ] [TCPReceiveQueue κ μ ρ] where
  region : RegionSpec ρ
  Holds : κ → ℤ → ℤ → Set ℤ → Prop
  rcvInv : ∀ {q H nxt C}, Holds q H nxt C → RcvInv region (queries q) H nxt C
  new : ∀ p, Holds (new (pos p)) p p ∅
  /-- A queue that stores nothing can be initialised again. -/
  init : ∀ {q H nxt}, Holds q H nxt ∅ → ∀ p, Holds (init q (pos p)) p p ∅
  insert : ∀ {q H nxt C} {seg : TCPSegment} {a : ℤ} {x q'}, Holds q H nxt C →
    seg.sequenceNo = pos a → seg.PayloadsInside → 0 < seg.payloadLength → H ≤ a →
    a + seg.payloadLength ≤ nxt + 2 ^ 31 →
    insertBytesFromSegment q seg = .ok (x, q') →
    ∃ nxt', x = pos nxt' ∧ nxt ≤ nxt' ∧ Holds q' H nxt' (C ∪ Set.Ico a (a + seg.payloadLength))
  /-- When nothing more is handed up, nothing is left below `rcv_nxt`. -/
  extract : ∀ {q H nxt C msg q'}, Holds q H nxt C →
    extractBytesUpTo q (pos nxt) = .ok (msg, q') →
    ∃ H', H ≤ H' ∧ H' ≤ nxt ∧ (msg = none → H' = nxt) ∧ Holds q' H' nxt (C \ Set.Ico H H')

/-! ### The queue that counts octets -/

variable {a : ℤ}

/-- The region of a segment holds its text. -/
theorem VirtualRegion.rep_of_segment {seg : TCPSegment} {region : VirtualRegion}
    (hseq : seg.sequenceNo = pos a) (h : Region.createRegionFromSegment seg = .ok region) :
    spec.Rep region a (a + seg.payloadLength) := by
  cases h
  change createRegionFromSegment seg = ⟨pos a, pos (a + seg.payloadLength)⟩
  rw [createRegionFromSegment, TCPSegment.endSeq, hseq, Serial.wrap_add_ofNat]

/-- The receive queue of virtual data. -/
def virtualDataSpec : ReceiveQueueSpec (TCPVirtualDataRcvQueue VirtualRegion) where
  region := spec
  Holds := RcvInv spec
  rcvInv h := h
  new := init
  init _ p := init p
  insert := by
    intro q H nxt C seg a x q' h hseq _ hpos hH he hq
    obtain ⟨nxt', hx, -, hle, hinv⟩ :=
      h.insert_of_eq_ok (fun _ => rep_of_segment hseq) (fun _ _ _ => trivial) hpos hH he hq
    exact ⟨nxt', hx, hle, hinv⟩
  extract := by
    intro q H nxt C msg q' h hq
    obtain ⟨⟨reg, q₁⟩, hq₁, hq⟩ := bind_eq_ok.1 hq
    cases hq
    exact ⟨nxt, h.le, le_rfl, fun _ => rfl, (h.extract_of_eq_ok le_rfl (.inr rfl) hq₁).1⟩

/-! ### The byte-stream queue -/

/-- Copying into a part of a buffer leaves its length. -/
theorem ByteData.length_copyDataToBuffer {data buff : ByteData} {ptr length : ℕ}
    (h : ptr + length ≤ buff.length) (srcOffs : ℕ) :
    (data.copyDataToBuffer buff ptr length srcOffs).length = buff.length := by
  have hchunk : ((data.drop srcOffs).take length).length ≤ length := length_take_le _ _
  simp only [copyDataToBuffer, length_append, length_drop]
  rw [length_take]
  omega

namespace ByteStreamRegion

/-- The region has as many bytes as its sequence numbers say. -/
structure Spans (r : ByteStreamRegion) (b e : ℤ) : Prop where
  getBegin_eq : r.getBegin = pos b
  getEnd_eq : r.getEnd = pos e
  length_eq : r.data.length = (e - b).toNat

variable {r r' : ByteStreamRegion} {b e b' e' : ℤ}

theorem Spans.merge (h : Spans r b e) (h' : Spans r' b' e') (hlt : b < e) (hlt' : b' < e')
    (hbe : b ≤ e') (hbe' : b' ≤ e) (hs : max e e' - min b b' ≤ 2 ^ 31) :
    ∃ m, r.merge r' = some m ∧ Spans m (min b b') (max e e') := by
  rw [merge_eq h.getBegin_eq h.getEnd_eq h'.getBegin_eq h'.getEnd_eq hlt hlt' hbe hbe' hs]
  dsimp only
  by_cases hnew : min b b' ≠ b ∨ max e e' ≠ e
  · rw [if_pos hnew]
    -- none of the copies goes beyond the end of the new buffer
    have hcopy : ∀ {P : Prop} [Decidable P] {data buff : ByteData} {ptr length : ℕ},
        ptr + length ≤ (max e e' - min b b').toNat →
        buff.length = (max e e' - min b b').toNat →
        (if P then data.copyDataToBuffer buff ptr length 0 else buff).length =
          (max e e' - min b b').toNat := by
      intro P _ data buff ptr length hfit hbuff
      split_ifs
      · rw [length_copyDataToBuffer (by omega), hbuff]
      · exact hbuff
    have hself : ∀ {data buff : ByteData}, buff.length = (max e e' - min b b').toNat →
        (data.copyDataToBuffer buff (b - min b b').toNat (e - b).toNat 0).length =
          (max e e' - min b b').toNat := by
      intro data buff hbuff
      rw [length_copyDataToBuffer (by omega), hbuff]
    exact ⟨_, rfl, rfl, rfl, hcopy (by omega) (hself (hcopy (by omega) length_replicate))⟩
  · rw [if_neg hnew]
    obtain ⟨hb, he⟩ := not_or.1 hnew
    rw [not_not.1 hb, not_not.1 he]
    exact ⟨r, rfl, h⟩

theorem Spans.split (h : Spans r b e) {m : ℤ} (hbm : b < m) (hme : m < e) (hs : e - b ≤ 2 ^ 31) :
    ∃ r1 r2, r.split (pos m) = .ok (r1, r2) ∧ Spans r1 b m ∧ Spans r2 m e := by
  have hlen := h.length_eq
  have hd : (pos m - pos b).toNat = (m - b).toNat := dist_pos (by omega) (by omega)
  have hguard : (seqGreater (pos m) (pos b) && seqLess (pos m) (pos e)) = true := by
    rw [seqGreater_pos (by omega) (by omega), seqLess_pos (by omega) (by omega)]
    simp [hbm, hme]
  have hhead : setDataFromByteArray r.data 0 (m - b).toNat =
      .ok (r.data.take (m - b).toNat) := by
    rw [setDataFromByteArray, if_pos (by omega), drop_zero]
  have htail : r.data.truncateData (m - b).toNat 0 =
      .ok ((r.data.drop (m - b).toNat).take (r.data.length - ((m - b).toNat + 0))) := by
    rw [truncateData, if_pos (by omega)]
  refine ⟨⟨pos b, pos m, r.data.take (m - b).toNat⟩, ⟨pos m, pos e,
    (r.data.drop (m - b).toNat).take (r.data.length - ((m - b).toNat + 0))⟩, ?_,
    ⟨rfl, rfl, ?_⟩, ⟨rfl, rfl, ?_⟩⟩
  · rw [ByteStreamRegion.split, h.getBegin_eq, h.getEnd_eq, hguard, hd]
    simp only [not_true_eq_false, if_false, hhead, htail, ok_bind, pure_eq_ok]
  · rw [length_take]
    omega
  · rw [length_take, length_drop]
    omega

/-- A region of bytes by its length only, whatever the bytes are. -/
def lengthSpec : RegionSpec ByteStreamRegion where
  Rep := Spans
  Fits _ _ _ := True
  getBegin_eq h := h.getBegin_eq
  getEnd_eq h := h.getEnd_eq
  fits_of_le _ := trivial
  merge_rep h h' hlt hlt' hbe hbe' hs _ := h.merge h' hlt hlt' hbe hbe' hs
  split_rep h := h.split

end ByteStreamRegion

/-- The region of a segment spans its bytes. -/
theorem lengthSpec_rep_of_segment {seg : TCPSegment} (hseq : seg.sequenceNo = pos a)
    (region : ByteStreamRegion) (h : Region.createRegionFromSegment seg = .ok region) :
    lengthSpec.Rep region a (a + seg.payloadLength) := by
  change ByteStreamRegion.createRegionFromSegment seg = .ok region at h
  rw [ByteStreamRegion.createRegionFromSegment] at h
  split_ifs at h with hlen
  cases h
  refine ⟨hseq, ?_, ?_⟩
  · rw [TCPSegment.endSeq, hseq, Serial.wrap_add_ofNat]
  · change seg.byteArray.length = _
    omega

/-- The receive queue of bytes. -/
def byteStreamSpec : ReceiveQueueSpec TCPByteStreamRcvQueue where
  region := lengthSpec
  Holds := RcvInv lengthSpec
  rcvInv h := h
  new := init
  init _ p := init p
  insert := by
    intro q H nxt C seg a x q' h hseq _ hpos hH he hq
    obtain ⟨nxt', hx, -, hle, hinv⟩ := h.insert_of_eq_ok (lengthSpec_rep_of_segment hseq)
      (fun _ _ _ => trivial) hpos hH he hq
    exact ⟨nxt', hx, hle, hinv⟩
  extract := by
    intro q H nxt C msg q' h hq
    obtain ⟨⟨reg, q₁⟩, hq₁, hq⟩ := bind_eq_ok.1 hq
    have hinv := (h.extract_of_eq_ok le_rfl (.inr rfl) hq₁).1
    refine ⟨nxt, h.le, le_rfl, fun _ => rfl, ?_⟩
    cases reg with
    | none =>
      cases hq
      exact hinv
    | some reg =>
      obtain ⟨msg', -, hq⟩ := bind_eq_ok.1 hq
      cases hq
      exact hinv

/-! ### The message-based queue -/

namespace TCPMsgBasedRcvQueue

/-- The messages end at these positions. -/
def EndAt (l : List TCPPayloadMessage) (ms : List ℤ) : Prop :=
  l.map TCPPayloadMessage.endSequenceNo = ms.map pos

theorem EndAt.append {l l' : List TCPPayloadMessage} {ms ms' : List ℤ} (h : EndAt l ms)
    (h' : EndAt l' ms') : EndAt (l ++ l') (ms ++ ms') := by
  rw [EndAt, map_append, map_append, h, h']

/-- The messages of a segment end in its text. -/
theorem EndAt.of_payloadsInside {seg : TCPSegment} (hseq : seg.sequenceNo = pos a) :
    EndAt seg.payloadList (seg.payloadOffsets.map fun k : ℕ => a + (k : ℤ)) := by
  rw [EndAt, TCPSegment.payloadOffsets, map_map, map_map]
  refine map_congr_left fun i _ => ?_
  have hadd : pos a + BitVec.ofNat 32 (i.endSequenceNo - seg.sequenceNo).toNat =
      pos (a + ((i.endSequenceNo - seg.sequenceNo).toNat : ℕ)) := Serial.wrap_add_ofNat _ _
  rw [BitVec.ofNat_toNat, BitVec.setWidth_eq, ← hseq,
    BitVec.add_comm seg.sequenceNo, BitVec.sub_add_cancel] at hadd
  exact hadd

/-- The iterator stops at the first item that does not end before `x`. -/
theorem EndAt.split {items : List TCPPayloadMessage} {ms : List ℤ} (h : EndAt items ms) {x : ℤ}
    (hnear : ∀ m ∈ ms, x - m < 2 ^ 31 ∧ m - x < 2 ^ 31) :
    EndAt (items.takeWhile fun i => seqLess i.endSequenceNo (pos x))
        (ms.takeWhile fun m => decide (m < x)) ∧
      EndAt (items.dropWhile fun i => seqLess i.endSequenceNo (pos x))
        (ms.dropWhile fun m => decide (m < x)) := by
  induction items generalizing ms with
  | nil =>
    cases ms with
    | nil => exact ⟨rfl, rfl⟩
    | cons m ms => cases h
  | cons i items ih =>
    cases ms with
    | nil => cases h
    | cons m ms =>
      obtain ⟨him, h⟩ := List.cons.inj h
      have hm := hnear m mem_cons_self
      have hcmp : seqLess i.endSequenceNo (pos x) = decide (m < x) := by
        rw [him]
        exact seqLess_pos (by omega) (by omega)
      simp only [takeWhile_cons, dropWhile_cons, hcmp]
      by_cases hmx : m < x
      · obtain ⟨htake, hdrop⟩ := ih h fun m' hm' => hnear m' (mem_cons_of_mem _ hm')
        simp only [hmx, decide_true, if_true]
        exact ⟨congrArg₂ List.cons him htake, hdrop⟩
      · simp only [hmx, decide_false, Bool.false_eq_true, if_false]
        exact ⟨rfl, congrArg₂ List.cons him h⟩

/-- Messages in order are put into a list that is in order.  `bs` are the ends of the items that the
iterator has passed. -/
theorem insertPayloads_endAt {msgs before items out : List TCPPayloadMessage}
    {xs bs ms : List ℤ} (hxs : EndAt msgs xs) (hbs : EndAt before bs) (hms : EndAt items ms)
    (hsorted : (bs ++ ms).Pairwise (· < ·)) (hle : xs.Pairwise (· ≤ ·))
    (hlt : ∀ b ∈ bs, ∀ x ∈ xs, b < x)
    (hnear : ∀ m ∈ bs ++ ms ++ xs, ∀ m' ∈ bs ++ ms ++ xs, m' - m < 2 ^ 31)
    (h : insertPayloads msgs before items = .ok out) :
    ∃ os, EndAt out os ∧ os.Pairwise (· < ·) ∧ ∀ o ∈ os, o ∈ bs ++ ms ++ xs := by
  induction msgs generalizing xs before items bs ms with
  | nil =>
    cases h
    exact ⟨bs ++ ms, hbs.append hms, hsorted, fun o ho => mem_append_left _ ho⟩
  | cons msg msgs ih =>
    cases xs with
    | nil => cases hxs
    | cons x xs =>
      obtain ⟨hx, hxs⟩ := List.cons.inj hxs
      rw [insertPayloads, hx] at h
      obtain ⟨hxle, hle⟩ := pairwise_cons.1 hle
      have hmx : ∀ m ∈ ms, x - m < 2 ^ 31 ∧ m - x < 2 ^ 31 := by
        intro m hm
        have hm' : m ∈ bs ++ ms ++ x :: xs := by simp [hm]
        have hx' : x ∈ bs ++ ms ++ x :: xs := by simp
        exact ⟨hnear m hm' x hx', hnear x hx' m hm'⟩
      obtain ⟨htake, hdrop⟩ := hms.split hmx
      obtain ⟨hsb, hsm, hsbm⟩ := pairwise_append.1 hsorted
      have hcat : ms.takeWhile (fun m => decide (m < x)) ++ ms.dropWhile (fun m => decide (m < x)) =
          ms := takeWhile_append_dropWhile
      generalize hs₁ : ms.takeWhile (fun m => decide (m < x)) = s₁ at htake hcat
      generalize hs₂ : ms.dropWhile (fun m => decide (m < x)) = s₂ at hdrop hcat
      have hlow : ∀ m ∈ s₁, m < x := by
        intro m hm
        rw [← hs₁] at hm
        simpa using mem_takeWhile_imp hm
      -- the iterator has passed `s₁`, and the rest of the messages end after these
      have hlt' : ∀ b ∈ bs ++ s₁, ∀ x' ∈ xs, b < x' := by
        intro b hb x' hx'
        have := hxle x' hx'
        rcases mem_append.1 hb with hb | hb
        · exact hlt b hb x' (mem_cons_of_mem _ hx')
        · have := hlow b hb
          omega
      subst hcat
      split_ifs at h with hhead hends
      · have hmem : ∀ m ∈ bs ++ s₁ ++ s₂ ++ xs, m ∈ bs ++ (s₁ ++ s₂) ++ x :: xs := by
          intro m hm
          simp only [mem_append, mem_cons] at hm ⊢
          tauto
        obtain ⟨os, hos, hsort, hall⟩ := ih hxs (hbs.append htake) hdrop
          (by rwa [append_assoc]) hle hlt'
          (fun m hm m' hm' => hnear m (hmem m hm) m' (hmem m' hm')) h
        exact ⟨os, hos, hsort, fun o ho => hmem o (hall o ho)⟩
      · have hmem : ∀ m ∈ bs ++ s₁ ++ x :: s₂ ++ xs, m ∈ bs ++ (s₁ ++ s₂) ++ x :: xs := by
          intro m hm
          simp only [mem_append, mem_cons] at hm ⊢
          tauto
        -- the first item that has not been passed ends after the new message
        have hhigh : ∀ m ∈ s₂, x < m := by
          cases s₂ with
          | nil => simp
          | cons m₀ s₂ =>
            have hfirst : ¬ m₀ < x := by
              have hhead := List.head?_dropWhile_not (fun m => decide (m < x)) (s₁ ++ m₀ :: s₂)
              rw [hs₂] at hhead
              simpa using hhead
            have hne : m₀ ≠ x := by
              rintro rfl
              refine hhead ?_
              rw [← List.head?_map, hdrop]
              rfl
            have hs := (pairwise_cons.1 (hsm.sublist (sublist_append_right _ _))).1
            intro m hm
            rcases mem_cons.1 hm with rfl | hm
            · omega
            · have := hs m hm
              omega
        have hsorted' : (bs ++ s₁ ++ x :: s₂).Pairwise (· < ·) := by
          refine pairwise_append.2 ⟨?_, pairwise_cons.2 ⟨hhigh, ?_⟩, ?_⟩
          · exact hsorted.sublist ((List.Sublist.refl _).append (sublist_append_left _ _))
          · exact hsm.sublist (sublist_append_right _ _)
          · have hbx : ∀ b ∈ bs ++ s₁, b < x := by
              intro b hb
              rcases mem_append.1 hb with hb | hb
              · exact hlt b hb x mem_cons_self
              · exact hlow b hb
            intro b hb m hm
            rcases mem_cons.1 hm with rfl | hm
            · exact hbx b hb
            · exact (hbx b hb).trans (hhigh m hm)
        obtain ⟨os, hos, hsort, hall⟩ := ih hxs (hbs.append htake)
          (show EndAt (msg :: _) (x :: s₂) from congrArg₂ List.cons hx hdrop) hsorted' hle hlt'
          (fun m hm m' hm' => hnear m (hmem m hm) m' (hmem m' hm')) h
        exact ⟨os, hos, hsort, fun o ho => hmem o (hall o ho)⟩

/-- What holds of the queue: every message of the payload list ends in or after a stored octet, and
they are in order. -/
structure Stores (q : TCPMsgBasedRcvQueue) (H nxt : ℤ) (C : Set ℤ) : Prop where
  base : RcvInv spec q.base H nxt C
  payloads : ∃ ms, EndAt q.payloadList ms ∧ ms.Pairwise (· < ·) ∧ ∀ m ∈ ms, H < m ∧ m - 1 ∈ C

variable {q q' : TCPMsgBasedRcvQueue} {H nxt : ℤ} {C : Set ℤ}

theorem Stores.insert (h : Stores q H nxt C) {seg : TCPSegment} {x : SeqNo}
    (hseq : seg.sequenceNo = pos a) (hpay : seg.PayloadsInside) (hpos : 0 < seg.payloadLength)
    (hH : H ≤ a) (he : a + seg.payloadLength ≤ nxt + 2 ^ 31)
    (hq : q.insertBytesFromSegment seg = .ok (x, q')) :
    ∃ nxt', x = pos nxt' ∧ nxt ≤ nxt' ∧
      Stores q' H nxt' (C ∪ Set.Ico a (a + seg.payloadLength)) := by
  obtain ⟨⟨y, base⟩, hbase, hq⟩ := bind_eq_ok.1 hq
  obtain ⟨payloadList, hlist, hq⟩ := bind_eq_ok.1 hq
  cases hq
  obtain ⟨nxt', rfl, hnxt, hle, hinv⟩ :=
    h.base.insert_of_eq_ok (fun _ => rep_of_segment hseq) (fun _ _ _ => trivial) hpos hH he hbase
  obtain ⟨ms, hms, hsorted, hin⟩ := h.payloads
  have hnew : ∀ x ∈ seg.payloadOffsets.map (fun k : ℕ => a + (k : ℤ)),
      H < x ∧ x - 1 ∈ C ∪ Set.Ico a (a + seg.payloadLength) := by
    rw [forall_mem_map]
    intro k hk
    have hk' := hpay.2 k hk
    exact ⟨by omega, .inr ⟨by omega, by omega⟩⟩
  have hall : ∀ m ∈ [] ++ ms ++ seg.payloadOffsets.map (fun k : ℕ => a + (k : ℤ)),
      H < m ∧ m - 1 ∈ C ∪ Set.Ico a (a + seg.payloadLength) := by
    intro m hm
    rcases mem_append.1 hm with hm | hm
    · exact ⟨(hin m hm).1, .inl (hin m hm).2⟩
    · exact hnew m hm
  have hle' : (seg.payloadOffsets.map (fun k : ℕ => a + (k : ℤ))).Pairwise (· ≤ ·) := by
    rw [pairwise_map]
    refine hpay.1.imp ?_
    intro k k' hkk'
    omega
  obtain ⟨os, hos, hsort, hmem⟩ := insertPayloads_endAt (.of_payloadsInside hseq)
    (show EndAt [] [] from rfl) hms (by simpa using hsorted) hle' (by simp)
    (fun m hm m' hm' => by
      have := hinv.span _ (hall m hm).2 _ (hall m' hm').2
      omega) hlist
  exact ⟨nxt', hnxt, hle, hinv, os, hos, hsort, fun o ho => hall o (hmem o ho)⟩

theorem Stores.extract (h : Stores q H nxt C) {msg : Option CPacket}
    (hq : q.extractBytesUpTo (pos nxt) = .ok (msg, q')) :
    ∃ H', H ≤ H' ∧ H' ≤ nxt ∧ (msg = none → H' = nxt) ∧ Stores q' H' nxt (C \ Set.Ico H H') := by
  obtain ⟨ms, hms, hsorted, hin⟩ := h.payloads
  have hle := h.base.le
  have hspan := h.base.rcvNxt_sub_le
  obtain ⟨⟨reg, base⟩, hbase, hq⟩ := bind_eq_ok.1 hq
  -- what stays when everything below `s` is taken
  have hstay : ∀ {s : ℤ} {l : List TCPPayloadMessage} {ms' : List ℤ},
      RcvInv spec base s nxt (C \ Set.Ico H s) → EndAt l ms' →
      ms'.Sublist ms → (∀ m ∈ ms', s < m) → Stores ⟨base, l⟩ s nxt (C \ Set.Ico H s) := by
    intro s l ms' hinv hl hsub hlt
    refine ⟨hinv, ms', hl, hsorted.sublist hsub, ?_⟩
    intro m hm
    have := hlt m hm
    exact ⟨this, (hin m (hsub.subset hm)).2, fun hcon => by have := hcon.2; omega⟩
  cases hlist : q.payloadList with
  | nil =>
    rw [hlist] at hms
    rw [hlist] at hbase hq
    obtain ⟨hinv, -, -⟩ := h.base.extract_of_eq_ok le_rfl (.inr rfl) hbase
    refine ⟨nxt, hle, le_rfl, fun _ => rfl, ?_⟩
    have hq' : q' = ⟨base, []⟩ := by
      cases reg <;> exact (Prod.mk.inj (Except.ok.inj hq)).2.symm
    rw [hq']
    exact hstay hinv (show EndAt [] [] from rfl) (nil_sublist _) (by simp)
  | cons front rest =>
    obtain ⟨m, ms', rfl⟩ : ∃ m ms', ms = m :: ms' := by
      cases ms with
      | nil => rw [hlist] at hms; cases hms
      | cons m ms' => exact ⟨m, ms', rfl⟩
    rw [hlist] at hms
    rw [hlist] at hbase hq
    obtain ⟨hm, hms'⟩ := List.cons.inj hms
    obtain ⟨hHm, hmC⟩ := hin m mem_cons_self
    have hmn := (h.base.bounds hmC).2
    have hlt := (pairwise_cons.1 hsorted).1
    -- what is taken ends with the first message, or at `rcv_nxt`
    have hseq : (if seqLess front.endSequenceNo (pos nxt) then front.endSequenceNo else pos nxt) =
        pos (min m nxt) := by
      rw [hm, seqLess_pos (by omega) (by omega)]
      by_cases hmnxt : m < nxt
      · rw [if_pos (decide_eq_true hmnxt), min_eq_left hmnxt.le]
      · rw [if_neg (by simpa using hmnxt), min_eq_right (by omega)]
    dsimp only at hbase
    rw [hseq] at hbase
    by_cases hmnxt : m ≤ nxt
    · rw [min_eq_left hmnxt] at hbase
      obtain ⟨hinv, hnone, hrep⟩ := h.base.extract_of_eq_ok hmnxt (.inl hHm) hbase
      cases reg with
      | none =>
        have := hnone rfl
        omega
      | some reg =>
        obtain rfl : reg = ⟨pos H, pos m⟩ := hrep reg rfl
        dsimp only at hq
        rw [if_pos hm] at hq
        cases hq
        exact ⟨m, hHm.le, hmnxt, by simp, hstay hinv hms' (sublist_cons_self _ _) hlt⟩
    · rw [min_eq_right (by omega)] at hbase
      obtain ⟨hinv, -, hrep⟩ := h.base.extract_of_eq_ok le_rfl (.inr rfl) hbase
      have hq' : q' = ⟨base, front :: rest⟩ := by
        cases reg with
        | none => exact (Prod.mk.inj (Except.ok.inj hq)).2.symm
        | some reg =>
          obtain rfl : reg = ⟨pos H, pos nxt⟩ := hrep reg rfl
          have hne : ¬ front.endSequenceNo = pos nxt := by
            rw [hm, pos_inj (by omega) (by omega)]
            omega
          dsimp only at hq
          rw [if_neg hne] at hq
          exact (Prod.mk.inj (Except.ok.inj hq)).2.symm
      rw [hq']
      refine ⟨nxt, hle, le_rfl, fun _ => rfl, hstay hinv hms (List.Sublist.refl _) ?_⟩
      intro m' hm'
      rcases mem_cons.1 hm' with rfl | hm'
      · omega
      · have := hlt m' hm'
        omega

end TCPMsgBasedRcvQueue

/-- The receive queue of messages. -/
def msgBasedSpec : ReceiveQueueSpec TCPMsgBasedRcvQueue where
  region := spec
  Holds := TCPMsgBasedRcvQueue.Stores
  rcvInv h := h.base
  new p := ⟨init p, [], rfl, List.Pairwise.nil, by simp⟩
  init := by
    intro q H nxt h p
    obtain ⟨ms, hms, -, hin⟩ := h.payloads
    obtain rfl : ms = [] := eq_nil_iff_forall_not_mem.2 fun m hm => (hin m hm).2
    exact ⟨init p, [], hms, List.Pairwise.nil, by simp⟩
  insert h := h.insert
  extract h := h.extract

end Hiwis
