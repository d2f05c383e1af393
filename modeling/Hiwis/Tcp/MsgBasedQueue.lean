import Hiwis.Lib.Sorted
import Hiwis.Tcp.VirtualDataRcvQueue

/-!
# Message-based queues

In object transfer mode TCP carries message objects.  `TCPMsgBasedSendQueue` keeps the messages
that are not acknowledged, each under the sequence number that follows its last octet, and puts
a copy into every segment that carries this octet.  `TCPMsgBasedRcvQueue` counts the octets that
arrive, as the virtual-data queue does, and keeps the messages that arrive with them.

* `TCPMsgBasedRcvQueue.insertPayloads_eq` : the payload list after the arrival of a segment;
* `MsgTransfer.delivered_eq` : the messages are delivered in the order in which they were sent, and
  each of them as soon as its last octet has been received contiguously.
-/

namespace Hiwis

open Sorted TCPSegment VirtualRegion List Except
open Bool (and_eq_false_iff and_eq_true decide_and false_eq_true not_eq_true or_eq_true)

/-! ### The queues -/

/-- `TCPMsgBasedSendQueue`. -/
structure TCPMsgBasedSendQueue where
  beginSeq : SeqNo
  endSeq : SeqNo
  payloadQueue : List TCPPayloadMessage
  deriving DecidableEq

namespace TCPMsgBasedSendQueue

/-- A queue that has just been constructed and given its first sequence number by `init`. -/
def init (startSeq : SeqNo) : TCPMsgBasedSendQueue := ⟨startSeq, startSeq, []⟩

/-- `enqueueAppData`. -/
def enqueueAppData (q : TCPMsgBasedSendQueue) (msg : CPacket) :
    Except Fault TCPMsgBasedSendQueue :=
  let endSeq := q.endSeq + BitVec.ofNat 32 msg.byteLength
  if seqLess endSeq q.beginSeq then .error .sendQueueFull
  else .ok { q with endSeq, payloadQueue := q.payloadQueue ++ [⟨endSeq, msg⟩] }

/-- `createSegmentWithBytes`. -/
def createSegmentWithBytes (q : TCPMsgBasedSendQueue) (fromSeq : SeqNo) (numBytes : ℕ) :
    Except Fault TCPSegment :=
  let toSeq := fromSeq + BitVec.ofNat 32 numBytes
  if seqLE q.beginSeq fromSeq && seqLE toSeq q.endSeq then
    .ok
      { sequenceNo := fromSeq
        payloadLength := numBytes
        payloadList := (q.payloadQueue.dropWhile fun i => seqLE i.endSequenceNo fromSeq).takeWhile
          fun i => seqLE i.endSequenceNo toSeq }
  else .error .sendQueueRange

/-- `discardUpTo`. -/
def discardUpTo (q : TCPMsgBasedSendQueue) (seqNum : SeqNo) : Except Fault TCPMsgBasedSendQueue :=
  if seqLE q.beginSeq seqNum && seqLE seqNum q.endSeq then
    .ok
      { q with
        beginSeq := seqNum
        payloadQueue := q.payloadQueue.dropWhile fun i => seqLE i.endSequenceNo seqNum }
  else .error .sendQueueRange

end TCPMsgBasedSendQueue

/-- `TCPMsgBasedRcvQueue`. -/
structure TCPMsgBasedRcvQueue where
  base : TCPVirtualDataRcvQueue VirtualRegion
  payloadList : List TCPPayloadMessage
  deriving DecidableEq

namespace TCPMsgBasedRcvQueue

/-- A queue that has just been constructed and given its first sequence number by `init`. -/
def init (startSeq : SeqNo) : TCPMsgBasedRcvQueue := ⟨TCPVirtualDataRcvQueue.init startSeq, []⟩

/-- The assertion of `insertBytesFromSegment` on the ends of the payload list. -/
def endsInOrder (payloadList : List TCPPayloadMessage) : Bool :=
  match payloadList.head?, payloadList.getLast? with
  | some front, some back => seqLE front.endSequenceNo back.endSequenceNo
  | _, _ => true

/-- The loop of `insertBytesFromSegment` over the messages of the segment.  `before` are the items
of the payload list before the iterator, `items` those from it on. -/
def insertPayloads : List TCPPayloadMessage → List TCPPayloadMessage → List TCPPayloadMessage →
    Except Fault (List TCPPayloadMessage)
  | [], before, items => .ok (before ++ items)
  | msg :: msgs, before, items =>
    let skipped := items.takeWhile fun i => seqLess i.endSequenceNo msg.endSequenceNo
    let items := items.dropWhile fun i => seqLess i.endSequenceNo msg.endSequenceNo
    if items.head?.map TCPPayloadMessage.endSequenceNo = some msg.endSequenceNo then
      insertPayloads msgs (before ++ skipped) items
    else if endsInOrder (before ++ skipped ++ msg :: items) then
      insertPayloads msgs (before ++ skipped) (msg :: items)
    else .error .payloadOrder

/-- `insertBytesFromSegment`. -/
def insertBytesFromSegment (q : TCPMsgBasedRcvQueue) (tcpseg : TCPSegment) :
    Except Fault (SeqNo × TCPMsgBasedRcvQueue) := do
  let (_, base) ← q.base.insertBytesFromSegment tcpseg
  let payloadList ← insertPayloads tcpseg.payloadList [] q.payloadList
  pure (base.rcvNxt, ⟨base, payloadList⟩)

/-- `extractBytesUpTo`. -/
def extractBytesUpTo (q : TCPMsgBasedRcvQueue) (seq : SeqNo) :
    Except Fault (Option CPacket × TCPMsgBasedRcvQueue) := do
  let seq := match q.payloadList with
    | front :: _ => if seqLess front.endSequenceNo seq then front.endSequenceNo else seq
    | [] => seq
  let (reg, base) ← q.base.extractTo seq
  match reg, q.payloadList with
  | some reg, front :: rest =>
    if front.endSequenceNo = reg.getEnd then pure (some front.msg, ⟨base, rest⟩)
    else pure (none, { q with base })
  | _, _ => pure (none, { q with base })

end TCPMsgBasedRcvQueue

/-! ### Message boundaries -/

/-- The messages of a list, each with the offset in the stream that follows its last octet, when
the first of them starts at offset `base`. -/
def marks : ℕ → List CPacket → List (ℕ × CPacket)
  | _, [] => []
  | base, m :: ms => (base + m.byteLength, m) :: marks (base + m.byteLength) ms

/-- The number of octets of a list of messages. -/
def totalLength (ms : List CPacket) : ℕ := (ms.map CPacket.byteLength).sum

section Marks

variable {base : ℕ} {ms : List CPacket}

theorem marks_append (base : ℕ) (ms : List CPacket) (m : CPacket) :
    marks base (ms ++ [m]) = marks base ms ++ [(base + totalLength ms + m.byteLength, m)] := by
  induction ms generalizing base with
  | nil => simp [marks, totalLength]
  | cons a ms ih => simp [marks, ih, totalLength, Nat.add_assoc]

@[simp] theorem map_snd_marks (base : ℕ) (ms : List CPacket) : (marks base ms).map Prod.snd = ms := by
  induction ms generalizing base with
  | nil => rfl
  | cons a ms ih => simp [marks, ih]

variable {x : ℕ × CPacket}

theorem le_of_mem_marks (hx : x ∈ marks base ms) : x.1 ≤ base + totalLength ms := by
  induction ms generalizing base with
  | nil => cases hx
  | cons a ms ih =>
    rcases mem_cons.1 hx with rfl | hx
    · simp [totalLength]
    · have := ih hx
      simp only [totalLength, map_cons, sum_cons] at this ⊢
      omega

theorem lt_of_mem_marks (hpos : ∀ m ∈ ms, 0 < m.byteLength) (hx : x ∈ marks base ms) :
    base < x.1 := by
  induction ms generalizing base with
  | nil => cases hx
  | cons a ms ih =>
    have ha := hpos a mem_cons_self
    rcases mem_cons.1 hx with rfl | hx
    · dsimp only
      omega
    · have := ih (fun m hm => hpos m (mem_cons_of_mem _ hm)) hx
      omega

/-- Messages of positive length end at different offsets, in ascending order. -/
theorem pairwise_marks (base : ℕ) (hpos : ∀ m ∈ ms, 0 < m.byteLength) :
    (marks base ms).Pairwise fun x y => x.1 < y.1 := by
  induction ms generalizing base with
  | nil => exact .nil
  | cons a ms ih =>
    have hpos' : ∀ m ∈ ms, 0 < m.byteLength := fun m hm => hpos m (mem_cons_of_mem _ hm)
    exact pairwise_cons.2 ⟨fun x hx => lt_of_mem_marks hpos' hx, ih _ hpos'⟩

end Marks

/-- The entry that a message with the given mark has in a payload list, when the stream starts at
position `p₀`. -/
def item (p₀ : ℤ) (x : ℕ × CPacket) : TCPPayloadMessage := ⟨pos (p₀ + x.1), x.2⟩

section Items

variable {p₀ : ℤ} {M : List (ℕ × CPacket)}

theorem mono_le (hM : M.Pairwise fun x y => x.1 < y.1) (a : ℕ) :
    Mono (fun x : ℕ × CPacket => decide (x.1 ≤ a)) M :=
  hM.imp fun {x y} h hy => by
    simp only [decide_eq_true_eq] at hy ⊢
    omega

theorem not_decide_le (a : ℕ) (M : List (ℕ × CPacket)) :
    (M.filter fun x => !decide (x.1 ≤ a)) = M.filter fun x => decide (a < x.1) :=
  filter_congr fun x _ => by
    rw [← decide_not, decide_eq_decide]
    omega

/-- The payload list of a segment that carries the octets `[a, a + n)`, after its truncation to
`[a', b')`. -/
theorem dropPayload_items (hM : M.Pairwise fun x y => x.1 < y.1) {a n a' b' : ℕ}
    (hin : ∀ x ∈ M, a < x.1 ∧ x.1 ≤ a + n) (hn : n < 2 ^ 31) (haa : a ≤ a') (hab : a' ≤ b') :
    dropPayloadRight (pos (p₀ + a')) (b' - a')
        (dropPayloadLeft (pos (p₀ + a)) (a' - a) (M.map (item p₀))) =
      (M.filter fun x => a' < x.1 ∧ x.1 ≤ b').map (item p₀) := by
  have hleft : dropPayloadLeft (pos (p₀ + a)) (a' - a) (M.map (item p₀)) =
      (M.filter fun x => decide (a' < x.1)).map (item p₀) := by
    rw [← not_decide_le]
    refine dropWhile_map (mono_le hM a') fun x hx => ?_
    have := hin x hx
    rw [item, dist_pos (by omega) (by omega), decide_eq_decide]
    omega
  rw [hleft, dropPayloadRight,
    reverse_dropWhile_map (mono_le (hM.filter _) b') fun x hx => ?_, filter_filter]
  · congr 1
    refine filter_congr fun x _ => ?_
    rw [Bool.and_comm, decide_and]
  · rw [mem_filter, decide_eq_true_eq] at hx
    have := hin x hx.1
    rw [item, dist_pos (by omega) (by omega), ← decide_not, decide_eq_decide]
    omega

end Items

namespace TCPMsgBasedRcvQueue

variable {p₀ : ℤ} {M : List (ℕ × CPacket)}

/-- The ends of a sorted list of near items are in order. -/
theorem endsInOrder_map (hM : M.Pairwise fun x y => x.1 < y.1)
    (hnear : ∀ x ∈ M, ∀ y ∈ M, y.1 < x.1 + 2 ^ 31) : endsInOrder (M.map (item p₀)) = true := by
  cases M with
  | nil => rfl
  | cons x M =>
    have hlast := getLast_mem (cons_ne_nil x M)
    have hle : x.1 ≤ ((x :: M).getLast (by simp)).1 := by
      rcases mem_cons.1 hlast with h | h
      · rw [h]
      · exact ((pairwise_cons.1 hM).1 _ h).le
    have hlt := hnear x mem_cons_self _ hlast
    rw [endsInOrder, getLast?_map, getLast?_eq_some_getLast (cons_ne_nil x M)]
    simp only [map_cons, head?_cons, Option.map_some, item]
    rw [seqLE_pos (by omega) (by omega)]
    simpa using hle

/-- Inserting the messages of a segment (`Q`) into the payload list (`P`), both taken from the
sorted list `M` of all messages.  The messages `pre` have been passed, the iterator stands before
those in `stale`, which also come before `M`. -/
theorem insertPayloads_eq (p₀ : ℤ) {P Q : ℕ × CPacket → Bool} (pre stale : List (ℕ × CPacket))
    (hM : (pre ++ stale ++ M).Pairwise fun x y => x.1 < y.1)
    (hnear : ∀ x ∈ pre ++ stale ++ M.filter fun x => P x || Q x,
      ∀ y ∈ pre ++ stale ++ M.filter fun x => P x || Q x, y.1 < x.1 + 2 ^ 31) :
    insertPayloads ((M.filter Q).map (item p₀)) (pre.map (item p₀))
        ((stale ++ M.filter P).map (item p₀)) =
      .ok ((pre ++ stale ++ M.filter fun x => P x || Q x).map (item p₀)) := by
  induction M generalizing pre stale with
  | nil => simp [insertPayloads]
  | cons m M ih =>
    cases hQ : Q m with
    | false =>
      rw [filter_cons_of_neg (by simp [hQ])]
      cases hP : P m with
      | false =>
        rw [filter_cons_of_neg (by simp [hP]), filter_cons_of_neg (by simp [hP, hQ])]
        rw [filter_cons_of_neg (by simp [hP, hQ])] at hnear
        refine ih pre stale (hM.sublist ?_) hnear
        simp
      | true =>
        rw [filter_cons_of_pos (by simp [hP]), filter_cons_of_pos (by simp [hP])]
        rw [filter_cons_of_pos (by simp [hP])] at hnear
        have := ih pre (stale ++ [m]) (by simpa using hM) (by simpa using hnear)
        simpa using this
    | true =>
      rw [filter_cons_of_pos (p := Q) (by simp [hQ]),
        filter_cons_of_pos (p := fun x => P x || Q x) (by simp [hQ])]
      rw [filter_cons_of_pos (by simp [hQ])] at hnear
      have hlow : ∀ x ∈ stale, x.1 < m.1 := fun x hx =>
        (pairwise_append.1 hM).2.2 x (mem_append_right _ hx) m mem_cons_self
      have hhigh : ∀ x ∈ M, m.1 < x.1 := (pairwise_cons.1 (pairwise_append.1 hM).2.1).1
      have hF : ∀ x ∈ (m :: M).filter P, m.1 ≤ x.1 ∧
          x ∈ m :: M.filter fun x => P x || Q x := by
        intro x hx
        rw [mem_filter] at hx
        rcases mem_cons.1 hx.1 with rfl | hxM
        · exact ⟨le_rfl, mem_cons_self⟩
        · exact ⟨(hhigh x hxM).le, mem_cons_of_mem _ (by simp [hxM, hx.2])⟩
      -- the walk passes the items in `stale` and stops at `m` or at the first item after it
      have hmono : Mono (fun x : ℕ × CPacket => decide (x.1 < m.1))
          (stale ++ (m :: M).filter P) := by
        have hsub : (stale ++ (m :: M).filter P).Pairwise fun x y => x.1 < y.1 := hM.sublist <| by
          rw [append_assoc]
          exact ((List.Sublist.refl _).append filter_sublist).trans (sublist_append_right _ _)
        refine hsub.imp fun {x y} h hy => ?_
        simp only [decide_eq_true_eq] at hy ⊢
        omega
      have hcmp : ∀ x ∈ stale ++ (m :: M).filter P,
          seqLess (item p₀ x).endSequenceNo (item p₀ m).endSequenceNo = decide (x.1 < m.1) := by
        intro x hx
        have hx' : x ∈ pre ++ stale ++ m :: M.filter fun x => P x || Q x := by
          rcases mem_append.1 hx with hx | hx
          · simp [hx]
          · exact mem_append_right _ (hF x hx).2
        have hm' : m ∈ pre ++ stale ++ m :: M.filter fun x => P x || Q x := by simp
        have h1 := hnear x hx' m hm'
        have h2 := hnear m hm' x hx'
        rw [item, item, seqLess_pos (by omega) (by omega), decide_eq_decide]
        omega
      have hskip : ((stale ++ (m :: M).filter P).map (item p₀)).takeWhile
          (fun i => seqLess i.endSequenceNo (item p₀ m).endSequenceNo) = stale.map (item p₀) := by
        rw [takeWhile_map hmono hcmp, filter_append,
          filter_eq_self.2 (fun x hx => by simpa using hlow x hx),
          filter_eq_nil_iff.2 (fun x hx => by simpa using (hF x hx).1), append_nil]
      have hrest : ((stale ++ (m :: M).filter P).map (item p₀)).dropWhile
          (fun i => seqLess i.endSequenceNo (item p₀ m).endSequenceNo) =
          ((m :: M).filter P).map (item p₀) := by
        rw [dropWhile_map hmono hcmp, filter_append,
          filter_eq_nil_iff.2 (fun x hx => by simpa using hlow x hx),
          filter_eq_self.2 (fun x hx => by simpa using (hF x hx).1), nil_append]
      rw [map_cons, insertPayloads, hskip, hrest, ← map_append]
      have hih := ih (pre ++ stale) [m] (by simpa using hM) (by simpa using hnear)
      simp only [append_assoc, singleton_append, map_cons] at hih ⊢
      cases hP : P m with
      | true =>
        rw [filter_cons_of_pos (by simp [hP]), if_pos (by simp), map_cons, hih]
      | false =>
        have hne : ((M.filter P).map (item p₀)).head?.map TCPPayloadMessage.endSequenceNo ≠
            some (item p₀ m).endSequenceNo := by
          rw [head?_map, Option.map_map, Ne, Option.map_eq_some_iff]
          rintro ⟨x, hx, heq⟩
          have hxF := mem_of_mem_head? hx
          have hxM := (mem_filter.1 hxF).1
          have hx' := (hF x (by simp [hxF, hP])).2
          have h1 := hnear m (by simp) x (mem_append_right _ hx')
          have h2 := hhigh x hxM
          rw [Function.comp_apply, item, item, pos_inj (by omega) (by omega)] at heq
          omega
        have hends : endsInOrder ((pre ++ (stale ++ m :: M.filter P)).map (item p₀)) = true := by
          have hsub : (pre ++ (stale ++ m :: M.filter P)).Sublist (pre ++ stale ++ m :: M) := by
            rw [append_assoc]
            exact (List.Sublist.refl _).append
              ((List.Sublist.refl _).append (List.Sublist.cons_cons m filter_sublist))
          have hmem : ∀ x ∈ pre ++ (stale ++ m :: M.filter P),
              x ∈ pre ++ stale ++ m :: M.filter fun x => P x || Q x := by
            intro x hx
            simp only [mem_append, mem_cons, mem_filter, or_eq_true] at hx ⊢
            tauto
          exact endsInOrder_map (hM.sublist hsub) fun x hx y hy => hnear x (hmem x hx) y (hmem y hy)
        rw [filter_cons_of_neg (by simp [hP]), if_neg hne, if_pos (by simpa using hends), hih]

end TCPMsgBasedRcvQueue

/-! ### Messages end to end -/

/-- A sender, a network and a receiver. -/
structure MsgTransfer where
  sendQueue : TCPMsgBasedSendQueue
  /-- The segments made so far, each with the offset in the stream of its first octet; the network
  may deliver any of them at any time, any number of times. -/
  wire : List (ℕ × TCPSegment)
  rcvQueue : TCPMsgBasedRcvQueue
  /-- The messages that the application has sent. -/
  sent : List CPacket
  /-- The messages that have been delivered. -/
  delivered : List CPacket
  /-- `rcv_nxt`, counted from the start of the stream and without wrap-around. -/
  rcvNxtOffset : ℕ
  /-- The ranges of octets that have arrived within the receive window. -/
  arrived : List (ℕ × ℕ)
  deriving DecidableEq

namespace MsgTransfer

/-- The sequence number of the octet at offset `k`. -/
def seqNo (p₀ : ℤ) (k : ℕ) : SeqNo := pos (p₀ + k)

/-- Nothing has been sent; the stream starts at position `p₀`. -/
def init (p₀ : ℤ) : MsgTransfer :=
  ⟨TCPMsgBasedSendQueue.init (seqNo p₀ 0), [], TCPMsgBasedRcvQueue.init (seqNo p₀ 0), [], [], 0, []⟩

/-- What the applications, the two TCPs and the network may do. -/
inductive Action
  /-- The application sends a message. -/
  | enqueueAppData (msg : CPacket)
  /-- The sender makes a segment of the octets from `offset` on. -/
  | createSegmentWithBytes (offset numBytes : ℕ)
  /-- The sender learns that the octets before `offset` have arrived. -/
  | discardUpTo (offset : ℕ)
  /-- The `k`-th segment on the wire arrives while the receive window is `wnd` octets. -/
  | arrive (k wnd : ℕ)
  /-- The receiver hands up octets before `offset`. -/
  | extractBytesUpTo (offset : ℕ)
  deriving DecidableEq

/-- The effect of an action. -/
def step (p₀ : ℤ) (s : MsgTransfer) : Action → Except Fault MsgTransfer
  | .enqueueAppData msg => do
    let sendQueue ← s.sendQueue.enqueueAppData msg
    pure { s with sendQueue, sent := s.sent ++ [msg] }
  | .createSegmentWithBytes offset numBytes => do
    let tcpseg ← s.sendQueue.createSegmentWithBytes (seqNo p₀ offset) numBytes
    pure { s with wire := s.wire ++ [(offset, tcpseg)] }
  | .discardUpTo offset => do
    let sendQueue ← s.sendQueue.discardUpTo (seqNo p₀ offset)
    pure { s with sendQueue }
  | .arrive k wnd =>
    match s.wire[k]? with
    | none => pure s
    | some (offset, tcpseg) => do
      let rcvNxt := s.rcvQueue.base.rcvNxt
      let truncated ← tcpseg.truncateSegment rcvNxt (rcvNxt + BitVec.ofNat 32 wnd)
      let (rcvNxt', rcvQueue) ← s.rcvQueue.insertBytesFromSegment truncated
      let first := offset + (truncated.sequenceNo - tcpseg.sequenceNo).toNat
      pure { s with
        rcvQueue
        rcvNxtOffset := s.rcvNxtOffset + (rcvNxt' - rcvNxt).toNat
        arrived := (first, first + truncated.payloadLength) :: s.arrived }
  | .extractBytesUpTo offset => do
    let (msg, rcvQueue) ← s.rcvQueue.extractBytesUpTo (seqNo p₀ offset)
    pure { s with rcvQueue, delivered := s.delivered ++ msg.toList }

/-- The number of octets in the send queue. -/
def buffered (s : MsgTransfer) : ℕ := (s.sendQueue.endSeq - s.sendQueue.beginSeq).toNat

/-- The actions of a transfer: messages have a length, segments and acknowledgements cover octets
of the send queue, the receive window is open, and octets are handed up after they have arrived. -/
def Valid (s : MsgTransfer) : Action → Prop
  | .enqueueAppData msg => 0 < msg.byteLength
  | .createSegmentWithBytes offset numBytes => 0 < numBytes ∧
      totalLength s.sent - s.buffered ≤ offset ∧ offset + numBytes ≤ totalLength s.sent
  | .discardUpTo offset => totalLength s.sent - s.buffered ≤ offset ∧ offset ≤ totalLength s.sent
  | .arrive _ wnd => 0 < wnd
  | .extractBytesUpTo offset => offset ≤ s.rcvNxtOffset

/-- No two sequence numbers that an action compares are half of the sequence space apart or more:
the send queue stays below this size, and a segment that arrives lies near to the receive window. -/
def Near (s : MsgTransfer) : Action → Prop
  | .enqueueAppData msg => s.buffered + msg.byteLength < 2 ^ 31
  | .createSegmentWithBytes _ _ => True
  | .discardUpTo _ => True
  | .arrive k wnd => ∀ x ∈ s.wire[k]?, s.rcvNxtOffset + wnd < x.1 + 2 ^ 31 ∧
      x.1 + x.2.payloadLength < s.rcvNxtOffset + 2 ^ 31
  | .extractBytesUpTo offset => s.rcvNxtOffset < offset + 2 ^ 31 ∧
      ∀ r ∈ s.arrived, r.2 ≤ offset + 2 ^ 31

instance (s : MsgTransfer) : (act : Action) → Decidable (s.Valid act)
  | .enqueueAppData msg => inferInstanceAs (Decidable (0 < msg.byteLength))
  | .createSegmentWithBytes offset numBytes => inferInstanceAs (Decidable (0 < numBytes ∧
      totalLength s.sent - s.buffered ≤ offset ∧ offset + numBytes ≤ totalLength s.sent))
  | .discardUpTo offset => inferInstanceAs
      (Decidable (totalLength s.sent - s.buffered ≤ offset ∧ offset ≤ totalLength s.sent))
  | .arrive _ wnd => inferInstanceAs (Decidable (0 < wnd))
  | .extractBytesUpTo offset => inferInstanceAs (Decidable (offset ≤ s.rcvNxtOffset))

instance (s : MsgTransfer) : (act : Action) → Decidable (s.Near act)
  | .enqueueAppData msg => inferInstanceAs (Decidable (s.buffered + msg.byteLength < 2 ^ 31))
  | .createSegmentWithBytes _ _ => inferInstanceAs (Decidable True)
  | .discardUpTo _ => inferInstanceAs (Decidable True)
  | .arrive k wnd => inferInstanceAs (Decidable (∀ x ∈ s.wire[k]?,
      s.rcvNxtOffset + wnd < x.1 + 2 ^ 31 ∧ x.1 + x.2.payloadLength < s.rcvNxtOffset + 2 ^ 31))
  | .extractBytesUpTo offset => inferInstanceAs (Decidable (s.rcvNxtOffset < offset + 2 ^ 31 ∧
      ∀ r ∈ s.arrived, r.2 ≤ offset + 2 ^ 31))

/-- The octet at offset `k` has arrived. -/
def covered (arrived : List (ℕ × ℕ)) (k : ℕ) : Bool :=
  arrived.any fun r => decide (r.1 ≤ k) && decide (k < r.2)

/-- The positions of the octets that have arrived and are not handed up, when the first `H` octets
of the stream are. -/
def stored (p₀ : ℤ) (H : ℕ) (arrived : List (ℕ × ℕ)) : Set ℤ :=
  {x | ∃ k : ℕ, x = p₀ + k ∧ H ≤ k ∧ covered arrived k = true}

/-- The payload list that belongs to the messages with a property. -/
def items (p₀ : ℤ) (sent : List CPacket) (P : ℕ → Bool) : List TCPPayloadMessage :=
  ((marks 0 sent).filter fun x => P x.1).map (item p₀)

/-- A segment on the wire carries octets of the stream and the messages that end among them. -/
structure OnWire (p₀ : ℤ) (sent : List CPacket) (offset : ℕ) (seg : TCPSegment) : Prop where
  sequenceNo_eq : seg.sequenceNo = seqNo p₀ offset
  nonempty : 0 < seg.payloadLength
  lt : seg.payloadLength < 2 ^ 31
  le : offset + seg.payloadLength ≤ totalLength sent
  byteArray_eq : seg.byteArray = []
  payloadList_eq : seg.payloadList =
    items p₀ sent fun E => decide (offset < E ∧ E ≤ offset + seg.payloadLength)

/-- What the sender knows: the first `B` octets of the stream are acknowledged. -/
structure SenderInv (p₀ : ℤ) (q : TCPMsgBasedSendQueue) (sent : List CPacket) (B : ℕ) : Prop where
  le : B ≤ totalLength sent
  lt : totalLength sent < B + 2 ^ 31
  beginSeq_eq : q.beginSeq = seqNo p₀ B
  endSeq_eq : q.endSeq = seqNo p₀ (totalLength sent)
  payloadQueue_eq : q.payloadQueue = items p₀ sent fun E => decide (B < E)

/-- What the receiver knows: the first `H` octets of the stream are handed up. -/
structure ReceiverInv (p₀ : ℤ) (s : MsgTransfer) (H : ℕ) : Prop where
  base : RcvInv spec s.rcvQueue.base (p₀ + H) (p₀ + s.rcvNxtOffset)
    (stored p₀ H s.arrived)
  payloadList_eq : s.rcvQueue.payloadList =
    items p₀ s.sent fun E => decide (H < E) && covered s.arrived (E - 1)
  delivered_eq : s.delivered = ((marks 0 s.sent).filter fun x => decide (x.1 ≤ H)).map Prod.snd
  below : ∀ k < H, covered s.arrived k = true
  arrived_le : ∀ r ∈ s.arrived, r.2 ≤ totalLength s.sent

/-- The invariant of a transfer. -/
structure Inv (p₀ : ℤ) (s : MsgTransfer) : Prop where
  byteLength_pos : ∀ m ∈ s.sent, 0 < m.byteLength
  sender : ∃ B, SenderInv p₀ s.sendQueue s.sent B
  wire : ∀ x ∈ s.wire, OnWire p₀ s.sent x.1 x.2
  receiver : ∃ H, ReceiverInv p₀ s H

section Items

variable {p₀ : ℤ} {sent : List CPacket} {P Q : ℕ → Bool}

theorem items_congr (h : ∀ x ∈ marks 0 sent, P x.1 = Q x.1) : items p₀ sent P = items p₀ sent Q :=
  congrArg (List.map (item p₀)) (filter_congr h)

/-- A message that is sent later changes nothing unless its own end is asked for. -/
theorem items_append {m : CPacket} (h : P (totalLength sent + m.byteLength) = false) :
    items p₀ (sent ++ [m]) P = items p₀ sent P := by
  rw [items, marks_append, filter_append, Nat.zero_add, filter_cons_of_neg (by simp [h]),
    filter_nil, append_nil, items]

/-- Dropping the messages that end at or before `a`. -/
theorem dropWhile_items (hpos : ∀ m ∈ sent, 0 < m.byteLength) {a : ℕ}
    (hnear : ∀ x ∈ marks 0 sent, P x.1 = true → a < x.1 + 2 ^ 31 ∧ x.1 ≤ a + 2 ^ 31) :
    (items p₀ sent P).dropWhile (fun i => seqLE i.endSequenceNo (seqNo p₀ a)) =
      items p₀ sent fun E => P E && decide (a < E) := by
  rw [items, dropWhile_map (mono_le ((pairwise_marks 0 hpos).filter _) a),
    not_decide_le, filter_filter]
  · rw [items]
    congr 1
    exact filter_congr fun x _ => Bool.and_comm _ _
  · intro x hx
    rw [mem_filter] at hx
    have := hnear x hx.1 hx.2
    rw [item, seqNo, seqLE_pos (by omega) (by omega), decide_eq_decide]
    omega

/-- Keeping the messages that end at or before `a`. -/
theorem takeWhile_items (hpos : ∀ m ∈ sent, 0 < m.byteLength) {a : ℕ}
    (hnear : ∀ x ∈ marks 0 sent, P x.1 = true → a < x.1 + 2 ^ 31 ∧ x.1 ≤ a + 2 ^ 31) :
    (items p₀ sent P).takeWhile (fun i => seqLE i.endSequenceNo (seqNo p₀ a)) =
      items p₀ sent fun E => P E && decide (E ≤ a) := by
  rw [items, takeWhile_map (mono_le ((pairwise_marks 0 hpos).filter _) a), filter_filter]
  · rw [items]
    congr 1
    exact filter_congr fun x _ => Bool.and_comm _ _
  · intro x hx
    rw [mem_filter] at hx
    have := hnear x hx.1 hx.2
    rw [item, seqNo, seqLE_pos (by omega) (by omega), decide_eq_decide]
    omega

end Items

variable {p₀ : ℤ} {s s' : MsgTransfer}

theorem totalLength_append (sent : List CPacket) (m : CPacket) :
    totalLength (sent ++ [m]) = totalLength sent + m.byteLength := by
  simp [totalLength]

theorem SenderInv.buffered {B : ℕ} (h : SenderInv p₀ s.sendQueue s.sent B) :
    s.buffered = totalLength s.sent - B := by
  have hle := h.le
  have hlt := h.lt
  rw [MsgTransfer.buffered, h.beginSeq_eq, h.endSeq_eq, seqNo, seqNo,
    dist_pos (by omega) (by omega)]
  omega

variable {m : CPacket} {seg : TCPSegment} {offset : ℕ}

theorem OnWire.append (h : OnWire p₀ s.sent offset seg) (hm : 0 < m.byteLength) :
    OnWire p₀ (s.sent ++ [m]) offset seg := by
  have hle := h.le
  refine ⟨h.sequenceNo_eq, h.nonempty, h.lt, ?_, h.byteArray_eq, ?_⟩
  · rw [totalLength_append]
    omega
  · rw [h.payloadList_eq, items_append]
    simp only [decide_eq_false_iff_not]
    omega

theorem covered_lt {arrived : List (ℕ × ℕ)} {T k : ℕ} (h : ∀ r ∈ arrived, r.2 ≤ T)
    (hk : covered arrived k = true) : k < T := by
  rw [covered, any_eq_true] at hk
  obtain ⟨r, hr, hk⟩ := hk
  rw [and_eq_true, decide_eq_true_eq, decide_eq_true_eq] at hk
  have := h r hr
  omega

/-- All octets before `rcv_nxt` have been sent. -/
theorem ReceiverInv.rcvNxtOffset_le {H : ℕ} (h : ReceiverInv p₀ s H) :
    H ≤ s.rcvNxtOffset ∧ s.rcvNxtOffset ≤ totalLength s.sent := by
  have hle := h.base.le
  refine ⟨by omega, ?_⟩
  by_contra hcon
  have hcov : covered s.arrived (s.rcvNxtOffset - 1) = true := by
    by_cases hH : s.rcvNxtOffset - 1 < H
    · exact h.below _ hH
    · -- it is stored
      obtain ⟨k, hk, -, hcov⟩ := h.base.full
        (show p₀ + ((s.rcvNxtOffset - 1 : ℕ) : ℤ) ∈ Set.Ico _ _ from ⟨by omega, by omega⟩)
      rwa [show s.rcvNxtOffset - 1 = k by omega]
  have := covered_lt h.arrived_le hcov
  omega

theorem Inv.enqueueAppData (h : Inv p₀ s) {msg : CPacket} (hv : s.Valid (.enqueueAppData msg))
    (hn : s.Near (.enqueueAppData msg)) (hs : s.step p₀ (.enqueueAppData msg) = .ok s') :
    Inv p₀ s' := by
  obtain ⟨B, hB⟩ := h.sender
  obtain ⟨H, hH⟩ := h.receiver
  have hle := hB.le
  have hlt := hB.lt
  have hnxt := hH.rcvNxtOffset_le
  have hmsg : 0 < msg.byteLength := hv
  change s.buffered + msg.byteLength < 2 ^ 31 at hn
  rw [hB.buffered] at hn
  have hend : s.sendQueue.endSeq + BitVec.ofNat 32 msg.byteLength =
      seqNo p₀ (totalLength s.sent + msg.byteLength) := by
    rw [hB.endSeq_eq, seqNo, seqNo, Serial.wrap_add_ofNat, Nat.cast_add, add_assoc]
  have hfull : seqLess (seqNo p₀ (totalLength s.sent + msg.byteLength)) s.sendQueue.beginSeq =
      false := by
    rw [hB.beginSeq_eq, seqNo, seqNo, seqLess_pos (by omega) (by omega)]
    simp only [decide_eq_false_iff_not]
    omega
  simp only [step, TCPMsgBasedSendQueue.enqueueAppData, hend, hfull, false_eq_true, if_false,
    ok_bind, pure_eq_ok, Except.ok.injEq] at hs
  subst hs
  refine ⟨?_, ⟨B, ⟨?_, ?_, hB.beginSeq_eq, ?_, ?_⟩⟩, ?_, ⟨H, hH.base, ?_, ?_, hH.below, ?_⟩⟩
  · intro m hm
    rcases mem_append.1 hm with hm | hm
    · exact h.byteLength_pos m hm
    · rw [mem_singleton] at hm
      exact hm ▸ hmsg
  · rw [totalLength_append]
    omega
  · rw [totalLength_append]
    omega
  · rw [totalLength_append]
  · rw [hB.payloadQueue_eq, items, items, marks_append, filter_append, map_append,
      Nat.zero_add, filter_cons_of_pos (by simp; omega)]
    rfl
  · exact fun x hx => (h.wire x hx).append hmsg
  · rw [hH.payloadList_eq, items_append]
    rw [and_eq_false_iff]
    right
    rw [← not_eq_true]
    intro hcov
    have := covered_lt hH.arrived_le hcov
    omega
  · rw [hH.delivered_eq, marks_append, filter_append,
      filter_cons_of_neg (by simp only [decide_eq_true_eq]; omega)]
    simp
  · intro r hr
    rw [totalLength_append]
    have := hH.arrived_le r hr
    omega

theorem Inv.createSegmentWithBytes (h : Inv p₀ s) {offset numBytes : ℕ}
    (hv : s.Valid (.createSegmentWithBytes offset numBytes))
    (hs : s.step p₀ (.createSegmentWithBytes offset numBytes) = .ok s') : Inv p₀ s' := by
  obtain ⟨B, hB⟩ := h.sender
  have hle := hB.le
  have hlt := hB.lt
  obtain ⟨hpos, hfrom, hto⟩ := hv
  rw [hB.buffered] at hfrom
  have hend : seqNo p₀ offset + BitVec.ofNat 32 numBytes = seqNo p₀ (offset + numBytes) := by
    rw [seqNo, seqNo, Serial.wrap_add_ofNat, Nat.cast_add, add_assoc]
  have hguard : (seqLE s.sendQueue.beginSeq (seqNo p₀ offset) &&
      seqLE (seqNo p₀ (offset + numBytes)) s.sendQueue.endSeq) = true := by
    rw [hB.beginSeq_eq, hB.endSeq_eq, seqNo, seqNo, seqNo, seqNo, seqLE_pos (by omega) (by omega),
      seqLE_pos (by omega) (by omega)]
    simp only [and_eq_true, decide_eq_true_eq]
    omega
  have hmarks : ∀ x ∈ marks 0 s.sent, x.1 ≤ totalLength s.sent := fun x hx => by
    simpa using le_of_mem_marks hx
  simp only [step, TCPMsgBasedSendQueue.createSegmentWithBytes, hend, hguard, if_true,
    ok_bind, pure_eq_ok, Except.ok.injEq] at hs
  subst hs
  obtain ⟨H, hH⟩ := h.receiver
  refine ⟨h.byteLength_pos, ⟨B, hB⟩, fun x hx => ?_, H, hH.1, hH.2, hH.3, hH.4, hH.5⟩
  rcases mem_append.1 hx with hx | hx
  · exact h.wire x hx
  · rw [mem_singleton] at hx
    subst hx
    refine ⟨rfl, hpos, by dsimp only; omega, hto, rfl, ?_⟩
    dsimp only
    rw [hB.payloadQueue_eq, dropWhile_items h.byteLength_pos, takeWhile_items h.byteLength_pos]
    · refine items_congr fun x _ => ?_
      rw [← decide_and, ← decide_and, decide_eq_decide]
      omega
    · intro x hx hP
      have := hmarks x hx
      rw [← decide_and, decide_eq_true_eq] at hP
      omega
    · intro x hx hP
      have := hmarks x hx
      rw [decide_eq_true_eq] at hP
      omega

theorem Inv.discardUpTo (h : Inv p₀ s) (hv : s.Valid (.discardUpTo offset))
    (hs : s.step p₀ (.discardUpTo offset) = .ok s') : Inv p₀ s' := by
  obtain ⟨B, hB⟩ := h.sender
  have hle := hB.le
  have hlt := hB.lt
  obtain ⟨hfrom, hto⟩ := hv
  rw [hB.buffered] at hfrom
  have hguard : (seqLE s.sendQueue.beginSeq (seqNo p₀ offset) &&
      seqLE (seqNo p₀ offset) s.sendQueue.endSeq) = true := by
    rw [hB.beginSeq_eq, hB.endSeq_eq, seqNo, seqNo, seqNo, seqLE_pos (by omega) (by omega),
      seqLE_pos (by omega) (by omega)]
    simp only [and_eq_true, decide_eq_true_eq]
    omega
  simp only [step, TCPMsgBasedSendQueue.discardUpTo, hguard, if_true, ok_bind,
    pure_eq_ok, Except.ok.injEq] at hs
  subst hs
  obtain ⟨H, hH⟩ := h.receiver
  refine ⟨h.byteLength_pos, ⟨offset, hto, by dsimp only; omega, rfl, hB.endSeq_eq, ?_⟩, h.wire,
    H, hH.1, hH.2, hH.3, hH.4, hH.5⟩
  dsimp only
  rw [hB.payloadQueue_eq, dropWhile_items h.byteLength_pos]
  · refine items_congr fun x _ => ?_
    rw [← decide_and, decide_eq_decide]
    omega
  · intro x hx hP
    have : x.1 ≤ totalLength s.sent := by simpa using le_of_mem_marks hx
    rw [decide_eq_true_eq] at hP
    omega

/-- A segment of the stream, truncated to the receive window. -/
theorem OnWire.truncate {offset wnd nxt : ℕ} {seg seg' : TCPSegment}
    (h : OnWire p₀ s.sent offset seg) (hpos : ∀ m ∈ s.sent, 0 < m.byteLength)
    (hwnd : 0 < wnd) (h1 : nxt + wnd < offset + 2 ^ 31) (h2 : offset + seg.payloadLength < nxt + 2 ^ 31)
    (hs : seg.truncateSegment (seqNo p₀ nxt) (seqNo p₀ (nxt + wnd)) = .ok seg') :
    ∃ a b, OnWire p₀ s.sent a seg' ∧ b = a + seg'.payloadLength ∧ offset ≤ a ∧ nxt ≤ a ∧
      b ≤ offset + seg.payloadLength := by
  have hne := h.nonempty
  have hlt := h.lt
  rw [seqNo, seqNo, truncateSegment_eq h.sequenceNo_eq h.nonempty (by omega)
    (by omega) (by omega)] at hs
  split_ifs at hs with hin
  obtain ⟨hin1, hin2⟩ := hin
  obtain ⟨a, ha⟩ : ∃ a, a = max offset nxt := ⟨_, rfl⟩
  obtain ⟨b, hb⟩ : ∃ b, b = min (offset + seg.payloadLength) (nxt + wnd) := ⟨_, rfl⟩
  have hleft : (max (p₀ + (offset : ℤ)) (p₀ + (nxt : ℤ)) - (p₀ + offset)).toNat = a - offset := by
    omega
  have hright : (p₀ + (offset : ℤ) + seg.payloadLength -
      min (p₀ + (offset : ℤ) + seg.payloadLength) (p₀ + ((nxt + wnd : ℕ) : ℤ))).toNat =
      offset + seg.payloadLength - b := by omega
  have hmod : (a - offset + (offset + seg.payloadLength - b)) % 2 ^ 32 =
      a - offset + (offset + seg.payloadLength - b) := Nat.mod_eq_of_lt (by omega)
  have hle : a - offset + (offset + seg.payloadLength - b) ≤ seg.payloadLength := by omega
  have hlen : seg.payloadLength - (a - offset + (offset + seg.payloadLength - b)) = b - a := by
    omega
  have hseq : seqNo p₀ offset + BitVec.ofNat 32 (a - offset) = seqNo p₀ a := by
    rw [seqNo, seqNo, Serial.wrap_add_ofNat]
    congr 1
    omega
  have hitems : dropPayloadRight (seqNo p₀ a) (b - a)
      (dropPayloadLeft (seqNo p₀ offset) (a - offset) seg.payloadList) =
      items p₀ s.sent fun E => decide (a < E ∧ E ≤ a + (b - a)) := by
    rw [h.payloadList_eq, items, seqNo, seqNo, dropPayload_items ((pairwise_marks 0 hpos).filter _)
      (n := seg.payloadLength) _ hlt (by omega) (by omega), filter_filter, items]
    · congr 1
      refine filter_congr fun x _ => ?_
      rw [← decide_and, decide_eq_decide]
      omega
    · intro x hx
      rw [mem_filter, decide_eq_true_eq] at hx
      exact hx.2
  rw [hleft, hright] at hs
  simp only [truncateData, hmod, hle, h.byteArray_eq, length_nil, h.sequenceNo_eq,
    hseq, hlen, hitems, not_true_eq_false, if_false, ne_eq, pure_eq_ok, ok_bind,
    Except.ok.injEq] at hs
  have hle' := h.le
  subst hs
  exact ⟨a, b, ⟨rfl, show 0 < b - a by omega, show b - a < 2 ^ 31 by omega,
    show a + (b - a) ≤ totalLength s.sent by omega, rfl, rfl⟩, show b = a + (b - a) by omega, by omega, by omega,
    by omega⟩

theorem stored_cons {H a n : ℕ} (hH : H ≤ a) (arrived : List (ℕ × ℕ)) :
    stored p₀ H ((a, a + n) :: arrived) = stored p₀ H arrived ∪ Set.Ico (p₀ + a) (p₀ + a + n) := by
  ext x
  simp only [stored, covered, any_cons, or_eq_true, and_eq_true, decide_eq_true_eq,
    Set.mem_ofPred_eq, Set.mem_union, Set.mem_Ico]
  constructor
  · rintro ⟨k, rfl, hk, h | h⟩
    · exact .inr ⟨by omega, by omega⟩
    · exact .inl ⟨k, rfl, hk, h⟩
  · rintro (⟨k, rfl, hk, h⟩ | ⟨h, h'⟩)
    · exact ⟨k, rfl, hk, .inr h⟩
    · exact ⟨(x - p₀).toNat, by omega, by omega, .inl ⟨by omega, by omega⟩⟩

variable {H a : ℕ}

/-- The receive queue takes in a segment of the stream. -/
theorem ReceiverInv.insert (h : ReceiverInv p₀ s H) (hpos : ∀ m ∈ s.sent, 0 < m.byteLength)
    (hseg : OnWire p₀ s.sent a seg) (ha : s.rcvNxtOffset ≤ a)
    (hnear : a + seg.payloadLength ≤ s.rcvNxtOffset + 2 ^ 31) {x : SeqNo × TCPMsgBasedRcvQueue}
    (hs : s.rcvQueue.insertBytesFromSegment seg = .ok x) :
    ReceiverInv p₀ { s with
      rcvQueue := x.2
      rcvNxtOffset := s.rcvNxtOffset + (x.1 - s.rcvQueue.base.rcvNxt).toNat
      arrived := (a, a + seg.payloadLength) :: s.arrived } H := by
  have hnxt := h.rcvNxtOffset_le
  have hne := hseg.nonempty
  have hregion : spec.Rep (createRegionFromSegment seg)
      (p₀ + a) (p₀ + a + seg.payloadLength) := by
    change createRegionFromSegment seg = _
    rw [createRegionFromSegment, endSeq, hseg.sequenceNo_eq, seqNo, Serial.wrap_add_ofNat]
  have hbase := h.base.insertBytesFromSegment_spec rfl hregion (by omega) (by omega) (by omega)
    fun _ _ _ _ _ _ => trivial
  rw [← stored_cons (by omega)] at hbase
  simp only [TCPMsgBasedRcvQueue.insertBytesFromSegment, bind_eq_ok, Prod.exists] at hs
  obtain ⟨ret, base, hins, list, hlist, hx⟩ := hs
  rcases hbase with herr | ⟨q', nxt', hok, hle, hinv⟩
  · rw [herr] at hins
    cases hins
  · rw [hok] at hins
    cases hins
    cases hx
    have hsub := hinv.rcvNxt_sub_le
    have hoff : p₀ + ((s.rcvNxtOffset + (base.rcvNxt - s.rcvQueue.base.rcvNxt).toNat : ℕ) : ℤ) =
        nxt' := by
      rw [hinv.rcvNxt, h.base.rcvNxt, dist_pos hle (by omega)]
      omega
    have hmerge := TCPMsgBasedRcvQueue.insertPayloads_eq p₀ (M := marks 0 s.sent)
      (P := fun x => decide (H < x.1) && covered s.arrived (x.1 - 1))
      (Q := fun x => decide (a < x.1 ∧ x.1 ≤ a + seg.payloadLength)) [] []
      (pairwise_marks 0 hpos) ?_
    · have hlists := hlist
      rw [hseg.payloadList_eq, h.payloadList_eq] at hlists
      have hout := hlists.symm.trans hmerge
      refine ⟨hoff ▸ hinv, ?_, h.delivered_eq, fun k hk => ?_, fun r hr => ?_⟩
      · rw [Except.ok.injEq] at hout
        refine hout.trans (congrArg (List.map (item p₀)) (filter_congr fun y _ => ?_))
        rw [Bool.eq_iff_iff]
        simp only [covered, any_cons, or_eq_true, and_eq_true, decide_eq_true_eq]
        constructor
        · rintro (⟨h1, h2⟩ | h1)
          · exact ⟨h1, .inr h2⟩
          · exact ⟨by omega, .inl (by omega)⟩
        · rintro ⟨h1, h2 | h2⟩
          · exact .inr (by omega)
          · exact .inl ⟨h1, h2⟩
      · have := h.below k hk
        simp only [covered, any_cons, or_eq_true] at this ⊢
        exact .inr this
      · rcases mem_cons.1 hr with rfl | hr
        · exact hseg.le
        · exact h.arrived_le r hr
    · -- any two messages of the new list end less than half of the sequence space apart
      have hmem : ∀ y ∈ (marks 0 s.sent).filter fun x => decide (H < x.1) &&
          covered s.arrived (x.1 - 1) || decide (a < x.1 ∧ x.1 ≤ a + seg.payloadLength),
          1 ≤ y.1 ∧ p₀ + ((y.1 - 1 : ℕ) : ℤ) ∈ stored p₀ H ((a, a + seg.payloadLength) :: s.arrived)
          := by
        intro y hy
        rw [mem_filter] at hy
        rw [stored_cons (by omega)]
        simp only [or_eq_true, and_eq_true, decide_eq_true_eq] at hy
        rcases hy.2 with ⟨h1, h2⟩ | h1
        · exact ⟨by omega, .inl ⟨y.1 - 1, rfl, by omega, h2⟩⟩
        · exact ⟨by omega, .inr ⟨by omega, by omega⟩⟩
      intro y hy z hz
      obtain ⟨hy1, hy⟩ := hmem y hy
      obtain ⟨hz1, hz⟩ := hmem z hz
      have := hinv.span _ hy _ hz
      omega

theorem Inv.arrive (h : Inv p₀ s) {k wnd : ℕ} (hv : s.Valid (.arrive k wnd))
    (hn : s.Near (.arrive k wnd)) (hs : s.step p₀ (.arrive k wnd) = .ok s') : Inv p₀ s' := by
  obtain ⟨H, hH⟩ := h.receiver
  simp only [step] at hs
  cases hk : s.wire[k]? with
  | none =>
    rw [hk] at hs
    cases hs
    exact h
  | some x =>
    obtain ⟨offset, seg⟩ := x
    rw [hk] at hs
    simp only [bind_eq_ok, Prod.exists, pure_eq_ok, Except.ok.injEq] at hs
    obtain ⟨truncated, htrunc, rcvNxt', rcvQueue, hins, rfl⟩ := hs
    obtain ⟨hn1, hn2⟩ := hn (offset, seg) hk
    dsimp only at hn1 hn2
    have hseg : OnWire p₀ s.sent offset seg := h.wire (offset, seg) (mem_of_getElem? hk)
    have hwnd : s.rcvQueue.base.rcvNxt + BitVec.ofNat 32 wnd =
        seqNo p₀ (s.rcvNxtOffset + wnd) := by
      rw [hH.base.rcvNxt, seqNo, Serial.wrap_add_ofNat, Nat.cast_add, add_assoc]
    rw [hwnd, hH.base.rcvNxt] at htrunc
    obtain ⟨a, b, hon, hb, hoff, hnxt, hle⟩ := hseg.truncate h.byteLength_pos hv hn1 hn2 htrunc
    have hfirst : offset + (truncated.sequenceNo - seg.sequenceNo).toNat = a := by
      have hlt : a ≤ offset + seg.payloadLength := by omega
      have := hseg.lt
      rw [hon.sequenceNo_eq, hseg.sequenceNo_eq, seqNo, seqNo, dist_pos (by omega) (by omega)]
      omega
    rw [hfirst]
    exact ⟨h.byteLength_pos, h.sender, h.wire, H,
      hH.insert h.byteLength_pos hon hnxt (by omega) hins⟩

/-- The messages that have been delivered come first. -/
theorem ReceiverInv.marks_eq {H : ℕ} (h : ReceiverInv p₀ s H)
    (hpos : ∀ m ∈ s.sent, 0 < m.byteLength) :
    ∃ D, marks 0 s.sent = D ++ (marks 0 s.sent).filter (fun x => decide (H < x.1)) ∧
      s.delivered = D.map Prod.snd ∧ ∀ x ∈ D, x.1 ≤ H := by
  refine ⟨(marks 0 s.sent).filter fun x => decide (x.1 ≤ H), ?_, h.delivered_eq, fun x hx => ?_⟩
  · rw [← not_decide_le, filter_append_filter (mono_le (pairwise_marks 0 hpos) H)]
  · simpa using (mem_filter.1 hx).2

/-- The next message to be delivered. -/
theorem ReceiverInv.next_eq {H : ℕ} (h : ReceiverInv p₀ s H)
    (hpos : ∀ m ∈ s.sent, 0 < m.byteLength) :
    (marks 0 s.sent)[s.delivered.length]? =
      ((marks 0 s.sent).filter fun x => decide (H < x.1)).head? := by
  obtain ⟨D, hD, hdel, -⟩ := h.marks_eq hpos
  rw [hD, hdel, length_map, getElem?_append_right le_rfl, Nat.sub_self, ← hD, head?_eq_getElem?]

/-- A message whose last octet has been received contiguously is in the payload list. -/
theorem ReceiverInv.covered_of_le {H E : ℕ} (h : ReceiverInv p₀ s H) (h1 : H < E)
    (h2 : E ≤ s.rcvNxtOffset) : covered s.arrived (E - 1) = true := by
  obtain ⟨k, hk, -, hcov⟩ := h.base.full
    (show p₀ + ((E - 1 : ℕ) : ℤ) ∈ Set.Ico _ _ from ⟨by omega, by omega⟩)
  rwa [show E - 1 = k by omega]

/-- Octets are handed up and no message ends among them. -/
theorem ReceiverInv.extract_none (h : ReceiverInv p₀ s H) (hHa : H ≤ a)
    (ha : a ≤ s.rcvNxtOffset) {base : TCPVirtualDataRcvQueue VirtualRegion}
    (hbase : RcvInv spec base (p₀ + a) (p₀ + s.rcvNxtOffset)
      (stored p₀ a s.arrived))
    (hno : ∀ x ∈ marks 0 s.sent, H < x.1 → a < x.1) :
    ReceiverInv p₀ { s with
      rcvQueue := ⟨base, s.rcvQueue.payloadList⟩, delivered := s.delivered ++ [] } a := by
  refine ⟨hbase, ?_, ?_, fun k hk => ?_, h.arrived_le⟩
  · refine h.payloadList_eq.trans (items_congr fun x hx => ?_)
    have := hno x hx
    rw [show decide (H < x.1) = decide (a < x.1) by rw [decide_eq_decide]; omega]
  · rw [append_nil]
    refine h.delivered_eq.trans (congrArg (List.map Prod.snd) (filter_congr fun x hx => ?_))
    have := hno x hx
    rw [decide_eq_decide]
    omega
  · by_cases hkH : k < H
    · exact h.below k hkH
    · have := h.covered_of_le (E := k + 1) (by omega) (by omega)
      simpa using this

variable {N : List (ℕ × CPacket)}

/-- The payload list, when the last octet of the next message has been received contiguously. -/
theorem ReceiverInv.payloadList_cons {H E : ℕ} (h : ReceiverInv p₀ s H) (hE : E ≤ s.rcvNxtOffset)
    (hN : (marks 0 s.sent).filter (fun x => decide (H < x.1)) = (E, m) :: N) :
    s.rcvQueue.payloadList = item p₀ (E, m) ::
      (N.filter fun x => covered s.arrived (x.1 - 1)).map (item p₀) := by
  have hHE : H < E := by
    have := (mem_filter.1 (hN ▸ mem_cons_self : (E, m) ∈ (marks 0 s.sent).filter _)).2
    simpa using this
  have hcov := h.covered_of_le hHE hE
  have hfilter : (marks 0 s.sent).filter (fun x => decide (H < x.1) && covered s.arrived (x.1 - 1)) =
      ((E, m) :: N).filter fun x => covered s.arrived (x.1 - 1) := by
    rw [← hN, filter_filter]
    exact filter_congr fun x _ => Bool.and_comm _ _
  rw [h.payloadList_eq, items, hfilter,
    filter_cons_of_pos (p := fun x : ℕ × CPacket => covered s.arrived (x.1 - 1)) hcov,
    map_cons]

/-- Octets are handed up, and with the last of them a message. -/
theorem ReceiverInv.extract_some {H E : ℕ}
    (h : ReceiverInv p₀ s H) (hpos : ∀ m ∈ s.sent, 0 < m.byteLength) (hHE : H < E)
    (hE : E ≤ s.rcvNxtOffset)
    (hN : (marks 0 s.sent).filter (fun x => decide (H < x.1)) = (E, m) :: N)
    {base : TCPVirtualDataRcvQueue VirtualRegion}
    (hbase : RcvInv spec base (p₀ + E) (p₀ + s.rcvNxtOffset)
      (stored p₀ E s.arrived)) :
    ReceiverInv p₀ { s with
      rcvQueue := ⟨base, (N.filter fun x => covered s.arrived (x.1 - 1)).map (item p₀)⟩
      delivered := s.delivered ++ [m] } E := by
  obtain ⟨D, hD, hdel, hDH⟩ := h.marks_eq hpos
  rw [hN] at hD
  have hsorted := pairwise_marks 0 hpos
  rw [hD] at hsorted
  have hNE : ∀ x ∈ N, E < x.1 := (pairwise_cons.1 (pairwise_append.1 hsorted).2.1).1
  have hDE : ∀ x ∈ D, x.1 ≤ E := fun x hx => (hDH x hx).trans hHE.le
  have hDnil : D.filter (fun x => decide (E < x.1) && covered s.arrived (x.1 - 1)) = [] := by
    refine filter_eq_nil_iff.2 fun x hx => ?_
    have := hDE x hx
    simp only [and_eq_true, decide_eq_true_eq, not_and]
    omega
  have hDself : D.filter (fun x => decide (x.1 ≤ E)) = D :=
    filter_eq_self.2 fun x hx => by simpa using hDE x hx
  have hNnil : N.filter (fun x => decide (x.1 ≤ E)) = [] :=
    filter_eq_nil_iff.2 fun x hx => by simpa using hNE x hx
  refine ⟨hbase, ?_, ?_, fun k hk => ?_, h.arrived_le⟩
  · dsimp only
    rw [items, hD, filter_append, hDnil, nil_append, filter_cons_of_neg (by simp)]
    refine congrArg (List.map (item p₀)) (filter_congr fun x hx => ?_)
    rw [show decide (E < x.1) = true by simpa using hNE x hx, Bool.true_and]
  · dsimp only
    rw [hD, filter_append, hDself, filter_cons_of_pos (by simp), hNnil, hdel]
    simp
  · by_cases hkH : k < H
    · exact h.below k hkH
    · have := h.covered_of_le (E := k + 1) (by omega) (by omega)
      simpa using this

/-- The octets that stay after the first ones have been handed up. -/
theorem stored_diff (hHa : H ≤ a) (arrived : List (ℕ × ℕ)) :
    stored p₀ H arrived \ Set.Ico (p₀ + H) (p₀ + a) = stored p₀ a arrived := by
  ext x
  simp only [stored, Set.mem_sdiff, Set.mem_ofPred_eq, Set.mem_Ico]
  constructor
  · rintro ⟨⟨k, rfl, hk, hcov⟩, hn⟩
    exact ⟨k, rfl, by omega, hcov⟩
  · rintro ⟨k, rfl, hk, hcov⟩
    exact ⟨⟨k, rfl, by omega, hcov⟩, by omega⟩

/-- The octets before offset `a` of the queue that counts octets. -/
theorem ReceiverInv.extractTo (h : ReceiverInv p₀ s H) (ha : a ≤ s.rcvNxtOffset)
    (hna : s.rcvNxtOffset < a + 2 ^ 31)
    (hfar : ∀ k, covered s.arrived k = true → H ≤ k →
      (∀ k', covered s.arrived k' = true → H ≤ k' → k ≤ k') → k < a + 2 ^ 31) :
    (a ≤ H ∧ s.rcvQueue.base.extractTo (seqNo p₀ a) = .ok (none, s.rcvQueue.base)) ∨
      ∃ r base, H < a ∧ s.rcvQueue.base.extractTo (seqNo p₀ a) = .ok (some r, base) ∧
        r.getEnd = seqNo p₀ a ∧
        RcvInv spec base (p₀ + a) (p₀ + s.rcvNxtOffset) (stored p₀ a s.arrived) := by
  have hC : ∀ x ∈ stored p₀ H s.arrived, (∀ y ∈ stored p₀ H s.arrived, x ≤ y) →
      x - (p₀ + a) < 2 ^ 31 := by
    rintro x ⟨k, rfl, hk, hcov⟩ hmin
    have := hfar k hcov hk fun k' hcov' hk' => by
      have := hmin (p₀ + k') ⟨k', rfl, hk', hcov'⟩
      omega
    omega
  rcases h.base.extractTo_spec (s := p₀ + a) (by omega) (by omega) hC with
    ⟨hle, hnone⟩ | ⟨r, base, hlt, hsome, hr, hinv⟩
  · exact .inl ⟨by omega, hnone⟩
  · rw [stored_diff (by omega)] at hinv
    exact .inr ⟨r, base, by omega, hsome, spec.getEnd_eq hr, hinv⟩

/-- Handing up octets when the next message ends at or before `a`: it comes out. -/
theorem ReceiverInv.extract_of_le {H E a : ℕ} (h : ReceiverInv p₀ s H)
    (hpos : ∀ m ∈ s.sent, 0 < m.byteLength) (hE : E ≤ a) (ha : a ≤ s.rcvNxtOffset)
    (hN : (marks 0 s.sent).filter (fun x => decide (H < x.1)) = (E, m) :: N) :
    ∃ rcvQueue, s.rcvQueue.extractBytesUpTo (seqNo p₀ a) = .ok (some m, rcvQueue) ∧
      ReceiverInv p₀ { s with rcvQueue, delivered := s.delivered ++ [m] } E := by
  have hHE : H < E := by
    have := (mem_filter.1 (hN ▸ mem_cons_self : (E, m) ∈ (marks 0 s.sent).filter _)).2
    simpa using this
  have hsub := h.base.rcvNxt_sub_le
  have hfront := h.payloadList_cons (by omega) hN
  -- the octet at offset `H` is stored, so the first region starts there
  have hH : covered s.arrived H = true := by
    have := h.covered_of_le (E := H + 1) (by omega) (by omega)
    simpa using this
  have hseq : (if seqLess (seqNo p₀ E) (seqNo p₀ a) then seqNo p₀ E else seqNo p₀ a) =
      seqNo p₀ E := by
    rw [seqNo, seqNo, seqLess_pos (by omega) (by omega)]
    rcases hE.eq_or_lt with rfl | hlt
    · simp
    · rw [if_pos (by simpa using hlt)]
  rcases h.extractTo (a := E) (by omega) (by omega) (fun k hk hHk hmin => by
    have := hmin H hH le_rfl
    omega) with ⟨hle, -⟩ | ⟨r, base, -, hsome, hend, hinv⟩
  · omega
  · refine ⟨_, ?_, h.extract_some hpos hHE (by omega) hN hinv⟩
    simp only [TCPMsgBasedRcvQueue.extractBytesUpTo, hfront, item]
    rw [show pos (p₀ + ((E, m) : ℕ × CPacket).1) = seqNo p₀ E from rfl, hseq, hsome]
    simp only [ok_bind, hend, if_true, pure_eq_ok]

/-- Handing up octets when no message ends before `a`. -/
theorem ReceiverInv.extract_of_lt (h : ReceiverInv p₀ s H) (ha : a ≤ s.rcvNxtOffset)
    (hn : s.Near (.extractBytesUpTo a)) (hno : ∀ x ∈ marks 0 s.sent, H < x.1 → a < x.1) :
    ∃ rcvQueue H', s.rcvQueue.extractBytesUpTo (seqNo p₀ a) = .ok (none, rcvQueue) ∧
      ReceiverInv p₀ { s with rcvQueue, delivered := s.delivered ++ [] } H' := by
  obtain ⟨hn1, hn2⟩ := hn
  have hcovlt : ∀ k, covered s.arrived k = true → k < a + 2 ^ 31 := fun k => covered_lt hn2
  -- every message of the payload list ends after `a`
  have hfront : ∀ i rest, s.rcvQueue.payloadList = i :: rest →
      seqLess i.endSequenceNo (seqNo p₀ a) = false ∧ i.endSequenceNo ≠ seqNo p₀ a := by
    intro i rest hi
    have hmem : i ∈ s.rcvQueue.payloadList := hi ▸ mem_cons_self
    rw [h.payloadList_eq, items, mem_map] at hmem
    obtain ⟨x, hx, rfl⟩ := hmem
    rw [mem_filter, and_eq_true, decide_eq_true_eq] at hx
    obtain ⟨hx, hHx, hcov⟩ := hx
    have h1 := hno x hx hHx
    have h2 := hcovlt _ hcov
    rw [item, seqNo]
    constructor
    · rw [seqLess_pos (by omega) (by omega)]
      simp only [decide_eq_false_iff_not]
      omega
    · rw [Ne, pos_inj (by omega) (by omega)]
      omega
  have hseq : (match s.rcvQueue.payloadList with
      | front :: _ =>
        if seqLess front.endSequenceNo (seqNo p₀ a) then front.endSequenceNo else seqNo p₀ a
      | [] => seqNo p₀ a) = seqNo p₀ a := by
    cases hl : s.rcvQueue.payloadList with
    | nil => rfl
    | cons i rest => simp [(hfront i rest hl).1]
  rcases h.extractTo ha hn1 fun k hk _ _ => hcovlt k hk with
    ⟨hle, hnone⟩ | ⟨r, base, hlt, hsome, hend, hinv⟩
  · refine ⟨s.rcvQueue, H, ?_, ?_⟩
    · simp only [TCPMsgBasedRcvQueue.extractBytesUpTo, hseq, hnone, ok_bind, pure_eq_ok]
    · simpa using h
  · refine ⟨_, a, ?_, h.extract_none hlt.le ha hinv hno⟩
    simp only [TCPMsgBasedRcvQueue.extractBytesUpTo, hseq, hsome, ok_bind]
    cases hl : s.rcvQueue.payloadList with
    | nil => rfl
    | cons i rest => simp [hend, (hfront i rest hl).2]

/-- Handing up octets before offset `a`: a message comes out exactly when it is the next one and
its octets lie before `a`. -/
theorem ReceiverInv.extract (h : ReceiverInv p₀ s H)
    (hpos : ∀ m ∈ s.sent, 0 < m.byteLength) (ha : a ≤ s.rcvNxtOffset)
    (hn : s.Near (.extractBytesUpTo a)) :
    ∃ msg rcvQueue H', s.rcvQueue.extractBytesUpTo (seqNo p₀ a) = .ok (msg, rcvQueue) ∧
      ReceiverInv p₀ { s with rcvQueue, delivered := s.delivered ++ msg.toList } H' ∧
      ∀ m, msg = some m ↔ ∃ E ≤ a, (marks 0 s.sent)[s.delivered.length]? = some (E, m) := by
  rw [h.next_eq hpos]
  cases hN : (marks 0 s.sent).filter fun x => decide (H < x.1) with
  | nil =>
    obtain ⟨rcvQueue, H', hex, hinv⟩ := h.extract_of_lt ha hn fun x hx hHx =>
      absurd hHx (by simpa using filter_eq_nil_iff.1 hN x hx)
    exact ⟨none, rcvQueue, H', hex, hinv, by simp⟩
  | cons x N =>
    obtain ⟨E, m⟩ := x
    by_cases hE : E ≤ a
    · obtain ⟨rcvQueue, hex, hinv⟩ := h.extract_of_le hpos hE ha hN
      refine ⟨some m, rcvQueue, E, hex, hinv, fun m' => ?_⟩
      simp only [head?_cons, Option.some.injEq, Prod.mk.injEq]
      exact ⟨fun hm => ⟨E, hE, rfl, hm⟩, fun ⟨_, _, _, hm⟩ => hm⟩
    · have hno : ∀ x ∈ marks 0 s.sent, H < x.1 → a < x.1 := by
        intro x hx hHx
        have hmem : x ∈ (E, m) :: N := hN ▸ mem_filter.2 ⟨hx, by simpa using hHx⟩
        have hsorted := (pairwise_marks 0 hpos).filter fun x => decide (H < x.1)
        rw [hN] at hsorted
        rcases mem_cons.1 hmem with rfl | hmem
        · dsimp only
          omega
        · have := (pairwise_cons.1 hsorted).1 x hmem
          dsimp only at this
          omega
      obtain ⟨rcvQueue, H', hex, hinv⟩ := h.extract_of_lt ha hn hno
      refine ⟨none, rcvQueue, H', hex, hinv, fun m' => ?_⟩
      simp only [head?_cons, Option.some.injEq, Prod.mk.injEq, reduceCtorEq, false_iff]
      rintro ⟨_, h1, rfl, _⟩
      omega

theorem Inv.extractBytesUpTo (h : Inv p₀ s) {a : ℕ} (hv : s.Valid (.extractBytesUpTo a))
    (hn : s.Near (.extractBytesUpTo a)) (hs : s.step p₀ (.extractBytesUpTo a) = .ok s') :
    Inv p₀ s' := by
  obtain ⟨H, hH⟩ := h.receiver
  obtain ⟨msg, rcvQueue, H', hex, hinv, -⟩ := hH.extract h.byteLength_pos hv hn
  rw [step, hex] at hs
  cases hs
  exact ⟨h.byteLength_pos, h.sender, h.wire, H', hinv⟩

/-- Each action keeps the invariant. -/
theorem Inv.step (h : Inv p₀ s) {act : Action} (hv : s.Valid act) (hn : s.Near act)
    (hs : s.step p₀ act = .ok s') : Inv p₀ s' := by
  cases act with
  | enqueueAppData msg => exact h.enqueueAppData hv hn hs
  | createSegmentWithBytes offset numBytes => exact h.createSegmentWithBytes hv hs
  | discardUpTo offset => exact h.discardUpTo hv hs
  | arrive k wnd => exact h.arrive hv hn hs
  | extractBytesUpTo offset => exact h.extractBytesUpTo hv hn hs

theorem Inv.init (p₀ : ℤ) : Inv p₀ (init p₀) where
  byteLength_pos := by simp [MsgTransfer.init]
  sender := ⟨0, ⟨le_rfl, by simp [MsgTransfer.init, totalLength], rfl, rfl, rfl⟩⟩
  wire := by simp [MsgTransfer.init]
  receiver := by
    refine ⟨0, ⟨?_, rfl, rfl, by simp, by simp [MsgTransfer.init]⟩⟩
    have hempty : stored p₀ 0 [] = ∅ := by
      ext x
      simp [stored, covered]
    rw [show (MsgTransfer.init p₀).arrived = [] from rfl, hempty]
    exact RcvInv.init _

/-- The messages that have been delivered are the first ones, and all their octets have been
received contiguously. -/
theorem ReceiverInv.delivered {H : ℕ} (h : ReceiverInv p₀ s H)
    (hpos : ∀ m ∈ s.sent, 0 < m.byteLength) :
    s.delivered <+: s.sent ∧
      ∀ x ∈ (marks 0 s.sent).take s.delivered.length, x.1 ≤ s.rcvNxtOffset := by
  obtain ⟨D, hD, hdel, hDH⟩ := h.marks_eq hpos
  have hHn := h.rcvNxtOffset_le.1
  constructor
  · have hsent := congrArg (List.map Prod.snd) hD
    rw [map_snd_marks, map_append, ← hdel] at hsent
    exact ⟨_, hsent.symm⟩
  · intro x hx
    rw [hD, hdel, length_map, take_left] at hx
    exact (hDH x hx).trans hHn

/-- The octets before `rcv_nxt` have arrived, the one at `rcv_nxt` has not. -/
theorem ReceiverInv.contiguous {H : ℕ} (h : ReceiverInv p₀ s H) :
    (∀ k < s.rcvNxtOffset, covered s.arrived k = true) ∧
      covered s.arrived s.rcvNxtOffset = false := by
  constructor
  · intro k hk
    by_cases hkH : k < H
    · exact h.below k hkH
    · have := h.covered_of_le (E := k + 1) (by omega) (by omega)
      simpa using this
  · rw [← not_eq_true]
    intro hcov
    exact h.base.notMem ⟨_, rfl, h.rcvNxtOffset_le.1, hcov⟩

/-- The messages delivered are the first ones sent, in this order.  All octets up to `rcv_nxt` and
no more have been received contiguously; every message delivered ends among them, and handing up
the octets before `a` delivers the next message exactly when it ends there or earlier. -/
theorem delivered_eq (p₀ : ℤ) {acts : List Action} {s : MsgTransfer}
    (h : Trace.Run (step p₀) (fun s act => s.Valid act ∧ s.Near act) (init p₀) acts s) :
    s.delivered <+: s.sent ∧
      ((∀ k < s.rcvNxtOffset, covered s.arrived k = true) ∧
        covered s.arrived s.rcvNxtOffset = false) ∧
      (∀ x ∈ (marks 0 s.sent).take s.delivered.length, x.1 ≤ s.rcvNxtOffset) ∧
      ∀ a, s.Valid (.extractBytesUpTo a) → s.Near (.extractBytesUpTo a) →
        ∃ msg s', s.step p₀ (.extractBytesUpTo a) = .ok s' ∧
          s'.delivered = s.delivered ++ msg.toList ∧
          ∀ m, msg = some m ↔ ∃ E ≤ a, (marks 0 s.sent)[s.delivered.length]? = some (E, m) := by
  have hinv : Inv p₀ s :=
    h.invariant (I := Inv p₀) (fun _ _ _ hi hc hs => hi.step hc.1 hc.2 hs) (Inv.init p₀)
  obtain ⟨H, hH⟩ := hinv.receiver
  obtain ⟨hpre, hends⟩ := hH.delivered hinv.byteLength_pos
  refine ⟨hpre, hH.contiguous, hends, fun a hv hn => ?_⟩
  obtain ⟨msg, rcvQueue, H', hex, -, hmsg⟩ := hH.extract hinv.byteLength_pos hv hn
  refine ⟨msg, { s with rcvQueue, delivered := s.delivered ++ msg.toList }, ?_, rfl, hmsg⟩
  rw [step, hex]
  rfl

/-- Two messages, cut in the middle of the second one and sent again with other boundaries. -/
theorem delivered_eq_recut : ∃ s : MsgTransfer, s.delivered <+: s.sent ∧
    (s.sent, s.delivered, s.rcvNxtOffset) = ([⟨0, 3⟩, ⟨1, 4⟩], [⟨0, 3⟩], 5) := by
  obtain ⟨s, hrun, hs⟩ : ∃ s, Trace.Run (step (2 ^ 32 - 2)) (fun s act => s.Valid act ∧ s.Near act)
      (init (2 ^ 32 - 2)) [.enqueueAppData ⟨0, 3⟩, .enqueueAppData ⟨1, 4⟩,
        .createSegmentWithBytes 0 5, .createSegmentWithBytes 2 3, .arrive 1 9, .arrive 0 9,
        .extractBytesUpTo 5, .extractBytesUpTo 5] s ∧
      (s.sent, s.delivered, s.rcvNxtOffset) = ([⟨0, 3⟩, ⟨1, 4⟩], [⟨0, 3⟩], 5) :=
    Trace.exists_run_of_exec (by decide +kernel)
  exact ⟨s, (delivered_eq _ hrun).1, hs⟩

/-- When the stream has advanced by almost the whole sequence space, a segment of its beginning is
taken for new data and its message is delivered again. -/
theorem delivered_twice : ∃ (acts : List Action) (s : MsgTransfer),
    Trace.Run (step 0) Valid (init 0) acts s ∧ (s.sent, s.delivered) =
      ([⟨0, 10⟩, ⟨1, 2 ^ 31 - 1⟩, ⟨2, 2 ^ 31 - 1⟩],
        [⟨0, 10⟩, ⟨1, 2 ^ 31 - 1⟩, ⟨2, 2 ^ 31 - 1⟩, ⟨0, 10⟩]) :=
  ⟨[.enqueueAppData ⟨0, 10⟩, .createSegmentWithBytes 0 10, .arrive 0 100,
      .extractBytesUpTo 10, .discardUpTo 10,
      .enqueueAppData ⟨1, 2 ^ 31 - 1⟩, .createSegmentWithBytes 10 (2 ^ 31 - 1),
      .arrive 1 (2 ^ 31 - 1), .extractBytesUpTo (2 ^ 31 + 9), .discardUpTo (2 ^ 31 + 9),
      .enqueueAppData ⟨2, 2 ^ 31 - 1⟩, .createSegmentWithBytes (2 ^ 31 + 9) (2 ^ 31 - 1),
      .arrive 2 (2 ^ 31 - 1), .extractBytesUpTo (2 ^ 32 + 8), .discardUpTo (2 ^ 32 + 8),
      .arrive 0 100, .extractBytesUpTo (2 ^ 32 + 10)],
    Trace.exists_run_of_exec (by decide +kernel)⟩

end MsgTransfer

end Hiwis
