import Hiwis.Lib.Observe
import Hiwis.Tcp.ByteStreamSendQueue
import Hiwis.Tcp.MsgBasedQueue
import Hiwis.Tcp.SackQueries

/-!
# A second `init`

The queues of a connection are initialised when a SYN is sent or arrives, and a connection may do so
again.  "`init()` may be called more than once; every call flushes the existing contents of the
queue", says the interface; three of the seven classes keep what they held.

* `init_alike_iff` : which queues behave like new ones after `init`.
-/

namespace Hiwis

open Observe TCPMsgBasedSendQueue TCPMsgBasedRcvQueue TCPVirtualDataRcvQueue TCPByteStreamSendQueue TCPSACKRexmitQueue

/-! ### Send queues -/

/-- `TCPVirtualDataSendQueue`. -/
structure TCPVirtualDataSendQueue where
  beginSeq : SeqNo := 0
  endSeq : SeqNo := 0
  deriving DecidableEq

namespace TCPVirtualDataSendQueue

/-- `init`. -/
def init (_q : TCPVirtualDataSendQueue) (startSeq : SeqNo) : TCPVirtualDataSendQueue where
  beginSeq := startSeq
  endSeq := startSeq

def enqueueAppData (q : TCPVirtualDataSendQueue) (msg : CPacket) :
    Except Fault TCPVirtualDataSendQueue :=
  let endSeq := q.endSeq + BitVec.ofNat 32 msg.byteLength
  if seqLess endSeq q.beginSeq then .error .sendQueueFull else .ok { q with endSeq }

def createSegmentWithBytes (q : TCPVirtualDataSendQueue) (fromSeq : SeqNo) (numBytes : ℕ) :
    Except Fault TCPSegment :=
  if seqLE q.beginSeq fromSeq && seqLE (fromSeq + BitVec.ofNat 32 numBytes) q.endSeq then
    .ok { sequenceNo := fromSeq, payloadLength := numBytes }
  else .error .sendQueueRange

def discardUpTo (q : TCPVirtualDataSendQueue) (seqNum : SeqNo) :
    Except Fault TCPVirtualDataSendQueue :=
  if seqLE q.beginSeq seqNum && seqLE seqNum q.endSeq then .ok { q with beginSeq := seqNum }
  else .error .sendQueueRange

end TCPVirtualDataSendQueue

/-- `init` of a queue that holds messages: they stay. -/
def TCPMsgBasedSendQueue.initAgain (q : TCPMsgBasedSendQueue) (startSeq : SeqNo) :
    TCPMsgBasedSendQueue :=
  { q with beginSeq := startSeq, endSeq := startSeq }

/-- The virtual functions of `TCPSendQueue`, for messages of type `μ`. -/
class TCPSendQueue (κ : Type) (μ ε : outParam Type) where
  /-- The constructor. -/
  new : κ
  init : κ → SeqNo → κ
  enqueueAppData : κ → μ → Except ε κ
  getBufferStartSeq : κ → SeqNo
  getBufferEndSeq : κ → SeqNo
  createSegmentWithBytes : κ → SeqNo → ℕ → Except ε TCPSegment
  discardUpTo : κ → SeqNo → Except ε κ

instance : TCPSendQueue TCPVirtualDataSendQueue CPacket Fault where
  new := {}
  init := TCPVirtualDataSendQueue.init
  enqueueAppData := TCPVirtualDataSendQueue.enqueueAppData
  getBufferStartSeq := TCPVirtualDataSendQueue.beginSeq
  getBufferEndSeq := TCPVirtualDataSendQueue.endSeq
  createSegmentWithBytes := TCPVirtualDataSendQueue.createSegmentWithBytes
  discardUpTo := TCPVirtualDataSendQueue.discardUpTo

instance : TCPSendQueue TCPByteStreamSendQueue ByteArrayMessage SendFault where
  new := {}
  init _ := init
  enqueueAppData := enqueueAppData
  getBufferStartSeq := beginSeq
  getBufferEndSeq := endSeq
  createSegmentWithBytes := createSegmentWithBytes
  discardUpTo := discardUpTo

instance : TCPSendQueue TCPMsgBasedSendQueue CPacket Fault where
  new := ⟨0, 0, []⟩
  init := initAgain
  enqueueAppData := enqueueAppData
  getBufferStartSeq := beginSeq
  getBufferEndSeq := endSeq
  createSegmentWithBytes := createSegmentWithBytes
  discardUpTo := discardUpTo

namespace TCPSendQueue

inductive Call (μ : Type)
  | init (startSeq : SeqNo)
  | enqueueAppData (msg : μ)
  | getBufferStartSeq
  | getBufferEndSeq
  | getBytesAvailable (fromSeq : SeqNo)
  | createSegmentWithBytes (fromSeq : SeqNo) (numBytes : ℕ)
  | discardUpTo (seqNum : SeqNo)
  deriving DecidableEq

inductive Answer
  | done
  | seqNo (x : SeqNo)
  | bytes (n : ℕ)
  | segment (seg : TCPSegment)
  deriving DecidableEq

variable {κ μ ε : Type} [TCPSendQueue κ μ ε]

def call (q : κ) : Call μ → Except ε (Answer × κ)
  | .init startSeq => .ok (.done, init q startSeq)
  | .enqueueAppData msg => do
    let q ← enqueueAppData q msg
    .ok (.done, q)
  | .getBufferStartSeq => .ok (.seqNo (getBufferStartSeq q), q)
  | .getBufferEndSeq => .ok (.seqNo (getBufferEndSeq q), q)
  | .getBytesAvailable fromSeq =>
    let bufEndSeq := getBufferEndSeq q
    .ok (.bytes (if seqLess fromSeq bufEndSeq then (bufEndSeq - fromSeq).toNat else 0), q)
  | .createSegmentWithBytes fromSeq numBytes => do
    let seg ← createSegmentWithBytes q fromSeq numBytes
    .ok (.segment seg, q)
  | .discardUpTo seqNum => do
    let q ← discardUpTo q seqNum
    .ok (.done, q)

/-- After `init` the queue behaves as a new one does. -/
def LikeNew (q : κ) (startSeq : SeqNo) : Prop :=
  Alike (call (μ := μ) (ε := ε)) (init q startSeq) (init (new : κ) startSeq)

end TCPSendQueue

/-! ### Receive queues -/

/-- `init`: the region list is emptied, but the messages stay. -/
def TCPMsgBasedRcvQueue.initAgain (q : TCPMsgBasedRcvQueue) (startSeq : SeqNo) :
    TCPMsgBasedRcvQueue :=
  { q with base := TCPVirtualDataRcvQueue.init startSeq }

/-- The virtual functions of `TCPReceiveQueue`; what is handed up has the type `μ`, and `queries`
are the functions that only look at the regions. -/
class TCPReceiveQueue (κ : Type) (μ ρ : outParam Type) [Region ρ] where
  /-- The constructor; `rcv_nxt` has no value before `init`. -/
  new : SeqNo → κ
  init : κ → SeqNo → κ
  insertBytesFromSegment : κ → TCPSegment → Except Fault (SeqNo × κ)
  extractBytesUpTo : κ → SeqNo → Except Fault (Option μ × κ)
  queries : κ → TCPVirtualDataRcvQueue ρ

instance : TCPReceiveQueue (TCPVirtualDataRcvQueue VirtualRegion) ℕ VirtualRegion where
  new rcvNxt := ⟨rcvNxt, []⟩
  init _ := TCPVirtualDataRcvQueue.init
  insertBytesFromSegment := TCPVirtualDataRcvQueue.insertBytesFromSegment
  extractBytesUpTo := extractBytesUpTo
  queries := id

instance : TCPReceiveQueue TCPByteStreamRcvQueue ByteArrayMessage ByteStreamRegion where
  new rcvNxt := ⟨rcvNxt, []⟩
  init _ := TCPVirtualDataRcvQueue.init
  insertBytesFromSegment := TCPVirtualDataRcvQueue.insertBytesFromSegment
  extractBytesUpTo := TCPByteStreamRcvQueue.extractBytesUpTo
  queries := id

instance : TCPReceiveQueue TCPMsgBasedRcvQueue CPacket VirtualRegion where
  new rcvNxt := ⟨⟨rcvNxt, []⟩, []⟩
  init := initAgain
  insertBytesFromSegment := insertBytesFromSegment
  extractBytesUpTo := extractBytesUpTo
  queries := base

namespace TCPReceiveQueue

inductive Call
  | init (startSeq : SeqNo)
  | insertBytesFromSegment (tcpseg : TCPSegment)
  | extractBytesUpTo (seq : SeqNo)
  | getAmountOfBufferedBytes
  | getAmountOfFreeBytes (maxRcvBuffer : ℕ)
  | getQueueLength
  | getLE (fromSeqNum : SeqNo)
  | getRE (toSeqNum : SeqNo)
  | getFirstSeqNo
  deriving DecidableEq

inductive Answer (μ : Type)
  | done
  | seqNo (x : SeqNo)
  | bytes (n : ℕ)
  | message (msg : Option μ)
  deriving DecidableEq

variable {κ μ ρ : Type} [Region ρ] [TCPReceiveQueue κ μ ρ]

def call (q : κ) : Call → Except Fault (Answer μ × κ)
  | .init startSeq => .ok (.done, init q startSeq)
  | .insertBytesFromSegment tcpseg => do
    let (rcvNxt, q) ← insertBytesFromSegment q tcpseg
    .ok (.seqNo rcvNxt, q)
  | .extractBytesUpTo seq => do
    let (msg, q) ← extractBytesUpTo q seq
    .ok (.message msg, q)
  | .getAmountOfBufferedBytes => .ok (.bytes (queries q).getAmountOfBufferedBytes, q)
  | .getAmountOfFreeBytes maxRcvBuffer =>
    .ok (.bytes ((queries q).getAmountOfFreeBytes maxRcvBuffer), q)
  | .getQueueLength => .ok (.bytes (queries q).regionList.length, q)
  | .getLE fromSeqNum => .ok (.seqNo ((queries q).getLE fromSeqNum), q)
  | .getRE toSeqNum => .ok (.seqNo ((queries q).getRE toSeqNum), q)
  | .getFirstSeqNo => .ok (.seqNo (queries q).getFirstSeqNo, q)

/-- After `init` the queue behaves as a new one does. -/
def LikeNew (q : κ) (startSeq : SeqNo) : Prop :=
  ∀ rcvNxt, Alike (call (κ := κ)) (init q startSeq) (init (new rcvNxt : κ) startSeq)

end TCPReceiveQueue

/-! ### The retransmission queue -/

namespace TCPSACKRexmitQueue

/-- The functions that only look at the queue. -/
inductive Query
  | getBufferStartSeq
  | getBufferEndSeq
  | getQueueLength
  | checkQueue
  | getHighestSackedSeqNum
  | getHighestRexmittedSeqNum
  | getTotalAmountOfSackedBytes
  | getAmountOfSackedBytes (fromSeqNum : SeqNo)
  | getNumOfDiscontiguousSacks (fromSeqNum : SeqNo)
  | checkRexmitQueueForSackedOrRexmittedSegments (fromSeqNum : SeqNo)
  | checkSackBlock (fromSeqNum : SeqNo)
  deriving DecidableEq

inductive Answer
  | done
  | seqNo (x : SeqNo)
  | number (n : ℕ)
  | block (x : BitVec 32 × Bool × Bool)
  | valid (b : Bool)
  deriving DecidableEq

def query (q : TCPSACKRexmitQueue) : Query → Except Fault Answer
  | .getBufferStartSeq => .ok (.seqNo q.beginSeq)
  | .getBufferEndSeq => .ok (.seqNo q.endSeq)
  | .getQueueLength => .ok (.number q.rexmitQueue.length)
  | .checkQueue => .ok (.valid q.checkQueue)
  | .getHighestSackedSeqNum => .ok (.seqNo q.getHighestSackedSeqNum)
  | .getHighestRexmittedSeqNum => .ok (.seqNo q.getHighestRexmittedSeqNum)
  | .getTotalAmountOfSackedBytes => .ok (.seqNo q.getTotalAmountOfSackedBytes)
  | .getAmountOfSackedBytes fromSeqNum => (q.getAmountOfSackedBytes fromSeqNum).map .seqNo
  | .getNumOfDiscontiguousSacks fromSeqNum => (q.getNumOfDiscontiguousSacks fromSeqNum).map .number
  | .checkRexmitQueueForSackedOrRexmittedSegments fromSeqNum =>
    (q.checkRexmitQueueForSackedOrRexmittedSegments fromSeqNum).map .seqNo
  | .checkSackBlock fromSeqNum => (q.checkSackBlock fromSeqNum).map .block

def callOrQuery (q : TCPSACKRexmitQueue) :
    Call ⊕ Query → Except Fault (Answer × TCPSACKRexmitQueue)
  | .inl k => (q.call k).map fun q => (.done, q)
  | .inr k => (q.query k).map fun a => (a, q)

/-- After `init` the queue behaves as a new one does. -/
def LikeNew (q : TCPSACKRexmitQueue) (seqNum : SeqNo) : Prop :=
  Alike callOrQuery (q.init seqNum) (init {} seqNum)

end TCPSACKRexmitQueue

/-! ### Which contents stay -/

section Successor

variable (x : SeqNo)

theorem seqLE_refl : seqLE x x = true := by simp [seqLE]

theorem not_seqLE_succ : seqLE (x + 1) x = false := by
  rw [seqLE, decide_eq_false_iff_not]
  bv_omega

theorem not_seqLess_succ : seqLess (x + 1) x = false := by
  rw [seqLess, Bool.and_eq_false_iff, decide_eq_false_iff_not]
  right
  bv_omega

end Successor

/-- One octet is written to a queue whose next octet is `x`. -/
theorem TCPMsgBasedSendQueue.enqueueAppData_one (x : SeqNo) (l : List TCPPayloadMessage) (id : ℕ) :
    enqueueAppData ⟨x, x, l⟩ ⟨id, 1⟩ = .ok ⟨x, x + 1, l ++ [⟨x + 1, ⟨id, 1⟩⟩]⟩ := by
  have hfit : seqLess (x + BitVec.ofNat 32 1) x = false := not_seqLess_succ x
  rw [enqueueAppData]
  simp only [hfit, Bool.false_eq_true, if_false]
  rfl

/-- The segment of this octet begins with the first message that ends there. -/
theorem TCPMsgBasedSendQueue.createSegmentWithBytes_one {x : SeqNo} {p : TCPPayloadMessage}
    (hp : p.endSequenceNo = x + 1) (l : List TCPPayloadMessage) :
    ∃ seg, createSegmentWithBytes ⟨x, x + 1, p :: l⟩ x 1 = .ok seg ∧
      seg.payloadList.head? = some p := by
  have hguard : (seqLE x x && seqLE (x + BitVec.ofNat 32 1) (x + 1)) = true := by
    rw [seqLE_refl, Bool.true_and]
    exact seqLE_refl (x + 1)
  have hbefore : ¬ seqLE p.endSequenceNo x = true := by
    rw [hp, not_seqLE_succ]
    simp
  have hin : seqLE p.endSequenceNo (x + BitVec.ofNat 32 1) = true := by
    rw [hp]
    exact seqLE_refl (x + 1)
  refine ⟨_, by rw [createSegmentWithBytes]; exact if_pos hguard, ?_⟩
  dsimp only
  rw [List.dropWhile_cons_of_neg (p := fun i : TCPPayloadMessage => seqLE i.endSequenceNo x) hbefore]
  simp only [List.takeWhile_cons, hin, if_true, List.head?_cons]

/-- A message that stays travels in a later segment, with the sequence number it had. -/
theorem TCPMsgBasedSendQueue.likeNew_iff (q : TCPMsgBasedSendQueue) (startSeq : SeqNo) :
    TCPSendQueue.LikeNew q startSeq ↔ q.payloadQueue = [] := by
  constructor
  · intro h
    cases hl : q.payloadQueue with
    | nil => rfl
    | cons p l =>
      obtain ⟨x, hx⟩ : ∃ x, p.endSequenceNo = x + 1 :=
        ⟨p.endSequenceNo - 1, by rw [BitVec.sub_add_cancel]⟩
      have hwrite : ∀ l', TCPSendQueue.call (⟨x, x, l'⟩ : TCPMsgBasedSendQueue)
          (.enqueueAppData ⟨p.msg.id + 1, 1⟩) =
            .ok (.done, ⟨x, x + 1, l' ++ [⟨x + 1, ⟨p.msg.id + 1, 1⟩⟩]⟩) := by
        intro l'
        change (enqueueAppData ⟨x, x, l'⟩ _).bind _ = _
        rw [enqueueAppData_one]
        rfl
      -- the queues are initialised once more, and one octet is written
      have h1 := (h.after (c := .init x) rfl rfl).2
      have h2 := (h1.after (hwrite q.payloadQueue) (hwrite [])).2
      have hsend := h2.answer_eq (.createSegmentWithBytes x 1)
      obtain ⟨old, hold, hhead⟩ := createSegmentWithBytes_one hx (l ++ [⟨x + 1, ⟨p.msg.id + 1, 1⟩⟩])
      obtain ⟨new, hnew, hhead'⟩ :=
        createSegmentWithBytes_one (p := ⟨x + 1, ⟨p.msg.id + 1, 1⟩⟩) rfl []
      rw [hl] at hsend
      change ((createSegmentWithBytes ⟨x, x + 1, p :: (l ++ _)⟩ x 1).bind _).map _ =
        ((createSegmentWithBytes ⟨x, x + 1, [_]⟩ x 1).bind _).map _ at hsend
      rw [hold, hnew] at hsend
      obtain rfl := TCPSendQueue.Answer.segment.inj (Except.ok.inj hsend)
      rw [hhead] at hhead'
      have hid := congrArg (fun p : TCPPayloadMessage => p.msg.id) (Option.some.inj hhead')
      exact absurd hid (Nat.succ_ne_self _).symm
  · intro hl
    have heq : TCPSendQueue.init q startSeq =
        TCPSendQueue.init (TCPSendQueue.new : TCPMsgBasedSendQueue) startSeq := by
      change initAgain q startSeq = ⟨startSeq, startSeq, []⟩
      rw [initAgain, hl]
    rw [TCPSendQueue.LikeNew, heq]

/-- One octet arrives at a queue whose next octet is `x`. -/
theorem TCPMsgBasedRcvQueue.insertBytesFromSegment_one (x : SeqNo) (l : List TCPPayloadMessage) :
    insertBytesFromSegment ⟨⟨x, []⟩, l⟩ { sequenceNo := x, payloadLength := 1 } =
      .ok (x + 1, ⟨⟨x + 1, [⟨x, x + 1⟩]⟩, l⟩) := by
  have hadvance : advance (⟨x, [⟨x, x + 1⟩]⟩ :
      TCPVirtualDataRcvQueue VirtualRegion) = ⟨x + 1, [⟨x, x + 1⟩]⟩ := if_pos (seqLE_refl x)
  have hbase : TCPVirtualDataRcvQueue.insertBytesFromSegment (⟨x, []⟩ :
      TCPVirtualDataRcvQueue VirtualRegion) { sequenceNo := x, payloadLength := 1 } =
        .ok (x + 1, ⟨x + 1, [⟨x, x + 1⟩]⟩) := by
    exact congrArg (fun q : TCPVirtualDataRcvQueue VirtualRegion => Except.ok (q.rcvNxt, q)) hadvance
  rw [insertBytesFromSegment, hbase]
  rfl

/-- What is handed up with this octet: the first message if it ends there. -/
theorem TCPMsgBasedRcvQueue.extractBytesUpTo_one {x : SeqNo} {l : List TCPPayloadMessage}
    (hl : ∀ p ∈ l.head?, p.endSequenceNo = x + 1) :
    ∃ q', extractBytesUpTo ⟨⟨x + 1, [⟨x, x + 1⟩]⟩, l⟩ (x + 1) =
      .ok (l.head?.map TCPPayloadMessage.msg, q') := by
  have hextract : ∀ y, seqLE y x = false → extractTo (⟨y, [⟨x, y⟩]⟩ :
      TCPVirtualDataRcvQueue VirtualRegion) y = .ok (some ⟨x, y⟩, ⟨y, []⟩) := by
    intro y hnot
    have hle := seqLE_refl y
    have hge : seqGE y y = true := seqLE_refl y
    simp [extractTo, Region.getBegin, Region.getEnd, hle, hnot, hge]
  replace hextract := hextract (x + 1) (not_seqLE_succ x)
  cases l with
  | nil =>
    rw [extractBytesUpTo]
    simp only [hextract, Except.ok_bind]
    exact ⟨_, rfl⟩
  | cons p l =>
    have hp := hl p rfl
    have hless : seqLess (x + 1) (x + 1) = false := by simp [seqLess]
    rw [extractBytesUpTo]
    simp only [hp, hless, Bool.false_eq_true, if_false, hextract, Except.ok_bind]
    exact ⟨_, rfl⟩

/-- A message that stays is handed up with the first octets that end where it does. -/
theorem TCPMsgBasedRcvQueue.likeNew_iff (q : TCPMsgBasedRcvQueue) (startSeq : SeqNo) :
    TCPReceiveQueue.LikeNew q startSeq ↔ q.payloadList = [] := by
  constructor
  · intro h
    cases hl : q.payloadList with
    | nil => rfl
    | cons p l =>
      obtain ⟨x, hx⟩ : ∃ x, p.endSequenceNo = x + 1 :=
        ⟨p.endSequenceNo - 1, by rw [BitVec.sub_add_cancel]⟩
      have harrive : ∀ l', TCPReceiveQueue.call (⟨⟨x, []⟩, l'⟩ : TCPMsgBasedRcvQueue)
          (.insertBytesFromSegment { sequenceNo := x, payloadLength := 1 }) =
            .ok (.seqNo (x + 1), ⟨⟨x + 1, [⟨x, x + 1⟩]⟩, l'⟩) := by
        intro l'
        have hone := insertBytesFromSegment_one x l'
        rw [TCPReceiveQueue.call]
        change (insertBytesFromSegment ⟨⟨x, []⟩, l'⟩ _ >>= _) = _
        rw [hone]
        rfl
      -- the queues are initialised once more, and one octet arrives
      have h1 := ((h 0).after (c := .init x) rfl rfl).2
      have h2 := (h1.after (harrive q.payloadList) (harrive [])).2
      have hread := h2.answer_eq (.extractBytesUpTo (x + 1))
      obtain ⟨q1, hold⟩ := extractBytesUpTo_one (x := x) (l := p :: l)
        (by rintro _ ⟨⟩; exact hx)
      obtain ⟨q2, hnew⟩ := extractBytesUpTo_one (x := x) (l := []) (by rintro _ ⟨⟩)
      rw [hl] at hread
      rw [TCPReceiveQueue.call, TCPReceiveQueue.call] at hread
      change ((extractBytesUpTo ⟨⟨x + 1, _⟩, p :: l⟩ (x + 1) >>= _).map _) =
        ((extractBytesUpTo ⟨⟨x + 1, _⟩, []⟩ (x + 1) >>= _).map _) at hread
      rw [hold, hnew] at hread
      have hmsg := TCPReceiveQueue.Answer.message.inj (Except.ok.inj hread)
      cases hmsg
  · intro hl rcvNxt
    have heq : TCPReceiveQueue.init q startSeq =
        TCPReceiveQueue.init (TCPReceiveQueue.new rcvNxt : TCPMsgBasedRcvQueue) startSeq := by
      change initAgain q startSeq = ⟨⟨startSeq, []⟩, []⟩
      rw [initAgain, hl]
      rfl
    rw [heq]

/-- Regions that stay are counted. -/
theorem TCPSACKRexmitQueue.likeNew_iff (q : TCPSACKRexmitQueue) (seqNum : SeqNo) :
    q.LikeNew seqNum ↔ q.rexmitQueue = [] := by
  constructor
  · intro h
    have hlength := h.answer_eq (.inr .getQueueLength)
    have hzero := Answer.number.inj (Except.ok.inj hlength)
    exact List.length_eq_zero_iff.1 hzero
  · intro hl
    have heq : q.init seqNum = init {} seqNum := by
      rw [init, hl]
      rfl
    rw [LikeNew, heq]

/-- After `init` the virtual-data and byte-stream queues behave like new ones.  The message-based
queues and the retransmission queue do so exactly if they hold no message and no region. -/
theorem init_alike_iff (startSeq : SeqNo) :
    (∀ q : TCPVirtualDataSendQueue, TCPSendQueue.LikeNew q startSeq) ∧
    (∀ q : TCPByteStreamSendQueue, TCPSendQueue.LikeNew q startSeq) ∧
    (∀ q : TCPMsgBasedSendQueue, TCPSendQueue.LikeNew q startSeq ↔ q.payloadQueue = []) ∧
    (∀ q : TCPVirtualDataRcvQueue VirtualRegion, TCPReceiveQueue.LikeNew q startSeq) ∧
    (∀ q : TCPByteStreamRcvQueue, TCPReceiveQueue.LikeNew q startSeq) ∧
    (∀ q : TCPMsgBasedRcvQueue, TCPReceiveQueue.LikeNew q startSeq ↔ q.payloadList = []) ∧
    (∀ q : TCPSACKRexmitQueue, q.LikeNew startSeq ↔ q.rexmitQueue = []) :=
  ⟨fun _ => .refl _, fun _ => .refl _, fun q => q.likeNew_iff startSeq, fun _ _ => .refl _,
    fun _ _ => .refl _, fun q => q.likeNew_iff startSeq, fun q => q.likeNew_iff startSeq⟩

/-- A message that was not acknowledged travels in the first segment after the second `init`, and the
retransmission queue fails at the first octets that are sent after it. -/
theorem not_likeNew_pending :
    (∃ q : TCPMsgBasedSendQueue,
      enqueueAppData (.initAgain ⟨0, 0, []⟩ 0) ⟨1, 5⟩ = .ok q ∧
      answers TCPSendQueue.call (TCPSendQueue.init q 0)
          [.enqueueAppData ⟨2, 5⟩, .createSegmentWithBytes 0 5] =
        [.ok .done, .ok (.segment
          { payloadLength := 5, payloadList := [⟨5, ⟨1, 5⟩⟩, ⟨5, ⟨2, 5⟩⟩] })] ∧
      answers TCPSendQueue.call (TCPSendQueue.init (TCPSendQueue.new : TCPMsgBasedSendQueue) 0)
          [.enqueueAppData ⟨2, 5⟩, .createSegmentWithBytes 0 5] =
        [.ok .done, .ok (.segment { payloadLength := 5, payloadList := [⟨5, ⟨2, 5⟩⟩] })]) ∧
    ∃ q : TCPSACKRexmitQueue,
      enqueueSentData (.init {} 0) 0 10 = .ok q ∧
      answers callOrQuery (q.init 100) [.inl (.enqueueSentData 100 110)] =
        [.error .rexmitCheckQueue] ∧
      answers callOrQuery (.init {} 100) [.inl (.enqueueSentData 100 110)] = [.ok .done] := by
  refine ⟨⟨_, rfl, ?_, ?_⟩, _, rfl, ?_, ?_⟩
  · decide
  · decide
  · decide
  · decide

end Hiwis
