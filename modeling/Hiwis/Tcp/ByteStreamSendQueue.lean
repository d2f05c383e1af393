import Hiwis.Tcp.ByteStreamRcvQueue

/-!
# The byte-stream send queue

`TCPByteStreamSendQueue` keeps the bytes that are not acknowledged in a `ByteArrayBuffer`, a list of
chunks of which the first one may be cut off on the left.  A segment takes its bytes from the middle
of the list.

The queue compares sequence numbers, but unlike the other send queues it does not refuse bytes when
half of the sequence numbers are in use.

* `ByteArrayBuffer.getBytesToBuffer_eq`, `ByteArrayBuffer.drop_eq` : the chunks as one list of bytes;
* `ByteStreamSender.always_correct_iff` : segments carry the bytes of the stream exactly as long as
  fewer than `2 ^ 31` bytes are stored.
-/

namespace Hiwis

open List BitVec Except Trace

/-- What fails in a call of the send queue. -/
inductive SendFault
  /-- `ASSERT(bytes == bamsg->getByteArray().getDataArraySize())`. -/
  | messageLength
  /-- `ASSERT(seqLE(begin, fromSeq) && seqLE(fromSeq + numBytes, end))`, also in `discardUpTo`. -/
  | range
  /-- `ASSERT(bytes == numBytes)`. -/
  | copiedBytes
  /-- `ASSERT(lengthP <= dataLengthM)`. -/
  | dropLength
  /-- `dataListM.front()` of an empty list. -/
  | noChunk
  /-- An assertion of `ByteArray`. -/
  | byteArray (f : Fault)
  deriving DecidableEq

/-! ### The buffer -/

/-- `ByteArray::copyDataToBuffer`: the bytes that are copied. -/
def ByteData.copiedBytes (data : ByteData) (length srcOffs : ℕ) : ByteData :=
  if data.length ≤ srcOffs then []
  else
    let length := if data.length < (srcOffs + length) % 2 ^ 32 then data.length - srcOffs else length
    (data.drop srcOffs).take length

/-- `ByteArrayBuffer`. -/
structure ByteArrayBuffer where
  dataList : List ByteData := []
  dataLength : ℕ := 0
  deriving DecidableEq

namespace ByteArrayBuffer

def push (b : ByteArrayBuffer) (byteArray : ByteData) : ByteArrayBuffer :=
  ⟨b.dataList ++ [byteArray], b.dataLength + byteArray.length⟩

/-- The loop of `getBytesToBuffer`: at most `bufferLength` bytes from offset `srcOffs` on. -/
def getBytes : List ByteData → ℕ → ℕ → ByteData
  | [], _, _ => []
  | i :: rest, bufferLength, srcOffs =>
    if bufferLength = 0 then []
    else
      let bytes := i.copiedBytes bufferLength srcOffs
      if bytes.length ≠ 0 then bytes ++ getBytes rest (bufferLength - bytes.length) 0
      else getBytes rest bufferLength (srcOffs - i.length)

def getBytesToBuffer (b : ByteArrayBuffer) (bufferLength srcOffs : ℕ) : ByteData :=
  getBytes b.dataList bufferLength srcOffs

/-- The loop of `drop`. -/
def dropBytes : List ByteData → ℕ → Except SendFault (List ByteData)
  | l, 0 => .ok l
  | [], _ + 1 => .error .noChunk
  | front :: rest, length + 1 =>
    if front.length ≤ length + 1 then dropBytes rest (length + 1 - front.length)
    else do
      let front ← (front.truncateData (length + 1) 0).mapError .byteArray
      .ok (front :: rest)

def drop (b : ByteArrayBuffer) (length : ℕ) : Except SendFault ByteArrayBuffer :=
  if length ≤ b.dataLength then do
    let dataList ← dropBytes b.dataList length
    .ok ⟨dataList, b.dataLength - length⟩
  else .error .dropLength

end ByteArrayBuffer

/-! ### The queue -/

/-- `TCPByteStreamSendQueue`. -/
structure TCPByteStreamSendQueue where
  dataBuffer : ByteArrayBuffer := {}
  beginSeq : SeqNo := 0
  endSeq : SeqNo := 0
  deriving DecidableEq

namespace TCPByteStreamSendQueue

/-- `init`; what the queue held is lost. -/
def init (startSeq : SeqNo) : TCPByteStreamSendQueue := ⟨{}, startSeq, startSeq⟩

def enqueueAppData (q : TCPByteStreamSendQueue) (msg : ByteArrayMessage) :
    Except SendFault TCPByteStreamSendQueue :=
  if msg.byteLength = msg.byteArray.length then
    .ok { q with
      dataBuffer := q.dataBuffer.push msg.byteArray
      endSeq := q.endSeq + BitVec.ofNat 32 msg.byteLength }
  else .error .messageLength

def createSegmentWithBytes (q : TCPByteStreamSendQueue) (fromSeq : SeqNo) (numBytes : ℕ) :
    Except SendFault TCPSegment :=
  if seqLE q.beginSeq fromSeq && seqLE (fromSeq + BitVec.ofNat 32 numBytes) q.endSeq then
    let fromOffs := (fromSeq - q.beginSeq).toNat
    let byteArray := q.dataBuffer.getBytesToBuffer (numBytes % 2 ^ 32) fromOffs
    if byteArray.length = numBytes then
      .ok { sequenceNo := fromSeq, payloadLength := numBytes, byteArray }
    else .error .copiedBytes
  else .error .range

def discardUpTo (q : TCPByteStreamSendQueue) (seqNum : SeqNo) :
    Except SendFault TCPByteStreamSendQueue :=
  if seqLE q.beginSeq seqNum && seqLE seqNum q.endSeq then do
    let dataBuffer ← q.dataBuffer.drop (seqNum - q.beginSeq).toNat
    .ok { q with dataBuffer, beginSeq := seqNum }
  else .error .range

end TCPByteStreamSendQueue

/-! ### The chunks as one list of bytes -/

theorem ByteData.copiedBytes_eq {data : ByteData} {length srcOffs : ℕ}
    (h : data.length + length < 2 ^ 32) :
    data.copiedBytes length srcOffs = (data.drop srcOffs).take length := by
  rw [copiedBytes]
  by_cases hoffs : data.length ≤ srcOffs
  · rw [if_pos hoffs, drop_eq_nil_of_le hoffs, take_nil]
  · rw [if_neg hoffs, Nat.mod_eq_of_lt (by omega)]
    dsimp only
    split_ifs with hlong
    · rw [take_of_length_le (by simp), take_of_length_le (by simp; omega)]
    · rfl

namespace ByteArrayBuffer

variable {l : List ByteData}

/-- What is copied is a piece of the concatenation. -/
theorem getBytes_eq {bufferLength srcOffs : ℕ} (h : l.flatten.length + bufferLength < 2 ^ 32) :
    getBytes l bufferLength srcOffs = (l.flatten.drop srcOffs).take bufferLength := by
  induction l generalizing bufferLength srcOffs with
  | nil => simp [getBytes]
  | cons i rest ih =>
    rw [flatten_cons, length_append] at h
    rw [getBytes, flatten_cons, ByteData.copiedBytes_eq (by omega)]
    by_cases hzero : bufferLength = 0
    · simp [hzero]
    rw [if_neg hzero]
    by_cases hoffs : i.length ≤ srcOffs
    · -- the chunk lies before the piece
      rw [drop_eq_nil_of_le hoffs, take_nil, drop_append, drop_eq_nil_of_le hoffs, nil_append]
      exact ih (by omega)
    · have hlen : ((i.drop srcOffs).take bufferLength).length ≠ 0 := by
        rw [length_take, length_drop]
        omega
      rw [if_pos hlen, ih (by omega), drop_zero, drop_append_of_le_length (by omega),
        take_append, length_take]
      congr 2
      omega

theorem dropBytes_eq {length : ℕ} (h : length ≤ l.flatten.length) :
    ∃ l', dropBytes l length = .ok l' ∧ l'.flatten = l.flatten.drop length := by
  induction l generalizing length with
  | nil =>
    obtain rfl : length = 0 := Nat.le_zero.1 h
    exact ⟨[], rfl, rfl⟩
  | cons front rest ih =>
    rw [flatten_cons, length_append] at h
    cases length with
    | zero => exact ⟨front :: rest, rfl, rfl⟩
    | succ length =>
      rw [dropBytes, flatten_cons]
      by_cases hlen : front.length ≤ length + 1
      · -- the whole chunk goes
        have hrest : length + 1 - front.length ≤ rest.flatten.length := by omega
        obtain ⟨l', hl', hflat⟩ := ih hrest
        refine ⟨l', by rw [if_pos hlen, hl'], ?_⟩
        rw [hflat, drop_append, drop_eq_nil_of_le hlen, nil_append]
      · refine ⟨front.drop (length + 1) :: rest, ?_, ?_⟩
        · rw [if_neg hlen, ByteData.truncateData, if_pos (by omega)]
          simp only [Except.mapError, ok_bind, Nat.add_zero]
          rw [take_of_length_le (by simp)]
        · rw [flatten_cons, drop_append_of_le_length (by omega)]

end ByteArrayBuffer

/-! ### The stream -/

/-- A call of the send queue. -/
inductive SendCall
  | init (startSeq : SeqNo)
  | enqueueAppData (msg : ByteArrayMessage)
  | discardUpTo (seqNum : SeqNo)
  deriving DecidableEq

/-- What was written since the last `init`, and how much of it was discarded. -/
structure WrittenStream where
  startSeq : SeqNo := 0
  bytes : ByteData := []
  discarded : ℕ := 0
  deriving DecidableEq

/-- The sequence number of a byte of the stream. -/
def WrittenStream.seqNo (S : WrittenStream) (k : ℕ) : SeqNo := S.startSeq + BitVec.ofNat 32 k

theorem WrittenStream.exists_pos (S : WrittenStream) : ∃ p : ℤ, ∀ k, S.seqNo k = pos (p + k) := by
  refine ⟨S.startSeq.toNat, fun k => ?_⟩
  have h := Serial.wrap_add_ofNat (w := 32) (S.startSeq.toNat : ℤ) k
  rwa [Serial.wrap_toNat] at h

/-- The queue, beside the stream that was written to it. -/
structure ByteStreamSender where
  queue : TCPByteStreamSendQueue := {}
  stream : WrittenStream := {}
  deriving DecidableEq

namespace ByteStreamSender

section

variable (s : ByteStreamSender)

def call : SendCall → Except SendFault ByteStreamSender
  | .init startSeq => .ok ⟨.init startSeq, { startSeq }⟩
  | .enqueueAppData msg => do
    let queue ← s.queue.enqueueAppData msg
    .ok ⟨queue, { s.stream with bytes := s.stream.bytes ++ msg.byteArray }⟩
  | .discardUpTo seqNum => do
    let queue ← s.queue.discardUpTo seqNum
    let discarded := s.stream.discarded + (seqNum - s.queue.beginSeq).toNat
    .ok ⟨queue, { s.stream with discarded }⟩

/-- The number of bytes that are stored. -/
def buffered : ℕ := s.stream.bytes.length - s.stream.discarded

/-- `end - begin` is the number of the stored bytes, and every piece of the stream that is stored
can be sent. -/
def Correct : Prop :=
  (s.queue.endSeq - s.queue.beginSeq).toNat = s.queue.dataBuffer.dataLength ∧
    s.queue.dataBuffer.dataLength = s.buffered ∧
    ∀ m n, s.stream.discarded ≤ m → m + n ≤ s.stream.bytes.length →
      ∃ seg, s.queue.createSegmentWithBytes (s.stream.seqNo m) n = .ok seg ∧
        seg.sequenceNo = s.stream.seqNo m ∧ seg.payloadLength = n ∧
        seg.byteArray = (s.stream.bytes.drop m).take n

/-- The call leaves fewer bytes than half of the sequence numbers. -/
def HasRoom : SendCall → Prop
  | .enqueueAppData msg => s.buffered + msg.byteArray.length < 2 ^ 31
  | _ => True

end

instance (s : ByteStreamSender) : DecidablePred s.HasRoom
  | .init _ | .discardUpTo _ => isTrue trivial
  | .enqueueAppData msg => inferInstanceAs (Decidable (s.buffered + msg.byteArray.length < 2 ^ 31))

/-- The chunks are the stream from the first byte on that was not discarded. -/
structure Inv (s : ByteStreamSender) : Prop where
  beginSeq_eq : s.queue.beginSeq = s.stream.seqNo s.stream.discarded
  endSeq_eq : s.queue.endSeq = s.stream.seqNo s.stream.bytes.length
  le : s.stream.discarded ≤ s.stream.bytes.length
  flatten_eq : s.queue.dataBuffer.dataList.flatten = s.stream.bytes.drop s.stream.discarded
  dataLength_eq : s.queue.dataBuffer.dataLength = s.buffered

variable {s s' : ByteStreamSender}

theorem Inv.length_flatten (h : s.Inv) :
    s.queue.dataBuffer.dataList.flatten.length = s.buffered := by
  rw [h.flatten_eq, length_drop, buffered]

/-- A piece of the stream that is stored. -/
theorem Inv.createSegmentWithBytes (h : s.Inv) (hlt : s.buffered < 2 ^ 31) {m n : ℕ}
    (hm : s.stream.discarded ≤ m) (hmn : m + n ≤ s.stream.bytes.length) :
    s.queue.createSegmentWithBytes (s.stream.seqNo m) n = .ok
      { sequenceNo := s.stream.seqNo m
        payloadLength := n
        byteArray := (s.stream.bytes.drop m).take n } := by
  obtain ⟨p, hp⟩ := s.stream.exists_pos
  have hlen := h.length_flatten
  rw [buffered] at hlt hlen
  have hrange : (seqLE s.queue.beginSeq (s.stream.seqNo m) &&
      seqLE (s.stream.seqNo m + BitVec.ofNat 32 n) s.queue.endSeq) = true := by
    rw [h.beginSeq_eq, h.endSeq_eq, hp, hp, hp, Serial.wrap_add_ofNat,
      seqLE_pos (by omega) (by omega), seqLE_pos (by omega) (by omega)]
    simp only [Bool.and_eq_true, decide_eq_true_eq]
    omega
  have hoffs : (s.stream.seqNo m - s.queue.beginSeq).toNat = m - s.stream.discarded := by
    rw [h.beginSeq_eq, hp, hp, dist_pos (by omega) (by omega)]
    omega
  have hbytes : s.queue.dataBuffer.getBytesToBuffer n (m - s.stream.discarded) =
      (s.stream.bytes.drop m).take n := by
    rw [ByteArrayBuffer.getBytesToBuffer, ByteArrayBuffer.getBytes_eq (by omega), h.flatten_eq,
      drop_drop, Nat.add_sub_cancel' hm]
  rw [TCPByteStreamSendQueue.createSegmentWithBytes, if_pos hrange, hoffs,
    Nat.mod_eq_of_lt (by omega)]
  dsimp only
  rw [hbytes, if_pos]
  rw [length_take, length_drop]
  omega

/-- The calls are correct exactly as long as the sequence numbers of the bytes are comparable. -/
theorem Inv.correct_iff (h : s.Inv) : s.Correct ↔ s.buffered < 2 ^ 31 := by
  obtain ⟨p, hp⟩ := s.stream.exists_pos
  have hle := h.le
  constructor
  · intro hcorrect
    by_contra hge
    rw [buffered] at hge
    -- not even an empty segment can begin 2 ^ 31 bytes after the first one
    obtain ⟨seg, hseg, -⟩ := hcorrect.2.2 (s.stream.discarded + 2 ^ 31) 0 (by omega) (by omega)
    have hfar : seqLE s.queue.beginSeq (s.stream.seqNo (s.stream.discarded + 2 ^ 31)) = false := by
      rw [h.beginSeq_eq, hp, hp, seqLE, dist_pos (by omega) (by omega), decide_eq_false_iff_not]
      omega
    rw [TCPByteStreamSendQueue.createSegmentWithBytes, hfar] at hseg
    cases hseg
  · intro hlt
    refine ⟨?_, h.dataLength_eq, fun m n hm hmn =>
      ⟨_, h.createSegmentWithBytes hlt hm hmn, rfl, rfl, rfl⟩⟩
    rw [h.dataLength_eq, h.beginSeq_eq, h.endSeq_eq, hp, hp]
    rw [buffered] at hlt ⊢
    rw [dist_pos (by omega) (by omega)]
    omega

variable {k : SendCall}

theorem Inv.call (h : s.Inv) (hk : s.call k = .ok s') : s'.Inv := by
  have hle := h.le
  cases k with
  | init startSeq =>
    cases hk
    refine ⟨?_, ?_, le_rfl, rfl, rfl⟩
    · simp [WrittenStream.seqNo, TCPByteStreamSendQueue.init]
    · simp [WrittenStream.seqNo, TCPByteStreamSendQueue.init]
  | enqueueAppData msg =>
    obtain ⟨q, hq, hk⟩ := bind_eq_ok.1 hk
    cases hk
    rw [TCPByteStreamSendQueue.enqueueAppData] at hq
    split_ifs at hq with hlen
    cases hq
    refine ⟨h.beginSeq_eq, ?_, ?_, ?_, ?_⟩
    · change s.queue.endSeq + BitVec.ofNat 32 msg.byteLength = _
      rw [h.endSeq_eq, WrittenStream.seqNo, WrittenStream.seqNo, hlen, length_append,
        ofNat_add, BitVec.add_assoc]
    · change s.stream.discarded ≤ (s.stream.bytes ++ msg.byteArray).length
      rw [length_append]
      omega
    · change (s.queue.dataBuffer.dataList ++ [msg.byteArray]).flatten =
        (s.stream.bytes ++ msg.byteArray).drop s.stream.discarded
      rw [flatten_append, h.flatten_eq, drop_append_of_le_length hle]
      simp
    · change s.queue.dataBuffer.dataLength + msg.byteArray.length =
        (s.stream.bytes ++ msg.byteArray).length - s.stream.discarded
      rw [h.dataLength_eq, buffered, length_append]
      omega
  | discardUpTo seqNum =>
    obtain ⟨q, hq, hk⟩ := bind_eq_ok.1 hk
    cases hk
    rw [TCPByteStreamSendQueue.discardUpTo] at hq
    split_ifs at hq
    obtain ⟨b, hb, hq⟩ := bind_eq_ok.1 hq
    cases hq
    rw [ByteArrayBuffer.drop] at hb
    split_ifs at hb with hlen
    obtain ⟨l, hl, hb⟩ := bind_eq_ok.1 hb
    cases hb
    have hflat := h.length_flatten
    rw [h.dataLength_eq] at hlen
    obtain ⟨l', hl', hdrop⟩ := ByteArrayBuffer.dropBytes_eq (hlen.trans hflat.ge)
    cases hl.symm.trans hl'
    rw [buffered] at hlen
    refine ⟨?_, h.endSeq_eq, ?_, ?_, ?_⟩
    · change seqNum = s.stream.startSeq + BitVec.ofNat 32 (s.stream.discarded + _)
      rw [ofNat_add, ← BitVec.add_assoc, ofNat_toNat, setWidth_eq,
        show s.stream.startSeq + BitVec.ofNat 32 s.stream.discarded = s.queue.beginSeq from
          h.beginSeq_eq.symm, BitVec.add_comm, BitVec.sub_add_cancel]
    · change s.stream.discarded + _ ≤ s.stream.bytes.length
      omega
    · change l.flatten = s.stream.bytes.drop (s.stream.discarded + _)
      rw [hdrop, h.flatten_eq, drop_drop]
    · change s.queue.dataBuffer.dataLength - _ = s.stream.bytes.length - (s.stream.discarded + _)
      rw [h.dataLength_eq, buffered, Nat.sub_sub]

theorem Inv.buffered_call (h : s.Inv) (hk : s.call k = .ok s') (hlt : s.buffered < 2 ^ 31) :
    s'.buffered < 2 ^ 31 ↔ s.HasRoom k := by
  have hle := h.le
  cases k with
  | init startSeq =>
    cases hk
    exact iff_of_true (Nat.two_pow_pos 31) trivial
  | enqueueAppData msg =>
    obtain ⟨q, -, hk⟩ := bind_eq_ok.1 hk
    cases hk
    change (s.stream.bytes ++ msg.byteArray).length - s.stream.discarded < 2 ^ 31 ↔
      s.stream.bytes.length - s.stream.discarded + msg.byteArray.length < 2 ^ 31
    rw [length_append]
    omega
  | discardUpTo seqNum =>
    obtain ⟨q, -, hk⟩ := bind_eq_ok.1 hk
    cases hk
    refine iff_of_true ?_ trivial
    change s.stream.bytes.length - (s.stream.discarded + _) < 2 ^ 31
    rw [buffered] at hlt
    omega

/-- In every state of a run from a new queue the segments carry the bytes of the stream, and
`end - begin` is the number of the stored bytes, exactly if every `enqueueAppData` of the run has
room. -/
theorem always_correct_iff {calls : List SendCall}
    (hrun : Run call (fun _ _ => True) {} calls s) :
    (∀ calls₁ s₁, calls₁ <+: calls → Run call (fun _ _ => True) {} calls₁ s₁ →
      s₁.Correct) ↔
      Run call (fun s k => True ∧ s.HasRoom k) {} calls s := by
  have hempty : Inv {} := ⟨by decide, by decide, le_rfl, rfl, rfl⟩
  have hnone : buffered {} < 2 ^ 31 := by decide
  refine Run.always_iff (J := fun s => s.Inv ∧ s.buffered < 2 ^ 31) ?_ ?_ hrun
    ⟨hempty, hnone⟩ (hempty.correct_iff.2 hnone)
  · rintro s k s' ⟨h, hlt⟩ - hroom hk
    exact ⟨h.call hk, (h.buffered_call hk hlt).2 hroom⟩
  · rintro s k s' ⟨h, hlt⟩ - hk
    exact (h.call hk).correct_iff.trans (h.buffered_call hk hlt)

theorem always_correct_iff_three : ∃ s : ByteStreamSender,
    s.stream.bytes = [1, 2, 3, 4, 5] ∧ s.stream.discarded = 1 ∧ s.Correct := by
  let calls : List SendCall :=
    [.init 7, .enqueueAppData ⟨3, [1, 2, 3]⟩, .discardUpTo 8, .enqueueAppData ⟨2, [4, 5]⟩]
  have hrun : Run call (fun s k => True ∧ s.HasRoom k) {} calls
      ⟨⟨⟨[[2, 3], [4, 5]], 4⟩, 8, 12⟩, ⟨7, [1, 2, 3, 4, 5], 1⟩⟩ :=
    .cons ⟨trivial, trivial⟩ rfl (.cons ⟨trivial, by decide⟩ rfl
      (.cons ⟨trivial, trivial⟩ rfl (.cons ⟨trivial, by decide⟩ rfl (.nil _))))
  have hrun' := hrun.mono (Q := fun _ _ => True) fun _ _ _ => trivial
  exact ⟨_, rfl, rfl, (always_correct_iff hrun').2 hrun calls _ (prefix_refl _) hrun'⟩

/-- After a message of `2 ^ 31 + 1` bytes its last byte cannot be sent. -/
theorem createSegmentWithBytes_full : ∃ (data : ByteData) (s : ByteStreamSender),
    data.length = 2 ^ 31 + 1 ∧
      Run call (fun _ _ => True) {} [.init 0, .enqueueAppData ⟨2 ^ 31 + 1, data⟩] s ∧
      s.stream = ⟨0, data, 0⟩ ∧
      s.queue.createSegmentWithBytes (s.stream.seqNo (2 ^ 31)) 1 = .error .range := by
  obtain ⟨data, hdata⟩ : ∃ data : ByteData, data.length = 2 ^ 31 + 1 :=
    ⟨List.replicate (2 ^ 31 + 1) 0, length_replicate⟩
  have hcall : call ⟨.init 0, {}⟩ (.enqueueAppData ⟨2 ^ 31 + 1, data⟩) =
      .ok ⟨⟨⟨[data], data.length⟩, 0, BitVec.ofNat 32 (2 ^ 31 + 1)⟩, ⟨0, data, 0⟩⟩ := by
    simp [call, TCPByteStreamSendQueue.enqueueAppData, TCPByteStreamSendQueue.init,
      ByteArrayBuffer.push, hdata]
  have hfar : seqLE 0 (0 + BitVec.ofNat 32 (2 ^ 31)) = false := by decide
  refine ⟨data, _, hdata, .cons trivial rfl (.cons trivial hcall (.nil _)), rfl, ?_⟩
  rw [TCPByteStreamSendQueue.createSegmentWithBytes, WrittenStream.seqNo, hfar]
  rfl

end ByteStreamSender

end Hiwis
