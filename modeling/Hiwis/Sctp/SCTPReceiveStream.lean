import Hiwis.Lib.Trace
import Hiwis.Sctp.SCTPQueue

/-!
# Reassembly and delivery of a stream

An SCTP stream keeps the data chunks it has received in three queues: of the ordered messages, of
the fragments of unordered messages, and of the messages that are ready for the application.
`enqueueNewDataChunk` takes a new chunk, `putInDeliveryQ` moves the ordered messages whose turn it
is.  Both give, besides their results, the chunks they have put into the delivery queue.
-/

namespace Hiwis

namespace SCTP

/-- Where the code does something undefined. -/
inductive SCTPError
  /-- The entry past the end of a queue, or a null pointer, is used. -/
  | noChunk
  /-- An array is indexed out of its bounds. -/
  | arrayIndex
deriving DecidableEq

structure SCTPReceiveStream where
  expectedStreamSeqNum : ℕ := 0
  deliveryQ : SCTPQueue := []
  orderedQ : SCTPQueue := []
  unorderedQ : SCTPQueue := []
deriving DecidableEq

/-- The walk down to the first fragment. -/
def findBegin (queue : SCTPQueue) : ℕ → TSN → TSN
  | 0, begintsn => begintsn
  | n + 1, begintsn =>
    match queue.getChunk begintsn with
    | none => begintsn
    | some chunk => if chunk.bbit then begintsn else findBegin queue n (begintsn - 1)

/-- The walk up to the last fragment. -/
def findEnd (queue : SCTPQueue) : ℕ → TSN → TSN
  | 0, endtsn => endtsn
  | n + 1, endtsn =>
    match queue.getChunk endtsn with
    | none => endtsn
    | some chunk => if chunk.ebit then endtsn else findEnd queue n (endtsn + 1)

/-- The bytes of `processSimple` are copied behind those of the message so far. -/
def copyData (firstVar processVar : SCTPDataVariables) : Except SCTPError SCTPSimpleMessage :=
  let firstSimple := firstVar.userData
  let processSimple := processVar.userData
  if 0 < firstSimple.data.length ∧ 0 < processSimple.data.length then
    let array := firstSimple.data ++ List.replicate processSimple.data.length 0
    if processVar.len / 8 ≤ processSimple.data.length ∧
        processVar.len / 8 + firstVar.len / 8 ≤ array.length then
      .ok
        { data := array.take (firstVar.len / 8) ++ processSimple.data.take (processVar.len / 8) ++
            array.drop (firstVar.len / 8 + processVar.len / 8)
          dataLen := firstSimple.dataLen + processSimple.dataLen
          byteLength := firstSimple.byteLength + processSimple.byteLength }
    else .error .arrayIndex
  else .ok firstSimple

/-- The fragments after the first one are taken out of the queue and appended to it. -/
def mergeFragments (endtsn : TSN) :
    ℕ → SCTPQueue → TSN → SCTPDataVariables → Except SCTPError (SCTPQueue × SCTPDataVariables)
  | 0, _, _, _ => .error .noChunk
  | n + 1, queue, begintsn, firstVar =>
    -- the numbers are compared as they are, not as serial numbers
    if (begintsn + 1).toNat ≤ endtsn.toNat then
      match queue.getAndExtractChunk (begintsn + 1) with
      | none => .error .noChunk
      | some (processVar, queue) => do
        let userData ← copyData firstVar processVar
        mergeFragments endtsn n queue (begintsn + 1)
          { firstVar with
            userData := userData
            len := (firstVar.len + processVar.len) % 2 ^ 32 }
    else .ok (queue, firstVar)

/-- The queue with the message reassembled, if it is complete, and the TSN of the result. -/
def reassemble (queue : SCTPQueue) (tsn : TSN) : Except SCTPError (SCTPQueue × TSN) :=
  let begintsn := findBegin queue (queue.length + 1) tsn
  match queue.getChunk begintsn with
  | none => .ok (queue, tsn)
  | some firstVar =>
    let endtsn := findEnd queue (queue.length + 1) begintsn
    match queue.getChunk endtsn with
    | none => .ok (queue, tsn)
    | some _ => do
      let (queue, firstVar) ←
        mergeFragments endtsn (queue.length + 1) queue begintsn firstVar
      -- the first chunk stays in the queue and is changed there
      let firstVar := { firstVar with ebit := true }
      .ok ((queue.eraseKey begintsn).insertEntry begintsn firstVar, firstVar.tsn)

namespace SCTPReceiveStream

/-- The stream, the result, and the chunks that were put into the delivery queue. -/
def enqueueUnordered (s : SCTPReceiveStream) (dchunk : SCTPDataVariables) :
    Except SCTPError (SCTPReceiveStream × ℕ × List SCTPDataVariables) :=
  if dchunk.bbit ∧ dchunk.ebit then
    match s.deliveryQ.checkAndInsertChunk dchunk.tsn dchunk with
    | (deliveryQ, true) => .ok ({ s with deliveryQ := deliveryQ }, 2, [dchunk])
    | (deliveryQ, false) => .ok ({ s with deliveryQ := deliveryQ }, 0, [])
  else do
    let (unorderedQ, reassembled) ←
      reassemble (s.unorderedQ.checkAndInsertChunk dchunk.tsn dchunk).1 dchunk.tsn
    let s := { s with unorderedQ := unorderedQ }
    match unorderedQ.getChunk reassembled with
    | none => .error .noChunk
    | some chunk =>
      -- the B bit is tested twice, the E bit is not
      if chunk.bbit ∧ chunk.bbit then
        match unorderedQ.getAndExtractChunk reassembled with
        | none => .error .noChunk
        | some (chunk, unorderedQ) =>
          let s := { s with unorderedQ := unorderedQ }
          match s.deliveryQ.checkAndInsertChunk reassembled chunk with
          | (deliveryQ, true) => .ok ({ s with deliveryQ := deliveryQ }, 2, [chunk])
          | (deliveryQ, false) => .ok ({ s with deliveryQ := deliveryQ }, 3, [])
      else .ok (s, 3, [])

/-- The number of the message that is expected next. -/
def nextSeqNum (expectedStreamSeqNum : ℕ) : ℕ :=
  if 65535 < expectedStreamSeqNum + 1 then 0 else expectedStreamSeqNum + 1

/-- The ordered message whose turn it is, if it is complete, goes to the delivery queue. -/
def dequeueExpected (s : SCTPReceiveStream) :
    Option (SCTPReceiveStream × List SCTPDataVariables) :=
  match s.orderedQ.dequeueChunkBySSN (BitVec.ofNat 16 s.expectedStreamSeqNum) with
  | none => none
  | some (chunk, orderedQ) =>
    match s.deliveryQ.checkAndInsertChunk chunk.tsn chunk with
    | (deliveryQ, true) =>
      some ({ s with
              orderedQ := orderedQ
              deliveryQ := deliveryQ
              expectedStreamSeqNum := nextSeqNum s.expectedStreamSeqNum }, [chunk])
    | (deliveryQ, false) => some ({ s with orderedQ := orderedQ, deliveryQ := deliveryQ }, [])

/-- Only the arrival of a fragment calls for a reassembly. -/
def reassembleFragment (orderedQ : SCTPQueue) (dchunk : SCTPDataVariables) :
    Except SCTPError SCTPQueue :=
  if !dchunk.bbit || !dchunk.ebit then (reassemble orderedQ dchunk.tsn).map Prod.fst
  else .ok orderedQ

/-- The end of the ordered delivery: one message may go to the delivery queue. -/
def deliverNext (s : SCTPReceiveStream) (delivery : ℕ) :
    SCTPReceiveStream × ℕ × List SCTPDataVariables :=
  if 0 < s.orderedQ.length then
    match s.dequeueExpected with
    | none => (s, delivery, [])
    | some (s, []) => (s, delivery, [])
    | some (s, moved) => (s, 2, moved)
  else (s, delivery, [])

def enqueueOrdered (s : SCTPReceiveStream) (dchunk : SCTPDataVariables) :
    Except SCTPError (SCTPReceiveStream × ℕ × List SCTPDataVariables) := do
  let (orderedQ, inserted) := s.orderedQ.checkAndInsertChunk dchunk.tsn dchunk
  let orderedQ ← reassembleFragment orderedQ dchunk
  let delivery := if !dchunk.bbit || !dchunk.ebit then 3 else if inserted then 1 else 0
  .ok (deliverNext { s with orderedQ := orderedQ } delivery)

def enqueueNewDataChunk (s : SCTPReceiveStream) (dchunk : SCTPDataVariables) :
    Except SCTPError (SCTPReceiveStream × ℕ × List SCTPDataVariables) :=
  if dchunk.ordered then s.enqueueOrdered dchunk else s.enqueueUnordered dchunk

/-- The rounds of `putInDeliveryQ`, each of which takes a chunk out of the ordered queue. -/
def putRounds : ℕ → SCTPReceiveStream → List SCTPDataVariables →
    SCTPReceiveStream × List SCTPDataVariables
  | 0, s, moved => (s, moved)
  | n + 1, s, moved =>
    if 0 < s.orderedQ.length then
      match s.dequeueExpected with
      | none => (s, moved)
      | some (s, chunks) => putRounds n s (moved ++ chunks)
    else (s, moved)

def putInDeliveryQ (s : SCTPReceiveStream) : SCTPReceiveStream × List SCTPDataVariables :=
  putRounds s.orderedQ.length s []

/-- A data chunk arrives: it is enqueued, and if something may be ready, it is put into the
delivery queue. -/
def processDataArrived (s : SCTPReceiveStream) (dchunk : SCTPDataVariables) :
    Except SCTPError (SCTPReceiveStream × List SCTPDataVariables) := do
  let (s, ret, moved) ← s.enqueueNewDataChunk dchunk
  if 0 < ret ∧ ret < 3 then
    let (s, chunks) := s.putInDeliveryQ
    .ok (s, moved ++ chunks)
  else .ok (s, moved)

/-- The application takes the first message. -/
def extractMessage (s : SCTPReceiveStream) : SCTPReceiveStream :=
  match s.deliveryQ.extractMessage with
  | none => s
  | some (_, deliveryQ) => { s with deliveryQ := deliveryQ }

end SCTPReceiveStream

end SCTP

end Hiwis
