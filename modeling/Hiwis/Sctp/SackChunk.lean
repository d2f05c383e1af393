import Hiwis.Lib.Binary64
import Hiwis.Lib.Trace
import Hiwis.Sctp.SCTPGapList

/-!
# The SACK chunk

`createSack` makes the chunk that acknowledges the received TSNs: the cumulative acknowledgement,
the blocks above it that may and that may not be revoked, and the TSNs that were received more than
once.  A chunk that is too long for a packet is shortened.

The sizes are natural numbers; where the source computes with 32 or 64 bits and may overflow, the
modulus is written out.  The statistics are left out.
-/

namespace Hiwis

namespace SCTP

/-- `SCTPGapList::GapType`. -/
inductive GapType
  | any | revokable | nonRevokable
deriving DecidableEq

namespace SCTPGapList

/-- The simple gap list of a type. -/
def blocks (g : SCTPGapList) : GapType → SCTPSimpleGapList
  | .any => g.combinedGapList
  | .revokable => g.revokableGapList
  | .nonRevokable => g.nonRevokableGapList

def getNumGaps (g : SCTPGapList) (type : GapType) : ℕ := (g.blocks type).length

end SCTPGapList

/-- `SCTPSackChunk`.  The starts and the stops of the blocks are two arrays of the same size. -/
structure SCTPSackChunk where
  isNrSack : Bool
  cumTsnAck : TSN
  a_rwnd : BitVec 32
  msg_rwnd : BitVec 32
  sackSeqNum : BitVec 32
  numGaps : BitVec 16 := 0
  gaps : List GapBlock := []
  numNrGaps : BitVec 16 := 0
  nrGaps : List GapBlock := []
  numDupTsns : BitVec 16 := 0
  dupTsns : List TSN := []
  nrSubtractRGaps : Bool := false
  byteLength : ℕ := 0
deriving DecidableEq

/-- The values of `gapListOptimizationVariant`. -/
inductive GapListOptimization
  | none | optimized1 | optimized2 | shrunken
deriving DecidableEq

/-- `gapListOptimizationVariant >= GLOV_Optimized2`. -/
def GapListOptimization.isOptimized2 : GapListOptimization → Bool
  | .none | .optimized1 => false
  | .optimized2 | .shrunken => true

/-- What `createSack` reads of the association and does not change. -/
structure SackSettings where
  nrSack : Bool := false
  gapListOptimizationVariant : GapListOptimization := .none
  smartOverfullSACKHandling : Bool := false
  gapReportLimit : ℕ := 100000000
  /-- The path MTU of the remote address. -/
  pmtu : BitVec 32 := 1500
  /-- Whether the remote address is one of IPv6. -/
  isIPv6 : Bool := false
  localRwnd : BitVec 64 := 65535
  localMsgRwnd : BitVec 32 := 0
  messageAcceptLimit : BitVec 32 := 0
  bytesToAddPerRcvdChunk : BitVec 32 := 0
  swsLimit : BitVec 32 := 3000
  tellArwnd : Bool := false
deriving DecidableEq

/-- The rest of the state that `createSack` reads. -/
structure SackState where
  gapList : SCTPGapList
  dupList : List TSN := []
  queuedReceivedBytes : BitVec 64 := 0
  bufferedMessages : BitVec 32 := 0
  swsMsgInvoked : Bool := false
  swsAvoidanceInvoked : Bool := false
  outgoingSackSeqNum : BitVec 32 := 0
deriving DecidableEq

/-- The assertions of `createSack` and of its helpers. -/
inductive SackFault
  /-- The blocks of a gap list are not in order. -/
  | gapList
  /-- A value does not fit into the buffer for the compressed blocks. -/
  | buffer
  /-- Not all of the combined blocks are copied. -/
  | numGaps
  /-- `assert(sackLength <= allowedLength)`. -/
  | sackLength
  /-- `assert(false)`: a limit on the number of compressed blocks. -/
  | notImplemented
deriving DecidableEq

/-! ### The receiver window -/

section

variable (cfg : SackSettings) (s : SackState)

/-- The buffer space that is left, with what each buffered message takes in addition. -/
def SackSettings.freeSpace : BitVec 64 :=
  cfg.localRwnd - s.queuedReceivedBytes -
    (s.bufferedMessages * cfg.bytesToAddPerRcvdChunk).setWidth 64

/-- The window in terms of messages, `msgRwnd`. -/
def SackState.msgWindow : BitVec 32 × SackState :=
  let free := cfg.freeSpace s
  if cfg.messageAcceptLimit ≠ 0 ∧ (cfg.localMsgRwnd - s.bufferedMessages).toInt ≤ 0 ∨
      cfg.messageAcceptLimit = 0 ∧ (free.setWidth 32).toInt ≤ 0 then (0, s)
  else if cfg.messageAcceptLimit ≠ 0 ∧ (cfg.localMsgRwnd - s.bufferedMessages).toInt < 3 ∨
      cfg.messageAcceptLimit = 0 ∧ free < cfg.swsLimit.setWidth 64 ∨ s.swsMsgInvoked then
    (1, { s with swsMsgInvoked := true })
  else if cfg.messageAcceptLimit ≠ 0 then (cfg.localMsgRwnd - s.bufferedMessages, s)
  else (free.setWidth 32, s)

/-- The advertised window, `arwnd`. -/
def SackState.advertise : BitVec 32 × SackState :=
  let (msgRwnd, s) := s.msgWindow cfg
  let free := cfg.localRwnd - s.queuedReceivedBytes
  let avoid := { s with swsAvoidanceInvoked := s.swsAvoidanceInvoked || cfg.swsLimit != 0 }
  if cfg.tellArwnd then (msgRwnd, s)
  else if (free.setWidth 32).toInt ≤ 0 then (0, avoid)
  else if free < cfg.swsLimit.setWidth 64 ∨ s.swsAvoidanceInvoked then (1, avoid)
  else (free.setWidth 32, s)

end

/-! ### The gap lists -/

/-- The assertions on the blocks that follow the TSN `last`. -/
def inOrder (last : TSN) : List GapBlock → Bool
  | [] => true
  | b :: bs => tsnGt b.start (last + 1) && tsnGe b.stop b.start && inOrder b.stop bs

/-- How many bytes `writeCompressedValue` writes for a value. -/
def compressedSize (value : BitVec 16) : ℕ :=
  if value < 0x80 then 1 else if value < 0x4000 then 2 else 3

/-- `writeCompressedValue`: the position behind the value, if the value fits into the buffer.  What
is written is not used. -/
def writeCompressedValue (outputBufferSize pos : ℕ) (value : BitVec 16) : Option ℕ :=
  if outputBufferSize < pos + compressedSize value then none else some (pos + compressedSize value)

/-- The loop of `compressGaps`: how many blocks are written, and how many bytes. -/
def compressLoop (bufferSize space : ℕ) :
    TSN → List GapBlock → ℕ → ℕ → Except SackFault (ℕ × ℕ)
  | _, [], outputPos, entriesWritten => .ok (entriesWritten, outputPos)
  | last, b :: bs, outputPos, entriesWritten =>
    if !(tsnGt b.start (last + 1) && tsnGe b.stop b.start) then .error .gapList
    else
      let startOffset := (b.start - last).setWidth 16
      let stopOffset := (b.stop - b.start).setWidth 16
      match (writeCompressedValue bufferSize outputPos startOffset).bind
        (writeCompressedValue bufferSize · stopOffset) with
      | none => .ok (entriesWritten, outputPos)
      | some pos =>
        if space < pos + 1 then .ok (entriesWritten, outputPos)
        else compressLoop bufferSize space b.stop bs pos (entriesWritten + 1)

/-- `compressGaps`: the number of the blocks that are written, and the space that they take. -/
def compressGaps (g : SCTPGapList) (type : GapType) (space : ℕ) : Except SackFault (ℕ × ℕ) := do
  let bufferSize := 1 + 6 * g.getNumGaps type
  let (entriesWritten, outputPos) ←
    compressLoop bufferSize space g.cumAckTSN (g.blocks type) 0 0
  match writeCompressedValue bufferSize outputPos 0 with
  | some pos => pure (entriesWritten, pos)
  | none => .error .buffer

/-- The blocks that `copyToRGaps` and `copyToNRGaps` copy, how many of them count, and the space
that these take. -/
def copyGaps (g : SCTPGapList) (type : GapType) (compression : Bool) (space : ℕ) :
    Except SackFault (List GapBlock × ℕ × ℕ) :=
  -- the numbers are compared as `double`, which is exact for the smaller one
  let keys := if compression then g.getNumGaps type else min (space / 4) (g.getNumGaps type)
  let copied := (g.blocks type).take keys
  if !inOrder g.cumAckTSN copied then .error .gapList
  else if compression then do
    let (keys, space) ← compressGaps g type space
    pure (copied, keys, space)
  else .ok (copied, keys, 4 * keys)

/-- An array gets another size: its end is cut off, or filled with zeros. -/
def setArraySize (size : ℕ) (array : List GapBlock) : List GapBlock :=
  array.take size ++ List.replicate (size - array.length) ⟨0, 0⟩

/-- `copyToRGaps`: the chunk, the number of blocks, and the space. -/
def copyToRGaps (chunk : SCTPSackChunk) (g : SCTPGapList) (type : GapType) (compression : Bool)
    (space : ℕ) : Except SackFault (SCTPSackChunk × ℕ × ℕ) := do
  let (copied, keys, space) ← copyGaps g type compression space
  let chunk := { chunk with gaps := copied, numGaps := .ofNat 16 copied.length }
  -- the size of the other arrays is set after the compression
  if compression then pure ({ chunk with nrGaps := setArraySize keys chunk.nrGaps }, keys, space)
  else pure (chunk, keys, space)

/-- `copyToNRGaps`: the chunk, the number of blocks, and the space. -/
def copyToNRGaps (chunk : SCTPSackChunk) (g : SCTPGapList) (type : GapType) (compression : Bool)
    (space : ℕ) : Except SackFault (SCTPSackChunk × ℕ × ℕ) := do
  let (copied, keys, space) ← copyGaps g type compression space
  let chunk := { chunk with nrGaps := copied, numNrGaps := .ofNat 16 copied.length }
  if compression then pure ({ chunk with nrGaps := setArraySize keys chunk.nrGaps }, keys, space)
  else pure (chunk, keys, space)

/-! ### The chunk -/

/-- The chunk with the sizes of its parts, as `createSack` has them in its variables. -/
structure SackDraft where
  chunk : SCTPSackChunk
  sackHeaderLength : ℕ
  numRevokableGaps : ℕ
  revokableGapsSpace : ℕ
  numNonRevokableGaps : ℕ
  nonRevokableGapsSpace : ℕ
deriving DecidableEq

/-- `SCTP_COMMON_HEADER`. -/
def sctpCommonHeader : BitVec 32 := 12

/-- `SCTP_SACK_CHUNK_LENGTH`. -/
def sctpSackChunkLength : BitVec 32 := 16

/-- `SCTP_NRSACK_CHUNK_LENGTH`. -/
def sctpNrSackChunkLength : ℕ := 20

/-- `SCTP_COMPRESSED_NRSACK_CHUNK_LENGTH`. -/
def sctpCompressedNrSackChunkLength : ℕ := 16

/-- The space before it is limited, `~0`. -/
def noLimit : ℕ := 2 ^ 64 - 1

namespace SackSettings

variable (cfg : SackSettings)

/-- `allowedLength`. -/
def allowedLength : ℕ :=
  (cfg.pmtu - (if cfg.isIPv6 then 40 else 20) - sctpCommonHeader - sctpSackChunkLength).toNat

section

variable (g : SCTPGapList)

/-- `compression`. -/
def compression : Bool :=
  cfg.gapListOptimizationVariant == .shrunken &&
    decide (0 < g.getNumGaps .revokable ∨ 0 < g.getNumGaps .nonRevokable)

/-- The header of an NR-SACK. -/
def nrHeaderLength : ℕ :=
  if cfg.compression g then sctpCompressedNrSackChunkLength else sctpNrSackChunkLength

/-- R=ANY, NR=non-revokable. -/
def isOptimization1 : Bool :=
  let optR : ℤ := g.getNumGaps .revokable - g.getNumGaps .any
  let optNR : ℤ := g.getNumGaps .nonRevokable - g.getNumGaps .any
  cfg.nrSack &&
    (decide (0 < optR) && cfg.gapListOptimizationVariant == .optimized1 ||
      decide (0 < optR) && decide (optNR ≤ optR) && cfg.gapListOptimizationVariant.isOptimized2)

/-- NR=ANY, R=difference. -/
def isOptimization2 : Bool :=
  let optNR : ℤ := g.getNumGaps .nonRevokable - g.getNumGaps .any
  cfg.nrSack && decide (0 < optNR) && cfg.gapListOptimizationVariant.isOptimized2

/-- Both lists of an NR-SACK are copied without a limit. -/
def fillNrSack (chunk : SCTPSackChunk) (typeR typeNR : GapType) :
    Except SackFault SackDraft := do
  let (chunk, numRevokableGaps, revokableGapsSpace) ←
    copyToRGaps chunk g typeR (cfg.compression g) noLimit
  let (chunk, numNonRevokableGaps, nonRevokableGapsSpace) ←
    copyToNRGaps chunk g typeNR (cfg.compression g) noLimit
  pure ⟨chunk, cfg.nrHeaderLength g, numRevokableGaps, revokableGapsSpace, numNonRevokableGaps,
    nonRevokableGapsSpace⟩

/-- What has to be stored in the chunk. -/
def fillGaps (chunk : SCTPSackChunk) : Except SackFault SackDraft :=
  if cfg.isOptimization1 g then do
    let d ← cfg.fillNrSack g chunk .any .nonRevokable
    if d.numRevokableGaps ≠ g.getNumGaps .any then .error .numGaps else pure d
  else if cfg.isOptimization2 g then do
    let d ← cfg.fillNrSack g { chunk with nrSubtractRGaps := true } .revokable .any
    if d.numNonRevokableGaps ≠ g.getNumGaps .any then .error .numGaps else pure d
  else if cfg.nrSack then cfg.fillNrSack g chunk .revokable .nonRevokable
  else do
    let (chunk, numRevokableGaps, revokableGapsSpace) ← copyToRGaps chunk g .any false noLimit
    pure ⟨chunk, sctpSackChunkLength.toNat, numRevokableGaps, revokableGapsSpace, 0, 0⟩

end

/-- `revokableFraction`.  When there are no blocks, it is not a number, and nothing is taken away
from the numbers of blocks. -/
def revokableFraction (numRevokableGaps numNonRevokableGaps : ℕ) : ℚ :=
  Binary64.nearest (numRevokableGaps / (numRevokableGaps + numNonRevokableGaps : ℕ))

/-- `removeRevokable`. -/
def removeRevokable (blocksBeRemoved numRevokableGaps numNonRevokableGaps : ℕ) : ℕ :=
  let fraction := revokableFraction numRevokableGaps numNonRevokableGaps
  ⌈Binary64.nearest (blocksBeRemoved * fraction)⌉.toNat

/-- `removeNonRevokable`. -/
def removeNonRevokable (blocksBeRemoved numRevokableGaps numNonRevokableGaps : ℕ) : ℕ :=
  let fraction := revokableFraction numRevokableGaps numNonRevokableGaps
  ⌈Binary64.nearest (blocksBeRemoved * Binary64.nearest (1 - fraction))⌉.toNat

end SackSettings

namespace SackDraft

/-- `sackLength` of a chunk that reports `numDups` duplicates. -/
def sackLength (d : SackDraft) (numDups : ℕ) : ℕ :=
  (d.sackHeaderLength + d.revokableGapsSpace + d.nonRevokableGapsSpace + numDups * 4) % 2 ^ 32

/-- The difference of two sizes of 64 bits. -/
def sizeSub (a b : ℕ) : ℕ := (a + 2 ^ 64 - b) % 2 ^ 64

/-- The type of the revokable blocks of a chunk that is shortened. -/
def shortenedType (g : SCTPGapList) : GapType :=
  if g.getNumGaps .any < g.getNumGaps .revokable then .any else .revokable

section

variable (d : SackDraft) (g : SCTPGapList) (compression : Bool) (allowedLength : ℕ)

/-- The revokable blocks are limited to the allowed length. -/
def shortenRGaps :
    Except SackFault SackDraft := do
  let chunk := { d.chunk with nrSubtractRGaps := false }
  let (chunk, numRevokableGaps, revokableGapsSpace) ← copyToRGaps chunk g (shortenedType g)
    compression (sizeSub allowedLength d.sackHeaderLength)
  pure { d with chunk, numRevokableGaps, revokableGapsSpace }

/-- `smartOverfullSACKHandling`: the draft, and `sackLength`. -/
def shortenSmart :
    Except SackFault (SackDraft × ℕ) :=
  if d.sackHeaderLength + d.revokableGapsSpace < allowedLength then do
    let (chunk, numNonRevokableGaps, nonRevokableGapsSpace) ← copyToNRGaps d.chunk g .nonRevokable
      compression (allowedLength - d.sackHeaderLength - d.revokableGapsSpace)
    let d := { d with chunk, numNonRevokableGaps, nonRevokableGapsSpace }
    pure (d, d.sackLength 0)
  else do
    let (chunk, numRevokableGaps, revokableGapsSpace) ← copyToRGaps d.chunk g .any compression
      d.revokableGapsSpace
    -- the length is the one from before
    pure ({ d with
      chunk, numRevokableGaps, revokableGapsSpace
      nonRevokableGapsSpace := sizeSub allowedLength d.sackHeaderLength }, d.sackLength 0)

/-- The blocks that are too many are taken from both lists: the draft, and `sackLength`. -/
def shortenBoth :
    Except SackFault (SackDraft × ℕ) :=
  if allowedLength < d.sackLength 0 then do
    let blocksBeRemoved := (d.sackLength 0 - allowedLength) / 4
    let removeR :=
      SackSettings.removeRevokable blocksBeRemoved d.numRevokableGaps d.numNonRevokableGaps
    let removeNR :=
      SackSettings.removeNonRevokable blocksBeRemoved d.numRevokableGaps d.numNonRevokableGaps
    let (chunk, numRevokableGaps, revokableGapsSpace) ← copyToRGaps d.chunk g .revokable compression
      (4 * (d.numRevokableGaps - removeR))
    let (chunk, numNonRevokableGaps, nonRevokableGapsSpace) ← copyToNRGaps chunk g .nonRevokable
      compression (4 * (d.numNonRevokableGaps - removeNR))
    let d := { d with
      chunk, numRevokableGaps, revokableGapsSpace, numNonRevokableGaps, nonRevokableGapsSpace }
    pure (d, d.sackLength 0)
  else .ok (d, d.sackLength 0)

end

variable (d : SackDraft) (cfg : SackSettings)

/-- The lists of blocks are shortened: the draft, and `sackLength`. -/
def shortenLists (g : SCTPGapList) :
    Except SackFault (SackDraft × ℕ) :=
  if cfg.smartOverfullSACKHandling then d.shortenSmart g (cfg.compression g) cfg.allowedLength
  else d.shortenBoth g (cfg.compression g) cfg.allowedLength

/-- The chunk is shortened to fit in the MTU, with no duplicates: the draft, and `sackLength`. -/
def shorten (g : SCTPGapList) :
    Except SackFault (SackDraft × ℕ) := do
  let d ← d.shortenRGaps g (cfg.compression g) cfg.allowedLength
  let (d, sackLength) ← d.shortenLists cfg g
  if cfg.allowedLength < sackLength then .error .sackLength
  else
    let chunk :=
      { d.chunk with
        numGaps := .ofNat 16 d.numRevokableGaps
        numNrGaps := .ofNat 16 d.numNonRevokableGaps }
    pure ({ d with chunk }, sackLength)

/-- `gapReportLimit` is applied. -/
def applyLimit (g : SCTPGapList) :
    Except SackFault SCTPSackChunk :=
  if cfg.gapReportLimit < 1000000 then
    if cfg.compression g then .error .notImplemented
    else
      .ok { d.chunk with
        numGaps := .ofNat 16 (min d.numRevokableGaps cfg.gapReportLimit)
        numNrGaps := .ofNat 16 (min d.numNonRevokableGaps cfg.gapReportLimit) }
  else .ok d.chunk

/-- The chunk gets its length and the duplicates. -/
def finish (s : SackState) (sackLength numDups : ℕ) :
    Except SackFault (SCTPSackChunk × SackState) := do
  let chunk ← d.applyLimit cfg s.gapList
  let chunk := { chunk with numDupTsns := .ofNat 16 numDups, byteLength := sackLength }
  if 0 < numDups then
    pure ({ chunk with dupTsns := s.dupList.take numDups }, { s with dupList := [] })
  else pure (chunk, s)

end SackDraft

variable (cfg : SackSettings) (s : SackState)

/-- The chunk without blocks and duplicates. -/
def SackSettings.emptyChunk (arwnd : BitVec 32) :
    SCTPSackChunk where
  isNrSack := cfg.nrSack
  cumTsnAck := s.gapList.cumAckTSN
  a_rwnd := arwnd
  msg_rwnd :=
    if cfg.messageAcceptLimit ≠ 0 then cfg.messageAcceptLimit - s.bufferedMessages else 0
  sackSeqNum := s.outgoingSackSeqNum

/-- The chunk with all its blocks. -/
def SackSettings.draft :
    Except SackFault (SackDraft × SackState) := do
  let (arwnd, s) := s.advertise cfg
  let s := { s with outgoingSackSeqNum := s.outgoingSackSeqNum + 1 }
  let d ← cfg.fillGaps s.gapList (cfg.emptyChunk s arwnd)
  pure (d, s)

/-- `createSack`. -/
def createSack :
    Except SackFault (SCTPSackChunk × SackState) := do
  let (d, s) ← cfg.draft s
  let numDups := s.dupList.length % 2 ^ 32
  if cfg.allowedLength < d.sackLength numDups then do
    -- the number is set to 0 before the space is given back, so that the length stays too large
    let (d, sackLength) ← d.shorten cfg s.gapList
    d.finish cfg s sackLength 0
  else d.finish cfg s (d.sackLength numDups) numDups

end SCTP

end Hiwis
