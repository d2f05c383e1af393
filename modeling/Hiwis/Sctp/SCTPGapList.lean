import Hiwis.Sctp.SerialNumbers

/-!
# The gap list of an SCTP association

The blocks of transmission sequence numbers (TSNs) that were received above the cumulative
acknowledgement.  A simple gap list keeps its blocks in two arrays, of which the first `NumGaps`
entries are in use; here it is the list of these entries.  An association keeps three simple lists
in step: of all blocks, and of the TSNs that may and that may not be revoked.
-/

namespace Hiwis

namespace SCTP

def maxGapCount : ℕ := 500

/-- A block of received TSNs, both ends included. -/
structure GapBlock where
  start : TSN
  stop : TSN
deriving DecidableEq

/-- The blocks of a simple gap list. -/
abbrev SCTPSimpleGapList := List GapBlock

namespace SCTPSimpleGapList

/-- The assertions on the blocks that follow the TSN `stop`. -/
def checkFrom (stop : TSN) : SCTPSimpleGapList → Bool
  | [] => true
  | b :: bs => tsnGt b.start (stop + 1) && tsnLe b.start b.stop && checkFrom b.stop bs

section

variable (l : SCTPSimpleGapList)

def check (cTsnAck : TSN) : Bool := checkFrom cTsnAck l

def tsnInGapList (tsn : TSN) : Bool := l.any fun b => tsnBetween b.start tsn b.stop

def forwardCumAckTSN (cTsnAck : TSN) : SCTPSimpleGapList :=
  l.dropWhile fun b => tsnGe cTsnAck b.start

/-- Taking out the first block.  The number of blocks stays as it is, so that the last entry is
there twice. -/
def shiftBlocks : SCTPSimpleGapList := l.tail ++ l.getLast?.toList

end

/-- The rounds of `tryToAdvanceCumAckTSN`, one for each block. -/
def advanceRounds : ℕ → SCTPSimpleGapList → TSN → Bool → SCTPSimpleGapList × TSN × Bool
  | 0, l, cTsnAck, progress => (l, cTsnAck, progress)
  | n + 1, l, cTsnAck, progress =>
    match l with
    | [] => (l, cTsnAck, progress)
    | b :: _ =>
      if cTsnAck + 1 = b.start then advanceRounds n l.shiftBlocks b.stop true
      else advanceRounds n l cTsnAck progress

/-- The blocks, the cumulative acknowledgement, and whether it has advanced. -/
def tryToAdvanceCumAckTSN (l : SCTPSimpleGapList) (cTsnAck : TSN) :
    SCTPSimpleGapList × TSN × Bool :=
  advanceRounds l.length l cTsnAck false

/-- What is left of a block without one of its TSNs. -/
def withoutTSN (b : GapBlock) (removedTSN : TSN) : List GapBlock :=
  if 1 < (b.stop - b.start + 1).toInt then
    if b.stop = removedTSN then [{ b with stop := b.stop - 1 }]
    else if b.start = removedTSN then [{ b with start := b.start + 1 }]
    else [{ b with stop := removedTSN - 1 }, { b with start := removedTSN + 1 }]
  else []

/-- The search of `removeFromGapList`, which starts at the last block: the blocks before the
present position, in reverse order, and the ones from there on. -/
def removeLoop (removedTSN : TSN) : List GapBlock → List GapBlock → SCTPSimpleGapList
  | [], after => after
  | b :: before, after =>
    if tsnBetween b.start removedTSN b.stop then
      -- a block that is split up may exceed the upper limit
      (before.reverse ++ withoutTSN b removedTSN ++ after).take maxGapCount
    else removeLoop removedTSN before (b :: after)

def removeFromGapList (l : SCTPSimpleGapList) (removedTSN : TSN) : SCTPSimpleGapList :=
  removeLoop removedTSN l.reverse []

/-- Changes the stop TSN of the last of the blocks. -/
def setLastStop (l : List GapBlock) (f : TSN → TSN) : List GapBlock :=
  l.dropLast ++ l.getLast?.toList.map fun b => { b with stop := f b.stop }

/-- The end of the list is reached, `lo` follows the last block that was looked at. -/
def updateEnd (receivedTSN cTsnAck : TSN) (newChunkReceived : Bool) (l : List GapBlock)
    (lo : TSN) : SCTPSimpleGapList × TSN × Bool :=
  if receivedTSN = lo then
    if receivedTSN = cTsnAck + 1 then (l, receivedTSN, true)
    else (setLastStop l (· + 1), cTsnAck, true)
  else if l.getLast?.all (fun b => tsnGt receivedTSN (b.stop + 1)) then
    if l.length < maxGapCount then (l ++ [⟨receivedTSN, receivedTSN⟩], cTsnAck, true)
    else (l, cTsnAck, newChunkReceived)
  else (l, cTsnAck, newChunkReceived)

/-- The search of `updateGapList`: the blocks already looked at, the TSN `lo` after them, and the
blocks that follow. -/
def updateLoop (receivedTSN cTsnAck : TSN) (newChunkReceived : Bool) (before : List GapBlock)
    (lo : TSN) : List GapBlock → SCTPSimpleGapList × TSN × Bool
  | [] => updateEnd receivedTSN cTsnAck newChunkReceived before lo
  | b :: after =>
    if 0 < b.start.toNat then
      let hi := b.start - 1
      if tsnBetween lo receivedTSN hi then
        if 1 < (hi - lo + 1).toNat then
          if receivedTSN = hi then
            (before ++ { b with start := receivedTSN } :: after, cTsnAck, true)
          else if receivedTSN = lo then
            if receivedTSN = cTsnAck + 1 then (before ++ b :: after, cTsnAck + 1, true)
            else (setLastStop before (fun _ => receivedTSN) ++ b :: after, cTsnAck, true)
          else
            ((before ++ ⟨receivedTSN, receivedTSN⟩ :: b :: after).take maxGapCount, cTsnAck, true)
        else if lo = cTsnAck + 1 then (before ++ after, b.stop, true)
        else (setLastStop before (fun _ => b.stop) ++ after, cTsnAck, true)
      else updateLoop receivedTSN cTsnAck newChunkReceived (before ++ [b]) (b.stop + 1) after
    -- a block that starts at TSN 0 is passed over, and `lo` stays
    else updateLoop receivedTSN cTsnAck newChunkReceived (before ++ [b]) lo after

/-- The blocks, the cumulative acknowledgement, the flag for a new chunk, and the result. -/
def updateGapList (l : SCTPSimpleGapList) (receivedTSN cTsnAck : TSN) (newChunkReceived : Bool) :
    (SCTPSimpleGapList × TSN × Bool) × Bool :=
  if tsnLe receivedTSN cTsnAck then ((l, cTsnAck, newChunkReceived), false)
  else (updateLoop receivedTSN cTsnAck newChunkReceived [] (cTsnAck + 1) l, true)

end SCTPSimpleGapList

/-- The cumulative acknowledgement with the three lists of blocks above it. -/
structure SCTPGapList where
  cumAckTSN : TSN := 0
  revokableGapList : SCTPSimpleGapList := []
  nonRevokableGapList : SCTPSimpleGapList := []
  combinedGapList : SCTPSimpleGapList := []
deriving DecidableEq

namespace SCTPGapList

variable (g : SCTPGapList)

def check : Bool :=
  g.combinedGapList.check g.cumAckTSN && g.revokableGapList.check g.cumAckTSN &&
    g.nonRevokableGapList.check g.cumAckTSN

def tsnIsRevokable (tsn : TSN) : Bool := g.revokableGapList.tsnInGapList tsn

def tsnIsNonRevokable (tsn : TSN) : Bool := g.nonRevokableGapList.tsnInGapList tsn

def forwardCumAckTSN (cumAckTSN : TSN) : SCTPGapList :=
  { cumAckTSN := cumAckTSN
    combinedGapList := g.combinedGapList.forwardCumAckTSN cumAckTSN
    revokableGapList := g.revokableGapList.forwardCumAckTSN cumAckTSN
    nonRevokableGapList := g.nonRevokableGapList.forwardCumAckTSN cumAckTSN }

def tryToAdvanceCumAckTSN : SCTPGapList × Bool :=
  match g.combinedGapList.tryToAdvanceCumAckTSN g.cumAckTSN with
  | (combined, cumAckTSN, true) =>
    ({ cumAckTSN := cumAckTSN
       combinedGapList := combined
       revokableGapList := g.revokableGapList.forwardCumAckTSN cumAckTSN
       nonRevokableGapList := g.nonRevokableGapList.forwardCumAckTSN cumAckTSN }, true)
  | (combined, cumAckTSN, false) =>
    ({ g with combinedGapList := combined, cumAckTSN := cumAckTSN }, false)

def removeFromGapList (removedTSN : TSN) : SCTPGapList :=
  { g with
    revokableGapList := g.revokableGapList.removeFromGapList removedTSN
    nonRevokableGapList := g.nonRevokableGapList.removeFromGapList removedTSN
    combinedGapList := g.combinedGapList.removeFromGapList removedTSN }

/-- The list that a TSN is for, besides the combined one.  The cumulative acknowledgement it
computes is dropped. -/
def updateSublist (receivedTSN : TSN) (newChunkReceived tsnIsRevokable : Bool) :
    SCTPGapList × Bool :=
  if tsnIsRevokable then
    let ((revokable, _, newChunk), _) :=
      g.revokableGapList.updateGapList receivedTSN g.cumAckTSN newChunkReceived
    ({ g with revokableGapList := revokable }, newChunk)
  else
    let ((nonRevokable, _, newChunk), result) :=
      g.nonRevokableGapList.updateGapList receivedTSN g.cumAckTSN newChunkReceived
    ({ g with
       nonRevokableGapList := nonRevokable
       -- the TSN has moved from revokable to non-revokable
       revokableGapList :=
         if result then g.revokableGapList.removeFromGapList receivedTSN
         else g.revokableGapList }, newChunk)

/-- The gap list, the flag for a new chunk, and the result. -/
def updateGapList (receivedTSN : TSN) (newChunkReceived tsnIsRevokable : Bool) :
    (SCTPGapList × Bool) × Bool :=
  let (g, newChunkReceived) := g.updateSublist receivedTSN newChunkReceived tsnIsRevokable
  let ((combined, cumAckTSN, newChunkReceived), newChunk) :=
    g.combinedGapList.updateGapList receivedTSN g.cumAckTSN newChunkReceived
  let g' := { g with combinedGapList := combined, cumAckTSN := cumAckTSN }
  if g.cumAckTSN ≠ cumAckTSN then
    (({ g' with
        revokableGapList := g.revokableGapList.forwardCumAckTSN cumAckTSN
        nonRevokableGapList := g.nonRevokableGapList.forwardCumAckTSN cumAckTSN },
      newChunkReceived), newChunk)
  else ((g', newChunkReceived), newChunk)

end SCTPGapList

end SCTP

end Hiwis
