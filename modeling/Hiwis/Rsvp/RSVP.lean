import Hiwis.Ipv4.InterfaceEntry
import Hiwis.Lib.Trace

/-!
# RSVP

The reservation state of the `RSVP` module of a label switching router, with the entries of `TED`
for its own links and the labels of its `LIBTable`.  Bandwidths are exact numbers.  Path state
blocks, hellos and refreshes are left out: what they ask of the reservations is a message here.
-/

namespace Hiwis

open List

namespace Rsvp

/-- `SessionObj_t`. -/
structure SessionObj where
  tunnelId : ℤ
  extendedTunnelId : ℤ
  destAddress : IPv4Address
  setupPri : Fin 8
  holdingPri : Fin 8
  deriving DecidableEq

/-- `SenderTemplateObj_t` and `FilterSpecObj_t`. -/
structure SenderTemplateObj where
  srcAddress : IPv4Address
  lspId : ℤ := -1
  deriving DecidableEq

/-- `FlowDescriptor_t`. -/
structure FlowDescriptor where
  reqBandwidth : ℚ
  filterSpec : SenderTemplateObj
  label : ℤ
  deriving DecidableEq

/-- `ResvStateBlock_t`: `reqBandwidth`, of its `Flowspec_Object`, is what is currently allocated. -/
structure ResvStateBlock where
  id : ℕ
  session : SessionObj
  nextHopAddress : IPv4Address
  OI : IPv4Address
  flowDescriptor : List FlowDescriptor
  inLabelVector : List ℤ
  reqBandwidth : ℚ := 0
  commitScheduled : Bool := false
  timeoutScheduled : Bool := false
  deriving DecidableEq

/-- `TELinkStateInfo`. -/
structure TELinkStateInfo where
  advrouter : IPv4Address
  localAddress : IPv4Address
  maxBandwidth : ℚ
  unResvBandwidth : Fin 8 → ℚ

inductive PathError
  | preempted
  | unfeasible
  deriving DecidableEq

/-- What the module reports. -/
inductive Observation
  | pathError (session : SessionObj) (sender : SenderTemplateObj) (error : PathError)
  | linkChange (OI : IPv4Address)
  deriving DecidableEq

/-- A failed `ASSERT`. -/
inductive Fault
  | assertion
  deriving DecidableEq

/-- The module, with the `numLinks` entries of its `TED`. -/
structure RSVP (numLinks : ℕ) where
  routerId : IPv4Address
  interfaceAddrs : List IPv4Address
  ted : Fin numLinks → TELinkStateInfo
  RSBList : List ResvStateBlock := []
  maxRsbId : ℕ := 0
  lib : List ℤ := []
  maxLabel : ℤ := 0
  log : List Observation := []

/-- `operator==` of two sessions, which does not compare the priorities. -/
def SessionObj.same (a b : SessionObj) : Bool :=
  a.destAddress == b.destAddress && a.tunnelId == b.tunnelId &&
    a.extendedTunnelId == b.extendedTunnelId

namespace ResvStateBlock

/-- `updateRSB`, for one flow of the message. -/
def updateFlow (rsb : ResvStateBlock) (flow : FlowDescriptor) : ResvStateBlock :=
  match rsb.flowDescriptor.findIdx? (·.filterSpec == flow.filterSpec) with
  | some m =>
    if (rsb.flowDescriptor[m]?.map FlowDescriptor.label) ≠ some flow.label then
      { rsb with
        flowDescriptor := rsb.flowDescriptor.modify m fun f => { f with label := flow.label }
        commitScheduled := true }
    else rsb
  | none =>
    { rsb with
      flowDescriptor := rsb.flowDescriptor ++ [flow]
      inLabelVector := rsb.inLabelVector ++ [-1]
      commitScheduled := true }

/-- The index of a sender among the flows. -/
def senderIndex (rsb : ResvStateBlock) (sender : SenderTemplateObj) : Option ℕ :=
  rsb.flowDescriptor.findIdx? (·.filterSpec == sender)

end ResvStateBlock

/-- The greatest bandwidth of a flow, and the index of the first flow that has it. -/
def maxFlow (flows : List FlowDescriptor) : ℚ × ℕ :=
  flows.zipIdx.foldl
    (fun req f => if req.1 < f.1.reqBandwidth then (f.1.reqBandwidth, f.2) else req) (0, 0)

theorem maxFlow_snd_lt {flows : List FlowDescriptor} (h : flows ≠ []) :
    (maxFlow flows).2 < flows.length := by
  have hfold : ∀ (l : List (FlowDescriptor × ℕ)) (req : ℚ × ℕ), req.2 < flows.length →
      (∀ f ∈ l, f.2 < flows.length) →
      (l.foldl (fun req f => if req.1 < f.1.reqBandwidth then (f.1.reqBandwidth, f.2) else req)
        req).2 < flows.length := by
    intro l
    induction l with
    | nil => exact fun req hreq _ => hreq
    | cons f l ih =>
      intro req hreq hl
      refine ih _ ?_ fun g hg => hl g (mem_cons_of_mem _ hg)
      dsimp only
      split_ifs
      · exact hl f mem_cons_self
      · exact hreq
  exact hfold _ _ (length_pos_of_ne_nil h) fun f hf => by
    simpa using (mem_zipIdx hf).2.1

/-- `preempt`: the blocks are preempted one after another until the bandwidth is available. -/
def preempt (OI : IPv4Address) (priority : Fin 8) :
    ℚ → (Fin 8 → ℚ) → List ResvStateBlock → (Fin 8 → ℚ) × List ResvStateBlock
  | _, unResvBandwidth, [] => (unResvBandwidth, [])
  | bandwidth, unResvBandwidth, rsb :: rsbs =>
    if rsb.OI ≠ OI ∨ rsb.session.holdingPri ≠ priority ∨ rsb.reqBandwidth = 0 then
      ((preempt OI priority bandwidth unResvBandwidth rsbs).1,
        rsb :: (preempt OI priority bandwidth unResvBandwidth rsbs).2)
    else
      let unResvBandwidth := fun i =>
        if priority ≤ i then unResvBandwidth i + rsb.reqBandwidth else unResvBandwidth i
      let preempted := { rsb with reqBandwidth := 0, commitScheduled := true }
      if bandwidth - rsb.reqBandwidth ≤ 0 then (unResvBandwidth, preempted :: rsbs)
      else
        ((preempt OI priority (bandwidth - rsb.reqBandwidth) unResvBandwidth rsbs).1,
          preempted :: (preempt OI priority (bandwidth - rsb.reqBandwidth) unResvBandwidth rsbs).2)

/-- One round of the loop of `allocateResource`. -/
def allocateAt (OI : IPv4Address) (bandwidth : ℚ)
    (s : (Fin 8 → ℚ) × List ResvStateBlock) (p : Fin 8) : (Fin 8 → ℚ) × List ResvStateBlock :=
  let unResvBandwidth := Function.update s.1 p (s.1 p - bandwidth)
  if unResvBandwidth p < 0 then preempt OI p (-unResvBandwidth p) unResvBandwidth s.2
  else (unResvBandwidth, s.2)

namespace RSVP

variable {numLinks : ℕ} (n : RSVP numLinks)

/-! ### The tables -/

/-- `TED::isLocalAddress`. -/
def isLocalAddress (addr : IPv4Address) : Bool := n.interfaceAddrs.contains addr

/-- `TED::linkIndex`. -/
def linkIndex (localInf : IPv4Address) : Option (Fin numLinks) :=
  (finRange numLinks).find? fun i =>
    (n.ted i).advrouter == n.routerId && (n.ted i).localAddress == localInf

/-- `findRsbById`. -/
def findRsbById (id : ℕ) : Option ResvStateBlock := n.RSBList.find? (·.id == id)

/-- `findRSB`. -/
def findRSB (session : SessionObj) (sender : SenderTemplateObj) : Option (ResvStateBlock × ℕ) :=
  n.RSBList.findSome? fun rsb =>
    if rsb.session.same session then (rsb.senderIndex sender).map fun index => (rsb, index)
    else none

/-- Writes through the pointer to a block. -/
def modifyRSB (id : ℕ) (f : ResvStateBlock → ResvStateBlock) : RSVP numLinks :=
  { n with RSBList := n.RSBList.map fun rsb => if rsb.id = id then f rsb else rsb }

def observe (o : Observation) : RSVP numLinks := { n with log := n.log ++ [o] }

/-- `LIBTable::installLibEntry`. -/
def installLibEntry (inLabel : ℤ) : Except Fault (RSVP numLinks × ℤ) :=
  if inLabel = -1 then
    pure ({ n with lib := n.lib ++ [n.maxLabel + 1], maxLabel := n.maxLabel + 1 }, n.maxLabel + 1)
  else if n.lib.contains inLabel then pure (n, inLabel)
  else throw .assertion

/-- `LIBTable::removeLibEntry`. -/
def removeLibEntry (inLabel : ℤ) : Except Fault (RSVP numLinks) :=
  if n.lib.contains inLabel then pure { n with lib := n.lib.erase inLabel }
  else throw .assertion

/-! ### Bandwidth -/

/-- `allocateResource`; `none` when it returns `false`. -/
def allocateResource (OI : IPv4Address) (session : SessionObj) (bandwidth : ℚ) :
    Except Fault (Option (RSVP numLinks)) :=
  if OI.isUnspecified then pure (some n)
  else if !n.isLocalAddress OI then pure (some n)
  else if bandwidth = 0 then pure (some n)
  else
    match n.linkIndex OI with
    | none => throw .assertion
    | some index =>
      let link := n.ted index
      if link.unResvBandwidth session.setupPri < bandwidth then pure none
      else
        let s := (finRange 8).foldl
          (fun s p => if session.holdingPri ≤ p then allocateAt OI bandwidth s p else s)
          (link.unResvBandwidth, n.RSBList)
        pure (some ({ n with
          ted := Function.update n.ted index { link with unResvBandwidth := s.1 }
          RSBList := s.2 }.observe (.linkChange OI)))

/-- `removeRSB`. -/
def removeRSB (id : ℕ) : Except Fault (RSVP numLinks) :=
  match n.findRsbById id with
  | none => throw .assertion
  | some rsb =>
    if rsb.flowDescriptor ≠ [] then throw .assertion
    else do
      let n ← if 0 < rsb.reqBandwidth then do
          let freed ← n.allocateResource rsb.OI rsb.session (-rsb.reqBandwidth)
          pure (freed.getD n)
        else pure n
      pure { n with RSBList := n.RSBList.eraseP (·.id == id) }

/-- `removeRsbFilter`. -/
def removeRsbFilter (id index : ℕ) : Except Fault (RSVP numLinks) :=
  match n.findRsbById id with
  | none => throw .assertion
  | some rsb =>
    if ¬(index < rsb.flowDescriptor.length ∧
        rsb.inLabelVector.length = rsb.flowDescriptor.length) then throw .assertion
    else do
      let inLabel := rsb.inLabelVector.getD index (-1)
      let n ← if inLabel ≠ -1 then n.removeLibEntry inLabel else pure n
      pure (n.modifyRSB id fun rsb =>
        { rsb with
          flowDescriptor := rsb.flowDescriptor.eraseIdx index
          inLabelVector := rsb.inLabelVector.eraseIdx index
          commitScheduled := true })

/-- The labels of `commitResv`, with the merging backups of the flows. -/
def installLabels : RSVP numLinks → List FlowDescriptor → List ℤ →
    Except Fault (RSVP numLinks × List ℤ)
  | n, [], inLabels => pure (n, inLabels)
  | _, _ :: _, [] => throw .assertion
  | n, flow :: flows, oldInLabel :: inLabels => do
    let (n, inLabel) ← n.installLibEntry oldInLabel
    if inLabel < 0 then throw .assertion
    let n := { n with RSBList := n.RSBList.map fun rsb =>
      if rsb.OI = BitVec.ofInt 32 flow.filterSpec.lspId then { rsb with commitScheduled := true }
      else rsb }
    let (n, inLabels) ← installLabels n flows inLabels
    pure (n, inLabel :: inLabels)

/-- What `commitResv` does when the bandwidth is allocated. -/
def install (id : ℕ) (flows : List FlowDescriptor) (inLabels : List ℤ) :
    Except Fault (RSVP numLinks) :=
  if inLabels.length ≠ flows.length then throw .assertion
  else do
    let (n, inLabels) ← installLabels n flows inLabels
    pure (n.modifyRSB id fun rsb => { rsb with flowDescriptor := flows, inLabelVector := inLabels })

/-- What `commitResv` does about a flow that is given up. -/
def rejectFlow (session : SessionObj) (sender : SenderTemplateObj) (oldInLabel : ℤ) :
    Except Fault (RSVP numLinks) :=
  if oldInLabel ≠ -1 then
    -- the path existed already
    (n.observe (.pathError session sender .preempted)).removeLibEntry oldInLabel
  else pure (n.observe (.pathError session sender .unfeasible))

/-- `commitResv`, from the point where the block has the given flows and labels. -/
def commitFlows (n : RSVP numLinks) (rsb : ResvStateBlock) (flows : List FlowDescriptor)
    (inLabels : List ℤ) : Except Fault (RSVP numLinks) :=
  if _ : flows = [] then
    (n.modifyRSB rsb.id fun rsb =>
      { rsb with flowDescriptor := [], inLabelVector := inLabels }).removeRSB rsb.id
  else
    let needed := (maxFlow flows).1 - rsb.reqBandwidth
    if needed = 0 then n.install rsb.id flows inLabels
    else
      match n.allocateResource rsb.OI rsb.session needed with
      | .error e => throw e
      | .ok (some n) =>
        (n.modifyRSB rsb.id fun rsb =>
          { rsb with reqBandwidth := rsb.reqBandwidth + needed }).install rsb.id flows inLabels
      | .ok none =>
        if inLabels.length ≠ flows.length then throw .assertion
        else
          let maxFlowIndex := (maxFlow flows).2
          let flow := flows.getD maxFlowIndex ⟨0, ⟨IPv4Address.unspecifiedAddress, -1⟩, -1⟩
          match n.rejectFlow rsb.session flow.filterSpec (inLabels.getD maxFlowIndex (-1)) with
          | .error e => throw e
          | .ok n =>
            commitFlows n rsb (flows.eraseIdx maxFlowIndex) (inLabels.eraseIdx maxFlowIndex)
termination_by flows.length
decreasing_by
  have hne : flows ≠ [] := by assumption
  rw [length_eraseIdx_of_lt (maxFlow_snd_lt hne)]
  exact Nat.sub_one_lt (Nat.ne_of_gt (length_pos_of_ne_nil hne))

/-- `commitResv`. -/
def commitResv (rsb : ResvStateBlock) : Except Fault (RSVP numLinks) :=
  n.commitFlows rsb rsb.flowDescriptor rsb.inLabelVector

/-! ### Messages -/

section

variable (session : SessionObj)

/-- `createRSB`, and `createEgressRSB` with the flow of the path. -/
def createRSB (nextHopAddress OI : IPv4Address) (flows : List FlowDescriptor)
    (timeoutScheduled : Bool) : RSVP numLinks :=
  { n with
    maxRsbId := n.maxRsbId + 1
    RSBList := n.RSBList ++ [{
      id := n.maxRsbId + 1, session, nextHopAddress, OI, flowDescriptor := flows
      inLabelVector := flows.map fun _ => -1, commitScheduled := true, timeoutScheduled }] }

/-- `processResvMsg`, for a message whose flows have a path state block. -/
def processResvMsg (nhop lih : IPv4Address) (flows : List FlowDescriptor) :
    RSVP numLinks :=
  match n.RSBList.find? fun rsb =>
    session.same rsb.session && rsb.nextHopAddress == nhop && rsb.OI == lih with
  | none => n.createRSB session nhop lih flows true
  | some rsb => n.modifyRSB rsb.id fun rsb =>
      { flows.foldl ResvStateBlock.updateFlow rsb with timeoutScheduled := true }

/-- What `processPathMsg` does about reservations at the egress router. -/
def processEgressPath (previousHopAddress : IPv4Address) (sender : SenderTemplateObj)
    (reqBandwidth : ℚ) : RSVP numLinks :=
  match n.findRSB session sender with
  | none => n.createRSB session previousHopAddress IPv4Address.unspecifiedAddress
      [⟨reqBandwidth, sender, -1⟩] false
  | some _ => n

/-- What `removePSB` does about reservations. -/
def removePSB (sender : SenderTemplateObj) : Except Fault (RSVP numLinks) :=
  match n.findRSB session sender with
  | none => pure n
  | some (rsb, filterIndex) => n.removeRsbFilter rsb.id filterIndex

end

/-- The loop of `processRSB_TIMEOUT`, whose bound is compared with a size that shrinks. -/
def removeFilters (id : ℕ) : ℕ → ℕ → RSVP numLinks → Except Fault (RSVP numLinks)
  | 0, _, n => pure n
  | fuel + 1, i, n =>
    match n.findRsbById id with
    | none => throw .assertion
    | some rsb =>
      if i < rsb.flowDescriptor.length then do
        let n ← n.removeRsbFilter id 0
        removeFilters id fuel (i + 1) n
      else pure n

/-- `processRSB_TIMEOUT`. -/
def processRSB_TIMEOUT (rsb : ResvStateBlock) : Except Fault (RSVP numLinks) :=
  if !n.isLocalAddress rsb.OI then throw .assertion
  else do
    let n ← removeFilters rsb.id rsb.flowDescriptor.length 0 n
    n.removeRSB rsb.id

/-- What `clear` does about reservations, once the path state blocks are removed. -/
def clear : Except Fault (RSVP numLinks) := n.RSBList.foldlM (fun n rsb => n.removeRSB rsb.id) n

end RSVP

/-- What happens to the reservations. -/
inductive Message
  | resv (session : SessionObj) (nhop lih : IPv4Address) (flows : List FlowDescriptor)
  | egressPath (session : SessionObj) (previousHopAddress : IPv4Address)
      (sender : SenderTemplateObj) (reqBandwidth : ℚ)
  | pathRemoved (session : SessionObj) (sender : SenderTemplateObj)
  | commitTimer (id : ℕ)
  | timeout (id : ℕ)
  | clear
  deriving DecidableEq

namespace RSVP

variable {numLinks : ℕ}

/-- The reaction to a message; a timer that expires is not scheduled any more. -/
def handleMessage (n : RSVP numLinks) : Message → Except Fault (RSVP numLinks)
  | .resv session nhop lih flows => pure (n.processResvMsg session nhop lih flows)
  | .egressPath session previousHopAddress sender reqBandwidth =>
    pure (n.processEgressPath session previousHopAddress sender reqBandwidth)
  | .pathRemoved session sender => n.removePSB session sender
  | .commitTimer id =>
    match n.findRsbById id with
    | none => throw .assertion
    | some rsb => (n.modifyRSB id fun rsb => { rsb with commitScheduled := false }).commitResv rsb
  | .timeout id =>
    match n.findRsbById id with
    | none => throw .assertion
    | some rsb =>
      (n.modifyRSB id fun rsb => { rsb with timeoutScheduled := false }).processRSB_TIMEOUT rsb
  | .clear => n.clear

/-- The holding priority of a session is at least as strong as its setup priority; the timers that
expire are scheduled. -/
def CanHappen (n : RSVP numLinks) : Message → Prop
  | .resv session _ _ flows => session.holdingPri ≤ session.setupPri ∧ flows ≠ []
  | .egressPath session _ _ _ => session.holdingPri ≤ session.setupPri
  | .commitTimer id => ∃ rsb, n.findRsbById id = some rsb ∧ rsb.commitScheduled = true
  | .timeout id => ∃ rsb, n.findRsbById id = some rsb ∧ rsb.timeoutScheduled = true
  | _ => True

end RSVP

end Rsvp

end Hiwis
