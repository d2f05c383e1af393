import Hiwis.Ieee8021d.MACAddressTable
import Hiwis.Lib.Trace

/-!
# Transparent bridging

`Ieee8021dRelay`: where a frame that comes from the network is sent.

* `Ieee8021d.Relay.handleAndDispatchFrame_spec` : one frame;
* `Ieee8021d.Relay.run_forwards` : a frame after every history of frames and changes of the ports.
-/

namespace Hiwis

open List MACAddress Except

namespace Ieee8021d

/-- What a frame encapsulates: a BPDU, or another packet or nothing. -/
inductive Payload
  | bpdu (bpdu : BPDU)
  | other
  deriving DecidableEq

/-- `EtherFrame`. -/
structure EtherFrame where
  src : MACAddress
  dest : MACAddress
  payload : Payload
  deriving DecidableEq

inductive RelayFault
  | nullPointer
  | badCast
  | noSuchPort
  deriving DecidableEq

/-- Where a frame goes: the ports it is sent on, in this order, and the BPDU that is delivered to
the STP or RSTP module. -/
structure Dispatched where
  sent : List ℕ := []
  delivered : Option BPDU := none
  deriving DecidableEq

/-- `Ieee8021dRelay`, in operation.  The number of the ports is `portCount`. -/
structure Relay where
  bridgeAddress : MACAddress
  isStpAware : Bool
  ports : List InterfaceData
  macTable : MACAddressTable

namespace Relay

/-- `getPortInterfaceData`.  Without STP it is the null pointer. -/
def getPortInterfaceData (r : Relay) (portNum : ℤ) : Except RelayFault (Option InterfaceData) :=
  if r.isStpAware then
    match if 0 ≤ portNum then r.ports[portNum.toNat]? else none with
    | some portData => .ok (some portData)
    | none => .error .noSuchPort
  else .ok none

/-- Whether the port may be used: its data say so, or there is no STP. -/
def isForwarding (r : Relay) (portData : Option InterfaceData) : Bool :=
  !r.isStpAware || portData.any InterfaceData.isForwarding

def broadcast (r : Relay) (arrivalGate : ℕ) : Dispatched where
  sent := (range r.ports.length).filter fun i =>
    decide (i ≠ arrivalGate) && r.isForwarding r.ports[i]?

/-- `dispatch`. -/
def dispatch (r : Relay) (portNum : ℤ) : Except RelayFault Dispatched :=
  if 0 ≤ portNum ∧ portNum < r.ports.length then .ok { sent := [portNum.toNat] }
  else .error .noSuchPort

def learn (r : Relay) (now : ℤ) (arrivalGate : ℕ) (portData : Option InterfaceData)
    (frame : EtherFrame) : Relay :=
  if !r.isStpAware || portData.any InterfaceData.isLearning then
    { r with macTable := r.macTable.updateTableWithAddress now frame.src arrivalGate }
  else r

def deliverBPDU (frame : EtherFrame) : Except RelayFault Dispatched :=
  match frame.payload with
  | .bpdu bpdu => .ok { delivered := some bpdu }
  | .other => .error .badCast

/-- The branches of `handleAndDispatchFrame` for a frame that is not delivered to the STP module. -/
def forward (r : Relay) (now : ℤ) (arrivalGate : ℕ) (arrivalPortData : Option InterfaceData)
    (frame : EtherFrame) : Except RelayFault (Relay × Dispatched) :=
  if r.isForwarding arrivalPortData = false then .ok (r, {})
  else if frame.dest.isBroadcast then .ok (r, r.broadcast arrivalGate)
  else
    let (outGate, macTable) := r.macTable.getPortForAddress now frame.dest
    let r := { r with macTable := macTable }
    if outGate = -1 then .ok (r, r.broadcast arrivalGate)
    else if outGate ≠ arrivalGate then do
      let outPortData ← r.getPortInterfaceData outGate
      if r.isForwarding outPortData then do
        let dispatched ← r.dispatch outGate
        .ok (r, dispatched)
      else .ok (r, {})
    else .ok (r, {})

def handleAndDispatchFrame (r : Relay) (now : ℤ) (arrivalGate : ℕ) (frame : EtherFrame) :
    Except RelayFault (Relay × Dispatched) := do
  let arrivalPortData ← r.getPortInterfaceData arrivalGate
  let r := r.learn now arrivalGate arrivalPortData frame
  if frame.dest = stpMulticastAddress ∨ frame.dest = r.bridgeAddress then
    match arrivalPortData with
    | none => .error .nullPointer
    | some portData =>
      if portData.role ≠ .disabled then do
        let dispatched ← deliverBPDU frame
        .ok (r, dispatched)
      else r.forward now arrivalGate arrivalPortData frame
  else r.forward now arrivalGate arrivalPortData frame

/-! ### Histories -/

inductive Event
  /-- A frame arrives. -/
  | frame (now : ℤ) (arrivalGate : ℕ) (frame : EtherFrame)
  /-- The STP or RSTP module changes the data of a port. -/
  | setPort (portNum : ℕ) (portData : InterfaceData)
  | flush (portno : ℤ)
  | copyTable (portA portB : ℤ)
  | setAgingTime (agingTime : ℤ)
  /-- The relay is stopped or started. -/
  | clearTable

def step (r : Relay) : Event → Except RelayFault Relay
  | .frame now arrivalGate frame => do
    let (r, _) ← r.handleAndDispatchFrame now arrivalGate frame
    .ok r
  | .setPort portNum portData => .ok { r with ports := r.ports.set portNum portData }
  | .flush portno => .ok { r with macTable := r.macTable.flush portno }
  | .copyTable portA portB => .ok { r with macTable := r.macTable.copyTable portA portB }
  | .setAgingTime agingTime => .ok { r with macTable := r.macTable.setAgingTime agingTime }
  | .clearTable => .ok { r with macTable := r.macTable.clearTable }

/-- The number of a port of the bridge. -/
def IsPort (r : Relay) (portno : ℤ) : Prop := 0 ≤ portno ∧ portno < r.ports.length

instance (r : Relay) (portno : ℤ) : Decidable (r.IsPort portno) :=
  inferInstanceAs (Decidable (_ ∧ _))

/-- Frames come from ports of the bridge, and the table is filled with such ports. -/
def Legal (r : Relay) : Event → Prop
  | .frame _ arrivalGate _ => arrivalGate < r.ports.length
  | .copyTable _ portB => r.IsPort portB
  | _ => True

instance (r : Relay) (e : Event) : Decidable (r.Legal e) :=
  match e with
  | .frame _ arrivalGate _ => inferInstanceAs (Decidable (arrivalGate < r.ports.length))
  | .copyTable _ portB => inferInstanceAs (Decidable (r.IsPort portB))
  | .setPort _ _ => inferInstanceAs (Decidable True)
  | .flush _ => inferInstanceAs (Decidable True)
  | .setAgingTime _ => inferInstanceAs (Decidable True)
  | .clearTable => inferInstanceAs (Decidable True)

/-! ### One frame -/

/-- The port that is learnt for the destination, when the frame itself has been learnt from. -/
def learntPort (r : Relay) (now : ℤ) (arrivalGate : ℕ) (frame : EtherFrame) : Option ℤ :=
  (r.learn now arrivalGate r.ports[arrivalGate]? frame).macTable.learnt now frame.dest

/-- The frame is to be sent on the port: the arrival port may be used, and so may this one, it is
another one, and it is the learnt port of the destination, or there is no such port. -/
def Forwards (r : Relay) (arrivalGate : ℕ) (dest : MACAddress) (learnt : Option ℤ) (p : ℕ) : Prop :=
  r.isForwarding r.ports[arrivalGate]? = true ∧ p < r.ports.length ∧ p ≠ arrivalGate ∧
    r.isForwarding r.ports[p]? = true ∧
    (dest.isBroadcast = true ∨ learnt = none ∨ learnt = some (p : ℤ))

section OneFrame

variable {r r' : Relay} {now : ℤ} {arrivalGate p : ℕ} {frame : EtherFrame} {P : ℤ → Prop}

theorem getPortInterfaceData_eq (hp : p < r.ports.length) :
    r.getPortInterfaceData p = .ok (if r.isStpAware then r.ports[p]? else none) := by
  rw [getPortInterfaceData]
  by_cases haware : r.isStpAware = true
  · rw [if_pos haware, if_pos haware, if_pos (Int.natCast_nonneg p), Int.toNat_natCast,
      getElem?_eq_getElem hp]
  · rw [if_neg haware, if_neg haware]

variable {portData : Option InterfaceData}

/-- Only what the data of a port say with STP matters. -/
theorem isForwarding_ite :
    r.isForwarding (if r.isStpAware then portData else none) = r.isForwarding portData := by
  rw [isForwarding, isForwarding]
  cases r.isStpAware <;> rfl

theorem learn_ite :
    r.learn now arrivalGate (if r.isStpAware then portData else none) frame =
      r.learn now arrivalGate portData frame := by
  rw [learn, learn]
  cases r.isStpAware <;> rfl

/-- Learning changes the table only. -/
theorem learn_eq : ∃ macTable,
    r.learn now arrivalGate portData frame = { r with macTable := macTable } ∧
      (r.macTable.PortsIn P → P arrivalGate → macTable.PortsIn P) := by
  rw [learn]
  split_ifs
  · exact ⟨_, rfl, fun h hport => h.updateTableWithAddress hport⟩
  · exact ⟨r.macTable, rfl, fun h _ => h⟩

theorem mem_broadcast_iff : p ∈ (r.broadcast arrivalGate).sent ↔
    p < r.ports.length ∧ p ≠ arrivalGate ∧ r.isForwarding r.ports[p]? = true := by
  simp [broadcast]

theorem nodup_broadcast : (r.broadcast arrivalGate).sent.Nodup := (nodup_range).filter _

theorem dispatch_eq (hp : p < r.ports.length) : r.dispatch p = .ok { sent := [p] } := by
  rw [dispatch, if_pos ⟨Int.natCast_nonneg p, Int.ofNat_lt.2 hp⟩, Int.toNat_natCast]

/-- The frame is sent on a learnt port, if this may be used. -/
theorem sendTo_eq (hp : p < r.ports.length) :
    (do
      let outPortData ← r.getPortInterfaceData p
      if r.isForwarding outPortData then do
        let dispatched ← r.dispatch p
        .ok (r, dispatched)
      else .ok (r, {})) =
      Except.ok (r, if r.isForwarding r.ports[p]? then { sent := [p] } else {}) := by
  rw [getPortInterfaceData_eq hp, ok_bind, isForwarding_ite, dispatch_eq hp, ok_bind]
  split_ifs <;> rfl

/-- What happens to a frame: nothing is delivered, and it is sent once on each port on which it is
to be sent. -/
structure SentTo (r : Relay) (arrivalGate : ℕ) (dest : MACAddress) (learnt : Option ℤ)
    (d : Dispatched) : Prop where
  delivered : d.delivered = none
  nodup : d.sent.Nodup
  mem_iff : ∀ p, p ∈ d.sent ↔ r.Forwards arrivalGate dest learnt p

variable {learnt : Option ℤ} {dest : MACAddress}

theorem sentTo_broadcast (harrival : r.isForwarding r.ports[arrivalGate]? = true)
    (hall : dest.isBroadcast = true ∨ learnt = none) :
    r.SentTo arrivalGate dest learnt (r.broadcast arrivalGate) where
  delivered := rfl
  nodup := nodup_broadcast
  mem_iff p := by
    rw [mem_broadcast_iff, Forwards, and_iff_right harrival]
    constructor
    · rintro ⟨hlt, hne, hport⟩
      exact ⟨hlt, hne, hport, hall.imp_right .inl⟩
    · rintro ⟨hlt, hne, hport, -⟩
      exact ⟨hlt, hne, hport⟩

theorem sentTo_nil (hnone : ∀ p, ¬r.Forwards arrivalGate dest learnt p) :
    r.SentTo arrivalGate dest learnt {} where
  delivered := rfl
  nodup := nodup_nil
  mem_iff p := iff_of_false not_mem_nil (hnone p)

/-- The branches for a frame that is not a BPDU. -/
theorem forward_spec (now : ℤ) (arrivalGate : ℕ) (frame : EtherFrame)
    (hports : r.macTable.PortsIn r.IsPort)
    (hdata : r.isForwarding portData = r.isForwarding r.ports[arrivalGate]?) :
    ∃ macTable d, r.forward now arrivalGate portData frame =
      .ok ({ r with macTable := macTable }, d) ∧ macTable.PortsIn r.IsPort ∧
        r.SentTo arrivalGate frame.dest (r.macTable.learnt now frame.dest) d := by
  rw [forward]
  by_cases harrival : r.isForwarding portData = false
  · rw [if_pos harrival]
    refine ⟨r.macTable, {}, rfl, hports, sentTo_nil fun p hforwards => ?_⟩
    rw [hdata, hforwards.1] at harrival
    cases harrival
  · rw [if_neg harrival]
    have harrival' : r.isForwarding r.ports[arrivalGate]? = true := by
      rw [← hdata]
      exact eq_true_of_ne_false harrival
    by_cases hbroadcast : frame.dest.isBroadcast = true
    · rw [if_pos hbroadcast]
      exact ⟨r.macTable, _, rfl, hports, sentTo_broadcast harrival' (.inl hbroadcast)⟩
    · rw [if_neg hbroadcast]
      have hgate : (r.macTable.getPortForAddress now frame.dest).1 =
        (r.macTable.learnt now frame.dest).getD (-1) := MACAddressTable.getPortForAddress_fst
      have hports' : (r.macTable.getPortForAddress now frame.dest).2.PortsIn r.IsPort :=
        hports.getPortForAddress
      dsimp only
      rw [hgate]
      cases hlearnt : r.macTable.learnt now frame.dest with
      | none =>
        rw [Option.getD_none, if_pos rfl]
        exact ⟨_, _, rfl, hports', sentTo_broadcast harrival' (.inr rfl)⟩
      | some portno =>
        obtain ⟨hnonneg, hlt⟩ : r.IsPort portno := hports.learnt hlearnt
        obtain ⟨q, rfl⟩ := Int.eq_ofNat_of_zero_le hnonneg
        rw [Option.getD_some, if_neg (by omega)]
        have hq : q < r.ports.length := Int.ofNat_lt.1 hlt
        have hsome : ∀ p : ℕ, frame.dest.isBroadcast = true ∨ some (q : ℤ) = none ∨
            some (q : ℤ) = some (p : ℤ) → p = q := by
          rintro p (hcase | hcase | hcase)
          · exact absurd hcase hbroadcast
          · cases hcase
          · exact (Int.ofNat_inj.1 (Option.some.inj hcase)).symm
        by_cases hne : (q : ℤ) ≠ arrivalGate
        · -- the learnt port is another one: it is used, or the frame is discarded
          rw [if_pos hne, sendTo_eq (r := { r with
            macTable := (r.macTable.getPortForAddress now frame.dest).2 }) hq]
          refine ⟨_, _, rfl, hports', ?_⟩
          by_cases hport : r.isForwarding r.ports[q]? = true
          · rw [isForwarding] at hport
            rw [isForwarding, if_pos hport]
            refine ⟨rfl, nodup_singleton q, fun p => ?_⟩
            rw [mem_singleton]
            constructor
            · rintro rfl
              exact ⟨harrival', hq, Int.ofNat_inj.not.1 hne, hport, .inr (.inr rfl)⟩
            · rintro ⟨-, -, -, -, hcase⟩
              exact hsome p hcase
          · have hnone : ∀ p, ¬r.Forwards arrivalGate frame.dest (some (q : ℤ)) p := by
              rintro p ⟨-, -, -, hp, hcase⟩
              rw [hsome p hcase] at hp
              exact hport hp
            rw [isForwarding] at hport
            rw [isForwarding, if_neg hport]
            exact sentTo_nil hnone
        · -- the learnt port is the arrival port
          rw [if_neg hne]
          refine ⟨_, {}, rfl, hports', sentTo_nil fun p hforwards => ?_⟩
          obtain ⟨-, -, hp, -, hcase⟩ := hforwards
          rw [hsome p hcase] at hp
          exact hne (Int.ofNat_inj.not.2 hp)

/-- **One frame that is addressed neither to the bridge nor to the spanning tree protocol.** -/
theorem handleAndDispatchFrame_spec (hports : r.macTable.PortsIn r.IsPort)
    (harrival : arrivalGate < r.ports.length)
    (hstp : frame.dest ≠ stpMulticastAddress) (hbridge : frame.dest ≠ r.bridgeAddress) :
    ∃ macTable d, r.handleAndDispatchFrame now arrivalGate frame =
      .ok ({ r with macTable := macTable }, d) ∧ macTable.PortsIn r.IsPort ∧
        r.SentTo arrivalGate frame.dest (r.learntPort now arrivalGate frame) d := by
  obtain ⟨learntTable, hlearn, hlearntPorts⟩ : ∃ macTable,
      r.learn now arrivalGate r.ports[arrivalGate]? frame = { r with macTable := macTable } ∧
        (r.macTable.PortsIn r.IsPort → r.IsPort arrivalGate → macTable.PortsIn r.IsPort) := learn_eq
  have hbpdu : ¬(frame.dest = stpMulticastAddress ∨ frame.dest = r.bridgeAddress) :=
    not_or.2 ⟨hstp, hbridge⟩
  rw [handleAndDispatchFrame, getPortInterfaceData_eq harrival, ok_bind, learn_ite, hlearn,
    if_neg hbpdu, learntPort, hlearn]
  have hports' := hlearntPorts hports ⟨Int.natCast_nonneg _, Int.ofNat_lt.2 harrival⟩
  obtain ⟨macTable, d, heq, hmacTable, hsent⟩ :=
    forward_spec (r := { r with macTable := learntTable }) now arrivalGate frame hports'
      isForwarding_ite
  exact ⟨macTable, d, heq, hmacTable, hsent.delivered, hsent.nodup, hsent.mem_iff⟩

/-- No frame changes more than the table, and that keeps to the ports of the bridge. -/
theorem handleAndDispatchFrame_portsIn {d : Dispatched} (hports : r.macTable.PortsIn r.IsPort)
    (harrival : arrivalGate < r.ports.length)
    (hstep : r.handleAndDispatchFrame now arrivalGate frame = .ok (r', d)) :
    ∃ macTable, r' = { r with macTable := macTable } ∧ macTable.PortsIn r.IsPort := by
  obtain ⟨learntTable, hlearn, hlearntPorts⟩ : ∃ macTable,
      r.learn now arrivalGate r.ports[arrivalGate]? frame = { r with macTable := macTable } ∧
        (r.macTable.PortsIn r.IsPort → r.IsPort arrivalGate → macTable.PortsIn r.IsPort) := learn_eq
  have hports' := hlearntPorts hports ⟨Int.natCast_nonneg _, Int.ofNat_lt.2 harrival⟩
  obtain ⟨macTable, d', hforward, hmacTable, -⟩ :=
    forward_spec (r := { r with macTable := learntTable }) now arrivalGate frame hports'
      isForwarding_ite
  rw [handleAndDispatchFrame, getPortInterfaceData_eq harrival, ok_bind, learn_ite, hlearn] at hstep
  dsimp only at hstep hforward
  generalize (if r.isStpAware then r.ports[arrivalGate]? else none) = data at hstep hforward
  split_ifs at hstep with hbpdu
  · cases data with
    | none => cases hstep
    | some portData =>
      dsimp only at hstep
      split_ifs at hstep
      · obtain ⟨d'', -, heq⟩ := bind_eq_ok.1 hstep
        cases heq
        exact ⟨learntTable, rfl, hports'⟩
      · cases hforward.symm.trans hstep
        exact ⟨macTable, rfl, hmacTable⟩
  · cases hforward.symm.trans hstep
    exact ⟨macTable, rfl, hmacTable⟩

end OneFrame

/-! ### After every history -/

section Runs

variable {r r' : Relay} {e : Event}

/-- The table never leads to a port that the bridge does not have. -/
theorem step_portsIn (hports : r.macTable.PortsIn r.IsPort) (hlegal : r.Legal e)
    (hstep : r.step e = .ok r') : r'.macTable.PortsIn r'.IsPort := by
  cases e with
  | frame now arrivalGate frame =>
    obtain ⟨⟨r1, d⟩, hframe, heq⟩ := bind_eq_ok.1 hstep
    cases heq
    obtain ⟨macTable, rfl, hmacTable⟩ := handleAndDispatchFrame_portsIn hports hlegal hframe
    exact hmacTable
  | setPort portNum portData =>
    cases hstep
    intro a entry hentry
    rw [IsPort, length_set]
    exact hports a entry hentry
  | flush portno =>
    cases hstep
    exact hports.filter _ _ _
  | copyTable portA portB =>
    cases hstep
    exact hports.copyTable hlegal
  | setAgingTime agingTime =>
    cases hstep
    exact hports
  | clearTable =>
    cases hstep
    intro a entry hentry
    cases hentry

/-- **After every history, a frame that is addressed neither to the bridge nor to the spanning tree
protocol is sent exactly once on each port on which it is to be sent, and never makes the relay
fail.** -/
theorem run_forwards {r₀ : Relay} {events : List Event} (hports : r₀.macTable.PortsIn r₀.IsPort)
    (hrun : Trace.Run step Legal r₀ events r) (now : ℤ) {arrivalGate : ℕ}
    (harrival : arrivalGate < r.ports.length) {frame : EtherFrame}
    (hstp : frame.dest ≠ stpMulticastAddress) (hbridge : frame.dest ≠ r.bridgeAddress) :
    ∃ r' d, r.handleAndDispatchFrame now arrivalGate frame = .ok (r', d) ∧
      r.SentTo arrivalGate frame.dest (r.learntPort now arrivalGate frame) d := by
  have hinv : r.macTable.PortsIn r.IsPort :=
    hrun.invariant (fun _ _ _ hs hlegal hstep => step_portsIn hs hlegal hstep) hports
  obtain ⟨macTable, d, hframe, -, hsent⟩ := handleAndDispatchFrame_spec hinv harrival hstp hbridge
  exact ⟨_, d, hframe, hsent⟩

/-- A bridge with spanning tree protocol and ports in these states. -/
def sampleRelay (states : List PortState) : Relay where
  bridgeAddress := 9
  isStpAware := true
  ports := states.map fun state => { InterfaceData.initial with state := state }
  macTable := { agingTime := 120 * second }

theorem run_forwards_sample : ∃ r : Relay, r.learntPort 5 0 ⟨2, 1, .other⟩ = some 1 ∧
    ∃ r' d, r.handleAndDispatchFrame 5 0 ⟨2, 1, .other⟩ = .ok (r', d) ∧
      r.SentTo 0 1 (r.learntPort 5 0 ⟨2, 1, .other⟩) d := by
  obtain ⟨r, hrun, hr⟩ : ∃ r, Trace.Run step Legal
      (sampleRelay [.forwarding, .forwarding, .forwarding]) [.frame 0 1 ⟨1, 2, .other⟩] r ∧
      (r.ports.length, r.bridgeAddress, r.learntPort 5 0 ⟨2, 1, .other⟩) = (3, 9, some 1) :=
    Trace.exists_run_of_exec (by decide +kernel)
  simp only [Prod.mk.injEq] at hr
  obtain ⟨hlength, hbridge, hlearnt⟩ := hr
  refine ⟨r, hlearnt, run_forwards (fun a entry hentry => ?_) hrun 5 ?_ ?_ ?_⟩
  · cases hentry
  · rw [hlength]
    decide
  · decide
  · rw [hbridge]
    decide

/-- A frame that arrives on a port that is not forwarding is discarded although the learnt port of
its destination is forwarding; and one whose learnt port is not forwarding is not sent on the other
ports. -/
theorem not_always_forwards : ¬(∀ (r : Relay) (now : ℤ) (arrivalGate : ℕ) (frame : EtherFrame)
      (r' : Relay) (d : Dispatched), arrivalGate < r.ports.length →
      frame.dest ≠ stpMulticastAddress → frame.dest ≠ r.bridgeAddress →
      r.handleAndDispatchFrame now arrivalGate frame = .ok (r', d) →
      ∀ p : ℕ, r.learntPort now arrivalGate frame = some (p : ℤ) → p < r.ports.length →
        p ≠ arrivalGate → r.isForwarding r.ports[p]? = true → p ∈ d.sent) ∧
    ¬∀ (r : Relay) (now : ℤ) (arrivalGate : ℕ) (frame : EtherFrame) (r' : Relay) (d : Dispatched),
      arrivalGate < r.ports.length → frame.dest ≠ stpMulticastAddress →
      frame.dest ≠ r.bridgeAddress → r.handleAndDispatchFrame now arrivalGate frame = .ok (r', d) →
      ∀ q : ℕ, r.learntPort now arrivalGate frame = some (q : ℤ) → q ≠ arrivalGate →
        r.isForwarding r.ports[q]? = false → ∀ p : ℕ, p < r.ports.length → p ≠ arrivalGate →
          r.isForwarding r.ports[p]? = true → p ∈ d.sent := by
  let table : MACAddressTable :=
    ({ agingTime := 120 * second } : MACAddressTable).updateTableWithAddress 0 1 1
  constructor
  · intro hclaim
    have hsent := hclaim { sampleRelay [.discarding, .forwarding] with macTable := table } 5 0
      ⟨2, 1, .other⟩ _ _ (by decide) (by decide) (by decide) rfl 1 (by decide +kernel) (by decide)
      (by decide) rfl
    cases hsent
  · intro hclaim
    have hsent := hclaim { sampleRelay [.forwarding, .discarding, .forwarding] with
      macTable := table } 5 0 ⟨2, 1, .other⟩ _ _ (by decide) (by decide) (by decide) rfl 1
      (by decide +kernel) (by decide) rfl 2 (by decide) (by decide) rfl
    cases hsent

end Runs

end Relay

end Ieee8021d

end Hiwis
