import Hiwis.Aodv.Bookkeeping

/-!
# Route discoveries

A datagram without a route waits until the discovery of its destination ends.
`Aodv.AODVRouting.KeepsDiscoveries` says that nothing waits without a timer, and that nothing is
lost or sent twice.

* `Aodv.Inv.step` : a message keeps the invariant, unless a request is suppressed or the discovery
  is given up;
* `Aodv.AODVRouting.discoveries_run` : the same for all messages.
-/

namespace Hiwis

open List Trace

namespace Aodv

open IPv4Address

/-! ### Reading the log -/

/-- Whether the discovery of the target is in progress, after one more observation. -/
def progress (target : IPv4Address) (inProgress : Bool) : Observation → Bool
  | .started addr => if addr = target then true else inProgress
  | .completed addr _ | .givenUp addr _ => if addr = target then false else inProgress
  | _ => inProgress

def inProgress (log : List Observation) (target : IPv4Address) : Bool :=
  log.foldl (progress target) false

/-- The datagrams that have been delayed. -/
def delayedIn (log : List Observation) : List Datagram :=
  log.flatMap fun
    | .delayed datagram => [datagram]
    | _ => []

/-- The datagrams that have been sent or dropped at the end of a discovery. -/
def releasedIn (log : List Observation) : List Datagram :=
  log.flatMap fun
    | .completed _ datagrams | .givenUp _ datagrams => datagrams
    | _ => []

namespace AODVRouting

/-- Each delayed datagram waits for a discovery whose timer is scheduled, or has been sent or
dropped once, at the end of such a discovery. -/
structure KeepsDiscoveries (n : AODVRouting) : Prop where
  scheduled : ∀ target, n.targetAddressToDelayedPackets target ≠ [] →
    ∃ timer, n.waitForRREPTimers target = some timer ∧ timer.arrivalTime.isSome = true
  ongoing : ∀ target, n.hasOngoingRouteDiscovery target = inProgress n.log target
  ended : ∀ target, inProgress n.log target = false → n.targetAddressToDelayedPackets target = []
  once : ∀ datagram, (delayedIn n.log).count datagram =
    (n.targetAddressToDelayedPackets datagram.destAddr).count datagram +
      (releasedIn n.log).count datagram
  own : ∀ target datagrams,
    .completed target datagrams ∈ n.log ∨ .givenUp target datagrams ∈ n.log →
      ∀ datagram ∈ datagrams, datagram.destAddr = target

/-- No request is suppressed by the rate limit, and no discovery is given up. -/
def Admissible (n : AODVRouting) (m : ℤ × Message) : Prop :=
  n.CanHappen m ∧ match m.2 with
    | .datagram datagram => n.startsDiscovery datagram = true → n.rreqCount < n.rreqRatelimit
    | .waitForRREP target =>
      n.rreqCount < n.rreqRatelimit ∧ n.addressToRreqRetries target ≠ some n.rreqRetries
    | _ => True

end AODVRouting

@[simp] theorem inProgress_append (log log' : List Observation) (target : IPv4Address) :
    inProgress (log ++ log') target = log'.foldl (progress target) (inProgress log target) :=
  foldl_append ..

@[simp] theorem delayedIn_append (log log' : List Observation) :
    delayedIn (log ++ log') = delayedIn log ++ delayedIn log' := flatMap_append

@[simp] theorem releasedIn_append (log log' : List Observation) :
    releasedIn (log ++ log') = releasedIn log ++ releasedIn log' := flatMap_append

/-! ### The invariant -/

/-- What has nothing to do with a discovery. -/
def Observation.isRequest : Observation → Bool
  | .originated .. | .accepted .. | .discarded .. | .forwarded .. => true
  | _ => false

/-- What releases no datagram and delays none. -/
def Observation.isNeutral (o : Observation) : Prop := delayedIn [o] = [] ∧ releasedIn [o] = []

variable {o : Observation}

theorem Observation.isNeutral_of_isRequest (h : o.isRequest = true) : o.isNeutral := by
  cases o <;> first | exact ⟨rfl, rfl⟩ | cases h

theorem progress_of_isRequest (h : o.isRequest = true) (target : IPv4Address) (inProgress : Bool) :
    progress target inProgress o = inProgress := by
  cases o <;> first | rfl | cases h

/-- The datagrams are accounted for. -/
structure Accounted (b : Bookkeeping) : Prop where
  addressed : ∀ target, ∀ datagram ∈ b.delayed target, datagram.destAddr = target
  once : ∀ datagram, (delayedIn b.log).count datagram =
    (b.delayed datagram.destAddr).count datagram + (releasedIn b.log).count datagram
  own : ∀ target datagrams,
    .completed target datagrams ∈ b.log ∨ .givenUp target datagrams ∈ b.log →
      ∀ datagram ∈ datagrams, datagram.destAddr = target

/-- Every timer is scheduled, and every discovery has one. -/
structure Inv (b : Bookkeeping) : Prop extends Accounted b where
  scheduled : ∀ target timer, b.timers target = some timer → timer.arrivalTime.isSome = true
  ongoing : ∀ target, (b.timers target).isSome = inProgress b.log target
  waiting : ∀ target, b.timers target = none → b.delayed target = []

section Steps

variable {b b' : Bookkeeping}

theorem Accounted.observe (h : Accounted b) (ho : o.isNeutral)
    (hown : ∀ target datagrams, o = .completed target datagrams ∨ o = .givenUp target datagrams →
      ∀ datagram ∈ datagrams, datagram.destAddr = target) : Accounted (b.observe o) := by
  refine ⟨h.addressed, fun datagram => ?_, fun target datagrams hmem => ?_⟩
  · simpa [ho.1, ho.2] using h.once datagram
  · by_cases ho : o = .completed target datagrams ∨ o = .givenUp target datagrams
    · exact hown target datagrams ho
    · simp only [Bookkeeping.log_observe, mem_append, mem_singleton] at hmem
      exact h.own target datagrams (by grind)

/-- A datagram waits for its destination. -/
theorem Accounted.delay (h : Accounted b) (datagram : Datagram) : Accounted (b.delay datagram) := by
  refine ⟨fun target d hd => ?_, fun d => ?_, fun target datagrams hmem => ?_⟩
  · by_cases htarget : target = datagram.destAddr
    · subst htarget
      simp only [Bookkeeping.delayed_delay_self, mem_append, mem_singleton] at hd
      obtain hd | rfl := hd
      · exact h.addressed _ d hd
      · rfl
    · rw [Bookkeeping.delayed_delay_of_ne htarget] at hd
      exact h.addressed target d hd
  · have honce := h.once d
    by_cases hdest : d.destAddr = datagram.destAddr
    · rw [hdest] at honce
      simp [hdest, delayedIn, releasedIn] at honce ⊢
      omega
    · have hne : datagram ≠ d := by
        rintro rfl
        exact hdest rfl
      simpa [hdest, delayedIn, releasedIn, hne] using honce
  · exact h.own target datagrams (by simpa using hmem)

/-- The datagrams that wait for the target are sent. -/
theorem Accounted.complete (h : Accounted b) (target : IPv4Address) :
    Accounted (b.complete target) := by
  refine ⟨fun addr d hd => ?_, fun d => ?_, fun addr datagrams hmem => ?_⟩
  · by_cases haddr : addr = target
    · subst haddr
      simp at hd
    · rw [Bookkeeping.delayed_complete_of_ne haddr] at hd
      exact h.addressed addr d hd
  · have honce := h.once d
    by_cases hdest : d.destAddr = target
    · subst hdest
      simp [delayedIn, releasedIn] at honce ⊢
      omega
    · have hcount : (b.delayed target).count d = 0 :=
        count_eq_zero.2 fun hmem => hdest (h.addressed target d hmem)
      simpa [delayedIn, releasedIn, hdest, hcount] using honce
  · by_cases hlast : addr = target ∧ datagrams = b.delayed target
    · obtain ⟨rfl, rfl⟩ := hlast
      exact h.addressed addr
    · exact h.own addr datagrams (by simpa [hlast] using hmem)

theorem Accounted.setTimer (h : Accounted b) (target : IPv4Address) (timer : Option WaitForRREP) :
    Accounted (b.setTimer target timer) := ⟨h.addressed, h.once, h.own⟩

namespace Inv

section

variable (h : Inv b)
include h

theorem observe (ho : o.isRequest = true) : Inv (b.observe o) := by
  refine ⟨h.toAccounted.observe (Observation.isNeutral_of_isRequest ho) ?_, h.scheduled, ?_,
    h.waiting⟩
  · rintro target datagrams (rfl | rfl) <;> cases ho
  · intro target
    rw [Bookkeeping.log_observe, inProgress_append, foldl_cons, progress_of_isRequest ho]
    exact h.ongoing target

theorem record (rreqId : ℕ) (now : ℤ) : Inv (b.record rreqId now) :=
  ⟨⟨h.addressed, h.once, h.own⟩, h.scheduled, h.ongoing, h.waiting⟩

theorem originate (now : ℤ) (rreqId : ℕ) : Inv (b.originate now rreqId) :=
  (h.record rreqId now).observe rfl

theorem accept (now : ℤ) (rreq : RREQ) : Inv (b.accept now rreq) :=
  (h.observe rfl).record rreq.rreqId now

theorem delay {datagram : Datagram} (hongoing : (b.timers datagram.destAddr).isSome = true) :
    Inv (b.delay datagram) := by
  refine ⟨h.toAccounted.delay datagram, h.scheduled, fun target => ?_, fun target hnone => ?_⟩
  · simpa [progress] using h.ongoing target
  · rw [Bookkeeping.timers_delay] at hnone
    have htarget : target ≠ datagram.destAddr := by
      rintro rfl
      rw [hnone] at hongoing
      cases hongoing
    simpa [htarget] using h.waiting target hnone

variable {timer : WaitForRREP}

/-- A datagram waits, and its discovery starts with a timer. -/
theorem start (datagram : Datagram) (htimer : timer.arrivalTime.isSome = true) :
    Inv (((b.delay datagram).observe (.started datagram.destAddr)).setTimer datagram.destAddr
      (some timer)) := by
  refine ⟨((h.toAccounted.delay datagram).observe ⟨rfl, rfl⟩ ?_).setTimer _ _,
    fun target timer' htimer' => ?_, fun target => ?_, fun target hnone => ?_⟩
  · rintro target datagrams (h | h) <;> cases h
  all_goals by_cases htarget : target = datagram.destAddr
  · subst htarget
    rw [Bookkeeping.timers_setTimer_self] at htimer'
    exact Option.some.inj htimer' ▸ htimer
  · exact h.scheduled target timer' (by simpa [htarget] using htimer')
  · subst htarget
    simp [progress]
  · simpa [progress, htarget, Ne.symm htarget] using h.ongoing target
  · subst htarget
    simp at hnone
  · simpa [htarget] using h.waiting target (by simpa [htarget] using hnone)

/-- The timer has expired and is scheduled again. -/
theorem retry {target : IPv4Address} (hongoing : (b.timers target).isSome = true)
    (htimer : timer.arrivalTime.isSome = true) :
    Inv ((b.expire target).setTimer target (some timer)) := by
  rw [Bookkeeping.setTimer_expire]
  refine ⟨h.toAccounted.setTimer _ _, fun addr timer' htimer' => ?_, fun addr => ?_,
    fun addr hnone => h.waiting addr ?_⟩
  all_goals by_cases haddr : addr = target
  · subst haddr
    rw [Bookkeeping.timers_setTimer_self] at htimer'
    exact Option.some.inj htimer' ▸ htimer
  · exact h.scheduled addr timer' (by simpa [haddr] using htimer')
  · subst haddr
    simpa [hongoing] using h.ongoing addr
  · simpa [haddr] using h.ongoing addr
  · subst haddr
    simp at hnone
  · simpa [haddr] using hnone

theorem complete (target : IPv4Address) : Inv (b.complete target) := by
  refine ⟨h.toAccounted.complete target, fun addr timer htimer => ?_, fun addr => ?_,
    fun addr hnone => ?_⟩
  all_goals by_cases haddr : addr = target
  · subst haddr
    simp at htimer
  · exact h.scheduled addr timer (by simpa [haddr] using htimer)
  · subst haddr
    simp [progress]
  · simpa [progress, haddr, Ne.symm haddr] using h.ongoing addr
  · subst haddr
    simp
  · simpa [haddr] using h.waiting addr (by simpa [haddr] using hnone)

end

theorem step {n : AODVRouting} {now : ℤ} {m : AODVRouting.Message} (h : Inv n.bookkeeping)
    (hadmissible : n.Admissible (now, m)) (hstep : n.Step now m b') : Inv b' := by
  cases hstep with
  | idle | ignore => exact h
  | delay datagram hongoing => exact h.delay hongoing
  | start datagram rreqId timer hstarts hlimit htimer =>
    exact (h.start datagram htimer).originate now rreqId
  | startLimited datagram rreqId hstarts hlimit =>
    exact absurd (hadmissible.2 hstarts) hlimit.not_gt
  | retry target rreqId timer hongoing hlimit htimer =>
    exact (h.retry hongoing htimer).originate now rreqId
  | retryLimited target rreqId hlimit => exact absurd hadmissible.2.1 hlimit.not_gt
  | giveUp target hretries => exact absurd hretries hadmissible.2.2
  | complete packet target hother hongoing => exact h.complete target
  | discard => exact h.observe rfl
  | accept packet rreq => exact h.accept now rreq
  | forward packet rreq => exact (h.accept now rreq).observe rfl

end Inv

end Steps

/-! ### Runs -/

namespace AODVRouting

theorem keepsDiscoveries_of_inv {n : AODVRouting} (h : Inv n.bookkeeping) : n.KeepsDiscoveries := by
  have hnone : ∀ target, inProgress n.log target = false → n.waitForRREPTimers target = none := by
    intro target hended
    have hisSome : (n.waitForRREPTimers target).isSome = false := (h.ongoing target).trans hended
    simpa using hisSome
  refine ⟨fun target hwaits => ?_, h.ongoing,
    fun target hended => h.waiting target (hnone target hended), h.once, h.own⟩
  cases htimer : n.waitForRREPTimers target with
  | none => exact absurd (h.waiting target htimer) hwaits
  | some timer => exact ⟨timer, rfl, h.scheduled target timer htimer⟩

/-- **Every delayed datagram waits for a timer** and is sent once, when its discovery is completed,
after all messages that neither meet the rate limit nor the last attempt. -/
theorem discoveries_run {config : AodvConfig} {selfIPAddress : IPv4Address}
    {ms : List (ℤ × Message)} {n : AODVRouting}
    (hrun : Run handleMessage Admissible (initial config selfIPAddress) ms n) :
    n.KeepsDiscoveries := by
  refine keepsDiscoveries_of_inv (hrun.invariant (I := fun n => Inv n.bookkeeping)
    (fun n m n' h hadmissible hstep => ?_) ?_)
  · exact h.step hadmissible (handleMessage_step hstep)
  · refine ⟨⟨fun _ _ hmem => ?_, fun _ => rfl, fun _ _ hmem => ?_⟩, fun _ _ htimer => ?_,
      fun _ => rfl, fun _ _ => rfl⟩
    · cases hmem
    · cases hmem <;> contradiction
    · cases htimer

/-! ### Sample runs -/

instance (n : AODVRouting) : (m : ℤ × Message) → Decidable (n.Admissible m)
  | (now, .datagram datagram) => inferInstanceAs (Decidable (n.CanHappen (now, .datagram datagram) ∧
      (n.startsDiscovery datagram = true → n.rreqCount < n.rreqRatelimit)))
  | (now, .waitForRREP target) =>
    inferInstanceAs (Decidable (n.CanHappen (now, .waitForRREP target) ∧
      n.rreqCount < n.rreqRatelimit ∧ n.addressToRreqRetries target ≠ some n.rreqRetries))
  | (now, .rrepAckTimer) => inferInstanceAs (Decidable (n.CanHappen (now, .rrepAckTimer) ∧ True))
  | (_, .packet _) | (_, .forward ..) | (_, .linkBreak _) | (_, .helloMsgTimer)
  | (_, .expungeTimer) | (_, .counterTimer) | (_, .blacklistTimer _) => isTrue ⟨trivial, trivial⟩

def sampleDatagram : Datagram := ⟨0, 0x0A000001, 0x0A000003⟩

def sampleRREP : RREP where
  hopCount := 0
  destAddr := 0x0A000003
  destSeqNum := 1
  originatorAddr := 0x0A000001
  originatorSeqNum := 2
  lifeTime := 6000

/-- The reply of the destination itself. -/
def sampleReply : Packet := ⟨0x0A000003, 0x0A000001, 254, .rrep sampleRREP⟩

/-- The reply to the second request arrives. -/
def sampleDiscovery : List (ℤ × Message) :=
  [(0, .datagram sampleDatagram), (320, .waitForRREP 0x0A000003), (400, .packet sampleReply)]

theorem discoveries_run_sample : ∃ n,
    Run handleMessage Admissible (initial defaultConfig 0x0A000001) sampleDiscovery n ∧
      (releasedIn n.log).count sampleDatagram = 1 ∧ n.KeepsDiscoveries := by
  obtain ⟨n, hrun, hcount⟩ := exists_run_of_exec
    (f := fun n : AODVRouting => (releasedIn n.log).count sampleDatagram)
    (by decide +kernel : (exec handleMessage Admissible (initial defaultConfig 0x0A000001)
      sampleDiscovery).map (fun n : AODVRouting => (releasedIn n.log).count sampleDatagram) =
        some 1)
  exact ⟨n, hrun, hcount, discoveries_run hrun⟩

/-- No reply arrives, until the discovery is given up. -/
def failingDiscovery : List (ℤ × Message) :=
  [(0, .datagram sampleDatagram), (320, .waitForRREP 0x0A000003), (800, .waitForRREP 0x0A000003),
    (1000, .counterTimer), (1440, .waitForRREP 0x0A000003), (2000, .counterTimer),
    (3000, .counterTimer), (4000, .counterTimer), (4400, .waitForRREP 0x0A000003),
    (5000, .counterTimer), (6000, .counterTimer), (7000, .counterTimer),
    (7360, .waitForRREP 0x0A000003), (8000, .counterTimer), (9000, .counterTimer),
    (10000, .counterTimer), (10320, .waitForRREP 0x0A000003)]

/-- The datagram still waits, and the timer stays behind. -/
theorem not_discoveries_run : ¬∀ (config : AodvConfig) (selfIPAddress : IPv4Address)
    (ms : List (ℤ × Message)) (n : AODVRouting),
    Run handleMessage CanHappen (initial config selfIPAddress) ms n → n.KeepsDiscoveries := by
  intro h
  obtain ⟨n, hrun, hn⟩ := exists_run_of_exec
    (f := fun n : AODVRouting =>
      (n.targetAddressToDelayedPackets 0x0A000003, n.waitForRREPTimers 0x0A000003))
    (by decide +kernel : (exec handleMessage CanHappen (initial defaultConfig 0x0A000001)
      failingDiscovery).map (fun n : AODVRouting =>
        (n.targetAddressToDelayedPackets 0x0A000003, n.waitForRREPTimers 0x0A000003)) =
        some ([sampleDatagram], some ⟨35, none⟩))
  obtain ⟨hwaits, htimer⟩ := Prod.mk.inj hn
  obtain ⟨timer, htimer', harrival⟩ :=
    (h _ _ _ n hrun).scheduled 0x0A000003 (by rw [hwaits]; exact cons_ne_nil _ _)
  cases htimer.symm.trans htimer'
  cases harrival

end AODVRouting

end Aodv

end Hiwis
