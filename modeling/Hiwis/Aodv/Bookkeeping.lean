import Hiwis.Aodv.AODVRouting

/-!
# The discoveries and requests of an AODV node

`Aodv.Bookkeeping` is what a node keeps besides its routes: the timers and the delayed datagrams of
its route discoveries, and the arrival times of requests.

* `Aodv.AODVRouting.handleMessage_step` : the changes that one message can make (`Aodv.Step`).
-/

namespace Hiwis

open Function

namespace Aodv

open IPv4Address

/-- The discoveries and the requests. -/
structure Bookkeeping where
  pathDiscoveryTime : ℤ
  selfIPAddress : IPv4Address
  timers : IPv4Address → Option WaitForRREP
  delayed : IPv4Address → List Datagram
  arrivalTime : ℕ → Option ℤ
  log : List Observation

namespace Bookkeeping

variable (b : Bookkeeping)

def observe (observation : Observation) : Bookkeeping := { b with log := b.log ++ [observation] }

def delay (datagram : Datagram) : Bookkeeping :=
  { b.observe (.delayed datagram) with
    delayed := update b.delayed datagram.destAddr
      (b.delayed datagram.destAddr ++ [datagram]) }

def setTimer (target : IPv4Address) (timer : Option WaitForRREP) : Bookkeeping :=
  { b with timers := update b.timers target timer }

def record (rreqId : ℕ) (now : ℤ) : Bookkeeping :=
  { b with arrivalTime := update b.arrivalTime rreqId (some now) }

def originate (now : ℤ) (rreqId : ℕ) : Bookkeeping :=
  (b.record rreqId now).observe (.originated now b.selfIPAddress rreqId)

def expire (target : IPv4Address) : Bookkeeping :=
  b.setTimer target ((b.timers target).map fun timer => { timer with arrivalTime := none })

def complete (target : IPv4Address) : Bookkeeping :=
  { (b.observe (.completed target (b.delayed target))).setTimer target none with
    delayed := update b.delayed target [] }

def accept (now : ℤ) (rreq : RREQ) : Bookkeeping :=
  (b.observe (.accepted now rreq.originatorAddr rreq.rreqId)).record rreq.rreqId now

section Fields

variable {b} {target addr : IPv4Address} {timer : Option WaitForRREP} {datagram : Datagram}
  {observation : Observation}

@[simp] theorem log_observe : (b.observe observation).log = b.log ++ [observation] := rfl

@[simp] theorem timers_observe : (b.observe observation).timers = b.timers := rfl

@[simp] theorem delayed_observe : (b.observe observation).delayed = b.delayed := rfl

@[simp] theorem log_setTimer : (b.setTimer target timer).log = b.log := rfl

@[simp] theorem delayed_setTimer : (b.setTimer target timer).delayed = b.delayed := rfl

@[simp] theorem timers_setTimer_self : (b.setTimer target timer).timers target = timer :=
  update_self ..

@[simp] theorem timers_setTimer_of_ne (h : addr ≠ target) :
    (b.setTimer target timer).timers addr = b.timers addr :=
  update_of_ne h ..

@[simp] theorem log_delay : (b.delay datagram).log = b.log ++ [.delayed datagram] := rfl

@[simp] theorem timers_delay : (b.delay datagram).timers = b.timers := rfl

@[simp] theorem delayed_delay_self : (b.delay datagram).delayed datagram.destAddr =
    b.delayed datagram.destAddr ++ [datagram] := update_self ..

@[simp] theorem delayed_delay_of_ne (h : addr ≠ datagram.destAddr) :
    (b.delay datagram).delayed addr = b.delayed addr := update_of_ne h ..

@[simp] theorem log_complete :
    (b.complete target).log = b.log ++ [.completed target (b.delayed target)] := rfl

@[simp] theorem timers_complete_self : (b.complete target).timers target = none := update_self ..

@[simp] theorem timers_complete_of_ne (h : addr ≠ target) :
    (b.complete target).timers addr = b.timers addr := update_of_ne h ..

@[simp] theorem delayed_complete_self : (b.complete target).delayed target = [] := update_self ..

@[simp] theorem delayed_complete_of_ne (h : addr ≠ target) :
    (b.complete target).delayed addr = b.delayed addr := update_of_ne h ..

@[simp] theorem arrivalTime_record_self {rreqId : ℕ} {now : ℤ} :
    (b.record rreqId now).arrivalTime rreqId = some now := update_self ..

@[simp] theorem arrivalTime_record_of_ne {rreqId id : ℕ} {now : ℤ} (h : id ≠ rreqId) :
    (b.record rreqId now).arrivalTime id = b.arrivalTime id := update_of_ne h ..

theorem setTimer_expire (timer : Option WaitForRREP) :
    (b.expire target).setTimer target timer = b.setTimer target timer := by
  simp [expire, setTimer]

end Fields

end Bookkeeping

namespace AODVRouting

variable {n n' : AODVRouting}

def bookkeeping (n : AODVRouting) : Bookkeeping where
  pathDiscoveryTime := n.pathDiscoveryTime
  selfIPAddress := n.selfIPAddress
  timers := n.waitForRREPTimers
  delayed := n.targetAddressToDelayedPackets
  arrivalTime := n.rreqsArrivalTime
  log := n.log

/-! ### What leaves the bookkeeping alone -/

section Frame

variable (n) (now : ℤ) (addr nextHop : IPv4Address)

@[simp] theorem bookkeeping_modifyRoute (f : Route → Route) :
    (n.modifyRoute addr f).bookkeeping = n.bookkeeping := rfl

@[simp] theorem bookkeeping_addPrecursor :
    (n.addPrecursor addr nextHop).bookkeeping = n.bookkeeping := rfl

@[simp] theorem bookkeeping_setLifeTime (lifeTime : ℤ) :
    (n.setLifeTime addr lifeTime).bookkeeping = n.bookkeeping := rfl

@[simp] theorem bookkeeping_setRoute (hopCount : ℕ) (hasValidDestNum : Bool) (destSeqNum : ℕ)
    (isActive : Bool) (lifeTime : ℤ) :
    (n.setRoute addr nextHop hopCount hasValidDestNum destSeqNum isActive lifeTime).bookkeeping =
      n.bookkeeping := by
  unfold setRoute
  cases n.findRoute addr <;> rfl

@[simp] theorem bookkeeping_updateValidRouteLifeTime (lifeTime : ℤ) :
    (n.updateValidRouteLifeTime addr lifeTime).bookkeeping = n.bookkeeping := by
  unfold updateValidRouteLifeTime
  cases n.findRoute addr with
  | none => rfl
  | some route =>
    simp only
    split_ifs <;> rfl

@[simp] theorem bookkeeping_sendAODVPacket (body : ControlPacket) (timeToLive : ℕ) :
    (n.sendAODVPacket now body addr timeToLive).bookkeeping = n.bookkeeping := rfl

variable {rrep : RREP}

theorem sendRREP_bookkeeping {timeToLive : ℕ} (h : n.sendRREP now rrep addr timeToLive = .ok n') :
    n'.bookkeeping = n.bookkeeping := by
  unfold sendRREP at h
  cases hroute : n.findRoute addr with
  | none =>
    rw [hroute] at h
    cases h
  | some route =>
    rw [hroute] at h
    simp only at h
    split_ifs at h <;> · obtain rfl := Except.ok.inj h; rfl

theorem sendGRREP_bookkeeping {timeToLive : ℕ} (h : n.sendGRREP now rrep addr timeToLive = .ok n') :
    n'.bookkeeping = n.bookkeeping := by
  unfold sendGRREP at h
  cases hroute : n.findRoute addr with
  | none =>
    rw [hroute] at h
    cases h
  | some route =>
    rw [hroute] at h
    cases h
    rfl

@[simp] theorem bookkeeping_createRREP (rreq : RREQ) :
    (n.createRREP rreq).1.bookkeeping = n.bookkeeping := by
  simp only [createRREP]
  split_ifs <;> rfl

@[simp] theorem bookkeeping_acceptRREP (rrep : RREP) :
    (n.acceptRREP now rrep addr).bookkeeping = n.bookkeeping := bookkeeping_setRoute ..

@[simp] theorem bookkeeping_setForwardRoute (rrep : RREP) :
    (n.setForwardRoute now rrep addr).bookkeeping = n.bookkeeping := by
  unfold setForwardRoute
  cases n.findRoute rrep.destAddr with
  | none => simp
  | some route =>
    simp only
    split_ifs <;> simp

@[simp] theorem bookkeeping_setReverseRoute (rreq : RREQ) :
    (n.setReverseRoute now rreq addr).bookkeeping = n.bookkeeping := by
  unfold setReverseRoute
  cases n.findRoute rreq.originatorAddr with
  | none => simp
  | some route =>
    simp only
    split_ifs <;> simp

theorem relayRREP_bookkeeping (h : n.relayRREP now rrep addr = .ok n') :
    n'.bookkeeping = n.bookkeeping := by
  unfold relayRREP at h
  split at h
  · cases h
    rfl
  · simp only at h
    split_ifs at h
    · split at h
      · cases h
      · split at h
        · cases h
        · cases h
          simp
    · split at h
      · cases h
      · split at h
        · cases h
        · cases h
          simp
    · cases h
      simp

@[simp] theorem bookkeeping_handleHelloMessage (helloMessage : RREP) :
    (n.handleHelloMessage now helloMessage).bookkeeping = n.bookkeeping := bookkeeping_setRoute ..

theorem handleRREPACK_bookkeeping (h : n.handleRREPACK addr = .ok n') :
    n'.bookkeeping = n.bookkeeping := by
  unfold handleRREPACK at h
  split_ifs at h
  split at h <;> · obtain rfl := Except.ok.inj h; rfl

@[simp] theorem bookkeeping_handleLinkBreak :
    (n.handleLinkBreak now addr).bookkeeping = n.bookkeeping := by
  unfold handleLinkBreak
  cases n.findRoute addr with
  | none => rfl
  | some route =>
    simp only [handleLinkBreakSendRERR]
    cases n.findRoute route.gateway with
    | none => rfl
    | some unreachableRoute =>
      simp only
      split_ifs <;> rfl

@[simp] theorem bookkeeping_handleRERR (unreachableNodes : List UnreachableNode) :
    (n.handleRERR now unreachableNodes addr).bookkeeping = n.bookkeeping := by
  simp only [handleRERR]
  split_ifs <;> rfl

@[simp] theorem bookkeeping_sendRERRWhenNoRouteToForward :
    (n.sendRERRWhenNoRouteToForward now addr).bookkeeping = n.bookkeeping := by
  unfold sendRERRWhenNoRouteToForward
  split_ifs <;> rfl

@[simp] theorem bookkeeping_datagramForwardHook :
    (n.datagramForwardHook now addr nextHop).bookkeeping = n.bookkeeping := by
  unfold datagramForwardHook
  cases n.findRoute addr <;> cases n.findRoute nextHop <;> simp only <;> split_ifs <;> simp

@[simp] theorem bookkeeping_sendHelloMessagesIfNeeded :
    (n.sendHelloMessagesIfNeeded now).bookkeeping = n.bookkeeping := by
  unfold sendHelloMessagesIfNeeded
  split_ifs <;> rfl

end Frame

/-! ### What changes the bookkeeping -/

section Changes

variable {now : ℤ} {target destAddr : IPv4Address} {timeToLive : ℕ} {rreq : RREQ}

@[simp] theorem bookkeeping_observe (n : AODVRouting) (observation : Observation) :
    (n.observe observation).bookkeeping = n.bookkeeping.observe observation := rfl

theorem bookkeeping_record (n : AODVRouting) (rreqId : ℕ) (now : ℤ) :
    { n with
      rreqsArrivalTime := update n.rreqsArrivalTime rreqId (some now) }.bookkeeping =
      n.bookkeeping.record rreqId now := rfl

@[simp] theorem bookkeeping_countRetry (lastTTL retries : ℕ) :
    (n.countRetry target lastTTL retries).bookkeeping = n.bookkeeping := by
  unfold countRetry
  split_ifs <;> rfl

@[simp] theorem rreqCount_countRetry (lastTTL retries : ℕ) :
    (n.countRetry target lastTTL retries).rreqCount = n.rreqCount := by
  unfold countRetry
  split_ifs <;> rfl

@[simp] theorem rreqRatelimit_countRetry (lastTTL retries : ℕ) :
    (n.countRetry target lastTTL retries).rreqRatelimit = n.rreqRatelimit := by
  unfold countRetry
  split_ifs <;> rfl

/-- A request is sent, and its timer scheduled, unless too many have been sent lately. -/
theorem sendRREQ_bookkeeping (h : n.sendRREQ now rreq destAddr timeToLive = .ok n') :
    (n.rreqRatelimit ≤ n.rreqCount ∧ n'.bookkeeping = n.bookkeeping) ∨
      (n.rreqCount < n.rreqRatelimit ∧ ∃ timer : WaitForRREP, timer.arrivalTime.isSome ∧
        n'.bookkeeping = n.bookkeeping.setTimer rreq.destAddr (some timer)) := by
  unfold sendRREQ at h
  split_ifs at h with hlimit
  · cases h
    exact .inl ⟨hlimit, rfl⟩
  · obtain ⟨ttl, -, h⟩ := Except.bind_eq_ok.1 h
    simp only at h
    split_ifs at h
    cases h
    exact .inr ⟨not_le.1 hlimit, _, rfl, rfl⟩

/-! ### Steps -/

/-- The datagram makes the node look for a route. -/
def startsDiscovery (n : AODVRouting) (datagram : Datagram) : Bool :=
  let destAddr := datagram.destAddr
  !(decide (destAddr = allonesAddress) || decide (destAddr = n.selfIPAddress) ||
    destAddr.isMulticast) &&
  !((n.findRoute destAddr).any fun route => route.active && !route.gateway.isUnspecified) &&
  (datagram.srcAddr.isUnspecified || decide (datagram.srcAddr = n.selfIPAddress)) &&
  !n.hasOngoingRouteDiscovery destAddr

/-- The request that arrives, and the node that has sent it. -/
def Message.request? : Message → Option (RREQ × IPv4Address)
  | .packet ⟨srcAddr, _, _, .rreq rreq⟩ => some (rreq, srcAddr)
  | _ => none

variable {packet : Packet}

theorem request?_eq_none (h : ∀ rreq, packet.body ≠ .rreq rreq) :
    (Message.packet packet).request? = none := by
  obtain ⟨srcAddr, destAddr, timeToLive, body⟩ := packet
  cases body with
  | rreq rreq => exact absurd rfl (h rreq)
  | rrep | rerr | rrepAck => rfl

/-- What a message can do to the bookkeeping of the node `n`. -/
inductive Step (n : AODVRouting) (now : ℤ) : Message → Bookkeeping → Prop
  | idle (m : Message) : m.request? = none → Step n now m n.bookkeeping
  | ignore (packet : Packet) (rreq : RREQ) : packet.body = .rreq rreq →
      (n.blacklist packet.srcAddr).isSome = true → Step n now (.packet packet) n.bookkeeping
  | delay (datagram : Datagram) : n.hasOngoingRouteDiscovery datagram.destAddr = true →
      Step n now (.datagram datagram) (n.bookkeeping.delay datagram)
  | start (datagram : Datagram) (rreqId : ℕ) (timer : WaitForRREP) :
      n.startsDiscovery datagram = true → n.rreqCount < n.rreqRatelimit →
      timer.arrivalTime.isSome = true →
      Step n now (.datagram datagram) ((((n.bookkeeping.delay datagram).observe
        (.started datagram.destAddr)).originate now rreqId).setTimer datagram.destAddr (some timer))
  | startLimited (datagram : Datagram) (rreqId : ℕ) :
      n.startsDiscovery datagram = true → n.rreqRatelimit ≤ n.rreqCount →
      Step n now (.datagram datagram) (((n.bookkeeping.delay datagram).observe
        (.started datagram.destAddr)).originate now rreqId)
  | retry (target : IPv4Address) (rreqId : ℕ) (timer : WaitForRREP) :
      n.hasOngoingRouteDiscovery target = true → n.rreqCount < n.rreqRatelimit →
      timer.arrivalTime.isSome = true →
      Step n now (.waitForRREP target)
        (((n.bookkeeping.expire target).originate now rreqId).setTimer target (some timer))
  | retryLimited (target : IPv4Address) (rreqId : ℕ) : n.rreqRatelimit ≤ n.rreqCount →
      Step n now (.waitForRREP target) ((n.bookkeeping.expire target).originate now rreqId)
  | giveUp (target : IPv4Address) : n.addressToRreqRetries target = some n.rreqRetries →
      Step n now (.waitForRREP target)
        ((n.bookkeeping.expire target).observe (.givenUp target []))
  | complete (packet : Packet) (target : IPv4Address) : (∀ rreq, packet.body ≠ .rreq rreq) →
      n.hasOngoingRouteDiscovery target = true →
      Step n now (.packet packet) (n.bookkeeping.complete target)
  | discard (packet : Packet) (rreq : RREQ) : packet.body = .rreq rreq →
      n.blacklist packet.srcAddr = none →
      n.isDuplicate now rreq = true →
      Step n now (.packet packet)
        (n.bookkeeping.observe (.discarded now rreq.originatorAddr rreq.rreqId))
  | accept (packet : Packet) (rreq : RREQ) : packet.body = .rreq rreq →
      n.blacklist packet.srcAddr = none →
      n.isDuplicate now rreq = false →
      Step n now (.packet packet) (n.bookkeeping.accept now rreq)
  | forward (packet : Packet) (rreq : RREQ) : packet.body = .rreq rreq →
      n.blacklist packet.srcAddr = none →
      n.isDuplicate now rreq = false →
      Step n now (.packet packet) ((n.bookkeeping.accept now rreq).observe
        (.forwarded now rreq.originatorAddr rreq.rreqId))

theorem startRouteDiscovery_bookkeeping
    (h : n.startRouteDiscovery now target timeToLive = .ok n') : ∃ rreqId : ℕ,
    (n.rreqRatelimit ≤ n.rreqCount ∧ n'.bookkeeping =
      (n.bookkeeping.observe (.started target)).originate now rreqId) ∨
    (n.rreqCount < n.rreqRatelimit ∧ ∃ timer : WaitForRREP, timer.arrivalTime.isSome = true ∧
      n'.bookkeeping = ((n.bookkeeping.observe (.started target)).originate now rreqId).setTimer
        target (some timer)) := by
  unfold startRouteDiscovery at h
  split_ifs at h
  obtain ⟨hlimit, hsame⟩ | ⟨hlimit, timer, htimer, hset⟩ := sendRREQ_bookkeeping h
  · exact ⟨_, .inl ⟨hlimit, hsame⟩⟩
  · exact ⟨_, .inr ⟨hlimit, timer, htimer, hset⟩⟩

theorem startsDiscovery_eq_true {datagram : Datagram} : n.startsDiscovery datagram = true ↔
    ¬(datagram.destAddr = allonesAddress ∨ datagram.destAddr = n.selfIPAddress ∨
      datagram.destAddr.isMulticast = true) ∧
    ((n.findRoute datagram.destAddr).filter
      fun route => route.active && !route.gateway.isUnspecified) = none ∧
    (datagram.srcAddr.isUnspecified = true ∨ datagram.srcAddr = n.selfIPAddress) ∧
    ¬n.hasOngoingRouteDiscovery datagram.destAddr = true := by
  rw [startsDiscovery]
  cases n.findRoute datagram.destAddr with
  | none => simp [and_assoc]
  | some route =>
    cases hactive : route.active <;> simp [and_assoc, Option.filter_eq_none_iff, hactive]

theorem ensureRouteForDatagram_step {datagram : Datagram}
    (h : n.ensureRouteForDatagram now datagram = .ok n') :
    Step n now (.datagram datagram) n'.bookkeeping := by
  unfold ensureRouteForDatagram at h
  simp only at h
  by_cases hlocal : datagram.destAddr = allonesAddress ∨ datagram.destAddr = n.selfIPAddress ∨
      datagram.destAddr.isMulticast = true
  · rw [if_pos hlocal] at h
    cases h
    exact .idle _ rfl
  rw [if_neg hlocal] at h
  cases hactive : (n.findRoute datagram.destAddr).filter
      fun route => route.active && !route.gateway.isUnspecified with
  | some route =>
    rw [hactive] at h
    cases h
    rw [bookkeeping_updateValidRouteLifeTime, bookkeeping_updateValidRouteLifeTime]
    exact .idle _ rfl
  | none =>
    rw [hactive] at h
    simp only at h
    by_cases hsource : datagram.srcAddr.isUnspecified = true ∨ datagram.srcAddr = n.selfIPAddress
    · rw [if_pos hsource] at h
      by_cases hongoing : (n.delayDatagram datagram).hasOngoingRouteDiscovery
          datagram.destAddr = true
      · rw [if_pos hongoing] at h
        cases h
        exact .delay datagram hongoing
      · rw [if_neg hongoing] at h
        have hstarts : n.startsDiscovery datagram = true :=
          startsDiscovery_eq_true.2 ⟨hlocal, hactive, hsource, hongoing⟩
        obtain ⟨timeToLive, h⟩ : ∃ timeToLive, (n.delayDatagram datagram).startRouteDiscovery now
            datagram.destAddr timeToLive = .ok n' := by
          split at h
          · exact ⟨_, h⟩
          · exact ⟨_, h⟩
        obtain ⟨rreqId, ⟨hlimit, hsame⟩ | ⟨hlimit, timer, htimer, hset⟩⟩ :=
          startRouteDiscovery_bookkeeping h
        · rw [hsame]
          exact .startLimited datagram rreqId hstarts hlimit
        · rw [hset]
          exact .start datagram rreqId timer hstarts hlimit htimer
    · rw [if_neg hsource] at h
      cases h
      exact .idle _ rfl

theorem handleWaitForRREP_step
    (h : (n.expireWaitForRREP target).handleWaitForRREP now target = .ok n') :
    Step n now (.waitForRREP target) n'.bookkeeping := by
  unfold handleWaitForRREP at h
  split at h
  · rename_i retries timer hretries htimer
    have hongoing : n.hasOngoingRouteDiscovery target = true := by
      simp only [expireWaitForRREP, update_self, Option.map_eq_some_iff] at htimer
      obtain ⟨timer, htimer, -⟩ := htimer
      rw [hasOngoingRouteDiscovery, htimer]
      rfl
    by_cases hlast : retries = (n.expireWaitForRREP target).rreqRetries
    · rw [if_pos hlast] at h
      cases h
      exact .giveUp target (hretries.trans (congrArg some hlast))
    · rw [if_neg hlast] at h
      obtain ⟨hlimit, hsame⟩ | ⟨hlimit, timer', htimer', hset⟩ := sendRREQ_bookkeeping h
      · rw [rreqCount_countRetry, rreqRatelimit_countRetry] at hlimit
        rw [hsame, bookkeeping_countRetry]
        exact .retryLimited target _ hlimit
      · rw [rreqCount_countRetry, rreqRatelimit_countRetry] at hlimit
        rw [hset, bookkeeping_countRetry]
        exact .retry target _ timer' hongoing hlimit htimer'
  · cases h

theorem relayRREQ_bookkeeping (n : AODVRouting) (now : ℤ) (rreq : RREQ) (timeToLive : ℕ) :
    (n.relayRREQ now rreq timeToLive).bookkeeping = n.bookkeeping ∨
      (n.relayRREQ now rreq timeToLive).bookkeeping = n.bookkeeping.observe
        (.forwarded now rreq.originatorAddr rreq.rreqId) := by
  unfold relayRREQ
  split_ifs
  · refine .inr ?_
    cases n.findRoute rreq.destAddr <;> rfl
  · exact .inl rfl

theorem answerRREQ_bookkeeping {sourceAddr : IPv4Address}
    (h : n.answerRREQ now rreq sourceAddr timeToLive = .ok n') :
    n'.bookkeeping = n.bookkeeping ∨ n'.bookkeeping = n.bookkeeping.observe
      (.forwarded now rreq.originatorAddr rreq.rreqId) := by
  unfold answerRREQ at h
  by_cases hself : rreq.destAddr = n.selfIPAddress
  · rw [if_pos hself] at h
    exact .inl ((sendRREP_bookkeeping _ _ _ h).trans (bookkeeping_createRREP n rreq))
  rw [if_neg hself] at h
  split at h
  · split_ifs at h
    · cases h
      exact .inl rfl
    · obtain ⟨n1, hreply, h⟩ := Except.bind_eq_ok.1 h
      have hsame : n1.bookkeeping = n.bookkeeping := (sendRREP_bookkeeping _ _ _ hreply :)
      split at h
      · cases h
      · exact .inl ((sendGRREP_bookkeeping _ _ _ h).trans hsame)
    · obtain ⟨n1, hreply, h⟩ := Except.bind_eq_ok.1 h
      cases h
      exact .inl (sendRREP_bookkeeping _ _ _ hreply :)
  · cases h
    exact relayRREQ_bookkeeping n now rreq timeToLive

theorem isDuplicate_eq (n : AODVRouting) (now : ℤ) (rreq : RREQ) : n.isDuplicate now rreq =
    (n.bookkeeping.arrivalTime rreq.rreqId).any
      fun time => decide (now - time ≤ n.bookkeeping.pathDiscoveryTime) := rfl

theorem handleRREQ_step (hbody : packet.body = .rreq rreq)
    (h : n.handleRREQ now rreq packet.srcAddr packet.timeToLive = .ok n') :
    Step n now (.packet packet) n'.bookkeeping := by
  unfold handleRREQ at h
  by_cases hblack : (n.blacklist packet.srcAddr).isSome = true
  · rw [if_pos hblack] at h
    cases h
    exact .ignore packet rreq hbody hblack
  rw [if_neg hblack] at h
  rw [Option.not_isSome_iff_eq_none] at hblack
  simp only at h
  generalize hset : n.setRoute packet.srcAddr packet.srcAddr 1 false rreq.originatorSeqNum true
    (now + n.activeRouteTimeout) = n1 at h
  have hsame : n1.bookkeeping = n.bookkeeping := hset ▸ bookkeeping_setRoute ..
  have hduplicate : n1.isDuplicate now rreq = n.isDuplicate now rreq := by
    rw [isDuplicate_eq, isDuplicate_eq, hsame]
  by_cases hdup : n1.isDuplicate now rreq = true
  · rw [if_pos hdup] at h
    cases h
    rw [bookkeeping_observe, hsame]
    exact .discard packet rreq hbody hblack (hduplicate ▸ hdup)
  rw [if_neg hdup] at h
  rw [hduplicate, Bool.not_eq_true] at hdup
  obtain hanswer | hanswer := answerRREQ_bookkeeping h
  · rw [hanswer, bookkeeping_setReverseRoute, bookkeeping_record, bookkeeping_observe, hsame]
    exact .accept packet rreq hbody hblack hdup
  · rw [hanswer, bookkeeping_setReverseRoute, bookkeeping_record, bookkeeping_observe, hsame]
    exact .forward packet rreq hbody hblack hdup

theorem hasOngoingRouteDiscovery_eq (n : AODVRouting) (target : IPv4Address) :
    n.hasOngoingRouteDiscovery target = (n.bookkeeping.timers target).isSome := rfl

theorem bookkeeping_completeRouteDiscovery (n : AODVRouting) (target : IPv4Address) :
    (n.completeRouteDiscovery target).bookkeeping = n.bookkeeping.complete target := rfl

theorem handleRREP_step {rrep : RREP} (hbody : packet.body = .rrep rrep)
    (h : n.handleRREP now rrep packet.srcAddr = .ok n') :
    Step n now (.packet packet) n'.bookkeeping := by
  have hother : ∀ rreq, packet.body ≠ .rreq rreq := by simp [hbody]
  unfold handleRREP at h
  by_cases hhello : rrep.originatorAddr.isUnspecified = true
  · rw [if_pos hhello] at h
    cases h
    rw [bookkeeping_handleHelloMessage]
    exact .idle _ (request?_eq_none hother)
  rw [if_neg hhello] at h
  simp only at h
  generalize hforward : setForwardRoute _ now _ packet.srcAddr = n1 at h
  have hsame : n1.bookkeeping = n.bookkeeping := by
    rw [← hforward, bookkeeping_setForwardRoute, bookkeeping_setRoute]
  split_ifs at h
  · rw [relayRREP_bookkeeping _ _ _ h, hsame]
    exact .idle _ (request?_eq_none hother)
  · rename_i hongoing
    cases h
    rw [bookkeeping_completeRouteDiscovery, bookkeeping_acceptRREP, hsame]
    refine .complete packet rrep.destAddr hother ?_
    rwa [hasOngoingRouteDiscovery_eq, hsame] at hongoing
  · cases h
    rw [hsame]
    exact .idle _ (request?_eq_none hother)

theorem handlePacket_step (h : n.handlePacket now packet = .ok n') :
    Step n now (.packet packet) n'.bookkeeping := by
  unfold handlePacket at h
  split at h
  · rename_i rreq hbody
    exact handleRREQ_step hbody h
  · rename_i rrep hbody
    exact handleRREP_step hbody h
  · rename_i unreachableNodes hbody
    cases h
    rw [bookkeeping_handleRERR]
    exact .idle _ (request?_eq_none (by simp [hbody]))
  · rename_i hbody
    rw [handleRREPACK_bookkeeping _ _ h]
    exact .idle _ (request?_eq_none (by simp [hbody]))

theorem handleMessage_step {m : Message} (h : n.handleMessage (now, m) = .ok n') :
    Step n now m n'.bookkeeping := by
  cases m with
  | packet packet => exact handlePacket_step h
  | datagram datagram => exact ensureRouteForDatagram_step h
  | waitForRREP target => exact handleWaitForRREP_step h
  | forward sourceAddr destAddr =>
    cases h
    rw [bookkeeping_datagramForwardHook]
    exact .idle _ rfl
  | linkBreak unreachableAddr =>
    cases h
    rw [bookkeeping_handleLinkBreak]
    exact .idle _ rfl
  | helloMsgTimer =>
    cases h
    rw [bookkeeping_sendHelloMessagesIfNeeded]
    exact .idle _ rfl
  | expungeTimer | counterTimer | rrepAckTimer | blacklistTimer =>
    cases h
    exact .idle _ rfl

end Changes

end AODVRouting

end Aodv

end Hiwis
