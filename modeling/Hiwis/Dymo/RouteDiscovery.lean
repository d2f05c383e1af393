import Hiwis.Dymo.XDYMO

/-!
# The bookkeeping of route discoveries

Every registered timer is scheduled and every scheduled one registered, whatever datagrams, route
replies, expiries, starts and shutdowns there are, as long as the module does not crash in the
middle of a discovery.

* `Dymo.XDYMO.Inv.handleMessage` : one message;
* `Dymo.XDYMO.discovery_consistent_iff` : every run.
-/

namespace Hiwis

open List Except Function Trace

namespace Dymo

open IPv4Address

namespace XDYMO

variable {c : Parameters} {n n' : XDYMO} {target addr : IPv4Address} {id : ℕ}

/-! ### What is kept -/

/-- The scheduled timers for a target. -/
def scheduledFor (n : XDYMO) (target : IPv4Address) : List (ℤ × RREQTimer) :=
  n.scheduled.filter fun e => e.2.target = target

/-- The timers, the registration and the delayed datagrams of one target. -/
def Settled (n : XDYMO) (target : IPv4Address) : Prop :=
  match n.targetAddressToRREQTimer.lookup target with
  | none => n.scheduledFor target = [] ∧ n.targetAddressToDelayedPackets target = []
  | some id => ∃ e, n.scheduledFor target = [e] ∧ e.2.id = id

/-- What does not depend on which timers are registered. -/
structure Sound (n : XDYMO) : Prop where
  fresh : ∀ e ∈ n.scheduled, e.2.id < n.nextTimer
  ids : (n.scheduled.map fun e => e.2.id).Nodup
  addressed : ∀ target, ∀ d ∈ n.targetAddressToDelayedPackets target, d.destAddr = target
  once : ∀ d, n.log.count (.delayed d) = (n.targetAddressToDelayedPackets d.destAddr).count d +
    n.log.count (.reinjected d) + n.log.count (.dropped d)
  stopped : n.isNodeUp = false → ∀ target, n.targetAddressToDelayedPackets target = []

structure Inv (n : XDYMO) : Prop extends Sound n where
  settled : ∀ target, n.Settled target

/-- No timer is scheduled for the target, nor the one that is registered; all else is in order. -/
structure Open (n : XDYMO) (target : IPv4Address) : Prop extends Sound n where
  settled : ∀ addr, addr ≠ target → n.Settled addr
  idle : n.scheduledFor target = []
  gone : ∀ id, n.targetAddressToRREQTimer.lookup target = some id → ∀ e ∈ n.scheduled, e.2.id ≠ id

/-- The bookkeeping of the discoveries is in order. -/
structure Consistent (n : XDYMO) : Prop where
  /-- Every target has at most one timer. -/
  atMostOne : ∀ e ∈ n.scheduled, ∀ e' ∈ n.scheduled, e.2.target = e'.2.target → e = e'
  /-- A scheduled timer is registered under its target. -/
  registered : ∀ e ∈ n.scheduled, n.targetAddressToRREQTimer.lookup e.2.target = some e.2.id
  /-- A registered timer is scheduled. -/
  scheduled : ∀ target id, n.targetAddressToRREQTimer.lookup target = some id →
    ∃ e ∈ n.scheduled, e.2.target = target ∧ e.2.id = id
  /-- The target of a delayed datagram has a timer. -/
  waiting : ∀ target, n.targetAddressToDelayedPackets target ≠ [] →
    n.hasOngoingRouteDiscovery target = true
  /-- A datagram is delayed as often as it waits, has been sent on or has been dropped. -/
  once : ∀ d, n.log.count (.delayed d) = (n.targetAddressToDelayedPackets d.destAddr).count d +
    n.log.count (.reinjected d) + n.log.count (.dropped d)
  /-- Nothing waits while the node is down. -/
  stopped : n.isNodeUp = false → ∀ target, n.targetAddressToDelayedPackets target = []

/-- The module crashes only while it has no discovery in progress. -/
def CrashesIdle (n : XDYMO) (m : ℤ × Message) : Prop :=
  match m.2 with
  | .crash => n.targetAddressToRREQTimer = ∅
  | _ => True

/-- How the message ends the discoveries that it is about. -/
def Releases (c : Parameters) (n : XDYMO) (m : ℤ × Message) (n' : XDYMO) : Prop :=
  match m.2 with
  | .rrep rt rrep => isAnswer c rt rrep → n.hasOngoingRouteDiscovery rrep.targetNode.address →
      n'.targetAddressToDelayedPackets rrep.targetNode.address = [] ∧
        n'.log = n.log ++ (n.targetAddressToDelayedPackets rrep.targetNode.address).map .reinjected
  | .timer id => ∀ e ∈ n.scheduled, e.2.id = id →
      e.2.kind = .waitRREP (c.discoveryAttemptsMax - 1) →
        n'.targetAddressToDelayedPackets e.2.target = [] ∧
          n'.log = n.log ++ (n.targetAddressToDelayedPackets e.2.target).map .dropped
  | .shutdown => (∀ target, n'.targetAddressToDelayedPackets target = []) ∧
      ∃ ds : List Datagram, n'.log = n.log ++ ds.map .dropped
  | _ => True

variable {e : ℤ × RREQTimer}

theorem mem_scheduledFor : e ∈ n.scheduledFor target ↔ e ∈ n.scheduled ∧ e.2.target = target := by
  simp [scheduledFor]

theorem Inv.consistent (h : Inv n) : n.Consistent := by
  have hone : ∀ e ∈ n.scheduled, n.targetAddressToRREQTimer.lookup e.2.target = some e.2.id ∧
      n.scheduledFor e.2.target = [e] := by
    intro e he
    have hmem : e ∈ n.scheduledFor e.2.target := mem_scheduledFor.2 ⟨he, rfl⟩
    have hset := h.settled e.2.target
    unfold Settled at hset
    cases hlook : n.targetAddressToRREQTimer.lookup e.2.target with
    | none =>
      rw [hlook] at hset
      rw [hset.1] at hmem
      cases hmem
    | some id =>
      rw [hlook] at hset
      obtain ⟨e', he', rfl⟩ := hset
      rw [he', mem_singleton] at hmem
      subst hmem
      exact ⟨rfl, he'⟩
  refine ⟨fun e he e' he' heq => ?_, fun e he => (hone e he).1, fun target id hlook => ?_,
    fun target hne => ?_, h.once, h.stopped⟩
  · have h1 := (hone e he).2
    rw [heq, (hone e' he').2] at h1
    exact (List.cons.inj h1).1.symm
  · have hset := h.settled target
    unfold Settled at hset
    rw [hlook] at hset
    obtain ⟨e, he, hid⟩ := hset
    have hmem : e ∈ n.scheduledFor target := he ▸ mem_cons_self
    exact ⟨e, (mem_scheduledFor.1 hmem).1, (mem_scheduledFor.1 hmem).2, hid⟩
  · have hset := h.settled target
    unfold Settled at hset
    unfold hasOngoingRouteDiscovery
    cases hlook : n.targetAddressToRREQTimer.lookup target with
    | none =>
      rw [hlook] at hset
      exact absurd hset.2 hne
    | some id => rfl

/-! ### The operations -/

section Fields

variable {o : Observation} {kind : TimerKind} {time : ℤ} {d : Datagram}

/-- A new timer, registered and scheduled. -/
def arm (n : XDYMO) (arrivalTime : ℤ) (kind : TimerKind) (target : IPv4Address) : XDYMO :=
  (n.createRREQTimer kind target).2.scheduleRREQTimer arrivalTime (n.createRREQTimer kind target).1

theorem lookup_arm_self :
    (n.arm time kind target).targetAddressToRREQTimer.lookup target = some n.nextTimer :=
  AList.lookup_insert _

theorem lookup_arm_of_ne (h : addr ≠ target) :
    (n.arm time kind target).targetAddressToRREQTimer.lookup addr =
      n.targetAddressToRREQTimer.lookup addr :=
  AList.lookup_insert_ne h

theorem scheduledFor_arm_self : (n.arm time kind target).scheduledFor target =
    n.scheduledFor target ++ [(time, ⟨n.nextTimer, kind, target⟩)] := by
  simp [scheduledFor, arm, createRREQTimer, scheduleRREQTimer]

theorem scheduledFor_arm_of_ne (h : addr ≠ target) :
    (n.arm time kind target).scheduledFor addr = n.scheduledFor addr := by
  simp [scheduledFor, arm, createRREQTimer, scheduleRREQTimer, h.symm]

theorem scheduledFor_cancelEvent : (n.cancelEvent id).scheduledFor target =
    (n.scheduledFor target).filter fun e => e.2.id ≠ id := by
  simp only [scheduledFor, cancelEvent, filter_filter]
  exact filter_congr fun e _ => Bool.and_comm _ _

/-- What is true of a target depends on its registration, its timers and its datagrams. -/
theorem Settled.congr (h : n.Settled target)
    (hlook : n'.targetAddressToRREQTimer.lookup target = n.targetAddressToRREQTimer.lookup target)
    (hsched : n'.scheduledFor target = n.scheduledFor target)
    (hdelay : n'.targetAddressToDelayedPackets target = n.targetAddressToDelayedPackets target) :
    n'.Settled target := by
  unfold Settled
  rw [hlook, hsched, hdelay]
  exact h

/-- What releases or delays no datagram may be recorded. -/
theorem Sound.sendRREQ (h : Sound n) (retryCount : ℤ) : Sound (n.sendRREQ target retryCount) :=
  ⟨h.fresh, h.ids, h.addressed, fun d => by simpa [XDYMO.sendRREQ, observe] using h.once d,
    h.stopped⟩

theorem Sound.arm (h : Sound n) : Sound (n.arm time kind target) := by
  refine ⟨?_, ?_, h.addressed, h.once, h.stopped⟩
  · intro e he
    obtain he | he := mem_append.1 he
    · exact (h.fresh e he).trans (Nat.lt_succ_self _)
    · rw [mem_singleton] at he
      exact he ▸ Nat.lt_succ_self _
  · change ((n.scheduled ++ [(time, (⟨n.nextTimer, kind, target⟩ : RREQTimer))]).map
      fun e => e.2.id).Nodup
    rw [map_append, map_singleton]
    refine h.ids.append (nodup_singleton _) ?_
    simp only [disjoint_singleton, mem_map, not_exists, not_and]
    intro e he hid
    exact (h.fresh e he).ne hid

theorem Sound.cancelEvent (h : Sound n) : Sound (n.cancelEvent id) :=
  ⟨fun e he => h.fresh e (mem_of_mem_filter he),
    h.ids.sublist (filter_sublist.map _), h.addressed, h.once, h.stopped⟩

theorem Sound.delayDatagram (h : Sound n) (hup : n.isNodeUp = true) :
    Sound (n.delayDatagram d) := by
  refine ⟨h.fresh, h.ids, fun target d' hd => ?_, fun d' => ?_, fun hdown => ?_⟩
  · by_cases htarget : target = d.destAddr
    · subst htarget
      simp only [XDYMO.delayDatagram, update_self, mem_append, mem_singleton] at hd
      obtain hd | rfl := hd
      · exact h.addressed _ d' hd
      · rfl
    · simp only [XDYMO.delayDatagram, update_of_ne htarget] at hd
      exact h.addressed target d' hd
  · have honce := h.once d'
    by_cases hd : d' = d
    · subst hd
      simp [XDYMO.delayDatagram, observe, honce]
      omega
    · have hwait : ((n.delayDatagram d).targetAddressToDelayedPackets d'.destAddr).count d' =
          (n.targetAddressToDelayedPackets d'.destAddr).count d' := by
        by_cases htarget : d'.destAddr = d.destAddr
        · simp [XDYMO.delayDatagram, htarget, Ne.symm hd]
        · simp [XDYMO.delayDatagram, update_of_ne htarget]
      rw [hwait]
      simpa [XDYMO.delayDatagram, observe, Ne.symm hd] using honce
  · exact absurd (hup.symm.trans hdown) (by decide)

end Fields

/-! ### The end of a discovery -/

/-- The two ways to release a datagram. -/
def IsRelease (release : Datagram → Observation) : Prop :=
  release = .reinjected ∨ release = .dropped

theorem foldl_observe (release : Datagram → Observation) (ds : List Datagram) (n : XDYMO) :
    ds.foldl (fun n d => n.observe (release d)) n = { n with log := n.log ++ ds.map release } := by
  induction ds generalizing n with
  | nil => simp
  | cons d ds ih =>
    rw [foldl_cons, ih]
    simp [observe]

variable {release : Datagram → Observation}

/-- A release records each datagram once. -/
theorem count_map_release (hrelease : IsRelease release) (ds : List Datagram) (d : Datagram) :
    (ds.map release).count (.delayed d) = 0 ∧
      (ds.map release).count (.reinjected d) + (ds.map release).count (.dropped d) =
        ds.count d := by
  have hother : ∀ o : Observation, (∀ d, release d ≠ o) → (ds.map release).count o = 0 :=
    fun o ho => count_eq_zero.2 (by simpa using fun d _ => ho d)
  obtain rfl | rfl := hrelease
  · have hinj : Function.Injective Observation.reinjected :=
      fun _ _ h => Observation.reinjected.inj h
    refine ⟨hother _ (by simp), ?_⟩
    rw [hother (.dropped d) (by simp), count_map_of_injective _ _ hinj, add_zero]
  · have hinj : Function.Injective Observation.dropped :=
      fun _ _ h => Observation.dropped.inj h
    refine ⟨hother _ (by simp), ?_⟩
    rw [hother (.reinjected d) (by simp), count_map_of_injective _ _ hinj, zero_add]

/-- The state after the end of a discovery. -/
def released (n : XDYMO) (release : Datagram → Observation) (target : IPv4Address) : XDYMO :=
  { n with
    log := n.log ++ (n.targetAddressToDelayedPackets target).map release
    targetAddressToDelayedPackets := update n.targetAddressToDelayedPackets target [] }

theorem endRouteDiscovery_eq (release : Datagram → Observation)
    (h : n.hasOngoingRouteDiscovery target = true) :
    n.endRouteDiscovery release target = .ok (n.released release target) := by
  simp [endRouteDiscovery, h, foldl_observe, eraseDelayedDatagrams, released]

theorem Sound.released (h : Sound n) (hrelease : IsRelease release) :
    Sound (n.released release target) := by
  refine ⟨h.fresh, h.ids, fun addr d hd => ?_, fun d => ?_, fun hdown addr => ?_⟩
  · by_cases haddr : addr = target
    · subst haddr
      simp [XDYMO.released] at hd
    · simp only [XDYMO.released, update_of_ne haddr] at hd
      exact h.addressed addr d hd
  · have honce := h.once d
    obtain ⟨hdelayed, hreleased⟩ :=
      count_map_release hrelease (n.targetAddressToDelayedPackets target) d
    simp only [XDYMO.released, count_append, hdelayed]
    by_cases htarget : d.destAddr = target
    · subst htarget
      rw [update_self, count_nil]
      omega
    · have hnot : (n.targetAddressToDelayedPackets target).count d = 0 :=
        count_eq_zero.2 fun hd => htarget (h.addressed target d hd)
      rw [update_of_ne htarget]
      omega
  · have hstop := h.stopped hdown
    by_cases haddr : addr = target
    · subst haddr
      exact update_self ..
    · exact (update_of_ne haddr ..).trans (hstop addr)

theorem hasOngoingRouteDiscovery_iff :
    n.hasOngoingRouteDiscovery target = true ↔
      ∃ id, n.targetAddressToRREQTimer.lookup target = some id :=
  Option.isSome_iff_exists

/-- Releasing the datagrams of a target in whose discovery the module is. -/
theorem Inv.released (h : Inv n) (hrelease : IsRelease release)
    (hn : n.hasOngoingRouteDiscovery target = true) : Inv (n.released release target) := by
  refine ⟨h.toSound.released hrelease, fun addr => ?_⟩
  by_cases haddr : addr = target
  · subst haddr
    obtain ⟨id, hlook⟩ := hasOngoingRouteDiscovery_iff.1 hn
    have hset := h.settled addr
    unfold Settled at hset ⊢
    change match n.targetAddressToRREQTimer.lookup addr with
      | none => _
      | some id => ∃ e, n.scheduledFor addr = [e] ∧ e.2.id = id
    rw [hlook] at hset ⊢
    exact hset
  · exact (h.settled addr).congr rfl rfl (update_of_ne haddr ..)

/-! ### Taking a timer off -/

/-- Taking the registered timer of a target out of the event queue. -/
theorem Inv.take (h : Inv n) (he : e ∈ n.scheduled) : Open (n.cancelEvent e.2.id) e.2.target := by
  have hids : ∀ e' ∈ n.scheduled, e'.2.id = e.2.id → e' = e := fun e' he' hid =>
    inj_on_of_nodup_map h.ids he' he hid
  refine ⟨h.toSound.cancelEvent, fun addr haddr => ?_, ?_, ?_⟩
  · refine (h.settled addr).congr rfl ?_ rfl
    rw [scheduledFor_cancelEvent, filter_eq_self]
    intro e' he'
    obtain ⟨hmem, htarget⟩ := mem_scheduledFor.1 he'
    rw [decide_eq_true_eq]
    intro hid
    rw [hids e' hmem hid] at htarget
    exact haddr htarget.symm
  · refine eq_nil_iff_forall_not_mem.2 fun e' he' => ?_
    rw [scheduledFor_cancelEvent, mem_filter, mem_scheduledFor] at he'
    obtain ⟨⟨hmem, htarget⟩, hid⟩ := he'
    have hone := h.consistent.atMostOne e' hmem e he htarget
    simp [hone] at hid
  · intro id hlook e' he'
    have hreg := h.consistent.registered e he
    change n.targetAddressToRREQTimer.lookup e.2.target = some id at hlook
    rw [hreg, Option.some.injEq] at hlook
    have hne := of_mem_filter he'
    rw [decide_eq_true_eq] at hne
    exact hlook ▸ hne

theorem Open.sendRREQ (h : Open n target) (retryCount : ℤ) :
    Open (n.sendRREQ target retryCount) target :=
  ⟨h.toSound.sendRREQ retryCount, fun addr haddr => h.settled addr haddr, h.idle, h.gone⟩

theorem Open.released (h : Open n target) (hrelease : IsRelease release) :
    Open (n.released release target) target :=
  ⟨h.toSound.released hrelease,
    fun addr haddr => (h.settled addr haddr).congr rfl rfl (update_of_ne haddr ..), h.idle,
    h.gone⟩

/-- The target gets a new timer. -/
theorem Open.arm (h : Open n target) {time : ℤ} {kind : TimerKind} :
    Inv (n.arm time kind target) := by
  refine ⟨h.toSound.arm, fun addr => ?_⟩
  by_cases haddr : addr = target
  · subst haddr
    unfold Settled
    rw [lookup_arm_self]
    exact ⟨_, by rw [scheduledFor_arm_self, h.idle, nil_append], rfl⟩
  · exact (h.settled addr haddr).congr (lookup_arm_of_ne haddr) (scheduledFor_arm_of_ne haddr) rfl

/-- The state without a timer registered for the target. -/
def unregistered (n : XDYMO) (target : IPv4Address) : XDYMO :=
  { n with targetAddressToRREQTimer := n.targetAddressToRREQTimer.erase target }

theorem eraseRREQTimer_eq (hn : n.hasOngoingRouteDiscovery target = true) :
    n.eraseRREQTimer target = .ok (n.unregistered target) := by
  obtain ⟨id, hlook⟩ := hasOngoingRouteDiscovery_iff.1 hn
  simp [eraseRREQTimer, find, hlook, unregistered]

theorem Open.unregistered (h : Open n target) : Open (n.unregistered target) target := by
  refine ⟨⟨h.fresh, h.ids, h.addressed, h.once, h.stopped⟩, fun addr haddr => ?_, h.idle, ?_⟩
  · exact (h.settled addr haddr).congr (AList.lookup_erase_ne haddr) rfl rfl
  · intro id hid
    simp [XDYMO.unregistered] at hid

/-- The registered timer is not scheduled any more. -/
theorem Open.cancelRREQTimer_eq (h : Open n target)
    (hn : n.hasOngoingRouteDiscovery target = true) : n.cancelRREQTimer target = .ok n := by
  obtain ⟨id, hlook⟩ := hasOngoingRouteDiscovery_iff.1 hn
  have hcancel : n.cancelEvent id = n := by
    rw [cancelEvent, filter_eq_self.2 fun e he => decide_eq_true (h.gone id hlook e he)]
  simp [cancelRREQTimer, find, hlook, hcancel]

/-! ### The handlers -/

variable {now : ℤ}

/-- A discovery is started for a target without a timer. -/
theorem startRouteDiscovery_eq (h : n.hasOngoingRouteDiscovery target = false) :
    n.startRouteDiscovery c now target =
      .ok ((n.sendRREQ target 0).arm (now + c.routeRREQWaitTime) (.waitRREP 0) target) := by
  simp only [startRouteDiscovery, h, Bool.false_eq_true, if_false]
  rfl

theorem retryRouteDiscovery_eq {retryCount : ℤ} (h : n.hasOngoingRouteDiscovery target = true) :
    n.retryRouteDiscovery c now target retryCount =
      .ok ((n.sendRREQ target retryCount).arm (now + c.routeRREQWaitTime) (.waitRREP retryCount)
        target) := by
  simp only [retryRouteDiscovery, h, Bool.not_true, Bool.false_eq_true, if_false]
  rfl

/-- A target without a timer, for which nothing waits. -/
theorem Open.inv (h : Open n target) (hlook : n.targetAddressToRREQTimer.lookup target = none)
    (hdelay : n.targetAddressToDelayedPackets target = []) : Inv n := by
  refine ⟨h.toSound, fun addr => ?_⟩
  by_cases haddr : addr = target
  · subst haddr
    unfold Settled
    rw [hlook]
    exact ⟨h.idle, hdelay⟩
  · exact h.settled addr haddr

/-- A target without a timer. -/
theorem Sound.open (h : Sound n) (hset : ∀ addr, addr ≠ target → n.Settled addr)
    (hnone : n.scheduledFor target = []) (hlook : n.targetAddressToRREQTimer.lookup target = none) :
    Open n target :=
  ⟨h, hset, hnone, fun id hid => by rw [hlook] at hid; cases hid⟩

/-- The last attempt of a discovery: the discovery is given up, and the target held down. -/
theorem processRREQWaitRREPTimer_eq (h : Open n target)
    (hn : n.hasOngoingRouteDiscovery target = true) :
    n.processRREQWaitRREPTimer c now target (c.discoveryAttemptsMax - 1) =
      .ok (((n.released .dropped target).unregistered target).arm (now + c.rreqHolddownTime)
        .holddown target) := by
  have hrel : Open (n.released .dropped target) target := h.released (.inr rfl)
  have hn' : (n.released .dropped target).hasOngoingRouteDiscovery target = true := hn
  simp only [processRREQWaitRREPTimer, if_true]
  rw [cancelRouteDiscovery, endRouteDiscovery_eq _ hn, ok_bind, hrel.cancelRREQTimer_eq hn',
    ok_bind, eraseRREQTimer_eq hn']
  rfl

/-- An expired timer. -/
theorem Open.processSelfMessage {message : RREQTimer} (h : Open n message.target)
    (hn : n.hasOngoingRouteDiscovery message.target = true) :
    ∃ n', n.processSelfMessage c now message = .ok n' ∧ Inv n' ∧
      (message.kind = .waitRREP (c.discoveryAttemptsMax - 1) →
        n'.targetAddressToDelayedPackets message.target = [] ∧
          n'.log = n.log ++ (n.targetAddressToDelayedPackets message.target).map .dropped) := by
  obtain ⟨id, kind, target⟩ := message
  dsimp only at h hn ⊢
  cases kind with
  | waitRREP retryCount =>
    by_cases hretry : retryCount = c.discoveryAttemptsMax - 1
    · subst hretry
      exact ⟨_, processRREQWaitRREPTimer_eq h hn, (h.released (.inr rfl)).unregistered.arm,
        fun _ => ⟨update_self .., rfl⟩⟩
    · have hbackoff : n.processRREQWaitRREPTimer c now target retryCount =
          .ok (n.arm (now + c.computeRREQBackoffTime retryCount) (.backoff retryCount) target) := by
        rw [processRREQWaitRREPTimer, if_neg hretry]
        rfl
      exact ⟨_, hbackoff, h.arm, fun hkind => absurd (TimerKind.waitRREP.inj hkind) hretry⟩
  | backoff retryCount =>
    exact ⟨_, retryRouteDiscovery_eq hn, (h.sendRREQ _).arm, fun hkind => nomatch hkind⟩
  | holddown =>
    simp only [XDYMO.processSelfMessage, processRREQHolddownTimer, eraseRREQTimer_eq hn, ok_bind]
    have hnone := AList.lookup_erase target n.targetAddressToRREQTimer
    split_ifs with hdelay
    · have hstart : (n.unregistered target).hasOngoingRouteDiscovery target = false := by
        simp [hasOngoingRouteDiscovery, XDYMO.unregistered]
      exact ⟨_, startRouteDiscovery_eq hstart, (h.unregistered.sendRREQ _).arm,
        fun hkind => nomatch hkind⟩
    · refine ⟨_, rfl, h.unregistered.inv hnone ?_, fun hkind => nomatch hkind⟩
      simpa [hasDelayedDatagrams] using hdelay

/-- A received reply. -/
theorem Inv.processRREP (h : Inv n) (rt : IRoutingTable) (rrep : RREP) :
    ∃ n', n.processRREP c rt rrep = .ok n' ∧ Inv n' ∧
      (isAnswer c rt rrep → n.hasOngoingRouteDiscovery rrep.targetNode.address →
        n'.targetAddressToDelayedPackets rrep.targetNode.address = [] ∧
          n'.log = n.log ++
            (n.targetAddressToDelayedPackets rrep.targetNode.address).map .reinjected) := by
  by_cases hcond : (isAnswer c rt rrep && n.hasOngoingRouteDiscovery rrep.targetNode.address) = true
  · obtain ⟨-, hn⟩ := Bool.and_eq_true_iff.1 hcond
    obtain ⟨target, htarget⟩ : ∃ target, rrep.targetNode.address = target := ⟨_, rfl⟩
    rw [XDYMO.processRREP, if_pos hcond]
    rw [htarget] at hn ⊢
    have hrel : Inv (n.released .reinjected target) := h.released (.inl rfl) hn
    obtain ⟨id, hlook⟩ := hasOngoingRouteDiscovery_iff.1 hn
    obtain ⟨e, he, rfl, rfl⟩ := h.consistent.scheduled _ id hlook
    have hopen := hrel.take (e := e) he
    have hcancel : (n.released .reinjected e.2.target).cancelRREQTimer e.2.target =
        .ok ((n.released .reinjected e.2.target).cancelEvent e.2.id) := by
      simp [cancelRREQTimer, find, XDYMO.released, hlook]
    have hdelete : ((n.released .reinjected e.2.target).cancelEvent e.2.id).deleteRREQTimer
        e.2.target = .ok ((n.released .reinjected e.2.target).cancelEvent e.2.id) := by
      simp [deleteRREQTimer, find, XDYMO.released, cancelEvent, hlook]
    refine ⟨_, ?_, hopen.unregistered.inv (AList.lookup_erase _ _) (update_self ..),
      fun _ _ => ⟨update_self .., rfl⟩⟩
    have hn' : ((n.released .reinjected e.2.target).cancelEvent e.2.id).hasOngoingRouteDiscovery
        e.2.target = true := hn
    rw [completeRouteDiscovery, endRouteDiscovery_eq _ hn, ok_bind, hcancel, ok_bind,
      hdelete, ok_bind, eraseRREQTimer_eq hn']
  · refine ⟨n, by simp [XDYMO.processRREP, hcond], h, fun ha hn => ?_⟩
    exact absurd (Bool.and_eq_true_iff.2 ⟨ha, hn⟩) hcond

/-- A datagram to be sent. -/
theorem Inv.ensureRouteForDatagram (h : Inv n) (hup : n.isNodeUp = true) (rt : IRoutingTable)
    (d : Datagram) : ∃ n', n.ensureRouteForDatagram c now rt d = .ok n' ∧ Inv n' := by
  unfold XDYMO.ensureRouteForDatagram
  dsimp only
  split_ifs with hlocal hroute hclient hongoing
  · exact ⟨n, rfl, h⟩
  · exact ⟨n, rfl, h⟩
  · -- the first datagram that waits for its target starts the discovery
    have hstart : (n.delayDatagram d).hasOngoingRouteDiscovery d.destAddr = false := by
      simpa using hongoing
    have hnone : n.targetAddressToRREQTimer.lookup d.destAddr = none :=
      Option.isSome_eq_false_iff.1 hstart |> Option.isNone_iff_eq_none.1
    have hset := h.settled d.destAddr
    unfold Settled at hset
    rw [hnone] at hset
    have hopen : Open (n.delayDatagram d) d.destAddr :=
      Sound.open (h.toSound.delayDatagram hup) (fun addr haddr =>
        (h.settled addr).congr rfl rfl (update_of_ne haddr ..)) hset.1 hnone
    exact ⟨_, startRouteDiscovery_eq hstart, (hopen.sendRREQ 0).arm⟩
  · refine ⟨_, rfl, h.toSound.delayDatagram hup, fun addr => ?_⟩
    by_cases haddr : addr = d.destAddr
    · subst haddr
      have hn : (n.delayDatagram d).hasOngoingRouteDiscovery d.destAddr = true := by
        simpa using hongoing
      obtain ⟨id, hlook⟩ := hasOngoingRouteDiscovery_iff.1 hn
      have hlook' : n.targetAddressToRREQTimer.lookup d.destAddr = some id := hlook
      have hset := h.settled d.destAddr
      unfold Settled at hset ⊢
      rw [hlook'] at hset
      rw [hlook]
      exact hset
    · exact (h.settled addr).congr rfl rfl (update_of_ne haddr ..)
  · exact ⟨n, rfl, h⟩

/-- Giving up the discoveries of all the targets of a list. -/
theorem Inv.cancel (h : Inv n) {targets : List IPv4Address}
    (ht : ∀ target ∈ targets, n.hasOngoingRouteDiscovery target = true) :
    ∃ n', targets.foldlM cancelRouteDiscovery n = .ok n' ∧ Inv n' ∧
      n'.targetAddressToRREQTimer = n.targetAddressToRREQTimer ∧
      (∀ target, target ∈ targets ∨ n.targetAddressToDelayedPackets target = [] →
        n'.targetAddressToDelayedPackets target = []) ∧
      ∃ ds : List Datagram, n'.log = n.log ++ ds.map .dropped := by
  induction targets generalizing n with
  | nil => exact ⟨n, rfl, h, rfl, by simp, [], by simp⟩
  | cons target targets ih =>
    have hn := ht target mem_cons_self
    obtain ⟨n', hfold, hinv, htimers, hdelay, ds, hlog⟩ :=
      ih (n := n.released .dropped target) (h.released (.inr rfl) hn)
        fun addr haddr => ht addr (mem_cons_of_mem _ haddr)
    refine ⟨n', ?_, hinv, htimers, fun addr haddr => hdelay addr ?_,
      n.targetAddressToDelayedPackets target ++ ds, ?_⟩
    · rw [foldlM_cons, cancelRouteDiscovery, endRouteDiscovery_eq _ hn]
      exact hfold
    · by_cases heq : addr = target
      · subst heq
        exact .inr (update_self ..)
      · refine haddr.imp (fun hmem => (mem_cons.1 hmem).resolve_left heq) fun hnil => ?_
        exact (update_of_ne heq ..).trans hnil
    · rw [hlog]
      simp [XDYMO.released]

/-- A shutdown drops all that waits. -/
theorem Inv.shutdown (h : Inv n) : ∃ n', n.shutdown = .ok n' ∧ Inv n' ∧
    (∀ target, n'.targetAddressToDelayedPackets target = []) ∧
      ∃ ds : List Datagram, n'.log = n.log ++ ds.map .dropped := by
  have hkeys : ∀ target, target ∈ n.targetAddressToRREQTimer.keys.mergeSort
      (fun a b => a.toNat ≤ b.toNat) ↔ n.hasOngoingRouteDiscovery target = true := by
    intro target
    rw [mem_mergeSort, ← AList.mem_keys, ← AList.lookup_isSome, hasOngoingRouteDiscovery]
  obtain ⟨n', hfold, hinv, -, hdelay, hlog⟩ := h.cancel fun target ht => (hkeys target).1 ht
  have hall : ∀ target, n'.targetAddressToDelayedPackets target = [] := by
    intro target
    refine hdelay target ?_
    by_cases hn : n.hasOngoingRouteDiscovery target = true
    · exact .inl ((hkeys target).2 hn)
    · exact .inr (Classical.not_not.1 fun hne => hn (h.consistent.waiting target hne))
  refine ⟨{ n' with isNodeUp := false }, ?_, ⟨⟨hinv.fresh, hinv.ids, hinv.addressed, hinv.once,
    fun _ => hall⟩, hinv.settled⟩, hall, hlog⟩
  rw [XDYMO.shutdown, hfold]
  rfl

theorem lookup_of_eq_empty (hempty : n.targetAddressToRREQTimer = ∅) (target : IPv4Address) :
    n.targetAddressToRREQTimer.lookup target = none := by
  rw [hempty]
  exact AList.lookup_empty target

/-- A crash outside of any discovery. -/
theorem Inv.crash (h : Inv n) (hempty : n.targetAddressToRREQTimer = ∅) : Inv n.crash := by
  have hset : ∀ target, n.scheduledFor target = [] ∧
      n.targetAddressToDelayedPackets target = [] := by
    intro target
    have hset := h.settled target
    unfold Settled at hset
    rw [lookup_of_eq_empty hempty] at hset
    exact hset
  refine ⟨⟨h.fresh, h.ids, fun _ _ hd => (not_mem_nil hd).elim, fun d => ?_, fun _ _ => rfl⟩,
    fun target => ⟨(hset target).1, rfl⟩⟩
  have honce := h.once d
  rw [(hset _).2] at honce
  exact honce

/-- After a crash in the middle of a discovery, its timer is scheduled and not registered. -/
theorem not_consistent_crash (h : n.Consistent) (hne : n.targetAddressToRREQTimer ≠ ∅) :
    ¬n.crash.Consistent := by
  intro hcon
  refine hne (AList.ext (eq_nil_iff_forall_not_mem.2 fun p hp => ?_))
  have hlook : n.targetAddressToRREQTimer.lookup p.1 = some p.2 := AList.mem_lookup_iff.2 hp
  obtain ⟨e, he, -, -⟩ := h.scheduled _ _ hlook
  have hreg := hcon.registered e he
  cases hreg

/-! ### Every run -/

variable {m : ℤ × Message}

/-- One message: it keeps the bookkeeping in order, unless the module crashes in the middle of a
discovery; only while the node is down are messages refused. -/
theorem Inv.handleMessage (h : Inv n) (hm : n.CanHappen m) (hcrash : n.CrashesIdle m) :
    (∃ n', n.handleMessage c m = .ok n' ∧ Inv n' ∧ Releases c n m n') ∨
      n.isNodeUp = false ∧ n.handleMessage c m = .error .notRunning := by
  obtain ⟨now, m⟩ := m
  cases m with
  | datagram rt d =>
    obtain ⟨n', hok, hinv⟩ : ∃ n', n.ensureRouteForDatagram c now rt d = .ok n' ∧ Inv n' :=
      h.ensureRouteForDatagram hm rt d
    exact .inl ⟨n', hok, hinv, trivial⟩
  | rrep rt rrep =>
    cases hup : n.isNodeUp with
    | false => exact .inr ⟨rfl, by simp [XDYMO.handleMessage, hup]⟩
    | true =>
      obtain ⟨n', hok, hinv, hrel⟩ := h.processRREP (c := c) rt rrep
      exact .inl ⟨n', by simpa [XDYMO.handleMessage, hup] using hok, hinv, hrel⟩
  | timer id =>
    obtain ⟨e, he, -, rfl⟩ := hm
    have hfind : (n.scheduled.find? fun e' => e'.2.id = e.2.id) = some e := by
      cases hf : n.scheduled.find? fun e' => e'.2.id = e.2.id with
      | none => exact absurd (List.find?_eq_none.1 hf e he) (by simp)
      | some e' =>
        have hid : e'.2.id = e.2.id := by simpa using List.find?_some hf
        rw [inj_on_of_nodup_map h.ids (mem_of_find?_eq_some hf) he hid]
    cases hup : n.isNodeUp with
    | false => exact .inr ⟨rfl, by simp [XDYMO.handleMessage, hfind, hup]⟩
    | true =>
      have hn : (n.cancelEvent e.2.id).hasOngoingRouteDiscovery e.2.target = true :=
        hasOngoingRouteDiscovery_iff.2 ⟨_, h.consistent.registered e he⟩
      obtain ⟨n', hok, hinv, hrel⟩ : ∃ n', (n.cancelEvent e.2.id).processSelfMessage c now e.2 =
          .ok n' ∧ Inv n' ∧ _ := (h.take he).processSelfMessage hn
      refine .inl ⟨n', by simpa [XDYMO.handleMessage, hfind, hup] using hok, hinv, ?_⟩
      intro e' he' hid
      rw [inj_on_of_nodup_map h.ids he' he hid]
      exact hrel
  | start =>
    exact .inl ⟨_, rfl, ⟨⟨h.fresh, h.ids, h.addressed, h.once, fun hdown => nomatch hdown⟩,
      h.settled⟩, trivial⟩
  | shutdown =>
    obtain ⟨n', hok, hinv, hrel⟩ := h.shutdown
    exact .inl ⟨n', hok, hinv, hrel⟩
  | crash => exact .inl ⟨_, rfl, h.crash hcrash, trivial⟩

theorem Inv.new (up : Bool) : Inv { isNodeUp := up } :=
  ⟨⟨by simp, by simp, by simp, by simp, fun _ _ => rfl⟩, fun _ => ⟨rfl, rfl⟩⟩

/-- A message that does not crash the module in the middle of a discovery is one after which the
bookkeeping is in order. -/
theorem Inv.consistent_iff_crashesIdle (h : Inv n) (hm : n.CanHappen m)
    (hok : n.handleMessage c m = .ok n') : n'.Consistent ↔ n.CrashesIdle m := by
  constructor
  · intro hcon
    obtain ⟨now, m⟩ := m
    cases m with
    | crash =>
      cases hok
      by_contra hne
      exact not_consistent_crash h.consistent hne hcon
    | _ => trivial
  · intro hcrash
    obtain ⟨n'', hok', hinv, -⟩ | ⟨-, herr⟩ := h.handleMessage (c := c) hm hcrash
    · exact Except.ok.inj (hok'.symm.trans hok) ▸ hinv.consistent
    · rw [hok] at herr
      cases herr

theorem Inv.step (h : Inv n) (hm : n.CanHappen m) (hcrash : n.CrashesIdle m)
    (hok : n.handleMessage c m = .ok n') : Inv n' := by
  obtain ⟨n'', hok', hinv, -⟩ | ⟨-, herr⟩ := h.handleMessage (c := c) hm hcrash
  · exact Except.ok.inj (hok'.symm.trans hok) ▸ hinv
  · rw [hok] at herr
    cases herr

/-- The bookkeeping of the discoveries is in order in every state of a run if and only if the module
never crashes in the middle of a discovery.  Then no further message fails an assertion, but a
timer or a reply that meets a node that is down; and a reply, the last attempt of a discovery and a
shutdown release all the datagrams that they are about. -/
theorem discovery_consistent_iff (c : Parameters) (up : Bool) (ms : List (ℤ × Message))
    (n : XDYMO) (h : Run (handleMessage c) CanHappen { isNodeUp := up } ms n) :
    ((∀ ms₁ n₁, ms₁ <+: ms → Run (handleMessage c) CanHappen { isNodeUp := up } ms₁ n₁ →
        n₁.Consistent) ↔
      Run (handleMessage c) (fun n m => n.CanHappen m ∧ n.CrashesIdle m) { isNodeUp := up }
        ms n) ∧
    (Run (handleMessage c) (fun n m => n.CanHappen m ∧ n.CrashesIdle m) { isNodeUp := up }
        ms n →
      ∀ m, n.CanHappen m → n.CrashesIdle m →
        (∃ n', n.handleMessage c m = .ok n' ∧ Releases c n m n') ∨
          n.isNodeUp = false ∧ n.handleMessage c m = .error .notRunning) := by
  constructor
  · exact h.always_iff (fun _ _ _ hinv hm hcrash hok => hinv.step hm hcrash hok)
      (fun _ _ _ hinv hm hok => hinv.consistent_iff_crashesIdle hm hok) (Inv.new up)
      (Inv.new up).consistent
  · intro hrun m hm hcrash
    have hinv : Inv n := hrun.invariant
      (fun _ _ _ hinv hm hok => hinv.step hm.1 hm.2 hok) (Inv.new up)
    obtain ⟨n', hok, -, hrel⟩ | herr := hinv.handleMessage (c := c) hm hcrash
    · exact .inl ⟨n', hok, hrel⟩
    · exact .inr herr

/-! ### A crash in the middle of a discovery -/

/-- The default number of attempts, and a node that routes for itself. -/
def defaults : Parameters where
  clientAddresses := []
  routeRREQWaitTime := 2
  rreqHolddownTime := 10
  computeRREQBackoffTime := fun retryCount => 2 ^ retryCount.toNat
  maxHopCount := 20
  discoveryAttemptsMax := 3

/-- The routing table of 10.0.0.1, without any route. -/
def noRoutes : IRoutingTable := ⟨fun addr => addr = 0x0A000001, fun _ => none⟩

/-- A datagram is delayed, and its discovery backs off when the node crashes. -/
def crashRun : List (ℤ × Message) :=
  [(0, .datagram noRoutes ⟨0, 0x0A000001, 0x0A000002⟩), (2, .timer 0), (2, .crash)]

theorem discovery_consistent_iff_first_datagram :
    ∃ n, Run (handleMessage defaults) CanHappen { isNodeUp := true } (crashRun.take 1) n ∧
      n.Consistent := by
  obtain ⟨n, hrun, -⟩ := exists_run_of_exec (f := fun _ : XDYMO => ())
    (by decide +kernel : (exec (handleMessage defaults) CanHappen { isNodeUp := true }
      (crashRun.take 1)).map (fun _ => ()) = some ())
  have hsafe : Run (handleMessage defaults) (fun n m => n.CanHappen m ∧ n.CrashesIdle m)
      { isNodeUp := true } (crashRun.take 1) n := by
    cases hrun with
    | cons hm hstep hrest => exact .cons ⟨hm, trivial⟩ hstep (by cases hrest; exact .nil _)
  exact ⟨n, hrun, ((discovery_consistent_iff defaults true _ n hrun).1.2 hsafe) _ n prefix_rfl hrun⟩

/-- The datagram is neither sent on nor dropped nor delayed any more, its timer is scheduled and
not registered, and fails an assertion when it expires after a restart. -/
theorem not_consistent :
    ∃ n, Run (handleMessage defaults) CanHappen { isNodeUp := true } crashRun n ∧
      ¬n.Consistent ∧
      n.log.count (.delayed ⟨0, 0x0A000001, 0x0A000002⟩) = 1 ∧
      n.log.count (.reinjected ⟨0, 0x0A000001, 0x0A000002⟩) = 0 ∧
      n.log.count (.dropped ⟨0, 0x0A000001, 0x0A000002⟩) = 0 ∧
      n.targetAddressToDelayedPackets 0x0A000002 = [] ∧
      ∃ n', Run (handleMessage defaults) CanHappen n [(2, .start)] n' ∧
        n'.CanHappen (3, .timer 1) ∧
        n'.handleMessage defaults (3, .timer 1) = .error .ongoingRouteDiscovery := by
  refine ⟨_, .cons rfl rfl (.cons ⟨_, mem_cons_self, rfl, rfl⟩ rfl (.cons rfl rfl (.nil _))),
    fun hcon => ?_, by decide, by decide, by decide, rfl, _, .cons rfl rfl (.nil _),
    ⟨_, mem_cons_self, rfl, rfl⟩, rfl⟩
  exact nomatch hcon.registered _ mem_cons_self

end XDYMO

end Dymo

end Hiwis
