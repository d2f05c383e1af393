import Hiwis.Arp.ARP

/-!
# The timers of address resolution

What the operations on the cache do to the state (`initiateARPResolution_eq_ok`,
`handleSelfMessage_eq_ok`, `updateARPCache_eq_ok`), and the invariant of the cache and its timers.

* `Timed` : an entry is pending exactly when it has a retry timer, which is scheduled, and nothing
  else is scheduled.
-/

namespace Hiwis

open Function

namespace Arp

namespace State

variable {p : Parameters} {s s' : State} {addr : IPv4Address} {ie : NetworkInterface}

/-! ### What the operations do -/

theorem sendARPRequest_eq_ok (h : s.sendARPRequest ie addr = .ok s') :
    ∃ arp, s' = s.emit (.arpSent arp ie .broadcastAddress) := by
  unfold sendARPRequest at h
  split at h
  · cases h
  · split_ifs at h
    exact ⟨_, (Except.ok.inj h).symm⟩

theorem scheduleAt_eq_ok {msg : ℕ} {time : ℤ} (h : s.scheduleAt msg time addr = .ok s') :
    s.now ≤ time ∧ s' = { s with
      scheduled := update s.scheduled msg (some ⟨time, addr⟩)
      nextMsg := max s.nextMsg (msg + 1) } := by
  unfold scheduleAt at h
  split_ifs at h with htime
  exact ⟨not_lt.1 htime, (Except.ok.inj h).symm⟩

/-- The entry of a resolution that begins. -/
def initiated (s : State) (entry : ARPCacheEntry) : ARPCacheEntry :=
  { entry with
    pending := true, numRetries := 0, lastUpdate := 0, macAddress := .unspecifiedAddress
    timer := some s.nextMsg }

theorem initiateARPResolution_eq_ok {entry : ARPCacheEntry}
    (h : s.initiateARPResolution p addr entry = .ok s') :
    0 ≤ p.retryTimeout ∧ ∃ arp, s' = { s with
      arpCache := update s.arpCache addr (some (s.initiated entry))
      scheduled := update s.scheduled s.nextMsg (some ⟨s.now + p.retryTimeout, addr⟩)
      nextMsg := s.nextMsg + 1
      log := s.log ++ [.arpSent arp entry.ie .broadcastAddress,
        .initiatedARPResolution addr entry.ie] } := by
  unfold initiateARPResolution at h
  rw [Except.bind_eq_ok] at h
  obtain ⟨s1, hsend, h⟩ := h
  rw [Except.bind_eq_ok] at h
  obtain ⟨s2, hschedule, h⟩ := h
  obtain ⟨arp, rfl⟩ := sendARPRequest_eq_ok hsend
  obtain ⟨htime, rfl⟩ := scheduleAt_eq_ok hschedule
  refine ⟨?_, arp, (Except.ok.inj h).symm.trans ?_⟩
  · simp only [emit, setEntry] at htime
    omega
  · simp [emit, setEntry, initiated]

theorem startAddressResolution_eq_ok (h : s.startAddressResolution p addr ie = .ok s') :
    p.globalARP = false ∧ ((∃ e, s.arpCache addr = some e ∧ e.pending = true ∧ s' = s) ∨
      ∃ e : ARPCacheEntry, (∀ e', s.arpCache addr = some e' → e'.pending = false) ∧ e.ie = ie ∧
        s.initiateARPResolution p addr e = .ok s') := by
  unfold startAddressResolution at h
  split_ifs at h with hglobal
  refine ⟨Bool.eq_false_iff.2 hglobal, ?_⟩
  split at h
  · rename_i hnone
    refine .inr ⟨_, fun e he => ?_, rfl, h⟩
    rw [hnone] at he
    cases he
  · rename_i e he
    split_ifs at h with hpending
    · exact .inl ⟨e, he, hpending, (Except.ok.inj h).symm⟩
    · refine .inr ⟨_, fun e' he' => ?_, rfl, h⟩
      rw [he] at he'
      cases he'
      exact Bool.eq_false_iff.2 hpending

/-- A retry timer fires: the request is sent again, or the resolution fails. -/
theorem handleSelfMessage_eq_ok {msg : ℕ} (h : s.handleSelfMessage p msg = .ok s') :
    ∃ timer e, s.scheduled msg = some timer ∧ s.arpCache timer.contextPointer = some e ∧
      ((e.numRetries + 1 < p.retryCount ∧ 0 ≤ p.retryTimeout ∧ ∃ arp, s' = { s with
          arpCache := update s.arpCache timer.contextPointer
            (some { e with numRetries := e.numRetries + 1 })
          scheduled := update s.scheduled msg
            (some ⟨s.now + p.retryTimeout, timer.contextPointer⟩)
          nextMsg := max s.nextMsg (msg + 1)
          log := s.log ++ [.arpSent arp e.ie .broadcastAddress] }) ∨
        p.retryCount ≤ e.numRetries + 1 ∧
          s' = (s.cancelEvent msg).resolutionFailed timer.contextPointer e.ie) := by
  unfold handleSelfMessage at h
  split at h
  · cases h
  rename_i timer htimer
  unfold requestTimedOut at h
  split at h
  · cases h
  rename_i e he
  refine ⟨timer, e, htimer, he, ?_⟩
  split_ifs at h with hretry
  · rw [Except.bind_eq_ok] at h
    obtain ⟨s1, hsend, hschedule⟩ := h
    obtain ⟨arp, rfl⟩ := sendARPRequest_eq_ok hsend
    obtain ⟨htime, rfl⟩ := scheduleAt_eq_ok hschedule
    refine .inl ⟨hretry, ?_, arp, ?_⟩
    · simp only [emit, setEntry, cancelEvent] at htime
      omega
    · simp [emit, setEntry, cancelEvent]
  · exact .inr ⟨not_lt.1 hretry, (Except.ok.inj h).symm⟩

/-- The entry of a resolution that has ended. -/
def learnt (s : State) (e : ARPCacheEntry) (macAddress : MACAddress) : ARPCacheEntry :=
  { e with
    pending := false
    timer := if e.pending then none else e.timer
    numRetries := if e.pending then 0 else e.numRetries
    macAddress := macAddress
    lastUpdate := s.now }

/-- The messages that are scheduled when the timer of the entry has been cancelled. -/
def cancelled (s : State) (e : ARPCacheEntry) (msg : ℕ) : Option Timer :=
  if e.pending ∧ e.timer = some msg then none else s.scheduled msg

theorem updateARPCache_eq_ok {e : ARPCacheEntry} {macAddress : MACAddress}
    (h : s.updateARPCache addr e macAddress = .ok s') :
    s' = { s with
      arpCache := update s.arpCache addr (some (s.learnt e macAddress))
      scheduled := s.cancelled e
      pendingPackets := update s.pendingPackets addr none
      log := s.log ++ .completedARPResolution addr macAddress e.ie ::
        ((s.pendingPackets addr).getD []).map fun d => .sent d e.ie macAddress } := by
  unfold updateARPCache at h
  split_ifs at h with hpending
  · split at h
    · cases h
    rename_i msg hmsg
    refine (Except.ok.inj h).symm.trans ?_
    have hcancelled : s.cancelled e = update s.scheduled msg none := by
      funext msg'
      by_cases hm : msg' = msg
      · subst hm
        simp [cancelled, hpending, hmsg]
      · simp [cancelled, hmsg, hm, Ne.symm hm]
    rw [hcancelled]
    simp [resolved, cancelEvent, setEntry, emit, arpResolutionCompleted, learnt, hpending]
  · refine (Except.ok.inj h).symm.trans ?_
    have hcancelled : s.cancelled e = s.scheduled := by
      funext msg
      simp [cancelled, hpending]
    rw [hcancelled]
    simp [resolved, setEntry, emit, arpResolutionCompleted, learnt, hpending]

end State

open State

/-! ### The invariant -/

/-- The number of requests of a resolution that fails. -/
def Parameters.maxRequests (p : Parameters) : ℤ := max 1 p.retryCount

/-- An entry and its timer. -/
structure EntryTimed (p : Parameters) (s : State) (addr : IPv4Address) (e : ARPCacheEntry) :
    Prop where
  timer_eq_none : e.pending = false → e.timer = none
  macAddress : e.pending = false → e.macAddress.isUnspecified = false
  timer : e.pending = true → ∃ msg time, e.timer = some msg ∧ s.scheduled msg = some ⟨time, addr⟩
  numRetries : e.pending = true → 0 ≤ e.numRetries ∧ e.numRetries < p.maxRequests
  group : e.pending = true → groupMacAddress addr e.ie = .ok none
  globalARP : e.pending = true → p.globalARP = false

/-- A message that is scheduled. -/
structure MessageTimed (p : Parameters) (s : State) (msg : ℕ) (timer : Timer) : Prop where
  lt : msg < s.nextMsg
  now_le : s.now ≤ timer.arrivalTime
  le : timer.arrivalTime ≤ s.now + p.retryTimeout
  entry : ∃ e, s.arpCache timer.contextPointer = some e ∧ e.pending = true ∧ e.timer = some msg

/-- An entry is pending exactly when it has a timer that is scheduled, and nothing else is
scheduled. -/
structure Timed (p : Parameters) (s : State) : Prop where
  entries : ∀ addr e, s.arpCache addr = some e → EntryTimed p s addr e
  scheduled : ∀ msg timer, s.scheduled msg = some timer → MessageTimed p s msg timer

theorem timed_initial (p : Parameters) : Timed p {} :=
  ⟨fun _ _ h => (Option.some_ne_none _ h.symm).elim,
    fun _ _ h => (Option.some_ne_none _ h.symm).elim⟩

variable {p : Parameters} {s s' : State} {addr : IPv4Address} {e : ARPCacheEntry}

theorem EntryTimed.frame (h : EntryTimed p s addr e)
    (hscheduled : ∀ msg time, s.scheduled msg = some ⟨time, addr⟩ →
      ∃ time', s'.scheduled msg = some ⟨time', addr⟩) :
    EntryTimed p s' addr e := by
  refine ⟨h.timer_eq_none, h.macAddress, fun hpending => ?_, h.numRetries, h.group, h.globalARP⟩
  obtain ⟨msg, time, hmsg, htime⟩ := h.timer hpending
  obtain ⟨time', htime'⟩ := hscheduled msg time htime
  exact ⟨msg, time', hmsg, htime'⟩

variable (h : Timed p s)
include h

/-- What is logged and what waits does not matter. -/
theorem Timed.congr (hnow : s'.now = s.now) (hcache : s'.arpCache = s.arpCache)
    (hscheduled : s'.scheduled = s.scheduled) (hnext : s'.nextMsg = s.nextMsg) : Timed p s' := by
  refine ⟨fun addr e he => ?_, fun msg timer ht => ?_⟩
  · rw [hcache] at he
    refine (h.entries addr e he).frame fun msg time htime => ⟨time, ?_⟩
    rw [hscheduled]
    exact htime
  · rw [hscheduled] at ht
    obtain ⟨hlt, hnow_le, hle, hentry⟩ := h.scheduled msg timer ht
    rw [← hnow] at hnow_le hle
    rw [← hnext] at hlt
    rw [← hcache] at hentry
    exact ⟨hlt, hnow_le, hle, hentry⟩

/-- The time passes. -/
theorem Timed.setNow {now : ℤ} (hle : s.now ≤ now)
    (hnext : ∀ msg < s.nextMsg, ∀ timer ∈ s.scheduled msg, now ≤ timer.arrivalTime) :
    Timed p { s with now := now } := by
  refine ⟨fun addr e he => (h.entries addr e he).frame fun msg time ht => ⟨time, ht⟩,
    fun msg timer ht => ?_⟩
  obtain ⟨hlt, -, hle', hentry⟩ := h.scheduled msg timer ht
  exact ⟨hlt, hnext msg hlt timer ht, by dsimp only; omega, hentry⟩

variable {timer : Timer} {msg : ℕ}

/-- The entry that a scheduled message belongs to. -/
theorem Timed.timer_eq (ht : s.scheduled msg = some timer)
    (he : s.arpCache timer.contextPointer = some e) :
    e.pending = true ∧ e.timer = some msg := by
  obtain ⟨e', he', hpending, hmsg⟩ := (h.scheduled msg timer ht).entry
  rw [he] at he'
  cases he'
  exact ⟨hpending, hmsg⟩

/-- A resolution begins. -/
theorem Timed.initiate (hidle : ∀ e', s.arpCache addr = some e' → e'.pending = false)
    (hgroup : groupMacAddress addr e.ie = .ok none) (hglobal : p.globalARP = false)
    (hok : s.initiateARPResolution p addr e = .ok s') : Timed p s' := by
  obtain ⟨hrto, arp, rfl⟩ := initiateARPResolution_eq_ok hok
  -- no message of this address is scheduled
  have hctx : ∀ msg timer, s.scheduled msg = some timer → timer.contextPointer ≠ addr := by
    rintro msg timer ht rfl
    obtain ⟨e', he', hpending, -⟩ := (h.scheduled msg timer ht).entry
    rw [hidle e' he'] at hpending
    cases hpending
  have hfresh : ∀ msg timer, s.scheduled msg = some timer → msg ≠ s.nextMsg :=
    fun msg timer ht => (h.scheduled msg timer ht).lt.ne
  refine ⟨fun addr' e' he' => ?_, fun msg timer ht => ?_⟩
  · dsimp only at he'
    by_cases haddr : addr' = addr
    · subst haddr
      rw [update_self] at he'
      cases he'
      refine ⟨fun hp => ?_, fun hp => ?_, fun _ => ⟨s.nextMsg, s.now + p.retryTimeout, rfl, ?_⟩,
        fun _ => ⟨le_rfl, ?_⟩, fun _ => hgroup, fun _ => hglobal⟩
      · cases hp
      · cases hp
      · exact update_self ..
      · simp [initiated, Parameters.maxRequests]
    · rw [update_of_ne haddr] at he'
      refine (h.entries addr' e' he').frame fun msg time ht => ⟨time, ?_⟩
      dsimp only
      rw [update_of_ne (hfresh msg _ ht)]
      exact ht
  · dsimp only at ht
    by_cases hm : msg = s.nextMsg
    · subst hm
      rw [update_self] at ht
      cases ht
      refine ⟨Nat.lt_succ_self _, ?_, le_rfl, s.initiated e, update_self .., rfl, rfl⟩
      dsimp only
      omega
    · rw [update_of_ne hm] at ht
      obtain ⟨hlt, hnow, hle, e', he', hpending, hmsg⟩ := h.scheduled msg timer ht
      refine ⟨hlt.trans (Nat.lt_succ_self _), hnow, hle, e', ?_, hpending, hmsg⟩
      dsimp only
      rw [update_of_ne (hctx msg timer ht)]
      exact he'

/-- A request is sent again. -/
theorem Timed.retry
    (ht : s.scheduled msg = some timer) (he : s.arpCache timer.contextPointer = some e)
    (hretry : e.numRetries + 1 < p.retryCount) (hrto : 0 ≤ p.retryTimeout)
    (hcache : s'.arpCache = update s.arpCache timer.contextPointer
      (some { e with numRetries := e.numRetries + 1 }))
    (hscheduled : s'.scheduled = update s.scheduled msg
      (some ⟨s.now + p.retryTimeout, timer.contextPointer⟩))
    (hnext : s'.nextMsg = max s.nextMsg (msg + 1)) (hnow : s'.now = s.now) : Timed p s' := by
  obtain ⟨hpending, hmsg⟩ := h.timer_eq ht he
  refine ⟨fun addr e' he' => ?_, fun msg' timer' ht' => ?_⟩
  · rw [hcache] at he'
    by_cases haddr : addr = timer.contextPointer
    · subst haddr
      rw [update_self] at he'
      cases he'
      have hentry := h.entries _ e he
      refine ⟨hentry.timer_eq_none, hentry.macAddress,
        fun _ => ⟨msg, s.now + p.retryTimeout, hmsg, ?_⟩, fun _ => ⟨?_, ?_⟩, hentry.group,
        hentry.globalARP⟩
      · rw [hscheduled, update_self]
      · have := (hentry.numRetries hpending).1
        dsimp only
        omega
      · exact lt_of_lt_of_le hretry (le_max_right _ _)
    · rw [update_of_ne haddr] at he'
      refine (h.entries addr e' he').frame fun msg' time htime => ⟨time, ?_⟩
      have hm : msg' ≠ msg := by
        rintro rfl
        rw [ht] at htime
        exact haddr (congrArg Timer.contextPointer (Option.some.inj htime)).symm
      rw [hscheduled, update_of_ne hm]
      exact htime
  · rw [hscheduled] at ht'
    by_cases hm : msg' = msg
    · subst hm
      rw [update_self] at ht'
      cases ht'
      refine ⟨?_, ?_, le_of_eq ?_, { e with numRetries := e.numRetries + 1 }, ?_, hpending, hmsg⟩
      · rw [hnext]
        omega
      · rw [hnow]
        dsimp only
        omega
      · rw [hnow]
      · rw [hcache, update_self]
    · rw [update_of_ne hm] at ht'
      obtain ⟨hlt, hnow_le, hle, e', he', hpending', hmsg'⟩ := h.scheduled msg' timer' ht'
      refine ⟨?_, ?_, ?_, e', ?_, hpending', hmsg'⟩
      · rw [hnext]
        omega
      · rwa [hnow]
      · rwa [hnow]
      · have haddr : timer'.contextPointer ≠ timer.contextPointer := by
          intro heq
          rw [heq, he] at he'
          cases he'
          exact hm (Option.some.inj (hmsg'.symm.trans hmsg))
        rw [hcache, update_of_ne haddr]
        exact he'

/-- A resolution ends, or an address is learnt without one: the entry is not pending any more, and
its timer is not scheduled. -/
theorem Timed.finish {entry : Option ARPCacheEntry}
    (hentry : ∀ e ∈ entry, EntryTimed p s' addr e ∧ e.pending = false)
    (hcache : s'.arpCache = update s.arpCache addr entry)
    (hscheduled : ∀ msg timer, s'.scheduled msg = some timer ↔
      s.scheduled msg = some timer ∧ timer.contextPointer ≠ addr)
    (hnext : s'.nextMsg = s.nextMsg) (hnow : s'.now = s.now) : Timed p s' := by
  refine ⟨fun addr' e he => ?_, fun msg timer ht => ?_⟩
  · rw [hcache] at he
    by_cases haddr : addr' = addr
    · subst haddr
      rw [update_self] at he
      exact (hentry e he).1
    · rw [update_of_ne haddr] at he
      exact (h.entries addr' e he).frame fun msg time htime =>
        ⟨time, (hscheduled msg _).2 ⟨htime, haddr⟩⟩
  · obtain ⟨ht', haddr⟩ := (hscheduled msg timer).1 ht
    obtain ⟨hlt, hnow_le, hle, e, he, hpending, hmsg⟩ := h.scheduled msg timer ht'
    refine ⟨by rwa [hnext], by rwa [hnow], by rwa [hnow], e, ?_, hpending, hmsg⟩
    rw [hcache, update_of_ne haddr]
    exact he

/-- The messages that stay scheduled when the timer of an entry is cancelled. -/
theorem Timed.cancelled_iff (he : s.arpCache addr = some e) (msg : ℕ) (timer : Timer) :
    s.cancelled e msg = some timer ↔
      s.scheduled msg = some timer ∧ timer.contextPointer ≠ addr := by
  unfold cancelled
  constructor
  · intro ht
    split_ifs at ht with hcond
    refine ⟨ht, ?_⟩
    rintro rfl
    exact hcond (h.timer_eq ht he)
  · rintro ⟨ht, haddr⟩
    rw [if_neg]
    · exact ht
    rintro ⟨hpending, hmsg⟩
    obtain ⟨msg', time, hmsg', htime⟩ := (h.entries addr e he).timer hpending
    obtain rfl : msg = msg' := Option.some.inj (hmsg.symm.trans hmsg')
    rw [ht] at htime
    exact haddr (congrArg Timer.contextPointer (Option.some.inj htime))

end Arp

end Hiwis
