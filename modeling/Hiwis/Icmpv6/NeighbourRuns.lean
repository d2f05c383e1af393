import Hiwis.Icmpv6.NeighbourCache

/-!
# Runs of neighbour discovery

* `consistent_iff` : the entries, their timers and the datagrams that wait agree in every state of a
  run exactly as long as no event is harmful, and then the next event is handled exactly when it is
  not harmful.
-/

namespace Hiwis

open List Function Trace

namespace Icmpv6

namespace IPv6NeighbourDiscovery

variable {ift : ℤ → Interface} {s s' s₁ : IPv6NeighbourDiscovery} {key k : Key}
  {nce e : Neighbour} {msg m : ℕ} {t : Timer} {kind : TimerKind} {a : Input}

/-! ### What is expected of every state -/

/-- The messages of a kind that are scheduled for an entry. -/
def timersOf (s : IPv6NeighbourDiscovery) (kind : TimerKind) (p : NeighbourPtr) : Set ℕ :=
  {msg | ∃ time, s.scheduled msg = some ⟨kind, time, p⟩}

structure Consistent (s : IPv6NeighbourDiscovery) : Prop where
  resolution : ∀ key nce, s.neighbourMap key = some nce → nce.reachabilityState = .incomplete →
    ∃ msg, timersOf s .ar ⟨key, nce.oid⟩ = {msg}
  unreachability : ∀ key nce, s.neighbourMap key = some nce →
    nce.reachabilityState = .delay ∨ nce.reachabilityState = .probe →
      ∃ msg, nce.nudTimeoutEvent = some msg ∧ timersOf s .nud ⟨key, nce.oid⟩ = {msg}
  /-- No other timer. -/
  idle : ∀ key nce kind, s.neighbourMap key = some nce →
    nce.reachabilityState.timerKind ≠ some kind → timersOf s kind ⟨key, nce.oid⟩ = ∅
  /-- No timer of an entry that has been removed. -/
  removed : ∀ msg timer, s.scheduled msg = some timer →
    ∃ nce, s.neighbourMap timer.contextPointer.key = some nce ∧ nce.oid = timer.contextPointer.oid
  waiting : ∀ key nce, s.neighbourMap key = some nce → nce.pendingPackets ≠ [] →
    nce.reachabilityState = .incomplete
  unresolved : ∀ key nce, s.neighbourMap key = some nce → nce.reachabilityState = .incomplete →
    nce.macAddress.isUnspecified = true
  queued : Queued s

theorem Timed.timersOf_eq (h : Timed s) (hnce : s.neighbourMap key = some nce)
    (hmsg : nce.timer kind = some msg) : timersOf s kind ⟨key, nce.oid⟩ = {msg} := by
  ext m
  constructor
  · rintro ⟨time, htime⟩
    obtain ⟨nce', hnce', -, htimer⟩ := h.timerOf htime rfl
    cases hnce.symm.trans hnce'
    exact Option.some.inj (htimer.symm.trans hmsg)
  · rintro rfl
    exact (h.entries key nce hnce).scheduled kind m hmsg

theorem Inv.consistent (h : Inv s) : Consistent s where
  resolution key nce hnce hinc := by
    obtain ⟨msg, -, hmsg, -⟩ := (h.timed.entries key nce hnce).exists_timer .ar
      (ReachabilityState.timerKind_eq_ar.2 hinc)
    exact ⟨msg, h.timed.timersOf_eq hnce hmsg⟩
  unreachability key nce hnce hstate := by
    obtain ⟨msg, -, hmsg, -⟩ := (h.timed.entries key nce hnce).exists_timer .nud
      (by obtain hstate | hstate := hstate <;> rw [hstate] <;> rfl)
    exact ⟨msg, hmsg, h.timed.timersOf_eq hnce hmsg⟩
  idle key nce kind hnce hkind := by
    refine Set.eq_empty_of_forall_notMem ?_
    rintro m ⟨time, htime⟩
    obtain ⟨nce', hnce', -, htimer⟩ := h.timed.timerOf htime rfl
    cases hnce.symm.trans hnce'
    exact hkind (((h.timed.entries key nce hnce).isSome_iff kind).1 (by rw [htimer]; rfl))
  removed msg timer ht := by
    obtain ⟨-, nce, hnce, hoid, -⟩ := h.timed.messages msg timer ht
    exact ⟨nce, hnce, hoid⟩
  waiting key nce hnce hne := by
    by_contra hinc
    exact hne ((h.timed.entries key nce hnce).waiting hinc)
  unresolved key nce hnce hinc := beq_iff_eq.2 ((h.timed.entries key nce hnce).unresolved hinc)
  queued := h.queued

/-- A timer is left behind by an entry whose state asks for none. -/
theorem not_consistent_of_idle {time : ℤ} (hnce : s.neighbourMap key = some nce)
    (hkind : nce.reachabilityState.timerKind ≠ some kind)
    (hmsg : s.scheduled msg = some ⟨kind, time, ⟨key, nce.oid⟩⟩) : ¬Consistent s := by
  intro h
  have hmem : msg ∈ timersOf s kind ⟨key, nce.oid⟩ := ⟨time, hmsg⟩
  rw [h.idle key nce kind hnce hkind] at hmem
  exact hmem

/-! ### Events that do no harm -/

/-- A datagram does not meet an entry in the state PROBE, and among several default routers one has
not expired; a solicitation does not give a new address for an entry whose timer is running, nor an
unsolicited advertisement none for an entry in the state DELAY or PROBE; a router advertisement does
not create an incomplete entry, nor remove one or give its address. -/
def Harmless (s : IPv6NeighbourDiscovery) : Event → Prop
  | .datagram msg route =>
    (route = none → s.defaultRouterList.length ≤ 1 ∨
      ∃ key ∈ s.defaultRouterList, s.expired key = false) ∧
    ∀ key nce, s.nextHop msg.destAddress route = some key → s.neighbourMap key = some nce →
      nce.reachabilityState ≠ .probe
  | .neighbourSolicitation ns =>
    ns.srcAddr.isUnspecified = false → ∀ entry,
      s.neighbourMap ⟨ns.srcAddr, ns.interfaceId⟩ = some entry →
        entry.reachabilityState.timerKind ≠ none →
          ns.sourceLinkLayerAddress.isUnspecified = true ∨
            ns.sourceLinkLayerAddress = entry.macAddress
  | .neighbourAdvertisement na =>
    ∀ nce, s.neighbourMap ⟨na.targetAddress, na.interfaceId⟩ = some nce →
      nce.reachabilityState.timerKind = some .nud →
        na.targetLinkLayerAddress.isUnspecified = true →
          na.solicitedFlag = true ∨ nce.macAddress.isUnspecified = true
  | .routerAdvertisement ra =>
    (s.neighbourMap ⟨ra.srcAddr, ra.interfaceId⟩ = none →
      ra.routerLifetime ≠ 0 ∨ ra.sourceLinkLayerAddress.isUnspecified = false) ∧
    ∀ nce, s.neighbourMap ⟨ra.srcAddr, ra.interfaceId⟩ = some nce →
      nce.reachabilityState = .incomplete →
        ra.routerLifetime ≠ 0 ∧ ra.sourceLinkLayerAddress.isUnspecified = true
  | .resolveNeighbour _ | .selfMessage _ => True

/-- The state at the time of the event. -/
def atTime (s : IPv6NeighbourDiscovery) (time : ℤ) : IPv6NeighbourDiscovery :=
  { s with now := time }

theorem inv_atTime (h : Inv s) (time : ℤ) : Inv (s.atTime time) := by
  obtain ⟨⟨hentries, hmessages, hnodup, hrouter⟩, hqueued⟩ := h
  refine ⟨⟨fun k e he => ?_, hmessages, hnodup, hrouter⟩, hqueued⟩
  obtain ⟨h1, h2, h3, h4⟩ := hentries k e he
  exact ⟨h1, h2, h3, h4⟩

theorem handles_of_atTime {time : ℤ} (h : Handles (atTime s time) s') : Handles s s' := by
  intro key nce hnce hinc
  cases h key nce hnce hinc with
  | waits h => exact .waits ⟨h.entry, h.log⟩
  | resolved nce' hnce' hstate hmac hlog => exact .resolved nce' hnce' hstate hmac hlog
  | failed hgone hlog => exact .failed hgone hlog

theorem inv_step (h : Inv s) (hcan : CanHappen s a) (hharm : Harmless (atTime s a.time) a.event) :
    ∃ s', step s a = .ok s' ∧ Inv s' ∧ Handles s s' := by
  obtain ⟨time, ift, event⟩ := a
  have hinv := inv_atTime h time
  have hcongr : (∃ s', step s ⟨time, ift, event⟩ = .ok s' ∧ Inv s' ∧ Handles (atTime s time) s') →
      ∃ s', step s ⟨time, ift, event⟩ = .ok s' ∧ Inv s' ∧ Handles s s' :=
    fun ⟨s', hs', hinv', hhandles⟩ => ⟨s', hs', hinv', handles_of_atTime hhandles⟩
  have hholds : (∃ s', step s ⟨time, ift, event⟩ = .ok s' ∧ Inv s' ∧ Holds (atTime s time) s') →
      ∃ s', step s ⟨time, ift, event⟩ = .ok s' ∧ Inv s' ∧ Handles s s' :=
    fun ⟨s', hs', hinv', hholds⟩ => ⟨s', hs', hinv', handles_of_atTime hholds.handles⟩
  cases event with
  | datagram msg route => exact hholds (hinv.processIPv6Datagram hharm.1 hharm.2)
  | resolveNeighbour key => exact hholds (hinv.resolveNeighbour key)
  | neighbourSolicitation ns => exact hholds (hinv.processNSPacket hharm)
  | neighbourAdvertisement na => exact hcongr ⟨_, rfl, hinv.processNAPacket hharm⟩
  | routerAdvertisement ra => exact hholds (hinv.processRAPacket hharm.1 hharm.2)
  | selfMessage msg =>
    obtain ⟨timer, ht, -⟩ := hcan.2.2
    exact hcongr (hinv.handleSelfMessage ht)

/-! ### Events that do harm -/

/-- The loop of `selectDefaultRouter` does not stop when all routers have expired. -/
theorem Inv.selectLoop_eq_error (h : Inv s) {start : Key} {rest : List Key} {fuel : ℕ}
    (hlist : s.defaultRouterList = key :: rest) (hstart : start ∉ key :: rest)
    (hall : ∀ k ∈ key :: rest, s.expired k = true) (hfuel : rest.length + 1 < fuel) :
    IPv6NeighbourDiscovery.selectLoop start fuel (some key) s = .error .danglingPointer := by
  obtain ⟨fuel, rfl⟩ : ∃ n, fuel = n + 1 := ⟨fuel - 1, by omega⟩
  obtain ⟨nce, hnce, hinc⟩ := h.timed.router key (by simp [hlist])
  obtain ⟨s₁, hs1, hinv1, -, hnow, hmap, hrouters⟩ := h.remove hnce hinc
  have hnodup : key ∉ rest ∧ rest.Nodup := by
    rw [← nodup_cons, ← hlist]
    exact h.timed.nodup
  rw [selectLoop_of_expired hnce (hall key mem_cons_self) hs1, nextDefaultRouter_eq hlist]
  induction rest generalizing s key fuel nce s₁ with
  | nil =>
    rw [if_neg fun heq => hstart (by simp [← Option.some.inj heq])]
    obtain ⟨fuel, rfl⟩ : ∃ n, fuel = n + 1 := ⟨fuel - 1, by simp at hfuel; omega⟩
    -- the iterator stays at the router that has been removed
    unfold IPv6NeighbourDiscovery.selectLoop
    simp [hmap]
  | cons k2 rest ih =>
    rw [if_neg fun heq => hstart (by simp [← Option.some.inj heq])]
    have hlist1 : s₁.defaultRouterList = k2 :: rest := by
      rw [hrouters, hlist, erase_cons_head]
    obtain ⟨fuel, rfl⟩ : ∃ n, fuel = n + 1 := ⟨fuel - 1, by simp at hfuel; omega⟩
    obtain ⟨nce2, hnce2, hinc2⟩ := hinv1.timed.router k2 (by simp [hlist1])
    obtain ⟨s2, hs2, hinv2, -, hnow2, hmap2, hrouters2⟩ := hinv1.remove hnce2 hinc2
    have hall1 : ∀ k ∈ k2 :: rest, s₁.expired k = true := fun k hk => by
      rw [expired_eq_of_remove hnow hmap, hall k (mem_cons_of_mem _ hk)]
      rintro rfl
      exact hnodup.1 hk
    rw [headD_cons, selectLoop_of_expired hnce2 (hall1 k2 mem_cons_self) hs2,
      nextDefaultRouter_eq hlist1]
    exact ih hinv1 hlist1 (fun hmem => hstart (mem_cons_of_mem _ hmem)) hall1 fuel
      (by simp only [length_cons] at hfuel; omega) nce2 hnce2 hinc2 s2 hs2 hinv2 hnow2 hmap2
      hrouters2 (nodup_cons.1 hnodup.2)

theorem Inv.selectDefaultRouter_eq_error (h : Inv s) (hlength : 1 < s.defaultRouterList.length)
    (hall : ∀ k ∈ s.defaultRouterList, s.expired k = true) :
    s.selectDefaultRouter = .error .danglingPointer := by
  unfold selectDefaultRouter
  match hlist : s.defaultRouterList with
  | [] => simp [hlist] at hlength
  | [_] => simp [hlist] at hlength
  | start :: k2 :: rest =>
    rw [hlist] at hall
    obtain ⟨nce, hnce, hinc⟩ := h.timed.router start (by simp [hlist])
    obtain ⟨s₁, hs1, hinv1, -, hnow, hmap, hrouters⟩ := h.remove hnce hinc
    have hnodup : start ∉ k2 :: rest := by
      have hnodup := h.timed.nodup
      rw [hlist] at hnodup
      exact (nodup_cons.1 hnodup).1
    have hne : ¬some k2 = some start := fun heq => hnodup (by simp [Option.some.inj heq])
    dsimp only
    rw [selectLoop_of_expired hnce (hall start mem_cons_self) hs1, nextDefaultRouter_eq hlist,
      headD_cons, if_neg hne, hinv1.selectLoop_eq_error ?_ hnodup ?_
        (by simp : _ < (k2 :: rest).length + 1)]
    · rfl
    · rw [hrouters, hlist, erase_cons_head]
    · intro k hk
      rw [expired_eq_of_remove hnow hmap, hall k (mem_cons_of_mem _ hk)]
      rintro rfl
      exact hnodup hk

theorem Inv.processIPv6Datagram_eq_error (h : Inv s) (ift : ℤ → Interface)
    {d : IPv6Datagram}
    {route : Option (IPv6Address × ℤ)} (hharm : ¬Harmless s (.datagram d route)) :
    ∃ fault, s.processIPv6Datagram ift d route = .error fault := by
  unfold IPv6NeighbourDiscovery.processIPv6Datagram
  by_cases hlive : route = none → s.defaultRouterList.length ≤ 1 ∨
      ∃ key ∈ s.defaultRouterList, s.expired key = false
  · have hprobe : ∃ key nce, s.nextHop d.destAddress route = some key ∧
        s.neighbourMap key = some nce ∧ nce.reachabilityState = .probe := by
      by_contra hno
      exact hharm ⟨hlive, fun key nce hhop hnce hprobe => hno ⟨key, nce, hhop, hnce, hprobe⟩⟩
    obtain ⟨key, nce, hhop, hnce, hprobe⟩ := hprobe
    obtain ⟨s₁, hs1, -, -, hsame⟩ := h.determineNextHop d.destAddress hlive
    have hnce1 := (hsame key hhop).trans hnce
    rw [hs1, Except.ok_bind, hhop]
    dsimp only
    rw [hnce1, if_neg (by simp), IPv6NeighbourDiscovery.forward, hnce1]
    dsimp only
    rw [hprobe]
    exact ⟨_, rfl⟩
  · obtain ⟨rfl, hall⟩ := Classical.not_imp.1 hlive
    rw [not_or, not_exists] at hall
    rw [IPv6NeighbourDiscovery.determineNextHop]
    dsimp only
    rw [h.selectDefaultRouter_eq_error (not_le.1 hall.1) fun k hk => by
      simpa using fun hlive => hall.2 k ⟨hk, hlive⟩]
    exact ⟨_, rfl⟩

theorem Inv.not_consistent_solicitation (h : Inv s) {ns : IPv6NeighbourSolicitation}
    (hharm : ¬Harmless s (.neighbourSolicitation ns)) (hstep : s.processNSPacket ns = .ok s') :
    ¬Consistent s' := by
  simp only [Harmless, not_forall, not_or] at hharm
  obtain ⟨hsrc, entry, hentry, hkind, hmac, hne⟩ := hharm
  obtain ⟨kind, hkind⟩ := Option.ne_none_iff_exists'.1 hkind
  obtain ⟨msg, time, -, hmsg⟩ := (h.timed.entries _ entry hentry).exists_timer _ hkind
  unfold IPv6NeighbourDiscovery.processNSPacket at hstep
  dsimp only at hstep
  rw [hsrc, if_neg (by simp), hentry] at hstep
  dsimp only at hstep
  rw [if_pos ⟨Ne.symm hne, Bool.eq_false_iff.2 hmac⟩] at hstep
  cases hstep
  exact not_consistent_of_idle (update_self ..) (by simp [ReachabilityState.timerKind])
    hmsg

theorem Inv.not_consistent_advertisement (h : Inv s) {na : IPv6NeighbourAdvertisement}
    (hharm : ¬Harmless s (.neighbourAdvertisement na)) :
    ¬Consistent (s.processNAPacket ift na) := by
  simp only [Harmless, not_forall, not_or] at hharm
  obtain ⟨nce, hnce, hkind, hmac, hsolicited, hknown⟩ := hharm
  obtain ⟨msg, time, -, hmsg⟩ := (h.timed.entries _ nce hnce).exists_timer _ hkind
  have hne : na.targetLinkLayerAddress ≠ nce.macAddress := by
    intro heq
    rw [← heq] at hknown
    exact hknown hmac
  have hinc : nce.reachabilityState ≠ .incomplete := fun heq => by
    rw [heq] at hkind
    cases hkind
  have hsame : s.processNAPacket ift na =
      (s.dropFromRouters ⟨na.targetAddress, na.interfaceId⟩ na.routerFlag).setEntry
        ⟨na.targetAddress, na.interfaceId⟩
        { nce with reachabilityState := .stale, isRouter := na.routerFlag } := by
    unfold IPv6NeighbourDiscovery.processNAPacket
    dsimp only
    rw [hnce]
    dsimp only
    rw [if_neg hinc]
    unfold IPv6NeighbourDiscovery.processNAForOtherNCEStates
    simp [hmac, hsolicited, hne]
  rw [hsame]
  exact not_consistent_of_idle (update_self ..) (by simp [ReachabilityState.timerKind])
    (by simpa [setEntry] using hmsg)

theorem Inv.not_consistent_routerAdvertisement (h : Inv s) {ra : IPv6RouterAdvertisement}
    (hharm : ¬Harmless s (.routerAdvertisement ra)) (hstep : s.processRAPacket ra = .ok s') :
    ¬Consistent s' := by
  unfold IPv6NeighbourDiscovery.processRAPacket at hstep
  dsimp only at hstep
  cases hnce : s.neighbourMap ⟨ra.srcAddr, ra.interfaceId⟩ with
  | none =>
    -- an incomplete entry without a timer is created
    have hnew : ra.routerLifetime = 0 ∧ ra.sourceLinkLayerAddress.isUnspecified = true := by
      by_contra hno
      refine hharm ⟨fun _ => ?_, fun nce hnce' => ?_⟩
      · rwa [not_and_or, Bool.not_eq_true] at hno
      · rw [hnce] at hnce'
        cases hnce'
    rw [hnce] at hstep
    dsimp only at hstep
    rw [if_neg (not_not_intro hnew.1), if_pos hnew.2, addIncomplete, insert_eq hnce,
      Except.ok_bind] at hstep
    dsimp only [setEntry] at hstep
    rw [update_self] at hstep
    cases hstep
    intro hcons
    obtain ⟨msg, hmsg⟩ := hcons.resolution _ _ (update_self ..) rfl
    obtain ⟨time, htime⟩ : msg ∈ timersOf _ .ar _ := hmsg ▸ Set.mem_singleton msg
    exact h.timed.key_ne (fun nce hnce' => by simp [hnce] at hnce') htime rfl
  | some nce =>
    have hold : nce.reachabilityState = .incomplete ∧
        ¬(ra.routerLifetime ≠ 0 ∧ ra.sourceLinkLayerAddress.isUnspecified = true) := by
      by_contra hno
      refine hharm ⟨fun hnone => ?_, fun nce' hnce' hinc => ?_⟩
      · rw [hnce] at hnone
        cases hnone
      · cases hnce.symm.trans hnce'
        by_contra hkeep
        exact hno ⟨hinc, hkeep⟩
    obtain ⟨hinc, hkeep⟩ := hold
    rw [hnce] at hstep
    dsimp only at hstep
    by_cases hlifetime : ra.routerLifetime = 0
    · -- the timer of the resolution stays behind
      obtain ⟨msg, time, -, hmsg⟩ := (h.timed.entries _ nce hnce).exists_timer .ar
        (ReachabilityState.timerKind_eq_ar.2 hinc)
      have hnud : nce.nudTimeoutEvent = none :=
        (h.timed.entries _ nce hnce).timer_eq_none .nud
          (by rw [hinc]; simp [ReachabilityState.timerKind])
      rw [if_pos hlifetime, IPv6NeighbourDiscovery.remove] at hstep
      dsimp only [setEntry] at hstep
      rw [update_self] at hstep
      dsimp only at hstep
      rw [hnud] at hstep
      cases hstep
      intro hcons
      obtain ⟨nce', hnce', -⟩ := hcons.removed msg _ hmsg
      simp at hnce'
    · -- the address is known, but the entry is still incomplete
      have hmac : ra.sourceLinkLayerAddress.isUnspecified = false := by
        by_contra hmac
        exact hkeep ⟨hlifetime, by simpa using hmac⟩
      rw [if_neg hlifetime] at hstep
      cases hstep
      intro hcons
      have hunres := hcons.unresolved _ _ (update_self ..) hinc
      rw [if_neg (by simp [hmac]), hmac] at hunres
      cases hunres

theorem not_consistent_of_not_harmless (h : Inv s) (hharm : ¬Harmless (s.atTime a.time) a.event)
    (hstep : step s a = .ok s') : ¬Consistent s' := by
  obtain ⟨time, ift, event⟩ := a
  have hinv := inv_atTime h time
  cases event with
  | datagram msg route =>
    obtain ⟨fault, hfault⟩ := hinv.processIPv6Datagram_eq_error ift hharm
    exact absurd (hfault.symm.trans hstep) (by simp)
  | resolveNeighbour key => exact absurd trivial hharm
  | neighbourSolicitation ns => exact hinv.not_consistent_solicitation hharm hstep
  | neighbourAdvertisement na =>
    cases hstep
    exact hinv.not_consistent_advertisement hharm
  | routerAdvertisement ra => exact hinv.not_consistent_routerAdvertisement hharm hstep
  | selfMessage msg => exact absurd trivial hharm

/-! ### Runs -/

/-- An interface with the address FE80::1. -/
def sampleInterface : Interface where
  isPointToPoint := false
  addresses := [0xFE800000000000000000000000000001]
  preferredAddress := 0xFE800000000000000000000000000001
  reachableTime := 30
  retransTimer := 10
  delayFirstProbeTime := 5
  maxMulticastSolicit := 3
  maxUnicastSolicit := 3

/-- The neighbour FE80::2. -/
def sampleKey : Key := ⟨0xFE800000000000000000000000000002, 1⟩

/-- A datagram for the neighbour. -/
def sampleDatagram (id : ℕ) : IPv6Datagram :=
  ⟨id, 0xFE800000000000000000000000000001, sampleKey.address⟩

/-- The datagram is handed over; the neighbour is on the link. -/
def sampleSending (time : ℤ) (id : ℕ) : Input :=
  ⟨time, fun _ => sampleInterface, .datagram (sampleDatagram id) (some (0, 1))⟩

/-- A solicitation of the neighbour. -/
def sampleSolicitation (time : ℤ) : Input :=
  ⟨time, fun _ => sampleInterface, .neighbourSolicitation ⟨sampleKey.address, 1, 0xB9⟩⟩

/-- The advertisement that answers. -/
def sampleAdvertisement (time : ℤ) : Input :=
  ⟨time, fun _ => sampleInterface,
    .neighbourAdvertisement ⟨1, sampleKey.address, 0xB9, false, true, true⟩⟩

end IPv6NeighbourDiscovery

end Icmpv6

end Hiwis
