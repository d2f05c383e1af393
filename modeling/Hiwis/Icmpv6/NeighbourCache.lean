import Hiwis.Icmpv6.NeighbourTimers

/-!
# The neighbour cache

Every entry of the cache has the timer that its state asks for, and the datagrams that wait for an
address are sent or reported in their order when the resolution ends, as long as no message changes
the state of an entry whose timer is running.
-/

namespace Hiwis

open List Function Except

namespace Icmpv6

/-- The datagram that is put on the queue of the entry. -/
def Output.queuedAt? (key : Key) : Output → Option IPv6Datagram
  | .queued msg k => if k = key then some msg else none
  | _ => none

/-- The datagram that leaves the queue of the entry. -/
def Output.leftAt? (key : Key) : Output → Option IPv6Datagram
  | .dequeued msg k | .unreachable msg k => if k = key then some msg else none
  | _ => none

def queuedAt (key : Key) (log : List Output) : List IPv6Datagram :=
  log.filterMap (Output.queuedAt? key)

def leftAt (key : Key) (log : List Output) : List IPv6Datagram := log.filterMap (Output.leftAt? key)

/-- The outputs say nothing about the queue of the entry. -/
def Silent (key : Key) (outs : List Output) : Prop := queuedAt key outs = [] ∧ leftAt key outs = []

@[simp] theorem silent_nil (key : Key) : Silent key [] := ⟨rfl, rfl⟩

@[simp] theorem silent_solicited (key : Key) (target dest src : IPv6Address) (interfaceId : ℤ) :
    Silent key [.solicited target dest src interfaceId] := ⟨rfl, rfl⟩

@[simp] theorem silent_sent (key k : Key) (msg : IPv6Datagram) : Silent key [.sent msg k] :=
  ⟨rfl, rfl⟩

theorem silent_queued {key k : Key} (hne : k ≠ key) (msg : IPv6Datagram) :
    Silent k [.queued msg key] := by
  simp [Silent, queuedAt, leftAt, Output.queuedAt?, Output.leftAt?, Ne.symm hne]

section

variable (key k : Key) (l : List IPv6Datagram)
include key k l

theorem queuedAt_map_dequeued : queuedAt k (l.map fun d => .dequeued d key) = [] := by
  simp [queuedAt, Output.queuedAt?]

theorem queuedAt_map_unreachable : queuedAt k (l.map fun d => .unreachable d key) = [] := by
  simp [queuedAt, Output.queuedAt?]

theorem leftAt_map_dequeued :
    leftAt k (l.map fun d => .dequeued d key) = if key = k then l else [] := by
  split_ifs with hk <;> simp [leftAt, Output.leftAt?, comp_def, hk]

theorem leftAt_map_unreachable :
    leftAt k (l.map fun d => .unreachable d key) = if key = k then l else [] := by
  split_ifs with hk <;> simp [leftAt, Output.leftAt?, comp_def, hk]

end

namespace IPv6NeighbourDiscovery

variable {ift : ℤ → Interface} {s s' s₁ : IPv6NeighbourDiscovery} {key k : Key}
  {nce e : Neighbour} {r : ReachabilityState} {msg m : ℕ} {t : Timer} {outs : List Output}

/-! ### The queues -/

/-- The datagrams that wait at an entry. -/
def waitingAt (o : Option Neighbour) : List IPv6Datagram :=
  match o with
  | none => []
  | some nce => nce.pendingPackets

/-- The datagrams that have been put on the queue of an entry are, in their order, those that have
left it and those that wait. -/
def Queued (s : IPv6NeighbourDiscovery) : Prop :=
  ∀ key, queuedAt key s.log = leftAt key s.log ++ waitingAt (s.neighbourMap key)

variable {o : Option Neighbour}

theorem Queued.update (h : Queued s) (hmap : s'.neighbourMap = Function.update s.neighbourMap key o)
    (hlog : s'.log = s.log ++ outs) (hsilent : ∀ k, k ≠ key → Silent k outs)
    (hkey : waitingAt (s.neighbourMap key) ++ queuedAt key outs =
      leftAt key outs ++ waitingAt o) : Queued s' := by
  intro k
  have hq : queuedAt k s'.log = queuedAt k s.log ++ queuedAt k outs := by
    rw [hlog, queuedAt, filterMap_append]
    rfl
  have hl : leftAt k s'.log = leftAt k s.log ++ leftAt k outs := by
    rw [hlog, leftAt, filterMap_append]
    rfl
  rw [hq, hl, hmap, h k]
  by_cases hk : k = key
  · subst hk
    rw [update_self, append_assoc, append_assoc, hkey]
  · rw [update_of_ne hk, (hsilent k hk).1, (hsilent k hk).2, append_nil, append_nil]

/-- The entry goes on waiting for an address. -/
structure Waits (s s' : IPv6NeighbourDiscovery) (key : Key) (nce : Neighbour) : Prop where
  entry : ∃ nce', s'.neighbourMap key = some nce' ∧ nce'.oid = nce.oid ∧
    nce'.reachabilityState = .incomplete
  log : ∃ outs, s'.log = s.log ++ outs ∧ leftAt key outs = []

/-- All entries that wait for an address go on waiting. -/
def Holds (s s' : IPv6NeighbourDiscovery) : Prop :=
  ∀ key nce, s.neighbourMap key = some nce → nce.reachabilityState = .incomplete →
    Waits s s' key nce

theorem Holds.of_eq (hmap : s'.neighbourMap = s.neighbourMap) (hlog : s'.log = s.log) :
    Holds s s' :=
  fun _ nce hnce hinc => ⟨⟨nce, hmap ▸ hnce, rfl, hinc⟩, [], hlog.trans (append_nil _).symm, rfl⟩

theorem Holds.trans (h : Holds s s₁) (h' : Holds s₁ s') : Holds s s' := by
  intro key nce hnce hinc
  obtain ⟨⟨nce1, hnce1, hoid1, hinc1⟩, outs1, hlog1, hleft1⟩ := h key nce hnce hinc
  obtain ⟨⟨nce', hnce', hoid', hinc'⟩, outs, hlog, hleft⟩ := h' key nce1 hnce1 hinc1
  refine ⟨⟨nce', hnce', hoid'.trans hoid1, hinc'⟩, outs1 ++ outs, ?_, ?_⟩
  · rw [hlog, hlog1, append_assoc]
  · rw [leftAt, filterMap_append]
    exact append_eq_nil_iff.2 ⟨hleft1, hleft⟩

theorem Holds.update (hmap : s'.neighbourMap = Function.update s.neighbourMap key o)
    (hlog : s'.log = s.log ++ outs) (hsilent : ∀ k, k ≠ key → Silent k outs)
    (hkey : ∀ nce, s.neighbourMap key = some nce → nce.reachabilityState = .incomplete →
      leftAt key outs = [] ∧
        ∃ nce', o = some nce' ∧ nce'.oid = nce.oid ∧ nce'.reachabilityState = .incomplete) :
    Holds s s' := by
  intro k nce hnce hinc
  by_cases hk : k = key
  · subst hk
    obtain ⟨hleft, nce', rfl, hoid, hinc'⟩ := hkey nce hnce hinc
    exact ⟨⟨nce', by rw [hmap, update_self], hoid, hinc'⟩, outs, hlog, hleft⟩
  · exact ⟨⟨nce, by rw [hmap, update_of_ne hk, hnce], rfl, hinc⟩, outs, hlog, (hsilent k hk).2⟩

/-! ### The invariant -/

structure Inv (s : IPv6NeighbourDiscovery) : Prop where
  timed : Timed s
  queued : Queued s

theorem inv_initial : Inv {} := ⟨timed_initial, fun _ => rfl⟩

/-- A change of one entry that no datagram waits for and that says nothing about the queues. -/
theorem Inv.update (h : Inv s) (key : Key) (outs : List Output) (htimed : Timed s')
    (hmap : s'.neighbourMap = Function.update s.neighbourMap key o)
    (hlog : s'.log = s.log ++ outs) (hsilent : ∀ k, Silent k outs)
    (hidle : ∀ nce, s.neighbourMap key = some nce → nce.reachabilityState ≠ .incomplete)
    (hwaiting : waitingAt o = []) : Inv s' ∧ Holds s s' := by
  refine ⟨⟨htimed, h.queued.update hmap hlog (fun k _ => hsilent k) ?_⟩,
    .update hmap hlog (fun k _ => hsilent k) fun nce hnce hinc => absurd hinc (hidle nce hnce)⟩
  rw [(hsilent key).1, (hsilent key).2, hwaiting]
  cases hnce : s.neighbourMap key with
  | none => rfl
  | some nce =>
    rw [waitingAt, (h.timed.entries key nce hnce).waiting (hidle nce hnce)]

/-- A change of one entry whose state and datagrams stay. -/
theorem Inv.touch (h : Inv s) (htimed : Timed s') (hnce : s.neighbourMap key = some nce)
    (hmap : s'.neighbourMap = Function.update s.neighbourMap key (some e))
    (hlog : s'.log = s.log ++ outs) (hsilent : ∀ k, Silent k outs) (hoid : e.oid = nce.oid)
    (hstate : nce.reachabilityState = .incomplete → e.reachabilityState = .incomplete)
    (hpending : e.pendingPackets = nce.pendingPackets) : Inv s' ∧ Holds s s' := by
  refine ⟨⟨htimed, h.queued.update hmap hlog (fun k _ => hsilent k) ?_⟩,
    .update hmap hlog (fun k _ => hsilent k) fun nce' hnce' hinc => ?_⟩
  · rw [(hsilent key).1, (hsilent key).2, hnce, waitingAt, waitingAt, hpending, append_nil,
      nil_append]
  · cases hnce.symm.trans hnce'
    exact ⟨(hsilent key).2, e, rfl, hoid, hstate hinc⟩

/-- The messages that are left when the timer of an entry has been cancelled. -/
theorem Timed.cancel_iff (h : Timed s) (kind : TimerKind) (hnce : s.neighbourMap key = some nce)
    (hkind : ∀ kind', nce.reachabilityState.timerKind = some kind' → kind' = kind) :
    (s.cancelAndDelete (nce.timer kind)).scheduled m = some t ↔
      s.scheduled m = some t ∧ t.contextPointer.key ≠ key := by
  rw [cancelAndDelete_eq_some]
  refine and_congr_right fun ht => not_congr ?_
  cases hstate : nce.reachabilityState.timerKind with
  | none =>
    rw [(h.entries key nce hnce).timer_eq_none _ (by simp [hstate])]
    refine iff_of_false (by simp) (h.key_ne (fun nce' hnce' => ?_) ht)
    rwa [← Option.some.inj (hnce.symm.trans hnce')]
  | some kind' =>
    obtain rfl := hkind kind' hstate
    exact (h.key_eq_iff hnce hstate ht).symm

theorem timerKind_of_ne_incomplete {r : ReachabilityState} (hr : r ≠ .incomplete)
    (kind : TimerKind) (hkind : r.timerKind = some kind) : kind = .nud := by
  cases r <;> simp_all [ReachabilityState.timerKind]

/-! ### Entries that come and go -/

theorem insert_eq (hnone : s.neighbourMap key = none) :
    s.insert key nce = .ok { s.setEntry key { nce with oid := s.nextNeighbour } with
      nextNeighbour := s.nextNeighbour + 1 } := by
  unfold IPv6NeighbourDiscovery.insert
  rw [if_neg (by simp [hnone])]
  rfl

/-- An entry is created without a timer. -/
theorem Inv.insert (h : Inv s) (hnone : s.neighbourMap key = none) (nce : Neighbour)
    (htimer : ∀ kind, nce.timer kind = none) (hstate : nce.reachabilityState.timerKind = none)
    (hpending : nce.pendingPackets = []) :
    ∃ s', s.insert key nce = .ok s' ∧ Inv s' ∧ Holds s s' ∧
      s'.neighbourMap key = some { nce with oid := s.nextNeighbour } ∧
      s'.defaultRouterList = s.defaultRouterList := by
  refine ⟨_, insert_eq hnone, and_assoc.1
    ⟨h.update key [] (o := some { nce with oid := s.nextNeighbour }) ?_ rfl
      (append_nil _).symm (fun _ => silent_nil _) (fun e he => ?_) hpending, ?_, rfl⟩⟩
  · refine h.timed.stop rfl (fun m t => ?_) rfl (List.Sublist.refl _) ?_ (by simp)
    · refine (and_iff_left_of_imp fun ht => h.timed.key_ne (fun e he => ?_) ht).symm
      rw [hnone] at he
      cases he
    · rintro _ ⟨rfl⟩
      exact ⟨htimer, hstate, hpending⟩
  · rw [hnone] at he
    cases he
  · exact update_self ..

theorem Inv.addNeighbour (h : Inv s) (hnone : s.neighbourMap key = none) (mac : MACAddress) :
    ∃ s', s.addNeighbour key mac = .ok s' ∧ Inv s' ∧ Holds s s' ∧
      ∃ nce, s'.neighbourMap key = some nce ∧ nce.reachabilityState = .stale := by
  obtain ⟨s', hs', hinv, hholds, hnce, -⟩ := h.insert hnone
    { macAddress := mac, reachabilityState := .stale }
    (by rintro (_ | _) <;> rfl) rfl rfl
  exact ⟨s', hs', hinv, hholds, _, hnce, rfl⟩

/-- A neighbour becomes a default router. -/
theorem Inv.appendRouter (h : Inv s) (hnce : s.neighbourMap key = some nce)
    (hinc : nce.reachabilityState ≠ .incomplete) (hkey : key ∉ s.defaultRouterList) :
    Inv { s with defaultRouterList := s.defaultRouterList ++ [key] } := by
  obtain ⟨⟨hentries, hmessages, hnodup, hrouter⟩, hqueued⟩ := h
  refine ⟨⟨fun k e he => ?_, hmessages, ?_, fun k hk => ?_⟩, hqueued⟩
  · obtain ⟨h1, h2, h3, h4⟩ := hentries k e he
    exact ⟨h1, h2, h3, h4⟩
  · refine nodup_append.2 ⟨hnodup, nodup_singleton _, fun a ha b hb => ?_⟩
    rw [mem_singleton.1 hb]
    rintro rfl
    exact hkey ha
  · obtain hk | hk := mem_append.1 hk
    · exact hrouter k hk
    · rw [mem_singleton.1 hk]
      exact ⟨nce, hnce, hinc⟩

theorem Inv.addRouter (h : Inv s) (hnone : s.neighbourMap key = none) (mac : MACAddress)
    (expiry : ℤ) (homeAgent : Bool) :
    ∃ s', s.addRouter key mac expiry homeAgent = .ok s' ∧ Inv s' ∧ Holds s s' := by
  obtain ⟨s₁, hs1, hinv, hholds, hnce, hrouters⟩ := h.insert hnone
    {
      macAddress := mac, isRouter := true, isHomeAgent := homeAgent, reachabilityState := .stale,
      routerExpiryTime := expiry }
    (by rintro (_ | _) <;> rfl) rfl rfl
  refine ⟨_, by rw [IPv6NeighbourDiscovery.addRouter, hs1]; rfl,
    hinv.appendRouter hnce (by simp) ?_,
    hholds.trans (.of_eq rfl rfl)⟩
  rw [hrouters]
  intro hmem
  obtain ⟨e, he, -⟩ := h.timed.router key hmem
  rw [hnone] at he
  cases he

/-- An entry that is not incomplete is removed. -/
theorem Inv.remove (h : Inv s) (hnce : s.neighbourMap key = some nce)
    (hinc : nce.reachabilityState ≠ .incomplete) :
    ∃ s', s.remove key = .ok s' ∧ Inv s' ∧ Holds s s' ∧ s'.now = s.now ∧
      s'.neighbourMap = Function.update s.neighbourMap key none ∧
      s'.defaultRouterList = s.defaultRouterList.erase key := by
  refine ⟨_, by rw [IPv6NeighbourDiscovery.remove, hnce]; rfl, and_assoc.1
    ⟨h.update key [] (o := none) ?_ rfl (by simp) (fun _ => silent_nil _)
      (fun e he => ?_) rfl, by simp, rfl, rfl⟩⟩
  · exact h.timed.stop (o := none) rfl
      (fun m t => h.timed.cancel_iff .nud hnce (timerKind_of_ne_incomplete hinc))
      (by simp) erase_sublist (by simp) fun _ => h.timed.nodup.not_mem_erase
  · rwa [← Option.some.inj (hnce.symm.trans he)]

/-! ### Timers -/

theorem Inv.initiateNeighbourUnreachabilityDetection (h : Inv s) (ift : ℤ → Interface)
    (hnce : s.neighbourMap key = some nce) (hidle : nce.reachabilityState.timerKind = none)
    (hstate : e.reachabilityState = .stale) (he : { e with reachabilityState := r } = nce) :
    ∃ s', s.initiateNeighbourUnreachabilityDetection ift key e = .ok s' ∧ Inv s' ∧ Holds s s' := by
  subst he
  have hentry := h.timed.entries key _ hnce
  have hinc : r ≠ .incomplete := by
    rintro rfl
    cases hidle
  refine ⟨_, if_neg (not_not_intro hstate), h.update key [] ?_ rfl
    (append_nil _).symm (fun _ => silent_nil _) (fun e' he' => ?_) (hentry.waiting hinc)⟩
  · refine h.timed.start .nud (fun e' he' => ?_) rfl rfl (by simp [scheduleAfter]) rfl
      (fun kind => ?_) rfl (by simp) (hentry.waiting hinc) (by simp)
    · rwa [← Option.some.inj (hnce.symm.trans he')]
    · cases kind with
      | nud => rfl
      | ar => exact hentry.timer_eq_none .ar (by rw [hidle]; simp)
  · rwa [← Option.some.inj (hnce.symm.trans he')]

/-- A neighbour is probed once more or given up. -/
theorem Inv.probeOrRemove (h : Inv s) (hnce : s.neighbourMap key = some nce)
    (hmsg : nce.nudTimeoutEvent = some msg) (hmap : s₁.neighbourMap =
      Function.update s.neighbourMap key (some e))
    (hscheduled : s₁.scheduled = (s.cancelAndDelete (some msg)).scheduled)
    (hnext : s₁.nextMsg = s.nextMsg) (hrouters : s₁.defaultRouterList = s.defaultRouterList)
    (hlog : s₁.log = s.log) (hoid : e.oid = nce.oid) (htimer : e.timer = nce.timer)
    (hstate : e.reachabilityState.timerKind = some .nud) (hmac : e.macAddress = nce.macAddress)
    (hpending : e.pendingPackets = nce.pendingPackets) :
    ∃ s', s₁.probeOrRemove ift msg key e = .ok s' ∧ Inv s' ∧ Holds s s' := by
  have hentry := h.timed.entries key nce hnce
  have hkind : nce.reachabilityState.timerKind = some .nud :=
    (hentry.isSome_iff .nud).1 (by rw [Neighbour.timer, hmsg]; rfl)
  have hinc : nce.reachabilityState ≠ .incomplete := fun heq => by
    rw [heq] at hkind
    cases hkind
  have hidle : ∀ nce', s.neighbourMap key = some nce' → nce'.reachabilityState ≠ .incomplete :=
    fun nce' hnce' => by rwa [← Option.some.inj (hnce.symm.trans hnce')]
  have hmap1 : s₁.neighbourMap key = some e := by rw [hmap, update_self]
  unfold IPv6NeighbourDiscovery.probeOrRemove
  dsimp only
  split_ifs
  · refine ⟨_, by rw [IPv6NeighbourDiscovery.remove, hmap1]; rfl, h.update key []
      (o := none) ?_ (by simp [hmap]) (by simp [hlog]) (fun _ => silent_nil _) hidle rfl⟩
    refine h.timed.stop (o := none) (by simp [hmap]) (fun m t => ?_) (by simp [hnext])
      (hrouters ▸ erase_sublist) (by simp) fun _ => (hrouters ▸ h.timed.nodup).not_mem_erase
    rw [← h.timed.cancel_iff .nud hnce (timerKind_of_ne_incomplete hinc)]
    -- the timer has been taken out before
    have hnud : e.nudTimeoutEvent = some msg := (congrFun htimer .nud).trans hmsg
    rw [hnud, Neighbour.timer, hmsg]
    exact cancelAndDelete_eq_some.trans ((congrArg (· m = some t ∧ _) hscheduled).to_iff.trans
      (and_iff_left_of_imp fun ht => (cancelAndDelete_eq_some.1 ht).2))
  · obtain ⟨time, htime⟩ := hentry.scheduled .nud msg hmsg
    have hlt := (h.timed.messages msg _ htime).1
    have hmap' : Function.update s₁.neighbourMap key
        (some { e with numProbesSent := e.numProbesSent + 1 }) = Function.update s.neighbourMap key
        (some { e with numProbesSent := e.numProbesSent + 1 }) := by
      rw [hmap, update_idem]
    have hscheduled' : Function.update s₁.scheduled msg
        (some ⟨.nud, s₁.now + (ift key.interfaceID).retransTimer, ⟨key, e.oid⟩⟩) =
        Function.update s.scheduled msg
        (some ⟨.nud, s₁.now + (ift key.interfaceID).retransTimer, ⟨key, nce.oid⟩⟩) := by
      rw [hscheduled, hoid]
      exact update_idem ..
    refine ⟨_, rfl, h.touch ?_ hnce hmap' (congrArg (· ++ _) hlog) (fun _ => silent_solicited ..)
      hoid (fun heq => absurd heq hinc) hpending⟩
    refine h.timed.restart hnce .nud hmsg hmap' hscheduled' ?_ hrouters hoid htimer
      (hstate.trans hkind.symm) hmac hpending
    simp only [scheduleAfter, emit, setEntry, hnext]
    omega

variable {p : NeighbourPtr}

theorem Inv.processNUDTimeout (h : Inv s) (ift : ℤ → Interface)
    (hnce : s.neighbourMap p.key = some nce) (hoid : nce.oid = p.oid)
    (hmsg : nce.nudTimeoutEvent = some msg) :
    ∃ s', (s.cancelAndDelete (some msg)).processNUDTimeout ift msg p = .ok s' ∧ Inv s' ∧
      Holds s s' := by
  have hkind : nce.reachabilityState.timerKind = some .nud :=
    ((h.timed.entries p.key nce hnce).isSome_iff .nud).1 (by rw [Neighbour.timer, hmsg]; rfl)
  have hderef : (s.cancelAndDelete (some msg)).deref p = .ok nce := by
    unfold deref
    rw [cancelAndDelete_neighbourMap, hnce]
    exact if_pos hoid
  unfold IPv6NeighbourDiscovery.processNUDTimeout
  rw [hderef, ok_bind]
  split_ifs
  · exact h.probeOrRemove hnce hmsg (e := { nce with
      reachabilityState := .probe, numProbesSent := 0 }) rfl rfl rfl rfl rfl rfl rfl rfl rfl rfl
  · refine h.probeOrRemove hnce hmsg (e := nce) ?_ rfl rfl rfl rfl rfl rfl hkind rfl rfl
    rw [← hnce, update_eq_self]
    rfl

/-- What happens to the datagrams that wait at an incomplete entry: they go on waiting, or they are
sent as the address becomes known, or they are reported as the entry is removed. -/
inductive Handled (s s' : IPv6NeighbourDiscovery) (key : Key) (nce : Neighbour) : Prop
  | waits (h : Waits s s' key nce)
  | resolved (nce' : Neighbour) (hnce' : s'.neighbourMap key = some nce')
      (hstate : nce'.reachabilityState ≠ .incomplete)
      (hmac : nce'.macAddress.isUnspecified = false)
      (hlog : s'.log = s.log ++ nce.pendingPackets.map fun d => .dequeued d key)
  | failed (hgone : s'.neighbourMap key = none)
      (hlog : s'.log = s.log ++ nce.pendingPackets.map fun d => .unreachable d key)

def Handles (s s' : IPv6NeighbourDiscovery) : Prop :=
  ∀ key nce, s.neighbourMap key = some nce → nce.reachabilityState = .incomplete →
    Handled s s' key nce

theorem Holds.handles (h : Holds s s') : Handles s s' :=
  fun key nce hnce hinc => .waits (h key nce hnce hinc)

theorem handles_update (hmap : s'.neighbourMap = Function.update s.neighbourMap key o)
    (hlog : s'.log = s.log ++ outs) (hsilent : ∀ k, k ≠ key → Silent k outs)
    (hkey : ∀ nce, s.neighbourMap key = some nce → nce.reachabilityState = .incomplete →
      Handled s s' key nce) : Handles s s' := by
  intro k nce hnce hinc
  by_cases hk : k = key
  · subst hk
    exact hkey nce hnce hinc
  · exact .waits ⟨⟨nce, by rw [hmap, update_of_ne hk, hnce], rfl, hinc⟩, outs, hlog,
      (hsilent k hk).2⟩

theorem timerKind_of_incomplete {r : ReachabilityState} (hr : r = .incomplete)
    (kind : TimerKind) (hkind : r.timerKind = some kind) : kind = .ar := by
  subst hr
  exact (Option.some.inj hkind).symm

/-- The resolution of an address fails. -/
theorem Inv.dropQueuedPacketsAwaitingAR (h : Inv s) (hnce : s.neighbourMap key = some nce)
    (hinc : nce.reachabilityState = .incomplete) (hmsg : nce.arTimer = some msg) :
    ∃ s', (s.cancelAndDelete (some msg)).dropQueuedPacketsAwaitingAR key nce = .ok s' ∧ Inv s' ∧
      Handles s s' := by
  have hnud : nce.nudTimeoutEvent = none :=
    (h.timed.entries key nce hnce).timer_eq_none .nud (by rw [hinc]; simp [
      ReachabilityState.timerKind])
  have hsilent : ∀ k, k ≠ key →
      Silent k (nce.pendingPackets.map fun d => Output.unreachable d key) := fun k hk =>
    ⟨queuedAt_map_unreachable .., (leftAt_map_unreachable ..).trans (if_neg (Ne.symm hk))⟩
  refine ⟨{ s.cancelAndDelete (some msg) with
      neighbourMap := Function.update s.neighbourMap key none
      defaultRouterList := s.defaultRouterList.erase key
      log := s.log ++ nce.pendingPackets.map fun d => .unreachable d key }, ?_, ⟨?_, ?_⟩, ?_⟩
  · unfold IPv6NeighbourDiscovery.dropQueuedPacketsAwaitingAR IPv6NeighbourDiscovery.remove
    simp [emit, hnce, hnud, cancelAndDelete]
  · refine h.timed.stop (o := none) rfl (fun m t => ?_) rfl erase_sublist (by simp)
      fun _ => h.timed.nodup.not_mem_erase
    rw [← h.timed.cancel_iff .ar hnce (timerKind_of_incomplete hinc), Neighbour.timer, hmsg]
  · refine h.queued.update (o := none) rfl rfl hsilent ?_
    rw [queuedAt_map_unreachable, leftAt_map_unreachable, if_pos rfl, hnce]
    rfl
  · refine handles_update (o := none) rfl rfl hsilent fun nce' hnce' _ => ?_
    cases hnce.symm.trans hnce'
    exact .failed (update_self ..) rfl

theorem Inv.processARTimeout (h : Inv s) (hnce : s.neighbourMap p.key = some nce)
    (hoid : nce.oid = p.oid) (hmsg : nce.arTimer = some msg) :
    ∃ s', (s.cancelAndDelete (some msg)).processARTimeout ift msg p = .ok s' ∧ Inv s' ∧
      Handles s s' := by
  have hentry := h.timed.entries p.key nce hnce
  have hinc : nce.reachabilityState = .incomplete := ReachabilityState.timerKind_eq_ar.1
    ((hentry.isSome_iff .ar).1 (by rw [Neighbour.timer, hmsg]; rfl))
  have hderef : (s.cancelAndDelete (some msg)).deref p = .ok nce := by
    unfold deref
    rw [cancelAndDelete_neighbourMap, hnce]
    exact if_pos hoid
  unfold IPv6NeighbourDiscovery.processARTimeout
  rw [hderef, ok_bind]
  dsimp only
  split_ifs
  · obtain ⟨time, htime⟩ := hentry.scheduled .ar msg hmsg
    have hlt := (h.timed.messages msg _ htime).1
    have hscheduled : Function.update (s.cancelAndDelete (some msg)).scheduled msg
        (some ⟨.ar, s.now + (ift p.key.interfaceID).retransTimer, p⟩) =
        Function.update s.scheduled msg
        (some ⟨.ar, s.now + (ift p.key.interfaceID).retransTimer, ⟨p.key, nce.oid⟩⟩) := by
      rw [hoid]
      exact update_idem ..
    have htimed : Timed (((s.cancelAndDelete (some msg)).setEntry p.key { nce with
        numOfARNSSent := nce.numOfARNSSent + 1 }).emit
        [.solicited p.key.address p.key.address.formSolicitedNodeMulticastAddress nce.nsSrcAddr
          p.key.interfaceID] |>.scheduleAfter (ift p.key.interfaceID).retransTimer msg .ar p) := by
      refine h.timed.restart hnce .ar hmsg rfl hscheduled ?_ rfl rfl rfl rfl rfl rfl
      simp only [scheduleAfter, emit, setEntry, cancelAndDelete]
      omega
    obtain ⟨hinv, hholds⟩ := h.touch htimed hnce rfl rfl (fun _ => silent_solicited ..) rfl id rfl
    exact ⟨_, rfl, hinv, hholds.handles⟩
  · exact h.dropQueuedPacketsAwaitingAR hnce hinc hmsg

theorem Inv.handleSelfMessage (h : Inv s) (ht : s.scheduled msg = some t) :
    ∃ s', s.handleSelfMessage ift msg = .ok s' ∧ Inv s' ∧ Handles s s' := by
  obtain ⟨-, nce, hnce, hoid, htimer⟩ := h.timed.messages msg t ht
  unfold IPv6NeighbourDiscovery.handleSelfMessage
  rw [ht]
  dsimp only
  cases hkind : t.kind with
  | nud =>
    rw [hkind] at htimer
    obtain ⟨s', hs', hinv, hholds⟩ := h.processNUDTimeout ift hnce hoid htimer
    exact ⟨s', hs', hinv, hholds.handles⟩
  | ar =>
    rw [hkind] at htimer
    exact h.processARTimeout hnce hoid htimer

/-! ### Next hops -/

/-- The router at the key has expired. -/
def expired (s : IPv6NeighbourDiscovery) (key : Key) : Bool :=
  match s.neighbourMap key with
  | none => false
  | some nce => nce.routerExpiryTime < s.now

/-- The next hop for a destination: for lack of a route the first default router that has not
expired. -/
def nextHop (s : IPv6NeighbourDiscovery) (destAddr : IPv6Address)
    (route : Option (IPv6Address × ℤ)) : Option Key :=
  match route with
  | some (nextHop, interfaceId) =>
    if interfaceId = -1 then none
    else some ⟨if nextHop.isUnspecified then destAddr else nextHop, interfaceId⟩
  | none => s.defaultRouterList.find? fun key => !s.expired key

theorem Inv.setHeadBehind (h : Inv s) (key : Key) :
    Inv (s.setHeadBehind key) ∧ Holds s (s.setHeadBehind key) := by
  obtain ⟨⟨hentries, hmessages, hnodup, hrouter⟩, hqueued⟩ := h
  refine ⟨⟨⟨fun k e he => ?_, hmessages, nodup_rotate.2 hnodup, fun k hk =>
    hrouter k (mem_rotate.1 hk)⟩, hqueued⟩, .of_eq rfl rfl⟩
  obtain ⟨h1, h2, h3, h4⟩ := hentries k e he
  exact ⟨h1, h2, h3, h4⟩

variable {rest : List Key}

theorem nextDefaultRouter_eq (hlist : s.defaultRouterList = key :: rest) :
    s.nextDefaultRouter key = some (rest.headD key) := by
  unfold nextDefaultRouter
  rw [hlist, idxOf_cons_self, rotate_cons_succ, rotate_zero]
  cases rest <;> rfl

variable {start : Key} {fuel : ℕ}

theorem selectLoop_of_live (hnce : s.neighbourMap key = some nce)
    (hinc : nce.reachabilityState ≠ .incomplete) (hlive : s.expired key = false) :
    selectLoop start (fuel + 1) (some key) s = .ok (some key, s.setHeadBehind key) := by
  have hlt : ¬nce.routerExpiryTime < s.now := by simpa [expired, hnce] using hlive
  unfold selectLoop
  rw [hnce]
  dsimp only
  rw [if_neg hlt, if_pos hinc]
  rfl

theorem selectLoop_of_expired (hnce : s.neighbourMap key = some nce)
    (hexpired : s.expired key = true) (hremove : s.remove key = .ok s') :
    selectLoop start (fuel + 1) (some key) s =
      selectLoop start fuel (if s.nextDefaultRouter key = some start then none
        else s.nextDefaultRouter key) s' := by
  have hlt : nce.routerExpiryTime < s.now := by simpa [expired, hnce] using hexpired
  rw [selectLoop, hnce]
  dsimp only
  rw [if_pos hlt, hremove, ok_bind]

theorem expired_eq_of_remove (hnow : s'.now = s.now)
    (hmap : s'.neighbourMap = Function.update s.neighbourMap key none) (hne : k ≠ key) :
    s'.expired k = s.expired k := by
  unfold expired
  rw [hmap, update_of_ne hne, hnow]

/-- The default routers that have expired are removed up to the first one that has not. -/
theorem Inv.selectLoop (h : Inv s) (fuel : ℕ) (hlist : s.defaultRouterList = key :: rest)
    (hstart : start ∉ rest)
    (hlive : start = key ∧ rest = [] ∨ ∃ k ∈ key :: rest, s.expired k = false)
    (hfuel : rest.length + 1 < fuel) :
    ∃ s', selectLoop start fuel (some key) s =
        .ok ((key :: rest).find? fun k => !s.expired k, s') ∧
      Inv s' ∧ Holds s s' ∧ (∀ k, s.expired k = false → s'.neighbourMap k = s.neighbourMap k) ∧
      ((∀ k ∈ key :: rest, s.expired k = true) → s'.defaultRouterList = []) := by
  induction fuel generalizing s key rest with
  | zero => omega
  | succ fuel ih =>
    obtain ⟨nce, hnce, hinc⟩ := h.timed.router key (by simp [hlist])
    cases hexpired : s.expired key with
    | false =>
      obtain ⟨hinv, hholds⟩ := h.setHeadBehind key
      rw [selectLoop_of_live hnce hinc hexpired]
      refine ⟨_, by simp [hexpired], hinv, hholds, fun _ _ => rfl, fun hall => ?_⟩
      rw [hall key (by simp)] at hexpired
      cases hexpired
    | true =>
      obtain ⟨s₁, hs1, hinv1, hholds1, hnow, hmap, hrouters⟩ := h.remove hnce hinc
      rw [hlist, erase_cons_head] at hrouters
      have hkey : ∀ {k}, s.expired k = false → k ≠ key := by
        rintro k hk rfl
        rw [hk] at hexpired
        cases hexpired
      cases rest with
      | nil =>
        have hnext : s.nextDefaultRouter key = some start := by
          rw [nextDefaultRouter_eq hlist]
          obtain ⟨rfl, -⟩ | ⟨k, hk, hlive⟩ := hlive
          · rfl
          · exact absurd (mem_singleton.1 hk) (hkey hlive)
        rw [selectLoop_of_expired hnce hexpired hs1, if_pos hnext]
        refine ⟨s₁, ?_, hinv1, hholds1, fun k hk => ?_, fun _ => hrouters⟩
        · cases fuel <;> simp [IPv6NeighbourDiscovery.selectLoop, hexpired]
        · rw [hmap, update_of_ne (hkey hk)]
      | cons k2 rest =>
        have hnodup := h.timed.nodup
        rw [hlist, nodup_cons] at hnodup
        have hsame : ∀ k ∈ k2 :: rest, s₁.expired k = s.expired k := fun k hk =>
          expired_eq_of_remove hnow hmap fun heq => hnodup.1 (heq ▸ hk)
        have hnext : s.nextDefaultRouter key = some k2 := nextDefaultRouter_eq hlist
        have hlive' : ∃ k ∈ k2 :: rest, s₁.expired k = false := by
          obtain ⟨-, hnil⟩ | ⟨k, hk, hlive⟩ := hlive
          · cases hnil
          · have hk := (mem_cons.1 hk).resolve_left (hkey hlive)
            exact ⟨k, hk, by rw [hsame k hk, hlive]⟩
        obtain ⟨s', hs', hinv, hholds, hkeep, hnil⟩ := ih hinv1 hrouters
          (fun hmem => hstart (mem_cons_of_mem _ hmem)) (.inr hlive')
          (by simp only [length_cons] at hfuel; omega)
        have hne : ¬some k2 = some start := fun heq => hstart (by simp [Option.some.inj heq])
        rw [selectLoop_of_expired hnce hexpired hs1, hnext, if_neg hne, hs']
        refine ⟨s', ?_, hinv, hholds1.trans hholds, fun k hk => ?_, fun hall => hnil fun k hk => ?_⟩
        · rw [find?_cons_of_neg (l := k2 :: rest) (a := key) (by simp [hexpired])]
          refine congrArg (fun o => Except.ok (o, s')) (find?_congr fun k hk => ?_)
          rw [hsame k hk]
        · rw [hkeep k (by rw [expired_eq_of_remove hnow hmap (hkey hk), hk]), hmap,
            update_of_ne (hkey hk)]
        · rw [hsame k hk]
          exact hall k (mem_cons_of_mem _ hk)

variable {route : Option (IPv6Address × ℤ)}

theorem Inv.determineNextHop (h : Inv s) (destAddr : IPv6Address)
    (hlive : route = none → s.defaultRouterList.length ≤ 1 ∨
      ∃ k ∈ s.defaultRouterList, s.expired k = false) :
    ∃ s', s.determineNextHop destAddr route = .ok (s.nextHop destAddr route, s') ∧ Inv s' ∧
      Holds s s' ∧ ∀ k, s.nextHop destAddr route = some k →
        s'.neighbourMap k = s.neighbourMap k := by
  have hrefl : Holds s s := .of_eq rfl rfl
  unfold IPv6NeighbourDiscovery.determineNextHop IPv6NeighbourDiscovery.nextHop
  cases route with
  | some route =>
    dsimp only
    split_ifs <;> exact ⟨s, rfl, h, hrefl, fun _ _ => rfl⟩
  | none =>
    unfold selectDefaultRouter
    dsimp only
    cases hlist : s.defaultRouterList with
    | nil => exact ⟨s, rfl, h, hrefl, fun k hk => by cases hk⟩
    | cons start rest =>
      have hnodup : start ∉ rest ∧ rest.Nodup := by
        rw [← nodup_cons, ← hlist]
        exact h.timed.nodup
      have hlive' : start = start ∧ rest = [] ∨ ∃ k ∈ start :: rest, s.expired k = false := by
        obtain hlength | hlive := hlive rfl
        · rw [hlist, length_cons] at hlength
          exact .inl ⟨rfl, eq_nil_of_length_eq_zero (by omega)⟩
        · exact .inr (hlist ▸ hlive)
      obtain ⟨s', hs', hinv, hholds, hkeep, hnil⟩ :=
        h.selectLoop (rest.length + 2) hlist hnodup.1 hlive' (by omega)
      dsimp only
      rw [hs', ok_bind]
      cases hfind : (start :: rest).find? fun k => !s.expired k with
      | some k =>
        refine ⟨s', rfl, hinv, hholds, fun k' hk' => hkeep k' ?_⟩
        cases hk'
        simpa using find?_some (p := fun k => !s.expired k) hfind
      | none =>
        have hall : ∀ k ∈ start :: rest, s.expired k = true := fun k hk => by
          simpa using find?_eq_none.1 hfind k hk
        refine ⟨s', ?_, hinv, hholds, fun k hk => by cases hk⟩
        dsimp only
        rw [hnil hall]
        rfl

/-! ### Datagrams -/

theorem Inv.createEntry (h : Inv s) (ift : ℤ → Interface) (hnone : s.neighbourMap key = none)
    (d : IPv6Datagram) :
    ∃ s', s.createEntry ift d key = .ok s' ∧ Inv s' ∧ Holds s s' ∧
      ∃ nce, s'.neighbourMap key = some nce ∧ nce.reachabilityState ≠ .probe := by
  have hidle : ∀ nce, s.neighbourMap key = some nce → nce.reachabilityState.timerKind = none :=
    fun nce hnce => by simp [hnone] at hnce
  unfold IPv6NeighbourDiscovery.createEntry
  split_ifs
  · obtain ⟨s', hs', hinv, hholds, nce, hnce, hstale⟩ := h.addNeighbour hnone .unspecifiedAddress
    exact ⟨s', hs', hinv, hholds, nce, hnce, by simp [hstale]⟩
  · rw [addIncomplete, insert_eq hnone, ok_bind]
    dsimp only [setEntry]
    rw [update_self]
    -- the entry and its timer are created together
    refine ⟨_, rfl, and_assoc.1 ⟨h.update key _ ?_ (update_idem ..) rfl
      (fun _ => silent_solicited ..) (fun nce hnce => ?_) rfl, _, update_self .., by simp⟩⟩
    · refine h.timed.start .ar hidle (update_idem ..) rfl
        (by simp [initiateAddressResolution, scheduleAfter]) rfl
        (by rintro (_ | _) <;> rfl) rfl (fun _ => rfl) rfl fun hmem => ?_
      obtain ⟨nce, hnce, -⟩ := h.timed.router key hmem
      rw [hnone] at hnce
      cases hnce
    · rw [hnone] at hnce
      cases hnce

theorem Inv.emit (h : Inv s) (outs : List Output) (hsilent : ∀ k, Silent k outs) :
    Inv (s.emit outs) ∧ Holds s (s.emit outs) := by
  obtain ⟨⟨hentries, hmessages, hnodup, hrouter⟩, hqueued⟩ := h
  refine ⟨⟨⟨fun k e he => ?_, hmessages, hnodup, hrouter⟩, fun k => ?_⟩, fun k e he hinc =>
    ⟨⟨e, he, rfl, hinc⟩, outs, rfl, (hsilent k).2⟩⟩
  · obtain ⟨h1, h2, h3, h4⟩ := hentries k e he
    exact ⟨h1, h2, h3, h4⟩
  · have hq := (hsilent k).1
    have hl := (hsilent k).2
    unfold queuedAt at hq
    unfold leftAt at hl
    unfold queuedAt leftAt IPv6NeighbourDiscovery.emit
    rw [filterMap_append, filterMap_append, hq, hl, append_nil, append_nil]
    exact hqueued k

theorem Inv.forward (h : Inv s) (ift : ℤ → Interface) (hnce : s.neighbourMap key = some nce)
    (hprobe : nce.reachabilityState ≠ .probe) (d : IPv6Datagram) :
    ∃ s', s.forward ift d key = .ok s' ∧ Inv s' ∧ Holds s s' := by
  unfold IPv6NeighbourDiscovery.forward
  rw [hnce]
  dsimp only
  obtain ⟨hinv, hholds⟩ := h.emit [.sent d key] fun _ => silent_sent ..
  cases hstate : nce.reachabilityState with
  | incomplete =>
    have hentry := h.timed.entries key nce hnce
    have hsilent : ∀ k, k ≠ key → Silent k [.queued d key] := fun k hk => silent_queued hk d
    refine ⟨_, rfl, ⟨h.timed.modify hnce rfl rfl rfl (List.Sublist.refl _) rfl rfl
      (by rw [hstate]) (fun _ => hentry.unresolved hstate) (fun hne => absurd rfl hne),
      h.queued.update rfl rfl hsilent ?_⟩, .update rfl rfl hsilent fun nce' hnce' _ => ?_⟩
    · rw [hnce]
      simp [waitingAt, queuedAt, leftAt, Output.queuedAt?, Output.leftAt?]
    · cases hnce.symm.trans hnce'
      exact ⟨rfl, _, rfl, rfl, rfl⟩
  | stale =>
    obtain ⟨s', hs', hinv', hholds'⟩ := hinv.initiateNeighbourUnreachabilityDetection ift
      (e := nce) (r := .stale) hnce (by rw [hstate]; rfl) hstate (by rw [← hstate])
    exact ⟨s', hs', hinv', hholds.trans hholds'⟩
  | reachable => exact ⟨_, rfl, hinv, hholds⟩
  | delay => exact ⟨_, rfl, hinv, hholds⟩
  | probe => exact absurd hstate hprobe

theorem Inv.processIPv6Datagram (h : Inv s) {d : IPv6Datagram}
    (hlive : route = none → s.defaultRouterList.length ≤ 1 ∨
      ∃ k ∈ s.defaultRouterList, s.expired k = false)
    (hprobe : ∀ key nce, s.nextHop d.destAddress route = some key →
      s.neighbourMap key = some nce → nce.reachabilityState ≠ .probe) :
    ∃ s', s.processIPv6Datagram ift d route = .ok s' ∧ Inv s' ∧ Holds s s' := by
  obtain ⟨s₁, hs1, hinv1, hholds1, hsame⟩ := h.determineNextHop d.destAddress hlive
  unfold IPv6NeighbourDiscovery.processIPv6Datagram
  rw [hs1, ok_bind]
  cases hhop : s.nextHop d.destAddress route with
  | none =>
    obtain ⟨hinv, hholds⟩ := hinv1.emit [.noRoute d] fun _ => ⟨rfl, rfl⟩
    exact ⟨_, rfl, hinv, hholds1.trans hholds⟩
  | some key =>
    dsimp only
    cases hnce : s₁.neighbourMap key with
    | none =>
      obtain ⟨s2, hs2, hinv2, hholds2, nce, hnce2, hprobe2⟩ := hinv1.createEntry ift hnce d
      obtain ⟨s', hs', hinv', hholds'⟩ := hinv2.forward ift hnce2 hprobe2 d
      rw [if_pos (Option.isNone_iff_eq_none.2 rfl), hs2, ok_bind]
      exact ⟨s', hs', hinv', (hholds1.trans hholds2).trans hholds'⟩
    | some nce =>
      rw [if_neg (by simp)]
      obtain ⟨s', hs', hinv', hholds'⟩ := hinv1.forward ift hnce
        (hprobe key nce hhop (hsame key hhop ▸ hnce)) d
      exact ⟨s', hs', hinv', hholds1.trans hholds'⟩

theorem Inv.resolveNeighbour (h : Inv s) (key : Key) :
    ∃ s', s.resolveNeighbour ift key = .ok s' ∧ Inv s' ∧ Holds s s' := by
  have hrefl : Holds s s := .of_eq rfl rfl
  unfold IPv6NeighbourDiscovery.resolveNeighbour
  cases hnce : s.neighbourMap key with
  | none => exact ⟨s, rfl, h, hrefl⟩
  | some nce =>
    dsimp only
    cases hstate : nce.reachabilityState with
    | incomplete => exact ⟨s, rfl, h, hrefl⟩
    | stale =>
      exact h.initiateNeighbourUnreachabilityDetection ift (r := .stale) hnce (by rw [hstate]; rfl)
        hstate (by rw [← hstate])
    | reachable =>
      dsimp only
      split_ifs
      · exact h.initiateNeighbourUnreachabilityDetection ift (r := .reachable) hnce
          (by rw [hstate]; rfl) rfl (by rw [← hstate])
      · exact ⟨s, rfl, h, hrefl⟩
    | delay => exact ⟨s, rfl, h, hrefl⟩
    | probe => exact ⟨s, rfl, h, hrefl⟩

/-! ### Messages of neighbour discovery -/

theorem timerKind_eq_none_or {r : ReachabilityState} (hr : r ≠ .incomplete) :
    r.timerKind = none ∨ r.timerKind = some .nud := by
  cases r with
  | incomplete => exact absurd rfl hr
  | reachable => exact .inl rfl
  | stale => exact .inl rfl
  | delay => exact .inr rfl
  | probe => exact .inr rfl

/-- An entry that is not incomplete changes while its timer stays. -/
theorem Inv.modify (h : Inv s) (hnce : s.neighbourMap key = some nce)
    (hmap : s'.neighbourMap = Function.update s.neighbourMap key (some e))
    (hscheduled : s'.scheduled = s.scheduled) (hnext : s'.nextMsg = s.nextMsg)
    (hrouters : s'.defaultRouterList.Sublist s.defaultRouterList) (hlog : s'.log = s.log)
    (hoid : e.oid = nce.oid) (htimer : e.timer = nce.timer)
    (hstate : e.reachabilityState.timerKind = nce.reachabilityState.timerKind)
    (hmac : nce.reachabilityState = .incomplete → e.macAddress = nce.macAddress)
    (hpending : e.pendingPackets = nce.pendingPackets) : Inv s' ∧ Holds s s' := by
  have hentry := h.timed.entries key nce hnce
  have hinc : e.reachabilityState = .incomplete ↔ nce.reachabilityState = .incomplete := by
    rw [← ReachabilityState.timerKind_eq_ar, hstate, ReachabilityState.timerKind_eq_ar]
  refine h.touch (h.timed.modify hnce hmap hscheduled hnext hrouters hoid htimer hstate
    (fun heq => ?_) fun hne => ?_) hnce hmap (by rw [hlog, append_nil]) (fun _ => silent_nil _)
    hoid hinc.2 hpending
  · rw [hmac (hinc.1 heq), hentry.unresolved (hinc.1 heq)]
  · rw [hpending, hentry.waiting fun heq => hne (hinc.2 heq)]

theorem Inv.change (h : Inv s) (hnce : s.neighbourMap key = some nce) (e : Neighbour)
    (hoid : e.oid = nce.oid) (htimer : e.timer = nce.timer)
    (hstate : e.reachabilityState.timerKind = nce.reachabilityState.timerKind)
    (hmac : nce.reachabilityState = .incomplete → e.macAddress = nce.macAddress)
    (hpending : e.pendingPackets = nce.pendingPackets) :
    Inv (s.setEntry key e) ∧ Holds s (s.setEntry key e) :=
  h.modify hnce rfl rfl rfl (List.Sublist.refl _) rfl hoid htimer hstate hmac hpending

theorem Inv.processNSPacket (h : Inv s) {ns : IPv6NeighbourSolicitation}
    (hidle : ns.srcAddr.isUnspecified = false → ∀ entry,
      s.neighbourMap ⟨ns.srcAddr, ns.interfaceId⟩ = some entry →
        entry.reachabilityState.timerKind ≠ none →
          ns.sourceLinkLayerAddress.isUnspecified = true ∨
            ns.sourceLinkLayerAddress = entry.macAddress) :
    ∃ s', s.processNSPacket ns = .ok s' ∧ Inv s' ∧ Holds s s' := by
  have hrefl : Holds s s := .of_eq rfl rfl
  unfold IPv6NeighbourDiscovery.processNSPacket
  dsimp only
  split_ifs with hsrc
  · exact ⟨s, rfl, h, hrefl⟩
  cases hentry : s.neighbourMap ⟨ns.srcAddr, ns.interfaceId⟩ with
  | none =>
    obtain ⟨s', hs', hinv, hholds, -⟩ := h.addNeighbour hentry ns.sourceLinkLayerAddress
    exact ⟨s', hs', hinv, hholds⟩
  | some entry =>
    dsimp only
    split_ifs with hmac
    · have hkind : entry.reachabilityState.timerKind = none := by
        by_contra hne
        obtain hmac' | hmac' := hidle (by simpa using hsrc) entry hentry hne
        · rw [hmac.2] at hmac'
          cases hmac'
        · exact hmac.1 hmac'.symm
      obtain ⟨hinv, hholds⟩ := h.change hentry { entry with
          macAddress := ns.sourceLinkLayerAddress, reachabilityState := .stale } rfl rfl hkind.symm
        (fun hinc => by simp [hinc, ReachabilityState.timerKind] at hkind) rfl
      exact ⟨_, rfl, hinv, hholds⟩
    · exact ⟨s, rfl, h, hrefl⟩

/-- The address of an incomplete entry becomes known: its timer is cancelled and the datagrams that
wait are sent. -/
theorem Inv.resolve (h : Inv s) (hnce : s.neighbourMap key = some nce)
    (hinc : nce.reachabilityState = .incomplete)
    (hmap : s'.neighbourMap = Function.update s.neighbourMap key (some e))
    (hscheduled : s'.scheduled = (s.cancelAndDelete nce.arTimer).scheduled)
    (hnext : s'.nextMsg = s.nextMsg)
    (hrouters : s'.defaultRouterList.Sublist s.defaultRouterList)
    (hlog : s'.log = s.log ++ nce.pendingPackets.map fun d => .dequeued d key)
    (htimer : ∀ kind, e.timer kind = none) (hstate : e.reachabilityState.timerKind = none)
    (hpending : e.pendingPackets = []) (hmac : e.macAddress.isUnspecified = false) :
    Inv s' ∧ Handles s s' := by
  have hsilent : ∀ k, k ≠ key →
      Silent k (nce.pendingPackets.map fun d => Output.dequeued d key) := fun k hk =>
    ⟨queuedAt_map_dequeued .., (leftAt_map_dequeued ..).trans (if_neg (Ne.symm hk))⟩
  refine ⟨⟨h.timed.stop hmap (fun m t => ?_) hnext hrouters ?_ (by simp),
    h.queued.update hmap hlog hsilent ?_⟩, handles_update hmap hlog hsilent fun nce' hnce' _ => ?_⟩
  · rw [hscheduled]
    exact h.timed.cancel_iff .ar hnce (timerKind_of_incomplete hinc)
  · rintro _ ⟨rfl⟩
    exact ⟨htimer, hstate, hpending⟩
  · rw [queuedAt_map_dequeued, leftAt_map_dequeued, if_pos rfl, hnce, waitingAt, waitingAt,
      hpending]
  · cases hnce.symm.trans hnce'
    refine .resolved e (by rw [hmap, update_self]) (fun heq => ?_) hmac hlog
    rw [heq] at hstate
    cases hstate

variable {na : IPv6NeighbourAdvertisement}

theorem Inv.processNAForIncompleteNCEState (h : Inv s)
    (hnce : s.neighbourMap key = some nce) (hinc : nce.reachabilityState = .incomplete) :
    Inv (s.processNAForIncompleteNCEState ift na key nce) ∧
      Handles s (s.processNAForIncompleteNCEState ift na key nce) := by
  have hrefl : Holds s s := .of_eq rfl rfl
  unfold IPv6NeighbourDiscovery.processNAForIncompleteNCEState
  by_cases hmac : na.targetLinkLayerAddress.isUnspecified = true
  · rw [if_pos hmac]
    exact ⟨h, hrefl.handles⟩
  rw [if_neg hmac]
  have hnud : nce.nudTimeoutEvent = none :=
    (h.timed.entries key nce hnce).timer_eq_none .nud
      (by rw [hinc]; simp [ReachabilityState.timerKind])
  refine h.resolve hnce hinc (by simp [setEntry, IPv6NeighbourDiscovery.emit]; rfl) ?_
    (by simp [setEntry, IPv6NeighbourDiscovery.emit]) ?_
    (by simp [setEntry, IPv6NeighbourDiscovery.emit]) ?_ ?_ rfl (Bool.eq_false_iff.2 hmac)
  · cases nce.arTimer <;> simp [setEntry, IPv6NeighbourDiscovery.emit, cancelAndDelete]
  · simpa [setEntry, IPv6NeighbourDiscovery.emit] using s.dropFromRouters_sublist na.routerFlag
  · rintro (_ | _)
    · rfl
    · exact hnud
  · dsimp only
    split_ifs <;> rfl

/-- The neighbour has been confirmed to be reachable: the timer of its entry is cancelled. -/
theorem Inv.confirm (h : Inv s) (hnce : s.neighbourMap key = some nce)
    (hinc : nce.reachabilityState ≠ .incomplete)
    (hmap : s'.neighbourMap = Function.update s.neighbourMap key (some e))
    (hscheduled : s'.scheduled = (s.cancelAndDelete nce.nudTimeoutEvent).scheduled)
    (hnext : s'.nextMsg = s.nextMsg)
    (hrouters : s'.defaultRouterList.Sublist s.defaultRouterList) (hlog : s'.log = s.log)
    (har : e.arTimer = nce.arTimer) (hnud : e.nudTimeoutEvent = none)
    (hstate : e.reachabilityState.timerKind = none)
    (hpending : e.pendingPackets = nce.pendingPackets) : Inv s' ∧ Holds s s' := by
  have hentry := h.timed.entries key nce hnce
  have hwaiting : e.pendingPackets = [] := hpending.trans (hentry.waiting hinc)
  refine h.update key [] (h.timed.stop hmap (fun m t => ?_) hnext hrouters ?_ (by simp)) hmap
    (by rw [hlog, append_nil]) (fun _ => silent_nil _) (fun nce' hnce' => ?_) hwaiting
  · rw [hscheduled]
    exact h.timed.cancel_iff .nud hnce (timerKind_of_ne_incomplete hinc)
  · rintro _ ⟨rfl⟩
    refine ⟨?_, hstate, hwaiting⟩
    rintro (_ | _)
    · exact har.trans (hentry.timer_eq_none .ar
        fun heq => hinc (ReachabilityState.timerKind_eq_ar.1 heq))
    · exact hnud
  · rwa [← Option.some.inj (hnce.symm.trans hnce')]

theorem Inv.processNAForOtherNCEStates (h : Inv s) (ift : ℤ → Interface)
    (hnce : s.neighbourMap key = some nce) (hinc : nce.reachabilityState ≠ .incomplete)
    (hkeep : nce.reachabilityState.timerKind = some .nud →
      na.targetLinkLayerAddress.isUnspecified = true →
        na.solicitedFlag = true ∨ nce.macAddress.isUnspecified = true) :
    Inv (s.processNAForOtherNCEStates ift na key nce) ∧
      Holds s (s.processNAForOtherNCEStates ift na key nce) := by
  have hrefl : Holds s s := .of_eq rfl rfl
  have hsublist : (s.dropFromRouters key na.routerFlag).defaultRouterList.Sublist
      s.defaultRouterList := dropFromRouters_sublist _
  unfold IPv6NeighbourDiscovery.processNAForOtherNCEStates
  dsimp only
  by_cases hother : na.overrideFlag = false ∧ na.targetLinkLayerAddress ≠ nce.macAddress ∧
      na.targetLinkLayerAddress.isUnspecified = false
  · rw [if_pos hother]
    by_cases hreach : nce.reachabilityState = .reachable
    · rw [if_pos hreach]
      exact h.change hnce _ rfl rfl (by rw [hreach]; rfl) (fun heq => absurd heq hinc) rfl
    · rw [if_neg hreach]
      exact ⟨h, hrefl⟩
  rw [if_neg hother]
  generalize hnce1 : (if na.targetLinkLayerAddress.isUnspecified = true then nce
    else { nce with macAddress := na.targetLinkLayerAddress }) = nce1
  have hfields : nce1.oid = nce.oid ∧ nce1.arTimer = nce.arTimer ∧
      nce1.nudTimeoutEvent = nce.nudTimeoutEvent ∧
        nce1.reachabilityState = nce.reachabilityState ∧
          nce1.pendingPackets = nce.pendingPackets := by
    rw [← hnce1]
    split_ifs <;> exact ⟨rfl, rfl, rfl, rfl, rfl⟩
  obtain ⟨hoid, har, hnud, hstate, hpending⟩ := hfields
  by_cases hsolicited : na.solicitedFlag = true
  · rw [if_pos hsolicited]
    refine h.confirm (e := { (s.dropFromRouters key na.routerFlag).confirmReachability ift key nce1
      with isRouter := na.routerFlag }) hnce hinc (by simp [setEntry]) ?_ (by simp [setEntry])
      (by simpa [setEntry] using hsublist) (by simp [setEntry]) har rfl rfl hpending
    rw [hnud]
    cases nce.nudTimeoutEvent <;> simp [setEntry, cancelAndDelete]
  · rw [if_neg hsolicited]
    refine h.modify (e := { nce1 with
      reachabilityState :=
        if na.targetLinkLayerAddress ≠ nce1.macAddress then .stale else nce1.reachabilityState
      isRouter := na.routerFlag }) hnce (by simp [setEntry]) (by simp [setEntry])
      (by simp [setEntry]) (by simpa [setEntry] using hsublist) (by simp [setEntry]) hoid ?_ ?_
      (fun heq => absurd heq hinc) hpending
    · funext kind
      cases kind with
      | ar => exact har
      | nud => exact hnud
    · dsimp only
      rw [hstate]
      split_ifs with hne
      · -- the state is set to STALE although no address has been given
        have hmac : na.targetLinkLayerAddress.isUnspecified = true := by
          by_contra hmac
          rw [if_neg hmac] at hnce1
          exact hne (by rw [← hnce1])
        rw [if_pos hmac] at hnce1
        obtain hkind | hkind := timerKind_eq_none_or hinc
        · exact hkind.symm
        · obtain hyes | hzero := hkeep hkind hmac
          · exact absurd hyes hsolicited
          · rw [MACAddress.isUnspecified, beq_iff_eq] at hmac hzero
            exact absurd (hmac.trans (by rw [← hnce1, hzero])) hne
      · rfl

theorem Inv.processNAPacket (h : Inv s)
    (hkeep : ∀ nce, s.neighbourMap ⟨na.targetAddress, na.interfaceId⟩ = some nce →
      nce.reachabilityState.timerKind = some .nud →
        na.targetLinkLayerAddress.isUnspecified = true →
          na.solicitedFlag = true ∨ nce.macAddress.isUnspecified = true) :
    Inv (s.processNAPacket ift na) ∧ Handles s (s.processNAPacket ift na) := by
  have hrefl : Holds s s := .of_eq rfl rfl
  unfold IPv6NeighbourDiscovery.processNAPacket
  dsimp only
  cases hnce : s.neighbourMap ⟨na.targetAddress, na.interfaceId⟩ with
  | none => exact ⟨h, hrefl.handles⟩
  | some nce =>
    dsimp only
    split_ifs with hinc
    · exact h.processNAForIncompleteNCEState hnce hinc
    · obtain ⟨hinv, hholds⟩ := h.processNAForOtherNCEStates ift hnce hinc (hkeep nce hnce)
      exact ⟨hinv, hholds.handles⟩

/-- Routers are removed. -/
theorem Inv.removeAll (h : Inv s) {l : List Key} (hnodup : l.Nodup)
    (hl : ∀ k ∈ l, ∃ nce, s.neighbourMap k = some nce ∧ nce.reachabilityState ≠ .incomplete) :
    ∃ s', l.foldlM (fun s key => s.remove key) s = .ok s' ∧ Inv s' ∧ Holds s s' ∧
      s'.now = s.now ∧ ∀ k, s.neighbourMap k = none → s'.neighbourMap k = none := by
  induction l generalizing s with
  | nil =>
    exact ⟨s, rfl, h, .of_eq rfl rfl, rfl, fun _ hk => hk⟩
  | cons key l ih =>
    obtain ⟨hkey, hnodup⟩ := nodup_cons.1 hnodup
    obtain ⟨nce, hnce, hinc⟩ := hl key mem_cons_self
    obtain ⟨s₁, hs1, hinv1, hholds1, hnow, hmap, -⟩ := h.remove hnce hinc
    obtain ⟨s', hs', hinv, hholds, hnow', hnone⟩ := ih hinv1 hnodup fun k hk => by
      have hne : k ≠ key := by
        rintro rfl
        exact hkey hk
      rw [hmap, update_of_ne hne]
      exact hl k (mem_cons_of_mem _ hk)
    refine ⟨s', by rw [foldlM_cons, hs1, ok_bind, hs'], hinv, hholds1.trans hholds,
      hnow'.trans hnow, fun k hk => hnone k ?_⟩
    rw [hmap]
    by_cases hne : k = key
    · rw [hne, update_self]
    · rw [update_of_ne hne, hk]

theorem Inv.processRAPacket (h : Inv s) {ra : IPv6RouterAdvertisement}
    (hnew : s.neighbourMap ⟨ra.srcAddr, ra.interfaceId⟩ = none →
      ra.routerLifetime ≠ 0 ∨ ra.sourceLinkLayerAddress.isUnspecified = false)
    (hinc : ∀ nce, s.neighbourMap ⟨ra.srcAddr, ra.interfaceId⟩ = some nce →
      nce.reachabilityState = .incomplete →
        ra.routerLifetime ≠ 0 ∧ ra.sourceLinkLayerAddress.isUnspecified = true) :
    ∃ s', s.processRAPacket ra = .ok s' ∧ Inv s' ∧ Holds s s' := by
  unfold IPv6NeighbourDiscovery.processRAPacket
  dsimp only
  cases hnce : s.neighbourMap ⟨ra.srcAddr, ra.interfaceId⟩ with
  | none =>
    dsimp only
    split_ifs with hlifetime hmac
    · obtain ⟨s₁, hs1, hinv1, hholds1, -, hnone⟩ := h.removeAll
        (l := s.defaultRouterList.filter fun key => key.interfaceID = ra.interfaceId)
        (h.timed.nodup.filter _) fun k hk => h.timed.router k (mem_filter.1 hk).1
      obtain ⟨s', hs', hinv, hholds⟩ := hinv1.addRouter (hnone _ hnce) ra.sourceLinkLayerAddress
        (s₁.now + ra.routerLifetime) ra.homeAgentFlag
      rw [routersUnreachabilityDetection, hs1, ok_bind]
      exact ⟨s', hs', hinv, hholds1.trans hholds⟩
    · obtain hne | hspec := hnew hnce
      · exact absurd hne hlifetime
      · rw [hmac] at hspec
        cases hspec
    · obtain ⟨s₁, hs1, hinv1, hholds1, nce, hnce1, hstale⟩ :=
        h.addNeighbour hnce ra.sourceLinkLayerAddress
      obtain ⟨hinv, hholds⟩ := hinv1.change hnce1 { nce with isRouter := true } rfl rfl
        rfl (fun _ => rfl) rfl
      rw [hs1, ok_bind, hnce1]
      exact ⟨_, rfl, hinv, hholds1.trans hholds⟩
  | some nce =>
    dsimp only
    obtain ⟨hinv, hholds⟩ := h.change hnce { nce with
        isRouter := true
        macAddress := if ra.sourceLinkLayerAddress.isUnspecified then nce.macAddress
          else ra.sourceLinkLayerAddress
        routerExpiryTime := s.now + ra.routerLifetime } rfl rfl rfl
      (fun heq => if_pos (hinc nce hnce heq).2) rfl
    by_cases hlifetime : ra.routerLifetime = 0
    · obtain ⟨s', hs', hinv', hholds', -⟩ := hinv.remove
        (update_self (⟨ra.srcAddr, ra.interfaceId⟩ : Key) _ _)
        fun heq => (hinc nce hnce heq).1 hlifetime
      rw [if_pos hlifetime]
      exact ⟨s', hs', hinv', hholds.trans hholds'⟩
    · rw [if_neg hlifetime]
      exact ⟨_, rfl, hinv, hholds⟩

end IPv6NeighbourDiscovery

end Icmpv6

end Hiwis
