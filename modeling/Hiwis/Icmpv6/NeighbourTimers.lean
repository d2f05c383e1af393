import Hiwis.Icmpv6.IPv6NeighbourDiscovery

/-!
# The timers of the neighbour cache

* `Timed` : an entry has the timer that its state asks for, which is scheduled, and nothing else is
  scheduled; datagrams wait in incomplete entries only;
* `Timed.update` : a change of one entry and its timer.
-/

namespace Hiwis

open Option Function

namespace Icmpv6

/-- The timer that an entry of the state has. -/
def ReachabilityState.timerKind : ReachabilityState → Option TimerKind
  | .incomplete => some .ar
  | .delay | .probe => some .nud
  | .reachable | .stale => none

theorem ReachabilityState.timerKind_eq_ar {r : ReachabilityState} :
    r.timerKind = some .ar ↔ r = .incomplete := by
  cases r <;> simp [timerKind]

/-- The timer of a kind that the entry refers to. -/
def Neighbour.timer (nce : Neighbour) : TimerKind → Option ℕ
  | .ar => nce.arTimer
  | .nud => nce.nudTimeoutEvent

namespace IPv6NeighbourDiscovery

variable {s s' : IPv6NeighbourDiscovery} {key k : Key} {nce e : Neighbour} {msg m : ℕ} {t : Timer}

/-! ### Fields -/

@[simp] theorem cancelAndDelete_neighbourMap (o : Option ℕ) :
    (s.cancelAndDelete o).neighbourMap = s.neighbourMap := by cases o <;> rfl

@[simp] theorem cancelAndDelete_now (o : Option ℕ) : (s.cancelAndDelete o).now = s.now := by
  cases o <;> rfl

@[simp] theorem cancelAndDelete_defaultRouterList (o : Option ℕ) :
    (s.cancelAndDelete o).defaultRouterList = s.defaultRouterList := by cases o <;> rfl

@[simp] theorem cancelAndDelete_nextMsg (o : Option ℕ) :
    (s.cancelAndDelete o).nextMsg = s.nextMsg := by cases o <;> rfl

@[simp] theorem cancelAndDelete_log (o : Option ℕ) : (s.cancelAndDelete o).log = s.log := by
  cases o <;> rfl

theorem cancelAndDelete_eq_some {o : Option ℕ} :
    (s.cancelAndDelete o).scheduled m = some t ↔ s.scheduled m = some t ∧ o ≠ some m := by
  cases o with
  | none => simp [cancelAndDelete]
  | some msg =>
    by_cases hm : m = msg
    · subst hm
      simp [cancelAndDelete]
    · simp [cancelAndDelete, hm, Ne.symm hm]

@[simp] theorem dropFromRouters_neighbourMap (isRouter : Bool) :
    (s.dropFromRouters key isRouter).neighbourMap = s.neighbourMap := by
  cases isRouter <;> rfl

@[simp] theorem dropFromRouters_scheduled (isRouter : Bool) :
    (s.dropFromRouters key isRouter).scheduled = s.scheduled := by
  cases isRouter <;> rfl

@[simp] theorem dropFromRouters_nextMsg (isRouter : Bool) :
    (s.dropFromRouters key isRouter).nextMsg = s.nextMsg := by
  cases isRouter <;> rfl

@[simp] theorem dropFromRouters_log (isRouter : Bool) :
    (s.dropFromRouters key isRouter).log = s.log := by
  cases isRouter <;> rfl

theorem dropFromRouters_sublist (isRouter : Bool) :
    (s.dropFromRouters key isRouter).defaultRouterList.Sublist s.defaultRouterList := by
  cases isRouter
  · exact List.erase_sublist
  · exact List.Sublist.refl _

/-! ### The invariant -/

/-- An entry, its timer and its datagrams. -/
structure EntryTimed (s : IPv6NeighbourDiscovery) (key : Key) (nce : Neighbour) : Prop where
  isSome_iff : ∀ kind, (nce.timer kind).isSome ↔ nce.reachabilityState.timerKind = some kind
  scheduled : ∀ kind msg, nce.timer kind = some msg →
    ∃ time, s.scheduled msg = some ⟨kind, time, ⟨key, nce.oid⟩⟩
  unresolved : nce.reachabilityState = .incomplete → nce.macAddress = .unspecifiedAddress
  waiting : nce.reachabilityState ≠ .incomplete → nce.pendingPackets = []

/-- The entry that a timer is one of. -/
def TimerOf (o : Option Neighbour) (msg : ℕ) (t : Timer) : Prop :=
  ∃ nce, o = some nce ∧ nce.oid = t.contextPointer.oid ∧ nce.timer t.kind = some msg

structure Timed (s : IPv6NeighbourDiscovery) : Prop where
  entries : ∀ key nce, s.neighbourMap key = some nce → EntryTimed s key nce
  messages : ∀ msg t, s.scheduled msg = some t →
    msg < s.nextMsg ∧ TimerOf (s.neighbourMap t.contextPointer.key) msg t
  nodup : s.defaultRouterList.Nodup
  router : ∀ key ∈ s.defaultRouterList,
    ∃ nce, s.neighbourMap key = some nce ∧ nce.reachabilityState ≠ .incomplete

theorem timed_initial : Timed {} :=
  ⟨fun _ _ h => (some_ne_none _ h.symm).elim,
    fun _ _ h => (some_ne_none _ h.symm).elim, List.nodup_nil,
    fun _ h => absurd h List.not_mem_nil⟩

theorem EntryTimed.timer_eq_none (h : EntryTimed s key nce) (kind : TimerKind)
    (hkind : nce.reachabilityState.timerKind ≠ some kind) : nce.timer kind = none := by
  by_contra hne
  exact hkind ((h.isSome_iff kind).1 (isSome_iff_ne_none.2 hne))

theorem EntryTimed.exists_timer (h : EntryTimed s key nce) (kind : TimerKind)
    (hkind : nce.reachabilityState.timerKind = some kind) :
    ∃ msg time, nce.timer kind = some msg ∧
      s.scheduled msg = some ⟨kind, time, ⟨key, nce.oid⟩⟩ := by
  obtain ⟨msg, hmsg⟩ := isSome_iff_exists.1 ((h.isSome_iff kind).2 hkind)
  obtain ⟨time, htime⟩ := h.scheduled kind msg hmsg
  exact ⟨msg, time, hmsg, htime⟩

variable (h : Timed s)
include h

/-- A message for the key is a timer of its entry. -/
theorem Timed.timerOf (ht : s.scheduled m = some t) (hkey : t.contextPointer.key = key) :
    TimerOf (s.neighbourMap key) m t :=
  hkey ▸ (h.messages m t ht).2

/-- Nothing is scheduled for an entry whose state asks for no timer. -/
theorem Timed.key_ne
    (hidle : ∀ nce, s.neighbourMap key = some nce → nce.reachabilityState.timerKind = none)
    (ht : s.scheduled m = some t) : t.contextPointer.key ≠ key := by
  intro hkey
  obtain ⟨nce, hnce, -, htimer⟩ := h.timerOf ht hkey
  have hsome := ((h.entries key nce hnce).isSome_iff t.kind).1 (by rw [htimer]; rfl)
  rw [hidle nce hnce] at hsome
  cases hsome

/-- The only message for the key is the timer that the state asks for. -/
theorem Timed.key_eq_iff (hnce : s.neighbourMap key = some nce) {kind : TimerKind}
    (hkind : nce.reachabilityState.timerKind = some kind) (ht : s.scheduled m = some t) :
    t.contextPointer.key = key ↔ nce.timer kind = some m := by
  constructor
  · intro hkey
    obtain ⟨nce', hnce', -, htimer⟩ := h.timerOf ht hkey
    cases hnce.symm.trans hnce'
    have hsome := ((h.entries key nce hnce).isSome_iff t.kind).1 (by rw [htimer]; rfl)
    rwa [Option.some.inj (hkind.symm.trans hsome)]
  · intro htimer
    obtain ⟨time, htime⟩ := (h.entries key nce hnce).scheduled kind m htimer
    rw [Option.some.inj (ht.symm.trans htime)]

variable {o : Option Neighbour}

/-- A change of one entry and its timer. -/
theorem Timed.update
    (hmap : s'.neighbourMap = Function.update s.neighbourMap key o)
    (hother : ∀ m t, t.contextPointer.key ≠ key →
      (s'.scheduled m = some t ↔ s.scheduled m = some t))
    (hkey : ∀ m t, s'.scheduled m = some t → t.contextPointer.key = key →
      m < s'.nextMsg ∧ TimerOf o m t)
    (hentry : ∀ nce, o = some nce → EntryTimed s' key nce) (hnext : s.nextMsg ≤ s'.nextMsg)
    (hnodup : s'.defaultRouterList.Nodup)
    (hrouter : ∀ k ∈ s'.defaultRouterList, k ≠ key ∧ k ∈ s.defaultRouterList ∨
      k = key ∧ ∃ nce, o = some nce ∧ nce.reachabilityState ≠ .incomplete) : Timed s' := by
  refine ⟨fun k nce hk => ?_, fun m t ht => ?_, hnodup, fun k hk => ?_⟩
  · rw [hmap] at hk
    by_cases hne : k = key
    · subst hne
      exact hentry nce (by simpa using hk)
    · rw [update_of_ne hne] at hk
      obtain ⟨hsome, hscheduled, hmac, hwaiting⟩ := h.entries k nce hk
      refine ⟨hsome, fun kind msg hmsg => ?_, hmac, hwaiting⟩
      obtain ⟨time, htime⟩ := hscheduled kind msg hmsg
      exact ⟨time, (hother msg _ hne).2 htime⟩
  · by_cases hne : t.contextPointer.key = key
    · rw [hmap, hne, update_self]
      exact hkey m t ht hne
    · rw [hmap, update_of_ne hne]
      obtain ⟨hlt, htimer⟩ := h.messages m t ((hother m t hne).1 ht)
      exact ⟨hlt.trans_le hnext, htimer⟩
  · rw [hmap]
    obtain ⟨hne, hmem⟩ | ⟨rfl, hentry⟩ := hrouter k hk
    · rw [update_of_ne hne]
      exact h.router k hmem
    · rwa [update_self]

/-- An entry changes while its timer stays. -/
theorem Timed.modify (hnce : s.neighbourMap key = some nce)
    (hmap : s'.neighbourMap = Function.update s.neighbourMap key (some e))
    (hscheduled : s'.scheduled = s.scheduled) (hnext : s'.nextMsg = s.nextMsg)
    (hrouters : s'.defaultRouterList.Sublist s.defaultRouterList) (hoid : e.oid = nce.oid)
    (htimer : e.timer = nce.timer)
    (hstate : e.reachabilityState.timerKind = nce.reachabilityState.timerKind)
    (hmac : e.reachabilityState = .incomplete → e.macAddress = .unspecifiedAddress)
    (hwaiting : e.reachabilityState ≠ .incomplete → e.pendingPackets = []) : Timed s' := by
  have hentry := h.entries key nce hnce
  refine h.update hmap (fun m t _ => by rw [hscheduled]) (fun m t ht hkey => ?_) ?_ hnext.ge
    (h.nodup.sublist hrouters) fun k hk => ?_
  · rw [hscheduled] at ht
    obtain ⟨nce', hnce', hoid', htimer'⟩ := h.timerOf ht hkey
    cases hnce.symm.trans hnce'
    exact ⟨hnext ▸ (h.messages m t ht).1, e, rfl, hoid.trans hoid', by rw [htimer, htimer']⟩
  · rintro _ ⟨rfl⟩
    refine ⟨fun kind => ?_, fun kind msg hmsg => ?_, hmac, hwaiting⟩
    · rw [htimer, hstate]
      exact hentry.isSome_iff kind
    · rw [htimer] at hmsg
      rw [hscheduled, hoid]
      exact hentry.scheduled kind msg hmsg
  · by_cases hne : k = key
    · subst hne
      obtain ⟨nce', hnce', hinc⟩ := h.router k (hrouters.subset hk)
      cases hnce.symm.trans hnce'
      refine .inr ⟨rfl, e, rfl, fun heq => hinc ?_⟩
      rw [← ReachabilityState.timerKind_eq_ar, ← hstate, heq]
      rfl
    · exact .inl ⟨hne, hrouters.subset hk⟩

/-- An entry changes or goes, and its timer is cancelled. -/
theorem Timed.stop
    (hmap : s'.neighbourMap = Function.update s.neighbourMap key o)
    (hscheduled : ∀ m t, s'.scheduled m = some t ↔
      s.scheduled m = some t ∧ t.contextPointer.key ≠ key)
    (hnext : s'.nextMsg = s.nextMsg)
    (hrouters : s'.defaultRouterList.Sublist s.defaultRouterList)
    (hidle : ∀ e, o = some e → (∀ kind, e.timer kind = none) ∧
      e.reachabilityState.timerKind = none ∧ e.pendingPackets = [])
    (hgone : o = none → key ∉ s'.defaultRouterList) : Timed s' := by
  refine h.update hmap (fun m t hne => ?_)
    (fun m t ht hkey => absurd hkey ((hscheduled m t).1 ht).2) ?_ hnext.ge
    (h.nodup.sublist hrouters) fun k hk => ?_
  · rw [hscheduled, and_iff_left hne]
  · intro e he
    obtain ⟨htimer, hkind, hpending⟩ := hidle e he
    refine ⟨fun kind => by simp [htimer, hkind], fun kind msg hmsg => ?_, fun hinc => ?_,
      fun _ => hpending⟩
    · rw [htimer] at hmsg
      cases hmsg
    · rw [hinc] at hkind
      cases hkind
  · by_cases hne : k = key
    · subst hne
      cases o with
      | none => exact absurd hk (hgone rfl)
      | some e =>
        refine .inr ⟨rfl, e, rfl, fun hinc => ?_⟩
        have hkind := (hidle e rfl).2.1
        rw [hinc] at hkind
        cases hkind
    · exact .inl ⟨hne, hrouters.subset hk⟩

/-- A message that is created for an entry without a timer. -/
theorem Timed.start (kind : TimerKind) {time : ℤ}
    (hidle : ∀ nce, s.neighbourMap key = some nce → nce.reachabilityState.timerKind = none)
    (hmap : s'.neighbourMap = Function.update s.neighbourMap key (some e))
    (hscheduled : s'.scheduled =
      Function.update s.scheduled s.nextMsg (some ⟨kind, time, ⟨key, e.oid⟩⟩))
    (hnext : s.nextMsg < s'.nextMsg) (hrouters : s'.defaultRouterList = s.defaultRouterList)
    (htimer : ∀ kind', e.timer kind' = if kind' = kind then some s.nextMsg else none)
    (hstate : e.reachabilityState.timerKind = some kind)
    (hmac : e.reachabilityState = .incomplete → e.macAddress = .unspecifiedAddress)
    (hpending : e.pendingPackets = [])
    (hrouter : key ∈ s.defaultRouterList → e.reachabilityState ≠ .incomplete) : Timed s' := by
  have hfresh : s.scheduled s.nextMsg = none := by
    by_contra hne
    obtain ⟨t, ht⟩ := ne_none_iff_exists'.1 hne
    exact absurd (h.messages _ t ht).1 (lt_irrefl _)
  refine h.update hmap (fun m t hne => ?_) (fun m t ht hkey => ?_) ?_ hnext.le
    (hrouters ▸ h.nodup) fun k hk => ?_
  · rw [hscheduled]
    by_cases hm : m = s.nextMsg
    · subst hm
      rw [update_self, hfresh]
      refine iff_of_false (fun heq => ?_) (by simp)
      cases heq
      exact hne rfl
    · rw [update_of_ne hm]
  · rw [hscheduled] at ht
    by_cases hm : m = s.nextMsg
    · subst hm
      rw [update_self] at ht
      cases ht
      exact ⟨hnext, e, rfl, rfl, by simp [htimer]⟩
    · rw [update_of_ne hm] at ht
      exact absurd hkey (h.key_ne hidle ht)
  · rintro _ ⟨rfl⟩
    refine ⟨fun kind' => ?_, fun kind' msg hmsg => ?_, hmac, fun _ => hpending⟩
    · rw [htimer, hstate]
      split_ifs with hk
      · simp [hk]
      · simp [Ne.symm hk]
    · rw [htimer] at hmsg
      split_ifs at hmsg with hk
      cases hmsg
      rw [hk, hscheduled, update_self]
      exact ⟨time, rfl⟩
  · rw [hrouters] at hk
    by_cases hne : k = key
    · subst hne
      exact .inr ⟨rfl, e, rfl, hrouter hk⟩
    · exact .inl ⟨hne, hk⟩

/-- The timer of an entry is scheduled again. -/
theorem Timed.restart (hnce : s.neighbourMap key = some nce) (kind : TimerKind)
    {time : ℤ} (hmsg : nce.timer kind = some msg)
    (hmap : s'.neighbourMap = Function.update s.neighbourMap key (some e))
    (hscheduled : s'.scheduled =
      Function.update s.scheduled msg (some ⟨kind, time, ⟨key, nce.oid⟩⟩))
    (hnext : s'.nextMsg = s.nextMsg) (hrouters : s'.defaultRouterList = s.defaultRouterList)
    (hoid : e.oid = nce.oid) (htimer : e.timer = nce.timer)
    (hstate : e.reachabilityState.timerKind = nce.reachabilityState.timerKind)
    (hmac : e.macAddress = nce.macAddress) (hpending : e.pendingPackets = nce.pendingPackets) :
    Timed s' := by
  have hentry := h.entries key nce hnce
  have hkind := (hentry.isSome_iff kind).1 (by rw [hmsg]; rfl)
  obtain ⟨old, hold⟩ := hentry.scheduled kind msg hmsg
  have hinc : e.reachabilityState = .incomplete ↔ nce.reachabilityState = .incomplete := by
    rw [← ReachabilityState.timerKind_eq_ar, hstate, ReachabilityState.timerKind_eq_ar]
  refine h.update hmap (fun m t hne => ?_) (fun m t ht hkey => ?_) ?_ hnext.ge
    (hrouters ▸ h.nodup) fun k hk => ?_
  · rw [hscheduled]
    by_cases hm : m = msg
    · subst hm
      rw [update_self, hold]
      refine iff_of_false (fun heq => ?_) fun heq => ?_
      · cases heq
        exact hne rfl
      · cases heq
        exact hne rfl
    · rw [update_of_ne hm]
  · rw [hscheduled] at ht
    by_cases hm : m = msg
    · subst hm
      rw [update_self] at ht
      cases ht
      exact ⟨hnext ▸ (h.messages m _ hold).1, e, rfl, hoid, by rw [htimer, hmsg]⟩
    · rw [update_of_ne hm] at ht
      exact absurd (Option.some.inj (hmsg.symm.trans ((h.key_eq_iff hnce hkind ht).1 hkey)))
        (Ne.symm hm)
  · rintro _ ⟨rfl⟩
    refine ⟨fun kind' => ?_, fun kind' msg' hmsg' => ?_, fun h' => ?_, fun h' => ?_⟩
    · rw [htimer, hstate]
      exact hentry.isSome_iff kind'
    · rw [htimer] at hmsg'
      have hkind' := (hentry.isSome_iff kind').1 (by rw [hmsg']; rfl)
      cases hkind.symm.trans hkind'
      cases hmsg.symm.trans hmsg'
      rw [hscheduled, update_self, hoid]
      exact ⟨time, rfl⟩
    · rw [hmac, hentry.unresolved (hinc.1 h')]
    · rw [hpending, hentry.waiting fun heq => h' (hinc.2 heq)]
  · rw [hrouters] at hk
    by_cases hne : k = key
    · subst hne
      obtain ⟨nce', hnce', hinc'⟩ := h.router k hk
      cases hnce.symm.trans hnce'
      exact .inr ⟨rfl, e, rfl, fun heq => hinc' (hinc.1 heq)⟩
    · exact .inl ⟨hne, hk⟩

end IPv6NeighbourDiscovery

end Icmpv6

end Hiwis
