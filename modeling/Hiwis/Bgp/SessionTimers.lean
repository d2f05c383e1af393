import Hiwis.Bgp.BGPFSM

/-!
# The timers of a BGP session over its runs

Which state the session is in, when each of its timers arrives and whether it counts as established
after one event, each as a function of what it was before; and from that, in every run, exactly when
state, timers and flag keep in step.
-/

namespace Hiwis

open History

namespace Bgp

namespace FSMState

/-- The state that an event leads to. -/
def next : FSMState → Event → FSMState
  | .idle, .manualStart => .connect
  | .connect, .tcpConnectionConfirmed | .active, .tcpConnectionConfirmed => .openSent
  | .connect, .tcpConnectionFails | .openSent, .tcpConnectionFails => .active
  | .active, .connectRetryTimerExpires => .connect
  | .openSent, .openMsgEvent => .openConfirm
  | .openConfirm, .keepAliveMsgEvent => .established
  | .connect, .connectRetryTimerExpires | .connect, .manualStart | .connect, .openMsgEvent =>
    .connect
  | .active, .manualStart => .active
  | .openSent, .manualStart | .openSent, .tcpConnectionConfirmed => .openSent
  | .openConfirm, .manualStart | .openConfirm, .tcpConnectionConfirmed
  | .openConfirm, .keepaliveTimerExpires => .openConfirm
  | .established, .connectRetryTimerExpires | .established, .holdTimerExpires => .idle
  | .established, _ => .established
  | _, _ => .idle

/-- The connection has been confirmed. -/
def Confirmed (q : FSMState) : Prop := q = .openSent ∨ q = .openConfirm ∨ q = .established

/-- OPEN messages have been exchanged. -/
def Opened (q : FSMState) : Prop := q = .openConfirm ∨ q = .established

instance (q : FSMState) : Decidable q.Confirmed := by unfold Confirmed; infer_instance

instance (q : FSMState) : Decidable q.Opened := by unfold Opened; infer_instance

/-- The event is one on which a confirmed connection is given up. -/
def givesUp : FSMState → Event → Bool
  | .openSent, .connectRetryTimerExpires | .openSent, .holdTimerExpires
  | .openSent, .keepaliveTimerExpires | .openSent, .tcpConnectionFails
  | .openSent, .keepAliveMsgEvent | .openSent, .updateMsgEvent => true
  | .openConfirm, .connectRetryTimerExpires | .openConfirm, .holdTimerExpires
  | .openConfirm, .tcpConnectionFails | .openConfirm, .openMsgEvent
  | .openConfirm, .updateMsgEvent => true
  | .established, .connectRetryTimerExpires | .established, .holdTimerExpires => true
  | _, _ => false

/-- The event restarts the hold timer. -/
def restartsHold : FSMState → Event → Bool
  | .connect, .tcpConnectionConfirmed | .active, .tcpConnectionConfirmed => true
  | .openSent, .openMsgEvent | .openConfirm, .keepAliveMsgEvent => true
  | .established, .keepAliveMsgEvent | .established, .updateMsgEvent => true
  | _, _ => false

/-- The event restarts the keepalive timer. -/
def restartsKeepAlive (holdTime : ℕ) : FSMState → Event → Bool
  | .openSent, .openMsgEvent | .openConfirm, .keepaliveTimerExpires => true
  | .established, .keepaliveTimerExpires => holdTime ≠ 0
  | _, _ => false

variable {q : FSMState}

theorem confirmed_next_iff (e : Event) (hq : q.Confirmed) :
    (q.next e).Confirmed ↔ ¬q.givesUp e := by
  revert hq
  cases q <;> cases e <;> decide

theorem opened_next_iff (e : Event) (hq : q.Opened) : (q.next e).Opened ↔ ¬q.givesUp e := by
  revert hq
  cases q <;> cases e <;> decide

theorem givesUp_confirmed {e : Event} (h : q.givesUp e) : q.Confirmed := by
  revert h
  cases q <;> cases e <;> decide

/-- A session becomes established by a KEEPALIVE message in OpenConfirm alone, and ceases to be so
when its connect-retry or hold timer expires. -/
theorem next_eq_established_iff (q : FSMState) (e : Event) : q.next e = .established ↔
    q = .openConfirm ∧ e = .keepAliveMsgEvent ∨
      q = .established ∧ e ≠ .connectRetryTimerExpires ∧ e ≠ .holdTimerExpires := by
  cases q <;> cases e <;> decide

theorem confirmed_next_of_restartsHold {e : Event} (h : q.restartsHold e) :
    (q.next e).Confirmed := by
  revert h
  cases q <;> cases e <;> decide

theorem opened_next_of_restartsKeepAlive {holdTime : ℕ} {e : Event}
    (h : q.restartsKeepAlive holdTime e) : (q.next e).Opened := by
  revert h
  cases q <;> cases e <;> simp [restartsKeepAlive, next, Opened]

end FSMState

namespace BGPSession

variable {c : Delays} {now : ℕ} {s : BGPSession} {e : Event}

/-! ### One event -/

/-- Giving up in Connect changes no timer but the connect-retry timer. -/
theorem connect_holdTimerExpires_keeps :
    (Connect.holdTimerExpires c now s).state = .idle ∧
      (Connect.holdTimerExpires c now s).sessionEstablished = s.sessionEstablished ∧
      (Connect.holdTimerExpires c now s).holdTimer = s.holdTimer ∧
      (Connect.holdTimerExpires c now s).keepAliveTimer = s.keepAliveTimer := by
  unfold Connect.holdTimerExpires
  split_ifs <;> simp

theorem established_keepaliveTimerExpires_keeps :
    (Established.keepaliveTimerExpires c now s).state = s.state ∧
      (Established.keepaliveTimerExpires c now s).sessionEstablished = s.sessionEstablished ∧
      (Established.keepaliveTimerExpires c now s).holdTimer = s.holdTimer := by
  unfold Established.keepaliveTimerExpires
  split_ifs <;> simp [sendKeepAliveMessage]

theorem established_keepaliveTimerExpires_keepAliveTimer :
    (Established.keepaliveTimerExpires c now s).keepAliveTimer =
      if c.holdTime ≠ 0 then some (now + c.keepAliveTime) else s.keepAliveTimer := by
  unfold Established.keepaliveTimerExpires
  split_ifs <;> simp [sendKeepAliveMessage]

section

attribute [local simp] act take dispatch sendOpenMessage sendKeepAliveMessage
  Idle.manualStart Connect.connectRetryTimerExpires connect_holdTimerExpires_keeps
  Connect.keepaliveTimerExpires Connect.tcpConnectionConfirmed Connect.tcpConnectionFails
  Connect.keepAliveMsgEvent Connect.updateMsgEvent Active.connectRetryTimerExpires
  Active.holdTimerExpires Active.keepaliveTimerExpires Active.tcpConnectionConfirmed
  Active.tcpConnectionFails Active.openMsgEvent Active.keepAliveMsgEvent Active.updateMsgEvent
  OpenSent.connectRetryTimerExpires OpenSent.holdTimerExpires OpenSent.keepaliveTimerExpires
  OpenSent.tcpConnectionFails OpenSent.openMsgEvent OpenSent.keepAliveMsgEvent
  OpenSent.updateMsgEvent OpenConfirm.connectRetryTimerExpires OpenConfirm.holdTimerExpires
  OpenConfirm.keepaliveTimerExpires OpenConfirm.tcpConnectionFails OpenConfirm.openMsgEvent
  OpenConfirm.keepAliveMsgEvent OpenConfirm.updateMsgEvent Established.entry
  Established.connectRetryTimerExpires Established.holdTimerExpires
  established_keepaliveTimerExpires_keeps established_keepaliveTimerExpires_keepAliveTimer
  Established.tcpConnectionFails Established.openMsgEvent
  Established.keepAliveMsgEvent Established.updateMsgEvent

theorem act_state : (act c s (now, e)).state = s.state.next e := by
  cases e <;> cases hq : s.state <;> simp [hq, FSMState.next]

theorem act_holdTimer : (act c s (now, e)).holdTimer =
    if c.holdTime ≠ 0 ∧ s.state.restartsHold e then some (now + c.holdTime)
    else if e = .holdTimerExpires then none else s.holdTimer := by
  cases e <;> cases hq : s.state <;> simp [hq, FSMState.restartsHold]

theorem act_keepAliveTimer : (act c s (now, e)).keepAliveTimer =
    if s.state.restartsKeepAlive c.holdTime e then some (now + c.keepAliveTime)
    else if e = .keepaliveTimerExpires then none else s.keepAliveTimer := by
  cases e <;> cases hq : s.state <;> simp [hq, FSMState.restartsKeepAlive]

theorem act_isEstablished : (act c s (now, e)).isEstablished =
    (s.isEstablished || s.state = .openConfirm && e = .keepAliveMsgEvent) := by
  cases e <;> cases hq : s.state <;> simp [hq, isEstablished]

/-- Nothing but a start event has an effect in Idle. -/
theorem act_idle (hq : s.state = .idle) (he : e ≠ .manualStart) : act c s (now, e) = s.take e := by
  cases e <;> simp_all

/-- A start event in Idle leaves the connect-retry timer unscheduled. -/
theorem act_manualStart (hq : s.state = .idle) :
    (act c s (now, .manualStart)).state = .connect ∧
      (act c s (now, .manualStart)).connectRetryTimer = none := by
  simp [hq]

end

/-! ### Every run -/

/-- The connect-retry timer is scheduled in Connect and Active, and in no other state. -/
def ConnectRetryPaired (s : BGPSession) : Prop :=
  s.connectRetryTimer.isSome ↔ s.state = .connect ∨ s.state = .active

/-- The hold timer is scheduled in OpenSent, OpenConfirm and Established only. -/
def HoldPaired (s : BGPSession) : Prop := s.holdTimer.isSome → s.state.Confirmed

/-- The keepalive timer is scheduled in OpenConfirm and Established only. -/
def KeepAlivePaired (s : BGPSession) : Prop := s.keepAliveTimer.isSome → s.state.Opened

/-- The flag says that the session is in Established. -/
def EstablishedPaired (s : BGPSession) : Prop := s.isEstablished ↔ s.state = .established

/-- State, timers and flag are in step. -/
structure Paired (s : BGPSession) : Prop where
  connectRetry : s.ConnectRetryPaired
  hold : s.HoldPaired
  keepAlive : s.KeepAlivePaired
  established : s.EstablishedPaired

/-- When the event takes the session out of Established, it is the expiry of the hold timer or the
failure of the connection. -/
def LeavesByFailure (c : Delays) (s : BGPSession) (e : ℕ × Event) : Prop :=
  s.state = .established → (act c s e).state ≠ .established →
    e.2 = .holdTimerExpires ∨ e.2 = .tcpConnectionFails

/-- A connection is given up when its hold timer expires or is not scheduled. -/
def HoldOver (s : BGPSession) (e : ℕ × Event) : Prop :=
  s.state.givesUp e.2 → e.2 = .holdTimerExpires ∨ s.holdTimer = none

/-- A connection that has been opened is given up when the keepalive timer is not scheduled. -/
def KeepAliveOver (s : BGPSession) (e : ℕ × Event) : Prop :=
  s.state.Opened → s.state.givesUp e.2 → s.keepAliveTimer = none

theorem act_holdPaired (h : s.HoldPaired) :
    (act c s (now, e)).HoldPaired ↔ s.HoldOver (now, e) := by
  unfold HoldPaired HoldOver
  rw [act_state, act_holdTimer]
  by_cases hr : c.holdTime ≠ 0 ∧ s.state.restartsHold e
  · have hq := FSMState.confirmed_next_of_restartsHold hr.2
    have hg : s.state.givesUp e → False := fun hg =>
      (FSMState.confirmed_next_iff e (FSMState.givesUp_confirmed hg)).1 hq hg
    exact iff_of_true (fun _ => hq) fun hg' => (hg hg').elim
  · rw [if_neg hr]
    split_ifs with he
    · simp [he]
    · constructor
      · intro hpaired hg
        refine .inr (Option.not_isSome_iff_eq_none.1 fun hs => ?_)
        exact (FSMState.confirmed_next_iff e (FSMState.givesUp_confirmed hg)).1 (hpaired hs) hg
      · intro hover hs
        refine (FSMState.confirmed_next_iff e (h hs)).2 fun hg => ?_
        obtain heq | hnone := hover hg
        · exact he heq
        · simp [hnone] at hs

theorem act_keepAlivePaired (h : s.KeepAlivePaired) :
    (act c s (now, e)).KeepAlivePaired ↔ s.KeepAliveOver (now, e) := by
  unfold KeepAlivePaired KeepAliveOver
  rw [act_state, act_keepAliveTimer]
  by_cases hr : s.state.restartsKeepAlive c.holdTime e
  · have hq := FSMState.opened_next_of_restartsKeepAlive hr
    exact iff_of_true (fun _ => hq) fun ho hg => ((FSMState.opened_next_iff e ho).1 hq hg).elim
  · rw [if_neg hr]
    split_ifs with he
    · -- the expired timer closes no opened connection
      subst he
      refine iff_of_true (by simp) fun ho hg => ?_
      obtain hq | hq := ho <;> rw [hq] at hg <;> cases hg
    · constructor
      · intro hpaired ho hg
        refine Option.not_isSome_iff_eq_none.1 fun hs => ?_
        exact (FSMState.opened_next_iff e ho).1 (hpaired hs) hg
      · intro hover hs
        refine (FSMState.opened_next_iff e (h hs)).2 fun hg => ?_
        simp [hover (h hs) hg] at hs

theorem act_establishedPaired (h : s.EstablishedPaired) :
    (act c s (now, e)).EstablishedPaired ↔
      (s.state = .established → e ≠ .connectRetryTimerExpires ∧ e ≠ .holdTimerExpires) := by
  unfold EstablishedPaired at h ⊢
  rw [act_state, act_isEstablished, FSMState.next_eq_established_iff, Bool.or_eq_true, h]
  by_cases hq : s.state = .established <;> simp [hq]

theorem leavesByFailure_iff : LeavesByFailure c s (now, e) ↔
    (s.state = .established → e ≠ .connectRetryTimerExpires) := by
  unfold LeavesByFailure
  rw [act_state, Ne, FSMState.next_eq_established_iff]
  by_cases hq : s.state = .established
  · cases e <;> simp [hq]
  · simp [hq]

/-- A session that has not been started does nothing. -/
theorem foldl_act_of_not_started {es : List (ℕ × Event)} (hes : ∀ e ∈ es, e.2 ≠ .manualStart) :
    es.foldl (act c) {} = {} := by
  have hstart : Each (act c) (fun _ e => e.2 ≠ .manualStart) {} es := each_const_iff.2 hes
  refine hstart.invariant (I := fun s => s = {}) rfl ?_
  rintro _ ⟨t, e⟩ rfl he
  rw [act_idle rfl he]
  cases e <;> rfl

theorem paired_empty : Paired {} := by
  constructor <;> simp [ConnectRetryPaired, HoldPaired, KeepAlivePaired, EstablishedPaired,
    isEstablished]

/-- State, timers and flag are in step, and a session leaves Established by a failure only, in every
state of a run if and only if the session is never started.  Each part by itself holds on a
condition of its own. -/
theorem paired_iff (c : Delays) (es : List (ℕ × Event))
    (h : Each (act c) Enabled {} es) :
    ((∀ es₁, es₁ <+: es → Paired (es₁.foldl (act c) {})) ∧
        Each (act c) (LeavesByFailure c) {} es ↔ ∀ e ∈ es, e.2 ≠ .manualStart) ∧
      ((∀ es₁, es₁ <+: es → ConnectRetryPaired (es₁.foldl (act c) {})) ↔
        ∀ e ∈ es, e.2 ≠ .manualStart) ∧
      ((∀ es₁, es₁ <+: es → HoldPaired (es₁.foldl (act c) {})) ↔ Each (act c) HoldOver {} es) ∧
      ((∀ es₁, es₁ <+: es → KeepAlivePaired (es₁.foldl (act c) {})) ↔
        Each (act c) KeepAliveOver {} es) ∧
      ((∀ es₁, es₁ <+: es → EstablishedPaired (es₁.foldl (act c) {})) ↔
        Each (act c) (fun s e => s.state = .established →
          e.2 ≠ .connectRetryTimerExpires ∧ e.2 ≠ .holdTimerExpires) {} es) ∧
      (Each (act c) (LeavesByFailure c) {} es ↔
        Each (act c)
          (fun s e => s.state = .established → e.2 ≠ .connectRetryTimerExpires) {} es) := by
  have hconnect : (∀ es₁, es₁ <+: es → ConnectRetryPaired (es₁.foldl (act c) {})) ↔
      ∀ e ∈ es, e.2 ≠ .manualStart := by
    have hconst : Each (act c) (fun _ e => e.2 ≠ .manualStart) {} es ↔
        ∀ e ∈ es, e.2 ≠ .manualStart := each_const_iff
    rw [← hconst]
    refine always_iff_each (J := fun s => s = {}) ?_ ?_ h rfl paired_empty.connectRetry
    · rintro _ e rfl - he
      have hact : [e].foldl (act c) {} = {} := foldl_act_of_not_started (by simpa using he)
      exact hact
    · rintro _ ⟨t, e⟩ rfl -
      by_cases he : e = .manualStart
      · subst he
        have hact : (act c {} (t, .manualStart)).state = .connect ∧ _ := act_manualStart rfl
        simp [ConnectRetryPaired, hact]
      · have hact : [(t, e)].foldl (act c) {} = {} :=
          foldl_act_of_not_started (by simpa using he)
        rw [List.foldl_cons, List.foldl_nil] at hact
        simp [hact, he, paired_empty.connectRetry]
  have hestablished : (∀ es₁, es₁ <+: es → EstablishedPaired (es₁.foldl (act c) {})) ↔
      Each (act c) (fun s e => s.state = .established →
        e.2 ≠ .connectRetryTimerExpires ∧ e.2 ≠ .holdTimerExpires) {} es :=
    always_iff_each (J := EstablishedPaired) (fun s e hs _ => (act_establishedPaired hs).2)
      (fun s e hs _ => act_establishedPaired hs) h paired_empty.established paired_empty.established
  have hleaves : Each (act c) (LeavesByFailure c) {} es ↔ Each (act c)
      (fun s e => s.state = .established → e.2 ≠ .connectRetryTimerExpires) {} es :=
    each_congr h fun s e _ => leavesByFailure_iff
  refine ⟨⟨fun hall => hconnect.1 fun es₁ hes₁ => (hall.1 es₁ hes₁).connectRetry, fun hes => ?_⟩,
    hconnect, ?_, ?_, hestablished, hleaves⟩
  · have hpaired : ∀ es₁, es₁ <+: es → Paired (es₁.foldl (act c) {}) := fun es₁ hes₁ => by
      rw [foldl_act_of_not_started fun e he => hes e (hes₁.subset he)]
      exact paired_empty
    have heach := hestablished.1 fun es₁ hes₁ => (hpaired es₁ hes₁).established
    exact ⟨hpaired, hleaves.2 (heach.mono fun s e he hq => (he hq).1)⟩
  · exact always_iff_each (J := HoldPaired) (fun s e hs _ => (act_holdPaired hs).2)
      (fun s e hs _ => act_holdPaired hs) h paired_empty.hold paired_empty.hold
  · exact always_iff_each (J := KeepAlivePaired)
      (fun s e hs _ => (act_keepAlivePaired hs).2) (fun s e hs _ => act_keepAlivePaired hs) h
      paired_empty.keepAlive paired_empty.keepAlive

theorem paired_iff_started_once :
    ¬((∀ es₁, es₁ <+: [(1, .manualStart), (2, .tcpConnectionConfirmed)] →
          Paired (es₁.foldl (act ⟨120, 180, 60⟩) {})) ∧
        Each (act ⟨120, 180, 60⟩) (LeavesByFailure ⟨120, 180, 60⟩) {}
          [(1, .manualStart), (2, .tcpConnectionConfirmed)]) := fun hall =>
  absurd ((paired_iff ⟨120, 180, 60⟩ [(1, .manualStart), (2, .tcpConnectionConfirmed)]
    (by decide)).1.1 hall) (by decide)

/-- A session is started without a connect-retry timer; and an established one leaves Established
when the connect-retry timer, which the confirmation has started, expires, still counts as
established, and keeps its hold and keepalive timers. -/
theorem not_paired :
    (Each (act ⟨120, 180, 60⟩) Enabled {} [(1, .manualStart)] ∧
      ¬Paired ([(1, .manualStart)].foldl (act ⟨120, 180, 60⟩) {})) ∧
    ∃ es : List (ℕ × Event), ∃ s : BGPSession, Each (act ⟨120, 180, 60⟩) Enabled {} es ∧
      es.foldl (act ⟨120, 180, 60⟩) {} = s ∧ s.state = .established ∧
      s.Enabled (123, .connectRetryTimerExpires) ∧
      ¬LeavesByFailure ⟨120, 180, 60⟩ s (123, .connectRetryTimerExpires) ∧
      (act ⟨120, 180, 60⟩ s (123, .connectRetryTimerExpires)).isEstablished ∧
      (act ⟨120, 180, 60⟩ s (123, .connectRetryTimerExpires)).holdTimer = some 184 ∧
      (act ⟨120, 180, 60⟩ s (123, .connectRetryTimerExpires)).keepAliveTimer = some 123 := by
  have hstart : [(1, .manualStart)].foldl (act ⟨120, 180, 60⟩) {} =
      { state := .connect, commands := [.listenConnectionFromPeer, .openTCPConnectionToPeer] } := by
    decide
  refine ⟨⟨by decide, fun h => absurd h.connectRetry (by simp [ConnectRetryPaired, hstart])⟩,
    [(1, .manualStart), (2, .tcpConnectionConfirmed), (3, .openMsgEvent), (4, .keepAliveMsgEvent),
      (63, .keepaliveTimerExpires)], _, by decide, rfl, by decide, by decide, ?_, by decide,
    by decide, by decide⟩
  exact fun h => absurd (h (by decide) (by decide)) (by decide)

end BGPSession

end Bgp

end Hiwis
