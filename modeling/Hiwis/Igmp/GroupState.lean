import Hiwis.Igmp.IGMPv2
import Hiwis.Lib.Ensures

/-!
# The group state of IGMPv2

The states, the timers and the listener list of every interface agree after every run, and the next
event makes the module fail exactly when it is not `Safe`: a query for a group that a non-querier
has no data for, a report of an address that is not multicast, and a leave message for a link-local
group with members.

* `Igmp.Interface.Inv.handle` : one event;
* `Igmp.consistent_and_fails_iff` : every run.
-/

namespace Hiwis

open Except IPv4Address Option Function

namespace Igmp

namespace Interface

variable {c : Parameters} {now : ℚ} {ie ie' : Interface} {groupAddr : IPv4Address}

/-- The message of the timer is scheduled. -/
def Scheduled (timer : Timer) : Prop := ∃ arrivalTime, timer = some (some arrivalTime)

/-- The states, the timers and the listener list agree. -/
structure Consistent (ie : Interface) : Prop where
  /-- A host group is delaying exactly while its report timer is scheduled. -/
  host : ∀ groupAddr d, ie.hostGroups.lookup groupAddr = some d →
    (d.state = .delayingMember ↔ Scheduled d.timer)
  /-- A group is listened to exactly while the router has data for it, with members or checking for
  them, and its leave timer is scheduled. -/
  listener : ∀ groupAddr, groupAddr ∈ ie.reportedMulticastGroups ↔
    ∃ d, ie.routerGroups groupAddr = some d ∧
      (d.state = .membersPresent ∨ d.state = .checkingMembership) ∧ Scheduled d.timer
  /-- A retransmission is scheduled only while the membership is checked. -/
  rexmt : ∀ groupAddr d, ie.routerGroups groupAddr = some d → Scheduled d.rexmtTimer →
    d.state = .checkingMembership

/-- The module does the routers' part of the protocol itself. -/
def Routes (c : Parameters) : Prop :=
  c.enabled = true ∧ c.multicastForwarding = true ∧ c.externalRouter = false

/-- The messages that a module which does the routers' part can handle. -/
def Safe (ie : Interface) (x : Input) : Prop :=
  match x.event with
  | .query sender groupAddr _ => groupAddr.isUnspecified = false →
      sender < ie.address ∨ ie.igmpRouterState = .nonQuerier → ie.routerGroups groupAddr ≠ none
  | .report groupAddr => groupAddr.isMulticast = true
  | .leaveGroup groupAddr => ie.igmpRouterState = .querier →
      groupAddr.isLinkLocalMulticast = true →
        ∀ d, ie.routerGroups groupAddr = some d → d.state ≠ .membersPresent
  | _ => True

/-! ### What is kept -/

/-- The data of a host group that has been joined `joined` times. -/
structure HostSound (c : Parameters) (joined : ℕ) (groupAddr : IPv4Address)
    (d : HostGroupData) : Prop where
  enabled : c.enabled = true
  joined : 0 < joined
  isMulticast : groupAddr.isMulticast = true
  notLinkLocal : groupAddr.isLinkLocalMulticast = false
  timer : d.state = .delayingMember ∧ Scheduled d.timer ∨
    d.state = .idleMember ∧ d.timer = some none

/-- The data of a group that the router knows of. -/
structure RouterSound (groupAddr : IPv4Address) (d : RouterGroupData) : Prop where
  isMulticast : groupAddr.isMulticast = true
  timer : Scheduled d.timer
  rexmt : d.state = .membersPresent ∧ d.rexmtTimer = some none ∨
    d.state = .checkingMembership ∧ (d.rexmtTimer = some none ∨
      Scheduled d.rexmtTimer ∧ groupAddr.isLinkLocalMulticast = false)

structure Inv (c : Parameters) (ie : Interface) : Prop where
  host : ∀ groupAddr d, ie.hostGroups.lookup groupAddr = some d →
    HostSound c (ie.refCounts groupAddr) groupAddr d
  router : ∀ groupAddr d, ie.routerGroups groupAddr = some d → RouterSound groupAddr d
  listener : ∀ groupAddr, groupAddr ∈ ie.reportedMulticastGroups ↔ ie.routerGroups groupAddr ≠ none
  nodup : ie.reportedMulticastGroups.Nodup
  querier : Routes c → ie.igmpQueryTimer ≠ none

theorem Inv.consistent (h : Inv c ie) : Consistent ie := by
  refine ⟨fun g d hd => ?_, fun g => ?_, fun g d hd hrexmt => ?_⟩
  · obtain ⟨hstate, htimer⟩ | ⟨hstate, htimer⟩ := (h.host g d hd).timer
    · exact iff_of_true hstate htimer
    · refine iff_of_false (by simp [hstate]) ?_
      rintro ⟨t, ht⟩
      simp [htimer] at ht
  · rw [h.listener g]
    constructor
    · intro hne
      obtain ⟨d, hd⟩ := ne_none_iff_exists'.1 hne
      have hsound := h.router g d hd
      exact ⟨d, hd, hsound.rexmt.imp And.left And.left, hsound.timer⟩
    · rintro ⟨d, hd, -, -⟩
      simp [hd]
  · obtain ⟨-, htimer⟩ | ⟨hstate, -⟩ := (h.router g d hd).rexmt
    · obtain ⟨t, ht⟩ := hrexmt
      simp [htimer] at ht
    · exact hstate

/-! ### Changes of an interface -/

/-- The fields that the routers' part of the query handler reads. -/
structure SameRouter (ie ie' : Interface) : Prop where
  address : ie'.address = ie.address
  igmpRouterState : ie'.igmpRouterState = ie.igmpRouterState
  routerGroups : ie'.routerGroups = ie.routerGroups

theorem SameRouter.refl : SameRouter ie ie := ⟨rfl, rfl, rfl⟩

theorem SameRouter.trans {ie'' : Interface} (h : SameRouter ie ie') (h' : SameRouter ie' ie'') :
    SameRouter ie ie'' :=
  ⟨h'.address.trans h.address, h'.igmpRouterState.trans h.igmpRouterState,
    h'.routerGroups.trans h.routerGroups⟩

theorem SameRouter.safe_iff (h : SameRouter ie ie') (x : Input) : ie'.Safe x ↔ ie.Safe x := by
  simp [Safe, h.address, h.igmpRouterState, h.routerGroups]

theorem Inv.log (h : Inv c ie) (log : List Observation) : Inv c { ie with log } :=
  ⟨h.host, h.router, h.listener, h.nodup, h.querier⟩

variable {timer : Timer}

theorem Inv.setQuerier (h : Inv c ie) (state : RouterState) (ht : timer ≠ none) :
    Inv c { ie with igmpRouterState := state, igmpQueryTimer := timer } :=
  ⟨h.host, h.router, h.listener, h.nodup, fun _ => ht⟩

theorem Inv.setHostGroup (h : Inv c ie) {d : HostGroupData}
    (hd : HostSound c (ie.refCounts groupAddr) groupAddr d) :
    Inv c (ie.setHostGroup groupAddr d) := by
  refine ⟨fun g d' hg => ?_, h.router, h.listener, h.nodup, h.querier⟩
  by_cases hgg : g = groupAddr
  · subst hgg
    simp only [Interface.setHostGroup, AList.lookup_insert, Option.some.injEq] at hg
    exact hg ▸ hd
  · simp only [Interface.setHostGroup, AList.lookup_insert_ne hgg] at hg
    exact h.host g d' hg

variable {d : RouterGroupData}

/-- New data of a group that is already listened to. -/
theorem Inv.setRouterGroup (h : Inv c ie)
    (hmem : groupAddr ∈ ie.reportedMulticastGroups) (hd : RouterSound groupAddr d) :
    Inv c (ie.setRouterGroup groupAddr (some d)) := by
  refine ⟨h.host, fun g d' hg => ?_, fun g => ?_, h.nodup, h.querier⟩ <;>
    by_cases hgg : g = groupAddr
  · subst hgg
    simp only [Interface.setRouterGroup, update_self, Option.some.injEq] at hg
    exact hg ▸ hd
  · simp only [Interface.setRouterGroup, update_of_ne hgg] at hg
    exact h.router g d' hg
  · subst hgg
    simpa [Interface.setRouterGroup] using hmem
  · simpa [Interface.setRouterGroup, update_of_ne hgg] using h.listener g

/-- A group that is listened to from now on, with its data. -/
theorem Inv.addRouterGroup (h : Inv c ie)
    (hnone : ie.routerGroups groupAddr = none) (hd : RouterSound groupAddr d)
    (log : List Observation) :
    Inv c ({ ie with
      reportedMulticastGroups := ie.reportedMulticastGroups ++ [groupAddr], log }.setRouterGroup
        groupAddr (some d)) := by
  have hnot : groupAddr ∉ ie.reportedMulticastGroups := fun hmem =>
    (h.listener groupAddr).1 hmem hnone
  refine ⟨h.host, fun g d' hg => ?_, fun g => ?_, ?_, h.querier⟩
  · by_cases hgg : g = groupAddr
    · subst hgg
      simp only [Interface.setRouterGroup, update_self, Option.some.injEq] at hg
      exact hg ▸ hd
    · simp only [Interface.setRouterGroup, update_of_ne hgg] at hg
      exact h.router g d' hg
  · by_cases hgg : g = groupAddr
    · subst hgg
      simp [Interface.setRouterGroup]
    · simpa [Interface.setRouterGroup, update_of_ne hgg, hgg] using h.listener g
  · exact List.nodup_append.2 ⟨h.nodup, by simp, by
      rintro a ha b hb rfl
      exact hnot (List.mem_singleton.1 hb ▸ ha)⟩

/-- A group that is not listened to any more, without its data. -/
theorem Inv.removeRouterGroup (h : Inv c ie) (log : List Observation) :
    Inv c ({ ie.removeMulticastListener groupAddr with log }.setRouterGroup groupAddr none) := by
  refine ⟨h.host, fun g d' hg => ?_, fun g => ?_, h.nodup.erase _, h.querier⟩
  · by_cases hgg : g = groupAddr
    · subst hgg
      simp [Interface.setRouterGroup] at hg
    · simp only [Interface.setRouterGroup, update_of_ne hgg] at hg
      exact h.router g d' hg
  · by_cases hgg : g = groupAddr
    · subst hgg
      simp [Interface.setRouterGroup, removeMulticastListener, h.nodup.not_mem_erase]
    · simpa [Interface.setRouterGroup, removeMulticastListener, update_of_ne hgg,
        List.mem_erase_of_ne hgg] using h.listener g

/-! ### The handlers -/

theorem sendQuery_eq_ok (ie : Interface) (maxRespTime : ℚ) (h : groupAddr.isUnspecified = true ∨
      groupAddr.isMulticast = true ∧ groupAddr.isLinkLocalMulticast = false) :
    ∃ log, ie.sendQuery groupAddr maxRespTime = .ok { ie with log } := by
  have hcheck : (!(groupAddr.isUnspecified ||
      (groupAddr.isMulticast && !groupAddr.isLinkLocalMulticast))) = false := by
    obtain h | ⟨h, h'⟩ := h <;> simp [*]
  unfold sendQuery
  rw [hcheck, if_neg Bool.false_ne_true]
  split_ifs
  · exact ⟨_, rfl⟩
  · exact ⟨ie.log, rfl⟩

theorem isUnspecified_of_isLinkLocalMulticast (h : groupAddr.isLinkLocalMulticast = true) :
    groupAddr.isUnspecified = false := by
  by_contra hne
  obtain rfl : groupAddr = unspecifiedAddress := by
    simpa [isUnspecified] using hne
  exact absurd h (by decide)

theorem sendGeneralQuery_eq_ok (ie : Interface) (maxRespTime : ℚ) :
    ∃ log, ie.sendQuery unspecifiedAddress maxRespTime = .ok { ie with log } :=
  sendQuery_eq_ok ie maxRespTime (.inl rfl)

theorem sendReport_eq_ok (ie : Interface) (h : groupAddr.isMulticast = true)
    (h' : groupAddr.isLinkLocalMulticast = false) :
    ie.sendReport groupAddr = .ok (ie.observe (.report groupAddr)) := by
  simp [sendReport, h, h']

theorem sendLeave_eq_ok (ie : Interface) (h : groupAddr.isMulticast = true)
    (h' : groupAddr.isLinkLocalMulticast = false) :
    ie.sendLeave groupAddr = .ok (ie.observe (.leave groupAddr)) := by
  simp [sendLeave, h, h']

theorem startTimer_eq_ok (h : timer ≠ none) (arrivalTime : ℚ) :
    startTimer timer arrivalTime = .ok (some (some arrivalTime)) := by
  obtain ⟨_, rfl⟩ := ne_none_iff_exists'.1 h
  rfl

theorem cancelEvent_eq_ok (h : timer ≠ none) : cancelEvent timer = .ok (some none) := by
  obtain ⟨_, rfl⟩ := ne_none_iff_exists'.1 h
  rfl

theorem exists_cancelEventIf (condition : Bool) (h : condition = true → timer ≠ none) :
    ∃ timer', cancelEventIf condition timer = .ok timer' := by
  unfold cancelEventIf
  split_ifs with hcondition
  · exact ⟨_, cancelEvent_eq_ok (h hcondition)⟩
  · exact ⟨_, rfl⟩

theorem Scheduled.ne_none (h : Scheduled timer) : timer ≠ none := by
  obtain ⟨t, rfl⟩ := h
  exact some_ne_none _

variable {joined : ℕ}

theorem HostSound.timer_ne_none {d : HostGroupData} (h : HostSound c joined groupAddr d) :
    d.timer ≠ none := by
  obtain ⟨-, htimer⟩ | ⟨-, htimer⟩ := h.timer
  · exact htimer.ne_none
  · simp [htimer]

theorem RouterSound.rexmt_ne_none (h : RouterSound groupAddr d) : d.rexmtTimer ≠ none := by
  obtain ⟨-, htimer⟩ | ⟨-, htimer | ⟨htimer, -⟩⟩ := h.rexmt
  · simp [htimer]
  · simp [htimer]
  · exact htimer.ne_none

theorem Inv.configureInterface (c : Parameters) (address : IPv4Address) :
    ∃ ie, ({ address } : Interface).configureInterface c 0 = .ok ie ∧ Inv c ie := by
  have hinv : ∀ (log : List Observation) (state : RouterState) (timer : Timer),
      (Routes c → timer ≠ none) →
      Inv c { address, log, igmpRouterState := state, igmpQueryTimer := timer } :=
    fun _ _ _ htimer => ⟨by simp, by simp, by simp, by simp, htimer⟩
  unfold Interface.configureInterface
  split_ifs with hroutes
  · obtain ⟨log, hlog⟩ := sendGeneralQuery_eq_ok { address, igmpRouterState := .querier }
      c.queryResponseInterval
    dsimp only
    rw [hlog]
    exact ⟨_, rfl, hinv log .querier _ fun _ => by simp⟩
  · refine ⟨_, rfl, hinv [] .initial none fun hr => absurd ?_ hroutes⟩
    simp [hr.1, hr.2.1, hr.2.2]

theorem Inv.multicastGroupJoined (h : Inv c ie) (delay : ℚ)
    (hmulti : groupAddr.isMulticast = true) (hjoined : 0 < ie.refCounts groupAddr)
    (hnone : ie.hostGroups.lookup groupAddr = none) :
    Except.Ensures (fun _ => False) (Inv c) (ie.multicastGroupJoined c now delay groupAddr) := by
  unfold Interface.multicastGroupJoined
  simp only [hmulti, Bool.not_true, Bool.false_eq_true, if_false, hnone, isSome_none]
  split_ifs with henabled
  · obtain ⟨hon, hlocal⟩ : c.enabled = true ∧ groupAddr.isLinkLocalMulticast = false := by
      simpa using henabled
    rw [sendReport_eq_ok ie hmulti hlocal]
    exact (h.log _).setHostGroup ⟨hon, hjoined, hmulti, hlocal, .inl ⟨rfl, _, rfl⟩⟩
  · exact h

theorem Inv.joinMulticastGroup (h : Inv c ie) (delay : ℚ) (hmulti : groupAddr.isMulticast = true) :
    Except.Ensures (fun _ => False) (Inv c) (ie.joinMulticastGroup c now delay groupAddr) := by
  have hjoin : Inv c { ie with
      refCounts := update ie.refCounts groupAddr (ie.refCounts groupAddr + 1) } := by
    refine ⟨fun g d hd => ?_, h.router, h.listener, h.nodup, h.querier⟩
    have hsound := h.host g d hd
    refine ⟨hsound.enabled, ?_, hsound.isMulticast, hsound.notLinkLocal, hsound.timer⟩
    by_cases hgg : g = groupAddr
    · subst hgg
      simp
    · simpa [update_of_ne hgg] using hsound.joined
  unfold Interface.joinMulticastGroup
  dsimp only
  split_ifs with hzero
  · refine hjoin.multicastGroupJoined delay hmulti (by simp) ?_
    by_contra hne
    obtain ⟨d, hd⟩ := ne_none_iff_exists'.1 hne
    exact absurd (h.host groupAddr d hd).joined (by omega)
  · exact hjoin

theorem Inv.leaveMulticastGroup (h : Inv c ie) (hmulti : groupAddr.isMulticast = true) :
    Except.Ensures (fun _ => False) (Inv c) (ie.leaveMulticastGroup c groupAddr) := by
  unfold Interface.leaveMulticastGroup
  dsimp only
  have hother : ∀ g d, g ≠ groupAddr ∨ ie.refCounts groupAddr ≠ 1 →
      ie.hostGroups.lookup g = some d →
      HostSound c (update ie.refCounts groupAddr (ie.refCounts groupAddr - 1) g) g d := by
    intro g d hg hd
    have hsound := h.host g d hd
    refine ⟨hsound.enabled, ?_, hsound.isMulticast, hsound.notLinkLocal, hsound.timer⟩
    have hpos := hsound.joined
    by_cases hgg : g = groupAddr
    · subst hgg
      have hne : ie.refCounts g ≠ 1 := hg.resolve_left (not_not_intro rfl)
      rw [update_self]
      omega
    · rwa [update_of_ne hgg]
  split_ifs with hone
  · -- whatever has been sent, the data of the group is dropped
    have herase : ∀ log, Inv c { ie with
        refCounts := update ie.refCounts groupAddr (ie.refCounts groupAddr - 1)
        hostGroups := ie.hostGroups.erase groupAddr
        log } := by
      intro log
      refine ⟨fun g d hd => ?_, h.router, h.listener, h.nodup, h.querier⟩
      by_cases hgg : g = groupAddr
      · subst hgg
        simp at hd
      · exact hother g d (.inl hgg) (by simpa [AList.lookup_erase_ne hgg] using hd)
    unfold Interface.multicastGroupLeft
    simp only [hmulti, Bool.not_true, Bool.false_eq_true, if_false]
    split_ifs with henabled
    · obtain ⟨-, hlocal⟩ : c.enabled = true ∧ groupAddr.isLinkLocalMulticast = false := by
        simpa using henabled
      cases hlook : ie.hostGroups.lookup groupAddr with
      | none => exact herase ie.log
      | some d =>
        obtain ⟨timer, htimer⟩ := exists_cancelEventIf
          (d.state = .delayingMember) fun _ => (h.host groupAddr d hlook).timer_ne_none
        dsimp only
        rw [htimer]
        simp only [ok_bind]
        split_ifs with hflag
        · rw [sendLeave_eq_ok _ hmulti hlocal]
          exact herase _
        · exact herase ie.log
    · refine ⟨fun g d hd => ?_, h.router, h.listener, h.nodup, h.querier⟩
      refine hother g d (.inl ?_) hd
      rintro rfl
      have hsound := h.host g d hd
      exact henabled (by simp [hsound.enabled, hsound.notLinkLocal])
  · exact ⟨fun g d hd => hother g d (.inr hone) hd, h.router, h.listener, h.nodup, h.querier⟩

/-! ### Timers -/

theorem Inv.processQueryTimer (h : Inv c ie) : Except.Ensures (fun _ => False) (Inv c)
      ({ ie with igmpQueryTimer := some none }.processQueryTimer c now) := by
  unfold Interface.processQueryTimer
  dsimp only
  split_ifs
  · obtain ⟨log, hlog⟩ := sendGeneralQuery_eq_ok
      { ie with igmpRouterState := .querier, igmpQueryTimer := some none } c.queryResponseInterval
    rw [hlog]
    exact (h.setQuerier .querier (some_ne_none _)).log log
  · exact h.setQuerier ie.igmpRouterState (some_ne_none _)

theorem Inv.processHostGroupTimer (h : Inv c ie) {d : HostGroupData}
    (hlook : ie.hostGroups.lookup groupAddr = some d) :
    Except.Ensures (fun _ => False) (Inv c)
      (ie.processHostGroupTimer groupAddr { d with timer := some none }) := by
  have hsound := h.host groupAddr d hlook
  unfold Interface.processHostGroupTimer
  rw [sendReport_eq_ok ie hsound.isMulticast hsound.notLinkLocal]
  exact (h.log _).setHostGroup ⟨hsound.enabled, hsound.joined, hsound.isMulticast,
    hsound.notLinkLocal, .inr ⟨rfl, rfl⟩⟩

theorem Inv.processLeaveTimer (h : Inv c ie) (hlook : ie.routerGroups groupAddr = some d) :
    Except.Ensures (fun _ => False) (Inv c)
      (ie.processLeaveTimer groupAddr { d with timer := some none }) := by
  obtain ⟨timer, htimer⟩ := exists_cancelEventIf (d.state = .checkingMembership)
    fun _ => (h.router groupAddr d hlook).rexmt_ne_none
  unfold Interface.processLeaveTimer
  dsimp only
  rw [htimer]
  exact h.removeRouterGroup _

theorem Inv.processRexmtTimer (h : Inv c ie)
    (hlook : ie.routerGroups groupAddr = some d) (hrexmt : Scheduled d.rexmtTimer) :
    Except.Ensures (fun _ => False) (Inv c)
      (ie.processRexmtTimer c now groupAddr { d with rexmtTimer := some none }) := by
  have hsound := h.router groupAddr d hlook
  have hlocal : groupAddr.isLinkLocalMulticast = false := by
    obtain ⟨-, hidle⟩ | ⟨-, hidle | ⟨-, hlocal⟩⟩ := hsound.rexmt
    · obtain ⟨t, ht⟩ := hrexmt
      simp [hidle] at ht
    · obtain ⟨t, ht⟩ := hrexmt
      simp [hidle] at ht
    · exact hlocal
  obtain ⟨log, hlog⟩ := sendQuery_eq_ok ie c.lastMemberQueryInterval
    (.inr ⟨hsound.isMulticast, hlocal⟩)
  unfold Interface.processRexmtTimer
  rw [hlog]
  refine (h.log log).setRouterGroup ((h.listener groupAddr).2 (by simp [hlook])) ?_
  exact ⟨hsound.isMulticast, hsound.timer, .inr ⟨rfl, .inr ⟨⟨_, rfl⟩, hlocal⟩⟩⟩

/-! ### Messages -/

/-- The reaction succeeds under the condition only, and then everything agrees again. -/
def Reacts (c : Parameters) (condition : Prop) (reaction : Except Fault Interface) : Prop :=
  reaction.Ensures (fun _ => ¬condition) fun ie' => condition ∧ Inv c ie'

theorem Reacts.congr {p q : Prop} {x : Except Fault Interface} (h : Reacts c p x) (hpq : p ↔ q) :
    Reacts c q x :=
  propext hpq ▸ h

theorem Reacts.bind {p : Prop} {α : Type} {P : α → Prop} {x : Except Fault α}
    {f : α → Except Fault Interface} (h : x.Ensures (fun _ => False) P)
    (hf : ∀ a, P a → Reacts c p (f a)) : Reacts c p (x >>= f) := by
  cases x with
  | ok a => exact hf a h
  | error e => exact absurd h not_false

theorem reacts_of_ensures {p : Prop} {x : Except Fault Interface} (hp : p)
    (h : x.Ensures (fun _ => False) (Inv c)) : Reacts c p x := by
  cases x with
  | ok ie' => exact ⟨hp, h⟩
  | error e => exact absurd h not_false

theorem HostSound.processGroupQuery {d : HostGroupData} (h : HostSound c joined groupAddr d)
    (delay : ℚ) (maxRespTime : ℤ) :
    Except.Ensures (fun _ => False) (HostSound c joined groupAddr)
      (processGroupQuery now d delay maxRespTime) := by
  have hnew : ∀ d', d'.state = .delayingMember → Scheduled d'.timer →
      HostSound c joined groupAddr d' := fun d' hstate htimer =>
    ⟨h.enabled, h.joined, h.isMulticast, h.notLinkLocal, .inl ⟨hstate, htimer⟩⟩
  unfold Interface.processGroupQuery
  obtain ⟨hstate, t, ht⟩ | ⟨hstate, htimer⟩ := h.timer
  · simp only [hstate, ht]
    split_ifs
    · exact hnew _ hstate ⟨_, rfl⟩
    · exact h
  · simp only [hstate]
    exact hnew _ rfl ⟨_, rfl⟩

section

variable (h : Inv c ie)
include h

theorem Inv.processHostQuery (delay : IPv4Address → ℚ) (maxRespTime : ℤ) :
    Except.Ensures (fun _ => False) (fun ie' => Inv c ie' ∧ SameRouter ie ie')
      (ie.processHostQuery now delay maxRespTime groupAddr) := by
  unfold Interface.processHostQuery
  cases hlook : ie.hostGroups.lookup groupAddr with
  | none => exact ⟨h, .refl⟩
  | some d =>
    exact ((h.host groupAddr d hlook).processGroupQuery _ _).bind fun d' hd' =>
      ⟨h.setHostGroup hd', rfl, rfl, rfl⟩

/-- What the routers' part of the query handler does with the data of a group. -/
theorem Inv.checkMembership (hlook : ie.routerGroups groupAddr = some d)
    (hstate : d.state = .membersPresent) (arrivalTime : ℚ) :
    Inv c (ie.setRouterGroup groupAddr
      (some { d with timer := some (some arrivalTime), state := .checkingMembership })) := by
  have hsound := h.router groupAddr d hlook
  refine h.setRouterGroup ((h.listener groupAddr).2 (by simp [hlook]))
    ⟨hsound.isMulticast, ⟨_, rfl⟩, .inr ⟨rfl, .inl ?_⟩⟩
  obtain ⟨-, hrexmt⟩ | ⟨hchecking, -⟩ := hsound.rexmt
  · exact hrexmt
  · rw [hstate] at hchecking
    cases hchecking

theorem Inv.processRouterQuery (hc : Routes c) (delay : IPv4Address → ℚ) (sender : IPv4Address)
    (maxRespTime : ℤ) :
    Reacts c (ie.Safe ⟨now, delay, .query sender groupAddr maxRespTime⟩)
      (ie.processRouterQuery c now sender groupAddr maxRespTime) := by
  -- once it is known which router is the querier
  have hgroup : ∀ (ie1 : Interface) (checked : Except Fault Interface), Inv c ie1 →
      ie1.routerGroups = ie.routerGroups →
      (ie1.igmpRouterState = .nonQuerier ↔ sender < ie.address ∨ ie.igmpRouterState = .nonQuerier) →
      (ie1.routerGroups groupAddr = none → checked = throw .nullPointer) →
      (∀ groupData, ie1.routerGroups groupAddr = some groupData → checked =
        if groupData.state = .membersPresent then do
          let maxResponseTime : ℚ := maxRespTime / 10
          let timer ← startTimer groupData.timer (now + maxResponseTime * c.lastMemberQueryCount)
          pure (ie1.setRouterGroup groupAddr
            (some { groupData with timer, state := .checkingMembership }))
        else pure ie1) →
      Reacts c (ie.Safe ⟨now, delay, .query sender groupAddr maxRespTime⟩)
        (if !groupAddr.isUnspecified && ie1.igmpRouterState = .nonQuerier then checked
        else pure ie1) := by
    intro ie1 checked hinv hgroups hstate hnone hsome
    unfold Safe
    dsimp only
    rw [← hstate, ← hgroups]
    split_ifs with hquery
    · have hspec : groupAddr.isUnspecified = false ∧ ie1.igmpRouterState = .nonQuerier := by
        simpa using hquery
      cases hlook : ie1.routerGroups groupAddr with
      | none =>
        rw [hnone hlook]
        exact fun hsafe => hsafe hspec.1 hspec.2 rfl
      | some d =>
        have hsafe : groupAddr.isUnspecified = false → ie1.igmpRouterState = .nonQuerier →
            some d ≠ none := fun _ _ => some_ne_none d
        rw [hsome d hlook]
        dsimp only
        split_ifs with hmembers
        · rw [startTimer_eq_ok (hinv.router groupAddr d hlook).timer.ne_none]
          exact ⟨hsafe, hinv.checkMembership hlook hmembers _⟩
        · exact ⟨hsafe, hinv⟩
    · refine ⟨fun hspec hnon => absurd ?_ hquery, hinv⟩
      simp [hspec, hnon]
  unfold Interface.processRouterQuery
  split_ifs with hlower
  · rw [startTimer_eq_ok (h.querier hc)]
    exact hgroup _ _ (h.setQuerier .nonQuerier (some_ne_none _)) rfl (by simp [hlower])
      (fun hlook => by rw [hlook]) (fun d hlook => by rw [hlook])
  · exact hgroup ie _ h rfl (by simp [hlower]) (fun hlook => by rw [hlook])
      (fun d hlook => by rw [hlook])

theorem Inv.processHostQueries (delay : IPv4Address → ℚ) (maxRespTime : ℤ) :
    Except.Ensures (fun _ => False) (fun ie' => Inv c ie' ∧ SameRouter ie ie')
      (ie.processHostQueries now delay maxRespTime groupAddr) := by
  unfold Interface.processHostQueries
  split_ifs
  · refine Except.Ensures.foldlM (fun ie1 g _ hie1 => ?_) ⟨h, .refl⟩
    exact (hie1.1.processHostQuery delay maxRespTime).mono fun ie2 hie2 =>
      ⟨hie2.1, hie1.2.trans hie2.2⟩
  · exact h.processHostQuery delay maxRespTime

theorem Inv.processQuery (henabled : c.enabled = true) (delay : IPv4Address → ℚ)
    (sender : IPv4Address) (maxRespTime : ℤ) :
    Reacts c (Routes c → ie.Safe ⟨now, delay, .query sender groupAddr maxRespTime⟩)
      (ie.processQuery c now delay sender groupAddr maxRespTime) := by
  unfold Interface.processQuery
  refine Reacts.bind (h.processHostQueries delay maxRespTime) fun ie1 hie1 => ?_
  obtain ⟨hinv, hsame⟩ := hie1
  split_ifs with hforward hexternal
  · exact ⟨fun hc => absurd hexternal (by simp [hc.2.2]), hinv.log _⟩
  · have hc : Routes c := ⟨henabled, hforward, by simpa using hexternal⟩
    have hreact : Reacts c (ie1.Safe ⟨now, delay, .query sender groupAddr maxRespTime⟩) _ :=
      hinv.processRouterQuery hc delay sender maxRespTime
    exact hreact.congr ((hsame.safe_iff _).trans (by simp [hc]))
  · exact ⟨fun hc => absurd hc.2.1 hforward, hinv⟩

theorem Inv.processHostReport :
    Except.Ensures (fun _ => False) (fun ie' => Inv c ie' ∧ SameRouter ie ie')
      (ie.processHostReport groupAddr) := by
  unfold Interface.processHostReport
  cases hlook : ie.hostGroups.lookup groupAddr with
  | none => exact ⟨h, .refl⟩
  | some d =>
    have hsound := h.host groupAddr d hlook
    dsimp only
    split_ifs
    · rw [cancelEvent_eq_ok hsound.timer_ne_none]
      exact ⟨h.setHostGroup ⟨hsound.enabled, hsound.joined, hsound.isMulticast,
        hsound.notLinkLocal, .inr ⟨rfl, rfl⟩⟩, rfl, rfl, rfl⟩
    · exact ⟨h, .refl⟩

end

theorem routerGroupData_of_none (hlook : ie.routerGroups groupAddr = none)
    (hmulti : groupAddr.isMulticast = true) :
    ie.routerGroupData groupAddr = .ok ⟨.noMembersPresent, some none, some none⟩ := by
  simp [routerGroupData, hlook, hmulti]

theorem RouterSound.routerGroupData (h : RouterSound groupAddr d)
    (hlook : ie.routerGroups groupAddr = some d) : ie.routerGroupData groupAddr = .ok d := by
  obtain ⟨timer, htimer⟩ := ne_none_iff_exists'.1 h.timer.ne_none
  obtain ⟨rexmtTimer, hrexmt⟩ := ne_none_iff_exists'.1 h.rexmt_ne_none
  obtain ⟨state, timer', rexmtTimer'⟩ := d
  dsimp only at htimer hrexmt
  subst htimer hrexmt
  simp [Interface.routerGroupData, hlook]

theorem Inv.processRouterReport (h : Inv c ie) (delay : IPv4Address → ℚ) :
    Reacts c (ie.Safe ⟨now, delay, .report groupAddr⟩)
      (ie.processRouterReport c now groupAddr) := by
  unfold Interface.processRouterReport
  cases hlook : ie.routerGroups groupAddr with
  | none =>
    by_cases hmulti : groupAddr.isMulticast = true
    · have hnot : groupAddr ∉ ie.reportedMulticastGroups := fun hmem =>
        (h.listener groupAddr).1 hmem hlook
      have hadd : ie.addMulticastListener groupAddr = .ok { ie with
          reportedMulticastGroups := ie.reportedMulticastGroups ++ [groupAddr] } := by
        simp [addMulticastListener, hmulti, hnot]
      rw [routerGroupData_of_none hlook hmulti, ok_bind, if_pos rfl, hadd]
      exact ⟨hmulti, h.addRouterGroup hlook ⟨hmulti, ⟨_, rfl⟩, .inl ⟨rfl, rfl⟩⟩ _⟩
    · simp only [Interface.routerGroupData, hlook, hmulti]
      exact hmulti
  | some d =>
    have hsound := h.router groupAddr d hlook
    have hmem : groupAddr ∈ ie.reportedMulticastGroups := (h.listener groupAddr).2 (by simp [hlook])
    rw [hsound.routerGroupData hlook, ok_bind]
    obtain ⟨hstate, hrexmt⟩ | ⟨hstate, -⟩ := hsound.rexmt
    · simp only [hstate, hrexmt]
      rw [startTimer_eq_ok hsound.timer.ne_none]
      exact ⟨hsound.isMulticast, h.setRouterGroup hmem
        ⟨hsound.isMulticast, ⟨_, rfl⟩, .inl ⟨rfl, rfl⟩⟩⟩
    · have hcancel : cancelEventIf true d.rexmtTimer = .ok (some none) :=
        cancelEvent_eq_ok hsound.rexmt_ne_none
      simp only [hstate, decide_true, hcancel, startTimer_eq_ok hsound.timer.ne_none]
      exact ⟨hsound.isMulticast, h.setRouterGroup hmem
        ⟨hsound.isMulticast, ⟨_, rfl⟩, .inl ⟨rfl, rfl⟩⟩⟩

theorem Inv.processV2Report (h : Inv c ie) (henabled : c.enabled = true) (delay : IPv4Address → ℚ) :
    Reacts c (Routes c → ie.Safe ⟨now, delay, .report groupAddr⟩)
      (ie.processV2Report c now groupAddr) := by
  unfold Interface.processV2Report
  refine Reacts.bind h.processHostReport fun ie1 hie1 => ?_
  obtain ⟨hinv, hsame⟩ := hie1
  split_ifs with hforward hexternal
  · exact ⟨fun hc => absurd hexternal (by simp [hc.2.2]), hinv.log _⟩
  · have hc : Routes c := ⟨henabled, hforward, by simpa using hexternal⟩
    have hreact : Reacts c (ie1.Safe ⟨now, delay, .report groupAddr⟩) _ :=
      hinv.processRouterReport delay
    exact hreact.congr ((hsame.safe_iff _).trans (by simp [hc]))
  · exact ⟨fun hc => absurd hc.2.1 hforward, hinv⟩

theorem Inv.processRouterLeave (h : Inv c ie) (delay : IPv4Address → ℚ) :
    Reacts c (ie.Safe ⟨now, delay, .leaveGroup groupAddr⟩)
      (ie.processRouterLeave c now groupAddr) := by
  unfold Interface.processRouterLeave Safe
  dsimp only
  cases hlook : ie.routerGroups groupAddr with
  | none => exact ⟨fun _ _ d hd => absurd hd (by simp), h⟩
  | some d =>
    have hsound := h.router groupAddr d hlook
    dsimp only
    split_ifs with hcheck
    · obtain ⟨hstate, hquerier⟩ : d.state = .membersPresent ∧ ie.igmpRouterState = .querier := by
        simpa using hcheck
      rw [startTimer_eq_ok hsound.timer.ne_none, startTimer_eq_ok hsound.rexmt_ne_none]
      by_cases hlocal : groupAddr.isLinkLocalMulticast = true
      · have hfault : ie.sendQuery groupAddr c.lastMemberQueryInterval = .error .assertion := by
          simp [sendQuery, isUnspecified_of_isLinkLocalMulticast hlocal, hlocal]
        simp only [ok_bind, hfault]
        exact fun hsafe => hsafe hquerier hlocal d rfl hstate
      · rw [Bool.not_eq_true] at hlocal
        obtain ⟨log, hlog⟩ := sendQuery_eq_ok ie c.lastMemberQueryInterval
          (.inr ⟨hsound.isMulticast, hlocal⟩)
        simp only [ok_bind, hlog]
        refine ⟨fun _ hlocal' => absurd (hlocal.symm.trans hlocal') (by simp), ?_⟩
        exact (h.log log).setRouterGroup ((h.listener groupAddr).2 (by simp [hlook]))
          ⟨hsound.isMulticast, ⟨_, rfl⟩, .inr ⟨rfl, .inr ⟨⟨_, rfl⟩, hlocal⟩⟩⟩
    · refine ⟨fun hquerier _ d' hd' hstate => hcheck ?_, h⟩
      cases hd'
      simp [hquerier, hstate]

theorem Inv.processLeave (h : Inv c ie) (henabled : c.enabled = true) (delay : IPv4Address → ℚ) :
    Reacts c (Routes c → ie.Safe ⟨now, delay, .leaveGroup groupAddr⟩)
      (ie.processLeave c now groupAddr) := by
  unfold Interface.processLeave
  split_ifs with hforward hexternal
  · exact ⟨fun hc => absurd hexternal (by simp [hc.2.2]), h.log _⟩
  · have hc : Routes c := ⟨henabled, hforward, by simpa using hexternal⟩
    exact (h.processRouterLeave delay).congr (by simp [hc])
  · exact ⟨fun hc => absurd hc.2.1 hforward, h⟩

/-- An event that can happen is handled exactly when it is safe, and keeps the invariant. -/
theorem Inv.handle (h : Inv c ie) {x : Input} (hx : ie.CanHappen x) :
    Reacts c (Routes c → ie.Safe x) (ie.handle c x) := by
  have hdisabled : ¬c.enabled = true → Reacts c (Routes c → ie.Safe x) (pure ie) := fun hoff =>
    ⟨fun hc => absurd hc.1 hoff, h⟩
  obtain ⟨now, delay, event⟩ := x
  cases event with
  | join groupAddr => exact reacts_of_ensures (fun _ => trivial) (h.joinMulticastGroup _ hx)
  | leave groupAddr => exact reacts_of_ensures (fun _ => trivial) (h.leaveMulticastGroup hx)
  | query sender groupAddr maxRespTime =>
    unfold Interface.handle
    dsimp only
    split_ifs with henabled
    · exact h.processQuery henabled delay sender maxRespTime
    · exact hdisabled henabled
  | report groupAddr =>
    unfold Interface.handle
    dsimp only
    split_ifs with henabled
    · exact h.processV2Report henabled delay
    · exact hdisabled henabled
  | leaveGroup groupAddr =>
    unfold Interface.handle
    dsimp only
    split_ifs with henabled
    · exact h.processLeave henabled delay
    · exact hdisabled henabled
  | queryTimer => exact reacts_of_ensures (fun _ => trivial) h.processQueryTimer
  | hostGroupTimer groupAddr =>
    refine reacts_of_ensures (fun _ => trivial) ?_
    unfold Interface.handle
    dsimp only
    cases hlook : ie.hostGroups.lookup groupAddr with
    | none => exact h
    | some d => exact h.processHostGroupTimer hlook
  | leaveTimer groupAddr =>
    refine reacts_of_ensures (fun _ => trivial) ?_
    unfold Interface.handle
    dsimp only
    cases hlook : ie.routerGroups groupAddr with
    | none => exact h
    | some d => exact h.processLeaveTimer hlook
  | rexmtTimer groupAddr =>
    refine reacts_of_ensures (fun _ => trivial) ?_
    have hhappen : (ie.routerGroups groupAddr).map RouterGroupData.rexmtTimer =
      some (some (some now)) := hx
    unfold Interface.handle
    dsimp only
    cases hlook : ie.routerGroups groupAddr with
    | none => exact h
    | some d =>
      rw [hlook] at hhappen
      exact h.processRexmtTimer hlook ⟨now, Option.some.inj hhappen⟩

end Interface

/-! ### Runs -/

section Runs

variable {ι : Type} [DecidableEq ι] {c : Parameters} {x : ι × Input} {n n' : ι → Interface}

theorem handleMessage_eq_ok : handleMessage c n x = .ok n' ↔
      ∃ ie, (n x.1).handle c x.2 = .ok ie ∧ n' = update n x.1 ie := by
  unfold handleMessage
  rw [bind_eq_ok]
  simp [eq_comm]

theorem handleMessage_iff {n : ι → Interface} (h : ∀ i, (n i).Inv c) (hx : CanHappen n x) :
    (∃ n', handleMessage c n x = .ok n') ↔ (Interface.Routes c → (n x.1).Safe x.2) := by
  have hreact := (h x.1).handle hx
  constructor
  · rintro ⟨n', hn'⟩
    obtain ⟨ie, hie, -⟩ := handleMessage_eq_ok.1 hn'
    exact (hreact.of_eq_ok hie).1
  · intro hsafe
    cases hie : (n x.1).handle c x.2 with
    | ok ie => exact ⟨_, handleMessage_eq_ok.2 ⟨ie, hie, rfl⟩⟩
    | error e => exact absurd hsafe (hreact.of_eq_error hie)

theorem handleMessage_inv (h : ∀ i, (n i).Inv c) (hx : CanHappen n x)
    (hstep : handleMessage c n x = .ok n') : ∀ i, (n' i).Inv c := by
  obtain ⟨ie, hie, rfl⟩ := handleMessage_eq_ok.1 hstep
  intro i
  by_cases hi : i = x.1
  · subst hi
    rw [update_self]
    exact (((h x.1).handle hx).of_eq_ok hie).2
  · rw [update_of_ne hi]
    exact h i

omit [DecidableEq ι] in
theorem exists_configureInterfaces (c : Parameters) (address : ι → IPv4Address) :
    ∃ n0 : ι → Interface, (∀ i, configureInterfaces c address i = .ok (n0 i)) ∧
      ∀ i, (n0 i).Inv c := by
  choose n0 hn0 using fun i => Interface.Inv.configureInterface c (address i)
  exact ⟨n0, fun i => (hn0 i).1, fun i => (hn0 i).2⟩

/-- **Group state.**  The interfaces can be configured.  Whatever happens on them from then on, the
states, the timers and the listener lists agree in every state that is reached, and an event that
can happen next is handled exactly when it is safe for a module that does the routers' part. -/
theorem consistent_and_fails_iff (c : Parameters) (address : ι → IPv4Address) :
    ∃ n₀ : ι → Interface, (∀ i, configureInterfaces c address i = .ok (n₀ i)) ∧
      ∀ xs n, Trace.Run (handleMessage c) CanHappen n₀ xs n →
        (∀ i, (n i).Consistent) ∧
        ∀ x, CanHappen n x →
          ((∃ n', handleMessage c n x = .ok n') ↔ (Interface.Routes c → (n x.1).Safe x.2)) := by
  obtain ⟨n₀, hn₀, hinv₀⟩ := exists_configureInterfaces c address
  refine ⟨n₀, hn₀, fun xs n hrun => ?_⟩
  have hinv : ∀ i, (n i).Inv c := hrun.invariant (I := fun n => ∀ i, (n i).Inv c)
    (fun _ _ _ h hx hstep => handleMessage_inv h hx hstep) hinv₀
  exact ⟨fun i => (hinv i).consistent, fun x hx => handleMessage_iff hinv hx⟩

end Runs

theorem consistent_and_fails_iff_report : ∃ n₀ n : Unit → Interface,
    configureInterfaces { multicastForwarding := true } (fun _ => 0x0A000002) () = .ok (n₀ ()) ∧
      Trace.Run (handleMessage { multicastForwarding := true }) CanHappen n₀
        [((), ⟨1, fun _ => 0, .report 0xE0010101⟩)] n ∧ (n ()).Consistent := by
  obtain ⟨n₀, hn₀, hruns⟩ :=
    consistent_and_fails_iff { multicastForwarding := true } fun _ : Unit => 0x0A000002
  have hmulti : isMulticast 0xE0010101 = true := by decide
  obtain ⟨n, hn⟩ := ((hruns [] n₀ (.nil n₀)).2 ((), ⟨1, fun _ => 0, .report 0xE0010101⟩)
    trivial).2 fun _ => hmulti
  have hrun : Trace.Run (handleMessage { multicastForwarding := true }) CanHappen n₀
      [((), ⟨1, fun _ => 0, .report 0xE0010101⟩)] n := .cons trivial hn (.nil n)
  exact ⟨n₀, n, hn₀ (), hrun, (hruns _ n hrun).1 ()⟩

/-- A query of a router with a lower address, for a group without data; a report of an address that
is not multicast; and a leave message for a link-local group that has been reported. -/
theorem not_handled : ∃ n₀ n : Unit → Interface,
    configureInterfaces { multicastForwarding := true } (fun _ => 0x0A000002) () = .ok (n₀ ()) ∧
      handleMessage { multicastForwarding := true } n₀
        ((), ⟨1, fun _ => 0, .query 0x0A000001 0xE0010101 10⟩) = .error .nullPointer ∧
      handleMessage { multicastForwarding := true } n₀
        ((), ⟨1, fun _ => 0, .report 0x0A000001⟩) = .error .assertion ∧
      handleMessage { multicastForwarding := true } n₀
        ((), ⟨1, fun _ => 0, .report 0xE0000005⟩) = .ok n ∧
      handleMessage { multicastForwarding := true } n
        ((), ⟨2, fun _ => 0, .leaveGroup 0xE0000005⟩) = .error .assertion :=
  ⟨fun _ => _, _, rfl, rfl, rfl, rfl, rfl⟩

end Igmp

end Hiwis
