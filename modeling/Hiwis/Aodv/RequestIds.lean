import Hiwis.Aodv.Bookkeeping
import Hiwis.Lib.History

/-!
# Duplicate requests

A node tells requests apart by their number alone.  `Aodv.Suppresses` says what it should do: a
request is discarded exactly when a request of the same originator with the same number has been
seen within `pathDiscoveryTime`.

* `Aodv.Requests.isDuplicate_eq` : what the node does, in terms of its log;
* `Aodv.AODVRouting.requests_run` : it suppresses duplicates and nothing else, as long as requests
  with the same number come from the same originator.
-/

namespace Hiwis

open List Trace History

namespace Aodv

open IPv4Address

/-! ### Reading the log -/

/-- The time of a request. -/
def Observation.time? : Observation → Option ℤ
  | .originated time .. | .accepted time .. | .discarded time .. | .forwarded time .. => some time
  | _ => none

/-- A request that has been sent or received. -/
def Observation.seen? : Observation → Option (ℤ × IPv4Address × ℕ)
  | .originated time originatorAddr rreqId | .accepted time originatorAddr rreqId
  | .discarded time originatorAddr rreqId => some (time, originatorAddr, rreqId)
  | _ => none

/-- A request whose arrival time has been stored, under its number. -/
def Observation.recorded? : Observation → Option (ℤ × ℕ)
  | .originated time _ rreqId | .accepted time _ rreqId => some (time, rreqId)
  | _ => none

section

variable (pathDiscoveryTime : ℤ) (log : List Observation) (now : ℤ) (originatorAddr : IPv4Address)
  (rreqId : ℕ)

/-- A request of this originator with this number has been seen lately. -/
def seen : Bool :=
  log.any fun o => o.seen?.any fun (time, addr, id) =>
    addr == originatorAddr && id == rreqId && decide (now - time ≤ pathDiscoveryTime)

/-- A request with this number has been stored lately. -/
def recorded : Bool :=
  log.any fun o => o.recorded?.any fun (time, id) =>
    id == rreqId && decide (now - time ≤ pathDiscoveryTime)

end

/-- An observation after those in the log. -/
def Suppresses (pathDiscoveryTime : ℤ) (log : List Observation) : Observation → Prop
  | .discarded now originatorAddr rreqId =>
    seen pathDiscoveryTime log now originatorAddr rreqId = true
  | .accepted now originatorAddr rreqId =>
    seen pathDiscoveryTime log now originatorAddr rreqId = false
  | .forwarded now originatorAddr rreqId => ∀ time,
    .forwarded time originatorAddr rreqId ∈ log → pathDiscoveryTime < now - time
  | _ => True

namespace AODVRouting

/-- Time does not go back. -/
def InTime (n : AODVRouting) (now : ℤ) : Prop := ∀ o ∈ n.log, ∀ time ∈ o.time?, time ≤ now

/-- A request whose number has been stored lately is one that has been seen lately. -/
def Recognizable (n : AODVRouting) (m : ℤ × Message) : Prop :=
  n.CanHappen m ∧ n.InTime m.1 ∧ ∀ rreq sourceAddr, m.2.request? = some (rreq, sourceAddr) →
    n.blacklist sourceAddr = none →
    recorded n.pathDiscoveryTime n.log m.1 rreq.rreqId =
      seen n.pathDiscoveryTime n.log m.1 rreq.originatorAddr rreq.rreqId

end AODVRouting

/-! ### The invariant -/

/-- The arrival times are the latest of the log. -/
structure Requests (period : ℤ) (b : Bookkeeping) : Prop where
  pathDiscoveryTime : b.pathDiscoveryTime = period
  stored : ∀ rreqId, ∀ time ∈ b.arrivalTime rreqId, ∃ o ∈ b.log, o.recorded? = some (time, rreqId)
  latest : ∀ o ∈ b.log, ∀ time rreqId, o.recorded? = some (time, rreqId) →
    ∃ time' ∈ b.arrivalTime rreqId, time ≤ time'
  relayed : ∀ time originatorAddr rreqId, .forwarded time originatorAddr rreqId ∈ b.log →
    .accepted time originatorAddr rreqId ∈ b.log
  suppresses : Logged (Suppresses period) b.log

variable {o : Observation} {time : ℤ}

theorem time?_of_recorded? {rreqId : ℕ} (h : o.recorded? = some (time, rreqId)) :
    time ∈ o.time? := by
  cases o <;> first | exact congrArg (Option.map Prod.fst) h | cases h

namespace Requests

variable {period now : ℤ} {n : AODVRouting} {b b' : Bookkeeping} {rreq : RREQ}

/-- What the node compares is whether a request with the number has been stored lately. -/
theorem isDuplicate_eq (h : Requests period n.bookkeeping) :
    n.isDuplicate now rreq = recorded period n.log now rreq.rreqId := by
  rw [AODVRouting.isDuplicate_eq, h.pathDiscoveryTime, Bool.eq_iff_iff]
  simp only [recorded, any_eq_true, Option.any_eq_true, decide_eq_true_eq, Bool.and_eq_true,
    beq_iff_eq]
  constructor
  · rintro ⟨time, htime, hrecent⟩
    obtain ⟨o, ho, hrecorded⟩ := h.stored _ time htime
    exact ⟨o, ho, _, hrecorded, rfl, hrecent⟩
  · rintro ⟨o, ho, ⟨time, rreqId⟩, hrecorded, rfl, hrecent⟩
    obtain ⟨time', htime', hle⟩ := h.latest o ho _ _ hrecorded
    exact ⟨time', htime', by omega⟩

theorem congr (h : Requests period b) (htime : b'.pathDiscoveryTime = b.pathDiscoveryTime)
    (harrival : b'.arrivalTime = b.arrivalTime) (hlog : b'.log = b.log) : Requests period b' := by
  refine ⟨htime ▸ h.pathDiscoveryTime, ?_, ?_, ?_, ?_⟩
  · rw [harrival, hlog]
    exact h.stored
  · rw [harrival, hlog]
    exact h.latest
  · rw [hlog]
    exact h.relayed
  · rw [hlog]
    exact h.suppresses

/-- An observation that stores nothing. -/
theorem observe (h : Requests period b) (hrecorded : o.recorded? = none)
    (hrelayed : ∀ time originatorAddr rreqId, o = .forwarded time originatorAddr rreqId →
      .accepted time originatorAddr rreqId ∈ b.log)
    (hsuppresses : Suppresses period b.log o) : Requests period (b.observe o) := by
  refine ⟨h.pathDiscoveryTime, fun rreqId time htime => ?_, fun o' ho' time rreqId hrecorded' => ?_,
    fun time addr rreqId hforwarded => ?_, logged_concat_iff.2 ⟨h.suppresses, hsuppresses⟩⟩
  · obtain ⟨o', ho', hrecorded'⟩ := h.stored rreqId time htime
    exact ⟨o', mem_append_left _ ho', hrecorded'⟩
  · obtain ho' | ho' := mem_append.1 ho'
    · exact h.latest o' ho' time rreqId hrecorded'
    · cases mem_singleton.1 ho'
      rw [hrecorded] at hrecorded'
      cases hrecorded'
  · refine mem_append_left _ ?_
    obtain hforwarded | hforwarded := mem_append.1 hforwarded
    · exact h.relayed time addr rreqId hforwarded
    · exact hrelayed time addr rreqId (mem_singleton.1 hforwarded).symm

/-- A request whose arrival time is stored. -/
theorem store (h : Requests period b) (htime : ∀ o ∈ b.log, ∀ time ∈ o.time?, time ≤ now)
    {rreqId : ℕ} (hrecorded : o.recorded? = some (now, rreqId))
    (hsuppresses : Suppresses period b.log o) :
    Requests period ((b.observe o).record rreqId now) := by
  refine ⟨h.pathDiscoveryTime, fun id time hstored => ?_, fun o' ho' time id hrecorded' => ?_,
    fun time addr id hforwarded => ?_, logged_concat_iff.2 ⟨h.suppresses, hsuppresses⟩⟩
  · by_cases hid : id = rreqId
    · subst hid
      rw [Bookkeeping.arrivalTime_record_self, Option.mem_some_iff] at hstored
      subst hstored
      exact ⟨o, mem_append_right _ (mem_singleton_self o), hrecorded⟩
    · rw [Bookkeeping.arrivalTime_record_of_ne hid] at hstored
      obtain ⟨o', ho', hrecorded'⟩ := h.stored id time hstored
      exact ⟨o', mem_append_left _ ho', hrecorded'⟩
  · by_cases hid : id = rreqId
    · subst hid
      refine ⟨now, Bookkeeping.arrivalTime_record_self, ?_⟩
      obtain ho' | ho' := mem_append.1 ho'
      · exact htime o' ho' time (time?_of_recorded? hrecorded')
      · cases mem_singleton.1 ho'
        rw [hrecorded] at hrecorded'
        cases hrecorded'
        exact le_rfl
    · obtain ho' | ho' := mem_append.1 ho'
      · obtain ⟨time', htime', hle⟩ := h.latest o' ho' time id hrecorded'
        exact ⟨time', by rwa [Bookkeeping.arrivalTime_record_of_ne hid], hle⟩
      · cases mem_singleton.1 ho'
        rw [hrecorded] at hrecorded'
        cases hrecorded'
        exact absurd rfl hid
  · obtain hforwarded | hforwarded := mem_append.1 hforwarded
    · exact mem_append_left _ (h.relayed time addr id hforwarded)
    · cases mem_singleton.1 hforwarded
      cases hrecorded

/-- The node has forwarded the request before, but not lately. -/
theorem forwarded_once (h : Requests period n.bookkeeping)
    (hduplicate : n.isDuplicate now rreq = false)
    (hforwarded : .forwarded time rreq.originatorAddr rreq.rreqId ∈ n.log) :
    period < now - time := by
  refine not_le.1 fun hle => ?_
  rw [h.isDuplicate_eq, ← Bool.not_eq_true, recorded, any_eq_true] at hduplicate
  exact hduplicate ⟨_, h.relayed _ _ _ hforwarded, by simpa [Observation.recorded?] using hle⟩

/-- A node that accepts a request has not seen it lately. -/
theorem accept (h : Requests period n.bookkeeping) (htime : n.InTime now)
    (hseen : n.isDuplicate now rreq = seen period n.log now rreq.originatorAddr rreq.rreqId)
    (hduplicate : n.isDuplicate now rreq = false) :
    Requests period (n.bookkeeping.accept now rreq) :=
  h.store htime rfl (hseen.symm.trans hduplicate)

theorem step (h : Requests period n.bookkeeping) {m : AODVRouting.Message}
    (hrecognizable : n.Recognizable (now, m)) (hstep : n.Step now m b') : Requests period b' := by
  obtain ⟨-, htime, hrecognized⟩ := hrecognizable
  have hdelay : ∀ datagram, Requests period (n.bookkeeping.delay datagram) := fun datagram =>
    (h.observe (o := .delayed datagram) rfl (by simp) trivial).congr rfl rfl rfl
  have hstart : ∀ datagram rreqId, Requests period (((n.bookkeeping.delay datagram).observe
      (.started datagram.destAddr)).originate now rreqId) := by
    intro datagram rreqId
    refine ((hdelay datagram).observe (o := .started datagram.destAddr) rfl (by simp)
      trivial).store (fun o ho time ho' => ?_) rfl trivial
    simp only [Bookkeeping.log_observe, Bookkeeping.log_delay, append_assoc,
      mem_append, mem_cons, not_mem_nil, or_false] at ho
    obtain ho | rfl | rfl := ho
    · exact htime o ho time ho'
    · cases ho'
    · cases ho'
  have hretry : ∀ target rreqId,
      Requests period ((n.bookkeeping.expire target).originate now rreqId) := fun target rreqId =>
    (h.congr rfl rfl rfl : Requests period (n.bookkeeping.expire target)).store htime rfl trivial
  have hseen : ∀ packet rreq, packet.body = .rreq rreq → n.blacklist packet.srcAddr = none →
      m = .packet packet → n.isDuplicate now rreq =
        seen period n.log now rreq.originatorAddr rreq.rreqId := by
    rintro ⟨srcAddr, destAddr, timeToLive, body⟩ rreq rfl hblack rfl
    have hrecorded := hrecognized rreq srcAddr rfl hblack
    rw [show n.pathDiscoveryTime = period from h.pathDiscoveryTime] at hrecorded
    exact h.isDuplicate_eq.trans hrecorded
  cases hstep with
  | idle | ignore => exact h
  | delay datagram hongoing => exact hdelay datagram
  | start datagram rreqId timer => exact (hstart datagram rreqId).congr rfl rfl rfl
  | startLimited datagram rreqId => exact hstart datagram rreqId
  | retry target rreqId timer => exact (hretry target rreqId).congr rfl rfl rfl
  | retryLimited target rreqId => exact hretry target rreqId
  | giveUp target =>
    exact (h.observe (o := .givenUp target []) rfl (by simp) trivial).congr rfl rfl rfl
  | complete packet target =>
    exact (h.observe (o := .completed target (n.bookkeeping.delayed target)) rfl (by simp)
      trivial).congr rfl rfl rfl
  | discard packet rreq hbody hblack hduplicate =>
    exact h.observe rfl (by simp) ((hseen packet rreq hbody hblack rfl).symm.trans hduplicate)
  | accept packet rreq hbody hblack hduplicate =>
    exact h.accept htime (hseen packet rreq hbody hblack rfl) hduplicate
  | forward packet rreq hbody hblack hduplicate =>
    refine (h.accept htime (hseen packet rreq hbody hblack rfl) hduplicate).observe rfl ?_ ?_
    · intro time originatorAddr rreqId hforwarded
      cases hforwarded
      exact mem_append_right _ (mem_singleton_self _)
    · intro time hforwarded
      obtain hforwarded | hforwarded := mem_append.1 hforwarded
      · exact h.forwarded_once hduplicate hforwarded
      · cases mem_singleton.1 hforwarded

end Requests

/-! ### Runs -/

namespace AODVRouting

/-- **A request is discarded exactly when it has been seen lately**, and forwarded once, after all
messages of a run in which a number that has been stored lately belongs to a request that has been
seen lately. -/
theorem requests_run {config : AodvConfig} {selfIPAddress : IPv4Address}
    {ms : List (ℤ × Message)} {n : AODVRouting}
    (hrun : Run handleMessage Recognizable (initial config selfIPAddress) ms n) :
    Logged (Suppresses config.pathDiscoveryTime) n.log := by
  refine (hrun.invariant (I := fun n => Requests config.pathDiscoveryTime n.bookkeeping)
    (fun n m n' h hrecognizable hstep => ?_) ?_).suppresses
  · exact h.step hrecognizable (handleMessage_step hstep)
  · refine ⟨rfl, fun _ _ htime => ?_, fun _ hmem => ?_, fun _ _ _ hmem => ?_, trivial⟩
    · cases htime
    · cases hmem
    · cases hmem

/-! ### Sample runs -/

instance (n : AODVRouting) (now : ℤ) : Decidable (n.InTime now) :=
  inferInstanceAs (Decidable (∀ o ∈ n.log, ∀ time ∈ o.time?, time ≤ now))

instance (n : AODVRouting) (m : ℤ × Message) : Decidable (n.Recognizable m) :=
  match hrequest : m.2.request? with
  | none => decidable_of_iff (n.CanHappen m ∧ n.InTime m.1) (by simp [Recognizable, hrequest])
  | some (rreq, sourceAddr) =>
    decidable_of_iff (n.CanHappen m ∧ n.InTime m.1 ∧ (n.blacklist sourceAddr = none →
      recorded n.pathDiscoveryTime n.log m.1 rreq.rreqId =
        seen n.pathDiscoveryTime n.log m.1 rreq.originatorAddr rreq.rreqId))
      (by simp [Recognizable, hrequest])

/-- A request that a neighbour relays. -/
def sampleRequest (srcAddr originatorAddr : IPv4Address) (rreqId : ℕ) : Packet where
  srcAddr := srcAddr
  destAddr := allonesAddress
  timeToLive := 5
  body := .rreq {
    gratuitousRREPFlag := false
    unknownSeqNumFlag := true
    hopCount := 1
    rreqId := rreqId
    destAddr := 0x0A000009
    destSeqNum := 0
    originatorAddr := originatorAddr
    originatorSeqNum := 1 }

/-- Two copies of one request, and a request with another number. -/
def sampleFlood : List (ℤ × Message) :=
  [(0, .packet (sampleRequest 0x0A000002 0x0A000004 1)),
    (1, .packet (sampleRequest 0x0A000003 0x0A000004 1)),
    (2, .packet (sampleRequest 0x0A000002 0x0A000005 2))]

theorem requests_run_sample : ∃ n,
    Run handleMessage Recognizable (initial defaultConfig 0x0A000001) sampleFlood n ∧
      n.log = [.accepted 0 0x0A000004 1, .forwarded 0 0x0A000004 1, .discarded 1 0x0A000004 1,
        .accepted 2 0x0A000005 2, .forwarded 2 0x0A000005 2] ∧
      Logged (Suppresses defaultConfig.pathDiscoveryTime) n.log := by
  obtain ⟨n, hrun, hlog⟩ := exists_run_of_exec (f := AODVRouting.log)
    (by decide +kernel : (exec handleMessage Recognizable (initial defaultConfig 0x0A000001)
      sampleFlood).map AODVRouting.log = some [.accepted 0 0x0A000004 1,
        .forwarded 0 0x0A000004 1, .discarded 1 0x0A000004 1, .accepted 2 0x0A000005 2,
        .forwarded 2 0x0A000005 2])
  exact ⟨n, hrun, hlog, requests_run hrun⟩

/-- Two originators that use the same number. -/
theorem not_requests_run : ¬∀ (config : AodvConfig) (selfIPAddress : IPv4Address)
    (ms : List (ℤ × Message)) (n : AODVRouting),
    Run handleMessage (fun n m => n.CanHappen m ∧ n.InTime m.1)
      (initial config selfIPAddress) ms n →
      Logged (Suppresses config.pathDiscoveryTime) n.log := by
  intro h
  obtain ⟨n, hrun, hlog⟩ := exists_run_of_exec (f := AODVRouting.log)
    (by decide +kernel : (exec handleMessage (fun n m => n.CanHappen m ∧ n.InTime m.1)
      (initial defaultConfig 0x0A000001)
      [(0, .packet (sampleRequest 0x0A000002 0x0A000004 1)),
        (1, .packet (sampleRequest 0x0A000003 0x0A000005 1))]).map AODVRouting.log =
        some [.accepted 0 0x0A000004 1, .forwarded 0 0x0A000004 1, .discarded 1 0x0A000005 1])
  have hsuppresses := h _ _ _ n hrun
  rw [hlog] at hsuppresses
  have hseen : seen defaultConfig.pathDiscoveryTime
      [.accepted 0 0x0A000004 1, .forwarded 0 0x0A000004 1] 1 0x0A000005 1 = true :=
    hsuppresses.2.2.1
  exact absurd hseen (by decide)

end AODVRouting

end Aodv

end Hiwis
