import Hiwis.Arp.Timers
import Hiwis.Lib.Ensures
import Hiwis.Lib.Parking

/-!
# Datagrams that wait for a resolution

The queues of `IPv4` follow the resolutions of `ARP` (`Queues`): a datagram waits exactly as long as
the address of its next hop is being resolved.

* `resolutions_run` : every datagram that is put on a queue is sent once, to the MAC address that is
  learnt, or dropped once, by the end of the resolution, provided that a datagram is sent to an
  address that is being resolved only on the interface on which it is being resolved.
-/

namespace Hiwis

open List Except Function Parking Trace

namespace Arp

open State

variable {p : Parameters} {s s' : State} {addr : IPv4Address} {ie : NetworkInterface}
  {d : Datagram} {log : List Output}

/-! ### The log -/

/-- A datagram on a queue, with the interface and the time. -/
structure Queued where
  datagram : Datagram
  ie : NetworkInterface
  now : ℤ
  deriving DecidableEq

/-- The interface and the MAC address of a resolution that has been completed; `none` when it has
failed. -/
abbrev Result : Type := Option (NetworkInterface × MACAddress)

/-- What an output does to the queues. -/
def act? : Output → Option (Act IPv4Address Queued Result)
  | .queued datagram addr ie now => some (.park addr ⟨datagram, ie, now⟩)
  | .completedARPResolution addr macAddress ie => some (.release addr (some (ie, macAddress)))
  | .failedARPResolution addr _ => some (.release addr none)
  | _ => none

/-- The queues, as the log tells them. -/
def lot (log : List Output) : Lot IPv4Address Queued Result := run (log.filterMap act?)

/-- What happens to a datagram when its resolution ends. -/
def outcome (d : Datagram) : Result → Output
  | some (ie, macAddress) => .sent d ie macAddress
  | none => .dropped d

/-- The output lets go of the datagram. -/
def isOutcome (d : Datagram) : Output → Bool
  | .sent d' _ _ | .sentToNIC d' _ | .dropped d' => d' = d
  | _ => false

/-- What has been done with a datagram. -/
def outcomes (d : Datagram) (log : List Output) : List Output := log.filter (isOutcome d)

/-- The resolution of the address ends. -/
def endsResolution (addr : IPv4Address) : Output → Bool
  | .completedARPResolution addr' _ _ | .failedARPResolution addr' _ => addr' = addr
  | _ => false

/-- The datagrams that have been put on a queue. -/
def queuedDatagrams (log : List Output) : List Datagram :=
  log.filterMap fun
    | .queued datagram _ _ _ => some datagram
    | _ => none

theorem lot_append (outs : List Output) :
    lot (log ++ outs) = (outs.filterMap act?).foldl act (lot log) := by
  unfold lot
  rw [filterMap_append, run_append]

variable {outs : List Output}

theorem lot_neutral (h : ∀ out ∈ outs, act? out = none) : lot (log ++ outs) = lot log := by
  rw [lot_append, filterMap_eq_nil_iff.2 h, foldl_nil]

theorem outcomes_append (outs : List Output) :
    outcomes d (log ++ outs) = outcomes d log ++ outcomes d outs :=
  filter_append ..

theorem queuedDatagrams_append (outs : List Output) :
    queuedDatagrams (log ++ outs) = queuedDatagrams log ++ queuedDatagrams outs :=
  filterMap_append ..

theorem mem_queuedDatagrams :
    d ∈ queuedDatagrams log ↔ ∃ addr ie now, .queued d addr ie now ∈ log := by
  unfold queuedDatagrams
  rw [mem_filterMap]
  constructor
  · rintro ⟨out, hout, hd⟩
    cases out <;> cases hd
    exact ⟨_, _, _, hout⟩
  · rintro ⟨addr, ie, now, hmem⟩
    exact ⟨_, hmem, rfl⟩

theorem park_mem_iff {x : Queued} :
    Act.park addr x ∈ log.filterMap act? ↔ .queued x.datagram addr x.ie x.now ∈ log := by
  rw [mem_filterMap]
  constructor
  · rintro ⟨out, hout, hx⟩
    cases out <;> cases hx
    exact hout
  · intro hmem
    exact ⟨_, hmem, rfl⟩

theorem outcomes_map_outcome (q : List Datagram) (r : Result) :
    outcomes d (q.map fun d' => outcome d' r) =
      (q.filter fun d' => d' = d).map fun _ => outcome d r := by
  unfold outcomes
  have hfilter : (isOutcome d ∘ fun d' => outcome d' r) = fun d' => decide (d' = d) := by
    funext d'
    obtain _ | ⟨ie, mac⟩ := r <;> rfl
  rw [filter_map, hfilter]
  refine map_congr_left fun d' hd' => ?_
  rw [of_decide_eq_true (mem_filter.1 hd').2]

theorem firstRelease_eq (outs : List Output) : firstRelease addr (outs.filterMap act?) =
      (outs.find? (endsResolution addr)).map fun
        | .completedARPResolution _ macAddress ie => some (ie, macAddress)
        | _ => none := by
  induction outs with
  | nil => rfl
  | cons out outs ih =>
    cases out with
    | completedARPResolution addr' mac ie =>
      by_cases haddr : addr' = addr
      · simp [act?, firstRelease, endsResolution, haddr]
      · simpa [act?, firstRelease, endsResolution, haddr] using ih
    | failedARPResolution addr' ie =>
      by_cases haddr : addr' = addr
      · simp [act?, firstRelease, endsResolution, haddr]
      · simpa [act?, firstRelease, endsResolution, haddr] using ih
    | queued d addr' ie now => simpa [act?, firstRelease, endsResolution] using ih
    | _ =>
      rw [filterMap_cons_none rfl, ih]
      rfl

/-! ### The invariant -/

/-- The resolution on which a datagram waits. -/
structure Waits (p : Parameters) (s : State) (addr : IPv4Address) (x : Queued) : Prop where
  ie : ∀ e, s.arpCache addr = some e → x.ie = e.ie
  deadline : ∀ e msg time, s.arpCache addr = some e → s.scheduled msg = some ⟨time, addr⟩ →
    time + (p.maxRequests - 1 - e.numRetries) * p.retryTimeout ≤
      x.now + p.maxRequests * p.retryTimeout

/-- The queues follow the resolutions. -/
structure Queues (p : Parameters) (s : State) : Prop where
  pendingPackets : ∀ addr, (s.pendingPackets addr).getD [] =
    ((lot s.log).queue addr).map Queued.datagram
  ne_nil : ∀ addr, s.pendingPackets addr ≠ some []
  isSome_iff : ∀ addr, (s.pendingPackets addr).isSome ↔
    ∃ e, s.arpCache addr = some e ∧ e.pending = true
  waits : ∀ addr, ∀ x ∈ (lot s.log).queue addr, Waits p s addr x
  interface : ∀ y ∈ (lot s.log).out, ∀ ie mac, y.2 = some (ie, mac) → ie = y.1.ie
  nodup : (queuedDatagrams s.log).Nodup
  outcomes_eq : ∀ d ∈ queuedDatagrams s.log, outcomes d s.log =
    ((lot s.log).out.filter fun y => y.1.datagram = d).map fun y => outcome d y.2

theorem queues_initial (p : Parameters) : Queues p {} := by
  refine ⟨fun _ => rfl, fun _ h => ?_, fun addr => ?_, fun _ x hx => ?_,
    fun y hy => ?_, nodup_nil, fun d hd => ?_⟩
  · cases h
  · simp
  · cases hx
  · cases hy
  · cases hd

theorem Queues.eq_none (h : Queues p s)
    (hidle : ∀ e, s.arpCache addr = some e → e.pending = false) : s.pendingPackets addr = none := by
  rw [← Option.not_isSome_iff_eq_none, h.isSome_iff addr]
  rintro ⟨e, he, hpending⟩
  rw [hidle e he] at hpending
  cases hpending

theorem queuedDatagrams_eq_nil (h : ∀ out ∈ outs, ∀ d addr ie now, out ≠ .queued d addr ie now) :
    queuedDatagrams outs = [] := by
  refine filterMap_eq_nil_iff.2 fun out hout => ?_
  cases out with
  | queued d addr ie now => exact absurd rfl (h _ hout d addr ie now)
  | _ => rfl

/-- Outputs that do not concern the queues. -/
theorem Queues.neutral (h : Queues p s) (hpackets : s'.pendingPackets = s.pendingPackets)
    (hpending : ∀ addr, (∃ e, s'.arpCache addr = some e ∧ e.pending = true) ↔
      ∃ e, s.arpCache addr = some e ∧ e.pending = true)
    (hwaits : ∀ addr x, Waits p s addr x → Waits p s' addr x) (hlog : s'.log = s.log ++ outs)
    (hact : ∀ out ∈ outs, act? out = none)
    (hfresh : ∀ d ∈ queuedDatagrams s.log, outcomes d outs = []) : Queues p s' := by
  have hqueued : queuedDatagrams outs = [] := by
    refine queuedDatagrams_eq_nil ?_
    rintro _ hout d addr ie now rfl
    cases hact _ hout
  refine ⟨fun addr => ?_, fun addr => ?_, fun addr => ?_, fun addr x hx => ?_, ?_, ?_,
    fun d hd => ?_⟩
  · rw [hpackets, hlog, lot_neutral hact]
    exact h.pendingPackets addr
  · rw [hpackets]
    exact h.ne_nil addr
  · rw [hpackets, hpending]
    exact h.isSome_iff addr
  · rw [hlog, lot_neutral hact] at hx
    exact hwaits addr x (h.waits addr x hx)
  · rw [hlog, lot_neutral hact]
    exact h.interface
  · rw [hlog, queuedDatagrams_append, hqueued, append_nil]
    exact h.nodup
  · rw [hlog, queuedDatagrams_append, hqueued, append_nil] at hd
    rw [hlog, lot_neutral hact, outcomes_append, hfresh d hd, append_nil]
    exact h.outcomes_eq d hd

variable {out : Output}

/-- A resolution ends: the datagrams of the queue are let go of. -/
theorem Queues.release (h : Queues p s) {r : Result} (hout : act? out = some (.release addr r))
    (hpackets : s'.pendingPackets = update s.pendingPackets addr none)
    (hidle : ∀ e, s'.arpCache addr = some e → e.pending = false)
    (hcache : ∀ addr' ≠ addr, s'.arpCache addr' = s.arpCache addr')
    (hscheduled : ∀ msg timer, s'.scheduled msg = some timer → s.scheduled msg = some timer)
    (hlog : s'.log = s.log ++ out :: ((s.pendingPackets addr).getD []).map fun d => outcome d r)
    (hie : ∀ ie mac, r = some (ie, mac) → ∀ x ∈ (lot s.log).queue addr, ie = x.ie) :
    Queues p s' := by
  have hnone : ∀ out' ∈ ((s.pendingPackets addr).getD []).map fun d => outcome d r,
      act? out' = none := by
    simp only [mem_map]
    rintro _ ⟨d, -, rfl⟩
    obtain _ | ⟨ie, mac⟩ := r <;> rfl
  have hlot : lot s'.log = act (lot s.log) (.release addr r) := by
    rw [hlog, append_cons, lot_neutral hnone, lot_append, filterMap_cons_some hout]
    rfl
  have hqueued : queuedDatagrams s'.log = queuedDatagrams s.log := by
    rw [hlog, queuedDatagrams_append]
    refine (congrArg _ (queuedDatagrams_eq_nil ?_)).trans (append_nil _)
    rintro _ hmem d addr ie now rfl
    obtain rfl | hmem := mem_cons.1 hmem
    · cases hout
    · cases hnone _ hmem
  refine ⟨fun addr' => ?_, fun addr' => ?_, fun addr' => ?_, fun addr' x hx => ?_, ?_, ?_,
    fun d hd => ?_⟩
  · rw [hlot, hpackets]
    by_cases haddr : addr' = addr
    · subst haddr
      simp
    · rw [update_of_ne haddr, act_release_queue_of_ne haddr]
      exact h.pendingPackets addr'
  · rw [hpackets]
    by_cases haddr : addr' = addr
    · subst haddr
      simp
    · rw [update_of_ne haddr]
      exact h.ne_nil addr'
  · rw [hpackets]
    by_cases haddr : addr' = addr
    · subst haddr
      simp only [update_self, Option.isSome_none, Bool.false_eq_true, false_iff]
      rintro ⟨e, he, hpending⟩
      rw [hidle e he] at hpending
      cases hpending
    · rw [update_of_ne haddr, hcache addr' haddr]
      exact h.isSome_iff addr'
  · rw [hlot] at hx
    by_cases haddr : addr' = addr
    · subst haddr
      rw [act_release_queue_self] at hx
      cases hx
    · rw [act_release_queue_of_ne haddr] at hx
      obtain ⟨hie', hdeadline⟩ := h.waits addr' x hx
      refine ⟨?_, ?_⟩
      · rwa [hcache addr' haddr]
      · intro e msg time he hmsg
        rw [hcache addr' haddr] at he
        exact hdeadline e msg time he (hscheduled msg _ hmsg)
  · rw [hlot, act_release_out]
    intro y hy ie mac hmac
    rw [mem_append, mem_map] at hy
    obtain hy | ⟨x, hx, rfl⟩ := hy
    · exact h.interface y hy ie mac hmac
    · exact hie ie mac hmac x hx
  · rw [hqueued]
    exact h.nodup
  · rw [hqueued] at hd
    have hout' : outcomes d (out :: ((s.pendingPackets addr).getD []).map fun d => outcome d r) =
        outcomes d (((s.pendingPackets addr).getD []).map fun d => outcome d r) := by
      refine filter_cons_of_neg ?_
      cases out <;> first | exact Bool.false_ne_true | cases hout
    rw [hlot, act_release_out, hlog, outcomes_append, hout', outcomes_map_outcome,
      h.outcomes_eq d hd, h.pendingPackets addr, filter_append, map_append,
      filter_map, filter_map, map_map, map_map]
    rfl

variable {e : ARPCacheEntry}

/-- A datagram is put on the queue of an address that is being resolved. -/
theorem Queues.enqueue (h : Queues p s)
    (hfresh : d ∉ queuedDatagrams s.log) (hnew : outcomes d s.log = [])
    (hpackets : s'.pendingPackets = (s.enqueue d addr ie).pendingPackets)
    (he : s'.arpCache addr = some e) (hpending : e.pending = true)
    (hcache : ∀ addr' ≠ addr, s'.arpCache addr' = s.arpCache addr')
    (hscheduled : ∀ addr' ≠ addr, ∀ msg time, s'.scheduled msg = some ⟨time, addr'⟩ →
      s.scheduled msg = some ⟨time, addr'⟩)
    (hlog : s'.log = s.log ++ .queued d addr ie s.now :: outs)
    (houts : ∀ out ∈ outs, act? out = none ∧ ∀ d, isOutcome d out = false)
    (hold : ∀ x ∈ (lot s.log).queue addr, Waits p s' addr x)
    (hwaits : Waits p s' addr ⟨d, ie, s.now⟩) : Queues p s' := by
  have hlot : lot s'.log = act (lot s.log) (.park addr ⟨d, ie, s.now⟩) := by
    rw [hlog, append_cons, lot_neutral fun out hout => (houts out hout).1, lot_append]
    rfl
  have hqueued : queuedDatagrams s'.log = queuedDatagrams s.log ++ [d] := by
    have hnil : queuedDatagrams outs = [] := by
      refine queuedDatagrams_eq_nil ?_
      rintro _ hmem d addr ie now rfl
      cases (houts _ hmem).1
    rw [hlog, append_cons, queuedDatagrams_append, queuedDatagrams_append, hnil, append_nil]
    rfl
  have houtcomes : ∀ d', outcomes d' s'.log = outcomes d' s.log := by
    intro d'
    rw [hlog, outcomes_append]
    have hnil : outcomes d' (.queued d addr ie s.now :: outs) = [] := by
      refine filter_eq_nil_iff.2 fun out hout => ?_
      obtain rfl | hout := mem_cons.1 hout
      · exact Bool.false_ne_true
      · rw [(houts out hout).2 d']
        exact Bool.false_ne_true
    rw [hnil, append_nil]
  refine ⟨fun addr' => ?_, fun addr' => ?_, fun addr' => ?_, fun addr' x hx => ?_, ?_, ?_,
    fun d' hd' => ?_⟩
  · rw [hlot, hpackets]
    by_cases haddr : addr' = addr
    · subst haddr
      simp [State.enqueue, h.pendingPackets addr']
    · rw [act_park_queue_of_ne haddr, State.enqueue]
      dsimp only
      rw [update_of_ne haddr]
      exact h.pendingPackets addr'
  · rw [hpackets, State.enqueue]
    dsimp only
    by_cases haddr : addr' = addr
    · subst haddr
      simp
    · rw [update_of_ne haddr]
      exact h.ne_nil addr'
  · rw [hpackets, State.enqueue]
    dsimp only
    by_cases haddr : addr' = addr
    · subst haddr
      simp [he, hpending]
    · rw [update_of_ne haddr, hcache addr' haddr]
      exact h.isSome_iff addr'
  · rw [hlot] at hx
    by_cases haddr : addr' = addr
    · subst haddr
      rw [act_park_queue_self, mem_append, mem_singleton] at hx
      obtain hx | rfl := hx
      · exact hold x hx
      · exact hwaits
    · rw [act_park_queue_of_ne haddr] at hx
      obtain ⟨hie', hdeadline⟩ := h.waits addr' x hx
      refine ⟨?_, ?_⟩
      · rwa [hcache addr' haddr]
      · intro e msg time he hmsg
        rw [hcache addr' haddr] at he
        exact hdeadline e msg time he (hscheduled addr' haddr msg time hmsg)
  · rw [hlot]
    exact h.interface
  · rw [hqueued, nodup_append]
    exact ⟨h.nodup, nodup_singleton d, by rintro x hx _ hy rfl; simp_all⟩
  · rw [houtcomes d', hlot, act_park_out]
    rw [hqueued, mem_append, mem_singleton] at hd'
    obtain hd' | rfl := hd'
    · exact h.outcomes_eq d' hd'
    · -- nothing has been done yet with a datagram that was not on a queue
      rw [hnew, eq_comm, map_eq_nil_iff, filter_eq_nil_iff]
      intro y hy hyd
      obtain ⟨k, hk⟩ := (parked_run _).2 y hy
      rw [park_mem_iff] at hk
      refine hfresh (mem_queuedDatagrams.2 ⟨k, y.1.ie, y.1.now, ?_⟩)
      rwa [← of_decide_eq_true hyd]

/-! ### Steps -/

/-- A datagram is sent to an address that is being resolved only on the interface on which it is
being resolved. -/
def SameInterface (p : Parameters) (s : State) (a : ℤ × Input) : Prop :=
  match a.2 with
  | .datagram d ie nextHopAddr => ie.isIeee802Lan = true →
      ∀ e ∈ (nextHop p d nextHopAddr).toOption.bind s.arpCache, e.pending = true → e.ie = ie
  | _ => True

instance (p : Parameters) (s : State) (a : ℤ × Input) : Decidable (SameInterface p s a) :=
  match a with
  | (_, .datagram d ie nextHopAddr) =>
    inferInstanceAs (Decidable (ie.isIeee802Lan = true →
      ∀ e ∈ (nextHop p d nextHopAddr).toOption.bind s.arpCache, e.pending = true → e.ie = ie))
  | (_, .arpPacket _ _ _) => inferInstanceAs (Decidable True)
  | (_, .selfMessage _) => inferInstanceAs (Decidable True)

variable {mac : MACAddress}

theorem groupMacAddress_specified
    (h : groupMacAddress addr ie = .ok (some mac)) : mac.isUnspecified = false := by
  unfold groupMacAddress at h
  split at h
  · cases h
    decide
  · split at h
    · cases h
    split at h
    · cases h
      decide
    split at h <;> cases h
    · -- the first octets of a multicast address are fixed
      unfold MACAddress.isUnspecified MACAddress.makeMulticastAddress
      rw [beq_eq_false_iff_ne]
      intro hzero
      have hor := BitVec.or_eq_zero_iff.1 hzero
      exact absurd hor.1 (by decide)

/-- The invariant of the two modules. -/
structure Inv (p : Parameters) (s : State) : Prop where
  timed : Timed p s
  queues : Queues p s

theorem inv_initial (p : Parameters) : Inv p {} := ⟨timed_initial p, queues_initial p⟩

variable {now : ℤ}

theorem Inv.setNow (h : Inv p s) (hle : s.now ≤ now)
    (hnext : ∀ msg < s.nextMsg, ∀ timer ∈ s.scheduled msg, now ≤ timer.arrivalTime) :
    Inv p { s with now := now } := by
  refine ⟨h.timed.setNow hle hnext, h.queues.pendingPackets, h.queues.ne_nil, h.queues.isSome_iff,
    fun addr x hx => ?_, h.queues.interface, h.queues.nodup, h.queues.outcomes_eq⟩
  obtain ⟨hie, hdeadline⟩ := h.queues.waits addr x hx
  exact ⟨hie, hdeadline⟩

/-- An output that does not concern the queues. -/
theorem Inv.emit (h : Inv p s) (hact : act? out = none)
    (hfresh : ∀ d ∈ queuedDatagrams s.log, isOutcome d out = false) : Inv p (s.emit out) := by
  refine ⟨h.timed.congr rfl rfl rfl rfl, h.queues.neutral rfl (fun _ => Iff.rfl)
    (fun _ _ hx => ⟨hx.ie, hx.deadline⟩) rfl ?_ ?_⟩
  · rintro _ hout
    rw [mem_singleton.1 hout]
    exact hact
  · intro d hd
    refine filter_eq_nil_iff.2 fun out' hout => ?_
    rw [mem_singleton.1 hout, hfresh d hd]
    exact Bool.false_ne_true

/-- A datagram that is handed over has not been on a queue. -/
theorem not_mem_queuedDatagrams (h : ∀ out ∈ s.log, out.datagram? ≠ some d) :
    d ∉ queuedDatagrams s.log := by
  intro hd
  obtain ⟨addr, ie, now, hmem⟩ := mem_queuedDatagrams.1 hd
  exact h _ hmem rfl

theorem outcomes_eq_nil (h : ∀ out ∈ s.log, out.datagram? ≠ some d) : outcomes d s.log = [] := by
  refine filter_eq_nil_iff.2 fun out hout hd => h out hout ?_
  cases out <;> first | cases hd | exact congrArg some (of_decide_eq_true hd)

/-- A datagram waits for the resolution that begins or goes on. -/
theorem Inv.enqueue (h : Inv p s) (hnew : ∀ out ∈ s.log, out.datagram? ≠ some d)
    (hgroup : groupMacAddress addr ie = .ok none)
    (hsame : ∀ e, s.arpCache addr = some e → e.pending = true → e.ie = ie)
    (hok : (s.enqueue d addr ie).startAddressResolution p addr ie = .ok s') : Inv p s' := by
  have htimed : Timed p (s.enqueue d addr ie) := h.timed.congr rfl rfl rfl rfl
  have hfresh := not_mem_queuedDatagrams hnew
  have hnone := outcomes_eq_nil hnew
  obtain ⟨hglobal, ⟨e, he, hpending, rfl⟩ | ⟨e, hidle, rfl, hinit⟩⟩ :=
    startAddressResolution_eq_ok hok
  · refine ⟨htimed, h.queues.enqueue hfresh hnone rfl he hpending (fun _ _ => rfl)
      (fun _ _ _ _ => id) rfl (fun out hout => ?_)
      (fun x hx => ⟨(h.queues.waits addr x hx).ie, (h.queues.waits addr x hx).deadline⟩)
      ⟨fun e' he' => ?_, ?_⟩⟩
    · cases hout
    · change s.arpCache addr = some e' at he'
      rw [show s.arpCache addr = some e from he] at he'
      cases he'
      exact (hsame e he hpending).symm
    · intro e' msg time he' hmsg
      change s.arpCache addr = some e' at he'
      change s.scheduled msg = some ⟨time, addr⟩ at hmsg
      obtain ⟨hlt, hnow, hle, e'', he'', hpending', -⟩ := h.timed.scheduled msg _ hmsg
      dsimp only at he'' hle ⊢
      rw [he'] at he''
      cases he''
      have hretries := ((h.timed.entries addr e' he').numRetries hpending').1
      have hrto : 0 ≤ p.retryTimeout := by
        dsimp only at hnow
        omega
      -- the timer was set at most `retryTimeout` ago
      have hpast := mul_nonneg hretries hrto
      have hsplit : (p.maxRequests - 1 - e'.numRetries) * p.retryTimeout =
          p.maxRequests * p.retryTimeout - p.retryTimeout - e'.numRetries * p.retryTimeout := by
        ring
      linarith
  · have htimed' := htimed.initiate hidle hgroup hglobal hinit
    obtain ⟨hrto, arp, rfl⟩ := initiateARPResolution_eq_ok hinit
    have hempty : (lot s.log).queue addr = [] := by
      rw [← map_eq_nil_iff (f := Queued.datagram), ← h.queues.pendingPackets addr,
        h.queues.eq_none hidle]
      rfl
    have hlog : s.log ++ [.queued d addr e.ie s.now] ++
        [.arpSent arp e.ie .broadcastAddress, .initiatedARPResolution addr e.ie] =
        s.log ++ .queued d addr e.ie s.now ::
          [.arpSent arp e.ie .broadcastAddress, .initiatedARPResolution addr e.ie] :=
      append_assoc ..
    refine ⟨htimed', h.queues.enqueue hfresh hnone rfl (update_self ..) rfl
      (fun addr' haddr => update_of_ne haddr ..) (fun addr' haddr msg time hmsg => ?_)
      hlog ?_ (fun x hx => ?_) ⟨fun e' he' => ?_, ?_⟩⟩
    · dsimp only at hmsg
      by_cases hm : msg = s.nextMsg
      · subst hm
        rw [show (s.enqueue d addr e.ie).nextMsg = s.nextMsg from rfl, update_self] at hmsg
        cases hmsg
        exact absurd rfl haddr
      · rwa [update_of_ne (by exact hm)] at hmsg
    · intro out hout
      simp only [mem_cons, not_mem_nil, or_false] at hout
      obtain rfl | rfl := hout <;> exact ⟨rfl, fun _ => rfl⟩
    · rw [hempty] at hx
      cases hx
    · dsimp only at he'
      rw [update_self] at he'
      cases he'
      rfl
    · intro e' msg time he' hmsg
      dsimp only at he' hmsg
      rw [update_self] at he'
      cases he'
      -- the timer of the new resolution is the only one of this address
      have htime : time = s.now + p.retryTimeout := by
        by_cases hm : msg = s.nextMsg
        · subst hm
          rw [show (s.enqueue d addr e.ie).nextMsg = s.nextMsg from rfl, update_self] at hmsg
          cases hmsg
          rfl
        · rw [update_of_ne (by exact hm)] at hmsg
          obtain ⟨-, -, -, e'', he'', hpending', -⟩ := h.timed.scheduled msg _ hmsg
          rw [hidle e'' he''] at hpending'
          cases hpending'
      subst htime
      dsimp only [initiated]
      have hsplit : (p.maxRequests - 1 - 0) * p.retryTimeout =
          p.maxRequests * p.retryTimeout - p.retryTimeout := by
        ring
      linarith

/-- An address is learnt, by the entry that is in the cache or by a new one. -/
theorem Inv.updateARPCache (h : Inv p s)
    (he : s.arpCache addr = some e ∨ s.arpCache addr = none ∧ e.pending = false ∧ e.timer = none)
    (hmac : mac.isUnspecified = false) (hok : s.updateARPCache addr e mac = .ok s') :
    Inv p s' := by
  obtain rfl := updateARPCache_eq_ok hok
  -- the messages that stay scheduled are those of other addresses
  have hcancelled : ∀ msg timer, s.cancelled e msg = some timer ↔
      s.scheduled msg = some timer ∧ timer.contextPointer ≠ addr := by
    obtain he | ⟨hnone, hidle, -⟩ := he
    · exact h.timed.cancelled_iff he
    · intro msg timer
      simp only [cancelled, hidle, Bool.false_eq_true, false_and, if_false]
      refine ⟨fun ht => ⟨ht, ?_⟩, And.left⟩
      rintro rfl
      obtain ⟨e', he', -⟩ := (h.timed.scheduled msg timer ht).entry
      rw [hnone] at he'
      cases he'
  have htimer : e.pending = false → e.timer = none := by
    obtain he | ⟨-, -, htimer⟩ := he
    · exact (h.timed.entries addr e he).timer_eq_none
    · exact fun _ => htimer
  have hlearnt : (s.learnt e mac).timer = none := by
    cases hpending : e.pending
    · simp [learnt, hpending, htimer hpending]
    · simp [learnt, hpending]
  refine ⟨h.timed.finish (fun e' he' => ?_) rfl hcancelled rfl rfl,
    h.queues.release (r := some (e.ie, mac)) rfl rfl (fun e' he' => ?_)
      (fun addr' haddr => update_of_ne haddr ..)
      (fun msg timer ht => ((hcancelled msg timer).1 ht).1) rfl ?_⟩
  · obtain rfl : s.learnt e mac = e' := Option.some.inj he'
    refine ⟨⟨fun _ => hlearnt, fun _ => hmac, fun hp => ?_, fun hp => ?_, fun hp => ?_,
      fun hp => ?_⟩, rfl⟩ <;> cases hp
  · dsimp only at he'
    rw [update_self] at he'
    cases he'
    rfl
  · rintro ie' mac' hr x hx
    cases hr
    obtain he | ⟨hnone, -, -⟩ := he
    · exact ((h.queues.waits addr x hx).ie e he).symm
    · -- nothing waits for an address that is not in the cache
      have hempty : s.pendingPackets addr = none :=
        h.queues.eq_none fun e' he' => by rw [hnone] at he'; cases he'
      have hqueue := h.queues.pendingPackets addr
      rw [hempty, Option.getD_none, eq_comm, map_eq_nil_iff] at hqueue
      rw [hqueue] at hx
      cases hx

variable {msg : ℕ}

/-- A retry timer fires at its time. -/
theorem Inv.handleSelfMessage (h : Inv p s)
    (hnow : ∃ timer ∈ s.scheduled msg, timer.arrivalTime = s.now)
    (hok : s.handleSelfMessage p msg = .ok s') : Inv p s' := by
  obtain ⟨timer, e, ht, he, ⟨hretry, hrto, arp, rfl⟩ | ⟨hlast, rfl⟩⟩ := handleSelfMessage_eq_ok hok
  · obtain ⟨hpending, hmsg⟩ := h.timed.timer_eq ht he
    refine ⟨h.timed.retry ht he hretry hrto rfl rfl rfl rfl, h.queues.neutral rfl (fun addr => ?_)
      (fun addr x hx => ⟨fun e' he' => ?_, fun e' msg' time he' hmsg' => ?_⟩) rfl ?_ ?_⟩
    · dsimp only
      by_cases haddr : addr = timer.contextPointer
      · subst haddr
        simp [he, hpending]
      · rw [update_of_ne haddr]
    · dsimp only at he'
      by_cases haddr : addr = timer.contextPointer
      · subst haddr
        rw [update_self] at he'
        cases he'
        exact hx.ie e he
      · rw [update_of_ne haddr] at he'
        exact hx.ie e' he'
    · dsimp only at he' hmsg'
      obtain ⟨timer', ht', harrival⟩ := hnow
      obtain rfl : timer = timer' := Option.some.inj (ht.symm.trans ht')
      by_cases haddr : addr = timer.contextPointer
      · subst haddr
        rw [update_self] at he'
        cases he'
        have hm : msg' = msg := by
          by_contra hm
          rw [update_of_ne hm] at hmsg'
          have htimer := (h.timed.timer_eq hmsg' he).2
          exact hm (Option.some.inj (htimer.symm.trans hmsg))
        subst hm
        rw [update_self] at hmsg'
        obtain rfl : s.now + p.retryTimeout = time :=
          congrArg Timer.arrivalTime (Option.some.inj hmsg')
        have hold := hx.deadline e msg' timer.arrivalTime he ht
        have hsplit : (p.maxRequests - 1 - (e.numRetries + 1)) * p.retryTimeout =
            (p.maxRequests - 1 - e.numRetries) * p.retryTimeout - p.retryTimeout := by
          ring
        dsimp only
        linarith
      · rw [update_of_ne haddr] at he'
        have hm : msg' ≠ msg := by
          rintro rfl
          rw [update_self] at hmsg'
          exact haddr (congrArg Timer.contextPointer (Option.some.inj hmsg')).symm
        rw [update_of_ne hm] at hmsg'
        exact hx.deadline e' msg' time he' hmsg'
    · intro out hout
      rw [mem_singleton.1 hout]
      rfl
    · intro d _
      rfl
  · have hcancel : ∀ msg' timer', (s.cancelEvent msg).scheduled msg' = some timer' ↔
        s.scheduled msg' = some timer' ∧ timer'.contextPointer ≠ timer.contextPointer := by
      intro msg' timer'
      unfold cancelEvent
      dsimp only
      by_cases hm : msg' = msg
      · subst hm
        rw [update_self]
        refine ⟨fun h => absurd h (Option.some_ne_none _).symm, fun ⟨ht', hne⟩ => ?_⟩
        rw [ht] at ht'
        cases ht'
        exact absurd rfl hne
      · rw [update_of_ne hm]
        refine ⟨fun ht' => ⟨ht', fun heq => ?_⟩, And.left⟩
        rw [← heq] at he
        have htimer := (h.timed.timer_eq ht' he).2
        rw [heq] at he
        exact hm (Option.some.inj (htimer.symm.trans (h.timed.timer_eq ht he).2))
    have hlog : s.log ++ [.failedARPResolution timer.contextPointer e.ie] ++
        ((s.pendingPackets timer.contextPointer).getD []).map .dropped =
        s.log ++ .failedARPResolution timer.contextPointer e.ie ::
          ((s.pendingPackets timer.contextPointer).getD []).map fun d => outcome d none :=
      append_assoc ..
    refine ⟨h.timed.finish (fun e' he' => ?_) rfl hcancel rfl rfl,
      h.queues.release (r := none) rfl rfl (fun e' he' => ?_)
        (fun addr' haddr => update_of_ne haddr ..)
        (fun msg' timer' ht' => ((hcancel msg' timer').1 ht').1) hlog ?_⟩
    · cases he'
    · unfold resolutionFailed eraseEntry at he'
      dsimp only at he'
      rw [update_self] at he'
      cases he'
    · intro ie' mac' hr
      cases hr

variable {rt : IRoutingTable} {arp : ARPPacket}

theorem Inv.processARPPacket (h : Inv p s) (hok : s.processARPPacket p arp ie rt = .ok s') :
    Inv p s' := by
  unfold State.processARPPacket at hok
  split_ifs at hok with hsource
  rw [Bool.or_eq_true, not_or, Bool.not_eq_true, Bool.not_eq_true] at hsource
  change (s.mergeSender arp ie _ >>= _) = .ok s' at hok
  rw [bind_eq_ok] at hok
  obtain ⟨s1, hmerge, hanswer⟩ := hok
  have h1 : Inv p s1 := by
    unfold mergeSender at hmerge
    split at hmerge
    · rename_i e he
      exact h.updateARPCache (.inl he) hsource.1 hmerge
    · rename_i hnone
      split_ifs at hmerge
      · exact h.updateARPCache (.inr ⟨hnone, rfl, rfl⟩) hsource.1 hmerge
      · cases hmerge
        exact h
  split_ifs at hanswer
  · unfold answer at hanswer
    split_ifs at hanswer
    · cases hanswer
      exact h1.emit rfl fun _ _ => rfl
    · cases hanswer
      exact h1
  · cases hanswer
    exact h1

variable {nextHopAddr : IPv4Address}

theorem Inv.sendDatagramToOutput (h : Inv p s) (hnew : ∀ out ∈ s.log, out.datagram? ≠ some d)
    (hsame : SameInterface p s (s.now, .datagram d ie nextHopAddr))
    (hok : s.sendDatagramToOutput p d ie nextHopAddr = .ok s') : Inv p s' := by
  have hne : ∀ d' ∈ queuedDatagrams s.log, d ≠ d' := by
    rintro _ hd' rfl
    exact not_mem_queuedDatagrams hnew hd'
  unfold State.sendDatagramToOutput at hok
  split_ifs at hok with hlan
  · cases hok
    exact h.emit rfl fun d' hd' => decide_eq_false (hne d' hd')
  rw [bind_eq_ok] at hok
  obtain ⟨addr, hnext, hok⟩ := hok
  rw [bind_eq_ok] at hok
  obtain ⟨mac, hmac, hok⟩ := hok
  unfold sendOrEnqueue at hok
  split_ifs at hok with hunspecified
  · -- the address is looked up in the cache
    unfold resolveNextHopMacAddress at hmac
    cases hgroup : groupMacAddress addr ie with
    | error e =>
      rw [hgroup] at hmac
      cases hmac
    | ok group =>
      rw [hgroup] at hmac
      cases group with
      | none =>
        refine h.enqueue hnew hgroup (fun e he => ?_) hok
        exact hsame (by simpa using hlan) e (by rw [hnext]; exact he)
      | some mac' =>
        cases hmac
        change mac'.isUnspecified = true at hunspecified
        rw [groupMacAddress_specified hgroup] at hunspecified
        cases hunspecified
  · cases hok
    exact h.emit rfl fun d' hd' => decide_eq_false (hne d' hd')

variable {a : ℤ × Input}

theorem Inv.step (h : Inv p s) (hcan : CanHappen s a) (hsame : SameInterface p s a)
    (hok : step p s a = .ok s') : Inv p s' := by
  obtain ⟨hnow, hnext, hinput⟩ := hcan
  have h1 := h.setNow hnow hnext
  obtain ⟨now, input⟩ := a
  cases input with
  | datagram d ie nextHopAddr => exact h1.sendDatagramToOutput hinput hsame hok
  | arpPacket arp ie rt => exact h1.processARPPacket hok
  | selfMessage msg => exact h1.handleSelfMessage hinput hok

/-! ### The assertion on the queues -/

/-- The computation does not fail by the assertion on the queues. -/
abbrev Keeps (x : Except ArpFault State) : Prop :=
  x.Ensures (fun e => e ≠ .pendingQueueNotEmpty) fun _ => True

theorem keeps_sendARPRequest : Keeps (s.sendARPRequest ie addr) := by
  unfold sendARPRequest
  split
  · exact ArpFault.noConfusion
  · split_ifs
    · exact ArpFault.noConfusion
    · trivial

theorem keeps_scheduleAt {time : ℤ} : Keeps (s.scheduleAt msg time addr) := by
  unfold scheduleAt
  split_ifs
  · exact ArpFault.noConfusion
  · trivial

theorem keeps_initiateARPResolution : Keeps (s.initiateARPResolution p addr e) := by
  unfold initiateARPResolution
  refine keeps_sendARPRequest.bind fun s1 _ => keeps_scheduleAt.bind fun s2 _ => trivial

theorem keeps_startAddressResolution : Keeps (s.startAddressResolution p addr ie) := by
  unfold startAddressResolution
  split_ifs
  · exact ArpFault.noConfusion
  · split
    · exact keeps_initiateARPResolution
    · split_ifs
      · trivial
      · exact keeps_initiateARPResolution

theorem keeps_handleSelfMessage : Keeps (s.handleSelfMessage p msg) := by
  unfold handleSelfMessage
  split
  · exact ArpFault.noConfusion
  · unfold requestTimedOut
    split
    · exact ArpFault.noConfusion
    · split_ifs
      · exact keeps_sendARPRequest.bind fun s1 _ => keeps_scheduleAt
      · trivial

theorem keeps_updateARPCache : Keeps (s.updateARPCache addr e mac) := by
  unfold updateARPCache
  split_ifs
  · split
    · exact ArpFault.noConfusion
    · trivial
  · trivial

theorem keeps_processARPPacket :
    Keeps (s.processARPPacket p arp ie rt) := by
  unfold State.processARPPacket
  split_ifs
  · exact ArpFault.noConfusion
  · have hmerge : Keeps (s.mergeSender arp ie (addressRecognized p rt arp.destIPAddress ie)) := by
      unfold mergeSender
      split
      · exact keeps_updateARPCache
      · split_ifs
        · exact keeps_updateARPCache
        · trivial
    refine hmerge.bind fun s1 _ => ?_
    split_ifs
    · unfold answer
      split_ifs
      · exact ArpFault.noConfusion
      · trivial
      · trivial
      · exact ArpFault.noConfusion
    · trivial

/-- The queue of an address whose MAC address is known is empty. -/
theorem Inv.pendingPackets_eq_none (h : Inv p s)
    (hsame : ∀ e, s.arpCache addr = some e → e.pending = true → e.ie = ie)
    (hmac : s.resolveNextHopMacAddress p addr ie = .ok mac)
    (hspecified : mac.isUnspecified = false) : s.pendingPackets addr = none := by
  refine h.queues.eq_none fun e he => Bool.eq_false_iff.2 fun hpending => ?_
  have hentry := h.timed.entries addr e he
  have hgroup := hentry.group hpending
  rw [hsame e he hpending] at hgroup
  unfold resolveNextHopMacAddress at hmac
  rw [hgroup] at hmac
  cases hmac
  have hlookup : s.getMACAddressFor p addr = .unspecifiedAddress := by
    simp [getMACAddressFor, hentry.globalARP hpending, he, hpending]
  change (s.getMACAddressFor p addr).isUnspecified = false at hspecified
  rw [hlookup] at hspecified
  cases hspecified

theorem Inv.keeps_sendDatagramToOutput (h : Inv p s)
    (hsame : SameInterface p s (s.now, .datagram d ie nextHopAddr)) :
    Keeps (s.sendDatagramToOutput p d ie nextHopAddr) := by
  unfold State.sendDatagramToOutput
  split_ifs with hlan
  · trivial
  cases hnext : nextHop p d nextHopAddr with
  | error e =>
    unfold nextHop at hnext
    split_ifs at hnext
    cases hnext
    exact ArpFault.noConfusion
  | ok addr =>
    rw [ok_bind]
    cases hmac : s.resolveNextHopMacAddress p addr ie with
    | error e =>
      unfold resolveNextHopMacAddress groupMacAddress at hmac
      split at hmac
      · cases hmac
      split at hmac
      · cases hmac
        exact ArpFault.noConfusion
      split at hmac
      · cases hmac
      split at hmac <;> cases hmac
    | ok mac =>
      rw [ok_bind]
      unfold sendOrEnqueue
      split_ifs with hunspecified hsome
      · exact keeps_startAddressResolution
      · have hnone := h.pendingPackets_eq_none
          (fun e he => hsame (by simpa using hlan) e (by rw [hnext]; exact he)) hmac
          (Bool.eq_false_iff.2 hunspecified)
        rw [hnone] at hsome
        cases hsome
      · trivial

theorem Inv.keeps_step (h : Inv p s) (hcan : CanHappen s a) (hsame : SameInterface p s a) :
    Keeps (Arp.step p s a) := by
  obtain ⟨hnow, hnext, -⟩ := hcan
  obtain ⟨now, input⟩ := a
  cases input with
  | datagram d ie nextHopAddr => exact (h.setNow hnow hnext).keeps_sendDatagramToOutput hsame
  | arpPacket arp ie rt => exact keeps_processARPPacket
  | selfMessage msg => exact keeps_handleSelfMessage

/-! ### Runs -/

/-- What has become of a datagram that was put on a queue, when the outputs after that are `later`:
it has been sent, or dropped, when the resolution ended, or it waits. -/
def Settled (p : Parameters) (s : State) (d : Datagram) (addr : IPv4Address) (ie : NetworkInterface)
    (now : ℤ) (later : List Output) : Prop :=
  match later.find? (endsResolution addr) with
  | some (.completedARPResolution _ macAddress _) => outcomes d s.log = [.sent d ie macAddress]
  | some _ => outcomes d s.log = [.dropped d]
  | none => outcomes d s.log = [] ∧ (∃ q ∈ s.pendingPackets addr, q.count d = 1) ∧
      s.now ≤ now + p.maxRequests * p.retryTimeout

/-- The cache, its timers and the queues agree, and every datagram that was put on a queue is dealt
with once. -/
structure Resolutions (p : Parameters) (s : State) : Prop where
  pending_iff : ∀ addr e, s.arpCache addr = some e →
    (e.pending = true ↔ ∃ msg, e.timer = some msg ∧ (s.scheduled msg).isSome)
  timer : ∀ addr e, s.arpCache addr = some e → (e.pending = true ↔ e.timer.isSome)
  queue_iff : ∀ addr, (∃ q, s.pendingPackets addr = some q ∧ q ≠ []) ↔
    ∃ e, s.arpCache addr = some e ∧ e.pending = true
  settled : ∀ before d addr ie now later,
    s.log = before ++ .queued d addr ie now :: later → Settled p s d addr ie now later
  assertion : ∀ a, CanHappen s a → SameInterface p s a → step p s a ≠ .error .pendingQueueNotEmpty

variable {before later : List Output}

/-- A datagram is put on a queue once. -/
theorem Queues.queued_unique (h : Queues p s) {x : Queued} {addr' : IPv4Address}
    (hlog : s.log = before ++ .queued d addr ie now :: later)
    (hx : .queued x.datagram addr' x.ie x.now ∈ s.log) (hd : x.datagram = d) :
    x = ⟨d, ie, now⟩ := by
  have hnodup := h.nodup
  rw [hlog, queuedDatagrams_append,
    show queuedDatagrams (.queued d addr ie now :: later) = d :: queuedDatagrams later from rfl,
    nodup_append, nodup_cons] at hnodup
  obtain ⟨-, ⟨hlater, -⟩, hbefore⟩ := hnodup
  rw [hlog, mem_append, mem_cons] at hx
  obtain hx | hx | hx := hx
  · exact absurd hd (hbefore _ (mem_queuedDatagrams.2 ⟨_, _, _, hx⟩) d mem_cons_self)
  · cases x
    cases hx
    rfl
  · rw [hd] at hx
    exact absurd (mem_queuedDatagrams.2 ⟨_, _, _, hx⟩) hlater

/-- What the history of parking says of a datagram that was put on a queue. -/
theorem Queues.status (h : Queues p s) (hlog : s.log = before ++ .queued d addr ie now :: later) :
    Status (lot s.log) ⟨d, ie, now⟩
      (if (firstRelease addr (later.filterMap act?)).isSome then none else some addr)
      (firstRelease addr (later.filterMap act?)).toList := by
  have hnodup := h.nodup
  rw [hlog, queuedDatagrams_append,
    show queuedDatagrams (.queued d addr ie now :: later) = d :: queuedDatagrams later from rfl,
    nodup_append, nodup_cons] at hnodup
  obtain ⟨-, ⟨hlater, -⟩, hbefore⟩ := hnodup
  have hlot : lot s.log = run (before.filterMap act? ++
      .park addr ⟨d, ie, now⟩ :: later.filterMap act?) := by
    rw [lot, hlog, filterMap_append]
    rfl
  rw [hlot]
  refine status_run (fun k hk => ?_) fun k hk => ?_
  · exact hbefore d (mem_queuedDatagrams.2 ⟨k, ie, now, park_mem_iff.1 hk⟩) d mem_cons_self rfl
  · exact hlater (mem_queuedDatagrams.2 ⟨k, ie, now, park_mem_iff.1 hk⟩)

/-- A datagram that waits, waits on the queue of its next hop for a limited time. -/
theorem Inv.waiting (h : Inv p s) (hlog : s.log = before ++ .queued d addr ie now :: later)
    (hcount : ((lot s.log).queue addr).count ⟨d, ie, now⟩ = 1) :
    (∃ q ∈ s.pendingPackets addr, q.count d = 1) ∧
      s.now ≤ now + p.maxRequests * p.retryTimeout := by
  have hmem : (⟨d, ie, now⟩ : Queued) ∈ (lot s.log).queue addr := by
    rw [← count_pos_iff, hcount]
    exact one_pos
  have hqueue := h.queues.pendingPackets addr
  cases hq : s.pendingPackets addr with
  | none =>
    rw [hq, Option.getD_none, eq_comm, map_eq_nil_iff] at hqueue
    rw [hqueue] at hmem
    cases hmem
  | some q =>
    refine ⟨⟨q, rfl, ?_⟩, ?_⟩
    · rw [hq, Option.getD_some] at hqueue
      rw [hqueue, List.count, countP_map, ← hcount, List.count]
      refine countP_congr fun x hx => ?_
      obtain ⟨k, hk⟩ : ∃ k, Act.park k x ∈ s.log.filterMap act? :=
        ⟨addr, (parked_run _).1 addr x hx⟩
      simp only [comp_apply, beq_iff_eq]
      refine ⟨fun hd => h.queues.queued_unique hlog (park_mem_iff.1 hk) hd, ?_⟩
      rintro rfl
      rfl
    · obtain ⟨e, he, hpending⟩ := (h.queues.isSome_iff addr).1 (by rw [hq]; rfl)
      have hentry := h.timed.entries addr e he
      obtain ⟨msg, time, -, htime⟩ := hentry.timer hpending
      have hmessage := h.timed.scheduled msg _ htime
      have hdeadline := (h.queues.waits addr _ hmem).deadline e msg time he htime
      have hnow := hmessage.now_le
      have hle := hmessage.le
      dsimp only at hnow hle hdeadline
      have hleft : 0 ≤ (p.maxRequests - 1 - e.numRetries) * p.retryTimeout := by
        have := (hentry.numRetries hpending).2
        exact mul_nonneg (by omega) (by omega)
      omega

theorem Inv.settled (h : Inv p s) (hlog : s.log = before ++ .queued d addr ie now :: later) :
    Settled p s d addr ie now later := by
  have hstatus := h.queues.status hlog
  have hmem : d ∈ queuedDatagrams s.log := by
    rw [mem_queuedDatagrams, hlog]
    exact ⟨addr, ie, now, by simp⟩
  have hfilter : ((lot s.log).out.filter fun y => y.1.datagram = d) =
      (lot s.log).out.filter fun y => y.1 = ⟨d, ie, now⟩ := by
    refine filter_congr fun y hy => decide_eq_decide.2 ⟨fun hd => ?_, ?_⟩
    · obtain ⟨k, hk⟩ := (parked_run _).2 y hy
      exact h.queues.queued_unique hlog (park_mem_iff.1 hk) hd
    · intro heq
      rw [heq]
  have houtcomes : outcomes d s.log =
      (firstRelease addr (later.filterMap act?)).toList.map (outcome d) := by
    rw [h.queues.outcomes_eq d hmem, hfilter, ← hstatus.out, map_map]
    rfl
  rw [firstRelease_eq] at hstatus houtcomes
  unfold Settled
  split
  · rename_i addr' mac ie' hfind
    rw [hfind] at hstatus houtcomes
    have hout := hstatus.out
    -- the resolution was completed on the interface on which the datagram waited
    obtain ⟨y, hy, hyr⟩ : ∃ y ∈ (lot s.log).out.filter fun y => y.1 = ⟨d, ie, now⟩,
        y.2 = some (ie', mac) := by
      rw [← mem_map, hout]
      exact mem_cons_self
    obtain ⟨hyout, hyx⟩ := mem_filter.1 hy
    have hie := h.queues.interface y hyout ie' mac hyr
    rw [of_decide_eq_true hyx] at hie
    rw [houtcomes, hie]
    rfl
  · rename_i out hne hfind
    rw [hfind] at houtcomes
    rw [houtcomes]
    cases out with
    | completedARPResolution addr' mac ie' => exact absurd rfl (hne addr' mac ie')
    | _ => rfl
  · rename_i hfind
    rw [hfind] at hstatus houtcomes
    refine ⟨houtcomes, h.waiting hlog ?_⟩
    simpa using hstatus.count addr

theorem Inv.resolutions (h : Inv p s) : Resolutions p s := by
  refine ⟨fun addr e he => ?_, fun addr e he => ?_, fun addr => ?_, ?_, ?_⟩
  · have hentry := h.timed.entries addr e he
    constructor
    · intro hpending
      obtain ⟨msg, time, hmsg, htime⟩ := hentry.timer hpending
      exact ⟨msg, hmsg, by rw [htime]; rfl⟩
    · rintro ⟨msg, hmsg, -⟩
      by_contra hidle
      rw [hentry.timer_eq_none (Bool.eq_false_iff.2 hidle)] at hmsg
      cases hmsg
  · have hentry := h.timed.entries addr e he
    constructor
    · intro hpending
      obtain ⟨msg, time, hmsg, -⟩ := hentry.timer hpending
      rw [hmsg]
      rfl
    · intro hsome
      by_contra hidle
      rw [hentry.timer_eq_none (Bool.eq_false_iff.2 hidle)] at hsome
      cases hsome
  · rw [← h.queues.isSome_iff addr, Option.isSome_iff_exists]
    refine exists_congr fun q => and_iff_left_of_imp ?_
    rintro hq rfl
    exact h.queues.ne_nil addr hq
  · intro before d addr ie now later hlog
    exact h.settled hlog
  · intro a hcan hsame hfault
    exact (h.keeps_step hcan hsame).of_eq_error hfault rfl

/-- **Every datagram that is put on a queue is sent or dropped once.**  In a run in which a datagram
is sent to an address that is being resolved only on the interface on which it is being resolved, an
entry of the cache is pending exactly when its timer is scheduled, and an address has a queue
exactly when it is being resolved; the end of a resolution sends or drops the datagrams that wait
for it. -/
theorem resolutions_run {as : List (ℤ × Input)}
    (hrun : Run (step p) (fun s a => CanHappen s a ∧ SameInterface p s a) {} as s) :
    Resolutions p s := by
  have hinv : Inv p s :=
    hrun.invariant (I := Inv p) (fun _ _ _ h ha hstep => h.step ha.1 ha.2 hstep) (inv_initial p)
  exact hinv.resolutions

/-- The parameters of the runs below. -/
def sampleParameters : Parameters where
  retryTimeout := 10
  retryCount := 3
  cacheTimeout := 120
  respondToProxyARP := false
  globalARP := false
  globalArpCache := fun _ => none
  useProxyARP := true

/-- 10.0.0.1/24. -/
def sampleInterface : NetworkInterface where
  interfaceId := 1
  mtu := 1500
  loopback := false
  ipv4Data := some ⟨0x0A000001, 0xFFFFFF00, 1⟩
  broadcast := true
  macAddr := 0xA1

/-- 10.0.1.1/16. -/
def otherInterface : NetworkInterface where
  interfaceId := 2
  mtu := 1500
  loopback := false
  ipv4Data := some ⟨0x0A000101, 0xFFFF0000, 1⟩
  broadcast := true
  macAddr := 0xA2

/-- The reply of 10.0.0.9. -/
def sampleReply : Input :=
  .arpPacket ⟨ARP_REPLY, 0xB9, 0xA1, 0x0A000009, 0x0A000001⟩ sampleInterface
    ⟨fun addr => addr == 0x0A000001, fun _ => none⟩

theorem resolutions_run_sample : ∃ s : State, Run (step sampleParameters)
      (fun s a => CanHappen s a ∧ SameInterface sampleParameters s a) {}
      [(0, .datagram ⟨1, 0x0A000009⟩ sampleInterface 0),
        (3, .datagram ⟨2, 0x0B000000⟩ sampleInterface 0x0A000009), (10, .selfMessage 0),
        (12, sampleReply)] s ∧
    outcomes ⟨2, 0x0B000000⟩ s.log = [.sent ⟨2, 0x0B000000⟩ sampleInterface 0xB9] ∧
    Resolutions sampleParameters s := by
  obtain ⟨s, hrun, hout⟩ : ∃ s : State, Run (step sampleParameters)
      (fun s a => CanHappen s a ∧ SameInterface sampleParameters s a) {}
      [(0, .datagram ⟨1, 0x0A000009⟩ sampleInterface 0),
        (3, .datagram ⟨2, 0x0B000000⟩ sampleInterface 0x0A000009), (10, .selfMessage 0),
        (12, sampleReply)] s ∧
      outcomes ⟨2, 0x0B000000⟩ s.log = [.sent ⟨2, 0x0B000000⟩ sampleInterface 0xB9] :=
    exists_run_of_exec (f := fun s : State => outcomes ⟨2, 0x0B000000⟩ s.log)
      (by decide +kernel)
  exact ⟨s, hrun, hout, resolutions_run hrun⟩

/-- The fault of a computation. -/
def fault? : Except ArpFault State → Option ArpFault
  | .error e => some e
  | .ok _ => none

theorem fault?_eq_some {x : Except ArpFault State} {e : ArpFault} (h : fault? x = some e) :
    x = .error e := by
  cases x with
  | error e' =>
    cases h
    rfl
  | ok s => cases h

/-- A datagram that waits for a resolution on another interface is sent on that interface, and the
assertion on the queues fails when the address is a broadcast address of one interface only. -/
theorem not_resolutions_run : (∃ s : State, Run (step sampleParameters) CanHappen {}
      [(0, .datagram ⟨1, 0x0A000009⟩ sampleInterface 0x0A000009),
        (3, .datagram ⟨2, 0x0A000009⟩ otherInterface 0x0A000009), (5, sampleReply)] s ∧
      ¬Resolutions sampleParameters s) ∧
    ∃ s : State, Run (step sampleParameters) CanHappen {}
      [(0, .datagram ⟨1, 0x0A0000FF⟩ otherInterface 0x0A0000FF)] s ∧
      CanHappen s (3, .datagram ⟨2, 0x0A0000FF⟩ sampleInterface 0x0A0000FF) ∧
      step sampleParameters s (3, .datagram ⟨2, 0x0A0000FF⟩ sampleInterface 0x0A0000FF) =
        .error .pendingQueueNotEmpty := by
  constructor
  · obtain ⟨s, hrun, hlog⟩ : ∃ s : State, Run (step sampleParameters) CanHappen {}
        [(0, .datagram ⟨1, 0x0A000009⟩ sampleInterface 0x0A000009),
          (3, .datagram ⟨2, 0x0A000009⟩ otherInterface 0x0A000009), (5, sampleReply)] s ∧
        s.log.drop 3 = [.queued ⟨2, 0x0A000009⟩ 0x0A000009 otherInterface 3,
          .completedARPResolution 0x0A000009 0xB9 sampleInterface,
          .sent ⟨1, 0x0A000009⟩ sampleInterface 0xB9,
          .sent ⟨2, 0x0A000009⟩ sampleInterface 0xB9] :=
      exists_run_of_exec (f := fun s : State => s.log.drop 3) (by decide +kernel)
    refine ⟨s, hrun, fun h => ?_⟩
    have hsettled := h.settled (s.log.take 3) _ _ _ _ _
      ((take_append_drop 3 s.log).symm.trans (by rw [hlog]))
    -- the datagram is not sent on the interface on which it was queued
    have hmem : .sent ⟨2, 0x0A000009⟩ sampleInterface 0xB9 ∈ outcomes ⟨2, 0x0A000009⟩ s.log := by
      refine mem_filter.2 ⟨mem_of_mem_drop (i := 3) ?_, rfl⟩
      rw [hlog]
      simp
    have heq : outcomes ⟨2, 0x0A000009⟩ s.log = [.sent ⟨2, 0x0A000009⟩ otherInterface 0xB9] :=
      hsettled
    rw [heq] at hmem
    exact absurd hmem (by decide)
  · obtain ⟨s, hrun, hfault⟩ : ∃ s : State, Run (step sampleParameters) CanHappen {}
        [(0, .datagram ⟨1, 0x0A0000FF⟩ otherInterface 0x0A0000FF)] s ∧
        (decide (CanHappen s (3, .datagram ⟨2, 0x0A0000FF⟩ sampleInterface 0x0A0000FF)),
          fault? (step sampleParameters s
            (3, .datagram ⟨2, 0x0A0000FF⟩ sampleInterface 0x0A0000FF))) =
        (true, some .pendingQueueNotEmpty) :=
      exists_run_of_exec (f := fun s : State =>
        (decide (CanHappen s (3, .datagram ⟨2, 0x0A0000FF⟩ sampleInterface 0x0A0000FF)),
          fault? (step sampleParameters s
            (3, .datagram ⟨2, 0x0A0000FF⟩ sampleInterface 0x0A0000FF)))) (by decide +kernel)
    obtain ⟨hcan, hfault⟩ := Prod.mk.inj hfault
    exact ⟨s, hrun, of_decide_eq_true hcan, fault?_eq_some hfault⟩

end Arp

end Hiwis
