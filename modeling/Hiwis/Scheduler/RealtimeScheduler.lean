import Hiwis.Lib.Trace

/-!
# RealtimeScheduler

`scheduleIn` puts a task into the hash map `Handler`, under the second in which it is due, and
asks the simulation kernel for a timer message at its due time.  `handleMessage` goes through the
whole map at every timer message and delivers the first task of each entry whose second has come.

The map is modified while it is gone through, both by the removal of an entry and by the handlers
that schedule new tasks; the iterator notices this at its next step and throws.  In which order
it goes through the entries is up to the hash map.

* `Scheduler.Inv.timer` : what a timer message does when nothing goes wrong;
* `Scheduler.delivered_of_run` : in runs in which nothing goes wrong, every task with a handler is
  delivered once, at its due time and in the order of the due times;
* `Scheduler.not_delivered_of_run` : a task that the only task of an entry schedules without a
  delay is lost.
-/

namespace Hiwis

open List Except Trace

/-! ### The state -/

/-- A task of `scheduleIn`.  The handler, the content and the type are told by the number of the
call; what matters of the handler is whether it is there. -/
structure SchedulerTask where
  id : ℕ
  /-- `handler != null` -/
  handler : Bool
  /-- the arrival time of the timer message that was scheduled with the task; not a field -/
  due : ℤ
deriving DecidableEq

/-- A call of `eventOccurred`. -/
structure Delivery where
  task : SchedulerTask
  time : ℤ
deriving DecidableEq

/-- A call of `scheduleIn`: the delay in seconds and whether there is a handler. -/
abbrev Call := ℤ × Bool

inductive SchedulerFault
  | concurrentModification
  | indexOutOfBounds
  | nullPointer
  /-- `scheduleAt` was called for a time in the past -/
  | scheduleInPast
  /-- there is no such message -/
  | noSuchMessage
deriving DecidableEq

structure Scheduler where
  /-- `simTime().raw()` -/
  now : ℤ
  handler : AList fun _ : ℤ => List SchedulerTask
  /-- the count of structural modifications that the iterators of `Handler` look at -/
  modCount : ℕ
  /-- the arrival times of the timer messages that are still to come -/
  timers : List ℤ
  /-- what has been delivered and what has been scheduled so far; not fields -/
  log : List Delivery
  scheduled : List SchedulerTask

namespace Scheduler

def init (now : ℤ) : Scheduler := ⟨now, ∅, 0, [], [], []⟩

section Steps

variable (scale : ℕ)

/-! ### scheduleIn -/

/-- The second in which a task with this delay is due; a second has `10^scale` units. -/
def key (s : Scheduler) (time : ℤ) : ℤ := s.now / 10 ^ scale + time

def newTask (s : Scheduler) (c : Call) : SchedulerTask :=
  ⟨s.scheduled.length, c.2, s.now + c.1 * 10 ^ scale⟩

/-- `scheduleIn`, once it is known that the due time is not in the past. -/
def addTask (s : Scheduler) (c : Call) : Scheduler :=
  let task := s.newTask scale c
  let s := { s with timers := s.timers ++ [task.due], scheduled := s.scheduled ++ [task] }
  match s.handler.lookup (s.key scale c.1) with
  | some tasks => { s with handler := s.handler.insert (s.key scale c.1) (tasks ++ [task]) }
  | none =>
    { s with handler := s.handler.insert (s.key scale c.1) [task], modCount := s.modCount + 1 }

def scheduleIn (s : Scheduler) (c : Call) : Except SchedulerFault Scheduler :=
  if c.1 < 0 then .error .scheduleInPast else .ok (s.addTask scale c)

/-- What a handler does: it schedules further tasks. -/
def scheduleAll (s : Scheduler) : List Call → Except SchedulerFault Scheduler
  | [] => .ok s
  | c :: calls => do
    let s ← s.scheduleIn scale c
    s.scheduleAll calls

/-! ### handleMessage -/

variable (react : ℕ → List Call)

def eventOccurred (s : Scheduler) (task : SchedulerTask) : Except SchedulerFault Scheduler :=
  scheduleAll scale { s with log := s.log ++ [⟨task, s.now⟩] } (react task.id)

/-- `pairs.getValue().remove(0)`. -/
def removeFirst (s : Scheduler) (k : ℤ) : Scheduler :=
  match s.handler.lookup k with
  | some (_ :: tasks) => { s with handler := s.handler.insert k tasks }
  | _ => s

/-- `Handler.remove(pairs.getKey())`. -/
def remove (s : Scheduler) (k : ℤ) : Scheduler :=
  { s with handler := s.handler.erase k, modCount := s.modCount + 1 }

/-- The body of the loop over the entries of `Handler`. -/
def visit (s : Scheduler) (k : ℤ) : Except SchedulerFault Scheduler :=
  if k ≤ s.now / 10 ^ scale then
    match s.handler.lookup k with
    | none => .ok s
    | some [] => .error .indexOutOfBounds
    | some [task] =>
      if task.handler then do
        let s ← s.eventOccurred scale react task
        pure (s.remove k)
      else .ok s
    | some (task :: _ :: _) =>
      if task.handler then do
        let s ← s.eventOccurred scale react task
        pure (s.removeFirst k)
      else .ok s
  else .ok s

/-- The loop; `it.next()` throws when the map has been modified since the iterator was created. -/
def iterate (expectedModCount : ℕ) : List ℤ → Scheduler → Except SchedulerFault Scheduler
  | [], s => .ok s
  | k :: order, s =>
    if s.modCount ≠ expectedModCount then .error .concurrentModification
    else do
      let s ← s.visit scale react k
      iterate expectedModCount order s

end Steps

/-! ### Runs -/

inductive Action
  /-- a call from outside, at a simulation time -/
  | scheduleIn (now : ℤ) (c : Call)
  /-- the `i`-th timer message arrives, the map is gone through in the given order, and the
  handlers react to the tasks -/
  | timer (i : ℕ) (order : List ℤ) (react : ℕ → List Call)
  /-- another message arrives; its handler schedules the tasks -/
  | message (now : ℤ) (handler : Bool) (calls : List Call)

def step (scale : ℕ) (s : Scheduler) : Action → Except SchedulerFault Scheduler
  | .scheduleIn now c => scheduleIn scale { s with now := now } c
  | .timer i order react =>
    match s.timers[i]? with
    | none => .error .noSuchMessage
    | some t =>
      iterate scale react s.modCount order { s with now := t, timers := s.timers.eraseIdx i }
  | .message now handler calls => do
    let s ← scheduleIn scale { s with now := now } (1000, handler)
    if handler then s.scheduleAll scale calls else .error .nullPointer

/-- The kernel delivers the messages in the order of their arrival times, and the iterator of a
hash map visits each of its keys once. -/
def Kernel (s : Scheduler) : Action → Prop
  | .scheduleIn now _ => s.now ≤ now ∧ ∀ t ∈ s.timers, now ≤ t
  | .timer i order _ => (∀ t ∈ s.timers[i]?, ∀ t' ∈ s.timers, t ≤ t') ∧ order.Perm s.handler.keys
  | .message now _ _ => s.now ≤ now ∧ ∀ t ∈ s.timers, now ≤ t

/-! ### When nothing goes wrong -/

/-- A task is added to an entry only behind tasks that are not due later, and with a handler only
behind tasks with handlers. -/
def Fits (scale : ℕ) (s : Scheduler) (c : Call) : Prop :=
  0 ≤ c.1 ∧ ∀ tasks ∈ s.handler.lookup (s.key scale c.1), ∀ a ∈ tasks,
    (c.2 → a.handler) ∧ (a.handler → a.due ≤ s.now + c.1 * 10 ^ scale)

def FitAll (scale : ℕ) (s : Scheduler) : List Call → Prop
  | [] => True
  | c :: calls => Fits scale s c ∧ FitAll scale (s.addTask scale c) calls

/-- The task is delivered from an entry which it shares with others, and its handler schedules
only under seconds that the map already has; or the entry is the last one to be gone through, and
a handler whose task is alone there does not schedule under its second. -/
def Deliverable (scale : ℕ) (s : Scheduler) (order : List ℤ) (calls : List Call) (k : ℤ)
    (others : List SchedulerTask) : Prop :=
  FitAll scale s calls ∧ (others = [] → ∀ c ∈ calls, s.key scale c.1 ≠ k) ∧
    ((others = [] ∨ ∃ c ∈ calls, s.handler.lookup (s.key scale c.1) = none) →
      order.getLast? = some k)

/-- The first task under the second in which a timer message arrives can be delivered. -/
def Undisturbed (scale : ℕ) (s : Scheduler) (order : List ℤ) (react : ℕ → List Call) : Prop :=
  match s.handler.lookup (s.now / 10 ^ scale) with
  | some (task :: others) =>
    task.handler → Deliverable scale s order (react task.id) (s.now / 10 ^ scale) others
  | _ => True

/-- The condition under which the scheduler works. -/
def Orderly (scale : ℕ) (s : Scheduler) : Action → Prop
  | .scheduleIn now c => Fits scale { s with now := now } c
  | .timer i order react => ∀ t ∈ s.timers[i]?, Undisturbed scale { s with now := t } order react
  | .message now handler calls =>
    handler ∧ FitAll scale { s with now := now } ((1000, handler) :: calls)

/-! ### The entries of the map -/

section Entries

variable {k k' : ℤ} {h : AList fun _ : ℤ => List SchedulerTask} {tasks : List SchedulerTask}

/-- The tasks with a handler that are in the map. -/
def pendingIn (entries : List (Sigma fun _ : ℤ => List SchedulerTask)) : List SchedulerTask :=
  entries.flatMap fun e => e.2.filter fun a => a.handler

theorem pendingIn_insert : pendingIn (h.insert k tasks).entries =
    (tasks.filter fun a => a.handler) ++ pendingIn (kerase k h.entries) := by
  rw [AList.entries_insert]
  rfl

theorem pendingIn_of_lookup (hk : h.lookup k = some tasks) : (pendingIn h.entries).Perm
    ((tasks.filter fun a => a.handler) ++ pendingIn (kerase k h.entries)) := by
  have hmem : k ∈ h.entries.keys := AList.mem_keys.1 (AList.lookup_isSome.1 (by rw [hk]; rfl))
  obtain ⟨b, l1, l2, -, hl, hl'⟩ := exists_of_kerase hmem
  have hb : b = tasks := by
    have := AList.mem_lookup_iff.2 (hl ▸ mem_append_right l1 mem_cons_self)
    rw [hk] at this
    exact (Option.some.inj this).symm
  subst hb
  rw [hl']
  unfold pendingIn
  rw [hl]
  simp only [flatMap_append, flatMap_cons]
  exact perm_append_comm_assoc _ _ _

theorem pendingIn_of_lookup_eq_none (hk : h.lookup k = none) :
    pendingIn h.entries = pendingIn (kerase k h.entries) := by
  rw [kerase_of_notMem_keys (AList.lookup_eq_none.1 hk)]

theorem mem_pendingIn {a : SchedulerTask} : a ∈ pendingIn h.entries ↔
    ∃ k tasks, h.lookup k = some tasks ∧ a ∈ tasks ∧ a.handler = true := by
  unfold pendingIn
  simp only [mem_flatMap, mem_filter]
  constructor
  · rintro ⟨⟨k, tasks⟩, he, ha⟩
    exact ⟨k, tasks, AList.mem_lookup_iff.2 he, ha⟩
  · rintro ⟨k, tasks, he, ha⟩
    exact ⟨⟨k, tasks⟩, AList.mem_lookup_iff.1 he, ha⟩

end Entries

/-- The tasks with a handler that have not been delivered. -/
def pending (s : Scheduler) : List SchedulerTask := pendingIn s.handler.entries

/-- Every task with a handler has been delivered once, or its timer message is still to come;
tasks are delivered no earlier than they are due and in the order in which they are due. -/
structure Delivered (s : Scheduler) : Prop where
  nodup : (s.scheduled.map SchedulerTask.id).Nodup
  once : (s.log.map Delivery.task ++ s.pending).Perm (s.scheduled.filter fun a => a.handler)
  notLost : ∀ a ∈ s.pending, a.due ∈ s.timers
  notEarly : ∀ e ∈ s.log, e.task.due ≤ e.time
  ordered : s.log.Pairwise fun e e' => e.task.due ≤ e'.task.due

/-- The tasks of an entry: all of its second, in the order of their due times, the ones without
a handler at the end. -/
structure Entry (scale : ℕ) (k : ℤ) (tasks : List SchedulerTask) : Prop where
  ne_nil : tasks ≠ []
  due : ∀ a ∈ tasks, a.due / 10 ^ scale = k
  pairwise : tasks.Pairwise fun a b => (b.handler → a.handler) ∧ (a.handler → a.due ≤ b.due)

/-- A timer message of a task without a handler comes after those of the others of its entry. -/
def Idle (scale : ℕ) (s : Scheduler) (t : ℤ) : Prop :=
  ∃ tasks, s.handler.lookup (t / 10 ^ scale) = some tasks ∧ (∃ a ∈ tasks, a.handler = false) ∧
    ∀ a ∈ tasks, a.handler → a.due ≤ t

/-- The invariant, while the timer messages `extra` are being handled and the tasks `done` have
been delivered and not yet been removed. -/
structure Inv (scale : ℕ) (extra : List ℤ) (done : List SchedulerTask) (s : Scheduler) : Prop where
  entries : ∀ k tasks, s.handler.lookup k = some tasks → Entry scale k tasks
  timers : ∃ idle, (extra ++ s.timers).Perm (s.pending.map SchedulerTask.due ++ idle) ∧
    ∀ t ∈ idle, Idle scale s t
  now : ∀ t ∈ extra ++ s.timers, s.now ≤ t
  ids : s.scheduled.map SchedulerTask.id = range s.scheduled.length
  once : (s.log.map Delivery.task ++ s.pending).Perm
    ((s.scheduled.filter fun a => a.handler) ++ done)
  log : ∀ e ∈ s.log, e.task.due = e.time ∧ e.time ≤ s.now
  ordered : s.log.Pairwise fun e e' => e.task.due ≤ e'.task.due

theorem Inv.delivered {scale : ℕ} {s : Scheduler} (h : Inv scale [] [] s) : Delivered s := by
  obtain ⟨idle, htimers, -⟩ := h.timers
  refine ⟨?_, ?_, fun a ha => ?_, fun e he => (h.log e he).1.le, h.ordered⟩
  · rw [h.ids]
    exact nodup_range
  · simpa using h.once
  · rw [nil_append] at htimers
    exact htimers.mem_iff.2 (mem_append_left _ (mem_map_of_mem ha))

/-! ### Scheduling -/

section Scheduling

variable {scale : ℕ} {s : Scheduler} {c : Call}

theorem newTask_due_ediv : (s.newTask scale c).due / 10 ^ scale = s.key scale c.1 := by
  unfold newTask key
  rw [Int.add_mul_ediv_right _ _ (by positivity)]

/-- A new task goes to the end of the entry of its second. -/
theorem addTask_spec (scale : ℕ) (s : Scheduler) (c : Call) : ∃ modCount, s.addTask scale c =
    { s with
      handler := s.handler.insert (s.key scale c.1)
        ((s.handler.lookup (s.key scale c.1)).getD [] ++ [s.newTask scale c])
      modCount := modCount
      timers := s.timers ++ [(s.newTask scale c).due]
      scheduled := s.scheduled ++ [s.newTask scale c] } ∧
    (s.handler.lookup (s.key scale c.1) ≠ none → modCount = s.modCount) := by
  unfold addTask
  dsimp only
  split
  · rename_i tasks htasks
    replace htasks : s.handler.lookup (s.key scale c.1) = some tasks := htasks
    exact ⟨s.modCount, by rw [htasks]; rfl, fun _ => rfl⟩
  · rename_i hnone
    replace hnone : s.handler.lookup (s.key scale c.1) = none := hnone
    exact ⟨s.modCount + 1, by rw [hnone]; rfl, fun h => absurd hnone h⟩

theorem lookup_addTask (scale : ℕ) (s : Scheduler) (c : Call) (k : ℤ) : (s.addTask scale c).handler.lookup k =
    if k = s.key scale c.1 then some ((s.handler.lookup k).getD [] ++ [s.newTask scale c])
    else s.handler.lookup k := by
  obtain ⟨modCount, hadd, -⟩ := addTask_spec scale s c
  rw [hadd]
  dsimp only
  split_ifs with hk
  · rw [hk, AList.lookup_insert]
  · rw [AList.lookup_insert_ne hk]

theorem pending_addTask (scale : ℕ) (s : Scheduler) (c : Call) : (s.addTask scale c).pending.Perm
    (s.pending ++ [s.newTask scale c].filter fun a => a.handler) := by
  obtain ⟨modCount, hadd, -⟩ := addTask_spec scale s c
  unfold pending
  rw [hadd]
  dsimp only
  rw [pendingIn_insert, filter_append]
  cases hk : s.handler.lookup (s.key scale c.1) with
  | none =>
    rw [← pendingIn_of_lookup_eq_none hk]
    exact perm_append_comm
  | some tasks =>
    rw [Option.getD_some]
    refine List.Perm.trans ?_ ((pendingIn_of_lookup hk).append_right _).symm
    rw [append_assoc, append_assoc]
    exact perm_append_comm.append_left _

theorem Entry.addTask {k : ℤ} {tasks : List SchedulerTask}
    (h : ∀ a ∈ tasks, a.due / 10 ^ scale = k)
    (hpairwise : tasks.Pairwise fun a b => (b.handler → a.handler) ∧ (a.handler → a.due ≤ b.due))
    (hk : k = s.key scale c.1) (hfits : ∀ a ∈ tasks,
      (c.2 → a.handler) ∧ (a.handler → a.due ≤ s.now + c.1 * 10 ^ scale)) :
    Entry scale k (tasks ++ [s.newTask scale c]) := by
  refine ⟨by simp, fun a ha => ?_, ?_⟩
  · rcases mem_append.1 ha with ha | ha
    · exact h a ha
    · rw [mem_singleton.1 ha, newTask_due_ediv, hk]
  · rw [pairwise_append]
    refine ⟨hpairwise, pairwise_singleton _ _, fun a ha b hb => ?_⟩
    rw [mem_singleton.1 hb]
    exact hfits a ha

variable {extra : List ℤ} {done : List SchedulerTask}

theorem Idle.addTask {t : ℤ} (h : Idle scale s t) (hfits : Fits scale s c) :
    Idle scale (s.addTask scale c) t := by
  obtain ⟨tasks, htasks, ⟨n, hn, hnull⟩, hdue⟩ := h
  by_cases hk : t / 10 ^ scale = s.key scale c.1
  · have hfits := hfits.2 tasks (by rw [← hk, htasks]; rfl)
    refine ⟨tasks ++ [s.newTask scale c], ?_, ⟨n, mem_append_left _ hn, hnull⟩, fun a ha hh => ?_⟩
    · rw [lookup_addTask, if_pos hk, htasks]
      rfl
    · rcases mem_append.1 ha with ha | ha
      · exact hdue a ha hh
      · -- a task with a handler is not added behind one without
        rw [mem_singleton.1 ha] at hh
        have hcontra := (hfits n hn).1 hh
        rw [hnull] at hcontra
        cases hcontra
  · exact ⟨tasks, by rw [lookup_addTask, if_neg hk, htasks], ⟨n, hn, hnull⟩, hdue⟩

theorem Inv.addTask (h : Inv scale extra done s) (hfits : Fits scale s c) :
    Inv scale extra done (s.addTask scale c) := by
  have hpending := pending_addTask scale s c
  have hidle := fun t (ht : Idle scale s t) => ht.addTask hfits
  have hlookup := lookup_addTask scale s c
  obtain ⟨modCount, hadd, -⟩ := addTask_spec scale s c
  have hdue : s.now ≤ (s.newTask scale c).due := by
    have : 0 ≤ c.1 * 10 ^ scale := mul_nonneg hfits.1 (by positivity)
    unfold newTask
    dsimp only
    linarith
  refine ⟨fun k tasks hk => ?_, ?_, fun t ht => ?_, ?_, ?_, ?_, ?_⟩
  · rw [hlookup] at hk
    split_ifs at hk with hkey
    · cases hk
      cases hold : s.handler.lookup k with
      | none => exact Entry.addTask (by simp) List.Pairwise.nil hkey (by simp)
      | some old =>
        have hentry := h.entries k old hold
        exact hentry.due |> fun hd => Entry.addTask hd hentry.pairwise hkey
          (hfits.2 old (by rw [← hkey, hold]; rfl))
    · exact h.entries k tasks hk
  · obtain ⟨idle, htimers, hidles⟩ := h.timers
    have htimers' : (extra ++ (s.addTask scale c).timers).Perm
        (s.pending.map SchedulerTask.due ++ idle ++ [(s.newTask scale c).due]) := by
      rw [hadd, ← append_assoc]
      exact htimers.append_right _
    by_cases hc : c.2
    · refine ⟨idle, htimers'.trans ?_, fun t ht => hidle t (hidles t ht)⟩
      refine List.Perm.trans ?_ ((hpending.map _).append_right _).symm
      rw [filter_cons_of_pos (by exact hc), filter_nil, map_append, append_assoc, append_assoc]
      exact perm_append_comm.append_left _
    · refine ⟨idle ++ [(s.newTask scale c).due], htimers'.trans ?_, fun t ht => ?_⟩
      · refine List.Perm.trans ?_ ((hpending.map _).append_right _).symm
        rw [filter_cons_of_neg (by exact hc), filter_nil, append_nil, append_assoc]
      · rcases mem_append.1 ht with ht | ht
        · exact hidle t (hidles t ht)
        · rw [mem_singleton.1 ht]
          refine ⟨_, by rw [hlookup, if_pos newTask_due_ediv],
            ⟨s.newTask scale c, by simp, by simpa [newTask] using hc⟩, fun a ha hh => ?_⟩
          rcases mem_append.1 ha with ha | ha
          · cases hold : s.handler.lookup ((s.newTask scale c).due / 10 ^ scale) with
            | none => simp [hold] at ha
            | some old =>
              rw [hold] at ha
              rw [newTask_due_ediv] at hold
              exact (hfits.2 old (by rw [hold]; rfl) a ha).2 hh
          · rw [mem_singleton.1 ha]
  · rw [hadd] at ht ⊢
    rw [← append_assoc] at ht
    rcases mem_append.1 ht with ht | ht
    · exact h.now t ht
    · rw [mem_singleton.1 ht]
      exact hdue
  · rw [hadd]
    dsimp only
    rw [map_append, h.ids, length_append, length_singleton, range_succ]
    rfl
  · rw [hadd] at hpending ⊢
    dsimp only
    rw [filter_append]
    refine (hpending.append_left _).trans ?_
    rw [← append_assoc]
    refine (h.once.append_right _).trans ?_
    rw [append_assoc, append_assoc]
    exact perm_append_comm.append_left _
  · rw [hadd]
    exact h.log
  · rw [hadd]
    exact h.ordered

/-- What a handler schedules is added to the entries, and does not touch the others. -/
theorem Inv.scheduleAll {calls : List Call} (h : Inv scale extra done s)
    (hfits : FitAll scale s calls) : ∃ s', s.scheduleAll scale calls = .ok s' ∧
      Inv scale extra done s' ∧ s'.now = s.now ∧ s'.log = s.log ∧
      (∀ k tasks, s.handler.lookup k = some tasks → ∃ added,
        s'.handler.lookup k = some (tasks ++ added) ∧
        ((∀ c ∈ calls, s.key scale c.1 ≠ k) → added = [])) ∧
      ((∀ c ∈ calls, s.handler.lookup (s.key scale c.1) ≠ none) → s'.modCount = s.modCount) := by
  induction calls generalizing s with
  | nil => exact ⟨s, rfl, h, rfl, rfl, fun k tasks hk => ⟨[], by simpa using hk, fun _ => rfl⟩,
      fun _ => rfl⟩
  | cons c calls ih =>
    obtain ⟨hc, hcalls⟩ := hfits
    obtain ⟨modCount, hadd, hmod⟩ := addTask_spec scale s c
    have hlookup := lookup_addTask scale s c
    have hkey : ∀ time, (s.addTask scale c).key scale time = s.key scale time := by
      intro time
      rw [hadd]
      rfl
    obtain ⟨s', hs', hinv, hnow, hlog, hentries, hmod'⟩ := ih (h.addTask hc) hcalls
    refine ⟨s', ?_, hinv, ?_, ?_, fun k tasks hk => ?_, fun hall => ?_⟩
    · unfold Scheduler.scheduleAll scheduleIn
      rw [if_neg (not_lt.2 hc.1)]
      exact hs'
    · rw [hnow, hadd]
    · rw [hlog, hadd]
    · have hk' := hlookup k
      split_ifs at hk' with heq
      · rw [hk] at hk'
        obtain ⟨added, hadded, -⟩ := hentries k _ hk'
        refine ⟨s.newTask scale c :: added, ?_, fun hne => ?_⟩
        · rw [hadded, Option.getD_some, append_assoc]
          rfl
        · exact absurd heq.symm (hne c mem_cons_self)
      · rw [hk] at hk'
        obtain ⟨added, hadded, hnil⟩ := hentries k _ hk'
        refine ⟨added, hadded, fun hne => hnil fun c' hc' => ?_⟩
        rw [hkey]
        exact hne c' (mem_cons_of_mem _ hc')
    · rw [hmod' fun c' hc' => ?_, hadd]
      · exact hmod (hall c mem_cons_self)
      · rw [hkey, hlookup]
        split_ifs
        · exact Option.some_ne_none _
        · exact hall c' (mem_cons_of_mem _ hc')

end Scheduling

/-! ### Delivering -/

section Delivering

variable {scale : ℕ} {s : Scheduler} {react : ℕ → List Call} {t k : ℤ}
  {task : SchedulerTask} {others : List SchedulerTask}

/-- The task is removed from the map once its handler has returned. -/
theorem Inv.remove {handler : AList fun _ : ℤ => List SchedulerTask} {modCount : ℕ}
    (h : Inv scale [t] [task] s) (hk : s.handler.lookup k = some (task :: others))
    (ht : task.due = t) (hhandler : task.handler = true)
    (hpending : s.pending.Perm (task :: pendingIn handler.entries))
    (hlookup : ∀ k', k' ≠ k → handler.lookup k' = s.handler.lookup k')
    (hsame : handler.lookup k = if others = [] then none else some others) :
    Inv scale [] [] { s with handler := handler, modCount := modCount } := by
  have hentry := h.entries k _ hk
  have hpairwise := pairwise_cons.1 hentry.pairwise
  refine ⟨fun k' tasks hk' => ?_, ?_, fun t' ht' => h.now t' (mem_cons_of_mem _ ht'), h.ids, ?_,
    h.log, h.ordered⟩
  · by_cases heq : k' = k
    · subst heq
      replace hk' : handler.lookup k' = some tasks := hk'
      rw [hsame] at hk'
      split_ifs at hk' with hnil
      cases hk'
      exact ⟨hnil, fun a ha => hentry.due a (mem_cons_of_mem _ ha), hpairwise.2⟩
    · exact h.entries k' tasks ((hlookup k' heq).symm.trans hk')
  · obtain ⟨idle, htimers, hidle⟩ := h.timers
    refine ⟨idle, ?_, fun t' ht' => ?_⟩
    · have hperm := htimers.trans ((hpending.map SchedulerTask.due).append_right idle)
      rw [map_cons, ht] at hperm
      exact hperm.cons_inv
    · obtain ⟨tasks, htasks, ⟨n, hn, hnull⟩, hdue⟩ := hidle t' ht'
      by_cases heq : t' / 10 ^ scale = k
      · rw [heq, hk] at htasks
        cases htasks
        have hn' : n ∈ others := by
          rcases mem_cons.1 hn with rfl | hn
          · rw [hnull] at hhandler
            cases hhandler
          · exact hn
        refine ⟨others, ?_, ⟨n, hn', hnull⟩, fun a ha => hdue a (mem_cons_of_mem _ ha)⟩
        rw [heq]
        exact hsame.trans (if_neg (ne_nil_of_mem hn'))
      · exact ⟨tasks, (hlookup _ heq).trans htasks, ⟨n, hn, hnull⟩, hdue⟩
  · rw [append_nil]
    have hperm := h.once.symm.trans (hpending.append_left (s.log.map Delivery.task))
    have hperm' := (perm_append_singleton task _).symm.trans
      (hperm.trans perm_middle)
    exact hperm'.cons_inv.symm

theorem Inv.now_le_due {extra : List ℤ} {done : List SchedulerTask} (h : Inv scale extra done s)
    {a : SchedulerTask} (ha : a ∈ s.pending) : s.now ≤ a.due := by
  obtain ⟨idle, htimers, -⟩ := h.timers
  exact h.now _ (htimers.mem_iff.2 (mem_append_left _ (mem_map_of_mem ha)))

/-- Entries of other seconds are passed over. -/
theorem Inv.visit_eq {extra : List ℤ} {done : List SchedulerTask} (h : Inv scale extra done s)
    (react : ℕ → List Call) (hk : ∀ a others, s.handler.lookup k = some (a :: others) →
      k = s.now / 10 ^ scale → a.handler = false) : s.visit scale react k = .ok s := by
  unfold visit
  split_ifs with hle
  · have hnull : ∀ a others, s.handler.lookup k = some (a :: others) → a.handler = false := by
      intro a others ha
      rcases eq_or_ne k (s.now / 10 ^ scale) with heq | hne
      · exact hk a others ha heq
      · -- the task would have been due before
        by_contra hhandler
        have hmem : a ∈ s.pending :=
          mem_pendingIn.2 ⟨k, _, ha, mem_cons_self, by simpa using hhandler⟩
        have hsec := Int.ediv_le_ediv (show (0 : ℤ) < 10 ^ scale by positivity)
          (h.now_le_due hmem)
        rw [(h.entries k _ ha).due a mem_cons_self] at hsec
        exact hne (le_antisymm hle hsec)
    split
    · rfl
    · exact absurd rfl (h.entries k _ ‹_›).ne_nil
    · rw [hnull _ _ ‹_›]
      rfl
    · rw [hnull _ _ ‹_›]
      rfl
  · rfl

theorem iterate_append {order order' : List ℤ} {expected : ℕ} (hmod : s.modCount = expected)
    (h : ∀ k ∈ order, s.visit scale react k = .ok s) :
    iterate scale react expected (order ++ order') s = iterate scale react expected order' s := by
  induction order with
  | nil => rfl
  | cons k order ih =>
    rw [cons_append, iterate, if_neg (not_not.2 hmod), h k mem_cons_self, ok_bind]
    exact ih fun k' hk' => h k' (mem_cons_of_mem _ hk')

/-- A timer message arrives. -/
theorem Inv.arrive (h : Inv scale [] [] s) {i : ℕ} (hi : s.timers[i]? = some t)
    (hmin : ∀ t' ∈ s.timers, t ≤ t') :
    Inv scale [t] [] { s with now := t, timers := s.timers.eraseIdx i } := by
  obtain ⟨hlt, rfl⟩ := List.getElem?_eq_some_iff.1 hi
  have hperm := getElem_cons_eraseIdx_perm hlt
  obtain ⟨idle, htimers, hidle⟩ := h.timers
  refine ⟨h.entries, ⟨idle, hperm.trans htimers, hidle⟩, fun t' ht' => ?_, h.ids, h.once,
    fun e he => ⟨(h.log e he).1, ?_⟩, h.ordered⟩
  · exact hmin t' (hperm.mem_iff.1 ht')
  · exact (h.log e he).2.trans (h.now _ (getElem_mem hlt))

/-- A timer message of a task without a handler has nothing to do. -/
theorem Inv.idle (h : Inv scale [t] [] s) (hne : ∀ a ∈ s.pending, a.due ≠ t) :
    Inv scale [] [] s := by
  obtain ⟨idle, htimers, hidle⟩ := h.timers
  have hmem : t ∈ idle := by
    rcases mem_append.1 (htimers.mem_iff.1 mem_cons_self) with ht | ht
    · obtain ⟨a, ha, hat⟩ := mem_map.1 ht
      exact absurd hat (hne a ha)
    · exact ht
  refine ⟨h.entries, ⟨idle.erase t, ?_, fun t' ht' => hidle t' (mem_of_mem_erase ht')⟩,
    fun t' ht' => h.now t' (mem_cons_of_mem _ ht'), h.ids, h.once, h.log, h.ordered⟩
  exact (htimers.trans (((perm_cons_erase hmem).append_left _).trans
    perm_middle)).cons_inv

/-- The first task of its entry is due when its second's first timer message arrives. -/
theorem Inv.due_eq (h : Inv scale [t] [] s) (hnow : s.now = t)
    (hk : s.handler.lookup (t / 10 ^ scale) = some (task :: others))
    (hhandler : task.handler = true) : task.due = t := by
  have hpairwise := pairwise_cons.1 (h.entries _ _ hk).pairwise
  have hle : t ≤ task.due :=
    hnow ▸ h.now_le_due (mem_pendingIn.2 ⟨_, _, hk, mem_cons_self, hhandler⟩)
  refine le_antisymm ?_ hle
  obtain ⟨idle, htimers, hidle⟩ := h.timers
  rcases mem_append.1 (htimers.mem_iff.1 mem_cons_self) with ht | ht
  · obtain ⟨b, hb, rfl⟩ := mem_map.1 ht
    obtain ⟨k, tasks, htasks, hmem, -⟩ := mem_pendingIn.1 hb
    rw [(h.entries k tasks htasks).due b hmem, htasks] at hk
    cases hk
    rcases mem_cons.1 hmem with rfl | hmem
    · exact le_rfl
    · exact (hpairwise.1 b hmem).2 hhandler
  · obtain ⟨tasks, htasks, -, hdue⟩ := hidle t ht
    rw [hk] at htasks
    cases htasks
    exact hdue task mem_cons_self hhandler

/-- The timer messages and the log do not matter to `scheduleIn`. -/
theorem addTask_congr (c : Call) (timers : List ℤ) (log : List Delivery) :
    addTask scale { s with timers := timers, log := log } c =
      { s.addTask scale c with timers := timers ++ [(s.newTask scale c).due], log := log } := by
  simp only [addTask, newTask, key]
  cases s.handler.lookup (s.now / 10 ^ scale + c.1) <;> rfl

theorem FitAll.congr {calls : List Call} (h : FitAll scale s calls) (timers : List ℤ)
    (log : List Delivery) : FitAll scale { s with timers := timers, log := log } calls := by
  induction calls generalizing s timers with
  | nil => trivial
  | cons c calls ih =>
    refine ⟨h.1, ?_⟩
    rw [addTask_congr]
    exact ih h.2 _

/-- A task that is handed to its handler is in the log and still in the map. -/
theorem Inv.log_append (h : Inv scale [t] [] s) (hnow : s.now = t) (ht : task.due = t) :
    Inv scale [t] [task] { s with log := s.log ++ [⟨task, s.now⟩] } := by
  refine ⟨h.entries, h.timers, h.now, h.ids, ?_, fun e he => ?_, ?_⟩
  · have honce := h.once
    rw [append_nil] at honce
    show ((s.log ++ [_]).map Delivery.task ++ s.pending).Perm _
    rw [map_append, append_assoc]
    refine perm_append_comm_assoc _ _ _ |>.trans ?_
    exact (perm_append_comm).trans (honce.append_right _)
  · rcases mem_append.1 he with he | he
    · exact h.log e he
    · rw [mem_singleton.1 he]
      exact ⟨ht.trans hnow.symm, le_rfl⟩
  · show (s.log ++ [_]).Pairwise _
    rw [pairwise_append]
    refine ⟨h.ordered, pairwise_singleton _ _, fun e he e' he' => ?_⟩
    rw [mem_singleton.1 he', (h.log e he).1, ht, ← hnow]
    exact (h.log e he).2

variable {order : List ℤ}

/-- The first task of the entry of the current second is delivered and removed. -/
theorem Inv.visit (h : Inv scale [t] [] s) (hnow : s.now = t)
    (hk : s.handler.lookup (t / 10 ^ scale) = some (task :: others))
    (hhandler : task.handler = true)
    (hdel : Deliverable scale s order (react task.id) (t / 10 ^ scale) others) :
    ∃ s', s.visit scale react (t / 10 ^ scale) = .ok s' ∧ Inv scale [] [] s' ∧ s'.now = s.now ∧
      (order.getLast? ≠ some (t / 10 ^ scale) → s'.modCount = s.modCount) := by
  obtain ⟨hfits, halone, hlast⟩ := hdel
  have hdue := h.due_eq hnow hk hhandler
  obtain ⟨s2, hs2, hinv, hnow2, -, hentries, hmod⟩ :=
    (h.log_append hnow hdue).scheduleAll (hfits.congr s.timers _)
  obtain ⟨added, hadded, hnil⟩ := hentries _ _ hk
  have hocc : s.eventOccurred scale react task = .ok s2 := hs2
  have hpending : s2.pending.Perm _ := pendingIn_of_lookup hadded
  rw [cons_append, filter_cons_of_pos (by exact hhandler)] at hpending
  have hle : t / 10 ^ scale ≤ s.now / 10 ^ scale := by rw [hnow]
  have hmod' : order.getLast? ≠ some (t / 10 ^ scale) → s2.modCount = s.modCount := by
    intro hne
    refine hmod fun c hc hnone => hne (hlast (.inr ⟨c, hc, hnone⟩))
  unfold Scheduler.visit
  rw [if_pos hle, hk]
  cases others with
  | nil =>
    have hadded' : added = [] := hnil (halone rfl)
    subst hadded'
    simp only [hhandler, if_true, hocc, ok_bind, pure_eq_ok, Except.ok.injEq, exists_eq_left']
    refine ⟨hinv.remove hadded hdue hhandler ?_ (fun k' hk' => AList.lookup_erase_ne hk') ?_, hnow2,
      fun hne => absurd (hlast (.inl rfl)) hne⟩
    · exact hpending
    · exact AList.lookup_erase _ _
  | cons b others =>
    simp only [hhandler, if_true, hocc, ok_bind, pure_eq_ok, Except.ok.injEq, exists_eq_left']
    unfold removeFirst
    rw [hadded]
    refine ⟨hinv.remove hadded hdue hhandler ?_ (fun k' hk' => AList.lookup_insert_ne hk') ?_,
      hnow2, hmod'⟩
    · rw [pendingIn_insert]
      exact hpending
    · exact (AList.lookup_insert _).trans (by simp)

/-- A timer message is handled without an exception, and the invariant holds again. -/
theorem Inv.timer (h : Inv scale [] [] s) {i : ℕ} (hi : s.timers[i]? = some t)
    (hkernel : s.Kernel (.timer i order react)) (horderly : s.Orderly scale (.timer i order react))
    :
    ∃ s', s.step scale (.timer i order react) = .ok s' ∧ Inv scale [] [] s' := by
  obtain ⟨hmin, hperm⟩ := hkernel
  have h1 := h.arrive hi (hmin t hi)
  replace horderly := horderly t hi
  simp only [Scheduler.step, hi]
  set s1 : Scheduler := { s with now := t, timers := s.timers.eraseIdx i } with hs1
  have hnodup : order.Nodup := hperm.nodup_iff.2 s.handler.keys_nodup
  by_cases hhead : ∃ task others, s1.handler.lookup (t / 10 ^ scale) = some (task :: others) ∧
      task.handler = true
  · obtain ⟨task, others, hk, hhandler⟩ := hhead
    have hdel : Deliverable scale s1 order (react task.id) (t / 10 ^ scale) others := by
      simp only [Undisturbed, show s.handler.lookup (t / 10 ^ scale) = _ from hk] at horderly
      obtain ⟨hfits, halone, hlast⟩ := horderly hhandler
      exact ⟨hfits.congr _ s.log, halone, hlast⟩
    obtain ⟨s', hvisit, hinv, hnow, hmod⟩ := h1.visit rfl hk hhandler hdel
    have hmem : t / 10 ^ scale ∈ order := by
      rw [hperm.mem_iff]
      exact AList.lookup_isSome.1 (by rw [show s.handler.lookup _ = _ from hk]; rfl)
    obtain ⟨before, after, rfl⟩ := append_of_mem hmem
    have hbefore : ∀ k ∈ before, k ≠ t / 10 ^ scale := by
      rintro k hk rfl
      exact (nodup_append.1 hnodup).2.2 _ hk _ mem_cons_self rfl
    have hafter : ∀ k ∈ after, k ≠ t / 10 ^ scale := by
      rintro k hk rfl
      exact (nodup_cons.1 (nodup_append.1 hnodup).2.1).1 hk
    refine ⟨s', ?_, hinv⟩
    rw [iterate_append rfl fun k hk => h1.visit_eq react fun a others _ heq =>
      absurd heq (hbefore k hk)]
    rw [iterate, if_neg (not_not.2 rfl), hvisit, ok_bind]
    rcases after.eq_nil_or_concat' with rfl | ⟨after', k', rfl⟩
    · rfl
    · -- the entries that come after it are passed over, and the map is unchanged
      have hlast : (before ++ t / 10 ^ scale :: (after' ++ [k'])).getLast? ≠
          some (t / 10 ^ scale) := by
        rw [← cons_append, ← append_assoc, getLast?_append]
        simpa using hafter k' (by simp)
      rw [← append_nil (after' ++ [k']), iterate_append (hmod hlast) fun k hk =>
        hinv.visit_eq react fun a others _ heq => absurd (heq.trans (by rw [hnow])) (hafter k hk)]
      rfl
  · -- nothing is delivered
    refine ⟨s1, ?_, h1.idle fun a ha hat => ?_⟩
    · rw [← append_nil order, iterate_append rfl fun k hk => h1.visit_eq react ?_]
      · rfl
      · intro a others ha heq
        subst heq
        by_contra hhandler
        exact hhead ⟨a, others, ha, by simpa using hhandler⟩
    · obtain ⟨k, tasks, htasks, hmem, hhandler⟩ := mem_pendingIn.1 ha
      obtain ⟨hne, hdue, hpairwise⟩ := h1.entries k tasks htasks
      rw [← hdue a hmem, hat] at htasks
      cases tasks with
      | nil => exact hne rfl
      | cons b tasks =>
        refine hhead ⟨b, tasks, htasks, ?_⟩
        rcases mem_cons.1 hmem with rfl | hmem
        · exact hhandler
        · exact ((pairwise_cons.1 hpairwise).1 a hmem).1 hhandler

end Delivering

section Run

variable {scale : ℕ}

theorem Inv.advance {s : Scheduler} (h : Inv scale [] [] s) {now : ℤ} (hnow : s.now ≤ now)
    (hmin : ∀ t ∈ s.timers, now ≤ t) : Inv scale [] [] { s with now := now } :=
  ⟨h.entries, h.timers, hmin, h.ids, h.once,
    fun e he => ⟨(h.log e he).1, (h.log e he).2.trans hnow⟩, h.ordered⟩

theorem Inv.step {s s' : Scheduler} (h : Inv scale [] [] s) {a : Action} (hkernel : s.Kernel a)
    (horderly : s.Orderly scale a) (hs : s.step scale a = .ok s') : Inv scale [] [] s' := by
  cases a with
  | scheduleIn now c =>
    simp only [Scheduler.step, scheduleIn, if_neg (not_lt.2 horderly.1)] at hs
    cases hs
    exact (h.advance hkernel.1 hkernel.2).addTask horderly
  | timer i order react =>
    cases hi : s.timers[i]? with
    | none =>
      simp only [Scheduler.step, hi] at hs
      cases hs
    | some t =>
      obtain ⟨s'', hs'', hinv⟩ := h.timer hi hkernel horderly
      rw [hs''] at hs
      cases hs
      exact hinv
  | message now handler calls =>
    obtain ⟨rfl, hfits⟩ := horderly
    obtain ⟨s'', hs'', hinv, -⟩ := (h.advance hkernel.1 hkernel.2).scheduleAll hfits
    have hstep : s.step scale (.message now true calls) = .ok s'' := hs''
    rw [hstep] at hs
    cases hs
    exact hinv

theorem Inv.init (now : ℤ) : Inv scale [] [] (init now) := by
  refine ⟨fun k tasks hk => ?_, ⟨[], ?_, ?_⟩, ?_, ?_, ?_, ?_, ?_⟩
  · cases hk
  all_goals simp [Scheduler.init, pending, pendingIn]

end Run

/-! ### Runs on fixed calls -/

instance (s : Scheduler) : ∀ a, Decidable (s.Kernel a)
  | .scheduleIn now _ => inferInstanceAs (Decidable (s.now ≤ now ∧ ∀ t ∈ s.timers, now ≤ t))
  | .timer i order _ => inferInstanceAs (Decidable
      ((∀ t ∈ s.timers[i]?, ∀ t' ∈ s.timers, t ≤ t') ∧ order.Perm s.handler.keys))
  | .message now _ _ => inferInstanceAs (Decidable (s.now ≤ now ∧ ∀ t ∈ s.timers, now ≤ t))

instance (scale : ℕ) (s : Scheduler) (c : Call) : Decidable (Fits scale s c) :=
  inferInstanceAs (Decidable (0 ≤ c.1 ∧ ∀ tasks ∈ s.handler.lookup (s.key scale c.1),
    ∀ a ∈ tasks, (c.2 → a.handler) ∧ (a.handler → a.due ≤ s.now + c.1 * 10 ^ scale)))

instance decidableFitAll (scale : ℕ) : ∀ s calls, Decidable (FitAll scale s calls)
  | _, [] => .isTrue trivial
  | s, c :: calls =>
    have := decidableFitAll scale (s.addTask scale c) calls
    inferInstanceAs (Decidable (_ ∧ _))

instance (scale : ℕ) (s : Scheduler) (order : List ℤ) (calls : List Call) (k : ℤ)
    (others : List SchedulerTask) : Decidable (Deliverable scale s order calls k others) :=
  inferInstanceAs (Decidable (_ ∧ (_ → ∀ c ∈ calls, s.key scale c.1 ≠ k) ∧
    ((_ ∨ ∃ c ∈ calls, s.handler.lookup (s.key scale c.1) = none) → _)))

instance (scale : ℕ) (s : Scheduler) (order : List ℤ) (react : ℕ → List Call) :
    Decidable (Undisturbed scale s order react) :=
  match h : s.handler.lookup (s.now / 10 ^ scale) with
  | some (task :: others) => decidable_of_iff (task.handler →
      Deliverable scale s order (react task.id) (s.now / 10 ^ scale) others)
      (by simp only [Undisturbed, h])
  | some [] => .isTrue (by simp only [Undisturbed, h])
  | none => .isTrue (by simp only [Undisturbed, h])

instance (scale : ℕ) (s : Scheduler) : ∀ a, Decidable (s.Orderly scale a)
  | .scheduleIn now c => inferInstanceAs (Decidable (Fits scale { s with now := now } c))
  | .timer i order react => inferInstanceAs (Decidable
      (∀ t ∈ s.timers[i]?, Undisturbed scale { s with now := t } order react))
  | .message now handler calls => inferInstanceAs (Decidable
      (handler ∧ FitAll scale { s with now := now } ((1000, handler) :: calls)))

end Scheduler

end Hiwis
