import Hiwis.Transport.AbstractRealTransport

/-!
# Every callback is invoked exactly once

A callback that `sendAndWait` registers is at one place at a time: in `openCallbacks`, with the
reception or the event that took it from there, or in the log of the invocations.  Two things
lose it: a datagram under its identifier whose message cannot be recreated, because the callback
has been removed by then and its timeout finds nothing; and a `sendAndWait` whose identifier has
come round to one that is still open.

* `Net.Balanced.step` : without these, every step moves callbacks from one place to the next;
* `Net.exactlyOnce_of_run` : every callback is invoked exactly once;
* `Net.not_exactlyOnce_of_malformed` : a datagram without a message, and the callback is never
  invoked.
-/

namespace Hiwis

open List Option Trace

namespace Transport

variable {P M : Type*}

namespace Net

/-- How often the callback of a request has been invoked. -/
def invocations (s : Net P M) (r : ℕ) : ℕ := s.log.countP fun e => e.request?.map Prod.fst = some r

theorem countP_log_append (log : List (Dispatch P M)) (a : Dispatch P M) (r : ℕ) :
    (log ++ [a]).countP (fun e => e.request?.map Prod.fst = some r) =
      log.countP (fun e => e.request?.map Prod.fst = some r) +
        if a.request?.map Prod.fst = some r then 1 else 0 := by
  rw [countP_append, countP_singleton]
  simp only [decide_eq_true_eq]

section

variable (s : Net P M) (r : ℕ)

/-- How many receptions and events hold the callback of a request. -/
def held : ℕ :=
  (s.receptions.countP fun x => x.cb = some r) + s.events.countP fun e => e.cb = some r

/-- How many times, at most one, `openCallbacks` has the callback of a request. -/
def opened (q : Request P) : ℕ :=
  if (s.peers q.peer).openCallbacks q.commID = some r then 1 else 0

/-- Neither the reply of a request nor its timeout has been processed. -/
def Waiting (q : Request P) : Prop :=
  (s.peers q.peer).openCallbacks q.commID = some r ∧ (q.peer, q.commID) ∈ s.timeouts

/-- The reply of a request is being processed. -/
def InProgress : Prop := (∃ x ∈ s.receptions, x.cb = some r) ∨ ∃ e ∈ s.events, e.cb = some r

end

/-- No callback is ever invoked twice, and each has been invoked as soon as its timeout or its
reply has been processed. -/
def ExactlyOnce (s : Net P M) : Prop :=
  ∀ r q, s.requests[r]? = some q → s.invocations r ≤ 1 ∧
    (¬s.Waiting r q → ¬s.InProgress r → s.invocations r = 1)

/-- A datagram under the identifier of an open callback can be deserialised. -/
def Deserialises (cfg : Config P M) (s : Net P M) (d : Datagram P) : Prop :=
  match UnserializeAndReceive.header cfg.services d.data with
  | .error _ => True
  | .ok (commID, _, bin) => ((s.peers d.dst).openCallbacks commID).isSome →
      (cfg.serializer.create bin).isSome

instance (cfg : Config P M) (s : Net P M) (d : Datagram P) : Decidable (Deserialises cfg s d) :=
  match h : UnserializeAndReceive.header cfg.services d.data with
  | .error _ => .isTrue (by simp [Deserialises, h])
  | .ok (commID, _, bin) =>
    decidable_of_iff (((s.peers d.dst).openCallbacks commID).isSome →
      (cfg.serializer.create bin).isSome) (by simp [Deserialises, h])

/-- No callback is registered under an identifier that is in use, and what arrives for a callback
can be deserialised. -/
def WellFormed (cfg : Config P M) (s : Net P M) : Action P M → Prop
  | .sendAndWait p _ _ _ => (s.peers p).openCallbacks (s.peers p).currentID = none
  | .arrive d => allowed cfg d → Deserialises cfg s d
  | _ => True

instance (cfg : Config P M) (s : Net P M) : ∀ a, Decidable (WellFormed cfg s a)
  | .sendAndWait p _ _ _ =>
    inferInstanceAs (Decidable ((s.peers p).openCallbacks (s.peers p).currentID = none))
  | .arrive d => inferInstanceAs (Decidable (allowed cfg d → Deserialises cfg s d))
  | .setTransportMessageListener _ _ | .send _ _ _ _ | .sendReply _ _ _ _ _ _ | .create _
  | .receive _ | .timeout _ => .isTrue trivial

/-- Each callback is at exactly one place, and none waits without a timeout. -/
structure Balanced (cfg : Config P M) (s : Net P M) : Prop where
  registered : Registered s
  timeouts : ∀ p commID r, (s.peers p).openCallbacks commID = some r → (p, commID) ∈ s.timeouts
  balance : ∀ r q, s.requests[r]? = some q → s.opened r q + s.held r + s.invocations r = 1
  create : ∀ x ∈ s.receptions, x.cb.isSome → (cfg.serializer.create x.bin).isSome

theorem Balanced.exactlyOnce {cfg : Config P M} {s : Net P M} (h : Balanced cfg s) :
    ExactlyOnce s := by
  intro r q hq
  have hb := h.balance r q hq
  refine ⟨by omega, fun hw hp => ?_⟩
  have hopened : s.opened r q = 0 := by
    unfold opened
    rw [if_neg]
    intro hr
    exact hw ⟨hr, h.timeouts _ _ _ hr⟩
  have hheld : s.held r = 0 := by
    unfold held
    rw [Nat.add_eq_zero_iff, countP_eq_zero, countP_eq_zero]
    unfold InProgress at hp
    push Not at hp
    exact ⟨by simpa using hp.1, by simpa using hp.2⟩
  rwa [hopened, hheld, Nat.zero_add] at hb

namespace Balanced

variable {cfg : Config P M} {s : Net P M} {s' : Net P M}

theorem congr (h : Balanced cfg s) (hreg : Registered s')
    (hopen : ∀ p, (s'.peers p).openCallbacks = (s.peers p).openCallbacks)
    (htimeouts : s'.timeouts = s.timeouts) (hreceptions : s'.receptions = s.receptions)
    (hevents : s'.events = s.events) (hlog : s'.log = s.log) (hrequests : s'.requests = s.requests)
    :
    Balanced cfg s' := by
  refine ⟨hreg, fun p c r hr => ?_, fun r q hq => ?_, fun x hx => ?_⟩
  · rw [hopen] at hr
    rw [htimeouts]
    exact h.timeouts p c r hr
  · rw [hrequests] at hq
    unfold opened held invocations
    rw [hopen, hreceptions, hevents, hlog]
    exact h.balance r q hq
  · rw [hreceptions] at hx
    exact h.create x hx

theorem doSend (h : Balanced cfg s) (p : P) (onSend : Byte → Option M) (msg : M) (receiver : P)
    (commID : BitVec 32) (origin : Origin) :
    Balanced cfg (s.doSend cfg p onSend msg receiver commID origin) := by
  have hreg := h.registered.doSend cfg p onSend msg receiver commID origin
  obtain ⟨sent, hsent, -⟩ := doSend_spec cfg s p onSend msg receiver commID origin
  rw [hsent] at hreg ⊢
  exact h.congr hreg (fun _ => rfl) rfl rfl rfl rfl rfl

variable {i : ℕ}

/-- A reception that is gone on with holds its callback until the event is scheduled. -/
theorem createStep (h : Balanced cfg s) {x : Reception P} (hx : s.receptions[i]? = some x) :
    Balanced cfg (Net.create cfg { s with receptions := s.receptions.eraseIdx i } x) := by
  have hreg := h.registered.create cfg hx
  have hperm := perm_eraseIdx hx
  have hcreate : ∀ y ∈ s.receptions.eraseIdx i, y.cb.isSome →
      (cfg.serializer.create y.bin).isSome := fun y hy => h.create y (mem_of_mem_eraseIdx hy)
  have hcount : ∀ r, s.receptions.countP (fun y => y.cb = some r) =
      (s.receptions.eraseIdx i).countP (fun y => y.cb = some r) + if x.cb = some r then 1 else 0 := by
    intro r
    rw [hperm.countP_eq, countP_cons]
    simp
  unfold Net.create UnserializeAndReceive.create at hreg ⊢
  cases hmsg : cfg.serializer.create x.bin with
  | none =>
    rw [hmsg] at hreg
    refine ⟨hreg, h.timeouts, fun r q hq => ?_, hcreate⟩
    -- the reception has no callback that could be lost
    have hcb : x.cb ≠ some r := by
      intro hr
      have := h.create x (mem_of_getElem? hx) (by rw [hr]; rfl)
      rw [hmsg] at this
      cases this
    have hb := h.balance r q hq
    unfold held at hb ⊢
    rw [hcount, if_neg hcb] at hb
    exact hb
  | some msg =>
    rw [hmsg] at hreg
    refine ⟨hreg, h.timeouts, fun r q hq => ?_, hcreate⟩
    have hb := h.balance r q hq
    show s.opened r q + ((s.receptions.eraseIdx i).countP (fun y => y.cb = some r) +
      (s.events ++ [_]).countP fun e : ReceiveEvent P M => e.cb = some r) + s.invocations r = 1
    unfold held at hb
    rw [hcount] at hb
    simp only [countP_append, countP_singleton, decide_eq_true_eq]
    omega

theorem receive (h : Balanced cfg s) {e : ReceiveEvent P M} (he : s.events[i]? = some e) :
    Balanced cfg (Net.receive { s with events := s.events.eraseIdx i } e) := by
  have hreg := h.registered.receive he
  have hperm := perm_eraseIdx he
  have hcount : ∀ r, s.events.countP (fun y => y.cb = some r) =
      (s.events.eraseIdx i).countP (fun y => y.cb = some r) + if e.cb = some r then 1 else 0 := by
    intro r
    rw [hperm.countP_eq, countP_cons]
    simp
  have hnone : ∀ {a : Dispatch P M}, e.cb = none → a.request? = none → ∀ r q,
      s.requests[r]? = some q → s.opened r q +
        (s.receptions.countP (fun x => x.cb = some r) +
          (s.events.eraseIdx i).countP fun e => e.cb = some r) +
        (s.log ++ [a]).countP (fun e => e.request?.map Prod.fst = some r) = 1 := by
    intro a hcb ha r q hq
    have hb := h.balance r q hq
    unfold held invocations at hb
    rw [hcount, hcb] at hb
    simpa [ha] using hb
  unfold Net.receive at hreg ⊢
  split
  · rename_i cb hcb
    rw [hcb] at hreg
    refine ⟨hreg, h.timeouts, fun r q hq => ?_, h.create⟩
    have hb := h.balance r q hq
    show s.opened r q + (s.receptions.countP (fun x => x.cb = some r) +
      (s.events.eraseIdx i).countP fun e => e.cb = some r) +
      (s.log ++ [_]).countP (fun e : Dispatch P M => e.request?.map Prod.fst = some r) = 1
    unfold held invocations at hb
    rw [hcount, hcb] at hb
    rw [countP_log_append]
    by_cases hr : cb = r
    · simp only [hr, ↓reduceIte, Dispatch.request?_receive, map_some] at hb ⊢
      omega
    · simp only [hr, ↓reduceIte, Dispatch.request?_receive, map_some,
        Option.some.injEq] at hb ⊢
      omega
  · rename_i hcb
    rw [hcb] at hreg
    split
    · rename_i hls
      dsimp only at hreg
      rw [if_pos hls] at hreg
      exact ⟨hreg, h.timeouts, hnone hcb rfl, h.create⟩
    · rename_i hls
      dsimp only at hreg
      rw [if_neg hls] at hreg
      exact ⟨hreg, h.timeouts, hnone hcb rfl, h.create⟩

variable [DecidableEq P]

/-- What is taken out of `openCallbacks` is the callback of one request. -/
theorem opened_remove (h : Registered s) (p : P) (commID : BitVec 32) {r : ℕ} {q : Request P}
    (hq : s.requests[r]? = some q) :
    s.opened r q = (s.remove p commID).opened r q +
      if (s.peers p).openCallbacks commID = some r then 1 else 0 := by
  unfold opened
  rw [openCallbacks_remove]
  by_cases hr : (s.peers p).openCallbacks commID = some r
  · have hpc := h.openCallbacks p commID r hr
    rw [hq] at hpc
    cases hpc
    simp [hr]
  · rw [if_neg hr]
    split_ifs with hpc <;> simp_all

variable (h : Balanced cfg s)
include h

theorem arrive {d : Datagram P} (hd : s.WellFormed cfg (.arrive d)) :
    Balanced cfg (s.arrive cfg d) := by
  have hreg := h.registered.arrive cfg d
  unfold WellFormed at hd
  unfold Net.arrive at hreg ⊢
  split
  · rename_i hallowed
    rw [if_pos hallowed] at hreg
    replace hd := hd hallowed
    dsimp only at hreg ⊢
    split
    · rename_i e he
      rw [he] at hreg
      exact ⟨hreg, h.timeouts, h.balance, h.create⟩
    · rename_i commID pigs bin hheader
      unfold Deserialises at hd
      rw [hheader] at hreg hd
      refine ⟨hreg, fun p c r hr => ?_, fun r q hq => ?_, fun x hx => ?_⟩
      · replace hr : ((s.remove d.dst commID).peers p).openCallbacks c = some r := hr
        rw [openCallbacks_remove] at hr
        split_ifs at hr
        exact h.timeouts p c r hr
      · -- the callback moves from `openCallbacks` to the new reception
        have hb := h.balance r q hq
        have hopened := opened_remove h.registered d.dst commID hq
        show (s.remove d.dst commID).opened r q +
          ((s.receptions ++ [_]).countP (fun x : Reception P => x.cb = some r) +
            s.events.countP fun e => e.cb = some r) + s.invocations r = 1
        unfold held at hb
        rw [countP_append, countP_singleton]
        simp only [decide_eq_true_eq]
        omega
      · rcases mem_append.1 hx with hx | hx
        · exact h.create x hx
        · cases mem_singleton.1 hx
          exact hd
  · exact h

variable {commID : BitVec 32} {p : P}

theorem timeout (hi : s.timeouts[i]? = some (p, commID)) :
    Balanced cfg (Net.timeout { s with timeouts := s.timeouts.eraseIdx i } p commID) := by
  have hreg := h.registered.timeout p commID (s.timeouts.eraseIdx i)
  have htimeouts : ∀ p' c r, ((s.remove p commID).peers p').openCallbacks c = some r →
      (p', c) ∈ s.timeouts.eraseIdx i := by
    intro p' c r hr
    rw [openCallbacks_remove] at hr
    split_ifs at hr with hpc
    rcases mem_cons.1 ((perm_eraseIdx hi).mem_iff.1 (h.timeouts p' c r hr)) with heq | hmem
    · cases heq
      exact absurd ⟨rfl, rfl⟩ hpc
    · exact hmem
  unfold Net.timeout at hreg ⊢
  split
  · rename_i cb hcb
    rw [hcb] at hreg
    refine ⟨hreg, htimeouts, fun r q hq => ?_, h.create⟩
    have hb := h.balance r q hq
    have hopened := opened_remove h.registered p commID hq
    rw [show (s.peers p).openCallbacks commID = some cb from hcb] at hopened
    show (s.remove p commID).opened r q + s.held r +
      (s.log ++ [_]).countP (fun e : Dispatch P M => e.request?.map Prod.fst = some r) = 1
    unfold invocations at hb
    rw [countP_log_append]
    by_cases hr : cb = r
    · simp only [hr, ↓reduceIte, Dispatch.request?_messageTimeoutOccured, map_some]
        at hopened ⊢
      omega
    · simp only [hr, ↓reduceIte, Dispatch.request?_messageTimeoutOccured, map_some,
        Option.some.injEq] at hopened ⊢
      omega
  · rename_i hcb
    rw [hcb] at hreg
    refine ⟨hreg, htimeouts, fun r q hq => ?_, h.create⟩
    have hopened := opened_remove h.registered p commID hq
    rw [show (s.peers p).openCallbacks commID = none from hcb] at hopened
    have hb := h.balance r q hq
    rw [hopened] at hb
    exact hb

theorem nextID (p : P) : Balanced cfg (s.nextID p) :=
  h.congr (h.registered.nextID p) (openCallbacks_nextID s p) rfl rfl rfl rfl rfl

theorem put (hp : (s.peers p).openCallbacks commID = none) :
    Balanced cfg { s.put p commID s.requests.length with
      requests := s.requests ++ [⟨p, commID⟩], timeouts := s.timeouts ++ [(p, commID)] } := by
  obtain ⟨-, hrec, hev, hlog⟩ := h.registered.lt
  refine ⟨h.registered.put p commID _, fun p' c r hr => ?_, fun r q hq => ?_, h.create⟩
  · replace hr : ((s.put p commID s.requests.length).peers p').openCallbacks c = some r := hr
    rw [openCallbacks_put] at hr
    split_ifs at hr with hpc
    · obtain ⟨rfl, rfl⟩ := hpc
      exact mem_append_right _ mem_cons_self
    · exact mem_append_left _ (h.timeouts p' c r hr)
  · show (s.put p commID s.requests.length).opened r q + s.held r + s.invocations r = 1
    unfold opened
    rw [openCallbacks_put]
    replace hq : (s.requests ++ [⟨p, commID⟩])[r]? = some q := hq
    rw [List.getElem?_append] at hq
    split_ifs at hq with hlt
    · -- an old request, which is not open under this identifier
      have hb := h.balance r q hq
      unfold opened at hb
      by_cases hpc : q.peer = p ∧ q.commID = commID
      · rw [hpc.1, hpc.2, hp, if_neg (by simp)] at hb
        rw [if_pos hpc, if_neg (by simpa using (Nat.ne_of_lt hlt).symm)]
        exact hb
      · rw [if_neg hpc]
        exact hb
    · have hr : r = s.requests.length := by
        have := (List.getElem?_eq_some_iff.1 hq).1
        simp only [length_singleton] at this
        omega
      subst hr
      rw [Nat.sub_self] at hq
      cases hq
      have hheld : s.held s.requests.length = 0 := by
        unfold held
        rw [Nat.add_eq_zero_iff, countP_eq_zero, countP_eq_zero]
        exact ⟨fun x hx hcb => absurd (hrec x hx _ (by simpa using hcb)) (lt_irrefl _),
          fun e he hcb => absurd (hev e he _ (by simpa using hcb)) (lt_irrefl _)⟩
      have hinv : s.invocations s.requests.length = 0 := by
        unfold invocations
        rw [countP_eq_zero]
        intro e he hcb
        obtain ⟨⟨r, q⟩, hrq, hr⟩ := map_eq_some_iff.1 (of_decide_eq_true hcb)
        exact absurd (hr ▸ hlog e he _ _ hrq) (lt_irrefl _)
      rw [hheld, hinv]
      simp

theorem step {a : Action P M} (ha : s.WellFormed cfg a) (hs : s.step cfg a = .ok s') :
    Balanced cfg s' := by
  cases a with
  | setTransportMessageListener p listener =>
    have hreg := h.registered.step hs
    cases hs
    exact h.congr hreg (openCallbacks_setListener s p · listener) rfl rfl rfl rfl rfl
  | send p onSend msg receiver =>
    cases hs
    exact (h.nextID p).doSend p onSend msg receiver _ _
  | sendAndWait p onSend msg receiver =>
    cases hs
    refine ((h.nextID p).put ?_).doSend p onSend msg receiver _ _
    rw [openCallbacks_nextID]
    exact ha
  | sendReply p onSend reply receiver commID k =>
    cases hs
    have h' := h.congr (h.registered.congr s.sent (s.replies ++
      [⟨p, receiver, commID, reply, s.repliedTo p receiver commID k⟩])) (fun _ => rfl) rfl rfl rfl
      rfl rfl
    exact h'.doSend p onSend reply receiver commID _
  | arrive d =>
    cases hs
    exact h.arrive ha
  | create i =>
    obtain ⟨x, hx, rfl⟩ := step_create hs
    exact h.createStep hx
  | receive i =>
    obtain ⟨e, he, rfl⟩ := step_receive hs
    exact h.receive he
  | timeout i =>
    obtain ⟨p, commID, hi, rfl⟩ := step_timeout hs
    exact h.timeout hi

end Balanced

section ExactlyOnce

variable {cfg : Config P M}

theorem balanced_init (currentID : P → BitVec 32) (listener : P → Bool) :
    Balanced cfg (init currentID listener : Net P M) := by
  refine ⟨⟨?_, ?_, ?_, ?_⟩, ?_, ?_, ?_⟩ <;> simp [init]

/-- **Exactly once**: in a run in which no datagram for an open callback is malformed and no
identifier is registered twice, every callback is invoked exactly once. -/
theorem exactlyOnce_of_run [DecidableEq P] {currentID : P → BitVec 32} {listener : P → Bool}
    {as : List (Action P M)} {s : Net P M}
    (h : Run (step cfg) (WellFormed cfg) (init currentID listener) as s) : ExactlyOnce s :=
  (h.invariant (I := Balanced cfg) (fun _ _ _ hI ha hs => hI.step ha hs)
    (balanced_init currentID listener)).exactlyOnce

end ExactlyOnce

/-! ### Two hosts -/

/-- The host `false` sends the request 5 and gets the reply 6. -/
def sampleActions : List (Action Bool Byte) :=
  [.sendAndWait false (fun _ => none) 5 true,
    .arrive ⟨false, true, [0, 0, 0, 0, 0, 5], .request 0⟩, .create 0, .receive 0,
    .sendReply true (fun _ => none) 6 false 0 0,
    .arrive ⟨true, false, [0, 0, 0, 0, 0, 6], .reply (some 0)⟩, .create 0, .receive 0, .timeout 0]

theorem exactlyOnce_of_run_sample : ∃ s, Run (step byteConfig) (WellFormed byteConfig)
    (init (fun _ => 0) (fun _ => true)) sampleActions s ∧ s.invocations 0 = 1 ∧ ExactlyOnce s := by
  have hrun : ∃ s, Run (step byteConfig) (WellFormed byteConfig)
      (init (fun _ => 0) (fun _ => true)) sampleActions s ∧ s.invocations 0 = 1 :=
    exists_run_of_exec (by decide +kernel)
  obtain ⟨s, hs, hinv⟩ := hrun
  exact ⟨s, hs, hinv, exactlyOnce_of_run hs⟩

/-- The host `false` sends the request 5, and a datagram arrives that ends with the header. -/
def malformedActions : List (Action Bool Byte) :=
  [.sendAndWait false (fun _ => none) 5 true, .arrive ⟨true, false, [0, 0, 0, 0, 0], .send⟩,
    .create 0, .timeout 0]

/-- The callback of a request is lost to a datagram with its identifier and no message: when its
timeout occurs, it is not found any more. -/
theorem not_exactlyOnce_of_malformed : ∃ s, Run (step byteConfig) (fun _ _ => True)
    (init (fun _ => 0) (fun _ => true)) malformedActions s ∧ ¬ExactlyOnce s := by
  have hrun : ∃ s, Run (step byteConfig) (fun _ _ => True)
      (init (fun _ => 0) (fun _ => true)) malformedActions s ∧
      (s.requests, s.timeouts, s.receptions.length + s.events.length, s.invocations 0) =
        ([⟨false, 0⟩], [], 0, 0) :=
    exists_run_of_exec (by decide +kernel)
  obtain ⟨s, hs, hf⟩ := hrun
  simp only [Prod.mk.injEq, Nat.add_eq_zero_iff, length_eq_zero_iff] at hf
  obtain ⟨hrequests, htimeouts, ⟨hreceptions, hevents⟩, hinv⟩ := hf
  refine ⟨s, hs, fun h => ?_⟩
  have hone := (h 0 ⟨false, 0⟩ (by rw [hrequests]; rfl)).2 (by simp [Waiting, htimeouts])
    (by simp [InProgress, hreceptions, hevents])
  rw [hinv] at hone
  cases hone

end Net

end Transport

end Hiwis
