import Hiwis.Transport.WireFormat

/-!
# Requests and replies over AbstractRealTransport

Any number of peers, each with an instance of `AbstractRealTransport`, exchange messages over a
network that may reorder, duplicate and drop datagrams.  `sendAndWait` registers a callback in
`openCallbacks` under the communication identifier of the request and schedules its timeout.  A
datagram is processed in three steps, which other activities may interleave with: its header is
read and the callback registered under its identifier is taken out of `openCallbacks`
(`arrive`), the message is recreated and a `ReceiveEvent` is scheduled (`create`), and the event
hands the message to the callback or the listener (`receive`).

A callback is identified by the number of the `sendAndWait` that registered it.  The components
`sent`, `arrived`, `requests` and `replies` of the state and the origin of a datagram record what
has happened; the code does not have them and no step of it depends on them.

* `Net.step` : what the peers and the network can do;
* `Net.doSend_spec`, `Net.openCallbacks_put`, `Net.openCallbacks_remove` : what the operations
  change;
* `Net.Registered.step` : wherever a callback is on its way from `sendAndWait` to its
  invocation, it stays with the peer and the identifier that it was registered for.
-/

namespace Hiwis

open List Function

namespace Transport

variable {P M : Type*}

/-! ### The state -/

/-- Which call a datagram stems from; a request by its number, a reply by the number of the
request that it replies to, if that was one. -/
inductive Origin
  | send
  | request (r : ℕ)
  | reply (r : Option ℕ)
deriving DecidableEq

/-- The request that a message handed to a listener belongs to. -/
def Origin.request? : Origin → Option ℕ
  | .request r => some r
  | _ => none

structure Datagram (P : Type*) where
  src : P
  dst : P
  data : List Byte
  origin : Origin
deriving DecidableEq

/-- `FirewallService`: the connections that it allows. -/
structure FirewallService (P : Type*) where
  allowOutgoingConnection : P → Bool
  allowIncomingConnection : P → Bool

/-- What the transport components are set up with. -/
structure Config (P M : Type*) where
  services : Piggybackers M
  serializer : Serializer M
  firewalls : P → List (FirewallService P)

/-- Two hosts, messages of one byte, no piggybacking services and no firewalls. -/
def byteConfig : Config Bool Byte := ⟨Piggybackers.empty, byteSerializer, fun _ => []⟩

/-- The fields of one instance. -/
structure Peer where
  currentID : BitVec 32
  /-- whether a listener has been set -/
  listener : Bool
  openCallbacks : BitVec 32 → Option ℕ

/-- An `UnserializeAndReceive` that has taken its callback and not yet recreated the message. -/
structure Reception (P : Type*) where
  datagram : Datagram P
  commID : BitVec 32
  bin : List Byte
  cb : Option ℕ

structure ReceiveEvent (P M : Type*) where
  datagram : Datagram P
  msg : M
  commID : BitVec 32
  cb : Option ℕ
  ls : Bool

/-- The invocations of callbacks and listeners. -/
inductive Dispatch (P M : Type*)
  | receive (datagram : Datagram P) (cb : ℕ) (msg : M) (commID : BitVec 32)
  | messageArrived (datagram : Datagram P) (msg : M) (commID : BitVec 32)
  /-- `AssertionError("No Handler!")` -/
  | noHandler (datagram : Datagram P)
  | messageTimeoutOccured (peer : P) (cb : ℕ) (commID : BitVec 32)
deriving DecidableEq

/-- A `sendAndWait`. -/
structure Request (P : Type*) where
  peer : P
  commID : BitVec 32
deriving DecidableEq

/-- A `sendReply`, and the request that it replies to. -/
structure Reply (P M : Type*) where
  peer : P
  receiver : P
  commID : BitVec 32
  reply : M
  request : Option ℕ
deriving DecidableEq

/-- The callback that an invocation is of, and the request that registered it. -/
def Dispatch.request? : Dispatch P M → Option (ℕ × Request P)
  | .receive d cb _ commID => some (cb, ⟨d.dst, commID⟩)
  | .messageTimeoutOccured p cb commID => some (cb, ⟨p, commID⟩)
  | _ => none

@[simp] theorem Dispatch.request?_receive (d : Datagram P) (cb : ℕ) (msg : M) (c : BitVec 32) :
    (Dispatch.receive d cb msg c).request? = some (cb, ⟨d.dst, c⟩) := rfl

@[simp] theorem Dispatch.request?_messageTimeoutOccured (p : P) (cb : ℕ) (c : BitVec 32) :
    (Dispatch.messageTimeoutOccured p cb c : Dispatch P M).request? = some (cb, ⟨p, c⟩) := rfl

/-- The datagram that an invocation hands over. -/
def Dispatch.datagram? : Dispatch P M → Option (Datagram P)
  | .receive d _ _ _ => some d
  | .messageArrived d _ _ => some d
  | .noHandler d => some d
  | .messageTimeoutOccured _ _ _ => none

structure Net (P M : Type*) where
  peers : P → Peer
  /-- the scheduled timeout events -/
  timeouts : List (P × BitVec 32)
  receptions : List (Reception P)
  events : List (ReceiveEvent P M)
  log : List (Dispatch P M)
  sent : List (Datagram P)
  arrived : List (Datagram P)
  requests : List (Request P)
  replies : List (Reply P M)

namespace Net

/-- No instance has sent anything yet. -/
def init (currentID : P → BitVec 32) (listener : P → Bool) : Net P M :=
  ⟨fun p => ⟨currentID p, listener p, fun _ => none⟩, [], [], [], [], [], [], [], []⟩

section Steps

variable [DecidableEq P]

/-! ### Sending -/

section

variable (s : Net P M) (p : P)

def setPeer (peer : Peer) : Net P M := { s with peers := update s.peers p peer }

/-- `openCallbacks.put`. -/
def put (commID : BitVec 32) (cb : ℕ) : Net P M :=
  s.setPeer p { s.peers p with
    openCallbacks := update (s.peers p).openCallbacks commID (some cb) }

/-- `openCallbacks.remove`. -/
def remove (commID : BitVec 32) : Net P M :=
  s.setPeer p { s.peers p with
    openCallbacks := update (s.peers p).openCallbacks commID none }

/-- `currentID++`. -/
def nextID : Net P M := s.setPeer p { s.peers p with currentID := (s.peers p).currentID + 1 }

end

section

variable (cfg : Config P M) (s : Net P M) (p : P) (piggybackOnSendMessage : Byte → Option M) (msg : M) (receiver : P)

/-- `doSend`.  A `MessageQueueService` may delay or drop the message, as the network may. -/
def doSend (commID : BitVec 32) (origin : Origin) : Net P M :=
  if (cfg.firewalls p).all fun fs => fs.allowOutgoingConnection receiver then
    { s with sent := s.sent ++ [⟨p, receiver, SerializeAndSend.run cfg.services cfg.serializer
        piggybackOnSendMessage commID msg, origin⟩] }
  else s

def send : Net P M :=
  let commID := (s.peers p).currentID
  doSend cfg (s.nextID p) p piggybackOnSendMessage msg receiver commID .send

def sendAndWait : Net P M :=
  let commID := (s.peers p).currentID
  let r := s.requests.length
  let s := (s.nextID p).put p commID r
  let s := { s with
    requests := s.requests ++ [⟨p, commID⟩]
    timeouts := s.timeouts ++ [(p, commID)] }
  doSend cfg s p piggybackOnSendMessage msg receiver commID (.request r)

end

/-- The request that a reply is for: the peer replies to the `k`-th entry of the log when that is
a message that its listener got from the receiver of the reply, under the identifier of the
reply. -/
def repliedTo (s : Net P M) (p receiver : P) (commID : BitVec 32) (k : ℕ) : Option ℕ :=
  match s.log[k]? with
  | some (.messageArrived d _ c) =>
    if d.dst = p ∧ d.src = receiver ∧ c = commID then d.origin.request? else none
  | _ => none

def sendReply (cfg : Config P M) (s : Net P M) (p : P) (piggybackOnSendMessage : Byte → Option M)
    (reply : M) (receiver : P) (commID : BitVec 32) (k : ℕ) : Net P M :=
  let request := s.repliedTo p receiver commID k
  doSend cfg { s with replies := s.replies ++ [⟨p, receiver, commID, reply, request⟩] } p
    piggybackOnSendMessage reply receiver commID (.reply request)

/-! ### Receiving -/

/-- The incoming firewall check of `UnserializeAndReceive.run`. -/
def allowed (cfg : Config P M) (d : Datagram P) : Bool :=
  (cfg.firewalls d.dst).all fun fs => fs.allowIncomingConnection d.src

/-- `UnserializeAndReceive.run` up to `openCallbacks.remove(commID)`. -/
def arrive (cfg : Config P M) (s : Net P M) (d : Datagram P) : Net P M :=
  if allowed cfg d then
    let s := { s with arrived := s.arrived ++ [d] }
    match UnserializeAndReceive.header cfg.services d.data with
    | .error _ => s
    | .ok (commID, _, bin) =>
      { s.remove d.dst commID with
        receptions := s.receptions ++ [⟨d, commID, bin, (s.peers d.dst).openCallbacks commID⟩] }
  else s

/-- The rest of `UnserializeAndReceive.run`. -/
def create (cfg : Config P M) (s : Net P M) (x : Reception P) : Net P M :=
  match UnserializeAndReceive.create cfg.serializer x.bin with
  | .error _ => s
  | .ok msg =>
    { s with events := s.events ++
        [⟨x.datagram, msg, x.commID, x.cb, (s.peers x.datagram.dst).listener⟩] }

/-- `ReceiveEvent.eventOccurred`. -/
def receive (s : Net P M) (e : ReceiveEvent P M) : Net P M :=
  match e.cb with
  | some cb => { s with log := s.log ++ [.receive e.datagram cb e.msg e.commID] }
  | none =>
    if e.ls then { s with log := s.log ++ [.messageArrived e.datagram e.msg e.commID] }
    else { s with log := s.log ++ [.noHandler e.datagram] }

/-- `AbstractRealTransport.eventOccurred`. -/
def timeout (s : Net P M) (p : P) (commID : BitVec 32) : Net P M :=
  match (s.peers p).openCallbacks commID with
  | some cb => { s.remove p commID with log := s.log ++ [.messageTimeoutOccured p cb commID] }
  | none => s.remove p commID

/-! ### Runs -/

inductive Action (P M : Type*)
  | setTransportMessageListener (p : P) (listener : Bool)
  | send (p : P) (piggybackOnSendMessage : Byte → Option M) (msg : M) (receiver : P)
  | sendAndWait (p : P) (piggybackOnSendMessage : Byte → Option M) (msg : M) (receiver : P)
  | sendReply (p : P) (piggybackOnSendMessage : Byte → Option M) (reply : M) (receiver : P)
      (commID : BitVec 32) (k : ℕ)
  | arrive (d : Datagram P)
  /-- the `i`-th of the unfinished receptions goes on -/
  | create (i : ℕ)
  /-- the `i`-th of the scheduled `ReceiveEvent`s occurs -/
  | receive (i : ℕ)
  /-- the `i`-th of the scheduled timeouts occurs -/
  | timeout (i : ℕ)

/-- There is no such reception or event. -/
inductive NotPending
  | notPending
deriving DecidableEq

def step (cfg : Config P M) (s : Net P M) : Action P M → Except NotPending (Net P M)
  | .setTransportMessageListener p listener =>
    .ok (s.setPeer p { s.peers p with listener := listener })
  | .send p onSend msg receiver => .ok (s.send cfg p onSend msg receiver)
  | .sendAndWait p onSend msg receiver => .ok (s.sendAndWait cfg p onSend msg receiver)
  | .sendReply p onSend reply receiver commID k =>
    .ok (s.sendReply cfg p onSend reply receiver commID k)
  | .arrive d => .ok (s.arrive cfg d)
  | .create i =>
    match s.receptions[i]? with
    | none => .error .notPending
    | some x => .ok (create cfg { s with receptions := s.receptions.eraseIdx i } x)
  | .receive i =>
    match s.events[i]? with
    | none => .error .notPending
    | some e => .ok (receive { s with events := s.events.eraseIdx i } e)
  | .timeout i =>
    match s.timeouts[i]? with
    | none => .error .notPending
    | some (p, commID) => .ok (timeout { s with timeouts := s.timeouts.eraseIdx i } p commID)

end Steps

/-! ### What the operations change -/

variable {i : ℕ}

theorem perm_eraseIdx {α : Type*} {l : List α} {x : α} (h : l[i]? = some x) :
    l.Perm (x :: l.eraseIdx i) := by
  obtain ⟨hi, rfl⟩ := List.getElem?_eq_some_iff.1 h
  exact (getElem_cons_eraseIdx_perm hi).symm

/-- Sending adds at most the one datagram to the network and changes nothing else. -/
theorem doSend_spec (cfg : Config P M) (s : Net P M) (p : P) (onSend : Byte → Option M) (msg : M)
    (receiver : P) (commID : BitVec 32) (origin : Origin) :
    ∃ sent, doSend cfg s p onSend msg receiver commID origin = { s with sent := sent } ∧
      s.sent ⊆ sent ∧ ∀ d ∈ sent, d ∈ s.sent ∨ d = ⟨p, receiver,
        SerializeAndSend.run cfg.services cfg.serializer onSend commID msg, origin⟩ := by
  unfold doSend
  split
  · refine ⟨_, rfl, subset_append_left _ _, fun d hd => ?_⟩
    simpa using hd
  · exact ⟨s.sent, rfl, fun _ hd => hd, fun d hd => .inl hd⟩

section Steps

variable [DecidableEq P]

@[simp] theorem openCallbacks_remove (s : Net P M) (p p' : P) (c c' : BitVec 32) :
    ((s.remove p c).peers p').openCallbacks c' =
      if p' = p ∧ c' = c then none else (s.peers p').openCallbacks c' := by
  unfold remove setPeer
  by_cases hp : p' = p
  · subst hp
    simp [update_apply]
  · simp [hp]

@[simp] theorem openCallbacks_put (s : Net P M) (p p' : P) (c c' : BitVec 32) (r : ℕ) :
    ((s.put p c r).peers p').openCallbacks c' =
      if p' = p ∧ c' = c then some r else (s.peers p').openCallbacks c' := by
  unfold put setPeer
  by_cases hp : p' = p
  · subst hp
    simp [update_apply]
  · simp [hp]

@[simp] theorem openCallbacks_setListener (s : Net P M) (p p' : P) (listener : Bool) :
    ((s.setPeer p { s.peers p with listener := listener }).peers p').openCallbacks =
      (s.peers p').openCallbacks := by
  unfold setPeer
  by_cases hp : p' = p
  · subst hp
    simp
  · simp [hp]

@[simp] theorem openCallbacks_nextID (s : Net P M) (p p' : P) :
    ((s.nextID p).peers p').openCallbacks = (s.peers p').openCallbacks := by
  unfold nextID setPeer
  by_cases hp : p' = p
  · subst hp
    simp
  · simp [hp]

theorem step_create {cfg : Config P M} {s s' : Net P M} (hs : s.step cfg (.create i) = .ok s') :
    ∃ x, s.receptions[i]? = some x ∧
      s' = create cfg { s with receptions := s.receptions.eraseIdx i } x := by
  simp only [step] at hs
  split at hs
  · cases hs
  · cases hs
    exact ⟨_, ‹_›, rfl⟩

theorem step_receive {cfg : Config P M} {s s' : Net P M} (hs : s.step cfg (.receive i) = .ok s') :
    ∃ e, s.events[i]? = some e ∧ s' = receive { s with events := s.events.eraseIdx i } e := by
  simp only [step] at hs
  split at hs
  · cases hs
  · cases hs
    exact ⟨_, ‹_›, rfl⟩

theorem step_timeout {cfg : Config P M} {s s' : Net P M} (hs : s.step cfg (.timeout i) = .ok s') :
    ∃ p commID, s.timeouts[i]? = some (p, commID) ∧
      s' = timeout { s with timeouts := s.timeouts.eraseIdx i } p commID := by
  simp only [step] at hs
  split at hs
  · cases hs
  · cases hs
    exact ⟨_, _, ‹_›, rfl⟩

end Steps

/-! ### Registered callbacks -/

/-- Wherever a callback is, it was registered by that peer under that identifier. -/
structure Registered (s : Net P M) : Prop where
  openCallbacks : ∀ p commID r, (s.peers p).openCallbacks commID = some r →
    s.requests[r]? = some ⟨p, commID⟩
  receptions : ∀ x ∈ s.receptions, ∀ r, x.cb = some r →
    s.requests[r]? = some ⟨x.datagram.dst, x.commID⟩
  events : ∀ e ∈ s.events, ∀ r, e.cb = some r → s.requests[r]? = some ⟨e.datagram.dst, e.commID⟩
  log : ∀ e ∈ s.log, ∀ r q, e.request? = some (r, q) → s.requests[r]? = some q

namespace Registered

variable {cfg : Config P M} {s : Net P M}

section

variable (h : Registered s)
include h

theorem lt : (∀ p commID r, (s.peers p).openCallbacks commID = some r →
    r < s.requests.length) ∧ (∀ x ∈ s.receptions, ∀ r, x.cb = some r → r < s.requests.length) ∧
    (∀ e ∈ s.events, ∀ r, e.cb = some r → r < s.requests.length) ∧
    ∀ e ∈ s.log, ∀ r q, e.request? = some (r, q) → r < s.requests.length := by
  have hlt : ∀ {r q}, s.requests[r]? = some q → r < s.requests.length := fun hr =>
    (List.getElem?_eq_some_iff.1 hr).1
  exact ⟨fun _ _ _ hr => hlt (h.openCallbacks _ _ _ hr),
    fun _ hx _ hr => hlt (h.receptions _ hx _ hr), fun _ he _ hr => hlt (h.events _ he _ hr),
    fun _ he _ _ hr => hlt (h.log _ he _ _ hr)⟩

/-- Nothing is asked of the network and of the replies. -/
theorem congr (sent : List (Datagram P)) (replies : List (Reply P M)) :
    Registered { s with sent := sent, replies := replies } :=
  ⟨h.openCallbacks, h.receptions, h.events, h.log⟩

theorem doSend (cfg : Config P M) (p : P) (onSend : Byte → Option M) (msg : M) (receiver : P)
    (commID : BitVec 32) (origin : Origin) :
    Registered (s.doSend cfg p onSend msg receiver commID origin) := by
  obtain ⟨sent, hsent, -⟩ := doSend_spec cfg s p onSend msg receiver commID origin
  rw [hsent]
  exact ⟨h.openCallbacks, h.receptions, h.events, h.log⟩

theorem create (cfg : Config P M) {x : Reception P} (hx : s.receptions[i]? = some x) :
    Registered (Net.create cfg { s with receptions := s.receptions.eraseIdx i } x) := by
  unfold Net.create
  split
  · exact ⟨h.openCallbacks, fun y hy => h.receptions y (mem_of_mem_eraseIdx hy), h.events, h.log⟩
  · refine ⟨h.openCallbacks, fun y hy => h.receptions y (mem_of_mem_eraseIdx hy), ?_, h.log⟩
    intro e he r hr
    rcases mem_append.1 he with he | he
    · exact h.events e he r hr
    · cases mem_singleton.1 he
      exact h.receptions x (mem_of_getElem? hx) r hr

theorem receive {e : ReceiveEvent P M} (he : s.events[i]? = some e) :
    Registered (Net.receive { s with events := s.events.eraseIdx i } e) := by
  have hevents : ∀ e' ∈ s.events.eraseIdx i, ∀ r, e'.cb = some r →
      s.requests[r]? = some ⟨e'.datagram.dst, e'.commID⟩ := fun e' he' =>
    h.events e' (mem_of_mem_eraseIdx he')
  have happend : ∀ {a : Dispatch P M}, (∀ r q, a.request? = some (r, q) →
      s.requests[r]? = some q) → ∀ e' ∈ s.log ++ [a], ∀ r q, e'.request? = some (r, q) →
      s.requests[r]? = some q := by
    intro a ha e' he'
    rcases mem_append.1 he' with he' | he'
    · exact h.log e' he'
    · cases mem_singleton.1 he'
      exact ha
  unfold Net.receive
  split
  · rename_i cb hcb
    refine ⟨h.openCallbacks, h.receptions, hevents, happend fun r q hr => ?_⟩
    cases hr
    exact h.events e (mem_of_getElem? he) cb hcb
  · split
    · exact ⟨h.openCallbacks, h.receptions, hevents, happend fun r q hr => by cases hr⟩
    · exact ⟨h.openCallbacks, h.receptions, hevents, happend fun r q hr => by cases hr⟩

end

variable [DecidableEq P]

variable (h : Registered s)
include h

theorem nextID (p : P) : Registered (s.nextID p) := by
  refine ⟨fun p' c r hr => h.openCallbacks p' c r ?_, h.receptions, h.events, h.log⟩
  rwa [openCallbacks_nextID] at hr

/-- A new request gets the next number. -/
theorem put (p : P) (commID : BitVec 32) (timeouts : List (P × BitVec 32)) :
    Registered { s.put p commID s.requests.length with
      requests := s.requests ++ [⟨p, commID⟩], timeouts := timeouts } := by
  have happend : ∀ {r : ℕ} {q : Request P}, s.requests[r]? = some q →
      (s.requests ++ [⟨p, commID⟩])[r]? = some q := by
    intro r q hr
    rw [List.getElem?_append_left (List.getElem?_eq_some_iff.1 hr).1, hr]
  refine ⟨fun p' c r hr => ?_, fun x hx r hr => happend (h.receptions x hx r hr),
    fun e he r hr => happend (h.events e he r hr),
    fun e he r q hr => happend (h.log e he r q hr)⟩
  replace hr : ((s.put p commID s.requests.length).peers p').openCallbacks c = some r := hr
  rw [openCallbacks_put] at hr
  split_ifs at hr with hpc
  · obtain ⟨rfl, rfl⟩ := hpc
    cases hr
    exact List.getElem?_concat_length
  · exact happend (h.openCallbacks p' c r hr)

theorem remove (p : P) (commID : BitVec 32) : Registered (s.remove p commID) := by
  refine ⟨fun p' c r hr => ?_, h.receptions, h.events, h.log⟩
  rw [openCallbacks_remove] at hr
  split_ifs at hr
  exact h.openCallbacks p' c r hr

theorem arrive (cfg : Config P M) (d : Datagram P) : Registered (s.arrive cfg d) := by
  unfold Net.arrive
  split
  · dsimp only
    split
    · exact ⟨h.openCallbacks, h.receptions, h.events, h.log⟩
    · rename_i commID _ bin _
      have h' := h.remove d.dst commID
      refine ⟨h'.openCallbacks, fun x hx r hr => ?_, h.events, h.log⟩
      rcases mem_append.1 hx with hx | hx
      · exact h.receptions x hx r hr
      · cases mem_singleton.1 hx
        exact h.openCallbacks _ _ _ hr
  · exact h

theorem timeout (p : P) (commID : BitVec 32) (timeouts : List (P × BitVec 32)) :
    Registered (Net.timeout { s with timeouts := timeouts } p commID) := by
  have h' : Registered { s with timeouts := timeouts } :=
    ⟨h.openCallbacks, h.receptions, h.events, h.log⟩
  unfold Net.timeout
  split
  · rename_i cb hcb
    refine ⟨(h'.remove p commID).openCallbacks, h.receptions, h.events, fun e he r q hr => ?_⟩
    rcases mem_append.1 he with he | he
    · exact h.log e he r q hr
    · cases mem_singleton.1 he
      cases hr
      exact h.openCallbacks p commID cb hcb
  · exact h'.remove p commID

theorem step {a : Action P M} {s' : Net P M} (hs : s.step cfg a = .ok s') : Registered s' := by
  cases a with
  | setTransportMessageListener p listener =>
    cases hs
    refine ⟨fun p' c r hr => h.openCallbacks p' c r ?_, h.receptions, h.events, h.log⟩
    rwa [openCallbacks_setListener] at hr
  | send p onSend msg receiver =>
    cases hs
    exact (h.nextID p).doSend cfg p onSend msg receiver _ _
  | sendAndWait p onSend msg receiver =>
    cases hs
    exact ((h.nextID p).put p _ _).doSend cfg p onSend msg receiver _ _
  | sendReply p onSend reply receiver commID k =>
    cases hs
    exact (h.congr s.sent _).doSend cfg p onSend reply receiver commID _
  | arrive d =>
    cases hs
    exact h.arrive cfg d
  | create i =>
    obtain ⟨x, hx, rfl⟩ := step_create hs
    exact h.create cfg hx
  | receive i =>
    obtain ⟨e, he, rfl⟩ := step_receive hs
    exact h.receive he
  | timeout i =>
    obtain ⟨p, commID, -, rfl⟩ := step_timeout hs
    exact h.timeout p commID _

end Registered

end Net

end Transport

end Hiwis
