import Hiwis.Transport.AbstractRealTransport

/-!
# Callbacks get their replies

The receiver of a datagram looks its identifier up among its own open callbacks, whoever sent the
datagram and whatever it is.  The peers number their messages independently of each other, so
that a message of another peer may well carry the identifier of an open callback.

* `Net.Faithful.step` : what is in the network and in the hosts is what was sent;
* `Net.repliesOnly_of_run` : as long as what arrives under the identifier of an open callback is
  the reply to its request, callbacks get their replies and all else goes to the listeners;
* `Net.not_repliesOnly_of_send` : two peers that write to each other at the same time, and the
  callback of the one gets the message of the other for its reply.
-/

namespace Hiwis

open List Trace

namespace Transport

variable {P M : Type*}

/-- The serializers invert what they write, and the number of piggybacking services fits in the
count byte. -/
structure Config.Lawful (cfg : Config P M) : Prop where
  serializer : ∀ m, cfg.serializer.Inverts m
  services : ∀ serviceID ps m, cfg.services.get serviceID = some ps → ps.Inverts m
  length_lt : cfg.services.entries.length < 256

namespace Net

/-- The network delivers only what has been sent, though not everything, in another order and
more than once. -/
def Network (s : Net P M) : Action P M → Prop
  | .arrive d => d ∈ s.sent
  | _ => True

/-- A datagram under the identifier of an open callback is the reply to its request. -/
def RepliesTo (cfg : Config P M) (s : Net P M) (d : Datagram P) : Prop :=
  match UnserializeAndReceive.header cfg.services d.data with
  | .error _ => True
  | .ok (commID, _, _) => ∀ r ∈ (s.peers d.dst).openCallbacks commID, d.origin = .reply (some r)

/-- What arrives for a callback is a reply to its request, and whoever gets another message has a
listener for it. -/
def Matched (cfg : Config P M) (s : Net P M) : Action P M → Prop
  | .arrive d => allowed cfg d → RepliesTo cfg s d
  | .create i => ∀ x ∈ s.receptions[i]?, x.cb = none → (s.peers x.datagram.dst).listener = true
  | _ => True

/-- Callbacks are only invoked with the replies to their requests, and all other messages that
have arrived and are no longer being processed were handed to a listener. -/
structure RepliesOnly (s : Net P M) : Prop where
  receive : ∀ d cb msg commID, .receive d cb msg commID ∈ s.log →
    s.requests[cb]? = some ⟨d.dst, commID⟩ ∧ ⟨d.src, d.dst, commID, msg, some cb⟩ ∈ s.replies
  noHandler : ∀ d, .noHandler d ∉ s.log
  arrived : s.arrived.Perm (s.receptions.map Reception.datagram ++
    s.events.map ReceiveEvent.datagram ++ s.log.filterMap Dispatch.datagram?)

/-- The messages in the network and in the hosts are those that were sent. -/
structure Faithful (cfg : Config P M) (s : Net P M) : Prop where
  registered : Registered s
  sent : ∀ d ∈ s.sent, ∃ commID pigs m, UnserializeAndReceive.header cfg.services d.data =
      .ok (commID, pigs, cfg.serializer.serialize m) ∧
    ∀ r, d.origin = .reply r → ⟨d.src, d.dst, commID, m, r⟩ ∈ s.replies
  receptions : ∀ x ∈ s.receptions, ∃ m, x.bin = cfg.serializer.serialize m ∧
    ∀ r, x.cb = some r → ⟨x.datagram.src, x.datagram.dst, x.commID, m, some r⟩ ∈ s.replies
  events : ∀ e ∈ s.events,
    (∀ r, e.cb = some r → ⟨e.datagram.src, e.datagram.dst, e.commID, e.msg, some r⟩ ∈ s.replies) ∧
    (e.cb = none → e.ls = true)
  log : ∀ e ∈ s.log, (∀ d cb msg commID, e = .receive d cb msg commID →
    ⟨d.src, d.dst, commID, msg, some cb⟩ ∈ s.replies) ∧ ∀ d, e ≠ .noHandler d
  arrived : s.arrived.Perm (s.receptions.map Reception.datagram ++
    s.events.map ReceiveEvent.datagram ++ s.log.filterMap Dispatch.datagram?)

theorem Faithful.repliesOnly {cfg : Config P M} {s : Net P M} (h : Faithful cfg s) :
    RepliesOnly s := by
  refine ⟨fun d cb msg commID he => ⟨h.registered.log _ he _ _ rfl, ?_⟩, fun d he => ?_, h.arrived⟩
  · exact (h.log _ he).1 _ _ _ _ rfl
  · exact (h.log _ he).2 d rfl

namespace Faithful

variable {cfg : Config P M} {s : Net P M} {s' : Net P M}

theorem congr (h : Faithful cfg s) (hreg : Registered s') (hsent : s'.sent = s.sent)
    (hreceptions : s'.receptions = s.receptions) (hevents : s'.events = s.events)
    (hlog : s'.log = s.log) (harrived : s'.arrived = s.arrived) (hreplies : s.replies ⊆ s'.replies)
    : Faithful cfg s' := by
  refine ⟨hreg, fun d hd => ?_, fun x hx => ?_, fun e he => ?_, fun e he => ?_, ?_⟩
  · obtain ⟨commID, pigs, m, hheader, hr⟩ := h.sent d (hsent ▸ hd)
    exact ⟨commID, pigs, m, hheader, fun r ho => hreplies (hr r ho)⟩
  · obtain ⟨m, hbin, hr⟩ := h.receptions x (hreceptions ▸ hx)
    exact ⟨m, hbin, fun r hcb => hreplies (hr r hcb)⟩
  · obtain ⟨hr, hls⟩ := h.events e (hevents ▸ he)
    exact ⟨fun r hcb => hreplies (hr r hcb), hls⟩
  · obtain ⟨hr, hno⟩ := h.log e (hlog ▸ he)
    exact ⟨fun d cb msg commID heq => hreplies (hr d cb msg commID heq), hno⟩
  · rw [hreceptions, hevents, hlog, harrived]
    exact h.arrived

/-- What is sent is what will be read, by the round trip of the wire format. -/
theorem doSend (h : Faithful cfg s) (hcfg : cfg.Lawful) (p : P) (onSend : Byte → Option M)
    (msg : M) (receiver : P) (commID : BitVec 32) (origin : Origin)
    (horigin : ∀ r, origin = .reply r → ⟨p, receiver, commID, msg, r⟩ ∈ s.replies) :
    Faithful cfg (s.doSend cfg p onSend msg receiver commID origin) := by
  have hreg := h.registered.doSend cfg p onSend msg receiver commID origin
  obtain ⟨sent, hsent, -, hmem⟩ := doSend_spec cfg s p onSend msg receiver commID origin
  rw [hsent] at hreg ⊢
  refine ⟨hreg, fun d hd => ?_, h.receptions, h.events, h.log, h.arrived⟩
  rcases hmem d hd with hd | rfl
  · exact h.sent d hd
  · have hlen : (SerializeAndSend.piggybacked onSend cfg.services.entries).length < 256 :=
      Nat.lt_of_le_of_lt (length_filterMap_le _ _) hcfg.length_lt
    exact ⟨commID, _, msg, UnserializeAndReceive.header_serializeAndSend (fun _ => rfl)
      (fun serviceID ps m hps _ => hcfg.services serviceID ps m hps) hlen, horigin⟩

theorem create (h : Faithful cfg s) (hcfg : cfg.Lawful) {i : ℕ} {x : Reception P}
    (hx : s.receptions[i]? = some x)
    (hls : x.cb = none → (s.peers x.datagram.dst).listener = true) :
    Faithful cfg (Net.create cfg { s with receptions := s.receptions.eraseIdx i } x) := by
  have hreg := h.registered.create cfg hx
  obtain ⟨m, hbin, hr⟩ := h.receptions x (mem_of_getElem? hx)
  have hcreate : cfg.serializer.create x.bin = some (m, []) := by
    rw [hbin]
    simpa using hcfg.serializer m []
  unfold Net.create UnserializeAndReceive.create at hreg ⊢
  rw [hcreate] at hreg ⊢
  refine ⟨hreg, h.sent, fun y hy => h.receptions y (mem_of_mem_eraseIdx hy), fun e he => ?_,
    h.log, ?_⟩
  · rcases mem_append.1 he with he | he
    · exact h.events e he
    · cases mem_singleton.1 he
      exact ⟨hr, hls⟩
  · -- the datagram moves from the receptions to the events
    refine h.arrived.trans (List.Perm.append_right _ ?_)
    refine (((perm_eraseIdx hx).map _).append_right _).trans ?_
    simp only [map_cons, map_append, map_nil, cons_append]
    rw [← append_assoc]
    exact (perm_append_singleton _ _).symm

theorem receive (h : Faithful cfg s) {i : ℕ} {e : ReceiveEvent P M} (he : s.events[i]? = some e) :
    Faithful cfg (Net.receive { s with events := s.events.eraseIdx i } e) := by
  have hreg := h.registered.receive he
  obtain ⟨hr, hls⟩ := h.events e (mem_of_getElem? he)
  have hevents := fun e' he' => h.events e' (mem_of_mem_eraseIdx (i := i) he')
  have harrived : ∀ {a : Dispatch P M}, a.datagram? = some e.datagram → s.arrived.Perm
      (s.receptions.map Reception.datagram ++ (s.events.eraseIdx i).map ReceiveEvent.datagram ++
        (s.log ++ [a]).filterMap Dispatch.datagram?) := by
    intro a ha
    refine h.arrived.trans ?_
    rw [filterMap_append, append_assoc, append_assoc]
    refine List.Perm.append_left _ ?_
    refine (((perm_eraseIdx he).map _).append_right _).trans ?_
    simp only [map_cons, cons_append, filterMap_cons, ha, filterMap_nil]
    rw [← append_assoc]
    exact (perm_append_singleton _ _).symm
  unfold Net.receive at hreg ⊢
  split
  · rename_i cb hcb
    rw [hcb] at hreg
    refine ⟨hreg, h.sent, h.receptions, hevents, fun e' he' => ?_, harrived rfl⟩
    rcases mem_append.1 he' with he' | he'
    · exact h.log e' he'
    · cases mem_singleton.1 he'
      refine ⟨fun d cb' msg commID heq => ?_, nofun⟩
      cases heq
      exact hr cb hcb
  · rename_i hcb
    rw [hcb] at hreg
    dsimp only at hreg
    rw [if_pos (hls hcb)] at hreg ⊢
    refine ⟨hreg, h.sent, h.receptions, hevents, fun e' he' => ?_, harrived rfl⟩
    rcases mem_append.1 he' with he' | he'
    · exact h.log e' he'
    · cases mem_singleton.1 he'
      exact ⟨nofun, nofun⟩

variable [DecidableEq P]

theorem arrive (h : Faithful cfg s) {d : Datagram P} (hd : d ∈ s.sent)
    (hmatched : s.Matched cfg (.arrive d)) : Faithful cfg (s.arrive cfg d) := by
  have hreg := h.registered.arrive cfg d
  obtain ⟨commID, pigs, m, hheader, hr⟩ := h.sent d hd
  unfold Matched at hmatched
  unfold Net.arrive at hreg ⊢
  split
  · rename_i hallowed
    replace hmatched := hmatched hallowed
    unfold RepliesTo at hmatched
    rw [if_pos hallowed] at hreg
    rw [hheader] at hreg hmatched ⊢
    refine ⟨hreg, h.sent, fun x hx => ?_, h.events, h.log, ?_⟩
    · rcases mem_append.1 hx with hx | hx
      · exact h.receptions x hx
      · cases mem_singleton.1 hx
        refine ⟨m, rfl, fun r hcb => ?_⟩
        exact hr _ (hmatched r hcb)
    · show (s.arrived ++ [d]).Perm ((s.receptions ++ [_]).map Reception.datagram ++
        s.events.map ReceiveEvent.datagram ++ s.log.filterMap Dispatch.datagram?)
      refine (h.arrived.append_right [d]).trans ?_
      simp only [map_append, map_cons, map_nil, append_assoc]
      rw [← append_assoc (List.map ReceiveEvent.datagram s.events)]
      exact List.Perm.append_left _ perm_append_comm
  · exact h

theorem timeout (h : Faithful cfg s) (p : P) (commID : BitVec 32)
    (timeouts : List (P × BitVec 32)) :
    Faithful cfg (Net.timeout { s with timeouts := timeouts } p commID) := by
  have hreg := h.registered.timeout p commID timeouts
  unfold Net.timeout at hreg ⊢
  split
  · rename_i cb hcb
    rw [hcb] at hreg
    refine ⟨hreg, h.sent, h.receptions, h.events, fun e he => ?_, ?_⟩
    · rcases mem_append.1 he with he | he
      · exact h.log e he
      · cases mem_singleton.1 he
        exact ⟨nofun, nofun⟩
    · show s.arrived.Perm (s.receptions.map Reception.datagram ++
        s.events.map ReceiveEvent.datagram ++ (s.log ++ [_]).filterMap Dispatch.datagram?)
      rw [filterMap_append, filterMap_cons_none rfl, filterMap_nil, append_nil]
      exact h.arrived
  · rename_i hcb
    rw [hcb] at hreg
    exact h.congr hreg rfl rfl rfl rfl rfl fun _ ha => ha

theorem step (h : Faithful cfg s) (hcfg : cfg.Lawful) {a : Action P M} (hnet : s.Network a)
    (hmatched : s.Matched cfg a) (hs : s.step cfg a = .ok s') :
    Faithful cfg s' := by
  cases a with
  | setTransportMessageListener p listener =>
    have hreg := h.registered.step hs
    cases hs
    exact h.congr hreg rfl rfl rfl rfl rfl fun _ ha => ha
  | send p onSend msg receiver =>
    cases hs
    have h' := h.congr (h.registered.nextID p) rfl rfl rfl rfl rfl fun _ ha => ha
    exact h'.doSend hcfg p onSend msg receiver _ _ nofun
  | sendAndWait p onSend msg receiver =>
    cases hs
    have h' := h.congr ((h.registered.nextID p).put p (s.peers p).currentID
      (s.timeouts ++ [(p, (s.peers p).currentID)])) rfl rfl rfl rfl rfl fun _ ha => ha
    exact h'.doSend hcfg p onSend msg receiver _ _ nofun
  | sendReply p onSend reply receiver commID k =>
    cases hs
    have h' := h.congr (h.registered.congr s.sent (s.replies ++
      [⟨p, receiver, commID, reply, s.repliedTo p receiver commID k⟩])) rfl rfl rfl rfl rfl
      (subset_append_left _ _)
    refine h'.doSend hcfg p onSend reply receiver commID _ fun r hr => ?_
    cases hr
    exact mem_append_right _ mem_cons_self
  | arrive d =>
    cases hs
    exact h.arrive hnet hmatched
  | create i =>
    obtain ⟨x, hx, rfl⟩ := step_create hs
    exact h.create hcfg hx (hmatched x hx)
  | receive i =>
    obtain ⟨e, he, rfl⟩ := step_receive hs
    exact h.receive he
  | timeout i =>
    obtain ⟨p, commID, -, rfl⟩ := step_timeout hs
    exact h.timeout p commID _

omit [DecidableEq P] in
theorem init (currentID : P → BitVec 32) (listener : P → Bool) :
    Faithful cfg (Net.init currentID listener) := by
  refine ⟨⟨?_, ?_, ?_, ?_⟩, ?_, ?_, ?_, ?_, ?_⟩ <;> simp [Net.init]

end Faithful

/-- **Request and reply**: in a run in which every datagram that arrives under the identifier of an
open callback is the reply to its request, callbacks get their replies only, and all else goes to
the listeners. -/
theorem repliesOnly_of_run [DecidableEq P] {cfg : Config P M} (hcfg : cfg.Lawful)
    {currentID : P → BitVec 32} {listener : P → Bool} {as : List (Action P M)} {s : Net P M}
    (h : Run (step cfg) (fun s a => s.Network a ∧ s.Matched cfg a)
      (init currentID listener) as s) : RepliesOnly s :=
  (h.invariant (I := Faithful cfg) (fun _ _ _ hI ha hs => hI.step hcfg ha.1 ha.2 hs)
    (Faithful.init currentID listener)).repliesOnly

/-! ### Two hosts -/

instance (cfg : Config P M) (s : Net P M) (d : Datagram P) : Decidable (RepliesTo cfg s d) :=
  match h : UnserializeAndReceive.header cfg.services d.data with
  | .error _ => .isTrue (by simp [RepliesTo, h])
  | .ok (commID, _, _) =>
    decidable_of_iff (∀ r ∈ (s.peers d.dst).openCallbacks commID, d.origin = .reply (some r))
      (by simp [RepliesTo, h])

instance (cfg : Config P M) (s : Net P M) : ∀ a, Decidable (Matched cfg s a)
  | .arrive d => inferInstanceAs (Decidable (allowed cfg d → RepliesTo cfg s d))
  | .create i => inferInstanceAs (Decidable (∀ x ∈ s.receptions[i]?, x.cb = none →
      (s.peers x.datagram.dst).listener = true))
  | .setTransportMessageListener _ _ | .send _ _ _ _ | .sendAndWait _ _ _ _
  | .sendReply _ _ _ _ _ _ | .receive _ | .timeout _ => .isTrue trivial

instance [DecidableEq P] (s : Net P M) : ∀ a, Decidable (Network s a)
  | .arrive d => inferInstanceAs (Decidable (d ∈ s.sent))
  | .setTransportMessageListener _ _ | .send _ _ _ _ | .sendAndWait _ _ _ _
  | .sendReply _ _ _ _ _ _ | .create _ | .receive _ | .timeout _ => .isTrue trivial

theorem byteConfig_lawful : byteConfig.Lawful := ⟨byteSerializer_inverts, nofun, by decide⟩

/-- The host `false` sends the request 5 and gets the reply 6, whose duplicate goes to its
listener. -/
def requestActions : List (Action Bool Byte) :=
  [.sendAndWait false (fun _ => none) 5 true,
    .arrive ⟨false, true, [0, 0, 0, 0, 0, 5], .request 0⟩, .create 0, .receive 0,
    .sendReply true (fun _ => none) 6 false 0 0,
    .arrive ⟨true, false, [0, 0, 0, 0, 0, 6], .reply (some 0)⟩, .create 0, .receive 0,
    .arrive ⟨true, false, [0, 0, 0, 0, 0, 6], .reply (some 0)⟩, .create 0, .receive 0]

theorem repliesOnly_of_run_sample : ∃ s, Run (step byteConfig)
    (fun s a => s.Network a ∧ s.Matched byteConfig a) (init (fun _ => 0) (fun _ => true))
    requestActions s ∧ s.replies = [⟨true, false, 0, 6, some 0⟩] ∧ RepliesOnly s := by
  have hrun : ∃ s, Run (step byteConfig) (fun s a => s.Network a ∧ s.Matched byteConfig a)
      (init (fun _ => 0) (fun _ => true)) requestActions s ∧
      s.replies = [⟨true, false, 0, 6, some 0⟩] :=
    exists_run_of_exec (by decide +kernel)
  obtain ⟨s, hs, hreplies⟩ := hrun
  exact ⟨s, hs, hreplies, repliesOnly_of_run byteConfig_lawful hs⟩

/-- The host `false` sends the request 5 while the host `true` sends the message 7. -/
def crossingActions : List (Action Bool Byte) :=
  [.sendAndWait false (fun _ => none) 5 true, .send true (fun _ => none) 7 false,
    .arrive ⟨true, false, [0, 0, 0, 0, 0, 7], .send⟩, .create 0, .receive 0]

/-- Nobody has replied to the request, but its callback gets the message. -/
theorem not_repliesOnly_of_send : ∃ s, Run (step byteConfig) Network
    (init (fun _ => 0) (fun _ => true)) crossingActions s ∧ ¬RepliesOnly s := by
  have hrun : ∃ s, Run (step byteConfig) Network
      (init (fun _ => 0) (fun _ => true)) crossingActions s ∧ (s.log, s.replies) =
        ([.receive ⟨true, false, [0, 0, 0, 0, 0, 7], .send⟩ 0 7 0], []) :=
    exists_run_of_exec (by decide +kernel)
  obtain ⟨s, hs, hf⟩ := hrun
  obtain ⟨hlog, hreplies⟩ := Prod.mk.inj hf
  refine ⟨s, hs, fun h => ?_⟩
  have hreply := (h.receive _ _ _ _ (hlog ▸ mem_cons_self)).2
  rw [hreplies] at hreply
  exact absurd hreply not_mem_nil

end Net

end Transport

end Hiwis
