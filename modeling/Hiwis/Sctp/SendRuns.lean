import Hiwis.Sctp.Fragmentation

/-!
# The fragments of a message are sent one after the other

What is sent for the first time, over any sequence of messages of the application and of chunks
that are taken for packets, under any stream scheduler.

* `SCTP.SendRun.run_contiguous` : the chunks sent are the fragments of one message after the other,
  in every run whose messages meet the condition `SCTP.SendRun.Meets`;
* `SCTP.SendRun.not_contiguous` : an unordered message that is sent in the middle of an ordered one
  of the same stream breaks this.
-/

namespace Hiwis

open List Option Function Trace

namespace SCTP

/-! ### Messages that are being sent -/

/-- A message with its stream sequence number and the chunks of it that were sent. -/
structure Transmission where
  msg : SCTPDataMsg
  ssn : ℕ
  chunks : List OutboundChunk

namespace Transmission

/-- The bytes that were sent. -/
def size (t : Transmission) : ℕ := (t.chunks.map OutboundChunk.byteLength).sum

/-- The chunks are fragments of the message, and the first and only the first carries the begin
bit. -/
structure Begun (t : Transmission) : Prop where
  of_message : ∀ c ∈ t.chunks, c.msgNum = t.msg.msgNum ∧ c.sid = t.msg.sid ∧
    c.ordered = t.msg.ordered ∧ c.ssn = t.ssn
  bbit_iff : ∀ (i : ℕ) c, t.chunks[i]? = some c → (c.bbit = true ↔ i = 0)

/-- A part of the message was sent, and no chunk carries the end bit. -/
structure Partial (t : Transmission) : Prop extends t.Begun where
  size_pos : 0 < t.size
  size_lt : t.size < t.msg.byteLength
  ebit : ∀ c ∈ t.chunks, c.ebit = false

/-- The whole message was sent, and the last and only the last chunk carries the end bit. -/
structure Complete (t : Transmission) : Prop extends t.Begun where
  ne_nil : t.chunks ≠ []
  size_eq : t.size = t.msg.byteLength
  ebit_iff : ∀ (i : ℕ) c, t.chunks[i]? = some c → (c.ebit = true ↔ i + 1 = t.chunks.length)

/-- With one more chunk. -/
def concat (t : Transmission) (c : OutboundChunk) : Transmission :=
  { t with chunks := t.chunks ++ [c] }

/-- The transmission of a message of which nothing was sent. -/
def start (msg : SCTPDataMsg) (ssn : ℕ) : Transmission := ⟨msg, ssn, []⟩

variable {t : Transmission} {c : OutboundChunk}

theorem size_concat : (t.concat c).size = t.size + c.byteLength := by
  simp [size, concat]

theorem begun_start (msg : SCTPDataMsg) (ssn : ℕ) : (start msg ssn).Begun where
  of_message c hc := by cases hc
  bbit_iff i c hc := by cases hc

/-- The chunk is the next part of the message. -/
structure Next (t : Transmission) (c : OutboundChunk) : Prop where
  of_message : c.msgNum = t.msg.msgNum ∧ c.sid = t.msg.sid ∧ c.ordered = t.msg.ordered ∧
    c.ssn = t.ssn
  bbit : c.bbit = true ↔ t.chunks = []

theorem getElem?_singleton_iff {i : ℕ} {d : OutboundChunk} : [c][i]? = some d ↔ i = 0 ∧ c = d := by
  rw [getElem?_singleton]
  by_cases hi : i = 0
  · rw [if_pos hi, some_inj, and_iff_right hi]
  · rw [if_neg hi]
    exact iff_of_false nofun fun hboth => hi hboth.1

theorem Begun.concat (h : t.Begun) (hc : t.Next c) : (t.concat c).Begun where
  of_message d hd := by
    obtain hd | hd := mem_append.1 hd
    · exact h.of_message d hd
    · rw [mem_singleton.1 hd]
      exact hc.of_message
  bbit_iff i d hd := by
    rw [Transmission.concat, getElem?_append] at hd
    split_ifs at hd with hi
    · exact h.bbit_iff i d hd
    · obtain ⟨hi', rfl⟩ := getElem?_singleton_iff.1 hd
      rw [hc.bbit, ← length_eq_zero_iff]
      omega

/-- A chunk with the end bit completes the message. -/
theorem Begun.complete (h : t.Begun) (hno : ∀ d ∈ t.chunks, d.ebit = false) (hc : t.Next c)
    (hebit : c.ebit = true) (hsize : t.size + c.byteLength = t.msg.byteLength) :
    (t.concat c).Complete where
  toBegun := h.concat hc
  ne_nil := append_ne_nil_of_right_ne_nil _ (cons_ne_nil c [])
  size_eq := size_concat.trans hsize
  ebit_iff i d hd := by
    rw [Transmission.concat, getElem?_append] at hd
    rw [Transmission.concat, length_append, length_singleton]
    split_ifs at hd with hi
    · rw [hno d (mem_of_getElem? hd)]
      refine iff_of_false Bool.false_ne_true ?_
      omega
    · obtain ⟨hi', rfl⟩ := getElem?_singleton_iff.1 hd
      refine iff_of_true hebit ?_
      omega

/-- A chunk without it leaves a part. -/
theorem Begun.part (h : t.Begun) (hno : ∀ d ∈ t.chunks, d.ebit = false) (hc : t.Next c)
    (hebit : c.ebit = false) (hpos : 0 < c.byteLength)
    (hsize : t.size + c.byteLength < t.msg.byteLength) : (t.concat c).Partial where
  toBegun := h.concat hc
  size_pos := by
    rw [size_concat]
    omega
  size_lt := by
    rw [size_concat]
    exact hsize
  ebit d hd := by
    obtain hd | hd := mem_append.1 hd
    · exact hno d hd
    · rw [mem_singleton.1 hd]
      exact hebit

end Transmission

/-! ### Runs -/

/-- The sender, with the messages that the application has sent and the chunks that were sent. -/
structure SendRun where
  sender : Sender
  submitted : List SCTPDataMsg := []
  sent : List OutboundChunk := []

inductive SendEvent
  /-- The application sends a message. -/
  | send (sid : ℕ) (sendUnordered : Bool) (byteLength : ℕ)
  /-- A chunk is taken for a packet, while the scheduler chooses the stream `nextSid`. -/
  | transmit (nextSid : Option ℕ) (availableSpace availableCwnd : ℤ)

/-- The messages of a stream, the ordered or the unordered ones. -/
def ofStream (sid : ℕ) (ordered : Bool) (m : SCTPDataMsg) : Bool :=
  m.sid == sid && m.ordered == ordered

namespace SendRun

def initial (initTSN : TSN) : SendRun where
  sender := { nextTSN := initTSN }

def step (cfg : SendConfig) (r : SendRun) : SendEvent → Except SendFault SendRun
  | .send sid sendUnordered byteLength => do
    let sender ← r.sender.send cfg sid sendUnordered byteLength
    .ok { r with
      sender := sender
      submitted := r.submitted ++ [r.sender.dataMsg cfg sid sendUnordered byteLength] }
  | .transmit nextSid availableSpace availableCwnd =>
    let (sender, chunk) := r.sender.transmit cfg nextSid availableSpace availableCwnd
    .ok { r with sender := sender, sent := r.sent ++ chunk.toList }

/-- The sizes of messages are 32-bit numbers. -/
def Legal (_ : SendRun) : SendEvent → Prop
  | .send _ _ byteLength => byteLength < 2 ^ 32
  | .transmit _ _ _ => True

/-- A message that is to be cut up is sent with a path limit that full fragments do not exceed and
with a scheduler that leaves its choice in `lastStreamScheduled`, and no unordered message is sent
on a stream whose next ordered chunk continues a message. -/
def Meets (cfg : SendConfig) (r : SendRun) : SendEvent → Prop
  | .send sid sendUnordered byteLength =>
    (byteLength ≤ cfg.msgbytes ∨ 4 ∣ cfg.assocPmtu ∧ cfg.storesSid = true) ∧
      (sendUnordered = true →
        (r.sender.sendStreams sid).streamQ.head?.all (fun d => !d.fragment || d.bbit) = true)
  | .transmit _ _ _ => True

instance (r : SendRun) (e : SendEvent) : Decidable (r.Legal e) :=
  match e with
  | .send _ _ byteLength => inferInstanceAs (Decidable (byteLength < 2 ^ 32))
  | .transmit _ _ _ => inferInstanceAs (Decidable True)

instance (cfg : SendConfig) (r : SendRun) (e : SendEvent) : Decidable (r.Meets cfg e) :=
  match e with
  | .send _ _ _ => inferInstanceAs (Decidable ((_ ∨ _) ∧ (_ → _)))
  | .transmit _ _ _ => inferInstanceAs (Decidable True)

/-- **The chunks sent are the fragments of one message after the other**: those of the messages
that are done, and some of one that is not.  Their TSNs are consecutive, the messages of every
stream follow in the order in which the application sent them, the ordered ones with consecutive
stream sequence numbers. -/
def Contiguous (initTSN : TSN) (r : SendRun) : Prop :=
  ∃ (done : List Transmission) (current : Option Transmission),
    r.sent = (done ++ current.toList).flatMap Transmission.chunks ∧
    (∀ t ∈ done, t.Complete) ∧ (∀ t ∈ current, t.Partial) ∧
    (∀ (i : ℕ) c, r.sent[i]? = some c → c.tsn = initTSN + BitVec.ofNat 32 i) ∧
    ∀ sid,
      (∀ ordered, ((done ++ current.toList).map Transmission.msg).filter (ofStream sid ordered) <+:
        r.submitted.filter (ofStream sid ordered)) ∧
      ((done ++ current.toList).filter fun t => ofStream sid true t.msg).map Transmission.ssn =
        (range ((done ++ current.toList).filter fun t => ofStream sid true t.msg).length).map
          (· % 65536)

/-! ### What holds in every run -/

/-- The bytes of the first pending message of the queue that were sent. -/
def gone (current : Option Transmission) (sid : ℕ) (ordered : Bool) : ℕ :=
  match current with
  | some t => if ofStream sid ordered t.msg then t.size else 0
  | none => 0

/-- The sender after a run, of which the messages `done` and a part of `current` were sent. -/
structure Inv (cfg : SendConfig) (initTSN : TSN) (r : SendRun) (done : List Transmission)
    (current : Option Transmission) : Prop where
  sent : r.sent = (done ++ current.toList).flatMap Transmission.chunks
  complete : ∀ t ∈ done, t.Complete
  part : ∀ t ∈ current, t.Partial
  nextTSN : r.sender.nextTSN = initTSN + BitVec.ofNat 32 r.sent.length
  tsn : ∀ (i : ℕ) c, r.sent[i]? = some c → c.tsn = initTSN + BitVec.ofNat 32 i
  whole : ∀ m ∈ r.submitted, m.Whole cfg
  queues : ∀ sid ordered, ∃ pending, r.submitted.filter (ofStream sid ordered) =
      (done.map Transmission.msg).filter (ofStream sid ordered) ++ pending ∧
    Holds cfg ((r.sender.sendStreams sid).queue ordered) pending (gone current sid ordered) ∧
    ∀ t ∈ current, ofStream sid ordered t.msg = true → pending.head? = some t.msg
  ssns : ∀ sid, (r.sender.sendStreams sid).nextStreamSeqNum =
      (done.filter fun t => ofStream sid true t.msg).length % 65536 ∧
    (done.filter fun t => ofStream sid true t.msg).map Transmission.ssn =
      (range (done.filter fun t => ofStream sid true t.msg).length).map (· % 65536)
  currentSSN : ∀ t ∈ current, t.ssn =
    if t.msg.ordered then (r.sender.sendStreams t.msg.sid).nextStreamSeqNum else 0
  /-- The remaining fragments are what is taken next. -/
  next : ∀ t ∈ current, r.sender.lastMsgWasFragment = true ∧
    r.sender.lastStreamScheduled = t.msg.sid ∧
    (t.msg.ordered = true → (r.sender.sendStreams t.msg.sid).uStreamQ = [])

section Invariant

variable {cfg : SendConfig} {initTSN : TSN} {r r' : SendRun} {done : List Transmission}
  {current : Option Transmission} {sid : ℕ} {ordered : Bool} {m : SCTPDataMsg}

theorem ofStream_iff : ofStream sid ordered m = true ↔ m.sid = sid ∧ m.ordered = ordered := by
  rw [ofStream, Bool.and_eq_true, beq_iff_eq, beq_iff_eq]

theorem inv_initial (cfg : SendConfig) (initTSN : TSN) :
    Inv cfg initTSN (initial initTSN) [] none where
  sent := rfl
  complete t ht := by cases ht
  part t ht := by cases ht
  nextTSN := (BitVec.add_zero initTSN).symm
  tsn i c hc := by cases hc
  whole m hm := by cases hm
  queues sid ordered := by
    refine ⟨[], rfl, ?_, fun t ht => by cases ht⟩
    cases ordered <;> exact .whole []
  ssns sid := ⟨rfl, rfl⟩
  currentSSN t ht := by cases ht
  next t ht := by cases ht

/-- The messages of a stream that have begun, up to the one that is being sent. -/
theorem Inv.begun (h : Inv cfg initTSN r done current) (sid : ℕ) (ordered : Bool) :
    ((done ++ current.toList).map Transmission.msg).filter (ofStream sid ordered) <+:
      r.submitted.filter (ofStream sid ordered) := by
  obtain ⟨pending, hfilter, -, hhead⟩ := h.queues sid ordered
  rw [hfilter, map_append, filter_append, prefix_append_right_inj]
  cases current with
  | none => exact nil_prefix
  | some t =>
    rw [toList_some, map_singleton]
    cases hof : ofStream sid ordered t.msg with
    | false =>
      rw [filter_cons_of_neg (by rw [hof]; exact Bool.false_ne_true)]
      exact nil_prefix
    | true =>
      obtain ⟨rest, rfl⟩ := head?_eq_some_iff.1 (hhead t rfl hof)
      rw [filter_cons_of_pos hof]
      exact ⟨rest, rfl⟩

theorem Inv.numbered (h : Inv cfg initTSN r done current) (sid : ℕ) :
    ((done ++ current.toList).filter fun t => ofStream sid true t.msg).map Transmission.ssn =
      (range ((done ++ current.toList).filter fun t => ofStream sid true t.msg).length).map
        (· % 65536) := by
  obtain ⟨hnext, hssns⟩ := h.ssns sid
  rw [filter_append]
  cases current with
  | none =>
    rw [toList_none, filter_nil, append_nil]
    exact hssns
  | some t =>
    rw [toList_some]
    cases hof : ofStream sid true t.msg with
    | false =>
      rw [filter_cons_of_neg (by rw [hof]; exact Bool.false_ne_true), filter_nil, append_nil]
      exact hssns
    | true =>
      obtain ⟨rfl, hordered⟩ := ofStream_iff.1 hof
      have hssn := h.currentSSN t rfl
      rw [hordered, if_pos rfl, hnext] at hssn
      have hone : [t].filter (fun u => ofStream t.msg.sid true u.msg) = [t] :=
        filter_cons_of_pos hof
      rw [hone, map_append, length_append, hssns, length_singleton, range_succ,
        map_append, map_singleton, map_singleton, hssn]

theorem Inv.contiguous (h : Inv cfg initTSN r done current) : Contiguous initTSN r :=
  ⟨done, current, h.sent, h.complete, h.part, h.tsn,
    fun sid => ⟨fun ordered => h.begun sid ordered, h.numbered sid⟩⟩

/-! ### A message of the application -/

theorem gone_le (h : Inv cfg initTSN r done current) {t : Transmission} (ht : t ∈ current) :
    0 < gone current t.msg.sid t.msg.ordered := by
  cases ht
  rw [gone, if_pos (ofStream_iff.2 ⟨rfl, rfl⟩)]
  exact (h.part t rfl).size_pos

/-- An unordered message does not come before the remaining fragments of an ordered one. -/
theorem Inv.meets_unordered (h : Inv cfg initTSN r done current) {t : Transmission}
    (ht : t ∈ current) (hordered : t.msg.ordered = true)
    (hmeets : (r.sender.sendStreams t.msg.sid).streamQ.head?.all
      (fun d => !d.fragment || d.bbit) = true) : False := by
  have hpos := gone_le h ht
  rw [hordered] at hpos
  obtain ⟨pending, -, hholds, -⟩ := h.queues t.msg.sid true
  obtain ⟨d, q', hq, hfragment, hbbit⟩ := hholds.head hpos
  have hq' : (r.sender.sendStreams t.msg.sid).streamQ = d :: q' := hq
  rw [hq', head?_cons, all_some, hfragment, hbbit] at hmeets
  cases hmeets

theorem Inv.send (h : Inv cfg initTSN r done current) {sendUnordered : Bool} {byteLength : ℕ}
    (hmeets : r.Meets cfg (.send sid sendUnordered byteLength))
    (hstep : r.step cfg (.send sid sendUnordered byteLength) = .ok r') :
    Inv cfg initTSN r' done current := by
  obtain ⟨sender, hsend, heq⟩ := Except.bind_eq_ok.1 hstep
  cases heq
  rw [Sender.send] at hsend
  split_ifs at hsend with hsid
  cases hsend
  have hnew : ofStream sid (!sendUnordered) (r.sender.dataMsg cfg sid sendUnordered byteLength) =
      true := ofStream_iff.2 ⟨rfl, rfl⟩
  refine ⟨h.sent, h.complete, h.part, h.nextTSN, h.tsn, fun m hm => ?_, fun sid' ordered => ?_,
    fun sid' => ?_, fun t ht => ?_, fun t ht => ?_⟩
  · obtain hm | hm := mem_append.1 hm
    · exact h.whole m hm
    · rw [mem_singleton.1 hm]
      exact ⟨rfl, rfl, rfl, rfl, hmeets.1⟩
  · obtain ⟨pending, hfilter, hholds, hhead⟩ := h.queues sid' ordered
    by_cases hthis : sid' = sid ∧ ordered = !sendUnordered
    · -- the queue of the message
      obtain ⟨rfl, rfl⟩ := hthis
      refine ⟨pending ++ [r.sender.dataMsg cfg sid' sendUnordered byteLength], ?_, ?_, ?_⟩
      · rw [filter_append, filter_cons_of_pos hnew, hfilter, append_assoc]
        rfl
      · dsimp only
        rw [update_self, SCTPSendStream.queue_setQueue_self]
        exact hholds.concat _
      · intro t ht hof
        rw [head?_append, hhead t ht hof]
        rfl
    · refine ⟨pending, ?_, ?_, hhead⟩
      · have hnot : ¬ofStream sid' ordered
            (r.sender.dataMsg cfg sid sendUnordered byteLength) = true := by
          intro hof
          obtain ⟨hsid', hordered'⟩ := ofStream_iff.1 hof
          exact hthis ⟨hsid'.symm, hordered'.symm⟩
        rw [filter_append, filter_cons_of_neg hnot, filter_nil, append_nil]
        exact hfilter
      · dsimp only
        by_cases hsid' : sid' = sid
        · subst hsid'
          rw [update_self,
            SCTPSendStream.queue_setQueue_of_ne fun hordered => hthis ⟨rfl, hordered⟩]
          exact hholds
        · rw [update_of_ne hsid']
          exact hholds
  · refine ⟨?_, (h.ssns sid').2⟩
    dsimp only
    by_cases hsid' : sid' = sid
    · subst hsid'
      rw [update_self, SCTPSendStream.nextStreamSeqNum_setQueue]
      exact (h.ssns sid').1
    · rw [update_of_ne hsid']
      exact (h.ssns sid').1
  · rw [h.currentSSN t ht]
    dsimp only
    by_cases hsid' : t.msg.sid = sid
    · rw [hsid', update_self, SCTPSendStream.nextStreamSeqNum_setQueue]
    · rw [update_of_ne hsid']
  · obtain ⟨hfragment, hlast, hempty⟩ := h.next t ht
    refine ⟨hfragment, hlast, fun hordered => ?_⟩
    dsimp only
    by_cases hsid' : t.msg.sid = sid
    · rw [hsid', update_self]
      cases sendUnordered with
      | true => exact (h.meets_unordered ht hordered (hsid' ▸ hmeets.2 rfl)).elim
      | false => exact hsid' ▸ hempty hordered
    · rw [update_of_ne hsid']
      exact hempty hordered

/-! ### A chunk for a packet -/

theorem nextStream_cases (cfg : SendConfig) (s : Sender) (nextSid : Option ℕ) :
    ∃ s1 o, s.nextStream cfg nextSid = (s1, o) ∧ s1.nextTSN = s.nextTSN ∧
      s1.sendStreams = s.sendStreams ∧ s1.lastMsgWasFragment = s.lastMsgWasFragment ∧
      (s.lastMsgWasFragment = true → s1 = s ∧ o = some s.lastStreamScheduled) ∧
      (cfg.storesSid = true → ∀ sid ∈ o, s1.lastStreamScheduled = sid) := by
  unfold Sender.nextStream
  by_cases hfragment : s.lastMsgWasFragment = true
  · rw [if_pos hfragment]
    refine ⟨s, _, rfl, rfl, rfl, rfl, fun _ => ⟨rfl, rfl⟩, fun _ sid hsid => ?_⟩
    exact some_inj.1 hsid
  · rw [if_neg hfragment]
    cases nextSid with
    | none => exact ⟨s, none, rfl, rfl, rfl, rfl, fun hf => absurd hf hfragment, nofun⟩
    | some sid =>
      dsimp only
      by_cases hstores : cfg.storesSid = true
      · rw [if_pos hstores]
        refine ⟨_, _, rfl, rfl, rfl, rfl, fun hf => absurd hf hfragment, fun _ sid' hsid' => ?_⟩
        exact some_inj.1 hsid'
      · rw [if_neg hstores]
        exact ⟨s, some sid, rfl, rfl, rfl, rfl, fun hf => absurd hf hfragment,
          fun hf => absurd hf hstores⟩

theorem Inv.nextStream (h : Inv cfg initTSN r done current) (s1 : Sender)
    (hTSN : s1.nextTSN = r.sender.nextTSN) (hstreams : s1.sendStreams = r.sender.sendStreams)
    (hkeep : r.sender.lastMsgWasFragment = true → s1 = r.sender) :
    Inv cfg initTSN { r with sender := s1 } done current where
  sent := h.sent
  complete := h.complete
  part := h.part
  nextTSN := hTSN.trans h.nextTSN
  tsn := h.tsn
  whole := h.whole
  queues sid ordered := by
    rw [hstreams]
    exact h.queues sid ordered
  ssns sid := by
    rw [hstreams]
    exact h.ssns sid
  currentSSN t ht := by
    rw [hstreams]
    exact h.currentSSN t ht
  next t ht := by
    rw [hkeep (h.next t ht).1]
    exact h.next t ht

/-- What is being sent belongs to the queue that is looked at next. -/
theorem Inv.current_queue (h : Inv cfg initTSN r done current) {t : Transmission}
    (ht : t ∈ current) :
    ofStream t.msg.sid (r.sender.sendStreams t.msg.sid).nextOrdered t.msg = true := by
  refine ofStream_iff.2 ⟨rfl, ?_⟩
  rw [SCTPSendStream.nextOrdered]
  cases hordered : t.msg.ordered with
  | true =>
    rw [(h.next t ht).2.2 hordered]
    rfl
  | false =>
    have hpos := gone_le h ht
    rw [hordered] at hpos
    obtain ⟨pending, -, hholds, -⟩ := h.queues t.msg.sid false
    obtain ⟨d, q', hq, -, -⟩ := hholds.head hpos
    have hq' : (r.sender.sendStreams t.msg.sid).uStreamQ = d :: q' := hq
    rw [hq']
    rfl

variable {pending rest : List SCTPDataMsg}

/-- The transmission to which the next part of the first pending message is added. -/
theorem Inv.transmission (h : Inv cfg initTSN r done current)
    (hcurrent : ∀ t ∈ current, ofStream sid ordered t.msg = true)
    (hhead : ∀ t ∈ current, ofStream sid ordered t.msg = true → pending.head? = some t.msg)
    (hpending : pending = m :: rest) (hof : ofStream sid ordered m = true) :
    ∃ t : Transmission, t.msg = m ∧ t.Begun ∧ (∀ c ∈ t.chunks, c.ebit = false) ∧
      t.size = gone current sid ordered ∧ (t.chunks = [] ↔ t.size = 0) ∧
      r.sent = done.flatMap Transmission.chunks ++ t.chunks ∧
      t.ssn = if m.ordered then (r.sender.sendStreams sid).nextStreamSeqNum else 0 := by
  have hsent := h.sent
  obtain ⟨rfl, hordered⟩ := ofStream_iff.1 hof
  cases current with
  | none =>
    rw [toList_none, append_nil] at hsent
    refine ⟨.start m _, rfl, Transmission.begun_start _ _, nofun, rfl, iff_of_true rfl rfl, ?_, rfl⟩
    rw [hsent]
    exact (append_nil _).symm
  | some t =>
    have ht := hcurrent t rfl
    have hmsg := hhead t rfl ht
    rw [hpending, head?_cons, some_inj] at hmsg
    have hpart := h.part t rfl
    refine ⟨t, hmsg.symm, hpart.toBegun, hpart.ebit, by rw [gone, if_pos ht], ?_, ?_, ?_⟩
    · refine iff_of_false (fun hnil => ?_) hpart.size_pos.ne'
      have hpos := hpart.size_pos
      rw [Transmission.size, hnil] at hpos
      exact lt_irrefl 0 hpos
    · rw [hsent, flatMap_append, toList_some, flatMap_singleton]
    · rw [hmsg]
      exact h.currentSSN t rfl

/-- The stream sequence numbers of a stream, modulo the number space. -/
theorem assignSSN_spec {stream : SCTPSendStream} {n : ℕ} (hn : stream.nextStreamSeqNum = n % 65536)
    (d : SCTPDataMsg) :
    (Sender.assignSSN stream d).1.nextStreamSeqNum =
        (if d.ordered = true ∧ d.ebit = true then n + 1 else n) % 65536 ∧
      (∀ ordered, (Sender.assignSSN stream d).1.queue ordered = stream.queue ordered) ∧
      (Sender.assignSSN stream d).2 = if d.ordered then stream.nextStreamSeqNum else 0 := by
  rw [Sender.assignSSN]
  by_cases hordered : d.ordered = true
  · rw [if_pos hordered]
    refine ⟨?_, fun ordered => by cases ordered <;> rfl, (if_pos hordered).symm⟩
    dsimp only
    rw [hn]
    by_cases hebit : d.ebit = true
    · simp only [hordered, hebit, and_self, ↓reduceIte]
      split_ifs <;> omega
    · simp only [hebit, and_false, Bool.false_eq_true, ↓reduceIte]
      rw [if_neg (by omega)]
  · rw [if_neg hordered, if_neg fun hboth => hordered hboth.1]
    exact ⟨hn, fun ordered => rfl, (if_neg hordered).symm⟩

/-- The sender after a chunk was taken from a queue of the stream `sid`. -/
def afterChunk (s : Sender) (sid : ℕ) (ordered : Bool) (q : List SCTPDataMsg) (flag : Bool)
    (d : SCTPDataMsg) : Sender × OutboundChunk :=
  Sender.makeDataVarFromDataMsg { s with
    lastMsgWasFragment := flag
    sendStreams := update s.sendStreams sid ((s.sendStreams sid).setQueue ordered q) } d

/-- What a chunk that was taken changes: its queue, the number of its stream, and the TSN. -/
theorem afterChunk_spec (h : Inv cfg initTSN r done current) (ordered : Bool) (d : SCTPDataMsg)
    (q : List SCTPDataMsg) (flag : Bool) (hsid : d.sid = sid) :
    (∀ sid' ordered', ((afterChunk r.sender sid ordered q flag d).1.sendStreams sid').queue
        ordered' = if sid' = sid ∧ ordered' = ordered then q
          else (r.sender.sendStreams sid').queue ordered') ∧
      (∀ sid', ((afterChunk r.sender sid ordered q flag d).1.sendStreams sid').nextStreamSeqNum =
        ((done.filter fun t => ofStream sid' true t.msg).length +
          if sid' = sid ∧ d.ordered = true ∧ d.ebit = true then 1 else 0) % 65536) ∧
      (afterChunk r.sender sid ordered q flag d).2 =
        { tsn := initTSN + BitVec.ofNat 32 r.sent.length
          msgNum := d.msgNum
          sid := d.sid
          ssn := if d.ordered then (r.sender.sendStreams sid).nextStreamSeqNum else 0
          ordered := d.ordered
          bbit := d.bbit
          ebit := d.ebit
          byteLength := d.byteLength } := by
  subst hsid
  have hnext : ((r.sender.sendStreams d.sid).setQueue ordered q).nextStreamSeqNum =
      (done.filter fun t => ofStream d.sid true t.msg).length % 65536 := by
    rw [SCTPSendStream.nextStreamSeqNum_setQueue]
    exact (h.ssns d.sid).1
  obtain ⟨hssn, hqueue, hassigned⟩ := assignSSN_spec hnext d
  rw [SCTPSendStream.nextStreamSeqNum_setQueue] at hassigned
  rw [afterChunk, Sender.makeDataVarFromDataMsg]
  simp only [update_self, update_idem]
  refine ⟨fun sid' ordered' => ?_, fun sid' => ?_, by rw [hassigned, h.nextTSN]⟩
  · by_cases hthis : sid' = d.sid
    · subst hthis
      rw [update_self, hqueue]
      by_cases hordered : ordered' = ordered
      · subst hordered
        rw [SCTPSendStream.queue_setQueue_self, if_pos ⟨rfl, rfl⟩]
      · rw [SCTPSendStream.queue_setQueue_of_ne hordered, if_neg fun hboth => hordered hboth.2]
    · rw [update_of_ne hthis, if_neg fun hboth => hthis hboth.1]
  · by_cases hthis : sid' = d.sid
    · subst hthis
      rw [update_self, hssn]
      by_cases hend : d.ordered = true ∧ d.ebit = true
      · rw [if_pos hend, if_pos ⟨rfl, hend⟩]
      · rw [if_neg hend, if_neg fun hboth => hend hboth.2, Nat.add_zero]
    · rw [update_of_ne hthis, if_neg fun hboth => hthis hboth.1, Nat.add_zero]
      exact (h.ssns sid').1

/-- Other queues lose nothing. -/
theorem gone_of_ne {t : Transmission} (ht : ofStream sid ordered t.msg = true) {sid' : ℕ}
    {ordered' : Bool} (hne : ¬(sid' = sid ∧ ordered' = ordered)) :
    gone (some t) sid' ordered' = 0 := by
  obtain ⟨rfl, rfl⟩ := ofStream_iff.1 ht
  rw [gone, if_neg]
  intro hof
  obtain ⟨hsid, hordered⟩ := ofStream_iff.1 hof
  exact hne ⟨hsid.symm, hordered.symm⟩

/-- The run after a chunk was taken. -/
def withChunk (r : SendRun) (sid : ℕ) (ordered : Bool) (q : List SCTPDataMsg) (flag : Bool)
    (d : SCTPDataMsg) : SendRun :=
  { r with
    sender := (afterChunk r.sender sid ordered q flag d).1
    sent := r.sent ++ [(afterChunk r.sender sid ordered q flag d).2] }

section

variable (h : Inv cfg initTSN r done current)
include h

theorem Inv.nextTSN_withChunk (q : List SCTPDataMsg) (flag : Bool) (d : SCTPDataMsg) :
    (r.withChunk sid ordered q flag d).sender.nextTSN =
      initTSN + BitVec.ofNat 32 (r.withChunk sid ordered q flag d).sent.length := by
  have hnext : (r.withChunk sid ordered q flag d).sender.nextTSN = r.sender.nextTSN + 1 := rfl
  have hlen : (r.withChunk sid ordered q flag d).sent.length = r.sent.length + 1 := length_append
  rw [hnext, h.nextTSN, hlen, BitVec.ofNat_add, BitVec.add_assoc]
  rfl

variable {d : SCTPDataMsg}

theorem Inv.tsn_withChunk (hsid : d.sid = sid) (q : List SCTPDataMsg) (flag : Bool) {i : ℕ}
    {c : OutboundChunk} (hc : (r.withChunk sid ordered q flag d).sent[i]? = some c) :
    c.tsn = initTSN + BitVec.ofNat 32 i := by
  rw [withChunk, getElem?_append] at hc
  split_ifs at hc with hi
  · exact h.tsn i c hc
  · obtain ⟨hi', rfl⟩ := Transmission.getElem?_singleton_iff.1 hc
    have hlen : i = r.sent.length := by omega
    rw [(afterChunk_spec h ordered d q flag hsid).2.2, hlen]

/-- The chunk is the next one of the transmission. -/
theorem Inv.next_chunk {t : Transmission} (hof : ofStream sid ordered m = true)
    (hpart : Part cfg m (gone current sid ordered) d) (hmsg : t.msg = m)
    (hsize : t.size = gone current sid ordered) (hnil : t.chunks = [] ↔ t.size = 0)
    (hssn : t.ssn = if m.ordered then (r.sender.sendStreams sid).nextStreamSeqNum else 0)
    (q : List SCTPDataMsg) (flag : Bool) :
    t.Next (afterChunk r.sender sid ordered q flag d).2 := by
  obtain ⟨hsid, -⟩ := ofStream_iff.1 hof
  rw [(afterChunk_spec h ordered d q flag (hpart.sid.trans hsid)).2.2]
  refine ⟨⟨?_, ?_, ?_, ?_⟩, ?_⟩
  · rw [hmsg]
    exact hpart.msgNum
  · rw [hmsg]
    exact hpart.sid
  · rw [hmsg]
    exact hpart.ordered
  · rw [hssn, hpart.ordered]
  · rw [hnil, hsize]
    exact hpart.bbit

section

variable (hcurrent : ∀ t ∈ current, ofStream sid ordered t.msg = true)
include hcurrent

/-- The end of a message is sent. -/
theorem Inv.last
    (hfilter : r.submitted.filter (ofStream sid ordered) =
      (done.map Transmission.msg).filter (ofStream sid ordered) ++ pending)
    (hhead : ∀ t ∈ current, ofStream sid ordered t.msg = true → pending.head? = some t.msg)
    (hpending : pending = m :: rest) (hof : ofStream sid ordered m = true)
    (hpart : Part cfg m (gone current sid ordered) d) (hebit : d.ebit = true) :
    ∃ t : Transmission,
      Inv cfg initTSN (r.withChunk sid ordered rest false d) (done ++ [t]) none := by
  obtain ⟨t, hmsg, hbegun, hno, hsize, hnil, hsent, hssn⟩ :=
    h.transmission hcurrent hhead hpending hof
  obtain ⟨hsid, hordered⟩ := ofStream_iff.1 hof
  have hdsid := hpart.sid.trans hsid
  obtain ⟨hqueue, hstream, hchunk⟩ := afterChunk_spec h ordered d rest false hdsid
  have hnext := h.next_chunk hof hpart hmsg hsize hnil hssn rest false
  generalize hc : (afterChunk r.sender sid ordered rest false d).2 = c at hchunk hnext
  have hcomplete : (t.concat c).Complete := by
    refine hbegun.complete hno hnext (by rw [hchunk]; exact hebit) ?_
    rw [hsize, hmsg, hchunk]
    exact hpart.ebit.1 hebit
  have hmsg' : (t.concat c).msg = m := hmsg
  refine ⟨t.concat c, ?_, fun u hu => ?_, nofun, h.nextTSN_withChunk rest false d,
    fun i c' hc' => h.tsn_withChunk hdsid rest false hc', h.whole, fun sid' ordered' => ?_,
    fun sid' => ?_, nofun, nofun⟩
  · rw [withChunk, hc, hsent, toList_none, append_nil, flatMap_append,
      flatMap_singleton, append_assoc]
    rfl
  · obtain hu | hu := mem_append.1 hu
    · exact h.complete u hu
    · rw [mem_singleton.1 hu]
      exact hcomplete
  · rw [map_append, filter_append, map_singleton, hmsg']
    by_cases hthis : sid' = sid ∧ ordered' = ordered
    · -- the queue of the message
      obtain ⟨rfl, rfl⟩ := hthis
      refine ⟨rest, ?_, ?_, nofun⟩
      · rw [filter_cons_of_pos hof, append_assoc]
        exact hfilter.trans (by rw [hpending]; rfl)
      · have hq := hqueue sid' ordered'
        rw [if_pos ⟨rfl, rfl⟩] at hq
        rw [withChunk, hq]
        exact .whole rest
    · obtain ⟨pending', hfilter', hholds', -⟩ := h.queues sid' ordered'
      have hnot : ¬ofStream sid' ordered' m = true := by
        intro hof'
        obtain ⟨hsid', hordered'⟩ := ofStream_iff.1 hof'
        exact hthis ⟨hsid'.symm.trans hsid, hordered'.symm.trans hordered⟩
      have hgone : gone current sid' ordered' = 0 := by
        cases current with
        | none => rfl
        | some u => exact gone_of_ne (hcurrent u rfl) hthis
      have hq := hqueue sid' ordered'
      rw [if_neg hthis] at hq
      refine ⟨pending', ?_, ?_, nofun⟩
      · rw [filter_cons_of_neg hnot, filter_nil, append_nil]
        exact hfilter'
      · rw [withChunk, hq]
        rw [hgone] at hholds'
        exact hholds'
  · have hnum := hstream sid'
    have hdone := (h.ssns sid').2
    rw [filter_append]
    by_cases hthis : sid' = sid ∧ m.ordered = true
    · -- the message gets the next number of its stream
      have hone : [t.concat c].filter (fun u => ofStream sid' true u.msg) = [t.concat c] :=
        filter_cons_of_pos (ofStream_iff.2 ⟨by rw [hmsg', hsid, hthis.1], by
          rw [hmsg']
          exact hthis.2⟩)
      have hssn' : (t.concat c).ssn =
          (done.filter fun u => ofStream sid' true u.msg).length % 65536 := by
        rw [← (h.ssns sid').1, hthis.1]
        exact hssn.trans (if_pos hthis.2)
      rw [if_pos ⟨hthis.1, hpart.ordered.trans hthis.2, hebit⟩] at hnum
      rw [hone, length_append, length_singleton, map_append, hdone, range_succ,
        map_append, map_singleton, map_singleton, hssn']
      exact ⟨hnum, rfl⟩
    · have hnone : [t.concat c].filter (fun u => ofStream sid' true u.msg) = [] := by
        refine filter_cons_of_neg fun hof' => hthis ?_
        obtain ⟨hsid', hordered'⟩ := ofStream_iff.1 hof'
        rw [hmsg'] at hsid' hordered'
        exact ⟨hsid'.symm.trans hsid, hordered'⟩
      rw [if_neg fun hboth => hthis ⟨hboth.1, hpart.ordered.symm.trans hboth.2.1⟩, Nat.add_zero]
        at hnum
      rw [hnone, append_nil]
      exact ⟨hnum, hdone⟩

/-- A fragment is sent, and others remain. -/
theorem Inv.more {pending rest q : List SCTPDataMsg}
    (hfilter : r.submitted.filter (ofStream sid ordered) =
      (done.map Transmission.msg).filter (ofStream sid ordered) ++ pending)
    (hhead : ∀ t ∈ current, ofStream sid ordered t.msg = true → pending.head? = some t.msg)
    (hpending : pending = m :: rest) (hof : ofStream sid ordered m = true)
    (hpart : Part cfg m (gone current sid ordered) d) (hebit : d.ebit = false)
    (hholds : Holds cfg q pending (gone current sid ordered + d.byteLength))
    (hlast : r.sender.lastStreamScheduled = sid)
    (hempty : ordered = true → (r.sender.sendStreams sid).uStreamQ = []) :
    ∃ t : Transmission, Inv cfg initTSN (r.withChunk sid ordered q true d) done (some t) := by
  obtain ⟨t, hmsg, hbegun, hno, hsize, hnil, hsent, hssn⟩ :=
    h.transmission hcurrent hhead hpending hof
  obtain ⟨hsid, hordered⟩ := ofStream_iff.1 hof
  have hdsid := hpart.sid.trans hsid
  obtain ⟨hqueue, hstream, hchunk⟩ := afterChunk_spec h ordered d q true hdsid
  have hnext := h.next_chunk hof hpart hmsg hsize hnil hssn q true
  generalize hc : (afterChunk r.sender sid ordered q true d).2 = c at hchunk hnext
  have hmsg' : (t.concat c).msg = m := hmsg
  have hsize' : (t.concat c).size = gone current sid ordered + d.byteLength := by
    rw [Transmission.size_concat, hsize, hchunk]
  have hpartial : (t.concat c).Partial := by
    have hlt : gone current sid ordered + d.byteLength < m.byteLength :=
      lt_of_le_of_ne hpart.le fun heq => by
        rw [hpart.ebit.2 heq] at hebit
        cases hebit
    refine hbegun.part hno hnext (by rw [hchunk]; exact hebit) ?_ ?_
    · rw [hchunk]
      exact (hpart.more hebit).1
    · rw [hsize, hmsg, hchunk]
      exact hlt
  -- no stream gets a new number
  have hnum : ∀ sid', ((r.withChunk sid ordered q true d).sender.sendStreams
      sid').nextStreamSeqNum = (r.sender.sendStreams sid').nextStreamSeqNum := by
    intro sid'
    rw [withChunk, hstream sid', if_neg fun hboth => by
      rw [hebit] at hboth
      exact Bool.false_ne_true hboth.2.2, Nat.add_zero]
    exact (h.ssns sid').1.symm
  refine ⟨t.concat c, ?_, h.complete, fun u hu => ?_, h.nextTSN_withChunk q true d,
    fun i c' hc' => h.tsn_withChunk hdsid q true hc', h.whole, fun sid' ordered' => ?_,
    fun sid' => ?_, fun u hu => ?_, fun u hu => ?_⟩
  · rw [withChunk, hc, hsent, flatMap_append, toList_some, flatMap_singleton,
      append_assoc]
    rfl
  · cases hu
    exact hpartial
  · have hq := hqueue sid' ordered'
    by_cases hthis : sid' = sid ∧ ordered' = ordered
    · obtain ⟨rfl, rfl⟩ := hthis
      rw [if_pos ⟨rfl, rfl⟩] at hq
      refine ⟨pending, hfilter, ?_, fun u hu _ => ?_⟩
      · rw [withChunk, hq, gone, hmsg', if_pos hof, hsize']
        exact hholds
      · cases hu
        rw [hpending, hmsg']
        rfl
    · obtain ⟨pending', hfilter', hholds', -⟩ := h.queues sid' ordered'
      rw [if_neg hthis] at hq
      have hgone : gone current sid' ordered' = 0 := by
        cases current with
        | none => rfl
        | some u => exact gone_of_ne (hcurrent u rfl) hthis
      refine ⟨pending', hfilter', ?_, fun u hu hof' => ?_⟩
      · rw [withChunk, hq, gone_of_ne (hmsg'.symm ▸ hof) hthis]
        rw [hgone] at hholds'
        exact hholds'
      · cases hu
        rw [hmsg'] at hof'
        obtain ⟨hsid', hordered'⟩ := ofStream_iff.1 hof'
        exact absurd ⟨hsid'.symm.trans hsid, hordered'.symm.trans hordered⟩ hthis
  · rw [hnum]
    exact h.ssns sid'
  · cases hu
    rw [hnum, hmsg', hsid]
    exact hssn
  · cases hu
    rw [hmsg', hsid]
    refine ⟨rfl, hlast, fun hm => ?_⟩
    have hq := hqueue sid false
    have hord : ordered = true := hordered.symm.trans hm
    rw [if_neg fun hboth => by
      rw [hord] at hboth
      exact Bool.false_ne_true hboth.2] at hq
    exact hq.trans (hempty hord)

/-- Nothing was taken. -/
theorem Inv.nothing {q : List SCTPDataMsg} {flag : Bool}
    {pending : List SCTPDataMsg} (hfilter : r.submitted.filter (ofStream sid ordered) =
      (done.map Transmission.msg).filter (ofStream sid ordered) ++ pending)
    (hhead : ∀ t ∈ current, ofStream sid ordered t.msg = true → pending.head? = some t.msg)
    (hholds : Holds cfg q pending (gone current sid ordered))
    (hflag : r.sender.lastMsgWasFragment = true → flag = true) :
    Inv cfg initTSN { r with sender := { r.sender with
      lastMsgWasFragment := flag
      sendStreams := update r.sender.sendStreams sid
        ((r.sender.sendStreams sid).setQueue ordered q) } } done current := by
  have hssn : ∀ sid', (update r.sender.sendStreams sid
      ((r.sender.sendStreams sid).setQueue ordered q) sid').nextStreamSeqNum =
        (r.sender.sendStreams sid').nextStreamSeqNum := by
    intro sid'
    by_cases hthis : sid' = sid
    · rw [hthis, update_self, SCTPSendStream.nextStreamSeqNum_setQueue]
    · rw [update_of_ne hthis]
  refine ⟨h.sent, h.complete, h.part, h.nextTSN, h.tsn, h.whole, fun sid' ordered' => ?_,
    fun sid' => ?_, fun t ht => ?_, fun t ht => ?_⟩
  · dsimp only
    by_cases hthis : sid' = sid
    · subst hthis
      rw [update_self]
      by_cases hordered : ordered' = ordered
      · subst hordered
        rw [SCTPSendStream.queue_setQueue_self]
        exact ⟨pending, hfilter, hholds, hhead⟩
      · rw [SCTPSendStream.queue_setQueue_of_ne hordered]
        exact h.queues sid' ordered'
    · rw [update_of_ne hthis]
      exact h.queues sid' ordered'
  · dsimp only
    rw [hssn]
    exact h.ssns sid'
  · dsimp only
    rw [hssn]
    exact h.currentSSN t ht
  · obtain ⟨hfragment, hlast, hempty⟩ := h.next t ht
    refine ⟨hflag hfragment, hlast, fun hordered => ?_⟩
    obtain ⟨rfl, hof⟩ := ofStream_iff.1 (hcurrent t ht)
    dsimp only
    rw [update_self, ← hof, hordered]
    exact hempty hordered

end

theorem Inv.transmit {nextSid : Option ℕ} {space cwnd : ℤ}
    (hstep : r.step cfg (.transmit nextSid space cwnd) = .ok r') :
    ∃ done' current', Inv cfg initTSN r' done' current' := by
  obtain ⟨s1, o, hnext, hTSN, hstreams, hflag, hkeep, hstores⟩ :=
    nextStream_cases cfg r.sender nextSid
  have h1 : Inv cfg initTSN { r with sender := s1 } done current :=
    h.nextStream s1 hTSN hstreams fun hfragment => (hkeep hfragment).1
  rw [step, Sender.transmit, Sender.dequeueOutboundDataMsg, hnext] at hstep
  dsimp only at hstep
  cases o with
  | none =>
    cases hstep
    exact ⟨done, current, by simpa using h1⟩
  | some sid =>
    dsimp only at hstep
    by_cases hsid : sid < cfg.outboundStreams
    · rw [if_pos hsid] at hstep
      generalize hordered : (s1.sendStreams sid).nextOrdered = ordered at hstep
      -- what is being sent is in this queue
      have hcurrent : ∀ t ∈ current, ofStream sid ordered t.msg = true := by
        intro t ht
        obtain ⟨hfragment, hlast, -⟩ := h.next t ht
        have hsid' := (hkeep hfragment).2
        rw [hlast, some_inj] at hsid'
        rw [← hordered, hsid']
        exact h1.current_queue ht
      obtain ⟨pending, hfilter, hholds, hhead⟩ := h1.queues sid ordered
      have hmem : ∀ m ∈ pending, m ∈ r.submitted ∧ ofStream sid ordered m = true := by
        intro m hm
        rw [← mem_filter]
        exact hfilter.symm ▸ mem_append_right _ hm
      have hwhole : ∀ m ∈ pending, m.Whole cfg := fun m hm => h.whole m (hmem m hm).1
      have htaken := hholds.takeFront s1.lastMsgWasFragment space cwnd hwhole
      generalize takeFront cfg ((s1.sendStreams sid).queue ordered) s1.lastMsgWasFragment space
        cwnd = taken at hstep htaken
      cases htaken with
      | nothing q flag' hholds' hflag' =>
        cases hstep
        exact ⟨done, current, by simpa using h1.nothing hcurrent hfilter hhead hholds' hflag'⟩
      | last m d rest hpending hpart hebit =>
        cases hstep
        have hof := (hmem m (hpending ▸ mem_cons_self)).2
        obtain ⟨t, ht⟩ := h1.last hcurrent hfilter hhead hpending hof hpart hebit
        exact ⟨_, _, ht⟩
      | more m d q rest hpending hpart hebit hholds' =>
        cases hstep
        have hcut := (hwhole m (hpending ▸ mem_cons_self)).cut
        have hlong := (hpart.more hebit).2
        have hlast : s1.lastStreamScheduled = sid :=
          hstores (hcut.resolve_left (not_le.2 hlong)).2 sid rfl
        have hempty : ordered = true → (s1.sendStreams sid).uStreamQ = [] := by
          intro htrue
          rw [← hordered, SCTPSendStream.nextOrdered, List.isEmpty_iff] at htrue
          exact htrue
        have hof := (hmem m (hpending ▸ mem_cons_self)).2
        obtain ⟨t, ht⟩ := h1.more hcurrent hfilter hhead hpending hof hpart hebit hholds' hlast
          hempty
        exact ⟨_, _, ht⟩
    · rw [if_neg hsid] at hstep
      cases hstep
      exact ⟨done, current, by simpa using h1⟩

end

/-- **In every run whose messages meet the condition, the fragments of a message are sent one after
the other**, with consecutive TSNs, the begin bit on the first and the end bit on the last one, and
the ordered messages of a stream with consecutive stream sequence numbers. -/
theorem run_contiguous {events : List SendEvent}
    (hrun : Run (step cfg) (fun r e => r.Legal e ∧ r.Meets cfg e) (initial initTSN) events
      r) :
    r.Contiguous initTSN := by
  obtain ⟨done, current, h⟩ : ∃ done current, Inv cfg initTSN r done current := by
    refine hrun.invariant (I := fun r => ∃ done current, Inv cfg initTSN r done current)
      (fun r e r' hr he hstep => ?_) ⟨[], none, inv_initial cfg initTSN⟩
    obtain ⟨done, current, h⟩ := hr
    cases e with
    | send sid sendUnordered byteLength => exact ⟨done, current, h.send he.2 hstep⟩
    | transmit nextSid space cwnd => exact h.transmit hstep
  exact h.contiguous

/-- A path limit of 1500 bytes and two streams. -/
def sampleConfig : SendConfig where
  assocPmtu := 1500
  outboundStreams := 2
  large := by decide
  int32 := by decide

/-- A message of two fragments, with another one on another stream after the first of them. -/
def sampleEvents (sid : ℕ) : List SendEvent :=
  [.send 0 false 2000, .transmit (some 0) 1500 1500, .send sid true 10,
    .transmit (some sid) 1500 1500, .transmit (some sid) 1500 1500]

theorem run_contiguous_sample : ∃ r : SendRun,
    r.sent.map (fun c => (c.tsn, c.msgNum, c.bbit, c.ebit)) =
      [(7, 1, true, false), (8, 1, false, true), (9, 2, true, true)] ∧ r.Contiguous 7 := by
  obtain ⟨r, hrun, hr⟩ : ∃ r, Run (step sampleConfig)
      (fun r e => r.Legal e ∧ r.Meets sampleConfig e) (initial 7) (sampleEvents 1) r ∧
      r.sent.map (fun c => (c.tsn, c.msgNum, c.bbit, c.ebit)) =
        [(7, 1, true, false), (8, 1, false, true), (9, 2, true, true)] :=
    exists_run_of_exec (by decide +kernel)
  exact ⟨r, hr, run_contiguous hrun⟩

/-- After a chunk without the end bit comes one of the same message. -/
theorem Contiguous.second (h : r.Contiguous initTSN) {c0 c1 : OutboundChunk}
    {l : List OutboundChunk} (hsent : r.sent = c0 :: c1 :: l) (hebit : c0.ebit = false) :
    c1.msgNum = c0.msgNum := by
  obtain ⟨done, current, hparts, hdone, hcurrent, -, -⟩ := h
  have hsame : ∀ t : Transmission, t.Begun → c0 ∈ t.chunks → c1 ∈ t.chunks →
      c1.msgNum = c0.msgNum := fun t ht h0 h1 =>
    (ht.of_message c1 h1).1.trans (ht.of_message c0 h0).1.symm
  rw [hsent] at hparts
  cases done with
  | nil =>
    cases current with
    | none => cases hparts
    | some t =>
      rw [nil_append, toList_some, flatMap_singleton] at hparts
      refine hsame t (hcurrent t rfl).toBegun ?_ ?_ <;> simp [← hparts]
  | cons t done =>
    have ht := hdone t mem_cons_self
    rw [cons_append, flatMap_cons] at hparts
    match hchunks : t.chunks with
    | [] => exact absurd hchunks ht.ne_nil
    | [a] =>
      rw [hchunks, singleton_append, List.cons.injEq] at hparts
      have hend := (ht.ebit_iff 0 a (by rw [hchunks]; rfl)).2 (by rw [hchunks]; rfl)
      rw [← hparts.1, hebit] at hend
      cases hend
    | a :: b :: chunks =>
      rw [hchunks, cons_append, cons_append, List.cons.injEq, List.cons.injEq] at hparts
      obtain ⟨rfl, rfl, -⟩ := hparts
      refine hsame t ht.toBegun ?_ ?_ <;> simp [hchunks]

/-- An unordered message that the application sends while an ordered one of the same stream is
being sent comes between the fragments of this one. -/
theorem not_contiguous : ¬∀ (cfg : SendConfig) (initTSN : TSN) (events : List SendEvent)
    (r : SendRun), Run (step cfg) Legal (initial initTSN) events r → r.Contiguous initTSN := by
  intro hclaim
  obtain ⟨r, hrun, hr⟩ : ∃ r, Run (step sampleConfig) Legal (initial 7) (sampleEvents 0) r ∧
      r.sent = [⟨7, 1, 0, 0, true, true, false, 1452⟩, ⟨8, 2, 0, 0, false, true, true, 10⟩,
        ⟨9, 1, 0, 0, true, false, true, 548⟩] :=
    exists_run_of_exec (by decide +kernel)
  exact absurd ((hclaim sampleConfig 7 _ r hrun).second hr rfl) (by decide)

end Invariant

end SendRun

end SCTP

end Hiwis
