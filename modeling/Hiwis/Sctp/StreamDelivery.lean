import Hiwis.Sctp.Reassembly

/-!
# Delivery of the messages of a stream

The data chunks of the messages of a stream arrive in any order; in between, messages are put into
the delivery queue and taken out of it.

* `SCTP.ReceiveRun.run_delivers` : in every run whose arrivals meet the condition
  `SCTP.ReceiveRun.Meets`, every message is put into the delivery queue exactly once, when all of
  its fragments and those of the ordered messages before it have arrived, with the bytes of its
  fragments in order, and the ordered messages are put there in the order of their numbers;
* `SCTP.ReceiveRun.not_delivers` : an unordered message whose first fragment arrives first is not.
-/

namespace Hiwis

open List Except Function

namespace SCTP

/-- The messages of a stream: their chunks have different TSNs, and the ordered ones are numbered
from 0 on. -/
structure StreamMessages (msgs : List UserMessage) : Prop where
  valid : ∀ m ∈ msgs, m.Valid
  eq_of_tsn : ∀ m ∈ msgs, ∀ m' ∈ msgs, ∀ i < m.size, ∀ j < m'.size, m.tsn i = m'.tsn j → m = m'
  eq_of_seq : ∀ m ∈ msgs, ∀ m' ∈ msgs, m.ordered = true → m'.ordered = true → m.seq = m'.seq →
    m = m'
  consecutive : ∀ m ∈ msgs, m.ordered = true → ∀ k < m.seq,
    ∃ m' ∈ msgs, m'.ordered = true ∧ m'.seq = k

/-- All fragments of the message are among those that have arrived. -/
def Complete (arrived : List (UserMessage × ℕ)) (m : UserMessage) : Prop :=
  ∀ j < m.size, (m, j) ∈ arrived

instance (arrived : List (UserMessage × ℕ)) (m : UserMessage) : Decidable (Complete arrived m) :=
  inferInstanceAs (Decidable (∀ j < m.size, (m, j) ∈ arrived))

/-- The stream, the fragments that have arrived, and what was put into the delivery queue, in this
order. -/
structure ReceiveRun where
  stream : SCTPReceiveStream := {}
  arrived : List (UserMessage × ℕ) := []
  moved : List SCTPDataVariables := []

inductive StreamEvent
  | dataArrived (m : UserMessage) (i : ℕ)
  | putInDeliveryQ
  | extractMessage
deriving DecidableEq

namespace ReceiveRun

def step (s : ReceiveRun) : StreamEvent → Except SCTPError ReceiveRun
  | .dataArrived m i => do
    let (stream, moved) ← s.stream.processDataArrived (m.chunk i)
    .ok { stream := stream, arrived := (m, i) :: s.arrived, moved := s.moved ++ moved }
  | .putInDeliveryQ =>
    let (stream, moved) := s.stream.putInDeliveryQ
    .ok { s with stream := stream, moved := s.moved ++ moved }
  | .extractMessage => .ok { s with stream := s.stream.extractMessage }

/-- A fragment of one of the messages, which has not arrived before. -/
def Legal (msgs : List UserMessage) (s : ReceiveRun) : StreamEvent → Prop
  | .dataArrived m i => m ∈ msgs ∧ i < m.size ∧ (m, i) ∉ s.arrived
  | .putInDeliveryQ => True
  | .extractMessage => True

instance (msgs : List UserMessage) (s : ReceiveRun) (e : StreamEvent) :
    Decidable (s.Legal msgs e) :=
  match e with
  | .dataArrived m i => inferInstanceAs (Decidable (m ∈ msgs ∧ i < m.size ∧ (m, i) ∉ s.arrived))
  | .putInDeliveryQ => inferInstanceAs (Decidable True)
  | .extractMessage => inferInstanceAs (Decidable True)

/-- The number of ordered messages that were put into the delivery queue. -/
def deliveredOrdered (s : ReceiveRun) : ℕ := (s.moved.filter fun c => c.ordered).length

/-- The arrival stays clear of what the code does not handle. -/
def Meets (s : ReceiveRun) : StreamEvent → Prop
  | .dataArrived m i =>
    (1 < m.size → Complete ((m, i) :: s.arrived) m → m.Joinable) ∧
      (m.ordered = false → i = 0 → Complete ((m, i) :: s.arrived) m) ∧
      (m.ordered = true → m.seq < s.deliveredOrdered + 2 ^ 16)
  | .putInDeliveryQ => True
  | .extractMessage => True

instance (s : ReceiveRun) (e : StreamEvent) : Decidable (s.Meets e) :=
  match e with
  | .dataArrived m i => inferInstanceAs (Decidable
      ((1 < m.size → Complete ((m, i) :: s.arrived) m → m.Joinable) ∧
        (m.ordered = false → i = 0 → Complete ((m, i) :: s.arrived) m) ∧
        (m.ordered = true → m.seq < s.deliveredOrdered + 2 ^ 16)))
  | .putInDeliveryQ => inferInstanceAs (Decidable True)
  | .extractMessage => inferInstanceAs (Decidable True)

/-- What was put into the delivery queue: complete messages, each once, the ordered ones in the
order of their numbers, and every message whose turn has come. -/
structure Delivers (msgs : List UserMessage) (s : ReceiveRun) : Prop where
  whole : ∀ c ∈ s.moved, ∃ m ∈ msgs, Complete s.arrived m ∧ c = m.whole
  nodup : s.moved.Nodup
  ordered : ∃ ms : List UserMessage, ms ⊆ msgs ∧ ms.map UserMessage.seq = range ms.length ∧
    s.moved.filter (fun c => c.ordered) = ms.map UserMessage.whole
  unordered_mem : ∀ m ∈ msgs, m.ordered = false → Complete s.arrived m → m.whole ∈ s.moved
  ordered_mem : ∀ m ∈ msgs, m.ordered = true →
    (∀ m' ∈ msgs, m'.ordered = true → m'.seq ≤ m.seq → Complete s.arrived m') → m.whole ∈ s.moved

end ReceiveRun

/-! ### The contents of the queues -/

section Contents

variable {msgs : List UserMessage} {A A' : List (UserMessage × ℕ)}
  {delivered delivered' : List UserMessage} {b : Bool} {q q' : SCTPQueue} {m : UserMessage}
  {k : TSN} {c : SCTPDataVariables} {i : ℕ}

/-- The chunk waits in a queue for the message: the whole message, or one of its fragments. -/
def WaitingOf (A : List (UserMessage × ℕ)) (delivered : List UserMessage) (b : Bool)
    (m : UserMessage) (k : TSN) (c : SCTPDataVariables) : Prop :=
  m.ordered = b ∧ m ∉ delivered ∧
    (Complete A m ∧ k = m.tsn 0 ∧ c = m.whole ∨
      ¬Complete A m ∧ ∃ i, (m, i) ∈ A ∧ k = m.tsn i ∧ c = m.chunk i)

/-- The queue holds what waits for the messages. -/
structure Contents (msgs : List UserMessage) (A : List (UserMessage × ℕ))
    (delivered : List UserMessage) (b : Bool) (q : SCTPQueue) : Prop where
  distinct : q.Distinct
  getChunk_iff : ∀ k c, q.getChunk k = some c ↔ ∃ m ∈ msgs, WaitingOf A delivered b m k c

/-- The fragments are fragments of the messages. -/
def Fragments (msgs : List UserMessage) (A : List (UserMessage × ℕ)) : Prop :=
  ∀ m i, (m, i) ∈ A → m ∈ msgs ∧ i < m.size

section

variable (hmsgs : StreamMessages msgs) (hA : Fragments msgs A)
include hmsgs hA

theorem WaitingOf.exists_tsn (hm : m ∈ msgs) (h : WaitingOf A delivered b m k c) :
    ∃ j < m.size, k = m.tsn j := by
  obtain ⟨-, -, ⟨-, hk, -⟩ | ⟨-, i, hi, hk, -⟩⟩ := h
  · exact ⟨0, (hmsgs.valid m hm).pos, hk⟩
  · exact ⟨i, (hA m i hi).2, hk⟩

/-- What waits under the TSN of a fragment waits for its message. -/
theorem Contents.getChunk_tsn (h : Contents msgs A delivered b q) (hm : m ∈ msgs) (hi : i < m.size)
    :
    q.getChunk (m.tsn i) = some c ↔ WaitingOf A delivered b m (m.tsn i) c := by
  rw [h.getChunk_iff]
  constructor
  · rintro ⟨m', hm', hw⟩
    obtain ⟨j, hj, htsn⟩ := hw.exists_tsn hmsgs hA hm'
    rw [hmsgs.eq_of_tsn m hm m' hm' i hi j hj htsn] at hw ⊢
    exact hw
  · exact fun hw => ⟨m, hm, hw⟩

/-- One message changes; what waits for the others stays. -/
theorem Contents.update (hA' : Fragments msgs A') (h : Contents msgs A delivered b q) (hm : m ∈ msgs)
    (harrived : ∀ m' ≠ m, ∀ j, (m', j) ∈ A' ↔ (m', j) ∈ A)
    (hdelivered : ∀ m' ≠ m, m' ∈ delivered' ↔ m' ∈ delivered) (hq' : q'.Distinct)
    (hother : ∀ k, (∀ j < m.size, k ≠ m.tsn j) → q'.getChunk k = q.getChunk k)
    (hself : ∀ j < m.size, ∀ c,
      q'.getChunk (m.tsn j) = some c ↔ WaitingOf A' delivered' b m (m.tsn j) c) :
    Contents msgs A' delivered' b q' := by
  have hwaiting : ∀ m' ≠ m, ∀ k c,
      WaitingOf A' delivered' b m' k c ↔ WaitingOf A delivered b m' k c := by
    intro m' hne k c
    simp only [WaitingOf, Complete, harrived m' hne, hdelivered m' hne]
  refine ⟨hq', fun k c => ?_⟩
  by_cases hk : ∀ j < m.size, k ≠ m.tsn j
  · rw [hother k hk, h.getChunk_iff]
    refine exists_congr fun m' => and_congr_right fun hm' => ?_
    by_cases hne : m' = m
    · rw [hne]
      refine iff_of_false (fun hw => ?_) fun hw => ?_
      · obtain ⟨j, hj, htsn⟩ := hw.exists_tsn hmsgs hA hm
        exact hk j hj htsn
      · obtain ⟨j, hj, htsn⟩ := hw.exists_tsn hmsgs hA' hm
        exact hk j hj htsn
    · exact (hwaiting m' hne k c).symm
  · push Not at hk
    obtain ⟨j, hj, rfl⟩ := hk
    rw [hself j hj]
    constructor
    · exact fun hw => ⟨m, hm, hw⟩
    · rintro ⟨m', hm', hw⟩
      obtain ⟨j', hj', htsn⟩ := hw.exists_tsn hmsgs hA' hm'
      rw [hmsgs.eq_of_tsn m hm m' hm' j hj j' hj' htsn] at hw ⊢
      exact hw

/-- A queue that has nothing to do with the message. -/
theorem Contents.of_other (hA' : Fragments msgs A') (h : Contents msgs A delivered b q)
    (hm : m ∈ msgs) (hb : m.ordered ≠ b) (harrived : ∀ m' ≠ m, ∀ j, (m', j) ∈ A' ↔ (m', j) ∈ A)
    (hdelivered : ∀ m' ≠ m, m' ∈ delivered' ↔ m' ∈ delivered) :
    Contents msgs A' delivered' b q := by
  refine h.update hmsgs hA hA' hm harrived hdelivered h.distinct (fun _ _ => rfl)
    fun j hj c => ?_
  rw [h.getChunk_tsn hmsgs hA hm hj]
  exact iff_of_false (fun hw => hb hw.1) fun hw => hb hw.1

end

/-! ### A chunk arrives -/

/-- What is known when a fragment arrives. -/
structure Arrival (msgs : List UserMessage) (A : List (UserMessage × ℕ))
    (delivered : List UserMessage) (m : UserMessage) (i : ℕ) : Prop where
  mem : m ∈ msgs
  lt : i < m.size
  new : (m, i) ∉ A
  notMem : m ∉ delivered

namespace Arrival

theorem arrived_iff (_h : Arrival msgs A delivered m i) (m' : UserMessage) (hne : m' ≠ m) (j : ℕ) :
    (m', j) ∈ (m, i) :: A ↔ (m', j) ∈ A := by
  rw [mem_cons]
  exact ⟨fun hor => hor.resolve_left fun heq => hne (Prod.mk.inj heq).1, .inr⟩

theorem fragments (h : Arrival msgs A delivered m i) (hA : Fragments msgs A) :
    Fragments msgs ((m, i) :: A) := by
  intro m' j hmem
  rcases mem_cons.1 hmem with heq | hmem
  · cases heq
    exact ⟨h.mem, h.lt⟩
  · exact hA m' j hmem

theorem not_complete (h : Arrival msgs A delivered m i) : ¬Complete A m :=
  fun hall => h.new (hall i h.lt)

variable (h : Arrival msgs A delivered m i) (hmsgs : StreamMessages msgs) (hA : Fragments msgs A)
include h hmsgs hA

/-- There is nothing yet under the TSN of the fragment. -/
theorem getChunk_eq_none (hq : Contents msgs A delivered b q) : q.getChunk (m.tsn i) = none := by
  rw [Option.eq_none_iff_forall_ne_some]
  intro c hc
  obtain ⟨-, -, ⟨hall, -⟩ | ⟨-, j, hj, htsn, -⟩⟩ := (hq.getChunk_tsn hmsgs hA h.mem h.lt).1 hc
  · exact h.not_complete hall
  · rw [(hmsgs.valid m h.mem).tsn_inj i h.lt j (hA m j hj).2 htsn] at h
    exact h.new hj

variable (hq : Contents msgs A delivered m.ordered q)
include hq

/-- The queue with the chunk holds the fragments that have arrived by now. -/
theorem holdsFragments :
    HoldsFragments (q.insertEntry (m.tsn i) (m.chunk i)) m fun j => (m, j) ∈ (m, i) :: A := by
  have hnone := h.getChunk_eq_none hmsgs hA hq
  have hold : ∀ j < m.size, ∀ c, q.getChunk (m.tsn j) = some c ↔ (m, j) ∈ A ∧ c = m.chunk j := by
    intro j hj c
    rw [hq.getChunk_tsn hmsgs hA h.mem hj]
    constructor
    · rintro ⟨-, -, ⟨hall, -⟩ | ⟨-, j', hj', htsn, rfl⟩⟩
      · exact absurd hall h.not_complete
      · rw [(hmsgs.valid m h.mem).tsn_inj j hj j' (hA m j' hj').2 htsn]
        exact ⟨hj', rfl⟩
    · exact fun hw => ⟨rfl, h.notMem, .inr ⟨h.not_complete, j, hw.1, rfl, hw.2⟩⟩
  have hne : ∀ j < m.size, j ≠ i → m.tsn j ≠ m.tsn i := fun j hj hji heq =>
    hji ((hmsgs.valid m h.mem).tsn_inj j hj i h.lt heq)
  refine ⟨fun j hj harrived => ?_, fun j hj hmissing => ?_⟩
  · rw [SCTPQueue.getChunk_insert hnone]
    by_cases hji : j = i
    · rw [hji, update_self]
    · rw [update_of_ne (hne j hj hji), hold j hj]
      exact ⟨(mem_cons.1 harrived).resolve_left fun heq => hji (Prod.mk.inj heq).2, rfl⟩
  · have hji : j ≠ i := fun heq => hmissing (heq ▸ mem_cons_self)
    rw [SCTPQueue.getChunk_insert hnone, update_of_ne (hne j hj hji),
      Option.eq_none_iff_forall_ne_some]
    intro c hc
    exact hmissing (mem_cons_of_mem _ ((hold j hj c).1 hc).1)

/-- What waits for the message once the fragment is in the queue, as long as one is missing. -/
theorem contents_of_missing (hmissing : ¬Complete ((m, i) :: A) m) :
    Contents msgs ((m, i) :: A) delivered m.ordered (q.insertEntry (m.tsn i) (m.chunk i)) := by
  have hnone := h.getChunk_eq_none hmsgs hA hq
  have hfragments := h.holdsFragments hmsgs hA hq
  refine hq.update hmsgs hA (h.fragments hA) h.mem h.arrived_iff (fun _ _ => Iff.rfl)
    (hq.distinct.insertEntry hnone) (fun k hk => ?_) fun j hj c => ?_
  · rw [SCTPQueue.getChunk_insert hnone, update_of_ne (hk i h.lt)]
  · have hw : WaitingOf ((m, i) :: A) delivered m.ordered m (m.tsn j) c ↔
        (m, j) ∈ (m, i) :: A ∧ c = m.chunk j := by
      constructor
      · rintro ⟨-, -, ⟨hall, -⟩ | ⟨-, j', hj', htsn, rfl⟩⟩
        · exact absurd hall hmissing
        · have hlt := (h.fragments hA m j' hj').2
          rw [(hmsgs.valid m h.mem).tsn_inj j hj j' hlt htsn]
          exact ⟨hj', rfl⟩
      · exact fun hw => ⟨rfl, h.notMem, .inr ⟨hmissing, j, hw.1, rfl, hw.2⟩⟩
    rw [hw]
    by_cases hj' : (m, j) ∈ (m, i) :: A
    · rw [hfragments.arrived j hj hj', Option.some.injEq]
      exact ⟨fun heq => ⟨hj', heq.symm⟩, fun hand => hand.2.symm⟩
    · rw [hfragments.missing j hj hj']
      exact iff_of_false (fun heq => by cases heq) fun hand => hj' hand.1

/-- What waits for the message once it is joined. -/
theorem contents_of_complete (hall : Complete ((m, i) :: A) m) (hq' : q'.Distinct)
    (hwhole : q'.getChunk (m.tsn 0) = some m.whole)
    (hnone : ∀ j, 0 < j → j < m.size → q'.getChunk (m.tsn j) = none)
    (hother : ∀ k, (∀ j < m.size, k ≠ m.tsn j) → q'.getChunk k = q.getChunk k) :
    Contents msgs ((m, i) :: A) delivered m.ordered q' := by
  refine hq.update hmsgs hA (h.fragments hA) h.mem h.arrived_iff (fun _ _ => Iff.rfl) hq' hother
    fun j hj c => ?_
  have hvalid := hmsgs.valid m h.mem
  have hw : WaitingOf ((m, i) :: A) delivered m.ordered m (m.tsn j) c ↔ j = 0 ∧ c = m.whole := by
    constructor
    · rintro ⟨-, -, ⟨-, htsn, rfl⟩ | ⟨hmissing, -⟩⟩
      · exact ⟨hvalid.tsn_inj j hj 0 hvalid.pos htsn, rfl⟩
      · exact absurd hall hmissing
    · rintro ⟨rfl, rfl⟩
      exact ⟨rfl, h.notMem, .inl ⟨hall, rfl, rfl⟩⟩
  rw [hw]
  rcases Nat.eq_zero_or_pos j with rfl | hpos
  · rw [hwhole, Option.some.injEq]
    exact ⟨fun heq => ⟨rfl, heq.symm⟩, fun hand => hand.2.symm⟩
  · rw [hnone j hpos hj]
    exact iff_of_false (fun heq => by cases heq) fun hand => hpos.ne' hand.1

end Arrival

/-- The message leaves the queue. -/
theorem Contents.erase (hmsgs : StreamMessages msgs) (hA : Fragments msgs A)
    (h : Contents msgs A delivered b q) (hm : m ∈ msgs) (hall : Complete A m) :
    Contents msgs A (delivered ++ [m]) b (q.eraseKey (m.tsn 0)) := by
  have hvalid := hmsgs.valid m hm
  refine h.update hmsgs hA hA hm (fun _ _ _ => Iff.rfl) (fun m' hne => ?_)
    (h.distinct.eraseKey _) (fun k hk => ?_) fun j hj c => ?_
  · rw [mem_append, mem_singleton]
    exact ⟨fun hor => hor.resolve_right hne, .inl⟩
  · rw [SCTPQueue.getChunk_erase, update_of_ne (hk 0 hvalid.pos)]
  · refine iff_of_false (fun hc => ?_) fun hw => hw.2.1 (by simp)
    rw [SCTPQueue.getChunk_erase] at hc
    rcases Nat.eq_zero_or_pos j with rfl | hpos
    · rw [update_self] at hc
      cases hc
    · have hne : m.tsn j ≠ m.tsn 0 := fun heq =>
        hpos.ne' (hvalid.tsn_inj j hj 0 hvalid.pos heq)
      rw [update_of_ne hne, h.getChunk_tsn hmsgs hA hm hj] at hc
      obtain ⟨-, -, ⟨-, htsn, -⟩ | ⟨hmissing, -⟩⟩ := hc
      · exact hne htsn
      · exact hmissing hall

end Contents

/-! ### The invariant -/

/-- The number of the ordered message that is expected next. -/
def orderedCount (delivered : List UserMessage) : ℕ := (delivered.filter fun m => m.ordered).length

/-- The queues hold what waits for the messages that were not delivered. -/
structure Inv (msgs : List UserMessage) (s : ReceiveRun) (delivered : List UserMessage) :
    Prop where
  fragments : Fragments msgs s.arrived
  seq_lt : ∀ m i, (m, i) ∈ s.arrived → m.ordered = true → m.seq < orderedCount delivered + 2 ^ 16
  moved : s.moved = delivered.map UserMessage.whole
  complete : ∀ m ∈ delivered, m ∈ msgs ∧ Complete s.arrived m
  nodup : delivered.Nodup
  seqs : (delivered.filter fun m => m.ordered).map UserMessage.seq = range (orderedCount delivered)
  expected : s.stream.expectedStreamSeqNum = orderedCount delivered % 2 ^ 16
  unordered : ∀ m ∈ msgs, m.ordered = false → Complete s.arrived m → m ∈ delivered
  orderedQ : Contents msgs s.arrived delivered true s.stream.orderedQ
  unorderedQ : Contents msgs s.arrived delivered false s.stream.unorderedQ
  deliveryQ : ∀ e ∈ s.stream.deliveryQ, ∃ m ∈ delivered, e.1 = m.tsn 0

/-- The ordered message that is expected next is not complete. -/
def Stable (msgs : List UserMessage) (arrived : List (UserMessage × ℕ))
    (delivered : List UserMessage) : Prop :=
  ∀ m ∈ msgs, m.ordered = true → m.seq = orderedCount delivered → ¬Complete arrived m

section Steps

variable {msgs delivered : List UserMessage} {s : ReceiveRun} {m : UserMessage} {i : ℕ}

theorem mem_concat_iff_of_ne (m' : UserMessage) (hne : m' ≠ m) :
    m' ∈ delivered ++ [m] ↔ m' ∈ delivered := by
  rw [mem_append, mem_singleton]
  exact ⟨fun hor => hor.resolve_right hne, .inl⟩

theorem orderedCount_concat (delivered : List UserMessage) (m : UserMessage) :
    orderedCount (delivered ++ [m]) = orderedCount delivered + if m.ordered then 1 else 0 := by
  rw [orderedCount, filter_append, length_append]
  cases hm : m.ordered with
  | true => simp [hm, orderedCount]
  | false => simp [hm, orderedCount]

namespace Inv

/-- A message that was not delivered is not numbered below the expected one. -/
theorem le_seq (hmsgs : StreamMessages msgs) (h : Inv msgs s delivered) (hm : m ∈ msgs)
    (hord : m.ordered = true) (hnot : m ∉ delivered) : orderedCount delivered ≤ m.seq := by
  by_contra hlt
  have hmem : m.seq ∈ (delivered.filter fun m => m.ordered).map UserMessage.seq := by
    rw [h.seqs]
    exact mem_range.2 (not_le.1 hlt)
  obtain ⟨m', hm', hseq⟩ := mem_map.1 hmem
  obtain ⟨hdel, hord'⟩ := mem_filter.1 hm'
  rw [hmsgs.eq_of_seq m' (h.complete m' hdel).1 m hm hord' hord hseq] at hdel
  exact hnot hdel

theorem notMem_of_seq (h : Inv msgs s delivered) (hord : m.ordered = true)
    (hseq : m.seq = orderedCount delivered) : m ∉ delivered := by
  intro hmem
  have hrange : m.seq ∈ range (orderedCount delivered) := by
    rw [← h.seqs]
    exact mem_map.2 ⟨m, mem_filter.2 ⟨hmem, hord⟩, rfl⟩
  exact absurd hseq (mem_range.1 hrange).ne

/-- The place of a message in the delivery queue is free. -/
theorem deliveryQ_eq_none (hmsgs : StreamMessages msgs) (h : Inv msgs s delivered) (hm : m ∈ msgs)
    (hnot : m ∉ delivered) : s.stream.deliveryQ.getChunk (m.tsn 0) = none := by
  rw [Option.eq_none_iff_forall_ne_some]
  intro c hc
  obtain ⟨m', hm', htsn⟩ := h.deliveryQ _ (SCTPQueue.mem_of_getChunk hc)
  have hmem' := (h.complete m' hm').1
  rw [← hmsgs.eq_of_tsn m hm m' hmem' 0 (hmsgs.valid m hm).pos 0 (hmsgs.valid m' hmem').pos
    htsn] at hm'
  exact hnot hm'

/-- A complete message is put into the delivery queue. -/
theorem deliver (stream : SCTPReceiveStream) (A : List (UserMessage × ℕ))
    (h : Inv msgs s delivered) (hm : m ∈ msgs) (hnot : m ∉ delivered)
    (hA : Fragments msgs A) (hsub : s.arrived ⊆ A)
    (harrived : ∀ m' ≠ m, ∀ j, (m', j) ∈ A ↔ (m', j) ∈ s.arrived) (hall : Complete A m)
    (hseq : m.ordered = true → m.seq = orderedCount delivered)
    (hdelivery : stream.deliveryQ = s.stream.deliveryQ.insertEntry (m.tsn 0) m.whole)
    (hexpected : stream.expectedStreamSeqNum =
      (orderedCount delivered + if m.ordered then 1 else 0) % 2 ^ 16)
    (hordered : Contents msgs A (delivered ++ [m]) true stream.orderedQ)
    (hunordered : Contents msgs A (delivered ++ [m]) false stream.unorderedQ) :
    Inv msgs { stream := stream, arrived := A, moved := s.moved ++ [m.whole] }
      (delivered ++ [m]) where
  fragments := hA
  seq_lt := by
    intro m' j hmem hord
    rw [orderedCount_concat]
    by_cases hne : m' = m
    · have := hseq (hne ▸ hord)
      rw [hne]
      omega
    · have := h.seq_lt m' j ((harrived m' hne j).1 hmem) hord
      omega
  moved := by rw [h.moved, map_append, map_singleton]
  complete := by
    intro m' hm'
    rcases mem_append.1 hm' with hm' | hm'
    · exact ⟨(h.complete m' hm').1, fun j hj => hsub ((h.complete m' hm').2 j hj)⟩
    · rw [mem_singleton.1 hm']
      exact ⟨hm, hall⟩
  nodup := by
    rw [← concat_eq_append]
    exact h.nodup.concat hnot
  seqs := by
    rw [orderedCount_concat, filter_append, map_append, h.seqs]
    cases hord : m.ordered with
    | true => simp [hord, range_succ, hseq hord]
    | false => simp [hord]
  expected := by rw [orderedCount_concat]; exact hexpected
  unordered := by
    intro m' hm' hord hall'
    by_cases hne : m' = m
    · simp [hne]
    · exact mem_append_left _
        (h.unordered m' hm' hord fun j hj => (harrived m' hne j).1 (hall' j hj))
  orderedQ := hordered
  unorderedQ := hunordered
  deliveryQ := by
    intro e he
    simp only [hdelivery] at he
    rcases mem_cons.1 ((SCTPQueue.insertEntry_perm _ _ _).mem_iff.1 he) with rfl | he
    · exact ⟨m, by simp, rfl⟩
    · obtain ⟨m', hm', hk⟩ := h.deliveryQ e he
      exact ⟨m', mem_append_left _ hm', hk⟩

/-- **The next ordered message** is taken out of its queue when it is complete. -/
theorem dequeueExpected (hmsgs : StreamMessages msgs) (h : Inv msgs s delivered) :
    (s.stream.dequeueExpected = none ∧ Stable msgs s.arrived delivered) ∨
      ∃ m stream, s.stream.dequeueExpected = some (stream, [m.whole]) ∧
        stream.orderedQ.length < s.stream.orderedQ.length ∧
        Inv msgs { s with stream := stream, moved := s.moved ++ [m.whole] } (delivered ++ [m]) := by
  rw [SCTPReceiveStream.dequeueExpected]
  cases hq : s.stream.orderedQ.dequeueChunkBySSN
    (BitVec.ofNat 16 s.stream.expectedStreamSeqNum) with
  | none =>
    refine .inl ⟨rfl, fun m hm hord hseq hall => ?_⟩
    have hget := (h.orderedQ.getChunk_iff (m.tsn 0) m.whole).2
      ⟨m, hm, hord, h.notMem_of_seq hord hseq, .inl ⟨hall, rfl, rfl⟩⟩
    refine SCTPQueue.dequeueChunkBySSN_eq_none hq hget ⟨?_, rfl, rfl⟩
    change BitVec.ofNat 16 m.seq = _
    rw [h.expected, hseq]
    exact (BitVec.toNat_inj.1 (by simp))
  | some found =>
    obtain ⟨c, q'⟩ := found
    obtain ⟨k, hget, hssn, hbbit, hebit, rfl⟩ :=
      SCTPQueue.dequeueChunkBySSN_eq_some h.orderedQ.distinct hq
    obtain ⟨m, hm, hord, hnot, hw⟩ := (h.orderedQ.getChunk_iff k c).1 hget
    have hvalid := hmsgs.valid m hm
    have hcomplete : Complete s.arrived m ∧ k = m.tsn 0 ∧ c = m.whole := by
      rcases hw with hw | ⟨hmissing, j, hj, rfl, rfl⟩
      · exact hw
      · -- a fragment that is a message of its own
        have hj0 : j = 0 := beq_iff_eq.1 hbbit
        have hone : j + 1 = m.size := beq_iff_eq.1 hebit
        refine absurd (fun j' hj' => ?_) hmissing
        rwa [show j' = j by omega]
    obtain ⟨hall, rfl, rfl⟩ := hcomplete
    have hseq : m.seq = orderedCount delivered := by
      have hge := h.le_seq hmsgs hm hord hnot
      have hlt := h.seq_lt m 0 (hall 0 hvalid.pos) hord
      have hmod := congrArg BitVec.toNat hssn
      change (BitVec.ofNat 16 m.seq).toNat = _ at hmod
      rw [h.expected, BitVec.toNat_ofNat, BitVec.toNat_ofNat] at hmod
      omega
    have hfree := h.deliveryQ_eq_none hmsgs hm hnot
    refine .inr ⟨m, _, ?_, ?_, h.deliver
      { s.stream with
        orderedQ := s.stream.orderedQ.eraseKey (m.tsn 0)
        deliveryQ := s.stream.deliveryQ.insertEntry (m.tsn 0) m.whole
        expectedStreamSeqNum := SCTPReceiveStream.nextSeqNum s.stream.expectedStreamSeqNum }
      s.arrived hm hnot h.fragments (fun _ hx => hx) (fun _ _ _ => Iff.rfl) hall
      (fun _ => hseq) rfl ?_ (h.orderedQ.erase hmsgs h.fragments hm hall) ?_⟩
    · dsimp only
      rw [show m.whole.tsn = m.tsn 0 from rfl, SCTPQueue.checkAndInsertChunk_of_none hfree]
    · exact SCTPQueue.length_eraseKey_lt (by rw [hget]; rfl)
    · change SCTPReceiveStream.nextSeqNum s.stream.expectedStreamSeqNum = _
      rw [SCTPReceiveStream.nextSeqNum, h.expected, hord]
      simp only [↓reduceIte]
      split_ifs <;> omega
    · exact h.unorderedQ.of_other hmsgs h.fragments h.fragments hm (by simp [hord])
        (fun _ _ _ => Iff.rfl) mem_concat_iff_of_ne

theorem dequeueExpected_of_empty {stream : SCTPReceiveStream}
    (h : ¬0 < stream.orderedQ.length) : stream.dequeueExpected = none := by
  rw [SCTPReceiveStream.dequeueExpected, length_eq_zero_iff.1 (Nat.eq_zero_of_not_pos h)]
  rfl

/-- **All ordered messages whose turn it is** are put into the delivery queue. -/
theorem putRounds (hmsgs : StreamMessages msgs) (h : Inv msgs s delivered) {n : ℕ}
    (hn : s.stream.orderedQ.length ≤ n) (acc : List SCTPDataVariables) :
    ∃ stream chunks delivered',
      SCTPReceiveStream.putRounds n s.stream acc = (stream, acc ++ chunks) ∧
        Inv msgs { s with stream := stream, moved := s.moved ++ chunks } delivered' ∧
        Stable msgs s.arrived delivered' := by
  induction n generalizing s delivered acc with
  | zero =>
    have hempty : ¬0 < s.stream.orderedQ.length := Nat.not_lt.2 hn
    rcases h.dequeueExpected hmsgs with ⟨-, hstable⟩ | ⟨m, stream, hsome, -, -⟩
    · refine ⟨s.stream, [], delivered, ?_, ?_, hstable⟩
      · rw [SCTPReceiveStream.putRounds, append_nil]
      · rw [append_nil]
        exact h
    · rw [dequeueExpected_of_empty hempty] at hsome
      cases hsome
  | succ n ih =>
    rcases h.dequeueExpected hmsgs with ⟨hnone, hstable⟩ | ⟨m, stream, hsome, hlen, hinv⟩
    · refine ⟨s.stream, [], delivered, ?_, ?_, hstable⟩
      · rw [SCTPReceiveStream.putRounds, hnone, append_nil, ite_self]
      · rw [append_nil]
        exact h
    · have hpos : 0 < s.stream.orderedQ.length := by omega
      obtain ⟨stream', chunks, delivered', hrounds, hinv', hstable⟩ :=
        ih hinv (Nat.le_of_lt_succ (hlen.trans_le hn)) (acc ++ [m.whole])
      refine ⟨stream', m.whole :: chunks, delivered', ?_, ?_, hstable⟩
      · rw [SCTPReceiveStream.putRounds, if_pos hpos, hsome, append_cons]
        exact hrounds
      · rw [append_cons]
        exact hinv'

theorem putInDeliveryQ (hmsgs : StreamMessages msgs) (h : Inv msgs s delivered) :
    ∃ stream chunks delivered', s.stream.putInDeliveryQ = (stream, chunks) ∧
      Inv msgs { s with stream := stream, moved := s.moved ++ chunks } delivered' ∧
      Stable msgs s.arrived delivered' := by
  exact h.putRounds hmsgs le_rfl []

/-! ### One event -/

/-- The fragment is among those that have arrived, and the queues hold what waits by now. -/
theorem arrive (stream : SCTPReceiveStream) (h : Inv msgs s delivered)
    (harr : Arrival msgs s.arrived delivered m i)
    (hseq : m.ordered = true → m.seq < orderedCount delivered + 2 ^ 16)
    (hmissing : m.ordered = false → ¬Complete ((m, i) :: s.arrived) m)
    (hdelivery : stream.deliveryQ = s.stream.deliveryQ)
    (hexpected : stream.expectedStreamSeqNum = s.stream.expectedStreamSeqNum)
    (hordered : Contents msgs ((m, i) :: s.arrived) delivered true stream.orderedQ)
    (hunordered : Contents msgs ((m, i) :: s.arrived) delivered false stream.unorderedQ) :
    Inv msgs { stream := stream, arrived := (m, i) :: s.arrived, moved := s.moved } delivered where
  fragments := harr.fragments h.fragments
  seq_lt := by
    intro m' j hmem hord
    rcases mem_cons.1 hmem with heq | hmem
    · cases heq
      exact hseq hord
    · exact h.seq_lt m' j hmem hord
  moved := h.moved
  complete := fun m' hm' =>
    ⟨(h.complete m' hm').1, fun j hj => mem_cons_of_mem _ ((h.complete m' hm').2 j hj)⟩
  nodup := h.nodup
  seqs := h.seqs
  expected := hexpected.trans h.expected
  unordered := by
    intro m' hm' hord hall
    by_cases hne : m' = m
    · exact absurd (hne ▸ hall) (hmissing (hne ▸ hord))
    · exact h.unordered m' hm' hord fun j hj => (harr.arrived_iff m' hne j).1 (hall j hj)
  orderedQ := hordered
  unorderedQ := hunordered
  deliveryQ := fun e he => h.deliveryQ e (hdelivery ▸ he)

/-- The queue of the message after the insertion of a fragment and the attempt to join it. -/
theorem reassembled {q : SCTPQueue} (hmsgs : StreamMessages msgs)
    (hA : Fragments msgs s.arrived) (harr : Arrival msgs s.arrived delivered m i)
    (hq : Contents msgs s.arrived delivered m.ordered q) (hsize : 1 < m.size)
    (hjoin : Complete ((m, i) :: s.arrived) m → m.Joinable) :
    ∃ q' tsn, reassemble (q.insertEntry (m.tsn i) (m.chunk i)) (m.tsn i) = .ok (q', tsn) ∧
      Contents msgs ((m, i) :: s.arrived) delivered m.ordered q' ∧
      (Complete ((m, i) :: s.arrived) m ∧ tsn = m.tsn 0 ∧ q'.getChunk tsn = some m.whole ∨
        ¬Complete ((m, i) :: s.arrived) m ∧ tsn = m.tsn i ∧
          q'.getChunk tsn = some (m.chunk i)) := by
  have hvalid := hmsgs.valid m harr.mem
  have hfree := harr.getChunk_eq_none hmsgs hA hq
  have hholds := harr.holdsFragments hmsgs hA hq
  by_cases hall : Complete ((m, i) :: s.arrived) m
  · obtain ⟨q', hcode, hdistinct, hwhole, hnone, hother⟩ :=
      reassemble_of_complete hvalid (hjoin hall) hsize (hq.distinct.insertEntry hfree) hholds hall
        harr.lt
    refine ⟨q', m.tsn 0, hcode, ?_, .inl ⟨hall, rfl, hwhole⟩⟩
    refine harr.contents_of_complete hmsgs hA hq hall hdistinct hwhole hnone fun k hk => ?_
    rw [hother k hk, SCTPQueue.getChunk_insert hfree, update_of_ne (hk i harr.lt)]
  · refine ⟨_, m.tsn i, reassemble_of_missing hvalid hholds hall harr.lt,
      harr.contents_of_missing hmsgs hA hq hall, .inr ⟨hall, rfl, ?_⟩⟩
    exact hholds.arrived i harr.lt mem_cons_self

/-- A message that is not cut has only one fragment. -/
theorem complete_of_size (harr : Arrival msgs s.arrived delivered m i) (hsize : m.size = 1) :
    i = 0 ∧ Complete ((m, i) :: s.arrived) m := by
  have hlt := harr.lt
  have hi : i = 0 := by omega
  refine ⟨hi, fun j hj => ?_⟩
  rw [show j = i by omega]
  exact mem_cons_self

/-- A chunk of an ordered message arrives. -/
theorem enqueueOrdered (hmsgs : StreamMessages msgs) (h : Inv msgs s delivered)
    (harr : Arrival msgs s.arrived delivered m i) (hord : m.ordered = true)
    (hseq : m.seq < orderedCount delivered + 2 ^ 16)
    (hjoin : 1 < m.size → Complete ((m, i) :: s.arrived) m → m.Joinable) :
    ∃ stream ret chunks delivered',
      s.stream.enqueueOrdered (m.chunk i) = .ok (stream, ret, chunks) ∧
        Inv msgs { stream := stream, arrived := (m, i) :: s.arrived, moved := s.moved ++ chunks }
          delivered' ∧
        (ret = 2 ∨ Stable msgs ((m, i) :: s.arrived) delivered') := by
  have hvalid := hmsgs.valid m harr.mem
  have hq : Contents msgs s.arrived delivered m.ordered s.stream.orderedQ := hord ▸ h.orderedQ
  have hfree := harr.getChunk_eq_none hmsgs h.fragments hq
  have hinsert : s.stream.orderedQ.checkAndInsertChunk (m.chunk i).tsn (m.chunk i) =
      (s.stream.orderedQ.insertEntry (m.tsn i) (m.chunk i), true) :=
    SCTPQueue.checkAndInsertChunk_of_none hfree
  -- the ordered queue before the next message is looked for
  have hqueue : ∃ q, SCTPReceiveStream.reassembleFragment
        (s.stream.orderedQ.insertEntry (m.tsn i) (m.chunk i)) (m.chunk i) = .ok q ∧
      Contents msgs ((m, i) :: s.arrived) delivered m.ordered q := by
    rw [SCTPReceiveStream.reassembleFragment]
    rcases Nat.eq_or_lt_of_le (Nat.succ_le_of_lt hvalid.pos) with hone | hsize
    · obtain ⟨rfl, hall⟩ := complete_of_size harr hone.symm
      have hbits : (!(m.chunk 0).bbit || !(m.chunk 0).ebit) = false := by
        rw [← UserMessage.whole_eq_chunk hone.symm]
        rfl
      rw [hbits, if_neg Bool.false_ne_true]
      refine ⟨_, rfl, harr.contents_of_complete hmsgs h.fragments hq hall
        (hq.distinct.insertEntry hfree) ?_ (fun j hj hj' => by omega) fun k hk => ?_⟩
      · rw [SCTPQueue.getChunk_insert hfree, update_self, UserMessage.whole_eq_chunk hone.symm]
      · rw [SCTPQueue.getChunk_insert hfree, update_of_ne (hk 0 harr.lt)]
    · obtain ⟨q', tsn, hcode, hcontents, -⟩ :=
        reassembled hmsgs h.fragments harr hq hsize (hjoin hsize)
      have hbits : (!(m.chunk i).bbit || !(m.chunk i).ebit) = true := by
        rw [Bool.or_eq_true, Bool.not_eq_true', Bool.not_eq_true']
        by_cases hi : i = 0
        · exact .inr (beq_eq_false_iff_ne.2 (by omega))
        · exact .inl (beq_eq_false_iff_ne.2 hi)
      rw [hbits, if_pos rfl, show (m.chunk i).tsn = m.tsn i from rfl, hcode]
      exact ⟨q', rfl, hcontents⟩
  obtain ⟨q, hcode, hcontents⟩ := hqueue
  have hinv := h.arrive { s.stream with orderedQ := q } harr (fun _ => hseq)
    (fun hunord => absurd hord (by simp [hunord])) rfl rfl (hord ▸ hcontents)
    (h.unorderedQ.of_other hmsgs h.fragments (harr.fragments h.fragments) harr.mem (by simp [hord])
      harr.arrived_iff fun _ _ => Iff.rfl)
  have hrun : s.stream.enqueueOrdered (m.chunk i) =
      .ok (SCTPReceiveStream.deliverNext { s.stream with orderedQ := q }
        (if !(m.chunk i).bbit || !(m.chunk i).ebit then 3 else 1)) := by
    rw [SCTPReceiveStream.enqueueOrdered, hinsert]
    simp only [hcode, ok_bind, ↓reduceIte]
  rw [hrun, SCTPReceiveStream.deliverNext]
  rcases hinv.dequeueExpected hmsgs with ⟨hnone, hstable⟩ | ⟨m', stream, hsome, hlen, hinv'⟩
  · rw [hnone, ite_self]
    refine ⟨_, _, _, delivered, rfl, ?_, .inr hstable⟩
    rw [append_nil]
    exact hinv
  · have hpos : 0 < q.length := lt_of_le_of_lt (Nat.zero_le _) hlen
    rw [if_pos hpos, hsome]
    exact ⟨_, _, _, delivered ++ [m'], rfl, hinv', .inl rfl⟩

/-- A chunk of an unordered message arrives. -/
theorem enqueueUnordered (hmsgs : StreamMessages msgs) (h : Inv msgs s delivered)
    (hstable : Stable msgs s.arrived delivered) (harr : Arrival msgs s.arrived delivered m i)
    (hunord : m.ordered = false)
    (hjoin : 1 < m.size → Complete ((m, i) :: s.arrived) m → m.Joinable)
    (hlast : i = 0 → Complete ((m, i) :: s.arrived) m) :
    ∃ stream ret chunks delivered',
      s.stream.enqueueUnordered (m.chunk i) = .ok (stream, ret, chunks) ∧
        Inv msgs { stream := stream, arrived := (m, i) :: s.arrived, moved := s.moved ++ chunks }
          delivered' ∧
        (ret = 2 ∨ Stable msgs ((m, i) :: s.arrived) delivered') := by
  have hvalid := hmsgs.valid m harr.mem
  have hq : Contents msgs s.arrived delivered m.ordered s.stream.unorderedQ := hunord ▸ h.unorderedQ
  have hordered : Contents msgs ((m, i) :: s.arrived) delivered true s.stream.orderedQ :=
    h.orderedQ.of_other hmsgs h.fragments (harr.fragments h.fragments) harr.mem (by simp [hunord])
      harr.arrived_iff fun _ _ => Iff.rfl
  have hordered' : Contents msgs ((m, i) :: s.arrived) (delivered ++ [m]) true
      s.stream.orderedQ :=
    h.orderedQ.of_other hmsgs h.fragments (harr.fragments h.fragments) harr.mem (by simp [hunord])
      harr.arrived_iff mem_concat_iff_of_ne
  have hexpected : s.stream.expectedStreamSeqNum =
      (orderedCount delivered + if m.ordered then 1 else 0) % 2 ^ 16 := by
    rw [hunord]
    exact h.expected
  have hfree := h.deliveryQ_eq_none hmsgs harr.mem harr.notMem
  rw [SCTPReceiveStream.enqueueUnordered]
  rcases Nat.eq_or_lt_of_le (Nat.succ_le_of_lt hvalid.pos) with hone | hsize
  · -- the chunk is the whole message
    obtain ⟨rfl, hall⟩ := complete_of_size harr hone.symm
    rw [← UserMessage.whole_eq_chunk hone.symm, if_pos ⟨rfl, rfl⟩,
      show m.whole.tsn = m.tsn 0 from rfl, SCTPQueue.checkAndInsertChunk_of_none hfree]
    refine ⟨_, _, _, delivered ++ [m], rfl, h.deliver _ _ harr.mem harr.notMem
      (harr.fragments h.fragments) (subset_cons_self _ _) harr.arrived_iff hall
      (fun hord => by simp [hunord] at hord) rfl hexpected hordered' ?_, .inl rfl⟩
    -- nothing of the message has waited before
    refine h.unorderedQ.update hmsgs h.fragments (harr.fragments h.fragments) harr.mem
      harr.arrived_iff mem_concat_iff_of_ne h.unorderedQ.distinct (fun _ _ => rfl) fun j hj c => ?_
    rw [show j = 0 by omega, harr.getChunk_eq_none hmsgs h.fragments hq]
    exact iff_of_false (fun heq => by cases heq) fun hw => hw.2.1 (by simp)
  · have hbits : ¬((m.chunk i).bbit = true ∧ (m.chunk i).ebit = true) := by
      rintro ⟨hbbit, hebit⟩
      have hi : i = 0 := beq_iff_eq.1 hbbit
      have hone : i + 1 = m.size := beq_iff_eq.1 hebit
      omega
    obtain ⟨q, tsn, hcode, hcontents, hcases⟩ :=
      reassembled hmsgs h.fragments harr hq hsize (hjoin hsize)
    rw [if_neg hbits, show (m.chunk i).tsn = m.tsn i from rfl,
      SCTPQueue.checkAndInsertChunk_of_none (harr.getChunk_eq_none hmsgs h.fragments hq), hcode]
    simp only [ok_bind]
    rcases hcases with ⟨hall, rfl, hget⟩ | ⟨hmissing, rfl, hget⟩
    · have hextract : q.getAndExtractChunk (m.tsn 0) = some (m.whole, q.eraseKey (m.tsn 0)) := by
        rw [SCTPQueue.getAndExtractChunk, hget]
        rfl
      simp only [hget, hextract, SCTPQueue.checkAndInsertChunk_of_none hfree]
      rw [if_pos ⟨rfl, rfl⟩]
      refine ⟨_, _, _, delivered ++ [m], rfl, h.deliver _ _ harr.mem harr.notMem
        (harr.fragments h.fragments) (subset_cons_self _ _) harr.arrived_iff hall
        (fun hord => by simp [hunord] at hord) rfl hexpected hordered' ?_, .inl rfl⟩
      have herased := hcontents.erase hmsgs (harr.fragments h.fragments) harr.mem hall
      exact hunord ▸ herased
    · have hi : i ≠ 0 := fun hzero => hmissing (hlast hzero)
      have hbbit : (m.chunk i).bbit = false := beq_eq_false_iff_ne.2 hi
      simp only [hget, hbbit, Bool.false_eq_true, and_self, ↓reduceIte]
      refine ⟨_, _, _, delivered, rfl, ?_, .inr fun m' hm' hord hseq hall => ?_⟩
      · rw [append_nil]
        exact h.arrive _ harr (fun hord => by simp [hunord] at hord) (fun _ => hmissing) rfl rfl
          hordered (hunord ▸ hcontents)
      · have hne : m' ≠ m := fun heq => by simp [heq, hunord] at hord
        exact hstable m' hm' hord hseq fun j hj => (harr.arrived_iff m' hne j).1 (hall j hj)

/-- The application takes a message out of the delivery queue. -/
theorem extractMessage (h : Inv msgs s delivered) :
    Inv msgs { s with stream := s.stream.extractMessage } delivered := by
  cases hq : s.stream.deliveryQ with
  | nil =>
    rw [SCTPReceiveStream.extractMessage, hq]
    exact h
  | cons e q =>
    have hrest : ∀ e' ∈ q, ∃ m ∈ delivered, e'.1 = m.tsn 0 := fun e' he' =>
      h.deliveryQ e' (hq ▸ mem_cons_of_mem _ he')
    rw [SCTPReceiveStream.extractMessage, hq]
    exact { h with deliveryQ := hrest }

end Inv

namespace ReceiveRun

/-- What holds in every state of a run. -/
def Good (msgs : List UserMessage) (s : ReceiveRun) : Prop :=
  ∃ delivered, Inv msgs s delivered ∧ Stable msgs s.arrived delivered

theorem deliveredOrdered_eq (h : Inv msgs s delivered) :
    s.deliveredOrdered = orderedCount delivered := by
  rw [deliveredOrdered, h.moved, filter_map, length_map]
  rfl

section

variable (hmsgs : StreamMessages msgs)
include hmsgs

/-- **Every legal event** that stays clear of what the code does not handle succeeds and preserves
the invariant. -/
theorem step_good {e : StreamEvent} (h : s.Good msgs) (hlegal : s.Legal msgs e) (hmeets : s.Meets e)
    :
    ∃ s', s.step e = .ok s' ∧ s'.Good msgs := by
  obtain ⟨delivered, hinv, hstable⟩ := h
  cases e with
  | dataArrived m i =>
    obtain ⟨hm, hi, hnew⟩ := hlegal
    obtain ⟨hjoin, hlast, hseq⟩ := hmeets
    have harr : Arrival msgs s.arrived delivered m i :=
      ⟨hm, hi, hnew, fun hdel => hnew ((hinv.complete m hdel).2 i hi)⟩
    have henqueue : ∃ stream ret chunks delivered',
        s.stream.enqueueNewDataChunk (m.chunk i) = .ok (stream, ret, chunks) ∧
          Inv msgs { stream := stream, arrived := (m, i) :: s.arrived,
                     moved := s.moved ++ chunks } delivered' ∧
          (ret = 2 ∨ Stable msgs ((m, i) :: s.arrived) delivered') := by
      rw [SCTPReceiveStream.enqueueNewDataChunk, show (m.chunk i).ordered = m.ordered from rfl]
      cases hord : m.ordered with
      | true =>
        rw [if_pos rfl]
        exact hinv.enqueueOrdered hmsgs harr hord (deliveredOrdered_eq hinv ▸ hseq hord) hjoin
      | false =>
        rw [if_neg Bool.false_ne_true]
        exact hinv.enqueueUnordered hmsgs hstable harr hord hjoin (hlast hord)
    obtain ⟨stream, ret, chunks, delivered', hcode, hinv', hret⟩ := henqueue
    rw [step, SCTPReceiveStream.processDataArrived, hcode]
    simp only [ok_bind]
    by_cases hput : 0 < ret ∧ ret < 3
    · obtain ⟨stream', chunks', delivered'', hcode', hinv'', hstable'⟩ :=
        hinv'.putInDeliveryQ hmsgs
      rw [if_pos hput]
      simp only at hcode'
      rw [hcode']
      simp only [ok_bind]
      refine ⟨_, rfl, delivered'', ?_, hstable'⟩
      rw [← append_assoc]
      exact hinv''
    · rw [if_neg hput, ok_bind]
      exact ⟨_, rfl, delivered', hinv', hret.resolve_left fun heq => hput (by omega)⟩
  | putInDeliveryQ =>
    obtain ⟨stream, chunks, delivered', hcode, hinv', hstable'⟩ := hinv.putInDeliveryQ hmsgs
    rw [step, hcode]
    exact ⟨_, rfl, delivered', hinv', hstable'⟩
  | extractMessage => exact ⟨_, rfl, delivered, hinv.extractMessage, hstable⟩

theorem not_complete_nil (hm : m ∈ msgs) : ¬Complete [] m :=
  fun hall => not_mem_nil (hall 0 (hmsgs.valid m hm).pos)

theorem good_initial : Good msgs {} := by
  have hempty : ∀ b, Contents msgs [] [] b [] := by
    intro b
    refine ⟨nodup_nil, fun k c => iff_of_false (fun hc => by cases hc) ?_⟩
    rintro ⟨m, hm, -, -, ⟨hall, -⟩ | ⟨-, i, hi, -⟩⟩
    · exact not_complete_nil hmsgs hm hall
    · cases hi
  refine ⟨[], ?_, fun m hm _ _ hall => not_complete_nil hmsgs hm hall⟩
  exact
    { fragments := fun m i hmem => by cases hmem
      seq_lt := fun m i hmem => by cases hmem
      moved := rfl
      complete := fun m hm => by cases hm
      nodup := nodup_nil
      seqs := rfl
      expected := rfl
      unordered := fun m hm _ hall => absurd hall (not_complete_nil hmsgs hm)
      orderedQ := hempty true
      unorderedQ := hempty false
      deliveryQ := fun e he => by cases he }

theorem Good.delivers (h : s.Good msgs) : s.Delivers msgs := by
  obtain ⟨delivered, hinv, hstable⟩ := h
  refine ⟨fun c hc => ?_, ?_, ?_, fun m hm hord hall => ?_, fun m hm hord hbefore => ?_⟩
  · rw [hinv.moved] at hc
    obtain ⟨m, hm, rfl⟩ := mem_map.1 hc
    exact ⟨m, (hinv.complete m hm).1, (hinv.complete m hm).2, rfl⟩
  · rw [hinv.moved]
    refine List.Nodup.map_on (fun m hm m' hm' heq => ?_) hinv.nodup
    have hmem := (hinv.complete m hm).1
    have hmem' := (hinv.complete m' hm').1
    exact hmsgs.eq_of_tsn m hmem m' hmem' 0 (hmsgs.valid m hmem).pos 0
      (hmsgs.valid m' hmem').pos (congrArg SCTPDataVariables.tsn heq)
  · refine ⟨delivered.filter fun m => m.ordered, fun m hm => ?_, hinv.seqs, ?_⟩
    · exact (hinv.complete m (mem_filter.1 hm).1).1
    · rw [hinv.moved, filter_map]
      rfl
  · rw [hinv.moved]
    exact mem_map_of_mem (hinv.unordered m hm hord hall)
  · rw [hinv.moved]
    refine mem_map_of_mem (by_contra fun hnot => ?_)
    -- the message that is expected next comes no later, and so it would be complete
    rcases Nat.eq_or_lt_of_le (hinv.le_seq hmsgs hm hord hnot) with heq | hlt
    · exact hstable m hm hord heq.symm (hbefore m hm hord le_rfl)
    · obtain ⟨m', hm', hord', hseq'⟩ := hmsgs.consecutive m hm hord _ hlt
      exact hstable m' hm' hord' hseq' (hbefore m' hm' hord' (hseq' ▸ hlt.le))

end

/-- **In every run whose arrivals stay clear of what the code does not handle**, the messages are
put into the delivery queue as they should be, and every further arrival of this kind is
processed without a fault. -/
theorem run_delivers (hmsgs : StreamMessages msgs) {es : List StreamEvent}
    (h : Trace.Run step (fun s e => s.Legal msgs e ∧ s.Meets e) {} es s) :
    s.Delivers msgs ∧ ∀ e, s.Legal msgs e → s.Meets e → ∃ s', s.step e = .ok s' := by
  have hgood : s.Good msgs := h.invariant (fun s e s' hs hP hstep => by
    obtain ⟨t, ht, hgood⟩ := step_good hmsgs hs hP.1 hP.2
    rw [hstep] at ht
    cases ht
    exact hgood) (good_initial hmsgs)
  refine ⟨hgood.delivers hmsgs, fun e hlegal hmeets => ?_⟩
  obtain ⟨s', hs', -⟩ := step_good hmsgs hgood hlegal hmeets
  exact ⟨s', hs'⟩

/-- An ordered message of two fragments, of which the second one arrives first. -/
theorem run_delivers_sample :
    ∃ s : ReceiveRun, s.moved = [UserMessage.whole ⟨true, 0, 10, [[1], [2, 3]]⟩] ∧
      s.Delivers [⟨true, 0, 10, [[1], [2, 3]]⟩] := by
  have hmsgs : StreamMessages [⟨true, 0, 10, [[1], [2, 3]]⟩] :=
    ⟨fun m' hm' => mem_singleton.1 hm' ▸ ⟨by decide, by decide, by decide⟩, by decide,
      by decide, by decide⟩
  obtain ⟨s, hrun, hmoved⟩ : ∃ s, Trace.Run step
      (fun s e => s.Legal [⟨true, 0, 10, [[1], [2, 3]]⟩] e ∧ s.Meets e) {}
      [.dataArrived ⟨true, 0, 10, [[1], [2, 3]]⟩ 1, .dataArrived ⟨true, 0, 10, [[1], [2, 3]]⟩ 0] s ∧
        s.moved = [UserMessage.whole ⟨true, 0, 10, [[1], [2, 3]]⟩] :=
    Trace.exists_run_of_exec (by decide +kernel)
  exact ⟨s, hmoved, (run_delivers hmsgs hrun).1⟩

/-- **Not every message is delivered whole**: the first fragment of an unordered message is put
into the delivery queue by itself when it arrives before the others. -/
theorem not_delivers : ¬∀ msgs : List UserMessage, StreamMessages msgs →
    ∀ (es : List StreamEvent) (s : ReceiveRun),
      Trace.Run step (Legal msgs) {} es s → s.Delivers msgs := by
  intro h
  let m : UserMessage := ⟨false, 0, 10, [[1], [2]]⟩
  have hmsgs : StreamMessages [m] :=
    ⟨fun m' hm' => mem_singleton.1 hm' ▸ ⟨by decide, by decide, by decide⟩, by decide,
      by decide, by decide⟩
  have hrun := h [m] hmsgs [.dataArrived m 0] _
    (.cons ⟨by decide, by decide, by decide⟩ rfl (.nil _))
  obtain ⟨m', hm', hall, -⟩ := hrun.whole (m.chunk 0) (by decide)
  rw [mem_singleton.1 hm'] at hall
  exact absurd (hall 1 (by decide)) (by decide)

end ReceiveRun

end Steps

end SCTP

end Hiwis
