import Hiwis.Sctp.SendStreams

/-!
# Cutting up messages

What the queues of a send stream hold: messages that are pending, the first of them perhaps cut up
and partly gone.

* `SCTP.fragmentsFrom_eq` : the fragments of a message, one after the other;
* `SCTP.Holds.fragmentFront` : cutting up a message changes nothing of what is pending;
* `SCTP.Holds.takeFront` : what is taken from a queue is the next part of the first message.
-/

namespace Hiwis

open List

namespace SCTP

/-! ### The loop over the fragments -/

section Loop

variable {cfg : SendConfig} {msg : SCTPDataMsg} {offset : ℕ}

theorem SendConfig.msgbytes_eq (cfg : SendConfig) :
    cfg.msgbytes + 48 = cfg.assocPmtu ∧ 0 < cfg.msgbytes := by
  have := cfg.large
  simp only [SendConfig.msgbytes, ipHeaderLength, commonHeader, dataChunkLength] at this ⊢
  omega

/-- The fragments from the offset on. -/
def fragmentsFrom (cfg : SendConfig) (msg : SCTPDataMsg) (offset : ℕ) : List SCTPDataMsg :=
  fragmentLoop cfg msg (msg.byteLength - offset) offset

theorem fragmentAt_byteLength :
    (fragmentAt cfg msg offset).byteLength = min cfg.msgbytes (msg.byteLength - offset) := rfl

theorem ebit_fragmentAt : (fragmentAt cfg msg offset).ebit = true ↔
    offset + (fragmentAt cfg msg offset).byteLength = msg.byteLength := decide_eq_true_iff

theorem bbit_fragmentAt : (fragmentAt cfg msg offset).bbit = true ↔ offset = 0 := decide_eq_true_iff

theorem byteLength_fragmentAt (cfg : SendConfig) (h : offset < msg.byteLength) :
    0 < (fragmentAt cfg msg offset).byteLength ∧
      offset + (fragmentAt cfg msg offset).byteLength ≤ msg.byteLength := by
  have := cfg.msgbytes_eq
  rw [fragmentAt_byteLength]
  omega

/-- More rounds than bytes change nothing. -/
theorem fragmentLoop_rounds {m n : ℕ} (h : offset < msg.byteLength)
    (hm : msg.byteLength - offset ≤ m) (hn : msg.byteLength - offset ≤ n) :
    fragmentLoop cfg msg m offset = fragmentLoop cfg msg n offset := by
  induction m generalizing n offset with
  | zero => omega
  | succ m ih =>
    cases n with
    | zero => omega
    | succ n =>
      obtain ⟨hpos, hle⟩ := byteLength_fragmentAt cfg h
      rw [fragmentLoop, fragmentLoop]
      by_cases hebit : (fragmentAt cfg msg offset).ebit = true
      · rw [if_pos hebit, if_pos hebit]
      · have hlt := lt_of_le_of_ne hle fun heq => hebit (ebit_fragmentAt.2 heq)
        rw [if_neg hebit, if_neg hebit, ih (n := n) hlt (by omega) (by omega)]

theorem fragmentsFrom_eq (h : offset < msg.byteLength) :
    fragmentsFrom cfg msg offset = fragmentAt cfg msg offset ::
      if (fragmentAt cfg msg offset).ebit then []
      else fragmentsFrom cfg msg (offset + (fragmentAt cfg msg offset).byteLength) := by
  obtain ⟨rounds, hrounds⟩ := Nat.exists_eq_succ_of_ne_zero (Nat.sub_ne_zero_of_lt h)
  obtain ⟨hpos, hle⟩ := byteLength_fragmentAt cfg h
  rw [fragmentsFrom, hrounds, fragmentLoop]
  by_cases hebit : (fragmentAt cfg msg offset).ebit = true
  · rw [if_pos hebit, if_pos hebit]
  · have hlt := lt_of_le_of_ne hle fun heq => hebit (ebit_fragmentAt.2 heq)
    rw [if_neg hebit, if_neg hebit, fragmentsFrom, fragmentLoop_rounds hlt (by omega) le_rfl]

/-- The offsets of the fragments are multiples of the size of a full one. -/
theorem dvd_offset (hlt : offset < msg.byteLength) (h : cfg.msgbytes ∣ offset)
    (hebit : (fragmentAt cfg msg offset).ebit = false) :
    cfg.msgbytes ∣ offset + (fragmentAt cfg msg offset).byteLength := by
  have hne : offset + (fragmentAt cfg msg offset).byteLength ≠ msg.byteLength := fun heq => by
    rw [ebit_fragmentAt.2 heq] at hebit
    cases hebit
  rw [fragmentAt_byteLength] at hne ⊢
  by_cases hle : cfg.msgbytes ≤ msg.byteLength - offset
  · rw [min_eq_left hle]
    exact Nat.dvd_add h dvd_rfl
  · omega

theorem chunkLength_of_le (cfg : SendConfig) {n : ℕ} (h : n ≤ cfg.msgbytes) :
    chunkLength n = addPadding (n + dataChunkLength) := by
  have hcfg := cfg.msgbytes_eq
  have := cfg.int32
  have hbound : addPadding (n + dataChunkLength) < 2 ^ 31 := by
    simp only [addPadding, dataChunkLength]
    omega
  unfold chunkLength toInt32
  refine Int.bmod_eq_of_le_mul_two ?_ ?_
  · push_cast
    omega
  · push_cast
    omega

/-- A full fragment is not cut up again, when the padding of a chunk does not exceed the path's
limit. -/
theorem chunkLength_le {n : ℕ} (hdvd : 4 ∣ cfg.assocPmtu) (h : n ≤ cfg.msgbytes) :
    chunkLength n ≤ cfg.maxChunk := by
  have hcfg := cfg.msgbytes_eq
  rw [chunkLength_of_le cfg h, SendConfig.maxChunk]
  simp only [addPadding, ipHeaderLength, commonHeader, dataChunkLength]
  omega

end Loop

/-! ### The queues -/

/-- A message as the application sends it. -/
structure SCTPDataMsg.Whole (cfg : SendConfig) (m : SCTPDataMsg) : Prop where
  bbit : m.bbit = false
  ebit : m.ebit = false
  fragment : m.fragment = false
  booksize : m.booksize = cfg.booksize m.byteLength
  /-- It need not be cut up, or its fragments will not be cut up again and the scheduler leaves
  its choice. -/
  cut : m.byteLength ≤ cfg.msgbytes ∨ 4 ∣ cfg.assocPmtu ∧ cfg.storesSid = true

/-- The queue holds the pending messages, of the first of which `offset` bytes are gone. -/
inductive Holds (cfg : SendConfig) : List SCTPDataMsg → List SCTPDataMsg → ℕ → Prop
  | whole (pending : List SCTPDataMsg) : Holds cfg pending pending 0
  | cutUp (m : SCTPDataMsg) (pending : List SCTPDataMsg) (offset : ℕ) :
      offset < m.byteLength → cfg.msgbytes ∣ offset →
      Holds cfg (fragmentsFrom cfg m offset ++ pending) (m :: pending) offset

/-- The message or fragment `d` is what comes next of the message `m`. -/
structure Part (cfg : SendConfig) (m : SCTPDataMsg) (offset : ℕ) (d : SCTPDataMsg) : Prop where
  msgNum : d.msgNum = m.msgNum
  sid : d.sid = m.sid
  ordered : d.ordered = m.ordered
  bbit : d.bbit = true ↔ offset = 0
  ebit : d.ebit = true ↔ offset + d.byteLength = m.byteLength
  le : offset + d.byteLength ≤ m.byteLength
  more : d.ebit = false → 0 < d.byteLength ∧ cfg.msgbytes < m.byteLength

section Queue

variable {cfg : SendConfig} {m d : SCTPDataMsg} {q pending : List SCTPDataMsg} {offset : ℕ}

theorem Holds.concat (h : Holds cfg q pending offset) (d : SCTPDataMsg) :
    Holds cfg (q ++ [d]) (pending ++ [d]) offset := by
  cases h with
  | whole => exact .whole _
  | cutUp m pending offset hlt hdvd =>
    rw [append_assoc]
    exact .cutUp m _ offset hlt hdvd

/-- A message of which something is gone has a fragment that is not the first one in front. -/
theorem Holds.head (h : Holds cfg q pending offset) (hpos : 0 < offset) :
    ∃ d q', q = d :: q' ∧ d.fragment = true ∧ d.bbit = false := by
  cases h with
  | whole => exact absurd hpos (lt_irrefl 0)
  | cutUp m pending offset hlt hdvd =>
    refine ⟨_, _, by rw [fragmentsFrom_eq hlt]; rfl, rfl, ?_⟩
    rw [← Bool.not_eq_true, bbit_fragmentAt]
    exact hpos.ne'

theorem part_fragmentAt (cfg : SendConfig) (hlt : offset < m.byteLength) :
    Part cfg m offset (fragmentAt cfg m offset) where
  msgNum := rfl
  sid := rfl
  ordered := rfl
  bbit := bbit_fragmentAt
  ebit := ebit_fragmentAt
  le := (byteLength_fragmentAt cfg hlt).2
  more hebit := by
    refine ⟨(byteLength_fragmentAt cfg hlt).1, ?_⟩
    have hne : offset + (fragmentAt cfg m offset).byteLength ≠ m.byteLength := fun heq => by
      rw [ebit_fragmentAt.2 heq] at hebit
      cases hebit
    have := cfg.msgbytes_eq
    rw [fragmentAt_byteLength] at hne
    omega

/-- A message that fits into one fragment is cut into that one only, and not again. -/
theorem fragments_single (hlt : 0 < m.byteLength) (hle : m.byteLength ≤ cfg.msgbytes) :
    fragmentsFrom cfg m 0 = [fragmentAt cfg m 0] ∧
      fragments cfg (fragmentAt cfg m 0) = [fragmentAt cfg m 0] := by
  have hlen : (fragmentAt cfg m 0).byteLength = m.byteLength := by
    rw [fragmentAt_byteLength, Nat.sub_zero, min_eq_right hle]
  have hebit : (fragmentAt cfg m 0).ebit = true := by
    rw [ebit_fragmentAt, Nat.zero_add, hlen]
  have hagain : fragmentAt cfg (fragmentAt cfg m 0) 0 = fragmentAt cfg m 0 := by
    simp [fragmentAt, hle]
  refine ⟨by rw [fragmentsFrom_eq hlt, if_pos hebit], ?_⟩
  have hfrom : fragments cfg (fragmentAt cfg m 0) = fragmentsFrom cfg (fragmentAt cfg m 0) 0 := rfl
  rw [hfrom, fragmentsFrom_eq (hlen.symm ▸ hlt), hagain, if_pos hebit]

/-- Cutting up the first message leaves the same messages pending. -/
theorem Holds.fragmentFront (h : Holds cfg q pending offset)
    (hwhole : ∀ m ∈ pending, m.Whole cfg) :
    Holds cfg (SCTP.fragmentFront cfg q).1 pending offset := by
  cases h with
  | whole =>
    cases q with
    | nil => exact .whole []
    | cons m pending =>
      rw [SCTP.fragmentFront]
      split_ifs with hlong
      · have hpos : 0 < m.byteLength := by
          by_contra hzero
          have hcfg := cfg.msgbytes_eq
          rw [Nat.eq_zero_of_not_pos hzero, chunkLength_of_le cfg (Nat.zero_le _),
            SendConfig.maxChunk] at hlong
          simp only [addPadding, ipHeaderLength, commonHeader, dataChunkLength] at hlong
          omega
        exact .cutUp m pending 0 hpos (dvd_zero _)
      · exact .whole _
  | cutUp m pending offset hlt hdvd =>
    have hcut := (hwhole m mem_cons_self).cut
    rw [fragmentsFrom_eq hlt, cons_append, SCTP.fragmentFront]
    by_cases hlong : cfg.maxChunk < chunkLength (fragmentAt cfg m offset).byteLength
    · -- this can only be the one fragment of a message
      rw [if_pos hlong]
      have hle : m.byteLength ≤ cfg.msgbytes := by
        refine hcut.resolve_right fun hdvd4 => ?_
        refine absurd (chunkLength_le hdvd4.1 ?_) (not_le.2 hlong)
        rw [fragmentAt_byteLength]
        exact min_le_left _ _
      obtain rfl : offset = 0 := Nat.eq_zero_of_dvd_of_lt hdvd (hlt.trans_le hle)
      obtain ⟨hone, hagain⟩ := fragments_single hlt hle
      have hnil := hone
      rw [fragmentsFrom_eq hlt, cons_inj_right] at hnil
      rw [hnil, hagain]
      have := Holds.cutUp m pending 0 hlt (dvd_zero cfg.msgbytes)
      rwa [hone] at this
    · rw [if_neg hlong]
      have := Holds.cutUp m pending offset hlt hdvd
      rwa [fragmentsFrom_eq hlt] at this

/-- What taking the first message of a queue does. -/
inductive Taken (cfg : SendConfig) (pending : List SCTPDataMsg) (offset : ℕ) (flag : Bool) :
    List SCTPDataMsg × Bool × Option SCTPDataMsg → Prop
  | nothing (q : List SCTPDataMsg) (flag' : Bool) :
      Holds cfg q pending offset → (flag = true → flag' = true) →
      Taken cfg pending offset flag (q, flag', none)
  | last (m d : SCTPDataMsg) (rest : List SCTPDataMsg) : pending = m :: rest →
      Part cfg m offset d → d.ebit = true → Taken cfg pending offset flag (rest, false, some d)
  | more (m d : SCTPDataMsg) (q rest : List SCTPDataMsg) : pending = m :: rest →
      Part cfg m offset d → d.ebit = false → Holds cfg q pending (offset + d.byteLength) →
      Taken cfg pending offset flag (q, true, some d)

theorem Holds.takeFront (h : Holds cfg q pending offset) (flag : Bool) (space cwnd : ℤ)
    (hwhole : ∀ m ∈ pending, m.Whole cfg) :
    Taken cfg pending offset flag (SCTP.takeFront cfg q flag space cwnd) := by
  have hfront := h.fragmentFront hwhole
  rw [SCTP.takeFront]
  generalize hcut : SCTP.fragmentFront cfg q = front at hfront
  obtain ⟨q', wasCutUp⟩ := front
  dsimp only at hfront
  cases q' with
  | nil => exact .nothing [] flag hfront id
  | cons d q' =>
    dsimp only
    by_cases hfits : chunkLength d.byteLength ≤ space ∧ toInt32 d.booksize ≤ cwnd
    · rw [if_pos hfits]
      generalize hq : d :: q' = front at hfront
      cases hfront with
      | whole =>
        subst hq
        have hd := hwhole d mem_cons_self
        rw [hd.fragment, if_neg Bool.false_ne_true]
        exact .last d _ q' rfl ⟨rfl, rfl, rfl, by simp, by simp, by simp, by simp⟩ rfl
      | cutUp m pending offset hlt hdvd =>
        rw [fragmentsFrom_eq hlt, cons_append, List.cons.injEq] at hq
        obtain ⟨rfl, rfl⟩ := hq
        have hfragment : (fragmentAt cfg m offset).fragment = true := rfl
        have hpart := part_fragmentAt cfg hlt
        rw [if_pos hfragment]
        cases hebit : (fragmentAt cfg m offset).ebit with
        | true => exact .last m _ pending rfl hpart hebit
        | false =>
          refine .more m _ _ pending rfl hpart hebit
            (.cutUp m pending _ ?_ (dvd_offset hlt hdvd hebit))
          refine lt_of_le_of_ne hpart.le fun heq => ?_
          rw [hpart.ebit.2 heq] at hebit
          cases hebit
    · rw [if_neg hfits]
      exact .nothing _ _ hfront fun hflag => by rw [hflag, Bool.true_or]

end Queue

end SCTP

end Hiwis
