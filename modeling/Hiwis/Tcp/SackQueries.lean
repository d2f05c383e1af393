import Hiwis.Tcp.SackRexmitQueue

/-!
# What the scoreboard is asked

The functions of `TCPSACKRexmitQueue` that look up and count octets, and `TCPConnection::isLost`,
against what they say about the flags of the single octets.

* `Spans.queries` : each walk over the regions counts or finds the octets that it is to count or
  find;
* `isLost_antitone` : below an octet that is lost all octets are.
-/

namespace Hiwis

open List Bool TCPSACKRexmitQueue

namespace TCPSACKRexmitQueue

/-! ### The walks over the regions -/

section

variable (q : TCPSACKRexmitQueue)

/-- The end of the last region with the flag, `begin` if there is none. -/
def getHighest (flag : Region → Bool) : SeqNo :=
  match q.rexmitQueue.reverse.find? flag with
  | some i => i.endSeqNum
  | none => q.beginSeq

def getHighestSackedSeqNum : SeqNo := q.getHighest Region.sacked

def getHighestRexmittedSeqNum : SeqNo := q.getHighest Region.rexmitted

/-- `ASSERT(seqLE(begin, fromSeqNum) && seqLE(fromSeqNum, end))`. -/
def inRange (fromSeqNum : SeqNo) : Bool := seqLE q.beginSeq fromSeqNum && seqLE fromSeqNum q.endSeq

end

/-- The loop of `checkRexmitQueueForSackedOrRexmittedSegments`. -/
def sumSackedOrRexmitted : SeqNo → List Region → Except Fault (BitVec 32)
  | _, [] => .ok 0
  | fromSeqNum, i :: rest =>
    if i.sacked || i.rexmitted then
      if i.contains fromSeqNum then do
        let bytes ← sumSackedOrRexmitted i.endSeqNum rest
        .ok ((i.endSeqNum - fromSeqNum) + bytes)
      else .error .rexmitNotFound
    else .ok 0

def checkRexmitQueueForSackedOrRexmittedSegments (q : TCPSACKRexmitQueue) (fromSeqNum : SeqNo) :
    Except Fault (BitVec 32) :=
  if !q.inRange fromSeqNum then .error .rexmitRange
  else if q.rexmitQueue.isEmpty || q.endSeq == fromSeqNum then .ok 0
  else sumSackedOrRexmitted fromSeqNum (seek fromSeqNum q.rexmitQueue).2

/-- The octets of the sacked regions. -/
def sackedBytes (regions : List Region) : BitVec 32 :=
  regions.foldl (fun bytes i =>
    if i.sacked then bytes + (i.endSeqNum - i.beginSeqNum) else bytes) 0

def getTotalAmountOfSackedBytes (q : TCPSACKRexmitQueue) : BitVec 32 := sackedBytes q.rexmitQueue

/-- From the end of the queue: whole regions first, then the one that `fromSeqNum` is inside of. -/
def getAmountOfSackedBytes (q : TCPSACKRexmitQueue) (fromSeqNum : SeqNo) :
    Except Fault (BitVec 32) :=
  if !q.inRange fromSeqNum then .error .rexmitRange
  else
    let above (i : Region) := seqLE fromSeqNum i.beginSeqNum
    let bytes := sackedBytes (q.rexmitQueue.reverse.takeWhile above)
    match q.rexmitQueue.reverse.dropWhile above with
    | [] => .ok bytes
    | i :: _ =>
      if seqLess i.beginSeqNum fromSeqNum && seqLess fromSeqNum i.endSeqNum && i.sacked then
        .ok (bytes + (i.endSeqNum - fromSeqNum))
      else .ok bytes

/-- The loop of `getNumOfDiscontiguousSacks`. -/
def countDiscontiguous : Bool → List Region → ℕ
  | _, [] => 0
  | prevSacked, i :: rest =>
    (if i.sacked && !prevSacked then 1 else 0) + countDiscontiguous i.sacked rest

def getNumOfDiscontiguousSacks (q : TCPSACKRexmitQueue) (fromSeqNum : SeqNo) : Except Fault ℕ :=
  if !q.inRange fromSeqNum then .error .rexmitRange
  else if q.rexmitQueue.isEmpty || fromSeqNum == q.endSeq then .ok 0
  else .ok (countDiscontiguous false (seek fromSeqNum q.rexmitQueue).2)

/-- `checkSackBlock`: the octets from `fromSeqNum` to the end of its region, and the flags. -/
def checkSackBlock (q : TCPSACKRexmitQueue) (fromSeqNum : SeqNo) :
    Except Fault (BitVec 32 × Bool × Bool) :=
  if !(seqLE q.beginSeq fromSeqNum && seqLess fromSeqNum q.endSeq) then .error .rexmitRange
  else
    match (seek fromSeqNum q.rexmitQueue).2 with
    | [] => .error .rexmitNotFound
    | i :: _ =>
      if i.contains fromSeqNum then .ok (i.endSeqNum - fromSeqNum, i.sacked, i.rexmitted)
      else .error .rexmitNotFound

/-! ### Octet by octet -/

namespace Scoreboard

variable (B : Scoreboard)

/-- The octets from the sequence number on. -/
def above (x : SeqNo) : List Flags := B.octets.drop (B.index x)

/-- The sequence number after the last octet with the flag, the first one if there is none. -/
def highest (flag : Flags → Bool) : SeqNo :=
  B.beginSeq + BitVec.ofNat 32 (B.octets.rdropWhile fun x => !flag x).length

/-- The number of octets that are sacked or retransmitted from the sequence number on, up to the
first one that is neither. -/
def sackedOrRexmitted (x : SeqNo) : ℕ :=
  ((B.above x).takeWhile fun o => o.sacked || o.rexmitted).length

/-- The number of sacked octets. -/
def sackedTotal : ℕ := B.octets.countP Flags.sacked

/-- The number of sacked octets from the sequence number on. -/
def sackedAbove (x : SeqNo) : ℕ := (B.above x).countP Flags.sacked

/-- The number of octets that are sacked and do not follow a sacked octet. -/
def starts : Bool → List Flags → ℕ
  | _, [] => 0
  | prev, o :: l => (if o.sacked && !prev then 1 else 0) + starts o.sacked l

/-- The number of maximal blocks of sacked octets from the sequence number on. -/
def discontiguousAbove (x : SeqNo) : ℕ := starts false (B.above x)

end Scoreboard

/-! ### Lists of octets -/

theorem sackedBytes_eq (L : List Region) :
    sackedBytes L = BitVec.ofNat 32 ((octets L).countP Flags.sacked) := by
  have h : ∀ bytes : BitVec 32, L.foldl (fun bytes i =>
      if i.sacked then bytes + (i.endSeqNum - i.beginSeqNum) else bytes) bytes =
        bytes + BitVec.ofNat 32 ((octets L).countP Flags.sacked) := by
    induction L with
    | nil =>
      intro bytes
      simp
    | cons i L ih =>
      intro bytes
      rw [foldl_cons, ih, octets_cons, countP_append, Region.octets,
        countP_replicate, BitVec.ofNat_add]
      cases i.sacked
      · simp
      · simp only [if_true, BitVec.ofNat_toNat, BitVec.setWidth_eq]
        rw [BitVec.add_assoc]
  rw [sackedBytes, h]
  simp

theorem countP_octets_reverse (L : List Region) :
    (octets L.reverse).countP Flags.sacked = (octets L).countP Flags.sacked :=
  ((reverse_perm L).flatMap_right _).countP_eq _

/-- Equal octets are one block at most. -/
theorem starts_replicate {n : ℕ} (hn : 0 < n) (prev : Bool) (f : Flags) (l : List Flags) :
    Scoreboard.starts prev (replicate n f ++ l) =
      (if f.sacked && !prev then 1 else 0) + Scoreboard.starts f.sacked l := by
  obtain ⟨n, rfl⟩ : ∃ k, n = k + 1 := ⟨n - 1, by omega⟩
  have hmore : ∀ n, Scoreboard.starts f.sacked (replicate n f ++ l) =
      Scoreboard.starts f.sacked l := by
    intro n
    induction n with
    | zero => rfl
    | succ n ih =>
      rw [replicate_succ, cons_append, Scoreboard.starts, ih]
      cases f.sacked <;> simp
  rw [replicate_succ, cons_append, Scoreboard.starts, hmore]

/-- Octets in front can only add blocks. -/
theorem starts_le_append (l l' : List Flags) :
    Scoreboard.starts false l' ≤ Scoreboard.starts false (l ++ l') := by
  have hprev : ∀ l' : List Flags, Scoreboard.starts false l' ≤ Scoreboard.starts true l' + 1 := by
    intro l'
    cases l' with
    | nil => simp [Scoreboard.starts]
    | cons o l' =>
      rw [Scoreboard.starts, Scoreboard.starts]
      cases o.sacked
      · simp
      · simp
        omega
  have h : ∀ prev : Bool, Scoreboard.starts false l' ≤
      Scoreboard.starts prev (l ++ l') + (if prev then 1 else 0) := by
    induction l with
    | nil =>
      intro prev
      cases prev
      · simp
      · simpa using hprev l'
    | cons o l ih =>
      intro prev
      have h := ih o.sacked
      rw [cons_append, Scoreboard.starts]
      generalize o.sacked = b at h ⊢
      cases b <;> cases prev <;> (simp at h ⊢; omega)
  simpa using h false

variable {p : Flags → Bool}

theorem rdropWhile_append_replicate {f : Flags} {n : ℕ} (hf : p f = true) (l : List Flags) :
    (l ++ replicate n f).rdropWhile p = l.rdropWhile p := by
  induction n with
  | zero => simp
  | succ n ih =>
    rw [replicate_succ', ← append_assoc, rdropWhile_concat_pos _ _ _ hf, ih]

/-- The number of octets between two positions. -/
theorem pos_sub {s m : ℤ} (h : s ≤ m) : pos m - pos s = BitVec.ofNat 32 (m - s).toNat := by
  rw [Serial.wrap_sub, Serial.wrap_ofNat, Int.toNat_of_nonneg (by omega)]

namespace Tiles

variable {a b c s m : ℤ} {L M : List Region} {i : Region}

theorem split (h : Tiles a (L ++ M) c) : ∃ b, Tiles a L b ∧ Tiles b M c := by
  induction L generalizing a with
  | nil => exact ⟨a, rfl, h⟩
  | cons i L ih =>
    obtain ⟨m, hb, he, hlt, hs, hL⟩ := h
    obtain ⟨b, hLb, hM⟩ := ih hL
    exact ⟨b, ⟨m, hb, he, hlt, hs, hLb⟩, hM⟩

/-- The walk for the last region with a flag finds the last octet with it. -/
theorem highest (h : Tiles a L c) {flag : Region → Bool}
    (hp : ∀ i : Region, p ⟨i.sacked, i.rexmitted⟩ = flag i) :
    (match L.reverse.find? flag with
      | some i => i.endSeqNum
      | none => pos a) =
      pos a + BitVec.ofNat 32 ((octets L).rdropWhile fun x => !p x).length := by
  induction L using reverseRecOn generalizing c with
  | nil => simp
  | append_singleton L i ih =>
    obtain ⟨b, hL, m, hb, he, hlt, hs, hmc⟩ := h.split
    obtain rfl : m = c := hmc
    have hab := hL.le
    have hoct : octets [i] = replicate (m - b).toNat ⟨i.sacked, i.rexmitted⟩ := by
      rw [octets_cons, octets_nil, append_nil, Region.octets_eq hb he hlt.le hs]
    rw [reverse_append, reverse_singleton, singleton_append, octets_append]
    cases hi : flag i with
    | true =>
      have hlast : (!p ⟨i.sacked, i.rexmitted⟩) = false := by rw [hp, hi]; rfl
      obtain ⟨n, hn⟩ : ∃ n, (m - b).toNat = n + 1 := ⟨(m - b).toNat - 1, by omega⟩
      rw [find?_cons_of_pos hi, hoct, hn, replicate_succ', ← append_assoc,
        rdropWhile_concat_neg _ _ _ (by simp [hp, hi])]
      simp only [length_append, length_replicate, length_singleton, hL.length_octets]
      rw [he, Serial.wrap_add_ofNat]
      congr 1
      push_cast
      omega
    | false =>
      rw [find?_cons_of_neg (by simp [hi]), ih hL, hoct,
        rdropWhile_append_replicate (by simp [hp, hi])]

/-- What the search for `s` leaves are the octets from `s` on. -/
theorem drop_eq (hL : Tiles a M b) (hb : i.beginSeqNum = pos b) (he : i.endSeqNum = pos m)
    (hbs : b ≤ s) (hsm : s < m) (hs : m - b < 2 ^ 31) :
    (octets (M ++ i :: L)).drop (s - a).toNat =
      replicate (m - s).toNat ⟨i.sacked, i.rexmitted⟩ ++ octets L := by
  have hab := hL.le
  have hsplit : (s - a).toNat = (octets M).length + (s - b).toNat := by
    rw [hL.length_octets]
    omega
  rw [octets_append, octets_cons, hsplit, drop_length_add_append,
    Region.octets_eq hb he (by omega) hs,
    drop_append_of_le_length (by rw [length_replicate]; omega), drop_replicate,
    show (m - b).toNat - (s - b).toNat = (m - s).toNat by omega]

section

variable (hb : i.beginSeqNum = pos b) (he : i.endSeqNum = pos m) (hbs : b ≤ s) (hsm : s < m) (hs : m - b < 2 ^ 31)
include hb he hbs hsm hs

theorem contains_pos : i.contains (pos s) = true := by
  rw [Region.contains, hb, he, seqLE_pos (by omega) (by omega), seqLess_pos (by omega) (by omega)]
  simp [hbs, hsm]

/-- The loop adds up the octets up to the first one that is neither sacked nor retransmitted. -/
theorem sumSackedOrRexmitted_cons (hL : sumSackedOrRexmitted (pos m) L = .ok (BitVec.ofNat 32
      ((octets L).takeWhile fun o => o.sacked || o.rexmitted).length)) :
    sumSackedOrRexmitted (pos s) (i :: L) = .ok (BitVec.ofNat 32
      ((replicate (m - s).toNat (⟨i.sacked, i.rexmitted⟩ : Flags) ++ octets L).takeWhile
        fun o => o.sacked || o.rexmitted).length) := by
  have hcont := contains_pos hb he hbs hsm hs
  rw [sumSackedOrRexmitted]
  cases hi : (i.sacked || i.rexmitted) with
  | true =>
    rw [takeWhile_append_of_pos (fun o ho => by rw [eq_of_mem_replicate ho]; exact hi)]
    simp only [hcont, if_true, he, hL, Except.ok_bind, length_append, length_replicate,
      BitVec.ofNat_add]
    rw [pos_sub hsm.le]
  | false =>
    obtain ⟨n, hn⟩ : ∃ n, (m - s).toNat = n + 1 := ⟨(m - s).toNat - 1, by omega⟩
    rw [hn, replicate_succ, cons_append, takeWhile_cons_of_neg (by simpa using hi)]
    rfl

end

theorem sumSackedOrRexmitted (h : Tiles m L c) :
    sumSackedOrRexmitted (pos m) L = .ok (BitVec.ofNat 32
      ((octets L).takeWhile fun o => o.sacked || o.rexmitted).length) := by
  induction L generalizing m with
  | nil => rfl
  | cons i L ih =>
    obtain ⟨m', hb, he, hlt, hs, hL⟩ := h
    rw [sumSackedOrRexmitted_cons hb he le_rfl hlt hs (ih hL), octets_cons,
      Region.octets_eq hb he hlt.le hs]

theorem countDiscontiguous (h : Tiles m L c) (prev : Bool) :
    countDiscontiguous prev L = Scoreboard.starts prev (octets L) := by
  induction L generalizing m prev with
  | nil => rfl
  | cons i L ih =>
    obtain ⟨m', hb, he, hlt, hs, hL⟩ := h
    rw [countDiscontiguous, ih hL, octets_cons,
      Region.octets_eq hb he hlt.le hs, starts_replicate (by omega)]

/-- A walk from the end takes exactly the regions that begin at or after `s`. -/
theorem takeWhile_begin (h : Tiles m L c) (hsm : s ≤ m) (hcs : c - s < 2 ^ 31) :
    ∀ i ∈ L, seqLE (pos s) i.beginSeqNum = true := by
  induction L generalizing m with
  | nil =>
    intro i hi
    cases hi
  | cons j L ih =>
    obtain ⟨m', hb, he, hlt, hs, hL⟩ := h
    have hle := hL.le
    intro i hi
    obtain rfl | hi := mem_cons.1 hi
    · rw [hb, seqLE_pos (by omega) (by omega)]
      simpa using hsm
    · exact ih hL (by omega) i hi

/-- The last of the regions before `s` begins before `s`. -/
theorem getLast_begin (h : Tiles a L b) (hi : L.getLast? = some i) : ∃ m, i.beginSeqNum = pos m ∧ i.endSeqNum = pos b ∧ a ≤ m ∧ m < b := by
  obtain ⟨L, rfl⟩ := getLast?_eq_some_iff.1 hi
  obtain ⟨m, hL, b', hb, he, hlt, hs, hbb⟩ := h.split
  obtain rfl : b' = b := hbb
  exact ⟨m, hb, he, hL.le, hlt⟩

end Tiles

namespace Spans

variable {q : TCPSACKRexmitQueue} {a c s : ℤ}

theorem getHighest (h : Spans q a c) {flag : Region → Bool}
    (hp : ∀ i : Region, p ⟨i.sacked, i.rexmitted⟩ = flag i) :
    q.getHighest flag = q.scoreboard.highest p := by
  have := h.tiles.highest hp
  rw [← h.beginSeq_eq] at this
  exact this

/-- The positions of an argument that passes the assertion. -/
theorem exists_of_inRange (h : Spans q a c) {x : SeqNo} (hx : q.inRange x = true) :
    ∃ s, x = pos s ∧ a ≤ s ∧ s ≤ c ∧ s - a < 2 ^ 31 ∧ c - s < 2 ^ 31 := by
  rw [inRange, and_eq_true, h.beginSeq_eq, h.endSeq_eq] at hx
  obtain ⟨s, rfl, has, hsa⟩ := exists_pos_of_seqGE hx.1
  obtain ⟨hsc, hcs⟩ := le_of_seqLE_pos has hsa.le h.le h.lt hx.2
  exact ⟨s, rfl, has, hsc, hsa, hcs⟩

/-- The search for a position: nothing is left at the end of the queue, a region that contains it
otherwise; what is left are the octets from there on. -/
theorem seek (h : Spans q a c) (has : a ≤ s) (hsc : s ≤ c) (hsa : s - a < 2 ^ 31) :
    (s = c ∧ q.scoreboard.above (pos s) = []) ∨
    ∃ before i L b m, seek (pos s) q.rexmitQueue = (before, i :: L) ∧
      q.rexmitQueue = before ++ i :: L ∧ Tiles a before b ∧ i.beginSeqNum = pos b ∧
      i.endSeqNum = pos m ∧ b ≤ s ∧ s < m ∧ m - b < 2 ^ 31 ∧ Tiles m L c ∧
      q.scoreboard.above (pos s) = replicate (m - s).toNat ⟨i.sacked, i.rexmitted⟩ ++ octets L := by
  have hlt := h.lt
  have habove : q.scoreboard.above (pos s) = (octets q.rexmitQueue).drop (s - a).toNat := by
    rw [Scoreboard.above, h.index_pos has (by omega)]
    rfl
  obtain ⟨before, rest, b, hseek, hq, hbef, hbs, hrest, hstop⟩ := h.tiles.seek_spec has hsa.le
  cases rest with
  | nil =>
    obtain rfl : b = c := hrest
    left
    refine ⟨by omega, ?_⟩
    rw [habove]
    refine drop_eq_nil_of_le ?_
    rw [h.tiles.length_octets]
    omega
  | cons i L =>
    obtain ⟨m, hb, he, hsm, hs, hL⟩ := hstop i L rfl
    refine .inr ⟨before, i, L, b, m, hseek, hq, hbef, hb, he, hbs, hsm, hs, hL, ?_⟩
    rw [habove, hq, hbef.drop_eq hb he hbs hsm hs]

variable (h : Spans q a c) (has : a ≤ s) (hsc : s ≤ c) (hsa : s - a < 2 ^ 31) (hcs : c - s < 2 ^ 31) (hr : q.inRange (pos s) = true)
include h has hsc hsa hcs hr

theorem sackedOrRexmitted :
    q.checkRexmitQueueForSackedOrRexmittedSegments (pos s) =
      .ok (BitVec.ofNat 32 (q.scoreboard.sackedOrRexmitted (pos s))) := by
  have hlt := h.lt
  rw [checkRexmitQueueForSackedOrRexmittedSegments, hr, Scoreboard.sackedOrRexmitted]
  obtain ⟨rfl, habove⟩ | ⟨before, i, L, b, m, hseek, hq, hbef, hb, he, hbs, hsm, hs, hL, habove⟩ :=
    h.seek has hsc hsa
  · simp [h.endSeq_eq, habove]
  · have hmc := hL.le
    have hne : (q.endSeq == pos s) = false := by
      rw [h.endSeq_eq, beq_eq_false_iff_ne, Ne, pos_inj (by omega) (by omega)]
      omega
    have hempty : q.rexmitQueue.isEmpty = false := by simp [hq]
    rw [hne, hempty, hseek, habove]
    exact Tiles.sumSackedOrRexmitted_cons hb he hbs hsm hs hL.sumSackedOrRexmitted

theorem discontiguous :
    q.getNumOfDiscontiguousSacks (pos s) = .ok (q.scoreboard.discontiguousAbove (pos s)) := by
  rw [getNumOfDiscontiguousSacks, hr, Scoreboard.discontiguousAbove]
  obtain ⟨rfl, habove⟩ | ⟨before, i, L, b, m, hseek, hq, hbef, hb, he, hbs, hsm, hs, hL, habove⟩ :=
    h.seek has hsc hsa
  · simp [h.endSeq_eq, habove, Scoreboard.starts]
  · have hmc := hL.le
    have hne : (pos s == q.endSeq) = false := by
      rw [h.endSeq_eq, beq_eq_false_iff_ne, Ne, pos_inj (by omega) (by omega)]
      omega
    have hempty : q.rexmitQueue.isEmpty = false := by simp [hq]
    rw [hne, hempty, hseek, habove, starts_replicate (by omega), ← hL.countDiscontiguous]
    rfl

/-- The walk from the end stops at the region that `s` is inside of, or after the one that begins
at `s`. -/
theorem sackedAbove :
    q.getAmountOfSackedBytes (pos s) = .ok (BitVec.ofNat 32 (q.scoreboard.sackedAbove (pos s))) := by
  have hlt := h.lt
  -- what comes before `s` adds nothing
  have hstop : ∀ (before : List Region) (bytes : BitVec 32), Tiles a before s →
      (match before.reverse.dropWhile (fun i => seqLE (pos s) i.beginSeqNum) with
        | [] => (.ok bytes : Except Fault (BitVec 32))
        | i :: _ =>
          if seqLess i.beginSeqNum (pos s) && seqLess (pos s) i.endSeqNum && i.sacked then
            .ok (bytes + (i.endSeqNum - pos s))
          else .ok bytes) = .ok bytes ∧
        before.reverse.takeWhile (fun i => seqLE (pos s) i.beginSeqNum) = [] := by
    intro before bytes hbef
    cases hlast : before.getLast? with
    | none =>
      rw [getLast?_eq_none_iff.1 hlast]
      exact ⟨rfl, rfl⟩
    | some j =>
      obtain ⟨m, hb, he, ham, hms⟩ := hbef.getLast_begin hlast
      obtain ⟨before, rfl⟩ := getLast?_eq_some_iff.1 hlast
      have hle : seqLE (pos s) j.beginSeqNum = false := by
        rw [hb, seqLE_pos (by omega) (by omega)]
        simpa using hms
      have hno : seqLess (pos s) j.endSeqNum = false := by
        rw [he, seqLess_pos (by omega) (by omega)]
        simp
      simp [hle, hno]
  rw [getAmountOfSackedBytes, hr, Scoreboard.sackedAbove]
  obtain ⟨rfl, habove⟩ | ⟨before, i, L, b, m, hseek, hq, hbef, hb, he, hbs, hsm, hs, hL, habove⟩ :=
    h.seek has hsc hsa
  · obtain ⟨hno, htake⟩ := hstop q.rexmitQueue 0 h.tiles
    simp only [Bool.not_true, false_eq_true, if_false, htake, habove]
    exact hno
  · have hmc := hL.le
    have hrest : ∀ j ∈ L.reverse, seqLE (pos s) j.beginSeqNum = true := by
      intro j hj
      exact hL.takeWhile_begin hsm.le hcs j (mem_reverse.1 hj)
    have hrev : q.rexmitQueue.reverse = L.reverse ++ i :: before.reverse := by
      rw [hq, reverse_append, reverse_cons, append_assoc, singleton_append]
    have hcount : (q.scoreboard.above (pos s)).countP Flags.sacked =
        (if i.sacked then (m - s).toNat else 0) + (octets L).countP Flags.sacked := by
      rw [habove, countP_append, countP_replicate]
    rw [hcount]
    simp only [Bool.not_true, false_eq_true, if_false, hrev,
      takeWhile_append_of_pos hrest, dropWhile_append_of_pos hrest]
    obtain rfl | hlt' := hbs.eq_or_lt
    · -- the region begins at `s`: it is counted as a whole
      have hge : seqLE (pos b) i.beginSeqNum = true := by
        rw [hb, seqLE_pos (by omega) (by omega)]
        simp
      obtain ⟨-, htake⟩ := hstop before 0 hbef
      rw [takeWhile_cons_of_pos (p := fun j : Region => seqLE (pos b) j.beginSeqNum) hge,
        dropWhile_cons_of_pos (p := fun j : Region => seqLE (pos b) j.beginSeqNum) hge, htake,
        (hstop before _ hbef).1, sackedBytes_eq, octets_append, countP_append,
        countP_octets_reverse, octets_cons, octets_nil, append_nil,
        Region.octets_eq hb he hsm.le hs, countP_replicate, Nat.add_comm]
    · -- the region is cut at `s`
      have hle : seqLE (pos s) i.beginSeqNum = false := by
        rw [hb, seqLE_pos (by omega) (by omega)]
        simpa using hlt'
      have hin : (seqLess i.beginSeqNum (pos s) && seqLess (pos s) i.endSeqNum) = true := by
        rw [hb, he, seqLess_pos (by omega) (by omega), seqLess_pos (by omega) (by omega)]
        simp [hlt', hsm]
      have hcut : ¬ (fun j : Region => seqLE (pos s) j.beginSeqNum) i = true := by simp [hle]
      rw [takeWhile_cons_of_neg (p := fun j : Region => seqLE (pos s) j.beginSeqNum) hcut,
        dropWhile_cons_of_neg (p := fun j : Region => seqLE (pos s) j.beginSeqNum) hcut,
        append_nil, sackedBytes_eq, countP_octets_reverse]
      simp only [hin, Bool.true_and]
      cases i.sacked
      · simp
      · rw [if_pos rfl, if_pos rfl, he, pos_sub hsm.le, ← BitVec.ofNat_add, Nat.add_comm]

end Spans

/-! ### Well-formed queues -/

/-- `checkQueue` holds, and the octets have different sequence numbers. -/
structure WellFormed (q : TCPSACKRexmitQueue) : Prop where
  checkQueue : q.checkQueue = true
  length_lt : (octets q.rexmitQueue).length < 2 ^ 32

theorem tiles_of_checkRegions {L : List Region} {a : ℤ} {e : SeqNo}
    (h : checkRegions (pos a) L = (true, e)) : ∃ c, Tiles a L c ∧ pos c = e := by
  induction L generalizing a with
  | nil => exact ⟨a, rfl, congrArg Prod.snd h⟩
  | cons i L ih =>
    simp only [checkRegions, Prod.mk.injEq, and_eq_true, beq_iff_eq] at h
    obtain ⟨⟨⟨hb, hless⟩, hrest⟩, he⟩ := h
    rw [← hb] at hless
    obtain ⟨m, hm, ham, hs⟩ := exists_pos_of_seqGE (seqLE_of_seqLess hless)
    rw [← hm, seqLess_pos hs (by omega), decide_eq_true_eq] at hless
    rw [← hm] at hrest he
    obtain ⟨c, hL, hc⟩ := ih (Prod.ext hrest he)
    exact ⟨c, ⟨m, hb.symm, hm.symm, hless, hs, hL⟩, hc⟩

/-- A well-formed queue stores the octets between two positions. -/
theorem WellFormed.exists_spans {q : TCPSACKRexmitQueue} (h : q.WellFormed) :
    ∃ a c, Spans q a c := by
  obtain ⟨a, ha⟩ : ∃ a, pos a = q.beginSeq := ⟨q.beginSeq.toNat, Serial.wrap_toNat q.beginSeq⟩
  have hcheck := h.checkQueue
  rw [TCPSACKRexmitQueue.checkQueue, ← ha] at hcheck
  simp only [and_eq_true, beq_iff_eq] at hcheck
  obtain ⟨c, hL, hc⟩ := tiles_of_checkRegions (Prod.ext hcheck.1 rfl)
  have hlt := h.length_lt
  rw [hL.length_octets] at hlt
  exact ⟨a, c, ha.symm, (hc.trans hcheck.2).symm, hL, by omega⟩

theorem Spans.wellFormed {q : TCPSACKRexmitQueue} {a c : ℤ} (h : Spans q a c) : q.WellFormed := by
  have hlt := h.lt
  have hle := h.le
  refine ⟨h.checkQueue, ?_⟩
  rw [h.tiles.length_octets]
  omega

end TCPSACKRexmitQueue

end Hiwis
