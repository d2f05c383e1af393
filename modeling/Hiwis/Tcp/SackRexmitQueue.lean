import Hiwis.Tcp.Segment

/-!
# The SACK retransmission queue

`TCPSACKRexmitQueue` is the scoreboard of the sender: the range `[begin, end)` of the octets that
are sent and not acknowledged, cut into regions whose octets agree in the flags `sacked` and
`rexmitted`.

`Scoreboard` is the map from octets to flags that the queue stands for.  `Tiles a L c` says that
the regions `L` are non-empty, contiguous and cover the positions from `a` to `c`.

* `Represents.call` : a call that meets its asserted preconditions succeeds and has the effect of
  the call on the scoreboard;
* `calls_eq_scoreboard` : the flags after any run of calls, where `init` finds an empty queue.
-/

namespace Hiwis

open List Except Bool

namespace TCPSACKRexmitQueue

/-- `TCPSACKRexmitQueue::Region`. -/
structure Region where
  beginSeqNum : SeqNo
  endSeqNum : SeqNo
  /-- The octets have been sacked by the data receiver. -/
  sacked : Bool
  /-- The octets have been retransmitted by the data sender. -/
  rexmitted : Bool
  deriving DecidableEq

end TCPSACKRexmitQueue

open TCPSACKRexmitQueue in
/-- The queue: its regions, the first sequence number stored and the one after the last. -/
structure TCPSACKRexmitQueue where
  rexmitQueue : List Region := []
  beginSeq : SeqNo := 0
  endSeq : SeqNo := 0
  deriving DecidableEq

namespace TCPSACKRexmitQueue

/-- `init`.  The region list is left as it is. -/
def init (q : TCPSACKRexmitQueue) (seqNum : SeqNo) : TCPSACKRexmitQueue :=
  { q with beginSeq := seqNum, endSeq := seqNum }

/-- The loop of `checkQueue`. -/
def checkRegions (b : SeqNo) : List Region → Bool × SeqNo
  | [] => (true, b)
  | i :: rest =>
    let (f, e) := checkRegions i.endSeqNum rest
    (b == i.beginSeqNum && seqLess i.beginSeqNum i.endSeqNum && f, e)

/-- `checkQueue`. -/
def checkQueue (q : TCPSACKRexmitQueue) : Bool :=
  let (f, b) := checkRegions q.beginSeq q.rexmitQueue
  f && b == q.endSeq

/-- `ASSERT(checkQueue())`. -/
def checked (q : TCPSACKRexmitQueue) : Except Fault TCPSACKRexmitQueue :=
  if q.checkQueue then .ok q else .error .rexmitCheckQueue

/-- The region contains the sequence number. -/
def Region.contains (i : Region) (seqNum : SeqNo) : Bool :=
  seqLE i.beginSeqNum seqNum && seqLess seqNum i.endSeqNum

/-- The regions that end at or before the sequence number, and the others. -/
def seek (seqNum : SeqNo) : List Region → List Region × List Region
  | [] => ([], [])
  | i :: rest =>
    if seqLE i.endSeqNum seqNum then
      let (before, rest) := seek seqNum rest
      (i :: before, rest)
    else ([], i :: rest)

/-- `discardUpTo`. -/
def discardUpTo (q : TCPSACKRexmitQueue) (seqNum : SeqNo) : Except Fault TCPSACKRexmitQueue := do
  if ¬ (seqLE q.beginSeq seqNum && seqLE seqNum q.endSeq) then throw .rexmitRange
  let rexmitQueue ← match (seek seqNum q.rexmitQueue).2 with
    | [] => pure []
    | i :: rest =>
      if i.contains seqNum then pure ({ i with beginSeqNum := seqNum } :: rest)
      else throw .rexmitNotFound
  checked { q with rexmitQueue, beginSeq := seqNum }

/-- The search for the region that contains `fromSeqNum`, which is then cut in two there: the
regions before `fromSeqNum` and those from it on. -/
def chunk (regions : List Region) (fromSeqNum : SeqNo) :
    Except Fault (List Region × List Region) :=
  match seek fromSeqNum regions with
  | (_, []) => .error .rexmitNotFound
  | (before, i :: rest) =>
    if i.contains fromSeqNum then
      if i.beginSeqNum ≠ fromSeqNum then
        .ok (before ++ [{ i with endSeqNum := fromSeqNum }],
          { i with beginSeqNum := fromSeqNum } :: rest)
      else .ok (before, i :: rest)
    else .error .rexmitNotFound

/-- The loop of `enqueueSentData` over the regions that end at or before `toSeqNum`: the marked
regions, the new `fromSeqNum` and the regions that are left. -/
def markRexmitted (toSeqNum : SeqNo) : SeqNo → List Region → List Region × SeqNo × List Region
  | fromSeqNum, [] => ([], fromSeqNum, [])
  | fromSeqNum, i :: rest =>
    if seqLE i.endSeqNum toSeqNum then
      let (marked, fromSeqNum, rest) := markRexmitted toSeqNum i.endSeqNum rest
      ({ i with rexmitted := true } :: marked, fromSeqNum, rest)
    else ([], fromSeqNum, i :: rest)

/-- The new region list of `enqueueSentData`. -/
def enqueueRegions (regions : List Region) (endSeq fromSeqNum toSeqNum : SeqNo) :
    Except Fault (List Region) :=
  if regions.isEmpty || endSeq == fromSeqNum then
    .ok (regions ++ [⟨fromSeqNum, toSeqNum, false, false⟩])
  else do
    let (before, rest) ← chunk regions fromSeqNum
    match markRexmitted toSeqNum fromSeqNum rest with
    | (marked, fromSeqNum, []) =>
      if fromSeqNum ≠ toSeqNum then
        .ok (before ++ marked ++ [⟨fromSeqNum, toSeqNum, false, false⟩])
      else .ok (before ++ marked)
    | (marked, fromSeqNum, i :: rest) =>
      if fromSeqNum ≠ toSeqNum then
        if seqLess i.beginSeqNum toSeqNum then
          .ok (before ++ marked ++
            ⟨fromSeqNum, toSeqNum, i.sacked, true⟩ :: { i with beginSeqNum := toSeqNum } :: rest)
        else .error .rexmitNotFound
      else .ok (before ++ marked ++ i :: rest)

/-- `enqueueSentData`. -/
def enqueueSentData (q : TCPSACKRexmitQueue) (fromSeqNum toSeqNum : SeqNo) :
    Except Fault TCPSACKRexmitQueue := do
  if ¬ (seqLE q.beginSeq fromSeqNum && seqLE fromSeqNum q.endSeq) then throw .rexmitRange
  if ¬ seqLess fromSeqNum toSeqNum then throw .rexmitRange
  let rexmitQueue ← enqueueRegions q.rexmitQueue q.endSeq fromSeqNum toSeqNum
  match rexmitQueue.head?, rexmitQueue.getLast? with
  | some front, some back => checked ⟨rexmitQueue, front.beginSeqNum, back.endSeqNum⟩
  | _, _ => throw .rexmitNotFound

/-- The loop of `setSackedBit` over the regions that end at or before `toSeqNum`: the marked
regions and those that are left. -/
def markSacked (fromSeqNum toSeqNum : SeqNo) : List Region → List Region × List Region
  | [] => ([], [])
  | i :: rest =>
    if seqLE i.endSeqNum toSeqNum then
      let (marked, rest) := markSacked fromSeqNum toSeqNum rest
      ((if seqGE i.beginSeqNum fromSeqNum then { i with sacked := true } else i) :: marked, rest)
    else ([], i :: rest)

/-- The new region list of `setSackedBit`. -/
def sackRegions (regions : List Region) (fromSeqNum toSeqNum : SeqNo) :
    Except Fault (List Region) :=
  if regions.isEmpty then .ok []
  else do
    let (before, rest) ← chunk regions fromSeqNum
    match markSacked fromSeqNum toSeqNum rest with
    | (marked, []) => .ok (before ++ marked)
    | (marked, i :: rest) =>
      if seqLess i.beginSeqNum toSeqNum && seqLess toSeqNum i.endSeqNum then
        .ok (before ++ marked ++ { i with endSeqNum := toSeqNum, sacked := true } ::
          { i with beginSeqNum := toSeqNum } :: rest)
      else .ok (before ++ marked ++ i :: rest)

section

variable (q : TCPSACKRexmitQueue)

/-- The start of the range that `setSackedBit` looks at. -/
def clamp (fromSeqNum : SeqNo) : SeqNo :=
  if seqLess fromSeqNum q.beginSeq then q.beginSeq else fromSeqNum

/-- `setSackedBit`. -/
def setSackedBit (fromSeqNum toSeqNum : SeqNo) :
    Except Fault TCPSACKRexmitQueue := do
  let fromSeqNum := q.clamp fromSeqNum
  if ¬ seqLess fromSeqNum q.endSeq then throw .rexmitRange
  if ¬ (seqLess q.beginSeq toSeqNum && seqLE toSeqNum q.endSeq) then throw .rexmitRange
  if ¬ seqLess fromSeqNum toSeqNum then throw .rexmitRange
  let rexmitQueue ← sackRegions q.rexmitQueue fromSeqNum toSeqNum
  checked { q with rexmitQueue }

/-- `resetSackedBit`. -/
def resetSackedBit : TCPSACKRexmitQueue :=
  { q with rexmitQueue := q.rexmitQueue.map fun i => { i with sacked := false } }

/-- `resetRexmittedBit`. -/
def resetRexmittedBit : TCPSACKRexmitQueue :=
  { q with rexmitQueue := q.rexmitQueue.map fun i => { i with rexmitted := false } }

end

/-! ### The octets of a region list -/

/-- The flags of one octet. -/
structure Flags where
  sacked : Bool := false
  rexmitted : Bool := false
  deriving DecidableEq

/-- The flags of an octet that has been retransmitted. -/
def rexmit (x : Flags) : Flags := { x with rexmitted := true }

/-- The flags of an octet that has been sacked. -/
def sack (x : Flags) : Flags := { x with sacked := true }

/-- The flags of the octets of a region, in order. -/
def Region.octets (i : Region) : List Flags :=
  replicate (i.endSeqNum - i.beginSeqNum).toNat ⟨i.sacked, i.rexmitted⟩

/-- The flags of the octets of a list of regions, in order. -/
def octets (regions : List Region) : List Flags := regions.flatMap Region.octets

@[simp] theorem octets_nil : octets [] = [] := rfl

@[simp] theorem octets_cons (i : Region) (L : List Region) :
    octets (i :: L) = i.octets ++ octets L := rfl

@[simp] theorem octets_append (L M : List Region) : octets (L ++ M) = octets L ++ octets M := by
  simp [octets]

theorem Region.octets_eq {i : Region} {a b : ℤ} (ha : i.beginSeqNum = pos a)
    (hb : i.endSeqNum = pos b) (hab : a ≤ b) (hlt : b - a < 2 ^ 31) :
    i.octets = replicate (b - a).toNat ⟨i.sacked, i.rexmitted⟩ := by
  rw [Region.octets, ha, hb, dist_pos hab (by omega)]

/-- The regions are not empty, each starts where the one before it ends, and together they cover
the positions from `a` to `c`. -/
def Tiles : ℤ → List Region → ℤ → Prop
  | a, [], c => a = c
  | a, i :: L, c => ∃ m, i.beginSeqNum = pos a ∧ i.endSeqNum = pos m ∧ a < m ∧ m - a < 2 ^ 31 ∧
      Tiles m L c

namespace Tiles

variable {a b c s t : ℤ} {L M : List Region} {i : Region}

theorem le (h : Tiles a L c) : a ≤ c := by
  induction L generalizing a with
  | nil => exact le_of_eq h
  | cons i L ih =>
    obtain ⟨m, -, -, ham, -, hL⟩ := h
    exact ham.le.trans (ih hL)

theorem append (h : Tiles a L b) (h' : Tiles b M c) : Tiles a (L ++ M) c := by
  induction L generalizing a with
  | nil =>
    cases h
    exact h'
  | cons i L ih =>
    obtain ⟨m, hb, he, hlt, hs, hL⟩ := h
    exact ⟨m, hb, he, hlt, hs, ih hL⟩

theorem singleton (hb : i.beginSeqNum = pos a) (he : i.endSeqNum = pos c) (hlt : a < c)
    (hs : c - a < 2 ^ 31) : Tiles a [i] c :=
  ⟨c, hb, he, hlt, hs, rfl⟩

/-- A change of the flags leaves the regions in place. -/
theorem map {f : Region → Region} (hb : ∀ i, (f i).beginSeqNum = i.beginSeqNum)
    (he : ∀ i, (f i).endSeqNum = i.endSeqNum) (h : Tiles a L c) : Tiles a (L.map f) c := by
  induction L generalizing a with
  | nil => exact h
  | cons i L ih =>
    obtain ⟨m, hb', he', hlt, hs, hL⟩ := h
    exact ⟨m, (hb i).trans hb', (he i).trans he', hlt, hs, ih hL⟩

theorem length_octets (h : Tiles a L c) : (octets L).length = (c - a).toNat := by
  induction L generalizing a with
  | nil =>
    cases h
    simp
  | cons i L ih =>
    obtain ⟨m, hb, he, hlt, hs, hL⟩ := h
    have hle := hL.le
    rw [octets_cons, length_append, ih hL, Region.octets_eq hb he hlt.le hs, length_replicate]
    omega

theorem checkRegions (h : Tiles a L c) :
    TCPSACKRexmitQueue.checkRegions (pos a) L = (true, pos c) := by
  induction L generalizing a with
  | nil =>
    cases h
    rfl
  | cons i L ih =>
    obtain ⟨m, hb, he, hlt, hs, hL⟩ := h
    simp only [TCPSACKRexmitQueue.checkRegions, he, ih hL, hb,
      seqLess_pos hs (show a - m ≤ 2 ^ 31 by omega)]
    simp [hlt]

theorem checkQueue (h : Tiles a L c) : TCPSACKRexmitQueue.checkQueue ⟨L, pos a, pos c⟩ = true := by
  simp [TCPSACKRexmitQueue.checkQueue, h.checkRegions]

theorem head_eq (h : Tiles a (i :: L) c) : i.beginSeqNum = pos a := by
  obtain ⟨m, hb, -⟩ := h
  exact hb

theorem getLast_eq (h : Tiles a L c) (hi : L.getLast? = some i) : i.endSeqNum = pos c := by
  induction L generalizing a with
  | nil => cases hi
  | cons j L ih =>
    obtain ⟨m, -, he, -, -, hL⟩ := h
    cases L with
    | nil =>
      cases hi
      cases hL
      exact he
    | cons k L => exact ih hL (by simpa using hi)

/-- What is left when a walk over the regions has stopped at position `b`: nothing, or regions
the first of which ends after `s`. -/
def Stops (s b : ℤ) (L : List Region) (c : ℤ) : Prop :=
  Tiles b L c ∧ ∀ i rest, L = i :: rest → ∃ m, i.beginSeqNum = pos b ∧ i.endSeqNum = pos m ∧
    s < m ∧ m - b < 2 ^ 31 ∧ Tiles m rest c

/-- A region that ends near to `s` stops a walk that looks for `s`. -/
theorem seqLE_end (he : i.endSeqNum = pos b) (hab : a < b) (hs : b - a < 2 ^ 31) (has : a ≤ s)
    (hsa : s - a ≤ 2 ^ 31) : seqLE i.endSeqNum (pos s) = decide (b ≤ s) := by
  rw [he, seqLE_pos (by omega) (by omega)]

theorem seek_spec (h : Tiles a L c) (has : a ≤ s) (hsa : s - a ≤ 2 ^ 31) :
    ∃ before rest b, seek (pos s) L = (before, rest) ∧ L = before ++ rest ∧ Tiles a before b ∧
      b ≤ s ∧ Stops s b rest c := by
  induction L generalizing a with
  | nil => exact ⟨[], [], a, rfl, rfl, rfl, has, h, by simp⟩
  | cons i L ih =>
    have h' := h
    obtain ⟨m, hb, he, hlt, hs, hL⟩ := h
    have hcmp := seqLE_end he hlt hs has hsa
    by_cases hms : m ≤ s
    · obtain ⟨before, rest, b, hseek, rfl, hbef, hbs, hrest⟩ := ih hL hms (by omega)
      refine ⟨i :: before, rest, b, ?_, rfl, ⟨m, hb, he, hlt, hs, hbef⟩, hbs, hrest⟩
      simp [seek, hcmp, hms, hseek]
    · refine ⟨[], i :: L, a, ?_, rfl, rfl, has, h', ?_⟩
      · simp [seek, hcmp, hms]
      · rintro _ _ ⟨rfl, rfl⟩
        exact ⟨m, hb, he, by omega, hs, hL⟩

theorem chunk_spec (h : Tiles a L c) (has : a ≤ s) (hsc : s < c) (hsa : s - a ≤ 2 ^ 31) :
    ∃ before rest, chunk L (pos s) = .ok (before, rest) ∧ Tiles a before s ∧ Tiles s rest c ∧
      octets before ++ octets rest = octets L := by
  obtain ⟨before, rest, b, hseek, rfl, hbef, hbs, hrest, hstop⟩ := h.seek_spec has hsa
  cases rest with
  | nil =>
    cases hrest
    omega
  | cons i rest =>
    obtain ⟨m, hb, he, hsm, hs, hL⟩ := hstop i rest rfl
    have hcont : i.contains (pos s) = true := by
      rw [Region.contains, hb, he, seqLE_pos (by omega) (by omega),
        seqLess_pos (by omega) (by omega)]
      simp [hbs, hsm]
    rcases hbs.eq_or_lt with rfl | hlt
    · exact ⟨before, i :: rest, by simp [chunk, hseek, hcont, hb], hbef, hrest, by simp⟩
    · have hne : i.beginSeqNum ≠ pos s := by
        rw [hb, Ne, pos_inj (by omega) (by omega)]
        exact hlt.ne
      refine ⟨before ++ [{ i with endSeqNum := pos s }], { i with beginSeqNum := pos s } :: rest,
        by simp [chunk, hseek, hcont, hne], hbef.append (singleton hb rfl hlt (by omega)),
        ⟨m, rfl, he, hsm, by omega, hL⟩, ?_⟩
      have hsplit : (m - b).toNat = (s - b).toNat + (m - s).toNat := by omega
      simp only [octets_append, octets_cons, octets_nil, append_nil, append_assoc]
      rw [Region.octets_eq hb he (by omega) hs,
        Region.octets_eq (i := { i with endSeqNum := pos s }) hb rfl hlt.le (by omega),
        Region.octets_eq (i := { i with beginSeqNum := pos s }) rfl he hsm.le (by omega), hsplit,
        replicate_add, append_assoc]

theorem markRexmitted_spec (h : Tiles s L c) (hst : s ≤ t) (hts : t - s < 2 ^ 31) :
    ∃ hit rest b, markRexmitted (pos t) (pos s) L =
        (hit.map fun i => { i with rexmitted := true }, pos b, rest) ∧
      L = hit ++ rest ∧ Tiles s hit b ∧ b ≤ t ∧ Stops t b rest c := by
  induction L generalizing s with
  | nil => exact ⟨[], [], s, rfl, rfl, rfl, hst, h, by simp⟩
  | cons i L ih =>
    have h' := h
    obtain ⟨m, hb, he, hlt, hs, hL⟩ := h
    have hcmp := seqLE_end he hlt hs hst hts.le
    by_cases hmt : m ≤ t
    · obtain ⟨hit, rest, b, hmark, rfl, hhit, hbt, hrest⟩ := ih hL hmt (by omega)
      refine ⟨i :: hit, rest, b, ?_, rfl, ⟨m, hb, he, hlt, hs, hhit⟩, hbt, hrest⟩
      rw [markRexmitted, hcmp, he, hmark]
      simp [hmt, he]
    · refine ⟨[], i :: L, s, ?_, rfl, rfl, hst, h', ?_⟩
      · simp [markRexmitted, hcmp, hmt]
      · rintro _ _ ⟨rfl, rfl⟩
        exact ⟨m, hb, he, by omega, hs, hL⟩

theorem markSacked_spec (h : Tiles s L c) (has : a ≤ s) (hst : s ≤ t) (hta : t - a < 2 ^ 31) :
    ∃ hit rest b, markSacked (pos a) (pos t) L =
        (hit.map fun i => { i with sacked := true }, rest) ∧
      L = hit ++ rest ∧ Tiles s hit b ∧ b ≤ t ∧ Stops t b rest c := by
  induction L generalizing s with
  | nil => exact ⟨[], [], s, rfl, rfl, rfl, hst, h, by simp⟩
  | cons i L ih =>
    have h' := h
    obtain ⟨m, hb, he, hlt, hs, hL⟩ := h
    have hcmp := seqLE_end he hlt hs hst (by omega)
    by_cases hmt : m ≤ t
    · obtain ⟨hit, rest, b, hmark, rfl, hhit, hbt, hrest⟩ := ih hL (by omega) hmt
      have hge : seqGE i.beginSeqNum (pos a) = true := by
        rw [hb, seqGE_pos (by omega) (by omega)]
        simpa using has
      refine ⟨i :: hit, rest, b, ?_, rfl, ⟨m, hb, he, hlt, hs, hhit⟩, hbt, hrest⟩
      simp [markSacked, hcmp, hmt, hge, hmark]
    · refine ⟨[], i :: L, s, ?_, rfl, rfl, hst, h', ?_⟩
      · simp [markSacked, hcmp, hmt]
      · rintro _ _ ⟨rfl, rfl⟩
        exact ⟨m, hb, he, by omega, hs, hL⟩

end Tiles

variable {g : Flags → Flags}

/-- The octets of regions whose flags are changed one by one. -/
theorem octets_map {f : Region → Region} (hf : ∀ i, (f i).octets = i.octets.map g) (L : List Region)
    :
    octets (L.map f) = (octets L).map g := by
  induction L with
  | nil => rfl
  | cons i L ih => rw [map_cons, octets_cons, octets_cons, ih, hf, map_append]

/-! ### The scoreboard -/

/-- Change the flags of the octets from number `m` on and before number `n`. -/
def modify (g : Flags → Flags) (m n : ℕ) (l : List Flags) : List Flags :=
  l.mapIdx fun k x => if m ≤ k ∧ k < n then g x else x

theorem modify_append {m n : ℕ} {A M Z : List Flags} (hA : A.length = m)
    (hM : A.length + M.length = n ∨ Z = [] ∧ A.length + M.length ≤ n) :
    modify g m n (A ++ M ++ Z) = A ++ M.map g ++ Z := by
  subst hA
  have hlow : A.mapIdx (fun k x => if A.length ≤ k ∧ k < n then g x else x) = A := by
    rw [mapIdx_eq_iff]
    intro k
    cases hk : A[k]? with
    | none => rfl
    | some x =>
      have := (List.getElem?_eq_some_iff.1 hk).1
      simp [show ¬ A.length ≤ k by omega]
  have hmid : M.mapIdx (fun k x => if A.length ≤ k + A.length ∧ k + A.length < n then g x else x) =
      M.map g := by
    rw [mapIdx_eq_iff]
    intro k
    rw [List.getElem?_map]
    cases hk : M[k]? with
    | none => rfl
    | some x =>
      have := (List.getElem?_eq_some_iff.1 hk).1
      simp [show k + A.length < n by omega]
  have hhigh : Z.mapIdx (fun k x => if A.length ≤ k + (A ++ M).length ∧ k + (A ++ M).length < n
      then g x else x) = Z := by
    rw [mapIdx_eq_iff]
    intro k
    cases hk : Z[k]? with
    | none => rfl
    | some x =>
      have hlt := (List.getElem?_eq_some_iff.1 hk).1
      have : ¬ k + (A ++ M).length < n := by
        rcases hM with hM | ⟨rfl, -⟩
        · simp only [length_append]; omega
        · simp at hlt
      rw [Option.map_some, if_neg fun h => this h.2]
  rw [modify, mapIdx_append, mapIdx_append, hlow, hmid, hhigh]

/-- What the queue is a compressed form of: the flags of the octets from a sequence number on. -/
structure Scoreboard where
  beginSeq : SeqNo
  octets : List Flags
  deriving DecidableEq

/-- A call that changes the queue. -/
inductive Call
  | init (seqNum : SeqNo)
  | discardUpTo (seqNum : SeqNo)
  | enqueueSentData (fromSeqNum toSeqNum : SeqNo)
  | setSackedBit (fromSeqNum toSeqNum : SeqNo)
  | resetSackedBit
  | resetRexmittedBit
  deriving DecidableEq

namespace Scoreboard

/-- The number of the octet with the sequence number `x`. -/
def index (B : Scoreboard) (x : SeqNo) : ℕ := (x - B.beginSeq).toNat

/-- The effect of a call on the flags of the octets. -/
def call (B : Scoreboard) : Call → Scoreboard
  | .init seqNum => ⟨seqNum, []⟩
  | .discardUpTo seqNum => ⟨seqNum, B.octets.drop (B.index seqNum)⟩
  | .enqueueSentData fromSeqNum toSeqNum =>
    let marked := modify rexmit (B.index fromSeqNum) (B.index toSeqNum) B.octets
    { B with octets := marked ++ replicate (B.index toSeqNum - B.octets.length) ⟨false, false⟩ }
  | .setSackedBit fromSeqNum toSeqNum =>
    let first := if seqLess fromSeqNum B.beginSeq then 0 else B.index fromSeqNum
    { B with octets := modify sack first (B.index toSeqNum) B.octets }
  | .resetSackedBit => { B with octets := B.octets.map fun x => { x with sacked := false } }
  | .resetRexmittedBit => { B with octets := B.octets.map fun x => { x with rexmitted := false } }

end Scoreboard

/-! ### The calls -/

namespace Tiles

variable {a c s t : ℤ} {L : List Region}

theorem isEmpty_eq (h : Tiles a L c) (hac : a < c) : L.isEmpty = false := by
  cases L with
  | nil =>
    have : a = c := h
    omega
  | cons i L => rfl

theorem octets_map_rexmit (L : List Region) :
    octets (L.map fun i => { i with rexmitted := true }) = (octets L).map rexmit :=
  octets_map (fun i => by simp [Region.octets, rexmit]) L

theorem octets_map_sack (L : List Region) :
    octets (L.map fun i => { i with sacked := true }) = (octets L).map sack :=
  octets_map (fun i => by simp [Region.octets, sack]) L

/-- Changing the flags of the regions `hit` and of the first part of the region `i`, which is cut in
two at `t`. -/
theorem octets_cut {b m : ℤ} {before hit marked rest : List Region} {i i' : Region}
    (hbef : Tiles a before s) (hhit : Tiles s hit b) (hmarked : octets marked = (octets hit).map g)
    (hb : i.beginSeqNum = pos b) (he : i.endSeqNum = pos m) (hs : m - b < 2 ^ 31) (hbt : b ≤ t)
    (htm : t < m) (hb' : i'.beginSeqNum = pos b) (he' : i'.endSeqNum = pos t)
    (hg : (⟨i'.sacked, i'.rexmitted⟩ : Flags) = g ⟨i.sacked, i.rexmitted⟩) :
    octets (before ++ marked ++ i' :: { i with beginSeqNum := pos t } :: rest) =
      modify g (s - a).toNat (t - a).toNat
        (octets before ++ (octets hit ++ octets (i :: rest))) := by
  have hlenA := hbef.length_octets
  have hlenM := hhit.length_octets
  have hle := hbef.le
  have hle' := hhit.le
  have hsplit : (m - b).toNat = (t - b).toNat + (m - t).toNat := by omega
  have hoct : octets before ++ (octets hit ++ octets (i :: rest)) =
      octets before ++ (octets hit ++ replicate (t - b).toNat ⟨i.sacked, i.rexmitted⟩) ++
        (replicate (m - t).toNat ⟨i.sacked, i.rexmitted⟩ ++ octets rest) := by
    rw [octets_cons, Region.octets_eq hb he (by omega) hs, hsplit, replicate_add]
    simp only [append_assoc]
  rw [hoct, modify_append hlenA (.inl (by simp; omega))]
  simp only [octets_append, octets_cons, hmarked, map_append, map_replicate,
    append_assoc, Region.octets_eq hb' he' hbt (by omega), hg,
    Region.octets_eq (i := { i with beginSeqNum := pos t }) rfl he htm.le (by omega)]

theorem enqueueRegions (h : Tiles a L c) (has : a ≤ s) (hsc : s ≤ c) (hsa : s - a < 2 ^ 31)
    (hcs : c - s < 2 ^ 31) (hst : s < t) (hts : t - s < 2 ^ 31) :
    ∃ R, enqueueRegions L (pos c) (pos s) (pos t) = .ok R ∧ Tiles a R (max c t) ∧
      octets R = modify rexmit (s - a).toNat (t - a).toNat (octets L) ++
        replicate (t - c).toNat ⟨false, false⟩ := by
  have hend : (pos c == pos s) = decide (c = s) := by
    rw [Bool.eq_iff_iff, beq_iff_eq, decide_eq_true_eq, pos_inj (by omega) (by omega)]
  rcases hsc.eq_or_lt with rfl | hlt
  · -- new octets
    refine ⟨L ++ [⟨pos s, pos t, false, false⟩], by simp [TCPSACKRexmitQueue.enqueueRegions],
      ?_, ?_⟩
    · rw [max_eq_right hst.le]
      exact h.append (singleton rfl rfl hst hts)
    · have hmod := modify_append (g := rexmit) (m := (s - a).toNat) (n := (t - a).toNat)
        (A := octets L) (M := []) (Z := []) h.length_octets
        (.inr ⟨rfl, by rw [h.length_octets]; simp; omega⟩)
      simp only [append_nil, map_nil] at hmod
      rw [hmod, octets_append, octets_cons, octets_nil, append_nil,
        Region.octets_eq (i := ⟨pos s, pos t, false, false⟩) rfl rfl hst.le hts]
  · obtain ⟨before, rest, hchunk, hbef, hrest, hoct⟩ := h.chunk_spec has hlt hsa.le
    obtain ⟨hit, rest, b, hmark, rfl, hhit, hbt, hstop⟩ := hrest.markRexmitted_spec hst.le hts
    have hsb := hhit.le
    have hlenA := hbef.length_octets
    have hlenM := hhit.length_octets
    have hcond : (L.isEmpty || pos c == pos s) = false := by
      rw [hend, h.isEmpty_eq (by omega)]
      simpa using hlt.ne'
    have hmarked := hhit.map (f := fun i => { i with rexmitted := true })
      (fun _ => rfl) (fun _ => rfl)
    have hne : pos b = pos t ↔ b = t := pos_inj (by omega) (by omega)
    rw [octets_append] at hoct
    cases rest with
    | nil =>
      -- the regions up to the end are marked, the octets after it are new
      obtain ⟨hbc, -⟩ := hstop
      obtain rfl : b = c := hbc
      have hmod := modify_append (g := rexmit) (m := (s - a).toNat) (n := (t - a).toNat)
        (A := octets before) (M := octets hit) (Z := []) hlenA (.inr ⟨rfl, by omega⟩)
      simp only [append_nil, octets_nil] at hmod hoct hchunk hmark
      rw [← hoct, hmod, max_eq_right hbt]
      have hR : Tiles a (before ++ hit.map fun i => { i with rexmitted := true }) b :=
        hbef.append hmarked
      by_cases hbt' : b = t
      · subst hbt'
        refine ⟨_, by simp [TCPSACKRexmitQueue.enqueueRegions, hcond, hchunk, hmark], hR, ?_⟩
        simp [octets_map_rexmit]
      · refine ⟨_, by simp [TCPSACKRexmitQueue.enqueueRegions, hcond, hchunk, hmark, hne, hbt'],
          hR.append (singleton (i := ⟨pos b, pos t, false, false⟩) rfl rfl (by omega) (by omega)),
          ?_⟩
        rw [octets_append, octets_append, octets_map_rexmit, octets_cons, octets_nil,
          Region.octets_eq (i := ⟨pos b, pos t, false, false⟩) rfl rfl hbt (by omega),
          append_nil]
    | cons i rest =>
      obtain ⟨hT, hstop⟩ := hstop
      obtain ⟨m, hb, he, htm, hs, hTm⟩ := hstop i rest rfl
      have hmc := hTm.le
      have hnil : replicate (t - c).toNat (⟨false, false⟩ : Flags) = [] := by
        rw [show (t - c).toNat = 0 by omega, replicate_zero]
      rw [← hoct, hnil, max_eq_left (show t ≤ c by omega), append_nil]
      by_cases hbt' : b = t
      · subst hbt'
        refine ⟨_, by simp [TCPSACKRexmitQueue.enqueueRegions, hcond, hchunk, hmark],
          (hbef.append hmarked).append hT, ?_⟩
        rw [← append_assoc, modify_append hlenA (.inl (by omega)), octets_append,
          octets_append, octets_map_rexmit]
      · -- the last region reached is cut in two, its first part is marked
        have hless : seqLess i.beginSeqNum (pos t) = true := by
          rw [hb, seqLess_pos (by omega) (by omega)]
          simpa using by omega
        have htail : Tiles b (⟨pos b, pos t, i.sacked, true⟩ ::
            { i with beginSeqNum := pos t } :: rest) c :=
          ⟨t, rfl, rfl, by omega, by omega, m, rfl, he, htm, by omega, hTm⟩
        refine ⟨_, ?_, (hbef.append hmarked).append htail, ?_⟩
        · simp [TCPSACKRexmitQueue.enqueueRegions, hcond, hchunk, hmark, hne, hbt', hless]
        exact octets_cut hbef hhit (octets_map_rexmit hit) hb he hs hbt htm rfl rfl rfl

theorem sackRegions (h : Tiles a L c) (has : a ≤ s) (hst : s < t) (htc : t ≤ c)
    (hta : t - a < 2 ^ 31) :
    ∃ R, sackRegions L (pos s) (pos t) = .ok R ∧ Tiles a R c ∧
      octets R = modify sack (s - a).toNat (t - a).toNat (octets L) := by
  obtain ⟨before, rest, hchunk, hbef, hrest, hoct⟩ :=
    h.chunk_spec has (show s < c by omega) (by omega)
  obtain ⟨hit, rest, b, hmark, rfl, hhit, hbt, hT, hstop⟩ :=
    hrest.markSacked_spec le_rfl hst.le (by omega)
  have hempty := h.isEmpty_eq (by omega)
  have hlenA := hbef.length_octets
  have hlenM := hhit.length_octets
  have hsb := hhit.le
  have hmarked := hhit.map (f := fun i => { i with sacked := true }) (fun _ => rfl) (fun _ => rfl)
  rw [octets_append] at hoct
  cases rest with
  | nil =>
    obtain rfl : b = c := hT
    obtain rfl : b = t := by omega
    have hmod := modify_append (g := sack) (m := (s - a).toNat) (n := (b - a).toNat)
      (A := octets before) (M := octets hit) (Z := []) hlenA (.inl (by omega))
    simp only [append_nil, octets_nil] at hmod hoct hchunk hmark
    refine ⟨before ++ hit.map fun i => { i with sacked := true }, ?_, hbef.append hmarked, ?_⟩
    · simp [TCPSACKRexmitQueue.sackRegions, hempty, hchunk, hmark]
    · rw [← hoct, hmod, octets_append, octets_map_sack]
  | cons i rest =>
    obtain ⟨m, hb, he, htm, hs, hTm⟩ := hstop i rest rfl
    rw [← hoct]
    have hless : (seqLess i.beginSeqNum (pos t) && seqLess (pos t) i.endSeqNum) =
        decide (b < t) := by
      rw [hb, he, seqLess_pos (by omega) (by omega), seqLess_pos (by omega) (by omega)]
      simp [htm]
    by_cases hbt' : b < t
    · have htail : Tiles b ({ i with endSeqNum := pos t, sacked := true } ::
          { i with beginSeqNum := pos t } :: rest) c :=
        ⟨t, hb, rfl, by omega, by omega, m, rfl, he, htm, by omega, hTm⟩
      refine ⟨_, ?_, (hbef.append hmarked).append htail, ?_⟩
      · simp only [TCPSACKRexmitQueue.sackRegions, hempty, hchunk, hmark, ok_bind,
          false_eq_true, if_false, hless, decide_eq_true_eq, if_pos hbt']
      · exact octets_cut hbef hhit (octets_map_sack hit) hb he hs hbt htm hb rfl rfl
    · refine ⟨_, ?_, (hbef.append hmarked).append hT, ?_⟩
      · simp only [TCPSACKRexmitQueue.sackRegions, hempty, hchunk, hmark, ok_bind,
          false_eq_true, if_false, hless, decide_eq_true_eq, if_neg hbt']
      · rw [← append_assoc, modify_append hlenA (.inl (by omega)), octets_append,
          octets_append, octets_map_sack]

end Tiles

/-- The queue stores the octets at the positions from `a` to `c`. -/
structure Spans (q : TCPSACKRexmitQueue) (a c : ℤ) : Prop where
  beginSeq_eq : q.beginSeq = pos a
  endSeq_eq : q.endSeq = pos c
  tiles : Tiles a q.rexmitQueue c
  lt : c - a < 2 ^ 32

namespace Spans

variable {q : TCPSACKRexmitQueue} {a c s t : ℤ}

variable (h : Spans q a c)
include h

theorem le : a ≤ c := h.tiles.le

theorem checkQueue : q.checkQueue = true := by
  have := h.tiles.checkQueue
  rwa [← h.beginSeq_eq, ← h.endSeq_eq] at this

theorem checked : q.checked = .ok q := by
  rw [TCPSACKRexmitQueue.checked, if_pos h.checkQueue]

theorem discardUpTo (has : a ≤ s) (hsc : s ≤ c) (hsa : s - a < 2 ^ 31) (hcs : c - s < 2 ^ 31) :
    ∃ q', q.discardUpTo (pos s) = .ok q' ∧ Spans q' s c ∧
      octets q'.rexmitQueue = (octets q.rexmitQueue).drop (s - a).toNat := by
  have hguard : (seqLE q.beginSeq (pos s) && seqLE (pos s) q.endSeq) = true := by
    rw [h.beginSeq_eq, h.endSeq_eq, seqLE_pos hsa (by omega), seqLE_pos hcs (by omega)]
    simp [has, hsc]
  obtain ⟨before, rest, b, hseek, hL, hbef, hbs, hrest, hstop⟩ := h.tiles.seek_spec has hsa.le
  have hlen := hbef.length_octets
  have hle := hbef.le
  cases rest with
  | nil =>
    obtain rfl : b = c := hrest
    obtain rfl : b = s := le_antisymm hbs hsc
    have hq : Spans { q with rexmitQueue := [], beginSeq := pos b } b b :=
      ⟨rfl, h.endSeq_eq, rfl, by omega⟩
    refine ⟨_, ?_, hq, ?_⟩
    · simp [TCPSACKRexmitQueue.discardUpTo, hguard, hseek, hq.checked]
    · rw [hL, octets_append, drop_eq_nil_of_le (by simp [hlen])]
      rfl
  | cons i rest =>
    obtain ⟨m, hb, he, hsm, hs, hT⟩ := hstop i rest rfl
    have hcont : i.contains (pos s) = true := by
      rw [Region.contains, hb, he, seqLE_pos (by omega) (by omega),
        seqLess_pos (by omega) (by omega)]
      simp [hbs, hsm]
    have hq : Spans { q with
        rexmitQueue := { i with beginSeqNum := pos s } :: rest, beginSeq := pos s } s c :=
      ⟨rfl, h.endSeq_eq, ⟨m, rfl, he, hsm, by omega, hT⟩, by have := h.lt; omega⟩
    refine ⟨_, ?_, hq, ?_⟩
    · simp [TCPSACKRexmitQueue.discardUpTo, hguard, hseek, hcont, hq.checked]
    · have hsplit : (s - a).toNat = (octets before).length + (s - b).toNat := by omega
      have hoct := Region.octets_eq hb he (by omega) hs
      rw [hL, octets_append, octets_cons, octets_cons, hsplit,
        drop_length_add_append, hoct,
        drop_append_of_le_length (by rw [length_replicate]; omega), drop_replicate,
        Region.octets_eq (i := { i with beginSeqNum := pos s }) rfl he hsm.le (by omega),
        show (m - b).toNat - (s - b).toNat = (m - s).toNat by omega]

theorem enqueueSentData (has : a ≤ s) (hsc : s ≤ c) (hsa : s - a < 2 ^ 31) (hcs : c - s < 2 ^ 31)
    (hst : s < t) (hts : t - s < 2 ^ 31) :
    ∃ q', q.enqueueSentData (pos s) (pos t) = .ok q' ∧ Spans q' a (max c t) ∧
      octets q'.rexmitQueue = modify rexmit (s - a).toNat (t - a).toNat (octets q.rexmitQueue) ++
        replicate (t - c).toNat ⟨false, false⟩ := by
  have hguard : (seqLE q.beginSeq (pos s) && seqLE (pos s) q.endSeq) = true := by
    rw [h.beginSeq_eq, h.endSeq_eq, seqLE_pos hsa (by omega), seqLE_pos hcs (by omega)]
    simp [has, hsc]
  have hlt : seqLess (pos s) (pos t) = true := by
    rw [seqLess_pos hts (by omega)]
    simpa using hst
  obtain ⟨R, henq, hR, hoct⟩ := h.tiles.enqueueRegions has hsc hsa hcs hst hts
  cases R with
  | nil =>
    have : a = max c t := hR
    omega
  | cons front R =>
    have hback := getLast?_eq_some_getLast (cons_ne_nil front R)
    have hq : Spans ⟨front :: R, front.beginSeqNum, ((front :: R).getLast (by simp)).endSeqNum⟩
        a (max c t) := ⟨hR.head_eq, hR.getLast_eq hback, hR, by have := h.lt; omega⟩
    refine ⟨_, ?_, hq, hoct⟩
    rw [TCPSACKRexmitQueue.enqueueSentData, hguard, hlt, h.endSeq_eq, henq]
    simp only [not_true_eq_false, if_false, ok_bind, hback, hq.checked, head?_cons]

theorem setSackedBit {x : SeqNo} (hx : q.clamp x = pos s) (has : a ≤ s) (hst : s < t) (htc : t ≤ c)
    (hta : t - a < 2 ^ 31) (hcs : c - s < 2 ^ 31) :
    ∃ q', q.setSackedBit x (pos t) = .ok q' ∧ Spans q' a c ∧
      octets q'.rexmitQueue = modify sack (s - a).toNat (t - a).toNat (octets q.rexmitQueue) := by
  have hsc : seqLess (pos s) q.endSeq = true := by
    rw [h.endSeq_eq, seqLess_pos hcs (by omega)]
    simpa using by omega
  have hct : (seqLess q.beginSeq (pos t) && seqLE (pos t) q.endSeq) = true := by
    rw [h.beginSeq_eq, h.endSeq_eq, seqLess_pos hta (by omega), seqLE_pos (by omega) (by omega)]
    simp only [and_eq_true, decide_eq_true_eq]
    omega
  have hst' : seqLess (pos s) (pos t) = true := by
    rw [seqLess_pos (by omega) (by omega)]
    simpa using hst
  obtain ⟨R, hsack, hR, hoct⟩ := h.tiles.sackRegions has hst htc hta
  have hq : Spans { q with rexmitQueue := R } a c := ⟨h.beginSeq_eq, h.endSeq_eq, hR, h.lt⟩
  refine ⟨_, ?_, hq, hoct⟩
  simp only [TCPSACKRexmitQueue.setSackedBit, hx, hsc, hct, hst', hsack, hq.checked,
    not_true_eq_false, if_false, ok_bind]

end Spans

/-- The effect of a call on the queue. -/
def call (q : TCPSACKRexmitQueue) : Call → Except Fault TCPSACKRexmitQueue
  | .init seqNum => .ok (q.init seqNum)
  | .discardUpTo seqNum => q.discardUpTo seqNum
  | .enqueueSentData fromSeqNum toSeqNum => q.enqueueSentData fromSeqNum toSeqNum
  | .setSackedBit fromSeqNum toSeqNum => q.setSackedBit fromSeqNum toSeqNum
  | .resetSackedBit => .ok q.resetSackedBit
  | .resetRexmittedBit => .ok q.resetRexmittedBit

/-- What the assertions at the head of the functions ask of the arguments of a call. -/
def Asserted (q : TCPSACKRexmitQueue) : Call → Prop
  | .discardUpTo seqNum => seqLE q.beginSeq seqNum ∧ seqLE seqNum q.endSeq
  | .enqueueSentData fromSeqNum toSeqNum =>
    seqLE q.beginSeq fromSeqNum ∧ seqLE fromSeqNum q.endSeq ∧ seqLess fromSeqNum toSeqNum
  | .setSackedBit fromSeqNum toSeqNum =>
    seqLess (q.clamp fromSeqNum) q.endSeq ∧
      (seqLess q.beginSeq toSeqNum ∧ seqLE toSeqNum q.endSeq) ∧
      seqLess (q.clamp fromSeqNum) toSeqNum
  | _ => True

instance (q : TCPSACKRexmitQueue) : DecidablePred (Asserted q)
  | .init _ | .resetSackedBit | .resetRexmittedBit => isTrue trivial
  | .discardUpTo seqNum => inferInstanceAs (Decidable
      (seqLE q.beginSeq seqNum = true ∧ seqLE seqNum q.endSeq = true))
  | .enqueueSentData fromSeqNum toSeqNum => inferInstanceAs (Decidable
      (seqLE q.beginSeq fromSeqNum = true ∧ seqLE fromSeqNum q.endSeq = true ∧
        seqLess fromSeqNum toSeqNum = true))
  | .setSackedBit fromSeqNum toSeqNum =>
    inferInstanceAs (Decidable (seqLess (q.clamp fromSeqNum) q.endSeq = true ∧
      (seqLess q.beginSeq toSeqNum = true ∧ seqLE toSeqNum q.endSeq = true) ∧
      seqLess (q.clamp fromSeqNum) toSeqNum = true))

/-- A call of `init` finds an empty region list. -/
def InitOnEmpty (q : TCPSACKRexmitQueue) : Call → Prop
  | .init _ => q.rexmitQueue = []
  | _ => True

/-- The scoreboard that the queue stands for. -/
def scoreboard (q : TCPSACKRexmitQueue) : Scoreboard := ⟨q.beginSeq, octets q.rexmitQueue⟩

namespace Spans

variable {q : TCPSACKRexmitQueue} {a c : ℤ}

theorem index_pos {s : ℤ} (h : Spans q a c) (has : a ≤ s) (hsa : s - a < 2 ^ 32) :
    q.scoreboard.index (pos s) = (s - a).toNat := by
  rw [Scoreboard.index, scoreboard, h.beginSeq_eq, dist_pos has hsa]

theorem length_octets (h : Spans q a c) : q.scoreboard.octets.length = (c - a).toNat :=
  h.tiles.length_octets

/-- The first octet that `setSackedBit` looks at. -/
theorem exists_clamped (h : Spans q a c) (x : SeqNo) :
    ∃ s, q.clamp x = pos s ∧ a ≤ s ∧ s - a ≤ 2 ^ 31 ∧
      (if seqLess x q.scoreboard.beginSeq then 0 else q.scoreboard.index x) = (s - a).toNat := by
  rw [clamp, show q.scoreboard.beginSeq = q.beginSeq from rfl]
  split_ifs with hx
  · exact ⟨a, h.beginSeq_eq, le_rfl, by omega, by omega⟩
  · obtain ⟨s, rfl, has, hsa⟩ := Serial.exists_wrap x a
    refine ⟨s, rfl, has, ?_, h.index_pos has (by omega)⟩
    rw [h.beginSeq_eq] at hx
    by_contra hcon
    refine hx ?_
    have hd := dist_pos_neg (p := a) (q := s) (by omega) (by omega)
    have hne : pos s ≠ pos a := by
      rw [Ne, pos_inj (by omega) (by omega)]
      omega
    rw [seqLess, and_eq_true, bne_iff_ne, decide_eq_true_eq]
    exact ⟨hne, show (pos a - pos s).toNat < 2 ^ 31 by omega⟩

/-- The positions of the arguments of `setSackedBit`. -/
theorem exists_of_sack (h : Spans q a c) {x y : SeqNo} (hk : q.Asserted (.setSackedBit x y)) :
    ∃ s t, q.clamp x = pos s ∧ y = pos t ∧ a ≤ s ∧ s < t ∧ t ≤ c ∧ t - a < 2 ^ 31 ∧
      c - s < 2 ^ 31 ∧
      (if seqLess x q.scoreboard.beginSeq then 0 else q.scoreboard.index x) = (s - a).toNat := by
  have hlt := h.lt
  have hle := h.le
  obtain ⟨h1, ⟨h2, h3⟩, h4⟩ := hk
  obtain ⟨s, hs, has, hsa, hfirst⟩ := h.exists_clamped x
  rw [hs, h.endSeq_eq] at h1
  rw [hs] at h4
  obtain ⟨hsc, hcs⟩ := le_of_seqLE_pos has hsa hle hlt (seqLE_of_seqLess h1)
  obtain ⟨t, rfl, hst, hts⟩ := exists_pos_of_seqGE (seqLE_of_seqLess h4)
  rw [seqLess_pos hts (by omega), decide_eq_true_eq] at h4
  have hta := seqLE_of_seqLess h2
  rw [h.beginSeq_eq, seqLE, dist_pos (by omega) (by omega), decide_eq_true_eq] at hta
  rw [h.endSeq_eq] at h3
  obtain ⟨htc, -⟩ := le_of_seqLE_pos (show a ≤ t by omega) (by omega) hle hlt h3
  exact ⟨s, t, hs, rfl, has, h4, htc, by omega, hcs, hfirst⟩

/-- A call that meets its assertions does not fail, and it has the effect of the call on the
scoreboard. -/
theorem call (h : Spans q a c) {k : Call} (hk : q.Asserted k) (hi : q.InitOnEmpty k) :
    ∃ q', q.call k = .ok q' ∧ (∃ a' c', Spans q' a' c') ∧ q'.scoreboard = q.scoreboard.call k := by
  have hlt := h.lt
  have hle := h.le
  cases k with
  | init seqNum =>
    obtain ⟨p, rfl⟩ : ∃ p, pos p = seqNum := ⟨seqNum.toNat, Serial.wrap_toNat seqNum⟩
    have hnil : q.rexmitQueue = [] := hi
    refine ⟨_, rfl, ⟨p, p, rfl, rfl, ?_, by omega⟩, ?_⟩
    · rw [TCPSACKRexmitQueue.init, hnil]
      rfl
    · simp [scoreboard, TCPSACKRexmitQueue.init, Scoreboard.call, hnil]
  | discardUpTo seqNum =>
    obtain ⟨h1, h2⟩ := hk
    rw [h.beginSeq_eq] at h1
    obtain ⟨s, rfl, has, hsa⟩ := exists_pos_of_seqGE h1
    rw [h.endSeq_eq] at h2
    obtain ⟨hsc, hcs⟩ := le_of_seqLE_pos has hsa.le hle hlt h2
    obtain ⟨q', hq', hspans, hoct⟩ := h.discardUpTo has hsc hsa hcs
    refine ⟨q', hq', ⟨s, c, hspans⟩, ?_⟩
    rw [Scoreboard.call, h.index_pos has (by omega), scoreboard, hspans.beginSeq_eq, hoct]
    rfl
  | enqueueSentData fromSeqNum toSeqNum =>
    obtain ⟨h1, h2, h3⟩ := hk
    rw [h.beginSeq_eq] at h1
    obtain ⟨s, rfl, has, hsa⟩ := exists_pos_of_seqGE h1
    rw [h.endSeq_eq] at h2
    obtain ⟨hsc, hcs⟩ := le_of_seqLE_pos has hsa.le hle hlt h2
    obtain ⟨t, rfl, hst, hts⟩ := exists_pos_of_seqGE (seqLE_of_seqLess h3)
    rw [seqLess_pos hts (by omega), decide_eq_true_eq] at h3
    obtain ⟨q', hq', hspans, hoct⟩ := h.enqueueSentData has hsc hsa hcs h3 hts
    refine ⟨q', hq', ⟨a, max c t, hspans⟩, ?_⟩
    rw [Scoreboard.call, h.index_pos has (by omega), h.index_pos (s := t) (by omega) (by omega),
      h.length_octets, scoreboard, hspans.beginSeq_eq, hoct,
      show (t - a).toNat - (c - a).toNat = (t - c).toNat by omega, ← h.beginSeq_eq]
    rfl
  | setSackedBit fromSeqNum toSeqNum =>
    obtain ⟨s, t, hs, rfl, has, hst, htc, hta, hcs, hfirst⟩ := h.exists_of_sack hk
    obtain ⟨q', hq', hspans, hoct⟩ := h.setSackedBit hs has hst htc hta hcs
    refine ⟨q', hq', ⟨a, c, hspans⟩, ?_⟩
    rw [Scoreboard.call, hfirst, h.index_pos (s := t) (by omega) (by omega), scoreboard,
      hspans.beginSeq_eq, hoct, ← h.beginSeq_eq]
    rfl
  | resetSackedBit =>
    refine ⟨_, rfl, ⟨a, c, h.beginSeq_eq, h.endSeq_eq,
      h.tiles.map (fun _ => rfl) (fun _ => rfl), h.lt⟩, ?_⟩
    simp only [scoreboard, TCPSACKRexmitQueue.resetSackedBit, Scoreboard.call]
    rw [octets_map (g := fun x => { x with sacked := false })
      (fun i => by simp [Region.octets])]
  | resetRexmittedBit =>
    refine ⟨_, rfl, ⟨a, c, h.beginSeq_eq, h.endSeq_eq,
      h.tiles.map (fun _ => rfl) (fun _ => rfl), h.lt⟩, ?_⟩
    simp only [scoreboard, TCPSACKRexmitQueue.resetRexmittedBit, Scoreboard.call]
    rw [octets_map (g := fun x => { x with rexmitted := false })
      (fun i => by simp [Region.octets])]

end Spans

/-- After any run of calls that meet their assertions, where `init` finds an empty list: the regions
are contiguous, not empty and cover `[begin, end)`, the flags of the octets are those of the
scoreboard, and the next such call does not fail either. -/
theorem calls_eq_scoreboard {calls : List Call} {q : TCPSACKRexmitQueue}
    (h : Trace.Run call (fun q k => q.Asserted k ∧ q.InitOnEmpty k) {} calls q) :
    q.checkQueue = true ∧ q.scoreboard = calls.foldl Scoreboard.call ⟨0, []⟩ ∧
      ∀ k, q.Asserted k → q.InitOnEmpty k → ∃ q', q.call k = .ok q' := by
  have hrun := h.simulation (f := Scoreboard.call) (t := ⟨0, []⟩)
    (R := fun q B => (∃ a c, Spans q a c) ∧ q.scoreboard = B) ?_ ?_
  · obtain ⟨⟨a, c, hspans⟩, hB⟩ := hrun
    refine ⟨hspans.checkQueue, hB, fun k hk hi => ?_⟩
    obtain ⟨q', hq', -⟩ := hspans.call hk hi
    exact ⟨q', hq'⟩
  · rintro q B k q' ⟨⟨a, c, hspans⟩, rfl⟩ ⟨hk, hi⟩ hq'
    obtain ⟨q'', hq'', hspans', hB⟩ := hspans.call hk hi
    rw [hq'] at hq''
    cases hq''
    exact ⟨hspans', hB⟩
  · exact ⟨⟨0, 0, rfl, rfl, rfl, by decide⟩, rfl⟩

theorem calls_eq_scoreboard_wrapping : ∃ q : TCPSACKRexmitQueue,
    q.checkQueue = true ∧ q.scoreboard = ⟨-2, [⟨false, true⟩, ⟨true, true⟩, ⟨true, false⟩]⟩ := by
  obtain ⟨h, hB, -⟩ := @calls_eq_scoreboard [.init (-3), .enqueueSentData (-3) 1,
    .setSackedBit (-1) 1, .enqueueSentData (-3) 0, .discardUpTo (-2)] _
    (.cons ⟨trivial, rfl⟩ rfl <| .cons ⟨by decide, trivial⟩ rfl <| .cons ⟨by decide, trivial⟩ rfl <|
      .cons ⟨by decide, trivial⟩ rfl <| .cons ⟨by decide, trivial⟩ rfl <| .nil _)
  exact ⟨_, h, hB.trans (by decide)⟩

/-- A second `init` on a queue that is not empty leaves the old regions behind. -/
theorem checkQueue_of_second_init : ∃ (calls : List Call) (q : TCPSACKRexmitQueue),
    calls = [.init 0, .enqueueSentData 0 10, .init 100] ∧ Trace.Run call Asserted {} calls q ∧
      q.checkQueue = false ∧ q.scoreboard ≠ calls.foldl Scoreboard.call ⟨0, []⟩ :=
  ⟨_, _, rfl, .cons trivial rfl <| .cons (by decide) rfl <| .cons trivial rfl <| .nil _,
    by decide, by decide⟩

end TCPSACKRexmitQueue

end Hiwis
