import Hiwis.Sctp.SCTPReceiveStream

/-!
# Reassembling a user message

A user message is cut into fragments with consecutive transmission sequence numbers, of which
each travels in a data chunk of its own.  `reassemble`, called for a fragment that is in the
queue, joins the fragments when all of them are there (`SCTP.reassemble_of_complete`) and leaves
the queue alone when one is missing (`SCTP.reassemble_of_missing`).  It counts the fragments by
comparing the plain numbers, which goes wrong when one after the first has the largest one.
-/

namespace Hiwis

open List BitVec Nat Function

namespace SCTP

/-- A message of a stream.  The ordered messages are numbered; the low 16 bits of the number are
the stream sequence number. -/
structure UserMessage where
  ordered : Bool
  seq : ℕ
  firstTSN : TSN
  fragments : List (List (BitVec 8))
deriving DecidableEq

namespace UserMessage

section

variable (m : UserMessage)

def size : ℕ := m.fragments.length

def tsn (i : ℕ) : TSN := m.firstTSN + BitVec.ofNat 32 i

def ssn : SSN := BitVec.ofNat 16 m.seq

/-- A chunk with these bytes. -/
def carry (data : List (BitVec 8)) (tsn : TSN) (bbit ebit : Bool) :
    SCTPDataVariables where
  userData := { data := data, dataLen := data.length, byteLength := data.length }
  len := 8 * data.length
  tsn := tsn
  ssn := m.ssn
  bbit := bbit
  ebit := ebit
  ordered := m.ordered

/-- The data chunk of the `i`-th fragment. -/
def chunk (i : ℕ) : SCTPDataVariables :=
  m.carry (m.fragments.getD i []) (m.tsn i) (i == 0) (i + 1 == m.size)

/-- The first `i` fragments, joined. -/
def joined (i : ℕ) : SCTPDataVariables :=
  m.carry (m.fragments.take i).flatten (m.tsn 0) true (m.size == 1)

/-- The whole message: the bytes of its fragments in the order of their TSNs. -/
def whole : SCTPDataVariables := m.carry m.fragments.flatten (m.tsn 0) true true

end

/-- A message has at least one fragment, and a message that is cut is cut into pieces that are
not empty. -/
structure Valid (m : UserMessage) : Prop where
  pos : 0 < m.size
  pieces : 1 < m.size → ∀ f ∈ m.fragments, f ≠ []
  tsn_inj : ∀ i < m.size, ∀ j < m.size, m.tsn i = m.tsn j → i = j

/-- No fragment after the first one has the largest TSN, and the length of the message in bits is
a 32-bit number. -/
structure Joinable (m : UserMessage) : Prop where
  ne_last : ∀ i < m.size, 0 < i → m.tsn i ≠ BitVec.allOnes 32
  length : 8 * m.fragments.flatten.length < 2 ^ 32

instance (m : UserMessage) : Decidable m.Joinable :=
  decidable_of_iff ((∀ i < m.size, 0 < i → m.tsn i ≠ BitVec.allOnes 32) ∧
    8 * m.fragments.flatten.length < 2 ^ 32) ⟨fun h => ⟨h.1, h.2⟩, fun h => ⟨h.1, h.2⟩⟩

variable {m : UserMessage} {i j : ℕ}

theorem tsn_succ (m : UserMessage) (i : ℕ) : m.tsn (i + 1) = m.tsn i + 1 := by
  rw [tsn, tsn, BitVec.add_assoc, ← ofNat_add_ofNat]
  rfl

theorem tsn_pred (m : UserMessage) (i : ℕ) : m.tsn (i + 1) - 1 = m.tsn i := by
  rw [tsn_succ, BitVec.add_sub_cancel]

theorem chunk_zero (h : 0 < m.size) : m.chunk 0 = m.joined 1 := by
  have hsize : (0 + 1 == m.size) = (m.size == 1) := by rw [zero_add, BEq.comm]
  obtain ⟨f, fs, hf⟩ := exists_cons_of_length_pos h
  rw [chunk, joined, hsize, hf]
  simp

theorem joined_size (m : UserMessage) : { m.joined m.size with ebit := true } = m.whole := by
  rw [joined, whole, size, take_length]
  rfl

theorem whole_eq_chunk (h : m.size = 1) : m.whole = m.chunk 0 := by
  rw [chunk_zero (by omega), ← joined_size, h, joined, h]
  rfl

/-- The numbers of the fragments after the first one ascend. -/
theorem Joinable.toNat_tsn (h : m.Joinable) (hi : i < m.size) :
    (m.tsn (i + 1)).toNat = (m.tsn 1).toNat + i := by
  induction i with
  | zero => rfl
  | succ i ih =>
    have hne := h.ne_last (i + 1) hi (succ_pos i)
    have hlt : (m.tsn (i + 1)).toNat + 1 < 2 ^ 32 := by
      have hlt := (m.tsn (i + 1)).isLt
      have hne' : (m.tsn (i + 1)).toNat ≠ 2 ^ 32 - 1 := by
        rw [← toNat_allOnes, Ne, toNat_inj]
        exact hne
      omega
    rw [tsn_succ, toNat_add, ih (by omega)]
    rw [ih (by omega)] at hlt
    exact mod_eq_of_lt hlt

end UserMessage

variable {m : UserMessage} {q : SCTPQueue} {A : ℕ → Prop} {i l : ℕ}

/-- The queue holds the chunks of those fragments of the message that have arrived. -/
structure HoldsFragments (q : SCTPQueue) (m : UserMessage) (A : ℕ → Prop) : Prop where
  arrived : ∀ i < m.size, A i → q.getChunk (m.tsn i) = some (m.chunk i)
  missing : ∀ i < m.size, ¬A i → q.getChunk (m.tsn i) = none

/-- A queue is at least as long as a row of fragments that it holds. -/
theorem HoldsFragments.length_le (h : HoldsFragments q m A) (hm : m.Valid) {k : ℕ}
    (hk : l + k ≤ m.size) (hall : ∀ j, l ≤ j → j < l + k → A j) : k ≤ q.length := by
  have hnodup : ((List.range k).map fun j => m.tsn (l + j)).Nodup := by
    refine List.Nodup.map_on (fun x hx y hy heq => ?_) nodup_range
    have hx := mem_range.1 hx
    have hy := mem_range.1 hy
    have := hm.tsn_inj (l + x) (by omega) (l + y) (by omega) heq
    omega
  have hsub : ((List.range k).map fun j => m.tsn (l + j)) ⊆ q.map Prod.fst := by
    intro t ht
    obtain ⟨j, hj, rfl⟩ := mem_map.1 ht
    have hj := mem_range.1 hj
    have hget := h.arrived (l + j) (by omega) (hall _ (by omega) (by omega))
    exact mem_map.2 ⟨_, SCTPQueue.mem_of_getChunk hget, rfl⟩
  simpa using (hnodup.subperm hsub).length_le

variable {n : ℕ}

/-- The walk down ends at the first fragment or at one that is missing. -/
theorem findBegin_spec (h : HoldsFragments q m A) (hi : i < m.size)
    (hn : ∀ l ≤ i, (∀ j, l ≤ j → j ≤ i → A j) → i - l + 1 < n) (hpos : 0 < n) :
    ((∀ j ≤ i, A j) ∧ findBegin q n (m.tsn i) = m.tsn 0) ∨
      ∃ j ≤ i, ¬A j ∧ findBegin q n (m.tsn i) = m.tsn j := by
  induction i generalizing n with
  | zero =>
    obtain ⟨n, rfl⟩ := exists_eq_succ_of_ne_zero hpos.ne'
    by_cases hA : A 0
    · refine .inl ⟨fun j hj => le_zero.1 hj ▸ hA, ?_⟩
      rw [findBegin, h.arrived 0 hi hA]
      rfl
    · refine .inr ⟨0, le_rfl, hA, ?_⟩
      rw [findBegin, h.missing 0 hi hA]
  | succ i ih =>
    obtain ⟨n, rfl⟩ := exists_eq_succ_of_ne_zero hpos.ne'
    by_cases hA : A (i + 1)
    · have hone := hn (i + 1) le_rfl fun j hj hj' => (le_antisymm hj' hj) ▸ hA
      have hstep : findBegin q (n + 1) (m.tsn (i + 1)) = findBegin q n (m.tsn i) := by
        rw [findBegin, h.arrived (i + 1) hi hA, m.tsn_pred]
        rfl
      have hn' : ∀ l ≤ i, (∀ j, l ≤ j → j ≤ i → A j) → i - l + 1 < n := by
        intro l hl hall
        have := hn l (by omega) fun j hj hj' => by
          rcases Nat.lt_or_eq_of_le hj' with hlt | rfl
          · exact hall j hj (by omega)
          · exact hA
        omega
      rw [hstep]
      rcases ih (by omega) hn' (by omega) with ⟨hall, heq⟩ | ⟨j, hj, hnot, heq⟩
      · refine .inl ⟨fun j hj => ?_, heq⟩
        rcases Nat.lt_or_eq_of_le hj with hlt | rfl
        · exact hall j (by omega)
        · exact hA
      · exact .inr ⟨j, by omega, hnot, heq⟩
    · refine .inr ⟨i + 1, le_rfl, hA, ?_⟩
      rw [findBegin, h.missing (i + 1) hi hA]

/-- The walk up ends at the last fragment or at one that is missing. -/
theorem findEnd_spec (h : HoldsFragments q m A) {d : ℕ} (hi : i + d + 1 = m.size)
    (hn : ∀ k, i + k ≤ m.size → (∀ j, i ≤ j → j < i + k → A j) → k < n) :
    ((∀ j, i ≤ j → j < m.size → A j) ∧ findEnd q n (m.tsn i) = m.tsn (i + d)) ∨
      ∃ j, i ≤ j ∧ j < m.size ∧ ¬A j ∧ findEnd q n (m.tsn i) = m.tsn j := by
  have hpos := hn 0 (by omega) fun j hj hj' => by omega
  obtain ⟨n, rfl⟩ := exists_eq_succ_of_ne_zero hpos.ne'
  induction d generalizing i n with
  | zero =>
    by_cases hA : A i
    · refine .inl ⟨fun j hj hj' => (show j = i by omega) ▸ hA, ?_⟩
      have hebit : (m.chunk i).ebit = true := beq_iff_eq.2 (by omega)
      rw [findEnd, h.arrived i (by omega) hA]
      simp only [hebit, ↓reduceIte, add_zero]
    · refine .inr ⟨i, le_rfl, by omega, hA, ?_⟩
      rw [findEnd, h.missing i (by omega) hA]
  | succ d ih =>
    by_cases hA : A i
    · have hebit : (m.chunk i).ebit = false := beq_eq_false_iff_ne.2 (by omega)
      have hstep : findEnd q (n + 1) (m.tsn i) = findEnd q n (m.tsn (i + 1)) := by
        rw [findEnd, h.arrived i (by omega) hA, m.tsn_succ]
        simp only [hebit, Bool.false_eq_true, ↓reduceIte]
      have hn' : ∀ k, i + 1 + k ≤ m.size → (∀ j, i + 1 ≤ j → j < i + 1 + k → A j) → k < n := by
        intro k hk hall
        have := hn (k + 1) (by omega) fun j hj hj' => by
          rcases Nat.lt_or_eq_of_le hj with hlt | rfl
          · exact hall j hlt (by omega)
          · exact hA
        omega
      have hone := hn' 0 (by omega) fun j hj hj' => by omega
      obtain ⟨n, rfl⟩ := exists_eq_succ_of_ne_zero hone.ne'
      rw [hstep]
      rcases ih (by omega) _ hn' hone with ⟨hall, heq⟩ | ⟨j, hj, hlt, hnot, heq⟩
      · refine .inl ⟨fun j hj hj' => ?_, by rw [heq]; congr 1; omega⟩
        rcases Nat.lt_or_eq_of_le hj with hlt | rfl
        · exact hall j hlt hj'
        · exact hA
      · exact .inr ⟨j, by omega, hlt, hnot, heq⟩
    · refine .inr ⟨i, le_rfl, by omega, hA, ?_⟩
      rw [findEnd, h.missing i (by omega) hA]

/-! ### Joining the fragments -/

theorem getD_mem (h : i < m.size) : m.fragments.getD i [] ∈ m.fragments := by
  rw [getD_eq_getElem _ _ h]
  exact getElem_mem h

theorem flatten_take_succ (h : i < m.size) :
    (m.fragments.take (i + 1)).flatten = (m.fragments.take i).flatten ++ m.fragments.getD i [] := by
  rw [getD_eq_getElem _ _ h, take_succ_eq_append_getElem h, flatten_append]
  simp

/-- One more fragment is joined. -/
theorem copyData_joined (hm : m.Valid) (hi : 0 < i) (hlt : i < m.size) :
    copyData (m.joined i) (m.chunk i) = .ok (m.joined (i + 1)).userData := by
  have hsize : 1 < m.size := by omega
  have hpiece : 0 < (m.chunk i).userData.data.length :=
    length_pos_of_ne_nil (hm.pieces hsize _ (getD_mem hlt))
  have hfirst : 0 < (m.joined i).userData.data.length := by
    obtain ⟨f, fs, hf⟩ := exists_cons_of_length_pos hm.pos
    obtain ⟨k, rfl⟩ := exists_eq_succ_of_ne_zero hi.ne'
    have hne : f ≠ [] := hm.pieces hsize f (hf ▸ mem_cons_self)
    change 0 < (m.fragments.take (k + 1)).flatten.length
    rw [hf, take_succ_cons, flatten_cons, length_append]
    exact Nat.add_pos_left (length_pos_of_ne_nil hne) _
  have hlen : ∀ n, 8 * n / 8 = n := fun n => Nat.mul_div_cancel_left n (by omega)
  rw [copyData, if_pos ⟨hfirst, hpiece⟩, if_pos]
  · simp [UserMessage.joined, UserMessage.chunk, UserMessage.carry, hlen, flatten_take_succ hlt]
  · simp [UserMessage.joined, UserMessage.chunk, UserMessage.carry, hlen]
    omega

theorem joined_succ (hj : m.Joinable) (hlt : i < m.size) :
    { m.joined i with
      userData := (m.joined (i + 1)).userData
      len := ((m.joined i).len + (m.chunk i).len) % 2 ^ 32 } = m.joined (i + 1) := by
  have hle : (m.fragments.take (i + 1)).flatten.length ≤ m.fragments.flatten.length := by
    conv_rhs => rw [← take_append_drop (i + 1) m.fragments, flatten_append]
    rw [length_append]
    exact Nat.le_add_right _ _
  have hlen : ((m.joined i).len + (m.chunk i).len) % 2 ^ 32 = (m.joined (i + 1)).len := by
    change (8 * (m.fragments.take i).flatten.length + 8 * (m.fragments.getD i []).length) % 2 ^ 32 =
      8 * (m.fragments.take (i + 1)).flatten.length
    have hsum := congrArg List.length (flatten_take_succ hlt)
    have hj := hj.length
    rw [length_append] at hsum
    rw [mod_eq_of_lt (by omega)]
    omega
  rw [hlen]
  rfl

/-- The fragments from the `i`-th one on are joined to those before it. -/
theorem mergeFragments_joined (hm : m.Valid) (hj : m.Joinable) (hsize : 1 < m.size) {d : ℕ}
    (hi : 0 < i) (hd : i + d = m.size) (hq : q.Distinct)
    (hget : ∀ j, i ≤ j → j < m.size → q.getChunk (m.tsn j) = some (m.chunk j)) (hn : d < n) :
    ∃ q', mergeFragments (m.tsn (m.size - 1)) n q (m.tsn (i - 1)) (m.joined i) =
        .ok (q', m.joined m.size) ∧ q'.Distinct ∧
      (∀ j, i ≤ j → j < m.size → q'.getChunk (m.tsn j) = none) ∧
      ∀ k, (∀ j, i ≤ j → j < m.size → k ≠ m.tsn j) → q'.getChunk k = q.getChunk k := by
  have hlast : (m.tsn (m.size - 1)).toNat = (m.tsn 1).toNat + (m.size - 2) := by
    have := hj.toNat_tsn (i := m.size - 2) (by omega)
    rwa [show m.size - 2 + 1 = m.size - 1 by omega] at this
  induction d generalizing i q n with
  | zero =>
    obtain ⟨n, rfl⟩ := exists_eq_succ_of_ne_zero hn.ne'
    have htsn := hj.toNat_tsn (i := i - 1) (by omega)
    refine ⟨q, ?_, hq, fun j hj hj' => by omega, fun k _ => rfl⟩
    rw [mergeFragments, ← m.tsn_succ, if_neg (by omega), show i = m.size by omega]
  | succ d ih =>
    obtain ⟨n, rfl⟩ := exists_eq_succ_of_ne_zero hn.ne_bot
    obtain ⟨i, rfl⟩ := exists_eq_succ_of_ne_zero hi.ne'
    have htsn := hj.toNat_tsn (i := i) (by omega)
    have hchunk := hget (i + 1) le_rfl (by omega)
    have hstep : mergeFragments (m.tsn (m.size - 1)) (n + 1) q (m.tsn i) (m.joined (i + 1)) =
        mergeFragments (m.tsn (m.size - 1)) n (q.eraseKey (m.tsn (i + 1))) (m.tsn (i + 1))
          (m.joined (i + 2)) := by
      rw [mergeFragments, ← m.tsn_succ, if_pos (by omega), SCTPQueue.getAndExtractChunk, hchunk]
      simp only [Option.map_some, copyData_joined hm (succ_pos i) (by omega), Except.ok_bind,
        joined_succ hj (show i + 1 < m.size by omega)]
    have hget' : ∀ j, i + 2 ≤ j → j < m.size →
        (q.eraseKey (m.tsn (i + 1))).getChunk (m.tsn j) = some (m.chunk j) := by
      intro j hij hjm
      rw [SCTPQueue.getChunk_erase, update_of_ne]
      · exact hget j (by omega) hjm
      · intro heq
        have := hm.tsn_inj j hjm (i + 1) (by omega) heq
        omega
    obtain ⟨q', hmerge, hq', hnone, hsame⟩ :=
      ih (succ_pos _) (by omega) (hq.eraseKey _) hget' (lt_of_succ_lt_succ hn)
    refine ⟨q', hstep.trans hmerge, hq', fun j hij hjm => ?_, fun k hk => ?_⟩
    · rcases Nat.lt_or_eq_of_le hij with hlt | rfl
      · exact hnone j hlt hjm
      · rw [hsame _ fun j' hj' hjm' heq => ?_, SCTPQueue.getChunk_erase, update_self]
        have := hm.tsn_inj _ hjm j' hjm' heq
        omega
    · rw [hsame k fun j hij hjm => hk j (by omega) hjm, SCTPQueue.getChunk_erase,
        update_of_ne (hk (i + 1) le_rfl (by omega))]

/-! ### The whole procedure -/

/-- **When all fragments are there**, they are joined under the first TSN. -/
theorem reassemble_of_complete (hm : m.Valid) (hj : m.Joinable) (hsize : 1 < m.size)
    (hq : q.Distinct) (h : HoldsFragments q m A) (hall : ∀ j < m.size, A j) (hi : i < m.size) :
    ∃ q', reassemble q (m.tsn i) = .ok (q', m.tsn 0) ∧ q'.Distinct ∧
      q'.getChunk (m.tsn 0) = some m.whole ∧
      (∀ j, 0 < j → j < m.size → q'.getChunk (m.tsn j) = none) ∧
      ∀ k, (∀ j < m.size, k ≠ m.tsn j) → q'.getChunk k = q.getChunk k := by
  have hrow : ∀ l k, l + k ≤ m.size → k < q.length + 1 := fun l k hk =>
    lt_succ_of_le (h.length_le hm hk fun j _ hj' => hall j (by omega))
  have hbegin : findBegin q (q.length + 1) (m.tsn i) = m.tsn 0 := by
    have hn : ∀ l ≤ i, (∀ j, l ≤ j → j ≤ i → A j) → i - l + 1 < q.length + 1 :=
      fun l hl _ => hrow l (i - l + 1) (by omega)
    rcases findBegin_spec h hi hn (succ_pos _) with ⟨-, heq⟩ | ⟨j, hji, hnot, -⟩
    · exact heq
    · exact absurd (hall j (by omega)) hnot
  have hend : findEnd q (q.length + 1) (m.tsn 0) = m.tsn (m.size - 1) := by
    rcases findEnd_spec h (i := 0) (d := m.size - 1) (by omega) (n := q.length + 1)
      fun k hk _ => hrow 0 k hk with ⟨-, heq⟩ | ⟨j, -, hjm, hnot, -⟩
    · rw [heq, Nat.zero_add]
    · exact absurd (hall j hjm) hnot
  obtain ⟨q', hmerge, hq', hnone, hsame⟩ :=
    mergeFragments_joined hm hj hsize (i := 1) (d := m.size - 1) Nat.one_pos (by omega) hq
      (fun j _ hjm => h.arrived j hjm (hall j hjm)) (n := q.length + 1)
      (hrow 0 _ (by omega))
  refine ⟨(q'.eraseKey (m.tsn 0)).insertEntry (m.tsn 0) m.whole, ?_, ?_, ?_, ?_, ?_⟩
  · rw [reassemble]
    simp only [hbegin, h.arrived 0 hm.pos (hall 0 hm.pos), hend,
      h.arrived _ (show m.size - 1 < m.size by omega) (hall _ (by omega)),
      UserMessage.chunk_zero hm.pos]
    rw [show m.tsn 0 = m.tsn (1 - 1) from rfl, hmerge, Except.ok_bind]
    simp only [UserMessage.joined_size]
    rfl
  all_goals
    have herased : (q'.eraseKey (m.tsn 0)).getChunk (m.tsn 0) = none := by
      rw [SCTPQueue.getChunk_erase, update_self]
  · exact (hq'.eraseKey _).insertEntry herased
  · rw [SCTPQueue.getChunk_insert herased, update_self]
  · intro j hjpos hjm
    have hne : m.tsn j ≠ m.tsn 0 := fun heq => by
      have := hm.tsn_inj j hjm 0 hm.pos heq
      omega
    rw [SCTPQueue.getChunk_insert herased, update_of_ne hne, SCTPQueue.getChunk_erase,
      update_of_ne hne]
    exact hnone j hjpos hjm
  · intro k hk
    rw [SCTPQueue.getChunk_insert herased, update_of_ne (hk 0 hm.pos),
      SCTPQueue.getChunk_erase, update_of_ne (hk 0 hm.pos)]
    exact hsame k fun j _ hjm => hk j hjm

/-- **When a fragment is missing**, the queue stays as it is. -/
theorem reassemble_of_missing (hm : m.Valid) (h : HoldsFragments q m A)
    (hmissing : ¬∀ j < m.size, A j) (hi : i < m.size) :
    reassemble q (m.tsn i) = .ok (q, m.tsn i) := by
  have hn : ∀ l ≤ i, (∀ j, l ≤ j → j ≤ i → A j) → i - l + 1 < q.length + 1 := by
    intro l hl hall
    exact lt_succ_of_le
      (h.length_le hm (l := l) (by omega) fun j hj hj' => hall j hj (by omega))
  rw [reassemble]
  rcases findBegin_spec h hi hn (succ_pos _) with ⟨hdown, heq⟩ | ⟨j, hji, hnot, heq⟩
  · have hn' : ∀ k, 0 + k ≤ m.size → (∀ j, 0 ≤ j → j < 0 + k → A j) → k < q.length + 1 :=
      fun k hk hall => lt_succ_of_le (h.length_le hm hk hall)
    simp only [heq, h.arrived 0 hm.pos (hdown 0 (Nat.zero_le _))]
    rcases findEnd_spec h (i := 0) (d := m.size - 1) (by have := hm.pos; omega) hn' with
      ⟨hall, -⟩ | ⟨j, -, hjm, hnot, hend⟩
    · exact absurd (fun j hj => hall j (Nat.zero_le _) hj) hmissing
    · simp only [hend, h.missing j hjm hnot]
  · simp only [heq, h.missing j (by omega) hnot]

end SCTP

end Hiwis
