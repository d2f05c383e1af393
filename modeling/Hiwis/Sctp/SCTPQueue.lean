import Hiwis.Sctp.SerialNumbers

/-!
# Queues of data chunks

The queue of an SCTP stream is a map from transmission sequence numbers to data chunks, walked in
the order of the keys.  Here it is the list of its entries in this order.

* `SCTP.SCTPQueue.getChunk_insert`, `SCTP.SCTPQueue.getChunk_erase` : the map after an insertion
  and a deletion;
* `SCTP.SCTPQueue.getChunk_eq_some_iff` : the entries are what the map finds.
-/

namespace Hiwis

open List Function

namespace SCTP

/-- The user data of a chunk: an array of bytes, and its size as the message states it. -/
structure SCTPSimpleMessage where
  data : List (BitVec 8)
  dataLen : ℕ
  byteLength : ℕ
deriving DecidableEq

/-- What a data chunk says of itself; the length is in bits. -/
structure SCTPDataVariables where
  userData : SCTPSimpleMessage
  len : ℕ
  tsn : TSN
  ssn : SSN
  bbit : Bool
  ebit : Bool
  ordered : Bool
deriving DecidableEq

/-- The entries of a queue, in the order of their keys. -/
abbrev SCTPQueue := List (TSN × SCTPDataVariables)

namespace SCTPQueue

variable {q : SCTPQueue} {key k tsn : TSN} {chunk c : SCTPDataVariables}

/-- `payloadQueue[key] = chunk`, for a key that is not in the map. -/
def insertEntry (key : TSN) (chunk : SCTPDataVariables) : SCTPQueue → SCTPQueue
  | [] => [(key, chunk)]
  | e :: q => if key.toNat < e.1.toNat then (key, chunk) :: e :: q else e :: insertEntry key chunk q

section

variable (q : SCTPQueue)

/-- `payloadQueue.erase(payloadQueue.find(key))`. -/
def eraseKey (key : TSN) : SCTPQueue := q.filter fun e => e.1 != key

def getChunk (tsn : TSN) : Option SCTPDataVariables := q.lookup tsn

/-- The queue, and whether the chunk was inserted. -/
def checkAndInsertChunk (key : TSN) (chunk : SCTPDataVariables) :
    SCTPQueue × Bool :=
  if (q.getChunk key).isSome then (q, false) else (q.insertEntry key chunk, true)

/-- The chunk and the queue without it; `none` where the code reads past the end of the map. -/
def getAndExtractChunk (tsn : TSN) : Option (SCTPDataVariables × SCTPQueue) :=
  (q.getChunk tsn).map fun chunk => (chunk, q.eraseKey tsn)

def extractMessage : Option (SCTPDataVariables × SCTPQueue) :=
  match q with
  | [] => none
  | e :: q => some (e.2, q)

def dequeueChunkBySSN (ssn : SSN) : Option (SCTPDataVariables × SCTPQueue) :=
  (q.find? fun e => e.2.ssn == ssn && e.2.bbit && e.2.ebit).map fun e => (e.2, q.eraseKey e.1)

end

/-! ### The map that a queue stands for -/

/-- No key is there twice. -/
def Distinct (q : SCTPQueue) : Prop := (q.map Prod.fst).Nodup

theorem insertEntry_perm (key : TSN) (chunk : SCTPDataVariables) (q : SCTPQueue) :
    (q.insertEntry key chunk).Perm ((key, chunk) :: q) := by
  induction q with
  | nil => exact .refl _
  | cons e q ih =>
    rw [insertEntry]
    split_ifs
    · exact .refl _
    · exact (ih.cons e).trans (.swap _ _ _)

theorem getChunk_insert (h : q.getChunk key = none) :
    (q.insertEntry key chunk).getChunk = update q.getChunk key (some chunk) := by
  funext k
  by_cases hk : k = key
  · subst hk
    rw [update_self]
    induction q with
    | nil => simp [insertEntry, getChunk]
    | cons e q ih =>
      obtain ⟨l, d⟩ := e
      rw [getChunk, lookup_cons] at h
      cases hl : k == l with
      | true => rw [hl] at h; cases h
      | false =>
        rw [hl] at h
        rw [insertEntry]
        split_ifs
        · simp [getChunk]
        · rw [getChunk, lookup_cons, hl]
          exact ih h
  · rw [update_of_ne hk]
    clear h
    induction q with
    | nil =>
      rw [insertEntry, getChunk, lookup_cons, beq_eq_false_iff_ne.2 hk]
      rfl
    | cons e q ih =>
      obtain ⟨l, d⟩ := e
      rw [insertEntry]
      split_ifs
      · rw [getChunk, lookup_cons, beq_eq_false_iff_ne.2 hk]
        rfl
      · rw [getChunk, lookup_cons, getChunk, lookup_cons]
        cases k == l with
        | true => rfl
        | false => exact ih

theorem getChunk_erase : (q.eraseKey key).getChunk = update q.getChunk key none := by
  funext k
  induction q with
  | nil => by_cases hk : k = key <;> simp [eraseKey, getChunk, hk]
  | cons e q ih =>
    obtain ⟨l, d⟩ := e
    by_cases hl : l = key
    · rw [eraseKey, filter_cons_of_neg (by simp [hl])]
      refine Eq.trans ih ?_
      by_cases hk : k = key
      · rw [hk, update_self, update_self]
      · rw [update_of_ne hk, update_of_ne hk, getChunk, getChunk,
          lookup_cons, beq_eq_false_iff_ne.2 (hl ▸ hk)]
    · rw [eraseKey, filter_cons_of_pos (by simpa using hl), getChunk, lookup_cons]
      cases hkl : k == l with
      | true =>
        rw [update_of_ne (by rw [eq_of_beq hkl]; exact hl), getChunk, lookup_cons, hkl]
      | false =>
        refine Eq.trans ih ?_
        by_cases hk : k = key
        · rw [hk, update_self, update_self]
        · rw [update_of_ne hk, update_of_ne hk, getChunk, getChunk, lookup_cons, hkl]

theorem mem_of_getChunk (h : q.getChunk k = some c) : (k, c) ∈ q := by
  induction q with
  | nil => cases h
  | cons e q ih =>
    obtain ⟨l, d⟩ := e
    rw [getChunk, lookup_cons] at h
    cases hkl : k == l with
    | true =>
      rw [hkl] at h
      cases h
      rw [eq_of_beq hkl]
      exact mem_cons_self
    | false =>
      rw [hkl] at h
      exact mem_cons_of_mem _ (ih h)

theorem getChunk_eq_some_iff (h : q.Distinct) : q.getChunk k = some c ↔ (k, c) ∈ q := by
  refine ⟨mem_of_getChunk, fun hmem => ?_⟩
  induction q with
  | nil => cases hmem
  | cons e q ih =>
    obtain ⟨l, d⟩ := e
    obtain ⟨hl, hq⟩ := nodup_cons.1 h
    rw [getChunk, lookup_cons]
    rcases mem_cons.1 hmem with heq | hrest
    · cases heq
      rw [beq_self_eq_true]
    · have hne : k ≠ l := by
        rintro rfl
        exact hl (mem_map.2 ⟨(k, c), hrest, rfl⟩)
      rw [beq_eq_false_iff_ne.2 hne]
      exact ih hq hrest

theorem Distinct.insertEntry (h : q.Distinct) (hkey : q.getChunk key = none) :
    (q.insertEntry key chunk).Distinct := by
  have hperm := (insertEntry_perm key chunk q).map Prod.fst
  refine hperm.nodup_iff.2 (nodup_cons.2 ⟨fun hmem => ?_, h⟩)
  obtain ⟨e, he, rfl⟩ := mem_map.1 hmem
  rw [(getChunk_eq_some_iff h).2 (show (e.1, e.2) ∈ q from he)] at hkey
  cases hkey

theorem Distinct.eraseKey (h : q.Distinct) (key : TSN) : (q.eraseKey key).Distinct :=
  List.Nodup.sublist (filter_sublist.map Prod.fst) h

theorem length_eraseKey_lt (h : (q.getChunk key).isSome = true) :
    (q.eraseKey key).length < q.length := by
  obtain ⟨c, hc⟩ := Option.isSome_iff_exists.1 h
  refine length_filter_lt_length_iff_exists.2 ⟨_, mem_of_getChunk hc, by simp⟩

theorem checkAndInsertChunk_of_none (h : q.getChunk key = none) :
    q.checkAndInsertChunk key chunk = (q.insertEntry key chunk, true) := by
  rw [checkAndInsertChunk, h]
  rfl

/-- What `dequeueChunkBySSN` finds is a whole message with the SSN. -/
theorem dequeueChunkBySSN_eq_some {ssn : SSN} {q' : SCTPQueue} (h : q.Distinct)
    (hq : q.dequeueChunkBySSN ssn = some (c, q')) :
    ∃ k, q.getChunk k = some c ∧ c.ssn = ssn ∧ c.bbit = true ∧ c.ebit = true ∧
      q' = q.eraseKey k := by
  obtain ⟨e, he, heq⟩ := Option.map_eq_some_iff.1 hq
  cases heq
  have hp := List.find?_some he
  simp only [Bool.and_eq_true, beq_iff_eq] at hp
  exact ⟨e.1, (getChunk_eq_some_iff h).2 (mem_of_find?_eq_some he), hp.1.1, hp.1.2, hp.2, rfl⟩

theorem dequeueChunkBySSN_eq_none {ssn : SSN} (hq : q.dequeueChunkBySSN ssn = none)
    (hc : q.getChunk k = some c) : ¬(c.ssn = ssn ∧ c.bbit = true ∧ c.ebit = true) := by
  rintro ⟨hssn, hb, he⟩
  have hnone := List.find?_eq_none.1 (Option.map_eq_none_iff.1 hq) _ (mem_of_getChunk hc)
  simp [hssn, hb, he] at hnone

end SCTPQueue

end SCTP

end Hiwis
