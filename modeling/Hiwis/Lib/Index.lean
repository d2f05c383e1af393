import Mathlib

/-!
# Stores and their indexes

A store maps references to values.  An index is a second map, which leads from the keys of the
values back to the references; `Store.Indexes key index store` says that it does so for exactly the
values that have a key.

* `Store.Indexes.bind`, `Store.Indexes.rebind`, `Store.Indexes.same`, `Store.Indexes.erase` : what
  has to happen to the index when a value gets a key, changes it, keeps it, or is removed;
* `Store.tally` : the multiset of what the values of a store hold, and how it changes.
-/

namespace Store

open Finmap

variable {K P V T : Type*} [DecidableEq P]

/-! ### Lookups -/

theorem lookup_insert_eq (m : Finmap fun _ : P => V) (p q : P) (v : V) :
    (m.insert p v).lookup q = if q = p then some v else m.lookup q := by
  by_cases hq : q = p
  · rw [hq, lookup_insert, if_pos rfl]
  · rw [lookup_insert_of_ne m hq, if_neg hq]

theorem lookup_erase_eq (m : Finmap fun _ : P => V) (p q : P) :
    (m.erase p).lookup q = if q = p then none else m.lookup q := by
  by_cases hq : q = p
  · rw [hq, lookup_erase, if_pos rfl]
  · rw [lookup_erase_ne hq, if_neg hq]

theorem insert_erase {m : Finmap fun _ : P => V} {p : P} {v : V} (h : m.lookup p = some v) :
    (m.erase p).insert p v = m := by
  refine ext_lookup fun q => ?_
  rw [lookup_insert_eq, lookup_erase_eq]
  by_cases hq : q = p
  · rw [if_pos hq, hq, h]
  · rw [if_neg hq, if_neg hq]

/-! ### A property of all values -/

/-- All values of the store have the property. -/
def All (C : V → Prop) (store : Finmap fun _ : P => V) : Prop :=
  ∀ p v, store.lookup p = some v → C v

section All

variable {C : V → Prop} {store : Finmap fun _ : P => V} {p : P} {v : V}

theorem All.insert (h : All C store) (hv : C v) : All C (store.insert p v) := by
  intro q w hw
  rw [lookup_insert_eq] at hw
  by_cases hq : q = p
  · rw [if_pos hq] at hw
    cases hw
    exact hv
  · rw [if_neg hq] at hw
    exact h q w hw

theorem All.erase (h : All C store) : All C (store.erase p) := by
  intro q w hw
  rw [lookup_erase_eq] at hw
  by_cases hq : q = p
  · rw [if_pos hq] at hw
    cases hw
  · rw [if_neg hq] at hw
    exact h q w hw

end All

/-! ### Indexes -/

/-- The index leads from each key to the reference of the value that has it, and nowhere else. -/
def Indexes (key : V → Option K) (index : Finmap fun _ : K => P) (store : Finmap fun _ : P => V)
    [DecidableEq K] : Prop :=
  ∀ k p, index.lookup k = some p ↔ ∃ v, store.lookup p = some v ∧ key v = some k

namespace Indexes

variable [DecidableEq K] {key : V → Option K} {index index' : Finmap fun _ : K => P}
  {store store' : Finmap fun _ : P => V} {p q : P} {v w v' : V} {k k' : K}

theorem empty (key : V → Option K) :
    Indexes key (∅ : Finmap fun _ : K => P) (∅ : Finmap fun _ : P => V) := by
  intro k p
  simp [lookup_empty]

variable (h : Indexes key index store)
include h

theorem lookup (hv : store.lookup p = some v) (hk : key v = some k) : index.lookup k = some p :=
  (h k p).2 ⟨v, hv, hk⟩

theorem key_eq (hv : store.lookup p = some v) (hk : index.lookup k = some p) : key v = some k := by
  obtain ⟨w, hw, hkey⟩ := (h k p).1 hk
  rw [hv] at hw
  cases hw
  exact hkey

/-- Only what is stored under one reference changes. -/
theorem of_update (hindex : ∀ k q, q ≠ p → (index'.lookup k = some q ↔ index.lookup k = some q))
    (hstore : ∀ q, q ≠ p → store'.lookup q = store.lookup q)
    (hself : ∀ k, index'.lookup k = some p ↔ ∃ v, store'.lookup p = some v ∧ key v = some k) :
    Indexes key index' store' := by
  intro k q
  by_cases hq : q = p
  · rw [hq]
    exact hself k
  · rw [hindex k q hq, hstore q hq]
    exact h k q

/-- A value changes and keeps its key. -/
theorem same (hv : store.lookup p = some v) (hkey : key v' = key v) :
    Indexes key index (store.insert p v') := by
  refine h.of_update (p := p) (fun _ _ _ => Iff.rfl)
    (fun q hq => lookup_insert_of_ne store hq) fun k => ?_
  rw [h k p, hv, lookup_insert]
  simp only [Option.some.injEq, exists_eq_left', hkey]

/-- A value without a key is stored. -/
theorem insert_none (hp : p ∉ store) (hkey : key v' = none) :
    Indexes key index (store.insert p v') := by
  refine h.of_update (p := p) (fun _ _ _ => Iff.rfl)
    (fun q hq => lookup_insert_of_ne store hq) fun k => ?_
  rw [h k p, lookup_eq_none.2 hp, lookup_insert]
  simp [hkey]

/-- A value that had no key gets one that is free. -/
theorem bind (hv : ∀ v, store.lookup p = some v → key v = none) (hkey : key v' = some k)
    (hfree : index.lookup k = none) :
    Indexes key (index.insert k p) (store.insert p v') := by
  refine h.of_update (p := p) (fun k' q hq => ?_)
    (fun q hq => lookup_insert_of_ne store hq) fun k' => ?_
  · rw [lookup_insert_eq]
    by_cases hk : k' = k
    · rw [if_pos hk, hk, hfree]
      exact iff_of_false (fun heq => hq (Option.some.inj heq).symm) (by simp)
    · rw [if_neg hk]
  · rw [lookup_insert_eq, lookup_insert]
    simp only [Option.some.injEq, exists_eq_left', hkey]
    by_cases hk : k' = k
    · rw [if_pos hk]
      exact iff_of_true rfl hk.symm
    · rw [if_neg hk, h k' p]
      refine iff_of_false ?_ (Ne.symm hk)
      rintro ⟨v, hlookup, hsome⟩
      rw [hv v hlookup] at hsome
      cases hsome

/-- A value is removed, together with its key. -/
theorem erase (hv : store.lookup p = some v) (hkey : ∀ k', key v = some k' → k' = k)
    (hnone : key v = none → index.lookup k = none) :
    Indexes key (index.erase k) (store.erase p) := by
  refine h.of_update (p := p) (fun k' q hq => ?_) (fun q hq => lookup_erase_ne hq)
    fun k' => ?_
  · rw [lookup_erase_eq]
    by_cases hk : k' = k
    · rw [if_pos hk, hk]
      refine iff_of_false (by simp) fun hlookup => ?_
      -- the entry that is erased belongs to the value that is removed
      cases hkv : key v with
      | none =>
        rw [hnone hkv] at hlookup
        cases hlookup
      | some k0 =>
        rw [hkey k0 hkv] at hkv
        rw [h.lookup hv hkv] at hlookup
        exact hq (Option.some.inj hlookup).symm
    · rw [if_neg hk]
  · rw [lookup_erase, lookup_erase_eq]
    refine iff_of_false (fun hlookup => ?_) (by simp)
    by_cases hk : k' = k
    · rw [if_pos hk] at hlookup
      cases hlookup
    · rw [if_neg hk] at hlookup
      exact hk (hkey k' (h.key_eq hv hlookup))

/-- A value gets another key, which is free or its own. -/
theorem rebind (hv : store.lookup p = some v) (hkey : key v = some k) (hkey' : key v' = some k')
    (hfree : k' = k ∨ index.lookup k' = none) :
    Indexes key ((index.erase k).insert k' p) (store.insert p v') := by
  have herased := h.erase hv (fun k0 hk0 => Option.some.inj (hk0.symm.trans hkey))
    fun hnone => absurd (hnone.symm.trans hkey) (by simp)
  have hnone : ∀ w, (store.erase p).lookup p = some w → key w = none := by
    intro w hw
    rw [lookup_erase] at hw
    cases hw
  have hfree' : (index.erase k).lookup k' = none := by
    rw [lookup_erase_eq]
    split_ifs with hk
    · rfl
    · exact hfree.resolve_left hk
  have hbound := herased.bind hnone hkey' hfree'
  have hstore : (store.erase p).insert p v' = store.insert p v' := by
    refine ext_lookup fun q => ?_
    rw [lookup_insert_eq, lookup_insert_eq, lookup_erase_eq]
    split_ifs <;> rfl
  rwa [hstore] at hbound

end Indexes

/-! ### Tallies -/

/-- What the values of the store hold. -/
def tally (f : V → Option T) (store : Finmap fun _ : P => V) : Multiset T :=
  store.entries.filterMap fun e => f e.2

section Tally

variable {f : V → Option T} {store : Finmap fun _ : P => V} {p : P} {v v' : V}

omit [DecidableEq P] in
theorem tally_empty (f : V → Option T) : tally f (∅ : Finmap fun _ : P => V) = 0 := rfl

theorem tally_insert (hp : p ∉ store) :
    tally f (store.insert p v) = (f v).toList + tally f store := by
  rw [tally, entries_insert_of_notMem hp]
  cases hf : f v with
  | none =>
    rw [Multiset.filterMap_cons_none (f := fun e : Σ _ : P, V => f e.2) ⟨p, v⟩ _ hf]
    simp [tally]
  | some t =>
    rw [Multiset.filterMap_cons_some (f := fun e : Σ _ : P, V => f e.2) ⟨p, v⟩ _ hf]
    simp [tally]

section

variable (hv : store.lookup p = some v)
include hv

theorem tally_erase : tally f store = (f v).toList + tally f (store.erase p) := by
  rw [← tally_insert notMem_erase_self, insert_erase hv]

theorem tally_insert_add (v' : V) :
    (f v).toList + tally f (store.insert p v') = (f v').toList + tally f store := by
  have hinsert : (store.insert p v').lookup p = some v' := lookup_insert store
  have herase : (store.insert p v').erase p = store.erase p := by
    refine ext_lookup fun q => ?_
    rw [lookup_erase_eq, lookup_erase_eq, lookup_insert_eq]
    split_ifs <;> rfl
  rw [tally_erase hinsert, herase, tally_erase hv, add_left_comm]

theorem tally_replace (hf : f v' = f v) : tally f (store.insert p v') = tally f store := by
  have hadd := tally_insert_add (f := f) hv v'
  rw [hf] at hadd
  exact add_left_cancel hadd

/-- What a value that held nothing gets is added. -/
theorem tally_insert_of_none (hf : f v = none) :
    tally f (store.insert p v') = (f v').toList + tally f store := by
  have hadd := tally_insert_add (f := f) hv v'
  rw [hf] at hadd
  exact (zero_add _).symm.trans hadd

end

theorem exists_of_mem_tally {t : T} (h : t ∈ tally f store) :
    ∃ p v, store.lookup p = some v ∧ f v = some t := by
  obtain ⟨⟨p, v⟩, hmem, hf⟩ := (Multiset.mem_filterMap _ _).1 h
  exact ⟨p, v, mem_lookup_iff.2 hmem, hf⟩

end Tally

end Store
