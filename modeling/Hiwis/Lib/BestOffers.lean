import Mathlib

/-!
# Tables of the best offers

An offer is made for a key; it has a cost and some items.  A table holds one entry for each key that
an offer was made for: the entry has the least cost, and the items of all offers with that cost.

* `BestOffers.IsBest.unique` : what is best depends neither on the order of the offers nor on how
  often one is made;
* `BestOffers.IsTable.of_better`, `BestOffers.IsTable.of_equal`, `BestOffers.IsTable.of_worse` : the
  table after one more offer, which takes the place of the entry for its key, adds its items to it
  or is passed over;
* `BestOffers.IsTable.map_key_perm`, `BestOffers.IsTable.perm` : the tables for the same offers.
-/

namespace BestOffers

open List

/-- A cost and items, offered for a key. -/
structure Offer (K C H : Type*) where
  key : K
  cost : C
  items : List H

variable {K C H α : Type*} [LinearOrder C]

/-- The least cost that is offered for a key, with the items of all offers that have it. -/
structure IsBest (offers : List (Offer K C H)) (k : K) (cost : C) (items : List H) : Prop where
  attained : ∃ o ∈ offers, o.key = k ∧ o.cost = cost
  le : ∀ o ∈ offers, o.key = k → cost ≤ o.cost
  mem_items : ∀ h, h ∈ items ↔ ∃ o ∈ offers, o.key = k ∧ o.cost = cost ∧ h ∈ o.items

namespace IsBest

variable {offers offers' : List (Offer K C H)} {o : Offer K C H} {k : K} {cost cost' : C}
  {items items' : List H}

section

variable (h : IsBest offers k cost items)
include h

/-- What is best depends on the set of offers only. -/
theorem unique (h' : IsBest offers' k cost' items') (hmem : ∀ o, o ∈ offers ↔ o ∈ offers') :
    cost = cost' ∧ ∀ x, x ∈ items ↔ x ∈ items' := by
  have hcost : cost = cost' := by
    obtain ⟨o, ho, hkey, rfl⟩ := h.attained
    obtain ⟨o', ho', hkey', rfl⟩ := h'.attained
    exact le_antisymm (h.le o' ((hmem o').2 ho') hkey') (h'.le o ((hmem o).1 ho) hkey)
  refine ⟨hcost, fun x => ?_⟩
  rw [h.mem_items, h'.mem_items, hcost]
  constructor
  · rintro ⟨o, ho, hx⟩
    exact ⟨o, (hmem o).1 ho, hx⟩
  · rintro ⟨o, ho, hx⟩
    exact ⟨o, (hmem o).2 ho, hx⟩

theorem of_mem_iff (hmem : ∀ o, o.key = k → (o ∈ offers ↔ o ∈ offers')) :
    IsBest offers' k cost items where
  attained := by
    obtain ⟨o, ho, hkey, hcost⟩ := h.attained
    exact ⟨o, (hmem o hkey).1 ho, hkey, hcost⟩
  le := fun o ho hkey => h.le o ((hmem o hkey).2 ho) hkey
  mem_items := by
    intro x
    rw [h.mem_items]
    constructor
    · rintro ⟨o, ho, hkey, hx⟩
      exact ⟨o, (hmem o hkey).1 ho, hkey, hx⟩
    · rintro ⟨o, ho, hkey, hx⟩
      exact ⟨o, (hmem o hkey).2 ho, hkey, hx⟩

/-- An offer for another key. -/
theorem concat_of_ne (hne : o.key ≠ k) : IsBest (offers ++ [o]) k cost items := by
  refine h.of_mem_iff fun o' hkey => ?_
  rw [mem_append, mem_singleton]
  constructor
  · exact .inl
  · rintro (ho | rfl)
    · exact ho
    · exact absurd hkey hne

/-- An offer with a greater cost. -/
theorem concat_of_lt (hlt : cost < o.cost) :
    IsBest (offers ++ [o]) k cost items where
  attained := by
    obtain ⟨o', ho', hbest⟩ := h.attained
    exact ⟨o', mem_append_left _ ho', hbest⟩
  le := by
    intro o' ho' hkey
    rcases mem_append.1 ho' with ho' | ho'
    · exact h.le o' ho' hkey
    · rw [mem_singleton.1 ho']
      exact hlt.le
  mem_items := by
    intro x
    rw [h.mem_items]
    constructor
    · rintro ⟨o', ho', hx⟩
      exact ⟨o', mem_append_left _ ho', hx⟩
    · rintro ⟨o', ho', hkey, hcost, hx⟩
      rcases mem_append.1 ho' with ho' | ho'
      · exact ⟨o', ho', hkey, hcost, hx⟩
      · rw [mem_singleton.1 ho'] at hcost
        exact absurd hcost hlt.ne'

end

/-- An offer with the same cost adds its items. -/
theorem concat_of_eq (h : IsBest offers o.key o.cost items) :
    IsBest (offers ++ [o]) o.key o.cost (items ++ o.items) where
  attained := ⟨o, mem_append_right _ (mem_singleton_self o), rfl, rfl⟩
  le := by
    intro o' ho' hkey
    rcases mem_append.1 ho' with ho' | ho'
    · exact h.le o' ho' hkey
    · rw [mem_singleton.1 ho']
  mem_items := by
    intro x
    rw [mem_append, h.mem_items]
    constructor
    · rintro (⟨o', ho', hx⟩ | hx)
      · exact ⟨o', mem_append_left _ ho', hx⟩
      · exact ⟨o, mem_append_right _ (mem_singleton_self o), rfl, rfl, hx⟩
    · rintro ⟨o', ho', hkey, hcost, hx⟩
      rcases mem_append.1 ho' with ho' | ho'
      · exact .inl ⟨o', ho', hkey, hcost, hx⟩
      · rw [mem_singleton.1 ho'] at hx
        exact .inr hx

/-- An offer with a smaller cost than all others for its key. -/
theorem concat_of_better (h : ∀ o' ∈ offers, o'.key = o.key → o.cost < o'.cost) :
    IsBest (offers ++ [o]) o.key o.cost o.items where
  attained := ⟨o, mem_append_right _ (mem_singleton_self o), rfl, rfl⟩
  le := by
    intro o' ho' hkey
    rcases mem_append.1 ho' with ho' | ho'
    · exact (h o' ho' hkey).le
    · rw [mem_singleton.1 ho']
  mem_items := by
    intro x
    constructor
    · intro hx
      exact ⟨o, mem_append_right _ (mem_singleton_self o), rfl, rfl, hx⟩
    · rintro ⟨o', ho', hkey, hcost, hx⟩
      rcases mem_append.1 ho' with ho' | ho'
      · exact absurd hcost (h o' ho' hkey).ne'
      · rwa [mem_singleton.1 ho'] at hx

end IsBest

/-- A table with one entry for each key that an offer was made for. -/
structure IsTable (key : α → K) (cost : α → C) (items : α → List H)
    (offers : List (Offer K C H)) (entries : List α) : Prop where
  nodup : (entries.map key).Nodup
  best : ∀ e ∈ entries, IsBest offers (key e) (cost e) (items e)
  all : ∀ o ∈ offers, ∃ e ∈ entries, key e = o.key

namespace IsTable

variable {key : α → K} {cost : α → C} {items : α → List H} {offers offers' : List (Offer K C H)}
  {o : Offer K C H} {entries entries' : List α} {e e' : α}

theorem nil : IsTable key cost items ([] : List (Offer K C H)) [] := ⟨nodup_nil, nofun, nofun⟩

theorem eq_of_key_eq (h : IsTable key cost items offers entries) (he : e ∈ entries)
    (he' : e' ∈ entries) (hkey : key e = key e') : e = e' :=
  inj_on_of_nodup_map h.nodup he he' hkey

omit [LinearOrder C] in
theorem all_concat (hall : ∀ o ∈ offers, ∃ e ∈ entries, key e = o.key)
    (ho : ∃ e ∈ entries, key e = o.key) : ∀ o' ∈ offers ++ [o], ∃ e ∈ entries, key e = o'.key := by
  intro o' ho'
  rcases mem_append.1 ho' with ho' | ho'
  · exact hall o' ho'
  · rw [mem_singleton.1 ho']
    exact ho

section

variable (h : IsTable key cost items offers entries)
include h

/-- An offer that is worse than the entry for its key. -/
theorem of_worse (he : e ∈ entries) (hkey : key e = o.key) (hlt : cost e < o.cost) :
    IsTable key cost items (offers ++ [o]) entries where
  nodup := h.nodup
  best := by
    intro e' he'
    by_cases hkey' : key e' = o.key
    · obtain rfl := h.eq_of_key_eq he' he (hkey'.trans hkey.symm)
      exact (h.best e' he').concat_of_lt hlt
    · exact (h.best e' he').concat_of_ne fun heq => hkey' heq.symm
  all := all_concat h.all ⟨e, he, hkey⟩

/-- An offer that is as good as the entry for its key, to which its items are added. -/
theorem of_equal [DecidableEq K] (he : e ∈ entries) (hkey : key e = o.key) (heq : cost e = o.cost)
    {add : α → α}
    (hadd : ∀ e, key (add e) = key e ∧ cost (add e) = cost e ∧ items (add e) = items e ++ o.items) :
    IsTable key cost items (offers ++ [o])
      (entries.map fun e => if key e = o.key then add e else e) := by
  have hkeys : ∀ e, key (if key e = o.key then add e else e) = key e := by
    intro e
    split_ifs
    · exact (hadd e).1
    · rfl
  refine ⟨?_, ?_, all_concat ?_ ?_⟩
  · have hmap : (entries.map fun e => if key e = o.key then add e else e).map key =
        entries.map key := by
      rw [map_map]
      exact map_congr_left fun e _ => hkeys e
    rw [hmap]
    exact h.nodup
  · intro e' he'
    obtain ⟨d, hd, rfl⟩ := mem_map.1 he'
    split_ifs with hkey'
    · obtain rfl := h.eq_of_key_eq hd he (hkey'.trans hkey.symm)
      obtain ⟨hk, hc, hi⟩ := hadd d
      have hbest := h.best d hd
      rw [hkey, heq] at hbest
      rw [hk, hc, hi, hkey, heq]
      exact hbest.concat_of_eq
    · exact (h.best d hd).concat_of_ne fun heq => hkey' heq.symm
  · intro o' ho'
    obtain ⟨d, hd, hkey'⟩ := h.all o' ho'
    exact ⟨_, mem_map_of_mem hd, (hkeys d).trans hkey'⟩
  · exact ⟨_, mem_map_of_mem he, (hkeys e).trans hkey⟩

/-- An offer that is better than the entry for its key, if there is one, and takes its place. -/
theorem of_better [DecidableEq K] (hbetter : ∀ e ∈ entries, key e = o.key → o.cost < cost e)
    (hkey : key e' = o.key) (hcost : cost e' = o.cost) (hitems : items e' = o.items) :
    IsTable key cost items (offers ++ [o])
      (entries.filter (fun e => decide (key e ≠ o.key)) ++ [e']) := by
  have hmem : ∀ e, e ∈ entries.filter (fun e => decide (key e ≠ o.key)) ↔
      e ∈ entries ∧ key e ≠ o.key := by
    intro e
    rw [mem_filter, decide_eq_true_eq]
  refine ⟨?_, ?_, all_concat ?_ ?_⟩
  · rw [map_append, nodup_append]
    refine ⟨h.nodup.sublist (filter_sublist.map key), nodup_singleton _, ?_⟩
    intro k hk k' hk' heq
    obtain ⟨e, he, rfl⟩ := mem_map.1 hk
    rw [map_singleton, mem_singleton, hkey] at hk'
    exact ((hmem e).1 he).2 (heq.trans hk')
  · intro d hd
    rcases mem_append.1 hd with hd | hd
    · obtain ⟨hd, hne⟩ := (hmem d).1 hd
      exact (h.best d hd).concat_of_ne fun heq => hne heq.symm
    · rw [mem_singleton.1 hd, hkey, hcost, hitems]
      refine IsBest.concat_of_better fun o' ho' hkey' => ?_
      obtain ⟨e, he, hke⟩ := h.all o' ho'
      have hbest := h.best e he
      rw [hke] at hbest
      exact lt_of_lt_of_le (hbetter e he (hke.trans hkey')) (hbest.le o' ho' rfl)
  · intro o' ho'
    obtain ⟨e, he, hke⟩ := h.all o' ho'
    by_cases heq : key e = o.key
    · refine ⟨e', mem_append_right _ (mem_singleton_self _), ?_⟩
      exact hkey.trans (heq.symm.trans hke)
    · exact ⟨e, mem_append_left _ ((hmem e).2 ⟨he, heq⟩), hke⟩
  · exact ⟨e', mem_append_right _ (mem_singleton_self _), hkey⟩

end

variable (h : IsTable key cost items offers entries) (h' : IsTable key cost items offers' entries') (hmem : ∀ o, o ∈ offers ↔ o ∈ offers')
include h h' hmem

theorem map_key_subset : entries.map key ⊆ entries'.map key := by
  intro k hk
  obtain ⟨e, he, rfl⟩ := mem_map.1 hk
  obtain ⟨o, ho, hkey, -⟩ := (h.best e he).attained
  rw [← hkey]
  exact mem_map.2 (h'.all o ((hmem o).1 ho))

/-- Two tables for the same offers have the same keys. -/
theorem map_key_perm : (entries.map key).Perm (entries'.map key) := by
  rw [perm_ext_iff_of_nodup h.nodup h'.nodup]
  exact fun k => ⟨fun hk => h.map_key_subset h' hmem hk,
    fun hk => h'.map_key_subset h (fun o => (hmem o).symm) hk⟩

/-- Two tables for the same offers have the same costs and items. -/
theorem perm (he : e ∈ entries) :
    ∃ e' ∈ entries', key e' = key e ∧ cost e' = cost e ∧ ∀ x, x ∈ items e' ↔ x ∈ items e := by
  obtain ⟨o, ho, hkey, -⟩ := (h.best e he).attained
  obtain ⟨e', he', hkey'⟩ := h'.all o ((hmem o).1 ho)
  have hke := hkey'.trans hkey
  have hbest := h'.best e' he'
  rw [hke] at hbest
  obtain ⟨hcost, hitems⟩ := (h.best e he).unique hbest hmem
  exact ⟨e', he', hke, hcost.symm, fun x => (hitems x).symm⟩

end IsTable

end BestOffers
