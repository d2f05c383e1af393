import Hiwis.Lib.FirstMatch
import Hiwis.Ospf.LeastCostRoutes

/-!
# Inter-area routes through transit areas

The recheck of the transit areas changes next hops only: the offers that cost as much as a path of
the backbone add theirs.

* `OSPF.InterAreaRoutes.Rechecked.step` : one LSA of a transit area;
* `OSPF.InterAreaRoutes.interAreaRoutes_isLeastCost` : the inter-area entries are those of the least
  cost, and the intra-area entries keep all but their next hops;
* `OSPF.InterAreaRoutes.not_intraArea_untouched` : an intra-area entry with another next hop.
-/

namespace Hiwis

open List Bool

namespace OSPF

namespace InterAreaRoutes

open BestOffers (Offer IsTable)
open SummaryOrigination (Area SummaryLSA)

/-! ### What the recheck leaves as it is -/

/-- An entry without what the recheck of the transit areas may change. -/
def fixedPart (e : RoutingTableEntry) : RoutingTableEntry :=
  if e.area = backboneAreaID then e.clearNextHops else e

/-- An intra-area entry gets the next hops of offers that cost as much as its own path, when it is
in the backbone. -/
structure Kept (offered : List (Offer Destination Metric NextHop)) (e e' : RoutingTableEntry) :
    Prop where
  eq : e' = { e with nextHops := e'.nextHops }
  eq_of_area : e.area ≠ backboneAreaID → e' = e
  subset : e.nextHops ⊆ e'.nextHops
  offered : ∀ h ∈ e'.nextHops, h ∈ e.nextHops ∨
    ∃ o ∈ offered, o.key = entryKey e ∧ o.cost = e.cost ∧ h ∈ o.items

variable {router : SummaryOrigination.Router} {area : Area}
  {intraTable intraTable' interTable : List RoutingTableEntry} {summaryLSAs : List SummaryLSA}
  {lsa : SummaryLSA} {e e' : RoutingTableEntry} {cost : Metric}
  {offered offered' : List (Offer Destination Metric NextHop)}
  {o : Offer Destination Metric NextHop}

theorem Kept.refl (offered : List (Offer Destination Metric NextHop)) (e : RoutingTableEntry) :
    Kept offered e e :=
  ⟨rfl, fun _ => rfl, List.Subset.refl _, fun _ => .inl⟩

theorem Kept.mono (h : Kept offered e e') (hsub : offered ⊆ offered') : Kept offered' e e' where
  eq := h.eq
  eq_of_area := h.eq_of_area
  subset := h.subset
  offered := by
    intro hop hhop
    rcases h.offered hop hhop with hhop | ⟨o, ho, hrest⟩
    · exact .inl hhop
    · exact .inr ⟨o, hsub ho, hrest⟩

theorem Kept.addNextHops (h : Kept offered e e') (harea : e.area = backboneAreaID)
    (ho : o ∈ offered) (hkey : o.key = entryKey e) (hcost : o.cost = e.cost) :
    Kept offered e (e'.addNextHops o.items) where
  eq := by
    rw [h.eq]
    rfl
  eq_of_area := fun hne => absurd harea hne
  subset := fun hop hhop => mem_append_left _ (h.subset hhop)
  offered := by
    intro hop hhop
    rcases mem_append.1 hhop with hhop | hhop
    · exact h.offered hop hhop
    · exact .inr ⟨o, ho, hkey, hcost, hhop⟩

theorem Kept.fixedPart_eq (h : Kept offered e e') : fixedPart e' = fixedPart e := by
  by_cases harea : e.area = backboneAreaID
  · rw [h.eq, fixedPart, fixedPart, if_pos harea, if_pos harea]
    rfl
  · rw [h.eq_of_area harea]

theorem map_fixedPart (h : List.Forall₂ (Kept offered) intraTable intraTable') :
    intraTable'.map fixedPart = intraTable.map fixedPart := by
  induction h with
  | nil => rfl
  | cons he _ ih => rw [map_cons, map_cons, he.fixedPart_eq, ih]

theorem isRecheckMatching_fixedPart : isRecheckMatching lsa (fixedPart e) =
    isRecheckMatching lsa e := by
  unfold fixedPart
  split_ifs <;> rfl

theorem isBackbonePath_fixedPart : isBackbonePath (fixedPart e) = isBackbonePath e := by
  unfold fixedPart
  split_ifs <;> rfl

variable {routerID : RouterID}

theorem isBorderRouterEntry_fixedPart :
    isBorderRouterEntry area.areaID routerID (fixedPart e) =
      isBorderRouterEntry area.areaID routerID e := by
  unfold fixedPart
  split_ifs <;> rfl

/-- The entry of an area that is not the backbone does not change. -/
theorem fixedPart_of_borderRouter (harea : area.areaID ≠ backboneAreaID)
    (h : isBorderRouterEntry area.areaID routerID e = true) : fixedPart e = e := by
  rw [isBorderRouterEntry, and_eq_true, and_eq_true, beq_iff_eq] at h
  rw [fixedPart, if_neg]
  rw [h.1.1]
  exact harea

theorem find?_borderRouter_of_kept (harea : area.areaID ≠ backboneAreaID)
    (h : List.Forall₂ (Kept offered) intraTable intraTable') :
    intraTable'.find? (isBorderRouterEntry area.areaID routerID) =
      intraTable.find? (isBorderRouterEntry area.areaID routerID) := by
  have hfixed : ∀ table : List RoutingTableEntry,
      (table.map fixedPart).find? (isBorderRouterEntry area.areaID routerID) =
        table.find? (isBorderRouterEntry area.areaID routerID) := by
    intro table
    have hcomp : isBorderRouterEntry area.areaID routerID ∘ fixedPart =
        isBorderRouterEntry area.areaID routerID :=
      funext fun _ => isBorderRouterEntry_fixedPart
    rw [find?_map, hcomp]
    cases hfind : table.find? _ with
    | none => rfl
    | some e => rw [Option.map_some, fixedPart_of_borderRouter harea (find?_some hfind)]
  rw [← hfixed, map_fixedPart h, hfixed]

theorem findIdx?_of_kept (h : List.Forall₂ (Kept offered) intraTable intraTable') :
    intraTable'.findIdx? (isRecheckMatching lsa) = intraTable.findIdx? (isRecheckMatching lsa) := by
  have hcomp : isRecheckMatching lsa ∘ fixedPart = isRecheckMatching lsa :=
    funext fun _ => isRecheckMatching_fixedPart
  have hfixed : ∀ table : List RoutingTableEntry,
      (table.map fixedPart).findIdx? (isRecheckMatching lsa) =
        table.findIdx? (isRecheckMatching lsa) := by
    intro table
    rw [findIdx?_map, hcomp]
  rw [← hfixed, map_fixedPart h, hfixed]

/-! ### Offers of transit areas -/

/-- The destination has the address that an LSA describes. -/
def SameAddress (lsa : SummaryLSA) : Destination → Prop
  | .network address _ => lsa.header.lsType = .summaryLSANetworks ∧
      lsa.header.linkStateID &&& lsa.networkMask = address
  | .router routerID _ => lsa.header.lsType ≠ .summaryLSANetworks ∧
      lsa.header.linkStateID = routerID

instance (lsa : SummaryLSA) : (k : Destination) → Decidable (SameAddress lsa k)
  | .network _ _ => inferInstanceAs (Decidable (_ ∧ _))
  | .router _ _ => inferInstanceAs (Decidable (_ ∧ _))

section

variable (router : SummaryOrigination.Router) (area : Area) (intraTable : List RoutingTableEntry)
  (offered : List (Offer Destination Metric NextHop))

/-- What an LSA of a transit area offers for its destination. -/
def recheckOffer (a : Area × SummaryLSA) : Option (Offer Destination Metric NextHop) :=
  if isSkipped router a.2 then none
  else
    (intraTable.find?
      (isBorderRouterEntry a.1.areaID a.2.header.advertisingRouter)).map fun borderRouterEntry =>
        ⟨lsaKey a.2, a.2.routeCost + borderRouterEntry.cost, borderRouterEntry.nextHops⟩

/-- What the transit areas' LSAs offer. -/
def recheckOffers (lsas : List (Area × SummaryLSA)) : List (Offer Destination Metric NextHop) :=
  lsas.filterMap (recheckOffer router intraTable)

/-- The offers for the inter-area paths of the backbone. -/
def backboneOffers (rechecked : List (Offer Destination Metric NextHop)) :
    List (Offer Destination Metric NextHop) :=
  rechecked.filter fun o => area.areaID == backboneAreaID && offered.any (·.key == o.key)

/-- The costs of an LSA of a transit area fit into 16 bits and are not less than those in the
routing table, and no destination has its address with another mask. -/
structure TransitOk (a : Area × SummaryLSA) : Prop where
  areaID : a.1.areaID ≠ backboneAreaID
  sameArea : a.1.areaID = area.areaID → ∀ t ∈ intraTable, t.area ≠ backboneAreaID
  cost : ∀ o ∈ recheckOffer router intraTable a, o.cost < 2 ^ 16
  intraArea : ∀ o ∈ recheckOffer router intraTable a,
    ∀ t ∈ intraTable.find? (isRecheckMatching a.2), t.netmask = a.2.networkMask ∧
      (isBackbonePath t = true → t.cost ≤ o.cost)
  interArea : ∀ o ∈ recheckOffer router intraTable a,
    intraTable.find? (isRecheckMatching a.2) = none → area.areaID = backboneAreaID →
      ∀ o' ∈ offered, SameAddress a.2 o'.key → o'.key = o.key ∧
        ∃ o' ∈ offered, o'.key = o.key ∧ o'.cost ≤ o.cost

end

theorem isRecheckMatching_iff (h : IsInterArea router area intraTable summaryLSAs e) :
    isRecheckMatching lsa e = true ↔ SameAddress lsa (entryKey e) := by
  unfold isRecheckMatching entryKey destination
  by_cases htype : e.destinationType = networkDestination
  · rw [if_pos htype]
    split_ifs with hnetwork
    · simp [htype, SameAddress, hnetwork, h.masked htype]
    · simp [isRouter_of_network htype, SameAddress, hnetwork]
  · rw [if_neg htype]
    have hrouter : e.isRouter = true := h.isTyped.resolve_left htype
    split_ifs with hnetwork
    · simp [htype, SameAddress, hnetwork]
    · simp [hrouter, SameAddress, hnetwork]

theorem sameAddress_lsaKey : SameAddress lsa (lsaKey lsa) := by
  unfold lsaKey
  split_ifs with hnetwork
  · exact ⟨hnetwork, rfl⟩
  · exact ⟨hnetwork, rfl⟩

/-- A matching entry with the mask of the LSA is for its destination. -/
theorem entryKey_of_isRecheckMatching (h : isRecheckMatching lsa e = true)
    (hmask : e.netmask = lsa.networkMask) : entryKey e = lsaKey lsa := by
  unfold isRecheckMatching destination at h
  unfold entryKey lsaKey
  split_ifs at h with hnetwork
  · rw [and_eq_true, beq_iff_eq, beq_iff_eq] at h
    rw [if_pos h.1, if_pos hnetwork, ← h.2, hmask, BitVec.and_assoc, BitVec.and_self]
  · rw [and_eq_true, beq_iff_eq] at h
    rw [if_neg hnetwork, if_neg, ← h.2, hmask]
    intro htype
    rw [isRouter_of_network htype] at h
    exact Bool.false_ne_true h.1

variable {t : RoutingTableEntry}

theorem offer_key_ne (hintra : IsIntraArea intraTable)
    (ho : o ∈ offers router area intraTable summaryLSAs) (ht : t ∈ intraTable) :
    entryKey t ≠ o.key := by
  obtain ⟨lsa, -, hoffer⟩ := mem_filterMap.1 ho
  unfold offer at hoffer
  split_ifs at hoffer with hmatch
  obtain ⟨e, -, rfl⟩ := Option.map_eq_some_iff.1 hoffer
  intro hkey
  exact hmatch (any_eq_true.2 ⟨t, ht, (isMatching_iff (hintra t ht).2).2 hkey⟩)

variable {isBorderRouter : Bool} {nextHops : List NextHop}

/-- The entry after an LSA that does not cost less. -/
theorem recheckEntry_of_le (h : e.cost ≤ cost) :
    recheckEntry cost nextHops isBorderRouter e =
      if cost = e.cost then e.addNextHops nextHops else e := by
  by_cases heq : cost = e.cost
  · rw [if_pos heq, recheckEntry, if_pos heq.le, if_neg (not_lt.2 h)]
  · rw [if_neg heq, recheckEntry, if_neg fun hle => heq (le_antisymm hle h)]

/-! ### One LSA of a transit area -/

variable {a : Area × SummaryLSA} {done : List (Area × SummaryLSA)}

/-- Nothing happens when the LSA meets no path of the backbone. -/
theorem recheckSummaryLSA_of_not_backbone
    (h : ∀ t ∈ intraTable, t.area ≠ backboneAreaID) :
    recheckSummaryLSA router a.1 intraTable a.2 = intraTable := by
  unfold recheckSummaryLSA
  split_ifs with hskip
  · rfl
  · cases hidx : intraTable.findIdx? _ with
    | none => rfl
    | some j =>
      dsimp only
      split_ifs with hbackbone
      · obtain ⟨hj, -⟩ := findIdx?_eq_some_iff_getElem.1 hidx
        rw [getElem?_eq_getElem hj, Option.all_some, isBackbonePath, not_eq_true',
          or_eq_false_iff, bne_eq_false_iff_eq] at hbackbone
        exact absurd hbackbone.2 (h _ (getElem_mem hj))
      · rfl

/-- The table after some LSAs of transit areas. -/
def Rechecked (router : SummaryOrigination.Router) (area : Area)
    (intraTable : List RoutingTableEntry) (summaryLSAs : List SummaryLSA)
    (done : List (Area × SummaryLSA)) (table : List RoutingTableEntry) : Prop :=
  ∃ intraTable' interTable, table = intraTable' ++ interTable ∧
    List.Forall₂ (Kept (recheckOffers router intraTable done)) intraTable intraTable' ∧
    (∀ e ∈ interTable, IsInterArea router area intraTable summaryLSAs e) ∧
    IsLeastCost (offers router area intraTable summaryLSAs ++
      backboneOffers area (offers router area intraTable summaryLSAs)
        (recheckOffers router intraTable done)) interTable

theorem recheckOffers_concat : recheckOffers router intraTable (done ++ [a]) =
    recheckOffers router intraTable done ++ (recheckOffer router intraTable a).toList := by
  rw [recheckOffers, recheckOffers, filterMap_append, filterMap_cons]
  cases recheckOffer router intraTable a <;> rfl

theorem Forall₂_mono (h : List.Forall₂ (Kept offered) intraTable intraTable')
    (hsub : offered ⊆ offered') : List.Forall₂ (Kept offered') intraTable intraTable' :=
  List.Forall₂.imp (fun _ _ hkept => hkept.mono hsub) h

/-- An LSA that makes no offer for an inter-area path. -/
theorem IsLeastCost.of_unused
    (htable : IsLeastCost (offered ++ backboneOffers area offered
      (recheckOffers router intraTable done)) interTable)
    (h : ∀ o ∈ recheckOffer router intraTable a, area.areaID = backboneAreaID →
      ∀ o' ∈ offered, o'.key ≠ o.key) :
    IsLeastCost (offered ++ backboneOffers area offered
      (recheckOffers router intraTable (done ++ [a]))) interTable := by
  rw [recheckOffers_concat, backboneOffers, filter_append]
  cases ho : recheckOffer router intraTable a with
  | none => rwa [Option.toList_none, filter_nil, append_nil]
  | some o =>
    rw [Option.toList_some, filter_cons_of_neg, filter_nil, append_nil]
    · exact htable
    · rw [and_eq_true, beq_iff_eq, any_eq_true]
      rintro ⟨harea, o', ho', hkey⟩
      exact h o ho harea o' ho' (beq_iff_eq.1 hkey)

theorem find?_borderRouter_append {transit : Area} (harea : transit.areaID ≠ backboneAreaID)
    (hne : transit.areaID ≠ area.areaID)
    (hkept : List.Forall₂ (Kept offered) intraTable intraTable')
    (hinter : ∀ e ∈ interTable, IsInterArea router area intraTable summaryLSAs e) :
    (intraTable' ++ interTable).find? (isBorderRouterEntry transit.areaID routerID) =
      intraTable.find? (isBorderRouterEntry transit.areaID routerID) := by
  rw [find?_append, find?_borderRouter_of_kept harea hkept]
  have hnone : interTable.find? (isBorderRouterEntry transit.areaID routerID) = none := by
    rw [find?_eq_none]
    intro e he hborder
    rw [isBorderRouterEntry, (hinter e he).areaID, and_eq_true, and_eq_true, beq_iff_eq] at hborder
    exact hne hborder.1.1.symm
  rw [hnone, Option.or_none]

variable {table : List RoutingTableEntry}

/-- What an LSA does, according to its offer. -/
theorem recheckSummaryLSA_eq
    (hcost : ∀ o ∈ recheckOffer router intraTable a, o.cost < 2 ^ 16)
    (hborder : table.find? (isBorderRouterEntry a.1.areaID a.2.header.advertisingRouter) =
      intraTable.find? (isBorderRouterEntry a.1.areaID a.2.header.advertisingRouter)) :
    ∃ isBorderRouter : ℕ → Bool, recheckSummaryLSA router a.1 table a.2 =
      match recheckOffer router intraTable a with
      | none => table
      | some o =>
        match table.findIdx? (isRecheckMatching a.2) with
        | none => table
        | some j =>
          if table[j]?.all isBackbonePath then
            table.modify j (recheckEntry o.cost o.items (isBorderRouter j))
          else table := by
  refine ⟨fun j => table.findIdx? (isBorderRouterEntry a.1.areaID
    a.2.header.advertisingRouter) == some j, ?_⟩
  unfold recheckOffer at hcost ⊢
  unfold recheckSummaryLSA
  simp only [hborder]
  cases hskip : isSkipped router a.2 with
  | true => rfl
  | false =>
    rw [hskip] at hcost
    simp only [false_eq_true, if_false] at hcost ⊢
    cases hfind : intraTable.find? (isBorderRouterEntry a.1.areaID
        a.2.header.advertisingRouter) with
    | none =>
      rw [Option.map_none]
      cases table.findIdx? (isRecheckMatching a.2) with
      | none => rfl
      | some j => exact ite_self _
    | some borderRouterEntry =>
      rw [hfind] at hcost
      have hshort : shortCost a.2.routeCost borderRouterEntry.cost =
          a.2.routeCost + borderRouterEntry.cost := Nat.mod_eq_of_lt (hcost _ rfl)
      rw [Option.map_some]
      cases table.findIdx? (isRecheckMatching a.2) with
      | none => rfl
      | some j => simp only [hshort]

/-- An LSA for an intra-area destination. -/
theorem kept_recheckEntry {j : ℕ} (hkept : List.Forall₂ (Kept offered) intraTable intraTable')
    (hj : intraTable[j]? = some t) (hbackbone : isBackbonePath t = true) (hkey : o.key = entryKey t)
    (hle : t.cost ≤ o.cost) :
    List.Forall₂ (Kept (offered ++ [o])) intraTable
      (intraTable'.modify j (recheckEntry o.cost o.items isBorderRouter)) := by
  have hsub : offered ⊆ offered ++ [o] := subset_append_left ..
  refine hkept.modify (fun _ _ h => h.mono hsub) fun t' e ht' h => ?_
  obtain rfl : t = t' := Option.some_inj.1 (hj.symm.trans ht')
  have hcost : e.cost = t.cost := by
    rw [h.eq]
  have harea : t.area = backboneAreaID := by
    rw [isBackbonePath, not_eq_true', or_eq_false_iff, bne_eq_false_iff_eq] at hbackbone
    exact hbackbone.2
  rw [recheckEntry_of_le (hcost.trans_le hle), hcost]
  split_ifs with heq
  · exact (h.mono hsub).addNextHops harea (mem_append_right _ (mem_singleton_self o))
      hkey heq
  · exact h.mono hsub

/-- An LSA for an inter-area destination of the backbone. -/
theorem isLeastCost_recheckEntry {j : ℕ} (htable : IsLeastCost offered interTable)
    (hj : interTable[j]? = some e) (hkey : entryKey e = o.key) (hle : e.cost ≤ o.cost) :
    IsLeastCost (offered ++ [o])
      (interTable.modify j (recheckEntry o.cost o.items isBorderRouter)) := by
  have he : e ∈ interTable := mem_of_getElem? hj
  rw [modify_eq_map_of_nodup htable.nodup hj]
  by_cases heq : o.cost = e.cost
  · have hmap : (interTable.map fun b => if entryKey b = entryKey e then
        recheckEntry o.cost o.items isBorderRouter b else b) =
        interTable.map fun b => if entryKey b = o.key then b.addNextHops o.items else b := by
      refine map_congr_left fun b hb => ?_
      rw [hkey]
      split_ifs with hb'
      · obtain rfl := htable.eq_of_key_eq hb he (hb'.trans hkey.symm)
        rw [recheckEntry_of_le hle, if_pos heq]
      · rfl
    rw [hmap]
    exact htable.of_equal he hkey heq.symm fun _ => ⟨rfl, rfl, rfl⟩
  · have hmap : (interTable.map fun b => if entryKey b = entryKey e then
        recheckEntry o.cost o.items isBorderRouter b else b) = interTable := by
      conv_rhs => rw [← map_id interTable]
      refine map_congr_left fun b hb => ?_
      split_ifs with hb'
      · obtain rfl := htable.eq_of_key_eq hb he hb'
        rw [recheckEntry_of_le hle, if_neg heq]
        rfl
      · rfl
    rw [hmap]
    exact htable.of_worse he hkey (lt_of_le_of_ne hle (Ne.symm heq))

theorem recheckOffer_key (h : recheckOffer router intraTable a = some o) :
    o.key = lsaKey a.2 ∧ isSkipped router a.2 = false := by
  unfold recheckOffer at h
  split_ifs at h with hskip
  obtain ⟨e, -, rfl⟩ := Option.map_eq_some_iff.1 h
  exact ⟨rfl, eq_false_iff.2 hskip⟩

theorem Kept.isBackbonePath_eq (h : Kept offered e e') : isBackbonePath e' = isBackbonePath e := by
  rw [← isBackbonePath_fixedPart, h.fixedPart_eq, isBackbonePath_fixedPart]

theorem isBackbonePath_interArea (h : IsInterArea router area intraTable summaryLSAs e) :
    isBackbonePath e = true ↔ area.areaID = backboneAreaID := by
  rw [isBackbonePath, h.pathType, h.areaID]
  simp

theorem IsInterArea.recheckEntry (h : IsInterArea router area intraTable summaryLSAs e) :
    IsInterArea router area intraTable summaryLSAs
      (InterAreaRoutes.recheckEntry cost nextHops isBorderRouter e) := by
  unfold InterAreaRoutes.recheckEntry
  split_ifs <;> exact ⟨h.pathType, h.areaID, h.destinationType, h.masked, h.noIntraArea⟩

variable {rechecked : List (Offer Destination Metric NextHop)}

/-- An offer for an inter-area path of the backbone. -/
theorem TransitOk.interArea_le (hok : TransitOk router area intraTable offered a)
    (htable : IsLeastCost (offered ++ backboneOffers area offered rechecked) interTable)
    (he : e ∈ interTable) (ho : recheckOffer router intraTable a = some o)
    (hfind : intraTable.find? (isRecheckMatching a.2) = none) (harea : area.areaID = backboneAreaID)
    (hsame : SameAddress a.2 (entryKey e)) :
    entryKey e = o.key ∧ e.cost ≤ o.cost ∧ ∃ o' ∈ offered, o'.key = o.key := by
  have hoffered : ∃ o' ∈ offered, o'.key = entryKey e := by
    obtain ⟨o', ho', hkey, -⟩ := (htable.best e he).attained
    rcases mem_append.1 ho' with ho' | ho'
    · exact ⟨o', ho', hkey⟩
    · have hany := (mem_filter.1 ho').2
      rw [and_eq_true, any_eq_true] at hany
      obtain ⟨-, o'', ho'', hkey'⟩ := hany
      exact ⟨o'', ho'', (beq_iff_eq.1 hkey').trans hkey⟩
  obtain ⟨o1, ho1, hkey1⟩ := hoffered
  rw [← hkey1] at hsame
  obtain ⟨hkey, o2, ho2, hkey2, hcost⟩ := hok.interArea o ho hfind harea o1 ho1 hsame
  have hkeye : entryKey e = o.key := hkey1.symm.trans hkey
  have hle := (htable.best e he).le o2 (mem_append_left _ ho2) (hkey2.trans hkeye.symm)
  exact ⟨hkeye, hle.trans hcost, o1, ho1, hkey⟩

/-- One more LSA of a transit area. -/
theorem Rechecked.step (hintra : IsIntraArea intraTable)
    (hok : TransitOk router area intraTable (offers router area intraTable summaryLSAs) a)
    (h : Rechecked router area intraTable summaryLSAs done table) :
    Rechecked router area intraTable summaryLSAs (done ++ [a])
      (recheckSummaryLSA router a.1 table a.2) := by
  obtain ⟨intraTable', interTable, rfl, hkept, hinter, htable⟩ := h
  have hmono : List.Forall₂ (Kept (recheckOffers router intraTable (done ++ [a]))) intraTable
      intraTable' := by
    rw [recheckOffers_concat]
    exact Forall₂_mono hkept (subset_append_left ..)
  have hsame : (∀ o ∈ recheckOffer router intraTable a, area.areaID = backboneAreaID →
        ∀ o' ∈ offers router area intraTable summaryLSAs, o'.key ≠ o.key) →
      Rechecked router area intraTable summaryLSAs (done ++ [a]) (intraTable' ++ interTable) := by
    intro hunused
    exact ⟨intraTable', interTable, rfl, hmono, hinter, htable.of_unused hunused⟩
  by_cases hareas : a.1.areaID = area.areaID
  · -- the area is not the backbone, and no path is one of the backbone
    rw [recheckSummaryLSA_of_not_backbone]
    · exact hsame fun o _ harea => absurd (hareas.trans harea) hok.areaID
    · intro t' ht'
      rcases mem_append.1 ht' with ht' | ht'
      · obtain ⟨t, ht, hkeep⟩ := hkept.exists_of_mem_right ht'
        have hne := hok.sameArea hareas t ht
        rw [hkeep.eq_of_area hne]
        exact hne
      · rw [(hinter t' ht').areaID, ← hareas]
        exact hok.areaID
  · obtain ⟨isBorderRouter, heq⟩ := recheckSummaryLSA_eq hok.cost
      (find?_borderRouter_append hok.areaID hareas hkept hinter)
    rw [heq]
    cases ho : recheckOffer router intraTable a with
    | none =>
      refine hsame fun o ho' => ?_
      rw [ho] at ho'
      cases ho'
    | some o =>
      obtain ⟨hokey, -⟩ := recheckOffer_key ho
      have hconcat : recheckOffers router intraTable (done ++ [a]) =
          recheckOffers router intraTable done ++ [o] := by
        rw [recheckOffers_concat, ho, Option.toList_some]
      have hunused : (∀ o' ∈ offers router area intraTable summaryLSAs, o'.key ≠ o.key) →
          ∀ o' ∈ recheckOffer router intraTable a, area.areaID = backboneAreaID →
            ∀ o'' ∈ offers router area intraTable summaryLSAs, o''.key ≠ o'.key := by
        intro hne o' ho' _
        obtain rfl := Option.some_inj.1 (ho.symm.trans ho')
        exact hne
      dsimp only
      rw [findIdx?_append, findIdx?_of_kept hkept]
      cases hidx : intraTable.findIdx? (isRecheckMatching a.2) with
      | some j =>
        obtain ⟨hj, hmatch, -⟩ := findIdx?_eq_some_iff_getElem.1 hidx
        have hget : intraTable[j]? = some intraTable[j] := getElem?_eq_getElem hj
        have ht : intraTable[j] ∈ intraTable := getElem_mem hj
        generalize intraTable[j] = t at hmatch hget ht
        have hfind : intraTable.find? (isRecheckMatching a.2) = some t := by
          rw [find?_eq_bind_findIdx?_getElem?, hidx]
          exact hget
        obtain ⟨hmask, hle⟩ := hok.intraArea o ho t hfind
        have hkey : o.key = entryKey t :=
          hokey.trans (entryKey_of_isRecheckMatching hmatch hmask).symm
        have hne : ∀ o' ∈ offers router area intraTable summaryLSAs, o'.key ≠ o.key := by
          intro o' ho' heq'
          exact offer_key_ne hintra ho' ht (hkey.symm.trans heq'.symm)
        obtain ⟨t', ht', hkeep⟩ := hkept.exists_getElem? hget
        have hj' : j < intraTable'.length := hkept.length_eq ▸ hj
        rw [Option.some_or]
        dsimp only
        rw [getElem?_append_left hj', ht', Option.all_some, hkeep.isBackbonePath_eq]
        split_ifs with hbackbone
        · rw [modify_append_of_lt hj']
          refine ⟨_, interTable, rfl, ?_, hinter, htable.of_unused (hunused hne)⟩
          rw [hconcat]
          exact kept_recheckEntry hkept hget hbackbone hkey (hle hbackbone)
        · exact hsame (hunused hne)
      | none =>
        have hfind : intraTable.find? (isRecheckMatching a.2) = none := by
          rw [find?_eq_bind_findIdx?_getElem?, hidx]
          rfl
        rw [Option.none_or]
        cases hidx' : interTable.findIdx? (isRecheckMatching a.2) with
        | none =>
          refine hsame (hunused fun o' ho' hkey => ?_)
          obtain ⟨e, he, hkey'⟩ := htable.all o' (mem_append_left _ ho')
          have hmatch : isRecheckMatching a.2 e = true := by
            rw [isRecheckMatching_iff (hinter e he), hkey', hkey, hokey]
            exact sameAddress_lsaKey
          rw [findIdx?_eq_none_iff.1 hidx' e he] at hmatch
          exact Bool.false_ne_true hmatch
        | some j =>
          obtain ⟨hj, hmatch, -⟩ := findIdx?_eq_some_iff_getElem.1 hidx'
          have hget : interTable[j]? = some interTable[j] := getElem?_eq_getElem hj
          have he : interTable[j] ∈ interTable := getElem_mem hj
          generalize interTable[j] = e at hmatch hget he
          rw [Option.map_some]
          dsimp only
          rw [getElem?_append_right (Nat.le_add_left ..), Nat.add_sub_cancel, hget, Option.all_some]
          by_cases harea : area.areaID = backboneAreaID
          · obtain ⟨hkey, hle, o', ho', hkey'⟩ := hok.interArea_le htable he ho hfind harea
              ((isRecheckMatching_iff (hinter e he)).1 hmatch)
            rw [if_pos ((isBackbonePath_interArea (hinter e he)).2 harea), modify_append_add]
            refine ⟨intraTable', _, rfl, hmono, fun d hd => ?_, ?_⟩
            · rw [modify_eq_map_of_nodup htable.nodup hget] at hd
              obtain ⟨c, hc, rfl⟩ := mem_map.1 hd
              split_ifs
              · exact (hinter c hc).recheckEntry
              · exact hinter c hc
            · rw [hconcat, backboneOffers, filter_append, filter_cons_of_pos,
                filter_nil, ← append_assoc]
              · exact isLeastCost_recheckEntry htable hget hkey hle
              · rw [and_eq_true, beq_iff_eq, any_eq_true]
                exact ⟨harea, o', ho', beq_iff_eq.2 hkey'⟩
          · rw [if_neg fun h => harea ((isBackbonePath_interArea (hinter e he)).1 h)]
            exact hsame fun _ _ h => absurd h harea

/-! ### All LSAs -/

/-- The LSAs of the transit areas. -/
def transitLSAs (transitAreas : List (Area × List SummaryLSA)) : List (Area × SummaryLSA) :=
  transitAreas.flatMap fun transit => transit.2.map (Prod.mk transit.1)

variable {transitAreas transitAreas' : List (Area × List SummaryLSA)}
  {summaryLSAs' : List SummaryLSA}

theorem interAreaRoutes_eq : interAreaRoutes router area summaryLSAs transitAreas intraTable =
    (transitLSAs transitAreas).foldl (fun table a => recheckSummaryLSA router a.1 table a.2)
      (calculateInterAreaRoutes router area summaryLSAs intraTable) := by
  rw [interAreaRoutes, transitLSAs, foldl_flatMap]
  congr 1
  funext table transit
  rw [foldl_map]
  rfl

theorem forall₂_kept_refl : List.Forall₂ (Kept offered) intraTable intraTable := by
  rw [forall₂_same]
  exact fun t _ => Kept.refl offered t

theorem interAreaRoutes_rechecked (hintra : IsIntraArea intraTable)
    (hok : SummaryLSAsOk router area intraTable summaryLSAs)
    (htransit : ∀ a ∈ transitLSAs transitAreas,
      TransitOk router area intraTable (offers router area intraTable summaryLSAs) a) :
    Rechecked router area intraTable summaryLSAs (transitLSAs transitAreas)
      (interAreaRoutes router area summaryLSAs transitAreas intraTable) := by
  have hrest : ∀ (rest done : List (Area × SummaryLSA)) (table : List RoutingTableEntry),
      (∀ a ∈ rest, TransitOk router area intraTable (offers router area intraTable summaryLSAs) a) →
      Rechecked router area intraTable summaryLSAs done table →
      Rechecked router area intraTable summaryLSAs (done ++ rest)
        (rest.foldl (fun table a => recheckSummaryLSA router a.1 table a.2) table) := by
    intro rest
    induction rest with
    | nil =>
      intro done table _ h
      rwa [append_nil]
    | cons a rest ih =>
      intro done table hall h
      obtain ⟨ha, hall⟩ := forall_mem_cons.1 hall
      have hstep := ih (done ++ [a]) _ hall (h.step hintra ha)
      rwa [append_assoc] at hstep
  obtain ⟨interTable, heq, hinter, htable⟩ := calculateInterAreaRoutes_isLeastCost hintra hok
  rw [interAreaRoutes_eq, heq]
  refine hrest (transitLSAs transitAreas) [] _ htransit ⟨intraTable, interTable, rfl,
    forall₂_kept_refl, hinter, ?_⟩
  rw [recheckOffers, filterMap_nil, backboneOffers, filter_nil, append_nil]
  exact htable

/-! ### The order of the LSAs -/

theorem SummaryLSAsOk.of_subset (h : SummaryLSAsOk router area intraTable summaryLSAs)
    (hsub : summaryLSAs' ⊆ summaryLSAs) : SummaryLSAsOk router area intraTable summaryLSAs' where
  cost := fun lsa hlsa => h.cost lsa (hsub hlsa)
  mask := fun lsa hlsa => h.mask lsa (hsub hlsa)
  borderRouter := fun lsa hlsa husable hasbr lsa' hlsa' =>
    h.borderRouter lsa (hsub hlsa) husable hasbr lsa' (hsub hlsa')

theorem TransitOk.of_mem_iff (h : TransitOk router area intraTable offered a)
    (hmem : ∀ o, o ∈ offered ↔ o ∈ offered') : TransitOk router area intraTable offered' a where
  areaID := h.areaID
  sameArea := h.sameArea
  cost := h.cost
  intraArea := h.intraArea
  interArea := by
    intro o ho hfind harea o' ho' hsame
    obtain ⟨hkey, o2, ho2, hcost⟩ := h.interArea o ho hfind harea o' ((hmem o').2 ho') hsame
    exact ⟨hkey, o2, (hmem o2).1 ho2, hcost⟩

theorem mem_backboneOffers :
    o ∈ backboneOffers area offered rechecked ↔ o ∈ rechecked ∧
      area.areaID = backboneAreaID ∧ ∃ o' ∈ offered, o'.key = o.key := by
  rw [backboneOffers, mem_filter, and_eq_true, beq_iff_eq, any_eq_true]
  simp only [beq_iff_eq]

/-- The inter-area routes are those of the least cost, for every order of the LSAs. -/
theorem interAreaRoutes_isLeastCost (hintra : IsIntraArea intraTable)
    (hok : SummaryLSAsOk router area intraTable summaryLSAs)
    (htransit : ∀ a ∈ transitLSAs transitAreas,
      TransitOk router area intraTable (offers router area intraTable summaryLSAs) a) :
    ∃ intraTable' interTable,
      interAreaRoutes router area summaryLSAs transitAreas intraTable = intraTable' ++ interTable ∧
      List.Forall₂ (Kept (recheckOffers router intraTable (transitLSAs transitAreas)))
        intraTable intraTable' ∧
      (∀ e ∈ interTable, IsInterArea router area intraTable summaryLSAs e) ∧
      IsLeastCost (offers router area intraTable summaryLSAs ++
        backboneOffers area (offers router area intraTable summaryLSAs)
          (recheckOffers router intraTable (transitLSAs transitAreas))) interTable ∧
      ∀ summaryLSAs' transitAreas', summaryLSAs'.Perm summaryLSAs →
        (transitLSAs transitAreas').Perm (transitLSAs transitAreas) →
        ∃ intraTable'' interTable',
          interAreaRoutes router area summaryLSAs' transitAreas' intraTable =
            intraTable'' ++ interTable' ∧ intraTable''.length = intraTable'.length ∧
          (interTable'.map entryKey).Perm (interTable.map entryKey) ∧
          ∀ e ∈ interTable, ∃ e' ∈ interTable', entryKey e' = entryKey e ∧ e'.cost = e.cost ∧
            ∀ h, h ∈ e'.nextHops ↔ h ∈ e.nextHops := by
  obtain ⟨intraTable', interTable, heq, hkept, hinter, htable⟩ :=
    interAreaRoutes_rechecked hintra hok htransit
  refine ⟨intraTable', interTable, heq, hkept, hinter, htable, ?_⟩
  intro lsas' transit' hperm hperm'
  have hoffers : (offers router area intraTable lsas').Perm
      (offers router area intraTable summaryLSAs) := hperm.filterMap _
  have hrecheck : (recheckOffers router intraTable (transitLSAs transit')).Perm
      (recheckOffers router intraTable (transitLSAs transitAreas)) := hperm'.filterMap _
  obtain ⟨intraTable'', interTable', heq', hkept', -, htable'⟩ :=
    interAreaRoutes_rechecked hintra (hok.of_subset hperm.subset) fun a ha =>
      (htransit a (hperm'.mem_iff.1 ha)).of_mem_iff fun o => hoffers.mem_iff.symm
  have hmem : ∀ o, o ∈ offers router area intraTable summaryLSAs ++
        backboneOffers area (offers router area intraTable summaryLSAs)
          (recheckOffers router intraTable (transitLSAs transitAreas)) ↔
      o ∈ offers router area intraTable lsas' ++
        backboneOffers area (offers router area intraTable lsas')
          (recheckOffers router intraTable (transitLSAs transit')) := by
    intro o
    simp only [mem_append, mem_backboneOffers, hoffers.mem_iff, hrecheck.mem_iff]
  refine ⟨intraTable'', interTable', heq', hkept'.length_eq.symm.trans hkept.length_eq,
    (htable.map_key_perm htable' hmem).symm, fun e he => htable.perm htable' hmem he⟩

/-! ### Samples -/

/-- A router in the backbone and in area 1, without address ranges. -/
def sampleRouter : SummaryOrigination.Router where
  routerID := 0x01010101
  rfc1583Compatibility := false
  areas := []
  routingTable := []

def sampleArea (areaID : AreaID) : Area where
  areaID := areaID
  externalRoutingCapability := true
  transitCapability := areaID != backboneAreaID
  areaAddressRanges := []
  associatedInterfaces := []

/-- An intra-area entry for an area border router. -/
def sampleBorderRouter (routerID : RouterID) (areaID : AreaID) (cost : Metric) (ifIndex : ℤ) :
    RoutingTableEntry where
  destination := routerID
  destinationType := areaBorderRouterDestination
  area := areaID
  cost := cost
  nextHops := [⟨ifIndex, routerID, routerID⟩]

/-- The network 10.2.0.0/16 of the backbone. -/
def sampleNetwork : RoutingTableEntry where
  destination := 0x0A020000
  netmask := 0xFFFF0000
  cost := 10
  nextHops := [⟨1, 0x02020202, 0x02020202⟩]

def sampleSummaryLSA (linkStateID : LinkStateID) (routerID : RouterID) (cost : Metric) :
    SummaryLSA where
  header := ⟨1, .summaryLSANetworks, linkStateID, routerID, 1⟩
  lsOptions := {}
  networkMask := 0xFFFF0000
  routeCost := cost
  tosData := []

/-- Two border routers of the backbone and one of area 1. -/
def sampleTable : List RoutingTableEntry :=
  [sampleNetwork, sampleBorderRouter 0x02020202 backboneAreaID 4 1,
    sampleBorderRouter 0x03030303 backboneAreaID 5 2, sampleBorderRouter 0x04040404 1 3 3]

theorem isIntraArea_sampleTable : IsIntraArea sampleTable := by
  unfold IsIntraArea
  decide

/-- Three paths to 10.3.0.0/16 of cost 10, one of them through area 1. -/
theorem interAreaRoutes_isLeastCost_sample : ∃ intraTable' interTable,
    interAreaRoutes sampleRouter (sampleArea backboneAreaID)
        [sampleSummaryLSA 0x0A030000 0x03030303 5, sampleSummaryLSA 0x0A030000 0x02020202 6]
        [(sampleArea 1, [sampleSummaryLSA 0x0A030000 0x04040404 7])] sampleTable =
      intraTable' ++ interTable ∧
    IsLeastCost (offers sampleRouter (sampleArea backboneAreaID) sampleTable
          [sampleSummaryLSA 0x0A030000 0x03030303 5, sampleSummaryLSA 0x0A030000 0x02020202 6] ++
        backboneOffers (sampleArea backboneAreaID)
          (offers sampleRouter (sampleArea backboneAreaID) sampleTable
            [sampleSummaryLSA 0x0A030000 0x03030303 5, sampleSummaryLSA 0x0A030000 0x02020202 6])
          (recheckOffers sampleRouter sampleTable
            (transitLSAs [(sampleArea 1, [sampleSummaryLSA 0x0A030000 0x04040404 7])])))
      interTable := by
  have hcost : ∀ lsa ∈ [sampleSummaryLSA 0x0A030000 0x03030303 5,
      sampleSummaryLSA 0x0A030000 0x02020202 6],
      ∀ e ∈ usable sampleRouter (sampleArea backboneAreaID) sampleTable lsa,
        lsa.routeCost + e.cost < 2 ^ 16 := by decide +kernel
  have htransit : ∀ a ∈ transitLSAs [(sampleArea 1, [sampleSummaryLSA 0x0A030000 0x04040404 7])],
      TransitOk sampleRouter (sampleArea backboneAreaID) sampleTable
        (offers sampleRouter (sampleArea backboneAreaID) sampleTable
          [sampleSummaryLSA 0x0A030000 0x03030303 5,
            sampleSummaryLSA 0x0A030000 0x02020202 6]) a := by
    refine forall_mem_singleton.2 ⟨by decide, by decide, by decide +kernel, ?_, ?_⟩
    · decide +kernel
    · decide +kernel
  obtain ⟨intraTable', interTable, heq, -, -, htable, -⟩ :=
    interAreaRoutes_isLeastCost isIntraArea_sampleTable
      ⟨hcost, by decide +kernel, by decide +kernel⟩ htransit
  exact ⟨intraTable', interTable, heq, htable⟩

/-- A transit area adds its next hop to the intra-area entry for 10.2.0.0/16. -/
theorem not_intraArea_untouched : IsIntraArea sampleTable ∧
    sampleNetwork ∈ sampleTable ∧
    sampleNetwork ∉ interAreaRoutes sampleRouter (sampleArea backboneAreaID) []
      [(sampleArea 1, [sampleSummaryLSA 0x0A020000 0x04040404 7])] sampleTable := by
  refine ⟨isIntraArea_sampleTable, by decide, ?_⟩
  decide +kernel

end InterAreaRoutes

end OSPF

end Hiwis
