import Hiwis.Lib.BestOffers
import Hiwis.Ospf.InterAreaRoutes

/-!
# Inter-area routes of the least cost

Each usable summary LSA offers a path for its destination.  The table of the inter-area entries is
the table of the best offers.

* `OSPF.InterAreaRoutes.isMatching_iff` : what the code compares is the destination;
* `OSPF.InterAreaRoutes.addSummaryLSA_isLeastCost` : one LSA;
* `OSPF.InterAreaRoutes.calculateInterAreaRoutes_isLeastCost` : all LSAs of an area.
-/

namespace Hiwis

open List

namespace OSPF

namespace InterAreaRoutes

open BestOffers (Offer IsTable)
open SummaryOrigination (Area SummaryLSA)

/-! ### Destinations and offers -/

/-- The destination of a routing table entry. -/
inductive Destination
  | network (address mask : IPv4Address)
  | router (routerID : RouterID) (mask : IPv4Address)
  deriving DecidableEq

/-- The destination of an entry. -/
def entryKey (entry : RoutingTableEntry) : Destination :=
  if entry.destinationType = networkDestination then
    .network (entry.destination &&& entry.netmask) entry.netmask
  else .router entry.destination entry.netmask

/-- The destination that an LSA describes. -/
def lsaKey (lsa : SummaryLSA) : Destination :=
  if lsa.header.lsType = .summaryLSANetworks then
    .network (lsa.header.linkStateID &&& lsa.networkMask) lsa.networkMask
  else .router lsa.header.linkStateID lsa.networkMask

section

variable (router : SummaryOrigination.Router) (area : Area) (intraTable : List RoutingTableEntry)

/-- The entry for the border router of an LSA that is not passed over. -/
def usable (lsa : SummaryLSA) : Option RoutingTableEntry :=
  if isSkipped router lsa || isActiveRange router intraTable lsa then none
  else intraTable.find? (isBorderRouterEntry area.areaID lsa.header.advertisingRouter)

/-- What an LSA offers for its destination, when there is no intra-area path. -/
def offer (lsa : SummaryLSA) : Option (Offer Destination Metric NextHop) :=
  if intraTable.any (isMatching lsa) then none
  else (usable router area intraTable lsa).map fun borderRouterEntry =>
    ⟨lsaKey lsa, lsa.routeCost + borderRouterEntry.cost, borderRouterEntry.nextHops⟩

/-- What the area's LSAs offer. -/
def offers (summaryLSAs : List SummaryLSA) : List (Offer Destination Metric NextHop) :=
  summaryLSAs.filterMap (offer router area intraTable)

/-- A routing table of the intra-area phase. -/
def IsIntraArea : Prop :=
  ∀ e ∈ intraTable, e.pathType = .intraArea ∧
    (e.destinationType = networkDestination ∨ e.isRouter = true)

/-- The costs fit into 16 bits, the mask of a router is that of a host, and a router that an LSA
describes does not advertise LSAs itself without an entry of its own. -/
structure SummaryLSAsOk (summaryLSAs : List SummaryLSA) : Prop where
  cost : ∀ lsa ∈ summaryLSAs, ∀ e, usable router area intraTable lsa = some e →
    lsa.routeCost + e.cost < 2 ^ 16
  mask : ∀ lsa ∈ summaryLSAs, (usable router area intraTable lsa).isSome = true →
    lsa.header.lsType ≠ .summaryLSANetworks → lsa.networkMask = IPv4Address.allonesAddress
  borderRouter : ∀ lsa ∈ summaryLSAs, (usable router area intraTable lsa).isSome = true →
    lsa.header.lsType ≠ .summaryLSANetworks → ∀ lsa' ∈ summaryLSAs,
      lsa'.header.advertisingRouter = lsa.header.linkStateID → isSkipped router lsa' = false →
        (intraTable.find? (isBorderRouterEntry area.areaID
          lsa'.header.advertisingRouter)).isSome = true

/-- An inter-area entry for a destination without an intra-area path. -/
structure IsInterArea (summaryLSAs : List SummaryLSA) (e : RoutingTableEntry) : Prop where
  pathType : e.pathType = .interArea
  areaID : e.area = area.areaID
  destinationType : e.destinationType = networkDestination ∨
    e.destinationType = asBoundaryRouterDestination ∧ ∃ lsa ∈ summaryLSAs,
      (usable router area intraTable lsa).isSome = true ∧
        lsa.header.lsType ≠ .summaryLSANetworks ∧ lsa.header.linkStateID = e.destination
  masked : e.destinationType = networkDestination → e.destination &&& e.netmask = e.destination
  noIntraArea : ∀ t ∈ intraTable, entryKey t ≠ entryKey e

end

variable {router : SummaryOrigination.Router} {area : Area}
  {intraTable : List RoutingTableEntry} {summaryLSAs : List SummaryLSA} {lsa : SummaryLSA}
  {e : RoutingTableEntry} {cost : Metric}

theorem isRouter_of_network (h : e.destinationType = networkDestination) : e.isRouter = false := by
  rw [RoutingTableEntry.isRouter, RoutingTableEntry.isAreaBorderRouter,
    RoutingTableEntry.isASBoundaryRouter, h]
  rfl

theorem isRouter_of_asBoundaryRouter (h : e.destinationType = asBoundaryRouterDestination) :
    e.isRouter = true := by
  rw [RoutingTableEntry.isRouter, RoutingTableEntry.isAreaBorderRouter,
    RoutingTableEntry.isASBoundaryRouter, h]
  rfl

theorem isMatching_iff (h : e.destinationType = networkDestination ∨ e.isRouter = true) :
    isMatching lsa e = true ↔ entryKey e = lsaKey lsa := by
  unfold isMatching entryKey lsaKey isSameNetwork destination
  by_cases hnetwork : lsa.header.lsType = .summaryLSANetworks
  · rw [if_pos hnetwork, if_pos hnetwork]
    split_ifs with htype
    · simp only [htype, beq_self_eq_true, Bool.true_and, Bool.and_eq_true, beq_iff_eq,
        Destination.network.injEq]
      constructor
      · rintro ⟨hmask, haddr⟩
        exact ⟨haddr.symm, hmask.symm⟩
      · rintro ⟨haddr, hmask⟩
        exact ⟨hmask.symm, haddr.symm⟩
    · simp [htype]
  · rw [if_neg hnetwork, if_neg hnetwork]
    split_ifs with htype
    · simp [isRouter_of_network htype]
    · simp only [h.resolve_left htype, Bool.true_and, Bool.and_eq_true, beq_iff_eq,
        Destination.router.injEq]
      exact and_congr eq_comm eq_comm

theorem IsInterArea.addNextHops (h : IsInterArea router area intraTable summaryLSAs e)
    (nextHops : List NextHop) :
    IsInterArea router area intraTable summaryLSAs (e.addNextHops nextHops) :=
  ⟨h.pathType, h.areaID, h.destinationType, h.masked, h.noIntraArea⟩

theorem IsInterArea.isTyped (h : IsInterArea router area intraTable summaryLSAs e) :
    e.destinationType = networkDestination ∨ e.isRouter = true :=
  h.destinationType.imp_right fun h => isRouter_of_asBoundaryRouter h.1

/-! ### One summary LSA -/

variable {interTable : List RoutingTableEntry}

theorem isActiveRange_append (h : ∀ e ∈ interTable, e.pathType = .interArea) :
    isActiveRange router (intraTable ++ interTable) lsa = isActiveRange router intraTable lsa := by
  unfold isActiveRange
  rw [any_append]
  have hnone : interTable.any (fun entry => entry.destinationType == networkDestination &&
      entry.pathType == .intraArea &&
        (destination lsa).containedByRange entry.destination entry.netmask) = false := by
    rw [any_eq_false]
    intro e he
    simp [h e he]
  rw [hnone, Bool.or_false]

/-- The entry for the border router is one of the intra-area phase. -/
theorem find?_isBorderRouterEntry (hok : SummaryLSAsOk router area intraTable summaryLSAs)
    (hinter : ∀ e ∈ interTable, IsInterArea router area intraTable summaryLSAs e)
    (hlsa : lsa ∈ summaryLSAs) (hskip : isSkipped router lsa = false) :
    (intraTable ++ interTable).find?
        (isBorderRouterEntry area.areaID lsa.header.advertisingRouter) =
      intraTable.find? (isBorderRouterEntry area.areaID lsa.header.advertisingRouter) := by
  rw [List.find?_append]
  cases hintra : intraTable.find? _ with
  | some e => rfl
  | none =>
    rw [Option.none_or, List.find?_eq_none]
    intro e he hborder
    rw [isBorderRouterEntry, Bool.and_eq_true, Bool.and_eq_true, beq_iff_eq, beq_iff_eq] at hborder
    obtain ⟨⟨-, hrouter⟩, hid⟩ := hborder
    rcases (hinter e he).destinationType with hnetwork | ⟨-, lsa', hlsa', husable, hasbr, hid'⟩
    · rw [isRouter_of_network hnetwork] at hrouter
      exact Bool.false_ne_true hrouter
    · have hsome := hok.borderRouter lsa' hlsa' husable hasbr lsa hlsa (hid.symm.trans hid'.symm)
        hskip
      rw [hintra] at hsome
      exact Bool.false_ne_true hsome

theorem modifyLast_eq_map {p : RoutingTableEntry → Bool}
    {f : RoutingTableEntry → RoutingTableEntry} {table : List RoutingTableEntry}
    (h : table.Pairwise fun a b => ¬ (p a = true ∧ p b = true)) :
    modifyLast p f table = table.map fun e => if p e then f e else e := by
  induction table with
  | nil => rfl
  | cons e table ih =>
    rw [pairwise_cons] at h
    rw [modifyLast, map_cons, ih h.2]
    by_cases hany : table.any p = true
    · obtain ⟨b, hb, hpb⟩ := any_eq_true.1 hany
      rw [if_pos hany, if_neg fun hpe => h.1 b hb ⟨hpe, hpb⟩]
    · rw [if_neg hany]
      have hrest : table.map (fun e => if p e then f e else e) = table := by
        rw [any_eq_true] at hany
        conv_rhs => rw [← map_id table]
        exact map_congr_left fun b hb => if_neg fun hpb => hany ⟨b, hb, hpb⟩
      rw [hrest]
      split_ifs <;> rfl

theorem isBetter_iff : isBetter lsa cost e = true ↔ isMatching lsa e = true ∧
    (e.pathType = .intraArea ∨ e.pathType = .interArea ∧ e.cost < cost) := by
  rw [isBetter, Bool.and_eq_true, Bool.or_eq_true, Bool.and_eq_true, beq_iff_eq, beq_iff_eq,
    decide_eq_true_eq]

theorem isSameOrWorse_iff : isSameOrWorse lsa cost e = true ↔
    isMatching lsa e = true ∧ e.pathType = .interArea ∧ cost ≤ e.cost := by
  rw [isSameOrWorse, Bool.and_eq_true, Bool.and_eq_true, beq_iff_eq, decide_eq_true_eq, and_assoc]

theorem entryKey_create {borderRouterEntry : RoutingTableEntry}
    (hmask : lsa.header.lsType ≠ .summaryLSANetworks →
      lsa.networkMask = IPv4Address.allonesAddress) :
    entryKey (createRoutingTableEntryFromSummaryLSA area.areaID lsa cost borderRouterEntry) =
      lsaKey lsa := by
  unfold entryKey lsaKey createRoutingTableEntryFromSummaryLSA destination
  by_cases hnetwork : lsa.header.lsType = .summaryLSANetworks
  · simp only [if_pos hnetwork, if_true, BitVec.and_assoc, BitVec.and_self]
  · simp only [if_neg hnetwork, hmask hnetwork]
    rfl

/-- The inter-area entries have the least costs that are offered. -/
abbrev IsLeastCost (offers : List (Offer Destination Metric NextHop))
    (interTable : List RoutingTableEntry) : Prop :=
  IsTable entryKey (·.cost) (·.nextHops) offers interTable

variable {offered : List (Offer Destination Metric NextHop)}
  {borderRouterEntry : RoutingTableEntry}

section

variable (hintra : IsIntraArea intraTable)
  (hinter : ∀ e ∈ interTable, IsInterArea router area intraTable summaryLSAs e)
  (hnone : ∀ t ∈ intraTable, entryKey t ≠ lsaKey lsa) (htable : IsLeastCost offered interTable)
include hintra hnone

theorem isSameOrWorse_intraArea {t : RoutingTableEntry} (ht : t ∈ intraTable) :
    isSameOrWorse lsa cost t = false := by
  rw [← Bool.not_eq_true, isSameOrWorse_iff, isMatching_iff (hintra t ht).2]
  exact fun h => hnone t ht h.1

theorem filter_intraArea : (intraTable.filter fun entry =>
    !(isSameOrWorse lsa cost entry && decide (cost < entry.cost))) = intraTable := by
  rw [filter_eq_self]
  intro t ht
  rw [isSameOrWorse_intraArea hintra hnone ht]
  rfl

omit hintra hnone in
include hinter in
theorem isSameOrWorse_interArea (he : e ∈ interTable) :
    isSameOrWorse lsa cost e = true ↔ entryKey e = lsaKey lsa ∧ cost ≤ e.cost := by
  rw [isSameOrWorse_iff, isMatching_iff (hinter e he).isTyped]
  simp only [(hinter e he).pathType, true_and]

include hinter htable

/-- An equal entry gets the next hops. -/
theorem addRoute_of_equal (he : e ∈ interTable) (hkey : entryKey e = lsaKey lsa)
    (hcost : e.cost = cost) :
    addRoute area.areaID (intraTable ++ interTable) lsa cost borderRouterEntry =
      intraTable ++ interTable.map fun e => if entryKey e = lsaKey lsa then
        e.addNextHops borderRouterEntry.nextHops else e := by
  have hworse : ∀ d ∈ interTable, isSameOrWorse lsa cost d = true ↔ entryKey d = lsaKey lsa := by
    intro d hd
    rw [isSameOrWorse_interArea hinter hd, and_iff_left_iff_imp]
    intro hd'
    obtain rfl := htable.eq_of_key_eq hd he (hd'.trans hkey.symm)
    exact hcost.ge
  have hkeep : (interTable.filter fun entry =>
      !(isSameOrWorse lsa cost entry && decide (cost < entry.cost))) = interTable := by
    rw [filter_eq_self]
    intro d hd
    rw [Bool.not_eq_true', Bool.and_eq_false_iff, ← Bool.not_eq_true, hworse d hd,
      decide_eq_false_iff_not]
    by_cases hd' : entryKey d = lsaKey lsa
    · obtain rfl := htable.eq_of_key_eq hd he (hd'.trans hkey.symm)
      exact .inr (by rw [hcost]; exact lt_irrefl _)
    · exact .inl hd'
  have hany : (intraTable ++ interTable).any (isSameOrWorse lsa cost) = true :=
    any_eq_true.2 ⟨e, mem_append_right _ he, (hworse e he).2 hkey⟩
  have hpairwise : (intraTable ++ interTable).Pairwise fun a b =>
      ¬ (isSameOrWorse lsa cost a = true ∧ isSameOrWorse lsa cost b = true) := by
    have hfalse : ∀ a ∈ intraTable, ∀ b : RoutingTableEntry,
        ¬ (isSameOrWorse lsa cost a = true ∧ isSameOrWorse lsa cost b = true) := by
      intro a ha b h
      rw [isSameOrWorse_intraArea hintra hnone ha] at h
      exact Bool.false_ne_true h.1
    rw [pairwise_append]
    refine ⟨pairwise_of_forall_mem_list fun a ha b _ => hfalse a ha b, ?_,
      fun a ha b _ => hfalse a ha b⟩
    refine (pairwise_map.1 htable.nodup).imp_of_mem fun ha hb hne h => ?_
    exact hne (((hworse _ ha).1 h.1).trans ((hworse _ hb).1 h.2).symm)
  rw [addRoute, filter_append, filter_intraArea hintra hnone, hkeep]
  rw [if_pos hany, modifyLast_eq_map hpairwise, map_append]
  congr 1
  · conv_rhs => rw [← map_id intraTable]
    refine map_congr_left fun t ht => ?_
    rw [isSameOrWorse_intraArea hintra hnone ht]
    rfl
  · exact map_congr_left fun d hd => by simp only [hworse d hd]

omit htable in
/-- A new entry takes the place of a more expensive one. -/
theorem addRoute_of_less (hlt : ∀ e ∈ interTable, entryKey e = lsaKey lsa → cost < e.cost) :
    addRoute area.areaID (intraTable ++ interTable) lsa cost borderRouterEntry =
      intraTable ++ (interTable.filter (fun e => decide (entryKey e ≠ lsaKey lsa)) ++
        [createRoutingTableEntryFromSummaryLSA area.areaID lsa cost borderRouterEntry]) := by
  have hworse : ∀ d ∈ interTable, isSameOrWorse lsa cost d = true ↔ entryKey d = lsaKey lsa := by
    intro d hd
    rw [isSameOrWorse_interArea hinter hd, and_iff_left_iff_imp]
    exact fun hd' => (hlt d hd hd').le
  have hkeep : (interTable.filter fun entry =>
      !(isSameOrWorse lsa cost entry && decide (cost < entry.cost))) =
      interTable.filter fun e => decide (entryKey e ≠ lsaKey lsa) := by
    refine filter_congr fun d hd => ?_
    by_cases hd' : entryKey d = lsaKey lsa
    · simp [(hworse d hd).2 hd', hd', hlt d hd hd']
    · simp [Bool.eq_false_iff.2 fun h => hd' ((hworse d hd).1 h), hd']
  have hany : ¬ (intraTable ++ interTable.filter fun e =>
      decide (entryKey e ≠ lsaKey lsa)).any (isSameOrWorse lsa cost) = true := by
    rw [any_eq_true]
    rintro ⟨d, hd, hworse'⟩
    rcases mem_append.1 hd with hd | hd
    · rw [isSameOrWorse_intraArea hintra hnone hd] at hworse'
      exact Bool.false_ne_true hworse'
    · obtain ⟨hd, hne⟩ := mem_filter.1 hd
      exact of_decide_eq_true hne ((hworse d hd).1 hworse')
  rw [addRoute, filter_append, filter_intraArea hintra hnone, hkeep]
  rw [if_neg hany, append_assoc]

end

theorem offer_of_usable_none (h : usable router area intraTable lsa = none) :
    offer router area intraTable lsa = none := by
  rw [offer, h]
  split_ifs <;> rfl

/-- What an LSA does, according to its border router. -/
theorem addSummaryLSA_eq (hok : SummaryLSAsOk router area intraTable summaryLSAs)
    (hlsa : lsa ∈ summaryLSAs)
    (hinter : ∀ e ∈ interTable, IsInterArea router area intraTable summaryLSAs e) :
    addSummaryLSA router area (intraTable ++ interTable) lsa =
      match usable router area intraTable lsa with
      | none => intraTable ++ interTable
      | some borderRouterEntry =>
        let cost := lsa.routeCost + borderRouterEntry.cost
        if (intraTable ++ interTable).any (isBetter lsa cost) then intraTable ++ interTable
        else addRoute area.areaID (intraTable ++ interTable) lsa cost borderRouterEntry := by
  have hactive : isActiveRange router (intraTable ++ interTable) lsa =
      isActiveRange router intraTable lsa :=
    isActiveRange_append fun e he => (hinter e he).pathType
  have hcost := hok.cost lsa hlsa
  rw [addSummaryLSA, hactive]
  unfold usable at hcost ⊢
  cases hskip : isSkipped router lsa with
  | true => rfl
  | false =>
    rw [find?_isBorderRouterEntry hok hinter hlsa hskip]
    rw [hskip] at hcost
    cases hactive' : isActiveRange router intraTable lsa with
    | true => rfl
    | false =>
      rw [hactive'] at hcost
      simp only [Bool.or_self, Bool.false_eq_true, if_false] at hcost ⊢
      cases hborder : intraTable.find? _ with
      | none => rfl
      | some borderRouterEntry =>
        have hshort : shortCost lsa.routeCost borderRouterEntry.cost =
            lsa.routeCost + borderRouterEntry.cost := Nat.mod_eq_of_lt (hcost _ hborder)
        simp only [hshort]

variable (hintra : IsIntraArea intraTable) (hok : SummaryLSAsOk router area intraTable summaryLSAs)
include hintra hok

/-- The inter-area entries after one more LSA. -/
theorem addSummaryLSA_isLeastCost (hlsa : lsa ∈ summaryLSAs)
    (hinter : ∀ e ∈ interTable, IsInterArea router area intraTable summaryLSAs e)
    (htable : IsLeastCost offered interTable) :
    ∃ interTable', addSummaryLSA router area (intraTable ++ interTable) lsa =
        intraTable ++ interTable' ∧
      (∀ e ∈ interTable', IsInterArea router area intraTable summaryLSAs e) ∧
      IsLeastCost (offered ++ (offer router area intraTable lsa).toList) interTable' := by
  rw [addSummaryLSA_eq hok hlsa hinter]
  cases husable : usable router area intraTable lsa with
  | none =>
    rw [offer_of_usable_none husable, Option.toList_none, append_nil]
    exact ⟨interTable, rfl, hinter, htable⟩
  | some borderRouterEntry =>
    have hsome : (usable router area intraTable lsa).isSome = true := by
      rw [husable]
      rfl
    dsimp only
    by_cases hmatch : intraTable.any (isMatching lsa) = true
    · -- an intra-area path is always preferred
      obtain ⟨t, ht, hmatch'⟩ := any_eq_true.1 hmatch
      have hbetter : (intraTable ++ interTable).any
          (isBetter lsa (lsa.routeCost + borderRouterEntry.cost)) = true :=
        any_eq_true.2
          ⟨t, mem_append_left _ ht, isBetter_iff.2 ⟨hmatch', .inl (hintra t ht).1⟩⟩
      rw [if_pos hbetter, offer, if_pos hmatch, Option.toList_none, append_nil]
      exact ⟨interTable, rfl, hinter, htable⟩
    · have hnone : ∀ t ∈ intraTable, entryKey t ≠ lsaKey lsa := by
        intro t ht hkey
        exact hmatch (any_eq_true.2 ⟨t, ht, (isMatching_iff (hintra t ht).2).2 hkey⟩)
      rw [offer, if_neg hmatch, husable, Option.map_some, Option.toList_some]
      set cost := lsa.routeCost + borderRouterEntry.cost
      by_cases hbetter : ∃ e ∈ interTable, entryKey e = lsaKey lsa ∧ e.cost < cost
      · obtain ⟨e, he, hkey, hlt⟩ := hbetter
        have hany : (intraTable ++ interTable).any (isBetter lsa cost) = true :=
          any_eq_true.2 ⟨e, mem_append_right _ he, isBetter_iff.2
            ⟨(isMatching_iff (hinter e he).isTyped).2 hkey, .inr ⟨(hinter e he).pathType, hlt⟩⟩⟩
        rw [if_pos hany]
        exact ⟨interTable, rfl, hinter, htable.of_worse he hkey hlt⟩
      · have hany : ¬ (intraTable ++ interTable).any (isBetter lsa cost) = true := by
          rw [any_eq_true]
          rintro ⟨e, he, hbetter'⟩
          obtain ⟨hmatch', hpath⟩ := isBetter_iff.1 hbetter'
          rcases mem_append.1 he with he | he
          · exact hmatch (any_eq_true.2 ⟨e, he, hmatch'⟩)
          · rw [(hinter e he).pathType] at hpath
            exact hbetter ⟨e, he, (isMatching_iff (hinter e he).isTyped).1 hmatch',
              (hpath.resolve_left nofun).2⟩
        rw [if_neg hany]
        by_cases hequal : ∃ e ∈ interTable, entryKey e = lsaKey lsa ∧ e.cost = cost
        · obtain ⟨e, he, hkey, hcost⟩ := hequal
          refine ⟨_, addRoute_of_equal hintra hinter hnone htable he hkey hcost, ?_,
            htable.of_equal he hkey hcost fun _ => ⟨rfl, rfl, rfl⟩⟩
          intro d hd
          obtain ⟨c, hc, rfl⟩ := mem_map.1 hd
          split_ifs
          · exact (hinter c hc).addNextHops _
          · exact hinter c hc
        · have hlt : ∀ e ∈ interTable, entryKey e = lsaKey lsa → cost < e.cost := by
            intro e he hkey
            refine lt_of_le_of_ne (not_lt.1 fun h => hbetter ⟨e, he, hkey, h⟩) fun h => ?_
            exact hequal ⟨e, he, hkey, h.symm⟩
          have hkeyNew : entryKey (createRoutingTableEntryFromSummaryLSA area.areaID lsa cost
              borderRouterEntry) = lsaKey lsa := entryKey_create (hok.mask lsa hlsa hsome)
          refine ⟨_, addRoute_of_less hintra hinter hnone hlt, ?_,
            htable.of_better hlt hkeyNew rfl rfl⟩
          intro d hd
          rcases mem_append.1 hd with hd | hd
          · exact hinter d (mem_filter.1 hd).1
          · rw [mem_singleton.1 hd]
            refine ⟨rfl, rfl, ?_, ?_, fun t ht => by rw [hkeyNew]; exact hnone t ht⟩
            all_goals by_cases hnetwork : lsa.header.lsType = .summaryLSANetworks
            · exact .inl (if_pos hnetwork)
            · exact .inr ⟨if_neg hnetwork, lsa, hlsa, hsome, hnetwork, (if_neg hnetwork).symm⟩
            · intro _
              simp only [createRoutingTableEntryFromSummaryLSA, if_pos hnetwork, BitVec.and_assoc,
                BitVec.and_self]
            · intro htype
              simp only [createRoutingTableEntryFromSummaryLSA, if_neg hnetwork] at htype
              cases htype

/-- The table after `calculateInterAreaRoutes`. -/
theorem calculateInterAreaRoutes_isLeastCost :
    ∃ interTable, calculateInterAreaRoutes router area summaryLSAs intraTable =
        intraTable ++ interTable ∧
      (∀ e ∈ interTable, IsInterArea router area intraTable summaryLSAs e) ∧
      IsLeastCost (offers router area intraTable summaryLSAs) interTable := by
  -- the LSAs that are left, after some others have been added
  have hrest : ∀ (rest : List SummaryLSA) (added : List (Offer Destination Metric NextHop))
      (interTable : List RoutingTableEntry), rest ⊆ summaryLSAs →
      (∀ e ∈ interTable, IsInterArea router area intraTable summaryLSAs e) →
      IsLeastCost added interTable →
      ∃ interTable', rest.foldl (addSummaryLSA router area) (intraTable ++ interTable) =
          intraTable ++ interTable' ∧
        (∀ e ∈ interTable', IsInterArea router area intraTable summaryLSAs e) ∧
        IsLeastCost (added ++ rest.filterMap (offer router area intraTable)) interTable' := by
    intro rest
    induction rest with
    | nil =>
      intro added interTable _ hinter htable
      rw [filterMap_nil, append_nil]
      exact ⟨interTable, rfl, hinter, htable⟩
    | cons lsa rest ih =>
      intro added interTable hsub hinter htable
      obtain ⟨hlsa, hsub⟩ := cons_subset.1 hsub
      obtain ⟨interTable', heq, hinter', htable'⟩ :=
        addSummaryLSA_isLeastCost hintra hok hlsa hinter htable
      have htail := ih _ _ hsub hinter' htable'
      rw [append_assoc] at htail
      rw [foldl_cons, heq]
      have hcons : (lsa :: rest).filterMap (offer router area intraTable) =
          (offer router area intraTable lsa).toList ++
            rest.filterMap (offer router area intraTable) := by
        rw [filterMap_cons]
        cases offer router area intraTable lsa <;> rfl
      rw [hcons]
      exact htail
  have hall := hrest summaryLSAs [] [] (List.Subset.refl _) nofun BestOffers.IsTable.nil
  rw [append_nil, nil_append] at hall
  exact hall

end InterAreaRoutes

end OSPF

end Hiwis
