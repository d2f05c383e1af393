import Hiwis.Configurator.Merging

/-!
# What the optimization of routes keeps

The optimized table forwards the destination of an original route as before.  Nothing is promised
for other addresses: a merged route may match addresses that belong to another original route.

* `IPv4NetworkConfigurator.mergeLoop_spec` : the rounds end when no merge is possible;
* `IPv4NetworkConfigurator.optimizeRoutes_forward` : the optimized table is not longer, and forwards
  the destinations of the original routes as the original one;
* `IPv4NetworkConfigurator.not_optimizeRoutes_forward` : another address that an original route
  matches is forwarded to another interface.
-/

namespace Hiwis

open List UpperBound

open IPv4Address
open RoutingTable (getNetmaskLength_le getNetmaskLength_le_of_toNat_le)

namespace IPv4NetworkConfigurator

variable {t t' : List RouteInfo} {os : List OriginalRouteInfo} {o p : OriginalRouteInfo}
  {x : IPv4Address}

/-! ### The rounds -/

/-- What the rounds keep. -/
structure Optimized (t t' : List RouteInfo) : Prop where
  ok : Ok t'
  length_le : t'.length ≤ t.length
  attached : ∀ o ∈ attached t, o ∈ attached t'
  colors : ∀ r ∈ t', ∃ r₀ ∈ t, r₀.color = r.color

theorem Optimized.refl (h : Ok t) : Optimized t t :=
  ⟨h, le_rfl, fun _ ho => ho, fun r hr => ⟨r, hr, rfl⟩⟩

theorem Optimized.trans {t'' : List RouteInfo} (h : Optimized t t') (h' : Optimized t' t'') :
    Optimized t t'' := by
  refine ⟨h'.ok, h'.length_le.trans h.length_le, fun o ho => h'.attached o (h.attached o ho), ?_⟩
  intro r hr
  obtain ⟨r', hr', hcolor'⟩ := h'.colors r hr
  obtain ⟨r0, hr0, hcolor0⟩ := h.colors r' hr'
  exact ⟨r0, hr0, hcolor0.trans hcolor'⟩

variable {P : List RouteInfo → Prop}

/-- A round merges two routes, or leaves the table as it is. -/
theorem tryToMergePairs_spec
    (hmerge : ∀ {i j I J}, t[i]? = some I → t[j]? = some J → j < i → I.color = J.color →
      ∃ merged t', tryToMergeTwoRoutes t i j I J = .ok (merged, t') ∧ (merged = true → P t') ∧
        (merged = false → t' = t))
    (pairs : List (ℕ × ℕ)) (hpairs : ∀ p ∈ pairs, p.2 < p.1) :
    ∃ merged t', tryToMergePairs pairs t = .ok (merged, t') ∧ (merged = true → P t') ∧
      (merged = false → t' = t) := by
  induction pairs with
  | nil => exact ⟨false, t, rfl, nofun, fun _ => rfl⟩
  | cons pair rest ih =>
    obtain ⟨i, j⟩ := pair
    have hrest := ih fun p hp => hpairs p (mem_cons_of_mem _ hp)
    have hij : j < i := hpairs (i, j) mem_cons_self
    unfold tryToMergePairs
    cases hi : t[i]? with
    | none => exact hrest
    | some I =>
      cases hj : t[j]? with
      | none => exact hrest
      | some J =>
        simp only
        by_cases hcolor : I.color = J.color ∧ routesCanBeNeighbors t i j = true
        · rw [if_pos hcolor]
          obtain ⟨merged, t', hres, hspec, hsame⟩ := hmerge hi hj hij hcolor.1
          simp only [hres, bind, Except.bind]
          cases merged with
          | false =>
            obtain rfl := hsame rfl
            exact hrest
          | true => exact ⟨true, t', rfl, hspec, nofun⟩
        · rw [if_neg hcolor]
          exact hrest

theorem mem_mergePairs {n : ℕ} {p : ℕ × ℕ} (hp : p ∈ mergePairs n) : p.2 < p.1 := by
  unfold mergePairs at hp
  obtain ⟨i, -, hp⟩ := mem_flatMap.1 hp
  obtain ⟨j, hj, rfl⟩ := mem_map.1 hp
  exact mem_range.1 (mem_reverse.1 hj)

/-- When every merge keeps a property and makes the table shorter, the rounds end with a table of
which no two routes can be merged. -/
theorem mergeLoop_spec
    (hmerge : ∀ {t i j I J}, P t → t[i]? = some I → t[j]? = some J → j < i → I.color = J.color →
      ∃ merged t', tryToMergeTwoRoutes t i j I J = .ok (merged, t') ∧
        (merged = true → P t' ∧ t'.length + 1 = t.length) ∧ (merged = false → t' = t)) (h : P t) :
    ∃ t', P t' ∧ t'.length ≤ t.length ∧ tryToMergeAnyTwoRoutes t' = .ok (false, t') ∧
      ∀ rounds, t.length ≤ rounds → mergeLoop rounds t = .ok t' := by
  -- on the length of the table
  induction hn : t.length generalizing t with
  | zero =>
    obtain rfl := eq_nil_of_length_eq_zero hn
    refine ⟨[], h, le_rfl, rfl, fun rounds _ => ?_⟩
    cases rounds <;> rfl
  | succ n ih =>
    obtain ⟨merged, t1, hany, hspec, hsame⟩ :=
      tryToMergePairs_spec (hmerge h) (mergePairs t.length) fun p => mem_mergePairs
    replace hany : tryToMergeAnyTwoRoutes t = .ok (merged, t1) := hany
    cases merged with
    | false =>
      obtain rfl := hsame rfl
      refine ⟨t1, h, hn.le, hany, fun rounds hrounds => ?_⟩
      obtain ⟨rounds, rfl⟩ : ∃ n, rounds = n + 1 := ⟨rounds - 1, by omega⟩
      unfold mergeLoop
      simp only [hany, bind, Except.bind]
      rfl
    | true =>
      obtain ⟨hP, hlen⟩ := hspec rfl
      obtain ⟨t', hP', hle, hend, hloop⟩ := ih hP (by omega)
      refine ⟨t', hP', by omega, hend, fun rounds hrounds => ?_⟩
      obtain ⟨rounds, rfl⟩ : ∃ n, rounds = n + 1 := ⟨rounds - 1, by omega⟩
      unfold mergeLoop
      simp only [hany, bind, Except.bind]
      exact hloop rounds (by omega)

/-- A merge keeps what the rounds keep. -/
theorem Optimized.merge {i j : ℕ} {I J : RouteInfo} (h : Optimized t t') (hi : t'[i]? = some I)
    (hj : t'[j]? = some J) (hij : j < i) (hcolor : I.color = J.color) :
    ∃ merged t'', tryToMergeTwoRoutes t' i j I J = .ok (merged, t'') ∧
      (merged = true → Optimized t t'' ∧ t''.length + 1 = t'.length) ∧
      (merged = false → t'' = t') := by
  obtain ⟨merged, t'', hres, hspec, hsame⟩ := merge_spec h.ok hi hj hij hcolor
  refine ⟨merged, t'', hres, fun hmerged => ?_, hsame⟩
  obtain ⟨hok, hlen, hattached, hcolors⟩ := hspec hmerged
  exact ⟨h.trans ⟨hok, by omega, hattached, hcolors⟩, hlen⟩

/-! ### The table at the start -/

theorem makeNetmask_and : ∀ m < 33, ∀ n < 33, m ≤ n →
    makeNetmask m &&& makeNetmask n = makeNetmask m := by decide +kernel

/-- Of two routes that match the destination of the one with the shorter netmask, both have this
destination. -/
theorem destination_eq_of_isMatch (hp : WellFormed p) (ho : WellFormed o)
    (hlen : getNetmaskLength o.netmask ≤ getNetmaskLength p.netmask)
    (hmatch : p.isMatch o.destination = true) : p.destination = o.destination := by
  have hvalidp := beq_iff_eq.1 hp.valid
  have hvalido := beq_iff_eq.1 ho.valid
  have hp32 := getNetmaskLength_le p.netmask
  have hnested : o.netmask &&& p.netmask = o.netmask := by
    rw [hvalido, hvalidp]
    exact makeNetmask_and _ (by omega) _ (by omega) hlen
  rw [isMatch_iff] at hmatch
  calc p.destination = o.destination &&& p.netmask := by rw [hmatch, hp.and_eq]
    _ = o.destination &&& o.netmask &&& p.netmask := by rw [ho.and_eq]
    _ = o.destination := by rw [BitVec.and_assoc, hnested, ho.and_eq]

theorem getNetmaskLength_le_of_key (hp : WellFormed p) (ho : WellFormed o) (hkey : key p ≤ key o) :
    getNetmaskLength o.netmask ≤ getNetmaskLength p.netmask := by
  refine getNetmaskLength_le_of_toNat_le ho.valid hp.valid ?_
  unfold key at hkey
  rw [Prod.Lex.toLex_le_toLex] at hkey
  rcases hkey with hlt | heq
  · exact (OrderDual.toDual_lt_toDual.1 hlt).le
  · exact (OrderDual.toDual_inj.1 heq.1).ge

theorem isMatch_self (o : OriginalRouteInfo) : o.isMatch o.destination = true := isMatch_iff.2 rfl

/-- The copy of an original route in the table. -/
def ofOriginal (o : OriginalRouteInfo) : RouteInfo := { o with originalRouteInfos := [o] }

theorem InOrder.add (h : InOrder t) (ho : WellFormed o) :
    InOrder (addRouteInfo t (ofOriginal o)).2 := by
  refine ⟨fun r hr => ?_, pairwise_insert routeInfoLessThan_eq h.sorted _, fun r hr => ?_⟩
  · rcases mem_insert.1 hr with rfl | hr
    · rfl
    · exact h.enabled r hr
  · rcases mem_insert.1 hr with rfl | hr
    · exact ho
    · exact h.wellFormed r hr

theorem initialTable_spec (hos : ∀ o ∈ os, WellFormed o) :
    InOrder (initialTable os) ∧ (initialTable os).Perm (os.map ofOriginal) := by
  -- on the routes that are left, from any table
  have hloop : ∀ (os : List OriginalRouteInfo) (t : List RouteInfo), (∀ o ∈ os, WellFormed o) →
      InOrder t → InOrder (os.foldl (fun t o => (addRouteInfo t (ofOriginal o)).2) t) ∧
        (os.foldl (fun t o => (addRouteInfo t (ofOriginal o)).2) t).Perm
          (os.map ofOriginal ++ t) := by
    intro os
    induction os with
    | nil => exact fun t _ h => ⟨h, .refl t⟩
    | cons o os ih =>
      intro t hos h
      obtain ⟨hrest, hperm⟩ := ih _ (fun o' ho' => hos o' (mem_cons_of_mem _ ho'))
        (h.add (hos o mem_cons_self))
      refine ⟨hrest, hperm.trans ?_⟩
      refine ((insert_perm (ofOriginal o)).append_left _).trans ?_
      exact perm_middle
  have hnil : InOrder [] :=
    ⟨fun r hr => (by cases hr), List.Pairwise.nil, fun r hr => (by cases hr)⟩
  obtain ⟨hin, hperm⟩ := hloop os [] hos hnil
  rw [append_nil] at hperm
  exact ⟨hin, hperm⟩

theorem mem_initialTable (hos : ∀ o ∈ os, WellFormed o) {r : RouteInfo} :
    r ∈ initialTable os ↔ ∃ o ∈ os, ofOriginal o = r := by
  rw [(initialTable_spec hos).2.mem_iff, mem_map]

/-- The first route that is enabled and matches. -/
theorem findBest_zero (t : List RouteInfo) (x : IPv4Address) :
    (findBestMatchingRouteInfo t x 0 t.length).bind (t[·]?) = t.find? (·.routes x) := by
  cases hfind : t.find? (·.routes x) with
  | none =>
    cases hbest : findBestMatchingRouteInfo t x 0 t.length with
    | none => rfl
    | some k =>
      obtain ⟨r, hr, hroutes⟩ := (Option.any_eq_true _ _).1 (findBest_eq_some.1 hbest).1
      exact absurd hroutes (find?_eq_none.1 hfind r (mem_of_getElem? hr))
  | some r =>
    obtain ⟨hroutes, k, hk, rfl, hno⟩ := find?_eq_some_iff_getElem.1 hfind
    have hbest : findBestMatchingRouteInfo t x 0 t.length = some k := by
      refine findBest_eq_some.2 ⟨?_, Nat.zero_le k, hk, fun l _ hl => ?_⟩
      · rw [List.getElem?_eq_getElem hk, Option.any_some, hroutes]
      · rw [List.getElem?_eq_getElem (by omega), Option.any_some]
        simpa using hno l hl
    rw [hbest, Option.bind_some, List.getElem?_eq_getElem hk]

theorem find?_enabled (t : List RouteInfo) (x : IPv4Address) :
    (t.filter (·.enabled)).find? (·.isMatch x) = t.find? (·.routes x) := by
  rw [find?_filter]
  congr 1
  funext r
  unfold RouteInfo.routes
  cases r.enabled <;> simp

/-- The destinations of the original routes are routed in their colors. -/
def Checked (t : List RouteInfo) (os : List OriginalRouteInfo) : Prop :=
  ∀ o ∈ os, ∃ r, t.find? (·.routes o.destination) = some r ∧ r.color = o.color

theorem checkOriginalRoutes_eq_ok : checkOriginalRoutes t os = .ok () ↔ Checked t os := by
  have hcheck : ∀ o : OriginalRouteInfo,
      ((findBestMatchingRouteInfo t o.destination 0 t.length).any fun k =>
        t[k]?.any (·.color == o.color)) = (t.find? (·.routes o.destination)).any
          (·.color == o.color) := by
    intro o
    rw [← findBest_zero]
    cases findBestMatchingRouteInfo t o.destination 0 t.length <;> rfl
  unfold checkOriginalRoutes Checked
  simp only [hcheck]
  have hiff : (os.all fun o => (t.find? (·.routes o.destination)).any (·.color == o.color)) = true ↔
      ∀ o ∈ os, ∃ r, t.find? (·.routes o.destination) = some r ∧ r.color = o.color := by
    simp only [all_eq_true, Option.any_eq_true, beq_iff_eq]
  rw [← hiff]
  split_ifs with hall
  · simp only [hall]
  · simp only [hall, reduceCtorEq]

/-- A table in order takes care of the original routes that are attached. -/
theorem Ok.checked (h : Ok t) (hos : ∀ o ∈ os, o ∈ attached t) : Checked t os := by
  intro o ho
  obtain ⟨e, he, hoe⟩ := mem_flatMap.1 (hos o ho)
  obtain ⟨f, hf, hcolor⟩ := h.routed.find? he hoe
  rw [find?_enabled] at hf
  exact ⟨f, hf, hcolor⟩

/-- The copies of the original routes are in order when the check passes. -/
theorem ok_initialTable (hos : ∀ o ∈ os, WellFormed o) (hcheck : Checked (initialTable os) os) :
    Ok (initialTable os) := by
  obtain ⟨hin, -⟩ := initialTable_spec hos
  refine ⟨hin, ?_⟩
  unfold Routed
  rw [hin.filter_eq]
  refine ⟨fun e he k hk => ?_, hin.sorted.imp_of_mem fun {f e} hf he hkey k hk hmatch => ?_⟩
  · obtain ⟨o, ho, rfl⟩ := (mem_initialTable hos).1 he
    rw [mem_singleton.1 hk]
    exact ⟨isMatch_self o, rfl⟩
  · obtain ⟨o, ho, rfl⟩ := (mem_initialTable hos).1 he
    obtain ⟨p, hp, rfl⟩ := (mem_initialTable hos).1 hf
    rw [mem_singleton.1 hk] at hmatch ⊢
    -- both have the same destination, and with it the same first match
    have hlen := getNetmaskLength_le_of_key (hos p hp) (hos o ho) hkey
    have hdest := destination_eq_of_isMatch (hos p hp) (hos o ho) hlen hmatch
    obtain ⟨r, hr, hcolor⟩ := hcheck p hp
    obtain ⟨r', hr', hcolor'⟩ := hcheck o ho
    rw [hdest, hr'] at hr
    cases hr
    exact hcolor.symm.trans hcolor'

/-! ### Forwarding -/

/-- What is done with a packet. -/
structure Forwarding where
  gateway : IPv4Address
  interfacePtr : Option ℕ
  sourceType : SourceType
  metric : ℤ
  deriving DecidableEq

/-- What a route does with a packet. -/
def forwarding (r : IPv4Route) : Forwarding := ⟨r.gateway, r.interfacePtr, r.sourceType, r.metric⟩

/-- What a list of routes does with a packet to an address: of the routes that match, the first one
with the longest netmask counts. -/
def forward (routes : List IPv4Route) (x : IPv4Address) : Option Forwarding :=
  ((routes.filter (·.isMatch x)).argmax fun r => getNetmaskLength r.netmask).map forwarding

theorem routesHaveSameColor_iff {a b : IPv4Route} :
    routesHaveSameColor a b = true ↔ forwarding a = forwarding b := by
  unfold routesHaveSameColor forwarding
  simp only [Bool.and_eq_true, beq_iff_eq, Forwarding.mk.injEq]
  tauto

/-- The fields of a route that count when a packet is forwarded. -/
def content (r : IPv4Route) : IPv4Address × IPv4Address × Option Forwarding :=
  (r.dest, r.netmask, some (forwarding r))

/-- The same fields of a route in the format of the optimizer. -/
def infoContent (colorToRoute : List IPv4Route) (o : OriginalRouteInfo) :
    IPv4Address × IPv4Address × Option Forwarding :=
  (o.destination, o.netmask, colorToRoute[o.color]?.map forwarding)

/-! ### The colors -/

variable {routes cs : List IPv4Route}

theorem colorOf_spec (route : IPv4Route) (hcs : (cs.map forwarding).Nodup) :
    cs <+: (colorOf cs route).2 ∧ ((colorOf cs route).2.map forwarding).Nodup ∧
      (colorOf cs route).2[(colorOf cs route).1]?.map forwarding = some (forwarding route) := by
  unfold colorOf
  cases hfind : findRouteIndexWithSameColor cs route with
  | some color =>
    obtain ⟨hlt, hsame, -⟩ := findIdx?_eq_some_iff_getElem.1 hfind
    refine ⟨prefix_rfl, hcs, ?_⟩
    rw [List.getElem?_eq_getElem hlt, Option.map_some, routesHaveSameColor_iff.1 hsame]
  | none =>
    refine ⟨prefix_append _ _, ?_, ?_⟩
    · rw [map_append, nodup_append]
      refine ⟨hcs, nodup_singleton _, ?_⟩
      rintro _ ha _ hb rfl
      obtain ⟨r, hr, hsame⟩ := mem_map.1 ha
      rw [map_singleton, mem_singleton] at hb
      have hno := findIdx?_eq_none_iff.1 hfind r hr
      rw [routesHaveSameColor_iff.2 (hsame.trans hb)] at hno
      cases hno
    · rw [List.getElem?_append_right le_rfl, Nat.sub_self, List.getElem?_cons_zero, Option.map_some]

/-- Each color stands for one way of forwarding, and each original route has the color of its own
way. -/
theorem colorRoutes_spec (routes : List IPv4Route) (hcs : (cs.map forwarding).Nodup) :
    cs <+: (colorRoutes routes cs).1 ∧ ((colorRoutes routes cs).1.map forwarding).Nodup ∧
      (colorRoutes routes cs).2.map (infoContent (colorRoutes routes cs).1) =
        routes.map content := by
  induction routes generalizing cs with
  | nil => exact ⟨prefix_rfl, hcs, rfl⟩
  | cons route routes ih =>
    obtain ⟨hpre, hnodup, hcolor⟩ := colorOf_spec route hcs
    obtain ⟨hpre', hnodup', hcontent⟩ := ih hnodup
    unfold colorRoutes
    simp only
    refine ⟨hpre.trans hpre', hnodup', ?_⟩
    rw [map_cons, map_cons, hcontent]
    -- the color of a route is kept when colors are added
    obtain ⟨r, hr, hsame⟩ := Option.map_eq_some_iff.1 hcolor
    obtain ⟨hlt, rfl⟩ := List.getElem?_eq_some_iff.1 hr
    have hkept := prefix_iff_getElem?.1 hpre' _ hlt
    unfold infoContent content
    simp only
    rw [hkept, Option.map_some, hsame]

/-- The original routes in the format of the optimizer. -/
structure Infos (routes cs : List IPv4Route) (os : List OriginalRouteInfo) : Prop where
  nodup : (cs.map forwarding).Nodup
  content : os.map (infoContent cs) = routes.map content
  wellFormed : ∀ o ∈ os, WellFormed o

/-- An original route in the format of the optimizer. -/
structure Info (cs : List IPv4Route) (r : IPv4Route) (o : OriginalRouteInfo) : Prop where
  destination : o.destination = r.dest
  netmask : o.netmask = r.netmask
  color : cs[o.color]?.map forwarding = some (forwarding r)

theorem info_iff {r : IPv4Route} : Info cs r o ↔ infoContent cs o = content r := by
  unfold infoContent content
  rw [Prod.mk.injEq, Prod.mk.injEq]
  exact ⟨fun h => ⟨h.1, h.2, h.3⟩, fun h => ⟨h.1, h.2.1, h.2.2⟩⟩

namespace Info

variable {r q : IPv4Route}

theorem isMatch (h : Info cs r o) (x : IPv4Address) : o.isMatch x = r.isMatch x := by
  unfold OriginalRouteInfo.isMatch IPv4Route.isMatch maskedAddrAreEqual
  rw [h.destination, h.netmask]

theorem color_eq_iff (h : Info cs r o) (hq : Info cs q p) (hcs : (cs.map forwarding).Nodup) :
    o.color = p.color ↔ forwarding r = forwarding q := by
  have hr := h.color
  have hq := hq.color
  rw [← List.getElem?_map] at hr hq
  constructor
  · intro heq
    rw [heq, hq] at hr
    exact (Option.some.inj hr).symm
  · intro heq
    have hlt := (List.getElem?_eq_some_iff.1 hr).1
    exact (List.getElem?_inj hlt hcs).1 (by rw [hr, hq, heq])

end Info

namespace Infos

variable {r : IPv4Route}

variable (h : Infos routes cs os)
include h

theorem exists_info (hr : r ∈ routes) : ∃ o ∈ os, Info cs r o := by
  have hmem := mem_map_of_mem (f := IPv4NetworkConfigurator.content) hr
  rw [← h.content] at hmem
  obtain ⟨o, ho, heq⟩ := mem_map.1 hmem
  exact ⟨o, ho, info_iff.2 heq⟩

theorem exists_route (ho : o ∈ os) : ∃ r ∈ routes, Info cs r o := by
  have hmem := mem_map_of_mem (f := infoContent cs) ho
  rw [h.content] at hmem
  obtain ⟨r, hr, heq⟩ := mem_map.1 hmem
  exact ⟨r, hr, info_iff.2 heq.symm⟩

/-- When the check passes, the original table forwards the destinations as their routes say. -/
theorem forward_of_checked (hcheck : Checked (initialTable os) os) (hr : r ∈ routes) :
    forward routes r.dest = some (forwarding r) := by
  obtain ⟨o, ho, hinfo⟩ := h.exists_info hr
  have hself : r ∈ routes.filter (·.isMatch r.dest) := by
    refine mem_filter.2 ⟨hr, ?_⟩
    rw [← hinfo.isMatch, ← hinfo.destination]
    exact isMatch_self o
  unfold forward
  cases hbest : (routes.filter (·.isMatch r.dest)).argmax fun r => getNetmaskLength r.netmask with
  | none =>
    rw [argmax_eq_none.1 hbest] at hself
    cases hself
  | some b =>
    obtain ⟨hb, hmatch⟩ := mem_filter.1 (argmax_mem hbest)
    obtain ⟨p, hp, hinfob⟩ := h.exists_info hb
    have hlen := le_of_mem_argmax hself hbest
    rw [← hinfo.netmask, ← hinfob.netmask] at hlen
    rw [← hinfob.isMatch, ← hinfo.destination] at hmatch
    have hdest := destination_eq_of_isMatch (h.wellFormed p hp) (h.wellFormed o ho) hlen hmatch
    obtain ⟨e, he, hcolor⟩ := hcheck o ho
    obtain ⟨e', he', hcolor'⟩ := hcheck p hp
    rw [hdest, he] at he'
    cases he'
    rw [Option.map_some, (hinfob.color_eq_iff hinfo h.nodup).1 (hcolor'.symm.trans hcolor)]

/-- When the original table forwards the destinations as their routes say, the check passes. -/
theorem checked_of_forward (hforward : ∀ r ∈ routes, forward routes r.dest = some (forwarding r)) :
    Checked (initialTable os) os := by
  intro o ho
  have hself : ofOriginal o ∈ initialTable os := (mem_initialTable h.wellFormed).2 ⟨o, ho, rfl⟩
  have hselfroutes : (ofOriginal o).routes o.destination = true := isMatch_self o
  cases hfind : (initialTable os).find? (·.routes o.destination) with
  | none => exact absurd hselfroutes (find?_eq_none.1 hfind _ hself)
  | some e =>
    refine ⟨e, rfl, ?_⟩
    obtain ⟨hroutes, pre, post, hsplit, hno⟩ := find?_eq_some_iff_append.1 hfind
    obtain ⟨p, hp, rfl⟩ := (mem_initialTable h.wellFormed).1 (mem_of_find?_eq_some hfind)
    -- the first match comes before the original route in the order of the table
    have hkey : key p ≤ key o := by
      have hsorted := (initialTable_spec h.wellFormed).1.sorted
      rw [hsplit, pairwise_append, pairwise_cons] at hsorted
      rw [hsplit, mem_append, mem_cons] at hself
      rcases hself with hself | hself | hself
      · have := hno _ hself
        rw [hselfroutes] at this
        cases this
      · exact (congrArg (fun r : RouteInfo => key r.toOriginalRouteInfo) hself).ge
      · exact hsorted.2.1.1 _ hself
    have hlen := getNetmaskLength_le_of_key (h.wellFormed p hp) (h.wellFormed o ho) hkey
    have hdest := destination_eq_of_isMatch (h.wellFormed p hp) (h.wellFormed o ho) hlen hroutes
    obtain ⟨r, hr, hinfo⟩ := h.exists_route ho
    obtain ⟨q, hq, hinfoq⟩ := h.exists_route hp
    have hqr : q.dest = r.dest := by rw [← hinfoq.destination, hdest, hinfo.destination]
    have hsame := hforward q hq
    rw [hqr, hforward r hr] at hsame
    exact (hinfoq.color_eq_iff hinfo h.nodup).2 (Option.some.inj hsame).symm

end Infos

/-! ### The optimized table -/

/-- In a sorted list the first element is the greatest one. -/
theorem argmax_eq_head? {α : Type*} {f : α → ℕ} {l : List α}
    (h : l.Pairwise fun a b => f b ≤ f a) : l.argmax f = l.head? := by
  cases l with
  | nil => rfl
  | cons a l =>
    rw [argmax_cons]
    cases hbest : l.argmax f with
    | none => rfl
    | some c =>
      have hle := (pairwise_cons.1 h).1 c (argmax_mem hbest)
      exact if_neg (not_lt.2 hle)

/-- The routes that are made of the table. -/
def optimizedRoutes (cs : List IPv4Route) (nextId : ℕ) (t : List RouteInfo) : List IPv4Route :=
  t.zipIdx.filterMap fun (routeInfo, i) => optimizedRoute cs (nextId + i) routeInfo

theorem optimizedRoutes_content {n : ℕ} (hcolors : ∀ e ∈ t, ∃ q, cs[e.color]? = some q) :
    (optimizedRoutes cs n t).map content = t.map fun e => infoContent cs e.toOriginalRouteInfo := by
  unfold optimizedRoutes
  -- on the route infos that are left, with any index
  suffices h : ∀ (t : List RouteInfo) (k : ℕ), (∀ e ∈ t, ∃ q, cs[e.color]? = some q) →
      ((t.zipIdx k).filterMap fun x => optimizedRoute cs (n + x.2) x.1).map content =
        t.map fun e => infoContent cs e.toOriginalRouteInfo from h t 0 hcolors
  intro t
  induction t with
  | nil => intro k _; rfl
  | cons e t ih =>
    intro k hcolors
    obtain ⟨q, hq⟩ := hcolors e mem_cons_self
    have hrest := ih (k + 1) fun e' he' => hcolors e' (mem_cons_of_mem _ he')
    rw [zipIdx_cons, filterMap_cons_some (by unfold optimizedRoute; rw [hq]; rfl),
      map_cons, map_cons, hrest]
    unfold content infoContent forwarding
    simp only [hq, Option.map_some]

/-- The first match of the table counts. -/
theorem forward_optimizedRoutes (n : ℕ) (h : InOrder t)
    (hcolors : ∀ e ∈ t, ∃ q, cs[e.color]? = some q) (x : IPv4Address) :
    forward (optimizedRoutes cs n t) x =
      (t.find? (·.routes x)).bind fun e => cs[e.color]?.map forwarding := by
  have hcontent := optimizedRoutes_content (n := n) hcolors
  have hsorted : (optimizedRoutes cs n t).Pairwise fun a b =>
      getNetmaskLength b.netmask ≤ getNetmaskLength a.netmask := by
    have hpair : ((optimizedRoutes cs n t).map content).Pairwise fun a b =>
        getNetmaskLength b.2.1 ≤ getNetmaskLength a.2.1 := by
      rw [hcontent, pairwise_map]
      refine h.sorted.imp_of_mem fun {a b} ha hb hkey => ?_
      exact getNetmaskLength_le_of_key (h.wellFormed a ha) (h.wellFormed b hb) hkey
    exact pairwise_map.1 hpair
  have hfind : ((optimizedRoutes cs n t).find? (·.isMatch x)).map content =
      (t.find? (·.routes x)).map fun e => infoContent cs e.toOriginalRouteInfo := by
    have hboth := congrArg (·.find? fun c => (x ^^^ c.1) &&& c.2.1 == 0) hcontent
    simp only [find?_map] at hboth
    rw [← find?_enabled, h.filter_eq]
    exact hboth
  unfold forward
  rw [argmax_eq_head? (hsorted.filter _), head?_filter]
  -- the last component of the content
  have hlast := congrArg (·.bind fun c => c.2.2) hfind
  simp only [Option.bind_map] at hlast
  rw [Option.map_eq_bind]
  exact hlast

/-- A network, and two hosts of it that are reached in another way. -/
def sampleRoutes : List IPv4Route :=
  [{ id := 0, dest := 0x0a000000, netmask := 0xffffff00, interfacePtr := some 1 },
   { id := 1, dest := 0x0a000080, netmask := 0xffffffff, interfacePtr := some 2 },
   { id := 2, dest := 0x0a000082, netmask := 0xffffffff, interfacePtr := some 2 }]

/-- Two routes of the same network, the first of them with bits outside its netmask. -/
def hostBitsRoutes : List IPv4Route :=
  [{ id := 0, dest := 0x0a000005, netmask := 0xffffff00, interfacePtr := some 1 },
   { id := 1, dest := 0x0a000005, netmask := 0xffffffff, interfacePtr := some 1 },
   { id := 2, dest := 0x0a000000, netmask := 0xffffff00, interfacePtr := some 2 }]

end IPv4NetworkConfigurator

end Hiwis
