import Hiwis.Configurator.Forwarding

/-!
# The check before a merge

The optimizer attaches each original route to its first match.  When two routes are to be merged,
only the original routes that the merge can reroute are checked again.

* `IPv4NetworkConfigurator.Attached` : each original route is attached once, to its first match,
  which has its color;
* `IPv4NetworkConfigurator.MergingTwo.mergeIsPossible_iff` : what the check passes;
* `IPv4NetworkConfigurator.tryToMergeTwoRoutes_iff` : a merge is accepted if and only if it reroutes
  no original route and none of those of the second route matches another color between the first
  route and the merged one; the rounds end.
-/

namespace Hiwis

open UpperBound List
open Option (any_some map_eq_some_iff map_some)

open IPv4Address

namespace IPv4NetworkConfigurator

variable {t u v : List RouteInfo} {os : List OriginalRouteInfo} {o : OriginalRouteInfo}
  {r I J M : RouteInfo} {x : IPv4Address} {i j k l m first last : ℕ}

/-! ### The attached original routes -/

/-- Each original route is attached once, to its first match, which has its color. -/
structure Attached (t : List RouteInfo) (os : List OriginalRouteInfo) : Prop where
  once : (attached t).Perm os
  first : ∀ k r, t[k]? = some r → ∀ o ∈ r.originalRouteInfos,
    findBestMatchingRouteInfo t o.destination 0 t.length = some k ∧ r.color = o.color

/-- The table as `addRouteInfo` fills it, with routes that have no bits outside their netmasks. -/
structure Regular (t : List RouteInfo) : Prop where
  enabled : ∀ r ∈ t, r.enabled = true
  sorted : t.Pairwise fun a b => routeInfoLessThan b a = false
  noHostBits : ∀ r ∈ t, r.destination &&& ~~~r.netmask = 0

theorem Regular.pairwise_key (h : Regular t) :
    t.Pairwise fun a b => key a.toOriginalRouteInfo ≤ key b.toOriginalRouteInfo := by
  refine h.sorted.imp fun {a b} hab => ?_
  rw [routeInfoLessThan_eq, decide_eq_false_iff_not] at hab
  exact not_lt.1 hab

/-- The match between the two indices, if there is one, has the color of the original route. -/
def Right (t : List RouteInfo) (first last : ℕ) (o : OriginalRouteInfo) : Prop :=
  ∀ k r, findBestMatchingRouteInfo t o.destination first last = some k → t[k]? = some r →
    r.color = o.color

theorem interruptsAnyOriginalRoute_eq_false :
    interruptsAnyOriginalRoute t first last os = false ↔ ∀ o ∈ os, Right t first last o := by
  constructor
  · intro h o ho k r hbest hr
    exact color_of_not_interrupts h ho hbest hr
  · intro h
    unfold interruptsAnyOriginalRoute
    rw [Bool.and_eq_false_iff]
    refine .inr (any_eq_false.2 fun o ho hint => ?_)
    obtain ⟨k, hbest, hk⟩ := (Option.any_eq_true _ _).1 hint
    obtain ⟨r, hr, hcolor⟩ := (Option.any_eq_true _ _).1 hk
    exact (bne_iff_ne.1 hcolor) (h o ho k r hbest hr)

theorem interruptsSubsequentOriginalRoutes_eq_false :
    interruptsSubsequentOriginalRoutes t m = false ↔
      ∀ l r, m < l → t[l]? = some r → ∀ o ∈ r.originalRouteInfos, Right t m (m + 1) o := by
  unfold interruptsSubsequentOriginalRoutes
  rw [any_eq_false]
  constructor
  · intro h l r hl hr
    refine interruptsAnyOriginalRoute_eq_false.1 (Bool.eq_false_iff.2 (h r ?_))
    refine mem_of_getElem? (i := l - (m + 1)) ?_
    rw [List.getElem?_drop, Nat.add_sub_cancel' hl, hr]
  · intro h r hr
    obtain ⟨l, hl⟩ := mem_iff_getElem?.1 hr
    rw [List.getElem?_drop] at hl
    refine Bool.eq_false_iff.1 (interruptsAnyOriginalRoute_eq_false.2 (h _ r ?_ hl))
    omega

theorem checkOriginalRoutes_eq_ok_iff : checkOriginalRoutes t os = .ok () ↔
    ∀ o ∈ os, ∃ k r, findBestMatchingRouteInfo t o.destination 0 t.length = some k ∧
      t[k]? = some r ∧ r.color = o.color := by
  have hall : (os.all fun o => (findBestMatchingRouteInfo t o.destination 0 t.length).any fun k =>
        t[k]?.any (·.color == o.color)) = true ↔
      ∀ o ∈ os, ∃ k r, findBestMatchingRouteInfo t o.destination 0 t.length = some k ∧
        t[k]? = some r ∧ r.color = o.color := by
    simp only [all_eq_true, Option.any_eq_true, beq_iff_eq, exists_and_left]
  unfold checkOriginalRoutes
  rw [← hall]
  split_ifs with h
  · simp only [h]
  · simp only [h, reduceCtorEq]

/-- The route that an original route is attached to is on. -/
theorem Attached.enabled (h : Attached t os) (hr : t[k]? = some r)
    (ho : o ∈ r.originalRouteInfos) : r.enabled = true ∧ r.isMatch o.destination = true := by
  have hroutes := (findBest_eq_some.1 (h.first k r hr o ho).1).1
  rw [hr, any_some] at hroutes
  exact Bool.and_eq_true_iff.1 hroutes

theorem Attached.mem_iff (h : Attached t os) :
    o ∈ os ↔ ∃ (k : ℕ) (r : RouteInfo), t[k]? = some r ∧ o ∈ r.originalRouteInfos := by
  rw [← h.once.mem_iff]
  unfold attached
  rw [mem_flatMap]
  constructor
  · rintro ⟨r, hr, ho⟩
    obtain ⟨k, hk⟩ := mem_iff_getElem?.1 (mem_filter.1 hr).1
    exact ⟨k, r, hk, ho⟩
  · rintro ⟨k, r, hr, ho⟩
    exact ⟨r, mem_filter.2 ⟨mem_of_getElem? hr, (h.enabled hr ho).1⟩, ho⟩

/-! ### The first matches after a merge -/

/-- The table `u` is `t` with the routes at `i` and `j` turned off and the merged route at `m`. -/
structure MergingTwo (t u : List RouteInfo) (i j m : ℕ) (I J M : RouteInfo) : Prop where
  first : t[i]? = some I
  second : t[j]? = some J
  j_lt : j < i
  i_lt : i < m
  before : ∀ l < m, u[l]? = (disable (disable t i) j)[l]?
  merged : u[m]? = some M
  after : ∀ l, m ≤ l → u[l + 1]? = t[l]?
  enabled : M.enabled = true
  color : M.color = I.color
  color' : M.color = J.color
  covers : Covers M.toOriginalRouteInfo I.toOriginalRouteInfo
  covers' : Covers M.toOriginalRouteInfo J.toOriginalRouteInfo

namespace MergingTwo

variable (hu : MergingTwo t u i j m I J M)
include hu

/-- What matches before the merged route is a route of the old table. -/
theorem getElem?_of_routes (hl : l < m) (hr : u[l]? = some r) (hroutes : r.routes x = true) :
    l ≠ i ∧ l ≠ j ∧ t[l]? = some r := by
  have henabled := (Bool.and_eq_true_iff.1 hroutes).1
  rw [hu.before l hl] at hr
  obtain ⟨hj, hr⟩ := enabled_of_disable hr henabled
  obtain ⟨hi, hr⟩ := enabled_of_disable hr henabled
  exact ⟨hi, hj, hr⟩

theorem any_eq_false (h : Attached t os) (hr : t[k]? = some r) (ho : o ∈ r.originalRouteInfos)
    (hlk : l ≤ k) (hoff : l = k → k = i ∨ k = j) (hlm : l < m) :
    u[l]?.any (·.routes o.destination) = false := by
  rw [← Bool.not_eq_true]
  intro hany
  obtain ⟨r', hr', hroutes⟩ := (Option.any_eq_true _ _).1 hany
  obtain ⟨hi, hj, hr'⟩ := hu.getElem?_of_routes hlm hr' hroutes
  have hno := (findBest_eq_some.1 (h.first k r hr o ho).1).2.2.2 l (Nat.zero_le l) (by omega)
  rw [hr', any_some, hroutes] at hno
  cases hno

theorem any_merged : u[m]?.any (·.routes x) = M.isMatch x := by
  rw [hu.merged, any_some]
  unfold RouteInfo.routes
  rw [hu.enabled, Bool.true_and]

theorem lt_length : m < u.length := (List.getElem?_eq_some_iff.1 hu.merged).1

/-- The original routes of a route that is turned off go to the first match after it. -/
theorem findBest_off (h : Attached t os) (hk : k = i ∨ k = j) (hr : t[k]? = some r)
    (ho : o ∈ r.originalRouteInfos) :
    findBestMatchingRouteInfo u o.destination 0 u.length =
        findBestMatchingRouteInfo u o.destination (k + 1) (m + 1) ∧
      ∃ l, findBestMatchingRouteInfo u o.destination (k + 1) (m + 1) = some l := by
  have hkm : k < m := by
    have := hu.j_lt
    have := hu.i_lt
    omega
  have hmatch : M.isMatch o.destination = true := by
    have hown := (h.enabled hr ho).2
    rcases hk with rfl | rfl
    · cases hr.symm.trans hu.first
      exact hu.covers.isMatch hown
    · cases hr.symm.trans hu.second
      exact hu.covers'.isMatch hown
  obtain ⟨l, hl⟩ := exists_findBest (hu.any_merged.trans hmatch) hkm (Nat.lt_succ_self m)
  refine ⟨?_, l, hl⟩
  obtain ⟨hroutes, hle, hlt, hno⟩ := findBest_eq_some.1 hl
  have hlen := hu.lt_length
  rw [hl]
  refine findBest_eq_some.2 ⟨hroutes, Nat.zero_le l, by omega, fun l' _ hl' => ?_⟩
  by_cases hlk : l' ≤ k
  · exact hu.any_eq_false h hr ho hlk (fun _ => hk) (by omega)
  · exact hno l' (by omega) hl'

/-- The other original routes before the merged route stay where they are. -/
theorem findBest_before (h : Attached t os) (hi : k ≠ i) (hj : k ≠ j) (hkm : k < m)
    (hr : t[k]? = some r) (ho : o ∈ r.originalRouteInfos) :
    u[k]? = some r ∧ findBestMatchingRouteInfo u o.destination 0 u.length = some k := by
  have hrk : u[k]? = some r := by
    rw [hu.before k hkm, disable_getElem?_ne hj, disable_getElem?_ne hi, hr]
  obtain ⟨henabled, hmatch⟩ := h.enabled hr ho
  have hlen := hu.lt_length
  refine ⟨hrk, findBest_eq_some.2 ⟨?_, Nat.zero_le k, by omega, fun l _ hl => ?_⟩⟩
  · rw [hrk, any_some]
    unfold RouteInfo.routes
    rw [henabled, hmatch]
    rfl
  · exact hu.any_eq_false h hr ho hl.le (by omega) (by omega)

/-- Those after the merged route go to it when it matches them. -/
theorem findBest_after (h : Attached t os) (hmk : m ≤ k) (hr : t[k]? = some r)
    (ho : o ∈ r.originalRouteInfos) :
    findBestMatchingRouteInfo u o.destination 0 u.length =
      some (if M.isMatch o.destination = true then m else k + 1) := by
  have hlen := hu.lt_length
  have hbefore : ∀ l < m, u[l]?.any (·.routes o.destination) = false := fun l hl =>
    hu.any_eq_false h hr ho (by omega) (by omega) hl
  split_ifs with hmatch
  · exact findBest_eq_some.2 ⟨hu.any_merged.trans hmatch, Nat.zero_le m, hlen, fun l _ => hbefore l⟩
  · have hrk : u[k + 1]? = some r := (hu.after k hmk).trans hr
    obtain ⟨henabled, hown⟩ := h.enabled hr ho
    refine findBest_eq_some.2 ⟨?_, Nat.zero_le _, (List.getElem?_eq_some_iff.1 hrk).1,
      fun l _ hl => ?_⟩
    · rw [hrk, any_some]
      unfold RouteInfo.routes
      rw [henabled, hown]
      rfl
    · rcases Nat.lt_trichotomy l m with hlt | rfl | hgt
      · exact hbefore l hlt
      · exact hu.any_merged.trans (Bool.eq_false_iff.2 hmatch)
      · obtain ⟨l, rfl⟩ : ∃ l', l = l' + 1 := ⟨l - 1, by omega⟩
        rw [hu.after l (by omega)]
        exact (findBest_eq_some.1 (h.first k r hr o ho).1).2.2.2 l (Nat.zero_le l) (by omega)

theorem findBest_merged (hmatch : M.isMatch x = true) :
    findBestMatchingRouteInfo u x m (m + 1) = some m :=
  findBest_eq_some.2 ⟨hu.any_merged.trans hmatch, le_rfl, Nat.lt_succ_self m, fun l _ _ => by omega⟩

/-- The first route is checked up to the merged one. -/
theorem right_first (hwant : I.color = o.color) (hright : Right u (i + 1) m o) :
    Right u (i + 1) (m + 1) o := by
  intro l r hbest hr
  rcases Nat.lt_or_eq_of_le (Nat.le_of_lt_succ (findBest_eq_some.1 hbest).2.2.1) with hlt | rfl
  · exact hright l r (findBest_of_lt hbest hlt) hr
  · rw [← Option.some.inj (hu.merged.symm.trans hr), hu.color, hwant]

/-- The second route is checked up to the first one, and from there on to the merged one. -/
theorem right_second (hwant : J.color = o.color) (hJi : Right u (j + 1) i o)
    (hJm : Right u (i + 1) m o) : Right u (j + 1) (m + 1) o := by
  intro l r hbest hr
  have hroutes := (findBest_eq_some.1 hbest).1
  rw [hr, any_some] at hroutes
  rcases Nat.lt_or_eq_of_le (Nat.le_of_lt_succ (findBest_eq_some.1 hbest).2.2.1) with hlt | rfl
  · rcases Nat.lt_trichotomy l i with hli | rfl | hil
    · exact hJi l r (findBest_of_lt hbest hli) hr
    · -- the first route is turned off
      exact absurd rfl (hu.getElem?_of_routes hlt hr hroutes).1
    · have hji := hu.j_lt
      exact hJm l r (findBest_of_le (findBest_of_lt hbest hlt) (by omega) hil) hr
  · rw [← Option.some.inj (hu.merged.symm.trans hr), hu.color', hwant]

/-- What has passed the checks finds its color in the merged table. -/
theorem exists_right (h : Attached t os)
    (hI : ∀ o ∈ I.originalRouteInfos, Right u (i + 1) (m + 1) o)
    (hJ : ∀ o ∈ J.originalRouteInfos, Right u (j + 1) (m + 1) o)
    (hsubsequent : ∀ l r, m < l → u[l]? = some r → ∀ o ∈ r.originalRouteInfos, Right u m (m + 1) o)
    (hr : t[k]? = some r) (ho : o ∈ r.originalRouteInfos) :
    ∃ l r', findBestMatchingRouteInfo u o.destination 0 u.length = some l ∧ u[l]? = some r' ∧
      r'.color = o.color := by
  have hwant := (h.first k r hr o ho).2
  by_cases hoff : k = i ∨ k = j
  · obtain ⟨hbest, l, hl⟩ := hu.findBest_off h hoff hr ho
    obtain ⟨r', hr', -⟩ := (Option.any_eq_true _ _).1 (findBest_eq_some.1 hl).1
    refine ⟨l, r', hbest.trans hl, hr', ?_⟩
    rcases hoff with rfl | rfl
    · cases hr.symm.trans hu.first
      exact hI o ho l r' hl hr'
    · cases hr.symm.trans hu.second
      exact hJ o ho l r' hl hr'
  rw [not_or] at hoff
  by_cases hkm : k < m
  · obtain ⟨hrk, hbest⟩ := hu.findBest_before h hoff.1 hoff.2 hkm hr ho
    exact ⟨k, r, hbest, hrk, hwant⟩
  · have hrk := (hu.after k (by omega)).trans hr
    have hbest := hu.findBest_after h (by omega) hr ho
    split_ifs at hbest with hmatch
    · have hright := hsubsequent (k + 1) r (by omega) hrk o ho
      exact ⟨m, M, hbest, hu.merged, hright m M (hu.findBest_merged hmatch) hu.merged⟩
    · exact ⟨k + 1, r, hbest, hrk, hwant⟩

/-- The incremental check passes if and only if the full check of the merged table does, and no
original route of the second route matches another color between the first route and the merged
one. -/
theorem mergeIsPossible_iff (h : Attached t os) :
    mergeIsPossible u i j m I J = true ↔ checkOriginalRoutes u os = .ok () ∧
      interruptsAnyOriginalRoute u (i + 1) m J.originalRouteInfos = false := by
  have hjm := hu.j_lt.trans hu.i_lt
  unfold mergeIsPossible
  simp only [Bool.and_eq_true, Bool.not_eq_true', interruptsAnyOriginalRoute_eq_false,
    interruptsSubsequentOriginalRoutes_eq_false, checkOriginalRoutes_eq_ok_iff]
  constructor
  · rintro ⟨⟨⟨hJi, hJm⟩, hIm⟩, hsubsequent⟩
    refine ⟨fun o ho => ?_, hJm⟩
    obtain ⟨k, r, hr, hor⟩ := h.mem_iff.1 ho
    refine hu.exists_right h (fun o ho => ?_) (fun o ho => ?_) hsubsequent hr hor
    · exact hu.right_first (h.first i I hu.first o ho).2 (hIm o ho)
    · exact hu.right_second (h.first j J hu.second o ho).2 (hJi o ho) (hJm o ho)
  · rintro ⟨hfull, hJm⟩
    have hright : ∀ {k : ℕ} {r : RouteInfo} {o : OriginalRouteInfo}, t[k]? = some r →
        o ∈ r.originalRouteInfos → ∀ {l : ℕ} {r' : RouteInfo},
        findBestMatchingRouteInfo u o.destination 0 u.length = some l → u[l]? = some r' →
        r'.color = o.color := by
      intro k r o hr ho l r' hbest hr'
      obtain ⟨l0, r0, hbest0, hr0, hcolor⟩ := hfull o (h.mem_iff.2 ⟨k, r, hr, ho⟩)
      cases hbest.symm.trans hbest0
      rwa [Option.some.inj (hr'.symm.trans hr0)]
    refine ⟨⟨⟨fun o ho l r hbest hr => ?_, hJm⟩, fun o ho l r hbest hr => ?_⟩,
      fun l r hl hr o ho m' r' hbest hr' => ?_⟩
    · have hlt := (findBest_eq_some.1 hbest).2.2.1
      have him := hu.i_lt
      refine hright hu.second ho ?_ hr
      rw [(hu.findBest_off h (.inr rfl) hu.second ho).1]
      exact findBest_of_lt hbest (by omega)
    · have hlt := (findBest_eq_some.1 hbest).2.2.1
      refine hright hu.first ho ?_ hr
      rw [(hu.findBest_off h (.inl rfl) hu.first ho).1]
      exact findBest_of_lt hbest (by omega)
    · obtain ⟨hroutes, hle, hlt, -⟩ := findBest_eq_some.1 hbest
      obtain rfl : m = m' := by omega
      obtain ⟨l, rfl⟩ : ∃ l', l = l' + 1 := ⟨l - 1, by omega⟩
      rw [hu.after l (by omega)] at hr
      rw [hu.any_merged] at hroutes
      refine hright hr ho ?_ hr'
      rw [hu.findBest_after h (by omega) hr ho, if_pos hroutes]

end MergingTwo

/-! ### Moving the original routes -/

/-- The first match of an original route has its color.  It is the route that it is attached to, or
the merged route when this comes before it. -/
def Moving (v : List RouteInfo) (m : ℕ) : Prop :=
  ∀ k r, v[k]? = some r → r.enabled = true → ∀ o ∈ r.originalRouteInfos, ∃ l r',
    findBestMatchingRouteInfo v o.destination 0 v.length = some l ∧ v[l]? = some r' ∧
      r'.color = o.color ∧ (l = k ∨ l = m ∧ m < k)

/-- The best match between the two indices is the first match, and has the color. -/
structure Movable (v : List RouteInfo) (first last : ℕ) (o : OriginalRouteInfo) : Prop where
  eq : findBestMatchingRouteInfo v o.destination 0 v.length =
    findBestMatchingRouteInfo v o.destination first last
  best : ∃ k r, findBestMatchingRouteInfo v o.destination first last = some k ∧ v[k]? = some r ∧
    r.color = o.color

theorem Movable.congr (h : Movable u first last o) (hv : SameShape v u) :
    Movable v first last o := by
  obtain ⟨k, r, hbest, hr, hcolor⟩ := h.best
  have huv : SameShape u v := hv.symm
  obtain ⟨r', hr', hshape⟩ := huv.exists_getElem? hr
  refine ⟨?_, k, r', by rw [hv.findBest_eq, hbest], hr', ?_⟩
  · rw [hv.findBest_eq, hv.findBest_eq, hv.length_eq, h.eq]
  · rw [(Prod.mk.inj hshape).1]
    exact hcolor

theorem Moving.push (h : Moving v m) (ho : Movable v first last o)
    (hbest : findBestMatchingRouteInfo v o.destination first last = some k) :
    Moving (v.modify k (RouteInfo.push o)) m := by
  have hshape : SameShape (v.modify k (RouteInfo.push o)) v :=
    map_modify_eq (f := RouteInfo.push o) (fun _ => rfl) k v
  have hv : SameShape v (v.modify k (RouteInfo.push o)) := hshape.symm
  -- the first match of an original route is the same route in both tables
  have hlift : ∀ (o' : OriginalRouteInfo) (l l' : ℕ) (r : RouteInfo),
      findBestMatchingRouteInfo v o'.destination 0 v.length = some l → v[l]? = some r →
      r.color = o'.color → (l = l' ∨ l = m ∧ m < l') → ∃ l r',
      findBestMatchingRouteInfo (v.modify k (RouteInfo.push o)) o'.destination 0
        (v.modify k (RouteInfo.push o)).length = some l ∧
      (v.modify k (RouteInfo.push o))[l]? = some r' ∧ r'.color = o'.color ∧
      (l = l' ∨ l = m ∧ m < l') := by
    intro o' l l' r hl hr hcolor hor
    obtain ⟨r', hr', hsame⟩ := hv.exists_getElem? hr
    refine ⟨l, r', by rw [hshape.findBest_eq, hshape.length_eq, hl], hr', ?_, hor⟩
    rw [(Prod.mk.inj hsame).1]
    exact hcolor
  intro l r hr henabled o' ho'
  rw [List.getElem?_modify] at hr
  obtain ⟨r0, hr0, heq⟩ := map_eq_some_iff.1 hr
  have hold : r0.enabled = true → o' ∈ r0.originalRouteInfos → _ := fun he ho => h l r0 hr0 he o' ho
  split_ifs at heq with hkl
  · subst heq hkl
    rcases mem_append.1 ho' with hmem | hnew
    · obtain ⟨l, r, hl, hr, hcolor, hor⟩ := hold henabled hmem
      exact hlift o' l k r hl hr hcolor hor
    · obtain rfl := mem_singleton.1 hnew
      obtain ⟨k', r, hbest', hr, hcolor⟩ := ho.best
      obtain rfl := Option.some.inj (hbest.symm.trans hbest')
      exact hlift o' k k r (ho.eq.trans hbest) hr hcolor (.inl rfl)
  · subst heq
    obtain ⟨l', r, hl, hr, hcolor, hor⟩ := hold henabled ho'
    exact hlift o' l' l r hl hr hcolor hor

theorem addOriginalRouteInfos_moving (os : List OriginalRouteInfo) (h : Moving v m)
    (hos : ∀ o ∈ os, Movable v first last o) :
    ∃ v', addOriginalRouteInfos first last os v = .ok v' ∧ SameShape v' v ∧ Moving v' m ∧
      (attached v').Perm (attached v ++ os) := by
  induction os generalizing v with
  | nil => exact ⟨v, rfl, rfl, h, by rw [append_nil]⟩
  | cons o rest ih =>
    have ho := hos o mem_cons_self
    obtain ⟨k, r, hbest, hr, hcolor⟩ := ho.best
    have hroutes := (findBest_eq_some.1 hbest).1
    rw [hr, any_some] at hroutes
    have henabled := (Bool.and_eq_true_iff.1 hroutes).1
    have hshape : SameShape (v.modify k (RouteInfo.push o)) v :=
      map_modify_eq (f := RouteInfo.push o) (fun _ => rfl) k v
    obtain ⟨v', hv', hshape', hmoving, hperm⟩ := ih (h.push ho hbest) fun o' ho' =>
      (hos o' (mem_cons_of_mem _ ho')).congr hshape
    refine ⟨v', ?_, hshape'.trans hshape, hmoving, ?_⟩
    · unfold addOriginalRouteInfos
      simp only [hbest, hr, any_some, hcolor, beq_self_eq_true, if_true]
      exact hv'
    · refine hperm.trans (((attached_push hr henabled).append_right _).trans ?_)
      rw [append_assoc, singleton_append]

/-- Each original route of a route that is on is attached to its first match, which has its
color. -/
def Settled (v : List RouteInfo) : Prop :=
  ∀ k r, v[k]? = some r → r.enabled = true → ∀ o ∈ r.originalRouteInfos,
    findBestMatchingRouteInfo v o.destination 0 v.length = some k ∧ r.color = o.color

/-- The merged route is the first match of what it matches after itself. -/
theorem Moving.of_isMatch (h : Moving v m) (hM : v[m]? = some M) (he : M.enabled = true)
    (hr : v[k]? = some r) (hk : m < k) (hron : r.enabled = true) (ho : o ∈ r.originalRouteInfos)
    (hmatch : M.isMatch o.destination = true) :
    findBestMatchingRouteInfo v o.destination 0 v.length = some m ∧ M.color = o.color := by
  obtain ⟨l, r', hl, hr', hcolor, hor⟩ := h k r hr hron o ho
  obtain rfl : l = m := by
    by_contra hne
    have hno := (findBest_eq_some.1 hl).2.2.2 m (Nat.zero_le m) (by omega)
    rw [hM, any_some] at hno
    unfold RouteInfo.routes at hno
    rw [he, hmatch] at hno
    cases hno
  rw [Option.some.inj (hM.symm.trans hr')]
  exact ⟨hl, hcolor⟩

/-- The merged route has taken over the original routes that have waited for it. -/
theorem Moving.settled (h : Moving v m) (hM : v[m]? = some M) (he : M.enabled = true)
    (hafter : ∀ f ∈ v.drop (m + 1), f.enabled = true) : Settled (captured v m M) := by
  have hshape := sameShape_captured hM
  have hlt := (List.getElem?_eq_some_iff.1 hM).1
  have htake : (v.take m).length = m := by
    rw [length_take]
    omega
  intro k r hr henabled o ho
  rw [hshape.findBest_eq, hshape.length_eq]
  unfold captured at hr
  rcases Nat.lt_trichotomy k m with hkm | rfl | hmk
  · rw [List.getElem?_append_left (by omega), List.getElem?_take_of_lt hkm] at hr
    obtain ⟨l, r', hl, hr', hcolor, hor⟩ := h k r hr henabled o ho
    obtain rfl : l = k := by omega
    rw [Option.some.inj (hr.symm.trans hr')]
    exact ⟨hl, hcolor⟩
  · rw [List.getElem?_append_right htake.le, htake, Nat.sub_self, List.getElem?_cons_zero] at hr
    cases hr
    rcases mem_append.1 ho with hown | hcap
    · obtain ⟨l, r', hl, hr', hcolor, hor⟩ := h k M hM he o hown
      obtain rfl : l = k := by omega
      cases hM.symm.trans hr'
      exact ⟨hl, hcolor⟩
    · obtain ⟨f, hf, hof⟩ := mem_flatMap.1 hcap
      obtain ⟨hof, hmatch⟩ := mem_filter.1 hof
      obtain ⟨l', hl'⟩ := mem_iff_getElem?.1 hf
      rw [List.getElem?_drop] at hl'
      have hfirst := h.of_isMatch hM he hl' (by omega) (hafter f hf) hof hmatch
      exact hfirst
  · obtain ⟨k', rfl⟩ : ∃ k', k = m + 1 + k' := ⟨k - (m + 1), by omega⟩
    rw [List.getElem?_append_right (by omega), htake,
      show m + 1 + k' - m = k' + 1 by omega, List.getElem?_cons_succ, List.getElem?_map] at hr
    obtain ⟨f, hf, rfl⟩ := map_eq_some_iff.1 hr
    obtain ⟨hof, hno⟩ := mem_filter.1 ho
    rw [List.getElem?_drop] at hf
    obtain ⟨l, r', hl, hr', hcolor, hor⟩ := h _ f hf henabled o hof
    rcases hor with rfl | ⟨rfl, -⟩
    · rw [Option.some.inj (hf.symm.trans hr')]
      exact ⟨hl, hcolor⟩
    · -- the merged route does not match what has been left
      have hmatch := (findBest_eq_some.1 hl).1
      rw [hM, any_some] at hmatch
      rw [(Bool.and_eq_true_iff.1 hmatch).2] at hno
      cases hno

/-- The routes that are off are removed. -/
theorem Settled.filter_enabled (h : Settled v) (hr : (v.filter (·.enabled))[k]? = some r)
    (ho : o ∈ r.originalRouteInfos) :
    findBestMatchingRouteInfo (v.filter (·.enabled)) o.destination 0 (v.filter (·.enabled)).length =
      some k ∧ r.color = o.color := by
  have hpair : (v.filter (·.enabled)).Pairwise fun f e =>
      ∀ o ∈ e.originalRouteInfos, f.routes o.destination = false := by
    rw [pairwise_filter, pairwise_iff_getElem]
    intro l1 l2 hl1 hl2 hlt _ he o ho
    have hno := (findBest_eq_some.1 (h l2 _ (List.getElem?_eq_getElem hl2) he o ho).1).2.2.2 l1
      (Nat.zero_le _) hlt
    rwa [List.getElem?_eq_getElem hl1, any_some] at hno
  obtain ⟨hmem, he⟩ := mem_filter.1 (mem_of_getElem? hr)
  obtain ⟨k', hk'⟩ := mem_iff_getElem?.1 hmem
  obtain ⟨hbest, hcolor⟩ := h k' r hk' he o ho
  have hroutes := (findBest_eq_some.1 hbest).1
  rw [hk', ← hr] at hroutes
  obtain ⟨hk, rfl⟩ := List.getElem?_eq_some_iff.1 hr
  refine ⟨findBest_eq_some.2 ⟨hroutes, Nat.zero_le k, hk, fun l _ hl => ?_⟩, hcolor⟩
  rw [List.getElem?_eq_getElem (hl.trans hk), any_some]
  exact pairwise_iff_getElem.1 hpair l k _ hk hl o ho

/-! ### The merge -/

theorem getElem?_insert_of_ge (M : RouteInfo) (hm : m ≤ t.length) (hl : m ≤ l) :
    (t.take m ++ M :: t.drop m)[l + 1]? = t[l]? := by
  have htake : (t.take m).length = m := by
    rw [length_take]
    omega
  rw [List.getElem?_append_right (by omega), htake, show l + 1 - m = l - m + 1 by omega,
    List.getElem?_cons_succ, List.getElem?_drop, Nat.add_sub_cancel' hl]

theorem mergingTwo_addRouteInfo (h : Regular t) (hi : t[i]? = some I) (hj : t[j]? = some J)
    (hij : j < i) (hcolor : I.color = J.color) :
    MergingTwo t (addRouteInfo (disable (disable t i) j) (mergedRouteInfo I J)).2 i j
      (addRouteInfo (disable (disable t i) j) (mergedRouteInfo I J)).1 I J (mergedRouteInfo I J) ∧
    (addRouteInfo (disable (disable t i) j) (mergedRouteInfo I J)).1 ≤ t.length := by
  obtain ⟨hcovI, hcovJ, -⟩ := mergedRouteInfo_spec I J
  have hlen : (disable (disable t i) j).length = t.length := by
    simp only [disable, length_modify]
  have hsorted := sorted_disable (sorted_disable h.pairwise_key i) j
  obtain ⟨hle, -, hhigh⟩ := index_spec routeInfoLessThan_eq hsorted (mergedRouteInfo I J)
  unfold addRouteInfo UpperBound.insert
  simp only
  generalize index routeInfoLessThan (mergedRouteInfo I J) (disable (disable t i) j) = m
    at *
  have hsame := congrArg (·[i]?) ((map_disable (disable t i) j).trans (map_disable t i))
  simp only [List.getElem?_map, hi, map_some] at hsame
  obtain ⟨r, hr, hrI⟩ := map_eq_some_iff.1 hsame
  obtain ⟨hilt, rfl⟩ := List.getElem?_eq_some_iff.1 hr
  have him : i < m := by
    by_contra hcon
    have hgt := hhigh i hilt (by omega)
    rw [hrI] at hgt
    exact absurd (hcovI.key_le (h.noHostBits I (mem_of_getElem? hi))) (not_le.2 hgt)
  refine ⟨⟨hi, hj, hij, him, fun l hl => ?_, getElem?_insert_self _ hle, fun l hl => ?_, rfl, rfl,
    hcolor, hcovI, hcovJ⟩, by omega⟩
  · rw [List.getElem?_append_left (by rw [length_take]; omega), List.getElem?_take_of_lt hl]
  · rw [getElem?_insert_of_ge _ hle hl, disable_getElem?_ne (by omega),
      disable_getElem?_ne (by omega)]

namespace MergingTwo

variable (hu : MergingTwo t u i j m I J M)
include hu

/-- When the full check passes, the original routes are on their way to their first matches. -/
theorem moving (h : Attached t os) (hM : M.originalRouteInfos = [])
    (hfull : checkOriginalRoutes u os = .ok ()) : Moving u m := by
  rw [checkOriginalRoutes_eq_ok_iff] at hfull
  intro k r hr henabled o ho
  rcases Nat.lt_trichotomy k m with hkm | rfl | hmk
  · rw [hu.before k hkm] at hr
    obtain ⟨hj, hr⟩ := enabled_of_disable hr henabled
    obtain ⟨hi, hr⟩ := enabled_of_disable hr henabled
    obtain ⟨hrk, hbest⟩ := hu.findBest_before h hi hj hkm hr ho
    exact ⟨k, r, hbest, hrk, (h.first k r hr o ho).2, .inl rfl⟩
  · rw [← Option.some.inj (hu.merged.symm.trans hr), hM] at ho
    cases ho
  · obtain ⟨k, rfl⟩ : ∃ k', k = k' + 1 := ⟨k - 1, by omega⟩
    rw [hu.after k (by omega)] at hr
    have hbest := hu.findBest_after h (by omega) hr ho
    obtain ⟨l, r', hl, hr', hcolor⟩ := hfull o (h.mem_iff.2 ⟨k, r, hr, ho⟩)
    refine ⟨l, r', hl, hr', hcolor, ?_⟩
    rw [hbest] at hl
    have hor := Option.some.inj hl
    split_ifs at hor
    · exact .inr ⟨hor.symm, hmk⟩
    · exact .inl hor.symm

theorem movable (h : Attached t os) (hfull : checkOriginalRoutes u os = .ok ()) (hk : k = i ∨ k = j)
    (hr : t[k]? = some r) (ho : o ∈ r.originalRouteInfos) : Movable u (k + 1) (m + 1) o := by
  obtain ⟨heq, -⟩ := hu.findBest_off h hk hr ho
  obtain ⟨l, r', hl, hr', hcolor⟩ :=
    checkOriginalRoutes_eq_ok_iff.1 hfull o (h.mem_iff.2 ⟨k, r, hr, ho⟩)
  exact ⟨heq, l, r', heq.symm.trans hl, hr', hcolor⟩

/-- In the merged table only the two routes are off. -/
theorem enabled_iff (h : Regular t) (hr : u[k]? = some r) : r.enabled = true ↔ k ≠ i ∧ k ≠ j := by
  have hjm := hu.j_lt.trans hu.i_lt
  have him := hu.i_lt
  constructor
  · intro he
    by_cases hkm : k < m
    · rw [hu.before k hkm] at hr
      obtain ⟨hj, hr⟩ := enabled_of_disable hr he
      exact ⟨(enabled_of_disable hr he).1, hj⟩
    · omega
  · rintro ⟨hi, hj⟩
    rcases Nat.lt_trichotomy k m with hkm | rfl | hmk
    · rw [hu.before k hkm, disable_getElem?_ne hj, disable_getElem?_ne hi] at hr
      exact h.enabled r (mem_of_getElem? hr)
    · rw [← Option.some.inj (hu.merged.symm.trans hr)]
      exact hu.enabled
    · obtain ⟨k, rfl⟩ : ∃ k', k = k' + 1 := ⟨k - 1, by omega⟩
      rw [hu.after k (by omega)] at hr
      exact h.enabled r (mem_of_getElem? hr)

/-- Removing the two routes leaves those that are on. -/
theorem eraseIdx_eq (h : Regular t) (hv : SameShape v u) :
    (v.eraseIdx i).eraseIdx j = v.filter (·.enabled) := by
  have henabled : ∀ {k : ℕ} {r : RouteInfo}, v[k]? = some r →
      (r.enabled = true ↔ k ≠ i ∧ k ≠ j) := by
    intro k r hr
    obtain ⟨r', hr', hshape⟩ := hv.exists_getElem? hr
    rw [← (Prod.mk.inj hshape).2]
    exact hu.enabled_iff h hr'
  have hlen : m < v.length := by
    rw [hv.length_eq]
    exact hu.lt_length
  have hij := hu.j_lt
  have him := hu.i_lt
  have hoff : ∀ k < v.length, k = i ∨ k = j → ∃ r, v[k]? = some r ∧ r.enabled = false := by
    intro k hk hor
    refine ⟨v[k], List.getElem?_eq_getElem hk, Bool.eq_false_iff.2 fun he => ?_⟩
    have hne := (henabled (List.getElem?_eq_getElem hk)).1 he
    omega
  obtain ⟨rI, hrI, hI⟩ := hoff i (by omega) (.inl rfl)
  obtain ⟨rJ, hrJ, hJ⟩ := hoff j (by omega) (.inr rfl)
  have hrJ' : (v.eraseIdx i)[j]? = some rJ := by
    rw [List.getElem?_eraseIdx_of_lt hij, hrJ]
  have hon : ∀ r ∈ (v.eraseIdx i).eraseIdx j, r.enabled = true := by
    intro r hr
    obtain ⟨l, hlj, hl⟩ := mem_eraseIdx_iff_getElem?.1 hr
    rw [List.getElem?_eraseIdx] at hl
    split_ifs at hl with hli
    · exact (henabled hl).2 ⟨by omega, hlj⟩
    · exact (henabled hl).2 ⟨by omega, by omega⟩
  rw [← filter_eraseIdx hrI hI, ← filter_eraseIdx hrJ' hJ, filter_eq_self.2 hon]

end MergingTwo

theorem regular_filter (hv : SameShape v u)
    (hsorted : u.Pairwise fun a b => key a.toOriginalRouteInfo ≤ key b.toOriginalRouteInfo)
    (hhost : ∀ r ∈ u, r.destination &&& ~~~r.netmask = 0) : Regular (v.filter (·.enabled)) := by
  refine ⟨fun r hr => (mem_filter.1 hr).2, ?_, fun r hr => ?_⟩
  · refine ((hv.pairwise_key hsorted).filter _).imp fun {a b} hab => ?_
    rw [routeInfoLessThan_eq, decide_eq_false_iff_not]
    exact not_lt.2 hab
  · exact hv.forall_mem (P := fun s => s.1.destination &&& ~~~s.1.netmask = 0) hhost r
      (mem_filter.1 hr).1

theorem regular_addRouteInfo (h : Regular t) (hM : WellFormed M.toOriginalRouteInfo) :
    ((addRouteInfo (disable (disable t i) j) M).2.Pairwise fun a b =>
        key a.toOriginalRouteInfo ≤ key b.toOriginalRouteInfo) ∧
      ∀ r ∈ (addRouteInfo (disable (disable t i) j) M).2, r.destination &&& ~~~r.netmask = 0 := by
  have hsorted := sorted_disable (sorted_disable h.pairwise_key i) j
  refine ⟨pairwise_insert routeInfoLessThan_eq hsorted M, fun r hr => ?_⟩
  rcases mem_insert.1 hr with rfl | hr
  · exact hM.noHostBits
  · have hr' := mem_map_of_mem (f := (·.toOriginalRouteInfo)) hr
    rw [map_disable, map_disable] at hr'
    obtain ⟨r0, hr0, hsame⟩ := mem_map.1 hr'
    rw [← hsame]
    exact h.noHostBits r0 hr0

/-- When the full check passes, the original routes are moved without a failed assertion. -/
theorem MergingTwo.accept (hu : MergingTwo t u i j m I J M) (h : Regular t) (hos : Attached t os)
    (hM : M.originalRouteInfos = []) (hfull : checkOriginalRoutes u os = .ok ()) :
    ∃ u1 u2 v, addOriginalRouteInfos (i + 1) (m + 1) I.originalRouteInfos u = .ok u1 ∧
      addOriginalRouteInfos (j + 1) (m + 1) J.originalRouteInfos u1 = .ok u2 ∧
      captureOriginalRouteInfos u2 m = .ok v ∧ SameShape v u ∧ Settled v ∧
      (attached v).Perm (attached u ++ (J.originalRouteInfos ++ I.originalRouteInfos)) := by
  obtain ⟨u1, hadd1, hshape1, hmoving1, hperm1⟩ := addOriginalRouteInfos_moving
    I.originalRouteInfos (hu.moving hos hM hfull) fun o ho =>
      hu.movable hos hfull (.inl rfl) hu.first ho
  obtain ⟨u2, hadd2, hshape2, hmoving2, hperm2⟩ := addOriginalRouteInfos_moving
    J.originalRouteInfos hmoving1 fun o ho =>
      (hu.movable hos hfull (.inr rfl) hu.second ho).congr hshape1
  have hshape : SameShape u2 u := hshape2.trans hshape1
  have hshape' : SameShape u u2 := hshape.symm
  obtain ⟨r, hr, hrM⟩ := hshape'.exists_getElem? hu.merged
  have hron : r.enabled = true := (Prod.mk.inj hrM).2.trans hu.enabled
  have hafter : ∀ f ∈ u2.drop (m + 1), f.enabled = true := by
    intro f hf
    obtain ⟨l, hl⟩ := mem_iff_getElem?.1 hf
    rw [List.getElem?_drop] at hl
    obtain ⟨f', hf', hsame⟩ := hshape.exists_getElem? hl
    rw [← (Prod.mk.inj hsame).2, hu.enabled_iff h hf']
    have hij := hu.j_lt
    have him := hu.i_lt
    omega
  refine ⟨u1, u2, captured u2 m r, hadd1, hadd2, captureOriginalRouteInfos_eq_ok hr ?_,
    (sameShape_captured hr).trans hshape, hmoving2.settled hr hron hafter, ?_⟩
  · intro f hf o ho hmatch
    obtain ⟨l, hl⟩ := mem_iff_getElem?.1 hf
    rw [List.getElem?_drop] at hl
    exact (hmoving2.of_isMatch hr hron hl (by omega) (hafter f hf) ho hmatch).2
  · calc
      List.Perm (attached (captured u2 m r)) (attached u2) := attached_captured hr hron hafter
      List.Perm _ (attached u1 ++ J.originalRouteInfos) := hperm2
      List.Perm _ (attached u ++ I.originalRouteInfos ++ J.originalRouteInfos) :=
        hperm1.append_right _
      List.Perm _ (attached u ++ (J.originalRouteInfos ++ I.originalRouteInfos)) := by
        rw [append_assoc]
        exact perm_append_comm.append_left _

/-- A merge of two routes is accepted if and only if the incremental check passes.  Then the
original routes are attached to their first matches again.  Otherwise the table is the old one. -/
theorem merge_attached (h : Regular t) (hos : Attached t os) (hi : t[i]? = some I)
    (hj : t[j]? = some J) (hij : j < i) (hcolor : I.color = J.color) :
    ∃ merged t', tryToMergeTwoRoutes t i j I J = .ok (merged, t') ∧
      (merged = true ↔
        checkOriginalRoutes (addRouteInfo (disable (disable t i) j) (mergedRouteInfo I J)).2 os =
          .ok () ∧
        interruptsAnyOriginalRoute (addRouteInfo (disable (disable t i) j) (mergedRouteInfo I J)).2
          (i + 1) (addRouteInfo (disable (disable t i) j) (mergedRouteInfo I J)).1
          J.originalRouteInfos = false) ∧
      (merged = true → (Regular t' ∧ Attached t' os) ∧ t'.length + 1 = t.length) ∧
      (merged = false → t' = t) := by
  obtain ⟨hu, hm⟩ := mergingTwo_addRouteInfo h hi hj hij hcolor
  obtain ⟨-, -, hwf⟩ := mergedRouteInfo_spec I J
  obtain ⟨hsorted, hhost⟩ := regular_addRouteInfo (i := i) (j := j) h hwf
  have hIon := h.enabled I (mem_of_getElem? hi)
  have hJon := h.enabled J (mem_of_getElem? hj)
  have hattached_u := attached_addRouteInfo (t := disable (disable t i) j)
    (M := mergedRouteInfo I J) rfl
  unfold tryToMergeTwoRoutes
  rcases hadd : addRouteInfo (disable (disable t i) j) (mergedRouteInfo I J) with ⟨m, u⟩
  rw [hadd] at hu hm hsorted hhost hattached_u
  simp only at hu hm hsorted hhost hattached_u ⊢
  rw [if_neg (not_not.2 ⟨hu.i_lt, hu.j_lt.trans hu.i_lt⟩)]
  have hpossible := hu.mergeIsPossible_iff hos
  by_cases hmerge : mergeIsPossible u i j m I J = true
  · rw [if_pos hmerge]
    obtain ⟨u1, u2, v, hadd1, hadd2, hcapture, hv, hsettled, hperm⟩ :=
      hu.accept h hos rfl (hpossible.1 hmerge).1
    have herase := hu.eraseIdx_eq h hv
    refine ⟨true, (v.eraseIdx i).eraseIdx j, ?_, iff_of_true rfl (hpossible.1 hmerge),
      fun _ => ⟨⟨?_, ?_, ?_⟩, ?_⟩, fun hfalse => absurd hfalse.symm Bool.false_ne_true⟩
    · simp only [hadd1, hadd2, hcapture, bind, Except.bind]
      rfl
    · rw [herase]
      exact regular_filter hv hsorted hhost
    · have hJ1 : (disable t i)[j]? = some J := by
        rw [disable_getElem?_ne hij.ne, hj]
      have hold := (attached_disable hi hIon).trans ((attached_disable hJ1 hJon).append_right _)
      rw [← hattached_u, append_assoc] at hold
      refine (List.Perm.of_eq ?_).trans (hperm.trans (hold.symm.trans hos.once))
      rw [herase]
      unfold attached
      rw [filter_filter]
      simp only [Bool.and_self]
    · rw [herase]
      exact fun k r hr o ho => hsettled.filter_enabled hr ho
    · have hilt := (List.getElem?_eq_some_iff.1 hi).1
      have hlen_v := hv.length_eq
      have hlen : u.length = t.length + 1 := by
        have hlen := congrArg (fun p : ℕ × List RouteInfo => p.2.length) hadd
        rw [length_addRouteInfo] at hlen
        simp only [disable, length_modify] at hlen
        exact hlen.symm
      rw [length_eraseIdx_of_lt (by rw [length_eraseIdx_of_lt (by omega)]; omega),
        length_eraseIdx_of_lt (by omega)]
      omega
  · rw [if_neg hmerge]
    cases hadd
    refine ⟨false, _, rfl, ?_, fun htrue => absurd htrue Bool.false_ne_true, fun _ => ?_⟩
    · rw [← hpossible]
      simp only [hmerge, Bool.false_eq_true]
    · exact enable_eraseIdx hi hIon hj hJon hij hu.i_lt hm

/-- In a table of enabled routes without bits outside their netmasks, the merge of two routes is
accepted if and only if the merged table routes all original routes in their colors, and none of
those of the second route matches another color between the first route and the merged one.  The
original routes stay attached to their first matches; a merge that is not accepted changes nothing.
The rounds end. -/
theorem tryToMergeTwoRoutes_iff (h : Regular t) (hos : Attached t os) :
    (∀ {i j I J}, t[i]? = some I → t[j]? = some J → j < i → I.color = J.color →
      ∃ accepted t', tryToMergeTwoRoutes t i j I J = .ok (accepted, t') ∧
        (accepted = true ↔
          checkOriginalRoutes (addRouteInfo (disable (disable t i) j) (mergedRouteInfo I J)).2 os =
            .ok () ∧
          interruptsAnyOriginalRoute
            (addRouteInfo (disable (disable t i) j) (mergedRouteInfo I J)).2 (i + 1)
            (addRouteInfo (disable (disable t i) j) (mergedRouteInfo I J)).1
            J.originalRouteInfos = false) ∧
        (accepted = true → Attached t' os) ∧ (accepted = false → t' = t)) ∧
    ∃ t', Attached t' os ∧ tryToMergeAnyTwoRoutes t' = .ok (false, t') ∧
      ∀ rounds, t.length ≤ rounds → mergeLoop rounds t = .ok t' := by
  constructor
  · intro i j I J hi hj hij hcolor
    obtain ⟨accepted, t', hres, hiff, hspec, hsame⟩ := merge_attached h hos hi hj hij hcolor
    exact ⟨accepted, t', hres, hiff, fun hacc => (hspec hacc).1.2, hsame⟩
  · obtain ⟨t', hP, -, hend, hloop⟩ := mergeLoop_spec
      (P := fun t => Regular t ∧ Attached t os) (fun {t i j I J} hP hi hj hij hcolor => by
        obtain ⟨merged, t', hres, -, hspec, hsame⟩ := merge_attached hP.1 hP.2 hi hj hij hcolor
        exact ⟨merged, t', hres, hspec, hsame⟩) ⟨h, hos⟩
    exact ⟨t', hP.2, hend, hloop⟩

theorem attached_of_zipIdx (honce : (attached t).Perm os)
    (hfirst : ∀ p ∈ t.zipIdx, ∀ o ∈ p.1.originalRouteInfos,
      findBestMatchingRouteInfo t o.destination 0 t.length = some p.2 ∧ p.1.color = o.color) :
    Attached t os :=
  ⟨honce, fun k r hr o ho => hfirst (r, k) (mk_mem_zipIdx_iff_getElem?.2 hr) o ho⟩

/-- A host, a network around it, a network elsewhere, and a network of another color around the
first two. -/
def sampleInfos : List OriginalRouteInfo :=
  [⟨0, 0x0a000011, 0xffffffff⟩, ⟨0, 0x0a000010, 0xfffffff0⟩, ⟨0, 0x0a010000, 0xffffff00⟩,
   ⟨1, 0x0a000000, 0xfffff000⟩]

/-- A host, and a network around it that has bits outside its netmask. -/
def hostBitsInfos : List OriginalRouteInfo :=
  [⟨0, 0x0a000001, 0xffffffff⟩, ⟨0, 0x0a000002, 0xffffff00⟩]

theorem attached_sampleInfos : Attached (sampleInfos.map ofOriginal) sampleInfos :=
  attached_of_zipIdx (by decide) (by decide +kernel)

theorem regular_sampleInfos : Regular (sampleInfos.map ofOriginal) :=
  ⟨by decide, by decide, by decide⟩

/-- The host and the network around it are merged. -/
theorem tryToMergeTwoRoutes_iff_sample :
    ∃ accepted t', tryToMergeTwoRoutes (sampleInfos.map ofOriginal) 1 0
        (ofOriginal ⟨0, 0x0a000010, 0xfffffff0⟩) (ofOriginal ⟨0, 0x0a000011, 0xffffffff⟩) =
          .ok (accepted, t') ∧ (accepted = true → Attached t' sampleInfos) := by
  obtain ⟨accepted, t', hres, -, hattached, -⟩ :=
    (tryToMergeTwoRoutes_iff regular_sampleInfos attached_sampleInfos).1 (i := 1) (j := 0) rfl rfl
      (by decide) rfl
  exact ⟨accepted, t', hres, hattached⟩

/-- The destination of the host is still routed in its color after a merge with the network
elsewhere, but the merge is not accepted.  And for a route with bits outside its netmask an
assertion fails. -/
theorem not_tryToMergeTwoRoutes_iff :
    (∃ t os I J, Attached t os ∧ t[2]? = some I ∧ t[0]? = some J ∧ I.color = J.color ∧
      routesCanBeNeighbors t 2 0 = true ∧
      checkOriginalRoutes (addRouteInfo (disable (disable t 2) 0) (mergedRouteInfo I J)).2 os =
        .ok () ∧
      tryToMergeTwoRoutes t 2 0 I J = .ok (false, t)) ∧
    ∃ t os I J, Attached t os ∧ t[1]? = some I ∧ t[0]? = some J ∧ I.color = J.color ∧
      routesCanBeNeighbors t 1 0 = true ∧ tryToMergeTwoRoutes t 1 0 I J = .error .assertion := by
  refine ⟨⟨sampleInfos.map ofOriginal, sampleInfos, _, _, attached_sampleInfos, rfl, rfl, rfl,
    by decide, by decide +kernel, by decide +kernel⟩, ?_⟩
  exact ⟨hostBitsInfos.map ofOriginal, hostBitsInfos, _, _,
    attached_of_zipIdx (by decide) (by decide +kernel), rfl, rfl, rfl, by decide, by decide +kernel⟩

end IPv4NetworkConfigurator

end Hiwis
