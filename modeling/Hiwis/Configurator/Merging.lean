import Hiwis.Configurator.OriginalRoutes

/-!
# A merge keeps the original routes

Two routes are turned off, the merged route is added, the original routes of the two are attached
to the routes that now take care of them, and the merged route takes over those of the routes after
it that it matches.  The checks before a merge are what the assertions after it need.

* `IPv4NetworkConfigurator.Ok` : what holds of the table between two rounds;
* `IPv4NetworkConfigurator.Merging` : the table between the steps of a merge;
* `IPv4NetworkConfigurator.merge_spec` : a merge fails no assertion and keeps the table in order.
-/

namespace Hiwis

open List UpperBound

open IPv4Address

namespace IPv4NetworkConfigurator

variable {t t' : List RouteInfo} {r I J M : RouteInfo} {o : OriginalRouteInfo}
  {i j k m first last : ℕ}

/-! ### The order of the table -/

/-- The fields that `routeInfoLessThan` compares. -/
def key (r : OriginalRouteInfo) : ℕᵒᵈ ×ₗ ℕ :=
  toLex (OrderDual.toDual r.netmask.toNat, r.destination.toNat)

theorem routeInfoLessThan_eq (a b : RouteInfo) : routeInfoLessThan a b =
    decide (key a.toOriginalRouteInfo < key b.toOriginalRouteInfo) := by
  unfold routeInfoLessThan key
  simp only [Prod.Lex.toLex_lt_toLex, OrderDual.toDual_lt_toDual, OrderDual.toDual_inj]
  split_ifs with hmask
  · have : b.netmask.toNat ≠ a.netmask.toNat := fun h => hmask (BitVec.eq_of_toNat_eq h.symm)
    simp [this.symm]
  · rw [not_not] at hmask
    simp [hmask]

/-- A route comes before those that cover it. -/
theorem Covers.key_le {o' : OriginalRouteInfo} (h : Covers o' o)
    (ho : o.destination &&& ~~~o.netmask = 0) : key o ≤ key o' := by
  have hle : o'.netmask.toNat ≤ o.netmask.toNat := by
    rw [← h.netmask, BitVec.toNat_and]
    exact Nat.and_le_right
  unfold key
  rw [Prod.Lex.toLex_le_toLex, OrderDual.toDual_lt_toDual, OrderDual.toDual_inj]
  rcases Nat.lt_or_eq_of_le hle with hlt | heq
  · exact .inl hlt
  · have hmask : o'.netmask = o.netmask := BitVec.eq_of_toNat_eq heq
    refine .inr ⟨heq.symm, ?_⟩
    simp only
    rw [h.destination, hmask, and_eq_of_noHostBits ho]

/-- The table is sorted, and its routes are enabled and well-formed. -/
structure InOrder (t : List RouteInfo) : Prop where
  enabled : ∀ r ∈ t, r.enabled = true
  sorted : t.Pairwise fun a b => key a.toOriginalRouteInfo ≤ key b.toOriginalRouteInfo
  wellFormed : ∀ r ∈ t, WellFormed r.toOriginalRouteInfo

/-- What holds of the table between two rounds. -/
structure Ok (t : List RouteInfo) : Prop extends InOrder t where
  routed : Routed t

theorem InOrder.filter_eq (h : InOrder t) : t.filter (·.enabled) = t := filter_eq_self.2 h.enabled

theorem SameShape.forall_mem (h : SameShape t' t) {P : OriginalRouteInfo × Bool → Prop}
    (ht : ∀ r ∈ t, P r.shape) : ∀ r ∈ t', P r.shape := by
  intro r hr
  obtain ⟨k, hk⟩ := mem_iff_getElem?.1 hr
  obtain ⟨r0, hr0, hshape⟩ := h.exists_getElem? hk
  rw [← hshape]
  exact ht r0 (mem_of_getElem? hr0)

theorem SameShape.drop (h : SameShape t' t) (k : ℕ) : SameShape (t'.drop k) (t.drop k) := by
  unfold SameShape at *
  rw [map_drop, map_drop, h]

theorem SameShape.eraseIdx (h : SameShape t' t) (k : ℕ) :
    SameShape (t'.eraseIdx k) (t.eraseIdx k) := by
  unfold SameShape at *
  rw [← eraseIdx_map, ← eraseIdx_map, h]

theorem SameShape.pairwise_key (h : SameShape t' t)
    (ht : t.Pairwise fun a b => key a.toOriginalRouteInfo ≤ key b.toOriginalRouteInfo) :
    t'.Pairwise fun a b => key a.toOriginalRouteInfo ≤ key b.toOriginalRouteInfo := by
  have hmap : ∀ t : List RouteInfo,
      (t.Pairwise fun a b => key a.toOriginalRouteInfo ≤ key b.toOriginalRouteInfo) ↔
        (t.map RouteInfo.shape).Pairwise fun a b => key a.1 ≤ key b.1 := by
    intro t
    rw [pairwise_map]
    rfl
  rwa [hmap, h, ← hmap]

theorem InOrder.congr (h : InOrder t) (hshape : SameShape t' t) : InOrder t' :=
  ⟨hshape.forall_mem (P := fun s => s.2 = true) h.enabled, hshape.pairwise_key h.sorted,
    hshape.forall_mem (P := fun s => WellFormed s.1) h.wellFormed⟩

/-! ### Turning a route off -/

theorem enabled_of_disable (hr : (disable t i)[k]? = some r) (he : r.enabled = true) :
    k ≠ i ∧ t[k]? = some r := by
  unfold disable at hr
  rw [List.getElem?_modify] at hr
  split_ifs at hr with hki
  · obtain ⟨r0, -, rfl⟩ := Option.map_eq_some_iff.1 hr
    cases he
  · rw [id_map'] at hr
    exact ⟨fun h => hki h.symm, hr⟩

theorem filter_disable (hr : t[k]? = some r) : (disable t k).filter (·.enabled) =
    (t.take k).filter (·.enabled) ++ (t.drop (k + 1)).filter (·.enabled) := by
  obtain ⟨hlt, rfl⟩ := List.getElem?_eq_some_iff.1 hr
  unfold disable
  rw [modify_eq_take_cons_drop hlt, filter_append, filter_cons_of_neg (by simp)]

theorem Routed.disable (h : Routed t) (hr : t[k]? = some r) (he : r.enabled = true) :
    Routed (disable t k) := by
  unfold Routed at *
  rw [filter_disable hr]
  rw [filter_eq_split hr he] at h
  exact h.sublist ((sublist_cons_self _ _).append_left _)

theorem attached_disable (hr : t[k]? = some r) (he : r.enabled = true) :
    (attached t).Perm (attached (disable t k) ++ r.originalRouteInfos) := by
  unfold attached
  rw [filter_disable hr, filter_eq_split hr he]
  simp only [flatMap_append, flatMap_cons, append_assoc]
  exact perm_append_comm.append_left _

theorem mem_attached_disable (hr : t[k]? = some r) (he : r.enabled = true) :
    o ∈ attached t ↔ o ∈ attached (disable t k) ∨ o ∈ r.originalRouteInfos := by
  rw [(attached_disable hr he).mem_iff, mem_append]

theorem filter_eraseIdx (hr : t[k]? = some r) (he : r.enabled = false) :
    (t.eraseIdx k).filter (·.enabled) = t.filter (·.enabled) := by
  obtain ⟨hlt, rfl⟩ := List.getElem?_eq_some_iff.1 hr
  conv_rhs => rw [← take_append_drop k t, ← cons_getElem_drop_succ (h := hlt)]
  rw [eraseIdx_eq_take_drop_succ, filter_append, filter_append, filter_cons_of_neg (by simp [he])]

/-! ### One merge -/

theorem color_of_not_interrupts {os : List OriginalRouteInfo}
    (h : interruptsAnyOriginalRoute t first last os = false) (ho : o ∈ os)
    (hbest : findBestMatchingRouteInfo t o.destination first last = some k)
    (hr : t[k]? = some r) : r.color = o.color := by
  obtain ⟨-, hfirst, hlast, -⟩ := findBest_eq_some.1 hbest
  unfold interruptsAnyOriginalRoute at h
  rw [decide_eq_true (by omega : first < last), Bool.true_and, any_eq_false] at h
  have hno := h o ho
  unfold interruptsOriginalRoute at hno
  rw [hbest, Option.any_some, hr, Option.any_some] at hno
  simpa using hno

/-- The table `u` is `t` without the routes at `i` and `j`, which are turned off, and with the
merged route at `m`. -/
structure Merging (t u : List RouteInfo) (i j m : ℕ) (M : RouteInfo) : Prop where
  i_lt : i < m
  j_lt : j < m
  merged : u[m]? = some M
  enabled : M.enabled = true
  before : ∀ l < m, u[l]? = (disable (disable t i) j)[l]?
  after : u.drop (m + 1) = t.drop m
  length : u.length = t.length + 1
  sorted : u.Pairwise fun a b => key a.toOriginalRouteInfo ≤ key b.toOriginalRouteInfo
  wellFormed : ∀ r ∈ u, WellFormed r.toOriginalRouteInfo
  colors : ∀ r ∈ u, ∃ r₀ ∈ t, r₀.color = r.color

namespace Merging

variable {u : List RouteInfo} {X : RouteInfo}

variable (hu : Merging t u i j m M) (h : Ok t) (hx : k = i ∨ k = j) (hX : t[k]? = some X) (ho : o ∈ X.originalRouteInfos)
include hu h hx hX ho

/-- Before a route that is turned off no match has another color. -/
theorem color_of_lt (hl : last < k + 1) (hr : u[last]? = some r)
    (hroutes : r.routes o.destination = true) : r.color = o.color := by
  obtain ⟨henabled, hmatch⟩ := Bool.and_eq_true_iff.1 hroutes
  have hkm : k < m := by
    rcases hx with rfl | rfl
    · exact hu.i_lt
    · exact hu.j_lt
  rw [hu.before last (by omega)] at hr
  obtain ⟨hj, hr⟩ := enabled_of_disable hr henabled
  obtain ⟨hi, hr⟩ := enabled_of_disable hr henabled
  have hlt : last < k := by
    rcases hx with rfl | rfl <;> omega
  have hpair := h.routed.respects
  rw [h.filter_eq] at hpair
  obtain ⟨hllen, rfl⟩ := List.getElem?_eq_some_iff.1 hr
  obtain ⟨hklen, rfl⟩ := List.getElem?_eq_some_iff.1 hX
  exact pairwise_iff_getElem.1 hpair last k hllen hklen hlt o ho hmatch

/-- An original route of a route that is turned off goes to the merged route, or to one of the same
color before it. -/
theorem attachable (hcolor : M.color = X.color)
    (hcovers : Covers M.toOriginalRouteInfo X.toOriginalRouteInfo)
    (hbetween : ∀ l r, findBestMatchingRouteInfo u o.destination (k + 1) m = some l →
      u[l]? = some r → r.color = o.color) : Attachable u (k + 1) (m + 1) o := by
  refine ⟨fun l hl r hr hroutes => hu.color_of_lt h hx hX ho hl hr hroutes, ?_⟩
  have hkm : k < m := by
    rcases hx with rfl | rfl
    · exact hu.i_lt
    · exact hu.j_lt
  have hXt : X ∈ t.filter (·.enabled) := by
    rw [h.filter_eq]
    exact mem_of_getElem? hX
  obtain ⟨hmatch, hwant⟩ := h.routed.own X hXt o ho
  have hMroutes : M.routes o.destination = true := by
    unfold RouteInfo.routes
    rw [hu.enabled, Bool.true_and]
    exact hcovers.isMatch hmatch
  have hany : u[m]?.any (·.routes o.destination) = true := by
    rw [hu.merged, Option.any_some, hMroutes]
  have hfirst : k + 1 ≤ m := hkm
  obtain ⟨l, hl⟩ := exists_findBest hany hfirst (Nat.lt_succ_self m)
  obtain ⟨hlroutes, hle, hlast, hno⟩ := findBest_eq_some.1 hl
  rcases Nat.lt_or_eq_of_le (Nat.le_of_lt_succ hlast) with hlt | rfl
  · obtain ⟨r, hr, -⟩ := (Option.any_eq_true _ _).1 hlroutes
    have hl' := findBest_eq_some.2 ⟨hlroutes, hle, hlt, hno⟩
    exact ⟨l, r, hl, hr, hbetween l r hl' hr⟩
  · exact ⟨l, M, hl, hu.merged, hcolor.trans hwant⟩

end Merging

theorem map_disable (t : List RouteInfo) (i : ℕ) :
    (disable t i).map (·.toOriginalRouteInfo) = t.map (·.toOriginalRouteInfo) := by
  unfold disable
  exact map_modify_eq (g := fun r => r.toOriginalRouteInfo) (fun r => by rfl) i t

/-- Turned off routes do not change the order of the table. -/
theorem sorted_disable
    (h : t.Pairwise fun a b => key a.toOriginalRouteInfo ≤ key b.toOriginalRouteInfo) (i : ℕ) :
    (disable t i).Pairwise fun a b => key a.toOriginalRouteInfo ≤ key b.toOriginalRouteInfo := by
  rw [← pairwise_map (R := fun a b => key a ≤ key b)] at h ⊢
  rwa [map_disable]

theorem getElem?_insert_self (M : RouteInfo) (hm : m ≤ t.length) :
    (t.take m ++ M :: t.drop m)[m]? = some M := by
  have htake : (t.take m).length = m := by
    rw [length_take]
    omega
  rw [List.getElem?_append_right (by omega), htake, Nat.sub_self, List.getElem?_cons_zero]

theorem drop_insert (M : RouteInfo) (hm : m ≤ t.length) :
    (t.take m ++ M :: t.drop m).drop (m + 1) = t.drop m := by
  rw [append_cons, drop_left']
  rw [length_append, length_take, length_singleton]
  omega

theorem length_insert (M : RouteInfo) (hm : m ≤ t.length) :
    (t.take m ++ M :: t.drop m).length = t.length + 1 := by
  rw [length_append, length_cons, length_take, length_drop]
  omega

/-- The merged route comes after the two routes. -/
theorem merging_addRouteInfo (h : InOrder t) (hi : t[i]? = some I) (hij : j < i)
    (hI : Covers M.toOriginalRouteInfo I.toOriginalRouteInfo) (hM : M.enabled = true)
    (hwf : WellFormed M.toOriginalRouteInfo) (hcolor : I.color = M.color) :
    Merging t (addRouteInfo (disable (disable t i) j) M).2 i j
      (addRouteInfo (disable (disable t i) j) M).1 M := by
  have hmap := (map_disable (disable t i) j).trans (map_disable t i)
  have hsorted := sorted_disable (sorted_disable h.sorted i) j
  have hsorted' := pairwise_insert routeInfoLessThan_eq hsorted M
  have hmem : ∀ f ∈ UpperBound.insert routeInfoLessThan M (disable (disable t i) j),
      f = M ∨ ∃ f0 ∈ t, f0.toOriginalRouteInfo = f.toOriginalRouteInfo := by
    intro f hf
    refine (mem_insert.1 hf).imp_right fun hf => ?_
    have hf' := mem_map_of_mem (f := (·.toOriginalRouteInfo)) hf
    rw [hmap] at hf'
    exact mem_map.1 hf'
  obtain ⟨hle, -, hhigh⟩ := index_spec routeInfoLessThan_eq hsorted M
  have hlen : (disable (disable t i) j).length = t.length := by
    simp only [disable, length_modify]
  have hsame := congrArg (·[i]?) hmap
  simp only [List.getElem?_map, hi, Option.map_some] at hsame
  obtain ⟨r, hr, hrI⟩ := Option.map_eq_some_iff.1 hsame
  obtain ⟨hilt, rfl⟩ := List.getElem?_eq_some_iff.1 hr
  unfold addRouteInfo
  unfold UpperBound.insert at hsorted' hmem ⊢
  simp only
  generalize index routeInfoLessThan M (disable (disable t i) j) = m at *
  have him : i < m := by
    by_contra hcon
    have hgt := hhigh i hilt (by omega)
    rw [hrI] at hgt
    have hIM := hI.key_le (h.wellFormed I (mem_of_getElem? hi)).noHostBits
    exact absurd hIM (not_le.2 hgt)
  refine ⟨him, hij.trans him, getElem?_insert_self M hle, hM, fun l hl => ?_, ?_, ?_, hsorted',
    fun f hf => ?_, fun f hf => ?_⟩
  · rw [List.getElem?_append_left (by rw [length_take]; omega), List.getElem?_take_of_lt hl]
  · rw [drop_insert M hle]
    unfold disable
    rw [drop_modify_of_lt _ _ _ _ (hij.trans him), drop_modify_of_lt _ _ _ _ him]
  · rw [length_insert M hle, hlen]
  · rcases hmem f hf with rfl | ⟨f0, hf0, hsame⟩
    · exact hwf
    · rw [← hsame]
      exact h.wellFormed f0 hf0
  · rcases hmem f hf with rfl | ⟨f0, hf0, hsame⟩
    · exact ⟨I, mem_of_getElem? hi, hcolor⟩
    · exact ⟨f0, hf0, by rw [hsame]⟩

theorem Routed.insert (h : Routed t) (hm : m ≤ t.length) (hM : M.enabled = true)
    (hkeys : M.originalRouteInfos = [])
    (hno : interruptsSubsequentOriginalRoutes (t.take m ++ M :: t.drop m) m = false) :
    Routed (t.take m ++ M :: t.drop m) := by
  unfold Routed at *
  rw [← take_append_drop m t, filter_append] at h
  rw [filter_append, filter_cons_of_pos (by exact hM)]
  refine h.insert hkeys fun f hf o ho hmatch => ?_
  unfold interruptsSubsequentOriginalRoutes at hno
  rw [drop_insert M hm, any_eq_false] at hno
  have hself := getElem?_insert_self M hm
  have hroutes : M.routes o.destination = true := by
    unfold RouteInfo.routes
    rw [hM, Bool.true_and]
    exact hmatch
  refine color_of_not_interrupts (Bool.eq_false_iff.2 (hno f (mem_filter.1 hf).1)) ho
    (findBest_eq_some.2 ⟨?_, le_rfl, Nat.lt_succ_self m, fun l hml hlm => by omega⟩) hself
  rw [hself, Option.any_some, hroutes]

theorem attached_addRouteInfo (hM : M.originalRouteInfos = []) :
    attached (addRouteInfo t M).2 = attached t := by
  unfold attached addRouteInfo UpperBound.insert
  conv_rhs => rw [← take_append_drop (index routeInfoLessThan M t) t]
  simp only [filter_append, filter_cons, flatMap_append]
  split_ifs
  · rw [flatMap_cons, hM, nil_append]
  · rfl

theorem length_addRouteInfo : (addRouteInfo t M).2.length = t.length + 1 :=
  (insert_perm M).length_eq

/-- The table after the merged route has taken over the original routes that it matches. -/
def captured (t : List RouteInfo) (m : ℕ) (r : RouteInfo) : List RouteInfo :=
  t.take m ++
    { r with
      originalRouteInfos := r.originalRouteInfos ++ capturedRouteInfos r (t.drop (m + 1)) } ::
    (t.drop (m + 1)).map fun f =>
      { f with
        originalRouteInfos := f.originalRouteInfos.filter fun o => !r.isMatch o.destination }

theorem captureOriginalRouteInfos_eq_ok (hr : t[m]? = some r)
    (hcolor : ∀ f ∈ t.drop (m + 1), ∀ o ∈ f.originalRouteInfos, r.isMatch o.destination = true →
      r.color = o.color) : captureOriginalRouteInfos t m = .ok (captured t m r) := by
  have hcaptured : (capturedRouteInfos r (t.drop (m + 1))).all (·.color == r.color) = true := by
    rw [all_eq_true]
    intro o ho
    obtain ⟨f, hf, hof⟩ := mem_flatMap.1 ho
    obtain ⟨hof, hmatch⟩ := mem_filter.1 hof
    rw [hcolor f hf o hof hmatch, beq_self_eq_true]
  unfold captureOriginalRouteInfos
  simp only [hr]
  rw [if_pos hcaptured]
  rfl

theorem sameShape_captured (hr : t[m]? = some r) : SameShape (captured t m r) t := by
  obtain ⟨hlt, rfl⟩ := List.getElem?_eq_some_iff.1 hr
  unfold SameShape captured
  conv_rhs => rw [← take_append_drop m t, ← cons_getElem_drop_succ (h := hlt)]
  rw [map_append, map_append, map_cons, map_cons, map_map]
  rfl

theorem attached_captured (hr : t[m]? = some r) (he : r.enabled = true)
    (hafter : ∀ f ∈ t.drop (m + 1), f.enabled = true) :
    (attached (captured t m r)).Perm (attached t) := by
  have hafter' := filter_eq_self.2 hafter
  unfold attached captured
  rw [filter_eq_split hr he, filter_append, filter_cons_of_pos (by exact he), filter_map]
  simp only [flatMap_append, flatMap_cons, append_assoc, flatMap_map]
  refine (List.Perm.append_left _ ?_).append_left _
  unfold capturedRouteInfos
  have hcomp : (fun f : RouteInfo => f.enabled) ∘ (fun f : RouteInfo =>
      { f with
        originalRouteInfos := f.originalRouteInfos.filter fun o => !r.isMatch o.destination }) =
      fun f => f.enabled := rfl
  rw [hcomp, hafter']
  refine (flatMap_append_perm _ _ _).trans (List.Perm.flatMap_left _ fun f _ => ?_)
  exact filter_append_perm _ _

/-- The merged route takes over the original routes that it matches from the routes after it. -/
theorem captureOriginalRouteInfos_spec (h : Routed t) (hr : t[m]? = some r)
    (he : r.enabled = true) (hafter : ∀ f ∈ t.drop (m + 1), f.enabled = true) :
    ∃ t', captureOriginalRouteInfos t m = .ok t' ∧ SameShape t' t ∧ Routed t' ∧
      ∀ o ∈ attached t, o ∈ attached t' := by
  have hsound : Routed t := h
  unfold Routed at hsound
  rw [filter_eq_split hr he] at hsound
  have hafter' := filter_eq_self.2 hafter
  refine ⟨captured t m r, captureOriginalRouteInfos_eq_ok hr fun f hf o hof hmatch => ?_,
    sameShape_captured hr, ?_, fun o => (attached_captured hr he hafter).mem_iff.2⟩
  · rw [← hafter'] at hf
    have hpair := (pairwise_append.1 hsound.respects).2.1
    exact (pairwise_cons.1 hpair).1 f hf o hof hmatch
  · unfold Routed captured
    rw [filter_append, filter_cons_of_pos (by exact he), filter_map, append_cons]
    refine MatchTable.Sound.detach ?_ (fun _ => ⟨fun _ => rfl, rfl⟩) fun f => filter_sublist.subset
    rw [← append_cons]
    refine hsound.capture ⟨fun _ => rfl, rfl⟩ fun o ho => ?_
    rcases mem_append.1 ho with hold | hcap
    · exact .inl hold
    · obtain ⟨f, hf, hof⟩ := mem_flatMap.1 hcap
      obtain ⟨hof, hmatch⟩ := mem_filter.1 hof
      rw [← hafter'] at hf
      exact .inr ⟨hmatch, f, hf, hof⟩

theorem exists_disable (hlt : k < t.length) :
    ∃ r, (disable t k)[k]? = some r ∧ r.enabled = false := by
  unfold disable
  rw [List.getElem?_modify_eq, List.getElem?_eq_getElem hlt]
  exact ⟨_, rfl, rfl⟩

theorem disable_getElem?_ne (h : k ≠ i) : (disable t i)[k]? = t[k]? :=
  List.getElem?_modify_ne _ _ h.symm

namespace Merging

variable {u v : List RouteInfo}

variable (hu : Merging t u i j m M)
include hu

theorem off (hk : k = i ∨ k = j) (hij : j < i) (hi : i < t.length) :
    ∃ r, u[k]? = some r ∧ r.enabled = false := by
  have hlen : (disable t i).length = t.length := by
    simp only [disable, length_modify]
  rcases hk with rfl | rfl
  · rw [hu.before k hu.i_lt, disable_getElem?_ne (by omega)]
    exact exists_disable hi
  · rw [hu.before k hu.j_lt]
    exact exists_disable (by omega)

theorem enabled_of_ne (h : InOrder t) (hi : k ≠ i) (hj : k ≠ j) (hr : u[k]? = some r) :
    r.enabled = true := by
  rcases Nat.lt_trichotomy k m with hlt | rfl | hgt
  · rw [hu.before k hlt, disable_getElem?_ne hj, disable_getElem?_ne hi] at hr
    exact h.enabled r (mem_of_getElem? hr)
  · rw [hu.merged] at hr
    rw [← Option.some.inj hr]
    exact hu.enabled
  · have hdrop : (u.drop (m + 1))[k - (m + 1)]? = some r := by
      rw [List.getElem?_drop, Nat.add_sub_cancel' hgt, hr]
    rw [hu.after] at hdrop
    exact h.enabled r (mem_of_mem_drop (mem_of_getElem? hdrop))

theorem routed_insert (hadd : addRouteInfo (disable (disable t i) j) M = (m, u))
    (h : Routed (disable (disable t i) j)) (hkeys : M.originalRouteInfos = [])
    (hno : interruptsSubsequentOriginalRoutes u m = false) :
    Routed u ∧ attached u = attached (disable (disable t i) j) := by
  cases hadd
  have hlen : (disable (disable t i) j).length = t.length := by
    simp only [disable, length_modify]
  have hm := (List.getElem?_eq_some_iff.1 hu.merged).1
  rw [hu.length] at hm
  exact ⟨h.insert (by omega) hu.enabled hkeys hno, attached_addRouteInfo hkeys⟩

theorem inOrder_eraseIdx (h : InOrder t) (hij : j < i) : InOrder ((u.eraseIdx i).eraseIdx j) := by
  have hsub : ((u.eraseIdx i).eraseIdx j).Sublist u :=
    (eraseIdx_sublist _ _).trans (eraseIdx_sublist _ _)
  refine ⟨fun r hr => ?_, hu.sorted.sublist hsub, fun r hr => hu.wellFormed r (hsub.subset hr)⟩
  obtain ⟨l, hlj, hl⟩ := mem_eraseIdx_iff_getElem?.1 hr
  rw [List.getElem?_eraseIdx] at hl
  split_ifs at hl with hli
  · exact hu.enabled_of_ne h (by omega) hlj hl
  · exact hu.enabled_of_ne h (by omega) (by omega) hl

/-- The two routes are removed when the original routes have been moved. -/
theorem ok_eraseIdx (h : InOrder t) (hij : j < i) (hi : i < t.length) (hv : SameShape v u)
    (hrouted : Routed v) :
    Ok ((v.eraseIdx i).eraseIdx j) ∧ ((v.eraseIdx i).eraseIdx j).length + 1 = t.length ∧
      attached ((v.eraseIdx i).eraseIdx j) = attached v ∧
      ∀ r ∈ (v.eraseIdx i).eraseIdx j, ∃ r0 ∈ t, r0.color = r.color := by
  have hoff : ∀ k, k = i ∨ k = j → ∃ r, v[k]? = some r ∧ r.enabled = false := by
    intro k hk
    obtain ⟨r, hr, hroff⟩ := hu.off hk hij hi
    have huv : SameShape u v := hv.symm
    obtain ⟨r', hr', hshape⟩ := huv.exists_getElem? hr
    exact ⟨r', hr', by rw [(Prod.mk.inj hshape).2, hroff]⟩
  obtain ⟨rI, hrI, hIoff⟩ := hoff i (.inl rfl)
  obtain ⟨rJ, hrJ, hJoff⟩ := hoff j (.inr rfl)
  have hrJ' : (v.eraseIdx i)[j]? = some rJ := by
    rw [List.getElem?_eraseIdx_of_lt hij, hrJ]
  have hfilter : ((v.eraseIdx i).eraseIdx j).filter (·.enabled) = v.filter (·.enabled) := by
    rw [filter_eraseIdx hrJ' hJoff, filter_eraseIdx hrI hIoff]
  have hlen : v.length = t.length + 1 := hv.length_eq.trans hu.length
  refine ⟨⟨(hu.inOrder_eraseIdx h hij).congr ((hv.eraseIdx i).eraseIdx j), ?_⟩, ?_, ?_,
    fun r hr => ?_⟩
  · unfold Routed at *
    rwa [hfilter]
  · rw [length_eraseIdx_of_lt (by rw [length_eraseIdx_of_lt (by omega)]; omega),
      length_eraseIdx_of_lt (by omega)]
    omega
  · unfold attached
    rw [hfilter]
  · exact hv.forall_mem (P := fun s => ∃ r0 ∈ t, r0.color = s.1.color) hu.colors r
      (mem_of_mem_eraseIdx (mem_of_mem_eraseIdx hr))

end Merging

theorem enable_disable (hr : t[k]? = some r) (he : r.enabled = true) :
    enable (disable t k) k = t := by
  obtain ⟨hlt, rfl⟩ := List.getElem?_eq_some_iff.1 hr
  unfold enable disable
  rw [modify_modify_eq, modify_eq_take_cons_drop hlt]
  conv_rhs => rw [← take_append_drop k t, ← cons_getElem_drop_succ (h := hlt)]
  simp only [Function.comp_apply, ← he]

theorem eraseIdx_insert (hm : m ≤ t.length) : (t.take m ++ M :: t.drop m).eraseIdx m = t := by
  have hlen : (t.take m).length = m := by
    rw [length_take]
    omega
  rw [eraseIdx_append_of_length_le hlen.le, hlen, Nat.sub_self, eraseIdx_cons_zero,
    take_append_drop]

/-- When the merged route is removed and the two routes are turned on again, the table is the old
one. -/
theorem enable_eraseIdx (hi : t[i]? = some I) (hI : I.enabled = true) (hj : t[j]? = some J)
    (hJ : J.enabled = true) (hij : j < i) (him : i < m) (hm : m ≤ t.length) :
    (enable (enable ((disable (disable t i) j).take m ++ M :: (disable (disable t i) j).drop m) i)
      j).eraseIdx m = t := by
  have hlen : m ≤ (disable (disable t i) j).length := by
    simp only [disable, length_modify]
    exact hm
  unfold enable
  rw [← modify_eraseIdx_of_lt _ _ _ _ (hij.trans him),
    ← modify_eraseIdx_of_lt _ _ _ _ him, eraseIdx_insert hlen]
  -- the routes are turned on in the other order
  have hcomm : (disable (disable t i) j).modify i (fun r => { r with enabled := true }) =
      disable (enable (disable t i) i) j := modify_modify_ne _ _ _ hij.ne
  rw [hcomm, enable_disable hi hI]
  exact enable_disable hj hJ

/-- A merge of two routes of the same color fails no assertion.  When it is possible, the table
stays in order, gets shorter, and takes care of the same original routes.  Otherwise the table is
the old one. -/
theorem merge_spec (h : Ok t) (hi : t[i]? = some I) (hj : t[j]? = some J) (hij : j < i)
    (hcolor : I.color = J.color) :
    ∃ merged t', tryToMergeTwoRoutes t i j I J = .ok (merged, t') ∧
      (merged = true → Ok t' ∧ t'.length + 1 = t.length ∧ (∀ o ∈ attached t, o ∈ attached t') ∧
        ∀ r ∈ t', ∃ r0 ∈ t, r0.color = r.color) ∧
      (merged = false → t' = t) := by
  obtain ⟨hcovI, hcovJ, hwf⟩ := mergedRouteInfo_spec I J
  have hilt := (List.getElem?_eq_some_iff.1 hi).1
  have hIon := h.enabled I (mem_of_getElem? hi)
  have hJon := h.enabled J (mem_of_getElem? hj)
  have hu := merging_addRouteInfo h.toInOrder hi hij hcovI rfl hwf rfl
  have hJ1 : (disable t i)[j]? = some J := by
    rw [disable_getElem?_ne (by omega), hj]
  have hrouted := (h.routed.disable hi hIon).disable hJ1 hJon
  have hattached : ∀ o ∈ attached t, o ∈ attached (disable (disable t i) j) ∨
      o ∈ J.originalRouteInfos ∨ o ∈ I.originalRouteInfos := by
    intro o ho
    rw [mem_attached_disable hi hIon, mem_attached_disable hJ1 hJon] at ho
    tauto
  unfold tryToMergeTwoRoutes
  rcases hadd : addRouteInfo (disable (disable t i) j) (mergedRouteInfo I J) with ⟨m, u⟩
  rw [hadd] at hu
  simp only
  rw [if_neg (not_not.2 ⟨hu.i_lt, hu.j_lt⟩)]
  by_cases hpossible : mergeIsPossible u i j m I J = true
  · rw [if_pos hpossible]
    unfold mergeIsPossible at hpossible
    simp only [Bool.and_eq_true, Bool.not_eq_true'] at hpossible
    obtain ⟨⟨⟨hJi, hJm⟩, hIm⟩, hsubsequent⟩ := hpossible
    obtain ⟨hrouted2, hattached2⟩ := hu.routed_insert hadd hrouted rfl hsubsequent
    -- the original routes of the two routes
    have hI : ∀ o ∈ I.originalRouteInfos, Attachable u (i + 1) (m + 1) o := fun o ho =>
      hu.attachable h (.inl rfl) hi ho rfl hcovI fun l r hl hr =>
        color_of_not_interrupts hIm ho hl hr
    have hJ : ∀ o ∈ J.originalRouteInfos, Attachable u (j + 1) (m + 1) o := by
      intro o ho
      refine hu.attachable h (.inr rfl) hj ho hcolor hcovJ fun l r hl hr => ?_
      rcases Nat.lt_trichotomy l i with hlt | rfl | hgt
      · exact color_of_not_interrupts hJi ho (findBest_of_lt hl hlt) hr
      · -- the other route is turned off
        obtain ⟨r', hr', hoff⟩ := hu.off (.inl rfl) hij hilt
        have hroutes := (findBest_eq_some.1 hl).1
        rw [hr', Option.any_some] at hroutes
        rw [(Bool.and_eq_true_iff.1 hroutes).1] at hoff
        cases hoff
      · exact color_of_not_interrupts hJm ho (findBest_of_le hl (by omega) hgt) hr
    obtain ⟨u3, hadd3, hshape3, hrouted3, hattached3⟩ :=
      addOriginalRouteInfos_spec I.originalRouteInfos hrouted2 hI
    obtain ⟨u4, hadd4, hshape4, hrouted4, hattached4⟩ :=
      addOriginalRouteInfos_spec J.originalRouteInfos hrouted3 fun o ho => (hJ o ho).congr hshape3
    have hshape : SameShape u4 u := hshape4.trans hshape3
    -- the original routes of the routes after the merged one
    have hshape' : SameShape u u4 := hshape.symm
    obtain ⟨r, hr, hrM⟩ := hshape'.exists_getElem? hu.merged
    have hafter : ∀ f ∈ u4.drop (m + 1), f.enabled = true := by
      refine (hshape.drop (m + 1)).forall_mem (P := fun s => s.2 = true) ?_
      rw [hu.after]
      exact fun f hf => h.enabled f (mem_of_mem_drop hf)
    obtain ⟨u5, hcapture, hshape5, hrouted5, hattached5⟩ := captureOriginalRouteInfos_spec hrouted4
      hr ((Prod.mk.inj hrM).2.trans hu.enabled) hafter
    obtain ⟨hok, hlen, hattached6, hcolors⟩ := hu.ok_eraseIdx h.toInOrder hij hilt (hshape5.trans hshape)
      hrouted5
    refine ⟨true, (u5.eraseIdx i).eraseIdx j, ?_, fun _ => ?_, nofun⟩
    · simp only [hadd3, hadd4, hcapture, bind, Except.bind]
      rfl
    · refine ⟨hok, hlen, fun o ho => ?_, hcolors⟩
      rw [hattached6]
      refine hattached5 o ((hattached4 o).2 ?_)
      rw [hattached3]
      rcases hattached o ho with ho | ho | ho
      · exact .inl (.inl (hattached2 ▸ ho))
      · exact .inr ho
      · exact .inl (.inr ho)
  · rw [if_neg hpossible]
    cases hadd
    have hm := (List.getElem?_eq_some_iff.1 hu.merged).1
    rw [hu.length] at hm
    refine ⟨false, _, rfl, nofun, fun _ => ?_⟩
    exact enable_eraseIdx hi hIon hj hJon hij hu.i_lt (by omega)

end IPv4NetworkConfigurator

end Hiwis
