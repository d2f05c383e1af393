import Hiwis.Ipv4.RouteIds
import Hiwis.Lib.Ensures
import Hiwis.Rip.RIPRouting

/-!
# What the operations of the RIP module do

An operation of `RIPRouting` changes at most one RIP route on purpose.  The other ones stay as they
are, or become invalid because the IPv4 routing table has lost the route that they point to.

* `RIPRouting.updated_updateRoute`, `RIPRouting.appended_addRoute` : a response is processed;
* `RIPRouting.weakened_sendRoutesOn` : routes are sent, and expire.
-/

namespace Hiwis

open List Function

open IPv4Address

/-! ### RIP routes -/

namespace RIPRoute

/-- The route `r'` is `r`, apart from its time stamp, its tag and its flag, or is `r` made
invalid. -/
structure Weaker (r' r : RIPRoute) : Prop where
  type : r'.type = r.type
  dest : r'.dest = r.dest
  prefixLength : r'.prefixLength = r.prefixLength
  nextHop : r'.nextHop = r.nextHop
  ie : r'.ie = r.ie
  fromAddr : r'.fromAddr = r.fromAddr
  metric : r'.metric = r.metric ∧ r'.route = r.route ∨
    r'.metric = ripInfiniteMetric ∧ r'.route = none

theorem Weaker.refl (r : RIPRoute) : r.Weaker r := ⟨rfl, rfl, rfl, rfl, rfl, rfl, .inl ⟨rfl, rfl⟩⟩

theorem Weaker.trans {r'' r' r : RIPRoute} (h : r''.Weaker r') (h' : r'.Weaker r) :
    r''.Weaker r where
  type := h.type.trans h'.type
  dest := h.dest.trans h'.dest
  prefixLength := h.prefixLength.trans h'.prefixLength
  nextHop := h.nextHop.trans h'.nextHop
  ie := h.ie.trans h'.ie
  fromAddr := h.fromAddr.trans h'.fromAddr
  metric := by
    rcases h.metric with ⟨hm, hr⟩ | hinf
    · rw [hm, hr]
      exact h'.metric
    · exact .inr hinf

theorem weaker_invalid (r : RIPRoute) : r.invalid.Weaker r :=
  ⟨rfl, rfl, rfl, rfl, rfl, rfl, .inr ⟨rfl, rfl⟩⟩

@[simp] theorem invalid_route (r : RIPRoute) : r.invalid.route = none := rfl

@[simp] theorem invalid_metric (r : RIPRoute) : r.invalid.metric = ripInfiniteMetric := rfl

end RIPRoute

namespace RIPRouting

open RoutingTable (ids SetField)

variable {s s' s'' : RIPRouting} {k : ℕ} {r : RIPRoute} {rt : RoutingTable}

/-! ### The notifications of deleted routes -/

/-- The RIP route points to an IPv4 route that is not the module's own and is not in the table
`rt` any more. -/
def loses (s : RIPRouting) (rt : RoutingTable) (r : RIPRoute) : Bool :=
  (s.rt.ids.filter fun i => !rt.routes.any (·.id == i)).any fun i =>
    s.source i != .rip && r.route == some i

theorem foldl_routeDeleted (l : List ℕ) (s : RIPRouting) :
    l.foldl routeDeleted s =
      { s with
        ripRoutes := s.ripRoutes.map fun r =>
          if l.any fun i => s.source i != .rip && r.route == some i then r.invalid else r } := by
  induction l generalizing s with
  | nil => simp
  | cons i l ih =>
    rw [foldl_cons, ih]
    unfold routeDeleted
    split_ifs with hi
    · simp [hi]
    · simp only [map_map, RIPRouting.mk.injEq, true_and, and_true]
      refine map_congr_left fun r _ => ?_
      simp only [Function.comp, any_cons]
      by_cases hr : r.route = some i
      · simp [hr, hi]
      · simp [hr]

theorem tableChanged_eq (s : RIPRouting) (rt : RoutingTable) :
    s.tableChanged rt =
      { s with
        rt, ripRoutes := s.ripRoutes.map fun r => if s.loses rt r then r.invalid else r } :=
  foldl_routeDeleted _ _

theorem loses_iff : s.loses rt r = true ↔
    ∃ x ∈ s.rt.routes, s.source x.id ≠ .rip ∧ r.route = some x.id ∧ x.id ∉ rt.ids := by
  unfold loses
  simp only [any_eq_true, mem_filter, RoutingTable.mem_ids, Bool.not_eq_true',
    any_eq_false, beq_iff_eq, Bool.and_eq_true, bne_iff_ne]
  constructor
  · rintro ⟨i, ⟨⟨x, hx, rfl⟩, hlost⟩, hsource, hroute⟩
    exact ⟨x, hx, hsource, hroute, fun ⟨y, hy, hid⟩ => hlost y hy hid⟩
  · rintro ⟨x, hx, hsource, hroute, hlost⟩
    exact ⟨x.id, ⟨⟨x, hx, rfl⟩, fun y hy hid => hlost ⟨y, hy, hid⟩⟩, hsource, hroute⟩

@[simp] theorem tableChanged_rt : (s.tableChanged rt).rt = rt := by rw [tableChanged_eq]

@[simp] theorem tableChanged_source : (s.tableChanged rt).source = s.source := by
  rw [tableChanged_eq]

@[simp] theorem tableChanged_nextId : (s.tableChanged rt).nextId = s.nextId := by
  rw [tableChanged_eq]

@[simp] theorem tableChanged_ripInterfaces :
    (s.tableChanged rt).ripInterfaces = s.ripInterfaces := by rw [tableChanged_eq]

@[simp] theorem tableChanged_simTime : (s.tableChanged rt).simTime = s.simTime := by
  rw [tableChanged_eq]

@[simp] theorem tableChanged_subscribed : (s.tableChanged rt).subscribed = s.subscribed := by
  rw [tableChanged_eq]

theorem getElem?_tableChanged (hk : s.ripRoutes[k]? = some r)
    (hown : ∀ i, r.route = some i → s.source i = .rip) :
    (s.tableChanged rt).ripRoutes[k]? = some r := by
  rw [tableChanged_eq]
  simp only [getElem?_map, hk, Option.map_some, Option.some.injEq]
  refine if_neg fun h => ?_
  obtain ⟨x, -, hsource, hroute, -⟩ := loses_iff.1 h
  exact hsource (hown _ hroute)

theorem getElem?_modifyRoute (hk : s.ripRoutes[k]? = some r) (f : RIPRoute → RIPRoute) :
    (s.modifyRoute k f).ripRoutes[k]? = some (f r) := by
  simp [modifyRoute, hk]

/-! ### Effects -/

/-- The identities of the IPv4 routes are distinct, and none of them will be taken again. -/
structure KernelOk (s : RIPRouting) : Prop where
  lt : ∀ i ∈ s.rt.ids, i < s.nextId
  nodup : s.rt.ids.Nodup

theorem KernelOk.of_subperm (hs : KernelOk s) (hids : s'.rt.ids.Subperm s.rt.ids)
    (hle : s.nextId ≤ s'.nextId) : KernelOk s' := by
  refine ⟨fun i hi => (hs.lt i (hids.subset hi)).trans_le hle, ?_⟩
  obtain ⟨l, hperm, hsub⟩ := hids
  exact hperm.nodup_iff.1 (hsub.nodup hs.nodup)

/-- The table gets a route with a new identity. -/
theorem KernelOk.of_subperm_cons (hs : KernelOk s)
    (hids : s'.rt.ids.Subperm (s.nextId :: s.rt.ids)) (hlt : s.nextId < s'.nextId) :
    KernelOk s' := by
  have hnew : s.nextId ∉ s.rt.ids := fun h => lt_irrefl _ (hs.lt _ h)
  refine ⟨fun i hi => ?_, ?_⟩
  · rcases mem_cons.1 (hids.subset hi) with rfl | hi
    · exact hlt
    · exact (hs.lt i hi).trans hlt
  · obtain ⟨l, hperm, hsub⟩ := hids
    exact hperm.nodup_iff.1 (hsub.nodup (nodup_cons.2 ⟨hnew, hs.nodup⟩))

/-- Every IPv4 route of the module has passed the checks, and a new identity is new. -/
structure OwnAccepted (s : RIPRouting) : Prop where
  lt : ∀ x ∈ s.rt.routes, x.id < s.nextId
  accepted : ∀ x ∈ s.rt.routes, s.source x.id = .rip → x.Accepted

theorem KernelOk.ownAccepted (hs : KernelOk s)
    (h : ∀ x ∈ s.rt.routes, s.source x.id = .rip → x.Accepted) : OwnAccepted s :=
  ⟨fun _ hx => hs.lt _ (RoutingTable.id_mem_ids hx), h⟩

/-- Operations that leave the interfaces and the clock alone lead from the one state to the
other. -/
structure Env (s s' : RIPRouting) : Prop where
  kernelOk : KernelOk s'
  ownAccepted : OwnAccepted s → OwnAccepted s'
  nextId_le : s.nextId ≤ s'.nextId
  source : ∀ i < s.nextId, s'.source i = s.source i
  ripInterfaces : s'.ripInterfaces = s.ripInterfaces
  simTime : s'.simTime = s.simTime
  subscribed : s'.subscribed = s.subscribed

theorem Env.refl (hs : KernelOk s) : Env s s := ⟨hs, id, le_rfl, fun _ _ => rfl, rfl, rfl, rfl⟩

theorem Env.trans (h : Env s s') (h' : Env s' s'') : Env s s'' where
  kernelOk := h'.kernelOk
  ownAccepted := h'.ownAccepted ∘ h.ownAccepted
  nextId_le := h.nextId_le.trans h'.nextId_le
  source i hi := (h'.source i (hi.trans_le h.nextId_le)).trans (h.source i hi)
  ripInterfaces := h'.ripInterfaces.trans h.ripInterfaces
  simTime := h'.simTime.trans h.simTime
  subscribed := h'.subscribed.trans h.subscribed

/-- Only the RIP route `k` has been changed on purpose.  Among the IPv4 routes of others those with
the property `lost` may have been lost, and the RIP routes that point to them are invalid then. -/
structure Effect (lost : IPv4Route → Prop) (k : ℕ) (s s' : RIPRouting) : Prop extends Env s s' where
  length : s'.ripRoutes.length = s.ripRoutes.length
  others : ∀ j ≠ k, ∀ r', s'.ripRoutes[j]? = some r' →
    ∃ r, s.ripRoutes[j]? = some r ∧ r'.Weaker r ∧
      (r'.route = r.route ∨ ∃ x ∈ s.rt.routes, lost x ∧ s.source x.id ≠ .rip ∧ r.route = some x.id)
  old : ∀ x ∈ s'.rt.routes, s'.source x.id = .rip ∨ x ∈ s.rt.routes
  kept : ∀ x ∈ s.rt.routes, s.source x.id ≠ .rip → ¬lost x → x ∈ s'.rt.routes

section Effect

variable {lost : IPv4Route → Prop}

theorem Effect.refl (hs : KernelOk s) (k : ℕ) : Effect lost k s s :=
  ⟨.refl hs, rfl, fun _ _ r hr => ⟨r, hr, .refl r, .inl rfl⟩, fun _ hx => .inr hx,
    fun _ hx _ _ => hx⟩

theorem Effect.trans (hs : KernelOk s) (h : Effect lost k s s') (h' : Effect lost k s' s'') :
    Effect lost k s s'' where
  toEnv := h.toEnv.trans h'.toEnv
  length := h'.length.trans h.length
  others j hj r'' hr'' := by
    obtain ⟨r', hr', hweak', hroute'⟩ := h'.others j hj r'' hr''
    obtain ⟨r, hr, hweak, hroute⟩ := h.others j hj r' hr'
    refine ⟨r, hr, hweak'.trans hweak, ?_⟩
    rcases hroute with hroute | hlost
    · rcases hroute' with hroute' | ⟨x, hx, hxlost, hsource, hxr⟩
      · exact .inl (hroute'.trans hroute)
      · rcases h.old x hx with hrip | hx
        · exact absurd hrip hsource
        · rw [h.source x.id (hs.lt _ (RoutingTable.id_mem_ids hx))] at hsource
          exact .inr ⟨x, hx, hxlost, hsource, hroute ▸ hxr⟩
    · exact .inr hlost
  old x hx := by
    rcases h'.old x hx with hrip | hx
    · exact .inl hrip
    · refine (h.old x hx).imp_left fun hrip => ?_
      rw [h'.source x.id (h.kernelOk.lt _ (RoutingTable.id_mem_ids hx)), hrip]
  kept x hx hsource hlost := by
    refine h'.kept x (h.kept x hx hsource hlost) ?_ hlost
    rwa [h.source x.id (hs.lt _ (RoutingTable.id_mem_ids hx))]

theorem effect_modifyRoute (hs : KernelOk s) (k : ℕ) (f : RIPRoute → RIPRoute) :
    Effect lost k s (s.modifyRoute k f) where
  toEnv := ⟨⟨hs.lt, hs.nodup⟩, fun h => ⟨h.lt, h.accepted⟩, le_rfl, fun _ _ => rfl, rfl, rfl, rfl⟩
  length := by simp [modifyRoute]
  others j hj r' hr' := by
    refine ⟨r', ?_, .refl r', .inl rfl⟩
    simpa [modifyRoute, getElem?_modify, hj.symm] using hr'
  old _ hx := .inr hx
  kept _ hx _ _ := hx

theorem env_newRoute (hs : KernelOk s) (source : RouteSource) : Env s (s.newRoute source) where
  kernelOk := ⟨fun i hi => (hs.lt i hi).trans (Nat.lt_succ_self _), hs.nodup⟩
  ownAccepted h := by
    refine ⟨fun x hx => (h.lt x hx).trans (Nat.lt_succ_self _), fun x hx hsource => ?_⟩
    exact h.accepted x hx ((update_of_ne (h.lt x hx).ne _ _).symm.trans hsource)
  nextId_le := Nat.le_succ _
  source _ hi := update_of_ne hi.ne _ _
  ripInterfaces := rfl
  simTime := rfl
  subscribed := rfl

theorem effect_newRoute (hs : KernelOk s) (k : ℕ) : Effect lost k s (s.newRoute .rip) where
  toEnv := env_newRoute hs .rip
  length := rfl
  others _ _ r' hr' := ⟨r', hr', .refl r', .inl rfl⟩
  old _ hx := .inr hx
  kept _ hx _ _ := hx

theorem env_tableChanged (hs : KernelOk { s with rt })
    (hacc : OwnAccepted s → ∀ x ∈ rt.routes, s.source x.id = .rip → x.Accepted) :
    Env s (s.tableChanged rt) where
  kernelOk := ⟨by simpa using hs.lt, by simpa using hs.nodup⟩
  ownAccepted h := by
    have h' := hs.ownAccepted (hacc h)
    exact ⟨by simpa using h'.lt, by simpa using h'.accepted⟩
  nextId_le := by simp
  source := by simp
  ripInterfaces := by simp
  simTime := by simp
  subscribed := by simp

theorem effect_tableChanged (hs : KernelOk { s with rt }) (k : ℕ)
    (hacc : OwnAccepted s → ∀ x ∈ rt.routes, s.source x.id = .rip → x.Accepted)
    (hold : ∀ x ∈ rt.routes, s.source x.id = .rip ∨ x ∈ s.rt.routes)
    (hkept : ∀ x ∈ s.rt.routes, s.source x.id ≠ .rip → ¬lost x → x ∈ rt.routes) :
    Effect lost k s (s.tableChanged rt) where
  toEnv := env_tableChanged hs hacc
  length := by simp [tableChanged_eq]
  others j _ r' hr' := by
    rw [tableChanged_eq] at hr'
    simp only [getElem?_map, Option.map_eq_some_iff] at hr'
    obtain ⟨r, hr, rfl⟩ := hr'
    refine ⟨r, hr, ?_⟩
    split_ifs with hlost
    · refine ⟨r.weaker_invalid, .inr ?_⟩
      obtain ⟨x, hx, hsource, hroute, hgone⟩ := loses_iff.1 hlost
      refine ⟨x, hx, ?_, hsource, hroute⟩
      by_contra hnot
      exact hgone (RoutingTable.id_mem_ids (hkept x hx hsource hnot))
    · exact ⟨.refl r, .inl rfl⟩
  old x hx := by simpa using hold x (by simpa using hx)
  kept x hx hsource hlost := by simpa using hkept x hx hsource hlost

theorem effect_deleteRoute (hs : KernelOk s) {i : ℕ} (k : ℕ)
    (hlost : ∀ x ∈ s.rt.routes, i = x.id → s.source x.id ≠ .rip → lost x) :
    Effect lost k s (s.deleteRoute i) := by
  have hids := (RoutingTable.ids_removeRoute s.rt i).subperm
  unfold deleteRoute
  refine effect_tableChanged (hs.of_subperm hids le_rfl) k ?_ ?_ ?_
  · exact fun h x hx => h.accepted x ((RoutingTable.removeRoute_routes_sublist s.rt i).subset hx)
  · exact fun x hx => .inr ((RoutingTable.removeRoute_routes_sublist s.rt i).subset hx)
  · intro x hx hsource hnot
    exact RoutingTable.mem_removeRoute_of_ne hx fun hid => hnot (hlost x hx hid.symm hsource)

theorem dropRoute_of_none (hk : s.ripRoutes[k]? = some r) (hroute : r.route = none) :
    s.dropRoute k = s := by
  unfold dropRoute
  rw [hk]
  simp only [hroute]

theorem dropRoute_of_some (hk : s.ripRoutes[k]? = some r) {i : ℕ} (hroute : r.route = some i) :
    s.dropRoute k = (s.modifyRoute k fun r => { r with route := none }).deleteRoute i := by
  unfold dropRoute
  rw [hk]
  simp only [hroute]

section

variable (hs : KernelOk s) (hk : s.ripRoutes[k]? = some r) (hlost : ∀ x ∈ s.rt.routes, r.route = some x.id → s.source x.id ≠ .rip → lost x)
include hs hk hlost

theorem effect_dropRoute :
    Effect lost k s (s.dropRoute k) ∧
      (s.dropRoute k).ripRoutes[k]? = some { r with route := none } := by
  cases hroute : r.route with
  | none =>
    rw [dropRoute_of_none hk hroute, hk, ← hroute]
    exact ⟨.refl hs k, rfl⟩
  | some i =>
    rw [dropRoute_of_some hk hroute]
    have hmod : Effect lost k s _ := effect_modifyRoute hs k fun r => { r with route := none }
    refine ⟨hmod.trans hs (effect_deleteRoute hmod.kernelOk k ?_), ?_⟩
    · intro x hx hid hsource
      exact hlost x hx (hid ▸ hroute) hsource
    · exact getElem?_tableChanged (getElem?_modifyRoute hk _) nofun

theorem effect_invalidateRoute :
    Effect lost k s (s.invalidateRoute k) ∧
      (s.invalidateRoute k).ripRoutes[k]? = some r.invalid := by
  obtain ⟨hdrop, hk'⟩ := effect_dropRoute hs hk hlost
  exact ⟨hdrop.trans hs (effect_modifyRoute hdrop.kernelOk k _), getElem?_modifyRoute hk' _⟩

end

/-! ### Setters and new routes -/

/-- No assertion fails, and what is returned has the property. -/
abbrev Safe {α : Type} (P : α → Prop) (x : Except RIPFault α) : Prop := x.Ensures (· ≠ .assertion) P

/-- The masks of the IPv4 routes are as they were. -/
def SameMasks (s s' : RIPRouting) : Prop :=
  ∀ x ∈ s'.rt.routes, ∃ y ∈ s.rt.routes, y.id = x.id ∧ y.netmask = x.netmask

/-- What is asked of a RIP route that is changed: the IPv4 route that it points to may be lost when
it is one of others, and when it is a default route, then all default routes may be lost. -/
structure Changeable (lost : IPv4Route → Prop) (s : RIPRouting) (r : RIPRoute) : Prop where
  lt : ∀ i, r.route = some i → i < s.nextId
  own : r.type = .rte → ∀ i, r.route = some i → s.source i = .rip
  pointer : ∀ x ∈ s.rt.routes, r.route = some x.id → s.source x.id ≠ .rip → lost x
  default : ∀ y ∈ s.rt.routes, r.route = some y.id → y.netmask = 0 →
    ∀ x : IPv4Route, x.netmask = 0 → lost x

theorem Changeable.of_effect (h : Changeable lost s r) (hs : KernelOk s) (he : Effect lost k s s')
    (hmasks : SameMasks s s') {r' : RIPRoute} (hroute : r'.route = r.route)
    (htype : r'.type = r.type) : Changeable lost s' r' where
  lt i hi := (h.lt i (hroute ▸ hi)).trans_le he.nextId_le
  own hrte i hi := by
    rw [hroute] at hi
    rw [he.source i (h.lt i hi)]
    exact h.own (htype ▸ hrte) i hi
  pointer x hx hxr hsource := by
    rcases he.old x hx with hrip | hx
    · exact absurd hrip hsource
    · rw [he.source x.id (hs.lt _ (RoutingTable.id_mem_ids hx))] at hsource
      exact h.pointer x hx (hroute ▸ hxr) hsource
  default y hy hyr hzero := by
    obtain ⟨y', hy', hid, hmask⟩ := hmasks y hy
    exact h.default y' hy' (by rw [← hroute, hyr, hid]) (hmask.trans hzero)

section

variable (hs : KernelOk s) (hk : s.ripRoutes[k]? = some r) (hr : Changeable lost s r)
include hs hk hr

theorem safe_setField {f : RIPRoute → RIPRoute} (hf : (f r).route = r.route)
    {g : RoutingTable → ℕ → Except RoutingFault RoutingTable}
    (hg : ∀ i t', g s.rt i = .ok t' → SetField s.rt t' i) :
    Safe (fun s' => Effect lost k s s' ∧ s'.ripRoutes[k]? = some (f r) ∧
        SameMasks s s')
      (s.setField k f g) := by
  have hmod : Effect lost k s _ := effect_modifyRoute hs k f
  have hplain : Effect lost k s (s.modifyRoute k f) ∧
      (s.modifyRoute k f).ripRoutes[k]? = some (f r) ∧ SameMasks s (s.modifyRoute k f) :=
    ⟨hmod, getElem?_modifyRoute hk f, fun x hx => ⟨x, hx, rfl, rfl⟩⟩
  unfold setField
  simp only [hk]
  cases hroute : r.route with
  | none => exact hplain
  | some i =>
    simp only
    split_ifs with hrte hmem
    · refine Except.Ensures.bind
        (P := fun t' => SetField s.rt t' i) (Except.Ensures.mapError (hg i) nofun) fun t' ht' => ?_
      have hrip := hr.own hrte i hroute
      refine ⟨hmod.trans hs (effect_tableChanged ?_ k ?_ ?_ ?_), ?_, by simpa [SameMasks] using ht'.masks⟩
      · exact hs.of_subperm ht'.ids le_rfl
      · intro h x hx hsource
        rcases ht'.old x hx with hid | hx'
        · exact ht'.accepted (fun y hy hyi => h.accepted y hy (hyi ▸ hrip)) x hx hid
        · exact h.accepted x hx' hsource
      · intro x hx
        refine (ht'.old x hx).imp_left fun hid => ?_
        rwa [hid]
      · intro x hx hsource hnot
        refine ht'.kept x hx (fun hid => hsource (hid ▸ hrip)) fun ⟨y, hy, hyi, hmask⟩ h0 => ?_
        exact hnot (hr.default y hy (hyi ▸ hroute) hmask x h0)
      · refine getElem?_tableChanged (getElem?_modifyRoute hk f) fun j hj => ?_
        rw [hf, hroute] at hj
        cases hj
        exact hrip
    · exact nofun
    · exact hplain

theorem safe_setInterface (ie : ℕ) :
    Safe (fun s' => Effect lost k s s' ∧ s'.ripRoutes[k]? = some { r with ie := some ie } ∧
        SameMasks s s')
      (s.setInterface k ie) := by
  refine safe_setField hs hk hr rfl fun i t' h => ?_
  unfold RoutingTable.setInterface at h
  refine RoutingTable.setField_spec ?_ ?_ ?_ hs.nodup h
  · exact fun _ => rfl
  · exact fun _ => rfl
  · exact fun _ hacc => ⟨hacc.netmask, hacc.dest_ne, hacc.dest_eq, rfl⟩

theorem safe_setMetric (metric : ℤ) :
    Safe (fun s' => Effect lost k s s' ∧ s'.ripRoutes[k]? = some { r with metric } ∧
        SameMasks s s')
      (s.setMetric k metric) := by
  refine safe_setField hs hk hr rfl fun i t' h => ?_
  unfold RoutingTable.setMetric at h
  refine RoutingTable.setField_spec ?_ ?_ ?_ hs.nodup h
  · exact fun _ => rfl
  · exact fun _ => rfl
  · exact fun _ hacc => ⟨hacc.netmask, hacc.dest_ne, hacc.dest_eq, hacc.interfacePtr⟩

end

/-- The next hop is set when the RIP route does not point to an IPv4 route. -/
theorem setNextHop_eq (hk : s.ripRoutes[k]? = some r) (hroute : r.route = none)
    (nextHop : IPv4Address) :
    s.setNextHop k nextHop = .ok (s.modifyRoute k fun r => { r with nextHop }) := by
  unfold setNextHop setField
  simp only [hk, hroute]

theorem getNetmaskLength_makeNetmask :
    ∀ n < 33, (IPv4Address.makeNetmask n).getNetmaskLength = n := by decide

theorem eq_zero_of_makeNetmask : ∀ n < 33, IPv4Address.makeNetmask n = 0 → n = 0 := by decide

theorem makeNetmask_eq {length : ℤ} {mask : IPv4Address} (h : makeNetmask length = .ok mask) :
    mask = IPv4Address.makeNetmask length.toNat ∧ (mask.getNetmaskLength : ℤ) = length ∧
      (mask = 0 → length = 0) := by
  unfold makeNetmask at h
  rw [Except.ite_error_eq_ok] at h
  obtain ⟨hrange, h⟩ := h
  cases h
  have hlt : length.toNat < 33 := by omega
  refine ⟨rfl, ?_, fun hzero => ?_⟩
  · rw [getNetmaskLength_makeNetmask _ hlt]
    omega
  · have := eq_zero_of_makeNetmask _ hlt hzero
    omega

variable {prefixLength : ℤ}

theorem safe_addIPv4Route (hs : KernelOk s)
    (hdefault : prefixLength = 0 → ∀ x : IPv4Route, x.netmask = 0 → lost x) (dest : IPv4Address)
    (ie : ℕ) (nextHop : IPv4Address) (metric : ℤ) :
    Safe (fun p => p.1 = s.nextId ∧ s.nextId < p.2.nextId ∧ p.2.source p.1 = .rip ∧
        (∀ k, Effect lost k s p.2) ∧
        (∀ (k : ℕ) (r : RIPRoute), s.ripRoutes[k]? = some r → r.route = none →
          p.2.ripRoutes[k]? = some r) ∧
        ((IPv4Address.makeNetmask prefixLength.toNat).getNetmaskLength : ℤ) = prefixLength)
      (s.addIPv4Route dest prefixLength ie nextHop metric) := by
  unfold addIPv4Route
  refine Except.Ensures.bind (P := fun mask => makeNetmask prefixLength = .ok mask) ?_
    fun mask hmask => ?_
  · unfold makeNetmask
    split_ifs
    · exact nofun
    · rfl
  obtain ⟨rfl, hlength, hzero⟩ := makeNetmask_eq hmask
  refine Except.Ensures.bind (Except.Ensures.mapError (fun _ h => h) nofun) fun t' ht' => ?_
  obtain ⟨t0, ht0, hroutes⟩ := RoutingTable.addRoute_eq ht'
  have hids : t'.ids.Subperm (s.nextId :: s.rt.ids) := by
    unfold RoutingTable.ids
    rw [hroutes]
    exact RoutingTable.ids_internalAddRoute ht0
  have hnew : (s.newRoute .rip).source s.nextId = .rip := update_self _ _ _
  refine ⟨rfl, by simp [newRoute], by simpa using hnew, fun k => ?_, fun k r hk hroute => ?_, hlength⟩
  · refine (effect_newRoute hs k).trans hs (effect_tableChanged ?_ k ?_ ?_ ?_)
    · exact hs.of_subperm_cons hids (Nat.lt_succ_self _)
    · intro h x hx hsource
      rw [hroutes] at hx
      rcases RoutingTable.mem_internalAddRoute ht0 hx with rfl | hx
      · exact RoutingTable.accepted_of_internalAddRoute ht0
      · exact h.accepted x hx hsource
    · intro x hx
      rw [hroutes] at hx
      rcases RoutingTable.mem_internalAddRoute ht0 hx with rfl | hx
      · exact .inl hnew
      · exact .inr hx
    · intro x hx _ hnot
      rw [hroutes]
      refine RoutingTable.mem_internalAddRoute_of_mem ht0 hs.nodup hx fun h0 hx0 => ?_
      exact hnot (hdefault (hzero h0) x hx0)
  · refine getElem?_tableChanged hk fun i hi => ?_
    rw [hroute] at hi
    cases hi

/-! ### Routes that are learnt -/

/-- The pointer of a RIP route with the given metric, when an IPv4 route has been added for it. -/
def NewPointer (s s' : RIPRouting) (metric : ℤ) (route : Option ℕ) : Prop :=
  if metric < ripInfiniteMetric then
    ∃ i, route = some i ∧ s.nextId ≤ i ∧ i < s'.nextId ∧ s'.source i = .rip
  else route = none

/-- What is known of a RIP route that has been learnt between two states. -/
structure Learnt (s s' : RIPRouting) (type : RouteType) (dest : IPv4Address) (prefixLength : ℤ)
    (ie : ℕ) (nextHop : IPv4Address) (metric : ℤ) (fromAddr : IPv4Address) (r : RIPRoute) :
    Prop where
  type_eq : r.type = type
  dest_eq : r.dest = dest
  prefixLength_eq : r.prefixLength = prefixLength
  ie_eq : r.ie = some ie
  nextHop_eq : r.nextHop = nextHop
  metric_eq : r.metric = metric
  fromAddr_eq : r.fromAddr = fromAddr
  route : NewPointer s s' metric r.route

theorem NewPointer.of_env {s1 s2 : RIPRouting} {metric : ℤ} {route : Option ℕ}
    (hp : NewPointer s s' metric route) (h1 : Env s1 s) (h2 : Env s' s2) :
    NewPointer s1 s2 metric route := by
  unfold NewPointer at hp ⊢
  split_ifs at hp ⊢
  · obtain ⟨i, hi, hle, hlt, hsource⟩ := hp
    exact ⟨i, hi, h1.nextId_le.trans hle, hlt.trans_le h2.nextId_le,
      (h2.source i hlt).trans hsource⟩
  · exact hp

section Learnt

variable {ie : ℕ} {nextHop fromAddr : IPv4Address} {metric : ℤ} {routeTag : UInt16} {r₀ : RIPRoute}

theorem safe_reviveRoute (hs : KernelOk s) (hk : s.ripRoutes[k]? = some r) (hroute : r.route = none)
    (hdefault : r₀.prefixLength = 0 → ∀ x : IPv4Route, x.netmask = 0 → lost x)
    (hmetric : metric < ripInfiniteMetric) :
    Safe (fun s' => Effect lost k s s' ∧ ∃ route, NewPointer s s' metric route ∧
        s'.ripRoutes[k]? = some { r with type := .rte, nextHop, route })
      (s.reviveRoute k r₀ ie nextHop metric) := by
  unfold reviveRoute
  rw [if_neg (by simp [hk, hroute])]
  have hk1 := getElem?_modifyRoute hk fun r => { r with type := .rte }
  have he1 : Effect lost k s _ := effect_modifyRoute hs k fun r => { r with type := .rte }
  simp only [setNextHop_eq hk1 hroute, Except.ok_bind]
  have hk2 := getElem?_modifyRoute hk1 fun r => { r with nextHop }
  have he2 := he1.trans hs (effect_modifyRoute he1.kernelOk k fun r => { r with nextHop })
  refine (safe_addIPv4Route he2.kernelOk hdefault _ ie nextHop metric).bind ?_
  rintro ⟨i, s3⟩ ⟨hi, hlt, hsource, he3, hk3, -⟩
  have he := he2.trans hs (he3 k)
  refine ⟨he.trans hs (effect_modifyRoute he.kernelOk k _), some i, ?_, ?_⟩
  · unfold NewPointer
    rw [if_pos hmetric]
    exact ⟨i, rfl, he2.nextId_le.trans hi.ge, hi.trans_lt hlt, hsource⟩
  · exact getElem?_modifyRoute (hk3 k _ hk2 hroute) _

theorem safe_replaceRoute (hs : KernelOk s) (hk : s.ripRoutes[k]? = some r)
    (hroute : r.route ≠ none) (hr : Changeable lost s r)
    (hdefault : r₀.prefixLength = 0 → ∀ x : IPv4Route, x.netmask = 0 → lost x) :
    Safe (fun s' => Effect lost k s s' ∧ ∃ route, NewPointer s s' metric route ∧
        s'.ripRoutes[k]? = some { r with nextHop, route })
      (s.replaceRoute k r₀ ie nextHop metric) := by
  unfold replaceRoute
  rw [if_neg (by simp [hk, hroute])]
  obtain ⟨he1, hk1⟩ := effect_dropRoute hs hk hr.pointer
  rw [setNextHop_eq hk1 rfl, Except.ok_bind]
  have hk2 := getElem?_modifyRoute hk1 fun r => { r with nextHop }
  have he2 := he1.trans hs (effect_modifyRoute he1.kernelOk k fun r => { r with nextHop })
  split_ifs with hmetric
  · refine (safe_addIPv4Route he2.kernelOk hdefault _ ie nextHop metric).bind ?_
    rintro ⟨i, s3⟩ ⟨hi, hlt, hsource, he3, hk3, -⟩
    have he := he2.trans hs (he3 k)
    refine ⟨he.trans hs (effect_modifyRoute he.kernelOk k _), some i, ?_, ?_⟩
    · unfold NewPointer
      rw [if_pos hmetric]
      exact ⟨i, rfl, he2.nextId_le.trans hi.ge, hi.trans_lt hlt, hsource⟩
    · exact getElem?_modifyRoute (hk3 k _ hk2 rfl) _
  · refine ⟨he2, none, ?_, hk2⟩
    unfold NewPointer
    rw [if_neg hmetric]

theorem safe_updateRoute (hs : KernelOk s) {time : ℤ}
    (hk : s.ripRoutes[k]? = some { r with lastUpdateTime := time }) (hr : Changeable lost s r)
    (hroute : r.metric = ripInfiniteMetric ↔ r.route = none)
    (hdefault : r.prefixLength = 0 → ∀ x : IPv4Route, x.netmask = 0 → lost x)
    (hlt : r.metric = ripInfiniteMetric → metric < ripInfiniteMetric) :
    Safe (fun s' => Effect lost k s s' ∧ ∃ r', s'.ripRoutes[k]? = some r' ∧
        Learnt s s' (if r.metric = ripInfiniteMetric then .rte else r.type) r.dest r.prefixLength ie
          nextHop metric fromAddr r')
      (s.updateRoute k r ie nextHop metric routeTag fromAddr) := by
  unfold updateRoute
  have hr0 : Changeable lost s { r with lastUpdateTime := time } :=
    ⟨hr.lt, hr.own, hr.pointer, hr.default⟩
  refine (safe_setInterface hs hk hr0 ie).bind ?_
  rintro s1 ⟨he1, hk1, hm1⟩
  have hr1 : Changeable lost s1 { r with lastUpdateTime := time, ie := some ie } :=
    hr0.of_effect hs he1 hm1 rfl rfl
  refine (safe_setMetric he1.kernelOk hk1 hr1 metric).bind ?_
  rintro s2 ⟨he2, hk2, hm2⟩
  have he3 : Effect lost k s2 _ := effect_modifyRoute he2.kernelOk k
    fun r => { r with fromAddr, tag := routeTag }
  have hk3 := getElem?_modifyRoute hk2 fun r => { r with fromAddr, tag := routeTag }
  have hr3 : ∀ r', r'.route = r.route → r'.type = r.type → Changeable lost _ r' :=
    fun r' hroute' htype' => (hr1.of_effect he1.kernelOk he2 hm2 hroute' htype').of_effect
      he2.kernelOk he3 (fun x hx => ⟨x, hx, rfl, rfl⟩) rfl rfl
  have he := ((he1.trans hs he2).trans hs he3)
  generalize s2.modifyRoute k (fun r => { r with fromAddr, tag := routeTag }) = s3 at *
  -- the pointer is replaced
  refine Except.Ensures.bind (P := fun s4 => Effect lost k s3 s4 ∧ ∃ route,
    NewPointer s3 s4 metric route ∧ s4.ripRoutes[k]? = some
      { r with
        type := if r.metric = ripInfiniteMetric then .rte else r.type
        lastUpdateTime := time, ie := some ie, metric, fromAddr, tag := routeTag, nextHop
        route }) ?_ ?_
  · unfold repointRoute
    split_ifs with hinf hfinite
    · exact safe_reviveRoute he.kernelOk hk3 (hroute.1 hinf) hdefault hfinite
    · exact absurd (hlt hinf) hfinite
    · exact safe_replaceRoute he.kernelOk hk3 (mt hroute.2 hinf) (hr3 _ rfl rfl) hdefault
  rintro s4 ⟨he4, route, hpointer, hk4⟩
  have he5 : Effect lost k s4 _ :=
    effect_modifyRoute he4.kernelOk k fun r => { r with changed := true }
  have hk5 := getElem?_modifyRoute hk4 fun r => { r with changed := true }
  have hpointer5 := hpointer.of_env he.toEnv he5.toEnv
  have he' := (he.trans hs he4).trans hs he5
  by_cases hinvalid : metric = ripInfiniteMetric ∧ r.metric ≠ ripInfiniteMetric
  · rw [if_pos hinvalid]
    -- the route has become invalid: it does not point to an IPv4 route any more
    have hnone : route = none := by simpa [NewPointer, hinvalid.1] using hpointer
    subst hnone
    obtain ⟨he6, hk6⟩ : Effect lost k _ _ ∧ _ := effect_invalidateRoute he'.kernelOk hk5 nofun
    refine ⟨he'.trans hs he6, _, hk6, rfl, rfl, rfl, rfl, rfl, hinvalid.1.symm, rfl, ?_⟩
    exact hpointer5.of_env (Env.refl hs) he6.toEnv
  · rw [if_neg hinvalid]
    refine ⟨he'.trans hs (effect_modifyRoute he'.kernelOk k _), _, getElem?_modifyRoute hk5 _, ?_⟩
    exact ⟨rfl, rfl, rfl, rfl, rfl, rfl, rfl, hpointer5⟩

theorem safe_addRoute (hs : KernelOk s)
    (hdefault : prefixLength = 0 → ∀ x : IPv4Route, x.netmask = 0 → lost x)
    (hmetric : metric < ripInfiniteMetric) (dest : IPv4Address) :
    Safe (fun s' => ∃ s1 r, (∀ k, Effect lost k s s1) ∧
        s' = { s1 with ripRoutes := s1.ripRoutes ++ [r] } ∧
        Learnt s s' .rte dest prefixLength ie nextHop metric fromAddr r)
      (s.addRoute dest prefixLength ie nextHop metric routeTag fromAddr) := by
  unfold addRoute
  refine (safe_addIPv4Route hs hdefault dest ie nextHop metric).bind ?_
  rintro ⟨i, s1⟩ ⟨hi, hlt, hsource, he, -, hlength⟩
  refine ⟨s1, _, he, rfl, rfl, rfl, hlength, rfl, rfl, rfl, rfl, ?_⟩
  unfold NewPointer
  rw [if_pos hmetric]
  exact ⟨i, rfl, hi.ge, hi.trans_lt hlt, hsource⟩

/-! ### Responses -/

/-- The entry updates the RIP route `r`, which has the index `k`. -/
structure Adopts (s : RIPRouting) (incomingIe : RIPInterfaceEntry) (srcAddr : IPv4Address)
    (entry : RIPEntry) (k : ℕ) (r : RIPRoute) : Prop where
  found : s.findRoute entry.address entry.prefixLength = some k
  getElem? : s.ripRoutes[k]? = some r
  not_fixed : isFixed r = false
  adopted : isAdopted r srcAddr (receivedMetric incomingIe entry) = true

/-- The ways in which an entry of a response is processed. -/
inductive EntryEffect (lost : IPv4Route → Prop) (s : RIPRouting) (incomingIe : RIPInterfaceEntry)
    (srcAddr : IPv4Address) (entry : RIPEntry) : RIPRouting → Prop
  | ignored : EntryEffect lost s incomingIe srcAddr entry s
  | confirmed (k : ℕ) : EntryEffect lost s incomingIe srcAddr entry
      (s.modifyRoute k fun r => { r with lastUpdateTime := s.simTime })
  | updated {s' : RIPRouting} {k : ℕ} {r r' : RIPRoute}
      (hadopts : Adopts s incomingIe srcAddr entry k r) (heffect : Effect lost k s s')
      (hself : s'.ripRoutes[k]? = some r')
      (hlearnt : Learnt s s' (if r.metric = ripInfiniteMetric then .rte else r.type) entry.address
        entry.prefixLength incomingIe.ie (entryNextHop srcAddr entry)
        (receivedMetric incomingIe entry) srcAddr r') :
      EntryEffect lost s incomingIe srcAddr entry s'
  | added {s₁ : RIPRouting} {r' : RIPRoute}
      (hnew : s.findRoute entry.address entry.prefixLength = none)
      (hfinite : receivedMetric incomingIe entry < ripInfiniteMetric)
      (heffect : ∀ k, Effect lost k s s₁)
      (hlearnt : Learnt s { s₁ with ripRoutes := s₁.ripRoutes ++ [r'] } .rte entry.address
        entry.prefixLength incomingIe.ie (entryNextHop srcAddr entry)
        (receivedMetric incomingIe entry) srcAddr r') :
      EntryEffect lost s incomingIe srcAddr entry { s₁ with ripRoutes := s₁.ripRoutes ++ [r'] }

theorem receivedMetric_le (incomingIe : RIPInterfaceEntry) (entry : RIPEntry) :
    receivedMetric incomingIe entry ≤ ripInfiniteMetric := min_le_right _ _

theorem findRoute_spec {dest : IPv4Address} (h : s.findRoute dest prefixLength = some k)
    (hk : s.ripRoutes[k]? = some r) :
    r.dest = dest ∧ r.prefixLength = prefixLength := by
  obtain ⟨hlt, hp, -⟩ := findIdx?_eq_some_iff_getElem.1 h
  rw [getElem?_eq_getElem hlt, Option.some.injEq] at hk
  simpa [hk] using hp

theorem safe_processEntry (hs : KernelOk s) {incomingIe : RIPInterfaceEntry} {entry : RIPEntry}
    {srcAddr : IPv4Address}
    (hroute : ∀ r ∈ s.ripRoutes, r.metric = ripInfiniteMetric ↔ r.route = none)
    (hchange : ∀ k r, Adopts s incomingIe srcAddr entry k r → Changeable lost s r ∧
      (entry.prefixLength = 0 → ∀ x : IPv4Route, x.netmask = 0 → lost x))
    (hadd : s.findRoute entry.address entry.prefixLength = none →
      receivedMetric incomingIe entry < ripInfiniteMetric →
      entry.prefixLength = 0 → ∀ x : IPv4Route, x.netmask = 0 → lost x) :
    Safe (EntryEffect lost s incomingIe srcAddr entry) (s.processEntry incomingIe srcAddr entry) :=
    by
  have hle := receivedMetric_le incomingIe entry
  unfold processEntry
  cases hfind : s.findRoute entry.address entry.prefixLength with
  | none =>
    simp only
    split_ifs with hmetric
    · have hlt : receivedMetric incomingIe entry < ripInfiniteMetric := lt_of_le_of_ne hle hmetric
      refine (safe_addRoute hs (hadd hfind hlt) hlt _).mono ?_
      rintro s' ⟨s1, r', he, rfl, hlearnt⟩
      exact .added hfind hlt he hlearnt
    · exact .ignored
  | some k =>
    cases hk : s.ripRoutes[k]? with
    | none =>
      simp only [hk]
      exact .ignored
    | some r =>
      simp only [hk]
      by_cases hfixed : isFixed r = true
      · rw [if_pos hfixed]
        exact .ignored
      rw [if_neg hfixed]
      -- the time stamp may be renewed before the update
      obtain ⟨s0, hs0, hconfirmed⟩ : ∃ s0, (if r.fromAddr = srcAddr then
          s.modifyRoute k fun r => { r with lastUpdateTime := s.simTime } else s) = s0 ∧
          (s0 = s ∨ s0 = s.modifyRoute k fun r => { r with lastUpdateTime := s.simTime }) := by
        refine ⟨_, rfl, ?_⟩
        split_ifs
        · exact .inr rfl
        · exact .inl rfl
      simp only [hs0]
      by_cases hadopted : isAdopted r srcAddr (receivedMetric incomingIe entry) = true
      · rw [if_pos hadopted]
        have hadopts : Adopts s incomingIe srcAddr entry k r :=
          ⟨hfind, hk, by simpa using hfixed, hadopted⟩
        obtain ⟨hchangeable, hdefault⟩ := hchange k r hadopts
        obtain ⟨hdest, hlength⟩ := findRoute_spec hfind hk
        have hlt : r.metric = ripInfiniteMetric →
            receivedMetric incomingIe entry < ripInfiniteMetric := by
          intro hinf
          refine lt_of_le_of_ne hle fun heq => ?_
          simp [isAdopted, hinf, heq] at hadopted
        obtain ⟨time, hk0, he0, hchange0⟩ : ∃ time,
            s0.ripRoutes[k]? = some { r with lastUpdateTime := time } ∧ Effect lost k s s0 ∧
            Changeable lost s0 r := by
          rcases hconfirmed with rfl | rfl
          · exact ⟨r.lastUpdateTime, hk, .refl hs k, hchangeable⟩
          · exact ⟨_, getElem?_modifyRoute hk _, effect_modifyRoute hs k _, hchangeable.lt,
              hchangeable.own, hchangeable.pointer, hchangeable.default⟩
        refine (safe_updateRoute he0.kernelOk hk0 hchange0 (hroute r (mem_of_getElem? hk))
          (fun h => hdefault (hlength ▸ h)) hlt).mono ?_
        rintro s' ⟨he, r', hk', hlearnt⟩
        rw [hdest, hlength] at hlearnt
        exact .updated hadopts (he0.trans hs he) hk' { hlearnt with
          route := hlearnt.route.of_env he0.toEnv (Env.refl he.kernelOk) }
      · rw [if_neg hadopted]
        rcases hconfirmed with rfl | rfl
        · exact .ignored
        · exact .confirmed k

end Learnt

end Effect

/-! ### Routes that become invalid -/

/-- RIP routes have been made invalid or purged, and nothing else has happened to them. -/
structure Weakened (s s' : RIPRouting) : Prop extends Env s s' where
  ripRoutes : List.SublistForall₂ (fun r' r => r'.Weaker r) s'.ripRoutes s.ripRoutes

instance : IsTrans RIPRoute fun r' r => r'.Weaker r := ⟨fun _ _ _ h h' => h.trans h'⟩

theorem forall₂_weaker_refl (l : List RIPRoute) : List.Forall₂ (fun r' r => r'.Weaker r) l l :=
  forall₂_same.2 fun r _ => .refl r

theorem forall₂_of_getElem? {α β : Type*} {R : α → β → Prop} {l : List α} {l' : List β}
    (hlength : l.length = l'.length)
    (h : ∀ (j : ℕ) (a : α), l[j]? = some a → ∃ b, l'[j]? = some b ∧ R a b) : List.Forall₂ R l l' := by
  refine forall₂_iff_get.2 ⟨hlength, fun j hj hj' => ?_⟩
  obtain ⟨b, hb, hab⟩ := h j _ (getElem?_eq_getElem hj)
  rw [getElem?_eq_getElem hj', Option.some.injEq] at hb
  subst hb
  exact hab

theorem Weakened.of_forall₂ (henv : Env s s')
    (h : List.Forall₂ (fun r' r => r'.Weaker r) s'.ripRoutes s.ripRoutes) : Weakened s s' :=
  ⟨henv, sublistForall₂_iff.2 ⟨_, h, .refl _⟩⟩

theorem Weakened.refl (hs : KernelOk s) : Weakened s s :=
  .of_forall₂ (.refl hs) (forall₂_weaker_refl _)

theorem Weakened.trans (h : Weakened s s') (h' : Weakened s' s'') : Weakened s s'' :=
  ⟨h.toEnv.trans h'.toEnv, IsTrans.trans _ _ _ h'.ripRoutes h.ripRoutes⟩

theorem Weakened.exists_of_mem (h : Weakened s s') {r' : RIPRoute} (hr' : r' ∈ s'.ripRoutes) :
    ∃ r ∈ s.ripRoutes, r'.Weaker r := by
  obtain ⟨l, hforall, hsub⟩ := sublistForall₂_iff.1 h.ripRoutes
  obtain ⟨j, hj, rfl⟩ := mem_iff_getElem.1 hr'
  have hj' : j < l.length := hforall.length_eq ▸ hj
  exact ⟨l[j], hsub.subset (getElem_mem hj'), hforall.get hj hj'⟩

/-- The effect of an operation that makes the RIP route `k` invalid, or leaves it alone. -/
theorem Effect.weakened {lost : IPv4Route → Prop} (h : Effect lost k s s')
    (hself : ∀ r', s'.ripRoutes[k]? = some r' → ∃ r, s.ripRoutes[k]? = some r ∧ r'.Weaker r) :
    Weakened s s' := by
  refine .of_forall₂ h.toEnv (forall₂_of_getElem? h.length fun j r' hr' => ?_)
  by_cases hjk : j = k
  · subst hjk
    exact hself r' hr'
  · obtain ⟨r, hr, hweaker, -⟩ := h.others j hjk r' hr'
    exact ⟨r, hr, hweaker⟩

theorem weakened_invalidateRoute (hs : KernelOk s) (k : ℕ) : Weakened s (s.invalidateRoute k) := by
  cases hk : s.ripRoutes[k]? with
  | none =>
    have hsame : s.invalidateRoute k = s := by
      unfold invalidateRoute dropRoute modifyRoute
      simp only [hk]
      rw [modify_eq_self (by simpa using hk)]
    rw [hsame]
    exact .refl hs
  | some r =>
    obtain ⟨he, hk'⟩ : Effect (fun _ => True) k _ _ ∧ _ :=
      effect_invalidateRoute hs hk fun _ _ _ _ => trivial
    refine he.weakened fun r' hr' => ⟨r, hk, ?_⟩
    rw [hk', Option.some.injEq] at hr'
    exact hr' ▸ r.weaker_invalid

theorem weakened_invalidateWhere (hs : KernelOk s) (p : RIPRoute → Bool) :
    Weakened s (s.invalidateWhere p) := by
  have hfold : ∀ (l : List ℕ) (s0 : RIPRouting), Weakened s s0 → Weakened s (l.foldl
      (fun s k => if s.ripRoutes[k]?.any p then s.invalidateRoute k else s) s0) := by
    intro l
    induction l with
    | nil => exact fun _ h => h
    | cons k l ih =>
      intro s0 h
      rw [foldl_cons]
      refine ih _ ?_
      split_ifs
      · exact h.trans (weakened_invalidateRoute h.kernelOk k)
      · exact h
  exact hfold _ s (.refl hs)

theorem safe_purgeRoute (hs : KernelOk s) (hk : s.ripRoutes[k]? = some r) (hrte : r.type = .rte) :
    Safe (Weakened s) (s.purgeRoute k) := by
  unfold purgeRoute
  rw [if_pos (by simp [hk, hrte])]
  obtain ⟨he, -⟩ : Effect (fun _ => True) k _ _ ∧ _ := effect_dropRoute hs hk fun _ _ _ _ => trivial
  refine ⟨{ he.toEnv with
    kernelOk := ⟨he.kernelOk.lt, he.kernelOk.nodup⟩
    ownAccepted := fun h => ⟨(he.ownAccepted h).lt, (he.ownAccepted h).accepted⟩ }, sublistForall₂_iff.2
      ⟨s.ripRoutes.eraseIdx k, ?_, eraseIdx_sublist _ _⟩⟩
  refine forall₂_of_getElem? (by simp [length_eraseIdx, he.length]) fun j r' hr' => ?_
  rw [getElem?_eraseIdx] at hr' ⊢
  split_ifs at hr' ⊢ with hj
  · obtain ⟨r, hr, hweaker, -⟩ := he.others j (Nat.ne_of_lt hj) r' hr'
    exact ⟨r, hr, hweaker⟩
  · obtain ⟨r, hr, hweaker, -⟩ := he.others (j + 1) (by omega) r' hr'
    exact ⟨r, hr, hweaker⟩

theorem safe_checkRouteIsExpired (hs : KernelOk s) (cfg : RIPConfig) (k : ℕ) :
    Safe (fun p => Weakened s p.2 ∧ (p.1 = true → p.2 = s)) (s.checkRouteIsExpired cfg k) := by
  unfold checkRouteIsExpired
  cases hk : s.ripRoutes[k]? with
  | none => exact ⟨.refl hs, nofun⟩
  | some r =>
    simp only
    split_ifs with hrte hpurge hexpired
    · exact (safe_purgeRoute hs hk hrte).bind fun s' h => ⟨h, nofun⟩
    · exact ⟨weakened_invalidateRoute hs k, nofun⟩
    · exact ⟨.refl hs, fun _ => rfl⟩
    · exact ⟨.refl hs, fun _ => rfl⟩

/-! ### Sending -/

/-- The entry has been made from one of the RIP routes. -/
def Announces (l : List RIPRoute) (entry : RIPEntry) : Prop :=
  ∃ r ∈ l, entry.address = r.dest ∧ entry.prefixLength = r.prefixLength ∧
    isUnspecified entry.nextHop = true ∧
    (entry.metric = r.metric.toNat ∨ entry.metric = ripInfiniteMetric.toNat)

variable {entry : RIPEntry}

theorem Weakened.announces (h : Weakened s s') (he : Announces s'.ripRoutes entry) :
    Announces s.ripRoutes entry := by
  obtain ⟨r', hr', hdest, hlength, hhop, hmetric⟩ := he
  obtain ⟨r, hr, hweaker⟩ := h.exists_of_mem hr'
  refine ⟨r, hr, hdest.trans hweaker.dest, hlength.trans hweaker.prefixLength, hhop, ?_⟩
  rcases hweaker.metric with ⟨hm, -⟩ | ⟨hm, -⟩
  · rwa [hm] at hmetric
  · right
    simpa [hm] using hmetric

theorem announces_entryAt {ripInterface : RIPInterfaceEntry} {changedOnly : Bool}
    (h : s.entryAt ripInterface changedOnly k = some entry) : Announces s.ripRoutes entry := by
  unfold entryAt at h
  cases hk : s.ripRoutes[k]? with
  | none => simp [hk] at h
  | some r =>
    simp only [hk] at h
    split_ifs at h
    obtain ⟨metric, hmetric, rfl⟩ := Option.map_eq_some_iff.1 h
    refine ⟨r, mem_of_getElem? hk, rfl, rfl, rfl, ?_⟩
    unfold sentMetric at hmetric
    split_ifs at hmetric
    · -- split horizon: the route goes back to where it has been learnt
      cases hmode : ripInterface.mode with
      | splitHorizon => simp [hmode] at hmetric
      | splitHorizonPoisonedReverse =>
        rw [hmode] at hmetric
        cases hmetric
        exact .inr rfl
      | noRip =>
        rw [hmode] at hmetric
        cases hmetric
        exact .inl rfl
      | noSplitHorizon =>
        rw [hmode] at hmetric
        cases hmetric
        exact .inl rfl
    · cases hmetric
      exact .inl rfl

/-- Every entry of the packets has been made from one of the RIP routes. -/
def AllAnnounce (l : List RIPRoute) (packets : List (List RIPEntry)) : Prop :=
  ∀ packet ∈ packets, ∀ entry ∈ packet, Announces l entry

theorem AllAnnounce.append {l : List RIPRoute} {packets : List (List RIPEntry)}
    (h : AllAnnounce l packets) {entries : List RIPEntry}
    (h' : ∀ entry ∈ entries, Announces l entry) : AllAnnounce l (packets ++ [entries]) := by
  intro packet hpacket
  rcases mem_append.1 hpacket with hpacket | hpacket
  · exact h packet hpacket
  · rw [mem_singleton.1 hpacket]
    exact h'

theorem safe_sendLoop (cfg : RIPConfig) (ripInterface : RIPInterfaceEntry) (changedOnly : Bool)
    (l : List RIPRoute) (rounds it : ℕ) (s : RIPRouting) (packets : List (List RIPEntry))
    (entries : List RIPEntry) (hs : KernelOk s)
    (hl : ∀ entry, Announces s.ripRoutes entry → Announces l entry) (hpackets : AllAnnounce l packets)
    (hentries : ∀ entry ∈ entries, Announces l entry) :
    Safe (fun p => Weakened s p.1 ∧ AllAnnounce l p.2)
      (sendLoop cfg ripInterface changedOnly rounds it s packets entries) := by
  induction rounds generalizing it s packets entries with
  | zero =>
    unfold sendLoop
    split_ifs with hend hempty
    · exact ⟨.refl hs, hpackets⟩
    · exact ⟨.refl hs, hpackets.append hentries⟩
    · exact nofun
  | succ rounds ih =>
    unfold sendLoop
    split_ifs with hend hempty hpast
    · exact ⟨.refl hs, hpackets⟩
    · exact ⟨.refl hs, hpackets.append hentries⟩
    · exact nofun
    refine (safe_checkRouteIsExpired hs cfg it).bind ?_
    rintro ⟨valid, s1⟩ ⟨hweak, hsame⟩
    cases valid with
    | false =>
      refine (ih (it + 1) s1 packets entries hweak.kernelOk
        (fun entry h => hl entry (hweak.announces h)) hpackets hentries).mono ?_
      exact fun p hp => ⟨hweak.trans hp.1, hp.2⟩
    | true =>
      obtain rfl : s1 = s := hsame rfl
      simp only [if_true]
      cases hentry : s1.entryAt ripInterface changedOnly it with
      | none => exact ih (it + 1) s1 packets entries hs hl hpackets hentries
      | some entry =>
        have hentries' : ∀ e ∈ entries ++ [entry], Announces l e := by
          intro e he
          rcases mem_append.1 he with he | he
          · exact hentries e he
          · rw [mem_singleton.1 he]
            exact hl entry (announces_entryAt hentry)
        simp only
        split_ifs with hfault hfull
        · exact nofun
        · exact ih (it + 1) s1 _ [] hs hl (hpackets.append hentries') nofun
        · exact ih (it + 1) s1 packets _ hs hl hpackets hentries'

/-- Every packet is a response with entries that have been made from the RIP routes. -/
def AllResponses (l : List RIPRoute) (sent : List SentPacket) : Prop :=
  ∀ p ∈ sent, p.packet.command = ripResponse ∧ ∀ entry ∈ p.packet.entries, Announces l entry

theorem safe_sendRoutes (hs : KernelOk s) (cfg : RIPConfig) (address : IPv4Address) (port : ℕ)
    (ripInterface : RIPInterfaceEntry) (changedOnly : Bool) :
    Safe (fun p => Weakened s p.1 ∧ AllResponses s.ripRoutes p.2 ∧
        ∀ q ∈ p.2, q.destInterface = if isMulticast address then some ripInterface.ie else none)
      (s.sendRoutes cfg address port ripInterface changedOnly) := by
  unfold sendRoutes
  by_cases hneg : maxEntries cfg ripInterface.ie < 0
  · rw [if_pos hneg]
    exact nofun
  rw [if_neg hneg]
  refine (safe_sendLoop cfg ripInterface changedOnly s.ripRoutes _ 0 s [] [] hs (fun _ h => h) nofun
    nofun).bind ?_
  rintro ⟨s', packets⟩ ⟨hweak, hpackets⟩
  refine ⟨hweak, fun q hq => ?_, fun q hq => ?_⟩
  · obtain ⟨packet, hpacket, rfl⟩ := mem_map.1 hq
    exact ⟨rfl, hpackets packet hpacket⟩
  · obtain ⟨packet, hpacket, rfl⟩ := mem_map.1 hq
    rfl

theorem Weakened.allResponses (h : Weakened s s') {sent : List SentPacket}
    (hsent : AllResponses s'.ripRoutes sent) : AllResponses s.ripRoutes sent :=
  fun p hp => ⟨(hsent p hp).1, fun entry he => h.announces ((hsent p hp).2 entry he)⟩

theorem safe_sendRoutesOn (cfg : RIPConfig) (changedOnly : Bool) (ifs : List RIPInterfaceEntry)
    (hs : KernelOk s) :
    Safe (fun p => Weakened s p.1 ∧ AllResponses s.ripRoutes p.2 ∧
        ∀ q ∈ p.2, ∃ ripInterface ∈ ifs, q.destInterface = some ripInterface.ie)
      (sendRoutesOn cfg changedOnly ifs s) := by
  induction ifs generalizing s with
  | nil => exact ⟨.refl hs, nofun, nofun⟩
  | cons ripInterface rest ih =>
    unfold sendRoutesOn
    refine (safe_sendRoutes hs cfg _ _ ripInterface changedOnly).bind ?_
    rintro ⟨s1, sent⟩ ⟨hweak, hsent, hif⟩
    refine (ih hweak.kernelOk).bind ?_
    rintro ⟨s2, sent'⟩ ⟨hweak', hsent', hif'⟩
    refine ⟨hweak.trans hweak', fun q hq => ?_, fun q hq => ?_⟩
    · rcases mem_append.1 hq with hq | hq
      · exact hsent q hq
      · exact hweak.allResponses hsent' q hq
    · rcases mem_append.1 hq with hq | hq
      · exact ⟨ripInterface, mem_cons_self, hif q hq⟩
      · obtain ⟨ri, hri, heq⟩ := hif' q hq
        exact ⟨ri, mem_cons_of_mem _ hri, heq⟩

theorem safe_processUpdate (hs : KernelOk s) (cfg : RIPConfig) (triggered : Bool) :
    Safe (fun p => Weakened s p.1 ∧ AllResponses s.ripRoutes p.2 ∧
        ∀ q ∈ p.2, ∃ ripInterface ∈ s.ripInterfaces, q.destInterface = some ripInterface.ie)
      (s.processUpdate cfg triggered) := by
  unfold processUpdate
  refine (safe_sendRoutesOn cfg triggered s.activeInterfaces hs).bind ?_
  rintro ⟨s1, sent⟩ ⟨hweak, hsent, hif⟩
  refine ⟨hweak.trans (.of_forall₂ ⟨⟨hweak.kernelOk.lt, hweak.kernelOk.nodup⟩,
    fun h => ⟨h.lt, h.accepted⟩, le_rfl, fun _ _ => rfl, rfl, rfl, rfl⟩ ?_), hsent, fun q hq => ?_⟩
  · refine forall₂_map_left_iff.2 (forall₂_same.2 fun r _ => ?_)
    exact ⟨rfl, rfl, rfl, rfl, rfl, rfl, .inl ⟨rfl, rfl⟩⟩
  · obtain ⟨ri, hri, heq⟩ := hif q hq
    exact ⟨ri, (mem_filter.1 hri).1, heq⟩

end RIPRouting

end Hiwis
