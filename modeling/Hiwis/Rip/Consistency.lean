import Hiwis.Rip.Effects

/-!
# RIP routes and IPv4 routes

A RIP route is valid exactly when it points to an IPv4 route, and its metric says so.

* `RIPRouting.safe_step` : this holds after every action, and no assertion fails;
* `RIPRouting.consistent_of_run` : no response removes the route of an interface in a run in which no
  response announces a better way to the network of an interface;
* `RIPRouting.not_keepsInterfaceRoutes` : such a response removes it.
-/

namespace Hiwis

open List Option Except Function RoutingTable Trace UpperBound

namespace RIPRouting

variable {cfg : RIPConfig} {s s' : RIPRouting} {r r' : RIPRoute} {k : ℕ}

/-! ### The invariant -/

/-- The metric and the pointer of a RIP route fit together. -/
structure Consistent (r : RIPRoute) : Prop where
  one_le_metric : 1 ≤ r.metric
  metric_le : r.metric ≤ ripInfiniteMetric
  metric_eq_iff : r.metric = ripInfiniteMetric ↔ r.route = none

/-- The invariant of a RIP route: it is consistent, and when it has been learnt, then the IPv4 route
that it points to is one of the module. -/
structure RouteOk (s : RIPRouting) (r : RIPRoute) : Prop extends Consistent r where
  lt : ∀ i, r.route = some i → i < s.nextId
  own : r.type = .rte → ∀ i, r.route = some i → s.source i = .rip
  type_ne : r.type ≠ .redistribute

/-- The invariant of the module. -/
structure Ok (s : RIPRouting) : Prop where
  kernelOk : KernelOk s
  routes : ∀ r ∈ s.ripRoutes, RouteOk s r

/-- The route of an interface is not one of the module. -/
def InterfacesOk (s : RIPRouting) : Prop :=
  ∀ r ∈ s.ripRoutes, r.type = .iface → ∀ i, r.route = some i → s.source i ≠ .rip

theorem RouteOk.of_weaker (h : RouteOk s r) (henv : Env s s') (hw : r'.Weaker r) :
    RouteOk s' r' := by
  rcases hw.metric with ⟨hmetric, hroute⟩ | ⟨hmetric, hroute⟩
  · refine ⟨⟨hmetric ▸ h.one_le_metric, hmetric ▸ h.metric_le, ?_⟩, fun i hi => ?_,
      fun hrte i hi => ?_, hw.type ▸ h.type_ne⟩
    · rw [hmetric, hroute]
      exact h.metric_eq_iff
    · exact (h.lt i (hroute ▸ hi)).trans_le henv.nextId_le
    · rw [hroute] at hi
      rw [henv.source i (h.lt i hi)]
      exact h.own (hw.type ▸ hrte) i hi
  · refine ⟨⟨by rw [hmetric]; decide, hmetric.le, by simp [hmetric, hroute]⟩, ?_, ?_,
      hw.type ▸ h.type_ne⟩
    · intro i hi
      rw [hroute] at hi
      cases hi
    · intro _ i hi
      rw [hroute] at hi
      cases hi

theorem Ok.of_weakened (h : Ok s) (hw : Weakened s s') : Ok s' := by
  refine ⟨hw.kernelOk, fun r' hr' => ?_⟩
  obtain ⟨r, hr, hweaker⟩ := hw.exists_of_mem hr'
  exact (h.routes r hr).of_weaker hw.toEnv hweaker

theorem InterfacesOk.of_weakened (h : InterfacesOk s) (hok : Ok s) (hw : Weakened s s') :
    InterfacesOk s' := by
  intro r' hr' htype i hi
  obtain ⟨r, hr, hweaker⟩ := hw.exists_of_mem hr'
  rcases hweaker.metric with ⟨-, hroute⟩ | ⟨-, hroute⟩
  · rw [hroute] at hi
    rw [hw.source i ((hok.routes r hr).lt i hi)]
    exact h r hr (hweaker.type ▸ htype) i hi
  · rw [hroute] at hi
    cases hi

/-- What every action but a response does to the invariants. -/
structure Keeps (s s' : RIPRouting) : Prop where
  ok : Ok s'
  ownAccepted : OwnAccepted s → OwnAccepted s'
  interfacesOk : InterfacesOk s → InterfacesOk s'

theorem Keeps.of_weakened (h : Ok s) (hw : Weakened s s') : Keeps s s' :=
  ⟨h.of_weakened hw, hw.ownAccepted, fun hif => hif.of_weakened h hw⟩

theorem Keeps.trans {s'' : RIPRouting} (h : Keeps s s') (h' : Keeps s' s'') : Keeps s s'' :=
  ⟨h'.ok, h'.ownAccepted ∘ h.ownAccepted, h'.interfacesOk ∘ h.interfacesOk⟩

/-- The RIP routes of the new state are among those of the old one. -/
theorem Keeps.of_subset (h : Ok s) (hsub : s'.ripRoutes ⊆ s.ripRoutes) (hrt : s'.rt = s.rt)
    (hnext : s'.nextId = s.nextId) (hsource : s'.source = s.source) : Keeps s s' := by
  refine ⟨⟨⟨?_, ?_⟩, fun r hr => ?_⟩, fun hacc => ⟨?_, ?_⟩, fun hif r hr => ?_⟩
  · rw [hrt, hnext]
    exact h.kernelOk.lt
  · rw [hrt]
    exact h.kernelOk.nodup
  · have hr := h.routes r (hsub hr)
    exact ⟨hr.toConsistent, hnext ▸ hr.lt, hsource ▸ hr.own, hr.type_ne⟩
  · rw [hrt, hnext]
    exact hacc.lt
  · rw [hrt, hsource]
    exact hacc.accepted
  · rw [hsource]
    exact hif r (hsub hr)

/-! ### Imported routes -/

theorem getInterfaceMetric_range (s : RIPRouting) (ie : ℕ) :
    1 ≤ s.getInterfaceMetric ie ∧ s.getInterfaceMetric ie < ripInfiniteMetric := by
  unfold getInterfaceMetric
  cases s.findInterfaceById ie with
  | none => decide
  | some ripIe => exact ⟨ripIe.one_le_metric, ripIe.metric_lt⟩

/-- A RIP route for an IPv4 route of another module. -/
structure Imported (s : RIPRouting) (r : RIPRoute) : Prop where
  one_le_metric : 1 ≤ r.metric
  metric_lt : r.metric < ripInfiniteMetric
  type_ne : r.type ≠ .rte ∧ r.type ≠ .redistribute
  route : ∃ i, r.route = some i ∧ i < s.nextId ∧ (r.type = .iface → s.source i ≠ .rip)

variable {route : IPv4Route} {ie : ℕ}

theorem localInterface_spec (h : s.localInterface cfg route = some ie) :
    s.source route.id = .iface ie ∧ cfg.isLoopback ie = false := by
  unfold localInterface at h
  cases hsource : s.source route.id with
  | iface ie' =>
    simp only [hsource] at h
    split_ifs at h with hloop
    cases h
    exact ⟨rfl, by simpa using hloop⟩
  | null => simp [hsource] at h
  | rip => simp [hsource] at h

theorem imported_interfaceRoute (hlt : route.id < s.nextId)
    (h : s.localInterface cfg route = some ie) : Imported s (s.interfaceRoute route ie) where
  one_le_metric := (getInterfaceMetric_range s ie).1
  metric_lt := (getInterfaceMetric_range s ie).2
  type_ne := ⟨nofun, nofun⟩
  route := ⟨_, rfl, hlt, fun _ => by rw [(localInterface_spec h).1]; nofun⟩

theorem imported_initialRoute (hlt : route.id < s.nextId)
    (h : s.initialRoute cfg route = some r) : Imported s r := by
  have hone : (1 : ℤ) ≤ 1 ∧ 1 < ripInfiniteMetric := by decide
  unfold initialRoute at h
  cases hie : s.localInterface cfg route with
  | some ie =>
    simp only [hie] at h
    split_ifs at h
    cases h
    exact imported_interfaceRoute hlt hie
  | none =>
    simp only [hie] at h
    split_ifs at h
    · cases h
      exact ⟨hone.1, hone.2, ⟨nofun, nofun⟩, _, rfl, hlt, nofun⟩
    · cases h
      exact ⟨hone.1, hone.2, ⟨nofun, nofun⟩, _, rfl, hlt, nofun⟩

theorem Imported.routeOk (h : Imported s r) : RouteOk s r := by
  obtain ⟨i, hi, hlt, -⟩ := h.route
  refine ⟨⟨h.one_le_metric, h.metric_lt.le, ?_⟩, fun j hj => ?_, fun hrte => absurd hrte h.type_ne.1,
    h.type_ne.2⟩
  · simp [hi, h.metric_lt.ne]
  · rw [hi] at hj
    cases hj
    exact hlt

theorem keeps_append (h : Ok s) (hr : Imported s r) :
    Keeps s { s with ripRoutes := s.ripRoutes ++ [r] } := by
  refine ⟨⟨⟨h.kernelOk.lt, h.kernelOk.nodup⟩, fun r' hr' => ?_⟩,
    fun hacc => ⟨hacc.lt, hacc.accepted⟩, fun hif r' hr' htype i hi => ?_⟩
  · rcases mem_append.1 hr' with hr' | hr'
    · have := h.routes r' hr'
      exact ⟨this.toConsistent, this.lt, this.own, this.type_ne⟩
    · rw [mem_singleton.1 hr']
      have := hr.routeOk
      exact ⟨this.toConsistent, this.lt, this.own, this.type_ne⟩
  · rcases mem_append.1 hr' with hr' | hr'
    · exact hif r' hr' htype i hi
    · rw [mem_singleton.1 hr'] at htype hi
      obtain ⟨j, hj, -, hsource⟩ := hr.route
      rw [hj] at hi
      cases hi
      exact hsource htype

theorem safe_importRoute (h : Ok s) (hr : Imported s r) :
    Safe (fun s' => Keeps s s' ∧ s' = { s with ripRoutes := s.ripRoutes ++ [r] })
      (s.importRoute r) := by
  unfold importRoute
  rw [if_pos hr.metric_lt]
  exact ⟨keeps_append h hr, rfl⟩

theorem safe_configureInitialRoutes (cfg : RIPConfig) (routes : List IPv4Route) (h : Ok s)
    (hlt : ∀ route ∈ routes, route.id < s.nextId) :
    Safe (Keeps s) (configureInitialRoutes cfg routes s) := by
  induction routes generalizing s with
  | nil => exact .of_subset h (List.Subset.refl _) rfl rfl rfl
  | cons route routes ih =>
    unfold configureInitialRoutes importInitialRoute
    have hrest : ∀ route ∈ routes, route.id < s.nextId :=
      fun route hroute => hlt route (mem_cons_of_mem _ hroute)
    cases hr : s.initialRoute cfg route with
    | none => exact ih h hrest
    | some ripRoute =>
      have himported := imported_initialRoute (hlt route mem_cons_self) hr
      refine (safe_importRoute h himported).bind ?_
      rintro s1 ⟨hkeeps, rfl⟩
      exact (ih hkeeps.ok hrest).mono fun s' h' => hkeeps.trans h'

/-! ### Interfaces -/

theorem safe_addInterface (ie : ℕ) (config : Option InterfaceElement)
    (hie : (cfg.isMulticast ie && !cfg.isLoopback ie) = true) :
    Safe (fun s' => ∃ ifs, s' = { s with ripInterfaces := ifs }) (s.addInterface cfg ie config) := by
  unfold addInterface
  simp only [Bool.and_eq_true, Bool.not_eq_true'] at hie
  rw [if_neg (by simp [hie])]
  refine Except.Ensures.bind (P := fun _ => True) ?_ fun ripInterface _ => ⟨_, rfl⟩
  cases config with
  | none => trivial
  | some config =>
    unfold RIPInterfaceEntry.configure
    simp only
    split_ifs
    · refine Except.Ensures.bind (P := fun _ => True) ?_ fun _ _ => trivial
      unfold RIPInterfaceEntry.parseMode
      split <;> first | trivial | exact nofun
    · exact nofun

theorem safe_configureInterfaces (cfg : RIPConfig) (ift : List ℕ) (s : RIPRouting) :
    Safe (fun s' => ∃ ifs, s' = { s with ripInterfaces := ifs }) (configureInterfaces cfg ift s) := by
  induction ift generalizing s with
  | nil => exact ⟨_, rfl⟩
  | cons ie ift ih =>
    unfold configureInterfaces configureInterface
    refine Except.Ensures.bind (P := fun s' => ∃ ifs, s' = { s with ripInterfaces := ifs }) ?_ ?_
    · split_ifs with hie
      · exact safe_addInterface ie _ hie
      · exact ⟨_, rfl⟩
    · rintro s1 ⟨ifs, rfl⟩
      exact (ih _).mono fun s' ⟨ifs', h'⟩ => ⟨ifs', h'⟩

/-! ### Notifications -/

/-- The routing table reports changes that leave the identities in order. -/
theorem weakened_tableChanged {rt : RoutingTable} (hs : KernelOk { s with rt })
    (hacc : OwnAccepted s → ∀ x ∈ rt.routes, s.source x.id = .rip → x.Accepted) :
    Weakened s (s.tableChanged rt) := by
  refine .of_forall₂ (env_tableChanged hs hacc) ?_
  rw [tableChanged_eq]
  refine forall₂_map_left_iff.2 (forall₂_same.2 fun r _ => ?_)
  split_ifs
  · exact r.weaker_invalid
  · exact .refl r

theorem weakened_deleteRoute (hs : KernelOk s) (i : ℕ) : Weakened s (s.deleteRoute i) :=
  weakened_tableChanged (hs.of_subperm (ids_removeRoute s.rt i).subperm le_rfl)
    fun hacc x hx => hacc.accepted x ((removeRoute_routes_sublist s.rt i).subset hx)

theorem weakened_newRoute (hs : KernelOk s) (source : RouteSource) :
    Weakened s (s.newRoute source) :=
  .of_forall₂ (env_newRoute hs source) (forall₂_weaker_refl _)

theorem safe_notify (h : Ok s) {handler : RIPRouting → Except RIPFault RIPRouting}
    (hh : Safe (Keeps s) (handler s)) : Safe (Keeps s) (s.notify handler) := by
  unfold notify
  split_ifs
  · exact hh
  · exact Keeps.of_weakened h (.refl h.kernelOk)

/-- A RIP route gets a pointer to a route of another module, and a finite metric. -/
theorem keeps_modifyRoute (h : Ok s) {f : RIPRoute → RIPRoute}
    (hf : ∀ r, s.ripRoutes[k]? = some r → RouteOk s (f r) ∧
      (InterfacesOk s → (f r).type = .iface → ∀ i, (f r).route = some i → s.source i ≠ .rip)) :
    Keeps s (s.modifyRoute k f) := by
  have hmem : ∀ r' ∈ (s.modifyRoute k f).ripRoutes, r' ∈ s.ripRoutes ∨
      ∃ r, s.ripRoutes[k]? = some r ∧ r' = f r := by
    intro r' hr'
    obtain ⟨j, hj⟩ := mem_iff_getElem?.1 hr'
    simp only [modifyRoute, List.getElem?_modify] at hj
    obtain ⟨r, hr, rfl⟩ := map_eq_some_iff.1 hj
    split_ifs with hjk
    · exact .inr ⟨r, hjk ▸ hr, rfl⟩
    · exact .inl (mem_of_getElem? hr)
  refine ⟨⟨⟨h.kernelOk.lt, h.kernelOk.nodup⟩, fun r' hr' => ?_⟩,
    fun hacc => ⟨hacc.lt, hacc.accepted⟩, fun hif r' hr' htype => ?_⟩
  · have hok : RouteOk s r' := by
      rcases hmem r' hr' with hr' | ⟨r, hr, rfl⟩
      · exact h.routes r' hr'
      · exact (hf r hr).1
    exact ⟨hok.toConsistent, hok.lt, hok.own, hok.type_ne⟩
  · rcases hmem r' hr' with hr' | ⟨r, hr, rfl⟩
    · exact hif r' hr' htype
    · exact (hf r hr).2 hif htype

theorem safe_routeAdded (cfg : RIPConfig) (h : Ok s)
    (hlt : route.id < s.nextId) : Safe (Keeps s) (s.routeAdded cfg route) := by
  have hsame : Keeps s s := .of_weakened h (.refl h.kernelOk)
  unfold routeAdded
  cases hie : s.localInterface cfg route with
  | none =>
    split_ifs
    · exact hsame
    · exact hsame
    · exact hsame
  | some ie =>
    split_ifs
    · exact hsame
    · exact hsame
    simp only
    cases hk : s.findRouteVia ie .iface with
    | none =>
      exact (safe_importRoute h (imported_interfaceRoute hlt hie)).mono fun s' h' => h'.1
    | some k =>
      -- the route of the interface is there again
      refine keeps_modifyRoute h fun r hr => ?_
      have htype : r.type = .iface := by
        obtain ⟨hlt, hp, -⟩ := List.findIdx?_eq_some_iff_getElem.1 hk
        rw [List.getElem?_eq_getElem hlt, Option.some.injEq] at hr
        simp only [Bool.and_eq_true, beq_iff_eq] at hp
        exact hr ▸ hp.1
      have hrange := getInterfaceMetric_range s ie
      refine ⟨⟨⟨hrange.1, hrange.2.le, ?_⟩, ?_, ?_, ?_⟩, ?_⟩
      · simp [hrange.2.ne]
      · intro i hi
        cases hi
        exact hlt
      · simp [htype]
      · simp [htype]
      · intro _ _ i hi
        cases hi
        rw [(localInterface_spec hie).1]
        exact nofun

theorem safe_routeChanged (h : Ok s) (route : IPv4Route) :
    Safe (Keeps s) (s.routeChanged route) := by
  have hsame : Keeps s s := .of_weakened h (.refl h.kernelOk)
  unfold routeChanged
  split_ifs
  · exact hsame
  cases s.findRouteOf route.id with
  | none => exact hsame
  | some k =>
    simp only
    cases hk : s.ripRoutes[k]? with
    | none => exact hsame
    | some r =>
      refine Except.Ensures.bind (P := fun _ => True) ?_ fun changed _ => ?_
      · unfold differs makeNetmask
        split_ifs <;> first | trivial | exact nofun
      · refine keeps_modifyRoute h fun r' hr' => ?_
        have hr := h.routes r' (mem_of_getElem? hr')
        exact ⟨⟨⟨hr.one_le_metric, hr.metric_le, hr.metric_eq_iff⟩, hr.lt, hr.own, hr.type_ne⟩,
          fun hif => hif r' (mem_of_getElem? hr')⟩

theorem safe_externalRouteAdded (cfg : RIPConfig) (h : Ok s) (route : IPv4Route)
    (source : Option ℕ) : Safe (Keeps s) (s.externalRouteAdded cfg route source) := by
  unfold externalRouteAdded
  refine Except.Ensures.bind (Except.Ensures.mapError (fun _ h => h) nofun) fun rt hrt => ?_
  obtain ⟨t0, ht0, hroutes⟩ := addRoute_eq hrt
  have hids : rt.ids.Subperm (s.nextId :: s.rt.ids) := by
    unfold ids
    rw [hroutes]
    exact ids_internalAddRoute ht0
  have hacc : OwnAccepted (s.newRoute (sourceOf source)) → ∀ x ∈ rt.routes,
      (s.newRoute (sourceOf source)).source x.id = .rip → x.Accepted := by
    intro hacc x hx hsource
    rw [hroutes] at hx
    rcases mem_internalAddRoute ht0 hx with rfl | hx
    · exact accepted_of_internalAddRoute ht0
    · exact hacc.accepted x hx hsource
  have hweak : Weakened s ((s.newRoute (sourceOf source)).tableChanged rt) :=
    (weakened_newRoute h.kernelOk _).trans
      (weakened_tableChanged (h.kernelOk.of_subperm_cons hids (Nat.lt_succ_self _)) hacc)
  have hkeeps := Keeps.of_weakened h hweak
  refine (safe_notify hkeeps.ok (safe_routeAdded cfg hkeeps.ok ?_)).mono fun s' h' => hkeeps.trans h'
  simp [newRoute]

theorem safe_netmaskRouteAdded (cfg : RIPConfig) (h : Ok s) (ie : InterfaceEntry) :
    Safe (Keeps s) (s.netmaskRouteAdded cfg ie) := by
  unfold netmaskRouteAdded
  cases hroute : netmaskRoute (s.nextId, ie) with
  | none => exact Keeps.of_weakened h (.refl h.kernelOk)
  | some route =>
    have hid : route.id = s.nextId := id_netmaskRoute hroute
    simp only
    generalize hs1 : ({ s.newRoute (.iface ie.interfaceId) with
      rt := invalidateCache { s.rt with
        routes := insert routeLessThan route s.rt.routes } } :
        RIPRouting) = s1
    have hids : s1.rt.ids.Subperm (s.nextId :: s.rt.ids) := by
      subst hs1
      have hperm : (insert routeLessThan route s.rt.routes).Perm
          (route :: s.rt.routes) := insert_perm route
      have hperm' := hperm.map (·.id)
      rw [map_cons, hid] at hperm'
      exact hperm'.subperm
    have hweak : Weakened s s1 := by
      have hok := h.kernelOk.of_subperm_cons hids (by subst hs1; exact Nat.lt_succ_self _)
      subst hs1
      refine .of_forall₂ ⟨hok, fun hacc => hok.ownAccepted fun x hx hsource => ?_, Nat.le_succ _,
        fun _ hi => update_of_ne hi.ne _ _, rfl, rfl, rfl⟩ (forall₂_weaker_refl _)
      rcases mem_insert.1 hx with rfl | hx
      · -- the source of the route is the interface
        rw [hid] at hsource
        have hself : (s.newRoute (.iface ie.interfaceId)).source s.nextId = .iface ie.interfaceId :=
          update_self _ _ _
        exact absurd (hself.symm.trans hsource) nofun
      · have hsame : (s.newRoute (.iface ie.interfaceId)).source x.id = s.source x.id :=
          update_of_ne (hacc.lt x hx).ne _ _
        exact hacc.accepted x hx (hsame.symm.trans hsource)
    have hkeeps := Keeps.of_weakened h hweak
    refine (safe_notify hkeeps.ok (safe_routeAdded cfg hkeeps.ok ?_)).mono fun s' h' =>
      hkeeps.trans h'
    subst hs1
    exact hid.trans_lt (Nat.lt_succ_self _)

theorem safe_externalRouteChanged (h : Ok s) (route : ℕ) (change : RouteUpdate) :
    Safe (Keeps s) (s.externalRouteChanged route change) := by
  have hsame : Keeps s s := .of_weakened h (.refl h.kernelOk)
  unfold externalRouteChanged
  cases s.rt.routes.find? (·.id == route) with
  | none => exact hsame
  | some r =>
    simp only
    split_ifs with hrip
    · exact hsame
    push Not at hrip
    refine Except.Ensures.bind (Except.Ensures.mapError (fun _ h => h) nofun) fun rt hrt => ?_
    have hids : rt.ids.Subperm s.rt.ids := ids_setField (fun r => by cases change <;> rfl) hrt
    have hacc : OwnAccepted s → ∀ x ∈ rt.routes, s.source x.id = .rip → x.Accepted := by
      intro hacc x hx hsource
      rcases mem_setField hrt hx with hx | ⟨y, -, hid, rfl⟩
      · exact hacc.accepted x hx hsource
      · have hroute : (change.apply y).id = route := by
          rw [← hid]
          cases change <;> rfl
        exact absurd (hroute ▸ hsource) hrip.1
    have hweak : Weakened s (s.tableChanged rt) :=
      weakened_tableChanged (h.kernelOk.of_subperm hids le_rfl) hacc
    have hkeeps := Keeps.of_weakened h hweak
    exact (safe_notify hkeeps.ok (safe_routeChanged hkeeps.ok _)).mono fun s' h' => hkeeps.trans h'

/-! ### Responses -/

theorem one_le_receivedMetric (incomingIe : RIPInterfaceEntry) (entry : RIPEntry) :
    1 ≤ receivedMetric incomingIe entry := by
  have := incomingIe.one_le_metric
  refine le_min ?_ (by decide)
  omega

variable {incomingIe : RIPInterfaceEntry} {entry : RIPEntry}

/-- A RIP route that has just been learnt is consistent. -/
theorem Learnt.routeOk {type : RouteType} {dest nextHop fromAddr : IPv4Address} {prefixLength : ℤ}
    (h : Learnt s s' type dest prefixLength ie nextHop (receivedMetric incomingIe entry) fromAddr r)
    (htype : type ≠ .redistribute) : RouteOk s' r := by
  have hle := receivedMetric_le incomingIe entry
  have hpointer := h.route
  rw [← h.metric_eq] at hle hpointer
  unfold NewPointer at hpointer
  split_ifs at hpointer with hlt
  · obtain ⟨i, hi, -, hilt, hsource⟩ := hpointer
    refine ⟨⟨?_, hle, by simp [hi, hlt.ne]⟩, fun j hj => ?_, fun _ j hj => ?_, ?_⟩
    · rw [h.metric_eq]
      exact one_le_receivedMetric incomingIe entry
    · rw [hi] at hj
      cases hj
      exact hilt
    · rw [hi] at hj
      cases hj
      exact hsource
    · rw [h.type_eq]
      exact htype
  · have hinf : r.metric = ripInfiniteMetric := le_antisymm hle (not_lt.1 hlt)
    refine ⟨⟨?_, hle, by simp [hinf, hpointer]⟩, fun j hj => ?_, fun _ j hj => ?_, ?_⟩
    · rw [hinf]
      decide
    · rw [hpointer] at hj
      cases hj
    · rw [hpointer] at hj
      cases hj
    · rw [h.type_eq]
      exact htype

theorem Ok.changeable (h : Ok s) (hr : r ∈ s.ripRoutes) : Changeable (fun _ => True) s r :=
  ⟨(h.routes r hr).lt, (h.routes r hr).own, fun _ _ _ _ => trivial, fun _ _ _ _ _ _ => trivial⟩

variable {lost : IPv4Route → Prop}

/-- The RIP routes that an entry has not changed on purpose. -/
theorem Effect.routeOk (h : Effect lost k s s') (hok : Ok s)
    (hself : ∀ r', s'.ripRoutes[k]? = some r' → RouteOk s' r') : Ok s' := by
  refine ⟨h.kernelOk, fun r' hr' => ?_⟩
  obtain ⟨j, hj⟩ := mem_iff_getElem?.1 hr'
  by_cases hjk : j = k
  · exact hself r' (hjk ▸ hj)
  · obtain ⟨r, hr, hweaker, -⟩ := h.others j hjk r' hj
    exact (hok.routes r (mem_of_getElem? hr)).of_weaker h.toEnv hweaker

variable {srcAddr : IPv4Address}

theorem EntryEffect.ok (h : Ok s)
    (he : EntryEffect lost s incomingIe srcAddr entry s') : Ok s' := by
  cases he with
  | ignored => exact h
  | confirmed k =>
    refine (keeps_modifyRoute h fun r hr => ?_).ok
    have hr := h.routes r (mem_of_getElem? hr)
    exact ⟨⟨⟨hr.one_le_metric, hr.metric_le, hr.metric_eq_iff⟩, hr.lt, hr.own, hr.type_ne⟩,
      fun hif => hif r (mem_of_getElem? ‹_›)⟩
  | updated hadopts heffect hself hlearnt =>
    refine heffect.routeOk h fun r'' hr'' => ?_
    rw [hself, Option.some.injEq] at hr''
    subst hr''
    refine hlearnt.routeOk ?_
    split_ifs
    · exact nofun
    · exact (h.routes _ (mem_of_getElem? hadopts.getElem?)).type_ne
  | added hnew hfinite heffect hlearnt =>
    have hok := (heffect s.ripRoutes.length).routeOk h fun r'' hr'' => by
      have := (heffect s.ripRoutes.length).length
      rw [List.getElem?_eq_none (by omega)] at hr''
      cases hr''
    refine ⟨⟨hok.kernelOk.lt, hok.kernelOk.nodup⟩, fun r'' hr'' => ?_⟩
    rcases mem_append.1 hr'' with hr'' | hr''
    · have := hok.routes r'' hr''
      exact ⟨this.toConsistent, this.lt, this.own, this.type_ne⟩
    · rw [mem_singleton.1 hr'']
      exact hlearnt.routeOk nofun

theorem EntryEffect.env (hs : KernelOk s)
    (h : EntryEffect lost s incomingIe srcAddr entry s') : Env s s' := by
  cases h with
  | ignored => exact .refl hs
  | confirmed k => exact ⟨⟨hs.lt, hs.nodup⟩, fun h => ⟨h.lt, h.accepted⟩, le_rfl, fun _ _ => rfl,
      rfl, rfl, rfl⟩
  | updated hadopts heffect hself hlearnt => exact heffect.toEnv
  | added hnew hfinite heffect hlearnt =>
    have henv := (heffect 0).toEnv
    exact { henv with
      kernelOk := ⟨henv.kernelOk.lt, henv.kernelOk.nodup⟩
      ownAccepted := fun h => ⟨(henv.ownAccepted h).lt, (henv.ownAccepted h).accepted⟩ }

/-- A RIP route after an entry is an old one, perhaps made invalid, or has just been learnt. -/
theorem EntryEffect.mem
    (h : EntryEffect lost s incomingIe srcAddr entry s') (hr' : r' ∈ s'.ripRoutes) :
    (∃ r ∈ s.ripRoutes, r'.Weaker r) ∨
      ∃ type, Learnt s s' type entry.address entry.prefixLength incomingIe.ie
        (entryNextHop srcAddr entry) (receivedMetric incomingIe entry) srcAddr r' := by
  have hothers : ∀ {k j : ℕ} {s1 : RIPRouting}, Effect lost k s s1 → j ≠ k →
      s1.ripRoutes[j]? = some r' → ∃ r ∈ s.ripRoutes, r'.Weaker r := by
    intro k j s1 he hjk hj
    obtain ⟨r, hr, hweaker, -⟩ := he.others j hjk r' hj
    exact ⟨r, mem_of_getElem? hr, hweaker⟩
  cases h with
  | ignored => exact .inl ⟨r', hr', .refl r'⟩
  | confirmed k =>
    obtain ⟨j, hj⟩ := mem_iff_getElem?.1 hr'
    simp only [modifyRoute, List.getElem?_modify] at hj
    obtain ⟨r, hr, rfl⟩ := map_eq_some_iff.1 hj
    refine .inl ⟨r, mem_of_getElem? hr, ?_⟩
    split_ifs
    · exact ⟨rfl, rfl, rfl, rfl, rfl, rfl, .inl ⟨rfl, rfl⟩⟩
    · exact .refl r
  | @updated _ k r r1 hadopts heffect hself hlearnt =>
    obtain ⟨j, hj⟩ := mem_iff_getElem?.1 hr'
    by_cases hjk : j = k
    · subst hjk
      rw [hself, Option.some.injEq] at hj
      exact .inr ⟨_, hj ▸ hlearnt⟩
    · exact .inl (hothers heffect hjk hj)
  | @added s1 r1 hnew hfinite heffect hlearnt =>
    rcases mem_append.1 hr' with hr' | hr'
    · obtain ⟨j, hj⟩ := mem_iff_getElem?.1 hr'
      exact .inl (hothers (heffect (j + 1)) (Nat.succ_ne_self j).symm hj)
    · rw [mem_singleton.1 hr']
      exact .inr ⟨_, hlearnt⟩

theorem safe_processEntry_true (h : Ok s) (incomingIe : RIPInterfaceEntry) (srcAddr : IPv4Address)
    (entry : RIPEntry) :
    Safe (EntryEffect (fun _ => True) s incomingIe srcAddr entry)
      (s.processEntry incomingIe srcAddr entry) :=
  safe_processEntry h.kernelOk (fun r hr => (h.routes r hr).metric_eq_iff)
    (fun _ _ hadopts => ⟨h.changeable (mem_of_getElem? hadopts.getElem?),
      fun _ _ _ => trivial⟩) fun _ _ _ _ _ => trivial

theorem safe_processEntries (incomingIe : RIPInterfaceEntry) (srcAddr : IPv4Address)
    (entries : List RIPEntry) (h : Ok s) :
    Safe (fun s' => Ok s' ∧ (OwnAccepted s → OwnAccepted s'))
      (processEntries incomingIe srcAddr entries s) := by
  induction entries generalizing s with
  | nil => exact ⟨h, id⟩
  | cons entry rest ih =>
    refine (safe_processEntry_true h incomingIe srcAddr entry).bind fun s1 he => ?_
    exact (ih (he.ok h)).mono fun s' h' => ⟨h'.1, h'.2 ∘ (he.env h.kernelOk).ownAccepted⟩

theorem safe_processResponse (h : Ok s) (cfg : RIPConfig) (view : AddressView)
    (ind : UDPDataIndication) (entries : List RIPEntry) :
    Safe (fun s' => Ok s' ∧ (OwnAccepted s → OwnAccepted s'))
      (s.processResponse cfg view ind entries) := by
  unfold processResponse
  split_ifs
  · cases s.findInterfaceById ind.interfaceId with
    | none => exact ⟨h, id⟩
    | some incomingIe => exact safe_processEntries incomingIe ind.srcAddr entries h
  · exact ⟨h, id⟩

/-! ### Every action -/

/-- Only the entries for a destination are filled in. -/
theorem answers_of_none {numEntries : ℕ} {entries : List RIPEntry}
    {filled : Option (List RIPEntry)} (hne : entries ≠ [])
    (hnone : ∀ entry ∈ entries, entry.addressFamilyId = ripAfNone)
    (h : s.answers numEntries entries = .ok filled) : filled = none := by
  cases entries with
  | nil => exact absurd rfl hne
  | cons entry rest =>
    unfold answers at h
    rw [if_pos (hnone entry mem_cons_self)] at h
    split_ifs at h
    cases h
    rfl

/-- The answer to a request for the whole table announces the RIP routes. -/
theorem safe_processRequest (hs : KernelOk s) (cfg : RIPConfig) (ind : UDPDataIndication)
    (entries : List RIPEntry) :
    Safe (fun p => Weakened s p.1 ∧ ((∀ entry ∈ entries, entry.addressFamilyId = ripAfNone) →
        AllResponses s.ripRoutes p.2))
      (s.processRequest cfg ind entries) := by
  unfold processRequest
  by_cases hempty : entries = []
  · rw [if_pos hempty]
    exact ⟨.refl hs, fun _ => nofun⟩
  rw [if_neg hempty]
  have hanswers : ∀ l : List RIPEntry, Safe (fun _ => True) (s.answers entries.length l) := by
    intro l
    induction l with
    | nil => trivial
    | cons entry rest ih =>
      unfold answers
      split_ifs
      · trivial
      · exact nofun
      · exact ih.bind fun _ _ => trivial
      · exact nofun
  cases hfilled : s.answers entries.length entries with
  | error e => exact (hanswers entries).of_eq_error hfilled
  | ok filled =>
    cases filled with
    | some filled =>
      refine ⟨.refl hs, fun hall => ?_⟩
      cases answers_of_none hempty hall hfilled
    | none =>
      simp only [ok_bind]
      cases s.findInterfaceById ind.interfaceId with
      | none => exact ⟨.refl hs, fun _ => nofun⟩
      | some ripInterface =>
        exact (safe_sendRoutes hs cfg _ _ ripInterface false).mono fun p hp =>
          ⟨hp.1, fun _ => hp.2.1⟩

theorem keeps_stopRIPRouting (h : Ok s) : Keeps s s.stopRIPRouting :=
  .of_subset h (nil_subset _) rfl rfl rfl

theorem safe_startRIPRouting (h : Ok s) (cfg : RIPConfig) (ift : List ℕ) :
    Safe (fun p => Keeps s p.1) (s.startRIPRouting cfg ift) := by
  unfold startRIPRouting
  refine (safe_configureInterfaces cfg ift s).bind ?_
  rintro s1 ⟨ifs, rfl⟩
  have hkeeps : Keeps s { s with ripInterfaces := ifs } :=
    .of_subset h (List.Subset.refl _) rfl rfl rfl
  refine (safe_configureInitialRoutes cfg _ hkeeps.ok fun route hroute => ?_).bind fun s2 h2 => ?_
  · exact h.kernelOk.lt _ (id_mem_ids hroute)
  · exact hkeeps.trans (h2.trans (.of_subset h2.ok (List.Subset.refl _) rfl rfl rfl))

/-- The action is a response that is received. -/
def IsResponse : RIPAction → Prop
  | .receive _ _ packet => packet.command ≠ ripRequest ∧ packet.command = ripResponse
  | _ => False

/-- The action adds no RIP route and changes no destination. -/
def IsPlain : RIPAction → Bool
  | .start _ | .routeAdded _ _ | .netmaskRouteAdded _ | .routeChanged _ _ => false
  | .receive _ _ packet => packet.command == ripRequest || packet.command != ripResponse
  | _ => true

/-- Only the RIP routes of the old state are left, some of them invalid. -/
def Fewer (s s' : RIPRouting) : Prop :=
  List.SublistForall₂ (fun r' r => r'.Weaker r) s'.ripRoutes s.ripRoutes

theorem Fewer.of_sublist (h : s'.ripRoutes.Sublist s.ripRoutes) : Fewer s s' :=
  sublistForall₂_iff.2 ⟨_, forall₂_weaker_refl _, h⟩

variable {a : RIPAction}

theorem safe_plain (h : Ok s) (cfg : RIPConfig) (ha : IsPlain a = true) :
    Safe (fun p => Keeps s p.1 ∧ Fewer s p.1) (s.handle cfg a) := by
  have hweaken : ∀ {s'}, Weakened s s' → Keeps s s' ∧ Fewer s s' :=
    fun hw => ⟨.of_weakened h hw, hw.ripRoutes⟩
  have hsame : Keeps s s ∧ Fewer s s := hweaken (.refl h.kernelOk)
  cases a with
  | start ift => cases ha
  | routeAdded route source => cases ha
  | netmaskRouteAdded ie => cases ha
  | routeChanged route change => cases ha
  | stop => exact ⟨keeps_stopRIPRouting h, Fewer.of_sublist (nil_sublist _)⟩
  | shutdown =>
    unfold handle shutdown
    have hweak := weakened_invalidateWhere h.kernelOk fun _ => true
    refine (safe_sendRoutesOn cfg false _ hweak.kernelOk).bind ?_
    rintro ⟨s', sent⟩ ⟨hweak', -, -⟩
    have hkeeps := Keeps.of_weakened h (hweak.trans hweak')
    exact ⟨hkeeps.trans (keeps_stopRIPRouting hkeeps.ok), Fewer.of_sublist (nil_sublist _)⟩
  | advance time => exact ⟨.of_subset h (List.Subset.refl _) rfl rfl rfl, hsame.2⟩
  | receive view ind packet =>
    unfold handle receivePacket
    simp only
    by_cases hrequest : packet.command = ripRequest
    · rw [if_pos hrequest]
      exact (safe_processRequest h.kernelOk cfg ind packet.entries).mono fun p hp => hweaken hp.1
    · have hresponse : packet.command ≠ ripResponse := by simpa [IsPlain, hrequest] using ha
      rw [if_neg hrequest, if_neg hresponse]
      exact nofun
  | update triggered =>
    exact (safe_processUpdate h.kernelOk cfg triggered).mono fun p hp => hweaken hp.1
  | interfaceCreated ie =>
    refine Except.Ensures.bind (P := fun s' => Keeps s s' ∧ Fewer s s') ?_ fun _ hp => hp
    unfold notify
    split_ifs with _ hie
    · cases cfg.interfaceElement ie with
      | none => exact hsame
      | some config =>
        refine (safe_addInterface ie (some config) hie).mono ?_
        rintro s' ⟨ifs, rfl⟩
        exact ⟨.of_subset h (List.Subset.refl _) rfl rfl rfl, hsame.2⟩
    · exact hsame
    · exact hsame
  | interfaceDeleted ie =>
    refine Except.Ensures.bind (P := fun s' => Keeps s s' ∧ Fewer s s') ?_ fun _ hp => hp
    unfold notify
    split_ifs
    · exact ⟨Keeps.of_subset h filter_sublist.subset rfl rfl rfl, Fewer.of_sublist filter_sublist⟩
    · exact hsame
  | interfaceStateChanged ie up =>
    simp only [handle]
    by_cases hsub : (!s.subscribed) = true
    · rw [if_pos hsub]
      exact hsame
    rw [if_neg hsub]
    cases up with
    | true =>
      cases s.findInterfaceById ie with
      | none => exact hsame
      | some ripInterface => exact hsame
    | false => exact hweaken (weakened_invalidateWhere h.kernelOk _)
  | routeDeleted route => exact hweaken (weakened_deleteRoute h.kernelOk route)

/-- The invariants are kept and no assertion fails; only a response may give a RIP route of an
interface another IPv4 route. -/
theorem safe_handle (h : Ok s) (cfg : RIPConfig) (a : RIPAction) :
    Safe (fun p => Ok p.1 ∧ (OwnAccepted s → OwnAccepted p.1) ∧
        (¬IsResponse a → InterfacesOk s → InterfacesOk p.1))
      (s.handle cfg a) := by
  have hweaken : ∀ {x : Except RIPFault (RIPRouting × List SentPacket)},
      Safe (fun p => Keeps s p.1) x →
      Safe (fun p => Ok p.1 ∧ (OwnAccepted s → OwnAccepted p.1) ∧
        (¬IsResponse a → InterfacesOk s → InterfacesOk p.1)) x :=
    fun hx => hx.mono fun p hp => ⟨hp.ok, hp.ownAccepted, fun _ => hp.interfacesOk⟩
  by_cases hplain : IsPlain a = true
  · exact hweaken ((safe_plain h cfg hplain).mono fun p hp => hp.1)
  cases a with
  | start ift =>
    simp only [handle]
    split_ifs
    · exact hweaken (Keeps.of_weakened h (.refl h.kernelOk))
    · exact hweaken (safe_startRIPRouting h cfg ift)
  | receive view ind packet =>
    obtain ⟨hrequest, hresponse⟩ : packet.command ≠ ripRequest ∧ packet.command = ripResponse := by
      simpa [IsPlain] using hplain
    unfold handle receivePacket
    simp only [if_neg hrequest, if_pos hresponse]
    exact (safe_processResponse h cfg view ind packet.entries).bind fun s' h' =>
      ⟨h'.1, h'.2, fun hnot => absurd ⟨hrequest, hresponse⟩ hnot⟩
  | routeAdded route source =>
    exact hweaken ((safe_externalRouteAdded cfg h route source).bind fun s' h' => h')
  | netmaskRouteAdded ie =>
    exact hweaken ((safe_netmaskRouteAdded cfg h ie).bind fun s' h' => h')
  | routeChanged route change =>
    exact hweaken ((safe_externalRouteChanged h route change).bind fun s' h' => h')
  | _ => exact absurd rfl hplain

theorem safe_step (h : Ok s) (cfg : RIPConfig) (a : RIPAction) :
    Safe (fun s' => Ok s' ∧ (OwnAccepted s → OwnAccepted s') ∧
        (¬IsResponse a → InterfacesOk s → InterfacesOk s')) (step cfg s a) :=
  (safe_handle h cfg a).bind fun _ hp => hp

theorem ok_init : Ok init := ⟨⟨nofun, nodup_nil⟩, nofun⟩

/-! ### The routes of interfaces -/

/-- The IPv4 routes of the table that RIP routes of interfaces point to. -/
def interfaceRoutes (s : RIPRouting) : Set ℕ :=
  {i | i ∈ s.rt.ids ∧ ∃ r ∈ s.ripRoutes, r.type = .iface ∧ r.route = some i}

/-- The RIP route points to a default route of the IPv4 routing table. -/
def PointsToDefault (s : RIPRouting) (r : RIPRoute) : Prop :=
  ∃ x ∈ s.rt.routes, r.route = some x.id ∧ x.netmask = 0

/-- The network of no interface is the default route. -/
def NoInterfaceDefault (s : RIPRouting) : Prop :=
  ∀ r ∈ s.ripRoutes, r.type = .iface → ¬s.PointsToDefault r

instance (s : RIPRouting) (r : RIPRoute) : Decidable (s.PointsToDefault r) :=
  inferInstanceAs (Decidable (∃ x ∈ s.rt.routes, r.route = some x.id ∧ x.netmask = 0))

instance (s : RIPRouting) : Decidable s.NoInterfaceDefault :=
  inferInstanceAs (Decidable (∀ r ∈ s.ripRoutes, r.type = .iface → ¬s.PointsToDefault r))

/-- The entry does not update a valid route of an interface, and it does not replace the default
route when an interface has that one. -/
def EntryAdmissible (s : RIPRouting) (incomingIe : RIPInterfaceEntry) (srcAddr : IPv4Address)
    (entry : RIPEntry) : Prop :=
  match (s.findRoute entry.address entry.prefixLength).bind fun k => s.ripRoutes[k]? with
  | some r =>
    isFixed r = false → isAdopted r srcAddr (receivedMetric incomingIe entry) = true →
      (r.type = .iface → r.metric = ripInfiniteMetric) ∧
      (entry.prefixLength = 0 ∨ s.PointsToDefault r → s.NoInterfaceDefault)
  | none =>
    receivedMetric incomingIe entry < ripInfiniteMetric → entry.prefixLength = 0 →
      s.NoInterfaceDefault

instance (s : RIPRouting) (incomingIe : RIPInterfaceEntry) (srcAddr : IPv4Address)
    (entry : RIPEntry) : Decidable (EntryAdmissible s incomingIe srcAddr entry) := by
  unfold EntryAdmissible
  split <;> infer_instance

/-- Each entry is admissible when its turn comes. -/
def EntriesAdmissible (incomingIe : RIPInterfaceEntry) (srcAddr : IPv4Address) :
    List RIPEntry → RIPRouting → Prop
  | [], _ => True
  | entry :: rest, s =>
    EntryAdmissible s incomingIe srcAddr entry ∧
      match s.processEntry incomingIe srcAddr entry with
      | .ok s' => EntriesAdmissible incomingIe srcAddr rest s'
      | .error _ => True

instance decidableEntriesAdmissible (incomingIe : RIPInterfaceEntry) (srcAddr : IPv4Address) :
    ∀ (entries : List RIPEntry) (s : RIPRouting),
      Decidable (EntriesAdmissible incomingIe srcAddr entries s)
  | [], _ => inferInstanceAs (Decidable True)
  | entry :: rest, s => by
    unfold EntriesAdmissible
    have := decidableEntriesAdmissible incomingIe srcAddr rest
    cases s.processEntry incomingIe srcAddr entry <;> infer_instance

/-- The condition on an action: the entries of a response that is processed are admissible. -/
def Admissible (cfg : RIPConfig) (s : RIPRouting) : RIPAction → Prop
  | .receive view ind packet =>
    packet.command = ripResponse → isValidResponse cfg view ind packet.entries = true →
      ∀ incomingIe ∈ s.findInterfaceById ind.interfaceId,
        EntriesAdmissible incomingIe ind.srcAddr packet.entries s
  | _ => True

instance (cfg : RIPConfig) (s : RIPRouting) (a : RIPAction) : Decidable (Admissible cfg s a) := by
  cases a <;> unfold Admissible <;> infer_instance

/-- What is kept when the entry is admissible: the default routes that may be lost are not those
of interfaces. -/
theorem safe_processEntry_admissible (h : Ok s)
    (hadm : EntryAdmissible s incomingIe srcAddr entry) :
    Safe (EntryEffect (fun x => x.netmask = 0 ∧ s.NoInterfaceDefault) s incomingIe srcAddr entry)
      (s.processEntry incomingIe srcAddr entry) := by
  refine safe_processEntry h.kernelOk (fun r hr => (h.routes r hr).metric_eq_iff)
    (fun k r hadopts => ?_) fun hnew hfinite hlength x hx => ⟨hx, ?_⟩
  · have hok := h.routes r (mem_of_getElem? hadopts.getElem?)
    simp only [EntryAdmissible, hadopts.found, bind_some, hadopts.getElem?] at hadm
    obtain ⟨hiface, hdefault⟩ := hadm hadopts.not_fixed hadopts.adopted
    refine ⟨⟨hok.lt, hok.own, fun x _ hxr hsource => ?_, fun y hy hyr hzero x hx =>
      ⟨hx, hdefault (.inr ⟨y, hy, hyr, hzero⟩)⟩⟩, fun hlength x hx => ⟨hx, hdefault (.inl hlength)⟩⟩
    -- a route of others is pointed to by no route that is updated
    exfalso
    have hvalid : r.metric ≠ ripInfiniteMetric := by
      rw [Ne, hok.metric_eq_iff, hxr]
      exact nofun
    cases htype : r.type with
    | rte => exact hsource (hok.own htype _ hxr)
    | iface => exact hvalid (hiface htype)
    | redistribute => exact hok.type_ne htype
    | static =>
      have := hadopts.not_fixed
      simp [isFixed, htype, hvalid] at this
    | default =>
      have := hadopts.not_fixed
      simp [isFixed, htype, hvalid] at this
  · simp only [EntryAdmissible, hnew, bind_none] at hadm
    exact hadm hfinite hlength

theorem Effect.interfaceRoutes (hif : InterfacesOk s)
    (he : Effect (fun x => x.netmask = 0 ∧ s.NoInterfaceDefault) k s s')
    (hk : ∀ r, s.ripRoutes[k]? = some r → r.type = .iface → r.route = none) :
    s.interfaceRoutes ⊆ s'.interfaceRoutes := by
  rintro i ⟨hi, r, hr, htype, hroute⟩
  obtain ⟨j, hj⟩ := mem_iff_getElem?.1 hr
  have hjk : j ≠ k := by
    rintro rfl
    rw [hk r hj htype] at hroute
    cases hroute
  have hnot : ∀ x ∈ s.rt.routes, r.route = some x.id → ¬(x.netmask = 0 ∧ s.NoInterfaceDefault) :=
    fun x hx hxr ⟨hzero, hno⟩ => hno r hr htype ⟨x, hx, hxr, hzero⟩
  obtain ⟨x, hx, rfl⟩ := mem_ids.1 hi
  have hx' := he.kept x hx (hif r hr htype _ hroute) (hnot x hx hroute)
  refine ⟨id_mem_ids hx', ?_⟩
  have hlt : j < s'.ripRoutes.length := by
    rw [he.length]
    exact (List.getElem?_eq_some_iff.1 hj).1
  obtain ⟨r0, hr0, hweaker, hsame⟩ := he.others j hjk _ (List.getElem?_eq_getElem hlt)
  rw [hj, Option.some.injEq] at hr0
  subst hr0
  refine ⟨_, getElem_mem hlt, hweaker.type.trans htype, ?_⟩
  rcases hsame with hsame | ⟨y, hy, hlost, -, hyr⟩
  · rw [hsame, hroute]
  · exact absurd hlost (hnot y hy hyr)

theorem Effect.interfacesOk (hok : Ok s) (hif : InterfacesOk s)
    (he : Effect lost k s s') (hself : ∀ r', s'.ripRoutes[k]? = some r' → r'.type ≠ .iface) :
    InterfacesOk s' := by
  intro r' hr' htype i hi
  obtain ⟨j, hj⟩ := mem_iff_getElem?.1 hr'
  have hjk : j ≠ k := by
    rintro rfl
    exact hself r' hj htype
  obtain ⟨r, hr, hweaker, -⟩ := he.others j hjk r' hj
  have hr := mem_of_getElem? hr
  rcases hweaker.metric with ⟨-, hroute⟩ | ⟨-, hroute⟩
  · rw [hroute] at hi
    rw [he.source i ((hok.routes r hr).lt i hi)]
    exact hif r hr (hweaker.type ▸ htype) i hi
  · rw [hroute] at hi
    cases hi

theorem EntryEffect.interfaceRoutes (h : Ok s) (hif : InterfacesOk s)
    (hadm : EntryAdmissible s incomingIe srcAddr entry)
    (he : EntryEffect (fun x => x.netmask = 0 ∧ s.NoInterfaceDefault) s incomingIe srcAddr entry s') :
    s.interfaceRoutes ⊆ s'.interfaceRoutes ∧ InterfacesOk s' := by
  cases he with
  | ignored => exact ⟨Set.Subset.refl _, hif⟩
  | confirmed k =>
    refine ⟨?_, (keeps_modifyRoute h fun r hr => ?_).interfacesOk hif⟩
    · rintro i ⟨hi, r, hr, htype, hroute⟩
      refine ⟨hi, ?_⟩
      obtain ⟨j, hj⟩ := mem_iff_getElem?.1 hr
      refine ⟨if k = j then { r with lastUpdateTime := s.simTime } else r,
        mem_of_getElem? (i := j) ?_, ?_, ?_⟩
      · simp [modifyRoute, List.getElem?_modify, hj]
      · split_ifs <;> exact htype
      · split_ifs <;> exact hroute
    · have hr' := h.routes r (mem_of_getElem? hr)
      exact ⟨⟨⟨hr'.one_le_metric, hr'.metric_le, hr'.metric_eq_iff⟩, hr'.lt, hr'.own, hr'.type_ne⟩,
        fun hif => hif r (mem_of_getElem? hr)⟩
  | @updated _ k r r' hadopts heffect hself hlearnt =>
    simp only [EntryAdmissible, hadopts.found, bind_some, hadopts.getElem?] at hadm
    have hinf := (hadm hadopts.not_fixed hadopts.adopted).1
    refine ⟨heffect.interfaceRoutes hif fun r0 hr0 htype => ?_,
      heffect.interfacesOk h hif fun r0 hr0 htype => ?_⟩
    · rw [hadopts.getElem?, Option.some.injEq] at hr0
      subst hr0
      exact (h.routes r (mem_of_getElem? hadopts.getElem?)).metric_eq_iff.1 (hinf htype)
    · rw [hself, Option.some.injEq] at hr0
      subst hr0
      have := hlearnt.type_eq
      split_ifs at this with hmetric
      · rw [htype] at this
        cases this
      · exact hmetric (hinf (this ▸ htype))
  | @added s1 r' hnew hfinite heffect hlearnt =>
    have hlength := (heffect s.ripRoutes.length).length
    have hempty : ∀ r0, s.ripRoutes[s.ripRoutes.length]? = some r0 → r0.type ≠ .iface := by simp
    have hempty' : ∀ r0, s1.ripRoutes[s.ripRoutes.length]? = some r0 → r0.type ≠ .iface := by
      intro r0 hr0
      rw [List.getElem?_eq_none (by omega)] at hr0
      cases hr0
    have hsub := (heffect s.ripRoutes.length).interfaceRoutes hif
      fun r0 hr0 htype => absurd htype (hempty r0 hr0)
    have hif1 := (heffect s.ripRoutes.length).interfacesOk h hif hempty'
    refine ⟨fun i hi => ?_, fun r0 hr0 htype => ?_⟩
    · obtain ⟨hid, r0, hr0, htype, hroute⟩ := hsub hi
      exact ⟨hid, r0, mem_append_left _ hr0, htype, hroute⟩
    · rcases mem_append.1 hr0 with hr0 | hr0
      · exact hif1 r0 hr0 htype
      · rw [mem_singleton.1 hr0, hlearnt.type_eq] at htype
        cases htype

theorem safe_processEntries_admissible (incomingIe : RIPInterfaceEntry) (srcAddr : IPv4Address)
    (entries : List RIPEntry) (h : Ok s) (hif : InterfacesOk s)
    (hadm : EntriesAdmissible incomingIe srcAddr entries s) :
    Safe (fun s' => s.interfaceRoutes ⊆ s'.interfaceRoutes ∧ InterfacesOk s')
      (processEntries incomingIe srcAddr entries s) := by
  induction entries generalizing s with
  | nil => exact ⟨Set.Subset.refl _, hif⟩
  | cons entry rest ih =>
    unfold processEntries
    obtain ⟨hentry, hrest⟩ := hadm
    have he := safe_processEntry_admissible h hentry
    cases hs1 : s.processEntry incomingIe srcAddr entry with
    | error e => exact he.of_eq_error hs1
    | ok s1 =>
      rw [hs1] at hrest
      obtain ⟨hsub, hif1⟩ := EntryEffect.interfaceRoutes h hif hentry (he.of_eq_ok hs1)
      have hok1 := EntryEffect.ok h (he.of_eq_ok hs1)
      exact (ih hok1 hif1 hrest).mono fun s' h' => ⟨hsub.trans h'.1, h'.2⟩

/-- An admissible action that is a response keeps the routes of the interfaces. -/
theorem interfaceRoutes_step (h : Ok s) (hif : InterfacesOk s) (hadm : Admissible cfg s a)
    (ha : IsResponse a) (hstep : step cfg s a = .ok s') :
    s.interfaceRoutes ⊆ s'.interfaceRoutes ∧ InterfacesOk s' := by
  cases a with
  | receive view ind packet =>
    obtain ⟨hne, hresponse⟩ := ha
    unfold step handle receivePacket at hstep
    simp only [if_neg hne, if_pos hresponse] at hstep
    unfold processResponse at hstep
    split_ifs at hstep with hvalid
    · cases hie : s.findInterfaceById ind.interfaceId with
      | none =>
        simp only [hie, ok_bind, pure_eq_ok, Except.ok.injEq] at hstep
        exact hstep ▸ ⟨Set.Subset.refl _, hif⟩
      | some incomingIe =>
        simp only [hie, pure_eq_ok] at hstep
        obtain ⟨p, hp, heq⟩ := bind_eq_ok.1 hstep
        obtain ⟨s1, hs1, hp⟩ := bind_eq_ok.1 hp
        cases hp
        cases heq
        exact (safe_processEntries_admissible incomingIe ind.srcAddr packet.entries h hif
          (hadm hresponse hvalid incomingIe hie)).of_eq_ok hs1
    · simp only [ok_bind, pure_eq_ok, Except.ok.injEq] at hstep
      exact hstep ▸ ⟨Set.Subset.refl _, hif⟩
  | _ => exact ha.elim

theorem interfacesOk_step (h : Ok s) (hif : InterfacesOk s) (hadm : Admissible cfg s a)
    (hstep : step cfg s a = .ok s') : InterfacesOk s' := by
  by_cases ha : IsResponse a
  · exact (interfaceRoutes_step h hif hadm ha hstep).2
  · exact ((safe_step h cfg a).of_eq_ok hstep).2.2 ha hif

/-! ### Runs -/

theorem interfacesOk_init : InterfacesOk init := nofun

variable {P : RIPRouting → RIPAction → Prop} {acts : List RIPAction}

/-- The RIP routes are consistent after every run, whatever the responses are. -/
theorem ok_of_run (h : Run (step cfg) P init acts s) : Ok s :=
  h.invariant (I := Ok) (fun _ a _ hok _ hstep => ((safe_step hok cfg a).of_eq_ok hstep).1) ok_init

/-- The IPv4 routes of the module have passed the checks after every run. -/
theorem ownAccepted_of_run (h : Run (step cfg) P init acts s) :
    OwnAccepted s :=
  (h.invariant (I := fun s => Ok s ∧ OwnAccepted s)
    (fun _ a _ hinv _ hstep =>
      have hkeeps := (safe_step hinv.1 cfg a).of_eq_ok hstep
      ⟨hkeeps.1, hkeeps.2.1 hinv.2⟩) ⟨ok_init, nofun, nofun⟩).2

theorem consistent_of_run {acts : List RIPAction}
    (h : Run (step cfg) (Admissible cfg) init acts s) :
    (∀ r ∈ s.ripRoutes, Consistent r) ∧ (∀ a, step cfg s a ≠ .error .assertion) ∧
      ∀ a s', IsResponse a → Admissible cfg s a → step cfg s a = .ok s' →
        s.interfaceRoutes ⊆ s'.interfaceRoutes := by
  have hinv : Ok s ∧ InterfacesOk s :=
    h.invariant (I := fun s => Ok s ∧ InterfacesOk s)
      (fun _ a _ hinv hadm hstep => ⟨((safe_step hinv.1 cfg a).of_eq_ok hstep).1,
        interfacesOk_step hinv.1 hinv.2 hadm hstep⟩) ⟨ok_init, interfacesOk_init⟩
  refine ⟨fun r hr => (hinv.1.routes r hr).toConsistent, fun a ha => ?_, fun a s' ha hadm hstep => ?_⟩
  · exact (safe_step hinv.1 cfg a).of_eq_error ha rfl
  · exact (interfaceRoutes_step hinv.1 hinv.2 hadm ha hstep).1

/-- A node with the interfaces 1 and 2, of which the second one has the metric 5. -/
def sampleConfig : RIPConfig where
  interfaceElement ie := some ⟨some (if ie = 2 then 5 else 1), none⟩

/-- The routing table adds the routes of 10.1.0.0/16 and of 10.2.0.0/16, and the module starts. -/
def sampleStart : List RIPAction :=
  [.netmaskRouteAdded ⟨1, 1500, false, some ⟨0x0A010001, 0xFFFF0000, 1⟩⟩,
    .netmaskRouteAdded ⟨2, 1500, false, some ⟨0x0A020001, 0xFFFF0000, 1⟩⟩, .start [1, 2]]

/-- The neighbour 10.1.0.2 announces a network with a prefix of 16 bits and the metric 1. -/
def sampleResponse (address : IPv4Address) : RIPAction :=
  .receive ⟨fun _ => false, fun _ => true⟩ ⟨0x0A010002, 520, 1⟩
    ⟨ripResponse, [{ addressFamilyId := ripAfInet, address, prefixLength := 16, metric := 1 }]⟩

theorem consistent_of_run_sample : ∃ s : RIPRouting, s.ripRoutes.map (fun r => (r.dest, r.metric)) =
      [(0x0A010000, 1), (0x0A020000, 5), (0x0A030000, 2)] ∧
    (∀ r ∈ s.ripRoutes, Consistent r) ∧ (∀ a, step sampleConfig s a ≠ .error .assertion) ∧
      ∀ a s', IsResponse a → Admissible sampleConfig s a → step sampleConfig s a = .ok s' →
        s.interfaceRoutes ⊆ s'.interfaceRoutes := by
  obtain ⟨s, hs, hroutes⟩ : ∃ s, Run (step sampleConfig) (Admissible sampleConfig) init
      (sampleStart ++ [sampleResponse 0x0A030000]) s ∧
      s.ripRoutes.map (fun r => (r.dest, r.metric)) =
        [(0x0A010000, 1), (0x0A020000, 5), (0x0A030000, 2)] :=
    exists_run_of_exec (by decide +kernel)
  exact ⟨s, hroutes, consistent_of_run hs⟩

/-- The neighbour announces 10.2.0.0/16 with a metric that is better than the one of the interface
with that network: the route of the interface is removed. -/
theorem not_keepsInterfaceRoutes : ∃ (s s' : RIPRouting) (i : ℕ),
    Run (step sampleConfig) (fun _ _ => True) init sampleStart s ∧
    step sampleConfig s (sampleResponse 0x0A020000) = .ok s' ∧
    i ∈ s.interfaceRoutes ∧ i ∉ s'.rt.ids := by
  obtain ⟨s, hs, h⟩ : ∃ s, Run (step sampleConfig) (fun _ _ => True) init sampleStart s ∧
      ((step sampleConfig s (sampleResponse 0x0A020000)).toOption.map fun s' => s'.rt.ids,
        s.rt.ids, s.ripRoutes.map fun r => (r.type, r.route)) =
      (some [0, 2], [0, 1], [(.iface, some 0), (.iface, some 1)]) :=
    exists_run_of_exec (by decide +kernel)
  simp only [Prod.mk.injEq] at h
  obtain ⟨hstep, hids, hroutes⟩ := h
  have hmem : (RouteType.iface, some 1) ∈ s.ripRoutes.map fun r => (r.type, r.route) := by
    rw [hroutes]
    decide
  obtain ⟨r, hr, heq⟩ := mem_map.1 hmem
  cases hs' : step sampleConfig s (sampleResponse 0x0A020000) with
  | error e =>
    rw [hs'] at hstep
    cases hstep
  | ok s' =>
    rw [hs'] at hstep
    have hstep : s'.rt.ids = [0, 2] := Option.some.inj hstep
    refine ⟨s, s', 1, hs, hs', ⟨?_, r, hr, congrArg Prod.fst heq, congrArg Prod.snd heq⟩, ?_⟩
    · rw [hids]
      decide
    · rw [hstep]
      decide

end RIPRouting

end Hiwis
