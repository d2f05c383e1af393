import Hiwis.Rip.Consistency

/-!
# One RIP route for each destination

A RIP route is looked up by its destination and the length of the prefix when a response is
processed, by its interface when the route of an interface is added, and by its IPv4 route when that
one is changed.

* `RIPRouting.unique_of_run` : there is one RIP route for each destination in a run in which no
  imported or changed route is one for a destination that has a RIP route already;
* `RIPRouting.not_unique` : a network that was learnt before an interface gets it is in the table
  twice.
-/

namespace Hiwis

open List Except Trace RoutingTable

namespace RIPRouting

variable {cfg : RIPConfig} {s s' : RIPRouting} {r r' : RIPRoute} {k : ℕ}

/-- The destination and the length of the prefix. -/
def RIPRoute.key (r : RIPRoute) : IPv4Address × ℤ := (r.dest, r.prefixLength)

/-- The key of the RIP route for an IPv4 route. -/
def routeKey (route : IPv4Route) : IPv4Address × ℤ :=
  (route.dest, (route.netmask.getNetmaskLength : ℤ))

/-- The keys of the RIP routes. -/
def keys (s : RIPRouting) : List (IPv4Address × ℤ) := s.ripRoutes.map RIPRoute.key

/-! ### Actions that add no RIP route -/

variable {l l' : List RIPRoute}

theorem keys_eq_of_forall₂ (h : List.Forall₂ (fun r' r => RIPRoute.key r' = RIPRoute.key r) l' l) :
    l'.map RIPRoute.key = l.map RIPRoute.key := by
  induction h with
  | nil => rfl
  | cons hkey _ ih => rw [map_cons, map_cons, hkey, ih]

theorem key_eq_of_weaker (h : r'.Weaker r) : RIPRoute.key r' = RIPRoute.key r :=
  Prod.ext h.dest h.prefixLength

theorem keys_sublist_of_sublistForall₂ (h : List.SublistForall₂ (fun r' r => r'.Weaker r) l' l) :
    (l'.map RIPRoute.key).Sublist (l.map RIPRoute.key) := by
  obtain ⟨l0, hforall, hsub⟩ := sublistForall₂_iff.1 h
  rw [keys_eq_of_forall₂ (hforall.imp fun _ _ => key_eq_of_weaker)]
  exact hsub.map _

/-! ### Responses -/

variable {lost : IPv4Route → Prop}

theorem keys_eq_of_effect (h : Effect lost k s s')
    (hself : ∀ r', s'.ripRoutes[k]? = some r' →
      ∃ r, s.ripRoutes[k]? = some r ∧ RIPRoute.key r' = RIPRoute.key r) : s'.keys = s.keys := by
  refine keys_eq_of_forall₂ (forall₂_of_getElem? h.length fun j r' hr' => ?_)
  by_cases hjk : j = k
  · subst hjk
    exact hself r' hr'
  · obtain ⟨r, hr, hweaker, -⟩ := h.others j hjk r' hr'
    exact ⟨r, hr, key_eq_of_weaker hweaker⟩

theorem keys_modifyRoute {f : RIPRoute → RIPRoute} (hf : ∀ r, RIPRoute.key (f r) = RIPRoute.key r) :
    (s.modifyRoute k f).keys = s.keys := by
  unfold keys modifyRoute
  refine keys_eq_of_forall₂ (forall₂_of_getElem? (length_modify _ _ _) fun j r' hr' => ?_)
  simp only [getElem?_modify] at hr'
  obtain ⟨r, hr, rfl⟩ := Option.map_eq_some_iff.1 hr'
  refine ⟨r, hr, ?_⟩
  split_ifs
  · exact hf r
  · rfl

theorem not_mem_keys_of_findRoute {dest : IPv4Address} {prefixLength : ℤ}
    (h : s.findRoute dest prefixLength = none) : (dest, prefixLength) ∉ s.keys := by
  intro hmem
  obtain ⟨r, hr, hkey⟩ := mem_map.1 hmem
  have := findIdx?_eq_none_iff.1 h r hr
  simp only [RIPRoute.key, Prod.mk.injEq] at hkey
  simp [hkey] at this

theorem nodup_keys_append (h : s.keys.Nodup) (hr : RIPRoute.key r ∉ s.keys) :
    ({ s with ripRoutes := s.ripRoutes ++ [r] } : RIPRouting).keys.Nodup := by
  unfold keys
  rw [map_append, map_singleton, nodup_append]
  refine ⟨h, nodup_singleton _, fun a ha b hb hab => hr ?_⟩
  rw [mem_singleton.1 hb] at hab
  exact hab ▸ ha

/-- An entry of a response is added when its destination has no RIP route. -/
theorem EntryEffect.nodup_keys {incomingIe : RIPInterfaceEntry} {srcAddr : IPv4Address}
    {entry : RIPEntry} (h : s.keys.Nodup) (he : EntryEffect lost s incomingIe srcAddr entry s') :
    s'.keys.Nodup := by
  cases he with
  | ignored => exact h
  | confirmed k =>
    have hkeys : (s.modifyRoute k fun r => { r with lastUpdateTime := s.simTime }).keys = s.keys :=
      keys_modifyRoute fun _ => rfl
    rwa [hkeys]
  | updated hadopts heffect hself hlearnt =>
    rw [keys_eq_of_effect heffect fun r0 hr0 => ?_]
    · exact h
    rw [hself, Option.some.injEq] at hr0
    subst hr0
    obtain ⟨hdest, hlength⟩ := findRoute_spec hadopts.found hadopts.getElem?
    exact ⟨_, hadopts.getElem?, Prod.ext (hlearnt.dest_eq.trans hdest.symm)
      (hlearnt.prefixLength_eq.trans hlength.symm)⟩
  | @added s1 r' hnew hfinite heffect hlearnt =>
    have hkeys : s1.keys = s.keys := keys_eq_of_effect (heffect s.ripRoutes.length) fun r0 hr0 => by
      rw [getElem?_eq_none (heffect 0).length.le] at hr0
      cases hr0
    have hkey : RIPRoute.key r' = (entry.address, entry.prefixLength) :=
      Prod.ext hlearnt.dest_eq hlearnt.prefixLength_eq
    refine nodup_keys_append (hkeys ▸ h) ?_
    rw [hkey, hkeys]
    exact not_mem_keys_of_findRoute hnew

theorem safe_processEntries_unique (incomingIe : RIPInterfaceEntry) (srcAddr : IPv4Address)
    (entries : List RIPEntry) (h : Ok s) (hkeys : s.keys.Nodup) :
    Safe (fun s' => s'.keys.Nodup) (processEntries incomingIe srcAddr entries s) := by
  induction entries generalizing s with
  | nil => exact hkeys
  | cons entry rest ih =>
    refine (safe_processEntry_true h incomingIe srcAddr entry).bind fun s1 he => ?_
    exact ih (EntryEffect.ok h he) (EntryEffect.nodup_keys hkeys he)

/-! ### Imported and changed routes -/

/-- The imported routes and those that are there already are routes for different destinations. -/
def StartsUnique (cfg : RIPConfig) (s : RIPRouting) : Prop :=
  s.subscribed = false →
    (s.keys ++ (s.rt.routes.filterMap (s.initialRoute cfg)).map RIPRoute.key).Nodup

/-- A route that is added and is one of an interface that has no RIP route is a route for a
destination without a RIP route. -/
def AddsNewKey (cfg : RIPConfig) (s : RIPRouting) (route : IPv4Route) (source : RouteSource) :
    Prop :=
  s.subscribed = true → isLoopbackInterfaceRoute cfg route = false →
    match source with
    | .iface ie =>
      cfg.isLoopback ie = false → s.findRouteVia ie .iface = none → routeKey route ∉ s.keys
    | _ => True

/-- A RIP route that points to the IPv4 route `i` gets a destination that no other RIP route has. -/
def ChangesToNewKey (s : RIPRouting) (i : ℕ) (route : IPv4Route) : Prop :=
  s.subscribed = true → ∀ k ∈ range s.ripRoutes.length,
    (s.ripRoutes[k]?.bind (·.route)) = some i →
      routeKey route ∉ (s.ripRoutes.eraseIdx k).map RIPRoute.key

/-- The condition on an action: it gives no destination a second RIP route. -/
def KeysAdmissible (cfg : RIPConfig) (s : RIPRouting) : RIPAction → Prop
  | .start _ => StartsUnique cfg s
  | .routeAdded route source => AddsNewKey cfg s route (sourceOf source)
  | .netmaskRouteAdded ie =>
    ∀ route ∈ netmaskRoute (s.nextId, ie), AddsNewKey cfg s route (.iface ie.interfaceId)
  | .routeChanged i change =>
    ∀ r ∈ s.rt.routes.find? (·.id == i), s.source i ≠ .rip → change.apply r ≠ r →
      ChangesToNewKey s i (change.apply r)
  | _ => True

instance (cfg : RIPConfig) (s : RIPRouting) (route : IPv4Route) (source : RouteSource) :
    Decidable (AddsNewKey cfg s route source) := by
  unfold AddsNewKey
  cases source <;> infer_instance

instance (s : RIPRouting) (i : ℕ) (route : IPv4Route) : Decidable (ChangesToNewKey s i route) :=
  inferInstanceAs (Decidable (_ → _))

instance (cfg : RIPConfig) (s : RIPRouting) (a : RIPAction) :
    Decidable (KeysAdmissible cfg s a) :=
  match a with
  | .start _ => inferInstanceAs (Decidable (_ → _))
  | .routeAdded route source => inferInstanceAs (Decidable (AddsNewKey cfg s route (sourceOf source)))
  | .netmaskRouteAdded ie => inferInstanceAs (Decidable (∀ route ∈ netmaskRoute (s.nextId, ie),
    AddsNewKey cfg s route (.iface ie.interfaceId)))
  | .routeChanged i change => inferInstanceAs (Decidable (∀ r ∈ s.rt.routes.find? (·.id == i),
    s.source i ≠ .rip → change.apply r ≠ r → ChangesToNewKey s i (change.apply r)))
  | .stop | .shutdown | .advance _ | .receive .. | .update _ | .interfaceCreated _
  | .interfaceDeleted _ | .interfaceStateChanged .. | .routeDeleted _ =>
    inferInstanceAs (Decidable True)

/-- The pointers apart, the RIP routes are the same. -/
def SameRoutes (s s' : RIPRouting) : Prop :=
  List.Forall₂ (fun r' r => r'.Weaker r) s'.ripRoutes s.ripRoutes

theorem SameRoutes.keys_eq (h : SameRoutes s s') : s'.keys = s.keys :=
  keys_eq_of_forall₂ (h.imp fun _ _ => key_eq_of_weaker)

theorem SameRoutes.findRouteVia_eq (h : SameRoutes s s') (ie : ℕ) (type : RouteType) :
    s'.findRouteVia ie type = s.findRouteVia ie type := by
  unfold SameRoutes at h
  unfold findRouteVia
  generalize s'.ripRoutes = l', s.ripRoutes = l at h
  induction h with
  | nil => rfl
  | cons hweaker _ ih =>
    rw [findIdx?_cons, findIdx?_cons, ih, hweaker.type, hweaker.ie]

theorem sameRoutes_tableChanged (s : RIPRouting) (rt : RoutingTable) :
    SameRoutes s (s.tableChanged rt) := by
  unfold SameRoutes
  rw [tableChanged_eq]
  refine forall₂_map_left_iff.2 (forall₂_same.2 fun r _ => ?_)
  split_ifs
  · exact r.weaker_invalid
  · exact .refl r

theorem importRoute_eq (h : s.importRoute r = .ok s') :
    s' = { s with ripRoutes := s.ripRoutes ++ [r] } := by
  unfold importRoute at h
  split_ifs at h
  cases h
  rfl

variable {route : IPv4Route}

theorem nodup_keys_routeAdded {s0 : RIPRouting} (h : s0.keys.Nodup) (hsame : SameRoutes s0 s)
    (hsub : s.subscribed = s0.subscribed) (hnew : AddsNewKey cfg s0 route (s.source route.id))
    (hs' : s.notify (routeAdded cfg · route) = .ok s') : s'.keys.Nodup := by
  have hkeys : s.keys.Nodup := by
    rw [hsame.keys_eq]
    exact h
  unfold notify at hs'
  split_ifs at hs' with hsubscribed
  · unfold routeAdded at hs'
    cases hie : s.localInterface cfg route with
    | none =>
      simp only [hie] at hs'
      split_ifs at hs'
      · cases hs'
        exact hkeys
      · cases hs'
        exact hkeys
      · cases hs'
        exact hkeys
    | some ie =>
      simp only [hie] at hs'
      split_ifs at hs' with hown hloop
      · cases hs'
        exact hkeys
      · cases hs'
        exact hkeys
      cases hk : s.findRouteVia ie .iface with
      | some k =>
        simp only [hk, Except.ok.injEq] at hs'
        have hmod : s'.keys = s.keys := by
          rw [← hs']
          exact keys_modifyRoute fun _ => rfl
        rwa [hmod]
      | none =>
        simp only [hk] at hs'
        rw [importRoute_eq hs']
        refine nodup_keys_append hkeys ?_
        rw [hsame.keys_eq]
        rw [hsame.findRouteVia_eq] at hk
        obtain ⟨hsource, hnotLoop⟩ := localInterface_spec hie
        have hkey := hnew (hsub ▸ hsubscribed) (by simpa using hloop)
        rw [hsource] at hkey
        exact hkey hnotLoop hk
  · cases hs'
    exact hkeys

/-- The interfaces do not change the destination as which a route is imported. -/
theorem key_initialRoute (ifs : List RIPInterfaceEntry) (route : IPv4Route) :
    (initialRoute cfg { s with ripInterfaces := ifs } route).map RIPRoute.key =
      (s.initialRoute cfg route).map RIPRoute.key := by
  have hlocal : localInterface cfg { s with ripInterfaces := ifs } route =
      s.localInterface cfg route := rfl
  unfold initialRoute
  rw [hlocal]
  cases s.localInterface cfg route with
  | none => rfl
  | some ie =>
    simp only
    split_ifs
    · rfl
    · rfl

/-- The routes are imported one after the other. -/
theorem configureInitialRoutes_eq (routes : List IPv4Route)
    (h : configureInitialRoutes cfg routes s = .ok s') :
    s' = { s with ripRoutes := s.ripRoutes ++ routes.filterMap (s.initialRoute cfg) } := by
  induction routes generalizing s with
  | nil =>
    cases h
    rw [filterMap_nil, append_nil]
  | cons route routes ih =>
    obtain ⟨s1, hs1, h⟩ := bind_eq_ok.1 h
    unfold importInitialRoute at hs1
    cases hr : s.initialRoute cfg route with
    | none =>
      rw [hr] at hs1
      cases hs1
      rw [ih h, filterMap_cons_none hr]
    | some ripRoute =>
      rw [hr] at hs1
      have hs1 := importRoute_eq hs1
      have hrest : routes.filterMap (s1.initialRoute cfg) = routes.filterMap (s.initialRoute cfg) :=
        by rw [hs1]; rfl
      rw [ih h, hrest, hs1, filterMap_cons_some hr, append_assoc, singleton_append]

theorem nodup_keys_startRIPRouting {ift : List ℕ} {p : RIPRouting × List SentPacket}
    (hsub : s.subscribed = false) (h : StartsUnique cfg s)
    (hstart : s.startRIPRouting cfg ift = .ok p) : p.1.keys.Nodup := by
  obtain ⟨s1, hs1, hstart⟩ := bind_eq_ok.1 hstart
  obtain ⟨s2, hs2, hstart⟩ := bind_eq_ok.1 hstart
  cases hstart
  obtain ⟨ifs, rfl⟩ := (safe_configureInterfaces cfg ift s).of_eq_ok hs1
  rw [configureInitialRoutes_eq _ hs2]
  have hnodup := h hsub
  unfold keys at hnodup ⊢
  rw [map_filterMap] at hnodup
  rw [map_append, map_filterMap]
  simpa only [key_initialRoute] using hnodup

theorem nodup_keys_externalRouteAdded {source : Option ℕ} (h : s.keys.Nodup)
    (hnew : AddsNewKey cfg s route (sourceOf source))
    (hs' : s.externalRouteAdded cfg route source = .ok s') : s'.keys.Nodup := by
  obtain ⟨rt, -, hs'⟩ := bind_eq_ok.1 hs'
  refine nodup_keys_routeAdded h (sameRoutes_tableChanged (s.newRoute (sourceOf source)) rt)
    ?_ ?_ hs'
  · rw [tableChanged_subscribed]
    rfl
  · rw [tableChanged_source]
    have hsource : (s.newRoute (sourceOf source)).source s.nextId = sourceOf source :=
      Function.update_self _ _ _
    change AddsNewKey cfg s route ((s.newRoute (sourceOf source)).source s.nextId)
    rwa [hsource]

theorem nodup_keys_netmaskRouteAdded {ie : InterfaceEntry} (h : s.keys.Nodup)
    (hnew : ∀ route ∈ netmaskRoute (s.nextId, ie), AddsNewKey cfg s route (.iface ie.interfaceId))
    (hs' : s.netmaskRouteAdded cfg ie = .ok s') : s'.keys.Nodup := by
  unfold netmaskRouteAdded at hs'
  cases hroute : netmaskRoute (s.nextId, ie) with
  | none =>
    rw [hroute] at hs'
    cases hs'
    exact h
  | some route =>
    rw [hroute] at hs'
    simp only at hs'
    refine nodup_keys_routeAdded h ?_ ?_ ?_ hs'
    · exact forall₂_weaker_refl s.ripRoutes
    · rfl
    have hsource : (s.newRoute (.iface ie.interfaceId)).source route.id = .iface ie.interfaceId := by
      rw [id_netmaskRoute hroute]
      exact Function.update_self _ _ _
    change AddsNewKey cfg s route ((s.newRoute (.iface ie.interfaceId)).source route.id)
    rw [hsource]
    exact hnew route hroute

/-- The changed RIP route gets a key that no other one has. -/
theorem nodup_keys_adopt {changed : Bool} (h : s.keys.Nodup) (hk : k < s.ripRoutes.length)
    (hnew : routeKey route ∉ (s.ripRoutes.eraseIdx k).map RIPRoute.key) :
    (s.modifyRoute k (RIPRoute.adopt route changed)).keys.Nodup := by
  have hset : (s.modifyRoute k (RIPRoute.adopt route changed)).ripRoutes =
      s.ripRoutes.set k (RIPRoute.adopt route changed (s.ripRoutes.get ⟨k, hk⟩)) :=
    modify_eq_set_get _ hk
  unfold keys
  rw [hset, ((set_perm_cons_eraseIdx hk _).map _).nodup_iff, map_cons, nodup_cons]
  exact ⟨hnew, ((eraseIdx_sublist _ _).map _).nodup h⟩

theorem nodup_keys_externalRouteChanged {i : ℕ} {change : RouteUpdate} (h : s.keys.Nodup)
    (hnew : ∀ r ∈ s.rt.routes.find? (·.id == i), s.source i ≠ .rip → change.apply r ≠ r →
      ChangesToNewKey s i (change.apply r))
    (hs' : s.externalRouteChanged i change = .ok s') : s'.keys.Nodup := by
  unfold externalRouteChanged at hs'
  cases hr : s.rt.routes.find? (·.id == i) with
  | none =>
    rw [hr] at hs'
    cases hs'
    exact h
  | some r =>
    rw [hr] at hs'
    simp only at hs'
    by_cases hskip : s.source i = .rip ∨ change.apply r = r
    · rw [if_pos hskip] at hs'
      cases hs'
      exact h
    rw [if_neg hskip] at hs'
    obtain ⟨hsource, hdiffers⟩ := not_or.1 hskip
    obtain ⟨rt, -, hs'⟩ := bind_eq_ok.1 hs'
    have hsame := sameRoutes_tableChanged s rt
    have hkeys : (s.tableChanged rt).keys.Nodup := by
      rw [hsame.keys_eq]
      exact h
    have hid : (change.apply r).id = i := by
      have hri : r.id = i := by simpa using find?_some hr
      cases change <;> exact hri
    have hchange := hnew r hr hsource hdiffers
    unfold notify at hs'
    split_ifs at hs' with hsub
    · simp only [routeChanged, hid] at hs'
      split_ifs at hs'
      · cases hs'
        exact hkeys
      cases hk : (s.tableChanged rt).findRouteOf i with
      | none =>
        rw [hk] at hs'
        cases hs'
        exact hkeys
      | some k =>
        obtain ⟨hlt, hpointer, -⟩ := findIdx?_eq_some_iff_getElem.1 hk
        simp only [hk, getElem?_eq_getElem hlt] at hs'
        obtain ⟨changed, -, hs'⟩ := bind_eq_ok.1 hs'
        cases hs'
        refine nodup_keys_adopt hkeys hlt ?_
        -- the pointer was there before the routing table has changed
        have hlt0 : k < s.ripRoutes.length := hsame.length_eq ▸ hlt
        have hweaker : ((s.tableChanged rt).ripRoutes[k]).Weaker s.ripRoutes[k] :=
          hsame.get hlt hlt0
        have hroute : (s.tableChanged rt).ripRoutes[k].route = some i := by simpa using hpointer
        have hroute0 : s.ripRoutes[k].route = some i := by
          rcases hweaker.metric with ⟨-, heq⟩ | ⟨-, hnone⟩
          · rw [← heq, hroute]
          · rw [hnone] at hroute
            cases hroute
        have hnot := hchange (by rwa [tableChanged_subscribed] at hsub) k (mem_range.2 hlt0)
          (by rw [getElem?_eq_getElem hlt0, Option.bind_some, hroute0])
        rw [← eraseIdx_map] at hnot ⊢
        have hkeys' : (s.tableChanged rt).ripRoutes.map RIPRoute.key =
            s.ripRoutes.map RIPRoute.key := hsame.keys_eq
        rwa [hkeys']
    · cases hs'
      exact hkeys

/-! ### Runs -/

/-- What an action does to the keys when it is admissible. -/
theorem nodup_keys_step (h : Ok s) (hkeys : s.keys.Nodup) {a : RIPAction}
    (hadm : KeysAdmissible cfg s a) (hstep : step cfg s a = .ok s') : s'.keys.Nodup := by
  obtain ⟨⟨s1, sent⟩, hhandle, hstep⟩ := bind_eq_ok.1 hstep
  cases hstep
  by_cases hplain : IsPlain a = true
  · exact (keys_sublist_of_sublistForall₂ ((safe_plain h cfg hplain).of_eq_ok hhandle).2).nodup hkeys
  cases a with
  | start ift =>
    simp only [handle] at hhandle
    by_cases hsub : s.subscribed = true
    · rw [if_pos hsub] at hhandle
      cases hhandle
      exact hkeys
    · rw [if_neg hsub] at hhandle
      exact nodup_keys_startRIPRouting (by simpa using hsub) hadm hhandle
  | receive view ind packet =>
    obtain ⟨hnot, hresponse⟩ : packet.command ≠ ripRequest ∧ packet.command = ripResponse := by
      simpa [IsPlain] using hplain
    simp only [handle] at hhandle
    unfold receivePacket at hhandle
    rw [if_neg hnot, if_pos hresponse] at hhandle
    obtain ⟨s2, hs2, hhandle⟩ := bind_eq_ok.1 hhandle
    cases hhandle
    unfold processResponse at hs2
    split_ifs at hs2
    · cases hie : s.findInterfaceById ind.interfaceId with
      | none =>
        rw [hie] at hs2
        cases hs2
        exact hkeys
      | some incomingIe =>
        rw [hie] at hs2
        exact (safe_processEntries_unique incomingIe ind.srcAddr packet.entries h hkeys).of_eq_ok hs2
    · cases hs2
      exact hkeys
  | routeAdded route source =>
    obtain ⟨s2, hs2, hhandle⟩ := bind_eq_ok.1 hhandle
    cases hhandle
    exact nodup_keys_externalRouteAdded hkeys hadm hs2
  | netmaskRouteAdded ie =>
    obtain ⟨s2, hs2, hhandle⟩ := bind_eq_ok.1 hhandle
    cases hhandle
    exact nodup_keys_netmaskRouteAdded hkeys hadm hs2
  | routeChanged i change =>
    obtain ⟨s2, hs2, hhandle⟩ := bind_eq_ok.1 hhandle
    cases hhandle
    exact nodup_keys_externalRouteChanged hkeys hadm hs2
  | _ => exact absurd rfl hplain

theorem unique_of_run {acts : List RIPAction}
    (h : Run (step cfg) (KeysAdmissible cfg) init acts s) : s.keys.Nodup := by
  have hinv : Ok s ∧ s.keys.Nodup :=
    h.invariant (I := fun s => Ok s ∧ s.keys.Nodup)
      (fun _ a _ hinv hadm hstep => ⟨((safe_step hinv.1 cfg a).of_eq_ok hstep).1,
        nodup_keys_step hinv.1 hinv.2 hadm hstep⟩) ⟨ok_init, nodup_nil⟩
  exact hinv.2

theorem unique_of_run_sample : ∃ s : RIPRouting,
    s.keys = [(0x0A010000, 16), (0x0A020000, 16), (0x0A030000, 16)] ∧ s.keys.Nodup := by
  obtain ⟨s, hs, hkeys⟩ : ∃ s, Run (step sampleConfig) (KeysAdmissible sampleConfig) init
      (sampleStart ++ [sampleResponse 0x0A030000]) s ∧
      s.keys = [(0x0A010000, 16), (0x0A020000, 16), (0x0A030000, 16)] :=
    exists_run_of_exec (by decide +kernel)
  exact ⟨s, hkeys, unique_of_run hs⟩

/-- The neighbour announces 10.2.0.0/16, and then an interface gets an address of that network: it
has two RIP routes. -/
theorem not_unique : ∃ s : RIPRouting,
    Run (step sampleConfig) (fun _ _ => True) init
      [.netmaskRouteAdded ⟨1, 1500, false, some ⟨0x0A010001, 0xFFFF0000, 1⟩⟩, .start [1, 2],
        sampleResponse 0x0A020000,
        .netmaskRouteAdded ⟨2, 1500, false, some ⟨0x0A020001, 0xFFFF0000, 1⟩⟩] s ∧
    s.keys = [(0x0A010000, 16), (0x0A020000, 16), (0x0A020000, 16)] ∧ ¬s.keys.Nodup := by
  obtain ⟨s, hs, hkeys⟩ : ∃ s, Run (step sampleConfig) (fun _ _ => True) init
      [.netmaskRouteAdded ⟨1, 1500, false, some ⟨0x0A010001, 0xFFFF0000, 1⟩⟩, .start [1, 2],
        sampleResponse 0x0A020000,
        .netmaskRouteAdded ⟨2, 1500, false, some ⟨0x0A020001, 0xFFFF0000, 1⟩⟩] s ∧
      s.keys = [(0x0A010000, 16), (0x0A020000, 16), (0x0A020000, 16)] :=
    exists_run_of_exec (by decide +kernel)
  refine ⟨s, hs, hkeys, ?_⟩
  rw [hkeys]
  decide

end RIPRouting

end Hiwis
