import Hiwis.Ipv4.RoutingTable

/-!
# Which routes a routing table holds

A route is an object, which keeps its identity while its fields change; adding one removes none but
an old default route.

* `RoutingTable.mem_internalAddRoute`, `RoutingTable.mem_internalAddRoute_of_mem` : the routes after
  one has been added;
* `RoutingTable.SetField` : what a setter does.
-/

namespace Hiwis

open List Except UpperBound

open IPv4Address

/-- The route passes the checks of `internalAddRoute`. -/
structure IPv4Route.Accepted (x : IPv4Route) : Prop where
  netmask : isValidNetmask x.netmask = true
  dest_ne : x.netmask ≠ 0 → x.dest &&& x.netmask ≠ 0
  dest_eq : x.dest &&& ~~~x.netmask = 0
  interfacePtr : x.interfacePtr.isSome = true

namespace RoutingTable

variable {t t' : RoutingTable} {simTime : ℤ} {i : ℕ} {x y e : IPv4Route}

/-- The identities of the routes. -/
def ids (t : RoutingTable) : List ℕ := t.routes.map (·.id)

theorem mem_ids : i ∈ t.ids ↔ ∃ x ∈ t.routes, x.id = i := mem_map

theorem id_mem_ids (hx : x ∈ t.routes) : x.id ∈ t.ids := mem_map_of_mem hx

theorem eq_of_id_eq (h : t.ids.Nodup) (hx : x ∈ t.routes) (hy : y ∈ t.routes)
    (hid : x.id = y.id) : x = y := inj_on_of_nodup_map h hx hy hid

theorem ids_removeRoute (t : RoutingTable) (i : ℕ) : (t.removeRoute i).ids.Sublist t.ids :=
  (removeRoute_routes_sublist t i).map _

theorem mem_removeRoute_of_ne (hx : x ∈ t.routes) (hne : x.id ≠ i) :
    x ∈ (t.removeRoute i).routes := by
  unfold removeRoute
  split_ifs
  · exact (mem_eraseP_of_neg (by simpa using hne)).2 hx
  · exact hx

section

variable (h : t.internalAddRoute simTime e = .ok t')
include h

/-- A route is inserted into what is left of the table when a default route has replaced another
one. -/
theorem internalAddRoute_eq :
    ∃ t0, t'.routes = insert routeLessThan e t0.routes ∧
      (t0 = t ∨ ∃ d ∈ t.routes, e.netmask = 0 ∧ d.netmask = 0 ∧ t0 = t.removeRoute d.id) := by
  unfold internalAddRoute at h
  simp only [ite_error_eq_ok] at h
  obtain ⟨-, -, -, -, h⟩ := h
  cases h
  split_ifs with hmask
  · cases hd : t.getDefaultRoute simTime with
    | none => exact ⟨t, rfl, .inl rfl⟩
    | some d =>
      have hmem := mem_of_find?_eq_some hd
      have hspec := mem_takeWhile_imp hmem
      refine ⟨_, rfl, .inr ⟨d, ?_, by simpa [isUnspecified, unspecifiedAddress] using hmask,
        by simpa [isUnspecified, unspecifiedAddress] using hspec, rfl⟩⟩
      exact mem_reverse.1 ((takeWhile_sublist _).subset hmem)
  · exact ⟨t, rfl, .inl rfl⟩

theorem ids_internalAddRoute : t'.ids.Subperm (e.id :: t.ids) := by
  obtain ⟨t0, ht', ht0⟩ := internalAddRoute_eq h
  have hsub : t0.ids.Sublist t.ids := by
    rcases ht0 with rfl | ⟨d, -, -, -, rfl⟩
    · exact List.Sublist.refl _
    · exact ids_removeRoute t d.id
  have hperm : t'.ids.Perm (e.id :: t0.ids) := by
    unfold ids
    rw [ht']
    exact (insert_perm e).map _
  exact hperm.subperm.trans (hsub.cons_cons _).subperm

theorem mem_internalAddRoute (hx : x ∈ t'.routes) : x = e ∨ x ∈ t.routes := by
  obtain ⟨t0, ht', ht0⟩ := internalAddRoute_eq h
  rw [ht', mem_insert] at hx
  refine hx.imp_right fun hx => ?_
  rcases ht0 with rfl | ⟨d, -, -, -, rfl⟩
  · exact hx
  · exact (removeRoute_routes_sublist t d.id).subset hx

theorem mem_internalAddRoute_of_mem (hnodup : t.ids.Nodup) (hx : x ∈ t.routes)
    (hmask : e.netmask = 0 → x.netmask ≠ 0) : x ∈ t'.routes := by
  obtain ⟨t0, ht', ht0⟩ := internalAddRoute_eq h
  rw [ht', mem_insert]
  right
  rcases ht0 with rfl | ⟨d, hd, he, hd0, rfl⟩
  · exact hx
  · refine mem_removeRoute_of_ne hx fun hid => hmask he ?_
    rw [eq_of_id_eq hnodup hx hd hid, hd0]

theorem accepted_of_internalAddRoute : e.Accepted := by
  unfold internalAddRoute at h
  simp only [ite_error_eq_ok] at h
  obtain ⟨hmask, hzero, hdest, hif, -⟩ := h
  refine ⟨by simpa using hmask, fun hne hand => hzero ⟨hne, hand⟩, by simpa using hdest, ?_⟩
  rwa [Bool.not_eq_true, Option.isNone_eq_false_iff] at hif

end

theorem addRoute_eq (h : t.addRoute simTime e = .ok t') :
    ∃ t0, t.internalAddRoute simTime e = .ok t0 ∧ t'.routes = t0.routes := by
  obtain ⟨t0, ht0, h⟩ := bind_eq_ok.1 h
  cases h
  exact ⟨t0, ht0, rfl⟩

variable {f : IPv4Route → IPv4Route}

theorem ids_modify (hid : ∀ r, (f r).id = r.id) (routes : List IPv4Route) :
    (modify i f routes).map (·.id) = routes.map (·.id) := by
  unfold modify
  rw [map_map]
  refine map_congr_left fun r _ => ?_
  simp only [Function.comp]
  split_ifs
  · exact hid r
  · rfl

variable {routes : List IPv4Route}

theorem mem_modify (hx : x ∈ modify i f routes) :
    x ∈ routes ∨ ∃ y ∈ routes, y.id = i ∧ x = f y := by
  obtain ⟨y, hy, rfl⟩ := mem_map.1 hx
  split_ifs with hi
  · exact .inr ⟨y, hy, hi, rfl⟩
  · exact .inl hy

theorem mem_modify_of_ne (hx : x ∈ routes) (hne : x.id ≠ i) : x ∈ modify i f routes := by
  refine mem_map.2 ⟨x, hx, ?_⟩
  rw [if_neg hne]

variable {fieldCode : IPv4Route.FieldCode}

/-- A setter leaves the other routes as they are. -/
theorem mem_setField (h : t.setField simTime i fieldCode f = .ok t') (hx : x ∈ t'.routes) :
    x ∈ t.routes ∨ ∃ y ∈ t.routes, y.id = i ∧ x = f y := by
  unfold setField at h
  cases hr : t.routes.find? (·.id == i) with
  | none =>
    rw [hr] at h
    cases h
    exact .inl hx
  | some r =>
    have hri : r.id = i := by simpa using find?_some hr
    rw [hr] at h
    simp only at h
    split_ifs at h
    · cases h
      exact .inl hx
    · unfold routeChanged at h
      split_ifs at h
      · obtain ⟨t0, ht0, h⟩ := bind_eq_ok.1 h
        cases h
        rcases mem_internalAddRoute ht0 hx with rfl | hx
        · exact .inr ⟨r, mem_of_find?_eq_some hr, hri, rfl⟩
        · exact mem_modify (eraseP_sublist.subset hx)
      · cases h
        exact mem_modify hx

/-- What a setter of a field that is not checked does to the table. -/
structure SetField (t t' : RoutingTable) (i : ℕ) : Prop where
  ids : t'.ids.Subperm t.ids
  old : ∀ x ∈ t'.routes, x.id = i ∨ x ∈ t.routes
  masks : ∀ x ∈ t'.routes, ∃ y ∈ t.routes, y.id = x.id ∧ y.netmask = x.netmask
  accepted : (∀ y ∈ t.routes, y.id = i → y.Accepted) → ∀ x ∈ t'.routes, x.id = i → x.Accepted
  kept : ∀ x ∈ t.routes, x.id ≠ i →
    ((∃ y ∈ t.routes, y.id = i ∧ y.netmask = 0) → x.netmask ≠ 0) → x ∈ t'.routes

theorem ids_eraseP (hx : x ∈ routes) (hid : x.id = i) :
    (routes.map (·.id)).Perm (i :: (routes.eraseP (·.id == i)).map (·.id)) := by
  obtain ⟨a, l1, l2, -, ha, hl, herase⟩ :=
    exists_of_eraseP (p := (·.id == i)) hx (by simpa using hid)
  rw [herase, hl, map_append, map_append, map_cons]
  obtain rfl : a.id = i := by simpa using ha
  exact perm_middle

theorem ne_of_mem_removeRoute (h : t.ids.Nodup) (hx : x ∈ (t.removeRoute i).routes) : x.id ≠ i := by
  rintro rfl
  have hmem := (removeRoute_routes_sublist t x.id).subset hx
  unfold removeRoute at hx
  rw [if_pos (any_eq_true.2 ⟨x, hmem, by simp⟩)] at hx
  have hnodup := (ids_eraseP hmem rfl).nodup_iff.1 h
  exact (nodup_cons.1 hnodup).1 (mem_map_of_mem hx)

theorem ids_setField (hid : ∀ r, (f r).id = r.id) (h : t.setField simTime i fieldCode f = .ok t') :
    t'.ids.Subperm t.ids := by
  unfold setField at h
  cases hr : t.routes.find? (·.id == i) with
  | none =>
    rw [hr] at h
    cases h
    exact List.Subperm.refl _
  | some r =>
    have hri : r.id = i := by simpa using find?_some hr
    rw [hr] at h
    simp only at h
    split_ifs at h with hsame
    · cases h
      exact List.Subperm.refl _
    · unfold routeChanged at h
      split_ifs at h
      · obtain ⟨t0, ht0, h⟩ := bind_eq_ok.1 h
        cases h
        have hmem : f r ∈ modify i f t.routes := mem_map.2 ⟨r, mem_of_find?_eq_some hr, if_pos hri⟩
        have hperm := ids_eraseP hmem rfl
        rw [ids_modify hid] at hperm
        exact (ids_internalAddRoute ht0).trans hperm.symm.subperm
      · cases h
        unfold ids
        rw [ids_modify hid]

theorem setField_spec (hid : ∀ r, (f r).id = r.id) (hmask : ∀ r, (f r).netmask = r.netmask)
    (hacc : ∀ r : IPv4Route, r.Accepted → (f r).Accepted) (hnodup : t.ids.Nodup)
    (h : t.setField simTime i fieldCode f = .ok t') : SetField t t' i := by
  refine ⟨ids_setField hid h, fun x hx => ?_, fun x hx => ?_, fun hold x hx hxi => ?_,
    fun x hx hne hzero => ?_⟩
  · rcases mem_setField h hx with hx | ⟨y, -, hyi, rfl⟩
    · exact .inr hx
    · exact .inl ((hid y).trans hyi)
  · rcases mem_setField h hx with hx | ⟨y, hy, -, rfl⟩
    · exact ⟨x, hx, rfl, rfl⟩
    · exact ⟨y, hy, (hid y).symm, (hmask y).symm⟩
  · rcases mem_setField h hx with hx | ⟨y, hy, hyi, rfl⟩
    · exact hold x hx hxi
    · exact hacc y (hold y hy hyi)
  unfold setField at h
  cases hr : t.routes.find? (·.id == i) with
  | none =>
    rw [hr] at h
    cases h
    exact hx
  | some r =>
    have hri : r.id = i := by simpa using find?_some hr
    rw [hr] at h
    simp only at h
    split_ifs at h with hsame
    · cases h
      exact hx
    · unfold routeChanged at h
      split_ifs at h
      · -- the route is taken out of the table and added again
        obtain ⟨t0, ht0, h⟩ := bind_eq_ok.1 h
        cases h
        have hx' : x ∈ (modify i f t.routes).eraseP (·.id == (f r).id) := by
          refine (mem_eraseP_of_neg ?_).2 (mem_modify_of_ne hx hne)
          simpa [hid, hri] using hne
        change x ∈ t0.routes
        refine mem_internalAddRoute_of_mem ht0 ?_ hx' fun h0 =>
          hzero ⟨r, mem_of_find?_eq_some hr, hri, ?_⟩
        · refine (eraseP_sublist.map _).nodup ?_
          rw [ids_modify hid]
          exact hnodup
        · rwa [hmask] at h0
      · cases h
        exact mem_modify_of_ne hx hne

theorem id_netmaskRoute {i : ℕ} {ie : InterfaceEntry} {route : IPv4Route}
    (h : netmaskRoute (i, ie) = some route) : route.id = i := by
  unfold netmaskRoute at h
  cases hdata : ie.ipv4Data with
  | none => simp [hdata] at h
  | some data =>
    simp only [hdata, Option.ite_none_right_eq_some, Option.some.injEq] at h
    rw [← h.2]

end RoutingTable

end Hiwis
