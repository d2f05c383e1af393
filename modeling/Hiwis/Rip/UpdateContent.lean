import Hiwis.Rip.Consistency

/-!
# What a regular update announces

A regular update should announce every RIP route that is not due for being purged, with the metric
16 when its timeout has passed.  `sendRoutes` walks over the RIP routes and checks on the way which
of them have expired: an expired route is made invalid and is then passed over, and after a route
that is purged the walk goes on one route too far.

* `RIPRouting.visited` is what the walk announces, and `RIPRouting.sendLoop_spec` says so;
* `RIPRouting.sendsDue_iff` : when an update announces what is due;
* `RIPRouting.not_sendsDue` : an expired route that is not announced.
-/

namespace Hiwis

open List Option Except Trace

open IPv4Address

namespace RIPRouting

variable {cfg : RIPConfig} {now : ℤ} {ri : RIPInterfaceEntry} {s s' : RIPRouting} {r r' : RIPRoute}
  {k : ℕ} {pre suf : List RIPRoute} {es : List RIPEntry}

/-! ### What is due -/

/-- The timeout of a learnt route has passed. -/
def isExpired (cfg : RIPConfig) (now : ℤ) (r : RIPRoute) : Bool :=
  r.type == .rte && decide (r.lastUpdateTime + cfg.routeExpiryTime ≤ now)

/-- The time has come to purge a learnt route. -/
def isPurgeable (cfg : RIPConfig) (now : ℤ) (r : RIPRoute) : Bool :=
  r.type == .rte && decide (r.lastUpdateTime + cfg.routeExpiryTime + cfg.routePurgeTime ≤ now)

/-- Split horizon: the route is omitted where it has been learnt. -/
def isOmitted (ri : RIPInterfaceEntry) (r : RIPRoute) : Bool :=
  r.ie == some ri.ie && ri.mode == .splitHorizon

/-- Poisoned reverse: the route is announced as unreachable where it has been learnt. -/
def isPoisoned (ri : RIPInterfaceEntry) (r : RIPRoute) : Bool :=
  r.ie == some ri.ie && ri.mode == .splitHorizonPoisonedReverse

/-- The entry that a regular update should have for a RIP route. -/
def dueEntry (cfg : RIPConfig) (now : ℤ) (ri : RIPInterfaceEntry) (r : RIPRoute) :
    Option RIPEntry :=
  if isOmitted ri r then none
  else
    some (entryOf r
      (if isExpired cfg now r || isPoisoned ri r then ripInfiniteMetric else r.metric))

/-- The entries that a regular update should have. -/
def dueEntries (cfg : RIPConfig) (now : ℤ) (ri : RIPInterfaceEntry) (l : List RIPRoute) :
    List RIPEntry :=
  (l.filter fun r => !isPurgeable cfg now r).filterMap (dueEntry cfg now ri)

/-- The regular update on an interface announces what is due, each entry once. -/
def SendsDue (cfg : RIPConfig) (s : RIPRouting) (ri : RIPInterfaceEntry) : Prop :=
  ∃ s' sent, s.sendRoutes cfg allRipRoutersMcast cfg.ripUdpPort ri false = .ok (s', sent) ∧
    (sent.flatMap fun p => p.packet.entries).Perm (dueEntries cfg s.simTime ri s.ripRoutes)

/-- No route that has to be announced has expired, and behind a route that is purged there is one
that need not be announced. -/
def NoneSkipped (cfg : RIPConfig) (now : ℤ) (ri : RIPInterfaceEntry) : List RIPRoute → Prop
  | [] => True
  | [r] => isPurgeable cfg now r = false ∧ (isExpired cfg now r = true → isOmitted ri r = true)
  | r :: r' :: rest =>
    if isPurgeable cfg now r then
      (isPurgeable cfg now r' = true ∨ isOmitted ri r' = true) ∧ NoneSkipped cfg now ri rest
    else
      (isExpired cfg now r = true → isOmitted ri r = true) ∧ NoneSkipped cfg now ri (r' :: rest)

/-- The packets on the interface have room for entries, as far as there are any. -/
def HasRoom (cfg : RIPConfig) (s : RIPRouting) (ri : RIPInterfaceEntry) : Prop :=
  0 < maxEntries cfg ri.ie ∨ maxEntries cfg ri.ie = 0 ∧ dueEntries cfg s.simTime ri s.ripRoutes = []

/-! ### What the walk announces -/

/-- The entry for a route that the walk meets and that is not purged. -/
def visitedEntry (cfg : RIPConfig) (now : ℤ) (ri : RIPInterfaceEntry) (r : RIPRoute) :
    Option RIPEntry :=
  if isExpired cfg now r then none else (sentMetric ri r).map (entryOf r)

/-- The entries that the walk over the RIP routes makes, unless it runs past the end. -/
def visited (cfg : RIPConfig) (now : ℤ) (ri : RIPInterfaceEntry) :
    List RIPRoute → Option (List RIPEntry)
  | [] => some []
  | [r] => if isPurgeable cfg now r then none else some (visitedEntry cfg now ri r).toList
  | r :: r' :: rest =>
    if isPurgeable cfg now r then visited cfg now ri rest
    else
      (visited cfg now ri (r' :: rest)).map fun es => (visitedEntry cfg now ri r).toList ++ es

theorem visitedEntry_eq (h : isExpired cfg now r = false) :
    visitedEntry cfg now ri r = dueEntry cfg now ri r := by
  unfold visitedEntry dueEntry sentMetric isOmitted isPoisoned
  rw [h]
  by_cases hie : r.ie = some ri.ie
  · cases hmode : ri.mode <;> simp [hie]
  · simp [hie]

theorem toList_visitedEntry_sublist :
    (visitedEntry cfg now ri r).toList.Sublist (dueEntry cfg now ri r).toList := by
  cases h : isExpired cfg now r with
  | true =>
    simp only [visitedEntry, h, if_true, Option.toList_none]
    exact nil_sublist _
  | false =>
    rw [visitedEntry_eq h]

theorem dueEntries_cons (h : isPurgeable cfg now r = false) :
    dueEntries cfg now ri (r :: suf) =
      (dueEntry cfg now ri r).toList ++ dueEntries cfg now ri suf := by
  unfold dueEntries
  rw [filter_cons_of_pos (by simp [h]), filterMap_cons]
  cases dueEntry cfg now ri r <;> rfl

theorem dueEntries_cons_of_purgeable (h : isPurgeable cfg now r = true) :
    dueEntries cfg now ri (r :: suf) = dueEntries cfg now ri suf := by
  unfold dueEntries
  rw [filter_cons_of_neg (by simp [h])]

theorem dueEntries_sublist_cons :
    (dueEntries cfg now ri suf).Sublist (dueEntries cfg now ri (r :: suf)) := by
  cases h : isPurgeable cfg now r with
  | true => rw [dueEntries_cons_of_purgeable h]
  | false =>
    rw [dueEntries_cons h]
    exact sublist_append_right _ _

/-- The walk announces nothing that is not due. -/
theorem visited_sublist (h : visited cfg now ri suf = some es) :
    es.Sublist (dueEntries cfg now ri suf) := by
  induction suf using visited.induct cfg now generalizing es with
  | case1 =>
    cases h
    exact nil_sublist _
  | case2 r hpurge =>
    rw [visited, if_pos hpurge] at h
    cases h
  | case3 r hpurge =>
    rw [visited, if_neg hpurge] at h
    cases h
    rw [dueEntries_cons (Bool.not_eq_true _ ▸ hpurge)]
    exact toList_visitedEntry_sublist.trans (sublist_append_left _ _)
  | case4 r r' rest hpurge ih =>
    rw [visited, if_pos hpurge] at h
    rw [dueEntries_cons_of_purgeable hpurge]
    exact (ih h).trans dueEntries_sublist_cons
  | case5 r r' rest hpurge ih =>
    rw [visited, if_neg hpurge] at h
    obtain ⟨es', hes', rfl⟩ := map_eq_some_iff.1 h
    rw [dueEntries_cons (Bool.not_eq_true _ ▸ hpurge)]
    exact toList_visitedEntry_sublist.append (ih hes')

theorem dueEntry_eq_none_iff (cfg : RIPConfig) (now : ℤ) :
    dueEntry cfg now ri r = none ↔ isOmitted ri r = true := by
  unfold dueEntry
  split_ifs with h <;> simp [h]

theorem toList_visitedEntry_eq_iff (cfg : RIPConfig) (now : ℤ) :
    (visitedEntry cfg now ri r).toList = (dueEntry cfg now ri r).toList ↔
      (isExpired cfg now r = true → isOmitted ri r = true) := by
  cases h : isExpired cfg now r with
  | true =>
    rw [← dueEntry_eq_none_iff cfg now, visitedEntry, if_pos h]
    cases dueEntry cfg now ri r <;> simp
  | false => simp [visitedEntry_eq h]

/-- The walk announces what is due exactly when it skips nothing. -/
theorem visited_eq_iff :
    visited cfg now ri suf = some (dueEntries cfg now ri suf) ↔ NoneSkipped cfg now ri suf := by
  induction suf using visited.induct cfg now with
  | case1 => exact iff_of_true rfl trivial
  | case2 r hpurge => simp [visited, NoneSkipped, hpurge]
  | case3 r hpurge =>
    rw [Bool.not_eq_true] at hpurge
    rw [visited, hpurge, dueEntries_cons hpurge, NoneSkipped, if_neg Bool.false_ne_true,
      Option.some.injEq, ← toList_visitedEntry_eq_iff cfg now]
    simp [hpurge, dueEntries]
  | case4 r r' rest hpurge ih =>
    rw [visited, if_pos hpurge, dueEntries_cons_of_purgeable hpurge, NoneSkipped, if_pos hpurge,
      ← ih]
    cases hpurge' : isPurgeable cfg now r' with
    | true => simp [dueEntries_cons_of_purgeable hpurge']
    | false =>
      rw [dueEntries_cons hpurge', ← dueEntry_eq_none_iff cfg now]
      simp only [Bool.false_eq_true, false_or]
      refine ⟨fun h => ?_, ?_⟩
      · -- what is announced is due behind the route that is skipped
        have hlength := (visited_sublist h).length_le
        rw [length_append] at hlength
        have hnone : dueEntry cfg now ri r' = none := by
          cases hdue : dueEntry cfg now ri r' with
          | none => rfl
          | some e =>
            rw [hdue, toList_some, length_singleton] at hlength
            omega
        rw [hnone] at h
        exact ⟨hnone, h⟩
      · rintro ⟨hnone, h⟩
        rw [hnone]
        exact h
  | case5 r r' rest hpurge ih =>
    have hpurge' := Bool.not_eq_true _ ▸ hpurge
    rw [visited, if_neg hpurge, dueEntries_cons hpurge', NoneSkipped, if_neg hpurge, ← ih,
      ← toList_visitedEntry_eq_iff cfg now]
    refine ⟨fun h => ?_, ?_⟩
    · obtain ⟨es, hes, happend⟩ := map_eq_some_iff.1 h
      have hentry : (visitedEntry cfg now ri r).toList.Sublist (dueEntry cfg now ri r).toList :=
        toList_visitedEntry_sublist
      have hrest := visited_sublist hes
      have hlength := congrArg List.length happend
      rw [length_append, length_append] at hlength
      have hle := hentry.length_le
      have hle' := hrest.length_le
      refine ⟨hentry.eq_of_length (by omega), ?_⟩
      rw [hes, hrest.eq_of_length (by omega)]
    · rintro ⟨hentry, hrest⟩
      rw [hrest, hentry]
      rfl

theorem visited_cons (h : isPurgeable cfg now r = false) :
    visited cfg now ri (r :: suf) =
      (visited cfg now ri suf).map fun es => (visitedEntry cfg now ri r).toList ++ es := by
  cases suf with
  | nil => simp [visited, h]
  | cons r' suf => rw [visited, if_neg (Bool.eq_false_iff.1 h)]

/-! ### The walk -/

/-- Learnt routes point to IPv4 routes of the module. -/
def OwnPointers (s : RIPRouting) : Prop :=
  ∀ r ∈ s.ripRoutes, r.type = .rte → ∀ i, r.route = some i → s.source i = .rip

theorem Ok.ownPointers (h : Ok s) : OwnPointers s := fun r hr => (h.routes r hr).own

theorem modify_length (pre suf : List RIPRoute) (r : RIPRoute) (f : RIPRoute → RIPRoute) :
    (pre ++ r :: suf).modify pre.length f = pre ++ f r :: suf := by
  induction pre with
  | nil => rfl
  | cons r' pre ih => exact congrArg (r' :: ·) ih

theorem getElem?_length (hs : s.ripRoutes = pre ++ r :: suf) :
    s.ripRoutes[pre.length]? = some r := by
  rw [hs, List.getElem?_append_right le_rfl, Nat.sub_self]
  rfl

/-- The deletion of a route of the module makes no RIP route invalid. -/
theorem dropRoute_spec (hs : s.ripRoutes = pre ++ r :: suf)
    (hown : ∀ i, r.route = some i → s.source i = .rip) :
    (s.dropRoute pre.length).ripRoutes = pre ++ { r with route := none } :: suf ∧
      (s.dropRoute pre.length).source = s.source ∧
      (s.dropRoute pre.length).simTime = s.simTime := by
  cases hroute : r.route with
  | none =>
    rw [dropRoute_of_none (getElem?_length hs) hroute, hs, ← hroute]
    exact ⟨rfl, rfl, rfl⟩
  | some i =>
    rw [dropRoute_of_some (getElem?_length hs) hroute]
    unfold deleteRoute
    refine ⟨?_, by simp [modifyRoute], by simp [modifyRoute]⟩
    rw [tableChanged_eq]
    refine ((map_congr_left fun r' _ => if_neg ?_).trans (map_id _)).trans ?_
    · intro hloses
      obtain ⟨x, hx, hsource, -, hgone⟩ := loses_iff.1 hloses
      by_cases hid : x.id = i
      · exact hsource (hid ▸ hown i hroute)
      · exact hgone (RoutingTable.id_mem_ids (RoutingTable.mem_removeRoute_of_ne hx hid))
    · rw [modifyRoute, hs]
      exact modify_length pre suf r _

/-- What the check of a route does to the RIP routes. -/
structure Checked (s s' : RIPRouting) (l : List RIPRoute) : Prop where
  ripRoutes : s'.ripRoutes = l
  simTime : s'.simTime = s.simTime
  ownPointers : OwnPointers s'

theorem checked_invalidateRoute (hown : OwnPointers s) (hs : s.ripRoutes = pre ++ r :: suf)
    (hrte : r.type = .rte) :
    Checked s (s.invalidateRoute pre.length) (pre ++ r.invalid :: suf) := by
  have hr : r ∈ s.ripRoutes := by
    rw [hs]
    simp
  obtain ⟨hroutes, hsource, htime⟩ := dropRoute_spec hs (hown r hr hrte)
  have hroutes' : (s.invalidateRoute pre.length).ripRoutes = pre ++ r.invalid :: suf := by
    unfold invalidateRoute modifyRoute
    simp only [hroutes]
    exact modify_length pre suf _ _
  refine ⟨hroutes', htime, fun r' hr' hrte' i hi => ?_⟩
  rw [hroutes', mem_append, mem_cons] at hr'
  have hsource' : (s.invalidateRoute pre.length).source = s.source := hsource
  rw [hsource']
  rcases hr' with hr' | rfl | hr'
  · exact hown r' (by rw [hs]; simp [hr']) hrte' i hi
  · cases hi
  · exact hown r' (by rw [hs]; simp [hr']) hrte' i hi

theorem checked_purgeRoute (hown : OwnPointers s) (hs : s.ripRoutes = pre ++ r :: suf)
    (hrte : r.type = .rte) :
    ∃ s', s.purgeRoute pre.length = .ok s' ∧ Checked s s' (pre ++ suf) := by
  have hr : r ∈ s.ripRoutes := by
    rw [hs]
    simp
  obtain ⟨hroutes, hsource, htime⟩ := dropRoute_spec hs (hown r hr hrte)
  have hrest : (s.dropRoute pre.length).ripRoutes.eraseIdx pre.length = pre ++ suf := by
    rw [hroutes, eraseIdx_append_of_length_le le_rfl, Nat.sub_self]
    rfl
  refine ⟨{ s.dropRoute pre.length with
    ripRoutes := (s.dropRoute pre.length).ripRoutes.eraseIdx pre.length }, ?_, hrest, htime, ?_⟩
  · rw [purgeRoute, if_pos (by simp [getElem?_length hs, hrte])]
  · intro r' hr' hrte' i hi
    simp only [hrest] at hr'
    have hr' : r' ∈ s.ripRoutes := by
      rw [hs]
      rcases mem_append.1 hr' with hr' | hr' <;> simp [hr']
    simp only [hsource]
    exact hown r' hr' hrte' i hi

/-- The check of a route: it is purged, made invalid or returned. -/
theorem checkRouteIsExpired_spec (cfg : RIPConfig) (hown : OwnPointers s)
    (hs : s.ripRoutes = pre ++ r :: suf) :
    (isPurgeable cfg s.simTime r = true ∧ ∃ s',
        s.checkRouteIsExpired cfg pre.length = .ok (false, s') ∧ Checked s s' (pre ++ suf)) ∨
      (isPurgeable cfg s.simTime r = false ∧ isExpired cfg s.simTime r = true ∧ ∃ s',
        s.checkRouteIsExpired cfg pre.length = .ok (false, s') ∧
          Checked s s' (pre ++ r.invalid :: suf)) ∨
      isPurgeable cfg s.simTime r = false ∧ isExpired cfg s.simTime r = false ∧
        s.checkRouteIsExpired cfg pre.length = .ok (true, s) := by
  unfold checkRouteIsExpired isPurgeable isExpired
  simp only [getElem?_length hs]
  by_cases hrte : r.type = .rte
  · rw [if_pos hrte]
    by_cases hpurge : r.lastUpdateTime + cfg.routeExpiryTime + cfg.routePurgeTime ≤ s.simTime
    · obtain ⟨s', hs', hchecked⟩ := checked_purgeRoute hown hs hrte
      refine .inl ⟨by simp [hrte, hpurge], s', ?_, hchecked⟩
      rw [if_pos hpurge, hs']
      rfl
    · rw [if_neg hpurge]
      by_cases hexpired : r.lastUpdateTime + cfg.routeExpiryTime ≤ s.simTime
      · rw [if_pos hexpired]
        exact .inr (.inl ⟨by simp [hpurge], by simp [hrte, hexpired], _, rfl,
          checked_invalidateRoute hown hs hrte⟩)
      · rw [if_neg hexpired]
        exact .inr (.inr ⟨by simp [hpurge], by simp [hexpired], rfl⟩)
  · rw [if_neg hrte]
    exact .inr (.inr ⟨by simp [hrte], by simp [hrte], rfl⟩)

/-- A computation returns packets with these entries behind those already made, unless there is no
room for any entry. -/
def Yields (max : ℤ) (acc : List RIPEntry) (x : Except RIPFault (RIPRouting × List (List RIPEntry)))
    (announced : Option (List RIPEntry)) : Prop :=
  match announced with
  | none => ∃ e, x = .error e
  | some es =>
    if 0 < max ∨ es = [] then ∃ s packets, x = .ok (s, packets) ∧ packets.flatten = acc ++ es
    else ∃ e, x = .error e

/-- There is room in the packet that is being filled. -/
def Fits (max : ℤ) (entries : List RIPEntry) : Prop :=
  (entries.length : ℤ) < max ∨ max = 0 ∧ entries = []

theorem entryAt_length (hs : s.ripRoutes = pre ++ r :: suf) :
    s.entryAt ri false pre.length = (sentMetric ri r).map (entryOf r) := by
  unfold entryAt
  rw [getElem?_length hs]
  rfl

variable {packets : List (List RIPEntry)} {entries : List RIPEntry} {max : ℤ}

/-- The end of the walk. -/
theorem yields_end :
    Yields max (packets.flatten ++ entries)
      (.ok (s, if entries = [] then packets else packets ++ [entries])) (some []) := by
  unfold Yields
  simp only [or_true, if_true, append_nil]
  refine ⟨_, _, rfl, ?_⟩
  split_ifs with hempty <;> simp [hempty]

/-- The walk makes an entry, and goes on. -/
theorem yields_entry
    {entry : RIPEntry} (hfits : Fits max entries)
    {go : List (List RIPEntry) → List RIPEntry →
      Except RIPFault (RIPRouting × List (List RIPEntry))} {announced : Option (List RIPEntry)}
    (hgo : ∀ packets entries, Fits max entries →
      Yields max (packets.flatten ++ entries) (go packets entries) announced) :
    Yields max (packets.flatten ++ entries)
      (if max < (entries ++ [entry]).length then .error (.entryArray max)
        else if max = (entries ++ [entry]).length then go (packets ++ [entries ++ [entry]]) []
        else go packets (entries ++ [entry]))
      (announced.map fun es => entry :: es) := by
  have hlength : ((entries ++ [entry]).length : ℤ) = entries.length + 1 := by simp
  rw [hlength]
  rcases hfits with hlt | ⟨hmax, rfl⟩
  · have hpos : 0 < max := lt_of_le_of_lt (Int.natCast_nonneg _) hlt
    rw [if_neg (by omega)]
    have hcons : ∀ {acc acc' : List RIPEntry}
        {x : Except RIPFault (RIPRouting × List (List RIPEntry))}, acc' = acc ++ [entry] →
        Yields max acc' x announced → Yields max acc x (announced.map fun es => entry :: es) := by
      rintro acc acc' x rfl h
      cases announced with
      | none => exact h
      | some es =>
        simp only [Yields, hpos, true_or, if_true, map_some] at h ⊢
        obtain ⟨s, packets, hx, hflat⟩ := h
        exact ⟨s, packets, hx, by rw [hflat]; simp⟩
    split_ifs with hfull
    · exact hcons (by simp) (hgo (packets ++ [entries ++ [entry]]) [] (.inl hpos))
    · exact hcons (by simp) (hgo packets (entries ++ [entry]) (.inl (by omega)))
  · -- there is no room for a single entry
    rw [hmax, if_pos (by simp)]
    cases announced with
    | none => exact ⟨_, rfl⟩
    | some es =>
      simp only [Yields, map_some, lt_irrefl, false_or, cons_ne_nil, if_false]
      exact ⟨_, rfl⟩

/-- The walk from a position on makes the entries that `visited` says. -/
theorem sendLoop_spec {rounds : ℕ} (hown : OwnPointers s) (hs : s.ripRoutes = pre ++ suf)
    (hrounds : suf.length ≤ rounds) (hfits : Fits (maxEntries cfg ri.ie) entries) :
    Yields (maxEntries cfg ri.ie) (packets.flatten ++ entries)
      (sendLoop cfg ri false rounds pre.length s packets entries)
      (visited cfg s.simTime ri suf) := by
  induction rounds generalizing s pre suf packets entries with
  | zero =>
    obtain rfl := length_eq_zero_iff.1 (Nat.le_zero.1 hrounds)
    rw [append_nil] at hs
    rw [sendLoop, if_pos (by rw [hs])]
    exact yields_end
  | succ rounds ih =>
    cases suf with
    | nil =>
      rw [append_nil] at hs
      rw [sendLoop, if_pos (by rw [hs])]
      exact yields_end
    | cons r suf =>
      have hlength : s.ripRoutes.length = pre.length + (suf.length + 1) := by
        rw [hs, length_append, length_cons]
      have hle : suf.length ≤ rounds := Nat.le_of_succ_le_succ hrounds
      rw [sendLoop, if_neg (by omega), if_neg (by omega)]
      -- the walk goes on one route behind
      have hnext : ∀ {s' : RIPRouting} {r' : RIPRoute} {rest : List RIPRoute}
          {packets : List (List RIPEntry)} {entries : List RIPEntry},
          Checked s s' (pre ++ r' :: rest) → rest.length ≤ rounds →
          Fits (maxEntries cfg ri.ie) entries →
          Yields (maxEntries cfg ri.ie) (packets.flatten ++ entries)
            (sendLoop cfg ri false rounds (pre.length + 1) s' packets entries)
            (visited cfg s.simTime ri rest) := by
        intro s' r' rest packets entries hchecked hle hfits
        have hsplit : s'.ripRoutes = (pre ++ [r']) ++ rest := by
          rw [hchecked.ripRoutes, append_assoc, singleton_append]
        have h : Yields (maxEntries cfg ri.ie) (packets.flatten ++ entries)
            (sendLoop cfg ri false rounds (pre ++ [r']).length s' packets entries)
            (visited cfg s'.simTime ri rest) := ih hchecked.ownPointers hsplit hle hfits
        rwa [length_append, length_singleton, hchecked.simTime] at h
      rcases checkRouteIsExpired_spec cfg hown hs with
        ⟨hpurge, s', hcheck, hchecked⟩ | ⟨hpurge, hexpired, s', hcheck, hchecked⟩ |
        ⟨hpurge, hexpired, hcheck⟩
      · rw [hcheck, ok_bind]
        simp only [Bool.false_eq_true, if_false]
        cases suf with
        | nil =>
          -- the iterator has passed the end
          have hend : s'.ripRoutes.length = pre.length := by simp [hchecked.ripRoutes]
          rw [visited, if_pos hpurge]
          cases rounds with
          | zero => exact ⟨.invalidIterator, by rw [sendLoop, if_neg (by omega)]⟩
          | succ rounds =>
            exact ⟨.invalidIterator, by rw [sendLoop, if_neg (by omega), if_pos (by omega)]⟩
        | cons r' suf =>
          rw [visited, if_pos hpurge]
          exact hnext hchecked ((Nat.le_succ _).trans hle) hfits
      · rw [hcheck, ok_bind, visited_cons hpurge, visitedEntry, if_pos hexpired]
        simp only [Bool.false_eq_true, if_false, Option.toList_none, nil_append, Option.map_id']
        exact hnext hchecked hle hfits
      · have hsame : Checked s s (pre ++ r :: suf) := ⟨hs, rfl, hown⟩
        rw [hcheck, ok_bind, visited_cons hpurge, visitedEntry,
          if_neg (Bool.eq_false_iff.1 hexpired)]
        simp only [if_true, entryAt_length hs]
        cases (sentMetric ri r).map (entryOf r) with
        | none =>
          simp only [Option.toList_none, nil_append, Option.map_id']
          exact hnext hsame hle hfits
        | some entry =>
          simp only [toList_some, singleton_append]
          exact yields_entry hfits fun _ _ hfits' => hnext hsame hle hfits'

theorem flatMap_sendPacket (address : IPv4Address) (port ie : ℕ)
    (packets : List (List RIPEntry)) :
    (packets.map (sendPacket address port ie)).flatMap (fun p => p.packet.entries) =
      packets.flatten := by
  rw [flatMap_map, flatMap_def]
  exact congrArg List.flatten (map_id packets)

/-- An update announces what is due exactly when there is room and nothing is skipped. -/
theorem sendsDue_iff_of_ownPointers (hown : OwnPointers s) :
    SendsDue cfg s ri ↔ HasRoom cfg s ri ∧ NoneSkipped cfg s.simTime ri s.ripRoutes := by
  by_cases hneg : maxEntries cfg ri.ie < 0
  · refine iff_of_false ?_ ?_
    · rintro ⟨s', sent, hsend, -⟩
      rw [sendRoutes, if_pos hneg] at hsend
      cases hsend
    · rintro ⟨hpos | ⟨hzero, -⟩, -⟩ <;> omega
  have hfits : Fits (maxEntries cfg ri.ie) [] := by
    rcases lt_or_eq_of_le (not_lt.1 hneg) with hpos | hzero
    · exact .inl hpos
    · exact .inr ⟨hzero.symm, rfl⟩
  have hloop : Yields (maxEntries cfg ri.ie) []
      (sendLoop cfg ri false s.ripRoutes.length 0 s [] [])
      (visited cfg s.simTime ri s.ripRoutes) :=
    sendLoop_spec hown (nil_append _).symm le_rfl hfits
  unfold SendsDue
  rw [sendRoutes, if_neg hneg, ← visited_eq_iff]
  constructor
  · rintro ⟨s', sent, hsend, hperm⟩
    obtain ⟨⟨s1, packets⟩, hpackets, heq⟩ := bind_eq_ok.1 hsend
    cases heq
    rw [hpackets] at hloop
    rw [flatMap_sendPacket] at hperm
    cases hvisited : visited cfg s.simTime ri s.ripRoutes with
    | none =>
      rw [hvisited] at hloop
      obtain ⟨e, he⟩ := hloop
      cases he
    | some es =>
      rw [hvisited] at hloop
      unfold Yields at hloop
      simp only at hloop
      split_ifs at hloop with hroom
      · obtain ⟨_, _, heq, hflat⟩ := hloop
        cases heq
        rw [hflat, nil_append] at hperm
        have hes := (visited_sublist hvisited).eq_of_length hperm.length_eq
        refine ⟨?_, by rw [hes]⟩
        rcases hroom with hpos | hempty
        · exact .inl hpos
        · rcases lt_or_eq_of_le (not_lt.1 hneg) with hpos | hzero
          · exact .inl hpos
          · exact .inr ⟨hzero.symm, by rw [← hes, hempty]⟩
      · obtain ⟨e, he⟩ := hloop
        cases he
  · rintro ⟨hroom, hvisited⟩
    rw [hvisited] at hloop
    have hroom' : 0 < maxEntries cfg ri.ie ∨ dueEntries cfg s.simTime ri s.ripRoutes = [] :=
      hroom.imp_right And.right
    unfold Yields at hloop
    simp only [if_pos hroom'] at hloop
    obtain ⟨s', packets, hsend, hflat⟩ := hloop
    refine ⟨s', packets.map (sendPacket allRipRoutersMcast cfg.ripUdpPort ri.ie), ?_, ?_⟩
    · rw [hsend]
      rfl
    · rw [flatMap_sendPacket, hflat]
      exact .refl _

/-- In every run, the regular update on an interface, after those on the interfaces before,
announces what is due exactly when there is room and nothing is skipped. -/
theorem sendsDue_iff {acts : List RIPAction} {ifs : List RIPInterfaceEntry} {s₁ : RIPRouting}
    {sent : List SentPacket} (h : Run (step cfg) (fun _ _ => True) init acts s)
    (hsent : sendRoutesOn cfg false ifs s = .ok (s₁, sent)) :
    SendsDue cfg s₁ ri ↔ HasRoom cfg s₁ ri ∧ NoneSkipped cfg s₁.simTime ri s₁.ripRoutes := by
  have hok : Ok s := ok_of_run h
  have hweak := (safe_sendRoutesOn cfg false ifs hok.kernelOk).of_eq_ok hsent
  exact sendsDue_iff_of_ownPointers (hok.of_weakened hweak.1).ownPointers

/-- The interface 2 of the sample, with poisoned reverse. -/
def sampleInterface : RIPInterfaceEntry :=
  ⟨2, 5, .splitHorizonPoisonedReverse, by decide, by decide⟩

theorem sendsDue_iff_sample : ∃ s : RIPRouting,
    s.ripRoutes.map (fun r => (r.dest, r.metric)) =
      [(0x0A010000, 1), (0x0A020000, 5), (0x0A030000, 2)] ∧
    (SendsDue sampleConfig s sampleInterface ↔
      HasRoom sampleConfig s sampleInterface ∧
        NoneSkipped sampleConfig s.simTime sampleInterface s.ripRoutes) := by
  obtain ⟨s, hs, hroutes⟩ : ∃ s, Run (step sampleConfig) (fun _ _ => True) init
      (sampleStart ++ [sampleResponse 0x0A030000]) s ∧
      s.ripRoutes.map (fun r => (r.dest, r.metric)) =
        [(0x0A010000, 1), (0x0A020000, 5), (0x0A030000, 2)] :=
    exists_run_of_exec (by decide +kernel)
  exact ⟨s, hroutes, sendsDue_iff hs (rfl : sendRoutesOn sampleConfig false [] s = .ok (s, []))⟩

/-- The address and the metric of an entry. -/
def addressMetric (e : RIPEntry) : IPv4Address × ℕ := (e.address, e.metric)

/-- The route to 10.3.0.0/16, learnt on the interface 1, has expired: the next update on the
interface 2 should announce it with the metric 16, and does not announce it. -/
theorem not_sendsDue : ∃ s : RIPRouting,
    Run (step sampleConfig) (fun _ _ => True) init
      (sampleStart ++ [sampleResponse 0x0A030000, .advance 180]) s ∧
    (dueEntries sampleConfig s.simTime sampleInterface s.ripRoutes).map addressMetric =
      [(0x0A010000, 1), (0x0A020000, 16), (0x0A030000, 16)] ∧
    ¬SendsDue sampleConfig s sampleInterface := by
  obtain ⟨s, hs, h⟩ : ∃ s, Run (step sampleConfig) (fun _ _ => True) init
      (sampleStart ++ [sampleResponse 0x0A030000, .advance 180]) s ∧
      ((dueEntries sampleConfig s.simTime sampleInterface s.ripRoutes).map addressMetric,
        (s.sendRoutes sampleConfig allRipRoutersMcast 520 sampleInterface false).toOption.map
          fun p => (p.2.flatMap fun q => q.packet.entries).map addressMetric) =
      ([(0x0A010000, 1), (0x0A020000, 16), (0x0A030000, 16)],
        some [(0x0A010000, 1), (0x0A020000, 16)]) :=
    exists_run_of_exec (by decide +kernel)
  obtain ⟨hdue, hsent⟩ := Prod.mk.inj h
  refine ⟨s, hs, hdue, ?_⟩
  rintro ⟨s', sent, hsend, hperm⟩
  have hsend' : s.sendRoutes sampleConfig allRipRoutersMcast 520 sampleInterface false =
      .ok (s', sent) := hsend
  rw [hsend'] at hsent
  have hentries : (sent.flatMap fun q => q.packet.entries).map addressMetric =
      [(0x0A010000, 1), (0x0A020000, 16)] := Option.some.inj hsent
  have hlength := (hperm.map addressMetric).length_eq
  rw [hdue, hentries] at hlength
  cases hlength

end RIPRouting

end Hiwis
