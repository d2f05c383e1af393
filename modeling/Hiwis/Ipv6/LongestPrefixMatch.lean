import Hiwis.Ipv6.DestCache

/-!
# Longest prefix matches over a history of the table

The loop stops at the first route that matches and is not erased, so the routes have to be sorted
by `routeLessThan` and this route must not have expired.

* `doLongestPrefixMatch_eq` : the result of the loop, by the route at which it stops;
* `answers_iff` : in a sorted list the route is the best one, and only expired routes are erased, if
  and only if the loop does not stop at an expired route;
* `answers_iff_run` : the list is sorted after every run in which no new metric or administrative
  distance takes a route out of order.
-/

namespace Hiwis

open List Trace

namespace Ipv6

variable {p : RouteSort} {s s' : State} {now : ℤ} {dest : IPv6Address} {r a b : IPv6Route}
  {l : List IPv6Route}

/-! ### What the match is for -/

/-- The route leads to the destination now. -/
def IPv6Route.isUsable (now : ℤ) (dest : IPv6Address) (r : IPv6Route) : Bool :=
  r.isMatch dest && !r.isExpired now

/-- The route has the longest prefix and, among those, the smallest distance and metric. -/
structure IsBestMatch (now : ℤ) (dest : IPv6Address) (l : List IPv6Route) (r : IPv6Route) :
    Prop where
  mem : r ∈ l
  usable : r.isUsable now dest = true
  longest : ∀ b ∈ l, b.isUsable now dest = true → b.prefixLength ≤ r.prefixLength
  cheapest : ∀ b ∈ l, b.isUsable now dest = true → b.prefixLength = r.prefixLength →
    r.adminDist < b.adminDist ∨ r.adminDist = b.adminDist ∧ r.metric ≤ b.metric

/-- The best match, if there is one. -/
def IsAnswer (now : ℤ) (dest : IPv6Address) (l : List IPv6Route) : Option IPv6Route → Prop
  | some r => IsBestMatch now dest l r
  | none => ∀ r ∈ l, r.isUsable now dest = false

/-- Only routes that have expired are missing from the second list. -/
def OnlyExpired (now : ℤ) (l l' : List IPv6Route) : Prop :=
  l'.Sublist l ∧ (l'.filter fun r => !r.isExpired now) = l.filter fun r => !r.isExpired now

/-- `doLongestPrefixMatch` ends with the best match and removes only expired routes. -/
def Answers (now : ℤ) (dest : IPv6Address) (l : List IPv6Route) : Prop :=
  ∃ out l', doLongestPrefixMatch now dest l = .ok (out, l') ∧ IsAnswer now dest l out ∧
    OnlyExpired now l l'

/-! ### The loop -/

/-- The route matches, and is not erased. -/
def stopsAt (now : ℤ) (dest : IPv6Address) (r : IPv6Route) : Bool :=
  r.isMatch dest && !(r.isExpired now && r.src == .fromRA)

/-- The loop does not stop at a route that has expired, where it would stay. -/
def Advances (now : ℤ) (dest : IPv6Address) (l : List IPv6Route) : Prop :=
  ∀ r ∈ l.find? (stopsAt now dest), r.isExpired now = false

instance : Decidable (Advances now dest l) :=
  inferInstanceAs (Decidable (∀ r ∈ l.find? (stopsAt now dest), r.isExpired now = false))

theorem OnlyExpired.refl (l : List IPv6Route) : OnlyExpired now l l := ⟨List.Sublist.refl l, rfl⟩

variable {l' : List IPv6Route}

theorem OnlyExpired.cons (h : OnlyExpired now l l') (r : IPv6Route) :
    OnlyExpired now (r :: l) (r :: l') := by
  refine ⟨h.1.cons_cons r, ?_⟩
  rw [filter_cons, filter_cons, h.2]

theorem OnlyExpired.erase (h : OnlyExpired now l l') (hr : r.isExpired now = true) :
    OnlyExpired now (r :: l) l' := by
  refine ⟨h.1.cons r, ?_⟩
  rw [h.2, filter_cons_of_neg]
  simp [hr]

/-- The result of the loop, by the route at which it stops. -/
theorem doLongestPrefixMatch_eq (now : ℤ) (dest : IPv6Address)
    (hvalid : ∀ r ∈ l, r.validLength = true) :
    ∃ l', OnlyExpired now l l' ∧
      doLongestPrefixMatch now dest l =
        match l.find? (stopsAt now dest) with
        | none => .ok (none, l')
        | some r => if r.isExpired now then .error .diverges else .ok (some r, l') := by
  induction l with
  | nil => exact ⟨[], .refl _, rfl⟩
  | cons r l ih =>
    obtain ⟨l', hl', heq⟩ := ih fun r hr => hvalid r (mem_cons_of_mem _ hr)
    have hlength := hvalid r mem_cons_self
    by_cases hmatch : r.isMatch dest = true
    · by_cases hexpired : r.isExpired now = true
      · by_cases hsrc : r.src = .fromRA
        · -- The route is erased.
          refine ⟨l', hl'.erase hexpired, ?_⟩
          rw [find?_cons_of_neg (by simp [stopsAt, hexpired, hsrc]), ← heq]
          simp [doLongestPrefixMatch, hlength, hmatch, hexpired, hsrc]
        · refine ⟨r :: l, .refl _, ?_⟩
          rw [find?_cons_of_pos (by simp [stopsAt, hmatch, hsrc])]
          simp [doLongestPrefixMatch, hlength, hmatch, hexpired, hsrc]
      · refine ⟨r :: l, .refl _, ?_⟩
        rw [find?_cons_of_pos (by simp [stopsAt, hmatch, hexpired])]
        simp [doLongestPrefixMatch, hlength, hmatch, hexpired]
    · refine ⟨r :: l', hl'.cons r, ?_⟩
      rw [find?_cons_of_neg (by simp [stopsAt, hmatch])]
      simp only [doLongestPrefixMatch, hlength, hmatch, heq]
      cases l.find? (stopsAt now dest) with
      | none => rfl
      | some b => by_cases hb : b.isExpired now = true <;> simp [hb, Except.map]

/-! ### The order of the list -/

/-- The two prefixes are the same. -/
def SamePrefix (a b : IPv6Route) : Prop :=
  b.prefixLength = a.prefixLength ∧ a.isMatch b.destPrefix = true

instance : Decidable (SamePrefix a b) :=
  inferInstanceAs (Decidable (b.prefixLength = a.prefixLength ∧ a.isMatch b.destPrefix = true))

/-- The first route may stand before the second one. -/
def MayPrecede (a b : IPv6Route) : Prop :=
  b.prefixLength ≤ a.prefixLength ∧ (SamePrefix a b → NotAfter a b)

instance : Decidable (MayPrecede a b) :=
  inferInstanceAs (Decidable (b.prefixLength ≤ a.prefixLength ∧ (SamePrefix a b → NotAfter a b)))

/-- The list can be searched: a route that two prefixes lead to meets the better one first. -/
structure Searchable (l : List IPv6Route) : Prop where
  valid : ∀ r ∈ l, r.validLength = true
  sorted : l.Pairwise MayPrecede

/-- Routes of one length that match one destination have the same prefix. -/
theorem samePrefix_of_isMatch (hlength : b.prefixLength = a.prefixLength)
    (ha : a.isMatch dest = true) (hb : b.isMatch dest = true) : SamePrefix a b := by
  refine ⟨hlength, ?_⟩
  simp only [IPv6Route.isMatch, IPv6Address.isMatch, beq_iff_eq, hlength] at ha hb ⊢
  apply BitVec.eq_of_getLsbD_eq
  intro i hi
  have ha := congrArg (fun x : BitVec 128 => x.getLsbD i) ha
  have hb := congrArg (fun x : BitVec 128 => x.getLsbD i) hb
  simp only [BitVec.getLsbD_and, BitVec.getLsbD_xor] at ha hb ⊢
  revert ha hb
  cases dest.getLsbD i <;> cases a.destPrefix.getLsbD i <;> cases b.destPrefix.getLsbD i <;> simp

theorem NotAfter.mayPrecede (h : NotAfter a b) : MayPrecede a b :=
  ⟨le_of_not_routeLessThan h, fun _ => h⟩

/-- `routeLessThan` compares the distances, and then the metrics. -/
theorem NotAfter.cheaper (h : NotAfter a b) (hlength : b.prefixLength = a.prefixLength) :
    a.adminDist < b.adminDist ∨ a.adminDist = b.adminDist ∧ a.metric ≤ b.metric := by
  unfold NotAfter routeLessThan at h
  split_ifs at h <;> simp at h <;> omega

theorem isUsable_iff :
    r.isUsable now dest = true ↔ r.isMatch dest = true ∧ r.isExpired now = false := by
  simp [IPv6Route.isUsable]

/-- A route that can be used ends the search. -/
theorem stopsAt_of_isUsable (h : r.isUsable now dest = true) : stopsAt now dest r = true := by
  obtain ⟨hmatch, hexpired⟩ := isUsable_iff.1 h
  simp [stopsAt, hmatch, hexpired]

/-- The route at which the loop stops is the best one, if it has not expired. -/
theorem Searchable.isBestMatch (h : Searchable l) (hfind : l.find? (stopsAt now dest) = some r)
    (hexpired : r.isExpired now = false) : IsBestMatch now dest l r := by
  have hstop := find?_some hfind
  have hmatch : r.isMatch dest = true := by
    rw [stopsAt, Bool.and_eq_true] at hstop
    exact hstop.1
  obtain ⟨-, pre, post, rfl, hpre⟩ := find?_eq_some_iff_append.1 hfind
  have hafter : ∀ b ∈ pre ++ r :: post, b.isUsable now dest = true → b = r ∨ MayPrecede r b := by
    intro b hb husable
    obtain hb | hb := mem_append.1 hb
    · have hpass := hpre b hb
      rw [stopsAt_of_isUsable husable] at hpass
      cases hpass
    · obtain rfl | hb := mem_cons.1 hb
      · exact .inl rfl
      · exact .inr ((pairwise_cons.1 (pairwise_append.1 h.sorted).2.1).1 b hb)
  refine ⟨mem_of_find?_eq_some hfind, isUsable_iff.2 ⟨hmatch, hexpired⟩,
    fun b hb husable => ?_, fun b hb husable hlength => ?_⟩
  · obtain rfl | hprecede := hafter b hb husable
    · exact le_rfl
    · exact hprecede.1
  · obtain rfl | hprecede := hafter b hb husable
    · exact .inr ⟨rfl, le_rfl⟩
    · have hsame := samePrefix_of_isMatch hlength hmatch (isUsable_iff.1 husable).1
      exact (hprecede.2 hsame).cheaper hlength

/-- **The match is the best one** in a list that can be searched, if and only if the loop does not
stop at a route that has expired. -/
theorem Searchable.answers_iff (h : Searchable l) : Answers now dest l ↔ Advances now dest l := by
  obtain ⟨l', hl', heq⟩ := doLongestPrefixMatch_eq now dest h.valid
  cases hfind : l.find? (stopsAt now dest) with
  | none =>
    rw [hfind] at heq
    refine iff_of_true ⟨none, l', heq, fun r hr => ?_, hl'⟩ fun r hr => ?_
    · rw [Bool.eq_false_iff]
      intro husable
      exact find?_eq_none.1 hfind r hr (stopsAt_of_isUsable husable)
    · rw [hfind] at hr
      cases hr
  | some r =>
    rw [hfind] at heq
    cases hexpired : r.isExpired now with
    | true =>
      refine iff_of_false ?_ fun hadvances => ?_
      · rintro ⟨out, l1, hok, -⟩
        rw [heq] at hok
        simp [hexpired] at hok
      · rw [hadvances r hfind] at hexpired
        cases hexpired
    | false =>
      simp only [hexpired] at heq
      refine iff_of_true ⟨some r, l', heq, h.isBestMatch hfind hexpired, hl'⟩ fun b hb => ?_
      cases hfind.symm.trans hb
      exact hexpired

/-! ### Changes of the table -/

/-- The route may take the place in the list. -/
def Fits (l : List IPv6Route) (i : ℕ) (r : IPv6Route) : Prop :=
  (∀ a ∈ l.take i, MayPrecede a r) ∧ ∀ b ∈ l.drop (i + 1), MayPrecede r b

instance {i : ℕ} : Decidable (Fits l i r) :=
  inferInstanceAs (Decidable ((∀ a ∈ l.take i, MayPrecede a r) ∧
    ∀ b ∈ l.drop (i + 1), MayPrecede r b))

/-- A new route has a valid length, and a new metric or distance leaves the route in order. -/
def KeepsOrder (s : State) : Action → Prop
  | .addOrUpdateOnLinkPrefix _ len _ _ | .addOrUpdateOwnAdvPrefix _ len _ _
  | .addStaticRoute _ len _ _ _ => 0 ≤ len ∧ len ≤ 128
  | .addRoutingProtocolRoute route => 0 ≤ route.prefixLength ∧ route.prefixLength ≤ 128
  | .setMetric i metric => ∀ r ∈ s.routeList[i]?, Fits s.routeList i { r with metric := metric }
  | .setAdminDist i dist => ∀ r ∈ s.routeList[i]?, Fits s.routeList i { r with adminDist := dist }
  | _ => True

theorem searchable_nil : Searchable [] := ⟨fun _ hr => (not_mem_nil hr).elim, List.Pairwise.nil⟩

theorem validLength_iff : r.validLength = true ↔ 0 ≤ r.prefixLength ∧ r.prefixLength ≤ 128 := by
  simp [IPv6Route.validLength]

namespace Searchable

theorem sublist (h : Searchable l) (hsub : l'.Sublist l) : Searchable l' :=
  ⟨fun r hr => h.valid r (hsub.subset hr), h.sorted.sublist hsub⟩

/-- A route is added, and the list is sorted. -/
theorem addRoute (h : Searchable s.routeList) (hr : r.validLength = true) :
    Searchable (s.addRoute p r).routeList := by
  refine ⟨fun b hb => ?_, (p.sorted _).imp fun h => NotAfter.mayPrecede h⟩
  obtain hb | hb := mem_append.1 ((p.perm _).mem_iff.1 hb)
  · exact h.valid b hb
  · rw [mem_singleton.1 hb]
    exact hr

/-- A route changes, and fits into its place. -/
theorem modifyRoute (h : Searchable s.routeList) {i : ℕ} {f : IPv6Route → IPv6Route}
    (hvalid : ∀ r, (f r).validLength = r.validLength)
    (hfits : ∀ r ∈ s.routeList[i]?, Fits s.routeList i (f r)) :
    Searchable (s.modifyRoute i f).routeList := by
  have hlist : (s.modifyRoute i f).routeList = s.routeList.modify i f := rfl
  rw [hlist]
  by_cases hi : i < s.routeList.length
  · have hget := List.getElem?_eq_getElem hi
    obtain ⟨hbefore, hafter⟩ := hfits _ hget
    have hsplit : s.routeList =
        s.routeList.take i ++ s.routeList[i] :: s.routeList.drop (i + 1) := by
      rw [← drop_eq_getElem_cons hi, take_append_drop]
    have hsorted := h.sorted
    have hall := h.valid
    rw [modify_eq_take_cons_drop hi]
    rw [hsplit] at hsorted hall
    obtain ⟨htake, hcons, hcross⟩ := pairwise_append.1 hsorted
    refine ⟨fun r hr => ?_, pairwise_append.2 ⟨htake,
      pairwise_cons.2 ⟨hafter, (pairwise_cons.1 hcons).2⟩, fun a ha b hb => ?_⟩⟩
    · obtain hr | hr := mem_append.1 hr
      · exact hall r (mem_append_left _ hr)
      · obtain rfl | hr := mem_cons.1 hr
        · rw [hvalid]
          exact hall _ (mem_append_right _ mem_cons_self)
        · exact hall r (mem_append_right _ (mem_cons_of_mem _ hr))
    · obtain rfl | hb := mem_cons.1 hb
      · exact hbefore a ha
      · exact hcross a ha b (mem_cons_of_mem _ hb)
  · rw [modify_eq_self (Nat.le_of_not_lt hi)]
    exact h

/-- The route as it is fits into its place. -/
theorem fits (h : Searchable l) {i : ℕ} (hr : r ∈ l[i]?) : Fits l i r := by
  obtain ⟨hi, rfl⟩ := List.getElem?_eq_some_iff.1 hr
  have hsorted := h.sorted
  rw [← take_append_drop i l, drop_eq_getElem_cons hi] at hsorted
  obtain ⟨-, hcons, hcross⟩ := pairwise_append.1 hsorted
  exact ⟨fun a ha => hcross a ha _ mem_cons_self, (pairwise_cons.1 hcons).1⟩

variable (h : Searchable s.routeList)
include h

theorem setInterfaceId (i : ℕ) (interfaceId : ℤ) :
    Searchable (s.setInterfaceId i interfaceId).routeList := by
  unfold State.setInterfaceId
  split_ifs
  · exact h.modifyRoute (f := fun r => { r with interfaceId := interfaceId }) (fun _ => rfl)
      fun r hr => h.fits (r := r) hr
  · exact h

theorem setNextHop (i : ℕ) (nextHop : IPv6Address) :
    Searchable (s.setNextHop i nextHop).routeList := by
  unfold State.setNextHop
  split_ifs
  · exact h.modifyRoute (f := fun r => { r with nextHop := nextHop }) (fun _ => rfl)
      fun r hr => h.fits (r := r) hr
  · exact h

theorem setExpiryTime (i : ℕ) (expiryTime : ℤ) :
    Searchable (s.setExpiryTime i expiryTime).routeList :=
  h.modifyRoute (f := fun r => { r with expiryTime := expiryTime }) (fun _ => rfl)
    fun r hr => h.fits (r := r) hr

theorem addOrUpdatePrefix {src : RouteSrc} {destPrefix : IPv6Address}
    {prefixLength interfaceId expiryTime : ℤ} (hlength : 0 ≤ prefixLength ∧ prefixLength ≤ 128) :
    Searchable
      (s.addOrUpdatePrefix p src destPrefix prefixLength interfaceId expiryTime).routeList := by
  unfold State.addOrUpdatePrefix
  split
  · exact h.addRoute (validLength_iff.2 hlength)
  · exact (h.setInterfaceId _ _).setExpiryTime _ _

/-- A match leaves a part of the list. -/
theorem determineOutputInterface {out : Option (ℤ × IPv6Address)}
    (hok : s.determineOutputInterface dest = .ok (out, s')) : Searchable s'.routeList := by
  obtain ⟨-, -, -, -, -, rfl⟩ | ⟨c, -, route, l, hmatch, hcases⟩ :=
    determineOutputInterface_cases hok
  · exact h
  · have hl : Searchable l := h.sublist (doLongestPrefixMatch_spec hmatch).1.sublist
    obtain ⟨-, -, rfl⟩ | ⟨r, -, -, rfl⟩ := hcases
    · exact hl
    · exact hl

theorem call {x : Action} (hkeeps : KeepsOrder s x) (hok : call p s x = .ok s') :
    Searchable s'.routeList := by
  cases x with
  | determineOutputInterface dest =>
    change (s.determineOutputInterface dest).map Prod.snd = .ok s' at hok
    cases hout : s.determineOutputInterface dest with
    | error e =>
      rw [hout] at hok
      cases hok
    | ok y =>
      rw [hout] at hok
      cases hok
      exact h.determineOutputInterface hout
  | addOrUpdateOnLinkPrefix | addOrUpdateOwnAdvPrefix =>
    cases hok
    exact h.addOrUpdatePrefix hkeeps
  | removeOnLinkPrefix destPrefix len =>
    cases hok
    exact h.sublist eraseP_sublist
  | addStaticRoute =>
    cases hok
    exact h.addRoute (validLength_iff.2 hkeeps)
  | addDefaultRoute =>
    cases hok
    exact h.addRoute (validLength_iff.2 ⟨le_rfl, Int.natCast_nonneg 128⟩)
  | addRoutingProtocolRoute route =>
    change s.addRoutingProtocolRoute p route = .ok s' at hok
    unfold State.addRoutingProtocolRoute at hok
    split_ifs at hok
    cases hok
    exact h.addRoute (validLength_iff.2 hkeeps)
  | removeRoute i =>
    change s.removeRoute i = .ok s' at hok
    unfold State.removeRoute at hok
    split_ifs at hok
    cases hok
    exact h.sublist (eraseIdx_sublist ..)
  | removeDefaultRoutes | removePrefixes =>
    cases hok
    exact h.sublist filter_sublist
  | removeAllRoutes =>
    cases hok
    exact h.sublist (nil_sublist _)
  | setInterfaceId i ifId =>
    cases hok
    exact h.setInterfaceId i ifId
  | setNextHop i nextHop =>
    cases hok
    exact h.setNextHop i nextHop
  | setExpiryTime i expiryTime =>
    cases hok
    exact h.setExpiryTime i expiryTime
  | setMetric i metric =>
    cases hok
    exact h.modifyRoute (f := fun r => { r with metric := metric }) (fun _ => rfl) hkeeps
  | setAdminDist i adminDist =>
    cases hok
    exact h.modifyRoute (f := fun r => { r with adminDist := adminDist }) (fun _ => rfl) hkeeps
  | interfaceStateChanged ifId isUp =>
    cases hok
    cases isUp <;> exact h
  | interfaceDeleted | purgeDestCacheEntriesToNeighbour =>
    cases hok
    exact h

end Searchable

/-! ### Runs -/

/-- **Longest prefix matches over a history.**  After every run that adds routes with valid lengths
and leaves the changed ones in order, a match ends, gives the best route and removes only expired
ones, if and only if the loop does not stop at a route that has expired. -/
theorem answers_iff_run {as : List (ℤ × Action)}
    (hrun : Run (step p) (fun s x => KeepsOrder s x.2) {} as s) (now : ℤ)
    (dest : IPv6Address) : Answers now dest s.routeList ↔ Advances now dest s.routeList := by
  have hsearchable : Searchable s.routeList := by
    refine hrun.invariant (I := fun s => Searchable (State.routeList s)) ?_ searchable_nil
    intro s x s' h hkeeps hstep
    exact h.call (s := { s with now := x.1 }) hkeeps hstep
  exact hsearchable.answers_iff

/-! ### Sample runs -/

instance (s : State) (x : Action) : Decidable (KeepsOrder s x) :=
  match x with
  | .addOrUpdateOnLinkPrefix _ len _ _ | .addOrUpdateOwnAdvPrefix _ len _ _
  | .addStaticRoute _ len _ _ _ => inferInstanceAs (Decidable (0 ≤ len ∧ len ≤ 128))
  | .addRoutingProtocolRoute route =>
    inferInstanceAs (Decidable (0 ≤ route.prefixLength ∧ route.prefixLength ≤ 128))
  | .setMetric i metric => inferInstanceAs (Decidable
      (∀ r ∈ s.routeList[i]?, Fits s.routeList i { r with metric := metric }))
  | .setAdminDist i dist => inferInstanceAs (Decidable
      (∀ r ∈ s.routeList[i]?, Fits s.routeList i { r with adminDist := dist }))
  | .determineOutputInterface _ | .removeOnLinkPrefix .. | .addDefaultRoute .. | .removeRoute _
  | .removeDefaultRoutes _ | .removeAllRoutes | .removePrefixes _ | .setInterfaceId ..
  | .setNextHop .. | .setExpiryTime .. | .interfaceDeleted _ | .interfaceStateChanged ..
  | .purgeDestCacheEntriesToNeighbour .. => isTrue trivial

theorem answers_iff_run_sample : ∃ s : State,
    Run (step sampleSort) (fun s x => KeepsOrder s x.2) {} sampleActions s ∧
      Answers 60 sampleDest s.routeList := by
  obtain ⟨s, hrun, hadvances⟩ : ∃ s : State,
      Run (step sampleSort) (fun s x => KeepsOrder s x.2) {} sampleActions s ∧
        decide (Advances 60 sampleDest s.routeList) = true :=
    exists_run_of_exec (f := fun s : State => decide (Advances 60 sampleDest s.routeList))
      (by decide +kernel)
  exact ⟨s, hrun, (answers_iff_run hrun 60 sampleDest).2 (of_decide_eq_true hadvances)⟩

/-- The loop does not end at a prefix that the router advertises itself and that has expired.  A
route whose metric gets larger is still preferred. -/
theorem not_answers_run :
    (∃ s : State, Run (step sampleSort) (fun s x => KeepsOrder s x.2) {}
      [(0, .addOrUpdateOwnAdvPrefix samplePrefix 16 2 50)] s ∧ ¬Answers 60 sampleDest s.routeList) ∧
    ∃ s : State, Run (step sampleSort) (fun _ _ => True) {}
      [(0, .addStaticRoute samplePrefix 16 1 0x7 5), (0, .addStaticRoute samplePrefix 16 2 0x8 10),
        (0, .setMetric 0 20)] s ∧ ¬Answers 0 sampleDest s.routeList := by
  constructor
  · obtain ⟨s, hrun, hnone⟩ : ∃ s : State,
        Run (step sampleSort) (fun s x => KeepsOrder s x.2) {}
          [(0, .addOrUpdateOwnAdvPrefix samplePrefix 16 2 50)] s ∧
        (doLongestPrefixMatch 60 sampleDest s.routeList).toOption = none :=
      exists_run_of_exec
        (f := fun s : State => (doLongestPrefixMatch 60 sampleDest s.routeList).toOption)
        (by decide +kernel)
    refine ⟨s, hrun, ?_⟩
    rintro ⟨out, l', hok, -⟩
    rw [hok] at hnone
    cases hnone
  · obtain ⟨s, hrun, hvalue⟩ : ∃ s : State,
        Run (step sampleSort) (fun _ _ => True) {}
          [(0, .addStaticRoute samplePrefix 16 1 0x7 5),
            (0, .addStaticRoute samplePrefix 16 2 0x8 10), (0, .setMetric 0 20)] s ∧
        ((doLongestPrefixMatch 0 sampleDest s.routeList).toOption.map fun x =>
            x.1.map fun r => (r.prefixLength, r.adminDist, r.metric),
          s.routeList.any fun b => b.isUsable 0 sampleDest && b.prefixLength == 16 &&
            b.adminDist == 1 && b.metric == 10) = (some (some (16, 1, 20)), true) :=
      exists_run_of_exec
        (f := fun s : State => ((doLongestPrefixMatch 0 sampleDest s.routeList).toOption.map
            fun x => x.1.map fun r => (r.prefixLength, r.adminDist, r.metric),
          s.routeList.any fun b => b.isUsable 0 sampleDest && b.prefixLength == 16 &&
            b.adminDist == 1 && b.metric == 10)) (by decide +kernel)
    obtain ⟨hout, hany⟩ := Prod.mk.inj hvalue
    refine ⟨s, hrun, ?_⟩
    rintro ⟨out, l', hok, hanswer, -⟩
    rw [hok] at hout
    obtain ⟨r, rfl, hr⟩ := Option.map_eq_some_iff.1 (Option.some.inj hout)
    obtain ⟨b, hb, hproperties⟩ := any_eq_true.1 hany
    simp only [Bool.and_eq_true, beq_iff_eq] at hproperties
    obtain ⟨⟨⟨husable, hlength⟩, hdist⟩, hmetric⟩ := hproperties
    obtain ⟨hrlength, hrdist, hrmetric⟩ :
        r.prefixLength = 16 ∧ r.adminDist = 1 ∧ r.metric = 20 := by simpa using hr
    have hcheapest := hanswer.cheapest b hb husable (hlength.trans hrlength.symm)
    omega

end Ipv6

end Hiwis
