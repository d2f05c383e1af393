import Hiwis.Configurator.OptimizeRoutes
import Hiwis.Lib.MatchTable

/-!
# The original routes of the optimizer

The optimizer knows for each optimized route the original routes that it takes care of.  The table
is sound when it forwards their destinations in their colors.

* `IPv4NetworkConfigurator.mergedRouteInfo_spec` : a merged route matches what the two routes match;
* `IPv4NetworkConfigurator.Routed` : the destinations of the original routes are routed in their
  colors;
* `IPv4NetworkConfigurator.addOriginalRouteInfos_spec` : original routes are attached to the route
  that takes care of them.
-/

namespace Hiwis

open List

open IPv4Address

namespace IPv4NetworkConfigurator

variable {t t' : List RouteInfo} {r r' : RouteInfo} {o : OriginalRouteInfo}
  {x : IPv4Address} {k m first last : ℕ}

/-! ### The longest common prefix -/

theorem makeNetmask_or : ∀ n < 32,
    makeNetmask (32 - (n + 1)) ||| (1 <<< n : IPv4Address) = makeNetmask (32 - n) := by decide

theorem and_bit_eq {a : IPv4Address} {n : ℕ} (h : a &&& (1 <<< n : IPv4Address) ≠ 0) :
    (1 <<< n : IPv4Address) &&& a = 1 <<< n := by
  have htwo : (1 <<< n : IPv4Address) = BitVec.twoPow 32 n := rfl
  rw [htwo, BitVec.and_twoPow] at h
  rw [htwo, BitVec.and_comm, BitVec.and_twoPow]
  split_ifs at h ⊢
  · rfl
  · exact absurd rfl h

/-- What the loop makes of the bits from 31 down to `n`. -/
structure CommonPrefix (destination1 netmask1 destination2 netmask2 : IPv4Address) (n : ℕ)
    (p : IPv4Address × IPv4Address) : Prop where
  netmask_eq : p.2 = makeNetmask (32 - n)
  destination1_eq : p.1 = destination1 &&& p.2
  destination2_eq : p.1 = destination2 &&& p.2
  netmask1_eq : p.2 &&& netmask1 = p.2
  netmask2_eq : p.2 &&& netmask2 = p.2

theorem commonPrefixLoop_spec {d1 m1 d2 m2 : IPv4Address} {n : ℕ} (hn : n ≤ 32)
    {d netmask : IPv4Address} (h : CommonPrefix d1 m1 d2 m2 n (d, netmask)) :
    ∃ n', CommonPrefix d1 m1 d2 m2 n' (commonPrefixLoop d1 m1 d2 m2 n d netmask) := by
  induction n generalizing d netmask with
  | zero => exact ⟨0, h⟩
  | succ n ih =>
    unfold commonPrefixLoop
    simp only
    split_ifs with hbit
    · obtain ⟨hdest, h1, h2⟩ := hbit
      obtain ⟨hmask, hd1, hd2, hm1, hm2⟩ := h
      simp only at hmask hd1 hd2 hm1 hm2
      refine ih (by omega) ⟨?_, ?_, ?_, ?_, ?_⟩
      · simp only
        rw [hmask, makeNetmask_or n hn]
      · simp only
        rw [BitVec.and_or_distrib_left, ← hd1]
      · simp only
        rw [BitVec.and_or_distrib_left, ← hd2, hdest]
      · simp only
        rw [BitVec.and_or_distrib_right, hm1, and_bit_eq h1]
      · simp only
        rw [BitVec.and_or_distrib_right, hm2, and_bit_eq h2]
    · exact ⟨n + 1, h⟩

theorem findLongestCommonDestinationPrefix_spec (d1 m1 d2 m2 : IPv4Address) :
    ∃ n, CommonPrefix d1 m1 d2 m2 n (findLongestCommonDestinationPrefix d1 m1 d2 m2) := by
  refine commonPrefixLoop_spec le_rfl ⟨?_, ?_, ?_, ?_, ?_⟩
  · decide
  · exact (BitVec.and_zero).symm
  · exact (BitVec.and_zero).symm
  · exact BitVec.zero_and
  · exact BitVec.zero_and

/-- A route with a netmask without holes and no other bits in its destination. -/
structure WellFormed (o : OriginalRouteInfo) : Prop where
  valid : isValidNetmask o.netmask = true
  noHostBits : o.destination &&& ~~~o.netmask = 0

theorem and_eq_of_noHostBits (h : o.destination &&& ~~~o.netmask = 0) :
    o.destination &&& o.netmask = o.destination := by
  ext b hb
  have h1 := congrArg (·.getLsbD b) h
  simp only [BitVec.getLsbD_and, BitVec.getLsbD_not, hb, decide_true, Bool.true_and] at h1
  simp only [← BitVec.getLsbD_eq_getElem, BitVec.getLsbD_and]
  revert h1
  cases o.destination.getLsbD b <;> cases o.netmask.getLsbD b <;> simp

/-- The destination of a well-formed route is its own network. -/
theorem WellFormed.and_eq (h : WellFormed o) : o.destination &&& o.netmask = o.destination :=
  and_eq_of_noHostBits h.noHostBits

theorem isMatch_iff : o.isMatch x = true ↔ x &&& o.netmask = o.destination &&& o.netmask := by
  have hxor : (x ^^^ o.destination) &&& o.netmask =
      (x &&& o.netmask) ^^^ (o.destination &&& o.netmask) := by
    ext b hb
    simp [Bool.and_xor_distrib_right]
  unfold OriginalRouteInfo.isMatch
  rw [beq_iff_eq, hxor]
  exact BitVec.xor_eq_zero_iff

/-- One route matches what another one matches, and its netmask is a part of the other one's. -/
structure Covers (o' o : OriginalRouteInfo) : Prop where
  netmask : o'.netmask &&& o.netmask = o'.netmask
  destination : o'.destination = o.destination &&& o'.netmask

variable {o' : OriginalRouteInfo}

theorem Covers.isMatch (h : Covers o' o) (hx : o.isMatch x = true) : o'.isMatch x = true := by
  rw [isMatch_iff] at hx ⊢
  rw [h.destination, BitVec.and_assoc, BitVec.and_self]
  have hx' := congrArg (· &&& o'.netmask) hx
  simp only [BitVec.and_assoc] at hx'
  rwa [BitVec.and_comm o.netmask, h.netmask] at hx'

theorem mergedRouteInfo_spec (I J : RouteInfo) :
    Covers (mergedRouteInfo I J).toOriginalRouteInfo I.toOriginalRouteInfo ∧
    Covers (mergedRouteInfo I J).toOriginalRouteInfo J.toOriginalRouteInfo ∧
    WellFormed (mergedRouteInfo I J).toOriginalRouteInfo := by
  obtain ⟨n, h⟩ := findLongestCommonDestinationPrefix_spec I.destination I.netmask J.destination
    J.netmask
  refine ⟨⟨h.netmask1_eq, h.destination1_eq⟩, ⟨h.netmask2_eq, h.destination2_eq⟩, ?_, ?_⟩
  · change isValidNetmask (findLongestCommonDestinationPrefix _ _ _ _).2 = true
    have hvalid : ∀ n < 33, isValidNetmask (makeNetmask n) = true := by decide
    rw [h.netmask_eq]
    exact hvalid _ (by omega)
  · change (findLongestCommonDestinationPrefix _ _ _ _).1 &&& ~~~(_ : IPv4Address) = 0
    rw [h.destination1_eq, BitVec.and_assoc]
    change _ &&& (_ &&& ~~~(findLongestCommonDestinationPrefix _ _ _ _).2) = 0
    rw [BitVec.and_not_self]
    exact BitVec.and_zero

/-! ### Looking up -/

theorem findBest_eq_some : findBestMatchingRouteInfo t x first last = some k ↔
    t[k]?.any (·.routes x) = true ∧ first ≤ k ∧ k < last ∧
      ∀ l, first ≤ l → l < k → t[l]?.any (·.routes x) = false := by
  unfold findBestMatchingRouteInfo
  rw [List.find?_range'_eq_some, mem_range'_1]
  simp only [Bool.not_eq_true']
  constructor
  · rintro ⟨hmatch, ⟨hfirst, hlast⟩, hno⟩
    exact ⟨hmatch, hfirst, by omega, hno⟩
  · rintro ⟨hmatch, hfirst, hlast, hno⟩
    exact ⟨hmatch, ⟨hfirst, by omega⟩, hno⟩

theorem exists_findBest (h : t[k]?.any (·.routes x) = true) (hfirst : first ≤ k) (hlast : k < last) :
    ∃ k', findBestMatchingRouteInfo t x first last = some k' := by
  refine Option.isSome_iff_exists.1 ?_
  unfold findBestMatchingRouteInfo
  rw [List.find?_isSome]
  exact ⟨k, mem_range'_1.2 ⟨hfirst, by omega⟩, h⟩

theorem findBest_of_lt (h : findBestMatchingRouteInfo t x first last = some k) (hk : k < m) :
    findBestMatchingRouteInfo t x first m = some k := by
  obtain ⟨hmatch, hfirst, -, hno⟩ := findBest_eq_some.1 h
  exact findBest_eq_some.2 ⟨hmatch, hfirst, hk, hno⟩

theorem findBest_of_le (h : findBestMatchingRouteInfo t x first last = some k) (hm : first ≤ m)
    (hk : m ≤ k) : findBestMatchingRouteInfo t x m last = some k := by
  obtain ⟨hmatch, -, hlast, hno⟩ := findBest_eq_some.1 h
  exact findBest_eq_some.2 ⟨hmatch, hk, hlast, fun l hl => hno l (by omega)⟩

/-- The fields of a route info that a lookup reads. -/
def RouteInfo.shape (r : RouteInfo) : OriginalRouteInfo × Bool := (r.toOriginalRouteInfo, r.enabled)

/-- Two tables differ in the attached original routes only. -/
def SameShape (t' t : List RouteInfo) : Prop := t'.map RouteInfo.shape = t.map RouteInfo.shape

theorem SameShape.length_eq (h : SameShape t' t) : t'.length = t.length := by
  simpa using congrArg List.length h

theorem SameShape.any_eq (h : SameShape t' t) {p : RouteInfo → Bool}
    {q : OriginalRouteInfo × Bool → Bool} (hp : ∀ r, p r = q r.shape) (k : ℕ) :
    t'[k]?.any p = t[k]?.any p := by
  have hmap : ∀ t : List RouteInfo, t[k]?.any p = (t.map RouteInfo.shape)[k]?.any q := by
    intro t
    rw [List.getElem?_map, Option.any_map]
    exact congrArg (t[k]?.any ·) (funext hp)
  rw [hmap, hmap, h]

theorem SameShape.findBest_eq (h : SameShape t' t) (x : IPv4Address) (first last : ℕ) :
    findBestMatchingRouteInfo t' x first last = findBestMatchingRouteInfo t x first last := by
  have hany : (fun index : ℕ => t'[index]?.any (RouteInfo.routes x)) =
      fun index : ℕ => t[index]?.any (RouteInfo.routes x) := by
    funext index
    exact h.any_eq (q := fun s => s.2 && s.1.isMatch x) (fun _ => rfl) index
  unfold findBestMatchingRouteInfo
  rw [hany]

theorem SameShape.exists_getElem? (h : SameShape t' t) (hr : t'[k]? = some r') :
    ∃ r, t[k]? = some r ∧ r.shape = r'.shape := by
  have hk := congrArg (·[k]?) h
  simp only [List.getElem?_map, hr, Option.map_some] at hk
  exact Option.map_eq_some_iff.1 hk.symm

/-- The original routes are routed in their colors by the routes that are enabled. -/
abbrev Routed (t : List RouteInfo) : Prop :=
  MatchTable.Sound (fun r o => r.isMatch o.destination) (·.color) (·.originalRouteInfos) (·.color)
    (t.filter (·.enabled))

/-- The original routes of the routes that are enabled. -/
def attached (t : List RouteInfo) : List OriginalRouteInfo :=
  (t.filter (·.enabled)).flatMap (·.originalRouteInfos)

/-! ### Attaching original routes -/

/-- The best match between the two indices has the color of the original route, and so has every
match before them. -/
structure Attachable (t : List RouteInfo) (first last : ℕ) (o : OriginalRouteInfo) : Prop where
  earlier : ∀ l < first, ∀ r, t[l]? = some r → r.routes o.destination = true → r.color = o.color
  best : ∃ k r, findBestMatchingRouteInfo t o.destination first last = some k ∧ t[k]? = some r ∧
    r.color = o.color

theorem Attachable.congr (h : Attachable t first last o) (ht : SameShape t' t) :
    Attachable t' first last o := by
  refine ⟨fun l hl r' hr' hroutes => ?_, ?_⟩
  · obtain ⟨r, hr, hshape⟩ := ht.exists_getElem? hr'
    obtain ⟨hinfo, henabled⟩ := Prod.mk.inj hshape
    have hcolor := h.earlier l hl r hr (by unfold RouteInfo.routes at *; rwa [hinfo, henabled])
    rwa [← hinfo]
  · obtain ⟨k, r, hbest, hr, hcolor⟩ := h.best
    have ht' : SameShape t t' := ht.symm
    obtain ⟨r', hr', hshape⟩ := ht'.exists_getElem? hr
    refine ⟨k, r', by rw [ht.findBest_eq, hbest], hr', ?_⟩
    rw [(Prod.mk.inj hshape).1]
    exact hcolor

/-- `originalRouteInfos.push_back`. -/
def RouteInfo.push (o : OriginalRouteInfo) (r : RouteInfo) : RouteInfo :=
  { r with originalRouteInfos := r.originalRouteInfos ++ [o] }

variable {f : RouteInfo → RouteInfo}

/-- What a change of one route does not touch. -/
theorem map_modify_eq {γ : Type*} {g : RouteInfo → γ} (hf : ∀ r, g (f r) = g r) (k : ℕ)
    (t : List RouteInfo) : (t.modify k f).map g = t.map g := by
  refine ext_getElem? fun l => ?_
  simp only [List.getElem?_map, List.getElem?_modify]
  cases t[l]? with
  | none => rfl
  | some r =>
    simp only [Option.map_some]
    split_ifs
    · exact congrArg some (hf r)
    · rfl

theorem filter_modify_enabled (hr : t[k]? = some r) (hf : (f r).enabled = r.enabled)
    (henabled : r.enabled = true) :
    (t.modify k f).filter (·.enabled) =
      (t.take k).filter (·.enabled) ++ f r :: (t.drop (k + 1)).filter (·.enabled) := by
  obtain ⟨hlt, rfl⟩ := List.getElem?_eq_some_iff.1 hr
  rw [modify_eq_take_cons_drop hlt, filter_append, filter_cons_of_pos]
  rw [hf, henabled]

theorem filter_eq_split (hr : t[k]? = some r) (henabled : r.enabled = true) :
    t.filter (·.enabled) =
      (t.take k).filter (·.enabled) ++ r :: (t.drop (k + 1)).filter (·.enabled) := by
  have h := filter_modify_enabled (f := id) hr rfl henabled
  rwa [modify_id] at h

theorem Routed.push (h : Routed t) (ho : Attachable t first last o)
    (hbest : findBestMatchingRouteInfo t o.destination first last = some k) :
    Routed (t.modify k (RouteInfo.push o)) := by
  obtain ⟨k', r, hbest', hr, hcolor⟩ := ho.best
  obtain rfl : k = k' := Option.some.inj (hbest.symm.trans hbest')
  obtain ⟨hroutes, -, -, hno⟩ := findBest_eq_some.1 hbest
  rw [hr, Option.any_some] at hroutes
  obtain ⟨henabled, hmatch⟩ := Bool.and_eq_true_iff.1 hroutes
  have hsplit : Routed t := h
  unfold Routed at hsplit ⊢
  rw [filter_eq_split hr henabled] at hsplit
  rw [filter_modify_enabled hr rfl henabled]
  refine hsplit.attach ⟨fun _ => rfl, rfl⟩ fun o' ho' => ?_
  rcases mem_append.1 ho' with hold | hnew
  · exact .inl hold
  rw [mem_singleton.1 hnew]
  refine .inr ⟨hmatch, hcolor, fun f hf hfmatch => ?_⟩
  obtain ⟨hf, hfenabled⟩ := mem_filter.1 hf
  obtain ⟨l, hl⟩ := mem_iff_getElem?.1 hf
  rw [List.getElem?_take, Option.ite_none_right_eq_some] at hl
  obtain ⟨hlt, hl⟩ := hl
  have hfroutes : f.routes o.destination = true := by
    unfold RouteInfo.routes
    rw [hfenabled, hfmatch]
    rfl
  by_cases hfirst : l < first
  · exact ho.earlier l hfirst f hl hfroutes
  · -- nothing between the first index and the best match matches
    have hnot := hno l (by omega) hlt
    rw [hl, Option.any_some, hfroutes] at hnot
    cases hnot

theorem attached_push (hr : t[k]? = some r) (henabled : r.enabled = true) :
    (attached (t.modify k (RouteInfo.push o))).Perm (attached t ++ [o]) := by
  unfold attached
  rw [filter_modify_enabled hr rfl henabled, filter_eq_split hr henabled]
  simp only [flatMap_append, flatMap_cons, RouteInfo.push, append_assoc]
  exact (perm_append_comm.append_left _).append_left _

theorem mem_attached_push (hr : t[k]? = some r) (henabled : r.enabled = true) :
    o' ∈ attached (t.modify k (RouteInfo.push o)) ↔ o' ∈ attached t ∨ o' = o := by
  rw [(attached_push hr henabled).mem_iff, mem_append, mem_singleton]

/-- Original routes that can be attached are attached. -/
theorem addOriginalRouteInfos_spec (os : List OriginalRouteInfo) (h : Routed t)
    (hos : ∀ o ∈ os, Attachable t first last o) :
    ∃ t', addOriginalRouteInfos first last os t = .ok t' ∧ SameShape t' t ∧ Routed t' ∧
      ∀ o, o ∈ attached t' ↔ o ∈ attached t ∨ o ∈ os := by
  induction os generalizing t with
  | nil => exact ⟨t, rfl, rfl, h, by simp⟩
  | cons o rest ih =>
    have ho := hos o mem_cons_self
    obtain ⟨k, r, hbest, hr, hcolor⟩ := ho.best
    have hroutes := (findBest_eq_some.1 hbest).1
    rw [hr, Option.any_some] at hroutes
    have henabled := (Bool.and_eq_true_iff.1 hroutes).1
    have hshape : SameShape (t.modify k (RouteInfo.push o)) t := 
      map_modify_eq (f := RouteInfo.push o) (fun _ => rfl) k t
    obtain ⟨t', ht', hshape', hrouted, hattached⟩ := ih (h.push ho hbest) fun o' ho' =>
      (hos o' (mem_cons_of_mem _ ho')).congr hshape
    refine ⟨t', ?_, hshape'.trans hshape, hrouted, fun o' => ?_⟩
    · unfold addOriginalRouteInfos
      simp only [hbest, hr, Option.any_some, hcolor, beq_self_eq_true, if_true]
      exact ht'
    · rw [hattached, mem_attached_push hr henabled, mem_cons, or_assoc]

end IPv4NetworkConfigurator

end Hiwis
