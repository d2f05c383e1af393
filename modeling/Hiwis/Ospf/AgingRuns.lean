import Hiwis.Ospf.Aging

/-!
# Runs of the aging of the link state database

* `OSPF.Router.ageDatabase_spec` : one call ages every LSA of every vector once;
* `OSPF.Router.run_ages` : in every run an LSA below MAX_AGE advances with each aging unless it is
  one of the router's own past the refresh time; a foreign LSA reaches MAX_AGE and is removed.
-/

namespace Hiwis

open List Except Trace

namespace OSPF

namespace Router

variable {β : Type*} {r r' : Router β} {i : ℕ} {p : LSAPtr} {kind : LSAKind}
  {db : LSADatabase β} {lsa : LSA β}

/-! ### The vectors of the router -/

/-- A router without LSAs. -/
def initial (β : Type*) (routerID : RouterID) (kinds : List LSAKind) : Router β where
  routerID := routerID
  databases := kinds.map fun kind => (kind, {})

/-- Every vector and its map hold the same LSAs. -/
def WellFormed (r : Router β) : Prop :=
  ∀ (i : ℕ) kind (db : LSADatabase β), r.databases[i]? = some (kind, db) →
    db.WellFormed kind r.routerID

/-- The LSA in the `i`-th vector. -/
def lookup (r : Router β) (i : ℕ) (p : LSAPtr) : Option (LSAKind × LSA β) :=
  r.databases[i]?.bind fun (kind, db) => (db.heap.lookup p).map (Prod.mk kind)

/-- The LSA has left the `i`-th vector and its map. -/
def Gone (r : Router β) (i : ℕ) (p : LSAPtr) : Prop :=
  ∃ kind, ∃ db : LSADatabase β, r.databases[i]? = some (kind, db) ∧ db.Gone p

theorem lookup_eq_some_iff : r.lookup i p = some (kind, lsa) ↔
    ∃ db, r.databases[i]? = some (kind, db) ∧ db.heap.lookup p = some lsa := by
  rw [lookup, Option.bind_eq_some_iff]
  constructor
  · rintro ⟨⟨kind', db⟩, hdb, hlsa⟩
    obtain ⟨lsa', hlsa', heq⟩ := Option.map_eq_some_iff.1 hlsa
    cases heq
    exact ⟨db, hdb, hlsa'⟩
  · rintro ⟨db, hdb, hlsa⟩
    exact ⟨(kind, db), hdb, Option.map_eq_some_iff.2 ⟨lsa, hlsa, rfl⟩⟩

theorem wellFormed_initial (routerID : RouterID) (kinds : List LSAKind) :
    (initial β routerID kinds).WellFormed := by
  intro i kind db hdb
  obtain ⟨kind', -, heq⟩ := mem_map.1 (mem_of_getElem? hdb)
  cases heq
  exact LSADatabase.wellFormed_initial

/-! ### One call -/

section Age

variable {routerID : RouterID} {ctx : ℕ → LSAPtr → AgeContext β}
  {dbs dbs' : List (LSAKind × LSADatabase β)} {fs : List (ℕ × LSAPtr)}

/-- Every vector of the list, the first of which is the `i`-th one, has been aged. -/
structure Aged (routerID : RouterID) (ctx : ℕ → LSAPtr → AgeContext β) (i : ℕ)
    (dbs dbs' : List (LSAKind × LSADatabase β)) (fs : List (ℕ × LSAPtr)) : Prop where
  flooded_le : ∀ f ∈ fs, i ≤ f.1
  none_iff : ∀ j : ℕ, dbs'[j]? = none ↔ dbs[j]? = none
  visited : ∀ (j : ℕ) kind (db : LSADatabase β), dbs[j]? = some (kind, db) →
    ∃ (db' : LSADatabase β) (ps : List LSAPtr), dbs'[j]? = some (kind, db') ∧
    db'.WellFormed kind routerID ∧
    LSADatabase.Visited kind routerID (ctx (i + j)) db.lsas db db' ps ∧
    ∀ p, (i + j, p) ∈ fs ↔ p ∈ ps

theorem Aged.cons {db' : LSADatabase β} {ps : List LSAPtr} (hwf : db'.WellFormed kind routerID)
    (hvisited : LSADatabase.Visited kind routerID (ctx i) db.lsas db db' ps)
    (h : Aged routerID ctx (i + 1) dbs dbs' fs) :
    Aged routerID ctx i ((kind, db) :: dbs) ((kind, db') :: dbs') (ps.map (Prod.mk i) ++ fs) where
  flooded_le f hf := by
    obtain hf | hf := mem_append.1 hf
    · obtain ⟨p, -, rfl⟩ := mem_map.1 hf
      exact le_rfl
    · exact (Nat.le_succ i).trans (h.flooded_le f hf)
  none_iff j := by
    cases j with
    | zero => simp
    | succ j => simpa using h.none_iff j
  visited j kind' m hm := by
    cases j with
    | zero =>
      cases hm
      refine ⟨db', ps, rfl, hwf, hvisited, fun p => ?_⟩
      rw [Nat.add_zero, mem_append]
      -- what the later vectors flood has a larger index
      have hlater : (i, p) ∉ fs := fun hmem => (h.flooded_le _ hmem).not_gt (Nat.lt_succ_self i)
      rw [or_iff_left hlater, mem_map]
      exact ⟨fun ⟨q, hq, heq⟩ => (Prod.mk.inj heq).2 ▸ hq, fun hp => ⟨p, hp, rfl⟩⟩
    | succ j =>
      obtain ⟨m', qs, hm', hwf', hvisited', hflooded⟩ := h.visited j kind' m hm
      have hindex : i + 1 + j = i + (j + 1) := by omega
      rw [hindex] at hvisited' hflooded
      refine ⟨m', qs, hm', hwf', hvisited', fun p => ?_⟩
      rw [mem_append, or_iff_right, hflooded]
      intro hmem
      obtain ⟨q, -, heq⟩ := mem_map.1 hmem
      have := (Prod.mk.inj heq).1
      omega

theorem ageFrom_spec
    (hwf : ∀ kind (db : LSADatabase β), (kind, db) ∈ dbs → db.WellFormed kind routerID) :
    ∃ dbs' fs, ageFrom routerID ctx i dbs = .ok (dbs', fs) ∧ Aged routerID ctx i dbs dbs' fs := by
  induction dbs generalizing i with
  | nil =>
    refine ⟨[], [], rfl, fun f hf => ?_, fun j => Iff.rfl, fun j kind db hdb => ?_⟩
    · cases hf
    · cases hdb
  | cons d dbs ih =>
    obtain ⟨kind, db⟩ := d
    obtain ⟨db', ps, hage, hwf', hvisited⟩ : ∃ db' ps,
        db.ageLSAs kind routerID (ctx i) = .ok (db', ps) ∧ db'.WellFormed kind routerID ∧
          LSADatabase.Visited kind routerID (ctx i) db.lsas db db' ps :=
      (hwf kind db mem_cons_self).ageLSAs
    obtain ⟨dbs', fs, hrest, haged⟩ := ih fun kind' m hm => hwf kind' m (mem_cons_of_mem _ hm)
    refine ⟨(kind, db') :: dbs', ps.map (Prod.mk i) ++ fs, ?_, haged.cons hwf' hvisited⟩
    rw [ageFrom, hage, ok_bind]
    dsimp only
    rw [hrest, ok_bind]

/-- **A call of `ageDatabase` never uses a deleted LSA, and ages every LSA once.** -/
theorem ageDatabase_spec (h : r.WellFormed) (ctx : ℕ → LSAPtr → AgeContext β) :
    ∃ r' fs, r.ageDatabase ctx = .ok (r', fs) ∧ r'.routerID = r.routerID ∧ r'.WellFormed ∧
      Aged r.routerID ctx 0 r.databases r'.databases fs := by
  obtain ⟨dbs', fs, hage, haged⟩ : ∃ dbs' fs,
      ageFrom r.routerID ctx 0 r.databases = .ok (dbs', fs) ∧
        Aged r.routerID ctx 0 r.databases dbs' fs := by
    refine ageFrom_spec fun kind db hdb => ?_
    obtain ⟨j, hj⟩ := List.getElem?_of_mem hdb
    exact h j kind db hj
  refine ⟨{ r with databases := dbs' }, fs, ?_, rfl, fun j kind db hdb => ?_, haged⟩
  · rw [ageDatabase, hage, ok_bind]
  · cases hold : r.databases[j]? with
    | none => exact absurd ((haged.none_iff j).2 hold) (hdb ▸ Option.some_ne_none _)
    | some d =>
      obtain ⟨kind', m⟩ := d
      obtain ⟨m', ps, hm', hwf', -⟩ := haged.visited j kind' m hold
      cases hdb.symm.trans hm'
      exact hwf'

section

variable (h : r.WellFormed) (hstep : r.ageDatabase ctx = .ok (r', fs)) (hp : r.lookup i p = some (kind, lsa))
include h hstep hp

/-- What a call does with one LSA. -/
theorem ageDatabase_kept {f : Bool} {lsa' : LSA β}
    (hage : ageLSA kind r.routerID (ctx i p) lsa = .kept lsa' f) :
    r'.lookup i p = some (kind, lsa') ∧ ((i, p) ∈ fs ↔ f = true) := by
  obtain ⟨r1, fs1, hstep', -, -, haged⟩ := ageDatabase_spec h ctx
  cases hstep.symm.trans hstep'
  obtain ⟨db, hdb, hlsa⟩ := lookup_eq_some_iff.1 hp
  obtain ⟨db', ps, hdb', -, hvisited, hflooded⟩ := haged.visited i kind db hdb
  rw [Nat.zero_add] at hvisited hflooded
  have hmem := ((h i kind db hdb).mem_iff p).2 (Finmap.mem_of_lookup_eq_some hlsa)
  obtain ⟨hkept, hiff⟩ := hvisited.kept p hmem lsa lsa' f hlsa hage
  exact ⟨lookup_eq_some_iff.2 ⟨db', hdb', hkept⟩, (hflooded p).trans hiff⟩

theorem ageDatabase_removed (hage : ageLSA kind r.routerID (ctx i p) lsa = .removed)
    (hown : ¬IsOwnSummary kind r.routerID lsa) : r'.Gone i p := by
  obtain ⟨r1, fs1, hstep', -, -, haged⟩ := ageDatabase_spec h ctx
  cases hstep.symm.trans hstep'
  obtain ⟨db, hdb, hlsa⟩ := lookup_eq_some_iff.1 hp
  obtain ⟨db', ps, hdb', hwf', hvisited, -⟩ := haged.visited i kind db hdb
  rw [Nat.zero_add] at hvisited
  have hheap := Finmap.mem_of_lookup_eq_some hlsa
  have hmem := ((h i kind db hdb).mem_iff p).2 hheap
  obtain ⟨hgone, hkeys⟩ := hvisited.removed p hmem lsa hlsa hage
  refine ⟨kind, db', hdb', fun hmem' => hgone ((hwf'.mem_iff p).1 hmem'), hkeys hown, ?_⟩
  rw [hvisited.nextLSA]
  exact (h i kind db hdb).fresh p hheap

end

theorem Gone.ageDatabase (hgone : r.Gone i p) (h : r.WellFormed)
    (hstep : r.ageDatabase ctx = .ok (r', fs)) : r'.Gone i p := by
  obtain ⟨r1, fs1, hstep', -, -, haged⟩ := ageDatabase_spec h ctx
  cases hstep.symm.trans hstep'
  obtain ⟨kind, db, hdb, hp⟩ := hgone
  obtain ⟨db', ps, hdb', hwf', hvisited, -⟩ := haged.visited i kind db hdb
  exact ⟨kind, db', hdb', hvisited.gone (h i kind db hdb) hwf' hp⟩

end Age

/-! ### Runs -/

/-- What is installed has a header as an originator makes it. -/
def Legal (r : Router β) : DatabaseEvent β → Prop
  | .ageDatabase _ => True
  | .installLSA i _ lsa => ∀ d ∈ r.databases[i]?, WellFormedLSA d.1 lsa

instance (lsa : LSA β) : Decidable (WellFormedLSA kind lsa) :=
  inferInstanceAs (Decidable (kind = .routerLSA → _))

instance (r : Router β) (e : DatabaseEvent β) : Decidable (r.Legal e) :=
  match e with
  | .ageDatabase _ => inferInstanceAs (Decidable True)
  | .installLSA i _ lsa =>
    inferInstanceAs (Decidable (∀ d ∈ r.databases[i]?, WellFormedLSA d.1 lsa))

/-- The LSA is not replaced by one that is installed, and counts as originated here or not whenever
it is aged. -/
def Follows (own : Bool) (i : ℕ) (p : LSAPtr) (r : Router β) : DatabaseEvent β → Prop
  | .ageDatabase ctx => ∀ kind lsa, r.lookup i p = some (kind, lsa) →
      selfOriginated kind r.routerID (ctx i p) lsa = own
  | .installLSA j equivalent lsa => ∀ r', r.installLSA j equivalent lsa = .ok r' →
      r'.lookup i p = r.lookup i p

/-- How often the database is aged. -/
def agings : List (DatabaseEvent β) → ℕ
  | [] => 0
  | .ageDatabase _ :: events => agings events + 1
  | .installLSA _ _ _ :: events => agings events

theorem step_ageDatabase {ctx : ℕ → LSAPtr → AgeContext β}
    (hstep : r.step (.ageDatabase ctx) = .ok r') : ∃ fs, r.ageDatabase ctx = .ok (r', fs) := by
  obtain ⟨⟨r1, fs⟩, hage, heq⟩ := bind_eq_ok.1 hstep
  cases heq
  exact ⟨fs, hage⟩

theorem step_installLSA {equivalent : Bool}
    (hstep : r.step (.installLSA i equivalent lsa) = .ok r') :
    r' = r ∨ ∃ kind, ∃ db db' : LSADatabase β, r.databases[i]? = some (kind, db) ∧
      db.installLSA kind r.routerID equivalent lsa = .ok db' ∧
        r' = { r with databases := r.databases.set i (kind, db') } := by
  rw [step, installLSA] at hstep
  split at hstep
  · cases hstep
    exact .inl rfl
  · rename_i kind db hdb
    obtain ⟨db', hinstall, heq⟩ := bind_eq_ok.1 hstep
    cases heq
    exact .inr ⟨kind, db, db', hdb, hinstall, rfl⟩

variable {e : DatabaseEvent β}

/-- No step separates a vector from its map. -/
theorem WellFormed.step (h : r.WellFormed) (hlegal : r.Legal e) (hstep : r.step e = .ok r') :
    r'.WellFormed := by
  cases e with
  | ageDatabase ctx =>
    obtain ⟨fs, hage⟩ := step_ageDatabase hstep
    obtain ⟨r1, fs1, hage', -, hwf', -⟩ := ageDatabase_spec h ctx
    cases hage.symm.trans hage'
    exact hwf'
  | installLSA i equivalent lsa =>
    obtain rfl | ⟨kind, db, db', hdb, hinstall, rfl⟩ := step_installLSA hstep
    · exact h
    · intro j kind' m hm
      rw [List.getElem?_set] at hm
      split_ifs at hm with hij hlt
      · cases hm
        exact (h i kind db hdb).installLSA (hlegal _ hdb) hinstall
      · exact h j kind' m hm

variable {events : List (DatabaseEvent β)}

theorem WellFormed.run (h : r.WellFormed)
    (hrun : Run Router.step Legal r events r') : r'.WellFormed :=
  hrun.invariant (fun _ _ _ hs hlegal hstep => hs.step hlegal hstep) h

theorem Gone.step (hgone : r.Gone i p) (h : r.WellFormed) (hstep : r.step e = .ok r') :
    r'.Gone i p := by
  cases e with
  | ageDatabase ctx =>
    obtain ⟨fs, hage⟩ := step_ageDatabase hstep
    exact hgone.ageDatabase h hage
  | installLSA j equivalent lsa =>
    obtain rfl | ⟨kind, db, db', hdb, hinstall, rfl⟩ := step_installLSA hstep
    · exact hgone
    · obtain ⟨kind', m, hm, hp⟩ := hgone
      by_cases hij : j = i
      · rw [hij, hm] at hdb
        cases hdb
        refine ⟨kind, db', ?_, hp.installLSA hinstall⟩
        rw [hij]
        exact List.getElem?_set_self (List.getElem?_eq_some_iff.1 hm).1
      · exact ⟨kind', m, (List.getElem?_set_ne hij).trans hm, hp⟩

/-- An LSA that was removed stays away in every later state. -/
theorem Gone.run (hgone : r.Gone i p) (h : r.WellFormed)
    (hrun : Run Router.step Legal r events r') : r'.Gone i p := by
  induction hrun with
  | nil => exact hgone
  | cons hlegal hstep _ ih => exact ih (hgone.step h hstep) (h.step hlegal hstep)

theorem not_isOwnSummary_of_foreign {ctx : AgeContext β} {routerID : RouterID}
    (hforeign : selfOriginated kind routerID ctx lsa = false) :
    ¬IsOwnSummary kind routerID lsa := by
  rintro ⟨rfl, hadv⟩
  rw [selfOriginated] at hforeign
  · exact beq_eq_false_iff_ne.1 hforeign hadv
  · intro hkind
    cases hkind

/-- **A foreign LSA grows older with each aging, up to MAX_AGE; it leaves the vector and the map
only then, and both of them together.** -/
theorem run_foreign (h : r.WellFormed)
    (hrun : Run step (fun r e => r.Legal e ∧ r.Follows false i p e) r events r')
    (hp : r.lookup i p = some (kind, lsa)) (hage : lsa.header.lsAge ≤ maxAge) :
    (∃ lsa', r'.lookup i p = some (kind, lsa') ∧
      lsa'.header.lsAge = min maxAge (lsa.header.lsAge + agings events)) ∨
    (maxAge < lsa.header.lsAge + agings events ∧ r'.Gone i p) := by
  induction hrun generalizing lsa with
  | nil r => exact .inl ⟨lsa, hp, (min_eq_right hage).symm⟩
  | @cons r r1 r' e events hP hstep hrun ih =>
    obtain ⟨hlegal, hfollows⟩ := hP
    have h1 := h.step hlegal hstep
    cases e with
    | ageDatabase ctx =>
      have hforeign := hfollows kind lsa hp
      obtain ⟨fs, hstep'⟩ := step_ageDatabase hstep
      rw [agings]
      obtain hlt | heq := hage.lt_or_eq
      · obtain ⟨lsa1, f, hkept, hage1, -⟩ := ageLSA_foreign hforeign hlt
        obtain ⟨hp1, -⟩ := ageDatabase_kept h hstep' hp hkept
        have hsum : lsa1.header.lsAge + agings events = lsa.header.lsAge + (agings events + 1) := by
          omega
        rw [← hsum]
        exact ih h1 hp1 (by omega)
      · by_cases hblocked : (ctx i p).onAnyRetransmissionList = false ∧
            (ctx i p).anyNeighborInExchangeOrLoading = false
        · -- the LSA is removed, and stays away in the rest of the run
          have hremoved := ageLSA_removed hforeign heq hblocked.1 hblocked.2
          have hgone := ageDatabase_removed h hstep' hp hremoved
            (not_isOwnSummary_of_foreign hforeign)
          exact .inr ⟨by omega, hgone.run h1 (hrun.mono fun r e hP => hP.1)⟩
        · obtain ⟨hp1, -⟩ := ageDatabase_kept h hstep' hp (ageLSA_blocked heq hblocked)
          obtain ⟨lsa', hp', hage'⟩ | ⟨hlt, hgone⟩ := ih h1 hp1 hage
          · refine .inl ⟨lsa', hp', hage'.trans ?_⟩
            rw [min_eq_left (by omega), min_eq_left (by omega)]
          · exact .inr ⟨by omega, hgone⟩
    | installLSA j equivalent new =>
      exact ih h1 ((hfollows r1 hstep).trans hp) hage

/-- An LSA of this router grows older with each aging until its refresh time. -/
theorem run_own (h : r.WellFormed)
    (hrun : Run step (fun r e => r.Legal e ∧ r.Follows true i p e) r events r')
    (hp : r.lookup i p = some (kind, lsa))
    (hage : lsa.header.lsAge + agings events ≤ lsRefreshTime - 1) :
    ∃ lsa', r'.lookup i p = some (kind, lsa') ∧
      lsa'.header.lsAge = lsa.header.lsAge + agings events := by
  induction hrun generalizing lsa with
  | nil r => exact ⟨lsa, hp, rfl⟩
  | @cons r r1 r' e events hP hstep hrun ih =>
    obtain ⟨hlegal, hfollows⟩ := hP
    have h1 := h.step hlegal hstep
    cases e with
    | ageDatabase ctx =>
      rw [agings] at hage ⊢
      obtain ⟨fs, hstep'⟩ := step_ageDatabase hstep
      have hlt : lsa.header.lsAge < lsRefreshTime - 1 := by omega
      obtain ⟨hp1, -⟩ := ageDatabase_kept h hstep' hp (ageLSA_own (hfollows kind lsa hp) hlt)
      have hsum : lsa.header.lsAge + 1 + agings events =
          lsa.header.lsAge + (agings events + 1) := by omega
      rw [← hsum] at hage ⊢
      exact ih h1 hp1 hage
    | installLSA j equivalent new =>
      exact ih h1 ((hfollows r1 hstep).trans hp) hage

/-- What a call of `ageDatabase` does with the LSAs. -/
structure Maintains (r : Router β) (ctx : ℕ → LSAPtr → AgeContext β) (r' : Router β)
    (fs : List (ℕ × LSAPtr)) : Prop where
  advances : ∀ i p kind lsa, r.lookup i p = some (kind, lsa) → lsa.header.lsAge < maxAge →
    ((∃ lsa', r'.lookup i p = some (kind, lsa') ∧ Advances lsa lsa' ((i, p) ∈ fs)) ↔
      ¬InGap kind r.routerID (ctx i p) lsa)
  refreshes : ∀ i p kind lsa, r.lookup i p = some (kind, lsa) →
    selfOriginated kind r.routerID (ctx i p) lsa = true →
    lsa.header.lsAge = lsRefreshTime - 1 →
      (i, p) ∈ fs ∧ ∃ lsa', r'.lookup i p = some (kind, lsa') ∧
        (lsa'.header.lsAge = 0 ∧ lsa.header.lsSequenceNumber < lsa'.header.lsSequenceNumber ∨
          lsa'.header.lsAge = maxAge)
  removes : ∀ i p kind lsa, r.lookup i p = some (kind, lsa) →
    selfOriginated kind r.routerID (ctx i p) lsa = false → lsa.header.lsAge = maxAge →
    (ctx i p).onAnyRetransmissionList = false →
    (ctx i p).anyNeighborInExchangeOrLoading = false → r'.Gone i p

theorem WellFormed.maintains (h : r.WellFormed) (ctx : ℕ → LSAPtr → AgeContext β) :
    ∃ r' fs, r.ageDatabase ctx = .ok (r', fs) ∧ r.Maintains ctx r' fs := by
  obtain ⟨r', fs, hstep, -⟩ := ageDatabase_spec h ctx
  refine ⟨r', fs, hstep, fun i p kind lsa hp hlt => ?_, fun i p kind lsa hp hself hage => ?_,
    fun i p kind lsa hp hforeign hage hlist hneighbor => ?_⟩
  · obtain ⟨lsa', f, hkept, hiff⟩ := ageLSA_below hlt
    obtain ⟨hp', hflooded⟩ := ageDatabase_kept h hstep hp hkept
    rw [← hiff, hflooded]
    constructor
    · rintro ⟨lsa'', hp'', hadv⟩
      cases hp'.symm.trans hp''
      exact hadv
    · intro hadv
      exact ⟨lsa', hp', hadv⟩
  · obtain ⟨lsa', hkept, hcases⟩ := ageLSA_refresh hself hage
    obtain ⟨hp', hflooded⟩ := ageDatabase_kept h hstep hp hkept
    exact ⟨hflooded.2 rfl, lsa', hp', hcases⟩
  · have hremoved := ageLSA_removed hforeign hage hlist hneighbor
    exact ageDatabase_removed h hstep hp hremoved (not_isOwnSummary_of_foreign hforeign)

/-- What the aging of the examples finds: nobody waits for an LSA, and nothing is unreachable. -/
def quietContext : ℕ → LSAPtr → AgeContext Unit := fun _ _ => ⟨false, false, false, [], none, ()⟩

end Router

end OSPF

end Hiwis
