import Hiwis.Lib.Leading
import Hiwis.Ospf.Interface

/-!
# The election of the designated router

What section 9.4 of RFC 2328 prescribes for one router of a network, from what it knows about all
routers there, itself included.

* `OSPF.View.elect` : the election, with its second round;
* `OSPF.View.elect_designated`, `OSPF.View.elect_backup` : what the second round can change;
* `OSPF.View.elect_agree` : what two routers with the same information agree about.
-/

namespace Hiwis

open List

namespace OSPF

/-- A router in the election, with the roles it declares. -/
structure Contender where
  routerID : RouterID
  priority : ℕ
  declaresDesignated : Bool
  declaresBackup : Bool
  deriving DecidableEq

namespace Contender

/-- The highest priority wins, and among equal ones the highest router ID. -/
def rank (c : Contender) : ℕ ×ₗ ℕ := toLex (c.priority, c.routerID.toNat)

theorem rank_lt_iff {c d : Contender} : c.rank < d.rank ↔
    c.priority < d.priority ∨ c.priority = d.priority ∧ c.routerID.toNat < d.routerID.toNat := by
  rw [rank, rank, Prod.Lex.toLex_lt_toLex]

theorem routerID_eq_of_rank_eq {c d : Contender} (h : c.rank = d.rank) :
    c.routerID = d.routerID :=
  BitVec.eq_of_toNat_eq (Prod.mk.inj (toLex_inj.1 h)).2

end Contender

open Leading Contender

/-- The backup designated router of the routers on the list: those that declare themselves designated
router are not considered, and those that declare themselves backup come first. -/
def electBackup (cs : List Contender) : Option Contender :=
  ((cs.filter fun c => !c.declaresDesignated && c.declaresBackup).argmax rank).or
    ((cs.filter fun c => !c.declaresDesignated).argmax rank)

/-- The designated router of the routers on the list: one that declares itself so, or else the new
backup. -/
def electDesignated (cs : List Contender) : Option Contender :=
  ((cs.filter fun c => c.declaresDesignated).argmax rank).or (electBackup cs)

/-- What a router knows: the other routers it has bidirectional communication with, and itself with
its current roles. -/
structure View where
  others : List Contender
  self : Contender
  deriving DecidableEq

/-- The router IDs of the designated router and its backup, where there is one. -/
abbrev Roles : Type := Option RouterID × Option RouterID

namespace View

/-- The routers on the list: only those with a positive priority are eligible. -/
def contenders (v : View) : List Contender :=
  (v.others ++ [v.self]).filter fun c => decide (0 < c.priority)

/-- Steps 2 and 3. -/
def round (v : View) : Roles :=
  ((electDesignated v.contenders).map routerID, (electBackup v.contenders).map routerID)

/-- The router has one of the elected roles. -/
def withRoles (v : View) (roles : Roles) : View :=
  { v with
    self :=
      { v.self with
        declaresDesignated := decide (roles.1 = some v.self.routerID)
        declaresBackup := decide (roles.2 = some v.self.routerID) } }

/-- Step 4: the router is newly, or no longer, designated router or backup. -/
def changes (v : View) (roles : Roles) : Prop :=
  decide (roles.1 = some v.self.routerID) ≠ v.self.declaresDesignated ∨
    decide (roles.2 = some v.self.routerID) ≠ v.self.declaresBackup

instance (v : View) (roles : Roles) : Decidable (v.changes roles) :=
  inferInstanceAs (Decidable (_ ∨ _))

/-- The election: steps 2 and 3 are repeated once when a role of the router changes. -/
def elect (v : View) : Roles :=
  if v.changes v.round then (v.withRoles v.round).round else v.round

/-- The router IDs identify the routers. -/
def Distinct (v : View) : Prop := ((v.others ++ [v.self]).map routerID).Nodup

variable {v v' : View}

/-! ### One round -/

/-- The other routers that are eligible. -/
def eligible (v : View) : List Contender := v.others.filter fun c => decide (0 < c.priority)

/-- The best of the other eligible routers that satisfy a condition. -/
def best (v : View) (p : Contender → Bool) : Option Contender := (v.eligible.filter p).argmax rank

theorem contenders_of_eligible (h : 0 < v.self.priority) :
    v.contenders = v.eligible ++ [v.self] := by
  rw [contenders, filter_append, filter_singleton, decide_eq_true h, cond_true]
  rfl

theorem contenders_of_not_eligible (h : ¬ 0 < v.self.priority) : v.contenders = v.eligible := by
  rw [contenders, filter_append, filter_singleton, decide_eq_false h, cond_false, append_nil]
  rfl

variable {p : Contender → Bool} {c : Contender}

theorem best_mem (h : v.best p = some c) : c ∈ v.others ∧ 0 < c.priority ∧ p c = true := by
  obtain ⟨hmem, hp⟩ := mem_filter.1 (argmax_mem h)
  obtain ⟨hmem, hpos⟩ := mem_filter.1 hmem
  exact ⟨hmem, of_decide_eq_true hpos, hp⟩

theorem Distinct.ne (h : v.Distinct) (hc : c ∈ v.others) : c.routerID ≠ v.self.routerID := by
  rw [Distinct, map_append] at h
  intro heq
  refine disjoint_of_nodup_append h (mem_map_of_mem hc) ?_
  rw [heq]
  exact mem_singleton_self _

theorem Distinct.best_ne (h : v.Distinct) (hc : v.best p = some c) :
    c.routerID ≠ v.self.routerID :=
  h.ne (best_mem hc).1

/-- The best of the other eligible routers, by the role they declare. -/
def bestDesignated (v : View) : Option Contender := v.best fun c => c.declaresDesignated

/-- As before, of those that declare themselves backup only. -/
def bestBackup (v : View) : Option Contender :=
  v.best fun c => !c.declaresDesignated && c.declaresBackup

/-- As before, of those that do not declare themselves designated router. -/
def bestOther (v : View) : Option Contender := v.best fun c => !c.declaresDesignated

/-- The backup, when the router itself is on the list. -/
theorem electBackup_of_eligible (h : 0 < v.self.priority) :
    electBackup v.contenders =
      if v.self.declaresDesignated then v.bestBackup.or v.bestOther
      else if v.self.declaresBackup then some (better rank v.bestBackup v.self)
      else v.bestBackup.or (some (better rank v.bestOther v.self)) := by
  rw [contenders_of_eligible h, electBackup, argmax_filter_concat, argmax_filter_concat]
  cases v.self.declaresDesignated with
  | true => rfl
  | false =>
    cases v.self.declaresBackup with
    | true => rfl
    | false => rfl

theorem electBackup_of_not_eligible (h : ¬ 0 < v.self.priority) :
    electBackup v.contenders = v.bestBackup.or v.bestOther := by
  rw [contenders_of_not_eligible h]
  rfl

/-- The designated router, when the router itself is on the list. -/
theorem electDesignated_of_eligible (h : 0 < v.self.priority) :
    electDesignated v.contenders =
      if v.self.declaresDesignated then some (better rank v.bestDesignated v.self)
      else v.bestDesignated.or (electBackup v.contenders) := by
  rw [electDesignated, contenders_of_eligible h, argmax_filter_concat]
  cases v.self.declaresDesignated with
  | true => rfl
  | false => rfl

theorem electDesignated_of_not_eligible (h : ¬ 0 < v.self.priority) :
    electDesignated v.contenders = v.bestDesignated.or (electBackup v.contenders) := by
  rw [electDesignated, contenders_of_not_eligible h]
  rfl

/-! ### The second round -/

/-- A change of the roles of the router does not matter for its rank. -/
theorem better_withRoles (v : View) (roles : Roles) (o : Option Contender) :
    (better rank o (v.withRoles roles).self).routerID = (better rank o v.self).routerID := by
  cases o with
  | none => rfl
  | some c =>
    have hrank : (v.withRoles roles).self.rank = v.self.rank := rfl
    simp only [better, hrank]
    split_ifs
    · rfl
    · rfl

/-- The better one of some router and the router itself. -/
theorem better_eq (o : Option Contender) (c : Contender) :
    better rank o c = c ∨ ∃ d, o = some d ∧ better rank o c = d := by
  cases o with
  | none => exact .inl rfl
  | some d =>
    simp only [better]
    split_ifs
    · exact .inl rfl
    · exact .inr ⟨d, rfl, rfl⟩

/-- A router that is not on the list has no second round that differs. -/
theorem round_withRoles_of_not_eligible (h : ¬ 0 < v.self.priority) (roles : Roles) :
    (v.withRoles roles).round = v.round := by
  have h' : ¬ 0 < (v.withRoles roles).self.priority := h
  rw [round, round, electDesignated_of_not_eligible h', electDesignated_of_not_eligible h,
    electBackup_of_not_eligible h', electBackup_of_not_eligible h]
  rfl

theorem round_backup_of_eligible (h : 0 < v.self.priority) :
    v.round.2 =
      if v.self.declaresDesignated then (v.bestBackup.or v.bestOther).map routerID
      else if v.self.declaresBackup then some (better rank v.bestBackup v.self).routerID
      else (v.bestBackup.map routerID).or (some (better rank v.bestOther v.self).routerID) := by
  rw [round, electBackup_of_eligible h]
  simp only
  split_ifs
  · rfl
  · rfl
  · exact Option.map_or

theorem round_designated_of_eligible (h : 0 < v.self.priority) :
    v.round.1 =
      if v.self.declaresDesignated then some (better rank v.bestDesignated v.self).routerID
      else (v.bestDesignated.map routerID).or v.round.2 := by
  rw [round, electDesignated_of_eligible h]
  simp only
  split_ifs
  · rfl
  · exact Option.map_or

/-- The backup stays the same when the router keeps or does not get the role of the designated
router. -/
theorem round_backup_withRoles (hdistinct : v.Distinct)
    (hsame : decide (v.round.1 = some v.self.routerID) = v.self.declaresDesignated) :
    (v.withRoles v.round).round.2 = v.round.2 := by
  by_cases helig : 0 < v.self.priority
  · have hsecond := round_backup_of_eligible (v := v.withRoles v.round) helig
    have hfirst := round_backup_of_eligible helig
    have hd : (v.withRoles v.round).self.declaresDesignated = v.self.declaresDesignated := hsame
    have hb : (v.withRoles v.round).self.declaresBackup =
        decide (v.round.2 = some v.self.routerID) := rfl
    rw [hd, hb, better_withRoles, better_withRoles] at hsecond
    change _ = if v.self.declaresDesignated then (v.bestBackup.or v.bestOther).map routerID
      else if _ then some (better rank v.bestBackup v.self).routerID
      else (v.bestBackup.map routerID).or (some (better rank v.bestOther v.self).routerID) at hsecond
    cases hdes : v.self.declaresDesignated with
    | true =>
      rw [hdes, if_pos rfl] at hfirst hsecond
      rw [hsecond, hfirst]
    | false =>
      rw [hdes, if_neg Bool.false_ne_true] at hfirst hsecond
      by_cases hown : v.round.2 = some v.self.routerID
      · -- the router itself is the best one that declares itself backup, or the best of all
        rw [decide_eq_true hown, if_pos rfl] at hsecond
        rcases better_eq v.bestBackup v.self with hbest | ⟨c, hc, hbest⟩
        · rw [hsecond, hbest, hown]
        · exfalso
          have hne := hdistinct.best_ne hc
          rw [hbest, hc] at hfirst
          split_ifs at hfirst
          · exact hne (Option.some.inj (hfirst.symm.trans hown))
          · exact hne (Option.some.inj (hfirst.symm.trans hown))
      · rw [decide_eq_false hown, if_neg Bool.false_ne_true] at hsecond
        cases hback : v.self.declaresBackup with
        | false => rw [hsecond, hfirst, hback, if_neg Bool.false_ne_true]
        | true =>
          rw [hback, if_pos rfl] at hfirst
          rcases better_eq v.bestBackup v.self with hbest | ⟨c, hc, hbest⟩
          · rw [hbest] at hfirst
            exact absurd hfirst hown
          · rw [hsecond, hfirst, hbest, hc]
            rfl
  · rw [round_withRoles_of_not_eligible helig]

/-- The second round does not change the designated router. -/
theorem round_designated_withRoles (hdistinct : v.Distinct) :
    (v.withRoles v.round).round.1 = v.round.1 := by
  by_cases helig : 0 < v.self.priority
  · have hsecond := round_designated_of_eligible (v := v.withRoles v.round) helig
    have hfirst := round_designated_of_eligible helig
    have hd : (v.withRoles v.round).self.declaresDesignated =
        decide (v.round.1 = some v.self.routerID) := rfl
    rw [hd, better_withRoles] at hsecond
    change _ = if _ then some (better rank v.bestDesignated v.self).routerID
      else (v.bestDesignated.map routerID).or (v.withRoles v.round).round.2 at hsecond
    by_cases hown : v.round.1 = some v.self.routerID
    · -- no other router that declares itself designated router is better
      rw [decide_eq_true hown, if_pos rfl] at hsecond
      rcases better_eq v.bestDesignated v.self with hbest | ⟨c, hc, hbest⟩
      · rw [hsecond, hbest, hown]
      · exfalso
        have hne := hdistinct.best_ne hc
        rw [hbest, hc] at hfirst
        split_ifs at hfirst
        · exact hne (Option.some.inj (hfirst.symm.trans hown))
        · exact hne (Option.some.inj (hfirst.symm.trans hown))
    · rw [decide_eq_false hown, if_neg Bool.false_ne_true] at hsecond
      cases hdes : v.self.declaresDesignated with
      | true =>
        rw [hdes, if_pos rfl] at hfirst
        rcases better_eq v.bestDesignated v.self with hbest | ⟨c, hc, hbest⟩
        · rw [hbest] at hfirst
          exact absurd hfirst hown
        · rw [hsecond, hfirst, hbest, hc]
          rfl
      | false =>
        have hsame : decide (v.round.1 = some v.self.routerID) = v.self.declaresDesignated := by
          rw [hdes, decide_eq_false hown]
        rw [hsecond, round_backup_withRoles hdistinct hsame, hfirst, hdes,
          if_neg Bool.false_ne_true]
  · rw [round_withRoles_of_not_eligible helig]

/-! ### The election -/

theorem elect_designated (hdistinct : v.Distinct) : v.elect.1 = v.round.1 := by
  unfold elect
  split_ifs
  · exact round_designated_withRoles hdistinct
  · rfl

theorem elect_backup (hdistinct : v.Distinct)
    (hsame : decide (v.round.1 = some v.self.routerID) = v.self.declaresDesignated) :
    v.elect.2 = v.round.2 := by
  unfold elect
  split_ifs
  · exact round_backup_withRoles hdistinct hsame
  · rfl

/-- Two routers hold the same information about all routers, themselves included. -/
def SameInformation (v v' : View) : Prop := (v.others ++ [v.self]).Perm (v'.others ++ [v'.self])

theorem rank_inj (hdistinct : v.Distinct) :
    ∀ a ∈ v.contenders.filter p, ∀ b ∈ v.contenders.filter p, a.rank = b.rank → a = b := by
  intro a ha b hb hrank
  have hmem : ∀ c ∈ v.contenders.filter p, c ∈ v.others ++ [v.self] :=
    fun c hc => (mem_filter.1 (mem_filter.1 hc).1).1
  exact inj_on_of_nodup_map hdistinct (hmem a ha) (hmem b hb) (routerID_eq_of_rank_eq hrank)

theorem round_eq_of_sameInformation (hdistinct : v.Distinct) (h : SameInformation v v') :
    v.round = v'.round := by
  have hperm : v.contenders.Perm v'.contenders := h.filter _
  have hbest : ∀ p : Contender → Bool,
      (v.contenders.filter p).argmax rank = (v'.contenders.filter p).argmax rank :=
    fun p => argmax_perm (hperm.filter p) (rank_inj hdistinct)
  rw [round, round, electDesignated, electDesignated, electBackup, electBackup, hbest, hbest, hbest]

/-- Routers with the same information agree about the designated router.  They agree about the
backup as well, unless one of them gets or loses the role of the designated router. -/
theorem elect_agree (hdistinct : v.Distinct) (hdistinct' : v'.Distinct)
    (h : SameInformation v v') :
    v.elect.1 = v'.elect.1 ∧
      (decide (v.round.1 = some v.self.routerID) = v.self.declaresDesignated →
        decide (v'.round.1 = some v'.self.routerID) = v'.self.declaresDesignated →
        v.elect.2 = v'.elect.2) := by
  have hround := round_eq_of_sameInformation hdistinct h
  refine ⟨?_, fun hsame hsame' => ?_⟩
  · rw [elect_designated hdistinct, elect_designated hdistinct', hround]
  · rw [elect_backup hdistinct hsame, elect_backup hdistinct' hsame', hround]

end View

end OSPF

end Hiwis
