import Hiwis.Ospf.Election

/-!
# The calculation of the designated router

`InterfaceState::calculateDesignatedRouter` goes through the neighbours twice in each round, and
treats the router itself in blocks of their own.

* `OSPF.foldl_backupStep`, `OSPF.foldl_designatedStep` : what the loops find;
* `OSPF.calculateDesignatedRouter_eq` : when that is what RFC 2328 prescribes.
-/

namespace Hiwis

open List

namespace OSPF

/-- The best router so far, with its priority and its ID. -/
structure BestRouter where
  router : DesignatedRouterID := nullDesignatedRouterID
  priority : ℕ := 0
  routerID : RouterID := nullRouterID
  deriving DecidableEq

/-- A router with a higher priority, or with the same one and a higher ID. -/
def BestRouter.isBeatenBy (b : BestRouter) (priority : ℕ) (routerID : RouterID) : Bool :=
  decide (b.priority < priority ∨ priority = b.priority ∧ b.routerID < routerID)

/-- The variables of the calculation of the backup designated router. -/
structure BackupCalculation where
  declaredBackup : BestRouter := {}
  backupDeclared : Bool := false
  highestRouter : BestRouter := {}
  deriving DecidableEq

/-- The routers that are skipped. -/
def isSkipped (neighbor : Neighbor) : Bool :=
  decide (neighbor.state.value < NeighborStateType.twoWay.value) || neighbor.neighborPriority == 0

section

variable (s : BackupCalculation) (neighbor : Neighbor)

/-- A neighbour that declares itself backup. -/
def declareBackup : BackupCalculation :=
  if neighbor.neighborsBackupDesignatedRouter.routerID = neighbor.neighborID then
    if s.declaredBackup.isBeatenBy neighbor.neighborPriority neighbor.neighborID then
      { s with
        declaredBackup :=
          ⟨neighbor.neighborsBackupDesignatedRouter, neighbor.neighborPriority, neighbor.neighborID⟩
        backupDeclared := true }
    else s
  else s

/-- The highest router is looked for as long as no backup has been declared. -/
def raiseHighest : BackupCalculation :=
  if s.backupDeclared then s
  else if s.highestRouter.isBeatenBy neighbor.neighborPriority neighbor.neighborID then
    { s with
      highestRouter :=
        ⟨⟨neighbor.neighborID, neighbor.neighborIPAddress⟩, neighbor.neighborPriority,
          neighbor.neighborID⟩ }
  else s

/-- One neighbour in the calculation of the backup designated router. -/
def backupStep : BackupCalculation :=
  if isSkipped neighbor then s
  else if neighbor.neighborsDesignatedRouter.routerID ≠ neighbor.neighborID then
    raiseHighest (declareBackup s neighbor) neighbor
  else s

end

section

variable (intf : Interface) (routerID : RouterID)

/-- The router itself. -/
def ownRouter : BestRouter :=
  ⟨⟨routerID, intf.interfaceAddressRange.address⟩, intf.routerPriority, routerID⟩

/-- The router itself declares that it is backup. -/
def declareOwnBackup (currentBackupRouter : DesignatedRouterID) (s : BackupCalculation) :
    BackupCalculation :=
  if currentBackupRouter.routerID = routerID then
    if s.declaredBackup.isBeatenBy intf.routerPriority routerID then
      { s with declaredBackup := ownRouter intf routerID, backupDeclared := true }
    else s
  else s

/-- No router has declared that it is backup: the highest router is chosen, or the router itself. -/
def chooseHighest (s : BackupCalculation) :
    BackupCalculation :=
  if s.backupDeclared then s
  else if s.highestRouter.isBeatenBy intf.routerPriority routerID then
    { s with declaredBackup := ownRouter intf routerID, backupDeclared := true }
  else { s with declaredBackup := s.highestRouter, backupDeclared := true }

/-- The router itself is included in the calculation of the backup designated router. -/
def includeOwnBackup (currentDesignatedRouter currentBackupRouter : DesignatedRouterID)
    (s : BackupCalculation) :
    BackupCalculation :=
  if 0 < intf.routerPriority then
    if currentDesignatedRouter.routerID ≠ routerID then
      chooseHighest intf routerID (declareOwnBackup intf routerID currentBackupRouter s)
    else s
  else s

end

/-- The variables of the calculation of the designated router. -/
structure DesignatedCalculation where
  declaredDesignatedRouter : BestRouter := {}
  designatedRouterDeclared : Bool := false
  deriving DecidableEq

/-- One neighbour in the calculation of the designated router. -/
def designatedStep (s : DesignatedCalculation) (neighbor : Neighbor) : DesignatedCalculation :=
  if isSkipped neighbor then s
  else if neighbor.neighborsDesignatedRouter.routerID = neighbor.neighborID then
    if s.declaredDesignatedRouter.isBeatenBy neighbor.neighborPriority neighbor.neighborID then
      ⟨⟨neighbor.neighborsDesignatedRouter, neighbor.neighborPriority, neighbor.neighborID⟩, true⟩
    else s
  else s

/-- The router itself is included in the calculation of the designated router. -/
def includeOwnDesignated (intf : Interface) (routerID : RouterID)
    (currentDesignatedRouter : DesignatedRouterID) (s : DesignatedCalculation) :
    DesignatedCalculation :=
  if 0 < intf.routerPriority then
    if currentDesignatedRouter.routerID = routerID then
      if s.declaredDesignatedRouter.isBeatenBy intf.routerPriority routerID then
        ⟨ownRouter intf routerID, true⟩
      else s
    else s
  else s

/-- One round: the designated router and the backup. -/
def calculationRound (intf : Interface) (routerID : RouterID)
    (currentDesignatedRouter currentBackupRouter : DesignatedRouterID) :
    DesignatedRouterID × DesignatedRouterID :=
  let backup := includeOwnBackup intf routerID currentDesignatedRouter currentBackupRouter
    (intf.neighboringRouters.foldl backupStep {})
  let designated := includeOwnDesignated intf routerID currentDesignatedRouter
    (intf.neighboringRouters.foldl designatedStep {})
  let declaredDesignatedRouter :=
    if designated.designatedRouterDeclared then designated.declaredDesignatedRouter.router
    else backup.declaredBackup.router
  (declaredDesignatedRouter, backup.declaredBackup.router)

/-- The router gets or loses a role. -/
def roleChanges (routerID : RouterID) (current declared : DesignatedRouterID) : Bool :=
  declared.routerID != nullRouterID &&
    ((current.routerID == routerID && declared.routerID != routerID) ||
      (current.routerID != routerID && declared.routerID == routerID))

/-- `calculateDesignatedRouter`, as far as the new designated router and backup go.  The round is
repeated once at most, since `repeatCount` grows in each of them. -/
def calculateDesignatedRouter (intf : Interface) (routerID : RouterID) :
    DesignatedRouterID × DesignatedRouterID :=
  let (declaredDesignatedRouter, declaredBackup) :=
    calculationRound intf routerID intf.designatedRouter intf.backupDesignatedRouter
  -- if the router is any kind of DR or is no longer one of them, then repeat
  if roleChanges routerID intf.designatedRouter declaredDesignatedRouter ||
      roleChanges routerID intf.backupDesignatedRouter declaredBackup then
    calculationRound intf routerID declaredDesignatedRouter declaredBackup
  else (declaredDesignatedRouter, declaredBackup)

/-! ### What the router knows -/

open Leading Contender

/-- A neighbour in the election. -/
def Neighbor.contender (n : Neighbor) : Contender where
  routerID := n.neighborID
  priority := n.neighborPriority
  declaresDesignated := decide (n.neighborsDesignatedRouter.routerID = n.neighborID)
  declaresBackup := decide (n.neighborsBackupDesignatedRouter.routerID = n.neighborID)

/-- What the router knows, with the given current roles. -/
def view (intf : Interface) (routerID designatedRouter backupRouter : RouterID) : View where
  others := (intf.neighboringRouters.filter fun n =>
    !decide (n.state.value < NeighborStateType.twoWay.value)).map Neighbor.contender
  self :=
    { routerID
      priority := intf.routerPriority
      declaresDesignated := decide (designatedRouter = routerID)
      declaresBackup := decide (backupRouter = routerID) }

variable {intf : Interface} {routerID dr bdr : RouterID} {l : List Neighbor} {n : Neighbor}
  {cur curBackup : DesignatedRouterID} {c d : Contender} {b : BestRouter}

/-- The best of the neighbours that are not skipped and satisfy a condition. -/
def bestNeighbor (l : List Neighbor) (p : Contender → Bool) : Option Neighbor :=
  (l.filter fun n => !isSkipped n && p n.contender).argmax (rank ∘ Neighbor.contender)

theorem view_best (intf : Interface) (routerID dr bdr : RouterID) (p : Contender → Bool) :
    (view intf routerID dr bdr).best p =
      (bestNeighbor intf.neighboringRouters p).map Neighbor.contender := by
  rw [bestNeighbor, ← argmax_map, View.best, View.eligible, view, filter_map, filter_map,
    filter_filter, filter_filter]
  congr 2
  refine filter_congr fun n _ => ?_
  simp only [Function.comp, isSkipped, Neighbor.contender]
  rcases Nat.eq_zero_or_pos n.neighborPriority with hzero | hpos
  · simp [hzero]
  · have hne : (n.neighborPriority == 0) = false := by
      rw [beq_eq_false_iff_ne]
      exact hpos.ne'
    simp [hne, hpos, Bool.and_comm]

/-! ### The loops -/

theorem isBeatenBy_iff (hpriority : b.priority = d.priority) (hid : b.routerID = d.routerID) :
    b.isBeatenBy c.priority c.routerID = decide (d.rank < c.rank) := by
  rw [BestRouter.isBeatenBy, hpriority, hid]
  refine decide_eq_decide.2 ?_
  rw [rank_lt_iff, BitVec.lt_def]
  exact or_congr_right (and_congr_left' eq_comm)

theorem isBeatenBy_default (hpos : 0 < c.priority) :
    ({} : BestRouter).isBeatenBy c.priority c.routerID = true :=
  decide_eq_true (.inl hpos)

/-- A neighbour that declares itself designated router. -/
def designatedState : Option Neighbor → DesignatedCalculation
  | none => {}
  | some n => ⟨⟨n.neighborsDesignatedRouter, n.neighborPriority, n.neighborID⟩, true⟩

theorem pos_of_not_isSkipped (h : isSkipped n = false) : 0 < n.contender.priority := by
  rw [isSkipped, Bool.or_eq_false_iff, beq_eq_false_iff_ne] at h
  exact Nat.pos_of_ne_zero h.2

theorem foldl_designatedStep (l : List Neighbor) : l.foldl designatedStep {} =
      designatedState (bestNeighbor l fun c => c.declaresDesignated) := by
  change l.foldl designatedStep (designatedState none) = _
  refine foldl_eq (fun s n h => ?_) (fun n h => ?_) fun m n h => ?_
  · rw [designatedStep]
    cases hskip : isSkipped n with
    | true => exact if_pos rfl
    | false =>
      rw [hskip, Bool.not_false, Bool.true_and] at h
      rw [if_neg Bool.false_ne_true, if_neg (of_decide_eq_false h)]
  · rw [Bool.and_eq_true, Bool.not_eq_true'] at h
    rw [designatedStep, h.1, if_neg Bool.false_ne_true, if_pos (of_decide_eq_true h.2)]
    exact if_pos (isBeatenBy_default (pos_of_not_isSkipped h.1))
  · rw [Bool.and_eq_true, Bool.not_eq_true'] at h
    have hbeaten : (designatedState (some m)).declaredDesignatedRouter.isBeatenBy
        n.neighborPriority n.neighborID = decide (m.contender.rank < n.contender.rank) :=
      isBeatenBy_iff (c := n.contender) (d := m.contender) rfl rfl
    rw [designatedStep, h.1, if_neg Bool.false_ne_true, if_pos (of_decide_eq_true h.2), hbeaten]
    simp only [decide_eq_true_eq]
    rfl

/-- A neighbour that declares itself backup. -/
def backupState : Option Neighbor → BestRouter
  | none => {}
  | some n => ⟨n.neighborsBackupDesignatedRouter, n.neighborPriority, n.neighborID⟩

/-- A neighbour that may become backup. -/
def highestState : Option Neighbor → BestRouter
  | none => {}
  | some n => ⟨⟨n.neighborID, n.neighborIPAddress⟩, n.neighborPriority, n.neighborID⟩

/-- The best router so far is replaced by a better one. -/
theorem ite_isBeatenBy (state : Option Neighbor → BestRouter) (hnone : state none = {})
    (hsome : ∀ m, (state (some m)).priority = m.neighborPriority ∧
      (state (some m)).routerID = m.neighborID) (o : Option Neighbor) (hn : isSkipped n = false) :
    (if (state o).isBeatenBy n.neighborPriority n.neighborID then state (some n) else state o) =
      state (some (better (rank ∘ Neighbor.contender) o n)) := by
  cases o with
  | none =>
    rw [hnone]
    exact if_pos (isBeatenBy_default (pos_of_not_isSkipped hn))
  | some m =>
    have hbeaten := isBeatenBy_iff (c := n.contender) (d := m.contender) (hsome m).1 (hsome m).2
    change (state (some m)).isBeatenBy n.neighborPriority n.neighborID = _ at hbeaten
    rw [hbeaten, better]
    simp only [decide_eq_true_eq]
    exact (apply_ite (fun n => state (some n)) _ _ _).symm

/-- The conditions of the loop that looks for a backup. -/
def mayBecomeBackup (c : Contender) : Bool := !c.declaresDesignated

/-- As before, for a router that declares itself backup. -/
def isDeclaredBackup (c : Contender) : Bool := !c.declaresDesignated && c.declaresBackup

theorem bestNeighbor_concat (l : List Neighbor) (n : Neighbor) (p : Contender → Bool) :
    bestNeighbor (l ++ [n]) p =
      if !isSkipped n && p n.contender then
        some (better (rank ∘ Neighbor.contender) (bestNeighbor l p) n)
      else bestNeighbor l p :=
  argmax_filter_concat (fun n => !isSkipped n && p n.contender) l n

variable {o : Option Neighbor} {s : BackupCalculation}

theorem declareBackup_spec (hn : isSkipped n = false)
    (hback : n.neighborsBackupDesignatedRouter.routerID = n.neighborID)
    (hdeclared : s.declaredBackup = backupState o) (hsome : s.backupDeclared = o.isSome) :
    (declareBackup s n).declaredBackup =
        backupState (some (better (rank ∘ Neighbor.contender) o n)) ∧
      (declareBackup s n).backupDeclared = true := by
  rw [← ite_isBeatenBy backupState rfl (fun m => ⟨rfl, rfl⟩) o hn, declareBackup, if_pos hback,
    hdeclared]
  by_cases hbeaten : (backupState o).isBeatenBy n.neighborPriority n.neighborID = true
  · rw [if_pos hbeaten, if_pos hbeaten]
    exact ⟨rfl, rfl⟩
  · rw [if_neg hbeaten, if_neg hbeaten]
    refine ⟨hdeclared, ?_⟩
    cases o with
    | none => exact absurd (isBeatenBy_default (pos_of_not_isSkipped hn)) hbeaten
    | some m => exact hsome

theorem raiseHighest_highestRouter (hn : isSkipped n = false) (hnot : s.backupDeclared = false)
    (hhighest : s.highestRouter = highestState o) :
    (raiseHighest s n).highestRouter =
      highestState (some (better (rank ∘ Neighbor.contender) o n)) := by
  rw [← ite_isBeatenBy highestState rfl (fun m => ⟨rfl, rfl⟩) o hn, raiseHighest,
    if_neg (by rw [hnot]; exact Bool.false_ne_true), hhighest]
  split_ifs
  · rfl
  · exact hhighest

theorem raiseHighest_declared (s : BackupCalculation) (n : Neighbor) :
    (raiseHighest s n).declaredBackup = s.declaredBackup ∧
      (raiseHighest s n).backupDeclared = s.backupDeclared := by
  unfold raiseHighest
  split_ifs
  · exact ⟨rfl, rfl⟩
  · exact ⟨rfl, rfl⟩
  · exact ⟨rfl, rfl⟩

/-- What the loop that looks for a backup finds. -/
theorem foldl_backupStep (l : List Neighbor) :
    (l.foldl backupStep {}).declaredBackup = backupState (bestNeighbor l isDeclaredBackup) ∧
      (l.foldl backupStep {}).backupDeclared = (bestNeighbor l isDeclaredBackup).isSome ∧
      (bestNeighbor l isDeclaredBackup = none →
        (l.foldl backupStep {}).highestRouter = highestState (bestNeighbor l mayBecomeBackup)) := by
  induction l using List.reverseRecOn with
  | nil => exact ⟨rfl, rfl, fun _ => rfl⟩
  | append_singleton l n ih =>
    obtain ⟨hdeclared, hsome, hhighest⟩ := ih
    rw [foldl_append, foldl_cons, foldl_nil, bestNeighbor_concat, bestNeighbor_concat]
    generalize l.foldl backupStep {} = s at hdeclared hsome hhighest
    cases hskip : isSkipped n with
    | true =>
      rw [backupStep, if_pos hskip]
      exact ⟨hdeclared, hsome, hhighest⟩
    | false =>
      rw [backupStep, if_neg (by rw [hskip]; exact Bool.false_ne_true)]
      by_cases hdes : n.neighborsDesignatedRouter.routerID = n.neighborID
      · have hno : isDeclaredBackup n.contender = false ∧ mayBecomeBackup n.contender = false := by
          simp [isDeclaredBackup, mayBecomeBackup, Neighbor.contender, hdes]
        rw [if_neg (not_not.2 hdes), hno.1, hno.2]
        exact ⟨hdeclared, hsome, hhighest⟩
      · have hmay : mayBecomeBackup n.contender = true := by
          simp [mayBecomeBackup, Neighbor.contender, hdes]
        obtain ⟨hkept, hkeptDeclared⟩ := raiseHighest_declared (declareBackup s n) n
        rw [if_pos hdes, hmay, hkept, hkeptDeclared]
        by_cases hback : n.neighborsBackupDesignatedRouter.routerID = n.neighborID
        · have hdecl : isDeclaredBackup n.contender = true := by
            simp [isDeclaredBackup, Neighbor.contender, hdes, hback]
          rw [hdecl]
          obtain ⟨hbest, hnew⟩ := declareBackup_spec hskip hback hdeclared hsome
          exact ⟨hbest, hnew, fun h => (by cases h)⟩
        · have hdecl : isDeclaredBackup n.contender = false := by
            simp [isDeclaredBackup, Neighbor.contender, hback]
          have hsame : declareBackup s n = s := if_neg hback
          rw [hdecl, hsame]
          refine ⟨hdeclared, hsome, fun hnone => ?_⟩
          replace hnone : bestNeighbor l isDeclaredBackup = none := hnone
          -- the highest router still counts
          have hnot : s.backupDeclared = false := by
            rw [hsome, hnone]
            rfl
          exact raiseHighest_highestRouter hskip hnot (hhighest hnone)

/-! ### One round -/

/-- The router IDs that a round of the code ends with: the fallback to a router that does not declare
itself backup is only made by a router that is on the list for the backup itself. -/
def codeRound (v : View) : RouterID × RouterID :=
  let backup :=
    if 0 < v.self.priority ∧ v.self.declaresDesignated = false then v.round.2.getD nullRouterID
    else (v.bestBackup.map Contender.routerID).getD nullRouterID
  let designated :=
    if 0 < v.self.priority ∧ v.self.declaresDesignated = true then
      (better rank v.bestDesignated v.self).routerID
    else (v.bestDesignated.map Contender.routerID).getD backup
  (designated, backup)

variable {p : Contender → Bool}

theorem bestNeighbor_spec (h : bestNeighbor l p = some n) :
    n ∈ l ∧ isSkipped n = false ∧ p n.contender = true := by
  obtain ⟨hmem, hp⟩ := mem_filter.1 (argmax_mem h)
  rw [Bool.and_eq_true, Bool.not_eq_true'] at hp
  exact ⟨hmem, hp⟩

/-- The router itself takes the place of the best router so far if it is better. -/
theorem better_self (state : Option Neighbor → BestRouter) (hnone : state none = {})
    (hsome : ∀ m, (state (some m)).priority = m.neighborPriority ∧
      (state (some m)).routerID = m.neighborID) (o : Option Neighbor) (hpos : 0 < c.priority) :
    (better rank (o.map Neighbor.contender) c).routerID =
      if (state o).isBeatenBy c.priority c.routerID = true then c.routerID
      else (state o).routerID := by
  cases o with
  | none =>
    rw [hnone, if_pos (isBeatenBy_default hpos)]
    rfl
  | some m =>
    rw [isBeatenBy_iff (d := m.contender) (hsome m).1 (hsome m).2, (hsome m).2, Option.map_some,
      better]
    simp only [decide_eq_true_eq]
    exact apply_ite Contender.routerID _ _ _

theorem backupState_router (l : List Neighbor) :
    (backupState (bestNeighbor l isDeclaredBackup)).router.routerID =
      (backupState (bestNeighbor l isDeclaredBackup)).routerID := by
  cases h : bestNeighbor l isDeclaredBackup with
  | none => rfl
  | some n =>
    have hdecl := (bestNeighbor_spec h).2.2
    rw [isDeclaredBackup, Bool.and_eq_true] at hdecl
    exact of_decide_eq_true hdecl.2

theorem highestState_router (o : Option Neighbor) :
    (highestState o).router.routerID = (highestState o).routerID := by
  cases o with
  | none => rfl
  | some n => rfl

theorem backupState_routerID (o : Option Neighbor) : (backupState o).routerID =
    ((o.map Neighbor.contender).map Contender.routerID).getD nullRouterID := by
  cases o with
  | none => rfl
  | some n => rfl

section

variable (hpriority : c.priority = intf.routerPriority) (hpos : 0 < c.priority)
include hpriority hpos

theorem declareOwnBackup_spec (hown : curBackup.routerID = c.routerID)
    (hrouter : (backupState o).router.routerID = (backupState o).routerID)
    (hdeclared : s.declaredBackup = backupState o) (hsome : s.backupDeclared = o.isSome) :
    (declareOwnBackup intf c.routerID curBackup s).backupDeclared = true ∧
      (declareOwnBackup intf c.routerID curBackup s).declaredBackup.router.routerID =
        (better rank (o.map Neighbor.contender) c).routerID := by
  rw [better_self backupState rfl (fun m => ⟨rfl, rfl⟩) o hpos, declareOwnBackup, if_pos hown,
    hdeclared, ← hpriority]
  by_cases hbeaten : (backupState o).isBeatenBy c.priority c.routerID = true
  · rw [if_pos hbeaten, if_pos hbeaten]
    exact ⟨rfl, rfl⟩
  · rw [if_neg hbeaten, if_neg hbeaten, hdeclared, hrouter]
    refine ⟨?_, rfl⟩
    cases o with
    | none => exact absurd (isBeatenBy_default hpos) hbeaten
    | some m => exact hsome

theorem chooseHighest_spec (hnot : s.backupDeclared = false)
    (hhighest : s.highestRouter = highestState o) :
    (chooseHighest intf c.routerID s).declaredBackup.router.routerID =
      (better rank (o.map Neighbor.contender) c).routerID := by
  rw [better_self highestState rfl (fun m => ⟨rfl, rfl⟩) o hpos, chooseHighest,
    if_neg (by rw [hnot]; exact Bool.false_ne_true), hhighest, ← hpriority]
  split_ifs
  · rfl
  · exact highestState_router o

/-- The router itself is on the list for the backup. -/
theorem chooseHighest_declareOwnBackup {o o' : Option Neighbor}
    (hrouter : (backupState o).router.routerID = (backupState o).routerID)
    (hdeclared : s.declaredBackup = backupState o) (hsome : s.backupDeclared = o.isSome)
    (hhighest : o = none → s.highestRouter = highestState o') :
    (chooseHighest intf c.routerID
      (declareOwnBackup intf c.routerID curBackup s)).declaredBackup.router.routerID =
      (if decide (curBackup.routerID = c.routerID) then
        some (better rank (o.map Neighbor.contender) c).routerID
      else ((o.map Neighbor.contender).map Contender.routerID).or
        (some (better rank (o'.map Neighbor.contender) c).routerID)).getD nullRouterID := by
  by_cases hown : curBackup.routerID = c.routerID
  · obtain ⟨hnew, hbest⟩ := declareOwnBackup_spec hpriority hpos hown hrouter hdeclared hsome
    rw [chooseHighest, if_pos hnew, if_pos (decide_eq_true hown)]
    exact hbest
  · have hsame : declareOwnBackup intf c.routerID curBackup s = s := if_neg hown
    rw [hsame, decide_eq_false hown, if_neg Bool.false_ne_true]
    cases o with
    | none => exact chooseHighest_spec hpriority hpos hsome (hhighest rfl)
    | some m =>
      rw [Option.isSome_some] at hsome
      rw [chooseHighest, if_pos hsome, hdeclared, hrouter]
      rfl

end

/-- The backup that a round of the code ends with. -/
theorem includeOwnBackup_routerID (intf : Interface) (routerID : RouterID)
    (cur curBackup : DesignatedRouterID) :
    (includeOwnBackup intf routerID cur curBackup
      (intf.neighboringRouters.foldl backupStep {})).declaredBackup.router.routerID =
      (codeRound (view intf routerID cur.routerID curBackup.routerID)).2 := by
  obtain ⟨hdeclared, hsome, hhighest⟩ := foldl_backupStep intf.neighboringRouters
  have hrouter := backupState_router intf.neighboringRouters
  have hback : (view intf routerID cur.routerID curBackup.routerID).bestBackup = _ :=
    view_best intf routerID cur.routerID curBackup.routerID isDeclaredBackup
  have hother : (view intf routerID cur.routerID curBackup.routerID).bestOther = _ :=
    view_best intf routerID cur.routerID curBackup.routerID mayBecomeBackup
  generalize intf.neighboringRouters.foldl backupStep {} = s at *
  have hfallback : s.declaredBackup.router.routerID =
      ((view intf routerID cur.routerID curBackup.routerID).bestBackup.map
        Contender.routerID).getD nullRouterID := by
    rw [hdeclared, hrouter, backupState_routerID, hback]
  unfold includeOwnBackup codeRound
  simp only
  by_cases hpos : 0 < intf.routerPriority
  · by_cases hown : cur.routerID = routerID
    · rw [if_pos hpos, if_neg (not_not.2 hown), if_neg]
      · exact hfallback
      · rintro ⟨-, hfalse⟩
        exact of_decide_eq_false hfalse hown
    · have hdes : (view intf routerID cur.routerID curBackup.routerID).self.declaresDesignated =
          false := decide_eq_false hown
      rw [if_pos hpos, if_pos hown, if_pos ⟨hpos, hdes⟩,
        View.round_backup_of_eligible (v := view _ _ _ _) hpos, hdes, if_neg Bool.false_ne_true,
        hback, hother]
      exact chooseHighest_declareOwnBackup
        (c := (view intf routerID cur.routerID curBackup.routerID).self) rfl hpos hrouter hdeclared
        hsome hhighest
  · rw [if_neg hpos, if_neg]
    · exact hfallback
    · exact fun h => hpos h.1

theorem designatedState_router (l : List Neighbor)
    (h : bestNeighbor l (fun c => c.declaresDesignated) = o) :
    (designatedState o).declaredDesignatedRouter.router.routerID =
      (designatedState o).declaredDesignatedRouter.routerID := by
  cases o with
  | none => rfl
  | some n => exact of_decide_eq_true (bestNeighbor_spec h).2.2

/-- The router itself declares that it is the designated router. -/
theorem includeOwnDesignated_spec (intf : Interface)
    (hpriority : c.priority = intf.routerPriority) (hpos : 0 < c.priority)
    (hown : cur.routerID = c.routerID)
    (hrouter : (designatedState o).declaredDesignatedRouter.router.routerID =
      (designatedState o).declaredDesignatedRouter.routerID) :
    (includeOwnDesignated intf c.routerID cur (designatedState o)).designatedRouterDeclared =
        true ∧
      (includeOwnDesignated intf c.routerID cur
        (designatedState o)).declaredDesignatedRouter.router.routerID =
        (better rank (o.map Neighbor.contender) c).routerID := by
  rw [better_self (fun o => (designatedState o).declaredDesignatedRouter) rfl
    (fun m => ⟨rfl, rfl⟩) o hpos, includeOwnDesignated, ← hpriority, if_pos hpos, if_pos hown]
  by_cases hbeaten : (designatedState o).declaredDesignatedRouter.isBeatenBy c.priority
      c.routerID = true
  · rw [if_pos hbeaten, if_pos hbeaten]
    exact ⟨rfl, rfl⟩
  · rw [if_neg hbeaten, if_neg hbeaten, hrouter]
    refine ⟨?_, rfl⟩
    cases o with
    | none => exact absurd (isBeatenBy_default hpos) hbeaten
    | some m => rfl

/-- The routers that a round of the code ends with. -/
theorem calculationRound_routerID (intf : Interface) (routerID : RouterID)
    (cur curBackup : DesignatedRouterID) :
    ((calculationRound intf routerID cur curBackup).1.routerID,
      (calculationRound intf routerID cur curBackup).2.routerID) =
      codeRound (view intf routerID cur.routerID curBackup.routerID) := by
  have hbackup := includeOwnBackup_routerID intf routerID cur curBackup
  refine Prod.ext ?_ hbackup
  have hbest : (view intf routerID cur.routerID curBackup.routerID).bestDesignated = _ :=
    view_best intf routerID cur.routerID curBackup.routerID fun c => c.declaresDesignated
  have hrouter := designatedState_router intf.neighboringRouters rfl
  have hcode : (codeRound (view intf routerID cur.routerID curBackup.routerID)).1 =
      if 0 < intf.routerPriority ∧ decide (cur.routerID = routerID) = true then
        (better rank (view intf routerID cur.routerID curBackup.routerID).bestDesignated
          (view intf routerID cur.routerID curBackup.routerID).self).routerID
      else ((view intf routerID cur.routerID curBackup.routerID).bestDesignated.map
        Contender.routerID).getD (codeRound
          (view intf routerID cur.routerID curBackup.routerID)).2 := rfl
  rw [hbest] at hcode
  by_cases hown : 0 < intf.routerPriority ∧ cur.routerID = routerID
  · obtain ⟨hnew, hrouterID⟩ := includeOwnDesignated_spec intf
      (c := (view intf routerID cur.routerID curBackup.routerID).self) rfl hown.1 hown.2 hrouter
    rw [if_pos ⟨hown.1, decide_eq_true hown.2⟩] at hcode
    rw [hcode, calculationRound, foldl_designatedStep]
    exact (congrArg DesignatedRouterID.routerID (if_pos hnew)).trans hrouterID
  · have hsame : includeOwnDesignated intf routerID cur
        (designatedState (bestNeighbor intf.neighboringRouters fun c => c.declaresDesignated)) =
        designatedState (bestNeighbor intf.neighboringRouters fun c => c.declaresDesignated) := by
      unfold includeOwnDesignated
      split_ifs with hpos hcur hbeaten
      · exact absurd ⟨hpos, hcur⟩ hown
      · rfl
      · rfl
      · rfl
    rw [if_neg (fun h => hown ⟨h.1, of_decide_eq_true h.2⟩)] at hcode
    rw [hcode, calculationRound, foldl_designatedStep, hsame]
    revert hrouter
    cases bestNeighbor intf.neighboringRouters fun c => c.declaresDesignated with
    | none => exact fun _ => hbackup
    | some n => exact fun hrouter => hrouter

/-! ### Both rounds -/

variable {v : View}

/-- The router IDs identify the routers, and none of them is the one that stands for no router. -/
structure Identified (v : View) : Prop where
  distinct : v.Distinct
  others : ∀ c ∈ v.others, c.routerID ≠ nullRouterID
  self : v.self.routerID ≠ nullRouterID

theorem Identified.best_ne (h : Identified v) (hc : v.best p = some c) :
    c.routerID ≠ nullRouterID :=
  h.others c (View.best_mem hc).1

theorem Identified.better_ne (h : Identified v) (p : Contender → Bool) :
    (better rank (v.best p) v.self).routerID ≠ nullRouterID := by
  rcases View.better_eq (v.best p) v.self with hbest | ⟨c, hc, hbest⟩
  · rw [hbest]
    exact h.self
  · rw [hbest]
    exact h.best_ne hc

/-- The router itself is on the list for the backup: the round is the one of the RFC. -/
theorem codeRound_of_contender (hpos : 0 < v.self.priority)
    (hdes : v.self.declaresDesignated = false) :
    codeRound v = (v.round.1.getD nullRouterID, v.round.2.getD nullRouterID) := by
  have hback : (codeRound v).2 = v.round.2.getD nullRouterID := if_pos ⟨hpos, hdes⟩
  have hcode : (codeRound v).1 =
      (v.bestDesignated.map Contender.routerID).getD (codeRound v).2 := by
    refine if_neg fun h => ?_
    rw [hdes] at h
    exact Bool.false_ne_true h.2
  refine Prod.ext ?_ hback
  rw [hcode, hback, View.round_designated_of_eligible hpos, hdes, if_neg Bool.false_ne_true]
  cases v.bestDesignated with
  | none => rfl
  | some c => rfl

/-- The router itself is on the list for the backup: some backup is elected. -/
theorem round_backup_ne (h : Identified v) (hpos : 0 < v.self.priority)
    (hdes : v.self.declaresDesignated = false) : v.round.2.getD nullRouterID ≠ nullRouterID := by
  rw [View.round_backup_of_eligible hpos, hdes, if_neg Bool.false_ne_true]
  cases v.self.declaresBackup with
  | true => exact h.better_ne _
  | false =>
    cases hbest : v.bestBackup with
    | none => exact h.better_ne _
    | some c => exact h.best_ne hbest

/-- The router itself is not on the list for the backup: there is no fallback in the code. -/
theorem codeRound_backup (h : ¬ (0 < v.self.priority ∧ v.self.declaresDesignated = false)) :
    (codeRound v).2 = (v.bestBackup.map Contender.routerID).getD nullRouterID ∧
      v.round.2 = (v.bestBackup.or v.bestOther).map Contender.routerID := by
  refine ⟨if_neg h, ?_⟩
  by_cases hpos : 0 < v.self.priority
  · have hdes : v.self.declaresDesignated = true := by
      rw [← Bool.not_eq_false]
      exact fun hfalse => h ⟨hpos, hfalse⟩
    rw [View.round_backup_of_eligible hpos, hdes, if_pos rfl]
  · rw [View.round, View.electBackup_of_not_eligible hpos]

theorem codeRound_designated_of_not_eligible (hpos : ¬ 0 < v.self.priority) :
    (codeRound v).1 = (v.bestDesignated.map Contender.routerID).getD (codeRound v).2 ∧
      v.round.1 = (v.bestDesignated.map Contender.routerID).or v.round.2 := by
  refine ⟨if_neg fun h => hpos h.1, ?_⟩
  rw [View.round, View.electDesignated_of_not_eligible hpos]
  exact Option.map_or

theorem codeRound_designated_of_declares (hpos : 0 < v.self.priority)
    (hdes : v.self.declaresDesignated = true) :
    (codeRound v).1 = (better rank v.bestDesignated v.self).routerID ∧
      v.round.1 = some (better rank v.bestDesignated v.self).routerID := by
  refine ⟨if_pos ⟨hpos, hdes⟩, ?_⟩
  rw [View.round_designated_of_eligible hpos, hdes, if_pos rfl]

theorem codeRound_designated (h : ¬ (0 < v.self.priority ∧ v.self.declaresDesignated = false))
    (hsame : (codeRound v).2 = v.round.2.getD nullRouterID) :
    (codeRound v).1 = v.round.1.getD nullRouterID := by
  by_cases hpos : 0 < v.self.priority
  · have hdes : v.self.declaresDesignated = true := by
      rw [← Bool.not_eq_false]
      exact fun hfalse => h ⟨hpos, hfalse⟩
    obtain ⟨hcode, hround⟩ := codeRound_designated_of_declares hpos hdes
    rw [hcode, hround]
    rfl
  · obtain ⟨hcode, hround⟩ := codeRound_designated_of_not_eligible hpos
    rw [hcode, hround, hsame]
    cases v.bestDesignated with
    | none => rfl
    | some c => rfl

theorem getD_eq_iff {o : Option RouterID} (h : routerID ≠ nullRouterID) :
    o.getD nullRouterID = routerID ↔ o = some routerID := by
  cases o with
  | none => exact ⟨fun heq => absurd heq.symm h, fun heq => (by cases heq)⟩
  | some i => exact Option.some_inj.symm

/-- A round of the code gives the router itself the same roles as a round of the RFC. -/
theorem codeRound_self (h : Identified v) :
    ((codeRound v).1 = v.self.routerID ↔ v.round.1 = some v.self.routerID) ∧
      ((codeRound v).2 = v.self.routerID ↔ v.round.2 = some v.self.routerID) := by
  by_cases hown : 0 < v.self.priority ∧ v.self.declaresDesignated = false
  · rw [codeRound_of_contender hown.1 hown.2]
    exact ⟨getD_eq_iff h.self, getD_eq_iff h.self⟩
  · obtain ⟨hcode, hround⟩ := codeRound_backup hown
    -- neither backup is the router itself
    have hcodeNe : (codeRound v).2 ≠ v.self.routerID := by
      intro heq
      rw [hcode, getD_eq_iff h.self] at heq
      obtain ⟨c, hc, hid⟩ := Option.map_eq_some_iff.1 heq
      exact h.distinct.best_ne hc hid
    have hroundNe : v.round.2 ≠ some v.self.routerID := by
      intro heq
      rw [hround] at heq
      obtain ⟨c, hc, hid⟩ := Option.map_eq_some_iff.1 heq
      rcases Option.or_eq_some_iff.1 hc with hc | ⟨-, hc⟩
      · exact h.distinct.best_ne hc hid
      · exact h.distinct.best_ne hc hid
    refine ⟨?_, fun heq => absurd heq hcodeNe, fun heq => absurd heq hroundNe⟩
    by_cases hpos : 0 < v.self.priority
    · have hdes : v.self.declaresDesignated = true := by
        rw [← Bool.not_eq_false]
        exact fun hfalse => hown ⟨hpos, hfalse⟩
      obtain ⟨hcode', hround'⟩ := codeRound_designated_of_declares hpos hdes
      rw [hcode', hround']
      exact Option.some_inj.symm
    · obtain ⟨hcode', hround'⟩ := codeRound_designated_of_not_eligible hpos
      rw [hcode', hround']
      cases hbest : v.bestDesignated with
      | none => exact ⟨fun heq => absurd heq hcodeNe, fun heq => absurd heq hroundNe⟩
      | some c => exact Option.some_inj.symm

/-- When no role changes, a second round of the code would not differ. -/
theorem codeRound_withRoles (h : Identified v) (hdes : (codeRound v).1 ≠ nullRouterID →
      decide (v.round.1 = some v.self.routerID) = v.self.declaresDesignated)
    (hback : (codeRound v).2 ≠ nullRouterID →
      decide (v.round.2 = some v.self.routerID) = v.self.declaresBackup) :
    codeRound (v.withRoles v.round) = codeRound v := by
  by_cases hpos : 0 < v.self.priority
  · cases hd : v.self.declaresDesignated with
    | true =>
      have hcode := codeRound_designated_of_declares hpos hd
      have hkept := hdes (by rw [hcode.1]; exact h.better_ne _)
      rw [hd] at hkept
      have hcode' := codeRound_designated_of_declares (v := v.withRoles v.round) hpos hkept
      have hback' := codeRound_backup (v := v.withRoles v.round) fun hcon => by
        rw [show (v.withRoles v.round).self.declaresDesignated = true from hkept] at hcon
        exact Bool.false_ne_true hcon.2.symm
      have hbackup := codeRound_backup (v := v) fun hcon => by
        rw [hd] at hcon
        exact Bool.false_ne_true hcon.2.symm
      refine Prod.ext ?_ (hback'.1.trans hbackup.1.symm)
      rw [hcode.1, hcode'.1, View.better_withRoles]
      rfl
    | false =>
      have hround := codeRound_of_contender hpos hd
      have hkept : decide (v.round.1 = some v.self.routerID) = v.self.declaresDesignated := by
        by_cases hnull : (codeRound v).1 = nullRouterID
        · rw [hd]
          refine decide_eq_false fun heq => h.self ?_
          rw [hround, heq] at hnull
          exact hnull
        · exact hdes hnull
      have hkeptBackup := hback (by rw [hround]; exact round_backup_ne h hpos hd)
      rw [View.withRoles, hkept, hkeptBackup]
  · have hback' := codeRound_backup (v := v.withRoles v.round) fun hcon => hpos hcon.1
    have hbackup := codeRound_backup (v := v) fun hcon => hpos hcon.1
    have hsame : (codeRound (v.withRoles v.round)).2 = (codeRound v).2 :=
      hback'.1.trans hbackup.1.symm
    refine Prod.ext ?_ hsame
    rw [(codeRound_designated_of_not_eligible (v := v.withRoles v.round) hpos).1, hsame,
      (codeRound_designated_of_not_eligible hpos).1]
    rfl

/-! ### The result -/

/-- The neighbours and the router itself have router IDs of their own. -/
structure Interface.WellFormed (intf : Interface) (routerID : RouterID) : Prop where
  distinct : (intf.neighboringRouters.map (·.neighborID) ++ [routerID]).Nodup
  neighbors : ∀ n ∈ intf.neighboringRouters, n.neighborID ≠ nullRouterID
  self : routerID ≠ nullRouterID

theorem Interface.WellFormed.identified (h : intf.WellFormed routerID) (dr bdr : RouterID) :
    Identified (view intf routerID dr bdr) := by
  refine ⟨?_, fun c hc => ?_, h.self⟩
  · rw [View.Distinct, view, map_append, map_map]
    refine h.distinct.sublist (List.Sublist.append ?_ (List.Sublist.refl _))
    exact filter_sublist.map _
  · obtain ⟨n, hn, rfl⟩ := mem_map.1 hc
    exact h.neighbors n (mem_filter.1 hn).1

/-- What the router knows when the calculation starts. -/
def currentView (intf : Interface) (routerID : RouterID) : View :=
  view intf routerID intf.designatedRouter.routerID intf.backupDesignatedRouter.routerID

/-- No neighbour can take the role of the backup by declaring it, but some could without, and the
router itself is not on the list for the backup in the end. -/
def MissesBackup (v : View) : Prop :=
  v.bestBackup = none ∧ v.bestOther ≠ none ∧
    (¬ 0 < v.self.priority ∨ v.elect.1 = some v.self.routerID)

theorem roleChanges_eq_false {current declared : DesignatedRouterID}
    (h : roleChanges routerID current declared = false)
    (hne : declared.routerID ≠ nullRouterID) :
    declared.routerID = routerID ↔ current.routerID = routerID := by
  rw [roleChanges, Bool.and_eq_false_iff, bne_eq_false_iff_eq] at h
  have hsame := h.resolve_left hne
  by_cases hcur : current.routerID = routerID <;> by_cases hdec : declared.routerID = routerID <;>
    simp_all

/-- The calculation ends with what a second round finds. -/
theorem calculateDesignatedRouter_routerID (h : intf.WellFormed routerID) :
    ((calculateDesignatedRouter intf routerID).1.routerID,
      (calculateDesignatedRouter intf routerID).2.routerID) =
      codeRound ((currentView intf routerID).withRoles (currentView intf routerID).round) := by
  have hid : Identified (currentView intf routerID) := h.identified _ _
  have hfirst : _ = codeRound (currentView intf routerID) :=
    calculationRound_routerID intf routerID intf.designatedRouter intf.backupDesignatedRouter
  obtain ⟨hself, hselfBackup⟩ := codeRound_self hid
  rw [calculateDesignatedRouter]
  generalize calculationRound intf routerID intf.designatedRouter intf.backupDesignatedRouter =
    declared at hfirst ⊢
  have hdesignated : declared.1.routerID = routerID ↔
      (currentView intf routerID).round.1 = some routerID := by
    rw [show declared.1.routerID = (codeRound (currentView intf routerID)).1 from
      congrArg Prod.fst hfirst]
    exact hself
  have hbackup : declared.2.routerID = routerID ↔
      (currentView intf routerID).round.2 = some routerID := by
    rw [show declared.2.routerID = (codeRound (currentView intf routerID)).2 from
      congrArg Prod.snd hfirst]
    exact hselfBackup
  simp only
  split_ifs with hchanges
  · rw [calculationRound_routerID, view, decide_eq_decide.2 hdesignated, decide_eq_decide.2 hbackup]
    rfl
  · rw [Bool.or_eq_true, not_or, Bool.not_eq_true, Bool.not_eq_true] at hchanges
    rw [codeRound_withRoles hid (fun hne => ?_) fun hne => ?_]
    · exact hfirst
    · rw [← hfirst] at hne
      exact decide_eq_decide.2 (hdesignated.symm.trans (roleChanges_eq_false hchanges.1 hne))
    · rw [← hfirst] at hne
      exact decide_eq_decide.2 (hbackup.symm.trans (roleChanges_eq_false hchanges.2 hne))

theorem elect_eq_round (v : View) : v.elect = (v.withRoles v.round).round := by
  unfold View.elect
  split_ifs with hchanges
  · rfl
  · rw [View.changes, not_or, not_not, not_not] at hchanges
    rw [View.withRoles, hchanges.1, hchanges.2]

/-- The calculation ends with the designated router and the backup that the RFC prescribes exactly
when it does not miss a backup. -/
theorem calculateDesignatedRouter_eq_iff (h : intf.WellFormed routerID) :
    (((calculateDesignatedRouter intf routerID).1.routerID,
      (calculateDesignatedRouter intf routerID).2.routerID) =
      ((currentView intf routerID).elect.1.getD nullRouterID,
        (currentView intf routerID).elect.2.getD nullRouterID)) ↔
      ¬ MissesBackup (currentView intf routerID) := by
  have hid : Identified (currentView intf routerID) := h.identified _ _
  rw [calculateDesignatedRouter_routerID h, elect_eq_round]
  generalize currentView intf routerID = v at hid
  have hfirst := View.round_designated_withRoles hid.distinct
  rw [MissesBackup, elect_eq_round, hfirst]
  by_cases hown : 0 < v.self.priority ∧ v.round.1 ≠ some v.self.routerID
  · -- the router itself is on the list for the backup
    rw [codeRound_of_contender (v := v.withRoles v.round) hown.1 (decide_eq_false hown.2), hfirst]
    refine iff_of_true rfl ?_
    rintro ⟨-, -, hnot | hself⟩
    · exact hnot hown.1
    · exact hown.2 hself
  · have hnot : ¬ (0 < (v.withRoles v.round).self.priority ∧
        (v.withRoles v.round).self.declaresDesignated = false) :=
      fun hcon => hown ⟨hcon.1, of_decide_eq_false hcon.2⟩
    have hthird : ¬ 0 < v.self.priority ∨ v.round.1 = some v.self.routerID :=
      (not_and_or.1 hown).imp_right not_not.1
    obtain ⟨hcode, hround⟩ := codeRound_backup hnot
    have hdesignated := codeRound_designated (v := v.withRoles v.round) hnot
    have hback : (v.withRoles v.round).bestBackup = v.bestBackup := rfl
    have hother : (v.withRoles v.round).bestOther = v.bestOther := rfl
    rw [hback] at hcode
    rw [hback, hother] at hround
    cases hbest : v.bestBackup with
    | some c =>
      rw [hbest] at hcode hround
      have hsame : (codeRound (v.withRoles v.round)).2 =
          (v.withRoles v.round).round.2.getD nullRouterID := by
        rw [hcode, hround]
        rfl
      rw [← hfirst]
      exact iff_of_true (Prod.ext (hdesignated hsame) hsame) fun hcon => (by cases hcon.1)
    | none =>
      rw [hbest] at hcode hround
      cases hbest' : v.bestOther with
      | none =>
        rw [hbest'] at hround
        have hsame : (codeRound (v.withRoles v.round)).2 =
            (v.withRoles v.round).round.2.getD nullRouterID := by
          rw [hcode, hround]
          rfl
        rw [← hfirst]
        exact iff_of_true (Prod.ext (hdesignated hsame) hsame) fun hcon => hcon.2.1 rfl
      | some c =>
        -- the backup of the RFC is missed
        rw [hbest'] at hround
        refine iff_of_false (fun heq => ?_) fun hcon => hcon ⟨rfl, by simp, hthird⟩
        have heq' := congrArg Prod.snd heq
        simp only at heq'
        rw [hcode, hround] at heq'
        exact hid.best_ne hbest' heq'.symm

/-- The election does not change whether the router is the designated router. -/
def KeepsRole (v : View) : Prop :=
  decide (v.elect.1 = some v.self.routerID) = v.self.declaresDesignated

instance (v : View) : Decidable (KeepsRole v) := inferInstanceAs (Decidable (_ = _))

instance (v : View) : Decidable (MissesBackup v) := inferInstanceAs (Decidable (_ ∧ _ ∧ _))

/-- A router that does not miss a backup elects what the RFC prescribes.  Another one with the same
information elects the same designated router, and the same backup unless one of the two gets or
loses the role of the designated router. -/
theorem calculateDesignatedRouter_spec (h : intf.WellFormed routerID)
    (hmiss : ¬ MissesBackup (currentView intf routerID)) :
    ((calculateDesignatedRouter intf routerID).1.routerID,
      (calculateDesignatedRouter intf routerID).2.routerID) =
      ((currentView intf routerID).elect.1.getD nullRouterID,
        (currentView intf routerID).elect.2.getD nullRouterID) ∧
    ∀ (intf' : Interface) (routerID' : RouterID), intf'.WellFormed routerID' →
      ¬ MissesBackup (currentView intf' routerID') →
      View.SameInformation (currentView intf routerID) (currentView intf' routerID') →
      (calculateDesignatedRouter intf routerID).1.routerID =
          (calculateDesignatedRouter intf' routerID').1.routerID ∧
        (KeepsRole (currentView intf routerID) → KeepsRole (currentView intf' routerID') →
          (calculateDesignatedRouter intf routerID).2.routerID =
            (calculateDesignatedRouter intf' routerID').2.routerID) := by
  have hcalc := (calculateDesignatedRouter_eq_iff h).2 hmiss
  refine ⟨hcalc, fun intf' routerID' h' hmiss' hsame => ?_⟩
  have hcalc' := (calculateDesignatedRouter_eq_iff h').2 hmiss'
  have hid : Identified (currentView intf routerID) := h.identified _ _
  have hid' : Identified (currentView intf' routerID') := h'.identified _ _
  obtain ⟨hdesignated, hbackup⟩ := View.elect_agree hid.distinct hid'.distinct hsame
  rw [← View.elect_designated hid.distinct, ← View.elect_designated hid'.distinct] at hbackup
  obtain ⟨hdr, hbdr⟩ := Prod.mk.inj hcalc
  obtain ⟨hdr', hbdr'⟩ := Prod.mk.inj hcalc'
  refine ⟨?_, fun hkeeps hkeeps' => ?_⟩
  · rw [hdr, hdr', hdesignated]
  · rw [hbdr, hbdr', hbackup hkeeps hkeeps']

/-- A neighbour with priority 1 in two-way communication, with the backup that it declares. -/
def sampleNeighbor (routerID backup : RouterID) : Neighbor where
  state := .twoWay
  neighborID := routerID
  neighborPriority := 1
  neighborIPAddress := routerID
  neighborsDesignatedRouter := nullDesignatedRouterID
  neighborsBackupDesignatedRouter := ⟨backup, backup⟩

/-- An interface with priority 1 to the routers 1, 2 and 3, of which 2 and 3 declare themselves
backup. -/
def sampleInterface (address backup : RouterID) (neighbors : List Neighbor) : Interface where
  interfaceType := .broadcast
  state := .waiting
  ifIndex := 100
  interfaceAddressRange := ⟨address, 0xffffff00⟩
  routerPriority := 1
  designatedRouter := nullDesignatedRouterID
  backupDesignatedRouter := ⟨backup, backup⟩
  neighboringRouters := neighbors

/-- The interface of router 1. -/
def interfaceOne : Interface := sampleInterface 1 0 [sampleNeighbor 2 2, sampleNeighbor 3 3]

/-- The interface of router 3. -/
def interfaceThree : Interface := sampleInterface 3 3 [sampleNeighbor 1 0, sampleNeighbor 2 2]

theorem calculateDesignatedRouter_spec_sample :
    ((calculateDesignatedRouter interfaceOne 1).1.routerID,
      (calculateDesignatedRouter interfaceOne 1).2.routerID) =
      ((currentView interfaceOne 1).elect.1.getD nullRouterID,
        (currentView interfaceOne 1).elect.2.getD nullRouterID) := by
  have h : interfaceOne.WellFormed 1 := ⟨by decide, by decide, by decide⟩
  exact (calculateDesignatedRouter_spec h (by decide)).1

/-- Routers 1 and 3 hold the same information, but router 3 becomes designated router and looks for
another backup. -/
theorem not_calculateDesignatedRouter_agree :
    View.SameInformation (currentView interfaceOne 1) (currentView interfaceThree 3) ∧
      ((calculateDesignatedRouter interfaceOne 1).1.routerID,
        (calculateDesignatedRouter interfaceOne 1).2.routerID) = (3, 3) ∧
      ((calculateDesignatedRouter interfaceThree 3).1.routerID,
        (calculateDesignatedRouter interfaceThree 3).2.routerID) = (3, 2) := by
  refine ⟨?_, by decide, by decide⟩
  unfold View.SameInformation
  decide

end OSPF

end Hiwis
