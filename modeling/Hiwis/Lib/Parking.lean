import Mathlib

/-!
# Items that wait under a key

An item is parked under a key.  A release of a key lets go of all the items that wait under it, with
one result for all of them.

* `Parking.parked_run` : what waits or has been let go of was parked;
* `Parking.status_run` : an item that is parked once is let go of once, by the first release of its
  key after it was parked, and waits until then.
-/

namespace Parking

open Function

inductive Act (K X R : Type*)
  | park (k : K) (x : X)
  | release (k : K) (r : R)

/-- The items that wait, and the items that have been let go of with their results. -/
structure Lot (K X R : Type*) where
  queue : K → List X
  out : List (X × R)

variable {K X R : Type*} [DecidableEq K] {s : Lot K X R} {k k' : K} {x y : X} {r : R}

def act (s : Lot K X R) : Act K X R → Lot K X R
  | .park k x => { s with queue := update s.queue k (s.queue k ++ [x]) }
  | .release k r =>
    { queue := update s.queue k []
      out := s.out ++ (s.queue k).map fun x => (x, r) }

/-- The lot after a history that begins with an empty one. -/
def run (h : List (Act K X R)) : Lot K X R := h.foldl act ⟨fun _ => [], []⟩

theorem run_append (h h' : List (Act K X R)) : run (h ++ h') = h'.foldl act (run h) :=
  List.foldl_append

@[simp] theorem act_park_queue_self : (act s (.park k x)).queue k = s.queue k ++ [x] :=
  update_self ..

theorem act_park_queue_of_ne (h : k' ≠ k) : (act s (.park k x)).queue k' = s.queue k' :=
  update_of_ne h ..

@[simp] theorem act_park_out : (act s (.park k x)).out = s.out := rfl

@[simp] theorem act_release_queue_self : (act s (.release k r)).queue k = [] := update_self ..

theorem act_release_queue_of_ne (h : k' ≠ k) : (act s (.release k r)).queue k' = s.queue k' :=
  update_of_ne h ..

@[simp] theorem act_release_out :
    (act s (.release k r)).out = s.out ++ (s.queue k).map fun x => (x, r) := rfl

/-- What waits or has been let go of was parked. -/
theorem parked_run (h : List (Act K X R)) :
    (∀ k, ∀ x ∈ (run h).queue k, .park k x ∈ h) ∧ ∀ p ∈ (run h).out, ∃ k, .park k p.1 ∈ h := by
  induction h using List.reverseRecOn with
  | nil => exact ⟨fun _ _ hx => absurd hx List.not_mem_nil, fun _ hp => absurd hp List.not_mem_nil⟩
  | append_singleton h a ih =>
    obtain ⟨hqueue, hout⟩ := ih
    rw [run_append, List.foldl_cons, List.foldl_nil]
    cases a with
    | park k y =>
      refine ⟨fun k' x hx => ?_, fun p hp => ?_⟩
      · by_cases hk : k' = k
        · subst hk
          rw [act_park_queue_self, List.mem_append, List.mem_singleton] at hx
          obtain hx | rfl := hx
          · exact List.mem_append_left _ (hqueue k' x hx)
          · exact List.mem_append_right _ List.mem_cons_self
        · rw [act_park_queue_of_ne hk] at hx
          exact List.mem_append_left _ (hqueue k' x hx)
      · obtain ⟨k', hk'⟩ := hout p hp
        exact ⟨k', List.mem_append_left _ hk'⟩
    | release k r =>
      refine ⟨fun k' x hx => ?_, fun p hp => ?_⟩
      · by_cases hk : k' = k
        · subst hk
          rw [act_release_queue_self] at hx
          cases hx
        · rw [act_release_queue_of_ne hk] at hx
          exact List.mem_append_left _ (hqueue k' x hx)
      · rw [act_release_out, List.mem_append, List.mem_map] at hp
        obtain hp | ⟨x, hx, rfl⟩ := hp
        · obtain ⟨k', hk'⟩ := hout p hp
          exact ⟨k', List.mem_append_left _ hk'⟩
        · exact ⟨k, List.mem_append_left _ (hqueue k x hx)⟩

/-- The result of the first release of the key. -/
def firstRelease (k : K) : List (Act K X R) → Option R
  | [] => none
  | .park _ _ :: h => firstRelease k h
  | .release k' r :: h => if k' = k then some r else firstRelease k h

/-- Where the item waits, and the results with which it has been let go of. -/
structure Status [DecidableEq X] (s : Lot K X R) (x : X) (waits : Option K) (results : List R) :
    Prop where
  count : ∀ k, (s.queue k).count x = if waits = some k then 1 else 0
  out : (s.out.filter fun p => p.1 = x).map Prod.snd = results

variable [DecidableEq X] {waits : Option K} {results : List R} {h : List (Act K X R)}

theorem Status.park_of_ne (hs : Status s x waits results) (hne : y ≠ x) :
    Status (act s (.park k y)) x waits results := by
  refine ⟨fun k' => ?_, hs.out⟩
  rw [← hs.count k']
  by_cases hk : k' = k
  · subst hk
    simp [hne]
  · rw [act_park_queue_of_ne hk]

theorem Status.park (hs : Status s x none results) :
    Status (act s (.park k x)) x (some k) results := by
  refine ⟨fun k' => ?_, hs.out⟩
  have hcount := hs.count k'
  by_cases hk : k' = k
  · subst hk
    simpa using hcount
  · rw [act_park_queue_of_ne hk, hcount]
    simp [Ne.symm hk]

theorem Status.release_of_ne (hs : Status s x waits results) (hne : waits ≠ some k) :
    Status (act s (.release k r)) x waits results := by
  have hzero : x ∉ s.queue k := by
    rw [← List.count_eq_zero, hs.count k, if_neg hne]
  refine ⟨fun k' => ?_, ?_⟩
  · by_cases hk : k' = k
    · subst hk
      simp [hne]
    · rw [act_release_queue_of_ne hk]
      exact hs.count k'
  · rw [act_release_out, List.filter_append, List.map_append, hs.out, List.filter_eq_nil_iff.2]
    · simp
    · simp only [List.mem_map, decide_eq_true_eq]
      rintro _ ⟨y, hy, rfl⟩ rfl
      exact hzero hy

theorem Status.release (hs : Status s x (some k) results) :
    Status (act s (.release k r)) x none (results ++ [r]) := by
  refine ⟨fun k' => ?_, ?_⟩
  · by_cases hk : k' = k
    · subst hk
      simp
    · rw [act_release_queue_of_ne hk, hs.count k']
      simp [Ne.symm hk]
  · have hone : (s.queue k).count x = 1 := by simpa using hs.count k
    rw [act_release_out, List.filter_append, List.map_append, hs.out, List.filter_map, List.map_map]
    congr 1
    -- the items that are equal to `x` all get the same result
    have hconst : ((s.queue k).filter fun y => y = x).map (fun _ => r) = [r] := by
      rw [List.map_const', ← List.countP_eq_length_filter]
      have hcountP : (s.queue k).countP (fun y => decide (y = x)) = 1 := by
        rw [← hone]
        simp [List.count, beq_eq_decide]
      rw [hcountP]
      rfl
    exact hconst

/-- Nothing happens any more to an item that does not wait and is not parked. -/
theorem Status.foldl_none (hs : Status s x none results) (hpark : ∀ k, Act.park k x ∉ h) :
    Status (h.foldl act s) x none results := by
  induction h generalizing s with
  | nil => exact hs
  | cons a h ih =>
    refine ih ?_ fun k hk => hpark k (List.mem_cons_of_mem _ hk)
    cases a with
    | park k y =>
      refine hs.park_of_ne ?_
      rintro rfl
      exact hpark k List.mem_cons_self
    | release k r => exact hs.release_of_ne (by simp)

/-- An item that waits is let go of by the first release of its key. -/
theorem Status.foldl_some (hs : Status s x (some k) []) (hpark : ∀ k, Act.park k x ∉ h) :
    Status (h.foldl act s) x (if (firstRelease k h).isSome then none else some k)
      (firstRelease k h).toList := by
  induction h generalizing s with
  | nil => exact hs
  | cons a h ih =>
    have hpark' : ∀ k, Act.park k x ∉ h := fun k hk => hpark k (List.mem_cons_of_mem _ hk)
    cases a with
    | park k' y =>
      refine ih (hs.park_of_ne ?_) hpark'
      rintro rfl
      exact hpark k' List.mem_cons_self
    | release k' r =>
      by_cases hk : k' = k
      · subst hk
        have hrel := (hs.release (r := r)).foldl_none hpark'
        simpa [firstRelease] using hrel
      · have hrel := ih (hs.release_of_ne (r := r) fun h => hk (Option.some.inj h).symm) hpark'
        simpa [firstRelease, hk] using hrel

theorem status_empty : Status (run ([] : List (Act K X R))) x none [] := ⟨fun _ => rfl, rfl⟩

/-- **An item that is parked once is let go of once**, by the first release of its key after it was
parked; it waits until then. -/
theorem status_run {h1 h2 : List (Act K X R)} (hpark1 : ∀ k, Act.park k x ∉ h1)
    (hpark2 : ∀ k, Act.park k x ∉ h2) :
    Status (run (h1 ++ .park k x :: h2)) x (if (firstRelease k h2).isSome then none else some k)
      (firstRelease k h2).toList := by
  rw [run_append]
  exact ((status_empty.foldl_none hpark1).park).foldl_some hpark2

end Parking
