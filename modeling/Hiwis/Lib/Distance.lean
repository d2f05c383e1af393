import Mathlib

/-!
# Distances in a graph with costs

`edge v w c` says that one gets from `v` to `w` at the cost `c`, and `origin v c` that `v` has what is
looked for itself, at the cost `c`.

* `Distance.Walk` : a way from a vertex to what is looked for, with its cost;
* `Distance.dist` : the least cost of a way, which is infinite when there is none;
* `Distance.dist_le_add` : the inequality of Bellman;
* `Distance.min_dist_le_relax` : an estimate that is made from the one of a neighbour is not below
  the distance, both of them cut off at a limit;
* `Distance.dist_eq_of_walk` : costs that no edge can improve are the distances.
-/

namespace Distance

variable {V : Type*} {edge : V → V → ℕ → Prop} {origin : V → ℕ → Prop} {v w : V} {c n : ℕ}

/-- There is a way with the given cost from a vertex to what is looked for. -/
inductive Walk (edge : V → V → ℕ → Prop) (origin : V → ℕ → Prop) : V → ℕ → Prop
  | origin {v : V} {c : ℕ} : origin v c → Walk edge origin v c
  | step {v w : V} {c n : ℕ} : edge v w c → Walk edge origin w n → Walk edge origin v (c + n)

/-- The least cost of a way. -/
noncomputable def dist (edge : V → V → ℕ → Prop) (origin : V → ℕ → Prop) (v : V) : ℕ∞ :=
  sInf ((↑) '' {n : ℕ | Walk edge origin v n})

theorem dist_le (h : Walk edge origin v n) : dist edge origin v ≤ n :=
  sInf_le (Set.mem_image_of_mem _ h)

theorem dist_le_of_origin (h : origin v c) : dist edge origin v ≤ c := dist_le (.origin h)

/-- A finite distance is the cost of a way. -/
theorem exists_walk (h : dist edge origin v ≠ ⊤) :
    ∃ n : ℕ, Walk edge origin v n ∧ dist edge origin v = n := by
  have hne : (((↑) : ℕ → ℕ∞) '' {n : ℕ | Walk edge origin v n}).Nonempty := by
    by_contra hempty
    refine h ?_
    unfold dist
    rw [Set.not_nonempty_iff_eq_empty.1 hempty, sInf_empty]
  obtain ⟨n, hn, heq⟩ := csInf_mem hne
  exact ⟨n, hn, heq.symm⟩

theorem dist_le_add (h : edge v w c) : dist edge origin v ≤ c + dist edge origin w := by
  by_cases htop : dist edge origin w = ⊤
  · rw [htop, add_top]
    exact le_top
  · obtain ⟨n, hn, heq⟩ := exists_walk htop
    rw [heq]
    exact_mod_cast dist_le (.step h hn)

theorem min_dist_le_relax {limit m : ℕ} (h : edge v w c)
    (hm : min (dist edge origin w) limit ≤ m) :
    min (dist edge origin v) limit ≤ (min (m + c) limit : ℕ) := by
  rw [Nat.mono_cast.map_min]
  refine le_min ?_ (min_le_right _ _)
  rcases min_le_iff.1 hm with hdist | hlimit
  · refine (min_le_left _ _).trans ((dist_le_add h).trans ?_)
    rw [Nat.cast_add, add_comm]
    exact add_le_add_left hdist c
  · -- the estimate of the neighbour is beyond the limit already
    refine (min_le_right _ _).trans (hlimit.trans ?_)
    exact_mod_cast Nat.le_add_right m c

/-- An assignment of costs that no edge can improve, and that belongs to ways, is the distance. -/
theorem dist_eq_of_walk {cost : V → ℕ} (hedge : ∀ v w c, edge v w c → cost v ≤ c + cost w)
    (horigin : ∀ v c, origin v c → cost v ≤ c) (hwalk : ∀ v, Walk edge origin v (cost v)) (v : V) :
    dist edge origin v = cost v := by
  have hle : ∀ v n, Walk edge origin v n → cost v ≤ n := by
    intro v n h
    induction h with
    | origin h => exact horigin _ _ h
    | step h _ ih => exact (hedge _ _ _ h).trans (Nat.add_le_add_left ih _)
  refine le_antisymm (dist_le (hwalk v)) (le_sInf ?_)
  rintro _ ⟨n, hn, rfl⟩
  exact Nat.cast_le.2 (hle v n hn)

end Distance
