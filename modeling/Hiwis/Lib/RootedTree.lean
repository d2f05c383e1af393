import Mathlib

/-!
# Trees by parents

Every vertex but one has a parent, and the rank of the parent is smaller.

* `RootedTree.graph` : vertices are joined to their parents;
* `RootedTree.isTree` : this graph is a tree.
-/

namespace RootedTree

open Option

variable {V : Type*} {parent : V → Option V} {rank : V → ℕ} {root v w : V}

/-- Vertices are joined to their parents. -/
def graph (parent : V → Option V) : SimpleGraph V :=
  SimpleGraph.fromRel fun v w => parent v = some w

variable (hrank : ∀ v w, parent v = some w → rank w < rank v)
include hrank

theorem ne_of_parent (h : parent v = some w) : v ≠ w := by
  rintro rfl
  exact lt_irrefl _ (hrank v v h)

theorem adj_of_parent (h : parent v = some w) : (graph parent).Adj v w :=
  ⟨ne_of_parent hrank h, .inl h⟩

/-- Going from parent to parent ends at the root. -/
theorem reachable_root (hroot : ∀ v, parent v = none ↔ v = root) (v : V) :
    (graph parent).Reachable v root := by
  induction hn : rank v using Nat.strong_induction_on generalizing v with
  | _ n ih =>
    cases hparent : parent v with
    | none => rw [(hroot v).1 hparent]
    | some w =>
      have hlt := hrank v w hparent
      exact (adj_of_parent hrank hparent).reachable.trans (ih _ (hn ▸ hlt) w rfl)

theorem connected (hroot : ∀ v, parent v = none ↔ v = root) : (graph parent).Connected :=
  SimpleGraph.connected_iff_exists_forall_reachable _ |>.2
    ⟨root, fun v => (reachable_root hrank hroot v).symm⟩

/-- An edge belongs to one of its ends only. -/
theorem eq_of_edge_eq {v' w' : V} (h : parent v = some w) (h' : parent v' = some w')
    (heq : s(v, w) = s(v', w')) : v = v' := by
  rcases Sym2.eq_iff.1 heq with ⟨hv, -⟩ | ⟨rfl, rfl⟩
  · exact hv
  · exact absurd (hrank _ _ h) (hrank _ _ h').not_gt

/-- The edges are as many as the vertices with a parent. -/
theorem card_edgeSet : Nat.card (graph parent).edgeSet = Nat.card {v // (parent v).isSome} := by
  symm
  refine Nat.card_eq_of_bijective (fun v => ⟨s(v.1, (parent v.1).get v.2), ?_⟩) ⟨?_, ?_⟩
  · exact adj_of_parent hrank (some_get v.2).symm
  · intro v v' heq
    exact Subtype.ext (eq_of_edge_eq hrank (some_get v.2).symm (some_get v'.2).symm
      (congrArg Subtype.val heq))
  · rintro ⟨e, he⟩
    induction e using Sym2.ind with
    | _ v w =>
      rcases (SimpleGraph.mem_edgeSet _).1 he with ⟨-, hvw | hwv⟩
      · refine ⟨⟨v, by rw [hvw]; rfl⟩, Subtype.ext ?_⟩
        simp [hvw]
      · refine ⟨⟨w, by rw [hwv]; rfl⟩, Subtype.ext ?_⟩
        simp [hwv, Sym2.eq_swap]

/-- **The graph is a tree.** -/
theorem isTree [Finite V] (hroot : ∀ v, parent v = none ↔ v = root) : (graph parent).IsTree := by
  refine SimpleGraph.isTree_iff_connected_and_card.2 ⟨connected hrank hroot, ?_⟩
  rw [card_edgeSet hrank]
  have hone : Nat.card {v // ¬(parent v).isSome} = 1 := by
    have hunique : ∀ v, ¬(parent v).isSome ↔ v = root := fun v => by
      rw [← hroot v, not_isSome_iff_eq_none]
    rw [Nat.card_congr (Equiv.subtypeEquivRight hunique)]
    exact Nat.card_unique
  classical
  rw [← hone, ← Nat.card_sum]
  exact Nat.card_congr (Equiv.sumCompl fun v => ((parent v).isSome : Prop))

end RootedTree
