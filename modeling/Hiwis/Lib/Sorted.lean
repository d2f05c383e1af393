import Mathlib

/-!
# Lists cut by a monotone predicate

A predicate `p` is *monotone* on a list when it holds of everything that stands before an element
of which it holds (`Sorted.Mono p l`), as `· ≤ a` is on an ascending list.  Walking such a list
from the front to the first element that fails `p` is the same as filtering it.

* `Sorted.takeWhile_eq_filter`, `Sorted.dropWhile_eq_filter` : walks from the front;
* `Sorted.reverse_dropWhile` : a walk from the back;
* `Sorted.filter_append_filter` : the two parts make up the list;
* `Sorted.takeWhile_map`, `Sorted.dropWhile_map`, `Sorted.reverse_dropWhile_map` : the same for a
  walk over the image of the list.
-/

namespace Sorted

open List

variable {α : Type*} {p q : α → Bool} {l : List α}

/-- `p` holds of everything before an element of which it holds. -/
def Mono (p : α → Bool) (l : List α) : Prop := l.Pairwise fun x y => p y = true → p x = true

theorem Mono.tail {a : α} (h : Mono p (a :: l)) : Mono p l := (pairwise_cons.1 h).2

/-- Nothing follows an element that fails a monotone predicate. -/
theorem Mono.filter_eq_nil {a : α} (h : Mono p (a :: l)) (ha : p a = false) : l.filter p = [] := by
  rw [filter_eq_nil_iff]
  intro x hx hpx
  have := (pairwise_cons.1 h).1 x hx hpx
  simp [ha] at this

theorem takeWhile_eq_filter (h : Mono p l) : l.takeWhile p = l.filter p := by
  induction l with
  | nil => rfl
  | cons a l ih =>
    cases ha : p a with
    | true => rw [takeWhile_cons_of_pos ha, filter_cons_of_pos ha, ih h.tail]
    | false =>
      rw [takeWhile_cons_of_neg (by simp [ha]), filter_cons_of_neg (by simp [ha]),
        h.filter_eq_nil ha]

theorem dropWhile_eq_filter (h : Mono p l) : l.dropWhile p = l.filter fun x => !p x := by
  induction l with
  | nil => rfl
  | cons a l ih =>
    cases ha : p a with
    | true =>
      rw [dropWhile_cons_of_pos ha, filter_cons_of_neg (by simp [ha]), ih h.tail]
    | false =>
      rw [dropWhile_cons_of_neg (by simp [ha]), eq_comm, filter_eq_self]
      intro x hx
      rcases mem_cons.1 hx with rfl | hx
      · simp [ha]
      · have := filter_eq_nil_iff.1 (h.filter_eq_nil ha) x hx
        simpa using this

theorem filter_append_filter (h : Mono p l) : l.filter p ++ l.filter (fun x => !p x) = l := by
  rw [← takeWhile_eq_filter h, ← dropWhile_eq_filter h, takeWhile_append_dropWhile]

/-- Dropping from the back what fails the predicate. -/
theorem reverse_dropWhile (h : Mono p l) :
    (l.reverse.dropWhile fun x => !p x).reverse = l.filter p := by
  have hrev : Mono (fun x => !p x) l.reverse := by
    rw [Mono, pairwise_reverse]
    refine List.Pairwise.imp (fun {x y} hxy => ?_) h
    cases hx : p x <;> cases hy : p y <;> simp_all
  rw [dropWhile_eq_filter hrev, filter_reverse, reverse_reverse]
  simp

theorem Mono.congr (h : Mono p l) (hpq : ∀ x ∈ l, q x = p x) : Mono q l :=
  List.Pairwise.imp_of_mem (fun hx hy hxy hq => by
    rw [hpq _ hx]
    exact hxy (hpq _ hy ▸ hq)) h

/-! ### Walks over the image of a list -/

section Map

variable {β : Type*} {f : α → β} {r : β → Bool}

theorem takeWhile_map (h : Mono p l) (hr : ∀ x ∈ l, r (f x) = p x) :
    (l.map f).takeWhile r = (l.filter p).map f := by
  have hr' : ∀ x ∈ l, (r ∘ f) x = p x := hr
  rw [List.takeWhile_map, takeWhile_eq_filter (h.congr hr'), List.filter_congr hr']

theorem dropWhile_map (h : Mono p l) (hr : ∀ x ∈ l, r (f x) = p x) :
    (l.map f).dropWhile r = (l.filter fun x => !p x).map f := by
  have hr' : ∀ x ∈ l, (r ∘ f) x = p x := hr
  rw [List.dropWhile_map, dropWhile_eq_filter (h.congr hr'),
    List.filter_congr fun x hx => congrArg (!·) (hr' x hx)]

theorem reverse_dropWhile_map (h : Mono p l) (hr : ∀ x ∈ l, r (f x) = !p x) :
    ((l.map f).reverse.dropWhile r).reverse = (l.filter p).map f := by
  have hr' : ∀ x ∈ l, (!r (f x)) = p x := fun x hx => by rw [hr x hx, Bool.not_not]
  rw [← map_reverse, List.dropWhile_map, ← map_reverse]
  congr 1
  have := reverse_dropWhile (h.congr hr')
  simp only [Bool.not_not] at this
  exact this.trans (List.filter_congr hr')

end Map

end Sorted
