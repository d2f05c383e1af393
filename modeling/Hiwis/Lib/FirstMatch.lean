import Mathlib

/-!
# The first match in a list that changes

* `List.find?_eraseP_of_find?`, `List.find?_filter_of_find?` : the first match stays the first match
  when other entries are removed;
* `List.findIdx?_eq_of_find?` : the first matches of two conditions, one of which implies the other;
* `List.find?_modify_of_eq` : the first match in a list of which one entry is modified, when that
  does not change what the entry matches;
* `List.map_modify_of_getElem?` : the image of such a list.
-/

namespace List

variable {α : Type*} {p q : α → Bool} {l : List α} {a : α}

theorem find?_eraseP_of_find? (h : l.find? q = some a) (ha : p a = false) :
    (l.eraseP p).find? q = some a := by
  induction l with
  | nil => cases h
  | cons b l ih =>
    by_cases hq : q b = true
    · rw [find?_cons_of_pos hq] at h
      cases h
      rw [eraseP_cons_of_neg (Bool.eq_false_iff.1 ha), find?_cons_of_pos hq]
    · rw [find?_cons_of_neg hq] at h
      by_cases hp : p b = true
      · rw [eraseP_cons_of_pos hp]
        exact h
      · rw [eraseP_cons_of_neg hp, find?_cons_of_neg hq]
        exact ih h

theorem find?_filter_of_find? (h : l.find? q = some a) (ha : p a = true) :
    (l.filter p).find? q = some a := by
  induction l with
  | nil => cases h
  | cons b l ih =>
    by_cases hq : q b = true
    · rw [find?_cons_of_pos hq] at h
      cases h
      rw [filter_cons_of_pos ha, find?_cons_of_pos hq]
    · rw [find?_cons_of_neg hq] at h
      by_cases hp : p b = true
      · rw [filter_cons_of_pos hp, find?_cons_of_neg hq]
        exact ih h
      · rw [filter_cons_of_neg hp]
        exact ih h

/-- The first match of a weaker condition, when it satisfies the stronger one. -/
theorem findIdx?_eq_of_find? (himp : ∀ b, q b = true → p b = true) (h : l.find? p = some a)
    (ha : q a = true) : l.findIdx? q = l.findIdx? p ∧ l.find? q = some a := by
  induction l with
  | nil => cases h
  | cons b l ih =>
    by_cases hp : p b = true
    · rw [find?_cons_of_pos hp] at h
      cases h
      simp [findIdx?_cons, hp, ha]
    · rw [find?_cons_of_neg hp] at h
      have hq : ¬q b = true := mt (himp b) hp
      obtain ⟨hidx, hfind⟩ := ih h
      rw [find?_cons_of_neg hq, findIdx?_cons, findIdx?_cons, if_neg hq, if_neg hp, hidx]
      exact ⟨rfl, hfind⟩

variable {f : α → α}

theorem find?_modify_of_eq (hf : ∀ b, q (f b) = q b) (i : ℕ) :
    (l.modify i f).find? q = if l.findIdx? q = some i then (l.find? q).map f else l.find? q := by
  induction l generalizing i with
  | nil => simp
  | cons b l ih =>
    by_cases hq : q b = true
    · cases i with
      | zero => simp [hq, hf, findIdx?_cons]
      | succ i => simp [hq, findIdx?_cons]
    · rw [Bool.not_eq_true] at hq
      cases i with
      | zero => simp [hq, hf, findIdx?_cons]
      | succ i =>
        rw [modify_succ_cons, find?_cons_of_neg (by simp [hq]), find?_cons_of_neg (by simp [hq]),
          ih i]
        simp [hq, findIdx?_cons]

variable {i : ℕ}

theorem modify_append_of_lt {l' : List α} (h : i < l.length) :
    (l ++ l').modify i f = l.modify i f ++ l' := by
  induction l generalizing i with
  | nil => cases h
  | cons b l ih =>
    cases i with
    | zero => rfl
    | succ i => rw [cons_append, modify_succ_cons, ih (Nat.lt_of_succ_lt_succ h),
        modify_succ_cons, cons_append]

theorem modify_append_add {l' : List α} :
    (l ++ l').modify (i + l.length) f = l ++ l'.modify i f := by
  induction l with
  | nil => rfl
  | cons b l ih => rw [cons_append, length_cons, ← Nat.add_assoc, modify_succ_cons, ih, cons_append]

/-- The only entry with its key is modified. -/
theorem modify_eq_map_of_nodup {κ : Type*} [DecidableEq κ] {key : α → κ} (hl : (l.map key).Nodup)
    (ha : l[i]? = some a) :
    l.modify i f = l.map fun b => if key b = key a then f b else b := by
  induction l generalizing i with
  | nil => cases ha
  | cons b l ih =>
    rw [map_cons, nodup_cons] at hl
    rw [map_cons]
    cases i with
    | zero =>
      obtain rfl : b = a := by simpa using ha
      rw [modify_zero_cons, if_pos rfl]
      congr 1
      conv_lhs => rw [← map_id l]
      refine map_congr_left fun c hc => ?_
      have hne : key c ≠ key b := by
        intro heq
        exact hl.1 (List.mem_map.2 ⟨c, hc, heq⟩)
      rw [if_neg hne]
      rfl
    | succ i =>
      have hi : l[i]? = some a := by simpa using ha
      rw [modify_succ_cons, ih hl.2 hi, if_neg]
      intro heq
      exact hl.1 (List.mem_map.2 ⟨a, mem_of_getElem? hi, heq.symm⟩)

variable {β : Type*} {l' : List β} {R : α → β → Prop}

theorem Forall₂.exists_getElem? (h : Forall₂ R l l') (ha : l[i]? = some a) :
    ∃ b, l'[i]? = some b ∧ R a b := by
  induction h generalizing i with
  | nil => cases ha
  | @cons c b l l' hcb htail ih =>
    cases i with
    | zero =>
      cases ha
      exact ⟨b, rfl, hcb⟩
    | succ i => exact ih (by simpa using ha)

theorem Forall₂.exists_of_mem_right {b : β} (h : Forall₂ R l l') (hb : b ∈ l') :
    ∃ a ∈ l, R a b := by
  induction h with
  | nil => cases hb
  | @cons a c l l' hac htail ih =>
    rcases mem_cons.1 hb with rfl | hb
    · exact ⟨a, mem_cons_self, hac⟩
    · obtain ⟨d, hd, hdb⟩ := ih hb
      exact ⟨d, mem_cons_of_mem _ hd, hdb⟩

theorem Forall₂.modify {R R' : α → β → Prop} {f : β → β} (h : Forall₂ R l l')
    (hmono : ∀ a b, R a b → R' a b) (hf : ∀ a b, l[i]? = some a → R a b → R' a (f b)) :
    Forall₂ R' l (l'.modify i f) := by
  induction h generalizing i with
  | nil =>
    rw [modify_nil]
    exact .nil
  | @cons a b l l' hab htail ih =>
    cases i with
    | zero => exact .cons (hf a b rfl hab) (Forall₂.imp hmono htail)
    | succ i => exact .cons (hmono a b hab) (ih fun c d hc => hf c d (by simpa using hc))

variable {g : α → β}

/-- Modifying an entry in a way that the function does not see. -/
theorem map_modify_of_getElem? (hg : ∀ b, l[i]? = some b → g (f b) = g b) :
    (l.modify i f).map g = l.map g := by
  induction l generalizing i with
  | nil => simp
  | cons b l ih =>
    cases i with
    | zero => simp [hg b rfl]
    | succ i =>
      rw [modify_succ_cons, map_cons, map_cons, ih fun c hc => hg c (by simpa using hc)]

theorem map_modify_of_eq (hg : ∀ b, g (f b) = g b) (i : ℕ) :
    (l.modify i f).map g = l.map g :=
  map_modify_of_getElem? fun b _ => hg b

end List
