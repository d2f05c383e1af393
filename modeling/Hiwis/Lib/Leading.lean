import Mathlib

/-!
# The first of the greatest elements of a list

A loop that keeps the best element so far, and replaces it by a strictly better one only, ends with
the first of the greatest elements.

* `Leading.Leads` : an element that is greater than those before it and not less than those after;
* `Leading.argmax_eq_some_iff` : `List.argmax` finds the element that leads;
* `Leading.argmax_filter_concat` : what one more element changes;
* `Leading.argmax_perm` : the order of the elements does not matter when their keys are distinct;
* `Leading.foldl_eq` : a loop over a representation of the best element finds it as well.
-/

namespace Leading

variable {α β σ : Type*} [LinearOrder β] {key : α → β} {l : List α} {a e : α}

/-- An element is greater than those before it and not less than those after it. -/
def Leads (key : α → β) (l : List α) (e : α) : Prop :=
  ∃ before after, l = before ++ e :: after ∧ (∀ a ∈ before, key a < key e) ∧
    ∀ a ∈ after, key a ≤ key e

theorem Leads.mem (h : Leads key l e) : e ∈ l := by
  obtain ⟨before, after, rfl, -, -⟩ := h
  exact List.mem_append_right _ List.mem_cons_self

theorem Leads.le (h : Leads key l e) (ha : a ∈ l) : key a ≤ key e := by
  obtain ⟨before, after, rfl, hbefore, hafter⟩ := h
  rcases List.mem_append.1 ha with ha | ha
  · exact (hbefore a ha).le
  · rcases List.mem_cons.1 ha with rfl | ha
    · exact le_rfl
    · exact hafter a ha

/-- One more element does not displace the one that leads, unless it is greater. -/
theorem Leads.concat (h : Leads key l e) (ha : key a ≤ key e) : Leads key (l ++ [a]) e := by
  obtain ⟨before, after, rfl, hbefore, hafter⟩ := h
  refine ⟨before, after ++ [a], ?_, hbefore, fun b hb => ?_⟩
  · rw [List.append_assoc, List.cons_append]
  · rcases List.mem_append.1 hb with hb | hb
    · exact hafter b hb
    · rw [List.mem_singleton.1 hb]
      exact ha

theorem leads_concat_self (h : ∀ b ∈ l, key b < key a) : Leads key (l ++ [a]) a :=
  ⟨l, [], rfl, h, fun b hb => (by cases hb)⟩

/-- `List.argmax` finds an element that leads. -/
theorem leads_of_argmax (h : l.argmax key = some e) : Leads key l e := by
  induction l using List.reverseRecOn generalizing e with
  | nil =>
    rw [List.argmax_nil] at h
    cases h
  | append_singleton l a ih =>
    rw [List.argmax_concat] at h
    cases hl : l.argmax key with
    | none =>
      rw [hl] at h
      cases h
      rw [List.argmax_eq_none.1 hl]
      exact leads_concat_self fun b hb => (by cases hb)
    | some b =>
      rw [hl] at h
      simp only at h
      have hb := ih hl
      split_ifs at h with hlt
      · cases h
        exact leads_concat_self fun c hc => (hb.le hc).trans_lt hlt
      · cases h
        exact hb.concat (not_lt.1 hlt)

/-- At most one element leads, in the sense that two of them are equal. -/
theorem Leads.unique {e' : α} (h : Leads key l e) (h' : Leads key l e') : e = e' := by
  obtain ⟨before, after, rfl, hbefore, hafter⟩ := h
  obtain ⟨before', after', heq, hbefore', hafter'⟩ := h'
  rcases List.append_eq_append_iff.1 heq with ⟨rest, rfl, hrest⟩ | ⟨rest, rfl, hrest⟩
  -- the element that leads earlier stands before the other one, unless they are the same
  · cases rest with
    | nil => exact (List.cons.inj hrest).1
    | cons b rest =>
      obtain ⟨rfl, rfl⟩ := List.cons.inj hrest
      have hlt := hbefore' e (List.mem_append_right _ List.mem_cons_self)
      have hle := hafter e' (List.mem_append_right _ List.mem_cons_self)
      exact absurd hlt (not_lt.2 hle)
  · cases rest with
    | nil => exact (List.cons.inj hrest).1.symm
    | cons b rest =>
      obtain ⟨rfl, rfl⟩ := List.cons.inj hrest
      have hlt := hbefore e' (List.mem_append_right _ List.mem_cons_self)
      have hle := hafter' e (List.mem_append_right _ List.mem_cons_self)
      exact absurd hlt (not_lt.2 hle)

theorem argmax_eq_some_iff : l.argmax key = some e ↔ Leads key l e := by
  refine ⟨leads_of_argmax, fun h => ?_⟩
  cases hl : l.argmax key with
  | none =>
    have hmem := h.mem
    rw [List.argmax_eq_none.1 hl] at hmem
    cases hmem
  | some b => rw [(leads_of_argmax hl).unique h]

/-! ### One more element -/

/-- The best element so far, and one more. -/
def better (key : α → β) : Option α → α → α
  | none, a => a
  | some e, a => if key e < key a then a else e

theorem argmax_concat (l : List α) (a : α) :
    (l ++ [a]).argmax key = some (better key (l.argmax key) a) := by
  rw [List.argmax_concat]
  cases l.argmax key with
  | none => rfl
  | some e => exact (apply_ite some _ _ _).symm

theorem argmax_filter_concat (p : α → Bool) (l : List α) (a : α) :
    ((l ++ [a]).filter p).argmax key =
      if p a then some (better key ((l.filter p).argmax key) a)
      else (l.filter p).argmax key := by
  rw [List.filter_append, List.filter_singleton]
  cases p a with
  | false => rw [cond_false, List.append_nil, if_neg Bool.false_ne_true]
  | true => rw [cond_true, argmax_concat, if_pos rfl]

theorem argmax_map {γ : Type*} (g : γ → α) (l : List γ) :
    (l.map g).argmax key = (l.argmax (key ∘ g)).map g := by
  induction l using List.reverseRecOn with
  | nil => rfl
  | append_singleton l a ih =>
    rw [List.map_append, List.map_singleton, argmax_concat, argmax_concat, ih, Option.map_some]
    cases l.argmax (key ∘ g) with
    | none => rfl
    | some e => exact congrArg some (apply_ite g _ _ _).symm

/-- Lists with the same elements have the same best one, when no two have the same key. -/
theorem argmax_perm {l' : List α} (h : l.Perm l')
    (hinj : ∀ a ∈ l, ∀ b ∈ l, key a = key b → a = b) : l.argmax key = l'.argmax key := by
  cases hl : l.argmax key with
  | none =>
    rw [List.argmax_eq_none.1 hl] at h
    rw [List.nil_perm.1 h, List.argmax_nil]
  | some e =>
    cases hl' : l'.argmax key with
    | none =>
      rw [List.argmax_eq_none.1 hl', List.perm_nil] at h
      rw [h, List.argmax_nil] at hl
      cases hl
    | some e' =>
      have he := List.argmax_mem hl
      have he' := h.mem_iff.2 (List.argmax_mem hl')
      have hle := List.le_of_mem_argmax (h.mem_iff.1 he) hl'
      rw [hinj e he e' he' (le_antisymm hle (List.le_of_mem_argmax he' hl))]

/-! ### Loops -/

/-- A loop whose state stands for the best candidate so far ends with a state that stands for the
first of the greatest candidates. -/
theorem foldl_eq {step : σ → α → σ} {candidate : α → Bool} {state : Option α → σ}
    (hskip : ∀ s a, candidate a = false → step s a = s)
    (hfirst : ∀ a, candidate a = true → step (state none) a = state (some a))
    (hnext : ∀ b a, candidate a = true →
      step (state (some b)) a = if key b < key a then state (some a) else state (some b)) :
    l.foldl step (state none) = state ((l.filter candidate).argmax key) := by
  induction l using List.reverseRecOn with
  | nil => rfl
  | append_singleton l a ih =>
    rw [List.foldl_append, List.foldl_cons, List.foldl_nil, ih, List.filter_append]
    cases ha : candidate a with
    | false => rw [List.filter_singleton, ha, hskip _ _ ha, cond_false, List.append_nil]
    | true =>
      rw [List.filter_singleton, ha, cond_true, List.argmax_concat]
      cases (l.filter candidate).argmax key with
      | none => exact hfirst a ha
      | some b =>
        rw [hnext b a ha]
        exact (apply_ite state _ _ _).symm

end Leading
