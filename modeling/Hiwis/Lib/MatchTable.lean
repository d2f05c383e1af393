import Mathlib

/-!
# Tables in which the first match counts

The entries of a table match keys and have a color.  Some keys are attached to the entries, and want
a color: the first entry that matches such a key has to have that color.

* `MatchTable.Sound` : an entry matches the keys that are attached to it and has their color, and no
  earlier entry with another color matches them;
* `MatchTable.Sound.find?` : the first match of an attached key has the color that it wants;
* `MatchTable.Sound.sublist`, `MatchTable.Sound.insert`, `MatchTable.Sound.attach`,
  `MatchTable.Sound.capture`, `MatchTable.Sound.detach` : changes that keep a table sound.
-/

namespace MatchTable

open List

variable {α K C : Type*}

/-- The keys that are attached to the entries of a table get the color that they want. -/
structure Sound (isMatch : α → K → Bool) (color : α → C) (keys : α → List K) (want : K → C)
    (t : List α) : Prop where
  own : ∀ e ∈ t, ∀ k ∈ keys e, isMatch e k = true ∧ color e = want k
  respects : t.Pairwise fun f e => ∀ k ∈ keys e, isMatch f k = true → color f = want k

variable {isMatch : α → K → Bool} {color : α → C} {keys : α → List K} {want : K → C}
  {t t' pre post : List α} {e e' f : α} {k : K}

/-- Two entries match the same keys and have the same color. -/
structure Same (isMatch : α → K → Bool) (color : α → C) (e' e : α) : Prop where
  isMatch : ∀ k, isMatch e' k = isMatch e k
  color : color e' = color e

namespace Sound

theorem sublist (h : Sound isMatch color keys want t) (hsub : t'.Sublist t) :
    Sound isMatch color keys want t' :=
  ⟨fun e he => h.own e (hsub.subset he), h.respects.sublist hsub⟩

theorem find? (h : Sound isMatch color keys want t) (he : e ∈ t) (hk : k ∈ keys e) :
    ∃ f, t.find? (isMatch · k) = some f ∧ color f = want k := by
  have hown := h.own e he k hk
  cases hfind : t.find? (isMatch · k) with
  | none => exact absurd hown.1 (List.find?_eq_none.1 hfind e he)
  | some f =>
    refine ⟨f, rfl, ?_⟩
    obtain ⟨hmatch, pre, post, rfl, hno⟩ := List.find?_eq_some_iff_append.1 hfind
    rcases mem_append.1 he with hpre | hpost
    · -- nothing before the first match matches
      have := hno e hpre
      rw [hown.1] at this
      cases this
    · rcases mem_cons.1 hpost with rfl | hpost
      · exact hown.2
      · have hpair := (pairwise_append.1 h.respects).2.1
        exact (pairwise_cons.1 hpair).1 e hpost k hk hmatch

/-- An entry without keys is inserted. -/
theorem insert (h : Sound isMatch color keys want (pre ++ post)) (hkeys : keys e = [])
    (hpost : ∀ f ∈ post, ∀ k ∈ keys f, isMatch e k = true → color e = want k) :
    Sound isMatch color keys want (pre ++ e :: post) := by
  obtain ⟨hpre, hpost', hcross⟩ := pairwise_append.1 h.respects
  refine ⟨fun f hf k hk => ?_, pairwise_append.2 ⟨hpre, ?_, fun a ha b hb => ?_⟩⟩
  · rcases mem_append.1 hf with hf | hf
    · exact h.own f (mem_append_left _ hf) k hk
    · rcases mem_cons.1 hf with rfl | hf
      · rw [hkeys] at hk
        cases hk
      · exact h.own f (mem_append_right _ hf) k hk
  · exact pairwise_cons.2 ⟨hpost, hpost'⟩
  · rcases mem_cons.1 hb with rfl | hb
    · intro k hk
      rw [hkeys] at hk
      cases hk
    · exact hcross a ha b hb

section

variable (h : Sound isMatch color keys want (pre ++ e :: post)) (hsame : Same isMatch color e' e)
include h hsame

/-- Keys are attached to an entry that matches them, when every match before it has the color that
they want. -/
theorem attach (hkeys : ∀ k ∈ keys e', k ∈ keys e ∨ (isMatch e k = true ∧ color e = want k ∧
      ∀ f ∈ pre, isMatch f k = true → color f = want k)) :
    Sound isMatch color keys want (pre ++ e' :: post) := by
  obtain ⟨hpre, hpost, hcross⟩ := pairwise_append.1 h.respects
  obtain ⟨hhead, htail⟩ := pairwise_cons.1 hpost
  refine ⟨fun f hf k hk => ?_, pairwise_append.2
    ⟨hpre, pairwise_cons.2 ⟨fun b hb k hk => ?_, htail⟩, fun a ha b hb => ?_⟩⟩
  · rcases mem_append.1 hf with hf | hf
    · exact h.own f (mem_append_left _ hf) k hk
    · rcases mem_cons.1 hf with rfl | hf
      · rw [hsame.isMatch, hsame.color]
        rcases hkeys k hk with hold | ⟨hmatch, hcolor, -⟩
        · exact h.own e (mem_append_right _ mem_cons_self) k hold
        · exact ⟨hmatch, hcolor⟩
      · exact h.own f (mem_append_right _ (mem_cons_of_mem _ hf)) k hk
  · rw [hsame.isMatch, hsame.color]
    exact hhead b hb k hk
  · rcases mem_cons.1 hb with rfl | hb
    · intro k hk
      rcases hkeys k hk with hold | ⟨-, -, hearlier⟩
      · exact hcross a ha e mem_cons_self k hold
      · exact hearlier a ha
    · exact hcross a ha b (mem_cons_of_mem _ hb)

/-- An entry takes over keys that it matches from those that follow it. -/
theorem capture (hkeys : ∀ k ∈ keys e', k ∈ keys e ∨ (isMatch e k = true ∧ ∃ f ∈ post, k ∈ keys f))
    :
    Sound isMatch color keys want (pre ++ e' :: post) := by
  obtain ⟨-, hpost, hcross⟩ := pairwise_append.1 h.respects
  refine h.attach hsame fun k hk => (hkeys k hk).imp_right ?_
  rintro ⟨hmatch, f, hf, hkf⟩
  refine ⟨hmatch, (pairwise_cons.1 hpost).1 f hf k hkf hmatch, fun a ha => ?_⟩
  exact hcross a ha f (mem_cons_of_mem _ hf) k hkf

end

/-- Keys are taken away from the entries at the end. -/
theorem detach (h : Sound isMatch color keys want (pre ++ post)) {g : α → α}
    (hsame : ∀ e, Same isMatch color (g e) e) (hkeys : ∀ e, keys (g e) ⊆ keys e) :
    Sound isMatch color keys want (pre ++ post.map g) := by
  obtain ⟨hpre, hpost, hcross⟩ := pairwise_append.1 h.respects
  refine ⟨fun f hf k hk => ?_, pairwise_append.2 ⟨hpre, ?_, fun a ha b hb => ?_⟩⟩
  · rcases mem_append.1 hf with hf | hf
    · exact h.own f (mem_append_left _ hf) k hk
    · obtain ⟨e, he, rfl⟩ := mem_map.1 hf
      rw [(hsame e).isMatch, (hsame e).color]
      exact h.own e (mem_append_right _ he) k (hkeys e hk)
  · refine pairwise_map.2 (hpost.imp fun hrel k hk => ?_)
    rw [(hsame _).isMatch, (hsame _).color]
    exact hrel k (hkeys _ hk)
  · obtain ⟨e, he, rfl⟩ := mem_map.1 hb
    intro k hk
    exact hcross a ha e he k (hkeys e hk)

end Sound

end MatchTable
