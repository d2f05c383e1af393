import Mathlib

/-!
# Histories of a machine that cannot fail

A machine is a function `act : S → A → S`.  A history is the list of the actions that were taken;
the state it leads to is `h.foldl act s`.

* `History.each_append_iff` : a condition on every action of a history, in the state in which it is
  taken, splits with the history;
* `History.holds_until` : what holds at the beginning holds at the end, or there is a first action
  that ends it;
* `History.always_iff_each` : what a single action keeps on one exact condition holds in every state
  of a history when the condition holds at every action;
* `History.logged_concat_iff` : a condition on every entry of a log, given the entries before it.
-/

namespace History

open List

variable {S A : Type*} {act : S → A → S} {P Q R : S → A → Prop} {s : S} {as bs : List A}

/-- Every action of the history satisfies the condition in the state in which it is taken. -/
def Each (act : S → A → S) (P : S → A → Prop) : S → List A → Prop
  | _, [] => True
  | s, a :: as => P s a ∧ Each act P (act s a) as

instance decidableEach (act : S → A → S) (P : S → A → Prop) [∀ s a, Decidable (P s a)] :
    ∀ s as, Decidable (Each act P s as)
  | _, [] => inferInstanceAs (Decidable True)
  | s, a :: as =>
    have := decidableEach act P (act s a) as
    inferInstanceAs (Decidable (P s a ∧ Each act P (act s a) as))

@[simp] theorem each_nil : Each act P s [] := trivial

theorem each_singleton_iff {a : A} : Each act P s [a] ↔ P s a := and_iff_left trivial

theorem each_append_iff :
    Each act P s (as ++ bs) ↔ Each act P s as ∧ Each act P (as.foldl act s) bs := by
  induction as generalizing s with
  | nil => exact (and_iff_right trivial).symm
  | cons a as ih =>
    rw [cons_append, Each, Each, ih, foldl_cons, and_assoc]

theorem Each.mono (h : Each act P s as) (hPQ : ∀ s a, P s a → Q s a) : Each act Q s as := by
  induction as generalizing s with
  | nil => exact trivial
  | cons a as ih => exact ⟨hPQ s a h.1, ih h.2⟩

variable {I : S → Prop}

/-- What every action preserves holds at the end. -/
theorem Each.invariant (h : Each act P s as) (h0 : I s) (hact : ∀ s a, I s → P s a → I (act s a)) :
    I (as.foldl act s) := by
  induction as generalizing s with
  | nil => exact h0
  | cons a as ih => exact ih h.2 (hact s a h0 h.1)

/-- What holds at the beginning holds at the end, or there is a first action that ends it. -/
theorem holds_until (h : Each act P s as) (h0 : I s) :
    I (as.foldl act s) ∨ ∃ as1 a as2, as = as1 ++ a :: as2 ∧ I (as1.foldl act s) ∧
      P (as1.foldl act s) a ∧ ¬I (act (as1.foldl act s) a) := by
  induction as generalizing s with
  | nil => exact .inl h0
  | cons a as ih =>
    by_cases ha : I (act s a)
    · obtain hend | ⟨as1, b, as2, rfl, hI, hP, hnot⟩ := ih h.2 ha
      · exact .inl hend
      · exact .inr ⟨a :: as1, b, as2, rfl, hI, hP, hnot⟩
    · exact .inr ⟨[], a, as, rfl, h0, h.1, ha⟩

/-- Conditions that say the same about every action of the history. -/
theorem each_congr (h : Each act P s as) (hQR : ∀ s a, P s a → (Q s a ↔ R s a)) :
    Each act Q s as ↔ Each act R s as := by
  induction as generalizing s with
  | nil => exact Iff.rfl
  | cons a as ih => exact and_congr (hQR s a h.1) (ih h.2)

/-- A condition on the actions alone. -/
theorem each_const_iff {T : A → Prop} : Each act (fun _ a => T a) s as ↔ ∀ a ∈ as, T a := by
  induction as generalizing s with
  | nil => simp
  | cons a as ih => rw [forall_mem_cons, ← ih (s := act s a), Each]

/-- What a single action keeps exactly on a condition holds in every state of a history if and only
if each of its actions meets the condition. -/
theorem always_iff_each {I J : S → Prop} (hJ : ∀ s a, J s → P s a → Q s a → J (act s a))
    (hI : ∀ s a, J s → P s a → (I (act s a) ↔ Q s a)) (h : Each act P s as) (h0 : J s)
    (hs : I s) : (∀ as1, as1 <+: as → I (as1.foldl act s)) ↔ Each act Q s as := by
  induction as generalizing s with
  | nil => simpa using hs
  | cons a as ih =>
    constructor
    · intro hall
      have hQ : Q s a := (hI s a h0 h.1).1 (hall [a] (by simp))
      refine ⟨hQ, (ih h.2 (hJ s a h0 h.1 hQ) ((hI s a h0 h.1).2 hQ)).1 fun as1 has1 => ?_⟩
      exact hall (a :: as1) (by simpa using has1)
    · rintro ⟨hQ, hrest⟩ as1 has1
      obtain rfl | ⟨bs, rfl, hbs⟩ := prefix_cons_iff.1 has1
      · exact hs
      · exact (ih h.2 (hJ s a h0 h.1 hQ) ((hI s a h0 h.1).2 hQ)).2 hrest bs hbs

/-! ### Logs -/

/-- Every entry of the log satisfies the condition, given the entries before it. -/
def Logged (P : List A → A → Prop) (log : List A) : Prop := Each (fun log a => log ++ [a]) P [] log

theorem foldl_concat_singleton (log : List A) : log.foldl (fun log a => log ++ [a]) [] = log := by
  simp [foldl_append_eq_append, ← flatMap_def]

theorem logged_concat_iff {P : List A → A → Prop} {log : List A} {a : A} :
    Logged P (log ++ [a]) ↔ Logged P log ∧ P log a := by
  rw [Logged, each_append_iff, each_singleton_iff, foldl_concat_singleton]
  rfl

end History
