import Mathlib

/-!
# Runs of a fallible machine

A machine is a function `step : S → A → Except E S`: in a state it takes an action and either
reaches a new state or stops with a fault.  `Trace.Run step P s as s'` says that the actions `as`
lead from `s` to `s'` without a fault, each of them satisfying the condition `P` in the state in
which it is taken.

* `Except.bind_eq_ok` : a sequence of two fallible computations succeeds when both do;
* `Trace.Run.invariant` : what every admissible step preserves holds after every run;
* `Trace.Run.simulation` : a run, related to the steps of a second machine that cannot fail;
* `Trace.Run.always_iff` : what a single step keeps on one exact condition holds in every state that
  is reached when every step meets the condition;
* `Trace.Run.steps_iff` : what a single step does on one exact condition is done by every step when
  every step meets the condition;
* `Trace.Run.append`, `Trace.Run.mono` : runs compose, and a weaker condition admits more runs;
* `Trace.exists_run_of_exec` : a run on given actions is found by evaluation.
-/

/-! ### Fallible computations -/

universe u

namespace Except

variable {ε : Type*} {α β : Type u}

@[simp] theorem ok_bind (a : α) (f : α → Except ε β) : (Except.ok a >>= f) = f a := rfl

@[simp] theorem error_bind (e : ε) (f : α → Except ε β) :
    (Except.error e >>= f) = Except.error e := rfl

@[simp] theorem pure_eq_ok (a : α) : (pure a : Except ε α) = Except.ok a := rfl

@[simp] theorem throw_eq_error (e : ε) : (throw e : Except ε α) = Except.error e := rfl

theorem bind_eq_ok {x : Except ε α} {f : α → Except ε β} {b : β} :
    x >>= f = .ok b ↔ ∃ a, x = .ok a ∧ f a = .ok b := by
  cases x <;> simp

theorem ite_error_eq_ok {p : Prop} [Decidable p] {e : ε} {x : Except ε α} {a : α} :
    (if p then Except.error e else x) = .ok a ↔ ¬p ∧ x = .ok a := by
  split_ifs with hp <;> simp [hp]

theorem mapError_eq_ok {ε' : Type*} {x : Except ε α} {f : ε → ε'} {a : α} :
    x.mapError f = .ok a ↔ x = .ok a := by
  cases x <;> simp [Except.mapError]

end Except

/-! ### Runs -/

namespace Trace

variable {S A E : Type*} {step : S → A → Except E S} {P Q : S → A → Prop}

/-- The actions of the list lead from the one state to the other, each of them admissible. -/
inductive Run (step : S → A → Except E S) (P : S → A → Prop) : S → List A → S → Prop
  | nil (s : S) : Run step P s [] s
  | cons {s s' s'' : S} {a : A} {as : List A} :
      P s a → step s a = .ok s' → Run step P s' as s'' → Run step P s (a :: as) s''

namespace Run

theorem append {s s' s'' : S} {as bs : List A} (h : Run step P s as s')
    (h' : Run step P s' bs s'') : Run step P s (as ++ bs) s'' := by
  induction h with
  | nil => exact h'
  | cons ha hs _ ih => exact .cons ha hs (ih h')

theorem mono {s s' : S} {as : List A} (hPQ : ∀ s a, P s a → Q s a) (h : Run step P s as s') :
    Run step Q s as s' := by
  induction h with
  | nil => exact .nil _
  | cons ha hs _ ih => exact .cons (hPQ _ _ ha) hs ih

/-- A predicate that every admissible step preserves holds after every run that starts in it. -/
theorem invariant {I : S → Prop} (hstep : ∀ s a s', I s → P s a → step s a = .ok s' → I s')
    {s s' : S} {as : List A} (h : Run step P s as s') (h0 : I s) : I s' := by
  induction h with
  | nil => exact h0
  | cons ha hs _ ih => exact ih (hstep _ _ _ h0 ha hs)

/-- What a single step keeps exactly on a condition holds in every state that is reached if and only
if every step of the run meets the condition. -/
theorem always_iff {I J : S → Prop}
    (hJ : ∀ s a s', J s → P s a → Q s a → step s a = .ok s' → J s')
    (hI : ∀ s a s', J s → P s a → step s a = .ok s' → (I s' ↔ Q s a))
    {s s' : S} {as : List A} (h : Run step P s as s') (h0 : J s) (hs : I s) :
    (∀ as1 s1, as1 <+: as → Run step P s as1 s1 → I s1) ↔
      Run step (fun s a => P s a ∧ Q s a) s as s' := by
  induction h with
  | nil s =>
    refine iff_of_true (fun as1 s1 has1 hrun => ?_) (.nil s)
    rw [List.prefix_nil.1 has1] at hrun
    cases hrun
    exact hs
  | @cons s t u a as ha hstep _ ih =>
    have hkeep := hI s a t h0 ha hstep
    constructor
    · intro hall
      have hQ : Q s a := hkeep.1 (hall [a] t (by simp) (.cons ha hstep (.nil t)))
      refine .cons ⟨ha, hQ⟩ hstep ((ih (hJ s a t h0 ha hQ hstep) (hkeep.2 hQ)).1 ?_)
      exact fun as1 s1 has1 hrun => hall (a :: as1) s1 (by simpa using has1) (.cons ha hstep hrun)
    · intro hrun as1 s1 has1 hrun1
      cases hrun with
      | cons hPQ hstep' hrest =>
        cases hstep.symm.trans hstep'
        obtain rfl | ⟨bs, rfl, hbs⟩ := List.prefix_cons_iff.1 has1
        · cases hrun1
          exact hs
        · cases hrun1 with
          | cons _ hstep'' hrun1 =>
            cases hstep.symm.trans hstep''
            exact (ih (hJ s a _ h0 ha hPQ.2 hstep) (hkeep.2 hPQ.2)).2 hrest bs s1 hbs hrun1

/-- What a single step does exactly on a condition is done by every step of a run if and only if
every step of the run meets the condition. -/
theorem steps_iff {R : S → A → S → Prop} {J : S → Prop}
    (hJ : ∀ s a s', J s → P s a → Q s a → step s a = .ok s' → J s')
    (hR : ∀ s a s', J s → P s a → step s a = .ok s' → (R s a s' ↔ Q s a))
    {s s' : S} {as : List A} (h : Run step P s as s') (h0 : J s) :
    (∀ as1 a s1 s2, as1 ++ [a] <+: as → Run step P s as1 s1 → step s1 a = .ok s2 → R s1 a s2) ↔
      Run step (fun s a => P s a ∧ Q s a) s as s' := by
  induction h with
  | nil s =>
    refine iff_of_true (fun as1 a s1 s2 has1 => ?_) (.nil s)
    have hnil := List.prefix_nil.1 has1
    simp at hnil
  | @cons s t u a as ha hstep _ ih =>
    have hfirst := hR s a t h0 ha hstep
    constructor
    · intro hall
      have hQ : Q s a := hfirst.1 (hall [] a s t (by simp) (.nil s) hstep)
      refine .cons ⟨ha, hQ⟩ hstep ((ih (hJ s a t h0 ha hQ hstep)).1 ?_)
      intro as1 b s1 s2 has1 hrun hb
      exact hall (a :: as1) b s1 s2 (by simpa using has1) (.cons ha hstep hrun) hb
    · intro hrun as1 b s1 s2 has1 hrun1 hb
      cases hrun with
      | cons hPQ hstep' hrest =>
        cases hstep.symm.trans hstep'
        cases hrun1 with
        | nil =>
          obtain rfl : b = a := by simpa using has1
          cases hstep.symm.trans hb
          exact hfirst.2 hPQ.2
        | cons _ hstep'' hrun1 =>
          rw [List.cons_append, List.cons_prefix_cons] at has1
          obtain ⟨rfl, has1⟩ := has1
          cases hstep.symm.trans hstep''
          exact (ih (hJ s _ _ h0 ha hPQ.2 hstep)).2 hrest _ b s1 s2 has1 hrun1 hb

/-- A run of the machine, related step by step to a machine without faults. -/
theorem simulation {T : Type*} {R : S → T → Prop} {f : T → A → T}
    (hstep : ∀ s t a s', R s t → P s a → step s a = .ok s' → R s' (f t a))
    {s s' : S} {t : T} {as : List A} (h : Run step P s as s') (h0 : R s t) :
    R s' (as.foldl f t) := by
  induction h generalizing t with
  | nil => exact h0
  | cons ha hs _ ih => exact ih (hstep _ _ _ _ h0 ha hs)

end Run

/-- The state that the actions lead to; `none` when one of them is not admissible or faults. -/
def exec (step : S → A → Except E S) (P : S → A → Prop) [∀ s a, Decidable (P s a)] :
    S → List A → Option S
  | s, [] => some s
  | s, a :: as => if P s a then (step s a).toOption.bind fun s' => exec step P s' as else none

theorem run_of_exec [∀ s a, Decidable (P s a)] {s s' : S} {as : List A}
    (h : exec step P s as = some s') : Run step P s as s' := by
  induction as generalizing s with
  | nil =>
    cases h
    exact .nil _
  | cons a as ih =>
    simp only [exec, Option.ite_none_right_eq_some, Option.bind_eq_some_iff] at h
    obtain ⟨ha, s'', hs, hexec⟩ := h
    cases hstep : step s a with
    | error e =>
      rw [hstep] at hs
      cases hs
    | ok t =>
      rw [hstep] at hs
      cases hs
      exact .cons ha hstep (ih hexec)

theorem exists_run_of_exec [∀ s a, Decidable (P s a)] {T : Type*} {s : S} {as : List A} {f : S → T}
    {t : T} (h : (exec step P s as).map f = some t) : ∃ s', Run step P s as s' ∧ f s' = t := by
  obtain ⟨s', hs', hf⟩ := Option.map_eq_some_iff.1 h
  exact ⟨s', run_of_exec hs', hf⟩

end Trace
