import Hiwis.Lib.Trace

/-!
# Postconditions of fallible computations

`Except.Ensures F P x` says that the computation `x` returns a value that satisfies `P`, or stops
with a fault that satisfies `F`.

* `Except.Ensures.bind` : the rule of sequential composition;
* `Except.Ensures.imp`, `Except.Ensures.mono` : the rule of consequence;
* `Except.Ensures.foldlM` : the rule of a loop over a list, with its invariant.
-/

namespace Except

variable {ε ε' : Type*} {α β : Type u} {F : ε → Prop} {P : α → Prop} {Q : β → Prop}

/-- The computation returns a value with the property `P`, or stops with a fault in `F`. -/
def Ensures (F : ε → Prop) (P : α → Prop) : Except ε α → Prop
  | .ok a => P a
  | .error e => F e

variable {a : α}

@[simp] theorem ensures_ok : Ensures F P (.ok a) ↔ P a := Iff.rfl

@[simp] theorem ensures_error {e : ε} : Ensures F P (.error e : Except ε α) ↔ F e := Iff.rfl

namespace Ensures

variable {x : Except ε α}

theorem of_eq_ok (h : Ensures F P x) (hx : x = .ok a) : P a := by
  subst hx
  exact h

theorem of_eq_error (h : Ensures F P x) {e : ε} (hx : x = .error e) : F e := by
  subst hx
  exact h

variable {P' : α → Prop}

theorem imp {F' : ε → Prop} (h : Ensures F P x) (hF : ∀ e, F e → F' e) (hP : ∀ a, P a → P' a) :
    Ensures F' P' x := by
  cases x with
  | ok a => exact hP a h
  | error e => exact hF e h

theorem mono (h : Ensures F P x) (hP : ∀ a, P a → P' a) :
    Ensures F P' x := h.imp (fun _ hF => hF) hP

theorem bind {f : α → Except ε β} (h : Ensures F P x) (hf : ∀ a, P a → Ensures F Q (f a)) :
    Ensures F Q (x >>= f) := by
  cases x with
  | ok a => exact hf a h
  | error e => exact h

/-- A fact about the value that is returned may be added to the postcondition. -/
theorem and_of_eq_ok (h : Ensures F P x) (hP : ∀ a, x = .ok a → P' a) :
    Ensures F (fun a => P a ∧ P' a) x := by
  cases x with
  | ok a => exact ⟨h, hP a rfl⟩
  | error e => exact h

/-- A loop over a list keeps what each of its rounds keeps. -/
theorem foldlM {γ : Type*} {f : α → γ → Except ε α} {l : List γ}
    (h : ∀ a, ∀ x ∈ l, P a → Ensures F P (f a x)) (ha : P a) :
    Ensures F P (l.foldlM f a) := by
  induction l generalizing a with
  | nil => exact ha
  | cons x l ih =>
    rw [List.foldlM_cons]
    exact (h a x List.mem_cons_self ha).bind fun b hb =>
      ih (fun b y hy hPb => h b y (List.mem_cons_of_mem _ hy) hPb) hb

/-- A computation whose faults are reported as others. -/
theorem mapError {x : Except ε' α} {f : ε' → ε} (hP : ∀ a, x = .ok a → P a) (hF : ∀ e, F (f e)) :
    Ensures F P (x.mapError f) := by
  cases x with
  | ok a => exact hP a rfl
  | error e => exact hF e

end Ensures

end Except
