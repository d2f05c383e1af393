import Mathlib

/-!
# Objects that behave alike

An object answers calls; a failed call ends what can be observed.  Two objects are alike when no
list of calls tells them apart.

* `Alike.after` : alike objects answer a call alike, and they are alike after it.
-/

namespace Observe

variable {S C A E : Type*} {call : S → C → Except E (A × S)} {s t s' t' : S} {c : C} {a a' : A}

/-- The answers to a list of calls, up to the first failure. -/
def answers (call : S → C → Except E (A × S)) : S → List C → List (Except E A)
  | _, [] => []
  | s, c :: cs =>
    match call s c with
    | .error e => [.error e]
    | .ok (a, s') => .ok a :: answers call s' cs

/-- No list of calls tells the objects apart. -/
def Alike (call : S → C → Except E (A × S)) (s t : S) : Prop :=
  ∀ cs, answers call s cs = answers call t cs

namespace Alike

@[refl] theorem refl (s : S) : Alike call s s := fun _ => rfl

theorem answer_eq (h : Alike call s t) (c : C) :
    (call s c).map Prod.fst = (call t c).map Prod.fst := by
  have hanswer : ∀ s, (answers call s [c]).head? = some ((call s c).map Prod.fst) := by
    intro s
    rw [answers]
    cases call s c <;> rfl
  have hc := congrArg List.head? (h [c])
  rw [hanswer, hanswer] at hc
  exact Option.some.inj hc

theorem after (h : Alike call s t) (hs : call s c = .ok (a, s')) (ht : call t c = .ok (a', t')) :
    a = a' ∧ Alike call s' t' := by
  have hcons : ∀ cs, a = a' ∧ answers call s' cs = answers call t' cs := by
    intro cs
    have hcs := h (c :: cs)
    rw [answers, answers, hs, ht] at hcs
    obtain ⟨ha, hrest⟩ := List.cons.inj hcs
    exact ⟨Except.ok.inj ha, hrest⟩
  exact ⟨(hcons []).1, fun cs => (hcons cs).2⟩

end Alike

end Observe
