import Mathlib

/-!
# Merging vectors with unspecified bits

A template is a vector together with a mask of the bits that it specifies.  Templates are merged one
by one: the bits that some of them specify, and those about which two of them disagree.

* `SpecifiedBits.Merges` : what the result says about the templates;
* `SpecifiedBits.Merges.add` : one more template is merged;
* `SpecifiedBits.Merges.bit_eq` : where the templates agree, the result agrees with each of them.
-/

namespace SpecifiedBits

open List
open BitVec

variable {w : ℕ}

/-- A vector, and a mask of the bits that it specifies. -/
structure Template (w : ℕ) where
  bits : BitVec w
  specified : BitVec w
  deriving DecidableEq

/-- The template says which value a bit has. -/
structure Specifies (t : Template w) (b : ℕ) (v : Bool) : Prop where
  specified : t.specified.getLsbD b = true
  bit : t.bits.getLsbD b = v

theorem specifies_iff {t : Template w} {b : ℕ} {v : Bool} :
    Specifies t b v ↔ t.specified.getLsbD b = true ∧ t.bits.getLsbD b = v :=
  ⟨fun h => ⟨h.1, h.2⟩, fun h => ⟨h.1, h.2⟩⟩

/-- What becomes of merged templates. -/
structure Merged (w : ℕ) where
  bits : BitVec w := 0
  specified : BitVec w := 0
  /-- The bits about which two templates disagree. -/
  incompatible : BitVec w := 0
  deriving DecidableEq

/-- One more template is merged. -/
def Merged.add (m : Merged w) (t : Template w) : Merged w :=
  let common := m.specified &&& t.specified
  { bits := m.bits ||| (t.bits &&& t.specified)
    specified := m.specified ||| t.specified
    incompatible := m.incompatible ||| ((m.bits &&& common) ^^^ (t.bits &&& common)) }

variable {ts : List (Template w)} {m : Merged w} {t : Template w} {b : ℕ} {v : Bool}

/-- Some template says which value a bit has. -/
def SomeSpecifies (ts : List (Template w)) (b : ℕ) (v : Bool) : Prop := ∃ t ∈ ts, Specifies t b v

theorem someSpecifies_append :
    SomeSpecifies (ts ++ [t]) b v ↔ SomeSpecifies ts b v ∨ Specifies t b v := by
  unfold SomeSpecifies
  constructor
  · rintro ⟨t', ht', hspec⟩
    rcases mem_append.1 ht' with h | h
    · exact .inl ⟨t', h, hspec⟩
    · rw [mem_singleton.1 h] at hspec
      exact .inr hspec
  · rintro (⟨t', ht', hspec⟩ | hspec)
    · exact ⟨t', mem_append_left _ ht', hspec⟩
    · exact ⟨t, mem_append_right _ (mem_singleton_self t), hspec⟩

/-- What the result of merging says about the templates. -/
structure Merges (ts : List (Template w)) (m : Merged w) : Prop where
  bits : ∀ b, m.bits.getLsbD b = true ↔ SomeSpecifies ts b true
  specified : ∀ b, m.specified.getLsbD b = true ↔ SomeSpecifies ts b true ∨ SomeSpecifies ts b false
  incompatible : ∀ b, m.incompatible.getLsbD b = true ↔
    SomeSpecifies ts b true ∧ SomeSpecifies ts b false

namespace Merges

theorem nil : Merges [] (Merged.mk (w := w) 0 0 0) := by
  have hnone : ∀ b v, ¬ SomeSpecifies ([] : List (Template w)) b v := by
    rintro b v ⟨t, ht, -⟩
    cases ht
  refine ⟨fun b => ?_, fun b => ?_, fun b => ?_⟩ <;> simp [hnone]

theorem add (h : Merges ts m) (t : Template w) : Merges (ts ++ [t]) (m.add t) := by
  refine ⟨fun b => ?_, fun b => ?_, fun b => ?_⟩
  · rw [someSpecifies_append, ← h.bits]
    simp only [Merged.add, getLsbD_or, getLsbD_and, Bool.or_eq_true, Bool.and_eq_true]
    exact or_congr_right ⟨fun ⟨hbit, hspec⟩ => ⟨hspec, hbit⟩, fun ⟨hspec, hbit⟩ => ⟨hbit, hspec⟩⟩
  · rw [someSpecifies_append, someSpecifies_append, or_or_or_comm, ← h.specified, specifies_iff,
      specifies_iff]
    simp only [Merged.add, getLsbD_or, Bool.or_eq_true]
    refine or_congr_right ⟨fun hspec => ?_, fun hspec => ?_⟩
    · cases t.bits.getLsbD b with
      | true => exact .inl ⟨hspec, rfl⟩
      | false => exact .inr ⟨hspec, rfl⟩
    · rcases hspec with hspec | hspec <;> exact hspec.1
  · have hbits := h.bits b
    have hspecified := h.specified b
    have hincompatible := h.incompatible b
    rw [someSpecifies_append, someSpecifies_append, specifies_iff, specifies_iff]
    simp only [Merged.add, getLsbD_or, getLsbD_and, getLsbD_xor]
    -- by which values the templates before specify, and what the new one says
    by_cases htrue : SomeSpecifies ts b true <;> by_cases hfalse : SomeSpecifies ts b false <;>
      cases t.specified.getLsbD b <;> cases t.bits.getLsbD b <;>
      simp_all only [and_true, or_true, iff_true, iff_false, or_false, and_false,
        Bool.not_eq_true, Bool.and_true, Bool.and_false, Bool.or_true, Bool.or_false,
        Bool.xor_false, Bool.false_xor, Bool.xor_self, Bool.false_eq_true, reduceCtorEq]

/-- A bit that the templates do not disagree about is the one of each template. -/
theorem bit_eq (h : Merges ts m) (hb : m.incompatible.getLsbD b = false) (ht : t ∈ ts)
    (hspec : Specifies t b v) : m.specified.getLsbD b = true ∧ m.bits.getLsbD b = v := by
  have hsome : SomeSpecifies ts b v := ⟨t, ht, hspec⟩
  have hnot := mt (h.incompatible b).2 (by rw [hb]; exact Bool.false_ne_true)
  cases v with
  | true => exact ⟨(h.specified b).2 (.inl hsome), (h.bits b).2 hsome⟩
  | false =>
    refine ⟨(h.specified b).2 (.inr hsome), Bool.eq_false_iff.2 fun htrue => ?_⟩
    exact hnot ⟨(h.bits b).1 htrue, hsome⟩

/-- A bit about which no two templates disagree. -/
theorem incompatible_eq_false (h : Merges ts m)
    (hno : ∀ t ∈ ts, ∀ t' ∈ ts, t.specified.getLsbD b = true → t'.specified.getLsbD b = true →
      t.bits.getLsbD b = t'.bits.getLsbD b) : m.incompatible.getLsbD b = false := by
  by_contra hcon
  rw [Bool.not_eq_false, h.incompatible] at hcon
  obtain ⟨⟨t, ht, htrue⟩, t', ht', hfalse⟩ := hcon
  have heq := hno t ht t' ht' htrue.specified hfalse.specified
  rw [htrue.bit, hfalse.bit] at heq
  cases heq

end Merges

end SpecifiedBits
