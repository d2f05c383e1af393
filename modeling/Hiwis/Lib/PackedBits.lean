import Mathlib

/-!
# Packed bits

A mask selects bits of a vector, which need not be next to each other.  `get` packs them into the
low bits, and `set` puts packed bits back into the places that the mask selects.

* `PackedBits.getLsbD_set_of_not` : `set` changes no other bits;
* `PackedBits.get_of_low`, `PackedBits.set_of_low` : for a mask of the low bits, nothing moves.
-/

namespace PackedBits

variable {w k n : ℕ} {value mask packed : BitVec w} {b : ℕ}

/-- A round of `get`, with the packed bits so far and the index of the next one. -/
def getStep (value mask : BitVec w) (s : BitVec w × ℕ) (i : ℕ) : BitVec w × ℕ :=
  if mask.getLsbD i then
    (if value.getLsbD i then s.1 ||| BitVec.twoPow w s.2 else s.1, s.2 + 1)
  else s

/-- The bits that the mask selects. -/
def get (value mask : BitVec w) : BitVec w := ((List.range w).foldl (getStep value mask) (0, 0)).1

/-- A round of `set`, with the value so far and the index of the next packed bit. -/
def setStep (mask packed : BitVec w) (s : BitVec w × ℕ) (i : ℕ) : BitVec w × ℕ :=
  if mask.getLsbD i then
    (if packed.getLsbD s.2 then s.1 ||| BitVec.twoPow w i else s.1 &&& ~~~BitVec.twoPow w i,
      s.2 + 1)
  else s

/-- The value with the packed bits in the places that the mask selects. -/
def set (value mask packed : BitVec w) : BitVec w :=
  ((List.range w).foldl (setStep mask packed) (value, 0)).1

/-- What holds before the first round and is kept by every round holds at the end. -/
theorem foldl_range {σ : Type*} {step : σ → ℕ → σ} {s : σ} (I : ℕ → σ → Prop) (hinit : I 0 s)
    (hstep : ∀ i s, I i s → I (i + 1) (step s i)) (n : ℕ) :
    I n ((List.range n).foldl step s) := by
  induction n with
  | zero => exact hinit
  | succ n ih =>
    rw [List.range_succ, List.foldl_append]
    exact hstep n _ ih

/-- A bit that the mask does not select is kept. -/
theorem getLsbD_set_of_not (h : mask.getLsbD b = false) :
    (set value mask packed).getLsbD b = value.getLsbD b := by
  unfold set
  refine foldl_range (fun _ (s : BitVec w × ℕ) => s.1.getLsbD b = value.getLsbD b) rfl
    (fun i s hs => ?_) w
  unfold setStep
  split_ifs with hi hp
  · have hne : i ≠ b := by
      rintro rfl
      rw [h] at hi
      cases hi
    simp [hs, hne]
  · have hne : i ≠ b := by
      rintro rfl
      rw [h] at hi
      cases hi
    simpa [hs, hne] using BitVec.lt_of_getLsbD
  · exact hs

/-- The mask selects the lowest bits. -/
def IsLow (mask : BitVec w) (k : ℕ) : Prop := ∀ b < w, mask.getLsbD b = decide (b < k)

theorem getLsbD_twoPow (hn : n < w) : (BitVec.twoPow w n).getLsbD b = decide (b = n) := by
  rw [BitVec.getLsbD_twoPow]
  by_cases hbn : b = n
  · simp [hbn, hn]
  · simp [hbn, Ne.symm hbn]

/-- `get` has seen the bits below `n`: those that the mask selects are in their places. -/
structure Got (value : BitVec w) (k n : ℕ) (s : BitVec w × ℕ) : Prop where
  index : s.2 = min n k
  bits : ∀ b, s.1.getLsbD b = (value.getLsbD b && decide (b < min n k))

variable {s : BitVec w × ℕ}

theorem Got.step (hmask : IsLow mask k) (hn : n < w) (h : Got value k n s) :
    Got value k (n + 1) (getStep value mask s n) := by
  obtain ⟨hindex, hbits⟩ := h
  unfold getStep
  rw [hmask n hn]
  by_cases hk : n < k
  · rw [if_pos (decide_eq_true hk)]
    rw [Nat.min_eq_left (Nat.le_of_lt hk)] at hindex hbits
    refine ⟨by simp only [hindex]; omega, fun b => ?_⟩
    have hb : ∀ v : BitVec w, (v ||| BitVec.twoPow w s.2).getLsbD b =
        (v.getLsbD b || decide (b = n)) := by
      intro v
      rw [BitVec.getLsbD_or, hindex, getLsbD_twoPow hn]
    rw [Nat.min_eq_left hk]
    rcases Nat.lt_trichotomy b n with hlt | rfl | hgt
    · split_ifs <;> simp [hb, hbits, hlt, hlt.ne, Nat.lt_succ_of_lt hlt]
    · split_ifs with hv <;> simp [hb, hbits, hv]
    · have hge : ¬ b < n + 1 := by omega
      split_ifs <;> simp [hb, hbits, hgt.ne', Nat.lt_asymm hgt, hge]
  · rw [if_neg (by simp [hk])]
    have hmin : min (n + 1) k = min n k := by omega
    exact ⟨by rw [hmin, hindex], fun b => by rw [hmin, hbits]⟩

theorem get_of_low (hmask : IsLow mask k) : get value mask = value &&& mask := by
  have hgot := foldl_range (fun n s => n ≤ w → Got value k n s) (s := ((0 : BitVec w), 0))
    (fun _ => ⟨by simp, fun b => by simp⟩)
    (fun n s h hn => (h (by omega)).step hmask hn) w (Nat.le_refl w)
  ext b hb
  rw [← BitVec.getLsbD_eq_getElem, ← BitVec.getLsbD_eq_getElem, BitVec.getLsbD_and, hmask b hb]
  have hmin : b < min w k ↔ b < k := by omega
  unfold get
  rw [hgot.bits, decide_eq_decide.2 hmin]

/-- `set` has seen the bits below `n`: those that the mask selects are the packed ones. -/
structure Put (value packed : BitVec w) (k n : ℕ) (s : BitVec w × ℕ) : Prop where
  index : s.2 = min n k
  bits : ∀ b < w, s.1.getLsbD b = if b < min n k then packed.getLsbD b else value.getLsbD b

theorem Put.step (hmask : IsLow mask k) (hn : n < w) (h : Put value packed k n s) :
    Put value packed k (n + 1) (setStep mask packed s n) := by
  obtain ⟨hindex, hbits⟩ := h
  unfold setStep
  rw [hmask n hn]
  by_cases hk : n < k
  · rw [if_pos (decide_eq_true hk)]
    rw [Nat.min_eq_left (Nat.le_of_lt hk)] at hindex hbits
    refine ⟨by simp only [hindex]; omega, fun b hb => ?_⟩
    rw [Nat.min_eq_left hk, hindex]
    -- only the bit at the index changes
    have hnew : (if packed.getLsbD n = true then s.1 ||| BitVec.twoPow w n
        else s.1 &&& ~~~BitVec.twoPow w n).getLsbD b =
          if b = n then packed.getLsbD n else s.1.getLsbD b := by
      have htwo : (BitVec.twoPow w n).getLsbD b = decide (b = n) := getLsbD_twoPow hn
      cases packed.getLsbD n with
      | true =>
        rw [if_pos rfl, BitVec.getLsbD_or, htwo]
        by_cases hbn : b = n <;> simp [hbn]
      | false =>
        rw [if_neg Bool.false_ne_true, BitVec.getLsbD_and, BitVec.getLsbD_not, htwo]
        by_cases hbn : b = n <;> simp [hbn, hb]
    simp only
    rw [hnew, hbits b hb]
    rcases Nat.lt_trichotomy b n with hlt | rfl | hgt
    · rw [if_neg hlt.ne, if_pos hlt, if_pos (by omega)]
    · rw [if_pos rfl, if_pos (by omega)]
    · rw [if_neg hgt.ne', if_neg (by omega), if_neg (by omega)]
  · rw [if_neg (by simp [hk])]
    have hmin : min (n + 1) k = min n k := by omega
    exact ⟨by rw [hmin, hindex], fun b hb => by rw [hmin, hbits b hb]⟩

theorem set_of_low (hmask : IsLow mask k) :
    set value mask packed = (value &&& ~~~mask) ||| (packed &&& mask) := by
  have hput := foldl_range (fun n s => n ≤ w → Put value packed k n s) (s := (value, 0))
    (fun _ => ⟨by simp, fun b _ => by simp⟩)
    (fun n s h hn => (h (by omega)).step hmask hn) w (Nat.le_refl w)
  ext b hb
  simp only [← BitVec.getLsbD_eq_getElem, BitVec.getLsbD_or, BitVec.getLsbD_and,
    BitVec.getLsbD_not, hb, decide_true, Bool.true_and, hmask b hb]
  have hmin : b < min w k ↔ b < k := by omega
  unfold set
  rw [hput.bits b hb]
  by_cases hbk : b < k
  · simp [hmin, hbk]
  · simp [hmin, hbk]

end PackedBits
