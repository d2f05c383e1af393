import Mathlib

/-!
# Numerals

Numbers written with the digits of a base, the most significant digit first.

* `Radix.value` is the number that digits stand for, and `Radix.print` writes a number;
* `Radix.value_print` : a number that is written is read back;
* `Radix.takeWhile_append` : the digits at the front of a text.
-/

namespace Hiwis

open List Option Nat

/-- The digits of a base: which characters are digits, and which one is written. -/
structure Radix where
  base : ℕ
  digit : Char → Option ℕ
  char : ℕ → Char
  one_lt_base : 1 < base
  digit_lt : ∀ c, ∀ d ∈ digit c, d < base
  digit_char : ∀ d < base, digit (char d) = some d

namespace Radix

variable {r : Radix} {c : Char} {t t' s : List Char} {n k : ℕ}

/-- The character is a digit. -/
def isDigit (r : Radix) (c : Char) : Bool := (r.digit c).isSome

/-- The digit that a character stands for. -/
def digitValue (r : Radix) (c : Char) : ℕ := (r.digit c).getD 0

/-- The number that a text stands for. -/
def value (r : Radix) (t : List Char) : ℕ := t.foldl (fun n c => r.base * n + r.digitValue c) 0

/-- A text of digits, with one at least. -/
structure IsNumeral (r : Radix) (t : List Char) : Prop where
  ne_nil : t ≠ []
  isDigit : ∀ c ∈ t, r.isDigit c = true

/-- A number in digits, without leading zeros. -/
def print (r : Radix) (n : ℕ) : List Char :=
  if n = 0 then [r.char 0] else (r.base.digits n).reverse.map r.char

theorem digitValue_lt (r : Radix) (c : Char) : r.digitValue c < r.base := by
  unfold digitValue
  cases hc : r.digit c with
  | none => exact zero_lt_of_lt r.one_lt_base
  | some d => exact r.digit_lt c d hc

theorem digitValue_char {d : ℕ} (hd : d < r.base) : r.digitValue (r.char d) = d := by
  simp [digitValue, r.digit_char d hd]

theorem isDigit_char {d : ℕ} (hd : d < r.base) : r.isDigit (r.char d) = true := by
  simp [isDigit, r.digit_char d hd]

/-! ### Values -/

theorem foldl_digits (r : Radix) (t : List Char) (n : ℕ) :
    t.foldl (fun n c => r.base * n + r.digitValue c) n = n * r.base ^ t.length + r.value t := by
  induction t generalizing n with
  | nil => simp [value]
  | cons c t ih =>
    have hcons : r.value (c :: t) = (r.base * 0 + r.digitValue c) * r.base ^ t.length + r.value t :=
      ih _
    rw [foldl_cons, ih, hcons, length_cons, pow_succ]
    ring

@[simp] theorem value_nil (r : Radix) : r.value [] = 0 := rfl

theorem value_cons (r : Radix) (c : Char) (t : List Char) :
    r.value (c :: t) = r.digitValue c * r.base ^ t.length + r.value t := by
  rw [value, foldl_cons, foldl_digits, Nat.mul_zero, Nat.zero_add]

theorem value_append_singleton (r : Radix) (t : List Char) (c : Char) :
    r.value (t ++ [c]) = r.base * r.value t + r.digitValue c := by
  rw [value, foldl_append]
  rfl

theorem value_lt (r : Radix) (t : List Char) : r.value t < r.base ^ t.length := by
  induction t using List.reverseRecOn with
  | nil => simp
  | append_singleton t c ih =>
    have hc := r.digitValue_lt c
    rw [value_append_singleton, length_append, length_singleton, pow_succ]
    calc r.base * r.value t + r.digitValue c
        < r.base * r.value t + r.base := by omega
      _ = r.base * (r.value t + 1) := by ring
      _ ≤ r.base * r.base ^ t.length := Nat.mul_le_mul_left _ ih
      _ = r.base ^ t.length * r.base := Nat.mul_comm _ _

theorem value_map_char {ds : List ℕ} (hds : ∀ d ∈ ds, d < r.base) :
    r.value (ds.reverse.map r.char) = Nat.ofDigits r.base ds := by
  induction ds with
  | nil => rfl
  | cons d ds ih =>
    rw [reverse_cons, map_append, map_singleton, value_append_singleton,
      ih fun d' hd' => hds d' (mem_cons_of_mem _ hd'),
      digitValue_char (hds d mem_cons_self)]
    exact Nat.add_comm _ _

/-! ### Printing -/

@[simp] theorem value_print (r : Radix) (n : ℕ) : r.value (r.print n) = n := by
  unfold print
  split_ifs with hn
  · rw [value_cons, digitValue_char (zero_lt_of_lt r.one_lt_base), hn]
    rfl
  · rw [value_map_char fun d hd => digits_lt_base r.one_lt_base hd, ofDigits_digits]

theorem isNumeral_print (r : Radix) (n : ℕ) : r.IsNumeral (r.print n) := by
  have hzero : 0 < r.base := zero_lt_of_lt r.one_lt_base
  unfold print
  split_ifs with hn
  · exact ⟨cons_ne_nil _ _, by simp [isDigit_char hzero]⟩
  · refine ⟨?_, fun c hc => ?_⟩
    · simpa [digits_eq_nil_iff_eq_zero] using hn
    · obtain ⟨d, hd, rfl⟩ := mem_map.1 hc
      exact isDigit_char (digits_lt_base r.one_lt_base (mem_reverse.1 hd))

theorem length_print_le (hk : 0 < k) (hn : n < r.base ^ k) : (r.print n).length ≤ k := by
  unfold print
  split_ifs
  · exact hk
  · rw [length_map, length_reverse]
    exact (digits_length_le_iff r.one_lt_base n).2 hn

/-! ### Digits at the front of a text -/

/-- The digits at the front of a text are those before the first other character. -/
theorem takeWhile_append (ht : ∀ c ∈ t, r.isDigit c = true)
    (hs : ∀ c ∈ s.head?, r.isDigit c = false) :
    (t ++ s).takeWhile r.isDigit = t ∧ (t ++ s).dropWhile r.isDigit = s := by
  have hstop : s.takeWhile r.isDigit = [] ∧ s.dropWhile r.isDigit = s := by
    cases s with
    | nil => exact ⟨rfl, rfl⟩
    | cons c s =>
      have hc := hs c rfl
      exact ⟨takeWhile_cons_of_neg (by simp [hc]), dropWhile_cons_of_neg (by simp [hc])⟩
  rw [takeWhile_append_of_pos ht, dropWhile_append_of_pos ht, hstop.1, hstop.2, append_nil]
  exact ⟨rfl, rfl⟩

theorem isDigit_of_mem_takeWhile (hc : c ∈ s.takeWhile r.isDigit) : r.isDigit c = true :=
  mem_takeWhile_imp hc

theorem head?_dropWhile (r : Radix) (s : List Char) :
    ∀ c ∈ (s.dropWhile r.isDigit).head?, r.isDigit c = false := by
  intro c hc
  have := List.head?_dropWhile_not r.isDigit s
  rw [mem_def] at hc
  simpa [hc] using this

end Radix

/-- Decimal digits. -/
def decimal : Radix where
  base := 10
  digit c := if '0' ≤ c ∧ c ≤ '9' then some (c.toNat - 48) else none
  char d := Char.ofNat (48 + d)
  one_lt_base := by decide
  digit_lt c d hd := by
    rw [mem_def, ite_none_right_eq_some, Option.some.injEq] at hd
    have hle : c.toNat ≤ 57 := hd.1.2
    omega
  digit_char := by decide

/-- Hexadecimal digits, of either case; the lower case is written. -/
def hexadecimal : Radix where
  base := 16
  digit c :=
    if '0' ≤ c ∧ c ≤ '9' then some (c.toNat - 48)
    else if 'a' ≤ c ∧ c ≤ 'f' then some (c.toNat - 87)
    else if 'A' ≤ c ∧ c ≤ 'F' then some (c.toNat - 55)
    else none
  char d := if d < 10 then Char.ofNat (48 + d) else Char.ofNat (87 + d)
  one_lt_base := by decide
  digit_lt c d hd := by
    rw [mem_def] at hd
    split_ifs at hd with h₁ h₂ h₃ <;> cases hd
    · have hle : c.toNat ≤ 57 := h₁.2
      omega
    · have hle : c.toNat ≤ 102 := h₂.2
      omega
    · have hle : c.toNat ≤ 70 := h₃.2
      omega
  digit_char := by decide

end Hiwis
