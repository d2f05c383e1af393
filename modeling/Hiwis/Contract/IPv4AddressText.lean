import Hiwis.Ipv4.InterfaceEntry
import Hiwis.Lib.Numerals

/-!
# The text of an IPv4 address

`IPv4Address` reads an address from a dotted quad, and prints it as one.  A text is the list of its
characters, without the one that ends it.

* `IPv4Address.parseNumbers_iff` : what the loop of `parseIPAddress` accepts;
* `IPv4Address.parse_iff_and_parse_str` : an address is read from a dotted quad or from `<unspec>`,
  and what `str` prints is read back;
* `IPv4Address.ofText_not_dottedQuad` : `<unspec>` is read although it is no dotted quad.
-/

namespace Hiwis

open List Option Nat Radix

namespace IPv4Address

variable {s t : List Char} {num : BitVec 32} {n : ℕ} {tobytes out : List (BitVec 8)}
  {a : IPv4Address} {printUnspec : Bool}

/-! ### The code -/

/-- `"<unspec>"`. -/
def unspecText : List Char := "<unspec>".toList

/-- `set` of four numbers. -/
def setBytes (i0 i1 i2 i3 : BitVec 8) : IPv4Address :=
  i0.setWidth 32 <<< 24 ||| i1.setWidth 32 <<< 16 ||| i2.setWidth 32 <<< 8 ||| i3.setWidth 32

/-- The loop of `parseIPAddress` over the digits of a number.  The number is an `int`. -/
def readNumber (num : BitVec 32) : List Char → BitVec 32 × List Char
  | [] => (num, [])
  | c :: s =>
    if decimal.isDigit c then readNumber (10 * num + BitVec.ofNat 32 (c.toNat - 48)) s
    else (num, c :: s)

/-- The loop of `parseIPAddress`, when there is room for so many numbers more. -/
def parseNumbers : ℕ → List Char → List (BitVec 8) → Option (List (BitVec 8))
  | 0, _, _ => none
  | n + 1, s, tobytes =>
    if s.head?.any decimal.isDigit then
      let (num, s) := readNumber 0 s
      if 255 < num.toInt then none
      else
        let tobytes := tobytes ++ [num.setWidth 8]
        match s with
        | [] => if n = 0 then some tobytes else none
        | c :: s =>
          if c ≠ '.' then none
          -- the fourth number is not the end of the text
          else if n = 0 then none
          else parseNumbers n s tobytes
    -- a number is missing
    else none

/-- `parseIPAddress`; `none` as an argument stands for `NULL`. -/
def parseIPAddress : Option (List Char) → Option (List (BitVec 8))
  | none => none
  | some text => if text = unspecText then some [0, 0, 0, 0] else parseNumbers 4 text []

/-- `set` of a text; `none` stands for the error that is raised. -/
def ofText (text : Option (List Char)) : Option IPv4Address := do
  match ← parseIPAddress text with
  | [i0, i1, i2, i3] => some (setBytes i0 i1 i2 i3)
  | _ => none

/-- `str`. -/
def str (addr : IPv4Address) (printUnspec : Bool) : List Char :=
  if printUnspec && isUnspecified addr then unspecText
  else
    ['.'].intercalate
      [decimal.print (addr >>> 24 &&& 255).toNat, decimal.print (addr >>> 16 &&& 255).toNat,
        decimal.print (addr >>> 8 &&& 255).toNat, decimal.print (addr &&& 255).toNat]

/-! ### Dotted quads -/

/-- A decimal component. -/
structure IsComponent (t : List Char) : Prop where
  isNumeral : decimal.IsNumeral t
  value_le : decimal.value t ≤ 255

/-- The text is a dotted quad, and stands for the address. -/
def DottedQuad (s : List Char) (a : IPv4Address) : Prop :=
  ∃ t₀ t₁ t₂ t₃, IsComponent t₀ ∧ IsComponent t₁ ∧ IsComponent t₂ ∧ IsComponent t₃ ∧
    s = ['.'].intercalate [t₀, t₁, t₂, t₃] ∧
    a.toNat = 2 ^ 24 * decimal.value t₀ + 2 ^ 16 * decimal.value t₁ + 2 ^ 8 * decimal.value t₂ +
      decimal.value t₃

/-- Every number in the text can be stored as an `int`. -/
def FitsInt (s : List Char) : Prop := ∀ t, t <:+: s → decimal.IsNumeral t → decimal.value t < 2 ^ 31

theorem FitsInt.mono (h : FitsInt s) (ht : t <:+: s) : FitsInt t := fun _ ht' => h _ (ht'.trans ht)

/-- A text of few characters has no great number. -/
theorem fitsInt_of_length_le (hs : s.length ≤ 9) : FitsInt s := by
  intro t ht _
  calc decimal.value t
      < 10 ^ t.length := decimal.value_lt t
    _ ≤ 10 ^ 9 := Nat.pow_le_pow_right (by decide) (ht.length_le.trans hs)
    _ < 2 ^ 31 := by decide

/-! ### Reading -/

theorem decimal_digitValue {c : Char} (hc : decimal.isDigit c = true) :
    decimal.digitValue c = c.toNat - 48 := by
  unfold isDigit at hc
  unfold digitValue
  simp only [decimal] at hc ⊢
  split_ifs at hc ⊢ with h
  · rfl
  · cases hc

/-- The digits of a number are read, and its value modulo `2 ^ 32`. -/
theorem readNumber_eq (num : BitVec 32) (s : List Char) :
    readNumber num s =
      ((s.takeWhile decimal.isDigit).foldl
        (fun num c => 10 * num + BitVec.ofNat 32 (decimal.digitValue c)) num,
        s.dropWhile decimal.isDigit) := by
  induction s generalizing num with
  | nil => rfl
  | cons c s ih =>
    unfold readNumber
    split_ifs with hc
    · rw [ih, takeWhile_cons_of_pos hc, dropWhile_cons_of_pos hc, foldl_cons, decimal_digitValue hc]
    · rw [takeWhile_cons_of_neg hc, dropWhile_cons_of_neg hc]
      rfl

theorem foldl_int (t : List Char) (n : ℕ) :
    t.foldl (fun num c => 10 * num + BitVec.ofNat 32 (decimal.digitValue c)) (BitVec.ofNat 32 n) =
      BitVec.ofNat 32 (t.foldl (fun n c => decimal.base * n + decimal.digitValue c) n) := by
  induction t generalizing n with
  | nil => rfl
  | cons c t ih =>
    rw [foldl_cons, foldl_cons, ← ih]
    congr 1
    apply BitVec.eq_of_toNat_eq
    simp [decimal, add_mod, mul_mod]

/-- The number that is read, as long as it can be stored. -/
theorem readNumber_fst (h : decimal.value (s.takeWhile decimal.isDigit) < 2 ^ 31) :
    (readNumber 0 s).1.toInt = decimal.value (s.takeWhile decimal.isDigit) ∧
      (readNumber 0 s).1.setWidth 8 =
        BitVec.ofNat 8 (decimal.value (s.takeWhile decimal.isDigit)) := by
  have hnum : (readNumber 0 s).1 =
      BitVec.ofNat 32 (decimal.value (s.takeWhile decimal.isDigit)) := by
    rw [readNumber_eq]
    exact foldl_int _ 0
  rw [hnum]
  refine ⟨?_, ?_⟩
  · rw [BitVec.toInt_eq_toNat_of_lt] <;> rw [BitVec.toNat_ofNat, mod_eq_of_lt (by omega)]
    omega
  · apply BitVec.eq_of_toNat_eq
    simp only [BitVec.toNat_setWidth, BitVec.toNat_ofNat]
    omega

/-- The byte of a component. -/
def component (t : List Char) : BitVec 8 := BitVec.ofNat 8 (decimal.value t)

/-- What follows the number at the front of a text. -/
def parseRest (n : ℕ) (tobytes : List (BitVec 8)) : List Char → Option (List (BitVec 8))
  | [] => if n = 0 then some tobytes else none
  | c :: s => if c ≠ '.' then none else if n = 0 then none else parseNumbers n s tobytes

theorem parseRest_succ_eq_some :
    parseRest (n + 1) tobytes s = some out ↔
      ∃ s', s = '.' :: s' ∧ parseNumbers (n + 1) s' tobytes = some out := by
  cases s with
  | nil => simp [parseRest]
  | cons c s => simp [parseRest]

/-- A number at the front of the text that can be stored. -/
theorem parseNumbers_append (ht : decimal.IsNumeral t) (hlt : decimal.value t < 2 ^ 31)
    (hs : ∀ c ∈ s.head?, decimal.isDigit c = false) :
    parseNumbers (n + 1) (t ++ s) tobytes =
      if 255 < decimal.value t then none else parseRest n (tobytes ++ [component t]) s := by
  obtain ⟨htake, hdrop⟩ := takeWhile_append ht.isDigit hs
  have hhead : (t ++ s).head?.any decimal.isDigit = true := by
    obtain ⟨c, t', rfl⟩ := exists_cons_of_ne_nil ht.ne_nil
    simpa using ht.isDigit c mem_cons_self
  have hread : readNumber 0 (t ++ s) = ((readNumber 0 (t ++ s)).1, s) := by
    rw [readNumber_eq, hdrop]
  obtain ⟨hint, hbyte⟩ := readNumber_fst (s := t ++ s) (by rwa [htake])
  rw [htake] at hint hbyte
  rw [parseNumbers, if_pos hhead, hread]
  simp only [hint, hbyte, ofNat_lt_cast]
  cases s with
  | nil => rfl
  | cons c s => rfl

/-- A text that is accepted starts with a number that is small enough. -/
theorem exists_of_parseNumbers (hs : FitsInt s) (h : parseNumbers (n + 1) s tobytes = some out) :
    ∃ t s', IsComponent t ∧ s = t ++ s' ∧ (∀ c ∈ s'.head?, decimal.isDigit c = false) ∧
      parseRest n (tobytes ++ [component t]) s' = some out := by
  have hsplit : s.takeWhile decimal.isDigit ++ s.dropWhile decimal.isDigit = s :=
    takeWhile_append_dropWhile
  have hrest := decimal.head?_dropWhile s
  have ht : decimal.IsNumeral (s.takeWhile decimal.isDigit) := by
    refine ⟨fun hnil => ?_, fun c hc => isDigit_of_mem_takeWhile hc⟩
    -- the first character is no digit
    have hnone : s.head?.any decimal.isDigit = false := by
      rw [hnil, nil_append] at hsplit
      rw [hsplit] at hrest
      cases s with
      | nil => rfl
      | cons c s => simpa using hrest c rfl
    rw [parseNumbers, hnone] at h
    cases h
  have hlt : decimal.value (s.takeWhile decimal.isDigit) < 2 ^ 31 :=
    hs _ (List.takeWhile_prefix _).isInfix ht
  rw [← hsplit, parseNumbers_append ht hlt hrest] at h
  split_ifs at h with hle
  exact ⟨_, _, ⟨ht, not_lt.1 hle⟩, hsplit.symm, hrest, h⟩

theorem intercalate_dot (t t' : List Char) (ts : List (List Char)) :
    ['.'].intercalate (t :: t' :: ts) = t ++ '.' :: ['.'].intercalate (t' :: ts) := by
  rw [intercalate_cons_cons, append_assoc, singleton_append]

theorem infix_append_dot (t s : List Char) : s <:+: t ++ '.' :: s :=
  ((suffix_cons '.' s).trans (suffix_append t _)).isInfix

theorem parseNumbers_component (ht : IsComponent t)
    (hs : ∀ c ∈ s.head?, decimal.isDigit c = false) :
    parseNumbers (n + 1) (t ++ s) tobytes = parseRest n (tobytes ++ [component t]) s := by
  have hle := ht.value_le
  rw [parseNumbers_append ht.isNumeral (by omega) hs, if_neg (not_lt.2 hle)]

/-- Numbers separated by dots are accepted when there is room for all of them. -/
theorem parseNumbers_intercalate {ts : List (List Char)} (hlength : ts.length = n + 1)
    (hts : ∀ t ∈ ts, IsComponent t) :
    parseNumbers (n + 1) (['.'].intercalate ts) tobytes = some (tobytes ++ ts.map component) := by
  induction n generalizing ts tobytes with
  | zero =>
    obtain ⟨t, rfl⟩ := length_eq_one_iff.1 hlength
    have hread : parseNumbers 1 (t ++ []) tobytes = parseRest 0 (tobytes ++ [component t]) [] :=
      parseNumbers_component (hts t mem_cons_self) (by simp)
    rw [append_nil] at hread
    rw [intercalate_singleton, hread]
    rfl
  | succ n ih =>
    obtain ⟨t, ts, rfl⟩ := exists_cons_of_length_eq_add_one hlength
    obtain ⟨t', ts, rfl⟩ := exists_cons_of_length_eq_add_one
      (Nat.succ.inj hlength : ts.length = n + 1)
    rw [intercalate_dot, parseNumbers_component (hts t mem_cons_self) (by simp; decide)]
    refine parseRest_succ_eq_some.2 ⟨_, rfl, ?_⟩
    rw [ih (Nat.succ.inj hlength) fun u hu => hts u (mem_cons_of_mem _ hu)]
    simp

/-- The loop of `parseIPAddress` accepts the numbers that there is room for, separated by dots. -/
theorem parseNumbers_iff (hs : FitsInt s) :
    parseNumbers (n + 1) s tobytes = some out ↔
      ∃ ts : List (List Char), ts.length = n + 1 ∧ (∀ t ∈ ts, IsComponent t) ∧
        s = ['.'].intercalate ts ∧ out = tobytes ++ ts.map component := by
  refine ⟨fun h => ?_, ?_⟩
  · induction n generalizing s tobytes with
    | zero =>
      obtain ⟨t, s', ht, rfl, -, hrest⟩ := exists_of_parseNumbers hs h
      cases s' with
      | nil =>
        cases hrest
        exact ⟨[t], rfl, by simpa using ht, by simp, rfl⟩
      | cons c s' => simp [parseRest] at hrest
    | succ n ih =>
      obtain ⟨t, s', ht, rfl, -, hrest⟩ := exists_of_parseNumbers hs h
      obtain ⟨s', rfl, hrest⟩ := parseRest_succ_eq_some.1 hrest
      obtain ⟨ts, hlength, hts, rfl, rfl⟩ := ih (hs.mono (infix_append_dot t s')) hrest
      obtain ⟨t', ts', rfl⟩ := exists_cons_of_length_eq_add_one hlength
      refine ⟨t :: t' :: ts', by simpa using hlength, by simpa [ht] using hts, ?_, by simp⟩
      exact (intercalate_dot t t' ts').symm
  · rintro ⟨ts, hlength, hts, rfl, rfl⟩
    exact parseNumbers_intercalate hlength hts

/-! ### Addresses and their bytes -/

theorem toNat_setBytes (i0 i1 i2 i3 : BitVec 8) :
    (setBytes i0 i1 i2 i3).toNat =
      2 ^ 24 * i0.toNat + 2 ^ 16 * i1.toNat + 2 ^ 8 * i2.toNat + i3.toNat := by
  have h0 := i0.isLt
  have h1 := i1.isLt
  have h2 := i2.isLt
  have h3 := i3.isLt
  have hshift : ∀ {x : BitVec 8} {k : ℕ}, k ≤ 24 →
      (x.setWidth 32 <<< k).toNat = x.toNat <<< k := by
    intro x k hk
    have hx := x.isLt
    have hlt : x.toNat <<< k < 2 ^ 32 := by
      rw [shiftLeft_eq]
      calc x.toNat * 2 ^ k
          < 2 ^ 8 * 2 ^ k := Nat.mul_lt_mul_of_pos_right hx (Nat.two_pow_pos k)
        _ ≤ 2 ^ 8 * 2 ^ 24 := Nat.mul_le_mul_left _ (Nat.pow_le_pow_right (by decide) hk)
    have hwide : x.toNat % 2 ^ 32 = x.toNat := mod_eq_of_lt (by omega)
    rw [BitVec.toNat_shiftLeft, BitVec.toNat_setWidth, hwide, mod_eq_of_lt hlt]
  -- the bytes do not overlap
  have hpair : i0.toNat <<< 24 ||| i1.toNat <<< 16 = (2 ^ 8 * i0.toNat + i1.toNat) <<< 16 := by
    rw [← shiftLeft_add_eq_or_of_lt (by rw [shiftLeft_eq]; omega)]
    simp only [shiftLeft_eq]
    ring
  have htriple : (2 ^ 8 * i0.toNat + i1.toNat) <<< 16 ||| i2.toNat <<< 8 =
      (2 ^ 16 * i0.toNat + 2 ^ 8 * i1.toNat + i2.toNat) <<< 8 := by
    rw [← shiftLeft_add_eq_or_of_lt (by rw [shiftLeft_eq]; omega)]
    simp only [shiftLeft_eq]
    ring
  have hlast : (i3.setWidth 32).toNat = i3.toNat := by
    rw [BitVec.toNat_setWidth, mod_eq_of_lt (by omega)]
  unfold setBytes
  rw [BitVec.toNat_or, BitVec.toNat_or, BitVec.toNat_or, hshift (by decide), hshift (by decide),
    hshift (by decide), hlast, hpair, htriple, ← shiftLeft_add_eq_or_of_lt h3, shiftLeft_eq]
  ring

theorem toNat_byte (addr : IPv4Address) (k : ℕ) :
    (addr >>> k &&& 255).toNat = addr.toNat / 2 ^ k % 256 := by
  rw [BitVec.toNat_and, BitVec.toNat_ushiftRight, shiftRight_eq_div_pow]
  exact and_two_pow_sub_one_eq_mod _ 8

theorem toNat_lastByte (addr : IPv4Address) : (addr &&& 255).toNat = addr.toNat % 256 := by
  have h := toNat_byte addr 0
  simpa using h

theorem isComponent_print {v : ℕ} (hv : v < 256) : IsComponent (decimal.print v) :=
  ⟨decimal.isNumeral_print v, by rw [value_print]; omega⟩

theorem toNat_component (ht : IsComponent t) : (component t).toNat = decimal.value t := by
  have hle := ht.value_le
  rw [component, BitVec.toNat_ofNat, mod_eq_of_lt (by omega)]

/-- A dotted quad is read as the address that it stands for. -/
theorem ofText_of_dottedQuad (h : DottedQuad s a) : ofText (some s) = some a := by
  obtain ⟨t0, t1, t2, t3, h0, h1, h2, h3, rfl, ha⟩ := h
  have hne : ['.'].intercalate [t0, t1, t2, t3] ≠ unspecText := by
    intro heq
    -- a numeral does not start with `<`
    obtain ⟨c, t, rfl⟩ := exists_cons_of_ne_nil h0.isNumeral.ne_nil
    have hc := h0.isNumeral.isDigit c mem_cons_self
    rw [intercalate_dot, cons_append] at heq
    have hhead : c = '<' := (List.cons.inj heq).1
    rw [hhead] at hc
    exact absurd hc (by decide)
  have hts : ∀ t ∈ [t0, t1, t2, t3], IsComponent t := by
    intro t ht
    simp only [mem_cons, not_mem_nil, or_false] at ht
    rcases ht with rfl | rfl | rfl | rfl <;> assumption
  have hparse : parseNumbers 4 (['.'].intercalate [t0, t1, t2, t3]) [] =
      some ([] ++ [t0, t1, t2, t3].map component) := parseNumbers_intercalate rfl hts
  unfold ofText parseIPAddress
  simp only [if_neg hne, hparse, nil_append, map_cons, map_nil, bind_eq_bind,
    bind_some, Option.some.injEq]
  apply BitVec.eq_of_toNat_eq
  rw [toNat_setBytes, toNat_component h0, toNat_component h1, toNat_component h2,
    toNat_component h3, ha]

/-- An address that is read from another text than `<unspec>` is read from a dotted quad. -/
theorem dottedQuad_of_ofText (hs : FitsInt s) (hne : s ≠ unspecText)
    (h : ofText (some s) = some a) : DottedQuad s a := by
  unfold ofText parseIPAddress at h
  simp only [if_neg hne, bind_eq_bind] at h
  obtain ⟨tobytes, hparse, hset⟩ := bind_eq_some_iff.1 h
  obtain ⟨ts, hlength, hts, rfl, rfl⟩ := (parseNumbers_iff hs).1 hparse
  obtain ⟨t0, t1, t2, t3, rfl⟩ := length_eq_four.1 hlength
  have h0 := hts t0 (by simp)
  have h1 := hts t1 (by simp)
  have h2 := hts t2 (by simp)
  have h3 := hts t3 (by simp)
  refine ⟨t0, t1, t2, t3, h0, h1, h2, h3, rfl, ?_⟩
  simp only [nil_append, map_cons, map_nil, Option.some.injEq] at hset
  rw [← hset, toNat_setBytes, toNat_component h0, toNat_component h1, toNat_component h2,
    toNat_component h3]

theorem ofText_unspecText : ofText (some unspecText) = some unspecifiedAddress := by
  decide

/-- What `str` prints, apart from `<unspec>`, is a dotted quad. -/
theorem dottedQuad_str (h : (printUnspec && isUnspecified a) = false) :
    DottedQuad (str a printUnspec) a := by
  have ha := a.isLt
  have hbyte : ∀ n : ℕ, IsComponent (decimal.print (n % 256)) :=
    fun n => isComponent_print (mod_lt _ (by decide))
  unfold str
  rw [h, if_neg Bool.false_ne_true, toNat_byte, toNat_byte, toNat_byte, toNat_lastByte]
  refine ⟨_, _, _, _, hbyte _, hbyte _, hbyte _, hbyte _, rfl, ?_⟩
  simp only [value_print]
  omega

/-- `parseIPAddress` accepts the texts from which an address is read. -/
theorem isSome_parseIPAddress_iff (hs : FitsInt s) :
    (parseIPAddress (some s)).isSome ↔ ∃ a, ofText (some s) = some a := by
  constructor
  · intro h
    obtain ⟨tobytes, hparse⟩ := isSome_iff_exists.1 h
    by_cases hunspec : s = unspecText
    · exact ⟨_, hunspec ▸ ofText_unspecText⟩
    · have hnumbers : parseNumbers 4 s [] = some tobytes := by
        simpa only [parseIPAddress, if_neg hunspec] using hparse
      obtain ⟨ts, hlength, -, -, rfl⟩ := (parseNumbers_iff hs).1 hnumbers
      obtain ⟨t0, t1, t2, t3, rfl⟩ := length_eq_four.1 hlength
      exact ⟨_, by rw [ofText, hparse]; rfl⟩
  · rintro ⟨a, h⟩
    obtain ⟨tobytes, hparse, -⟩ := bind_eq_some_iff.1 h
    rw [hparse]
    rfl

/-- An address is read from `<unspec>` and from each dotted quad, and from no other text; what is
printed for an address is read as that address. -/
theorem parse_iff_and_parse_str :
    (∀ s, FitsInt s →
      ((parseIPAddress (some s)).isSome ↔ s = unspecText ∨ ∃ a, DottedQuad s a) ∧
      ∀ a, ofText (some s) = some a ↔ s = unspecText ∧ a = unspecifiedAddress ∨ DottedQuad s a) ∧
    ∀ a printUnspec, ofText (some (str a printUnspec)) = some a := by
  refine ⟨fun s hs => ?_, fun a printUnspec => ?_⟩
  · have hread : ∀ a, ofText (some s) = some a ↔
        s = unspecText ∧ a = unspecifiedAddress ∨ DottedQuad s a := by
      intro a
      constructor
      · intro h
        by_cases hunspec : s = unspecText
        · rw [hunspec, ofText_unspecText, Option.some.injEq] at h
          exact .inl ⟨hunspec, h.symm⟩
        · exact .inr (dottedQuad_of_ofText hs hunspec h)
      · rintro (⟨rfl, rfl⟩ | h)
        · exact ofText_unspecText
        · exact ofText_of_dottedQuad h
    refine ⟨?_, hread⟩
    simp only [isSome_parseIPAddress_iff hs, hread, exists_or, exists_and_left, exists_eq, and_true]
  · by_cases h : (printUnspec && isUnspecified a) = true
    · have ha : a = unspecifiedAddress := by
        simpa [isUnspecified] using (Bool.and_eq_true_iff.1 h).2
      rw [str, if_pos h, ha, ofText_unspecText]
    · exact ofText_of_dottedQuad (dottedQuad_str (Bool.eq_false_iff.2 h))

/-- The text `10.0.0.1`. -/
def sampleText : List Char := ['1', '0', '.', '0', '.', '0', '.', '1']

theorem parse_iff_and_parse_str_sample :
    ofText (some sampleText) = some 0x0A000001 ∧
      ofText (some (str 0x0A000001 true)) = some 0x0A000001 := by
  refine ⟨((parse_iff_and_parse_str.1 sampleText (fitsInt_of_length_le (by decide))).2 _).2
    (.inr ?_), parse_iff_and_parse_str.2 _ _⟩
  have hdigits : ∀ {t : List Char}, t ≠ [] → (∀ c ∈ t, decimal.isDigit c = true) →
      decimal.value t ≤ 255 → IsComponent t := fun hne hall hle => ⟨⟨hne, hall⟩, hle⟩
  have hzero : IsComponent ['0'] :=
    hdigits (by decide) (forall_mem_singleton.2 (by decide)) (by decide)
  have hone : IsComponent ['1'] :=
    hdigits (by decide) (forall_mem_singleton.2 (by decide)) (by decide)
  have hten : IsComponent ['1', '0'] :=
    hdigits (by decide)
      (forall_mem_cons.2 ⟨by decide, forall_mem_singleton.2 (by decide)⟩) (by decide)
  exact ⟨['1', '0'], ['0'], ['0'], ['1'], hten, hzero, hzero, hone, by decide, by decide⟩

/-- `<unspec>` is read as an address, although it is no dotted quad. -/
theorem ofText_not_dottedQuad :
    ofText (some unspecText) = some unspecifiedAddress ∧ ¬∃ a, DottedQuad unspecText a := by
  refine ⟨by decide, ?_⟩
  rintro ⟨a, t₀, t₁, t₂, t₃, -, -, -, -, h, -⟩
  -- there is no dot in `<unspec>`
  have hdot : '.' ∈ unspecText := by
    rw [h, intercalate_dot]
    simp
  exact absurd hdot (by decide)

end IPv4Address

end Hiwis
