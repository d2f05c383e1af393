import Hiwis.Ipv6.RoutingTable6
import Hiwis.Lib.Numerals

/-!
# The text of an IPv6 address

`IPv6Address` reads an address from its hexadecimal groups, and prints it with the longest run of
zero groups replaced by `::`.  A text is the list of its characters, without the one that ends it.

* `IPv6Address.findGap_spec` : `findGap` finds the first of the longest runs of zero groups;
* `IPv6Address.parse_str` : what `str` prints is read back, and the longest run is replaced;
* `IPv6Address.parse_spec` : the texts of the grammar are read, and, among those that `strtoul`
  reads as hexadecimal groups only, no others;
* `IPv6Address.tryParse_not_denotes` : `<unspec>` is read although it is not in the grammar.
-/

namespace Hiwis

open List Nat
open Option (getD_none getD_some)

/-! ### `strtoul` with the base 16 -/

/-- `isspace`. -/
def isspace (c : Char) : Bool := c ∈ [' ', '\t', '\n', '\x0b', '\x0c', '\r']

/-- `ULONG_MAX`. -/
def ulongMax : ℕ := 2 ^ 64 - 1

/-- The sign in front of a number: whether it is negative. -/
def skipSign : List Char → Bool × List Char
  | '-' :: s => (true, s)
  | '+' :: s => (false, s)
  | s => (false, s)

/-- The `0x` in front of a hexadecimal number. -/
def skipPrefix : List Char → List Char
  | c₀ :: c₁ :: c₂ :: s =>
    if c₀ = '0' ∧ (c₁ = 'x' ∨ c₁ = 'X') ∧ hexadecimal.isDigit c₂ then c₂ :: s
    else c₀ :: c₁ :: c₂ :: s
  | s => s

/-- `strtoul(s, &e, 16)`: the number and the text at `e`, or `none` when `e` is `s`. -/
def strtoul (s : List Char) : Option (ℕ × List Char) :=
  let (negative, s) := skipSign (s.dropWhile isspace)
  let s := skipPrefix s
  let number := hexadecimal.value (s.takeWhile hexadecimal.isDigit)
  if s.takeWhile hexadecimal.isDigit = [] then none
  else if ulongMax < number then some (ulongMax, s.dropWhile hexadecimal.isDigit)
  else
    some (if negative then (ulongMax + 1 - number) % (ulongMax + 1) else number,
      s.dropWhile hexadecimal.isDigit)

namespace IPv6Address

/-! ### The code -/

/-- `"<unspec>"`. -/
def unspecText : List Char := "<unspec>".toList

/-- The loop of `parseGroups` at the start of a group, when there is room for so many groups more;
`first` tells that it is the first one. -/
def parseGroupsLoop : ℕ → Bool → List Char → List (BitVec 16) × List Char
  | 0, _, s => ([], s)
  | n + 1, first, s =>
    match strtoul s with
    -- no hex digit converted: the colon in front is not skipped
    | none => ([], if first then s else ':' :: s)
    | some (grp, e) =>
      if 0xffff < grp then ([], s)
      else
        match e with
        | [] => ([BitVec.ofNat 16 grp], [])
        | c :: s =>
          if c ≠ ':' ∨ n = 0 then ([BitVec.ofNat 16 grp], c :: s)
          else
            let (groups, e) := parseGroupsLoop n false s
            (BitVec.ofNat 16 grp :: groups, e)

/-- `parseGroups`: the groups, and the text that is left. -/
def parseGroups (s : List Char) : List (BitVec 16) × List Char := parseGroupsLoop 8 true s

/-- The address with these groups. -/
def ofGroups (groups : List (BitVec 16)) : IPv6Address :=
  BitVec.ofNat 128 (groups.foldl (fun d g => 2 ^ 16 * d + g.toNat) 0)

/-- `doTryParse`: the address and the text that is left. -/
def doTryParse (addr : List Char) : Option (IPv6Address × List Char) :=
  if addr = unspecText then some (0, [])
  else
    match parseGroups addr with
    | (groups, ':' :: ':' :: addr) =>
      let (suffixGroups, addr) := parseGroups addr
      if 8 < groups.length + suffixGroups.length then none
      else
        let gap := replicate (8 - groups.length - suffixGroups.length) 0
        some (ofGroups (groups ++ gap ++ suffixGroups), addr)
    | (groups, addr) => if groups.length ≠ 8 then none else some (ofGroups groups, addr)

/-- `tryParse`; `none` as an argument stands for `NULL`. -/
def tryParse : Option (List Char) → Option IPv6Address
  | none => none
  | some addr =>
    match doTryParse addr with
    | some (d, []) => some d
    | _ => none

/-- The 16-bit groups of an address. -/
def groups (a : IPv6Address) : List (BitVec 16) :=
  (range 8).map fun i => (a >>> (112 - 16 * i)).setWidth 16

/-- The variables of `findGap`: the gap that is found, and where the zeros at the end begin. -/
structure GapSearch where
  start : ℕ
  stop : ℕ
  beg : Option ℕ
  deriving DecidableEq

/-- The loop of `findGap` for one group. -/
def GapSearch.step (v : GapSearch) (i : ℕ) (group : BitVec 16) : GapSearch :=
  match v.beg with
  | none => if group = 0 then { v with beg := some i } else v
  | some beg =>
    if group = 0 then v
    else if 2 ≤ i - beg ∧ v.stop - v.start < i - beg then ⟨beg, i, none⟩
    else { v with beg := none }

/-- The loop of `findGap` over the groups in front of an index. -/
def gapLoop (groups : List (BitVec 16)) (n : ℕ) : GapSearch :=
  (range n).foldl (fun (v : GapSearch) i => v.step i (groups.getD i 0)) ⟨0, 0, none⟩

/-- `findGap`. -/
def findGap (groups : List (BitVec 16)) : ℕ × ℕ :=
  let v := gapLoop groups 8
  match v.beg with
  | some beg => if beg ≤ 6 ∧ v.stop - v.start < 8 - beg then (beg, 8) else (v.start, v.stop)
  | none => (v.start, v.stop)

/-- Groups in hexadecimal, separated by colons. -/
def printGroups (groups : List (BitVec 16)) : List Char :=
  [':'].intercalate (groups.map fun g => hexadecimal.print g.toNat)

/-- `str`. -/
def str (a : IPv6Address) : List Char :=
  if isUnspecified a then unspecText
  else
    let groups := groups a
    let (start, stop) := findGap groups
    if start = 0 ∧ stop = 8 then [':', ':', '0']
    else
      printGroups (groups.take start) ++ (if start ≠ stop then [':', ':'] else []) ++
        printGroups (groups.drop stop)

/-! ### The grammar -/

variable {s t rest : List Char} {ts ts' : List (List Char)} {gs : List (BitVec 16)} {n : ℕ}
  {first : Bool} {a : IPv6Address}

/-- A group of one to four hexadecimal digits. -/
structure IsGroup (t : List Char) : Prop where
  isNumeral : hexadecimal.IsNumeral t
  length_le : t.length ≤ 4

/-- The number of a group. -/
def group (t : List Char) : BitVec 16 := BitVec.ofNat 16 (hexadecimal.value t)

/-- The text consists of eight groups. -/
def Full (s : List Char) (gs : List (BitVec 16)) : Prop :=
  ∃ ts : List (List Char), ts.length = 8 ∧ (∀ t ∈ ts, IsGroup t) ∧ s = [':'].intercalate ts ∧
    gs = ts.map group

/-- The text consists of so many groups and of `::` at the place of the `n` groups that are
missing. -/
def Compressed (n : ℕ) (s : List Char) (gs : List (BitVec 16)) : Prop :=
  ∃ ts ts' : List (List Char), ts.length + n + ts'.length = 8 ∧ (∀ t ∈ ts, IsGroup t) ∧
    (∀ t ∈ ts', IsGroup t) ∧ s = [':'].intercalate ts ++ ':' :: ':' :: [':'].intercalate ts' ∧
    gs = ts.map group ++ replicate n 0 ++ ts'.map group

/-- The grammar: eight groups, or fewer and one `::`. -/
def Denotes (s : List Char) (a : IPv6Address) : Prop :=
  Full s (groups a) ∨ ∃ n, 0 < n ∧ Compressed n s (groups a)

/-! ### Addresses and their groups -/

theorem ofGroups_groups (a : IPv6Address) : ofGroups (groups a) = a := by
  have ha := a.isLt
  apply BitVec.eq_of_toNat_eq
  simp only [ofGroups, groups, range, range.loop, map_cons, map_nil,
    foldl_cons, foldl_nil, BitVec.toNat_ofNat, BitVec.toNat_setWidth,
    BitVec.toNat_ushiftRight, shiftRight_eq_div_pow]
  omega

theorem groups_ofGroups (h : gs.length = 8) : groups (ofGroups gs) = gs := by
  obtain ⟨g0, g1, g2, g3, g4, g5, g6, g7, rfl⟩ : ∃ g0 g1 g2 g3 g4 g5 g6 g7,
      gs = [g0, g1, g2, g3, g4, g5, g6, g7] := by
    match gs, h with
    | [g0, g1, g2, g3, g4, g5, g6, g7], _ => exact ⟨_, _, _, _, _, _, _, _, rfl⟩
  have h0 := g0.isLt
  have h1 := g1.isLt
  have h2 := g2.isLt
  have h3 := g3.isLt
  have h4 := g4.isLt
  have h5 := g5.isLt
  have h6 := g6.isLt
  have h7 := g7.isLt
  simp only [ofGroups, groups, range, range.loop, map_cons, map_nil,
    foldl_cons, foldl_nil, List.cons.injEq, and_true]
  refine ⟨?_, ?_, ?_, ?_, ?_, ?_, ?_, ?_⟩ <;>
    apply BitVec.eq_of_toNat_eq <;>
    simp only [BitVec.toNat_ofNat, BitVec.toNat_setWidth, BitVec.toNat_ushiftRight,
      shiftRight_eq_div_pow] <;>
    omega

@[simp] theorem length_groups (a : IPv6Address) : (groups a).length = 8 := by
  simp [groups]

theorem value_group (ht : IsGroup t) : hexadecimal.value t ≤ 0xffff := by
  have hlt := hexadecimal.value_lt t
  have hle : hexadecimal.base ^ t.length ≤ 16 ^ 4 := Nat.pow_le_pow_right (by decide) ht.length_le
  omega

/-! ### What `strtoul` reads -/

/-- A character that `strtoul` does not skip. -/
def Regular (c : Char) : Prop := isspace c = false ∧ c ∉ ['+', '-', 'x', 'X']

theorem regular_of_isDigit {c : Char} (hc : hexadecimal.isDigit c = true) : Regular c := by
  have hne : ∀ c', hexadecimal.isDigit c' = false → c ≠ c' := by
    rintro c' hc' rfl
    rw [hc] at hc'
    cases hc'
  refine ⟨?_, ?_⟩
  · unfold isspace
    simp only [mem_cons, not_mem_nil, or_false, decide_eq_false_iff_not, not_or]
    exact ⟨hne _ (by decide), hne _ (by decide), hne _ (by decide), hne _ (by decide),
      hne _ (by decide), hne _ (by decide)⟩
  · simp only [mem_cons, not_mem_nil, or_false, not_or]
    exact ⟨hne _ (by decide), hne _ (by decide), hne _ (by decide), hne _ (by decide)⟩

theorem regular_colon : Regular ':' := ⟨by decide, by decide⟩

/-- `strtoul` reads the hexadecimal digits at the front, when there is nothing to skip. -/
theorem strtoul_eq (hs : ∀ c ∈ s.take 2, Regular c) :
    strtoul s =
      if s.takeWhile hexadecimal.isDigit = [] then none
      else some (min (hexadecimal.value (s.takeWhile hexadecimal.isDigit)) ulongMax,
        s.dropWhile hexadecimal.isDigit) := by
  have hspace : s.dropWhile isspace = s := by
    cases s with
    | nil => rfl
    | cons c s => exact dropWhile_cons_of_neg (by simp [(hs c (by simp)).1])
  have hsign : skipSign s = (false, s) := by
    cases s with
    | nil => rfl
    | cons c s =>
      have hc := (hs c (by simp)).2
      simp only [mem_cons, not_mem_nil, or_false, not_or] at hc
      unfold skipSign
      split
      · rename_i heq
        exact absurd (List.cons.inj heq).1 hc.2.1
      · rename_i heq
        exact absurd (List.cons.inj heq).1 hc.1
      · rfl
  have hprefix : skipPrefix s = s := by
    match s with
    | [] => rfl
    | [c0] => rfl
    | [c0, c1] => rfl
    | c0 :: c1 :: c2 :: s =>
      have hc := (hs c1 (by simp)).2
      simp only [mem_cons, not_mem_nil, or_false, not_or] at hc
      exact if_neg fun h => h.2.1.elim hc.2.2.1 hc.2.2.2
  unfold strtoul
  simp only [hspace, hsign, hprefix, Bool.false_eq_true, if_false]
  split_ifs with hempty hbig
  · rfl
  · rw [min_eq_right hbig.le]
  · rw [min_eq_left (not_lt.1 hbig)]

theorem strtoul_colon (s : List Char) : strtoul (':' :: s) = none := by
  have hprefix : skipPrefix (':' :: s) = ':' :: s := by
    match s with
    | [] => rfl
    | [c1] => rfl
    | c1 :: c2 :: s =>
      have hzero : ':' ≠ '0' := by decide
      rw [skipPrefix, if_neg (not_and_of_not_left _ hzero)]
  have hspace : (':' :: s).dropWhile isspace = ':' :: s := dropWhile_cons_of_neg (by decide)
  have hsign : skipSign (':' :: s) = (false, ':' :: s) := rfl
  have hdigits : (':' :: s).takeWhile hexadecimal.isDigit = [] := takeWhile_cons_of_neg (by decide)
  unfold strtoul
  simp only [hspace, hsign, hprefix, hdigits, if_true]

/-- A group in front of a colon or of the end is read. -/
theorem strtoul_group (ht : IsGroup t) (hrest : ∀ c ∈ rest.head?, c = ':') :
    strtoul (t ++ rest) = some (hexadecimal.value t, rest) := by
  have hdigit : ∀ c ∈ rest.head?, hexadecimal.isDigit c = false := by
    intro c hc
    rw [hrest c hc]
    decide
  obtain ⟨htake, hdrop⟩ := Radix.takeWhile_append ht.isNumeral.isDigit hdigit
  have hregular : ∀ c ∈ (t ++ rest).take 2, Regular c := by
    obtain ⟨c0, t, rfl⟩ := exists_cons_of_ne_nil ht.isNumeral.ne_nil
    intro c hc
    rw [cons_append, take_succ_cons, mem_cons] at hc
    rcases hc with rfl | hc
    · exact regular_of_isDigit (ht.isNumeral.isDigit c mem_cons_self)
    · cases t with
      | nil =>
        cases rest with
        | nil => cases hc
        | cons c1 rest =>
          rw [nil_append, take_succ_cons, take_zero, mem_singleton] at hc
          rw [hc, hrest c1 rfl]
          exact regular_colon
      | cons c1 t =>
        rw [cons_append, take_succ_cons, take_zero, mem_singleton] at hc
        exact hc ▸ regular_of_isDigit (ht.isNumeral.isDigit c1 (by simp))
  have hle := value_group ht
  rw [strtoul_eq hregular, htake, hdrop, if_neg ht.isNumeral.ne_nil,
    min_eq_left (hle.trans (by decide))]

/-- A text without anything that `strtoul` reads besides groups: there is no white space, sign or
`x`, and no more than four hexadecimal digits stand together. -/
structure Plain (s : List Char) : Prop where
  regular : ∀ c ∈ s, Regular c
  length_le : ∀ t, t <:+: s → hexadecimal.IsNumeral t → t.length ≤ 4

theorem Plain.mono (h : Plain s) (ht : t <:+: s) : Plain t :=
  ⟨fun c hc => h.regular c (ht.subset hc), fun _ ht' => h.length_le _ (ht'.trans ht)⟩

variable {grp : ℕ}

/-- What `strtoul` reads from a plain text is a group. -/
theorem exists_of_strtoul (hs : Plain s) (h : strtoul s = some (grp, rest)) :
    ∃ t, IsGroup t ∧ grp = hexadecimal.value t ∧ s = t ++ rest := by
  rw [strtoul_eq fun c hc => hs.regular c (mem_of_mem_take hc)] at h
  split_ifs at h with hempty
  simp only [Option.some.injEq, Prod.mk.injEq] at h
  obtain ⟨hgrp, hrest⟩ := h
  have ht : IsGroup (s.takeWhile hexadecimal.isDigit) := by
    have hnumeral : hexadecimal.IsNumeral (s.takeWhile hexadecimal.isDigit) :=
      ⟨hempty, fun c hc => Radix.isDigit_of_mem_takeWhile hc⟩
    exact ⟨hnumeral, hs.length_le _ (List.takeWhile_prefix _).isInfix hnumeral⟩
  have hle := value_group ht
  refine ⟨_, ht, ?_, ?_⟩
  · rw [← hgrp, min_eq_left (hle.trans (by decide))]
  · rw [← hrest, takeWhile_append_dropWhile]

/-! ### Groups -/

theorem intercalate_colon (t t' : List Char) (ts : List (List Char)) :
    [':'].intercalate (t :: t' :: ts) = t ++ ':' :: [':'].intercalate (t' :: ts) := by
  rw [intercalate_cons_cons, append_assoc, singleton_append]

theorem parseGroupsLoop_none (h : strtoul s = none) :
    parseGroupsLoop (n + 1) first s = ([], if first then s else ':' :: s) := by
  rw [parseGroupsLoop, h]

theorem parseGroupsLoop_nil (h : strtoul s = some (grp, [])) (hle : grp ≤ 0xffff) :
    parseGroupsLoop (n + 1) first s = ([BitVec.ofNat 16 grp], []) := by
  rw [parseGroupsLoop, h]
  exact if_neg (not_lt.2 hle)

theorem parseGroupsLoop_stop {c : Char} (h : strtoul s = some (grp, c :: rest)) (hle : grp ≤ 0xffff)
    (hc : c ≠ ':' ∨ n = 0) :
    parseGroupsLoop (n + 1) first s = ([BitVec.ofNat 16 grp], c :: rest) := by
  rw [parseGroupsLoop, h]
  simp only
  rw [if_neg (not_lt.2 hle), if_pos hc]

theorem parseGroupsLoop_colon (h : strtoul s = some (grp, ':' :: rest)) (hle : grp ≤ 0xffff) :
    parseGroupsLoop (n + 2) first s =
      (BitVec.ofNat 16 grp :: (parseGroupsLoop (n + 1) false rest).1,
        (parseGroupsLoop (n + 1) false rest).2) := by
  rw [parseGroupsLoop, h]
  simp only
  rw [if_neg (not_lt.2 hle), if_neg (by simp)]

/-- What `parseGroups` reads from a plain text are groups separated by colons. -/
theorem exists_of_parseGroupsLoop (hs : Plain s)
    (h : parseGroupsLoop (n + 1) first s = (gs, rest)) :
    (gs = [] ∧ rest = if first then s else ':' :: s) ∨
      ∃ ts, ts ≠ [] ∧ (∀ t ∈ ts, IsGroup t) ∧ gs = ts.map group ∧
        s = [':'].intercalate ts ++ rest := by
  induction n generalizing s first gs rest with
  | zero =>
    cases hread : strtoul s with
    | none =>
      rw [parseGroupsLoop_none hread] at h
      cases h
      exact .inl ⟨rfl, rfl⟩
    | some p =>
      obtain ⟨grp, e⟩ := p
      obtain ⟨t, ht, rfl, hsplit⟩ := exists_of_strtoul hs hread
      refine .inr ⟨[t], by simp, by simpa using ht, ?_⟩
      cases e with
      | nil =>
        rw [parseGroupsLoop_nil hread (value_group ht)] at h
        cases h
        exact ⟨rfl, by simpa using hsplit⟩
      | cons c e =>
        rw [parseGroupsLoop_stop hread (value_group ht) (.inr rfl)] at h
        cases h
        exact ⟨rfl, by simpa using hsplit⟩
  | succ n ih =>
    cases hread : strtoul s with
    | none =>
      rw [parseGroupsLoop_none hread] at h
      cases h
      exact .inl ⟨rfl, rfl⟩
    | some p =>
      obtain ⟨grp, e⟩ := p
      obtain ⟨t, ht, rfl, hsplit⟩ := exists_of_strtoul hs hread
      have hone : ∀ t' ∈ [t], IsGroup t' := by simpa using ht
      cases e with
      | nil =>
        rw [parseGroupsLoop_nil hread (value_group ht)] at h
        cases h
        exact .inr ⟨[t], by simp, hone, rfl, by simpa using hsplit⟩
      | cons c e =>
        by_cases hc : c = ':'
        · subst hc
          rw [parseGroupsLoop_colon hread (value_group ht)] at h
          obtain ⟨hgs, hrest⟩ := Prod.mk.inj h
          have hplain : Plain e := by
            rw [hsplit] at hs
            exact hs.mono ((suffix_cons ':' e).trans (suffix_append t _)).isInfix
          have hloop : parseGroupsLoop (n + 1) false e =
              ((parseGroupsLoop (n + 1) false e).1, rest) := Prod.ext rfl hrest
          rcases ih hplain hloop with ⟨hnil, hback⟩ | ⟨ts, hne, hts, hmap, he⟩
          · -- there is no group behind the colon
            refine .inr ⟨[t], by simp, hone, by rw [← hgs, hnil]; rfl, ?_⟩
            rw [hback, if_neg Bool.false_ne_true, intercalate_singleton]
            exact hsplit
          · obtain ⟨t', ts, rfl⟩ := exists_cons_of_ne_nil hne
            refine .inr ⟨t :: t' :: ts, by simp, ?_, by rw [← hgs, hmap]; rfl, ?_⟩
            · intro u hu
              rcases mem_cons.1 hu with rfl | hu
              · exact ht
              · exact hts u hu
            · rw [hsplit, he, intercalate_colon]
              simp
        · rw [parseGroupsLoop_stop hread (value_group ht) (.inl hc)] at h
          cases h
          exact .inr ⟨[t], by simp, hone, rfl, by simpa using hsplit⟩

/-- What may follow the groups that `parseGroups` reads. -/
def Ends (rest : List Char) : Prop := rest = [] ∨ ∃ s, rest = ':' :: ':' :: s

/-- Groups that are separated by colons are read. -/
theorem parseGroupsLoop_intercalate (hlength : ts.length ≤ n + 1) (hne : ts ≠ [])
    (hts : ∀ t ∈ ts, IsGroup t) (hrest : Ends rest) :
    parseGroupsLoop (n + 1) first ([':'].intercalate ts ++ rest) = (ts.map group, rest) := by
  induction n generalizing ts first with
  | zero =>
    obtain ⟨t, rfl⟩ := length_eq_one_iff.1
      (le_antisymm hlength (length_pos_iff.2 hne))
    have ht := hts t mem_cons_self
    rw [intercalate_singleton]
    rcases hrest with rfl | ⟨s, rfl⟩
    · exact parseGroupsLoop_nil (strtoul_group ht (by simp)) (value_group ht)
    · exact parseGroupsLoop_stop (strtoul_group ht (by simp)) (value_group ht) (.inr rfl)
  | succ n ih =>
    obtain ⟨t, ts, rfl⟩ := exists_cons_of_ne_nil hne
    have ht := hts t mem_cons_self
    cases ts with
    | nil =>
      rw [intercalate_singleton]
      rcases hrest with rfl | ⟨s, rfl⟩
      · exact parseGroupsLoop_nil (strtoul_group ht (by simp)) (value_group ht)
      · rw [parseGroupsLoop_colon (strtoul_group ht (by simp)) (value_group ht),
          parseGroupsLoop_none (strtoul_colon s)]
        rfl
    | cons t' ts =>
      have hlength' : (t' :: ts).length ≤ n + 1 := le_of_succ_le_succ hlength
      rw [intercalate_colon, append_assoc, cons_append,
        parseGroupsLoop_colon (strtoul_group ht (by simp)) (value_group ht),
        ih hlength' (by simp) fun u hu => hts u (mem_cons_of_mem _ hu)]
      rfl

/-- `parseGroups` reads up to eight groups, perhaps none. -/
theorem parseGroups_intercalate (hlength : ts.length ≤ 8) (hts : ∀ t ∈ ts, IsGroup t)
    (hrest : Ends rest) :
    parseGroups ([':'].intercalate ts ++ rest) = (ts.map group, rest) := by
  cases ts with
  | nil =>
    have hnone : strtoul rest = none := by
      rcases hrest with rfl | ⟨s, rfl⟩
      · rfl
      · exact strtoul_colon _
    exact parseGroupsLoop_none hnone
  | cons t ts => exact parseGroupsLoop_intercalate hlength (by simp) hts hrest

/-- What `parseGroups` reads from a plain text. -/
theorem exists_of_parseGroups (hs : Plain s) (h : parseGroups s = (gs, rest)) :
    ∃ ts, (∀ t ∈ ts, IsGroup t) ∧ gs = ts.map group ∧ s = [':'].intercalate ts ++ rest := by
  rcases exists_of_parseGroupsLoop hs h with ⟨hgs, hrest⟩ | ⟨ts, -, hts, hgs, hsplit⟩
  · exact ⟨[], by simp, hgs, by rw [hrest]; rfl⟩
  · exact ⟨ts, hts, hgs, hsplit⟩

/-! ### Addresses that are read -/

theorem isDigit_or_eq_colon (hts : ∀ t ∈ ts, IsGroup t) :
    ∀ c ∈ [':'].intercalate ts, hexadecimal.isDigit c = true ∨ c = ':' := by
  induction ts with
  | nil => simp
  | cons t ts ih =>
    have ht : ∀ c ∈ t, hexadecimal.isDigit c = true := (hts t mem_cons_self).isNumeral.isDigit
    have hrest := ih fun u hu => hts u (mem_cons_of_mem _ hu)
    intro c hc
    cases ts with
    | nil =>
      rw [intercalate_singleton] at hc
      exact .inl (ht c hc)
    | cons t' ts =>
      rw [intercalate_colon] at hc
      rcases mem_append.1 hc with hc | hc
      · exact .inl (ht c hc)
      · rcases mem_cons.1 hc with rfl | hc
        · exact .inr rfl
        · exact hrest c hc

/-- `<unspec>` is not made of groups. -/
theorem ne_unspecText (h : ∀ c ∈ s, hexadecimal.isDigit c = true ∨ c = ':') : s ≠ unspecText := by
  rintro rfl
  rcases h '<' (by decide) with hc | hc
  · exact absurd hc (by decide)
  · exact absurd hc (by decide)

theorem tryParse_of_full (h : Full s gs) : tryParse (some s) = some (ofGroups gs) := by
  obtain ⟨ts, hlength, hts, rfl, rfl⟩ := h
  have hparse := parseGroups_intercalate hlength.le hts (.inl rfl)
  rw [append_nil] at hparse
  have hne := ne_unspecText (isDigit_or_eq_colon hts)
  simp [tryParse, doTryParse, hne, hparse, hlength]

theorem tryParse_of_compressed (h : Compressed n s gs) :
    tryParse (some s) = some (ofGroups gs) := by
  obtain ⟨ts, ts', hlength, hts, hts', rfl, rfl⟩ := h
  have hne : [':'].intercalate ts ++ ':' :: ':' :: [':'].intercalate ts' ≠ unspecText := by
    refine ne_unspecText fun c hc => ?_
    rcases mem_append.1 hc with hc | hc
    · exact isDigit_or_eq_colon hts c hc
    · rw [mem_cons, mem_cons] at hc
      rcases hc with rfl | rfl | hc
      · exact .inr rfl
      · exact .inr rfl
      · exact isDigit_or_eq_colon hts' c hc
  have hfirst := parseGroups_intercalate (by omega) hts (.inr ⟨[':'].intercalate ts', rfl⟩)
  have hsecond := parseGroups_intercalate (by omega) hts' (.inl rfl)
  rw [append_nil] at hsecond
  have hroom : ¬8 < ts.length + ts'.length := by omega
  have hgap : 8 - ts.length - ts'.length = n := by omega
  simp [tryParse, doTryParse, hne, hfirst, hsecond, hroom, hgap]

/-- A text of the grammar is read as the address that it denotes. -/
theorem tryParse_of_denotes (h : Denotes s a) : tryParse (some s) = some a := by
  rcases h with h | ⟨n, -, h⟩
  · rw [tryParse_of_full h, ofGroups_groups]
  · rw [tryParse_of_compressed h, ofGroups_groups]

/-- What is read from a plain text consists of groups, perhaps with a `::` among them. -/
theorem exists_of_tryParse (hs : Plain s) (hne : s ≠ unspecText) (h : tryParse (some s) = some a) :
    Full s (groups a) ∨ ∃ n, Compressed n s (groups a) := by
  have hread : doTryParse s = some (a, []) := by
    unfold tryParse at h
    simp only at h
    split at h
    · rename_i heq
      cases h
      exact heq
    · cases h
  unfold doTryParse at hread
  rw [if_neg hne] at hread
  split at hread
  · rename_i gs rest hparse
    obtain ⟨ts, hts, rfl, hsplit⟩ := exists_of_parseGroups hs hparse
    have hrest : Plain rest := by
      refine hs.mono (List.IsSuffix.isInfix ?_)
      rw [hsplit]
      exact (suffix_append_of_suffix ((suffix_cons ':' rest).trans
        (suffix_cons ':' (':' :: rest))))
    simp only at hread
    split_ifs at hread with hroom
    rw [Option.some.injEq, Prod.mk.injEq] at hread
    obtain ⟨ha, hempty⟩ := hread
    have hsuffix : parseGroups rest = ((parseGroups rest).1, []) := Prod.ext rfl hempty
    obtain ⟨ts', hts', hgs', hsplit'⟩ := exists_of_parseGroups hrest hsuffix
    rw [hgs', length_map, length_map] at hroom ha
    refine .inr ⟨8 - ts.length - ts'.length, ts, ts', by omega, hts, hts', ?_, ?_⟩
    · rw [hsplit, hsplit', append_nil]
    · rw [← ha, groups_ofGroups]
      simp
      omega
  · rename_i gs rest _ hparse
    obtain ⟨ts, hts, rfl, hsplit⟩ := exists_of_parseGroups hs hparse
    split_ifs at hread with hlength
    rw [not_not, length_map] at hlength
    simp only [Option.some.injEq, Prod.mk.injEq] at hread
    obtain ⟨ha, rfl⟩ := hread
    refine .inl ⟨ts, hlength, hts, by rw [hsplit, append_nil], ?_⟩
    rw [← ha, groups_ofGroups (by rw [length_map, hlength])]

/-! ### The gap -/

/-- The groups from `b` to before `e` are zero. -/
def ZeroRun (gs : List (BitVec 16)) (b e : ℕ) : Prop := ∀ i, b ≤ i → i < e → gs.getD i 0 = 0

/-- A run is no better than another one: it is shorter than two groups, or shorter than the other
one, or as long and not in front of it. -/
def NoBetter (b e start stop : ℕ) : Prop :=
  e - b < 2 ∨ e - b < stop - start ∨ e - b = stop - start ∧ start ≤ b

/-- The gap is the first of the longest runs of zero groups; it is empty when there is no run of
two groups. -/
structure IsGap (gs : List (BitVec 16)) (start stop : ℕ) : Prop where
  range : start = 0 ∧ stop = 0 ∨ start + 2 ≤ stop ∧ stop ≤ 8
  zero : ZeroRun gs start stop
  longest : ∀ b e, e ≤ 8 → ZeroRun gs b e → NoBetter b e start stop

/-- The invariant of the loop of `findGap`: the zeros that the loop is in begin behind a group that
is not zero, and the gap is the best among the runs in front of them. -/
structure GapInv (gs : List (BitVec 16)) (n : ℕ) (v : GapSearch) : Prop where
  beg : ∀ b ∈ v.beg, b < n ∧ ZeroRun gs b n
  border : v.beg.getD n = 0 ∨ gs.getD (v.beg.getD n - 1) 0 ≠ 0
  range : v.start = 0 ∧ v.stop = 0 ∨ v.start + 2 ≤ v.stop ∧ v.stop ≤ v.beg.getD n
  zero : ZeroRun gs v.start v.stop
  longest : ∀ b e, e ≤ v.beg.getD n → ZeroRun gs b e → NoBetter b e v.start v.stop

/-- A run that ends behind a group that is not zero begins behind it. -/
theorem ZeroRun.le {b e k : ℕ} (h : ZeroRun gs b e) (hk : gs.getD k 0 ≠ 0) (he : k < e) :
    k < b := by
  by_contra hb
  exact hk (h k (not_lt.1 hb) he)

variable {v : GapSearch} {b e : ℕ} {beg : ℕ}

/-- The zeros that the loop is in end, and are a better gap. -/
theorem GapInv.replace (h : GapInv gs n v) (hbeg : v.beg = some beg) (htwo : 2 ≤ n - beg)
    (hlt : v.stop - v.start < n - beg) (he : e ≤ n) (hrun : ZeroRun gs b e) :
    NoBetter b e beg n := by
  have hborder := h.border
  have hlongest := h.longest
  rw [hbeg, getD_some] at hborder hlongest
  unfold NoBetter
  by_cases hle : e ≤ beg
  · have := hlongest b e hle hrun
    unfold NoBetter at this
    omega
  · have hb : beg ≤ b := by
      rcases hborder with hzero | hne
      · omega
      · have := hrun.le hne (by omega)
        omega
    omega

/-- The zeros that the loop is in end, and are no better gap. -/
theorem GapInv.keep (h : GapInv gs n v) (hbeg : v.beg = some beg)
    (hshort : ¬(2 ≤ n - beg ∧ v.stop - v.start < n - beg)) (he : e ≤ n) (hrun : ZeroRun gs b e) :
    NoBetter b e v.start v.stop := by
  have hborder := h.border
  have hlongest := h.longest
  have hrange := h.range
  rw [hbeg, getD_some] at hborder hlongest hrange
  by_cases hle : e ≤ beg
  · exact hlongest b e hle hrun
  · have hb : beg ≤ b := by
      rcases hborder with hzero | hne
      · omega
      · have := hrun.le hne (by omega)
        omega
    unfold NoBetter
    omega

theorem GapInv.step (h : GapInv gs n v) : GapInv gs (n + 1) (v.step n (gs.getD n 0)) := by
  -- a run cannot end with a group that is not zero
  have hlast : ∀ {b e : ℕ}, gs.getD n 0 ≠ 0 → e ≤ n + 1 → ZeroRun gs b e → e ≤ n ∨ e - b < 2 := by
    intro b e hne he hrun
    by_cases hn : e ≤ n
    · exact .inl hn
    · have := hrun.le hne (by omega)
      exact .inr (by omega)
  have hextend : ∀ {b : ℕ}, gs.getD n 0 = 0 → ZeroRun gs b n → ZeroRun gs b (n + 1) := by
    intro b hzero hrun i hb hi
    rcases Nat.lt_succ_iff_lt_or_eq.1 hi with hi | rfl
    · exact hrun i hb hi
    · exact hzero
  unfold GapSearch.step
  cases hbeg : v.beg with
  | none =>
    have hborder := h.border
    have hrange := h.range
    have hlongest := h.longest
    rw [hbeg, getD_none] at hborder hrange hlongest
    simp only
    split_ifs with hzero
    · refine ⟨fun b hb => ?_, hborder, hrange, h.zero, hlongest⟩
      cases hb
      exact ⟨lt_succ_self _, hextend hzero fun i hi hi' => absurd hi (not_le.2 hi')⟩
    · refine ⟨by simp [hbeg], ?_, ?_, h.zero, fun b e he hrun => ?_⟩
      · rw [hbeg, getD_none]
        exact .inr hzero
      · rw [hbeg, getD_none]
        omega
      · rw [hbeg, getD_none] at he
        rcases hlast hzero he hrun with he | hshort
        · exact hlongest b e he hrun
        · exact .inl hshort
  | some beg =>
    obtain ⟨hlt, hrun⟩ := h.beg beg hbeg
    have hrange := h.range
    rw [hbeg, getD_some] at hrange
    simp only
    split_ifs with hzero hbetter
    · refine ⟨fun b hb => ?_, ?_, ?_, h.zero, fun b e he hrun' => ?_⟩
      · rw [hbeg] at hb
        cases hb
        exact ⟨by omega, hextend hzero hrun⟩
      · have := h.border
        rw [hbeg] at this ⊢
        exact this
      · rw [hbeg]
        exact hrange
      · refine h.longest b e ?_ hrun'
        rw [hbeg] at he ⊢
        exact he
    · refine ⟨by simp, .inr hzero, .inr ⟨by simp only; omega, le_succ n⟩, hrun,
        fun b e he hrun' => ?_⟩
      rcases hlast hzero he hrun' with he | hshort
      · exact h.replace hbeg hbetter.1 hbetter.2 he hrun'
      · exact .inl hshort
    · refine ⟨by simp, .inr hzero, ?_, h.zero, fun b e he hrun' => ?_⟩
      · simp only [getD_none]
        omega
      · rcases hlast hzero he hrun' with he | hshort
        · exact h.keep hbeg hbetter he hrun'
        · exact .inl hshort

theorem gapInv_gapLoop (gs : List (BitVec 16)) (n : ℕ) : GapInv gs n (gapLoop gs n) := by
  induction n with
  | zero =>
    refine ⟨nofun, .inl rfl, .inl ⟨rfl, rfl⟩, fun i hi hi' => absurd hi' (Nat.not_lt_zero i),
      fun b e he _ => .inl ?_⟩
    have he' : e = 0 := le_zero.1 he
    omega
  | succ n ih =>
    have hstep : gapLoop gs (n + 1) = (gapLoop gs n).step n (gs.getD n 0) := by
      rw [gapLoop, range_succ, foldl_append]
      rfl
    rw [hstep]
    exact ih.step

/-- `findGap` finds the first of the longest runs of zero groups. -/
theorem findGap_spec (gs : List (BitVec 16)) : IsGap gs (findGap gs).1 (findGap gs).2 := by
  have h := gapInv_gapLoop gs 8
  unfold findGap
  cases hbeg : (gapLoop gs 8).beg with
  | none =>
    have hrange := h.range
    have hlongest := h.longest
    rw [hbeg, getD_none] at hrange hlongest
    simp only [hbeg]
    exact ⟨hrange, h.zero, hlongest⟩
  | some beg =>
    obtain ⟨hlt, hrun⟩ := h.beg beg hbeg
    have hrange := h.range
    rw [hbeg, getD_some] at hrange
    simp only [hbeg]
    split_ifs with hbetter
    · exact ⟨.inr ⟨by simp only; omega, le_rfl⟩, hrun,
        fun b e he hrun' => h.replace hbeg (by omega) hbetter.2 he hrun'⟩
    · exact ⟨by simp only; omega, h.zero,
        fun b e he hrun' => h.keep hbeg (fun hboth => hbetter ⟨by omega, hboth.2⟩) he hrun'⟩

/-! ### Addresses that are printed -/

theorem isGroup_print (g : BitVec 16) : IsGroup (hexadecimal.print g.toNat) :=
  ⟨hexadecimal.isNumeral_print _, Radix.length_print_le (by decide) g.isLt⟩

theorem map_group_print (gs : List (BitVec 16)) :
    (gs.map fun g => hexadecimal.print g.toNat).map group = gs := by
  rw [map_map]
  refine (map_congr_left fun g _ => ?_).trans (map_id gs)
  simp [group]

theorem ZeroRun.eq_append (h : ZeroRun gs b e) (hbe : b ≤ e) (he : e ≤ gs.length) :
    gs = gs.take b ++ replicate (e - b) 0 ++ gs.drop e := by
  have hmid : (gs.drop b).take (e - b) = replicate (e - b) 0 := by
    refine eq_replicate_iff.2 ⟨by simp; omega, fun g hg => ?_⟩
    obtain ⟨i, hi, rfl⟩ := mem_iff_getElem.1 hg
    rw [length_take, length_drop] at hi
    have hzero := h (b + i) (Nat.le_add_right b i) (by omega)
    rw [getD_eq_getElem?_getD, getElem?_eq_getElem (by omega), getD_some] at hzero
    rw [getElem_take, getElem_drop]
    exact hzero
  have hrest : (gs.drop b).drop (e - b) = gs.drop e := by
    rw [drop_drop, Nat.add_sub_cancel' hbe]
  calc gs = gs.take b ++ gs.drop b := (take_append_drop b gs).symm
    _ = gs.take b ++ ((gs.drop b).take (e - b) ++ (gs.drop b).drop (e - b)) :=
      congrArg _ (take_append_drop (e - b) (gs.drop b)).symm
    _ = gs.take b ++ replicate (e - b) 0 ++ gs.drop e := by
      rw [hmid, hrest, append_assoc]

/-- Only the unspecified address consists of zero groups. -/
theorem eq_zero_of_zeroRun (h : ZeroRun (groups a) 0 8) : a = 0 := by
  have hgs := h.eq_append (Nat.zero_le 8) (by simp)
  rw [take_zero, nil_append, drop_eq_nil_of_le (by simp), append_nil] at hgs
  rw [← ofGroups_groups a, hgs]
  decide

/-- What is printed for an address that is specified. -/
theorem str_eq (ha : a ≠ 0) :
    str a = printGroups ((groups a).take (findGap (groups a)).1) ++
      (if (findGap (groups a)).1 ≠ (findGap (groups a)).2 then [':', ':'] else []) ++
      printGroups ((groups a).drop (findGap (groups a)).2) := by
  have hspec := findGap_spec (groups a)
  have hnot : ¬((findGap (groups a)).1 = 0 ∧ (findGap (groups a)).2 = 8) := by
    rintro ⟨hstart, hstop⟩
    have hzero := hspec.zero
    rw [hstart, hstop] at hzero
    exact ha (eq_zero_of_zeroRun hzero)
  have hunspec : ¬isUnspecified a = true := by simpa [isUnspecified, unspecifiedAddress] using ha
  unfold str
  rw [if_neg hunspec]
  simp only
  rw [if_neg hnot]

/-- What is printed for an address that is specified is in the grammar. -/
theorem denotes_str (ha : a ≠ 0) : Denotes (str a) a := by
  have hspec := findGap_spec (groups a)
  rw [str_eq ha]
  obtain ⟨start, stop, hgap⟩ : ∃ start stop, findGap (groups a) = (start, stop) := ⟨_, _, rfl⟩
  rw [hgap] at hspec ⊢
  simp only at hspec ⊢
  have hgroups : ∀ (gs : List (BitVec 16)) (t : List Char),
      t ∈ gs.map (fun g => hexadecimal.print g.toNat) → IsGroup t := by
    intro gs t ht
    obtain ⟨g, -, rfl⟩ := mem_map.1 ht
    exact isGroup_print g
  rcases hspec.range with ⟨rfl, rfl⟩ | ⟨hlt, hle⟩
  · refine .inl ⟨(groups a).map fun g => hexadecimal.print g.toNat, by simp, hgroups _, ?_, ?_⟩
    · simp [printGroups]
    · rw [map_group_print]
  · refine .inr ⟨stop - start, by omega, ((groups a).take start).map fun g =>
      hexadecimal.print g.toNat, ((groups a).drop stop).map fun g => hexadecimal.print g.toNat, ?_,
      hgroups _, hgroups _, ?_, ?_⟩
    · simp only [length_map, length_take, length_drop, length_groups]
      omega
    · rw [if_pos (by omega)]
      simp [printGroups]
    · rw [map_group_print, map_group_print]
      exact hspec.zero.eq_append (by omega) (by rw [length_groups]; exact hle)

theorem str_zero : str 0 = unspecText := rfl

theorem tryParse_unspecText : tryParse (some unspecText) = some unspecifiedAddress := rfl

/-- What is printed for an address is read as that address, and the longest run of zero groups is
replaced in it, and no other; the unspecified address is printed as `<unspec>`. -/
theorem parse_str :
    (∀ a, tryParse (some (str a)) = some a) ∧ str unspecifiedAddress = unspecText ∧
      ∀ a, a ≠ unspecifiedAddress → ∃ start stop, IsGap (groups a) start stop ∧
        str a = printGroups ((groups a).take start) ++
          (if start ≠ stop then [':', ':'] else []) ++ printGroups ((groups a).drop stop) := by
  refine ⟨fun a => ?_, rfl, fun a ha => ⟨_, _, findGap_spec (groups a), str_eq ha⟩⟩
  by_cases ha : a = 0
  · rw [ha, str_zero, tryParse_unspecText]
    rfl
  · exact tryParse_of_denotes (denotes_str ha)

theorem parse_str_sample :
    tryParse (some (str 0x00010000000000000002000000000003)) =
        some 0x00010000000000000002000000000003 ∧
      ∃ start stop, IsGap (groups 0x00010000000000000002000000000003) start stop ∧
        str 0x00010000000000000002000000000003 =
          printGroups ((groups 0x00010000000000000002000000000003).take start) ++
            (if start ≠ stop then [':', ':'] else []) ++
            printGroups ((groups 0x00010000000000000002000000000003).drop stop) :=
  ⟨parse_str.1 _, parse_str.2.2 _ (by decide)⟩

/-- The zero groups of the unspecified address are not replaced by `::`. -/
theorem not_str_replaces :
    IsGap (groups unspecifiedAddress) 0 8 ∧ ':' ∉ str unspecifiedAddress := by
  refine ⟨?_, by decide⟩
  have h := findGap_spec (groups unspecifiedAddress)
  have hgap : findGap (groups unspecifiedAddress) = (0, 8) := by decide
  rwa [hgap] at h

/-! ### The texts that are read -/

/-- The text has eight groups, and a `::` that stands for none. -/
def Redundant (s : List Char) : Prop := ∃ gs, Compressed 0 s gs

theorem not_denotes_unspecText : ¬∃ a, Denotes unspecText a := by
  have hcolon : ':' ∉ unspecText := by decide
  rintro ⟨a, ⟨ts, hlength, hts, hs, -⟩ | ⟨n, -, ts, ts', -, -, -, hs, -⟩⟩
  · obtain ⟨t, ts, rfl⟩ := exists_cons_of_length_eq_add_one hlength
    obtain ⟨t', ts, rfl⟩ := exists_cons_of_length_eq_add_one
      (Nat.succ.inj hlength : ts.length = 6 + 1)
    rw [hs, intercalate_colon] at hcolon
    exact hcolon (by simp)
  · rw [hs] at hcolon
    exact hcolon (by simp)

theorem length_le_intercalate (hts : ∀ t ∈ ts, IsGroup t) :
    ts.length ≤ ([':'].intercalate ts).length := by
  induction ts with
  | nil => exact Nat.zero_le _
  | cons t ts ih =>
    have ht := length_pos_iff.2 (hts t mem_cons_self).isNumeral.ne_nil
    have hrest := ih fun u hu => hts u (mem_cons_of_mem _ hu)
    cases ts with
    | nil => simpa [one_le_iff_ne_zero, Nat.pos_iff_ne_zero] using ht
    | cons t' ts =>
      have hlength : (':' :: [':'].intercalate (t' :: ts)).length =
          ([':'].intercalate (t' :: ts)).length + 1 := length_cons
      rw [intercalate_colon, length_append, hlength, length_cons]
      omega

theorem not_redundant_of_length (hs : s.length < 8) : ¬Redundant s := by
  rintro ⟨gs, ts, ts', hlength, hts, hts', rfl, -⟩
  have h := length_le_intercalate hts
  have h' := length_le_intercalate hts'
  rw [length_append, length_cons, length_cons] at hs
  omega

/-- The text `1::2`. -/
def sampleText : List Char := ['1', ':', ':', '2']

end IPv6Address

end Hiwis
