import Hiwis.Configurator.AssignAddresses

/-!
# The network of a group of interfaces

What step 3 of `assignAddresses` finds and what step 4 makes of it, for one group of interfaces.

* `IPv4NetworkConfigurator.collectLoop_spec` : the merged specification says what the templates of
  the compatible interfaces say;
* `IPv4NetworkConfigurator.findNetwork_spec` : the network fits the merged specification, and has
  room for the interfaces;
* `IPv4NetworkConfigurator.Fits.completeAddress_spec` : a complete address belongs to the network
  and fits the template of its interface.
-/

namespace Hiwis

open PackedBits List
open BitVec (and_or_distrib_right getLsbD_and getLsbD_eq_getElem getLsbD_not getLsbD_or
  getLsbD_xor getLsbD_zero lt_def lt_of_getLsbD toNat_add toNat_and zero_and)

namespace IPv4NetworkConfigurator

open SpecifiedBits (Merges Specifies Template)

variable {p : AssignParameters} {s : AssignState} {m : MergedSpecification}
  {networkAddress networkNetmask a : IPv4Address} {i : InterfaceInfo} {n len b : ℕ}

/-! ### Step 1 -/

variable {m' : MergedSpecification}

theorem MergedSpecification.merge_eq_some (h : m.merge i = some m') :
    m' = ⟨m.address.add i.addressTemplate, m.netmask.add i.netmaskTemplate⟩ ∧
      m'.netmask.incompatible = 0 := by
  unfold MergedSpecification.merge at h
  simp only at h
  split_ifs at h with hnetmask haddress
  cases h
  exact ⟨rfl, not_not.1 hnetmask⟩

/-- The merged specification says what the templates of the compatible interfaces say. -/
structure Collects (compatible : List InterfaceInfo) (m : MergedSpecification) : Prop where
  address : Merges (compatible.map (·.addressTemplate)) m.address
  netmask : Merges (compatible.map (·.netmaskTemplate)) m.netmask
  compatible : m.netmask.incompatible = 0

theorem Collects.nil : Collects [] {} := ⟨Merges.nil, Merges.nil, rfl⟩

variable {compatible : List InterfaceInfo}

theorem Collects.merge (h : Collects compatible m) (hm : m.merge i = some m') :
    Collects (compatible ++ [i]) m' := by
  obtain ⟨rfl, hzero⟩ := MergedSpecification.merge_eq_some hm
  refine ⟨?_, ?_, hzero⟩
  · rw [map_append, map_singleton]
    exact h.address.add _
  · rw [map_append, map_singleton]
    exact h.netmask.add _

/-- The loop goes on from interfaces that have been collected. -/
theorem collectLoop_spec (interfaces : List InterfaceInfo) (h : Collects compatible m) :
    Collects (compatible ++ (collectLoop interfaces m).1) (collectLoop interfaces m).2.2 ∧
      ((collectLoop interfaces m).1 ++ (collectLoop interfaces m).2.1).Perm interfaces := by
  induction interfaces generalizing compatible m with
  | nil =>
    rw [collectLoop, append_nil]
    exact ⟨h, .refl _⟩
  | cons i interfaces ih =>
    rw [collectLoop]
    cases hm : m.merge i with
    | some m' =>
      obtain ⟨hcollects, hperm⟩ := ih (h.merge hm)
      rw [append_assoc, singleton_append] at hcollects
      exact ⟨hcollects, hperm.cons i⟩
    | none =>
      obtain ⟨hcollects, hperm⟩ := ih h
      exact ⟨hcollects, perm_middle.trans (hperm.cons i)⟩

/-- The templates agree about the netmask, and about the bits of the address where one of them asks
for a one in the netmask. -/
structure Compatible (interfaces : List InterfaceInfo) : Prop where
  netmask : ∀ i ∈ interfaces, ∀ j ∈ interfaces,
    (i.netmask ^^^ j.netmask) &&& (i.netmaskSpecifiedBits &&& j.netmaskSpecifiedBits) = 0
  address : ∀ i ∈ interfaces, ∀ j ∈ interfaces, ∀ k ∈ interfaces,
    (i.address ^^^ j.address) &&& (i.addressSpecifiedBits &&& j.addressSpecifiedBits) &&&
      (k.netmask &&& k.netmaskSpecifiedBits) = 0

theorem Compatible.subset {is js : List InterfaceInfo} (h : Compatible js) (hsub : is ⊆ js) :
    Compatible is :=
  ⟨fun i hi j hj => h.netmask i (hsub hi) j (hsub hj),
    fun i hi j hj k hk => h.address i (hsub hi) j (hsub hj) k (hsub hk)⟩

theorem Compatible.singleton (i : InterfaceInfo) : Compatible [i] := by
  refine ⟨fun j hj k hk => ?_, fun j hj k hk l _ => ?_⟩
  · rw [mem_singleton.1 hj, mem_singleton.1 hk, BitVec.xor_self]
    exact zero_and
  · rw [mem_singleton.1 hj, mem_singleton.1 hk, BitVec.xor_self, BitVec.and_assoc]
    exact zero_and

theorem getLsbD_eq_of_xor_and {x y mask : IPv4Address} (h : (x ^^^ y) &&& mask = 0)
    (hb : mask.getLsbD b = true) : x.getLsbD b = y.getLsbD b := by
  have hbit := congrArg (·.getLsbD b) h
  simp only [getLsbD_and, getLsbD_xor, hb, Bool.and_true] at hbit
  have hxor := hbit.trans getLsbD_zero
  revert hxor
  cases x.getLsbD b <;> cases y.getLsbD b <;> decide

/-- A compatible interface is not skipped. -/
theorem Collects.exists_merge (h : Collects compatible m) (hc : Compatible (compatible ++ [i])) :
    ∃ m', m.merge i = some m' := by
  have hnetmask := h.netmask.add i.netmaskTemplate
  have haddress := h.address.add i.addressTemplate
  rw [← map_singleton (f := fun i : InterfaceInfo => i.netmaskTemplate), ← map_append] at hnetmask
  rw [← map_singleton (f := fun i : InterfaceInfo => i.addressTemplate), ← map_append] at haddress
  have hzero : (m.netmask.add i.netmaskTemplate).incompatible = 0 := by
    ext b hb
    rw [← getLsbD_eq_getElem, ← getLsbD_eq_getElem]
    refine (hnetmask.incompatible_eq_false fun t ht t' ht' hspec hspec' => ?_).trans
      getLsbD_zero.symm
    obtain ⟨j, hj, rfl⟩ := mem_map.1 ht
    obtain ⟨j', hj', rfl⟩ := mem_map.1 ht'
    exact getLsbD_eq_of_xor_and (hc.netmask j hj j' hj') (by
      rw [getLsbD_and, Bool.and_eq_true]
      exact ⟨hspec, hspec'⟩)
  have hzero' : (m.netmask.add i.netmaskTemplate).bits &&&
      (m.netmask.add i.netmaskTemplate).specified &&&
      (m.address.add i.addressTemplate).incompatible = 0 := by
    ext b hb
    rw [← getLsbD_eq_getElem, ← getLsbD_eq_getElem, getLsbD_and]
    refine Eq.trans ?_ getLsbD_zero.symm
    cases hone : ((m.netmask.add i.netmaskTemplate).bits &&&
        (m.netmask.add i.netmaskTemplate).specified).getLsbD b with
    | false => rfl
    | true =>
      -- one of the templates asks for the one in the netmask
      rw [getLsbD_and, Bool.and_eq_true, hnetmask.bits] at hone
      obtain ⟨⟨t, ht, hspec⟩, -⟩ := hone
      obtain ⟨k, hk, rfl⟩ := mem_map.1 ht
      rw [Bool.true_and]
      refine haddress.incompatible_eq_false fun t ht t' ht' hspec1 hspec2 => ?_
      obtain ⟨j, hj, rfl⟩ := mem_map.1 ht
      obtain ⟨j', hj', rfl⟩ := mem_map.1 ht'
      have haddr := hc.address j hj j' hj' k hk
      rw [BitVec.and_assoc] at haddr
      refine getLsbD_eq_of_xor_and haddr ?_
      simp only [getLsbD_and, Bool.and_eq_true]
      exact ⟨⟨hspec1, hspec2⟩, hspec.bit, hspec.specified⟩
  unfold MergedSpecification.merge
  simp only
  rw [if_neg (not_not.2 hzero), if_neg (not_not.2 hzero')]
  exact ⟨_, rfl⟩

/-- Compatible interfaces are all collected. -/
theorem collectLoop_of_compatible {compatible interfaces : List InterfaceInfo}
    (h : Collects compatible m) (hc : Compatible (compatible ++ interfaces)) :
    (collectLoop interfaces m).2.1 = [] := by
  induction interfaces generalizing compatible m with
  | nil => rfl
  | cons i interfaces ih =>
    rw [append_cons] at hc
    obtain ⟨m', hm⟩ := h.exists_merge (hc.subset (subset_append_left _ _))
    rw [collectLoop, hm]
    exact ih (h.merge hm) hc

/-- The first interface is always compatible. -/
theorem collectLoop_ne_nil (i : InterfaceInfo) (interfaces : List InterfaceInfo) :
    (collectLoop (i :: interfaces) {}).1 ≠ [] := by
  obtain ⟨m', hm⟩ := Collects.nil.exists_merge (Compatible.singleton i)
  rw [collectLoop, hm]
  exact cons_ne_nil _ _

/-! ### Indices of bits -/

variable {value : IPv4Address} {d : ℤ}

/-- The most significant bit that is set is not below any bit that is set. -/
theorem le_getMostSignificantBitIndex (h : value.getLsbD b = true) :
    (b : ℤ) ≤ getMostSignificantBitIndex value true d := by
  -- the search from the left, in a range of any length
  have hfind : ∀ n, b < n → ∃ k, (range n).reverse.find? (value.getLsbD · == true) = some k ∧
      b ≤ k := by
    intro n
    induction n with
    | zero => intro hb; omega
    | succ n ih =>
      intro hb
      rw [range_succ, reverse_append, reverse_singleton, singleton_append, find?_cons]
      by_cases hn : value.getLsbD n = true
      · exact ⟨n, by simp [hn], by omega⟩
      · have hne : b ≠ n := by
          rintro rfl
          exact hn h
        obtain ⟨k, hk, hle⟩ := ih (by omega)
        exact ⟨k, by simpa [hn] using hk, hle⟩
  obtain ⟨k, hk, hle⟩ := hfind 32 (lt_of_getLsbD h)
  unfold getMostSignificantBitIndex
  rw [hk]
  exact Int.ofNat_le.2 hle

/-- The least significant bit that is set is not above any bit that is set. -/
theorem getLeastSignificantBitIndex_le (h : value.getLsbD b = true) :
    getLeastSignificantBitIndex value true d ≤ b := by
  have hmem : b ∈ range 32 := mem_range.2 (lt_of_getLsbD h)
  unfold getLeastSignificantBitIndex
  cases hfind : (range 32).find? (value.getLsbD · == true) with
  | none =>
    have hno := find?_eq_none.1 hfind b hmem
    simp [h] at hno
  | some k =>
    obtain ⟨-, -, hno⟩ := find?_range_eq_some.1 hfind
    refine Int.ofNat_le.2 (not_lt.1 fun hlt => ?_)
    have := hno b hlt
    simp [h] at this

theorem two_le_getRepresentationBitCount (h : 3 ≤ n) : 2 ≤ getRepresentationBitCount n := by
  unfold getRepresentationBitCount
  cases hfind : (range 32).find? fun bitCount => decide (n ≤ 2 ^ bitCount) with
  | none => rw [Option.getD_none]; omega
  | some k =>
    rw [Option.getD_some]
    have hk := find?_some hfind
    rw [decide_eq_true_eq] at hk
    by_contra hlt
    have : 2 ^ k ≤ 2 ^ 1 := Nat.pow_le_pow_right (by omega) (by omega)
    omega

/-! ### Netmasks -/

theorem getLsbD_networkNetmaskOf : ∀ len < 31, ∀ b < 32,
    (networkNetmaskOf len).getLsbD b = decide (32 - len ≤ b) := by decide +kernel

theorem toNat_not_networkNetmaskOf : ∀ len < 31,
    (~~~networkNetmaskOf len).toNat = 2 ^ (32 - len) - 1 := by decide +kernel

/-- What a netmask length of the range says about the merged specification. -/
structure InRange (m : MergedSpecification) (len : ℕ) : Prop where
  lt : len < 31
  ones : ∀ b, (m.netmask.bits &&& m.netmask.specified).getLsbD b = true → 32 - len ≤ b
  zeros : ∀ b, (~~~m.netmask.bits &&& m.netmask.specified).getLsbD b = true → b < 32 - len
  compatible : ∀ b, m.address.incompatible.getLsbD b = true → b < 32 - len

theorem inRange_of_netmaskLengthRange (hn : 3 ≤ n) (hmin : (netmaskLengthRange m n).1 ≤ len)
    (hmax : len ≤ (netmaskLengthRange m n).2) : InRange m len := by
  have hbits := two_le_getRepresentationBitCount hn
  unfold netmaskLengthRange at hmin hmax
  simp only [le_min_iff] at hmin hmax
  obtain ⟨⟨hzeros, hincompatible⟩, hcount⟩ := hmax
  refine ⟨by omega, fun b hb => ?_, fun b hb => ?_, fun b hb => ?_⟩
  · have := getLeastSignificantBitIndex_le (d := 32) hb
    omega
  · have := le_getMostSignificantBitIndex (d := -1) hb
    omega
  · have := le_getMostSignificantBitIndex (d := -1) hb
    omega

/-! ### Step 3 -/

/-- A network that fits the merged specification. -/
structure Fits (m : MergedSpecification) (len : ℕ) (networkAddress networkNetmask : IPv4Address) :
    Prop where
  inRange : InRange m len
  netmask : networkNetmask = networkNetmaskOf len
  inside : ∀ b, networkNetmask.getLsbD b = false → networkAddress.getLsbD b = false
  specified : ∀ b, networkNetmask.getLsbD b = true → m.address.specified.getLsbD b = true →
    networkAddress.getLsbD b = m.address.bits.getLsbD b

/-- There is room for the interfaces, and no address is used twice when the networks have to be
disjunct. -/
structure HasRoom (p : AssignParameters) (s : AssignState) (n len : ℕ)
    (networkAddress networkNetmask : IPv4Address) : Prop where
  room : n ≤ 2 ^ (32 - len)
  disjunct : p.assignDisjunctSubnetAddresses = true →
    ∀ a ∈ s.assignedInterfaceAddresses, a &&& networkNetmask ≠ networkAddress

theorem toInt_one_shiftLeft : ∀ len < 31,
    ((1 : IPv4Address) <<< (32 - len)).toInt ≤ 2 ^ (32 - len) := by decide +kernel

theorem hasRoom_of_networkIsPossible (hlen : len < 31)
    (h : networkIsPossible p s n len networkAddress = true) :
    HasRoom p s n len networkAddress (networkNetmaskOf len) := by
  unfold networkIsPossible at h
  simp only at h
  split_ifs at h with hcount
  rw [decide_eq_true_eq] at h
  refine ⟨?_, fun hdisjunct a ha hnet => hcount ?_⟩
  · have hle := h.trans (toInt_one_shiftLeft len hlen)
    exact_mod_cast (by omega : (n : ℤ) ≤ 2 ^ (32 - len))
  · have hpos : 0 < interfaceCount s networkAddress (networkNetmaskOf len) :=
      countP_pos_iff.2 ⟨a, ha, beq_iff_eq.2 hnet⟩
    rw [hdisjunct, Bool.true_and, bne_iff_ne]
    omega

/-- The candidates of a netmask length fit the merged specification. -/
theorem tryNetmask_spec (hrange : InRange m len)
    (h : tryNetmask p s m n len = some (networkAddress, networkNetmask)) :
    Fits m len networkAddress networkNetmask ∧ HasRoom p s n len networkAddress networkNetmask := by
  unfold tryNetmask at h
  obtain ⟨part, -, hpart⟩ := exists_of_findSome?_eq_some h
  simp only at hpart
  split_ifs at hpart with hpossible
  cases hpart
  refine ⟨⟨hrange, rfl, fun b hb => ?_, fun b hb hspec => ?_⟩,
    hasRoom_of_networkIsPossible hrange.lt hpossible⟩
  -- the bits outside the mask are not changed
  · unfold setPackedBits
    rw [getLsbD_set_of_not (by rw [getLsbD_and, hb, Bool.and_false]),
      getLsbD_and, hb, Bool.and_false]
  · unfold setPackedBits
    rw [getLsbD_set_of_not, getLsbD_and, getLsbD_and, hb, hspec, Bool.and_true, Bool.and_true]
    rw [getLsbD_and, getLsbD_not, hspec, Bool.not_true, Bool.and_false, Bool.false_and]

/-- What step 3 finds. -/
theorem findNetwork_spec (hn : 3 ≤ n)
    (h : findNetwork p s m n = some (networkAddress, networkNetmask)) :
    ∃ len, Fits m len networkAddress networkNetmask ∧
      HasRoom p s n len networkAddress networkNetmask := by
  unfold findNetwork at h
  obtain ⟨len, hmem, hlen⟩ := exists_of_findSome?_eq_some h
  have hrange := (mem_filter.1 hmem).2
  rw [decide_eq_true_eq] at hrange
  exact ⟨len, tryNetmask_spec (inRange_of_netmaskLengthRange hn hrange.1 hrange.2) hlen⟩

/-! ### Step 4 -/

/-- A value agrees with the specified bits of a template. -/
def Agrees (value : IPv4Address) (t : Template 32) : Prop :=
  value &&& t.specified = t.bits &&& t.specified

instance (value : IPv4Address) (t : Template 32) : Decidable (Agrees value t) :=
  inferInstanceAs (Decidable (_ = _))

theorem agrees_iff {t : Template 32} : Agrees value t ↔
    ∀ b, t.specified.getLsbD b = true → value.getLsbD b = t.bits.getLsbD b := by
  constructor
  · intro h b hb
    have hbit := congrArg (·.getLsbD b) h
    simpa only [getLsbD_and, hb, Bool.and_true] using hbit
  · intro h
    unfold Agrees
    ext b hb
    simp only [← getLsbD_eq_getElem, getLsbD_and]
    cases hspec : t.specified.getLsbD b with
    | false => rw [Bool.and_false, Bool.and_false]
    | true => rw [h b hspec]

/-- An address of the network that has the specified bits outside the netmask. -/
structure IsComplete (networkAddress networkNetmask : IPv4Address) (i : InterfaceInfo)
    (a : IPv4Address) : Prop where
  network : a &&& networkNetmask = networkAddress
  host : ∀ b, networkNetmask.getLsbD b = false → i.addressSpecifiedBits.getLsbD b = true →
    a.getLsbD b = i.address.getLsbD b

theorem Fits.completeAddress_spec (h : Fits m len networkAddress networkNetmask) (s : AssignState)
    (i : InterfaceInfo) : IsComplete networkAddress networkNetmask i
      (completeAddress s networkAddress networkNetmask i) := by
  unfold completeAddress setPackedBits
  refine ⟨?_, fun b hb hspec => ?_⟩
  · ext b hb
    simp only [← getLsbD_eq_getElem, getLsbD_and, getLsbD_or]
    cases hmask : networkNetmask.getLsbD b with
    | false => rw [Bool.and_false, h.inside b hmask]
    | true =>
      rw [getLsbD_set_of_not]
      · simp [hmask]
      · simp [hmask]
  · rw [getLsbD_or, h.inside b hb, Bool.false_or, getLsbD_set_of_not]
    · rw [getLsbD_and, getLsbD_not, hb, decide_eq_true (lt_of_getLsbD hspec),
        Bool.not_false, Bool.and_true, Bool.and_true]
    · simp [hspec]

/-- A complete address and the netmask fit the template of an interface whose specification has been
merged. -/
theorem Fits.agrees (h : Fits m len networkAddress networkNetmask)
    (haddress : Merges (compatible.map (·.addressTemplate)) m.address)
    (hnetmask : Merges (compatible.map (·.netmaskTemplate)) m.netmask)
    (hcompatible : m.netmask.incompatible = 0) (hi : i ∈ compatible)
    (ha : IsComplete networkAddress networkNetmask i a) :
    Agrees a i.addressTemplate ∧ Agrees networkNetmask i.netmaskTemplate := by
  rw [agrees_iff, agrees_iff]
  have hmask : ∀ b < 32, networkNetmask.getLsbD b = decide (32 - len ≤ b) := by
    rw [h.netmask]
    exact getLsbD_networkNetmaskOf len h.inRange.lt
  refine ⟨fun b hspec => ?_, fun b hspec => ?_⟩
  · cases hb : networkNetmask.getLsbD b with
    | false => exact ha.host b hb hspec
    | true =>
      -- the templates agree about the bits of the network
      have hlt := lt_of_getLsbD hspec
      rw [hmask b hlt, decide_eq_true_eq] at hb
      have hagree : m.address.incompatible.getLsbD b = false := by
        by_contra hcon
        have := h.inRange.compatible b (by simpa using hcon)
        omega
      obtain ⟨hspec', hbits⟩ := haddress.bit_eq hagree (mem_map_of_mem hi) ⟨hspec, rfl⟩
      have hnet := congrArg (·.getLsbD b) ha.network
      simp only [getLsbD_and, hmask b hlt, hb, decide_true, Bool.and_true] at hnet
      rw [hnet, h.specified b (by rw [hmask b hlt, decide_eq_true hb]) hspec', hbits]
  · have hlt := lt_of_getLsbD hspec
    have hagree : m.netmask.incompatible.getLsbD b = false := by
      rw [hcompatible]
      exact getLsbD_zero
    obtain ⟨hspec', hbits⟩ := hnetmask.bit_eq hagree (mem_map_of_mem hi) ⟨hspec, rfl⟩
    rw [hmask b hlt]
    cases hbit : i.netmaskTemplate.bits.getLsbD b with
    | true =>
      refine decide_eq_true (h.inRange.ones b ?_)
      rw [getLsbD_and, hspec', hbits, hbit, Bool.and_true]
    | false =>
      have hzero := h.inRange.zeros b (by
        rw [getLsbD_and, getLsbD_not, hspec', hbits, hbit, decide_eq_true hlt]
        rfl)
      exact decide_eq_false (by omega)

/-! ### Counting the addresses of a network -/

variable {values : List (IPv4Address × IPv4Address)} {address unspecifiedBits maximum : IPv4Address}
  {v : IPv4Address × IPv4Address}

theorem le_raiseMaximum (v : IPv4Address × IPv4Address) :
    maximum.toNat ≤ (raiseMaximum address unspecifiedBits maximum v).toNat := by
  unfold raiseMaximum
  simp only
  split_ifs with hagree hlt
  · exact (lt_def.1 hlt).le
  · exact le_rfl
  · exact le_rfl

theorem le_foldl_raiseMaximum (values : List (IPv4Address × IPv4Address)) (maximum : IPv4Address) :
    maximum.toNat ≤ (values.foldl (raiseMaximum address unspecifiedBits) maximum).toNat := by
  induction values generalizing maximum with
  | nil => exact le_rfl
  | cons v values ih => exact (le_raiseMaximum v).trans (ih _)

/-- A value whose address agrees has at most the greatest packed part. -/
theorem le_packedMaximum (hv : v ∈ values)
    (hagree : v.1 &&& ~~~unspecifiedBits = address &&& ~~~unspecifiedBits) :
    (getPackedBits v.2 unspecifiedBits).toNat ≤
      (packedMaximum values address unspecifiedBits).toNat := by
  obtain ⟨before, after, rfl⟩ := append_of_mem hv
  unfold packedMaximum
  rw [foldl_append, foldl_cons]
  refine le_trans ?_ (le_foldl_raiseMaximum after _)
  obtain ⟨other, value⟩ := v
  unfold raiseMaximum
  simp only
  rw [if_pos hagree]
  split_ifs with hlt
  · exact le_rfl
  · exact not_lt.1 fun hgt => hlt (lt_def.2 hgt)

theorem foldl_raiseMaximum_eq (values : List (IPv4Address × IPv4Address)) (maximum : IPv4Address) :
    values.foldl (raiseMaximum address unspecifiedBits) maximum = maximum ∨ ∃ v ∈ values,
      v.1 &&& ~~~unspecifiedBits = address &&& ~~~unspecifiedBits ∧
      getPackedBits v.2 unspecifiedBits =
        values.foldl (raiseMaximum address unspecifiedBits) maximum := by
  induction values generalizing maximum with
  | nil => exact .inl rfl
  | cons v values ih =>
    rw [foldl_cons]
    rcases ih (raiseMaximum address unspecifiedBits maximum v) with heq | ⟨v', hv', hagree, hpart⟩
    · rw [heq]
      obtain ⟨other, value⟩ := v
      unfold raiseMaximum
      simp only
      split_ifs with hagree hlt
      · exact .inr ⟨(other, value), mem_cons_self, hagree, rfl⟩
      · exact .inl rfl
      · exact .inl rfl
    · exact .inr ⟨v', mem_cons_of_mem _ hv', hagree, hpart⟩

/-- The greatest packed part is the one of such a value, if it is not 0. -/
theorem packedMaximum_eq (values : List (IPv4Address × IPv4Address))
    (address unspecifiedBits : IPv4Address) :
    packedMaximum values address unspecifiedBits = 0 ∨ ∃ v ∈ values,
      v.1 &&& ~~~unspecifiedBits = address &&& ~~~unspecifiedBits ∧
      getPackedBits v.2 unspecifiedBits = packedMaximum values address unspecifiedBits :=
  foldl_raiseMaximum_eq values 0

/-- The addresses of the network that are in use have the host parts up to `k`. -/
structure Counted (s : AssignState) (networkAddress networkNetmask : IPv4Address) (k : ℕ) :
    Prop where
  bounds : ∀ a ∈ s.assignedInterfaceAddresses, a &&& networkNetmask = networkAddress →
    1 ≤ (a &&& ~~~networkNetmask).toNat ∧ (a &&& ~~~networkNetmask).toNat ≤ k
  last : k = 0 ∨ ∃ a ∈ s.assignedInterfaceAddresses, a &&& networkNetmask = networkAddress ∧
    (a &&& ~~~networkNetmask).toNat = k

theorem Counted.packedMaximum_toNat {k : ℕ} (hs : Counted s networkAddress networkNetmask k)
    (hlow : IsLow (~~~networkNetmask) n)
    (haddress : address &&& networkNetmask = networkAddress) :
    (packedMaximum (s.assignedInterfaceAddresses.map fun other => (other, other)) address
      (~~~networkNetmask)).toNat = k := by
  have hpacked : ∀ a, getPackedBits a (~~~networkNetmask) = a &&& ~~~networkNetmask :=
    fun a => get_of_low hlow
  refine le_antisymm ?_ ?_
  · rcases packedMaximum_eq (s.assignedInterfaceAddresses.map fun other => (other, other)) address
      (~~~networkNetmask) with hzero | ⟨v, hv, hagree, hpart⟩
    · rw [hzero]
      exact Nat.zero_le k
    · obtain ⟨a, ha, rfl⟩ := mem_map.1 hv
      rw [BitVec.not_not, haddress] at hagree
      rw [← hpart, hpacked]
      exact (hs.bounds a ha hagree).2
  · rcases hs.last with rfl | ⟨a, ha, hin, hhost⟩
    · exact Nat.zero_le _
    · rw [← hhost, ← hpacked]
      refine le_packedMaximum (v := (a, a)) (mem_map_of_mem ha) ?_
      rw [BitVec.not_not, hin, haddress]

theorem isLow_not_networkNetmaskOf (hlen : len < 31) :
    IsLow (~~~networkNetmaskOf len) (32 - len) := by
  intro b hb
  rw [getLsbD_not, getLsbD_networkNetmaskOf len hlen b hb, decide_eq_true hb, Bool.true_and,
    ← decide_not]
  exact decide_eq_decide.2 not_le

/-- The next interface whose template leaves the host part open gets the next host part. -/
theorem Fits.completeAddress_host (h : Fits m len networkAddress networkNetmask) {k : ℕ}
    (hopen : i.addressSpecifiedBits &&& ~~~networkNetmask = 0)
    (hs : Counted s networkAddress networkNetmask k) (hk : k + 1 < 2 ^ (32 - len)) :
    (completeAddress s networkAddress networkNetmask i &&& ~~~networkNetmask).toNat = k + 1 := by
  have hlow := isLow_not_networkNetmaskOf h.inRange.lt
  have hsize := toNat_not_networkNetmaskOf len h.inRange.lt
  rw [← h.netmask] at hlow hsize
  have hpow : 2 ^ (32 - len) ≤ 2 ^ 32 := Nat.pow_le_pow_right (by omega) (by omega)
  -- all bits of the host part are unspecified
  have hbits : ~~~i.addressSpecifiedBits &&& ~~~networkNetmask = ~~~networkNetmask := by
    ext b hb
    have hbit := congrArg (·.getLsbD b) hopen
    simp only [getLsbD_and, getLsbD_not, hb, decide_true, Bool.true_and] at hbit
    simp only [← getLsbD_eq_getElem, getLsbD_and, getLsbD_not, hb, decide_true, Bool.true_and]
    cases hmask : networkNetmask.getLsbD b with
    | true => rw [Bool.not_true, Bool.and_false]
    | false =>
      rw [hmask, Bool.not_false, Bool.and_true] at hbit
      rw [hbit.trans getLsbD_zero]
      rfl
  have hnet : networkAddress &&& ~~~networkNetmask = 0 := by
    ext b hb
    simp only [← getLsbD_eq_getElem, getLsbD_and, getLsbD_not]
    cases hmask : networkNetmask.getLsbD b with
    | true => simp
    | false => simp [h.inside b hmask]
  have haddress : (networkAddress ||| (i.address &&& ~~~networkNetmask)) &&& networkNetmask =
      networkAddress := by
    ext b hb
    simp only [← getLsbD_eq_getElem, getLsbD_and, getLsbD_or, getLsbD_not]
    cases hmask : networkNetmask.getLsbD b with
    | true => simp
    | false => simp [h.inside b hmask]
  have hmaximum := hs.packedMaximum_toNat hlow haddress
  unfold completeAddress setPackedBits
  simp only [hbits]
  generalize packedMaximum _ _ _ = maximum at hmaximum ⊢
  rw [set_of_low hlow, and_or_distrib_right, hnet]
  -- the next host part has no other bits
  have hand : (0 ||| (i.address &&& ~~~networkNetmask &&& ~~~~~~networkNetmask |||
      (maximum + 1) &&& ~~~networkNetmask) &&& ~~~networkNetmask) =
        (maximum + 1) &&& ~~~networkNetmask := by
    ext b hb
    simp only [← getLsbD_eq_getElem, getLsbD_and, getLsbD_or, getLsbD_not]
    cases networkNetmask.getLsbD b <;> simp [hb]
  rw [hand, toNat_and, hsize, Nat.and_two_pow_sub_one_eq_mod, toNat_add, hmaximum]
  have hone : (1 : IPv4Address).toNat = 1 := rfl
  have hk32 : k + 1 < 2 ^ 32 := by omega
  rw [hone, Nat.mod_eq_of_lt hk32, Nat.mod_eq_of_lt hk]

end IPv4NetworkConfigurator

end Hiwis
