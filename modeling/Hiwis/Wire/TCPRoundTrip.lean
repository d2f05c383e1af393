import Hiwis.Wire.TCPSerializer

/-!
# TCP segments are read back

* `storeOption_eq`, `parseOption_eq` : what is written for an option, and what is read for it;
* `parse_serialize` : a segment is read back, with its options padded by end-of-option octets.
-/

namespace Hiwis

open List Except Memory

namespace Wire

namespace TCPSerializer

/-! ### Options -/

/-- The number of octets of the `k`-th value of an option. -/
def valueSize (length k : ℕ) : ℕ := min length (6 + 4 * k) - (2 + 4 * k)

/-- The octets of the values of an option from the `k`-th one on. -/
def valuesOctets (length : ℕ) : ℕ → List SeqNo → List UInt8
  | _, [] => []
  | k, value :: values =>
    toOctets (valueSize length k) value.toNat ++ valuesOctets length (k + 1) values

/-- The octets of an option. -/
def optionOctets (option : TCPOption) : List UInt8 :=
  if option.length ≤ 1 then [UInt8.ofNat option.kind]
  else UInt8.ofNat option.kind :: UInt8.ofNat option.length ::
    valuesOctets option.length 0 option.values

/-- An option that the wire format can express: its kind is one octet, End of Option List and No
Operation are one octet long, the others have as many values as their length asks for, and the last
value fits in the octets that are left for it. -/
structure OptionWellFormed (option : TCPOption) : Prop where
  kind_lt : option.kind < 256
  length_lt : option.length < 256
  length_eq_one : option.kind ≤ 1 → option.length = 1
  two_le : 1 < option.kind → 2 ≤ option.length
  values_length : option.values.length = (option.length + 1) / 4
  value_lt : ∀ k (h : k < option.values.length),
    (option.values[k]).toNat < 256 ^ valueSize option.length k

section Options

variable {m : Memory} {addr length k : ℕ} {option : TCPOption} {values : List SeqNo}

theorem storeValue_eq (m : Memory) (addr n value : ℕ) :
    storeValue m addr n value = m.store addr (toOctets n value) := by
  induction n generalizing m value with
  | zero => simp [storeValue, toOctets]
  | succ n ih =>
    have hcomm : (m.store (addr + n) [UInt8.ofNat value]).store addr (toOctets n (value / 256)) =
        (m.store addr (toOctets n (value / 256))).store (addr + n) [UInt8.ofNat value] :=
      m.store_comm _ _ (.inr (by simp))
    rw [storeValue, ih, hcomm, toOctets_succ, store_append, toOctets_length]

/-- The values of an option follow each other. -/
theorem storeValues_eq (m : Memory) (hlen : length < 2 ^ 16) (hlen0 : 0 < length)
    (hvalues : values = [] ∨ 4 * (k + values.length) ≤ length + 1) :
    storeValues m addr length k values =
      m.store (addr + (2 + 4 * k)) (valuesOctets length k values) := by
  induction values generalizing m k with
  | nil => simp [storeValues, valuesOctets]
  | cons value values ih =>
    have hle : 4 * (k + (values.length + 1)) ≤ length + 1 := by
      simpa using hvalues
    have hsize : min ((length + 2 ^ 32 - 1) % 2 ^ 32) (5 + 4 * k) + 1 - (2 + 4 * k) =
        valueSize length k := by
      unfold valueSize
      omega
    rw [storeValues, hsize, storeValue_eq, valuesOctets, store_append, toOctets_length]
    cases values with
    | nil => simp [storeValues, valuesOctets]
    | cons value' values =>
      rw [ih _ (.inr (by omega))]
      -- this value is not the last one, so it has four octets
      have hfour : valueSize length k = 4 := by
        unfold valueSize
        simp only [length_cons] at hle
        omega
      rw [hfour]
      congr 1

theorem valuesOctets_length
    (hvalues : k + values.length = (length + 1) / 4) :
    (valuesOctets length k values).length = length - (2 + 4 * k) := by
  induction values generalizing k with
  | nil =>
    rw [valuesOctets, length_nil]
    simp only [length_nil, Nat.add_zero] at hvalues
    omega
  | cons value values ih =>
    simp only [length_cons] at hvalues
    rw [valuesOctets, length_append, toOctets_length, ih (by omega), valueSize]
    omega

theorem OptionWellFormed.pos (h : OptionWellFormed option) : 0 < option.length := by
  by_cases hkind : option.kind ≤ 1
  · rw [h.length_eq_one hkind]
    exact Nat.one_pos
  · have := h.two_le (by omega)
    omega

theorem OptionWellFormed.optionOctets_length (h : OptionWellFormed option) :
    (optionOctets option).length = option.length := by
  have hpos := h.pos
  have hvalues := valuesOctets_length (k := 0) (by rw [h.values_length]; exact Nat.zero_add _)
  unfold optionOctets
  split_ifs with hone
  · rw [length_singleton]
    omega
  · rw [length_cons, length_cons, hvalues]
    omega

/-- What is written for an option. -/
theorem storeOption_eq (h : OptionWellFormed option) (m : Memory) (addr : ℕ) :
    storeOption m addr option = m.store addr (optionOctets option) := by
  have hlt := h.length_lt
  have hpos := h.pos
  have hcount := h.values_length
  unfold storeOption optionOctets
  dsimp only
  by_cases hone : option.length ≤ 1
  · have hnil : option.values = [] := eq_nil_of_length_eq_zero (by omega)
    rw [if_neg (by omega), if_pos hone, hnil, storeValues]
  · rw [if_pos (by omega), if_neg hone, storeValues_eq _ (by omega) hpos (.inr (by omega))]
    have hsplit : UInt8.ofNat option.kind :: UInt8.ofNat option.length ::
        valuesOctets option.length 0 option.values = [UInt8.ofNat option.kind] ++
          ([UInt8.ofNat option.length] ++ valuesOctets option.length 0 option.values) := rfl
    rw [hsplit, store_append, store_append]
    rfl

/-- Where a value lies among the octets of the values. -/
theorem valuesOctets_eq_append (hvalues : 4 * (k + values.length) ≤ length + 1) (i : ℕ)
    (hi : i < values.length) : ∃ pre post, valuesOctets length k values =
      pre ++ toOctets (valueSize length (k + i)) (values[i]).toNat ++ post ∧
        pre.length = 4 * i := by
  induction values generalizing k i with
  | nil => cases hi
  | cons value values ih =>
    simp only [length_cons] at hvalues hi
    cases i with
    | zero => exact ⟨[], valuesOctets length (k + 1) values, rfl, rfl⟩
    | succ i =>
      obtain ⟨pre, post, heq, hpre⟩ := ih (by omega) i (by omega) (k := k + 1)
      have hfour : valueSize length k = 4 := by
        unfold valueSize
        omega
      refine ⟨toOctets 4 value.toNat ++ pre, post, ?_, ?_⟩
      · rw [valuesOctets, hfour, heq, getElem_cons_succ, Nat.add_right_comm k 1 i]
        simp [Nat.add_assoc]
      · rw [length_append, toOctets_length, hpre]
        omega

/-- What is read for an option. -/
theorem parseOption_eq (h : OptionWellFormed option)
    (hm : m.load addr option.length = optionOctets option) :
    parseOption (fun a => .ok (m a)) addr = .ok option := by
  have hpos := h.pos
  have hkind := h.kind_lt
  have hlt := h.length_lt
  have hcount := h.values_length
  have hfirst : m addr = UInt8.ofNat option.kind := by
    have hload := load_part [] [UInt8.ofNat option.kind] (optionOctets option).tail
      (hm.trans (by unfold optionOctets; split_ifs <;> rfl))
    simpa [load] using hload
  have hkind' : (UInt8.ofNat option.kind).toNat = option.kind := by
    rw [UInt8.toNat_ofNat']
    omega
  unfold parseOption
  simp only [ok_bind, fetch_ok, pure_eq_ok, hfirst, hkind']
  by_cases hone : option.kind ≤ 1
  · -- End of Option List and No Operation
    have hlen := h.length_eq_one hone
    have hnil : option.values = [] := eq_nil_of_length_eq_zero (by omega)
    have hk : UInt8.ofNat option.kind = 0 ∨ UInt8.ofNat option.kind = 1 := by
      rcases Nat.le_one_iff_eq_zero_or_eq_one.1 hone with hk | hk <;> rw [hk]
      · exact .inl rfl
      · exact .inr rfl
    rw [if_pos hk]
    cases option
    simp_all
  · have hlen := h.two_le (by omega)
    have hk : ¬ (UInt8.ofNat option.kind = 0 ∨ UInt8.ofNat option.kind = 1) := by
      rintro (hk | hk)
      · rw [hk] at hkind'
        simp at hkind'
        omega
      · rw [hk] at hkind'
        simp at hkind'
        omega
    have hocts : optionOctets option = UInt8.ofNat option.kind :: UInt8.ofNat option.length ::
        valuesOctets option.length 0 option.values := if_neg (by omega)
    have hsecond : m (addr + 1) = UInt8.ofNat option.length := by
      have hload := load_part [UInt8.ofNat option.kind] [UInt8.ofNat option.length]
        (valuesOctets option.length 0 option.values) (hm.trans hocts)
      simpa [load] using hload
    have hlen' : (UInt8.ofNat option.length).toNat = option.length := by
      rw [UInt8.toNat_ofNat']
      omega
    rw [if_neg hk, hsecond, hlen', mapM_ok, ok_bind]
    have hvalues : (range ((option.length + 1) / 4)).map (fun k => BitVec.ofNat 32 (ofOctets
        (m.load (addr + 2 + 4 * k) (min option.length (6 + 4 * k) - (2 + 4 * k))))) =
          option.values := by
      refine ext_getElem (by simp [hcount]) fun i hi hi' => ?_
      have hcontig : 4 * (0 + option.values.length) ≤ option.length + 1 := by omega
      obtain ⟨pre, post, heq, hpre⟩ := valuesOctets_eq_append hcontig i hi'
      rw [Nat.zero_add] at heq
      have hload := load_part
        (UInt8.ofNat option.kind :: UInt8.ofNat option.length :: pre)
        (toOctets (valueSize option.length i) (option.values[i]).toNat) post
        (hm.trans (hocts.trans (by rw [heq]; rfl)))
      rw [toOctets_length, length_cons, length_cons, hpre, valueSize] at hload
      rw [getElem_map, getElem_range,
        show addr + 2 + 4 * i = addr + (4 * i + 1 + 1) by omega, hload,
        ← valueSize, ofOctets_toOctets (h.value_lt i hi'), BitVec.ofNat_toNat, BitVec.setWidth_eq]
    rw [hvalues]

variable {options : List TCPOption}

/-- What is read for a list of options. -/
theorem parseOptions_eq (h : ∀ o ∈ options, OptionWellFormed o) {optionBytes j n fuel : ℕ}
    (hm : m.load (tcpHeaderOctets + j) n = options.flatMap optionOctets) (hj : j + n = optionBytes)
    (hfuel : n ≤ fuel) :
    parseOptions (fun a => .ok (m a)) optionBytes fuel j = .ok options := by
  induction options generalizing j n fuel with
  | nil =>
    have hn : n = 0 := by
      simpa using congrArg List.length hm
    cases fuel with
    | zero => rw [parseOptions, if_neg (by omega)]
    | succ fuel => rw [parseOptions, if_neg (by omega)]
  | cons option options ih =>
    have ho := h option mem_cons_self
    have hpos := ho.pos
    have hlen := ho.optionOctets_length
    rw [flatMap_cons] at hm
    have hn : n = option.length + (options.flatMap optionOctets).length := by
      simpa [hlen] using congrArg List.length hm
    obtain ⟨n', rfl⟩ : ∃ n', n = option.length + n' := ⟨_, hn⟩
    rw [load_add] at hm
    obtain ⟨hfirst, hrest⟩ := append_inj hm (by simp [hlen])
    obtain ⟨fuel, rfl⟩ : ∃ f, fuel = f + 1 := ⟨fuel - 1, by omega⟩
    rw [parseOptions, if_pos (by omega), parseOption_eq ho hfirst, ok_bind,
      ih (fun o ho => h o (mem_cons_of_mem _ ho)) (by rw [← hrest, Nat.add_assoc]) (by omega)
        (by omega)]
    rfl

/-- What is written for a list of options. -/
theorem storeOptions_eq (h : ∀ o ∈ options, OptionWellFormed o) {maxOptLength lengthCounter : ℕ}
    (m : Memory) (hle : lengthCounter + (options.map TCPOption.length).sum ≤ maxOptLength) :
    storeOptions maxOptLength m lengthCounter options =
      .ok (m.store (tcpHeaderOctets + lengthCounter) (options.flatMap optionOctets),
        lengthCounter + (options.map TCPOption.length).sum) := by
  induction options generalizing m lengthCounter with
  | nil => simp [storeOptions]
  | cons option options ih =>
    have ho := h option mem_cons_self
    rw [map_cons, sum_cons, ← Nat.add_assoc] at hle
    rw [storeOptions, if_pos (by omega), storeOption_eq ho,
      ih (fun o ho => h o (mem_cons_of_mem _ ho)) _ hle, flatMap_cons,
      store_append, ho.optionOctets_length, map_cons, sum_cons, Nat.add_assoc,
      Nat.add_assoc]

end Options

/-! ### Segments -/

/-- The option that a padding octet is read as. -/
def endOfOptions : TCPOption := ⟨0, 1, []⟩

/-- The number of octets of the options. -/
def optionsLength (seg : TCPWireSegment) : ℕ := (seg.options.map TCPOption.length).sum

/-- A segment that the wire format can express: its header length is that of its options, rounded
up to a multiple of four and at most 60, and its data is a byte array. -/
structure SegmentWellFormed (seg : TCPWireSegment) : Prop where
  options : ∀ o ∈ seg.options, OptionWellFormed o
  headerLength : seg.headerLength = tcpHeaderOctets + (optionsLength seg + 3) / 4 * 4
  headerLength_le : seg.headerLength ≤ tcpMaxHeaderOctets
  byteLength : seg.byteLength = seg.headerLength + seg.byteArray.length
  byteLength_lt : seg.byteLength < 2 ^ 32
  window_lt : seg.window < 2 ^ 16

/-- The options with the padding. -/
def paddedOptions (seg : TCPWireSegment) : List TCPOption :=
  seg.options ++ replicate ((4 - optionsLength seg % 4) % 4) endOfOptions

/-- The segment that is read back. -/
def received (seg : TCPWireSegment) : TCPWireSegment :=
  { seg with
    options := paddedOptions seg
    payloadLength := seg.byteArray.length
    payloadList := [] }

/-- The octets of the header in memory, but for the header length and the checksum. -/
structure EncodesHeader (seg : TCPWireSegment) (m : Memory) : Prop where
  srcPort : m.load 0 2 = toOctets 2 seg.srcPort.toNat
  destPort : m.load 2 2 = toOctets 2 seg.destPort.toNat
  sequenceNo : m.load 4 4 = toOctets 4 seg.sequenceNo.toNat
  ackNo : m.load 8 4 = toOctets 4 seg.ackNo.toNat
  flags : m 13 = flags seg
  window : m.load 14 2 = toOctets 2 seg.window
  urgentPointer : m.load 18 2 = toOctets 2 seg.urgentPointer.toNat

/-- The octets of a segment in memory. -/
structure Encodes (seg : TCPWireSegment) (m : Memory) : Prop extends EncodesHeader seg m where
  offs : (m 12).toNat / 16 * 4 = seg.headerLength
  options : m.load tcpHeaderOctets (seg.headerLength - tcpHeaderOctets) =
    (paddedOptions seg).flatMap optionOctets
  data : m.load seg.headerLength seg.byteArray.length = seg.byteArray

section Segments

variable {seg : TCPWireSegment} {m m' : Memory}

theorem endOfOptions_wellFormed : OptionWellFormed endOfOptions where
  kind_lt := by decide
  length_lt := by decide
  length_eq_one := fun _ => rfl
  two_le := fun h => absurd h (by decide)
  values_length := rfl
  value_lt := fun k h => absurd h (Nat.not_lt_zero k)

theorem SegmentWellFormed.paddedOptions (h : SegmentWellFormed seg) :
    ∀ o ∈ paddedOptions seg, OptionWellFormed o := by
  intro o ho
  rcases mem_append.1 ho with ho | ho
  · exact h.options o ho
  · rw [eq_of_mem_replicate ho]
    exact endOfOptions_wellFormed

/-- The octets of the padded options. -/
theorem paddedOptions_octets (seg : TCPWireSegment) :
    (paddedOptions seg).flatMap optionOctets = seg.options.flatMap optionOctets ++
      replicate ((4 - optionsLength seg % 4) % 4) 0 := by
  have hpad : ∀ n, (replicate n endOfOptions).flatMap optionOctets = replicate n 0 := by
    intro n
    induction n with
    | zero => rfl
    | succ n ih =>
      rw [replicate_succ, flatMap_cons, ih]
      rfl
  rw [TCPSerializer.paddedOptions, flatMap_append, hpad]

theorem flags_eq (seg : TCPWireSegment) :
    (flags seg &&& thFin == thFin) = seg.finBit ∧ (flags seg &&& thSyn == thSyn) = seg.synBit ∧
    (flags seg &&& thRst == thRst) = seg.rstBit ∧ (flags seg &&& thPush == thPush) = seg.pshBit ∧
    (flags seg &&& thAck == thAck) = seg.ackBit ∧ (flags seg &&& thUrg == thUrg) = seg.urgBit := by
  unfold flags
  cases seg.finBit <;> cases seg.synBit <;> cases seg.rstBit <;> cases seg.pshBit <;>
    cases seg.ackBit <;> cases seg.urgBit <;> decide

/-- What is read of the octets of a segment. -/
theorem Encodes.parse_eq (hm : Encodes seg m) (h : SegmentWellFormed seg) :
    parse (fun a => .ok (m a)) seg.byteLength true = .ok (received seg) := by
  have hlen := h.byteLength
  have hlt := h.byteLength_lt
  have hhead := h.headerLength
  obtain ⟨hfin, hsyn, hrst, hpsh, hack, hurg⟩ := flags_eq seg
  have hoptions : (if tcpHeaderOctets < seg.headerLength then
        parseOptions (fun a => .ok (m a)) (seg.headerLength - tcpHeaderOctets)
          (seg.headerLength - tcpHeaderOctets) 0
      else .ok []) = .ok (TCPSerializer.paddedOptions seg) := by
    have hread := parseOptions_eq h.paddedOptions hm.options (Nat.zero_add _) le_rfl
    split_ifs with hopt
    · exact hread
    · -- there are no octets to read options from
      rwa [show seg.headerLength - tcpHeaderOctets = 0 by omega, parseOptions,
        if_neg (Nat.lt_irrefl 0)] at hread
  have hpayload : (seg.byteLength + 2 ^ 32 - seg.headerLength) % 2 ^ 32 = seg.byteArray.length := by
    omega
  unfold parse
  simp only [fetch_ok, ok_bind, pure_eq_ok, if_true, hm.srcPort, hm.destPort,
    hm.sequenceNo, hm.ackNo, hm.offs, hm.flags, hm.window, hm.urgentPointer, hpayload, hm.data,
    hfin, hsyn, hrst, hpsh, hack, hurg, uint16_octets, bitVec_octets,
    ofOctets_toOctets (n := 2) h.window_lt]
  split_ifs at hoptions ⊢ with hopt
  · rw [hoptions]
    rfl
  · rw [received, ← Except.ok.inj hoptions]

/-! ### What is written for a segment -/

theorem EncodesHeader.congr (h : EncodesHeader seg m)
    (hm : ∀ a < 20, a ≠ 12 → a ≠ 16 → a ≠ 17 → m' a = m a) : EncodesHeader seg m' where
  srcPort := (load_congr fun k hk => hm _ (by omega) (by omega) (by omega)
    (by omega)).trans h.srcPort
  destPort := (load_congr fun k hk => hm _ (by omega) (by omega) (by omega)
    (by omega)).trans h.destPort
  sequenceNo := (load_congr fun k hk => hm _ (by omega) (by omega) (by omega)
    (by omega)).trans h.sequenceNo
  ackNo := (load_congr fun k hk => hm _ (by omega) (by omega) (by omega)
    (by omega)).trans h.ackNo
  flags := (hm 13 (by decide) (by decide) (by decide) (by decide)).trans h.flags
  window := (load_congr fun k hk => hm _ (by omega) (by omega) (by omega)
    (by omega)).trans h.window
  urgentPointer := (load_congr fun k hk => hm _ (by omega) (by omega) (by omega)
    (by omega)).trans h.urgentPointer

/-- The checksum is not looked at. -/
theorem Encodes.congr (h : Encodes seg m) (hlen : tcpHeaderOctets ≤ seg.headerLength)
    (hm : ∀ a, a ≠ 16 → a ≠ 17 → m' a = m a) : Encodes seg m' where
  toEncodesHeader := h.toEncodesHeader.congr fun a _ _ h1 h2 => hm a h1 h2
  offs := by rw [hm 12 (by decide) (by decide), h.offs]
  options := (load_congr fun k _ => hm _ (by unfold tcpHeaderOctets; omega)
    (by unfold tcpHeaderOctets; omega)).trans h.options
  data := (load_congr fun k _ => hm _ (by unfold tcpHeaderOctets at hlen; omega)
    (by unfold tcpHeaderOctets at hlen; omega)).trans h.data

theorem storeOffs_of_ne (m : Memory) (offs : ℕ) {a : ℕ} (h : a ≠ 12) :
    storeOffs m offs a = m a := by
  rcases Nat.lt_or_gt_of_ne h with h | h
  · exact m.store_of_lt _ h
  · exact m.store_of_le _ h

theorem storeOffs_offs (m : Memory) {offs : ℕ} (h : offs < 16) :
    (storeOffs m offs 12).toNat / 16 * 4 = offs * 4 := by
  rw [storeOffs, store_singleton, UInt8.toNat_ofNat']
  omega

/-- The header is written. -/
theorem storeHeader_encodes (seg : TCPWireSegment) (m : Memory) :
    EncodesHeader seg (storeHeader seg m) := by
  unfold storeHeader storeOffs
  -- every field is read back from the store that wrote it
  constructor
  case flags => simp [store_of_lt]
  all_goals simp (disch := simp) only [load_store_of_disjoint, load_store_of_length]

theorem storeHeader_offs (seg : TCPWireSegment) (m : Memory) :
    (storeHeader seg m 12).toNat / 16 * 4 = tcpHeaderOctets := by
  unfold storeHeader
  rw [store_of_lt _ _ (by decide), store_of_lt _ _ (by decide),
    store_of_lt _ _ (by decide), storeOffs_offs _ (by decide)]
  rfl

/-- The options are written, and then the padding. -/
theorem storeAllOptions_eq (h : SegmentWellFormed seg) (m : Memory)
    (hoffs : (m 12).toNat / 16 * 4 = tcpHeaderOctets) :
    ∃ m', storeAllOptions seg m = .ok (m', seg.headerLength - tcpHeaderOctets) ∧
      (∀ a < 20, a ≠ 12 → m' a = m a) ∧ (m' 12).toNat / 16 * 4 = seg.headerLength ∧
      m'.load tcpHeaderOctets (seg.headerLength - tcpHeaderOctets) =
        (paddedOptions seg).flatMap optionOctets := by
  have hhead := h.headerLength
  have hmax := h.headerLength_le
  have h20 : tcpHeaderOctets = 20 := rfl
  have h60 : tcpMaxHeaderOctets = 60 := rfl
  have hcount : seg.options.length ≤ optionsLength seg := by
    rw [optionsLength, ← length_map TCPOption.length]
    refine length_le_sum_of_one_le _ fun n hn => ?_
    obtain ⟨o, ho, rfl⟩ := mem_map.1 hn
    exact (h.options o ho).pos
  have hoctets : (seg.options.flatMap optionOctets).length = optionsLength seg := by
    rw [length_flatMap, optionsLength]
    exact congrArg sum (map_congr_left fun o ho => (h.options o ho).optionOctets_length)
  unfold storeAllOptions
  dsimp only
  rw [Nat.mod_eq_of_lt (by omega), take_length]
  by_cases hnone : seg.options = []
  · have hzero : optionsLength seg = 0 := by
      rw [optionsLength, hnone]
      rfl
    have hlen : seg.headerLength = tcpHeaderOctets := by omega
    refine ⟨m, ?_, fun _ _ _ => rfl, hoffs.trans hlen.symm, ?_⟩
    · rw [hnone, hlen]
      rfl
    · rw [paddedOptions_octets, hlen, hnone, hzero]
      rfl
  · have hle : 0 + (seg.options.map TCPOption.length).sum ≤
        (seg.headerLength + 2 ^ 32 - tcpHeaderOctets) % 2 ^ 32 := by
      change 0 + optionsLength seg ≤ _
      omega
    have hsum : (seg.options.map TCPOption.length).sum = optionsLength seg := rfl
    have hpadded : optionsLength seg + (4 - optionsLength seg % 4) % 4 =
        seg.headerLength - tcpHeaderOctets := by omega
    -- the options and the padding are one run of octets
    have hrun : ((m.store tcpHeaderOctets (seg.options.flatMap optionOctets)).store
        (tcpHeaderOctets + optionsLength seg)
        (replicate ((4 - optionsLength seg % 4) % 4) 0)) =
          m.store tcpHeaderOctets ((paddedOptions seg).flatMap optionOctets) := by
      rw [paddedOptions_octets, store_append, hoctets]
    have hlen : ((paddedOptions seg).flatMap optionOctets).length =
        seg.headerLength - tcpHeaderOctets := by
      rw [paddedOptions_octets, length_append, hoctets, length_replicate, hpadded]
    rw [if_pos (length_pos_iff.2 hnone), storeOptions_eq h.options m hle, ok_bind]
    dsimp only
    rw [hsum, Nat.add_zero, Nat.zero_add, hrun, hpadded, if_pos (by omega)]
    refine ⟨_, rfl, fun a ha ha' => ?_, ?_, ?_⟩
    · rw [storeOffs_of_ne _ _ ha', store_of_lt _ _ (by omega)]
    · rw [storeOffs_offs _ (by omega)]
      omega
    · rw [load_congr fun k _ => storeOffs_of_ne _ _ (by omega), load_store_of_length _ _ hlen]

/-- A segment is written. -/
theorem serialize_encodes (h : SegmentWellFormed seg) (m : Memory) :
    ∃ m', serialize seg m = .ok (m', seg.byteLength) ∧ Encodes seg m' := by
  have hlen := h.byteLength
  have hhead := h.headerLength
  have h20 : tcpHeaderOctets = 20 := rfl
  obtain ⟨m1, hwrite, hsame, hoffs, hoptions⟩ :=
    storeAllOptions_eq h (storeHeader seg m) (storeHeader_offs seg m)
  have hheader : EncodesHeader seg m1 :=
    (storeHeader_encodes seg m).congr fun a ha h1 _ _ => hsame a ha h1
  have hdata : storeData seg m1 (seg.headerLength - tcpHeaderOctets) =
      .ok (m1.store seg.headerLength seg.byteArray) := by
    unfold storeData
    dsimp only
    split_ifs with h1 h2 h3
    · rw [show tcpHeaderOctets + (seg.headerLength - tcpHeaderOctets) = seg.headerLength by omega]
    · omega
    · omega
    · rw [eq_nil_of_length_eq_zero (by omega : seg.byteArray.length = 0), store_nil]
  refine ⟨m1.store seg.headerLength seg.byteArray, ?_, ?_, ?_, ?_, ?_⟩
  · rw [serialize, hwrite, ok_bind]
    dsimp only
    rw [hdata]
    rfl
  · exact hheader.congr fun a ha _ _ _ => m1.store_of_lt _ (by omega)
  · rw [m1.store_of_lt _ (by omega), hoffs]
  · rw [load_store_of_disjoint _ _ (.inl (by omega)), hoptions]
  · exact m1.load_store _ _

/-- The checksum is filled in. -/
theorem serializeWithChecksum_encodes (h : SegmentWellFormed seg) (m : Memory)
    {srcIp destIp : IPvXAddress}
    (haddr : (addressOctets srcIp).length = (addressOctets destIp).length) :
    ∃ m', serializeWithChecksum seg m srcIp destIp = .ok (m', seg.byteLength) ∧ Encodes seg m' := by
  obtain ⟨m1, hwrite, hm⟩ := serialize_encodes h m
  have hlen : tcpHeaderOctets ≤ seg.headerLength := by
    rw [h.headerLength]
    exact Nat.le_add_right ..
  rw [serializeWithChecksum, hwrite, ok_bind]
  dsimp only
  rw [tcpChecksum, if_neg (not_not.2 haddr)]
  refine ⟨_, rfl, hm.congr hlen fun a h1 h2 => ?_⟩
  rcases Nat.lt_or_gt_of_ne h1 with hlt | hgt
  · exact store_of_lt _ _ hlt
  · exact store_of_le _ _ (show 16 + 2 ≤ a by omega)

/-- A segment that is written is read back, whatever was in the buffer before: with the same
fields and data, and with the padding as further end-of-option options. -/
theorem parse_serialize (seg : TCPWireSegment) (h : SegmentWellFormed seg) (m : Memory) :
    (∃ m', serialize seg m = .ok (m', seg.byteLength) ∧
      parse (fun a => .ok (m' a)) seg.byteLength true = .ok (received seg)) ∧
    ∀ srcIp destIp : IPvXAddress,
      (addressOctets srcIp).length = (addressOctets destIp).length →
      ∃ m', serializeWithChecksum seg m srcIp destIp = .ok (m', seg.byteLength) ∧
        parse (fun a => .ok (m' a)) seg.byteLength true = .ok (received seg) := by
  refine ⟨?_, fun srcIp destIp haddr => ?_⟩
  · obtain ⟨m', hwrite, hm⟩ := serialize_encodes h m
    exact ⟨m', hwrite, hm.parse_eq h⟩
  · obtain ⟨m', hwrite, hm⟩ := serializeWithChecksum_encodes h m haddr
    exact ⟨m', hwrite, hm.parse_eq h⟩

/-- A segment with a maximum segment size of 1460 octets, a window scale of 7, and three octets of
data. -/
def sampleSegment : TCPWireSegment where
  srcPort := 1000
  destPort := 80
  sequenceNo := 7
  ackNo := 9
  ackBit := true
  window := 4096
  headerLength := 28
  options := [⟨2, 4, [1460]⟩, ⟨3, 3, [7]⟩]
  byteArray := [1, 2, 3]
  byteLength := 31

theorem parse_serialize_sample :
    SegmentWellFormed sampleSegment ∧
    ∃ m', serialize sampleSegment (fun _ => 0) = .ok (m', 31) ∧
      parse (fun a => .ok (m' a)) 31 true = .ok (received sampleSegment) := by
  have hwell : SegmentWellFormed sampleSegment :=
    { options := by
        intro o ho
        rcases mem_cons.1 ho with rfl | ho
        · exact ⟨by decide, by decide, by decide, by decide, rfl, by decide⟩
        · rw [mem_singleton.1 ho]
          exact ⟨by decide, by decide, by decide, by decide, rfl, by decide⟩
      headerLength := by decide
      headerLength_le := by decide
      byteLength := by decide
      byteLength_lt := by decide
      window_lt := by decide }
  exact ⟨hwell, (parse_serialize sampleSegment hwell _).1⟩

/-- A maximum segment size that does not fit in its two octets is read back as another one. -/
theorem not_parse_serialize_sample :
    let seg : TCPWireSegment :=
      { headerLength := 24, byteLength := 24, options := [⟨2, 4, [70000]⟩] }
    seg.headerLength = tcpHeaderOctets + (optionsLength seg + 3) / 4 * 4 ∧
    ∃ m' seg', serialize seg (fun _ => 0) = .ok (m', 24) ∧
      parse (fun a => .ok (m' a)) 24 true = .ok seg' ∧ seg'.options = [⟨2, 4, [4464]⟩] ∧
      ¬ seg.options <+: seg'.options := by
  refine ⟨by decide, _, _, rfl, rfl, by decide +kernel, by decide +kernel⟩

end Segments

end TCPSerializer

end Wire

end Hiwis
