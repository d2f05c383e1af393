import Hiwis.Lib.OnesComplement
import Hiwis.Wire.IPv4RoundTrip
import Hiwis.Wire.TCPRoundTrip

/-!
# The checksums of the serializers

`Wire.Checked` says that the checksum of a packet is the one of RFC 1071.  `IPv4Serializer` and
`TCPSerializer` set the checksum to 0 before they sum up.  `ICMPSerializer` and `UDPSerializer` sum
up what the buffer has held there.

* `Wire.rawChecksum_eq` : the carries are added later, with the same result;
* `Wire.ofOctets_ipChecksum`, `Wire.TCPSerializer.ofOctets_tcpChecksum` : what is written;
* `Wire.checksums_iff` : when the checksum that a serializer writes is right.
-/

namespace Hiwis

open Except Memory

namespace Wire

variable (l : List UInt8)

/-! ### Sums in the order of the host -/

/-- The plain sum of the words in the order of the host. -/
def hostWordSum : List UInt8 → ℕ
  | a :: b :: l => a.toNat + 256 * b.toNat + hostWordSum l
  | [a] => a.toNat
  | [] => 0

theorem hostWordSum_spec : hostWordSum l % 65535 = 256 * wordSum l % 65535 ∧
    (hostWordSum l = 0 ↔ wordSum l = 0) := by
  induction l using hostWordSum.induct with
  | case1 a b l ih =>
    rw [hostWordSum, wordSum]
    omega
  | case2 a =>
    rw [hostWordSum, wordSum]
    omega
  | case3 => simp [hostWordSum, wordSum]

theorem checksumLoop_spec (sum : ℕ) : checksumLoop sum l % 65535 = (sum + hostWordSum l) % 65535 ∧
    (checksumLoop sum l = 0 ↔ sum + hostWordSum l = 0) := by
  induction l using hostWordSum.induct generalizing sum with
  | case1 a b l ih =>
    rw [checksumLoop, hostWordSum]
    split_ifs
    · have := ih ((sum + (a.toNat + 256 * b.toNat)) % 2 ^ 16 +
        (sum + (a.toNat + 256 * b.toNat)) / 2 ^ 16)
      omega
    · have := ih (sum + (a.toNat + 256 * b.toNat))
      omega
  | case2 a => simp [checksumLoop, hostWordSum]
  | case3 => simp [checksumLoop, hostWordSum]

theorem addCarries_eq (sum : ℕ) : addCarries sum = onesSum sum := by
  induction sum using addCarries.induct with
  | case1 sum h ih =>
    rw [addCarries, if_pos h, ih]
    exact onesSum_congr (by omega) (by omega)
  | case2 sum h =>
    rw [addCarries, if_neg h]
    exact (onesSum_eq_iff.2 ⟨by omega, rfl, Iff.rfl⟩).symm

theorem rawChecksum_eq : rawChecksum l = onesSum (hostWordSum l) := by
  obtain ⟨hmod, hzero⟩ := checksumLoop_spec l 0
  rw [rawChecksum, addCarries_eq]
  exact onesSum_congr (by omega) (by omega)

/-! ### From the order of the host to that of the wire -/

theorem htons_spec {x : ℕ} (h : x ≤ 65535) :
    htons x ≤ 65535 ∧ htons x % 65535 = 256 * x % 65535 ∧ (htons x = 0 ↔ x = 0) := by
  have hhigh : x / 256 % 256 = x / 256 := Nat.mod_eq_of_lt (by omega)
  have hmul : 256 * x = x % 256 * 256 + x / 256 + 65535 * (x / 256) := by omega
  rw [htons, hhigh, hmul, Nat.add_mul_mod_self_left]
  omega

theorem ofOctets_hostOctets (x : ℕ) : ofOctets (hostOctets x) = htons x := by
  simp [ofOctets, hostOctets, htons]

/-- Swapping the octets of a sum is the same as multiplying it by 256. -/
theorem ofOctets_complement (n : ℕ) :
    ofOctets (hostOctets (2 ^ 16 - 1 - onesSum n)) = 2 ^ 16 - 1 - onesSum (256 * n) := by
  obtain ⟨hle, hmod, hzero⟩ := onesSum_spec n
  obtain ⟨hle', hmod', hzero'⟩ := htons_spec hle
  have hswap : onesSum (256 * n) = htons (onesSum n) := onesSum_eq_iff.2 ⟨hle', by omega, by omega⟩
  rw [ofOctets_hostOctets, hswap]
  unfold htons
  omega

theorem ofOctets_ipChecksum :
    ofOctets (hostOctets (ipChecksum l)) = 2 ^ 16 - 1 - onesSum (wordSum l) := by
  obtain ⟨hmod, hzero⟩ := hostWordSum_spec l
  rw [ipChecksum, rawChecksum_eq, ofOctets_complement]
  congr 1
  exact onesSum_congr (by omega) (by omega)

theorem wordSum_octets (v : ℕ) : wordSum (toOctets 2 v) = v % 2 ^ 16 :=
  (wordSum_pair _ _).trans (ofOctets_toOctets_mod 2 v)

namespace TCPSerializer

/-- The octets of an address on the wire. -/
def wireAddress : IPvXAddress → List UInt8
  | .ipv4 addr => toOctets 4 addr.toNat
  | .ipv6 addr => toOctets 16 addr.toNat

/-- The pseudo header: the addresses, the protocol and the length. -/
def pseudoHeader (srcIp destIp : IPvXAddress) (n : ℕ) : List UInt8 :=
  wireAddress srcIp ++ wireAddress destIp ++ [0, 6] ++ toOctets 2 n

/-- The words of an address are in the order of the host. -/
theorem hostWordSum_addressOctets (addr : IPvXAddress) :
    hostWordSum (addressOctets addr) = wordSum (wireAddress addr) := by
  cases addr with
  | ipv4 addr =>
    simp [addressOctets, wireAddress, toOctets, hostWordSum, wordSum]
    omega
  | ipv6 addr =>
    simp [addressOctets, wireAddress, toOctets, hostWordSum, wordSum, Nat.div_div_eq_div_mul]
    omega

theorem even_wireAddress (addr : IPvXAddress) : Even (wireAddress addr).length := by
  cases addr <;> simp [wireAddress] <;> decide

theorem even_pseudoHeader (srcIp destIp : IPvXAddress) (n : ℕ) :
    Even (pseudoHeader srcIp destIp n).length := by
  have hsrc := even_wireAddress srcIp
  have hdest := even_wireAddress destIp
  simp [pseudoHeader, Nat.even_add, hsrc, hdest]
  decide

theorem wordSum_pseudoHeader (srcIp destIp : IPvXAddress) (n : ℕ) :
    wordSum (pseudoHeader srcIp destIp n) =
      wordSum (wireAddress srcIp) + wordSum (wireAddress destIp) + 6 + n % 2 ^ 16 := by
  have hsrc := even_wireAddress srcIp
  have hdest := even_wireAddress destIp
  rw [pseudoHeader, wordSum_append _ _ (by simp [Nat.even_add, hsrc, hdest]),
    wordSum_append _ _ (by simp [Nat.even_add, hsrc, hdest]), wordSum_append _ _ hsrc,
    wordSum_octets]
  rfl

theorem ofOctets_tcpChecksum {srcIp destIp : IPvXAddress} {sum : ℕ}
    (h : tcpChecksum l srcIp destIp = .ok sum) : ofOctets (hostOctets sum) =
      2 ^ 16 - 1 - onesSum (wordSum (pseudoHeader srcIp destIp l.length ++ l)) := by
  rw [tcpChecksum] at h
  split_ifs at h
  cases h
  rw [addCarries_eq, ofOctets_complement, wordSum_append _ _ (even_pseudoHeader ..),
    wordSum_pseudoHeader, ← hostWordSum_addressOctets, ← hostWordSum_addressOctets]
  congr 1
  -- a sum that has been swapped once more is the sum itself
  have hswap : ∀ l, htons (rawChecksum l) ≤ 65535 ∧
      256 * htons (rawChecksum l) % 65535 = hostWordSum l % 65535 := by
    intro l
    obtain ⟨hle, hmod, -⟩ := onesSum_spec (hostWordSum l)
    obtain ⟨hle', hmod', -⟩ := htons_spec hle
    rw [rawChecksum_eq]
    omega
  have hsrc := hswap (addressOctets srcIp)
  have hdest := hswap (addressOctets destIp)
  obtain ⟨hmod, -⟩ := hostWordSum_spec l
  obtain ⟨-, hraw, -⟩ := onesSum_spec (hostWordSum l)
  have hlength : 256 * htons l.length % 65535 = l.length % 2 ^ 16 % 65535 := by
    have hlow : htons l.length = htons (l.length % 2 ^ 16) := by
      unfold htons
      omega
    obtain ⟨-, hmod, -⟩ := htons_spec (x := l.length % 2 ^ 16) (by omega)
    rw [hlow]
    omega
  have hprotocol : htons 6 = 1536 := rfl
  rw [rawChecksum_eq, hprotocol]
  exact onesSum_congr (by omega) (by omega)

/-! ### The header while the rest is written -/

theorem storeValues_of_lt {m : Memory} {addr length k a : ℕ} (values : List SeqNo) (h : a < addr) :
    storeValues m addr length k values a = m a := by
  induction values generalizing m k with
  | nil => rfl
  | cons value values ih =>
    rw [storeValues, ih, storeValue_eq]
    exact m.store_of_lt _ (by omega)

theorem storeOption_of_lt {m : Memory} {addr a : ℕ} (option : TCPOption) (h : a < addr) :
    storeOption m addr option a = m a := by
  have hkind := m.store_of_lt [UInt8.ofNat option.kind] h
  rw [storeOption, storeValues_of_lt _ h]
  split_ifs
  · exact (store_of_lt _ _ (by omega)).trans hkind
  · exact hkind

theorem storeOptions_of_lt {options : List TCPOption} {m m' : Memory}
    {maxOptLength lengthCounter n a : ℕ} (ha : a < tcpHeaderOctets)
    (h : storeOptions maxOptLength m lengthCounter options = .ok (m', n)) : m' a = m a := by
  induction options generalizing m lengthCounter with
  | nil =>
    cases h
    rfl
  | cons option options ih =>
    rw [storeOptions] at h
    split_ifs at h
    exact (ih h).trans (storeOption_of_lt option (by omega))

variable {seg : TCPWireSegment}

theorem storeAllOptions_of_lt {m m' : Memory} {n a : ℕ} (ha : a < tcpHeaderOctets) (hne : a ≠ 12)
    (h : storeAllOptions seg m = .ok (m', n)) :
    m' a = m a := by
  unfold storeAllOptions at h
  dsimp only at h
  split_ifs at h
  · obtain ⟨⟨m1, k⟩, hoptions, h⟩ := bind_eq_ok.1 h
    dsimp only at h
    split_ifs at h
    cases h
    rw [storeOffs_of_ne _ _ hne, store_of_lt _ _ (by omega)]
    exact storeOptions_of_lt ha hoptions
  · cases h
    rfl

theorem storeData_of_lt {m m' : Memory} {n a : ℕ} (ha : a < tcpHeaderOctets)
    (h : storeData seg m n = .ok m') : m' a = m a := by
  unfold storeData at h
  dsimp only at h
  split_ifs at h <;> cases h
  · exact m.store_of_lt _ (by omega)
  · exact m.store_of_lt _ (by omega)
  · rfl

/-- The checksum is 0 when the segment has been written. -/
theorem serialize_checksum {m m' : Memory} {n : ℕ} (h : serialize seg m = .ok (m', n)) :
    m'.load 16 2 = [0, 0] := by
  obtain ⟨⟨m1, k⟩, hoptions, h⟩ := bind_eq_ok.1 h
  obtain ⟨m2, hdata, h⟩ := bind_eq_ok.1 h
  cases h
  have hheader : (storeHeader seg m).load 16 2 = [0, 0] := by
    unfold storeHeader storeOffs
    simp (disch := simp) only [load_store_of_disjoint, load_store_of_length]
  rw [← hheader]
  refine load_congr fun k hk => ?_
  have ha : 16 + k < tcpHeaderOctets := show 16 + k < 20 by omega
  exact (storeData_of_lt ha hdata).trans (storeAllOptions_of_lt ha (by omega) hoptions)

end TCPSerializer

/-! ### Right checksums -/

/-- The checksum at an address covers a pseudo header and the first `n` octets.  It is the
complement of their sum with the checksum taken as 0, and the sum over everything is `0xFFFF`. -/
structure Checked (pseudo : List UInt8) (field n : ℕ) (m : Memory) : Prop where
  complement : ofOctets (m.load field 2) =
    2 ^ 16 - 1 - onesSum (wordSum (pseudo ++ (m.store field [0, 0]).load 0 n))
  resum : onesSum (wordSum (pseudo ++ m.load 0 n)) = 2 ^ 16 - 1

/-- The sum over what is there, in the field of the checksum too, is written into the field. -/
theorem checked_iff {pseudo : List UInt8} {field n x : ℕ} {m : Memory} (heven : Even pseudo.length)
    (hfield : Even field) (hn : field + 2 ≤ n) (hx : ofOctets (hostOctets x) =
      2 ^ 16 - 1 - onesSum (wordSum (pseudo ++ m.load 0 n))) :
    Checked pseudo field n (m.store field (hostOctets x)) ↔
      ofOctets (m.load field 2) = 0 ∨ ofOctets (m.load field 2) = 2 ^ 16 - 1 ∧
        wordSum (pseudo ++ (m.store field [0, 0]).load 0 n) ≠ 0 := by
  have hwritten : (m.store field (hostOctets x)).load field 2 = hostOctets x :=
    load_store_of_length _ _ rfl
  have hzero : (m.store field (hostOctets x)).store field [0, 0] = m.store field [0, 0] :=
    store_store _ _ _ _ rfl
  have hsplit := wordSum_load m hfield hn
  have hresum := wordSum_load (m.store field (hostOctets x)) hfield hn
  rw [hzero, hwritten] at hresum
  have hle : ofOctets (m.load field 2) ≤ 65535 := by
    have := ofOctets_lt (m.load field 2)
    simp at this
    omega
  rw [wordSum_append _ _ heven] at hx ⊢
  rw [hsplit, ← Nat.add_assoc] at hx
  have hsum := onesSum_spec
    (wordSum pseudo + wordSum ((m.store field [0, 0]).load 0 n) + ofOctets (m.load field 2))
  have hsum' := onesSum_spec (wordSum pseudo + wordSum ((m.store field [0, 0]).load 0 n))
  refine Iff.trans ?_ (onesSum_eq_onesSum_add hle)
  constructor
  · intro h
    have hcomplement := h.complement
    rw [hzero, hwritten, hx, wordSum_append _ _ heven] at hcomplement
    omega
  · intro h
    rw [h] at hx
    refine ⟨?_, ?_⟩
    · rw [hzero, hwritten, hx, wordSum_append _ _ heven]
    · rw [wordSum_append _ _ heven, hresum, hx, ← Nat.add_assoc]
      exact onesSum_add_complement _

/-- Without a pseudo header. -/
theorem checked_ipChecksum_iff {field n : ℕ} {m : Memory} (hfield : Even field)
    (hn : field + 2 ≤ n) :
    Checked [] field n (m.store field (hostOctets (ipChecksum (m.load 0 n)))) ↔
      ofOctets (m.load field 2) = 0 ∨ ofOctets (m.load field 2) = 2 ^ 16 - 1 ∧
        wordSum ((m.store field [0, 0]).load 0 n) ≠ 0 :=
  checked_iff (by simp) hfield hn (ofOctets_ipChecksum _)

/-- A header of eight octets, word by word. -/
theorem wordSum_header (m : Memory) {n : ℕ} (hn : 8 ≤ n) : wordSum (m.load 0 n) =
    ofOctets (m.load 0 2) + ofOctets (m.load 2 2) + ofOctets (m.load 4 2) + ofOctets (m.load 6 2) +
      wordSum (m.load 8 (n - 8)) := by
  obtain ⟨k, rfl⟩ := Nat.exists_eq_add_of_le hn
  have hword : ∀ a, wordSum (m.load a 2) = ofOctets (m.load a 2) := fun a => wordSum_pair ..
  have hsplit : m.load 0 (8 + k) =
      m.load 0 2 ++ m.load 2 2 ++ m.load 4 2 ++ m.load 6 2 ++ m.load 8 k := by
    rw [m.load_add 0 8 k, m.load_add 0 6 2, m.load_add 0 4 2, m.load_add 0 2 2]
  rw [hsplit, Nat.add_sub_cancel_left, wordSum_append _ _ (by simp; decide),
    wordSum_append _ _ (by simp; decide), wordSum_append _ _ (by simp; decide),
    wordSum_append _ _ (by simp), hword, hword, hword, hword]

/-- The octets of the packet are 0 but for those of the checksum. -/
def UDPSerializer.IsBlank (pkt : UDPPacket) (m : Memory) : Prop :=
  pkt.sourcePort = 0 ∧ pkt.destinationPort = 0 ∧ pkt.byteLength % 2 ^ 16 = 0 ∧
    ∀ b ∈ m.load udpHeaderBytes (pkt.byteLength % 2 ^ 32 - udpHeaderBytes), b = 0

/-- The message is an echo reply whose octets are 0 but for those of the checksum. -/
def ICMPSerializer.IsBlank {D : Type} (pkt : ICMPMessage D) : Prop :=
  pkt.type = icmpEchoReply ∧ ∃ pp, pkt.encapsulatedPacket = .ping pp ∧
    pp.originatorId % 2 ^ 16 = 0 ∧ pp.seqNo % 2 ^ 16 = 0 ∧
      ∀ b ∈ pp.data.take ((icmpMinLen + pp.data.length) % 2 ^ 32 - icmpMinLen), b = 0

theorem UDPSerializer.checked_iff (pkt : UDPPacket) (m : Memory)
    (hn : udpHeaderBytes ≤ pkt.byteLength % 2 ^ 32) :
    Checked [] 6 (pkt.byteLength % 2 ^ 32) (serialize pkt m).1 ↔
      ofOctets (m.load 6 2) = 0 ∨ ofOctets (m.load 6 2) = 2 ^ 16 - 1 ∧ ¬IsBlank pkt m := by
  unfold udpHeaderBytes at hn
  unfold serialize
  dsimp only
  rw [checked_ipChecksum_iff (by decide) (by omega), ne_eq, wordSum_header _ hn]
  simp (disch := simp) only [load_store_of_disjoint, load_store_of_length]
  have hzero : ofOctets [0, 0] = 0 := rfl
  have hport : ∀ port : UInt16, ofOctets (toOctets 2 port.toNat) = 0 ↔ port = 0 := by
    intro port
    rw [ofOctets_toOctets (n := 2) port.toNat_lt, ← UInt16.toNat_inj]
    rfl
  have hlength : ofOctets (toOctets 2 (pkt.byteLength % 2 ^ 32)) = pkt.byteLength % 2 ^ 16 := by
    rw [ofOctets_toOctets_mod]
    omega
  rw [hzero, hlength, Nat.add_zero, Nat.add_eq_zero_iff, Nat.add_eq_zero_iff, Nat.add_eq_zero_iff,
    hport, hport, wordSum_eq_zero, and_assoc, and_assoc]
  rfl

namespace ICMPSerializer

variable {D O : Type} {others : OtherSerializers D O} {pkt : ICMPMessage D} {m m' : Memory} {n : ℕ}

/-- The first octet of the message is not 0. -/
theorem wordSum_ne_zero {m0 : Memory} (h : m0 0 ≠ 0) (hn : icmpMinLen ≤ n) :
    wordSum ((m0.store 2 [0, 0]).load 0 n) ≠ 0 := by
  intro hsum
  have hmem : m0.store 2 [0, 0] 0 ∈ (m0.store 2 [0, 0]).load 0 n := by
    unfold icmpMinLen at hn
    exact List.mem_map_of_mem (List.mem_range'_1.2 (by omega))
  exact h ((wordSum_eq_zero _).1 hsum _ hmem)

theorem storeEcho_octet (type : UInt8) (pp : PingPayload) (data : List UInt8) (m : Memory) :
    (storeEcho type pp data m).1 0 = type := by
  simp [storeEcho, store]

theorem storeEcho_checksum (type : UInt8) (pp : PingPayload) (data : List UInt8) (m : Memory) :
    (storeEcho type pp data m).1.load 2 2 = m.load 2 2 := by
  unfold storeEcho
  simp (disch := simp) only [load_store_of_disjoint]

theorem storeEcho_blank (pp : PingPayload) (m : Memory)
    (hn : icmpMinLen ≤ (storeEcho wireEchoReply pp pp.data m).2) :
    wordSum (((storeEcho wireEchoReply pp pp.data m).1.store 2 [0, 0]).load 0
      (storeEcho wireEchoReply pp pp.data m).2) = 0 ↔
    pp.originatorId % 2 ^ 16 = 0 ∧ pp.seqNo % 2 ^ 16 = 0 ∧
      ∀ b ∈ pp.data.take ((icmpMinLen + pp.data.length) % 2 ^ 32 - icmpMinLen), b = 0 := by
  have hsecond : (storeEcho wireEchoReply pp pp.data m).2 =
    (icmpMinLen + pp.data.length) % 2 ^ 32 := rfl
  rw [hsecond] at hn ⊢
  unfold icmpMinLen at hn ⊢
  have hdata : ((storeEcho wireEchoReply pp pp.data m).1.store 2 [0, 0]).load 8
      ((8 + pp.data.length) % 2 ^ 32 - 8) = pp.data.take ((8 + pp.data.length) % 2 ^ 32 - 8) := by
    have hload : ((storeEcho wireEchoReply pp pp.data m).1.store 2 [0, 0]).load 8 pp.data.length =
        pp.data := by
      unfold storeEcho
      simp (disch := simp) only [load_store_of_disjoint, load_store]
    rw [← load_take _ 8 (show (8 + pp.data.length) % 2 ^ 32 - 8 ≤ pp.data.length by omega), hload]
  have hnumber : ∀ x : ℤ, ofOctets (octets16 x) = 0 ↔ x % 2 ^ 16 = 0 := by
    intro x
    have := ofOctets_octets16 x
    omega
  rw [wordSum_header _ hn, hdata]
  unfold storeEcho
  simp (disch := simp) only [load_store_of_disjoint, load_store_of_length]
  have hzero : ofOctets [0, 0] = 0 := rfl
  have htype : ofOctets [wireEchoReply, 0] = 0 := rfl
  rw [hzero, htype, Nat.zero_add, Nat.add_eq_zero_iff, Nat.add_eq_zero_iff, hnumber,
    hnumber, wordSum_eq_zero, and_assoc]

/-- The checksum is filled in last, and what has been at its place before is covered. -/
theorem of_serialize_ok (h : serialize others pkt m = .ok (m', n)) (hn : icmpMinLen ≤ n) :
    ∃ m0 : Memory, m' = m0.store 2 (hostOctets (ipChecksum (m0.load 0 n))) ∧
      m0.load 2 2 = m.load 2 2 ∧
      (wordSum ((m0.store 2 [0, 0]).load 0 n) = 0 ↔ IsBlank pkt) := by
  have hother : pkt.type ≠ icmpEchoReply → ∀ m0 : Memory, m0 0 ≠ 0 →
      (wordSum ((m0.store 2 [0, 0]).load 0 n) = 0 ↔ IsBlank pkt) :=
    fun htype m0 h0 => iff_of_false (wordSum_ne_zero h0 hn) fun hblank => htype hblank.1
  have herror : ∀ (type code : UInt8) (payload : ICMPPayload D) (m0 : Memory) (k : ℕ), type ≠ 0 →
      storeError others type code payload m = .ok (m0, k) →
        m0 0 ≠ 0 ∧ m0.load 2 2 = m.load 2 2 := by
    intro type code payload m0 k htype herr
    unfold storeError at herr
    split at herr
    · obtain ⟨⟨m1, l⟩, -, herr⟩ := bind_eq_ok.1 herr
      cases herr
      refine ⟨?_, ?_⟩
      · rw [within_of_lt _ _ (by decide)]
        simpa [store] using htype
      · rw [load_within _ _ (by decide), load_store_of_disjoint _ _ (by simp)]
    · cases herr
  unfold serialize at h
  dsimp only at h
  split_ifs at h with hrequest hreply hunreach hexceeded
  · split at h
    · cases h
      exact ⟨_, rfl, storeEcho_checksum .., hother (by rw [hrequest]; decide) _
        (by rw [storeEcho_octet]; decide)⟩
    · cases h
  · split at h
    · rename_i pp hpp
      cases h
      refine ⟨_, rfl, storeEcho_checksum .., (storeEcho_blank pp m hn).trans ?_⟩
      constructor
      · exact fun hblank => ⟨hreply, pp, hpp, hblank⟩
      · rintro ⟨-, pp', hpp', hblank⟩
        rw [hpp] at hpp'
        cases hpp'
        exact hblank
    · cases h
  · obtain ⟨⟨m0, k⟩, herr, h⟩ := bind_eq_ok.1 h
    cases h
    obtain ⟨h0, hfield⟩ := herror _ _ _ m0 _ (by decide) herr
    exact ⟨m0, rfl, hfield, hother (by rw [hunreach]; decide) m0 h0⟩
  · obtain ⟨⟨m0, k⟩, herr, h⟩ := bind_eq_ok.1 h
    cases h
    obtain ⟨h0, hfield⟩ := herror _ _ _ m0 _ (by decide) herr
    exact ⟨m0, rfl, hfield, hother (by rw [hexceeded]; decide) m0 h0⟩
  · cases h
    cases hn

end ICMPSerializer

/-! ### The serializers -/

/-- The serializers that write a checksum, and what they write. -/
inductive Checksummed (D O : Type)
  | ipv4 (dgram : IPv4Datagram (Packet D O))
  | icmp (pkt : ICMPMessage D)
  | udp (pkt : UDPPacket)
  | tcp (seg : TCPWireSegment) (srcIp destIp : IPvXAddress)

namespace Checksummed

variable {D O : Type}

def serialize (others : OtherSerializers D O) :
    Checksummed D O → Memory → Except SerializeFault (Memory × ℕ)
  | ipv4 dgram, m => IPv4Serializer.serialize others dgram m true
  | icmp pkt, m => ICMPSerializer.serialize others pkt m
  | udp pkt, m => .ok (UDPSerializer.serialize pkt m)
  | tcp seg srcIp destIp, m => TCPSerializer.serializeWithChecksum seg m srcIp destIp

/-- The length of the header. -/
def headerBytes : Checksummed D O → ℕ
  | ipv4 _ => ipHeaderBytes
  | icmp _ => icmpMinLen
  | udp _ => udpHeaderBytes
  | tcp .. => tcpHeaderOctets

/-- Where the checksum is. -/
def field : Checksummed D O → ℕ
  | ipv4 _ => 10
  | icmp _ => 2
  | udp _ => 6
  | tcp .. => 16

def pseudoHeader (n : ℕ) : Checksummed D O → List UInt8
  | tcp _ srcIp destIp => TCPSerializer.pseudoHeader srcIp destIp n
  | _ => []

/-- How many octets the checksum of a packet of the given length covers. -/
def covered (n : ℕ) : Checksummed D O → ℕ
  | ipv4 _ => ipHeaderBytes
  | _ => n

/-- What the buffer has to hold at the place of the checksum. -/
def IsClear (m : Memory) : Checksummed D O → Prop
  | icmp pkt => ofOctets (m.load 2 2) = 0 ∨
      ofOctets (m.load 2 2) = 2 ^ 16 - 1 ∧ ¬ICMPSerializer.IsBlank pkt
  | udp pkt => ofOctets (m.load 6 2) = 0 ∨
      ofOctets (m.load 6 2) = 2 ^ 16 - 1 ∧ ¬UDPSerializer.IsBlank pkt m
  | _ => True

end Checksummed

/-- **Checksums.**  The carries may be added at any time.  A packet that contains its header has a
right checksum if and only if the serializer has set the field to 0 or has found it clear. -/
theorem checksums_iff {D O : Type} (others : OtherSerializers D O) :
    (∀ l, rawChecksum l % (2 ^ 16 - 1) = hostWordSum l % (2 ^ 16 - 1)) ∧
    ∀ (p : Checksummed D O) (m m' : Memory) (n : ℕ), p.serialize others m = .ok (m', n) →
      p.headerBytes ≤ n →
      (Checked (p.pseudoHeader n) p.field (p.covered n) m' ↔ p.IsClear m) := by
  refine ⟨fun l => ?_, fun p m m' n h hn => ?_⟩
  · rw [rawChecksum_eq]
    exact (onesSum_spec _).2.1
  cases p with
  | ipv4 dgram =>
    change Checked [] 10 ipHeaderBytes m' ↔ True
    obtain ⟨⟨m₁, k⟩, -, h⟩ := bind_eq_ok.1 h
    cases h
    refine iff_of_true ((checked_ipChecksum_iff (by decide) (by decide)).2 (.inl ?_)) trivial
    have hzero : (IPv4Serializer.storeHeader dgram m).load 10 2 = [0, 0] :=
      load_store_of_length _ _ rfl
    rw [load_store_of_disjoint _ _ (by simp), load_within _ _ (by decide), hzero]
    rfl
  | icmp pkt =>
    change icmpMinLen ≤ n at hn
    change Checked [] 2 n m' ↔ ofOctets (m.load 2 2) = 0 ∨
      ofOctets (m.load 2 2) = 2 ^ 16 - 1 ∧ ¬ICMPSerializer.IsBlank pkt
    obtain ⟨m₀, rfl, hfield, hblank⟩ := ICMPSerializer.of_serialize_ok h hn
    rw [checked_ipChecksum_iff (by decide) (le_trans (by decide) hn), hfield, ne_eq, hblank]
  | udp pkt =>
    cases h
    exact UDPSerializer.checked_iff pkt m hn
  | tcp seg srcIp destIp =>
    change tcpHeaderOctets ≤ n at hn
    change Checked (TCPSerializer.pseudoHeader srcIp destIp n) 16 n m' ↔ True
    obtain ⟨⟨m₀, k⟩, hm₀, h⟩ := bind_eq_ok.1 h
    obtain ⟨sum, hsum, h⟩ := bind_eq_ok.1 h
    cases h
    have hx := TCPSerializer.ofOctets_tcpChecksum _ hsum
    rw [load_length] at hx
    refine iff_of_true ((checked_iff (TCPSerializer.even_pseudoHeader ..) (by decide)
      (le_trans (by decide) hn) hx).2 (.inl ?_)) trivial
    rw [TCPSerializer.serialize_checksum hm₀]
    rfl

/-- A UDP packet without data, in a buffer that is clear. -/
def sampleHeader : UDPPacket where
  sourcePort := 1000
  destinationPort := 53
  encapsulatedPacket := ⟨0, []⟩

theorem checksums_iff_sample :
    Checked [] 6 8 (UDPSerializer.serialize sampleHeader fun _ => 0).1 :=
  ((checksums_iff IPv4Serializer.noOthers).2 (.udp sampleHeader) (fun _ => 0) _ 8 rfl (by decide)).2
    (.inl rfl)

/-- The buffer has held something else before. -/
theorem not_checksums : ¬∀ (D O : Type) (others : OtherSerializers D O) (p : Checksummed D O)
    (m m' : Memory) (n : ℕ), p.serialize others m = .ok (m', n) → p.headerBytes ≤ n →
      Checked (p.pseudoHeader n) p.field (p.covered n) m' := by
  intro h
  have hchecked :=
    h _ _ IPv4Serializer.noOthers (.udp sampleHeader) (fun _ => 1) _ 8 rfl (by decide)
  exact absurd hchecked.resum (by decide +kernel)

end Wire

end Hiwis
