import Hiwis.Wire.IPv4Serializer

/-!
# IPv4 datagrams are read back

A datagram with an echo or a UDP packet in it is written and read again.  The fields that the wire
has room for come back (`roundTrips_iff`), the data of an echo as well when it is all there is in
the message; of a UDP packet the data are never written.
-/

namespace Hiwis

open List Option Except Nat

namespace Wire

variable {D O : Type} {m : Memory} {n k : ℕ}

/-! ### UDP -/

namespace UDPSerializer

variable {pkt pkt' : UDPPacket}

/-- The header of a UDP packet in memory. -/
structure Encodes (pkt : UDPPacket) (m : Memory) : Prop where
  sourcePort : m.load 0 2 = toOctets 2 pkt.sourcePort.toNat
  destinationPort : m.load 2 2 = toOctets 2 pkt.destinationPort.toNat
  ulen : m.load 4 2 = toOctets 2 (pkt.byteLength % 2 ^ 32)

theorem serialize_encodes (pkt : UDPPacket) (m : Memory) : Encodes pkt (serialize pkt m).1 := by
  unfold serialize
  constructor <;> simp (disch := simp [hostOctets]) only [Memory.load_store_of_disjoint,
    Memory.load_store_of_length]

theorem Encodes.parse_eq (h : Encodes pkt m) (hempty : pkt.encapsulatedPacket = ⟨0, []⟩)
    (hk : udpHeaderBytes ≤ k) : parse (packet m k) = .ok pkt := by
  unfold udpHeaderBytes at hk
  have hlen : pkt.byteLength = 8 := by
    rw [UDPPacket.byteLength, hempty]
    rfl
  have hdata : (ofOctets (toOctets 2 (pkt.byteLength % 2 ^ 32)) + 2 ^ 32 - udpHeaderBytes) %
      2 ^ 32 = 0 := by
    rw [hlen]
    rfl
  rw [parse, fetch_packet (by omega), ok_bind, fetch_packet (by omega), ok_bind,
    fetch_packet (by omega), ok_bind, h.sourcePort, h.destinationPort, h.ulen, hdata,
    uint16_octets, uint16_octets]
  change Except.ok (UDPPacket.mk pkt.sourcePort pkt.destinationPort ⟨0, []⟩) = _
  rw [← hempty]

/-- The message that a UDP packet encapsulates has no octets after it has been read. -/
theorem Encodes.parse_ok (h : Encodes pkt m) (hparse : parse (packet m k) = .ok pkt) :
    pkt.encapsulatedPacket = ⟨0, []⟩ := by
  unfold parse at hparse
  obtain ⟨sport, hsport, hparse⟩ := bind_eq_ok.1 hparse
  obtain ⟨dport, hdport, hparse⟩ := bind_eq_ok.1 hparse
  obtain ⟨ulen, hulen, hparse⟩ := bind_eq_ok.1 hparse
  obtain ⟨data, hdata, hparse⟩ := bind_eq_ok.1 hparse
  have hpkt := Except.ok.inj hparse
  have hempty : pkt.encapsulatedPacket = ⟨0, data⟩ := by rw [← hpkt]
  have hbyteLength : pkt.byteLength = 8 := by
    rw [UDPPacket.byteLength, hempty]
    rfl
  -- so the length in the header is that of the header
  have hulen' : ulen = toOctets 2 (pkt.byteLength % 2 ^ 32) := by
    obtain ⟨-, h0 | hle⟩ := of_fetch_packet hulen
    · cases h0
    · rw [fetch_packet hle] at hulen
      rw [← Except.ok.inj hulen, h.ulen]
  rw [hulen', hbyteLength] at hdata
  rw [hempty, eq_nil_of_length_eq_zero (of_fetch_ok hdata).1]

end UDPSerializer

/-! ### ICMP -/

namespace ICMPSerializer

variable {pp pp' : PingPayload} {type : ℤ}

/-- The octet that stands for an echo on the wire. -/
def echoOctet (type : ℤ) : UInt8 := if type = icmpEchoRequest then wireEcho else wireEchoReply

/-- The octets of the data of an echo. -/
def echoData (type : ℤ) (pp : PingPayload) : List UInt8 :=
  if type = icmpEchoRequest then requestData pp else pp.data

/-- An echo in memory. -/
structure Encodes (octet : UInt8) (pp : PingPayload) (data : List UInt8) (m : Memory) : Prop where
  type : m 0 = octet
  originatorId : m.load 4 2 = octets16 pp.originatorId
  seqNo : m.load 6 2 = octets16 pp.seqNo
  data : m.load 8 data.length = data

/-- The fields of an echo that the wire has room for, and data that are all of the message. -/
structure Fits (pp : PingPayload) : Prop where
  originatorId : 0 ≤ pp.originatorId ∧ pp.originatorId < 2 ^ 16
  seqNo : 0 ≤ pp.seqNo ∧ pp.seqNo < 2 ^ 16
  byteLength : pp.byteLength = pp.data.length + 4
  length_lt : ipHeaderBytes + icmpMinLen + pp.data.length < 2 ^ 16

theorem ofOctets_octets16 (x : ℤ) : (ofOctets (octets16 x) : ℤ) = x % 2 ^ 16 := by
  rw [octets16, ofOctets_toOctets (n := 2) (by omega)]
  omega

@[simp] theorem octets16_length (x : ℤ) : (octets16 x).length = 2 := toOctets_length _ _

theorem storeEcho_encodes (octet : UInt8) (pp : PingPayload) (data : List UInt8) (m : Memory)
    (sum : ℕ) : Encodes octet pp data ((storeEcho octet pp data m).1.store 2 (hostOctets sum)) := by
  unfold storeEcho
  constructor
  case type => simp [Memory.store]
  all_goals simp (disch := simp [hostOctets]) only [Memory.load_store_of_disjoint,
    Memory.load_store_of_length]

theorem serialize_encodes (others : OtherSerializers D O) (pkt : ICMPMessage D) (m : Memory)
    (htype : pkt.type = icmpEchoRequest ∨ pkt.type = icmpEchoReply)
    (hpp : pkt.encapsulatedPacket = .ping pp) :
    ∃ m', serialize others pkt m =
      .ok (m', (icmpMinLen + (echoData pkt.type pp).length) % 2 ^ 32) ∧
        Encodes (echoOctet pkt.type) pp (echoData pkt.type pp) m' := by
  unfold serialize echoOctet echoData
  rcases htype with htype | htype
  · rw [htype, if_pos rfl, if_pos rfl, if_pos rfl, hpp]
    exact ⟨_, rfl, storeEcho_encodes ..⟩
  · have hne : icmpEchoReply ≠ icmpEchoRequest := by decide
    simp only [htype, if_neg hne, if_true, hpp]
    exact ⟨_, rfl, storeEcho_encodes ..⟩

/-- The data of a message that consists of its data are written as they are. -/
theorem echoData_eq (h : Fits pp) (type : ℤ) : echoData type pp = pp.data := by
  have hlen := h.byteLength
  have hlt := h.length_lt
  unfold echoData requestData ipHeaderBytes icmpMinLen at *
  split_ifs with hreq
  · have hdatalen : (pp.byteLength + 2 ^ 32 - 4) % 2 ^ 32 = pp.data.length := by omega
    dsimp only
    rw [hdatalen, take_length, Nat.sub_self, replicate_zero, append_nil]
  · rfl

/-- An echo is read back. -/
theorem Encodes.parse_eq (hm : Encodes (echoOctet type) pp pp.data m) (h : Fits pp)
    (htype : type = icmpEchoRequest ∨ type = icmpEchoReply) :
    ∃ pkt : ICMPMessage D, parse (packet m (icmpMinLen + pp.data.length))
      (icmpMinLen + pp.data.length) = .ok pkt ∧ pkt.type = type ∧
        pkt.encapsulatedPacket = .ping pp := by
  have hlen := h.byteLength
  have hlt := h.length_lt
  have hmin : icmpMinLen = 8 := rfl
  have hread : ∀ type', ∃ pkt : ICMPMessage D, parseEcho (packet m (icmpMinLen + pp.data.length))
      (icmpMinLen + pp.data.length) type' = .ok pkt ∧ pkt.type = type' ∧
        pkt.encapsulatedPacket = .ping pp := by
    intro type'
    have hdatalen : (icmpMinLen + pp.data.length + 2 ^ 32 - icmpMinLen) % 2 ^ 32 =
        pp.data.length := by omega
    have hbytes : (icmpMinLen + pp.data.length + 2 ^ 32 - 4) % 2 ^ 32 = pp.byteLength := by omega
    have hid : (ofOctets (octets16 pp.originatorId) : ℤ) = pp.originatorId := by
      rw [ofOctets_octets16, Int.emod_eq_of_lt h.originatorId.1 h.originatorId.2]
    have hseq : (ofOctets (octets16 pp.seqNo) : ℤ) = pp.seqNo := by
      rw [ofOctets_octets16, Int.emod_eq_of_lt h.seqNo.1 h.seqNo.2]
    rw [parseEcho, fetch_packet (by omega), ok_bind, fetch_packet (by omega),
      ok_bind, hdatalen, fetch_packet (by omega), ok_bind, hm.originatorId, hm.seqNo,
      hm.data, hid, hseq, hbytes]
    exact ⟨_, rfl, rfl, rfl⟩
  rw [parse, packet_of_lt (by omega), ok_bind, hm.type]
  rcases htype with rfl | rfl
  · rw [show echoOctet icmpEchoRequest = wireEcho by decide, if_pos rfl]
    exact hread _
  · rw [show echoOctet icmpEchoReply = wireEchoReply by decide, if_neg (by decide), if_pos rfl]
    exact hread _

/-- What is read as an echo. -/
theorem of_parse_ok {encapLength : ℕ} {pkt : ICMPMessage D}
    (h : parse (packet m k) encapLength = .ok pkt) (hpp : pkt.encapsulatedPacket = .ping pp) :
    (0 ≤ pp.originatorId ∧ pp.originatorId < 2 ^ 16) ∧ (0 ≤ pp.seqNo ∧ pp.seqNo < 2 ^ 16) ∧
      pp.byteLength = (encapLength + 2 ^ 32 - 4) % 2 ^ 32 ∧
      pp.data.length = (encapLength + 2 ^ 32 - icmpMinLen) % 2 ^ 32 ∧
      icmpMinLen ≤ k ∧ (pp.data = [] ∨ icmpMinLen + pp.data.length ≤ k) := by
  obtain ⟨type', h⟩ : ∃ type', parseEcho (packet m k) encapLength type' = .ok pkt := by
    unfold parse at h
    obtain ⟨octet, -, h⟩ := bind_eq_ok.1 h
    split_ifs at h
    · exact ⟨_, h⟩
    · exact ⟨_, h⟩
    · rw [← Except.ok.inj h] at hpp
      cases hpp
  unfold parseEcho at h
  obtain ⟨id, hid, h⟩ := bind_eq_ok.1 h
  obtain ⟨seq, hseq, h⟩ := bind_eq_ok.1 h
  obtain ⟨data, hdata, h⟩ := bind_eq_ok.1 h
  rw [← Except.ok.inj h] at hpp
  obtain rfl := ICMPPayload.ping.inj hpp
  obtain ⟨hidlen, -⟩ := of_fetch_packet hid
  obtain ⟨hseqlen, hk⟩ := of_fetch_packet hseq
  obtain ⟨hlen, hdatak⟩ := of_fetch_packet hdata
  have hid' := ofOctets_lt id
  have hseq' := ofOctets_lt seq
  rw [hidlen] at hid'
  rw [hseqlen] at hseq'
  dsimp only
  refine ⟨by omega, by omega, rfl, hlen, by unfold icmpMinLen; omega, ?_⟩
  rcases hdatak with h0 | hle
  · exact .inl (eq_nil_of_length_eq_zero (hlen.trans h0))
  · exact .inr (by rw [hlen]; exact hle)

end ICMPSerializer

/-! ### IPv4 -/

namespace IPv4Serializer

/-- What the wire says about the packet in a datagram: a UDP packet, or the type and the payload of
an ICMP message. -/
def content : Packet D O → Option (UDPPacket ⊕ ℤ × PingPayload)
  | .udp pkt => some (.inl pkt)
  | .icmp pkt => match pkt.encapsulatedPacket with
    | .ping pp => some (.inr (pkt.type, pp))
    | _ => none
  | _ => none

/-- A datagram with a UDP packet or an ICMP echo in it. -/
def Carries (dgram : IPv4Datagram (Packet D O)) : UDPPacket ⊕ ℤ × PingPayload → Prop
  | .inl pkt => dgram.transportProtocol = ipProtUdp ∧ dgram.encapsulatedPacket = some (.udp pkt)
  | .inr (type, pp) => dgram.transportProtocol = ipProtIcmp ∧
      (type = icmpEchoRequest ∨ type = icmpEchoReply) ∧
      ∃ pkt : ICMPMessage D, dgram.encapsulatedPacket = some (.icmp pkt) ∧ pkt.type = type ∧
        pkt.encapsulatedPacket = .ping pp

/-- The second datagram says the same as the first. -/
structure Same (dgram dgram' : IPv4Datagram (Packet D O)) : Prop where
  srcAddress : dgram'.srcAddress = dgram.srcAddress
  destAddress : dgram'.destAddress = dgram.destAddress
  identification : dgram'.identification = dgram.identification
  fragmentOffset : dgram'.fragmentOffset = dgram.fragmentOffset
  moreFragments : dgram'.moreFragments = dgram.moreFragments
  dontFragment : dgram'.dontFragment = dgram.dontFragment
  timeToLive : dgram'.timeToLive = dgram.timeToLive
  typeOfService : dgram'.typeOfService = dgram.typeOfService
  transportProtocol : dgram'.transportProtocol = dgram.transportProtocol
  content : dgram'.encapsulatedPacket.bind content = dgram.encapsulatedPacket.bind content

/-- A datagram that is written into a buffer is read back. -/
def RoundTrips (others : OtherSerializers D O) (dgram : IPv4Datagram (Packet D O)) (m : Memory)
    (hasCalcChkSum : Bool) : Prop :=
  ∃ m' n dgram', serialize others dgram m hasCalcChkSum = .ok (m', n) ∧
    parse others (packet m' n) n = .ok dgram' ∧ Same dgram dgram'

/-- The header fields that the wire has room for. -/
structure HeaderFits (dgram : IPv4Datagram (Packet D O)) : Prop where
  timeToLive : 0 ≤ dgram.timeToLive ∧ dgram.timeToLive < 2 ^ 8
  identification : dgram.identification < 2 ^ 16
  fragmentOffset : dgram.fragmentOffset < 2 ^ 16 ∧ 8 ∣ dgram.fragmentOffset

/-- The packets that come back: UDP packets without data, and echoes that fit. -/
def ContentFits : UDPPacket ⊕ ℤ × PingPayload → Prop
  | .inl pkt => pkt.encapsulatedPacket = ⟨0, []⟩
  | .inr (_, pp) => ICMPSerializer.Fits pp

variable {others : OtherSerializers D O} {dgram dgram' : IPv4Datagram (Packet D O)} {m' : Memory}
  {hasCalcChkSum : Bool}

/-- The header in memory. -/
structure EncodesHeader (dgram : IPv4Datagram (Packet D O)) (n : ℕ) (m : Memory) : Prop where
  hlv : m 0 = UInt8.ofNat ((dgram.version % 16).toNat * 16 + ipHeaderBytes / 4)
  typeOfService : m 1 = dgram.typeOfService
  totalLength : m.load 2 2 = toOctets 2 n
  identification : m.load 4 2 = toOctets 2 dgram.identification
  ipOff : m.load 6 2 = toOctets 2 (ipOff dgram)
  timeToLive : m 8 = UInt8.ofInt dgram.timeToLive
  transportProtocol : m 9 = UInt8.ofInt dgram.transportProtocol
  srcAddress : m.load 12 4 = toOctets 4 dgram.srcAddress.toNat
  destAddress : m.load 16 4 = toOctets 4 dgram.destAddress.toNat

theorem storeHeader_encodes (dgram : IPv4Datagram (Packet D O)) (m m1 : Memory) (n : ℕ) :
    EncodesHeader dgram n
      (((storeHeader dgram m).within ipHeaderBytes m1).store 2 (toOctets 2 n)) := by
  unfold storeHeader ipHeaderBytes
  constructor
  all_goals
    simp (disch := simp) only [Memory.load_store_of_disjoint, Memory.load_store_of_length,
      Memory.load_within, Memory.store_of_lt, Memory.store_of_le, Memory.within_of_lt,
      Memory.store_singleton]
  rfl

/-- The checksum is not looked at. -/
theorem EncodesHeader.store (h : EncodesHeader dgram n m) (sum : ℕ) :
    EncodesHeader dgram n (m.store 10 (hostOctets sum)) := by
  constructor
  all_goals
    simp (disch := simp [hostOctets]) only [Memory.load_store_of_disjoint, Memory.store_of_lt,
      h.hlv, h.typeOfService, h.totalLength, h.identification, h.ipOff, h.timeToLive,
      h.transportProtocol, h.srcAddress, h.destAddress]

/-- What is written for a datagram: the header, and what the encapsulated packet is written as. -/
theorem of_serialize_ok (h : serialize others dgram m hasCalcChkSum = .ok (m', n)) :
    ∃ m0 m1 k, serializeEncap others dgram m0 = .ok (m1, k) ∧ n = (ipHeaderBytes + k) % 2 ^ 32 ∧
      EncodesHeader dgram n m' ∧ m'.tail ipHeaderBytes = m1 := by
  unfold serialize at h
  obtain ⟨⟨m1, k⟩, hencap, h⟩ := bind_eq_ok.1 h
  cases h
  refine ⟨_, m1, k, hencap, rfl, ?_, ?_⟩
  · split_ifs
    · exact (storeHeader_encodes ..).store _
    · exact storeHeader_encodes ..
  · split_ifs
    · rw [Memory.tail_store_of_le _ _ (by simp [hostOctets, ipHeaderBytes]),
        Memory.tail_store_of_le _ _ (by simp [ipHeaderBytes]), Memory.within_tail]
    · rw [Memory.tail_store_of_le _ _ (by simp [ipHeaderBytes]), Memory.within_tail]

theorem EncodesHeader.headerLength (h : EncodesHeader dgram n m) :
    (m 0).toNat % 16 * 4 = ipHeaderBytes := by
  rw [h.hlv, UInt8.toNat_ofNat', ipHeaderBytes]
  omega

/-- What is read for a datagram that is as long as its header at least. -/
theorem EncodesHeader.parse_eq (h : EncodesHeader dgram n m) (hn : ipHeaderBytes ≤ n) :
    parse others (packet m n) n =
      parseEncap others (dgram.transportProtocol % 256)
        (packet (m.tail ipHeaderBytes) (n - ipHeaderBytes))
        ((n % 2 ^ 16 + 2 ^ 32 - ipHeaderBytes) % 2 ^ 32) >>= fun encap => .ok
      { version := dgram.version % 16
        srcAddress := dgram.srcAddress
        destAddress := dgram.destAddress
        transportProtocol := dgram.transportProtocol % 256
        timeToLive := dgram.timeToLive % 256
        identification := dgram.identification % 2 ^ 16
        moreFragments := IPv4Serializer.ipOff dgram % 2 ^ 16 &&& ipMf != 0
        dontFragment := IPv4Serializer.ipOff dgram % 2 ^ 16 &&& ipDf != 0
        fragmentOffset := (IPv4Serializer.ipOff dgram % 2 ^ 16 &&& ipOffMask) * 8
        typeOfService := dgram.typeOfService
        byteLength := ipHeaderBytes + encap.byteLength others
        encapsulatedPacket := some encap } := by
  have hlen := h.headerLength
  have h20 : ipHeaderBytes = 20 := rfl
  have hversion : (((m 0).toNat / 16 : ℕ) : ℤ) = dgram.version % 16 := by
    rw [h.hlv, UInt8.toNat_ofNat', ipHeaderBytes]
    omega
  have hbyte : ∀ x : ℤ, ((UInt8.ofInt x).toNat : ℤ) = x % 256 := by
    intro x
    rw [UInt8.ofInt, UInt8.toNat_ofNat']
    omega
  unfold parse
  simp (disch := omega) only [packet_of_lt, fetch_packet, ok_bind, h.srcAddress,
    h.destAddress, h.transportProtocol, h.timeToLive, h.identification, h.ipOff, h.typeOfService,
    h.totalLength, hlen, packet_tail, hbyte, bitVec_octets]
  rw [ofOctets_toOctets_mod, ofOctets_toOctets_mod, ofOctets_toOctets_mod, hversion,
    show (256 ^ 2 : ℕ) = 2 ^ 16 by norm_num, Nat.min_eq_left (mod_le _ _)]
  rfl

theorem and_two_pow_ne_zero (x i : ℕ) : (x &&& 2 ^ i != 0) = x.testBit i := by
  rw [and_two_pow]
  cases x.testBit i <;> simp

/-- The flags and the fragment offset are read back. -/
theorem ipOff_eq {dgram : IPv4Datagram (Packet D O)} (h : dgram.fragmentOffset < 2 ^ 16) :
    (ipOff dgram % 2 ^ 16 &&& ipMf != 0) = dgram.moreFragments ∧
      (ipOff dgram % 2 ^ 16 &&& ipDf != 0) = dgram.dontFragment ∧
      ipOff dgram % 2 ^ 16 &&& ipOffMask = dgram.fragmentOffset / 8 := by
  have hmf : ipMf = 2 ^ 13 := rfl
  have hdf : ipDf = 2 ^ 14 := rfl
  have hmask : ipOffMask = 2 ^ 13 - 1 := rfl
  have hlt : dgram.fragmentOffset / 8 % 2 ^ 16 < 2 ^ 13 := by omega
  have h13 := testBit_lt_two_pow hlt
  have h14 : (dgram.fragmentOffset / 8 % 2 ^ 16).testBit 14 = false :=
    testBit_lt_two_pow (hlt.trans (by norm_num))
  refine ⟨?_, ?_, ?_⟩
  · rw [hmf, and_two_pow_ne_zero, testBit_mod_two_pow, ipOff, testBit_or,
      testBit_or, h13]
    cases dgram.moreFragments <;> cases dgram.dontFragment <;> decide
  · rw [hdf, and_two_pow_ne_zero, testBit_mod_two_pow, ipOff, testBit_or,
      testBit_or, h14]
    cases dgram.moreFragments <;> cases dgram.dontFragment <;> decide
  · rw [hmask, and_two_pow_sub_one_eq_mod, mod_mod_of_dvd _ (by norm_num), ipOff,
      or_mod_two_pow, or_mod_two_pow]
    have hzero : ∀ b : Bool, (if b then ipMf else 0) % 2 ^ 13 = 0 ∧
      (if b then ipDf else 0) % 2 ^ 13 = 0 := by decide
    rw [(hzero _).1, (hzero _).2, or_zero, or_zero]
    omega

theorem parse_ok_le (h : parse others (packet m n) n = .ok dgram') : ipHeaderBytes ≤ n := by
  unfold parse at h
  obtain ⟨hlv, -, h⟩ := bind_eq_ok.1 h
  obtain ⟨srcAddress, -, h⟩ := bind_eq_ok.1 h
  obtain ⟨destAddress, hdest, -⟩ := bind_eq_ok.1 h
  obtain ⟨-, h0 | hle⟩ := of_fetch_packet hdest
  · cases h0
  · exact hle

/-- What is read fits on the wire. -/
theorem HeaderFits.of_roundTrip (h : EncodesHeader dgram n m')
    (hparse : parse others (packet m' n) n = .ok dgram') (hsame : Same dgram dgram') :
    HeaderFits dgram := by
  rw [h.parse_eq (parse_ok_le hparse)] at hparse
  obtain ⟨encap, -, hparse⟩ := bind_eq_ok.1 hparse
  cases hparse
  have httl := hsame.timeToLive
  have hid := hsame.identification
  have hoff := hsame.fragmentOffset
  dsimp only at httl hid hoff
  have hmask : ipOff dgram % 2 ^ 16 &&& ipOffMask ≤ ipOffMask := and_le_right
  unfold ipOffMask at hmask hoff
  exact ⟨by omega, by omega, by omega, by omega⟩

variable {c : UDPPacket ⊕ ℤ × PingPayload}

/-- What is read as the content fits on the wire. -/
theorem ContentFits.of_roundTrip (hc : Carries dgram c)
    (hser : serialize others dgram m hasCalcChkSum = .ok (m', n))
    (hparse : parse others (packet m' n) n = .ok dgram') (hsame : Same dgram dgram') :
    ContentFits c := by
  obtain ⟨m0, m1, k, hencap, hlen, hm, htail⟩ := of_serialize_ok hser
  have hn := parse_ok_le hparse
  have h20 : ipHeaderBytes = 20 := rfl
  rw [hm.parse_eq hn, htail] at hparse
  obtain ⟨encap, hread, hparse⟩ := bind_eq_ok.1 hparse
  cases hparse
  have hcontent := hsame.content
  rw [bind_some] at hcontent
  match c with
  | .inl pkt =>
    obtain ⟨hprotocol, hpkt⟩ := hc
    rw [serializeEncap, hprotocol, if_neg (by decide), if_pos rfl, hpkt] at hencap
    rw [parseEncap, hprotocol, if_neg (by decide), if_pos (by decide)] at hread
    obtain ⟨pkt', hread', hpkt'⟩ := bind_eq_ok.1 hread
    cases hpkt'
    obtain rfl : (UDPSerializer.serialize pkt m0).1 = m1 := congrArg Prod.fst (Except.ok.inj hencap)
    rw [hpkt] at hcontent
    obtain rfl := Sum.inl.inj (Option.some.inj hcontent)
    exact (UDPSerializer.serialize_encodes _ m0).parse_ok hread'
  | .inr (type, pp) =>
    obtain ⟨hprotocol, -, pkt, hpkt, rfl, hpp⟩ := hc
    rw [parseEncap, hprotocol, if_pos (by decide)] at hread
    obtain ⟨pkt', hread', hpkt'⟩ := bind_eq_ok.1 hread
    cases hpkt'
    have hpp' : pkt'.encapsulatedPacket = .ping pp := by
      rw [hpkt, bind_some, content, content, hpp] at hcontent
      split at hcontent
      · rename_i pp' heq
        rw [heq, (Prod.mk.inj (Sum.inr.inj (Option.some.inj hcontent))).2]
      · cases hcontent
    obtain ⟨hid, hseq, hbytes, hdatalen, hk, hdata⟩ := ICMPSerializer.of_parse_ok hread' hpp'
    have hn32 : n < 2 ^ 32 := by omega
    have h8 : icmpMinLen = 8 := rfl
    have hcase : pp.data.length = 0 ∨ icmpMinLen + pp.data.length ≤ n - ipHeaderBytes :=
      hdata.imp_left fun h => by rw [h, length_nil]
    exact ⟨hid, hseq, by omega, by omega⟩

/-- What fits on the wire is written, and read back from the octets it is written as. -/
theorem ContentFits.parseEncap_eq (others : OtherSerializers D O) (hc : Carries dgram c)
    (h : ContentFits c) : ∃ k, ipHeaderBytes + k < 2 ^ 16 ∧
      ∀ m0, ∃ m1, serializeEncap others dgram m0 = .ok (m1, k) ∧
        ∃ encap, parseEncap others (dgram.transportProtocol % 256) (packet m1 k) k = .ok encap ∧
          content encap = dgram.encapsulatedPacket.bind content := by
  match c with
  | .inl pkt =>
    obtain ⟨hprotocol, hpkt⟩ := hc
    have hlen : pkt.byteLength % 2 ^ 32 = udpHeaderBytes := by
      rw [UDPPacket.byteLength, show pkt.encapsulatedPacket = ⟨0, []⟩ from h]
      rfl
    refine ⟨udpHeaderBytes, by decide, fun m0 => ?_⟩
    refine ⟨(UDPSerializer.serialize pkt m0).1, ?_, .udp pkt, ?_, by rw [hpkt, bind_some]⟩
    · rw [serializeEncap, hprotocol, if_neg (by decide), if_pos rfl, hpkt, ← hlen]
      rfl
    · rw [parseEncap, hprotocol, if_neg (by decide), if_pos (by decide),
        (UDPSerializer.serialize_encodes pkt m0).parse_eq h le_rfl]
      rfl
  | .inr (type, pp) =>
    obtain ⟨hprotocol, htype, pkt, hpkt, rfl, hpp⟩ := hc
    have hlt := ICMPSerializer.Fits.length_lt h
    refine ⟨icmpMinLen + pp.data.length, by rwa [← Nat.add_assoc], fun m0 => ?_⟩
    obtain ⟨m1, hwrite, hm1⟩ := ICMPSerializer.serialize_encodes others pkt m0 htype hpp
    rw [ICMPSerializer.echoData_eq h] at hwrite hm1
    obtain ⟨pkt', hread, htype', hpp'⟩ := hm1.parse_eq (D := D) h htype
    refine ⟨m1, ?_, .icmp pkt', ?_, ?_⟩
    · rw [serializeEncap, hprotocol, if_pos rfl, hpkt]
      dsimp only
      rw [hwrite, mod_eq_of_lt (by omega)]
    · rw [parseEncap, hprotocol, if_pos (by decide), hread]
      rfl
    · rw [hpkt, bind_some, content, content, hpp', hpp, htype']

/-- **A datagram comes back** if and only if its header fields, and those of an echo, fit on the
wire, the data of an echo are all of its message, and a UDP packet has no data: `UDPSerializer`
writes only the header of a packet. -/
theorem roundTrips_iff (others : OtherSerializers D O) (dgram : IPv4Datagram (Packet D O))
    (c : UDPPacket ⊕ ℤ × PingPayload) (hc : Carries dgram c) (m : Memory) (hasCalcChkSum : Bool) :
    RoundTrips others dgram m hasCalcChkSum ↔ HeaderFits dgram ∧ ContentFits c := by
  constructor
  · rintro ⟨m', n, dgram', hser, hparse, hsame⟩
    obtain ⟨_, _, _, _, _, hm, _⟩ := of_serialize_ok hser
    exact ⟨.of_roundTrip hm hparse hsame, .of_roundTrip hc hser hparse hsame⟩
  · rintro ⟨hhead, hcontent⟩
    obtain ⟨k, hk, hencap⟩ := hcontent.parseEncap_eq others hc
    have h20 : ipHeaderBytes = 20 := rfl
    obtain ⟨m', n, hser⟩ : ∃ m' n, serialize others dgram m hasCalcChkSum = .ok (m', n) := by
      obtain ⟨m₁, hwrite, -⟩ := hencap ((storeHeader dgram m).tail ipHeaderBytes)
      rw [serialize, hwrite, ok_bind]
      exact ⟨_, _, rfl⟩
    obtain ⟨m₀, m₁, k', hwrite, hn, hm, htail⟩ := of_serialize_ok hser
    obtain ⟨m₁', hwrite', encap, hread, hsame⟩ := hencap m₀
    obtain ⟨rfl, rfl⟩ := Prod.mk.inj (Except.ok.inj (hwrite.symm.trans hwrite'))
    obtain ⟨hmf, hdf, hoff⟩ := ipOff_eq hhead.fragmentOffset.1
    have hprotocol : dgram.transportProtocol % 256 = dgram.transportProtocol := by
      match c with
      | .inl pkt => rw [hc.1]; rfl
      | .inr (type, pp) => rw [hc.1]; rfl
    have httl := hhead.timeToLive
    have hid := hhead.identification
    have hfrag := hhead.fragmentOffset
    obtain rfl : n = ipHeaderBytes + k' := by omega
    have hlen : ((ipHeaderBytes + k') % 2 ^ 16 + 2 ^ 32 - ipHeaderBytes) % 2 ^ 32 = k' := by omega
    have hparse : parse others (packet m' (ipHeaderBytes + k')) (ipHeaderBytes + k') = _ :=
      hm.parse_eq (Nat.le_add_right ..)
    rw [htail, Nat.add_sub_cancel_left, hlen, hread, ok_bind] at hparse
    exact ⟨m', _, _, hser, hparse,
      { srcAddress := rfl
        destAddress := rfl
        identification := mod_eq_of_lt hid
        fragmentOffset := by
          dsimp only
          rw [hoff]
          omega
        moreFragments := hmf
        dontFragment := hdf
        timeToLive := Int.emod_eq_of_lt httl.1 httl.2
        typeOfService := rfl
        transportProtocol := hprotocol
        content := hsame }⟩

/-- No other packets. -/
def noOthers : OtherSerializers Empty Empty where
  serializeDatagram := Empty.elim
  serialize := fun _ pkt => pkt.elim
  parse := fun _ _ _ => .error .unknownProtocol
  byteLength := Empty.elim

/-- A fragment with an echo request of three octets in it. -/
def sampleEcho : IPv4Datagram (Packet Empty Empty) where
  srcAddress := 0x0a000001
  destAddress := 0x0a000002
  transportProtocol := ipProtIcmp
  timeToLive := 32
  identification := 77
  moreFragments := true
  fragmentOffset := 1480
  byteLength := 31
  encapsulatedPacket := some (.icmp
    { type := icmpEchoRequest
      byteLength := 11
      encapsulatedPacket := .ping
        { originatorId := 5, seqNo := 300, data := [1, 2, 3], byteLength := 7 } })

theorem roundTrips_sample : RoundTrips noOthers sampleEcho (fun _ => 0) true :=
  (roundTrips_iff noOthers sampleEcho
    (.inr (icmpEchoRequest,
      { originatorId := 5, seqNo := 300, data := [1, 2, 3], byteLength := 7 }))
    ⟨rfl, .inl rfl, _, rfl, rfl, rfl⟩ _ true).2
      ⟨⟨by decide, by decide, by decide⟩, ⟨by decide, by decide, by decide, by decide⟩⟩

/-- A UDP packet with two octets of data. -/
def sampleUdp : IPv4Datagram (Packet Empty Empty) where
  srcAddress := 0x0a000001
  destAddress := 0x0a000002
  transportProtocol := ipProtUdp
  timeToLive := 32
  byteLength := 30
  encapsulatedPacket := some (.udp
    { sourcePort := 1000, destinationPort := 53, encapsulatedPacket := ⟨2, [1, 2]⟩ })

/-- What is read as the data of a UDP packet is what was in the buffer before. -/
theorem not_roundTrips_udp :
    (∃ m' dgram', serialize noOthers sampleUdp (fun _ => 0) true = .ok (m', 30) ∧
      parse noOthers (packet m' 30) 30 = .ok dgram' ∧ dgram'.encapsulatedPacket = some (.udp
        { sourcePort := 1000, destinationPort := 53, encapsulatedPacket := ⟨0, [0, 0]⟩ })) ∧
    ¬ RoundTrips noOthers sampleUdp (fun _ => 0) true := by
  obtain ⟨m', dgram', hser, hparse, hdata⟩ :
      ∃ m' dgram', serialize noOthers sampleUdp (fun _ => 0) true = .ok (m', 30) ∧
      parse noOthers (packet m' 30) 30 = .ok dgram' ∧ dgram'.encapsulatedPacket = some (.udp
        { sourcePort := 1000, destinationPort := 53, encapsulatedPacket := ⟨0, [0, 0]⟩ }) :=
    ⟨_, _, rfl, rfl, by decide +kernel⟩
  refine ⟨⟨m', dgram', hser, hparse, hdata⟩, ?_⟩
  rintro ⟨m'', n, dgram'', hser', hparse', hsame⟩
  cases hser.symm.trans hser'
  cases hparse.symm.trans hparse'
  have hcontent := hsame.content
  rw [hdata] at hcontent
  exact absurd hcontent (by decide)

end IPv4Serializer

end Wire

end Hiwis
