import Hiwis.Ipv4.IPv4Datagram
import Hiwis.Tcp.ByteStreamRcvQueue
import Hiwis.Wire.TCPSerializer

/-!
# The wire format of IPv4 datagrams

`UDPSerializer`, `ICMPSerializer` and `IPv4Serializer`.  A serializer writes from address 0 on of
the memory it is given; what it works on is the rest of a larger buffer (`Memory.tail`), which is
put back afterwards (`Memory.within`).

The names that the parsers give to their packets are left out.
-/

namespace Hiwis

namespace Wire

/-- `UDPPacket` with a byte array in it. -/
structure UDPPacket where
  sourcePort : UInt16 := 0
  destinationPort : UInt16 := 0
  encapsulatedPacket : ByteArrayMessage
  deriving DecidableEq

/-- `UDP_HEADER_BYTES`. -/
def udpHeaderBytes : ℕ := 8

/-- The length of the header and of what is encapsulated. -/
def UDPPacket.byteLength (pkt : UDPPacket) : ℕ := udpHeaderBytes + pkt.encapsulatedPacket.byteLength

/-- `PingPayload`. -/
structure PingPayload where
  originatorId : ℤ := 0
  seqNo : ℤ := 0
  data : List UInt8 := []
  byteLength : ℕ := 0
  deriving DecidableEq

/-- What an `ICMPMessage` encapsulates: the payload of an echo, or the datagram that an error is
about. -/
inductive ICMPPayload (D : Type)
  | none
  | ping (pp : PingPayload)
  | datagram (ip : D)
  deriving DecidableEq

/-- `ICMPMessage`. -/
structure ICMPMessage (D : Type) where
  type : ℤ := 0
  code : ℤ := 0
  byteLength : ℕ := 0
  encapsulatedPacket : ICMPPayload D := .none
  deriving DecidableEq

/-- The packets that an IPv4 datagram carries; `O` stands for IGMP and SCTP messages. -/
inductive Packet (D O : Type)
  | icmp (pkt : ICMPMessage D)
  | udp (pkt : UDPPacket)
  | tcp (seg : TCPWireSegment)
  | other (pkt : O)
  deriving DecidableEq

/-- The serializers that are called for other packets: `IPv4Serializer` itself for the datagram that
an ICMP error is about, `IGMPSerializer` and `SCTPSerializer`. -/
structure OtherSerializers (D O : Type) where
  serializeDatagram : D → Memory → Except SerializeFault (Memory × ℕ)
  serialize : ℤ → O → Memory → Except SerializeFault (Memory × ℕ)
  parse : ℤ → Reader → ℕ → Except ParseFault O
  byteLength : O → ℕ

variable {D O : Type}

/-- `getByteLength`. -/
def Packet.byteLength (others : OtherSerializers D O) : Packet D O → ℕ
  | icmp pkt => pkt.byteLength
  | udp pkt => pkt.byteLength
  | tcp seg => seg.byteLength
  | other pkt => others.byteLength pkt

/-! ### UDP -/

namespace UDPSerializer

/-- `serialize`: the header is written, what is encapsulated is not. -/
def serialize (pkt : UDPPacket) (m : Memory) : Memory × ℕ :=
  let packetLength := pkt.byteLength % 2 ^ 32
  let m := m.store 0 (toOctets 2 pkt.sourcePort.toNat)
  let m := m.store 2 (toOctets 2 pkt.destinationPort.toNat)
  let m := m.store 4 (toOctets 2 packetLength)
  let m := m.store 6 (hostOctets (ipChecksum (m.load 0 packetLength)))
  (m, packetLength)

/-- `parse`.  The byte array gets octets, but the message it belongs to keeps the length 0. -/
def parse (rd : Reader) : Except ParseFault UDPPacket := do
  let sourcePort ← fetch rd 0 2
  let destinationPort ← fetch rd 2 2
  let ulen ← fetch rd 4 2
  let data ← fetch rd udpHeaderBytes ((ofOctets ulen + 2 ^ 32 - udpHeaderBytes) % 2 ^ 32)
  pure {
    sourcePort := UInt16.ofNat (ofOctets sourcePort)
    destinationPort := UInt16.ofNat (ofOctets destinationPort)
    encapsulatedPacket := ⟨0, data⟩ }

end UDPSerializer

/-! ### ICMP -/

/-- `ICMP_DESTINATION_UNREACHABLE`. -/
def icmpDestinationUnreachable : ℤ := 13

/-- `ICMP_TIME_EXCEEDED`. -/
def icmpTimeExceeded : ℤ := 11

/-- `ICMP_ECHO_REQUEST`. -/
def icmpEchoRequest : ℤ := 128

/-- `ICMP_ECHO_REPLY`. -/
def icmpEchoReply : ℤ := 129

/-- `ICMP_MINLEN`. -/
def icmpMinLen : ℕ := 8

namespace ICMPSerializer

/-- `ICMP_ECHOREPLY`, on the wire. -/
def wireEchoReply : UInt8 := 0

/-- `ICMP_UNREACH`, on the wire. -/
def wireUnreach : UInt8 := 3

/-- `ICMP_ECHO`, on the wire. -/
def wireEcho : UInt8 := 8

/-- `ICMP_TIMXCEED`, on the wire. -/
def wireTimxceed : UInt8 := 11

/-- The last 16 bits of a number. -/
def octets16 (x : ℤ) : List UInt8 := toOctets 2 (x % 2 ^ 16).toNat

/-- An echo with the given type and data is written. -/
def storeEcho (type : UInt8) (pp : PingPayload) (data : List UInt8) (m : Memory) : Memory × ℕ :=
  let m := m.store 0 [type, 0]
  let m := m.store 4 (octets16 pp.originatorId)
  let m := m.store 6 (octets16 pp.seqNo)
  (m.store 8 data, (icmpMinLen + data.length) % 2 ^ 32)

/-- The octets of the data of an echo request: the rest is filled with 'a'. -/
def requestData (pp : PingPayload) : List UInt8 :=
  let datalen := (pp.byteLength + 2 ^ 32 - 4) % 2 ^ 32
  pp.data.take datalen ++ List.replicate (datalen - pp.data.length) 0x61

/-- The part of `serialize` for a message about a datagram. -/
def storeError (others : OtherSerializers D O) (type code : UInt8) (payload : ICMPPayload D)
    (m : Memory) : Except SerializeFault (Memory × ℕ) :=
  match payload with
  | .datagram ip => do
    let m := m.store 0 [type, code]
    let (m', packetLength) ← others.serializeDatagram ip (m.tail icmpMinLen)
    pure (m.within icmpMinLen m', (icmpMinLen + packetLength) % 2 ^ 32)
  | _ => .error .wrongClass

/-- `serialize`. -/
def serialize (others : OtherSerializers D O) (pkt : ICMPMessage D) (m : Memory) :
    Except SerializeFault (Memory × ℕ) := do
  let (m, packetLength) ←
    if pkt.type = icmpEchoRequest then
      match pkt.encapsulatedPacket with
      | .ping pp => .ok (storeEcho wireEcho pp (requestData pp) m)
      | _ => .error .wrongClass
    else if pkt.type = icmpEchoReply then
      match pkt.encapsulatedPacket with
      | .ping pp => .ok (storeEcho wireEchoReply pp pp.data m)
      | _ => .error .wrongClass
    else if pkt.type = icmpDestinationUnreachable then
      storeError others wireUnreach (UInt8.ofInt pkt.code) pkt.encapsulatedPacket m
    else if pkt.type = icmpTimeExceeded then
      storeError others wireTimxceed 0 pkt.encapsulatedPacket m
    -- `Can not serialize ICMP packet: type %d not supported.`
    else .ok (m, 0)
  pure (m.store 2 (hostOctets (ipChecksum (m.load 0 packetLength))), packetLength)

/-- An echo is read. -/
def parseEcho (rd : Reader) (bufsize : ℕ) (type : ℤ) : Except ParseFault (ICMPMessage D) := do
  let originatorId ← fetch rd 4 2
  let seqNo ← fetch rd 6 2
  let data ← fetch rd 8 ((bufsize + 2 ^ 32 - icmpMinLen) % 2 ^ 32)
  let byteLength := (bufsize + 2 ^ 32 - 4) % 2 ^ 32
  pure {
    type
    byteLength := 4 + byteLength
    encapsulatedPacket := .ping ⟨ofOctets originatorId, ofOctets seqNo, data, byteLength⟩ }

/-- `parse`. -/
def parse (rd : Reader) (bufsize : ℕ) : Except ParseFault (ICMPMessage D) := do
  let type ← rd 0
  if type = wireEcho then parseEcho rd bufsize icmpEchoRequest
  else if type = wireEchoReply then parseEcho rd bufsize icmpEchoReply
  -- `Can not create ICMP packet: type %d not supported.`
  else pure {}

end ICMPSerializer

/-! ### IPv4 -/

/-- `IP_PROT_ICMP`. -/
def ipProtIcmp : ℤ := 1

/-- `IP_PROT_IGMP`. -/
def ipProtIgmp : ℤ := 2

/-- `IP_PROT_TCP`. -/
def ipProtTcp : ℤ := 6

/-- `IP_PROT_UDP`. -/
def ipProtUdp : ℤ := 17

/-- `IP_PROT_SCTP`. -/
def ipProtSctp : ℤ := 132

namespace IPv4Serializer

/-- `IP_MF`. -/
def ipMf : ℕ := 0x2000

/-- `IP_DF`. -/
def ipDf : ℕ := 0x4000

/-- `IP_OFFMASK`. -/
def ipOffMask : ℕ := 0x1fff

/-- The fragment offset, with the flags. -/
def ipOff (dgram : IPv4Datagram (Packet D O)) : ℕ :=
  dgram.fragmentOffset / 8 % 2 ^ 16 ||| (if dgram.moreFragments then ipMf else 0) |||
    (if dgram.dontFragment then ipDf else 0)

/-- The header is written, without the length and the checksum. -/
def storeHeader (dgram : IPv4Datagram (Packet D O)) (m : Memory) : Memory :=
  let m := m.store 0 [UInt8.ofNat ((dgram.version % 16).toNat * 16 + ipHeaderBytes / 4)]
  let m := m.store 1 [dgram.typeOfService]
  let m := m.store 4 (toOctets 2 dgram.identification)
  let m := m.store 6 (toOctets 2 (ipOff dgram))
  let m := m.store 8 [UInt8.ofInt dgram.timeToLive]
  let m := m.store 9 [UInt8.ofInt dgram.transportProtocol]
  let m := m.store 12 (toOctets 4 dgram.srcAddress.toNat)
  let m := m.store 16 (toOctets 4 dgram.destAddress.toNat)
  m.store 10 [0, 0]

variable (others : OtherSerializers D O)

/-- What is encapsulated is written. -/
def serializeEncap (dgram : IPv4Datagram (Packet D O)) (m : Memory) :
    Except SerializeFault (Memory × ℕ) :=
  if dgram.transportProtocol = ipProtIcmp then
    match dgram.encapsulatedPacket with
    | some (.icmp pkt) => ICMPSerializer.serialize others pkt m
    | _ => .error .wrongClass
  else if dgram.transportProtocol = ipProtUdp then
    match dgram.encapsulatedPacket with
    | some (.udp pkt) => .ok (UDPSerializer.serialize pkt m)
    | _ => .error .wrongClass
  else if dgram.transportProtocol = ipProtTcp then
    match dgram.encapsulatedPacket with
    | some (.tcp seg) => TCPSerializer.serializeWithChecksum seg m (.ipv4 dgram.srcAddress)
        (.ipv4 dgram.destAddress)
    | _ => .error .wrongClass
  else if dgram.transportProtocol = ipProtIgmp ∨ dgram.transportProtocol = ipProtSctp then
    match dgram.encapsulatedPacket with
    | some (.other pkt) => others.serialize dgram.transportProtocol pkt m
    | _ => .error .wrongClass
  else .error .unknownProtocol

/-- `serialize`. -/
def serialize (dgram : IPv4Datagram (Packet D O)) (m : Memory)
    (hasCalcChkSum : Bool) : Except SerializeFault (Memory × ℕ) := do
  let m := storeHeader dgram m
  let (m', encapLength) ← serializeEncap others dgram (m.tail ipHeaderBytes)
  let m := m.within ipHeaderBytes m'
  let packetLength := (ipHeaderBytes + encapLength) % 2 ^ 32
  let m := m.store 2 (toOctets 2 packetLength)
  let m := if hasCalcChkSum then m.store 10 (hostOctets (ipChecksum (m.load 0 ipHeaderBytes)))
    else m
  pure (m, packetLength)

/-- What is encapsulated is read. -/
def parseEncap (protocol : ℤ) (rd : Reader) (encapLength : ℕ) :
    Except ParseFault (Packet D O) :=
  if protocol = ipProtIcmp then do
    let pkt ← ICMPSerializer.parse rd encapLength
    pure (.icmp pkt)
  else if protocol = ipProtUdp then do
    let pkt ← UDPSerializer.parse rd
    pure (.udp pkt)
  else if protocol = ipProtTcp then do
    let seg ← TCPSerializer.parse rd encapLength true
    pure (.tcp seg)
  else if protocol = ipProtIgmp ∨ protocol = ipProtSctp then do
    let pkt ← others.parse protocol rd encapLength
    pure (.other pkt)
  else .error .unknownProtocol

/-- `parse`.  The lengths are unsigned. -/
def parse (rd : Reader) (bufsize : ℕ) :
    Except ParseFault (IPv4Datagram (Packet D O)) := do
  let hlv ← rd 0
  let srcAddress ← fetch rd 12 4
  let destAddress ← fetch rd 16 4
  let protocol ← rd 9
  let timeToLive ← rd 8
  let identification ← fetch rd 4 2
  let ipOff ← fetch rd 6 2
  let typeOfService ← rd 1
  let totalLength ← fetch rd 2 2
  let headerLength := hlv.toNat % 16 * 4
  let encapLength := (min (ofOctets totalLength) bufsize + 2 ^ 32 - headerLength) % 2 ^ 32
  let encap ← parseEncap others protocol.toNat (fun a => rd (headerLength + a)) encapLength
  pure {
    version := (hlv.toNat / 16 : ℕ)
    srcAddress := BitVec.ofNat 32 (ofOctets srcAddress)
    destAddress := BitVec.ofNat 32 (ofOctets destAddress)
    transportProtocol := protocol.toNat
    timeToLive := timeToLive.toNat
    identification := ofOctets identification
    moreFragments := ofOctets ipOff &&& ipMf != 0
    dontFragment := ofOctets ipOff &&& ipDf != 0
    fragmentOffset := (ofOctets ipOff &&& ipOffMask) * 8
    typeOfService
    byteLength := ipHeaderBytes + encap.byteLength others
    encapsulatedPacket := some encap }

end IPv4Serializer

end Wire

end Hiwis
