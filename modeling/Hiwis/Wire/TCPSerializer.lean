import Hiwis.Ipv4.InterfaceEntry
import Hiwis.Tcp.Segment
import Hiwis.Wire.TCPIPchecksum

/-!
# The wire format of TCP segments

`TCPSerializer` writes a segment into a buffer and makes a segment of the octets of a packet.  The
octets of the options come after the header, and then zeros up to a multiple of four.
-/

namespace Hiwis

namespace Wire

/-- `TCPSegment`, with the fields that only its serializer looks at. -/
structure TCPWireSegment extends TCPSegment where
  srcPort : UInt16 := 0
  destPort : UInt16 := 0
  urgBit : Bool := false
  pshBit : Bool := false
  urgentPointer : UInt16 := 0
  byteLength : ℕ := 0
  deriving DecidableEq

/-- `TCP_MAX_HEADER_OCTETS`. -/
def tcpMaxHeaderOctets : ℕ := 60

def thFin : UInt8 := 0x01

def thSyn : UInt8 := 0x02

def thRst : UInt8 := 0x04

def thPush : UInt8 := 0x08

def thAck : UInt8 := 0x10

def thUrg : UInt8 := 0x20

def thFlags : UInt8 := 0x3F

namespace TCPSerializer

/-! ### The checksum -/

/-- `IPvXAddress::words`, as octets in memory. -/
def addressOctets : IPvXAddress → List UInt8
  | .ipv4 addr => (toOctets 4 addr.toNat).reverse
  | .ipv6 addr => [3, 2, 1, 0].flatMap fun i : ℕ => (toOctets 4 (addr.toNat / 2 ^ (32 * i))).reverse

/-- `TCPSerializer::checksum`. -/
def tcpChecksum (l : List UInt8) (srcIp destIp : IPvXAddress) : Except SerializeFault ℕ :=
  if (addressOctets srcIp).length ≠ (addressOctets destIp).length then .error .assertion
  else
    let sum := rawChecksum l + htons (rawChecksum (addressOctets srcIp)) +
      htons (rawChecksum (addressOctets destIp)) + htons l.length + htons 6
    .ok (2 ^ 16 - 1 - addCarries sum)

/-! ### Writing -/

/-- The loop that writes the last `n` octets of a value, the least significant one first. -/
def storeValue (m : Memory) (addr : ℕ) : ℕ → ℕ → Memory
  | 0, _ => m
  | n + 1, value => storeValue (m.store (addr + n) [UInt8.ofNat value]) addr n (value / 256)

/-- The loop over the values of an option from the `k`-th one on. -/
def storeValues (m : Memory) (options length : ℕ) : ℕ → List SeqNo → Memory
  | _, [] => m
  | k, value :: values =>
    let p0 := 2 + 4 * k
    let p := min ((length + 2 ^ 32 - 1) % 2 ^ 32) (5 + 4 * k)
    storeValues (storeValue m (options + p0) (p + 1 - p0) value.toNat) options length (k + 1) values

/-- An option is written. -/
def storeOption (m : Memory) (options : ℕ) (option : TCPOption) : Memory :=
  let m := m.store options [UInt8.ofNat option.kind]
  let m := if 1 < option.length then m.store (options + 1) [UInt8.ofNat option.length] else m
  storeValues m options option.length 0 option.values

/-- The loop over the options. -/
def storeOptions (maxOptLength : ℕ) :
    Memory → ℕ → List TCPOption → Except SerializeFault (Memory × ℕ)
  | m, lengthCounter, [] => .ok (m, lengthCounter)
  | m, lengthCounter, option :: options =>
    if lengthCounter + option.length ≤ maxOptLength then
      storeOptions maxOptLength (storeOption m (tcpHeaderOctets + lengthCounter) option)
        (lengthCounter + option.length) options
    else .error .assertion

/-- The flags of the header. -/
def flags (seg : TCPWireSegment) : UInt8 :=
  thFlags &&& ((if seg.finBit then thFin else 0) ||| (if seg.synBit then thSyn else 0) |||
    (if seg.rstBit then thRst else 0) ||| (if seg.pshBit then thPush else 0) |||
    (if seg.ackBit then thAck else 0) ||| (if seg.urgBit then thUrg else 0))

/-- `th_offs` is set; the other half of its octet is left as it is. -/
def storeOffs (m : Memory) (offs : ℕ) : Memory :=
  m.store 12 [UInt8.ofNat (offs % 16 * 16 + (m 12).toNat % 16)]

section

variable (seg : TCPWireSegment) (m : Memory)

/-- The header without the options is written. -/
def storeHeader : Memory :=
  let m := m.store 16 [0, 0]
  let m := m.store 0 (toOctets 2 seg.srcPort.toNat)
  let m := m.store 2 (toOctets 2 seg.destPort.toNat)
  let m := m.store 4 (toOctets 4 seg.sequenceNo.toNat)
  let m := m.store 8 (toOctets 4 seg.ackNo.toNat)
  let m := storeOffs m (tcpHeaderOctets / 4)
  let m := m.store 13 [flags seg]
  let m := m.store 14 (toOctets 2 seg.window)
  m.store 18 (toOctets 2 seg.urgentPointer.toNat)

/-- The options and the padding are written; `lengthCounter` afterwards. -/
def storeAllOptions : Except SerializeFault (Memory × ℕ) := do
  let numOptions := seg.options.length % 2 ^ 16
  if 0 < numOptions then
    let maxOptLength := (seg.headerLength + 2 ^ 32 - tcpHeaderOctets) % 2 ^ 32
    let (m, lengthCounter) ← storeOptions maxOptLength m 0 (seg.options.take numOptions)
    let padding := (4 - lengthCounter % 4) % 4
    let m := m.store (tcpHeaderOctets + lengthCounter) (List.replicate padding 0)
    let lengthCounter := lengthCounter + padding
    if tcpHeaderOctets + lengthCounter ≤ tcpMaxHeaderOctets then
      pure (storeOffs m ((tcpHeaderOctets + lengthCounter) / 4), lengthCounter)
    else throw .assertion
  else pure (m, 0)

/-- The data part is written. -/
def storeData (lengthCounter : ℕ) :
    Except SerializeFault Memory :=
  if seg.headerLength < seg.byteLength then
    let dataLength := seg.byteLength - seg.headerLength
    if 0 < seg.byteArray.length then
      if seg.byteArray.length = dataLength then
        .ok (m.store (tcpHeaderOctets + lengthCounter) seg.byteArray)
      else .error .assertion
    -- fill data part with 't'
    else .ok (m.store (tcpHeaderOctets + lengthCounter) (List.replicate dataLength 0x74))
  else .ok m

/-- `serialize`: the buffer, and the number of octets that belong to the packet. -/
def serialize : Except SerializeFault (Memory × ℕ) := do
  let (m, lengthCounter) ← storeAllOptions seg (storeHeader seg m)
  let m ← storeData seg m lengthCounter
  pure (m, seg.byteLength)

/-- `serialize` with the addresses of the pseudo header: the checksum is filled in. -/
def serializeWithChecksum (srcIp destIp : IPvXAddress) :
    Except SerializeFault (Memory × ℕ) := do
  let (m, writtenbytes) ← serialize seg m
  let sum ← tcpChecksum (m.load 0 writtenbytes) srcIp destIp
  pure (m.store 16 (hostOctets sum), writtenbytes)

end

/-! ### Reading -/

/-- An option that begins at the given address is read. -/
def parseOption (rd : Reader) (options : ℕ) : Except ParseFault TCPOption := do
  let kind ← rd options
  let second ← rd (options + 1)
  let length := if kind = 0 ∨ kind = 1 then 1 else second.toNat
  let values ← (List.range ((length + 1) / 4)).mapM fun k => do
    let octets ← fetch rd (options + 2 + 4 * k) (min length (6 + 4 * k) - (2 + 4 * k))
    pure (BitVec.ofNat 32 (ofOctets octets))
  pure ⟨kind.toNat, length, values⟩

/-- The loop over the options from offset `j` on.  An option of length 0 is read again and again. -/
def parseOptions (rd : Reader) (optionBytes : ℕ) : ℕ → ℕ → Except ParseFault (List TCPOption)
  | 0, j => if j < optionBytes then .error .diverges else .ok []
  | fuel + 1, j =>
    if j < optionBytes then do
      let option ← parseOption rd (tcpHeaderOctets + j)
      let options ← parseOptions rd optionBytes fuel (j + option.length)
      pure (option :: options)
    else .ok []

/-- `parse`, into a segment that has just been created.  The lengths are unsigned. -/
def parse (rd : Reader) (bufsize : ℕ) (withBytes : Bool) : Except ParseFault TCPWireSegment := do
  let srcPort ← fetch rd 0 2
  let destPort ← fetch rd 2 2
  let sequenceNo ← fetch rd 4 4
  let ackNo ← fetch rd 8 4
  let offs ← rd 12
  let hdrLength := offs.toNat / 16 * 4
  let flags ← rd 13
  let window ← fetch rd 14 2
  let urgentPointer ← fetch rd 18 2
  let options ←
    if tcpHeaderOctets < hdrLength then
      parseOptions rd (hdrLength - tcpHeaderOctets) (hdrLength - tcpHeaderOctets) 0
    else pure []
  let payloadLength := (bufsize + 2 ^ 32 - hdrLength) % 2 ^ 32
  let byteArray ← if withBytes then fetch rd hdrLength payloadLength else pure []
  pure {
    srcPort := UInt16.ofNat (ofOctets srcPort)
    destPort := UInt16.ofNat (ofOctets destPort)
    sequenceNo := BitVec.ofNat 32 (ofOctets sequenceNo)
    ackNo := BitVec.ofNat 32 (ofOctets ackNo)
    headerLength := hdrLength
    finBit := flags &&& thFin == thFin
    synBit := flags &&& thSyn == thSyn
    rstBit := flags &&& thRst == thRst
    pshBit := flags &&& thPush == thPush
    ackBit := flags &&& thAck == thAck
    urgBit := flags &&& thUrg == thUrg
    window := ofOctets window
    urgentPointer := UInt16.ofNat (ofOctets urgentPointer)
    options, payloadLength, byteArray
    byteLength := bufsize }

end TCPSerializer

end Wire

end Hiwis
