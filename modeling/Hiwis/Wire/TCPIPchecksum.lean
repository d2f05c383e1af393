import Hiwis.Lib.Octets

/-!
# Serializers and parsers

What the serializers of the packets share: the ways in which they stop, the octets of a packet, and
the checksum.  A parser reads octet by octet through a `Reader`, so that the same code reads from
memory, where every address holds an octet, and from a packet, which ends somewhere.
-/

namespace Hiwis

namespace Wire

/-- What stops a serializer. -/
inductive SerializeFault
  /-- A failed `ASSERT`. -/
  | assertion
  /-- `IPv4Serializer: cannot serialize protocol %d`. -/
  | unknownProtocol
  /-- `check_and_cast`: the packet is not of the class that is asked for. -/
  | wrongClass
  deriving DecidableEq

/-- What stops a parser. -/
inductive ParseFault
  /-- An octet is read that does not belong to the packet. -/
  | outOfBounds
  /-- A loop that does not advance. -/
  | diverges
  /-- `IPv4Serializer: cannot parse protocol %d`. -/
  | unknownProtocol
  deriving DecidableEq

/-- Where a parser reads the octets of a packet. -/
abbrev Reader : Type := ℕ → Except ParseFault UInt8

/-- The first `n` octets of a memory. -/
def packet (m : Memory) (n : ℕ) : Reader :=
  fun a => if a < n then .ok (m a) else .error .outOfBounds

section Packet

variable {m : Memory} {n addr k : ℕ} {l : List UInt8} {b : UInt8}

theorem packet_of_lt (h : addr < n) : packet m n addr = .ok (m addr) := if_pos h

theorem of_packet_ok (h : packet m n addr = .ok b) : addr < n := by
  by_contra hn
  rw [packet, if_neg hn] at h
  cases h

/-- The rest of a packet. -/
theorem packet_tail (m : Memory) (n addr : ℕ) :
    (fun a => packet m n (addr + a)) = packet (m.tail addr) (n - addr) := by
  funext a
  unfold packet Memory.tail
  split_ifs
  · rfl
  · omega
  · omega
  · rfl

theorem fetch_packet (h : addr + k ≤ n) : fetch (packet m n) addr k = .ok (m.load addr k) := by
  rw [← fetch_ok]
  exact fetch_congr fun i hi => packet_of_lt (by omega)

/-- What is read lies in the packet. -/
theorem of_fetch_packet (h : fetch (packet m n) addr k = .ok l) :
    l.length = k ∧ (k = 0 ∨ addr + k ≤ n) := by
  obtain ⟨hlen, hread⟩ := of_fetch_ok h
  refine ⟨hlen, ?_⟩
  rcases Nat.eq_zero_or_pos k with hk | hk
  · exact .inl hk
  · obtain ⟨b, hb⟩ := hread (k - 1) (by omega)
    have := of_packet_ok hb
    exact .inr (by omega)

end Packet

/-! ### The checksum -/

/-- The loop of `TCPIPchecksum::_checksum`; the host is a little-endian one. -/
def checksumLoop : ℕ → List UInt8 → ℕ
  | sum, a :: b :: l =>
    let sum := sum + (a.toNat + 256 * b.toNat)
    checksumLoop (if 2 ^ 31 ≤ sum then sum % 2 ^ 16 + sum / 2 ^ 16 else sum) l
  | sum, [a] => sum + a.toNat
  | sum, [] => sum

/-- `while (sum >> 16) sum = (sum & 0xFFFF) + (sum >> 16)`. -/
def addCarries (sum : ℕ) : ℕ :=
  if 2 ^ 16 ≤ sum then addCarries (sum % 2 ^ 16 + sum / 2 ^ 16) else sum
termination_by sum
decreasing_by omega

/-- `TCPIPchecksum::_checksum`. -/
def rawChecksum (l : List UInt8) : ℕ := addCarries (checksumLoop 0 l)

/-- `TCPIPchecksum::checksum`. -/
def ipChecksum (l : List UInt8) : ℕ := 2 ^ 16 - 1 - rawChecksum l

/-- `htons`. -/
def htons (x : ℕ) : ℕ := x % 256 * 256 + x / 256 % 256

/-- A 16-bit number in the order of the host. -/
def hostOctets (x : ℕ) : List UInt8 := [UInt8.ofNat x, UInt8.ofNat (x / 256)]

end Wire

end Hiwis
