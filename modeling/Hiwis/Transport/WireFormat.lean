import Hiwis.Lib.Trace

/-!
# The wire format of AbstractRealTransport

A message leaves a host as one datagram: the communication identifier (four bytes), a protocol
byte, the messages of the piggybacking services if there are any, and the message itself.
`SerializeAndSend.run` writes it, `UnserializeAndReceive.run` takes it apart.  The messages are
written and recreated by serializers, which belong to the applications and are parameters here.

The number of piggybacked messages is written as one byte.  A service is registered under a byte,
so that there can be 256 of them, one more than the byte can say:

* `UnserializeAndReceive.header_serializeAndSend` : the header and the piggybacked messages are
  read back when there are fewer than 256 of them;
* `UnserializeAndReceive.run_serializeAndSend_iff` : and only then is the datagram decoded to
  what was encoded.
-/

namespace Hiwis

open List Except

namespace Transport

variable {M : Type*}

/-! ### Byte streams -/

abbrev Byte := BitVec 8

/-- `InputStream.read`: the next byte as a number from 0 to 255, or `-1` at the end of the
stream. -/
def readByte : List Byte → ℤ × List Byte
  | [] => (-1, [])
  | b :: bin => (b.toNat, bin)

/-- `ByteBuffer.putInt`, in big endian order. -/
def putInt (x : BitVec 32) : List Byte :=
  [x.extractLsb' 24 8, x.extractLsb' 16 8, x.extractLsb' 8 8, x.extractLsb' 0 8]

/-- `ByteBuffer.getInt`. -/
def getInt (b₃ b₂ b₁ b₀ : Byte) : BitVec 32 := b₃ ++ b₂ ++ b₁ ++ b₀

theorem getInt_extractLsb (x : BitVec 32) :
    getInt (x.extractLsb' 24 8) (x.extractLsb' 16 8) (x.extractLsb' 8 8) (x.extractLsb' 0 8) =
      x := by
  unfold getInt
  rw [BitVec.extractLsb'_append_extractLsb'_eq_extractLsb' (by rfl),
    BitVec.extractLsb'_append_extractLsb'_eq_extractLsb' (by rfl),
    BitVec.extractLsb'_append_extractLsb'_eq_extractLsb' (by rfl)]
  exact BitVec.extractLsb'_eq_self

/-! ### Serializers -/

/-- A serializer of messages.  `create` recreates a message from the front of a stream and
returns the rest of the stream; `none` means that it throws. -/
structure Serializer (M : Type*) where
  serialize : M → List Byte
  create : List Byte → Option (M × List Byte)

/-- `create` inverts `serialize` on the message, consuming exactly the bytes written. -/
def Serializer.Inverts (s : Serializer M) (m : M) : Prop :=
  ∀ rest, s.create (s.serialize m ++ rest) = some (m, rest)

/-- Messages of a single byte. -/
def byteSerializer : Serializer Byte where
  serialize m := [m]
  create
    | [] => none
    | m :: bin => some (m, bin)

theorem byteSerializer_inverts (m : Byte) : byteSerializer.Inverts m := fun _ => rfl

/-- The piggybacking services registered at a transport component, in the order of their
registration.  No identifier is used twice. -/
structure Piggybackers (M : Type*) where
  entries : List (Byte × Serializer M)
  nodup : (entries.map Prod.fst).Nodup

namespace Piggybackers

def empty : Piggybackers M := ⟨[], nodup_nil⟩

/-- `getPiggybackers().get(serviceID)`. -/
def get (services : Piggybackers M) (serviceID : Byte) : Option (Serializer M) :=
  services.entries.lookup serviceID

/-- `registerService` for a `PiggybackMessageService`; `none` is the `AssertionError` on a
duplicate identifier. -/
def registerService (services : Piggybackers M) (serviceID : Byte) (ps : Serializer M) :
    Option (Piggybackers M) :=
  if h : serviceID ∈ services.entries.map Prod.fst then none
  else some ⟨services.entries ++ [(serviceID, ps)], by
    rw [map_append, map_singleton]
    exact services.nodup.append (nodup_singleton _) (by simpa using h)⟩

variable {e : Byte × Serializer M}

theorem lookup_eq_some {entries : List (Byte × Serializer M)} (h : (entries.map Prod.fst).Nodup)
    (he : e ∈ entries) : entries.lookup e.1 = some e.2 := by
  induction entries with
  | nil => exact absurd he not_mem_nil
  | cons e' entries ih =>
    rw [map_cons, nodup_cons] at h
    rw [lookup_cons]
    rcases mem_cons.1 he with rfl | he
    · simp
    · have hne : e.1 ≠ e'.1 := fun heq => h.1 (heq ▸ mem_map_of_mem he)
      rw [beq_false_of_ne hne]
      exact ih h.2 he

theorem get_eq_some {services : Piggybackers M} (he : e ∈ services.entries) :
    services.get e.1 = some e.2 :=
  lookup_eq_some services.nodup he

end Piggybackers

/-! ### Encoding -/

def BITMASK_HASPIGGYBACK : Byte := 0x02

namespace SerializeAndSend

/-- The messages that the services piggyback on a message, with the identifiers of the services.
`piggybackOnSendMessage` says what a service returns, `none` for null. -/
def piggybacked (piggybackOnSendMessage : Byte → Option M) (entries : List (Byte × Serializer M)) :
    List (Byte × M) :=
  entries.filterMap fun e => (piggybackOnSendMessage e.1).map fun m => (e.1, m)

/-- The loop over the services: counts the piggybacked messages and writes them to `pigOut`. -/
def loop (piggybackOnSendMessage : Byte → Option M) :
    List (Byte × Serializer M) → ℕ → List Byte → ℕ × List Byte
  | [], numPigMessages, pigOut => (numPigMessages, pigOut)
  | (serviceID, ps) :: entries, numPigMessages, pigOut =>
    match piggybackOnSendMessage serviceID with
    | some piggyback =>
      loop piggybackOnSendMessage entries (numPigMessages + 1)
        (pigOut ++ serviceID :: ps.serialize piggyback)
    | none => loop piggybackOnSendMessage entries numPigMessages pigOut

/-- `SerializeAndSend.run`: the datagram handed to `doSendInThread`. -/
def run (services : Piggybackers M) (serializer : Serializer M)
    (piggybackOnSendMessage : Byte → Option M) (commID : BitVec 32) (msg : M) : List Byte :=
  let (numPigMessages, pigOut) := loop piggybackOnSendMessage services.entries 0 []
  -- `ByteArrayOutputStream.write(int)` keeps the low eight bits
  let bout := if numPigMessages > 0 then BitVec.ofNat 8 numPigMessages :: pigOut else []
  let serialized := bout ++ serializer.serialize msg
  let protocolByte := if numPigMessages > 0 then BITMASK_HASPIGGYBACK else 0
  putInt commID ++ protocolByte :: serialized

/-- The bytes of one piggybacked message. -/
def frame (services : Piggybackers M) (p : Byte × M) : List Byte :=
  p.1 :: ((services.get p.1).elim [] fun ps => ps.serialize p.2)

theorem loop_eq {services : Piggybackers M} {onSend : Byte → Option M}
    {entries : List (Byte × Serializer M)} (h : ∀ e ∈ entries, services.get e.1 = some e.2)
    (num : ℕ) (pigOut : List Byte) :
    loop onSend entries num pigOut =
      (num + (piggybacked onSend entries).length,
        pigOut ++ (piggybacked onSend entries).flatMap (frame services)) := by
  induction entries generalizing num pigOut with
  | nil => simp [loop, piggybacked]
  | cons e entries ih =>
    obtain ⟨serviceID, ps⟩ := e
    have hps : services.get serviceID = some ps := h _ mem_cons_self
    have ih := ih fun e he => h e (mem_cons_of_mem _ he)
    cases hon : onSend serviceID with
    | none =>
      simp only [loop, hon]
      rw [ih]
      simp [piggybacked, hon]
    | some piggyback =>
      simp only [loop, hon]
      rw [ih]
      simp [piggybacked, hon, frame, hps, Nat.add_assoc, Nat.add_comm 1]

end SerializeAndSend

/-! ### Decoding -/

/-- Why the processing of a datagram is aborted. -/
inductive Fault
  /-- `AssertionError("Unknown piggyback-service!!")` -/
  | unknownService
  /-- `create` of a piggybacking service or of the serializer throws -/
  | create
deriving DecidableEq

/-- What a datagram is decoded to. -/
structure Received (M : Type*) where
  commID : BitVec 32
  /-- the calls of `onReceivedPiggybackedMessage` -/
  piggybacked : List (Byte × M)
  msg : M
deriving DecidableEq

namespace UnserializeAndReceive

/-- The loop over the piggybacked messages; `n` of them are still to be read. -/
def loop (services : Piggybackers M) :
    ℕ → List Byte → Except Fault (List (Byte × M) × List Byte)
  | 0, bin => .ok ([], bin)
  | n + 1, bin =>
    -- the cast turns the `-1` of an exhausted stream into the identifier `0xff`
    let serviceID : Byte := BitVec.ofInt 8 (readByte bin).1
    match services.get serviceID with
    | none => .error .unknownService
    | some ps =>
      match ps.create (readByte bin).2 with
      | none => .error .create
      | some (m, bin) => do
        let (pigs, bin) ← loop services n bin
        pure ((serviceID, m) :: pigs, bin)

/-- The first five bytes; what a shorter datagram lacks stays zero in `commIDBytes`. -/
def commIDBytes (data : List Byte) : List Byte := (data ++ List.replicate 5 0).take 5

/-- `UnserializeAndReceive.run` up to the access to `openCallbacks`: the communication
identifier, the piggybacked messages and the rest of the stream. -/
def header (services : Piggybackers M) (data : List Byte) :
    Except Fault (BitVec 32 × List (Byte × M) × List Byte) := do
  let bb := commIDBytes data
  let commID := getInt (bb.getD 0 0) (bb.getD 1 0) (bb.getD 2 0) (bb.getD 3 0)
  let protocolByte := bb.getD 4 0
  let bin := data.drop 5
  if protocolByte &&& BITMASK_HASPIGGYBACK ≠ 0 then
    let (numPigs, bin) := readByte bin
    let (pigs, bin) ← loop services numPigs.toNat bin
    pure (commID, pigs, bin)
  else
    pure (commID, [], bin)

/-- The message of a datagram, once the header has been read. -/
def create (serializer : Serializer M) (bin : List Byte) : Except Fault M :=
  match serializer.create bin with
  | none => .error .create
  | some (msg, _) => .ok msg

/-- What `UnserializeAndReceive.run` decodes a datagram to. -/
def run (services : Piggybackers M) (serializer : Serializer M) (data : List Byte) :
    Except Fault (Received M) := do
  let (commID, pigs, bin) ← header services data
  let msg ← create serializer bin
  pure ⟨commID, pigs, msg⟩

theorem header_frame {services : Piggybackers M} {commID : BitVec 32} {protocolByte : Byte}
    {bin : List Byte} :
    header services (putInt commID ++ protocolByte :: bin) =
      if protocolByte &&& BITMASK_HASPIGGYBACK ≠ 0 then do
        let (pigs, bin) ← loop services (readByte bin).1.toNat (readByte bin).2
        pure (commID, pigs, bin)
      else pure (commID, [], bin) := by
  simp [header, commIDBytes, putInt, getInt_extractLsb]

variable {pigs : List (Byte × M)}

/-- The loop reads as many messages as it is told to. -/
theorem length_of_loop {services : Piggybackers M} {n : ℕ} {bin bin' : List Byte}
    (h : loop services n bin = .ok (pigs, bin')) : pigs.length = n := by
  induction n generalizing bin pigs with
  | zero =>
    cases h
    rfl
  | succ n ih =>
    unfold loop at h
    dsimp only at h
    split at h
    · cases h
    · split at h
      · cases h
      · obtain ⟨⟨pigs', bin''⟩, hloop, hpigs⟩ := bind_eq_ok.1 h
        cases hpigs
        rw [length_cons, ih hloop]

/-- A message written by a service is read by the service of the same identifier. -/
theorem loop_flatMap_frame {services peer : Piggybackers M}
    (hpeer : ∀ serviceID, peer.get serviceID = services.get serviceID)
    (h : ∀ p ∈ pigs, ∃ ps, services.get p.1 = some ps ∧ ps.Inverts p.2) (rest : List Byte) :
    loop peer pigs.length (pigs.flatMap (SerializeAndSend.frame services) ++ rest) =
      .ok (pigs, rest) := by
  induction pigs with
  | nil => rfl
  | cons p pigs ih =>
    obtain ⟨ps, hps, hinv⟩ := h p mem_cons_self
    have hget : peer.get p.1 = some ps := (hpeer _).trans hps
    have ih := ih fun p hp => h p (mem_cons_of_mem _ hp)
    simp only [length_cons, flatMap_cons, SerializeAndSend.frame, hps, Option.elim_some,
      cons_append, append_assoc]
    unfold loop
    simp only [readByte, BitVec.ofInt_natCast, BitVec.ofNat_toNat, BitVec.setWidth_eq, hget,
      hinv _, ih]
    rfl

section RoundTrip

variable {services peer : Piggybackers M} {serializer : Serializer M} {onSend : Byte → Option M}
  {commID : BitVec 32} {msg : M}

theorem exists_get_of_mem_piggybacked {p : Byte × M}
    (hp : p ∈ SerializeAndSend.piggybacked onSend services.entries) :
    ∃ ps, services.get p.1 = some ps ∧ onSend p.1 = some p.2 := by
  obtain ⟨e, he, hm⟩ := mem_filterMap.1 hp
  obtain ⟨m, hon, rfl⟩ := Option.map_eq_some_iff.1 hm
  exact ⟨e.2, Piggybackers.get_eq_some he, hon⟩

/-- What `SerializeAndSend.run` writes behind the header. -/
theorem serializeAndSend_eq :
    SerializeAndSend.run services serializer onSend commID msg =
      let pigs := SerializeAndSend.piggybacked onSend services.entries
      if pigs.length > 0 then
        putInt commID ++ BITMASK_HASPIGGYBACK :: BitVec.ofNat 8 pigs.length ::
          (pigs.flatMap (SerializeAndSend.frame services) ++ serializer.serialize msg)
      else putInt commID ++ 0 :: serializer.serialize msg := by
  unfold SerializeAndSend.run
  rw [SerializeAndSend.loop_eq fun _ => Piggybackers.get_eq_some]
  dsimp only
  rw [Nat.zero_add, nil_append]
  split_ifs <;> simp

/-- The peer reads as many piggybacked messages as the count byte says. -/
theorem header_serializeAndSend_eq :
    header peer (SerializeAndSend.run services serializer onSend commID msg) =
      (do
        let (pigs, bin) ←
          loop peer ((SerializeAndSend.piggybacked onSend services.entries).length % 256)
            ((SerializeAndSend.piggybacked onSend services.entries).flatMap
              (SerializeAndSend.frame services) ++ serializer.serialize msg)
        pure (commID, pigs, bin)) := by
  rw [serializeAndSend_eq]
  dsimp only
  split_ifs with hlen
  · rw [header_frame, if_pos (by decide)]
    simp only [readByte, Int.toNat_natCast, BitVec.toNat_ofNat]
  · have hnil : SerializeAndSend.piggybacked onSend services.entries = [] :=
      eq_nil_of_length_eq_zero (Nat.eq_zero_of_not_pos hlen)
    rw [header_frame, if_neg (by decide), hnil]
    rfl

/-- Fewer than 256 piggybacked messages are read back by a peer with the same services, which
leaves the message itself in the stream. -/
theorem header_serializeAndSend
    (hpeer : ∀ serviceID, peer.get serviceID = services.get serviceID)
    (hpigs : ∀ serviceID ps m, services.get serviceID = some ps → onSend serviceID = some m →
      ps.Inverts m)
    (hlen : (SerializeAndSend.piggybacked onSend services.entries).length < 256) :
    header peer (SerializeAndSend.run services serializer onSend commID msg) =
      .ok (commID, SerializeAndSend.piggybacked onSend services.entries,
        serializer.serialize msg) := by
  have hmem : ∀ p ∈ SerializeAndSend.piggybacked onSend services.entries,
      ∃ ps, services.get p.1 = some ps ∧ ps.Inverts p.2 := by
    intro p hp
    obtain ⟨ps, hps, hon⟩ := exists_get_of_mem_piggybacked hp
    exact ⟨ps, hps, hpigs _ _ _ hps hon⟩
  rw [header_serializeAndSend_eq, Nat.mod_eq_of_lt hlen, loop_flatMap_frame hpeer hmem]
  rfl

/-- When the decoder finds all piggybacked messages, there are fewer than 256 of them. -/
theorem length_lt_of_run_eq {r : Received M}
    (h : run peer serializer (SerializeAndSend.run services serializer onSend commID msg) = .ok r)
    (hr : r.piggybacked = SerializeAndSend.piggybacked onSend services.entries) :
    (SerializeAndSend.piggybacked onSend services.entries).length < 256 := by
  unfold run at h
  rw [header_serializeAndSend_eq] at h
  obtain ⟨⟨c, pigs, bin⟩, hheader, hcreate⟩ := bind_eq_ok.1 h
  obtain ⟨⟨pigs', bin'⟩, hloop, heq⟩ := bind_eq_ok.1 hheader
  obtain ⟨m, -, hrec⟩ := bind_eq_ok.1 hcreate
  cases heq
  cases hrec
  -- the loop has read a number of messages that is less than 256
  rw [← hr, length_of_loop hloop]
  exact Nat.mod_lt _ (by decide)

/-- **Round trip**: what is sent is what is received, exactly as long as there are fewer than 256
piggybacked messages. -/
theorem run_serializeAndSend_iff
    (hpeer : ∀ serviceID, peer.get serviceID = services.get serviceID)
    (hpigs : ∀ serviceID ps m, services.get serviceID = some ps → onSend serviceID = some m →
      ps.Inverts m)
    (hmsg : serializer.Inverts msg) :
    run peer serializer (SerializeAndSend.run services serializer onSend commID msg) =
        .ok ⟨commID, SerializeAndSend.piggybacked onSend services.entries, msg⟩ ↔
      (SerializeAndSend.piggybacked onSend services.entries).length < 256 := by
  constructor
  · intro h
    exact length_lt_of_run_eq h rfl
  · intro hlen
    have hcreate : serializer.create (serializer.serialize msg) = some (msg, []) := by
      simpa using hmsg []
    unfold run
    rw [header_serializeAndSend hpeer hpigs hlen]
    simp [create, hcreate]

end RoundTrip

/-! ### Services that piggyback bytes -/

/-- One service, with the identifier 7. -/
def oneService : Piggybackers Byte := ⟨[(7, byteSerializer)], by decide⟩

/-- A service for every identifier. -/
def allServices : Piggybackers Byte :=
  ⟨(List.range 256).map fun i => (BitVec.ofNat 8 i, byteSerializer), by
    rw [map_map]
    exact nodup_range.map_on fun i hi j hj h => by
      have hi := mem_range.1 hi
      have hj := mem_range.1 hj
      simpa [Nat.mod_eq_of_lt hi, Nat.mod_eq_of_lt hj] using congrArg BitVec.toNat h⟩

/-- One service piggybacks the message 5 on the message 9. -/
theorem run_serializeAndSend_iff_oneService :
    run oneService byteSerializer (SerializeAndSend.run oneService byteSerializer
        (fun _ => some 5) 0xabcd0102 9) = .ok ⟨0xabcd0102, [(7, 5)], 9⟩ ↔ 1 < 256 :=
  run_serializeAndSend_iff (fun _ => rfl)
    (fun serviceID ps m hps _ => by
      have hps : ps = byteSerializer := by
        simp only [Piggybackers.get, oneService, lookup_cons, lookup_nil] at hps
        split at hps <;> simp_all
      exact hps ▸ byteSerializer_inverts m)
    (byteSerializer_inverts 9)

/-- All 256 services piggyback the message 5 on the message 9: the count byte says zero. -/
theorem run_serializeAndSend_allServices :
    run allServices byteSerializer (SerializeAndSend.run allServices byteSerializer
        (fun _ => some 5) 0 9) ≠
      .ok ⟨0, SerializeAndSend.piggybacked (fun _ => some 5) allServices.entries, 9⟩ := by
  intro h
  exact absurd (length_lt_of_run_eq h rfl) (by simp [SerializeAndSend.piggybacked, allServices])

end UnserializeAndReceive

end Transport

end Hiwis
