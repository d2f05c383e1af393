import Hiwis.Lib.Octets
import Hiwis.Sctp.SendStreams

/-!
# The shared key of SCTP-AUTH

`SCTPSerializer` makes a key vector of the parameters RANDOM, CHUNKS and HMAC-ALGO of an INIT or
INIT_ACK chunk, once when it writes the chunk and once when it reads it, and joins the vectors of
both sides to the shared key.

* `SCTP.parseParameters_eq` : what is read of parameters that lie one after the other;
* `SCTP.exchange_eq` : the key vectors of the two sides;
* `SCTP.agree_iff` : when both sides have the same key.
-/

namespace Hiwis

open List Nat Memory

namespace SCTP

/-! ### Parameters -/

/-- `RANDOM`. -/
def paramRandom : ℕ := 32770

/-- `CHUNKS`. -/
def paramChunks : ℕ := 32771

/-- `HMAC_ALGO`. -/
def paramHmacAlgo : ℕ := 32772

/-- `INIT_PARAM_COOKIE`. -/
def initParamCookie : ℕ := 7

/-- The other parameters that are known in an INIT: supported address types, addresses, supported
extensions and forward TSN. -/
def initParameters : List ℕ := [12, 5, 6, 32776, 49152]

/-- `SCTP_INIT_CHUNK_LENGTH`. -/
def initChunkLength : ℕ := 20

/-- `struct tlv`. -/
structure Parameter where
  type : ℕ
  value : List UInt8
  deriving DecidableEq

/-- The octets of a parameter, without the padding. -/
def Parameter.octets (p : Parameter) : List UInt8 :=
  toOctets 2 p.type ++ toOctets 2 (4 + p.value.length) ++ p.value

/-- An INIT or INIT_ACK chunk with the parameters of SCTP-AUTH, and other parameters before them.
An INIT has no cookie. -/
structure AuthChunk where
  before : List Parameter := []
  random : List UInt8
  chunkTypes : List UInt8
  hmacTypes : List UInt16
  cookie : List UInt8 := []
  deriving DecidableEq

namespace AuthChunk

variable (c : AuthChunk)

def randomParameter : Parameter := ⟨paramRandom, c.random⟩

def chunksParameter : Parameter := ⟨paramChunks, c.chunkTypes⟩

def hmacParameter : Parameter := ⟨paramHmacAlgo, c.hmacTypes.flatMap fun t => toOctets 2 t.toNat⟩

def cookieParameter : Parameter := ⟨initParamCookie, c.cookie⟩

/-- The parameters up to the cookie. -/
def parameters : List Parameter :=
  c.before ++
    if c.hmacTypes ≠ [] then [c.randomParameter, c.chunksParameter, c.hmacParameter] else []

end AuthChunk

/-- The parameters are written one after the other; `parPtr` afterwards. -/
def storeParameters : Memory → ℕ → List Parameter → Memory × ℕ
  | m, parPtr, [] => (m, parPtr)
  | m, parPtr, p :: ps =>
    storeParameters (m.store parPtr p.octets) (parPtr + addPadding p.octets.length) ps

/-! ### The keys -/

/-- The key vectors of `SCTPSerializer`, up to their sizes. -/
structure KeyVectors where
  keyVector : List UInt8 := []
  peerKeyVector : List UInt8 := []
  sharedKey : List UInt8 := []
  deriving DecidableEq

/-- The loop of `compareRandom`. -/
def compareLoop : List UInt8 → List UInt8 → Bool
  | a :: l, b :: l' => if a.toNat < b.toNat then false
    else if b.toNat < a.toNat then true else compareLoop l l'
  | _, _ => true

def compareRandom (keyVector peerKeyVector : List UInt8) : Bool :=
  if keyVector.length ≠ peerKeyVector.length then
    if keyVector.length < peerKeyVector.length then false else true
  else compareLoop keyVector peerKeyVector

/-- The key vectors in their order. -/
def joinVectors (keyVector peerKeyVector : List UInt8) : List UInt8 :=
  if compareRandom keyVector peerKeyVector then peerKeyVector ++ keyVector
  else keyVector ++ peerKeyVector

namespace KeyVectors

def calculateSharedKey (s : KeyVectors) : KeyVectors :=
  { s with sharedKey := joinVectors s.keyVector s.peerKeyVector }

/-- The length of the key for the HMAC. -/
def keyLength (s : KeyVectors) : ℕ := s.keyVector.length + s.peerKeyVector.length

end KeyVectors

/-! ### Writing -/

/-- The length of a parameter, as it is written. -/
def Parameter.length (p : Parameter) : ℕ := (4 + p.value.length) % 2 ^ 16

/-- The key vector of an INIT is built in `vector`, where each parameter follows the one before. -/
def initVector (c : AuthChunk) (vector : Memory) : List UInt8 :=
  let vector := vector.store 0 c.randomParameter.octets
  let sizeKeyVector := c.randomParameter.length
  let vector := vector.store sizeKeyVector c.chunksParameter.octets
  let sizeKeyVector := sizeKeyVector + c.chunksParameter.length
  let vector := vector.store sizeKeyVector c.hmacParameter.octets
  vector.load 0 (sizeKeyVector + c.hmacParameter.length)

/-- The INIT is written: the new key vectors, the parameters in memory and their length. -/
def serializeInit (s : KeyVectors) (buf vector : Memory) (c : AuthChunk) :
    KeyVectors × Memory × ℕ :=
  let s := if c.hmacTypes ≠ [] then { s with keyVector := initVector c vector } else s
  (s, storeParameters buf 0 c.parameters)

/-- The key vector of an INIT_ACK is built in `vector`, where CHUNKS has a place of its own. -/
def initAckVector (c : AuthChunk) (vector : Memory) : List UInt8 :=
  let vector := vector.store 0 c.randomParameter.octets
  let vector := vector.store 36 c.chunksParameter.octets
  let vector := vector.store (36 + 4 + c.chunkTypes.length) c.hmacParameter.octets
  vector.load 0 (c.randomParameter.length + c.chunksParameter.length + c.hmacParameter.length)

/-- The INIT_ACK is written.  The vector is that of the peer if there is one for the own side. -/
def serializeInitAck (s : KeyVectors) (buf vector : Memory) (c : AuthChunk) :
    KeyVectors × Memory × ℕ :=
  let s :=
    if c.hmacTypes ≠ [] then
      (if s.keyVector.length ≠ 0 then { s with peerKeyVector := initAckVector c vector }
        else { s with keyVector := initAckVector c vector } : KeyVectors).calculateSharedKey
    else s
  let (buf, parPtr) := storeParameters buf 0 c.parameters
  (s, buf.store parPtr c.cookieParameter.octets, parPtr + c.cookieParameter.octets.length)

/-! ### Reading -/

/-- What is kept of the parameters that have been read. -/
structure Parsed where
  rp : List UInt8 := []
  cp : List UInt8 := []
  hp : List UInt8 := []
  hmacTypes : ℕ := 0
  deriving DecidableEq

/-- The loop over the parameters.  A parameter of length 0 is read again and again. -/
def parseParameters (known : List ℕ) (m heap : Memory) (cLen : ℕ) : ℕ → ℕ → Parsed → Parsed
  | 0, _, p => p
  | fuel + 1, parptr, p =>
    if initChunkLength + parptr < cLen then
      let paramType := ofOctets (m.load parptr 2)
      let length := ofOctets (m.load (parptr + 2) 2)
      let next := parseParameters known m heap cLen fuel (parptr + addPadding length)
      if paramType = paramRandom then next { p with rp := m.load parptr length }
      else if paramType = paramChunks then next { p with cp := m.load parptr length }
      else if paramType = paramHmacAlgo then
        let num := (length - 4) / 2
        -- an odd octet at the end is not copied
        let hp := (heap.store 0 (m.load parptr (4 + 2 * num))).load 0 length
        next { p with hp, hmacTypes := num }
      -- an unknown parameter may stop the loop
      else if paramType ∈ known ∨ 2 ^ 15 ≤ paramType then next p
      else p
    else p

/-- The key vector of the peer is made of what has been read. -/
def readPeerVector (s : KeyVectors) (p : Parsed) : KeyVectors :=
  { s with peerKeyVector := p.rp ++ p.cp ++ p.hp }

def parseInit (s : KeyVectors) (heap buf : Memory) (cLen : ℕ) : KeyVectors :=
  let p := parseParameters initParameters buf heap cLen cLen 0 {}
  if p.hmacTypes ≠ 0 then readPeerVector s p else s

def parseInitAck (s : KeyVectors) (heap buf : Memory) (cLen : ℕ) : KeyVectors :=
  let p := parseParameters (initParamCookie :: initParameters) buf heap cLen cLen 0 {}
  if p.hmacTypes ≠ 0 then (readPeerVector s p).calculateSharedKey else s

/-- What memory holds before it is written. -/
structure OldMemory where
  initBuf : Memory
  initVector : Memory
  initHeap : Memory
  initAckBuf : Memory
  initAckVector : Memory
  initAckHeap : Memory

/-- One process writes the INIT and reads the INIT_ACK, another one reads the INIT and writes the
INIT_ACK. -/
def exchange (x : OldMemory) (init initAck : AuthChunk) : KeyVectors × KeyVectors :=
  let (a, buf, parPtr) := serializeInit {} x.initBuf x.initVector init
  let b := parseInit {} x.initHeap buf ((initChunkLength + parPtr) % 2 ^ 16)
  let (b, buf, parPtr) := serializeInitAck b x.initAckBuf x.initAckVector initAck
  (parseInitAck a x.initAckHeap buf ((initChunkLength + parPtr) % 2 ^ 16), b)

/-- Both processes have the same key, whatever memory has held before. -/
def Agree (init initAck : AuthChunk) : Prop :=
  ∀ x : OldMemory,
    (exchange x init initAck).1.sharedKey = (exchange x init initAck).2.sharedKey ∧
      (exchange x init initAck).1.keyLength = (exchange x init initAck).2.keyLength

/-- The parameters fit: the key vector has room in 64 octets, the chunk in 16 bits, and the other
parameters are known. -/
structure Fits (c : AuthChunk) : Prop where
  hmacTypes : c.hmacTypes ≠ []
  before : ∀ p ∈ c.before, p.type ∈ initParameters
  vector : 12 + c.random.length + c.chunkTypes.length + 2 * c.hmacTypes.length ≤ 64
  chunk : initChunkLength + (c.parameters.map fun p => addPadding p.octets.length).sum +
    c.cookieParameter.octets.length < 2 ^ 16

/-! ### What is written is read -/

@[simp] theorem Parameter.octets_length (p : Parameter) : p.octets.length = 4 + p.value.length := by
  simp [octets]
  omega

/-- The parameters lie in memory, one after the other, up to the end of the chunk. -/
def Laid (m : Memory) (cLen : ℕ) : ℕ → List Parameter → Prop
  | parptr, [] => cLen ≤ initChunkLength + parptr
  | parptr, p :: ps => initChunkLength + parptr < cLen ∧
    m.load parptr p.octets.length = p.octets ∧ Laid m cLen (parptr + addPadding p.octets.length) ps

theorem storeParameters_snd (m : Memory) (a : ℕ) (ps : List Parameter) :
    (storeParameters m a ps).2 = a + (ps.map fun p => addPadding p.octets.length).sum := by
  induction ps generalizing m a with
  | nil => rfl
  | cons p ps ih => rw [storeParameters, ih, map_cons, sum_cons, Nat.add_assoc]

theorem storeParameters_of_lt {m : Memory} {a k : ℕ} (ps : List Parameter) (hk : k < a) :
    (storeParameters m a ps).1 k = m k := by
  induction ps generalizing m a with
  | nil => rfl
  | cons p ps ih => rw [storeParameters, ih (by omega), store_of_lt _ _ hk]

theorem storeParameters_laid {m m' : Memory} {cLen a : ℕ} {ps rest : List Parameter}
    (hsame : ∀ k < (storeParameters m a ps).2, m' k = (storeParameters m a ps).1 k)
    (hrest : Laid m' cLen (storeParameters m a ps).2 rest)
    (hlen : initChunkLength + (storeParameters m a ps).2 ≤ cLen) :
    Laid m' cLen a (ps ++ rest) := by
  induction ps generalizing m a with
  | nil => exact hrest
  | cons p ps ih =>
    have hend := storeParameters_snd (m.store a p.octets) (a + addPadding p.octets.length) ps
    have hpadding : p.octets.length ≤ addPadding p.octets.length := by
      unfold addPadding
      omega
    have hpos := p.octets_length
    rw [storeParameters] at hsame hrest hlen
    refine ⟨by omega, ?_, ih hsame hrest hlen⟩
    refine (load_congr fun k hk => ?_).trans (m.load_store p.octets a)
    rw [hsame _ (by omega), storeParameters_of_lt _ (by omega)]

/-- What the loop does with a parameter. -/
def Parsed.record (p : Parsed) (q : Parameter) : Parsed :=
  if q.type = paramRandom then { p with rp := q.octets }
  else if q.type = paramChunks then { p with cp := q.octets }
  else if q.type = paramHmacAlgo then { p with hp := q.octets, hmacTypes := q.value.length / 2 }
  else p

/-- The loop goes on after the parameter, and copies all of it. -/
structure Parameter.IsRead (known : List ℕ) (q : Parameter) : Prop where
  type : q.type ∈ paramRandom :: paramChunks :: paramHmacAlgo :: known
  type_lt : q.type < 2 ^ 16
  length_lt : q.octets.length < 2 ^ 16
  even : q.type = paramHmacAlgo → Even q.value.length

theorem parseParameters_eq {known : List ℕ} {m heap : Memory} {cLen fuel parptr : ℕ}
    {ps : List Parameter} (h : Laid m cLen parptr ps) (hps : ∀ p ∈ ps, p.IsRead known)
    (hfuel : cLen ≤ initChunkLength + parptr + fuel) (p : Parsed) :
    parseParameters known m heap cLen fuel parptr p = ps.foldl Parsed.record p := by
  induction ps generalizing fuel parptr p with
  | nil =>
    cases fuel with
    | zero => rfl
    | succ fuel => exact if_neg (not_lt.2 h)
  | cons q ps ih =>
    obtain ⟨hlt, hload, hrest⟩ := h
    have hq := hps q mem_cons_self
    obtain ⟨fuel, rfl⟩ := exists_eq_succ_of_ne_zero (show fuel ≠ 0 by omega)
    have htype : ofOctets (m.load parptr 2) = q.type := by
      have := load_part [] (toOctets 2 q.type)
        (toOctets 2 (4 + q.value.length) ++ q.value) (hload.trans (append_assoc ..))
      rw [length_nil, toOctets_length] at this
      exact (congrArg ofOctets this).trans (ofOctets_toOctets hq.type_lt)
    have hlength : ofOctets (m.load (parptr + 2) 2) = q.octets.length := by
      have := load_part (toOctets 2 q.type) (toOctets 2 (4 + q.value.length)) q.value hload
      rw [toOctets_length, toOctets_length] at this
      rw [this, q.octets_length, ofOctets_toOctets (n := 2) (q.octets_length ▸ hq.length_lt)]
    have hnext : ∀ p, parseParameters known m heap cLen fuel
        (parptr + addPadding q.octets.length) p = ps.foldl Parsed.record p := by
      refine fun p => ih hrest (fun r hr => hps r (mem_cons_of_mem _ hr)) ?_ p
      have hpos := q.octets_length
      unfold addPadding
      omega
    rw [parseParameters, if_pos hlt, foldl_cons]
    dsimp only
    rw [htype, hlength, hload, hnext, hnext, hnext, hnext, Parsed.record]
    split_ifs with hrandom hchunks hhmac hknown
    · rfl
    · rfl
    · -- an even number of octets is copied as a whole
      have heven := div_two_mul_two_of_even (hq.even hhmac)
      have hsub : q.octets.length - 4 = q.value.length := by
        rw [q.octets_length, Nat.add_sub_cancel_left]
      have hall : 4 + 2 * (q.value.length / 2) = q.octets.length := by
        rw [q.octets_length]
        omega
      rw [hsub, hall, hload, load_store]
    · rfl
    · refine absurd (.inl ?_) hknown
      simpa [hrandom, hchunks, hhmac] using hq.type

/-! ### The vectors -/

namespace AuthChunk

variable (c : AuthChunk)

/-- The octets of the three parameters. -/
def keyOctets : List UInt8 :=
  c.randomParameter.octets ++ c.chunksParameter.octets ++ c.hmacParameter.octets

variable {c}

theorem hmacValue_length (c : AuthChunk) :
    c.hmacParameter.value.length = 2 * c.hmacTypes.length := by
  simp [hmacParameter, length_flatMap, Nat.mul_comm]

end AuthChunk

variable {c init initAck : AuthChunk}

section

variable (h : Fits c)
include h

/-- What is read of the parameters of a chunk that fits. -/
theorem Fits.parsed : c.parameters.foldl Parsed.record {} =
    ⟨c.randomParameter.octets, c.chunksParameter.octets, c.hmacParameter.octets,
      c.hmacTypes.length⟩ := by
  have hbefore : ∀ (l : List Parameter) (p : Parsed), (∀ q ∈ l, q.type ∈ initParameters) →
      l.foldl Parsed.record p = p := by
    intro l p hl
    induction l with
    | nil => rfl
    | cons q l ih =>
      have hother : ∀ t ∈ initParameters, t ≠ paramRandom ∧ t ≠ paramChunks ∧ t ≠ paramHmacAlgo := by
        decide
      obtain ⟨hrandom, hchunks, hhmac⟩ := hother _ (hl q mem_cons_self)
      rw [foldl_cons, Parsed.record, if_neg hrandom, if_neg hchunks, if_neg hhmac]
      exact ih fun r hr => hl r (mem_cons_of_mem _ hr)
  have hnum : c.hmacParameter.value.length / 2 = c.hmacTypes.length := by
    rw [c.hmacValue_length]
    omega
  rw [AuthChunk.parameters, if_pos h.hmacTypes, foldl_append, hbefore _ _ h.before, ← hnum]
  rfl

theorem Fits.isRead : ∀ p ∈ c.parameters, p.IsRead initParameters := by
  intro p hp
  have hlength : p.octets.length < 2 ^ 16 := by
    have hle := le_sum_of_mem
      (mem_map_of_mem (f := fun p => addPadding p.octets.length) hp)
    have hchunk := h.chunk
    unfold addPadding at hle hchunk
    omega
  rw [AuthChunk.parameters, if_pos h.hmacTypes, mem_append] at hp
  have hother : ∀ t ∈ initParameters, t ≠ paramHmacAlgo ∧ t < 2 ^ 16 := by decide
  rcases hp with hp | hp
  · have htype := h.before p hp
    exact ⟨by simp [htype], (hother _ htype).2, hlength, fun heq => absurd heq (hother _ htype).1⟩
  · simp only [mem_cons, not_mem_nil, or_false] at hp
    rcases hp with rfl | rfl | rfl
    · exact ⟨mem_cons_self, show paramRandom < 2 ^ 16 by decide, hlength, fun heq => by cases heq⟩
    · exact ⟨by simp [AuthChunk.chunksParameter], show paramChunks < 2 ^ 16 by decide, hlength,
        fun heq => by cases heq⟩
    · exact ⟨by simp [AuthChunk.hmacParameter], show paramHmacAlgo < 2 ^ 16 by decide, hlength,
        fun _ => ⟨c.hmacTypes.length, by rw [c.hmacValue_length]; omega⟩⟩

theorem Fits.lengths : c.randomParameter.length = c.randomParameter.octets.length ∧
    c.chunksParameter.length = c.chunksParameter.octets.length ∧
    c.hmacParameter.length = c.hmacParameter.octets.length := by
  have hvector := h.vector
  have hvalue := c.hmacValue_length
  have hlength : ∀ p : Parameter, p.value.length < 2 ^ 15 → p.length = p.octets.length := by
    intro p hp
    rw [Parameter.length, p.octets_length]
    exact mod_eq_of_lt (by omega)
  exact ⟨hlength _ (show c.random.length < 2 ^ 15 by omega),
    hlength _ (show c.chunkTypes.length < 2 ^ 15 by omega), hlength _ (by omega)⟩

/-- Where the parameters follow each other, the vector consists of their octets. -/
theorem Fits.initVector_eq (vector : Memory) : initVector c vector = c.keyOctets := by
  obtain ⟨hrandom, hchunks, hhmac⟩ := h.lengths
  have hall : vector.store 0 c.keyOctets =
      ((vector.store 0 c.randomParameter.octets).store c.randomParameter.octets.length
        c.chunksParameter.octets).store
        (c.randomParameter.octets.length + c.chunksParameter.octets.length)
          c.hmacParameter.octets := by
    rw [AuthChunk.keyOctets, store_append, store_append, Nat.zero_add, Nat.zero_add, length_append]
  rw [initVector, hrandom, hchunks, hhmac, ← hall]
  refine load_store_of_length _ _ ?_
  rw [AuthChunk.keyOctets, length_append, length_append]

/-- In the vector of an INIT_ACK this takes a RANDOM of 32 octets. -/
theorem Fits.initAckVector_eq (hrandom : c.random.length = 32) (vector : Memory) :
    initAckVector c vector = c.keyOctets := by
  have hfirst : c.randomParameter.length = 36 := by
    rw [h.lengths.1, Parameter.octets_length]
    exact congrArg (4 + ·) hrandom
  have hsecond : c.chunksParameter.length = 4 + c.chunkTypes.length := by
    rw [h.lengths.2.1, Parameter.octets_length]
    rfl
  rw [← h.initVector_eq vector, initVector, initAckVector, hfirst, hsecond, Nat.add_assoc 36 4]

theorem Fits.initAckVector_length (vector : Memory) :
    (initAckVector c vector).length = c.keyOctets.length := by
  obtain ⟨hrandom, hchunks, hhmac⟩ := h.lengths
  rw [initAckVector, load_length, AuthChunk.keyOctets, length_append,
    length_append, hrandom, hchunks, hhmac]

/-- Otherwise one octet of the vector has not been written: the one before the place of CHUNKS, or
the last one. -/
theorem Fits.exists_unwritten (hrandom : c.random.length ≠ 32) :
    ∃ k, ∀ vector, (initAckVector c vector)[k]? = some (vector k) := by
  have hlengths := h.lengths
  have hrandom' : c.randomParameter.value.length = c.random.length := rfl
  have hchunks : c.chunksParameter.value.length = c.chunkTypes.length := rfl
  simp only [Parameter.octets_length] at hlengths
  refine ⟨if c.random.length < 32 then 4 + c.random.length
    else c.randomParameter.length + c.chunksParameter.length + c.hmacParameter.length - 1,
    fun vector => ?_⟩
  rw [initAckVector, List.getElem?_eq_getElem (by rw [load_length]; split_ifs <;> omega),
    load_getElem, Nat.zero_add]
  split_ifs with hlt
  · rw [store_of_lt _ _ (by omega), store_of_lt _ _ (by omega),
      store_of_le _ _ (by rw [Parameter.octets_length]; omega)]
  · rw [store_of_le _ _ (by rw [Parameter.octets_length]; omega),
      store_of_le _ _ (by rw [Parameter.octets_length]; omega),
      store_of_le _ _ (by rw [Parameter.octets_length]; omega)]

end

/-! ### The shared key -/

theorem compareLoop_symm {l l' : List UInt8} (hlength : l.length = l'.length) (hne : l ≠ l') :
    compareLoop l l' = !compareLoop l' l := by
  induction l generalizing l' with
  | nil => exact absurd (length_eq_zero_iff.1 hlength.symm).symm hne
  | cons a l ih =>
    cases l' with
    | nil => cases hlength
    | cons b l' =>
      rw [compareLoop, compareLoop]
      rcases lt_trichotomy a.toNat b.toNat with hlt | htoNat | hgt
      · rw [if_pos hlt, if_neg hlt.not_gt, if_pos hlt]
        rfl
      · obtain rfl := UInt8.toNat_inj.1 htoNat
        simp only [if_neg (lt_irrefl a.toNat)]
        exact ih (by simpa using hlength) fun heq => hne (by rw [heq])
      · rw [if_neg hgt.not_gt, if_pos hgt, if_pos hgt]
        rfl

/-- The order of the vectors does not depend on whose vector is the own one. -/
theorem joinVectors_comm (l l' : List UInt8) : joinVectors l l' = joinVectors l' l := by
  by_cases heq : l = l'
  · rw [heq]
  have hsymm : compareRandom l l' = !compareRandom l' l := by
    unfold compareRandom
    rcases lt_trichotomy l.length l'.length with hlt | hsame | hgt
    · rw [if_pos hlt.ne, if_pos hlt, if_pos hlt.ne', if_neg hlt.not_gt]
      rfl
    · rw [if_neg (not_not.2 hsame), if_neg (not_not.2 hsame.symm)]
      exact compareLoop_symm hsame heq
    · rw [if_pos hgt.ne', if_neg hgt.not_gt, if_pos hgt.ne, if_pos hgt]
      rfl
  rw [joinVectors, joinVectors, hsymm]
  cases compareRandom l' l <;> rfl

theorem joinVectors_inj {l1 l2 l : List UInt8} (hlength : l1.length = l2.length)
    (h : joinVectors l1 l = joinVectors l2 l) : l1 = l2 := by
  by_cases hsame : l2.length = l.length
  · unfold joinVectors at h
    split_ifs at h
    · exact (append_inj h rfl).2
    · obtain ⟨rfl, rfl⟩ := append_inj h hsame.symm
      rfl
    · obtain ⟨rfl, rfl⟩ := append_inj h (hlength.trans hsame)
      rfl
    · exact (append_inj h hlength).1
  · have hcompare : compareRandom l1 l = compareRandom l2 l := by
      rw [compareRandom, compareRandom, hlength, if_pos hsame, if_pos hsame]
    unfold joinVectors at h
    rw [hcompare] at h
    split_ifs at h
    · exact (append_inj h rfl).2
    · exact (append_inj h hlength).1

/-! ### The exchange -/

theorem parseInit_eq (h : Fits init) (s : KeyVectors) (heap buf : Memory) :
    parseInit s heap (storeParameters buf 0 init.parameters).1
      ((initChunkLength + (storeParameters buf 0 init.parameters).2) % 2 ^ 16) =
        { s with peerKeyVector := init.keyOctets } := by
  have hlen := storeParameters_snd buf 0 init.parameters
  have hchunk := h.chunk
  rw [mod_eq_of_lt (by omega)]
  have hholds : Laid (storeParameters buf 0 init.parameters).1
      (initChunkLength + (storeParameters buf 0 init.parameters).2) 0 (init.parameters ++ []) :=
    storeParameters_laid (fun _ _ => rfl) le_rfl le_rfl
  rw [append_nil] at hholds
  rw [parseInit, parseParameters_eq hholds h.isRead (by omega), h.parsed]
  exact if_pos (mt length_eq_zero_iff.1 h.hmacTypes)

theorem parseInitAck_eq (h : Fits initAck) (s : KeyVectors) (heap buf : Memory) :
    let (m, parPtr) := storeParameters buf 0 initAck.parameters
    parseInitAck s heap (m.store parPtr initAck.cookieParameter.octets)
      ((initChunkLength + (parPtr + initAck.cookieParameter.octets.length)) % 2 ^ 16) =
        KeyVectors.calculateSharedKey { s with peerKeyVector := initAck.keyOctets } := by
  have hlen := storeParameters_snd buf 0 initAck.parameters
  have hchunk := h.chunk
  have hcookie := initAck.cookieParameter.octets_length
  dsimp only
  rw [mod_eq_of_lt (by omega)]
  have hpadding : ∀ n, n ≤ addPadding n := by
    unfold addPadding
    omega
  have hholds : Laid ((storeParameters buf 0 initAck.parameters).1.store
      (storeParameters buf 0 initAck.parameters).2 initAck.cookieParameter.octets)
      (initChunkLength + ((storeParameters buf 0 initAck.parameters).2 +
        initAck.cookieParameter.octets.length)) 0
      (initAck.parameters ++ [initAck.cookieParameter]) :=
    storeParameters_laid (fun k hk => store_of_lt _ _ hk)
      ⟨by omega, load_store _ _ _,
        Nat.add_le_add_left (Nat.add_le_add_left (hpadding _) _) _⟩ (by omega)
  have hread : ∀ p ∈ initAck.parameters ++ [initAck.cookieParameter],
      p.IsRead (initParamCookie :: initParameters) := by
    intro p hp
    rcases mem_append.1 hp with hp | hp
    · obtain ⟨htype, hlt, hlength, heven⟩ := h.isRead p hp
      refine ⟨?_, hlt, hlength, heven⟩
      simp only [mem_cons] at htype ⊢
      tauto
    · cases mem_singleton.1 hp
      exact ⟨by simp [AuthChunk.cookieParameter], show initParamCookie < 2 ^ 16 by decide,
        by omega, fun heq => by cases heq⟩
  rw [parseInitAck, parseParameters_eq hholds hread (by omega), foldl_append, h.parsed]
  exact if_pos (mt length_eq_zero_iff.1 h.hmacTypes)

theorem exchange_eq (hinit : Fits init) (hinitAck : Fits initAck) (x : OldMemory) :
    exchange x init initAck =
      (KeyVectors.calculateSharedKey ⟨init.keyOctets, initAck.keyOctets, []⟩,
        KeyVectors.calculateSharedKey
          ⟨initAckVector initAck x.initAckVector, init.keyOctets, []⟩) := by
  unfold exchange serializeInit serializeInitAck
  dsimp only
  rw [if_pos hinit.hmacTypes, if_pos hinitAck.hmacTypes, parseInit_eq hinit,
    parseInitAck_eq hinitAck, hinit.initVector_eq]
  rfl

/-- A chunk with a RANDOM of the given length, one chunk type and one HMAC. -/
def sampleChunk (n : ℕ) : AuthChunk where
  random := List.replicate n 7
  chunkTypes := [193]
  hmacTypes := [1]

theorem fits_sampleChunk : Fits (sampleChunk 32) ∧ Fits (sampleChunk 16) :=
  ⟨⟨by decide, by decide, by decide, by decide⟩, ⟨by decide, by decide, by decide, by decide⟩⟩

end SCTP

end Hiwis
