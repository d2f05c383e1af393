import Hiwis.Lib.TokenBucket

/-!
# The meters of a traffic conditioner

`TokenBucketMeter`, `SingleRateThreeColorMeter` and `TwoRateThreeColorMeter` mark each packet with a
color.  They keep buckets of tokens, one for a bit, which `meterPacket` fills before it looks at the
packet.  Times and rates are exact.
-/

namespace Hiwis

namespace Diffserv

/-- `Color`. -/
inductive Color
  | green
  | yellow
  | red
  deriving DecidableEq

/-- The number of a color. -/
def Color.toInt : Color → ℤ
  | .green => 0
  | .yellow => 1
  | .red => 2

/-- A packet that arrives, with the color that a meter has given to it before. -/
structure Arrival where
  time : ℚ
  bitLength : ℕ
  color : Option Color := none
  deriving DecidableEq

/-- `getColor`. -/
def Arrival.getColor (packet : Arrival) : ℤ :=
  match packet.color with
  | some color => color.toInt
  | none => -1

/-- `getByteLength`: the last octet may not be full. -/
def Arrival.byteLength (packet : Arrival) : ℕ := (packet.bitLength + 7) / 8

/-- What all meters have: a clock, and the mark of a packet. -/
structure Meter (σ : Type*) where
  lastUpdateTime : σ → ℚ
  meterPacket : σ → Arrival → σ × Color

namespace Meter

variable {σ : Type*} (M : Meter σ)

/-- The meter after a packet. -/
def act (m : σ) (packet : Arrival) : σ := (M.meterPacket m packet).1

/-- The packets arrive one after the other. -/
def InOrder : σ → List Arrival → Prop :=
  History.Each M.act fun m packet => M.lastUpdateTime m ≤ packet.time

/-- The bits of a packet that is marked with one of the colors. -/
def marked (colors : List Color) (m : σ) (packet : Arrival) : ℕ :=
  if (M.meterPacket m packet).2 ∈ colors then packet.bitLength else 0

/-- The bits that are marked with one of the colors in an interval. -/
def bitsMarked (colors : List Color) (s t : ℚ) : σ → List Arrival → ℚ :=
  TokenBucket.amountIn M.act Arrival.time (fun m packet => (M.marked colors m packet : ℚ)) s t

end Meter

/-- The tokens for the time that has elapsed, which is not negative: the fraction is cut off. -/
def numTokens (elapsedTime rate : ℚ) : ℤ := ⌊elapsedTime * rate⌋

/-- Tokens are added to a bucket of the given size. -/
def fill (tokens numTokens size : ℤ) : ℤ :=
  if tokens + numTokens ≤ size then tokens + numTokens else size

/-- The color of a packet before it is metered. -/
def oldColor (colorAwareMode : Bool) (packet : Arrival) : ℤ :=
  if colorAwareMode then packet.getColor else -1

/-! ### One bucket -/

structure TokenBucketParameters where
  CIR : ℚ≥0
  CBS : ℕ
  colorAwareMode : Bool := false

/-- `TokenBucketMeter`. -/
structure TokenBucketMeter where
  Tc : ℤ
  lastUpdateTime : ℚ

namespace TokenBucketMeter

variable (p : TokenBucketParameters)

def initial (now : ℚ) : TokenBucketMeter := ⟨p.CBS, now⟩

def meterPacket (m : TokenBucketMeter) (packet : Arrival) : TokenBucketMeter × Color :=
  let numTokens := numTokens (packet.time - m.lastUpdateTime) p.CIR
  let Tc := fill m.Tc numTokens p.CBS
  let packetSizeInBits : ℤ := packet.bitLength
  if oldColor p.colorAwareMode packet ≤ Color.green.toInt ∧ Tc - packetSizeInBits ≥ 0 then
    (⟨Tc - packetSizeInBits, packet.time⟩, .green)
  else (⟨Tc, packet.time⟩, .red)

def meter : Meter TokenBucketMeter := ⟨lastUpdateTime, meterPacket p⟩

end TokenBucketMeter

/-! ### Two buckets, one rate -/

structure SingleRateParameters where
  CIR : ℚ≥0
  CBS : ℕ
  EBS : ℕ
  colorAwareMode : Bool := false

/-- `SingleRateThreeColorMeter`. -/
structure SingleRateThreeColorMeter where
  Tc : ℤ
  Te : ℤ
  lastUpdateTime : ℚ

namespace SingleRateThreeColorMeter

variable (p : SingleRateParameters)

def initial (now : ℚ) : SingleRateThreeColorMeter := ⟨p.CBS, p.EBS, now⟩

/-- The buckets are filled: what the first one has no room for goes to the second one. -/
def update (m : SingleRateThreeColorMeter) (now : ℚ) : SingleRateThreeColorMeter :=
  let numTokens := numTokens (now - m.lastUpdateTime) p.CIR
  if m.Tc + numTokens ≤ p.CBS then ⟨m.Tc + numTokens, m.Te, now⟩
  else
    let excessTokens := m.Tc + numTokens - p.CBS
    ⟨p.CBS, fill m.Te excessTokens p.EBS, now⟩

def meterPacket (m : SingleRateThreeColorMeter) (packet : Arrival) :
    SingleRateThreeColorMeter × Color :=
  let m := m.update p packet.time
  let oldColor := oldColor p.colorAwareMode packet
  let packetSizeInBits : ℤ := packet.bitLength
  if oldColor ≤ Color.green.toInt ∧ m.Tc - packetSizeInBits ≥ 0 then
    ({ m with Tc := m.Tc - packetSizeInBits }, .green)
  else if oldColor ≤ Color.yellow.toInt ∧ m.Te - packetSizeInBits ≥ 0 then
    ({ m with Te := m.Te - packetSizeInBits }, .yellow)
  else (m, .red)

def meter : Meter SingleRateThreeColorMeter := ⟨lastUpdateTime, meterPacket p⟩

end SingleRateThreeColorMeter

/-! ### Two buckets, two rates -/

structure TwoRateParameters where
  PIR : ℚ≥0
  PBS : ℕ
  CIR : ℚ≥0
  CBS : ℕ
  colorAwareMode : Bool := false

/-- `TwoRateThreeColorMeter`. -/
structure TwoRateThreeColorMeter where
  Tp : ℤ
  Tc : ℤ
  lastUpdateTime : ℚ

namespace TwoRateThreeColorMeter

variable (p : TwoRateParameters)

def initial (now : ℚ) : TwoRateThreeColorMeter := ⟨p.PBS, p.CBS, now⟩

def meterPacket (m : TwoRateThreeColorMeter) (packet : Arrival) : TwoRateThreeColorMeter × Color :=
  let elapsedTime := packet.time - m.lastUpdateTime
  let Tp := fill m.Tp (numTokens elapsedTime p.PIR) p.PBS
  let Tc := fill m.Tc (numTokens elapsedTime p.CIR) p.CBS
  let oldColor := oldColor p.colorAwareMode packet
  -- the size is counted in octets here
  let packetSizeInBits : ℤ := 8 * packet.byteLength
  if oldColor = Color.red.toInt ∨ Tp - packetSizeInBits < 0 then (⟨Tp, Tc, packet.time⟩, .red)
  else if oldColor = Color.yellow.toInt ∨ Tc - packetSizeInBits < 0 then
    (⟨Tp - packetSizeInBits, Tc, packet.time⟩, .yellow)
  else (⟨Tp - packetSizeInBits, Tc - packetSizeInBits, packet.time⟩, .green)

def meter : Meter TwoRateThreeColorMeter := ⟨lastUpdateTime, meterPacket p⟩

end TwoRateThreeColorMeter

end Diffserv

end Hiwis
