import Hiwis.Diffserv.Conformance

/-!
# Token accrual

`meterPacket` credits whole tokens and moves its clock to the arrival of the packet, so that the
fraction of a token that the last gap was worth is lost.

* `Diffserv.accrues_iff` : the tokens that a bucket gets are within one bit of the rate times the
  elapsed time if and only if the lost fractions are less than one bit together.
-/

namespace Hiwis

namespace Diffserv

open TokenBucket (lost)

/-- A bucket of a meter. -/
structure Bucket (σ : Type*) where
  rate : ℚ≥0
  level : σ → ℤ
  /-- The level when the packet is looked at. -/
  filled : σ → Arrival → ℤ
  /-- The tokens go to the bucket, and it does not overflow. -/
  Room : σ → Arrival → Prop

namespace Bucket

variable {σ : Type*} (M : Meter σ) (b : Bucket σ)

/-- The bucket neither overflows nor is drawn from. -/
def Undisturbed (m : σ) (packet : Arrival) : Prop :=
  b.Room m packet ∧ b.level (M.act m packet) = b.filled m packet

/-- The tokens that are credited to the bucket. -/
def credited (m : σ) (packets : List Arrival) : ℤ :=
  TokenBucket.total M.act (fun m packet => b.filled m packet - b.level m) m packets

/-- The tokens differ from the rate times the elapsed time by less than one bit. -/
def Accrues (m : σ) (packets : List Arrival) : Prop :=
  |(b.credited M m packets : ℚ) -
    (M.lastUpdateTime (packets.foldl M.act m) - M.lastUpdateTime m) * b.rate| < 1

/-- In every run, and every interval in which the bucket is undisturbed, the bucket accrues exactly
when the fractions that are lost sum to less than one bit. -/
def AccruesIff (start : σ) : Prop :=
  ∀ before packets, M.InOrder start (before ++ packets) →
    History.Each M.act (b.Undisturbed M) (before.foldl M.act start) packets →
    (b.Accrues M (before.foldl M.act start) packets ↔
      lost b.rate (M.lastUpdateTime (before.foldl M.act start)) (packets.map Arrival.time) < 1)

variable {M b}

theorem accruesIff {I : σ → Prop} (h : M.Sound I) (start : σ)
    (hroom : ∀ m packet, M.lastUpdateTime m ≤ packet.time → b.Room m packet →
      b.filled m packet - b.level m = numTokens (packet.time - M.lastUpdateTime m) b.rate) :
    b.AccruesIff M start := by
  intro before packets horder hundisturbed
  have hboth := (History.each_congr (History.each_append_iff.1 horder).2
    fun m packet ht => (and_iff_right ht).symm).1 hundisturbed
  have hsum := TokenBucket.credited_add_lost h.clock
    (hboth.mono fun m packet hm => hroom m packet hm.1 hm.2.1)
  have hlost := TokenBucket.lost_nonneg b.rate (M.lastUpdateTime (before.foldl M.act start))
    (packets.map Arrival.time)
  have hdiff : (b.credited M (before.foldl M.act start) packets : ℚ) -
      (M.lastUpdateTime (packets.foldl M.act (before.foldl M.act start)) -
        M.lastUpdateTime (before.foldl M.act start)) * b.rate =
      -lost b.rate (M.lastUpdateTime (before.foldl M.act start)) (packets.map Arrival.time) := by
    rw [← hsum, credited]
    ring
  rw [Accrues, hdiff, abs_neg, abs_of_nonneg hlost]

end Bucket

theorem fill_sub {tokens n size : ℤ} (h : tokens + n ≤ size) : fill tokens n size - tokens = n := by
  rw [fill, if_pos h, add_sub_cancel_left]

def TokenBucketMeter.committed (p : TokenBucketParameters) : Bucket TokenBucketMeter where
  rate := p.CIR
  level := Tc
  filled m packet := (filled p m packet.time).Tc
  Room m packet := m.Tc + numTokens (packet.time - m.lastUpdateTime) p.CIR ≤ p.CBS

namespace SingleRateThreeColorMeter

variable (p : SingleRateParameters)

def committed : Bucket SingleRateThreeColorMeter where
  rate := p.CIR
  level := Tc
  filled m packet := (update p m packet.time).Tc
  Room m packet := m.Tc + numTokens (packet.time - m.lastUpdateTime) p.CIR ≤ p.CBS

/-- The bucket gets the tokens when the first one is full. -/
def excess : Bucket SingleRateThreeColorMeter where
  rate := p.CIR
  level := Te
  filled m packet := (update p m packet.time).Te
  Room m packet := m.Tc = p.CBS ∧ m.Te + numTokens (packet.time - m.lastUpdateTime) p.CIR ≤ p.EBS

end SingleRateThreeColorMeter

namespace TwoRateThreeColorMeter

variable (p : TwoRateParameters)

def peak : Bucket TwoRateThreeColorMeter where
  rate := p.PIR
  level := Tp
  filled m packet := (filled p m packet.time).Tp
  Room m packet := m.Tp + numTokens (packet.time - m.lastUpdateTime) p.PIR ≤ p.PBS

def committed : Bucket TwoRateThreeColorMeter where
  rate := p.CIR
  level := Tc
  filled m packet := (filled p m packet.time).Tc
  Room m packet := m.Tc + numTokens (packet.time - m.lastUpdateTime) p.CIR ≤ p.CBS

end TwoRateThreeColorMeter

end Diffserv

end Hiwis
