import Hiwis.Diffserv.Meters

/-!
# Token bucket conformance

The buckets of a meter stay in range, and what is marked in an interval was in a bucket at its
beginning or was credited to it since.

* `Diffserv.meters_conform` : the bounds of the three meters, for every run and every interval of
  it.
-/

namespace Hiwis

namespace Diffserv

open TokenBucket (IsBucket)

theorem numTokens_nonneg {elapsedTime rate : ℚ} (ht : 0 ≤ elapsedTime) (hr : 0 ≤ rate) :
    0 ≤ numTokens elapsedTime rate :=
  Int.floor_nonneg.2 (mul_nonneg ht hr)

theorem numTokens_le (elapsedTime rate : ℚ) :
    (numTokens elapsedTime rate : ℚ) ≤ rate * elapsedTime :=
  (Int.floor_le _).trans_eq (mul_comm _ _)

section Fill

variable {tokens n size : ℤ}

theorem fill_le_size : fill tokens n size ≤ size := by
  unfold fill
  split_ifs <;> omega

theorem fill_le_add : fill tokens n size ≤ tokens + n := by
  unfold fill
  split_ifs <;> omega

theorem fill_nonneg (ht : 0 ≤ tokens) (hn : 0 ≤ n) (hs : 0 ≤ size) : 0 ≤ fill tokens n size := by
  unfold fill
  split_ifs <;> omega

end Fill

namespace Meter

variable {σ : Type*} {M : Meter σ} {I : σ → Prop} {m start : σ}

/-- The bits that are marked with one of the colors are at most the size and the rate times the
length of the interval, in every interval of every run. -/
def Bounds (M : Meter σ) (start : σ) (colors : List Color) (size : ℕ) (rate : ℚ≥0) : Prop :=
  ∀ packets, M.InOrder start packets → ∀ s t, s ≤ t →
    M.bitsMarked colors s t start packets ≤ size + rate * (t - s)

/-- The buckets are in range at the end of every run. -/
def StaysIn (M : Meter σ) (start : σ) (inRange : σ → Prop) : Prop :=
  ∀ packets, M.InOrder start packets → inRange (packets.foldl M.act start)

/-- The meter sets its clock, and keeps its buckets in range. -/
structure Sound (M : Meter σ) (I : σ → Prop) : Prop where
  clock : ∀ m packet, M.lastUpdateTime (M.act m packet) = packet.time
  keeps : ∀ m packet, I m → M.lastUpdateTime m ≤ packet.time → I (M.act m packet)

theorem Sound.staysIn (h : M.Sound I) (hstart : I start) : M.StaysIn start I :=
  fun _ hpackets => hpackets.invariant hstart fun m packet hm => h.keeps m packet hm

/-- What is marked is drawn from a bucket that has been filled before. -/
theorem Sound.bounds (h : M.Sound I) (hstart : I start) (level : σ → ℤ) {size : ℕ} {rate : ℚ≥0}
    {colors : List Color} (hlevel : ∀ m, I m → 0 ≤ level m)
    (hfilled : ∀ m packet, I m → M.lastUpdateTime m ≤ packet.time → ∃ filled : ℤ,
      level (M.act m packet) + M.marked colors m packet ≤ filled ∧ filled ≤ size ∧
      filled ≤ level m + numTokens (packet.time - M.lastUpdateTime m) rate) :
    M.Bounds start colors size rate := by
  have hbucket : IsBucket M.act M.lastUpdateTime Arrival.time I (fun m => (level m : ℚ)) rate size
      (fun m packet => (M.marked colors m packet : ℚ)) := by
    refine ⟨rate.2, h.clock, h.keeps, fun m hm => mod_cast hlevel m hm,
      fun m packet => Nat.cast_nonneg _, fun m packet hm ht => ?_, fun m packet hm ht => ?_⟩
    · obtain ⟨filled, hle, hsize, -⟩ := hfilled m packet hm ht
      exact_mod_cast hle.trans hsize
    · obtain ⟨filled, hle, -, hadd⟩ := hfilled m packet hm ht
      have htokens := numTokens_le (packet.time - M.lastUpdateTime m) rate
      have hdraw : ((level (M.act m packet) + M.marked colors m packet : ℤ) : ℚ) ≤
          (level m + numTokens (packet.time - M.lastUpdateTime m) rate : ℤ) :=
        mod_cast hle.trans hadd
      push_cast at hdraw
      linarith
  intro packets hpackets s t hst
  exact hbucket.amountIn_le hpackets hstart (Nat.cast_nonneg _) hst

end Meter

namespace TokenBucketMeter

variable (p : TokenBucketParameters) (m : TokenBucketMeter)

/-- The bucket is neither negative nor above its size. -/
def InRange : Prop := 0 ≤ m.Tc ∧ m.Tc ≤ p.CBS

/-- The meter when it looks at the packet. -/
def filled (now : ℚ) : TokenBucketMeter :=
  ⟨fill m.Tc (numTokens (now - m.lastUpdateTime) p.CIR) p.CBS, now⟩

variable {p m} in
theorem InRange.filled (hm : InRange p m) {now : ℚ} (ht : m.lastUpdateTime ≤ now) :
    InRange p (filled p m now) :=
  ⟨fill_nonneg hm.1 (numTokens_nonneg (sub_nonneg.2 ht) p.CIR.2) (Int.natCast_nonneg _),
    fill_le_size⟩

theorem meterPacket_cases (packet : Arrival) :
    0 ≤ (filled p m packet.time).Tc - packet.bitLength ∧ meterPacket p m packet =
        (⟨(filled p m packet.time).Tc - packet.bitLength, packet.time⟩, .green) ∨
      meterPacket p m packet = (filled p m packet.time, .red) := by
  simp only [meterPacket]
  split_ifs with hgreen
  · exact .inl ⟨hgreen.2, rfl⟩
  · exact .inr rfl

theorem sound : (meter p).Sound (InRange p) where
  clock m packet := by
    obtain ⟨-, h⟩ | h := meterPacket_cases p m packet <;> simp [Meter.act, meter, h, filled]
  keeps m packet hm ht := by
    have hfilled := hm.filled ht
    obtain ⟨hle, h⟩ | h := meterPacket_cases p m packet <;> simp only [Meter.act, meter, h]
    · exact ⟨hle, (sub_le_self _ (Int.natCast_nonneg _)).trans hfilled.2⟩
    · exact hfilled

theorem bounds_green (now : ℚ) : (meter p).Bounds (initial p now) [.green] p.CBS p.CIR := by
  refine (sound p).bounds ⟨Int.natCast_nonneg _, le_rfl⟩ Tc (fun m hm => hm.1) fun m packet _ _ =>
    ⟨(filled p m packet.time).Tc, ?_, fill_le_size, fill_le_add⟩
  obtain ⟨-, h⟩ | h := meterPacket_cases p m packet <;> simp [Meter.act, Meter.marked, meter, h]

end TokenBucketMeter

namespace SingleRateThreeColorMeter

variable (p : SingleRateParameters) (m : SingleRateThreeColorMeter)

/-- The buckets are neither negative nor above their sizes. -/
structure InRange : Prop where
  Tc_nonneg : 0 ≤ m.Tc
  Tc_le : m.Tc ≤ p.CBS
  Te_nonneg : 0 ≤ m.Te
  Te_le : m.Te ≤ p.EBS

theorem initial_inRange (now : ℚ) : InRange p (initial p now) :=
  ⟨Int.natCast_nonneg _, le_rfl, Int.natCast_nonneg _, le_rfl⟩

/-- The second bucket gets no more than what the first one has no room for. -/
theorem update_le (now : ℚ) :
    (update p m now).Tc ≤ m.Tc + numTokens (now - m.lastUpdateTime) p.CIR ∧
      (update p m now).Tc + (update p m now).Te ≤
        m.Tc + m.Te + numTokens (now - m.lastUpdateTime) p.CIR := by
  simp only [update, fill]
  split_ifs <;> dsimp only <;> omega

variable {p m} in
theorem InRange.update (hm : InRange p m) {now : ℚ} (ht : m.lastUpdateTime ≤ now) :
    InRange p (update p m now) := by
  have hn : 0 ≤ numTokens (now - m.lastUpdateTime) p.CIR :=
    numTokens_nonneg (sub_nonneg.2 ht) p.CIR.2
  obtain ⟨h1, h2, h3, h4⟩ := hm
  simp only [SingleRateThreeColorMeter.update, fill]
  split_ifs <;> constructor <;> dsimp only <;> omega

theorem meterPacket_cases (packet : Arrival) {f : SingleRateThreeColorMeter}
    (hf : update p m packet.time = f) :
    0 ≤ f.Tc - packet.bitLength ∧
        meterPacket p m packet = ({ f with Tc := f.Tc - packet.bitLength }, .green) ∨
      0 ≤ f.Te - packet.bitLength ∧
        meterPacket p m packet = ({ f with Te := f.Te - packet.bitLength }, .yellow) ∨
      meterPacket p m packet = (f, .red) := by
  subst hf
  simp only [meterPacket]
  split_ifs with hgreen hyellow
  · exact .inl ⟨hgreen.2, rfl⟩
  · exact .inr (.inl ⟨hyellow.2, rfl⟩)
  · exact .inr (.inr rfl)

theorem sound : (meter p).Sound (InRange p) where
  clock m packet := by
    have hclock : (update p m packet.time).lastUpdateTime = packet.time := by
      simp only [update]
      split_ifs <;> rfl
    obtain ⟨-, h⟩ | ⟨-, h⟩ | h := meterPacket_cases p m packet rfl <;>
      simpa [Meter.act, meter, h] using hclock
  keeps m packet hm ht := by
    have hupdate := hm.update ht
    obtain ⟨hle, h⟩ | ⟨hle, h⟩ | h := meterPacket_cases p m packet rfl <;>
      simp only [Meter.act, meter, h]
    · exact { hupdate with
        Tc_nonneg := hle
        Tc_le := (sub_le_self _ (Int.natCast_nonneg _)).trans hupdate.Tc_le }
    · exact { hupdate with
        Te_nonneg := hle
        Te_le := (sub_le_self _ (Int.natCast_nonneg _)).trans hupdate.Te_le }
    · exact hupdate

theorem bounds_green (now : ℚ) : (meter p).Bounds (initial p now) [.green] p.CBS p.CIR := by
  refine (sound p).bounds (initial_inRange p now) Tc (fun m hm => hm.Tc_nonneg) fun m packet hm ht =>
    ⟨(update p m packet.time).Tc, ?_, (hm.update ht).Tc_le, (update_le p m packet.time).1⟩
  obtain ⟨-, h⟩ | ⟨-, h⟩ | h := meterPacket_cases p m packet rfl <;>
    simp [Meter.act, Meter.marked, meter, h]

theorem bounds_yellow (now : ℚ) :
    (meter p).Bounds (initial p now) [.green, .yellow] (p.CBS + p.EBS) p.CIR := by
  refine (sound p).bounds (initial_inRange p now) (fun m => m.Tc + m.Te)
    (fun m hm => add_nonneg hm.Tc_nonneg hm.Te_nonneg) fun m packet hm ht =>
    ⟨(update p m packet.time).Tc + (update p m packet.time).Te, ?_, ?_,
      (update_le p m packet.time).2⟩
  · obtain ⟨-, h⟩ | ⟨-, h⟩ | h := meterPacket_cases p m packet rfl <;>
      simp [Meter.act, Meter.marked, meter, h] <;> omega
  · exact_mod_cast add_le_add (hm.update ht).Tc_le (hm.update ht).Te_le

end SingleRateThreeColorMeter

namespace TwoRateThreeColorMeter

variable (p : TwoRateParameters) (m : TwoRateThreeColorMeter)

/-- The buckets are neither negative nor above their sizes. -/
structure InRange : Prop where
  Tp_nonneg : 0 ≤ m.Tp
  Tp_le : m.Tp ≤ p.PBS
  Tc_nonneg : 0 ≤ m.Tc
  Tc_le : m.Tc ≤ p.CBS

theorem initial_inRange (now : ℚ) : InRange p (initial p now) :=
  ⟨Int.natCast_nonneg _, le_rfl, Int.natCast_nonneg _, le_rfl⟩

/-- The meter when it looks at the packet. -/
def filled (now : ℚ) :
    TwoRateThreeColorMeter :=
  ⟨fill m.Tp (numTokens (now - m.lastUpdateTime) p.PIR) p.PBS,
    fill m.Tc (numTokens (now - m.lastUpdateTime) p.CIR) p.CBS, now⟩

variable {p m} in
theorem InRange.filled (hm : InRange p m) {now : ℚ} (ht : m.lastUpdateTime ≤ now) :
    InRange p (filled p m now) :=
  ⟨fill_nonneg hm.Tp_nonneg (numTokens_nonneg (sub_nonneg.2 ht) p.PIR.2) (Int.natCast_nonneg _),
    fill_le_size,
    fill_nonneg hm.Tc_nonneg (numTokens_nonneg (sub_nonneg.2 ht) p.CIR.2) (Int.natCast_nonneg _),
    fill_le_size⟩

/-- A packet is not longer than its octets. -/
theorem bitLength_le (packet : Arrival) : packet.bitLength ≤ 8 * packet.byteLength := by
  unfold Arrival.byteLength
  omega

theorem meterPacket_cases (packet : Arrival) {f : TwoRateThreeColorMeter}
    (hf : filled p m packet.time = f) :
    meterPacket p m packet = (f, .red) ∨
      0 ≤ f.Tp - 8 * packet.byteLength ∧
        (meterPacket p m packet = ({ f with Tp := f.Tp - 8 * packet.byteLength }, .yellow) ∨
          0 ≤ f.Tc - 8 * packet.byteLength ∧ meterPacket p m packet =
            ({ f with Tp := f.Tp - 8 * packet.byteLength
                      Tc := f.Tc - 8 * packet.byteLength }, .green)) := by
  subst hf
  simp only [meterPacket]
  split_ifs with hred hyellow
  · exact .inl rfl
  · exact .inr ⟨not_lt.1 (not_or.1 hred).2, .inl rfl⟩
  · exact .inr ⟨not_lt.1 (not_or.1 hred).2, .inr ⟨not_lt.1 (not_or.1 hyellow).2, rfl⟩⟩

theorem sound : (meter p).Sound (InRange p) where
  clock m packet := by
    obtain h | ⟨-, h | ⟨-, h⟩⟩ := meterPacket_cases p m packet rfl <;>
      simp [Meter.act, meter, h, filled]
  keeps m packet hm ht := by
    have hfilled := hm.filled ht
    have hTp := hfilled.Tp_le
    have hTc := hfilled.Tc_le
    obtain h | ⟨hle, h | ⟨hle', h⟩⟩ := meterPacket_cases p m packet rfl <;>
      simp only [Meter.act, meter, h]
    · exact hfilled
    · exact { hfilled with Tp_nonneg := hle, Tp_le := by dsimp only; omega }
    · exact ⟨hle, by dsimp only; omega, hle', by dsimp only; omega⟩

theorem bounds_green (now : ℚ) : (meter p).Bounds (initial p now) [.green] p.CBS p.CIR := by
  refine (sound p).bounds (initial_inRange p now) Tc (fun m hm => hm.Tc_nonneg) fun m packet _ _ =>
    ⟨(filled p m packet.time).Tc, ?_, fill_le_size, fill_le_add⟩
  have hle := bitLength_le packet
  obtain h | ⟨-, h | ⟨-, h⟩⟩ := meterPacket_cases p m packet rfl <;>
    simp [Meter.act, Meter.marked, meter, h]
  omega

theorem bounds_yellow (now : ℚ) :
    (meter p).Bounds (initial p now) [.green, .yellow] p.PBS p.PIR := by
  refine (sound p).bounds (initial_inRange p now) Tp (fun m hm => hm.Tp_nonneg) fun m packet _ _ =>
    ⟨(filled p m packet.time).Tp, ?_, fill_le_size, fill_le_add⟩
  have hle := bitLength_le packet
  obtain h | ⟨-, h | ⟨-, h⟩⟩ := meterPacket_cases p m packet rfl <;>
    simp [Meter.act, Meter.marked, meter, h]
  · omega
  · omega

end TwoRateThreeColorMeter

/-- Every run from the beginning keeps the bounds of the three meters. -/
theorem meters_conform (now : ℚ) (p : TokenBucketParameters) (q : SingleRateParameters)
    (r : TwoRateParameters) :
    ((TokenBucketMeter.meter p).Bounds (.initial p now) [.green] p.CBS p.CIR ∧
        (TokenBucketMeter.meter p).StaysIn (.initial p now) (TokenBucketMeter.InRange p)) ∧
      ((SingleRateThreeColorMeter.meter q).Bounds (.initial q now) [.green] q.CBS q.CIR ∧
        (SingleRateThreeColorMeter.meter q).Bounds (.initial q now) [.green, .yellow]
          (q.CBS + q.EBS) q.CIR ∧
        (SingleRateThreeColorMeter.meter q).StaysIn (.initial q now)
          (SingleRateThreeColorMeter.InRange q)) ∧
      (TwoRateThreeColorMeter.meter r).Bounds (.initial r now) [.green] r.CBS r.CIR ∧
        (TwoRateThreeColorMeter.meter r).Bounds (.initial r now) [.green, .yellow] r.PBS r.PIR ∧
        (TwoRateThreeColorMeter.meter r).StaysIn (.initial r now)
          (TwoRateThreeColorMeter.InRange r) :=
  ⟨⟨TokenBucketMeter.bounds_green p now,
      (TokenBucketMeter.sound p).staysIn ⟨Int.natCast_nonneg _, le_rfl⟩⟩,
    ⟨SingleRateThreeColorMeter.bounds_green q now, SingleRateThreeColorMeter.bounds_yellow q now,
      (SingleRateThreeColorMeter.sound q).staysIn
        (SingleRateThreeColorMeter.initial_inRange q now)⟩,
    TwoRateThreeColorMeter.bounds_green r now, TwoRateThreeColorMeter.bounds_yellow r now,
      (TwoRateThreeColorMeter.sound r).staysIn (TwoRateThreeColorMeter.initial_inRange r now)⟩

/-- A bucket of 8 bits that gets one bit in a second. -/
def sampleParameters : TokenBucketParameters := ⟨1, 8, false⟩

/-- Two packets that reach the bound. -/
theorem meters_conform_sample :
    (TokenBucketMeter.meter sampleParameters).bitsMarked [.green] 0 8
        (.initial sampleParameters 0) [⟨0, 8, none⟩, ⟨8, 8, none⟩] = 16 ∧
      (TokenBucketMeter.meter sampleParameters).bitsMarked [.green] 0 8
        (.initial sampleParameters 0) [⟨0, 8, none⟩, ⟨8, 8, none⟩] ≤
          (8 : ℕ) + (1 : ℚ≥0) * (8 - 0) := by
  have hpackets : (TokenBucketMeter.meter sampleParameters).InOrder (.initial sampleParameters 0)
      [⟨0, 8, none⟩, ⟨8, 8, none⟩] := ⟨by decide +kernel, by decide +kernel, trivial⟩
  exact ⟨by decide +kernel, (meters_conform 0 sampleParameters ⟨1, 8, 8, false⟩
    ⟨1, 8, 1, 8, false⟩).1.1 _ hpackets 0 8 (by norm_num)⟩

end Diffserv

end Hiwis
