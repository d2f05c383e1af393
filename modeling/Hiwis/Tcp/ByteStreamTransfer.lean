import Hiwis.Tcp.ByteStreamSendQueue

/-!
# Byte streams from end to end

The queues of a sender and of a receiver, with a network that loses, repeats and reorders segments.

* `StreamTransfer.bytes_prefix` : the bytes handed up are the first ones that were written.
-/

namespace Hiwis

open List Relation
open Receiver (Fits)

/-- The two queues and what is on the wire. -/
structure StreamTransfer where
  sender : ByteStreamSender
  /-- The segments, each with the number in the stream of its first byte. -/
  wire : List (ℕ × TCPSegment)
  receiver : Receiver

namespace StreamTransfer

def init (startSeq : SeqNo) : StreamTransfer :=
  ⟨⟨.init startSeq, { startSeq }⟩, [], .init startSeq⟩

/-- What may happen to a stream that starts at position `p₀`. -/
inductive Step (p₀ : ℤ) (t : StreamTransfer) : StreamTransfer → Prop
  | send {k : SendCall} {s : ByteStreamSender} : (∀ startSeq, k ≠ .init startSeq) →
      t.sender.HasRoom k → t.sender.call k = .ok s → Step p₀ t { t with sender := s }
  | createSegmentWithBytes {m n : ℕ} {seg : TCPSegment} :
      0 < n → t.sender.stream.discarded ≤ m → m + n ≤ t.sender.stream.bytes.length →
      t.sender.queue.createSegmentWithBytes (t.sender.stream.seqNo m) n = .ok seg →
      Step p₀ t { t with wire := (m, seg) :: t.wire }
  /-- A segment is cut to the receive window. -/
  | truncateData {x : ℕ × TCPSegment} {l r : ℕ} {seg : TCPSegment} :
      x ∈ t.wire → l + r < x.2.payloadLength → x.2.truncateData l r = .ok seg →
      Step p₀ t { t with wire := (x.1 + l, seg) :: t.wire }
  /-- A segment arrives within half of the sequence space of `rcv_nxt`. -/
  | insertBytesFromSegment {m : ℕ} {seg : TCPSegment} {r : Receiver} :
      (m, seg) ∈ t.wire → t.receiver.rcvNxtOffset p₀ ≤ m + 2 ^ 31 →
      m + seg.payloadLength ≤ t.receiver.rcvNxtOffset p₀ + 2 ^ 31 →
      Fits t.receiver (.insertBytesFromSegment seg) →
      t.receiver.call (.insertBytesFromSegment seg) = .ok r → Step p₀ t { t with receiver := r }
  | extractBytesUpTo (seq : SeqNo) {r : Receiver} : Fits t.receiver (.extractBytesUpTo seq) →
      t.receiver.call (.extractBytesUpTo seq) = .ok r → Step p₀ t { t with receiver := r }

/-- A segment with the bytes of a stream from number `x.1` on. -/
structure Carried (σ : ℕ → UInt8) (p₀ : ℤ) (x : ℕ × TCPSegment) : Prop where
  sequenceNo : x.2.sequenceNo = pos (p₀ + x.1)
  nonempty : 0 < x.2.payloadLength
  lt : x.2.payloadLength < 2 ^ 31
  byteArray : x.2.byteArray = octets σ x.1 (x.1 + x.2.payloadLength)

/-- The invariant, for every stream that the bytes written so far are the beginning of. -/
structure Inv (p₀ : ℤ) (t : StreamTransfer) : Prop where
  sender : t.sender.Inv
  room : t.sender.buffered < 2 ^ 31
  start : t.sender.stream.startSeq = pos p₀
  streams : ∀ σ, t.sender.stream.bytes = octets σ 0 t.sender.stream.bytes.length →
    t.receiver.Inv σ p₀ ∧ ∀ x ∈ t.wire, Carried σ p₀ x

variable {p₀ : ℤ} {t t' : StreamTransfer} {l r : ℕ} {seg : TCPSegment}

theorem Carried.truncateData {σ : ℕ → UInt8} {x : ℕ × TCPSegment} (h : Carried σ p₀ x)
    (hlt : l + r < x.2.payloadLength) (hseg : x.2.truncateData l r = .ok seg) :
    Carried σ p₀ (x.1 + l, seg) := by
  have hlen := h.lt
  have hmod : (l + r) % 2 ^ 32 = l + r := Nat.mod_eq_of_lt (by omega)
  have hcut : x.2.byteArray.truncateData l r =
      .ok (octets σ (x.1 + l) (x.1 + l + (x.2.payloadLength - (l + r)))) := by
    rw [ByteData.truncateData, h.byteArray, length_octets, Nat.add_sub_cancel_left,
      if_pos hlt.le, ← take_octets σ (m := x.1 + l) (n := x.1 + x.2.payloadLength) (by omega)
      (by omega), ← drop_octets σ (m := x.1) (k := x.1 + l) (by omega) (by omega)]
    simp only [Nat.add_sub_cancel_left]
  have hne : x.2.byteArray.length ≠ 0 := by
    rw [h.byteArray, length_octets]
    omega
  rw [TCPSegment.truncateData, hmod, if_neg (not_not.2 hlt.le), if_pos hne, hcut] at hseg
  cases hseg
  refine ⟨?_, Nat.sub_pos_of_lt hlt, (Nat.sub_le ..).trans_lt h.lt, rfl⟩
  simp [h.sequenceNo, Serial.wrap_add_ofNat, add_assoc]

theorem Inv.step (h : Inv p₀ t) (hs : Step p₀ t t') : Inv p₀ t' := by
  cases hs with
  | @send k s hinit hroom hk =>
    obtain ⟨B, hB, hstart⟩ : ∃ B, s.stream.bytes = t.sender.stream.bytes ++ B ∧
        s.stream.startSeq = t.sender.stream.startSeq := by
      cases k with
      | init startSeq => exact absurd rfl (hinit startSeq)
      | enqueueAppData msg =>
        obtain ⟨q, -, hk⟩ := Except.bind_eq_ok.1 hk
        cases hk
        exact ⟨_, rfl, rfl⟩
      | discardUpTo seqNum =>
        obtain ⟨q, -, hk⟩ := Except.bind_eq_ok.1 hk
        cases hk
        exact ⟨[], (append_nil _).symm, rfl⟩
    refine ⟨h.sender.call hk, (h.sender.buffered_call hk h.room).2 hroom, hstart.trans h.start,
      fun σ hσ => h.streams σ ?_⟩
    dsimp only at hσ
    rw [hB, length_append, ← octets_append σ (Nat.zero_le _) (Nat.le_add_right ..)] at hσ
    exact (append_inj hσ (by simp)).1
  | @createSegmentWithBytes m n seg hn hm hmn hseg =>
    rw [h.sender.createSegmentWithBytes h.room hm hmn] at hseg
    cases hseg
    have hroom : _ - _ < 2 ^ 31 := h.room
    refine ⟨h.sender, h.room, h.start, fun σ hσ => ⟨(h.streams σ hσ).1, forall_mem_cons.2
      ⟨⟨?_, hn, show n < 2 ^ 31 by omega, ?_⟩, (h.streams σ hσ).2⟩⟩⟩
    · rw [WrittenStream.seqNo, h.start, Serial.wrap_add_ofNat]
    · have hdrop := drop_octets σ (Nat.zero_le m) (Nat.le_of_add_right_le hmn)
      have htake := take_octets σ (Nat.le_add_right m n) hmn
      rw [← hσ, Nat.sub_zero] at hdrop
      rwa [← hdrop, Nat.add_sub_cancel_left] at htake
  | truncateData hx hlt hseg =>
    exact ⟨h.sender, h.room, h.start, fun σ hσ => ⟨(h.streams σ hσ).1, forall_mem_cons.2
      ⟨((h.streams σ hσ).2 _ hx).truncateData hlt hseg, (h.streams σ hσ).2⟩⟩⟩
  | insertBytesFromSegment hm hleft hright hfits hr =>
    refine ⟨h.sender, h.room, h.start, fun σ hσ => ⟨?_, (h.streams σ hσ).2⟩⟩
    have hc := (h.streams σ hσ).2 _ hm
    exact (h.streams σ hσ).1.insert
      ⟨_, hc.sequenceNo, hc.nonempty, hc.byteArray, hleft, hright⟩ hfits hr
  | extractBytesUpTo _ hfits hr =>
    exact ⟨h.sender, h.room, h.start, fun σ hσ =>
      ⟨(h.streams σ hσ).1.extract hfits hr, (h.streams σ hσ).2⟩⟩

theorem octets_getD (B : ByteData) (d : UInt8) : B = octets (fun k => B.getD k d) 0 B.length := by
  refine ext_getElem (by simp) fun k hk _ => ?_
  simp [octets, hk]

/-- What has been handed up does not depend on what is written later. -/
theorem Inv.isPrefix (h : Inv p₀ t) : t.receiver.bytes <+: t.sender.stream.bytes := by
  set B := t.sender.stream.bytes
  have hbytes (d) := (h.streams _ (octets_getD B d)).1.bytes_eq
  have hle : t.receiver.handedUp ≤ B.length := by
    by_contra hlt
    have := congrArg (·[B.length]?) ((hbytes 0).symm.trans (hbytes 1))
    simp [octets, not_le.1 hlt] at this
  rw [hbytes 0, ← take_octets _ (Nat.zero_le _) hle, ← octets_getD]
  exact take_prefix _ _

end StreamTransfer

end Hiwis
