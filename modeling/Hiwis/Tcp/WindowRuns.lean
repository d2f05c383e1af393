import Hiwis.Tcp.AdvertisedWindow

/-!
# The advertised window in a run

The receive window through the steps of `process_RCV_SEGMENT`, and in the runs of a connection.  A
text or a FIN beyond `rcv_adv` leads it astray (`KeepsWindow`).

* `Windowed.processText`, `Windowed.finish` : the seventh and the eighth step;
* `Settled.step` : every step;
* `keepsAdvertising_of_run` : the runs of the three receive queues.
-/

namespace Hiwis

open List TCPReceiveQueue Serial Trace TCPSegment

open TCP OutOfOrder

namespace TCPReceiver

variable {κ μ ρ : Type}

section Segments

variable [Region ρ] [TCPReceiveQueue κ μ ρ] {Q : ReceiveQueueSpec κ} {c c' : TCPReceiver κ μ}
  {r a H nxt : ℤ} {C : Set ℤ}

/-! ### The ACK field -/

section Acknowledgments

variable {tcpseg : TCPSegment} {rs : Responses} {event : TCPEventCode}

theorem afterAck_event (h : c.afterAck tcpseg = .ok (.goOn event, c')) (hfsm : c.fsm = .synRcvd) :
    event = .rcvAck := by
  have hnot : ¬ (c.fsm = .lastAck ∧ c.sendFin ∧ tcpseg.ackNo = c.sndFinSeq + 1) := by
    rw [hfsm]
    exact fun hcon => by cases hcon.1
  have htime : ¬ c.fsm = .timeWait := by
    rw [hfsm]
    decide
  rw [afterAck, if_neg hnot, if_neg htime, if_pos (.inl hfsm)] at h
  obtain ⟨hflow, -⟩ := Prod.mk.inj (Except.ok.inj h)
  exact (Flow.goOn.inj hflow).symm

/-- The acknowledgment of our SYN. -/
theorem processAck_event (h : c.processAck tcpseg rs = .ok (.goOn event, c'))
    (hfsm : c.fsm = .synRcvd) : event = .rcvAck := by
  rw [processAck, if_pos hfsm] at h
  split_ifs at h
  · obtain ⟨c1, h1, h⟩ := Except.bind_eq_ok.1 h
    obtain ⟨⟨ok, c2⟩, h2, h⟩ := Except.bind_eq_ok.1 h
    have hfsm2 : c2.fsm = .synRcvd :=
      ((Frame.processAckInEstabEtc h2).fsm.trans (Frame.acts h1).fsm).trans hfsm
    cases ok with
    | true => exact afterAck_event h hfsm2
    | false => cases h
  · cases h

end Acknowledgments

/-! ### The segment text -/

/-- The state and the variables of a stored FIN are the same. -/
structure SameFin (c c' : TCPReceiver κ μ) : Prop where
  fsm : c'.fsm = c.fsm
  finRcvd : c'.finRcvd = c.finRcvd
  rcvFinSeq : c'.rcvFinSeq = c.rcvFinSeq

theorem SameFin.trans {c'' : TCPReceiver κ μ} (h : SameFin c c') (h' : SameFin c' c'') :
    SameFin c c'' where
  fsm := h'.fsm.trans h.fsm
  finRcvd := h'.finRcvd.trans h.finRcvd
  rcvFinSeq := h'.rcvFinSeq.trans h.rcvFinSeq

theorem Frame.sameFin (h : Frame c c') : SameFin c c' := ⟨h.fsm, h.finRcvd, h.rcvFinSeq⟩

/-- Octets below `rcv_nxt` are handed up. -/
theorem Windowed.read (h : Windowed Q c r a H nxt C) {H' : ℤ} {q : κ} (hH : H ≤ H')
    (hq : Q.Holds q H' nxt (C \ Set.Ico H H')) :
    Windowed Q { c with receiveQueue := q } r a H' nxt (C \ Set.Ico H H') where
  rcvNxt := h.rcvNxt
  rcvAdv := h.rcvAdv
  queue := hq
  le := h.le
  lt := h.lt
  unread := by
    have := h.unread
    omega
  edge := by
    have := h.edge
    dsimp only
    omega
  rcvWnd_le := h.rcvWnd_le
  rcvWnd_lt := h.rcvWnd_lt
  reading := fun hlt => h.reading (by omega)
  text := fun heq => ⟨(h.text heq).1, Set.sdiff_subset.trans (h.text heq).2⟩
  scale := h.scale
  wsEnabled := h.wsEnabled

/-- The loop ends when everything up to `rcv_nxt` has been handed up. -/
theorem Windowed.deliver {rounds : ℕ} (h : Windowed Q c r a H nxt C) (hr : r = nxt) :
    Returns (fun c' => SameFin c c' ∧ ∃ C', Windowed Q c' r a nxt nxt C')
      (TCPReceiver.deliver rounds c) := by
  induction rounds generalizing c H C with
  | zero => exact fun hcon => by cases hcon
  | succ rounds ih =>
    rw [TCPReceiver.deliver]
    have hextract : Returns (fun p : Option μ × κ => ∃ H', H ≤ H' ∧ (p.1 = none → H' = nxt) ∧
        Q.Holds p.2 H' nxt (C \ Set.Ico H H'))
        (ask (extractBytesUpTo c.receiveQueue c.rcvNxt)) := by
      refine Except.Ensures.mapError ?_ fun e hcon => by cases hcon
      rintro ⟨msg, q⟩ hq
      rw [h.rcvNxt, hr] at hq
      obtain ⟨H', hH, -, hnone, hq'⟩ := Q.extract h.queue hq
      exact ⟨H', hH, hnone, hq'⟩
    refine hextract.bind ?_
    rintro ⟨msg, q⟩ ⟨H', hH, hnone, hq⟩
    cases msg with
    | none =>
      obtain rfl := hnone rfl
      exact ⟨⟨rfl, rfl, rfl⟩, _, h.read hH hq⟩
    | some msg =>
      have hread : Windowed Q { c with receiveQueue := q, toApp := c.toApp ++ [msg] } r a H' nxt
          (C \ Set.Ico H H') := { h.read hH hq with }
      exact (ih hread).mono fun c' hc' => ⟨{ hc'.1 with }, hc'.2⟩

/-- The text of a segment is stored, up to the edge. -/
theorem Windowed.insertText (h : Windowed Q c r a nxt nxt C) (hr : r = nxt) {tcpseg : TCPSegment}
    {s : ℤ} (hseq : tcpseg.sequenceNo = pos s) (hpay : tcpseg.PayloadsInside)
    (hpos : 0 < tcpseg.payloadLength) (hrs : r ≤ s) (hsa : s + tcpseg.payloadLength ≤ a) :
    Returns (fun c' => SameFin c c' ∧ c'.rcvWnd = c.rcvWnd ∧ ∃ nxt' C', nxt ≤ nxt' ∧ nxt' ≤ a ∧
      Windowed Q c' nxt' a nxt nxt' C') (c.insertText tcpseg) := by
  have hlt := h.lt
  have hle := h.le
  have hinsert : Returns (fun p : SeqNo × κ => ∃ nxt', p.1 = pos nxt' ∧ nxt ≤ nxt' ∧
      Q.Holds p.2 nxt nxt' (C ∪ Set.Ico s (s + tcpseg.payloadLength)))
      (ask (insertBytesFromSegment c.receiveQueue tcpseg)) := by
    refine Except.Ensures.mapError ?_ fun e hcon => by cases hcon
    rintro ⟨x, q⟩ hq
    exact Q.insert h.queue hseq hpay hpos (by omega) (by omega) hq
  refine hinsert.bind ?_
  rintro ⟨x, q⟩ ⟨nxt', hx, hle', hq⟩
  dsimp only at hx hq
  have hC : C ∪ Set.Ico s (s + tcpseg.payloadLength) ⊆ Set.Iio a :=
    Set.union_subset (h.text (by rw [hr])).2 fun x hx => hx.2.trans_le hsa
  -- what `rcv_nxt` goes over is stored
  have hnxt : nxt' ≤ a := by
    rcases hle'.eq_or_lt with heq | hlt'
    · omega
    · have hmem := hC ((Q.rcvInv hq).full (show nxt' - 1 ∈ Set.Ico nxt nxt' from
        ⟨by omega, by omega⟩))
      simp only [Set.mem_Iio] at hmem
      omega
  have hedge := h.edge
  exact ⟨⟨rfl, rfl, rfl⟩, rfl, nxt', _, hle', hnxt,
    { rcvNxt := hx
      rcvAdv := h.rcvAdv
      queue := hq
      le := hnxt
      lt := by omega
      unread := by omega
      edge := by dsimp only; omega
      rcvWnd_le := h.rcvWnd_le
      rcvWnd_lt := h.rcvWnd_lt
      reading := fun _ => rfl
      text := fun _ => ⟨rfl, hC⟩
      scale := h.scale
      wsEnabled := h.wsEnabled }⟩

/-- A FIN below the edge is passed. -/
theorem Windowed.passFin (h : Windowed Q c r a nxt nxt C) (hlt : r < a)
    (hne : pos (r + 1) ≠ pos nxt) :
    Windowed Q { c with ackNow := true, rcvNxt := c.rcvNxt + 1 } (r + 1) a nxt nxt C where
  rcvNxt := by
    dsimp only
    rw [h.rcvNxt]
    exact wrap_add_ofNat r 1
  rcvAdv := h.rcvAdv
  queue := h.queue
  le := hlt
  lt := by
    have := h.lt
    omega
  unread := h.unread
  edge := by
    have := h.edge
    dsimp only
    omega
  rcvWnd_le := h.rcvWnd_le
  rcvWnd_lt := h.rcvWnd_lt
  reading := fun hcon => absurd hcon (lt_irrefl _)
  text := fun heq => absurd heq hne
  scale := h.scale
  wsEnabled := h.wsEnabled

section Text

variable {tcpseg cut : TCPSegment} {rs : Responses} {event : TCPEventCode} {rounds : ℕ}

theorem finEvent_of_synRcvd (hfsm : c.fsm = .synRcvd) : c.finEvent = .rcvFin := by
  rw [finEvent, if_neg]
  rw [hfsm]
  exact fun hcon => by cases hcon.1

/-- A stored FIN below the edge `b` is passed when it is reached. -/
theorem Windowed.passStoredFin (h : Windowed Q c r a nxt nxt C) (event : TCPEventCode)
    (hr : r = nxt) {b : ℤ}
    (hb : b ≤ a) (hrb : r < b + 2 ^ 30) (hbr : b < r + 2 ^ 30)
    (hfin : c.finRcvd → seqLess c.rcvFinSeq (pos b)) :
    (c.passStoredFin event).2.fsm = c.fsm ∧
      (c.fsm = .synRcvd → (c.passStoredFin event).1 ∈ [event, .rcvFin]) ∧
      ∃ r', r' ≤ nxt + 1 ∧ (r' = r ∨ r' ≤ b) ∧ r ≤ r' ∧
        Windowed Q (c.passStoredFin event).2 r' a nxt nxt C := by
  rw [TCPReceiver.passStoredFin]
  by_cases hreach : c.finRcvd ∧ c.rcvNxt = c.rcvFinSeq
  · rw [if_pos hreach]
    have hlt : r < b := by
      have hless := hfin hreach.1
      rw [← hreach.2, h.rcvNxt, seqLess_pos (by omega) (by omega)] at hless
      exact of_decide_eq_true hless
    have hpass := h.passFin (hlt.trans_le hb) (by rw [hr, Ne, pos_inj (by omega) (by omega)]; omega)
    rw [hreach.2] at hpass
    refine ⟨rfl, fun hfsm => ?_, r + 1, by omega, .inr hlt, by omega, hpass⟩
    rw [finEvent_of_synRcvd hfsm]
    simp
  · rw [if_neg hreach]
    exact ⟨rfl, fun _ => by simp, r, by omega, .inl rfl, le_rfl, h⟩

/-- The seventh step after the insertion of a text.  `b` is the edge at the begin of the step. -/
theorem Windowed.afterText (h : Windowed Q c nxt a H nxt C) {b : ℤ} {old : ℕ} (hb : b ≤ a)
    (hHb : H ≤ b) (hbH : b < H + 2 ^ 30) (hfin : c.finRcvd → seqLess c.rcvFinSeq (pos b)) :
    Returns (fun p => p.2.fsm = c.fsm ∧ (c.fsm = .synRcvd → p.1 ∈ [event, .rcvFin]) ∧
      ∃ r' a' C', nxt ≤ r' ∧ r' ≤ nxt + 1 ∧ r' < H + 2 ^ 30 ∧ a ≤ a' ∧
        Windowed Q p.2 r' a' nxt nxt C') (c.afterText cut event (pos H) old rs rounds) := by
  have hle := h.rcvInv.le
  have hunread := h.unread
  rw [TCPReceiver.afterText]
  by_cases hsame : pos H = c.rcvNxt
  · -- out of order: nothing has become contiguous
    rw [if_pos hsame]
    rw [h.rcvNxt, pos_inj (by omega) (by omega)] at hsame
    subst hsame
    have hreport := (minor_reportOutOfOrder c cut old).toSameWindow
    have hacts := ((Sending.of_windowed (h.congr hreport False.elim)).acts
      rs.receivedOutOfOrderSegment).and_of_eq_ok fun _ heq => (Frame.acts heq).fsm
    refine hacts.bind ?_
    rintro c1 ⟨⟨a', hle', h', -⟩, hfsm⟩
    exact ⟨hfsm.trans hreport.fsm, fun _ => by simp, H, a', C, le_rfl, by omega, by omega, hle', h'⟩
  · rw [if_neg hsame]
    refine (h.deliver rfl).bind ?_
    rintro c1 ⟨hsameFin, C', h1⟩
    have hfin1 : c1.finRcvd → seqLess c1.rcvFinSeq (pos b) := by
      rw [hsameFin.finRcvd, hsameFin.rcvFinSeq]
      exact hfin
    obtain ⟨hfsm, hevent, r', hr', hbound, hle', h'⟩ :=
      h1.passStoredFin event rfl hb (by omega) (by omega) hfin1
    rw [hsameFin.fsm] at hfsm hevent
    exact ⟨hfsm, hevent, r', a, C', hle', hr', by omega, le_rfl, h'⟩

/-- The seventh step on a text of which nothing but what lies beyond the window reaches beyond the
edge.  `b` is the edge at the begin of the step. -/
theorem Windowed.processText (h : Windowed Q c r a nxt nxt C) (hr : r = nxt) {s b : ℤ}
    {oldSndUna : SeqNo} (hfsm : c.fsm ∈ textStates) (hpos : 0 < tcpseg.payloadLength)
    (hseq : tcpseg.sequenceNo = pos s) (hs : r - 2 ^ 30 < s) (hs' : s < r + 2 ^ 30)
    (hlen : tcpseg.payloadLength < 2 ^ 30) (hpay : tcpseg.PayloadsInside)
    (hedge : min (s + tcpseg.payloadLength) (r + c.rcvWnd) ≤ a) (hwnd : 0 < c.rcvWnd)
    (hb : b ≤ a) (hrb : r ≤ b) (hbr : b < r + 2 ^ 30)
    (hfin : c.finRcvd → seqLess c.rcvFinSeq (pos b)) :
    Returns (fun p => p.2.fsm = c.fsm ∧ ∃ r' a' nxt' C', r ≤ r' ∧ r' < r + 2 ^ 30 ∧ a ≤ a' ∧
      Windowed Q p.2 r' a' nxt' nxt' C' ∧ (p.1 = none → C' = C) ∧
      ∀ event' cut, p.1 = some (event', cut) → nxt' ≤ r' ∧ r' ≤ nxt' + 1 ∧
        (c.fsm = .synRcvd → event' ∈ [event, .rcvFin]) ∧ cut.finBit = tcpseg.finBit ∧
        ∃ e, cut.endSeq = pos e ∧ r ≤ e ∧ e < r + 2 ^ 30 ∧ e ≤ s + tcpseg.payloadLength)
      (c.processText tcpseg event oldSndUna rs rounds) := by
  have hwndlt := h.rcvWnd_lt
  have hlt := h.lt
  have hle := h.le
  rw [TCPReceiver.processText, if_pos ⟨hfsm, hpos⟩]
  have hwindow : c.rcvNxt + BitVec.ofNat 32 c.rcvWnd = pos (r + c.rcvWnd) := by
    rw [h.rcvNxt]
    exact wrap_add_ofNat r c.rcvWnd
  have htruncate : Returns (fun cut => cut.sequenceNo = pos (max s r) ∧
      max s r + cut.payloadLength = min (s + tcpseg.payloadLength) (r + c.rcvWnd) ∧
      0 < cut.payloadLength ∧ cut.finBit = tcpseg.finBit ∧ cut.PayloadsInside)
      (ask (tcpseg.truncateSegment c.rcvNxt (c.rcvNxt + BitVec.ofNat 32 c.rcvWnd))) := by
    refine Except.Ensures.mapError ?_ fun e hcon => by cases hcon
    intro cut hcut
    rw [hwindow, h.rcvNxt] at hcut
    obtain ⟨h1, h2, h3, h4, h5⟩ := truncateSegment_spec hpay hseq (by omega) (by omega)
      (by omega) (by omega) hcut
    have hin : s < r + c.rcvWnd ∧ r < s + tcpseg.payloadLength := by
      rw [truncateSegment_eq hseq hpos (by omega) (by omega) (by omega)] at hcut
      split_ifs at hcut with hin
      exact hin
    exact ⟨h1, h2, by omega, h4, h5⟩
  refine htruncate.bind ?_
  rintro cut ⟨hcutSeq, hcutEnd, hcutPos, hcutFin, hcutPay⟩
  have hnote : SameWindow False c (c.noteProbe tcpseg).updateRcvQueueVars :=
    { (minor_noteProbe c tcpseg).toSameWindow with }
  have h1 := h.congr hnote False.elim
  dsimp only
  by_cases hspace : (c.noteProbe tcpseg).updateRcvQueueVars.hasEnoughSpace cut = true
  · rw [if_pos hspace]
    refine (h1.insertText hr hcutSeq hcutPay hcutPos (by omega) (by omega)).bind ?_
    rintro c2 ⟨hfin2, hwnd2, nxt', C', hnxt, hnxta, h2⟩
    have hnotify : Returns (fun c3 => Sending Q nxt' a nxt nxt' C' c2.rcvWnd c3 ∧ SameFin c2 c3)
        (c2.notifyDataAck oldSndUna rs) :=
      (Sending.stable.notifyDataAck (Sending.of_windowed h2)).and_of_eq_ok fun _ heq =>
        (Frame.notifyDataAck heq).sameFin
    refine hnotify.bind ?_
    rintro c3 ⟨⟨a3, ha3, h3, -⟩, hfin3⟩
    have hsameFin : SameFin c c3 :=
      (SameFin.trans ⟨hnote.fsm, hnote.finRcvd, hnote.rcvFinSeq⟩ hfin2).trans hfin3
    have hfin' : c3.finRcvd → seqLess c3.rcvFinSeq (pos b) := by
      rw [hsameFin.finRcvd, hsameFin.rcvFinSeq]
      exact hfin
    rw [h.rcvNxt, hr]
    refine (h3.afterText (hb.trans ha3) (by omega) (by omega) hfin').bind ?_
    rintro ⟨event', c4⟩ ⟨hfsm4, hevent, r', a', C4, hr1, hr2, hr3, ha', h4⟩
    refine ⟨hfsm4.trans hsameFin.fsm, r', a', nxt', C4, by omega, by omega, by omega, h4, by simp,
      ?_⟩
    intro event1 cut1 heq
    cases heq
    rw [hsameFin.fsm] at hevent
    refine ⟨hr1, hr2, hevent, hcutFin, max s r + cut.payloadLength, ?_, by omega, by omega,
      by omega⟩
    rw [endSeq, hcutSeq]
    exact wrap_add_ofNat _ _
  · rw [if_neg hspace]
    exact ⟨hnote.fsm, r, a, nxt, C, le_rfl, by omega, le_rfl, h1, fun _ => rfl, by simp⟩

/-- The eighth step and what follows it, when a FIN that is reached lies below the edge. -/
theorem Windowed.finish (h : Windowed Q c r a nxt nxt C) {oldRcvNxt oldSndNxt : SeqNo} {B : ℤ}
    (hrB : r < B) (hfin : tcpseg.finBit → c.rcvNxt = tcpseg.endSeq →
      r < a ∧ r + 1 < B ∧ pos (r + 1) ≠ pos nxt) :
    Returns (fun p => p.2.fsm = c.fsm ∧ (c.fsm = .synRcvd → p.1 ∈ [event, .rcvFin, .close]) ∧
      ∃ r' a', r ≤ r' ∧ r' < B ∧ a ≤ a' ∧ Windowed Q p.2 r' a' nxt nxt C)
      (do
        let fin := c.processFin tcpseg event
        let c3 ← fin.2.seqChanged tcpseg oldRcvNxt rs
        .ok (c3.deferredClose oldSndNxt fin.1, c3)) := by
  have hprocess : (c.processFin tcpseg event).2.fsm = c.fsm ∧
      (c.fsm = .synRcvd → (c.processFin tcpseg event).1 ∈ [event, .rcvFin]) ∧
      ∃ r', r ≤ r' ∧ r' < B ∧ Windowed Q (c.processFin tcpseg event).2 r' a nxt nxt C := by
    rw [processFin]
    split_ifs with hbit hreach
    · obtain ⟨hlt, hB, hne⟩ := hfin hbit hreach
      refine ⟨rfl, fun hfsm => ?_, r + 1, by omega, hB, h.passFin hlt hne⟩
      rw [finEvent_of_synRcvd hfsm]
      simp
    · exact ⟨rfl, fun _ => by simp, r, le_rfl, hrB, { h with }⟩
    · exact ⟨rfl, fun _ => by simp, r, le_rfl, hrB, h⟩
  obtain ⟨hfsm, hevent, r', hle, hr'B, h'⟩ := hprocess
  have hchanged : Returns (fun c3 => Sending Q r' a nxt nxt C
      (c.processFin tcpseg event).2.rcvWnd c3 ∧ c3.fsm = (c.processFin tcpseg event).2.fsm)
      ((c.processFin tcpseg event).2.seqChanged tcpseg oldRcvNxt rs) :=
    (Sending.stable.seqChanged (Sending.of_windowed h')).and_of_eq_ok fun _ heq =>
      (Frame.seqChanged heq).fsm
  refine hchanged.bind ?_
  rintro c3 ⟨⟨a', ha', h3, -⟩, hfsm3⟩
  refine ⟨hfsm3.trans hfsm, fun hsyn => ?_, r', a', hle, hr'B, ha', h3⟩
  have hmem := hevent hsyn
  simp only [mem_cons, not_mem_nil, or_false] at hmem
  rw [deferredClose]
  split_ifs
  · simp
  · simp only [mem_cons, not_mem_nil, or_false]
    tauto

end Text

/-! ### Segments -/

section Acceptable

variable {tcpseg : TCPSegment} {rs : Responses} {rounds : ℕ}

/-- The text of an acceptable segment does not reach beyond the edge of the window, no FIN has been
passed, and none is stored at the edge or beyond it. -/
structure TextKeeps (c : TCPReceiver κ μ) (tcpseg : TCPSegment) : Prop where
  inOrder : c.rcvNxt = c.regions.rcvNxt
  edge : seqLE tcpseg.endSeq c.rcvAdv ∨ seqLE (c.rcvNxt + BitVec.ofNat 32 c.rcvWnd) c.rcvAdv
  storedFin : c.finRcvd → seqLess c.rcvFinSeq c.rcvAdv

/-- The FIN of an acceptable segment lies below the edge of the window; and `rcv_nxt` has not gone
all the way around since the last text. -/
structure FinKeeps (c : TCPReceiver κ μ) (tcpseg : TCPSegment) : Prop where
  edge : seqLess tcpseg.endSeq c.rcvAdv
  around : c.rcvNxt + 1 ≠ c.regions.rcvNxt

/-- What `processSegment1stThru8th` leaves behind. -/
def Processed (Q : ReceiveQueueSpec κ) (c : TCPReceiver κ μ) (a : ℤ) (C : Set ℤ)
    (p : TCPEventCode × TCPReceiver κ μ) : Prop :=
  p.2.fsm = c.fsm ∧ ∃ r' a' nxt' C', a ≤ a' ∧ a' - a < 2 ^ 31 ∧
    Windowed Q p.2 r' a' nxt' nxt' C' ∧
    (C' = C ∨ (c.fsm = .synRcvd → p.1 ∈ [.rcvAck, .rcvFin, .close]))

/-- Where the text of an acceptable segment begins. -/
theorem Windowed.exists_begin (h : Windowed Q c r a H nxt C)
    (hacc : c.isSegmentAcceptable tcpseg = true) (hpos : 0 < tcpseg.payloadLength)
    (hlen : tcpseg.payloadLength < 2 ^ 30) :
    0 < c.rcvWnd ∧ ∃ s, tcpseg.sequenceNo = pos s ∧ r - 2 ^ 30 < s ∧ s < r + 2 ^ 30 := by
  have hwndlt := h.rcvWnd_lt
  have hwindow : c.rcvNxt + BitVec.ofNat 32 c.rcvWnd = pos (r + c.rcvWnd) := by
    rw [h.rcvNxt]
    exact wrap_add_ofNat r c.rcvWnd
  rw [isSegmentAcceptable, if_neg hpos.ne', hwindow, h.rcvNxt] at hacc
  split_ifs at hacc with hzero
  refine ⟨Nat.pos_of_ne_zero hzero, ?_⟩
  rw [Bool.or_eq_true, Bool.and_eq_true, Bool.and_eq_true] at hacc
  rcases hacc with ⟨hge, hless⟩ | ⟨hless, hle⟩
  · -- it begins in the window
    obtain ⟨s, hs, hrs, hsr⟩ := exists_pos_of_seqGE hge
    rw [← hs, seqLess_pos (by omega) (by omega)] at hless
    have hlt := of_decide_eq_true hless
    exact ⟨s, hs.symm, by omega, by omega⟩
  · -- it ends in the window
    obtain ⟨e, he, hre, her⟩ := exists_pos_of_seqGE (seqLE_of_seqLess hless)
    rw [← he, seqLE_pos (by omega) (by omega)] at hle
    have hle := of_decide_eq_true hle
    rw [← he, seqLess_pos (by omega) (by omega)] at hless
    have hlt := of_decide_eq_true hless
    refine ⟨e - tcpseg.payloadLength, ?_, by omega, by omega⟩
    have hsub : pos e - BitVec.ofNat 32 tcpseg.payloadLength = pos (e - tcpseg.payloadLength) :=
      wrap_sub_ofNat e tcpseg.payloadLength
    rw [← hsub, he, endSeq, BitVec.add_sub_cancel]

/-- From the fifth step on. -/
theorem Windowed.processAcceptable (h : Windowed Q c r a nxt nxt C)
    (hacc : c.isSegmentAcceptable tcpseg = true) (hlen : tcpseg.payloadLength < 2 ^ 30)
    (hpay : tcpseg.PayloadsInside)
    (htext : c.fsm ∈ textStates → 0 < tcpseg.payloadLength → c.TextKeeps tcpseg)
    (hfin : tcpseg.finBit → c.FinKeeps tcpseg) :
    Returns (Processed Q c a C) (c.processAcceptable tcpseg rs rounds) := by
  have hle := h.le
  have hlt := h.lt
  have hack : Returns (fun p : Flow × TCPReceiver κ μ => Sending Q r a nxt nxt C c.rcvWnd p.2 ∧
      (SameFin c p.2 ∧ p.2.maxRcvBuffer = c.maxRcvBuffer) ∧
      ∀ event, p.1 = .goOn event → c.fsm = .synRcvd → event = .rcvAck)
      (c.processAck tcpseg rs) := by
    refine (Sending.stable.processAck (Sending.of_windowed h)).and_of_eq_ok ?_
    rintro ⟨flow, c1⟩ heq
    refine ⟨⟨(Frame.processAck heq).sameFin, (Frame.processAck heq).maxRcvBuffer⟩, ?_⟩
    rintro event rfl hfsm
    exact processAck_event heq hfsm
  refine hack.bind ?_
  rintro ⟨flow, c1⟩ ⟨⟨a1, ha1, h1, hwnd1⟩, ⟨hsame, hmax⟩, hevent⟩
  dsimp only at h1 hwnd1 hmax
  have hlt1 := h1.lt
  cases flow with
  | finish event => exact ⟨hsame.fsm, r, a1, nxt, C, ha1, by omega, h1, .inl rfl⟩
  | goOn event =>
    by_cases hstate : c1.fsm ∈ textStates ∧ 0 < tcpseg.payloadLength
    · have hkeeps := htext (hsame.fsm ▸ hstate.1) hstate.2
      obtain ⟨hwnd, s, hseq, hs, hs'⟩ := h.exists_begin hacc hstate.2 hlen
      have hend : tcpseg.endSeq = pos (s + tcpseg.payloadLength) := by
        rw [endSeq, hseq]
        exact wrap_add_ofNat _ _
      have hr : r = nxt := by
        have hinOrder := hkeeps.inOrder
        rw [h.rcvNxt, h.rcvInv.rcvNxt] at hinOrder
        exact (h.text hinOrder).1
      have hedge : min (s + tcpseg.payloadLength) (r + c1.rcvWnd) ≤ a1 := by
        rcases hwnd1 with ⟨hsameWnd, rfl⟩ | ⟨hends, -⟩
        · have hwndlt := h.rcvWnd_lt
          have hcond := hkeeps.edge
          have hwindow : pos r + BitVec.ofNat 32 c.rcvWnd = pos (r + c.rcvWnd) :=
            wrap_add_ofNat r c.rcvWnd
          rw [hend, h.rcvAdv, h.rcvNxt, hwindow, seqLE_pos (by omega) (by omega),
            seqLE_pos (by omega) (by omega), decide_eq_true_eq, decide_eq_true_eq] at hcond
          omega
        · omega
      have hpos1 : 0 < c1.rcvWnd := by
        rcases hwnd1 with ⟨hsameWnd, -⟩ | ⟨-, hopen⟩
        · omega
        · have hbuf := h.rcvWnd_le
          exact hopen rfl hr (by omega)
      have hstored : c1.finRcvd → seqLess c1.rcvFinSeq (pos a) := by
        rw [hsame.finRcvd, hsame.rcvFinSeq, ← h.rcvAdv]
        exact hkeeps.storedFin
      refine (h1.processText hr hstate.1 hstate.2 hseq hs hs' hlen hpay hedge hpos1 ha1 hle
        (by omega) hstored).bind ?_
      rintro ⟨text, c2⟩ ⟨hfsm2, r', a', nxt', C', hr', hr'B, ha', h2, hnone, hsome⟩
      have hlt2 := h2.lt
      cases text with
      | none =>
        obtain rfl := hnone rfl
        exact ⟨hfsm2.trans hsame.fsm, r', a', nxt', C', by omega, by omega, h2, .inl rfl⟩
      | some text =>
        obtain ⟨event', cut⟩ := text
        obtain ⟨hn, hn', hevent', hcutFin, e, he, hre, her, hes⟩ := hsome event' cut rfl
        -- the FIN lies below the edge
        have hfin' : cut.finBit → c2.rcvNxt = cut.endSeq →
            r' < a' ∧ r' + 1 < r + 2 ^ 30 ∧ pos (r' + 1) ≠ pos nxt' := by
          intro hbit hreach
          rw [h2.rcvNxt, he, pos_inj (by omega) (by omega)] at hreach
          have hless := (hfin (hcutFin ▸ hbit)).edge
          rw [hend, h.rcvAdv, seqLess_pos (by omega) (by omega)] at hless
          have hlt' := of_decide_eq_true hless
          refine ⟨by omega, by omega, ?_⟩
          rw [Ne, pos_inj (by omega) (by omega)]
          omega
        refine (h2.finish hr'B hfin').mono ?_
        rintro ⟨event3, c3⟩ ⟨hfsm3, hevent3, r3, a3, hr3, hr3B, ha3, h3⟩
        have hlt3 := h3.lt
        refine ⟨(hfsm3.trans hfsm2).trans hsame.fsm, r3, a3, nxt', C', by omega, by omega, h3,
          .inr fun hsyn => ?_⟩
        obtain rfl := hevent event rfl hsyn
        have hmem' := hevent' (hsame.fsm.trans hsyn)
        have hmem3 := hevent3 (hfsm2.trans (hsame.fsm.trans hsyn))
        simp only [mem_cons, not_mem_nil, or_false] at hmem' hmem3 ⊢
        rcases hmem3 with hmem3 | hmem3 | hmem3
        · rcases hmem' with rfl | rfl
          · exact .inl hmem3
          · exact .inr (.inl hmem3)
        · exact .inr (.inl hmem3)
        · exact .inr (.inr hmem3)
    · have hskip : Returns (fun p => p = (some (event, tcpseg), c1))
          (c1.processText tcpseg event c.sndUna rs rounds) := by
        rw [TCPReceiver.processText, if_neg hstate]
        rfl
      refine hskip.bind ?_
      rintro _ rfl
      have hfin' : tcpseg.finBit → c1.rcvNxt = tcpseg.endSeq →
          r < a1 ∧ r + 1 < r + 2 ^ 30 ∧ pos (r + 1) ≠ pos nxt := by
        intro hbit hreach
        have hkeeps := hfin hbit
        have hless := hkeeps.edge
        rw [← hreach, h1.rcvNxt, h.rcvAdv, seqLess_pos (by omega) (by omega)] at hless
        have hlt' := of_decide_eq_true hless
        refine ⟨by omega, by omega, ?_⟩
        have haround := hkeeps.around
        rw [h.rcvNxt, h.rcvInv.rcvNxt] at haround
        have hsucc : pos r + 1 = pos (r + 1) := wrap_add_ofNat r 1
        rwa [hsucc] at haround
      refine (h1.finish (B := r + 2 ^ 30) (by omega) hfin').mono ?_
      rintro ⟨event3, c3⟩ ⟨hfsm3, -, r3, a3, hr3, hr3B, ha3, h3⟩
      have hlt3 := h3.lt
      exact ⟨hfsm3.trans hsame.fsm, r3, a3, nxt, C, by omega, by omega, h3, .inl rfl⟩

instance (c : TCPReceiver κ μ) (tcpseg : TCPSegment) : Decidable (c.TextKeeps tcpseg) :=
  decidable_of_iff (c.rcvNxt = c.regions.rcvNxt ∧
      (seqLE tcpseg.endSeq c.rcvAdv ∨ seqLE (c.rcvNxt + BitVec.ofNat 32 c.rcvWnd) c.rcvAdv) ∧
      (c.finRcvd → seqLess c.rcvFinSeq c.rcvAdv))
    ⟨fun ⟨h₁, h₂, h₃⟩ => ⟨h₁, h₂, h₃⟩, fun ⟨h₁, h₂, h₃⟩ => ⟨h₁, h₂, h₃⟩⟩

instance (c : TCPReceiver κ μ) (tcpseg : TCPSegment) : Decidable (c.FinKeeps tcpseg) :=
  decidable_of_iff (seqLess tcpseg.endSeq c.rcvAdv ∧ c.rcvNxt + 1 ≠ c.regions.rcvNxt)
    ⟨fun ⟨h₁, h₂⟩ => ⟨h₁, h₂⟩, fun ⟨h₁, h₂⟩ => ⟨h₁, h₂⟩⟩

/-- The segment comes to the fifth step. -/
structure Accepts (c : TCPReceiver κ μ) (tcpseg : TCPSegment) : Prop where
  fsm : c.fsm ∉ [TCPState.listen, .synSent]
  paws : (c.pawsRejects tcpseg).toOption = some false
  acceptable : c.isSegmentAcceptable tcpseg
  rstBit : tcpseg.rstBit = false
  synBit : tcpseg.synBit = false
  ackBit : tcpseg.ackBit

instance (c : TCPReceiver κ μ) (tcpseg : TCPSegment) : Decidable (c.Accepts tcpseg) :=
  decidable_of_iff (c.fsm ∉ [TCPState.listen, .synSent] ∧
      (c.pawsRejects tcpseg).toOption = some false ∧ c.isSegmentAcceptable tcpseg ∧
      tcpseg.rstBit = false ∧ tcpseg.synBit = false ∧ tcpseg.ackBit)
    ⟨fun ⟨h₁, h₂, h₃, h₄, h₅, h₆⟩ => ⟨h₁, h₂, h₃, h₄, h₅, h₆⟩,
      fun ⟨h₁, h₂, h₃, h₄, h₅, h₆⟩ => ⟨h₁, h₂, h₃, h₄, h₅, h₆⟩⟩

/-- The segment does not lead the receive window astray: it is well formed; when it negotiates
window scaling, the buffer is not too large for it; its text and its FIN lie below the edge. -/
structure KeepsWindow (c : TCPReceiver κ μ) (tcpseg : TCPSegment) : Prop where
  payloadLength : tcpseg.payloadLength < 2 ^ 30
  payloadsInside : tcpseg.PayloadsInside
  scale : c.Scales tcpseg → c.wsSupport → c.maxRcvBuffer < 2 ^ 30
  text : c.Accepts tcpseg → c.fsm ∈ textStates → 0 < tcpseg.payloadLength → c.TextKeeps tcpseg
  fin : c.Accepts tcpseg → tcpseg.finBit → c.FinKeeps tcpseg

instance (c : TCPReceiver κ μ) (tcpseg : TCPSegment) : Decidable (c.KeepsWindow tcpseg) :=
  decidable_of_iff (tcpseg.payloadLength < 2 ^ 30 ∧ tcpseg.PayloadsInside ∧
      (c.Scales tcpseg → c.wsSupport → c.maxRcvBuffer < 2 ^ 30) ∧
      (c.Accepts tcpseg → c.fsm ∈ textStates → 0 < tcpseg.payloadLength → c.TextKeeps tcpseg) ∧
      (c.Accepts tcpseg → tcpseg.finBit → c.FinKeeps tcpseg))
    ⟨fun ⟨h₁, h₂, h₃, h₄, h₅⟩ => ⟨h₁, h₂, h₃, h₄, h₅⟩,
      fun ⟨h₁, h₂, h₃, h₄, h₅⟩ => ⟨h₁, h₂, h₃, h₄, h₅⟩⟩

variable {scales : Prop}

theorem SameWindow.regions (hs : SameWindow scales c c') : c'.regions = c.regions := by
  rw [TCPReceiver.regions, TCPReceiver.regions, hs.receiveQueue]

theorem TextKeeps.congr (h : c.TextKeeps tcpseg) (hs : SameWindow scales c c') :
    c'.TextKeeps tcpseg where
  inOrder := by
    rw [hs.regions, hs.rcvNxt]
    exact h.inOrder
  edge := by
    rw [hs.rcvAdv, hs.rcvNxt, hs.rcvWnd]
    exact h.edge
  storedFin := by
    rw [hs.finRcvd, hs.rcvFinSeq, hs.rcvAdv]
    exact h.storedFin

theorem FinKeeps.congr (h : c.FinKeeps tcpseg) (hs : SameWindow scales c c') :
    c'.FinKeeps tcpseg where
  edge := by
    rw [hs.rcvAdv]
    exact h.edge
  around := by
    rw [hs.regions, hs.rcvNxt]
    exact h.around

theorem returns_pawsRejects (c : TCPReceiver κ μ) (tcpseg : TCPSegment) :
    Returns (fun rejected => (c.pawsRejects tcpseg).toOption = some rejected)
      (c.pawsRejects tcpseg) := by
  cases hpaws : c.pawsRejects tcpseg with
  | ok rejected => rfl
  | error fault =>
    intro hcon
    subst hcon
    rw [pawsRejects] at hpaws
    split_ifs at hpaws
    rw [getTSval] at hpaws
    split at hpaws
    · split at hpaws
      · cases hpaws
      · cases hpaws
    · cases hpaws

theorem Windowed.processSegment1stThru8th (h : Windowed Q c r a nxt nxt C)
    (hfsm : c.fsm ∉ [TCPState.listen, .synSent]) (hkeeps : c.KeepsWindow tcpseg) :
    Returns (Processed Q c a C) (c.processSegment1stThru8th tcpseg rs rounds) := by
  have hlt := h.lt
  refine (returns_pawsRejects c tcpseg).bind fun rejected hpaws => ?_
  refine (returns_readOptions c tcpseg).bind ?_
  rintro c1 ⟨hs, hacc⟩
  have h1 := h.congr hs hkeeps.scale
  have hsame : ∀ event, Processed Q c a C (event, c1) :=
    fun _ => ⟨hs.fsm, r, a, nxt, C, le_rfl, by omega, h1, .inl rfl⟩
  split_ifs with hreject hrst hsyn hnack
  · have hrejected := (Sending.stable.rejectSegment (Sending.of_windowed h1)
      tcpseg).and_of_eq_ok fun _ heq => (Frame.rejectSegment heq).2.fsm
    refine hrejected.mono ?_
    rintro ⟨event, c2⟩ ⟨⟨-, a2, ha2, h2, -⟩, hfsm2⟩
    have hlt2 := h2.lt
    have hle := h.le
    exact ⟨hfsm2.trans hs.fsm, r, a2, nxt, C, ha2, by omega, h2, .inl rfl⟩
  · rw [processRst]
    split_ifs
    · exact hsame _
    · exact fun hcon => by cases hcon
  · exact hsame _
  · exact hsame _
  · rw [Bool.or_eq_true, Bool.not_eq_true', not_or, Bool.not_eq_false] at hreject
    obtain ⟨hnot, hacc1⟩ := hreject
    rw [Bool.not_eq_true] at hnot
    have haccepts : c.Accepts tcpseg := by
      refine ⟨hfsm, hnot ▸ hpaws, hacc ▸ hacc1, by simpa using hrst, by simpa using hsyn, ?_⟩
      simpa using hnack
    have htext : c1.fsm ∈ textStates → 0 < tcpseg.payloadLength → c1.TextKeeps tcpseg := by
      intro hstate hpos
      exact (hkeeps.text haccepts (hs.fsm ▸ hstate) hpos).congr hs
    have hfin : tcpseg.finBit → c1.FinKeeps tcpseg := by
      intro hbit
      exact (hkeeps.fin haccepts hbit).congr hs
    refine (h1.processAcceptable hacc1 hkeeps.payloadLength hkeeps.payloadsInside htext
      hfin).mono ?_
    rintro p ⟨hfsm2, hp⟩
    rw [hs.fsm] at hfsm2 hp
    exact ⟨hfsm2, hp⟩

end Acceptable

/-! ### The first segments -/

section Syn

variable {tcpseg : TCPSegment} {rs : Responses} {rounds : ℕ} {p : ℤ} {w : ℕ}

/-- A SYN sets the window anew. -/
theorem Windowed.acceptSyn (h : Windowed Q c r a H nxt ∅) (hp : tcpseg.sequenceNo + 1 = pos p) :
    Windowed Q (c.acceptSyn tcpseg) p (p + c.rcvWnd) p p ∅ where
  rcvNxt := hp
  rcvAdv := by
    change tcpseg.sequenceNo + 1 + BitVec.ofNat 32 c.rcvWnd = _
    rw [hp]
    exact wrap_add_ofNat p c.rcvWnd
  queue := by
    change Q.Holds (init c.receiveQueue (tcpseg.sequenceNo + 1)) p p ∅
    rw [hp]
    exact Q.init h.queue p
  le := by omega
  lt := by
    have := h.rcvWnd_lt
    omega
  unread := by omega
  edge := by
    have := h.rcvWnd_le
    change p + c.rcvWnd ≤ p - (p - p) + c.maxRcvBuffer
    omega
  rcvWnd_le := h.rcvWnd_le
  rcvWnd_lt := h.rcvWnd_lt
  reading := fun hcon => absurd hcon (lt_irrefl _)
  text := fun _ => ⟨rfl, Set.empty_subset _⟩
  scale := h.scale
  wsEnabled := h.wsEnabled

/-- The text of a SYN starts at the SYN, below the first octet of the queue: there is no room. -/
theorem Sending.synText (h : Sending Q p a p p ∅ w c) (hp : tcpseg.sequenceNo + 1 = pos p) :
    Returns (fun x => SameWindow False c x.2) (c.synText tcpseg) := by
  have hvars : SameWindow False c c.updateRcvQueueVars := { SameWindow.refl c with }
  have hroom : c.updateRcvQueueVars.hasEnoughSpace tcpseg = false := by
    obtain ⟨a', -, h', -⟩ := h.congr hvars
    have hseq : tcpseg.sequenceNo = pos (p - 1) := by
      have hsub : pos p - 1 = pos (p - 1) := wrap_sub_ofNat p 1
      rw [← hsub, ← hp, BitVec.add_sub_cancel]
    rw [hasEnoughSpace, h'.rcvInv.getFirstSeqNo_eq (by omega), hseq,
      seqLE_pos (by omega) (by omega), decide_eq_false (by omega)]
    rfl
  rw [TCPReceiver.synText]
  by_cases hpos : 0 < tcpseg.payloadLength
  · rw [if_pos hpos, hroom]
    exact hvars
  · rw [if_neg hpos]
    exact SameWindow.refl c

/-- What the two SYN states leave behind: an empty queue. -/
def Opened (Q : ReceiveQueueSpec κ) (c : TCPReceiver κ μ) : Prop :=
  ∃ r a nxt, Windowed Q c r a nxt nxt ∅

theorem Sending.opened (h : Sending Q p a p p ∅ w c) : c.Opened Q := by
  obtain ⟨a', -, h', -⟩ := h
  exact ⟨p, a', p, h'⟩

theorem Opened.congr (h : c.Opened Q) (hs : SameWindow False c c') : c'.Opened Q := by
  obtain ⟨r, a, nxt, h⟩ := h
  exact ⟨r, a, nxt, h.congr hs False.elim⟩

theorem Sending.readOptions (h : Sending Q p a p p ∅ w c)
    (hscale : c.Scales tcpseg → c.wsSupport → c.maxRcvBuffer < 2 ^ 30) :
    Returns (Sending Q p a p p ∅ w) (c.readOptions tcpseg) := by
  obtain ⟨a', hle, h', hwnd⟩ := h
  refine (returns_readOptions c tcpseg).mono ?_
  rintro c1 ⟨hs, -⟩
  refine ⟨a', hle, h'.congr hs hscale, ?_⟩
  rw [hs.rcvWnd, hs.maxRcvBuffer]
  exact hwnd

theorem exists_pos (x : SeqNo) : ∃ p, x = pos p := ⟨x.toNat, (wrap_toNat x).symm⟩

variable (h : c.Opened Q) (hscale : c.Scales tcpseg → c.wsSupport → c.maxRcvBuffer < 2 ^ 30)
include h hscale

theorem Opened.processSegmentInListen :
    Returns (fun x => x.2.Opened Q) (c.processSegmentInListen tcpseg) := by
  obtain ⟨p, hp⟩ := exists_pos (tcpseg.sequenceNo + 1)
  rw [TCPReceiver.processSegmentInListen]
  split_ifs
  · exact h
  · exact h.congr { SameWindow.refl c with }
  · obtain ⟨r, a, nxt, h⟩ := h
    have hsyn : Windowed Q (c.acceptSyn tcpseg).selectInitialSeqNum p (p + c.rcvWnd) p p ∅ :=
      { h.acceptSyn hp with }
    refine ((Sending.of_windowed hsyn).readOptions hscale).bind fun c1 h1 => ?_
    have hack : Sending Q p (p + c.rcvWnd) p p ∅ c.rcvWnd { c1 with ackNow := true } :=
      h1.congr { SameWindow.refl c1 with }
    refine (Sending.stable.sendSynAck hack).bind fun c2 h2 => ?_
    refine (h2.synText hp).bind ?_
    rintro ⟨ok, c3⟩ hs3
    exact (h2.congr hs3).opened
  · exact h

theorem Opened.processSegmentInSynSent :
    Returns (fun x => x.2.Opened Q) (c.processSegmentInSynSent tcpseg rs) := by
  obtain ⟨p, hp⟩ := exists_pos (tcpseg.sequenceNo + 1)
  have hsyn : ∀ sndUna : SeqNo,
      Returns (fun x => x.2.Opened Q)
        ({ c.acceptSyn tcpseg with sndUna }.processSynInSynSent tcpseg rs) := by
    intro sndUna
    obtain ⟨r, a, nxt, h⟩ := h
    have hset : Windowed Q { c.acceptSyn tcpseg with sndUna } p (p + c.rcvWnd) p p ∅ :=
      { h.acceptSyn hp with }
    have hsend := Sending.of_windowed hset
    rw [processSynInSynSent]
    by_cases hacked : seqGreater sndUna (c.acceptSyn tcpseg).iss = true
    · rw [if_pos hacked]
      refine (hsend.synText hp).bind ?_
      rintro ⟨ok, c1⟩ hs1
      have h1 := hsend.congr hs1
      cases ok with
      | false => exact h1.opened
      | true =>
        have hscale1 : c1.Scales tcpseg → c1.wsSupport → c1.maxRcvBuffer < 2 ^ 30 := by
          rw [Scales, hs1.fsm, hs1.wsSupport, hs1.maxRcvBuffer]
          exact hscale
        refine (h1.readOptions hscale1).bind fun c2 h2 => ?_
        have hack : Sending Q p (p + c.rcvWnd) p p ∅ c.rcvWnd { c2 with ackNow := true } :=
          h2.congr { SameWindow.refl c2 with }
        exact (hack.acts _).bind fun c3 h3 => h3.opened
    · rw [if_neg hacked]
      have hiss : Sending Q p (p + c.rcvWnd) p p ∅ c.rcvWnd { c.acceptSyn tcpseg with
          sndUna, sndMax := c.iss, sndNxt := c.iss } := hsend.congr { SameWindow.refl _ with }
      refine (Sending.stable.sendSynAck hiss).bind fun c1 h1 => ?_
      refine (h1.synText hp).bind ?_
      rintro ⟨ok, c2⟩ hs2
      exact (h1.congr hs2).opened
  rw [TCPReceiver.processSegmentInSynSent]
  split_ifs
  · exact h
  · exact h.congr { SameWindow.refl c with }
  · exact h
  · exact h
  · exact hsyn _
  · exact hsyn (c.acceptSyn tcpseg).sndUna
  · exact h

end Syn

/-! ### Steps and runs -/

namespace Event

/-- The segment of the event does not lead the receive window astray. -/
def KeepsWindow (c : TCPReceiver κ μ) : Event → Prop
  | .segment simTime tcpseg _ _ => TCPReceiver.KeepsWindow { c with simTime } tcpseg
  | .actions .. => True

instance (c : TCPReceiver κ μ) (e : Event) : Decidable (e.KeepsWindow c) :=
  match e with
  | .segment simTime tcpseg _ _ =>
    inferInstanceAs (Decidable (TCPReceiver.KeepsWindow { c with simTime } tcpseg))
  | .actions .. => inferInstanceAs (Decidable True)

end Event

/-- What is known of a state between two steps. -/
def Settled (Q : ReceiveQueueSpec κ) (c : TCPReceiver κ μ) : Prop :=
  ∃ r a nxt C, Windowed Q c r a nxt nxt C ∧
    (c.fsm ∈ [TCPState.init, .listen, .synSent, .synRcvd] → C = ∅)

/-- No state that has an empty queue is reached from one that need not. -/
theorem mem_of_nextState_mem {active : Bool} {st : TCPState} {event : TCPEventCode}
    (h : TCPConnection.nextState active st event ∈ [TCPState.init, .listen, .synSent, .synRcvd]) :
    st ∈ [TCPState.init, .listen, .synSent, .synRcvd] := by
  revert h
  cases active <;> cases st <;> cases event <;> decide

/-- The handshake ends when the text of a segment has been stored. -/
theorem nextState_synRcvd_notMem (active : Bool) {event : TCPEventCode}
    (h : event ∈ [TCPEventCode.rcvAck, .rcvFin, .close]) :
    TCPConnection.nextState active .synRcvd event ∉
      [TCPState.init, .listen, .synSent, .synRcvd] := by
  simp only [mem_cons, not_mem_nil, or_false] at h
  rcases h with rfl | rfl | rfl
  all_goals
    cases active <;> decide

theorem Opened.settled (h : c.Opened Q) (event : TCPEventCode) :
    (c.performStateTransition event).Settled Q := by
  obtain ⟨r, a, nxt, h⟩ := h
  exact ⟨r, a, nxt, ∅, { h with }, fun _ => rfl⟩

theorem Settled.step {e : Event} (h : c.Settled Q) (hadm : Admits c e) (hkeeps : e.KeepsWindow c) :
    Returns (fun c' => c'.Settled Q ∧
      (c.fsm ∉ [TCPState.listen, .synSent] → seqLE c.rcvAdv c'.rcvAdv)) (c.step e) := by
  obtain ⟨r, a, nxt, C, h, hfresh⟩ := h
  have hle := h.le
  have hlt := h.lt
  cases e with
  | actions simTime as event =>
    have htime : Windowed Q { c with simTime } r a nxt nxt C := { h with }
    have hacts := ((Sending.of_windowed htime).acts as).and_of_eq_ok fun _ heq =>
      (Frame.acts heq).fsm
    refine hacts.bind ?_
    rintro c1 ⟨⟨a1, ha1, h1, -⟩, hfsm⟩
    have hlt1 := h1.lt
    refine ⟨⟨r, a1, nxt, C, { h1 with }, fun hmem => hfresh ?_⟩, fun _ => ?_⟩
    · have hmem' := mem_of_nextState_mem hmem
      rwa [hfsm] at hmem'
    · change seqLE c.rcvAdv c1.rcvAdv = true
      rw [h.rcvAdv, h1.rcvAdv, seqLE_pos (by omega) (by omega)]
      exact decide_eq_true ha1
  | segment simTime tcpseg rs rounds =>
    have htime : Windowed Q { c with simTime } r a nxt nxt C := { h with }
    have hinit : c.fsm ≠ .init := by
      rintro heq
      exact hadm.2 (by rw [heq]; decide)
    by_cases hwait : c.fsm ∈ [TCPState.listen, .synSent]
    · have hopened : Opened Q { c with simTime } := by
        have hmem : c.fsm ∈ [TCPState.init, .listen, .synSent, .synRcvd] := by
          simp only [mem_cons, not_mem_nil, or_false] at hwait ⊢
          tauto
        obtain rfl := hfresh hmem
        exact ⟨r, a, nxt, htime⟩
      have hprocess : Returns (fun x => x.2.Opened Q)
          ({ c with simTime }.processRcvSegment tcpseg rs rounds) := by
        rw [processRcvSegment]
        split_ifs with hlisten hsent
        · exact hopened.processSegmentInListen hkeeps.scale
        · exact hopened.processSegmentInSynSent hkeeps.scale
        · simp only [mem_cons, not_mem_nil, or_false] at hwait
          tauto
      refine hprocess.bind ?_
      rintro ⟨event, c1⟩ h1
      exact ⟨h1.settled event, fun hnot => absurd hwait hnot⟩
    · have hprocess : Returns (Processed Q { c with simTime } a C)
          ({ c with simTime }.processRcvSegment tcpseg rs rounds) := by
        have hnot := hwait
        simp only [mem_cons, not_mem_nil, or_false, not_or] at hnot
        rw [processRcvSegment, if_neg hnot.1, if_neg hnot.2]
        exact htime.processSegment1stThru8th hwait hkeeps
      refine hprocess.bind ?_
      rintro ⟨event, c1⟩ ⟨hfsm, r1, a1, nxt1, C1, ha1, hdist, h1, hC1⟩
      refine ⟨⟨r1, a1, nxt1, C1, { h1 with }, fun hmem => ?_⟩, fun _ => ?_⟩
      · have hmem' := mem_of_nextState_mem hmem
        change c1.fsm ∈ _ at hmem'
        rw [show c1.fsm = c.fsm from hfsm] at hmem'
        rcases hC1 with rfl | hleaves
        · exact hfresh hmem'
        · -- text has been stored: the connection has left SYN_RCVD
          have hsyn : c.fsm = .synRcvd := by
            simp only [mem_cons, not_mem_nil, or_false, not_or] at hmem' hwait
            tauto
          have hnot := nextState_synRcvd_notMem c1.active (hleaves hsyn)
          change TCPConnection.nextState c1.active c1.fsm event ∈ _ at hmem
          rw [show c1.fsm = c.fsm from hfsm, hsyn] at hmem
          exact absurd hmem hnot
      · change seqLE c.rcvAdv c1.rcvAdv = true
        rw [h.rcvAdv, h1.rcvAdv, seqLE_pos (by omega) (by omega)]
        exact decide_eq_true ha1

theorem Settled.new {par : Par} (hpar : par.Valid)
    (hsize : par.windowScalingSupport → 0 ≤ par.advertisedWindow ∧ par.advertisedWindow < 2 ^ 32)
    (x : SeqNo) : (TCPReceiver.new par (TCPReceiveQueue.new x) : TCPReceiver κ μ).Settled Q := by
  have hx : pos (x.toNat : ℤ) = x := wrap_toNat x
  have hxlt := x.isLt
  obtain ⟨w, hw⟩ : ∃ w, (TCPReceiver.new par (TCPReceiveQueue.new x) :
      TCPReceiver κ μ).rcvWnd = w := ⟨_, rfl⟩
  have hmax : w ≤ (par.advertisedWindow % 2 ^ 32).toNat ∧ w ≤ 65535 := by
    rw [← hw, TCPReceiver.new, tcpMaxWin]
    dsimp only
    have hbound := hpar.1
    rw [tcpMaxWin] at hbound
    split_ifs with hws
    · have := hsize hws.1
      omega
    · cases hsup : par.windowScalingSupport with
      | true =>
        have := hsize hsup
        simp only [hsup, true_and, not_lt] at hws
        omega
      | false =>
        simp only [hsup, Bool.false_eq_true, false_or] at hbound
        omega
  refine ⟨0, w, x.toNat, ∅, ?_, fun _ => rfl⟩
  exact
    { rcvNxt := rfl
      rcvAdv := by
        rw [← hw]
        exact wrap_ofNat _
      queue := by
        have hnew := Q.new (x.toNat : ℤ)
        rwa [hx] at hnew
      le := by omega
      lt := by omega
      unread := by omega
      edge := by
        change (w : ℤ) ≤ 0 - _ + ((par.advertisedWindow % 2 ^ 32).toNat : ℤ)
        omega
      rcvWnd_le := by
        rw [hw]
        exact hmax.1
      rcvWnd_lt := by
        rw [hw]
        omega
      reading := fun hcon => absurd hcon (lt_irrefl _)
      text := fun heq => ⟨(pos_inj (by omega) (by omega)).1 heq, Set.empty_subset _⟩
      scale := fun _ hcon => by cases hcon
      wsEnabled := fun hcon => by cases hcon }

/-- What is claimed of a state: the window fits, `updateRcvWnd` keeps it, and so does every step,
without a failed assertion. -/
structure KeepsAdvertising (c : TCPReceiver κ μ) : Prop where
  windowFits : c.WindowFits
  updateKeeps : c.UpdateKeeps
  step : ∀ e, Admits c e → e.KeepsWindow c → c.step e ≠ .error .scaledRcvWnd ∧
    ∀ c', c.step e = .ok c' → c'.WindowFits ∧
      (c.fsm ∉ [TCPState.listen, .synSent] → seqLE c.rcvAdv c'.rcvAdv)

theorem Settled.windowFits (h : c.Settled Q) : c.WindowFits := by
  obtain ⟨r, a, nxt, C, h, -⟩ := h
  exact h.windowFits

theorem Settled.keepsAdvertising (h : c.Settled Q) : c.KeepsAdvertising where
  windowFits := h.windowFits
  updateKeeps := by
    obtain ⟨r, a, nxt, C, h, -⟩ := h
    exact h.updateKeeps
  step := by
    intro e hadm hkeeps
    have hstep := h.step hadm hkeeps
    refine ⟨fun hcon => hstep.of_eq_error hcon rfl, fun c' hc' => ?_⟩
    obtain ⟨h', hle⟩ := hstep.of_eq_ok hc'
    exact ⟨h'.windowFits, hle⟩

/-- The runs of a connection whose receive queue meets its specification. -/
theorem Settled.run (Q : ReceiveQueueSpec κ) {par : Par} (hpar : par.Valid)
    (hsize : par.windowScalingSupport → 0 ≤ par.advertisedWindow ∧ par.advertisedWindow < 2 ^ 32)
    {x : SeqNo} {es : List Event}
    (hrun : Run TCPReceiver.step (fun c e => Admits c e ∧ e.KeepsWindow c)
      (TCPReceiver.new par (TCPReceiveQueue.new x) : TCPReceiver κ μ) es c) :
    c.KeepsAdvertising := by
  refine Settled.keepsAdvertising (Q := Q) ?_
  refine hrun.invariant ?_ (Settled.new hpar hsize x)
  intro c e c' hc hP hstep
  exact ((hc.step hP.1 hP.2).of_eq_ok hstep).1

end Segments

/-- In a run without segments that lead the window astray, whatever the receive queue: `rcv_nxt` is
not beyond `rcv_adv`, the window fits into the buffer behind the first unread octet and its scaled
value into the header, and the edge does not move backwards. -/
theorem keepsAdvertising_of_run {par : Par} (hpar : par.Valid)
    (hsize : par.windowScalingSupport → 0 ≤ par.advertisedWindow ∧ par.advertisedWindow < 2 ^ 32)
    (x : SeqNo) (es : List Event) :
    (∀ c : VirtualReceiver, Run step (fun c e => Admits c e ∧ e.KeepsWindow c)
      (new par (TCPReceiveQueue.new x)) es c → c.KeepsAdvertising) ∧
    (∀ c : TCPReceiver TCPByteStreamRcvQueue ByteArrayMessage,
      Run step (fun c e => Admits c e ∧ e.KeepsWindow c)
        (new par (TCPReceiveQueue.new x)) es c → c.KeepsAdvertising) ∧
    ∀ c : TCPReceiver TCPMsgBasedRcvQueue CPacket,
      Run step (fun c e => Admits c e ∧ e.KeepsWindow c)
        (new par (TCPReceiveQueue.new x)) es c → c.KeepsAdvertising :=
  ⟨fun _ hrun => Settled.run virtualDataSpec hpar hsize hrun,
    fun _ hrun => Settled.run byteStreamSpec hpar hsize hrun,
    fun _ hrun => Settled.run msgBasedSpec hpar hsize hrun⟩

/-! ### A buffer of one hundred octets -/

/-- The peer opens the connection and sends `payloadLength` octets and a FIN. -/
def sampleTransfer (payloadLength : ℕ) : List Event :=
  [.actions 0 [] .openPassive,
    .segment 0 { sequenceNo := 1000, synBit := true } {} 2,
    .segment 0 { sequenceNo := 1001, ackNo := 1, ackBit := true } {} 2,
    .segment 0 { sequenceNo := 1001, ackNo := 1, ackBit := true, finBit := true, payloadLength }
      {} 2]

theorem keepsAdvertising_of_run_sample : ∃ c : VirtualReceiver,
    Run step (fun c e => Admits c e ∧ e.KeepsWindow c)
      (new { advertisedWindow := 100 } (TCPReceiveQueue.new 0)) (sampleTransfer 99) c ∧
    c.rcvNxt = 1101 ∧ c.KeepsAdvertising := by
  obtain ⟨c, hrun, hc⟩ := exists_run_of_exec (f := fun c : VirtualReceiver => c.rcvNxt)
    (by decide +kernel : (exec step (fun c e => Admits c e ∧ e.KeepsWindow c)
      (new { advertisedWindow := 100 } (TCPReceiveQueue.new 0) : VirtualReceiver)
      (sampleTransfer 99)).map (fun c : VirtualReceiver => c.rcvNxt) = some 1101)
  exact ⟨c, hrun, hc,
    (keepsAdvertising_of_run (by decide) (by decide) 0 (sampleTransfer 99)).1 c hrun⟩

/-- The FIN follows the last octet of the window: `rcv_nxt` is one ahead of `rcv_adv`, and the next
header promises 65535 octets. -/
theorem not_keepsAdvertising : ∃ c c' : VirtualReceiver,
    Run step Admits (new { advertisedWindow := 100 } (TCPReceiveQueue.new 0))
      (sampleTransfer 100) c ∧
    c.rcvNxt = 1102 ∧ c.rcvAdv = 1101 ∧ ¬ seqLE c.rcvNxt c.rcvAdv ∧
    c.updateRcvWnd = .ok (65535, c') ∧ c'.firstUnread = 1102 ∧ c'.rcvAdv = 1102 + 65535 ∧
    c'.maxRcvBuffer = 100 ∧ ¬ c.WindowFits ∧ ¬ c'.WindowFits := by
  let look (c : VirtualReceiver) : SeqNo × SeqNo × Bool :=
    (c.rcvNxt, c.rcvAdv, c.updateRcvWnd.toOption.any fun x =>
      decide (x.1 = 65535 ∧ x.2.firstUnread = 1102 ∧ x.2.rcvAdv = 1102 + 65535 ∧
        x.2.maxRcvBuffer = 100))
  obtain ⟨c, hrun, hc⟩ := exists_run_of_exec (f := look)
    (by decide +kernel : (exec step Admits
      (new { advertisedWindow := 100 } (TCPReceiveQueue.new 0) : VirtualReceiver)
      (sampleTransfer 100)).map look = some (1102, 1101, true))
  simp only [look, Prod.mk.injEq] at hc
  obtain ⟨hnxt, hadv, hupdate⟩ := hc
  have horder : ¬ seqLE c.rcvNxt c.rcvAdv := by
    rw [hnxt, hadv]
    decide
  cases hres : c.updateRcvWnd with
  | error f =>
    rw [hres] at hupdate
    cases hupdate
  | ok p =>
    rw [hres] at hupdate
    obtain ⟨window, c'⟩ := p
    obtain ⟨hwindow, hunread, hadv', hmax⟩ := of_decide_eq_true hupdate
    rw [show window = 65535 from hwindow] at hres
    refine ⟨c, c', hrun, hnxt, hadv, horder, hres, hunread, hadv', hmax,
      fun h => horder h.ordered, fun h => ?_⟩
    have hfits := h.fits
    rw [show c'.firstUnread = 1102 from hunread, show c'.rcvAdv = _ from hadv',
      show c'.maxRcvBuffer = 100 from hmax] at hfits
    exact absurd hfits (by decide)

end TCPReceiver

end Hiwis
