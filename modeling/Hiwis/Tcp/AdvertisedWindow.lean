import Hiwis.Tcp.Paws
import Hiwis.Tcp.ReceiveQueueSpec

/-!
# The advertised window

`updateRcvWnd` decides on the window of a header from the free space of the receive buffer, and does
not take back what has been advertised: "`rcv_adv` minus `rcv_nxt` is the amount of space still
available to the sender".  This difference is one of `uint32`.  When the FIN of a full window is
passed, `rcv_nxt` is one ahead of `rcv_adv`, and the difference is almost 2^32.

* `Windowed` : the receive window by positions, as long as nothing goes beyond `rcv_adv`;
* `Windowed.updateRcvWnd` : what `updateRcvWnd` does to it;
* `Sending.acts` : sending keeps it;
* `returns_readOptions` : what the options of a segment change.
-/

namespace Hiwis

open TCP OutOfOrder

/-- The segment has a window scale option. -/
def TCPSegment.offersWindowScale (tcpseg : TCPSegment) : Bool :=
  tcpseg.options.any fun option =>
    decide (option.kind = TCPOption.windowScale) && decide (option.length = 3)

namespace TCPReceiver

variable {κ μ ρ : Type}

section Segments

variable [Region ρ] [TCPReceiveQueue κ μ ρ]

/-! ### What is claimed of the window -/

/-- The first octet that has not been read.  A FIN has no octet in the receive queue. -/
def firstUnread (c : TCPReceiver κ μ) : SeqNo :=
  if c.regions.getFirstSeqNo = c.regions.rcvNxt then c.rcvNxt else c.regions.getFirstSeqNo

/-- `rcv_nxt` is not beyond the edge of the window, and the window fits into the buffer. -/
structure WindowFits (c : TCPReceiver κ μ) : Prop where
  ordered : seqLE c.rcvNxt c.rcvAdv
  fits : (c.rcvAdv - c.firstUnread).toNat ≤ c.maxRcvBuffer

/-- What `updateRcvWnd` does in a state: the value for the header has 16 bits and does not promise
more than `rcv_adv` says, and `rcv_adv` does not move backwards. -/
def UpdateKeeps (c : TCPReceiver κ μ) : Prop :=
  ∃ window c', c.updateRcvWnd = .ok (window, c') ∧ window < 2 ^ 16 ∧
    window * 2 ^ c'.rcvWndScale ≤ (c'.rcvAdv - c'.rcvNxt).toNat ∧ WindowFits c' ∧
    seqLE c.rcvAdv c'.rcvAdv

/-! ### The receive window by positions -/

/-- The receive window of a connection: `rcv_nxt` is at position `r` and `rcv_adv` at position `a`;
the queue has handed up everything below `H`, stores the octets `C` and waits for `nxt`. -/
structure Windowed (Q : ReceiveQueueSpec κ) (c : TCPReceiver κ μ) (r a H nxt : ℤ) (C : Set ℤ) :
    Prop where
  rcvNxt : c.rcvNxt = pos r
  rcvAdv : c.rcvAdv = pos a
  queue : Q.Holds c.receiveQueue H nxt C
  le : r ≤ a
  lt : a - r < 2 ^ 30
  unread : nxt - H < 2 ^ 30
  edge : a ≤ r - (nxt - H) + c.maxRcvBuffer
  rcvWnd_le : c.rcvWnd ≤ c.maxRcvBuffer
  rcvWnd_lt : c.rcvWnd < 2 ^ 30
  /-- Between the arrival of a text and its delivery no FIN has been passed. -/
  reading : H < nxt → r = nxt
  /-- As long as no FIN has been passed, nothing is stored beyond the edge. -/
  text : pos r = pos nxt → r = nxt ∧ C ⊆ Set.Iio a
  scale : c.wsSupport → c.rcvWs → c.maxRcvBuffer < 2 ^ 30
  wsEnabled : c.wsEnabled → c.wsSupport ∧ c.rcvWs

variable {Q : ReceiveQueueSpec κ} {c c' : TCPReceiver κ μ} {r a H nxt : ℤ} {C : Set ℤ}

namespace Windowed

theorem rcvInv (h : Windowed Q c r a H nxt C) : RcvInv Q.region c.regions H nxt C :=
  Q.rcvInv h.queue

theorem firstUnread_eq (h : Windowed Q c r a H nxt C) : c.firstUnread = pos (r - (nxt - H)) := by
  have hle := h.rcvInv.le
  have hlt := h.unread
  rw [firstUnread, h.rcvInv.getFirstSeqNo_eq (by omega), h.rcvInv.rcvNxt, h.rcvNxt]
  by_cases hH : H = nxt
  · rw [if_pos (by rw [hH]), hH, sub_self, sub_zero]
  · rw [if_neg (by rwa [pos_inj (by omega) (by omega)]), h.reading (by omega)]
    congr 1
    omega

theorem windowFits (h : Windowed Q c r a H nxt C) : c.WindowFits := by
  have hle := h.le
  have hlt := h.lt
  have hH := h.rcvInv.le
  have hunread := h.unread
  have hedge := h.edge
  refine ⟨?_, ?_⟩
  · rw [h.rcvNxt, h.rcvAdv, seqLE_pos (by omega) (by omega)]
    exact decide_eq_true hle
  · rw [h.firstUnread_eq, h.rcvAdv, dist_pos (by omega) (by omega)]
    omega

/-! ### `updateRcvWnd` -/

theorem scaleDown_lt {rounds window scale : ℕ} (h : window < 2 ^ (16 + rounds)) :
    (scaleDown rounds window scale).1 < 2 ^ 16 := by
  induction rounds generalizing window scale with
  | zero => exact h
  | succ rounds ih =>
    rw [scaleDown]
    split_ifs with hwin
    · refine ih ?_
      rw [← add_assoc, pow_succ] at h
      omega
    · rw [tcpMaxWin] at hwin
      dsimp only
      omega

theorem scaleDown_le (rounds window scale : ℕ) :
    (scaleDown rounds window scale).1 * 2 ^ (scaleDown rounds window scale).2 ≤
      window * 2 ^ scale := by
  induction rounds generalizing window scale with
  | zero => exact le_rfl
  | succ rounds ih =>
    rw [scaleDown]
    split_ifs with hwin
    · calc
        _ ≤ window / 2 * 2 ^ (scale + 1) := ih _ _
        _ = window / 2 * 2 * 2 ^ scale := by rw [pow_succ]; ring
        _ ≤ window * 2 ^ scale := Nat.mul_le_mul_right _ (Nat.div_mul_le_self _ _)
    · exact le_rfl

variable (h : Windowed Q c r a H nxt C)
include h

/-- The window that `updateRcvWnd` decides on is either what is left of the last one, or it fits
into the free space. -/
theorem newWindow_le :
    ((c.newWindow : ℤ) ≤ a - r ∨ (c.newWindow : ℤ) + (nxt - H) ≤ c.maxRcvBuffer) ∧
      c.newWindow < 2 ^ 30 := by
  have hle := h.le
  have hlt := h.lt
  have hunread := h.unread
  have hfree : c.regions.getAmountOfFreeBytes c.maxRcvBuffer = c.maxRcvBuffer - C.ncard := by
    rw [TCPVirtualDataRcvQueue.getAmountOfFreeBytes,
      h.rcvInv.getAmountOfBufferedBytes_eq (by omega)]
  have hcard := h.rcvInv.le_ncard
  have hopen : c.openWindow ≤ max (c.maxRcvBuffer - C.ncard) (a - r).toNat := by
    rw [openWindow, h.rcvNxt, h.rcvAdv, dist_pos hle (by omega), hfree]
    split_ifs <;> omega
  have hnew : c.newWindow ≤ c.openWindow ∧ (c.wsEnabled = false → c.newWindow ≤ 65535) := by
    rw [newWindow, tcpMaxWin]
    split_ifs with hmax
    · exact ⟨hmax.1.le, fun _ => le_rfl⟩
    · refine ⟨le_rfl, fun hws => ?_⟩
      rw [hws] at hmax
      simp only [Bool.not_false, and_true, not_lt] at hmax
      exact hmax
  refine ⟨by omega, ?_⟩
  cases hws : c.wsEnabled with
  | false =>
    have := hnew.2 hws
    omega
  | true =>
    have hmax := h.scale (h.wsEnabled hws).1 (h.wsEnabled hws).2
    omega

/-- When everything has been handed up and nothing is stored beyond the edge, the window is open. -/
theorem newWindow_pos (hH : H = nxt) (hr : r = nxt) (hmax : 0 < c.maxRcvBuffer) :
    0 < c.newWindow := by
  have hle := h.le
  have hlt := h.lt
  have hopen : 0 < c.openWindow := by
    rw [openWindow, h.rcvNxt, h.rcvAdv, dist_pos hle (by omega)]
    by_cases hra : r < a
    · exact lt_max_of_lt_right (by omega)
    · -- the edge has been reached, and the buffer is empty
      have hC : C = ∅ := by
        refine Set.eq_empty_of_forall_notMem fun x hx => ?_
        have h1 := (h.rcvInv.bounds hx).1
        have h2 : x < a := (h.text (by rw [hr])).2 hx
        omega
      have hfree : c.regions.getAmountOfFreeBytes c.maxRcvBuffer = c.maxRcvBuffer := by
        rw [TCPVirtualDataRcvQueue.getAmountOfFreeBytes,
          h.rcvInv.getAmountOfBufferedBytes_eq (by omega), hC, Set.ncard_empty, Nat.sub_zero]
      rw [hfree, if_neg (by omega)]
      exact lt_max_of_lt_left hmax
  rw [newWindow]
  split_ifs
  · exact Nat.zero_lt_succ _
  · exact hopen

/-- `updateRcvWnd` moves the edge forwards or leaves it, and the new window ends at it or before. -/
theorem updateRcvWnd :
    ∃ window c' a', c.updateRcvWnd = .ok (window, c') ∧ window < 2 ^ 16 ∧
      window * 2 ^ c'.rcvWndScale ≤ c'.rcvWnd ∧ a ≤ a' ∧ Windowed Q c' r a' H nxt C ∧
      r + c'.rcvWnd ≤ a' ∧ (H = nxt → r = nxt → 0 < c.maxRcvBuffer → 0 < c'.rcvWnd) := by
  obtain ⟨hwin, hlt⟩ := h.newWindow_le
  have hpos := h.newWindow_pos
  obtain ⟨W, hW⟩ : ∃ W, c.newWindow = W := ⟨_, rfl⟩
  rw [hW] at hwin hlt hpos
  have hle := h.le
  have hlt' := h.lt
  have hedge := h.edge
  have hH := h.rcvInv.le
  have hsum : pos r + BitVec.ofNat 32 W = pos (r + W) := Serial.wrap_add_ofNat r W
  have hadv : (if 0 < W ∧ seqGE (c.rcvNxt + BitVec.ofNat 32 W) c.rcvAdv then
      c.rcvNxt + BitVec.ofNat 32 W else c.rcvAdv) = pos (max a (r + W)) := by
    rw [h.rcvNxt, h.rcvAdv, hsum, seqGE_pos (by omega) (by omega)]
    by_cases hge : a ≤ r + W
    · by_cases hpos : 0 < W
      · rw [if_pos ⟨hpos, decide_eq_true hge⟩, max_eq_right hge]
      · rw [if_neg (fun hcon => hpos hcon.1), show max a (r + W) = a by omega]
    · rw [if_neg (fun hcon => hge (of_decide_eq_true hcon.2)), max_eq_left (by omega)]
  obtain ⟨scaled, hscaled⟩ : ∃ scaled, (if c.wsEnabled then scaleDown 14 W 0 else (W, 0)) =
      scaled := ⟨_, rfl⟩
  have hfits : scaled.1 < 2 ^ 16 ∧ scaled.1 * 2 ^ scaled.2 ≤ W := by
    rw [← hscaled]
    cases hws : c.wsEnabled with
    | true => exact ⟨scaleDown_lt hlt, by simpa using scaleDown_le 14 W 0⟩
    | false =>
      have hmax : W ≤ 65535 := by
        rw [← hW, newWindow, hws, tcpMaxWin]
        split_ifs with hcond
        · exact le_rfl
        · simpa using hcond
      exact ⟨by simp only [Bool.false_eq_true, if_false]; omega, by simp⟩
  refine ⟨scaled.1, { c.updateRcvQueueVars with
      rcvAdv := pos (max a (r + W)), rcvWnd := W, rcvWndScale := scaled.2 }, max a (r + W), ?_,
    hfits.1, hfits.2, le_max_left _ _, ?_, le_max_right _ _, hpos⟩
  · rw [TCPReceiver.updateRcvWnd, hW, hadv, hscaled]
    exact if_pos hfits.1
  · exact
      { rcvNxt := h.rcvNxt
        rcvAdv := rfl
        queue := h.queue
        le := by omega
        lt := by omega
        unread := h.unread
        edge := by dsimp only [updateRcvQueueVars]; omega
        rcvWnd_le := by dsimp only [updateRcvQueueVars]; omega
        rcvWnd_lt := hlt
        reading := h.reading
        text := fun heq => ⟨(h.text heq).1, (h.text heq).2.trans
          (Set.Iio_subset_Iio (le_max_left _ _))⟩
        scale := h.scale
        wsEnabled := h.wsEnabled }

theorem updateKeeps : c.UpdateKeeps := by
  obtain ⟨window, c', a', heq, hlt, hscaled, hle, h', hwnd, -⟩ := h.updateRcvWnd
  have hra := h.le
  have hra' := h'.le
  have hlt' := h'.lt
  refine ⟨window, c', heq, hlt, ?_, h'.windowFits, ?_⟩
  · rw [h'.rcvAdv, h'.rcvNxt, dist_pos hra' (by omega)]
    omega
  · rw [h.rcvAdv, h'.rcvAdv, seqLE_pos (by omega) (by omega)]
    exact decide_eq_true hle

end Windowed

theorem Windowed.congr {scales : Prop} (h : Windowed Q c r a H nxt C)
    (hs : SameWindow scales c c')
    (hscale : scales → c.wsSupport → c.maxRcvBuffer < 2 ^ 30) : Windowed Q c' r a H nxt C where
  rcvNxt := hs.rcvNxt.trans h.rcvNxt
  rcvAdv := hs.rcvAdv.trans h.rcvAdv
  queue := hs.receiveQueue ▸ h.queue
  le := h.le
  lt := h.lt
  unread := h.unread
  edge := hs.maxRcvBuffer ▸ h.edge
  rcvWnd_le := by rw [hs.rcvWnd, hs.maxRcvBuffer]; exact h.rcvWnd_le
  rcvWnd_lt := by rw [hs.rcvWnd]; exact h.rcvWnd_lt
  reading := h.reading
  text := h.text
  scale := by
    rw [hs.wsSupport, hs.maxRcvBuffer]
    intro hsup hws
    exact (hs.rcvWs hws).elim (h.scale hsup) fun hsc => hscale hsc hsup
  wsEnabled := by
    intro hws
    refine (hs.wsEnabled hws).elim (fun hws => ?_) id
    obtain ⟨hsup, hrcv⟩ := h.wsEnabled hws
    exact ⟨hs.wsSupport.trans hsup, hs.rcvWs_of hrcv⟩

/-! ### Sending -/

/-- Since the edge was at `a` and the window was `w`, segments may have been sent: the edge has
moved forwards, and a new window ends at it or before. -/
def Sending (Q : ReceiveQueueSpec κ) (r a H nxt : ℤ) (C : Set ℤ) (w : ℕ) (c : TCPReceiver κ μ) :
    Prop :=
  ∃ a', a ≤ a' ∧ Windowed Q c r a' H nxt C ∧ (c.rcvWnd = w ∧ a' = a ∨
    r + c.rcvWnd ≤ a' ∧ (H = nxt → r = nxt → 0 < c.maxRcvBuffer → 0 < c.rcvWnd))

namespace Sending

variable {w : ℕ}

theorem of_windowed (h : Windowed Q c r a H nxt C) : Sending Q r a H nxt C c.rcvWnd c :=
  ⟨a, le_rfl, h, .inl ⟨rfl, rfl⟩⟩

theorem congr (h : Sending Q r a H nxt C w c) (hs : SameWindow False c c') :
    Sending Q r a H nxt C w c' := by
  obtain ⟨a', hle, h', hwnd⟩ := h
  refine ⟨a', hle, h'.congr hs False.elim, ?_⟩
  rw [hs.rcvWnd, hs.maxRcvBuffer]
  exact hwnd

theorem updateRcvWnd (h : Sending Q r a H nxt C w c) :
    Returns (fun p => Sending Q r a H nxt C w p.2) c.updateRcvWnd := by
  obtain ⟨a', hle, h', -⟩ := h
  obtain ⟨window, c', a'', heq, -, -, hle', h'', hwnd, hpos⟩ := h'.updateRcvWnd
  have hmax : c'.maxRcvBuffer = c.maxRcvBuffer := ((ensures_updateRcvWnd c).of_eq_ok heq).maxRcvBuffer
  rw [heq]
  exact ⟨a'', hle.trans hle', h'', .inr ⟨hwnd, fun hH hr hbuf => hpos hH hr (hmax ▸ hbuf)⟩⟩

theorem stable : Stable (fun fault => fault ≠ .scaledRcvWnd) (Sending Q r a H nxt C w) where
  fault _ h := h
  minor h hm := h.congr hm.toSameWindow
  updateRcvWnd h := h.updateRcvWnd

theorem acts (h : Sending Q r a H nxt C w c) (as : List Action) :
    Returns (Sending Q r a H nxt C w) (c.acts as) := stable.acts h as

end Sending

/-! ### The options of a segment -/

/-- Window scaling may become possible with this segment. -/
def Scales (c : TCPReceiver κ μ) (tcpseg : TCPSegment) : Prop :=
  c.fsm ∈ [.listen, .synSent] ∧ tcpseg.offersWindowScale

instance (c : TCPReceiver κ μ) (tcpseg : TCPSegment) : Decidable (c.Scales tcpseg) :=
  inferInstanceAs (Decidable (_ ∧ _))

/-- What reading the options changes. -/
def OptionsRead (c : TCPReceiver κ μ) (tcpseg : TCPSegment) (c' : TCPReceiver κ μ) : Prop :=
  SameWindow (c.Scales tcpseg) c c' ∧ c'.isSegmentAcceptable = c.isSegmentAcceptable

theorem OptionEffect.optionsRead {option : TCPOption} {tcpseg : TCPSegment}
    (h : OptionEffect c tcpseg option c') (hmem : option ∈ tcpseg.options) :
    c.OptionsRead tcpseg c' := by
  have hts : ∀ (c : TCPReceiver κ μ) (tsval : SeqNo),
      c.OptionsRead tcpseg (c.updateTsRecent tcpseg tsval) := by
    intro c tsval
    rw [updateTsRecent]
    split_ifs
    · exact ⟨{ SameWindow.refl c with }, rfl⟩
    · exact ⟨SameWindow.refl c, rfl⟩
  cases h with
  | ignored => exact ⟨SameWindow.refl c, rfl⟩
  | mss hopen sndMss => exact ⟨{ SameWindow.refl c with }, rfl⟩
  | windowScale hopen hkind hlength =>
    have hscales : c.Scales tcpseg := by
      refine ⟨?_, List.any_eq_true.2 ⟨option, hmem, by simp [hkind, hlength]⟩⟩
      rwa [List.mem_cons, List.mem_singleton]
    have hrefl : SameWindow False c c := SameWindow.refl c
    refine ⟨{ hrefl with
      rcvWs := fun _ => .inr hscales
      wsEnabled := fun henabled => ?_
      rcvWs_of := fun _ => rfl }, rfl⟩
    rw [Bool.and_eq_true] at henabled
    exact .inr ⟨henabled.1, rfl⟩
  | sackPermitted hopen => exact ⟨{ SameWindow.refl c with }, rfl⟩
  | timestamp tsval => exact hts c tsval
  | initialTimestamp hopen tsval => exact ⟨{ (hts _ tsval).1 with }, (hts _ tsval).2⟩

theorem returns_readOptions (c : TCPReceiver κ μ) (tcpseg : TCPSegment) :
    Returns (c.OptionsRead tcpseg) (c.readOptions tcpseg) := by
  rw [readOptions]
  split_ifs
  · refine Except.Ensures.foldlM ?_ (show c.OptionsRead tcpseg c from ⟨SameWindow.refl c, rfl⟩)
    rintro c1 option hmem ⟨h1, hacc1⟩
    refine (returns_processOption c1 tcpseg option).mono fun c2 heffect => ?_
    obtain ⟨h2, hacc2⟩ := heffect.optionsRead hmem
    have hscales : c1.Scales tcpseg = c.Scales tcpseg := by rw [Scales, Scales, h1.fsm]
    rw [hscales] at h2
    exact ⟨h1.trans h2, hacc2.trans hacc1⟩
  · exact ⟨SameWindow.refl c, rfl⟩

end Segments

end TCPReceiver

end Hiwis
