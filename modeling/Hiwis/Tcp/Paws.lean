import Hiwis.Tcp.TCPConnectionRcvSegment

/-!
# Protection against wrapped sequence numbers

With timestamps, the text of a segment whose TSval is older than `ts_recent` should stay out of the
receive queue, "then test whether connection has been idle less than 24 days; if both are true, then
the segment is not acceptable".  The code asks for the opposite: it drops such a segment when the
connection has been idle for longer.

* `OldDuplicate`, `StoresText` : such a segment, and what the other tests ask of its text;
* `ts_advances` : the values of `ts_recent` in a run;
* `paws_iff` : the runs in which no such text is stored.
-/

namespace Hiwis

open List Except Trace

open TCP

namespace TCPReceiver

variable {κ μ ρ : Type}

/-- The connection is in one of the synchronized states. -/
def Synchronized (c : TCPReceiver κ μ) : Prop :=
  c.fsm ∈ [.established, .finWait1, .finWait2, .closeWait, .closing, .lastAck, .timeWait]

/-- The segment has a TS option, and its TSval is older than `ts_recent`. -/
def hasOldTSval (c : TCPReceiver κ μ) (tcpseg : TCPSegment) : Bool :=
  (tcpseg.options.find? fun option => option.kind = TCPOption.timestamp).any fun option =>
    option.values.head?.any fun tsval => seqLess tsval c.tsRecent

/-- PAWS is meant for the segment. -/
structure OldDuplicate (c : TCPReceiver κ μ) (tcpseg : TCPSegment) : Prop where
  synchronized : c.Synchronized
  tsEnabled : c.tsEnabled
  not_idle : c.idle = false
  rstBit : tcpseg.rstBit = false
  tsval : c.hasOldTSval tcpseg

instance (c : TCPReceiver κ μ) : Decidable c.Synchronized := inferInstanceAs (Decidable (_ ∈ _))

instance (c : TCPReceiver κ μ) (tcpseg : TCPSegment) : Decidable (c.OldDuplicate tcpseg) :=
  decidable_of_iff (c.Synchronized ∧ c.tsEnabled ∧ c.idle = false ∧ tcpseg.rstBit = false ∧
      c.hasOldTSval tcpseg)
    ⟨fun ⟨h₁, h₂, h₃, h₄, h₅⟩ => ⟨h₁, h₂, h₃, h₄, h₅⟩,
      fun ⟨h₁, h₂, h₃, h₄, h₅⟩ => ⟨h₁, h₂, h₃, h₄, h₅⟩⟩

section Segments

variable [Region ρ] [TCPReceiveQueue κ μ ρ]

/-- What the code asks of a segment before it stores the text, apart from its TSval. -/
structure StoresText (c : TCPReceiver κ μ) (tcpseg : TCPSegment) : Prop where
  acceptable : c.isSegmentAcceptable tcpseg
  synBit : tcpseg.synBit = false
  ackBit : tcpseg.ackBit
  fsm : c.fsm ∈ textStates
  payload : 0 < tcpseg.payloadLength
  ackNo : seqGE c.sndUna tcpseg.ackNo ∨ seqLE tcpseg.ackNo c.sndMax
  room : ∃ cut, tcpseg.truncateSegment c.rcvNxt (c.rcvNxt + BitVec.ofNat 32 c.rcvWnd) = .ok cut ∧
    c.hasEnoughSpace cut

/-! ### What is stored -/

/-- The state and the values of `ts_recent` are the same. -/
structure SameTs (c c' : TCPReceiver κ μ) : Prop where
  fsm : c'.fsm = c.fsm
  tsRecent : c'.tsRecent = c.tsRecent
  tsRecents : c'.tsRecents = c.tsRecents

variable {c c' c'' : TCPReceiver κ μ} {tcpseg : TCPSegment} {r : Responses} {rounds : ℕ}
  {event : TCPEventCode}

theorem SameTs.trans (h : SameTs c c') (h' : SameTs c' c'') : SameTs c c'' where
  fsm := h'.fsm.trans h.fsm
  tsRecent := h'.tsRecent.trans h.tsRecent
  tsRecents := h'.tsRecents.trans h.tsRecents

theorem Frame.sameTs (h : Frame c c') : SameTs c c' := ⟨h.fsm, h.tsRecent, h.tsRecents⟩

theorem deliver_stored (h : deliver rounds c = .ok c') : SameTs c c' ∧ c'.stored = c.stored := by
  induction rounds generalizing c with
  | zero => cases h
  | succ rounds ih =>
    rw [deliver] at h
    obtain ⟨⟨msg, receiveQueue⟩, -, h⟩ := bind_eq_ok.1 h
    cases msg with
    | some msg =>
      obtain ⟨hsame, hstored⟩ := ih h
      exact ⟨{ hsame with }, hstored⟩
    | none =>
      cases h
      exact ⟨⟨rfl, rfl, rfl⟩, rfl⟩

theorem passStoredFin_stored (c : TCPReceiver κ μ) (event : TCPEventCode) :
    SameTs c (c.passStoredFin event).2 ∧ (c.passStoredFin event).2.stored = c.stored := by
  rw [passStoredFin]
  split_ifs
  · exact ⟨⟨rfl, rfl, rfl⟩, rfl⟩
  · exact ⟨⟨rfl, rfl, rfl⟩, rfl⟩

theorem processFin_stored (c : TCPReceiver κ μ) (tcpseg : TCPSegment) (event : TCPEventCode) :
    SameTs c (c.processFin tcpseg event).2 ∧ (c.processFin tcpseg event).2.stored = c.stored := by
  rw [processFin]
  split_ifs
  · exact ⟨⟨rfl, rfl, rfl⟩, rfl⟩
  · exact ⟨⟨rfl, rfl, rfl⟩, rfl⟩
  · exact ⟨⟨rfl, rfl, rfl⟩, rfl⟩

theorem afterText_stored {oldRcvNxt : SeqNo} {oldUsedRcvBuffer : ℕ} {event' : TCPEventCode}
    (h : c.afterText tcpseg event oldRcvNxt oldUsedRcvBuffer r rounds = .ok (event', c')) :
    SameTs c c' ∧ c'.stored = c.stored := by
  rw [afterText] at h
  split_ifs at h
  · obtain ⟨c1, h1, h⟩ := bind_eq_ok.1 h
    cases h
    have hframe := (minor_reportOutOfOrder c tcpseg oldUsedRcvBuffer).toFrame.trans (Frame.acts h1)
    exact ⟨hframe.sameTs, hframe.stored⟩
  · obtain ⟨c1, h1, h⟩ := bind_eq_ok.1 h
    obtain rfl : (c1.passStoredFin event).2 = c' := congrArg Prod.snd (Except.ok.inj h)
    obtain ⟨hdeliver, hstored⟩ := deliver_stored h1
    obtain ⟨hfin, hstored'⟩ := passStoredFin_stored c1 event
    exact ⟨hdeliver.trans hfin, hstored'.trans hstored⟩

theorem insertText_stored (h : c.insertText tcpseg = .ok c') :
    SameTs c c' ∧ c'.stored = c.stored ++ [tcpseg] ∧ c'.sndUna = c.sndUna := by
  obtain ⟨⟨rcvNxt, receiveQueue⟩, -, h⟩ := bind_eq_ok.1 h
  cases h
  exact ⟨⟨rfl, rfl, rfl⟩, rfl, rfl⟩

theorem hasEnoughSpace_noteProbe (c : TCPReceiver κ μ) (tcpseg cut : TCPSegment) :
    (c.noteProbe tcpseg).updateRcvQueueVars.hasEnoughSpace cut = c.hasEnoughSpace cut := by
  rw [noteProbe]
  split_ifs <;> rfl

/-- The text is stored if and only if the connection is in a state for it, there is text, and what
is left of it in the window has room. -/
theorem processText_stored {oldSndUna : SeqNo} {text : Option (TCPEventCode × TCPSegment)}
    (h : c.processText tcpseg event oldSndUna r rounds = .ok (text, c')) :
    SameTs c c' ∧ (c'.stored = c.stored ↔ ¬ (c.fsm ∈ textStates ∧ 0 < tcpseg.payloadLength ∧
      ∃ cut, tcpseg.truncateSegment c.rcvNxt (c.rcvNxt + BitVec.ofNat 32 c.rcvWnd) = .ok cut ∧
        c.hasEnoughSpace cut)) := by
  rw [processText] at h
  by_cases hstate : c.fsm ∈ textStates ∧ 0 < tcpseg.payloadLength
  · rw [if_pos hstate] at h
    obtain ⟨cut, hcut, h⟩ := bind_eq_ok.1 h
    have hcut' := ask_eq_ok hcut
    have hprobe : SameTs c (c.noteProbe tcpseg).updateRcvQueueVars :=
      (minor_noteProbe c tcpseg).toFrame.sameTs.trans ⟨rfl, rfl, rfl⟩
    have hprobe' : (c.noteProbe tcpseg).updateRcvQueueVars.stored = c.stored :=
      (minor_noteProbe c tcpseg).stored
    dsimp only at h
    rw [hasEnoughSpace_noteProbe] at h
    by_cases hspace : c.hasEnoughSpace cut = true
    · rw [if_pos hspace] at h
      obtain ⟨c2, h2, h⟩ := bind_eq_ok.1 h
      obtain ⟨c3, h3, h⟩ := bind_eq_ok.1 h
      obtain ⟨⟨event', c4⟩, h4, h⟩ := bind_eq_ok.1 h
      cases h
      obtain ⟨hinsert, hstored, -⟩ := insertText_stored h2
      have hframe := Frame.notifyDataAck h3
      obtain ⟨hafter, hstored'⟩ := afterText_stored h4
      refine ⟨((hprobe.trans hinsert).trans hframe.sameTs).trans hafter, iff_of_false ?_ ?_⟩
      · rw [hstored', hframe.stored, hstored, hprobe']
        simp
      · exact not_not.2 ⟨hstate.1, hstate.2, cut, hcut', hspace⟩
    · rw [if_neg hspace] at h
      cases h
      refine ⟨hprobe, iff_of_true hprobe' ?_⟩
      rintro ⟨-, -, cut', hcut2, hspace'⟩
      cases hcut'.symm.trans hcut2
      exact hspace hspace'
  · rw [if_neg hstate] at h
    cases h
    exact ⟨⟨rfl, rfl, rfl⟩, iff_of_true rfl fun hall => hstate ⟨hall.1, hall.2.1⟩⟩

/-- For a segment with text the ACK field decides whether the text is looked at. -/
theorem processAck_of_text {flow : Flow} (hfsm : c.fsm ∈ [.established, .finWait1, .finWait2])
    (hpayload : 0 < tcpseg.payloadLength) (h : c.processAck tcpseg r = .ok (flow, c')) :
    ((seqGE c.sndUna tcpseg.ackNo ∨ seqLE tcpseg.ackNo c.sndMax) ∧ (∃ event, flow = .goOn event) ∧
      (c' = c ∨ c' = c.advanceSndUna tcpseg.ackNo)) ∨
    (¬ (seqGE c.sndUna tcpseg.ackNo ∨ seqLE tcpseg.ackNo c.sndMax) ∧
      ∃ event, flow = .finish event) := by
  have hafter : ∀ c1 : TCPReceiver κ μ, c1.fsm = c.fsm →
      ∃ event, c1.afterAck tcpseg = .ok (.goOn event, c1) := by
    intro c1 h1
    rw [← h1] at hfsm
    have hlast : c1.fsm ≠ .lastAck := by
      intro hlast
      rw [hlast] at hfsm
      exact absurd hfsm (by decide)
    have htime : c1.fsm ≠ .timeWait := by
      intro htime
      rw [htime] at hfsm
      exact absurd hfsm (by decide)
    rw [afterAck, if_neg (fun hall => hlast hall.1), if_neg htime]
    exact ⟨_, rfl⟩
  have hsyn : c.fsm ≠ .synRcvd := by
    intro hsyn
    rw [hsyn] at hfsm
    exact absurd hfsm (by decide)
  have hack : c.fsm ∈ [TCPState.established, .finWait1, .finWait2, .closeWait, .closing,
      .lastAck] := by
    simp only [mem_cons, not_mem_nil, or_false] at hfsm ⊢
    tauto
  rw [processAck, if_neg hsyn, if_pos hack, processAckInEstabEtc] at h
  by_cases hge : seqGE c.sndUna tcpseg.ackNo = true
  · rw [if_pos hge, if_neg (fun hall => hpayload.ne' hall.2.1)] at h
    obtain ⟨event, hgo⟩ := hafter c rfl
    cases hgo.symm.trans h
    exact .inl ⟨.inl hge, ⟨event, rfl⟩, .inl rfl⟩
  · rw [if_neg hge] at h
    by_cases hle : seqLE tcpseg.ackNo c.sndMax = true
    · rw [if_pos hle, if_neg (fun hall => hpayload.ne' hall.1)] at h
      obtain ⟨event, hgo⟩ := hafter (c.advanceSndUna tcpseg.ackNo) rfl
      cases hgo.symm.trans h
      exact .inl ⟨.inr hle, ⟨event, rfl⟩, .inr rfl⟩
    · rw [if_neg hle] at h
      obtain ⟨⟨ok, c1⟩, h1, h⟩ := bind_eq_ok.1 h
      obtain ⟨c2, -, h1⟩ := bind_eq_ok.1 h1
      cases h1
      cases h
      exact .inr ⟨not_or.2 ⟨hge, hle⟩, _, rfl⟩

/-- The steps from the fifth one on store the text of a segment if and only if it passes their
tests. -/
theorem processAcceptable_stored
    (h : c.processAcceptable tcpseg r rounds = .ok (event, c')) :
    SameTs c c' ∧ (c.Synchronized → (c'.stored = c.stored ↔
      ¬ (c.fsm ∈ textStates ∧ 0 < tcpseg.payloadLength ∧
        (seqGE c.sndUna tcpseg.ackNo ∨ seqLE tcpseg.ackNo c.sndMax) ∧
        ∃ cut, tcpseg.truncateSegment c.rcvNxt (c.rcvNxt + BitVec.ofNat 32 c.rcvWnd) = .ok cut ∧
          c.hasEnoughSpace cut))) := by
  obtain ⟨⟨flow, c1⟩, h1, h⟩ := bind_eq_ok.1 h
  have hack := Frame.processAck h1
  -- what the rest of the function does after the ACK field
  have hrest : SameTs c1 c' ∧ ((∃ event, flow = .finish event) → c'.stored = c1.stored) ∧
      ((∃ event, flow = .goOn event) → (c'.stored = c1.stored ↔ ¬ (c1.fsm ∈ textStates ∧
        0 < tcpseg.payloadLength ∧
        ∃ cut, tcpseg.truncateSegment c1.rcvNxt (c1.rcvNxt + BitVec.ofNat 32 c1.rcvWnd) =
          .ok cut ∧ c1.hasEnoughSpace cut))) := by
    cases flow with
    | finish event' =>
      cases h
      refine ⟨⟨rfl, rfl, rfl⟩, fun _ => rfl, ?_⟩
      rintro ⟨_, hgo⟩
      cases hgo
    | goOn event' =>
      obtain ⟨⟨text, c2⟩, h2, h⟩ := bind_eq_ok.1 h
      obtain ⟨htext, hstored⟩ := processText_stored h2
      cases text with
      | none =>
        cases h
        refine ⟨htext, ?_, fun _ => hstored⟩
        rintro ⟨_, hfin⟩
        cases hfin
      | some text =>
        obtain ⟨c3, h3, h⟩ := bind_eq_ok.1 h
        cases h
        have hframe := Frame.seqChanged h3
        obtain ⟨hfin, hstored'⟩ := processFin_stored c2 text.2 text.1
        refine ⟨(htext.trans hfin).trans hframe.sameTs, ?_, fun _ => ?_⟩
        · rintro ⟨_, hfin⟩
          cases hfin
        · rw [hframe.stored, hstored']
          exact hstored
  obtain ⟨hsame, hfinish, hgoOn⟩ := hrest
  refine ⟨hack.sameTs.trans hsame, fun hsync => ?_⟩
  rw [← hack.stored]
  by_cases htext : c.fsm ∈ textStates ∧ 0 < tcpseg.payloadLength
  · have hfsm : c.fsm ∈ [TCPState.established, .finWait1, .finWait2] := by
      have hmem := htext.1
      simp only [Synchronized, textStates, mem_cons, not_mem_nil, or_false]
        at hmem hsync ⊢
      rcases hmem with hfsm | hmem
      · rw [hfsm] at hsync
        simp at hsync
      · exact hmem
    rcases processAck_of_text hfsm htext.2 h1 with ⟨hok, hflow, hc1⟩ | ⟨hnot, hflow⟩
    · rw [hgoOn hflow]
      rcases hc1 with rfl | rfl
      · exact not_congr ⟨fun ⟨ha, hb, hc⟩ => ⟨ha, hb, hok, hc⟩, fun ⟨ha, hb, _, hc⟩ => ⟨ha, hb, hc⟩⟩
      · exact not_congr ⟨fun ⟨ha, hb, hc⟩ => ⟨ha, hb, hok, hc⟩, fun ⟨ha, hb, _, hc⟩ => ⟨ha, hb, hc⟩⟩
    · exact iff_of_true (hfinish hflow) fun hall => hnot hall.2.2.1
  · refine iff_of_true ?_ fun hall => htext ⟨hall.1, hall.2.1⟩
    cases flow with
    | finish event' => exact hfinish ⟨event', rfl⟩
    | goOn event' =>
      refine (hgoOn ⟨event', rfl⟩).2 fun hall => htext ⟨?_, hall.2.1⟩
      rw [← hack.fsm]
      exact hall.1

/-! ### The values of `ts_recent` -/

/-- `ts_recent` is the last one of its values, and none of them is older than the one before. -/
structure TsAdvances (c : TCPReceiver κ μ) : Prop where
  last : c.tsRecents.getLast? = some c.tsRecent
  chain : c.tsRecents.IsChain fun x y => seqLess y x = false

theorem TsAdvances.congr (h : c.TsAdvances) (hsame : SameTs c c') : c'.TsAdvances := by
  obtain ⟨-, htsRecent, htsRecents⟩ := hsame
  refine ⟨?_, ?_⟩
  · rw [htsRecent, htsRecents]
    exact h.last
  · rw [htsRecents]
    exact h.chain

theorem TsAdvances.updateTsRecent (h : c.TsAdvances) (tcpseg : TCPSegment) (tsval : SeqNo) :
    (c.updateTsRecent tcpseg tsval).TsAdvances := by
  rw [TCPReceiver.updateTsRecent]
  split_ifs with hcond
  · simp only [Bool.and_eq_true, Bool.not_eq_true'] at hcond
    refine ⟨List.getLast?_concat, isChain_append.2 ⟨h.chain, isChain_singleton _, ?_⟩⟩
    intro x hx y hy
    rw [h.last, Option.mem_some_iff] at hx
    obtain rfl : tsval = y := by simpa using hy
    exact hx ▸ hcond.1.2
  · exact h

theorem updateTsRecent_eq (c : TCPReceiver κ μ) (tcpseg : TCPSegment) (tsval : SeqNo) :
    ∃ tsRecent tsRecents, c.updateTsRecent tcpseg tsval = { c with tsRecent, tsRecents } := by
  rw [updateTsRecent]
  split_ifs
  · exact ⟨_, _, rfl⟩
  · exact ⟨_, _, rfl⟩

/-- In a synchronized state the options of a segment change `ts_recent` only. -/
theorem OptionEffect.spec {option : TCPOption} (h : OptionEffect c tcpseg option c') :
    c'.fsm = c.fsm ∧ c'.stored = c.stored ∧ (c.TsAdvances → c'.TsAdvances) ∧
      (c.Synchronized → ∃ tsRecent tsRecents, c' = { c with tsRecent, tsRecents }) := by
  -- in a synchronized state a SYN option is not looked at
  have hsyn : c.fsm = .listen ∨ c.fsm = .synSent → ¬ c.Synchronized := by
    rintro (heq | heq) hsync <;> simp [Synchronized, heq] at hsync
  cases h with
  | ignored => exact ⟨rfl, rfl, id, fun _ => ⟨_, _, rfl⟩⟩
  | mss hopen sndMss =>
    exact ⟨rfl, rfl, fun h => { h with }, fun hsync => absurd hsync (hsyn hopen)⟩
  | windowScale hopen hkind hlength =>
    exact ⟨rfl, rfl, fun h => { h with }, fun hsync => absurd hsync (hsyn hopen)⟩
  | sackPermitted hopen =>
    exact ⟨rfl, rfl, fun h => { h with }, fun hsync => absurd hsync (hsyn hopen)⟩
  | timestamp tsval =>
    obtain ⟨tsRecent, tsRecents, heq⟩ := updateTsRecent_eq c tcpseg tsval
    have hadvances := fun h : c.TsAdvances => h.updateTsRecent tcpseg tsval
    rw [heq] at hadvances ⊢
    exact ⟨rfl, rfl, hadvances, fun _ => ⟨_, _, rfl⟩⟩
  | initialTimestamp hopen tsval =>
    obtain ⟨tsRecent, tsRecents, heq⟩ := updateTsRecent_eq
      { c with rcvInitialTs := true, tsEnabled := c.tsSupport && c.sndInitialTs } tcpseg tsval
    have hadvances := fun h : ({ c with
        rcvInitialTs := true, tsEnabled := c.tsSupport && c.sndInitialTs } :
          TCPReceiver κ μ).TsAdvances => h.updateTsRecent tcpseg tsval
    rw [heq] at hadvances ⊢
    exact ⟨rfl, rfl, fun h => hadvances { h with }, fun hsync => absurd hsync (hsyn hopen)⟩

theorem readOptions_spec (h : c.readOptions tcpseg = .ok c') :
    c'.fsm = c.fsm ∧ c'.stored = c.stored ∧ (c.TsAdvances → c'.TsAdvances) ∧
      (c.Synchronized → ∃ tsRecent tsRecents, c' = { c with tsRecent, tsRecents }) := by
  rw [readOptions] at h
  split_ifs at h
  · rw [readHeaderOptions] at h
    generalize tcpseg.options = options at h
    induction options generalizing c with
    | nil =>
      cases h
      exact ⟨rfl, rfl, id, fun _ => ⟨_, _, rfl⟩⟩
    | cons option options ih =>
      rw [foldlM_cons] at h
      obtain ⟨c1, h1, h⟩ := bind_eq_ok.1 h
      obtain ⟨hfsm, hstored, hts, hsync⟩ := ((returns_processOption ..).of_eq_ok h1).spec
      obtain ⟨hfsm', hstored', hts', hsync'⟩ := ih h
      refine ⟨hfsm'.trans hfsm, hstored'.trans hstored, hts' ∘ hts, fun hc => ?_⟩
      have hc1 : c1.Synchronized := by
        rw [Synchronized, hfsm]
        exact hc
      obtain ⟨tsRecent, tsRecents, rfl⟩ := hsync hc
      obtain ⟨tsRecent', tsRecents', rfl⟩ := hsync' hc1
      exact ⟨_, _, rfl⟩
  · cases h
    exact ⟨rfl, rfl, id, fun _ => ⟨_, _, rfl⟩⟩

theorem synText_sameTs {ok : Bool} (h : c.synText tcpseg = .ok (ok, c')) : SameTs c c' := by
  rw [synText] at h
  split_ifs at h
  · obtain ⟨⟨rcvNxt, receiveQueue⟩, -, h⟩ := bind_eq_ok.1 h
    cases h
    exact ⟨rfl, rfl, rfl⟩
  · cases h
    exact ⟨rfl, rfl, rfl⟩
  · cases h
    exact ⟨rfl, rfl, rfl⟩

theorem TsAdvances.processSegmentInListen (hts : c.TsAdvances)
    (h : c.processSegmentInListen tcpseg = .ok (event, c')) : c'.TsAdvances := by
  rw [TCPReceiver.processSegmentInListen] at h
  split_ifs at h
  · cases h
    exact hts
  · cases h
    exact { hts with }
  · obtain ⟨c1, h1, h⟩ := bind_eq_ok.1 h
    obtain ⟨c2, h2, h⟩ := bind_eq_ok.1 h
    obtain ⟨⟨ok, c3⟩, h3, h⟩ := bind_eq_ok.1 h
    cases h
    have hread : c1.TsAdvances := (readOptions_spec h1).2.2.1 { hts with }
    have hack : TsAdvances { c1 with ackNow := true } := { hread with }
    exact (hack.congr (Frame.sendSynAck h2).sameTs).congr (synText_sameTs h3)
  · cases h
    exact hts

theorem TsAdvances.processSynInSynSent (hts : c.TsAdvances)
    (h : c.processSynInSynSent tcpseg r = .ok (event, c')) : c'.TsAdvances := by
  rw [TCPReceiver.processSynInSynSent] at h
  split_ifs at h
  · obtain ⟨⟨ok, c1⟩, h1, h⟩ := bind_eq_ok.1 h
    have htext := hts.congr (synText_sameTs h1)
    cases ok with
    | true =>
      obtain ⟨c2, h2, h⟩ := bind_eq_ok.1 h
      obtain ⟨c3, h3, h⟩ := bind_eq_ok.1 h
      cases h
      have hread := (readOptions_spec h2).2.2.1 htext
      have hack : TsAdvances { c2 with ackNow := true } := { hread with }
      exact hack.congr (Frame.acts h3).sameTs
    | false =>
      cases h
      exact htext
  · obtain ⟨c1, h1, h⟩ := bind_eq_ok.1 h
    obtain ⟨⟨ok, c2⟩, h2, h⟩ := bind_eq_ok.1 h
    cases h
    have hsnd : TsAdvances { c with sndMax := c.iss, sndNxt := c.iss } := { hts with }
    exact (hsnd.congr (Frame.sendSynAck h1).sameTs).congr (synText_sameTs h2)

theorem TsAdvances.processSegmentInSynSent (hts : c.TsAdvances)
    (h : c.processSegmentInSynSent tcpseg r = .ok (event, c')) : c'.TsAdvances := by
  have hsyn : TsAdvances (c.acceptSyn tcpseg) := { hts with }
  rw [TCPReceiver.processSegmentInSynSent] at h
  split_ifs at h
  · cases h
    exact hts
  · cases h
    exact { hts with }
  · cases h
    exact hts
  · cases h
    exact hts
  · have hack : TsAdvances { c.acceptSyn tcpseg with sndUna := tcpseg.ackNo } := { hsyn with }
    exact hack.processSynInSynSent h
  · exact hsyn.processSynInSynSent h
  · cases h
    exact hts

/-- What `processSegment1stThru8th` does to `ts_recent` and to the text of an old segment. -/
theorem processSegment1stThru8th_spec
    (h : c.processSegment1stThru8th tcpseg r rounds = .ok (event, c')) :
    (c.TsAdvances → c'.TsAdvances) ∧
      (c.OldDuplicate tcpseg → (c'.stored = c.stored ↔ ¬ c.StoresText tcpseg)) := by
  obtain ⟨rejected, hpaws, h⟩ := bind_eq_ok.1 h
  obtain ⟨c1, h1, h⟩ := bind_eq_ok.1 h
  obtain ⟨hfsm, hstored, hts, hsync⟩ := readOptions_spec h1
  have hidle : c.idle = false → rejected = false := by
    intro hidle
    rw [pawsRejects] at hpaws
    split_ifs at hpaws
    · obtain ⟨tsval, -, hpaws⟩ := bind_eq_ok.1 hpaws
      rw [← Except.ok.inj hpaws, hidle, Bool.and_false]
    · exact (Except.ok.inj hpaws).symm
  by_cases hreject : (rejected || !c1.isSegmentAcceptable tcpseg) = true
  · rw [if_pos hreject] at h
    obtain ⟨-, hframe⟩ := Frame.rejectSegment h
    refine ⟨fun hc => (hts hc).congr hframe.sameTs, fun hold => ?_⟩
    refine iff_of_true (hframe.stored.trans hstored) fun hall => ?_
    obtain ⟨tsRecent, tsRecents, rfl⟩ := hsync hold.synchronized
    rw [hidle hold.not_idle, Bool.false_or, Bool.not_eq_true'] at hreject
    exact absurd hall.acceptable (Bool.eq_false_iff.1 hreject)
  · rw [if_neg hreject] at h
    by_cases hrst : tcpseg.rstBit = true
    · rw [if_pos hrst] at h
      obtain ⟨-, rfl⟩ := Frame.processRst h
      refine ⟨hts, fun hold => ?_⟩
      exact absurd hrst (Bool.eq_false_iff.1 hold.rstBit)
    · rw [if_neg hrst] at h
      by_cases hsyn : tcpseg.synBit = true
      · rw [if_pos hsyn] at h
        cases h
        refine ⟨hts, fun _ => iff_of_true hstored fun hall => ?_⟩
        exact absurd hsyn (Bool.eq_false_iff.1 hall.synBit)
      · rw [if_neg hsyn] at h
        by_cases hack : (!tcpseg.ackBit) = true
        · rw [if_pos hack] at h
          cases h
          refine ⟨hts, fun _ => iff_of_true hstored fun hall => ?_⟩
          rw [hall.ackBit] at hack
          cases hack
        · rw [if_neg hack] at h
          obtain ⟨hsame, hiff⟩ := processAcceptable_stored h
          refine ⟨fun hc => (hts hc).congr hsame, fun hold => ?_⟩
          have hc1 : c1.Synchronized := by
            rw [Synchronized, hfsm]
            exact hold.synchronized
          rw [← hstored, hiff hc1]
          obtain ⟨tsRecent, tsRecents, rfl⟩ := hsync hold.synchronized
          rw [hidle hold.not_idle] at hreject
          refine not_congr ⟨?_, fun hall => ⟨hall.fsm, hall.payload, hall.ackNo, hall.room⟩⟩
          rintro ⟨htext, hpayload, hackNo, hroom⟩
          rw [Bool.false_or, Bool.not_eq_true', Bool.not_eq_false] at hreject
          exact ⟨hreject, by simpa using hsyn, by simpa using hack, htext, hpayload, hackNo, hroom⟩

/-! ### Runs -/

namespace Event

/-- PAWS is meant for the segment of the event. -/
def Old (c : TCPReceiver κ μ) : Event → Prop
  | .segment simTime tcpseg _ _ => OldDuplicate { c with simTime } tcpseg
  | .actions .. => False

instance (c : TCPReceiver κ μ) (e : Event) : Decidable (e.Old c) :=
  match e with
  | .segment simTime tcpseg _ _ =>
    inferInstanceAs (Decidable (OldDuplicate { c with simTime } tcpseg))
  | .actions .. => inferInstanceAs (Decidable False)

/-- The other tests let the text of the segment into the receive queue. -/
def Stores (c : TCPReceiver κ μ) : Event → Prop
  | .segment simTime tcpseg _ _ => StoresText { c with simTime } tcpseg
  | .actions .. => False

end Event

theorem TsAdvances.step {e : Event} (hts : c.TsAdvances) (h : c.step e = .ok c') :
    c'.TsAdvances := by
  cases e with
  | segment simTime tcpseg r rounds =>
    obtain ⟨⟨event, c1⟩, h1, h⟩ := bind_eq_ok.1 h
    cases h
    have htime : TsAdvances { c with simTime } := { hts with }
    suffices hc1 : c1.TsAdvances from { hc1 with }
    rw [processRcvSegment] at h1
    split_ifs at h1
    · exact htime.processSegmentInListen h1
    · exact htime.processSegmentInSynSent h1
    · exact (processSegment1stThru8th_spec h1).1 htime
  | actions simTime as event =>
    obtain ⟨c1, h1, h⟩ := bind_eq_ok.1 h
    cases h
    have htime : TsAdvances { c with simTime } := { hts with }
    exact { htime.congr (Frame.acts h1).sameTs with }

theorem step_stored_iff {e : Event} (hold : e.Old c) (h : c.step e = .ok c') :
    c'.stored = c.stored ↔ ¬ e.Stores c := by
  cases e with
  | segment simTime tcpseg r rounds =>
    obtain ⟨⟨event, c1⟩, h1, h⟩ := bind_eq_ok.1 h
    cases h
    have hsync := hold.synchronized
    rw [Synchronized] at hsync
    have hlisten : c.fsm ≠ .listen := by
      intro heq
      simp [heq] at hsync
    have hsent : c.fsm ≠ .synSent := by
      intro heq
      simp [heq] at hsync
    rw [processRcvSegment, if_neg hlisten, if_neg hsent] at h1
    exact (processSegment1stThru8th_spec h1).2 hold
  | actions simTime as event => exact hold.elim

/-- In a run the texts of old segments stay out of the receive queue if and only if no old segment
arrives that passes the other tests.  `ts_recent` never moves backwards. -/
theorem paws_iff {par : Par} {q : κ} {es : List Event} {c : TCPReceiver κ μ}
    (hrun : Run step Admits (new par q) es c) :
    ((∀ es₁ e c₁ c₂, es₁ ++ [e] <+: es → Run step Admits (new par q) es₁ c₁ →
        step c₁ e = .ok c₂ → e.Old c₁ → c₂.stored = c₁.stored) ↔
      Run step (fun c e => Admits c e ∧ (e.Old c → ¬ e.Stores c)) (new par q) es c) ∧
    c.tsRecents.getLast? = some c.tsRecent ∧
    c.tsRecents.IsChain fun x y => seqLess y x = false := by
  refine ⟨hrun.steps_iff (J := fun _ => True) (fun _ _ _ _ _ _ _ => trivial) ?_ trivial, ?_⟩
  · intro c e c' _ _ hstep
    exact ⟨fun hstored hold => (step_stored_iff hold hstep).1 (hstored hold),
      fun hnot hold => (step_stored_iff hold hstep).2 (hnot hold)⟩
  · have hnew : TsAdvances (new par q : TCPReceiver κ μ) := ⟨rfl, isChain_singleton _⟩
    have hts := hrun.invariant (fun _ _ _ hc _ hstep => hc.step hstep) hnew
    exact ⟨hts.last, hts.chain⟩

end Segments

/-! ### A connection with timestamps -/

/-- A connection that counts octets. -/
abbrev VirtualReceiver : Type := TCPReceiver (TCPVirtualDataRcvQueue VirtualRegion) ℕ

/-- The connection uses timestamps. -/
def sample : VirtualReceiver :=
  new { advertisedWindow := 14336, timestampSupport := true } (TCPReceiveQueue.new 0)

/-- A segment with a TS option. -/
def sampleSegment (sequenceNo ackNo tsval : SeqNo) (payloadLength : ℕ) : TCPSegment :=
  { sequenceNo, ackNo, ackBit := true, payloadLength, headerLength := 32
    options := [.nop, .nop, ⟨TCPOption.timestamp, 10, [tsval, 0]⟩] }

/-- The peer opens the connection; its clock shows 500 at the end of the handshake. -/
def sampleHandshake : List Event :=
  [.actions 0 [] .openPassive,
    .segment 0 { sampleSegment 1000 0 400 0 with ackBit := false, synBit := true } {} 2,
    .segment 0 (sampleSegment 1001 1 500 0) {} 2]

theorem paws_iff_handshake : ∃ c,
    Run step Admits sample sampleHandshake c ∧ c.tsRecents = [0, 500] ∧
    (∀ es₁ e c₁ c₂, es₁ ++ [e] <+: sampleHandshake → Run step Admits sample es₁ c₁ →
        step c₁ e = .ok c₂ → e.Old c₁ → c₂.stored = c₁.stored) ∧
    c.tsRecents.IsChain fun x y => seqLess y x = false := by
  obtain ⟨c, hrun, hc⟩ := exists_run_of_exec (f := fun c : VirtualReceiver => c.tsRecents)
    (by decide +kernel : (exec step (fun c e => Admits c e ∧ ¬ e.Old c) sample
      sampleHandshake).map (fun c : VirtualReceiver => c.tsRecents) = some [0, 500])
  have hall := hrun.mono (Q := Admits) fun _ _ h => h.1
  have hiff := paws_iff hall
  exact ⟨c, hall, hc, hiff.1.2 (hrun.mono fun _ _ h => ⟨h.1, fun hold => absurd hold h.2⟩),
    hiff.2.2⟩

/-- Ten octets whose TSval is 200 are stored, although `ts_recent` is 500. -/
theorem not_paws : ∃ e c₁ c₂, Run step Admits sample sampleHandshake c₁ ∧
    e = Event.segment 0 (sampleSegment 1001 1 200 10) {} 2 ∧ step c₁ e = .ok c₂ ∧
    c₁.tsRecent = 500 ∧ e.Old c₁ ∧ c₂.stored ≠ c₁.stored := by
  let e := Event.segment 0 (sampleSegment 1001 1 200 10) {} 2
  let look (c : VirtualReceiver) : SeqNo × Bool × Option Bool :=
    (c.tsRecent, decide (e.Old c),
      (c.step e).toOption.map fun c₂ : VirtualReceiver => decide (c₂.stored ≠ c.stored))
  obtain ⟨c₁, hrun, hc₁⟩ := exists_run_of_exec (f := look)
    (by decide +kernel : (exec step Admits sample sampleHandshake).map look =
      some (500, true, some true))
  simp only [look, Prod.mk.injEq, Option.map_eq_some_iff, decide_eq_true_eq] at hc₁
  obtain ⟨hts, hold, c₂, hc₂, hstored⟩ := hc₁
  cases hstep : step c₁ e with
  | error f =>
    rw [hstep] at hc₂
    cases hc₂
  | ok c =>
    rw [hstep] at hc₂
    cases hc₂
    exact ⟨e, c₁, c₂, hrun, rfl, hstep, hts, hold, hstored⟩

end TCPReceiver

end Hiwis
