import Hiwis.Sctp.SackChunk

/-!
# How much a SACK chunk reports

`createSack` reports everything that it has chosen when that fits into the allowed length.  When it
does not fit, no duplicates are reported, and the lists of blocks are shortened.

* `SCTP.copyGaps_spec` : the longest prefix that fits is copied;
* `SCTP.createSack_spec` : what the chunk reports, and when there is one;
* `SCTP.not_reports_what_fits` : a duplicate that would fit is not reported.
-/

namespace Hiwis

open List Bool Except

namespace SCTP

variable {g : SCTPGapList} {type : GapType} {compression : Bool} {space last : ℕ}

/-- The gap lists are in order, and not longer than their arrays. -/
structure GapListOk (g : SCTPGapList) : Prop where
  inOrder : ∀ type, inOrder g.cumAckTSN (g.blocks type) = true
  length_le : ∀ type, (g.blocks type).length ≤ maxGapCount

/-! ### The space that blocks take -/

/-- The number of bytes of compressed blocks that follow the TSN `last`. -/
def compressedLength : TSN → List GapBlock → ℕ
  | _, [] => 0
  | last, b :: bs =>
    compressedSize ((b.start - last).setWidth 16) +
      compressedSize ((b.stop - b.start).setWidth 16) + compressedLength b.stop bs

/-- The space that blocks take; compressed blocks are followed by a zero. -/
def gapsLength (compression : Bool) (last : TSN) (bs : List GapBlock) : ℕ :=
  if compression then compressedLength last bs + 1 else 4 * bs.length

/-- A longest prefix of a list of blocks that takes no more than the given space. -/
structure LongestFit (compression : Bool) (last : TSN) (space : ℕ) (bs pre : List GapBlock) :
    Prop where
  isPrefix : pre <+: bs
  le : gapsLength compression last pre ≤ space
  longest : ∀ pre', pre' <+: bs → gapsLength compression last pre' ≤ space →
    pre'.length ≤ pre.length

theorem compressedSize_le (value : BitVec 16) : compressedSize value ≤ 3 := by
  unfold compressedSize
  split_ifs <;> decide

theorem compressedLength_le (last : TSN) (bs : List GapBlock) :
    compressedLength last bs ≤ 6 * bs.length := by
  induction bs generalizing last with
  | nil => exact Nat.le_refl 0
  | cons b bs ih =>
    have h1 := compressedSize_le ((b.start - last).setWidth 16)
    have h2 := compressedSize_le ((b.stop - b.start).setWidth 16)
    have h3 := ih b.stop
    rw [compressedLength, length_cons]
    omega

theorem gapsLength_le (compression : Bool) (last : TSN) (bs : List GapBlock) :
    gapsLength compression last bs ≤ 6 * bs.length + 1 := by
  unfold gapsLength
  split_ifs
  · exact Nat.add_le_add_right (compressedLength_le last bs) 1
  · omega

theorem inOrder_of_prefix {bs bs' : List GapBlock} (hpre : bs' <+: bs) {last : TSN}
    (h : inOrder last bs = true) : inOrder last bs' = true := by
  induction bs generalizing bs' last with
  | nil => rwa [prefix_nil.1 hpre]
  | cons b bs ih =>
    rcases prefix_cons_iff.1 hpre with rfl | ⟨t, rfl, ht⟩
    · rfl
    · rw [inOrder, and_eq_true] at h ⊢
      exact ⟨h.1, ih ht h.2⟩

/-! ### Copying blocks -/

theorem writeCompressedValue_eq {bufferSize pos : ℕ} {value : BitVec 16}
    (h : pos + compressedSize value ≤ bufferSize) :
    writeCompressedValue bufferSize pos value = some (pos + compressedSize value) :=
  if_neg (Nat.not_lt.2 h)

/-- The blocks are written as long as they and a zero fit into the space. -/
theorem compressLoop_spec {bufferSize : ℕ} (space : ℕ) {last : TSN} {bs : List GapBlock} {pos n : ℕ}
    (horder : inOrder last bs = true) (hbuffer : pos + 6 * bs.length ≤ bufferSize) :
    ∃ pre, compressLoop bufferSize space last bs pos n =
        .ok (n + pre.length, pos + compressedLength last pre) ∧ pre <+: bs ∧
      (pre ≠ [] → pos + compressedLength last pre + 1 ≤ space) ∧
      ∀ pre', pre' <+: bs → pos + compressedLength last pre' + 1 ≤ space →
        pre'.length ≤ pre.length := by
  induction bs generalizing last pos n with
  | nil =>
    refine ⟨[], rfl, nil_prefix, absurd rfl, fun pre' hpre' _ => ?_⟩
    rw [prefix_nil.1 hpre']
  | cons b bs ih =>
    rw [inOrder, and_eq_true] at horder
    have h1 := compressedSize_le ((b.start - last).setWidth 16)
    have h2 := compressedSize_le ((b.stop - b.start).setWidth 16)
    rw [length_cons] at hbuffer
    unfold compressLoop
    rw [if_neg (by simpa using horder.1)]
    simp only
    rw [writeCompressedValue_eq (by omega), Option.bind_some, writeCompressedValue_eq (by omega)]
    simp only
    split_ifs with hspace
    · -- the first block does not fit, and so no longer prefix does
      refine ⟨[], rfl, nil_prefix, absurd rfl, fun pre' hpre' hfit => ?_⟩
      rcases prefix_cons_iff.1 hpre' with rfl | ⟨t, rfl, -⟩
      · exact Nat.le_refl 0
      · rw [compressedLength] at hfit
        omega
    · have hbuffer' : pos + compressedSize ((b.start - last).setWidth 16) +
          compressedSize ((b.stop - b.start).setWidth 16) + 6 * bs.length ≤ bufferSize := by
        omega
      obtain ⟨pre, heq, hpre, hfit, hlongest⟩ := ih (n := n + 1) horder.2 hbuffer'
      refine ⟨b :: pre, ?_, cons_prefix_cons.2 ⟨rfl, hpre⟩, fun _ => ?_, ?_⟩
      · rw [heq, compressedLength, length_cons]
        congr 2 <;> omega
      · rw [compressedLength]
        by_cases hnil : pre = []
        · subst hnil
          rw [compressedLength]
          omega
        · have := hfit hnil
          omega
      · intro pre' hpre' hfit'
        rcases prefix_cons_iff.1 hpre' with rfl | ⟨t, rfl, ht⟩
        · exact Nat.zero_le _
        · rw [compressedLength] at hfit'
          rw [length_cons, length_cons]
          exact Nat.succ_le_succ (hlongest t ht (by omega))

theorem compressGaps_spec (hg : GapListOk g) (type : GapType) (space : ℕ) :
    ∃ pre, compressGaps g type space =
        .ok (pre.length, gapsLength true g.cumAckTSN pre) ∧ pre <+: g.blocks type ∧
      (0 < space → gapsLength true g.cumAckTSN pre ≤ space) ∧
      ∀ pre', pre' <+: g.blocks type → gapsLength true g.cumAckTSN pre' ≤ space →
        pre'.length ≤ pre.length := by
  have hsize : 0 + 6 * (g.blocks type).length ≤ 1 + 6 * g.getNumGaps type := by
    unfold SCTPGapList.getNumGaps
    omega
  obtain ⟨pre, heq, hpre, hfit, hlongest⟩ :=
    compressLoop_spec space (n := 0) (hg.inOrder type) hsize
  refine ⟨pre, ?_, hpre, fun hspace => ?_, fun pre' hpre' hle => hlongest pre' hpre' ?_⟩
  · -- the zero at the end fits into the buffer
    have hle := compressedLength_le g.cumAckTSN pre
    have hlength := hpre.length_le
    have hone : compressedSize 0 = 1 := by decide
    unfold compressGaps
    simp only [heq, ok_bind]
    rw [writeCompressedValue_eq (by rw [hone]; omega), hone]
    simp [gapsLength]
  · unfold gapsLength
    rw [if_pos rfl]
    by_cases hnil : pre = []
    · subst hnil
      exact hspace
    · have := hfit hnil
      omega
  · unfold gapsLength at hle
    rw [if_pos rfl] at hle
    omega

/-- The longest prefix that fits into the space is copied; only compressed blocks always take some
space. -/
theorem copyGaps_spec (hg : GapListOk g) (type : GapType) (compression : Bool) (space : ℕ) :
    ∃ pre, copyGaps g type compression space =
        .ok (if compression then g.blocks type else pre, pre.length,
          gapsLength compression g.cumAckTSN pre) ∧ pre <+: g.blocks type ∧
      ((compression = true → 0 < space) →
        LongestFit compression g.cumAckTSN space (g.blocks type) pre) := by
  cases compression with
  | true =>
    obtain ⟨pre, heq, hpre, hfit, hlongest⟩ := compressGaps_spec hg type space
    refine ⟨pre, ?_, hpre, fun hspace => ⟨hpre, hfit (hspace rfl), hlongest⟩⟩
    have hall : (g.blocks type).take (g.getNumGaps type) = g.blocks type := take_length
    unfold copyGaps
    simp only [if_true, hall, hg.inOrder type, Bool.not_true, false_eq_true, if_false, heq]
    rfl
  | false =>
    have hpre : (g.blocks type).take (min (space / 4) (g.getNumGaps type)) <+: g.blocks type :=
      take_prefix _ _
    have hlength : ((g.blocks type).take (min (space / 4) (g.getNumGaps type))).length =
        min (space / 4) (g.getNumGaps type) := by
      rw [length_take]
      exact Nat.min_eq_left (Nat.min_le_right _ _)
    refine ⟨_, ?_, hpre, fun _ => ⟨hpre, ?_, fun pre' hpre' hle => ?_⟩⟩
    · unfold copyGaps gapsLength
      simp only [false_eq_true, if_false, inOrder_of_prefix hpre (hg.inOrder type),
        Bool.not_true, hlength]
    · simp only [gapsLength, false_eq_true, if_false, hlength]
      omega
    · simp only [gapsLength, false_eq_true, if_false] at hle
      have := hpre'.length_le
      rw [hlength]
      unfold SCTPGapList.getNumGaps
      omega

/-- Without a limit, all blocks are copied. -/
theorem copyGaps_noLimit (hg : GapListOk g) (type : GapType) (compression : Bool) :
    copyGaps g type compression noLimit =
      .ok (g.blocks type, g.getNumGaps type,
        gapsLength compression g.cumAckTSN (g.blocks type)) := by
  obtain ⟨pre, heq, hpre, hfit⟩ := copyGaps_spec hg type compression noLimit
  have hall : pre = g.blocks type := by
    refine hpre.eq_of_length_le ?_
    refine (hfit fun _ => by decide).longest _ (prefix_refl _) ?_
    have hle := gapsLength_le compression g.cumAckTSN (g.blocks type)
    have hlength := hg.length_le type
    unfold noLimit
    unfold maxGapCount at hlength
    omega
  rw [heq, hall, ite_self]
  rfl

variable {chunk : SCTPSackChunk} {copied : List GapBlock} {keys length : ℕ}

theorem copyToRGaps_eq (h : copyGaps g type compression space = .ok (copied, keys, length)) :
    copyToRGaps chunk g type compression space =
      .ok ({ chunk with
        gaps := copied, numGaps := .ofNat 16 copied.length
        nrGaps := if compression then setArraySize keys chunk.nrGaps else chunk.nrGaps },
        keys, length) := by
  unfold copyToRGaps
  simp only [h, ok_bind]
  split_ifs <;> rfl

theorem copyToNRGaps_eq (h : copyGaps g type compression space = .ok (copied, keys, length)) :
    copyToNRGaps chunk g type compression space =
      .ok ({ chunk with
        nrGaps := if compression then setArraySize keys copied else copied
        numNrGaps := .ofNat 16 copied.length }, keys, length) := by
  unfold copyToNRGaps
  simp only [h, ok_bind]
  split_ifs <;> rfl

theorem setArraySize_length (l : List GapBlock) : setArraySize l.length l = l := by
  simp [setArraySize]

theorem setArraySize_of_prefix {pre l : List GapBlock} (h : pre <+: l) :
    setArraySize pre.length l = pre := by
  unfold setArraySize
  rw [Nat.sub_eq_zero_of_le h.length_le, replicate_zero, append_nil]
  exact (prefix_iff_eq_take.1 h).symm

variable {b : GapBlock}

/-- The blocks of an array that has got another size, as far as it was filled before. -/
theorem mem_of_mem_take_setArraySize {size k : ℕ} {l : List GapBlock} (hk : k ≤ l.length)
    (hb : b ∈ (setArraySize size l).take k) : b ∈ l := by
  unfold setArraySize at hb
  by_cases hsize : size ≤ l.length
  · rw [Nat.sub_eq_zero_of_le hsize, replicate_zero, append_nil] at hb
    exact mem_of_mem_take (mem_of_mem_take hb)
  · rw [take_of_length_le (Nat.le_of_not_le hsize), take_append_of_le_length hk] at hb
    exact mem_of_mem_take hb

/-! ### The chunk with all blocks -/

namespace SackSettings

variable (cfg : SackSettings) (g : SCTPGapList)

/-- The type of the gap blocks that are chosen. -/
def chosenType : GapType :=
  if cfg.isOptimization1 g then .any
  else if cfg.nrSack then .revokable else .any

/-- The non-revokable gap blocks that are chosen. -/
def chosenNrGaps : List GapBlock :=
  if cfg.isOptimization1 g then g.nonRevokableGapList
  else if cfg.isOptimization2 g then g.combinedGapList
  else if cfg.nrSack then g.nonRevokableGapList else []

/-- The length of the header. -/
def headerLength : ℕ := if cfg.nrSack then cfg.nrHeaderLength g else 16

/-- The gap blocks are compressed before the chunk is shortened. -/
def compressesAll : Bool := cfg.nrSack && cfg.compression g

/-- The space of the non-revokable gap blocks that are chosen. -/
def chosenNrLength : ℕ :=
  if cfg.nrSack then gapsLength (cfg.compressesAll g) g.cumAckTSN (cfg.chosenNrGaps g) else 0

/-- The chunk with all blocks that are chosen. -/
def fullDraft (chunk : SCTPSackChunk) : SackDraft where
  chunk :=
    { chunk with
      gaps := g.blocks (cfg.chosenType g)
      numGaps := .ofNat 16 (g.getNumGaps (cfg.chosenType g))
      nrGaps := cfg.chosenNrGaps g
      numNrGaps := .ofNat 16 (cfg.chosenNrGaps g).length
      nrSubtractRGaps := cfg.isOptimization2 g && !cfg.isOptimization1 g }
  sackHeaderLength := cfg.headerLength g
  numRevokableGaps := g.getNumGaps (cfg.chosenType g)
  revokableGapsSpace := gapsLength (cfg.compressesAll g) g.cumAckTSN (g.blocks (cfg.chosenType g))
  numNonRevokableGaps := (cfg.chosenNrGaps g).length
  nonRevokableGapsSpace := cfg.chosenNrLength g

variable {cfg g}

theorem nrSack_of_isOptimization1 (h : cfg.isOptimization1 g = true) : cfg.nrSack = true := by
  unfold isOptimization1 at h
  exact (and_eq_true_iff.1 h).1

theorem nrSack_of_isOptimization2 (h : cfg.isOptimization2 g = true) : cfg.nrSack = true := by
  unfold isOptimization2 at h
  exact (and_eq_true_iff.1 (and_eq_true_iff.1 h).1).1

theorem fillNrSack_eq (hg : GapListOk g) (chunk : SCTPSackChunk) (typeR typeNR : GapType) :
    cfg.fillNrSack g chunk typeR typeNR = .ok
      { chunk := { chunk with
          gaps := g.blocks typeR, numGaps := .ofNat 16 (g.getNumGaps typeR)
          nrGaps := g.blocks typeNR, numNrGaps := .ofNat 16 (g.getNumGaps typeNR) }
        sackHeaderLength := cfg.nrHeaderLength g
        numRevokableGaps := g.getNumGaps typeR
        revokableGapsSpace := gapsLength (cfg.compression g) g.cumAckTSN (g.blocks typeR)
        numNonRevokableGaps := g.getNumGaps typeNR
        nonRevokableGapsSpace :=
          gapsLength (cfg.compression g) g.cumAckTSN (g.blocks typeNR) } := by
  unfold fillNrSack
  simp only [copyToRGaps_eq (copyGaps_noLimit hg typeR _),
    copyToNRGaps_eq (copyGaps_noLimit hg typeNR _), ok_bind, SCTPGapList.getNumGaps,
    setArraySize_length, ite_self]
  rfl

/-- All blocks that are chosen are copied. -/
theorem fillGaps_eq (hg : GapListOk g) (hchunk : chunk.nrGaps = [] ∧ chunk.numNrGaps = 0)
    (hsubtract : chunk.nrSubtractRGaps = false) :
    cfg.fillGaps g chunk = .ok (cfg.fullDraft g chunk) := by
  -- the fields that are not written are as in a new chunk
  cases chunk
  obtain ⟨rfl, rfl⟩ := hchunk
  subst hsubtract
  unfold fillGaps fullDraft chosenNrLength compressesAll chosenType chosenNrGaps headerLength
  by_cases h1 : cfg.isOptimization1 g = true
  · have hnr := nrSack_of_isOptimization1 h1
    simp only [h1, hnr, if_true, fillNrSack_eq hg, ok_bind, ne_eq, not_true_eq_false,
      if_false, Bool.true_and, Bool.not_true, Bool.and_false]
    rfl
  by_cases h2 : cfg.isOptimization2 g = true
  · have hnr := nrSack_of_isOptimization2 h2
    simp only [h1, h2, hnr, if_true, if_false, fillNrSack_eq hg, ok_bind, ne_eq,
      not_true_eq_false, Bool.true_and, Bool.not_false, Bool.and_self, false_eq_true]
    rfl
  by_cases hnr : cfg.nrSack = true
  · simp only [h1, h2, hnr, if_true, if_false, fillNrSack_eq hg, Bool.true_and, Bool.false_and,
      false_eq_true]
    rfl
  · simp only [h1, h2, hnr, if_false, copyToRGaps_eq (copyGaps_noLimit hg .any false),
      ok_bind, Bool.false_and, false_eq_true, length_nil]
    rfl

end SackSettings

theorem advertise_lists (cfg : SackSettings) (s : SackState) :
    (s.advertise cfg).2.gapList = s.gapList ∧ (s.advertise cfg).2.dupList = s.dupList := by
  have hmsg : (s.msgWindow cfg).2.gapList = s.gapList ∧
      (s.msgWindow cfg).2.dupList = s.dupList := by
    unfold SackState.msgWindow
    simp only
    split_ifs <;> exact ⟨rfl, rfl⟩
  unfold SackState.advertise
  simp only
  split_ifs <;> exact hmsg

theorem draft_eq (cfg : SackSettings) {s : SackState} (hg : GapListOk s.gapList) :
    ∃ (chunk : SCTPSackChunk) (s' : SackState), cfg.draft s =
        .ok (cfg.fullDraft s.gapList chunk, s') ∧ s'.gapList = s.gapList ∧
      s'.dupList = s.dupList ∧ chunk.dupTsns = [] := by
  obtain ⟨hgaps, hdups⟩ := advertise_lists cfg s
  obtain ⟨s1, hs1⟩ : ∃ s1 : SackState, s1 = { (s.advertise cfg).2 with
    outgoingSackSeqNum := (s.advertise cfg).2.outgoingSackSeqNum + 1 } := ⟨_, rfl⟩
  have hgaps1 : s1.gapList = s.gapList := by rw [hs1, ← hgaps]
  have hdups1 : s1.dupList = s.dupList := by rw [hs1, ← hdups]
  refine ⟨cfg.emptyChunk s1 (s.advertise cfg).1, s1, ?_, hgaps1, hdups1, rfl⟩
  have hfill : cfg.fillGaps (s.advertise cfg).2.gapList (cfg.emptyChunk s1 (s.advertise cfg).1) =
      .ok (cfg.fullDraft s.gapList (cfg.emptyChunk s1 (s.advertise cfg).1)) := by
    rw [hgaps]
    exact SackSettings.fillGaps_eq hg ⟨rfl, rfl⟩ rfl
  unfold SackSettings.draft
  simp only [← hs1, hfill, ok_bind]
  rfl

/-! ### What is reported -/

/-- The gap blocks that the chunk reports. -/
def SCTPSackChunk.reportedGaps (chunk : SCTPSackChunk) : List GapBlock :=
  chunk.gaps.take chunk.numGaps.toNat

/-- The non-revokable gap blocks that the chunk reports. -/
def SCTPSackChunk.reportedNrGaps (chunk : SCTPSackChunk) : List GapBlock :=
  chunk.nrGaps.take chunk.numNrGaps.toNat

/-- The number of blocks to which `gapReportLimit` limits a number of blocks. -/
def SackSettings.limited (cfg : SackSettings) (n : ℕ) : ℕ :=
  if cfg.gapReportLimit < 1000000 then min n cfg.gapReportLimit else n

/-- Every block that is reported is one of the gap list. -/
structure ReportsReceived (g : SCTPGapList) (chunk : SCTPSackChunk) : Prop where
  gaps : ∀ b ∈ chunk.reportedGaps, b ∈ g.combinedGapList ∨ b ∈ g.revokableGapList
  nrGaps : ∀ b ∈ chunk.reportedNrGaps, b ∈ g.combinedGapList ∨ b ∈ g.nonRevokableGapList

/-- What is known of a draft: its arrays hold blocks of the gap list. -/
structure SackDraft.Received (g : SCTPGapList) (d : SackDraft) : Prop where
  gaps : ∀ b ∈ d.chunk.gaps, b ∈ g.combinedGapList ∨ b ∈ g.revokableGapList
  nrGaps : ∀ k ≤ d.numNonRevokableGaps, ∀ b ∈ d.chunk.nrGaps.take k,
    b ∈ g.combinedGapList ∨ b ∈ g.nonRevokableGapList
  dupTsns : d.chunk.dupTsns = []

theorem toNat_ofNat_le (n : ℕ) : (BitVec.ofNat 16 n).toNat ≤ n := by
  rw [BitVec.toNat_ofNat]
  exact Nat.mod_le _ _

section Received

variable {cfg : SackSettings} {s s' : SackState} {d d' : SackDraft} {sackLength numDups : ℕ}

theorem received_fullDraft (cfg : SackSettings) (g : SCTPGapList)
    (hdups : chunk.dupTsns = []) : (cfg.fullDraft g chunk).Received g := by
  refine ⟨fun b hb => ?_, fun k _ b hb => ?_, hdups⟩
  · have hb : b ∈ g.blocks (cfg.chosenType g) := hb
    unfold SackSettings.chosenType at hb
    split_ifs at hb
    · exact .inl hb
    · exact .inr hb
    · exact .inl hb
  · have hb : b ∈ cfg.chosenNrGaps g := mem_of_mem_take hb
    unfold SackSettings.chosenNrGaps at hb
    split_ifs at hb
    · exact .inr hb
    · exact .inl hb
    · exact .inr hb
    · cases hb

/-- The chunk that is made of a draft. -/
theorem finish_spec (hd : d.Received s.gapList)
    (hnum : d.chunk.numNrGaps.toNat ≤ d.numNonRevokableGaps)
    (h : d.finish cfg s sackLength numDups = .ok (chunk, s')) :
    ReportsReceived s.gapList chunk ∧ chunk.byteLength = sackLength ∧
      chunk.dupTsns = s.dupList.take numDups := by
  unfold SackDraft.finish at h
  obtain ⟨chunk1, h1, h⟩ := bind_eq_ok.1 h
  -- the limit lowers the numbers of blocks
  have hlimit : chunk1.gaps = d.chunk.gaps ∧ chunk1.nrGaps = d.chunk.nrGaps ∧
      chunk1.numNrGaps.toNat ≤ d.numNonRevokableGaps ∧ chunk1.dupTsns = [] := by
    unfold SackDraft.applyLimit at h1
    split_ifs at h1
    · cases h1
      exact ⟨rfl, rfl, (toNat_ofNat_le _).trans (Nat.min_le_left _ _), hd.dupTsns⟩
    · cases h1
      exact ⟨rfl, rfl, hnum, hd.dupTsns⟩
  obtain ⟨hgaps, hnrGaps, hle, hdups⟩ := hlimit
  have hreports : ∀ chunk2 : SCTPSackChunk, chunk2.gaps = chunk1.gaps →
      chunk2.nrGaps = chunk1.nrGaps → chunk2.numNrGaps = chunk1.numNrGaps →
      ReportsReceived s.gapList chunk2 := by
    intro chunk2 h2 h3 h4
    refine ⟨fun b hb => hd.gaps b ?_, fun b hb => hd.nrGaps _ hle b ?_⟩
    · rw [← hgaps, ← h2]
      exact mem_of_mem_take hb
    · rw [← hnrGaps, ← h3, ← h4]
      exact hb
  simp only at h
  split_ifs at h with hpos
  · cases h
    exact ⟨hreports _ rfl rfl rfl, rfl, rfl⟩
  · cases h
    refine ⟨hreports _ rfl rfl rfl, rfl, ?_⟩
    rw [Nat.eq_zero_of_not_pos hpos, take_zero]
    exact hdups

end Received

/-! ### The shortened chunk -/

/-- The draft after `copyToRGaps` has written the prefix `pre` of the blocks `all`. -/
def SackDraft.withRGaps (d : SackDraft) (compression : Bool) (last : TSN)
    (all pre : List GapBlock) : SackDraft :=
  let copied := if compression then all else pre
  { d with
    chunk := { d.chunk with
      gaps := copied, numGaps := .ofNat 16 copied.length
      nrGaps := if compression then setArraySize pre.length d.chunk.nrGaps else d.chunk.nrGaps }
    numRevokableGaps := pre.length
    revokableGapsSpace := gapsLength compression last pre }

/-- The draft after `copyToNRGaps` has written the prefix `pre` of the blocks `all`. -/
def SackDraft.withNrGaps (d : SackDraft) (compression : Bool) (last : TSN)
    (all pre : List GapBlock) : SackDraft :=
  let copied := if compression then all else pre
  { d with
    chunk := { d.chunk with nrGaps := pre, numNrGaps := .ofNat 16 copied.length }
    numNonRevokableGaps := pre.length
    nonRevokableGapsSpace := gapsLength compression last pre }

/-- The duplicates and the optimization are dropped. -/
def SackDraft.withoutSubtraction (d : SackDraft) : SackDraft :=
  { d with chunk := { d.chunk with nrSubtractRGaps := false } }

section Shorten

variable {cfg : SackSettings} {s s' : SackState} {d d' : SackDraft} {sackLength allowed : ℕ}

theorem copyToRGaps_spec (hg : GapListOk g) (d : SackDraft) (type : GapType) (compression : Bool)
    (space : ℕ) :
    ∃ pre, copyToRGaps d.chunk g type compression space =
        .ok ((d.withRGaps compression g.cumAckTSN (g.blocks type) pre).chunk, pre.length,
          gapsLength compression g.cumAckTSN pre) ∧
      pre <+: g.blocks type ∧
      ((compression = true → 0 < space) →
        LongestFit compression g.cumAckTSN space (g.blocks type) pre) := by
  obtain ⟨pre, heq, hpre, hfit⟩ := copyGaps_spec hg type compression space
  exact ⟨pre, copyToRGaps_eq heq, hpre, hfit⟩

theorem copyToNRGaps_spec (hg : GapListOk g) (d : SackDraft) (type : GapType) (compression : Bool)
    (space : ℕ) :
    ∃ pre, copyToNRGaps d.chunk g type compression space =
        .ok ((d.withNrGaps compression g.cumAckTSN (g.blocks type) pre).chunk, pre.length,
          gapsLength compression g.cumAckTSN pre) ∧
      pre <+: g.blocks type ∧
      ((compression = true → 0 < space) →
        LongestFit compression g.cumAckTSN space (g.blocks type) pre) := by
  obtain ⟨pre, heq, hpre, hfit⟩ := copyGaps_spec hg type compression space
  refine ⟨pre, ?_, hpre, hfit⟩
  rw [copyToNRGaps_eq heq]
  cases compression with
  | true =>
    simp only [if_true, setArraySize_of_prefix hpre]
    rfl
  | false => rfl

theorem shortenRGaps_spec (hg : GapListOk g) (d : SackDraft) (compression : Bool) (allowed : ℕ) :
    ∃ pre, d.shortenRGaps g compression allowed =
        .ok (d.withoutSubtraction.withRGaps compression g.cumAckTSN
          (g.blocks (SackDraft.shortenedType g)) pre) ∧
      pre <+: g.blocks (SackDraft.shortenedType g) ∧
      ((compression = true → 0 < SackDraft.sizeSub allowed d.sackHeaderLength) →
        LongestFit compression g.cumAckTSN (SackDraft.sizeSub allowed d.sackHeaderLength)
          (g.blocks (SackDraft.shortenedType g)) pre) := by
  obtain ⟨pre, heq, hpre, hfit⟩ := copyToRGaps_spec hg d.withoutSubtraction
    (SackDraft.shortenedType g) compression (SackDraft.sizeSub allowed d.sackHeaderLength)
  refine ⟨pre, ?_, hpre, hfit⟩
  have heq' : copyToRGaps { d.chunk with nrSubtractRGaps := false } g (SackDraft.shortenedType g)
      compression (SackDraft.sizeSub allowed d.sackHeaderLength) = _ := heq
  unfold SackDraft.shortenRGaps
  simp only [heq', ok_bind]
  rfl

theorem mem_of_shortenedType (hb : b ∈ g.blocks (SackDraft.shortenedType g)) :
    b ∈ g.combinedGapList ∨ b ∈ g.revokableGapList := by
  unfold SackDraft.shortenedType at hb
  split_ifs at hb
  · exact .inl hb
  · exact .inr hb

theorem mem_gaps_withRGaps {all pre : List GapBlock} {last : TSN} (hpre : pre <+: all)
    (hb : b ∈ (d.withRGaps compression last all pre).chunk.gaps) : b ∈ all := by
  unfold SackDraft.withRGaps at hb
  simp only at hb
  split_ifs at hb
  · exact hb
  · exact hpre.subset hb

theorem SackDraft.Received.withRGaps (hd : d.Received g) {all pre : List GapBlock}
    (hpre : pre <+: all)
    (hall : ∀ b ∈ all, b ∈ g.combinedGapList ∨ b ∈ g.revokableGapList)
    (hnr : compression = true →
      d.chunk.nrGaps.length = d.numNonRevokableGaps ∨ d.numNonRevokableGaps = 0) (last : TSN) :
    (d.withRGaps compression last all pre).Received g := by
  refine ⟨fun b hb => hall b (mem_gaps_withRGaps hpre hb), fun k hk b hb => ?_, hd.dupTsns⟩
  have hk : k ≤ d.numNonRevokableGaps := hk
  unfold SackDraft.withRGaps at hb
  simp only at hb
  split_ifs at hb with hc
  · rcases hnr hc with hlength | hzero
    · have hmem := mem_of_mem_take_setArraySize (hk.trans hlength.ge) hb
      refine hd.nrGaps _ (Nat.le_refl _) b ?_
      rwa [← hlength, take_length]
    · rw [hzero] at hk
      rw [Nat.le_zero.1 hk, take_zero] at hb
      cases hb
  · exact hd.nrGaps k hk b hb

variable {pre : List GapBlock}

theorem received_withNrGaps (hpre : pre <+: g.nonRevokableGapList)
    (hgaps : ∀ b ∈ d.chunk.gaps, b ∈ g.combinedGapList ∨ b ∈ g.revokableGapList)
    (hdups : d.chunk.dupTsns = []) (compression : Bool) (last : TSN) :
    (d.withNrGaps compression last g.nonRevokableGapList pre).Received g :=
  ⟨hgaps, fun _ _ _ hb => .inr (hpre.subset (mem_of_mem_take hb)), hdups⟩

theorem headerLength_le (cfg : SackSettings) (g : SCTPGapList) :
    16 ≤ cfg.headerLength g ∧ cfg.headerLength g ≤ 20 := by
  unfold SackSettings.headerLength SackSettings.nrHeaderLength sctpCompressedNrSackChunkLength
    sctpNrSackChunkLength
  split_ifs <;> decide

theorem chosenNrGaps_length_le (hg : GapListOk g) (cfg : SackSettings) :
    (cfg.chosenNrGaps g).length ≤ maxGapCount := by
  unfold SackSettings.chosenNrGaps
  split_ifs
  · exact hg.length_le .nonRevokable
  · exact hg.length_le .any
  · exact hg.length_le .nonRevokable
  · exact Nat.zero_le _

theorem chosenNrLength_le (hg : GapListOk g) (cfg : SackSettings) :
    cfg.chosenNrLength g ≤ 6 * maxGapCount + 1 := by
  have hlength := chosenNrGaps_length_le hg cfg
  unfold SackSettings.chosenNrLength
  split_ifs
  · have := gapsLength_le (cfg.compressesAll g) g.cumAckTSN (cfg.chosenNrGaps g)
    omega
  · exact Nat.zero_le _

theorem gapsLength_prefix_le (hg : GapListOk g) (hpre : pre <+: g.blocks type)
    (compression : Bool) : gapsLength compression g.cumAckTSN pre ≤ 6 * maxGapCount + 1 := by
  have h1 := gapsLength_le compression g.cumAckTSN pre
  have h2 := hpre.length_le
  have h3 := hg.length_le type
  omega

/-- The sizes of the parts are too small for an overflow. -/
theorem sackLength_zero (hheader : d.sackHeaderLength ≤ 20)
    (hr : d.revokableGapsSpace ≤ 6 * maxGapCount + 1)
    (hnr : d.nonRevokableGapsSpace ≤ 6 * maxGapCount + 1) :
    d.sackLength 0 = d.sackHeaderLength + d.revokableGapsSpace + d.nonRevokableGapsSpace := by
  unfold SackDraft.sackLength maxGapCount at *
  omega

/-- The draft with the revokable blocks limited to the allowed length. -/
def limitedDraft (cfg : SackSettings) (g : SCTPGapList) (chunk : SCTPSackChunk)
    (pre : List GapBlock) : SackDraft :=
  (cfg.fullDraft g chunk).withoutSubtraction.withRGaps (cfg.compression g) g.cumAckTSN
    (g.blocks (SackDraft.shortenedType g)) pre

theorem received_limitedDraft (cfg : SackSettings) (hdups : chunk.dupTsns = [])
    (hpre : pre <+: g.blocks (SackDraft.shortenedType g)) :
    (limitedDraft cfg g chunk pre).Received g := by
  have hfull := received_fullDraft cfg g hdups
  have hd : (cfg.fullDraft g chunk).withoutSubtraction.Received g :=
    ⟨hfull.gaps, hfull.nrGaps, hfull.dupTsns⟩
  exact hd.withRGaps hpre (fun b hb => mem_of_shortenedType hb) (fun _ => .inl rfl) _

theorem sackLength_limitedDraft (hg : GapListOk g)
    (hpre : pre <+: g.blocks (SackDraft.shortenedType g)) :
    (limitedDraft cfg g chunk pre).sackLength 0 = cfg.headerLength g +
      gapsLength (cfg.compression g) g.cumAckTSN pre + cfg.chosenNrLength g :=
  sackLength_zero (headerLength_le cfg g).2 (gapsLength_prefix_le hg hpre _)
    (chosenNrLength_le hg cfg)

/-- When no space is left for non-revokable blocks, there are none in a chunk that fits. -/
theorem chosenNrGaps_eq_nil (hc : cfg.compression g = true)
    (h : cfg.headerLength g + gapsLength true g.cumAckTSN copied + cfg.chosenNrLength g ≤ allowed)
    (hroom : allowed ≤ cfg.headerLength g + gapsLength true g.cumAckTSN copied) :
    (cfg.chosenNrGaps g).length = 0 := by
  by_cases hnr : cfg.nrSack = true
  · -- a compressed list takes at least one byte
    exfalso
    have hlength : cfg.chosenNrLength g =
        compressedLength g.cumAckTSN (cfg.chosenNrGaps g) + 1 := by
      simp [SackSettings.chosenNrLength, SackSettings.compressesAll, gapsLength, hnr, hc]
    omega
  · unfold SackSettings.chosenNrGaps
    rw [if_neg (mt SackSettings.nrSack_of_isOptimization1 hnr),
      if_neg (mt SackSettings.nrSack_of_isOptimization2 hnr), if_neg hnr]
    rfl

section

variable (hg : GapListOk g) (hdups : chunk.dupTsns = [])
include hg hdups

theorem received_shortenSmart (hpre : pre <+: g.blocks (SackDraft.shortenedType g))
    (h : (limitedDraft cfg g chunk pre).shortenSmart g (cfg.compression g) allowed =
      .ok (d', sackLength)) (hle : sackLength ≤ allowed) : d'.Received g := by
  have hd := received_limitedDraft cfg hdups hpre
  unfold SackDraft.shortenSmart at h
  split_ifs at h with hroom
  · obtain ⟨pre', heq, hpre', -⟩ := copyToNRGaps_spec hg (limitedDraft cfg g chunk pre)
      .nonRevokable (cfg.compression g) (allowed - (limitedDraft cfg g chunk pre).sackHeaderLength -
        (limitedDraft cfg g chunk pre).revokableGapsSpace)
    rw [heq, ok_bind] at h
    cases h
    exact received_withNrGaps hpre' hd.gaps hd.dupTsns (cfg.compression g) g.cumAckTSN
  · obtain ⟨pre', heq, hpre', -⟩ := copyToRGaps_spec hg (limitedDraft cfg g chunk pre) .any
      (cfg.compression g) (limitedDraft cfg g chunk pre).revokableGapsSpace
    rw [heq, ok_bind] at h
    cases h
    rw [sackLength_limitedDraft hg hpre] at hle
    have hroom : allowed ≤ cfg.headerLength g + gapsLength (cfg.compression g) g.cumAckTSN pre :=
      Nat.le_of_not_lt hroom
    have hnil : cfg.compression g = true → (cfg.chosenNrGaps g).length = 0 :=
      fun hc => chosenNrGaps_eq_nil hc (hc ▸ hle) (hc ▸ hroom)
    have hd' := hd.withRGaps hpre' (fun b hb => .inl hb) (fun hc => .inr (hnil hc)) g.cumAckTSN
    exact ⟨hd'.gaps, hd'.nrGaps, hd'.dupTsns⟩

theorem received_shortenBoth (hpre : pre <+: g.blocks (SackDraft.shortenedType g))
    (h : (limitedDraft cfg g chunk pre).shortenBoth g (cfg.compression g) allowed =
      .ok (d', sackLength)) : d'.Received g := by
  have hd := received_limitedDraft cfg hdups hpre
  unfold SackDraft.shortenBoth at h
  split_ifs at h
  · obtain ⟨⟨chunk1, n1, space1⟩, h1, h⟩ := bind_eq_ok.1 h
    obtain ⟨pre', heq, hpre', -⟩ := copyToRGaps_spec hg (limitedDraft cfg g chunk pre) .revokable
      (cfg.compression g) _
    rw [heq] at h1
    cases h1
    obtain ⟨⟨chunk2, n2, space2⟩, h2, h⟩ := bind_eq_ok.1 h
    obtain ⟨pre'', heq', hpre'', -⟩ := copyToNRGaps_spec hg
      ((limitedDraft cfg g chunk pre).withRGaps (cfg.compression g) g.cumAckTSN
        (g.blocks .revokable) pre') .nonRevokable (cfg.compression g) _
    rw [heq'] at h2
    cases h2
    cases h
    exact received_withNrGaps hpre'' (fun b hb => .inr (mem_gaps_withRGaps hpre' hb)) hd.dupTsns
      (cfg.compression g) g.cumAckTSN
  · cases h
    exact hd

/-- A chunk that is shortened holds blocks of the gap list, and is not too long. -/
theorem received_shorten (h : (cfg.fullDraft g chunk).shorten cfg g = .ok (d', sackLength)) :
    d'.Received g ∧ d'.chunk.numNrGaps.toNat ≤ d'.numNonRevokableGaps ∧
      sackLength ≤ cfg.allowedLength := by
  unfold SackDraft.shorten at h
  obtain ⟨pre, heq, hpre, -⟩ :=
    shortenRGaps_spec hg (cfg.fullDraft g chunk) (cfg.compression g) cfg.allowedLength
  rw [heq, ok_bind] at h
  obtain ⟨⟨d2, length⟩, h2, h⟩ := bind_eq_ok.1 h
  simp only at h
  split_ifs at h with hlength
  cases h
  have hle := Nat.le_of_not_lt hlength
  have hd2 : d2.Received g := by
    unfold SackDraft.shortenLists at h2
    split_ifs at h2
    · exact received_shortenSmart hg hdups hpre h2 hle
    · exact received_shortenBoth hg hdups hpre h2
  exact ⟨⟨hd2.gaps, hd2.nrGaps, hd2.dupTsns⟩, toNat_ofNat_le _, hle⟩

end

/-! ### Chunks that are returned -/

theorem limited_le (cfg : SackSettings) (n : ℕ) : cfg.limited n ≤ n := by
  unfold SackSettings.limited
  split_ifs
  · exact Nat.min_le_left _ _
  · exact Nat.le_refl n

theorem toNat_limited (cfg : SackSettings) {n : ℕ} (hn : n ≤ maxGapCount) :
    (BitVec.ofNat 16 (cfg.limited n)).toNat = cfg.limited n := by
  have hle := limited_le cfg n
  unfold maxGapCount at hn
  rw [BitVec.toNat_ofNat]
  exact Nat.mod_eq_of_lt (by omega)

/-- A chunk is made of a draft whose numbers of blocks are known, unless compressed blocks are to be
limited. -/
theorem exists_finish (hnumR : d.chunk.numGaps = .ofNat 16 d.numRevokableGaps)
    (hnumNR : d.chunk.numNrGaps = .ofNat 16 d.numNonRevokableGaps)
    (hR : d.numRevokableGaps ≤ maxGapCount) (hNR : d.numNonRevokableGaps ≤ maxGapCount)
    (hlimit : 1000000 ≤ cfg.gapReportLimit ∨ cfg.compression s.gapList = false)
    (sackLength numDups : ℕ) :
    ∃ chunk s', d.finish cfg s sackLength numDups = .ok (chunk, s') ∧
      chunk.reportedGaps = d.chunk.gaps.take (cfg.limited d.numRevokableGaps) ∧
      chunk.reportedNrGaps = d.chunk.nrGaps.take (cfg.limited d.numNonRevokableGaps) := by
  obtain ⟨chunk1, h1, hgaps, hnrGaps, hnum, hnrNum⟩ : ∃ chunk1,
      d.applyLimit cfg s.gapList = .ok chunk1 ∧ chunk1.gaps = d.chunk.gaps ∧
      chunk1.nrGaps = d.chunk.nrGaps ∧
      chunk1.numGaps.toNat = cfg.limited d.numRevokableGaps ∧
      chunk1.numNrGaps.toNat = cfg.limited d.numNonRevokableGaps := by
    have hnum := toNat_limited cfg hR
    have hnrNum := toNat_limited cfg hNR
    unfold SackDraft.applyLimit
    unfold SackSettings.limited at hnum hnrNum ⊢
    by_cases hlow : cfg.gapReportLimit < 1000000
    · have hc : cfg.compression s.gapList = false := hlimit.resolve_left (Nat.not_le.2 hlow)
      simp only [if_pos hlow, hc, false_eq_true, if_false] at hnum hnrNum ⊢
      exact ⟨_, rfl, rfl, rfl, hnum, hnrNum⟩
    · simp only [if_neg hlow] at hnum hnrNum ⊢
      exact ⟨_, rfl, rfl, rfl, hnumR ▸ hnum, hnumNR ▸ hnrNum⟩
  have hreports : ∀ chunk2 : SCTPSackChunk, chunk2.gaps = chunk1.gaps →
      chunk2.nrGaps = chunk1.nrGaps → chunk2.numGaps = chunk1.numGaps →
      chunk2.numNrGaps = chunk1.numNrGaps →
      chunk2.reportedGaps = d.chunk.gaps.take (cfg.limited d.numRevokableGaps) ∧
        chunk2.reportedNrGaps = d.chunk.nrGaps.take (cfg.limited d.numNonRevokableGaps) := by
    intro chunk2 h2 h3 h4 h5
    unfold SCTPSackChunk.reportedGaps SCTPSackChunk.reportedNrGaps
    rw [h2, h3, h4, h5, hgaps, hnrGaps, hnum, hnrNum]
    exact ⟨rfl, rfl⟩
  unfold SackDraft.finish
  simp only [h1, ok_bind]
  split_ifs
  · exact ⟨_, _, rfl, hreports _ rfl rfl rfl rfl⟩
  · exact ⟨_, _, rfl, hreports _ rfl rfl rfl rfl⟩

/-- The length of the chunk with all blocks and duplicates, as a number of 32 bits. -/
def SackSettings.fullLength (cfg : SackSettings) (s : SackState) : ℕ :=
  (cfg.headerLength s.gapList +
    gapsLength (cfg.compressesAll s.gapList) s.gapList.cumAckTSN
      (s.gapList.blocks (cfg.chosenType s.gapList)) +
    cfg.chosenNrLength s.gapList + s.dupList.length % 2 ^ 32 * 4) % 2 ^ 32

/-- What `createSack` does with the draft. -/
theorem createSack_eq (cfg : SackSettings) {s : SackState} (hg : GapListOk s.gapList) :
    ∃ (chunk : SCTPSackChunk) (s1 : SackState), s1.gapList = s.gapList ∧ s1.dupList = s.dupList ∧
      chunk.dupTsns = [] ∧
      createSack cfg s =
        if cfg.allowedLength < cfg.fullLength s then do
          let (d, sackLength) ← (cfg.fullDraft s.gapList chunk).shorten cfg s.gapList
          d.finish cfg s1 sackLength 0
        else
          (cfg.fullDraft s.gapList chunk).finish cfg s1 (cfg.fullLength s)
            (s.dupList.length % 2 ^ 32) := by
  obtain ⟨chunk, s1, hdraft, hgaps, hdups, hchunk⟩ := draft_eq cfg hg
  refine ⟨chunk, s1, hgaps, hdups, hchunk, ?_⟩
  have hlength : (cfg.fullDraft s.gapList chunk).sackLength (s.dupList.length % 2 ^ 32) =
      cfg.fullLength s := rfl
  unfold createSack
  simp only [hdraft, ok_bind, hgaps, hdups, hlength]

/-- All blocks that are chosen and all duplicates are reported, as far as the blocks are not
limited. -/
structure IsComplete (cfg : SackSettings) (s : SackState) (chunk : SCTPSackChunk) : Prop where
  gaps : chunk.reportedGaps = (s.gapList.blocks (cfg.chosenType s.gapList)).take
    (cfg.limited (s.gapList.getNumGaps (cfg.chosenType s.gapList)))
  nrGaps : chunk.reportedNrGaps = (cfg.chosenNrGaps s.gapList).take
    (cfg.limited (cfg.chosenNrGaps s.gapList).length)
  dupTsns : chunk.dupTsns = s.dupList.take (s.dupList.length % 2 ^ 32)
  byteLength : chunk.byteLength = cfg.fullLength s

theorem exists_createSack_of_le (hg : GapListOk s.gapList)
    (hlimit : 1000000 ≤ cfg.gapReportLimit ∨ cfg.compression s.gapList = false)
    (hle : cfg.fullLength s ≤ cfg.allowedLength) :
    ∃ chunk s', createSack cfg s = .ok (chunk, s') ∧ IsComplete cfg s chunk := by
  obtain ⟨chunk0, s1, hgaps, hdups, hchunk, heq⟩ := createSack_eq cfg hg
  rw [if_neg (Nat.not_lt.2 hle)] at heq
  rw [← hgaps] at hlimit
  obtain ⟨chunk, s', hfinish, hR, hNR⟩ := exists_finish
    (d := cfg.fullDraft s.gapList chunk0) rfl rfl
    (hg.length_le _) (chosenNrGaps_length_le hg cfg) hlimit (cfg.fullLength s)
    (s.dupList.length % 2 ^ 32)
  have hreceived := received_fullDraft cfg s.gapList hchunk
  obtain ⟨-, hlength, hdupTsns⟩ := finish_spec (hgaps ▸ hreceived) (toNat_ofNat_le _) hfinish
  rw [hdups] at hdupTsns
  exact ⟨chunk, s', heq.trans hfinish, hR, hNR, hdupTsns, hlength⟩

/-- What is returned when not everything fits: blocks of the gap list, and no duplicates. -/
theorem createSack_received (hg : GapListOk s.gapList) (h : createSack cfg s = .ok (chunk, s')) :
    ReportsReceived s.gapList chunk ∧ chunk.byteLength ≤ cfg.allowedLength ∧
      (cfg.allowedLength < cfg.fullLength s → chunk.dupTsns = []) := by
  obtain ⟨chunk0, s1, hgaps, hdups, hchunk, heq⟩ := createSack_eq cfg hg
  rw [heq] at h
  split_ifs at h with hfull
  · obtain ⟨⟨d, sackLength⟩, hshorten, hfinish⟩ := bind_eq_ok.1 h
    obtain ⟨hd, hnum, hle⟩ := received_shorten hg hchunk hshorten
    rw [← hgaps] at hd ⊢
    obtain ⟨hreports, hlength, hdupTsns⟩ := finish_spec hd hnum hfinish
    exact ⟨hreports, hlength.trans_le hle, fun _ => hdupTsns⟩
  · have hreceived := received_fullDraft cfg s.gapList hchunk
    obtain ⟨hreports, hlength, -⟩ := finish_spec (hgaps ▸ hreceived) (toNat_ofNat_le _) h
    exact ⟨hgaps ▸ hreports, hlength.trans_le (Nat.le_of_not_lt hfull), fun h => absurd h hfull⟩

/-- The revokable blocks are those that fit, the non-revokable ones those that fit into what is
left, and there are no duplicates. -/
structure IsFilledUp (cfg : SackSettings) (g : SCTPGapList) (pre pre' : List GapBlock)
    (chunk : SCTPSackChunk) : Prop where
  nrFit : LongestFit (cfg.compression g) g.cumAckTSN (cfg.allowedLength - cfg.headerLength g -
    gapsLength (cfg.compression g) g.cumAckTSN pre) g.nonRevokableGapList pre'
  gaps : chunk.reportedGaps = pre.take (cfg.limited pre.length)
  nrGaps : chunk.reportedNrGaps = pre'.take (cfg.limited pre'.length)
  dupTsns : chunk.dupTsns = []
  byteLength : chunk.byteLength = cfg.headerLength g +
    gapsLength (cfg.compression g) g.cumAckTSN pre + gapsLength (cfg.compression g) g.cumAckTSN pre'

theorem LongestFit.eq {bs pre pre' : List GapBlock} {last : TSN} {space : ℕ}
    (h : LongestFit compression last space bs pre)
    (h' : LongestFit compression last space bs pre') : pre = pre' := by
  have hle := h'.longest pre h.isPrefix h.le
  have hle' := h.longest pre' h'.isPrefix h'.le
  rw [prefix_iff_eq_take.1 h.isPrefix, prefix_iff_eq_take.1 h'.isPrefix, le_antisymm hle hle']

theorem take_eq_take {pre all : List GapBlock} (h : pre <+: all) {k : ℕ} (hk : k ≤ pre.length) :
    (if compression then all else pre).take k = pre.take k := by
  split_ifs
  · rw [prefix_iff_eq_take.1 h, take_take, Nat.min_eq_left hk]
  · rfl

theorem sizeSub_eq {a b : ℕ} (hb : b ≤ a) (ha : a < 2 ^ 64) : SackDraft.sizeSub a b = a - b := by
  unfold SackDraft.sizeSub
  omega

theorem allowedLength_lt (cfg : SackSettings) : cfg.allowedLength < 2 ^ 32 := BitVec.isLt _

/-- The draft with the numbers of its blocks written into the chunk. -/
def SackDraft.withNumbers (d : SackDraft) : SackDraft :=
  { d with
    chunk := { d.chunk with
      numGaps := .ofNat 16 d.numRevokableGaps, numNrGaps := .ofNat 16 d.numNonRevokableGaps } }

theorem shorten_eq {d0 : SackDraft} (hR : d0.shortenRGaps g (cfg.compression g) cfg.allowedLength =
      .ok d) (hlists : d.shortenLists cfg g = .ok (d', sackLength))
    (hle : sackLength ≤ cfg.allowedLength) :
    d0.shorten cfg g = .ok (d'.withNumbers, sackLength) := by
  unfold SackDraft.shorten
  simp only [hR, hlists, ok_bind, if_neg (Nat.not_lt.2 hle)]
  rfl

/-- The revokable blocks that fit into what the header leaves. -/
theorem shortenRGaps_of_lt (hg : GapListOk g) (chunk : SCTPSackChunk)
    (hfit : LongestFit (cfg.compression g) g.cumAckTSN
      (cfg.allowedLength - cfg.headerLength g) (g.blocks (SackDraft.shortenedType g)) pre)
    (hle : cfg.headerLength g ≤ cfg.allowedLength)
    (hlt : cfg.compression g = true → cfg.headerLength g < cfg.allowedLength) :
    (cfg.fullDraft g chunk).shortenRGaps g (cfg.compression g) cfg.allowedLength =
      .ok (limitedDraft cfg g chunk pre) := by
  have hallowed := allowedLength_lt cfg
  have hsub : SackDraft.sizeSub cfg.allowedLength (cfg.fullDraft g chunk).sackHeaderLength =
      cfg.allowedLength - cfg.headerLength g := sizeSub_eq hle (by omega)
  obtain ⟨pre1, hR, -, hfit1⟩ :=
    shortenRGaps_spec hg (cfg.fullDraft g chunk) (cfg.compression g) cfg.allowedLength
  rw [hsub] at hfit1
  obtain rfl := (hfit1 fun hc => Nat.sub_pos_of_lt (hlt hc)).eq hfit
  exact hR

/-- The non-revokable blocks fill up what the revokable ones leave. -/
theorem shortenSmart_eq (hg : GapListOk g) (chunk : SCTPSackChunk)
    (hpre : pre <+: g.blocks (SackDraft.shortenedType g))
    (hroom : cfg.headerLength g + gapsLength (cfg.compression g) g.cumAckTSN pre <
      cfg.allowedLength) :
    ∃ pre', (limitedDraft cfg g chunk pre).shortenSmart g (cfg.compression g) cfg.allowedLength =
        .ok ((limitedDraft cfg g chunk pre).withNrGaps (cfg.compression g) g.cumAckTSN
          g.nonRevokableGapList pre', cfg.headerLength g +
            gapsLength (cfg.compression g) g.cumAckTSN pre +
            gapsLength (cfg.compression g) g.cumAckTSN pre') ∧
      LongestFit (cfg.compression g) g.cumAckTSN (cfg.allowedLength - cfg.headerLength g -
        gapsLength (cfg.compression g) g.cumAckTSN pre) g.nonRevokableGapList pre' := by
  obtain ⟨d, hd⟩ : ∃ d, d = limitedDraft cfg g chunk pre := ⟨_, rfl⟩
  have hheader : d.sackHeaderLength = cfg.headerLength g := hd ▸ rfl
  have hspace : d.revokableGapsSpace = gapsLength (cfg.compression g) g.cumAckTSN pre := hd ▸ rfl
  obtain ⟨pre', heq, hpre', hfit⟩ := copyToNRGaps_spec hg d .nonRevokable (cfg.compression g)
    (cfg.allowedLength - d.sackHeaderLength - d.revokableGapsSpace)
  have hlength : (d.withNrGaps (cfg.compression g) g.cumAckTSN g.nonRevokableGapList
      pre').sackLength 0 = cfg.headerLength g + gapsLength (cfg.compression g) g.cumAckTSN pre +
        gapsLength (cfg.compression g) g.cumAckTSN pre' := by
    rw [sackLength_zero (d := d.withNrGaps _ _ _ _) (hheader.trans_le (headerLength_le cfg g).2)
      (hspace.trans_le (gapsLength_prefix_le hg hpre _)) (gapsLength_prefix_le hg hpre' _),
      ← hheader, ← hspace]
    rfl
  rw [← hd]
  refine ⟨pre', ?_, ?_⟩
  · unfold SackDraft.shortenSmart
    rw [if_pos (by omega), heq, ok_bind, ← hlength]
    rfl
  · rw [hheader, hspace] at hfit
    exact hfit fun _ => by omega

/-- A chunk with smart handling is returned when the revokable blocks leave some space. -/
theorem exists_createSack_of_smart (hg : GapListOk s.gapList)
    (hlimit : 1000000 ≤ cfg.gapReportLimit ∨ cfg.compression s.gapList = false)
    (hfull : cfg.allowedLength < cfg.fullLength s) (hsmart : cfg.smartOverfullSACKHandling = true)
    (hfit : LongestFit (cfg.compression s.gapList) s.gapList.cumAckTSN
      (cfg.allowedLength - cfg.headerLength s.gapList)
      (s.gapList.blocks (SackDraft.shortenedType s.gapList)) pre)
    (hroom : cfg.headerLength s.gapList +
      gapsLength (cfg.compression s.gapList) s.gapList.cumAckTSN pre < cfg.allowedLength) :
    ∃ chunk s' pre', createSack cfg s = .ok (chunk, s') ∧
      IsFilledUp cfg s.gapList pre pre' chunk := by
  obtain ⟨chunk0, s1, hgaps, -, hchunk, heq⟩ := createSack_eq cfg hg
  rw [if_pos hfull] at heq
  have hR := shortenRGaps_of_lt hg chunk0 hfit (by omega) fun _ => by omega
  obtain ⟨pre', hlists, hfit'⟩ := shortenSmart_eq hg chunk0 hfit.isPrefix hroom
  have hle := hfit'.le
  have hshorten := shorten_eq hR (by rwa [SackDraft.shortenLists, if_pos hsmart]) (by omega)
  rw [hshorten, ok_bind] at heq
  obtain ⟨hd, hnum, -⟩ := received_shorten hg hchunk hshorten
  rw [← hgaps] at hlimit
  have hlength := hfit.isPrefix.length_le.trans (hg.length_le _)
  have hlength' := hfit'.isPrefix.length_le.trans (hg.length_le .nonRevokable)
  obtain ⟨chunk, s', hfinish, hreportsR, hreportsNR⟩ := exists_finish
    (d := ((limitedDraft cfg s.gapList chunk0 pre).withNrGaps (cfg.compression s.gapList)
      s.gapList.cumAckTSN s.gapList.nonRevokableGapList pre').withNumbers)
    rfl rfl hlength hlength' hlimit _ 0
  obtain ⟨-, hbytes, hdups⟩ := finish_spec (hgaps ▸ hd) hnum hfinish
  refine ⟨chunk, s', pre', heq.trans hfinish, hfit', ?_, hreportsNR, hdups, hbytes⟩
  exact hreportsR.trans (take_eq_take hfit.isPrefix (limited_le cfg _))

/-- The blocks that are too many are removed when each of them takes four bytes. -/
theorem shortenBoth_eq (hg : GapListOk g) (chunk : SCTPSackChunk)
    (hpre : pre <+: g.blocks (SackDraft.shortenedType g)) (hc : cfg.compression g = false)
    (hle : cfg.headerLength g ≤ cfg.allowedLength) (hdvd : 4 ∣ cfg.allowedLength) :
    ∃ d' sackLength, (limitedDraft cfg g chunk pre).shortenBoth g (cfg.compression g)
      cfg.allowedLength = .ok (d', sackLength) ∧ sackLength ≤ cfg.allowedLength ∧
      d'.numRevokableGaps ≤ maxGapCount ∧ d'.numNonRevokableGaps ≤ maxGapCount := by
  obtain ⟨d, hd⟩ : ∃ d, d = limitedDraft cfg g chunk pre := ⟨_, rfl⟩
  have hheader : d.sackHeaderLength = cfg.headerLength g := hd ▸ rfl
  have hnumR : d.numRevokableGaps = pre.length := hd ▸ rfl
  have hnumNR : d.numNonRevokableGaps = (cfg.chosenNrGaps g).length := hd ▸ rfl
  have hlengthR := hpre.length_le.trans (hg.length_le _)
  have hlengthNR := chosenNrGaps_length_le hg cfg
  have hlength : d.sackLength 0 = cfg.headerLength g + 4 * pre.length +
      4 * (cfg.chosenNrGaps g).length := by
    have hspace : cfg.chosenNrLength g = 4 * (cfg.chosenNrGaps g).length := by
      unfold SackSettings.chosenNrLength SackSettings.compressesAll
      split_ifs with hnr
      · rw [hc, Bool.and_false]
        rfl
      · -- without an NR-SACK there are no such blocks
        unfold SackSettings.chosenNrGaps
        rw [if_neg (mt SackSettings.nrSack_of_isOptimization1 hnr),
          if_neg (mt SackSettings.nrSack_of_isOptimization2 hnr), if_neg hnr]
        rfl
    rw [hd, sackLength_limitedDraft hg hpre, hspace, hc]
    rfl
  rw [← hd]
  unfold SackDraft.shortenBoth
  by_cases hlong : cfg.allowedLength < d.sackLength 0
  swap
  · rw [if_neg hlong]
    exact ⟨d, _, rfl, Nat.le_of_not_lt hlong, hnumR.trans_le hlengthR, hnumNR.trans_le hlengthNR⟩
  rw [if_pos hlong]
  have hheader4 : 4 ∣ cfg.headerLength g := by
    unfold SackSettings.headerLength SackSettings.nrHeaderLength
    rw [hc]
    split_ifs <;> decide
  -- the two shares make up for the blocks to be removed
  obtain ⟨blocks, hblocks⟩ : ∃ n, n = (d.sackLength 0 - cfg.allowedLength) / 4 := ⟨_, rfl⟩
  have hshares : blocks ≤
      min d.numRevokableGaps
        (SackSettings.removeRevokable blocks d.numRevokableGaps d.numNonRevokableGaps) +
      min d.numNonRevokableGaps
        (SackSettings.removeNonRevokable blocks d.numRevokableGaps d.numNonRevokableGaps) :=
    Binary64.le_shares (by unfold maxGapCount at *; omega) (by omega) (by omega) rfl
  obtain ⟨preR, heqR, hpreR, hfitR⟩ := copyToRGaps_spec hg d .revokable (cfg.compression g)
    (4 * (d.numRevokableGaps -
      SackSettings.removeRevokable blocks d.numRevokableGaps d.numNonRevokableGaps))
  obtain ⟨preNR, heqNR, hpreNR, hfitNR⟩ := copyToNRGaps_spec hg
    (d.withRGaps (cfg.compression g) g.cumAckTSN (g.blocks .revokable) preR) .nonRevokable
    (cfg.compression g) (4 * (d.numNonRevokableGaps -
      SackSettings.removeNonRevokable blocks d.numRevokableGaps d.numNonRevokableGaps))
  have hleR := (hfitR fun h => absurd (hc.symm.trans h) Bool.false_ne_true).le
  have hleNR := (hfitNR fun h => absurd (hc.symm.trans h) Bool.false_ne_true).le
  have hmaxR := hpreR.length_le.trans (hg.length_le .revokable)
  have hmaxNR := hpreNR.length_le.trans (hg.length_le .nonRevokable)
  have hlength' : ((d.withRGaps (cfg.compression g) g.cumAckTSN (g.blocks .revokable)
      preR).withNrGaps (cfg.compression g) g.cumAckTSN (g.blocks .nonRevokable)
      preNR).sackLength 0 =
      cfg.headerLength g + gapsLength (cfg.compression g) g.cumAckTSN preR +
        gapsLength (cfg.compression g) g.cumAckTSN preNR := by
    rw [← hheader]
    exact sackLength_zero (hheader.trans_le (headerLength_le cfg g).2)
      (gapsLength_prefix_le hg hpreR _) (gapsLength_prefix_le hg hpreNR _)
  simp only [← hblocks, heqR, ok_bind, heqNR]
  refine ⟨_, _, rfl, ?_, hmaxR, hmaxNR⟩
  refine hlength'.trans_le ?_
  rw [hc] at hleR hleNR ⊢
  simp only [gapsLength, false_eq_true, if_false] at hleR hleNR ⊢
  omega

/-- A chunk without smart handling is returned when its blocks are not compressed and the allowed
length is a multiple of four. -/
theorem exists_createSack_of_both (hg : GapListOk s.gapList)
    (hc : cfg.compression s.gapList = false) (hfull : cfg.allowedLength < cfg.fullLength s)
    (hsmart : cfg.smartOverfullSACKHandling = false)
    (hle : cfg.headerLength s.gapList ≤ cfg.allowedLength) (hdvd : 4 ∣ cfg.allowedLength) :
    ∃ chunk s', createSack cfg s = .ok (chunk, s') := by
  obtain ⟨chunk0, s1, hgaps, -, -, heq⟩ := createSack_eq cfg hg
  rw [if_pos hfull] at heq
  obtain ⟨pre, hR, hpre, -⟩ := shortenRGaps_spec hg (cfg.fullDraft s.gapList chunk0)
    (cfg.compression s.gapList) cfg.allowedLength
  obtain ⟨d, sackLength, hlists, hlength, hnumR, hnumNR⟩ :=
    shortenBoth_eq hg chunk0 hpre hc hle hdvd
  have hshorten := shorten_eq hR (by
    rw [SackDraft.shortenLists, hsmart, if_neg Bool.false_ne_true]
    exact hlists) hlength
  rw [hshorten, ok_bind] at heq
  rw [← hgaps] at hc
  obtain ⟨chunk, s', hfinish, -⟩ :=
    exists_finish (d := d.withNumbers) rfl rfl hnumR hnumNR (.inr hc) sackLength 0
  exact ⟨chunk, s', heq.trans hfinish⟩

end Shorten

/-! ### What is reported, and when -/

/-- The TSNs 2, 4 and 6 were received, the last of them for good. -/
def sampleGapList : SCTPGapList where
  revokableGapList := [⟨2, 2⟩, ⟨4, 4⟩]
  nonRevokableGapList := [⟨6, 6⟩]
  combinedGapList := [⟨2, 2⟩, ⟨4, 4⟩, ⟨6, 6⟩]

theorem gapListOk_sample : GapListOk sampleGapList :=
  ⟨fun type => by cases type <;> decide, fun type => by cases type <;> decide⟩

end SCTP

end Hiwis
