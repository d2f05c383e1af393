import Hiwis.Ieee8021d.RstpView
import Hiwis.Lib.Trace

/-!
# The roles of the ports of an RSTP bridge

`Ieee8021d.RSTP.Consistent` says that there is one root port at most, that it stores the best data,
and that blocked ports discard.  `Ieee8021d.RSTP.Admissible` says of a message that the bridge
finds the best port when it needs a new root port.

* `Ieee8021d.RSTP.handleMessage_keeps` : one message keeps the invariant `Ieee8021d.Fits`;
* `Ieee8021d.RSTP.bestRoot_run` : the bridge is consistent after all admissible messages.
-/

namespace Hiwis

open List Except Function Trace

namespace Ieee8021d

/-- The roles of the ports that neither learn nor forward. -/
def PortRole.isBlocked : PortRole → Bool
  | .alternate | .backup | .notAssigned | .disabled => true
  | _ => false

/-- At least as good. -/
def RstpData.notWorse (a b : RstpData) : Bool := !(compareRSTPData b a).isWorse

namespace RSTP

variable {numPorts : ℕ} (s : RSTP numPorts)

/-- What the roles, the states and the stored data have to do with each other. -/
structure Consistent (s : RSTP numPorts) : Prop where
  unique : ∀ i j, (s.port i).role = .root → (s.port j).role = .root → i = j
  best : ∀ r, (s.port r).role = .root → ∀ j, (s.port r).data.notWorse (s.port j).data = true
  announced : ∀ r, (s.port r).role = .root → ∀ i tcFlag,
    (s.bpduOf (s.getRootIndex.map s.port) i tcFlag).rootPriority = (s.port r).rootPriority ∧
    (s.bpduOf (s.getRootIndex.map s.port) i tcFlag).rootAddress = (s.port r).rootAddress
  discarding : ∀ i, (s.port i).role.isBlocked = true → (s.port i).state = .discarding

/-! ### Where the best port is found -/

/-- A BPDU is better than what its port stores.  Without a root port it is at least as good as what
the other ports store, and its root is better than the bridge; when it announces a better root,
the root port is reset. -/
def FindsBetterSource (frame : BPDU) (arrivalPortNum : Fin numPorts) : Prop :=
  let received := frame.data (s.port arrivalPortNum).linkCost
  match s.getRootIndex with
  | none => compareRSTPData s.own received = .betterRoot ∧
      ∀ j, j ≠ arrivalPortNum → received.notWorse (s.port j).data = true
  | some r => compareRSTPData (s.port r).data received = .betterRoot → r ≠ arrivalPortNum →
      (s.port r).edge = false

/-- The source of the root port announces something worse.  The port that stores the best data then
is the arrival port or the best alternate port; when the root is worse, it is the best alternate
port, unless there is none. -/
def FindsSameSource (frame : BPDU) (arrivalPortNum : Fin numPorts) : Prop :=
  let received := frame.data (s.port arrivalPortNum).linkCost
  match s.getBestAlternate with
  | none =>
    if compareRSTPData (s.port arrivalPortNum).data received = .worseRoot then True
    else ∀ j, j ≠ arrivalPortNum → received.notWorse (s.port j).data = true
  | some a =>
    if compareRSTPData (s.port arrivalPortNum).data received = .worseRoot then
      (s.port a).data.notWorse received = true ∧
        ∀ j, j ≠ arrivalPortNum → (s.port a).data.notWorse (s.port j).data = true
    else ∀ j, j ≠ arrivalPortNum → received.notWorse (s.port j).data = true ∨
      (s.port a).data.notWorse (s.port j).data = true

/-- An alternate port that can replace the root port `r` that is lost at a hello time. -/
def Survives (r a : Fin numPorts) : Prop :=
  (s.port a).role = .alternate ∧ (r < a ∨ (s.port a).edge = true ∨ (s.port a).lostBPDU < 3)

/-- The root port is lost.  When an alternate port can replace it, no backup port or designated port
stores better data than all of these. -/
def FindsAlternate : Prop :=
  ∀ r, (s.port r).role = .root → (s.port r).edge = false → 3 ≤ (s.port r).lostBPDU →
    (∃ a, s.Survives r a) → ∀ j, (s.port j).role ≠ .root → (s.port j).role ≠ .alternate →
      ¬((s.port j).role = .backup ∧ (s.port j).edge = false ∧ 3 ≤ (s.port j).lostBPDU) →
      ∃ a, s.Survives r a ∧ (s.port a).data.notWorse (s.port j).data = true

/-- A BPDU that takes part in the election. -/
def FindsPort (frame : BPDU) (arrivalPortNum : Fin numPorts) : Prop :=
  let port := s.port arrivalPortNum
  if (compareRSTPData port.data (frame.data port.linkCost)).isBetter then
    s.FindsBetterSource frame arrivalPortNum
  else frame.bridgeAddress = port.bridgeAddress →
    (compareRSTPData port.data (frame.data port.linkCost)).isWorse → port.role = .root →
    s.FindsSameSource frame arrivalPortNum

/-- The bridge finds the best port, should the message make it look for one. -/
def Admissible (s : RSTP numPorts) (m : ℤ × RstpMessage numPorts) : Prop :=
  match m.2 with
  | .bpdu arrivalPortNum src frame => frame.messageAge < s.maxAge → src ≠ s.bridgeAddress →
    frame.rootAddress ≠ s.bridgeAddress → s.FindsPort frame arrivalPortNum
  | .helloTime => s.FindsAlternate
  | .upgrade _ => True

end RSTP

theorem notWorse_iff {a b : RstpData} : a.notWorse b = true ↔ a.key ≤ b.key := by
  rw [RstpData.notWorse, Bool.not_eq_true', ← Bool.not_eq_true, isWorse_iff, not_lt]

/-! ### The invariant -/

/-- A port on its own: it discards if it is blocked, and the root port and the alternate ports
know a better root than the bridge. -/
structure RstpPort.Sound (own : RstpData) (q : RstpPort) : Prop where
  discarding : q.role.isBlocked = true → q.state = .discarding
  below : q.role = .root ∨ q.role = .alternate → q.data.rootId < own.rootId

variable {q : RstpPort} {own : RstpData}

theorem RstpPort.Sound.designated (h : q.role = .designated) : q.Sound own := by
  constructor
  · intro hblocked
    rw [h] at hblocked
    cases hblocked
  · intro hrole
    rw [h] at hrole
    cases hrole <;> contradiction

theorem RstpPort.Sound.root (h : q.role = .root)
    (hlt : q.data.rootId < own.rootId) : q.Sound own := by
  refine ⟨fun hblocked => ?_, fun _ => hlt⟩
  rw [h] at hblocked
  cases hblocked

theorem RstpPort.Sound.alternate (h : q.state = .discarding)
    (hlt : q.data.rootId < own.rootId) : q.Sound own :=
  ⟨fun _ => h, fun _ => hlt⟩

theorem RstpPort.Sound.blocked (h : q.state = .discarding)
    (hroot : q.role ≠ .root) (halternate : q.role ≠ .alternate) : q.Sound own :=
  ⟨fun _ => h, fun hrole => (hrole.elim hroot halternate).elim⟩

section Fits

variable {numPorts : ℕ}

/-- The ports of a bridge that are sound, with a root port that stores the best data. -/
structure Fits (own : RstpData) (p : Fin numPorts → RstpPort) : Prop where
  sound : ∀ i, (p i).Sound own
  unique : ∀ i j, (p i).role = .root → (p j).role = .root → i = j
  best : ∀ r, (p r).role = .root → ∀ j, (p r).data.key ≤ (p j).data.key

variable {own : RstpData} {p : Fin numPorts → RstpPort} {i : Fin numPorts}

theorem sound_update (h : ∀ i, (p i).Sound own)
    (hq : q.Sound own) : ∀ j, (Function.update p i q j).Sound own :=
  (Function.forall_update_iff p fun _ q => q.Sound own).2 ⟨hq, fun j _ => h j⟩

/-- One port is the root port, and it stores the best data. -/
theorem Fits.of_root (hsound : ∀ i, (p i).Sound own) (r : Fin numPorts)
    (hroot : ∀ i, (p i).role = .root → i = r) (hbest : ∀ j, (p r).data.key ≤ (p j).data.key) :
    Fits own p := by
  refine ⟨hsound, fun i j hi hj => (hroot i hi).trans (hroot j hj).symm, fun i hi => ?_⟩
  rw [hroot i hi]
  exact hbest

theorem Fits.of_not_root (hsound : ∀ i, (p i).Sound own) (hroot : ∀ i, (p i).role ≠ .root) :
    Fits own p :=
  ⟨hsound, fun i _ hi => absurd hi (hroot i), fun i hi => absurd hi (hroot i)⟩

/-- A port that does not become the root port changes, and its data do not become better than those
of the root port. -/
theorem Fits.update (h : Fits own p) (hq : q.Sound own) (hroot : q.role ≠ .root)
    (hkey : ∀ r, r ≠ i → (p r).role = .root → (p r).data.key ≤ q.data.key) :
    Fits own (Function.update p i q) := by
  have hold : ∀ j, (Function.update p i q j).role = .root → j ≠ i ∧ (p j).role = .root := by
    intro j hj
    by_cases hji : j = i
    · rw [hji, update_self] at hj
      exact absurd hj hroot
    · rw [update_of_ne hji] at hj
      exact ⟨hji, hj⟩
  refine ⟨sound_update h.sound hq, fun j k hj hk => h.unique j k (hold j hj).2 (hold k hk).2,
    fun r hr j => ?_⟩
  obtain ⟨hri, hrole⟩ := hold r hr
  rw [update_of_ne hri]
  by_cases hji : j = i
  · rw [hji, update_self]
    exact hkey r hri hrole
  · rw [update_of_ne hji]
    exact h.best r hrole j

/-- The same, with data that are not better than before. -/
theorem Fits.update_of_le (h : Fits own p) (hq : q.Sound own)
    (hroot : q.role ≠ .root) (hkey : (p i).data.key ≤ q.data.key) :
    Fits own (Function.update p i q) :=
  h.update hq hroot fun r _ hr => (h.best r hr i).trans hkey

/-- The roles, the states and the data stay. -/
theorem Fits.congr (h : Fits own p) {p' : Fin numPorts → RstpPort}
    (hp : ∀ i, (p' i).role = (p i).role ∧ (p' i).state = (p i).state ∧ (p' i).data = (p i).data) :
    Fits own p' := by
  refine ⟨fun i => ⟨?_, ?_⟩, fun i j => ?_, fun r => ?_⟩
  · rw [(hp i).1, (hp i).2.1]
    exact (h.sound i).discarding
  · rw [(hp i).1, (hp i).2.2]
    exact (h.sound i).below
  · rw [(hp i).1, (hp j).1]
    exact h.unique i j
  · rw [(hp r).1, (hp r).2.2]
    intro hr j
    rw [(hp j).2.2]
    exact h.best r hr j

theorem Fits.resetLostBPDU (h : Fits own p) (i : Fin numPorts) (n : ℕ) :
    Fits own (Function.update p i { p i with lostBPDU := n }) := by
  refine h.congr fun j => ?_
  by_cases hj : j = i
  · rw [hj, update_self]
    exact ⟨rfl, rfl, rfl⟩
  · rw [update_of_ne hj]
    exact ⟨rfl, rfl, rfl⟩

/-- A port becomes the root port, the only one, with data that are not worse than the others. -/
theorem Fits.update_root (hsound : ∀ i, (p i).Sound own)
    (hq : q.Sound own) (hothers : ∀ j, j ≠ i → (p j).role ≠ .root ∧ q.data.key ≤ (p j).data.key) :
    Fits own (Function.update p i q) := by
  refine Fits.of_root (sound_update hsound hq) i (fun j hj => ?_) fun j => ?_
  · by_contra hji
    rw [update_of_ne hji] at hj
    exact (hothers j hji).1 hj
  · rw [update_self]
    by_cases hji : j = i
    · rw [hji, update_self]
    · rw [update_of_ne hji]
      exact (hothers j hji).2

end Fits

namespace RSTP

variable {numPorts : ℕ} {s s' t : RSTP numPorts}

/-- The parameters stay, and the ports fit. -/
structure Keeps (s s' : RSTP numPorts) : Prop where
  same : Same s s'
  fits : Fits s.own s'.info

theorem Keeps.of_info (h : Fits s.own s.info) (hsame : Same s s') (hinfo : s'.info = s.info) :
    Keeps s s' :=
  ⟨hsame, hinfo ▸ h⟩

theorem Keeps.of_same (hsame : Same s t) (h : Keeps t s') : Keeps s s' :=
  ⟨hsame.trans h.same, hsame.own ▸ h.fits⟩

theorem Keeps.trans_info (h : Keeps s t) (hsame : Same t s') (hinfo : s'.info = t.info) :
    Keeps s s' :=
  ⟨h.same.trans hsame, hinfo ▸ h.fits⟩

/-! ### Better sources -/

section BetterSource

variable {now : ℤ} {frame : BPDU} {arrivalPortNum r : Fin numPorts} {d : RstpData}
  {flood flood' : Bool}

/-- The arrival port stores better data than before. -/
structure Received (s t : RSTP numPorts) (arrivalPortNum : Fin numPorts) (d : RstpData) : Prop where
  fits : Fits s.own s.info
  same : Same s t
  info : t.info =
    Function.update s.info arrivalPortNum { s.info arrivalPortNum with data := d, lostBPDU := 0 }
  better : d.key < (s.info arrivalPortNum).data.key

namespace Received

variable (h : Received s t arrivalPortNum d)
include h

theorem info_of_ne {j : Fin numPorts} (hj : j ≠ arrivalPortNum) : t.info j = s.info j := by
  rw [h.info, update_of_ne hj]

theorem data_self : (t.info arrivalPortNum).data = d := by
  rw [h.info, update_self]

theorem role (j : Fin numPorts) : (t.info j).role = (s.info j).role := by
  by_cases hj : j = arrivalPortNum
  · rw [h.info, hj, update_self]
  · rw [h.info_of_ne hj]

theorem below (hrole : (s.info arrivalPortNum).role = .root ∨
    (s.info arrivalPortNum).role = .alternate) : d.rootId < s.own.rootId :=
  (rootId_le_of_key_le h.better.le).trans_lt ((h.fits.sound arrivalPortNum).below hrole)

theorem sound (i : Fin numPorts) : (t.info i).Sound s.own := by
  rw [h.info]
  refine sound_update h.fits.sound ⟨fun hblocked => ?_, fun hrole => ?_⟩ i
  · exact (h.fits.sound arrivalPortNum).discarding hblocked
  · exact h.below hrole

/-- The arrival port takes the place of the root port. -/
theorem becomeRoot (hr : (s.info r).role = .root) (hle : d.key ≤ (s.info r).data.key)
    {q y : RstpPort} (hq : q.role = .root) (hqd : q.data = d) (hy : y.Sound s.own)
    (hyrole : y.role ≠ .root) (hyd : y.data = (t.info r).data) :
    Fits s.own (Function.update (Function.update t.info r y) arrivalPortNum q) := by
  have hbelow : d.rootId < s.own.rootId :=
    (rootId_le_of_key_le hle).trans_lt ((h.fits.sound r).below (.inl hr))
  refine Fits.update_root (sound_update h.sound hy) (.root hq (hqd ▸ hbelow)) fun j hj => ?_
  rw [hqd]
  by_cases hjr : j = r
  · rw [hjr, update_self, hyd, h.info_of_ne (hjr ▸ hj)]
    exact ⟨hyrole, hle⟩
  · rw [update_of_ne hjr, h.info_of_ne hj]
    exact ⟨fun hroot => hjr (h.fits.unique j r hroot hr), hle.trans (h.fits.best r hr j)⟩

/-- The arrival port does not become the root port. -/
theorem notRoot (hr : (s.info r).role = .root) (hle : (s.info r).data.key ≤ d.key)
    (hq : q.Sound s.own) (hqrole : q.role ≠ .root) (hqd : q.data = d) :
    Fits s.own (Function.update t.info arrivalPortNum q) := by
  rw [h.info, update_idem]
  refine h.fits.update hq hqrole fun r' _ hr' => ?_
  rw [h.fits.unique r' r hr' hr, hqd]
  exact hle

end Received

theorem received_update (h : Fits s.own s.info) (hbetter :
    (frame.data (s.port arrivalPortNum).linkCost).key < (s.info arrivalPortNum).data.key) :
    Received s (s.updateInterfacedata frame arrivalPortNum) arrivalPortNum
      (frame.data (s.port arrivalPortNum).linkCost) :=
  ⟨h, ⟨rfl, rfl, rfl⟩, s.info_updateInterfacedata arrivalPortNum frame, hbetter⟩

namespace Received

variable (h : Received s t arrivalPortNum d)
include h

variable (hr : (s.info r).role = .root)
include hr

/-- The arrival port does not become the root port, and is blocked. -/
theorem becomeAlternate (hle : (s.info r).data.key ≤ d.key) (hbelow : d.rootId < s.own.rootId) :
    Keeps s (((t.flush arrivalPortNum).setRole arrivalPortNum
      .alternate .discarding).resetLostBPDU arrivalPortNum) := by
  refine ⟨by simpa using h.same, ?_⟩
  simp only [info_resetLostBPDU, info_setRole, info_flush, update_idem, update_self]
  exact h.notRoot hr hle (.alternate rfl (h.data_self ▸ hbelow)) (by simp) h.data_self

theorem doubleLink (heq : (t.info r).data.key = d.key) :
    Keeps s (t.doubleLink now arrivalPortNum r) := by
  rw [RSTP.doubleLink]
  dsimp only
  split_ifs with hprefer hstate
  · have hne : r ≠ arrivalPortNum := by
      rintro rfl
      exact hprefer.elim (lt_irrefl _) fun hlt => lt_irrefl _ hlt.2
    rw [h.info_of_ne hne] at heq
    exact h.becomeAlternate hr heq.le
      ((rootId_le_of_key_le heq.ge).trans_lt ((h.fits.sound r).below (.inl hr)))
  all_goals
    have hle : d.key ≤ (s.info r).data.key := by
      by_cases hne : r = arrivalPortNum
      · exact hne ▸ h.better.le
      · exact heq.ge.trans_eq (by rw [h.info_of_ne hne])
    refine ⟨by simpa using h.same, ?_⟩
    simp only [info_copyTable, info_resetLostBPDU, info_setRole, info_flushOtherPorts, info_flush,
      update_idem, update_self]
    refine h.becomeRoot hr hle rfl ?_ (.alternate rfl ?_) (by simp) rfl
    · dsimp only
      by_cases hne : arrivalPortNum = r
      · rw [hne, update_self, ← hne, h.data_self]
      · rw [update_of_ne hne, h.data_self]
    · exact (rootId_le_of_key_le heq.le).trans_lt
        ((rootId_le_of_key_le hle).trans_lt ((h.fits.sound r).below (.inl hr)))

theorem betterRoot (hlt : d.rootId < (s.info r).data.rootId) (hedge : (s.info r).edge = false)
    (hne : r ≠ arrivalPortNum) :
    Keeps s (t.betterRoot now arrivalPortNum) := by
  have hbelow : d.rootId < s.own.rootId := hlt.trans ((h.fits.sound r).below (.inl hr))
  obtain ⟨hsame, hinfo⟩ := t.startAnews_info now arrivalPortNum
  rw [h.same.own] at hinfo
  rw [RSTP.betterRoot]
  generalize (finRange numPorts).foldl (fun s i => s.startAnew now arrivalPortNum i) t = u at *
  have hself : u.info arrivalPortNum = t.info arrivalPortNum := by
    rw [hinfo]
    exact if_pos (.inr rfl)
  have hport : ∀ j, (u.info j).Sound s.own ∧
      (j ≠ arrivalPortNum → (u.info j).role ≠ .root ∧ d.key ≤ (u.info j).data.key) := by
    intro j
    rw [hinfo]
    dsimp only
    rw [anewPort]
    split_ifs with hj
    · refine ⟨h.sound j, fun hjne => ?_⟩
      rw [h.info_of_ne hjne] at hj ⊢
      refine ⟨fun hroot => ?_, ?_⟩
      · rw [h.fits.unique j r hroot hr, hedge] at hj
        exact hj.elim (by decide) hne
      · exact (key_lt_of_rootId_lt hlt).le.trans (h.fits.best r hr j)
    · exact ⟨.blocked rfl (by simp) (by simp), fun _ => ⟨by simp, (key_lt_of_rootId_lt hbelow).le⟩⟩
  refine ⟨by simpa using h.same.trans hsame, ?_⟩
  simp only [info_resetLostBPDU, info_setRole, update_idem, update_self]
  refine Fits.update_root (fun j => (hport j).1) (.root rfl ?_) fun j hj => ?_
  · rw [hself, h.data_self]
    exact hbelow
  · rw [hself, h.data_self]
    exact (hport j).2 hj

theorem betterWay (hlt : d.key < (s.info r).data.key) (hne : r ≠ arrivalPortNum)
    (hstep : t.betterWay now arrivalPortNum r = .ok s') :
    Keeps s s' := by
  have hstate : ∀ u, u = (if (t.port arrivalPortNum).state ≠ .forwarding then
      t.flushOtherPorts now arrivalPortNum else t) → Same t u ∧ u.info = t.info := by
    rintro u rfl
    split_ifs
    · exact ⟨⟨rfl, rfl, rfl⟩, rfl⟩
    · exact ⟨Same.refl t, rfl⟩
  rw [RSTP.betterWay] at hstep
  generalize hu : (if (t.port arrivalPortNum).state ≠ .forwarding then
      t.flushOtherPorts now arrivalPortNum else t) = u at *
  obtain ⟨hsame, hinfo⟩ := hstate u rfl
  have hbelow : (t.info r).data.rootId < s.own.rootId := by
    rw [h.info_of_ne hne]
    exact (h.fits.sound r).below (.inl hr)
  obtain ⟨case3, -, hstep⟩ := bind_eq_ok.1 hstep
  split_ifs at hstep
  · cases hstep
    refine ⟨by simpa using h.same.trans hsame, ?_⟩
    simp only [info_copyTable, info_resetLostBPDU, info_setRole, info_flush,
      update_idem, update_self, update_of_ne hne, hinfo]
    rw [update_comm hne.symm]
    exact h.becomeRoot hr hlt.le rfl h.data_self (.alternate rfl hbelow) (by simp) rfl
  · cases hstep
    refine ⟨by simpa using h.same.trans hsame, ?_⟩
    simp only [info_copyTable, info_resetLostBPDU, info_setRole, info_setDesignated,
      update_idem, update_self, update_of_ne hne, hinfo]
    rw [update_comm hne.symm]
    exact h.becomeRoot hr hlt.le rfl h.data_self (.designated rfl) (by simp) rfl

theorem worseWay (hlt : (s.info r).data.key < d.key) (hbelow : d.rootId < s.own.rootId)
    (hstep : t.worseWay now frame arrivalPortNum = .ok s') : Keeps s s' := by
  rw [RSTP.worseWay] at hstep
  obtain ⟨case3, -, hstep⟩ := bind_eq_ok.1 hstep
  split_ifs at hstep
  · cases hstep
    refine ⟨by simpa using h.same, ?_⟩
    rw [info_sendBPDU, info_setDesignated]
    exact h.notRoot hr hlt.le (.designated rfl) (by simp) h.data_self
  · cases hstep
    exact h.becomeAlternate hr hlt.le hbelow

end Received

/-- A result that is passed on together with the answer whether BPDUs are sent. -/
theorem map_eq_ok {x : Except RstpFault (RSTP numPorts)}
    (h : x.map (·, flood) = .ok (s', flood')) : x = .ok s' := by
  cases x with
  | error e => cases h
  | ok t => exact congrArg Except.ok (Prod.mk.inj (Except.ok.inj h)).1

theorem processBetterSource_keeps (h : Fits s.own s.info) (hbetter :
    (frame.data (s.port arrivalPortNum).linkCost).key < (s.info arrivalPortNum).data.key)
    (hfinds : s.FindsBetterSource frame arrivalPortNum)
    (hstep : s.processBetterSource now frame arrivalPortNum = .ok (s', flood)) : Keeps s s' := by
  have hreceived := received_update h hbetter
  have hcost : frame.data ((s.updateInterfacedata frame arrivalPortNum).port
      arrivalPortNum).linkCost = frame.data (s.port arrivalPortNum).linkCost := by
    have hinfo := congrFun hreceived.info arrivalPortNum
    rw [update_self] at hinfo
    exact congrArg frame.data (congrArg RstpPort.linkCost hinfo)
  rw [FindsBetterSource] at hfinds
  rw [processBetterSource] at hstep
  generalize frame.data (s.port arrivalPortNum).linkCost = d at *
  generalize s.updateInterfacedata frame arrivalPortNum = t at *
  rw [getRootIndex_congr hreceived.role] at hstep
  have hcase : ∀ r, t.compareInterfacedata r frame (t.port arrivalPortNum).linkCost =
      compareRSTPData (t.info r).data d := by
    intro r
    rw [compareInterfacedata, hcost]
    rfl
  cases hroot : s.getRootIndex with
  | none =>
    rw [hroot] at hstep hfinds
    cases hstep
    refine ⟨by simpa using hreceived.same, ?_⟩
    simp only [info_flushOtherPorts, info_resetLostBPDU, info_setRole, update_idem, update_self]
    refine Fits.update_root hreceived.sound
      (.root rfl (hreceived.data_self ▸ eq_betterRoot_iff.1 hfinds.1)) fun j hj => ?_
    have hle : d.key ≤ (s.info j).data.key := notWorse_iff.1 (hfinds.2 j hj)
    dsimp only
    rw [hreceived.info_of_ne hj, hreceived.data_self]
    exact ⟨(getRootIndex_eq_none s).1 hroot j, hle⟩
  | some r =>
    rw [hroot] at hstep hfinds
    have hr := getRootIndex_role hroot
    dsimp only at hstep
    rw [hcase] at hstep
    have hne : compareRSTPData (t.info r).data d ≠ .similar → r ≠ arrivalPortNum := by
      rintro hcompare rfl
      rw [hreceived.data_self] at hcompare
      exact hcompare (eq_similar_iff.2 rfl)
    cases hcompare : compareRSTPData (t.info r).data d with
    | similar =>
      rw [hcompare] at hstep
      cases hstep
      exact hreceived.doubleLink hr (eq_similar_iff.1 hcompare)
    | betterRoot =>
      have hrA := hne (by rw [hcompare]; decide)
      rw [hcompare] at hstep
      cases hstep
      rw [hreceived.info_of_ne hrA] at hcompare
      exact hreceived.betterRoot hr (eq_betterRoot_iff.1 hcompare) (hfinds hcompare hrA) hrA
    | betterRpc | betterSrc | betterPort =>
      have hrA := hne (by rw [hcompare]; decide)
      have hlt := isBetter_iff.1 (by rw [hcompare]; rfl)
      rw [hcompare] at hstep
      rw [hreceived.info_of_ne hrA] at hlt
      exact hreceived.betterWay hr hlt hrA (map_eq_ok hstep)
    | worseRoot =>
      have hrA := hne (by rw [hcompare]; decide)
      rw [hcompare] at hstep
      cases hstep
      rw [hreceived.info_of_ne hrA] at hcompare
      refine ⟨by simpa using hreceived.same, ?_⟩
      rw [info_sendBPDU, ← update_eq_self arrivalPortNum t.info]
      refine hreceived.notRoot hr (key_lt_of_rootId_lt (eq_worseRoot_iff.1 hcompare)).le
        (hreceived.sound arrivalPortNum) (fun hA => hrA ?_) hreceived.data_self
      exact h.unique r arrivalPortNum hr (hreceived.role arrivalPortNum ▸ hA)
    | worseRpc | worseSrc | worsePort =>
      have hrA := hne (by rw [hcompare]; decide)
      have hlt := isWorse_iff.1 (by rw [hcompare]; rfl)
      have heq : (t.info r).data.rootId = d.rootId :=
        rootId_eq_of_not (by rw [hcompare]; decide) (by rw [hcompare]; decide)
      rw [hcompare] at hstep
      rw [hreceived.info_of_ne hrA] at hlt heq
      have hbelow : d.rootId < s.own.rootId := by
        rw [← heq]
        exact (h.sound r).below (.inl hr)
      exact hreceived.worseWay hr hlt hbelow (map_eq_ok hstep)

end BetterSource

/-! ### Starting anew -/

theorem initialPort_role (own : RstpData) (q : RstpPort) : (initialPort own q).role ≠ .root := by
  rw [initialPort]
  dsimp only
  split_ifs <;> decide

theorem initialPort_sound (own : RstpData) (q : RstpPort) : (initialPort own q).Sound own := by
  by_cases hedge : q.edge = true
  · exact .designated (if_pos hedge)
  · refine .blocked (if_neg hedge) (initialPort_role own q) ?_
    rw [initialPort]
    simp [hedge]

theorem initPorts_keeps (s : RSTP numPorts) (now : ℤ) : Keeps s (s.initPorts now) := by
  obtain ⟨hsame, hinfo⟩ := s.initPorts_info now
  refine ⟨hsame, ?_⟩
  rw [hinfo]
  exact Fits.of_not_root (fun _ => initialPort_sound _ _) fun _ => initialPort_role _ _

/-! ### The same source -/

section SameSource

variable {now : ℤ} {frame : BPDU} {arrivalPortNum : Fin numPorts} {flood : Bool}

/-- A better root than the bridge, if it is not the bridge itself. -/
theorem rootId_lt_own {linkCost : ℕ} (hne : frame.rootAddress ≠ s.bridgeAddress)
    (hlt : (frame.data linkCost).key < s.own.key) :
    (frame.data linkCost).rootId < s.own.rootId := by
  refine lt_of_le_of_ne (rootId_le_of_key_le hlt.le) fun heq => hne ?_
  exact BitVec.eq_of_toNat_eq (Prod.mk.inj (toLex.injective heq)).2

section

variable (h : Fits s.own s.info) (hrole : (s.info arrivalPortNum).role = .root)
include h hrole

/-- The arrival port stays the root port. -/
theorem updateInterfacedata_keeps (hbelow : (frame.data (s.port arrivalPortNum).linkCost).rootId < s.own.rootId)
    (hbest : ∀ j, j ≠ arrivalPortNum →
      (frame.data (s.port arrivalPortNum).linkCost).key ≤ (s.info j).data.key) :
    Keeps s (s.updateInterfacedata frame arrivalPortNum) := by
  refine ⟨by simp [Same.refl], ?_⟩
  rw [info_updateInterfacedata]
  refine Fits.update_root h.sound (.root hrole hbelow) fun j hj => ⟨fun hroot => hj ?_, hbest j hj⟩
  exact h.unique j arrivalPortNum hroot hrole

/-- The best alternate port takes the place of the arrival port. -/
theorem replaceRoot_fits {a : Fin numPorts} (ha : (s.info a).role = .alternate) {d : RstpData}
    (hle : (s.info a).data.key ≤ d.key)
    (hbest : ∀ j, j ≠ arrivalPortNum → (s.info a).data.key ≤ (s.info j).data.key) {q y : RstpPort}
    (hq : q.Sound s.own) (hqrole : q.role ≠ .root) (hqd : q.data = d) (hy : y.role = .root)
    (hyd : y.data = (s.info a).data) :
    Fits s.own (Function.update (Function.update s.info arrivalPortNum q) a y) := by
  have hbelow : (s.info a).data.rootId < s.own.rootId := (h.sound a).below (.inr ha)
  refine Fits.update_root (sound_update h.sound hq) (.root hy (by rwa [hyd])) fun j hj => ?_
  rw [hyd]
  by_cases hjA : j = arrivalPortNum
  · rw [hjA, update_self, hqd]
    exact ⟨hqrole, hle⟩
  · rw [update_of_ne hjA]
    exact ⟨fun hroot => hjA (h.unique j arrivalPortNum hroot hrole), hbest j hjA⟩

theorem rootWorseRoot_keeps (hworse : compareRSTPData (s.info arrivalPortNum).data
      (frame.data (s.port arrivalPortNum).linkCost) = .worseRoot)
    (hne : frame.rootAddress ≠ s.bridgeAddress) (hfinds : s.FindsSameSource frame arrivalPortNum) :
    Keeps s (s.rootWorseRoot now frame arrivalPortNum).1 := by
  rw [FindsSameSource] at hfinds
  rw [rootWorseRoot]
  cases halternate : s.getBestAlternate with
  | some a =>
    rw [halternate] at hfinds
    obtain ⟨hfrome, hothers⟩ := (if_pos hworse).mp hfinds
    obtain ⟨ha, -⟩ := getBestAlternate_eq_some halternate
    have haA : a ≠ arrivalPortNum := by
      rintro rfl
      rw [hrole] at ha
      cases ha
    refine ⟨by simp [Same.refl], ?_⟩
    simp only [info_sendBPDU, info_updateInterfacedata, info_setRole, info_flushOtherPorts,
      info_copyTable, info_setDesignated]
    rw [update_comm haA, update_idem, update_of_ne haA.symm, update_of_ne haA, update_self]
    exact replaceRoot_fits h hrole ha (notWorse_iff.1 hfrome)
      (fun j hj => notWorse_iff.1 (hothers j hj)) (.designated rfl) (by simp) rfl rfl rfl
  | none =>
    dsimp only
    obtain ⟨hsame, hinfo⟩ := s.initPorts_info now
    obtain ⟨hsame', hinfo'⟩ := (s.initPorts now).flushes_info
    have hkeeps : Keeps s ((finRange numPorts).foldl flush (s.initPorts now)) :=
      (s.initPorts_keeps now).trans_info hsame' hinfo'
    rw [hinfo] at hinfo'
    generalize (finRange numPorts).foldl flush (s.initPorts now) = u at *
    have hcase : u.compareInterfacedata arrivalPortNum frame (u.port arrivalPortNum).linkCost =
        compareRSTPData s.own (frame.data (s.port arrivalPortNum).linkCost) := by
      have huA := congrFun hinfo' arrivalPortNum
      exact congrArg₂ compareRSTPData (congrArg RstpPort.data huA)
        (congrArg frame.data (congrArg RstpPort.linkCost huA))
    rw [hcase]
    split_ifs with hbetter
    · have hlt := isBetter_iff.1 hbetter
      refine ⟨by simpa using hkeeps.same, ?_⟩
      simp only [info_setRole, info_updateInterfacedata, update_idem, update_self, hinfo']
      refine Fits.update_root (fun _ => initialPort_sound _ _)
        (.root rfl (rootId_lt_own hne hlt)) fun j _ => ⟨initialPort_role _ _, hlt.le⟩
    · exact hkeeps

variable (hroot : (s.info arrivalPortNum).data.rootId = (frame.data (s.port arrivalPortNum).linkCost).rootId)
include hroot

theorem changeRoot_keeps (hfinds : match s.getBestAlternate with
      | some a => ∀ j, j ≠ arrivalPortNum →
        (frame.data (s.port arrivalPortNum).linkCost).key ≤ (s.info j).data.key ∨
          (s.info a).data.key ≤ (s.info j).data.key
      | none => ∀ j, j ≠ arrivalPortNum →
        (frame.data (s.port arrivalPortNum).linkCost).key ≤ (s.info j).data.key)
    (hstep : s.changeRoot now frame arrivalPortNum = .ok s') :
    Keeps s (s'.updateInterfacedata frame arrivalPortNum) := by
  have hbelow : (frame.data (s.port arrivalPortNum).linkCost).rootId < s.own.rootId := by
    rw [← hroot]
    exact (h.sound arrivalPortNum).below (.inl hrole)
  rw [changeRoot] at hstep
  cases halternate : s.getBestAlternate with
  | none =>
    rw [halternate] at hfinds hstep
    cases hstep
    exact updateInterfacedata_keeps h hrole hbelow hfinds
  | some a =>
    rw [halternate] at hfinds hstep
    dsimp only at hfinds hstep
    obtain ⟨ha, -⟩ := getBestAlternate_eq_some halternate
    have haA : a ≠ arrivalPortNum := by
      rintro rfl
      rw [hrole] at ha
      cases ha
    split_ifs at hstep with hcase
    · have hlt : (s.info a).data.key < (frame.data (s.port arrivalPortNum).linkCost).key :=
        isWorse_iff.1 hcase
      have hbest : ∀ j, j ≠ arrivalPortNum → (s.info a).data.key ≤ (s.info j).data.key :=
        fun j hj => (hfinds j hj).elim hlt.le.trans id
      obtain ⟨case3, -, hstep⟩ := bind_eq_ok.1 hstep
      cases hstep
      split_ifs
      · refine ⟨by simp [Same.refl], ?_⟩
        simp only [info_updateInterfacedata, info_copyTable, info_flushOtherPorts,
          info_setDesignated, info_setRole, update_idem, update_self,
          update_of_ne haA.symm]
        rw [update_comm haA]
        exact replaceRoot_fits h hrole ha hlt.le hbest (.designated rfl) (by simp) rfl rfl rfl
      · refine ⟨by simp [Same.refl], ?_⟩
        simp only [info_updateInterfacedata, info_copyTable, info_flushOtherPorts, info_setRole,
          update_idem, update_self, update_of_ne haA.symm]
        rw [update_comm haA]
        exact replaceRoot_fits h hrole ha hlt.le hbest (.alternate rfl hbelow) (by simp) rfl rfl rfl
    · have hle : (frame.data (s.port arrivalPortNum).linkCost).key ≤ (s.info a).data.key :=
        not_lt.1 (mt isWorse_iff.2 hcase)
      cases hstep
      exact updateInterfacedata_keeps h hrole hbelow fun j hj => (hfinds j hj).elim id hle.trans

theorem rootWorseWay_keeps (hworse : compareRSTPData (s.info arrivalPortNum).data
      (frame.data (s.port arrivalPortNum).linkCost) ≠ .worseRoot)
    (hfinds : s.FindsSameSource frame arrivalPortNum)
    (hstep : s.rootWorseWay now frame arrivalPortNum = .ok (s', flood)) : Keeps s s' := by
  have hsame : Same s (s.resetLostBPDU arrivalPortNum) := by simp [Same.refl]
  have hfits := h.resetLostBPDU arrivalPortNum 0
  rw [← info_resetLostBPDU, ← hsame.own] at hfits
  have hport : ∀ i, ((s.resetLostBPDU arrivalPortNum).info i).role = (s.info i).role ∧
      ((s.resetLostBPDU arrivalPortNum).info i).data = (s.info i).data ∧
      ((s.resetLostBPDU arrivalPortNum).info i).linkCost = (s.info i).linkCost := by
    intro i
    rw [info_resetLostBPDU]
    by_cases hi : i = arrivalPortNum
    · rw [hi, update_self]
      exact ⟨rfl, rfl, rfl⟩
    · rw [update_of_ne hi]
      exact ⟨rfl, rfl, rfl⟩
  have hcost : ((s.resetLostBPDU arrivalPortNum).port arrivalPortNum).linkCost =
      (s.port arrivalPortNum).linkCost :=
    (hport arrivalPortNum).2.2
  rw [rootWorseWay] at hstep
  obtain ⟨u, hu, hstep⟩ := bind_eq_ok.1 hstep
  cases hstep
  rw [FindsSameSource] at hfinds
  refine Keeps.of_same hsame (changeRoot_keeps hfits ?_ ?_ ?_ hu)
  · rw [(hport arrivalPortNum).1]
    exact hrole
  · rw [(hport arrivalPortNum).2.1, hcost]
    exact hroot
  · rw [getBestAlternate_congr (fun i => (hport i).1) fun i => (hport i).2.1, hcost]
    cases halternate : s.getBestAlternate with
    | none =>
      rw [halternate] at hfinds
      intro j hj
      rw [(hport j).2.1]
      exact notWorse_iff.1 ((if_neg hworse).mp hfinds j hj)
    | some a =>
      rw [halternate] at hfinds
      intro j hj
      rw [(hport j).2.1, (hport a).2.1]
      exact ((if_neg hworse).mp hfinds j hj).imp notWorse_iff.1 notWorse_iff.1

end

theorem processSameSource_keeps (h : Fits s.own s.info)
    (hle : (s.info arrivalPortNum).data.key ≤ (frame.data (s.port arrivalPortNum).linkCost).key)
    (hne : frame.rootAddress ≠ s.bridgeAddress)
    (hfinds : (compareRSTPData (s.info arrivalPortNum).data
      (frame.data (s.port arrivalPortNum).linkCost)).isWorse = true →
      (s.info arrivalPortNum).role = .root → s.FindsSameSource frame arrivalPortNum)
    (hstep : s.processSameSource now frame arrivalPortNum = .ok (s', flood)) : Keeps s s' := by
  have hcase : s.compareInterfacedata arrivalPortNum frame (s.port arrivalPortNum).linkCost =
      compareRSTPData (s.info arrivalPortNum).data
        (frame.data (s.port arrivalPortNum).linkCost) := rfl
  rw [processSameSource] at hstep
  dsimp only at hstep
  rw [hcase] at hstep
  cases hcompare : compareRSTPData (s.info arrivalPortNum).data
      (frame.data (s.port arrivalPortNum).linkCost) with
  | similar =>
    rw [hcompare] at hstep
    cases hstep
    refine ⟨by simp [Same.refl], ?_⟩
    rw [info_resetLostBPDU]
    exact h.resetLostBPDU arrivalPortNum 0
  | worseRoot =>
    rw [hcompare] at hstep
    dsimp only at hstep
    split_ifs at hstep with hrole halternate
    · have hfst : (s.rootWorseRoot now frame arrivalPortNum).1 = s' :=
        congrArg Prod.fst (Except.ok.inj hstep)
      rw [← hfst]
      exact rootWorseRoot_keeps h hrole hcompare hne (hfinds (by rw [hcompare]; rfl) hrole)
    · cases hstep
      refine ⟨by simp [Same.refl], ?_⟩
      simp only [info_sendBPDU, info_updateInterfacedata, info_setDesignated, update_idem,
        update_self]
      exact h.update_of_le (.designated rfl) (by simp) hle
    · cases hstep
      exact .of_info h (Same.refl s) rfl
  | worseRpc | worseSrc | worsePort =>
    have hroot : (s.info arrivalPortNum).data.rootId =
        (frame.data (s.port arrivalPortNum).linkCost).rootId :=
      rootId_eq_of_not (by rw [hcompare]; decide) (by rw [hcompare]; decide)
    rw [hcompare] at hstep
    dsimp only at hstep
    split_ifs at hstep with hrole halternate
    · exact rootWorseWay_keeps h hrole hroot (by rw [hcompare]; decide)
        (hfinds (by rw [hcompare]; rfl) hrole) hstep
    · obtain ⟨case2, -, hstep⟩ := bind_eq_ok.1 hstep
      cases hstep
      have hsound := h.sound arrivalPortNum
      split_ifs
      · refine ⟨by simp [Same.refl], ?_⟩
        simp only [info_sendBPDU, info_updateInterfacedata, info_setDesignated,
          update_idem, update_self]
        exact h.update_of_le (.designated rfl) (by simp) hle
      · refine ⟨by simp [Same.refl], ?_⟩
        simp only [info_updateInterfacedata, info_resetLostBPDU, update_idem, update_self]
        refine h.update_of_le ⟨hsound.discarding, fun hroles => ?_⟩ ?_ hle
        · exact hroot ▸ hsound.below hroles
        · exact hrole
    · cases hstep
      refine ⟨by simp [Same.refl], ?_⟩
      rw [info_updateInterfacedata]
      have hsound := h.sound arrivalPortNum
      refine h.update_of_le ⟨hsound.discarding, fun hroles => ?_⟩ ?_ hle
      · exact (hroles.elim hrole halternate).elim
      · exact hrole
  | betterRoot | betterRpc | betterSrc | betterPort =>
    rw [hcompare] at hstep
    cases hstep
    exact .of_info h (Same.refl s) rfl

end SameSource

/-! ### BPDUs -/

section BPDU

variable {now : ℤ} {frame : BPDU} {arrivalPortNum : Fin numPorts} {src : MACAddress}

theorem sendBPDUs_keeps (h : Fits s.own s.info) :
    Keeps s ((s.sendBPDUs now).sendTCNtoRoot now) := by
  obtain ⟨hsame, hinfo⟩ := s.sendBPDUs_info now
  refine .of_info h ?_ ((info_sendTCNtoRoot _ now).trans hinfo)
  rw [sendTCNtoRoot]
  split
  · exact hsame
  · split_ifs
    · simpa using hsame
    · exact hsame

theorem expedite_keeps {t : Except RstpFault (RSTP numPorts × Bool)}
    (ht : ∀ u flood, t = .ok (u, flood) → Keeps s u)
    (hstep : t.map (fun (s, flood) => s.expedite now flood) = .ok s') : Keeps s s' := by
  cases t with
  | error e => cases hstep
  | ok result =>
    obtain ⟨u, flood⟩ := result
    cases hstep
    have hu := ht u flood rfl
    have hown : Fits u.own u.info := hu.same.own ▸ hu.fits
    refine .of_same hu.same ?_
    cases flood with
    | true => exact sendBPDUs_keeps hown
    | false => exact .of_info hown (Same.refl u) rfl

theorem processBPDU_keeps (h : Fits s.own s.info)
    (hadmissible : frame.rootAddress ≠ s.bridgeAddress → s.FindsPort frame arrivalPortNum)
    (hstep : s.processBPDU now frame arrivalPortNum = .ok s') : Keeps s s' := by
  have hcase : s.compareInterfacedata arrivalPortNum frame (s.port arrivalPortNum).linkCost =
      compareRSTPData (s.port arrivalPortNum).data
        (frame.data (s.port arrivalPortNum).linkCost) := rfl
  rw [FindsPort] at hadmissible
  rw [processBPDU] at hstep
  dsimp only at hstep
  rw [hcase] at hstep
  split_ifs at hstep with hbetter hsource
  · have hfinds := (if_pos hbetter.1).mp (hadmissible hbetter.2)
    exact expedite_keeps (fun _ _ hresult => processBetterSource_keeps h (isBetter_iff.1 hbetter.1)
      hfinds hresult) hstep
  · have hnot : ¬_ := fun hlt => hbetter ⟨hlt, hsource.2⟩
    have hfinds := (if_neg hnot).mp (hadmissible hsource.2) hsource.1
    exact expedite_keeps (fun _ _ hresult => processSameSource_keeps h
      (not_lt.1 (mt isBetter_iff.2 hnot)) hsource.2 hfinds hresult) hstep
  · cases hstep
    exact .of_info h (Same.refl s) rfl

theorem setBackup_keeps (h : Fits s.own s.info) (i : Fin numPorts) : Keeps s (s.setBackup i) := by
  refine ⟨by simp [setBackup, Same.refl], ?_⟩
  simp only [setBackup, info_resetLostBPDU, info_setRole, info_flush, update_idem, update_self]
  exact h.update_of_le (.blocked rfl (by simp) (by simp)) (by simp) le_rfl

theorem setDisabled_keeps (h : Fits s.own s.info) (i : Fin numPorts) :
    Keeps s ((s.flush i).setRole i .disabled .discarding) := by
  refine ⟨by simp [Same.refl], ?_⟩
  simp only [info_setRole, info_flush]
  exact h.update_of_le (.blocked rfl (by simp) (by simp)) (by simp) le_rfl

/-- What is done to the port with the number of the sender. -/
theorem senderPort_keeps {f : Fin numPorts → RSTP numPorts} (hf : ∀ i, Keeps s (f i))
    (hstep : (senderPort frame).map f = .ok s') : Keeps s s' := by
  rw [senderPort] at hstep
  split_ifs at hstep
  · cases hstep
    exact hf _
  · cases hstep

theorem handleBackup_keeps (h : Fits s.own s.info)
    (hstep : s.handleBackup frame arrivalPortNum = .ok s') : Keeps s s' := by
  rw [handleBackup] at hstep
  split_ifs at hstep
  · cases hstep
    exact setBackup_keeps h arrivalPortNum
  · exact senderPort_keeps (setBackup_keeps h) hstep
  · exact senderPort_keeps (setDisabled_keeps h) hstep

theorem findsPort_congr (hsame : Same s t) (hinfo : t.info = s.info) :
    t.FindsPort frame arrivalPortNum ↔ s.FindsPort frame arrivalPortNum := by
  have hroot : t.getRootIndex = s.getRootIndex := getRootIndex_congr fun i => by rw [hinfo]
  have halternate : t.getBestAlternate = s.getBestAlternate :=
    getBestAlternate_congr (fun i => by rw [hinfo]) fun i => by rw [hinfo]
  have hcost : ∀ i, (t.port i).linkCost = (s.port i).linkCost := fun i =>
    congrArg RstpPort.linkCost (congrFun hinfo i)
  have hdata : ∀ i, (t.port i).data = (s.port i).data := fun i =>
    congrArg RstpPort.data (congrFun hinfo i)
  have hedge : ∀ i, (t.port i).edge = (s.port i).edge := fun i =>
    congrArg RstpPort.edge (congrFun hinfo i)
  have hrole : ∀ i, (t.port i).role = (s.port i).role := fun i =>
    congrArg RstpPort.role (congrFun hinfo i)
  have hbridge : ∀ i, (t.port i).bridgeAddress = (s.port i).bridgeAddress := fun i =>
    congrArg RstpData.bridgeAddress (hdata i)
  simp only [FindsPort, FindsBetterSource, FindsSameSource, hroot, halternate, hcost, hdata, hedge,
    hrole, hbridge, hsame.own]

theorem handleIncomingFrame_keeps (h : Fits s.own s.info)
    (hadmissible : s.Admissible (now, .bpdu arrivalPortNum src frame))
    (hstep : s.handleIncomingFrame now arrivalPortNum src frame = .ok s') : Keeps s s' := by
  have hsame : Same s (s.checkTC now frame arrivalPortNum) := (same_checkTC _ _ _).2 (Same.refl s)
  have hinfo := s.info_checkTC arrivalPortNum now frame
  have hfits : Fits (s.checkTC now frame arrivalPortNum).own
      (s.checkTC now frame arrivalPortNum).info := by
    rw [hinfo, hsame.own]
    exact h
  rw [handleIncomingFrame] at hstep
  split_ifs at hstep with hage
  · dsimp only at hstep
    rw [hsame.bridgeAddress] at hstep
    split_ifs at hstep with hsrc
    · exact .of_same hsame (handleBackup_keeps hfits hstep)
    · refine .of_same hsame (processBPDU_keeps hfits ?_ hstep)
      rw [hsame.bridgeAddress, findsPort_congr hsame hinfo]
      exact hadmissible hage hsrc
  · cases hstep
    exact .of_info h (Same.refl s) rfl

end BPDU

/-! ### Timers -/

section Timers

variable (now : ℤ)

theorem upgradePort_keeps (h : Fits s.own s.info) (hasCarrier : Fin numPorts → Bool)
    (i : Fin numPorts) : Keeps s (s.upgradePort now hasCarrier i) := by
  rw [upgradePort]
  split_ifs
  · split
    case h_1 hrole _ =>
      refine ⟨by simp [Same.refl], ?_⟩
      rw [info_setDesignated]
      exact h.update_of_le (.designated rfl) (by simp) le_rfl
    case h_2 =>
      refine ⟨by simp [Same.refl], ?_⟩
      rw [info_nextUpgrade, info_setRole]
      exact h.update_of_le (.designated rfl) (by simp) le_rfl
    case h_3 =>
      refine ⟨by simp [Same.refl], ?_⟩
      rw [info_flushOtherPorts, info_setRole]
      exact h.update_of_le (.designated rfl) (by simp) le_rfl
    case h_4 => exact .of_info h (Same.refl s) rfl
  · exact .of_info h (Same.refl s) rfl

theorem handleUpgrade_keeps (h : Fits s.own s.info) (hasCarrier : Fin numPorts → Bool) :
    Keeps s (s.handleUpgrade now hasCarrier) := by
  rw [handleUpgrade]
  generalize finRange numPorts = l
  induction l generalizing s with
  | nil => exact .of_info h (Same.refl s) rfl
  | cons i l ih =>
    have hstep := upgradePort_keeps now h hasCarrier i
    exact .of_same hstep.same (ih (hstep.same.own ▸ hstep.fits))

theorem aged_sound {p : RstpPort} (h : p.Sound own) : (p.aged own).Sound own := by
  by_cases hlost : p.IsLost
  · rw [RstpPort.aged_of_isLost hlost]
    exact .designated rfl
  · obtain ⟨hrole, hstate, hdata⟩ := @RstpPort.aged_of_not_isLost own p hlost
    refine ⟨?_, ?_⟩
    · rw [hrole, hstate]
      exact h.discarding
    · rw [hrole, hdata]
      exact h.below

theorem aged_role {p : RstpPort} {role : PortRole}
    (h : (p.aged own).role = role) (hne : role ≠ .designated) : p.role = role ∧ ¬p.IsLost := by
  by_cases hlost : p.IsLost
  · rw [RstpPort.aged_of_isLost hlost] at h
    exact absurd h.symm hne
  · exact ⟨(RstpPort.aged_of_not_isLost hlost).1.symm.trans h, hlost⟩

variable {l : List (Fin numPorts)}

/-- The ports of the list, none of them a root port that is lost, at a hello time. -/
theorem foldl_helloPort_info (s : RSTP numPorts) (hl : l.Nodup)
    (hroot : ∀ i ∈ l, (s.info i).role = .root → ¬(s.info i).IsLost) :
    Same s (l.foldl (fun s i => s.helloPort now i) s) ∧
      (l.foldl (fun s i => s.helloPort now i) s).info =
        fun i => if i ∈ l then (s.info i).aged s.own else s.info i :=
  foldl_info (P := fun p => p.role = .root → ¬p.IsLost) (fun own _ p => p.aged own)
    (fun s i hP => helloPort_info now i s hP) s hl hroot

/-- No root port is lost. -/
theorem foldl_helloPort_keeps (h : Fits s.own s.info)
    (hroot : ∀ i, (s.info i).role = .root → ¬(s.info i).IsLost) :
    Keeps s ((finRange numPorts).foldl (fun s i => s.helloPort now i) s) := by
  obtain ⟨hsame, hinfo⟩ := foldl_helloPort_info now s (nodup_finRange numPorts)
    fun i _ => hroot i
  have hport : ((finRange numPorts).foldl (fun s i => s.helloPort now i) s).info =
      fun i => (s.info i).aged s.own := by
    rw [hinfo]
    funext i
    exact if_pos (mem_finRange i)
  refine ⟨hsame, ?_⟩
  rw [hport]
  refine ⟨fun i => aged_sound (h.sound i), fun i j hi hj => ?_, fun r hr j => ?_⟩
  · exact h.unique i j (aged_role hi (by decide)).1 (aged_role hj (by decide)).1
  · obtain ⟨hrole, hkept⟩ := aged_role hr (by decide)
    rw [(RstpPort.aged_of_not_isLost hkept).2.2]
    by_cases hlost : (s.info j).IsLost
    · rw [RstpPort.aged_of_isLost hlost]
      exact (key_lt_of_rootId_lt ((h.sound r).below (.inl hrole))).le
    · rw [(RstpPort.aged_of_not_isLost hlost).2.2]
      exact h.best r hrole j

/-- The ports when the lost root port `r` has its turn: those before it have had theirs. -/
structure Turn (s t : RSTP numPorts) (r : Fin numPorts) : Prop where
  fits : Fits s.own s.info
  role : (s.info r).role = .root
  lost : (s.info r).IsLost
  same : Same s t
  before : ∀ i, i < r → t.info i = (s.info i).aged s.own
  after : ∀ i, r ≤ i → t.info i = s.info i

namespace Turn

variable {r : Fin numPorts} (h : Turn s t r)
include h

theorem survives_iff (a : Fin numPorts) : (t.info a).role = .alternate ↔ s.Survives r a := by
  have halternate : (s.info a).role = .alternate → (¬(s.info a).IsLost ↔
      (s.info a).edge = true ∨ (s.info a).lostBPDU < 3) := by
    intro ha
    rw [RstpPort.IsLost, ha]
    cases (s.info a).edge <;> simp
  rcases lt_or_ge a r with hlt | hge
  · rw [h.before a hlt]
    constructor
    · intro ha
      obtain ⟨hrole, hkept⟩ := aged_role ha (by decide)
      exact ⟨hrole, .inr ((halternate hrole).1 hkept)⟩
    · rintro ⟨hrole, hsurvives⟩
      have hkept := (halternate hrole).2 (hsurvives.resolve_left hlt.not_gt)
      exact (RstpPort.aged_of_not_isLost hkept).1.trans hrole
  · rw [h.after a hge]
    refine ⟨fun ha => ⟨ha, .inl (lt_of_le_of_ne hge ?_)⟩, fun ha => ha.1⟩
    rintro rfl
    rw [h.role] at ha
    cases ha

theorem data_of_not_isLost {i : Fin numPorts} (hi : ¬(s.info i).IsLost) :
    (t.info i).data = (s.info i).data := by
  rcases lt_or_ge i r with hlt | hge
  · rw [h.before i hlt, (RstpPort.aged_of_not_isLost hi).2.2]
  · rw [h.after i hge]

theorem data_of_survives {a : Fin numPorts} (ha : s.Survives r a) :
    (t.info a).data = (s.info a).data := by
  rcases lt_or_ge a r with hlt | hge
  · rw [h.before a hlt]
    have halternate := (h.survives_iff a).2 ha
    rw [h.before a hlt] at halternate
    exact (RstpPort.aged_of_not_isLost (aged_role halternate (by decide)).2).2.2
  · rw [h.after a hge]

theorem sound (i : Fin numPorts) : (t.info i).Sound s.own := by
  rcases lt_or_ge i r with hlt | hge
  · rw [h.before i hlt]
    exact aged_sound (h.fits.sound i)
  · rw [h.after i hge]
    exact h.fits.sound i

theorem role_root {i : Fin numPorts} (hi : (t.info i).role = .root) : i = r := by
  rcases lt_or_ge i r with hlt | hge
  · rw [h.before i hlt] at hi
    exact h.fits.unique i r (aged_role hi (by decide)).1 h.role
  · rw [h.after i hge] at hi
    exact h.fits.unique i r hi h.role

theorem info_self : t.info r = s.info r := h.after r le_rfl

/-- No alternate port is left: all ports start anew. -/
theorem none_keeps (hnone : t.getBestAlternate = none) (hl : l.Nodup) :
    Keeps s (l.foldl (fun s i => s.helloPort now i) (t.helloPort now r)) := by
  obtain ⟨hsame, hinfo, -⟩ := helloPort_lost now r (s := t) (by rw [h.info_self]; exact h.role)
    (by rw [h.info_self]; exact h.lost)
  have hinfo := hinfo hnone
  generalize t.helloPort now r = u at *
  have hrole : ∀ i, (u.info i).role ≠ .root := by
    intro i
    rw [hinfo]
    exact initialPort_role _ _
  have hsound : ∀ i, (u.info i).Sound s.own := by
    intro i
    rw [hinfo, h.same.own]
    exact initialPort_sound _ _
  obtain ⟨hsame', hinfo'⟩ := foldl_helloPort_info now u hl fun i _ hi => absurd hi (hrole i)
  refine ⟨h.same.trans (hsame.trans hsame'), ?_⟩
  rw [hinfo', (h.same.trans hsame).own]
  refine Fits.of_not_root (fun i => ?_) fun i hi => ?_
  · split_ifs
    · exact aged_sound (hsound i)
    · exact hsound i
  · split_ifs at hi
    · exact hrole i (aged_role hi (by decide)).1
    · exact hrole i hi

variable {c : Fin numPorts}

/-- The best alternate port is at least as good as the ports that are not lost. -/
theorem key_le (hfinds : s.FindsAlternate) (hsome : t.getBestAlternate = some c) {j : Fin numPorts}
    (hjr : j ≠ r) (hj : ¬(s.info j).IsLost) :
    (t.info c).data.key ≤ (t.info j).data.key := by
  obtain ⟨hc, hbest⟩ := getBestAlternate_eq_some hsome
  by_cases halternate : (t.info j).role = .alternate
  · exact hbest j halternate
  have hrole : (t.info j).role = (s.info j).role := by
    rcases lt_or_ge j r with hlt | hge
    · rw [h.before j hlt, (RstpPort.aged_of_not_isLost hj).1]
    · rw [h.after j hge]
  rw [hrole] at halternate
  obtain ⟨a, ha, hle⟩ := hfinds r h.role h.lost.1 h.lost.2.2 ⟨c, (h.survives_iff c).1 hc⟩ j
    (fun hroot => hjr (h.fits.unique j r hroot h.role)) halternate
    fun hbackup => hj ⟨hbackup.2.1, .inr (.inr hbackup.1), hbackup.2.2⟩
  refine (hbest a ((h.survives_iff a).2 ha)).trans ?_
  rw [h.data_of_survives ha, h.data_of_not_isLost hj]
  exact notWorse_iff.1 hle

/-- The best alternate port becomes the root port. -/
theorem some_keeps (hfinds : s.FindsAlternate) (hsome : t.getBestAlternate = some c) (hl : l.Nodup)
    (hmem : ∀ i, i ∈ l ↔ r < i) :
    Keeps s (l.foldl (fun s i => s.helloPort now i) (t.helloPort now r)) := by
  obtain ⟨hsame, -, hinfo⟩ := helloPort_lost now r (s := t) (by rw [h.info_self]; exact h.role)
    (by rw [h.info_self]; exact h.lost)
  have hinfo := hinfo c hsome
  obtain ⟨hc, hbest⟩ := getBestAlternate_eq_some hsome
  have hsurvives := (h.survives_iff c).1 hc
  have hcr : c ≠ r := by
    rintro rfl
    rw [h.info_self, h.role] at hc
    cases hc
  generalize t.helloPort now r = u at *
  have hother : ∀ i, i ≠ c → i ≠ r → u.info i = t.info i := by
    intro i hic hir
    rw [hinfo, update_of_ne hic, update_of_ne hir]
  have huc : u.info c = { t.info c with role := .root, state := .forwarding, lostBPDU := 0 } := by
    rw [hinfo, update_self]
  have hur : u.info r = { t.info r with
      role := .designated, state := .discarding, data := s.own, lostBPDU := 0 } := by
    rw [hinfo, update_of_ne hcr.symm, update_self, h.same.own]
  have hrole : ∀ i, (u.info i).role = .root → i = c := by
    intro i hi
    by_contra hic
    by_cases hir : i = r
    · rw [hir, hur] at hi
      cases hi
    · rw [hother i hic hir] at hi
      exact hir (h.role_root hi)
  have hkept : ∀ i, (u.info i).role = .root → ¬(u.info i).IsLost := by
    intro i hi hlost
    rw [hrole i hi, huc] at hlost
    exact Nat.not_succ_le_zero 2 hlost.2.2
  have hbelow : (t.info c).data.rootId < s.own.rootId := (h.sound c).below (.inr hc)
  have hown : u.own = s.own := (h.same.trans hsame).own
  obtain ⟨hsame', hinfo'⟩ := foldl_helloPort_info now u hl fun i _ => hkept i
  refine ⟨h.same.trans (hsame.trans hsame'), ?_⟩
  rw [hinfo', hown]
  have hsound : ∀ i, (u.info i).Sound s.own := by
    rw [hinfo]
    refine sound_update (sound_update h.sound (.designated rfl)) (.root rfl hbelow)
  have hdata : (if c ∈ l then (u.info c).aged s.own else u.info c).data = (t.info c).data := by
    split_ifs
    · rw [(RstpPort.aged_of_not_isLost (hkept c (by rw [huc]))).2.2, huc]
    · rw [huc]
  refine Fits.of_root (fun i => ?_) c (fun i hi => ?_) fun j => ?_
  · split_ifs
    · exact aged_sound (hsound i)
    · exact hsound i
  · split_ifs at hi
    · exact hrole i (aged_role hi (by decide)).1
    · exact hrole i hi
  · rw [hdata]
    by_cases hjc : j = c
    · rw [hjc, hdata]
    by_cases hjr : j = r
    · rw [hjr, if_neg (by rw [hmem]; exact lt_irrefl r), hur]
      exact (key_lt_of_rootId_lt hbelow).le
    rw [hother j hjc hjr]
    by_cases hlost : (s.info j).IsLost
    · have hreset : (if j ∈ l then (t.info j).aged s.own else t.info j).data = s.own := by
        rcases lt_or_gt_of_ne hjr with hlt | hgt
        · rw [if_neg (by rw [hmem]; exact hlt.not_gt), h.before j hlt,
            RstpPort.aged_of_isLost hlost]
        · rw [if_pos ((hmem j).2 hgt), h.after j hgt.le, RstpPort.aged_of_isLost hlost]
      rw [hreset]
      exact (key_lt_of_rootId_lt hbelow).le
    · have hstays : (if j ∈ l then (t.info j).aged s.own else t.info j).data = (t.info j).data := by
        split_ifs with hj
        · rw [h.after j ((hmem j).1 hj).le, (RstpPort.aged_of_not_isLost hlost).2.2]
        · rfl
      rw [hstays]
      exact h.key_le hfinds hsome hjr hlost

end Turn

theorem handleHelloTime_keeps (h : Fits s.own s.info) (hfinds : s.FindsAlternate) :
    Keeps s (s.handleHelloTime now) := by
  have hkeeps : Keeps s ((finRange numPorts).foldl (fun s i => s.helloPort now i) s) := by
    by_cases hlost : ∀ i, (s.info i).role = .root → ¬(s.info i).IsLost
    · exact foldl_helloPort_keeps now h hlost
    push Not at hlost
    obtain ⟨r, hrole, hr⟩ := hlost
    -- the ports before the root port, and those after it
    obtain ⟨before, after, hsplit⟩ := append_of_mem (mem_finRange r)
    have hsorted : (before ++ r :: after).Pairwise (· < ·) := hsplit ▸ pairwise_lt_finRange numPorts
    obtain ⟨hbefore, hrest, hlt⟩ := pairwise_append.1 hsorted
    obtain ⟨hgt, hafter⟩ := pairwise_cons.1 hrest
    have hmem : ∀ i, i ∈ before ∨ i = r ∨ i ∈ after := fun i => by
      have hi := hsplit ▸ mem_finRange i
      simpa using hi
    have hmembefore : ∀ i, i ∈ before ↔ i < r := by
      refine fun i => ⟨fun hi => hlt i hi r mem_cons_self, fun hi => ?_⟩
      rcases hmem i with hi' | rfl | hi'
      · exact hi'
      · exact absurd hi (lt_irrefl _)
      · exact absurd hi (hgt i hi').not_gt
    have hmemafter : ∀ i, i ∈ after ↔ r < i := by
      refine fun i => ⟨hgt i, fun hi => ?_⟩
      rcases hmem i with hi' | rfl | hi'
      · exact absurd hi ((hmembefore i).1 hi').not_gt
      · exact absurd hi (lt_irrefl _)
      · exact hi'
    obtain ⟨hsame, hinfo⟩ := foldl_helloPort_info now s (hbefore.imp ne_of_lt) fun i hi hroot =>
      absurd (h.unique i r hroot hrole) ((hmembefore i).1 hi).ne
    have hturn : Turn s (before.foldl (fun s i => s.helloPort now i) s) r := by
      refine ⟨h, hrole, hr, hsame, fun i hi => ?_, fun i hi => ?_⟩
      · rw [hinfo]
        exact if_pos ((hmembefore i).2 hi)
      · rw [hinfo]
        exact if_neg fun hmem => hi.not_gt ((hmembefore i).1 hmem)
    rw [hsplit, foldl_append, foldl_cons]
    cases halternate : (before.foldl (fun s i => s.helloPort now i) s).getBestAlternate with
    | none => exact hturn.none_keeps now halternate (hafter.imp ne_of_lt)
    | some c => exact hturn.some_keeps now hfinds halternate (hafter.imp ne_of_lt) hmemafter
  exact .of_same hkeeps.same (sendBPDUs_keeps (hkeeps.same.own ▸ hkeeps.fits))

end Timers

/-! ### Runs -/

theorem handleMessage_keeps (h : Fits s.own s.info) {m : ℤ × RstpMessage numPorts}
    (hadmissible : s.Admissible m) (hstep : s.handleMessage m = .ok s') : Keeps s s' := by
  obtain ⟨now, m⟩ := m
  cases m with
  | bpdu arrivalPortNum src frame => exact handleIncomingFrame_keeps h hadmissible hstep
  | helloTime =>
    cases hstep
    exact handleHelloTime_keeps now h hadmissible
  | upgrade hasCarrier =>
    cases hstep
    exact handleUpgrade_keeps now h hasCarrier

theorem consistent_of_fits (h : Fits s.own s.info) : s.Consistent := by
  refine ⟨h.unique, fun r hr j => notWorse_iff.2 (h.best r hr j), fun r hr i tcFlag => ?_,
    fun i => (h.sound i).discarding⟩
  cases hroot : s.getRootIndex with
  | none => exact absurd hr ((getRootIndex_eq_none s).1 hroot r)
  | some r' =>
    obtain rfl := h.unique r r' hr (getRootIndex_role hroot)
    exact ⟨rfl, rfl⟩

instance (r a : Fin numPorts) : Decidable (s.Survives r a) := instDecidableAnd

instance : Decidable s.FindsAlternate := Nat.decidableForallFin _

/-- A condition that depends on whether a port has been found. -/
instance decidableFound {p : Prop} {q : Fin numPorts → Prop} [Decidable p] [DecidablePred q] :
    (found : Option (Fin numPorts)) → Decidable (match found with | none => p | some i => q i)
  | none => inferInstanceAs (Decidable p)
  | some i => inferInstanceAs (Decidable (q i))

instance (frame : BPDU) (arrivalPortNum : Fin numPorts) :
    Decidable (s.FindsBetterSource frame arrivalPortNum) :=
  decidableFound s.getRootIndex

instance (frame : BPDU) (arrivalPortNum : Fin numPorts) :
    Decidable (s.FindsSameSource frame arrivalPortNum) :=
  decidableFound s.getBestAlternate

instance (frame : BPDU) (arrivalPortNum : Fin numPorts) :
    Decidable (s.FindsPort frame arrivalPortNum) :=
  instDecidableIte

instance : (m : ℤ × RstpMessage numPorts) → Decidable (s.Admissible m)
  | (_, .bpdu arrivalPortNum src frame) =>
    inferInstanceAs (Decidable (frame.messageAge < s.maxAge → src ≠ s.bridgeAddress →
      frame.rootAddress ≠ s.bridgeAddress → s.FindsPort frame arrivalPortNum))
  | (_, .helloTime) => inferInstanceAs (Decidable s.FindsAlternate)
  | (_, .upgrade _) => inferInstanceAs (Decidable True)

/-- A bridge with two ports. -/
def sampleBridge : RSTP 2 where
  bridgePriority := 32768
  bridgeAddress := 0x0AAA00000001
  maxAge := 20 * second
  helloTime := 2 * second
  forwardDelay := 4 * second
  migrateTime := 3 * second
  tcWhileTime := 5 * second
  port _ := { InterfaceData.initial with linkCost := 19 }

/-- The first port of a neighbour announces a root. -/
def announcement (rootPriority rootPathCost : ℕ) (bridgeAddress : MACAddress) : BPDU where
  bpduType := 0
  tcaFlag := false
  tcFlag := false
  rootAddress := 0x0AAA00000010
  rootPriority := rootPriority
  rootPathCost := rootPathCost
  bridgeAddress := bridgeAddress
  bridgePriority := 32768
  portNum := 0
  portPriority := 0
  messageAge := 0
  maxAge := 20 * second
  helloTime := 2 * second
  forwardDelay := 4 * second

local instance samplePorts : NeZero 2 := ⟨Nat.succ_ne_zero 1⟩

/-- A neighbour at each port announces the same root, then the first one a better root. -/
def sampleMessages : List (ℤ × RstpMessage 2) :=
  [(0, .bpdu 0 0x0AAA00000002 (announcement 100 0 0x0AAA00000002)),
    (0, .bpdu 1 0x0AAA00000003 (announcement 100 10 0x0AAA00000003)),
    (second, .bpdu 0 0x0AAA00000002 (announcement 50 0 0x0AAA00000002))]

end RSTP

end Ieee8021d

end Hiwis
