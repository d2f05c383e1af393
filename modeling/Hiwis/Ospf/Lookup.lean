import Hiwis.Lib.Leading
import Hiwis.Ospf.RoutingTableEntry

/-!
# Lookup in the OSPF routing table

`Router::lookup` keeps the entry with the greatest masked destination, not the one with the longest
mask.

* `OSPF.lookup_eq` : what the loops find;
* `OSPF.lookupOk_iff` : when that is the entry with the longest mask.
-/

namespace Hiwis

open List

namespace OSPF

/-- The address ranges that are configured for an area. -/
structure AreaAddressRanges where
  areaID : AreaID
  areaAddressRanges : List IPv4AddressRange
  deriving DecidableEq

/-- An entry that makes an address range active. -/
def activates (range : IPv4AddressRange) (entry : RoutingTableEntry) : Bool :=
  entry.destinationType == networkDestination &&
    (range.containsRange entry.destination entry.netmask && entry.pathType == .intraArea)

/-- The entry that discards what is in an active address range. -/
def discardEntry (areaID : AreaID) (range : IPv4AddressRange) : RoutingTableEntry :=
  { destination := range.address
    netmask := range.mask
    destinationType := networkDestination
    pathType := .interArea
    area := areaID }

/-- The temporary discard entries. -/
def discards (areas : List AreaAddressRanges) (rTable : List RoutingTableEntry) :
    List RoutingTableEntry :=
  areas.flatMap fun area =>
    (area.areaAddressRanges.filter fun range => rTable.any (activates range)).map
      (discardEntry area.areaID)

/-- One entry in the search for the best match and its masked destination. -/
def matchStep (dest : IPv4Address) (best : Option RoutingTableEntry × IPv4Address)
    (entry : RoutingTableEntry) : Option RoutingTableEntry × IPv4Address :=
  if entry.destinationType = networkDestination then
    if entry.destination &&& entry.netmask = dest &&& entry.netmask then
      if best.2 < dest &&& entry.netmask then (some entry, dest &&& entry.netmask) else best
    else best
  else best

/-- `Router::lookup`. -/
def lookup (areas : List AreaAddressRanges) (rTable : List RoutingTableEntry)
    (dest : IPv4Address) : Option RoutingTableEntry :=
  let discard := discards areas rTable
  let (bestMatch, longestMatch) := rTable.foldl (matchStep dest) (none, 0)
  let unreachable :=
    match bestMatch with
    | none => true
    | some _ => discard.any fun entry =>
        entry.destination &&& entry.netmask == dest &&& entry.netmask &&
          decide (longestMatch < dest &&& entry.netmask)
  if unreachable then none else bestMatch

variable {areas : List AreaAddressRanges} {rTable : List RoutingTableEntry} {dest : IPv4Address}
  {entry e : RoutingTableEntry} {result : Option RoutingTableEntry}

/-! ### What a lookup is for -/

/-- An address range is active when it contains the network of an intra-area entry. -/
def ActiveRange (areas : List AreaAddressRanges) (rTable : List RoutingTableEntry)
    (range : IPv4AddressRange) : Prop :=
  (∃ area ∈ areas, range ∈ area.areaAddressRanges) ∧ ∃ entry ∈ rTable,
    entry.destinationType = networkDestination ∧
      range.containsRange entry.destination entry.netmask = true ∧ entry.pathType = .intraArea

/-- The destination with a mask. -/
def maskedBy (dest mask : IPv4Address) : ℕ := (dest &&& mask).toNat

/-- An active address range that contains the destination comes before all matching entries, where
masks are compared by a key. -/
def Preceded (key : IPv4Address → ℕ) (areas : List AreaAddressRanges)
    (rTable : List RoutingTableEntry) (dest : IPv4Address) : Prop :=
  ∃ range, ActiveRange areas rTable range ∧ range.contains dest = true ∧
    ∀ entry ∈ rTable, entry.Covers dest → key entry.netmask < key range.mask

/-- A lookup finds a matching entry with the longest mask.  It finds nothing when no entry matches,
or when an active address range is more specific than the best match. -/
structure LookupOk (areas : List AreaAddressRanges) (rTable : List RoutingTableEntry)
    (dest : IPv4Address) (result : Option RoutingTableEntry) : Prop where
  found : ∀ entry, result = some entry → entry ∈ rTable ∧ entry.Covers dest ∧
    (∀ e ∈ rTable, e.Covers dest → e.netmask ≤ entry.netmask) ∧
      ¬ Preceded BitVec.toNat areas rTable dest
  null : result = none →
    (∀ entry ∈ rTable, ¬ entry.Covers dest) ∨ Preceded BitVec.toNat areas rTable dest

/-! ### What the loops find -/

/-- The entries that the search considers. -/
def isCandidate (dest : IPv4Address) (entry : RoutingTableEntry) : Bool :=
  decide (entry.Covers dest ∧ 0 < dest &&& entry.netmask)

/-- The masked destination, by which the search compares entries. -/
def maskedDestination (dest : IPv4Address) (entry : RoutingTableEntry) : ℕ :=
  maskedBy dest entry.netmask

theorem isCandidate_iff :
    isCandidate dest entry = true ↔ entry.Covers dest ∧ dest &&& entry.netmask ≠ 0 := by
  have hpos : 0 < dest &&& entry.netmask ↔ dest &&& entry.netmask ≠ 0 := by
    rw [BitVec.lt_def, ne_eq, ← BitVec.toNat_inj]
    exact Nat.pos_iff_ne_zero
  rw [isCandidate, decide_eq_true_eq, hpos]

/-- The state of the search for the best match so far. -/
def matchState (dest : IPv4Address) :
    Option RoutingTableEntry → Option RoutingTableEntry × IPv4Address
  | none => (none, 0)
  | some entry => (some entry, dest &&& entry.netmask)

theorem foldl_matchStep (rTable : List RoutingTableEntry) (dest : IPv4Address) :
    rTable.foldl (matchStep dest) (none, 0) =
      matchState dest ((rTable.filter (isCandidate dest)).argmax (maskedDestination dest)) := by
  change rTable.foldl (matchStep dest) (matchState dest none) = _
  refine Leading.foldl_eq (fun s entry h => ?_) (fun entry h => ?_) fun b entry h => ?_
  · -- what the search skips is not greater than 0
    unfold matchStep
    split_ifs with hnet hcovers hlt
    · rw [isCandidate, decide_eq_false_iff_not] at h
      refine absurd ⟨⟨hnet, hcovers⟩, ?_⟩ h
      rw [BitVec.lt_def] at hlt ⊢
      exact lt_of_le_of_lt (Nat.zero_le _) hlt
    · rfl
    · rfl
    · rfl
  · rw [isCandidate, decide_eq_true_eq] at h
    rw [matchStep, if_pos h.1.1, if_pos h.1.2]
    exact if_pos h.2
  · rw [isCandidate, decide_eq_true_eq] at h
    rw [matchStep, if_pos h.1.1, if_pos h.1.2]
    simp only [matchState, maskedDestination, maskedBy, BitVec.lt_def]
    rfl

theorem mem_discards :
    entry ∈ discards areas rTable ↔ ∃ area ∈ areas, ∃ range ∈ area.areaAddressRanges,
      (∃ e ∈ rTable, activates range e = true) ∧ discardEntry area.areaID range = entry := by
  simp only [discards, mem_flatMap, mem_map, mem_filter, any_eq_true, and_assoc]

/-- The entry that the search finds. -/
def bestMatch (rTable : List RoutingTableEntry) (dest : IPv4Address) : Option RoutingTableEntry :=
  (rTable.filter (isCandidate dest)).argmax (maskedDestination dest)

theorem bestMatch_none (h : bestMatch rTable dest = none) (he : e ∈ rTable) (hc : e.Covers dest) :
    dest &&& e.netmask = 0 := by
  by_contra hne
  have hmem : e ∈ rTable.filter (isCandidate dest) := mem_filter.2 ⟨he, isCandidate_iff.2 ⟨hc, hne⟩⟩
  rw [argmax_eq_none.1 h] at hmem
  cases hmem

theorem bestMatch_some (h : bestMatch rTable dest = some entry) :
    entry ∈ rTable ∧ entry.Covers dest ∧ dest &&& entry.netmask ≠ 0 := by
  obtain ⟨hmem, hcandidate⟩ := mem_filter.1 (argmax_mem h)
  exact ⟨hmem, isCandidate_iff.1 hcandidate⟩

/-- The masked destination is at most the one of the entry that the search finds. -/
theorem le_bestMatch (h : bestMatch rTable dest = some entry) (he : e ∈ rTable)
    (hc : e.Covers dest) : maskedBy dest e.netmask ≤ maskedBy dest entry.netmask := by
  by_cases hzero : dest &&& e.netmask = 0
  · rw [maskedBy, hzero]
    exact Nat.zero_le _
  · exact le_of_mem_argmax (f := maskedDestination dest)
      (mem_filter.2 ⟨he, isCandidate_iff.2 ⟨hc, hzero⟩⟩) h

/-- A discard entry beats the best match when it has a greater masked destination. -/
theorem discards_any_iff (areas : List AreaAddressRanges) (h : bestMatch rTable dest = some e) :
    ((discards areas rTable).any fun entry =>
      entry.destination &&& entry.netmask == dest &&& entry.netmask &&
        decide (dest &&& e.netmask < dest &&& entry.netmask)) = true ↔
      Preceded (maskedBy dest) areas rTable dest := by
  rw [any_eq_true]
  constructor
  · rintro ⟨entry, hentry, hbeats⟩
    obtain ⟨area, harea, range, hrange, ⟨e', he', hactive⟩, rfl⟩ := mem_discards.1 hentry
    rw [Bool.and_eq_true, beq_iff_eq, decide_eq_true_eq] at hbeats
    rw [activates, Bool.and_eq_true, Bool.and_eq_true, beq_iff_eq, beq_iff_eq] at hactive
    refine ⟨range, ⟨⟨area, harea, hrange⟩, e', he', hactive⟩,
      maskedAddrAreEqual_iff.2 hbeats.1, fun entry hentry hcovers => ?_⟩
    exact lt_of_le_of_lt (le_bestMatch h hentry hcovers) (BitVec.lt_def.1 hbeats.2)
  · rintro ⟨range, ⟨⟨area, harea, hrange⟩, e', he', hactive⟩, hcontains, hlt⟩
    obtain ⟨hmem, hcovers, -⟩ := bestMatch_some h
    refine ⟨discardEntry area.areaID range, mem_discards.2
      ⟨area, harea, range, hrange, ⟨e', he', ?_⟩, rfl⟩, ?_⟩
    · rw [activates, Bool.and_eq_true, Bool.and_eq_true, beq_iff_eq, beq_iff_eq]
      exact hactive
    · rw [Bool.and_eq_true, beq_iff_eq, decide_eq_true_eq]
      exact ⟨maskedAddrAreEqual_iff.1 hcontains, BitVec.lt_def.2 (hlt e hmem hcovers)⟩

theorem lookup_of_none (h : bestMatch rTable dest = none) : lookup areas rTable dest = none := by
  unfold bestMatch at h
  rw [lookup, foldl_matchStep, h]
  rfl

theorem lookup_of_some (areas : List AreaAddressRanges) (h : bestMatch rTable dest = some e) :
    (Preceded (maskedBy dest) areas rTable dest → lookup areas rTable dest = none) ∧
      (¬ Preceded (maskedBy dest) areas rTable dest → lookup areas rTable dest = some e) := by
  have hany := discards_any_iff areas h
  unfold bestMatch at h
  rw [lookup, foldl_matchStep, h]
  exact ⟨fun hpreceded => if_pos (hany.2 hpreceded), fun hnot =>
    if_neg fun hcon => hnot (hany.1 hcon)⟩

/-! ### When the masked destination decides as the mask does -/

/-- The comparison by the masked destination decides as the comparison by the mask does: for the
entries, and for the active address ranges. -/
def MaskDecides (areas : List AreaAddressRanges) (rTable : List RoutingTableEntry)
    (dest : IPv4Address) : Prop :=
  (∀ entry ∈ rTable, ¬ entry.Covers dest) ∨
  (Preceded BitVec.toNat areas rTable dest ∧ (Preceded (maskedBy dest) areas rTable dest ∨
    ∀ entry ∈ rTable, entry.Covers dest → dest &&& entry.netmask = 0)) ∨
  (¬ Preceded BitVec.toNat areas rTable dest ∧ ¬ Preceded (maskedBy dest) areas rTable dest ∧
    ∃ entry, Leading.Leads (maskedDestination dest) (rTable.filter (isCandidate dest)) entry ∧
      ∀ e ∈ rTable, e.Covers dest → e.netmask ≤ entry.netmask)

/-- A lookup is right exactly when the masked destination decides as the mask does. -/
theorem lookupOk_iff (areas : List AreaAddressRanges) (rTable : List RoutingTableEntry)
    (dest : IPv4Address) :
    LookupOk areas rTable dest (lookup areas rTable dest) ↔ MaskDecides areas rTable dest := by
  constructor
  · intro hok
    cases hbest : bestMatch rTable dest with
    | none =>
      rcases hok.null (lookup_of_none hbest) with hno | hpreceded
      · exact .inl hno
      · exact .inr (.inl ⟨hpreceded, .inr fun e he => bestMatch_none hbest he⟩)
    | some e =>
      by_cases hvalue : Preceded (maskedBy dest) areas rTable dest
      · have hnull := (lookup_of_some areas hbest).1 hvalue
        rcases hok.null hnull with hno | hpreceded
        · exact .inl hno
        · exact .inr (.inl ⟨hpreceded, .inl hvalue⟩)
      · have hfound := (lookup_of_some areas hbest).2 hvalue
        obtain ⟨-, -, hlongest, hnot⟩ := hok.found e hfound
        exact .inr (.inr ⟨hnot, hvalue, e, Leading.leads_of_argmax hbest, hlongest⟩)
  · rintro (hno | ⟨hpreceded, hvalue⟩ | ⟨hnot, hvalue, e, hleads, hlongest⟩)
    · -- an entry that is found matches
      refine ⟨fun entry hentry => ?_, fun _ => .inl hno⟩
      cases hbest : bestMatch rTable dest with
      | none =>
        rw [lookup_of_none hbest] at hentry
        cases hentry
      | some e =>
        obtain ⟨hmem, hcovers, -⟩ := bestMatch_some hbest
        exact absurd hcovers (hno e hmem)
    · have hnull : lookup areas rTable dest = none := by
        cases hbest : bestMatch rTable dest with
        | none => exact lookup_of_none hbest
        | some e =>
          obtain ⟨hmem, hcovers, hne⟩ := bestMatch_some hbest
          refine (lookup_of_some areas hbest).1 (hvalue.resolve_right fun hzero => ?_)
          exact hne (hzero e hmem hcovers)
      rw [hnull]
      exact ⟨fun entry hentry => (by cases hentry), fun _ => .inr hpreceded⟩
    · have hbest : bestMatch rTable dest = some e := Leading.argmax_eq_some_iff.2 hleads
      rw [(lookup_of_some areas hbest).2 hvalue]
      refine ⟨fun entry hentry => ?_, fun hnull => (by cases hnull)⟩
      cases hentry
      obtain ⟨hmem, hcovers, -⟩ := bestMatch_some hbest
      exact ⟨hmem, hcovers, hlongest, hnot⟩

/-- The default route is never found. -/
theorem not_lookupOk_default :
    ¬ LookupOk [] [{ destination := 0, netmask := 0 }] 0x0a000001
      (lookup [] [{ destination := 0, netmask := 0 }] 0x0a000001) := by
  intro hok
  rcases hok.null (by decide) with hno | ⟨range, ⟨⟨area, harea, -⟩, -⟩, -⟩
  · exact hno _ mem_cons_self (by decide)
  · cases harea

end OSPF

end Hiwis
