import Hiwis.Lib.Index
import Hiwis.Ospf.AgeDatabase

/-!
# What aging does to an LSA

* `OSPF.ageLSA_below` : an LSA below MAX_AGE ages, is originated again or is flushed, unless it is
  one of the router's own that has passed the refresh time;
* `OSPF.LSADatabase.WellFormed.ageLSAs` : the loop over a vector does this to every LSA of it, and
  keeps the vector and the map together.
-/

namespace Hiwis

open List Option Except Store

namespace OSPF

variable {β : Type*}

/-- An LSA grows older, or is originated again, or has reached MAX_AGE; in the last two cases it is
flooded. -/
def Advances (lsa lsa' : LSA β) (flooded : Prop) : Prop :=
  lsa' = (lsa.setLsAge (lsa.header.lsAge + 1)).incrementInstallTime ∨
    (lsa'.header.lsAge = 0 ∧ lsa.header.lsSequenceNumber < lsa'.header.lsSequenceNumber ∧ flooded) ∨
    (lsa'.header.lsAge = maxAge ∧ flooded)

/-- The router counts as the originator of the LSA, which is past the refresh time but has not
reached MAX_AGE. -/
def InGap (kind : LSAKind) (routerID : RouterID) (ctx : AgeContext β) (lsa : LSA β) : Prop :=
  selfOriginated kind routerID ctx lsa = true ∧ lsRefreshTime ≤ lsa.header.lsAge ∧
    lsa.header.lsAge < maxAge

/-! ### One LSA -/

section OneLSA

variable {kind : LSAKind} {routerID : RouterID} {ctx : AgeContext β} {lsa lsa' : LSA β}
  {flooded : Bool}

variable {new : LSA β}

/-- An LSA with a new header that was originated has age 0. -/
theorem newLSA_lsAge (h : newLSA kind routerID ctx lsa = some new) :
    new.header.lsAge = 0 := by
  cases kind with
  | routerLSA =>
    cases h
    rfl
  | networkLSA =>
    obtain ⟨intf, -, hnew⟩ := bind_eq_some_iff.1 h
    rw [originateNetworkLSA] at hnew
    split_ifs at hnew
    cases hnew
    rfl
  | summaryLSA =>
    obtain ⟨⟨lsType, linkStateID⟩, -, rfl⟩ := map_eq_some_iff.1 h
    rfl
  | asExternalLSA =>
    cases h
    rfl

/-- The router refreshes its own LSA, or flushes it. -/
theorem ageLSA_refresh (hself : selfOriginated kind routerID ctx lsa = true)
    (hage : lsa.header.lsAge = lsRefreshTime - 1) :
    ∃ lsa', ageLSA kind routerID ctx lsa = .kept lsa' true ∧
      (lsa'.header.lsAge = 0 ∧ lsa.header.lsSequenceNumber < lsa'.header.lsSequenceNumber ∨
        lsa'.header.lsAge = maxAge) := by
  have hnot : ¬(selfOriginated kind routerID ctx lsa = true ∧
      lsa.header.lsAge < lsRefreshTime - 1 ∨
        selfOriginated kind routerID ctx lsa = false ∧ lsa.header.lsAge < maxAge - 1) := by
    rw [hself, hage]
    simp
  rw [ageLSA]
  rw [if_neg hnot, if_pos ⟨hself, hage⟩]
  split_ifs with hflush
  · exact ⟨_, rfl, .inr rfl⟩
  · cases hnew : newLSA kind routerID ctx lsa with
    | some new =>
      have hzero : new.header.lsAge = 0 := newLSA_lsAge hnew
      exact ⟨_, rfl, .inl ⟨hzero, Int.lt_succ _⟩⟩
    | none => exact ⟨_, rfl, .inr rfl⟩

/-- **An LSA below MAX_AGE advances, unless it is one of the router's own past the refresh time**;
such an LSA is left as it is. -/
theorem ageLSA_below (hage : lsa.header.lsAge < maxAge) :
    ∃ lsa' flooded, ageLSA kind routerID ctx lsa = .kept lsa' flooded ∧
      (Advances lsa lsa' (flooded = true) ↔ ¬InGap kind routerID ctx lsa) := by
  by_cases hgap : InGap kind routerID ctx lsa
  · obtain ⟨hself, hle, -⟩ := id hgap
    refine ⟨lsa, false, ?_, iff_of_false (fun hadv => ?_) (not_not.2 hgap)⟩
    · rw [ageLSA]
      have hrefresh : ¬lsa.header.lsAge < lsRefreshTime - 1 := by omega
      have hne : lsa.header.lsAge ≠ lsRefreshTime - 1 := by
        simp only [lsRefreshTime] at hle ⊢
        omega
      rw [if_neg, if_neg fun hand => hne hand.2, if_neg, if_neg fun hand => hage.ne hand.1]
      · rw [hself]
        simp
      · rw [hself]
        simp [hrefresh]
    · -- an LSA that is left as it is neither ages nor is flooded
      obtain heq | ⟨-, -, hf⟩ | ⟨-, hf⟩ := hadv
      · have := congrArg (fun l : LSA β => l.header.lsAge) heq
        simp [LSA.setLsAge, LSA.incrementInstallTime] at this
      · cases hf
      · cases hf
  · cases hself : selfOriginated kind routerID ctx lsa with
    | true =>
      have hlt : lsa.header.lsAge < lsRefreshTime := by
        by_contra hle
        exact hgap ⟨hself, not_lt.1 hle, hage⟩
      by_cases hrefresh : lsa.header.lsAge = lsRefreshTime - 1
      · obtain ⟨lsa', hkept, hcases⟩ := ageLSA_refresh hself hrefresh
        refine ⟨lsa', true, hkept, iff_of_true (.inr ?_) hgap⟩
        exact hcases.imp (fun hand => ⟨hand.1, hand.2, rfl⟩) fun heq => ⟨heq, rfl⟩
      · have hlt' : lsa.header.lsAge < lsRefreshTime - 1 := by omega
        rw [ageLSA]
        rw [if_pos (.inl ⟨hself, hlt'⟩)]
        exact ⟨_, _, rfl, iff_of_true (.inl rfl) hgap⟩
    | false =>
      by_cases hlast : lsa.header.lsAge = maxAge - 1
      · rw [ageLSA]
        rw [if_neg, if_neg, if_pos ⟨hself, hlast⟩]
        · exact ⟨_, _, rfl, iff_of_true (.inr (.inr ⟨rfl, rfl⟩)) hgap⟩
        · rw [hself]
          simp
        · rw [hself, hlast]
          simp
      · have hlt : lsa.header.lsAge < maxAge - 1 := by omega
        rw [ageLSA]
        rw [if_pos (.inr ⟨hself, hlt⟩)]
        exact ⟨_, _, rfl, iff_of_true (.inl rfl) hgap⟩

/-- An LSA at MAX_AGE that the router does not originate and that nobody waits for. -/
theorem ageLSA_removed (hself : selfOriginated kind routerID ctx lsa = false)
    (hage : lsa.header.lsAge = maxAge) (hlist : ctx.onAnyRetransmissionList = false)
    (hneighbor : ctx.anyNeighborInExchangeOrLoading = false) :
    ageLSA kind routerID ctx lsa = .removed := by
  rw [ageLSA, if_neg, if_neg, if_neg, if_pos ⟨hage, hlist, hneighbor⟩, if_pos (.inl hself)]
  · rw [hage]
    simp [maxAge]
  · rw [hself]
    simp
  · rw [hself, hage]
    simp

/-- An LSA at MAX_AGE stays as it is while somebody waits for it. -/
theorem ageLSA_blocked (hage : lsa.header.lsAge = maxAge)
    (hblocked : ¬(ctx.onAnyRetransmissionList = false ∧
      ctx.anyNeighborInExchangeOrLoading = false)) :
    ageLSA kind routerID ctx lsa = .kept lsa false := by
  rw [ageLSA, if_neg, if_neg, if_neg, if_neg fun hand => hblocked hand.2]
  · rw [hage]
    simp [maxAge]
  · rw [hage]
    simp [maxAge, lsRefreshTime]
  · rw [hage]
    simp [maxAge, lsRefreshTime]

/-- An LSA of another router grows older by one. -/
theorem ageLSA_foreign (hself : selfOriginated kind routerID ctx lsa = false)
    (hage : lsa.header.lsAge < maxAge) :
    ∃ lsa' flooded, ageLSA kind routerID ctx lsa = .kept lsa' flooded ∧
      lsa'.header.lsAge = lsa.header.lsAge + 1 ∧
      (lsa.header.lsAge + 1 = maxAge → flooded = true) := by
  by_cases hlast : lsa.header.lsAge = maxAge - 1
  · rw [ageLSA, if_neg, if_neg, if_pos ⟨hself, hlast⟩]
    · exact ⟨_, _, rfl, hlast ▸ rfl, fun _ => rfl⟩
    · rw [hself]
      simp
    · rw [hself, hlast]
      simp
  · have hlt : lsa.header.lsAge < maxAge - 1 := by omega
    rw [ageLSA, if_pos (.inr ⟨hself, hlt⟩)]
    exact ⟨_, _, rfl, rfl, fun heq => absurd heq (by omega)⟩

/-- An LSA of this router grows older by one until it is refreshed. -/
theorem ageLSA_own (hself : selfOriginated kind routerID ctx lsa = true)
    (hage : lsa.header.lsAge < lsRefreshTime - 1) :
    ageLSA kind routerID ctx lsa =
      .kept (lsa.setLsAge (lsa.header.lsAge + 1)).incrementInstallTime false := by
  rw [ageLSA, if_pos (.inl ⟨hself, hage⟩)]

/-- A network LSA that counts as originated here can be originated again. -/
theorem newLSA_ne_none_of_network (hself : selfOriginated .networkLSA routerID ctx lsa = true) :
    newLSA .networkLSA routerID ctx lsa ≠ none := by
  rw [selfOriginated] at hself
  rw [newLSA]
  cases hintf : getInterface ctx.interfaces lsa.header.linkStateID with
  | none =>
    rw [hintf] at hself
    cases hself
  | some intf =>
    rw [hintf] at hself
    simp only [Bool.and_eq_true] at hself
    rw [bind_some, originateNetworkLSA, if_pos hself.2]
    exact some_ne_none _

theorem ageLSA_ne_dangling : ageLSA kind routerID ctx lsa ≠ .dangling := by
  intro h
  rw [ageLSA] at h
  split_ifs at h with h1 h2 h3 h4 h5 h6
  · split at h <;> cases h
  · cases hself : selfOriginated kind routerID ctx lsa with
    | false => exact h6 (.inl hself)
    | true =>
      rw [reoriginateAtMaxAge] at h
      cases hnew : newLSA kind routerID ctx lsa with
      | some new =>
        rw [hnew] at h
        simp only at h
        split_ifs at h
      | none =>
        rw [hnew] at h
        simp only at h
        split_ifs at h with hkind
        rw [hkind] at hself hnew
        exact newLSA_ne_none_of_network hself hnew

/-! ### Keys -/

/-- A summary LSA of this router.  When it is originated again it may get another link state ID. -/
def IsOwnSummary (kind : LSAKind) (routerID : RouterID) (lsa : LSA β) : Prop :=
  kind = .summaryLSA ∧ lsa.header.advertisingRouter = routerID

/-- The key of a summary LSA of this router. -/
def IsOwnSummaryKey (kind : LSAKind) (routerID : RouterID) (key : IDKey) : Prop :=
  kind = .summaryLSA ∧ ∃ linkStateID, key = .byLSAKey ⟨linkStateID, routerID⟩

/-- The link state ID of a router LSA is the ID of the router. -/
def WellFormedLSA (kind : LSAKind) (lsa : LSA β) : Prop :=
  kind = .routerLSA → lsa.header.linkStateID = lsa.header.advertisingRouter

theorem isOwnSummaryKey_idKey_iff :
    IsOwnSummaryKey kind routerID (idKey kind lsa.header) ↔ IsOwnSummary kind routerID lsa := by
  constructor
  · rintro ⟨rfl, linkStateID, heq⟩
    exact ⟨rfl, congrArg LSAKeyType.advertisingRouter (IDKey.byLSAKey.inj heq)⟩
  · rintro ⟨rfl, rfl⟩
    exact ⟨rfl, lsa.header.linkStateID, rfl⟩

/-- What does not change when an LSA is aged. -/
structure SameLSA (kind : LSAKind) (routerID : RouterID) (lsa lsa' : LSA β) : Prop where
  own : IsOwnSummary kind routerID lsa' ↔ IsOwnSummary kind routerID lsa
  key : ¬IsOwnSummary kind routerID lsa → idKey kind lsa'.header = idKey kind lsa.header
  wellFormed : WellFormedLSA kind lsa'

theorem SameLSA.of_header (hwf : WellFormedLSA kind lsa)
    (hid : lsa'.header.linkStateID = lsa.header.linkStateID)
    (hadv : lsa'.header.advertisingRouter = lsa.header.advertisingRouter) :
    SameLSA kind routerID lsa lsa' := by
  refine ⟨?_, fun _ => ?_, fun hkind => ?_⟩
  · rw [IsOwnSummary, IsOwnSummary, hadv]
  · cases kind <;> simp only [idKey, OSPFLSAHeader.lsaKey, hid, hadv]
  · rw [hid, hadv]
    exact hwf hkind

theorem SameLSA.of_newLSA (hwf : WellFormedLSA kind lsa)
    (hself : selfOriginated kind routerID ctx lsa = true)
    (hnew : newLSA kind routerID ctx lsa = some new)
    (hheader : lsa'.header.linkStateID = new.header.linkStateID ∧
      lsa'.header.advertisingRouter = new.header.advertisingRouter) :
    SameLSA kind routerID lsa lsa' := by
  obtain ⟨hid, hadv⟩ := hheader
  cases kind with
  | routerLSA =>
    cases hnew
    have hrouter : lsa.header.advertisingRouter = routerID := by simpa [selfOriginated] using hself
    have hlsid := hwf rfl
    exact .of_header hwf (hid.trans (hrouter.symm.trans hlsid.symm)) (hadv.trans hrouter.symm)
  | networkLSA =>
    obtain ⟨intf, hintf, hnew⟩ := bind_eq_some_iff.1 hnew
    rw [originateNetworkLSA] at hnew
    split_ifs at hnew
    cases hnew
    have haddress : intf.address = lsa.header.linkStateID := by
      have hfound := List.find?_some hintf
      simp only [Bool.and_eq_true, beq_iff_eq] at hfound
      exact hfound.2
    have hnot : ∀ l : LSA β, ¬IsOwnSummary .networkLSA routerID l := by
      intro l hown
      cases hown.1
    refine ⟨iff_of_false (hnot _) (hnot _), fun _ => ?_, fun hkind => ?_⟩
    · exact congrArg IDKey.byLinkStateID (hid.trans haddress)
    · cases hkind
  | summaryLSA =>
    obtain ⟨⟨lsType, linkStateID⟩, -, rfl⟩ := map_eq_some_iff.1 hnew
    have hrouter : lsa.header.advertisingRouter = routerID := by simpa [selfOriginated] using hself
    refine ⟨iff_of_true ⟨rfl, hadv⟩ ⟨rfl, hrouter⟩, fun hown => ?_, fun hkind => ?_⟩
    · exact absurd ⟨rfl, hrouter⟩ hown
    · cases hkind
  | asExternalLSA =>
    cases hnew
    exact .of_header hwf hid hadv

theorem ageLSA_sameLSA (hwf : WellFormedLSA kind lsa)
    (h : ageLSA kind routerID ctx lsa = .kept lsa' flooded) : SameLSA kind routerID lsa lsa' := by
  rw [ageLSA] at h
  split_ifs at h with h1 h2 h3 h4 h5 h6
  · cases h
    exact .of_header hwf rfl rfl
  · cases h
    exact .of_header hwf rfl rfl
  · split at h
    · rename_i new hnew
      cases h
      exact .of_newLSA hwf h2.1 hnew ⟨rfl, rfl⟩
    · cases h
      exact .of_header hwf rfl rfl
  · cases h
    exact .of_header hwf rfl rfl
  · have hself : selfOriginated kind routerID ctx lsa = true := by
      by_contra hne
      exact h6 (.inl (Bool.not_eq_true _ ▸ hne))
    rw [reoriginateAtMaxAge] at h
    cases hnew : newLSA kind routerID ctx lsa with
    | some new =>
      rw [hnew] at h
      simp only at h
      split_ifs at h <;> cases h <;> exact .of_newLSA hwf hself hnew ⟨rfl, rfl⟩
    | none =>
      rw [hnew] at h
      simp only at h
      split_ifs at h
  · cases h
    exact .of_header hwf rfl rfl

end OneLSA

/-! ### The vector and the map -/

namespace LSADatabase

/-- The vector and the map hold the same LSAs.  Only the map entry of a summary LSA of this router
can be another than that of its header, and stay behind when the LSA is removed. -/
structure WellFormed (kind : LSAKind) (routerID : RouterID) (s : LSADatabase β) : Prop where
  nodup : s.lsas.Nodup
  mem_iff : ∀ p, p ∈ s.lsas ↔ p ∈ s.heap
  fresh : ∀ p ∈ s.heap, p < s.nextLSA
  fresh_key : ∀ key p, s.lsasByID.lookup key = some p → p < s.nextLSA
  placed : ∀ p lsa, s.heap.lookup p = some lsa → ¬IsOwnSummary kind routerID lsa →
    s.lsasByID.lookup (idKey kind lsa.header) = some p
  keyed : ∀ key p lsa, s.lsasByID.lookup key = some p → s.heap.lookup p = some lsa →
    key = idKey kind lsa.header ∨ IsOwnSummary kind routerID lsa ∧ IsOwnSummaryKey kind routerID key
  live : ∀ key p, s.lsasByID.lookup key = some p → p ∉ s.heap → IsOwnSummaryKey kind routerID key
  lsas : All (WellFormedLSA kind) s.heap

/-- The LSA is in neither of the two. -/
structure Gone (s : LSADatabase β) (p : LSAPtr) : Prop where
  notMem : p ∉ s.lsas
  lookup_ne : ∀ key, s.lsasByID.lookup key ≠ some p
  lt : p < s.nextLSA

section Visit

variable {kind : LSAKind} {routerID : RouterID} {ctx : LSAPtr → AgeContext β}
  {s s' : LSADatabase β} {p q : LSAPtr} {lsa lsa' : LSA β}

theorem wellFormed_initial : WellFormed kind routerID ({} : LSADatabase β) where
  nodup := nodup_nil
  mem_iff p := iff_of_false not_mem_nil Finmap.notMem_empty
  fresh p hp := absurd hp Finmap.notMem_empty
  fresh_key key p hp := by
    rw [Finmap.lookup_empty] at hp
    cases hp
  placed p lsa hp := by
    rw [Finmap.lookup_empty] at hp
    cases hp
  keyed key p lsa hp := by
    rw [Finmap.lookup_empty] at hp
    cases hp
  live key p hp := by
    rw [Finmap.lookup_empty] at hp
    cases hp
  lsas p lsa hp := by
    rw [Finmap.lookup_empty] at hp
    cases hp

namespace WellFormed

/-- An LSA changes but keeps its place. -/
theorem replace (h : WellFormed kind routerID s) (hp : s.heap.lookup p = some lsa)
    (hsame : SameLSA kind routerID lsa lsa') :
    WellFormed kind routerID { s with heap := s.heap.insert p lsa' } := by
  have hmem : ∀ q, q ∈ s.heap.insert p lsa' ↔ q ∈ s.heap := by
    intro q
    rw [Finmap.mem_insert]
    exact or_iff_right_of_imp fun heq => heq ▸ Finmap.mem_of_lookup_eq_some hp
  refine ⟨h.nodup, fun q => (h.mem_iff q).trans (hmem q).symm,
    fun q hq => h.fresh q ((hmem q).1 hq), h.fresh_key,
    fun q m hq hown => ?_, fun key q m hkey hq => ?_,
    fun key q hkey hq => h.live key q hkey fun hq' => hq ((hmem q).2 hq'),
    h.lsas.insert hsame.wellFormed⟩
  · rw [lookup_insert_eq] at hq
    split_ifs at hq with hqp
    · cases hq
      have hown' := mt hsame.own.2 hown
      rw [hsame.key hown', hqp]
      exact h.placed p lsa hp hown'
    · exact h.placed q m hq hown
  · rw [lookup_insert_eq] at hq
    split_ifs at hq with hqp
    · cases hq
      rw [hqp] at hkey
      by_cases hown : IsOwnSummary kind routerID lsa
      · right
        refine ⟨hsame.own.2 hown, ?_⟩
        obtain rfl | ⟨-, hownKey⟩ := h.keyed key p lsa hkey hp
        · exact isOwnSummaryKey_idKey_iff.2 hown
        · exact hownKey
      · left
        obtain rfl | ⟨hown', -⟩ := h.keyed key p lsa hkey hp
        · exact (hsame.key hown).symm
        · exact absurd hown' hown
    · exact h.keyed key q m hkey hq

/-- An LSA is removed from the vector and the map. -/
theorem remove (h : WellFormed kind routerID s) (hp : s.heap.lookup p = some lsa) :
    WellFormed kind routerID { s with
      lsas := s.lsas.filter (· ≠ p)
      lsasByID := s.lsasByID.erase (idKey kind lsa.header)
      heap := s.heap.erase p } := by
  have hlookup : ∀ key q, (s.lsasByID.erase (idKey kind lsa.header)).lookup key = some q →
      key ≠ idKey kind lsa.header ∧ s.lsasByID.lookup key = some q := by
    intro key q hkey
    rw [lookup_erase_eq] at hkey
    split_ifs at hkey with heq
    exact ⟨heq, hkey⟩
  have hheap : ∀ q m, (s.heap.erase p).lookup q = some m → q ≠ p ∧ s.heap.lookup q = some m := by
    intro q m hq
    rw [lookup_erase_eq] at hq
    split_ifs at hq with hqp
    exact ⟨hqp, hq⟩
  refine ⟨h.nodup.filter _, fun q => ?_, fun q hq => h.fresh q (Finmap.mem_erase.1 hq).2,
    fun key q hkey => h.fresh_key key q (hlookup key q hkey).2, fun q m hq hown => ?_,
    fun key q m hkey hq => h.keyed key q m (hlookup key q hkey).2 (hheap q m hq).2,
    fun key q hkey hq => ?_, h.lsas.erase⟩
  · rw [mem_filter, Finmap.mem_erase, h.mem_iff]
    simp [and_comm]
  · obtain ⟨hne, hq⟩ := hheap q m hq
    have hplaced := h.placed q m hq hown
    rw [lookup_erase_eq, if_neg]
    · exact hplaced
    · -- the key of another LSA is not erased with this one
      intro heq
      rw [heq] at hplaced
      by_cases hown' : IsOwnSummary kind routerID lsa
      · rw [← isOwnSummaryKey_idKey_iff, ← heq, isOwnSummaryKey_idKey_iff] at hown'
        exact hown hown'
      · rw [h.placed p lsa hp hown'] at hplaced
        exact hne (Option.some.inj hplaced).symm
  · obtain ⟨hne, hkey⟩ := hlookup key q hkey
    by_cases hqp : q = p
    · rw [hqp] at hkey
      exact ((h.keyed key p lsa hkey hp).resolve_left hne).2
    · exact h.live key q hkey fun hq' => hq (Finmap.mem_erase.2 ⟨hqp, hq'⟩)

end WellFormed

/-! ### The loop -/

/-- The LSAs `ps` are aged, and no other. -/
structure Visited (kind : LSAKind) (routerID : RouterID) (ctx : LSAPtr → AgeContext β)
    (ps : List LSAPtr) (s s' : LSADatabase β) (flooded : List LSAPtr) : Prop where
  nextLSA : s'.nextLSA = s.nextLSA
  others : ∀ q, q ∉ ps → s'.heap.lookup q = s.heap.lookup q
  keys : ∀ key q, s'.lsasByID.lookup key = some q → s.lsasByID.lookup key = some q
  flooded_mem : ∀ q ∈ flooded, q ∈ ps
  kept : ∀ q ∈ ps, ∀ lsa lsa' f, s.heap.lookup q = some lsa →
    ageLSA kind routerID (ctx q) lsa = .kept lsa' f →
      s'.heap.lookup q = some lsa' ∧ (q ∈ flooded ↔ f = true)
  removed : ∀ q ∈ ps, ∀ lsa, s.heap.lookup q = some lsa →
    ageLSA kind routerID (ctx q) lsa = .removed → q ∉ s'.heap ∧
      (¬IsOwnSummary kind routerID lsa → ∀ key, s'.lsasByID.lookup key ≠ some q)

namespace Visited

variable {ps : List LSAPtr} {s₁ : LSADatabase β} {fs fs' : List LSAPtr}

theorem nil : Visited kind routerID ctx [] s s [] where
  nextLSA := rfl
  others _ _ := rfl
  keys _ _ hkey := hkey
  flooded_mem _ hq := hq
  kept _ hq := absurd hq not_mem_nil
  removed _ hq := absurd hq not_mem_nil

theorem cons (h : Visited kind routerID ctx [p] s s₁ fs)
    (hs : Visited kind routerID ctx ps s₁ s' fs') (hp : p ∉ ps) :
    Visited kind routerID ctx (p :: ps) s s' (fs ++ fs') where
  nextLSA := hs.nextLSA.trans h.nextLSA
  others q hq := by
    rw [mem_cons, not_or] at hq
    rw [hs.others q hq.2, h.others q (mem_singleton.not.2 hq.1)]
  keys key q hkey := h.keys key q (hs.keys key q hkey)
  flooded_mem q hq := by
    obtain hq | hq := mem_append.1 hq
    · exact mem_cons.2 (.inl (mem_singleton.1 (h.flooded_mem q hq)))
    · exact mem_cons_of_mem _ (hs.flooded_mem q hq)
  kept q hq lsa lsa' f hlookup hage := by
    rw [mem_append]
    obtain rfl | hq := mem_cons.1 hq
    · obtain ⟨hkept, hiff⟩ := h.kept q (mem_singleton_self q) lsa lsa' f hlookup hage
      have hfs' : q ∉ fs' := fun hmem => hp (hs.flooded_mem q hmem)
      exact ⟨(hs.others q hp).trans hkept, (or_iff_left hfs').trans hiff⟩
    · have hqp : q ∉ [p] := mem_singleton.not.2 (ne_of_mem_of_not_mem hq hp)
      have hfs : q ∉ fs := fun hmem => hqp (h.flooded_mem q hmem)
      obtain ⟨hkept, hiff⟩ := hs.kept q hq lsa lsa' f ((h.others q hqp).trans hlookup) hage
      exact ⟨hkept, (or_iff_right hfs).trans hiff⟩
  removed q hq lsa hlookup hage := by
    obtain rfl | hq := mem_cons.1 hq
    · obtain ⟨hgone, hkeys⟩ := h.removed q (mem_singleton_self q) lsa hlookup hage
      refine ⟨?_, fun hown key hkey => hkeys hown key (hs.keys key q hkey)⟩
      rw [← Finmap.lookup_eq_none, hs.others q hp, Finmap.lookup_eq_none]
      exact hgone
    · have hqp : q ∉ [p] := mem_singleton.not.2 (ne_of_mem_of_not_mem hq hp)
      exact hs.removed q hq lsa ((h.others q hqp).trans hlookup) hage

/-- What is gone stays gone. -/
theorem gone (h : Visited kind routerID ctx s.lsas s s' fs) (hwf : WellFormed kind routerID s)
    (hwf' : WellFormed kind routerID s') (hgone : Gone s q) : Gone s' q where
  notMem hq := by
    have hheap := (hwf'.mem_iff q).1 hq
    rw [← Finmap.lookup_isSome, h.others q hgone.notMem, Finmap.lookup_isSome] at hheap
    exact hgone.notMem ((hwf.mem_iff q).2 hheap)
  lookup_ne key hkey := hgone.lookup_ne key (h.keys key q hkey)
  lt := h.nextLSA ▸ hgone.lt

end Visited

theorem visit_kept {flooded : Bool} (hlsa : s.heap.lookup p = some lsa)
    (hage : ageLSA kind routerID (ctx p) lsa = .kept lsa' flooded) :
    visit kind routerID ctx s p =
      .ok ({ s with heap := s.heap.insert p lsa' }, if flooded then [p] else []) := by
  simp only [visit, hlsa, hage]

theorem visit_removed (hlsa : s.heap.lookup p = some lsa)
    (hage : ageLSA kind routerID (ctx p) lsa = .removed) :
    visit kind routerID ctx s p = .ok ({ s with
      lsas := s.lsas.filter (· ≠ p)
      lsasByID := s.lsasByID.erase (idKey kind lsa.header)
      heap := s.heap.erase p }, []) := by
  simp only [visit, hlsa, hage]

theorem visit_spec (h : WellFormed kind routerID s) (hp : p ∈ s.lsas) :
    ∃ s' fs, visit kind routerID ctx s p = .ok (s', fs) ∧ WellFormed kind routerID s' ∧
      Visited kind routerID ctx [p] s s' fs := by
  obtain ⟨lsa, hlsa⟩ := Finmap.mem_iff.1 ((h.mem_iff p).1 hp)
  cases hage : ageLSA kind routerID (ctx p) lsa with
  | kept lsa' flooded =>
    have hsame := ageLSA_sameLSA (h.lsas p lsa hlsa) hage
    refine ⟨_, _, visit_kept hlsa hage, h.replace hlsa hsame, rfl,
      fun q hq => ?_, fun _ _ hkey => hkey, fun q hq => ?_, fun q hq m m' f hm hf => ?_,
      fun q hq m hm hf => ?_⟩
    · exact Finmap.lookup_insert_of_ne _ (mem_singleton.not.1 hq)
    · split_ifs at hq
      · exact hq
      · cases hq
    · cases mem_singleton.1 hq
      cases hlsa.symm.trans hm
      cases hage.symm.trans hf
      refine ⟨Finmap.lookup_insert _, ?_⟩
      cases flooded <;> simp
    · cases mem_singleton.1 hq
      cases hlsa.symm.trans hm
      cases hage.symm.trans hf
  | removed =>
    refine ⟨_, _, visit_removed hlsa hage, h.remove hlsa, rfl, fun q hq => ?_,
      fun key q hkey => ?_, fun q hq => ?_,
      fun q hq m m' f hm hf => ?_, fun q hq m hm hf => ?_⟩
    · exact Finmap.lookup_erase_ne (mem_singleton.not.1 hq)
    · rw [lookup_erase_eq] at hkey
      split_ifs at hkey
      exact hkey
    · cases hq
    · cases mem_singleton.1 hq
      cases hlsa.symm.trans hm
      cases hage.symm.trans hf
    · obtain rfl := mem_singleton.1 hq
      cases hlsa.symm.trans hm
      refine ⟨Finmap.notMem_erase_self, fun hown key hkey => ?_⟩
      rw [lookup_erase_eq] at hkey
      split_ifs at hkey with hne
      obtain heq | hownKey := h.keyed key q lsa hkey hlsa
      · exact hne heq
      · exact hown hownKey.1
  | dangling => exact absurd hage ageLSA_ne_dangling

theorem visitAll_spec {ps : List LSAPtr} (h : WellFormed kind routerID s) (hnodup : ps.Nodup)
    (hmem : ∀ q ∈ ps, q ∈ s.lsas) :
    ∃ s' fs, visitAll kind routerID ctx ps s = .ok (s', fs) ∧ WellFormed kind routerID s' ∧
      Visited kind routerID ctx ps s s' fs := by
  induction ps generalizing s with
  | nil => exact ⟨s, [], rfl, h, .nil⟩
  | cons p ps ih =>
    obtain ⟨hp, hnodup⟩ := nodup_cons.1 hnodup
    obtain ⟨s₁, fs, hvisit, h1, hvisited⟩ : ∃ s₁ fs, visit kind routerID ctx s p = .ok (s₁, fs) ∧
        WellFormed kind routerID s₁ ∧ Visited kind routerID ctx [p] s s₁ fs :=
      visit_spec h (hmem p mem_cons_self)
    -- the LSAs that come later are still in the vector
    have hmem1 : ∀ q ∈ ps, q ∈ s₁.lsas := by
      intro q hq
      have hqp : q ∉ [p] := mem_singleton.not.2 (ne_of_mem_of_not_mem hq hp)
      rw [h1.mem_iff, ← Finmap.lookup_isSome, hvisited.others q hqp, Finmap.lookup_isSome,
        ← h.mem_iff]
      exact hmem q (mem_cons_of_mem p hq)
    obtain ⟨s', fs', hall, h', hvisitedAll⟩ := ih h1 hnodup hmem1
    refine ⟨s', fs ++ fs', ?_, h', hvisited.cons hvisitedAll hp⟩
    rw [visitAll, hvisit, ok_bind]
    dsimp only
    rw [hall, ok_bind]

/-- **The loop of `ageDatabase` over a vector never uses a deleted LSA, and ages every LSA of it
once.** -/
theorem WellFormed.ageLSAs (h : WellFormed kind routerID s) :
    ∃ s' fs, s.ageLSAs kind routerID ctx = .ok (s', fs) ∧ WellFormed kind routerID s' ∧
      Visited kind routerID ctx s.lsas s s' fs :=
  visitAll_spec h h.nodup fun _ hq => hq

/-! ### Installing -/

namespace WellFormed

variable (h : WellFormed kind routerID s)
include h

/-- A new LSA goes to the end of the vector. -/
theorem append (hwf : WellFormedLSA kind lsa)
    (hnone : s.lsasByID.lookup (idKey kind lsa.header) = none) :
    WellFormed kind routerID { s with
      lsas := s.lsas ++ [s.nextLSA]
      lsasByID := s.lsasByID.insert (idKey kind lsa.header) s.nextLSA
      heap := s.heap.insert s.nextLSA lsa
      nextLSA := s.nextLSA + 1 } := by
  have hfresh : s.nextLSA ∉ s.heap := fun hmem => (h.fresh _ hmem).false
  have hfreshKey : ∀ key q, s.lsasByID.lookup key = some q → q ≠ s.nextLSA :=
    fun key q hkey => (h.fresh_key key q hkey).ne
  have hlt : ∀ {q}, q < s.nextLSA → q < s.nextLSA + 1 := fun hq => hq.trans (Nat.lt_succ_self _)
  refine ⟨?_, fun q => ?_, fun q hq => ?_, fun key q hkey => ?_, fun q m hq hown => ?_,
    fun key q m hkey hq => ?_, fun key q hkey hq => ?_, h.lsas.insert hwf⟩
  · rw [nodup_append]
    refine ⟨h.nodup, nodup_singleton _, fun q hq m hm => ?_⟩
    rw [mem_singleton.1 hm]
    exact ((h.fresh q ((h.mem_iff q).1 hq))).ne
  · rw [mem_append, mem_singleton, Finmap.mem_insert, h.mem_iff, or_comm]
  · obtain rfl | hq := Finmap.mem_insert.1 hq
    · exact Nat.lt_succ_self _
    · exact hlt (h.fresh q hq)
  · rw [lookup_insert_eq] at hkey
    split_ifs at hkey
    · cases hkey
      exact Nat.lt_succ_self _
    · exact hlt (h.fresh_key key q hkey)
  · rw [lookup_insert_eq] at hq
    split_ifs at hq with hqp
    · cases hq
      rw [hqp]
      exact Finmap.lookup_insert _
    · have hplaced := h.placed q m hq hown
      rw [lookup_insert_eq, if_neg]
      · exact hplaced
      · intro heq
        rw [heq, hnone] at hplaced
        cases hplaced
  · rw [lookup_insert_eq] at hkey hq
    split_ifs at hkey with heq
    · cases hkey
      rw [if_pos rfl] at hq
      cases hq
      exact .inl heq
    · rw [if_neg (hfreshKey key q hkey)] at hq
      exact h.keyed key q m hkey hq
  · rw [Finmap.mem_insert, not_or] at hq
    rw [lookup_insert_eq] at hkey
    split_ifs at hkey
    · cases hkey
      exact absurd rfl hq.1
    · exact h.live key q hkey hq.2

/-- `installRouterLSA` and its like. -/
theorem install (hwf : WellFormedLSA kind lsa) (hstep : s.install kind lsa = .ok s') :
    WellFormed kind routerID s' := by
  rw [LSADatabase.install] at hstep
  cases hkey : s.lsasByID.lookup (idKey kind lsa.header) with
  | none =>
    rw [hkey] at hstep
    cases hstep
    have hnew : WellFormedLSA kind { lsa with installTime := 0, purgeable := false } := hwf
    exact h.append hnew hkey
  | some p =>
    cases hold : s.heap.lookup p with
    | none =>
      simp only [hkey, hold] at hstep
      cases hstep
    | some old =>
      simp only [hkey, hold] at hstep
      cases hstep
      have hkeyed := h.keyed _ p old hkey hold
      refine h.replace hold ⟨?_, fun hown => (hkeyed.resolve_right fun hand => hown hand.1), hwf⟩
      obtain heq | ⟨hown, hownKey⟩ := hkeyed
      · have hiff : IsOwnSummaryKey kind routerID (idKey kind lsa.header) ↔
            IsOwnSummary kind routerID lsa := isOwnSummaryKey_idKey_iff
        rw [heq, isOwnSummaryKey_idKey_iff] at hiff
        exact hiff.symm
      · exact iff_of_true (isOwnSummaryKey_idKey_iff.1 hownKey) hown

theorem flushEquivalent (hstep : s.flushEquivalent routerID lsa = .ok s') :
    WellFormed kind routerID s' := by
  rw [LSADatabase.flushEquivalent] at hstep
  split at hstep
  · cases hstep
    exact h
  · rename_i p _
    split at hstep
    · rename_i own hown
      cases hstep
      exact h.replace hown (.of_header (h.lsas p own hown) rfl rfl)
    · cases hstep

/-- Installing an LSA keeps the vector and the map together. -/
theorem installLSA {equivalent : Bool} (hwf : WellFormedLSA kind lsa)
    (hstep : s.installLSA kind routerID equivalent lsa = .ok s') :
    WellFormed kind routerID s' := by
  rw [LSADatabase.installLSA] at hstep
  split_ifs at hstep
  · cases hstep
    exact h
  · obtain ⟨s₁, hflush, hinstall⟩ := bind_eq_ok.1 hstep
    exact (h.flushEquivalent hflush).install hwf hinstall
  · exact h.install hwf hstep

end WellFormed

namespace Gone

theorem install (h : Gone s q) (hstep : s.install kind lsa = .ok s') : Gone s' q := by
  rw [LSADatabase.install] at hstep
  split at hstep
  · split at hstep
    · cases hstep
      exact ⟨h.notMem, h.lookup_ne, h.lt⟩
    · cases hstep
  · cases hstep
    refine ⟨fun hq => ?_, fun key hkey => ?_, h.lt.trans (Nat.lt_succ_self _)⟩
    · obtain hq | hq := mem_append.1 hq
      · exact h.notMem hq
      · exact h.lt.ne (mem_singleton.1 hq)
    · rw [lookup_insert_eq] at hkey
      split_ifs at hkey
      · cases hkey
        exact h.lt.false
      · exact h.lookup_ne key hkey

theorem flushEquivalent (h : Gone s q) (hstep : s.flushEquivalent routerID lsa = .ok s') :
    Gone s' q := by
  rw [LSADatabase.flushEquivalent] at hstep
  split at hstep
  · cases hstep
    exact h
  · split at hstep
    · cases hstep
      exact ⟨h.notMem, h.lookup_ne, h.lt⟩
    · cases hstep

/-- An LSA that was removed does not come back; what is installed is a new one. -/
theorem installLSA {equivalent : Bool} (h : Gone s q)
    (hstep : s.installLSA kind routerID equivalent lsa = .ok s') : Gone s' q := by
  rw [LSADatabase.installLSA] at hstep
  split_ifs at hstep
  · cases hstep
    exact h
  · obtain ⟨s₁, hflush, hinstall⟩ := bind_eq_ok.1 hstep
    exact (h.flushEquivalent hflush).install hinstall
  · exact h.install hstep

end Gone

end Visit

end LSADatabase

end OSPF

end Hiwis
