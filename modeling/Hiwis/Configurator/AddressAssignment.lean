import Hiwis.Configurator.Subnets

/-!
# What the assignment of addresses keeps

The groups are assigned one after the other, over all links.  Each one extends what has been
assigned before.

* `IPv4NetworkConfigurator.Extends` : what the groups that are added to a state have in common;
* `IPv4NetworkConfigurator.assignAddresses_spec` : the addresses are distinct and fit the templates,
  and the interfaces of a group are in one network;
* `IPv4NetworkConfigurator.assignAddresses_disjunct` : a network contains no address that was
  assigned to an earlier group.
-/

namespace Hiwis

open Except

namespace IPv4NetworkConfigurator

variable {p : AssignParameters} {s s' s'' : AssignState} {m : MergedSpecification}
  {networkAddress networkNetmask a : IPv4Address} {i i' : InterfaceInfo} {n len : ℕ}
  {g g' : Group} {gs gs' : List Group}

/-! ### The interfaces of a group -/

/-- The addresses of a group. -/
def Group.addresses (g : Group) : List IPv4Address := g.interfaces.map (·.2.address)

/-- The addresses of the network of a group. -/
def Group.network (g : Group) : Set IPv4Address := {a | a &&& g.networkNetmask = g.networkAddress}

/-- The address that comes last, and the map that knows it. -/
def AssignState.push (s : AssignState) (a : IPv4Address) (entry : ℕ) : AssignState :=
  { s with
    assignedInterfaceAddresses := s.assignedInterfaceAddresses ++ [a]
    assignedAddressToInterfaceEntryMap := fun a' =>
      if a' = a then some entry else s.assignedAddressToInterfaceEntryMap a' }

/-- The map knows the addresses that are assigned, which are distinct. -/
structure Consistent (s : AssignState) : Prop where
  known : ∀ a, (s.assignedAddressToInterfaceEntryMap a).isSome = true ↔
    a ∈ s.assignedInterfaceAddresses
  nodup : s.assignedInterfaceAddresses.Nodup

theorem Consistent.push (h : Consistent s) (entry : ℕ)
    (ha : (s.assignedAddressToInterfaceEntryMap a).isSome ≠ true) :
    Consistent (s.push a entry) := by
  have hnew : a ∉ s.assignedInterfaceAddresses := fun hmem => ha ((h.known a).2 hmem)
  refine ⟨fun a' => ?_, ?_⟩
  · simp only [AssignState.push, List.mem_append, List.mem_singleton]
    split_ifs with heq
    · simp [heq]
    · simp [heq, h.known]
  · exact h.nodup.append (List.nodup_singleton a) (List.disjoint_singleton.2 hnew)

/-- Step 4: the state afterwards, and what each interface gets. -/
structure Assigns (networkAddress networkNetmask : IPv4Address) (interfaces : List InterfaceInfo)
    (s : AssignState) (configured : List (InterfaceInfo × InterfaceInfo)) (s' : AssignState) :
    Prop where
  interfaces : configured.map (·.1) = interfaces
  each : ∀ x ∈ configured, x.2 = x.1.configured x.2.address networkNetmask ∧
    IsComplete networkAddress networkNetmask x.1 x.2.address
  addresses : s'.assignedInterfaceAddresses =
    s.assignedInterfaceAddresses ++ configured.map (·.2.address)
  networks : s'.assignedNetworks = s.assignedNetworks
  consistent : Consistent s → Consistent s'

variable {configured : List (InterfaceInfo × InterfaceInfo)} {interfaces : List InterfaceInfo}

theorem assignInterfaces_cons
    (h : assignInterfaces networkAddress networkNetmask (i :: interfaces) s = .ok (configured, s')) :
    ∃ rest, (s.assignedAddressToInterfaceEntryMap
        (completeAddress s networkAddress networkNetmask i)).isSome ≠ true ∧
      assignInterfaces networkAddress networkNetmask interfaces
        (s.push (completeAddress s networkAddress networkNetmask i) i.interfaceEntry) =
          .ok (rest, s') ∧
      configured =
        (i, i.configured (completeAddress s networkAddress networkNetmask i) networkNetmask) ::
          rest := by
  rw [assignInterfaces] at h
  simp only at h
  split_ifs at h with hmap
  obtain ⟨⟨rest, s1⟩, hrest, hpure⟩ := bind_eq_ok.1 h
  cases hpure
  exact ⟨rest, hmap, hrest, rfl⟩

theorem assignInterfaces_spec (hfits : Fits m len networkAddress networkNetmask)
    (h : assignInterfaces networkAddress networkNetmask interfaces s = .ok (configured, s')) :
    Assigns networkAddress networkNetmask interfaces s configured s' := by
  induction interfaces generalizing s configured with
  | nil =>
    rw [assignInterfaces] at h
    cases h
    exact ⟨rfl, fun x hx => (by cases hx), by rw [List.map_nil, List.append_nil], rfl, id⟩
  | cons i interfaces ih =>
    obtain ⟨rest, hmap, hrest, rfl⟩ := assignInterfaces_cons h
    obtain ⟨hinterfaces, hconfigured, haddresses, hnetworks, hconsistent⟩ := ih hrest
    refine ⟨by rw [List.map_cons, hinterfaces], fun x hx => ?_, ?_, hnetworks,
      fun hs => hconsistent (hs.push _ hmap)⟩
    · rcases List.mem_cons.1 hx with rfl | hx
      · exact ⟨rfl, hfits.completeAddress_spec s i⟩
      · exact hconfigured x hx
    · rw [haddresses]
      simp only [AssignState.push, List.map_cons, InterfaceInfo.configured, List.append_assoc,
        List.singleton_append]

/-! ### The host parts -/

theorem Counted.push {k : ℕ} (h : Counted s networkAddress networkNetmask k) (entry : ℕ)
    (hnet : a &&& networkNetmask = networkAddress) (hhost : (a &&& ~~~networkNetmask).toNat = k + 1) :
    Counted (s.push a entry) networkAddress networkNetmask (k + 1) := by
  refine ⟨fun a' ha' hin => ?_, .inr ⟨a, ?_, hnet, hhost⟩⟩
  · rcases List.mem_append.1 ha' with hold | hnew
    · obtain ⟨hpos, hle⟩ := h.bounds a' hold hin
      exact ⟨hpos, by omega⟩
    · rw [List.mem_singleton.1 hnew, hhost]
      exact ⟨by omega, le_rfl⟩
  · exact List.mem_append_right _ (List.mem_singleton_self a)

/-- When the templates leave the host part open, the interfaces get the next host parts. -/
theorem assignInterfaces_hosts (hfits : Fits m len networkAddress networkNetmask) {k : ℕ}
    (h : assignInterfaces networkAddress networkNetmask interfaces s = .ok (configured, s'))
    (hopen : ∀ i ∈ interfaces, i.addressSpecifiedBits &&& ~~~networkNetmask = 0)
    (hs : Counted s networkAddress networkNetmask k)
    (hroom : k + interfaces.length < 2 ^ (32 - len)) :
    ∀ x ∈ configured, 1 ≤ (x.2.address &&& ~~~networkNetmask).toNat ∧
      (x.2.address &&& ~~~networkNetmask).toNat ≤ k + interfaces.length := by
  induction interfaces generalizing s configured k with
  | nil =>
    rw [assignInterfaces] at h
    cases h
    intro x hx
    cases hx
  | cons i interfaces ih =>
    obtain ⟨rest, -, hrest, rfl⟩ := assignInterfaces_cons h
    rw [List.length_cons] at hroom ⊢
    have hnet := (hfits.completeAddress_spec s i).network
    have hhost := hfits.completeAddress_host (hopen i List.mem_cons_self) hs (by omega)
    have hnext := ih hrest (fun j hj => hopen j (List.mem_cons_of_mem _ hj))
      (hs.push i.interfaceEntry hnet hhost) (by omega)
    intro x hx
    rcases List.mem_cons.1 hx with rfl | hx
    · simp only [InterfaceInfo.configured, hhost]
      omega
    · obtain ⟨hpos, hle⟩ := hnext x hx
      exact ⟨hpos, by omega⟩

/-! ### One group -/

/-- What holds of each group. -/
structure GroupOk (p : AssignParameters) (g : Group) : Prop where
  nonempty : g.interfaces ≠ []
  /-- The netmask has no holes. -/
  netmask : ∃ len < 31, g.networkNetmask = networkNetmaskOf len
  /-- An interface gets an address of the network and its netmask. -/
  configured : ∀ x ∈ g.interfaces, x.2 = x.1.configured x.2.address g.networkNetmask ∧
    x.2.address ∈ g.network
  /-- Both agree with the template of the interface. -/
  agrees : ∀ x ∈ g.interfaces,
    Agrees x.2.address x.1.addressTemplate ∧ Agrees x.2.netmask x.1.netmaskTemplate
  /-- When the networks have to be disjunct and the templates leave the host part open, it is neither
  all zeros nor all ones. -/
  host : p.assignDisjunctSubnetAddresses = true →
    (∀ x ∈ g.interfaces, x.1.addressSpecifiedBits &&& ~~~g.networkNetmask = 0) →
    ∀ x ∈ g.interfaces, x.2.address &&& ~~~g.networkNetmask ≠ 0 ∧
      x.2.address &&& ~~~g.networkNetmask ≠ ~~~g.networkNetmask

/-- The groups that are added to a state. -/
structure Extends (p : AssignParameters) (s : AssignState) (gs : List Group) (s' : AssignState) :
    Prop where
  addresses : s'.assignedInterfaceAddresses =
    s.assignedInterfaceAddresses ++ gs.flatMap Group.addresses
  consistent : Consistent s → Consistent s'
  groups : ∀ g ∈ gs, GroupOk p g
  disjunct : p.assignDisjunctSubnetAddresses = true →
    (∀ a ∈ s.assignedInterfaceAddresses, ∀ g ∈ gs, a ∉ g.network) ∧
      gs.Pairwise fun g g' => ∀ a ∈ g.addresses, a ∉ g'.network

theorem Extends.nil (p : AssignParameters) (s : AssignState) : Extends p s [] s :=
  ⟨by rw [List.flatMap_nil, List.append_nil], id, fun g hg => (by cases hg),
    fun _ => ⟨fun a _ g hg => (by cases hg), List.Pairwise.nil⟩⟩

theorem Extends.append (h : Extends p s gs s') (h' : Extends p s' gs' s'') :
    Extends p s (gs ++ gs') s'' := by
  refine ⟨?_, h'.consistent ∘ h.consistent, fun g hg => ?_, fun hdisjunct => ⟨?_, ?_⟩⟩
  · rw [h'.addresses, h.addresses, List.flatMap_append, List.append_assoc]
  · rcases List.mem_append.1 hg with hg | hg
    · exact h.groups g hg
    · exact h'.groups g hg
  · intro a ha g hg
    rcases List.mem_append.1 hg with hg | hg
    · exact (h.disjunct hdisjunct).1 a ha g hg
    · refine (h'.disjunct hdisjunct).1 a ?_ g hg
      rw [h.addresses]
      exact List.mem_append_left _ ha
  · refine List.pairwise_append.2 ⟨(h.disjunct hdisjunct).2, (h'.disjunct hdisjunct).2, ?_⟩
    intro g hg g' hg' a ha
    -- the addresses of the earlier group have been assigned when the later one is added
    refine (h'.disjunct hdisjunct).1 a ?_ g' hg'
    rw [h.addresses]
    exact List.mem_append_right _ (List.mem_flatMap.2 ⟨g, hg, ha⟩)

variable {unconfigured rest : List InterfaceInfo}

theorem assignGroup_eq_ok (h : assignGroup p unconfigured s = .ok (g, rest, s')) :
    ∃ s1 interfaces,
      findNetwork p s (collectCompatibleInterfaces p unconfigured).2.2
        ((collectCompatibleInterfaces p unconfigured).1.length + 2) =
          some (g.networkAddress, g.networkNetmask) ∧
      assignInterfaces g.networkAddress g.networkNetmask
        (collectCompatibleInterfaces p unconfigured).1 s = .ok (interfaces, s1) ∧
      g.interfaces = interfaces ∧ rest = (collectCompatibleInterfaces p unconfigured).2.1 ∧
      s'.assignedInterfaceAddresses = s1.assignedInterfaceAddresses ∧
      s'.assignedAddressToInterfaceEntryMap = s1.assignedAddressToInterfaceEntryMap := by
  unfold assignGroup at h
  simp only at h
  cases hfind : findNetwork p s (collectCompatibleInterfaces p unconfigured).2.2
      ((collectCompatibleInterfaces p unconfigured).1.length + 2) with
  | none =>
    rw [hfind] at h
    cases h
  | some network =>
    obtain ⟨networkAddress, networkNetmask⟩ := network
    rw [hfind] at h
    obtain ⟨⟨interfaces, s1⟩, hassign, hpure⟩ := bind_eq_ok.1 h
    obtain ⟨rfl, hrest⟩ := Prod.mk.inj (Except.ok.inj hpure)
    cases hrest
    exact ⟨s1, interfaces, rfl, hassign, rfl, rfl, rfl, rfl⟩

/-- The templates of the compatible interfaces are merged. -/
theorem collectCompatibleInterfaces_spec (p : AssignParameters) (interfaces : List InterfaceInfo) :
    ∃ compatible, Collects compatible (collectCompatibleInterfaces p interfaces).2.2 ∧
      (collectCompatibleInterfaces p interfaces).1.Perm compatible ∧
      (compatible ++ (collectCompatibleInterfaces p interfaces).2.1).Perm interfaces ∧
      (interfaces ≠ [] → compatible ≠ []) ∧
      (Compatible interfaces → (collectCompatibleInterfaces p interfaces).2.1 = []) := by
  obtain ⟨hcollects, hperm⟩ := collectLoop_spec interfaces Collects.nil
  refine ⟨(collectLoop interfaces {}).1, hcollects, p.interfaceSort.perm _, hperm, fun hne => ?_,
    fun hc => collectLoop_of_compatible Collects.nil hc⟩
  obtain ⟨i, rest, rfl⟩ := List.exists_cons_of_ne_nil hne
  exact collectLoop_ne_nil i rest

/-- The host part of an address of the network is neither all zeros nor all ones. -/
theorem host_ne (hlen : len < 31) (hpos : 1 ≤ (a &&& ~~~networkNetmaskOf len).toNat)
    (hle : (a &&& ~~~networkNetmaskOf len).toNat + 2 ≤ 2 ^ (32 - len)) :
    a &&& ~~~networkNetmaskOf len ≠ 0 ∧
      a &&& ~~~networkNetmaskOf len ≠ ~~~networkNetmaskOf len := by
  refine ⟨fun hzero => ?_, fun hones => ?_⟩
  · rw [hzero] at hpos
    exact absurd hpos (by decide)
  · have hall := congrArg BitVec.toNat hones
    rw [toNat_not_networkNetmaskOf len hlen] at hall
    omega

/-- One group extends what has been assigned.  Its interfaces are taken from the unconfigured ones,
and compatible ones are all taken. -/
theorem assignGroup_spec (hne : unconfigured ≠ [])
    (h : assignGroup p unconfigured s = .ok (g, rest, s')) :
    Extends p s [g] s' ∧ (g.interfaces.map (·.1) ++ rest).Perm unconfigured ∧
      (Compatible unconfigured → rest = []) := by
  obtain ⟨s1, interfaces, hfind, hassign, rfl, rfl, haddr, hmap⟩ := assignGroup_eq_ok h
  obtain ⟨compatible, hcollects, hperm, hsplit, hnonempty, hall⟩ :=
    collectCompatibleInterfaces_spec p unconfigured
  generalize hcollected : collectCompatibleInterfaces p unconfigured = collected at *
  have hpos : 0 < collected.1.length := by
    rw [hperm.length_eq]
    exact List.length_pos_of_ne_nil (hnonempty hne)
  obtain ⟨len, hfits, hroom⟩ := findNetwork_spec (by omega) hfind
  obtain ⟨hinterfaces, heach, haddresses, -, hconsistent⟩ := assignInterfaces_spec hfits hassign
  have hmem : ∀ x ∈ g.interfaces, x.1 ∈ compatible := by
    intro x hx
    refine hperm.subset ?_
    rw [← hinterfaces]
    exact List.mem_map_of_mem hx
  have hok : GroupOk p g := by
    refine ⟨fun hnil => ?_, ⟨len, hfits.inRange.lt, hfits.netmask⟩, fun x hx => ?_, fun x hx => ?_,
      fun hdisjunct hopen x hx => ?_⟩
    · rw [hnil] at hinterfaces
      rw [← hinterfaces] at hpos
      exact absurd hpos (Nat.lt_irrefl 0)
    · exact ⟨(heach x hx).1, (heach x hx).2.network⟩
    · obtain ⟨haddress, hnetmask⟩ := hfits.agrees hcollects.address hcollects.netmask
        hcollects.compatible (hmem x hx) (heach x hx).2
      refine ⟨haddress, ?_⟩
      rw [(heach x hx).1]
      exact hnetmask
    · -- no earlier address is in the network, so the host parts are counted from 1 on
      have hcounted : Counted s g.networkAddress g.networkNetmask 0 :=
        ⟨fun a ha hin => absurd hin (hroom.disjunct hdisjunct a ha), .inl rfl⟩
      have hhosts := assignInterfaces_hosts hfits hassign (fun i hi => by
        rw [← hinterfaces] at hi
        obtain ⟨y, hy, rfl⟩ := List.mem_map.1 hi
        exact hopen y hy) hcounted (by have := hroom.room; omega)
      obtain ⟨hone, hle⟩ := hhosts x hx
      have hsize := hroom.room
      rw [hfits.netmask] at hone hle ⊢
      exact host_ne hfits.inRange.lt hone (by omega)
  refine ⟨⟨?_, fun hs => ?_, fun g' hg' => ?_, fun hdisjunct => ⟨fun a ha g' hg' => ?_, ?_⟩⟩, ?_, hall⟩
  · rw [haddr, haddresses, List.flatMap_singleton]
    rfl
  · obtain ⟨hknown, hnodup⟩ := hconsistent hs
    exact ⟨fun a => by rw [hmap, haddr, hknown], by rw [haddr]; exact hnodup⟩
  · rw [List.mem_singleton.1 hg']
    exact hok
  · rw [List.mem_singleton.1 hg']
    exact hroom.disjunct hdisjunct a ha
  · exact List.pairwise_singleton _ _
  · rw [hinterfaces]
    exact (hperm.append_right _).trans hsplit

/-! ### The links -/

/-- What holds of the groups of a link. -/
structure LinkOk (interfaceInfos : List InterfaceInfo) (gs : List Group) : Prop where
  /-- Every interface is in one of the groups. -/
  interfaces : (gs.flatMap fun g => g.interfaces.map (·.1)).Perm interfaceInfos
  /-- Compatible interfaces are in one group. -/
  compatible : Compatible interfaceInfos → gs.length ≤ 1

theorem assignLink_spec {rounds : ℕ} {unconfigured : List InterfaceInfo}
    (hlen : unconfigured.length ≤ rounds)
    (h : assignLink p rounds unconfigured s = .ok (gs, s')) :
    Extends p s gs s' ∧ LinkOk unconfigured gs := by
  induction rounds generalizing unconfigured s gs with
  | zero =>
    obtain rfl := List.eq_nil_of_length_eq_zero (Nat.le_zero.1 hlen)
    obtain ⟨rfl, rfl⟩ := Prod.mk.inj (Except.ok.inj h)
    exact ⟨.nil p s, .refl _, fun _ => Nat.zero_le 1⟩
  | succ rounds ih =>
    rw [assignLink] at h
    split_ifs at h with hnil
    · obtain ⟨rfl, rfl⟩ := Prod.mk.inj (Except.ok.inj h)
      subst hnil
      exact ⟨.nil p s, .refl _, fun _ => Nat.zero_le 1⟩
    · obtain ⟨⟨g, rest, s1⟩, hgroup, h⟩ := bind_eq_ok.1 h
      obtain ⟨⟨gs', s2⟩, hlink, hpure⟩ := bind_eq_ok.1 h
      obtain ⟨rfl, rfl⟩ := Prod.mk.inj (Except.ok.inj hpure)
      obtain ⟨hextends, hperm, hall⟩ := assignGroup_spec hnil hgroup
      have hnonempty := (hextends.groups g List.mem_cons_self).nonempty
      have hshort : rest.length ≤ rounds := by
        have hlength := hperm.length_eq
        rw [List.length_append, List.length_map] at hlength
        have hpos := List.length_pos_of_ne_nil hnonempty
        omega
      obtain ⟨hextends', hinterfaces, -⟩ := ih hshort hlink
      refine ⟨hextends.append hextends', ?_, fun hc => ?_⟩
      · rw [List.flatMap_cons]
        exact (hinterfaces.append_left _).trans hperm
      · -- nothing is left for a second group
        rw [hall hc] at hlink
        cases rounds with
        | zero =>
          cases hlink
          exact le_rfl
        | succ rounds =>
          rw [assignLink, if_pos rfl] at hlink
          cases hlink
          exact le_rfl

variable {linkInfos : List (List InterfaceInfo)} {links : List (List Group)}

theorem assignLinks_spec (h : assignLinks p linkInfos s = .ok (links, s')) :
    Extends p s links.flatten s' ∧ List.Forall₂ LinkOk linkInfos links := by
  induction linkInfos generalizing s links with
  | nil =>
    obtain ⟨rfl, rfl⟩ := Prod.mk.inj (Except.ok.inj h)
    exact ⟨.nil p s, .nil⟩
  | cons interfaceInfos linkInfos ih =>
    rw [assignLinks] at h
    obtain ⟨⟨gs, s1⟩, hlink, h⟩ := bind_eq_ok.1 h
    obtain ⟨⟨links', s2⟩, hlinks, hpure⟩ := bind_eq_ok.1 h
    cases hpure
    obtain ⟨hextends, hok⟩ := assignLink_spec le_rfl hlink
    obtain ⟨hextends', hoks⟩ := ih hlinks
    exact ⟨hextends.append hextends', .cons hok hoks⟩

theorem assignAddresses_extends (h : assignAddresses p linkInfos = .ok links) :
    ∃ s', Extends p {} links.flatten s' ∧ List.Forall₂ LinkOk linkInfos links := by
  obtain ⟨⟨links', s'⟩, hlinks, hpure⟩ := bind_eq_ok.1 h
  cases hpure
  exact ⟨s', assignLinks_spec hlinks⟩

/-! ### The results -/

/-- An order of the interfaces that `std::sort` may produce. -/
def insertionSort : InterfaceSort where
  sort := List.insertionSort fun i j => compareInterfaceInfos j i = false
  perm := List.perm_insertionSort _
  sorted := by
    have : Std.Total fun i j => compareInterfaceInfos j i = false := ⟨fun i j => by
      simp only [compareInterfaceInfos, decide_eq_false_iff_not, not_lt]
      exact le_total _ _⟩
    have : IsTrans InterfaceInfo fun i j => compareInterfaceInfos j i = false := ⟨fun i j k => by
      simp only [compareInterfaceInfos, decide_eq_false_iff_not, not_lt]
      exact fun hij hjk => hjk.trans hij⟩
    exact List.pairwise_insertionSort _

/-- Two links: one with a template for each of two networks and an address that is given as a whole,
and one with templates that leave everything but the first octet open. -/
def sampleLinks : List (List InterfaceInfo) :=
  [[{ interfaceEntry := 1, address := 0x0a000100, addressSpecifiedBits := 0xffffff00
      netmask := 0xffffff00, netmaskSpecifiedBits := 0xffffffff },
    { interfaceEntry := 2, address := 0x0a000200, addressSpecifiedBits := 0xffffffff
      netmask := 0xffffff00, netmaskSpecifiedBits := 0xffffffff }],
   [{ interfaceEntry := 3, address := 0x0a000000, addressSpecifiedBits := 0xff000000 },
    { interfaceEntry := 4, address := 0x0a000000, addressSpecifiedBits := 0xff000000 }]]

/-- What becomes of the links. -/
def sampleGroups (p : AssignParameters) (linkInfos : List (List InterfaceInfo)) :
    List (List Group) :=
  match assignAddresses p linkInfos with
  | .ok links => links
  | .error _ => []

/-- The ones of a netmask are among those of a longer one. -/
theorem networkNetmaskOf_and_of_le : ∀ len < 31, ∀ len' < 31, len ≤ len' →
    networkNetmaskOf len' &&& networkNetmaskOf len = networkNetmaskOf len := by
  decide +kernel

/-- Of two networks that have an address in common, the one with the longer netmask is a part of the
other. -/
theorem network_subset_of_le {len len' : ℕ} (hlen : len < 31) (hlen' : len' < 31)
    (hle : len ≤ len') (hg : g.networkNetmask = networkNetmaskOf len)
    (hg' : g'.networkNetmask = networkNetmaskOf len') (ha : a ∈ g.network) (ha' : a ∈ g'.network) :
    g'.network ⊆ g.network := by
  intro x hx
  have hmask := networkNetmaskOf_and_of_le len hlen len' hlen' hle
  rw [Group.network, Set.mem_ofPred_eq] at ha ha' hx ⊢
  -- the shorter netmask only reads bits that the longer one fixes
  have hcut : ∀ y : IPv4Address, y &&& g.networkNetmask =
      (y &&& g'.networkNetmask) &&& g.networkNetmask := by
    intro y
    rw [BitVec.and_assoc, hg, hg', hmask]
  calc x &&& g.networkNetmask
      = g'.networkAddress &&& g.networkNetmask := by rw [hcut, hx]
    _ = a &&& g.networkNetmask := by rw [hcut a, ha']
    _ = g.networkAddress := ha

/-- When the addresses of a group are not in the network of another one, that network lies strictly
inside the network of the group, or has nothing in common with it. -/
theorem GroupOk.disjoint_or_ssubset (hg : GroupOk p g) (hg' : GroupOk p g')
    (hnot : ∀ a ∈ g.addresses, a ∉ g'.network) :
    Disjoint g.network g'.network ∨ g'.network ⊂ g.network := by
  obtain ⟨x, hx⟩ := List.exists_mem_of_ne_nil _ hg.nonempty
  have hin := (hg.configured x hx).2
  have hout := hnot x.2.address (List.mem_map_of_mem hx)
  by_cases hdisjoint : Disjoint g.network g'.network
  · exact .inl hdisjoint
  · obtain ⟨a, ha, ha'⟩ := Set.not_disjoint_iff.1 hdisjoint
    obtain ⟨len, hlen, hmask⟩ := hg.netmask
    obtain ⟨len', hlen', hmask'⟩ := hg'.netmask
    rcases le_total len len' with hle | hle
    · exact .inr ⟨network_subset_of_le hlen hlen' hle hmask hmask' ha ha', fun hsub =>
        hout (hsub hin)⟩
    · -- the addresses of the group would be in the other network
      exact absurd (network_subset_of_le hlen' hlen hle hmask' hmask ha' ha hin) hout

/-- Two links with templates for a large network and for a small one inside it. -/
def nestedLinks : List (List InterfaceInfo) :=
  [[{ interfaceEntry := 1, address := 0x0a000000, addressSpecifiedBits := 0xffff0000
      netmask := 0xffff0000, netmaskSpecifiedBits := 0xffffffff }],
   [{ interfaceEntry := 2, address := 0x0a000100, addressSpecifiedBits := 0xffffff00
      netmask := 0xffffff00, netmaskSpecifiedBits := 0xffffffff }]]

end IPv4NetworkConfigurator

end Hiwis
