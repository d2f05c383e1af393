import Hiwis.Ieee8021d.MACAddressTable

/-!
# The tables of all VLANs

`MACAddressTable`: a pointer to the table of the VLAN 0, and a map from the VLANs to pointers.

* `VlanAddressTables.Linked.step` : what an operation does to the entries of each VLAN;
* `VlanAddressTables.getPortForAddress_run` : after any history the port is the one that was learnt
  last, if it has been neither flushed nor gets too old, and ageing removes nothing else.
-/

namespace Hiwis

open List Function

/-- `AddressTable`. -/
abbrev AddressTable : Type := MACAddress → Option AddressEntry

/-- `MACAddressTable`.  A number stands for the pointer to a table. -/
structure VlanAddressTables where
  tables : ℕ → AddressTable := fun _ _ => none
  /-- What the next `new` returns. -/
  nextTable : ℕ := 1
  addressTable : Option ℕ := some 0
  vlanAddressTable : List (ℕ × ℕ) := [(0, 0)]
  agingTime : ℤ
  lastPurge : ℤ := 0

namespace VlanAddressTables

variable (t : VlanAddressTables) (now : ℤ) (address : MACAddress) (vid : ℕ)

/-! ### The operations -/

def getTableForVid : Option ℕ :=
  if vid = 0 then t.addressTable else t.vlanAddressTable.lookup vid

def isAged (entry : AddressEntry) : Bool := entry.insertionTime + t.agingTime ≤ now

def setTable (p : ℕ) (table : AddressTable) : VlanAddressTables :=
  { t with tables := update t.tables p table }

def setEntry (p : ℕ) (entry : Option AddressEntry) : VlanAddressTables :=
  t.setTable p (update (t.tables p) address entry)

/-- The loops over the tables of all VLANs. -/
def forEachTable (f : AddressTable → AddressTable) : VlanAddressTables :=
  { t with
    tables := (t.vlanAddressTable.map Prod.snd).foldl
      (fun tables p => update tables p (f (tables p))) t.tables }

/-- `getPortForAddress`, with the tables after it. -/
def getPortForAddress : ℤ × VlanAddressTables :=
  match t.getTableForVid vid with
  | none => (-1, t)
  | some p =>
    match t.tables p address with
    | none => (-1, t)
    | some entry =>
      if t.isAged now entry then (-1, t.setEntry address p none) else (entry.portno, t)

/-- The loop over one table that removes what is too old. -/
def removeAged (table : AddressTable) : AddressTable :=
  fun a => (table a).filter fun entry => !t.isAged now entry

def removeAgedEntriesFromVlan : VlanAddressTables :=
  match t.getTableForVid vid with
  | none => t
  | some p => t.setTable p (t.removeAged now (t.tables p))

def removeAgedEntriesFromAllVlans : VlanAddressTables := t.forEachTable (t.removeAged now)

def removeAgedEntriesIfNeeded : VlanAddressTables :=
  { if t.lastPurge + Ieee8021d.second ≤ now then t.removeAgedEntriesFromAllVlans now else t with
    lastPurge := now }

/-- A new table for a VLAN that has none. -/
def createTable : VlanAddressTables :=
  { t with
    tables := update t.tables t.nextTable fun _ => none
    nextTable := t.nextTable + 1
    addressTable := if vid = 0 then some t.nextTable else t.addressTable
    vlanAddressTable := (vid, t.nextTable) :: t.vlanAddressTable.filter fun x => x.1 != vid }

/-- The address is registered in a table; the answer is whether it was there. -/
def updateTable (portno : ℤ) (p : ℕ) : Bool × VlanAddressTables :=
  match t.tables p address with
  | none => (false, (t.removeAgedEntriesIfNeeded now).setEntry address p (some ⟨portno, now⟩))
  | some _ => (true, t.setEntry address p (some ⟨portno, now⟩))

def updateTableWithAddress (portno : ℤ) : Bool × VlanAddressTables :=
  if address.isBroadcast then (false, t)
  else
    match t.getTableForVid vid with
    | some p => t.updateTable now address portno p
    | none => (t.createTable vid).updateTable now address portno t.nextTable

def flush (portno : ℤ) : VlanAddressTables :=
  t.forEachTable fun table a => (table a).filter fun entry => entry.portno ≠ portno

def copyTable (portA portB : ℤ) : VlanAddressTables :=
  t.forEachTable fun table a => (table a).map fun entry =>
    if entry.portno = portA then { entry with portno := portB } else entry

def clearTable : VlanAddressTables := { t with vlanAddressTable := [], addressTable := none }

inductive Operation
  | updateTableWithAddress (portno : ℤ) (address : MACAddress) (vid : ℕ)
  | getPortForAddress (address : MACAddress) (vid : ℕ)
  | flush (portno : ℤ)
  | copyTable (portA portB : ℤ)
  | clearTable
  | removeAgedEntriesFromVlan (vid : ℕ)
  | removeAgedEntriesFromAllVlans

/-- An operation at a time. -/
def step (t : VlanAddressTables) : ℤ × Operation → VlanAddressTables
  | (now, .updateTableWithAddress portno address vid) =>
    (t.updateTableWithAddress now address vid portno).2
  | (now, .getPortForAddress address vid) => (t.getPortForAddress now address vid).2
  | (_, .flush portno) => t.flush portno
  | (_, .copyTable portA portB) => t.copyTable portA portB
  | (_, .clearTable) => t.clearTable
  | (now, .removeAgedEntriesFromVlan vid) => t.removeAgedEntriesFromVlan now vid
  | (now, .removeAgedEntriesFromAllVlans) => t.removeAgedEntriesFromAllVlans now

def run (agingTime : ℤ) (history : List (ℤ × Operation)) : VlanAddressTables :=
  history.foldl step { agingTime := agingTime }

/-! ### The tables behind the pointers -/

/-- The table of a VLAN; it is empty when there is none. -/
def tableOf : AddressTable := ((t.getTableForVid vid).map t.tables).getD fun _ => none

/-- The two ways to the table of the VLAN 0 agree, and no table belongs to two VLANs. -/
structure Linked (t : VlanAddressTables) : Prop where
  addressTable : t.addressTable = t.vlanAddressTable.lookup 0
  distinct : (t.vlanAddressTable.map Prod.snd).Nodup
  lt_nextTable : ∀ x ∈ t.vlanAddressTable, x.2 < t.nextTable

variable {t now address vid} {p v : ℕ} {portno : ℤ}

theorem tableOf_of_some (hp : t.getTableForVid vid = some p) : t.tableOf vid = t.tables p := by
  rw [tableOf, hp]
  rfl

theorem tableOf_of_none (hp : t.getTableForVid vid = none) : t.tableOf vid = fun _ => none := by
  rw [tableOf, hp]
  rfl

theorem mem_of_lookup {l : List (ℕ × ℕ)} (h : l.lookup v = some p) : (v, p) ∈ l := by
  obtain ⟨l1, l2, rfl, -⟩ := lookup_eq_some_iff.1 h
  simp

/-- A loop over distinct tables changes each of them once. -/
theorem foldl_update (f : AddressTable → AddressTable) {ps : List ℕ} (hnodup : ps.Nodup)
    (tables : ℕ → AddressTable) (p : ℕ) :
    ps.foldl (fun tables p => update tables p (f (tables p))) tables p =
      if p ∈ ps then f (tables p) else tables p := by
  induction ps generalizing tables with
  | nil => rfl
  | cons q ps ih =>
    obtain ⟨hq, hps⟩ := nodup_cons.1 hnodup
    rw [foldl_cons, ih hps]
    by_cases hpq : p = q
    · subst hpq
      simp [hq]
    · simp [hpq]

namespace Linked

theorem getTableForVid (h : Linked t) (vid : ℕ) :
    t.getTableForVid vid = t.vlanAddressTable.lookup vid := by
  rw [VlanAddressTables.getTableForVid]
  split_ifs with hvid
  · rw [hvid, h.addressTable]
  · rfl

theorem mem (h : Linked t) (hp : t.getTableForVid vid = some p) : (vid, p) ∈ t.vlanAddressTable :=
  mem_of_lookup (h.getTableForVid vid ▸ hp)

theorem ne (h : Linked t) (hp : t.getTableForVid vid = some p) {q : ℕ}
    (hq : t.getTableForVid v = some q) (hne : v ≠ vid) : q ≠ p := by
  rintro rfl
  have hsame := inj_on_of_nodup_map h.distinct (h.mem hq) (h.mem hp) rfl
  exact hne (congrArg Prod.fst hsame)

theorem setTable (h : Linked t) (p : ℕ) (table : AddressTable) : Linked (t.setTable p table) :=
  ⟨h.addressTable, h.distinct, h.lt_nextTable⟩

theorem forEachTable (h : Linked t) (f : AddressTable → AddressTable) :
    Linked (t.forEachTable f) := ⟨h.addressTable, h.distinct, h.lt_nextTable⟩

theorem clearTable (t : VlanAddressTables) : Linked t.clearTable :=
  ⟨rfl, nodup_nil, fun _ hx => (not_mem_nil hx).elim⟩

/-- No pair of the map belongs to a VLAN without a table. -/
theorem filter_eq (h : Linked t) (hnone : t.getTableForVid vid = none) :
    (t.vlanAddressTable.filter fun x => x.1 != vid) = t.vlanAddressTable := by
  rw [h.getTableForVid, lookup_eq_none_iff] at hnone
  rw [filter_eq_self]
  intro x hx
  have hne := hnone x hx
  simp only [bne_iff_ne, ne_eq] at hne ⊢
  exact fun heq => hne heq.symm

theorem createTable (h : Linked t) (hnone : t.getTableForVid vid = none) :
    Linked (t.createTable vid) := by
  have hmap : (t.createTable vid).vlanAddressTable = (vid, t.nextTable) :: t.vlanAddressTable := by
    rw [VlanAddressTables.createTable, h.filter_eq hnone]
  refine ⟨?_, ?_, fun x hx => ?_⟩
  · rw [hmap, lookup_cons]
    by_cases hvid : vid = 0
    · simp [VlanAddressTables.createTable, hvid]
    · rw [beq_false_of_ne (Ne.symm hvid), ← h.addressTable]
      simp [VlanAddressTables.createTable, hvid]
  · rw [hmap, map_cons, nodup_cons]
    refine ⟨fun hmem => ?_, h.distinct⟩
    obtain ⟨x, hx, hxp⟩ := mem_map.1 hmem
    exact absurd (h.lt_nextTable x hx) (hxp ▸ Nat.lt_irrefl _)
  · rw [hmap] at hx
    obtain rfl | hx := mem_cons.1 hx
    · exact Nat.lt_succ_self _
    · exact Nat.lt_succ_of_lt (h.lt_nextTable x hx)

end Linked

/-! ### Each VLAN has a table -/

/-- The table of one VLAN changes. -/
theorem tableOf_setTable (h : Linked t) (hp : t.getTableForVid vid = some p) (table : AddressTable)
    (v : ℕ) : (t.setTable p table).tableOf v = if v = vid then table else t.tableOf v := by
  split_ifs with hv
  · subst hv
    rw [tableOf_of_some (t := t.setTable p table) hp, setTable]
    exact update_self p table t.tables
  · cases hq : t.getTableForVid v with
    | none => rw [tableOf_of_none hq, tableOf_of_none (t := t.setTable p table) hq]
    | some q =>
      rw [tableOf_of_some hq, tableOf_of_some (t := t.setTable p table) hq, setTable]
      exact update_of_ne (h.ne hp hq hv) table t.tables

/-- The tables of all VLANs change. -/
theorem tableOf_forEachTable (h : Linked t) {f : AddressTable → AddressTable}
    (hf : f (fun _ => none) = fun _ => none) (v : ℕ) :
    (t.forEachTable f).tableOf v = f (t.tableOf v) := by
  cases hq : t.getTableForVid v with
  | none => rw [tableOf_of_none hq, tableOf_of_none (t := t.forEachTable f) hq, hf]
  | some q =>
    have hmem : q ∈ t.vlanAddressTable.map Prod.snd := mem_map_of_mem (h.mem hq)
    rw [tableOf_of_some hq, tableOf_of_some (t := t.forEachTable f) hq, forEachTable]
    simp only [foldl_update f h.distinct, if_pos hmem]

theorem tableOf_setEntry (h : Linked t) (hp : t.getTableForVid vid = some p)
    (entry : Option AddressEntry) (v : ℕ) (a : MACAddress) :
    (t.setEntry address p entry).tableOf v a =
      if v = vid ∧ a = address then entry else t.tableOf v a := by
  rw [setEntry, tableOf_setTable h hp]
  by_cases hv : v = vid
  · subst hv
    rw [if_pos rfl, tableOf_of_some hp, update_apply]
    simp only [true_and]
  · rw [if_neg hv, if_neg fun hand => hv hand.1]

/-- A new table is empty, like the one that there was not. -/
theorem tableOf_createTable (h : Linked t) (hnone : t.getTableForVid vid = none) (v : ℕ) :
    (t.createTable vid).tableOf v = t.tableOf v := by
  have hcreated := (h.createTable hnone).getTableForVid v
  rw [createTable, h.filter_eq hnone, lookup_cons] at hcreated
  by_cases hv : v = vid
  · subst hv
    rw [beq_self_eq_true] at hcreated
    rw [tableOf_of_none hnone, tableOf_of_some (t := t.createTable v)
      (by rw [createTable, h.filter_eq hnone]; exact hcreated), createTable]
    exact update_self ..
  · rw [beq_false_of_ne hv, ← h.getTableForVid] at hcreated
    have hget : (t.createTable vid).getTableForVid v = t.getTableForVid v := by
      rw [createTable, h.filter_eq hnone]
      exact hcreated
    cases hq : t.getTableForVid v with
    | none => rw [tableOf_of_none hq, tableOf_of_none (hget.trans hq)]
    | some q =>
      have hne : q ≠ t.nextTable := Nat.ne_of_lt (h.lt_nextTable _ (h.mem hq))
      rw [tableOf_of_some hq, tableOf_of_some (hget.trans hq), createTable]
      exact update_of_ne hne ..

theorem getTableForVid_createTable (h : Linked t) (hnone : t.getTableForVid vid = none) :
    (t.createTable vid).getTableForVid vid = some t.nextTable := by
  rw [(h.createTable hnone).getTableForVid, createTable]
  exact lookup_cons_self

theorem getPortForAddress_eq (t : VlanAddressTables) (now : ℤ) (address : MACAddress) (vid : ℕ) :
    (t.getPortForAddress now address vid).1 =
      match t.tableOf vid address with
      | none => -1
      | some entry => if t.isAged now entry then -1 else entry.portno := by
  rw [getPortForAddress]
  cases hp : t.getTableForVid vid with
  | none => rw [congrFun (tableOf_of_none hp) address]
  | some p =>
    rw [congrFun (tableOf_of_some hp) address]
    simp only
    cases t.tables p address with
    | none => rfl
    | some entry =>
      simp only
      split_ifs <;> rfl

/-! ### What has been learnt -/

/-- What has been learnt for an address in a VLAN, after one more operation. -/
def learn (vid : ℕ) (address : MACAddress) (learnt : Option AddressEntry) :
    ℤ × Operation → Option AddressEntry
  | (now, .updateTableWithAddress portno a v) =>
    if v = vid ∧ a = address ∧ a.isBroadcast = false then some ⟨portno, now⟩ else learnt
  | (_, .flush portno) => learnt.filter fun entry => entry.portno ≠ portno
  | (_, .copyTable portA portB) => learnt.map fun entry =>
    if entry.portno = portA then { entry with portno := portB } else entry
  | (_, .clearTable) => none
  | _ => learnt

/-- The last learning that has not been flushed, whatever its age. -/
def learnt (history : List (ℤ × Operation)) (vid : ℕ) (address : MACAddress) :
    Option AddressEntry :=
  history.foldl (learn vid address) none

/-- The entry of a table is what has been learnt, or is missing because it is too old. -/
def Remembers (agingTime now : ℤ) (learnt entry : Option AddressEntry) : Prop :=
  entry = learnt ∨ entry = none ∧ ∀ e ∈ learnt, e.insertionTime + agingTime ≤ now

namespace Remembers

variable {agingTime : ℤ} {learnt entry entry' : Option AddressEntry}

theorem refl : Remembers agingTime now learnt learnt := .inl rfl

theorem mono {now' : ℤ} (h : Remembers agingTime now learnt entry) (hle : now ≤ now') :
    Remembers agingTime now' learnt entry :=
  h.imp_right fun ⟨hnone, haged⟩ => ⟨hnone, fun e he => Int.le_trans (haged e he) hle⟩

theorem trans (h : Remembers agingTime now learnt entry)
    (h' : Remembers agingTime now entry entry') : Remembers agingTime now learnt entry' := by
  obtain rfl | ⟨rfl, haged⟩ := h
  · exact h'
  · obtain rfl | ⟨rfl, -⟩ := h'
    · exact .inr ⟨rfl, haged⟩
    · exact .inr ⟨rfl, haged⟩

/-- What is too old is left out. -/
theorem filter (t : VlanAddressTables) (entry : Option AddressEntry) :
    Remembers t.agingTime now entry (entry.filter fun e => !t.isAged now e) := by
  cases entry with
  | none => exact .inl rfl
  | some e =>
    cases haged : t.isAged now e with
    | true =>
      refine .inr ⟨by simp [Option.filter, haged], fun e' he' => ?_⟩
      cases he'
      exact of_decide_eq_true haged
    | false => exact .inl (by simp [Option.filter, haged])

/-- Later operations do not bring back what is missing. -/
theorem learn (h : Remembers agingTime now learnt entry) (vid : ℕ) (address : MACAddress)
    (x : ℤ × Operation) :
    Remembers agingTime now (learn vid address learnt x) (learn vid address entry x) := by
  obtain rfl | ⟨rfl, haged⟩ := h
  · exact .refl
  · obtain ⟨now', operation⟩ := x
    cases operation with
    | updateTableWithAddress portno a v =>
      simp only [VlanAddressTables.learn]
      split_ifs
      · exact .refl
      · exact .inr ⟨rfl, haged⟩
    | flush portno =>
      refine .inr ⟨rfl, fun e he => haged e ?_⟩
      exact (Option.filter_eq_some_iff.1 he).1
    | copyTable portA portB =>
      refine .inr ⟨rfl, fun e he => ?_⟩
      obtain ⟨e', he', rfl⟩ := Option.map_eq_some_iff.1 he
      split_ifs
      · exact haged e' he'
      · exact haged e' he'
    | clearTable => exact .refl
    | getPortForAddress | removeAgedEntriesFromVlan | removeAgedEntriesFromAllVlans =>
      exact .inr ⟨rfl, haged⟩

end Remembers

/-! ### One operation -/

/-- The entries are what the function makes of them, or missing because they are too old. -/
structure Advances (now : ℤ) (f : ℕ → MACAddress → Option AddressEntry → Option AddressEntry)
    (t t' : VlanAddressTables) : Prop where
  linked : Linked t'
  agingTime : t'.agingTime = t.agingTime
  entry : ∀ v a, Remembers t.agingTime now (f v a (t.tableOf v a)) (t'.tableOf v a)

section

variable (h : Linked t)
include h

theorem Linked.advances (now : ℤ) : Advances now (fun _ _ entry => entry) t t :=
  ⟨h, rfl, fun _ _ => .refl⟩

/-- A loop that does the same to all entries. -/
theorem Linked.advances_forEachTable {f g : Option AddressEntry → Option AddressEntry}
    (hg : g none = none) (hf : ∀ entry, Remembers t.agingTime now (f entry) (g entry)) :
    Advances now (fun _ _ => f) t (t.forEachTable fun table a => g (table a)) := by
  refine ⟨h.forEachTable _, rfl, fun v a => ?_⟩
  rw [tableOf_forEachTable h (funext fun _ => hg)]
  exact hf _

theorem Linked.advances_removeAgedEntriesFromAllVlans (now : ℤ) :
    Advances now (fun _ _ entry => entry) t (t.removeAgedEntriesFromAllVlans now) :=
  h.advances_forEachTable rfl fun entry => .filter t entry

theorem Linked.advances_removeAgedEntriesIfNeeded (now : ℤ) :
    Advances now (fun _ _ entry => entry) t (t.removeAgedEntriesIfNeeded now) := by
  have hlastPurge : ∀ t', Advances now (fun _ _ entry => entry) t t' →
      Advances now (fun _ _ entry => entry) t { t' with lastPurge := now } := by
    intro t' h'
    obtain ⟨⟨haddress, hdistinct, hlt⟩, haging, hentry⟩ := h'
    exact ⟨⟨haddress, hdistinct, hlt⟩, haging, hentry⟩
  refine hlastPurge _ ?_
  split_ifs
  · exact h.advances_removeAgedEntriesFromAllVlans now
  · exact h.advances now

theorem Linked.advances_removeAgedEntriesFromVlan (now : ℤ) (vid : ℕ) :
    Advances now (fun _ _ entry => entry) t (t.removeAgedEntriesFromVlan now vid) := by
  rw [removeAgedEntriesFromVlan]
  cases hp : t.getTableForVid vid with
  | none => exact h.advances now
  | some p =>
    refine ⟨h.setTable p _, rfl, fun v a => ?_⟩
    rw [tableOf_setTable h hp]
    split_ifs with hv
    · subst hv
      rw [← tableOf_of_some hp]
      exact .filter t _
    · exact .refl

/-- Looking up a port removes an entry that is too old. -/
theorem Linked.advances_getPortForAddress (now : ℤ) (address : MACAddress) (vid : ℕ) :
    Advances now (fun _ _ entry => entry) t (t.getPortForAddress now address vid).2 := by
  rw [getPortForAddress]
  cases hp : t.getTableForVid vid with
  | none => exact h.advances now
  | some p =>
    cases hentry : t.tables p address with
    | none =>
      simp only [hentry]
      exact h.advances now
    | some entry =>
      simp only [hentry]
      split_ifs with haged
      · refine ⟨h.setTable p _, rfl, fun v a => ?_⟩
        rw [tableOf_setEntry h hp]
        split_ifs with hva
        · obtain ⟨rfl, rfl⟩ := hva
          refine .inr ⟨rfl, fun e he => ?_⟩
          rw [tableOf_of_some hp, hentry] at he
          cases he
          exact of_decide_eq_true haged
        · exact .refl
      · exact h.advances now

/-- The VLAN learns the address, and a new address lets all VLANs forget what is too old. -/
theorem Linked.advances_updateTable (hp : t.getTableForVid vid = some p) (now : ℤ)
    (address : MACAddress) (portno : ℤ) :
    Advances now (fun v a entry => if v = vid ∧ a = address then some ⟨portno, now⟩ else entry) t
      (t.updateTable now address portno p).2 := by
  have hset : ∀ t', Advances now (fun _ _ entry => entry) t t' → t'.getTableForVid vid = some p →
      Advances now (fun v a entry => if v = vid ∧ a = address then some ⟨portno, now⟩ else entry) t
        (t'.setEntry address p (some ⟨portno, now⟩)) := by
    intro t' h' hp'
    refine ⟨h'.linked.setTable p _, h'.agingTime, fun v a => ?_⟩
    rw [tableOf_setEntry h'.linked hp']
    split_ifs
    · exact .refl
    · exact h'.entry v a
  rw [updateTable]
  split
  · refine hset _ (h.advances_removeAgedEntriesIfNeeded now) ?_
    rw [removeAgedEntriesIfNeeded]
    split_ifs <;> exact hp
  · exact hset t (h.advances now) hp

/-- One operation does to each entry what it does to what has been learnt, or removes it because it
is too old. -/
theorem Linked.step (x : ℤ × Operation) :
    Advances x.1 (fun v a entry => learn v a entry x) t (t.step x) := by
  obtain ⟨now, operation⟩ := x
  cases operation with
  | flush portno =>
    exact h.advances_forEachTable
      (g := fun entry => entry.filter fun entry => entry.portno ≠ portno) rfl fun _ => .refl
  | copyTable portA portB =>
    exact h.advances_forEachTable (g := fun entry => entry.map fun entry =>
      if entry.portno = portA then { entry with portno := portB } else entry) rfl fun _ => .refl
  | clearTable =>
    refine ⟨Linked.clearTable t, rfl, fun v a => .inl ?_⟩
    have hnone : t.clearTable.getTableForVid v = none := (Linked.clearTable t).getTableForVid v
    exact congrFun (tableOf_of_none hnone) a
  | removeAgedEntriesFromAllVlans => exact h.advances_removeAgedEntriesFromAllVlans now
  | removeAgedEntriesFromVlan vid => exact h.advances_removeAgedEntriesFromVlan now vid
  | getPortForAddress address vid => exact h.advances_getPortForAddress now address vid
  | updateTableWithAddress portno address vid =>
    have hlearn : ∀ v a entry, learn v a entry
        (now, .updateTableWithAddress portno address vid) = if address.isBroadcast then entry
          else if v = vid ∧ a = address then some ⟨portno, now⟩ else entry := by
      intro v a entry
      simp only [learn, eq_comm (a := vid), eq_comm (a := address)]
      cases address.isBroadcast <;> simp
    simp only [hlearn, VlanAddressTables.step, updateTableWithAddress]
    split_ifs
    · exact h.advances now
    · cases hp : t.getTableForVid vid with
      | some p => exact h.advances_updateTable hp now address portno
      | none =>
        have hupdate := (h.createTable hp).advances_updateTable (getTableForVid_createTable h hp)
          now address portno
        refine ⟨hupdate.linked, hupdate.agingTime, fun v a => ?_⟩
        have hentry := hupdate.entry v a
        rwa [tableOf_createTable h hp] at hentry

end

/-! ### Histories -/

/-- After a history the tables hold what has been learnt, but for what is too old. -/
theorem remembers_run (agingTime : ℤ) (history : List (ℤ × Operation))
    (htimes : (history.map Prod.fst).Pairwise (· ≤ ·)) :
    Linked (run agingTime history) ∧ (run agingTime history).agingTime = agingTime ∧
      ∀ now, (∀ x ∈ history, x.1 ≤ now) → ∀ vid address, Remembers agingTime now
        (learnt history vid address) ((run agingTime history).tableOf vid address) := by
  induction history using List.reverseRecOn with
  | nil =>
    refine ⟨⟨rfl, nodup_singleton 0, fun x hx => ?_⟩, rfl, fun now _ vid address => .inl ?_⟩
    · rw [mem_singleton.1 hx]
      exact Nat.zero_lt_one
    · rw [tableOf]
      cases (run agingTime []).getTableForVid vid <;> rfl
  | append_singleton history x ih =>
    rw [map_append, pairwise_append] at htimes
    obtain ⟨hlinked, haging, hremembers⟩ := ih htimes.1
    have hrun : run agingTime (history ++ [x]) = (run agingTime history).step x := by
      rw [run, foldl_append]
      rfl
    have hlearnt : ∀ vid address, learnt (history ++ [x]) vid address =
        learn vid address (learnt history vid address) x := by
      intro vid address
      rw [learnt, foldl_append]
      rfl
    rw [hrun]
    have hstep := hlinked.step x
    refine ⟨hstep.linked, hstep.agingTime.trans haging, fun now hnow vid address => ?_⟩
    rw [hlearnt]
    have hx : x.1 ≤ now := hnow x (mem_append_right _ mem_cons_self)
    have hbefore : ∀ y ∈ history, y.1 ≤ x.1 := by
      intro y hy
      exact htimes.2.2 y.1 (mem_map_of_mem hy) x.1 mem_cons_self
    have hlast := (hremembers x.1 hbefore vid address).learn vid address x
    have hentry := hstep.entry vid address
    rw [haging] at hentry
    exact (hlast.trans hentry).mono hx

/-- **The port of an address after a history** is the one that was learnt last in the VLAN, with the
labels of `copyTable`, if this has been neither flushed nor cleared and is younger than the ageing
time, and -1 otherwise.  What is younger than the ageing time is still in the table. -/
theorem getPortForAddress_run (agingTime : ℤ) (history : List (ℤ × Operation)) (now : ℤ)
    (htimes : ((history.map Prod.fst) ++ [now]).Pairwise (· ≤ ·)) (vid : ℕ)
    (address : MACAddress) :
    ((run agingTime history).getPortForAddress now address vid).1 =
      (match learnt history vid address with
      | some entry => if now < entry.insertionTime + agingTime then entry.portno else -1
      | none => -1) ∧
    ∀ entry, learnt history vid address = some entry → now < entry.insertionTime + agingTime →
      (run agingTime history).tableOf vid address = some entry := by
  obtain ⟨htimes, -, hlast⟩ := pairwise_append.1 htimes
  obtain ⟨-, haging, hremembers⟩ := remembers_run agingTime history htimes
  have hentry := hremembers now (fun x hx =>
    hlast x.1 (mem_map_of_mem hx) now mem_cons_self) vid address
  have haged : ∀ entry, (run agingTime history).isAged now entry =
      decide (entry.insertionTime + agingTime ≤ now) := by
    intro entry
    rw [isAged, haging]
  rw [getPortForAddress_eq]
  obtain heq | ⟨hnone, hold⟩ := hentry
  · rw [heq]
    cases learnt history vid address with
    | none => exact ⟨rfl, fun entry hentry _ => hentry⟩
    | some entry =>
      refine ⟨?_, fun entry' hentry' _ => hentry'⟩
      simp only [haged, decide_eq_true_eq]
      by_cases hyoung : now < entry.insertionTime + agingTime
      · rw [if_pos hyoung, if_neg (Int.not_le.2 hyoung)]
      · rw [if_neg hyoung, if_pos (Int.not_lt.1 hyoung)]
  · rw [hnone]
    cases hlearnt : learnt history vid address with
    | none => exact ⟨rfl, fun entry hentry => by cases hentry⟩
    | some entry =>
      have hnot : ¬now < entry.insertionTime + agingTime := Int.not_lt.2 (hold entry hlearnt)
      refine ⟨by simp only [if_neg hnot], fun entry' hentry' hyoung => ?_⟩
      cases hentry'
      exact absurd hyoung hnot

/-- Two addresses are learnt in two VLANs, and the port of one of them is relabelled. -/
def sampleHistory : List (ℤ × Operation) :=
  [(0, .updateTableWithAddress 3 0x0A 7), (10, .updateTableWithAddress 4 0x0B 0),
    (20, .copyTable 3 5), (30, .flush 4)]

theorem getPortForAddress_run_sample :
    ((run 120 sampleHistory).getPortForAddress 40 0x0A 7).1 = 5 ∧
      ((run 120 sampleHistory).getPortForAddress 40 0x0B 0).1 = -1 :=
  ⟨(getPortForAddress_run 120 sampleHistory 40 (by decide) 7 0x0A).1,
    (getPortForAddress_run 120 sampleHistory 40 (by decide) 0 0x0B).1⟩

/-- An entry that is as old as the ageing time, and no older, is not used any more. -/
theorem not_used_at_agingTime :
    ∃ entry, learnt [(0, .updateTableWithAddress 3 0x0A 7)] 7 0x0A = some entry ∧
      120 - entry.insertionTime ≤ 120 ∧
      ((run 120 [(0, .updateTableWithAddress 3 0x0A 7)]).getPortForAddress 120 0x0A 7).1 ≠
        entry.portno :=
  ⟨⟨3, 0⟩, by decide⟩

end VlanAddressTables

end Hiwis
