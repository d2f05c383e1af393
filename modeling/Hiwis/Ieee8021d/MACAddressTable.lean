import Hiwis.Ieee8021d.InterfaceData

/-!
# The MAC address table

`MACAddressTable`, with the table of the VLAN 0 that the relay uses.

* `MACAddressTable.learnt` : the ports that have been learnt and are not too old;
* `MACAddressTable.getPortForAddress_fst` : the port of an address is the one that has been learnt.
-/

namespace Hiwis

open Option Function

/-- `AddressEntry`. -/
structure AddressEntry where
  portno : ℤ
  insertionTime : ℤ
  deriving DecidableEq

structure MACAddressTable where
  addressTable : MACAddress → Option AddressEntry := fun _ => none
  agingTime : ℤ
  lastPurge : ℤ := 0

namespace MACAddressTable

variable (t : MACAddressTable) (now : ℤ) (address : MACAddress)

def isAged (entry : AddressEntry) : Bool := entry.insertionTime + t.agingTime ≤ now

/-- `getPortForAddress`, with the table after it. -/
def getPortForAddress : ℤ × MACAddressTable :=
  match t.addressTable address with
  | none => (-1, t)
  | some entry =>
    if t.isAged now entry then
      (-1, { t with addressTable := update t.addressTable address none })
    else (entry.portno, t)

/-- `removeAgedEntriesFromAllVlans`. -/
def removeAgedEntries : MACAddressTable :=
  { t with addressTable := fun a => (t.addressTable a).filter fun entry => !t.isAged now entry }

def removeAgedEntriesIfNeeded : MACAddressTable :=
  { if t.lastPurge + Ieee8021d.second ≤ now then t.removeAgedEntries now else t with
    lastPurge := now }

def updateTableWithAddress (portno : ℤ) : MACAddressTable :=
  if address.isBroadcast then t
  else
    let t := if (t.addressTable address).isNone then t.removeAgedEntriesIfNeeded now else t
    { t with addressTable := update t.addressTable address (some ⟨portno, now⟩) }

def flush (portno : ℤ) : MACAddressTable :=
  { t with addressTable := fun a => (t.addressTable a).filter fun entry => entry.portno ≠ portno }

def copyTable (portA portB : ℤ) : MACAddressTable :=
  { t with addressTable := fun a => (t.addressTable a).map fun entry =>
      if entry.portno = portA then { entry with portno := portB } else entry }

def clearTable : MACAddressTable := { t with addressTable := fun _ => none }

def setAgingTime (agingTime : ℤ) : MACAddressTable := { t with agingTime := agingTime }

/-! ### What is learnt -/

/-- The port that is learnt for the address, if it is not too old. -/
def learnt : Option ℤ :=
  ((t.addressTable address).filter fun entry => !t.isAged now entry).map AddressEntry.portno

/-- The ports of the table satisfy the condition. -/
def PortsIn (P : ℤ → Prop) : Prop := ∀ a entry, t.addressTable a = some entry → P entry.portno

variable {t now address} {portno : ℤ} {P : ℤ → Prop}

theorem getPortForAddress_fst :
    (t.getPortForAddress now address).1 = (t.learnt now address).getD (-1) := by
  rw [getPortForAddress, learnt]
  cases t.addressTable address with
  | none => rfl
  | some entry => cases haged : t.isAged now entry <;> simp [haged, Option.filter]

/-! ### The ports of the table -/

variable (h : t.PortsIn P)
include h

theorem PortsIn.learnt (hp : t.learnt now address = some portno) : P portno := by
  obtain ⟨entry, hentry, rfl⟩ := map_eq_some_iff.1 hp
  exact h address entry (filter_eq_some_iff.1 hentry).1

theorem PortsIn.filter (p : AddressEntry → Bool) (agingTime lastPurge : ℤ) :
    PortsIn ⟨fun a => (t.addressTable a).filter p, agingTime, lastPurge⟩ P :=
  fun a entry hentry => h a entry (filter_eq_some_iff.1 hentry).1

theorem PortsIn.update {entry : Option AddressEntry} (hentry : ∀ e ∈ entry, P e.portno)
    (lastPurge : ℤ) :
    PortsIn ⟨update t.addressTable address entry, t.agingTime, lastPurge⟩ P := by
  intro a e he
  by_cases ha : a = address
  · simp only [ha, update_self] at he
    exact hentry e he
  · simp only [update_of_ne ha] at he
    exact h a e he

theorem PortsIn.getPortForAddress : (t.getPortForAddress now address).2.PortsIn P := by
  rw [MACAddressTable.getPortForAddress]
  split
  · exact h
  · split_ifs
    · refine h.update (fun e he => ?_) _
      cases he
    · exact h

theorem PortsIn.updateTableWithAddress (hport : P portno) :
    (t.updateTableWithAddress now address portno).PortsIn P := by
  have hentry : ∀ e ∈ some (⟨portno, now⟩ : AddressEntry), P e.portno := by
    intro e he
    cases he
    exact hport
  rw [MACAddressTable.updateTableWithAddress]
  split_ifs
  · exact h
  · have hpurged : (t.removeAgedEntriesIfNeeded now).PortsIn P := by
      rw [removeAgedEntriesIfNeeded]
      split_ifs
      · exact h.filter _ _ _
      · exact h
    exact hpurged.update hentry _
  · exact h.update hentry _

theorem PortsIn.copyTable {portA portB : ℤ} (hport : P portB) :
    (t.copyTable portA portB).PortsIn P := by
  intro a e he
  obtain ⟨e', he', rfl⟩ := map_eq_some_iff.1 he
  split_ifs
  · exact hport
  · exact h a e' he'

end MACAddressTable

end Hiwis
