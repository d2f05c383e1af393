import Hiwis.Udp.UDP

/-!
# The tables of UDP sockets

`UDP.State.Consistent` says that `socketsByPortMap` lists the open sockets by their ports, that
sockets with the same address and port share it, and that an ephemeral port is an unused one.

* `UDP.State.searchPort_eq_none` : the search fails only if all ports of the range are in the map;
* `UDP.State.sockets_run` : the tables are consistent after all commands that leave no list empty
  and make no socket share its address that must not.
-/

namespace Hiwis

open List Bool Function Trace IPvXAddress

/-- The two addresses are equal, or one of them stands for all. -/
def IPvXAddress.overlaps (a b : IPvXAddress) : Bool := a == b || a.isUnspecified || b.isUnspecified

namespace UDP

namespace State

variable (u : State)

/-- The socket shares its address and port only with sockets that may share it, and may share it
then. -/
def Shares (sd : SockDesc) : Prop :=
  ∀ id, id ≠ sd.sockId → ∀ other ∈ u.socketsByIdMap id, other.localPort = sd.localPort →
    sd.localAddr.overlaps other.localAddr = true → sd.reuseAddr = true ∧ other.reuseAddr = true

def IsEphemeral (port : ℕ) : Prop :=
  EPHEMERAL_PORTRANGE_START ≤ port ∧ port < EPHEMERAL_PORTRANGE_END

/-- An open socket has the port. -/
def IsUsed (port : ℤ) : Prop := ∃ id, ∃ sd ∈ u.socketsByIdMap id, sd.localPort = port

/-- The map leads from each port to the open sockets that have it, sockets share an address only if
they may, and `getEphemeralPort` finds a port that is not used if there is one. -/
structure Consistent (u : State) : Prop where
  listed : ∀ port id, id ∈ u.socketsAt port ↔ ∃ sd ∈ u.socketsByIdMap id, sd.localPort = port
  once : ∀ port, (u.socketsAt port).Nodup
  nonempty : ∀ port, u.socketsByPortMap port ≠ some []
  shared : ∀ id, ∀ sd ∈ u.socketsByIdMap id, sd.sockId = id ∧ u.Shares sd
  unused : ∀ u' port, u.getEphemeralPort = .ok (u', port) → IsEphemeral port ∧ ¬u.IsUsed port
  exhausted : ∀ fault, u.getEphemeralPort = .error fault → ∀ port, IsEphemeral port → u.IsUsed port

/-- A socket that gets another port does not leave an empty list behind, an unspecified address is
bound where a specific one is only if both sockets may share it, and a socket that shares its
address may go on to do so. -/
def Admissible : Command → Prop
  | .bind sockId _ localAddr localPort => localPort ≠ -1 →
    (∀ sd ∈ u.socketsByIdMap sockId, sd.localPort ≠ localPort →
      u.socketsAt sd.localPort ≠ [sockId]) ∧
    (localAddr.isUnspecified = true → ∀ id ∈ u.socketsAt localPort, id ≠ sockId →
      ∀ other ∈ u.socketsByIdMap id, other.localAddr.isUnspecified = false →
        (u.socketsByIdMap sockId).any SockDesc.reuseAddr = true ∧ other.reuseAddr = true)
  | .setOption sockId _ (.reuseAddress false) => ∀ sd ∈ u.socketsByIdMap sockId,
    ∀ id ∈ u.socketsAt sd.localPort, id ≠ sockId → ∀ other ∈ u.socketsByIdMap id,
      sd.localAddr.overlaps other.localAddr = false
  | _ => True

/-! ### Ephemeral ports -/

section Ports

variable {u : State} {searchUntil fuel port p : ℕ}

theorem nextPort_eq (port : ℕ) : nextPort port = if port + 1 = 5000 then 1024 else port + 1 := rfl

theorem isEphemeral_iff : IsEphemeral port ↔ 1024 ≤ port ∧ port < 5000 := Iff.rfl

theorem isEphemeral_nextPort (h : IsEphemeral port) : IsEphemeral (nextPort port) := by
  rw [isEphemeral_iff] at h ⊢
  rw [nextPort_eq]
  split_ifs <;> omega

/-- The ports in the order of the search. -/
theorem iterate_nextPort (h : IsEphemeral port) (k : ℕ) :
    nextPort^[k] port = 1024 + (port - 1024 + k) % 3976 := by
  rw [isEphemeral_iff] at h
  induction k with
  | zero =>
    rw [iterate_zero, id]
    omega
  | succ k ih =>
    rw [iterate_succ_apply', ih, nextPort_eq]
    split_ifs <;> omega

theorem searchPort_eq_some (hport : IsEphemeral port)
    (h : u.searchPort searchUntil fuel port = some p) :
    IsEphemeral p ∧ u.socketsByPortMap p = none := by
  induction fuel generalizing port with
  | zero => cases h
  | succ fuel ih =>
    rw [searchPort] at h
    split_ifs at h with hused huntil
    · exact ih (isEphemeral_nextPort hport) h
    · cases h
      exact ⟨hport, Option.not_isSome_iff_eq_none.1 hused⟩

/-- The ports that a failing search has passed. -/
theorem searchPort_passed (h : u.searchPort searchUntil fuel port = none) :
    ∃ m, (∀ k < m, (u.socketsByPortMap (nextPort^[k] port : ℕ)).isSome = true) ∧
      (m = fuel ∨ ∃ k, m = k + 1 ∧ nextPort^[k] port = searchUntil) := by
  induction fuel generalizing port with
  | zero => exact ⟨0, fun k hk => absurd hk (Nat.not_lt_zero k), .inl rfl⟩
  | succ fuel ih =>
    rw [searchPort] at h
    split_ifs at h with hused huntil
    · refine ⟨1, fun k hk => ?_, .inr ⟨0, rfl, huntil⟩⟩
      obtain rfl := Nat.lt_one_iff.1 hk
      exact hused
    · obtain ⟨m, hpassed, hm⟩ := ih h
      refine ⟨m + 1, fun k hk => ?_, ?_⟩
      · cases k with
        | zero => exact hused
        | succ k => exact hpassed k (Nat.lt_of_succ_lt_succ hk)
      · obtain rfl | ⟨k, rfl, hk⟩ := hm
        · exact .inl rfl
        · exact .inr ⟨k + 1, rfl, hk⟩

/-- A search that fails has passed all ports: it comes back to its start before it runs out of
fuel. -/
theorem searchPort_eq_none (hstart : IsEphemeral searchUntil)
    (h : u.searchPort searchUntil 3976 (nextPort searchUntil) = none) (hp : IsEphemeral p) :
    (u.socketsByPortMap p).isSome = true := by
  obtain ⟨m, hpassed, hm⟩ := searchPort_passed h
  have horder := iterate_nextPort (isEphemeral_nextPort hstart)
  have hnext := iterate_nextPort hstart 1
  rw [iterate_one] at hnext
  rw [isEphemeral_iff] at hstart hp
  have hall : 3976 ≤ m := by
    obtain rfl | ⟨k, rfl, hk⟩ := hm
    · exact le_rfl
    · rw [horder k, hnext] at hk
      omega
  have hposition : nextPort^[(p + 3976 - nextPort searchUntil) % 3976] (nextPort searchUntil) =
      p := by
    rw [horder, hnext]
    omega
  rw [← hposition]
  exact hpassed _ (lt_of_lt_of_le (Nat.mod_lt _ (by decide)) hall)

end Ports

/-! ### The invariant -/

section Fields

variable {u} {sd : SockDesc} {port sockId p id : ℤ}

theorem mem_socketsByIdMap_setSocket {other : SockDesc} :
    other ∈ (u.setSocket sd).socketsByIdMap id ↔
      (id = sd.sockId ∧ other = sd) ∨ (id ≠ sd.sockId ∧ other ∈ u.socketsByIdMap id) := by
  by_cases hid : id = sd.sockId
  · subst hid
    simp [setSocket, eq_comm]
  · simp [setSocket, hid]

/-- The socket that has been set has its port, the others have the ports that they had. -/
theorem hasPort_setSocket : (∃ other ∈ (u.setSocket sd).socketsByIdMap id, other.localPort = port) ↔
    if id = sd.sockId then sd.localPort = port
    else ∃ other ∈ u.socketsByIdMap id, other.localPort = port := by
  by_cases hid : id = sd.sockId
  · subst hid
    simp [setSocket]
  · simp [setSocket, hid]

@[simp] theorem socketsAt_setSocket : (u.setSocket sd).socketsAt p = u.socketsAt p := rfl

theorem socketsAt_pushBack : (u.pushBack port sockId).socketsAt p =
    if p = port then u.socketsAt port ++ [sockId] else u.socketsAt p := by
  by_cases hp : p = port <;> simp [socketsAt, pushBack, hp]

theorem socketsAt_removeFrom : (u.removeFrom port sockId).socketsAt p =
    if p = port then (u.socketsAt port).filter fun id => id != sockId else u.socketsAt p := by
  by_cases hp : p = port <;> simp [socketsAt, removeFrom, hp]

end Fields

/-- The two maps of sockets agree. -/
structure Indexed (u : State) : Prop where
  listed : ∀ port id, id ∈ u.socketsAt port ↔ ∃ sd ∈ u.socketsByIdMap id, sd.localPort = port
  once : ∀ port, (u.socketsAt port).Nodup
  keyed : ∀ id, ∀ sd ∈ u.socketsByIdMap id, sd.sockId = id

namespace Indexed

variable {u u' : State} {sd old : SockDesc} {port : ℤ}

theorem keyed_setSocket (h : Indexed u) :
    ∀ id, ∀ other ∈ (u.setSocket sd).socketsByIdMap id, other.sockId = id := by
  intro id other hother
  obtain ⟨rfl, rfl⟩ | ⟨-, hother⟩ := mem_socketsByIdMap_setSocket.1 hother
  · rfl
  · exact h.keyed id other hother

/-- A socket changes, but not its port. -/
theorem replace (h : Indexed u) (hold : u.socketsByIdMap sd.sockId = some old)
    (hport : sd.localPort = old.localPort) : Indexed (u.setSocket sd) := by
  refine ⟨fun port id => ?_, h.once, h.keyed_setSocket⟩
  rw [socketsAt_setSocket, h.listed, hasPort_setSocket]
  by_cases hid : id = sd.sockId
  · subst hid
    simp [hold, hport]
  · rw [if_neg hid]

/-- A socket is created. -/
theorem add (h : Indexed u) (hnew : u.socketsByIdMap sd.sockId = none) :
    Indexed ((u.setSocket sd).pushBack sd.localPort sd.sockId) := by
  have hfresh : ∀ port, sd.sockId ∉ u.socketsAt port := by
    intro port hmem
    obtain ⟨other, hother, -⟩ := (h.listed port sd.sockId).1 hmem
    rw [hnew] at hother
    cases hother
  refine ⟨fun port id => ?_, fun port => ?_, h.keyed_setSocket⟩
  · refine Iff.trans ?_ hasPort_setSocket.symm
    rw [socketsAt_pushBack, socketsAt_setSocket, socketsAt_setSocket, ← h.listed]
    by_cases hport : port = sd.localPort
    · subst hport
      by_cases hid : id = sd.sockId <;> simp [hid]
    · by_cases hid : id = sd.sockId
      · subst hid
        simp [hport, hfresh, Ne.symm hport]
      · simp [hport, hid]
  · rw [socketsAt_pushBack, socketsAt_setSocket, socketsAt_setSocket]
    split_ifs with hport
    · rw [← concat_eq_append]
      exact (h.once _).concat (hfresh _)
    · exact h.once port

section

variable (h : Indexed u) (hold : u.socketsByIdMap sd.sockId = some old)
include h hold

theorem mem_socketsAt_iff : sd.sockId ∈ u.socketsAt port ↔ old.localPort = port := by
  rw [h.listed, hold]
  simp

/-- The lists after a socket has got another port. -/
theorem socketsAt_move (hport : old.localPort ≠ sd.localPort) :
    (((u.removeFrom old.localPort sd.sockId).setSocket sd).pushBack sd.localPort
      sd.sockId).socketsAt port = if port = sd.localPort then u.socketsAt port ++ [sd.sockId]
        else (u.socketsAt port).filter fun id => id != sd.sockId := by
  rw [socketsAt_pushBack, socketsAt_setSocket, socketsAt_setSocket, socketsAt_removeFrom,
    socketsAt_removeFrom, if_neg hport.symm]
  by_cases hnew : port = sd.localPort
  · rw [if_pos hnew, if_pos hnew, hnew]
  · rw [if_neg hnew, if_neg hnew]
    by_cases hleft : port = old.localPort
    · rw [if_pos hleft, hleft]
    · have hfree : sd.sockId ∉ u.socketsAt port := fun hmem =>
        hleft ((h.mem_socketsAt_iff hold).1 hmem).symm
      rw [if_neg hleft, filter_eq_self.2]
      intro id hid
      simp only [bne_iff_ne, ne_eq]
      rintro rfl
      exact hfree hid

/-- A socket gets another port. -/
theorem move (hport : old.localPort ≠ sd.localPort) :
    Indexed (((u.removeFrom old.localPort sd.sockId).setSocket sd).pushBack sd.localPort
      sd.sockId) := by
  refine ⟨fun port id => ?_, fun port => ?_, h.keyed_setSocket (u := u)⟩
  · refine Iff.trans ?_ hasPort_setSocket.symm
    rw [h.socketsAt_move hold hport,
      show (u.removeFrom old.localPort sd.sockId).socketsByIdMap = u.socketsByIdMap from rfl,
      ← h.listed]
    by_cases hnew : port = sd.localPort
    · subst hnew
      by_cases hid : id = sd.sockId <;> simp [hid]
    · by_cases hid : id = sd.sockId
      · simp [hnew, hid, Ne.symm hnew]
      · simp [hnew, hid]
  · rw [h.socketsAt_move hold hport]
    split_ifs with hnew
    · subst hnew
      rw [← concat_eq_append]
      exact (h.once _).concat fun hmem => hport ((h.mem_socketsAt_iff hold).1 hmem)
    · exact (h.once port).filter _

end

/-- A socket is closed: the others stay, and no list that was not empty is left empty. -/
theorem close (h : Indexed u) {sockId : ℤ} (hclose : u.close sockId = .ok u') : Indexed u' ∧
      (∀ id other, other ∈ u'.socketsByIdMap id ↔ id ≠ sockId ∧ other ∈ u.socketsByIdMap id) ∧
      (∀ port, u'.socketsByPortMap port = some [] → u.socketsByPortMap port = some []) ∧
      u'.lastEphemeralPort = u.lastEphemeralPort := by
  rw [State.close] at hclose
  cases hsd : u.socketsByIdMap sockId with
  | none =>
    rw [hsd] at hclose
    cases hclose
  | some sd =>
    rw [hsd] at hclose
    cases hclose
    have hmap : ∀ id other, other ∈ update u.socketsByIdMap sockId none id ↔
        id ≠ sockId ∧ other ∈ u.socketsByIdMap id := by
      intro id other
      by_cases hid : id = sockId <;> simp [hid]
    have hat : ∀ port, State.socketsAt { u with
        socketsByIdMap := update u.socketsByIdMap sockId none
        socketsByPortMap := update u.socketsByPortMap sd.localPort
          (if ((u.socketsAt sd.localPort).erase sockId).isEmpty then none
            else some ((u.socketsAt sd.localPort).erase sockId)) } port =
        (u.socketsAt port).erase sockId := by
      intro port
      by_cases hport : port = sd.localPort
      · subst hport
        cases (u.socketsAt sd.localPort).erase sockId <;> simp [socketsAt]
      · have hfree : sockId ∉ u.socketsAt port := by
          rw [h.listed, hsd]
          simpa using Ne.symm hport
        rw [erase_of_not_mem hfree]
        simp [socketsAt, hport]
    refine ⟨⟨fun port id => ?_, fun port => ?_, fun id other hother => ?_⟩, hmap,
      fun port hnil => ?_, rfl⟩
    · rw [hat, (h.once port).mem_erase_iff, h.listed]
      by_cases hid : id = sockId <;> simp [hid]
    · rw [hat]
      exact (h.once port).erase sockId
    · exact h.keyed id other ((hmap id other).1 hother).2
    · by_cases hport : port = sd.localPort
      · subst hport
        cases hlist : (u.socketsAt sd.localPort).erase sockId <;> simp [hlist] at hnil
      · simpa [hport] using hnil

theorem mem_sockets_iff (h : Indexed u) {other : SockDesc} :
    other ∈ (u.socketsAt port).filterMap u.socketsByIdMap ↔
      other ∈ u.socketsByIdMap other.sockId ∧ other.localPort = port := by
  rw [mem_filterMap]
  constructor
  · rintro ⟨id, hid, hother⟩
    obtain ⟨sd, hsd, hport⟩ := (h.listed port id).1 hid
    obtain rfl := Option.some.inj (hsd.symm.trans hother)
    obtain rfl := h.keyed id sd hsd
    exact ⟨hsd, hport⟩
  · rintro ⟨hother, hport⟩
    exact ⟨other.sockId, (h.listed port _).2 ⟨other, hother, hport⟩, hother⟩

end Indexed

/-- The tables are consistent, and a socket that is not bound has no address. -/
structure Inv (u : State) : Prop where
  listed : ∀ port id, id ∈ u.socketsAt port ↔ ∃ sd ∈ u.socketsByIdMap id, sd.localPort = port
  once : ∀ port, (u.socketsAt port).Nodup
  nonempty : ∀ port, u.socketsByPortMap port ≠ some []
  shared : ∀ id, ∀ sd ∈ u.socketsByIdMap id, sd.sockId = id ∧ u.Shares sd
  unbound : ∀ id, ∀ sd ∈ u.socketsByIdMap id, sd.isBound = false → sd.localAddr = .unspecified
  range : IsEphemeral u.lastEphemeralPort

namespace Inv

variable {u u' : State} {sd old : SockDesc} {port : ℤ}

theorem indexed (h : Inv u) : Indexed u :=
  ⟨h.listed, h.once, fun id sd hsd => (h.shared id sd hsd).1⟩

theorem consistent (h : Inv u) : u.Consistent := by
  refine ⟨h.listed, h.once, h.nonempty, h.shared, fun u' port hport => ?_,
    fun fault hfault port hport => ?_⟩
  · simp only [getEphemeralPort] at hport
    split at hport
    · rename_i p hsearch
      cases hport
      obtain ⟨hrange, hnone⟩ := searchPort_eq_some (isEphemeral_nextPort h.range) hsearch
      refine ⟨hrange, fun ⟨id, sd, hsd, hlocal⟩ => ?_⟩
      have hmem := (h.listed _ id).2 ⟨sd, hsd, hlocal⟩
      rw [socketsAt, hnone] at hmem
      cases hmem
    · cases hport
  · simp only [getEphemeralPort] at hfault
    split at hfault
    · cases hfault
    · rename_i hsearch
      have hused := searchPort_eq_none h.range hsearch hport
      obtain ⟨ids, hids⟩ := Option.isSome_iff_exists.1 hused
      cases ids with
      | nil => exact absurd hids (h.nonempty port)
      | cons id ids =>
        refine ⟨id, (h.listed port id).1 ?_⟩
        rw [socketsAt, hids]
        exact mem_cons_self

theorem overlaps_comm (a b : IPvXAddress) : a.overlaps b = b.overlaps a := by
  rw [overlaps, overlaps, beq_comm, Bool.or_assoc, Bool.or_assoc, Bool.or_comm a.isUnspecified]

/-- The sockets share their addresses after one has been set that may share its own. -/
theorem shared_setSocket (h : Inv u) (hshares : u.Shares sd) :
    ∀ id, ∀ other ∈ (u.setSocket sd).socketsByIdMap id,
      other.sockId = id ∧ (u.setSocket sd).Shares other := by
  intro id other hother
  obtain ⟨rfl, rfl⟩ | ⟨hid, hother⟩ := mem_socketsByIdMap_setSocket.1 hother
  · refine ⟨rfl, fun id hid third hthird => ?_⟩
    obtain ⟨rfl, -⟩ | ⟨-, hthird⟩ := mem_socketsByIdMap_setSocket.1 hthird
    · exact absurd rfl hid
    · exact hshares id hid third hthird
  · obtain ⟨rfl, hown⟩ := h.shared id other hother
    refine ⟨rfl, fun id' hid' third hthird hport hoverlaps => ?_⟩
    obtain ⟨rfl, rfl⟩ | ⟨-, hthird⟩ := mem_socketsByIdMap_setSocket.1 hthird
    · obtain ⟨-, rfl⟩ | ⟨-, hother⟩ := mem_socketsByIdMap_setSocket.1 hother
      · exact absurd rfl hid
      rw [overlaps_comm] at hoverlaps
      exact (hshares _ hid other hother hport.symm hoverlaps).symm
    · exact hown id' hid' third hthird hport hoverlaps

theorem unbound_setSocket (h : Inv u)
    (hunbound : sd.isBound = false → sd.localAddr = .unspecified) :
    ∀ id, ∀ other ∈ (u.setSocket sd).socketsByIdMap id,
      other.isBound = false → other.localAddr = .unspecified := by
  intro id other hother
  obtain ⟨-, rfl⟩ | ⟨-, hother⟩ := mem_socketsByIdMap_setSocket.1 hother
  · exact hunbound
  · exact h.unbound id other hother

/-- A socket changes, but not its port. -/
theorem replace (h : Inv u) (hold : u.socketsByIdMap sd.sockId = some old)
    (hport : sd.localPort = old.localPort) (hshares : u.Shares sd)
    (hunbound : sd.isBound = false → sd.localAddr = .unspecified) : Inv (u.setSocket sd) := by
  have hindexed := h.indexed.replace hold hport
  exact ⟨hindexed.listed, hindexed.once, h.nonempty, h.shared_setSocket hshares,
    h.unbound_setSocket hunbound, h.range⟩

/-- A socket is created. -/
theorem add (h : Inv u) (hnew : u.socketsByIdMap sd.sockId = none) (hshares : u.Shares sd)
    (hunbound : sd.isBound = false → sd.localAddr = .unspecified) :
    Inv ((u.setSocket sd).pushBack sd.localPort sd.sockId) := by
  have hindexed := h.indexed.add hnew
  refine ⟨hindexed.listed, hindexed.once, fun port => ?_, h.shared_setSocket hshares,
    h.unbound_setSocket hunbound, h.range⟩
  by_cases hport : port = sd.localPort
  · subst hport
    simp [pushBack]
  · simpa [pushBack, setSocket, hport] using h.nonempty port

theorem eq_singleton_of_filter {ids : List ℤ} {sockId : ℤ} (hnodup : ids.Nodup)
    (hmem : sockId ∈ ids) (hfilter : ids.filter (fun id => id != sockId) = []) :
    ids = [sockId] := by
  have hperm := perm_cons_erase hmem
  rw [hnodup.erase_eq_filter, hfilter] at hperm
  exact perm_singleton.1 hperm

/-- A socket gets another port, and does not leave an empty list behind. -/
theorem move (h : Inv u) (hold : u.socketsByIdMap sd.sockId = some old)
    (hport : old.localPort ≠ sd.localPort) (hleaves : u.socketsAt old.localPort ≠ [sd.sockId])
    (hshares : u.Shares sd) (hunbound : sd.isBound = false → sd.localAddr = .unspecified) :
    Inv (((u.removeFrom old.localPort sd.sockId).setSocket sd).pushBack sd.localPort
      sd.sockId) := by
  have hindexed := h.indexed.move hold hport
  refine ⟨hindexed.listed, hindexed.once, fun port => ?_, h.shared_setSocket hshares,
    h.unbound_setSocket hunbound, h.range⟩
  by_cases hnew : port = sd.localPort
  · subst hnew
    simp [pushBack]
  · by_cases hleft : port = old.localPort
    · subst hleft
      -- The list is not empty: it had more members than the socket.
      have hne : (u.socketsAt old.localPort).filter (fun id => id != sd.sockId) ≠ [] :=
        fun hnil => hleaves
          (eq_singleton_of_filter (h.once _) ((h.indexed.mem_socketsAt_iff hold).2 rfl) hnil)
      simpa [pushBack, setSocket, removeFrom, hnew] using hne
    · simpa [pushBack, setSocket, removeFrom, hnew, hleft] using h.nonempty port

/-- A socket is closed. -/
theorem close (h : Inv u) {sockId : ℤ} (hclose : u.close sockId = .ok u') : Inv u' := by
  obtain ⟨hindexed, hmap, hempty, hlast⟩ := h.indexed.close hclose
  refine ⟨hindexed.listed, hindexed.once, fun port hnil => h.nonempty port (hempty port hnil),
    fun id other hother => ?_,
    fun id other hother => h.unbound id other ((hmap id other).1 hother).2, hlast ▸ h.range⟩
  obtain ⟨hkey, hshares⟩ := h.shared id other ((hmap id other).1 hother).2
  exact ⟨hkey, fun id' hid' third hthird => hshares id' hid' third ((hmap id' third).1 hthird).2⟩

/-! ### Commands -/

/-- Two sockets that overlap with an address at a port both may share it, if the first one may. -/
theorem reuseAddr_of_not_isTaken (h : Inv u) {sockId : ℤ} {localAddr : IPvXAddress}
    {localPort : ℤ} (hlow : 0 ≤ localPort) (hhigh : localPort ≤ 65535)
    (hfree : u.isTaken (u.socketsByIdMap sockId) localAddr localPort = false) {other : SockDesc}
    (hother : other ∈ u.socketsByIdMap other.sockId) (hport : other.localPort = localPort)
    (hmatch : other.localAddr.isUnspecified = true ∨ other.localAddr = localAddr) :
    (u.socketsByIdMap sockId).any SockDesc.reuseAddr = true ∧ other.reuseAddr = true := by
  have hmod : localPort % 2 ^ 16 = localPort := by omega
  have hmem := h.indexed.mem_sockets_iff.2 ⟨hother, hport⟩
  rw [isTaken, findFirstSocketByLocalAddress, hmod] at hfree
  cases hfirst : ((u.socketsAt localPort).filterMap u.socketsByIdMap).find?
      fun sd => sd.localAddr.isUnspecified || sd.localAddr == localAddr with
  | none =>
    have hnone := List.find?_eq_none.1 hfirst other hmem
    simp only [or_eq_true, beq_iff_eq] at hnone
    exact absurd hmatch hnone
  | some existing =>
    rw [hfirst] at hfree
    have hreuse : (u.socketsByIdMap sockId).any SockDesc.reuseAddr = true ∧
        existing.reuseAddr = true := by simpa using hfree
    refine ⟨hreuse.1, ?_⟩
    obtain ⟨hexisting, hexport⟩ := h.indexed.mem_sockets_iff.1 (mem_of_find?_eq_some hfirst)
    have hfound := List.find?_some hfirst
    simp only [or_eq_true, beq_iff_eq] at hfound
    by_cases hsame : existing.sockId = other.sockId
    · rw [hsame] at hexisting
      cases hexisting.symm.trans hother
      exact hreuse.2
    · refine ((h.shared _ other hother).2 _ hsame existing hexisting (hexport.trans hport.symm)
        ?_).1
      simp only [overlaps, or_eq_true, beq_iff_eq]
      grind

/-- The port of a new socket is the given one, or one that is not used. -/
theorem choosePort (h : Inv u) {localPort : ℤ} (hok : u.choosePort localPort = .ok (u', port)) :
    ∃ last, IsEphemeral last ∧ u' = { u with lastEphemeralPort := last } ∧
      ((localPort ≠ -1 ∧ port = localPort) ∨ (localPort = -1 ∧ ¬u.IsUsed port)) := by
  rw [State.choosePort] at hok
  split_ifs at hok with hephemeral
  · cases hget : u.getEphemeralPort with
    | error fault =>
      rw [hget] at hok
      cases hok
    | ok result =>
      obtain ⟨u1, p⟩ := result
      obtain ⟨hrange, hunused⟩ := h.consistent.unused u1 p hget
      rw [hget] at hok
      cases hok
      refine ⟨p, hrange, ?_, .inr ⟨hephemeral, hunused⟩⟩
      rw [getEphemeralPort] at hget
      split at hget
      · cases hget
        rfl
      · cases hget
  · cases hok
    exact ⟨u.lastEphemeralPort, h.range, rfl, .inl ⟨hephemeral, rfl⟩⟩

theorem createSocket (h : Inv u) {sockId gateIndex : ℤ} {localAddr : IPvXAddress} {localPort : ℤ}
    (hok : u.createSocket sockId gateIndex localAddr localPort = .ok (u', sd)) :
    ∃ base : State, Inv base ∧ base.socketsByIdMap = u.socketsByIdMap ∧
      u' = (base.setSocket sd).pushBack sd.localPort sd.sockId ∧
      sd.sockId = sockId ∧ sd.isBound = false ∧ sd.localAddr = localAddr ∧
      ((localPort ≠ -1 ∧ sd.localPort = localPort) ∨
        (localPort = -1 ∧ ¬u.IsUsed sd.localPort)) := by
  rw [State.createSocket] at hok
  cases hchoose : u.choosePort localPort with
  | error fault =>
    rw [hchoose] at hok
    cases hok
  | ok result =>
    obtain ⟨u1, p⟩ := result
    rw [hchoose] at hok
    cases hok
    obtain ⟨last, hrange, rfl, hport⟩ := h.choosePort hchoose
    exact ⟨{ u with lastEphemeralPort := last },
      ⟨h.listed, h.once, h.nonempty, h.shared, h.unbound, hrange⟩, rfl, rfl, rfl, rfl, rfl, hport⟩

/-- Nothing is shared at a port that is not used. -/
theorem shares_of_not_isUsed (hfree : ¬u.IsUsed sd.localPort) : u.Shares sd :=
  fun id _ other hother hport _ => absurd ⟨id, other, hother, hport⟩ hfree

/-- A socket that is found or created: it is known to the caller, or its port is its own. -/
theorem getOrCreateSocket (h : Inv u) {sockId gateIndex : ℤ}
    (hok : u.getOrCreateSocket sockId gateIndex = .ok (u', sd)) :
    Inv u' ∧ sd ∈ u'.socketsByIdMap sd.sockId ∧ sd.sockId = sockId ∧
      (u' = u ∨ ∀ id, id ≠ sd.sockId → ∀ other ∈ u'.socketsByIdMap id,
        other.localPort ≠ sd.localPort) := by
  rw [State.getOrCreateSocket] at hok
  split_ifs at hok
  split at hok
  · rename_i sd' hsd
    obtain ⟨rfl, rfl⟩ := Prod.mk.inj (Except.ok.inj hok)
    obtain ⟨rfl, -⟩ := h.shared _ sd' hsd
    exact ⟨h, hsd, rfl, .inl rfl⟩
  · rename_i hnew
    obtain ⟨base, hbase, hsame, rfl, hid, -, haddr, ⟨hne, -⟩ | ⟨-, hfree⟩⟩ := h.createSocket hok
    · exact absurd rfl hne
    have hfree : ¬base.IsUsed sd.localPort := by
      rwa [IsUsed, hsame]
    refine ⟨hbase.add (by rw [hsame, hid, hnew]) (shares_of_not_isUsed hfree) fun _ => haddr,
      mem_socketsByIdMap_setSocket.2 (.inl ⟨rfl, rfl⟩), hid, .inr ?_⟩
    intro id hne other hother hport
    obtain ⟨hown, -⟩ | ⟨-, hother⟩ := mem_socketsByIdMap_setSocket.1 hother
    · exact hne hown
    · exact hfree ⟨id, other, hother, hport⟩

end Inv

theorem Shares.keep {u : State} {sd sd' : SockDesc} (h : u.Shares sd)
    (hid : sd'.sockId = sd.sockId) (hport : sd'.localPort = sd.localPort)
    (haddr : sd'.localAddr = sd.localAddr) (hreuse : sd.reuseAddr = true → sd'.reuseAddr = true) :
    u.Shares sd' := by
  intro id hne other hother hother' hoverlaps
  rw [hid] at hne
  rw [hport] at hother'
  rw [haddr] at hoverlaps
  exact (h id hne other hother hother' hoverlaps).imp_left hreuse

/-- What no option changes, and the flag that one option changes. -/
structure SameSocket (sd sd' : SockDesc) : Prop where
  sockId : sd'.sockId = sd.sockId
  isBound : sd'.isBound = sd.isBound
  localAddr : sd'.localAddr = sd.localAddr
  localPort : sd'.localPort = sd.localPort

theorem joinMulticastGroups_same {interfaceIds ids : List ℤ} {addrs : List IPvXAddress}
    {sd sd' : SockDesc} (h : joinMulticastGroups interfaceIds sd addrs ids = .ok sd') :
    SameSocket sd sd' ∧ sd'.reuseAddr = sd.reuseAddr := by
  induction addrs generalizing sd ids with
  | nil =>
    cases h
    exact ⟨⟨rfl, rfl, rfl, rfl⟩, rfl⟩
  | cons addr addrs ih =>
    rw [joinMulticastGroups] at h
    split_ifs at h
    obtain ⟨⟨hid, hbound, haddr, hport⟩, hreuse⟩ := ih h
    exact ⟨⟨hid, hbound, haddr, hport⟩, hreuse⟩

variable {option : SetOption}

theorem applyOption_same {u : State} {sd sd' : SockDesc} (h : u.applyOption sd option = .ok sd') :
    SameSocket sd sd' ∧ (sd'.reuseAddr = sd.reuseAddr ∨ option = .reuseAddress sd'.reuseAddr) := by
  cases option with
  | joinMulticastGroups addrs ids => exact (joinMulticastGroups_same h).imp_right .inl
  | reuseAddress reuseAddr =>
    cases h
    exact ⟨⟨rfl, rfl, rfl, rfl⟩, .inr rfl⟩
  | timeToLive | typeOfService | broadcast | multicastInterface | multicastLoop
  | leaveMulticastGroups =>
    cases h
    exact ⟨⟨rfl, rfl, rfl, rfl⟩, .inl rfl⟩

namespace Inv

variable {u u' : State} {sd : SockDesc} {sd' : SockDesc}

/-- A socket changes, but not its place. -/
theorem update (h : Inv u) (hsd : sd ∈ u.socketsByIdMap sd.sockId) (hsame : SameSocket sd sd')
    (hshares : u.Shares sd') : Inv (u.setSocket sd') := by
  have hold : u.socketsByIdMap sd'.sockId = some sd := by
    rw [hsame.sockId]
    exact hsd
  refine h.replace hold hsame.localPort hshares fun hunbound => ?_
  rw [hsame.localAddr]
  exact h.unbound _ sd hsd (hsame.isBound ▸ hunbound)

theorem connect (h : Inv u) {sockId gateIndex remotePort : ℤ} {remoteAddr : IPvXAddress}
    (hok : u.connect sockId gateIndex remoteAddr remotePort = .ok u') : Inv u' := by
  rw [State.connect] at hok
  split_ifs at hok
  cases hget : u.getOrCreateSocket sockId gateIndex with
  | error fault =>
    rw [hget] at hok
    cases hok
  | ok result =>
    obtain ⟨u1, sd⟩ := result
    rw [hget] at hok
    cases hok
    obtain ⟨h1, hsd, -, -⟩ := h.getOrCreateSocket hget
    exact h1.update hsd ⟨rfl, rfl, rfl, rfl⟩ ((h1.shared _ sd hsd).2.keep rfl rfl rfl id)

theorem setOption (h : Inv u) {sockId gateIndex : ℤ}
    (hadmissible : u.Admissible (.setOption sockId gateIndex option))
    (hok : u.setOption sockId gateIndex option = .ok u') : Inv u' := by
  rw [State.setOption] at hok
  obtain ⟨⟨u1, sd⟩, hget, hok⟩ := Except.bind_eq_ok.1 hok
  cases happly : u1.applyOption sd option with
  | error fault =>
    simp only [happly] at hok
    cases hok
  | ok sd' =>
    simp only [happly] at hok
    cases hok
    obtain ⟨h1, hsd, hid, hknown⟩ := h.getOrCreateSocket hget
    obtain ⟨hsame, hreuse⟩ := applyOption_same happly
    refine h1.update hsd hsame ?_
    have hshares := (h1.shared _ sd hsd).2
    obtain hreuse | rfl := hreuse
    · exact hshares.keep hsame.sockId hsame.localPort hsame.localAddr (hreuse ▸ id)
    cases hflag : sd'.reuseAddr with
    | true => exact hshares.keep hsame.sockId hsame.localPort hsame.localAddr fun _ => hflag
    | false =>
      -- The flag is cleared: nothing overlaps with the socket, whether it is new or not.
      intro id hne other hother hport hoverlaps
      rw [hsame.sockId] at hne
      rw [hsame.localPort] at hport
      rw [hsame.localAddr] at hoverlaps
      obtain rfl | hfree := hknown
      · rw [hflag] at hadmissible
        have hapart := hadmissible sd (hid ▸ hsd) id
          ((h.listed _ id).2 ⟨other, hother, hport⟩) (hid ▸ hne) other hother
        rw [hapart] at hoverlaps
        cases hoverlaps
      · exact absurd hport (hfree id hne other hother)

theorem send (h : Inv u) {sockId gateIndex : ℤ} {ctrl : SendCommand} {packet : Packet}
    (hok : u.processPacketFromApp sockId gateIndex ctrl = .ok (u', packet)) : Inv u' := by
  rw [processPacketFromApp] at hok
  obtain ⟨⟨u1, sd⟩, hget, hok⟩ := Except.bind_eq_ok.1 hok
  cases hsend : sendDown sd ctrl with
  | error fault =>
    simp only [hsend] at hok
    cases hok
  | ok packet =>
    simp only [hsend] at hok
    cases hok
    exact (h.getOrCreateSocket hget).1

section Bind

variable {sockId gateIndex localPort : ℤ} {localAddr : IPvXAddress}

/-- A socket that is bound where no other one is, or where all may share the address. -/
theorem shares_bind (h : Inv u)
    (hadmissible : u.Admissible (.bind sockId gateIndex localAddr localPort))
    (hlow : ¬(localPort < -1 ∨ 65535 < localPort)) (hgiven : localPort ≠ -1)
    (hfree : u.isTaken (u.socketsByIdMap sockId) localAddr localPort = false)
    (hid : sd.sockId = sockId) (haddr : sd.localAddr = localAddr) (hport : sd.localPort = localPort)
    (hreuse : (u.socketsByIdMap sockId).any SockDesc.reuseAddr = true → sd.reuseAddr = true) :
    u.Shares sd := by
  subst hid haddr hport
  intro id hne other hother hport hoverlaps
  obtain ⟨rfl, -⟩ := h.shared id other hother
  by_cases hmatch : other.localAddr.isUnspecified = true ∨ other.localAddr = sd.localAddr
  · exact (h.reuseAddr_of_not_isTaken (by omega) (by omega) hfree hother hport hmatch).imp_left
      hreuse
  · -- Only the address of the socket itself is unspecified.
    simp only [overlaps, or_eq_true, beq_iff_eq] at hoverlaps
    refine ((hadmissible hgiven).2 (by grind) _ ((h.listed _ _).2 ⟨other, hother, hport⟩) hne other
      hother (by grind)).imp_left hreuse

/-- A socket without an address shares its port with all sockets that have it. -/
theorem shares_bound (h : Inv u) (hsd : sd ∈ u.socketsByIdMap sd.sockId)
    (hunbound : sd.isBound = false) (hid : sd'.sockId = sd.sockId)
    (hport : sd'.localPort = sd.localPort) (hreuse : sd'.reuseAddr = sd.reuseAddr) :
    u.Shares sd' := by
  intro id hne other hother hother' hoverlaps
  rw [hreuse]
  refine (h.shared _ sd hsd).2 id (hid ▸ hne) other hother (hother'.trans hport) ?_
  rw [h.unbound _ sd hsd hunbound, overlaps, Bool.or_assoc, or_eq_true, or_eq_true]
  exact .inr (.inl rfl)

theorem bindSocket (h : Inv u)
    (hadmissible : u.Admissible (.bind sd.sockId gateIndex localAddr localPort))
    (hlow : ¬(localPort < -1 ∨ 65535 < localPort))
    (hfree : u.isTaken (u.socketsByIdMap sd.sockId) localAddr localPort = false)
    (hsd : sd ∈ u.socketsByIdMap sd.sockId) (hunbound : sd.isBound = false) :
    Inv (u.bindSocket sd localAddr localPort) := by
  have hreuse : (u.socketsByIdMap sd.sockId).any SockDesc.reuseAddr = true →
      sd.reuseAddr = true := by
    rw [show u.socketsByIdMap sd.sockId = some sd from hsd]
    exact id
  rw [State.bindSocket]
  simp only
  split_ifs with hmove
  · obtain ⟨hgiven, hne⟩ := hmove
    refine h.move hsd hne ((hadmissible hgiven).1 sd hsd hne) ?_ fun hbound => by cases hbound
    exact h.shares_bind hadmissible hlow hgiven hfree rfl rfl rfl hreuse
  · refine h.replace hsd rfl ?_ fun hbound => by cases hbound
    exact h.shares_bound hsd hunbound rfl rfl rfl

theorem bind (h : Inv u) (hadmissible : u.Admissible (.bind sockId gateIndex localAddr localPort))
    (hok : u.bind sockId gateIndex localAddr localPort = .ok u') : Inv u' := by
  rw [State.bind] at hok
  split_ifs at hok with hempty hlow htaken
  rw [not_eq_true] at htaken
  cases hold : u.socketsByIdMap sockId with
  | some sd =>
    rw [hold] at hok
    simp only at hok
    split_ifs at hok with hbound
    cases hok
    obtain ⟨rfl, -⟩ := h.shared _ sd hold
    exact h.bindSocket hadmissible hlow htaken hold (not_eq_true _ ▸ hbound)
  | none =>
    rw [hold] at hok
    simp only at hok
    cases hcreate : u.createSocket sockId gateIndex localAddr localPort with
    | error fault =>
      rw [hcreate] at hok
      cases hok
    | ok result =>
      obtain ⟨u1, sd⟩ := result
      rw [hcreate] at hok
      cases hok
      obtain ⟨base, hbase, hsame, rfl, hid, -, haddr, hport⟩ := h.createSocket hcreate
      have hset : ((base.setSocket sd).pushBack sd.localPort sd.sockId).setSocket
          { sd with isBound := true } =
          (base.setSocket { sd with isBound := true }).pushBack sd.localPort sd.sockId := by
        simp [setSocket, pushBack, socketsAt]
      have hnew : base.socketsByIdMap sd.sockId = none := by rw [hsame, hid, hold]
      have hshares : base.Shares { sd with isBound := true } := by
        obtain ⟨hgiven, hport⟩ | ⟨-, hfree⟩ := hport
        · have hshares : u.Shares { sd with isBound := true } :=
            h.shares_bind hadmissible hlow hgiven htaken hid haddr hport (by simp [hold])
          rwa [Shares, hsame]
        · refine shares_of_not_isUsed ?_
          rwa [IsUsed, hsame]
      simp only
      rw [hset]
      exact hbase.add hnew hshares fun hbound => by cases hbound

end Bind

theorem process (h : Inv u) {command : Command} (hadmissible : u.Admissible command)
    (hok : u.process command = .ok u') : Inv u' := by
  cases command with
  | bind sockId gateIndex localAddr localPort => exact h.bind hadmissible hok
  | connect sockId gateIndex remoteAddr remotePort => exact h.connect hok
  | setOption sockId gateIndex option => exact h.setOption hadmissible hok
  | send sockId gateIndex ctrl =>
    rw [State.process] at hok
    cases hsend : u.processPacketFromApp sockId gateIndex ctrl with
    | error fault =>
      rw [hsend] at hok
      cases hok
    | ok result =>
      rw [hsend] at hok
      cases hok
      exact h.send hsend
  | close sockId => exact h.close hok

end Inv

/-! ### Runs -/

/-- **The tables of sockets are consistent** after all commands that leave no list empty and make no
socket share its address that must not. -/
theorem sockets_run {interfaceIds : List ℤ} {commands : List Command} {u : State}
    (hrun : Run process Admissible { interfaceIds := interfaceIds } commands u) :
    u.Consistent := by
  refine (hrun.invariant (I := Inv) (fun _ _ _ h hadmissible hok => h.process hadmissible hok)
    ?_).consistent
  refine ⟨fun port id => ?_, fun port => nodup_nil, fun port => ?_, fun id sd hsd => ?_,
    fun id sd hsd => ?_, isEphemeral_iff.2 (by decide : 1024 ≤ 1024 ∧ 1024 < 5000)⟩
  · constructor
    · intro hmem
      cases hmem
    · rintro ⟨sd, hsd, -⟩
      cases hsd
  · intro hnil
    cases hnil
  · cases hsd
  · cases hsd

/-! ### Sample runs -/

instance (u : State) : (command : Command) → Decidable (u.Admissible command)
  | .bind sockId _ localAddr localPort => inferInstanceAs (Decidable (localPort ≠ -1 →
      (∀ sd ∈ u.socketsByIdMap sockId, sd.localPort ≠ localPort →
        u.socketsAt sd.localPort ≠ [sockId]) ∧
      (localAddr.isUnspecified = true → ∀ id ∈ u.socketsAt localPort, id ≠ sockId →
        ∀ other ∈ u.socketsByIdMap id, other.localAddr.isUnspecified = false →
          (u.socketsByIdMap sockId).any SockDesc.reuseAddr = true ∧ other.reuseAddr = true)))
  | .setOption sockId _ (.reuseAddress false) =>
    inferInstanceAs (Decidable (∀ sd ∈ u.socketsByIdMap sockId,
      ∀ id ∈ u.socketsAt sd.localPort, id ≠ sockId → ∀ other ∈ u.socketsByIdMap id,
        sd.localAddr.overlaps other.localAddr = false))
  | .setOption _ _ (.reuseAddress true) | .setOption _ _ (.timeToLive _)
  | .setOption _ _ (.typeOfService _) | .setOption _ _ (.broadcast _)
  | .setOption _ _ (.multicastInterface _) | .setOption _ _ (.multicastLoop _)
  | .setOption _ _ (.joinMulticastGroups ..) | .setOption _ _ (.leaveMulticastGroups _)
  | .connect .. | .send .. | .close _ => isTrue trivial

/-- Two sockets with ephemeral ports, one of which is closed, and one with a port of its own. -/
def sampleCommands : List Command :=
  [.connect 1 0 (.ipv4 0x0A000001) 80, .bind 2 0 .unspecified 53, .bind 3 0 (.ipv4 0x0A000002) (-1),
    .close 1]

theorem sockets_run_sample : ∃ u, Run process Admissible {} sampleCommands u ∧
    (u.socketsByPortMap 53, u.socketsByPortMap 1025, u.socketsByPortMap 1026) =
      (some [2], none, some [3]) ∧ u.Consistent := by
  obtain ⟨u, hrun, hports⟩ := exists_run_of_exec
    (f := fun u : State =>
      (u.socketsByPortMap 53, u.socketsByPortMap 1025, u.socketsByPortMap 1026))
    (by decide +kernel : (exec process Admissible {} sampleCommands).map (fun u : State =>
      (u.socketsByPortMap 53, u.socketsByPortMap 1025, u.socketsByPortMap 1026)) =
        some (some [2], none, some [3]))
  exact ⟨u, hrun, hports, sockets_run hrun⟩

/-- A socket with an ephemeral port is bound to another port: the list of the ephemeral port is
empty, but stays in the map. -/
theorem not_sockets_run : ¬∀ (interfaceIds : List ℤ) (commands : List Command) (u : State),
    Run process (fun _ _ => True) { interfaceIds := interfaceIds } commands u → u.Consistent := by
  intro h
  obtain ⟨u, hrun, hport⟩ := exists_run_of_exec
    (f := fun u : State => u.socketsByPortMap 1025)
    (by decide +kernel : (exec process (fun _ _ => True) {}
      [.setOption 1 0 (.broadcast true), .bind 1 0 .unspecified 80]).map
        (fun u : State => u.socketsByPortMap 1025) = some (some []))
  exact (h [] _ u hrun).nonempty 1025 hport

end State

end UDP

end Hiwis
