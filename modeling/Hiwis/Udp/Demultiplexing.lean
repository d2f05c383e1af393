import Hiwis.Udp.SocketTables

/-!
# The socket of a packet

`UDP::findSocketForUnicastPacket` trusts a flag of each socket that says that only its local port
is set, and does not look at its addresses then.

* `UDP.State.findSocketForUnicastPacket_spec` : what is found while the flags are right;
* `UDP.State.demultiplexes_run` : the flags are right after every run in which no socket that was
  created by another command than `bind`, and is not connected, is bound to an address.
-/

namespace Hiwis

open List

namespace UDP

/-- What happens to the module. -/
inductive Event
  | command (command : Command)
  /-- The node is shut down or crashes. -/
  | clearAllSockets

namespace State

variable {u u' : State} {sd old : SockDesc} {localAddr remoteAddr : IPvXAddress}
  {sockId gateIndex localPort remotePort : ℤ} {l : List SockDesc}

/-! ### Finding a socket -/

/-- The socket matches the packet. -/
def matchesUnicast (localAddr remoteAddr : IPvXAddress) (remotePort : ℤ) (sd : SockDesc) : Bool :=
  sd.onlyLocalPortIsSet ||
    ((sd.remotePort == -1 || sd.remotePort == remotePort) &&
      (sd.localAddr.isUnspecified || sd.localAddr == localAddr) &&
      (sd.remoteAddr.isUnspecified || sd.remoteAddr == remoteAddr))

/-- The loop of `findSocketForUnicastPacket`, over the reversed list. -/
def selectSocket (isMatch : SockDesc → Bool) (socketBoundToAnyAddress : Option SockDesc) :
    List SockDesc → Option SockDesc
  | [] => socketBoundToAnyAddress
  | sd :: list =>
    if isMatch sd then
      if sd.localAddr.isUnspecified then selectSocket isMatch (some sd) list else some sd
    else selectSocket isMatch socketBoundToAnyAddress list

def findSocketForUnicastPacket (u : State) (localAddr : IPvXAddress) (localPort : ℤ)
    (remoteAddr : IPvXAddress) (remotePort : ℤ) : Option SockDesc :=
  selectSocket (matchesUnicast localAddr remoteAddr remotePort) none
    ((u.socketsAt localPort).filterMap u.socketsByIdMap).reverse

def clearAllSockets (u : State) : State :=
  { u with socketsByIdMap := fun _ => none, socketsByPortMap := fun _ => none }

def handle (u : State) : Event → Except UDPFault State
  | .command command => u.process command
  | .clearAllSockets => .ok u.clearAllSockets

/-! ### What is to be found -/

/-- The socket is open. -/
def IsOpen (u : State) (sd : SockDesc) : Prop := sd ∈ u.socketsByIdMap sd.sockId

/-- The packet is for the socket: the port is its own, the local address is its own if it has one,
and the packet comes from its peer if it is connected. -/
structure Accepts (sd : SockDesc) (localAddr : IPvXAddress) (localPort : ℤ)
    (remoteAddr : IPvXAddress) (remotePort : ℤ) : Prop where
  localPort : sd.localPort = localPort
  localAddr : sd.localAddr.isUnspecified = true ∨ sd.localAddr = localAddr
  remote : sd.remotePort ≠ -1 → sd.remoteAddr = remoteAddr ∧ sd.remotePort = remotePort

/-- The right socket for the packet, or none if there is none. -/
def IsReceiver (u : State) (localAddr : IPvXAddress) (localPort : ℤ) (remoteAddr : IPvXAddress)
    (remotePort : ℤ) : Option SockDesc → Prop
  | some sd => u.IsOpen sd ∧ Accepts sd localAddr localPort remoteAddr remotePort ∧
      ((∃ other, u.IsOpen other ∧ Accepts other localAddr localPort remoteAddr remotePort ∧
        other.localAddr = localAddr) → sd.localAddr = localAddr)
  | none => ∀ sd, u.IsOpen sd → ¬Accepts sd localAddr localPort remoteAddr remotePort

/-- Every packet gets to the right socket. -/
def Demultiplexes (u : State) : Prop :=
  ∀ localAddr localPort remoteAddr remotePort, u.IsReceiver localAddr localPort remoteAddr
    remotePort (u.findSocketForUnicastPacket localAddr localPort remoteAddr remotePort)

/-- The flag is set only if it is right, and a socket that has a remote port has a remote
address. -/
structure Sound (sd : SockDesc) : Prop where
  flag : sd.onlyLocalPortIsSet = true → sd.localAddr.isUnspecified = true ∧ sd.remotePort = -1
  remote : sd.remotePort = -1 ↔ sd.remoteAddr.isUnspecified = true

/-! ### The search -/

variable {isMatch : SockDesc → Bool} {any : Option SockDesc}

/-- A socket that is found is one that matches, and it has an address if one of these has. -/
theorem selectSocket_eq_some (h : selectSocket isMatch any l = some sd) :
    ((sd ∈ l ∧ isMatch sd = true) ∨ any = some sd) ∧
      (sd.localAddr.isUnspecified = true → ∀ other ∈ l, isMatch other = true →
        other.localAddr.isUnspecified = true) := by
  induction l generalizing any with
  | nil => exact ⟨.inr h, fun _ other hother => (not_mem_nil hother).elim⟩
  | cons head l ih =>
    rw [selectSocket] at h
    split_ifs at h with hmatch hany
    · obtain ⟨hfound, hrest⟩ := ih h
      refine ⟨.inl ?_, fun hsd other hother hother' => ?_⟩
      · obtain ⟨hmem, hsd⟩ | hhead := hfound
        · exact ⟨mem_cons_of_mem _ hmem, hsd⟩
        · cases hhead
          exact ⟨mem_cons_self, hmatch⟩
      · obtain rfl | hother := mem_cons.1 hother
        · exact hany
        · exact hrest hsd other hother hother'
    · cases h
      exact ⟨.inl ⟨mem_cons_self, hmatch⟩, fun hsd => absurd hsd hany⟩
    · obtain ⟨hfound, hrest⟩ := ih h
      refine ⟨hfound.imp_left fun ⟨hmem, hsd⟩ => ⟨mem_cons_of_mem _ hmem, hsd⟩,
        fun hsd other hother hother' => ?_⟩
      obtain rfl | hother := mem_cons.1 hother
      · exact absurd hother' hmatch
      · exact hrest hsd other hother hother'

/-- Nothing is found only if nothing matches. -/
theorem selectSocket_eq_none (h : selectSocket isMatch any l = none) :
    any = none ∧ ∀ sd ∈ l, isMatch sd = false := by
  induction l generalizing any with
  | nil => exact ⟨h, fun sd hsd => (not_mem_nil hsd).elim⟩
  | cons head l ih =>
    rw [selectSocket] at h
    split_ifs at h with hmatch hany
    · cases (ih h).1
    · obtain ⟨hnone, hrest⟩ := ih h
      refine ⟨hnone, fun sd hsd => ?_⟩
      obtain rfl | hsd := mem_cons.1 hsd
      · exact Bool.eq_false_iff.2 hmatch
      · exact hrest sd hsd

theorem isUnspecified_iff {addr : IPvXAddress} : addr.isUnspecified = true ↔ addr = .unspecified :=
  beq_iff_eq

/-- A socket with a right flag matches the packets that are for it. -/
theorem Sound.matchesUnicast_iff (h : Sound sd) (hport : sd.localPort = localPort) :
    matchesUnicast localAddr remoteAddr remotePort sd = true ↔
      Accepts sd localAddr localPort remoteAddr remotePort := by
  simp only [matchesUnicast, Bool.or_eq_true, Bool.and_eq_true, beq_iff_eq]
  constructor
  · rintro (hflag | ⟨⟨hremote, hlocal⟩, haddr⟩)
    · obtain ⟨hlocal, hremote⟩ := h.flag hflag
      exact ⟨hport, .inl hlocal, fun hconnected => absurd hremote hconnected⟩
    · refine ⟨hport, hlocal, fun hconnected => ⟨?_, hremote.resolve_left hconnected⟩⟩
      exact haddr.resolve_left fun hnone => hconnected (h.remote.2 hnone)
  · rintro ⟨-, hlocal, hpeer⟩
    by_cases hconnected : sd.remotePort = -1
    · exact .inr ⟨⟨.inl hconnected, hlocal⟩, .inl (h.remote.1 hconnected)⟩
    · obtain ⟨haddr, hremote⟩ := hpeer hconnected
      exact .inr ⟨⟨.inr hremote, hlocal⟩, .inr haddr⟩

/-- The maps of sockets agree, and all flags are right. -/
structure Tracked (u : State) : Prop where
  indexed : Indexed u
  sound : ∀ id, ∀ sd ∈ u.socketsByIdMap id, Sound sd

/-- What `findSocketForUnicastPacket` finds while the flags are right. -/
theorem findSocketForUnicastPacket_spec (h : Tracked u) (localAddr : IPvXAddress) (localPort : ℤ)
    (remoteAddr : IPvXAddress) (remotePort : ℤ) :
    u.IsReceiver localAddr localPort remoteAddr remotePort
      (u.findSocketForUnicastPacket localAddr localPort remoteAddr remotePort) := by
  have hmem : ∀ sd, sd ∈ ((u.socketsAt localPort).filterMap u.socketsByIdMap).reverse ↔
      u.IsOpen sd ∧ sd.localPort = localPort := by
    intro sd
    rw [mem_reverse]
    exact h.indexed.mem_sockets_iff
  -- The sockets of the list that match are those that the packet is for.
  have hmatch : ∀ sd, u.IsOpen sd → Accepts sd localAddr localPort remoteAddr remotePort →
      sd ∈ ((u.socketsAt localPort).filterMap u.socketsByIdMap).reverse ∧
        matchesUnicast localAddr remoteAddr remotePort sd = true := by
    intro sd hsd haccepts
    refine ⟨(hmem sd).2 ⟨hsd, haccepts.localPort⟩, ?_⟩
    exact ((h.sound _ sd hsd).matchesUnicast_iff haccepts.localPort).2 haccepts
  cases hfind : u.findSocketForUnicastPacket localAddr localPort remoteAddr remotePort with
  | none =>
    obtain ⟨-, hnone⟩ := selectSocket_eq_none hfind
    intro sd hsd haccepts
    obtain ⟨hlist, hmatches⟩ := hmatch sd hsd haccepts
    rw [hnone sd hlist] at hmatches
    cases hmatches
  | some sd =>
    obtain ⟨⟨hlist, hmatches⟩ | hany, hspecific⟩ := selectSocket_eq_some hfind
    · obtain ⟨hsd, hport⟩ := (hmem sd).1 hlist
      have haccepts := ((h.sound _ sd hsd).matchesUnicast_iff hport).1 hmatches
      refine ⟨hsd, haccepts, ?_⟩
      rintro ⟨other, hother, hother', haddr⟩
      obtain hunspecified | hlocal := haccepts.localAddr
      · obtain ⟨holist, homatches⟩ := hmatch other hother hother'
        have hnone := hspecific hunspecified other holist homatches
        rw [isUnspecified_iff] at hunspecified hnone
        rw [hunspecified, ← haddr, hnone]
      · exact hlocal
    · cases hany

/-! ### Commands -/

/-- A socket that exists, and of which only the local port is set, is not bound to an address. -/
def KeepsFlag (u : State) : Event → Prop
  | .command (.bind sockId _ localAddr _) => ∀ sd ∈ u.socketsByIdMap sockId,
      sd.onlyLocalPortIsSet = true → localAddr.isUnspecified = true
  | _ => True

/-- The socket that `createSocket` creates. -/
def newSocket (sockId gateIndex : ℤ) (localAddr : IPvXAddress) (port : ℤ) : SockDesc where
  sockId := sockId
  appGateIndex := gateIndex
  localAddr := localAddr
  localPort := port
  onlyLocalPortIsSet := localAddr.isUnspecified

theorem sound_newSocket (port : ℤ) : Sound (newSocket sockId gateIndex localAddr port) :=
  ⟨fun hflag => ⟨hflag, rfl⟩, iff_of_true rfl rfl⟩

theorem createSocket_eq (hok : u.createSocket sockId gateIndex localAddr localPort = .ok (u', sd)) :
    ∃ last port, sd = newSocket sockId gateIndex localAddr port ∧
      u' = (State.setSocket { u with lastEphemeralPort := last } sd).pushBack port sockId := by
  rw [createSocket] at hok
  cases hchoose : u.choosePort localPort with
  | error fault =>
    rw [hchoose] at hok
    cases hok
  | ok result =>
    obtain ⟨u1, port⟩ := result
    rw [hchoose] at hok
    cases hok
    obtain ⟨last, rfl⟩ : ∃ last, u1 = { u with lastEphemeralPort := last } := by
      rw [choosePort] at hchoose
      split_ifs at hchoose
      · rw [getEphemeralPort] at hchoose
        split at hchoose
        · cases hchoose
          exact ⟨_, rfl⟩
        · cases hchoose
      · cases hchoose
        exact ⟨u.lastEphemeralPort, rfl⟩
    exact ⟨last, port, rfl, rfl⟩

namespace Tracked

variable (h : Tracked u)
include h

theorem sound_setSocket (hsd : Sound sd) :
    ∀ id, ∀ other ∈ (u.setSocket sd).socketsByIdMap id, Sound other := by
  intro id other hother
  obtain ⟨-, rfl⟩ | ⟨-, hother⟩ := mem_socketsByIdMap_setSocket.1 hother
  · exact hsd
  · exact h.sound id other hother

/-- A socket changes, but not its port. -/
theorem replace (hold : u.socketsByIdMap sd.sockId = some old)
    (hport : sd.localPort = old.localPort) (hsd : Sound sd) : Tracked (u.setSocket sd) :=
  ⟨h.indexed.replace hold hport, h.sound_setSocket hsd⟩

theorem add (hnew : u.socketsByIdMap sd.sockId = none) (hsd : Sound sd) :
    Tracked ((u.setSocket sd).pushBack sd.localPort sd.sockId) :=
  ⟨h.indexed.add hnew, h.sound_setSocket hsd⟩

theorem move (hold : u.socketsByIdMap sd.sockId = some old) (hport : old.localPort ≠ sd.localPort)
    (hsd : Sound sd) :
    Tracked (((u.removeFrom old.localPort sd.sockId).setSocket sd).pushBack sd.localPort
      sd.sockId) :=
  ⟨h.indexed.move hold hport, h.sound_setSocket (u := u) hsd⟩

theorem setLast (last : ℕ) : Tracked { u with lastEphemeralPort := last } :=
  ⟨⟨h.indexed.listed, h.indexed.once, h.indexed.keyed⟩, h.sound⟩

theorem createSocket (hnew : u.socketsByIdMap sockId = none)
    (hok : u.createSocket sockId gateIndex localAddr localPort = .ok (u', sd)) :
    Tracked u' ∧ u'.socketsByIdMap sockId = some sd ∧ sd.sockId = sockId ∧ Sound sd := by
  obtain ⟨last, port, rfl, rfl⟩ := createSocket_eq hok
  refine ⟨(h.setLast last).add hnew (sound_newSocket port), ?_, rfl, sound_newSocket port⟩
  simp [pushBack, setSocket, newSocket]

theorem getOrCreateSocket (hok : u.getOrCreateSocket sockId gateIndex = .ok (u', sd)) :
    Tracked u' ∧ u'.socketsByIdMap sockId = some sd ∧ sd.sockId = sockId ∧ Sound sd := by
  rw [State.getOrCreateSocket] at hok
  split_ifs at hok
  split at hok
  · rename_i sd' hsd
    cases hok
    exact ⟨h, hsd, h.indexed.keyed _ _ hsd, h.sound _ _ hsd⟩
  · rename_i hnew
    exact h.createSocket hnew hok

theorem bind (hkeeps : ∀ sd ∈ u.socketsByIdMap sockId,
      sd.onlyLocalPortIsSet = true → localAddr.isUnspecified = true)
    (hok : u.bind sockId gateIndex localAddr localPort = .ok u') : Tracked u' := by
  rw [State.bind] at hok
  split_ifs at hok
  cases hold : u.socketsByIdMap sockId with
  | some sd =>
    rw [hold] at hok
    simp only at hok
    split_ifs at hok
    cases hok
    obtain rfl := h.indexed.keyed _ sd hold
    have hsd := h.sound _ sd hold
    have hsound : ∀ port,
        Sound { sd with isBound := true, localAddr := localAddr, localPort := port } := by
      intro port
      exact ⟨fun hflag => ⟨hkeeps sd hold hflag, (hsd.flag hflag).2⟩, hsd.remote⟩
    rw [State.bindSocket]
    simp only
    split_ifs with hmove
    · exact h.move hold hmove.2 (hsound localPort)
    · exact h.replace hold rfl (hsound sd.localPort)
  | none =>
    rw [hold] at hok
    simp only at hok
    cases hcreate : u.createSocket sockId gateIndex localAddr localPort with
    | error fault =>
      rw [hcreate] at hok
      cases hok
    | ok result =>
      obtain ⟨u1, sd⟩ := result
      rw [hcreate] at hok
      cases hok
      obtain ⟨h1, hsd, rfl, hsound⟩ := h.createSocket hold hcreate
      exact h1.replace hsd rfl ⟨hsound.flag, hsound.remote⟩

theorem connect (hok : u.connect sockId gateIndex remoteAddr remotePort = .ok u') : Tracked u' := by
  rw [State.connect] at hok
  split_ifs at hok with haddr hport
  cases hget : u.getOrCreateSocket sockId gateIndex with
  | error fault =>
    rw [hget] at hok
    cases hok
  | ok result =>
    obtain ⟨u1, sd⟩ := result
    rw [hget] at hok
    cases hok
    obtain ⟨h1, hsd, rfl, -⟩ := h.getOrCreateSocket hget
    refine h1.replace hsd rfl ⟨fun hflag => (Bool.false_ne_true hflag).elim, ?_⟩
    exact iff_of_false (show remotePort ≠ -1 by omega) haddr

end Tracked

/-- What no option changes of what the search looks at. -/
theorem joinMulticastGroups_sound {interfaceIds ids : List ℤ} {addrs : List IPvXAddress}
    {sd' : SockDesc} (hok : joinMulticastGroups interfaceIds sd addrs ids = .ok sd')
    (hsd : Sound sd) : Sound sd' := by
  induction addrs generalizing sd ids with
  | nil =>
    cases hok
    exact hsd
  | cons addr addrs ih =>
    rw [joinMulticastGroups] at hok
    split_ifs at hok
    exact ih hok ⟨hsd.flag, hsd.remote⟩

theorem applyOption_sound {option : SetOption} {sd' : SockDesc}
    (hok : u.applyOption sd option = .ok sd') (hsd : Sound sd) : Sound sd' := by
  cases option with
  | joinMulticastGroups addrs ids => exact joinMulticastGroups_sound hok hsd
  | timeToLive | typeOfService | broadcast | multicastInterface | multicastLoop | reuseAddress
  | leaveMulticastGroups =>
    cases hok
    exact ⟨hsd.flag, hsd.remote⟩

namespace Tracked

theorem setOption (h : Tracked u) {option : SetOption}
    (hok : u.setOption sockId gateIndex option = .ok u') : Tracked u' := by
  rw [State.setOption] at hok
  obtain ⟨⟨u1, sd⟩, hget, hok⟩ := Except.bind_eq_ok.1 hok
  cases happly : u1.applyOption sd option with
  | error fault =>
    simp only [happly] at hok
    cases hok
  | ok sd' =>
    simp only [happly] at hok
    cases hok
    obtain ⟨h1, hsd, rfl, hsound⟩ := h.getOrCreateSocket hget
    obtain ⟨hsame, -⟩ := applyOption_same happly
    exact h1.replace (hsame.sockId ▸ hsd) hsame.localPort (applyOption_sound happly hsound)

theorem send (h : Tracked u) {ctrl : SendCommand} {packet : Packet}
    (hok : u.processPacketFromApp sockId gateIndex ctrl = .ok (u', packet)) : Tracked u' := by
  rw [processPacketFromApp] at hok
  obtain ⟨⟨u1, sd⟩, hget, hok⟩ := Except.bind_eq_ok.1 hok
  cases hsend : sendDown sd ctrl with
  | error fault =>
    simp only [hsend] at hok
    cases hok
  | ok packet =>
    simp only [hsend] at hok
    cases hok
    exact (h.getOrCreateSocket hget).1

theorem close (h : Tracked u) (hok : u.close sockId = .ok u') : Tracked u' := by
  obtain ⟨hindexed, hmap, -⟩ := h.indexed.close hok
  exact ⟨hindexed, fun id sd hsd => h.sound id sd ((hmap id sd).1 hsd).2⟩

theorem empty {u : State} (hid : u.socketsByIdMap = fun _ => none)
    (hport : u.socketsByPortMap = fun _ => none) : Tracked u := by
  have hnone : ∀ id, ∀ sd, sd ∉ u.socketsByIdMap id := by
    intro id sd hsd
    rw [hid] at hsd
    cases hsd
  have hat : ∀ port, u.socketsAt port = [] := fun port => by rw [socketsAt, hport]; rfl
  refine ⟨⟨fun port id => ?_, fun port => ?_, fun id sd hsd => (hnone id sd hsd).elim⟩,
    fun id sd hsd => (hnone id sd hsd).elim⟩
  · rw [hat]
    exact iff_of_false not_mem_nil fun h => h.elim fun sd hsd => hnone id sd hsd.1
  · rw [hat]
    exact nodup_nil

theorem handle (h : Tracked u) {event : Event} (hkeeps : u.KeepsFlag event)
    (hok : u.handle event = .ok u') : Tracked u' := by
  cases event with
  | clearAllSockets =>
    cases hok
    exact empty rfl rfl
  | command command =>
    cases command with
    | bind => exact h.bind hkeeps hok
    | connect => exact h.connect hok
    | setOption => exact h.setOption hok
    | close => exact h.close hok
    | send sockId gateIndex ctrl =>
      rw [State.handle, State.process] at hok
      cases hsend : u.processPacketFromApp sockId gateIndex ctrl with
      | error fault =>
        rw [hsend] at hok
        cases hok
      | ok result =>
        rw [hsend] at hok
        cases hok
        exact h.send hsend

end Tracked

/-! ### Runs -/

/-- **Every unicast packet and every ICMP error gets to the right socket** after all events of which
none binds a socket to an address that was created by another command and is not connected. -/
theorem demultiplexes_run {interfaceIds : List ℤ} {events : List Event} {u : State}
    (hrun : Trace.Run handle KeepsFlag { interfaceIds := interfaceIds } events u) :
    u.Demultiplexes := by
  have htracked : Tracked u := by
    refine hrun.invariant (I := Tracked) ?_ (Tracked.empty rfl rfl)
    intro u event u' h hkeeps hok
    exact h.handle hkeeps hok
  intro localAddr localPort remoteAddr remotePort
  exact findSocketForUnicastPacket_spec htracked localAddr localPort remoteAddr remotePort

instance (u : State) : (event : Event) → Decidable (u.KeepsFlag event)
  | .command (.bind sockId _ localAddr _) => inferInstanceAs (Decidable
      (∀ sd ∈ u.socketsByIdMap sockId, sd.onlyLocalPortIsSet = true →
        localAddr.isUnspecified = true))
  | .command (.connect ..) | .command (.setOption ..) | .command (.send ..) | .command (.close _)
  | .clearAllSockets => isTrue trivial

/-- Two sockets with addresses, one of which is connected before it is bound. -/
def sampleEvents : List Event :=
  [.command (.bind 1 0 (.ipv4 0x0A000001) 53), .command (.setOption 2 0 (.reuseAddress true)),
    .command (.connect 2 0 (.ipv4 0x0A000009) 80), .command (.bind 2 0 (.ipv4 0x0A000002) 54)]

theorem demultiplexes_run_sample : ∃ u, Trace.Run handle KeepsFlag {} sampleEvents u ∧
    (u.findSocketForUnicastPacket (.ipv4 0x0A000002) 54 (.ipv4 0x0A000009) 80).map
      SockDesc.sockId = some 2 ∧ u.Demultiplexes := by
  obtain ⟨u, hrun, hfound⟩ := Trace.exists_run_of_exec
    (f := fun u : State =>
      (u.findSocketForUnicastPacket (.ipv4 0x0A000002) 54 (.ipv4 0x0A000009) 80).map
        SockDesc.sockId)
    (by decide +kernel : (Trace.exec handle KeepsFlag {} sampleEvents).map (fun u : State =>
      (u.findSocketForUnicastPacket (.ipv4 0x0A000002) 54 (.ipv4 0x0A000009) 80).map
        SockDesc.sockId) = some (some 2))
  exact ⟨u, hrun, hfound, demultiplexes_run hrun⟩

/-- An application sets an option and binds its socket to 10.0.0.1 then: the socket gets the packets
for 10.0.0.2. -/
theorem not_demultiplexes_run : ¬∀ (interfaceIds : List ℤ) (events : List Event) (u : State),
    Trace.Run handle (fun _ _ => True) { interfaceIds := interfaceIds } events u →
      u.Demultiplexes := by
  intro h
  obtain ⟨u, hrun, hfound⟩ := Trace.exists_run_of_exec
    (f := fun u : State =>
      (u.findSocketForUnicastPacket (.ipv4 0x0A000002) 5000 (.ipv4 0x0A000009) 80).map
        SockDesc.localAddr)
    (by decide +kernel : (Trace.exec handle (fun _ _ => True) {}
      [.command (.setOption 1 0 (.broadcast true)),
        .command (.bind 1 0 (.ipv4 0x0A000001) 5000)]).map (fun u : State =>
      (u.findSocketForUnicastPacket (.ipv4 0x0A000002) 5000 (.ipv4 0x0A000009) 80).map
        SockDesc.localAddr) = some (some (.ipv4 0x0A000001)))
  obtain ⟨sd, hsd, haddr⟩ := Option.map_eq_some_iff.1 hfound
  have hreceiver := h [] _ u hrun (.ipv4 0x0A000002) 5000 (.ipv4 0x0A000009) 80
  rw [hsd] at hreceiver
  obtain ⟨-, haccepts, -⟩ := hreceiver
  have hlocal := haccepts.localAddr
  rw [haddr] at hlocal
  revert hlocal
  decide

end State

end UDP

end Hiwis
