import Hiwis.Lib.Index
import Hiwis.Tcp.TCP

/-!
# The tables of TCP stay consistent

* `TCP.Tables.run_consistent` : in every state that commands, segments, timers and operations lead
  to, the two maps are indexes of the connections and the ports in use are those of the
  connections; and a segment is refused with "Address already in use" exactly when it is a SYN for
  a connection that came back to LISTEN while another one listens on its local socket;
* `TCP.Tables.not_never_in_use` : such a segment can arrive, after a SYN and a reset.
-/

namespace Hiwis

open Except Store Trace Finmap

namespace TCP

/-- The socket pair of a connection that is bound to one. -/
def boundPair (c : TCPConnection) : Option SockPair :=
  if c.localPort = -1 then none else some c.sockPair

namespace Tables

/-- Both maps lead to the connections and nowhere else, and the ports in use are those that the
connections have reserved. -/
structure Consistent (s : Tables) : Prop where
  tcpAppConnMap : Indexes (fun c => some c.appConnKey) s.tcpAppConnMap s.conns
  tcpConnMap : Indexes boundPair s.tcpConnMap s.conns
  usedEphemeralPorts : s.usedEphemeralPorts = tally (fun c => ephemeralPort c.localPort) s.conns

/-- What the callers of the module and the simulation kernel promise: ports are 16-bit numbers or
-1, `getUniqueNumber` returns a number that no connection has, and the timers of a connection are
cancelled when it is deleted. -/
def Legal (s : Tables) : TCPEvent → Prop
  | .appCommand _ _ (.openActive _ _ localPort _) => -1 ≤ localPort ∧ localPort < 2 ^ 16
  | .appCommand _ _ (.openPassive _ localPort _) => -1 ≤ localPort ∧ localPort < 2 ^ 16
  | .appCommand _ _ _ => True
  | .segment _ _ _ _ uniqueNumber => ∀ key ∈ s.tcpAppConnMap.keys, key.connId ≠ uniqueNumber
  | .timer conn _ => conn ∈ s.conns
  | .start => True
  | .shutdown => True

instance (s : Tables) (event : TCPEvent) : Decidable (s.Legal event) :=
  match event with
  | .appCommand _ _ (.openActive _ _ localPort _) =>
    inferInstanceAs (Decidable (-1 ≤ localPort ∧ localPort < 2 ^ 16))
  | .appCommand _ _ (.openPassive _ localPort _) =>
    inferInstanceAs (Decidable (-1 ≤ localPort ∧ localPort < 2 ^ 16))
  | .appCommand _ _ .send => inferInstanceAs (Decidable True)
  | .appCommand _ _ (.close _) => inferInstanceAs (Decidable True)
  | .appCommand _ _ .abort => inferInstanceAs (Decidable True)
  | .appCommand _ _ .status => inferInstanceAs (Decidable True)
  | .appCommand _ _ .queueBytesLimit => inferInstanceAs (Decidable True)
  | .segment _ _ _ _ uniqueNumber =>
    inferInstanceAs (Decidable (∀ key ∈ s.tcpAppConnMap.keys, key.connId ≠ uniqueNumber))
  | .timer conn _ => inferInstanceAs (Decidable (conn ∈ s.conns))
  | .start => inferInstanceAs (Decidable True)
  | .shutdown => inferInstanceAs (Decidable True)

/-- The segment is a SYN for a forking connection that listens with a remote socket, and another
connection listens on the local socket. -/
def Clashes (s : Tables) (tcpseg : SegmentHeader) (srcAddr destAddr : IPvXAddress) : Prop :=
  (tcpseg.rstBit = false ∧ tcpseg.ackBit = false ∧ tcpseg.synBit = true) ∧
    ∃ conn c, s.findConnForSegment tcpseg srcAddr destAddr = some conn ∧
      s.conns.lookup conn = some c ∧ c.fsm = .listen ∧ c.fork = true ∧
      c.sockPair ≠ c.listenPair ∧ c.listenPair ∈ s.tcpConnMap

/-! ### Single operations -/

section Operations

variable {s s' : Tables} {conn : ConnPtr} {c c' : TCPConnection}

theorem deref_eq (hc : s.conns.lookup conn = some c) : s.deref conn = .ok c := by
  rw [deref, hc]

@[simp] theorem lookup_setConn (s : Tables) (conn : ConnPtr) (c : TCPConnection) :
    (s.setConn conn c).conns.lookup conn = some c :=
  lookup_insert s.conns

variable {key : SockPair}

theorem boundPair_eq_some_iff :
    boundPair c = some key ↔ c.localPort ≠ -1 ∧ c.sockPair = key := by
  rw [boundPair]
  split_ifs with hport <;> simp [hport]

theorem boundPair_congr (h : c'.sockPair = c.sockPair) : boundPair c' = boundPair c := by
  have hport : c'.localPort = c.localPort := congrArg SockPair.localPort h
  rw [boundPair, boundPair, hport, h]

namespace Consistent

theorem initial : Consistent {} := ⟨.empty _, .empty _, (tally_empty _).symm⟩

variable (h : Consistent s)
include h

/-- A connection changes, but not its identity and its socket pair. -/
theorem setConn (hc : s.conns.lookup conn = some c) (happ : c'.appConnKey = c.appConnKey)
    (hsock : c'.sockPair = c.sockPair) :
    Consistent (s.setConn conn c') := by
  have hport : c'.localPort = c.localPort := congrArg SockPair.localPort hsock
  refine ⟨h.tcpAppConnMap.same hc (congrArg some happ),
    h.tcpConnMap.same hc (boundPair_congr hsock), ?_⟩
  change s.usedEphemeralPorts = _
  rw [h.usedEphemeralPorts, ← tally_replace hc (congrArg ephemeralPort hport)]
  rfl

/-- An unbound connection gets a socket pair that is free. -/
theorem bind (hc : s.conns.lookup conn = some c) (hunbound : c.localPort = -1)
    (happ : c'.appConnKey = c.appConnKey) (hbound : c'.localPort ≠ -1)
    (hfree : s.tcpConnMap.lookup c'.sockPair = none) :
    Consistent { s.setConn conn c' with
      tcpConnMap := s.tcpConnMap.insert c'.sockPair conn
      usedEphemeralPorts := (ephemeralPort c'.localPort).toList + s.usedEphemeralPorts } := by
  refine ⟨h.tcpAppConnMap.same hc (congrArg some happ), h.tcpConnMap.bind (fun v hv => ?_)
    (boundPair_eq_some_iff.2 ⟨hbound, rfl⟩) hfree, ?_⟩
  · rw [hc] at hv
    cases hv
    rw [boundPair, if_pos hunbound]
  · have hnone : ephemeralPort c.localPort = none := by
      rw [hunbound]
      rfl
    change (ephemeralPort c'.localPort).toList + s.usedEphemeralPorts = _
    rw [h.usedEphemeralPorts]
    exact (tally_insert_of_none (f := fun c => ephemeralPort c.localPort) hc hnone).symm

/-- A bound connection gets another socket pair, which is free or its own. -/
theorem rebind (hc : s.conns.lookup conn = some c) (hbound : c.localPort ≠ -1)
    (happ : c'.appConnKey = c.appConnKey) (hport : c'.localPort = c.localPort)
    (hfree : c'.sockPair = c.sockPair ∨ s.tcpConnMap.lookup c'.sockPair = none) :
    Consistent { s.setConn conn c' with
      tcpConnMap := (s.tcpConnMap.erase c.sockPair).insert c'.sockPair conn } := by
  refine ⟨h.tcpAppConnMap.same hc (congrArg some happ),
    h.tcpConnMap.rebind hc (boundPair_eq_some_iff.2 ⟨hbound, rfl⟩)
      (boundPair_eq_some_iff.2 ⟨fun heq => hbound (hport ▸ heq), rfl⟩) hfree, ?_⟩
  change s.usedEphemeralPorts = _
  rw [h.usedEphemeralPorts]
  exact (tally_replace hc (congrArg ephemeralPort hport)).symm

/-- A connection without a socket pair is created for an application. -/
theorem create (hconn : conn ∉ s.conns) (hport : c.localPort = -1)
    (hfree : s.tcpAppConnMap.lookup c.appConnKey = none) :
    Consistent { s with
      conns := s.conns.insert conn c
      tcpAppConnMap := s.tcpAppConnMap.insert c.appConnKey conn } := by
  refine ⟨h.tcpAppConnMap.bind (fun v hv => ?_) rfl hfree,
    h.tcpConnMap.insert_none hconn (if_pos hport), ?_⟩
  · rw [lookup_eq_none.2 hconn] at hv
    cases hv
  · have hnone : ephemeralPort c.localPort = none := by
      rw [hport]
      rfl
    change s.usedEphemeralPorts = _
    rw [h.usedEphemeralPorts, tally_insert hconn, hnone]
    exact (zero_add _).symm

/-- The key of a bound connection has a local port. -/
theorem localPort_ne (hkey : s.tcpConnMap.lookup key = some conn) :
    key.localPort ≠ -1 := by
  obtain ⟨c, -, hpair⟩ := (h.tcpConnMap key conn).1 hkey
  obtain ⟨hbound, rfl⟩ := boundPair_eq_some_iff.1 hpair
  exact hbound

theorem mem_usedEphemeralPorts {port : BitVec 16} (hport : port ∈ s.usedEphemeralPorts) :
    ephemeralPortrangeStart ≤ port.toNat ∧ port.toNat < ephemeralPortrangeEnd := by
  rw [h.usedEphemeralPorts] at hport
  obtain ⟨conn, c, -, hsome⟩ := exists_of_mem_tally hport
  rw [ephemeralPort] at hsome
  split_ifs at hsome with hrange
  cases hsome
  obtain ⟨hstart, hend⟩ := hrange
  rw [BitVec.toNat_ofInt]
  simp only [ephemeralPortrangeStart, ephemeralPortrangeEnd] at hstart hend ⊢
  omega

/-- The connection is removed, and with it what it has reserved. -/
theorem removeConnection (hc : s.conns.lookup conn = some c)
    (hrange : -1 ≤ c.localPort ∧ c.localPort < 2 ^ 16) :
    Consistent { s with
      conns := s.conns.erase conn
      tcpAppConnMap := s.tcpAppConnMap.erase c.appConnKey
      tcpConnMap := s.tcpConnMap.erase c.sockPair
      usedEphemeralPorts := s.usedEphemeralPorts.erase (BitVec.ofInt 16 c.localPort) } := by
  refine ⟨h.tcpAppConnMap.erase hc (fun k hk => (Option.some.inj hk).symm) (fun hk => by cases hk),
    h.tcpConnMap.erase hc (fun k hk => (boundPair_eq_some_iff.1 hk).2.symm) fun hk => ?_, ?_⟩
  · rw [Option.eq_none_iff_forall_ne_some]
    intro p hp
    -- an unbound connection has no local port, the keys of the map all have one
    refine h.localPort_ne hp ?_
    rw [boundPair] at hk
    split_ifs at hk with hport
    exact hport
  · change s.usedEphemeralPorts.erase _ = _
    have htally := tally_erase (f := fun c => ephemeralPort c.localPort) hc
    cases hport : ephemeralPort c.localPort with
    | some port =>
      rw [ephemeralPort] at hport
      split_ifs at hport with hephemeral
      cases hport
      rw [h.usedEphemeralPorts, htally]
      simp only [ephemeralPort, if_pos hephemeral]
      exact Multiset.erase_cons_head _ _
    | none =>
      simp only [hport] at htally
      have hnot : BitVec.ofInt 16 c.localPort ∉ s.usedEphemeralPorts := by
        intro hmem
        have hlt := h.mem_usedEphemeralPorts hmem
        rw [ephemeralPort] at hport
        split_ifs at hport with hephemeral
        rw [BitVec.toNat_ofInt] at hlt
        simp only [ephemeralPortrangeStart, ephemeralPortrangeEnd] at hlt hephemeral
        omega
      rw [Multiset.erase_of_notMem hnot, h.usedEphemeralPorts, htally]
      exact zero_add _

/-- A connection gets another socket pair and another identity, and a new one takes its place. -/
theorem fork (hc : s.conns.lookup conn = some c) (hbound : c.localPort ≠ -1) {clone : ConnPtr}
    (c' n : TCPConnection) (hclone : clone ∉ s.conns) (hport : c'.localPort = c.localPort)
    (hnport : n.localPort = c.localPort) (happ : n.appConnKey = c.appConnKey)
    (hnew : s.tcpAppConnMap.lookup c'.appConnKey = none)
    (hfree : c'.sockPair = c.sockPair ∨ s.tcpConnMap.lookup c'.sockPair = none)
    (hne : n.sockPair ≠ c'.sockPair)
    (hnfree : n.sockPair = c.sockPair ∨ s.tcpConnMap.lookup n.sockPair = none) :
    Consistent { s with
      conns := (s.conns.insert conn c').insert clone n
      tcpAppConnMap := ((s.tcpAppConnMap.erase c.appConnKey).insert c'.appConnKey conn).insert
        n.appConnKey clone
      tcpConnMap := ((s.tcpConnMap.erase c.sockPair).insert c'.sockPair conn).insert n.sockPair
        clone
      usedEphemeralPorts := (ephemeralPort n.localPort).toList + s.usedEphemeralPorts } := by
  have hneq : clone ≠ conn := by
    rintro rfl
    exact hclone (mem_of_lookup_eq_some hc)
  have hclone' : clone ∉ s.conns.insert conn c' := by
    rw [mem_insert, not_or]
    exact ⟨hneq, hclone⟩
  have hnone : ∀ {K : Type} (key : TCPConnection → Option K) (v : TCPConnection),
      (s.conns.insert conn c').lookup clone = some v → key v = none := by
    intro K key v hv
    rw [lookup_eq_none.2 hclone'] at hv
    cases hv
  refine ⟨?_, ?_, ?_⟩
  · refine (h.tcpAppConnMap.rebind hc rfl rfl (.inr hnew)).bind (hnone _) rfl ?_
    have hkey : c.appConnKey ≠ c'.appConnKey := by
      intro heq
      rw [← heq, h.tcpAppConnMap.lookup hc rfl] at hnew
      cases hnew
    rw [happ, lookup_insert_of_ne _ hkey, lookup_erase]
  · refine (h.tcpConnMap.rebind hc (boundPair_eq_some_iff.2 ⟨hbound, rfl⟩)
      (boundPair_eq_some_iff.2 ⟨fun heq => hbound (hport ▸ heq), rfl⟩) hfree).bind (hnone _)
      (boundPair_eq_some_iff.2 ⟨fun heq => hbound (hnport ▸ heq), rfl⟩) ?_
    rw [lookup_insert_of_ne _ hne, lookup_erase_eq]
    split_ifs with hpair
    · rfl
    · exact hnfree.resolve_left hpair
  · change (ephemeralPort n.localPort).toList + s.usedEphemeralPorts = _
    rw [h.usedEphemeralPorts, tally_insert hclone', tally_replace hc (congrArg ephemeralPort hport)]

end Consistent

/-! ### The invariant -/

/-- A connection between two events. -/
structure Proper (c : TCPConnection) : Prop where
  init : c.fsm = .init ↔ c.localPort = -1
  range : -1 ≤ c.localPort ∧ c.localPort < 2 ^ 16
  notClosed : c.fsm ≠ .closed

structure Inv (s : Tables) : Prop where
  consistent : Consistent s
  fresh : ∀ p ∈ s.conns, p < s.nextConn
  proper : All Proper s.conns

/-- The event is still to be handled by the state machine of the connection. -/
structure Pending (s : Tables) (conn : ConnPtr) (event : TCPEventCode) : Prop where
  consistent : Consistent s
  fresh : ∀ p ∈ s.conns, p < s.nextConn
  others : ∀ p c, p ≠ conn → s.conns.lookup p = some c → Proper c
  conn : ∃ c, s.conns.lookup conn = some c ∧ (-1 ≤ c.localPort ∧ c.localPort < 2 ^ 16) ∧
    c.fsm ≠ .closed ∧ (TCPConnection.nextState c.active c.fsm event = .init ↔ c.localPort = -1)

theorem Inv.initial : Inv {} :=
  ⟨.initial, fun p hp => absurd hp notMem_empty, fun p c hc => by
    rw [lookup_empty] at hc
    cases hc⟩

theorem Inv.notMem_nextConn (h : Inv s) : s.nextConn ∉ s.conns :=
  fun hmem => lt_irrefl _ (h.fresh _ hmem)

/-- A connection changes, but not in what the tables depend on. -/
theorem Inv.setConn (h : Inv s) (hc : s.conns.lookup conn = some c)
    (happ : c'.appConnKey = c.appConnKey) (hsock : c'.sockPair = c.sockPair)
    (hfsm : c'.fsm = c.fsm) : Inv (s.setConn conn c') := by
  have hproper := h.proper conn c hc
  have hport : c'.localPort = c.localPort := congrArg SockPair.localPort hsock
  refine ⟨h.consistent.setConn hc happ hsock, fun p hp => ?_, h.proper.insert ⟨?_, ?_, ?_⟩⟩
  · obtain rfl | hp := mem_insert.1 hp
    · exact h.fresh _ (mem_of_lookup_eq_some hc)
    · exact h.fresh _ hp
  · rw [hfsm, hport]
    exact hproper.init
  · rw [hport]
    exact hproper.range
  · rw [hfsm]
    exact hproper.notClosed

theorem Inv.setLastEphemeralPort (h : Inv s) (port : BitVec 16) :
    Inv { s with lastEphemeralPort := port } :=
  ⟨⟨h.consistent.tcpAppConnMap, h.consistent.tcpConnMap, h.consistent.usedEphemeralPorts⟩, h.fresh,
    h.proper⟩

variable {event : TCPEventCode}

theorem Inv.pending_self (h : Inv s) (hc : s.conns.lookup conn = some c)
    (hactive : event ≠ .openActive) (hpassive : event ≠ .openPassive) : Pending s conn event := by
  have hproper := h.proper conn c hc
  refine ⟨h.consistent, h.fresh, fun p d _ hd => h.proper p d hd, c, hc, hproper.range,
    hproper.notClosed, ?_⟩
  rw [TCPConnection.nextState_eq_init_iff, hproper.init]
  exact ⟨fun hand => hand.1, fun heq => ⟨heq, hactive, hpassive⟩⟩

/-- The state machine brings the tables back into order. -/
theorem Pending.performStateTransition (h : Pending s conn event) :
    ∃ s', s.performStateTransition conn event = .ok s' ∧ Inv s' := by
  obtain ⟨c, hc, hrange, hclosed, hinit⟩ := h.conn
  have hset : Consistent (s.setConn conn { c with
      fsm := TCPConnection.nextState c.active c.fsm event }) :=
    h.consistent.setConn hc rfl rfl
  rw [Tables.performStateTransition, deref_eq hc, ok_bind, if_neg hclosed]
  simp only
  split_ifs with hst
  · rw [removeConnection, deref_eq (lookup_setConn _ _ _), ok_bind]
    refine ⟨_, rfl, hset.removeConnection (lookup_setConn _ _ _) hrange, fun p hp => ?_,
      fun p d hd => ?_⟩
    · obtain ⟨hne, hp⟩ := mem_erase.1 hp
      exact h.fresh p ((mem_insert.1 hp).resolve_left hne)
    · change ((s.conns.insert conn _).erase conn).lookup p = some d at hd
      rw [lookup_erase_eq] at hd
      split_ifs at hd with hp
      rw [lookup_insert_of_ne _ hp] at hd
      exact h.others p d hp hd
  · refine ⟨_, rfl, hset, fun p hp => ?_, fun p d hd => ?_⟩
    · obtain rfl | hp := mem_insert.1 hp
      · exact h.fresh _ (mem_of_lookup_eq_some hc)
      · exact h.fresh p hp
    · rw [setConn, lookup_insert_eq] at hd
      split_ifs at hd with hp
      · cases hd
        exact ⟨hinit, hrange, hst⟩
      · exact h.others p d hp hd

/-! ### Commands -/

variable {localAddr remoteAddr : IPvXAddress} {localPort remotePort : ℤ}

theorem addSockPair_ok (hc : s.conns.lookup conn = some c)
    (h : s.addSockPair conn localAddr remoteAddr localPort remotePort = .ok s') :
    ∃ c', c' = { c with
        localAddr := localAddr, remoteAddr := remoteAddr
        localPort := localPort, remotePort := remotePort } ∧
      s.tcpConnMap.lookup c'.sockPair = none ∧
      s' = { s.setConn conn c' with
        tcpConnMap := s.tcpConnMap.insert c'.sockPair conn
        usedEphemeralPorts := (ephemeralPort c'.localPort).toList + s.usedEphemeralPorts } := by
  rw [addSockPair, deref_eq hc, ok_bind] at h
  simp only at h
  split_ifs at h with hsome hlisten
  · rw [Option.not_isSome_iff_eq_none] at hsome
    cases h
    exact ⟨_, rfl, hsome, rfl⟩

/-- A connection is opened. -/
theorem Inv.addSockPair (h : Inv s) (hc : s.conns.lookup conn = some c) (hinit : c.fsm = .init)
    (hport : localPort ≠ -1)
    (hrange : -1 ≤ localPort ∧ localPort < 2 ^ 16)
    (hevent : event = .openActive ∨ event = .openPassive)
    (hs' : s.addSockPair conn localAddr remoteAddr localPort remotePort = .ok s') :
    Pending s' conn event := by
  have hunbound : c.localPort = -1 := (h.proper conn c hc).init.1 hinit
  obtain ⟨c', hc', hfree, rfl⟩ := addSockPair_ok hc hs'
  have hport' : c'.localPort = localPort := by rw [hc']
  refine ⟨h.consistent.bind hc hunbound (by rw [hc']; rfl) (hport'.symm ▸ hport) hfree,
    fun p hp => ?_, fun p d hp hd => ?_, c', lookup_setConn s conn c', hport'.symm ▸ hrange, ?_, ?_⟩
  · obtain rfl | hp := mem_insert.1 hp
    · exact h.fresh _ (mem_of_lookup_eq_some hc)
    · exact h.fresh _ hp
  · change (s.conns.insert conn c').lookup p = some d at hd
    rw [lookup_insert_of_ne _ hp] at hd
    exact h.proper p d hd
  · rw [hc']
    exact (h.proper conn c hc).notClosed
  · rw [TCPConnection.nextState_eq_init_iff, hport']
    refine iff_of_false (fun hand => ?_) hport
    exact hevent.elim hand.2.1 hand.2.2

theorem sendSyn_ok (h : s.sendSyn conn = .ok s') : s' = s := by
  obtain ⟨c, -, hc⟩ := bind_eq_ok.1 h
  split_ifs at hc
  cases hc
  rfl

theorem assignLocalPort_ok {localPort port : ℤ} (h : s.assignLocalPort localPort = .ok (s', port)) :
    (∃ last, s' = { s with lastEphemeralPort := last }) ∧
      (localPort ≠ -1 ∧ port = localPort ∨ 0 ≤ port ∧ port < 2 ^ 16) := by
  rw [assignLocalPort] at h
  split_ifs at h with hport
  · obtain ⟨⟨s1, p⟩, hget, hok⟩ := bind_eq_ok.1 h
    obtain ⟨p', -, hok'⟩ := bind_eq_ok.1 hget
    cases hok'
    cases hok
    exact ⟨⟨_, rfl⟩, .inr ⟨Int.natCast_nonneg _, by exact_mod_cast p.isLt⟩⟩
  · cases h
    exact ⟨⟨s.lastEphemeralPort, rfl⟩, .inl ⟨hport, rfl⟩⟩

section

variable (h : Inv s) (hc : s.conns.lookup conn = some c)
include h hc

theorem process_OPEN_ACTIVE_pending (hrange : -1 ≤ localPort ∧ localPort < 2 ^ 16)
    (hs' : s.process_OPEN_ACTIVE conn localAddr remoteAddr localPort remotePort = .ok s') :
    Pending s' conn .openActive := by
  rw [process_OPEN_ACTIVE, deref_eq hc, ok_bind] at hs'
  split_ifs at hs' with hinit hremote
  obtain ⟨⟨s1, port⟩, hassign, hs'⟩ := bind_eq_ok.1 hs'
  obtain ⟨s2, hadd, hsyn⟩ := bind_eq_ok.1 hs'
  obtain rfl := sendSyn_ok hsyn
  obtain ⟨⟨last, rfl⟩, hport⟩ := assignLocalPort_ok hassign
  have hactive : Inv (s.setConn conn { c with active := true }) := h.setConn hc rfl rfl rfl
  have hset := hactive.setLastEphemeralPort last
  refine hset.addSockPair (lookup_setConn _ _ _) (not_not.1 hinit) ?_ ?_ (.inl rfl) hadd
  · obtain ⟨hne, rfl⟩ | ⟨hnonneg, -⟩ := hport
    · exact hne
    · exact fun heq => absurd (heq ▸ hnonneg) (by decide)
  · obtain ⟨-, rfl⟩ | ⟨hnonneg, hlt⟩ := hport
    · exact hrange
    · exact ⟨by omega, hlt⟩

theorem process_OPEN_PASSIVE_pending {localAddr : IPvXAddress} {localPort : ℤ} {fork : Bool}
    (hrange : -1 ≤ localPort ∧ localPort < 2 ^ 16)
    (hs' : s.process_OPEN_PASSIVE conn localAddr localPort fork = .ok s') :
    Pending s' conn .openPassive := by
  rw [process_OPEN_PASSIVE, deref_eq hc, ok_bind] at hs'
  split_ifs at hs' with hinit hport
  have hset : Inv (s.setConn conn { c with active := false, fork := fork }) :=
    h.setConn hc rfl rfl rfl
  exact hset.addSockPair (lookup_setConn _ _ _) (not_not.1 hinit) hport hrange (.inr rfl) hs'

theorem process_SEND_pending (hs' : s.process_SEND conn = .ok s') : Pending s' conn .send := by
  rw [process_SEND, deref_eq hc, ok_bind] at hs'
  split at hs'
  · cases hs'
  · obtain rfl := sendSyn_ok hs'
    have hset : Inv (s.setConn conn { c with active := true }) := h.setConn hc rfl rfl rfl
    exact hset.pending_self (lookup_setConn _ _ _) (by decide) (by decide)
  all_goals
    cases hs' <;> exact h.pending_self hc (by decide) (by decide)

end

theorem process_CLOSE_ok {pending : Bool}
    (h : s.process_CLOSE conn pending = .ok event) : event = .close ∨ event = .ignore := by
  obtain ⟨c, -, hok⟩ := bind_eq_ok.1 h
  split at hok
  all_goals
    cases hok <;> cases pending <;> simp

variable {text : String}

theorem refuseUnopened_ok (h : s.refuseUnopened conn text = .ok s') : s' = s := by
  obtain ⟨c, -, hok⟩ := bind_eq_ok.1 h
  split_ifs at hok
  cases hok
  rfl

variable {command : AppCommand}

theorem processCommand_pending (h : Inv s) (hc : s.conns.lookup conn = some c) {g i : ℤ}
    (hlegal : s.Legal (.appCommand g i command))
    (hs' : s.processCommand conn command = .ok (s', event)) :
    Pending s' conn event := by
  cases command with
  | openActive localAddr remoteAddr localPort remotePort =>
    obtain ⟨s1, hs1, hok⟩ := bind_eq_ok.1 hs'
    cases hok
    exact process_OPEN_ACTIVE_pending h hc hlegal hs1
  | openPassive localAddr localPort fork =>
    obtain ⟨s1, hs1, hok⟩ := bind_eq_ok.1 hs'
    cases hok
    exact process_OPEN_PASSIVE_pending h hc hlegal hs1
  | send =>
    obtain ⟨s1, hs1, hok⟩ := bind_eq_ok.1 hs'
    cases hok
    exact process_SEND_pending h hc hs1
  | close pending =>
    obtain ⟨e, he, hok⟩ := bind_eq_ok.1 hs'
    cases hok
    obtain rfl | rfl := process_CLOSE_ok he
    · exact h.pending_self hc (by decide) (by decide)
    · exact h.pending_self hc (by decide) (by decide)
  | abort =>
    obtain ⟨s1, hs1, hok⟩ := bind_eq_ok.1 hs'
    cases hok
    obtain rfl := refuseUnopened_ok hs1
    exact h.pending_self hc (by decide) (by decide)
  | status =>
    obtain ⟨s1, hs1, hok⟩ := bind_eq_ok.1 hs'
    cases hok
    obtain rfl := refuseUnopened_ok hs1
    exact h.pending_self hc (by decide) (by decide)
  | queueBytesLimit =>
    obtain ⟨s1, hs1, hok⟩ := bind_eq_ok.1 hs'
    cases hok
    obtain rfl := refuseUnopened_ok hs1
    exact h.pending_self hc (by decide) (by decide)

theorem Inv.connForApp (h : Inv s) (appGateIndex connId : ℤ) :
    Inv (s.connForApp appGateIndex connId).1 ∧
      ∃ c, (s.connForApp appGateIndex connId).1.conns.lookup
        (s.connForApp appGateIndex connId).2 = some c := by
  rw [Tables.connForApp]
  cases hfind : s.findConnForApp appGateIndex connId with
  | some conn =>
    obtain ⟨c, hc, -⟩ := (h.consistent.tcpAppConnMap _ _).1 hfind
    exact ⟨h, c, hc⟩
  | none =>
    have hcreate := h.consistent.create h.notMem_nextConn
      (c := { appGateIndex := appGateIndex, connId := connId }) rfl hfind
    refine ⟨⟨⟨hcreate.tcpAppConnMap, hcreate.tcpConnMap, hcreate.usedEphemeralPorts⟩,
      fun p hp => ?_, h.proper.insert ⟨by simp, by simp, by simp⟩⟩, _, lookup_insert _⟩
    obtain rfl | hp := mem_insert.1 hp
    · exact Nat.lt_succ_self _
    · exact (h.fresh p hp).trans (Nat.lt_succ_self _)

theorem Inv.handleAppCommand (h : Inv s) {appGateIndex connId : ℤ}
    (hlegal : s.Legal (.appCommand appGateIndex connId command))
    (hs' : s.handleAppCommand appGateIndex connId command = .ok s') : Inv s' := by
  obtain ⟨hinv, c, hc⟩ := h.connForApp appGateIndex connId
  obtain ⟨⟨s1, event⟩, hcommand, hs'⟩ := bind_eq_ok.1 hs'
  have hlegal' : Legal (s.connForApp appGateIndex connId).1
      (.appCommand appGateIndex connId command) := by
    cases command <;> exact hlegal
  obtain ⟨s2, hs2, hinv2⟩ :=
    (processCommand_pending hinv hc hlegal' hcommand).performStateTransition
  change s1.performStateTransition (s.connForApp appGateIndex connId).2 event = .ok s' at hs'
  rw [hs2] at hs'
  cases hs'
  exact hinv2

/-! ### Timers -/

theorem expectState_ok {states : List TCPState} {event e : TCPEventCode}
    (h : s.expectState conn states text event = .ok e) : e = event := by
  obtain ⟨c, -, hok⟩ := bind_eq_ok.1 h
  split_ifs at hok
  cases hok
  rfl

variable {timer : TCPTimer}

theorem timerEvent_ne_open (h : s.timerEvent conn timer = .ok event) :
    event ≠ .openActive ∧ event ≠ .openPassive := by
  cases timer with
  | the2MSL => rw [expectState_ok h]; decide
  | connEstab => rw [expectState_ok h]; decide
  | finWait2 => rw [expectState_ok h]; decide
  | synRexmit exceeded =>
    cases exceeded with
    | true => cases h; decide
    | false => rw [expectState_ok h]; decide
  | algorithm abort => cases abort <;> cases h <;> decide

theorem Inv.handleTimer (h : Inv s) (hconn : conn ∈ s.conns)
    (hs' : s.handleTimer conn timer = .ok s') : Inv s' := by
  obtain ⟨c, hc⟩ := mem_iff.1 hconn
  obtain ⟨event, hevent, hs'⟩ := bind_eq_ok.1 hs'
  obtain ⟨hactive, hpassive⟩ := timerEvent_ne_open hevent
  obtain ⟨s2, hs2, hinv2⟩ := (h.pending_self hc hactive hpassive).performStateTransition
  rw [hs2] at hs'
  cases hs'
  exact hinv2

/-! ### Segments -/

variable {tcpseg : SegmentHeader} {srcAddr destAddr : IPvXAddress} {checks : SegmentChecks}
  {uniqueNumber : ℤ}

/-- A connection that a segment finds: it is bound to the local port, to the other parts of the
socket pair if it has them, and it is the only one that has all of them. -/
structure Found (s : Tables) (tcpseg : SegmentHeader) (srcAddr destAddr : IPvXAddress)
    (conn : ConnPtr) (c : TCPConnection) : Prop where
  conns : s.conns.lookup conn = some c
  connMap : s.tcpConnMap.lookup c.sockPair = some conn
  bound : c.localPort ≠ -1
  localPort : c.localPort = tcpseg.destPort.toNat
  localAddr : c.localAddr = .unspecified ∨ c.localAddr = destAddr
  remote : c.remoteAddr = .unspecified ∨
    c.remoteAddr = srcAddr ∧ c.remotePort = tcpseg.srcPort.toNat
  unique : tcpseg.sockPair srcAddr destAddr = c.sockPair ∨
    s.tcpConnMap.lookup (tcpseg.sockPair srcAddr destAddr) = none

theorem Consistent.found (h : Consistent s)
    (hfind : s.findConnForSegment tcpseg srcAddr destAddr = some conn) :
    ∃ c, Found s tcpseg srcAddr destAddr conn c := by
  have hkey : ∃ key, s.tcpConnMap.lookup key = some conn ∧
      key.localPort = tcpseg.destPort.toNat ∧
      (key.localAddr = .unspecified ∨ key.localAddr = destAddr) ∧
      (key.remoteAddr = .unspecified ∨
        key.remoteAddr = srcAddr ∧ key.remotePort = tcpseg.srcPort.toNat) ∧
      (tcpseg.sockPair srcAddr destAddr = key ∨
        s.tcpConnMap.lookup (tcpseg.sockPair srcAddr destAddr) = none) := by
    rw [findConnForSegment] at hfind
    split at hfind
    · rename_i p hp
      cases hfind
      exact ⟨_, hp, rfl, .inr rfl, .inr ⟨rfl, rfl⟩, .inl rfl⟩
    · rename_i hnone
      split at hfind
      · rename_i p hp
        cases hfind
        exact ⟨_, hp, rfl, .inl rfl, .inr ⟨rfl, rfl⟩, .inr hnone⟩
      · split at hfind
        · rename_i p hp
          cases hfind
          exact ⟨_, hp, rfl, .inr rfl, .inl rfl, .inr hnone⟩
        · exact ⟨_, hfind, rfl, .inl rfl, .inl rfl, .inr hnone⟩
  obtain ⟨key, hlookup, hlocalPort, hlocalAddr, hremote, hunique⟩ := hkey
  obtain ⟨c, hc, hpair⟩ := (h.tcpConnMap key conn).1 hlookup
  obtain ⟨hbound, rfl⟩ := boundPair_eq_some_iff.1 hpair
  exact ⟨c, hc, hlookup, hbound, hlocalPort, hlocalAddr, hremote, hunique⟩

theorem Found.assertAddressed (h : Found s tcpseg srcAddr destAddr conn c) :
    assertAddressed c tcpseg srcAddr destAddr = true := by
  rw [Tables.assertAddressed, Bool.and_eq_true]
  constructor
  · obtain haddr | haddr := h.localAddr
    · rw [haddr]
      rfl
    · simp [haddr, h.localPort]
  · obtain haddr | ⟨haddr, hport⟩ := h.remote
    · rw [haddr]
      rfl
    · simp [haddr, hport]

/-- The connection with the socket pair of the segment. -/
def connectTo (c : TCPConnection) (tcpseg : SegmentHeader) (srcAddr destAddr : IPvXAddress) :
    TCPConnection :=
  { c with localAddr := destAddr, remoteAddr := srcAddr, remotePort := tcpseg.srcPort.toNat }

section

variable (h : Found s tcpseg srcAddr destAddr conn c)
include h

theorem Found.sockPair_connectTo :
    (connectTo c tcpseg srcAddr destAddr).sockPair = tcpseg.sockPair srcAddr destAddr := by
  rw [connectTo, TCPConnection.sockPair, SegmentHeader.sockPair, h.localPort]

theorem Found.updateSockPair :
    s.updateSockPair conn destAddr srcAddr tcpseg.destPort.toNat tcpseg.srcPort.toNat =
      .ok { s.setConn conn (connectTo c tcpseg srcAddr destAddr) with
        tcpConnMap := (s.tcpConnMap.erase c.sockPair).insert
          (connectTo c tcpseg srcAddr destAddr).sockPair conn } := by
  rw [Tables.updateSockPair, deref_eq h.conns, ok_bind, if_neg (not_not.2 h.connMap),
    if_neg (not_not.2 h.localPort)]
  rfl

/-- The tables after `updateSockPair` for a segment. -/
theorem Found.pending_updateSockPair (hinv : Inv s) :
    Pending { s.setConn conn (connectTo c tcpseg srcAddr destAddr) with
      tcpConnMap := (s.tcpConnMap.erase c.sockPair).insert
        (connectTo c tcpseg srcAddr destAddr).sockPair conn } conn event := by
  have hproper := hinv.proper conn c h.conns
  have hfree := h.unique
  rw [← h.sockPair_connectTo] at hfree
  refine ⟨hinv.consistent.rebind h.conns h.bound rfl rfl hfree, fun p hp => ?_,
    fun p d hp hd => ?_, _, lookup_setConn _ _ _, hproper.range, hproper.notClosed, ?_⟩
  · obtain rfl | hp := mem_insert.1 hp
    · exact hinv.fresh _ (mem_of_lookup_eq_some h.conns)
    · exact hinv.fresh _ hp
  · change (s.conns.insert conn _).lookup p = some d at hd
    rw [lookup_insert_of_ne _ hp] at hd
    exact hinv.proper p d hd
  · rw [TCPConnection.nextState_eq_init_iff]
    exact iff_of_false (fun hand => h.bound (hproper.init.1 hand.1)) h.bound

end

theorem listenPair_ne_connectTo (c : TCPConnection) :
    c.listenPair ≠ (connectTo c tcpseg srcAddr destAddr).sockPair := by
  intro heq
  have hport : (-1 : ℤ) = tcpseg.srcPort.toNat := congrArg SockPair.remotePort heq
  omega

/-- What `addForkedConnection` does once the socket pair of the connection is updated. -/
theorem addForkedConnection_eq {s2 : Tables} {clone : ConnPtr} {n c1 : TCPConnection}
    (hupdate : s.updateSockPair conn localAddr remoteAddr localPort remotePort = .ok s2)
    (hn : s2.conns.lookup clone = some n) (hc1 : s2.conns.lookup conn = some c1)
    (hne : conn ≠ clone) (hlisten : n.sockPair = n.listenPair) :
    s.addForkedConnection conn clone localAddr remoteAddr localPort remotePort uniqueNumber =
      if n.listenPair ∈ s2.tcpConnMap then .error (.alreadyListening n.localAddr n.localPort)
      else .ok { s2 with
        conns := (s2.conns.insert clone n).insert conn { c1 with connId := uniqueNumber }
        tcpAppConnMap := ((s2.tcpAppConnMap.erase c1.appConnKey).insert
          ⟨c1.appGateIndex, uniqueNumber⟩ conn).insert n.appConnKey clone
        tcpConnMap := s2.tcpConnMap.insert n.listenPair clone
        usedEphemeralPorts := (ephemeralPort n.localPort).toList + s2.usedEphemeralPorts } := by
  have hremote : n.remoteAddr = .unspecified := congrArg SockPair.remoteAddr hlisten
  have hport : n.remotePort = -1 := congrArg SockPair.remotePort hlisten
  rw [addForkedConnection, hupdate, ok_bind, deref_eq hn, ok_bind,
    Tables.addSockPair, deref_eq hn, ok_bind]
  change (if (s2.tcpConnMap.lookup n.sockPair).isSome then _ else _) >>= _ = _
  rw [hlisten]
  by_cases hmem : n.listenPair ∈ s2.tcpConnMap
  · rw [if_pos (lookup_isSome.2 hmem), if_pos hmem, if_pos ⟨by rw [hremote]; rfl, hport⟩]
    rfl
  · have hc1' : (s2.conns.insert clone n).lookup conn = some c1 :=
      (lookup_insert_of_ne _ hne).trans hc1
    rw [if_neg fun hsome => hmem (lookup_isSome.1 hsome), if_neg hmem, ok_bind,
      deref_eq hc1', ok_bind, deref_eq (lookup_insert _), ok_bind]
    rfl

theorem Found.mem_tcpConnMap_iff (_h : Found s tcpseg srcAddr destAddr conn c) :
    c.listenPair ∈ (s.tcpConnMap.erase c.sockPair).insert
        (connectTo c tcpseg srcAddr destAddr).sockPair conn ↔
      c.listenPair ≠ c.sockPair ∧ c.listenPair ∈ s.tcpConnMap := by
  rw [mem_insert, mem_erase]
  exact or_iff_right (listenPair_ne_connectTo c)

/-- The clone is registered in the place of the connection. -/
def forked (s : Tables) (tcpseg : SegmentHeader) (srcAddr destAddr : IPvXAddress) (conn : ConnPtr)
    (c : TCPConnection) (uniqueNumber : ℤ) : Tables :=
  { s with
    conns := (s.conns.insert conn
      { connectTo c tcpseg srcAddr destAddr with connId := uniqueNumber }).insert s.nextConn
      c.cloneListeningConnection
    nextConn := s.nextConn + 1
    tcpAppConnMap := ((s.tcpAppConnMap.erase c.appConnKey).insert
      ⟨c.appGateIndex, uniqueNumber⟩ conn).insert c.appConnKey s.nextConn
    tcpConnMap := ((s.tcpConnMap.erase c.sockPair).insert
      (connectTo c tcpseg srcAddr destAddr).sockPair conn).insert c.listenPair s.nextConn
    usedEphemeralPorts := (ephemeralPort c.localPort).toList + s.usedEphemeralPorts }

/-- A SYN for a forking connection: the clone is registered in its place, unless another
connection listens there. -/
theorem Found.fillInForeignSocket_fork (uniqueNumber : ℤ)
    (h : Found s tcpseg srcAddr destAddr conn c) (hinv : Inv s) (hfork : c.fork = true) :
    s.fillInForeignSocket conn tcpseg srcAddr destAddr uniqueNumber =
      if c.listenPair ≠ c.sockPair ∧ c.listenPair ∈ s.tcpConnMap then
        .error (.alreadyListening c.localAddr c.localPort)
      else .ok (forked s tcpseg srcAddr destAddr conn c uniqueNumber) := by
  have hne : conn ≠ s.nextConn := (hinv.fresh _ (mem_of_lookup_eq_some h.conns)).ne
  have hlookup := lookup_insert_of_ne (b := c.cloneListeningConnection) s.conns hne
  have hnew : Found (s.newConn c.cloneListeningConnection).1 tcpseg srcAddr destAddr conn c :=
    ⟨hlookup.trans h.conns, h.connMap, h.bound, h.localPort, h.localAddr, h.remote, h.unique⟩
  rw [fillInForeignSocket, deref_eq h.conns, ok_bind, if_pos hfork]
  have hclone : ((s.conns.insert s.nextConn c.cloneListeningConnection).insert conn
      (connectTo c tcpseg srcAddr destAddr)).lookup s.nextConn =
        some c.cloneListeningConnection := by
    rw [lookup_insert_of_ne _ hne.symm, lookup_insert]
  refine (addForkedConnection_eq hnew.updateSockPair hclone (lookup_setConn _ _ _) hne rfl).trans ?_
  refine if_congr h.mem_tcpConnMap_iff rfl (congrArg Except.ok ?_)
  -- the clone is written twice, and the connection in between
  have hconns : (((s.conns.insert s.nextConn c.cloneListeningConnection).insert conn
        (connectTo c tcpseg srcAddr destAddr)).insert s.nextConn
          c.cloneListeningConnection).insert conn
          { connectTo c tcpseg srcAddr destAddr with connId := uniqueNumber } =
      (s.conns.insert conn { connectTo c tcpseg srcAddr destAddr with
        connId := uniqueNumber }).insert s.nextConn c.cloneListeningConnection := by
    refine ext_lookup fun p => ?_
    simp only [lookup_insert_eq]
    by_cases hp : p = conn
    · have hp' : p ≠ s.nextConn := hp ▸ hne
      simp only [if_pos hp, if_neg hp']
    · by_cases hp' : p = s.nextConn
      · simp only [if_neg hp, if_pos hp']
      · simp only [if_neg hp, if_neg hp']
  rw [forked, ← hconns]
  rfl

section

variable (h : Found s tcpseg srcAddr destAddr conn c) (hinv : Inv s)
include h hinv

/-- The tables with the clone. -/
theorem Found.pending_fork (hunique : ∀ key ∈ s.tcpAppConnMap.keys, key.connId ≠ uniqueNumber)
    (hfree : ¬(c.listenPair ≠ c.sockPair ∧ c.listenPair ∈ s.tcpConnMap)) :
    Pending (forked s tcpseg srcAddr destAddr conn c uniqueNumber) conn event := by
  unfold forked
  have hproper := hinv.proper conn c h.conns
  have hne : conn ≠ s.nextConn := (hinv.fresh _ (mem_of_lookup_eq_some h.conns)).ne
  have hpair := h.unique
  rw [← h.sockPair_connectTo] at hpair
  have happ : s.tcpAppConnMap.lookup ⟨c.appGateIndex, uniqueNumber⟩ = none := by
    rw [lookup_eq_none]
    exact fun hmem => hunique _ (mem_keys.2 hmem) rfl
  have hlisten : c.listenPair = c.sockPair ∨ s.tcpConnMap.lookup c.listenPair = none := by
    rw [lookup_eq_none]
    exact or_iff_not_imp_left.2 fun hne' hmem => hfree ⟨hne', hmem⟩
  have hcons := hinv.consistent.fork h.conns h.bound
    { connectTo c tcpseg srcAddr destAddr with connId := uniqueNumber } c.cloneListeningConnection
    hinv.notMem_nextConn rfl rfl rfl happ hpair (listenPair_ne_connectTo c) hlisten
  refine ⟨⟨hcons.tcpAppConnMap, hcons.tcpConnMap, hcons.usedEphemeralPorts⟩, fun p hp => ?_,
    fun p d hp hd => ?_, { connectTo c tcpseg srcAddr destAddr with connId := uniqueNumber }, ?_,
    hproper.range, hproper.notClosed, ?_⟩
  · obtain rfl | hp := mem_insert.1 hp
    · exact Nat.lt_succ_self _
    · obtain rfl | hp := mem_insert.1 hp
      · exact (hinv.fresh _ (mem_of_lookup_eq_some h.conns)).trans (Nat.lt_succ_self _)
      · exact (hinv.fresh p hp).trans (Nat.lt_succ_self _)
  · rw [lookup_insert_eq] at hd
    split_ifs at hd with hnext
    · cases hd
      exact ⟨iff_of_false (fun heq => by cases heq) h.bound, hproper.range, fun heq => by cases heq⟩
    · rw [lookup_insert_of_ne _ hp] at hd
      exact hinv.proper p d hd
  · rw [lookup_insert_of_ne _ hne, lookup_insert]
  · rw [TCPConnection.nextState_eq_init_iff]
    exact iff_of_false (fun hand => h.bound (hproper.init.1 hand.1)) h.bound

theorem Found.pending_self (event : TCPEventCode) : Pending s conn event := by
  have hproper := hinv.proper conn c h.conns
  refine ⟨hinv.consistent, hinv.fresh, fun p d _ hd => hinv.proper p d hd, c, h.conns,
    hproper.range, hproper.notClosed, ?_⟩
  rw [TCPConnection.nextState_eq_init_iff]
  exact iff_of_false (fun hand => h.bound (hproper.init.1 hand.1)) h.bound

theorem Found.fillInForeignSocket
    (hunique : ∀ key ∈ s.tcpAppConnMap.keys, key.connId ≠ uniqueNumber)
    (hfree : ¬(c.fork = true ∧ c.listenPair ≠ c.sockPair ∧ c.listenPair ∈ s.tcpConnMap))
    (event : TCPEventCode) :
    ∃ s', s.fillInForeignSocket conn tcpseg srcAddr destAddr uniqueNumber = .ok s' ∧
      Pending s' conn event := by
  by_cases hfork : c.fork = true
  · have hfree' : ¬(c.listenPair ≠ c.sockPair ∧ c.listenPair ∈ s.tcpConnMap) :=
      fun hand => hfree ⟨hfork, hand⟩
    rw [h.fillInForeignSocket_fork uniqueNumber hinv hfork, if_neg hfree']
    exact ⟨_, rfl, h.pending_fork hinv hunique hfree'⟩
  · rw [Tables.fillInForeignSocket, deref_eq h.conns, ok_bind, if_neg hfork,
      h.updateSockPair]
    exact ⟨_, rfl, h.pending_updateSockPair hinv⟩

end

theorem processSegment1stThru8th_ok {st : TCPState} (tcpseg : SegmentHeader)
    (checks : SegmentChecks) (hinit : st ≠ .init)
    (hclosed : st ≠ .closed) (hlisten : st ≠ .listen) (hsynSent : st ≠ .synSent) :
    ∃ event, processSegment1stThru8th st tcpseg checks = .ok event := by
  unfold processSegment1stThru8th
  split_ifs
  · exact ⟨_, rfl⟩
  · cases st <;> first | exact ⟨_, rfl⟩ | contradiction
  · exact ⟨_, rfl⟩
  · exact ⟨_, rfl⟩
  · exact ⟨_, rfl⟩

/-- The connection handles the segment, unless it has to fork and another one listens. -/
theorem Found.process_RCV_SEGMENT (checks : SegmentChecks)
    (h : Found s tcpseg srcAddr destAddr conn c) (hinv : Inv s)
    (hunique : ∀ key ∈ s.tcpAppConnMap.keys, key.connId ≠ uniqueNumber)
    (hfree : ¬((tcpseg.rstBit = false ∧ tcpseg.ackBit = false ∧ tcpseg.synBit = true) ∧
      c.fsm = .listen ∧ c.fork = true ∧ c.listenPair ≠ c.sockPair ∧
      c.listenPair ∈ s.tcpConnMap)) :
    ∃ s' event, s.process_RCV_SEGMENT conn tcpseg srcAddr destAddr checks uniqueNumber =
      .ok (s', event) ∧ Pending s' conn event := by
  have hproper := hinv.proper conn c h.conns
  have hinit : c.fsm ≠ .init := fun heq => h.bound (hproper.init.1 heq)
  rw [Tables.process_RCV_SEGMENT, deref_eq h.conns, ok_bind]
  split
  · rename_i hfsm
    unfold processSegmentInListen
    split_ifs with hrst hack hsyn
    · exact ⟨s, .ignore, rfl, h.pending_self hinv _⟩
    · exact ⟨s, .ignore, rfl, h.pending_self hinv _⟩
    · obtain ⟨s', hs', hpending⟩ := h.fillInForeignSocket hinv hunique
        (fun hand => hfree ⟨⟨Bool.not_eq_true _ ▸ hrst, Bool.not_eq_true _ ▸ hack, hsyn⟩, hfsm,
          hand⟩) (acceptPayload tcpseg checks .rcvSyn)
      rw [hs']
      exact ⟨s', _, rfl, hpending⟩
    · exact ⟨s, .ignore, rfl, h.pending_self hinv _⟩
  · unfold processSegmentInSynSent
    split_ifs
    · exact ⟨s, .ignore, rfl, h.pending_self hinv _⟩
    · exact ⟨s, .rcvRst, rfl, h.pending_self hinv _⟩
    · exact ⟨s, .ignore, rfl, h.pending_self hinv _⟩
    · rw [h.updateSockPair]
      exact ⟨_, _, rfl, h.pending_updateSockPair hinv⟩
    · rw [h.updateSockPair]
      exact ⟨_, _, rfl, h.pending_updateSockPair hinv⟩
    · exact ⟨s, .ignore, rfl, h.pending_self hinv _⟩
  · rename_i hlisten hsynSent
    obtain ⟨event, hevent⟩ := processSegment1stThru8th_ok tcpseg checks
      hinit hproper.notClosed hlisten hsynSent
    rw [hevent]
    exact ⟨s, event, rfl, h.pending_self hinv event⟩

theorem Inv.handleSegment (checks : SegmentChecks) (h : Inv s)
    (hunique : ∀ key ∈ s.tcpAppConnMap.keys, key.connId ≠ uniqueNumber)
    (hclash : ¬s.Clashes tcpseg srcAddr destAddr) :
    ∃ s', s.handleSegment tcpseg srcAddr destAddr checks uniqueNumber = .ok s' ∧ Inv s' := by
  rw [Tables.handleSegment]
  cases hfind : s.findConnForSegment tcpseg srcAddr destAddr with
  | none => exact ⟨s, rfl, h⟩
  | some conn =>
    obtain ⟨c, hc⟩ := h.consistent.found hfind
    obtain ⟨s1, event, hs1, hpending⟩ := hc.process_RCV_SEGMENT checks h hunique
      fun hand => hclash ⟨hand.1, conn, c, hfind, hc.conns, hand.2.1, hand.2.2.1,
        hand.2.2.2.1.symm, hand.2.2.2.2⟩
    obtain ⟨s', hs', hinv⟩ := hpending.performStateTransition
    refine ⟨s', ?_, hinv⟩
    simp only [processTCPSegment, deref_eq hc.conns, ok_bind, hc.assertAddressed, hs1, hs',
      Bool.true_eq_false, if_false]

theorem Clashes.handleSegment (checks : SegmentChecks) (uniqueNumber : ℤ) (hinv : Inv s)
    (h : s.Clashes tcpseg srcAddr destAddr) :
    ∃ localAddr localPort, s.handleSegment tcpseg srcAddr destAddr checks uniqueNumber =
      .error (.alreadyListening localAddr localPort) := by
  obtain ⟨⟨hrst, hack, hsyn⟩, conn, c, hfind, hlookup, hfsm, hfork, hne, hmem⟩ := h
  obtain ⟨c', hc⟩ := hinv.consistent.found hfind
  obtain rfl : c' = c := Option.some.inj (hc.conns.symm.trans hlookup)
  have herror := hc.fillInForeignSocket_fork uniqueNumber hinv hfork
  rw [if_pos ⟨hne.symm, hmem⟩] at herror
  refine ⟨c'.localAddr, c'.localPort, ?_⟩
  simp only [Tables.handleSegment, hfind, processTCPSegment, deref_eq hc.conns, ok_bind,
    hc.assertAddressed, Tables.process_RCV_SEGMENT, hfsm, processSegmentInListen, hrst, hack, hsyn,
    herror, error_bind, Bool.true_eq_false, Bool.false_eq_true, if_false, if_true]

/-! ### Runs -/

theorem Inv.step (h : Inv s) {event : TCPEvent} (hlegal : s.Legal event)
    (hs' : s.step event = .ok s') : Inv s' := by
  cases event with
  | appCommand appGateIndex connId command =>
    rw [Tables.step] at hs'
    split_ifs at hs'
    · exact h.handleAppCommand hlegal hs'
    · cases hs'
      exact h
  | segment tcpseg srcAddr destAddr checks uniqueNumber =>
    rw [Tables.step] at hs'
    split_ifs at hs'
    · by_cases hclash : s.Clashes tcpseg srcAddr destAddr
      · obtain ⟨localAddr, localPort, herror⟩ := hclash.handleSegment checks uniqueNumber h
        rw [herror] at hs'
        cases hs'
      · obtain ⟨t, ht, hinv⟩ := h.handleSegment checks hlegal hclash
        rw [ht] at hs'
        cases hs'
        exact hinv
    · cases hs'
      exact h
  | timer conn timer =>
    rw [Tables.step] at hs'
    split_ifs at hs'
    exact h.handleTimer hlegal hs'
  | start =>
    cases hs'
    exact ⟨⟨h.consistent.tcpAppConnMap, h.consistent.tcpConnMap, h.consistent.usedEphemeralPorts⟩,
      h.fresh, h.proper⟩
  | shutdown =>
    cases hs'
    have hinit := Inv.initial
    exact ⟨⟨hinit.consistent.tcpAppConnMap, hinit.consistent.tcpConnMap,
      hinit.consistent.usedEphemeralPorts⟩, fun p hp => absurd hp notMem_empty,
      hinit.proper⟩

end Operations

/-- **The tables are consistent in every state that is reached, and a segment is refused with
"Address already in use" exactly when it clashes.**  All other segments are handled without an
error. -/
theorem run_consistent {events : List TCPEvent} {s : Tables}
    (h : Run step Legal {} events s) :
    s.Consistent ∧ ∀ tcpseg srcAddr destAddr checks uniqueNumber,
      s.Legal (.segment tcpseg srcAddr destAddr checks uniqueNumber) →
      (AddressInUse (s.step (.segment tcpseg srcAddr destAddr checks uniqueNumber)) ↔
        s.isOperational = true ∧ s.Clashes tcpseg srcAddr destAddr) ∧
      ((∃ s', s.step (.segment tcpseg srcAddr destAddr checks uniqueNumber) = .ok s') ↔
        ¬(s.isOperational = true ∧ s.Clashes tcpseg srcAddr destAddr)) := by
  have hinv : Inv s := h.invariant (fun s e s' hs hP hstep => hs.step hP hstep) .initial
  refine ⟨hinv.consistent, fun tcpseg srcAddr destAddr checks uniqueNumber hlegal => ?_⟩
  rw [step]
  by_cases hup : s.isOperational = true
  · rw [if_pos hup]
    by_cases hclash : s.Clashes tcpseg srcAddr destAddr
    · obtain ⟨localAddr, localPort, herror⟩ := hclash.handleSegment checks uniqueNumber hinv
      rw [herror]
      exact ⟨iff_of_true trivial ⟨hup, hclash⟩,
        iff_of_false (fun ⟨s', hs'⟩ => by cases hs') fun hnot => hnot ⟨hup, hclash⟩⟩
    · obtain ⟨s', hs', -⟩ := hinv.handleSegment checks hlegal hclash
      rw [hs']
      exact ⟨iff_of_false id fun hand => hclash hand.2,
        iff_of_true ⟨s', rfl⟩ fun hand => hclash hand.2⟩
  · rw [if_neg hup]
    exact ⟨iff_of_false id fun hand => hup hand.1, iff_of_true ⟨s, rfl⟩ fun hand => hup hand.1⟩

/-- A forking listener, a SYN for it, and another SYN from elsewhere. -/
theorem run_consistent_sample : ∃ s : Tables, s.Consistent ∧ s.usedEphemeralPorts = {2000, 2000} ∧
    ¬(s.isOperational = true ∧
      s.Clashes ⟨99, 2000, false, false, true, 0⟩ (.ipv4 2) (.ipv4 1)) := by
  obtain ⟨s, hrun, hs⟩ : ∃ s, Run step Legal {} [
      .appCommand 0 1 (.openPassive (.ipv4 1) 2000 true),
      .segment ⟨77, 2000, false, false, true, 0⟩ (.ipv4 2) (.ipv4 1) {} 7] s ∧
      (s.usedEphemeralPorts, decide (s.Legal (.segment ⟨99, 2000, false, false, true, 0⟩ (.ipv4 2)
        (.ipv4 1) {} 8)), decide (AddressInUse (s.step (.segment ⟨99, 2000, false, false, true, 0⟩
          (.ipv4 2) (.ipv4 1) {} 8)))) = ({2000, 2000}, true, false) :=
    exists_run_of_exec (by decide +kernel)
  simp only [Prod.mk.injEq, decide_eq_true_eq, decide_eq_false_iff_not] at hs
  obtain ⟨hports, hlegal, hhandled⟩ := hs
  obtain ⟨hconsistent, hsegment⟩ := run_consistent hrun
  exact ⟨s, hconsistent, hports, fun hclash => hhandled ((hsegment _ _ _ _ _ hlegal).1.2 hclash)⟩

/-- **A segment can be refused with "Address already in use"**: a SYN, a reset, and the SYN once
more, for a forking listener with a local address. -/
theorem not_never_in_use : ¬∀ (events : List TCPEvent) (s : Tables),
    Run step Legal {} events s → ∀ tcpseg srcAddr destAddr checks uniqueNumber,
      s.Legal (.segment tcpseg srcAddr destAddr checks uniqueNumber) →
      ¬AddressInUse (s.step (.segment tcpseg srcAddr destAddr checks uniqueNumber)) := by
  intro h
  obtain ⟨s, hrun, hs⟩ : ∃ s, Run step Legal {} [
      .appCommand 0 1 (.openPassive (.ipv4 1) 2000 true),
      .segment ⟨77, 2000, false, false, true, 0⟩ (.ipv4 2) (.ipv4 1) {} 7,
      .segment ⟨77, 2000, true, false, false, 0⟩ (.ipv4 2) (.ipv4 1) {} 8] s ∧
      (decide (s.Legal (.segment ⟨77, 2000, false, false, true, 0⟩ (.ipv4 2) (.ipv4 1) {} 8)),
        decide (AddressInUse (s.step (.segment ⟨77, 2000, false, false, true, 0⟩
          (.ipv4 2) (.ipv4 1) {} 8)))) = (true, true) :=
    exists_run_of_exec (by decide +kernel)
  simp only [Prod.mk.injEq, decide_eq_true_eq] at hs
  exact h _ s hrun _ _ _ _ _ hs.1 hs.2

end Tables

end TCP

end Hiwis
