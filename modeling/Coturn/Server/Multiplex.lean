/-
# The shared relay socket

In multiplex-peer mode the sessions of a thread share one relay socket for each family, and a table
says which session the endpoint of a peer belongs to. What is sent from it goes to endpoints of the
sending session, provided that no session binds a channel to an endpoint of another: the channel is
bound before the registration fails.
-/
import Coturn.Server.DataPath

namespace Coturn

open Option

variable {srv : Server} {i : Input}

/-! ## Who gets what out of the table -/

/-- The mode in which the table is in use, without relaying by the server. -/
def Server.Multiplexing (_ : Server) (i : Input) : Prop :=
  i.cfg.multiplexPeerMode = true ∧ i.cfg.serverRelay = false
  deriving Decidable

/-- Deregister the permissions of a session that the sweep removes, one after the other. -/
def deregisterSwept (ctime : UInt32) (srv : Server) (ss : Session) : Server :=
  (sweptAddrs ctime ss).foldl (fun srv addr => mpDeregisterPermissionPeers srv addr ss.id) srv

/-- Entries have permissions, and deregistering removes the right ones. -/
structure Server.PeersInOrder (srv : Server) : Prop where
  /-- Entries are of sessions that are there and have a permission for the IP of the endpoint. -/
  entry : ∀ key sid, srv.mpTable.get key = some sid →
    ∃ ss, srv.sessionsMap sid = some ss ∧ ss.alloc.Permits key
  session : ∀ sid key other, (mpDeregisterSessionPeers srv sid 0).mpTable.get key = some other ↔
    srv.mpTable.get key = some other ∧ other ≠ sid
  family : ∀ sid family key other, family ≠ 0 →
    ((mpDeregisterSessionPeers srv sid family).mpTable.get key = some other ↔
      srv.mpTable.get key = some other ∧ ¬ (other = sid ∧ key.family = family))
  permission : ∀ sid peerAddr key other,
    (mpDeregisterPermissionPeers srv peerAddr sid).mpTable.get key = some other ↔
      srv.mpTable.get key = some other ∧ ¬ (other = sid ∧ addrEqNoPort key peerAddr = true)
  /-- The timer deregisters the permissions that the sweep of all sessions removes. -/
  sweep : ∀ cfg ctime (sessions : List Session), cfg.multiplexPeerMode = true →
    (∀ ss, ss ∈ sessions ↔ srv.sessionsMap ss.id = some ss) → ∀ key,
      (timerTimeoutHandler cfg ctime srv).mpTable.get key =
        (sessions.foldl (deregisterSwept ctime) srv).mpTable.get key

lemma mpDeregisterPermissionPeers_get (srv : Server) (peerAddr : IoaAddr) (sid : ℕ) (key : IoaAddr)
    (other : ℕ) :
    (mpDeregisterPermissionPeers srv peerAddr sid).mpTable.get key = some other ↔
      srv.mpTable.get key = some other ∧ ¬ (other = sid ∧ addrEqNoPort key peerAddr = true) := by
  simp [mpDeregisterPermissionPeers, UrAddrMap.get_delWhere, mpDeregisterCb, imp_iff_not_or]

lemma mpDeregisterSessionPeers_get (srv : Server) (sid family : ℕ) (key : IoaAddr) (other : ℕ) :
    (mpDeregisterSessionPeers srv sid family).mpTable.get key = some other ↔
      srv.mpTable.get key = some other ∧
        ¬ (other = sid ∧ (family = 0 ∨ key.family = family)) := by
  simp [mpDeregisterSessionPeers, UrAddrMap.get_delWhere, mpDeregisterCb, imp_iff_not_or]

/-- Deregistering permissions one after the other takes out what belongs to one of them. -/
lemma foldl_mpDeregisterPermissionPeers_get (addrs : List IoaAddr) (sid : ℕ) (srv : Server)
    (key : IoaAddr) (other : ℕ) :
    (addrs.foldl (fun srv addr => mpDeregisterPermissionPeers srv addr sid) srv).mpTable.get key =
        some other ↔
      srv.mpTable.get key = some other ∧
        ¬ (other = sid ∧ ∃ addr ∈ addrs, addrEqNoPort key addr = true) := by
  induction addrs generalizing srv with
  | nil => simp
  | cons addr addrs ih =>
    rw [List.foldl_cons, ih, mpDeregisterPermissionPeers_get, List.exists_mem_cons_iff, and_assoc,
      ← not_or, ← and_or_left]

lemma foldl_deregisterSwept_get (ctime : UInt32) (sessions : List Session) (srv : Server)
    (key : IoaAddr) (other : ℕ) :
    (sessions.foldl (deregisterSwept ctime) srv).mpTable.get key = some other ↔
      srv.mpTable.get key = some other ∧ ¬ ∃ ss ∈ sessions, other = ss.id ∧
        ∃ addr ∈ sweptAddrs ctime ss, addrEqNoPort key addr = true := by
  induction sessions generalizing srv with
  | nil => simp
  | cons ss sessions ih =>
    rw [List.foldl_cons, ih, deregisterSwept, foldl_mpDeregisterPermissionPeers_get,
      List.exists_mem_cons_iff, and_assoc, ← not_or]

/-- The one walk of the timer over the table is as good as one walk for each permission. -/
lemma timerTimeoutHandler_get {cfg : Config} (ctime : UInt32) {sessions : List Session}
    (hids : srv.IdsMatch) (hmode : cfg.multiplexPeerMode = true)
    (hall : ∀ ss, ss ∈ sessions ↔ srv.sessionsMap ss.id = some ss) (key : IoaAddr) :
    (timerTimeoutHandler cfg ctime srv).mpTable.get key =
      (sessions.foldl (deregisterSwept ctime) srv).mpTable.get key := by
  ext other
  rw [foldl_deregisterSwept_get, timerTimeoutHandler, if_pos hmode, UrAddrMap.get_delWhere,
    filter_eq_some_iff]
  refine and_congr_right fun _ => ?_
  rw [Bool.not_eq_true', ← Bool.not_eq_true]
  refine not_congr ?_
  simp only [sweptPeer, any_eq_true, List.any_eq_true, mpDeregisterCb, all_some]
  constructor
  · rintro ⟨ss, hss, addr, haddr, hkey⟩
    obtain rfl := hids other ss hss
    exact ⟨ss, (hall ss).mpr hss, rfl, addr, haddr, by simpa using hkey⟩
  · rintro ⟨ss, hmem, rfl, addr, haddr, hkey⟩
    exact ⟨ss, (hall ss).mp hmem, addr, haddr, by simpa using hkey⟩

/-- Well formed, and endpoints have permissions. -/
structure Server.Hygienic (srv : Server) : Prop extends srv.WellFormed where
  hygienic : srv.view.Hygienic

lemma Server.Hygienic.step (h : srv.Hygienic) (hok : srv.Multiplexing i) :
    (srv.step i).Hygienic :=
  ⟨h.toWellFormed.step i, h.hygienic.step h.sound hok.1 hok.2 (h.refines i)⟩

lemma hygienic_init (id : UInt8) (ctime : UInt32) (realms : RealmTable) :
    (initServer id ctime realms).Hygienic := by
  refine ⟨wellFormed_init id ctime realms, fun key sid hkey => ?_⟩
  have hnone : (initServer id ctime realms).view.owner key = none := UrAddrMap.get_init key
  rw [hnone] at hkey
  exact absurd hkey (by simp)

lemma Server.Hygienic.peersInOrder (h : srv.Hygienic) : srv.PeersInOrder where
  entry key sid hkey := by
    obtain ⟨rs, hrs, hpermits⟩ := h.hygienic key sid hkey
    obtain ⟨ss, hss, rfl⟩ := map_eq_some_iff.mp hrs
    exact ⟨ss, hss, hpermits⟩
  session sid key other := by
    rw [mpDeregisterSessionPeers_get]
    simp
  family sid family key other hfamily := by
    rw [mpDeregisterSessionPeers_get]
    simp [hfamily]
  permission sid peerAddr key other := mpDeregisterPermissionPeers_get srv peerAddr sid key other
  sweep cfg ctime sessions hmode hall key :=
    timerTimeoutHandler_get ctime h.numbered.ids hmode hall key

/-- In multiplex-peer mode the table of peers is in order in every state that the server can
reach. -/
theorem multiplexed_peers_in_order (id : UInt8) (ctime : UInt32) (realms : RealmTable)
    (is : List Input)
    (hok : Machine.Along Server.step Server.Multiplexing (initServer id ctime realms) is) :
    (Machine.run Server.step (initServer id ctime realms) is).PeersInOrder := by
  have hrun : (Machine.run Server.step (initServer id ctime realms) is).Hygienic :=
    Machine.run_invariant (fun srv i h hok => h.step hok) hok (hygienic_init id ctime realms)
  exact hrun.peersInOrder

/-- The events of two clients in multiplex-peer mode, after both have got their allocations. -/
def twoClients (evs : List Event) : List Input :=
  (.openSession udpClient none false :: .openSession udpClient none false ::
    .clientInput 1 plainAllocate true ::
    .clientInput 2 plainAllocate true :: evs).map fun ev =>
      ⟨{ plainParams with multiplexPeerMode := true }, .plain (udpRelay true), ev⟩

def somePeer (port : UInt16) : IoaAddr := hostAddr 3 port

def firstGetsPermission : Event :=
  .clientInput 1 (clientRequest stunMethodCreatePermission [peerAttr (somePeer 7000)]) true

def secondBindsChannel (port : UInt16) : Event :=
  .clientInput 2 (clientRequest stunMethodChannelBind
    [channelAttr 0x4000, peerAttr (somePeer port)]) true

theorem multiplexed_peers_in_order_twoClients :
    (served (twoClients
      [firstGetsPermission, secondBindsChannel 7001])).mpTable.get (somePeer 7001) = some 2 ∧
    (served (twoClients
      [firstGetsPermission, secondBindsChannel 7001])).PeersInOrder :=
  ⟨by decide +kernel, multiplexed_peers_in_order 0 1000 defaultRealms _ (by decide +kernel)⟩

/-! ## Who sends to whom -/

/-- What is sent from the shared socket goes to an endpoint of the sending session. -/
def Effect.Isolated : Effect → Prop
  | .toPeer sid _ _ relayS owner => relayS.type = .udp → relayS.shared = true → owner = some sid
  | _ => True

instance : DecidablePred Effect.Isolated
  | .toPeer sid _ _ relayS owner => inferInstanceAs
      (Decidable (relayS.type = .udp → relayS.shared = true → owner = some sid))
  | .authCheck _ | .toClient _ _ | .relayToClient _ _ _ | .sendTo _ _ _ | .toSocket _ _
  | .socketToRelay _ _ _ | .allocationCreated _ | .allocationRefreshed _ _ | .permissionUpdated _ _
  | .channelUpdated _ _ _ | .connectStarted _ _ | .dataConnectionBound _ _ => isTrue trivial

/-- The endpoint to which the packet of the event binds a channel. -/
def Server.boundPeer (srv : Server) (i : Input) : Option IoaAddr :=
  (srv.packet i).bind fun r =>
    let c := r.2.2.admitted i.cfg i.env r.1 r.2.1
    if stunIsRequest r.1.buf = true ∧ c.open = true ∧
        stunGetMethod r.1.buf = stunMethodChannelBind ∧
        BindsChannel i.cfg c.ss (stunTidFromMessage r.1.buf) (stunAttrs r.1.buf) then
      some (readChannelBind i.cfg c.ss.alloc (stunTidFromMessage r.1.buf)
        (stunAttrs r.1.buf)).val.peerAddr
    else none

lemma Server.Binds.mem_boundPeer {addr : IoaAddr} (h : srv.Binds i addr) :
    addr ∈ srv.boundPeer i := by
  obtain ⟨nd, canResume, c, hpacket, hrequest, hopen, hmethod, hbinds, rfl⟩ := h
  simp only [Server.boundPeer, hpacket, bind_some]
  rw [if_pos ⟨hrequest, hopen, hmethod, hbinds⟩]
  rfl

/-- The peer to which the packet of the event, a Send indication with data, may be sent from the
shared socket. -/
def Server.sendPeer (srv : Server) (i : Input) : Option IoaAddr :=
  (srv.packet i).bind fun r =>
    let v := (readSend i.cfg (stunTidFromMessage r.1.buf) (stunAttrs r.1.buf)).val
    if IsSend r.1.buf ∧ v.data.isSome = true ∧ addrAny v.peerAddr = false ∧
        (i.cfg.serverRelay = false → (allocationGetPermission r.2.2.ss.alloc.toAddrTables
          v.peerAddr).isSome = true) ∧
        isMultiplexPeerUdpRelay i.cfg (r.2.2.ss.alloc.getRelaySocket v.peerAddr.family) = true then
      some v.peerAddr
    else none

/-- In multiplex-peer mode, channels are bound to endpoints that belong to no other session, and
Send indications are for endpoints with a port. -/
def Server.PeersFree (srv : Server) (i : Input) : Prop :=
  i.cfg.multiplexPeerMode = true ∧
    (∀ addr ∈ srv.boundPeer i, ∀ other ∈ srv.mpTable.get addr, other = srv.who i) ∧
    ∀ addr ∈ srv.sendPeer i, addrGetPort addr ≠ 0
  deriving Decidable

/-- The peers of the channels on shared sockets belong to the sessions of the channels. -/
structure Server.PeersOwned (srv : Server) : Prop extends srv.WellFormed where
  owned : srv.view.Owned

lemma Server.PeersOwned.step (h : srv.PeersOwned) (hok : srv.PeersFree i) :
    (srv.step i).PeersOwned := by
  refine ⟨h.toWellFormed.step i, h.owned.step h.sound hok.1 ?_ (h.refines i)⟩
  intro key other hbinds howner
  exact hok.2.1 key hbinds.mem_boundPeer other howner

lemma Server.PeersOwned.isolated (h : srv.PeersOwned) (hok : srv.PeersFree i) :
    ∀ e ∈ (srv.handle i).2, e.Isolated := by
  intro e he
  rcases handle_effects h.numbered he with
    hcontrol | ⟨nd, canResume, c, hpacket, hsends⟩ | ⟨_, _, _, _, _, hdelivers⟩
  · cases e <;> trivial
  · have hshared : ∀ {s : RelayIoaSocket}, s.type = .udp → s.shared = true →
        isMultiplexPeerUdpRelay i.cfg (some s) = true := by
      intro s hudp hsh
      simp [isMultiplexPeerUdpRelay, hok.1, hudp, hsh]
    cases hsends with
    | send hsend heffect =>
      obtain ⟨data, relayS, owner, hdata, hsocket, howner, rfl⟩ := heffect.sent
      intro hudp hsh
      refine howner (hshared hudp hsh) (hok.2.2 _ ?_)
      simp only [Server.sendPeer, hpacket, bind_some]
      rw [if_pos ⟨hsend, by rw [hdata]; rfl, heffect.inet, heffect.permission,
        by rw [hsocket]; exact hshared hudp hsh⟩]
      rfl
    | channel stream chnum len hchannel heffect =>
      obtain ⟨r, chn, relayS, hfound, hget, hsocket, rfl⟩ := heffect.sent
      intro hudp hsh
      have hstate := packet_state h.numbered hpacket
      obtain ⟨ss, hss, hrs⟩ := hstate.session heffect.valid
      obtain ⟨chn', hlive, -⟩ := liveCh_of_allocationGetChInfo hfound
      obtain rfl := mem_unique hget hlive.1
      rw [hstate.mp]
      refine h.owned c.ss.id c.ss.alloc.relay r chn ?_ hlive ?_
      · rw [view_sessions_of_some hss, hrs]
      · refine ((isMultiplexPeerUdpRelay_iff i.cfg c.ss.alloc _).mp ?_).2
        rw [hsocket]
        exact hshared hudp hsh
  · rw [hdelivers.effect]
    trivial

/-- While the endpoints of channels are free, what is sent from the shared socket goes to an
endpoint of the sending session. -/
theorem multiplexed_peers_isolated (id : UInt8) (ctime : UInt32) (realms : RealmTable)
    (is : List Input)
    (hok : Machine.Along Server.step Server.PeersFree (initServer id ctime realms) is) :
    Machine.Along Server.step (fun srv i => ∀ e ∈ (srv.handle i).2, e.Isolated)
      (initServer id ctime realms) is := by
  have hinit : (initServer id ctime realms).PeersOwned :=
    ⟨wellFormed_init id ctime realms, fun _ _ _ _ h => (nomatch h)⟩
  exact Machine.along_of_invariant (fun srv i h hok => ⟨h.step hok, h.isolated hok⟩) hok hinit

def secondSendsData : Event :=
  .clientInput 2 fourBytes true

theorem multiplexed_peers_isolated_twoClients :
    Machine.Along Server.step (fun srv i => ∀ e ∈ (srv.handle i).2, e.Isolated)
      (initServer 0 1000 defaultRealms) (twoClients
        [firstGetsPermission, secondBindsChannel 7001, secondSendsData]) :=
  multiplexed_peers_isolated 0 1000 defaultRealms _ (by decide +kernel)

/-- A channel to an endpoint of another client is refused, but ChannelData on it is sent there. -/
theorem refused_channel_reaches_foreign_peer :
    Machine.Along Server.step Server.Multiplexing (initServer 0 1000 defaultRealms)
      (twoClients
        [firstGetsPermission, secondBindsChannel 7000, secondSendsData]) ∧
    ¬ Machine.Along Server.step (fun srv i => ∀ e ∈ (srv.handle i).2, e.Isolated)
      (initServer 0 1000 defaultRealms) (twoClients
        [firstGetsPermission, secondBindsChannel 7000, secondSendsData]) := by
  decide +kernel

end Coturn
