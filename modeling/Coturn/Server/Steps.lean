/-
# What an event does to the relay

The server as a relay (`Server.view`), and every event as moves of the relay. Events that read a
packet of a client do so in a state that `Server.packet` gives; all other events but the timers
leave the relay as it is.
-/
import Coturn.Server.Gate

namespace Coturn

open Ctx Relation Option

variable {sid : ℕ} {ss : Session} {nd : NetData} {ss' : Session} {canResume : Bool}

variable {p : Effect → Prop} {srv srv' srv'' : Server} {c c' : Ctx}

/-! ## The relay of a server -/

/-- What the relay is about. -/
def Server.view (srv : Server) : RelayView where
  ctime := srv.ctime
  sessions := fun sid => (srv.sessionsMap sid).map fun ss => ss.alloc.relay
  owner := srv.mpTable.get

lemma view_sessions_of_some (h : srv.sessionsMap sid = some ss) :
    srv.view.sessions sid = some ss.alloc.relay := by
  simp [Server.view, h]

/-- Sessions are in the map under their ids, and these come from the counter. -/
structure Server.Numbered (srv : Server) : Prop where
  ids : srv.IdsMatch
  bound : ∀ sid, (srv.sessionsMap sid).isSome = true →
    sid ≤ srv.id.toNat * 10 ^ 15 + srv.sessionIdCounter

/-- The relay and the ids of the sessions are the same. -/
structure Server.Same (srv srv' : Server) : Prop where
  cores : ∀ sid, (srv'.sessionsMap sid).map Session.core = (srv.sessionsMap sid).map Session.core
  fixed : srv'.fixed = srv.fixed
  mp : srv'.mpTable = srv.mpTable

lemma numbered_init (id : UInt8) (ctime : UInt32) (realms : RealmTable) :
    (initServer id ctime realms).Numbered where
  ids _ _ h := (nomatch h)
  bound _ h := (nomatch h)

lemma Server.Numbered.of_subset (h : srv.Numbered) (hfixed : srv'.fixed = srv.fixed)
    (hsub : ∀ sid ss', srv'.sessionsMap sid = some ss' →
      ∃ ss, srv.sessionsMap sid = some ss ∧ ss'.id = ss.id) : srv'.Numbered where
  ids sid ss' hss' := by
    obtain ⟨ss, hss, hid⟩ := hsub sid ss' hss'
    rw [hid]
    exact h.ids sid ss hss
  bound sid hsome := by
    obtain ⟨ss', hss'⟩ := isSome_iff_exists.mp hsome
    obtain ⟨ss, hss, -⟩ := hsub sid ss' hss'
    have hbound := h.bound sid (by rw [hss]; rfl)
    rw [show srv'.id = srv.id from congrArg Prod.fst hfixed,
      show srv'.sessionIdCounter = srv.sessionIdCounter from congrArg (fun r => r.2.2) hfixed]
    exact hbound

namespace Server.Same

lemma refl (srv : Server) : srv.Same srv := ⟨fun _ => rfl, rfl, rfl⟩

lemma trans (h : srv.Same srv') (h' : srv'.Same srv'') : srv.Same srv'' :=
  ⟨fun sid => (h'.cores sid).trans (h.cores sid), h'.fixed.trans h.fixed, h'.mp.trans h.mp⟩

lemma core_of_some (h : srv.Same srv') (hss' : srv'.sessionsMap sid = some ss') :
    ∃ ss, srv.sessionsMap sid = some ss ∧ ss'.core = ss.core := by
  have hcore := h.cores sid
  rw [hss'] at hcore
  obtain ⟨ss, hss, heq⟩ := map_eq_some_iff.mp hcore.symm
  exact ⟨ss, hss, heq.symm⟩

lemma numbered (h : srv.Same srv') (hnum : srv.Numbered) : srv'.Numbered := by
  refine hnum.of_subset h.fixed fun sid ss' hss' => ?_
  obtain ⟨ss, hss, hcore⟩ := h.core_of_some hss'
  exact ⟨ss, hss, congrArg Prod.fst hcore⟩

lemma view (h : srv.Same srv') : srv'.view = srv.view := by
  ext1
  · exact congrArg (fun r => r.2.1) h.fixed
  · funext sid
    have hcore := congrArg (Option.map Prod.snd) (h.cores sid)
    simpa [Server.view, Function.comp_def, Session.core] using hcore
  · rw [Server.view, h.mp]
    rfl

end Server.Same

lemma putSession_sessionsMap (srv : Server) (ss : Session) (sid : ℕ) :
    (srv.putSession ss).sessionsMap sid = if sid = ss.id then some ss else srv.sessionsMap sid := rfl

lemma putSession_same (hold : (srv.sessionsMap ss.id).map Session.core = some ss.core) :
    srv.Same (srv.putSession ss) := by
  refine ⟨fun sid => ?_, rfl, rfl⟩
  simp only [Server.putSession]
  split_ifs with hsid
  · rw [hsid, hold]
    rfl
  · rfl

lemma withSession_same {f : Ctx → Ctx} (hids : srv.IdsMatch)
    (hf : ∀ ss, srv.sessionsMap sid = some ss →
      TablesKeep p ⟨srv, ss, .init, []⟩ (f ⟨srv, ss, .init, []⟩)) :
    srv.Same (withSession srv sid f).1 ∧ ∀ e ∈ (withSession srv sid f).2, p e := by
  unfold withSession
  cases hss : srv.sessionsMap sid with
  | none => exact ⟨.refl srv, by simp⟩
  | some ss =>
    have hkeep := hf ss hss
    simp only
    generalize f ⟨srv, ss, .init, []⟩ = c at hkeep
    have hsame : srv.Same c.srv := ⟨hkeep.sessions, hkeep.fixed, hkeep.mp⟩
    have hid : c.ss.id = sid := hkeep.sid.trans (hids sid ss hss)
    refine ⟨hsame.trans (putSession_same ?_), fun e he => ?_⟩
    · rw [hid, hsame.cores, hss]
      exact congrArg some (Prod.ext hkeep.sid hkeep.relay).symm
    · rcases hkeep.mem he with he | he
      · exact absurd he List.not_mem_nil
      · exact he

/-! ## Events that the relay does not notice -/

lemma loseRelaySocket_relay (family : ℕ) (a : Allocation) :
    (loseRelaySocket family a).relay = a.relay := by
  simp only [loseRelaySocket, Allocation.setRelaySession, Allocation.getRelaySession]
  split_ifs <;> simp [Allocation.relay, Function.comp_def]

lemma peerInputHandler_calm {α : Type} {view : Session → α} (cfg : Config) (env : Env) (family : ℕ)
    (nd : NetData) (c : Ctx)
    (hp : ∀ buf, c.ss.alloc.isValid = true →
      (cfg.serverRelay = false →
        (allocationGetPermission c.ss.alloc.toAddrTables nd.srcAddr).isSome = true) →
      p (.relayToClient c.ss.id nd.srcAddr buf)) :
    Calm view p c (peerInputHandler cfg env family nd c) := by
  unfold peerInputHandler
  split
  · split
    · exact .refl c
    split
    · exact .refl c
    next hvalid =>
    split
    · exact .refl c
    next hpermission =>
    split
    · exact .refl c
    · refine .emit (hp _ (by simpa using hvalid) fun hrelay => ?_)
      simpa [hrelay, ← isSome_iff_ne_none] using hpermission
  · exact .refl c

lemma tcpConnectionClosed_frame (handle : ℕ) (c : Ctx) :
    TablesFrame p c (tcpConnectionClosed handle c) := by
  unfold tcpConnectionClosed
  split
  · exact (Frame.refl c).tablesFrame
  · exact TablesFrame.of_log (l := []) (by simp) (by simp) rfl rfl rfl rfl

lemma tcpConnectCompleted_frame (cfg : Config) (env : Env) (handle : ℕ) (success : Bool) (c : Ctx) :
    TablesFrame Effect.Message c (tcpConnectCompleted cfg env handle success c) := by
  unfold tcpConnectCompleted
  split
  · exact (Frame.refl c).tablesFrame
  · simp only
    split_ifs
    · exact (Frame.refl c).tablesFrame
    all_goals first
      | exact TablesFrame.of_log (l := [_]) rfl (by simp [Effect.Message]) rfl rfl rfl rfl
      | exact TablesFrame.of_log (l := []) (by simp) (by simp) rfl rfl rfl rfl

lemma tcpPeerAccept_frame (cfg : Config) (env : Env) (peerAddr : IoaAddr) (c : Ctx) :
    TablesFrame Effect.Message c (tcpPeerAccept cfg env peerAddr c) := by
  unfold tcpPeerAccept
  simp only
  split_ifs
  iterate 3 exact (Frame.refl c).tablesFrame
  all_goals first
    | exact TablesFrame.of_log (l := [_]) rfl (by simp [Effect.Message]) rfl rfl rfl rfl
    | exact TablesFrame.of_log (l := []) (by simp) (by simp) rfl rfl rfl rfl

/-! ## Moves -/

/-- From `srv` to `srv'` the relay has made moves. -/
structure Server.Moves (cfg : Config) (who : ℕ) (G B : IoaAddr → Prop) (srv srv' : Server) :
    Prop where
  moves : ReflTransGen (RelayMove cfg who G B) srv.view srv'.view
  numbered : srv.Numbered → srv'.Numbered

variable {cfg : Config} {who : ℕ} {G B : IoaAddr → Prop}

lemma Server.Same.toMoves (h : srv.Same srv') : srv.Moves cfg who G B srv' :=
  ⟨by rw [h.view], h.numbered⟩

lemma Server.Moves.trans (h : srv.Moves cfg who G B srv') (h' : srv'.Moves cfg who G B srv'') :
    srv.Moves cfg who G B srv'' :=
  ⟨h.moves.trans h'.moves, fun hnum => h'.numbered (h.numbered hnum)⟩

/-! ## The end of a session -/

lemma removeSession_parts (srv : Server) (ss : Session) :
    (removeSession srv ss).sessionsMap = (fun id => if id = ss.id then none else srv.sessionsMap id) ∧
      (removeSession srv ss).fixed = srv.fixed ∧ (removeSession srv ss).mpTable = srv.mpTable := by
  obtain ⟨hmap, hfixed, hmp⟩ :=
    Server.parts_of_apart (deleteSessionFromMobileMap_same srv ss).1
  refine ⟨?_, hfixed, hmp⟩
  funext id
  simp only [removeSession, forgetTcs, hmap]

/-- The session is taken out, after its entries have been taken out in multiplex-peer mode. -/
lemma removeSession_moves (realms : RealmTable) (mpTable : UrAddrMap ℕ) (hid : ss'.id = ss.id)
    (hmp : ∀ key other, mpTable.get key = some other ↔ srv.mpTable.get key = some other ∧
      ¬ (cfg.multiplexPeerMode = true ∧ other = ss.id)) :
    (srv.putSession ss).Moves cfg who G B
      (removeSession { srv with realms := realms, mpTable := mpTable } ss') := by
  obtain ⟨hmap, hfixed, htable⟩ :=
    removeSession_parts { srv with realms := realms, mpTable := mpTable } ss'
  generalize removeSession { srv with realms := realms, mpTable := mpTable } ss' = srv₁
    at hmap hfixed htable
  rw [hid] at hmap
  have hview : srv₁.view = { (srv.putSession ss).view.put ss.id none with owner := mpTable.get } := by
    ext1
    · exact congrArg (fun r => r.2.1) hfixed
    · funext sid
      simp only [Server.view, hmap, RelayView.put, Function.update_apply, Server.putSession]
      split_ifs <;> rfl
    · rw [Server.view, htable]
  refine ⟨.single ?_, fun hnum => hnum.of_subset hfixed fun sid ss₁ hss₁ => ?_⟩
  · rw [hview]
    exact .closed (srv.putSession ss).view ss.id mpTable.get hmp
  · rw [hmap] at hss₁
    simp only at hss₁
    split_ifs at hss₁ with hsid
    exact ⟨ss₁, (if_neg hsid).trans hss₁, rfl⟩

lemma shutdownClientConnection_moves (force : Bool) (ss : Session) :
    (srv.putSession ss).Moves cfg who G B (shutdownClientConnection cfg force srv ss) := by
  have hquota := Session.tenancy_of_unchecked (decQuota_unchecked cfg srv.realms ss)
  unfold shutdownClientConnection
  simp only
  generalize decQuota cfg srv.realms ss = r at hquota
  have hr : (decBps r.2).id = ss.id ∧ (decBps r.2).core = ss.core :=
    ⟨congrArg Prod.fst hquota, (core_of_tenancy hquota :)⟩
  generalize decBps r.2 = s at hr
  obtain ⟨hid, hs⟩ := hr
  split_ifs with hstay hmp
  · refine Server.Same.toMoves ⟨fun sid => ?_, rfl, rfl⟩
    by_cases hsid : sid = ss.id
    · rw [putSession_sessionsMap, putSession_sessionsMap, if_pos (hsid.trans hid.symm), if_pos hsid]
      exact congrArg some hs
    · rw [putSession_sessionsMap, putSession_sessionsMap, if_neg (hid ▸ hsid), if_neg hsid]
  · refine removeSession_moves r.1 _ hid fun key other => ?_
    simp [UrAddrMap.get_delWhere, mpDeregisterCb, hmp, hid]
  · refine removeSession_moves r.1 srv.mpTable hid fun key other => ?_
    simp [hmp]

lemma shutdownClientConnection_moves_of_some (force : Bool) (hids : srv.IdsMatch)
    (hss : srv.sessionsMap sid = some ss) :
    srv.Moves cfg who G B (shutdownClientConnection cfg force srv ss) := by
  have hput : srv.Same (srv.putSession ss) := by
    refine putSession_same ?_
    rw [hids sid ss hss, hss]
    rfl
  exact hput.toMoves.trans (shutdownClientConnection_moves force ss)

lemma closeIfNecessary_moves (sid : ℕ) (hids : srv.IdsMatch) :
    srv.Moves cfg who G B (closeIfNecessary cfg sid srv) := by
  unfold closeIfNecessary
  split
  · exact (Server.Same.refl srv).toMoves
  · next ss hss =>
    split_ifs
    · exact shutdownClientConnection_moves_of_some false hids hss
    · exact (Server.Same.refl srv).toMoves

lemma clientToBeAllocatedTimeout_moves (sid : ℕ) (hids : srv.IdsMatch) :
    srv.Moves cfg who G B (clientToBeAllocatedTimeout cfg sid srv) := by
  unfold clientToBeAllocatedTimeout
  cases hss : srv.sessionsMap sid with
  | none => exact (Server.Same.refl srv).toMoves
  | some ss =>
    simp only
    split_ifs
    · exact shutdownClientConnection_moves_of_some true hids hss
    · exact (Server.Same.refl srv).toMoves

lemma cancelSession_moves (sid : ℕ) (hids : srv.IdsMatch) :
    srv.Moves cfg who G B
      ((srv.sessionsMap sid).elim srv (shutdownClientConnection cfg false srv)) := by
  cases hss : srv.sessionsMap sid with
  | none => exact (Server.Same.refl srv).toMoves
  | some ss => exact shutdownClientConnection_moves_of_some false hids hss

/-! ## Timers -/

lemma sweepSession_relay (ctime : UInt32) (ss : Session) :
    (sweepSession ctime ss).alloc.relay = ss.alloc.relay.sweep ctime ∧
      (sweepSession ctime ss).id = ss.id := by
  unfold sweepSession RelaySession.sweep
  by_cases hvalid : ss.alloc.isValid = true
  · rw [if_pos hvalid, if_pos (show ss.alloc.relay.valid = true from hvalid)]
    exact ⟨rfl, rfl⟩
  · rw [if_neg hvalid, if_neg (show ¬ ss.alloc.relay.valid = true from hvalid)]
    exact ⟨rfl, rfl⟩

lemma mem_sweptAddrs {ctime : UInt32} {addr : IoaAddr} :
    addr ∈ sweptAddrs ctime ss ↔ ss.alloc.isValid = true ∧ ∃ r info,
      ss.alloc.toAddrTables.LivePerm r info ∧ turnTimeBefore info.expirationTime ctime = true ∧
        info.addr = addr := by
  unfold sweptAddrs
  split_ifs with hvalid
  · simp only [hvalid, true_and, List.mem_map, List.mem_filter, SlotTable.mem_slots,
      Bool.and_eq_true]
    constructor
    · rintro ⟨info, ⟨⟨r, hr⟩, hlive, hbefore⟩, haddr⟩
      exact ⟨r, info, ⟨hr, hlive⟩, hbefore, haddr⟩
    · rintro ⟨r, info, ⟨hr, hlive⟩, hbefore, haddr⟩
      exact ⟨info, ⟨⟨r, hr⟩, hlive, hbefore⟩, haddr⟩
  · simp [hvalid]

lemma sweptPeer_iff (ctime : UInt32) (hids : srv.IdsMatch) (key : IoaAddr) (sid : ℕ) :
    sweptPeer ctime srv key sid = true ↔ srv.view.Swept ctime key sid := by
  simp only [sweptPeer, any_eq_true, List.any_eq_true, mpDeregisterCb, all_some]
  constructor
  · rintro ⟨ss, hss, addr, haddr, hkey⟩
    obtain ⟨hvalid, r, info, hr, hbefore, rfl⟩ := mem_sweptAddrs.mp haddr
    simp only [Bool.and_eq_true] at hkey
    exact ⟨ss.alloc.relay, r, info, view_sessions_of_some hss, hvalid, hr, hbefore, hkey.2⟩
  · rintro ⟨rs, r, info, hrs, hvalid, hr, hbefore, hkey⟩
    obtain ⟨ss, hss, rfl⟩ := map_eq_some_iff.mp hrs
    refine ⟨ss, hss, info.addr, mem_sweptAddrs.mpr ⟨hvalid, r, info, hr, hbefore, rfl⟩, ?_⟩
    simp [hids sid ss hss, hkey]

lemma timerTimeoutHandler_ticks (cfg : Config) (ctime : UInt32) (hids : srv.IdsMatch) :
    srv.view.Ticks cfg ctime (timerTimeoutHandler cfg ctime srv).view where
  time := rfl
  sessions sid := by
    simp [Server.view, timerTimeoutHandler, Function.comp_def, (sweepSession_relay ctime _).1]
  owner key other := by
    simp only [Server.view, timerTimeoutHandler]
    split_ifs with hmp
    · rw [← Server.view, ← sweptPeer_iff ctime hids, UrAddrMap.get_delWhere]
      simp [hmp]
    · simp [hmp]

lemma timerTimeoutHandler_numbered (cfg : Config) (ctime : UInt32) (hnum : srv.Numbered) :
    (timerTimeoutHandler cfg ctime srv).Numbered := by
  refine ⟨fun sid ss' hss' => ?_, fun sid hsid => ?_⟩
  · obtain ⟨ss, hss, rfl⟩ := map_eq_some_iff.mp hss'
    rw [(sweepSession_relay ctime ss).2]
    exact hnum.ids sid ss hss
  · refine hnum.bound sid ?_
    simpa [timerTimeoutHandler] using hsid

/-! ## Allocation timeout -/

lemma relay_socket (a : Allocation) (family : ℕ) :
    a.relay.socket family = (a.getRelaySocket family).map fun s => { s with toBeClosed := false } := by
  unfold RelaySession.socket Allocation.getRelaySocket Allocation.getRelaySession
  split_ifs <;> rfl

lemma isMultiplexPeerUdpRelay_iff (cfg : Config) (a : Allocation) (family : ℕ) :
    isMultiplexPeerUdpRelay cfg (a.getRelaySocket family) = true ↔
      cfg.multiplexPeerMode = true ∧ a.relay.SharedFor family := by
  unfold isMultiplexPeerUdpRelay RelaySession.SharedFor
  rw [relay_socket]
  cases a.getRelaySocket family with
  | none => simp
  | some s => simp

variable {family : ℕ} {i : Input}

lemma family_of_placed {a : Allocation} (hplaced : a.relay.Placed) {s : RelayIoaSocket}
    (hs : a.getRelaySocket family = some s) : s.family = if family = 10 then 10 else 2 := by
  unfold Allocation.getRelaySocket Allocation.getRelaySession at hs
  split_ifs at hs ⊢
  · exact hplaced.ipv6 { s with toBeClosed := false } (by rw [Allocation.relay, hs]; rfl)
  · exact hplaced.ipv4 { s with toBeClosed := false } (by rw [Allocation.relay, hs]; rfl)

lemma setRelaySession_relay_of_none (a : Allocation) {family' : ℕ} {r : RelayEndpointSession}
    (hr : r.s = none) (hfamily : family' = if family = 10 then 10 else 2) :
    (a.setRelaySession family r).relay = a.relay.clear family' := by
  unfold Allocation.setRelaySession RelaySession.clear
  subst hfamily
  split_ifs <;> simp_all [Allocation.relay]

lemma expired_moves (hss : srv.sessionsMap ss.id = some ss) (hid : ss'.id = ss.id)
    (hfamily : family = 2 ∨ family = 10) (hrelay : ss'.alloc.relay = ss.alloc.relay.clear family)
    (hmap : srv'.sessionsMap = srv.sessionsMap) (hfixed : srv'.fixed = srv.fixed)
    (hmp : ∀ key other, srv'.mpTable.get key = some other ↔ srv.mpTable.get key = some other ∧
      ¬ (cfg.multiplexPeerMode = true ∧ ss.alloc.relay.SharedFor family ∧ other = ss.id ∧
      key.family = family)) : srv.Moves cfg who G B (srv'.putSession ss') := by
  have hview : (srv'.putSession ss').view =
      { srv.view.put ss.id (some (ss.alloc.relay.clear family)) with
        owner := srv'.mpTable.get } := by
    ext1
    · exact congrArg (fun r => r.2.1) hfixed
    · funext sid
      simp only [Server.view, hmap, RelayView.put, Function.update_apply, Server.putSession, hid]
      split_ifs
      · exact congrArg some hrelay
      · rfl
    · rfl
  refine ⟨.single ?_, fun hnum => hnum.of_subset hfixed fun sid ss₁ hss₁ => ?_⟩
  · rw [hview]
    exact .expired srv.view ss.id ss.alloc.relay family _ (view_sessions_of_some hss) hfamily hmp
  · simp only [Server.putSession, hmap] at hss₁
    split_ifs at hss₁ with hsid
    · obtain rfl := Option.some.inj hss₁
      exact ⟨ss, by rw [hsid, hid]; exact hss, hid⟩
    · exact ⟨ss₁, hss₁, rfl⟩

lemma sharedFor_place (rs : RelaySession) (family : ℕ) :
    rs.SharedFor (if family = 10 then 10 else 2) ↔ rs.SharedFor family := by
  unfold RelaySession.SharedFor RelaySession.socket
  split_ifs <;> simp_all

/-- The relay socket of a family is given up, and with the last one the session. -/
lemma allocationTimeout_moves (sid family : ℕ) (hids : srv.IdsMatch)
    (hplaced : ∀ ss, srv.sessionsMap sid = some ss → ss.alloc.relay.Placed) :
    srv.Moves cfg who G B (allocationTimeout cfg sid family srv) := by
  unfold allocationTimeout
  split
  · exact (Server.Same.refl srv).toMoves
  next ss hss =>
  split
  · exact (Server.Same.refl srv).toMoves
  next s hs =>
  obtain rfl := hids sid ss hss
  have hfamily := family_of_placed (hplaced ss hss) hs
  have hshared := isMultiplexPeerUdpRelay_iff cfg ss.alloc family
  rw [hs, ← sharedFor_place, ← hfamily] at hshared
  simp only
  generalize hr : expireRelay cfg ss.id family s srv ss = r
  have hmove : srv.Moves cfg who G B (r.1.putSession r.2) := by
    rw [← hr, expireRelay]
    split_ifs with hmp
    · rw [hshared] at hmp
      refine expired_moves hss rfl s.inet
        (setRelaySession_relay_of_none ss.alloc rfl hfamily)
        (by simp only [mpDeregisterSessionPeers]) (by simp only [Server.fixed, mpDeregisterSessionPeers])
        fun key other => ?_
      have hne : s.family ≠ 0 := by rcases s.inet with h | h <;> omega
      simp [mpDeregisterSessionPeers, UrAddrMap.get_delWhere, mpDeregisterCb, hmp.1, hmp.2, hne,
        imp_iff_not_or]
    · rw [hshared] at hmp
      have hplace : s.family = if s.family = 10 then 10 else 2 := by
        rcases s.inet with h | h <;> simp [h]
      refine expired_moves hss rfl s.inet ?_ rfl rfl fun key other => ?_
      · exact setRelaySession_relay_of_none
          { ss.alloc with tcs := clearTcs (fun tc => tc.peerFamily = some s.family) ss.alloc.tcs }
          rfl hplace
      · constructor
        · intro hkey
          exact ⟨hkey, fun h => hmp ⟨h.1, h.2.1⟩⟩
        · exact And.left
  split_ifs
  · exact hmove.trans (shutdownClientConnection_moves false r.2)
  · exact hmove

/-! ## Packets of clients -/

lemma Ctx.TablesStep.moves (h : TablesStep p cfg G B c c')
    (hold : (c.srv.sessionsMap c.ss.id).map Session.core = some c.ss.core)
    (hcore : ss'.core = c'.ss.core) : c.srv.Moves cfg c.ss.id G B (c'.srv.putSession ss') := by
  have hid : ss'.id = c.ss.id := (congrArg Prod.fst hcore).trans h.sid
  have hrelay : ss'.alloc.relay = c'.ss.alloc.relay := congrArg Prod.snd hcore
  obtain ⟨ss, hss, hsscore⟩ := map_eq_some_iff.mp hold
  have hview : (c'.srv.putSession ss').view =
      { c.srv.view.put c.ss.id (some c'.ss.alloc.relay) with owner := c'.srv.mpTable.get } := by
    ext1
    · exact h.ctime
    · funext sid
      have hother := congrArg (Option.map Prod.snd) (h.sessions sid)
      simp only [Server.view, RelayView.put, Function.update_apply, putSession_sessionsMap, hid]
      split_ifs
      · exact congrArg some hrelay
      · simpa [Function.comp_def, Session.core] using hother
    · rfl
  have hrs : c.srv.view.sessions c.ss.id = some c.ss.alloc.relay := by
    rw [view_sessions_of_some hss]
    exact congrArg some (congrArg Prod.snd hsscore)
  refine ⟨.single ?_, fun hnum => hnum.of_subset h.fixed fun sid ss₁ hss₁ => ?_⟩
  · rw [hview]
    cases hvalid : c.ss.alloc.isValid with
    | true =>
      have hbusy := h.busy hvalid
      rw [hbusy]
      refine .request c.srv.view c.ss.alloc.relay c'.ss.alloc.toAddrTables _ hrs hvalid
        (fun hcons => (h.request hcons).mono (fun _ => id) ?_) h.registers
      rintro addr ⟨hB, hlisted⟩
      refine ⟨hB, fun hmp hshared => hlisted ?_⟩
      rw [isMultiplexPeerUdpRelay_iff, hbusy]
      exact ⟨hmp, hshared⟩
    | false =>
      obtain ⟨htables, hplaced, hmp⟩ := h.idle hvalid
      rw [hmp]
      exact .allocated c.srv.view c.ss.id c.ss.alloc.relay c'.ss.alloc.relay hrs hvalid htables
        hplaced
  · rw [putSession_sessionsMap] at hss₁
    split_ifs at hss₁ with hsid
    · obtain rfl := Option.some.inj hss₁
      refine ⟨ss, by rw [hsid, hid]; exact hss, ?_⟩
      rw [hid]
      exact (congrArg Prod.fst hsscore).symm
    · have hother := h.sessions sid
      rw [hss₁] at hother
      obtain ⟨ss₀, hss₀, hcore₀⟩ := map_eq_some_iff.mp hother.symm
      exact ⟨ss₀, hss₀, (congrArg Prod.fst hcore₀).symm⟩

/-- The packet for `read_client_connection`, whether it may be resumed, and the state in which it is
read. -/
def Server.packet (srv : Server) (i : Input) : Option (NetData × Bool × Ctx) :=
  match i.ev with
  | .openSession s (some nd) canResume =>
    let r := createNewSs i.cfg i.env s srv
    (r.2.sessionsMap r.1).map fun ss => (nd, canResume, ⟨r.2, ss, .init, []⟩)
  | .clientInput sid nd canResume =>
    (srv.sessionsMap sid).map fun ss => (nd, canResume, ⟨srv, ss, .init, []⟩)
  | .resume n answer =>
    srv.pending[n]?.bind fun l =>
      let srv := srv.unpend n
      ((srv.sessionsMap l.sid).filter fun ss => ss.clientSocket.isSome).map fun ss =>
        let c : Ctx := ⟨srv, ss, .init, []⟩
        (l.nd, false, answer.elim c fun k => c.account (acceptKey i.cfg k c.srv.realms c.ss))
  | _ => none

/-- The client socket of a session that is to be closed is to be closed too. -/
def Session.markClosed (ss : Session) : Session :=
  { ss with clientSocket := ss.clientSocket.map fun s => { s with toBeClosed := true } }

lemma Server.Numbered.fresh (hnum : srv.Numbered) :
    srv.sessionsMap (srv.id.toNat * 10 ^ 15 + (srv.sessionIdCounter + 1)) = none := by
  by_contra hsome
  have hbound := hnum.bound _ (isSome_iff_ne_none.mpr hsome)
  omega

lemma createNewSs_parts (cfg : Config) (env : Env) (s : IoaSocket) (srv : Server) :
    ∃ ss, (createNewSs cfg env s srv).1 = srv.id.toNat * 10 ^ 15 + (srv.sessionIdCounter + 1) ∧
      ss.id = srv.id.toNat * 10 ^ 15 + (srv.sessionIdCounter + 1) ∧ ss.alloc = initAllocation ∧
      (∀ sid, (createNewSs cfg env s srv).2.sessionsMap sid =
        if sid = ss.id then some ss else srv.sessionsMap sid) ∧
      (createNewSs cfg env s srv).2.fixed = (srv.id, srv.ctime, srv.sessionIdCounter + 1) ∧
      (createNewSs cfg env s srv).2.mpTable = srv.mpTable := by
  unfold createNewSs
  simp only
  generalize hss : (Session.mk _ _ _ _ _ _ _ _ _ _ _ _ _ _ _ _ _ _ _ _ _ _ _ _) = ss
  generalize hsrv : ({ srv with
    sessionIdCounter := srv.sessionIdCounter + 1
    nextHandle := srv.nextHandle + 1 } : Server) = srv₁
  obtain ⟨hapart, hsame⟩ := putSessionIntoMobileMap_same cfg env srv₁ ss
  obtain ⟨hmap, hfixed, hmp⟩ := Server.parts_of_apart hapart
  obtain ⟨hsame, halloc⟩ := Session.same_of_tenancy hsame
  have hid : (putSessionIntoMobileMap cfg env srv₁ ss).2.id =
      srv.id.toNat * 10 ^ 15 + (srv.sessionIdCounter + 1) := by
    rw [hsame, ← hss]
  refine ⟨(putSessionIntoMobileMap cfg env srv₁ ss).2, trivial, hid, ?_, fun sid => ?_, ?_, ?_⟩
  · rw [halloc, ← hss]
  · rw [putSession_sessionsMap, hmap, ← hsrv]
  · exact hfixed.trans (by rw [← hsrv]; rfl)
  · exact hmp.trans (by rw [← hsrv])

lemma createNewSs_numbered (cfg : Config) (env : Env) (s : IoaSocket) (hnum : srv.Numbered) :
    (createNewSs cfg env s srv).2.Numbered := by
  obtain ⟨ss, -, hid, -, hmap, hfixed, -⟩ := createNewSs_parts cfg env s srv
  generalize (createNewSs cfg env s srv).2 = srv₁ at hmap hfixed
  have hids : srv₁.id = srv.id := congrArg Prod.fst hfixed
  have hcounter : srv₁.sessionIdCounter = srv.sessionIdCounter + 1 :=
    congrArg (fun r => r.2.2) hfixed
  refine ⟨fun sid ss₁ hss₁ => ?_, fun sid hsid => ?_⟩
  · rw [hmap] at hss₁
    split_ifs at hss₁ with hsid
    · rw [hsid, ← Option.some.inj hss₁]
    · exact hnum.ids sid ss₁ hss₁
  · rw [hids, hcounter]
    rw [hmap] at hsid
    split_ifs at hsid with heq
    · rw [heq, hid]
    · have hbound := hnum.bound sid hsid
      omega

lemma createNewSs_moves (cfg' : Config) (env : Env) (s : IoaSocket) (hnum : srv.Numbered) :
    srv.Moves cfg who G B (createNewSs cfg' env s srv).2 := by
  refine ⟨.single ?_, fun _ => createNewSs_numbered cfg' env s hnum⟩
  obtain ⟨ss, -, hid, halloc, hmap, hfixed, hmp⟩ := createNewSs_parts cfg' env s srv
  generalize (createNewSs cfg' env s srv).2 = srv₁ at hmap hfixed hmp
  have hfresh : srv.sessionsMap ss.id = none := by rw [hid]; exact hnum.fresh
  have hinit : ss.alloc.relay = .init := by rw [halloc]; rfl
  have hview : srv₁.view = srv.view.put ss.id (some .init) := by
    ext1
    · exact congrArg (fun r => r.2.1) hfixed
    · funext sid
      simp only [Server.view, hmap, RelayView.put, Function.update_apply]
      split_ifs
      · exact congrArg some hinit
      · rfl
    · rw [Server.view, hmp]
      rfl
  rw [hview]
  refine .opened srv.view ss.id ?_
  simp [Server.view, hfresh]

/-- The events that bring a packet, with the state in which the packet is read. -/
inductive Server.PacketOf (srv : Server) (cfg : Config) (env : Env) :
    Event → NetData → Bool → Ctx → Prop
  | opened {s : IoaSocket} {nd : NetData} {canResume : Bool} {ss : Session}
    (hss : (createNewSs cfg env s srv).2.sessionsMap (createNewSs cfg env s srv).1 = some ss) :
    srv.PacketOf cfg env (.openSession s (some nd) canResume) nd canResume
      ⟨(createNewSs cfg env s srv).2, ss, .init, []⟩
  | input {sid : ℕ} {nd : NetData} {canResume : Bool} {ss : Session}
    (hss : srv.sessionsMap sid = some ss) :
    srv.PacketOf cfg env (.clientInput sid nd canResume) nd canResume ⟨srv, ss, .init, []⟩
  | resumed {n : ℕ} {answer : Option KeyAnswer} {l : PendingLookup} {ss : Session}
    (hl : srv.pending[n]? = some l) (hss : srv.sessionsMap l.sid = some ss)
    (hsocket : ss.clientSocket.isSome = true) :
    srv.PacketOf cfg env (.resume n answer) l.nd false
      (answer.elim (⟨srv.unpend n, ss, .init, []⟩ : Ctx)
        fun k => Ctx.account ⟨srv.unpend n, ss, .init, []⟩
          (acceptKey cfg k srv.realms ss))

lemma packet_of {cfg : Config} {env : Env} {ev : Event}
    (h : srv.packet ⟨cfg, env, ev⟩ = some (nd, canResume, c)) :
    srv.PacketOf cfg env ev nd canResume c := by
  cases ev with
  | openSession s nd' canResume' =>
    cases nd' with
    | none => cases h
    | some nd' =>
      obtain ⟨ss, hss, heq⟩ := map_eq_some_iff.mp h
      cases heq
      exact .opened hss
  | clientInput sid nd' canResume' =>
    obtain ⟨ss, hss, heq⟩ := map_eq_some_iff.mp h
    cases heq
    exact .input hss
  | resume n answer =>
    obtain ⟨l, hl, h⟩ := bind_eq_some_iff.mp h
    obtain ⟨ss, hss, heq⟩ := map_eq_some_iff.mp h
    obtain ⟨hss, hsocket⟩ := filter_eq_some_iff.mp hss
    cases heq
    exact .resumed hl hss hsocket
  | _ => cases h

/-- The state in which a packet is read: a session of the map, or a new one. -/
structure Server.PacketState (srv : Server) (c : Ctx) : Prop where
  numbered : c.srv.Numbered
  moves : ∀ cfg who G B, srv.Moves cfg who G B c.srv
  core : (c.srv.sessionsMap c.ss.id).map Session.core = some c.ss.core
  known : (srv.sessionsMap c.ss.id).map Session.core = some c.ss.core ∨
    (srv.sessionsMap c.ss.id = none ∧ c.ss.alloc = initAllocation)
  log : c.log = []
  reply : c.reply = .init
  ctime : c.srv.ctime = srv.ctime
  mp : c.srv.mpTable = srv.mpTable

lemma packetState_of_some (hnum : srv.Numbered) (hss : srv.sessionsMap sid = some ss)
    (hsame : srv.Same c.srv) (htenancy : c.ss.tenancy = ss.tenancy) (hlog : c.log = [])
    (hreply : c.reply = .init) : srv.PacketState c := by
  have hold : (srv.sessionsMap c.ss.id).map Session.core = some c.ss.core := by
    rw [core_of_tenancy htenancy, (Session.same_of_tenancy htenancy).1, hnum.ids sid ss hss, hss]
    rfl
  exact ⟨hsame.numbered hnum, fun _ _ _ _ => hsame.toMoves, (hsame.cores _).trans hold,
    Or.inl hold, hlog, hreply, congrArg (fun r => r.2.1) hsame.fixed, hsame.mp⟩

lemma packet_state (hnum : srv.Numbered) (h : srv.packet i = some (nd, canResume, c)) :
    srv.PacketState c := by
  obtain ⟨cfg, env, ev⟩ := i
  cases packet_of h with
  | @opened s nd canResume ss hss =>
    obtain ⟨ss', hsid, hid, halloc, hmap, hfixed, hmp⟩ := createNewSs_parts cfg env s srv
    obtain rfl : ss' = ss := by
      rw [hsid, ← hid, hmap, if_pos rfl] at hss
      exact Option.some.inj hss
    refine ⟨createNewSs_numbered cfg env s hnum,
      fun _ _ _ _ => createNewSs_moves cfg env s hnum, ?_, Or.inr ⟨?_, halloc⟩, rfl, rfl,
      congrArg (fun r => r.2.1) hfixed, hmp⟩
    · simp only
      rw [hmap, if_pos rfl]
      rfl
    · rw [hid]
      exact hnum.fresh
  | input hss => exact packetState_of_some hnum hss (.refl srv) rfl rfl rfl
  | @resumed n answer l ss hl hss hsocket =>
    cases answer with
    | none => exact packetState_of_some hnum hss ⟨fun _ => rfl, rfl, rfl⟩ rfl rfl rfl
    | some k =>
      exact packetState_of_some hnum hss ⟨fun _ => rfl, rfl, rfl⟩
        (Session.tenancy_of_unchecked (acceptKey_unchecked cfg k srv.realms ss)) rfl rfl

/-- How an event ends that has read a packet: the session is written back, and closed if
necessary. -/
def Ctx.Ends (cfg : Config) (sid : ℕ) (c : Ctx) (r : Server × List Effect) : Prop :=
  r.2 = c.log ∧ ∃ ss', (ss' = c.ss ∨ ss' = c.ss.markClosed) ∧
    (r.1 = c.srv.putSession ss' ∨ r.1 = closeIfNecessary cfg sid (c.srv.putSession ss'))

def Ctx.Leaves (c : Ctx) (ss' : Session) : Prop :=
  ss' = c.ss ∨ (c.ss.toBeClosed = true ∧ ss' = c.ss.markClosed)

lemma clientInputHandler_parts (cfg : Config) (env : Env) (nd : NetData) (canResume : Bool)
    (c : Ctx) :
    (clientInputHandler cfg env nd canResume c).log =
        (readClientConnection cfg env nd canResume c).log ∧
      (clientInputHandler cfg env nd canResume c).srv =
        (readClientConnection cfg env nd canResume c).srv ∧
      (readClientConnection cfg env nd canResume c).Leaves
        (clientInputHandler cfg env nd canResume c).ss := by
  simp only [clientInputHandler]
  split_ifs with hclosed
  · exact ⟨rfl, rfl, Or.inr ⟨hclosed, rfl⟩⟩
  · exact ⟨rfl, rfl, Or.inl rfl⟩

lemma withSession_of_some (f : Ctx → Ctx) (hss : srv.sessionsMap sid = some ss) :
    withSession srv sid f = ((f ⟨srv, ss, .init, []⟩).srv.putSession (f ⟨srv, ss, .init, []⟩).ss,
      (f ⟨srv, ss, .init, []⟩).log) := by
  rw [withSession, hss]

lemma withSession_clientInputHandler (cfg : Config) (env : Env) (nd : NetData) (canResume : Bool)
    (hss : srv.sessionsMap sid = some ss) :
    ∃ ss', (readClientConnection cfg env nd canResume ⟨srv, ss, .init, []⟩).Leaves ss' ∧
      withSession srv sid (clientInputHandler cfg env nd canResume) =
        ((readClientConnection cfg env nd canResume ⟨srv, ss, .init, []⟩).srv.putSession ss',
          (readClientConnection cfg env nd canResume ⟨srv, ss, .init, []⟩).log) := by
  obtain ⟨hlog, hsrv, hss'⟩ := clientInputHandler_parts cfg env nd canResume ⟨srv, ss, .init, []⟩
  refine ⟨_, hss', ?_⟩
  rw [withSession_of_some _ hss, hlog, hsrv]

lemma resumeProcessing_of_some {cfg : Config} {env : Env} {n : ℕ} {answer : Option KeyAnswer}
    {l : PendingLookup} (hl : srv.pending[n]? = some l) (hss : srv.sessionsMap l.sid = some ss)
    (hsocket : ss.clientSocket.isNone = false)
    (hc : c = answer.elim (⟨srv.unpend n, ss, .init, []⟩ : Ctx)
      fun k => Ctx.account ⟨srv.unpend n, ss, .init, []⟩
        (acceptKey cfg k srv.realms ss)) :
    resumeProcessing cfg env n answer srv =
      (closeIfNecessary cfg l.sid ((readClientConnection cfg env l.nd false c).srv.putSession
        (readClientConnection cfg env l.nd false c).ss),
        (readClientConnection cfg env l.nd false c).log) := by
  have hss' : (srv.unpend n).sessionsMap l.sid = some ss := hss
  rw [resumeProcessing, hl]
  simp only
  rw [withSession_of_some _ hss', hsocket, hc]
  rfl

/-- The end of an event that reads a packet, with the session that is written back. -/
lemma handle_packet_leaves (hnum : srv.Numbered) (h : srv.packet i = some (nd, canResume, c)) :
    (srv.handle i).2 = (readClientConnection i.cfg i.env nd canResume c).log ∧
      ∃ ss', (readClientConnection i.cfg i.env nd canResume c).Leaves ss' ∧
        ((srv.handle i).1 =
            (readClientConnection i.cfg i.env nd canResume c).srv.putSession ss' ∨
          (srv.handle i).1 = closeIfNecessary i.cfg c.ss.id
            ((readClientConnection i.cfg i.env nd canResume c).srv.putSession ss')) := by
  obtain ⟨cfg, env, ev⟩ := i
  cases packet_of h with
  | @opened s nd canResume ss hss =>
    obtain ⟨ss', hss', heq⟩ := withSession_clientInputHandler cfg env nd canResume hss
    have hhandle : srv.handle ⟨cfg, env, .openSession s (some nd) canResume⟩ =
        withSession (createNewSs cfg env s srv).2 (createNewSs cfg env s srv).1
          (clientInputHandler cfg env nd canResume) := rfl
    rw [hhandle, heq]
    exact ⟨rfl, ss', hss', Or.inl rfl⟩
  | @input sid nd canResume ss hss =>
    obtain ⟨ss', hss', heq⟩ := withSession_clientInputHandler cfg env nd canResume hss
    obtain rfl := hnum.ids sid ss hss
    have hhandle : srv.handle ⟨cfg, env, .clientInput ss.id nd canResume⟩ =
        (closeIfNecessary cfg ss.id
          (withSession srv ss.id (clientInputHandler cfg env nd canResume)).1,
          (withSession srv ss.id (clientInputHandler cfg env nd canResume)).2) := rfl
    rw [hhandle, heq]
    exact ⟨rfl, ss', hss', Or.inr rfl⟩
  | @resumed n answer l ss hl hss hsocket =>
    generalize hc : answer.elim _ _ = c
    have hid : c.ss.id = l.sid := by
      rw [← hc]
      cases answer with
      | none => exact hnum.ids l.sid ss hss
      | some k =>
        exact (Session.same_of_unchecked (acceptKey_unchecked cfg k srv.realms ss)).1.trans
          (hnum.ids l.sid ss hss)
    have hsome : ss.clientSocket.isNone = false := by
      rw [isNone_eq_false_iff]
      exact hsocket
    have hhandle : srv.handle ⟨cfg, env, .resume n answer⟩ =
        resumeProcessing cfg env n answer srv := rfl
    rw [hhandle, resumeProcessing_of_some hl hss hsome hc.symm, hid]
    exact ⟨rfl, _, Or.inl rfl, Or.inr rfl⟩

lemma handle_packet (hnum : srv.Numbered) (h : srv.packet i = some (nd, canResume, c)) :
    (readClientConnection i.cfg i.env nd canResume c).Ends i.cfg c.ss.id (srv.handle i) := by
  obtain ⟨hlog, ss', hss', hend⟩ := handle_packet_leaves hnum h
  exact ⟨hlog, ss', hss'.imp_right And.right, hend⟩

lemma handle_packet_of_open (hnum : srv.Numbered) (h : srv.packet i = some (nd, canResume, c))
    (hid : c'.ss.id = c.ss.id) (hread : readClientConnection i.cfg i.env nd canResume c = c')
    (hopen : c'.ss.toBeClosed = false) (hsocket : ioaSocketTobeclosed c'.ss.clientSocket = false) :
    (srv.handle i).1 = c'.srv.putSession c'.ss := by
  obtain ⟨-, ss', hss', hend⟩ := handle_packet_leaves hnum h
  rw [hread] at hss' hend
  rcases hss' with rfl | ⟨hclosed, -⟩
  · rcases hend with hend | hend
    · exact hend
    · rw [hend, closeIfNecessary, putSession_sessionsMap, if_pos hid.symm]
      simp [hsocket]
  · rw [hopen] at hclosed
    exact absurd hclosed (by simp)

/-! ## TCP data connections -/

def Server.forgetTc (srv : Server) (tcid : UInt32) : Server :=
  { srv with
    tcpRelayConnections := fun i => if i = tcid then none else srv.tcpRelayConnections i }

lemma forgetTc_same (srv : Server) (tcid : UInt32) : srv.Same (srv.forgetTc tcid) :=
  ⟨fun _ => rfl, rfl, rfl⟩

/-- The socket is refused or checked against the session; the id is freed whatever the outcome. -/
lemma acceptTcpClientData_cases (cfg : Config) (env : Env) (tcid : UInt32) (tid : List UInt8)
    (s : IoaSocket) (messageIntegrity : Bool) (nd : NetData) (srv : Server) :
    (∃ srv', acceptTcpClientData cfg env tcid tid s messageIntegrity nd srv = srv' ∧
      (srv'.1 = srv ∨ srv'.1 = srv.forgetTc tcid) ∧ ∀ e ∈ srv'.2, e.Message) ∨
    ∃ e ss tc c l, srv.tcpRelayConnections tcid = some e ∧ srv.sessionsMap e.1 = some ss ∧
      ss.tcOf e.2 = some tc ∧ tc.state ≠ .ready ∧ tc.clientS = none ∧
      c = bindDataConnection cfg env tc tid s nd (.handed srv ss messageIntegrity) ∧
      (∀ e ∈ l, e.Message) ∧
      acceptTcpClientData cfg env tcid tid s messageIntegrity nd srv =
        ((c.srv.putSession c.ss).forgetTc tcid, c.log ++ l) := by
  have hanswer : ∀ (errCode : ℕ) (buf : List UInt8),
      ∀ e ∈ (if errCode ≠ 0 ∧ env.registerCallback = false then []
        else [Effect.toSocket s.handle buf]), e.Message := by
    intro errCode buf e he
    split_ifs at he
    · exact absurd he List.not_mem_nil
    · rw [List.mem_singleton.mp he]
      trivial
  unfold acceptTcpClientData
  by_cases hzero : tcid = 0
  · rw [if_pos hzero]
    exact Or.inl ⟨_, rfl, Or.inl rfl, by simp⟩
  rw [if_neg hzero]
  split
  · exact Or.inl ⟨_, rfl, Or.inl rfl, hanswer 400 _⟩
  next ss tc hfound =>
  obtain ⟨e, he, hfound⟩ := bind_eq_some_iff.mp hfound
  obtain ⟨ss', hss, hfound⟩ := bind_eq_some_iff.mp hfound
  obtain ⟨tc', htc, heq⟩ := map_eq_some_iff.mp hfound
  obtain ⟨rfl, rfl⟩ := Prod.mk.inj heq
  by_cases hready : tc'.state = .ready ∨ tc'.clientS.isSome = true
  · rw [if_pos hready]
    exact Or.inl ⟨_, rfl, Or.inr rfl, hanswer 400 _⟩
  · rw [if_neg hready]
    rw [not_or] at hready
    exact Or.inr ⟨e, ss', tc', _, _, he, hss, htc, hready.1, by simpa using hready.2, rfl,
      hanswer _ _, rfl⟩

end Coturn
