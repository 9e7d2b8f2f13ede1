/-
# The server refines the relay

Every event of the server is a sequence of moves of the relay, and the sessions keep their numbers
and their relay sockets their places. So what all moves of the relay keep holds in every run of
the server.
-/
import Coturn.Relay.Invariants
import Coturn.Server.Steps

namespace Coturn

open Ctx Relation

variable {srv : Server} {i : Input} {c : Ctx}

/-! ## What the packet of an event may add -/

/-- The session whose packet the event reads. -/
def Server.who (srv : Server) (i : Input) : ℕ := (srv.packet i).elim 0 fun r => r.2.2.ss.id

/-- The event reads a packet of the session that may add a permission for the address. -/
def Server.Grants (srv : Server) (i : Input) (sid : ℕ) (addr : IoaAddr) : Prop :=
  ∃ nd canResume c, srv.packet i = some (nd, canResume, c) ∧ c.ss.id = sid ∧
    PacketGrants i.cfg (c.admitted i.cfg i.env nd canResume) nd.buf addr

/-- The event reads a packet that binds a channel to the address. -/
def Server.Binds (srv : Server) (i : Input) (addr : IoaAddr) : Prop :=
  ∃ nd canResume c, srv.packet i = some (nd, canResume, c) ∧
    PacketBinds i.cfg (c.admitted i.cfg i.env nd canResume) nd.buf addr

lemma admits_true (cfg : Config) (env : Env) (nd : NetData) (canResume : Bool) (c : Ctx) :
    c.Admits (fun _ => True) cfg env nd canResume :=
  ⟨fun _ _ => trivial, fun _ _ _ => checkStunAuth_frame _ fun _ => trivial, fun _ _ _ => trivial,
    fun _ _ _ _ _ _ => trivial⟩

lemma markClosed_core (ss : Session) : ss.markClosed.core = ss.core := rfl

variable {nd : NetData} {sid : ℕ}

lemma packet_moves (hnum : srv.Numbered) {canResume : Bool}
    (h : srv.packet i = some (nd, canResume, c)) :
    srv.Moves i.cfg (srv.who i) (srv.Grants i (srv.who i)) (srv.Binds i) (srv.step i) := by
  have hstate := packet_state hnum h
  obtain ⟨-, ss', hss', hend⟩ := handle_packet hnum h
  have hstep := readClientConnection_step c hstate.numbered.ids
    (admits_true i.cfg i.env nd canResume c)
  have hwho : srv.who i = c.ss.id := by rw [Server.who, h]; rfl
  have hgrants : ∀ addr, PacketGrants i.cfg
      (c.admitted i.cfg i.env nd canResume) nd.buf addr → srv.Grants i c.ss.id addr :=
    fun addr haddr => ⟨nd, canResume, c, h, rfl, haddr⟩
  have hbinds : ∀ addr, PacketBinds i.cfg
      (c.admitted i.cfg i.env nd canResume) nd.buf addr → srv.Binds i addr :=
    fun addr haddr => ⟨nd, canResume, c, h, haddr⟩
  have hcore : ss'.core = (readClientConnection i.cfg i.env nd canResume c).ss.core := by
    rcases hss' with rfl | rfl
    · rfl
    · exact markClosed_core _
  rw [hwho]
  have hmoves := (hstate.moves i.cfg c.ss.id (srv.Grants i c.ss.id) (srv.Binds i)).trans
    ((hstep.mono_grant hgrants hbinds).moves hstate.core hcore)
  rcases hend with heq | heq
  · rw [Server.step, heq]
    exact hmoves
  · rw [Server.step, heq]
    exact hmoves.trans (closeIfNecessary_moves c.ss.id (hmoves.numbered hnum).ids)

/-! ## All events -/

def Event.time : Event → Option UInt32
  | .tick ctime => some ctime
  | _ => none

lemma closeIfNecessary_of_none (cfg : Config) (h : srv.sessionsMap sid = none) :
    closeIfNecessary cfg sid srv = srv := by
  rw [closeIfNecessary, h]

lemma withSession_of_none (f : Ctx → Ctx) (h : srv.sessionsMap sid = none) :
    withSession srv sid f = (srv, []) := by
  rw [withSession, h]

/-- The kinds of events that read a packet of a client. -/
def Event.Reads : Event → Prop
  | .openSession _ (some _) _ | .clientInput _ _ _ | .resume _ _ => True
  | _ => False

lemma putSession_of_some {ss : Session} (hss : srv.sessionsMap sid = some ss)
    (hid : ss.id = sid) : srv.putSession ss = srv := by
  have hmap : (fun id => if id = ss.id then some ss else srv.sessionsMap id) = srv.sessionsMap := by
    funext id
    split_ifs with h
    · rw [h, hid, hss]
    · rfl
  rw [Server.putSession, hmap]

/-- An event of such a kind without a packet: the session or its client socket is gone. -/
lemma handle_of_no_packet (hnum : srv.Numbered) (hreads : i.ev.Reads) (h : srv.packet i = none) :
    ∃ pending, srv.handle i = ({ srv with pending := pending }, []) := by
  obtain ⟨cfg, env, ev⟩ := i
  cases ev with
  | openSession s nd canResume =>
    cases nd with
    | none => exact hreads.elim
    | some nd =>
      obtain ⟨ss, hsid, hid, -, hmap, -⟩ := createNewSs_parts cfg env s srv
      have hsome : (createNewSs cfg env s srv).2.sessionsMap (createNewSs cfg env s srv).1 =
          some ss := by
        rw [hsid, ← hid, hmap, if_pos rfl]
      simp [Server.packet, hsome] at h
  | clientInput sid nd canResume =>
    have hnone : srv.sessionsMap sid = none := by simpa [Server.packet] using h
    have hhandle : srv.handle ⟨cfg, env, .clientInput sid nd canResume⟩ =
        (closeIfNecessary cfg sid
          (withSession srv sid (clientInputHandler cfg env nd canResume)).1,
          (withSession srv sid (clientInputHandler cfg env nd canResume)).2) := rfl
    rw [hhandle, withSession_of_none _ hnone, closeIfNecessary_of_none cfg hnone]
    exact ⟨srv.pending, rfl⟩
  | resume n answer =>
    have hhandle : srv.handle ⟨cfg, env, .resume n answer⟩ =
        resumeProcessing cfg env n answer srv := rfl
    rw [hhandle, resumeProcessing]
    cases hl : srv.pending[n]? with
    | none => exact ⟨srv.pending, rfl⟩
    | some l =>
      refine ⟨srv.pending.eraseIdx n, ?_⟩
      simp only
      cases hss : srv.sessionsMap l.sid with
      | none =>
        have hss' : (srv.unpend n).sessionsMap l.sid = none := hss
        rw [withSession_of_none _ hss', closeIfNecessary_of_none cfg hss']
      | some ss =>
        have hss' : (srv.unpend n).sessionsMap l.sid = some ss := hss
        have hsocket : ss.clientSocket = none := by
          by_contra hsome
          have hfilter : ((srv.sessionsMap l.sid).filter fun ss => ss.clientSocket.isSome) =
              some ss := by
            rw [hss, Option.filter_some, if_pos (Option.isSome_iff_ne_none.mpr hsome)]
          simp [Server.packet, hl, hfilter] at h
        rw [withSession_of_some _ hss', if_pos (by simp [hsocket])]
        simp only
        rw [putSession_of_some hss' (hnum.ids l.sid ss hss), closeIfNecessary, hss']
        simp [hsocket, ioaSocketTobeclosed]
  | _ => exact hreads.elim

lemma pending_same (srv : Server) (pending : List PendingLookup) :
    srv.Same { srv with pending := pending } := ⟨fun _ => rfl, rfl, rfl⟩

lemma acceptTcpClientData_same {cfg : Config} {env : Env} {tcid : UInt32} {tid : List UInt8}
    {s : IoaSocket} {messageIntegrity : Bool} (hids : srv.IdsMatch) :
    srv.Same (acceptTcpClientData cfg env tcid tid s messageIntegrity nd srv).1 := by
  rcases acceptTcpClientData_cases cfg env tcid tid s messageIntegrity nd srv with
    ⟨r, rfl, hr | hr, -⟩ | ⟨e, ss, tc, c, l, -, hss, -, -, -, hc, -, heq⟩
  · rw [hr]
    exact .refl srv
  · rw [hr]
    exact forgetTc_same srv tcid
  · have hframe : TablesFrame (fun _ => True) (.handed srv ss messageIntegrity) c := by
      rw [hc]
      exact bindDataConnection_frame tc s _ (checkStunAuth_frame _ fun _ => trivial) trivial
    have hsame : srv.Same c.srv := ⟨fun _ => by rw [hframe.sessions], hframe.fixed, hframe.mp⟩
    have hput : c.srv.Same (c.srv.putSession c.ss) := by
      refine putSession_same ?_
      rw [show c.ss.id = e.1 from hframe.sid.trans (hids e.1 ss hss), hframe.sessions, hss]
      exact congrArg some (Prod.ext hframe.sid hframe.relay).symm
    rw [heq]
    exact (hsame.trans hput).trans (forgetTc_same _ tcid)

/-- Every event but the timer is a sequence of moves of the relay. -/
theorem handle_moves (hnum : srv.Numbered) (hplaced : srv.view.Placed) (htime : i.ev.time = none) :
    srv.Moves i.cfg (srv.who i) (srv.Grants i (srv.who i)) (srv.Binds i) (srv.step i) := by
  rcases hpacket : srv.packet i with _ | ⟨nd, canResume, c⟩
  · have hids := hnum.ids
    have hplaced' : ∀ sid ss, srv.sessionsMap sid = some ss → ss.alloc.relay.Placed :=
      fun sid ss hss => hplaced sid _ (view_sessions_of_some hss)
    generalize srv.who i = who
    generalize srv.Grants i who = G
    generalize srv.Binds i = B
    by_cases hreads : i.ev.Reads
    · obtain ⟨pending, hhandle⟩ := handle_of_no_packet hnum hreads hpacket
      rw [Server.step, hhandle]
      exact (pending_same srv pending).toMoves
    obtain ⟨cfg, env, ev⟩ := i
    unfold Server.step
    cases ev with
    | openSession s nd canResume =>
      cases nd with
      | none => exact createNewSs_moves cfg env s hnum
      | some nd => exact absurd trivial hreads
    | clientInput sid nd canResume => exact absurd trivial hreads
    | resume n answer => exact absurd trivial hreads
    | peerInput sid family nd =>
      refine (withSession_same (p := fun _ => True) hids fun ss hss => ?_).1.toMoves
      split_ifs
      · exact (Frame.refl _).tablesFrame.keep
      · exact (peerInputHandler_calm cfg env family nd _ fun _ _ _ => trivial).frame.tablesFrame.keep
    | tick ctime => exact (nomatch htime)
    | allocationTimeout sid family =>
      exact allocationTimeout_moves sid family hids (hplaced' sid)
    | toBeAllocatedTimeout sid => exact clientToBeAllocatedTimeout_moves sid hids
    | cancelSession sid => exact cancelSession_moves sid hids
    | clientSocketLost sid =>
      refine (withSession_same (p := fun _ => True) hids fun ss hss => TablesFrame.keep ?_).1.toMoves
      exact TablesFrame.of_session rfl rfl rfl
    | relaySocketLost sid family =>
      refine (withSession_same (p := fun _ => True) hids fun ss hss => TablesFrame.keep ?_).1.toMoves
      exact TablesFrame.of_session rfl (Prod.ext rfl (loseRelaySocket_relay family ss.alloc)) rfl
    | tcpConnectCompleted sid handle success =>
      exact (withSession_same hids fun ss hss =>
        (tcpConnectCompleted_frame cfg env handle success _).keep).1.toMoves
    | tcpConnectionClosed sid handle =>
      exact (withSession_same (p := fun _ => True) hids fun ss hss =>
        (tcpConnectionClosed_frame handle _).keep).1.toMoves
    | tcpPeerAccept sid peerAddr =>
      exact (withSession_same hids fun ss hss =>
        (tcpPeerAccept_frame cfg env peerAddr _).keep).1.toMoves
    | acceptTcpClientData tcid tid s messageIntegrity nd =>
      exact (acceptTcpClientData_same hids).toMoves
  · exact packet_moves hnum hpacket

/-- Every event is a step of the relay. -/
theorem step_refines (hnum : srv.Numbered) (hplaced : srv.view.Placed) (i : Input) :
    RelayStep i.cfg (srv.who i) (srv.Grants i (srv.who i)) (srv.Binds i) i.ev.time srv.view
      (srv.step i).view ∧ (srv.step i).Numbered := by
  cases htime : i.ev.time with
  | none =>
    have hmoves := handle_moves hnum hplaced htime
    exact ⟨.moves hmoves.moves, hmoves.numbered hnum⟩
  | some ctime =>
    obtain ⟨cfg, env, ev⟩ := i
    cases ev with
    | tick ctime' =>
      obtain rfl := Option.some.inj htime
      exact ⟨.tick (timerTimeoutHandler_ticks cfg ctime' hnum.ids),
        timerTimeoutHandler_numbered cfg ctime' hnum⟩
    | _ => exact (nomatch htime)

/-! ## Runs -/

/-- What holds in every state of the server. -/
structure Server.WellFormed (srv : Server) : Prop where
  numbered : srv.Numbered
  sound : srv.view.Sound

lemma wellFormed_init (id : UInt8) (ctime : UInt32) (realms : RealmTable) :
    (initServer id ctime realms).WellFormed :=
  ⟨numbered_init id ctime realms, fun _ _ h => (nomatch h)⟩

lemma Server.WellFormed.refines (h : srv.WellFormed) (i : Input) :
    RelayStep i.cfg (srv.who i) (srv.Grants i (srv.who i)) (srv.Binds i) i.ev.time srv.view
      (srv.step i).view :=
  (step_refines h.numbered h.sound.placed i).1

lemma Server.WellFormed.step (h : srv.WellFormed) (i : Input) : (srv.step i).WellFormed :=
  ⟨(step_refines h.numbered h.sound.placed i).2, h.sound.step (h.refines i)⟩

lemma Server.WellFormed.run (h : srv.WellFormed) (is : List Input) :
    (Machine.run Server.step srv is).WellFormed :=
  Machine.run_preserves (fun _ i h => h.step i) is h

/-- Every run of the server is a run of the relay. -/
theorem run_refines_relay (id : UInt8) (ctime : UInt32) (realms : RealmTable) (is : List Input) :
    Machine.Along Server.step (fun srv i =>
      RelayStep i.cfg (srv.who i) (srv.Grants i (srv.who i)) (srv.Binds i) i.ev.time srv.view
        (srv.step i).view) (initServer id ctime realms) is :=
  Machine.along_of_invariant (fun _ i (h : Server.WellFormed _) _ => ⟨h.step i, h.refines i⟩)
    (Machine.along_of_forall_mem fun _ _ => trivial) (wellFormed_init id ctime realms)

lemma Server.WellFormed.packet_consistent (h : srv.WellFormed) {canResume : Bool}
    (hpacket : srv.packet i = some (nd, canResume, c)) : c.ss.alloc.Consistent := by
  have hstate := packet_state h.numbered hpacket
  have hsound := h.sound.moves (hstate.moves i.cfg 0 (fun _ => True) (fun _ => True)).moves
  obtain ⟨ss, hss, hcore⟩ := Option.map_eq_some_iff.mp hstate.core
  refine (hsound c.ss.id c.ss.alloc.relay ?_).consistent
  rw [view_sessions_of_some hss]
  exact congrArg some (congrArg Prod.snd hcore)

end Coturn
