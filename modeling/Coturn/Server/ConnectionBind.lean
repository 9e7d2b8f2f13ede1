/-
# ConnectionBind requests that are refused

A ConnectionBind arrives in a session of its own. Unless it is refused there, the socket goes to the
thread of the connection, where the request is checked against the session that owns the connection.
The id is freed whatever the outcome, so that the rightful client cannot bind it any more.
-/
import Coturn.Server.GateRun

namespace Coturn

open Ctx

variable {canResume : Bool}

variable {srv : Server} {i : Input} {c : Ctx} {cfg : Config} {env : Env} {tcid : UInt32}

/-! ## Waiting connections -/

/-- The id `tcid` stands for the connection `tc` of `ss`, which waits for its client. -/
structure Server.Waiting (srv : Server) (tcid : UInt32) (e : ℕ × ℕ) (ss : Session)
    (tc : TcpConnection) : Prop where
  entry : srv.tcpRelayConnections tcid = some e
  session : srv.sessionsMap e.1 = some ss
  connection : ss.tcOf e.2 = some tc
  state : tc.state ≠ .ready
  client : tc.clientS = none

/-- A ConnectionBind for the id, in a session other than `owner` or with the socket of its session.
-/
inductive Server.AsksToBind (srv : Server) (i : Input) (tcid : UInt32) (owner : ℕ) : Prop
  | arrives (nd : NetData) (canResume : Bool) (c : Ctx)
    (hpacket : srv.packet i = some (nd, canResume, c)) (hrequest : stunIsRequest nd.buf = true)
    (hmethod : stunGetMethod nd.buf = stunMethodConnectionBind)
    (hid : (readConnectionBind (stunAttrs nd.buf)).val = tcid) (hother : c.ss.id ≠ owner)
  | handedOver (tid : List UInt8) (s : IoaSocket) (messageIntegrity : Bool) (nd : NetData)
    (hev : i.ev = .acceptTcpClientData tcid tid s messageIntegrity nd)

/-- The message that is written to a client, if the effect is that. -/
def Effect.answer? : Effect → Option (List UInt8)
  | .toClient _ buf | .toSocket _ buf => some buf
  | _ => none

/-- An answer with an error is sent. -/
def Server.AnswersWithError (srv : Server) (i : Input) : Prop :=
  ∃ e ∈ (srv.handle i).2, ∃ buf ∈ e.answer?, stunIsErrorResponse buf = true
  deriving Decidable

/-- Another thread has sent the packet. -/
def Event.isHandedOver : Event → Bool
  | .acceptTcpClientData _ _ _ _ _ => true
  | _ => false

/-! ## Where the request arrives -/

/-- A request that is not checked here: a ConnectionBind, or a Refresh that may move a session. -/
def SkipsCheck (cfg : Config) (method : ℕ) (ss : Session) : Prop :=
  method = stunMethodConnectionBind ∨
    (cfg.mobility = true ∧ method = stunMethodRefresh ∧ ss.alloc.isValid = false)

lemma admitRequest_of_skips {method : ℕ} (cfg : Config) (env : Env) (tid : List UInt8)
    (canResume : Bool) (nd : NetData) (attrs : List StunAttr) (c : Ctx)
    (hskips : SkipsCheck cfg method c.ss) :
    ∃ reply, admitRequest cfg env method tid canResume nd attrs c = { c with reply := reply } := by
  have hmethod : method ≠ stunMethodAllocate := by
    rcases hskips with rfl | ⟨-, rfl, -⟩ <;> decide
  have horigins : ∃ reply, checkOrigins cfg attrs c = { c with reply := reply } := by
    unfold checkOrigins
    split_ifs
    all_goals exact ⟨_, rfl⟩
  obtain ⟨reply, horigins⟩ := horigins
  unfold admitRequest
  split_ifs with hsilent hneed
  · exact ⟨_, rfl⟩
  · refine ⟨reply, ?_⟩
    simp only [beforeCheck, if_neg hmethod, horigins]
    rw [readOrigins, if_neg (fun h => hmethod h.2.2), checkRequest]
    rcases hskips with rfl | hskips
    · rw [if_pos (by simp)]
    · rw [if_pos hskips, ite_self]
  · exact ⟨c.reply, rfl⟩

/-- What the handler of a ConnectionBind does to the server: it may number a new socket. -/
structure Ctx.SendsSocket (c c' : Ctx) : Prop where
  srv : ∃ n, c'.srv = { c.srv with nextHandle := n }
  id : c'.ss.id = c.ss.id
  log : ∀ e ∈ c'.log, e ∈ c.log ∨ ∃ tsid handle nd, e = .socketToRelay tsid handle nd

lemma Ctx.SendsSocket.of_same {c c' : Ctx} (hsrv : c'.srv = c.srv) (hid : c'.ss.id = c.ss.id)
    (hlog : c'.log = c.log) : c.SendsSocket c' :=
  ⟨⟨c.srv.nextHandle, hsrv⟩, hid, fun _ he => Or.inl (hlog ▸ he)⟩

lemma Ctx.SendsSocket.trans {c c' c'' : Ctx} (h : c.SendsSocket c') (h' : c'.SendsSocket c'') :
    c.SendsSocket c'' := by
  obtain ⟨n, hn⟩ := h.srv
  obtain ⟨m, hm⟩ := h'.srv
  refine ⟨⟨m, by rw [hm, hn]⟩, h'.id.trans h.id, ?_⟩
  intro e he
  rcases h'.log e he with he | he
  · exact h.log e he
  · exact Or.inr he

lemma detachClientSocket_sendsSocket (env : Env) (c : Ctx) :
    c.SendsSocket (detachClientSocket env c).2 := by
  unfold detachClientSocket
  split
  · exact .of_same rfl rfl rfl
  · split_ifs
    · exact .of_same rfl rfl rfl
    · exact ⟨⟨_, rfl⟩, rfl, fun _ he => Or.inl he⟩
    · exact ⟨⟨_, rfl⟩, rfl, fun _ he => Or.inl he⟩

lemma connectionBindTransfer_sendsSocket (env : Env) (id : UInt32) (nd : NetData) (c : Ctx) :
    c.SendsSocket (connectionBindTransfer env id nd c) := by
  have hdetach := detachClientSocket_sendsSocket env c
  unfold connectionBindTransfer
  cases env.sendSocketToRelay with
  | none => exact .of_same rfl rfl rfl
  | some sent =>
    simp only
    by_cases hclosed : ioaSocketTobeclosed c.ss.clientSocket = true
    · rw [if_pos hclosed]
      exact .of_same rfl rfl rfl
    rw [if_neg hclosed]
    rcases hd : detachClientSocket env c with ⟨_ | s, c₁⟩ <;> rw [hd] at hdetach
    · exact hdetach.trans (.of_same rfl rfl rfl)
    · cases sent with
      | true =>
        refine hdetach.trans ⟨⟨c₁.srv.nextHandle, rfl⟩, rfl, ?_⟩
        intro e he
        rcases List.mem_append.mp he with he | he
        · exact Or.inl he
        · exact Or.inr ⟨_, _, _, List.mem_singleton.mp he⟩
      | false => exact hdetach.trans (.of_same rfl rfl rfl)

lemma handleTurnConnectionBind_sendsSocket (tid : List UInt8) (nd : NetData)
    (attrs : List StunAttr) (c : Ctx) :
    c.SendsSocket (handleTurnConnectionBind cfg env tid nd attrs c) := by
  have hstart : c.SendsSocket (connectionBindStart env nd attrs c) := by
    simp only [connectionBindStart]
    split_ifs
    iterate 5 exact .of_same rfl rfl rfl
    have hread : c.SendsSocket (c.afterLoop (readConnectionBind attrs)) := .of_same rfl rfl rfl
    exact hread.trans (connectionBindTransfer_sendsSocket env _ nd _)
  simp only [handleTurnConnectionBind]
  split_ifs
  · exact hstart.trans (.of_same rfl rfl rfl)
  · exact hstart.trans (.of_same rfl rfl rfl)
  · exact hstart

variable {nd : NetData} {tc : TcpConnection}

lemma readCommand_srv (nd : NetData) (canResume : Bool) (c : Ctx) :
    (readCommand cfg env nd canResume c).srv = (handleMessage cfg env nd canResume c).srv := by
  obtain ⟨c₁, -, hsrv, -, hr | ⟨-, fingerprint, hr⟩⟩ := readCommand_spec (c := c) rfl rfl <;> rw [hr]
  · exact hsrv
  · rw [writeResponse_srv]
    exact hsrv

section

variable (hrequest : stunIsRequest nd.buf = true)
  (hmethod : stunGetMethod nd.buf = stunMethodConnectionBind)

include hrequest hmethod

lemma handleMessage_sendsSocket (c : Ctx) :
    c.SendsSocket (handleMessage cfg env nd canResume (c.received nd)) := by
  rw [handleMessage_of_request hrequest]
  unfold Ctx.admitted
  rw [hmethod]
  obtain ⟨reply, hreply⟩ := admitRequest_of_skips cfg env (stunTidFromMessage nd.buf)
    canResume nd (stunAttrs nd.buf) (c.received nd) (Or.inl rfl)
  have hadmitted : c.SendsSocket { c.received nd with reply := reply } := .of_same rfl rfl rfl
  rw [hreply]
  split_ifs
  · exact hadmitted.trans (handleTurnConnectionBind_sendsSocket _ nd _ _)
  · exact hadmitted

lemma readCommand_of_answer (hlog : c.log = []) {e : Effect} (he : e.answer?.isSome = true)
    (hanswer : e ∈ (readCommand cfg env nd canResume (c.received nd)).log) :
    (readCommand cfg env nd canResume (c.received nd)).ss.toBeClosed = false ∧
      ioaSocketTobeclosed (readCommand cfg env nd canResume (c.received nd)).ss.clientSocket =
        false := by
  have hsends : c.SendsSocket (handleMessage cfg env nd canResume (c.received nd)) :=
    handleMessage_sendsSocket hrequest hmethod c
  obtain ⟨c₁, hss, -, hlog₁, hr | ⟨hopen, fingerprint, hr⟩⟩ :=
    readCommand_spec (c := c.received nd) rfl rfl
  · -- the handler has sent a socket at most
    rw [hr, hlog₁] at hanswer
    rcases hsends.log e hanswer with hold | ⟨_, _, _, rfl⟩
    · rw [hlog] at hold
      exact absurd hold List.not_mem_nil
    · exact absurd he (by simp [Effect.answer?])
  · rw [hr, (writeResponse_calm fingerprint c₁).2, hss]
    exact Bool.or_eq_false_iff.mp hopen

lemma readClientConnection_of_answer (hlog : c.log = []) (hreply : c.reply = .init) {e : Effect}
    (he : e.answer?.isSome = true) {r : Ctx}
    (hr : readClientConnection cfg env nd canResume c = r) (hanswer : e ∈ r.log) :
    (∃ n, r.srv = { c.srv with nextHandle := n }) ∧ r.ss.id = c.ss.id ∧
      r.ss.toBeClosed = false ∧ ioaSocketTobeclosed r.ss.clientSocket = false := by
  rcases readClientConnection_cases cfg env nd canResume c hr with
    ⟨-, h⟩ | ⟨s, chnum, len, -, h⟩ | ⟨-, -, h⟩
  · obtain ⟨-, -, -, hsame⟩ := h (by rw [hmethod]; decide)
    rw [hsame (by rw [hreply]; rfl), hlog] at hanswer
    exact absurd hanswer List.not_mem_nil
  · have hframe : Frame (ChannelEffect nd chnum len c) c (writeToPeerchannel chnum len nd c) :=
      (writeToPeerchannel_calm c fun _ he => he).frame
    rw [h] at hanswer
    rcases hframe.mem hanswer with hold | hnew
    · rw [hlog] at hold
      exact absurd hold List.not_mem_nil
    · obtain ⟨_, _, _, _, _, _, rfl⟩ := hnew.sent
      exact absurd he (by simp [Effect.answer?])
  · rw [h] at hanswer ⊢
    have hsends : c.SendsSocket (handleMessage cfg env nd canResume (c.received nd)) :=
      handleMessage_sendsSocket hrequest hmethod c
    refine ⟨?_, ?_, readCommand_of_answer hrequest hmethod hlog he hanswer⟩
    · rw [readCommand_srv]
      exact hsends.srv
    · rw [(readCommand_calm cfg env nd canResume (c.received nd)).2]
      exact hsends.id

end

/-- Only the pending lookups, the realms and a new session are what an event changes before a packet
is read. -/
lemma packet_connections (h : srv.packet i = some (nd, canResume, c)) :
    c.srv.tcpRelayConnections = srv.tcpRelayConnections := by
  obtain ⟨cfg, env, ev⟩ := i
  cases packet_of h with
  | opened hss =>
    simp only [createNewSs, putSessionIntoMobileMap]
    split_ifs <;> rfl
  | input hss => rfl
  | @resumed n answer l ss hl hss hsocket => cases answer <;> rfl

lemma Server.Waiting.of_arrives (hnum : srv.Numbered) {e : ℕ × ℕ} {ss : Session}
    (hwait : srv.Waiting tcid e ss tc)
    (hpacket : srv.packet i = some (nd, canResume, c)) (hrequest : stunIsRequest nd.buf = true)
    (hmethod : stunGetMethod nd.buf = stunMethodConnectionBind) (hother : c.ss.id ≠ e.1)
    {eff : Effect} (heff : eff.answer?.isSome = true) (hanswer : eff ∈ (srv.handle i).2) :
    (srv.step i).Waiting tcid e ss tc := by
  have hstate := packet_state hnum hpacket
  obtain ⟨hlog, -⟩ := handle_packet hnum hpacket
  rw [hlog] at hanswer
  obtain ⟨⟨n, hsrv⟩, hid, hopen, hsocket⟩ :=
    readClientConnection_of_answer hrequest hmethod hstate.log hstate.reply heff rfl hanswer
  have hstep : srv.step i = _ := handle_packet_of_open hnum hpacket hid rfl hopen hsocket
  generalize readClientConnection i.cfg i.env nd canResume c = c' at hsrv hid hstep
  refine ⟨?_, ?_, hwait.connection, hwait.state, hwait.client⟩
  · rw [hstep, Server.putSession, hsrv, packet_connections hpacket]
    exact hwait.entry
  · rw [hstep, putSession_sessionsMap, if_neg (fun h => hother (h.trans hid).symm), hsrv]
    exact ((packet_sessions hnum hpacket).1 e.1 hother.symm).trans hwait.session

/-! ## Where the connection is -/

lemma Server.Waiting.acceptTcpClientData {e : ℕ × ℕ} {ss : Session}
    (hwait : srv.Waiting tcid e ss tc) (hzero : tcid ≠ 0) (tid : List UInt8) (s : IoaSocket)
    (messageIntegrity : Bool) (nd : NetData) :
    (acceptTcpClientData cfg env tcid tid s messageIntegrity nd srv).1 =
      ((bindDataConnection cfg env tc tid s nd (.handed srv ss messageIntegrity)).srv.putSession
          (bindDataConnection cfg env tc tid s nd (.handed srv ss messageIntegrity)).ss).forgetTc
        tcid := by
  have hfound : ((srv.tcpRelayConnections tcid).bind fun e =>
      (srv.sessionsMap e.1).bind fun ss => (ss.tcOf e.2).map fun tc => (ss, tc)) =
        some (ss, tc) := by
    simp [hwait.entry, hwait.session, hwait.connection]
  have hnot : ¬ (tc.state = .ready ∨ tc.clientS.isSome = true) := by
    simp [hwait.state, hwait.client]
  rw [Coturn.acceptTcpClientData, if_neg hzero, hfound]
  simp only
  rw [if_neg hnot]
  rfl

/-- A ConnectionBind for a waiting connection of another client that is answered with an error does
no harm exactly when it is refused where it arrives. -/
theorem refused_bind_harmless_iff (id : UInt8) (ctime : UInt32) (realms : RealmTable)
    (is : List Input) (i : Input) (tcid : UInt32) (e : ℕ × ℕ) (ss : Session) (tc : TcpConnection)
    (hwait : (Machine.run Server.step (initServer id ctime realms) is).Waiting tcid e ss tc)
    (hasks : (Machine.run Server.step (initServer id ctime realms) is).AsksToBind i tcid e.1)
    (herror : (Machine.run Server.step (initServer id ctime realms) is).AnswersWithError i) :
    (∃ ss', ((Machine.run Server.step (initServer id ctime realms) is).step i).Waiting tcid e ss' tc ∧
        ss'.realmOptions = ss.realmOptions) ↔
      i.ev.isHandedOver = false := by
  have h : (Machine.run Server.step (initServer id ctime realms) is).WellFormed :=
    (wellFormed_init id ctime realms).run is
  generalize Machine.run Server.step (initServer id ctime realms) is = srv at h hwait hasks herror ⊢
  cases hasks with
  | arrives nd canResume c hpacket hrequest hmethod _ hother =>
    have hnot : i.ev.isHandedOver = false := by
      obtain ⟨cfg, env, ev⟩ := i
      cases ev <;> first | rfl | exact (nomatch hpacket)
    refine ⟨fun _ => hnot, fun _ => ⟨ss, ?_, rfl⟩⟩
    obtain ⟨eff, heff, buf, hbuf, -⟩ := herror
    exact hwait.of_arrives h.numbered hpacket hrequest hmethod hother
      (Option.isSome_of_mem hbuf) heff
  | handedOver tid s messageIntegrity nd hev =>
    obtain ⟨cfg, env, ev⟩ := i
    subst hev
    refine ⟨?_, fun hnot => absurd hnot (by simp [Event.isHandedOver])⟩
    rintro ⟨ss', hafter, -⟩
    have hhandle : srv.handle ⟨cfg, env, .acceptTcpClientData tcid tid s messageIntegrity nd⟩ =
        acceptTcpClientData cfg env tcid tid s messageIntegrity nd srv := rfl
    have hzero : tcid ≠ 0 := by
      rintro rfl
      obtain ⟨eff, heff, -⟩ := herror
      rw [hhandle, acceptTcpClientData, if_pos rfl] at heff
      exact absurd heff List.not_mem_nil
    have hfreed := hafter.entry
    rw [Server.step, hhandle, hwait.acceptTcpClientData hzero] at hfreed
    exact absurd hfreed (by simp [Server.forgetTc])

/-! ## A run -/

/-- A TCP client gets an allocation and connects to a peer. The connection waits under the id 1. -/
def peerConnected (realm : List UInt8) : List Input :=
  [.openSession tcpClient none false,
    .clientInput 1 (clientRequest stunMethodAllocate [tcpTransportAttr]) true,
    .clientInput 1 (clientRequest stunMethodAllocate
      (tcpTransportAttr :: credentialAttrs (asciiBytes "ann") realm [1])) true,
    .resume 0 (some (plainKey [1])),
    .clientInput 1 (clientRequest stunMethodConnect
      (peerAttr (hostAddr 3 7000) ::
        credentialAttrs (asciiBytes "ann") realm [1])) true,
    .tcpConnectCompleted 1 1 true,
    .openSession udpClient none false].map
      fun ev => ⟨longTermParams keyAsMac, .plain tcpRelay, ev⟩

def asksOverUdp : Input :=
  ⟨longTermParams keyAsMac, .plain tcpRelay,
    .clientInput 2 (clientRequest stunMethodConnectionBind
      [(attrConnectionId, connectionIdBytes 1)]) true⟩

/-- Another client asks for the connection with the name of another user and of another realm. -/
def asksAsOther : Input :=
  ⟨longTermParams keyAsMac, .plain tcpRelay,
    .acceptTcpClientData 1 clientTid { tcpClient with handle := 5 } false
      (clientRequest stunMethodConnectionBind
        ((attrConnectionId, connectionIdBytes 1) ::
          credentialAttrs (asciiBytes "eve") (asciiBytes "south") [2]))⟩

def Server.waiting? (srv : Server) (tcid : UInt32) : Option ((ℕ × ℕ) × Session × TcpConnection) :=
  ((srv.tcpRelayConnections tcid).bind fun e =>
    (srv.sessionsMap e.1).bind fun ss => (ss.tcOf e.2).map fun tc => (e, ss, tc)).filter fun r =>
      r.2.2.state ≠ .ready && r.2.2.clientS.isNone

lemma Server.waiting_of_some {r : (ℕ × ℕ) × Session × TcpConnection}
    (h : srv.waiting? tcid = some r) : srv.Waiting tcid r.1 r.2.1 r.2.2 := by
  obtain ⟨h, hstate⟩ := Option.filter_eq_some_iff.mp h
  obtain ⟨e, he, h⟩ := Option.bind_eq_some_iff.mp h
  obtain ⟨ss, hss, h⟩ := Option.bind_eq_some_iff.mp h
  obtain ⟨tc, htc, rfl⟩ := Option.map_eq_some_iff.mp h
  simp only [ne_eq, decide_not, Bool.and_eq_true, Bool.not_eq_true', decide_eq_false_iff_not,
    Option.isNone_iff_eq_none] at hstate
  exact ⟨he, hss, htc, hstate.1, hstate.2⟩

theorem refused_bind_harmless_iff_overUdp :
    ∃ e ss tc,
      (servedNorth (peerConnected north)).Waiting 1 e ss tc ∧
      ∃ ss', ((servedNorth (peerConnected north)).step asksOverUdp).Waiting 1 e ss' tc ∧
          ss'.realmOptions = ss.realmOptions := by
  generalize hsrv : servedNorth (peerConnected north) = srv
  obtain ⟨r, hr, q, hq, hrequest, hmethod, hid, hother⟩ :
      ∃ r ∈ srv.waiting? 1, ∃ q ∈ srv.packet asksOverUdp,
      stunIsRequest q.1.buf = true ∧ stunGetMethod q.1.buf = stunMethodConnectionBind ∧
        (readConnectionBind (stunAttrs q.1.buf)).val = 1 ∧ q.2.2.ss.id ≠ r.1.1 := by
    subst hsrv
    decide +kernel
  have herror : srv.AnswersWithError asksOverUdp := by
    subst hsrv
    decide +kernel
  have hwait := Server.waiting_of_some hr
  refine ⟨r.1, r.2.1, r.2.2, hwait, ?_⟩
  subst hsrv
  exact (refused_bind_harmless_iff 0 1000 _ _ _ 1 _ _ _ hwait
    (.arrives q.1 q.2.1 q.2.2 hq hrequest hmethod hid hother) herror).mpr rfl

/-- A ConnectionBind of another user is refused, but the id is free then. -/
theorem refused_bind_frees_id :
    ∃ e ss tc,
      (servedNorth (peerConnected north)).Waiting 1 e ss tc ∧
      (servedNorth (peerConnected north)).AsksToBind asksAsOther 1 e.1 ∧
      (servedNorth (peerConnected north)).AnswersWithError asksAsOther ∧
      ((servedNorth (peerConnected north)).step asksAsOther).tcpRelayConnections 1 = none ∧
      ∀ ss' ∈ ((servedNorth (peerConnected north)).step asksAsOther).sessionsMap e.1,
          ss'.realmOptions ≠ ss.realmOptions := by
  generalize hsrv : servedNorth (peerConnected north) = srv
  obtain ⟨r, hr, hfacts⟩ : ∃ r ∈ srv.waiting? 1, srv.AnswersWithError asksAsOther ∧
      (srv.step asksAsOther).tcpRelayConnections 1 = none ∧
      ∀ ss' ∈ (srv.step asksAsOther).sessionsMap r.1.1,
        ss'.realmOptions ≠ r.2.1.realmOptions := by
    subst hsrv
    decide +kernel
  exact ⟨r.1, r.2.1, r.2.2, Server.waiting_of_some hr, .handedOver _ _ _ _ rfl, hfacts⟩

end Coturn
