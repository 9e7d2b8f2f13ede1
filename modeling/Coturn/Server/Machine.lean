/-
# The relay thread as a machine

What a relay thread does with each event: a new client connection, a packet of a client or a peer,
the answer to a lookup of a key, a client socket for a TCP data connection, the timers, the loss of
a socket. Every event comes with the settings in force and with what its handling reads from
outside.
-/
import Coturn.Server.Command

namespace Coturn

open ByteSeq

variable (cfg : Config) (env : Env)

/-! ## The end of a session -/

/-- `mp_deregister_cb`: the entry is of the session, of the family unless that is 0, and of the IP
if there is one. -/
def mpDeregisterCb (sid family : ℕ) (peerAddr : Option IoaAddr) (key : IoaAddr) (value : ℕ) : Bool :=
  value = sid && (family = 0 || key.family = family) && peerAddr.all (addrEqNoPort key)

/-- The endpoints of a permission are free. -/
def mpDeregisterPermissionPeers (srv : Server) (peerAddr : IoaAddr) (sid : ℕ) : Server :=
  { srv with mpTable := srv.mpTable.delWhere (mpDeregisterCb sid 0 (some peerAddr)) }

/-- `mp_deregister_session_peers` for one family, and for all families when it is 0. -/
def mpDeregisterSessionPeers (srv : Server) (sid family : ℕ) : Server :=
  { srv with mpTable := srv.mpTable.delWhere (mpDeregisterCb sid family none) }

/-- `clear_allocation` as far as the server sees it: the ids of the connections are freed. -/
def forgetTcs (tcs : List (Option TcpConnection)) (srv : Server) : Server :=
  { srv with
    tcpRelayConnections := fun i =>
      if tcs.any fun tc => tc.any fun tc => tc.id = i then none else srv.tcpRelayConnections i }

/-- The session is closed. -/
def removeSession (srv : Server) (ss : Session) : Server :=
  let srv := (deleteSessionFromMobileMap srv ss).1
  let srv := { srv with sessionsMap := fun id => if id = ss.id then none else srv.sessionsMap id }
  forgetTcs ss.alloc.tcs srv

/-- A mobile session with a valid allocation outlives its client socket, unless `force`. -/
def shutdownClientConnection (force : Bool) (srv : Server) (ss : Session) : Server :=
  let (realms, ss) := decQuota cfg srv.realms ss
  let srv := { srv with realms := realms }
  let ss := decBps ss
  if !force && ss.alloc.isValid && ss.isMobile then
    srv.putSession { ss with clientSocket := none }
  else
    let srv := if cfg.multiplexPeerMode then mpDeregisterSessionPeers srv ss.id 0 else srv
    removeSession srv ss

/-- `close_ioa_socket_after_processing_if_necessary` on the client socket of a session. -/
def closeIfNecessary (sid : ℕ) (srv : Server) : Server :=
  match srv.sessionsMap sid with
  | none => srv
  | some ss =>
    if ioaSocketTobeclosed ss.clientSocket then shutdownClientConnection cfg false srv ss else srv

/-! ## Client packets -/

/-- Handle something for an existing session, and write the session back. -/
def withSession (srv : Server) (sid : ℕ) (f : Ctx → Ctx) : Server × List Effect :=
  match srv.sessionsMap sid with
  | none => (srv, [])
  | some ss =>
    let c := f ⟨srv, ss, .init, []⟩
    (c.srv.putSession c.ss, c.log)

/-- A session that is to be closed marks its socket. -/
def clientInputHandler (nd : NetData) (canResume : Bool) (c : Ctx) : Ctx :=
  let c := readClientConnection cfg env nd canResume c
  if c.ss.toBeClosed then
    { c with
      ss :=
        { c.ss with
          clientSocket := c.ss.clientSocket.map fun s => { s with toBeClosed := true } } }
  else c

def clientInput (sid : ℕ) (nd : NetData) (canResume : Bool) (srv : Server) : Server × List Effect :=
  let r := withSession srv sid (clientInputHandler cfg env nd canResume)
  (closeIfNecessary cfg sid r.1, r.2)

/-- `create_new_ss` with the client socket: the session is put into the maps. -/
def createNewSs (s : IoaSocket) (srv : Server) : ℕ × Server :=
  let sid := srv.id.toNat * 10 ^ 15 + (srv.sessionIdCounter + 1)
  let ss : Session :=
    { id := sid
      clientSocket := some { s with handle := srv.nextHandle }
      alloc := initAllocation
      toBeAllocatedTimeoutEv := true
      enforceFingerprints := false
      isTcpRelay := false
      toBeClosed := false
      nonce := []
      nonceExpirationTime := 0
      username := []
      hmackey := []
      hmackeySet := false
      pwd := []
      quotaUsed := false
      oauth := false
      maxSessionTimeAuth := 0
      realmOptions := srv.realms.dflt.options
      originSet := false
      origin := []
      isMobile := false
      mobileId := 0
      oldMobileId := 0
      sMobileId := []
      bps := 0 }
  let srv :=
    { srv with sessionIdCounter := srv.sessionIdCounter + 1, nextHandle := srv.nextHandle + 1 }
  let (srv, ss) := putSessionIntoMobileMap cfg env srv ss
  (sid, srv.putSession ss)

/-- `open_client_connection_session`, with the first packet if it came with the socket. -/
def openClientConnectionSession (s : IoaSocket) (nd : Option NetData) (canResume : Bool)
    (srv : Server) : Server × List Effect :=
  let (sid, srv) := createNewSs cfg env s srv
  match nd with
  | none => (srv, [])
  | some nd => withSession srv sid (clientInputHandler cfg env nd canResume)

/-- The answer to a lookup. -/
structure KeyAnswer where
  oauth : Bool
  maxSessionTime : UInt32
  hmackey : List UInt8
  pwd : List UInt8
  realm : List UInt8

/-- What the answer changes in the session. -/
def acceptKey (k : KeyAnswer) (realms : RealmTable) (ss : Session) : RealmTable × Session :=
  let ss :=
    { ss with
      hmackey := k.hmackey
      hmackeySet := true
      oauth := k.oauth
      maxSessionTimeAuth := k.maxSessionTime
      pwd := k.pwd }
  if k.realm ≠ [] ∧ k.realm ≠ ss.realmOptions.name then
    let (realms, ss) := decQuota cfg realms ss
    let r := realms.getRealmOptionsByName k.realm
    (incQuota cfg r.2 { ss with realmOptions := r.1 } ss.username).2
  else (realms, ss)

/-- The lookup has been answered. -/
abbrev Server.unpend (srv : Server) (i : ℕ) : Server :=
  { srv with pending := srv.pending.eraseIdx i }

/-- `resume_processing_after_username_check` for the pending lookup number `i`. -/
def resumeProcessing (i : ℕ) (answer : Option KeyAnswer) (srv : Server) : Server × List Effect :=
  match srv.pending[i]? with
  | none => (srv, [])
  | some l =>
    let srv := srv.unpend i
    let r := withSession srv l.sid fun c =>
      if c.ss.clientSocket.isNone then c
      else
        readClientConnection cfg env l.nd false
          (answer.elim c fun k => c.account (acceptKey cfg k c.srv.realms c.ss))
    (closeIfNecessary cfg l.sid r.1, r.2)

/-! ## Peer packets -/

def udpStunBufferSize : ℕ := 16384

/-- The message that carries a datagram of a peer to the client. -/
def peerMessage (ss : Session) (st : SocketType) (nd : NetData) : Option (List UInt8) :=
  let data := nd.buf.take (udpStunBufferSize - 4)
  let chnum :=
    ((allocationGetPermission ss.alloc.toAddrTables nd.srcAddr).bind
      ss.alloc.toAddrTables.addrToPerm.get?).elim 0 fun tinfo =>
        getTurnChannelNumber ss.alloc.toAddrTables tinfo nd.srcAddr
  if chnum ≠ 0 then
    stunInitChannelMessage chnum data (nd.buf.drop data.length ++ env.bufferRoom.toList)
      (isStreamSocket st)
  else
    let buf := stunInitIndication stunMethodData env.randomTid.toList
    let buf := stunAttrAddIgnore buf attrData data
    let buf := addAddrIgnore cfg buf attrXorPeerAddress nd.srcAddr
    let buf := maybeAddSoftwareAttribute cfg buf
    some (if cfg.fingerprint || ss.enforceFingerprints then (stunAttrAddFingerprint buf).getD buf
      else buf)

/-- `peer_input_handler`, for the relay socket of the given family. -/
def peerInputHandler (family : ℕ) (nd : NetData) (c : Ctx) : Ctx :=
  match c.ss.clientSocket, c.ss.alloc.getRelaySocket family with
  | some s, some relayS =>
    if !nd.ttlLeft || relayS.toBeClosed || c.ss.toBeClosed || s.toBeClosed then c
    else if !c.ss.alloc.isValid then c
    else if !cfg.serverRelay &&
        (allocationGetPermission c.ss.alloc.toAddrTables nd.srcAddr).isNone then c
    else
      match peerMessage cfg env c.ss s.type nd with
      | none => c
      | some buf => c.emit (.relayToClient c.ss.id nd.srcAddr buf)
  | _, _ => c

/-- A datagram on the relay socket of a session. On the shared socket the table says whose it is. -/
def peerInput (sid family : ℕ) (nd : NetData) (srv : Server) : Server × List Effect :=
  withSession srv sid fun c =>
    if isMultiplexPeerUdpRelay cfg (c.ss.alloc.getRelaySocket family) &&
        srv.mpTable.get nd.srcAddr ≠ some sid then c
    else peerInputHandler cfg env family nd c

/-! ## Timers -/

/-- The sweep of a session. -/
def sweepSession (ctime : UInt32) (ss : Session) : Session :=
  if ss.alloc.isValid then
    ss.setTables (sweepAllocationTimedEvents ctime ss.alloc.toAddrTables)
  else ss

/-- The addresses of the permissions that the sweep of a session removes. -/
def sweptAddrs (ctime : UInt32) (ss : Session) : List IoaAddr :=
  if ss.alloc.isValid then
    (ss.alloc.addrToPerm.slots.filter fun info =>
      info.allocated && turnTimeBefore info.expirationTime ctime).map TurnPermissionInfo.addr
  else []

def sweptPeer (ctime : UInt32) (srv : Server) (key : IoaAddr) (value : ℕ) : Bool :=
  (srv.sessionsMap value).any fun ss =>
    (sweptAddrs ctime ss).any fun addr => mpDeregisterCb ss.id 0 (some addr) key value

/-- `timer_timeout_handler`: the table of multiplexed peers is walked once for all permissions that
the sweep removes. -/
def timerTimeoutHandler (ctime : UInt32) (srv : Server) : Server :=
  { srv with
    ctime := ctime
    sessionsMap := fun id => (srv.sessionsMap id).map (sweepSession ctime)
    mpTable :=
      if cfg.multiplexPeerMode then srv.mpTable.delWhere (sweptPeer ctime srv)
      else srv.mpTable }

/-- `set_allocation_family_invalid`: the TCP connections of the family go with the socket. -/
def setAllocationFamilyInvalid (family : ℕ) (srv : Server) (ss : Session) : Server × Session :=
  let gone : TcpConnection → Bool := fun tc => tc.peerFamily = some family
  (forgetTcs (ss.alloc.tcs.filter fun tc => tc.any gone) srv,
    { ss with
      alloc :=
        { ss.alloc with tcs := clearTcs gone ss.alloc.tcs }.setRelaySession family
          { ss.alloc.getRelaySession family with s := none, lifetimeEv := false } })

/-- The endpoint that has expired is given up; a shared socket stays open. -/
def expireRelay (sid family : ℕ) (s : RelayIoaSocket) (srv : Server) (ss : Session) :
    Server × Session :=
  if isMultiplexPeerUdpRelay cfg (some s) then
    (mpDeregisterSessionPeers srv sid s.family,
      { ss with
        alloc := ss.alloc.setRelaySession family
          { ss.alloc.getRelaySession family with s := none, lifetimeEv := false } })
  else setAllocationFamilyInvalid s.family srv ss

/-- `client_ss_allocation_timeout_handler` for the endpoint of the given family. -/
def allocationTimeout (sid family : ℕ) (srv : Server) : Server :=
  match srv.sessionsMap sid with
  | none => srv
  | some ss =>
    match ss.alloc.getRelaySocket family with
    | none => srv
    | some s =>
      let (srv, ss) := expireRelay cfg sid family s srv ss
      if (ss.alloc.getRelaySocket 2).isNone && (ss.alloc.getRelaySocket 10).isNone then
        shutdownClientConnection cfg false srv ss
      else srv.putSession ss

/-- `client_to_be_allocated_timeout_handler`: a session without a usable relay socket is closed. -/
def clientToBeAllocatedTimeout (sid : ℕ) (srv : Server) : Server :=
  match srv.sessionsMap sid with
  | none => srv
  | some ss =>
    let rs4 := ss.alloc.relayIpv4
    let rs6 := ss.alloc.relayIpv6
    let unusable (s : Option RelayIoaSocket) : Bool := s.all RelayIoaSocket.toBeClosed
    let toClose : Bool :=
      match ss.clientSocket with
      | none => true
      | some s =>
        s.toBeClosed || (s.appType != .httpsClient &&
          ((unusable rs4.s && unusable rs6.s) || (!rs4.lifetimeEv && !rs6.lifetimeEv) ||
            !ss.toBeAllocatedTimeoutEv))
    if toClose then shutdownClientConnection cfg true srv ss else srv

/-! ## TCP connections -/

def Session.tcOf (ss : Session) (handle : ℕ) : Option TcpConnection :=
  (ss.alloc.tcs.filterMap fun tc => tc).find? fun tc => tc.handle = handle

def Session.modifyTc (ss : Session) (handle : ℕ) (f : TcpConnection → TcpConnection) : Session :=
  { ss with
    alloc :=
      { ss.alloc with
        tcs := ss.alloc.tcs.map fun tc =>
          tc.map fun tc => if tc.handle = handle then f tc else tc } }

/-- The bytes of a connection id, as they are in memory. -/
def connectionIdBytes (id : UInt32) : List UInt8 := (beBytes 4 id.toNat).reverse

/-- `tcp_peer_connection_completed_callback`. -/
def tcpConnectCompleted (handle : ℕ) (success : Bool) (c : Ctx) : Ctx :=
  match c.ss.tcOf handle with
  | none => c
  | some tc =>
    if tc.state ≠ .clientToPeerConnecting then c
    else
      let ok := success && env.registerCallback
      let buf :=
        if ok then
          stunAttrAddIgnore (stunInitSuccessResponse stunMethodConnect tc.tid) attrConnectionId
            (connectionIdBytes tc.id)
        else
          stunInitErrorResponse stunMethodConnect (if success then 500 else 447) none tc.tid
            cfg.includeReasonString
      let buf :=
        if needStunAuthentication cfg then stunAttrAddIntegrity cfg.hmac buf c.ss.hmackey else buf
      let c := if c.ss.clientSocket.isSome then c.emit (.toClient c.ss.id buf) else c
      if ok then
        { c with ss := c.ss.modifyTc handle fun tc => { tc with state := .peerConnected } }
      else
        let (srv, ss) := deleteTcpConnection tc c.srv c.ss
        { c with srv := srv, ss := ss }

/-- A connection ends: by `tcp_conn_bind_timeout_handler`, or with one of its sockets. -/
def tcpConnectionClosed (handle : ℕ) (c : Ctx) : Ctx :=
  match c.ss.tcOf handle with
  | none => c
  | some tc =>
    let (srv, ss) := deleteTcpConnection tc c.srv c.ss
    { c with srv := srv, ss := ss }

/-- A peer has connected. -/
def tcpPeerAccept (peerAddr : IoaAddr) (c : Ctx) : Ctx :=
  if (getTcpConnectionByPeer c.ss.alloc peerAddr).isSome then c
  else if !goodPeerAddr cfg.peerFilter c.ss.realmOptions.name peerAddr then c
  else if !cfg.serverRelay &&
      (allocationGetPermission c.ss.alloc.toAddrTables peerAddr).isNone then c
  else
    let state := if env.registerCallback then TcState.peerConnected else TcState.unknown
    let peerFamily := if env.registerCallback then some peerAddr.family else none
    let (tc, srv, ss) :=
      createTcpConnection env state peerFamily (List.replicate 12 0) peerAddr c.srv c.ss
    let c := { c with srv := srv, ss := ss }
    if !env.registerCallback || c.ss.clientSocket.isNone then c
    else
      let buf := stunInitIndication stunMethodConnectionAttempt env.randomTid.toList
      let buf := stunAttrAddIgnore buf attrConnectionId (connectionIdBytes tc.id)
      let buf := addAddrIgnore cfg buf attrXorPeerAddress peerAddr
      let buf := maybeAddSoftwareAttribute cfg buf
      let buf :=
        if cfg.fingerprint || ss.enforceFingerprints then (stunAttrAddFingerprint buf).getD buf
        else buf
      c.emit (.toClient c.ss.id buf)

/-- The check of the credentials of a ConnectionBind. -/
abbrev bindAuth (tid : List UInt8) (nd : NetData) (c : Ctx) : Bool × Ctx :=
  checkStunAuth cfg env stunMethodConnectionBind tid false nd (stunAttrs nd.buf) c

/-- The check and the binding of `turnserver_accept_tcp_client_data_connection`. -/
def bindDataConnection (tc : TcpConnection) (tid : List UInt8) (s : IoaSocket) (nd : NetData)
    (c : Ctx) : Ctx :=
  if c.ss.toBeClosed || ioaSocketTobeclosed c.ss.clientSocket then c.failCode 404
  else
    let c := (bindAuth cfg env tid nd c).2
    if c.reply.errCode ≠ 0 then c
    else
      let c :=
        { c with
          ss := c.ss.modifyTc tc.handle fun tc =>
            { tc with state := .ready, clientS := some s.handle } }.emit
          (.dataConnectionBound c.ss.id tc.id)
      if env.registerCallback then c else c.failCode 500

/-- The response to a ConnectionBind, written to the socket that was handed over. -/
def connectionBindResponse (tid : List UInt8) (ss : Option Session) (r : Reply) : List UInt8 :=
  let buf :=
    r.resp.getD
      (if r.errCode = 0 then stunInitSuccessResponse stunMethodConnectionBind tid
      else
        stunInitErrorResponse stunMethodConnectionBind r.errCode none tid cfg.includeReasonString)
  let buf := maybeAddSoftwareAttribute cfg buf
  let buf :=
    match ss with
    | some ss => if r.messageIntegrity then stunAttrAddIntegrity cfg.hmac buf ss.hmackey else buf
    | none => buf
  if cfg.fingerprint || ss.any Session.enforceFingerprints then
    (stunAttrAddFingerprint buf).getD buf
  else buf

/-- The request may not be postponed. The id is freed whether or not the check succeeds. -/
def acceptTcpClientData (tcid : UInt32) (tid : List UInt8) (s : IoaSocket) (messageIntegrity : Bool)
    (nd : NetData) (srv : Server) : Server × List Effect :=
  let reply := { Reply.init with messageIntegrity := messageIntegrity }
  let answer (errCode : ℕ) (buf : List UInt8) : List Effect :=
    if errCode ≠ 0 ∧ env.registerCallback = false then [] else [.toSocket s.handle buf]
  let forget (srv : Server) : Server :=
    { srv with
      tcpRelayConnections := fun i => if i = tcid then none else srv.tcpRelayConnections i }
  if tcid = 0 then (srv, [])
  else
    match (srv.tcpRelayConnections tcid).bind fun e =>
        (srv.sessionsMap e.1).bind fun ss => (ss.tcOf e.2).map fun tc => (ss, tc) with
    | none =>
      (srv, answer 400 (connectionBindResponse cfg tid none { reply with errCode := 400 }))
    | some (ss, tc) =>
      if tc.state = .ready ∨ tc.clientS.isSome = true then
        (forget srv, answer 400 (connectionBindResponse cfg tid none { reply with errCode := 400 }))
      else
        let c := bindDataConnection cfg env tc tid s nd ⟨srv, ss, reply, []⟩
        (forget (c.srv.putSession c.ss),
          c.log ++ answer c.reply.errCode (connectionBindResponse cfg tid (some c.ss) c.reply))

/-! ## Events -/

/-- What happens to a thread. -/
inductive Event where
  /-- A client connection, with its first packet if there is one. -/
  | openSession (s : IoaSocket) (nd : Option NetData) (canResume : Bool)
  /-- A packet on the client socket of a session. -/
  | clientInput (sid : ℕ) (nd : NetData) (canResume : Bool)
  /-- The answer to the pending lookup number `i`; `none` when there is no such user. -/
  | resume (i : ℕ) (answer : Option KeyAnswer)
  /-- A datagram on the relay socket of a session. -/
  | peerInput (sid family : ℕ) (nd : NetData)
  | tick (ctime : UInt32)
  | allocationTimeout (sid family : ℕ)
  | toBeAllocatedTimeout (sid : ℕ)
  | cancelSession (sid : ℕ)
  /-- The client socket of a session is found broken. -/
  | clientSocketLost (sid : ℕ)
  /-- The relay socket of a session is found broken. -/
  | relaySocketLost (sid family : ℕ)
  | tcpConnectCompleted (sid handle : ℕ) (success : Bool)
  | tcpConnectionClosed (sid handle : ℕ)
  | tcpPeerAccept (sid : ℕ) (peerAddr : IoaAddr)
  /-- A client socket comes from the thread that got a ConnectionBind. -/
  | acceptTcpClientData (tcid : UInt32) (tid : List UInt8) (s : IoaSocket) (messageIntegrity : Bool)
    (nd : NetData)

/-- An event, the settings in force, and what its handling reads from outside. -/
structure Input where
  cfg : Config
  env : Env
  ev : Event

/-- The relay socket is to be closed. -/
def loseRelaySocket (family : ℕ) (a : Allocation) : Allocation :=
  let r := a.getRelaySession family
  a.setRelaySession family { r with s := r.s.map fun s => { s with toBeClosed := true } }

/-- What the thread does with an event: its new state, and what it has done. -/
def Server.handle (srv : Server) (i : Input) : Server × List Effect :=
  match i.ev with
  | .openSession s nd canResume => openClientConnectionSession i.cfg i.env s nd canResume srv
  | .clientInput sid nd canResume => Coturn.clientInput i.cfg i.env sid nd canResume srv
  | .resume n answer => resumeProcessing i.cfg i.env n answer srv
  | .peerInput sid family nd => Coturn.peerInput i.cfg i.env sid family nd srv
  | .tick ctime => (timerTimeoutHandler i.cfg ctime srv, [])
  | .allocationTimeout sid family => (Coturn.allocationTimeout i.cfg sid family srv, [])
  | .toBeAllocatedTimeout sid => (clientToBeAllocatedTimeout i.cfg sid srv, [])
  | .cancelSession sid =>
    ((srv.sessionsMap sid).elim srv (shutdownClientConnection i.cfg false srv), [])
  | .clientSocketLost sid =>
    withSession srv sid fun c =>
      { c with
        ss :=
          { c.ss with
            clientSocket := c.ss.clientSocket.map fun s => { s with toBeClosed := true } } }
  | .relaySocketLost sid family =>
    withSession srv sid fun c =>
      { c with ss := { c.ss with alloc := loseRelaySocket family c.ss.alloc } }
  | .tcpConnectCompleted sid handle success =>
    withSession srv sid (Coturn.tcpConnectCompleted i.cfg i.env handle success)
  | .tcpConnectionClosed sid handle => withSession srv sid (Coturn.tcpConnectionClosed handle)
  | .tcpPeerAccept sid peerAddr => withSession srv sid (Coturn.tcpPeerAccept i.cfg i.env peerAddr)
  | .acceptTcpClientData tcid tid s messageIntegrity nd =>
    Coturn.acceptTcpClientData i.cfg i.env tcid tid s messageIntegrity nd srv

def Server.step (srv : Server) (i : Input) : Server := (srv.handle i).1

end Coturn
