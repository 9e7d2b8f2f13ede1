/-
# The other request handlers

The handlers of `server/ns_turn_server.c` for all requests but Allocate and Refresh, and for Send
indications, with the TCP connections of `server/ns_turn_allocation.c` and the table of multiplexed
peers of `apps/relay/ns_ioalib_engine_impl.c`. They are called with no error code set.
-/
import Coturn.Server.Allocate

namespace Coturn

open ByteSeq

/-- The time and the lifetimes. -/
def Server.clock (srv : Server) (cfg : Config) : ServerClock where
  ctime := srv.ctime
  permissionLifetime := cfg.permissionLifetime
  channelLifetime := cfg.channelLifetime

def Session.setTables (ss : Session) (t : AddrTables) : Session :=
  { ss with alloc := { ss.alloc with toAddrTables := t } }

variable (cfg : Config) (env : Env) (tid : List UInt8) (nd : NetData) (attrs : List StunAttr)

/-! ## Multiplexed peers -/

/-- The socket is the shared one. -/
def isMultiplexPeerUdpRelay (relayS : Option RelayIoaSocket) : Bool :=
  cfg.multiplexPeerMode && relayS.any fun s => s.type = .udp && s.shared

/-- `mp_register_peer`: `none` when the endpoint belongs to another session. -/
def mpRegisterPeer (srv : Server) (peerAddr : IoaAddr) (sid : ℕ) : Option Server :=
  if (srv.mpTable.get peerAddr).any fun existing => existing ≠ sid then none
  else some { srv with mpTable := srv.mpTable.put peerAddr sid }

/-- `register_multiplex_peer`: whether it succeeds. -/
def registerMultiplexPeer (peerAddr : IoaAddr) (c : Ctx) : Bool × Ctx :=
  if addrGetPort peerAddr = 0 then (true, c)
  else if !isMultiplexPeerUdpRelay cfg (c.ss.alloc.getRelaySocket peerAddr.family) then (true, c)
  else
    match mpRegisterPeer c.srv peerAddr c.ss.id with
    | none => (false, c.fail 400 "Peer address already used by another multiplex-peer allocation")
    | some srv => (true, { c with srv := srv })

/-! ## ChannelBind -/

def handleTurnChannelBind (c : Ctx) : Ctx :=
  if c.ss.isTcpRelay then c.fail 403 "Channel bind cannot be used with TCP relay"
  else if !c.ss.alloc.isValid then c
  else
    let p := readChannelBind cfg c.ss.alloc tid attrs
    let c := c.afterLoop p
    if p.unknown ≠ [] then c.failCode 420
    else if p.errCode ≠ 0 then c
    else
      let r := bindChannel (c.srv.clock cfg) (goodPeerAddr cfg.peerFilter c.ss.realmOptions.name)
        c.ss.alloc.toAddrTables p.val.chnum p.val.peerAddr p.val.addrFound
      let c := { c with ss := c.ss.setTables r.2 }
      match r.1 with
      | some e => c.failWith e
      | none =>
        let c := c.emit (.channelUpdated c.ss.id p.val.chnum p.val.peerAddr)
        match registerMultiplexPeer cfg p.val.peerAddr c with
        | (false, c) => c
        | (true, c) => c.respond (stunInitSuccessResponse stunMethodChannelBind tid)

/-! ## CreatePermission -/

/-- One round of the second loop of `handle_turn_create_permission`. -/
def updatePeer (peerAddr : IoaAddr) (c : Ctx) : Ctx :=
  let r := updatePermission (c.srv.clock cfg) c.ss.alloc.toAddrTables (addrSetPort 0 peerAddr)
  let c := { c with ss := c.ss.setTables r.2 }.emit
    (.permissionUpdated c.ss.id (addrSetPort 0 peerAddr))
  if !r.1 then
    c.fail 500 "Cannot update some permissions (critical server software error)"
  else (registerMultiplexPeer cfg peerAddr c).2

def handleTurnCreatePermission (c : Ctx) : Ctx :=
  if !c.ss.alloc.isValid then c
  else
    let p := readCreatePermission cfg c.ss tid attrs
    let c := c.afterLoop p
    if p.unknown ≠ [] then c.failCode 420
    else if p.errCode ≠ 0 then c
    else if !p.val then c.fail 400 "No address found"
    else
      let c := (peerAddrs cfg tid attrs).foldl (fun c peer => updatePeer cfg peer c) c
      if c.reply.errCode = 0 then
        c.respond (stunInitSuccessResponse stunMethodCreatePermission tid)
      else c

/-! ## Send -/

/-- `ioa_network_buffer_add_offset_size`: nothing when the part would reach the end of the buffer.
-/
def bufferPart (buf : List UInt8) (offset len : ℕ) : List UInt8 :=
  if maxStunMessageSize ≤ offset + len then [] else (buf.drop offset).take len

/-- Send a datagram to a peer from the relay socket of its address family, if there is one. -/
def sendToPeer (peerAddr : IoaAddr) (payload : List UInt8) (c : Ctx) : Ctx :=
  match c.ss.alloc.getRelaySocket peerAddr.family with
  | none => c
  | some relayS => c.emit (.toPeer c.ss.id peerAddr payload relayS (c.srv.mpTable.get peerAddr))

/-- A Send indication. -/
def handleTurnSend (c : Ctx) : Ctx :=
  if c.ss.isTcpRelay then c.fail 403 "Send cannot be used with TCP relay"
  else if !c.ss.alloc.isValid || !nd.ttlLeft then c
  else
    let p := readSend cfg tid attrs
    let c := c.afterLoop p
    if p.errCode ≠ 0 then c
    else if p.unknown ≠ [] then c.failCode 420
    else
      match p.val.data with
      | none => c.fail 400 "No address found"
      | some data =>
        if addrAny p.val.peerAddr then c.fail 400 "No address found"
        else if !cfg.serverRelay &&
            (allocationGetPermission c.ss.alloc.toAddrTables p.val.peerAddr).isNone then c
        else
          match registerMultiplexPeer cfg p.val.peerAddr c with
          | (false, c) => c
          | (true, c) =>
            let payload :=
              if data = [] then [] else bufferPart nd.buf p.val.offset data.length
            sendToPeer p.val.peerAddr payload c

/-! ## TCP connections -/

/-- The first random number that gives an unused id, with the id of the server in the highest
byte. -/
def newTcId (srv : Server) : UInt32 :=
  let ids := (env.tcpRandom.map fun r => r &&& 0x00FFFFFF).filter (· != 0)
  ((ids.map fun r => r ||| (srv.id.toUInt32 <<< 24)).find? fun id =>
    (srv.tcpRelayConnections id).isNone).getD 0

def getTcpConnectionByPeer (a : Allocation) (peerAddr : IoaAddr) : Option TcpConnection :=
  (a.tcs.filterMap id).find? fun tc => addrEq tc.peerAddr peerAddr

/-- The first empty place of the list is used. -/
def addToTcs (tc : TcpConnection) : List (Option TcpConnection) → List (Option TcpConnection)
  | [] => [some tc]
  | none :: tcs => some tc :: tcs
  | some otc :: tcs => some otc :: addToTcs tc tcs

/-- `create_tcp_connection` for a peer that has no connection yet. -/
def createTcpConnection (state : TcState) (peerFamily : Option ℕ) (tid : List UInt8)
    (peerAddr : IoaAddr) (srv : Server) (ss : Session) : TcpConnection × Server × Session :=
  let id := newTcId env srv
  let tc : TcpConnection := ⟨srv.nextHandle, state, id, peerAddr, none, peerFamily, tid⟩
  (tc,
    { srv with
      tcpRelayConnections := fun i =>
        if i = id then some (ss.id, tc.handle) else srv.tcpRelayConnections i
      nextHandle := srv.nextHandle + 1 },
    { ss with alloc := { ss.alloc with tcs := addToTcs tc ss.alloc.tcs } })

/-- The places of the connections for which `p` holds become empty. -/
def clearTcs (p : TcpConnection → Bool) (tcs : List (Option TcpConnection)) :
    List (Option TcpConnection) :=
  tcs.map fun tc => tc.filter fun tc => !p tc

/-- `delete_tcp_connection`: the id is removed from the map whatever it stands for. -/
def deleteTcpConnection (tc : TcpConnection) (srv : Server) (ss : Session) : Server × Session :=
  ({ srv with
      tcpRelayConnections := fun i => if i = tc.id then none else srv.tcpRelayConnections i },
    { ss with
      alloc := { ss.alloc with tcs := clearTcs (fun t => t.handle = tc.handle) ss.alloc.tcs } })

/-! ## Connect and ConnectionBind -/

/-- A connection to the peer is begun. -/
def tcpStartConnectionToPeer (peerAddr : IoaAddr) (c : Ctx) : Ctx :=
  if (c.ss.alloc.getRelaySocket peerAddr.family).isNone then
    c.fail 500 "Server error: no relay connection created"
  else if (getTcpConnectionByPeer c.ss.alloc peerAddr).isSome then c.failCode 446
  else
    let (tc, srv, ss) :=
      createTcpConnection env .clientToPeerConnecting (some peerAddr.family) tid peerAddr c.srv c.ss
    if !env.connectingSocket then
      let (srv, ss) := deleteTcpConnection tc srv ss
      { c with srv := srv, ss := ss }.fail 500
        "Server error: TCP relay socket for connection cannot be created"
    else { c with srv := srv, ss := ss }.emit (.connectStarted c.ss.id peerAddr)

def handleTurnConnect (c : Ctx) : Ctx :=
  if !c.ss.isTcpRelay then c.fail 403 "Connect cannot be used with UDP relay"
  else if !c.ss.alloc.isValid then c.failCode 437
  else
    let p := readConnect cfg c.ss.alloc tid attrs
    let c := c.afterLoop p
    if p.unknown ≠ [] then c.failCode 420
    else if p.errCode ≠ 0 then c
    else if !p.val.found then c.fail 400 "Where is Peer Address ?"
    else if !goodPeerAddr cfg.peerFilter c.ss.realmOptions.name p.val.peerAddr then
      c.fail 403 "Forbidden IP"
    else tcpStartConnectionToPeer env tid p.val.peerAddr c

/-- Hand the client socket over to the thread of the connection. -/
def connectionBindTransfer (id : UInt32) (nd : NetData) (c : Ctx) : Ctx :=
  let close (c : Ctx) : Ctx := { c with ss := { c.ss with toBeClosed := true } }
  match env.sendSocketToRelay with
  | none => close (c.failCode 500)
  | some sent =>
    if ioaSocketTobeclosed c.ss.clientSocket then close (c.failCode 500)
    else
      match detachClientSocket env c with
      | (none, c) => close (c.failCode 500)
      | (some s, c) =>
        if sent then close (c.emit (.socketToRelay (id >>> 24).toUInt8 s.handle nd))
        else close (c.fail 400 "Wrong connection id")

/-- The first part of `handle_turn_connection_bind`. -/
def connectionBindStart (c : Ctx) : Ctx :=
  if c.ss.toBeClosed then c.failCode 400
  else if c.ss.alloc.isValid then
    c.fail 400 "Bad request: CONNECTION_BIND cannot be issued after allocation"
  else if !(c.ss.clientSocket.any fun s => isStreamSocket s.type) then
    c.fail 400 "Bad request: CONNECTION_BIND only possible with TCP/TLS"
  else
    let p := readConnectionBind attrs
    let c := c.afterLoop p
    if p.unknown ≠ [] then c.failCode 420
    else if p.errCode ≠ 0 then c
    else connectionBindTransfer env p.val nd c

def handleTurnConnectionBind (c : Ctx) : Ctx :=
  let c := connectionBindStart env nd attrs c
  if c.reply.resp.isNone && c.ss.clientSocket.isSome && !ioaSocketTobeclosed c.ss.clientSocket then
    let c := if c.reply.errCode = 0 then c.failCode 437 else c
    c.respond (stunInitErrorResponse stunMethodConnectionBind c.reply.errCode c.reply.reason tid
      cfg.includeReasonString)
  else c

/-! ## Binding -/

/-- Add an address attribute; the result of `stun_attr_add_addr_str` is ignored. -/
def addAddrIgnore (buf : List UInt8) (attrType : ℕ) (addr : IoaAddr) : List UInt8 :=
  (stunAttrAddAddr cfg.addrMapping buf attrType addr).getD buf

/-- The address that the response leaves from, and whether it is not the local address of the
client socket. -/
def responseOrigin (v : BindingVars) (localAddr other : IoaAddr) : Bool × IoaAddr :=
  if v.changeIp then
    (true, if v.changePort then other else addrSetPort (addrGetPort localAddr) other)
  else if v.changePort then (true, addrSetPort (addrGetPort other) localAddr)
  else (false, localAddr)

/-- The attributes of RFC 5780, and where the response leaves from and goes to when that is not the
usual way. -/
def bindingRfc5780 (oldStun : Bool) (v : BindingVars) (s : IoaSocket) (other : IoaAddr)
    (buf : List UInt8) : List UInt8 × Option (IoaAddr × IoaAddr) :=
  let (originChanged, origin) := responseOrigin v s.localAddr other
  let destination :=
    match v.responsePort with
    | none => s.remoteAddr
    | some port => addrSetPort port s.remoteAddr
  let (originAttr, otherAttr) :=
    if oldStun then (attrOldSourceAddress, attrOldChangedAddress)
    else (attrResponseOrigin, attrOtherAddress)
  let buf := addAddrIgnore cfg (addAddrIgnore cfg buf originAttr origin) otherAttr other
  let mtu := if env.localMtu < 68 then 1500 else env.localMtu
  let buf :=
    if v.padding then stunAttrAddIgnore buf attrPadding (List.replicate (mtu / 4 * 4 % 65536) 0)
    else buf
  (buf, if originChanged || v.responsePort.isSome then some (origin, destination) else none)

/-- `handle_turn_binding`; `cookie` is that of a message in the old format. -/
def handleTurnBinding (cookie : Option ℕ) (attrs : List StunAttr) (c : Ctx) :
    Ctx × Option (IoaAddr × IoaAddr) :=
  match c.ss.clientSocket with
  | none => (c, none)
  | some s =>
    let p := readBinding cfg s.type cookie.isSome attrs
    let c := c.afterLoop p
    if p.unknown ≠ [] then (c.failCode 420, none)
    else if p.errCode ≠ 0 then (c, none)
    else
      let buf := stunSetBindingResponse cfg.addrMapping tid s.remoteAddr cookie
        cfg.stunBackwardCompatibility
      let buf :=
        if cookie.isSome && p.val.useReflectedFrom then
          addAddrIgnore cfg buf attrOldReflectedFrom s.remoteAddr
        else buf
      match if cfg.rfc5780 then env.altAddr else none with
      | none => (c.respond buf, none)
      | some other =>
        let (buf, way) := bindingRfc5780 cfg env cookie.isSome p.val s other buf
        (c.respond buf, way)

end Coturn
