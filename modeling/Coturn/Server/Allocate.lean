/-
# Allocate and Refresh

`handle_turn_allocate` and `handle_turn_refresh` of `server/ns_turn_server.c` with the functions
they call: the maps of mobile ids, the creation and the refresh of relay endpoints, and the
transfer of a session to another client socket. Both handlers are called with no error code
set.
-/
import Coturn.Server.Requests

namespace Coturn

open ByteSeq

/-! ## The map of mobile ids -/

/-- The first random number that gives an unused id, with the id of the server in the highest
byte. -/
def getNewMobileId (env : Env) (srv : Server) : UInt64 :=
  let ids := (env.mobileRandom.map fun r => r &&& 0x00FFFFFFFFFFFFFF).filter (· != 0)
  ((ids.map fun r => r ||| (srv.id.toUInt64 <<< 56)).find? fun id =>
    (srv.mobileConnectionsMap id).isNone).getD 0

/-- The session gets a mobile id. -/
def putSessionIntoMobileMap (cfg : Config) (env : Env) (srv : Server) (ss : Session) :
    Server × Session :=
  if !cfg.mobility then (srv, ss)
  else
    let mid := if ss.mobileId = 0 then getNewMobileId env srv else ss.mobileId
    let ss :=
      if ss.mobileId = 0 then { ss with mobileId := mid, sMobileId := mobileIdToString mid } else ss
    ({ srv with
        mobileConnectionsMap := fun id =>
          if id = mid then some ss.id else srv.mobileConnectionsMap id },
      ss)

/-- The session loses its mobile id. -/
def deleteSessionFromMobileMap (srv : Server) (ss : Session) : Server × Session :=
  if ss.mobileId = 0 then (srv, ss)
  else
    ({ srv with
        mobileConnectionsMap := fun id =>
          if id = ss.mobileId then none else srv.mobileConnectionsMap id },
      { ss with mobileId := 0, sMobileId := [] })

def getSessionFromMobileMap (cfg : Config) (srv : Server) (mid : UInt64) : Option Session :=
  if !cfg.mobility || mid == 0 then none
  else (srv.mobileConnectionsMap mid).bind srv.sessionsMap

variable (cfg : Config) (env : Env) (tid : List UInt8) (canResume : Bool) (nd : NetData)
  (transport : Transport) (attrs : List StunAttr) (v : RefreshVars) (ss : Session)

/-! ## Relay endpoints -/

/-- The lifetime that is granted. -/
def stunAdjustAllocateLifetime (lifetime maxAllowedLifetime maxLifetime : UInt32) : UInt32 :=
  let lifetime :=
    if lifetime = 0 then 600
    else if lifetime < 600 then 600
    else if maxAllowedLifetime < lifetime then maxAllowedLifetime
    else lifetime
  if maxLifetime ≠ 0 ∧ maxLifetime < lifetime then maxLifetime else lifetime

/-- `none`, or the error code and the reason; the reservation token; and the allocation. -/
structure RelayOutcome where
  error : Option TurnError
  token : ℕ
  alloc : Allocation

/-- The second half of `create_relay_connection`, for the new socket of the endpoint. -/
def setupRelaySocket (ctime : UInt32) (a : Allocation) (lifetime : UInt32) (family : ℕ)
    (multiplexPeerUdp : Bool) (s : Option RelayIoaSocket) (rtcp : Bool) (token : ℕ) :
    RelayOutcome :=
  let closed := a.setRelaySession family .empty
  match s with
  | none => ⟨some ⟨508, some "Cannot create relay socket"⟩, token, closed⟩
  | some s =>
    if rtcp = true ∧ token = 0 then
      ⟨some ⟨500, some "Wrong reservation tokens (internal error)"⟩, token, closed⟩
    else if s.type ≠ .tcp ∧ multiplexPeerUdp = false ∧ env.registerCallback = false then
      ⟨some ⟨500, some "Wrong initialization (internal error)"⟩, token, closed⟩
    else
      let lifetime :=
        if lifetime < 1 then 600
        else if cfg.maxAllocateLifetime < lifetime then cfg.maxAllocateLifetime
        else lifetime
      let a := a.setRelaySession family { RelayEndpointSession.empty with s := some s }
      ⟨none, token, a.setAllocationLifetimeEv (ctime + lifetime) s.family⟩

/-- Nothing happens when the client socket is gone, and that counts as a success. -/
def createRelayConnection (ctime : UInt32) (ss : Session) (lifetime : UInt32) (family : ℕ)
    (transport : Transport) (inReservationToken token : ℕ) : RelayOutcome :=
  let a := ss.alloc
  let multiplexPeerUdp := cfg.multiplexPeerMode && transport == .udp
  if ss.clientSocket.isNone || ioaSocketTobeclosed ss.clientSocket then ⟨none, token, a⟩
  else if multiplexPeerUdp = true ∧ inReservationToken ≠ 0 then
    ⟨some ⟨400, some "Reservation tokens are not supported with multiplex-peer"⟩, token, a⟩
  else if inReservationToken ≠ 0 then
    match (env.reservedSocket inReservationToken).filter fun s => !s.toBeClosed with
    | none => ⟨some ⟨508, some "Cannot find reserved socket"⟩, token, a⟩
    | some s =>
      setupRelaySocket cfg env ctime a lifetime s.family multiplexPeerUdp (some s) false token
  else
    match env.createRelay family with
    | .failure errCode reason =>
      ⟨some ⟨if errCode = 0 then 508 else errCode, some (reason.getD "Cannot create socket")⟩,
        token, a.setRelaySession family .empty⟩
    | .ok s rtcp token =>
      setupRelaySocket cfg env ctime a lifetime family multiplexPeerUdp s rtcp token

/-- `refresh_relay_connection` on a valid allocation. -/
def refreshRelayConnection (ctime : UInt32) (a : Allocation) (lifetime : UInt32) (family : ℕ) :
    Allocation :=
  a.setAllocationLifetimeEv (ctime + if lifetime < 1 then 1 else lifetime) family

/-! ## Allocate -/

/-- The address that the response gives for a family: a cleared one after a failure. -/
def xorRelayedAddr (a : Allocation) (family : ℕ) : Option IoaAddr :=
  if a.getRelaySessionFailure family then some .unset
  else
    (a.getRelaySocket family).map fun s =>
      match cfg.externalIp with
      | some ip => addrSetPort (addrGetPort s.localAddr) ip
      | none => s.localAddr

/-- The success response of an Allocate, when the allocation has an address to report. -/
def allocateResponse (lifetime : UInt32) (token : ℕ) : Option (List UInt8) :=
  let addr1 := xorRelayedAddr cfg ss.alloc 2
  let addr2 := xorRelayedAddr cfg ss.alloc 10
  if addr1.isNone && addr2.isNone then none
  else
    some (stunSetAllocateResponse cfg.addrMapping tid addr1 addr2
      ((ss.clientSocket.map IoaSocket.remoteAddr).getD .unset) lifetime cfg.maxAllocateLifetime token
      ss.sMobileId)

/-- An Allocate on a valid allocation: the answer to a retransmission is built again. -/
def allocateAgain (c : Ctx) : Ctx :=
  let a := c.ss.alloc
  if tid ≠ a.tid then c.fail 437 "Wrong TID"
  else
    let family := (((xorRelayedAddr cfg a 2).or (xorRelayedAddr cfg a 10)).getD .unset).family
    let lifetime := (a.getRelaySession family).expirationTime - c.srv.ctime
    match allocateResponse cfg tid c.ss lifetime 0 with
    | none => c
    | some buf => c.respond buf

/-- The bandwidth is granted. -/
def allocateBandwidth (bps : ℕ) (c : Ctx) : Ctx :=
  match env.allocateBps with
  | none => c
  | some allocate =>
    let maxBps := c.ss.realmOptions.maxBps
    let bps := if maxBps ≠ 0 ∧ (bps = 0 ∨ maxBps < bps) then maxBps else bps
    if bps ≠ 0 ∧ c.ss.bps = 0 then
      let c := { c with ss := { c.ss with bps := allocate bps } }
      if c.ss.bps = 0 then c.fail 486 "Allocation Bandwidth Quota Reached" else c
    else c

/-- The checks between the bandwidth and the creation of endpoints; a later one overwrites the
error of an earlier one. -/
def allocateChecks (v : AllocateVars) (c : Ctx) : Ctx :=
  let dual := v.af4 && v.af6
  let c :=
    if dual = true ∧ cfg.externalIp.isSome = true then
      c.fail 440 "Dual allocation cannot be supported in the current server configuration"
    else c
  let c :=
    if dual = true ∧ v.evenPort = some true then
      c.fail 440 "Dual allocation cannot be supported with even-port functionality"
    else c
  if cfg.isDraining then
    c.fail 403 "Server is draining, then will shutdown, please try another server"
  else c

/-- The families of the new endpoints, with the default when none was requested. -/
def allocateFamilies (v : AllocateVars) : Bool × Bool :=
  if v.af4 || v.af6 then (v.af4, v.af6)
  else
    match cfg.allocationDefaultAddressFamily with
    | .keep =>
      let v6 := ss.clientSocket.any fun s => s.family = 10
      (!v6, v6)
    | .ipv6 => (false, true)
    | .ipv4 => (true, false)

/-- One endpoint, and the failure mark when it cannot be created. -/
def allocateRelay (ctime : UInt32) (transport : Transport) (v : AllocateVars) (lifetime : UInt32)
    (family token : ℕ) (ss : Session) : Option TurnError × ℕ × Session :=
  let r :=
    createRelayConnection cfg env ctime ss lifetime family transport v.inReservationToken token
  match r.error with
  | none => (none, r.token, { ss with alloc := r.alloc })
  | some e => (some e, r.token, { ss with alloc := r.alloc.setRelaySessionFailure family })

/-- The error codes of the two families, the reservation token, and the outcome. With two families
one failure is tolerated. -/
def allocateRelays (v : AllocateVars) (lifetime : UInt32) (c : Ctx) : (ℕ × ℕ × ℕ) × Ctx :=
  let ctime := c.srv.ctime
  match allocateFamilies cfg c.ss v with
  | (true, true) =>
    let (e4, token, ss) := allocateRelay cfg env ctime transport v lifetime 2 0 c.ss
    let (e6, token, ss) := allocateRelay cfg env ctime transport v lifetime 10 token ss
    let c := { c with ss := ss }
    let codes := ((e4.map TurnError.code).getD 0, (e6.map TurnError.code).getD 0, token)
    match e4, e6 with
    | some e4, some _ =>
      (codes, { c with reply := { c.reply with errCode := e4.code, reason := e4.reason } })
    | _, _ => (codes, c)
  | (af4, _) =>
    let family := if af4 then 2 else 10
    let (e, token, ss) := allocateRelay cfg env ctime transport v lifetime family 0 c.ss
    let c := { c with ss := ss }
    match e with
    | some e =>
      ((0, 0, token), c.failWith e)
    | none => ((0, 0, token), c)

/-- The allocation is valid, and the client is told. -/
def allocateAccept (lifetime : UInt32) (token : ℕ) (c : Ctx) : Ctx :=
  let c := { c with ss := { c.ss with alloc := { c.ss.alloc with isValid := true, tid := tid } } }
  let c := c.emit (.allocationCreated c.ss.id)
  match allocateResponse cfg tid c.ss lifetime token with
  | none => c
  | some buf => c.respond (if c.ss.bps ≠ 0 then stunAttrAddBandwidth buf c.ss.bps else buf)

/-- A session that is not to be mobile loses its place in the map of mobile ids. -/
def allocateUnlist (c : Ctx) : Ctx :=
  if cfg.mobility = true ∧ c.ss.isMobile = false then
    let (srv, ss) := deleteSessionFromMobileMap c.srv c.ss
    { c with srv := srv, ss := ss }
  else c

/-- A new allocation from the values that were read: the error codes of the two families, and the
outcome. -/
def allocateNew (v : AllocateVars) (c : Ctx) : (ℕ × ℕ) × Ctx :=
  let c := allocateUnlist cfg c
  let lifetime :=
    stunAdjustAllocateLifetime v.lifetime cfg.maxAllocateLifetime c.ss.maxSessionTimeAuth
  match incQuota cfg c.srv.realms c.ss v.username with
  | (false, r) => ((0, 0), (c.account r).failCode 486)
  | (true, r) =>
    let c := allocateChecks cfg v (allocateBandwidth env v.bps (c.account r))
    let ((err4, err6, token), c) :=
      if c.reply.errCode = 0 then allocateRelays cfg env transport v lifetime c else ((0, 0, 0), c)
    if c.reply.errCode ≠ 0 then
      ((err4, err6),
        { c with
          reply :=
            { c.reply with
              reason := some (c.reply.reason.getD "Cannot create relay endpoint(s)") } })
    else ((err4, err6), allocateAccept cfg tid lifetime token c)

/-- An Allocate without an allocation. -/
def allocateFresh (c : Ctx) : (ℕ × ℕ) × Ctx :=
  let p := readAllocate cfg c.ss attrs
  let c :=
    { c.afterLoop p with
      ss := { c.ss with isMobile := p.val.isMobile, isTcpRelay := p.val.isTcpRelay } }
  match p.val.transport with
  | none => ((0, 0), c.fail 400 (p.reason.getD "Transport field missed or wrong"))
  | some transport =>
    if p.unknown ≠ [] then ((0, 0), c.failCode 420)
    else if p.errCode ≠ 0 then ((0, 0), c)
    else if transport = .tcp ∧
        (p.val.dontFragment = true ∨ p.val.inReservationToken ≠ 0 ∨
          p.val.evenPort.isSome = true) then
      ((0, 0), c.fail 400 "Request parameters are incompatible with TCP transport")
    else allocateNew cfg env tid transport p.val c

/-- An error response when there is no response yet, else the error codes of single families. -/
def allocateFinish (err4 err6 : ℕ) (c : Ctx) : Ctx :=
  match c.reply.resp with
  | none =>
    let c := if c.reply.errCode = 0 then c.failCode 437 else c
    c.respond (stunInitErrorResponse stunMethodAllocate c.reply.errCode c.reply.reason tid
      cfg.includeReasonString)
  | some buf =>
    if c.reply.errCode ≠ 0 then c
    else
      let buf := if err4 ≠ 0 then stunAttrAddAddressErrorCode buf 1 err4 else buf
      c.respond (if err6 ≠ 0 then stunAttrAddAddressErrorCode buf 2 err6 else buf)

def handleTurnAllocate (c : Ctx) : Ctx :=
  if c.ss.alloc.isValid then allocateFinish cfg tid 0 0 (allocateAgain cfg tid c)
  else
    let ((err4, err6), c) := allocateFresh cfg env tid attrs c
    allocateFinish cfg tid err4 err6 c

/-! ## Refresh -/

/-- What the loop reads of the session. -/
def refreshView : RefreshView :=
  let socks := ([ss.alloc.relayIpv4.s, ss.alloc.relayIpv6.s].filterMap id).filter fun s =>
    !s.toBeClosed
  { af4c := socks.any fun s => s.family = 2
    af6c := socks.any fun s => s.family = 10
    isValid := ss.alloc.isValid
    oldMobileId := ss.oldMobileId }

/-- Refresh the endpoints of the given families of a valid allocation. -/
def refreshFamilies (ctime : UInt32) (lifetime : UInt32) (af4 af6 : Bool) (ss : Session) : Session :=
  let a := ss.alloc
  let a := if af4 then refreshRelayConnection ctime a lifetime 2 else a
  let a := if af6 then refreshRelayConnection ctime a lifetime 10 else a
  { ss with alloc := a }

/-- The reports of a Refresh. -/
def refreshEffects (sid : ℕ) (af4 af6 : Bool) : List Effect :=
  (if af4 then [.allocationRefreshed sid 2] else []) ++
    (if af6 then [.allocationRefreshed sid 10] else [])

/-- The lifetime that is granted. -/
def refreshLifetime : UInt32 :=
  if v.toDelete then 0
  else stunAdjustAllocateLifetime v.lifetime cfg.maxAllocateLifetime ss.maxSessionTimeAuth

/-- A Refresh with an allocation. -/
def refreshValid (c : Ctx) : Ctx :=
  let view := refreshView c.ss
  let lifetime := refreshLifetime cfg v c.ss
  let (af4, af6) := if v.af4 || v.af6 then (v.af4, v.af6) else (view.af4c, view.af6c)
  let buf := stunInitSuccessResponse stunMethodRefresh tid
  let buf :=
    if c.ss.sMobileId ≠ [] then stunAttrAddIgnore buf attrMobilityTicket c.ss.sMobileId else buf
  let buf := stunAttrAddIgnore buf attrLifetime (beBytes 4 lifetime.toNat)
  { c with
    ss := refreshFamilies c.srv.ctime lifetime af4 af6 c.ss
    log := c.log ++ refreshEffects c.ss.id af4 af6 }.respond buf

/-- `detach_ioa_socket` on the client socket: the new socket takes its place on the connection. -/
def detachClientSocket (c : Ctx) : Option IoaSocket × Ctx :=
  match c.ss.clientSocket with
  | none => (none, c)
  | some s =>
    if s.toBeClosed then (none, c)
    else
      let c :=
        { c with
          srv := { c.srv with nextHandle := c.srv.nextHandle + 1 }
          ss := { c.ss with clientSocket := some { s with toBeClosed := true } } }
      if env.detach then (some { s with handle := c.srv.nextHandle - 1 }, c) else (none, c)

/-- The ticket belongs to another relay thread, which gets the client socket and the request. -/
def refreshElsewhere (tsid : UInt8) (nd : NetData) (c : Ctx) : Ctx :=
  let close (c : Ctx) : Ctx := { c with ss := { c.ss with toBeClosed := true } }
  match env.sendSocketToRelay with
  | none => close (c.fail 500 "Server send socket procedure is not set")
  | some sent =>
    match detachClientSocket env c with
    | (none, c) => c.fail 500 "Cannot create new socket"
    | (some s, c) =>
      if sent then
        close
          { c with
            reply := { c.reply with noResponse := true }
            log := c.log ++ [.socketToRelay tsid s.handle nd] }
      else close (c.fail 400 "Wrong mobile ticket")

def maybeAddSoftwareAttribute (buf : List UInt8) : List UInt8 :=
  if cfg.softwareAttribute then stunAttrAddIgnore buf attrSoftware cfg.version else buf

/-- The response to a Refresh that has moved the session `ss` to its new client socket. -/
def transferResponse (lifetime : UInt32) (messageIntegrity : Bool) (ss : Session) :
    Option (List UInt8) :=
  let buf := stunInitSuccessResponse stunMethodRefresh tid
  let buf := stunAttrAddIgnore buf attrLifetime (beBytes 4 lifetime.toNat)
  let buf := stunAttrAddIgnore buf attrMobilityTicket ss.sMobileId
  let buf := maybeAddSoftwareAttribute cfg buf
  let buf := if messageIntegrity then stunAttrAddIntegrity cfg.hmac buf ss.hmackey else buf
  if cfg.fingerprint || ss.enforceFingerprints then stunAttrAddFingerprint buf else some buf

/-- The session `orig` takes over the authentication parameters, gets a new mobile id, and is told
so. -/
def transferDone (mid : UInt64) (lifetime : UInt32) (orig : Session) (c : Ctx) : Ctx :=
  let (realms, orig) :=
    if c.ss.hmackeySet then copyAuthParameters cfg c.ss c.srv.realms orig else (c.srv.realms, orig)
  let (srv, ss) := deleteSessionFromMobileMap c.srv c.ss
  let (srv, orig) := deleteSessionFromMobileMap srv orig
  let (srv, orig) := putSessionIntoMobileMap cfg env srv orig
  let (realms, ss) := decQuota cfg realms ss
  let (_, realms, orig) := incQuota cfg realms orig orig.username
  let orig := { orig with oldMobileId := mid }
  let c := { c with srv := { srv with realms := realms }.putSession orig, ss := ss }
  match transferResponse cfg tid lifetime c.reply.messageIntegrity orig with
  | none => c.failCode 500
  | some buf =>
    { c with
      reply := { c.reply with noResponse := true }
      log := c.log ++ [.toClient orig.id buf] }

/-- The transfer of the client socket to the session `orig`, after the check. -/
def transferSession (view : RefreshView) (orig : Session) (c : Ctx) : Ctx :=
  let lifetime := refreshLifetime cfg v c.ss
  if (view.af4c || view.af6c) && !orig.alloc.isValid then
    c.fail 437 "Cannot refresh relay connection (internal error)"
  else
    let orig := refreshFamilies c.srv.ctime lifetime view.af4c view.af6c orig
    let c :=
      { c with
        srv := c.srv.putSession orig
        log := c.log ++ refreshEffects orig.id view.af4c view.af6c }
    let (s, c) := detachClientSocket env c
    let c := { c with ss := { c.ss with toBeClosed := true } }
    match s with
    | none => c.failCode 500
    | some s =>
      let orig := { orig with clientSocket := some s }
      let c := { c with srv := c.srv.putSession orig }
      if !env.registerCallback then c.failCode 500
      else transferDone cfg env tid v.mid lifetime orig c

/-- The session that is checked for a transfer: in the realm of `orig`, and with its authentication
parameters when it has no key of its own. -/
def transferCandidate (orig : Session) (realms : RealmTable) (ss : Session) :
    RealmTable × Session :=
  let r := realms.getRealmOptionsByName orig.realmOptions.name
  let ss := { ss with realmOptions := r.1 }
  if !ss.hmackeySet then copyAuthParameters cfg orig r.2 ss else (r.2, ss)

/-- Ready to be checked for a transfer. -/
abbrev Ctx.forTransfer (c : Ctx) (cfg : Config) (orig : Session) : Ctx :=
  c.account (transferCandidate cfg orig c.srv.realms c.ss)

/-- A Refresh with a mobility ticket for a session of this thread. -/
def refreshTransfer (c : Ctx) : Ctx :=
  match getSessionFromMobileMap cfg c.srv v.mid with
  | none => c.fail 404 "Allocation not found"
  | some orig =>
    if orig.toBeClosed || ioaSocketTobeclosed orig.clientSocket then
      c.fail 404 "Allocation not found"
    else if orig.id = c.ss.id then c.fail 437 "Invalid allocation"
    else if !orig.isMobile then c.fail 500 "Software error: invalid mobile allocation"
    else if orig.clientSocket.map IoaSocket.handle = c.ss.clientSocket.map IoaSocket.handle then
      c.fail 500 "Software error: invalid mobile client socket (orig)"
    else if c.ss.clientSocket.isNone then
      c.fail 500 "Software error: invalid mobile client socket (new)"
    else
      let view := refreshView c.ss
      let (postponed, c) :=
        checkStunAuth cfg env stunMethodRefresh tid canResume nd attrs (c.forTransfer cfg orig)
      if postponed then c.silent
      else if c.reply.errCode ≠ 0 then c
      else transferSession cfg env tid v view orig c

/-- The error response is left to the caller. -/
def handleTurnRefresh (c : Ctx) : Ctx :=
  if !c.ss.alloc.isValid && !cfg.mobility then c.fail 437 "Invalid allocation"
  else
    let p := readRefresh cfg (refreshView c.ss) attrs
    let c := c.afterLoop p
    if p.unknown ≠ [] then c.failCode 420
    else if p.errCode ≠ 0 then c
    else if c.ss.alloc.isValid then refreshValid cfg tid p.val c
    else if p.val.mid = 0 ∨ (cStr p.val.smid) = [] then c.fail 437 "Invalid allocation"
    else
      let tsid := (p.val.mid >>> 56).toUInt8
      if tsid ≠ c.srv.id then refreshElsewhere env tsid nd c
      else refreshTransfer cfg env tid canResume nd attrs p.val c

end Coturn
