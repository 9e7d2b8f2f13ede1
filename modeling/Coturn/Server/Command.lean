/-
# Reading a client's packet

`handle_turn_command`, `handle_old_stun_command`, `write_to_peerchannel` and
`read_client_connection` of `server/ns_turn_server.c`: from the bytes of a packet to the check,
the handler and the response.
-/
import Coturn.Lib.TextNumber
import Coturn.Server.Handlers

namespace Coturn

open ByteSeq TextNumber

variable (cfg : Config) (env : Env) (method : ℕ) (tid : List UInt8) (nd : NetData)
  (attrs : List StunAttr) (canResume : Bool)

/-! ## Before the check -/

/-- The next alternate server of the given family, from the counter on, and the counter. -/
def nextAlternate (asl : List IoaAddr) (family : ℕ) : ℕ → ℕ → Option IoaAddr × ℕ
  | 0, counter => (none, counter)
  | n + 1, counter =>
    let counter := if asl.length ≤ counter then 0 else counter
    match asl[counter]? with
    | none => (none, counter + 1)
    | some addr =>
      if addr.family = family then (some addr, counter + 1)
      else nextAlternate asl family n (counter + 1)

/-- The client is redirected, if it can be. -/
def setAlternateServer (asl : List IoaAddr) (localAddr : IoaAddr) (method : ℕ) (tid : List UInt8)
    (c : Ctx) : Ctx :=
  if asl = [] ∨ (asl.any fun addr => addrEq addr localAddr) = true then c
  else
    let r := nextAlternate asl localAddr.family asl.length c.srv.asCounter
    let c := { c with srv := { c.srv with asCounter := r.2 } }
    match r.1 with
    | none => c
    | some addr =>
      let c := c.failCode 300
      let buf := stunInitErrorResponse method 300 c.reply.reason tid cfg.includeReasonString
      c.respond (addAddrIgnore cfg buf attrAlternateServer addr)

/-- The list of alternate servers for the type of the client socket. -/
def alternateServers (cst : SocketType) : List IoaAddr :=
  if (cst = .udp ∨ cst = .dtls) ∧ cfg.selfUdpBalance = true ∧ cfg.auxServersList ≠ [] then
    cfg.auxServersList
  else if (cst = .tls ∨ cst = .dtls ∨ cst = .tlsSctp) ∧ cfg.tlsAlternateServersList ≠ [] then
    cfg.tlsAlternateServersList
  else cfg.alternateServersList

/-- What `handle_turn_command` does first with an Allocate. -/
def checkAllocate (c : Ctx) : Ctx :=
  if c.ss.alloc.isValid = true ∧ c.ss.alloc.tid ≠ tid then
    c.fail 437 "Mismatched allocation: wrong transaction ID"
  else
    match c.ss.clientSocket with
    | none => c
    | some s =>
      setAlternateServer cfg (alternateServers cfg s.type) s.localAddr stunMethodAllocate tid c

/-- The canonical origins of a message. -/
def origins : List (List UInt8) :=
  (attrs.filter fun sar => sar.type == attrOrigin && sar.value != []).map fun sar =>
    cfg.getCanonicOrigin (cStr sar.value)

/-- The origin must be that of the session, once that is set. -/
def checkOrigins (c : Ctx) : Ctx :=
  if !c.ss.originSet || !cfg.checkOrigin then c
  else if c.ss.origin ≠ [] then
    if (origins cfg attrs).contains c.ss.origin then c
    else c.fail 441 "The origin attribute does not match the initial session origin value"
  else if origins cfg attrs ≠ [] then
    c.fail 441
      "The origin attribute is empty, does not match the initial session origin value"
  else c

/-- The first origin that belongs to a realm selects the realm; the last one that was tried stays
in the session. -/
def selectOrigin (cfg : Config) (realms : RealmTable) :
    List (List UInt8) → Session → RealmTable × Session
  | [], ss => (realms, ss)
  | o :: os, ss =>
    match cfg.originToRealm o with
    | some realm =>
      let r := realms.getRealmOptionsByName realm
      (r.2, { ss with origin := o, realmOptions := r.1 })
    | none => selectOrigin cfg realms os { ss with origin := o, realmOptions := realms.dflt.options }

/-- The origins select the realm. -/
def readOrigins (c : Ctx) : Ctx :=
  if c.reply.errCode = 0 ∧ c.ss.originSet = false ∧ method = stunMethodAllocate then
    c.account (selectOrigin cfg c.srv.realms (origins cfg attrs) c.ss)
  else c

/-- The handling goes on: no error code, no response and no order to keep silent. -/
def Ctx.open (c : Ctx) : Bool :=
  c.reply.errCode == 0 && c.reply.resp.isNone && !c.reply.noResponse

/-- A ConnectionBind is checked where the connection is, and a Refresh that may move a session by
its handler. -/
def checkRequest (nd : NetData) (attrs : List StunAttr) (c : Ctx) : Ctx :=
  if !c.open || method == stunMethodConnectionBind then c
  else if cfg.mobility = true ∧ method = stunMethodRefresh ∧ c.ss.alloc.isValid = false then c
  else
    let (postponed, c) := checkStunAuth cfg env method tid canResume nd attrs c
    let c := if postponed then c.silent else c
    if c.reply.errCode = 0 ∧ c.reply.messageIntegrity = true ∧ method = stunMethodAllocate then
      { c with ss := { c.ss with originSet := true } }
    else c

/-- What is done with a request before `check_stun_auth` is called. -/
def beforeCheck (attrs : List StunAttr) (c : Ctx) : Ctx :=
  let c := if method = stunMethodAllocate then checkAllocate cfg tid c else c
  readOrigins cfg method attrs (checkOrigins cfg attrs c)

/-- Everything that `handle_turn_command` does with a request before it calls the handler. -/
def admitRequest (nd : NetData) (attrs : List StunAttr) (c : Ctx) : Ctx :=
  if (method = stunMethodBinding ∧ cfg.noStun = true) ∨
      (method ≠ stunMethodBinding ∧ cfg.stunOnly = true) then
    c.silent
  else if method ≠ stunMethodBinding ∨ cfg.secureStun = true then
    checkRequest cfg env method tid canResume nd attrs (beforeCheck cfg method tid attrs c)
  else c

/-! ## Calling the handler -/

/-- Send a response from and to other addresses than usual. -/
def sendOtherWay (buf : List UInt8) (way : IoaAddr × IoaAddr) (c : Ctx) : Ctx :=
  { c with
    reply := { c.reply with noResponse := true }
    log := c.log ++ [.sendTo way.1 way.2 buf] }

def dispatchBinding (c : Ctx) : Ctx :=
  let (c, way) := handleTurnBinding cfg env tid none attrs c
  match c.reply.resp, way with
  | some buf, some way =>
    if c.reply.errCode = 0 then sendOtherWay (maybeAddSoftwareAttribute cfg buf) way c else c
  | _, _ => c

/-- The handler of the method. -/
def dispatch (nd : NetData) (attrs : List StunAttr) (c : Ctx) : Ctx :=
  match method with
  | stunMethodAllocate => handleTurnAllocate cfg env tid attrs c
  | stunMethodConnect =>
    let c := handleTurnConnect cfg env tid attrs c
    if c.reply.errCode = 0 then c.silent else c
  | stunMethodConnectionBind => handleTurnConnectionBind cfg env tid nd attrs c
  | stunMethodRefresh => handleTurnRefresh cfg env tid canResume nd attrs c
  | stunMethodChannelBind => handleTurnChannelBind cfg tid attrs c
  | stunMethodCreatePermission => handleTurnCreatePermission cfg tid attrs c
  | stunMethodBinding => dispatchBinding cfg env tid attrs c
  | _ => c

/-- The checks and the handler. -/
def handleRequest (nd : NetData) (attrs : List StunAttr) (c : Ctx) : Ctx :=
  let c := admitRequest cfg env method tid canResume nd attrs c
  if c.open then dispatch cfg env method tid canResume nd attrs c else c

/-- Only Send is handled. -/
def handleIndication (c : Ctx) : Ctx :=
  let c := c.silent
  match method with
  | stunMethodSend => handleTurnSend cfg tid nd attrs c
  | stunMethodData => c.failCode 403
  | _ => c

/-! ## The response -/

def unknownAttrsResponse (unknown : List ℕ) : List UInt8 :=
  stunAttrAddIgnore (stunInitErrorResponse method 420 none tid cfg.includeReasonString)
    attrUnknownAttributes (unknown.flatMap (beBytes 2))

/-- The end of `handle_turn_command`; the response is for an indication never needed. -/
def finishCommand (isIndication : Bool) (c : Ctx) : Ctx :=
  if c.ss.toBeClosed || c.ss.clientSocket.isNone || ioaSocketTobeclosed c.ss.clientSocket then c
  else
    let c :=
      if c.reply.unknownAttrs ≠ [] ∧ isIndication = false then
        (c.failCode 420).respond (unknownAttrsResponse cfg method tid c.reply.unknownAttrs)
      else c
    if c.reply.noResponse then { c with reply := { c.reply with resp := none } }
    else
      let c := if c.reply.resp.isNone ∧ c.reply.errCode = 0 then c.failCode 400 else c
      let buf := c.reply.resp.getD
        (stunInitErrorResponse method c.reply.errCode c.reply.reason tid cfg.includeReasonString)
      let buf := maybeAddSoftwareAttribute cfg buf
      c.respond (if c.reply.messageIntegrity then stunAttrAddIntegrity cfg.hmac buf c.ss.hmackey
        else buf)

/-- What `handle_turn_command` does up to the response. -/
def handleMessage (c : Ctx) : Ctx :=
  let method := stunGetMethod nd.buf
  let tid := stunTidFromMessage nd.buf
  let attrs := stunAttrs nd.buf
  if stunIsRequest nd.buf then handleRequest cfg env method tid canResume nd attrs c
  else if stunIsIndication nd.buf then handleIndication cfg method tid nd attrs c
  else c.silent

/-- A STUN message. -/
def handleTurnCommand (c : Ctx) : Ctx :=
  finishCommand cfg (stunGetMethod nd.buf) (stunTidFromMessage nd.buf) (stunIsIndication nd.buf)
    (handleMessage cfg env nd canResume c)

/-! ## Messages in the old format -/

/-- The text of the server, padded with zeros to a multiple of four. -/
def oldServerValue : List UInt8 :=
  let newsz := min ((cfg.version.length / 4 + 1) * 4) 120
  (cfg.version ++ List.replicate 120 0).take newsz

def addOldServer (buf : List UInt8) : List UInt8 :=
  stunAttrAddIgnore buf attrSoftware (oldServerValue cfg)

/-- A message in the old format. -/
def handleOldStunCommand (cookie : ℕ) (c : Ctx) : Ctx :=
  let method := stunGetMethod nd.buf
  let tid := stunTidFromMessage nd.buf
  if !stunIsRequest nd.buf || method != stunMethodBinding then
    c.silent
  else
    let (c, way) := handleTurnBinding cfg env tid (some cookie) (stunAttrs nd.buf) c
    match c.reply.resp, way with
    | some buf, some way => sendOtherWay (addOldServer cfg buf) way { c with reply := .init }
    | resp, _ =>
      let errCode := if c.reply.errCode = 0 then 400 else c.reply.errCode
      let buf :=
        if c.reply.unknownAttrs ≠ [] then
          stunAttrAddIgnore
            (oldStunInitErrorResponse method 420 none tid cookie cfg.includeReasonString)
            attrUnknownAttributes (c.reply.unknownAttrs.flatMap (beBytes 2))
        else
          resp.getD
            (oldStunInitErrorResponse method errCode c.reply.reason tid cookie
              cfg.includeReasonString)
      c.respond (addOldServer cfg buf)

/-! ## Packets -/

/-- `write_to_peerchannel`; `len` is the length of the message without padding. -/
def writeToPeerchannel (chnum : UInt16) (len : ℕ) (nd : NetData) (c : Ctx) : Ctx :=
  if !nd.ttlLeft || !c.ss.alloc.isValid then c
  else
    match (allocationGetChInfo c.ss.alloc.toAddrTables chnum).bind
        c.ss.alloc.toAddrTables.chns.get? with
    | none => c
    | some chn => sendToPeer chn.peerAddr (bufferPart nd.buf 4 (len - 4)) c

def sheadof (ignoreCase : Bool) : List UInt8 → List UInt8 → Bool
  | [], _ => true
  | _ :: _, [] => false
  | h :: head, f :: full =>
    (h == f || ignoreCase && toLower h == toLower f) && sheadof ignoreCase head full

/-- Where the text is found first. -/
def findstr (hay needle : List UInt8) (ignoreCase : Bool) : Option ℕ :=
  hay.tails.findIdx? (sheadof ignoreCase needle)

/-- `strtoul` to the base 10. -/
def strtoul (s : List UInt8) : ℕ :=
  let n := signed (digitsValue 10 decDigit? 0) s
  if 2 ^ 64 ≤ n.natAbs then 2 ^ 64 - 1 else (n % 2 ^ 64).toNat

/-- `is_http`. The number in the header is read beyond the end of the buffer: `room` is what stands
there. -/
def isHttp (s room : List UInt8) : ℕ :=
  if 12 ≤ s.length ∧
      (["GET ", "POST ", "DELETE ", "PUT "].any fun m => sheadof false (asciiBytes m) s) then
    match findstr (s.drop 4) (asciiBytes " HTTP/") false with
    | none => 0
    | some i =>
      let diffBlen := 4 + i + 6
      if diffBlen + 4 ≤ s.length then
        match findstr (s.drop diffBlen) [0x0D, 0x0A, 0x0D, 0x0A] false with
        | none => 0
        | some j =>
          let sp := diffBlen + j
          let retLen := sp + 4
          match findstr (s.take sp) (asciiBytes "content-length: ") true with
          | none => retLen
          | some k =>
            let clen := strtoul ((s ++ room).drop (k + 16))
            if 0 < clen ∧ clen < 0x0FFFFFFF then retLen + clen else retLen
      else 0
  else 0

/-- The bytes after the packet do not matter for this test, so `readOther` gives none. -/
lemma isHttp_eq_zero_iff (s room : List UInt8) : isHttp s room = 0 ↔ isHttp s [] = 0 := by
  unfold isHttp
  split_ifs
  · split
    · rfl
    · dsimp only
      split_ifs
      · split
        · rfl
        · split
          · rfl
          · split_ifs <;> simp
      · rfl
  · rfl

/-- A packet of another kind on a stream: the answers to web browsers are left out. -/
def readOther (s : IoaSocket) (nd : NetData) (ss : Session) : Session :=
  let setAppType (t : SocketAppType) (ss : Session) : Session :=
    { ss with clientSocket := some { s with appType := t } }
  if !isStreamSocket s.type || isHttp nd.buf [] = 0 then ss
  else if s.type = .tcp ∧ env.acmeRedirect = true then { ss with toBeClosed := true }
  else if cfg.webAdminListenOnWorkers then
    if s.type = .tls then
      { setAppType .httpsClient ss with
        toBeClosed := true
        clientSocket := some { s with appType := .httpsClient, toBeClosed := true } }
    else setAppType .httpClient ss
  else if cfg.respondHttpUnsupported then
    if s.type = .tls then setAppType .httpsClient ss else ss
  else { ss with toBeClosed := true }

/-- Write the response, if any, to the client; with a fingerprint when `fingerprint`. -/
def writeResponse (fingerprint : Bool) (c : Ctx) : Ctx :=
  match c.reply.resp with
  | none => c
  | some buf =>
    match if fingerprint then stunAttrAddFingerprint buf else some buf with
    | none => c
    | some buf => c.emit (.toClient c.ss.id buf)

/-- A STUN message that has passed the full check. -/
def readCommand (c : Ctx) : Ctx :=
  let c := handleTurnCommand cfg env nd canResume c
  if c.ss.toBeClosed || ioaSocketTobeclosed c.ss.clientSocket then c
  else writeResponse (cfg.fingerprint || c.ss.enforceFingerprints) c

/-- Remember whether the client sends fingerprints. -/
def Ctx.enforceFingerprints (c : Ctx) (enforce : Bool) : Ctx :=
  { c with ss := { c.ss with enforceFingerprints := enforce } }

/-- A packet of a client. -/
def readClientConnection (c : Ctx) : Ctx :=
  match c.ss.clientSocket with
  | none => c
  | some s =>
    if c.ss.toBeClosed || s.toBeClosed then c
    else if s.appType = .httpClient ∨ s.appType = .httpsClient then c
    else
      match stunIsChannelMessage nd.buf (isStreamSocket s.type) with
      | some (chnum, len) => if c.ss.isTcpRelay then c else writeToPeerchannel chnum len nd c
      | none =>
        let r := stunIsCommandMessageFullCheck nd.buf false c.ss.enforceFingerprints
        let c := c.enforceFingerprints r.2
        if r.1 then readCommand cfg env nd canResume c
        else
          match oldStunIsCommandMessage nd.buf with
          | some cookie =>
            if !cfg.noStun && cfg.stunBackwardCompatibility then
              writeResponse false (handleOldStunCommand cfg env nd cookie c)
            else { c with ss := readOther cfg env s nd c.ss }
          | none => { c with ss := readOther cfg env s nd c.ss }

end Coturn
