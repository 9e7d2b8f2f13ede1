/-
# The state of a relay thread

The sessions, allocations and maps of one `turn_turnserver` (`server/ns_turn_server.h`,
`ns_turn_session.h`, `ns_turn_allocation.h`), its settings, and what one event reads from outside.
Maps are functions; a pointer to a session is its id, and one to a TCP connection is a number that
is never used again.
-/
import Coturn.PeerAddr
import Coturn.AddrMap
import Coturn.Realms
import Coturn.Allocation.Tables
import Coturn.Stun.Integrity

namespace Coturn

/-! ## Sockets -/

/-- `SOCKET_TYPE`. -/
inductive SocketType where
  | unknown
  | tcp
  | udp
  | tls
  | sctp
  | tlsSctp
  | dtls
  | tcpProxy
  | tentativeSctp
  | tentativeTcp
  deriving DecidableEq

def isStreamSocket : SocketType → Bool
  | .tcp | .tcpProxy | .tls | .tentativeTcp | .sctp | .tlsSctp | .tentativeSctp => true
  | .unknown | .udp | .dtls => false

/-- `SOCKET_APP_TYPE`. -/
inductive SocketAppType where
  | unknown
  | client
  | httpClient
  | httpsClient
  | tcpClientData
  deriving DecidableEq

/-- What the server reads of an `ioa_socket`. The pointer to it is `handle`. -/
structure IoaSocket where
  handle : ℕ
  type : SocketType
  appType : SocketAppType
  /-- `AF_INET` (2) or `AF_INET6` (10). -/
  family : ℕ
  localAddr : IoaAddr
  remoteAddr : IoaAddr
  toBeClosed : Bool
  deriving DecidableEq

/-- `ioa_socket_tobeclosed`, which says no for `NULL`. -/
def ioaSocketTobeclosed (s : Option IoaSocket) : Bool := s.any IoaSocket.toBeClosed

/-- What the server reads of a relay socket; `shared` marks the socket that all sessions share in
multiplex-peer mode. -/
structure RelayIoaSocket where
  type : SocketType
  family : ℕ
  inet : family = 2 ∨ family = 10
  localAddr : IoaAddr
  toBeClosed : Bool
  shared : Bool
  deriving DecidableEq

/-! ## Allocations -/

/-- `relay_endpoint_session`. -/
structure RelayEndpointSession where
  s : Option RelayIoaSocket
  expirationTime : UInt32
  lifetimeEv : Bool
  deriving DecidableEq

/-- An endpoint after `memset(…, 0, …)`. -/
def RelayEndpointSession.empty : RelayEndpointSession := ⟨none, 0, false⟩

/-- `TC_STATE`. -/
inductive TcState where
  | unknown
  | clientToPeerConnecting
  | peerConnected
  | ready
  | failed
  deriving DecidableEq

/-- `tcp_connection`. -/
structure TcpConnection where
  handle : ℕ
  state : TcState
  id : UInt32
  peerAddr : IoaAddr
  /-- The handle of the client's data socket. -/
  clientS : Option ℕ
  /-- The family of the socket to the peer, if there is one. -/
  peerFamily : Option ℕ
  tid : List UInt8
  deriving DecidableEq

/-- `allocation`. -/
structure Allocation extends AddrTables where
  isValid : Bool
  tid : List UInt8
  relayIpv4 : RelayEndpointSession
  relayIpv6 : RelayEndpointSession
  failureIpv4 : Bool
  failureIpv6 : Bool
  tcs : List (Option TcpConnection)

def initAllocation : Allocation where
  toAddrTables := AddrTables.init
  isValid := false
  tid := List.replicate 12 0
  relayIpv4 := .empty
  relayIpv6 := .empty
  failureIpv4 := false
  failureIpv6 := false
  tcs := []

namespace Allocation

variable (a : Allocation) (family : ℕ)

/-- `get_relay_session`; `ALLOC_INDEX` sends every family but `AF_INET6` to IPv4. -/
def getRelaySession : RelayEndpointSession :=
  if family = 10 then a.relayIpv6 else a.relayIpv4

def setRelaySession (r : RelayEndpointSession) : Allocation :=
  if family = 10 then { a with relayIpv6 := r } else { a with relayIpv4 := r }

def getRelaySocket : Option RelayIoaSocket :=
  (a.getRelaySession family).s

def getRelaySessionFailure : Bool :=
  if family = 10 then a.failureIpv6 else a.failureIpv4

def setRelaySessionFailure : Allocation :=
  if family = 10 then { a with failureIpv6 := true } else { a with failureIpv4 := true }

/-- The timer of the endpoint is replaced by the new one. -/
def setAllocationLifetimeEv (expTime : UInt32) (family : ℕ) : Allocation :=
  a.setRelaySession family
    { a.getRelaySession family with expirationTime := expTime, lifetimeEv := true }

end Allocation

/-! ## Sessions -/

/-- A `ts_ur_super_session`. Character arrays hold C strings, without their terminating zero. -/
structure Session where
  id : ℕ
  clientSocket : Option IoaSocket
  alloc : Allocation
  toBeAllocatedTimeoutEv : Bool
  enforceFingerprints : Bool
  isTcpRelay : Bool
  toBeClosed : Bool
  nonce : List UInt8
  nonceExpirationTime : UInt32
  username : List UInt8
  hmackey : List UInt8
  hmackeySet : Bool
  pwd : List UInt8
  quotaUsed : Bool
  oauth : Bool
  maxSessionTimeAuth : UInt32
  realmOptions : RealmOptions
  originSet : Bool
  origin : List UInt8
  isMobile : Bool
  mobileId : UInt64
  oldMobileId : UInt64
  sMobileId : List UInt8
  bps : ℕ

/-- A packet as `ioa_net_data` hands it over. Every reader keeps the packet shorter than the
network buffer. -/
structure NetData where
  buf : List UInt8
  fits : buf.length < maxStunMessageSize
  srcAddr : IoaAddr
  /-- `recv_ttl` is not 0. -/
  ttlLeft : Bool

/-- A lookup of a user's key that has been started: the request waits for the answer. -/
structure PendingLookup where
  sid : ℕ
  username : List UInt8
  realm : List UInt8
  nd : NetData

/-- `turn_turnserver`. -/
structure Server where
  id : UInt8
  ctime : UInt32
  sessionIdCounter : ℕ
  sessionsMap : ℕ → Option Session
  /-- From mobile ids to session ids. -/
  mobileConnectionsMap : UInt64 → Option ℕ
  /-- From connection ids to the session that owns the connection and the connection. -/
  tcpRelayConnections : UInt32 → Option (ℕ × ℕ)
  asCounter : ℕ
  /-- `mp_table` of the engine: which session a peer's endpoint belongs to. -/
  mpTable : UrAddrMap ℕ
  /-- The realms, which belong to the process and not to the thread. -/
  realms : RealmTable
  pending : List PendingLookup
  /-- The next number for a socket or a connection. -/
  nextHandle : ℕ

def initServer (id : UInt8) (ctime : UInt32) (realms : RealmTable) : Server where
  id := id
  ctime := ctime
  sessionIdCounter := 0
  sessionsMap := fun _ => none
  mobileConnectionsMap := fun _ => none
  tcpRelayConnections := fun _ => none
  asCounter := 0
  mpTable := .init
  realms := realms
  pending := []
  nextHandle := 0

/-! ## Settings and surroundings -/

/-- `turn_credential_type`. -/
inductive TurnCredentialType where
  | none
  | longTerm
  | shortTerm
  | undefined
  deriving DecidableEq

inductive AllocationDefaultAddressFamily where
  | ipv4
  | ipv6
  | keep
  deriving DecidableEq

/-- The settings of the server that the modelled functions read, and the functions that it gets from
outside. -/
structure Config where
  ct : TurnCredentialType
  fingerprint : Bool
  checkOrigin : Bool
  /-- The lifetime of a nonce; 0 turns the check off. -/
  staleNonce : UInt32
  maxAllocateLifetime : UInt32
  channelLifetime : UInt32
  permissionLifetime : UInt32
  stunOnly : Bool
  noStun : Bool
  secureStun : Bool
  softwareAttribute : Bool
  version : List UInt8
  dontFragment : Bool
  externalIp : Option IoaAddr
  peerFilter : PeerFilter
  noUdpRelay : Bool
  noTcpRelay : Bool
  alternateServersList : List IoaAddr
  tlsAlternateServersList : List IoaAddr
  auxServersList : List IoaAddr
  selfUdpBalance : Bool
  mobility : Bool
  serverRelay : Bool
  oauth : Bool
  oauthServerName : List UInt8
  allocationDefaultAddressFamily : AllocationDefaultAddressFamily
  stunBackwardCompatibility : Bool
  includeReasonString : Bool
  isDraining : Bool
  multiplexPeerMode : Bool
  rfc5780 : Bool
  webAdminListenOnWorkers : Bool
  respondHttpUnsupported : Bool
  addrMapping : AddrMapping
  /-- The separator of user names that carry a time stamp, when such names are in use. -/
  restApiSeparator : Option UInt8
  /-- `o_to_realm`: the realm that belongs to an origin. -/
  originToRealm : List UInt8 → Option (List UInt8)
  getCanonicOrigin : List UInt8 → List UInt8
  hmac : List UInt8 → List UInt8 → List UInt8
  /-- The memory before `decoding_table`, which `base64_decode` reads for a character from 0x80 on. -/
  beforeTable : UInt8 → UInt8

/-- A failure, or a relay socket (`NULL` is possible), whether there is an RTCP socket, and the
token. -/
inductive RelayResult where
  | failure (errCode : ℕ) (reason : Option String)
  | ok (s : Option RelayIoaSocket) (rtcp : Bool) (token : ℕ)

/-- What the handling of one event reads from outside. -/
structure Env where
  nonceRandom : UInt64 × UInt64
  /-- The random numbers that are tried for a mobile id. -/
  mobileRandom : List UInt64
  /-- The random numbers that are tried for a connection id. -/
  tcpRandom : List UInt32
  randomTid : List.Vector UInt8 12
  /-- `allocate_bps_func`, when it is set. -/
  allocateBps : Option (ℕ → ℕ)
  /-- The results of `create_relay_ioa_sockets`, by address family. -/
  createRelay : ℕ → RelayResult
  /-- A relay socket is created for the family that was asked for. -/
  createRelay_family : ∀ {family s rtcp token},
    createRelay family = .ok (some s) rtcp token → s.family = family
  /-- `get_ioa_socket_from_reservation`. -/
  reservedSocket : ℕ → Option RelayIoaSocket
  registerCallback : Bool
  /-- `detach_ioa_socket` succeeds on a socket that is not to be closed. -/
  detach : Bool
  /-- `send_socket_to_relay`, when it is set, succeeds. -/
  sendSocketToRelay : Option Bool
  /-- `ioa_create_connecting_tcp_relay_socket` succeeds. -/
  connectingSocket : Bool
  /-- `alt_addr_cb`. -/
  altAddr : Option IoaAddr
  /-- `get_local_mtu_ioa_socket`. -/
  localMtu : ℕ
  /-- What the buffer of a peer's datagram holds after it, as far as it is needed as padding. -/
  bufferRoom : List.Vector UInt8 3
  /-- `try_acme_redirect` succeeds. -/
  acmeRedirect : Bool

/-! ## What is done -/

/-- How a call of `check_stun_auth` that needed authentication ended, and the session at its end. -/
structure AuthCheck where
  ss : Session
  errCode : ℕ
  postponed : Bool

/-- Ended with no error code and no postponement. -/
def AuthCheck.Passed (c : AuthCheck) : Prop := c.errCode = 0 ∧ c.postponed = false
  deriving Decidable

/-- What the server does while it handles an event. -/
inductive Effect where
  | authCheck (c : AuthCheck)
  /-- A message is written to the client of a session. -/
  | toClient (sid : ℕ) (buf : List UInt8)
  /-- A datagram of a peer is passed to the client of a session. -/
  | relayToClient (sid : ℕ) (srcAddr : IoaAddr) (buf : List UInt8)
  /-- A datagram is sent to a peer from `relayS`, while the table of multiplexed peers gives the
  endpoint to `owner`. -/
  | toPeer (sid : ℕ) (peerAddr : IoaAddr) (payload : List UInt8) (relayS : RelayIoaSocket)
    (owner : Option ℕ)
  /-- A response that leaves from and goes to other addresses (RFC 5780). -/
  | sendTo (origin destination : IoaAddr) (buf : List UInt8)
  /-- A message is written to a socket that belongs to no session's client. -/
  | toSocket (handle : ℕ) (buf : List UInt8)
  /-- A client socket is handed to the relay thread with the given id, together with the
  request. -/
  | socketToRelay (tsid : UInt8) (handle : ℕ) (nd : NetData)
  | allocationCreated (sid : ℕ)
  | allocationRefreshed (sid : ℕ) (family : ℕ)
  | permissionUpdated (sid : ℕ) (peerAddr : IoaAddr)
  | channelUpdated (sid : ℕ) (chnum : UInt16) (peerAddr : IoaAddr)
  | connectStarted (sid : ℕ) (peerAddr : IoaAddr)
  | dataConnectionBound (sid : ℕ) (id : UInt32)

/-- The effects that only an authenticated request may have. -/
def Effect.Sensitive : Effect → Prop
  | .allocationCreated _ | .allocationRefreshed _ _ | .permissionUpdated _ _
  | .channelUpdated _ _ _ | .connectStarted _ _ | .dataConnectionBound _ _ => True
  | _ => False

/-! ## Handling a packet -/

/-- The response buffer and the variables that the handlers get pointers to. -/
structure Reply where
  errCode : ℕ
  reason : Option String
  /-- The response, once `resp_constructed` is set. -/
  resp : Option (List UInt8)
  unknownAttrs : List ℕ
  noResponse : Bool
  messageIntegrity : Bool

def Reply.init : Reply := ⟨0, none, none, [], false, false⟩

/-- The state while a packet of the session `ss` is handled, which replaces the session of that id
at the end. -/
structure Ctx where
  srv : Server
  ss : Session
  reply : Reply
  log : List Effect

/-- The state in which the packet of a ConnectionBind is handled that another thread has sent. -/
abbrev Ctx.handed (srv : Server) (ss : Session) (messageIntegrity : Bool) : Ctx :=
  ⟨srv, ss, { Reply.init with messageIntegrity := messageIntegrity }, []⟩

namespace Ctx

variable (c : Ctx)

def fail (errCode : ℕ) (reason : String) : Ctx :=
  { c with reply := { c.reply with errCode := errCode, reason := some reason } }

/-- The error of a callee. -/
abbrev failWith (e : TurnError) : Ctx :=
  { c with reply := { c.reply with errCode := e.code, reason := e.reason } }

def failCode (errCode : ℕ) : Ctx :=
  { c with reply := { c.reply with errCode := errCode } }

/-- The response is ready. -/
def respond (buf : List UInt8) : Ctx :=
  { c with reply := { c.reply with resp := some buf } }

/-- No response is sent. -/
abbrev silent : Ctx := { c with reply := { c.reply with noResponse := true } }

/-- Something is done. -/
def emit (e : Effect) : Ctx := { c with log := c.log ++ [e] }

/-- Realms and session after the accounting. -/
def account (r : RealmTable × Session) : Ctx :=
  { c with srv := { c.srv with realms := r.1 }, ss := r.2 }

end Ctx

/-- The session is written back. -/
def Server.putSession (s : Server) (ss : Session) : Server :=
  { s with sessionsMap := fun id => if id = ss.id then some ss else s.sessionsMap id }

end Coturn
