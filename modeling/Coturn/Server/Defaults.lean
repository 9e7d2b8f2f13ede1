/-
# A server without options and its clients

The settings of a server that is started without options (`turn_params` in
`apps/relay/mainrelay.c`, and what `netengine.c` hands over besides), its realms, surroundings in
which every call succeeds, and the messages of clients, as the client library builds them.
-/
import Coturn.Lib.Run
import Coturn.Server.Machine

namespace Coturn

open ByteSeq

/-! ## The server -/

/-- `turn_params`. The HMAC is the one of the crypto library. -/
def turnParams (hmac : List UInt8 → List UInt8 → List UInt8) : Config where
  ct := .none
  fingerprint := false
  checkOrigin := false
  staleNonce := 600
  maxAllocateLifetime := 3600
  channelLifetime := 600
  permissionLifetime := 300
  stunOnly := false
  noStun := false
  secureStun := false
  softwareAttribute := false
  version := asciiBytes "None"
  dontFragment := true
  externalIp := none
  peerFilter := ⟨false, false, [], [], [], []⟩
  noUdpRelay := false
  noTcpRelay := false
  alternateServersList := []
  tlsAlternateServersList := []
  auxServersList := []
  selfUdpBalance := false
  mobility := false
  serverRelay := false
  oauth := false
  oauthServerName := []
  allocationDefaultAddressFamily := .ipv4
  stunBackwardCompatibility := false
  includeReasonString := false
  isDraining := false
  multiplexPeerMode := false
  rfc5780 := false
  webAdminListenOnWorkers := false
  respondHttpUnsupported := false
  addrMapping := []
  restApiSeparator := none
  originToRealm := fun _ => none
  getCanonicOrigin := id
  hmac := hmac
  beforeTable := fun _ => 0

/-- In the place of the HMAC, which is not looked at without credentials. -/
def zeroMac : List UInt8 → List UInt8 → List UInt8 := fun _ _ => List.replicate sha1SizeBytes 0

/-- Without authentication. -/
def plainParams : Config := turnParams zeroMac

/-- The realms at the start: the default realm, without a name and without quotas. -/
def defaultRealms : RealmTable where
  dflt := ⟨⟨[], 0, 0, 0⟩, 0, fun _ => 0⟩
  isDflt := fun _ => false
  own := fun _ => none

/-- `turn_params` with long-term credentials (`--lt-cred-mech`). -/
def longTermParams (hmac : List UInt8 → List UInt8 → List UInt8) : Config :=
  { turnParams hmac with ct := .longTerm }

/-- The default realm with a name (`--realm`), under which it is in the map. -/
def namedRealms (name : List UInt8) : RealmTable where
  dflt := ⟨⟨name, 0, 0, 0⟩, 0, fun _ => 0⟩
  isDflt := fun other => other == name
  own := fun _ => none

/-- Every call succeeds, and `s` is the relay socket for its family. -/
def Env.plain (s : RelayIoaSocket) : Env where
  nonceRandom := (0, 0)
  mobileRandom := [1]
  tcpRandom := [1]
  randomTid := ⟨List.replicate 12 0, rfl⟩
  allocateBps := none
  createRelay := fun family =>
    if s.family = family then .ok (some s) false 0 else .failure 508 none
  createRelay_family := by
    intro family s' rtcp token h
    split_ifs at h with hfamily
    rw [RelayResult.ok.injEq, Option.some_inj] at h
    exact h.1 ▸ hfamily
  reservedSocket := fun _ => none
  registerCallback := true
  detach := true
  sendSocketToRelay := none
  connectingSocket := true
  altAddr := none
  localMtu := 1500
  bufferRoom := List.Vector.replicate 3 0
  acmeRedirect := false

/-- The hosts of the network. -/
def hostAddr (n : UInt8) (port : UInt16) : IoaAddr := .s4 ⟨[10, 0, 0, n], rfl⟩ port

/-- A relay socket of its own, or the shared one. -/
def udpRelay (shared : Bool) : RelayIoaSocket :=
  ⟨.udp, 2, Or.inl rfl, hostAddr 1 49152, false, shared⟩

/-- There is a UDP relay for IPv4. -/
def plainEnv : Env := .plain (udpRelay false)

def plainInput (ev : Event) : Input := ⟨plainParams, plainEnv, ev⟩

/-- The server after the inputs. -/
def served (is : List Input) : Server := Machine.run Server.step (initServer 0 1000 defaultRealms) is

/-! ## Clients -/

/-- The socket of a client. -/
def udpClient : IoaSocket where
  handle := 0
  type := .udp
  appType := .client
  family := 2
  localAddr := hostAddr 1 3478
  remoteAddr := hostAddr 2 5000
  toBeClosed := false

def tcpClient : IoaSocket := { udpClient with type := .tcp }

def tcpRelay : RelayIoaSocket := { udpRelay false with type := .tcp }

def clientTid : List UInt8 := List.replicate 12 1

def clientRequest (method : ℕ) (attrs : List (ℕ × List UInt8)) : NetData where
  buf := stunAttrsAdd (stunInitRequest method clientTid) attrs
  fits := stunAttrsAdd_length_lt (by
    simp [stunInitRequest, stunInitCommand, oldStunInitCommand, clientTid, maxStunMessageSize]) attrs
  srcAddr := hostAddr 2 5000
  ttlLeft := true

def peerAttr (addr : IoaAddr) : ℕ × List UInt8 := addrAttr [] clientTid attrXorPeerAddress addr

def udpTransportAttr : ℕ × List UInt8 := (attrRequestedTransport, [17, 0, 0, 0])

/-- An Allocate request for a UDP relay. -/
def plainAllocate : NetData := clientRequest stunMethodAllocate [udpTransportAttr]

def tcpTransportAttr : ℕ × List UInt8 := (attrRequestedTransport, [6, 0, 0, 0])

def channelAttr (chnum : ℕ) : ℕ × List UInt8 := (attrChannelNumber, beBytes 2 chnum ++ [0, 0])

/-! ## Clients with credentials -/

/-- A keyed function in the place of the HMAC: the key itself, with zeros up to 20 bytes. -/
def keyAsMac (key _covered : List UInt8) : List UInt8 := (key ++ List.replicate 20 0).take 20

def plainNonce : List UInt8 := newNonce (0, 0)

/-- The attributes by which a client authenticates itself with `keyAsMac`. -/
def credentialAttrs (username realm key : List UInt8) : List (ℕ × List UInt8) :=
  [(attrUsername, username), (attrRealm, realm), (attrNonce, plainNonce),
    (attrMessageIntegrity, keyAsMac key [])]

def north : List UInt8 := asciiBytes "north"

/-- The server of this realm after the inputs. -/
def servedNorth (is : List Input) : Server :=
  Machine.run Server.step (initServer 0 1000 (namedRealms north)) is

def plainKey (key : List UInt8) : KeyAnswer := ⟨false, 0, key, [], []⟩

end Coturn
