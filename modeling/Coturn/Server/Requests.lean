/-
# The attribute loops of the request handlers

Every handler of `server/ns_turn_server.c` walks over all attributes of the message and collects
what it needs in local variables; the walk ends early with an error code or with too many unknown
attributes. Each of these loops is a function from the attributes to the local variables.
-/
import Coturn.Server.Auth

namespace Coturn

open ByteSeq

/-! ## Loops over attributes -/

/-- The state of a loop: the local variables, the error code with its reason, and the unknown
attributes. -/
structure Parsed (α : Type) where
  val : α
  errCode : ℕ
  reason : Option String
  unknown : List ℕ

def maxNumberOfUnknownAttrs : ℕ := 128

namespace Parsed

variable {α : Type}

def start (val : α) : Parsed α := ⟨val, 0, none, []⟩

def set (p : Parsed α) (val : α) : Parsed α := { p with val := val }

/-- An error is noted. -/
def fail (p : Parsed α) (errCode : ℕ) (reason : String) : Parsed α :=
  { p with errCode := errCode, reason := some reason }

def failCode (p : Parsed α) (errCode : ℕ) : Parsed α := { p with errCode := errCode }

def addUnknown (p : Parsed α) (attrType : ℕ) : Parsed α :=
  { p with unknown := p.unknown ++ [attrType] }

/-- The loop goes on. -/
def live (p : Parsed α) : Bool := p.errCode == 0 && p.unknown.length < maxNumberOfUnknownAttrs

/-- The default branch: only attributes that must be understood are unknown attributes. -/
def other (p : Parsed α) (sar : StunAttr) : Parsed α :=
  if sar.type ≤ 0x7FFF then p.addUnknown sar.type else p

end Parsed

/-- The attributes that `SKIP_ATTRIBUTES` passes over. -/
def skipAttribute (attrType : ℕ) : Bool :=
  attrType == attrOauthAccessToken || attrType == attrPriority || attrType == attrFingerprint ||
    attrType == attrMessageIntegrity || attrType == attrUsername || attrType == attrRealm ||
    attrType == attrNonce || attrType == attrOrigin

/-- The loop over the attributes. -/
def readAttrs {α : Type} (body : Parsed α → StunAttr → Parsed α) :
    Parsed α → List StunAttr → Parsed α
  | p, [] => p
  | p, sar :: attrs => if p.live then readAttrs body (body p sar) attrs else p

/-! ## Allocate -/

/-- The relay transport. -/
inductive Transport where
  | tcp
  | udp
  deriving DecidableEq

def getTransportValue (value : List UInt8) : Option Transport :=
  if beAt value 0 1 = 17 then some .udp else if beAt value 0 1 = 6 then some .tcp else none

/-- The local variables of `handle_turn_allocate`, and the two fields of the session that its
loop writes. -/
structure AllocateVars where
  transport : Option Transport
  lifetime : UInt32
  /-- `none` for -1. -/
  evenPort : Option Bool
  dontFragment : Bool
  inReservationToken : ℕ
  af4 : Bool
  af6 : Bool
  username : List UInt8
  bps : ℕ
  isMobile : Bool
  isTcpRelay : Bool

def AllocateVars.init (ss : Session) : AllocateVars where
  transport := none
  lifetime := 0
  evenPort := none
  dontFragment := false
  inReservationToken := 0
  af4 := false
  af6 := false
  username := []
  bps := 0
  isMobile := ss.isMobile
  isTcpRelay := ss.isTcpRelay

/-- The user name for the quota: the last one of the message. -/
def allocateUsername (p : Parsed AllocateVars) (sar : StunAttr) : Parsed AllocateVars :=
  if sar.value = [] then p
  else if stunMaxUsernameSize + 1 ≤ sar.value.length then p.fail 400 "User name is too long"
  else
    let username := cStr sar.value
    if !isSecureString username true then (p.set { p.val with username := [] }).failCode 400
    else p.set { p.val with username := username }

def allocateTransport (cfg : Config) (clientSocket : Option IoaSocket) (p : Parsed AllocateVars)
    (sar : StunAttr) : Parsed AllocateVars :=
  if sar.value.length ≠ 4 then p.fail 400 "Wrong Transport Field"
  else if p.val.transport.isSome then p.fail 400 "Duplicate Transport Fields"
  else
    let transport := getTransportValue sar.value
    let p := p.set { p.val with transport := transport }
    let p := if transport = none then p.failCode 442 else p
    if transport = some .tcp ∧ cfg.noTcpRelay = true then
      p.fail 442 "TCP Transport is not allowed by the TURN Server configuration"
    else if transport = some .udp ∧ cfg.noUdpRelay = true then
      p.fail 442 "UDP Transport is not allowed by the TURN Server configuration"
    else
      match clientSocket with
      | none => p
      | some s =>
        if transport = some .tcp ∧ isStreamSocket s.type = false then
          p.fail 400 "Wrong Transport Data"
        else p.set { p.val with isTcpRelay := transport = some .tcp }

def allocateReservationToken (p : Parsed AllocateVars) (sar : StunAttr) : Parsed AllocateVars :=
  if sar.value.length ≠ 8 then p.fail 400 "Wrong Format of Reservation Token"
  else if p.val.af4 || p.val.af6 then
    p.fail 400 "Address family attribute can not be used with reservation token request"
  else if p.val.evenPort.isSome then
    p.fail 400 "Reservation Token cannot be used in this request with even port"
  else if p.val.inReservationToken ≠ 0 then
    p.fail 400 "Reservation Token cannot be used in this request"
  else p.set { p.val with inReservationToken := stunAttrGetReservationTokenValue sar }

/-- REQUESTED-ADDRESS-FAMILY, and ADDITIONAL-ADDRESS-FAMILY when `additional`. -/
def allocateAddressFamily (additional : Bool) (p : Parsed AllocateVars) (sar : StunAttr) :
    Parsed AllocateVars :=
  if p.val.inReservationToken ≠ 0 then
    p.fail 400 "Address family attribute can not be used with reservation token request"
  else if p.val.af4 || p.val.af6 then
    p.fail 400 "Extra address family attribute can not be used in the request"
  else
    match stunGetRequestedAddressFamily sar with
    | .ipv4 =>
      if additional then p.fail 400 "Invalid value of the additional address family attribute"
      else p.set { p.val with af4 := true }
    | .ipv6 => p.set { p.val with af4 := p.val.af4 || additional, af6 := true }
    | .dflt | .invalid => p.failCode 440

/-- A round of the loop. -/
def allocateAttr (cfg : Config) (clientSocket : Option IoaSocket) (p : Parsed AllocateVars)
    (sar : StunAttr) : Parsed AllocateVars :=
  if sar.type = attrUsername then allocateUsername p sar
  else if skipAttribute sar.type then p
  else
    match sar.type with
    | attrNewBandwidth => p.set { p.val with bps := stunAttrGetBandwidth sar }
    | attrMobilityTicket =>
      if !cfg.mobility then p.fail 405 "Mobility Forbidden"
      else if sar.value ≠ [] then p.fail 400 "Wrong Mobility Field"
      else p.set { p.val with isMobile := true }
    | attrRequestedTransport => allocateTransport cfg clientSocket p sar
    | attrDontFragment =>
      let p := p.set { p.val with dontFragment := true }
      if !cfg.dontFragment then p.addUnknown sar.type else p
    | attrLifetime =>
      if sar.value.length ≠ 4 then p.fail 400 "Wrong Lifetime Field"
      else p.set { p.val with lifetime := UInt32.ofNat (beAt sar.value 0 4) }
    | attrEvenPort =>
      if p.val.inReservationToken ≠ 0 then
        p.fail 400 "Even Port and Reservation Token cannot be used together"
      else
        let evenPort := stunAttrGetEvenPort sar
        let p := p.set { p.val with evenPort := some evenPort }
        if evenPort && p.val.af4 && p.val.af6 then
          p.fail 400 "Even Port cannot be used with Dual Allocation"
        else p
    | attrReservationToken => allocateReservationToken p sar
    | attrAdditionalAddressFamily =>
      if p.val.evenPort = some true then
        p.fail 400 "Even Port cannot be used with Dual Allocation"
      else allocateAddressFamily true p sar
    | attrRequestedAddressFamily => allocateAddressFamily false p sar
    | _ => p.other sar

def readAllocate (cfg : Config) (ss : Session) (attrs : List StunAttr) : Parsed AllocateVars :=
  readAttrs (allocateAttr cfg ss.clientSocket) (.start (.init ss)) attrs

/-! ## Refresh -/

/-- `encoding_table`. -/
def base64Digit (n : ℕ) : UInt8 :=
  (asciiBytes "ABCDEFGHIJKLMNOPQRSTUVWXYZabcdefghijklmnopqrstuvwxyz0123456789+/").getD n 0

/-- `decoding_table[(int)data[i]]`. The table has 0 for what is no digit. A plain `char` is signed,
so that from 0x80 on the index is negative: `low` is the memory there, read as a `char` and widened
to a `uint32_t`. -/
def base64Value (low : UInt8 → UInt8) (c : UInt8) : ℕ :=
  if c < 0x80 then ((List.range 64).find? fun n => base64Digit n == c).getD 0
  else if low c < 0x80 then (low c).toNat
  else 2 ^ 32 - 2 ^ 8 + (low c).toNat

/-- Three bytes are four digits; the last group is filled up with `=`. -/
def base64Encode : List UInt8 → List UInt8
  | [] => []
  | [a] => [0, 1].map (fun i => base64Digit (a.toNat * 65536 / 64 ^ (3 - i) % 64)) ++ [0x3D, 0x3D]
  | [a, b] =>
    [0, 1, 2].map (fun i => base64Digit ((a.toNat * 65536 + b.toNat * 256) / 64 ^ (3 - i) % 64)) ++
      [0x3D]
  | a :: b :: c :: rest =>
    [0, 1, 2, 3].map (fun i => base64Digit (beNat [a, b, c] / 64 ^ (3 - i) % 64)) ++
      base64Encode rest

/-- The value of a text as a number in base 64. -/
def base64Number (low : UInt8 → UInt8) (data : List UInt8) : ℕ :=
  data.foldl (fun n c => n * 64 + base64Value low c) 0

/-- All groups of four digits, three bytes each. -/
def base64Groups (low : UInt8 → UInt8) : List UInt8 → List UInt8
  | a :: b :: c :: d :: rest => beBytes 3 (base64Number low [a, b, c, d]) ++ base64Groups low rest
  | _ => []

/-- `none` when the length is no multiple of four; a `=` in one of the last two places shortens
the result by one byte. -/
def base64Decode (low : UInt8 → UInt8) (data : List UInt8) : Option (List UInt8) :=
  if data.length % 4 ≠ 0 then none
  else some ((base64Groups low data).take (data.length / 4 * 3 - (data.reverse.take 2).count 0x3D))

/-- A ticket is the base 64 form of the eight bytes of a mobile id in memory. -/
def mobileIdToString (mid : UInt64) : List UInt8 := base64Encode (beBytes 8 mid.toNat).reverse

/-- A text that has not eight bytes is the id 0. -/
def stringToMobileId (low : UInt8 → UInt8) (src : List UInt8) : UInt64 :=
  match base64Decode low src with
  | none => 0
  | some out => if out.length = 8 then UInt64.ofNat (beNat out.reverse) else 0

/-- The variables of `handle_turn_refresh`. -/
structure RefreshVars where
  lifetime : UInt32
  toDelete : Bool
  mid : UInt64
  /-- The array of 33 bytes, without the zeros at its end. -/
  smid : List UInt8
  af4 : Bool
  af6 : Bool

/-- What the loop of `handle_turn_refresh` reads of the session. -/
structure RefreshView where
  af4c : Bool
  af6c : Bool
  isValid : Bool
  oldMobileId : UInt64

def refreshAttr (cfg : Config) (v : RefreshView) (p : Parsed RefreshVars) (sar : StunAttr) :
    Parsed RefreshVars :=
  if skipAttribute sar.type then p
  else
    match sar.type with
    | attrMobilityTicket =>
      if !cfg.mobility then p.fail 405 "Mobility forbidden"
      else if sar.value ≠ [] ∧ sar.value.length < 33 then
        let smid := sar.value ++ p.val.smid.drop sar.value.length
        let mid := stringToMobileId cfg.beforeTable (cStr smid)
        let p := p.set { p.val with smid := smid, mid := mid }
        if v.isValid = true ∧ mid ≠ v.oldMobileId then
          p.fail 400 "Mobility ticket cannot be used for a stable, already established allocation"
        else p
      else p.fail 400 "Mobility ticket has wrong length"
    | attrLifetime =>
      if sar.value.length ≠ 4 then p.fail 400 "Wrong Lifetime field format"
      else
        let lifetime := UInt32.ofNat (beAt sar.value 0 4)
        p.set { p.val with lifetime := lifetime, toDelete := p.val.toDelete || lifetime == 0 }
    | attrAdditionalAddressFamily | attrRequestedAddressFamily =>
      match stunGetRequestedAddressFamily sar, v.af4c, v.af6c with
      | .ipv4, true, _ => p.set { p.val with af4 := true }
      | .ipv6, _, true => p.set { p.val with af6 := true }
      | _, _, _ => p.fail 443 "Peer Address Family Mismatch (1)"
    | _ => p.other sar

def readRefresh (cfg : Config) (v : RefreshView) (attrs : List StunAttr) : Parsed RefreshVars :=
  readAttrs (refreshAttr cfg v) (.start ⟨0, false, 0, [], false, false⟩) attrs

variable (cfg : Config) (ss : Session) (a : Allocation) (tid : List UInt8) (attrs : List StunAttr)

/-! ## Connect and ConnectionBind -/

/-- A peer address read from the message, and whether one was read. -/
structure PeerVars where
  peerAddr : IoaAddr
  found : Bool

def connectAttr (p : Parsed PeerVars) (sar : StunAttr) : Parsed PeerVars :=
  if skipAttribute sar.type then p
  else
    match sar.type with
    | attrXorPeerAddress =>
      let (decoded, peerAddr) := stunAttrGetAddr cfg.addrMapping tid sar none
      let q := p.set { p.val with peerAddr := peerAddr }
      if !decoded then q.fail 400 "Bad Peer Address"
      else
        let q := q.set { q.val with found := true }
        if (a.getRelaySocket peerAddr.family).isNone then
          q.fail 443 "Peer Address Family Mismatch (2)"
        else q
    | _ => p.other sar

def readConnect : Parsed PeerVars :=
  readAttrs (connectAttr cfg a tid) (.start ⟨.unset, false⟩) attrs

/-- The connection id is copied as it is, so that it is a little-endian number. -/
def connectionBindAttr (p : Parsed UInt32) (sar : StunAttr) : Parsed UInt32 :=
  if skipAttribute sar.type then p
  else
    match sar.type with
    | attrConnectionId =>
      if sar.value.length ≠ 4 then p.fail 400 "Wrong Connection ID field format"
      else p.set (UInt32.ofNat (beNat sar.value.reverse))
    | _ => p.other sar

def readConnectionBind : Parsed UInt32 :=
  readAttrs connectionBindAttr (.start 0) attrs

/-! ## ChannelBind and CreatePermission -/

/-- The variables of `handle_turn_channel_bind`. -/
structure ChannelBindVars where
  chnum : UInt16
  peerAddr : IoaAddr
  addrFound : Bool

def channelBindAttr (p : Parsed ChannelBindVars) (sar : StunAttr) : Parsed ChannelBindVars :=
  if skipAttribute sar.type then p
  else
    match sar.type with
    | attrChannelNumber =>
      if p.val.chnum ≠ 0 then
        (p.set { p.val with chnum := 0 }).fail 400
          "Channel number cannot be duplicated in this request"
      else
        let chnum := stunAttrGetChannelNumber sar
        let p := p.set { p.val with chnum := chnum }
        if chnum = 0 then p.fail 400 "Channel number cannot be zero in this request" else p
    | attrXorPeerAddress =>
      let peerAddr := (stunAttrGetAddr cfg.addrMapping tid sar none).2
      let p := p.set { p.val with peerAddr := peerAddr }
      let p :=
        if (a.getRelaySocket peerAddr.family).isNone then
          p.fail 443 "Peer Address Family Mismatch (3)"
        else p
      if addrGetPort peerAddr = 0 then p.fail 400 "Empty port number in channel bind request"
      else p.set { p.val with addrFound := true }
    | _ => p.other sar

def readChannelBind : Parsed ChannelBindVars :=
  readAttrs (channelBindAttr cfg a tid) (.start ⟨0, .unset, false⟩) attrs

/-- The first loop of `handle_turn_create_permission`; it says whether an address was found. -/
def createPermissionAttr (p : Parsed Bool) (sar : StunAttr) : Parsed Bool :=
  if skipAttribute sar.type then p
  else
    match sar.type with
    | attrXorPeerAddress =>
      let peerAddr := (stunAttrGetAddr cfg.addrMapping tid sar none).2
      if (ss.alloc.getRelaySocket peerAddr.family).isNone then
        p.fail 443 "Peer Address Family Mismatch (4)"
      else if !goodPeerAddr cfg.peerFilter ss.realmOptions.name peerAddr then
        p.fail 403 "Forbidden IP"
      else p.set true
    | _ => p.other sar

def readCreatePermission : Parsed Bool :=
  readAttrs (createPermissionAttr cfg ss tid) (.start false) attrs

/-- The addresses that the second loop of `handle_turn_create_permission` visits. -/
def peerAddrs : List IoaAddr :=
  (attrs.filter fun sar => sar.type == attrXorPeerAddress).map fun sar =>
    (stunAttrGetAddr cfg.addrMapping tid sar none).2

/-! ## Send -/

/-- `addr_found` is never set, so that the last peer address counts. -/
structure SendVars where
  peerAddr : IoaAddr
  data : Option (List UInt8)
  /-- Where the value of the DATA attribute starts. -/
  offset : ℕ

def sendAttr (p : Parsed SendVars) (sar : StunAttr) : Parsed SendVars :=
  if skipAttribute sar.type then p
  else
    match sar.type with
    | attrDontFragment => if !cfg.dontFragment then p.addUnknown sar.type else p
    | attrXorPeerAddress =>
      p.set { p.val with peerAddr := (stunAttrGetAddr cfg.addrMapping tid sar none).2 }
    | attrData =>
      if p.val.data.isSome then p.fail 400 "Data duplication"
      else p.set { p.val with data := some sar.value, offset := sar.offset + 4 }
    | _ => p.other sar

def readSend : Parsed SendVars :=
  readAttrs (sendAttr cfg tid) (.start ⟨.unset, none, 0⟩) attrs

/-! ## Binding -/

/-- The variables of `handle_turn_binding`. -/
structure BindingVars where
  changeIp : Bool
  changePort : Bool
  padding : Bool
  responsePort : Option UInt16
  useReflectedFrom : Bool

def oldStunAttributePassword : ℕ := 0x0007

/-- The address in an old RESPONSE-ADDRESS is overwritten before it is used. -/
def bindingAttr (st : SocketType) (oldStun : Bool) (p : Parsed BindingVars) (sar : StunAttr) :
    Parsed BindingVars :=
  if sar.type = oldStunAttributePassword ∨ skipAttribute sar.type = true then p
  else
    match sar.type with
    | attrChangeRequest =>
      let p :=
        match stunAttrGetChangeRequest sar with
        | none => p
        | some (ip, port) => p.set { p.val with changeIp := ip, changePort := port }
      if !(p.val.changeIp || p.val.changePort) then p
      else if !cfg.rfc5780 then
        p.fail 420 "Unknown attribute: TURN server was configured without RFC 5780 support"
      else if st ≠ .udp then p.fail 400 "Wrong request: applicable only to UDP protocol"
      else p
    | attrPadding =>
      if p.val.responsePort.isSome then
        p.fail 400 "Wrong request format: you cannot use PADDING and RESPONSE_PORT together"
      else if st ≠ .udp ∧ st ≠ .dtls then
        p.fail 400 "Wrong request: padding applicable only to UDP and DTLS protocols"
      else p.set { p.val with padding := true }
    | attrResponsePort =>
      if p.val.padding then
        p.fail 400 "Wrong request format: you cannot use PADDING and RESPONSE_PORT together"
      else if st ≠ .udp then p.fail 400 "Wrong request: applicable only to UDP protocol"
      else
        match stunAttrGetResponsePort sar with
        | some rp => p.set { p.val with responsePort := some rp }
        | none => p.fail 400 "Wrong response port format"
    | attrOldResponseAddress =>
      if oldStun then p.set { p.val with useReflectedFrom := true } else p
    | _ => p.other sar

def readBinding (st : SocketType) (oldStun : Bool) (attrs : List StunAttr) : Parsed BindingVars :=
  readAttrs (bindingAttr cfg st oldStun) (.start ⟨false, false, false, none, false⟩) attrs

/-- What all handlers do with the result of their loop. -/
def Ctx.afterLoop {α : Type} (c : Ctx) (p : Parsed α) : Ctx :=
  { c with
    reply := { c.reply with errCode := p.errCode, reason := p.reason, unknownAttrs := p.unknown } }

end Coturn
