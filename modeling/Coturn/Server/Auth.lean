/-
# Authentication

`check_stun_auth` of `server/ns_turn_server.c` with what it calls, and the changes of quota and
of authentication parameters that go with it. The lookup of a user's key is asynchronous: the
request is put on the list of pending lookups and is handled again when the answer arrives.
-/
import Coturn.Server.State

namespace Coturn

/-! ## C strings -/

/-- A byte array read as a C string. -/
def cStr (bs : List UInt8) : List UInt8 := bs.takeWhile (· != 0)

/-- The value of an attribute copied into an array of `size + 1` bytes, as a C string. -/
def attrCStr (size : ℕ) (sar : StunAttr) : List UInt8 := cStr (sar.value.take size)

/-- `strstr` finds the text. -/
def hasSubstring (s text : List UInt8) : Bool := s.tails.any fun t => text.isPrefixOf t

def toLower (c : UInt8) : UInt8 := if 0x41 ≤ c ∧ c ≤ 0x5A then c + 0x20 else c

def isSecureString (string : List UInt8) (sanitizesql : Bool) : Bool :=
  let s := string.map toLower
  if s.any fun c => c == 0x20 || c == 0x09 || c == 0x27 || c == 0x22 || c == 0x0A || c == 0x0D ||
      c == 0x5C then false
  else !(sanitizesql && hasSubstring s (asciiBytes "union") && hasSubstring s (asciiBytes "select"))

def stunMaxUsernameSize : ℕ := 512

def stunMaxRealmSize : ℕ := 127

def stunMaxNonceSize : ℕ := 127

/-! ## Quota -/

/-- `inc_quota`: whether it succeeds, the realms and the session. -/
def incQuota (cfg : Config) (realms : RealmTable) (ss : Session) (username : List UInt8) :
    Bool × RealmTable × Session :=
  if ss.quotaUsed then (true, realms, ss)
  else if cfg.ct = .longTerm ∧ ss.originSet = false then (false, realms, ss)
  else
    match checkNewAllocationQuota cfg.restApiSeparator realms username ss.oauth
        ss.realmOptions.name with
    | (false, realms) => (false, realms, ss)
    | (true, realms) => (true, realms, { ss with username := username, quotaUsed := true })

/-- The quota is given back. -/
def decQuota (cfg : Config) (realms : RealmTable) (ss : Session) : RealmTable × Session :=
  if ss.quotaUsed then
    (releaseAllocationQuota cfg.restApiSeparator realms ss.username ss.oauth ss.realmOptions.name,
      { ss with quotaUsed := false })
  else (realms, ss)

/-- The bandwidth is given back. -/
def decBps (ss : Session) : Session := { ss with bps := 0 }

/-! ## The challenge -/

def needStunAuthentication (cfg : Config) : Bool := cfg.ct = .longTerm

/-- A number in hexadecimal, with at least eight digits. -/
def hexDigits (n : ℕ) : List UInt8 :=
  let digits := (Nat.toDigits 16 n).map fun c => UInt8.ofNat c.toNat
  List.replicate (8 - digits.length) 0x30 ++ digits

/-- Two random numbers in 17 bytes, the second one over the first one from the ninth digit on. -/
def newNonce (rand : UInt64 × UInt64) : List UInt8 :=
  (hexDigits rand.1.toNat).take 8 ++ (hexDigits rand.2.toNat).take 8

/-- `create_challenge_response`: the error response with the nonce and the realm. -/
def createChallengeResponse (cfg : Config) (method : ℕ) (tid : List UInt8) (c : Ctx) : Ctx :=
  let buf := stunInitErrorResponse method c.reply.errCode c.reply.reason tid cfg.includeReasonString
  let realm := c.ss.realmOptions.name
  let buf := stunAttrAddIgnore buf attrNonce c.ss.nonce
  let buf := stunAttrAddIgnore buf attrRealm realm
  let buf :=
    if cfg.oauth then
      stunAttrAddIgnore buf attrThirdPartyAuthorization
        (if cfg.oauthServerName = [] then realm else cfg.oauthServerName)
    else buf
  c.respond buf

/-! ## The check -/

/-- A nonce is generated when there is none, and when the nonce has expired. -/
def refreshNonce (cfg : Config) (env : Env) (ctime : UInt32) (ss : Session) : Session :=
  if ss.nonce = [] ∨ (cfg.staleNonce ≠ 0 ∧ turnTimeBefore ss.nonceExpirationTime ctime = true) then
    { ss with
      nonce := newNonce env.nonceRandom
      nonceExpirationTime := ctime + cfg.staleNonce }
  else ss

/-- With a nonce that is valid. -/
abbrev Ctx.nonced (c : Ctx) (cfg : Config) (env : Env) : Ctx :=
  { c with ss := refreshNonce cfg env c.srv.ctime c.ss }

/-- What is left to do: nothing, to wait for the user's key, or to build a challenge. -/
inductive AuthResult where
  | done
  | postponed
  | challenge

/-- The REALM attribute: the error, or the realm. -/
def checkRealmAttr (realms : RealmTable) (method : ℕ) (attrs : List StunAttr) (ss : Session) :
    Except TurnError (List UInt8 × RealmTable × Session) :=
  match stunAttrGetFirstByType attrs attrRealm with
  | none => .error ⟨400, none⟩
  | some sar =>
    let realm := attrCStr stunMaxRealmSize sar
    if !isSecureString realm false then .error ⟨400, none⟩
    else if method = stunMethodConnectionBind then
      let r := realms.getRealmOptionsByName realm
      .ok (realm, r.2, { ss with realmOptions := r.1 })
    else if realm ≠ ss.realmOptions.name then
      if !ss.oauth then
        if method = stunMethodAllocate then
          .error
            ⟨437, some "Allocation mismatch: wrong credentials: the realm value is incorrect"⟩
        else .error ⟨441, some "Wrong credentials: the realm value is incorrect"⟩
      else .ok (ss.realmOptions.name, realms, ss)
    else .ok (realm, realms, ss)

/-- The USERNAME attribute: the error, or the user name. -/
def checkUsernameAttr (method : ℕ) (attrs : List StunAttr) (ss : Session) :
    Except TurnError (List UInt8 × Session) :=
  match stunAttrGetFirstByType attrs attrUsername with
  | none => .error ⟨400, none⟩
  | some sar =>
    let usname := attrCStr stunMaxUsernameSize sar
    if !isSecureString usname true then .error ⟨400, none⟩
    else if ss.username ≠ [] then
      if ss.username ≠ usname then
        if ss.oauth then .ok (usname, { ss with hmackeySet := false, username := usname })
        else if method = stunMethodAllocate then
          .error ⟨437, some "Allocation mismatch: wrong credentials"⟩
        else .error ⟨441, none⟩
      else .ok (usname, ss)
    else .ok (usname, { ss with username := usname })

/-- The NONCE attribute; the nonce of the session was generated in this call when `isNew`. -/
def checkNonceAttr (isNew : Bool) (attrs : List StunAttr) (ss : Session) :
    Except TurnError (Option String) :=
  match stunAttrGetFirstByType attrs attrNonce with
  | none => .error ⟨400, none⟩
  | some sar =>
    if isNew then .ok (some "Wrong nonce")
    else if ss.nonce ≠ attrCStr stunMaxNonceSize sar then .ok (some "Stale nonce")
    else .ok none

/-- Ask for the user's key when the request can be handled again, else challenge. -/
def postponeOrChallenge (canResume : Bool) (nd : NetData) (usname realm : List UInt8) (c : Ctx) :
    AuthResult × Ctx :=
  if canResume then
    (.postponed,
      { c with
        srv := { c.srv with pending := c.srv.pending ++ [⟨c.ss.id, usname, realm, nd⟩] } })
  else (.challenge, c.failCode 401)

/-- The end of `check_stun_auth`: the key and the HMAC. -/
def checkIntegrity (cfg : Config) (canResume : Bool) (nd : NetData) (usname realm : List UInt8)
    (c : Ctx) : AuthResult × Ctx :=
  if c.ss.hmackeySet = false ∧ c.ss.pwd = [] then postponeOrChallenge canResume nd usname realm c
  else if stunCheckMessageIntegrityByKey cfg.hmac nd.buf c.ss.hmackey ≠ some true then
    postponeOrChallenge canResume nd usname realm c
  else (.done, { c with reply := { c.reply with messageIntegrity := true } })

/-- `check_stun_auth` after the nonce has been taken care of; the attributes are those of the
message. -/
def checkCredentials (cfg : Config) (method : ℕ) (isNew canResume : Bool) (nd : NetData)
    (attrs : List StunAttr) (c : Ctx) : AuthResult × Ctx :=
  match stunAttrGetFirstByType attrs attrMessageIntegrity with
  | none => (.challenge, c.failCode 401)
  | some sar =>
    if sar.value.length ≠ sha1SizeBytes then (.challenge, c.failCode 401)
    else
      match checkRealmAttr c.srv.realms method attrs c.ss with
      | .error e =>
        (.done, c.failWith e)
      | .ok (realm, r) =>
        let c := c.account r
        match checkUsernameAttr method attrs c.ss with
        | .error e =>
          (.done, c.failWith e)
        | .ok (usname, ss) =>
          let c := { c with ss := ss }
          match checkNonceAttr isNew attrs c.ss with
          | .error e =>
            (.done, c.failWith e)
          | .ok (some reason) => (.challenge, c.fail 438 reason)
          | .ok none => checkIntegrity cfg canResume nd usname realm c

/-- Whether the request has been postponed, and the outcome. Only long-term credentials are checked.
-/
def checkStunAuth (cfg : Config) (env : Env) (method : ℕ) (tid : List UInt8) (canResume : Bool)
    (nd : NetData) (attrs : List StunAttr) (c : Ctx) : Bool × Ctx :=
  if !needStunAuthentication cfg then (false, c)
  else
    let isNew : Bool := c.ss.nonce = []
    let c := c.nonced cfg env
    let r := checkCredentials cfg method isNew canResume nd attrs c
    let c :=
      match r.1 with
      | .challenge => createChallengeResponse cfg method tid r.2
      | .done | .postponed => r.2
    let postponed :=
      match r.1 with
      | .postponed => true
      | .done | .challenge => false
    (postponed, c.emit (.authCheck ⟨c.ss, c.reply.errCode, postponed⟩))

/-- `copy_auth_parameters`: from `origSs` to `ss`. -/
def copyAuthParameters (cfg : Config) (origSs : Session) (realms : RealmTable) (ss : Session) :
    RealmTable × Session :=
  let (realms, ss) := decQuota cfg realms ss
  let ss :=
    { ss with
      nonce := origSs.nonce
      nonceExpirationTime := origSs.nonceExpirationTime
      realmOptions := origSs.realmOptions
      username := origSs.username
      hmackeySet := origSs.hmackeySet
      hmackey := origSs.hmackey
      oauth := origSs.oauth
      origin := origSs.origin
      originSet := origSs.originSet
      pwd := origSs.pwd
      maxSessionTimeAuth := origSs.maxSessionTimeAuth }
  (incQuota cfg realms ss ss.username).2

end Coturn
