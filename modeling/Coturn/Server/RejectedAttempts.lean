/-
# Rejected authentication attempts

`check_stun_auth` writes to the session before it checks the HMAC: a new nonce when one is due, and
the name of the user when the session has none. So a request that is rejected can decide who may
use the session.
-/
import Coturn.Server.Submission

namespace Coturn

open Ctx List Option

variable {cfg : Config} {env : Env} {method : ℕ} {tid : List UInt8} {canResume : Bool}
  {nd : NetData} {attrs : List StunAttr} {c m : Ctx} {ss : Session}

/-! ## What a request may write -/

/-- `check_stun_auth` makes a nonce. -/
def NonceDue (cfg : Config) (ctime : UInt32) (ss : Session) : Prop :=
  ss.nonce = [] ∨ (cfg.staleNonce ≠ 0 ∧ turnTimeBefore ss.nonceExpirationTime ctime = true)

/-- `check_stun_auth` comes as far as the user name, and stores another one than there is. -/
structure StoresName (ss : Session) (attrs : List StunAttr) : Prop where
  integrity : ∃ sar ∈ stunAttrGetFirstByType attrs attrMessageIntegrity,
    sar.value.length = sha1SizeBytes
  realm : ∃ sar ∈ stunAttrGetFirstByType attrs attrRealm,
    isSecureString (attrCStr stunMaxRealmSize sar) false = true ∧
      (attrCStr stunMaxRealmSize sar = ss.realmOptions.name ∨ ss.oauth = true)
  name : ∃ sar ∈ stunAttrGetFirstByType attrs attrUsername,
    isSecureString (attrCStr stunMaxUsernameSize sar) true = true ∧
      attrCStr stunMaxUsernameSize sar ≠ ss.username ∧ (ss.username = [] ∨ ss.oauth = true)

/-- The request asks for no transfer, selects no realm, and brings no name into the session. -/
structure Traceless (cfg : Config) (ss : Session) (nd : NetData) : Prop where
  transfer : cfg.mobility = true → stunGetMethod nd.buf ≠ stunMethodRefresh
  origin : stunGetMethod nd.buf = stunMethodAllocate → ss.originSet = false →
    origins cfg (stunAttrs nd.buf) = []
  name : ¬ StoresName ss (stunAttrs nd.buf)

/-- The answer to a lookup says what the session has already. -/
structure KeyAnswer.Known (k : KeyAnswer) (ss : Session) : Prop where
  hmackey : k.hmackey = ss.hmackey
  hmackeySet : ss.hmackeySet = true
  oauth : k.oauth = ss.oauth
  maxSessionTime : k.maxSessionTime = ss.maxSessionTimeAuth
  pwd : k.pwd = ss.pwd
  realm : k.realm = [] ∨ k.realm = ss.realmOptions.name

/-- The session with the nonce and the fingerprint flag of another one. -/
def Session.renewed (ss ss' : Session) : Session :=
  { ss with
    nonce := ss'.nonce
    nonceExpirationTime := ss'.nonceExpirationTime
    enforceFingerprints := ss'.enforceFingerprints }

/-- The server with the nonce and the fingerprint flag of `ss'`, and the counter `n`. -/
def Server.renewed (srv : Server) (sid : ℕ) (ss' : Session) (n : ℕ) : Server :=
  { srv with
    asCounter := n
    sessionsMap := fun id =>
      (srv.sessionsMap id).map fun ss => if id = sid then ss.renewed ss' else ss }

lemma StoresName.of_renewed {ss' : Session} (h : StoresName (ss.renewed ss') attrs) :
    StoresName ss attrs := ⟨h.integrity, h.realm, h.name⟩

lemma Traceless.renewed (h : Traceless cfg ss nd) (ss' : Session) :
    Traceless cfg (ss.renewed ss') nd := ⟨h.transfer, h.origin, fun hname => h.name hname.of_renewed⟩

lemma KeyAnswer.Known.renewed {k : KeyAnswer} (h : k.Known ss) (ss' : Session) :
    k.Known (ss.renewed ss') := ⟨h.hmackey, h.hmackeySet, h.oauth, h.maxSessionTime, h.pwd, h.realm⟩

/-- The request has left nothing but a nonce, when one was due, the fingerprint flag and the
counter; it may be waiting. -/
structure Unmarked (cfg : Config) (c m : Ctx) : Prop where
  ss : m.ss = c.ss.renewed m.ss
  srv : m.srv = { c.srv with asCounter := m.srv.asCounter, pending := m.srv.pending }
  nonce : ¬ NonceDue cfg c.srv.ctime c.ss → m.ss.nonce = c.ss.nonce ∧
    m.ss.nonceExpirationTime = c.ss.nonceExpirationTime

namespace Unmarked

variable {m' : Ctx}

lemma trans (h : Unmarked cfg c m) (h' : Unmarked cfg m m') : Unmarked cfg c m' where
  ss := by
    rw [h'.ss, h.ss]
    rfl
  srv := by
    rw [h'.srv, h.srv]
  nonce := by
    intro hdue
    obtain ⟨hnonce, htime⟩ := h.nonce hdue
    have hctime : m.srv.ctime = c.srv.ctime := by
      rw [h.srv]
    obtain ⟨hnonce', htime'⟩ := h'.nonce (by rwa [NonceDue, hnonce, htime, hctime])
    exact ⟨hnonce'.trans hnonce, htime'.trans htime⟩

lemma of_same (hss : m.ss = c.ss) (hsrv : m.srv = c.srv) : Unmarked cfg c m where
  ss := by
    rw [hss]
    rfl
  srv := by
    rw [hsrv]
  nonce _ := by
    rw [hss]
    exact ⟨rfl, rfl⟩

end Unmarked

/-! ## The check -/

lemma checkUsernameAttr_unmarked {ss' : Session} {usname : List UInt8}
    (hname : ¬ ∃ sar ∈ stunAttrGetFirstByType attrs attrUsername,
      isSecureString (attrCStr stunMaxUsernameSize sar) true = true ∧
        attrCStr stunMaxUsernameSize sar ≠ ss.username ∧ (ss.username = [] ∨ ss.oauth = true))
    (h : checkUsernameAttr method attrs ss = .ok (usname, ss')) : ss' = ss := by
  unfold checkUsernameAttr at h
  cases hfirst : stunAttrGetFirstByType attrs attrUsername with
  | none =>
    rw [hfirst] at h
    exact absurd h (by simp)
  | some sar =>
    rw [hfirst] at h hname
    simp only at h
    split_ifs at h with hsecure hnamed hother hoauth
    · refine absurd ⟨sar, rfl, by simpa using hsecure, fun heq => hother heq.symm, .inr ?_⟩ hname
      exact hoauth
    · exact (Prod.mk.inj (Except.ok.inj h)).2.symm
    · obtain ⟨rfl, rfl⟩ := Prod.mk.inj (Except.ok.inj h)
      have husername : ss.username = [] := not_not.mp hnamed
      have hkept : attrCStr stunMaxUsernameSize sar = ss.username := by
        by_contra hne
        exact hname ⟨sar, rfl, by simpa using hsecure, hne, .inl husername⟩
      rw [hkept]

/-- How a check that stores no name may end. -/
structure Untouched (nd : NetData) (c : Ctx) (r : AuthResult × Ctx) : Prop where
  ss : r.2.ss = c.ss
  srv : r.1 ≠ .postponed → r.2.srv = c.srv
  waits : r.1 = .postponed → r.2.reply = c.reply ∧
    ∃ usname realm, r.2.srv = { c.srv with pending := c.srv.pending ++ [⟨c.ss.id, usname, realm, nd⟩] }

lemma Untouched.of_reply {res : AuthResult} (reply : Reply) (hres : res ≠ .postponed) :
    Untouched nd c (res, { c with reply := reply }) :=
  ⟨rfl, fun _ => rfl, fun h => absurd h hres⟩

lemma checkIntegrity_untouched (usname realm : List UInt8) :
    Untouched nd c (checkIntegrity cfg canResume nd usname realm c) := by
  have hpost : Untouched nd c (postponeOrChallenge canResume nd usname realm c) := by
    cases canResume with
    | false => exact .of_reply _ (by simp)
    | true => exact ⟨rfl, fun h => absurd rfl h, fun _ => ⟨rfl, usname, realm, rfl⟩⟩
  unfold checkIntegrity
  split_ifs
  · exact hpost
  · exact hpost
  · exact .of_reply _ (by simp)

lemma checkCredentials_untouched (isNew : Bool) (hbind : method ≠ stunMethodConnectionBind)
    (hname : ¬ StoresName c.ss attrs) :
    Untouched nd c (checkCredentials cfg method isNew canResume nd attrs c) := by
  unfold checkCredentials
  cases hmi : stunAttrGetFirstByType attrs attrMessageIntegrity with
  | none => exact .of_reply _ (by simp)
  | some mi =>
    simp only
    split_ifs with hlength
    · exact .of_reply _ (by simp)
    cases hrealm : checkRealmAttr c.srv.realms method attrs c.ss with
    | error e => exact .of_reply _ (by simp)
    | ok x =>
      obtain ⟨realm, x⟩ := x
      obtain ⟨rfl, hsecure⟩ := checkRealmAttr_unmarked hbind hrealm
      simp only
      cases husname : checkUsernameAttr method attrs (c.account (c.srv.realms, c.ss)).ss with
      | error e => exact .of_reply _ (by simp)
      | ok y =>
        obtain ⟨usname, ss⟩ := y
        obtain rfl : ss = c.ss := checkUsernameAttr_unmarked
          (fun h => hname ⟨⟨mi, hmi, not_not.mp hlength⟩, hsecure, h⟩) husname
        simp only
        split
        · exact .of_reply _ (by simp)
        · exact .of_reply _ (by simp)
        · exact checkIntegrity_untouched usname realm

lemma refreshNonce_unmarked :
    Unmarked cfg c (c.nonced cfg env) := by
  unfold Ctx.nonced refreshNonce
  split_ifs with hdue
  · exact ⟨rfl, rfl, fun h => absurd hdue h⟩
  · exact .of_same rfl rfl

/-- `check_stun_auth` changes at most the nonce, when it does not store a name. -/
lemma checkStunAuth_unmarked {postponed : Bool} (hbind : method ≠ stunMethodConnectionBind)
    (hname : ¬ StoresName c.ss attrs)
    (hcheck : checkStunAuth cfg env method tid canResume nd attrs c = (postponed, m)) :
    Unmarked cfg c m ∧ (postponed = false → m.srv.pending = c.srv.pending) ∧
      (postponed = true → m.reply = c.reply ∧
        ∃ usname realm, m.srv.pending = c.srv.pending ++ [⟨c.ss.id, usname, realm, nd⟩]) := by
  unfold checkStunAuth at hcheck
  by_cases hneed : (!needStunAuthentication cfg) = true
  · rw [if_pos hneed] at hcheck
    obtain ⟨rfl, rfl⟩ := Prod.mk.inj hcheck
    exact ⟨.of_same rfl rfl, fun _ => rfl, fun h => Bool.noConfusion h⟩
  rw [if_neg hneed] at hcheck
  simp only at hcheck
  have hnonce : Unmarked cfg c (c.nonced cfg env) :=
    refreshNonce_unmarked
  have huntouched : Untouched nd (c.nonced cfg env)
      (checkCredentials cfg method (c.ss.nonce = []) canResume nd attrs (c.nonced cfg env)) := by
    refine checkCredentials_untouched _ hbind ?_
    rw [hnonce.ss]
    exact fun h => hname h.of_renewed
  generalize checkCredentials cfg method (c.ss.nonce = []) canResume nd attrs
    (c.nonced cfg env) = r at hcheck huntouched
  obtain ⟨res, m₁⟩ := r
  obtain ⟨rfl, rfl⟩ := Prod.mk.inj hcheck
  obtain ⟨hss, hsrv, hwaits⟩ := huntouched
  cases res with
  | done | challenge =>
    have hsrv := hsrv (by simp)
    exact ⟨hnonce.trans (.of_same hss hsrv), fun _ => congrArg Server.pending hsrv,
      fun h => Bool.noConfusion h⟩
  | postponed =>
    obtain ⟨hreply, usname, realm, hsrv⟩ := hwaits rfl
    dsimp only at hss hsrv
    have hpending : Unmarked cfg (c.nonced cfg env) m₁ := by
      refine ⟨?_, ?_, fun _ => ?_⟩
      · rw [hss]
        rfl
      · rw [hsrv]
      · rw [hss]
        exact ⟨rfl, rfl⟩
    refine ⟨hnonce.trans (hpending.trans (.of_same rfl rfl)), fun h => Bool.noConfusion h,
      fun _ => ⟨hreply, usname, realm, ?_⟩⟩
    have hid : (refreshNonce cfg env c.srv.ctime c.ss).id = c.ss.id := by
      rw [show refreshNonce cfg env c.srv.ctime c.ss = _ from hnonce.ss]
      rfl
    rw [← hid]
    exact congrArg Server.pending hsrv

/-! ## A request -/

lemma beforeCheck_unmarked (tid : List UInt8)
    (horigin : method = stunMethodAllocate → c.ss.originSet = false → origins cfg attrs = []) :
    (beforeCheck cfg method tid attrs c).ss = c.ss ∧ (∃ n,
        (beforeCheck cfg method tid attrs c).srv = { c.srv with asCounter := n }) ∧
      (beforeCheck cfg method tid attrs c).reply.messageIntegrity = c.reply.messageIntegrity := by
  have hread : ∀ c₁ : Ctx, c₁.ss = c.ss → readOrigins cfg method attrs c₁ = c₁ := by
    intro c₁ hss
    rw [readOrigins]
    split_ifs with h
    · rw [horigin h.2.2 (hss ▸ h.2.1)]
      rfl
    · rfl
  have hcheck : ∀ c₁ : Ctx, ∃ reply : Reply, checkOrigins cfg attrs c₁ = { c₁ with reply := reply } ∧
      reply.messageIntegrity = c₁.reply.messageIntegrity := by
    intro c₁
    rw [checkOrigins]
    split_ifs <;> exact ⟨_, rfl, rfl⟩
  have hallocate : ∃ (n : ℕ) (reply : Reply), checkAllocate cfg tid c =
      { c with srv := { c.srv with asCounter := n }, reply := reply } ∧
      reply.messageIntegrity = c.reply.messageIntegrity := by
    rw [checkAllocate]
    split_ifs
    · exact ⟨c.srv.asCounter, _, rfl, rfl⟩
    split
    · exact ⟨c.srv.asCounter, _, rfl, rfl⟩
    · simp only [setAlternateServer]
      split_ifs
      · exact ⟨c.srv.asCounter, _, rfl, rfl⟩
      · split <;> exact ⟨_, _, rfl, rfl⟩
  unfold beforeCheck
  simp only
  split_ifs
  · obtain ⟨n, reply₁, h₁, hmi₁⟩ := hallocate
    obtain ⟨reply, h, hmi⟩ := hcheck (checkAllocate cfg tid c)
    rw [h, hread _ (by rw [h₁]), h₁]
    exact ⟨rfl, ⟨n, rfl⟩, by rw [hmi, h₁, hmi₁]⟩
  · obtain ⟨reply, h, hmi⟩ := hcheck c
    rw [h, hread { c with reply := reply } rfl]
    exact ⟨rfl, ⟨c.srv.asCounter, rfl⟩, hmi⟩

/-- From `c` to `m` a request that is rejected or has to wait has left nothing behind, and is not
handled. -/
structure Spares (cfg : Config) (nd : NetData) (c m : Ctx) : Prop where
  unmarked : m.log.any Effect.isRejected = true ∨ m.log.any Effect.isPostponed = true →
    Unmarked cfg c m ∧ m.open = false
  rejected : m.log.any Effect.isRejected = true → m.srv.pending = c.srv.pending
  postponed : m.log.any Effect.isPostponed = true →
    ∃ usname realm, m.srv.pending = c.srv.pending ++ [⟨c.ss.id, usname, realm, nd⟩]

lemma Spares.of_log (h : m.log = []) : Spares cfg nd c m := by
  constructor <;> simp [h]

lemma admitRequest_spares (hlog : c.log = []) (hinit : c.reply = .init)
    (hbind : method ≠ stunMethodConnectionBind)
    (htransfer : cfg.mobility = true → method ≠ stunMethodRefresh)
    (horigin : method = stunMethodAllocate → c.ss.originSet = false → origins cfg attrs = [])
    (hname : ¬ StoresName c.ss attrs) :
    Spares cfg nd c (admitRequest cfg env method tid canResume nd attrs c) := by
  obtain ⟨hss₁, ⟨n, hsrv₁⟩, hmi₁⟩ := beforeCheck_unmarked tid horigin
  have hlog₁ : (beforeCheck cfg method tid attrs c).log = [] := by
    rw [beforeCheck_frame.log_eq, hlog]
  rw [admitRequest]
  split_ifs
  · exact .of_log hlog
  swap
  · exact .of_log hlog
  generalize beforeCheck cfg method tid attrs c = c₁ at *
  cases hopen : c₁.open with
  | false =>
    rw [checkRequest_of_not_open hopen]
    exact .of_log hlog₁
  | true =>
    rw [checkRequest_of_open hopen hbind htransfer]
    rcases hcheck : checkStunAuth cfg env method tid canResume nd attrs c₁ with ⟨postponed, m₁⟩
    obtain ⟨hunmarked, hpending, hwaits⟩ := checkStunAuth_unmarked hbind (by rwa [hss₁]) hcheck
    have hcounter : Unmarked cfg c c₁ := by
      refine ⟨?_, ?_, fun _ => ?_⟩
      · rw [hss₁]
        rfl
      · rw [hsrv₁]
      · rw [hss₁]
        exact ⟨rfl, rfl⟩
    obtain ⟨hpostponed, hrejected⟩ := checkStunAuth_noted hlog₁ hcheck
    have hrejected' : m₁.log.any Effect.isRejected = true → postponed = false := by
      -- a request that is postponed has not got an error code
      intro h
      by_contra hpost
      rw [Bool.not_eq_false] at hpost
      have herr := hrejected h
      rw [(hwaits hpost).1] at herr
      simp only [Ctx.open, Bool.and_eq_true, beq_iff_eq] at hopen
      exact herr hopen.1.1
    have hafter : m₁.log.any Effect.isRejected = true ∨ postponed = true →
        (afterCheck method (postponed, m₁)).open = false ∧
          (afterCheck method (postponed, m₁)).ss = m₁.ss := by
      rintro (h | rfl)
      · exact afterCheck_of_rejected method (hrejected h)
      · refine afterCheck_of_postponed method ?_
        rw [(hwaits rfl).1, hmi₁, hinit]
        rfl
    refine ⟨fun h => ?_, fun h => ?_, fun h => ?_⟩ <;> rw [afterCheck_log] at h
    · obtain ⟨hclosed, hss⟩ := hafter (h.imp_right hpostponed.symm.trans)
      exact ⟨(hcounter.trans hunmarked).trans (.of_same hss (afterCheck_srv method _)), hclosed⟩
    · rw [afterCheck_srv, hpending (hrejected' h), hsrv₁]
    · obtain ⟨-, usname, realm, hwaits⟩ := hwaits (hpostponed.symm.trans h)
      exact ⟨usname, realm, by rw [afterCheck_srv, hwaits, hsrv₁, hss₁]⟩

lemma readClientConnection_spares (hlog : c.log = []) (hinit : c.reply = .init)
    (hvalid : c.ss.alloc.isValid = false) (htraceless : Traceless cfg c.ss nd)
    (hr : readClientConnection cfg env nd canResume c = m)
    (hnoted : m.log.any Effect.isRejected = true ∨ m.log.any Effect.isPostponed = true) :
    c.ss.Listening ∧ Unmarked cfg c m ∧
      (m.log.any Effect.isRejected = true → m.srv.pending = c.srv.pending) ∧
      (m.log.any Effect.isPostponed = true →
        ∃ usname realm, m.srv.pending = c.srv.pending ++ [⟨c.ss.id, usname, realm, nd⟩]) := by
  have hmarked : ∀ {mark : Effect → Bool}, (∀ {e}, mark e = true → e.IsCheck) →
      m.log.any mark = true → c.ss.Listening ∧
        (stunIsCommandMessageFullCheck nd.buf false false).1 = true ∧
        stunIsRequest nd.buf = true ∧ (c.admitted cfg env nd canResume).log.any mark = true :=
    fun hmark h => check_of_noted hlog hvalid htraceless.transfer hmark (hr ▸ h)
  have hrejected := hmarked @isCheck_of_rejected
  have hpostponed := hmarked @isCheck_of_postponed
  obtain ⟨hlistening, hfull, hrequest⟩ : c.ss.Listening ∧ _ ∧ stunIsRequest nd.buf = true :=
    hnoted.elim (fun h => ⟨(hrejected h).1, (hrejected h).2.1, (hrejected h).2.2.1⟩)
      fun h => ⟨(hpostponed h).1, (hpostponed h).2.1, (hpostponed h).2.2.1⟩
  have hadmitted : (c.admitted cfg env nd canResume).log.any Effect.isRejected = true ∨
      (c.admitted cfg env nd canResume).log.any Effect.isPostponed = true :=
    hnoted.imp (fun h => (hrejected h).2.2.2) fun h => (hpostponed h).2.2.2
  have hbind : stunGetMethod nd.buf ≠ stunMethodConnectionBind := by
    rcases hadmitted with h | h <;> obtain ⟨e, he, -⟩ := List.any_eq_true.mp h <;>
      exact ne_connectionBind_of_noted hlog he
  have hspares : Spares cfg nd (c.received nd) (c.admitted cfg env nd canResume) :=
    admitRequest_spares hlog hinit hbind htraceless.transfer htraceless.origin
      (htraceless.renewed (c.received nd).ss).name
  obtain ⟨hunmarked, hclosed⟩ := hspares.unmarked hadmitted
  obtain ⟨-, hss, hsrv⟩ := readClientConnection_of_not_open hlistening hfull hrequest rfl hclosed hr
  have hreceived : Unmarked cfg c (c.received nd) := ⟨rfl, rfl, fun _ => ⟨rfl, rfl⟩⟩
  refine ⟨hlistening, (hreceived.trans hunmarked).trans (.of_same hss hsrv), fun h => ?_, fun h => ?_⟩
  · rw [hsrv]
    exact hspares.rejected (hrejected h).2.2.2
  · rw [hsrv]
    exact hspares.postponed (hpostponed h).2.2.2

/-! ## Submitting the request -/

section Submit

variable {sid : ℕ} {srv : Server} {answer : Option KeyAnswer}

lemma acceptKey_of_known {k : KeyAnswer} (h : k.Known ss) (realms : RealmTable) :
    acceptKey cfg k realms ss = (realms, ss) := by
  have hrealm : ¬ (k.realm ≠ [] ∧ k.realm ≠ ss.realmOptions.name) :=
    fun hne => h.realm.elim hne.1 hne.2
  unfold acceptKey
  simp only
  rw [if_neg hrealm, h.hmackey, h.oauth, h.maxSessionTime, h.pwd, ← h.hmackeySet]

lemma Unmarked.server (h : Unmarked cfg ⟨srv, ss, .init, []⟩ m)
    (hpending : m.srv.pending = srv.pending) (hss : srv.sessionsMap sid = some ss)
    (hid : ss.id = sid) :
    m.srv.putSession m.ss = srv.renewed sid m.ss m.srv.asCounter ∧
      (m.srv.putSession m.ss).sessionsMap sid = some m.ss := by
  have hsid : m.ss.id = sid := by
    rw [h.ss]
    exact hid
  have hmap : (fun id => if id = m.ss.id then some m.ss else m.srv.sessionsMap id) =
      fun id => (srv.sessionsMap id).map fun ss => if id = sid then ss.renewed m.ss else ss := by
    funext id
    rw [hsid]
    split_ifs with hid'
    · rw [hid', hss]
      exact congrArg some h.ss
    · rw [h.srv, Option.map_id']
  constructor
  · rw [Server.putSession, hmap, h.srv, hpending]
    rfl
  · exact if_pos hsid.symm

/-- A rejected request leaves the server as it was, but for the nonce, the flag and the counter. -/
lemma submit_rejected (hwf : srv.WellFormed) (hss : srv.sessionsMap sid = some ss)
    (hvalid : ss.alloc.isValid = false) (htraceless : Traceless cfg ss nd)
    (hkey : ∀ k ∈ answer, k.Known ss)
    (hrejected : (srv.submit cfg env sid nd answer).2.any Effect.isRejected = true) :
    ∃ m, Unmarked cfg ⟨srv, ss, .init, []⟩ m ∧ m.srv.pending = srv.pending ∧
      (srv.submit cfg env sid nd answer).1 = m.srv.putSession m.ss := by
  have hpacket : srv.packet ⟨cfg, env, .clientInput sid nd true⟩ = some (nd, true, _) :=
    packet_clientInput hss
  obtain ⟨hlog, -⟩ := handle_packet_leaves hwf.numbered hpacket
  generalize hr : readClientConnection cfg env nd true ⟨srv, ss, .init, []⟩ = r at hlog
  have hspares := readClientConnection_spares rfl rfl hvalid htraceless hr
  have hafter : ss.Listening → Unmarked cfg ⟨srv, ss, .init, []⟩ r →
      (srv.handle ⟨cfg, env, .clientInput sid nd true⟩).1 = r.srv.putSession r.ss := by
    intro hlistening hunmarked
    refine handle_of_unchecked hwf.numbered hpacket hr hlistening ?_
    rw [hunmarked.ss]
    rfl
  rw [Server.submit] at hrejected ⊢
  simp only at hrejected ⊢
  split_ifs at hrejected ⊢ with hpostponed
  · rw [hlog] at hpostponed
    obtain ⟨hlistening, hunmarked, hkept, hwaits⟩ := hspares (.inr hpostponed)
    obtain ⟨usname, realm, hpending⟩ := hwaits hpostponed
    rw [any_append, Bool.or_eq_true, hafter hlistening hunmarked] at hrejected
    rw [hafter hlistening hunmarked]
    rcases hrejected with hrejected | hrejected
    · -- a request that waits has not been rejected
      rw [hlog] at hrejected
      have hsame := congrArg List.length ((hkept hrejected).symm.trans hpending)
      simp at hsame
    have hstep := (hwf.step ⟨cfg, env, .clientInput sid nd true⟩).numbered
    rw [Server.step, hafter hlistening hunmarked] at hstep
    have hsocket : r.ss.clientSocket.isSome = true := by
      obtain ⟨s, hs, -⟩ := hlistening
      rw [hunmarked.ss]
      exact isSome_iff_exists.mpr ⟨s, hs⟩
    have hresume : (r.srv.putSession r.ss).packet ⟨cfg, env, .resume srv.pending.length answer⟩ =
        some (nd, false, keyed cfg answer (restarted srv.pending r)) :=
      packet_resumed (by rw [hunmarked.ss]; rfl) hpending hsocket
    have hknown : keyed cfg answer (restarted srv.pending r) = restarted srv.pending r := by
      cases answer with
      | none => rfl
      | some k =>
        have hk : k.Known r.ss := hunmarked.ss ▸ (hkey k rfl).renewed r.ss
        exact congrArg (Ctx.account _) (acceptKey_of_known hk _)
    rw [hknown] at hresume
    -- the packet is handled again, and rejected
    generalize hr₂ : readClientConnection cfg env nd false (restarted srv.pending r) = r₂
    rw [(handle_packet_leaves hstep hresume).1, hr₂] at hrejected
    obtain ⟨hlistening₂, hunmarked₂, hkept₂, -⟩ := readClientConnection_spares rfl rfl
      (by rw [show (restarted srv.pending r).ss = _ from hunmarked.ss]; exact hvalid)
      (by rw [show (restarted srv.pending r).ss = _ from hunmarked.ss]; exact htraceless.renewed _)
      hr₂ (.inl hrejected)
    have hafter₂ := handle_of_unchecked hstep hresume hr₂ hlistening₂ (by rw [hunmarked₂.ss]; rfl)
    have hid₂ : r₂.ss.id = r.ss.id := by
      rw [hunmarked₂.ss]
      rfl
    have hmap : (fun id => if id = r₂.ss.id then some r₂.ss else r₂.srv.sessionsMap id) =
        fun id => if id = r₂.ss.id then some r₂.ss else srv.sessionsMap id := by
      funext id
      split_ifs with hid
      · rfl
      · rw [hunmarked₂.srv]
        refine (if_neg (by rwa [← hid₂])).trans ?_
        rw [hunmarked.srv]
    refine ⟨{ r₂ with srv := { r₂.srv with sessionsMap := srv.sessionsMap } }, ⟨?_, ?_, fun hdue => ?_⟩,
      hkept₂ hrejected, ?_⟩
    · rw [hunmarked₂.ss, show (restarted srv.pending r).ss = _ from hunmarked.ss]
      rfl
    · rw [hunmarked₂.srv]
      dsimp only [restarted, Server.putSession]
      rw [hunmarked.srv]
    · have hkeeps := hunmarked.nonce hdue
      have hctime : (restarted srv.pending r).srv.ctime = srv.ctime := by
        dsimp only [restarted, Server.putSession]
        rw [hunmarked.srv]
      obtain ⟨hnonce, htime⟩ := hunmarked₂.nonce (by
        rw [NonceDue, show (restarted srv.pending r).ss = r.ss from rfl, hkeeps.1, hkeeps.2, hctime]
        exact hdue)
      exact ⟨hnonce.trans hkeeps.1, htime.trans hkeeps.2⟩
    · rw [hafter₂, Server.putSession, Server.putSession, hmap]
  · rw [hlog] at hrejected
    obtain ⟨hlistening, hunmarked, hkept, -⟩ := hspares (.inl hrejected)
    exact ⟨r, hunmarked, hkept hrejected, hafter hlistening hunmarked⟩

end Submit

def challengedRun : List Input :=
  (waitsForKey north).take 2

def challengedServer : Server :=
  servedNorth challengedRun

def allocateOf (user : List UInt8) (key : List UInt8) : NetData :=
  clientRequest stunMethodAllocate
    (udpTransportAttr :: credentialAttrs user north key)

/-- What the server does with an Allocate, and with the answer to the lookup of the key. -/
def submitAllocate (srv : Server) (nd : NetData) (answer : Option KeyAnswer) :
    Server × List Effect :=
  srv.submit (longTermParams keyAsMac) plainEnv 1 nd answer

def Effect.isCreated (sid : ℕ) : Effect → Bool
  | .allocationCreated sid' => sid' == sid
  | _ => false

/-- A request with credentials for a realm that the session does not have. -/
def strayAllocate : NetData :=
  clientRequest stunMethodAllocate
    (udpTransportAttr :: credentialAttrs (asciiBytes "eve") (asciiBytes "south") [2])

end Coturn
