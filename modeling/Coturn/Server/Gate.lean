/-
# The authentication gate

With long-term credentials nothing that needs authentication happens unless a check of
`check_stun_auth` has been passed before, in the handling of the same packet: `Ctx.Gated` says so
for each function on the way from a packet to its handler. `Authentic` is what a passed check
says about the packet.
-/
import Coturn.Server.Packets

namespace Coturn

open Ctx

variable {ss : Session} {r : AuthResult × Ctx}

variable {cfg : Config} {env : Env} {method : ℕ} {tid : List UInt8} {canResume : Bool}
  {nd : NetData} {attrs : List StunAttr} {c c' c'' : Ctx}

/-! ## What a passed check says -/

/-- The packet carries the nonce and the user name of the session, and an HMAC that is valid under
its key; the nonce has not expired. -/
structure Authentic (cfg : Config) (ctime : UInt32) (buf : List UInt8) (ss : Session) : Prop where
  nonce : ∃ sar, stunAttrGetFirstByType (stunAttrs buf) attrNonce = some sar ∧
    attrCStr stunMaxNonceSize sar = ss.nonce
  /-- A lifetime of nonces is a positive 32-bit `int`. -/
  fresh : 0 < cfg.staleNonce.toNat → cfg.staleNonce.toNat < 2 ^ 31 →
    turnTimeBefore ss.nonceExpirationTime ctime = false
  username : ∃ sar, stunAttrGetFirstByType (stunAttrs buf) attrUsername = some sar ∧
    attrCStr stunMaxUsernameSize sar = ss.username
  hmac : stunCheckMessageIntegrityByKey cfg.hmac buf ss.hmackey = some true

/-- A report of a passed check tells the truth about the packet. -/
def Effect.CheckSound (cfg : Config) (ctime : UInt32) (buf : List UInt8) (e : Effect) : Prop :=
  ∀ a, e = .authCheck a → a.Passed → Authentic cfg ctime buf a.ss

variable {e : Effect} {realms : RealmTable} {isNew : Bool} {p : Effect → Prop}

lemma Effect.OfHandler.checkSound {ctime : UInt32} {buf : List UInt8}
    (he : e.OfHandler) : e.CheckSound cfg ctime buf := by
  rintro a rfl
  rcases he with he | he <;> exact absurd he (by simp [Effect.Sensitive, Effect.Message])

lemma refreshNonce_fresh (cfg : Config) (env : Env) (ctime : UInt32) (ss : Session)
    (hpos : 0 < cfg.staleNonce.toNat) (hlt : cfg.staleNonce.toNat < 2 ^ 31) :
    turnTimeBefore (refreshNonce cfg env ctime ss).nonceExpirationTime ctime = false := by
  unfold refreshNonce
  split_ifs with hnew
  · have hsub : ctime + cfg.staleNonce - ctime = cfg.staleNonce := by
      rw [UInt32.add_comm, UInt32.add_sub_cancel]
    simp only [turnTimeBefore, hsub, decide_eq_false_iff_not, not_le]
    omega
  · simp only [not_or, not_and, Bool.not_eq_true] at hnew
    refine hnew.2 fun hzero => ?_
    rw [hzero] at hpos
    exact absurd hpos (by decide)

lemma checkRealmAttr_error {e : TurnError}
    (h : checkRealmAttr realms method attrs ss = .error e) : e.code ≠ 0 := by
  unfold checkRealmAttr at h
  split at h
  · rw [← Except.error.inj h]
    decide
  · simp only at h
    split_ifs at h
    all_goals
      rw [← Except.error.inj h]
      decide

lemma checkUsernameAttr_error {e : TurnError} (h : checkUsernameAttr method attrs ss = .error e) :
    e.code ≠ 0 := by
  unfold checkUsernameAttr at h
  split at h
  · rw [← Except.error.inj h]
    decide
  · simp only at h
    split_ifs at h
    all_goals
      rw [← Except.error.inj h]
      decide

/-- The user name under which a request with the attributes `attrs` is checked against a session. -/
def Session.checkedName (ss : Session) (attrs : List StunAttr) : List UInt8 :=
  if ss.username = [] ∨ ss.oauth = true then
    (stunAttrGetFirstByType attrs attrUsername).elim [] (attrCStr stunMaxUsernameSize)
  else ss.username

lemma checkUsernameAttr_ok {ss' : Session} {usname : List UInt8}
    (h : checkUsernameAttr method attrs ss = .ok (usname, ss')) :
    (∃ sar, stunAttrGetFirstByType attrs attrUsername = some sar ∧
      attrCStr stunMaxUsernameSize sar = ss'.username) ∧
    ss'.nonce = ss.nonce ∧ ss'.nonceExpirationTime = ss.nonceExpirationTime ∧
    ss'.username = ss.checkedName attrs ∧ ss'.hmackey = ss.hmackey := by
  unfold checkUsernameAttr at h
  split at h
  · exact absurd h (by simp)
  · next sar hsar =>
    simp only at h
    split_ifs at h with _ hknown hne hoauth
    all_goals
      obtain ⟨-, rfl⟩ := Prod.mk.inj (Except.ok.inj h)
      refine ⟨⟨sar, hsar, ?_⟩, rfl, rfl, ?_, rfl⟩
    · rfl
    · rw [Session.checkedName, if_pos (Or.inr hoauth), hsar]
      rfl
    · exact (not_not.mp hne).symm
    · rw [Session.checkedName, hsar]
      split_ifs
      · exact not_not.mp hne
      · rfl
    · rfl
    · rw [Session.checkedName, if_pos (Or.inl (not_not.mp hknown)), hsar]
      rfl

lemma checkRealmAttr_ok {realm : List UInt8} {r : RealmTable × Session}
    (h : checkRealmAttr realms method attrs ss = .ok (realm, r)) :
    r.2.nonce = ss.nonce ∧ r.2.nonceExpirationTime = ss.nonceExpirationTime ∧
      r.2.checkedName attrs = ss.checkedName attrs ∧ r.2.hmackey = ss.hmackey := by
  unfold checkRealmAttr at h
  split at h
  · exact absurd h (by simp)
  · simp only at h
    split_ifs at h
    all_goals
      obtain ⟨-, rfl⟩ := Prod.mk.inj (Except.ok.inj h)
      exact ⟨rfl, rfl, rfl, rfl⟩

lemma checkNonceAttr_error {e : TurnError}
    (h : checkNonceAttr isNew attrs ss = .error e) : e.code ≠ 0 := by
  unfold checkNonceAttr at h
  split at h
  · rw [← Except.error.inj h]
    decide
  · split_ifs at h

lemma checkNonceAttr_ok (h : checkNonceAttr isNew attrs ss = .ok none) :
    ∃ sar, stunAttrGetFirstByType attrs attrNonce = some sar ∧
      attrCStr stunMaxNonceSize sar = ss.nonce := by
  unfold checkNonceAttr at h
  split at h
  · exact absurd h (by simp)
  · next sar hsar =>
    split_ifs at h with _ hne
    · exact absurd h (by simp)
    · exact absurd h (by simp)
    · exact ⟨sar, hsar, (not_not.mp hne).symm⟩

lemma checkIntegrity_cases {usname realm : List UInt8}
    (hr : checkIntegrity cfg canResume nd usname realm c = r) :
    (r.1 = .postponed ∧ canResume = true) ∨ (r.1 = .challenge ∧ r.2.reply.errCode ≠ 0) ∨
      (r.1 = .done ∧ r.2.ss = c.ss ∧
        stunCheckMessageIntegrityByKey cfg.hmac nd.buf c.ss.hmackey = some true) := by
  have hpost : ∀ {r : AuthResult × Ctx}, postponeOrChallenge canResume nd usname realm c = r →
      (r.1 = .postponed ∧ canResume = true) ∨ (r.1 = .challenge ∧ r.2.reply.errCode ≠ 0) := by
    rintro _ rfl
    unfold postponeOrChallenge
    split_ifs with hresume
    · exact Or.inl ⟨rfl, hresume⟩
    · exact Or.inr ⟨rfl, (by decide : 401 ≠ 0)⟩
  unfold checkIntegrity at hr
  split_ifs at hr with _ hmac
  · exact (hpost hr).imp_right Or.inl
  · exact (hpost hr).imp_right Or.inl
  · subst hr
    exact Or.inr (Or.inr ⟨rfl, rfl, not_not.mp hmac⟩)

/-- How the check of the credentials can end. -/
lemma checkCredentials_cases (hr : checkCredentials cfg method isNew canResume nd attrs c = r) :
    (r.1 = .done ∧ r.2.reply.errCode ≠ 0) ∨ (r.1 = .challenge ∧ r.2.reply.errCode ≠ 0) ∨
    (r.1 = .postponed ∧ canResume = true) ∨
    (r.1 = .done ∧
      (∃ sar, stunAttrGetFirstByType attrs attrNonce = some sar ∧
        attrCStr stunMaxNonceSize sar = r.2.ss.nonce) ∧
      (∃ sar, stunAttrGetFirstByType attrs attrUsername = some sar ∧
        attrCStr stunMaxUsernameSize sar = r.2.ss.username) ∧
      stunCheckMessageIntegrityByKey cfg.hmac nd.buf r.2.ss.hmackey = some true ∧
      r.2.ss.nonceExpirationTime = c.ss.nonceExpirationTime ∧
      r.2.ss.username = c.ss.checkedName attrs ∧ r.2.ss.hmackey = c.ss.hmackey) := by
  unfold checkCredentials at hr
  split at hr
  · subst hr
    exact Or.inr (Or.inl ⟨rfl, (by decide : 401 ≠ 0)⟩)
  split_ifs at hr
  · subst hr
    exact Or.inr (Or.inl ⟨rfl, (by decide : 401 ≠ 0)⟩)
  split at hr
  · next e he =>
    subst hr
    exact Or.inl ⟨rfl, checkRealmAttr_error he⟩
  next realm ss₁ hrealm =>
  obtain ⟨hnonce₁, htime₁, hname₁, hkey₁⟩ := checkRealmAttr_ok hrealm
  simp only at hr
  split at hr
  · next e he =>
    subst hr
    exact Or.inl ⟨rfl, checkUsernameAttr_error he⟩
  next usname ss₂ husname =>
  obtain ⟨husername, hnonce₂, htime₂, hname₂, hkey₂⟩ := checkUsernameAttr_ok husname
  split at hr
  · next e he =>
    subst hr
    exact Or.inl ⟨rfl, checkNonceAttr_error he⟩
  · subst hr
    exact Or.inr (Or.inl ⟨rfl, (by decide : 438 ≠ 0)⟩)
  · next hnonce =>
    rcases checkIntegrity_cases hr with h | h | ⟨hdone, hss, hmac⟩
    · exact Or.inr (Or.inr (Or.inl h))
    · exact Or.inr (Or.inl h)
    · rw [hss]
      exact Or.inr (Or.inr (Or.inr
        ⟨hdone, checkNonceAttr_ok hnonce, husername, hmac, htime₂.trans htime₁,
          hname₂.trans hname₁, hkey₂.trans hkey₁⟩))

/-- Building a challenge changes the response only. -/
lemma checkStunAuth_outcome (tid : List UInt8) (hneed : needStunAuthentication cfg = true)
    (hr : checkCredentials cfg method (c.ss.nonce = []) canResume nd attrs (c.nonced cfg env) = r) :
    (checkStunAuth cfg env method tid canResume nd attrs c).2.ss = r.2.ss ∧
      (checkStunAuth cfg env method tid canResume nd attrs c).2.reply.errCode = r.2.reply.errCode ∧
      ((checkStunAuth cfg env method tid canResume nd attrs c).1 = true ↔ r.1 = .postponed) := by
  unfold checkStunAuth
  rw [if_neg (by simp [hneed])]
  simp only [hr]
  obtain ⟨_ | _ | _, c₂⟩ := r
  · exact ⟨rfl, rfl, by simp⟩
  · exact ⟨rfl, rfl, by simp⟩
  · exact ⟨rfl, rfl, by simp⟩

/-- A request that passes is authentic, and leaves the name and the key of the session. -/
lemma checkStunAuth_passed (hneed : needStunAuthentication cfg = true) {q : Bool × Ctx}
    (hq : checkStunAuth cfg env method tid canResume nd attrs c = q) (hpostponed : q.1 = false)
    (herr : q.2.reply.errCode = 0) :
    (attrs = stunAttrs nd.buf → Authentic cfg c.srv.ctime nd.buf q.2.ss) ∧
      q.2.ss.username = c.ss.checkedName attrs ∧ q.2.ss.hmackey = c.ss.hmackey := by
  generalize hr : checkCredentials cfg method (c.ss.nonce = []) canResume nd attrs
    (c.nonced cfg env) = r
  obtain ⟨hss, hcode, hiff⟩ := checkStunAuth_outcome tid hneed hr
  rw [hq] at hss hcode hiff
  rw [hcode] at herr
  rw [hss]
  -- a new nonce does not touch the name and the key
  have hsame : (refreshNonce cfg env c.srv.ctime c.ss).checkedName attrs =
      c.ss.checkedName attrs ∧ (refreshNonce cfg env c.srv.ctime c.ss).hmackey = c.ss.hmackey := by
    unfold refreshNonce
    split_ifs <;> exact ⟨rfl, rfl⟩
  rcases checkCredentials_cases hr with
    h | h | h | ⟨-, hnonce, husername, hmac, htime, hname, hkey⟩
  · exact absurd herr h.2
  · exact absurd herr h.2
  · rw [hiff.mpr h.1] at hpostponed
    exact absurd hpostponed (by simp)
  · refine ⟨?_, hname.trans hsame.1, hkey.trans hsame.2⟩
    rintro rfl
    refine ⟨hnonce, fun hpos hlt => ?_, husername, hmac⟩
    rw [htime]
    exact refreshNonce_fresh cfg env c.srv.ctime c.ss hpos hlt

lemma checkStunAuth_not_postponed :
    (checkStunAuth cfg env method tid false nd attrs c).1 = false := by
  cases hneed : needStunAuthentication cfg with
  | false =>
    unfold checkStunAuth
    rw [if_pos (by simp [hneed])]
  | true =>
    generalize hr : checkCredentials cfg method (c.ss.nonce = []) false nd attrs
      (c.nonced cfg env) = r
    obtain ⟨-, -, hiff⟩ := checkStunAuth_outcome tid hneed hr
    rw [← Bool.not_eq_true, hiff]
    rcases checkCredentials_cases hr with h | h | h | h
    · simp [h.1]
    · simp [h.1]
    · exact absurd h.2 (by simp)
    · simp [h.1]

lemma checkStunAuth_sound (c : Ctx) :
    Frame (Effect.CheckSound cfg c.srv.ctime nd.buf) c
      (checkStunAuth cfg env method tid canResume nd (stunAttrs nd.buf) c).2 := by
  refine checkStunAuth_frame c ?_
  rintro hneed a ha ⟨herr, hpostponed⟩
  obtain rfl := Effect.authCheck.inj ha
  exact (checkStunAuth_passed hneed rfl hpostponed herr).1 rfl

/-! ## The gate -/

/-- The check whose end is reported. -/
def Effect.check? : Effect → Option AuthCheck
  | .authCheck a => some a
  | _ => none

lemma Effect.check?_eq_some {e : Effect} {a : AuthCheck} :
    e.check? = some a ↔ e = .authCheck a := by
  cases e <;> simp [Effect.check?]

instance {log : List Effect} {p : AuthCheck → Prop} [DecidablePred p] :
    Decidable (∃ a, Effect.authCheck a ∈ log ∧ p a) :=
  decidable_of_iff (∃ e ∈ log, ∃ a ∈ e.check?, p a) <| by
    constructor
    · rintro ⟨e, he, a, ha, h⟩
      obtain rfl := Effect.check?_eq_some.mp ha
      exact ⟨a, he, h⟩
    · rintro ⟨a, ha, h⟩
      exact ⟨_, ha, a, rfl, h⟩

/-- A check has been passed. -/
def Ctx.Cleared (c : Ctx) : Prop := ∃ a, Effect.authCheck a ∈ c.log ∧ a.Passed
  deriving Decidable

/-- From `c` to `c'` nothing happened that needs authentication, or only after a check that was
passed. -/
def Ctx.Gated (c c' : Ctx) : Prop :=
  Keeps (fun e => ¬ e.Sensitive) c c' ∨
    ∃ m, Keeps (fun e => ¬ e.Sensitive) c m ∧ m.Cleared ∧ Follows (fun _ => True) m c'

lemma Effect.Message.not_sensitive (he : e.Message) : ¬ e.Sensitive := by
  cases e <;> first | exact id | exact absurd he id

namespace Ctx

lemma Frame.gated (h : Frame (fun e => ¬ e.Sensitive) c c') : Gated c c' := Or.inl h.toKeeps

lemma Frame.gated_trans (h : Frame (fun e => ¬ e.Sensitive) c c') (h' : Gated c' c'') :
    Gated c c'' := by
  rcases h' with h' | ⟨m, hm, hcleared, hafter⟩
  · exact Or.inl (h.toKeeps.trans h')
  · exact Or.inr ⟨m, h.toKeeps.trans hm, hcleared, hafter⟩

lemma Gated.trans_frame (h : Gated c c') (h' : Frame (fun e => ¬ e.Sensitive) c' c'') :
    Gated c c'' := by
  rcases h with h | ⟨m, hm, hcleared, hafter⟩
  · exact Or.inl (h.trans h'.toKeeps)
  · exact Or.inr ⟨m, hm, hcleared, hafter.trans (h'.toFollows.mono fun _ _ => trivial)⟩

lemma Gated.of_cleared (hcleared : c.Cleared) (h : Follows p c c') : Gated c c' :=
  Or.inr ⟨c, Keeps.refl c, hcleared, h.mono fun _ _ => trivial⟩

lemma Gated.of_reply (hsrv : c'.srv = c.srv) (hss : c'.ss = c.ss) (hlog : c'.log = c.log) :
    Gated c c' :=
  Frame.gated (Frame.of_reply hsrv hss hlog)

lemma Gated.of_message (h : Frame Effect.Message c c') : Gated c c' :=
  (h.mono fun _ => Effect.Message.not_sensitive).gated

end Ctx

lemma checkStunAuth_not_sensitive {r : Bool × Ctx}
    (hcheck : checkStunAuth cfg env method tid canResume nd attrs c = r) :
    Frame (fun e => ¬ e.Sensitive) c r.2 := by
  rw [← hcheck]
  exact checkStunAuth_frame c fun _ => id

section LongTerm

variable (hct : cfg.ct = .longTerm)

include hct

lemma checkStunAuth_emits {postponed : Bool}
    (hcheck : checkStunAuth cfg env method tid canResume nd attrs c = (postponed, c')) :
    c'.log = c.log ++ [.authCheck ⟨c'.ss, c'.reply.errCode, postponed⟩] := by
  have hframe := checkCredentials_calm (p := fun _ => False) cfg method (c.ss.nonce = []) canResume
    nd attrs (c.nonced cfg env)
  unfold checkStunAuth at hcheck
  rw [if_neg (by simp [needStunAuthentication, hct])] at hcheck
  simp only at hcheck
  generalize checkCredentials cfg method (c.ss.nonce = []) canResume nd attrs
    (c.nonced cfg env) = r at hframe hcheck
  have hlog : r.2.log = c.log := by
    obtain ⟨l, hlog, hl⟩ := hframe.log
    rw [hlog, List.eq_nil_iff_forall_not_mem.mpr hl, List.append_nil]
  obtain ⟨rfl, rfl⟩ := Prod.mk.inj hcheck
  rw [← hlog]
  split <;> rfl

lemma checkStunAuth_cleared
    (hcheck : checkStunAuth cfg env method tid canResume nd attrs c = (false, c'))
    (herr : c'.reply.errCode = 0) : c'.Cleared := by
  rw [Ctx.Cleared, checkStunAuth_emits hct hcheck]
  exact ⟨_, List.mem_append_right _ (List.mem_singleton_self _), herr, rfl⟩

/-- A request whose handling goes on after `checkRequest` has passed the check, or will be checked
elsewhere. -/
lemma checkRequest_cleared
    (hopen : (checkRequest cfg env method tid canResume nd attrs c).open = true) :
    method = stunMethodConnectionBind ∨
      (method = stunMethodRefresh ∧ cfg.mobility = true ∧ c.ss.alloc.isValid = false) ∨
      (checkRequest cfg env method tid canResume nd attrs c).Cleared := by
  unfold checkRequest at hopen ⊢
  split_ifs at hopen ⊢ with hskip hmobile
  · rw [Bool.or_eq_true, hopen] at hskip
    exact Or.inl (by simpa using hskip)
  · exact Or.inr (Or.inl ⟨hmobile.2.1, hmobile.1, hmobile.2.2⟩)
  · right; right
    rcases hcheck : checkStunAuth cfg env method tid canResume nd attrs c with ⟨_ | _, c₁⟩ <;>
      rw [hcheck] at hopen
    · simp only [Bool.false_eq_true, if_false] at hopen ⊢
      have herr : c₁.reply.errCode = 0 := by
        split_ifs at hopen with horigin <;>
          simp only [Ctx.open, Bool.and_eq_true, beq_iff_eq] at hopen <;> exact hopen.1.1
      obtain ⟨a, ha, hpassed⟩ := checkStunAuth_cleared hct hcheck herr
      refine ⟨a, ?_, hpassed⟩
      split_ifs <;> exact ha
    · simp only [if_true] at hopen
      split_ifs at hopen <;> simp [Ctx.open] at hopen

lemma admitRequest_cleared
    (hopen : (admitRequest cfg env method tid canResume nd attrs c).open = true) :
    method = stunMethodBinding ∨ method = stunMethodConnectionBind ∨
      (method = stunMethodRefresh ∧ cfg.mobility = true ∧ c.ss.alloc.isValid = false) ∨
      (admitRequest cfg env method tid canResume nd attrs c).Cleared := by
  rw [admitRequest] at hopen ⊢
  split_ifs at hopen ⊢ with hno hcheck
  · simp [Ctx.open] at hopen
  · have hcleared := checkRequest_cleared hct hopen
    rw [(beforeCheck_frame (p := Effect.IsCheck)).alloc] at hcleared
    exact Or.inr hcleared
  · left
    by_contra hne
    exact hcheck (Or.inl hne)

lemma refreshTransfer_gated (v : RefreshVars) (c : Ctx) (hids : c.srv.IdsMatch) :
    Gated c (refreshTransfer cfg env tid canResume nd attrs v c) := by
  unfold refreshTransfer
  split
  · exact (Frame.fail _ _).gated
  · next orig horig =>
    have hold := getSessionFromMobileMap_some hids horig
    iterate 5
      split
      · exact (Frame.fail _ _).gated
    rcases hcheck : checkStunAuth cfg env stunMethodRefresh tid canResume nd attrs
      (c.forTransfer cfg orig) with ⟨_ | _, c₁⟩ <;>
      have hframe := (transferCandidate_calm cfg orig c).checked.frame.trans
        (checkStunAuth_not_sensitive hcheck)
    · simp only [Bool.false_eq_true, if_false]
      split_ifs with herr
      · exact hframe.gated
      · have hcleared := checkStunAuth_cleared hct hcheck (not_not.mp herr)
        refine hframe.gated_trans (Gated.of_cleared hcleared (transferSession_settles cfg env tid v
          _ orig c₁ ?_).toFollows)
        rw [hframe.sessions, hold]
        rfl
    · exact Frame.gated (hframe.trans (Frame.of_reply rfl rfl rfl))

/-- A Refresh without a valid allocation is checked by its handler. -/
lemma handleTurnRefresh_gated (c : Ctx) (hids : c.srv.IdsMatch)
    (hvalid : c.ss.alloc.isValid = false) :
    Gated c (handleTurnRefresh cfg env tid canResume nd attrs c) := by
  simp only [handleTurnRefresh]
  split_ifs with _ _ _ hvalid'
  · exact (Frame.fail _ _).gated
  · exact Gated.of_reply rfl rfl rfl
  · exact Gated.of_reply rfl rfl rfl
  · exact absurd (hvalid.symm.trans hvalid') (by simp)
  · exact Gated.of_reply rfl rfl rfl
  · refine Frame.gated_trans ?_
      (Gated.of_message (refreshElsewhere_calm (fun _ _ _ => trivial) env _ nd _).frame)
    exact Frame.of_reply rfl rfl rfl
  · refine Frame.gated_trans ?_ (refreshTransfer_gated hct _ _ hids)
    exact Frame.of_reply rfl rfl rfl

end LongTerm

lemma handleRequest_gated (hct : cfg.ct = .longTerm) (c : Ctx) (hids : c.srv.IdsMatch) :
    Gated c (handleRequest cfg env method tid canResume nd attrs c) := by
  have hbefore : Frame (fun e => ¬ e.Sensitive) c
      (admitRequest cfg env method tid canResume nd attrs c) :=
    admitRequest_frame c fun c₁ _ => checkStunAuth_not_sensitive rfl
  have hids₁ : (admitRequest cfg env method tid canResume nd attrs c).srv.IdsMatch := by
    rw [Server.IdsMatch, hbefore.sessions]
    exact hids
  unfold handleRequest
  simp only
  split_ifs with hopen
  · refine hbefore.gated_trans ?_
    rcases admitRequest_cleared hct hopen with rfl | rfl | ⟨rfl, -, hvalid⟩ | hcleared
    · exact Gated.of_message (dispatchBinding_calm cfg env tid attrs _).frame
    · exact Gated.of_message (handleTurnConnectionBind_calm cfg env tid nd attrs _).frame
    · refine handleTurnRefresh_gated hct _ hids₁ ?_
      rw [hbefore.alloc]
      exact hvalid
    · exact Gated.of_cleared hcleared (dispatch_step (p := fun _ => True) _ hids₁
        (fun _ _ => trivial) fun c₁ _ =>
          (checkStunAuth_not_sensitive rfl).mono fun _ _ => trivial).toFollows
  · exact hbefore.gated

/-! ## Packets -/

lemma SendEffect.not_sensitive (he : SendEffect cfg tid nd attrs c e) : ¬ e.Sensitive := by
  obtain ⟨data, relayS, owner, -, -, -, rfl⟩ := he.sent
  exact id

lemma ChannelEffect.not_sensitive {chnum : UInt16} {len : ℕ}
    (he : ChannelEffect nd chnum len c e) : ¬ e.Sensitive := by
  obtain ⟨r, chn, relayS, -, -, -, rfl⟩ := he.sent
  exact id

lemma handleMessage_gated (hct : cfg.ct = .longTerm) (c : Ctx) (hids : c.srv.IdsMatch) :
    Gated c (handleMessage cfg env nd canResume c) := by
  unfold handleMessage
  simp only
  split_ifs
  · exact handleRequest_gated hct c hids
  · exact Or.inl (handleIndication_keeps _ c fun _ _ => SendEffect.not_sensitive).1
  · exact Gated.of_reply rfl rfl rfl

/-- Nothing that needs authentication happens to a packet that has passed no check. -/
lemma readClientConnection_gated (hct : cfg.ct = .longTerm) (c : Ctx) (hids : c.srv.IdsMatch) :
    Gated c (readClientConnection cfg env nd canResume c) := by
  rcases readClientConnection_cases cfg env nd canResume c rfl with
    ⟨h, -⟩ | ⟨s, chnum, len, -, h⟩ | ⟨-, -, h⟩
  · exact Gated.of_message h.frame
  · rw [h]
    exact (writeToPeerchannel_calm c fun _ => ChannelEffect.not_sensitive).frame.gated
  · rw [h]
    refine (received_frame nd c).gated_trans (Gated.trans_frame ?_
      ((readCommand_calm cfg env nd canResume _).1.frame.mono fun _ =>
        Effect.Message.not_sensitive))
    exact handleMessage_gated hct (c.received nd) hids

lemma bindDataConnection_gated (hct : cfg.ct = .longTerm) (tc : TcpConnection) (s : IoaSocket)
    (c : Ctx) : Gated c (bindDataConnection cfg env tc tid s nd c) := by
  unfold bindDataConnection
  split
  · exact (Frame.failCode 404).gated
  rcases hcheck : bindAuth cfg env tid nd c with ⟨postponed, c₁⟩
  have hframe := checkStunAuth_not_sensitive hcheck
  obtain rfl : postponed = false :=
    (congrArg Prod.fst hcheck).symm.trans checkStunAuth_not_postponed
  simp only
  split
  · exact hframe.gated
  next herr =>
    refine hframe.gated_trans
      (Gated.of_cleared (p := fun _ => True) (checkStunAuth_cleared hct hcheck (not_not.mp herr)) ?_)
    split_ifs
    · exact ⟨⟨[_], rfl, by simp⟩, rfl, rfl⟩
    · exact ⟨⟨[_], rfl, by simp⟩, rfl, rfl⟩

lemma bindDataConnection_frame (tc : TcpConnection) (s : IoaSocket) (c : Ctx)
    (hp : Frame p c (bindAuth cfg env tid nd c).2)
    (hbound : p (.dataConnectionBound c.ss.id tc.id)) :
    TablesFrame p c (bindDataConnection cfg env tc tid s nd c) := by
  unfold bindDataConnection
  split
  · exact (Frame.failCode 404).tablesFrame
  simp only
  generalize (bindAuth cfg env tid nd c).2 = c₁ at hp
  rw [← hp.sid] at hbound
  split
  · exact hp.tablesFrame
  · have hemit : TablesFrame p c₁ ({ c₁ with
        ss := c₁.ss.modifyTc tc.handle fun tc =>
          { tc with state := .ready, clientS := some s.handle } }.emit
        (.dataConnectionBound c₁.ss.id tc.id)) := by
      refine TablesFrame.trans ?_ (Frame.emit hbound).tablesFrame
      exact TablesFrame.of_session rfl rfl rfl
    split
    · exact hp.tablesFrame.trans hemit
    · exact (hp.tablesFrame.trans hemit).trans (Frame.failCode 500).tablesFrame

end Coturn
