/-
# What MESSAGE-INTEGRITY protects

`check_stun_auth` verifies an HMAC over the part of a request before its first MESSAGE-INTEGRITY,
but it and the handlers read the attributes of the whole request. The server does the same with the
request that ends there, apart from FINGERPRINT, when nobody reads the attributes in question.
-/
import Coturn.Server.AllocateCases
import Coturn.Server.ConnectionBind
import Coturn.Stun.Trailing

namespace Coturn

open ByteSeq Ctx List

/-! ## Attributes that nobody reads -/

/-- The loop of the handler of this method passes over attributes of this type. -/
def passedOver (method attrType : ℕ) : Bool :=
  if skipAttribute attrType then !(method == stunMethodAllocate && attrType == attrUsername)
  else
    (method == stunMethodBinding && attrType == oldStunAttributePassword) ||
      0x7FFF < attrType &&
        !(method == stunMethodAllocate && attrType == attrNewBandwidth) &&
        !((method == stunMethodAllocate || method == stunMethodRefresh) &&
          (attrType == attrMobilityTicket || attrType == attrAdditionalAddressFamily))

/-- The handler of this method enters its loop, and the loop goes on after these attributes. For a
ConnectionBind another session has run such a loop. -/
def handlerReads (cfg : Config) (method : ℕ) (tid : List UInt8) (ss : Session)
    (attrs : List StunAttr) : Bool :=
  match method with
  | stunMethodAllocate => !ss.alloc.isValid && (readAllocate cfg ss attrs).live
  | stunMethodConnect =>
    ss.isTcpRelay && ss.alloc.isValid && (readConnect cfg ss.alloc tid attrs).live
  | stunMethodConnectionBind => true
  | stunMethodRefresh =>
    (ss.alloc.isValid || cfg.mobility) && (readRefresh cfg (refreshView ss) attrs).live
  | stunMethodChannelBind =>
    !ss.isTcpRelay && ss.alloc.isValid && (readChannelBind cfg ss.alloc tid attrs).live
  | stunMethodCreatePermission =>
    ss.alloc.isValid && (readCreatePermission cfg ss tid attrs).live
  | stunMethodBinding => ss.clientSocket.any fun s => (readBinding cfg s.type false attrs).live
  | _ => false

/-- `handle_turn_command` goes on to look at origins after those of the attributes `before`. -/
def readsOrigins (cfg : Config) (method : ℕ) (ss : Session) (before : List StunAttr) : Bool :=
  if ss.originSet then
    cfg.checkOrigin && (ss.origin == [] || !(origins cfg before).contains ss.origin)
  else method == stunMethodAllocate && (origins cfg before).all fun o => (cfg.originToRealm o).isNone

/-- Nobody reads the attributes `rest` when they come after `before` and MESSAGE-INTEGRITY. -/
structure Inert (cfg : Config) (method : ℕ) (tid : List UInt8) (ss : Session)
    (before : List StunAttr) (mi : StunAttr) (rest : List StunAttr) : Prop where
  loop : handlerReads cfg method tid ss (before ++ [mi]) = true →
    ∀ sar ∈ rest, passedOver method sar.type = true
  /-- `check_stun_auth` reads the first attribute of each of these types. -/
  credential : ∀ sar ∈ rest, sar.type ∈ [attrUsername, attrRealm, attrNonce] →
    ∃ other ∈ before, other.type = sar.type
  origin : readsOrigins cfg method ss before = true →
    ∀ sar ∈ rest, sar.type = attrOrigin → sar.value = []

/-- Nobody reads what follows MESSAGE-INTEGRITY, and no fingerprint before it covers what is
removed. When the key has been looked up (`resumed`), this includes the access token. -/
structure TrailingInert (cfg : Config) (resumed : Bool) (ss : Session) (buf : List UInt8) :
    Prop where
  fingerprint : withoutTrailing buf ≠ buf →
    ∀ sar ∈ beforeIntegrity (stunAttrs buf), sar.type ≠ attrFingerprint
  inert : ∀ mi ∈ (fromIntegrity (stunAttrs buf)).head?,
    Inert cfg (stunGetMethod buf) (stunTidFromMessage buf) ss (beforeIntegrity (stunAttrs buf)) mi
      (trailingAttrs (stunAttrs buf))
  token : resumed = true → cfg.oauth = true → ∀ sar ∈ trailingAttrs (stunAttrs buf),
    sar.type = attrOauthAccessToken →
      ∃ other ∈ beforeIntegrity (stunAttrs buf), other.type = attrOauthAccessToken

/-- The packet without the attributes after MESSAGE-INTEGRITY, except for FINGERPRINT. -/
def NetData.withoutTrailing (nd : NetData) : NetData where
  buf := Coturn.withoutTrailing nd.buf
  fits := (withoutTrailing_length_le nd.buf).trans_lt nd.fits
  srcAddr := nd.srcAddr
  ttlLeft := nd.ttlLeft

/-! ## The loops -/

section Loops

variable {α : Type} {method : ℕ} {sar : StunAttr}

lemma Parsed.other_of_optional (p : Parsed α) (h : 0x7FFF < sar.type) : p.other sar = p :=
  if_neg (by omega)

/-- An attribute that is passed over and not skipped need not be understood. -/
lemma optional_of_passedOver (h : passedOver method sar.type = true)
    (hbinding : method ≠ stunMethodBinding) (hskip : ¬ skipAttribute sar.type = true) :
    0x7FFF < sar.type := by
  rw [passedOver, if_neg hskip] at h
  simp only [beq_eq_false_iff_ne.mpr hbinding, Bool.false_and, Bool.false_or, Bool.and_eq_true,
    decide_eq_true_eq] at h
  exact h.1.1

variable (h : passedOver method sar.type = true)
include h

lemma skip_passedOver (hbinding : method ≠ stunMethodBinding) {p q : Parsed α}
    (hq : 0x7FFF < sar.type → q = p) : (if skipAttribute sar.type then p else q) = p := by
  by_cases hskip : skipAttribute sar.type = true
  · exact if_pos hskip
  · exact (if_neg hskip).trans (hq (optional_of_passedOver h hbinding hskip))

variable (cfg : Config)

lemma allocateAttr_passedOver (s : Option IoaSocket) (p : Parsed AllocateVars)
    (hmethod : method = stunMethodAllocate) : allocateAttr cfg s p sar = p := by
  subst hmethod
  unfold allocateAttr
  by_cases hskip : skipAttribute sar.type = true
  · rw [passedOver, if_pos hskip] at h
    rw [if_neg (by simpa using h), if_pos hskip]
  · have hopt := optional_of_passedOver h (by decide) hskip
    rw [passedOver, if_neg hskip] at h
    rw [if_neg (by intro heq; rw [heq] at hopt; exact absurd hopt (by decide)), if_neg hskip]
    split <;> first
      | exact p.other_of_optional hopt
      | (next heq => rw [heq] at h; exact absurd h (by decide))

lemma refreshAttr_passedOver (v : RefreshView) (p : Parsed RefreshVars)
    (hmethod : method = stunMethodRefresh) : refreshAttr cfg v p sar = p := by
  subst hmethod
  unfold refreshAttr
  by_cases hskip : skipAttribute sar.type = true
  · rw [if_pos hskip]
  · have hopt := optional_of_passedOver h (by decide) hskip
    rw [passedOver, if_neg hskip] at h
    rw [if_neg hskip]
    split <;> first
      | exact p.other_of_optional hopt
      | (next heq => rw [heq] at h; exact absurd h (by decide))

lemma connectAttr_passedOver (a : Allocation) (tid : List UInt8) (p : Parsed PeerVars)
    (hmethod : method = stunMethodConnect) : connectAttr cfg a tid p sar = p := by
  refine skip_passedOver h (by rw [hmethod]; decide) fun hopt => ?_
  split
  · next heq => rw [heq] at hopt; exact absurd hopt (by decide)
  · exact p.other_of_optional hopt

lemma channelBindAttr_passedOver (a : Allocation) (tid : List UInt8) (p : Parsed ChannelBindVars)
    (hmethod : method = stunMethodChannelBind) : channelBindAttr cfg a tid p sar = p := by
  refine skip_passedOver h (by rw [hmethod]; decide) fun hopt => ?_
  split
  · next heq => rw [heq] at hopt; exact absurd hopt (by decide)
  · next heq => rw [heq] at hopt; exact absurd hopt (by decide)
  · exact p.other_of_optional hopt

lemma createPermissionAttr_passedOver (ss : Session) (tid : List UInt8) (p : Parsed Bool)
    (hmethod : method = stunMethodCreatePermission) : createPermissionAttr cfg ss tid p sar = p := by
  refine skip_passedOver h (by rw [hmethod]; decide) fun hopt => ?_
  split
  · next heq => rw [heq] at hopt; exact absurd hopt (by decide)
  · exact p.other_of_optional hopt

lemma bindingAttr_passedOver (st : SocketType) (oldStun : Bool)
    (p : Parsed BindingVars) : bindingAttr cfg st oldStun p sar = p := by
  unfold bindingAttr
  by_cases hskip : sar.type = oldStunAttributePassword ∨ skipAttribute sar.type = true
  · rw [if_pos hskip]
  · rw [not_or] at hskip
    rw [passedOver, if_neg hskip.2, beq_eq_false_iff_ne.mpr hskip.1] at h
    simp only [Bool.and_false, Bool.false_or, Bool.and_eq_true, decide_eq_true_eq] at h
    have hopt := h.1.1
    rw [if_neg (not_or.mpr hskip)]
    split <;> first
      | exact p.other_of_optional hopt
      | (next heq => rw [heq] at hopt; exact absurd hopt (by decide))

end Loops

lemma readAttrs_append {α : Type} (body : Parsed α → StunAttr → Parsed α) (p : Parsed α)
    (attrs attrs' : List StunAttr) :
    readAttrs body p (attrs ++ attrs') = readAttrs body (readAttrs body p attrs) attrs' := by
  induction attrs generalizing p with
  | nil => rfl
  | cons sar attrs ih =>
    rw [cons_append, readAttrs, readAttrs]
    by_cases hlive : p.live = true
    · rw [if_pos hlive, if_pos hlive, ih]
    · -- the loop has ended before the seam
      rw [if_neg hlive, if_neg hlive]
      cases attrs' with
      | nil => rfl
      | cons sar' attrs' => rw [readAttrs, if_neg hlive]

lemma readAttrs_of_not_live {α : Type} (body : Parsed α → StunAttr → Parsed α) {p : Parsed α}
    (h : p.live = false) (attrs : List StunAttr) : readAttrs body p attrs = p := by
  cases attrs with
  | nil => rfl
  | cons sar attrs => rw [readAttrs, if_neg (by simp [h])]

/-- A loop that has ended, or passes over the rest, does not read the rest. -/
lemma readAttrs_ignored {α : Type} {body : Parsed α → StunAttr → Parsed α} (p : Parsed α)
    {attrs : List StunAttr} (h : p.live = true → ∀ sar ∈ attrs, body p sar = p) :
    readAttrs body p attrs = p := by
  by_cases hlive : p.live = true
  · have hbody := h hlive
    induction attrs with
    | nil => rfl
    | cons sar attrs ih =>
      have hrest := fun sar hsar => hbody sar (mem_cons_of_mem _ hsar)
      rw [readAttrs, hbody sar (mem_cons_self ..), ih (fun _ => hrest) hrest, ite_self]
  · exact readAttrs_of_not_live body (by simpa using hlive) attrs

/-! ## Two lists of attributes that are read alike -/

/-- The loops of a session's handler of this method read the same in both lists. -/
structure LoopsAlike (cfg : Config) (method : ℕ) (tid : List UInt8) (ss : Session)
    (head attrs attrs' : List StunAttr) : Prop where
  loop : ∀ {α : Type} (body : Parsed α → StunAttr → Parsed α) (p : Parsed α),
    ((readAttrs body p head).live = true → handlerReads cfg method tid ss head = true) →
    (∀ sar, passedOver method sar.type = true → ∀ p, body p sar = p) →
      readAttrs body p attrs' = readAttrs body p attrs
  peers : handlerReads cfg method tid ss head = true →
    (attrs'.filter fun sar => sar.type == attrXorPeerAddress) =
      attrs.filter fun sar => sar.type == attrXorPeerAddress
  ended : ∀ {α : Type} (body : Parsed α → StunAttr → Parsed α) (p : Parsed α),
    (readAttrs body p head).live = false → (readAttrs body p attrs).live = false

/-- In addition, the check and the look at the origins read the same. -/
structure ReadAlike (cfg : Config) (method : ℕ) (tid : List UInt8) (ss : Session)
    (head attrs attrs' : List StunAttr) : Prop
    extends LoopsAlike cfg method tid ss head attrs attrs' where
  first : ∀ t ∈ [attrMessageIntegrity, attrRealm, attrUsername, attrNonce],
    stunAttrGetFirstByType attrs' t = stunAttrGetFirstByType attrs t
  checkOrigins : ∀ c : Ctx, c.ss.originSet = ss.originSet → c.ss.origin = ss.origin →
    checkOrigins cfg attrs' c = checkOrigins cfg attrs c
  readOrigins : ∀ c : Ctx, c.ss.originSet = ss.originSet →
    readOrigins cfg method attrs' c = readOrigins cfg method attrs c

/-- The loops see of a session only what the check does not change. -/
lemma handlerReads_congr {cfg : Config} {method : ℕ} {tid : List UInt8} {ss ss' : Session}
    (h : ss'.unchecked = ss.unchecked)
    (hrealm : method = stunMethodCreatePermission → ss'.realmOptions = ss.realmOptions)
    (attrs : List StunAttr) :
    handlerReads cfg method tid ss' attrs = handlerReads cfg method tid ss attrs := by
  simp only [Session.unchecked, Session.kept, Session.tenancy, Prod.mk.injEq] at h
  obtain ⟨⟨⟨-, halloc, -, hmobile⟩, -⟩, hsocket, -, htcp, hold⟩ := h
  unfold handlerReads
  split
  · simp only [halloc, readAllocate, AllocateVars.init, hsocket, hmobile, htcp]
  · rw [halloc, htcp]
  · rfl
  · simp only [halloc, refreshView, hold]
  · rw [halloc, htcp]
  · have hbody : createPermissionAttr cfg ss' tid = createPermissionAttr cfg ss tid := by
      funext p sar
      simp only [createPermissionAttr, halloc, hrealm rfl]
    rw [halloc, readCreatePermission, hbody, readCreatePermission]
  · rw [hsocket]
  · rfl

lemma LoopsAlike.congr {cfg : Config} {method : ℕ} {tid : List UInt8} {ss ss' : Session}
    {head attrs attrs' : List StunAttr} (h : LoopsAlike cfg method tid ss head attrs attrs')
    (hsame : ss'.unchecked = ss.unchecked)
    (hrealm : method = stunMethodCreatePermission → ss'.realmOptions = ss.realmOptions) :
    LoopsAlike cfg method tid ss' head attrs attrs' := by
  have hreads := @handlerReads_congr cfg method tid ss ss' hsame hrealm head
  exact ⟨fun body p hlive => h.loop body p fun hl => hreads ▸ hlive hl,
    fun hlive => h.peers (hreads ▸ hlive), h.ended⟩

variable {rest : List StunAttr}

section Alike

variable {cfg : Config} {method : ℕ} {tid : List UInt8} {ss : Session} {before : List StunAttr}
  {mi : StunAttr}

lemma first_append {t : ℕ} (hmi : mi.type = attrMessageIntegrity)
    (hrest : Inert cfg method tid ss before mi rest)
    (ht : t ∈ [attrMessageIntegrity, attrRealm, attrUsername, attrNonce]) :
    stunAttrGetFirstByType (before ++ [mi] ++ rest) t =
      stunAttrGetFirstByType (before ++ [mi]) t := by
  rw [stunAttrGetFirstByType, find?_append, stunAttrGetFirstByType]
  cases hfirst : (before ++ [mi]).find? fun attr => attr.type == t with
  | some sar => rfl
  | none =>
    rw [find?_eq_none] at hfirst
    rw [Option.none_or, find?_eq_none]
    intro sar hsar heq
    obtain rfl : sar.type = t := by simpa using heq
    have hne : sar.type ≠ attrMessageIntegrity := by
      intro hsarmi
      exact hfirst mi (by simp) (by simp [hmi, hsarmi])
    have hcred : sar.type ∈ [attrUsername, attrRealm, attrNonce] := by
      simp only [mem_cons, not_mem_nil, or_false] at ht ⊢
      tauto
    obtain ⟨other, hother, htype⟩ := hrest.credential sar hsar hcred
    exact hfirst other (by simp [hother]) (by simp [htype])

lemma filter_append_of_ne {head : List StunAttr} {p : StunAttr → Bool}
    (hrest : ∀ sar ∈ rest, p sar = false) : (head ++ rest).filter p = head.filter p := by
  have hnil : rest.filter p = [] := filter_eq_nil_iff.mpr fun sar hsar => by
    simp [hrest sar hsar]
  rw [filter_append, hnil, append_nil]

lemma origins_append (attrs attrs' : List StunAttr) :
    origins cfg (attrs ++ attrs') = origins cfg attrs ++ origins cfg attrs' := by
  rw [origins, filter_append, map_append, ← origins, ← origins]

/-- The origins after the first one that selects a realm do not count. -/
lemma selectOrigin_append (realms : RealmTable) {os : List (List UInt8)} (os' : List (List UInt8))
    (h : os.all (fun o => (cfg.originToRealm o).isNone) = false) (ss : Session) :
    selectOrigin cfg realms (os ++ os') ss = selectOrigin cfg realms os ss := by
  induction os generalizing ss with
  | nil => cases h
  | cons o os ih =>
    rw [cons_append, selectOrigin, selectOrigin]
    cases horigin : cfg.originToRealm o with
    | some realm => rfl
    | none => exact ih (by simpa [horigin] using h) _

/-- Origins that do not count, or none: they make no difference. -/
lemma origins_inert (hmi : mi.type = attrMessageIntegrity)
    (hrest : Inert cfg method tid ss before mi rest) :
    (∀ c : Ctx, c.ss.originSet = ss.originSet → c.ss.origin = ss.origin →
      checkOrigins cfg (before ++ [mi] ++ rest) c = checkOrigins cfg before c) ∧
    ∀ c : Ctx, c.ss.originSet = ss.originSet →
      readOrigins cfg method (before ++ [mi] ++ rest) c = readOrigins cfg method before c := by
  have hskip : origins cfg [mi] = [] := by simp [origins, hmi]
  have hsplit : origins cfg (before ++ [mi] ++ rest) = origins cfg before ++ origins cfg rest := by
    rw [origins_append, origins_append, hskip, append_nil]
  cases hreads : readsOrigins cfg method ss before with
  | true =>
    have hnone : origins cfg rest = [] := by
      rw [origins, map_eq_nil_iff, filter_eq_nil_iff]
      intro sar hsar hboth
      simp only [Bool.and_eq_true, beq_iff_eq, bne_iff_ne] at hboth
      exact hboth.2 (hrest.origin hreads sar hsar hboth.1)
    rw [hnone, append_nil] at hsplit
    refine ⟨fun c _ _ => ?_, fun c _ => ?_⟩
    · rw [Coturn.checkOrigins, hsplit, Coturn.checkOrigins]
    · rw [Coturn.readOrigins, hsplit, Coturn.readOrigins]
  | false =>
    rw [readsOrigins] at hreads
    refine ⟨fun c hset horigin => ?_, fun c hset => ?_⟩
    · unfold Coturn.checkOrigins
      by_cases hcheck : (!c.ss.originSet || !cfg.checkOrigin) = true
      · rw [if_pos hcheck, if_pos hcheck]
      · simp only [Bool.or_eq_true, Bool.not_eq_true', not_or, Bool.not_eq_false] at hcheck
        rw [hset] at hcheck
        simp only [hcheck.1, if_true, hcheck.2, Bool.true_and, Bool.or_eq_false_iff,
          beq_eq_false_iff_ne, Bool.not_eq_false', ← horigin] at hreads
        have hlonger : (origins cfg (before ++ [mi] ++ rest)).contains c.ss.origin = true := by
          rw [hsplit]
          simp_all
        rw [if_pos hreads.1, if_pos hreads.1, if_pos hlonger, if_pos hreads.2]
    · unfold Coturn.readOrigins
      by_cases hread : c.reply.errCode = 0 ∧ c.ss.originSet = false ∧ method = stunMethodAllocate
      · rw [if_pos hread, if_pos hread, hsplit, selectOrigin_append]
        rw [← hset, hread.2.1] at hreads
        simpa [hread.2.2] using hreads
      · rw [if_neg hread, if_neg hread]

/-- Two lists with the same attributes up to MESSAGE-INTEGRITY and none after it that is read. -/
lemma readAlike_append {rest' : List StunAttr} (hmi : mi.type = attrMessageIntegrity)
    (hrest : Inert cfg method tid ss before mi rest)
    (hrest' : Inert cfg method tid ss before mi rest') :
    ReadAlike cfg method tid ss (before ++ [mi]) (before ++ [mi] ++ rest)
      (before ++ [mi] ++ rest') where
  first t ht := by rw [first_append hmi hrest' ht, first_append hmi hrest ht]
  checkOrigins c hset horigin := by
    rw [(origins_inert hmi hrest').1 c hset horigin, (origins_inert hmi hrest).1 c hset horigin]
  readOrigins c hset := by
    rw [(origins_inert hmi hrest').2 c hset, (origins_inert hmi hrest).2 c hset]
  loop body p hlive hbody := by
    rw [readAttrs_append, readAttrs_append body p _ rest,
      readAttrs_ignored _ fun hl sar hsar => hbody sar (hrest.loop (hlive hl) sar hsar) _,
      readAttrs_ignored _ fun hl sar hsar => hbody sar (hrest'.loop (hlive hl) sar hsar) _]
  peers hreads := by
    have hnone : ∀ {rest : List StunAttr}, Inert cfg method tid ss before mi rest →
        ∀ sar ∈ rest, (sar.type == attrXorPeerAddress) = false := by
      intro rest hrest sar hsar
      refine beq_eq_false_iff_ne.mpr fun heq => ?_
      have hpassed := hrest.loop hreads sar hsar
      rw [heq, passedOver, if_neg (by decide)] at hpassed
      simp [attrXorPeerAddress, oldStunAttributePassword] at hpassed
    rw [filter_append_of_ne (hnone hrest'), filter_append_of_ne (hnone hrest)]
  ended body p hnot := by
    rw [readAttrs_append, readAttrs_of_not_live body hnot, hnot]

end Alike

/-! ## The check -/

section Request

variable {cfg : Config} {env : Env} {method : ℕ} {tid : List UInt8} {canResume : Bool}
  {nd nd' : NetData} {head attrs attrs' : List StunAttr} {ss₀ : Session}
  (halike : ReadAlike cfg method tid ss₀ head attrs attrs')
  (hfirst : ∀ t ∈ [attrMessageIntegrity, attrRealm, attrUsername, attrNonce],
    stunAttrGetFirstByType attrs' t = stunAttrGetFirstByType attrs t)
  (hmac : ∀ key, stunCheckMessageIntegrityByKey cfg.hmac nd'.buf key =
    stunCheckMessageIntegrityByKey cfg.hmac nd.buf key)

include hmac in
lemma checkIntegrity_alike (usname realm : List UInt8) (c : Ctx)
    (hnot : (checkIntegrity cfg canResume nd usname realm c).1 ≠ .postponed) :
    checkIntegrity cfg canResume nd' usname realm c =
      checkIntegrity cfg canResume nd usname realm c := by
  have hpost : (postponeOrChallenge canResume nd usname realm c).1 ≠ .postponed →
      postponeOrChallenge canResume nd' usname realm c =
        postponeOrChallenge canResume nd usname realm c := by
    intro hpostponed
    unfold postponeOrChallenge at hpostponed ⊢
    split_ifs at hpostponed ⊢
    · exact absurd rfl hpostponed
    · rfl
  unfold checkIntegrity at hnot ⊢
  rw [hmac]
  split_ifs at hnot ⊢
  · exact hpost hnot
  · exact hpost hnot
  · rfl

include hfirst hmac in
lemma checkCredentials_alike (isNew : Bool) (c : Ctx)
    (hnot : (checkCredentials cfg method isNew canResume nd attrs c).1 ≠ .postponed) :
    checkCredentials cfg method isNew canResume nd' attrs' c =
      checkCredentials cfg method isNew canResume nd attrs c := by
  have hrealm : ∀ ss, checkRealmAttr c.srv.realms method attrs' ss =
      checkRealmAttr c.srv.realms method attrs ss := by
    intro ss
    rw [checkRealmAttr, hfirst attrRealm (by simp), checkRealmAttr]
  have huser : ∀ ss, checkUsernameAttr method attrs' ss = checkUsernameAttr method attrs ss := by
    intro ss
    rw [checkUsernameAttr, hfirst attrUsername (by simp), checkUsernameAttr]
  have hnonce : ∀ ss, checkNonceAttr isNew attrs' ss = checkNonceAttr isNew attrs ss := by
    intro ss
    rw [checkNonceAttr, hfirst attrNonce (by simp), checkNonceAttr]
  unfold checkCredentials at hnot ⊢
  rw [hfirst attrMessageIntegrity (by simp)]
  split at hnot
  · rfl
  next sar _ =>
    simp only at hnot ⊢
    by_cases hsize : sar.value.length ≠ sha1SizeBytes
    · rw [if_pos hsize, if_pos hsize]
    rw [if_neg hsize] at hnot
    rw [if_neg hsize, if_neg hsize, hrealm]
    cases hr : checkRealmAttr c.srv.realms method attrs c.ss with
    | error e => rfl
    | ok r =>
      obtain ⟨realm, r⟩ := r
      rw [hr] at hnot
      simp only at hnot ⊢
      rw [huser]
      cases hu : checkUsernameAttr method attrs (c.account r).ss with
      | error e => rfl
      | ok u =>
        obtain ⟨usname, ss⟩ := u
        rw [hu] at hnot
        simp only at hnot ⊢
        rw [hnonce]
        cases hn : checkNonceAttr isNew attrs ss with
        | error e => rfl
        | ok reason =>
          rw [hn] at hnot
          cases reason with
          | some reason => rfl
          | none => exact checkIntegrity_alike hmac usname realm _ hnot

variable (c : Ctx)

include hfirst hmac in
lemma checkStunAuth_alike
    (hnot : (checkStunAuth cfg env method tid canResume nd attrs c).1 = false) :
    checkStunAuth cfg env method tid canResume nd' attrs' c =
      checkStunAuth cfg env method tid canResume nd attrs c := by
  unfold checkStunAuth at hnot ⊢
  by_cases hneed : (!needStunAuthentication cfg) = true
  · rw [if_pos hneed, if_pos hneed]
  rw [if_neg hneed] at hnot
  rw [if_neg hneed, if_neg hneed]
  simp only at hnot ⊢
  rw [checkCredentials_alike hfirst hmac]
  intro hpostponed
  rw [hpostponed] at hnot
  exact Bool.noConfusion hnot

/-! ## The handling of a request -/

lemma Ctx.Follows.not_cleared {p : Effect → Prop} {c c' : Ctx} (h : Follows p c c')
    (hp : ∀ a, ¬ p (.authCheck a)) (hc : ¬ c.Cleared) : ¬ c'.Cleared := by
  rintro ⟨a, ha, hpassed⟩
  obtain ⟨l, hlog, hl⟩ := h.log
  rw [hlog] at ha
  rcases mem_append.mp ha with ha | ha
  · exact hc ⟨a, ha, hpassed⟩
  · exact hp a (hl _ ha)

lemma checkStunAuth_postponed_log {c c₁ : Ctx}
    (hcheck : checkStunAuth cfg env method tid canResume nd attrs c = (true, c₁))
    (hc : ¬ c.Cleared) : ¬ c₁.Cleared := by
  by_cases hct : cfg.ct = .longTerm
  · rintro ⟨a, ha, herr, hpostponed⟩
    rw [checkStunAuth_emits hct hcheck] at ha
    rcases mem_append.mp ha with ha | ha
    · exact hc ⟨a, ha, herr, hpostponed⟩
    · rw [Effect.authCheck.inj (mem_singleton.mp ha)] at hpostponed
      exact Bool.noConfusion hpostponed
  · rw [checkStunAuth, if_pos (by simp [needStunAuthentication, hct])] at hcheck
    cases hcheck

include hfirst hmac in
/-- The check of a request ends the same way, or it is postponed. -/
lemma checkRequest_alike (hc : ¬ c.Cleared) :
    checkRequest cfg env method tid canResume nd' attrs' c =
        checkRequest cfg env method tid canResume nd attrs c ∨
      ((checkRequest cfg env method tid canResume nd attrs c).open = false ∧
        ¬ (checkRequest cfg env method tid canResume nd attrs c).Cleared) := by
  unfold checkRequest
  by_cases hskip : (!c.open || method == stunMethodConnectionBind) = true
  · rw [if_pos hskip, if_pos hskip]
    exact Or.inl rfl
  rw [if_neg hskip, if_neg hskip]
  by_cases hmobile : cfg.mobility = true ∧ method = stunMethodRefresh ∧ c.ss.alloc.isValid = false
  · rw [if_pos hmobile, if_pos hmobile]
    exact Or.inl rfl
  rw [if_neg hmobile, if_neg hmobile]
  rcases hcheck : checkStunAuth cfg env method tid canResume nd attrs c with ⟨postponed, c₁⟩
  cases postponed with
  | false =>
    left
    rw [checkStunAuth_alike hfirst hmac c (by rw [hcheck]), hcheck]
  | true =>
    have hcleared := checkStunAuth_postponed_log hcheck hc
    right
    simp only [if_true]
    split_ifs
    · exact ⟨by simp [Ctx.open], hcleared⟩
    · exact ⟨by simp [Ctx.open], hcleared⟩

lemma checkAllocate_ss : (checkAllocate cfg tid c).ss = c.ss := by
  rw [checkAllocate]
  split_ifs
  · rfl
  cases c.ss.clientSocket with
  | none => rfl
  | some s =>
    simp only [setAlternateServer]
    split_ifs
    · rfl
    · split <;> rfl

lemma checkOrigins_ss : (checkOrigins cfg attrs c).ss = c.ss := by
  rw [checkOrigins]
  split_ifs <;> rfl

include halike in
lemma beforeCheck_alike (hset : c.ss.originSet = ss₀.originSet)
    (horigin : c.ss.origin = ss₀.origin) :
    beforeCheck cfg method tid attrs' c = beforeCheck cfg method tid attrs c := by
  have hrest : ∀ c₁ : Ctx, c₁.ss = c.ss →
      readOrigins cfg method attrs' (checkOrigins cfg attrs' c₁) =
        readOrigins cfg method attrs (checkOrigins cfg attrs c₁) := by
    intro c₁ hss
    rw [halike.checkOrigins c₁ (by rw [hss, hset]) (by rw [hss, horigin]),
      halike.readOrigins _ (by rw [checkOrigins_ss, hss, hset])]
  unfold beforeCheck
  simp only
  split_ifs
  · exact hrest _ (checkAllocate_ss c)
  · exact hrest c rfl

/-- What the handling of a request reads of the session. -/
def Session.readable (ss : Session) := (ss.unchecked, ss.originSet, ss.origin, ss.realmOptions)

include halike hmac in
lemma admitRequest_alike (hss : c.ss.readable = ss₀.readable) (hc : ¬ c.Cleared) :
    admitRequest cfg env method tid canResume nd' attrs' c =
        admitRequest cfg env method tid canResume nd attrs c ∨
      ((admitRequest cfg env method tid canResume nd attrs c).open = false ∧
        ¬ (admitRequest cfg env method tid canResume nd attrs c).Cleared) := by
  rw [admitRequest, admitRequest,
    beforeCheck_alike halike c (congrArg (·.2.1) hss) (congrArg (·.2.2.1) hss)]
  split_ifs
  · exact Or.inl rfl
  · refine checkRequest_alike halike.first hmac _ ?_
    exact (beforeCheck_frame (p := Effect.Message)).toFollows.not_cleared (fun a => id) hc
  · exact Or.inl rfl

lemma checkRealmAttr_unmarked {realms : RealmTable} {ss : Session} {realm : List UInt8}
    {r : RealmTable × Session}
    (hbind : method ≠ stunMethodConnectionBind)
    (h : checkRealmAttr realms method attrs ss = .ok (realm, r)) :
    r = (realms, ss) ∧ ∃ sar ∈ stunAttrGetFirstByType attrs attrRealm,
      isSecureString (attrCStr stunMaxRealmSize sar) false = true ∧
        (attrCStr stunMaxRealmSize sar = ss.realmOptions.name ∨ ss.oauth = true) := by
  unfold checkRealmAttr at h
  cases hfirst : stunAttrGetFirstByType attrs attrRealm with
  | none =>
    rw [hfirst] at h
    exact absurd h (by simp)
  | some sar =>
    rw [hfirst] at h
    simp only [hbind, if_false] at h
    split_ifs at h with hsecure hname hoauth
    · exact ⟨(Prod.mk.inj (Except.ok.inj h)).2.symm, sar, rfl, by simpa using hsecure,
        .inr (by simpa using hoauth)⟩
    · exact ⟨(Prod.mk.inj (Except.ok.inj h)).2.symm, sar, rfl, by simpa using hsecure,
        .inl (by simpa using hname)⟩

lemma checkCredentials_realm (hbind : method ≠ stunMethodConnectionBind) (isNew : Bool) (c : Ctx) :
    (checkCredentials cfg method isNew canResume nd attrs c).2.ss.realmOptions =
      c.ss.realmOptions := by
  have huser : ∀ {ss ss' : Session} {usname : List UInt8},
      checkUsernameAttr method attrs ss = .ok (usname, ss') → ss'.realmOptions = ss.realmOptions := by
    intro ss ss' usname h
    unfold checkUsernameAttr at h
    split at h
    · cases h
    · simp only at h
      split_ifs at h <;> cases h <;> rfl
  have hintegrity : ∀ usname realm (c : Ctx),
      (checkIntegrity cfg canResume nd usname realm c).2.ss = c.ss := by
    intro usname realm c
    unfold checkIntegrity postponeOrChallenge
    split_ifs <;> rfl
  unfold checkCredentials
  split
  · rfl
  · split_ifs
    · rfl
    · split
      · rfl
      · next realm r hrealm =>
        obtain ⟨rfl, -⟩ := checkRealmAttr_unmarked hbind hrealm
        simp only
        split
        · rfl
        · next usname ss' husname =>
          split
          · exact huser husname
          · exact huser husname
          · rw [hintegrity]
            exact huser husname

/-- A CreatePermission is admitted without a look at other realms. -/
lemma admitRequest_realm (hmethod : method = stunMethodCreatePermission) :
    (admitRequest cfg env method tid canResume nd attrs c).ss.realmOptions = c.ss.realmOptions := by
  subst hmethod
  have hbefore : (beforeCheck cfg stunMethodCreatePermission tid attrs c).ss = c.ss := by
    rw [beforeCheck, readOrigins, if_neg fun h => absurd h.2.2 (by decide), checkOrigins_ss]
    rfl
  have hnonce : ∀ c : Ctx, (refreshNonce cfg env c.srv.ctime c.ss).realmOptions =
      c.ss.realmOptions := by
    intro c
    rw [refreshNonce]
    split_ifs <;> rfl
  have hauth : ∀ c : Ctx, (checkStunAuth cfg env stunMethodCreatePermission tid canResume nd attrs
      c).2.ss.realmOptions = c.ss.realmOptions := by
    intro c
    rw [checkStunAuth]
    split_ifs
    · rfl
    · have hbind : stunMethodCreatePermission ≠ stunMethodConnectionBind := by decide
      have hcred := (@checkCredentials_realm cfg _ canResume nd attrs hbind (c.ss.nonce = [])
        (c.nonced cfg env)).trans (hnonce c)
      simp only [Ctx.emit]
      split <;> exact hcred
  rw [admitRequest]
  split_ifs
  · rfl
  · rw [checkRequest]
    split_ifs
    · rw [hbefore]
    · rw [hbefore]
    · have hcheck := (hauth (beforeCheck cfg stunMethodCreatePermission tid attrs c)).trans
        (congrArg Session.realmOptions hbefore)
      simp only
      split_ifs <;> exact hcheck
  · rfl

lemma handleTurnAllocate_alike
    (hloops : LoopsAlike cfg stunMethodAllocate tid c.ss head attrs attrs') :
    handleTurnAllocate cfg env tid attrs' c = handleTurnAllocate cfg env tid attrs c := by
  cases hvalid : c.ss.alloc.isValid with
  | true => rw [handleTurnAllocate_of_valid hvalid, handleTurnAllocate_of_valid hvalid]
  | false =>
    refine handleTurnAllocate_of_read (hloops.loop _ _ (fun hlive => ?_)
      fun sar hsar p => allocateAttr_passedOver hsar cfg _ p rfl)
    simpa [handlerReads, hvalid, readAllocate] using hlive

include hfirst hmac in
lemma refreshTransfer_alike (v : RefreshVars) (c : Ctx)
    (hc : ¬ c.Cleared) :
    refreshTransfer cfg env tid canResume nd' attrs' v c =
        refreshTransfer cfg env tid canResume nd attrs v c ∨
      ¬ (refreshTransfer cfg env tid canResume nd attrs v c).Cleared := by
  unfold refreshTransfer
  split
  · exact Or.inl rfl
  next orig _ =>
    split_ifs
    · exact Or.inl rfl
    · exact Or.inl rfl
    · exact Or.inl rfl
    · exact Or.inl rfl
    · exact Or.inl rfl
    · simp only
      rcases hcheck : checkStunAuth cfg env stunMethodRefresh tid canResume nd attrs
        (c.forTransfer cfg orig) with ⟨postponed, c₁⟩
      cases postponed with
      | false =>
        left
        rw [checkStunAuth_alike hfirst hmac _ (by rw [hcheck]), hcheck]
      | true =>
        have hlog := checkStunAuth_postponed_log hcheck hc
        right
        rw [if_pos rfl]
        exact hlog

include hfirst hmac in
lemma handleTurnRefresh_alike (hmethod : method = stunMethodRefresh) (c : Ctx)
    (hloops : LoopsAlike cfg method tid c.ss head attrs attrs')
    (hc : c.ss.alloc.isValid = false → cfg.mobility = true → ¬ c.Cleared) :
    handleTurnRefresh cfg env tid canResume nd' attrs' c =
        handleTurnRefresh cfg env tid canResume nd attrs c ∨
      ¬ (handleTurnRefresh cfg env tid canResume nd attrs c).Cleared := by
  unfold handleTurnRefresh
  by_cases hinvalid : (!c.ss.alloc.isValid && !cfg.mobility) = true
  · rw [if_pos hinvalid, if_pos hinvalid]
    exact Or.inl rfl
  have hread : readRefresh cfg (refreshView c.ss) attrs' =
      readRefresh cfg (refreshView c.ss) attrs := by
    refine hloops.loop _ _ (fun hlive => ?_) fun sar hsar p =>
      refreshAttr_passedOver hsar cfg _ p hmethod
    subst hmethod
    cases hvalid : c.ss.alloc.isValid <;> simp_all [handlerReads, readRefresh]
  rw [if_neg hinvalid, if_neg hinvalid, hread]
  simp only
  split_ifs with _ _ hvalid _ helsewhere
  · exact Or.inl rfl
  · exact Or.inl rfl
  · exact Or.inl rfl
  · exact Or.inl rfl
  · -- the request goes to another thread unchecked
    have hnone := hc (Bool.eq_false_iff.mpr hvalid) (by simp_all [Ctx.afterLoop])
    refine Or.inr ((refreshElsewhere_calm (fun _ _ _ => trivial) env _ nd
      _).frame.toFollows.not_cleared (p := Effect.Message) (fun a => id) ?_)
    exact hnone
  · exact refreshTransfer_alike hfirst hmac _ _ (hc (Bool.eq_false_iff.mpr hvalid) (by simp_all [Ctx.afterLoop]))

lemma handleTurnConnect_alike
    (hloops : LoopsAlike cfg stunMethodConnect tid c.ss head attrs attrs') :
    handleTurnConnect cfg env tid attrs' c = handleTurnConnect cfg env tid attrs c := by
  unfold handleTurnConnect
  split_ifs with htcp hvalid
  · rfl
  · rfl
  · have hread : readConnect cfg c.ss.alloc tid attrs' = readConnect cfg c.ss.alloc tid attrs := by
      refine hloops.loop _ _ (fun hlive => ?_) fun sar hsar p =>
        connectAttr_passedOver hsar cfg _ tid p rfl
      simp_all [handlerReads, readConnect]
    rw [hread]

lemma handleTurnChannelBind_alike
    (hloops : LoopsAlike cfg stunMethodChannelBind tid c.ss head attrs attrs') :
    handleTurnChannelBind cfg tid attrs' c = handleTurnChannelBind cfg tid attrs c := by
  unfold handleTurnChannelBind
  split_ifs with htcp hvalid
  · rfl
  · rfl
  · have hread : readChannelBind cfg c.ss.alloc tid attrs' =
        readChannelBind cfg c.ss.alloc tid attrs := by
      refine hloops.loop _ _ (fun hlive => ?_) fun sar hsar p =>
        channelBindAttr_passedOver hsar cfg _ tid p rfl
      simp_all [handlerReads, readChannelBind]
    rw [hread]

lemma handleTurnCreatePermission_alike
    (hloops : LoopsAlike cfg stunMethodCreatePermission tid c.ss head attrs attrs') :
    handleTurnCreatePermission cfg tid attrs' c = handleTurnCreatePermission cfg tid attrs c := by
  unfold handleTurnCreatePermission
  split_ifs with hvalid
  · rfl
  have hread : readCreatePermission cfg c.ss tid attrs' = readCreatePermission cfg c.ss tid attrs := by
    refine hloops.loop _ _ (fun hlive => ?_) fun sar hsar p =>
      createPermissionAttr_passedOver hsar cfg _ tid p rfl
    simp_all [handlerReads, readCreatePermission]
  rw [hread]
  cases hlive : (readCreatePermission cfg c.ss tid head).live with
  | true =>
    have hpeers := hloops.peers (by simp_all [handlerReads])
    rw [peerAddrs, hpeers, peerAddrs]
  | false =>
    -- the first loop has ended with an error, so that there is no second one
    have hended : (readCreatePermission cfg c.ss tid attrs).live = false := hloops.ended _ _ hlive
    by_cases hunknown : (readCreatePermission cfg c.ss tid attrs).unknown ≠ []
    · simp only [if_pos hunknown]
    · have herr : (readCreatePermission cfg c.ss tid attrs).errCode ≠ 0 := fun hzero => by
        rw [Parsed.live, hzero, not_not.mp hunknown] at hended
        exact absurd hended (by decide)
      simp only [if_neg hunknown, if_pos herr]

lemma dispatchBinding_alike
    (hloops : LoopsAlike cfg stunMethodBinding tid c.ss head attrs attrs') :
    dispatchBinding cfg env tid attrs' c = dispatchBinding cfg env tid attrs c := by
  have hbinding : handleTurnBinding cfg env tid none attrs' c =
      handleTurnBinding cfg env tid none attrs c := by
    unfold handleTurnBinding
    cases hs : c.ss.clientSocket with
    | none => rfl
    | some s =>
      have hread : readBinding cfg s.type false attrs' = readBinding cfg s.type false attrs := by
        refine hloops.loop _ _ (fun hlive => ?_) fun sar hsar p =>
          bindingAttr_passedOver hsar cfg _ _ p
        simpa [handlerReads, hs, readBinding] using hlive
      simp only [Option.isSome_none, hread]
  rw [dispatchBinding, hbinding, dispatchBinding]

include hfirst hmac in
/-- The handlers do the same, or the request has not been cleared here. -/
lemma dispatch_alike (hloops : LoopsAlike cfg method tid c.ss head attrs attrs')
    (hc : SkipsCheck cfg method c.ss → ¬ c.Cleared) :
    dispatch cfg env method tid canResume nd' attrs' c =
        dispatch cfg env method tid canResume nd attrs c ∨
      ¬ (dispatch cfg env method tid canResume nd attrs c).Cleared := by
  unfold dispatch
  split
  · exact Or.inl (handleTurnAllocate_alike c hloops)
  · exact Or.inl (by rw [handleTurnConnect_alike c hloops])
  · -- ConnectionBind
    have hframe := (handleTurnConnectionBind_calm cfg env tid nd attrs c).frame
    exact Or.inr (hframe.toFollows.not_cleared (fun a => id) (hc (Or.inl rfl)))
  · exact handleTurnRefresh_alike hfirst hmac rfl c hloops fun hvalid hmobility =>
      hc (Or.inr ⟨hmobility, rfl, hvalid⟩)
  · exact Or.inl (handleTurnChannelBind_alike c hloops)
  · exact Or.inl (handleTurnCreatePermission_alike c hloops)
  · exact Or.inl (dispatchBinding_alike c hloops)
  · exact Or.inl rfl

include halike hmac in
lemma handleRequest_alike (hss : c.ss.readable = ss₀.readable) (hc : ¬ c.Cleared) :
    handleRequest cfg env method tid canResume nd' attrs' c =
        handleRequest cfg env method tid canResume nd attrs c ∨
      ¬ (handleRequest cfg env method tid canResume nd attrs c).Cleared := by
  unfold handleRequest
  simp only
  rcases admitRequest_alike halike hmac c hss hc with halikeAdmission | ⟨hopen, hcleared⟩
  · rw [halikeAdmission]
    split_ifs
    · have hcalm : Calm Session.unchecked (fun _ => True) c
          (admitRequest cfg env method tid canResume nd attrs c) :=
        admitRequest_calm c fun c₁ _ => (checkStunAuth_frame c₁ fun _ => trivial).toFollows
      have hloops := halike.toLoopsAlike.congr (hcalm.own.trans (congrArg (·.1) hss))
        fun hmethod => (admitRequest_realm c hmethod).trans (congrArg (·.2.2.2) hss)
      refine dispatch_alike halike.first hmac _ hloops fun hskips => ?_
      -- a request that is checked elsewhere has only got a reply
      have hskips₀ : SkipsCheck cfg method c.ss := by
        rwa [SkipsCheck, hcalm.checked.frame.alloc] at hskips
      obtain ⟨reply, heq⟩ := admitRequest_of_skips cfg env tid canResume nd attrs c hskips₀
      rw [heq]
      exact hc
    · exact Or.inl rfl
  · rw [hopen]
    exact Or.inr hcleared

end Request

/-! ## Packets -/

lemma NetData.withoutTrailing_of_eq {nd : NetData} (h : Coturn.withoutTrailing nd.buf = nd.buf) :
    nd.withoutTrailing = nd := by
  cases nd
  simp only [NetData.withoutTrailing, NetData.mk.injEq, and_true]
  exact h

lemma NetData.withoutTrailing_cases (nd : NetData) :
    nd.withoutTrailing = nd ∨ Coturn.withoutTrailing nd.buf ≠ nd.buf ∧
      stunIsCommandMessage nd.buf = true ∧
      ∃ mi trailing kept, fromIntegrity (stunAttrs nd.buf) = mi :: trailing ∧
        Shortened nd.buf mi trailing kept := by
  by_cases hsame : Coturn.withoutTrailing nd.buf = nd.buf
  · exact Or.inl (NetData.withoutTrailing_of_eq hsame)
  have hcommand : stunIsCommandMessage nd.buf = true := by
    by_contra hnot
    exact hsame (by rw [Coturn.withoutTrailing, if_pos (by simpa using hnot)])
  cases hfrom : fromIntegrity (stunAttrs nd.buf) with
  | nil => exact absurd (by rw [Coturn.withoutTrailing, if_neg (by simp [hcommand]), hfrom]) hsame
  | cons mi trailing =>
    obtain ⟨kept, hshort⟩ := withoutTrailing_shortened hcommand hfrom
    exact Or.inr ⟨hsame, hcommand, mi, trailing, kept, rfl, hshort⟩

section Packet

variable {cfg : Config} {env : Env} {canResume resumed : Bool} {nd : NetData} {ss : Session}
  {mi : StunAttr} {trailing kept : List StunAttr}
  (hinert : TrailingInert cfg resumed ss nd.buf)
  (hfrom : fromIntegrity (stunAttrs nd.buf) = mi :: trailing)
  (hshort : Shortened nd.buf mi trailing kept)

lemma inert_fingerprints {method : ℕ} {tid : List UInt8} {before rest : List StunAttr}
    (h : ∀ sar ∈ rest, sar.type = attrFingerprint) : Inert cfg method tid ss before mi rest where
  loop _ sar hsar := by
    rw [h sar hsar, passedOver, if_pos (by decide)]
    simp
  credential sar hsar hmem := by
    rw [h sar hsar] at hmem
    exact absurd hmem (by decide)
  origin _ sar hsar heq := by
    rw [h sar hsar] at heq
    exact absurd heq (by decide)

include hinert hfrom hshort in
lemma readAlike_withoutTrailing : ReadAlike cfg (stunGetMethod nd.buf) (stunTidFromMessage nd.buf) ss
    (beforeIntegrity (stunAttrs nd.buf) ++ [mi]) (stunAttrs nd.buf)
    (stunAttrs nd.withoutTrailing.buf) := by
  have htrailing := hinert.inert mi (by rw [hfrom]; rfl)
  rw [trailingAttrs, hfrom] at htrailing
  have halike := readAlike_append (fromIntegrity_head hfrom) htrailing
    (inert_fingerprints hshort.types)
  rw [← hshort.attrs, tail_cons, ← append_cons, ← hfrom, beforeIntegrity_append] at halike
  exact halike

lemma handleIndication_unchecked (method : ℕ) (tid : List UInt8) (attrs : List StunAttr) (c : Ctx) :
    Keeps (fun e => ¬ e.IsCheck) c (handleIndication cfg method tid nd attrs c) := by
  refine (handleIndication_keeps method c fun _ e he => ?_).1
  obtain ⟨data, relayS, owner, -, -, -, rfl⟩ := he.sent
  rintro ⟨a, heq⟩
  cases heq

include hinert hfrom hshort in
lemma handleMessage_alike (hcommand : stunIsCommandMessage nd.buf = true) (c : Ctx)
    (hss : c.ss.readable = ss.readable) (hc : ¬ c.Cleared) :
    handleMessage cfg env nd.withoutTrailing canResume c = handleMessage cfg env nd canResume c ∨
      ¬ (handleMessage cfg env nd canResume c).Cleared := by
  have hagree : AgreeUpTo mi.stop nd.buf nd.withoutTrailing.buf := hshort.agree
  have halike := readAlike_withoutTrailing hinert hfrom hshort
  unfold handleMessage
  simp only
  rw [hagree.stunIsRequest_eq, hagree.stunIsIndication_eq, hagree.stunGetMethod_eq,
    hagree.stunTidFromMessage_eq]
  split_ifs
  · exact handleRequest_alike halike (hshort.integrity hcommand hfrom cfg.hmac) c hss hc
  · exact Or.inr ((handleIndication_unchecked _ _ _ c).toFollows.not_cleared
      (fun a h => h ⟨a, rfl⟩) hc)
  · exact Or.inl rfl

include hinert hfrom hshort in
lemma readCommand_alike (hcommand : stunIsCommandMessage nd.buf = true) (c : Ctx)
    (hss : c.ss.readable = ss.readable) (hc : ¬ c.Cleared)
    (hcleared : (readCommand cfg env nd canResume c).Cleared) :
    readCommand cfg env nd.withoutTrailing canResume c = readCommand cfg env nd canResume c := by
  have hagree : AgreeUpTo mi.stop nd.buf nd.withoutTrailing.buf := hshort.agree
  have hmessage : handleMessage cfg env nd.withoutTrailing canResume c =
      handleMessage cfg env nd canResume c := by
    refine (handleMessage_alike hinert hfrom hshort hcommand c hss hc).resolve_right fun hnot => ?_
    have hframe := (readCommand_calm cfg env nd canResume c).1.frame
    exact hframe.toFollows.not_cleared (fun a => id) hnot hcleared
  rw [readCommand, handleTurnCommand, hmessage, hagree.stunGetMethod_eq,
    hagree.stunTidFromMessage_eq, hagree.stunIsIndication_eq, readCommand, handleTurnCommand]

lemma stunIsChannelMessage_of_command {buf : List UInt8}
    (hcommand : stunIsCommandMessage buf = true) (mandatoryPadding : Bool) :
    stunIsChannelMessage buf mandatoryPadding = none := by
  have hchannel := (stunIsCommandMessage_iff.mp hcommand).2.1
  unfold stunIsChannelMessage
  split_ifs with hshort' hnot
  · rfl
  · rfl
  · exact absurd hchannel (by simpa using hnot)

lemma oldStunIsCommandMessage_of_command {buf : List UInt8}
    (hcommand : stunIsCommandMessage buf = true) : oldStunIsCommandMessage buf = none := by
  have hcookie := (stunIsCommandMessage_iff.mp hcommand).2.2.2.1
  refine if_neg ?_
  simp [isCommandMessageWith, hcookie]

include hinert hfrom hshort in
lemma readClientConnection_alike (hne : Coturn.withoutTrailing nd.buf ≠ nd.buf)
    (hcommand : stunIsCommandMessage nd.buf = true) (c : Ctx)
    (hss : c.ss.readable = ss.readable) (hc : ¬ c.Cleared)
    (hcleared : (readClientConnection cfg env nd canResume c).Cleared) :
    readClientConnection cfg env nd.withoutTrailing canResume c =
      readClientConnection cfg env nd canResume c := by
  have hcommand' : stunIsCommandMessage nd.withoutTrailing.buf = true := hshort.wellFormed.command
  unfold readClientConnection at hcleared ⊢
  cases hs : c.ss.clientSocket with
  | none => rfl
  | some s =>
    rw [hs] at hcleared
    simp only at hcleared ⊢
    by_cases hclosed : (c.ss.toBeClosed || s.toBeClosed) = true
    · rw [if_pos hclosed, if_pos hclosed]
    rw [if_neg hclosed] at hcleared
    rw [if_neg hclosed, if_neg hclosed]
    by_cases hhttp : s.appType = .httpClient ∨ s.appType = .httpsClient
    · rw [if_pos hhttp, if_pos hhttp]
    rw [if_neg hhttp, stunIsChannelMessage_of_command hcommand] at hcleared
    rw [if_neg hhttp, if_neg hhttp, stunIsChannelMessage_of_command hcommand,
      stunIsChannelMessage_of_command hcommand']
    simp only at hcleared ⊢
    by_cases hfull : (stunIsCommandMessageFullCheck nd.buf false c.ss.enforceFingerprints).1 = true
    · have hcheck : stunIsCommandMessageFullCheck nd.withoutTrailing.buf false
          c.ss.enforceFingerprints = _ := hshort.fullCheck hfrom (hinert.fingerprint hne) hfull
      rw [if_pos hfull] at hcleared
      rw [hcheck, if_pos hfull, if_pos hfull]
      exact readCommand_alike hinert hfrom hshort hcommand _ hss hc hcleared
    · -- a message with a wrong fingerprint is not a request
      rw [if_neg hfull, oldStunIsCommandMessage_of_command hcommand] at hcleared
      exact absurd hcleared hc

end Packet

lemma bindDataConnection_alike {cfg : Config} {env : Env} {nd : NetData} {c : Ctx}
    {resumed : Bool} (hinert : TrailingInert cfg resumed c.ss nd.buf)
    (hmethod : stunGetMethod nd.buf = stunMethodConnectionBind) (tc : TcpConnection)
    (tid : List UInt8) (s : IoaSocket) :
    bindDataConnection cfg env tc tid s nd.withoutTrailing c =
      bindDataConnection cfg env tc tid s nd c := by
  rcases nd.withoutTrailing_cases with hsame | ⟨-, hcommand, mi, trailing, kept, hfrom, hshort⟩
  · rw [hsame]
  · have halike := readAlike_withoutTrailing hinert hfrom hshort
    rw [hmethod] at halike
    rw [bindDataConnection, bindAuth, checkStunAuth_alike halike.first
      (hshort.integrity hcommand hfrom cfg.hmac) c checkStunAuth_not_postponed, bindDataConnection]

/-! ## Requests with inert attributes after MESSAGE-INTEGRITY -/

def withCredentials : Server :=
  servedNorth (waitsForKey north ++
      [⟨longTermParams keyAsMac, plainEnv, .resume 0 (some (plainKey [1]))⟩])

def permissionRequest (before after : List (ℕ × List UInt8)) : NetData :=
  clientRequest stunMethodCreatePermission
    (before ++ credentialAttrs (asciiBytes "ann") north [1] ++ after)

def readPermission (srv : Server) (nd : NetData) (ss : Session) : Ctx :=
  readClientConnection (longTermParams keyAsMac) plainEnv nd true
    ⟨srv, ss, .init, []⟩

/-- The packet passes the check, and what follows MESSAGE-INTEGRITY decides about a permission for
the peer. -/
def TrailingDecides (srv : Server) (nd : NetData) (peer : IoaAddr) (ss : Session) : Prop :=
  (readPermission srv nd ss).Cleared ∧
    (allocationGetPermission (readPermission srv nd ss).ss.alloc.toAddrTables peer).isSome = true ∧
    (allocationGetPermission
      (readPermission srv nd.withoutTrailing ss).ss.alloc.toAddrTables peer).isSome = false
  deriving Decidable

end Coturn
