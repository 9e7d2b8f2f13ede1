/-
# Who may move a session

A Refresh with a mobility ticket gives the session `orig` of the ticket the client socket of the
session in which it arrives. It is checked with the user name and the key of `orig` only when the
session in which it arrives has no key of its own. So another user who knows the ticket may take
over the session.
-/
import Coturn.Server.ConnectionBind

namespace Coturn

open Ctx

variable {srv : Server} {i : Input} {c : Ctx} {cfg : Config} {env : Env} {tid : List UInt8}
  {canResume : Bool} {nd : NetData} {attrs : List StunAttr} {sid : ℕ}

/-! ## The transfer -/

/-- The session `orig` gets another client socket while a packet of the session `c.ss` is read. -/
structure Server.Transfers (srv : Server) (i : Input) (nd : NetData) (canResume : Bool) (c : Ctx)
    (orig : Session) : Prop where
  packet : srv.packet i = some (nd, canResume, c)
  other : orig.id ≠ c.ss.id
  known : srv.sessionsMap orig.id = some orig
  moved : ∃ ss' s, (srv.step i).sessionsMap orig.id = some ss' ∧ ss'.clientSocket = some s ∧
    orig.clientSocket.map IoaSocket.handle ≠ some s.handle

/-- A check of the event was passed under the given user name and key. -/
def Server.ChecksAs (srv : Server) (i : Input) (username hmackey : List UInt8) : Prop :=
  ∃ a, Effect.authCheck a ∈ (srv.handle i).2 ∧ a.Passed ∧ a.ss.username = username ∧
    a.ss.hmackey = hmackey
  deriving Decidable

/-- The request is checked with the user name and the key of `orig`. -/
def Session.OwnerCredentials (ss : Session) (attrs : List StunAttr) (orig : Session) : Prop :=
  if ss.hmackeySet = true then
    ss.hmackey = orig.hmackey ∧ ss.checkedName attrs = orig.username
  else orig.checkedName attrs = orig.username
  deriving Decidable

/-! ## The session that is checked -/

lemma incQuota_identity (cfg : Config) (realms : RealmTable) (ss : Session) :
    (incQuota cfg realms ss ss.username).2.2.hmackey = ss.hmackey ∧
      (incQuota cfg realms ss ss.username).2.2.username = ss.username ∧
      (incQuota cfg realms ss ss.username).2.2.oauth = ss.oauth := by
  unfold incQuota
  split_ifs
  · exact ⟨rfl, rfl, rfl⟩
  · exact ⟨rfl, rfl, rfl⟩
  · split <;> exact ⟨rfl, rfl, rfl⟩

lemma copyAuthParameters_identity (cfg : Config) (orig : Session) (realms : RealmTable)
    (ss : Session) :
    (copyAuthParameters cfg orig realms ss).2.hmackey = orig.hmackey ∧
      (copyAuthParameters cfg orig realms ss).2.username = orig.username ∧
      (copyAuthParameters cfg orig realms ss).2.oauth = orig.oauth := by
  simp only [copyAuthParameters]
  exact incQuota_identity cfg _ _

lemma checkedName_congr {ss ss' : Session} (husername : ss'.username = ss.username)
    (hoauth : ss'.oauth = ss.oauth) (attrs : List StunAttr) :
    ss'.checkedName attrs = ss.checkedName attrs := by
  rw [Session.checkedName, Session.checkedName, husername, hoauth]

lemma transferCandidate_identity (cfg : Config) (orig : Session) (realms : RealmTable)
    (ss : Session) (attrs : List StunAttr) :
    ((transferCandidate cfg orig realms ss).2.checkedName attrs = orig.username ∧
      (transferCandidate cfg orig realms ss).2.hmackey = orig.hmackey) ↔
        ss.OwnerCredentials attrs orig := by
  unfold transferCandidate Session.OwnerCredentials
  simp only
  generalize realms.getRealmOptionsByName orig.realmOptions.name = r
  by_cases hset : ss.hmackeySet = true
  · rw [if_neg (by simp [hset]), if_pos hset]
    exact and_comm
  · obtain ⟨hkey, husername, hoauth⟩ := copyAuthParameters_identity cfg orig r.2
      { ss with realmOptions := r.1 }
    rw [if_pos (by simpa using hset), if_neg hset, checkedName_congr husername hoauth, hkey]
    exact and_iff_left rfl

/-! ## What a transfer does to the other sessions -/

lemma transferDone_sessions (cfg : Config) (env : Env) (tid : List UInt8) (mid : UInt64)
    (lifetime : UInt32) (orig : Session) (c : Ctx) (hsid : sid ≠ orig.id) :
    (transferDone cfg env tid mid lifetime orig c).srv.sessionsMap sid = c.srv.sessionsMap sid := by
  obtain ⟨srv, o, ss, hapart, ho, -, hdone⟩ := transferDone_eq cfg env tid mid lifetime orig c
  have hput : (srv.putSession o).sessionsMap sid = c.srv.sessionsMap sid := by
    rw [putSession_sessionsMap, if_neg (fun h => hsid (h.trans (Session.same_of_tenancy ho).1)),
      (Server.parts_of_apart hapart).1]
  rw [hdone]
  split <;> exact hput

lemma transferSession_sessions (cfg : Config) (env : Env) (tid : List UInt8) (v : RefreshVars)
    (view : RefreshView) (orig : Session) (c : Ctx) (hsid : sid ≠ orig.id) :
    (transferSession cfg env tid v view orig c).srv.sessionsMap sid = c.srv.sessionsMap sid := by
  have hid : (refreshFamilies c.srv.ctime (refreshLifetime cfg v c.ss) view.af4c view.af6c orig).id =
      orig.id := rfl
  simp only [transferSession]
  by_cases hbad : ((view.af4c || view.af6c) && !orig.alloc.isValid) = true
  · rw [if_pos hbad]
    rfl
  rw [if_neg hbad]
  generalize refreshFamilies c.srv.ctime (refreshLifetime cfg v c.ss) view.af4c view.af6c orig = o
    at hid ⊢
  rw [← hid] at hsid
  have hput : ∀ srv : Server, (srv.putSession o).sessionsMap sid = srv.sessionsMap sid :=
    fun srv => if_neg hsid
  have hdetach := detachClientSocket_calm (p := fun _ => True) env
    { c with
      srv := c.srv.putSession o
      log := c.log ++ refreshEffects o.id view.af4c view.af6c }
  rcases hd : detachClientSocket env _ with ⟨_ | s, c₁⟩ <;> rw [hd] at hdetach
  · show c₁.srv.sessionsMap sid = _
    rw [hdetach.frame.sessions]
    exact hput c.srv
  · have hsocket : (c₁.srv.putSession { o with clientSocket := some s }).sessionsMap sid =
        c.srv.sessionsMap sid := by
      rw [putSession_sessionsMap, if_neg hsid, hdetach.frame.sessions]
      exact hput c.srv
    simp only
    split_ifs
    · exact hsocket
    · refine (transferDone_sessions cfg env tid _ _ _ _ ?_).trans hsocket
      exact hsid

/-! ## The check before a transfer -/

/-- One check more than in `log₀`, passed in `ss` for `orig`, and under its user name and key when
`ss` has `OwnerCredentials`. -/
structure CheckedForTransfer (ss : Session) (attrs : List StunAttr) (orig : Session)
    (log₀ log : List Effect) (a : AuthCheck) : Prop where
  passed : a.Passed
  identity : (a.ss.username = orig.username ∧ a.ss.hmackey = orig.hmackey) ↔
    ss.OwnerCredentials attrs orig
  checked : .authCheck a ∈ log
  only : ∀ a', .authCheck a' ∈ log → .authCheck a' ∈ log₀ ∨ a' = a

variable {a : AuthCheck}

lemma Effect.OfHandler.not_check : ¬ (Effect.authCheck a).OfHandler := by
  rintro (h | h) <;> exact h

lemma CheckedForTransfer.follows {ss : Session} {orig : Session} {log₀ : List Effect} {c' : Ctx}
    (h : CheckedForTransfer ss attrs orig log₀ c.log a)
    (hfollows : Follows Effect.OfHandler c c') :
    CheckedForTransfer ss attrs orig log₀ c'.log a := by
  refine ⟨h.passed, h.identity, hfollows.log_mono h.checked, fun a' ha' => ?_⟩
  rcases hfollows.mem ha' with hold | hnew
  · exact h.only a' hold
  · exact absurd hnew Effect.OfHandler.not_check

lemma checkStunAuth_forTransfer (hct : cfg.ct = .longTerm) {realms : RealmTable} {orig : Session}
    {method : ℕ} {ss : Session} {c₁ : Ctx}
    (hss : c.ss = (transferCandidate cfg orig realms ss).2)
    (hcheck : checkStunAuth cfg env method tid canResume nd attrs c = (false, c₁))
    (herr : c₁.reply.errCode = 0) :
    CheckedForTransfer ss attrs orig c.log c₁.log ⟨c₁.ss, 0, false⟩ := by
  have hneed : needStunAuthentication cfg = true := by simp [needStunAuthentication, hct]
  obtain ⟨-, hname, hkey⟩ := checkStunAuth_passed hneed hcheck rfl herr
  have hcheck' := checkStunAuth_emits hct hcheck
  rw [herr] at hcheck'
  refine ⟨⟨rfl, rfl⟩, ?_, ?_, ?_⟩
  · rw [hname, hkey, hss]
    exact transferCandidate_identity cfg orig realms ss attrs
  · rw [hcheck']
    exact List.mem_append_right _ (List.mem_singleton_self _)
  · intro a' ha'
    rw [hcheck'] at ha'
    rcases List.mem_append.mp ha' with hold | hnew
    · exact Or.inl hold
    · exact Or.inr (Effect.authCheck.inj (List.mem_singleton.mp hnew))

lemma refreshTransfer_moved {v : RefreshVars} (hct : cfg.ct = .longTerm) (hids : c.srv.IdsMatch)
    (hmoved : (refreshTransfer cfg env tid canResume nd attrs v c).srv.sessionsMap sid ≠
      c.srv.sessionsMap sid) :
    cfg.mobility = true ∧ ∃ orig a, c.srv.sessionsMap sid = some orig ∧
      CheckedForTransfer c.ss attrs orig c.log
        (refreshTransfer cfg env tid canResume nd attrs v c).log a := by
  unfold refreshTransfer at hmoved ⊢
  split at hmoved
  · exact absurd rfl hmoved
  next orig horig =>
  have hmobility : cfg.mobility = true := by
    unfold getSessionFromMobileMap at horig
    split_ifs at horig with hnone
    simp only [Bool.or_eq_true, Bool.not_eq_true', not_or, Bool.not_eq_false] at hnone
    exact hnone.1
  have hold : c.srv.sessionsMap orig.id = some orig := getSessionFromMobileMap_some hids horig
  iterate 5
    split at hmoved
    · exact absurd rfl hmoved
  next hopen hother hmobile hsocket hclient =>
  rw [if_neg hopen, if_neg hother, if_neg hmobile, if_neg hsocket, if_neg hclient]
  have hcandidate := (transferCandidate_calm (p := fun e => ¬ e.Sensitive) cfg orig c).checked.frame
  rcases hcheck : checkStunAuth cfg env stunMethodRefresh tid canResume nd attrs
    (c.forTransfer cfg orig) with ⟨postponed, c₁⟩
  have hsessions : c₁.srv.sessionsMap = c.srv.sessionsMap :=
    (hcandidate.trans (checkStunAuth_not_sensitive hcheck)).sessions
  rw [hcheck] at hmoved
  simp only at hmoved ⊢
  split_ifs at hmoved ⊢ with hpostponed herr
  · exact absurd (congrFun hsessions sid) hmoved
  · exact absurd (congrFun hsessions sid) hmoved
  · obtain rfl : postponed = false := by simpa using hpostponed
    have hsid : orig.id = sid := by
      by_contra hne
      rw [transferSession_sessions cfg env tid v _ orig c₁ (Ne.symm hne), hsessions] at hmoved
      exact hmoved rfl
    have hchecked : CheckedForTransfer c.ss attrs orig c.log c₁.log ⟨c₁.ss, 0, false⟩ :=
      checkStunAuth_forTransfer (c := c.forTransfer cfg orig) hct
        rfl hcheck (not_not.mp herr)
    refine ⟨hmobility, orig, _, hsid ▸ hold, hchecked.follows
      (transferSession_settles cfg env tid v _ orig c₁ ?_).toFollows⟩
    rw [hsessions, hold]
    rfl

lemma handleTurnRefresh_moved (hct : cfg.ct = .longTerm) (hids : c.srv.IdsMatch)
    (hmoved : (handleTurnRefresh cfg env tid canResume nd attrs c).srv.sessionsMap sid ≠
      c.srv.sessionsMap sid) :
    c.ss.alloc.isValid = false ∧ cfg.mobility = true ∧ ∃ orig a,
      c.srv.sessionsMap sid = some orig ∧
      CheckedForTransfer c.ss attrs orig c.log
        (handleTurnRefresh cfg env tid canResume nd attrs c).log a := by
  simp only [handleTurnRefresh] at hmoved ⊢
  split_ifs at hmoved ⊢ with hinvalid hunknown herr hvalid hticket hthread
  · exact absurd rfl hmoved
  · exact absurd rfl hmoved
  · exact absurd rfl hmoved
  · exact absurd (congrArg (·.2.1 sid) (refreshValid_calm cfg tid _ _).books) hmoved
  · exact absurd rfl hmoved
  · have helsewhere := refreshElsewhere_calm (p := Effect.Message) (fun _ _ _ => trivial) env
    exact absurd (congrFun (helsewhere _ nd _).frame.sessions sid) hmoved
  · refine ⟨Bool.eq_false_iff.mpr hvalid, ?_⟩
    refine refreshTransfer_moved hct ?_ hmoved
    exact hids

/-! ## Requests and packets -/

lemma dispatch_sessions {method : ℕ} (hmethod : method ≠ stunMethodRefresh) (c : Ctx) :
    (dispatch cfg env method tid canResume nd attrs c).srv.sessionsMap = c.srv.sessionsMap := by
  unfold dispatch
  split
  · exact (handleTurnAllocate_frame cfg env tid attrs c).1.sessions
  · have hconnect := (handleTurnConnect_frame cfg env tid attrs c).sessions
    simp only
    split_ifs <;> exact hconnect
  · exact (handleTurnConnectionBind_calm cfg env tid nd attrs c).frame.sessions
  · exact absurd rfl hmethod
  · exact (handleTurnChannelBind_move cfg tid attrs c).sessions
  · have hmove := handleTurnCreatePermission_move (Q := fun _ => True) cfg tid attrs c
    exact hmove.sessions
  · exact (dispatchBinding_calm cfg env tid attrs c).frame.sessions
  · rfl

/-- A request that writes back another session is a Refresh that its handler checks. -/
lemma handleMessage_moved (hct : cfg.ct = .longTerm) (hids : c.srv.IdsMatch)
    (hmoved : (handleMessage cfg env nd canResume (c.received nd)).srv.sessionsMap sid ≠
      c.srv.sessionsMap sid) :
    ∃ orig a, c.srv.sessionsMap sid = some orig ∧
      CheckedForTransfer c.ss (stunAttrs nd.buf) orig c.log
        (handleMessage cfg env nd canResume (c.received nd)).log a := by
  by_cases hrequest : stunIsRequest nd.buf = true
  · have hadmitted : Frame (fun _ => True) (c.received nd) (c.admitted cfg env nd canResume) :=
      admitRequest_frame _ fun c₁ _ => (checkStunAuth_not_sensitive rfl).mono fun _ _ => trivial
    have hsessions : (c.admitted cfg env nd canResume).srv.sessionsMap = c.srv.sessionsMap :=
      hadmitted.sessions
    rw [handleMessage_of_request hrequest] at hmoved ⊢
    split_ifs at hmoved ⊢ with hopen
    · by_cases hmethod : stunGetMethod nd.buf = stunMethodRefresh
      · have hdispatch : ∀ c', dispatch cfg env stunMethodRefresh (stunTidFromMessage nd.buf)
            canResume nd (stunAttrs nd.buf) c' = handleTurnRefresh cfg env
              (stunTidFromMessage nd.buf) canResume nd (stunAttrs nd.buf) c' := fun _ => rfl
        rw [hmethod, hdispatch] at hmoved ⊢
        have hids' : (c.admitted cfg env nd canResume).srv.IdsMatch := by
          rw [Server.IdsMatch, hsessions]
          exact hids
        rw [← hsessions] at hmoved ⊢
        obtain ⟨hvalid, hmobility, orig, a, horig, hchecked⟩ :=
          handleTurnRefresh_moved hct hids' hmoved
        refine ⟨orig, a, horig, ?_⟩
        rw [hadmitted.alloc] at hvalid
        obtain ⟨reply, hreply⟩ := admitRequest_of_skips cfg env (stunTidFromMessage nd.buf) canResume
          nd (stunAttrs nd.buf) (c.received nd) (Or.inr ⟨hmobility, hmethod, hvalid⟩)
        rw [← Ctx.admitted] at hreply
        rw [hreply] at hchecked ⊢
        exact ⟨hchecked.passed, hchecked.identity, hchecked.checked, hchecked.only⟩
      · exact absurd (congrFun ((dispatch_sessions hmethod _).trans hsessions) sid) hmoved
    · exact absurd (congrFun hsessions sid) hmoved
  · refine absurd ?_ hmoved
    rw [handleMessage, if_neg hrequest]
    split_ifs
    · have hkeeps : Keeps (fun _ => True) (c.received nd) (handleIndication cfg (stunGetMethod nd.buf)
          (stunTidFromMessage nd.buf) nd (stunAttrs nd.buf) (c.received nd)) :=
        (handleIndication_keeps _ _ fun _ _ _ => trivial).1
      exact congrFun hkeeps.sessions sid
    · rfl

lemma readClientConnection_moved (hct : cfg.ct = .longTerm) (hids : c.srv.IdsMatch)
    (hmoved : (readClientConnection cfg env nd canResume c).srv.sessionsMap sid ≠
      c.srv.sessionsMap sid) :
    ∃ orig a, c.srv.sessionsMap sid = some orig ∧
      CheckedForTransfer c.ss (stunAttrs nd.buf) orig c.log
        (readClientConnection cfg env nd canResume c).log a := by
  rcases readClientConnection_cases cfg env nd canResume c rfl with
    ⟨h, -⟩ | ⟨s, chnum, len, -, h⟩ | ⟨-, -, h⟩
  · exact absurd (congrFun h.frame.sessions sid) hmoved
  · rw [h] at hmoved
    have hcalm : Calm Session.kept (fun _ => True) c (writeToPeerchannel chnum len nd c) :=
      writeToPeerchannel_calm c fun _ _ => trivial
    exact absurd (congrFun hcalm.frame.sessions sid) hmoved
  · rw [h] at hmoved ⊢
    have hframe := (readCommand_calm cfg env nd canResume (c.received nd)).1.frame
    rw [hframe.sessions] at hmoved
    obtain ⟨orig, a, horig, hchecked⟩ := handleMessage_moved hct hids hmoved
    exact ⟨orig, a, horig, hchecked.follows (hframe.toFollows.mono fun _ he => Or.inr he)⟩

/-! ## Runs -/

lemma shutdownClientConnection_other (cfg : Config) (force : Bool) (srv : Server) (ss : Session)
    (hsid : sid ≠ ss.id) :
    (shutdownClientConnection cfg force srv ss).sessionsMap sid = srv.sessionsMap sid := by
  have hid : (decQuota cfg srv.realms ss).2.id = ss.id :=
    congrArg (·.1.1.1) (decQuota_unchecked cfg srv.realms ss)
  unfold shutdownClientConnection
  simp only
  generalize decQuota cfg srv.realms ss = r at hid ⊢
  have hother : sid ≠ (decBps r.2).id := fun h => hsid (h.trans hid)
  generalize decBps r.2 = ss' at hother ⊢
  split_ifs
  · exact if_neg hother
  · rw [(removeSession_parts _ _).1]
    exact if_neg hother
  · rw [(removeSession_parts _ _).1]
    exact if_neg hother

lemma closeIfNecessary_other (cfg : Config) {sid' : ℕ}
    (hsid : ∀ ss, srv.sessionsMap sid' = some ss → sid ≠ ss.id) :
    (closeIfNecessary cfg sid' srv).sessionsMap sid = srv.sessionsMap sid := by
  unfold closeIfNecessary
  split
  · rfl
  next ss hss =>
    split_ifs
    · exact shutdownClientConnection_other cfg false srv ss (hsid ss hss)
    · rfl

lemma step_packet_other (hnum : srv.Numbered) (hpacket : srv.packet i = some (nd, canResume, c))
    (hsid : sid ≠ c.ss.id) :
    (srv.step i).sessionsMap sid =
      (readClientConnection i.cfg i.env nd canResume c).srv.sessionsMap sid := by
  have hstate := packet_state hnum hpacket
  have hread := readClientConnection_step c hstate.numbered.ids
    (admits_true i.cfg i.env nd canResume c)
  obtain ⟨-, ss', hss', hend⟩ := handle_packet hnum hpacket
  generalize readClientConnection i.cfg i.env nd canResume c = c' at hread hss' hend
  have hid : ss'.id = c.ss.id := by
    rw [← hread.sid]
    rcases hss' with rfl | rfl <;> rfl
  have hput : (c'.srv.putSession ss').sessionsMap sid = c'.srv.sessionsMap sid :=
    if_neg (fun h => hsid (h.trans hid))
  rw [Server.step, ← hput]
  rcases hend with heq | heq <;> rw [heq]
  refine closeIfNecessary_other i.cfg fun ss hss => ?_
  rw [putSession_sessionsMap, if_pos hid.symm] at hss
  rw [← Option.some.inj hss, hid]
  exact hsid

/-- In every run a packet leaves the relaying for all sessions but its own as it was. -/
theorem clients_apart (id : UInt8) (ctime : UInt32) (realms : RealmTable) (is : List Input) :
    Machine.Along Server.step (fun srv i => ∀ nd canResume c, srv.packet i = some (nd, canResume, c) →
      ∀ sid, sid ≠ c.ss.id → (srv.step i).view.sessions sid = srv.view.sessions sid)
      (initServer id ctime realms) is := by
  refine Machine.along_of_invariant (fun srv i (h : srv.WellFormed) _ => ⟨h.step i, ?_⟩)
    (Machine.along_of_forall_mem fun _ _ => trivial) (wellFormed_init id ctime realms)
  intro nd canResume c hpacket sid hsid
  have hread := readClientConnection_step c (packet_state h.numbered hpacket).numbered.ids
    (admits_true i.cfg i.env nd canResume c)
  have hcore := congrArg (Option.map Prod.snd) (hread.sessions sid)
  rw [← step_packet_other h.numbered hpacket hsid, (packet_sessions h.numbered hpacket).1 sid hsid,
    Option.map_map, Option.map_map] at hcore
  exact hcore

/-- When a session gets the client socket of another session, the check was passed under its own
user name and key exactly when the request is checked with these. -/
theorem ticket_moves_for_owner_iff (id : UInt8) (ctime : UInt32) (realms : RealmTable)
    (is : List Input) (i : Input) (hct : i.cfg.ct = .longTerm) (nd : NetData) (canResume : Bool)
    (c : Ctx) (orig : Session)
    (htransfers : (Machine.run Server.step (initServer id ctime realms) is).Transfers i nd canResume
      c orig) :
    (Machine.run Server.step (initServer id ctime realms) is).ChecksAs i orig.username
        orig.hmackey ↔
      c.ss.OwnerCredentials (stunAttrs nd.buf) orig := by
  have h : (Machine.run Server.step (initServer id ctime realms) is).WellFormed :=
    (wellFormed_init id ctime realms).run is
  generalize Machine.run Server.step (initServer id ctime realms) is = srv at h htransfers ⊢
  obtain ⟨hpacket, hother, hknown, ss', s, hss', hs, hne⟩ := htransfers
  have hstate := packet_state h.numbered hpacket
  have hbefore := (packet_sessions h.numbered hpacket).1 orig.id hother
  rw [hknown] at hbefore
  have hmoved : (readClientConnection i.cfg i.env nd canResume c).srv.sessionsMap orig.id ≠
      c.srv.sessionsMap orig.id := by
    rw [← step_packet_other h.numbered hpacket hother, hss', hbefore]
    intro heq
    obtain rfl := Option.some.inj heq
    exact hne (by rw [hs]; rfl)
  obtain ⟨orig', a, horig', hchecked⟩ := readClientConnection_moved hct hstate.numbered.ids hmoved
  obtain rfl : orig = orig' := Option.mem_unique hbefore horig'
  rw [Server.ChecksAs, (handle_packet h.numbered hpacket).1, ← hchecked.identity]
  constructor
  · rintro ⟨a', ha', -, husername, hkey⟩
    rcases hchecked.only a' ha' with hold | rfl
    · rw [hstate.log] at hold
      exact absurd hold List.not_mem_nil
    · exact ⟨husername, hkey⟩
  · rintro ⟨husername, hkey⟩
    exact ⟨a, hchecked.checked, hchecked.passed, husername, hkey⟩

/-! ## Two runs -/

def mobileParams : Config := { longTermParams keyAsMac with mobility := true }

/-- Every call succeeds, and `n` is the random number of a new mobile id. -/
def Env.mobile (n : UInt64) : Env := { plainEnv with mobileRandom := [n] }

/-- A client gets a mobile allocation, with the mobile id 1, and another client connects. -/
def mobileAllocated (realm : List UInt8) : List Input :=
  [⟨mobileParams, .mobile 1, .openSession udpClient none false⟩,
    ⟨mobileParams, .mobile 1, .clientInput 1 (clientRequest stunMethodAllocate
      [udpTransportAttr, (attrMobilityTicket, [])]) true⟩,
    ⟨mobileParams, .mobile 1, .clientInput 1 (clientRequest stunMethodAllocate
      ([udpTransportAttr, (attrMobilityTicket, [])] ++
        credentialAttrs (asciiBytes "ann") realm [1])) true⟩,
    ⟨mobileParams, .mobile 1, .resume 0 (some (plainKey [1]))⟩,
    ⟨mobileParams, .mobile 2, .openSession udpClient none false⟩]

/-- The other client authenticates itself with a request that has no effect without an
allocation. -/
def otherAuthenticated (realm : List UInt8) : List Input :=
  [⟨mobileParams, .mobile 2, .clientInput 2 (clientRequest stunMethodCreatePermission []) true⟩,
    ⟨mobileParams, .mobile 2, .clientInput 2 (clientRequest stunMethodCreatePermission
      (credentialAttrs (asciiBytes "eve") realm [2])) true⟩,
    ⟨mobileParams, .mobile 2, .resume 0 (some (plainKey [2]))⟩]

/-- A Refresh of the other client with the ticket, in the name of the given user. -/
def refreshWithTicket (username realm key : List UInt8) : Input :=
  ⟨mobileParams, .mobile 3, .clientInput 2 (clientRequest stunMethodRefresh
    ((attrMobilityTicket, mobileIdToString 1) :: credentialAttrs username realm key)) true⟩

/-- The session has another client socket. -/
def Session.MovedTo (ss ss' : Session) : Prop :=
  ∃ s ∈ ss'.clientSocket, ss.clientSocket.map IoaSocket.handle ≠ some s.handle
  deriving Decidable

lemma Server.exists_transfers (sid : ℕ) {P : NetData → Ctx → Session → Prop} {Q : Session → Prop}
    (hfacts : ∃ orig ∈ srv.sessionsMap sid, ∃ q ∈ srv.packet i, orig.id = sid ∧
      sid ≠ q.2.2.ss.id ∧ (∃ ss' ∈ (srv.step i).sessionsMap sid, orig.MovedTo ss') ∧
        P q.1 q.2.2 orig)
    (hP : ∀ nd canResume c orig, srv.Transfers i nd canResume c orig → P nd c orig → Q orig) :
    ∃ nd canResume c orig, srv.Transfers i nd canResume c orig ∧ Q orig := by
  obtain ⟨orig, horig, q, hq, rfl, hother, ⟨ss', hss', s, hs, hne⟩, hkeeps⟩ := hfacts
  have htransfers : srv.Transfers i q.1 q.2.1 q.2.2 orig :=
    ⟨hq, hother, horig, ss', s, hss', hs, hne⟩
  exact ⟨q.1, q.2.1, q.2.2, orig, htransfers, hP _ _ _ _ htransfers hkeeps⟩

theorem ticket_moves_for_owner_iff_owner :
    ∃ nd canResume c orig,
      (servedNorth (mobileAllocated north)).Transfers
          (refreshWithTicket (asciiBytes "ann") north [1]) nd canResume c orig ∧
      (servedNorth (mobileAllocated north)).ChecksAs
          (refreshWithTicket (asciiBytes "ann") north [1]) orig.username
            orig.hmackey := by
  refine Server.exists_transfers 1
    (P := fun nd c orig => c.ss.OwnerCredentials (stunAttrs nd.buf) orig) (by decide +kernel)
    fun nd canResume c orig h howner => ?_
  exact (ticket_moves_for_owner_iff 0 1000 _ _ _ rfl _ _ _ _ h).mpr howner

/-- A client that has authenticated itself as another user takes over the session. -/
theorem ticket_moves_for_other :
    ∃ nd canResume c orig,
      (servedNorth (mobileAllocated north ++ otherAuthenticated north)).Transfers
          (refreshWithTicket (asciiBytes "eve") north [2]) nd canResume c orig ∧
      orig.alloc.isValid = true ∧
      ¬ (servedNorth (mobileAllocated north ++ otherAuthenticated north)).ChecksAs
          (refreshWithTicket (asciiBytes "eve") north [2]) orig.username
            orig.hmackey := by
  exact Server.exists_transfers 1 (by decide +kernel) fun _ _ _ _ _ h => h

end Coturn
