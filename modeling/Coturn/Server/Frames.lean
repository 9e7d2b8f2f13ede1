/-
# What the functions leave unchanged

One lemma for each function between a packet and the request handlers: which parts of the state
it leaves alone, and which kinds of effects it adds. `Ctx.Frame` and `Ctx.Calm` are for the
functions that touch no allocation; these are all functions that run before a request is
authenticated.
-/
import Coturn.Server.Machine
import Coturn.Relay

namespace Coturn

variable (errCode : ℕ) {ss' : Session}

variable {p q : Effect → Prop} {c c' c'' : Ctx}

/-! ## Frames -/

/-- The effects that only tell someone something. -/
def Effect.Message : Effect → Prop
  | .toClient _ _ | .sendTo _ _ _ | .toSocket _ _ | .socketToRelay _ _ _ => True
  | _ => False

/-- A check of the credentials. -/
def Effect.IsCheck (e : Effect) : Prop := ∃ a, e = .authCheck a

/-- What no packet changes: the id of the thread, its time and its counter of sessions. -/
def Server.fixed (srv : Server) : UInt8 × UInt32 × ℕ := (srv.id, srv.ctime, srv.sessionIdCounter)

def Server.books (srv : Server) : (UInt8 × UInt32 × ℕ) × (ℕ → Option Session) ×
    (UInt64 → Option ℕ) × (UInt32 → Option (ℕ × ℕ)) :=
  (srv.fixed, srv.sessionsMap, srv.mobileConnectionsMap, srv.tcpRelayConnections)

/-- The allocation of a session and its terms. -/
def Session.tenancy (ss : Session) : ℕ × Allocation × ℕ × Bool :=
  (ss.id, ss.alloc, ss.bps, ss.isMobile)

/-- In addition, the mobile id. -/
def Session.kept (ss : Session) : (ℕ × Allocation × ℕ × Bool) × UInt64 := (ss.tenancy, ss.mobileId)

/-- In addition, what the check of a request does not write to. -/
def Session.unchecked (ss : Session) :
    ((ℕ × Allocation × ℕ × Bool) × UInt64) × Option IoaSocket × Bool × Bool × UInt64 :=
  (ss.kept, ss.clientSocket, ss.toBeClosed, ss.isTcpRelay, ss.oldMobileId)

variable {ss : Session} {e : Effect} {r : RealmTable × Session}

lemma Session.tenancy_of_unchecked (h : ss'.unchecked = ss.unchecked) :
    ss'.tenancy = ss.tenancy := congrArg (·.1.1) h

lemma Session.same_of_tenancy (h : ss'.tenancy = ss.tenancy) :
    ss'.id = ss.id ∧ ss'.alloc = ss.alloc := ⟨congrArg (·.1) h, congrArg (·.2.1) h⟩

lemma Session.same_of_unchecked (h : ss'.unchecked = ss.unchecked) :
    ss'.id = ss.id ∧ ss'.alloc = ss.alloc :=
  Session.same_of_tenancy (Session.tenancy_of_unchecked h)

/-- From `c` to `c'` the effects that were added have the property `p`, and the session and the
time are the same. -/
structure Ctx.Follows (p : Effect → Prop) (c c' : Ctx) : Prop where
  log : ∃ l, c'.log = c.log ++ l ∧ ∀ e ∈ l, p e
  sid : c'.ss.id = c.ss.id
  fixed : c'.srv.fixed = c.srv.fixed

/-- In addition, the allocation and all other sessions are the same. -/
structure Ctx.Keeps (p : Effect → Prop) (c c' : Ctx) : Prop extends Ctx.Follows p c c' where
  alloc : c'.ss.alloc = c.ss.alloc
  sessions : c'.srv.sessionsMap = c.srv.sessionsMap

/-- In addition, the table of multiplexed peers is the same. -/
structure Ctx.Frame (p : Effect → Prop) (c c' : Ctx) : Prop extends Ctx.Keeps p c c' where
  mp : c'.srv.mpTable = c.srv.mpTable

/-- The session looks the same to `view`, and so do the maps; the effects that were added have `p`.
-/
structure Ctx.Calm {α : Type} (view : Session → α) (p : Effect → Prop) (c c' : Ctx) : Prop where
  log : ∃ l, c'.log = c.log ++ l ∧ ∀ e ∈ l, p e
  own : view c'.ss = view c.ss
  books : c'.srv.books = c.srv.books
  mp : c'.srv.mpTable = c.srv.mpTable
  next : c.srv.nextHandle ≤ c'.srv.nextHandle

namespace Ctx

lemma Follows.refl (c : Ctx) : Follows p c c := ⟨⟨[], by simp, by simp⟩, rfl, rfl⟩

lemma Follows.trans (h : Follows p c c') (h' : Follows p c' c'') : Follows p c c'' := by
  obtain ⟨l, hlog, hl⟩ := h.log
  obtain ⟨l', hlog', hl'⟩ := h'.log
  refine ⟨⟨l ++ l', by rw [hlog', hlog, List.append_assoc], ?_⟩, h'.sid.trans h.sid,
    h'.fixed.trans h.fixed⟩
  intro e he
  rcases List.mem_append.mp he with he | he
  · exact hl e he
  · exact hl' e he

lemma Follows.mono (h : Follows p c c') (hpq : ∀ e, p e → q e) : Follows q c c' := by
  obtain ⟨l, hlog, hl⟩ := h.log
  exact ⟨⟨l, hlog, fun e he => hpq e (hl e he)⟩, h.sid, h.fixed⟩

lemma Follows.mem (h : Follows p c c') (he : e ∈ c'.log) : e ∈ c.log ∨ p e := by
  obtain ⟨l, hlog, hl⟩ := h.log
  rw [hlog] at he
  rcases List.mem_append.mp he with he | he
  · exact Or.inl he
  · exact Or.inr (hl e he)

lemma Follows.log_mono (h : Follows p c c') (he : e ∈ c.log) : e ∈ c'.log := by
  obtain ⟨l, hlog, -⟩ := h.log
  rw [hlog]
  exact List.mem_append_left l he

lemma Follows.ctime (h : Follows p c c') : c'.srv.ctime = c.srv.ctime :=
  congrArg (fun r => r.2.1) h.fixed

lemma Keeps.refl (c : Ctx) : Keeps p c c := ⟨Follows.refl c, rfl, rfl⟩

lemma Keeps.trans (h : Keeps p c c') (h' : Keeps p c' c'') : Keeps p c c'' :=
  ⟨h.toFollows.trans h'.toFollows, h'.alloc.trans h.alloc, h'.sessions.trans h.sessions⟩

lemma Keeps.mono (h : Keeps p c c') (hpq : ∀ e, p e → q e) : Keeps q c c' :=
  ⟨h.toFollows.mono hpq, h.alloc, h.sessions⟩

lemma Frame.refl (c : Ctx) : Frame p c c := ⟨Keeps.refl c, rfl⟩

lemma Frame.trans (h : Frame p c c') (h' : Frame p c' c'') : Frame p c c'' :=
  ⟨h.toKeeps.trans h'.toKeeps, h'.mp.trans h.mp⟩

lemma Frame.mono (h : Frame p c c') (hpq : ∀ e, p e → q e) : Frame q c c' :=
  ⟨h.toKeeps.mono hpq, h.mp⟩

lemma Frame.of_log {l : List Effect} (hlog : c'.log = c.log ++ l) (hl : ∀ e ∈ l, p e)
    (hid : c'.ss.id = c.ss.id) (halloc : c'.ss.alloc = c.ss.alloc)
    (hfixed : c'.srv.fixed = c.srv.fixed) (hsessions : c'.srv.sessionsMap = c.srv.sessionsMap)
    (hmp : c'.srv.mpTable = c.srv.mpTable) : Frame p c c' :=
  ⟨⟨⟨⟨l, hlog, hl⟩, hid, hfixed⟩, halloc, hsessions⟩, hmp⟩

lemma Frame.of_parts (hlog : c'.log = c.log) (hid : c'.ss.id = c.ss.id)
    (halloc : c'.ss.alloc = c.ss.alloc) (hfixed : c'.srv.fixed = c.srv.fixed)
    (hsessions : c'.srv.sessionsMap = c.srv.sessionsMap)
    (hmp : c'.srv.mpTable = c.srv.mpTable) : Frame p c c' :=
  Frame.of_log (l := []) (by simp [hlog]) (by simp) hid halloc hfixed hsessions hmp

lemma Frame.of_session (hsrv : c'.srv = c.srv) (hid : c'.ss.id = c.ss.id)
    (halloc : c'.ss.alloc = c.ss.alloc) (hlog : c'.log = c.log) : Frame p c c' :=
  Frame.of_parts hlog hid halloc (by rw [hsrv]) (by rw [hsrv]) (by rw [hsrv])

lemma Frame.of_reply (hsrv : c'.srv = c.srv) (hss : c'.ss = c.ss) (hlog : c'.log = c.log) :
    Frame p c c' :=
  Frame.of_session hsrv (by rw [hss]) (by rw [hss]) hlog

lemma Frame.emit (he : p e) : Frame p c (c.emit e) :=
  Frame.of_log (l := [e]) rfl (by simpa using he) rfl rfl rfl rfl rfl

lemma Frame.fail (reason : String) : Frame p c (c.fail errCode reason) :=
  Frame.of_reply rfl rfl rfl

lemma Frame.failCode : Frame p c (c.failCode errCode) := Frame.of_reply rfl rfl rfl

lemma Frame.respond (buf : List UInt8) : Frame p c (c.respond buf) := Frame.of_reply rfl rfl rfl

lemma Frame.afterLoop {α : Type} (r : Parsed α) : Frame p c (c.afterLoop r) :=
  Frame.of_reply rfl rfl rfl

namespace Calm

variable {α : Type} {view : Session → α}

lemma refl (c : Ctx) : Calm view p c c := ⟨⟨[], by simp, by simp⟩, rfl, rfl, rfl, le_rfl⟩

lemma trans (h : Calm view p c c') (h' : Calm view p c' c'') : Calm view p c c'' := by
  obtain ⟨l, hlog, hl⟩ := h.log
  obtain ⟨l', hlog', hl'⟩ := h'.log
  refine ⟨⟨l ++ l', by rw [hlog', hlog, List.append_assoc], ?_⟩, h'.own.trans h.own,
    h'.books.trans h.books, h'.mp.trans h.mp, h.next.trans h'.next⟩
  exact fun e he => (List.mem_append.mp he).elim (hl e) (hl' e)

lemma coarsen {β : Type} (f : α → β) (h : Calm view p c c') : Calm (fun ss => f (view ss)) p c c' :=
  ⟨h.log, congrArg f h.own, h.books, h.mp, h.next⟩

lemma checked (h : Calm Session.unchecked p c c') : Calm Session.kept p c c' := h.coarsen Prod.fst

lemma frame (h : Calm Session.kept p c c') : Frame p c c' :=
  ⟨⟨⟨h.log, congrArg (·.1.1) h.own, congrArg (·.1) h.books⟩, congrArg (·.1.2.1) h.own,
    congrArg (·.2.1) h.books⟩, h.mp⟩

lemma of_log {l : List Effect} (hlog : c'.log = c.log ++ l) (hl : ∀ e ∈ l, p e)
    (hown : view c'.ss = view c.ss) (hbooks : c'.srv.books = c.srv.books)
    (hmp : c'.srv.mpTable = c.srv.mpTable) (hnext : c.srv.nextHandle ≤ c'.srv.nextHandle) :
    Calm view p c c' := ⟨⟨l, hlog, hl⟩, hown, hbooks, hmp, hnext⟩

lemma of_parts (hlog : c'.log = c.log) (hown : view c'.ss = view c.ss)
    (hbooks : c'.srv.books = c.srv.books) (hmp : c'.srv.mpTable = c.srv.mpTable)
    (hnext : c.srv.nextHandle ≤ c'.srv.nextHandle) : Calm view p c c' :=
  of_log (l := []) (by simp [hlog]) (by simp) hown hbooks hmp hnext

lemma of_session (hsrv : c'.srv = c.srv) (hown : view c'.ss = view c.ss) (hlog : c'.log = c.log) :
    Calm view p c c' :=
  of_parts hlog hown (by rw [hsrv]) (by rw [hsrv]) (by rw [hsrv])

lemma account (h : view r.2 = view c.ss) : Calm view p c (c.account r) :=
  of_parts rfl h rfl rfl le_rfl

lemma emit (he : p e) : Calm view p c (c.emit e) :=
  of_log (l := [e]) rfl (by simpa using he) rfl rfl rfl le_rfl

lemma fail (reason : String) : Calm view p c (c.fail errCode reason) :=
  of_session rfl rfl rfl

lemma failCode : Calm view p c (c.failCode errCode) := of_session rfl rfl rfl

lemma respond (buf : List UInt8) : Calm view p c (c.respond buf) := of_session rfl rfl rfl

end Calm

end Ctx

open Ctx

/-! ## Before the check -/

variable (cfg : Config) (env : Env) (peerAddr : IoaAddr) (tid : List UInt8)

lemma checkAllocate_calm (c : Ctx) : Calm Session.unchecked p c (checkAllocate cfg tid c) := by
  unfold checkAllocate
  split_ifs
  · exact .fail _ _
  · split
    · exact .refl c
    · simp only [setAlternateServer]
      split_ifs
      · exact .refl c
      · split <;> exact .of_parts rfl rfl rfl rfl le_rfl

lemma checkOrigins_calm (attrs : List StunAttr) (c : Ctx) :
    Calm Session.unchecked p c (checkOrigins cfg attrs c) := by
  unfold checkOrigins
  split_ifs
  all_goals first | exact .refl c | exact .fail _ _

lemma selectOrigin_unchecked (realms : RealmTable) (os : List (List UInt8))
    (ss : Session) : (selectOrigin cfg realms os ss).2.unchecked = ss.unchecked := by
  induction os generalizing ss with
  | nil => rfl
  | cons o os ih =>
    unfold selectOrigin
    cases cfg.originToRealm o with
    | some realm => rfl
    | none => exact ih _

lemma readOrigins_calm (method : ℕ) (attrs : List StunAttr) (c : Ctx) :
    Calm Session.unchecked p c (readOrigins cfg method attrs c) := by
  unfold readOrigins
  split_ifs
  · exact .account (selectOrigin_unchecked cfg c.srv.realms (origins cfg attrs) c.ss)
  · exact .refl c

/-! ## The check -/

lemma refreshNonce_unchecked (ctime : UInt32) (ss : Session) :
    (refreshNonce cfg env ctime ss).unchecked = ss.unchecked := by
  unfold refreshNonce
  split_ifs <;> rfl

lemma checkRealmAttr_unchecked {realms : RealmTable} {method : ℕ} {attrs : List StunAttr}
    {realm : List UInt8}
    (h : checkRealmAttr realms method attrs ss = .ok (realm, r)) :
    r.2.unchecked = ss.unchecked := by
  unfold checkRealmAttr at h
  split at h
  · cases h
  · simp only at h
    split_ifs at h <;> cases h <;> rfl

lemma checkUsernameAttr_unchecked {method : ℕ} {attrs : List StunAttr} {usname : List UInt8}
    (h : checkUsernameAttr method attrs ss = .ok (usname, ss')) : ss'.unchecked = ss.unchecked := by
  unfold checkUsernameAttr at h
  split at h
  · cases h
  · simp only at h
    split_ifs at h <;> cases h <;> rfl

lemma checkIntegrity_calm (canResume : Bool) (nd : NetData)
    (usname realm : List UInt8) (c : Ctx) :
    Calm Session.unchecked p c (checkIntegrity cfg canResume nd usname realm c).2 := by
  have hpostpone : Calm Session.unchecked p c (postponeOrChallenge canResume nd usname realm c).2 := by
    unfold postponeOrChallenge
    split_ifs
    · exact .of_parts rfl rfl rfl rfl le_rfl
    · exact .failCode 401
  unfold checkIntegrity
  split_ifs
  · exact hpostpone
  · exact hpostpone
  · exact .of_session rfl rfl rfl

lemma checkCredentials_calm (method : ℕ) (isNew canResume : Bool) (nd : NetData)
    (attrs : List StunAttr) (c : Ctx) :
    Calm Session.unchecked p c (checkCredentials cfg method isNew canResume nd attrs c).2 := by
  unfold checkCredentials
  split
  · exact .failCode 401
  · split_ifs
    · exact .failCode 401
    · split
      · exact .of_session rfl rfl rfl
      · next realm r hrealm =>
        have hss : Calm Session.unchecked p c (c.account r) :=
          .account (checkRealmAttr_unchecked hrealm)
        simp only
        split
        · exact hss.trans (.of_session rfl rfl rfl)
        · next usname ss' husname =>
          have hss' : Calm Session.unchecked p c { c.account r with ss := ss' } :=
            hss.trans (.of_session rfl (checkUsernameAttr_unchecked husname) rfl)
          split
          · exact hss'.trans (.of_session rfl rfl rfl)
          · exact hss'.trans (.fail _ _)
          · exact hss'.trans (checkIntegrity_calm cfg canResume nd usname realm _)

section Requests

variable {cfg : Config} {env : Env} {method : ℕ} {tid : List UInt8} {canResume : Bool}
  {nd : NetData} {attrs : List StunAttr}

section Noted

variable (c : Ctx)
  (hp : needStunAuthentication cfg = true →
    p (.authCheck ⟨(checkStunAuth cfg env method tid canResume nd attrs c).2.ss,
      (checkStunAuth cfg env method tid canResume nd attrs c).2.reply.errCode,
      (checkStunAuth cfg env method tid canResume nd attrs c).1⟩))

include hp

lemma checkStunAuth_calm :
    Calm Session.unchecked p c (checkStunAuth cfg env method tid canResume nd attrs c).2 := by
  unfold checkStunAuth at hp ⊢
  by_cases hneed : (!needStunAuthentication cfg) = true
  · rw [if_pos hneed]
    exact .refl c
  rw [if_neg hneed] at hp ⊢
  have hp := hp (by simpa using hneed)
  have hnonce : Calm Session.unchecked p c (c.nonced cfg env) :=
    .of_session rfl (refreshNonce_unchecked cfg env c.srv.ctime c.ss) rfl
  have hcred := hnonce.trans
    (checkCredentials_calm cfg method (c.ss.nonce = []) canResume nd attrs _)
  refine Calm.trans ?_ (.emit hp)
  split
  · exact hcred.trans (.respond _)
  · exact hcred
  · exact hcred

lemma checkStunAuth_frame : Frame p c (checkStunAuth cfg env method tid canResume nd attrs c).2 :=
  (checkStunAuth_calm c hp).checked.frame

end Noted

lemma checkStunAuth_calm_of_follows
    (hp : Follows p c (checkStunAuth cfg env method tid canResume nd attrs c).2) :
    Calm Session.unchecked p c (checkStunAuth cfg env method tid canResume nd attrs c).2 := by
  have hcalm : Calm Session.unchecked (fun _ => True) c
      (checkStunAuth cfg env method tid canResume nd attrs c).2 :=
    checkStunAuth_calm c fun _ => trivial
  exact ⟨hp.log, hcalm.own, hcalm.books, hcalm.mp, hcalm.next⟩

lemma checkRequest_calm (c : Ctx)
    (hp : Follows p c (checkStunAuth cfg env method tid canResume nd attrs c).2) :
    Calm Session.unchecked p c (checkRequest cfg env method tid canResume nd attrs c) := by
  have hcheck := checkStunAuth_calm_of_follows hp
  unfold checkRequest
  split_ifs
  · exact .refl c
  · exact .refl c
  · simp only
    split_ifs
    all_goals exact hcheck.trans (.of_session rfl rfl rfl)

lemma beforeCheck_calm : Calm Session.unchecked p c (beforeCheck cfg method tid attrs c) := by
  have hallocate : Calm Session.unchecked p c
      (if method = stunMethodAllocate then checkAllocate cfg tid c else c) := by
    split_ifs
    · exact checkAllocate_calm cfg tid c
    · exact .refl c
  exact (hallocate.trans (checkOrigins_calm cfg attrs _)).trans (readOrigins_calm cfg method attrs _)

lemma beforeCheck_frame : Frame p c (beforeCheck cfg method tid attrs c) :=
  beforeCheck_calm.checked.frame

lemma admitRequest_calm (c : Ctx)
    (hp : ∀ c₁ : Ctx, c₁.srv.ctime = c.srv.ctime →
      Follows p c₁ (checkStunAuth cfg env method tid canResume nd attrs c₁).2) :
    Calm Session.unchecked p c (admitRequest cfg env method tid canResume nd attrs c) := by
  rw [admitRequest]
  split_ifs
  · exact .of_session rfl rfl rfl
  · have htime : (beforeCheck cfg method tid attrs c).srv.ctime = c.srv.ctime :=
      (beforeCheck_frame (p := p)).ctime
    exact beforeCheck_calm.trans (checkRequest_calm _ (hp _ htime))
  · exact .refl c

lemma admitRequest_frame (c : Ctx)
    (hp : ∀ c₁ : Ctx, c₁.srv.ctime = c.srv.ctime →
      Frame p c₁ (checkStunAuth cfg env method tid canResume nd attrs c₁).2) :
    Frame p c (admitRequest cfg env method tid canResume nd attrs c) :=
  (admitRequest_calm c fun c₁ h => (hp c₁ h).toFollows).checked.frame

end Requests

/-! ## Handlers that need no authentication -/

lemma handleTurnBinding_calm (cookie : Option ℕ) (attrs : List StunAttr) (c : Ctx) :
    Calm Session.kept p c (handleTurnBinding cfg env tid cookie attrs c).1 := by
  unfold handleTurnBinding
  split
  · exact .refl c
  · simp only
    split_ifs
    all_goals first
      | exact .of_session rfl rfl rfl
      | (split <;> exact .of_session rfl rfl rfl)

lemma dispatchBinding_calm (attrs : List StunAttr)
    (c : Ctx) : Calm Session.kept Effect.Message c (dispatchBinding cfg env tid attrs c) := by
  have hbinding := handleTurnBinding_calm (p := Effect.Message) cfg env tid none attrs c
  simp only [dispatchBinding]
  split
  · split_ifs
    · exact hbinding.trans
        (.of_log (l := [_]) rfl (by simp [Effect.Message]) rfl rfl rfl le_rfl)
    · exact hbinding
  · exact hbinding

lemma detachClientSocket_calm (c : Ctx) : Calm Session.kept p c (detachClientSocket env c).2 := by
  unfold detachClientSocket
  split
  · exact .refl c
  · split_ifs
    · exact .refl c
    · exact .of_parts rfl rfl rfl rfl (Nat.le_succ _)
    · exact .of_parts rfl rfl rfl rfl (Nat.le_succ _)

lemma connectionBindTransfer_calm (id : UInt32) (nd : NetData) (c : Ctx) :
    Calm Session.kept Effect.Message c (connectionBindTransfer env id nd c) := by
  unfold connectionBindTransfer
  have hdetach := detachClientSocket_calm (p := Effect.Message) env c
  cases env.sendSocketToRelay with
  | none => exact .of_session rfl rfl rfl
  | some sent =>
    simp only
    by_cases hclosed : ioaSocketTobeclosed c.ss.clientSocket = true
    · rw [if_pos hclosed]
      exact .of_session rfl rfl rfl
    rw [if_neg hclosed]
    rcases hd : detachClientSocket env c with ⟨_ | s, c₁⟩ <;> rw [hd] at hdetach
    · exact hdetach.trans (.of_session rfl rfl rfl)
    · cases sent with
      | true =>
        exact (hdetach.trans (.emit (e := .socketToRelay _ _ _) trivial)).trans
          (.of_session rfl rfl rfl)
      | false => exact hdetach.trans (.of_session rfl rfl rfl)

lemma handleTurnConnectionBind_calm (nd : NetData) (attrs : List StunAttr) (c : Ctx) :
    Calm Session.kept Effect.Message c (handleTurnConnectionBind cfg env tid nd attrs c) := by
  have hstart : Calm Session.kept Effect.Message c (connectionBindStart env nd attrs c) := by
    simp only [connectionBindStart]
    split_ifs
    · exact .failCode _
    · exact .fail _ _
    · exact .fail _ _
    · exact .of_session rfl rfl rfl
    · exact .of_session rfl rfl rfl
    · refine Calm.trans ?_ (connectionBindTransfer_calm env _ nd _)
      exact .of_session rfl rfl rfl
  simp only [handleTurnConnectionBind]
  split_ifs
  · exact hstart.trans (.of_session rfl rfl rfl)
  · exact hstart.trans (.of_session rfl rfl rfl)
  · exact hstart

lemma refreshElsewhere_calm (hp : ∀ tsid handle nd, p (.socketToRelay tsid handle nd)) (env : Env)
    (tsid : UInt8) (nd : NetData) (c : Ctx) :
    Calm Session.kept p c (refreshElsewhere env tsid nd c) := by
  unfold refreshElsewhere
  have hdetach := detachClientSocket_calm (p := p) env c
  cases env.sendSocketToRelay with
  | none => exact .of_session rfl rfl rfl
  | some sent =>
    simp only
    rcases hd : detachClientSocket env c with ⟨_ | s, c₁⟩ <;> rw [hd] at hdetach
    · exact hdetach.trans (.fail _ _)
    · cases sent with
      | true => exact hdetach.trans (.of_log (l := [_]) rfl (by simp [hp]) rfl rfl rfl le_rfl)
      | false => exact hdetach.trans (.of_session rfl rfl rfl)

lemma incQuota_unchecked (realms : RealmTable) (ss : Session)
    (username : List UInt8) : (incQuota cfg realms ss username).2.2.unchecked = ss.unchecked := by
  unfold incQuota
  split_ifs
  · rfl
  · rfl
  · split <;> rfl

lemma decQuota_unchecked (realms : RealmTable) (ss : Session) :
    (decQuota cfg realms ss).2.unchecked = ss.unchecked := by
  unfold decQuota
  split_ifs <;> rfl

lemma copyAuthParameters_unchecked (origSs : Session) (realms : RealmTable)
    (ss : Session) : (copyAuthParameters cfg origSs realms ss).2.unchecked = ss.unchecked := by
  rw [copyAuthParameters, incQuota_unchecked]
  exact decQuota_unchecked cfg realms ss

lemma acceptKey_unchecked (k : KeyAnswer) (realms : RealmTable) (ss : Session) :
    (acceptKey cfg k realms ss).2.unchecked = ss.unchecked := by
  rw [acceptKey]
  simp only
  split_ifs
  · rw [incQuota_unchecked]
    exact decQuota_unchecked cfg realms _
  · rfl

lemma transferCandidate_calm (orig : Session) (c : Ctx) :
    Calm Session.unchecked p c (c.forTransfer cfg orig) := by
  refine .account ?_
  unfold transferCandidate
  simp only
  split_ifs
  · exact copyAuthParameters_unchecked cfg orig _ _
  · rfl

/-! ## Data to peers -/

/-- The table of multiplexed peers has got entries of the session `sid`, for free endpoints with
`P`. -/
def Server.Registers (srv srv' : Server) (sid : ℕ) (P : IoaAddr → Prop) : Prop :=
  Coturn.Registers srv.mpTable.get srv'.mpTable.get sid P

lemma Server.Registers.of_eq {srv srv' : Server} {sid : ℕ} {P : IoaAddr → Prop}
    (h : srv'.mpTable = srv.mpTable) : srv.Registers srv' sid P := fun key => Or.inl (by rw [h])

/-- What `register_multiplex_peer` does: nothing, an error, or the endpoint belongs to the session.
-/
lemma registerMultiplexPeer_cases (c : Ctx) :
    ((addrGetPort peerAddr = 0 ∨
        isMultiplexPeerUdpRelay cfg (c.ss.alloc.getRelaySocket peerAddr.family) = false) ∧
      registerMultiplexPeer cfg peerAddr c = (true, c)) ∨
    (addrGetPort peerAddr ≠ 0 ∧
      isMultiplexPeerUdpRelay cfg (c.ss.alloc.getRelaySocket peerAddr.family) = true ∧
      (∃ other, c.srv.mpTable.get peerAddr = some other ∧ other ≠ c.ss.id) ∧
      registerMultiplexPeer cfg peerAddr c =
        (false, c.fail 400 "Peer address already used by another multiplex-peer allocation")) ∨
    (addrGetPort peerAddr ≠ 0 ∧
      isMultiplexPeerUdpRelay cfg (c.ss.alloc.getRelaySocket peerAddr.family) = true ∧
      (∀ other, c.srv.mpTable.get peerAddr = some other → other = c.ss.id) ∧
      registerMultiplexPeer cfg peerAddr c =
        (true, { c with srv := { c.srv with mpTable := c.srv.mpTable.put peerAddr c.ss.id } })) := by
  unfold registerMultiplexPeer
  by_cases hport : addrGetPort peerAddr = 0
  · exact Or.inl ⟨Or.inl hport, if_pos hport⟩
  rw [if_neg hport]
  by_cases hshared : isMultiplexPeerUdpRelay cfg (c.ss.alloc.getRelaySocket peerAddr.family) = true
  · rw [if_neg (by simp [hshared])]
    unfold mpRegisterPeer
    right
    split_ifs with hother
    · left
      obtain ⟨other, hget, hne⟩ := (Option.any_eq_true _ _).mp hother
      exact ⟨hport, hshared, ⟨other, hget, by simpa using hne⟩, rfl⟩
    · right
      refine ⟨hport, hshared, fun other hget => ?_, rfl⟩
      simpa [hget] using hother
  · rw [Bool.not_eq_true] at hshared
    exact Or.inl ⟨Or.inr hshared, by simp [hshared]⟩

lemma registerMultiplexPeer_keeps (c : Ctx) :
    Keeps p c (registerMultiplexPeer cfg peerAddr c).2 ∧
      (registerMultiplexPeer cfg peerAddr c).2.ss = c.ss := by
  rcases registerMultiplexPeer_cases cfg peerAddr c with ⟨-, h⟩ | ⟨-, -, -, h⟩ | ⟨-, -, -, h⟩ <;>
    rw [h]
  · exact ⟨Keeps.refl c, rfl⟩
  · exact ⟨(Frame.fail _ _).toKeeps, rfl⟩
  · exact ⟨⟨⟨⟨[], by simp, by simp⟩, rfl, rfl⟩, rfl, rfl⟩, rfl⟩

lemma registerMultiplexPeer_registers (c : Ctx) :
    c.srv.Registers (registerMultiplexPeer cfg peerAddr c).2.srv c.ss.id (· = peerAddr) := by
  rcases registerMultiplexPeer_cases cfg peerAddr c with ⟨-, h⟩ | ⟨-, -, -, h⟩ | ⟨-, -, hown, h⟩ <;>
    rw [h]
  · exact .of_eq rfl
  · exact .of_eq rfl
  · intro key
    simp only [UrAddrMap.get_put]
    split_ifs with hkey
    · obtain ⟨-, rfl⟩ := addrEq_iff_eq.mp hkey
      cases hget : c.srv.mpTable.get key with
      | none => exact Or.inr ⟨rfl, rfl, rfl⟩
      | some other => exact Or.inl (by rw [hown other hget])
    · exact Or.inl rfl

lemma sendToPeer_calm (payload : List UInt8) (c : Ctx)
    (hp : ∀ relayS, c.ss.alloc.getRelaySocket peerAddr.family = some relayS →
      p (.toPeer c.ss.id peerAddr payload relayS (c.srv.mpTable.get peerAddr))) :
    Calm Session.kept p c (sendToPeer peerAddr payload c) := by
  unfold sendToPeer
  split
  · exact .refl c
  · next relayS hrelay => exact .emit (hp relayS hrelay)

/-- What a Send indication sends: the data of its loop to the peer of its loop. -/
structure SendEffect (cfg : Config) (tid : List UInt8) (nd : NetData) (attrs : List StunAttr)
    (c : Ctx) (e : Effect) : Prop where
  valid : c.ss.alloc.isValid = true
  permission : cfg.serverRelay = false → (allocationGetPermission c.ss.alloc.toAddrTables
    (readSend cfg tid attrs).val.peerAddr).isSome = true
  inet : addrAny (readSend cfg tid attrs).val.peerAddr = false
  sent : ∃ data relayS owner, (readSend cfg tid attrs).val.data = some data ∧
    c.ss.alloc.getRelaySocket (readSend cfg tid attrs).val.peerAddr.family = some relayS ∧
    (isMultiplexPeerUdpRelay cfg (some relayS) = true →
      addrGetPort (readSend cfg tid attrs).val.peerAddr ≠ 0 → owner = some c.ss.id) ∧
    e = .toPeer c.ss.id (readSend cfg tid attrs).val.peerAddr
      (if data = [] then []
        else bufferPart nd.buf (readSend cfg tid attrs).val.offset data.length) relayS owner

/-- A Send indication registers the peer that its loop has found and sends to it, if at all. -/
lemma handleTurnSend_keeps {cfg : Config} {tid : List UInt8} {nd : NetData}
    {attrs : List StunAttr} (c : Ctx) (hp : ∀ e, SendEffect cfg tid nd attrs c e → p e) :
    Keeps p c (handleTurnSend cfg tid nd attrs c) ∧
      c.srv.Registers (handleTurnSend cfg tid nd attrs c).srv c.ss.id fun key =>
        cfg.serverRelay = false →
          (allocationGetPermission c.ss.alloc.toAddrTables key).isSome = true := by
  have hframe : ∀ {c' : Ctx}, Frame p c c' → Keeps p c c' ∧
      c.srv.Registers c'.srv c.ss.id fun key => cfg.serverRelay = false →
        (allocationGetPermission c.ss.alloc.toAddrTables key).isSome = true :=
    fun h => ⟨h.toKeeps, .of_eq h.mp⟩
  simp only [handleTurnSend]
  by_cases htcp : c.ss.isTcpRelay = true
  · rw [if_pos htcp]
    exact hframe (Frame.fail _ _)
  rw [if_neg htcp]
  by_cases hvalid : (!c.ss.alloc.isValid || !nd.ttlLeft) = true
  · rw [if_pos hvalid]
    exact hframe (Frame.refl c)
  rw [if_neg hvalid]
  simp only [Bool.or_eq_true, Bool.not_eq_true', not_or, Bool.not_eq_false] at hvalid
  obtain ⟨v, hv⟩ : ∃ v, readSend cfg tid attrs = v := ⟨_, rfl⟩
  rw [hv]
  split
  · exact hframe (Frame.afterLoop _)
  split
  · exact hframe (Frame.of_reply rfl rfl rfl)
  split
  · exact hframe ((Frame.afterLoop _).trans (Frame.fail _ _))
  next data hdata =>
    split
    · exact hframe ((Frame.afterLoop _).trans (Frame.fail _ _))
    next hany =>
    split
    · exact hframe (Frame.afterLoop _)
    next hpermission =>
      have hpermission' : cfg.serverRelay = false →
          (allocationGetPermission c.ss.alloc.toAddrTables v.val.peerAddr).isSome = true := by
        intro hrelay
        simpa [hrelay, Ctx.afterLoop, ← Option.isSome_iff_ne_none] using hpermission
      obtain ⟨hkeeps, hss⟩ :=
        registerMultiplexPeer_keeps (p := p) cfg v.val.peerAddr (c.afterLoop v)
      have hregisters := registerMultiplexPeer_registers cfg v.val.peerAddr (c.afterLoop v)
      have hkeeps₁ := (Frame.afterLoop (p := p) (c := c) v).toKeeps.trans hkeeps
      have hregisters₁ : c.srv.Registers
          (registerMultiplexPeer cfg v.val.peerAddr (c.afterLoop v)).2.srv c.ss.id fun key =>
            cfg.serverRelay = false →
              (allocationGetPermission c.ss.alloc.toAddrTables key).isSome = true := by
        intro key
        rcases hregisters key with h | ⟨hnone, hsome, rfl⟩
        · exact Or.inl h
        · exact Or.inr ⟨hnone, hsome, hpermission'⟩
      have hcases := registerMultiplexPeer_cases cfg v.val.peerAddr (c.afterLoop v)
      rcases hr : registerMultiplexPeer cfg v.val.peerAddr (c.afterLoop v) with ⟨_ | _, c₁⟩ <;>
        rw [hr] at hkeeps₁ hregisters₁ hss hcases
      · exact ⟨hkeeps₁, hregisters₁⟩
      · have hsend : Frame p c₁ (sendToPeer v.val.peerAddr
            (if data = [] then [] else bufferPart nd.buf v.val.offset data.length) c₁) := by
          refine Calm.frame (sendToPeer_calm _ _ _ fun relayS hrelay => hp _ ?_)
          rw [show c₁.ss = c.ss from hss] at hrelay ⊢
          subst hv
          refine ⟨hvalid.1, hpermission', by simpa using hany, data, relayS, _, hdata, hrelay, ?_, rfl⟩
          intro hshared hport
          rw [← hrelay] at hshared
          rcases hcases with ⟨hno, -⟩ | ⟨-, -, -, hc⟩ | ⟨-, -, -, hc⟩
          · rcases hno with hno | hno
            · exact absurd hno hport
            · exact absurd hshared (by simpa [Ctx.afterLoop] using hno)
          · exact absurd (congrArg Prod.fst hc) (by simp)
          · obtain rfl := congrArg Prod.snd hc
            generalize (readSend cfg tid attrs).val.peerAddr = peerAddr at hport ⊢
            have hself : addrEq peerAddr peerAddr = true := by
              refine addrEq_iff_eq.mpr ⟨?_, rfl⟩
              cases peerAddr with
              | unset => exact absurd rfl hport
              | s4 ip port => exact Or.inl rfl
              | s6 ip port => exact Or.inr rfl
            simp only [UrAddrMap.get_put, hself, if_true]
            rfl
        refine ⟨hkeeps₁.trans hsend.toKeeps, fun key => ?_⟩
        simp only [hsend.mp]
        exact hregisters₁ key

/-- What ChannelData sends, if at all: the payload to the peer of the channel. -/
structure ChannelEffect (nd : NetData) (chnum : UInt16) (len : ℕ) (c : Ctx) (e : Effect) : Prop where
  valid : c.ss.alloc.isValid = true
  sent : ∃ r chn relayS, allocationGetChInfo c.ss.alloc.toAddrTables chnum = some r ∧
    c.ss.alloc.toAddrTables.chns.get? r = some chn ∧
    c.ss.alloc.getRelaySocket chn.peerAddr.family = some relayS ∧
    e = .toPeer c.ss.id chn.peerAddr (bufferPart nd.buf 4 (len - 4)) relayS
      (c.srv.mpTable.get chn.peerAddr)

lemma writeToPeerchannel_calm {chnum : UInt16} {len : ℕ} {nd : NetData} (c : Ctx)
    (hp : ∀ e, ChannelEffect nd chnum len c e → p e) :
    Calm Session.kept p c (writeToPeerchannel chnum len nd c) := by
  unfold writeToPeerchannel
  split
  · exact .refl c
  next hvalid =>
    simp only [Bool.or_eq_true, Bool.not_eq_true', not_or, Bool.not_eq_false] at hvalid
    split
    · exact .refl c
    next chn hchn =>
      obtain ⟨r, hr, hget⟩ := Option.bind_eq_some_iff.mp hchn
      exact sendToPeer_calm _ _ c fun relayS hrelay =>
        hp _ ⟨hvalid.2, r, chn, relayS, hr, hget, hrelay, rfl⟩

/-! ## After the handler -/

lemma finishCommand_same (method : ℕ) (tid : List UInt8) (isIndication : Bool) (c : Ctx) :
    (finishCommand cfg method tid isIndication c).ss = c.ss ∧
      (finishCommand cfg method tid isIndication c).srv = c.srv ∧
      (finishCommand cfg method tid isIndication c).log = c.log := by
  simp only [finishCommand]
  split_ifs <;> exact ⟨rfl, rfl, rfl⟩

lemma writeResponse_calm (fingerprint : Bool) (c : Ctx) :
    Calm Session.kept Effect.Message c (writeResponse fingerprint c) ∧
      (writeResponse fingerprint c).ss = c.ss := by
  unfold writeResponse
  split
  · exact ⟨.refl c, rfl⟩
  · split
    · exact ⟨.refl c, rfl⟩
    · exact ⟨.emit (e := .toClient _ _) trivial, rfl⟩

lemma handleOldStunCommand_calm (nd : NetData) (cookie : ℕ) (c : Ctx) :
    Calm Session.kept Effect.Message c (handleOldStunCommand cfg env nd cookie c) := by
  have hbinding := handleTurnBinding_calm (p := Effect.Message) cfg env
    (stunTidFromMessage nd.buf) (some cookie) (stunAttrs nd.buf) c
  simp only [handleOldStunCommand]
  by_cases hother : (!stunIsRequest nd.buf || stunGetMethod nd.buf != stunMethodBinding) = true
  · rw [if_pos hother]
    exact .of_session rfl rfl rfl
  rw [if_neg hother]
  split
  · exact hbinding.trans (.of_log (l := [_]) rfl (by simp [Effect.Message]) rfl rfl rfl le_rfl)
  · exact hbinding.trans (.of_session rfl rfl rfl)

lemma readOther_kept (s : IoaSocket) (nd : NetData) (ss : Session) :
    (readOther cfg env s nd ss).kept = ss.kept := by
  simp only [readOther]
  split_ifs <;> rfl

end Coturn
