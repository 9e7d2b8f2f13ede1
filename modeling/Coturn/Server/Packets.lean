/-
# What a packet does to the sessions

The functions from a packet to its handler, put together: all sessions keep their permissions and
channels, except that a ChannelBind or CreatePermission request moves those of its own session.
-/
import Coturn.Server.Permissions

namespace Coturn

open Ctx Relation

variable {cfg : Config} {env : Env} {method : ℕ} {tid : List UInt8} {canResume : Bool}
  {nd : NetData} {attrs : List StunAttr} {p : Effect → Prop} {P B : IoaAddr → Prop}
  {c c' c'' : Ctx}

/-- The relaying for all other sessions is the same. A session may get a valid allocation; else
permissions are added for addresses with `P`, channels bound to addresses with `B`. -/
structure Ctx.TablesStep (p : Effect → Prop) (cfg : Config) (P B : IoaAddr → Prop) (c c' : Ctx) :
    Prop extends Ctx.Follows p c c' where
  sessions : ∀ sid, (c'.srv.sessionsMap sid).map Session.core =
    (c.srv.sessionsMap sid).map Session.core
  busy : c.ss.alloc.isValid = true →
    c'.ss.alloc.relay = { c.ss.alloc.relay with tables := c'.ss.alloc.toAddrTables }
  idle : c.ss.alloc.isValid = false →
    c'.ss.alloc.toAddrTables = c.ss.alloc.toAddrTables ∧
      (c.ss.alloc.relay.Placed → c'.ss.alloc.relay.Placed) ∧ c'.srv.mpTable = c.srv.mpTable
  request : c.ss.alloc.toAddrTables.Consistent →
    c.ss.alloc.toAddrTables.Request (c.srv.clock cfg) P (fun addr => B addr ∧ c'.Listed cfg addr)
      c'.ss.alloc.toAddrTables
  registers : c.ss.alloc.toAddrTables.Consistent → c.srv.Registers c'.srv c.ss.id fun key =>
    cfg.serverRelay = false → c'.ss.alloc.toAddrTables.Permits key

namespace Ctx

lemma TablesKeep.step (h : TablesKeep p c c') : TablesStep p cfg P B c c' := by
  have htables : c'.ss.alloc.toAddrTables = c.ss.alloc.toAddrTables :=
    congrArg RelaySession.tables h.relay
  refine ⟨h.toFollows, h.sessions, fun _ => ?_, fun _ => ⟨htables, by rw [h.relay]; exact id, h.mp⟩,
    fun _ => ?_, fun _ => .of_eq h.mp⟩
  · rw [htables, h.relay]
    rfl
  · rw [htables]
    exact .refl _

lemma TablesFrame.step (h : TablesFrame p c c') : TablesStep p cfg P B c c' := h.keep.step

lemma Frame.step (h : Frame p c c') : TablesStep p cfg P B c c' := h.tablesFrame.step

lemma AllocFrame.step (h : AllocFrame p c c')
    (hvalid : c.ss.alloc.isValid = true → TablesFrame p c c') : TablesStep p cfg P B c c' where
  toFollows := h.toFollows
  sessions sid := by rw [h.sessions]
  busy hv := by
    have htables : c'.ss.alloc.toAddrTables = c.ss.alloc.toAddrTables := h.tables
    rw [htables, (hvalid hv).relay]
    rfl
  idle _ := ⟨h.tables, h.placed, h.mp⟩
  request _ := by rw [h.tables]; exact .refl _
  registers _ := .of_eq h.mp

lemma TablesMove.step
    (h : TablesMove cfg P (fun addr => B addr ∧ c'.Listed cfg addr) c c')
    (hidle : c.ss.alloc.isValid = false → Frame Effect.OfHandler c c')
    (hp : ∀ e : Effect, e.OfHandler → p e) : TablesStep p cfg P B c c' where
  toFollows := h.toFollows.mono hp
  sessions sid := by rw [h.sessions]
  busy _ := by rw [h.ss]; rfl
  idle hv := by
    rw [(hidle hv).alloc]
    exact ⟨rfl, id, (hidle hv).mp⟩
  request := h.request
  registers hcons := (h.registers hcons).mono fun _ _ hkey _ => hkey

lemma TablesStep.mono_grant {P' B' : IoaAddr → Prop} (h : TablesStep p cfg P B c c')
    (hP : ∀ addr, P addr → P' addr) (hB : ∀ addr, B addr → B' addr) :
    TablesStep p cfg P' B' c c' :=
  { h with request := fun hcons => (h.request hcons).mono hP fun addr haddr =>
      ⟨hB addr haddr.1, haddr.2⟩ }

lemma Frame.step_trans (h : Frame p c c') (h' : TablesStep p cfg P B c' c'') :
    TablesStep p cfg P B c c'' := by
  obtain ⟨hfollows, hsessions, hbusy, hidle, hrequest, hregisters⟩ := h'
  rw [h.alloc] at hbusy hidle hrequest hregisters
  rw [h.sid] at hregisters
  rw [clock_eq h.toFollows] at hrequest
  refine ⟨h.toFollows.trans hfollows, fun sid => ?_, hbusy, fun hv => ?_, hrequest, fun hcons => ?_⟩
  · rw [hsessions, h.sessions]
  · obtain ⟨htables, hplaced, hmp⟩ := hidle hv
    exact ⟨htables, hplaced, hmp.trans h.mp⟩
  · intro key
    rw [← h.mp]
    exact hregisters hcons key

lemma TablesStep.trans_frame (h : TablesStep p cfg P B c c') (h' : Frame p c' c'') :
    TablesStep p cfg P B c c'' := by
  refine ⟨h.toFollows.trans h'.toFollows, fun sid => ?_, fun hv => ?_, fun hv => ?_, fun hcons => ?_,
    fun hcons => ?_⟩
  · rw [h'.sessions, h.sessions]
  · rw [h'.alloc]
    exact h.busy hv
  · obtain ⟨htables, hplaced, hmp⟩ := h.idle hv
    rw [h'.alloc]
    exact ⟨htables, hplaced, h'.mp.trans hmp⟩
  · have hlisted : ∀ addr, c'.Listed cfg addr → c''.Listed cfg addr := by
      intro addr haddr
      rw [Ctx.Listed, h'.alloc, h'.mp]
      exact haddr
    rw [h'.alloc]
    exact (h.request hcons).mono (fun _ => id) fun addr haddr => ⟨haddr.1, hlisted addr haddr.2⟩
  · intro key
    rw [h'.mp, h'.alloc]
    exact h.registers hcons key

end Ctx

/-! ## Requests -/

/-- The request may add permissions: a ChannelBind for the IP of an endpoint, a CreatePermission for
any address with `GoodPeerOf`. -/
def GrantsFor (cfg : Config) (method : ℕ) (ss : Session) (tid : List UInt8) (attrs : List StunAttr)
    (addr : IoaAddr) : Prop :=
  GoodPeerOf cfg ss tid attrs addr ∧
    ((method = stunMethodChannelBind ∧ addr.IsInet) ∨
      (method = stunMethodCreatePermission ∧ AcceptsPeers cfg ss tid attrs))

/-- The request binds a channel to the endpoint or refreshes it. -/
def BindsFor (cfg : Config) (method : ℕ) (ss : Session) (tid : List UInt8) (attrs : List StunAttr)
    (addr : IoaAddr) : Prop :=
  method = stunMethodChannelBind ∧ BindsChannel cfg ss tid attrs ∧
    addr = (readChannelBind cfg ss.alloc tid attrs).val.peerAddr

lemma dispatch_step (c : Ctx) (hids : c.srv.IdsMatch) (hhandler : ∀ e : Effect, e.OfHandler → p e)
    (hp : ∀ c₁ : Ctx, c₁.srv.ctime = c.srv.ctime →
      Frame p c₁ (checkStunAuth cfg env stunMethodRefresh tid canResume nd attrs c₁).2) :
    TablesStep p cfg (GrantsFor cfg method c.ss tid attrs) (BindsFor cfg method c.ss tid attrs) c
      (dispatch cfg env method tid canResume nd attrs c) := by
  have hmessage : ∀ e : Effect, e.Message → p e := fun e he => hhandler e (Or.inr he)
  unfold dispatch
  split
  · obtain ⟨halloc, hvalid⟩ := handleTurnAllocate_frame cfg env tid attrs c
    refine AllocFrame.step ?_ fun hv => (hvalid hv).mono hhandler
    exact ⟨halloc.toFollows.mono hhandler, halloc.tables, halloc.placed, halloc.sessions, halloc.mp⟩
  · have hconnect := (handleTurnConnect_frame cfg env tid attrs c).mono hhandler
    simp only
    split_ifs
    · exact hconnect.step.trans_frame (Frame.of_reply rfl rfl rfl)
    · exact hconnect.step
  · exact ((handleTurnConnectionBind_calm cfg env tid nd attrs c).frame.mono hmessage).step
  · exact (handleTurnRefresh_settles hhandler c hids fun c₁ h => (hp c₁ h).toFollows).keep.step
  · have hmove := handleTurnChannelBind_move cfg tid attrs c
    exact TablesStep.mono_grant (hmove.step (handleTurnChannelBind_idle cfg tid attrs) hhandler)
      (fun addr haddr => ⟨haddr.2, Or.inl ⟨rfl, haddr.1⟩⟩) fun addr haddr => ⟨rfl, haddr⟩
  · have hmove := handleTurnCreatePermission_move (Q := fun addr => False ∧
      (handleTurnCreatePermission cfg tid attrs c).Listed cfg addr) cfg tid attrs c
    exact TablesStep.mono_grant
      (hmove.step (handleTurnCreatePermission_idle cfg tid attrs) hhandler)
      (fun addr haddr => ⟨haddr.2, Or.inr ⟨rfl, haddr.1⟩⟩) fun _ => False.elim
  · exact ((dispatchBinding_calm cfg env tid attrs c).frame.mono hmessage).step
  · exact (Frame.refl c).step

lemma handleRequest_step (c : Ctx) (hids : c.srv.IdsMatch)
    (hhandler : ∀ e : Effect, e.OfHandler → p e)
    (hp : ∀ (method : ℕ) (c₁ : Ctx), c₁.srv.ctime = c.srv.ctime →
      Frame p c₁ (checkStunAuth cfg env method tid canResume nd attrs c₁).2) :
    TablesStep p cfg
      (fun addr => (admitRequest cfg env method tid canResume nd attrs c).open = true ∧
        GrantsFor cfg method (admitRequest cfg env method tid canResume nd attrs c).ss tid attrs addr)
      (fun addr => (admitRequest cfg env method tid canResume nd attrs c).open = true ∧
        BindsFor cfg method (admitRequest cfg env method tid canResume nd attrs c).ss tid attrs addr)
      c (handleRequest cfg env method tid canResume nd attrs c) := by
  have hbefore := admitRequest_frame c (hp method)
  unfold handleRequest
  simp only
  split_ifs with hopen
  · have hids' : (admitRequest cfg env method tid canResume nd attrs c).srv.IdsMatch := by
      rw [Server.IdsMatch, hbefore.sessions]
      exact hids
    refine hbefore.step_trans (TablesStep.mono_grant (dispatch_step _ hids' hhandler
      fun c₁ htime => hp stunMethodRefresh c₁ (htime.trans hbefore.ctime))
      (fun addr haddr => ⟨hopen, haddr⟩) fun addr haddr => ⟨hopen, haddr⟩)
  · exact hbefore.step

/-! ## Messages -/

lemma handleIndication_keeps (method : ℕ) (c : Ctx)
    (hp : method = stunMethodSend → ∀ e, SendEffect cfg tid nd attrs c e → p e) :
    Keeps p c (handleIndication cfg method tid nd attrs c) ∧
      c.srv.Registers (handleIndication cfg method tid nd attrs c).srv c.ss.id (fun key =>
        cfg.serverRelay = false →
          (allocationGetPermission c.ss.alloc.toAddrTables key).isSome = true) ∧
      (c.ss.alloc.isValid = false →
        (handleIndication cfg method tid nd attrs c).srv.mpTable = c.srv.mpTable) := by
  have hsilent : Frame p c c.silent :=
    Frame.of_reply rfl rfl rfl
  unfold handleIndication
  simp only
  split
  · have hsend : ∀ e, SendEffect cfg tid nd attrs c.silent e → p e :=
      fun e he => hp rfl e ⟨he.valid, he.permission, he.inet, he.sent⟩
    obtain ⟨hkeeps, hregisters⟩ := handleTurnSend_keeps _ hsend
    refine ⟨hsilent.toKeeps.trans hkeeps, hregisters, fun hv => ?_⟩
    unfold handleTurnSend
    split_ifs <;> simp_all [Ctx.fail]
  · have hcode := hsilent.trans (Frame.failCode 403)
    exact ⟨hcode.toKeeps, .of_eq rfl, fun _ => rfl⟩
  · exact ⟨hsilent.toKeeps, .of_eq rfl, fun _ => rfl⟩

lemma handleIndication_step (c : Ctx)
    (hp : method = stunMethodSend → ∀ e, SendEffect cfg tid nd attrs c e → p e) :
    TablesStep p cfg P B c (handleIndication cfg method tid nd attrs c) := by
  obtain ⟨hkeeps, hregisters, hidle⟩ := handleIndication_keeps method c hp
  refine ⟨hkeeps.toFollows, fun sid => by rw [hkeeps.sessions], fun _ => by rw [hkeeps.alloc]; rfl,
    fun hv => ⟨by rw [hkeeps.alloc], by rw [hkeeps.alloc]; exact id, hidle hv⟩,
    fun _ => by rw [hkeeps.alloc]; exact .refl _, fun _ => ?_⟩
  refine hregisters.mono fun key _ hkey hrelay => ?_
  rw [hkeeps.alloc]
  exact AddrTables.permits_of_get (hkey hrelay)

/-- After the handler only the reply changes, and the response is written if the socket is open. -/
lemma readCommand_spec {m r : Ctx} (hm : handleMessage cfg env nd canResume c = m)
    (hr : readCommand cfg env nd canResume c = r) :
    ∃ c₁, c₁.ss = m.ss ∧ c₁.srv = m.srv ∧ c₁.log = m.log ∧ (r = c₁ ∨
      (m.ss.toBeClosed || ioaSocketTobeclosed m.ss.clientSocket) = false ∧
        ∃ fingerprint, r = writeResponse fingerprint c₁) := by
  subst hm hr
  obtain ⟨hss, hsrv, hlog⟩ := finishCommand_same cfg (stunGetMethod nd.buf)
    (stunTidFromMessage nd.buf) (stunIsIndication nd.buf) (handleMessage cfg env nd canResume c)
  refine ⟨_, hss, hsrv, hlog, ?_⟩
  rw [← handleTurnCommand] at hss ⊢
  simp only [readCommand, ← hss]
  split_ifs with hclosed
  · exact Or.inl rfl
  · exact Or.inr ⟨Bool.not_eq_true _ ▸ hclosed, _, rfl⟩

lemma readCommand_calm (cfg : Config) (env : Env) (nd : NetData) (canResume : Bool) (c : Ctx) :
    Calm Session.kept Effect.Message (handleMessage cfg env nd canResume c)
        (readCommand cfg env nd canResume c) ∧
      (readCommand cfg env nd canResume c).ss = (handleMessage cfg env nd canResume c).ss := by
  obtain ⟨c₁, hss, hsrv, hlog, hr⟩ := readCommand_spec (c := c) rfl rfl
  have hsame : Calm Session.kept Effect.Message (handleMessage cfg env nd canResume c) c₁ :=
    .of_session hsrv (by rw [hss]) hlog
  rcases hr with hr | ⟨-, fingerprint, hr⟩ <;> rw [hr]
  · exact ⟨hsame, hss⟩
  · obtain ⟨hwrite, hss'⟩ := writeResponse_calm fingerprint c₁
    exact ⟨hsame.trans hwrite, hss'.trans hss⟩

/-- The state in which a STUN message is handled: it is known whether the client sends
fingerprints. -/
def Ctx.received (nd : NetData) (c : Ctx) : Ctx :=
  c.enforceFingerprints (stunIsCommandMessageFullCheck nd.buf false c.ss.enforceFingerprints).2

lemma received_calm (nd : NetData) (c : Ctx) : Calm Session.unchecked p c (c.received nd) :=
  .of_session rfl rfl rfl

lemma received_frame (nd : NetData) (c : Ctx) : Frame p c (c.received nd) :=
  (received_calm nd c).checked.frame

lemma writeResponse_reply (fingerprint : Bool) (c : Ctx) :
    (writeResponse fingerprint c).reply = c.reply := by
  unfold writeResponse
  repeat' split
  all_goals rfl

lemma writeResponse_of_none {fingerprint : Bool} {c : Ctx} (h : c.reply.resp = none) :
    writeResponse fingerprint c = c := by
  unfold writeResponse
  rw [h]

lemma writeResponse_srv (fingerprint : Bool) (c : Ctx) :
    (writeResponse fingerprint c).srv = c.srv := by
  unfold writeResponse
  repeat' split
  all_goals rfl

lemma handleOldStunCommand_of_ne (cfg : Config) (env : Env) (nd : NetData) (cookie : ℕ) (c : Ctx)
    (hmethod : stunGetMethod nd.buf ≠ stunMethodBinding) :
    handleOldStunCommand cfg env nd cookie c = c.silent := by
  rw [handleOldStunCommand, if_pos (by simp [hmethod])]

/-- The client socket of the session is open and is not used by a web browser. -/
def Session.Listening (ss : Session) : Prop :=
  ∃ s, ss.clientSocket = some s ∧ (ss.toBeClosed || s.toBeClosed) = false ∧
    ¬ (s.appType = .httpClient ∨ s.appType = .httpsClient)

/-- What a packet is: something that is at most answered, ChannelData, or a STUN message. -/
lemma readClientConnection_cases (cfg : Config) (env : Env) (nd : NetData) (canResume : Bool)
    (c : Ctx) {r : Ctx} (hr : readClientConnection cfg env nd canResume c = r) :
    (Calm Session.kept Effect.Message c r ∧ (stunGetMethod nd.buf ≠ stunMethodBinding →
      r.reply.errCode = c.reply.errCode ∧ r.reply.resp = c.reply.resp ∧ r.srv = c.srv ∧
        (c.reply.resp = none → r.log = c.log))) ∨
    (∃ s chnum len, stunIsChannelMessage nd.buf (isStreamSocket s) = some (chnum, len) ∧
      r = writeToPeerchannel chnum len nd c) ∨
    (c.ss.Listening ∧
      (stunIsCommandMessageFullCheck nd.buf false c.ss.enforceFingerprints).1 = true ∧
      r = readCommand cfg env nd canResume (c.received nd)) := by
  subst hr
  unfold readClientConnection
  split
  · exact Or.inl ⟨.refl c, fun _ => ⟨rfl, rfl, rfl, fun _ => rfl⟩⟩
  next s hs =>
    split
    · exact Or.inl ⟨.refl c, fun _ => ⟨rfl, rfl, rfl, fun _ => rfl⟩⟩
    next hopen =>
    split
    · exact Or.inl ⟨.refl c, fun _ => ⟨rfl, rfl, rfl, fun _ => rfl⟩⟩
    next happ =>
    split
    · next chnum len hchannel =>
      split
      · exact Or.inl ⟨.refl c, fun _ => ⟨rfl, rfl, rfl, fun _ => rfl⟩⟩
      · exact Or.inr (Or.inl ⟨s.type, chnum, len, hchannel, rfl⟩)
    · simp only
      split
      next hfull => exact Or.inr (Or.inr ⟨⟨s, hs, by simpa using hopen, happ⟩, hfull, rfl⟩)
      · left
        rw [← Ctx.received]
        have henforce := (received_calm (p := Effect.Message) nd c).checked
        have hreply : (c.received nd).reply = c.reply := rfl
        have hsrv : (c.received nd).srv = c.srv := rfl
        have hlog : (c.received nd).log = c.log := rfl
        generalize c.received nd = c₁ at henforce hreply hsrv hlog
        rw [← hreply]
        have hother : Calm Session.kept Effect.Message c
            { c₁ with ss := readOther cfg env s nd c₁.ss } :=
          henforce.trans (.of_session rfl (readOther_kept cfg env s nd c₁.ss) rfl)
        split
        · split_ifs
          · refine ⟨(henforce.trans (handleOldStunCommand_calm cfg env nd _ c₁)).trans
              (writeResponse_calm false _).1, fun hmethod => ?_⟩
            rw [writeResponse_reply, writeResponse_srv,
              handleOldStunCommand_of_ne cfg env nd _ c₁ hmethod]
            refine ⟨rfl, rfl, hsrv, fun hnone => ?_⟩
            rw [writeResponse_of_none]
            · exact hlog
            · exact hnone
          · exact ⟨hother, fun _ => ⟨rfl, rfl, hsrv, fun _ => hlog⟩⟩
        · exact ⟨hother, fun _ => ⟨rfl, rfl, hsrv, fun _ => hlog⟩⟩

/-- A Send indication. -/
def IsSend (buf : List UInt8) : Prop :=
  stunIsIndication buf = true ∧ stunGetMethod buf = stunMethodSend
  deriving Decidable

/-- What a property of effects must include so that all effects of a packet have it. -/
structure Ctx.Admits (p : Effect → Prop) (cfg : Config) (env : Env) (nd : NetData)
    (canResume : Bool) (c : Ctx) : Prop where
  handler : ∀ e : Effect, e.OfHandler → p e
  check : ∀ (method : ℕ) (c₁ : Ctx), c₁.srv.ctime = c.srv.ctime →
    Frame p c₁ (checkStunAuth cfg env method (stunTidFromMessage nd.buf) canResume nd
      (stunAttrs nd.buf) c₁).2
  send : IsSend nd.buf →
    ∀ e, SendEffect cfg (stunTidFromMessage nd.buf) nd (stunAttrs nd.buf) c e → p e
  channel : ∀ s chnum len, stunIsChannelMessage nd.buf s = some (chnum, len) →
    ∀ e, ChannelEffect nd chnum len c e → p e

/-- The state in which the handler of a request is called, if it is. -/
def Ctx.admitted (cfg : Config) (env : Env) (nd : NetData) (canResume : Bool) (c : Ctx) : Ctx :=
  admitRequest cfg env (stunGetMethod nd.buf) (stunTidFromMessage nd.buf) canResume nd
    (stunAttrs nd.buf) (c.received nd)

lemma admitted_calm (cfg : Config) (env : Env) (nd : NetData) (canResume : Bool) (c : Ctx) :
    Calm Session.unchecked (fun _ => True) c (c.admitted cfg env nd canResume) :=
  (received_calm nd c).trans
    (admitRequest_calm _ fun _ _ => (checkStunAuth_frame _ fun _ => trivial).toFollows)

lemma admitted_frame (cfg : Config) (env : Env) (nd : NetData) (canResume : Bool) (c : Ctx) :
    Frame (fun _ => True) c (c.admitted cfg env nd canResume) :=
  (admitted_calm cfg env nd canResume c).checked.frame

lemma handleMessage_of_request (hrequest : stunIsRequest nd.buf = true) (c : Ctx) :
    handleMessage cfg env nd canResume (c.received nd) =
      if (c.admitted cfg env nd canResume).open = true then
        dispatch cfg env (stunGetMethod nd.buf) (stunTidFromMessage nd.buf) canResume nd
          (stunAttrs nd.buf) (c.admitted cfg env nd canResume)
      else c.admitted cfg env nd canResume := by
  rw [handleMessage, if_pos hrequest]
  rfl

/-- The packet is a request that may add permissions when its handler is called in state `c`. -/
def PacketGrants (cfg : Config) (c : Ctx) (buf : List UInt8) (addr : IoaAddr) : Prop :=
  stunIsRequest buf = true ∧ c.open = true ∧
    GrantsFor cfg (stunGetMethod buf) c.ss (stunTidFromMessage buf) (stunAttrs buf) addr

/-- The packet is a request that binds a channel when its handler is called in state `c`. -/
def PacketBinds (cfg : Config) (c : Ctx) (buf : List UInt8) (addr : IoaAddr) : Prop :=
  stunIsRequest buf = true ∧ c.open = true ∧
    BindsFor cfg (stunGetMethod buf) c.ss (stunTidFromMessage buf) (stunAttrs buf) addr

lemma handleMessage_step (c : Ctx) (hids : c.srv.IdsMatch) (hp : c.Admits p cfg env nd canResume) :
    TablesStep p cfg
      (PacketGrants cfg (admitRequest cfg env (stunGetMethod nd.buf) (stunTidFromMessage nd.buf)
        canResume nd (stunAttrs nd.buf) c) nd.buf)
      (PacketBinds cfg (admitRequest cfg env (stunGetMethod nd.buf) (stunTidFromMessage nd.buf)
        canResume nd (stunAttrs nd.buf) c) nd.buf) c (handleMessage cfg env nd canResume c) := by
  unfold handleMessage
  simp only
  split_ifs with hrequest hindication
  · exact (handleRequest_step c hids hp.handler hp.check).mono_grant
      (fun addr haddr => ⟨hrequest, haddr⟩) fun addr haddr => ⟨hrequest, haddr⟩
  · exact handleIndication_step c fun hsend => hp.send ⟨hindication, hsend⟩
  · refine Frame.step ?_
    exact Frame.of_reply rfl rfl rfl

lemma readClientConnection_step (c : Ctx) (hids : c.srv.IdsMatch)
    (hp : c.Admits p cfg env nd canResume) :
    TablesStep p cfg (PacketGrants cfg (c.admitted cfg env nd canResume) nd.buf)
      (PacketBinds cfg (c.admitted cfg env nd canResume) nd.buf) c
      (readClientConnection cfg env nd canResume c) := by
  have hmessage : ∀ e : Effect, e.Message → p e := fun e he => hp.handler e (Or.inr he)
  rcases readClientConnection_cases cfg env nd canResume c rfl with
    ⟨h, -⟩ | ⟨s, chnum, len, hchannel, h⟩ | ⟨-, -, h⟩
  · exact (h.frame.mono hmessage).step
  · rw [h]
    exact (writeToPeerchannel_calm c (hp.channel _ chnum len hchannel)).frame.step
  · rw [h]
    obtain ⟨hcalm, -⟩ := readCommand_calm cfg env nd canResume (c.received nd)
    refine (received_frame nd c).step_trans (TablesStep.trans_frame ?_ (hcalm.frame.mono hmessage))
    refine handleMessage_step (c.received nd) hids
      ⟨hp.handler, hp.check, fun hsend e he => hp.send hsend e ?_, fun s chnum len hs e he =>
        hp.channel s chnum len hs e ?_⟩
    · exact ⟨he.valid, he.permission, he.inet, he.sent⟩
    · exact ⟨he.valid, he.sent⟩

end Coturn
