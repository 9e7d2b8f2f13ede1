/-
# What a Refresh does to the relay sessions

A Refresh that is answered with a lifetime should set the expiration of the relay sessions that it
is for. When a ticket moves an allocation to another client connection, `handle_turn_refresh` takes
the families from the session of the request, which has no relay sockets, so nothing is refreshed.
-/
import Coturn.Server.Mobility
import Coturn.Server.RelayedAddresses

namespace Coturn

open ByteSeq List

variable {lifetime : UInt32} {buf : List UInt8}

variable {cfg : Config} {env : Env} {tid : List UInt8} {canResume : Bool} {nd : NetData}
  {attrs : List StunAttr} {c : Ctx}

/-! ## What a response means -/

/-- When the endpoint expires. -/
def Allocation.expires (a : Allocation) (family : ℕ) : UInt32 :=
  (a.getRelaySession family).expirationTime

/-- The relay sessions that a Refresh is for: those of the families that it names, or all that have
a socket. -/
def RefreshVars.appliesTo (v : RefreshVars) (a : Allocation) (family : ℕ) : Bool :=
  if v.af4 || v.af6 then (if family = 10 then v.af6 else v.af4)
  else (a.getRelaySocket family).isSome

/-- The lifetime, but at least one second. -/
def atLeastOne (lifetime : UInt32) : UInt32 := if lifetime < 1 then 1 else lifetime

/-- The relay sessions that it is for expire after the lifetime of the response, the others as
before. -/
def RefreshMeans (v : RefreshVars) (ctime lifetime : UInt32) (a a' : Allocation) : Prop :=
  ∀ family ∈ [2, 10], a'.expires family =
    if v.appliesTo a family then ctime + atLeastOne lifetime else a.expires family
  deriving Decidable

/-- The families that are refreshed, as the session of the request says. -/
def Session.refreshes (ss : Session) (v : RefreshVars) (family : ℕ) : Bool :=
  if ss.alloc.isValid && (v.af4 || v.af6) then (if family = 10 then v.af6 else v.af4)
  else if family = 10 then (refreshView ss).af6c else (refreshView ss).af4c

lemma refreshFamilies_expires (ctime lifetime : UInt32) (af4 af6 : Bool) (ss : Session)
    {family : ℕ} (hfamily : family ∈ [2, 10]) :
    (refreshFamilies ctime lifetime af4 af6 ss).alloc.expires family =
      if (if family = 10 then af6 else af4) then ctime + atLeastOne lifetime
      else ss.alloc.expires family := by
  rw [refreshFamilies]
  simp only [refreshRelayConnection, atLeastOne, Allocation.expires,
    Allocation.setAllocationLifetimeEv, Allocation.setRelaySession, Allocation.getRelaySession]
  rcases mem_pair.mp hfamily with rfl | rfl <;> cases af4 <;> cases af6 <;> rfl

/-- A Refresh means what it says when it reaches the relay sessions that it is for. -/
lemma refreshMeans_iff {v : RefreshVars} {ctime : UInt32} {a a' : Allocation} {ss : Session}
    (h : ∀ family ∈ [2, 10], a'.expires family = if ss.refreshes v family then ctime +
      atLeastOne lifetime else a.expires family) :
    RefreshMeans v ctime lifetime a a' ↔ ∀ family ∈ [2, 10],
      v.appliesTo a family = ss.refreshes v family ∨
        a.expires family = ctime + atLeastOne lifetime := by
  refine forall₂_congr fun family hfamily => ?_
  rw [h family hfamily]
  cases v.appliesTo a family <;> cases ss.refreshes v family <;> simp [eq_comm]

/-! ## The normal path -/

lemma handleTurnRefresh_own (hvalid : c.ss.alloc.isValid = true)
    (herr : (handleTurnRefresh cfg env tid canResume nd attrs c).reply.errCode = 0) :
    ∃ reply, handleTurnRefresh cfg env tid canResume nd attrs c =
      refreshValid cfg tid (readRefresh cfg (refreshView c.ss) attrs).val
        { c with reply := reply } := by
  rw [handleTurnRefresh] at herr ⊢
  simp only [Ctx.afterLoop, hvalid, Bool.not_true, Bool.false_and, Bool.false_eq_true, if_false,
    if_true] at herr ⊢
  split_ifs at herr ⊢ with hunknown hcode
  · exact absurd herr (by simp [Ctx.failCode])
  · exact absurd herr hcode
  · exact ⟨_, rfl⟩

lemma refreshValid_spec (htid : tid.length = 12) {v : RefreshVars}
    (hvalid : c.ss.alloc.isValid = true) (hbuf : (refreshValid cfg tid v c).reply.resp = some buf)
    (hlifetime : lifetimeOf buf = some lifetime) :
    ∀ family ∈ [2, 10], (refreshValid cfg tid v c).ss.alloc.expires family =
      if c.ss.refreshes v family then c.srv.ctime + atLeastOne lifetime
      else c.ss.alloc.expires family := by
  have hinit := stunInitCommand_wellFormed (stunMakeSuccessResponse stunMethodRefresh) htid
  -- the ticket, if there is one, is no lifetime
  have hticket : Extends {attrLifetime}ᶜ (stunInitSuccessResponse stunMethodRefresh tid)
      (if c.ss.sMobileId ≠ [] then stunAttrAddIgnore (stunInitSuccessResponse stunMethodRefresh tid)
        attrMobilityTicket c.ss.sMobileId else stunInitSuccessResponse stunMethodRefresh tid) := by
    split_ifs
    · exact extends_addIgnore (by decide) (by decide) _ _
    · exact .refl _
  obtain ⟨⟨added, hmessage, hadded⟩, -⟩ := hticket [] hinit
  have hsame : lifetime = refreshLifetime cfg v c.ss := by
    obtain rfl := Option.some.inj hbuf
    exact lifetimeOf_add hmessage (by simpa using hadded) (.refl _) lifetime hlifetime
  intro family hfamily
  rw [hsame, Session.refreshes, hvalid, Bool.true_and]
  show (refreshFamilies c.srv.ctime (refreshLifetime cfg v c.ss)
    (if v.af4 || v.af6 then (v.af4, v.af6) else
      ((refreshView c.ss).af4c, (refreshView c.ss).af6c)).1
    (if v.af4 || v.af6 then (v.af4, v.af6) else
      ((refreshView c.ss).af4c, (refreshView c.ss).af6c)).2 c.ss).alloc.expires family = _
  rw [refreshFamilies_expires _ _ _ _ _ hfamily]
  split_ifs <;> simp_all

/-! ## The transfer -/

/-- Nothing for a client. -/
def Effect.Unsent : Effect → Prop
  | .toClient _ _ => False
  | _ => True

/-- No client gets anything. -/
def NothingSent (c c' : Ctx) : Prop := ∃ l, c'.log = c.log ++ l ∧ ∀ e ∈ l, e.Unsent

lemma NothingSent.of_log {c c' : Ctx} (h : c'.log = c.log) : NothingSent c c' :=
  ⟨[], by rw [h, append_nil], by simp⟩

lemma NothingSent.trans {c₁ c₂ c₃ : Ctx} (h₁ : NothingSent c₁ c₂) (h₂ : NothingSent c₂ c₃) :
    NothingSent c₁ c₃ := by
  obtain ⟨l₁, hlog₁, hl₁⟩ := h₁
  obtain ⟨l₂, hlog₂, hl₂⟩ := h₂
  refine ⟨l₁ ++ l₂, by rw [hlog₂, hlog₁, append_assoc], ?_⟩
  intro e he
  exact (mem_append.mp he).elim (hl₁ e) (hl₂ e)

lemma NothingSent.not_sent {c c' : Ctx} (h : NothingSent c c') {sent : List Effect}
    (hlog : c'.log = c.log ++ sent) (sid : ℕ) (buf : List UInt8) : .toClient sid buf ∉ sent := by
  obtain ⟨l, hl, hunsent⟩ := h
  obtain rfl : sent = l := append_cancel_left (hlog.symm.trans hl)
  exact fun hmem => hunsent _ hmem

lemma transferResponse_lifetime
    (hhmac : ∀ key covered, (cfg.hmac key covered).length = sha1SizeBytes) (htid : tid.length = 12)
    {messageIntegrity : Bool} {ss : Session}
    (h : transferResponse cfg tid lifetime messageIntegrity ss = some buf) :
    ∀ L ∈ lifetimeOf buf, L = lifetime := by
  refine lifetimeOf_add
    (stunInitCommand_wellFormed (stunMakeSuccessResponse stunMethodRefresh) htid) (by simp) ?_
  rw [transferResponse] at h
  simp only [stunInitSuccessResponse] at h
  generalize stunAttrAddIgnore _ attrLifetime _ = buf₀ at h ⊢
  have hticket : Extends {attrLifetime}ᶜ buf₀ (stunAttrAddIgnore buf₀ attrMobilityTicket
      ss.sMobileId) := extends_addIgnore (by decide) (by decide) _ _
  generalize stunAttrAddIgnore buf₀ attrMobilityTicket ss.sMobileId = buf₁ at h hticket
  have hsoftware : Extends {attrLifetime}ᶜ buf₁ (maybeAddSoftwareAttribute cfg buf₁) := by
    rw [maybeAddSoftwareAttribute]
    split_ifs
    · exact extends_addIgnore (by decide) (by decide) _ _
    · exact .refl _
  generalize maybeAddSoftwareAttribute cfg buf₁ = buf₂ at h hsoftware
  have hintegrity : Extends {attrLifetime}ᶜ buf₂
      (if messageIntegrity then stunAttrAddIntegrity cfg.hmac buf₂ ss.hmackey else buf₂) := by
    split_ifs
    · exact extends_addIntegrity hhmac (by decide) _ _
    · exact .refl _
  generalize (if messageIntegrity then stunAttrAddIntegrity cfg.hmac buf₂ ss.hmackey else buf₂) =
    buf₃ at h hintegrity
  have hfingerprint : Extends {attrLifetime}ᶜ buf₃ buf := by
    split_ifs at h
    · have hadd : Extends {attrLifetime}ᶜ buf₃ _ := extends_addFingerprint (by decide) buf₃
      rwa [h] at hadd
    · obtain rfl := Option.some.inj h
      exact .refl _
  exact ((hticket.trans hsoftware).trans hintegrity).trans hfingerprint

lemma refreshEffects_unsent (sid : ℕ) (af4 af6 : Bool) :
    ∀ e ∈ refreshEffects sid af4 af6, e.Unsent := by
  intro e he
  rcases mem_append.mp he with he | he <;> split_ifs at he
  · exact mem_singleton.mp he ▸ trivial
  · exact absurd he not_mem_nil
  · exact mem_singleton.mp he ▸ trivial
  · exact absurd he not_mem_nil

/-- A transfer that gets to its end writes the response and refreshes the allocation. -/
lemma transferSession_spec (v : RefreshVars) (view : RefreshView) (orig : Session) (c : Ctx) :
    NothingSent c (transferSession cfg env tid v view orig c) ∨
      ∃ buf o messageIntegrity,
        transferResponse cfg tid (refreshLifetime cfg v c.ss) messageIntegrity o = some buf ∧
        (transferSession cfg env tid v view orig c).log =
          c.log ++ refreshEffects orig.id view.af4c view.af6c ++ [.toClient orig.id buf] ∧
        (transferSession cfg env tid v view orig c).srv.sessionsMap orig.id = some o ∧
        o.alloc = (refreshFamilies c.srv.ctime (refreshLifetime cfg v c.ss) view.af4c view.af6c
          orig).alloc := by
  have hid : (refreshFamilies c.srv.ctime (refreshLifetime cfg v c.ss) view.af4c view.af6c
      orig).id = orig.id := rfl
  simp only [transferSession]
  by_cases hbad : ((view.af4c || view.af6c) && !orig.alloc.isValid) = true
  · rw [if_pos hbad]
    exact Or.inl (.of_log rfl)
  rw [if_neg hbad]
  generalize refreshFamilies c.srv.ctime (refreshLifetime cfg v c.ss) view.af4c view.af6c orig = o
    at hid ⊢
  -- the socket is detached without an effect
  obtain ⟨l, hlog, hl⟩ := (detachClientSocket_calm (p := fun _ => False) env
    { c with
      srv := c.srv.putSession o
      log := c.log ++ refreshEffects o.id view.af4c view.af6c }).log
  obtain rfl : l = [] := eq_nil_iff_forall_not_mem.mpr hl
  have hunsent := refreshEffects_unsent o.id view.af4c view.af6c
  rcases hd : detachClientSocket env _ with ⟨_ | s, c₁⟩ <;> rw [hd] at hlog <;>
    rw [append_nil] at hlog
  · exact Or.inl ⟨_, hlog, hunsent⟩
  · simp only
    split_ifs
    · exact Or.inl ⟨_, hlog, hunsent⟩
    · obtain ⟨srv, o₁, ss, -, ho₁, -, hdone⟩ := transferDone_eq cfg env tid v.mid
        (refreshLifetime cfg v c.ss) { o with clientSocket := some s }
        { c₁ with
          srv := c₁.srv.putSession { o with clientSocket := some s }
          ss := { c₁.ss with toBeClosed := true } }
      rw [hdone]
      split
      · exact Or.inl ⟨_, hlog, hunsent⟩
      · next buf hbuf =>
        obtain ⟨hsame, halloc⟩ := Session.same_of_tenancy ho₁
        have hid₁ : o₁.id = orig.id := hsame.trans hid
        refine Or.inr ⟨buf, o₁, _, hbuf, ?_, ?_, ?_⟩
        · show c₁.log ++ [.toClient o₁.id buf] = _
          rw [hlog, hid₁, ← hid]
        · rw [putSession_sessionsMap, if_pos hid₁.symm]
        · exact halloc

/-- The state in which the request of a transfer has been checked. -/
def Ctx.transferChecked (cfg : Config) (env : Env) (tid : List UInt8) (canResume : Bool)
    (nd : NetData) (attrs : List StunAttr) (orig : Session) (c : Ctx) : Ctx :=
  (checkStunAuth cfg env stunMethodRefresh tid canResume nd attrs (c.forTransfer cfg orig)).2

lemma transferChecked_frame {p : Effect → Prop} (hp : ∀ a, p (.authCheck a)) (orig : Session) :
    Ctx.Frame p c (c.transferChecked cfg env tid canResume nd attrs orig) :=
  ((transferCandidate_calm cfg orig c).trans (checkStunAuth_calm _ fun _ => hp _)).checked.frame

lemma transferChecked_unsent (orig : Session) :
    NothingSent c (c.transferChecked cfg env tid canResume nd attrs orig) :=
  (transferChecked_frame (fun _ => trivial) orig : Ctx.Frame Effect.Unsent c _).log

lemma refreshTransfer_transfers (v : RefreshVars) (c : Ctx) :
    NothingSent c (refreshTransfer cfg env tid canResume nd attrs v c) ∨
      ∃ orig, getSessionFromMobileMap cfg c.srv v.mid = some orig ∧
        refreshTransfer cfg env tid canResume nd attrs v c =
          transferSession cfg env tid v (refreshView c.ss) orig
            (c.transferChecked cfg env tid canResume nd attrs orig) := by
  rw [refreshTransfer]
  split
  · exact Or.inl (.of_log rfl)
  · next orig horig =>
    split_ifs
    · exact Or.inl (.of_log rfl)
    · exact Or.inl (.of_log rfl)
    · exact Or.inl (.of_log rfl)
    · exact Or.inl (.of_log rfl)
    · exact Or.inl (.of_log rfl)
    · -- the check of the request writes nothing to the client
      have hcheck : NothingSent c (c.transferChecked cfg env tid canResume nd attrs orig) :=
        transferChecked_unsent orig
      unfold Ctx.transferChecked at hcheck ⊢
      rcases hr : checkStunAuth cfg env stunMethodRefresh tid canResume nd attrs
        (c.forTransfer cfg orig) with ⟨postponed, c₁⟩
      rw [hr] at hcheck
      simp only
      split_ifs
      · exact Or.inl hcheck
      · exact Or.inl hcheck
      · exact Or.inr ⟨orig, horig, by rw [hr]⟩

/-- The state after the attributes of a Refresh have been read. -/
def Ctx.refreshRead (cfg : Config) (attrs : List StunAttr) (c : Ctx) : Ctx :=
  c.afterLoop (readRefresh cfg (refreshView c.ss) attrs)

/-- A Refresh without a valid allocation: nothing is written to a client, or the session of the
ticket is moved. -/
lemma handleTurnRefresh_transfers (hinvalid : c.ss.alloc.isValid = false) :
    NothingSent c (handleTurnRefresh cfg env tid canResume nd attrs c) ∨
      ∃ orig, getSessionFromMobileMap cfg c.srv
          (readRefresh cfg (refreshView c.ss) attrs).val.mid = some orig ∧
        handleTurnRefresh cfg env tid canResume nd attrs c =
          transferSession cfg env tid (readRefresh cfg (refreshView c.ss) attrs).val
            (refreshView c.ss) orig
            ((c.refreshRead cfg attrs).transferChecked cfg env tid canResume nd attrs orig) := by
  rw [handleTurnRefresh]
  by_cases hmobility : (!c.ss.alloc.isValid && !cfg.mobility) = true
  · rw [if_pos hmobility]
    exact Or.inl (.of_log rfl)
  rw [if_neg hmobility]
  simp only [Ctx.refreshRead]
  generalize readRefresh cfg (refreshView c.ss) attrs = r
  split_ifs with _ _ hvalid
  · exact Or.inl (.of_log rfl)
  · exact Or.inl (.of_log rfl)
  · exact absurd (hinvalid.symm.trans hvalid) (by simp)
  · exact Or.inl (.of_log rfl)
  · exact Or.inl (refreshElsewhere_calm (p := Effect.Unsent) (fun _ _ _ => trivial) env _ nd _).log
  · exact refreshTransfer_transfers _ _

/-! ## Both paths -/

def refreshVars (cfg : Config) (attrs : List StunAttr) (ss : Session) : RefreshVars :=
  (readRefresh cfg (refreshView ss) attrs).val

/-- A success: the answer, and the session of the allocation before and after. -/
inductive RefreshAnswered (cfg : Config) (attrs : List StunAttr) (c c' : Ctx) :
    Session → Session → List UInt8 → Prop
  /-- The normal path: the answer is left to the caller, and the session is that of the request. -/
  | own {buf : List UInt8} (hvalid : c.ss.alloc.isValid = true) (herr : c'.reply.errCode = 0)
      (hbuf : c'.reply.resp = some buf) : RefreshAnswered cfg attrs c c' c.ss c'.ss buf
  /-- The hand-over: the answer is written to the client, and the session is that of the ticket. -/
  | moved {orig after : Session} {buf : List UInt8} {sent : List Effect}
      (hinvalid : c.ss.alloc.isValid = false)
      (horig : getSessionFromMobileMap cfg c.srv (refreshVars cfg attrs c.ss).mid = some orig)
      (hlog : c'.log = c.log ++ sent) (hsent : Effect.toClient orig.id buf ∈ sent)
      (hafter : c'.srv.sessionsMap orig.id = some after) :
      RefreshAnswered cfg attrs c c' orig after buf

lemma RefreshAnswered.transfer (hinvalid : c.ss.alloc.isValid = false) {before after : Session}
    (h : RefreshAnswered cfg attrs c (handleTurnRefresh cfg env tid canResume nd attrs c) before
      after buf) :
    ∃ l c₁ messageIntegrity,
      c₁ = (c.refreshRead cfg attrs).transferChecked cfg env tid canResume nd attrs before ∧
      c₁.log = c.log ++ l ∧
      (∀ e ∈ l, e.Unsent ∧ ∀ sid family, e ≠ .allocationRefreshed sid family) ∧
      (handleTurnRefresh cfg env tid canResume nd attrs c).log =
        c₁.log ++ refreshEffects before.id (refreshView c.ss).af4c (refreshView c.ss).af6c ++
          [.toClient before.id buf] ∧
      transferResponse cfg tid (refreshLifetime cfg (refreshVars cfg attrs c.ss) c₁.ss)
        messageIntegrity after = some buf ∧
      after.alloc = (refreshFamilies c.srv.ctime
        (refreshLifetime cfg (refreshVars cfg attrs c.ss) c₁.ss)
        (refreshView c.ss).af4c (refreshView c.ss).af6c before).alloc := by
  cases h with
  | own hvalid => exact absurd (hinvalid.symm.trans hvalid) (by decide)
  | @moved _ _ _ sent _ horig hlog hsent hafter =>
    have htransfers := @handleTurnRefresh_transfers cfg env tid canResume nd attrs c hinvalid
    generalize handleTurnRefresh cfg env tid canResume nd attrs c = c' at htransfers hlog hafter ⊢
    rcases htransfers with hnothing | ⟨orig, horig', rfl⟩
    · exact absurd hsent (hnothing.not_sent hlog _ _)
    obtain rfl : before = orig := Option.mem_unique horig horig'
    have hchecked : Ctx.Frame
        (fun e => e.Unsent ∧ ∀ sid family, e ≠ .allocationRefreshed sid family)
        (c.refreshRead cfg attrs)
        ((c.refreshRead cfg attrs).transferChecked cfg env tid canResume nd attrs before) :=
      transferChecked_frame (fun _ => ⟨trivial, nofun⟩) before
    generalize (c.refreshRead cfg attrs).transferChecked cfg env tid canResume nd attrs before = c₁
      at hchecked hlog hafter ⊢
    obtain ⟨l, hlog₁, hl⟩ := hchecked.log
    have hlog₁ : c₁.log = c.log ++ l := hlog₁
    have hctime : c₁.srv.ctime = c.srv.ctime := congrArg (·.2.1) hchecked.fixed
    rcases transferSession_spec _ _ before c₁ with hnothing |
      ⟨buf', o, messageIntegrity, hresponse, hlog', ho, halloc⟩
    · exact absurd hsent ((NothingSent.trans ⟨l, hlog₁, fun e he => (hl e he).1⟩ hnothing).not_sent
        hlog _ _)
    -- the only message that is written is the response
    have hsent' : sent = (l ++ refreshEffects before.id (refreshView c.ss).af4c
        (refreshView c.ss).af6c) ++ [.toClient before.id buf'] := by
      refine (append_right_inj c.log).mp ?_
      rw [← hlog, hlog', hlog₁, append_assoc, append_assoc, append_assoc]
    obtain rfl : buf = buf' := by
      rw [hsent'] at hsent
      rcases mem_append.mp hsent with hin | hin
      · exact absurd ((mem_append.mp hin).elim (fun hin => (hl _ hin).1)
          (refreshEffects_unsent _ _ _ _)) id
      · cases mem_singleton.mp hin
        rfl
    obtain rfl : after = o := Option.mem_unique hafter ho
    exact ⟨l, c₁, messageIntegrity, rfl, hlog₁, hl, hlog', hresponse, hctime ▸ halloc⟩

/-- The relay sessions that the request selects get the lifetime of the answer. -/
lemma RefreshAnswered.expires (hhmac : ∀ key covered, (cfg.hmac key covered).length = sha1SizeBytes)
    (htid : tid.length = 12) {before after : Session}
    (h : RefreshAnswered cfg attrs c (handleTurnRefresh cfg env tid canResume nd attrs c) before
      after buf)
    (hlifetime : lifetimeOf buf = some lifetime) :
    ∀ family ∈ [2, 10], after.alloc.expires family =
      if c.ss.refreshes (refreshVars cfg attrs c.ss) family then
        c.srv.ctime + atLeastOne lifetime
      else before.alloc.expires family := by
  cases hvalid : c.ss.alloc.isValid with
  | true =>
    cases h with
    | own _ herr hbuf =>
      obtain ⟨reply, heq⟩ := handleTurnRefresh_own hvalid herr
      rw [heq] at hbuf ⊢
      exact refreshValid_spec htid hvalid hbuf hlifetime
    | moved hinvalid => exact absurd (hvalid.symm.trans hinvalid) (by decide)
  | false =>
    obtain ⟨l, c₁, _, -, -, -, -, hresponse, halloc⟩ := h.transfer hvalid
    obtain rfl := transferResponse_lifetime hhmac htid hresponse lifetime hlifetime
    intro family hfamily
    rw [Allocation.expires, halloc]
    refine (refreshFamilies_expires _ _ _ _ before hfamily).trans ?_
    rw [Session.refreshes, hvalid, Bool.false_and, if_neg Bool.false_ne_true]

/-- A Refresh that is answered with success means what it says exactly when the families that it
refreshes are those that it is for, or those that it misses expire at that time already. -/
theorem refresh_means_iff (cfg : Config)
    (hhmac : ∀ key covered, (cfg.hmac key covered).length = sha1SizeBytes) (env : Env)
    (tid : List.Vector UInt8 12) (canResume : Bool) (nd : NetData) (attrs : List StunAttr) (c : Ctx)
    (before after : Session) (buf : List UInt8) (lifetime : UInt32)
    (h : RefreshAnswered cfg attrs c (handleTurnRefresh cfg env tid.toList canResume nd attrs c)
      before after buf)
    (hlifetime : lifetimeOf buf = some lifetime) :
    RefreshMeans (refreshVars cfg attrs c.ss) c.srv.ctime lifetime before.alloc after.alloc ↔
      ∀ family ∈ [2, 10],
        (refreshVars cfg attrs c.ss).appliesTo before.alloc family =
            c.ss.refreshes (refreshVars cfg attrs c.ss) family ∨
          before.alloc.expires family = c.srv.ctime + atLeastOne lifetime :=
  refreshMeans_iff (h.expires hhmac tid.toList_length hlifetime)

def allocatedEarlier : Server :=
  (connected.step (plainInput
    (.clientInput 1 plainAllocate true))).step
    (plainInput (.tick 1100))

def refreshAttrs : List StunAttr :=
  stunAttrs (clientRequest stunMethodRefresh [(attrLifetime, [0, 0, 3, 132])]).buf

def ownRefresh (srv : Server) (ss : Session) : Ctx :=
  handleTurnRefresh plainParams plainEnv clientTid true
    (clientRequest stunMethodRefresh [(attrLifetime, [0, 0, 3, 132])]) refreshAttrs
    ⟨srv, ss, .init, []⟩

/-- A Refresh on the normal path, which is answered with the lifetime that it asked for. -/
theorem refresh_means_own :
    ∃ ss ∈ allocatedEarlier.sessionsMap 1, ss.alloc.expires 2 = 1600 ∧
      RefreshMeans (refreshVars plainParams refreshAttrs ss) 1100 900 ss.alloc
        (ownRefresh allocatedEarlier ss).ss.alloc := by
  generalize hsrv : allocatedEarlier = srv
  obtain ⟨ss, hss, hctime, hvalid, hexpires, herr, ⟨buf, hbuf, hlifetime⟩, hsame⟩ :
      ∃ ss ∈ srv.sessionsMap 1, srv.ctime = 1100 ∧ ss.alloc.isValid = true ∧ ss.alloc.expires 2 = 1600 ∧
      (ownRefresh srv ss).reply.errCode = 0 ∧
      (∃ buf ∈ (ownRefresh srv ss).reply.resp, lifetimeOf buf = some 900) ∧
      ∀ family ∈ [2, 10],
        (refreshVars plainParams refreshAttrs ss).appliesTo ss.alloc family =
          ss.refreshes (refreshVars plainParams refreshAttrs ss) family := by
    subst hsrv
    decide +kernel
  refine ⟨ss, hss, hexpires, ?_⟩
  rw [← hctime]
  exact (refresh_means_iff _ (fun _ _ => length_replicate) _ ⟨clientTid, rfl⟩ _ _ _
    ⟨srv, ss, .init, []⟩ _ _ buf 900 (.own hvalid herr hbuf) hlifetime).mpr
    fun family hfamily => Or.inl (hsame family hfamily)

/-- A client that comes back with its ticket is told 600 seconds, but its relay session still
expires after 500. -/
theorem refresh_of_ticket_keeps_expiration :
    ∃ srv, srv = servedNorth (mobileAllocated north ++ [⟨mobileParams, .mobile 2, .tick 1100⟩]) ∧
      ∃ before ∈ srv.sessionsMap 1, ∃ after ∈ (srv.step
          (refreshWithTicket (asciiBytes "ann") north [1])).sessionsMap 1,
        ∃ buf ∈ messagesTo 1 (srv.handle
            (refreshWithTicket (asciiBytes "ann") north [1])).2,
          stunGetMsgType buf = stunMakeSuccessResponse stunMethodRefresh ∧
          lifetimeOf buf = some 600 ∧ after.alloc.isValid = true ∧ after.alloc.expires 2 = 1600 ∧
          ∃ q ∈ srv.packet (refreshWithTicket (asciiBytes "ann") north [1]),
            q.2.2.srv.ctime = 1100 ∧
            ¬ RefreshMeans (refreshVars mobileParams (stunAttrs q.1.buf) q.2.2.ss) 1100 600
              before.alloc after.alloc := by
  refine ⟨_, rfl, ?_⟩
  decide +kernel

end Coturn
