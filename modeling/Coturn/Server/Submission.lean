/-
# Submitting a request

What a client gets done by sending a request: the request is checked, and when the key of the user
is not known it waits and is checked again with the answer to the lookup. A check that is noted
was made before the handler of the request is called, and a request that is rejected or waits is not
handled.
-/
import Coturn.Server.IntegrityScope

namespace Coturn

open Ctx List Option

variable {e : Effect} {l : PendingLookup}

/-- The check of a request waits for the key of the user. -/
def Effect.isPostponed : Effect → Bool
  | .authCheck a => a.postponed
  | _ => false

/-- The check of a request has ended with an error code. -/
def Effect.isRejected : Effect → Bool
  | .authCheck a => a.errCode != 0
  | _ => false

lemma isCheck_of_rejected (h : e.isRejected = true) : e.IsCheck := by
  cases e with
  | authCheck a => exact ⟨a, rfl⟩
  | _ => exact Bool.noConfusion h

lemma isCheck_of_postponed (h : e.isPostponed = true) : e.IsCheck := by
  cases e with
  | authCheck a => exact ⟨a, rfl⟩
  | _ => exact Bool.noConfusion h

/-- What the server does with a packet, and with the answer to the lookup when the packet has to
wait for one. -/
def Server.submit (srv : Server) (cfg : Config) (env : Env) (sid : ℕ) (nd : NetData)
    (answer : Option KeyAnswer) : Server × List Effect :=
  let r := srv.handle ⟨cfg, env, .clientInput sid nd true⟩
  if r.2.any Effect.isPostponed then
    let r' := r.1.handle ⟨cfg, env, .resume srv.pending.length answer⟩
    (r'.1, r.2 ++ r'.2)
  else r

lemma Ctx.Follows.log_eq {c c' : Ctx} (h : Follows (fun _ => False) c c') : c'.log = c.log := by
  obtain ⟨l, hlog, hl⟩ := h.log
  rw [hlog, List.eq_nil_iff_forall_not_mem.mpr hl, List.append_nil]

/-! ## The stages of a request -/

section Stages

variable {cfg : Config} {env : Env} {method : ℕ} {tid : List UInt8} {canResume : Bool}
  {nd : NetData} {attrs : List StunAttr} {c : Ctx}

/-- What is done with a request when `check_stun_auth` has returned. -/
def afterCheck (method : ℕ) (r : Bool × Ctx) : Ctx :=
  let c := if r.1 then r.2.silent else r.2
  if c.reply.errCode = 0 ∧ c.reply.messageIntegrity = true ∧ method = stunMethodAllocate then
    { c with ss := { c.ss with originSet := true } }
  else c

lemma checkRequest_of_open (hopen : c.open = true) (hbind : method ≠ stunMethodConnectionBind)
    (hrefresh : cfg.mobility = true → method ≠ stunMethodRefresh) :
    checkRequest cfg env method tid canResume nd attrs c =
      afterCheck method (checkStunAuth cfg env method tid canResume nd attrs c) := by
  rw [checkRequest, if_neg (by simp [hopen, hbind]), if_neg fun h => hrefresh h.1 h.2.1]
  rfl

lemma checkRequest_of_not_open (hopen : c.open = false) :
    checkRequest cfg env method tid canResume nd attrs c = c := by
  rw [checkRequest, if_pos (by simp [hopen])]

lemma afterCheck_log (method : ℕ) (r : Bool × Ctx) : (afterCheck method r).log = r.2.log := by
  simp only [afterCheck]
  split_ifs <;> rfl

lemma afterCheck_srv (method : ℕ) (r : Bool × Ctx) : (afterCheck method r).srv = r.2.srv := by
  simp only [afterCheck]
  split_ifs <;> rfl

lemma afterCheck_of_rejected (method : ℕ) {r : Bool × Ctx} (h : r.2.reply.errCode ≠ 0) :
    (afterCheck method r).open = false ∧ (afterCheck method r).ss = r.2.ss := by
  obtain ⟨_ | _, c⟩ := r <;> simp [afterCheck, Ctx.open, h]

lemma afterCheck_of_postponed (method : ℕ) {c : Ctx} (h : c.reply.messageIntegrity = false) :
    (afterCheck method (true, c)).open = false ∧ (afterCheck method (true, c)).ss = c.ss := by
  simp [afterCheck, Ctx.open, h]

lemma checkStunAuth_noted {postponed : Bool} {m : Ctx} (hlog : c.log = [])
    (hcheck : checkStunAuth cfg env method tid canResume nd attrs c = (postponed, m)) :
    m.log.any Effect.isPostponed = postponed ∧
      (m.log.any Effect.isRejected = true → m.reply.errCode ≠ 0) := by
  by_cases hct : cfg.ct = .longTerm
  · rw [checkStunAuth_emits hct hcheck, hlog]
    simp [Effect.isPostponed, Effect.isRejected]
  · rw [checkStunAuth, if_pos (by simpa [needStunAuthentication] using hct)] at hcheck
    obtain ⟨rfl, rfl⟩ := Prod.mk.inj hcheck
    simp [hlog]

end Stages

/-! ## Packets -/

section Packets

variable {cfg : Config} {env : Env} {method : ℕ} {tid : List UInt8} {canResume : Bool}
  {nd : NetData} {attrs : List StunAttr} {c : Ctx}

lemma fullCheck_enforce (buf : List UInt8) (enforce enforce' : Bool) :
    (stunIsCommandMessageFullCheck buf false enforce).1 =
      (stunIsCommandMessageFullCheck buf false enforce').1 := by
  unfold stunIsCommandMessageFullCheck
  split_ifs
  · rfl
  · split
    · rfl
    · split_ifs <;> rfl

lemma readClientConnection_of_command (hlistening : c.ss.Listening)
    (hfull : (stunIsCommandMessageFullCheck nd.buf false false).1 = true) :
    readClientConnection cfg env nd canResume c =
      readCommand cfg env nd canResume (c.received nd) := by
  obtain ⟨s, hs, hclosed, happ⟩ := hlistening
  have hcommand := (fullCheck_cases hfull).1
  rw [fullCheck_enforce nd.buf false c.ss.enforceFingerprints] at hfull
  rw [readClientConnection, hs]
  simp only [hclosed, Bool.false_eq_true, if_false]
  rw [if_neg happ, stunIsChannelMessage_of_command hcommand]
  simp only
  rw [if_pos hfull]
  rfl

lemma readClientConnection_of_not_open (hlistening : c.ss.Listening)
    (hfull : (stunIsCommandMessageFullCheck nd.buf false false).1 = true)
    (hrequest : stunIsRequest nd.buf = true) {m r : Ctx}
    (hm : c.admitted cfg env nd canResume = m) (hopen : m.open = false)
    (hr : readClientConnection cfg env nd canResume c = r) :
    Calm Session.unchecked (fun _ => True) m r ∧ r.ss = m.ss ∧ r.srv = m.srv := by
  have hmessage : handleMessage cfg env nd canResume (c.received nd) = m := by
    rw [handleMessage_of_request hrequest, hm, if_neg (by simp [hopen])]
  obtain ⟨hcalm, hss⟩ := readCommand_calm cfg env nd canResume (c.received nd)
  have hsrv : (readCommand cfg env nd canResume (c.received nd)).srv =
      (handleMessage cfg env nd canResume (c.received nd)).srv := readCommand_srv nd canResume _
  rw [hmessage] at hcalm hss hsrv
  rw [readClientConnection_of_command hlistening hfull] at hr
  subst hr
  obtain ⟨l, hlog, -⟩ := hcalm.log
  exact ⟨⟨⟨l, hlog, fun _ _ => trivial⟩, by rw [hss], hcalm.books, hcalm.mp, hcalm.next⟩, hss, hsrv⟩

/-- A packet for which a check or something that needs one is noted is a STUN message. -/
lemma command_of_noted (hkind : e.IsCheck ∨ e.Sensitive)
    (he : e ∈ (readClientConnection cfg env nd canResume c).log) (hnew : e ∉ c.log) :
    c.ss.Listening ∧ (stunIsCommandMessageFullCheck nd.buf false false).1 = true := by
  have hmessage : ∀ {c' : Ctx}, Frame Effect.Message c c' → e ∉ c'.log := by
    intro c' h he
    rcases h.mem he with hold | hmessage
    · exact hnew hold
    · rcases hkind with ⟨a, rfl⟩ | hsensitive
      · exact hmessage
      · exact hmessage.not_sensitive hsensitive
  rcases readClientConnection_cases cfg env nd canResume c rfl with
    ⟨hcalm, -⟩ | ⟨s, chnum, len, -, hchannel⟩ | ⟨hlistening, hfull, -⟩
  · exact absurd he (hmessage hcalm.frame)
  · -- ChannelData is only relayed
    rw [hchannel] at he
    rcases (writeToPeerchannel_calm c fun _ h => h).frame.mem he with hold | heffect
    · exact absurd hold hnew
    · obtain ⟨r, chn, relayS, -, -, -, rfl⟩ := heffect.sent
      exact absurd hkind (by simp [Effect.IsCheck, Effect.Sensitive])
  · exact ⟨hlistening, (fullCheck_enforce nd.buf _ _).trans hfull⟩

lemma dispatch_checks (hvalid : c.ss.alloc.isValid = false)
    (htransfer : cfg.mobility = true → method ≠ stunMethodRefresh) (hcheck : e.IsCheck)
    (he : e ∈ (dispatch cfg env method tid canResume nd attrs c).log) : e ∈ c.log := by
  have hhandler : ¬ e.OfHandler := by
    obtain ⟨a, rfl⟩ := hcheck
    rintro (h | h) <;> exact h
  have hmessage : ¬ e.Message := fun h => hhandler (Or.inr h)
  unfold dispatch at he
  split at he
  · exact ((handleTurnAllocate_frame cfg env tid attrs c).1.mem he).resolve_right hhandler
  · simp only at he
    have hconnect := handleTurnConnect_frame cfg env tid attrs c
    split_ifs at he
    · exact (hconnect.mem he).resolve_right hhandler
    · exact (hconnect.mem he).resolve_right hhandler
  · exact ((handleTurnConnectionBind_calm cfg env tid nd attrs c).frame.mem he).resolve_right hmessage
  · -- without mobility there is no session to move
    have hmobility : cfg.mobility = false := by
      by_contra h
      exact htransfer (by simpa using h) rfl
    rw [handleTurnRefresh, if_pos (by simp [hvalid, hmobility])] at he
    exact he
  · exact ((handleTurnChannelBind_idle cfg tid attrs hvalid).mem he).resolve_right hhandler
  · exact ((handleTurnCreatePermission_idle cfg tid attrs hvalid).mem he).resolve_right hhandler
  · exact ((dispatchBinding_calm cfg env tid attrs c).frame.mem he).resolve_right hmessage
  · exact he

/-- A check that is noted for a packet is the check of a request, made before its handler is
called. -/
lemma check_of_noted (hlog : c.log = []) (hvalid : c.ss.alloc.isValid = false)
    (htransfer : cfg.mobility = true → stunGetMethod nd.buf ≠ stunMethodRefresh)
    {mark : Effect → Bool} (hmark : ∀ {e}, mark e = true → e.IsCheck)
    (h : (readClientConnection cfg env nd canResume c).log.any mark = true) :
    c.ss.Listening ∧ (stunIsCommandMessageFullCheck nd.buf false false).1 = true ∧
      stunIsRequest nd.buf = true ∧ (c.admitted cfg env nd canResume).log.any mark = true := by
  obtain ⟨e, he, hmarked⟩ := List.any_eq_true.mp h
  have hcheck : e.IsCheck := hmark hmarked
  obtain ⟨hlistening, hfull⟩ := command_of_noted (Or.inl hcheck) he (by simp [hlog])
  refine ⟨hlistening, hfull, ?_⟩
  rw [readClientConnection_of_command hlistening hfull] at he
  have hmessage : ¬ e.Message := by
    obtain ⟨a, rfl⟩ := hcheck
    exact id
  have hmem :=
    ((readCommand_calm cfg env nd canResume (c.received nd)).1.frame.mem he).resolve_right hmessage
  have hnew : e ∉ (c.received nd).log := by
    change e ∉ c.log
    simp [hlog]
  by_cases hrequest : stunIsRequest nd.buf = true
  · refine ⟨hrequest, List.any_eq_true.mpr ⟨e, ?_, hmarked⟩⟩
    rw [handleMessage_of_request hrequest] at hmem
    split_ifs at hmem
    · have halloc := (admitted_frame cfg env nd canResume c).alloc
      exact dispatch_checks (by rw [halloc]; exact hvalid) htransfer hcheck hmem
    · exact hmem
  · refine absurd hmem ?_
    rw [handleMessage, if_neg hrequest]
    split_ifs
    · intro hind
      rcases (handleIndication_unchecked _ _ _ (c.received nd)).mem hind with hold | hnot
      · exact hnew hold
      · exact hnot hcheck
    · exact hnew

lemma ne_connectionBind_of_noted (hlog : c.log = [])
    (he : e ∈ (c.admitted cfg env nd canResume).log) :
    stunGetMethod nd.buf ≠ stunMethodConnectionBind := by
  intro hmethod
  obtain ⟨reply, hadmitted⟩ := admitRequest_of_skips cfg env (stunTidFromMessage nd.buf)
    canResume nd
    (stunAttrs nd.buf) (c.received nd) (Or.inl hmethod)
  rw [Ctx.admitted, hadmitted] at he
  have hold : e ∈ c.log := he
  rw [hlog] at hold
  cases hold

end Packets

/-! ## The answer to a lookup -/

section Submit

variable {cfg : Config} {env : Env} {sid : ℕ} {nd : NetData} {answer : Option KeyAnswer}
  {srv : Server} {ss : Session}

lemma packet_clientInput (hss : srv.sessionsMap sid = some ss) :
    srv.packet ⟨cfg, env, .clientInput sid nd true⟩ = some (nd, true, ⟨srv, ss, .init, []⟩) := by
  simp only [Server.packet, hss, map_some]

/-- What the answer to the lookup of the key changes. -/
def keyed (cfg : Config) (answer : Option KeyAnswer) (c : Ctx) : Ctx :=
  answer.elim c fun k => c.account (acceptKey cfg k c.srv.realms c.ss)

/-- The state in which a packet that has waited for a key is handled again. -/
def restarted (pending : List PendingLookup) (c : Ctx) : Ctx :=
  ⟨{ c.srv.putSession c.ss with pending := pending }, c.ss, .init, []⟩

lemma packet_resumed {c : Ctx} (hid : l.sid = c.ss.id) {pending : List PendingLookup}
    (hpending : c.srv.pending = pending ++ [l]) (hsocket : c.ss.clientSocket.isSome = true) :
    (c.srv.putSession c.ss).packet ⟨cfg, env, .resume pending.length answer⟩ =
      some (l.nd, false, keyed cfg answer (restarted pending c)) := by
  have hlookup : (c.srv.putSession c.ss).pending[pending.length]? = some l := by
    change c.srv.pending[pending.length]? = some l
    rw [hpending, getElem?_append_right le_rfl, Nat.sub_self]
    rfl
  have herase : (c.srv.putSession c.ss).pending.eraseIdx pending.length = pending := by
    change c.srv.pending.eraseIdx pending.length = pending
    rw [hpending, eraseIdx_append_of_length_le le_rfl, Nat.sub_self]
    simp
  have hsession : (c.srv.putSession c.ss).sessionsMap l.sid = some c.ss := by
    rw [hid]
    exact if_pos rfl
  unfold Server.packet Server.unpend
  simp only [hlookup, herase, bind_some, hsession, filter_some, hsocket, if_true,
    map_some]
  rfl

lemma handle_of_unchecked (hnum : srv.Numbered) {i : Input} {canResume : Bool} {c c' : Ctx}
    (hpacket : srv.packet i = some (nd, canResume, c))
    (hread : readClientConnection i.cfg i.env nd canResume c = c') (hlistening : c.ss.Listening)
    (hsame : c'.ss.unchecked = c.ss.unchecked) :
    (srv.handle i).1 = c'.srv.putSession c'.ss := by
  obtain ⟨s, hs, hclosed, -⟩ := hlistening
  have hsocket : c'.ss.clientSocket = c.ss.clientSocket := congrArg (·.2.1) hsame
  have htobeclosed : c'.ss.toBeClosed = c.ss.toBeClosed := congrArg (·.2.2.1) hsame
  rw [Bool.or_eq_false_iff] at hclosed
  refine handle_packet_of_open hnum hpacket (Session.same_of_unchecked hsame).1 hread
    (htobeclosed.trans hclosed.1) ?_
  rw [hsocket, hs]
  exact hclosed.2

end Submit

end Coturn
