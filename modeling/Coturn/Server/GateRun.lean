/-
# The authentication gate in every run

With long-term credentials, whatever a client may gain only when it has authenticated itself it gains
while a request is handled that has passed the check. The report of the check comes before it in
the list of what was done, and without such a report no allocation has gained anything.
-/
import Coturn.Allocation.Contents
import Coturn.Server.Expiry

namespace Coturn

open Ctx List

variable {ss : Session}

variable {srv srv' : Server} {i : Input} {c : Ctx} {cfg : Config} {env : Env}

/-! ## Allocations that gain nothing -/

/-- The allocation has not become valid, no lifetime has been changed, and there is no new
permission, channel or connection. -/
structure Allocation.GainsNothing (a a' : Allocation) : Prop where
  valid : a'.isValid = true → a.isValid = true
  lifetime : ∀ family,
    (a'.getRelaySession family).expirationTime = (a.getRelaySession family).expirationTime
  perm : ∀ r x, a'.permAt r = some x → a.permAt r = some x
  ch : ∀ r x, a'.chAt r = some x → a.chAt r = some x
  connecting : ∀ tc, some tc ∈ a'.tcs → tc.state = .clientToPeerConnecting → some tc ∈ a.tcs
  bound : ∀ tc' s, some tc' ∈ a'.tcs → tc'.clientS = some s →
    ∃ tc, some tc ∈ a.tcs ∧ tc.handle = tc'.handle ∧ tc.clientS = some s

namespace Allocation.GainsNothing

variable {a a' a'' : Allocation}

lemma refl (a : Allocation) : a.GainsNothing a where
  valid := id
  lifetime _ := rfl
  perm _ _ := id
  ch _ _ := id
  connecting _ h _ := h
  bound tc _ h hs := ⟨tc, h, rfl, hs⟩

lemma of_eq (h : a' = a) : a.GainsNothing a' := by
  rw [h]
  exact refl a

lemma trans (h : a.GainsNothing a') (h' : a'.GainsNothing a'') : a.GainsNothing a'' where
  valid hvalid := h.valid (h'.valid hvalid)
  lifetime family := (h'.lifetime family).trans (h.lifetime family)
  perm r x hx := h.perm r x (h'.perm r x hx)
  ch r x hx := h.ch r x (h'.ch r x hx)
  connecting tc htc hstate := h.connecting tc (h'.connecting tc htc hstate) hstate
  bound tc' s htc' hs := by
    obtain ⟨tc₁, htc₁, hhandle₁, hs₁⟩ := h'.bound tc' s htc' hs
    obtain ⟨tc, htc, hhandle, hs'⟩ := h.bound tc₁ s htc₁ hs₁
    exact ⟨tc, htc, hhandle.trans hhandle₁, hs'⟩

lemma of_tcs {tcs : List (Option TcpConnection)}
    (hconnecting : ∀ tc, some tc ∈ tcs → tc.state = .clientToPeerConnecting → some tc ∈ a.tcs)
    (hbound : ∀ tc' s, some tc' ∈ tcs → tc'.clientS = some s →
      ∃ tc, some tc ∈ a.tcs ∧ tc.handle = tc'.handle ∧ tc.clientS = some s) :
    a.GainsNothing { a with tcs := tcs } :=
  ⟨id, fun _ => rfl, fun _ _ => id, fun _ _ => id, hconnecting, hbound⟩

lemma clearTcs (a : Allocation) (p : TcpConnection → Bool) :
    a.GainsNothing { a with tcs := Coturn.clearTcs p a.tcs } := by
  have hmem : ∀ tc, some tc ∈ Coturn.clearTcs p a.tcs → some tc ∈ a.tcs := by
    intro tc htc
    obtain ⟨tc', htc', heq⟩ := mem_map.mp htc
    obtain ⟨rfl, -⟩ := Option.filter_eq_some_iff.mp heq
    exact htc'
  exact of_tcs (fun tc htc _ => hmem tc htc) fun tc s htc hs => ⟨tc, hmem tc htc, rfl, hs⟩

lemma setRelaySession (a : Allocation) (family : ℕ) {r : RelayEndpointSession}
    (hr : r.expirationTime = (a.getRelaySession family).expirationTime) :
    a.GainsNothing (a.setRelaySession family r) := by
  unfold Allocation.setRelaySession Allocation.getRelaySession at *
  split_ifs at hr ⊢
  all_goals refine ⟨id, fun other => ?_, fun _ _ => id, fun _ _ => id, fun _ h _ => h,
    fun tc _ h hs => ⟨tc, h, rfl, hs⟩⟩
  all_goals
    simp only [Allocation.getRelaySession]
    split_ifs
    · first | exact hr | rfl
    · first | exact hr | rfl

lemma addToTcs (a : Allocation) {tc : TcpConnection} (hstate : tc.state ≠ .clientToPeerConnecting)
    (hclient : tc.clientS = none) : a.GainsNothing { a with tcs := Coturn.addToTcs tc a.tcs } := by
  have hmem : ∀ (tcs : List (Option TcpConnection)) tc', some tc' ∈ Coturn.addToTcs tc tcs →
      tc' = tc ∨ some tc' ∈ tcs := by
    intro tcs tc' htc'
    induction tcs with
    | nil => exact Or.inl (Option.some.inj (mem_singleton.mp htc'))
    | cons o tcs ih =>
      cases o with
      | none =>
        rcases mem_cons.mp htc' with heq | hold
        · exact Or.inl (Option.some.inj heq)
        · exact Or.inr (mem_cons_of_mem _ hold)
      | some otc =>
        rcases mem_cons.mp htc' with heq | hold
        · exact Or.inr (heq ▸ mem_cons_self)
        · exact (ih hold).imp_right (mem_cons_of_mem _)
  refine of_tcs (fun tc' htc' hconnecting => ?_) fun tc' s htc' hs => ?_
  · rcases hmem a.tcs tc' htc' with rfl | hold
    · exact absurd hconnecting hstate
    · exact hold
  · rcases hmem a.tcs tc' htc' with rfl | hold
    · rw [hclient] at hs
      exact absurd hs (by simp)
    · exact ⟨tc', hold, rfl, hs⟩

lemma modifyTc (ss : Session) (handle : ℕ) {state : TcState}
    (hstate : state ≠ .clientToPeerConnecting) :
    ss.alloc.GainsNothing (ss.modifyTc handle fun tc => { tc with state := state }).alloc := by
  have hmem : ∀ tc', some tc' ∈ (ss.modifyTc handle fun tc => { tc with state := state }).alloc.tcs →
      ∃ tc, some tc ∈ ss.alloc.tcs ∧ (tc' = tc ∨ tc' = { tc with state := state }) := by
    intro tc' htc'
    obtain ⟨o, ho, heq⟩ := mem_map.mp htc'
    obtain ⟨tc, rfl, rfl⟩ := Option.map_eq_some_iff.mp heq
    refine ⟨tc, ho, ?_⟩
    split_ifs
    · exact Or.inr rfl
    · exact Or.inl rfl
  refine of_tcs (fun tc' htc' hconnecting => ?_) fun tc' s htc' hs => ?_
  · obtain ⟨tc, htc, rfl | rfl⟩ := hmem tc' htc'
    · exact htc
    · exact absurd hconnecting hstate
  · obtain ⟨tc, htc, rfl | rfl⟩ := hmem tc' htc'
    · exact ⟨tc', htc, rfl, hs⟩
    · exact ⟨tc, htc, rfl, hs⟩

end Allocation.GainsNothing

lemma loseRelaySocket_gainsNothing (family : ℕ) (a : Allocation) :
    a.GainsNothing (loseRelaySocket family a) := .setRelaySession a family rfl

lemma AddrTables.Removes.gains_nothing {S : PermPtr → Prop} {T : ChPtr → Prop} {a a' : AddrTables}
    (h : a.Removes S T a') :
    (∀ r x, a'.permAt r = some x → a.permAt r = some x) ∧
      ∀ r x, a'.chAt r = some x → a.chAt r = some x := by
  refine ⟨fun r x hx => ?_, fun r x hx => ?_⟩
  · obtain ⟨info', hr, rfl⟩ := AddrTables.exists_livePerm_of_permAt hx
    obtain ⟨-, chns, hold⟩ := h.perm r info' hr
    exact hold.permAt_eq
  · obtain ⟨chn, hr, rfl⟩ := AddrTables.exists_liveCh_of_chAt hx
    exact ((h.ch r chn).mp hr).1.chAt_eq

lemma sweepSession_gainsNothing {ctime : UInt32} (hsound : ss.alloc.relay.Sound) :
    ss.alloc.GainsNothing (sweepSession ctime ss).alloc := by
  have hremoves : ss.alloc.Removes (ss.alloc.OverduePerm ctime) (ss.alloc.OverdueCh ctime)
      (sweepSession ctime ss).alloc.toAddrTables := sweepSession_removes hsound
  obtain ⟨hperm, hch⟩ := hremoves.gains_nothing
  have hrest : (sweepSession ctime ss).alloc.isValid = ss.alloc.isValid ∧
      (sweepSession ctime ss).alloc.relayIpv4 = ss.alloc.relayIpv4 ∧
      (sweepSession ctime ss).alloc.relayIpv6 = ss.alloc.relayIpv6 ∧
      (sweepSession ctime ss).alloc.tcs = ss.alloc.tcs := by
    unfold sweepSession
    split_ifs <;> exact ⟨rfl, rfl, rfl, rfl⟩
  obtain ⟨hvalid, h4, h6, htcs⟩ := hrest
  refine ⟨fun h => hvalid ▸ h, fun family => ?_, hperm, hch, fun tc htc _ => htcs ▸ htc,
    fun tc s htc hs => ⟨tc, htcs ▸ htc, rfl, hs⟩⟩
  rw [Allocation.getRelaySession, Allocation.getRelaySession, h4, h6]

/-! ## Servers that gain nothing -/

/-- No session has gained anything, and a session that was not there has nothing. -/
def Server.GainsNothing (srv srv' : Server) : Prop :=
  ∀ sid ss', srv'.sessionsMap sid = some ss' → ss'.alloc = initAllocation ∨
    ∃ ss, srv.sessionsMap sid = some ss ∧ ss.alloc.GainsNothing ss'.alloc

/-- Sessions may have been closed, and no session has gained anything. -/
def Server.Loses (srv srv' : Server) : Prop :=
  ∀ sid ss', srv'.sessionsMap sid = some ss' →
    ∃ ss, srv.sessionsMap sid = some ss ∧ ss.alloc.GainsNothing ss'.alloc

variable {sid : ℕ}

namespace Server.Loses

lemma refl (srv : Server) : srv.Loses srv := fun _ ss hss => ⟨ss, hss, .refl _⟩

lemma of_sessions (h : srv'.sessionsMap = srv.sessionsMap) : srv.Loses srv' :=
  fun _ ss hss => ⟨ss, h ▸ hss, .refl _⟩

lemma trans {srv'' : Server} (h : srv.Loses srv') (h' : srv'.Loses srv'') : srv.Loses srv'' := by
  intro sid ss'' hss''
  obtain ⟨ss', hss', hgain'⟩ := h' sid ss'' hss''
  obtain ⟨ss, hss, hgain⟩ := h sid ss' hss'
  exact ⟨ss, hss, hgain.trans hgain'⟩

lemma gainsNothing (h : srv.Loses srv') : srv.GainsNothing srv' :=
  fun sid ss' hss' => Or.inr (h sid ss' hss')

lemma putSession {ss' : Session} (hss : srv.sessionsMap sid = some ss) (hid : ss'.id = sid)
    (hgain : ss.alloc.GainsNothing ss'.alloc) : srv.Loses (srv.putSession ss') := by
  intro other ss₁ hss₁
  rw [putSession_sessionsMap] at hss₁
  split_ifs at hss₁ with hother
  · obtain rfl := Option.some.inj hss₁
    exact ⟨ss, by rw [hother, hid, hss], hgain⟩
  · exact ⟨ss₁, hss₁, .refl _⟩

end Server.Loses

lemma Server.GainsNothing.trans_loses {srv'' : Server} (h : srv.GainsNothing srv')
    (h' : ∀ sid ss'', srv''.sessionsMap sid = some ss'' →
      ∃ ss', srv'.sessionsMap sid = some ss' ∧ ss''.alloc = ss'.alloc) : srv.GainsNothing srv'' := by
  intro sid ss'' hss''
  obtain ⟨ss', hss', halloc⟩ := h' sid ss'' hss''
  rw [halloc]
  exact h sid ss' hss'

lemma shutdownClientConnection_allocs (force : Bool) {ss'' : Session}
    (h : (shutdownClientConnection cfg force srv ss).sessionsMap sid = some ss'') :
    ∃ ss', (srv.putSession ss).sessionsMap sid = some ss' ∧ ss''.alloc = ss'.alloc := by
  obtain ⟨hid, halloc⟩ := Session.same_of_unchecked (decQuota_unchecked cfg srv.realms ss)
  unfold shutdownClientConnection at h
  simp only at h
  generalize decQuota cfg srv.realms ss = r at hid halloc h
  rw [putSession_sessionsMap]
  have hremove : ∀ mpTable, (removeSession { srv with realms := r.1, mpTable := mpTable }
      (decBps r.2)).sessionsMap sid = some ss'' →
      ∃ ss', (if sid = ss.id then some ss else srv.sessionsMap sid) = some ss' ∧
        ss''.alloc = ss'.alloc := by
    intro mpTable hremove
    rw [(removeSession_parts _ _).1] at hremove
    simp only at hremove
    split_ifs at hremove with hsid
    refine ⟨ss'', ?_, rfl⟩
    rw [if_neg (fun hne => hsid (hne.trans hid.symm))]
    exact hremove
  split_ifs at h
  · rw [putSession_sessionsMap] at h
    split_ifs at h with hsid
    · obtain rfl := Option.some.inj h
      exact ⟨ss, if_pos (hsid.trans hid), halloc⟩
    · exact ⟨ss'', by rw [if_neg (fun hne => hsid (hne.trans hid.symm))]; exact h, rfl⟩
  · exact hremove _ h
  · exact hremove srv.mpTable h

lemma shutdownClientConnection_loses (force : Bool) (hids : srv.IdsMatch)
    (hss : srv.sessionsMap sid = some ss) :
    srv.Loses (shutdownClientConnection cfg force srv ss) := by
  intro other ss'' hss''
  obtain ⟨ss', hss', halloc⟩ := shutdownClientConnection_allocs force hss''
  rw [putSession_of_some hss (hids sid ss hss)] at hss'
  exact ⟨ss', hss', .of_eq halloc⟩

lemma closeIfNecessary_allocs (hids : srv.IdsMatch) {other : ℕ} {ss'' : Session}
    (h : (closeIfNecessary cfg sid srv).sessionsMap other = some ss'') :
    ∃ ss', srv.sessionsMap other = some ss' ∧ ss''.alloc = ss'.alloc := by
  unfold closeIfNecessary at h
  split at h
  · exact ⟨ss'', h, rfl⟩
  next ss hss =>
  split_ifs at h
  · obtain ⟨ss', hss', halloc⟩ := shutdownClientConnection_allocs false h
    rw [putSession_of_some hss (hids sid ss hss)] at hss'
    exact ⟨ss', hss', halloc⟩
  · exact ⟨ss'', h, rfl⟩

lemma withSession_loses {f : Ctx → Ctx} (hids : srv.IdsMatch)
    (hf : ∀ ss, srv.sessionsMap sid = some ss →
      (f ⟨srv, ss, .init, []⟩).srv.sessionsMap = srv.sessionsMap ∧
        (f ⟨srv, ss, .init, []⟩).ss.id = ss.id ∧
        ss.alloc.GainsNothing (f ⟨srv, ss, .init, []⟩).ss.alloc) :
    srv.Loses (withSession srv sid f).1 := by
  cases hss : srv.sessionsMap sid with
  | none =>
    rw [withSession_of_none f hss]
    exact .refl srv
  | some ss =>
    obtain ⟨hmap, hid, hgain⟩ := hf ss hss
    rw [withSession_of_some f hss]
    rw [← hmap] at hss
    exact (Server.Loses.of_sessions hmap).trans
      (.putSession hss (hid.trans (hids sid ss (hmap ▸ hss))) hgain)

lemma setAllocationFamilyInvalid_gainsNothing (family : ℕ) (srv : Server) (ss : Session) :
    ss.alloc.GainsNothing (setAllocationFamilyInvalid family srv ss).2.alloc := by
  have hclear := Allocation.GainsNothing.clearTcs ss.alloc fun tc => tc.peerFamily = some family
  unfold setAllocationFamilyInvalid
  simp only
  generalize clearTcs (fun tc => tc.peerFamily = some family) ss.alloc.tcs = tcs at hclear ⊢
  refine hclear.trans (.setRelaySession _ family ?_)
  simp only [Allocation.getRelaySession]

lemma allocationTimeout_loses (sid family : ℕ) (hids : srv.IdsMatch) :
    srv.Loses (allocationTimeout cfg sid family srv) := by
  unfold allocationTimeout
  split
  · exact .refl srv
  next ss hss =>
  split
  · exact .refl srv
  next s hs =>
  simp only
  generalize hr : expireRelay cfg sid family s srv ss = r
  have hparts : r.1.sessionsMap = srv.sessionsMap ∧ r.2.id = ss.id ∧
      ss.alloc.GainsNothing r.2.alloc := by
    rw [← hr, expireRelay]
    split_ifs
    · refine ⟨?_, rfl, .setRelaySession ss.alloc family rfl⟩
      simp only [mpDeregisterSessionPeers]
    · exact ⟨rfl, rfl, setAllocationFamilyInvalid_gainsNothing s.family srv ss⟩
  obtain ⟨hmap, hid, hgain⟩ := hparts
  have hput : srv.Loses (r.1.putSession r.2) :=
    (Server.Loses.of_sessions hmap).trans
      (.putSession (by rw [hmap, hss]) (hid.trans (hids sid ss hss)) hgain)
  split_ifs
  · intro other ss'' hss''
    obtain ⟨ss', hss', halloc⟩ := shutdownClientConnection_allocs false hss''
    rw [halloc]
    exact hput other ss' hss'
  · exact hput

/-! ## Events -/

/-- Not sensitive, and no check. -/
def Effect.Quiet (e : Effect) : Prop := ¬ e.Sensitive ∧ ¬ e.IsCheck

lemma Effect.Message.quiet {e : Effect} (he : e.Message) : e.Quiet := by
  refine ⟨he.not_sensitive, ?_⟩
  rintro ⟨a, rfl⟩
  exact he

lemma tcpConnectCompleted_loses (handle : ℕ) (success : Bool) (c : Ctx) :
    (tcpConnectCompleted cfg env handle success c).srv.sessionsMap = c.srv.sessionsMap ∧
      (tcpConnectCompleted cfg env handle success c).ss.id = c.ss.id ∧
      c.ss.alloc.GainsNothing (tcpConnectCompleted cfg env handle success c).ss.alloc := by
  unfold tcpConnectCompleted
  split
  · exact ⟨rfl, rfl, .refl _⟩
  simp only
  split_ifs
  all_goals first
    | exact ⟨rfl, rfl, .refl _⟩
    | exact ⟨rfl, rfl, .modifyTc c.ss handle (by decide)⟩
    | exact ⟨rfl, rfl, .clearTcs c.ss.alloc _⟩

lemma tcpPeerAccept_loses (peerAddr : IoaAddr) (c : Ctx) :
    (tcpPeerAccept cfg env peerAddr c).srv.sessionsMap = c.srv.sessionsMap ∧
      (tcpPeerAccept cfg env peerAddr c).ss.id = c.ss.id ∧
      c.ss.alloc.GainsNothing (tcpPeerAccept cfg env peerAddr c).ss.alloc := by
  have hstate : (if env.registerCallback = true then TcState.peerConnected else TcState.unknown) ≠
      .clientToPeerConnecting := by split_ifs <;> decide
  unfold tcpPeerAccept
  simp only
  generalize (if env.registerCallback = true then TcState.peerConnected else TcState.unknown) =
    state at hstate ⊢
  split_ifs
  all_goals first
    | exact ⟨rfl, rfl, .refl _⟩
    | exact ⟨rfl, rfl, .addToTcs c.ss.alloc hstate rfl⟩

lemma createNewSs_gainsNothing (s : IoaSocket) :
    srv.GainsNothing (createNewSs cfg env s srv).2 := by
  obtain ⟨ss, -, -, halloc, hmap, -⟩ := createNewSs_parts cfg env s srv
  intro sid ss' hss'
  rw [hmap] at hss'
  split_ifs at hss'
  · exact Or.inl (Option.some.inj hss' ▸ halloc)
  · exact Or.inr ⟨ss', hss', .refl _⟩

/-- The message whose handling may be authenticated. -/
def Server.message (srv : Server) (i : Input) : Option NetData :=
  match i.ev with
  | .acceptTcpClientData _ _ _ _ nd => some nd
  | _ => (srv.packet i).map Prod.fst

lemma Server.WellFormed.handle_quiet (h : srv.WellFormed) (hnone : srv.message i = none) :
    srv.GainsNothing (srv.step i) ∧ ∀ e ∈ (srv.handle i).2, e.Quiet := by
  have hids := h.numbered.ids
  obtain ⟨cfg, env, ev⟩ := i
  by_cases hreads : ev.Reads
  · have hpacket : srv.packet ⟨cfg, env, ev⟩ = none := by
      cases ev <;> first | exact Option.map_eq_none_iff.mp hnone | exact hreads.elim
    obtain ⟨pending, hhandle⟩ := handle_of_no_packet h.numbered hreads hpacket
    rw [Server.step, hhandle]
    exact ⟨(Server.Loses.of_sessions rfl).gainsNothing, by simp⟩
  unfold Server.step
  cases ev with
  | openSession s nd canResume =>
    cases nd with
    | none => exact ⟨createNewSs_gainsNothing s, by simp [Server.handle, openClientConnectionSession]⟩
    | some nd => exact absurd trivial hreads
  | clientInput sid nd canResume => exact absurd trivial hreads
  | resume n answer => exact absurd trivial hreads
  | peerInput sid family nd =>
    have hframe : ∀ ss, Frame Effect.Quiet ⟨srv, ss, .init, []⟩
        (if isMultiplexPeerUdpRelay cfg (ss.alloc.getRelaySocket family) &&
            srv.mpTable.get nd.srcAddr ≠ some sid then ⟨srv, ss, .init, []⟩
          else peerInputHandler cfg env family nd ⟨srv, ss, .init, []⟩) := by
      intro ss
      split_ifs
      · exact Frame.refl _
      · refine (peerInputHandler_calm cfg env family nd _ fun buf _ _ => ⟨fun h => h, ?_⟩).frame
        rintro ⟨a, ha⟩
        exact absurd ha (by simp)
    refine ⟨Server.Loses.gainsNothing (withSession_loses hids fun ss _ => ?_),
      fun e he => (withSession_same hids fun ss _ => (hframe ss).tablesFrame.keep).2 e he⟩
    exact ⟨(hframe ss).sessions, (hframe ss).sid, .of_eq (hframe ss).alloc⟩
  | tick ctime =>
    refine ⟨Server.Loses.gainsNothing fun sid ss' hss' => ?_, by simp [Server.handle]⟩
    obtain ⟨ss, hss, rfl⟩ := Option.map_eq_some_iff.mp hss'
    exact ⟨ss, hss, sweepSession_gainsNothing (h.sound sid _ (view_sessions_of_some hss))⟩
  | allocationTimeout sid family =>
    exact ⟨(allocationTimeout_loses sid family hids).gainsNothing, by simp [Server.handle]⟩
  | toBeAllocatedTimeout sid =>
    refine ⟨Server.Loses.gainsNothing ?_, by simp [Server.handle]⟩
    simp only [Server.handle, clientToBeAllocatedTimeout]
    cases hss : srv.sessionsMap sid with
    | none => exact .refl srv
    | some ss =>
      simp only
      split_ifs
      · exact shutdownClientConnection_loses true hids hss
      · exact .refl srv
  | cancelSession sid =>
    refine ⟨Server.Loses.gainsNothing ?_, by simp [Server.handle]⟩
    simp only [Server.handle]
    cases hss : srv.sessionsMap sid with
    | none => exact .refl srv
    | some ss => exact shutdownClientConnection_loses false hids hss
  | clientSocketLost sid =>
    refine ⟨(withSession_loses hids fun ss _ => ⟨rfl, rfl, .refl _⟩).gainsNothing,
      fun e he => (withSession_same hids fun ss _ => TablesFrame.keep ?_).2 e he⟩
    exact TablesFrame.of_session rfl rfl rfl
  | relaySocketLost sid family =>
    refine ⟨(withSession_loses hids fun ss _ =>
        ⟨rfl, rfl, loseRelaySocket_gainsNothing family ss.alloc⟩).gainsNothing,
      fun e he => (withSession_same hids fun ss _ => TablesFrame.keep ?_).2 e he⟩
    exact TablesFrame.of_session rfl (Prod.ext rfl (loseRelaySocket_relay family ss.alloc)) rfl
  | tcpConnectCompleted sid handle success =>
    exact ⟨(withSession_loses hids fun ss _ => tcpConnectCompleted_loses handle success _).gainsNothing,
      fun e he => ((withSession_same hids fun ss _ =>
        (tcpConnectCompleted_frame cfg env handle success _).keep).2 e he).quiet⟩
  | tcpConnectionClosed sid handle =>
    refine ⟨(withSession_loses hids fun ss _ => ?_).gainsNothing,
      fun e he => (withSession_same hids fun ss _ =>
        (tcpConnectionClosed_frame handle _).keep).2 e he⟩
    unfold tcpConnectionClosed
    split
    · exact ⟨rfl, rfl, .refl _⟩
    · exact ⟨rfl, rfl, .clearTcs ss.alloc _⟩
  | tcpPeerAccept sid peerAddr =>
    exact ⟨(withSession_loses hids fun ss _ => tcpPeerAccept_loses peerAddr _).gainsNothing,
      fun e he => ((withSession_same hids fun ss _ =>
        (tcpPeerAccept_frame cfg env peerAddr _).keep).2 e he).quiet⟩
  | acceptTcpClientData tcid tid s messageIntegrity nd => cases hnone

/-! ## Messages -/

/-- What needs authentication comes after the report of a passed check. -/
def CheckedFirst (log : List Effect) : Prop :=
  ∀ l e l', log = l ++ e :: l' → e.Sensitive → ∃ a, Effect.authCheck a ∈ l ∧ a.Passed

lemma checkedFirst_of_quiet {log : List Effect} (h : ∀ e ∈ log, ¬ e.Sensitive) :
    CheckedFirst log := by
  rintro l e l' rfl hsensitive
  exact absurd hsensitive (h e (by simp))

/-- What comes before the first gain comes before all of them. -/
lemma checkedFirst_append {l l' : List Effect} (hl : ∀ e ∈ l, ¬ e.Sensitive)
    (hcheck : ∃ a, Effect.authCheck a ∈ l ∧ a.Passed) : CheckedFirst (l ++ l') := by
  intro l₁ e l₂ heq hsensitive
  obtain ⟨a, ha, hpassed⟩ := hcheck
  refine ⟨a, ?_, hpassed⟩
  rcases append_eq_append_iff.mp heq with ⟨m, hm, -⟩ | ⟨m, hm, hm'⟩
  · rw [hm]
    exact mem_append_left _ ha
  · cases m with
    | nil =>
      rw [append_nil] at hm
      exact hm ▸ ha
    | cons x m =>
      -- the gain would be among the effects before it
      obtain ⟨rfl, -⟩ := List.cons.inj hm'
      exact absurd hsensitive (hl e (by simp [hm]))

lemma CheckedFirst.append_quiet {log l : List Effect} (h : CheckedFirst log)
    (hl : ∀ e ∈ l, ¬ e.Sensitive) : CheckedFirst (log ++ l) := by
  intro l₁ e l₂ heq hsensitive
  rcases append_eq_append_iff.mp heq with ⟨m, -, hm⟩ | ⟨m, hm, hm'⟩
  · exact absurd hsensitive (hl e (by simp [hm]))
  · cases m with
    | nil =>
      have he : e ∈ l := by
        rw [← nil_append l, ← hm']
        exact mem_cons_self
      exact absurd hsensitive (hl e he)
    | cons x m =>
      obtain ⟨rfl, -⟩ := List.cons.inj hm'
      exact h l₁ e m hm hsensitive

lemma Ctx.Gated.checkedFirst {c' : Ctx} (h : Gated c c') (hlog : c.log = []) :
    CheckedFirst c'.log ∧ (c'.Cleared ∨ Keeps (fun e => ¬ e.Sensitive) c c') := by
  have hquiet : ∀ {m : Ctx}, Keeps (fun e => ¬ e.Sensitive) c m → ∀ e ∈ m.log, ¬ e.Sensitive := by
    intro m hm e he
    rcases hm.mem he with he | he
    · rw [hlog] at he
      exact absurd he not_mem_nil
    · exact he
  rcases h with h | ⟨m, hm, hcleared, hafter⟩
  · exact ⟨checkedFirst_of_quiet (hquiet h), Or.inr h⟩
  · obtain ⟨l, hl, -⟩ := hafter.log
    obtain ⟨a, ha, hpassed⟩ := hcleared
    refine ⟨?_, Or.inl ⟨a, hafter.log_mono ha, hpassed⟩⟩
    rw [hl]
    exact checkedFirst_append (hquiet hm) ⟨a, ha, hpassed⟩

lemma admits_checkSound (cfg : Config) (env : Env) (nd : NetData) (canResume : Bool) (c : Ctx) :
    c.Admits (Effect.CheckSound cfg c.srv.ctime nd.buf) cfg env nd canResume where
  handler _ := Effect.OfHandler.checkSound
  check method c₁ hctime := by
    rw [← hctime]
    exact checkStunAuth_sound c₁
  send _ e he := by
    obtain ⟨data, relayS, owner, -, -, -, rfl⟩ := he.sent
    rintro a ha
    exact absurd ha (by simp)
  channel s chnum len _ e he := by
    obtain ⟨r, chn, relayS, -, -, -, rfl⟩ := he.sent
    rintro a ha
    exact absurd ha (by simp)

lemma packet_sessions (hnum : srv.Numbered) {nd : NetData} {canResume : Bool}
    (h : srv.packet i = some (nd, canResume, c)) :
    (∀ sid, sid ≠ c.ss.id → c.srv.sessionsMap sid = srv.sessionsMap sid) ∧
      (c.ss.alloc = initAllocation ∨
        ∃ ss, srv.sessionsMap c.ss.id = some ss ∧ c.ss.alloc = ss.alloc) := by
  obtain ⟨cfg, env, ev⟩ := i
  cases packet_of h with
  | @opened s nd canResume ss hss =>
    obtain ⟨ss', hsid, hid, halloc, hmap, -⟩ := createNewSs_parts cfg env s srv
    obtain rfl : ss' = ss := by
      rw [hsid, ← hid, hmap, if_pos rfl] at hss
      exact Option.some.inj hss
    exact ⟨fun sid hne => (hmap sid).trans (if_neg hne), Or.inl halloc⟩
  | @input sid nd canResume ss hss =>
    exact ⟨fun _ _ => rfl, Or.inr ⟨ss, hnum.ids sid ss hss ▸ hss, rfl⟩⟩
  | @resumed n answer l ss hl hss hsocket =>
    cases answer with
    | none => exact ⟨fun _ _ => rfl, Or.inr ⟨ss, hnum.ids l.sid ss hss ▸ hss, rfl⟩⟩
    | some k =>
      obtain ⟨hid, halloc⟩ := Session.same_of_unchecked (acceptKey_unchecked cfg k srv.realms ss)
      refine ⟨fun _ _ => rfl, Or.inr ⟨ss, ?_, halloc⟩⟩
      simp only [Option.elim, Ctx.account]
      rw [hid, hnum.ids l.sid ss hss]
      exact hss

/-- What needs a check has passed one. -/
structure Server.AuthGate (srv : Server) (i : Input) : Prop where
  /-- What needs authentication is done after a check in the same handling that was passed. -/
  effects : CheckedFirst (srv.handle i).2
  /-- Without such a check no allocation gains anything. -/
  state : (∃ a, Effect.authCheck a ∈ (srv.handle i).2 ∧ a.Passed) ∨ srv.GainsNothing (srv.step i)
  /-- The message that has passed carries the nonce and user name of the session and a valid HMAC.
  -/
  sound : ∀ a, Effect.authCheck a ∈ (srv.handle i).2 → a.Passed →
    ∃ nd, srv.message i = some nd ∧ Authentic i.cfg srv.ctime nd.buf a.ss

lemma Server.WellFormed.authGate_packet (h : srv.WellFormed) (hct : i.cfg.ct = .longTerm)
    {nd : NetData} {canResume : Bool} (hpacket : srv.packet i = some (nd, canResume, c)) :
    srv.AuthGate i := by
  have hstate := packet_state h.numbered hpacket
  obtain ⟨hother, hown⟩ := packet_sessions h.numbered hpacket
  obtain ⟨hlog, ss', hss', hend⟩ := handle_packet h.numbered hpacket
  have hgated : c.Gated (readClientConnection i.cfg i.env nd canResume c) :=
    readClientConnection_gated hct c hstate.numbered.ids
  have hsound := (readClientConnection_step c hstate.numbered.ids
    (admits_checkSound i.cfg i.env nd canResume c)).toFollows
  generalize readClientConnection i.cfg i.env nd canResume c = c' at hlog hss' hend hgated hsound
  obtain ⟨hfirst, hcases⟩ := hgated.checkedFirst hstate.log
  have hmessage : srv.message i = some nd := by
    unfold Server.message
    split
    · next heq => simp [Server.packet, heq] at hpacket
    · rw [hpacket]
      rfl
  refine ⟨hlog ▸ hfirst, ?_, fun a ha hpassed => ⟨nd, hmessage, ?_⟩⟩
  · rw [hlog]
    refine hcases.imp_right fun hkeeps => ?_
    have hid : ss'.id = c.ss.id := by
      rw [← hkeeps.sid]
      rcases hss' with rfl | rfl <;> rfl
    have halloc : ss'.alloc = c.ss.alloc := by
      rw [← hkeeps.alloc]
      rcases hss' with rfl | rfl <;> rfl
    have hput : srv.GainsNothing (c'.srv.putSession ss') := by
      intro sid ss₁ hss₁
      rw [putSession_sessionsMap, hid] at hss₁
      split_ifs at hss₁ with hsid
      · obtain rfl := Option.some.inj hss₁
        rw [halloc]
        refine hown.imp_right ?_
        rintro ⟨ss, hss, heq⟩
        exact ⟨ss, by rw [hsid, hss], .of_eq heq⟩
      · rw [hkeeps.sessions, hother sid hsid] at hss₁
        exact Or.inr ⟨ss₁, hss₁, .refl _⟩
    have hids : (c'.srv.putSession ss').IdsMatch := by
      intro sid ss₁ hss₁
      rw [putSession_sessionsMap] at hss₁
      split_ifs at hss₁ with hsid
      · rw [hsid, Option.some.inj hss₁]
      · rw [hkeeps.sessions] at hss₁
        exact hstate.numbered.ids sid ss₁ hss₁
    rw [Server.step]
    rcases hend with heq | heq <;> rw [heq]
    · exact hput
    · exact hput.trans_loses fun sid ss'' => closeIfNecessary_allocs hids
  · rw [hlog] at ha
    rcases hsound.mem ha with hold | hnew
    · rw [hstate.log] at hold
      exact absurd hold not_mem_nil
    · rw [← hstate.ctime]
      exact hnew a rfl hpassed

lemma authGate_accept (hids : srv.IdsMatch) (hct : cfg.ct = .longTerm) (tcid : UInt32)
    (tid : List UInt8) (s : IoaSocket) (messageIntegrity : Bool) (nd : NetData) :
    srv.AuthGate ⟨cfg, env, .acceptTcpClientData tcid tid s messageIntegrity nd⟩ := by
  have hhandle : srv.handle ⟨cfg, env, .acceptTcpClientData tcid tid s messageIntegrity nd⟩ =
      acceptTcpClientData cfg env tcid tid s messageIntegrity nd srv := rfl
  rcases acceptTcpClientData_cases cfg env tcid tid s messageIntegrity nd srv with
    ⟨r, hr, hsrv, hquiet⟩ | ⟨e, ss, tc, c, l, -, hss, -, -, -, hc, hl, heq⟩
  · rw [hr] at hhandle
    refine ⟨?_, Or.inr (Server.Loses.gainsNothing ?_), fun a ha _ => ?_⟩
    · rw [hhandle]
      exact checkedFirst_of_quiet fun e he => (hquiet e he).not_sensitive
    · rw [Server.step, hhandle]
      rcases hsrv with hsrv | hsrv <;> rw [hsrv]
      · exact .refl srv
      · exact .of_sessions rfl
    · rw [hhandle] at ha
      exact ((hquiet _ ha).quiet.2 ⟨a, rfl⟩).elim
  · rw [heq] at hhandle
    have hgated : Gated (.handed srv ss messageIntegrity) c := by
      rw [hc]
      exact bindDataConnection_gated hct tc s _
    have hsound : TablesFrame (Effect.CheckSound cfg srv.ctime nd.buf)
        (.handed srv ss messageIntegrity) c := by
      rw [hc]
      refine bindDataConnection_frame tc s _ (checkStunAuth_sound ⟨srv, ss, _, []⟩) ?_
      rintro a ha
      exact absurd ha (by simp)
    obtain ⟨hfirst, hcases⟩ := hgated.checkedFirst rfl
    refine ⟨?_, ?_, fun a ha hpassed => ⟨nd, rfl, ?_⟩⟩
    · rw [hhandle]
      exact hfirst.append_quiet fun e he => (hl e he).not_sensitive
    · rw [hhandle]
      refine hcases.imp ?_ fun hkeeps => ?_
      · rintro ⟨a, ha, hpassed⟩
        exact ⟨a, mem_append_left _ ha, hpassed⟩
      · rw [Server.step, hhandle]
        refine (Server.Loses.trans ?_ (.of_sessions rfl)).gainsNothing
        have hmap : c.srv.sessionsMap = srv.sessionsMap := hkeeps.sessions
        rw [← hmap] at hss
        exact (Server.Loses.of_sessions hmap).trans
          (.putSession hss (hkeeps.sid.trans (hids e.1 ss (hmap ▸ hss))) (.of_eq hkeeps.alloc))
    · rw [hhandle] at ha
      rcases mem_append.mp ha with ha | ha
      · rcases hsound.mem ha with hold | hnew
        · exact absurd hold not_mem_nil
        · exact hnew a rfl hpassed
      · exact ((hl _ ha).quiet.2 ⟨a, rfl⟩).elim

/-- With long-term credentials, whatever needs authentication is done after a passed check in the
same handling, and a passed check means the nonce, the user name and a valid HMAC. -/
theorem authentication_gate (id : UInt8) (ctime : UInt32) (realms : RealmTable) (is : List Input)
    (i : Input) (hct : i.cfg.ct = .longTerm) :
    (Machine.run Server.step (initServer id ctime realms) is).AuthGate i := by
  have h : (Machine.run Server.step (initServer id ctime realms) is).WellFormed :=
    (wellFormed_init id ctime realms).run is
  generalize Machine.run Server.step (initServer id ctime realms) is = srv at h
  rcases hpacket : srv.packet i with _ | ⟨nd, canResume, c⟩
  · obtain ⟨cfg, env, ev⟩ := i
    cases hmessage : srv.message ⟨cfg, env, ev⟩ with
    | none =>
      obtain ⟨hgain, hquiet⟩ := h.handle_quiet hmessage
      refine ⟨checkedFirst_of_quiet fun e he => (hquiet e he).1, Or.inr hgain, fun a ha _ => ?_⟩
      exact ((hquiet _ ha).2 ⟨a, rfl⟩).elim
    | some nd =>
      cases ev with
      | acceptTcpClientData tcid tid s messageIntegrity nd =>
        exact authGate_accept h.numbered.ids hct tcid tid s messageIntegrity nd
      | _ => simp [Server.message, hpacket] at hmessage
  · exact h.authGate_packet hct hpacket

instance (e : Effect) : Decidable e.Sensitive :=
  match e with
  | .allocationCreated _ | .allocationRefreshed _ _ | .permissionUpdated _ _
  | .channelUpdated _ _ _ | .connectStarted _ _ | .dataConnectionBound _ _ => isTrue trivial
  | .authCheck _ | .toClient _ _ | .relayToClient _ _ _ | .toPeer _ _ _ _ _ | .sendTo _ _ _
  | .toSocket _ _ | .socketToRelay _ _ _ => isFalse id

/-- A client is challenged and sends its credentials, and its request waits for the key. -/
def waitsForKey (realm : List UInt8) : List Input :=
  [.openSession udpClient none false,
    .clientInput 1 plainAllocate true,
    .clientInput 1 (clientRequest stunMethodAllocate
      (udpTransportAttr :: credentialAttrs (asciiBytes "ann") realm [1])) true].map
        fun ev => ⟨longTermParams keyAsMac, plainEnv, ev⟩

theorem authentication_gate_waitsForKey :
    ∃ srv i, srv = servedNorth (waitsForKey north) ∧
      i = ⟨longTermParams keyAsMac, plainEnv, .resume 0 (some (plainKey [1]))⟩ ∧
      (∃ e ∈ (Server.handle srv i).2, e.Sensitive) ∧ srv.AuthGate i :=
  ⟨_, _, rfl, rfl, by decide +kernel, authentication_gate 0 1000 _ _ _ rfl⟩

end Coturn
