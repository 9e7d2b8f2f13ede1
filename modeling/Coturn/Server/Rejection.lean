/-
# Requests that are refused

A CreatePermission or ChannelBind request may be answered with an error code after its handler has
begun to change the tables: when one of several permissions cannot be added, and in multiplex-peer
mode when the endpoint of a peer belongs to another session.
-/
import Coturn.Allocation.Contents
import Coturn.Server.Multiplex

namespace Coturn

open Ctx

variable {srv : Server} {i : Input} {c : Ctx} {cfg : Config} {env : Env} {nd : NetData}
  {canResume : Bool} {tid : List UInt8} {attrs : List StunAttr}

/-! ## What the handlers do to the tables -/

lemma updatePeer_tables (cfg : Config) (peer : IoaAddr) (c : Ctx) :
    (updatePeer cfg peer c).ss.alloc.toAddrTables =
        (updatePermission (c.srv.clock cfg) c.ss.alloc.toAddrTables (addrSetPort 0 peer)).2 ∧
      (updatePeer cfg peer c).srv.clock cfg = c.srv.clock cfg := by
  simp only [updatePeer]
  generalize updatePermission (c.srv.clock cfg) c.ss.alloc.toAddrTables (addrSetPort 0 peer) = r
  split_ifs
  · exact ⟨rfl, rfl⟩
  · obtain ⟨hkeeps, hss⟩ := registerMultiplexPeer_keeps (p := fun _ => True) cfg peer
      ({ c with ss := c.ss.setTables r.2 }.emit (.permissionUpdated c.ss.id (addrSetPort 0 peer)))
    refine ⟨by rw [hss]; rfl, clock_eq hkeeps.toFollows cfg⟩

lemma foldl_updatePeer_tables (cfg : Config) (peers : List IoaAddr) (c : Ctx) :
    (peers.foldl (fun c peer => updatePeer cfg peer c) c).ss.alloc.toAddrTables =
      (createPermissions (c.srv.clock cfg) c.ss.alloc.toAddrTables peers).2 := by
  induction peers generalizing c with
  | nil => rfl
  | cons peer peers ih =>
    obtain ⟨htables, hclock⟩ := updatePeer_tables cfg peer c
    rw [List.foldl_cons, ih, htables, hclock]
    rfl

lemma handleTurnCreatePermission_tables (cfg : Config) (tid : List UInt8) (attrs : List StunAttr)
    (c : Ctx) :
    (handleTurnCreatePermission cfg tid attrs c).ss.alloc.toAddrTables =
      if AcceptsPeers cfg c.ss tid attrs then
        (createPermissions (c.srv.clock cfg) c.ss.alloc.toAddrTables (peerAddrs cfg tid attrs)).2
      else c.ss.alloc.toAddrTables := by
  simp only [handleTurnCreatePermission]
  split_ifs with hvalid hacc hunknown hacc herr hacc hfound hacc hok hacc hacc
  -- the handler gives up where the request is not acceptable
  · exact absurd hacc.1 (by simpa using hvalid)
  · rfl
  · exact absurd hacc.2.2.1 hunknown
  · rfl
  · exact absurd hacc.2.1 herr
  · rfl
  · exact absurd hacc.2.2.2 (by simpa using hfound)
  · rfl
  · exact foldl_updatePeer_tables cfg _ _
  · exact absurd ⟨by simpa using hvalid, not_not.mp herr, not_not.mp hunknown, by simpa using hfound⟩
      hacc
  · exact foldl_updatePeer_tables cfg _ _
  · exact absurd ⟨by simpa using hvalid, not_not.mp herr, not_not.mp hunknown, by simpa using hfound⟩
      hacc

/-- What a ChannelBind request does to the tables of its session, after it has read its
attributes. -/
def Session.bindResult (cfg : Config) (clk : ServerClock) (tid : List UInt8) (attrs : List StunAttr)
    (ss : Session) : Option TurnError × AddrTables :=
  let p := readChannelBind cfg ss.alloc tid attrs
  bindChannel clk (goodPeerAddr cfg.peerFilter ss.realmOptions.name) ss.alloc.toAddrTables
    p.val.chnum p.val.peerAddr p.val.addrFound

lemma handleTurnChannelBind_tables (cfg : Config) (tid : List UInt8) (attrs : List StunAttr)
    (c : Ctx) (hcons : c.ss.alloc.Consistent) :
    (handleTurnChannelBind cfg tid attrs c).ss.alloc.toAddrTables =
      if BindsChannel cfg c.ss tid attrs then
        (c.ss.bindResult cfg (c.srv.clock cfg) tid attrs).2
      else c.ss.alloc.toAddrTables := by
  generalize hresult : handleTurnChannelBind cfg tid attrs c = result
  simp only [handleTurnChannelBind] at hresult
  split_ifs at hresult with htcp hvalid hunknown herr
  · rw [← hresult, if_neg fun hbinds => absurd hbinds.1 (by simp [htcp])]
    rfl
  · rw [← hresult, if_neg fun hbinds => absurd hbinds.2.1 (by simpa using hvalid)]
  · rw [← hresult, if_neg fun hbinds => absurd hbinds.2.2.1 hunknown]
    rfl
  · rw [← hresult, if_neg fun hbinds => absurd hbinds.2.2.2.1 herr]
    rfl
  rw [not_not] at herr hunknown
  split at hresult
  · next e he =>
    -- the tables are as they were when the channel cannot be bound
    rcases hcons.bindChannel_cases (c.srv.clock cfg)
      (goodPeerAddr cfg.peerFilter c.ss.realmOptions.name)
      (readChannelBind cfg c.ss.alloc tid attrs).val.chnum _ (readChannelBind_port rfl herr) with
      ⟨hnot, _, heq⟩ | ⟨_, _, _, heq, -⟩
    · rw [← hresult, if_neg fun hbinds => hnot hbinds.2.2.2.2]
      simp only [Session.setTables, Ctx.afterLoop, heq]
    · exact absurd (he.symm.trans (congrArg Prod.fst heq)) (by simp)
  · next hok =>
    rw [if_pos ⟨by simpa using htcp, by simpa using hvalid, hunknown, herr,
      binds_of_bindChannel _ hok⟩]
    split at hresult
    all_goals
      next c₁ heq =>
      rw [← hresult, ← show _ = c₁ from congrArg Prod.snd heq]
      exact congrArg (fun ss : Session => ss.alloc.toAddrTables)
        (registerMultiplexPeer_keeps (p := fun _ => True) cfg _ _).2

/-! ## Which requests get that far -/

/-- The peer addresses for which a request changes permissions, in the state in which its handler is
called. -/
def Ctx.permissionPeers (cfg : Config) (buf : List UInt8) (c : Ctx) : List IoaAddr :=
  if c.open = true ∧ stunGetMethod buf = stunMethodCreatePermission ∧
      AcceptsPeers cfg c.ss (stunTidFromMessage buf) (stunAttrs buf) then
    peerAddrs cfg (stunTidFromMessage buf) (stunAttrs buf)
  else []

/-- The number of the channel that a request binds or refreshes, in the state in which its handler
is called. -/
def Ctx.boundChannel (cfg : Config) (buf : List UInt8) (c : Ctx) : Option UInt16 :=
  if c.open = true ∧ stunGetMethod buf = stunMethodChannelBind ∧
      BindsChannel cfg c.ss (stunTidFromMessage buf) (stunAttrs buf) then
    some (readChannelBind cfg c.ss.alloc (stunTidFromMessage buf) (stunAttrs buf)).val.chnum
  else none

/-- The packet, read in state `c`, is a CreatePermission or ChannelBind that is answered with an
error code. -/
structure Server.Rejects (srv : Server) (i : Input) (nd : NetData) (canResume : Bool) (c : Ctx) :
    Prop where
  packet : srv.packet i = some (nd, canResume, c)
  request : stunIsRequest nd.buf = true
  method : stunGetMethod nd.buf = stunMethodCreatePermission ∨
    stunGetMethod nd.buf = stunMethodChannelBind
  error : (readClientConnection i.cfg i.env nd canResume c).reply.errCode ≠ 0

lemma writeToPeerchannel_reply (chnum : UInt16) (len : ℕ) (nd : NetData) (c : Ctx) :
    (writeToPeerchannel chnum len nd c).reply = c.reply := by
  unfold writeToPeerchannel sendToPeer
  repeat' split
  all_goals rfl

/-- What is answered with an error code, and is no Binding request, was read as a STUN message. -/
lemma readClientConnection_of_error (hreply : c.reply = .init)
    (hmethod : stunGetMethod nd.buf ≠ stunMethodBinding)
    (herr : (readClientConnection cfg env nd canResume c).reply.errCode ≠ 0) :
    readClientConnection cfg env nd canResume c =
      readCommand cfg env nd canResume (c.received nd) := by
  have hzero : c.reply.errCode = 0 := by rw [hreply]; rfl
  rcases readClientConnection_cases cfg env nd canResume c rfl with
    ⟨-, h⟩ | ⟨s, chnum, len, -, h⟩ | ⟨-, -, h⟩
  · exact absurd ((h hmethod).1.trans hzero) herr
  · rw [h, writeToPeerchannel_reply] at herr
    exact absurd hzero herr
  · exact h

/-! ## The tables after a refused request -/

/-- The tables are the same exactly when what the handler changes has its new deadline already. -/
lemma handleMessage_sameContents_iff (hcons : c.ss.alloc.Consistent)
    (hrequest : stunIsRequest nd.buf = true)
    (hmethod : stunGetMethod nd.buf = stunMethodCreatePermission ∨
      stunGetMethod nd.buf = stunMethodChannelBind) :
    c.ss.alloc.SameContents
        (handleMessage cfg env nd canResume (c.received nd)).ss.alloc.toAddrTables ↔
      (∀ peer ∈ (c.admitted cfg env nd canResume).permissionPeers cfg nd.buf,
        c.ss.alloc.Idle (c.srv.clock cfg) (addrSetPort 0 peer)) ∧
      ∀ chnum ∈ (c.admitted cfg env nd canResume).boundChannel cfg nd.buf,
        c.ss.alloc.ChIdle (c.srv.clock cfg) chnum := by
  have hframe := admitted_frame cfg env nd canResume c
  rw [handleMessage_of_request hrequest]
  generalize c.admitted cfg env nd canResume = c₁ at hframe ⊢
  rw [← hframe.alloc, ← clock_eq hframe.toFollows cfg]
  have hcons₁ : c₁.ss.alloc.Consistent := by rw [hframe.alloc]; exact hcons
  by_cases hopen : c₁.open = true
  swap
  · -- the handler is not called
    rw [if_neg hopen, permissionPeers, boundChannel, if_neg fun h => hopen h.1,
      if_neg fun h => hopen h.1]
    exact iff_of_true (.refl _) (by simp)
  rw [if_pos hopen, permissionPeers, boundChannel]
  rcases hmethod with hmethod | hmethod <;> rw [hmethod]
  · rw [show dispatch cfg env stunMethodCreatePermission (stunTidFromMessage nd.buf) canResume nd
      (stunAttrs nd.buf) c₁ = handleTurnCreatePermission cfg (stunTidFromMessage nd.buf)
      (stunAttrs nd.buf) c₁ from rfl, handleTurnCreatePermission_tables,
      if_neg (c := _ ∧ stunMethodCreatePermission = stunMethodChannelBind ∧ _)
        fun h => absurd h.2.1 (by decide)]
    by_cases hacc : AcceptsPeers cfg c₁.ss (stunTidFromMessage nd.buf) (stunAttrs nd.buf)
    · rw [if_pos hacc, if_pos ⟨hopen, rfl, hacc⟩, hcons₁.createPermissions_sameContents_iff]
      simp
    · rw [if_neg hacc, if_neg fun h => hacc h.2.2]
      exact iff_of_true (.refl _) (by simp)
  · rw [show dispatch cfg env stunMethodChannelBind (stunTidFromMessage nd.buf) canResume nd
      (stunAttrs nd.buf) c₁ = handleTurnChannelBind cfg (stunTidFromMessage nd.buf)
      (stunAttrs nd.buf) c₁ from rfl, handleTurnChannelBind_tables _ _ _ _ hcons₁,
      if_neg (c := _ ∧ stunMethodChannelBind = stunMethodCreatePermission ∧ _)
        fun h => absurd h.2.1 (by decide)]
    by_cases hbinds : BindsChannel cfg c₁.ss (stunTidFromMessage nd.buf) (stunAttrs nd.buf)
    · obtain ⟨-, -, -, herr, hok⟩ := id hbinds
      have hport := readChannelBind_port rfl herr
      rw [if_pos hbinds, if_pos ⟨hopen, rfl, hbinds⟩, Session.bindResult,
        hcons₁.bindChannel_sameContents_iff _ hport
          ((hcons₁.bindChannel_eq_none_iff _ hport).mpr hok)]
      simp
    · rw [if_neg hbinds, if_neg fun h => hbinds h.2.2]
      exact iff_of_true (.refl _) (by simp)

/-- A CreatePermission or ChannelBind that is answered with an error code leaves the permissions and
channels and their deadlines as they are exactly when what it visits has its new deadlines already.
-/
theorem rejected_request_installs_nothing_iff (id : UInt8) (ctime : UInt32) (realms : RealmTable)
    (is : List Input) (i : Input) (nd : NetData) (canResume : Bool) (c : Ctx)
    (h : (Machine.run Server.step (initServer id ctime realms) is).Rejects i nd canResume c) :
    c.ss.alloc.SameContents
        (readClientConnection i.cfg i.env nd canResume c).ss.alloc.toAddrTables ↔
      (∀ peer ∈ (c.admitted i.cfg i.env nd canResume).permissionPeers i.cfg nd.buf,
        c.ss.alloc.Idle (c.srv.clock i.cfg) (addrSetPort 0 peer)) ∧
      ∀ chnum ∈ (c.admitted i.cfg i.env nd canResume).boundChannel i.cfg nd.buf,
        c.ss.alloc.ChIdle (c.srv.clock i.cfg) chnum := by
  have hwf := (wellFormed_init id ctime realms).run is
  have hstate := packet_state hwf.numbered h.packet
  have hbinding : stunGetMethod nd.buf ≠ stunMethodBinding := by
    rcases h.method with hmethod | hmethod <;> rw [hmethod] <;> decide
  rw [readClientConnection_of_error hstate.reply hbinding h.error, (readCommand_calm _ _ _ _ _).2]
  exact handleMessage_sameContents_iff (hwf.packet_consistent h.packet) h.request h.method

def asksForLoopback : Input :=
  plainInput (.clientInput 1 (clientRequest stunMethodCreatePermission
    [peerAttr (.s4 ⟨[127, 0, 0, 1], rfl⟩ 7000)]) true)

theorem rejected_request_installs_nothing_iff_loopback :
    ∃ nd canResume c,
      (served permissionAndChannel).Rejects asksForLoopback
          nd canResume c ∧
      c.ss.alloc.SameContents (readClientConnection plainParams
        plainEnv nd canResume c).ss.alloc.toAddrTables := by
  generalize hsrv : served permissionAndChannel = srv
  obtain ⟨r, hr, ⟨hrequest, hmethod, herr⟩, hpeers, hbound⟩ :
      ∃ r ∈ srv.packet asksForLoopback,
      (stunIsRequest r.1.buf = true ∧ stunGetMethod r.1.buf = stunMethodCreatePermission ∧
        (readClientConnection plainParams plainEnv r.1 r.2.1
          r.2.2).reply.errCode ≠ 0) ∧
      (r.2.2.admitted plainParams plainEnv r.1
        r.2.1).permissionPeers plainParams r.1.buf = [] ∧
      (r.2.2.admitted plainParams plainEnv r.1
        r.2.1).boundChannel plainParams r.1.buf = none := by
    subst hsrv
    decide +kernel
  have hrejects : srv.Rejects asksForLoopback r.1 r.2.1 r.2.2 :=
    ⟨hr, hrequest, Or.inl hmethod, herr⟩
  refine ⟨r.1, r.2.1, r.2.2, hrejects, ?_⟩
  subst hsrv
  refine (rejected_request_installs_nothing_iff 0 1000 defaultRealms _ _ _ _ _ hrejects).mpr ?_
  exact ⟨fun peer hpeer => absurd (hpeers ▸ hpeer) List.not_mem_nil,
    fun chnum hchnum => absurd (hbound.symm.trans hchnum) (by simp)⟩

/-- The second client of `twoClients` is refused a channel, but has it then. -/
theorem refused_channel_is_bound :
    ∃ nd canResume c,
      (served (twoClients [firstGetsPermission])).Rejects
          ⟨{ plainParams with multiplexPeerMode := true }, .plain (udpRelay true),
            secondBindsChannel 7000⟩ nd canResume c ∧
      ¬ c.ss.alloc.SameContents
        (readClientConnection { plainParams with multiplexPeerMode := true }
          (.plain (udpRelay true)) nd canResume c).ss.alloc.toAddrTables := by
  generalize hsrv : served (twoClients [firstGetsPermission]) = srv
  generalize hi : (⟨{ plainParams with multiplexPeerMode := true },
    .plain (udpRelay true), secondBindsChannel 7000⟩ : Input) = i
  obtain ⟨r, hr, ⟨hrequest, hmethod, herr⟩, hbound⟩ : ∃ r ∈ srv.packet i,
      (stunIsRequest r.1.buf = true ∧ stunGetMethod r.1.buf = stunMethodChannelBind ∧
        (readClientConnection i.cfg i.env r.1 r.2.1 r.2.2).reply.errCode ≠ 0) ∧
      (readClientConnection i.cfg i.env r.1 r.2.1 r.2.2).ss.alloc.chAt (0, 0) ≠
        r.2.2.ss.alloc.chAt (0, 0) := by
    subst hsrv hi
    decide +kernel
  refine ⟨r.1, r.2.1, r.2.2, ⟨hr, hrequest, Or.inr hmethod, herr⟩, fun hsame => ?_⟩
  subst hi
  exact hbound (hsame.ch (0, 0))

end Coturn
