/-
# Which peers get permissions

CreatePermission does not ask whether an XOR-PEER-ADDRESS could be decoded: the cleared address
passes for one of the IPv4 family. As long as no request with such an attribute is accepted, every
permission is for an address of a family for which the session had a relay socket.
-/
import Coturn.Server.Rejection

namespace Coturn

open Ctx Option

variable {srv : Server} {i : Input} {c : Ctx} {cfg : Config} {env : Env} {nd : NetData}
  {canResume : Bool} {method : ℕ} {tid : List UInt8} {attrs : List StunAttr}

/-! ## No success without the handler -/

/-- If there is a response, it is an error response. -/
def Reply.Refuses (r : Reply) : Prop := r.resp.isSome = true → r.errCode ≠ 0
  deriving Decidable

lemma Reply.refuses_of_none {r : Reply} (h : r.resp = none) : r.Refuses := by
  intro hsome
  rw [h] at hsome
  exact absurd hsome (by simp)

lemma checkIntegrity_resp (usname realm : List UInt8) (c : Ctx) :
    (checkIntegrity cfg canResume nd usname realm c).2.reply.resp = c.reply.resp := by
  unfold checkIntegrity postponeOrChallenge
  split_ifs <;> rfl

lemma checkCredentials_resp (isNew : Bool) (c : Ctx) :
    (checkCredentials cfg method isNew canResume nd attrs c).2.reply.resp = c.reply.resp := by
  unfold checkCredentials
  split
  · rfl
  split_ifs
  · rfl
  split
  · rfl
  simp only
  split
  · rfl
  split
  · rfl
  · rfl
  · exact checkIntegrity_resp _ _ _

lemma checkStunAuth_refuses (hresp : c.reply.resp = none) :
    (checkStunAuth cfg env method tid canResume nd attrs c).2.reply.Refuses := by
  cases hneed : needStunAuthentication cfg with
  | false =>
    rw [checkStunAuth, if_pos (by simp [hneed])]
    exact Reply.refuses_of_none hresp
  | true =>
    generalize hr : checkCredentials cfg method (c.ss.nonce = []) canResume nd attrs
      (c.nonced cfg env) = r
    obtain ⟨-, hcode, -⟩ := checkStunAuth_outcome tid hneed hr
    have hkeep : r.2.reply.resp = none := by
      rw [← hr, checkCredentials_resp]
      exact hresp
    by_cases hchallenge : r.1 = .challenge
    · intro _
      rw [hcode]
      rcases checkCredentials_cases hr with h | h | h | h
      · exact h.2
      · exact h.2
      · exact absurd (hchallenge.symm.trans h.1) (by simp)
      · exact absurd (hchallenge.symm.trans h.1) (by simp)
    · -- no response is built
      refine Reply.refuses_of_none ?_
      unfold checkStunAuth
      rw [if_neg (by simp [hneed])]
      simp only [hr]
      obtain ⟨_ | _ | _, c₂⟩ := r
      · exact hkeep
      · exact hkeep
      · exact absurd rfl hchallenge

lemma checkRequest_refuses (h : c.reply.Refuses) :
    (checkRequest cfg env method tid canResume nd attrs c).reply.Refuses := by
  unfold checkRequest
  split_ifs with hopen hmobile
  · exact h
  · exact h
  · have hresp : c.reply.resp = none := by
      simp only [Ctx.open, Bool.or_eq_true, Bool.not_eq_true', not_or, Bool.not_eq_false,
        Bool.and_eq_true, isNone_iff_eq_none] at hopen
      exact hopen.1.1.2
    have hcheck : (checkStunAuth cfg env method tid canResume nd attrs c).2.reply.Refuses :=
      checkStunAuth_refuses hresp
    simp only
    split_ifs
    all_goals exact hcheck

lemma checkOrigins_refuses (h : c.reply.resp = none) :
    (checkOrigins cfg attrs c).reply.Refuses := by
  unfold checkOrigins
  split_ifs <;> exact Reply.refuses_of_none h

lemma readOrigins_reply (cfg : Config) (method : ℕ) (attrs : List StunAttr) (c : Ctx) :
    (readOrigins cfg method attrs c).reply = c.reply := by
  unfold readOrigins
  split_ifs <;> rfl

lemma admitRequest_refuses (hmethod : method ≠ stunMethodAllocate) (h : c.reply.resp = none) :
    (admitRequest cfg env method tid canResume nd attrs c).reply.Refuses := by
  unfold admitRequest
  split_ifs
  · exact Reply.refuses_of_none h
  · refine checkRequest_refuses ?_
    rw [beforeCheck, if_neg hmethod, readOrigins_reply]
    exact checkOrigins_refuses h
  · exact Reply.refuses_of_none h

lemma finishCommand_refuses (h : c.reply.Refuses) :
    (finishCommand cfg method tid false c).reply.Refuses := by
  unfold finishCommand
  split
  · exact h
  extract_lets c₁ _ c₂
  have h₁ : c₁.reply.Refuses := by
    simp only [c₁]
    split_ifs
    · exact fun _ => (by decide : 420 ≠ 0)
    · exact h
  clear_value c₁
  split
  · exact Reply.refuses_of_none rfl
  have hcode : c₂.reply.errCode ≠ 0 := by
    simp only [c₂]
    split_ifs with hempty
    · exact (by decide : 400 ≠ 0)
    · -- without an error code there would have to be a response
      intro hzero
      refine h₁ ?_ hzero
      by_contra hnone
      rw [Bool.not_eq_true, isSome_eq_false_iff] at hnone
      exact hempty ⟨hnone, hzero⟩
  exact fun _ => hcode

lemma handleTurnCreatePermission_resp (h : ¬ AcceptsPeers cfg c.ss tid attrs) :
    (handleTurnCreatePermission cfg tid attrs c).reply.resp = c.reply.resp := by
  simp only [handleTurnCreatePermission]
  split_ifs with hvalid hunknown herr hfound
  · rfl
  · rfl
  · rfl
  · rfl
  all_goals
    exact absurd ⟨by simpa using hvalid, not_not.mp herr, not_not.mp hunknown, by simpa using hfound⟩ h

/-! ## Attributes that do not decode -/

/-- The packet is a CreatePermission request with an XOR-PEER-ADDRESS that does not decode. -/
def Undecodable (cfg : Config) (buf : List UInt8) : Prop :=
  stunIsRequest buf = true ∧ stunGetMethod buf = stunMethodCreatePermission ∧
    ∃ sar ∈ stunAttrs buf, sar.type = attrXorPeerAddress ∧
      (stunAttrGetAddr cfg.addrMapping (stunTidFromMessage buf) sar none).1 = false
  deriving Decidable

/-- The peer addresses for which the packet of the event changes permissions. -/
def Server.permittedPeers (srv : Server) (i : Input) : List IoaAddr :=
  (srv.packet i).elim [] fun r =>
    if stunIsRequest r.1.buf = true then
      (r.2.2.admitted i.cfg i.env r.1 r.2.1).permissionPeers i.cfg r.1.buf
    else []

/-- The peer addresses of an accepted CreatePermission request are IPv4 or IPv6 addresses. -/
def Server.PeersDecoded (srv : Server) (i : Input) : Prop := ∀ peer ∈ srv.permittedPeers i, peer.IsInet
  deriving Decidable

/-- A CreatePermission with an attribute that does not decode is not answered with success. -/
def Server.RefusesUndecodable (srv : Server) (i : Input) : Prop :=
  ∀ nd canResume c, srv.packet i = some (nd, canResume, c) → Undecodable i.cfg nd.buf →
    (readClientConnection i.cfg i.env nd canResume c).reply.Refuses ∧
      c.ss.alloc.SameContents
        (readClientConnection i.cfg i.env nd canResume c).ss.alloc.toAddrTables

lemma Undecodable.mem_peerAddrs {buf : List UInt8} (h : Undecodable cfg buf) :
    .unset ∈ peerAddrs cfg (stunTidFromMessage buf) (stunAttrs buf) := by
  obtain ⟨-, -, sar, hsar, htype, hdecode⟩ := h
  refine List.mem_map.mpr ⟨sar, List.mem_filter.mpr ⟨hsar, by simp [htype]⟩, ?_⟩
  unfold stunAttrGetAddr at hdecode ⊢
  split at hdecode
  · rfl
  · exact absurd hdecode (by simp)

lemma readCommand_refuses (hreply : c.reply = .init) (hrequest : stunIsRequest nd.buf = true)
    (hmethod : stunGetMethod nd.buf = stunMethodCreatePermission)
    (hacc : (c.admitted cfg env nd canResume).open = true →
      ¬ AcceptsPeers cfg (c.admitted cfg env nd canResume).ss (stunTidFromMessage nd.buf)
        (stunAttrs nd.buf)) :
    (readCommand cfg env nd canResume (c.received nd)).reply.Refuses := by
  have hindication : stunIsIndication nd.buf = false := stunIsIndication_of_request hrequest
  have hmessage : (handleMessage cfg env nd canResume (c.received nd)).reply.Refuses := by
    have hadmit : (c.admitted cfg env nd canResume).reply.Refuses :=
      admitRequest_refuses (by rw [hmethod]; decide) (by rw [received, enforceFingerprints, hreply]; rfl)
    rw [handleMessage_of_request hrequest]
    split_ifs with hopen
    · rw [hmethod]
      refine Reply.refuses_of_none ((handleTurnCreatePermission_resp (hacc hopen)).trans ?_)
      simp only [Ctx.open, Bool.and_eq_true, isNone_iff_eq_none] at hopen
      exact hopen.1.2
    · exact hadmit
  have hfinish : (handleTurnCommand cfg env nd canResume (c.received nd)).reply.Refuses := by
    rw [handleTurnCommand, hindication]
    exact finishCommand_refuses hmessage
  rw [readCommand]
  split_ifs
  · exact hfinish
  · rw [writeResponse_reply]
    exact hfinish

lemma Server.mem_permittedPeers (hpacket : srv.packet i = some (nd, canResume, c))
    (hrequest : stunIsRequest nd.buf = true) {peer : IoaAddr}
    (hpeer : peer ∈ (c.admitted i.cfg i.env nd canResume).permissionPeers i.cfg nd.buf) :
    peer ∈ srv.permittedPeers i := by
  rw [Server.permittedPeers, hpacket, elim_some, if_pos hrequest]
  exact hpeer

lemma Server.WellFormed.refusesUndecodable (h : srv.WellFormed) (hok : srv.PeersDecoded i) :
    srv.RefusesUndecodable i := by
  intro nd canResume c hpacket hbad
  have hstate := packet_state h.numbered hpacket
  have hmem := hbad.mem_peerAddrs
  obtain ⟨hrequest, hmethod, -⟩ := hbad
  have hnone : c.reply.resp = none := by rw [hstate.reply]; rfl
  rcases readClientConnection_cases i.cfg i.env nd canResume c rfl with
    ⟨hcalm, hreply⟩ | ⟨_, chnum, len, -, heq⟩ | ⟨-, -, heq⟩
  · refine ⟨Reply.refuses_of_none ?_, ?_⟩
    · rw [(hreply (by rw [hmethod]; decide)).2.1, hnone]
    · rw [hcalm.frame.alloc]
      exact .refl _
  · rw [heq]
    refine ⟨Reply.refuses_of_none ?_, ?_⟩
    · rw [writeToPeerchannel_reply, hnone]
    · rw [(writeToPeerchannel_calm (p := fun _ => True) c fun _ _ => trivial).frame.alloc]
      exact .refl _
  · -- the first loop would have had to accept the cleared address
    have hacc : ¬ ((c.admitted i.cfg i.env nd canResume).open = true ∧
        stunGetMethod nd.buf = stunMethodCreatePermission ∧
        AcceptsPeers i.cfg (c.admitted i.cfg i.env nd canResume).ss (stunTidFromMessage nd.buf)
          (stunAttrs nd.buf)) := by
      intro hacc
      have hpeer : .unset ∈ (c.admitted i.cfg i.env nd canResume).permissionPeers i.cfg nd.buf := by
        rw [permissionPeers, if_pos hacc]
        exact hmem
      exact absurd (hok _ (Server.mem_permittedPeers hpacket hrequest hpeer)) (by decide)
    rw [heq]
    refine ⟨readCommand_refuses hstate.reply hrequest hmethod fun hopen h => hacc ⟨hopen, hmethod, h⟩,
      ?_⟩
    rw [(readCommand_calm _ _ _ _ _).2, handleMessage_sameContents_iff (h.packet_consistent hpacket)
      hrequest (Or.inl hmethod), permissionPeers, if_neg hacc, boundChannel, hmethod,
      if_neg fun h => absurd h.2.1 (by decide)]
    simp

/-! ## The addresses of permissions -/

/-- The session has a relay socket of the family of the address. -/
def Server.HasRelayFor (srv : Server) (sid : ℕ) (addr : IoaAddr) : Prop :=
  ∃ ss s, srv.sessionsMap sid = some ss ∧ ss.alloc.getRelaySocket addr.family = some s ∧
    s.family = addr.family

lemma family_of_addrSetPort {p : UInt16} {a b : IoaAddr} (h : addrSetPort p a = addrSetPort p b) :
    a.family = b.family := by
  cases a <;> cases b <;> simp_all [addrSetPort, IoaAddr.family]

lemma getRelaySocket_isSome {a a' : Allocation} (h : a'.relay = a.relay) (family : ℕ) :
    (a'.getRelaySocket family).isSome = (a.getRelaySocket family).isSome := by
  have hsocket : a'.relay.socket family = a.relay.socket family := by rw [h]
  rw [relay_socket, relay_socket] at hsocket
  simpa using congrArg Option.isSome hsocket

lemma Server.WellFormed.grants_relay (h : srv.WellFormed) (hok : srv.PeersDecoded i) {sid : ℕ}
    {addr : IoaAddr} (hgrants : srv.Grants i sid addr) :
    addr.IsInet ∧ srv.HasRelayFor sid addr := by
  obtain ⟨nd, canResume, c, hpacket, rfl, hrequest, hopen, hgood, hkind⟩ := hgrants
  obtain ⟨sar, hsar, htype, -, hrelay, hport⟩ := hgood
  have hframe := admitted_frame i.cfg i.env nd canResume c
  have hinet : addr.IsInet := by
    rcases hkind with ⟨-, hinet⟩ | ⟨hmethod, hacc⟩
    · exact hinet
    · have hpeer : peerAddrOf i.cfg (stunTidFromMessage nd.buf) sar ∈
          (c.admitted i.cfg i.env nd canResume).permissionPeers i.cfg nd.buf := by
        rw [permissionPeers, if_pos ⟨hopen, hmethod, hacc⟩]
        exact List.mem_map.mpr ⟨sar, List.mem_filter.mpr ⟨hsar, by simp [htype]⟩, rfl⟩
      have hpeerInet := hok _ (Server.mem_permittedPeers hpacket hrequest hpeer)
      rw [IoaAddr.IsInet, family_of_addrSetPort hport]
      exact hpeerInet
  rw [hframe.alloc, ← family_of_addrSetPort hport] at hrelay
  refine ⟨hinet, ?_⟩
  have hstate := packet_state h.numbered hpacket
  rcases hstate.known with hknown | ⟨-, hinit⟩
  · obtain ⟨ss, hss, hcore⟩ := map_eq_some_iff.mp hknown
    have hrs : ss.alloc.relay = c.ss.alloc.relay := congrArg Prod.snd hcore
    rw [← getRelaySocket_isSome hrs] at hrelay
    obtain ⟨s, hs⟩ := isSome_iff_exists.mp hrelay
    refine ⟨ss, s, hss, hs, ?_⟩
    have hplaced := (h.sound c.ss.id _ (view_sessions_of_some hss)).placed
    rw [family_of_placed hplaced hs]
    rcases hinet with hfamily | hfamily <;> rw [hfamily] <;> rfl
  · rw [hinit] at hrelay
    simp [initAllocation, Allocation.getRelaySocket, Allocation.getRelaySession,
      RelayEndpointSession.empty] at hrelay

/-- While every accepted CreatePermission is for addresses that decode, every live permission was
granted when the session had a relay socket of its family, and requests with an address that does
not decode are refused. -/
theorem permissions_have_relays (id : UInt8) (ctime : UInt32) (realms : RealmTable)
    (is : List Input)
    (hok : Machine.Along Server.step Server.PeersDecoded (initServer id ctime realms) is) :
    (∀ sid ss r info,
      (Machine.run Server.step (initServer id ctime realms) is).sessionsMap sid = some ss →
      ss.alloc.LivePerm r info →
      info.addr.IsInet ∧
        Machine.Occurs Server.step
          (fun srv i => srv.Grants i sid info.addr ∧ srv.HasRelayFor sid info.addr)
          (initServer id ctime realms) is) ∧
    Machine.Along Server.step Server.RefusesUndecodable (initServer id ctime realms) is := by
  have hinit := wellFormed_init id ctime realms
  have hwf : Machine.Along Server.step (fun srv i => srv.WellFormed ∧ srv.PeersDecoded i)
      (initServer id ctime realms) is :=
    Machine.along_of_invariant (fun srv i h hdecoded => ⟨h.step i, h, hdecoded⟩) hok hinit
  constructor
  · intro sid ss r info hss hr
    have hgranted := (granted_of_livePerm hss hr).and_along hwf
    refine ⟨?_, hgranted.mono fun srv i h => ⟨h.1, (h.2.1.grants_relay h.2.2 h.1).2⟩⟩
    obtain ⟨srv, i, h⟩ := hgranted.exists
    exact (h.2.1.grants_relay h.2.2 h.1).1
  · exact Machine.along_of_invariant
      (fun srv i h hdecoded => ⟨h.step i, h.refusesUndecodable hdecoded⟩) hok hinit

/-- The permission of the first peer was granted when the session had an IPv4 relay socket. -/
theorem permissions_have_relays_permissionAndChannel :
    ∃ ss r info,
      (served permissionAndChannel).sessionsMap 1 = some ss ∧
      ss.alloc.LivePerm r info ∧ info.addr = hostAddr 3 0 ∧
      Machine.Occurs Server.step
        (fun srv i => srv.Grants i 1 info.addr ∧ srv.HasRelayFor 1 info.addr)
        (initServer 0 1000 defaultRealms) permissionAndChannel := by
  have hperm : ((served permissionAndChannel).sessionsMap 1).bind
        (fun ss => ss.alloc.permAt (permIndex (hostAddr 3 0), 0)) = some (hostAddr 3 0, 1300) := by
    decide +kernel
  obtain ⟨ss, hss, hx⟩ := bind_eq_some_iff.mp hperm
  obtain ⟨info, hr, haddr⟩ := AddrTables.exists_livePerm_of_permAt hx
  have hgranted := (permissions_have_relays 0 1000 defaultRealms _ (by decide +kernel)).1 1 ss _ info
    hss hr
  exact ⟨ss, _, info, hss, hr, congrArg Prod.fst haddr, hgranted.2⟩

/-- A client with an allocation asks for a permission for an address that does not decode: the
attribute is too short. -/
def asksForShortAddress : Input :=
  plainInput (.clientInput 1 (clientRequest stunMethodCreatePermission
    [(attrXorPeerAddress, [0, 1, 0, 0])]) true)

/-- The request is answered with a success, and there is a permission for no address at all. -/
theorem short_address_gets_permission :
    (∃ nd canResume c,
      (served permissionAndChannel).packet asksForShortAddress =
          some (nd, canResume, c) ∧
      Undecodable plainParams nd.buf ∧
      ¬ (readClientConnection plainParams plainEnv nd canResume
        c).reply.Refuses) ∧
    ∃ ss r info,
      ((served permissionAndChannel).step asksForShortAddress).sessionsMap
          1 = some ss ∧
      ss.alloc.LivePerm r info ∧ ¬ info.addr.IsInet := by
  generalize hsrv : served permissionAndChannel = srv
  constructor
  · obtain ⟨r, hr, hfacts⟩ : ∃ r ∈ srv.packet asksForShortAddress,
        Undecodable plainParams r.1.buf ∧
        ¬ (readClientConnection plainParams plainEnv r.1 r.2.1
          r.2.2).reply.Refuses := by
      subst hsrv
      decide +kernel
    exact ⟨r.1, r.2.1, r.2.2, hr, hfacts⟩
  · have hperm : ((srv.step asksForShortAddress).sessionsMap 1).bind
        (fun ss => ss.alloc.permAt (permIndex .unset, 0)) = some (.unset, 1360) := by
      subst hsrv
      decide +kernel
    obtain ⟨ss, hss, hx⟩ := bind_eq_some_iff.mp hperm
    obtain ⟨info, hr, haddr⟩ := AddrTables.exists_livePerm_of_permAt hx
    refine ⟨ss, _, info, hss, hr, ?_⟩
    rw [show info.addr = .unset from congrArg Prod.fst haddr]
    decide

end Coturn
