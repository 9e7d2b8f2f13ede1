/-
# What is relayed

Datagrams go to peers because of Send indications and ChannelData, and to clients because of
datagrams of peers. ChannelData is not compared with the permissions, but the owner of a live
channel is a live permission for its peer; and a permission is there because a request for its IP
has passed the filter.
-/
import Coturn.Server.Expiry

namespace Coturn

open Ctx ByteSeq

variable {srv : Server} {i : Input} {c : Ctx} {cfg : Config} {env : Env} {nd : NetData}
  {canResume : Bool} {e : Effect}

/-! ## The effects of an event -/

/-- The effect is not about the data of peers. -/
def Effect.Control : Effect → Prop
  | .toPeer _ _ _ _ _ | .relayToClient _ _ _ => False
  | _ => True

instance : DecidablePred Effect.Control
  | .toPeer _ _ _ _ _ | .relayToClient _ _ _ => isFalse id
  | .authCheck _ | .toClient _ _ | .sendTo _ _ _ | .toSocket _ _ | .socketToRelay _ _ _
  | .allocationCreated _ | .allocationRefreshed _ _ | .permissionUpdated _ _
  | .channelUpdated _ _ _ | .connectStarted _ _ | .dataConnectionBound _ _ => isTrue trivial

lemma Effect.OfHandler.control (h : e.OfHandler) : e.Control := by
  cases e <;> simp_all [Effect.OfHandler, Effect.Sensitive, Effect.Message, Effect.Control]

lemma Effect.Message.control (h : e.Message) : e.Control := Effect.OfHandler.control (Or.inr h)

/-- A packet sends something to a peer when it is a Send indication or ChannelData. -/
inductive Ctx.Sends (cfg : Config) (nd : NetData) (c : Ctx) (e : Effect) : Prop
  | send : IsSend nd.buf →
      SendEffect cfg (stunTidFromMessage nd.buf) nd (stunAttrs nd.buf) c e → c.Sends cfg nd e
  | channel (stream : Bool) (chnum : UInt16) (len : ℕ) :
      stunIsChannelMessage nd.buf stream = some (chnum, len) →
      ChannelEffect nd chnum len c e → c.Sends cfg nd e

lemma readClientConnection_effects (hids : c.srv.IdsMatch) (hlog : c.log = [])
    (he : e ∈ (readClientConnection cfg env nd canResume c).log) :
    e.Control ∨ c.Sends cfg nd e := by
  have hadmits : c.Admits (fun e => e.Control ∨ c.Sends cfg nd e) cfg env nd canResume :=
    ⟨fun e he => Or.inl he.control, fun method c₁ _ => checkStunAuth_frame _ fun _ => Or.inl trivial,
      fun hsend e he => Or.inr (.send hsend he),
      fun stream chnum len hchannel e he => Or.inr (.channel stream chnum len hchannel he)⟩
  rcases (readClientConnection_step c hids hadmits).mem he with hold | hnew
  · rw [hlog] at hold
    exact absurd hold List.not_mem_nil
  · exact hnew

/-- A datagram of a peer goes to the client of a session. -/
structure Server.Delivers (srv : Server) (i : Input) (e : Effect) (sid : ℕ) (family : ℕ)
    (nd : NetData) (ss : Session) (buf : List UInt8) : Prop where
  ev : i.ev = .peerInput sid family nd
  session : srv.sessionsMap sid = some ss
  effect : e = .relayToClient sid nd.srcAddr buf
  valid : ss.alloc.isValid = true
  permission : i.cfg.serverRelay = false →
    (allocationGetPermission ss.alloc.toAddrTables nd.srcAddr).isSome = true

variable {sid : ℕ}

lemma withSession_effects {p : Effect → Prop} {f : Ctx → Ctx} (hids : srv.IdsMatch)
    (hf : ∀ ss, srv.sessionsMap sid = some ss →
      TablesKeep p ⟨srv, ss, .init, []⟩ (f ⟨srv, ss, .init, []⟩))
    (he : e ∈ (withSession srv sid f).2) : p e := (withSession_same hids hf).2 e he

lemma peerInput_effects {family : ℕ} {nd : NetData} (hids : srv.IdsMatch)
    (he : e ∈ (peerInput cfg env sid family nd srv).2) :
    ∃ ss buf, srv.Delivers ⟨cfg, env, .peerInput sid family nd⟩ e sid family nd ss buf := by
  refine withSession_effects (p := fun e => ∃ ss buf,
    srv.Delivers ⟨cfg, env, .peerInput sid family nd⟩ e sid family nd ss buf) hids ?_ he
  intro ss hss
  simp only
  split_ifs
  · exact (Frame.refl _).tablesFrame.keep
  · refine (peerInputHandler_calm cfg env family nd _ fun buf hvalid hpermission =>
      ?_).frame.tablesFrame.keep
    refine ⟨ss, buf, rfl, hss, ?_, hvalid, hpermission⟩
    rw [hids sid ss hss]

lemma acceptTcpClientData_effects {tcid : UInt32} {tid : List UInt8} {s : IoaSocket}
    {messageIntegrity : Bool}
    (he : e ∈ (acceptTcpClientData cfg env tcid tid s messageIntegrity nd srv).2) : e.Control := by
  rcases acceptTcpClientData_cases cfg env tcid tid s messageIntegrity nd srv with
    ⟨r, rfl, -, hr⟩ | ⟨x, ss, tc, c, l, -, -, -, -, -, hc, hl, heq⟩
  · exact (hr e he).control
  · have hframe : TablesFrame Effect.Control (.handed srv ss messageIntegrity) c := by
      rw [hc]
      exact bindDataConnection_frame tc s _ (checkStunAuth_frame _ fun _ => trivial) trivial
    rw [heq] at he
    rcases List.mem_append.mp he with hlog | hmem
    · rcases hframe.mem hlog with hold | hnew
      · exact absurd hold List.not_mem_nil
      · exact hnew
    · exact (hl e hmem).control

lemma handle_effects (hnum : srv.Numbered) (he : e ∈ (srv.handle i).2) :
    e.Control ∨
      (∃ nd canResume c, srv.packet i = some (nd, canResume, c) ∧ c.Sends i.cfg nd e) ∨
      ∃ sid family nd ss buf, srv.Delivers i e sid family nd ss buf := by
  rcases hpacket : srv.packet i with _ | ⟨nd, canResume, c⟩
  · have hids := hnum.ids
    by_cases hreads : i.ev.Reads
    · obtain ⟨pending, hhandle⟩ := handle_of_no_packet hnum hreads hpacket
      rw [hhandle] at he
      exact absurd he List.not_mem_nil
    obtain ⟨cfg, env, ev⟩ := i
    cases ev with
    | openSession s nd canResume =>
      cases nd with
      | none => exact absurd he List.not_mem_nil
      | some nd => exact absurd trivial hreads
    | clientInput sid nd canResume => exact absurd trivial hreads
    | resume n answer => exact absurd trivial hreads
    | peerInput sid family nd =>
      obtain ⟨ss, buf, hdelivers⟩ := peerInput_effects hids he
      exact Or.inr (Or.inr ⟨sid, family, nd, ss, buf, hdelivers⟩)
    | clientSocketLost sid =>
      exact Or.inl (withSession_effects hids (fun ss _ =>
        TablesFrame.keep (TablesFrame.of_session rfl rfl rfl)) he)
    | relaySocketLost sid family =>
      refine Or.inl (withSession_effects hids (fun ss _ => TablesFrame.keep ?_) he)
      exact TablesFrame.of_session rfl (Prod.ext rfl (loseRelaySocket_relay family ss.alloc)) rfl
    | tcpConnectCompleted sid handle success =>
      exact Or.inl (withSession_effects hids (fun ss _ =>
        (tcpConnectCompleted_frame cfg env handle success _).keep) he).control
    | tcpConnectionClosed sid handle =>
      exact Or.inl (withSession_effects hids (fun ss _ =>
        (tcpConnectionClosed_frame handle _).keep) he)
    | tcpPeerAccept sid peerAddr =>
      exact Or.inl (withSession_effects hids (fun ss _ =>
        (tcpPeerAccept_frame cfg env peerAddr _).keep) he).control
    | acceptTcpClientData tcid tid s messageIntegrity nd =>
      exact Or.inl (acceptTcpClientData_effects he)
    | _ => exact absurd he List.not_mem_nil
  · have hstate := packet_state hnum hpacket
    obtain ⟨hlog, -⟩ := handle_packet hnum hpacket
    rw [hlog] at he
    rcases readClientConnection_effects hstate.numbered.ids hstate.log he with hcontrol | hsends
    · exact Or.inl hcontrol
    · exact Or.inr (Or.inl ⟨nd, canResume, c, rfl, hsends⟩)

/-! ## Permissions and payloads -/

lemma readSend_data {tid : List UInt8} {attrs : List StunAttr} {data : List UInt8}
    (h : (readSend cfg tid attrs).val.data = some data) :
    ∃ sar ∈ attrs, sar.type = attrData ∧ sar.value = data ∧
      (readSend cfg tid attrs).val.offset = sar.offset + 4 := by
  refine readAttrs_invariant (I := fun p : Parsed SendVars => p.val.data = some data →
    ∃ sar ∈ attrs, sar.type = attrData ∧ sar.value = data ∧ p.val.offset = sar.offset + 4) ?_
    (fun h => (nomatch h)) h
  intro p sar hsar _ hp
  unfold sendAttr
  by_cases hskip : skipAttribute sar.type = true
  · rw [if_pos hskip]
    exact hp
  rw [if_neg hskip]
  split
  · split_ifs
    · exact hp
    · exact hp
  · exact hp
  · next htype =>
    split_ifs
    · exact hp
    · intro hdata
      exact ⟨sar, hsar, htype, Option.some.inj hdata, rfl⟩
  · unfold Parsed.other
    split_ifs
    · exact hp
    · exact hp

lemma bufferPart_attr {sar : StunAttr} (h : sar ∈ stunAttrs nd.buf) :
    bufferPart nd.buf (sar.offset + 4) sar.value.length = sar.value := by
  obtain ⟨hle, hvalue⟩ := mem_stunAttrs h
  have hfits := nd.fits
  rw [bufferPart, if_neg (by omega)]
  exact hvalue.symm

lemma bufferPart_channel {stream : Bool} {chnum : UInt16} {len : ℕ}
    (h : stunIsChannelMessage nd.buf stream = some (chnum, len)) :
    chnum = UInt16.ofNat (beAt nd.buf 0 2) ∧ beAt nd.buf 2 2 + 4 ≤ nd.buf.length ∧
      bufferPart nd.buf 4 (len - 4) = (nd.buf.drop 4).take (beAt nd.buf 2 2) := by
  have hfits := nd.fits
  unfold stunIsChannelMessage at h
  split_ifs at h with hshort hstart
  simp only at h
  split_ifs at h with hlong hpadding
  obtain ⟨rfl, rfl⟩ := Prod.mk.inj (Option.some.inj h)
  refine ⟨rfl, by omega, ?_⟩
  rw [bufferPart, if_neg (by omega), Nat.add_sub_cancel]

/-- A Send indication with the payload is relayed to a permitted peer. -/
structure Session.SendsData (ss : Session) (nd : NetData) (peerAddr : IoaAddr)
    (payload : List UInt8) : Prop where
  indication : IsSend nd.buf
  permits : ss.alloc.Permits peerAddr
  payload : ∃ sar ∈ stunAttrs nd.buf, sar.type = attrData ∧ payload = sar.value

/-- The payload is relayed to the peer of the live channel with its number, and the owner of the
channel is a live permission for the peer. -/
structure Session.SendsChannelData (ss : Session) (nd : NetData) (peerAddr : IoaAddr)
    (payload : List UInt8) : Prop where
  channel : ∃ c chn r info, ss.alloc.LiveCh c chn ∧ chn.chnum = UInt16.ofNat (beAt nd.buf 0 2) ∧
    chn.peerAddr = peerAddr ∧ chn.owner = some r ∧ ss.alloc.LivePerm r info ∧
    addrEqNoPort info.addr peerAddr = true
  declared : beAt nd.buf 2 2 + 4 ≤ nd.buf.length
  payload : payload = (nd.buf.drop 4).take (beAt nd.buf 2 2)

lemma Ctx.Sends.allowed (hcons : c.ss.alloc.Consistent) (hrelay : cfg.serverRelay = false)
    {peerAddr : IoaAddr} {payload : List UInt8} {relayS : RelayIoaSocket}
    {owner : Option ℕ} (h : c.Sends cfg nd (.toPeer sid peerAddr payload relayS owner)) :
    sid = c.ss.id ∧ c.ss.alloc.isValid = true ∧
      (c.ss.SendsData nd peerAddr payload ∨ c.ss.SendsChannelData nd peerAddr payload) := by
  cases h with
  | send hsend heffect =>
    obtain ⟨data, s, o, hdata, -, -, heq⟩ := heffect.sent
    injection heq with hsid hpeer hpayload _ _
    obtain ⟨sar, hsar, htype, hvalue, hoffset⟩ := readSend_data hdata
    refine ⟨hsid, heffect.valid, Or.inl ⟨hsend, ?_, sar, hsar, htype, ?_⟩⟩
    · rw [hpeer]
      exact AddrTables.permits_of_get (heffect.permission hrelay)
    · rw [hpayload, hoffset, ← hvalue, bufferPart_attr hsar]
      split_ifs with hnil
      · exact hnil.symm
      · rfl
  | channel stream chnum len hchannel heffect =>
    obtain ⟨r, chn, s, hfound, hget, -, heq⟩ := heffect.sent
    injection heq with hsid hpeer hpayload _ _
    obtain ⟨chn', hlive, hnum⟩ := liveCh_of_allocationGetChInfo hfound
    obtain rfl := Option.mem_unique hget hlive.1
    obtain ⟨hchnum, hle, hpart⟩ := bufferPart_channel hchannel
    obtain ⟨p, info, howner, hp, haddr, -⟩ := hcons.ch_owner r chn hlive
    refine ⟨hsid, heffect.valid, Or.inr ⟨⟨r, chn, p, info, hlive, hnum.trans hchnum, hpeer.symm,
      howner, hp, ?_⟩, hle, hpayload.trans hpart⟩⟩
    rw [hpeer]
    exact haddr

/-- The state in which a packet is read has the session of before, if the allocation is valid. -/
lemma Server.PacketState.session (h : srv.PacketState c) (hvalid : c.ss.alloc.isValid = true) :
    ∃ ss, srv.sessionsMap c.ss.id = some ss ∧ ss.alloc.relay = c.ss.alloc.relay := by
  rcases h.known with hknown | ⟨-, hinit⟩
  · obtain ⟨ss, hss, hcore⟩ := Option.map_eq_some_iff.mp hknown
    exact ⟨ss, hss, congrArg Prod.snd hcore⟩
  · rw [hinit] at hvalid
    exact absurd hvalid (by simp [initAllocation])

/-! ## The gate -/

/-- Everything that the handling of the event relays is allowed in the state before. -/
structure Server.Gated (srv : Server) (i : Input) : Prop where
  toPeer : ∀ sid peerAddr payload relayS owner,
    .toPeer sid peerAddr payload relayS owner ∈ (srv.handle i).2 →
    ∃ nd canResume c ss, srv.packet i = some (nd, canResume, c) ∧ srv.sessionsMap sid = some ss ∧
      ss.alloc.isValid = true ∧
      (ss.SendsData nd peerAddr payload ∨ ss.SendsChannelData nd peerAddr payload)
  toClient : ∀ sid srcAddr buf, .relayToClient sid srcAddr buf ∈ (srv.handle i).2 →
    ∃ family nd ss, i.ev = .peerInput sid family nd ∧ nd.srcAddr = srcAddr ∧
      srv.sessionsMap sid = some ss ∧ ss.alloc.isValid = true ∧ ss.alloc.Permits srcAddr

lemma Server.WellFormed.gated (h : srv.WellFormed) (hrelay : i.cfg.serverRelay = false) :
    srv.Gated i where
  toPeer sid peerAddr payload relayS owner he := by
    rcases handle_effects h.numbered he with
      hcontrol | ⟨nd, canResume, c, hpacket, hsends⟩ | ⟨_, _, _, _, _, hdelivers⟩
    · exact hcontrol.elim
    · have hstate := packet_state h.numbered hpacket
      obtain ⟨rfl, hvalid, hsent⟩ := hsends.allowed (h.packet_consistent hpacket) hrelay
      obtain ⟨ss, hss, hrs⟩ := hstate.session hvalid
      have htables : ss.alloc.toAddrTables = c.ss.alloc.toAddrTables :=
        congrArg RelaySession.tables hrs
      refine ⟨nd, canResume, c, ss, hpacket, hss, (congrArg RelaySession.valid hrs).trans hvalid, ?_⟩
      rcases hsent with ⟨hind, hpermits, hpayload⟩ | ⟨hchannel, hle, hpayload⟩
      · exact Or.inl ⟨hind, htables ▸ hpermits, hpayload⟩
      · exact Or.inr ⟨htables ▸ hchannel, hle, hpayload⟩
    · exact absurd hdelivers.effect (by simp)
  toClient sid srcAddr buf he := by
    rcases handle_effects h.numbered he with
      hcontrol | ⟨nd, canResume, c, hpacket, hsends⟩ | ⟨sid', family, nd, ss, buf', hdelivers⟩
    · exact hcontrol.elim
    · cases hsends with
      | send _ heffect =>
        obtain ⟨_, _, _, _, _, _, heq⟩ := heffect.sent
        exact absurd heq (by simp)
      | channel _ _ _ _ heffect =>
        obtain ⟨_, _, _, _, _, _, heq⟩ := heffect.sent
        exact absurd heq (by simp)
    · obtain ⟨hev, hss, heq, hvalid, hpermission⟩ := hdelivers
      injection heq with hsid hsrc _
      subst hsid hsrc
      exact ⟨family, nd, ss, hev, rfl, hss, hvalid, AddrTables.permits_of_get (hpermission hrelay)⟩

lemma granted_of_livePerm {id : UInt8} {ctime : UInt32} {realms : RealmTable} {is : List Input}
    {ss : Session}
    (hss : (Machine.run Server.step (initServer id ctime realms) is).sessionsMap sid = some ss)
    {r : PermPtr} {info : TurnPermissionInfo} (hr : ss.alloc.LivePerm r info) :
    Machine.Occurs Server.step (fun srv i => srv.Grants i sid info.addr)
      (initServer id ctime realms) is := by
  have hholds : (Machine.run Server.step (initServer id ctime realms) is).view.Holds sid info.addr :=
    ⟨_, r, info, view_sessions_of_some hss, hr, rfl⟩
  have hstep : ∀ srv i, Server.WellFormed srv → (srv.step i).view.Holds sid info.addr →
      srv.view.Holds sid info.addr ∨ srv.Grants i sid info.addr := by
    intro srv i h hnext
    rcases (h.refines i).holds h.sound hnext with hold | ⟨rfl, hgrants⟩
    · exact Or.inl hold
    · exact Or.inr hgrants
  refine (Machine.run_origin (P := fun srv => srv.view.Holds sid info.addr)
    (fun srv i h => h.step i) hstep (wellFormed_init id ctime realms) hholds).resolve_left ?_
  rintro ⟨rs, _, _, hrs, _⟩
  exact (nomatch hrs)

/-- Whatever is relayed in a reachable state is permitted and carries the payload of its packet, and
every live permission was granted by a request of its session for an address of that IP which the
filter accepts. -/
theorem relaying_is_gated (id : UInt8) (ctime : UInt32) (realms : RealmTable) (is : List Input)
    (i : Input) (hrelay : i.cfg.serverRelay = false) :
    (Machine.run Server.step (initServer id ctime realms) is).Gated i ∧
      ∀ sid ss r info,
        (Machine.run Server.step (initServer id ctime realms) is).sessionsMap sid = some ss →
        ss.alloc.LivePerm r info →
        Machine.Occurs Server.step (fun srv i => srv.Grants i sid info.addr)
          (initServer id ctime realms) is := by
  refine ⟨((wellFormed_init id ctime realms).run is).gated hrelay, ?_⟩
  intro sid ss r info hss hr
  exact granted_of_livePerm hss hr

def clientChannelData (chnum : ℕ) (payload : List UInt8) (h : payload.length < 1000) : NetData where
  buf := beBytes 2 chnum ++ beBytes 2 payload.length ++ payload
  fits := by
    simp only [List.length_append, length_beBytes, maxStunMessageSize]
    omega
  srcAddr := hostAddr 2 5000
  ttlLeft := true

def fourBytes : NetData := clientChannelData 0x4000 [1, 2, 3, 4] (by decide)

def channelDataInput : Input :=
  plainInput (.clientInput 1 fourBytes true)

theorem relaying_is_gated_channelData :
    (∃ e ∈ ((served permissionAndChannel).handle channelDataInput).2,
        ¬ e.Control) ∧
    (served permissionAndChannel).Gated channelDataInput :=
  ⟨by decide +kernel, (relaying_is_gated 0 1000 defaultRealms _ _ rfl).1⟩

/-! ## STUN only -/

lemma Server.Grants.stunOnly_eq_false {addr : IoaAddr} (h : srv.Grants i sid addr) :
    i.cfg.stunOnly = false := by
  obtain ⟨nd, canResume, c, -, -, -, hopen, -, hmethod⟩ := h
  have hturn : stunGetMethod nd.buf ≠ stunMethodBinding := by
    rcases hmethod with ⟨h, -⟩ | ⟨h, -⟩ <;> rw [h] <;> decide
  by_contra hstun
  rw [Ctx.admitted, admitRequest, if_pos (Or.inr ⟨hturn, eq_true_of_ne_false hstun⟩)] at hopen
  simp [Ctx.open] at hopen

/-- A server that has only ever been a STUN server relays nothing. -/
theorem stun_only_relays_nothing (id : UInt8) (ctime : UInt32) (realms : RealmTable)
    (is : List Input) (hstun : ∀ j ∈ is, j.cfg.stunOnly = true) (i : Input)
    (hrelay : i.cfg.serverRelay = false) :
    ∀ e ∈ ((Machine.run Server.step (initServer id ctime realms) is).handle i).2, e.Control := by
  have hgated := ((wellFormed_init id ctime realms).run is).gated hrelay
  have hnone : ∀ {sid ss r info},
      (Machine.run Server.step (initServer id ctime realms) is).sessionsMap sid = some ss →
        ¬ ss.alloc.LivePerm r info := by
    intro sid ss r info hss hr
    obtain ⟨srv, j, hgrants, hj⟩ :=
      ((granted_of_livePerm hss hr).and_along (Machine.along_of_forall_mem hstun)).exists
    exact absurd hj (by simp [hgrants.stunOnly_eq_false])
  intro e he
  cases e with
  | toPeer =>
    obtain ⟨_, _, _, ss, -, hss, -, ⟨-, ⟨r, info, hr, -⟩, -⟩ | ⟨⟨_, _, r, info, _, _, _, _, hr, _⟩, _⟩⟩ :=
      hgated.toPeer _ _ _ _ _ he
    · exact hnone hss hr
    · exact hnone hss hr
  | relayToClient =>
    obtain ⟨_, _, ss, -, -, hss, -, r, info, hr, -⟩ := hgated.toClient _ _ _ he
    exact hnone hss hr
  | _ => trivial

theorem stun_only_relays_nothing_binding :
    ∃ i is, i = plainInput (.clientInput 1 (clientRequest stunMethodBinding []) true) ∧
      is = permissionAndChannel.map (fun i =>
        { i with cfg := { i.cfg with stunOnly := true } }) ∧
      ((served is).handle i).2 ≠ [] ∧
      ∀ e ∈ ((served is).handle i).2, e.Control :=
  ⟨_, _, rfl, rfl, by decide +kernel, stun_only_relays_nothing 0 1000 _ _ (by simp) _ rfl⟩

end Coturn
