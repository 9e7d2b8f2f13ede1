/-
# What a client reads of a peer's datagram

The message by which `peer_input_handler` hands a datagram of a peer to the client, read back with
the parsers of `client/ns_turn_msg.c`. The datagram is cut so that it fits into a buffer with the
header of ChannelData, also where no such header is needed: exactly the datagrams not longer than
that arrive unaltered.
-/
import Coturn.Server.Expiry
import Coturn.Stun.ChannelData
import Coturn.Stun.Responses

namespace Coturn

open ByteSeq List Option

variable {buf : List UInt8}

variable {cfg : Config} {env : Env} {ss : Session} {nd : NetData} {srv : Server}

/-! ## Reading back -/

/-- What the client reads: the payload, and the address of the peer in a Data indication. -/
def clientReads (stream : Bool) (buf : List UInt8) : Option (List UInt8 × Option IoaAddr) :=
  match stunIsChannelMessage buf stream with
  | some (_, len) => some ((buf.take len).drop 4, none)
  | none =>
    if stunIsCommandMessage buf then
      (stunAttrGetFirstByType (stunAttrs buf) attrData).bind fun data =>
        (stunAttrGetFirstByType (stunAttrs buf) attrXorPeerAddress).bind fun peer =>
          let (decoded, addr) := stunAttrGetAddr [] (stunTidFromMessage buf) peer none
          if decoded then some (data.value, some addr) else none
    else none

/-- The client reads the datagram, and the address it came from if there is one. -/
def Carries (stream : Bool) (nd : NetData) (buf : List UInt8) : Prop :=
  ∃ peer, clientReads stream buf = some (nd.buf, peer) ∧ ∀ addr ∈ peer, addr = nd.srcAddr

lemma clientReads_channel {chnumber : UInt16} (hchn : stunValidChannel chnumber = true)
    {payload room : List UInt8} (stream : Bool) (hlen : payload.length ≤ udpStunBufferSize)
    (hroom : 3 ≤ room.length)
    (hbuf : stunInitChannelMessage chnumber payload room stream = some buf) :
    clientReads stream buf = some (payload, none) := by
  unfold udpStunBufferSize at hlen
  obtain ⟨hlow, hhigh⟩ : 0x4000 ≤ chnumber.toNat ∧ chnumber.toNat ≤ 0x7FFF := by
    rw [stunValidChannel, Bool.and_eq_true, decide_eq_true_eq, decide_eq_true_eq] at hchn
    exact hchn
  obtain ⟨hthree, hmod⟩ := channelPadding_spec stream payload.length
  rw [stunInitChannelMessage_eq chnumber (by omega)] at hbuf
  obtain rfl := Option.some.inj hbuf
  generalize hpadding : room.take (channelPadding stream payload.length) = padding
  have hlength : padding.length = channelPadding stream payload.length := by
    rw [← hpadding]
    exact length_take_of_le (by omega)
  have hparse : stunIsChannelMessage (beBytes 2 chnumber.toNat ++ (beBytes 2 payload.length ++
      (payload ++ padding))) stream = some (chnumber, payload.length + 4) := by
    refine stunIsChannelMessage_bytes hlow hhigh (by omega) (fun hne => ?_) stream
    rw [hlength]
    exact hmod (hlength ▸ fun hzero => hne (eq_nil_of_length_eq_zero hzero))
  rw [clientReads, hparse]
  refine congrArg some (Prod.ext ?_ rfl)
  -- four bytes of header, then the payload
  have hfour : (beBytes 2 chnumber.toNat ++ beBytes 2 payload.length).length = 4 := by simp
  show ((beBytes 2 chnumber.toNat ++ (beBytes 2 payload.length ++ (payload ++ padding))).take
    (payload.length + 4)).drop 4 = payload
  rw [← append_assoc, drop_take, drop_left' hfour, Nat.add_sub_cancel,
    take_left]

lemma clientReads_indication {data : List UInt8} {peer : IoaAddr} {k l : ℕ} {rest : List StunAttr}
    (stream : Bool) (hpeer : peer.IsInet)
    (h : WellFormedMessage buf (⟨k, attrData, data⟩ :: ⟨l, attrXorPeerAddress, stunAddrEncode peer
      true (stunTidFromMessage buf)⟩ :: rest)) :
    clientReads stream buf = some (data, some peer) := by
  have hnot : stunIsChannelMessage buf stream = none := by
    obtain ⟨-, hchannel, -⟩ := stunIsCommandMessage_iff.mp h.command
    rw [stunIsChannelMessage, hchannel]
    simp
  have haddr : stunAttrGetAddr [] (stunTidFromMessage buf) ⟨l, attrXorPeerAddress,
      stunAddrEncode peer true (stunTidFromMessage buf)⟩ none = (true, peer) := by
    have hxor : xorEd attrXorPeerAddress = true := rfl
    simp only [stunAttrGetAddr, hxor, stunAddrDecode_encode hpeer]
    rfl
  rw [clientReads, hnot]
  simp only [h.command, if_true, h.attrs]
  simp [stunAttrGetFirstByType, haddr]

/-! ## The message of the relay -/

/-- The payload and the address of the peer are in the indication, whatever is added to it. -/
lemma clientReads_built {tid data : List UInt8} (htid : tid.length = 12)
    (hdata : data.length ≤ udpStunBufferSize) (hpeer : nd.srcAddr.IsInet)
    (hmapping : cfg.addrMapping = []) (stream : Bool)
    (hbuf : Extends Set.univ (addAddrIgnore cfg (stunAttrAddIgnore (stunInitIndication
      stunMethodData tid) attrData data) attrXorPeerAddress nd.srcAddr) buf) :
    clientReads stream buf = some (data, some nd.srcAddr) := by
  have hinit := stunInitCommand_wellFormed (stunMakeIndication stunMethodData) htid
  have hlen₀ : (stunInitCommand (stunMakeIndication stunMethodData) tid).length = 20 := by
    simp [stunInitCommand, oldStunInitCommand, htid]
  rw [stunInitIndication] at hbuf
  generalize stunInitCommand (stunMakeIndication stunMethodData) tid = buf₀ at hinit hlen₀ hbuf
  unfold udpStunBufferSize at hdata
  -- both attributes fit
  have hfits₁ : buf₀.length + 4 + paddedLength data.length < maxStunMessageSize := by
    unfold paddedLength maxStunMessageSize
    omega
  obtain ⟨buf₁, hadd₁, hlen₁, hmessage₁, -⟩ := hinit.add_fits
    (show attrData < 2 ^ 16 by decide) hfits₁
  have hfits₂ : buf₁.length + 4 + paddedLength (stunAddrEncode nd.srcAddr true
      (stunTidFromMessage buf₁)).length < maxStunMessageSize := by
    have hle := stunAddrEncode_length_le nd.srcAddr true (stunTidFromMessage buf₁)
    unfold paddedLength at hlen₁ ⊢
    unfold maxStunMessageSize
    omega
  obtain ⟨buf₂, hadd₂, -, hmessage₂, htid₂⟩ := hmessage₁.add_fits
    (show attrXorPeerAddress < 2 ^ 16 by decide) hfits₂
  have hbuild : addAddrIgnore cfg (stunAttrAddIgnore buf₀ attrData data) attrXorPeerAddress
      nd.srcAddr = buf₂ := by
    have hpublic : mapAddrFromPrivateToPublic [] nd.srcAddr = nd.srcAddr := rfl
    have hxor : xorEd attrXorPeerAddress = true := rfl
    rw [stunAttrAddIgnore, hadd₁, addAddrIgnore, hmapping, stunAttrAddAddr, hpublic, hxor]
    rw [getD_some, hadd₂, getD_some]
  rw [hbuild] at hbuf
  obtain ⟨⟨added, hmessage, -⟩, htid'⟩ := hbuf _ hmessage₂
  rw [← htid₂, ← htid'] at hmessage
  exact clientReads_indication stream hpeer hmessage

lemma getTurnChannelNumber_valid {a : AddrTables} {tinfo : TurnPermissionInfo} {addr : IoaAddr}
    (h : getTurnChannelNumber a tinfo addr ≠ 0) :
    stunValidChannel (getTurnChannelNumber a tinfo addr) = true := by
  rw [getTurnChannelNumber] at h ⊢
  cases hc : getTurnChannel a tinfo addr with
  | none => simp [hc] at h
  | some c =>
    obtain ⟨-, hany⟩ := filter_eq_some_iff.mp hc
    rw [hc, bind_some] at h
    rw [bind_some]
    cases hchn : a.chns.get? c with
    | none => simp [hchn] at h
    | some chn =>
      rw [hchn] at hany
      exact hany

lemma peerMessage_reads (hmapping : cfg.addrMapping = []) (hpeer : nd.srcAddr.IsInet)
    (st : SocketType) :
    ∃ buf peer, peerMessage cfg env ss st nd = some buf ∧
      clientReads (isStreamSocket st) buf = some (nd.buf.take (udpStunBufferSize - 4), peer) ∧
      ∀ addr ∈ peer, addr = nd.srcAddr := by
  have hdata : (nd.buf.take (udpStunBufferSize - 4)).length ≤ udpStunBufferSize - 4 := by
    rw [length_take]
    exact min_le_left _ _
  rw [peerMessage]
  simp only
  generalize nd.buf.take (udpStunBufferSize - 4) = data at hdata
  generalize hchnum : Option.elim _ (0 : UInt16) _ = chnum
  unfold udpStunBufferSize at hdata
  by_cases hzero : chnum ≠ 0
  · rw [if_pos hzero]
    have hvalid : stunValidChannel chnum = true := by
      rw [← hchnum] at hzero ⊢
      cases hperm : (allocationGetPermission ss.alloc.toAddrTables nd.srcAddr).bind
          ss.alloc.toAddrTables.addrToPerm.get? with
      | none => simp [hperm] at hzero
      | some tinfo =>
        rw [hperm] at hzero
        exact getTurnChannelNumber_valid hzero
    have hmessage : ¬ maxStunMessageSize < 4 + data.length := by
      unfold maxStunMessageSize
      omega
    obtain ⟨buf, hbuf⟩ : ∃ buf, stunInitChannelMessage chnum data
        (nd.buf.drop data.length ++ env.bufferRoom.toList) (isStreamSocket st) = some buf := by
      rw [stunInitChannelMessage, if_neg hmessage]
      exact ⟨_, rfl⟩
    have hroom : 3 ≤ (nd.buf.drop data.length ++ env.bufferRoom.toList).length := by
      rw [length_append, env.bufferRoom.toList_length]
      omega
    refine ⟨buf, none, hbuf, ?_, fun addr haddr => absurd haddr (by simp)⟩
    exact clientReads_channel hvalid _ (by unfold udpStunBufferSize; omega) hroom hbuf
  · rw [if_neg hzero]
    refine ⟨_, some nd.srcAddr, rfl, ?_, fun addr haddr => (Option.some.inj haddr).symm⟩
    refine clientReads_built env.randomTid.toList_length (by unfold udpStunBufferSize; omega) hpeer
      hmapping _ ?_
    generalize addAddrIgnore cfg _ attrXorPeerAddress nd.srcAddr = buf
    have hsoftware : Extends Set.univ buf (maybeAddSoftwareAttribute cfg buf) := by
      rw [maybeAddSoftwareAttribute]
      split_ifs
      · exact extends_addIgnore (by decide) (Set.mem_univ _) _ _
      · exact .refl buf
    refine hsoftware.trans ?_
    split_ifs
    · exact extends_addFingerprint (Set.mem_univ _) _
    · exact .refl _

lemma isInet_of_permission {a : AddrTables} {addr : IoaAddr}
    (h : (allocationGetPermission a addr).isSome = true) : addr.IsInet := by
  obtain ⟨r, hr⟩ := isSome_iff_exists.mp h
  obtain ⟨-, info, -, hinfo⟩ := SlotTable.find?_eq_some hr
  exact (addrEqNoPort_iff.mp (addrEqNoPort_symm (Bool.and_eq_true _ _ ▸ hinfo).2)).1

lemma carries_iff {stream : Bool} {peer : Option IoaAddr}
    (hreads : clientReads stream buf = some (nd.buf.take (udpStunBufferSize - 4), peer))
    (hpeer : ∀ addr ∈ peer, addr = nd.srcAddr) :
    Carries stream nd buf ↔ nd.buf.length ≤ udpStunBufferSize - 4 := by
  constructor
  · rintro ⟨peer', hreads', -⟩
    rw [hreads] at hreads'
    obtain ⟨htake, -⟩ := Prod.mk.inj (Option.some.inj hreads')
    rw [← htake, length_take]
    exact min_le_left _ _
  · intro hle
    rw [take_of_length_le hle] at hreads
    exact ⟨peer, hreads, hpeer⟩

/-- The datagram is for the session, and may be handed to its client. -/
def Server.handsOn (srv : Server) (cfg : Config) (sid family : ℕ) (nd : NetData) (ss : Session)
    (s : IoaSocket) : Bool :=
  (!isMultiplexPeerUdpRelay cfg (ss.alloc.getRelaySocket family) ||
      srv.mpTable.get nd.srcAddr = some sid) &&
    (ss.alloc.getRelaySocket family).any (fun relayS =>
      nd.ttlLeft && !relayS.toBeClosed && !ss.toBeClosed && !s.toBeClosed) &&
    ss.alloc.isValid &&
    (cfg.serverRelay || (allocationGetPermission ss.alloc.toAddrTables nd.srcAddr).isSome)

/-- What is done with a datagram: the message is handed to the client, or nothing. -/
lemma mem_peerInput_iff {sid : ℕ} {s : IoaSocket} (env : Env) (family : ℕ)
    (hss : srv.sessionsMap sid = some ss) (hs : ss.clientSocket = some s) (e : Effect) :
    e ∈ (srv.handle ⟨cfg, env, .peerInput sid family nd⟩).2 ↔
      srv.handsOn cfg sid family nd ss s = true ∧
        ∃ buf, peerMessage cfg env ss s.type nd = some buf ∧
          e = .relayToClient ss.id nd.srcAddr buf := by
  show e ∈ (peerInput cfg env sid family nd srv).2 ↔ _
  rw [peerInput, withSession, hss, Server.handsOn]
  simp only
  by_cases hother : (isMultiplexPeerUdpRelay cfg (ss.alloc.getRelaySocket family) &&
      decide (srv.mpTable.get nd.srcAddr ≠ some sid)) = true
  · rw [if_pos hother]
    obtain ⟨hmp, hne⟩ := Bool.and_eq_true _ _ ▸ hother
    simp [hmp, of_decide_eq_true hne]
  rw [if_neg hother]
  have hmine : (!isMultiplexPeerUdpRelay cfg (ss.alloc.getRelaySocket family) ||
      decide (srv.mpTable.get nd.srcAddr = some sid)) = true := by
    simpa [Classical.or_iff_not_imp_left] using hother
  rw [hmine, peerInputHandler]
  cases hrelay : ss.alloc.getRelaySocket family with
  | none => simp [hs]
  | some relayS =>
    simp only [hs, any_some, Bool.true_and]
    by_cases hclosed : (!nd.ttlLeft || relayS.toBeClosed || ss.toBeClosed || s.toBeClosed) = true
    · rw [if_pos hclosed]
      have hopen : (nd.ttlLeft && !relayS.toBeClosed && !ss.toBeClosed && !s.toBeClosed) = false := by
        rw [← Bool.not_eq_true', Bool.not_and, Bool.not_and, Bool.not_and]
        simpa using hclosed
      simp [hopen]
    rw [if_neg hclosed]
    have hopen : (nd.ttlLeft && !relayS.toBeClosed && !ss.toBeClosed && !s.toBeClosed) = true := by
      simpa [and_assoc] using hclosed
    rw [hopen, Bool.true_and]
    cases hvalid : ss.alloc.isValid with
    | false => simp
    | true =>
      simp only [Bool.not_true, Bool.false_eq_true, if_false, Bool.true_and]
      by_cases hpermission : (!cfg.serverRelay &&
          (allocationGetPermission ss.alloc.toAddrTables nd.srcAddr).isNone) = true
      · rw [if_pos hpermission]
        obtain ⟨hcfg, hnone⟩ := Bool.and_eq_true _ _ ▸ hpermission
        rw [Bool.not_eq_true'] at hcfg
        simp [hcfg, isNone_iff_eq_none.mp hnone]
      rw [if_neg hpermission]
      have hallowed : (cfg.serverRelay ||
          (allocationGetPermission ss.alloc.toAddrTables nd.srcAddr).isSome) = true := by
        rw [Bool.and_eq_true, Bool.not_eq_true', not_and, Bool.not_eq_true,
          isNone_eq_false_iff] at hpermission
        cases hcfg : cfg.serverRelay
        · exact hpermission hcfg
        · rfl
      rw [hallowed]
      cases hbuf : peerMessage cfg env ss s.type nd with
      | none => simp
      | some buf => simp [Ctx.emit]

/-- The session takes datagrams from the peer and has a client to hand them to. -/
def Session.Takes (ss : Session) (cfg : Config) (family : ℕ) (srcAddr : IoaAddr) : Bool :=
  ss.clientSocket.any (fun s => !s.toBeClosed) && !ss.toBeClosed && ss.alloc.isValid &&
    (ss.alloc.getRelaySocket family).any (fun relayS => !relayS.toBeClosed) &&
    !isMultiplexPeerUdpRelay cfg (ss.alloc.getRelaySocket family) &&
    (allocationGetPermission ss.alloc.toAddrTables srcAddr).isSome

lemma peerInput_sends {sid : ℕ} {s : IoaSocket} {family : ℕ} (hss : srv.sessionsMap sid = some ss)
    (hs : ss.clientSocket = some s) (htakes : ss.Takes cfg family nd.srcAddr = true)
    (httl : nd.ttlLeft = true) (hbuf : peerMessage cfg env ss s.type nd = some buf) :
    .relayToClient ss.id nd.srcAddr buf ∈
      (srv.handle ⟨cfg, env, .peerInput sid family nd⟩).2 := by
  refine (mem_peerInput_iff env family hss hs _).mpr ⟨?_, buf, hbuf, rfl⟩
  simp only [Session.Takes, hs, any_some, Bool.and_eq_true, Bool.not_eq_true'] at htakes
  obtain ⟨⟨⟨⟨⟨hopen, hclosed⟩, hvalid⟩, hrelay⟩, hmp⟩, hpermission⟩ := htakes
  rw [Server.handsOn, hmp, hvalid, hpermission, httl, hclosed, hopen, Bool.or_true]
  simpa using hrelay

/-- A client reads its peers' datagrams unaltered exactly when they are not longer than a UDP buffer
without the header of ChannelData. -/
theorem peer_payload_unaltered_iff (srv : Server) (cfg : Config) (env : Env) (sid family : ℕ)
    (nd : NetData) (ss : Session) (s : IoaSocket) (hss : srv.sessionsMap sid = some ss)
    (hs : ss.clientSocket = some s)
    (hpermission : (allocationGetPermission ss.alloc.toAddrTables nd.srcAddr).isSome = true)
    (hmapping : cfg.addrMapping = []) :
    (∃ buf, peerMessage cfg env ss s.type nd = some buf) ∧
      ∀ e ∈ (srv.handle ⟨cfg, env, .peerInput sid family nd⟩).2,
        ∃ buf, e = .relayToClient ss.id nd.srcAddr buf ∧
          (Carries (isStreamSocket s.type) nd buf ↔ nd.buf.length ≤ udpStunBufferSize - 4) := by
  obtain ⟨buf, peer, hbuf, hreads, hpeer⟩ :=
    peerMessage_reads hmapping (isInet_of_permission hpermission) s.type
  refine ⟨⟨buf, hbuf⟩, fun e he => ?_⟩
  obtain ⟨-, buf', hbuf', rfl⟩ := (mem_peerInput_iff env family hss hs e).mp he
  obtain rfl := mem_unique hbuf hbuf'
  exact ⟨buf, rfl, carries_iff hreads hpeer⟩

/-- A datagram of the peer with which a channel is bound in `permissionAndChannel`. -/
def peerDatagram (payload : List UInt8) (h : payload.length < maxStunMessageSize) : NetData where
  buf := payload
  fits := h
  srcAddr := hostAddr 4 7000
  ttlLeft := true

lemma permissionAndChannel_takes :
    ∃ ss s, (served permissionAndChannel).sessionsMap 1 = some ss ∧ ss.clientSocket = some s ∧
      ss.id = 1 ∧ isStreamSocket s.type = false ∧
      ss.Takes plainParams 2 (hostAddr 4 7000) = true := by
  generalize hsrv : served permissionAndChannel = srv
  obtain ⟨ss, hss, hid, hstream, htakes⟩ : ∃ ss ∈ srv.sessionsMap 1, ss.id = 1 ∧
      (ss.clientSocket.any fun s => !isStreamSocket s.type) = true ∧
      ss.Takes plainParams 2 (hostAddr 4 7000) = true := by
    subst hsrv
    decide +kernel
  cases hs : ss.clientSocket with
  | none => simp [hs] at hstream
  | some s =>
    rw [hs, any_some, Bool.not_eq_true'] at hstream
    exact ⟨ss, s, hss, hs, hid, hstream, htakes⟩

theorem peer_payload_unaltered_short :
    ∃ buf, .relayToClient 1 (hostAddr 4 7000) buf ∈
        ((served permissionAndChannel).handle
          (plainInput (.peerInput 1 2 (peerDatagram [1, 2, 3] (by decide))))).2 ∧
      Carries false (peerDatagram [1, 2, 3] (by decide)) buf := by
  obtain ⟨ss, s, hss, hs, hid, hstream, htakes⟩ := permissionAndChannel_takes
  have hpermission := (Bool.and_eq_true _ _ ▸ htakes).2
  obtain ⟨⟨buf, hbuf⟩, heffects⟩ := peer_payload_unaltered_iff _ plainParams
    plainEnv 1 2 (peerDatagram [1, 2, 3] (by decide)) ss s hss hs hpermission rfl
  have hsent := peerInput_sends hss hs htakes rfl hbuf
  obtain ⟨buf', heq, hcarries⟩ := heffects _ hsent
  obtain ⟨-, -, rfl⟩ := Effect.relayToClient.inj heq
  rw [hid] at hsent
  rw [hstream] at hcarries
  exact ⟨buf, hsent, hcarries.mpr (by decide)⟩

def longDatagram : NetData := peerDatagram (List.replicate 16384 0) (by
  rw [List.length_replicate]
  decide)

/-- Of this datagram the client gets four bytes less. -/
theorem peer_payload_cut :
    ∃ buf, .relayToClient 1 (hostAddr 4 7000) buf ∈
        ((served permissionAndChannel).handle (plainInput (.peerInput 1 2 longDatagram))).2 ∧
      longDatagram.buf.length = 16384 ∧ ¬ Carries false longDatagram buf ∧
      (clientReads false buf).map (fun r => r.1.length) = some 16380 := by
  have hlength : longDatagram.buf.length = 16384 := length_replicate
  obtain ⟨ss, s, hss, hs, hid, hstream, htakes⟩ := permissionAndChannel_takes
  obtain ⟨buf, peer, hbuf, hreads, hpeer⟩ :
    ∃ buf peer, peerMessage plainParams plainEnv ss s.type
      longDatagram = some buf ∧ _ ∧ _ := peerMessage_reads rfl (Or.inl rfl) s.type
  rw [hstream] at hreads
  have hsent := peerInput_sends hss hs htakes rfl hbuf
  rw [hid] at hsent
  refine ⟨buf, hsent, hlength, ?_, ?_⟩
  · rw [carries_iff hreads hpeer, hlength]
    decide
  · rw [hreads, map_some, length_take, hlength]
    rfl

/-! ## Padding -/

/-- The number of the channel that is bound to the address, 0 if there is none. -/
def Session.channelOf (ss : Session) (addr : IoaAddr) : UInt16 :=
  ((allocationGetPermission ss.alloc.toAddrTables addr).bind
    ss.alloc.toAddrTables.addrToPerm.get?).elim 0 fun tinfo =>
      getTurnChannelNumber ss.alloc.toAddrTables tinfo addr

/-- A datagram of a peer that is relayed over a bound channel to the client of a stream. -/
structure StreamRelay where
  srv : Server
  cfg : Config
  env : Env
  sid : ℕ
  family : ℕ
  nd : NetData
  ss : Session
  s : IoaSocket
  /-- What is written to the client. -/
  buf : List UInt8
  session : srv.sessionsMap sid = some ss
  socket : ss.clientSocket = some s
  stream : isStreamSocket s.type = true
  bound : ss.channelOf nd.srcAddr ≠ 0
  relayed : .relayToClient ss.id nd.srcAddr buf ∈
    (srv.handle ⟨cfg, env, .peerInput sid family nd⟩).2

namespace StreamRelay

variable (r : StreamRelay)

def chnum : UInt16 := r.ss.channelOf r.nd.srcAddr

/-- The part of the datagram that is relayed. -/
def data : List UInt8 := r.nd.buf.take (udpStunBufferSize - 4)

lemma data_length : r.data.length = min (udpStunBufferSize - 4) r.nd.buf.length := length_take

/-- The bytes for the client, with the padding from the network buffer. -/
def bytes (room : List.Vector UInt8 3) : List UInt8 :=
  beBytes 2 r.chnum.toNat ++ (beBytes 2 r.data.length ++
    (r.data ++ (r.nd.buf.drop r.data.length ++ room.toList).take (channelPadding true r.data.length)))

lemma peerMessage_eq (env : Env) :
    peerMessage r.cfg env r.ss r.s.type r.nd = some (r.bytes env.bufferRoom) := by
  have hlen : r.data.length ≤ 65503 := by
    rw [r.data_length]
    exact (min_le_left _ _).trans (by decide)
  have hchannel : peerMessage r.cfg env r.ss r.s.type r.nd = stunInitChannelMessage r.chnum r.data
      (r.nd.buf.drop r.data.length ++ env.bufferRoom.toList) (isStreamSocket r.s.type) :=
    if_pos r.bound
  rw [hchannel, stunInitChannelMessage_eq r.chnum hlen, r.stream]
  rfl

lemma buf_eq : r.buf = r.bytes r.env.bufferRoom := by
  obtain ⟨-, buf, hbuf, heq⟩ := (mem_peerInput_iff r.env r.family r.session r.socket _).mp r.relayed
  rw [r.peerMessage_eq] at hbuf
  obtain ⟨-, -, rfl⟩ := Effect.relayToClient.inj heq
  exact (Option.some.inj hbuf).symm

/-- The same datagram in a network buffer that has held something else before. -/
def withRoom (room : List.Vector UInt8 3) : StreamRelay :=
  { r with
    env := { r.env with bufferRoom := room }
    buf := r.bytes room
    relayed := by
      obtain ⟨hhands, -⟩ := (mem_peerInput_iff r.env r.family r.session r.socket _).mp r.relayed
      exact (mem_peerInput_iff _ r.family r.session r.socket _).mpr
        ⟨hhands, _, r.peerMessage_eq _, rfl⟩ }

lemma bytes_of_mod (hmod : r.data.length % 4 = 0) (room : List.Vector UInt8 3) :
    r.bytes room = beBytes 2 r.chnum.toNat ++ (beBytes 2 r.data.length ++ r.data) := by
  have hnone : channelPadding true r.data.length = 0 := by
    rw [channelPadding, paddedLength]
    simp only [if_true]
    omega
  rw [bytes, hnone, take_zero, append_nil]

lemma bytes_ne_of_mod (hmod : r.data.length % 4 ≠ 0) {room room' : List.Vector UInt8 3}
    (hne : room.toList.head? ≠ room'.toList.head?) : r.bytes room ≠ r.bytes room' := by
  intro heq
  have hpos : channelPadding true r.data.length = channelPadding true r.data.length - 1 + 1 := by
    rw [channelPadding, paddedLength]
    simp only [if_true]
    omega
  have hdrop : r.nd.buf.drop r.data.length = [] := by
    -- a datagram that is cut needs no padding
    refine drop_eq_nil_of_le ?_
    rw [r.data_length] at hmod ⊢
    unfold udpStunBufferSize at hmod ⊢
    omega
  have hpadding := append_cancel_left (append_cancel_left (append_cancel_left heq))
  rw [hdrop, nil_append, nil_append, hpos] at hpadding
  refine hne ?_
  have hhead := congrArg List.head? hpadding
  rwa [head?_take, head?_take, if_neg (by omega), if_neg (by omega)] at hhead

end StreamRelay

/-- What is written to a stream client depends on the channel and the datagram alone exactly when
the relayed part is a multiple of four bytes long. -/
theorem padding_determined_iff (r : StreamRelay) :
    (∀ r' : StreamRelay, r'.chnum = r.chnum → r'.nd.buf = r.nd.buf → r'.buf = r.buf) ↔
      min (udpStunBufferSize - 4) r.nd.buf.length % 4 = 0 := by
  rw [← r.data_length]
  constructor
  · intro hsame
    by_contra hmod
    have hleak : ∀ room, (r.withRoom room).buf = r.buf := fun room => hsame (r.withRoom room) rfl rfl
    have hdiffer : r.bytes ⟨[0, 0, 0], rfl⟩ ≠ r.bytes ⟨[1, 0, 0], rfl⟩ :=
      r.bytes_ne_of_mod hmod (by decide)
    exact hdiffer ((hleak _).trans (hleak _).symm)
  · intro hmod r' hchnum hbuf
    have hdata : r'.data = r.data := congrArg (List.take _) hbuf
    rw [r'.buf_eq, r.buf_eq, r.bytes_of_mod hmod, r'.bytes_of_mod (by rw [hdata]; exact hmod),
      hchnum, hdata]

def channelOnStream : List Input :=
  [.openSession tcpClient none false,
    .clientInput 1 plainAllocate true,
    .clientInput 1 (clientRequest stunMethodChannelBind
      [channelAttr 0x4000, peerAttr (hostAddr 4 7000)]) true].map plainInput

def oneByte : NetData := peerDatagram [9] (by decide)

lemma channelOnStream_hands :
    ∃ ss s, (served channelOnStream).sessionsMap 1 =
        some ss ∧ ss.clientSocket = some s ∧ isStreamSocket s.type = true ∧
      ss.channelOf (hostAddr 4 7000) = 0x4000 ∧
      (served channelOnStream).handsOn
        plainParams 1 2 oneByte ss s = true := by
  generalize hsrv : served channelOnStream = srv
  obtain ⟨ss, hss, hchannel, hclient⟩ :
      ∃ ss ∈ srv.sessionsMap 1, ss.channelOf (hostAddr 4 7000) = 0x4000 ∧
      (ss.clientSocket.any fun s => isStreamSocket s.type && srv.handsOn plainParams 1 2
        oneByte ss s) = true := by
    subst hsrv
    decide +kernel
  obtain ⟨s, hs, hclient⟩ := (Option.any_eq_true _ _).mp hclient
  obtain ⟨hstream, hhands⟩ := Bool.and_eq_true _ _ ▸ hclient
  exact ⟨ss, s, hss, hs, hstream, hchannel, hhands⟩

lemma channelOnStream_relay :
    ∃ r : StreamRelay, r.chnum = 0x4000 ∧ r.nd = oneByte ∧ r.env = plainEnv ∧
      r.srv = served channelOnStream := by
  obtain ⟨ss, s, hss, hs, hstream, hchannel, hhands⟩ := channelOnStream_hands
  generalize served channelOnStream = srv
    at hss hhands ⊢
  obtain ⟨buf, -, hbuf, -⟩ :
    ∃ buf peer, peerMessage plainParams plainEnv ss s.type
      oneByte = some buf ∧ _ ∧ _ := peerMessage_reads rfl (Or.inl rfl) s.type
  have hbound : ss.channelOf oneByte.srcAddr ≠ 0 := by
    show ss.channelOf (hostAddr 4 7000) ≠ 0
    rw [hchannel]
    decide
  have hrelayed := (mem_peerInput_iff plainEnv 2 hss hs _).mpr
    ⟨hhands, buf, hbuf, rfl⟩
  exact ⟨⟨srv, plainParams, plainEnv, 1, 2, oneByte, ss, s, buf, hss, hs,
    hstream, hbound, hrelayed⟩, hchannel, rfl, rfl, rfl⟩

/-- One byte of the peer is followed by three bytes that the network buffer has held before. -/
theorem padding_leaks :
    ∃ r r' : StreamRelay, r'.chnum = r.chnum ∧ r'.nd = r.nd ∧ r'.srv = r.srv ∧ r'.cfg = r.cfg ∧
      r.srv = served channelOnStream ∧
      r.buf = [0x40, 0, 0, 1, 9, 0, 0, 0] ∧ r'.buf = [0x40, 0, 0, 1, 9, 7, 8, 9] := by
  obtain ⟨r, hchnum, hnd, henv, hsrv⟩ := channelOnStream_relay
  have hbytes : ∀ room, r.bytes room = [0x40, 0, 0, 1, 9] ++ room.toList := by
    intro room
    have hdata : r.data = [9] := by
      rw [StreamRelay.data, hnd]
      rfl
    have hrest : r.nd.buf.drop 1 = [] := by
      rw [hnd]
      rfl
    rw [StreamRelay.bytes, hchnum, hdata]
    show [0x40, 0, 0, 1, 9] ++ (r.nd.buf.drop 1 ++ room.toList).take 3 = _
    rw [hrest, nil_append, take_of_length_le room.toList_length.le]
  refine ⟨r, r.withRoom ⟨[7, 8, 9], rfl⟩, rfl, rfl, rfl, rfl, hsrv, ?_, hbytes _⟩
  rw [r.buf_eq, hbytes, henv]
  rfl

end Coturn
