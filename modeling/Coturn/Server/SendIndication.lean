/-
# Ambiguous Send indications

`handle_turn_send` refuses a second DATA attribute and means to refuse a second XOR-PEER-ADDRESS as
well, but the flag that would tell, `addr_found`, is a constant. So the last peer address counts,
and exactly the indications with several addresses and one payload are relayed although they are
ambiguous.
-/
import Coturn.Server.DataPath

namespace Coturn

open Ctx ByteSeq List

variable {cfg : Config} {env : Env} {tid : List UInt8} {nd : NetData} {canResume : Bool}
  {attrs : List StunAttr} {sar : StunAttr} {p : Parsed SendVars} {c : Ctx} {e : Effect}

/-! ## The loop -/

def countType (attrType : ℕ) (attrs : List StunAttr) : ℕ :=
  attrs.countP fun sar => sar.type == attrType

/-- A Send indication understands the attribute, or need not understand it. -/
def sendKnows (cfg : Config) (sar : StunAttr) : Bool :=
  skipAttribute sar.type || (sar.type == attrDontFragment && cfg.dontFragment) ||
    sar.type == attrXorPeerAddress || sar.type == attrData || 0x7FFF < sar.type

/-- The last peer address; none is `IoaAddr.unset`. -/
def lastPeer (cfg : Config) (tid : List UInt8) (attrs : List StunAttr) : IoaAddr :=
  (peerAddrs cfg tid attrs).getLastD .unset

/-- The rounds of the loop of a Send indication, one for each kind of attribute. -/
inductive SendRound (cfg : Config) (tid : List UInt8) (p : Parsed SendVars) (sar : StunAttr) :
    Parsed SendVars → Prop
  | pass : sendKnows cfg sar = true → sar.type ≠ attrXorPeerAddress → sar.type ≠ attrData →
      SendRound cfg tid p sar p
  | peer : sar.type = attrXorPeerAddress → SendRound cfg tid p sar
      (p.set { p.val with peerAddr := (stunAttrGetAddr cfg.addrMapping tid sar none).2 })
  | data : sar.type = attrData → p.val.data = none → SendRound cfg tid p sar
      (p.set { p.val with data := some sar.value, offset := sar.offset + 4 })
  | duplicate : sar.type = attrData → p.val.data.isSome = true →
      SendRound cfg tid p sar (p.fail 400 "Data duplication")
  | unknown : sendKnows cfg sar = false → SendRound cfg tid p sar (p.addUnknown sar.type)

lemma sendAttr_round (cfg : Config) (tid : List UInt8) (p : Parsed SendVars) (sar : StunAttr) :
    SendRound cfg tid p sar (sendAttr cfg tid p sar) := by
  unfold sendAttr
  by_cases hskip : skipAttribute sar.type = true
  · rw [if_pos hskip]
    refine .pass (by rw [sendKnows, hskip]; rfl) ?_ ?_
    · intro htype
      rw [htype] at hskip
      exact absurd hskip (by decide)
    · intro htype
      rw [htype] at hskip
      exact absurd hskip (by decide)
  rw [if_neg hskip]
  have hskip' : skipAttribute sar.type = false := by simpa using hskip
  split
  · next htype =>
    cases hcfg : cfg.dontFragment with
    | false =>
      refine .unknown ?_
      rw [sendKnows, htype, hcfg]
      decide
    | true =>
      refine .pass ?_ (by rw [htype]; decide) (by rw [htype]; decide)
      rw [sendKnows, htype, hcfg]
      decide
  · next htype => exact .peer htype
  · next htype =>
    cases hdata : p.val.data with
    | none => exact .data htype hdata
    | some data => exact .duplicate htype (by rw [hdata]; rfl)
  · next hfrag hpeer hdata =>
    unfold Parsed.other
    by_cases hlow : sar.type ≤ 0x7FFF
    · rw [if_pos hlow]
      refine .unknown ?_
      have hlow' : decide (0x7FFF < sar.type) = false := decide_eq_false (by omega)
      rw [sendKnows, hskip', beq_false_of_ne hfrag, beq_false_of_ne hpeer, beq_false_of_ne hdata,
        hlow']
      rfl
    · rw [if_neg hlow]
      refine .pass ?_ hpeer hdata
      have hhigh : decide (0x7FFF < sar.type) = true := decide_eq_true (by omega)
      rw [sendKnows, hhigh, Bool.or_true]

variable {q : Parsed SendVars}

lemma SendRound.quiet (h : SendRound cfg tid p sar q) (hq : q.Quiet) : p.Quiet := by
  obtain ⟨herr, hunknown⟩ := hq
  cases h with
  | pass _ _ _ => exact ⟨herr, hunknown⟩
  | peer _ => exact ⟨herr, hunknown⟩
  | data _ _ => exact ⟨herr, hunknown⟩
  | duplicate _ _ => exact absurd herr (by simp [Parsed.fail])
  | unknown _ => exact absurd hunknown (by simp [Parsed.addUnknown])

lemma readSend_quiet_start {attrs : List StunAttr} {p : Parsed SendVars}
    (h : (readAttrs (sendAttr cfg tid) p attrs).Quiet) : p.Quiet := by
  have hstart := readAttrs_accepts (Q := fun _ => True) (fun p sar herr hunknown => ?_) h.1 h.2
  · exact ⟨hstart.1, hstart.2.1⟩
  · obtain ⟨herr', hunknown'⟩ := (sendAttr_round cfg tid p sar).quiet ⟨herr, hunknown⟩
    exact ⟨herr', hunknown', trivial⟩

/-- The number of payloads that have been read, at most one. -/
def SendVars.payloads (v : SendVars) : ℕ := if v.data.isSome then 1 else 0

lemma SendVars.payloads_eq_one {v : SendVars} : v.payloads = 1 ↔ v.data.isSome = true := by
  rw [payloads]
  split_ifs with hdata
  · simp [hdata]
  · simp [hdata]

/-- What the loop has read from `p` to `q`: all payloads, and the last of the addresses. -/
structure SendRead (cfg : Config) (tid : List UInt8) (attrs : List StunAttr)
    (p q : Parsed SendVars) : Prop where
  known : ∀ sar ∈ attrs, sendKnows cfg sar = true
  payloads : p.val.payloads + countType attrData attrs = q.val.payloads
  peer : q.val.peerAddr = (peerAddrs cfg tid attrs).getLastD p.val.peerAddr

lemma countType_cons (attrType : ℕ) (sar : StunAttr) (attrs : List StunAttr) :
    countType attrType (sar :: attrs) =
      countType attrType attrs + if sar.type = attrType then 1 else 0 := by
  simp [countType, countP_cons]

lemma SendRound.reads (h : SendRound cfg tid p sar q) (hq : q.Quiet) :
    sendKnows cfg sar = true ∧
      q.val.payloads = p.val.payloads + (if sar.type = attrData then 1 else 0) ∧
      q.val.peerAddr = if sar.type = attrXorPeerAddress then
        (stunAttrGetAddr cfg.addrMapping tid sar none).2 else p.val.peerAddr := by
  have hne : attrXorPeerAddress ≠ attrData := by decide
  cases h with
  | pass hknows hpeer hdata => exact ⟨hknows, by rw [if_neg hdata]; rfl, by rw [if_neg hpeer]⟩
  | peer htype =>
    refine ⟨?_, ?_, ?_⟩
    · rw [sendKnows, htype]
      simp
    · rw [htype, if_neg hne]
      rfl
    · rw [if_pos htype]
      rfl
  | data htype hdata =>
    refine ⟨?_, ?_, ?_⟩
    · rw [sendKnows, htype]
      simp
    · rw [if_pos htype, SendVars.payloads, SendVars.payloads, hdata]
      rfl
    · rw [htype, if_neg hne.symm]
      rfl
  | duplicate _ _ => exact absurd hq.1 (by simp [Parsed.fail])
  | unknown _ => exact absurd hq.2 (by simp [Parsed.addUnknown])

lemma readSend_reads {attrs : List StunAttr} {p : Parsed SendVars}
    (h : (readAttrs (sendAttr cfg tid) p attrs).Quiet) :
    SendRead cfg tid attrs p (readAttrs (sendAttr cfg tid) p attrs) := by
  induction attrs generalizing p with
  | nil => exact ⟨by simp, rfl, rfl⟩
  | cons sar attrs ih =>
    have hlive := (readSend_quiet_start h).live
    rw [readAttrs, if_pos hlive] at h ⊢
    obtain ⟨hknown, hpayloads, hpeer⟩ :=
      (sendAttr_round cfg tid p sar).reads (readSend_quiet_start h)
    have hrest := ih h
    refine ⟨?_, ?_, ?_⟩
    · intro x hx
      rcases mem_cons.mp hx with rfl | hx
      · exact hknown
      · exact hrest.known x hx
    · rw [← hrest.payloads, hpayloads, countType_cons]
      omega
    · rw [hrest.peer, hpeer, peerAddrs, peerAddrs, filter_cons]
      by_cases htype : sar.type = attrXorPeerAddress
      · rw [if_pos htype, if_pos (by simpa using htype), map_cons, getLastD_cons]
      · rw [if_neg htype, if_neg (by simpa using htype)]

/-- The loop ends without complaint when it knows all attributes and there is no second payload. -/
lemma readSend_quiet {attrs : List StunAttr} {p : Parsed SendVars} (hp : p.Quiet)
    (hknown : ∀ sar ∈ attrs, sendKnows cfg sar = true)
    (hone : p.val.payloads + countType attrData attrs ≤ 1) :
    (readAttrs (sendAttr cfg tid) p attrs).Quiet := by
  induction attrs generalizing p with
  | nil => exact hp
  | cons sar attrs ih =>
    rw [countType_cons] at hone
    have hround := sendAttr_round cfg tid p sar
    have hquiet : (sendAttr cfg tid p sar).Quiet := by
      generalize sendAttr cfg tid p sar = q at hround
      cases hround with
      | pass _ _ _ => exact hp
      | peer _ => exact hp
      | data _ _ => exact hp
      | duplicate htype hdata =>
        rw [if_pos htype, SendVars.payloads, if_pos hdata] at hone
        omega
      | unknown hunknown =>
        rw [hknown sar mem_cons_self] at hunknown
        exact absurd hunknown (by decide)
    rw [readAttrs, if_pos hp.live]
    refine ih hquiet (fun x hx => hknown x (mem_cons_of_mem sar hx)) ?_
    rw [(hround.reads hquiet).2.1]
    omega

lemma readSend_spec (hquiet : (readSend cfg tid attrs).Quiet) :
    SendRead cfg tid attrs (.start ⟨.unset, none, 0⟩) (readSend cfg tid attrs) :=
  readSend_reads hquiet

/-- The loop ends well with known attributes and one payload; the number of addresses does not
matter. -/
lemma readSend_iff (cfg : Config) (tid : List UInt8) (attrs : List StunAttr) :
    ((readSend cfg tid attrs).Quiet ∧ (readSend cfg tid attrs).val.data.isSome = true) ↔
      (∀ sar ∈ attrs, sendKnows cfg sar = true) ∧ countType attrData attrs = 1 := by
  have hzero : (Parsed.start (⟨.unset, none, 0⟩ : SendVars)).val.payloads = 0 := rfl
  rw [← SendVars.payloads_eq_one]
  constructor
  · rintro ⟨hquiet, hdata⟩
    have hread := readSend_spec hquiet
    refine ⟨hread.known, ?_⟩
    rw [← hdata, ← hread.payloads, hzero, Nat.zero_add]
  · rintro ⟨hknown, hone⟩
    have hquiet : (readSend cfg tid attrs).Quiet :=
      readSend_quiet ⟨rfl, rfl⟩ hknown (by rw [hone, hzero])
    refine ⟨hquiet, ?_⟩
    rw [← (readSend_spec hquiet).payloads, hone, hzero]

/-! ## The handler -/

def Effect.ToPeer : Effect → Prop
  | .toPeer _ _ _ _ _ => True
  | _ => False

instance : DecidablePred Effect.ToPeer := fun e => by
  cases e <;> first | exact isTrue trivial | exact isFalse id

/-- The session may send to the address, and can. -/
def Ctx.reaches (cfg : Config) (c : Ctx) (peerAddr : IoaAddr) : Bool :=
  !addrAny peerAddr &&
    (cfg.serverRelay || (allocationGetPermission c.ss.alloc.toAddrTables peerAddr).isSome) &&
    (registerMultiplexPeer cfg peerAddr c).1 && (c.ss.alloc.getRelaySocket peerAddr.family).isSome

lemma Ctx.reaches_iff (cfg : Config) (c : Ctx) (peerAddr : IoaAddr) :
    c.reaches cfg peerAddr = true ↔ ¬ addrAny peerAddr = true ∧
      ¬ (!cfg.serverRelay &&
        (allocationGetPermission c.ss.alloc.toAddrTables peerAddr).isNone) = true ∧
      (registerMultiplexPeer cfg peerAddr c).1 = true ∧
      (c.ss.alloc.getRelaySocket peerAddr.family).isSome = true := by
  rw [Ctx.reaches]
  cases cfg.serverRelay <;> cases allocationGetPermission c.ss.alloc.toAddrTables peerAddr <;>
    simp [and_assoc]

lemma registerMultiplexPeer_fst (cfg : Config) (peerAddr : IoaAddr) {c c' : Ctx}
    (halloc : c'.ss.alloc = c.ss.alloc) (hid : c'.ss.id = c.ss.id) (hsrv : c'.srv = c.srv) :
    (registerMultiplexPeer cfg peerAddr c').1 = (registerMultiplexPeer cfg peerAddr c).1 := by
  simp only [registerMultiplexPeer, halloc, hid, hsrv]
  split_ifs
  · rfl
  · rfl
  · cases mpRegisterPeer c.srv peerAddr c.ss.id <;> rfl

/-- Whether a Send indication that gets to its handler is relayed. -/
def Ctx.relaysSend (cfg : Config) (tid : List UInt8) (nd : NetData) (attrs : List StunAttr)
    (c : Ctx) : Prop :=
  nd.ttlLeft = true ∧ (∀ sar ∈ attrs, sendKnows cfg sar = true) ∧ countType attrData attrs = 1 ∧
    c.reaches cfg (lastPeer cfg tid attrs) = true

lemma not_toPeer_of_log (hlog : c.log = []) : ¬ ∃ e ∈ c.log, e.ToPeer := by
  rintro ⟨e, he, -⟩
  rw [hlog] at he
  exact absurd he not_mem_nil

lemma sendToPeer_log_iff (peerAddr : IoaAddr) (payload : List UInt8) (hlog : c.log = []) :
    (∃ e ∈ (sendToPeer peerAddr payload c).log, e.ToPeer) ↔
      (c.ss.alloc.getRelaySocket peerAddr.family).isSome = true := by
  unfold sendToPeer
  cases c.ss.alloc.getRelaySocket peerAddr.family with
  | none => exact iff_of_false (not_toPeer_of_log hlog) (by simp)
  | some relayS =>
    refine iff_of_true ⟨.toPeer c.ss.id peerAddr payload relayS (c.srv.mpTable.get peerAddr), ?_,
      trivial⟩ rfl
    exact mem_append_right _ (mem_singleton_self _)

lemma registerMultiplexPeer_rest (cfg : Config) (peerAddr : IoaAddr) (c : Ctx) :
    (registerMultiplexPeer cfg peerAddr c).2.log = c.log ∧
      (registerMultiplexPeer cfg peerAddr c).2.ss = c.ss := by
  rcases registerMultiplexPeer_cases cfg peerAddr c with ⟨-, h⟩ | ⟨-, -, -, h⟩ | ⟨-, -, -, h⟩
  · rw [h]
    exact ⟨rfl, rfl⟩
  · rw [h]
    exact ⟨rfl, rfl⟩
  · rw [h]
    exact ⟨rfl, rfl⟩

lemma registered_send_iff (cfg : Config) (peerAddr : IoaAddr) (payload : List UInt8)
    (hlog : c.log = []) :
    (∃ e ∈ (match registerMultiplexPeer cfg peerAddr c with
      | (false, c) => c
      | (true, c) => sendToPeer peerAddr payload c).log, e.ToPeer) ↔
    (registerMultiplexPeer cfg peerAddr c).1 = true ∧
      (c.ss.alloc.getRelaySocket peerAddr.family).isSome = true := by
  obtain ⟨hlog₁, hss₁⟩ := registerMultiplexPeer_rest cfg peerAddr c
  generalize registerMultiplexPeer cfg peerAddr c = r at hlog₁ hss₁ ⊢
  obtain ⟨registered, c₁⟩ := r
  rw [hlog] at hlog₁
  cases registered with
  | false => exact iff_of_false (not_toPeer_of_log hlog₁) (by simp)
  | true =>
    simp only [true_and]
    rw [← hss₁]
    exact sendToPeer_log_iff peerAddr payload hlog₁

lemma handleTurnSend_log_iff (hudp : c.ss.isTcpRelay = false) (hvalid : c.ss.alloc.isValid = true)
    (hlog : c.log = []) :
    (∃ e ∈ (handleTurnSend cfg tid nd attrs c).log, e.ToPeer) ↔ c.relaysSend cfg tid nd attrs := by
  have hiff := readSend_iff cfg tid attrs
  rw [handleTurnSend, if_neg (by simp [hudp]), hvalid, Ctx.relaysSend, ← and_assoc (b := _ = 1),
    ← hiff]
  by_cases httl : nd.ttlLeft = true
  swap
  · rw [if_pos (by simpa using httl)]
    exact iff_of_false (not_toPeer_of_log hlog) fun h => httl h.1
  rw [if_neg (by simpa using httl)]
  simp only
  by_cases herr : (readSend cfg tid attrs).errCode = 0
  swap
  · rw [if_pos herr]
    exact iff_of_false (not_toPeer_of_log hlog) fun h => herr h.2.1.1.1
  rw [if_neg (not_not_intro herr)]
  by_cases hunknown : (readSend cfg tid attrs).unknown = []
  swap
  · rw [if_pos hunknown]
    exact iff_of_false (not_toPeer_of_log hlog) fun h => hunknown h.2.1.1.2
  have hpeer : (readSend cfg tid attrs).val.peerAddr = lastPeer cfg tid attrs :=
    (readSend_spec ⟨herr, hunknown⟩).peer
  rw [if_neg (not_not_intro hunknown), hpeer]
  cases hdata : (readSend cfg tid attrs).val.data with
  | none => exact iff_of_false (not_toPeer_of_log hlog) (by simp)
  | some data =>
    -- the loop has ended well: what is left is whether the last address can be reached
    have hleft : (nd.ttlLeft = true ∧ ((readSend cfg tid attrs).Quiet ∧ (some data).isSome = true) ∧
        c.reaches cfg (lastPeer cfg tid attrs) = true) ↔
        c.reaches cfg (lastPeer cfg tid attrs) = true :=
      ⟨fun h => h.2.2, fun h => ⟨httl, ⟨⟨herr, hunknown⟩, rfl⟩, h⟩⟩
    rw [hleft]
    generalize lastPeer cfg tid attrs = peerAddr
    rw [Ctx.reaches_iff]
    dsimp only
    by_cases hany : addrAny peerAddr = true
    · rw [if_pos hany]
      exact iff_of_false (not_toPeer_of_log hlog) fun h => h.1 hany
    have hss : (c.afterLoop (readSend cfg tid attrs)).ss = c.ss := rfl
    rw [if_neg hany, hss]
    by_cases hpermits : (!cfg.serverRelay &&
        (allocationGetPermission c.ss.alloc.toAddrTables peerAddr).isNone) = true
    · rw [if_pos hpermits]
      exact iff_of_false (not_toPeer_of_log hlog) fun h => h.2.1 hpermits
    · have hlog₁ : (c.afterLoop (readSend cfg tid attrs)).log = [] := hlog
      rw [if_neg hpermits]
      refine (registered_send_iff cfg peerAddr _ hlog₁).trans ?_
      have hfst : (registerMultiplexPeer cfg peerAddr (c.afterLoop (readSend cfg tid attrs))).1 =
          (registerMultiplexPeer cfg peerAddr c).1 :=
        registerMultiplexPeer_fst cfg peerAddr rfl rfl rfl
      rw [hfst, hss]
      exact ⟨fun h => ⟨hany, hpermits, h⟩, fun h => h.2.2⟩

/-! ## The server -/

/-- The packet gets to `handle_turn_command`. -/
def Ctx.hears (nd : NetData) (c : Ctx) : Bool :=
  !c.ss.toBeClosed &&
    (c.ss.clientSocket.any fun s =>
      !s.toBeClosed && s.appType != .httpClient && s.appType != .httpsClient) &&
    (stunIsCommandMessageFullCheck nd.buf false c.ss.enforceFingerprints).1

/-- The indication has no single meaning. -/
def AmbiguousSend (attrs : List StunAttr) : Prop :=
  2 ≤ countType attrXorPeerAddress attrs ∨ 2 ≤ countType attrData attrs
  deriving Decidable

lemma IsSend.not_channel (h : IsSend nd.buf) (stream : Bool) :
    stunIsChannelMessage nd.buf stream = none := by
  have hnot := h.1
  rw [stunIsIndication, Bool.and_eq_true, Bool.not_eq_true', isChannelMsg] at hnot
  rw [stunIsChannelMessage]
  by_cases hshort : nd.buf.length < 4
  · rw [if_pos hshort]
  · have hstarts : startsWithChannel nd.buf = false := by
      simpa [show 4 ≤ nd.buf.length by omega] using hnot.1
    rw [if_neg hshort, hstarts]
    rfl

lemma handleMessage_of_send (h : IsSend nd.buf) (c : Ctx) :
    handleMessage cfg env nd canResume c =
      handleTurnSend cfg (stunTidFromMessage nd.buf) nd (stunAttrs nd.buf) c.silent := by
  have hrequest : ¬ stunIsRequest nd.buf = true := fun hrequest => by
    rw [IsSend, stunIsIndication_of_request hrequest] at h
    exact absurd h.1 (by decide)
  rw [handleMessage, if_neg hrequest, if_pos h.1, h.2]
  rfl

/-- A Send indication gets to its handler or has no effect at all. -/
lemma readClientConnection_of_send (h : IsSend nd.buf) (hreply : c.reply = .init) :
    (c.hears nd = true ∧ readClientConnection cfg env nd canResume c =
        readCommand cfg env nd canResume (c.received nd)) ∨
      (c.hears nd = false ∧ (readClientConnection cfg env nd canResume c).log = c.log) := by
  have hmethod : stunGetMethod nd.buf ≠ stunMethodBinding := by
    rw [h.2]
    decide
  unfold readClientConnection Ctx.hears
  cases hs : c.ss.clientSocket with
  | none => exact Or.inr ⟨by simp, rfl⟩
  | some s =>
    dsimp only
    by_cases hclosed : (c.ss.toBeClosed || s.toBeClosed) = true
    · rw [if_pos hclosed]
      refine Or.inr ⟨?_, rfl⟩
      rcases Bool.or_eq_true _ _ ▸ hclosed with hss | hsock
      · simp [hss]
      · simp [hsock]
    rw [if_neg hclosed]
    by_cases happ : s.appType = .httpClient ∨ s.appType = .httpsClient
    · rw [if_pos happ]
      refine Or.inr ⟨?_, rfl⟩
      rcases happ with happ | happ
      · simp [happ]
      · simp [happ]
    rw [if_neg happ, h.not_channel]
    dsimp only
    cases hcheck : (stunIsCommandMessageFullCheck nd.buf false c.ss.enforceFingerprints).1 with
    | true =>
      refine Or.inl ⟨?_, rfl⟩
      simp only [Bool.or_eq_true, not_or, Bool.not_eq_true] at hclosed happ
      simp [hclosed.1, hclosed.2, happ.1, happ.2]
    | false =>
      refine Or.inr ⟨by simp, ?_⟩
      rw [if_neg (by decide)]
      cases oldStunIsCommandMessage nd.buf with
      | none => rfl
      | some cookie =>
        dsimp only
        split_ifs
        · rw [handleOldStunCommand_of_ne cfg env nd cookie _ hmethod, writeResponse_of_none]
          · rfl
          · show c.reply.resp = none
            rw [hreply]
            rfl
        · rfl

lemma handle_send_iff {srv : Server} {i : Input} (hnum : srv.Numbered)
    (hpacket : srv.packet i = some (nd, canResume, c)) (hsend : IsSend nd.buf)
    (hvalid : c.ss.alloc.isValid = true) (hudp : c.ss.isTcpRelay = false) :
    (∃ e ∈ (srv.handle i).2, e.ToPeer) ↔ c.hears nd = true ∧
      c.relaysSend i.cfg (stunTidFromMessage nd.buf) nd (stunAttrs nd.buf) := by
  have hstate := packet_state hnum hpacket
  obtain ⟨hlog, -⟩ := handle_packet hnum hpacket
  rw [hlog]
  rcases @readClientConnection_of_send i.cfg i.env nd canResume c hsend hstate.reply with
    ⟨hhears, heq⟩ | ⟨hdeaf, heq⟩
  · rw [heq, hhears]
    -- finishing the command writes at most a response
    obtain ⟨l, hl, hmessage⟩ := (readCommand_calm i.cfg i.env nd canResume (c.received nd)).1.log
    have hresponse : ∀ e ∈ l, ¬ e.ToPeer := by
      intro e he
      have := hmessage e he
      cases e <;> simp_all [Effect.Message, Effect.ToPeer]
    have hsplit : ∀ l₀ : List Effect, (∃ e ∈ l₀ ++ l, e.ToPeer) ↔ ∃ e ∈ l₀, e.ToPeer := by
      intro l₀
      constructor
      · rintro ⟨e, he, hpeer⟩
        rcases mem_append.mp he with he | he
        · exact ⟨e, he, hpeer⟩
        · exact absurd hpeer (hresponse e he)
      · rintro ⟨e, he, hpeer⟩
        exact ⟨e, mem_append_left l he, hpeer⟩
    rw [hl, hsplit, handleMessage_of_send hsend, handleTurnSend_log_iff]
    · have hfst : ∀ peerAddr, (registerMultiplexPeer i.cfg peerAddr
          (c.received nd).silent).1 =
          (registerMultiplexPeer i.cfg peerAddr c).1 :=
        fun peerAddr => registerMultiplexPeer_fst i.cfg peerAddr rfl rfl rfl
      simp only [true_and, Ctx.relaysSend, Ctx.reaches]
      rw [← hfst]
      exact Iff.rfl
    · exact hudp
    · exact hvalid
    · exact hstate.log
  · refine iff_of_false (not_toPeer_of_log (heq.trans hstate.log)) ?_
    rw [hdeaf]
    rintro ⟨h, -⟩
    exact absurd h (by decide)

/-- A Send indication with several peer addresses or payloads sends nothing, unless there is one
payload, all attributes are known, and the last address can be reached. -/
theorem ambiguous_send_dropped_iff (id : UInt8) (ctime : UInt32) (realms : RealmTable)
    (is : List Input) (i : Input) (nd : NetData) (canResume : Bool) (c : Ctx)
    (hpacket : (Machine.run Server.step (initServer id ctime realms) is).packet i =
      some (nd, canResume, c))
    (hsend : IsSend nd.buf) (hvalid : c.ss.alloc.isValid = true) (hudp : c.ss.isTcpRelay = false) :
    (AmbiguousSend (stunAttrs nd.buf) →
      ∀ e ∈ ((Machine.run Server.step (initServer id ctime realms) is).handle i).2, ¬ e.ToPeer) ↔
    ¬ (2 ≤ countType attrXorPeerAddress (stunAttrs nd.buf) ∧ c.hears nd = true ∧
      c.relaysSend i.cfg (stunTidFromMessage nd.buf) nd (stunAttrs nd.buf)) := by
  have hiff := handle_send_iff ((wellFormed_init id ctime realms).run is).numbered hpacket hsend
    hvalid hudp
  constructor
  · rintro hdropped ⟨hpeers, hrelayed⟩
    obtain ⟨e, he, hpeer⟩ := hiff.mpr hrelayed
    exact hdropped (Or.inl hpeers) e he hpeer
  · intro hnot hambiguous e he hpeer
    have hrelayed := hiff.mp ⟨e, he, hpeer⟩
    have hone : countType attrData (stunAttrs nd.buf) = 1 := hrelayed.2.2.2.1
    rcases hambiguous with hpeers | hdata
    · exact hnot ⟨hpeers, hrelayed⟩
    · omega

def clientIndication (attrs : List (ℕ × List UInt8)) : NetData where
  buf := stunAttrsAdd (stunInitIndication stunMethodSend clientTid) attrs
  fits := stunAttrsAdd_length_lt (by
    simp [stunInitIndication, stunInitCommand, oldStunInitCommand, clientTid,
      maxStunMessageSize]) attrs
  srcAddr := hostAddr 2 5000
  ttlLeft := true

def dataAttr (data : List UInt8) : ℕ × List UInt8 := (attrData, data)

def sendInput (attrs : List (ℕ × List UInt8)) : Input :=
  plainInput (.clientInput 1 (clientIndication attrs) true)

def twoPayloads : Input := sendInput [peerAttr (hostAddr 3 7000), dataAttr [1], dataAttr [2]]

def twoPeers : Input :=
  sendInput [peerAttr (hostAddr 9 7000), dataAttr [1], peerAttr (hostAddr 3 7000)]

theorem ambiguous_send_dropped_twoPayloads :
    ∃ nd canResume c, (served permissionAndChannel).packet twoPayloads = some (nd, canResume, c) ∧
      AmbiguousSend (stunAttrs nd.buf) ∧
      ∀ e ∈ ((served permissionAndChannel).handle twoPayloads).2, ¬ e.ToPeer := by
  obtain ⟨⟨nd, canResume, c⟩, hpacket, hsend, hambiguous, hone, hvalid, hudp⟩ :
      ∃ r ∈ (served permissionAndChannel).packet twoPayloads, IsSend r.1.buf ∧
        AmbiguousSend (stunAttrs r.1.buf) ∧
        ¬ 2 ≤ countType attrXorPeerAddress (stunAttrs r.1.buf) ∧
        r.2.2.ss.alloc.isValid = true ∧ r.2.2.ss.isTcpRelay = false := by
    decide +kernel
  exact ⟨nd, canResume, c, hpacket, hambiguous,
    (ambiguous_send_dropped_iff 0 1000 defaultRealms _ twoPayloads nd canResume c hpacket hsend
      hvalid hudp).mpr (fun h => hone h.1) hambiguous⟩

/-- The payload goes to the second of two addresses; there is no permission for the first one. -/
theorem ambiguous_send_relayed :
    (((served permissionAndChannel).packet twoPeers).any fun r =>
        IsSend r.1.buf && r.2.2.ss.alloc.isValid && !r.2.2.ss.isTcpRelay &&
        countType attrXorPeerAddress (stunAttrs r.1.buf) == 2 &&
        lastPeer twoPeers.cfg clientTid (stunAttrs r.1.buf) == hostAddr 3 7000) = true ∧
    ∃ e ∈ ((served permissionAndChannel).handle twoPeers).2, e.ToPeer := by
  decide +kernel

end Coturn
