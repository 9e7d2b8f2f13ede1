/-
# Handlers that change permissions and channels

What ChannelBind and CreatePermission requests do to the tables of their session: moves of
`Coturn.Allocation.Moves`, in which a permission is only added for a peer address of the request
that the filter of peer addresses has accepted. Nothing else of the session changes.
-/
import Coturn.Server.TableFrames

namespace Coturn

open Ctx Relation

variable {peerAddr : IoaAddr}

variable {P Q : IoaAddr → Prop} {c c' c'' : Ctx}

/-! ## Loops over attributes -/

variable {attrs : List StunAttr}

section Loops

variable {α : Type} {body : Parsed α → StunAttr → Parsed α}

variable {p : Parsed α}

lemma readAttrs_invariant {I : Parsed α → Prop}
    (hbody : ∀ p, ∀ sar ∈ attrs, p.live = true → I p → I (body p sar)) (hp : I p) :
    I (readAttrs body p attrs) := by
  induction attrs generalizing p with
  | nil => exact hp
  | cons sar attrs ih =>
    rw [readAttrs]
    split_ifs with hlive
    · exact ih (fun p s hs => hbody p s (List.mem_cons_of_mem sar hs))
        (hbody p sar List.mem_cons_self hlive hp)
    · exact hp

/-- When a round without complaint accepts its attribute, a loop without complaint has accepted all
attributes. -/
lemma readAttrs_accepts {Q : StunAttr → Prop}
    (hbody : ∀ p sar, (body p sar).errCode = 0 → (body p sar).unknown = [] →
      p.errCode = 0 ∧ p.unknown = [] ∧ Q sar)
    (herr : (readAttrs body p attrs).errCode = 0) (hunknown : (readAttrs body p attrs).unknown = []) :
    p.errCode = 0 ∧ p.unknown = [] ∧ ∀ sar ∈ attrs, Q sar := by
  induction attrs generalizing p with
  | nil => exact ⟨herr, hunknown, by simp⟩
  | cons sar attrs ih =>
    rw [readAttrs] at herr hunknown
    by_cases hlive : p.live = true
    · rw [if_pos hlive] at herr hunknown
      obtain ⟨herr₁, hunknown₁, hrest⟩ := ih herr hunknown
      obtain ⟨herr₀, hunknown₀, hsar⟩ := hbody p sar herr₁ hunknown₁
      exact ⟨herr₀, hunknown₀, List.forall_mem_cons.mpr ⟨hsar, hrest⟩⟩
    · rw [if_neg hlive] at herr hunknown
      simp [Parsed.live, herr, hunknown, maxNumberOfUnknownAttrs] at hlive

/-- The loop has nothing to complain about so far. -/
def Parsed.Quiet (p : Parsed α) : Prop := p.errCode = 0 ∧ p.unknown = []
  deriving Decidable

lemma Parsed.Quiet.live (h : p.Quiet) : p.live = true := by
  rw [Parsed.live, h.1, h.2]
  rfl

lemma readAttrs_of_error (h : p.errCode ≠ 0) (attrs : List StunAttr) :
    readAttrs body p attrs = p := by
  cases attrs with
  | nil => rfl
  | cons sar attrs =>
    have hdead : ¬ p.live = true := by
      rw [Parsed.live, Bool.and_eq_true, beq_iff_eq]
      exact fun hlive => h hlive.1
    show (if p.live = true then readAttrs body (body p sar) attrs else p) = p
    exact if_neg hdead

end Loops

/-! ## Moves -/

/-- Only the permissions and channels of the session and its multiplexed peers have changed, by
moves with `P` and `Q`. -/
structure Ctx.TablesMove (cfg : Config) (P Q : IoaAddr → Prop) (c c' : Ctx) : Prop
    extends Ctx.Follows Effect.OfHandler c c' where
  ss : c'.ss = c.ss.setTables c'.ss.alloc.toAddrTables
  sessions : c'.srv.sessionsMap = c.srv.sessionsMap
  request : c.ss.alloc.toAddrTables.Consistent →
    c.ss.alloc.toAddrTables.Request (c.srv.clock cfg) P Q c'.ss.alloc.toAddrTables
  registers : c.ss.alloc.toAddrTables.Consistent →
    c.srv.Registers c'.srv c.ss.id c'.ss.alloc.toAddrTables.Permits

lemma clock_eq {p : Effect → Prop} (h : Follows p c c') (cfg : Config) :
    c'.srv.clock cfg = c.srv.clock cfg := by
  rw [Server.clock, Server.clock, h.ctime]

namespace Ctx

variable {cfg : Config}

lemma TablesMove.trans (h : TablesMove cfg P Q c c') (h' : TablesMove cfg P Q c' c'') :
    TablesMove cfg P Q c c'' := by
  have hrequest : c.ss.alloc.toAddrTables.Consistent →
      c'.ss.alloc.toAddrTables.Request (c.srv.clock cfg) P Q c''.ss.alloc.toAddrTables := by
    intro hcons
    rw [← clock_eq h.toFollows]
    exact h'.request ((h.request hcons).moves.consistent hcons)
  refine ⟨h.toFollows.trans h'.toFollows, ?_, h'.sessions.trans h.sessions, fun hcons => ?_,
    fun hcons => ?_⟩
  · rw [h'.ss, h.ss]
    rfl
  · exact (h.request hcons).trans (hrequest hcons)
  · have hfirst := (h.registers hcons).mono
      (fun key _ hkey => RequestMoves.permits (hrequest hcons).moves hkey)
    have hsecond := h'.registers ((h.request hcons).moves.consistent hcons)
    rw [h.sid] at hsecond
    exact Registers.trans hfirst hsecond

lemma TablesMove.mono {Q' : IoaAddr → Prop} (h : TablesMove cfg P Q c c')
    (hQ : ∀ addr, Q addr → Q' addr) : TablesMove cfg P Q' c c' :=
  ⟨h.toFollows, h.ss, h.sessions, fun hcons => (h.request hcons).mono (fun _ => id) hQ, h.registers⟩

lemma TablesMove.of_frame (h : Frame Effect.OfHandler c c') (hss : c'.ss = c.ss) :
    TablesMove cfg P Q c c' :=
  ⟨h.toFollows, by rw [hss]; rfl, h.sessions, fun _ => by rw [hss]; exact .refl _,
    fun _ => .of_eq h.mp⟩

lemma TablesMove.setTables {t : AddrTables}
    (hrequest : c.ss.alloc.toAddrTables.Consistent →
      c.ss.alloc.toAddrTables.Request (c.srv.clock cfg) P Q t) :
    TablesMove cfg P Q c { c with ss := c.ss.setTables t } :=
  ⟨⟨⟨[], by simp, by simp⟩, rfl, rfl⟩, rfl, rfl, hrequest, fun _ => .of_eq rfl⟩

end Ctx

/-- A peer is registered after its permission has been installed. -/
lemma Ctx.TablesMove.register {cfg : Config} (h : TablesMove cfg P Q c c') (peerAddr : IoaAddr)
    (hpermits : c.ss.alloc.toAddrTables.Consistent → peerAddr.IsInet →
      c'.ss.alloc.toAddrTables.Permits peerAddr) :
    TablesMove cfg P Q c (registerMultiplexPeer cfg peerAddr c').2 := by
  obtain ⟨hkeeps, hss⟩ := registerMultiplexPeer_keeps (p := Effect.OfHandler) cfg peerAddr c'
  refine ⟨h.toFollows.trans hkeeps.toFollows, by rw [hss]; exact h.ss,
    hkeeps.sessions.trans h.sessions, by rw [hss]; exact h.request, fun hcons => ?_⟩
  have hregisters := (registerMultiplexPeer_registers cfg peerAddr c').mono
    (Q := c'.ss.alloc.toAddrTables.Permits) ?_
  · rw [hss]
    rw [h.sid] at hregisters
    exact (h.registers hcons).trans hregisters
  · rintro key hkey rfl
    exact hpermits hcons (UrAddrMap.isInet_of_get hkey)

def peerAddrOf (cfg : Config) (tid : List UInt8) (sar : StunAttr) : IoaAddr :=
  (stunAttrGetAddr cfg.addrMapping tid sar none).2

/-- The request has an XOR-PEER-ADDRESS with the IP of `addr` that is accepted and has a relay
socket. -/
def GoodPeerOf (cfg : Config) (ss : Session) (tid : List UInt8) (attrs : List StunAttr)
    (addr : IoaAddr) : Prop :=
  ∃ sar ∈ attrs, sar.type = attrXorPeerAddress ∧
    goodPeerAddr cfg.peerFilter ss.realmOptions.name (peerAddrOf cfg tid sar) = true ∧
    (ss.alloc.getRelaySocket (peerAddrOf cfg tid sar).family).isSome = true ∧
    addrSetPort 0 addr = addrSetPort 0 (peerAddrOf cfg tid sar)

/-- The attributes of a ChannelBind request are read without complaint, and its channel and peer
pass the checks on the tables. -/
def BindsChannel (cfg : Config) (ss : Session) (tid : List UInt8) (attrs : List StunAttr) : Prop :=
  let p := readChannelBind cfg ss.alloc tid attrs
  ss.isTcpRelay = false ∧ ss.alloc.isValid = true ∧ p.unknown = [] ∧ p.errCode = 0 ∧
    p.val.addrFound = true ∧ ss.alloc.toAddrTables.Binds
      (goodPeerAddr cfg.peerFilter ss.realmOptions.name) p.val.chnum p.val.peerAddr
  deriving Decidable

/-- The endpoint has an entry when it is reached through the shared relay socket. -/
def Ctx.Listed (cfg : Config) (c : Ctx) (addr : IoaAddr) : Prop :=
  isMultiplexPeerUdpRelay cfg (c.ss.alloc.getRelaySocket addr.family) = true →
    (c.srv.mpTable.get addr).isSome = true

variable (cfg : Config) (tid : List UInt8)

/-- After the registration of a peer with a port there is an entry, be it that of another session. -/
lemma registerMultiplexPeer_listed (c : Ctx) (hinet : peerAddr.IsInet)
    (hport : addrGetPort peerAddr ≠ 0) :
    (registerMultiplexPeer cfg peerAddr c).2.Listed cfg peerAddr := by
  intro hshared
  rw [(registerMultiplexPeer_keeps (p := fun _ => True) cfg peerAddr c).2] at hshared
  rcases registerMultiplexPeer_cases cfg peerAddr c with
    ⟨hno | hno, -⟩ | ⟨-, -, ⟨other, hget, -⟩, h⟩ | ⟨-, -, -, h⟩
  · exact absurd hno hport
  · rw [hno] at hshared
    exact absurd hshared (by simp)
  · rw [h]
    exact Option.isSome_of_eq_some hget
  · rw [h]
    simp [UrAddrMap.get_put, addrEq_iff_eq.mpr ⟨hinet, rfl⟩]

/-! ## ChannelBind -/

lemma isInet_of_port {addr : IoaAddr} (hport : addrGetPort addr ≠ 0) : addr.IsInet := by
  cases addr with
  | unset => exact absurd rfl hport
  | s4 ip port => exact Or.inl rfl
  | s6 ip port => exact Or.inr rfl

lemma readChannelBind_addrFound {cfg : Config} {a : Allocation} {tid : List UInt8}
    {v : Parsed ChannelBindVars} (hv : readChannelBind cfg a tid attrs = v) (herr : v.errCode = 0)
    (hfound : v.val.addrFound = true) :
    ∃ sar ∈ attrs, sar.type = attrXorPeerAddress ∧ v.val.peerAddr = peerAddrOf cfg tid sar ∧
      addrGetPort v.val.peerAddr ≠ 0 ∧
      (a.getRelaySocket (peerAddrOf cfg tid sar).family).isSome = true := by
  subst hv
  refine readAttrs_invariant (I := fun p => p.errCode = 0 → p.val.addrFound = true →
    ∃ sar ∈ attrs, sar.type = attrXorPeerAddress ∧ p.val.peerAddr = peerAddrOf cfg tid sar ∧
      addrGetPort p.val.peerAddr ≠ 0 ∧
      (a.getRelaySocket (peerAddrOf cfg tid sar).family).isSome = true) ?_
    (fun _ h => absurd h (by simp [Parsed.start])) herr hfound
  intro p sar hsar _ hp
  unfold channelBindAttr
  by_cases hskip : skipAttribute sar.type = true
  · rw [if_pos hskip]
    exact hp
  rw [if_neg hskip]
  split
  · simp only [Parsed.set, Parsed.fail]
    split_ifs
    · intro herr
      exact absurd herr (by simp)
    · intro herr
      exact absurd herr (by simp)
    · exact hp
  · next htype =>
    simp only [Parsed.set, Parsed.fail]
    split_ifs with hport hrelay hrelay
    -- an error code is set unless the address has a port and a relay socket
    all_goals first
      | exact fun _ _ => ⟨sar, hsar, htype, rfl, hport,
          by simpa [peerAddrOf, Option.isSome_iff_ne_none] using hrelay⟩
      | exact fun herr => absurd herr (by simp)
  · unfold Parsed.other
    split_ifs
    · exact hp
    · exact hp

lemma readChannelBind_port {cfg : Config} {a : Allocation} {tid : List UInt8}
    {v : Parsed ChannelBindVars} (hv : readChannelBind cfg a tid attrs = v) (herr : v.errCode = 0)
    (hfound : v.val.addrFound = true) : addrGetPort v.val.peerAddr ≠ 0 := by
  obtain ⟨_, -, -, -, hport, -⟩ := readChannelBind_addrFound hv herr hfound
  exact hport

lemma bindAndRegister_move {t : AddrTables} (chnum : UInt16) (c : Ctx)
    (hport : addrGetPort peerAddr ≠ 0) (hrequest : c.ss.alloc.toAddrTables.Consistent →
      c.ss.alloc.toAddrTables.Request (c.srv.clock cfg) P (· = peerAddr) t)
    (hpermits : c.ss.alloc.toAddrTables.Consistent → t.Permits peerAddr) :
    TablesMove cfg P
      (fun addr => addr = peerAddr ∧ (registerMultiplexPeer cfg peerAddr
        ({ c with ss := c.ss.setTables t }.emit
          (.channelUpdated c.ss.id chnum peerAddr))).2.Listed cfg addr) c
      (registerMultiplexPeer cfg peerAddr
        ({ c with ss := c.ss.setTables t }.emit (.channelUpdated c.ss.id chnum peerAddr))).2 := by
  have hset : TablesMove cfg P (· = peerAddr) c
      ({ c with ss := c.ss.setTables t }.emit (.channelUpdated c.ss.id chnum peerAddr)) :=
    (TablesMove.setTables hrequest).trans
      (TablesMove.of_frame (Frame.emit (Or.inl trivial)) rfl)
  refine (hset.register peerAddr fun hcons _ => hpermits hcons).mono ?_
  rintro addr rfl
  exact ⟨rfl, registerMultiplexPeer_listed cfg _ (isInet_of_port hport) hport⟩

/-- A ChannelBind binds a channel to its own peer only, which is then registered. -/
lemma handleTurnChannelBind_move (attrs : List StunAttr) (c : Ctx) :
    TablesMove cfg (fun addr => addr.IsInet ∧ GoodPeerOf cfg c.ss tid attrs addr)
      (fun addr => (BindsChannel cfg c.ss tid attrs ∧
          addr = (readChannelBind cfg c.ss.alloc tid attrs).val.peerAddr) ∧
        (handleTurnChannelBind cfg tid attrs c).Listed cfg addr) c
      (handleTurnChannelBind cfg tid attrs c) := by
  generalize hresult : handleTurnChannelBind cfg tid attrs c = result
  obtain ⟨v, hv⟩ : ∃ v, readChannelBind cfg c.ss.alloc tid attrs = v := ⟨_, rfl⟩
  simp only [handleTurnChannelBind, hv] at hresult
  split_ifs at hresult with htcp hvalid hunknown herr
  · subst hresult
    exact TablesMove.of_frame (Frame.fail _ _) rfl
  · subst hresult
    exact TablesMove.of_frame (Frame.refl c) rfl
  · subst hresult
    exact TablesMove.of_frame (Frame.of_reply rfl rfl rfl) rfl
  · subst hresult
    exact TablesMove.of_frame (Frame.afterLoop _) rfl
  rw [not_not] at herr
  have hport := readChannelBind_port hv herr
  split at hresult
  · next e he =>
    -- the request is refused, and the tables are as they were
    subst hresult
    refine ⟨⟨⟨[], by simp [Ctx.afterLoop], by simp⟩, rfl, rfl⟩, rfl, rfl, fun hcons => ?_,
      fun _ => .of_eq rfl⟩
    rcases hcons.bindChannel_cases (c.srv.clock cfg)
      (goodPeerAddr cfg.peerFilter c.ss.realmOptions.name) v.val.chnum v.val.peerAddr hport with
      ⟨-, e', heq⟩ | ⟨a₁, d, chn, heq, -⟩
    · simp only [Session.setTables, Ctx.afterLoop, heq]
      exact .refl _
    · simp only [Ctx.afterLoop, heq] at he
      exact absurd he (by simp)
  · next hok =>
    obtain ⟨hfound, hbinds⟩ := binds_of_bindChannel _ hok
    have hall : BindsChannel cfg c.ss tid attrs := by
      simp only [BindsChannel, hv]
      exact ⟨by simpa using htcp, by simpa using hvalid, not_not.mp hunknown, herr, hfound, hbinds⟩
    obtain ⟨sar, hsar, htype, hpeer, -, hrelay⟩ := readChannelBind_addrFound hv herr hfound
    have hbind := bindAndRegister_move cfg
      (P := fun addr => addr.IsInet ∧ GoodPeerOf cfg c.ss tid attrs addr) v.val.chnum
      (c.afterLoop v) (hport hfound)
      (fun hcons => ⟨hcons.bindChannel_moves (c.srv.clock cfg) hport fun hgood => by
        refine ⟨isInet_of_port (hport hfound), ?_⟩
        rw [hpeer] at hgood ⊢
        exact ⟨sar, hsar, htype, hgood, hrelay, rfl⟩,
        hcons.bindChannel_refreshed (c.srv.clock cfg) _ _ _ hport⟩)
      fun hcons => hcons.bindChannel_permits (c.srv.clock cfg) _ _ _ hport hok
    have hmove := (TablesMove.of_frame (Frame.afterLoop _) rfl).trans hbind
    split at hresult
    · next c₁ heq =>
      subst hresult
      obtain rfl : _ = c₁ := congrArg Prod.snd heq
      refine hmove.mono ?_
      rintro addr ⟨rfl, hlisted⟩
      exact ⟨⟨hall, congrArg (·.val.peerAddr) hv.symm⟩, hlisted⟩
    · next c₁ heq =>
      subst hresult
      obtain rfl : _ = c₁ := congrArg Prod.snd heq
      refine (hmove.trans (TablesMove.of_frame (Frame.respond _) rfl)).mono ?_
      rintro addr ⟨rfl, hlisted⟩
      exact ⟨⟨hall, congrArg (·.val.peerAddr) hv.symm⟩, hlisted⟩

/-! ## CreatePermission -/

/-- The first loop of a CreatePermission request that finds no fault has checked all its peer
addresses. -/
lemma readCreatePermission_good {cfg : Config} {ss : Session} {tid : List UInt8}
    (herr : (readCreatePermission cfg ss tid attrs).errCode = 0)
    (hunknown : (readCreatePermission cfg ss tid attrs).unknown = []) {peer : IoaAddr}
    (hpeer : peer ∈ peerAddrs cfg tid attrs) :
    GoodPeerOf cfg ss tid attrs (addrSetPort 0 peer) := by
  have hbody : ∀ p sar, (createPermissionAttr cfg ss tid p sar).errCode = 0 →
      (createPermissionAttr cfg ss tid p sar).unknown = [] →
      p.errCode = 0 ∧ p.unknown = [] ∧ (sar.type = attrXorPeerAddress →
        goodPeerAddr cfg.peerFilter ss.realmOptions.name (peerAddrOf cfg tid sar) = true ∧
        (ss.alloc.getRelaySocket (peerAddrOf cfg tid sar).family).isSome = true) := by
    intro p sar herr hunknown
    generalize hr : createPermissionAttr cfg ss tid p sar = r at herr hunknown
    unfold createPermissionAttr at hr
    by_cases hskip : skipAttribute sar.type = true
    · rw [if_pos hskip] at hr
      subst hr
      refine ⟨herr, hunknown, fun htype => ?_⟩
      rw [htype] at hskip
      exact absurd hskip (by decide)
    rw [if_neg hskip] at hr
    split at hr
    · simp only [Parsed.set, Parsed.fail] at hr
      split_ifs at hr with hfamily hgood <;> subst hr
      · exact absurd herr (by simp)
      · exact absurd herr (by simp)
      · refine ⟨herr, hunknown, fun _ => ?_⟩
        rw [peerAddrOf]
        exact ⟨by simpa using hgood, Option.isSome_iff_ne_none.mpr (by simpa using hfamily)⟩
    · next hother =>
      unfold Parsed.other at hr
      split_ifs at hr <;> subst hr
      · exact absurd hunknown (by simp [Parsed.addUnknown])
      · exact ⟨herr, hunknown, fun htype => absurd htype hother⟩
  obtain ⟨-, -, hall⟩ := readAttrs_accepts hbody herr hunknown
  obtain ⟨sar, hsar, rfl⟩ := List.mem_map.mp hpeer
  obtain ⟨hsar, htype⟩ := List.mem_filter.mp hsar
  rw [beq_iff_eq] at htype
  obtain ⟨hgood, hrelay⟩ := hall sar hsar htype
  exact ⟨sar, hsar, htype, hgood, hrelay, addrSetPort_addrSetPort 0 0 _⟩

lemma AddrTables.Permits.of_setPort {a : AddrTables} {port : UInt16} {addr : IoaAddr}
    (h : a.Permits (addrSetPort port addr)) : a.Permits addr := by
  obtain ⟨r, info, hr, heq⟩ := h
  refine ⟨r, info, hr, ?_⟩
  rw [addrEqNoPort_iff] at heq ⊢
  rwa [addrSetPort_addrSetPort] at heq

lemma updatePeer_move (c : Ctx) (hP : P (addrSetPort 0 peerAddr)) :
    TablesMove cfg P Q c (updatePeer cfg peerAddr c) := by
  have hupdate : TablesMove cfg P Q c
      ({ c with ss := c.ss.setTables (updatePermission (c.srv.clock cfg) c.ss.alloc.toAddrTables
        (addrSetPort 0 peerAddr)).2 }.emit
        (.permissionUpdated c.ss.id (addrSetPort 0 peerAddr))) := by
    refine TablesMove.trans (TablesMove.setTables fun hcons => ?_)
      (TablesMove.of_frame (Frame.emit (Or.inl trivial)) rfl)
    exact ⟨hcons.updatePermission_moves (c.srv.clock cfg) hP,
      hcons.updatePermission_refreshed (c.srv.clock cfg) _⟩
  simp only [updatePeer]
  split_ifs with hfail
  · exact hupdate.trans (TablesMove.of_frame (Frame.fail _ _) rfl)
  · rw [Bool.not_eq_true', Bool.not_eq_false] at hfail
    exact hupdate.register peerAddr fun hcons hinet =>
      (hcons.updatePermission_permits (c.srv.clock cfg) (isInet_addrSetPort hinet) hfail).of_setPort

lemma foldl_updatePeer_move {peers : List IoaAddr} (hP : ∀ peer ∈ peers, P (addrSetPort 0 peer))
    (c : Ctx) : TablesMove cfg P Q c (peers.foldl (fun c peer => updatePeer cfg peer c) c) := by
  induction peers generalizing c with
  | nil => exact TablesMove.of_frame (Frame.refl c) rfl
  | cons peer peers ih =>
    exact (updatePeer_move cfg c (hP peer List.mem_cons_self)).trans
      (ih (fun q hq => hP q (List.mem_cons_of_mem peer hq)) (updatePeer cfg peer c))

/-- The first loop of a CreatePermission request for a valid allocation accepts it. -/
def AcceptsPeers (cfg : Config) (ss : Session) (tid : List UInt8) (attrs : List StunAttr) : Prop :=
  ss.alloc.isValid = true ∧ (readCreatePermission cfg ss tid attrs).errCode = 0 ∧
    (readCreatePermission cfg ss tid attrs).unknown = [] ∧
    (readCreatePermission cfg ss tid attrs).val = true
  deriving Decidable

/-- A CreatePermission request moves the tables of its session, and binds no channel. -/
lemma handleTurnCreatePermission_move (attrs : List StunAttr)
    (c : Ctx) :
    TablesMove cfg (fun addr => AcceptsPeers cfg c.ss tid attrs ∧ GoodPeerOf cfg c.ss tid attrs addr)
      Q c (handleTurnCreatePermission cfg tid attrs c) := by
  simp only [handleTurnCreatePermission]
  split_ifs with hvalid hunknown herr hfound
  · exact TablesMove.of_frame (Frame.refl c) rfl
  · exact TablesMove.of_frame (Frame.of_reply rfl rfl rfl) rfl
  · exact TablesMove.of_frame (Frame.afterLoop _) rfl
  · exact TablesMove.of_frame (Frame.of_reply rfl rfl rfl) rfl
  all_goals
    have haccepts : AcceptsPeers cfg c.ss tid attrs :=
      ⟨by simpa using hvalid, not_not.mp herr, not_not.mp hunknown, by simpa using hfound⟩
    have hgood : ∀ peer ∈ peerAddrs cfg tid attrs, AcceptsPeers cfg c.ss tid attrs ∧
        GoodPeerOf cfg c.ss tid attrs (addrSetPort 0 peer) :=
      fun peer hpeer => ⟨haccepts, readCreatePermission_good haccepts.2.1 haccepts.2.2.1 hpeer⟩
    have hfold := (TablesMove.of_frame (Frame.afterLoop _) rfl).trans
      (foldl_updatePeer_move (P := fun addr => AcceptsPeers cfg c.ss tid attrs ∧
        GoodPeerOf cfg c.ss tid attrs addr) (Q := Q) cfg hgood
        (c.afterLoop (readCreatePermission cfg c.ss tid attrs)))
  · exact hfold.trans (TablesMove.of_frame (Frame.respond _) rfl)
  · exact hfold

/-! ## Without an allocation -/

lemma handleTurnChannelBind_idle (attrs : List StunAttr) (hvalid : c.ss.alloc.isValid = false) :
    Frame Effect.OfHandler c (handleTurnChannelBind cfg tid attrs c) := by
  simp only [handleTurnChannelBind]
  split_ifs
  · exact Frame.fail _ _
  · exact Frame.refl c
  all_goals exact absurd hvalid (by simp_all)

lemma handleTurnCreatePermission_idle (attrs : List StunAttr)
    (hvalid : c.ss.alloc.isValid = false) :
    Frame Effect.OfHandler c (handleTurnCreatePermission cfg tid attrs c) := by
  unfold handleTurnCreatePermission
  rw [if_pos (by simp [hvalid])]
  exact Frame.refl c

end Coturn
