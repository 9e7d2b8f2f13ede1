/-
# Handlers that leave the permissions and channels alone

Allocate, Refresh and Connect change allocations, but not their permissions and channels, also
when a Refresh moves another session to the client socket of the request.
-/
import Coturn.Server.Frames

namespace Coturn

open Ctx

variable (a : Allocation)

variable {p q : Effect → Prop} {c c' c'' : Ctx}

/-- The effects of a request handler. -/
def Effect.OfHandler (e : Effect) : Prop := e.Sensitive ∨ e.Message

/-- What the relaying for a session depends on. -/
def Allocation.relay (a : Allocation) : RelaySession where
  valid := a.isValid
  ipv4 := a.relayIpv4.s.map fun s => { s with toBeClosed := false }
  ipv6 := a.relayIpv6.s.map fun s => { s with toBeClosed := false }
  tables := a.toAddrTables

/-- The part of a session that other sessions leave alone. -/
def Session.core (ss : Session) : ℕ × RelaySession := (ss.id, ss.alloc.relay)

/-- The terms of the allocation: the rate, whether the session is mobile, and whether the allocation
is valid. -/
def Session.terms (ss : Session) : ℕ × Bool × Bool := (ss.bps, ss.isMobile, ss.alloc.isValid)

/-- The part of a session that a transfer leaves alone. -/
def Session.settled (ss : Session) :
    (ℕ × RelaySession) × ℕ × Bool × List (Option TcpConnection) :=
  (ss.core, ss.bps, ss.isMobile, ss.alloc.tcs)

/-- What changes when a session enters or leaves the map of mobile ids is not here. -/
def Server.apart (srv : Server) : (UInt8 × UInt32 × ℕ) × (ℕ → Option Session) ×
    (UInt32 → Option (ℕ × ℕ)) × UrAddrMap ℕ × ℕ :=
  (srv.fixed, srv.sessionsMap, srv.tcpRelayConnections, srv.mpTable, srv.nextHandle)

/-- The relaying for all sessions is the same, and so is the table of multiplexed peers. -/
structure Ctx.TablesKeep (p : Effect → Prop) (c c' : Ctx) : Prop extends Ctx.Follows p c c' where
  relay : c'.ss.alloc.relay = c.ss.alloc.relay
  sessions : ∀ sid, (c'.srv.sessionsMap sid).map Session.core =
    (c.srv.sessionsMap sid).map Session.core
  mp : c'.srv.mpTable = c.srv.mpTable

/-- In addition, the terms and the TCP connections of all sessions are the same. -/
structure Ctx.Settles (p : Effect → Prop) (c c' : Ctx) : Prop extends Ctx.Follows p c c' where
  own : c'.ss.settled = c.ss.settled
  sessions : ∀ sid, (c'.srv.sessionsMap sid).map Session.settled =
    (c.srv.sessionsMap sid).map Session.settled
  mp : c'.srv.mpTable = c.srv.mpTable
  tcp : c'.srv.tcpRelayConnections = c.srv.tcpRelayConnections
  next : c.srv.nextHandle ≤ c'.srv.nextHandle

/-- The relaying for the session is the same, and so are all other sessions. -/
structure Ctx.TablesFrame (p : Effect → Prop) (c c' : Ctx) : Prop extends Ctx.Follows p c c' where
  relay : c'.ss.alloc.relay = c.ss.alloc.relay
  sessions : c'.srv.sessionsMap = c.srv.sessionsMap
  mp : c'.srv.mpTable = c.srv.mpTable

/-- Only the permissions and channels of the session are the same, and everything about the other
sessions. -/
structure Ctx.AllocFrame (p : Effect → Prop) (c c' : Ctx) : Prop extends Ctx.Follows p c c' where
  tables : c'.ss.alloc.toAddrTables = c.ss.alloc.toAddrTables
  placed : c.ss.alloc.relay.Placed → c'.ss.alloc.relay.Placed
  sessions : c'.srv.sessionsMap = c.srv.sessionsMap
  mp : c'.srv.mpTable = c.srv.mpTable

/-- Every session is in the map under its id. -/
def Server.IdsMatch (srv : Server) : Prop := ∀ sid ss, srv.sessionsMap sid = some ss → ss.id = sid

namespace Ctx

lemma Frame.tablesFrame (h : Frame p c c') : TablesFrame p c c' :=
  ⟨h.toFollows, by rw [h.alloc], h.sessions, h.mp⟩

lemma TablesFrame.keep (h : TablesFrame p c c') : TablesKeep p c c' :=
  ⟨h.toFollows, h.relay, fun sid => by rw [h.sessions], h.mp⟩

lemma TablesFrame.allocFrame (h : TablesFrame p c c') : AllocFrame p c c' :=
  ⟨h.toFollows, congrArg RelaySession.tables h.relay, by rw [h.relay]; exact id, h.sessions, h.mp⟩

lemma TablesFrame.trans (h : TablesFrame p c c') (h' : TablesFrame p c' c'') :
    TablesFrame p c c'' :=
  ⟨h.toFollows.trans h'.toFollows, h'.relay.trans h.relay, h'.sessions.trans h.sessions,
    h'.mp.trans h.mp⟩

lemma Settles.trans (h : Settles p c c') (h' : Settles p c' c'') : Settles p c c'' :=
  ⟨h.toFollows.trans h'.toFollows, h'.own.trans h.own,
    fun sid => (h'.sessions sid).trans (h.sessions sid), h'.mp.trans h.mp, h'.tcp.trans h.tcp,
    h.next.trans h'.next⟩

lemma Settles.keep (h : Settles p c c') : TablesKeep p c c' := by
  refine ⟨h.toFollows, congrArg (·.1.2) h.own, fun sid => ?_, h.mp⟩
  have hmap := congrArg (Option.map Prod.fst) (h.sessions sid)
  rwa [Option.map_map, Option.map_map] at hmap

lemma Calm.settles (h : Calm Session.settled p c c') : Settles p c c' :=
  ⟨⟨h.log, congrArg (·.1.1) h.own, congrArg (·.1) h.books⟩, h.own,
    fun sid => congrArg (fun b => (b.2.1 sid).map Session.settled) h.books, h.mp,
    congrArg (·.2.2.2) h.books, h.next⟩

lemma Calm.settled (h : Calm Session.kept p c c') : Calm Session.settled p c c' :=
  h.coarsen fun k => ((k.1.1, k.1.2.1.relay), k.1.2.2.1, k.1.2.2.2, k.1.2.1.tcs)

lemma AllocFrame.trans (h : AllocFrame p c c') (h' : AllocFrame p c' c'') : AllocFrame p c c'' :=
  ⟨h.toFollows.trans h'.toFollows, h'.tables.trans h.tables, fun hp => h'.placed (h.placed hp),
    h'.sessions.trans h.sessions, h'.mp.trans h.mp⟩

lemma TablesFrame.mono (h : TablesFrame p c c') (hpq : ∀ e, p e → q e) : TablesFrame q c c' :=
  ⟨h.toFollows.mono hpq, h.relay, h.sessions, h.mp⟩

lemma Settles.mono (h : Settles p c c') (hpq : ∀ e, p e → q e) : Settles q c c' :=
  ⟨h.toFollows.mono hpq, h.own, h.sessions, h.mp, h.tcp, h.next⟩

lemma TablesFrame.of_log {l : List Effect} (hlog : c'.log = c.log ++ l) (hl : ∀ e ∈ l, p e)
    (hss : c'.ss.core = c.ss.core) (hfixed : c'.srv.fixed = c.srv.fixed)
    (hsessions : c'.srv.sessionsMap = c.srv.sessionsMap)
    (hmp : c'.srv.mpTable = c.srv.mpTable) : TablesFrame p c c' :=
  ⟨⟨⟨l, hlog, hl⟩, congrArg Prod.fst hss, hfixed⟩, congrArg Prod.snd hss, hsessions, hmp⟩

lemma TablesFrame.of_session (hsrv : c'.srv = c.srv) (hss : c'.ss.core = c.ss.core)
    (hlog : c'.log = c.log) : TablesFrame p c c' :=
  TablesFrame.of_log (l := []) (by simp [hlog]) (by simp) hss (by rw [hsrv]) (by rw [hsrv])
    (by rw [hsrv])

lemma TablesFrame.account {r : RealmTable × Session} (hss : r.2.core = c.ss.core) :
    TablesFrame p c (c.account r) :=
  TablesFrame.of_log (l := []) (by simp [Ctx.account]) (by simp) hss rfl rfl rfl

lemma Settles.putSession (ss : Session)
    (hold : (c.srv.sessionsMap ss.id).map Session.settled = some ss.settled) :
    Settles p c { c with srv := c.srv.putSession ss } := by
  refine ⟨⟨⟨[], by simp, by simp⟩, rfl, rfl⟩, rfl, fun sid => ?_, rfl, rfl, le_rfl⟩
  simp only [Server.putSession]
  split_ifs with hsid
  · rw [hsid, hold]
    rfl
  · rfl

end Ctx

/-! ## Relay endpoints -/

/-- The relay sockets may be others, each in the place of its family. -/
structure Allocation.Resettles (a a' : Allocation) : Prop where
  tables : a'.toAddrTables = a.toAddrTables
  placed : a.relay.Placed → a'.relay.Placed

lemma Allocation.Resettles.trans {a a' a'' : Allocation} (h : a.Resettles a')
    (h' : a'.Resettles a'') : a.Resettles a'' :=
  ⟨h'.tables.trans h.tables, fun hp => h'.placed (h.placed hp)⟩

lemma Allocation.Resettles.refl : a.Resettles a := ⟨rfl, id⟩

lemma setRelaySession_resettles (family : ℕ) (r : RelayEndpointSession)
    (hr : a.relay.Placed → ∀ s, r.s = some s → s.family = if family = 10 then 10 else 2) :
    a.Resettles (a.setRelaySession family r) := by
  unfold Allocation.setRelaySession
  split_ifs at hr ⊢
  all_goals
    refine ⟨rfl, fun hp => ⟨?_, ?_⟩⟩
  · exact hp.ipv4
  · intro s hs
    obtain ⟨s', hs', rfl⟩ := Option.map_eq_some_iff.mp hs
    exact hr hp s' hs'
  · intro s hs
    obtain ⟨s', hs', rfl⟩ := Option.map_eq_some_iff.mp hs
    exact hr hp s' hs'
  · exact hp.ipv6

lemma setRelaySession_resettles_of_none (family : ℕ) {r : RelayEndpointSession} (hr : r.s = none) :
    a.Resettles (a.setRelaySession family r) :=
  setRelaySession_resettles a family r fun _ s hs => by rw [hr] at hs; cases hs

@[simp] lemma setRelaySessionFailure_relay (family : ℕ) :
    (a.setRelaySessionFailure family).relay = a.relay := by
  unfold Allocation.setRelaySessionFailure
  split_ifs <;> rfl

@[simp] lemma setAllocationLifetimeEv_relay (expTime : UInt32) (family : ℕ) :
    (a.setAllocationLifetimeEv expTime family).relay = a.relay := by
  unfold Allocation.setAllocationLifetimeEv Allocation.setRelaySession Allocation.getRelaySession
  split_ifs <;> rfl

lemma Allocation.Resettles.of_relay {a a' : Allocation} (h : a'.relay = a.relay) :
    a.Resettles a' :=
  ⟨congrArg RelaySession.tables h, by rw [h]; exact id⟩

/-- The second cut, of `create_relay_connection`. -/
def cutLifetime (cfg : Config) (lifetime : UInt32) : UInt32 :=
  if lifetime < 1 then 600
  else if cfg.maxAllocateLifetime < lifetime then cfg.maxAllocateLifetime
  else lifetime

/-- The allocation with a new socket, whose endpoint expires at the given time. -/
def Allocation.opened (a : Allocation) (s : RelayIoaSocket) (expires : UInt32) : Allocation :=
  (a.setRelaySession s.family
    { RelayEndpointSession.empty with s := some s }).setAllocationLifetimeEv expires s.family

lemma opened_resettles (s : RelayIoaSocket) (expires : UInt32) :
    a.Resettles (a.opened s expires) := by
  refine .trans (setRelaySession_resettles a s.family _ fun _ s' hs' => ?_)
    (.of_relay (setAllocationLifetimeEv_relay _ _ _))
  obtain rfl := Option.some.inj hs'
  rcases s.inet with h | h <;> simp [h]

variable (cfg : Config) (env : Env) (tid : List UInt8)

lemma setupRelaySocket_cases (ctime : UInt32) (a : Allocation)
    (lifetime : UInt32) {family : ℕ} (multiplexPeerUdp : Bool) {s : Option RelayIoaSocket}
    (rtcp : Bool) (token : ℕ) (hs : ∀ s', s = some s' → s'.family = family) :
    (∃ e, setupRelaySocket cfg env ctime a lifetime family multiplexPeerUdp s rtcp token =
        ⟨some e, token, a.setRelaySession family .empty⟩) ∨
      ∃ s', s = some s' ∧
        setupRelaySocket cfg env ctime a lifetime family multiplexPeerUdp s rtcp token =
          ⟨none, token, a.opened s' (ctime + cutLifetime cfg lifetime)⟩ := by
  cases s with
  | none => exact Or.inl ⟨_, rfl⟩
  | some s =>
    obtain rfl := hs s rfl
    simp only [setupRelaySocket]
    by_cases htoken : rtcp = true ∧ token = 0
    · rw [if_pos htoken]
      exact Or.inl ⟨_, rfl⟩
    by_cases hcallback : s.type ≠ .tcp ∧ multiplexPeerUdp = false ∧ env.registerCallback = false
    · rw [if_neg htoken, if_pos hcallback]
      exact Or.inl ⟨_, rfl⟩
    · rw [if_neg htoken, if_neg hcallback]
      exact Or.inr ⟨s, rfl, rfl⟩

/-- An endpoint stays, or it is closed, and then perhaps opened with a new socket. -/
lemma createRelayConnection_cases {ctime : UInt32} {ss : Session} {lifetime : UInt32} {family : ℕ}
    {transport : Transport} {inReservationToken token : ℕ} {r : RelayOutcome}
    (hr : createRelayConnection cfg env ctime ss lifetime family transport inReservationToken
      token = r) :
    r.alloc = ss.alloc ∨ (∃ family', r.alloc = ss.alloc.setRelaySession family' .empty) ∨
      ∃ s, r.alloc = ss.alloc.opened s (ctime + cutLifetime cfg lifetime) := by
  subst hr
  simp only [createRelayConnection]
  split_ifs
  · exact Or.inl rfl
  · exact Or.inl rfl
  · split
    · exact Or.inl rfl
    next s _ =>
      rcases setupRelaySocket_cases cfg env ctime ss.alloc lifetime
        (cfg.multiplexPeerMode && transport == .udp) false token
        (fun s' hs' => congrArg RelayIoaSocket.family (Option.some.inj hs').symm) with
        ⟨e, heq⟩ | ⟨s', -, heq⟩
      · exact Or.inr (Or.inl ⟨_, congrArg RelayOutcome.alloc heq⟩)
      · exact Or.inr (Or.inr ⟨s', congrArg RelayOutcome.alloc heq⟩)
  · split
    · exact Or.inr (Or.inl ⟨family, rfl⟩)
    next s rtcp token' hcreate =>
      rcases @setupRelaySocket_cases cfg env ctime ss.alloc lifetime family
        (cfg.multiplexPeerMode && transport == .udp) s rtcp token'
        (fun s' hs' => env.createRelay_family (hs' ▸ hcreate)) with ⟨e, heq⟩ | ⟨s', -, heq⟩
      · exact Or.inr (Or.inl ⟨_, congrArg RelayOutcome.alloc heq⟩)
      · exact Or.inr (Or.inr ⟨s', congrArg RelayOutcome.alloc heq⟩)

section Endpoints

variable {cfg : Config} {env : Env} {lifetime : UInt32} {P : Allocation → Prop} {c : Ctx}
  (hclosed : ∀ a family, P a → P (a.setRelaySession family .empty))
  (hopened : ∀ a s, P a → P (a.opened s (c.srv.ctime + cutLifetime cfg lifetime)))
  (hfailure : ∀ a family, P a → P (a.setRelaySessionFailure family))

include hclosed hopened hfailure

lemma allocateRelay_rule (transport : Transport) (v : AllocateVars) (family token : ℕ) {ss : Session}
    (h : P ss.alloc) :
    ∃ a, P a ∧ (allocateRelay cfg env c.srv.ctime transport v lifetime family token ss).2.2 =
      { ss with alloc := a } := by
  have hcreate : ∀ {r}, createRelayConnection cfg env c.srv.ctime ss lifetime family transport
      v.inReservationToken token = r → P r.alloc := by
    intro r hr
    rcases createRelayConnection_cases cfg env hr with heq | ⟨family', heq⟩ | ⟨s, heq⟩ <;> rw [heq]
    · exact h
    · exact hclosed _ _ h
    · exact hopened _ _ h
  rw [allocateRelay]
  split
  · exact ⟨_, hcreate rfl, rfl⟩
  · exact ⟨_, hfailure _ _ (hcreate rfl), rfl⟩

/-- The endpoints of an Allocate change the allocation only, and keep what the changes of an endpoint
keep. -/
lemma allocateRelays_rule (transport : Transport) (v : AllocateVars) (h : P c.ss.alloc) :
    ∃ a reply, P a ∧ (allocateRelays cfg env transport v lifetime c).2 =
      ⟨c.srv, { c.ss with alloc := a }, reply, c.log⟩ := by
  have hrelay := @allocateRelay_rule cfg env lifetime P c hclosed hopened hfailure transport v
  simp only [allocateRelays]
  split
  · obtain ⟨a₁, h₁, heq₁⟩ := hrelay 2 0 h
    obtain ⟨a₂, h₂, heq₂⟩ := @hrelay 10
      (allocateRelay cfg env c.srv.ctime transport v lifetime 2 0 c.ss).2.1
      (allocateRelay cfg env c.srv.ctime transport v lifetime 2 0 c.ss).2.2 (heq₁ ▸ h₁)
    rw [heq₂, heq₁]
    split <;> exact ⟨a₂, _, h₂, rfl⟩
  · obtain ⟨a₁, h₁, heq₁⟩ := hrelay _ 0 h
    rw [heq₁]
    split <;> exact ⟨a₁, _, h₁, rfl⟩

end Endpoints

/-! ## Allocate -/

lemma deleteSessionFromMobileMap_same (srv : Server) (ss : Session) :
    (deleteSessionFromMobileMap srv ss).1.apart = srv.apart ∧
      (deleteSessionFromMobileMap srv ss).2.tenancy = ss.tenancy := by
  unfold deleteSessionFromMobileMap
  split_ifs <;> exact ⟨rfl, rfl⟩

lemma putSessionIntoMobileMap_same (srv : Server) (ss : Session) :
    (putSessionIntoMobileMap cfg env srv ss).1.apart = srv.apart ∧
      (putSessionIntoMobileMap cfg env srv ss).2.tenancy = ss.tenancy := by
  simp only [putSessionIntoMobileMap]
  split_ifs <;> exact ⟨rfl, rfl⟩

lemma Server.parts_of_apart {srv srv' : Server} (h : srv'.apart = srv.apart) :
    srv'.sessionsMap = srv.sessionsMap ∧ srv'.fixed = srv.fixed ∧ srv'.mpTable = srv.mpTable :=
  ⟨congrArg (·.2.1) h, congrArg (·.1) h, congrArg (·.2.2.2.1) h⟩

lemma core_of_tenancy {ss ss' : Session} (h : ss'.tenancy = ss.tenancy) : ss'.core = ss.core :=
  congrArg (fun t => (t.1, t.2.1.relay)) h

lemma allocateUnlist_frame (c : Ctx) : TablesFrame p c (allocateUnlist cfg c) := by
  unfold allocateUnlist
  split_ifs
  · obtain ⟨hapart, hsame⟩ := deleteSessionFromMobileMap_same c.srv c.ss
    obtain ⟨hmap, hfixed, hmp⟩ := Server.parts_of_apart hapart
    exact TablesFrame.of_log (l := []) (by simp) (by simp) (core_of_tenancy hsame) hfixed hmap hmp
  · exact (Frame.refl c).tablesFrame

lemma allocateBandwidth_frame (bps : ℕ) (c : Ctx) : Frame p c (allocateBandwidth env bps c) := by
  unfold allocateBandwidth
  split
  · exact Frame.refl c
  · simp only
    split_ifs <;> exact Frame.of_session rfl rfl rfl rfl

lemma allocateChecks_frame (v : AllocateVars) (c : Ctx) : Frame p c (allocateChecks cfg v c) := by
  unfold allocateChecks
  simp only
  split_ifs <;> exact Frame.of_reply rfl rfl rfl

lemma AllocFrame.resettle {ss : Session} (h : c.ss.alloc.Resettles ss.alloc) {reply : Reply}
    (hid : ss.id = c.ss.id) : AllocFrame p c { c with ss := ss, reply := reply } :=
  ⟨⟨⟨[], by simp, by simp⟩, hid, rfl⟩, h.tables, h.placed, rfl, rfl⟩

lemma allocateRelays_frame (transport : Transport) (v : AllocateVars)
    (lifetime : UInt32) (c : Ctx) :
    AllocFrame p c (allocateRelays cfg env transport v lifetime c).2 := by
  obtain ⟨a, reply, hsettles, heq⟩ := @allocateRelays_rule cfg env lifetime c.ss.alloc.Resettles c
    (fun a family h => h.trans (setRelaySession_resettles_of_none a family rfl))
    (fun a s h => h.trans (opened_resettles a s _))
    (fun a family h => h.trans (.of_relay (setRelaySessionFailure_relay a family))) transport v
    (.refl _)
  rw [heq]
  exact AllocFrame.resettle hsettles rfl

lemma allocateAccept_frame (lifetime : UInt32) (token : ℕ)
    (c : Ctx) : AllocFrame Effect.OfHandler c (allocateAccept cfg tid lifetime token c) := by
  have hvalid : AllocFrame Effect.OfHandler c
      ({ c with ss := { c.ss with alloc := { c.ss.alloc with isValid := true, tid := tid } } }.emit
        (.allocationCreated c.ss.id)) := by
    refine AllocFrame.trans ?_ (Frame.emit (Or.inl trivial)).tablesFrame.allocFrame
    exact ⟨⟨⟨[], by simp, by simp⟩, rfl, rfl⟩, rfl, fun h => ⟨h.ipv4, h.ipv6⟩, rfl, rfl⟩
  simp only [allocateAccept]
  split
  · exact hvalid
  · exact hvalid.trans (Frame.respond _).tablesFrame.allocFrame

lemma allocateNew_frame (transport : Transport) (v : AllocateVars) (c : Ctx) :
    AllocFrame Effect.OfHandler c (allocateNew cfg env tid transport v c).2 := by
  have h₀ : TablesFrame Effect.OfHandler c (allocateUnlist cfg c) := allocateUnlist_frame cfg c
  simp only [allocateNew]
  generalize allocateUnlist cfg c = c₀ at h₀ ⊢
  have hquota := core_of_tenancy (Session.tenancy_of_unchecked
    (incQuota_unchecked cfg c₀.srv.realms c₀.ss v.username))
  rcases hq : incQuota cfg c₀.srv.realms c₀.ss v.username with ⟨_ | _, r⟩ <;> rw [hq] at hquota
  · exact ((h₀.trans (TablesFrame.account hquota)).trans
      (Frame.failCode 486).tablesFrame).allocFrame
  · have h₁ : AllocFrame Effect.OfHandler c
        (allocateChecks cfg v (allocateBandwidth env v.bps (c₀.account r))) :=
      ((h₀.trans (TablesFrame.account hquota)).trans ((allocateBandwidth_frame env v.bps _).trans
        (allocateChecks_frame cfg v _)).tablesFrame).allocFrame
    simp only
    split_ifs
    · refine AllocFrame.trans (h₁.trans (allocateRelays_frame cfg env transport v
        (stunAdjustAllocateLifetime v.lifetime cfg.maxAllocateLifetime c₀.ss.maxSessionTimeAuth) _))
        (TablesFrame.allocFrame ?_)
      exact TablesFrame.of_session rfl rfl rfl
    · exact (h₁.trans (allocateRelays_frame cfg env transport v _ _)).trans
        (allocateAccept_frame cfg tid _ _ _)
    · refine h₁.trans (TablesFrame.allocFrame ?_)
      exact TablesFrame.of_session rfl rfl rfl

lemma handleTurnAllocate_frame (attrs : List StunAttr) (c : Ctx) :
    AllocFrame Effect.OfHandler c (handleTurnAllocate cfg env tid attrs c) ∧
      (c.ss.alloc.isValid = true →
        TablesFrame Effect.OfHandler c (handleTurnAllocate cfg env tid attrs c)) := by
  have hfinish : ∀ err4 err6 (c : Ctx),
      TablesFrame Effect.OfHandler c (allocateFinish cfg tid err4 err6 c) := by
    intro err4 err6 c
    unfold allocateFinish
    split
    · simp only
      split_ifs <;> exact TablesFrame.of_session rfl rfl rfl
    · split_ifs <;> exact TablesFrame.of_session rfl rfl rfl
  have hagain : TablesFrame Effect.OfHandler c (allocateAgain cfg tid c) := by
    unfold allocateAgain
    simp only
    split_ifs
    · exact (Frame.fail _ _).tablesFrame
    · split <;> exact TablesFrame.of_session rfl rfl rfl
  have hfresh : AllocFrame Effect.OfHandler c (allocateFresh cfg env tid attrs c).2 := by
    unfold allocateFresh
    simp only
    split
    · refine TablesFrame.allocFrame ?_
      exact TablesFrame.of_session rfl rfl rfl
    · split_ifs
      iterate 3
        · refine TablesFrame.allocFrame ?_
          exact TablesFrame.of_session rfl rfl rfl
      · refine AllocFrame.trans (TablesFrame.allocFrame ?_) (allocateNew_frame cfg env tid _ _ _)
        exact TablesFrame.of_session rfl rfl rfl
  simp only [handleTurnAllocate]
  split_ifs with hvalid
  · have hall := hagain.trans (hfinish 0 0 _)
    exact ⟨hall.allocFrame, fun _ => hall⟩
  · exact ⟨hfresh.trans (hfinish _ _ _).allocFrame, fun h => absurd h hvalid⟩

/-! ## Refresh -/

lemma refreshFamilies_settled (ctime lifetime : UInt32) (af4 af6 : Bool) (ss : Session) :
    (refreshFamilies ctime lifetime af4 af6 ss).settled = ss.settled := by
  have hcore : (refreshFamilies ctime lifetime af4 af6 ss).core = ss.core := by
    cases af4 <;> cases af6 <;> simp [refreshFamilies, Session.core, refreshRelayConnection]
  rw [Session.settled, hcore]
  cases af4 <;> cases af6 <;> rfl

lemma refreshEffects_sensitive (sid : ℕ) (af4 af6 : Bool) :
    ∀ e ∈ refreshEffects sid af4 af6, e.OfHandler := by
  intro e he
  rcases List.mem_append.mp he with he | he <;> split_ifs at he
  · exact Or.inl (List.mem_singleton.mp he ▸ trivial)
  · exact absurd he List.not_mem_nil
  · exact Or.inl (List.mem_singleton.mp he ▸ trivial)
  · exact absurd he List.not_mem_nil

lemma refreshValid_calm (v : RefreshVars) (c : Ctx) :
    Calm Session.settled Effect.OfHandler c (refreshValid cfg tid v c) := by
  have hrefresh : ∀ lifetime af4 af6, Calm Session.settled Effect.OfHandler c
      { c with
        ss := refreshFamilies c.srv.ctime lifetime af4 af6 c.ss
        log := c.log ++ refreshEffects c.ss.id af4 af6 } := by
    intro lifetime af4 af6
    exact .of_log rfl (refreshEffects_sensitive c.ss.id af4 af6)
      (refreshFamilies_settled c.srv.ctime lifetime af4 af6 c.ss) rfl rfl le_rfl
  exact (hrefresh _ _ _).trans (.respond _)

/-- What the end of a transfer writes. -/
lemma transferDone_eq (mid : UInt64) (lifetime : UInt32) (orig : Session) (c : Ctx) :
    ∃ (srv : Server) (o ss : Session), srv.apart = c.srv.apart ∧ o.tenancy = orig.tenancy ∧
      ss.tenancy = c.ss.tenancy ∧
      transferDone cfg env tid mid lifetime orig c =
        match transferResponse cfg tid lifetime c.reply.messageIntegrity o with
        | none => { c with srv := srv.putSession o, ss := ss }.failCode 500
        | some buf =>
          { c with
            srv := srv.putSession o
            ss := ss
            reply := { c.reply with noResponse := true }
            log := c.log ++ [.toClient o.id buf] } := by
  simp only [transferDone]
  generalize ho₀ : (if c.ss.hmackeySet = true then
    copyAuthParameters cfg c.ss c.srv.realms orig else (c.srv.realms, orig)) = o₀
  have h₀ : o₀.2.tenancy = orig.tenancy := by
    rw [← ho₀]
    split_ifs
    · exact Session.tenancy_of_unchecked (copyAuthParameters_unchecked cfg c.ss c.srv.realms orig)
    · rfl
  -- the maps of mobile ids change, the sessions do not
  obtain ⟨hapart₁, h₁⟩ := deleteSessionFromMobileMap_same c.srv c.ss
  obtain ⟨hapart₂, h₂⟩ :=
    deleteSessionFromMobileMap_same (deleteSessionFromMobileMap c.srv c.ss).1 o₀.2
  obtain ⟨hapart₃, h₃⟩ := putSessionIntoMobileMap_same cfg env
    (deleteSessionFromMobileMap (deleteSessionFromMobileMap c.srv c.ss).1 o₀.2).1
    (deleteSessionFromMobileMap (deleteSessionFromMobileMap c.srv c.ss).1 o₀.2).2
  generalize putSessionIntoMobileMap cfg env _ _ = r at hapart₃ h₃ ⊢
  have hd := Session.tenancy_of_unchecked
    (decQuota_unchecked cfg o₀.1 (deleteSessionFromMobileMap c.srv c.ss).2)
  generalize decQuota cfg o₀.1 (deleteSessionFromMobileMap c.srv c.ss).2 = d at hd ⊢
  have hq := Session.tenancy_of_unchecked (incQuota_unchecked cfg d.1 r.2 r.2.username)
  generalize incQuota cfg d.1 r.2 r.2.username = q at hq ⊢
  exact ⟨{ r.1 with realms := q.2.1 }, { q.2.2 with oldMobileId := mid }, d.2,
    hapart₃.trans (hapart₂.trans hapart₁), hq.trans (h₃.trans (h₂.trans h₀)), hd.trans h₁, rfl⟩

lemma settled_of_tenancy {ss ss' : Session} (h : ss'.tenancy = ss.tenancy) :
    ss'.settled = ss.settled :=
  congrArg (fun t => ((t.1, t.2.1.relay), t.2.2.1, t.2.2.2, t.2.1.tcs)) h

lemma transferDone_settles (mid : UInt64) (lifetime : UInt32) (orig : Session) (c : Ctx)
    (hold : (c.srv.sessionsMap orig.id).map Session.settled = some orig.settled) :
    Settles Effect.OfHandler c (transferDone cfg env tid mid lifetime orig c) := by
  obtain ⟨srv, o, ss, hapart, ho, hss, hdone⟩ := transferDone_eq cfg env tid mid lifetime orig c
  obtain ⟨hmap, hfixed, hmp⟩ := Server.parts_of_apart hapart
  rw [hdone]
  have hput : Settles Effect.OfHandler c { c with srv := srv.putSession o, ss := ss } := by
    refine ⟨⟨⟨[], by simp, by simp⟩, (Session.same_of_tenancy hss).1, hfixed⟩,
      settled_of_tenancy hss, fun sid => ?_, hmp, congrArg (·.2.2.1) hapart,
      (congrArg (·.2.2.2.2) hapart).ge⟩
    simp only [Server.putSession, hmap]
    split_ifs with hsid
    · rw [hsid, (Session.same_of_tenancy ho).1, hold, ← settled_of_tenancy ho]
      rfl
    · rfl
  split
  · exact hput.trans (Calm.failCode 500).settles
  · refine hput.trans (Calm.settles ?_)
    exact .of_log (l := [_]) rfl (by simp [Effect.OfHandler, Effect.Message]) rfl rfl rfl le_rfl

lemma transferSession_settles (v : RefreshVars) (view : RefreshView) (orig : Session) (c : Ctx)
    (hold : (c.srv.sessionsMap orig.id).map Session.settled = some orig.settled) :
    Settles Effect.OfHandler c (transferSession cfg env tid v view orig c) := by
  have hrefresh := refreshFamilies_settled c.srv.ctime (refreshLifetime cfg v c.ss) view.af4c
    view.af6c orig
  simp only [transferSession]
  by_cases hbad : ((view.af4c || view.af6c) && !orig.alloc.isValid) = true
  · rw [if_pos hbad]
    exact (Calm.fail _ _).settles
  rw [if_neg hbad]
  generalize refreshFamilies c.srv.ctime (refreshLifetime cfg v c.ss) view.af4c view.af6c orig = o
    at hrefresh ⊢
  have hid : o.id = orig.id := congrArg (·.1.1) hrefresh
  have hput : Settles Effect.OfHandler c
      { c with
        srv := c.srv.putSession o
        log := c.log ++ refreshEffects o.id view.af4c view.af6c } := by
    refine (Settles.putSession o (by rw [hid, hold, hrefresh])).trans (Calm.settles ?_)
    exact .of_log rfl (refreshEffects_sensitive o.id _ _) rfl rfl rfl le_rfl
  have hdetach := hput.trans (detachClientSocket_calm env _).settled.settles
  rcases hd : detachClientSocket env _ with ⟨_ | s, c₁⟩ <;> rw [hd] at hdetach
  · refine hdetach.trans (Calm.settles ?_)
    exact .of_session rfl rfl rfl
  · -- the other session gets the new socket and is written back again
    have hold₁ : (c₁.srv.sessionsMap o.id).map Session.settled = some o.settled := by
      rw [hdetach.sessions, hid, hold, hrefresh]
    have hsocket : Settles Effect.OfHandler c
        { c₁ with
          srv := c₁.srv.putSession { o with clientSocket := some s }
          ss := { c₁.ss with toBeClosed := true } } := by
      have hput₁ := Settles.putSession (p := Effect.OfHandler) { o with clientSocket := some s }
        hold₁
      refine (hdetach.trans hput₁).trans (Calm.settles ?_)
      exact .of_session rfl rfl rfl
    simp only
    split_ifs
    · exact hsocket.trans (Calm.failCode 500).settles
    · refine hsocket.trans (transferDone_settles cfg env tid _ _ _ _ ?_)
      simp [Server.putSession]

lemma getSessionFromMobileMap_some {cfg : Config} {srv : Server} {mid : UInt64} {orig : Session}
    (hids : srv.IdsMatch) (horig : getSessionFromMobileMap cfg srv mid = some orig) :
    srv.sessionsMap orig.id = some orig := by
  unfold getSessionFromMobileMap at horig
  split_ifs at horig
  obtain ⟨sid, -, hsid⟩ := Option.bind_eq_some_iff.mp horig
  rwa [hids sid orig hsid]

section Refresh

variable {cfg : Config} {env : Env} {tid : List UInt8} {canResume : Bool} {nd : NetData}
  {attrs : List StunAttr} (hhandler : ∀ e : Effect, e.OfHandler → p e)

include hhandler in
lemma refreshTransfer_settles (v : RefreshVars) (c : Ctx) (hids : c.srv.IdsMatch)
    (hp : ∀ c₁ : Ctx, c₁.srv.ctime = c.srv.ctime →
      Follows p c₁ (checkStunAuth cfg env stunMethodRefresh tid canResume nd attrs c₁).2) :
    Settles p c (refreshTransfer cfg env tid canResume nd attrs v c) := by
  unfold refreshTransfer
  split
  · exact (Calm.fail _ _).settles
  · next orig horig =>
    have hold := getSessionFromMobileMap_some hids horig
    iterate 5
      split
      · exact (Calm.fail _ _).settles
    have hcheck := ((transferCandidate_calm cfg orig c).trans
      (checkStunAuth_calm_of_follows (hp _ rfl))).checked
    simp only
    split_ifs
    · refine hcheck.settled.settles.trans (Calm.settles ?_)
      exact .of_session rfl rfl rfl
    · exact hcheck.settled.settles
    · refine hcheck.settled.settles.trans
        ((transferSession_settles cfg env tid v _ orig _ ?_).mono hhandler)
      rw [hcheck.frame.sessions, hold]
      rfl

include hhandler in
lemma handleTurnRefresh_settles (c : Ctx) (hids : c.srv.IdsMatch)
    (hp : ∀ c₁ : Ctx, c₁.srv.ctime = c.srv.ctime →
      Follows p c₁ (checkStunAuth cfg env stunMethodRefresh tid canResume nd attrs c₁).2) :
    Settles p c (handleTurnRefresh cfg env tid canResume nd attrs c) := by
  have hread : ∀ reply, Settles p c { c with reply := reply } := by
    intro reply
    exact Calm.settles (.of_session rfl rfl rfl)
  simp only [handleTurnRefresh]
  split_ifs
  · exact hread _
  · exact hread _
  · exact hread _
  · exact (hread _).trans ((refreshValid_calm cfg tid _ _).settles.mono hhandler)
  · exact hread _
  · have helsewhere := refreshElsewhere_calm (p := Effect.Message) (fun _ _ _ => trivial) env
    exact (hread _).trans
      ((helsewhere _ nd _).settled.settles.mono fun e h => hhandler e (Or.inr h))
  · exact (hread _).trans (refreshTransfer_settles hhandler _ _ hids hp)

end Refresh

/-! ## Connect -/

lemma tcpStartConnectionToPeer_frame (peerAddr : IoaAddr) (c : Ctx) :
    TablesFrame Effect.OfHandler c (tcpStartConnectionToPeer env tid peerAddr c) := by
  simp only [tcpStartConnectionToPeer]
  split_ifs
  · exact (Frame.fail _ _).tablesFrame
  · exact (Frame.failCode _).tablesFrame
  · exact TablesFrame.of_log (List.append_nil _).symm (by simp) rfl rfl rfl rfl
  · exact TablesFrame.of_log (l := [_]) rfl (by simp [Effect.OfHandler, Effect.Sensitive]) rfl rfl
      rfl rfl

lemma handleTurnConnect_frame (attrs : List StunAttr)
    (c : Ctx) : TablesFrame Effect.OfHandler c (handleTurnConnect cfg env tid attrs c) := by
  simp only [handleTurnConnect]
  split_ifs
  · exact (Frame.fail _ _).tablesFrame
  · exact (Frame.failCode _).tablesFrame
  · exact TablesFrame.of_session rfl rfl rfl
  · exact TablesFrame.of_session rfl rfl rfl
  · exact TablesFrame.of_session rfl rfl rfl
  · exact TablesFrame.of_session rfl rfl rfl
  · exact (Frame.afterLoop _).tablesFrame.trans (tcpStartConnectionToPeer_frame env tid _ _)

end Coturn
