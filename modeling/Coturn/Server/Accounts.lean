/-
# What a session holds

The terms of an allocation are the rate that it was granted, and whether it outlives its client
connection. Most of what the server does with a packet leaves these as they are, and the TCP
connections too.
-/
import Coturn.Server.Mobility
import Coturn.Server.RelayedAddresses

namespace Coturn

variable {cfg : Config} {env : Env} {tid : List UInt8} {canResume : Bool} {nd : NetData}
  {attrs : List StunAttr} {c c' c'' : Ctx}

/-! ## What stays the same -/

/-- From `c` to `c'` the terms of all sessions are the same. -/
structure Ctx.KeepsTerms (c c' : Ctx) : Prop where
  own : c'.ss.terms = c.ss.terms
  sessions : ∀ sid, (c'.srv.sessionsMap sid).map Session.terms =
    (c.srv.sessionsMap sid).map Session.terms

namespace Ctx.KeepsTerms

lemma refl (c : Ctx) : c.KeepsTerms c := ⟨rfl, fun _ => rfl⟩

lemma trans (h : c.KeepsTerms c') (h' : c'.KeepsTerms c'') : c.KeepsTerms c'' :=
  ⟨h'.own.trans h.own, fun sid => (h'.sessions sid).trans (h.sessions sid)⟩

lemma of_sessions (hown : c'.ss.terms = c.ss.terms)
    (hsessions : c'.srv.sessionsMap = c.srv.sessionsMap) : c.KeepsTerms c' :=
  ⟨hown, fun sid => by rw [hsessions]⟩

end Ctx.KeepsTerms

lemma terms_of_tenancy {ss ss' : Session} (h : ss'.tenancy = ss.tenancy) : ss'.terms = ss.terms :=
  congrArg (fun t => (t.2.2.1, t.2.2.2, t.2.1.isValid)) h

/-- The terms of a session, and its TCP connections. -/
def Session.tenure (ss : Session) : (ℕ × Bool × Bool) × ℕ × List (Option TcpConnection) :=
  (ss.terms, ss.id, ss.alloc.tcs)

/-- From `c` to `c'` all sessions look the same to `view`, and the map of TCP connections is the
same. -/
structure Ctx.Upholds {α : Type} (view : Session → α) (c c' : Ctx) : Prop where
  own : view c'.ss = view c.ss
  sessions : ∀ sid, (c'.srv.sessionsMap sid).map view = (c.srv.sessionsMap sid).map view
  server : c'.srv.id = c.srv.id
  tcp : c'.srv.tcpRelayConnections = c.srv.tcpRelayConnections
  next : c.srv.nextHandle ≤ c'.srv.nextHandle

namespace Ctx.Upholds

variable {α : Type} {view : Session → α}

lemma refl (c : Ctx) : c.Upholds view c := ⟨rfl, fun _ => rfl, rfl, rfl, le_rfl⟩

lemma trans (h : c.Upholds view c') (h' : c'.Upholds view c'') : c.Upholds view c'' :=
  ⟨h'.own.trans h.own, fun sid => (h'.sessions sid).trans (h.sessions sid),
    h'.server.trans h.server, h'.tcp.trans h.tcp, h.next.trans h'.next⟩

lemma coarsen {β : Type} (f : α → β) (h : c.Upholds view c') :
    c.Upholds (fun ss => f (view ss)) c' := by
  refine ⟨congrArg f h.own, fun sid => ?_, h.server, h.tcp, h.next⟩
  have hmap := congrArg (Option.map f) (h.sessions sid)
  rwa [Option.map_map, Option.map_map] at hmap

lemma of_books (hown : view c'.ss = view c.ss) (hbooks : c'.srv.books = c.srv.books)
    (hnext : c.srv.nextHandle ≤ c'.srv.nextHandle) : c.Upholds view c' :=
  ⟨hown, fun sid => congrArg (fun b => (b.2.1 sid).map view) hbooks, congrArg (·.1.1) hbooks,
    congrArg (·.2.2.2) hbooks, hnext⟩

lemma of_reply (hsrv : c'.srv = c.srv) (hss : c'.ss = c.ss) : c.Upholds view c' :=
  of_books (by rw [hss]) (by rw [hsrv]) (by rw [hsrv])

end Ctx.Upholds

variable {p : Effect → Prop}

lemma Ctx.Calm.upholds {α : Type} {view : Session → α} (h : Calm view p c c') :
    c.Upholds view c' := .of_books h.own h.books h.next

lemma Ctx.Calm.tenure (h : Calm Session.kept p c c') : c.Upholds Session.tenure c' :=
  h.upholds.coarsen fun k => ((k.1.2.2.1, k.1.2.2.2, k.1.2.1.isValid), k.1.1, k.1.2.1.tcs)

lemma Ctx.Settles.tenure (h : Settles p c c') : c.Upholds Session.tenure c' :=
  (⟨h.own, h.sessions, congrArg Prod.fst h.fixed, h.tcp, h.next⟩ :
    c.Upholds Session.settled c').coarsen fun s => ((s.2.1, s.2.2.1, s.1.2.valid), s.1.1, s.2.2.2)

lemma Ctx.Upholds.keepsTerms (h : c.Upholds Session.tenure c') : c.KeepsTerms c' :=
  ⟨congrArg Prod.fst h.own, (h.coarsen Prod.fst).sessions⟩

open Ctx

/-! ## The handlers of a session with an allocation -/

lemma registerMultiplexPeer_upholds {α : Type} (view : Session → α) (cfg : Config)
    (peerAddr : IoaAddr) (c : Ctx) : c.Upholds view (registerMultiplexPeer cfg peerAddr c).2 := by
  rcases registerMultiplexPeer_cases cfg peerAddr c with ⟨-, h⟩ | ⟨-, -, -, h⟩ | ⟨-, -, -, h⟩ <;>
    rw [h] <;> exact .of_books rfl rfl le_rfl

lemma handleTurnChannelBind_upholds (c : Ctx) :
    c.Upholds Session.tenure (handleTurnChannelBind cfg tid attrs c) := by
  rw [handleTurnChannelBind]
  simp only
  generalize readChannelBind cfg c.ss.alloc tid attrs = p
  split_ifs
  · exact .of_reply rfl rfl
  · exact .refl c
  · exact .of_reply rfl rfl
  · exact .of_reply rfl rfl
  · generalize bindChannel _ _ _ _ _ _ = r
    split
    · exact .of_books rfl rfl le_rfl
    · -- the peer is registered for the session that has the channel now
      generalize hbound : Ctx.emit _ (Effect.channelUpdated _ _ _) = c₁
      have hsame : c.Upholds Session.tenure c₁ := by
        rw [← hbound]
        exact .of_books rfl rfl le_rfl
      have hregister := registerMultiplexPeer_upholds Session.tenure cfg p.val.peerAddr c₁
      generalize registerMultiplexPeer cfg p.val.peerAddr c₁ = q at hregister ⊢
      obtain ⟨registered, c₂⟩ := q
      cases registered with
      | false => exact hsame.trans hregister
      | true => exact (hsame.trans hregister).trans (.of_reply rfl rfl)

lemma updatePeer_upholds (cfg : Config) (peerAddr : IoaAddr) (c : Ctx) :
    c.Upholds Session.tenure (updatePeer cfg peerAddr c) := by
  rw [updatePeer]
  generalize hupdated : Ctx.emit _ (Effect.permissionUpdated _ _) = c₁
  have hsame : c.Upholds Session.tenure c₁ := by
    rw [← hupdated]
    exact .of_books rfl rfl le_rfl
  split_ifs
  · exact hsame.trans (.of_reply rfl rfl)
  · exact hsame.trans (registerMultiplexPeer_upholds _ cfg peerAddr c₁)

lemma handleTurnCreatePermission_upholds (c : Ctx) :
    c.Upholds Session.tenure (handleTurnCreatePermission cfg tid attrs c) := by
  have hpeers : ∀ (peers : List IoaAddr) (c : Ctx),
      c.Upholds Session.tenure (peers.foldl (fun c peer => updatePeer cfg peer c) c) := by
    intro peers
    induction peers with
    | nil => exact .refl
    | cons peer peers ih => exact fun c => (updatePeer_upholds cfg peer c).trans (ih _)
  rw [handleTurnCreatePermission]
  simp only
  generalize readCreatePermission cfg c.ss tid attrs = p
  have hloop : c.Upholds Session.tenure (c.afterLoop p) := .of_reply rfl rfl
  split_ifs
  · exact .refl c
  · exact .of_reply rfl rfl
  · exact hloop
  · exact .of_reply rfl rfl
  · exact (hloop.trans (hpeers (peerAddrs cfg tid attrs) _)).trans (.of_reply rfl rfl)
  · exact hloop.trans (hpeers (peerAddrs cfg tid attrs) _)

lemma handleTurnSend_upholds (c : Ctx) :
    c.Upholds Session.tenure (handleTurnSend cfg tid nd attrs c) := by
  rw [handleTurnSend]
  simp only
  generalize readSend cfg tid attrs = p
  have hloop : c.Upholds Session.tenure (c.afterLoop p) := .of_reply rfl rfl
  iterate 7
    split
    · exact .of_reply rfl rfl
  have hregister := registerMultiplexPeer_upholds Session.tenure cfg p.val.peerAddr (c.afterLoop p)
  generalize registerMultiplexPeer cfg p.val.peerAddr (c.afterLoop p) = q at hregister ⊢
  obtain ⟨registered, c₁⟩ := q
  cases registered with
  | false => exact hloop.trans hregister
  | true =>
    refine (hloop.trans hregister).trans (Calm.tenure (p := fun _ => True) ?_)
    exact sendToPeer_calm _ _ _ fun _ _ => trivial

lemma handleTurnConnect_keepsTerms (c : Ctx) :
    c.KeepsTerms (handleTurnConnect cfg env tid attrs c) := by
  rw [handleTurnConnect]
  simp only
  generalize readConnect cfg c.ss.alloc tid attrs = p
  split_ifs
  iterate 6 exact .of_sessions rfl rfl
  rw [tcpStartConnectionToPeer]
  simp only
  split_ifs <;> exact .of_sessions rfl rfl

lemma allocateFinish_srv (err4 err6 : ℕ) (c : Ctx) :
    (allocateFinish cfg tid err4 err6 c).srv = c.srv := by
  rw [allocateFinish]
  split
  · simp only
    split_ifs <;> rfl
  · split_ifs <;> rfl

lemma handleTurnAllocate_upholds {α : Type} (view : Session → α)
    (hvalid : c.ss.alloc.isValid = true) :
    c.Upholds view (handleTurnAllocate cfg env tid attrs c) := by
  have hagain : (allocateAgain cfg tid c).srv = c.srv := by
    rw [allocateAgain]
    simp only
    split_ifs
    · rfl
    · split <;> rfl
  rw [handleTurnAllocate_of_valid hvalid]
  exact .of_reply ((allocateFinish_srv 0 0 _).trans hagain)
    ((allocateFinish_ss 0 0 _).trans allocateAgain_ss)

lemma handleTurnRefresh_upholds (c : Ctx) (hids : c.srv.IdsMatch) :
    c.Upholds Session.tenure (handleTurnRefresh cfg env tid canResume nd attrs c) :=
  Settles.tenure (p := fun _ => True) (handleTurnRefresh_settles (fun _ _ => trivial) c hids
    fun _ _ => (checkStunAuth_frame _ fun _ => trivial).toFollows)

lemma handleIndication_upholds (method : ℕ) (c : Ctx) :
    c.Upholds Session.tenure (handleIndication cfg method tid nd attrs c) := by
  have hsilent : c.Upholds Session.tenure c.silent := .of_reply rfl rfl
  unfold handleIndication
  simp only
  split
  · exact hsilent.trans (handleTurnSend_upholds _)
  · exact .of_reply rfl rfl
  · exact hsilent

lemma readClientConnection_upholds_or (c : Ctx) :
    c.Upholds Session.tenure (readClientConnection cfg env nd canResume c) ∨
      readClientConnection cfg env nd canResume c =
        readCommand cfg env nd canResume (c.received nd) := by
  rcases readClientConnection_cases cfg env nd canResume c rfl with
    ⟨h, -⟩ | ⟨s, chnum, len, -, h⟩ | ⟨-, -, h⟩
  · exact Or.inl h.tenure
  · rw [h]
    exact Or.inl (Calm.tenure (p := fun _ => True) (writeToPeerchannel_calm c fun _ _ => trivial))
  · exact Or.inr h

/-! ## Packets -/

/-- The terms of all sessions are the same, those of the packet's session when its allocation was
valid. -/
structure Ctx.KeepsGranted (c c' : Ctx) : Prop where
  own : c.ss.alloc.isValid = true → c'.ss.terms = c.ss.terms
  sessions : ∀ sid, (c'.srv.sessionsMap sid).map Session.terms =
    (c.srv.sessionsMap sid).map Session.terms

lemma Ctx.KeepsTerms.granted (h : c.KeepsTerms c') : c.KeepsGranted c' :=
  ⟨fun _ => h.own, h.sessions⟩

lemma Session.valid_of_terms {ss ss' : Session} (h : ss'.terms = ss.terms) :
    ss'.alloc.isValid = ss.alloc.isValid :=
  congrArg (·.2.2) h

lemma Ctx.KeepsTerms.granted_trans (h : c.KeepsTerms c') (h' : c'.KeepsGranted c'') :
    c.KeepsGranted c'' := by
  refine ⟨fun hvalid => ?_, fun sid => (h'.sessions sid).trans (h.sessions sid)⟩
  exact (h'.own ((Session.valid_of_terms h.own).trans hvalid)).trans h.own

lemma dispatch_keepsGranted (method : ℕ) (c : Ctx) (hids : c.srv.IdsMatch) :
    c.KeepsGranted (dispatch cfg env method tid canResume nd attrs c) := by
  unfold dispatch
  split
  · exact ⟨fun hvalid => (handleTurnAllocate_upholds Session.terms hvalid).own,
      fun sid => by rw [(handleTurnAllocate_frame cfg env tid attrs c).1.sessions]⟩
  · have hconnect : c.KeepsTerms (handleTurnConnect cfg env tid attrs c) :=
      handleTurnConnect_keepsTerms c
    refine KeepsTerms.granted ?_
    simp only
    split_ifs
    · exact hconnect.trans ⟨rfl, fun _ => rfl⟩
    · exact hconnect
  · exact (handleTurnConnectionBind_calm cfg env tid nd attrs c).tenure.keepsTerms.granted
  · exact (handleTurnRefresh_upholds c hids).keepsTerms.granted
  · exact (handleTurnChannelBind_upholds c).keepsTerms.granted
  · exact (handleTurnCreatePermission_upholds c).keepsTerms.granted
  · exact (dispatchBinding_calm cfg env tid attrs c).tenure.keepsTerms.granted
  · exact (KeepsTerms.refl c).granted

lemma handleMessage_keepsGranted (c : Ctx) (hids : c.srv.IdsMatch) :
    c.KeepsGranted (handleMessage cfg env nd canResume c) := by
  rw [handleMessage]
  split
  · have hadmit : Calm Session.unchecked (fun _ => True) c (admitRequest cfg env
        (stunGetMethod nd.buf) (stunTidFromMessage nd.buf) canResume nd (stunAttrs nd.buf) c) :=
      admitRequest_calm c fun c₁ _ => (checkStunAuth_frame c₁ fun _ => trivial).toFollows
    have hterms := hadmit.checked.tenure.keepsTerms
    rw [handleRequest]
    split_ifs
    · refine hterms.granted_trans (dispatch_keepsGranted _ _ ?_)
      rw [Server.IdsMatch, hadmit.checked.frame.sessions]
      exact hids
    · exact hterms.granted
  split
  · exact (handleIndication_upholds _ c).keepsTerms.granted
  · exact KeepsTerms.granted ⟨rfl, fun _ => rfl⟩

/-- A packet leaves the terms of all other sessions as they are. -/
lemma readClientConnection_keepsGranted (c : Ctx) (hids : c.srv.IdsMatch) :
    c.KeepsGranted (readClientConnection cfg env nd canResume c) := by
  have hread : c.Upholds Session.tenure (readClientConnection cfg env nd canResume c) ∨
      readClientConnection cfg env nd canResume c =
        readCommand cfg env nd canResume (c.received nd) := readClientConnection_upholds_or c
  rcases hread with hsame | hcommand
  · exact hsame.keepsTerms.granted
  · rw [hcommand]
    have hmessage : (c.received nd).KeepsGranted
        (handleMessage cfg env nd canResume (c.received nd)) :=
      handleMessage_keepsGranted _ hids
    obtain ⟨hcalm, hss⟩ := readCommand_calm cfg env nd canResume (c.received nd)
    refine ⟨fun hvalid => ?_, fun sid => ?_⟩
    · rw [hss]
      exact hmessage.own hvalid
    · rw [hcalm.frame.sessions]
      exact hmessage.sessions sid

end Coturn
