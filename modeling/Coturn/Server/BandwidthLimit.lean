/-
# The bandwidth limit of an allocation

An Allocate may be granted a rate, `bps`, which `ioa_socket_check_bandwidth` of
`apps/relay/ns_ioalib_engine_impl.c` reads for every packet; zero means no limit. `dec_bps` gives it
back when the client connection is shut down, also when the session is mobile and its allocation
goes on.
-/
import Coturn.Server.Accounts

namespace Coturn

open Option

/-! ## The check of the I/O layer -/

/-- `jiffie_bytes_read` and `jiffie_bytes_write` of a `struct traffic_bytes`. -/
structure TrafficBytes where
  read : ℕ
  write : ℕ

def TrafficBytes.count (t : TrafficBytes) (read : Bool) : ℕ := if read then t.read else t.write

def TrafficBytes.set (t : TrafficBytes) (read : Bool) (n : ℕ) : TrafficBytes :=
  if read then { t with read := n } else { t with write := n }

@[simp] lemma TrafficBytes.count_set (t : TrafficBytes) (read read' : Bool) (n : ℕ) :
    (t.set read n).count read' = if read' = read then n else t.count read' := by
  cases read <;> cases read' <;> rfl

/-- `ioa_socket` as far as it is metered. -/
structure SocketTraffic where
  jiffie : UInt32
  dataTraffic : TrafficBytes
  controlTraffic : TrafficBytes

/-- The sockets of a session. -/
inductive SessionSocket where
  | client
  | relay
  | relayRtcp
  deriving DecidableEq

/-- On the client socket, STUN messages other than Send and Data count as control traffic. -/
def isControlTraffic (sat : SessionSocket) (buf : List UInt8) : Bool :=
  sat = .client && stunIsCommandMessage buf && stunGetMethod buf != stunMethodSend &&
    stunGetMethod buf != stunMethodData

/-- `ioa_socket_check_bandwidth` with the given rate: whether the packet may pass, and what is
counted. -/
def ioaSocketCheckBandwidth (jiffie : UInt32) (maxBps : ℕ) (sat : SessionSocket) (buf : List UInt8)
    (read : Bool) (s : SocketTraffic) : Bool × SocketTraffic :=
  if maxBps < 1 then (true, s)
  else
    let control := isControlTraffic sat buf
    let traffic := if control then s.controlTraffic else s.dataTraffic
    let put (t : TrafficBytes) (s : SocketTraffic) : SocketTraffic :=
      if control then { s with controlTraffic := t } else { s with dataTraffic := t }
    if s.jiffie ≠ jiffie then
      let s := { s with jiffie := jiffie }
      let traffic : TrafficBytes := ⟨0, 0⟩
      if maxBps < buf.length then (false, put traffic s)
      else (true, put (traffic.set read buf.length) s)
    else
      let nsz := traffic.count read + buf.length
      if maxBps < nsz then (false, s) else (true, put (traffic.set read nsz) s)

/-- The bytes of relayed data that pass a socket in one direction, of the packets that come within
one interval. -/
def relayedBytes (jiffie : UInt32) (maxBps : ℕ) (sat : SessionSocket) (read : Bool) :
    List (List UInt8 × Bool) → SocketTraffic → ℕ
  | [], _ => 0
  | (buf, read') :: ps, s =>
    let r := ioaSocketCheckBandwidth jiffie maxBps sat buf read' s
    (if r.1 && read' == read && !isControlTraffic sat buf then buf.length else 0) +
      relayedBytes jiffie maxBps sat read ps r.2

/-- What the socket has let pass in this interval so far. -/
def SocketTraffic.counted (s : SocketTraffic) (jiffie : UInt32) (read : Bool) : ℕ :=
  if s.jiffie = jiffie then s.dataTraffic.count read else 0

lemma ioaSocketCheckBandwidth_counted {maxBps : ℕ} (hlimit : maxBps ≠ 0) (jiffie : UInt32)
    (sat : SessionSocket) (buf : List UInt8) (read read' : Bool) (s : SocketTraffic) :
    (if (ioaSocketCheckBandwidth jiffie maxBps sat buf read' s).1 && read' == read &&
        !isControlTraffic sat buf then buf.length else 0) +
      (maxBps - (ioaSocketCheckBandwidth jiffie maxBps sat buf read' s).2.counted jiffie read) ≤
        maxBps - s.counted jiffie read := by
  have hpos : ¬ maxBps < 1 := by omega
  simp only [ioaSocketCheckBandwidth, if_neg hpos]
  cases isControlTraffic sat buf with
  | true =>
    -- control traffic is counted apart; the data is not reset with it
    by_cases hjiffie : s.jiffie = jiffie
    · simp only [hjiffie, ne_eq, not_true_eq_false, Bool.not_true, Bool.and_false,
        Bool.false_eq_true, if_false, if_true]
      split_ifs <;> simp [SocketTraffic.counted, hjiffie]
    · simp only [hjiffie, ne_eq, not_false_eq_true, Bool.not_true, Bool.and_false,
        Bool.false_eq_true, if_false, if_true]
      split_ifs <;> simp [SocketTraffic.counted, hjiffie]
  | false =>
    have hswap : read = read' ↔ read' = read := eq_comm
    by_cases hjiffie : s.jiffie = jiffie
    · simp only [hjiffie, ne_eq, not_true_eq_false, if_false, Bool.false_eq_true]
      by_cases hover : maxBps < s.dataTraffic.count read' + buf.length
      · simp [hover, SocketTraffic.counted, hjiffie]
      · rw [if_neg hover]
        by_cases hread : read' = read
        · subst hread
          simp [SocketTraffic.counted, hjiffie]
          omega
        · simp [SocketTraffic.counted, hjiffie, hswap, hread]
    · simp only [hjiffie, ne_eq, not_false_eq_true, if_true, Bool.false_eq_true, if_false]
      by_cases hover : maxBps < buf.length
      · simp [hover, SocketTraffic.counted, hjiffie]
      · rw [if_neg hover]
        by_cases hread : read' = read
        · subst hread
          simp [SocketTraffic.counted, hjiffie]
          omega
        · simp [SocketTraffic.counted, hjiffie, hswap, hread]

lemma relayedBytes_le {maxBps : ℕ} (hlimit : maxBps ≠ 0) (jiffie : UInt32) (sat : SessionSocket)
    (read : Bool) (ps : List (List UInt8 × Bool)) (s : SocketTraffic) :
    relayedBytes jiffie maxBps sat read ps s ≤ maxBps - s.counted jiffie read := by
  induction ps generalizing s with
  | nil => exact Nat.zero_le _
  | cons p ps ih =>
    have hpacket := ioaSocketCheckBandwidth_counted hlimit jiffie sat p.1 read p.2 s
    have hrest := ih (ioaSocketCheckBandwidth jiffie maxBps sat p.1 p.2 s).2
    rw [relayedBytes]
    omega

/-! ## The end of a client connection -/

variable {cfg : Config} {env : Env} {nd : NetData} {canResume : Bool} {c : Ctx} {srv srv' : Server}
  {sid : ℕ} {ss : Session} {i : Input}

/-- The terms of a session. -/
def Server.termsOf (srv : Server) (sid : ℕ) : Option (ℕ × Bool × Bool) :=
  (srv.sessionsMap sid).map Session.terms

lemma termsOf_putSession (srv : Server) (ss : Session) (sid : ℕ) :
    (srv.putSession ss).termsOf sid = if sid = ss.id then some ss.terms else srv.termsOf sid := by
  rw [Server.termsOf, putSession_sessionsMap]
  split_ifs <;> rfl

lemma termsOf_of_some (hss : srv.sessionsMap sid = some ss) : srv.termsOf sid = some ss.terms := by
  rw [Server.termsOf, hss]
  rfl

/-- What is left of a session whose client connection is shut down without force. -/
def Session.outlives (ss : Session) : Option (ℕ × Bool × Bool) :=
  if ss.alloc.isValid && ss.isMobile then some (0, true, true) else none

lemma Session.outlives_congr {ss' : Session} (h : ss'.terms = ss.terms) :
    ss'.outlives = ss.outlives := by
  have hmobile : ss'.isMobile = ss.isMobile := congrArg (·.2.1) h
  rw [Session.outlives, Session.outlives, Session.valid_of_terms h, hmobile]

lemma shutdownClientConnection_termsOf (cfg : Config) (force : Bool) (srv : Server) (ss : Session) :
    (shutdownClientConnection cfg force srv ss).termsOf ss.id =
      if force then none else ss.outlives := by
  have htenancy := Session.tenancy_of_unchecked (decQuota_unchecked cfg srv.realms ss)
  have hid : (decQuota cfg srv.realms ss).2.id = ss.id := congrArg (·.1) htenancy
  have hterms : (decQuota cfg srv.realms ss).2.terms = ss.terms := terms_of_tenancy htenancy
  rw [shutdownClientConnection]
  generalize decQuota cfg srv.realms ss = r at hid hterms ⊢
  have hvalid : r.2.alloc.isValid = ss.alloc.isValid := Session.valid_of_terms hterms
  have hmobile : r.2.isMobile = ss.isMobile := congrArg (·.2.1) hterms
  have hremove : ∀ srv₁ : Server, (removeSession srv₁ (decBps r.2)).termsOf ss.id = none := by
    intro srv₁
    rw [Server.termsOf, (removeSession_parts _ _).1]
    simp [decBps, hid]
  simp only
  by_cases hstays : (!force && (decBps r.2).alloc.isValid && (decBps r.2).isMobile) = true
  · rw [if_pos hstays, termsOf_putSession]
    refine (if_pos hid.symm).trans ?_
    simp only [decBps, hvalid, hmobile, Bool.and_eq_true, Bool.not_eq_true'] at hstays
    simp [Session.terms, decBps, hvalid, hmobile, Session.outlives, hstays]
  · rw [if_neg hstays, hremove]
    simp only [decBps, hvalid, hmobile, Bool.and_eq_true, Bool.not_eq_true', not_and] at hstays
    cases force <;> simp_all [Session.outlives]

lemma closeIfNecessary_termsOf (cfg : Config) (hids : srv.IdsMatch)
    (hss : srv.sessionsMap sid = some ss) :
    (closeIfNecessary cfg sid srv).termsOf sid =
      if ioaSocketTobeclosed ss.clientSocket then ss.outlives else some ss.terms := by
  obtain rfl := hids sid ss hss
  rw [closeIfNecessary, hss]
  simp only
  split_ifs
  · exact shutdownClientConnection_termsOf cfg false srv ss
  · exact termsOf_of_some hss

lemma withSession_termsOf {f : Ctx → Ctx} {sid' : ℕ}
    (hf : ∀ ss, srv.sessionsMap sid' = some ss →
      (⟨srv, ss, .init, []⟩ : Ctx).KeepsTerms (f ⟨srv, ss, .init, []⟩) ∧
        (f ⟨srv, ss, .init, []⟩).ss.id = ss.id) (hids : srv.IdsMatch) (sid : ℕ) :
    (withSession srv sid' f).1.termsOf sid = srv.termsOf sid := by
  rw [withSession]
  split
  · rfl
  next ss hss =>
    obtain ⟨hkeeps, hid⟩ := hf ss hss
    rw [termsOf_putSession, hid]
    split_ifs with hsid
    · rw [hkeeps.own, hsid, Server.termsOf, hids sid' ss hss, hss]
      rfl
    · exact hkeeps.sessions sid

/-! ## One event -/

/-- The family has the last relay socket of the allocation. -/
def Allocation.LastRelay (a : Allocation) (family : ℕ) : Prop :=
  (a.getRelaySocket family).isSome = true ∧
    (a.getRelaySocket (if family = 10 then 2 else 10)).isNone = true

/-- The client connection is shut down without force: the session is cancelled, its last relay
socket expires, or its client socket is to be closed after a packet. -/
def Server.ClosesClient (srv : Server) (i : Input) (ss : Session) : Prop :=
  match i.ev with
  | .clientInput sid nd canResume =>
    sid = ss.id ∧ ioaSocketTobeclosed
      (clientInputHandler i.cfg i.env nd canResume ⟨srv, ss, .init, []⟩).ss.clientSocket = true
  | .resume _ _ =>
    ∃ q ∈ srv.packet i, q.2.2.ss.id = ss.id ∧ ioaSocketTobeclosed
      (readClientConnection i.cfg i.env q.1 q.2.1 q.2.2).ss.clientSocket = true
  | .cancelSession sid => sid = ss.id
  | .allocationTimeout sid family => sid = ss.id ∧ ss.alloc.LastRelay family
  | _ => False

/-- What an event does to the terms of a session with a valid allocation. -/
def Server.TermsAfter (srv : Server) (i : Input) (ss : Session) : Prop :=
  (srv.ClosesClient i ss ∧ (srv.step i).termsOf ss.id = ss.outlives) ∨
    (¬ srv.ClosesClient i ss ∧
      ((srv.step i).termsOf ss.id = some ss.terms ∨ (srv.step i).termsOf ss.id = none))

lemma Server.TermsAfter.of_same (hss : srv.sessionsMap ss.id = some ss)
    (hcloses : ¬ srv.ClosesClient i ss) (hsame : (srv.step i).termsOf ss.id = srv.termsOf ss.id) :
    srv.TermsAfter i ss :=
  Or.inr ⟨hcloses, Or.inl (hsame.trans (termsOf_of_some hss))⟩

lemma noPacket_termsOf (hnum : srv.Numbered) (hreads : i.ev.Reads) (hpacket : srv.packet i = none) :
    (srv.step i).termsOf sid = srv.termsOf sid := by
  obtain ⟨pending, hhandle⟩ := handle_of_no_packet hnum hreads hpacket
  rw [Server.step, hhandle]
  rfl

lemma packet_termsOf_other (hnum : srv.Numbered) (hpacket : srv.packet i = some (nd, canResume, c))
    (hsid : sid ≠ c.ss.id) : (srv.step i).termsOf sid = srv.termsOf sid := by
  have hread : c.KeepsGranted (readClientConnection i.cfg i.env nd canResume c) :=
    readClientConnection_keepsGranted c (packet_state hnum hpacket).numbered.ids
  rw [Server.termsOf, step_packet_other hnum hpacket hsid, hread.sessions,
    (packet_sessions hnum hpacket).1 sid hsid]
  rfl

lemma Server.TermsAfter.of_own {c' : Ctx} (hids : c'.srv.IdsMatch) (hid : c'.ss.id = ss.id)
    (hterms : c'.ss.terms = ss.terms)
    (hcloses : srv.ClosesClient i ss ↔ ioaSocketTobeclosed c'.ss.clientSocket = true)
    (hstep : srv.step i = closeIfNecessary cfg ss.id (c'.srv.putSession c'.ss)) :
    srv.TermsAfter i ss := by
  have hids' : (c'.srv.putSession c'.ss).IdsMatch := by
    intro sid ss' hss'
    rw [putSession_sessionsMap] at hss'
    split_ifs at hss' with hsid
    · rw [← Option.some.inj hss', hsid]
    · exact hids sid ss' hss'
  rw [Server.TermsAfter, hcloses, hstep, closeIfNecessary_termsOf cfg hids'
    (by rw [putSession_sessionsMap, if_pos hid.symm]), hterms, Session.outlives_congr hterms]
  by_cases hclosed : ioaSocketTobeclosed c'.ss.clientSocket = true
  · exact Or.inl ⟨hclosed, if_pos hclosed⟩
  · exact Or.inr ⟨hclosed, Or.inl (if_neg hclosed)⟩

lemma readClientConnection_own (hids : c.srv.IdsMatch) (hvalid : c.ss.alloc.isValid = true) :
    (readClientConnection cfg env nd canResume c).srv.IdsMatch ∧
      (readClientConnection cfg env nd canResume c).ss.id = c.ss.id ∧
      (readClientConnection cfg env nd canResume c).ss.terms = c.ss.terms := by
  have hstep := readClientConnection_step c hids (admits_true cfg env nd canResume c)
  have hkeeps : c.KeepsGranted (readClientConnection cfg env nd canResume c) :=
    readClientConnection_keepsGranted c hids
  refine ⟨fun sid ss hss => ?_, hstep.sid, hkeeps.own hvalid⟩
  have hcore := hstep.sessions sid
  rw [hss] at hcore
  obtain ⟨ss₀, hss₀, heq⟩ := map_eq_some_iff.mp hcore.symm
  rw [← hids sid ss₀ hss₀]
  exact congrArg Prod.fst heq.symm

lemma clientInput_termsAfter (hnum : srv.Numbered) (hss : srv.sessionsMap ss.id = some ss)
    (hvalid : ss.alloc.isValid = true) (sid : ℕ) (nd : NetData) (canResume : Bool) :
    srv.TermsAfter ⟨cfg, env, .clientInput sid nd canResume⟩ ss := by
  by_cases hsid : sid = ss.id
  · subst hsid
    obtain ⟨-, hsrv, hleaves⟩ := clientInputHandler_parts cfg env nd canResume ⟨srv, ss, .init, []⟩
    obtain ⟨hids, hid, hterms⟩ := @readClientConnection_own cfg env nd canResume
      ⟨srv, ss, .init, []⟩ hnum.ids hvalid
    have hstep : (srv.step ⟨cfg, env, .clientInput ss.id nd canResume⟩) = closeIfNecessary cfg ss.id
        ((clientInputHandler cfg env nd canResume ⟨srv, ss, .init, []⟩).srv.putSession
          (clientInputHandler cfg env nd canResume ⟨srv, ss, .init, []⟩).ss) := by
      show closeIfNecessary cfg ss.id
        (withSession srv ss.id (clientInputHandler cfg env nd canResume)).1 = _
      rw [withSession_of_some _ hss]
    have hcloses : srv.ClosesClient ⟨cfg, env, .clientInput ss.id nd canResume⟩ ss ↔
        ioaSocketTobeclosed (clientInputHandler cfg env nd canResume
          ⟨srv, ss, .init, []⟩).ss.clientSocket = true := and_iff_right rfl
    generalize clientInputHandler cfg env nd canResume ⟨srv, ss, .init, []⟩ = c'
      at hsrv hleaves hstep hcloses
    have hown : c'.ss.id = ss.id ∧ c'.ss.terms = ss.terms := by
      rcases hleaves with heq | ⟨-, heq⟩ <;> rw [heq]
      · exact ⟨hid, hterms⟩
      · exact ⟨hid, hterms⟩
    exact .of_own (hsrv ▸ hids) hown.1 hown.2 hcloses hstep
  · refine .of_same hss (fun hcloses => hsid hcloses.1) ?_
    cases hpacket : srv.packet ⟨cfg, env, .clientInput sid nd canResume⟩ with
    | none => exact noPacket_termsOf hnum trivial hpacket
    | some q =>
      obtain ⟨ss', hss', rfl⟩ := map_eq_some_iff.mp hpacket
      refine packet_termsOf_other hnum hpacket fun heq => hsid ?_
      exact (hnum.ids sid ss' hss').symm.trans heq.symm

lemma resume_termsAfter (hnum : srv.Numbered) (hss : srv.sessionsMap ss.id = some ss)
    (hvalid : ss.alloc.isValid = true) (n : ℕ) (answer : Option KeyAnswer) :
    srv.TermsAfter ⟨cfg, env, .resume n answer⟩ ss := by
  cases hpacket : srv.packet ⟨cfg, env, .resume n answer⟩ with
  | none =>
    refine .of_same hss ?_ (noPacket_termsOf hnum trivial hpacket)
    rintro ⟨q, hq, -⟩
    rw [hpacket] at hq
    cases hq
  | some q =>
    obtain ⟨nd, canResume, c⟩ := q
    have hcloses : srv.ClosesClient ⟨cfg, env, .resume n answer⟩ ss ↔ c.ss.id = ss.id ∧
        ioaSocketTobeclosed (readClientConnection cfg env nd canResume c).ss.clientSocket = true := by
      rw [Server.ClosesClient, hpacket]
      simp
    by_cases hsid : ss.id = c.ss.id
    · have hids := (packet_state hnum hpacket).numbered.ids
      cases packet_of hpacket with
      | @resumed n answer l ss' hl hss' hsocket =>
        generalize hc : answer.elim _ _ = c at hcloses hsid hids
        -- the answer changes no terms
        have hsame : c.ss.id = ss'.id ∧ c.ss.terms = ss'.terms := by
          rw [← hc]
          cases answer with
          | none => exact ⟨rfl, rfl⟩
          | some k =>
            have htenancy := Session.tenancy_of_unchecked (acceptKey_unchecked cfg k srv.realms ss')
            exact ⟨congrArg (·.1) htenancy, terms_of_tenancy htenancy⟩
        have hlsid : l.sid = ss.id :=
          ((hnum.ids l.sid ss' hss').symm.trans hsame.1.symm).trans hsid.symm
        obtain rfl : ss = ss' := by
          rw [hlsid, hss] at hss'
          exact Option.some.inj hss'
        have hsome : ss.clientSocket.isNone = false := by
          rw [isNone_eq_false_iff]
          exact hsocket
        have hstep : srv.step ⟨cfg, env, .resume n answer⟩ = closeIfNecessary cfg ss.id
            ((readClientConnection cfg env l.nd false c).srv.putSession
              (readClientConnection cfg env l.nd false c).ss) := by
          rw [← hlsid]
          exact congrArg Prod.fst (resumeProcessing_of_some hl hss' hsome hc.symm)
        obtain ⟨hids', hid, hterms⟩ := @readClientConnection_own cfg env l.nd false c hids
          ((Session.valid_of_terms hsame.2).trans hvalid)
        exact .of_own hids' (hid.trans hsame.1) (hterms.trans hsame.2)
          (hcloses.trans (and_iff_right hsid.symm)) hstep
    · refine .of_same hss (fun h => hsid (hcloses.mp h).1.symm) ?_
      exact packet_termsOf_other hnum hpacket hsid

lemma getRelaySocket_cleared (a : Allocation) {family : ℕ} {r : RelayEndpointSession}
    (hr : r.s = none) :
    (((a.setRelaySession family r).getRelaySocket 2).isNone &&
      ((a.setRelaySession family r).getRelaySocket 10).isNone) =
        (a.getRelaySocket (if family = 10 then 2 else 10)).isNone := by
  simp only [Allocation.setRelaySession, Allocation.getRelaySocket, Allocation.getRelaySession]
  by_cases hfamily : family = 10 <;> simp [hfamily, hr]

lemma setRelaySession_isValid (a : Allocation) (family : ℕ) (r : RelayEndpointSession) :
    (a.setRelaySession family r).isValid = a.isValid := by
  rw [Allocation.setRelaySession]
  split_ifs <;> rfl

lemma allocationTimeout_termsAfter (h : srv.WellFormed) (hss : srv.sessionsMap ss.id = some ss)
    (sid family : ℕ) : srv.TermsAfter ⟨cfg, env, .allocationTimeout sid family⟩ ss := by
  have hids := h.numbered.ids
  have hstep : srv.step ⟨cfg, env, .allocationTimeout sid family⟩ =
      allocationTimeout cfg sid family srv := rfl
  rw [Server.TermsAfter, hstep, allocationTimeout]
  cases hsid : srv.sessionsMap sid with
  | none =>
    refine Or.inr ⟨?_, Or.inl (termsOf_of_some hss)⟩
    rintro ⟨rfl, -⟩
    rw [hss] at hsid
    cases hsid
  | some ss' =>
    simp only
    cases hs : ss'.alloc.getRelaySocket family with
    | none =>
      refine Or.inr ⟨?_, Or.inl (termsOf_of_some hss)⟩
      rintro ⟨rfl, hsome, -⟩
      obtain rfl : ss = ss' := mem_unique hss hsid
      rw [hs] at hsome
      cases hsome
    | some s =>
      have hplaced := h.sound.placed sid ss'.alloc.relay (view_sessions_of_some hsid)
      have hfamily := family_of_placed hplaced hs
      simp only
      generalize hr : expireRelay cfg sid family s srv ss' = r
      have hparts : r.1.sessionsMap = srv.sessionsMap ∧ r.2.id = ss'.id ∧ r.2.terms = ss'.terms ∧
          ((r.2.alloc.getRelaySocket 2).isNone && (r.2.alloc.getRelaySocket 10).isNone) =
            (ss'.alloc.getRelaySocket (if family = 10 then 2 else 10)).isNone := by
        have hterms : ∀ (a : Allocation) (family : ℕ) (r : RelayEndpointSession),
            a.isValid = ss'.alloc.isValid →
              { ss' with alloc := a.setRelaySession family r }.terms = ss'.terms := by
          intro a family r ha
          exact congrArg (fun valid => (ss'.bps, ss'.isMobile, valid))
            ((setRelaySession_isValid a family r).trans ha)
        rw [← hr, expireRelay]
        by_cases hmp : isMultiplexPeerUdpRelay cfg (some s) = true
        · rw [if_pos hmp]
          refine ⟨by simp only [mpDeregisterSessionPeers], rfl, hterms _ _ _ rfl, ?_⟩
          exact getRelaySocket_cleared ss'.alloc rfl
        · rw [if_neg hmp]
          refine ⟨rfl, rfl, hterms _ _ _ rfl, ?_⟩
          have hplace : (if s.family = 10 then 2 else 10) = if family = 10 then 2 else 10 := by
            rw [hfamily]
            by_cases h10 : family = 10 <;> simp [h10]
          rw [← hplace]
          exact getRelaySocket_cleared
            { ss'.alloc with tcs := clearTcs (fun tc => tc.peerFamily = some s.family) ss'.alloc.tcs }
            rfl
      obtain ⟨hmap, hid, hterms, hnone⟩ := hparts
      rw [hnone]
      by_cases hown : sid = ss.id
      · subst hown
        obtain rfl : ss = ss' := mem_unique hss hsid
        by_cases hlast : (ss.alloc.getRelaySocket (if family = 10 then 2 else 10)).isNone = true
        · rw [if_pos hlast, ← hid, shutdownClientConnection_termsOf, hid]
          exact Or.inl ⟨⟨rfl, by rw [hs]; rfl, hlast⟩, Session.outlives_congr hterms⟩
        · rw [if_neg hlast, termsOf_putSession, if_pos hid.symm, hterms]
          exact Or.inr ⟨fun hcloses => hlast hcloses.2.2, Or.inl rfl⟩
      · have hne : ss.id ≠ r.2.id := fun heq => hown (by rw [heq, hid, hids sid ss' hsid])
        refine Or.inr ⟨fun hcloses => hown hcloses.1, Or.inl ?_⟩
        by_cases hlast : (ss'.alloc.getRelaySocket (if family = 10 then 2 else 10)).isNone = true
        · rw [if_pos hlast, Server.termsOf, shutdownClientConnection_other cfg false r.1 r.2 hne, hmap]
          exact termsOf_of_some hss
        · rw [if_neg hlast, termsOf_putSession, if_neg hne, Server.termsOf, hmap]
          exact termsOf_of_some hss

lemma openSession_termsOf (hnum : srv.Numbered) (hss : srv.sessionsMap ss.id = some ss)
    (s : IoaSocket) (nd : Option NetData) (canResume : Bool) :
    (srv.step ⟨cfg, env, .openSession s nd canResume⟩).termsOf ss.id = srv.termsOf ss.id := by
  obtain ⟨ss', hsid, hid, -, hmap, -⟩ := createNewSs_parts cfg env s srv
  have hne : ss.id ≠ ss'.id := by
    intro heq
    have hfresh := hnum.fresh
    rw [← hid, ← heq, hss] at hfresh
    cases hfresh
  cases nd with
  | none =>
    show (createNewSs cfg env s srv).2.termsOf ss.id = _
    rw [Server.termsOf, hmap, if_neg hne]
    rfl
  | some nd =>
    have hnew : (createNewSs cfg env s srv).2.sessionsMap (createNewSs cfg env s srv).1 =
        some ss' := by
      rw [hsid, ← hid, hmap, if_pos rfl]
    have hpacket : srv.packet ⟨cfg, env, .openSession s (some nd) canResume⟩ =
        some (nd, canResume, ⟨(createNewSs cfg env s srv).2, ss', .init, []⟩) := by
      rw [Server.packet]
      simp only [hnew, map_some]
    exact packet_termsOf_other hnum hpacket hne

lemma timerTimeoutHandler_termsOf (cfg : Config) (ctime : UInt32) (srv : Server) (sid : ℕ) :
    (timerTimeoutHandler cfg ctime srv).termsOf sid = srv.termsOf sid := by
  have hsweep : ∀ ss, (sweepSession ctime ss).terms = ss.terms := by
    intro ss
    rw [sweepSession]
    split_ifs <;> rfl
  show ((srv.sessionsMap sid).map (sweepSession ctime)).map Session.terms = _
  rw [map_map, Server.termsOf]
  exact congrArg (fun f => (srv.sessionsMap sid).map f) (funext hsweep)

lemma bindDataConnection_keepsTerms (tc : TcpConnection) (tid : List UInt8) (s : IoaSocket)
    (c : Ctx) :
    c.KeepsTerms (bindDataConnection cfg env tc tid s nd c) ∧
      (bindDataConnection cfg env tc tid s nd c).ss.id = c.ss.id := by
  have hcalm : Ctx.Calm Session.unchecked (fun _ => True) c (bindAuth cfg env tid nd c).2 :=
    checkStunAuth_calm c fun _ => trivial
  have hcheck := hcalm.checked.tenure.keepsTerms
  have hframe := hcalm.checked.frame
  rw [bindDataConnection]
  split
  · exact ⟨⟨rfl, fun _ => rfl⟩, rfl⟩
  simp only
  split_ifs
  · exact ⟨hcheck, hframe.sid⟩
  · exact ⟨hcheck.trans ⟨rfl, fun _ => rfl⟩, hframe.sid⟩
  · exact ⟨hcheck.trans ⟨rfl, fun _ => rfl⟩, hframe.sid⟩

lemma acceptTcpClientData_termsOf (hids : srv.IdsMatch) (tcid : UInt32) (tid : List UInt8)
    (s : IoaSocket) (messageIntegrity : Bool) (sid : ℕ) :
    (acceptTcpClientData cfg env tcid tid s messageIntegrity nd srv).1.termsOf sid =
      srv.termsOf sid := by
  rcases acceptTcpClientData_cases cfg env tcid tid s messageIntegrity nd srv with
    ⟨r, heq, hsrv, -⟩ | ⟨e, ss, tc, c, l, -, hss, -, -, -, hc, -, heq⟩
  · rw [heq]
    rcases hsrv with hsrv | hsrv <;> rw [hsrv]
    rfl
  · rw [heq]
    show (c.srv.putSession c.ss).termsOf sid = _
    obtain ⟨hkeeps, hid⟩ := @bindDataConnection_keepsTerms cfg env nd tc tid s
      (.handed srv ss messageIntegrity)
    rw [← hc] at hkeeps hid
    rw [termsOf_putSession]
    split_ifs with hsid
    · rw [hkeeps.own, hsid, hid, hids e.1 ss hss]
      exact (termsOf_of_some hss).symm
    · exact hkeeps.sessions sid

/-- The rate is lost when the client connection is shut down and the session outlives it. -/
lemma termsAfter_of_wellFormed (h : srv.WellFormed) (hss : srv.sessionsMap ss.id = some ss)
    (hvalid : ss.alloc.isValid = true) (i : Input) : srv.TermsAfter i ss := by
  have hids := h.numbered.ids
  obtain ⟨cfg, env, ev⟩ := i
  cases ev with
  | openSession s nd canResume =>
    exact .of_same hss id (openSession_termsOf h.numbered hss s nd canResume)
  | clientInput sid nd canResume =>
    exact clientInput_termsAfter h.numbered hss hvalid sid nd canResume
  | resume n answer => exact resume_termsAfter h.numbered hss hvalid n answer
  | allocationTimeout sid family => exact allocationTimeout_termsAfter h hss sid family
  | peerInput sid family nd =>
    refine .of_same hss id (withSession_termsOf (fun ss' _ => ?_) hids ss.id)
    split_ifs
    · exact ⟨.refl _, rfl⟩
    · have hcalm : Ctx.Calm Session.kept (fun _ => True) ⟨srv, ss', .init, []⟩
          (peerInputHandler cfg env family nd ⟨srv, ss', .init, []⟩) :=
        peerInputHandler_calm cfg env family nd _ fun _ _ _ => trivial
      exact ⟨hcalm.tenure.keepsTerms, hcalm.frame.sid⟩
  | tick ctime => exact .of_same hss id (timerTimeoutHandler_termsOf cfg ctime srv ss.id)
  | toBeAllocatedTimeout sid =>
    have hstep : srv.step ⟨cfg, env, .toBeAllocatedTimeout sid⟩ =
        clientToBeAllocatedTimeout cfg sid srv := rfl
    refine Or.inr ⟨id, ?_⟩
    rw [hstep, clientToBeAllocatedTimeout]
    cases hss' : srv.sessionsMap sid with
    | none => exact Or.inl (termsOf_of_some hss)
    | some ss' =>
      simp only
      split_ifs
      · -- the session is removed by force
        by_cases hsid : ss.id = ss'.id
        · rw [hsid, shutdownClientConnection_termsOf]
          exact Or.inr rfl
        · rw [Server.termsOf, shutdownClientConnection_other cfg true srv ss' hsid]
          exact Or.inl (termsOf_of_some hss)
      · exact Or.inl (termsOf_of_some hss)
  | cancelSession sid =>
    have hstep : srv.step ⟨cfg, env, .cancelSession sid⟩ =
        (srv.sessionsMap sid).elim srv (shutdownClientConnection cfg false srv) := rfl
    rw [Server.TermsAfter, hstep]
    by_cases hsid : sid = ss.id
    · rw [hsid, hss]
      exact Or.inl ⟨rfl, shutdownClientConnection_termsOf cfg false srv ss⟩
    · refine Or.inr ⟨hsid, Or.inl ?_⟩
      cases hss' : srv.sessionsMap sid with
      | none => exact termsOf_of_some hss
      | some ss' =>
        have hne : ss.id ≠ ss'.id := fun heq => hsid (by rw [heq, hids sid ss' hss'])
        rw [Server.termsOf]
        exact (congrArg (Option.map Session.terms)
          (shutdownClientConnection_other cfg false srv ss' hne)).trans (termsOf_of_some hss)
  | clientSocketLost sid =>
    exact .of_same hss id (withSession_termsOf (fun ss' _ => ⟨⟨rfl, fun _ => rfl⟩, rfl⟩) hids ss.id)
  | relaySocketLost sid family =>
    refine .of_same hss id (withSession_termsOf (fun ss' _ => ⟨⟨?_, fun _ => rfl⟩, rfl⟩) hids ss.id)
    exact congrArg (fun valid => (ss'.bps, ss'.isMobile, valid))
      (congrArg (·.valid) (loseRelaySocket_relay family ss'.alloc))
  | tcpConnectCompleted sid handle success =>
    refine .of_same hss id (withSession_termsOf (fun ss' _ => ?_) hids ss.id)
    rw [tcpConnectCompleted]
    split
    · exact ⟨.refl _, rfl⟩
    · simp only
      split_ifs <;> exact ⟨⟨rfl, fun _ => rfl⟩, rfl⟩
  | tcpConnectionClosed sid handle =>
    refine .of_same hss id (withSession_termsOf (fun ss' _ => ?_) hids ss.id)
    rw [tcpConnectionClosed]
    split
    · exact ⟨.refl _, rfl⟩
    · exact ⟨⟨rfl, fun _ => rfl⟩, rfl⟩
  | tcpPeerAccept sid peerAddr =>
    refine .of_same hss id (withSession_termsOf (fun ss' _ => ?_) hids ss.id)
    rw [tcpPeerAccept]
    simp only
    split_ifs <;> exact ⟨⟨rfl, fun _ => rfl⟩, rfl⟩
  | acceptTcpClientData tcid tid s messageIntegrity nd =>
    exact .of_same hss id (acceptTcpClientData_termsOf hids tcid tid s messageIntegrity ss.id)

/-! ## Runs -/

/-- The session has a valid allocation. -/
def Server.HasAllocation (srv : Server) (sid : ℕ) : Prop :=
  ∃ ss ∈ srv.sessionsMap sid, ss.alloc.isValid = true
  deriving Decidable

/-- The session has the rate `b`, and what its sockets relay in any interval stays within it. -/
def Server.LimitedTo (srv : Server) (sid b : ℕ) : Prop :=
  ∀ ss ∈ srv.sessionsMap sid, ss.bps = b ∧
    ∀ jiffie sat read ps s, relayedBytes jiffie ss.bps sat read ps s ≤ b

/-- The event shuts down the client connection of the session, and the session is mobile. -/
def Server.LosesClient (srv : Server) (i : Input) (sid : ℕ) : Prop :=
  ∃ ss ∈ srv.sessionsMap sid, ss.isMobile = true ∧ srv.ClosesClient i ss

lemma limitedTo_of_some {b : ℕ} (hss : srv.sessionsMap sid = some ss) (hbps : ss.bps = b)
    (hb : b ≠ 0) : srv.LimitedTo sid b := by
  intro ss' hss'
  obtain rfl : ss = ss' := mem_unique hss hss'
  refine ⟨hbps, fun jiffie sat read ps s => ?_⟩
  rw [hbps]
  exact (relayedBytes_le hb jiffie sat read ps s).trans (Nat.sub_le _ _)

lemma exists_of_termsOf {t : ℕ × Bool × Bool} (h : srv.termsOf sid = some t) :
    ∃ ss, srv.sessionsMap sid = some ss ∧ ss.terms = t :=
  map_eq_some_iff.mp h

lemma limit_step (h : srv.WellFormed) (hss : srv.sessionsMap sid = some ss)
    (hvalid : ss.alloc.isValid = true) (hbps : ss.bps ≠ 0) (hlive : (srv.step i).HasAllocation sid) :
    (srv.LosesClient i sid ∧ ¬ (srv.step i).LimitedTo sid ss.bps) ∨
      (¬ srv.LosesClient i sid ∧ ∃ ss', (srv.step i).sessionsMap sid = some ss' ∧
        ss'.alloc.isValid = true ∧ ss'.bps = ss.bps) := by
  obtain rfl := h.numbered.ids sid ss hss
  have hsome : (srv.step i).termsOf ss.id ≠ none := by
    obtain ⟨ss', hss', -⟩ := hlive
    rw [termsOf_of_some hss']
    simp
  rcases termsAfter_of_wellFormed h hss hvalid i with
    ⟨hcloses, hterms⟩ | ⟨hcloses, hterms | hterms⟩
  · -- the session outlives its client connection, so it is mobile
    rw [Session.outlives] at hterms
    split_ifs at hterms with hmobile
    · obtain ⟨ss', hss', hzero⟩ := exists_of_termsOf hterms
      refine Or.inl ⟨⟨ss, hss, (Bool.and_eq_true_iff.mp hmobile).2, hcloses⟩, fun hlimited => ?_⟩
      have hbps' : ss'.bps = 0 := congrArg Prod.fst hzero
      exact hbps ((hlimited ss' hss').1.symm.trans hbps')
    · exact absurd hterms hsome
  · obtain ⟨ss', hss', hsame⟩ := exists_of_termsOf hterms
    refine Or.inr ⟨?_, ss', hss', (Session.valid_of_terms hsame).trans hvalid,
      congrArg Prod.fst hsame⟩
    rintro ⟨ss'', hss'', -, hcloses'⟩
    obtain rfl : ss = ss'' := mem_unique hss hss''
    exact hcloses hcloses'
  · exact absurd hterms hsome

/-- The rate is kept exactly when no event shuts down the connection of the mobile session. -/
lemma limit_along_iff {js : List Input} (h : srv.WellFormed) (hss : srv.sessionsMap sid = some ss)
    (hvalid : ss.alloc.isValid = true) (hbps : ss.bps ≠ 0)
    (hlive : Machine.Along Server.step (fun srv i => (srv.step i).HasAllocation sid) srv js) :
    Machine.Along Server.step (fun srv i => (srv.step i).LimitedTo sid ss.bps) srv js ↔
      Machine.Along Server.step (fun srv i => ¬ srv.LosesClient i sid) srv js := by
  induction js generalizing srv ss with
  | nil => exact Iff.rfl
  | cons i js ih =>
    rcases limit_step h hss hvalid hbps hlive.1 with
      ⟨hloses, hnot⟩ | ⟨hkeeps, ss', hss', hvalid', hbps'⟩
    · exact ⟨fun hall => absurd hall.1 hnot, fun hall => absurd hloses hall.1⟩
    · have hrest := ih (h.step i) hss' hvalid' (by rw [hbps']; exact hbps) hlive.2
      rw [hbps'] at hrest
      constructor
      · intro hall
        exact ⟨hkeeps, hrest.mp hall.2⟩
      · intro hall
        exact ⟨limitedTo_of_some hss' hbps' hbps, hrest.mpr hall.2⟩

/-- In every run a session keeps its rate, and what it relays stays within it, exactly when no event
shuts down its client connection while it is mobile. -/
theorem bandwidth_limit_kept_iff (id : UInt8) (ctime : UInt32) (realms : RealmTable)
    (is js : List Input) (sid : ℕ) (ss : Session)
    (hss : (Machine.run Server.step (initServer id ctime realms) is).sessionsMap sid = some ss)
    (hvalid : ss.alloc.isValid = true) (hbps : ss.bps ≠ 0)
    (hlive : Machine.Along Server.step (fun srv i => (srv.step i).HasAllocation sid)
      (Machine.run Server.step (initServer id ctime realms) is) js) :
    Machine.Along Server.step (fun srv i => (srv.step i).LimitedTo sid ss.bps)
        (Machine.run Server.step (initServer id ctime realms) is) js ↔
      Machine.Along Server.step (fun srv i => ¬ srv.LosesClient i sid)
        (Machine.run Server.step (initServer id ctime realms) is) js :=
  limit_along_iff ((wellFormed_init id ctime realms).run is) hss hvalid hbps hlive

/-- Every call succeeds, every rate is granted, and `n` is the random number of a new mobile id. -/
def Env.granting (n : UInt64) : Env := { Env.mobile n with allocateBps := some fun bps => bps }

/-- A server without authentication, which may be mobile. -/
def openParams (mobility : Bool) : Config := { plainParams with mobility := mobility }

def limitedAllocate (mobility : Bool) : List Input :=
  [⟨openParams mobility, .granting 1, .openSession udpClient none false⟩,
    ⟨openParams mobility, .granting 1, .clientInput 1 (clientRequest stunMethodAllocate
      ([udpTransportAttr, (attrNewBandwidth, [0, 0, 0, 8])] ++
        if mobility then [(attrMobilityTicket, [])] else [])) true⟩]

/-- The rate of an allocation that is not mobile stays when the time passes. -/
theorem bandwidth_limit_kept_ticks :
    ∃ ss ∈ (served (limitedAllocate false)).sessionsMap 1, ss.bps = 1024 ∧
      Machine.Along Server.step (fun srv i => (srv.step i).LimitedTo 1 ss.bps)
        (served (limitedAllocate false)) [⟨openParams false, .granting 1, .tick 1100⟩] := by
  have hfacts : ∃ ss ∈ (served (limitedAllocate false)).sessionsMap 1, ss.bps = 1024 ∧
      ss.alloc.isValid = true := by
    decide +kernel
  have hlive : Machine.Along Server.step (fun srv i => (srv.step i).HasAllocation 1)
      (served (limitedAllocate false)) [⟨openParams false, .granting 1, .tick 1100⟩] := by
    decide +kernel
  obtain ⟨ss, hss, hbps, hvalid⟩ := hfacts
  refine ⟨ss, hss, hbps, ?_⟩
  refine (bandwidth_limit_kept_iff 0 1000 defaultRealms _ _ 1 ss hss hvalid
    (by rw [hbps]; decide) hlive).mpr ⟨?_, trivial⟩
  rintro ⟨ss', -, -, hcloses⟩
  exact hcloses

/-- The client of a mobile allocation loses its connection and comes back with its ticket. -/
def comesBack : List Input :=
  [⟨openParams true, .granting 1, .clientSocketLost 1⟩,
    ⟨openParams true, .granting 1, .clientInput 1 (clientRequest stunMethodBinding []) true⟩,
    ⟨openParams true, .granting 2, .openSession udpClient none false⟩,
    ⟨openParams true, .granting 3, .clientInput 2 (clientRequest stunMethodRefresh
      [(attrMobilityTicket, mobileIdToString 1)]) true⟩]

/-- When the client of a mobile allocation has come back, it has no limit any more. -/
theorem bandwidth_limit_lost_on_return :
    (∃ ss ∈ (served (limitedAllocate true)).sessionsMap 1, ss.bps = 1024 ∧ ss.alloc.isValid = true) ∧
      Machine.Along Server.step (fun srv i => (srv.step i).HasAllocation 1)
        (served (limitedAllocate true))
        comesBack ∧
      ∃ ss ∈ (served (limitedAllocate true ++ comesBack)).sessionsMap 1,
        ss.alloc.isValid = true ∧ ss.clientSocket.isSome = true ∧ ss.bps = 0 := by
  decide +kernel

end Coturn
