/-
# The data of a TCP connection

What becomes of the bytes that a peer sends on a TCP connection (RFC 6062). Until the client has
bound the connection they are kept in `ub_to_client`, a list of at most 16 buffers, and what does
not fit is thrown away; then they are delivered, and what comes later is forwarded at once.
-/
import Coturn.Server.ConnectionBind

namespace Coturn

open List

/-! ## Unsent buffers -/

def maxUnsentBufferSize : ℕ := 0x10

/-- `unsent_buffer`: the place of a buffer that was delivered is empty, and still counts. -/
abbrev UnsentBuffer := List (Option (List UInt8))

def addUnsentBuffer (ub : UnsentBuffer) (nbh : List UInt8) : UnsentBuffer :=
  if maxUnsentBufferSize ≤ ub.length then ub else ub ++ [some nbh]

/-- The first buffer that is there. -/
def topUnsentBuffer : UnsentBuffer → Option (List UInt8)
  | [] => none
  | none :: ub => topUnsentBuffer ub
  | some nbh :: _ => some nbh

def popUnsentBuffer : UnsentBuffer → UnsentBuffer
  | [] => []
  | none :: ub => none :: popUnsentBuffer ub
  | some _ :: ub => none :: ub

/-- The buffers that are still to be delivered. -/
def UnsentBuffer.held (ub : UnsentBuffer) : List (List UInt8) := ub.filterMap fun nbh => nbh

variable {ub : UnsentBuffer}

lemma held_addUnsentBuffer (hroom : ub.length < maxUnsentBufferSize) (nbh : List UInt8) :
    UnsentBuffer.held (addUnsentBuffer ub nbh) = UnsentBuffer.held ub ++ [nbh] := by
  rw [addUnsentBuffer, if_neg (Nat.not_le.mpr hroom)]
  simp [UnsentBuffer.held]

lemma length_addUnsentBuffer (hroom : ub.length < maxUnsentBufferSize)
    (nbh : List UInt8) : (addUnsentBuffer ub nbh).length ≤ maxUnsentBufferSize := by
  rw [addUnsentBuffer, if_neg (Nat.not_le.mpr hroom), length_append]
  exact hroom

lemma top_pop_unsentBuffer (ub : UnsentBuffer) :
    (topUnsentBuffer ub = none ∧ UnsentBuffer.held ub = []) ∨
      ∃ nbh, topUnsentBuffer ub = some nbh ∧
        UnsentBuffer.held ub = nbh :: UnsentBuffer.held (popUnsentBuffer ub) := by
  induction ub with
  | nil => exact Or.inl ⟨rfl, rfl⟩
  | cons place ub ih =>
    cases place with
    | none => exact ih
    | some nbh => exact Or.inr ⟨nbh, rfl, rfl⟩

/-! ## The connection -/

/-- A buffer is written, thrown away because of the bandwidth limit, or the writing fails. -/
inductive SendOutcome where
  | sent
  | skipped
  | failed
  deriving DecidableEq

variable {send : ℕ → SendOutcome}

/-- What is written of a buffer. -/
def SendOutcome.bytes : SendOutcome → List UInt8 → List UInt8
  | .sent, nbh => nbh
  | .skipped, _ | .failed, _ => []

/-- A `tcp_connection` with its data. What was received and written is kept for the statements only.
-/
structure TcpDataConnection extends TcpConnection where
  ubToClient : UnsentBuffer
  inMap : Bool
  done : Bool
  clientToBeClosed : Bool
  peerToBeClosed : Bool
  received : List UInt8
  written : List UInt8
  deriving DecidableEq

def TcpDataConnection.init (tc : TcpConnection) : TcpDataConnection :=
  { tc with
    ubToClient := [], inMap := true, done := false, clientToBeClosed := false
    peerToBeClosed := false, received := [], written := [] }

def TcpDataConnection.delete (tc : TcpDataConnection) : TcpDataConnection :=
  { tc with ubToClient := [], inMap := false, done := true }

/-- The loop of `tcp_deliver_delayed_buffer`; `send i` is the outcome of its round `i`. -/
def deliverDelayed (send : ℕ → SendOutcome) :
    (rounds i : ℕ) → TcpDataConnection → TcpDataConnection
  | 0, _, tc => tc
  | rounds + 1, i, tc =>
    match topUnsentBuffer tc.ubToClient with
    | none => tc
    | some nbh =>
      let tc :=
        { tc with
          ubToClient := popUnsentBuffer tc.ubToClient
          clientToBeClosed := tc.clientToBeClosed || send i = .failed
          written := tc.written ++ (send i).bytes nbh }
      if tc.clientToBeClosed then tc else deliverDelayed send rounds (i + 1) tc

/-- The counter is incremented after the comparison, so that there is one round more than the list
has places. -/
def tcpDeliverDelayedBuffer (send : ℕ → SendOutcome) (tc : TcpDataConnection) :
    TcpDataConnection :=
  deliverDelayed send (maxUnsentBufferSize + 1) 0 tc

/-- Data of the peer. -/
def tcpPeerInputHandler (nbh : List UInt8) (send : SendOutcome) (tc : TcpDataConnection) :
    TcpDataConnection :=
  let tc := { tc with received := tc.received ++ nbh }
  if tc.state ≠ .ready ∨ tc.clientS = none then
    { tc with ubToClient := addUnsentBuffer tc.ubToClient nbh }
  else
    { tc with
      peerToBeClosed := tc.peerToBeClosed || send = .failed
      written := tc.written ++ send.bytes nbh }

/-- The part of `tcp_peer_connection_completed_callback` that is about the connection. -/
def tcpPeerConnectionCompleted (success registered : Bool) (tc : TcpDataConnection) :
    TcpDataConnection :=
  if success && registered then { tc with state := .peerConnected }
  else TcpDataConnection.delete { tc with state := .failed }

/-- The check that a ConnectionBind is put to. It is refused also when the session of the connection
is to be closed. -/
inductive BindCheck where
  | passed
  | refused
  | postponed
  deriving DecidableEq

/-- The outcome of the calls that `turnserver_accept_tcp_client_data_connection` makes. -/
structure BindCalls where
  check : BindCheck
  registered : Bool
  response : SendOutcome
  send : ℕ → SendOutcome

/-- The connection is bound also when the callback cannot be registered. -/
def acceptTcpClientDataConnection (s : ℕ) (calls : BindCalls) (tc : TcpDataConnection) :
    TcpDataConnection :=
  if !tc.inMap then tc
  else if tc.state = .ready ∨ tc.clientS.isSome = true then { tc with inMap := false }
  else
    match calls.check with
    | .postponed => tc
    | .refused => { tc with inMap := false }
    | .passed =>
      let tc := { tc with state := .ready, clientS := some s, inMap := false }
      if !calls.registered then tc
      else
        tcpDeliverDelayedBuffer calls.send
          { tc with clientToBeClosed := tc.clientToBeClosed || calls.response = .failed }

/-- What happens to a connection. -/
inductive TcpDataEvent where
  | connectionCompleted (success registered : Bool)
  | peerInput (nbh : List UInt8) (send : SendOutcome)
  | bind (s : ℕ) (calls : BindCalls)
  | delete

/-- Nothing happens to a connection that was deleted. -/
def TcpDataConnection.step (tc : TcpDataConnection) (ev : TcpDataEvent) : TcpDataConnection :=
  if tc.done then tc
  else
    match ev with
    | .connectionCompleted success registered => tcpPeerConnectionCompleted success registered tc
    | .peerInput nbh send => tcpPeerInputHandler nbh send tc
    | .bind s calls => acceptTcpClientDataConnection s calls tc
    | .delete => tc.delete

/-! ## The connection in its session -/

section Session

variable {srv : Server} {cfg : Config} {env : Env} {ss : Session}

/-- The outcome of the check in the server. -/
def bindCheck (cfg : Config) (env : Env) (tid : List UInt8) (nd : NetData) (c : Ctx) : BindCheck :=
  if c.ss.toBeClosed || ioaSocketTobeclosed c.ss.clientSocket then .refused
  else if (bindAuth cfg env tid nd c).2.reply.errCode ≠ 0 then .refused
  else .passed

lemma tcOf_modifyTc (ss : Session) (handle : ℕ) {f : TcpConnection → TcpConnection}
    (hf : ∀ tc, (f tc).handle = tc.handle) :
    (ss.modifyTc handle f).tcOf handle = (ss.tcOf handle).map f := by
  simp only [Session.tcOf, Session.modifyTc]
  induction ss.alloc.tcs with
  | nil => rfl
  | cons place tcs ih =>
    cases place with
    | none => exact ih
    | some tc =>
      by_cases htc : tc.handle = handle
      · simp [htc, hf]
      · simpa [htc] using ih

lemma deliverDelayed_same (send : ℕ → SendOutcome) (rounds i : ℕ) (tc : TcpDataConnection) :
    (deliverDelayed send rounds i tc).toTcpConnection = tc.toTcpConnection ∧
      (deliverDelayed send rounds i tc).received = tc.received := by
  induction rounds generalizing i tc with
  | zero => exact ⟨rfl, rfl⟩
  | succ rounds ih =>
    rw [deliverDelayed]
    split
    · exact ⟨rfl, rfl⟩
    · simp only
      split_ifs
      · exact ⟨rfl, rfl⟩
      · exact ih (i + 1) _

variable {tc : TcpDataConnection}

lemma acceptTcpClientDataConnection_connection (hmap : tc.inMap = true)
    (hstate : tc.state ≠ .ready) (hclient : tc.clientS = none) (s : ℕ) (calls : BindCalls) :
    (acceptTcpClientDataConnection s calls tc).toTcpConnection =
      if calls.check = .passed then
        { tc.toTcpConnection with state := .ready, clientS := some s }
      else tc.toTcpConnection := by
  have hunbound : ¬(tc.state = .ready ∨ tc.clientS.isSome = true) := by
    simp [hstate, hclient]
  rw [acceptTcpClientDataConnection, if_neg (by simp [hmap]), if_neg hunbound]
  cases hcheck : calls.check with
  | postponed => rfl
  | refused => rfl
  | passed =>
    simp only [if_true]
    split_ifs
    · rfl
    · exact (deliverDelayed_same _ _ _ _).1

lemma bindDataConnection_tcOf (cfg : Config) (env : Env) (tid : List UInt8) (s : IoaSocket)
    (nd : NetData) {c : Ctx} {handle : ℕ} {tc : TcpConnection}
    (htc : c.ss.tcOf handle = some tc) :
    (bindDataConnection cfg env tc tid s nd c).ss.id = c.ss.id ∧
      (bindDataConnection cfg env tc tid s nd c).ss.tcOf handle =
        some (if bindCheck cfg env tid nd c = .passed then
          { tc with state := .ready, clientS := some s.handle } else tc) := by
  obtain rfl : tc.handle = handle := by simpa using find?_some htc
  have hframe : Ctx.Frame (fun _ => True) c (bindAuth cfg env tid nd c).2 :=
    checkStunAuth_frame c fun _ => trivial
  rw [bindDataConnection, bindCheck]
  generalize (bindAuth cfg env tid nd c).2 = c₁ at hframe ⊢
  have htc₁ : c₁.ss.tcOf tc.handle = some tc := by
    rw [Session.tcOf, hframe.alloc]
    exact htc
  split
  · exact ⟨rfl, htc⟩
  simp only
  split
  · exact ⟨hframe.sid, htc₁⟩
  · split <;>
    · refine ⟨hframe.sid, (tcOf_modifyTc c₁.ss tc.handle ?_).trans (by rw [htc₁]; rfl)⟩
      exact fun _ => rfl

/-- The server's ConnectionBind makes of the connection in its session what a bind makes of it here.
-/
theorem acceptTcpClientData_connection (hids : srv.IdsMatch) {tcid : UInt32} {e : ℕ × ℕ}
    (hwait : srv.Waiting tcid e ss tc.toTcpConnection) (hzero : tcid ≠ 0)
    (hmap : tc.inMap = true) (tid : List UInt8) (s : IoaSocket) (messageIntegrity : Bool)
    (nd : NetData) (response : SendOutcome) (send : ℕ → SendOutcome) :
    ((acceptTcpClientData cfg env tcid tid s messageIntegrity nd srv).1.sessionsMap e.1).bind
        (fun ss => ss.tcOf e.2) =
      some (acceptTcpClientDataConnection s.handle
        ⟨bindCheck cfg env tid nd (.handed srv ss messageIntegrity),
          env.registerCallback, response, send⟩ tc).toTcpConnection := by
  rw [acceptTcpClientDataConnection_connection hmap hwait.state hwait.client,
    hwait.acceptTcpClientData hzero]
  obtain ⟨hid, htc⟩ := bindDataConnection_tcOf cfg env tid s nd
    (c := .handed srv ss messageIntegrity) hwait.connection
  rw [← htc]
  change Option.bind (ite _ _ _) _ = _
  rw [if_pos (hid.trans (hids e.1 ss hwait.session)).symm]
  rfl

end Session

/-! ## The stream -/

/-- There is no bandwidth limit and no write error. -/
def TcpDataEvent.Unhindered : TcpDataEvent → Prop
  | .connectionCompleted _ _ | .delete => True
  | .peerInput _ send => send = .sent
  | .bind _ calls => calls.response = .sent ∧ ∀ i, calls.send i = .sent

/-- What comes before the bind finds a place in the list, and when there is something in it the
callback can be registered. -/
def TcpDataConnection.NothingLost (tc : TcpDataConnection) : TcpDataEvent → Prop
  | .connectionCompleted _ _ | .delete => True
  | .peerInput _ _ => tc.clientS = none → tc.ubToClient.length < maxUnsentBufferSize
  | .bind _ calls =>
    tc.clientS = none → calls.check = .passed → tc.ubToClient = [] ∨ calls.registered = true

/-- How far a connection is: it keeps what it receives, or it has forwarded everything, or it
forwards nothing any more. -/
inductive TcpDataConnection.Flows (tc : TcpDataConnection) : Prop
  | waiting (hclient : tc.clientS = none) (hstate : tc.state ≠ .ready)
    (hopen : tc.clientToBeClosed = false) (hplaces : tc.ubToClient.length ≤ maxUnsentBufferSize)
    (hwritten : tc.written = [])
    (hreceived : tc.received = (UnsentBuffer.held tc.ubToClient).flatten)
  | flowing (hclient : tc.clientS.isSome = true) (hstate : tc.state = .ready)
    (hwritten : tc.written = tc.received)
  | stalled (hclient : tc.clientS.isSome = true) (hstate : tc.state ≠ .ready)
    (hwritten : tc.written <+: tc.received)
  | ended (hdone : tc.done = true) (hwritten : tc.written <+: tc.received)

lemma TcpDataConnection.Flows.stream {tc : TcpDataConnection} (h : tc.Flows) :
    tc.written <+: tc.received := by
  cases h with
  | waiting hclient hstate hopen hplaces hwritten hreceived =>
    rw [hwritten]
    exact nil_prefix
  | flowing hclient hstate hwritten => rw [hwritten]
  | stalled hclient hstate hwritten => exact hwritten
  | ended hdone hwritten => exact hwritten

/-- Without write errors the loop writes all that is kept, in order, if it has rounds enough. -/
lemma deliverDelayed_written (hsend : ∀ i, send i = .sent)
    (rounds i : ℕ) (tc : TcpDataConnection) (hopen : tc.clientToBeClosed = false)
    (hrounds : (UnsentBuffer.held tc.ubToClient).length ≤ rounds) :
    (deliverDelayed send rounds i tc).written =
      tc.written ++ (UnsentBuffer.held tc.ubToClient).flatten := by
  induction rounds generalizing i tc with
  | zero =>
    have hnone : UnsentBuffer.held tc.ubToClient = [] :=
      eq_nil_of_length_eq_zero (Nat.le_zero.mp hrounds)
    rw [deliverDelayed, hnone, flatten_nil, append_nil]
  | succ rounds ih =>
    rw [deliverDelayed]
    rcases top_pop_unsentBuffer tc.ubToClient with ⟨htop, hheld⟩ | ⟨nbh, htop, hheld⟩
    · rw [htop, hheld, flatten_nil, append_nil]
    · -- one buffer is written, and one round is left less for one buffer less
      rw [htop]
      simp only [hsend, hopen, reduceCtorEq, decide_false, Bool.or_false, Bool.false_eq_true,
        if_false]
      rw [hheld] at hrounds ⊢
      rw [ih (i + 1) _ rfl (Nat.le_of_succ_le_succ hrounds)]
      simp only [SendOutcome.bytes, flatten_cons, append_assoc]

section Steps

variable {tc : TcpDataConnection}

lemma tcpPeerInputHandler_flows (h : tc.Flows) (hdone : tc.done = false) (nbh : List UInt8)
    (hroom : tc.clientS = none → tc.ubToClient.length < maxUnsentBufferSize) :
    (tcpPeerInputHandler nbh .sent tc).Flows := by
  cases h with
  | waiting hclient hstate hopen hplaces hwritten hreceived =>
    rw [tcpPeerInputHandler, if_pos (Or.inl hstate)]
    refine .waiting hclient hstate hopen (length_addUnsentBuffer (hroom hclient) nbh) hwritten ?_
    show tc.received ++ nbh = _
    rw [held_addUnsentBuffer (hroom hclient), hreceived, flatten_concat]
  | flowing hclient hstate hwritten =>
    have hbound : ¬(tc.state ≠ .ready ∨ tc.clientS = none) := by
      rintro (hne | hnone)
      · exact hne hstate
      · rw [hnone] at hclient
        exact absurd hclient (by decide)
    rw [tcpPeerInputHandler, if_neg hbound]
    refine .flowing hclient hstate ?_
    show tc.written ++ nbh = tc.received ++ nbh
    rw [hwritten]
  | stalled hclient hstate hwritten =>
    -- whether or not there is a place left: the list is not delivered any more
    rw [tcpPeerInputHandler, if_pos (Or.inl hstate)]
    exact .stalled hclient hstate (hwritten.trans (prefix_append _ _))
  | ended hended hwritten => exact absurd hended (by rw [hdone]; decide)

lemma tcpPeerConnectionCompleted_flows (h : tc.Flows) (success registered : Bool) :
    (tcpPeerConnectionCompleted success registered tc).Flows := by
  have hne : TcState.peerConnected ≠ .ready := by decide
  rw [tcpPeerConnectionCompleted]
  split_ifs
  · cases h with
    | waiting hclient hstate hopen hplaces hwritten hreceived =>
      exact .waiting hclient hne hopen hplaces hwritten hreceived
    | flowing hclient hstate hwritten =>
      -- the client was quicker than the peer: the state goes back, and nobody can bind it again
      exact .stalled hclient hne (hwritten ▸ prefix_rfl)
    | stalled hclient hstate hwritten => exact .stalled hclient hne hwritten
    | ended hdone hwritten => exact .ended hdone hwritten
  · exact .ended rfl h.stream

/-- All that a waiting connection has received is written when it is bound. -/
lemma tcpDeliverDelayedBuffer_flows (hclient : tc.clientS.isSome = true) (hstate : tc.state = .ready)
    (hopen : tc.clientToBeClosed = false) (hplaces : tc.ubToClient.length ≤ maxUnsentBufferSize)
    (hwritten : tc.written = [])
    (hreceived : tc.received = (UnsentBuffer.held tc.ubToClient).flatten) (hsend : ∀ i, send i = .sent) :
    (tcpDeliverDelayedBuffer send tc).Flows := by
  have hrounds : (UnsentBuffer.held tc.ubToClient).length ≤ maxUnsentBufferSize + 1 :=
    ((length_filterMap_le _ _).trans hplaces).trans (Nat.le_succ _)
  obtain ⟨hconnection, hsame⟩ := deliverDelayed_same send (maxUnsentBufferSize + 1) 0 tc
  have hall := deliverDelayed_written hsend (maxUnsentBufferSize + 1) 0 tc hopen hrounds
  rw [hwritten, nil_append, ← hreceived, ← hsame] at hall
  exact .flowing ((congrArg (fun t => t.clientS.isSome) hconnection).trans hclient)
    ((congrArg TcpConnection.state hconnection).trans hstate) hall

lemma acceptTcpClientDataConnection_flows (h : tc.Flows) (hdone : tc.done = false) (s : ℕ)
    {calls : BindCalls} (hresponse : calls.response = .sent) (hsend : ∀ i, calls.send i = .sent)
    (hkept : tc.clientS = none → calls.check = .passed →
      tc.ubToClient = [] ∨ calls.registered = true) :
    (acceptTcpClientDataConnection s calls tc).Flows := by
  -- freeing the id changes nothing that matters here
  have hfreed : TcpDataConnection.Flows { tc with inMap := false } := by
    cases h with
    | waiting hclient hstate hopen hplaces hwritten hreceived =>
      exact .waiting hclient hstate hopen hplaces hwritten hreceived
    | flowing hclient hstate hwritten => exact .flowing hclient hstate hwritten
    | stalled hclient hstate hwritten => exact .stalled hclient hstate hwritten
    | ended hdone hwritten => exact .ended hdone hwritten
  rw [acceptTcpClientDataConnection]
  split
  · exact h
  split
  · exact hfreed
  next hunbound =>
  split
  · exact h
  · exact hfreed
  next hpassed =>
  cases h with
  | flowing hclient hstate hwritten => exact absurd (Or.inl hstate) hunbound
  | stalled hclient hstate hwritten => exact absurd (Or.inr hclient) hunbound
  | ended hended hwritten => exact absurd hended (by rw [hdone]; decide)
  | waiting hclient hstate hopen hplaces hwritten hreceived =>
    simp only
    split_ifs with hregistered
    · -- nothing is delivered, so nothing must have been kept
      have hempty : tc.ubToClient = [] := by
        rcases hkept hclient hpassed with hempty | hok
        · exact hempty
        · rw [hok] at hregistered
          exact absurd hregistered (by decide)
      refine .flowing rfl rfl ?_
      show tc.written = tc.received
      rw [hwritten, hreceived, hempty]
      rfl
    · apply tcpDeliverDelayedBuffer_flows
      · rfl
      · rfl
      · simp [hopen, hresponse]
      · exact hplaces
      · exact hwritten
      · exact hreceived
      · exact hsend

lemma TcpDataConnection.Flows.step (h : tc.Flows) {ev : TcpDataEvent} (hsend : ev.Unhindered)
    (hkept : tc.NothingLost ev) : (tc.step ev).Flows := by
  unfold TcpDataConnection.step
  split
  · exact h
  next hdone =>
  have hdone : tc.done = false := by simpa using hdone
  cases ev with
  | connectionCompleted success registered =>
    exact tcpPeerConnectionCompleted_flows h success registered
  | peerInput nbh send =>
    obtain rfl : send = .sent := hsend
    exact tcpPeerInputHandler_flows h hdone nbh hkept
  | bind s calls => exact acceptTcpClientDataConnection_flows h hdone s hsend.1 hsend.2 hkept
  | delete => exact .ended rfl h.stream

end Steps

/-- In every run without bandwidth limit and write errors in which nothing is lost before the bind,
what was written to the client is the beginning of what the peer has sent. -/
theorem stream_without_gaps (tc : TcpConnection) (hstate : tc.state ≠ .ready)
    (hclient : tc.clientS = none) (evs : List TcpDataEvent)
    (hevs : Machine.Along TcpDataConnection.step
      (fun tc ev => ev.Unhindered ∧ tc.NothingLost ev) (.init tc) evs) :
    (Machine.run TcpDataConnection.step (.init tc) evs).written <+:
      (Machine.run TcpDataConnection.step (.init tc) evs).received := by
  have hinit : (TcpDataConnection.init tc).Flows :=
    .waiting hclient hstate rfl (Nat.zero_le _) rfl rfl
  exact (Machine.run_invariant (fun tc ev h hev => h.step hev.1 hev.2) hevs hinit).stream

def peerMadeConnection : TcpConnection :=
  ⟨1, .peerConnected, 1, hostAddr 3 7000, none, some 2, List.replicate 12 0⟩

def successfulBind : BindCalls := ⟨.passed, true, .sent, fun _ => .sent⟩

def peerSends (evs : List TcpDataEvent) : TcpDataConnection :=
  Machine.run TcpDataConnection.step (.init peerMadeConnection) evs

/-- The peer sends before and after the client binds the connection. -/
theorem stream_without_gaps_around_bind :
    let evs := [.peerInput [1, 2] .sent, .bind 7 successfulBind, .peerInput [3] .sent]
    (peerSends evs).written = [1, 2, 3] ∧
      (peerSends evs).written <+: (peerSends evs).received := by
  refine ⟨by decide, stream_without_gaps peerMadeConnection (by decide) rfl _ ?_⟩
  exact ⟨⟨rfl, fun _ => by decide⟩, ⟨⟨rfl, fun _ => rfl⟩, fun _ _ => Or.inr rfl⟩,
    ⟨rfl, fun h => absurd h (by decide)⟩, trivial⟩

/-- Of 17 pieces that come before the bind, the last one is missing from what the client gets. -/
theorem stream_gap_after_seventeen_pieces :
    let evs := ((List.range 17).map fun n => .peerInput [UInt8.ofNat (n + 1)] .sent) ++
      [.bind 7 successfulBind, .peerInput [18] .sent]
    (∀ ev ∈ evs, ev.Unhindered) ∧
      (peerSends evs).written =
        [1, 2, 3, 4, 5, 6, 7, 8, 9, 10, 11, 12, 13, 14, 15, 16, 18] ∧
      ¬(peerSends evs).written <+: (peerSends evs).received := by
  refine ⟨?_, by decide +kernel, by decide +kernel⟩
  intro ev hev
  rcases mem_append.mp hev with hev | hev
  · obtain ⟨n, -, rfl⟩ := mem_map.mp hev
    rfl
  · rcases mem_pair.mp hev with rfl | rfl
    · exact ⟨rfl, fun _ => rfl⟩
    · rfl

end Coturn
