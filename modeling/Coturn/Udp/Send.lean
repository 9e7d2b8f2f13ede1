/-
# Sending over the sockets of the engine

`send_data_from_ioa_socket_nbh` of `apps/relay/ns_ioalib_engine_impl.c`: the type of service of a
descriptor, which several sockets may share and each caches, and the queue of datagrams that
`udp_sendmmsg_flush` gives to the kernel. What the kernel answers is an input, and logs are kept of
what was sent, handed over and asked for.
-/
import Coturn.Ioaddr
import Coturn.Lib.Run

namespace Coturn

def maxSendmmsgBatch : ℕ := 32

def minSendmmsgBatch : ℕ := 4

def minUdpGsoBatch : ℕ := 2

def maxUdpGsoDgramSize : ℕ := 1472

/-- `TTL_IGNORE` and `TOS_IGNORE`. -/
def optionIgnore : ℤ := -1

def tosDefault : ℤ := 0

def correctRawTos (tos : ℤ) : ℤ := if tos < 0 ∨ 255 < tos then tosDefault else tos

/-! ## States -/

/-- A destination: the address and the port that `addr_eq` compares, and the flow information and
scope of IPv6. -/
structure SockAddr where
  addr : IoaAddr
  flowinfo : UInt32
  scopeId : UInt32
  deriving DecidableEq

/-- The way that what is sent from a socket takes: a connected bufferevent, an SSL session, or the
descriptor itself. -/
inductive SendPath where
  | bufferevent
  | ssl
  | plain
  deriving DecidableEq

/-- What sending depends on. The `fd` of a socket with a parent is that of the parent. -/
structure EngineSocket where
  fd : Option ℕ
  parent : Option ℕ
  path : SendPath
  connected : Bool
  remoteAddr : SockAddr
  toBeClosed : Bool
  defaultTos : ℤ
  currentTos : ℤ

/-- The socket and its descriptor, the destination, unless connected, and the type of service asked
for. -/
structure Datagram where
  socket : ℕ
  fd : ℕ
  destAddr : Option SockAddr
  data : List UInt8
  tos : ℤ
  deriving DecidableEq

/-- A type of service that is asked for with a socket that supports it. -/
structure TosRequest where
  socket : ℕ
  fd : ℕ
  tos : ℤ
  deriving DecidableEq

/-- Over which descriptor and to which destination, whether the socket is open, the type of service
in force, and those asked for before, the last one first. -/
structure HandOver where
  datagram : Datagram
  fd : ℕ
  destAddr : Option SockAddr
  isOpen : Bool
  tos : ℤ
  asked : List TosRequest
  deriving DecidableEq

/-- The batch of a thread. -/
structure UdpBatch where
  depth : ℕ
  fd : Option ℕ
  ttl : ℤ
  tos : ℤ
  gsoEligible : Bool
  gsoSize : ℕ
  entries : List Datagram

def UdpBatch.init : UdpBatch := ⟨0, none, optionIgnore, optionIgnore, false, 0, []⟩

/-- The open sockets, the type of service of each descriptor, the parameter `udp_gso`, the batch,
and the logs. -/
structure SendState where
  sockets : ℕ → Option EngineSocket
  fdTos : ℕ → ℤ
  udpGso : Bool
  batch : UdpBatch
  asked : List TosRequest
  handed : List HandOver
  reported : List Datagram

variable (st : SendState)

def SendState.init (sockets : ℕ → Option EngineSocket) (fdTos : ℕ → ℤ) (udpGso : Bool) :
    SendState :=
  ⟨sockets, fdTos, udpGso, .init, [], [], []⟩

/-- The kernel takes the datagrams, does not know the option, or fails. -/
inductive GsoAnswer where
  | accepted
  | unsupported
  | failed
  deriving DecidableEq

/-- The answers of the kernel to a flush. An error of `sendmmsg` is 0 here, as are all calls after
the last answer. -/
structure KernelAnswers where
  gso : GsoAnswer
  sendmmsg : List ℕ

namespace SendState

/-! ## Handing over -/

/-- `udp_send_fd`: that of the parent, or its own. A socket that has been freed has none, and
neither has one whose parent has been freed. -/
def udpSendFd (s : ℕ) : Option ℕ :=
  (st.sockets s).bind fun x =>
    match x.parent with
    | some p => (st.sockets p).bind EngineSocket.fd
    | none => x.fd

/-- The socket is open as long as it has its descriptor. -/
def handOver (fd : ℕ) (destAddr : Option SockAddr) (d : Datagram) : HandOver :=
  ⟨d, fd, destAddr, (st.udpSendFd d.socket).isSome, st.fdTos fd, st.asked⟩

def hand (hs : List HandOver) : SendState := { st with handed := st.handed ++ hs }

/-- `udp_send` for a queued datagram, over the descriptor that its socket has now. With a freed
socket the call has no meaning, and nothing is sent. -/
def udpSend (d : Datagram) : SendState :=
  match st.udpSendFd d.socket with
  | some fd => st.hand [st.handOver fd d.destAddr d]
  | none => st

/-- Each call sends as many as the kernel answers, and the loop ends with an error. What is left is
returned. -/
def sendmmsgLoop (st : SendState) (fd : ℕ) : List ℕ → List Datagram → SendState × List Datagram
  | [], rest => (st, rest)
  | 0 :: _, rest => (st, rest)
  | (rc + 1) :: answers, rest =>
    if rest = [] then (st, rest)
    else
      (st.hand ((rest.take (rc + 1)).map fun d => st.handOver fd d.destAddr d)).sendmmsgLoop fd
        answers (rest.drop (rc + 1))

/-- The batch is one that `udp_gso_attempt_flush` tries to send at once. -/
def gsoTried : Bool :=
  st.udpGso && st.batch.gsoEligible && decide (minUdpGsoBatch ≤ st.batch.entries.length) &&
    decide (0 < st.batch.gsoSize) && decide (st.batch.gsoSize ≤ maxUdpGsoDgramSize)

def firstDest : Option SockAddr := st.batch.entries.head?.bind Datagram.destAddr

/-- `udp_gso_attempt_flush`: all datagrams in one `sendmsg`, to the destination of the first one. -/
def udpGsoAttemptFlush (k : KernelAnswers) : SendState × ℕ :=
  match st.batch.fd with
  | none => (st, 0)
  | some fd =>
    if st.gsoTried then
      match k.gso with
      | .accepted =>
        (st.hand (st.batch.entries.map (st.handOver fd st.firstDest)), st.batch.entries.length)
      | .unsupported => ({ st with udpGso := false }, 0)
      | .failed => (st, 0)
    else (st, 0)

/-- A few datagrams are sent one by one, more of them by `sendmmsg`, and one by one what that
leaves. -/
def flushRest (k : KernelAnswers) (rest : List Datagram) : SendState :=
  if rest.length < minSendmmsgBatch then rest.foldl udpSend st
  else
    match st.batch.fd with
    | none => rest.foldl udpSend st
    | some fd =>
      let r := st.sendmmsgLoop fd k.sendmmsg rest
      r.2.foldl udpSend r.1

def clearBatch : SendState :=
  { st with batch := { UdpBatch.init with depth := st.batch.depth } }

/-- The batch is sent. -/
def udpSendmmsgFlush (k : KernelAnswers) : SendState :=
  let r := st.udpGsoAttemptFlush k
  (r.1.flushRest k (st.batch.entries.drop r.2)).clearBatch

/-! ## Batches -/

def udpSendmmsgFlushIfPending (k : KernelAnswers) : SendState :=
  if st.batch.entries = [] then st else st.udpSendmmsgFlush k

/-- The queue does not wait for a change of the options of its descriptor. -/
def udpSendmmsgFlushBeforeSocketOptions (k : KernelAnswers) (s : ℕ) (ttl tos : ℤ) : SendState :=
  if st.batch.entries ≠ [] ∧ st.batch.fd = st.udpSendFd s ∧
      (st.batch.ttl ≠ ttl ∨ st.batch.tos ≠ tos) then
    st.udpSendmmsgFlush k
  else st

/-- The queue is flushed when the datagram does not go with it, or when it is full. -/
def makeRoom (k : KernelAnswers) (fd : ℕ) (ttl tos : ℤ) : SendState :=
  if st.batch.entries ≠ [] ∧
        (st.batch.fd ≠ some fd ∨ st.batch.ttl ≠ ttl ∨ st.batch.tos ≠ tos) ∨
      st.batch.entries.length = maxSendmmsgBatch then
    st.udpSendmmsgFlush k
  else st

end SendState

/-- The first datagram of a queue decides on its descriptor and options. -/
def UdpBatch.start (b : UdpBatch) (fd : ℕ) (ttl tos : ℤ) : UdpBatch :=
  if b.entries = [] then
    { b with fd := some fd, ttl := ttl, tos := tos, gsoEligible := true, gsoSize := 0 }
  else b

/-- The datagram has the size and the destination of the first one. -/
def UdpBatch.fits (b : UdpBatch) (d : Datagram) : Bool :=
  match b.entries with
  | [] => true
  | first :: _ =>
    d.data.length == b.gsoSize &&
      match d.destAddr, first.destAddr with
      | some a, some a' => addrEq a.addr a'.addr
      | none, none => true
      | _, _ => false

/-- The second part of `udp_sendmmsg_enqueue`, with the conditions of segmentation offload. -/
def UdpBatch.push (b : UdpBatch) (d : Datagram) : UdpBatch :=
  let sized := decide (0 < d.data.length) && decide (d.data.length ≤ maxUdpGsoDgramSize)
  { b with
    gsoEligible := b.gsoEligible && sized && b.fits d
    gsoSize := if b.gsoEligible && sized && b.entries.isEmpty then d.data.length else b.gsoSize
    entries := b.entries ++ [d] }

/-! ## Sending -/

/-- `allowed` is the answer of the bandwidth check, `shut` says that the connection is broken or
shut down, and `ret` is what the call that sends answers; a negative answer closes the socket. -/
structure SendCall where
  socket : ℕ
  destAddr : Option SockAddr
  data : List UInt8
  ttl : ℤ
  tos : ℤ
  allowed : Bool
  shut : Bool
  ret : ℤ

/-- The type of service that is in force after a request, if the descriptor follows it. -/
def EngineSocket.wantedTos (x : EngineSocket) (tos : ℤ) : ℤ :=
  correctRawTos (if tos < 0 then x.defaultTos else tos)

/-- The destination: that of the connection, that of the call, or the address of the client. -/
def EngineSocket.target (x : EngineSocket) (destAddr : Option SockAddr) : Option SockAddr :=
  if x.connected && x.parent.isNone then none else some (destAddr.getD x.remoteAddr)

namespace SendState

def putSocket (s : ℕ) (x : EngineSocket) : SendState :=
  { st with sockets := Function.update st.sockets s (some x) }

/-- `set_socket_tos`: the descriptor is told a type of service when the socket has another one in
its cache. -/
def setSocketTos (s fd : ℕ) (x : EngineSocket) (tos : ℤ) : SendState :=
  if x.defaultTos < 0 then st
  else
    let tos := x.wantedTos tos
    let st := { st with asked := ⟨s, fd, tos⟩ :: st.asked }
    if x.currentTos ≠ tos then
      { st.putSocket s { x with currentTos := tos } with
        fdTos := Function.update st.fdTos fd tos }
    else st

def markToBeClosed (s : ℕ) : SendState :=
  match st.sockets s with
  | some x => st.putSocket s { x with toBeClosed := true }
  | none => st

/-- The datagram waits in the batch. -/
def enqueue (ttl tos : ℤ) (d : Datagram) : SendState :=
  { st with
    batch := (st.batch.start d.fd ttl tos).push d
    reported := st.reported ++ [d] }

/-- Without the batch. -/
def sendNow (d : Datagram) : SendState :=
  { st.hand [st.handOver d.fd d.destAddr d] with reported := st.reported ++ [d] }

/-- What is done when the options have been set. What OpenSSL or a bufferevent takes is not followed
further. -/
def output (batching : Bool) (st : SendState) (k : KernelAnswers) (c : SendCall) (path : SendPath)
    (d : Datagram) : SendState :=
  match path with
  | .bufferevent =>
    let st := st.udpSendmmsgFlushIfPending k
    if c.ret < 0 then st.markToBeClosed c.socket else st
  | .ssl =>
    let st := st.udpSendmmsgFlushIfPending k
    if c.ret < 0 then st.markToBeClosed c.socket
    else if c.ret = 0 then st
    else st.sendNow d
  | .plain =>
    if batching && decide (0 < st.batch.depth) then
      (st.makeRoom k d.fd c.ttl c.tos).enqueue c.ttl c.tos d
    else
      let st := st.udpSendmmsgFlushIfPending k
      if c.ret < 0 then st.markToBeClosed c.socket else st.sendNow d

/-- A call with a handle that has been freed, or whose parent has been, has no meaning and is taken
as none. -/
def sendData (batching : Bool) (st : SendState) (k : KernelAnswers) (c : SendCall) : SendState :=
  match st.sockets c.socket with
  | none => st
  | some x =>
    match st.udpSendFd c.socket with
    | none => st
    | some fd =>
      if !c.allowed then st
      else if x.toBeClosed || c.shut then st.markToBeClosed c.socket
      else
        let st := st.udpSendmmsgFlushBeforeSocketOptions k c.socket c.ttl c.tos
        let st := st.setSocketTos c.socket fd x c.tos
        st.output batching k c x.path
          ⟨c.socket, fd, x.target c.destAddr, c.data, x.wantedTos c.tos⟩

/-- `close_ioa_socket` frees the socket; the queue is not looked at. -/
def closeSocket (s : ℕ) : SendState :=
  { st with sockets := Function.update st.sockets s none }

def batchBegin (batching : Bool) (st : SendState) : SendState :=
  if batching then { st with batch := { st.batch with depth := st.batch.depth + 1 } } else st

def batchEnd (batching : Bool) (st : SendState) (k : KernelAnswers) : SendState :=
  if batching && decide (0 < st.batch.depth) then
    let st := { st with batch := { st.batch with depth := st.batch.depth - 1 } }
    if st.batch.depth = 0 then st.udpSendmmsgFlush k else st
  else st

end SendState

/-- What a thread does. -/
inductive UdpEvent where
  | batchBegin
  | batchEnd (k : KernelAnswers)
  | send (c : SendCall) (k : KernelAnswers)
  | close (s : ℕ)

def SendState.step (batching : Bool) (st : SendState) : UdpEvent → SendState
  | .batchBegin => st.batchBegin batching
  | .batchEnd k => st.batchEnd batching k
  | .send c k => st.sendData batching k c
  | .close s => st.closeSocket s

variable (k : KernelAnswers)

namespace SendState

/-! ## What a flush hands over -/

@[simp] lemma hand_nil : st.hand [] = st := by
  simp [hand]

lemma hand_hand (hs hs' : List HandOver) : (st.hand hs).hand hs' = st.hand (hs ++ hs') := by
  simp [hand, List.append_assoc]

/-- What `udp_send` hands over. -/
def plainOver (st : SendState) (d : Datagram) : Option HandOver :=
  (st.udpSendFd d.socket).map fun fd => st.handOver fd d.destAddr d

lemma udpSend_eq (d : Datagram) : st.udpSend d = st.hand (st.plainOver d).toList := by
  cases h : st.udpSendFd d.socket <;> simp [udpSend, plainOver, h]

lemma foldl_udpSend (ds : List Datagram) :
    ds.foldl udpSend st = st.hand (ds.filterMap st.plainOver) := by
  induction ds generalizing st with
  | nil => simp
  | cons d ds ih =>
    -- what has been handed over makes no difference to the next datagram
    have hsame : ∀ hs, (st.hand hs).plainOver = st.plainOver := fun hs => rfl
    rw [List.foldl_cons, ih, udpSend_eq, hand_hand, hsame, List.filterMap_cons]
    cases st.plainOver d <;> rfl

lemma sendmmsgLoop_spec (fd : ℕ) (answers : List ℕ) (ds : List Datagram) :
    ∃ n, st.sendmmsgLoop fd answers ds =
      (st.hand ((ds.take n).map fun d => st.handOver fd d.destAddr d), ds.drop n) := by
  induction answers generalizing st ds with
  | nil => exact ⟨0, by simp [sendmmsgLoop]⟩
  | cons rc answers ih =>
    cases rc with
    | zero => exact ⟨0, by simp [sendmmsgLoop]⟩
    | succ rc =>
      rw [sendmmsgLoop]
      split_ifs with hnil
      · exact ⟨0, by simp [hnil]⟩
      · obtain ⟨n, hn⟩ := ih (st.hand ((ds.take (rc + 1)).map fun d => st.handOver fd d.destAddr d))
          (ds.drop (rc + 1))
        have htake : ds.take (rc + 1 + n) = ds.take (rc + 1) ++ (ds.drop (rc + 1)).take n :=
          List.take_add
        refine ⟨rc + 1 + n, ?_⟩
        rw [hn, hand_hand, List.drop_drop, htake, List.map_append]
        rfl

lemma flushRest_spec (ds : List Datagram) :
    ∃ fd n, (n = 0 ∨ st.batch.fd = some fd) ∧ st.flushRest k ds =
      st.hand ((ds.take n).map (fun d => st.handOver fd d.destAddr d) ++
        (ds.drop n).filterMap st.plainOver) := by
  rw [flushRest]
  split_ifs
  · exact ⟨0, 0, Or.inl rfl, by simp [foldl_udpSend]⟩
  · cases hfd : st.batch.fd with
    | none => exact ⟨0, 0, Or.inl rfl, by simp [foldl_udpSend]⟩
    | some fd =>
      obtain ⟨n, hn⟩ := st.sendmmsgLoop_spec fd k.sendmmsg ds
      refine ⟨fd, n, Or.inr rfl, ?_⟩
      simp only [hn, foldl_udpSend, hand_hand]
      rfl

/-- The kernel takes the whole batch in one `sendmsg`. -/
def AtOnce (st : SendState) (k : KernelAnswers) : Prop :=
  st.gsoTried = true ∧ st.batch.fd ≠ none ∧ k.gso = .accepted
  deriving Decidable

/-- A flush empties the queue, over the descriptor of the batch and then over those of the sockets.
-/
lemma flush_spec :
    ∃ fd n dest gso, (n = 0 ∨ st.batch.fd = some fd) ∧
      (if st.AtOnce k then n = st.batch.entries.length ∧ dest = fun _ => st.firstDest
        else dest = Datagram.destAddr) ∧
      st.udpSendmmsgFlush k = ({ st with udpGso := gso }.hand
        ((st.batch.entries.take n).map (fun d => st.handOver fd (dest d) d) ++
          (st.batch.entries.drop n).filterMap st.plainOver)).clearBatch := by
  by_cases hone : st.AtOnce k
  · obtain ⟨htried, hfd, hk⟩ := id hone
    obtain ⟨fd, hfd⟩ := Option.ne_none_iff_exists'.mp hfd
    refine ⟨fd, st.batch.entries.length, fun _ => st.firstDest, st.udpGso, Or.inr hfd, ?_, ?_⟩
    · rw [if_pos hone]
      exact ⟨rfl, rfl⟩
    · have hflush : st.udpGsoAttemptFlush k =
          (st.hand (st.batch.entries.map (st.handOver fd st.firstDest)),
            st.batch.entries.length) := by
        simp [udpGsoAttemptFlush, hfd, htried, hk]
      rw [udpSendmmsgFlush, hflush]
      simp [flushRest, minSendmmsgBatch]
  · have hflush : ∃ gso, st.udpGsoAttemptFlush k = ({ st with udpGso := gso }, 0) := by
      rw [udpGsoAttemptFlush]
      cases hfd : st.batch.fd with
      | none => exact ⟨st.udpGso, rfl⟩
      | some fd =>
        simp only []
        split_ifs with htried
        · cases hk : k.gso with
          | accepted => exact absurd ⟨htried, by simp [hfd], hk⟩ hone
          | unsupported => exact ⟨false, rfl⟩
          | failed => exact ⟨st.udpGso, rfl⟩
        · exact ⟨st.udpGso, rfl⟩
    obtain ⟨gso, hflush⟩ := hflush
    obtain ⟨fd, n, hn, hrest⟩ := flushRest_spec { st with udpGso := gso } k st.batch.entries
    refine ⟨fd, n, Datagram.destAddr, gso, hn, ?_, ?_⟩
    · rw [if_neg hone]
    · rw [udpSendmmsgFlush, hflush]
      simp only [List.drop_zero, hrest]
      rfl

@[simp] lemma flush_sockets : (st.udpSendmmsgFlush k).sockets = st.sockets := by
  obtain ⟨fd, n, dest, gso, -, -, hflush⟩ := st.flush_spec k
  rw [hflush]
  rfl

@[simp] lemma flush_batch :
    (st.udpSendmmsgFlush k).batch = { UdpBatch.init with depth := st.batch.depth } := by
  obtain ⟨fd, n, dest, gso, -, -, hflush⟩ := st.flush_spec k
  rw [hflush]
  rfl

@[simp] lemma flush_reported : (st.udpSendmmsgFlush k).reported = st.reported := by
  obtain ⟨fd, n, dest, gso, -, -, hflush⟩ := st.flush_spec k
  rw [hflush]
  rfl

/-! ## What a call does -/

lemma sendData_eq (batching : Bool) {st : SendState} (k : KernelAnswers) {c : SendCall}
    {x : EngineSocket} {fd : ℕ} (hx : st.sockets c.socket = some x)
    (hfd : st.udpSendFd c.socket = some fd) (hallowed : c.allowed = true)
    (htbc : x.toBeClosed = false) (hshut : c.shut = false) :
    st.sendData batching k c =
      ((st.udpSendmmsgFlushBeforeSocketOptions k c.socket c.ttl c.tos).setSocketTos c.socket fd x
        c.tos).output batching k c x.path
        ⟨c.socket, fd, x.target c.destAddr, c.data, x.wantedTos c.tos⟩ := by
  simp [sendData, hx, hfd, hallowed, htbc, hshut]

/-- A call does nothing, or finds that its socket is to be closed, or sets the options and sends. -/
lemma sendData_cases (batching : Bool) (st : SendState) (k : KernelAnswers) (c : SendCall) :
    st.sendData batching k c = st ∨ st.sendData batching k c = st.markToBeClosed c.socket ∨
      ∃ x fd, st.sockets c.socket = some x ∧ st.udpSendFd c.socket = some fd ∧
        c.allowed = true ∧ x.toBeClosed = false ∧ c.shut = false ∧
        st.sendData batching k c =
          ((st.udpSendmmsgFlushBeforeSocketOptions k c.socket c.ttl c.tos).setSocketTos c.socket fd
            x c.tos).output batching k c x.path
            ⟨c.socket, fd, x.target c.destAddr, c.data, x.wantedTos c.tos⟩ := by
  rw [sendData]
  cases hx : st.sockets c.socket with
  | none => exact Or.inl rfl
  | some x =>
    cases hfd : st.udpSendFd c.socket with
    | none => exact Or.inl rfl
    | some fd =>
      simp only []
      split_ifs with hallowed hclosed
      · exact Or.inl rfl
      · exact Or.inr (Or.inl rfl)
      · refine Or.inr (Or.inr ⟨x, fd, rfl, rfl, by simpa using hallowed, ?_, ?_, rfl⟩)
        · cases htbc : x.toBeClosed with
          | false => rfl
          | true => exact absurd (by simp [htbc]) hclosed
        · cases hshut : c.shut with
          | false => rfl
          | true => exact absurd (by simp [hshut]) hclosed

lemma flushBefore_cases (s : ℕ) (ttl tos : ℤ) :
    st.udpSendmmsgFlushBeforeSocketOptions k s ttl tos = st ∨
      st.udpSendmmsgFlushBeforeSocketOptions k s ttl tos = st.udpSendmmsgFlush k := by
  rw [udpSendmmsgFlushBeforeSocketOptions]
  split_ifs
  · exact Or.inr rfl
  · exact Or.inl rfl

lemma makeRoom_cases (fd : ℕ) (ttl tos : ℤ) :
    st.makeRoom k fd ttl tos = st ∨ st.makeRoom k fd ttl tos = st.udpSendmmsgFlush k := by
  rw [makeRoom]
  split_ifs
  · exact Or.inr rfl
  · exact Or.inl rfl

lemma makeRoom_depth (fd : ℕ) (ttl tos : ℤ) :
    (st.makeRoom k fd ttl tos).batch.depth = st.batch.depth := by
  rcases st.makeRoom_cases k fd ttl tos with h | h <;> simp [h]

section Preserves

variable {P : SendState → Prop} {batching : Bool} {k : KernelAnswers} {c : SendCall}
    (hflush : ∀ st, P st → P (st.udpSendmmsgFlush k))
    (hmark : ∀ st s, P st → P (st.markToBeClosed s))
    (henqueue : ∀ st ttl tos d, batching = true → 0 < st.batch.depth → P st →
      P (st.enqueue ttl tos d))
    (hnow : ∀ st d, P st → P (st.sendNow d))

include hflush hmark henqueue hnow

lemma output_preserves {st : SendState} {path : SendPath} {d : Datagram} (hst : P st) :
    P (st.output batching k c path d) := by
  have hpending : P (st.udpSendmmsgFlushIfPending k) := by
    rw [udpSendmmsgFlushIfPending]
    split_ifs
    · exact hst
    · exact hflush st hst
  cases path with
  | bufferevent =>
    simp only [output]
    split_ifs
    · exact hmark _ _ hpending
    · exact hpending
  | ssl =>
    simp only [output]
    split_ifs
    · exact hmark _ _ hpending
    · exact hpending
    · exact hnow _ _ hpending
  | plain =>
    simp only [output]
    split_ifs with hbatch
    · simp only [Bool.and_eq_true, decide_eq_true_eq] at hbatch
      refine henqueue _ _ _ _ hbatch.1 (by rw [makeRoom_depth]; exact hbatch.2) ?_
      rcases st.makeRoom_cases k d.fd c.ttl c.tos with h | h
      · rw [h]
        exact hst
      · rw [h]
        exact hflush st hst
    · exact hmark _ _ hpending
    · exact hnow _ _ hpending

lemma sendData_preserves
    (htos : ∀ st s fd x tos, st.sockets s = some x → P st → P (st.setSocketTos s fd x tos))
    {st : SendState} (hst : P st) : P (st.sendData batching k c) := by
  rcases st.sendData_cases batching k c with h | h | ⟨x, fd, hx, -, -, -, -, h⟩
  · rw [h]
    exact hst
  · rw [h]
    exact hmark st _ hst
  · rw [h]
    refine output_preserves hflush hmark henqueue hnow ?_
    rcases st.flushBefore_cases k c.socket c.ttl c.tos with hbefore | hbefore
    · rw [hbefore]
      exact htos st _ _ _ _ hx hst
    · rw [hbefore]
      exact htos _ _ _ _ _ (by rw [flush_sockets]; exact hx) (hflush st hst)

end Preserves

end SendState

/-! ## An example -/

def exampleSockets : ℕ → Option EngineSocket
  | 0 => some ⟨some 5, none, .plain, false, ⟨.unset, 0, 0⟩, false, 0, 0⟩
  | 1 => some ⟨none, some 0, .plain, true, ⟨.s4 (.replicate 4 10) 1000, 0, 0⟩, false, 0, 0⟩
  | 2 => some ⟨none, some 0, .plain, true, ⟨.s4 (.replicate 4 11) 1000, 0, 0⟩, false, 0, 0⟩
  | 3 => some ⟨some 6, none, .plain, false, ⟨.unset, 0, 0⟩, false, 0, 0⟩
  | _ => none

def exampleCall (s : ℕ) (destAddr : Option SockAddr) (tos : ℤ) : SendCall :=
  ⟨s, destAddr, [1], optionIgnore, tos, true, false, 1⟩

end Coturn
