/-
# Batched sending

A flush hands all datagrams of the queue over in their order, whatever the kernel answers, but from
what their sockets are then: `close_ioa_socket` frees a socket without a look at the queue, and
segmentation offload sends a queue whose destinations agree in address and port to the first of
them, whatever their scopes.
-/
import Coturn.Udp.Send

namespace Coturn

open List Option

variable {c : SendCall} {x : EngineSocket} {d : Datagram}

/-! ## Transparency and its condition -/

/-- The datagram was handed over as it was sent, while its socket was open. -/
def HandOver.Exact (h : HandOver) : Prop :=
  h.fd = h.datagram.fd ∧ h.destAddr = h.datagram.destAddr ∧ h.isOpen = true

/-- The flow information and scope of a destination. -/
def SockAddr.scope (a : SockAddr) : UInt32 × UInt32 := (a.flowinfo, a.scopeId)

variable {s : ℕ}

namespace SendState

/-- The datagrams that were reported are those handed to the kernel, each once and in order, and
nothing is queued. -/
structure Transparent (st : SendState) : Prop where
  order : st.handed.map HandOver.datagram = st.reported
  exact : ∀ h ∈ st.handed, h.Exact
  empty : st.batch.entries = []

/-- The socket is the given one or shares its descriptor. -/
def Uses (st : SendState) (s p : ℕ) : Prop :=
  s = p ∨ (st.sockets s).bind EngineSocket.parent = some p
  deriving Decidable

/-- The queue has to go first: the call does not go by the queue, or to another descriptor or with
other options, or the queue is full. -/
def EndsBatch (st : SendState) (c : SendCall) (path : SendPath) (fd : Option ℕ) : Prop :=
  path ≠ .plain ∨ st.batch.fd ≠ fd ∨ st.batch.ttl ≠ c.ttl ∨ st.batch.tos ≠ c.tos ∨
    st.batch.entries.length = maxSendmmsgBatch
  deriving Decidable

/-- The call sends, and the queue has to go first. -/
def Flushes (st : SendState) (c : SendCall) : Prop :=
  match st.sockets c.socket with
  | none => False
  | some x =>
    st.udpSendFd c.socket ≠ none ∧ c.allowed = true ∧ x.toBeClosed = false ∧ c.shut = false ∧
      st.EndsBatch c x.path (st.udpSendFd c.socket)

/-- If the kernel takes the queue in one `sendmsg`, the destinations agree in their scopes. -/
def SameScope (st : SendState) (k : KernelAnswers) : Prop :=
  st.AtOnce k → ∀ d ∈ st.batch.entries,
    d.destAddr.map SockAddr.scope = st.firstDest.map SockAddr.scope
  deriving Decidable

/-- No socket is closed whose descriptor a queued datagram uses, and no queue with several scopes is
sent at once. -/
def Safe (st : SendState) : UdpEvent → Prop
  | .batchBegin => True
  | .batchEnd k => st.batch.depth = 1 → st.SameScope k
  | .send c k => st.Flushes c → st.SameScope k
  | .close s => ∀ d ∈ st.batch.entries, ¬ st.Uses d.socket s

section Decidable

variable (st : SendState)

instance (c : SendCall) : Decidable (st.Flushes c) :=
  match h : st.sockets c.socket with
  | none => isFalse (by simp [Flushes, h])
  | some x => decidable_of_iff
      (st.udpSendFd c.socket ≠ none ∧ c.allowed = true ∧ x.toBeClosed = false ∧ c.shut = false ∧
        st.EndsBatch c x.path (st.udpSendFd c.socket))
      (by simp only [Flushes, h])

instance (e : UdpEvent) : Decidable (st.Safe e) :=
  match e with
  | .batchBegin => inferInstanceAs (Decidable True)
  | .batchEnd _ => inferInstanceAs (Decidable (_ → _))
  | .send _ _ => inferInstanceAs (Decidable (_ → _))
  | .close _ => inferInstanceAs (Decidable (∀ _ ∈ _, _))

end Decidable

/-! ## Sockets -/

variable {batching : Bool} {st st' : SendState} {k : KernelAnswers}

lemma udpSendFd_congr
    (h : ∀ s, (st'.sockets s).map (fun y => (y.fd, y.parent)) =
      (st.sockets s).map fun y => (y.fd, y.parent)) (s : ℕ) : st'.udpSendFd s = st.udpSendFd s := by
  have hfd : ∀ p, (st'.sockets p).bind EngineSocket.fd = (st.sockets p).bind EngineSocket.fd := by
    intro p
    have hp := congrArg (fun o : Option (Option ℕ × Option ℕ) => o.bind Prod.fst) (h p)
    simpa [bind_map, Function.comp_def] using hp
  have hs := h s
  cases hx : st.sockets s with
  | none =>
    rw [hx, map_none, map_eq_none_iff] at hs
    simp [udpSendFd, hx, hs]
  | some x =>
    rw [hx] at hs
    obtain ⟨y, hy, hxy⟩ := map_eq_some_iff.mp hs
    simp only [Prod.mk.injEq] at hxy
    cases hp : x.parent <;> simp [udpSendFd, hx, hy, hxy.1, hxy.2, hp, hfd]

lemma udpSendFd_putSocket (hx : st.sockets s = some x) (x' : EngineSocket)
    (hfd : x'.fd = x.fd) (hparent : x'.parent = x.parent) (s' : ℕ) :
    (st.putSocket s x').udpSendFd s' = st.udpSendFd s' := by
  refine udpSendFd_congr (fun s' => ?_) s'
  by_cases hs : s' = s
  · subst hs
    simp [putSocket, hx, hfd, hparent]
  · simp [putSocket, Function.update_of_ne hs]

lemma setSocketTos_batch (st : SendState) (s fd : ℕ) (x : EngineSocket) (tos : ℤ) :
    (st.setSocketTos s fd x tos).batch = st.batch ∧
      (st.setSocketTos s fd x tos).udpGso = st.udpGso ∧
      (st.setSocketTos s fd x tos).handed = st.handed ∧
      (st.setSocketTos s fd x tos).reported = st.reported := by
  simp only [setSocketTos]
  split_ifs <;> exact ⟨rfl, rfl, rfl, rfl⟩

lemma udpSendFd_setSocketTos (hx : st.sockets s = some x) (fd : ℕ) (tos : ℤ) (s' : ℕ) :
    (st.setSocketTos s fd x tos).udpSendFd s' = st.udpSendFd s' := by
  have hput : (st.putSocket s { x with currentTos := x.wantedTos tos }).udpSendFd s' =
      st.udpSendFd s' := udpSendFd_putSocket hx { x with currentTos := x.wantedTos tos } rfl rfl s'
  simp only [setSocketTos]
  split_ifs
  · rfl
  · exact hput
  · rfl

lemma markToBeClosed_batch (st : SendState) (s : ℕ) :
    (st.markToBeClosed s).batch = st.batch ∧ (st.markToBeClosed s).handed = st.handed ∧
      (st.markToBeClosed s).reported = st.reported := by
  rw [markToBeClosed]
  split <;> exact ⟨rfl, rfl, rfl⟩

lemma udpSendFd_markToBeClosed (st : SendState) (s s' : ℕ) :
    (st.markToBeClosed s).udpSendFd s' = st.udpSendFd s' := by
  rw [markToBeClosed]
  cases hx : st.sockets s with
  | none => rfl
  | some x => exact udpSendFd_putSocket hx { x with toBeClosed := true } rfl rfl s'

lemma udpSendFd_closeSocket {p : ℕ} (h : ¬ st.Uses s p) :
    (st.closeSocket p).udpSendFd s = st.udpSendFd s := by
  have hne : s ≠ p := fun hs => h (Or.inl hs)
  simp only [udpSendFd, closeSocket, Function.update_of_ne hne]
  cases hx : st.sockets s with
  | none => rfl
  | some x =>
    cases hp : x.parent with
    | none => simp [hp]
    | some p' =>
      have hne' : p' ≠ p := by
        rintro rfl
        exact h (Or.inr (by simp [hx, hp]))
      simp [hp, Function.update_of_ne hne']

/-- A socket has no descriptor any more when it, or its parent, has been closed. -/
lemma udpSendFd_closeSocket_of_uses {p : ℕ} (h : st.Uses s p) :
    (st.closeSocket p).udpSendFd s = none := by
  simp only [udpSendFd, closeSocket]
  rcases h with rfl | hparent
  · simp
  · by_cases hs : s = p
    · subst hs
      simp
    · obtain ⟨x, hx, hp⟩ := bind_eq_some_iff.mp hparent
      simp [Function.update_of_ne hs, hx, hp]

lemma udpSendFd_closeSocket_of_none {p : ℕ} (h : st.udpSendFd s = none) :
    (st.closeSocket p).udpSendFd s = none := by
  by_cases huses : st.Uses s p
  · exact udpSendFd_closeSocket_of_uses huses
  · rw [udpSendFd_closeSocket huses, h]

/-! ## The queue between batches -/

/-- Datagrams wait only in a batch. -/
def Inside (batching : Bool) (st : SendState) : Prop :=
  st.batch.entries ≠ [] → batching = true ∧ 0 < st.batch.depth

lemma Inside.of_batch (h : st.Inside batching) (hbatch : st'.batch = st.batch) :
    st'.Inside batching := by
  rw [Inside, hbatch]
  exact h

lemma inside_flush (st : SendState) (k : KernelAnswers) :
    (st.udpSendmmsgFlush k).Inside batching := by
  intro hne
  rw [flush_batch] at hne
  exact absurd rfl hne

lemma Inside.step (h : st.Inside batching) (e : UdpEvent) :
    (st.step batching e).Inside batching := by
  cases e with
  | batchBegin =>
    simp only [SendState.step, SendState.batchBegin]
    split_ifs with hb
    · exact fun hne => ⟨hb, Nat.succ_pos _⟩
    · exact h
  | batchEnd k =>
    simp only [SendState.step, SendState.batchEnd]
    split_ifs with hb hdepth
    · exact inside_flush _ k
    · exact fun hne => ⟨(h hne).1, Nat.pos_of_ne_zero hdepth⟩
    · exact h
  | send c k =>
    refine sendData_preserves (fun st _ => inside_flush st k) ?_ ?_ (fun st d h => h) ?_ h
    · exact fun st s h => h.of_batch (st.markToBeClosed_batch s).1
    · intro st ttl tos d hb hdepth _ _
      refine ⟨hb, ?_⟩
      simp only [enqueue, UdpBatch.push, UdpBatch.start]
      split_ifs <;> exact hdepth
    · exact fun st s fd x tos _ h => h.of_batch (st.setSocketTos_batch s fd x tos).1
  | close s => exact h

/-! ## What safe steps keep -/

/-- What was handed over is as it was sent; with the queue it is what was reported; the queue is for
one descriptor, and if it may be sent at once for one address and port. -/
structure Kept (st : SendState) : Prop where
  exact : ∀ h ∈ st.handed, h.Exact
  order : st.handed.map HandOver.datagram ++ st.batch.entries = st.reported
  queued : ∀ d ∈ st.batch.entries, st.udpSendFd d.socket = some d.fd ∧ st.batch.fd = some d.fd
  alike : st.batch.gsoEligible = true → ∀ d ∈ st.batch.entries,
    d.destAddr.map SockAddr.addr = st.firstDest.map SockAddr.addr

lemma kept_init (sockets : ℕ → Option EngineSocket) (fdTos : ℕ → ℤ) (udpGso : Bool) :
    (init sockets fdTos udpGso).Kept where
  exact _ hmem := absurd hmem not_mem_nil
  order := rfl
  queued _ hmem := absurd hmem not_mem_nil
  alike _ _ hmem := absurd hmem not_mem_nil

lemma Kept.congr (h : st.Kept) (hbatch : st'.batch = st.batch) (hhanded : st'.handed = st.handed)
    (hreported : st'.reported = st.reported) (hfd : ∀ s, st'.udpSendFd s = st.udpSendFd s) :
    st'.Kept := by
  refine ⟨?_, ?_, ?_, ?_⟩
  · rw [hhanded]
    exact h.exact
  · rw [hhanded, hbatch, hreported]
    exact h.order
  · intro d hd
    rw [hbatch] at hd ⊢
    rw [hfd]
    exact h.queued d hd
  · rw [firstDest, hbatch]
    exact h.alike

lemma Kept.setSocketTos (h : st.Kept) (hx : st.sockets s = some x) (fd : ℕ) (tos : ℤ) :
    (st.setSocketTos s fd x tos).Kept := by
  obtain ⟨hbatch, -, hhanded, hreported⟩ := st.setSocketTos_batch s fd x tos
  exact h.congr hbatch hhanded hreported (udpSendFd_setSocketTos hx fd tos)

lemma Kept.markToBeClosed (h : st.Kept) (s : ℕ) : (st.markToBeClosed s).Kept := by
  obtain ⟨hbatch, hhanded, hreported⟩ := st.markToBeClosed_batch s
  exact h.congr hbatch hhanded hreported (st.udpSendFd_markToBeClosed s)

lemma Kept.destAddr_eq (h : st.Kept) (hscope : st.SameScope k) (hone : st.AtOnce k)
    (hd : d ∈ st.batch.entries) : d.destAddr = st.firstDest := by
  have helig : st.batch.gsoEligible = true := by
    have htried := hone.1
    simp only [gsoTried, Bool.and_eq_true] at htried
    exact htried.1.1.1.2
  have haddr := h.alike helig d hd
  have hsc := hscope hone d hd
  cases hd' : d.destAddr with
  | none =>
    rw [hd', map_none] at haddr
    exact (map_eq_none_iff.mp haddr.symm).symm
  | some a =>
    rw [hd', map_some] at haddr hsc
    obtain ⟨b, hb, hba⟩ := map_eq_some_iff.mp haddr.symm
    rw [hb, map_some, some_inj] at hsc
    rw [hb, some_inj]
    obtain ⟨addr, flowinfo, scopeId⟩ := a
    obtain ⟨addr', flowinfo', scopeId'⟩ := b
    simp only [SockAddr.scope, Prod.mk.injEq] at hsc
    simp only [SockAddr.mk.injEq]
    exact ⟨hba.symm, hsc⟩

lemma Kept.plainOver_eq (h : st.Kept) (hd : d ∈ st.batch.entries) :
    st.plainOver d = some (st.handOver d.fd d.destAddr d) := by
  rw [plainOver, (h.queued d hd).1, map_some]

lemma Kept.handOver_exact (h : st.Kept) (hd : d ∈ st.batch.entries) :
    (st.handOver d.fd d.destAddr d).Exact := by
  refine ⟨rfl, rfl, ?_⟩
  rw [handOver, (h.queued d hd).1]
  rfl

lemma Kept.flush_handed (h : st.Kept) (hscope : st.SameScope k) :
    (st.udpSendmmsgFlush k).handed =
      st.handed ++ st.batch.entries.map fun d => st.handOver d.fd d.destAddr d := by
  obtain ⟨fd, n, dest, gso, hn, hdest, hflush⟩ := st.flush_spec k
  have hfront : (st.batch.entries.take n).map (fun d => st.handOver fd (dest d) d) =
      (st.batch.entries.take n).map fun d => st.handOver d.fd d.destAddr d := by
    refine map_congr_left fun d hd => ?_
    have hmem := mem_of_mem_take hd
    have hfd : fd = d.fd := by
      rcases hn with rfl | hfd
      · exact absurd hd (by simp)
      · exact Option.some.inj (hfd.symm.trans (h.queued d hmem).2)
    have hd' : dest d = d.destAddr := by
      split_ifs at hdest with hone
      · rw [hdest.2, h.destAddr_eq hscope hone hmem]
      · rw [hdest]
    rw [hfd, hd']
  have hback : (st.batch.entries.drop n).filterMap st.plainOver =
      (st.batch.entries.drop n).map fun d => st.handOver d.fd d.destAddr d := by
    rw [← filterMap_eq_map]
    exact filterMap_congr fun d hd => h.plainOver_eq (mem_of_mem_drop hd)
  rw [hflush]
  show st.handed ++ _ = _
  rw [hfront, hback, ← map_append, take_append_drop]

lemma Kept.flush (h : st.Kept) (hscope : st.SameScope k) : (st.udpSendmmsgFlush k).Kept := by
  have hempty : (st.udpSendmmsgFlush k).batch.entries = [] := by rw [flush_batch]; rfl
  refine ⟨?_, ?_, ?_, ?_⟩
  · intro o ho
    rw [h.flush_handed hscope, mem_append] at ho
    rcases ho with ho | ho
    · exact h.exact o ho
    · obtain ⟨d, hd, rfl⟩ := List.mem_map.mp ho
      exact h.handOver_exact hd
  · rw [hempty, h.flush_handed hscope, flush_reported, ← h.order, append_nil, map_append,
      List.map_map]
    congr 1
    exact List.map_id' _
  · rw [hempty]
    exact fun d hd => absurd hd not_mem_nil
  · rw [hempty]
    exact fun _ d hd => absurd hd not_mem_nil

lemma Kept.enqueue (h : st.Kept) (hfd : st.udpSendFd d.socket = some d.fd)
    (hgoes : st.batch.entries ≠ [] → st.batch.fd = some d.fd) (ttl tos : ℤ) :
    (st.enqueue ttl tos d).Kept := by
  have hstart : (st.batch.start d.fd ttl tos).fd = some d.fd ∧
      (st.batch.start d.fd ttl tos).entries = st.batch.entries := by
    rw [UdpBatch.start]
    split_ifs with hnil
    · exact ⟨rfl, rfl⟩
    · exact ⟨hgoes hnil, rfl⟩
  have hentries : (st.enqueue ttl tos d).batch.entries = st.batch.entries ++ [d] := by
    show (st.batch.start d.fd ttl tos).entries ++ [d] = _
    rw [hstart.2]
  refine ⟨h.exact, ?_, ?_, ?_⟩
  · rw [hentries, ← append_assoc]
    show st.handed.map HandOver.datagram ++ st.batch.entries ++ [d] = st.reported ++ [d]
    rw [h.order]
  · intro d' hd'
    rw [hentries, mem_append, mem_singleton] at hd'
    show st.udpSendFd d'.socket = some d'.fd ∧ (st.batch.start d.fd ttl tos).fd = some d'.fd
    rcases hd' with hd' | rfl
    · have hq := h.queued d' hd'
      exact ⟨hq.1, hstart.1.trans ((hgoes (ne_nil_of_mem hd')).symm.trans hq.2)⟩
    · exact ⟨hfd, hstart.1⟩
  · intro helig d' hd'
    have hpush : (st.batch.start d.fd ttl tos).gsoEligible = true ∧
        (st.batch.start d.fd ttl tos).fits d = true := by
      have helig' : (((st.batch.start d.fd ttl tos).push d).gsoEligible) = true := helig
      simp only [UdpBatch.push, Bool.and_eq_true] at helig'
      exact ⟨helig'.1.1, helig'.2⟩
    rw [hentries, mem_append, mem_singleton] at hd'
    cases hnil : st.batch.entries with
    | nil =>
      -- the datagram is the first one
      rw [hnil] at hd'
      obtain rfl : d' = d := by simpa using hd'
      rw [firstDest, hentries, hnil]
      rfl
    | cons first rest =>
      have hfirst : (st.enqueue ttl tos d).firstDest = first.destAddr := by
        rw [firstDest, hentries, hnil]
        rfl
      have hsame : st.batch.start d.fd ttl tos = st.batch := by
        rw [UdpBatch.start, if_neg (by simp [hnil])]
      rw [hfirst]
      rcases hd' with hd' | rfl
      · have halike := h.alike (hsame ▸ hpush.1) d' hd'
        rw [firstDest, hnil] at halike
        exact halike
      · have hfits := hpush.2
        rw [hsame] at hfits
        simp only [UdpBatch.fits, hnil, Bool.and_eq_true] at hfits
        cases hd : d'.destAddr with
        | none =>
          cases hf : first.destAddr with
          | none => rfl
          | some b => simp [hd, hf] at hfits
        | some a =>
          cases hf : first.destAddr with
          | none => simp [hd, hf] at hfits
          | some b =>
            simp only [hd, hf] at hfits
            rw [map_some, map_some, (addrEq_iff_eq.mp hfits.2).2]

/-- A datagram that is not queued is handed over when nothing is queued. -/
lemma Kept.sendNow (h : st.Kept) (hfd : st.udpSendFd d.socket = some d.fd)
    (hempty : st.batch.entries = []) : (st.sendNow d).Kept := by
  refine ⟨?_, ?_, h.queued, h.alike⟩
  · intro o ho
    rcases mem_append.mp ho with ho | ho
    · exact h.exact o ho
    · obtain rfl := mem_singleton.mp ho
      refine ⟨rfl, rfl, ?_⟩
      rw [handOver, hfd]
      rfl
  · have horder := h.order
    rw [hempty, append_nil] at horder
    show (st.handed ++ [st.handOver d.fd d.destAddr d]).map HandOver.datagram ++ st.batch.entries =
      st.reported ++ [d]
    rw [hempty, append_nil, map_append, horder]
    rfl

/-- The queue before a call, or none. -/
def Waits (st st' : SendState) : Prop :=
  st'.batch = st.batch ∧ st'.udpGso = st.udpGso ∨ st'.batch.entries = []

lemma Waits.sameScope (h : Waits st st') (hscope : st.SameScope k) : st'.SameScope k := by
  rcases h with ⟨hbatch, hgso⟩ | hempty
  · simp only [SameScope, AtOnce, gsoTried, firstDest, hbatch, hgso]
    exact hscope
  · intro _ d hd
    rw [hempty] at hd
    exact absurd hd not_mem_nil

lemma Kept.flushIfPending (h : st.Kept) (hscope : st.batch.entries ≠ [] → st.SameScope k) :
    (st.udpSendmmsgFlushIfPending k).Kept := by
  rw [udpSendmmsgFlushIfPending]
  split_ifs with hempty
  · exact h
  · exact h.flush (hscope hempty)

lemma flushIfPending_entries (st : SendState) (k : KernelAnswers) :
    (st.udpSendmmsgFlushIfPending k).batch.entries = [] := by
  rw [udpSendmmsgFlushIfPending]
  split_ifs with hempty
  · exact hempty
  · rw [flush_batch]
    rfl

lemma udpSendFd_flush (st : SendState) (k : KernelAnswers) (s : ℕ) :
    (st.udpSendmmsgFlush k).udpSendFd s = st.udpSendFd s := by
  simp only [udpSendFd, flush_sockets]

lemma udpSendFd_flushIfPending (st : SendState) (k : KernelAnswers) (s : ℕ) :
    (st.udpSendmmsgFlushIfPending k).udpSendFd s = st.udpSendFd s := by
  rw [udpSendmmsgFlushIfPending]
  split_ifs
  · rfl
  · exact st.udpSendFd_flush k s

/-- The last part of a call, when the queue is still that from before the call or has been
flushed. -/
lemma Kept.output (h : st'.Kept) (hinside : st'.Inside batching) {path : SendPath}
    (hfd : st'.udpSendFd d.socket = some d.fd)
    (hscope : st'.batch.entries ≠ [] → st'.EndsBatch c path (some d.fd) → st'.SameScope k) :
    (st'.output batching k c path d).Kept := by
  have hpending : path ≠ .plain → (st'.udpSendmmsgFlushIfPending k).Kept := fun hpath =>
    h.flushIfPending fun hne => hscope hne (Or.inl hpath)
  have hfd' : (st'.udpSendmmsgFlushIfPending k).udpSendFd d.socket = some d.fd := by
    rw [udpSendFd_flushIfPending, hfd]
  have hempty := st'.flushIfPending_entries k
  cases path with
  | bufferevent =>
    simp only [SendState.output]
    split_ifs
    · exact (hpending (by simp)).markToBeClosed _
    · exact hpending (by simp)
  | ssl =>
    simp only [SendState.output]
    split_ifs
    · exact (hpending (by simp)).markToBeClosed _
    · exact hpending (by simp)
    · exact (hpending (by simp)).sendNow hfd' hempty
  | plain =>
    simp only [SendState.output]
    split_ifs with hbatch hret
    · rw [makeRoom]
      split_ifs with hflush
      · have hne : st'.batch.entries ≠ [] := by
          rcases hflush with hflush | hfull
          · exact hflush.1
          · intro hnil
            rw [hnil] at hfull
            exact absurd hfull (by decide)
        have hkept : (st'.udpSendmmsgFlush k).Kept := by
          refine h.flush (hscope hne ?_)
          rcases hflush with ⟨-, hfd | httl | htos⟩ | hfull
          · exact Or.inr (Or.inl hfd)
          · exact Or.inr (Or.inr (Or.inl httl))
          · exact Or.inr (Or.inr (Or.inr (Or.inl htos)))
          · exact Or.inr (Or.inr (Or.inr (Or.inr hfull)))
        refine hkept.enqueue (by rw [udpSendFd_flush, hfd]) ?_ _ _
        intro hne'
        rw [flush_batch] at hne'
        exact absurd rfl hne'
      · -- the datagram goes with the queue
        refine h.enqueue hfd (fun hne => ?_) _ _
        by_contra hfd'
        exact hflush (Or.inl ⟨hne, Or.inl hfd'⟩)
    all_goals
      -- outside of a batch nothing is queued
      have hnil : st'.batch.entries = [] := by
        by_contra hne
        obtain ⟨hb, hdepth⟩ := hinside hne
        exact hbatch (by simp [hb, hdepth])
      have hsame : st'.udpSendmmsgFlushIfPending k = st' := by
        rw [udpSendmmsgFlushIfPending, if_pos hnil]
      rw [hsame]
    · exact h.markToBeClosed _
    · exact h.sendNow hfd hnil

lemma flushes_iff {fd : ℕ} (hx : st.sockets c.socket = some x)
    (hfd : st.udpSendFd c.socket = some fd) (hallowed : c.allowed = true)
    (htbc : x.toBeClosed = false) (hshut : c.shut = false) :
    st.Flushes c ↔ st.EndsBatch c x.path (some fd) := by
  simp [Flushes, hx, hfd, hallowed, htbc, hshut]

lemma Kept.sendData (h : st.Kept) (hinside : st.Inside batching)
    (hsafe : st.Flushes c → st.SameScope k) : (st.sendData batching k c).Kept := by
  rcases st.sendData_cases batching k c with
    heq | heq | ⟨x, fd, hx, hfd, hallowed, htbc, hshut, heq⟩
  · rw [heq]
    exact h
  · rw [heq]
    exact h.markToBeClosed _
  · rw [heq, udpSendmmsgFlushBeforeSocketOptions]
    have hflushes := flushes_iff hx hfd hallowed htbc hshut
    split_ifs with hbefore
    · -- the options change, and the queue goes first
      have hscope : st.SameScope k := by
        refine hsafe (hflushes.mpr ?_)
        rcases hbefore.2.2 with httl | htos
        · exact Or.inr (Or.inr (Or.inl httl))
        · exact Or.inr (Or.inr (Or.inr (Or.inl htos)))
      have hx' : (st.udpSendmmsgFlush k).sockets c.socket = some x := by rw [flush_sockets, hx]
      have hbatch := ((st.udpSendmmsgFlush k).setSocketTos_batch c.socket fd x c.tos).1
      refine ((h.flush hscope).setSocketTos hx' fd c.tos).output
        ((inside_flush st k).of_batch hbatch) ?_ ?_
      · rw [udpSendFd_setSocketTos hx', udpSendFd_flush, hfd]
      · intro hne
        rw [hbatch, flush_batch] at hne
        exact absurd rfl hne
    · obtain ⟨hbatch, hgso, -, -⟩ := st.setSocketTos_batch c.socket fd x c.tos
      refine (h.setSocketTos hx fd c.tos).output (hinside.of_batch hbatch) ?_ ?_
      · rw [udpSendFd_setSocketTos hx, hfd]
      · intro _ hdisj
        rw [EndsBatch, hbatch] at hdisj
        exact Waits.sameScope (Or.inl ⟨hbatch, hgso⟩) (hsafe (hflushes.mpr hdisj))

lemma Kept.closeSocket (h : st.Kept)
    (hsafe : ∀ d ∈ st.batch.entries, ¬ st.Uses d.socket s) : (st.closeSocket s).Kept := by
  refine ⟨h.exact, h.order, fun d hd => ?_, h.alike⟩
  rw [udpSendFd_closeSocket (hsafe d hd)]
  exact h.queued d hd

lemma Kept.step (h : st.Kept) (hinside : st.Inside batching) {e : UdpEvent} (hsafe : st.Safe e) :
    (st.step batching e).Kept := by
  cases e with
  | batchBegin =>
    simp only [SendState.step, SendState.batchBegin]
    split_ifs
    · exact ⟨h.exact, h.order, h.queued, h.alike⟩
    · exact h
  | batchEnd k =>
    simp only [SendState.step, SendState.batchEnd]
    have hdown : Kept { st with batch := { st.batch with depth := st.batch.depth - 1 } } :=
      ⟨h.exact, h.order, h.queued, h.alike⟩
    split_ifs with hb hdepth
    · simp only [Bool.and_eq_true, decide_eq_true_eq] at hb
      exact hdown.flush (hsafe (by omega))
    · exact hdown
    · exact h
  | send c k => exact h.sendData hinside hsafe
  | close s => exact h.closeSocket hsafe

/-! ## What an unsafe step breaks -/

/-- Something was handed over in another way than it was sent, or lost, or is queued for a closed
socket. -/
def Broken (st : SendState) : Prop :=
  (∃ h ∈ st.handed, ¬ h.Exact) ∨
    st.handed.length + st.batch.entries.length < st.reported.length ∨
    st.handed.length + st.batch.entries.length ≤ st.reported.length ∧
      ∃ d ∈ st.batch.entries, st.udpSendFd d.socket = none

lemma Kept.length_eq (h : st.Kept) :
    st.handed.length + st.batch.entries.length = st.reported.length := by
  rw [← h.order, length_append, length_map]

lemma Kept.not_broken (h : st.Kept) : ¬ st.Broken := by
  rintro (⟨o, ho, hexact⟩ | hlost | ⟨-, d, hd, hnone⟩)
  · exact hexact (h.exact o ho)
  · exact absurd h.length_eq hlost.ne
  · rw [(h.queued d hd).1] at hnone
    exact absurd hnone (by simp)

lemma Broken.congr (h : st.Broken) (hbatch : st'.batch.entries = st.batch.entries)
    (hhanded : st'.handed = st.handed) (hreported : st'.reported = st.reported)
    (hfd : ∀ s, st.udpSendFd s = none → st'.udpSendFd s = none) : st'.Broken := by
  rw [Broken, hhanded, hreported, hbatch]
  exact h.imp_right (Or.imp_right (And.imp_right fun hd =>
    hd.imp fun d hd => ⟨hd.1, hfd _ hd.2⟩))

/-- What is broken does not get better by a flush. -/
lemma Broken.flush (h : st.Broken) (k : KernelAnswers) : (st.udpSendmmsgFlush k).Broken := by
  obtain ⟨fd, n, dest, gso, -, -, hflush⟩ := st.flush_spec k
  have hhanded : (st.udpSendmmsgFlush k).handed = st.handed ++
      ((st.batch.entries.take n).map (fun d => st.handOver fd (dest d) d) ++
        (st.batch.entries.drop n).filterMap st.plainOver) := by
    rw [hflush]
    rfl
  have hlength : st.batch.entries.length =
      ((st.batch.entries.take n).map fun d => st.handOver fd (dest d) d).length +
        (st.batch.entries.drop n).length := by
    rw [length_map, ← length_append, take_append_drop]
  have hback := length_filterMap_le st.plainOver (st.batch.entries.drop n)
  have hempty : (st.udpSendmmsgFlush k).batch.entries.length = 0 := by rw [flush_batch]; rfl
  rw [Broken, hempty, flush_reported, hhanded, length_append, length_append]
  rcases h with ⟨o, ho, hexact⟩ | hlost | ⟨hle, d, hd, hnone⟩
  · exact Or.inl ⟨o, mem_append_left _ ho, hexact⟩
  · exact Or.inr (Or.inl (by omega))
  · rw [← take_append_drop n st.batch.entries, mem_append] at hd
    rcases hd with hd | hd
    · refine Or.inl ⟨st.handOver fd (dest d) d, ?_, ?_⟩
      · exact mem_append_right _ (mem_append_left _ (List.mem_map_of_mem hd))
      · rintro ⟨-, -, hopen⟩
        rw [handOver, hnone] at hopen
        exact absurd hopen (by simp)
    · -- `udp_send` has nothing to send it over
      have hlt : ((st.batch.entries.drop n).filterMap st.plainOver).length <
          (st.batch.entries.drop n).length := by
        refine lt_of_le_of_ne hback fun heq => ?_
        have hall := filterMap_length_eq_length.mp heq
        have hsome := hall d hd
        rw [plainOver, hnone] at hsome
        exact absurd hsome (by simp)
      exact Or.inr (Or.inl (by omega))

lemma Broken.enqueue (h : st.Broken) (ttl tos : ℤ) (d : Datagram) :
    (st.enqueue ttl tos d).Broken := by
  have hentries : (st.enqueue ttl tos d).batch.entries = st.batch.entries ++ [d] := by
    show (st.batch.start d.fd ttl tos).entries ++ [d] = _
    rw [UdpBatch.start]
    split_ifs <;> rfl
  have hreported : (st.enqueue ttl tos d).reported.length = st.reported.length + 1 := by
    show (st.reported ++ [d]).length = _
    simp
  rw [Broken, hentries, hreported, length_append, length_singleton]
  rcases h with hexact | hlost | ⟨hle, d', hd', hnone⟩
  · exact Or.inl hexact
  · exact Or.inr (Or.inl (by show st.handed.length + _ < _; omega))
  · refine Or.inr (Or.inr ⟨by show st.handed.length + _ ≤ _; omega, d', ?_, hnone⟩)
    exact mem_append_left _ hd'

lemma Broken.sendNow (h : st.Broken) (d : Datagram) : (st.sendNow d).Broken := by
  have hhanded : (st.sendNow d).handed = st.handed ++ [st.handOver d.fd d.destAddr d] := rfl
  have hreported : (st.sendNow d).reported.length = st.reported.length + 1 := by
    show (st.reported ++ [d]).length = _
    simp
  have hentries : (st.sendNow d).batch.entries = st.batch.entries := rfl
  rw [Broken, hhanded, hreported, hentries, length_append, length_singleton]
  rcases h with ⟨o, ho, hexact⟩ | hlost | ⟨hle, hclosed⟩
  · exact Or.inl ⟨o, mem_append_left _ ho, hexact⟩
  · exact Or.inr (Or.inl (by omega))
  · exact Or.inr (Or.inr ⟨by omega, hclosed⟩)

lemma Broken.markToBeClosed (h : st.Broken) (s : ℕ) : (st.markToBeClosed s).Broken := by
  obtain ⟨hbatch, hhanded, hreported⟩ := st.markToBeClosed_batch s
  refine h.congr (by rw [hbatch]) hhanded hreported fun s' hs' => ?_
  rw [udpSendFd_markToBeClosed, hs']

lemma Broken.setSocketTos (h : st.Broken) (hx : st.sockets s = some x) (fd : ℕ) (tos : ℤ) :
    (st.setSocketTos s fd x tos).Broken := by
  obtain ⟨hbatch, -, hhanded, hreported⟩ := st.setSocketTos_batch s fd x tos
  refine h.congr (by rw [hbatch]) hhanded hreported fun s' hs' => ?_
  rw [udpSendFd_setSocketTos hx, hs']

lemma Broken.output (h : st.Broken) (k : KernelAnswers) (c : SendCall) (path : SendPath)
    (d : Datagram) : (st.output batching k c path d).Broken :=
  output_preserves (fun _ h => h.flush k) (fun _ s h => h.markToBeClosed s)
    (fun _ ttl tos d _ _ h => h.enqueue ttl tos d) (fun _ d h => h.sendNow d) h

lemma Broken.step (h : st.Broken) (e : UdpEvent) : (st.step batching e).Broken := by
  cases e with
  | batchBegin =>
    simp only [SendState.step, SendState.batchBegin]
    split_ifs <;> exact h
  | batchEnd k =>
    simp only [SendState.step, SendState.batchEnd]
    have hdown : Broken { st with batch := { st.batch with depth := st.batch.depth - 1 } } := h
    split_ifs
    · exact hdown.flush k
    · exact hdown
    · exact h
  | send c k =>
    exact sendData_preserves (fun _ h => h.flush k) (fun _ s h => h.markToBeClosed s)
      (fun _ ttl tos d _ _ h => h.enqueue ttl tos d) (fun _ d h => h.sendNow d)
      (fun _ _ fd _ tos hx h => h.setSocketTos hx fd tos) h
  | close s => exact h.congr rfl rfl rfl fun s' hs' => udpSendFd_closeSocket_of_none hs'

/-- A queue with several scopes is sent to one of them. -/
lemma broken_flush (hscope : ¬ st.SameScope k) : (st.udpSendmmsgFlush k).Broken := by
  simp only [SameScope, not_forall] at hscope
  obtain ⟨hone, d, hd, hne⟩ := hscope
  obtain ⟨fd, n, dest, gso, -, hdest, hflush⟩ := st.flush_spec k
  rw [if_pos hone] at hdest
  obtain ⟨rfl, rfl⟩ := hdest
  refine Or.inl ⟨st.handOver fd st.firstDest d, ?_, ?_⟩
  · rw [hflush, take_length]
    exact mem_append_right _ (mem_append_left _ (List.mem_map_of_mem hd))
  · rintro ⟨-, hsame, -⟩
    have hsame' : st.firstDest = d.destAddr := hsame
    exact hne (by rw [hsame'])

lemma entries_ne_nil (hscope : ¬ st.SameScope k) : st.batch.entries ≠ [] := by
  intro hnil
  refine hscope fun _ d hd => ?_
  rw [hnil] at hd
  exact absurd hd not_mem_nil

lemma broken_output (hinside : st.Inside batching) {path : SendPath} (hscope : ¬ st.SameScope k)
    (hflushes : st.EndsBatch c path (some d.fd)) :
    (st.output batching k c path d).Broken := by
  have hne := entries_ne_nil hscope
  have hpending : (st.udpSendmmsgFlushIfPending k).Broken := by
    rw [udpSendmmsgFlushIfPending, if_neg hne]
    exact broken_flush hscope
  cases path with
  | bufferevent =>
    simp only [SendState.output]
    split_ifs
    · exact hpending.markToBeClosed _
    · exact hpending
  | ssl =>
    simp only [SendState.output]
    split_ifs
    · exact hpending.markToBeClosed _
    · exact hpending
    · exact hpending.sendNow d
  | plain =>
    obtain ⟨hb, hdepth⟩ := hinside hne
    simp only [SendState.output, hb, hdepth, decide_true, Bool.and_self, if_true]
    have hroom : st.makeRoom k d.fd c.ttl c.tos = st.udpSendmmsgFlush k := by
      rw [makeRoom, if_pos]
      rcases hflushes with hpath | hfd | httl | htos | hfull
      · exact absurd rfl hpath
      · exact Or.inl ⟨hne, Or.inl hfd⟩
      · exact Or.inl ⟨hne, Or.inr (Or.inl httl)⟩
      · exact Or.inl ⟨hne, Or.inr (Or.inr htos)⟩
      · exact Or.inr hfull
    rw [hroom]
    exact (broken_flush hscope).enqueue c.ttl c.tos d

lemma broken_sendData (hinside : st.Inside batching) (hflushes : st.Flushes c)
    (hscope : ¬ st.SameScope k) : (st.sendData batching k c).Broken := by
  cases hx : st.sockets c.socket with
  | none => simp [Flushes, hx] at hflushes
  | some x =>
    simp only [Flushes, hx] at hflushes
    obtain ⟨hfd, hallowed, htbc, hshut, hdisj⟩ := hflushes
    obtain ⟨fd, hfd⟩ := ne_none_iff_exists'.mp hfd
    rw [hfd] at hdisj
    rw [sendData_eq batching k hx hfd hallowed htbc hshut, udpSendmmsgFlushBeforeSocketOptions]
    split_ifs
    · have hx' : (st.udpSendmmsgFlush k).sockets c.socket = some x := by rw [flush_sockets, hx]
      exact ((broken_flush hscope).setSocketTos hx' fd c.tos).output k c x.path _
    · obtain ⟨hbatch, hgso, -, -⟩ := st.setSocketTos_batch c.socket fd x c.tos
      refine broken_output (hinside.of_batch hbatch) ?_ ?_
      · intro hscope'
        exact hscope (Waits.sameScope (Or.inl ⟨hbatch.symm, hgso.symm⟩) hscope')
      · rw [EndsBatch, hbatch]
        exact hdisj

/-- A step that is not safe breaks something. -/
lemma Kept.broken_step (h : st.Kept) (hinside : st.Inside batching) {e : UdpEvent}
    (hsafe : ¬ st.Safe e) : (st.step batching e).Broken := by
  cases e with
  | batchBegin => exact absurd trivial hsafe
  | batchEnd k =>
    simp only [Safe, Classical.not_imp] at hsafe
    obtain ⟨hdepth, hscope⟩ := hsafe
    obtain ⟨hb, -⟩ := hinside (entries_ne_nil hscope)
    simp only [SendState.step, SendState.batchEnd, hb, hdepth, Nat.lt_one_iff, decide_true,
      Bool.and_self, if_true, Nat.sub_self]
    exact broken_flush hscope
  | send c k =>
    simp only [Safe, Classical.not_imp] at hsafe
    exact broken_sendData hinside hsafe.1 hsafe.2
  | close s =>
    simp only [Safe, not_forall, not_not] at hsafe
    obtain ⟨d, hd, huses⟩ := hsafe
    exact Or.inr (Or.inr ⟨h.length_eq.le, d, hd, udpSendFd_closeSocket_of_uses huses⟩)

lemma Transparent.not_broken (h : st.Transparent) : ¬ st.Broken := by
  rintro (⟨o, ho, hexact⟩ | hlost | ⟨-, d, hd, -⟩)
  · exact hexact (h.exact o ho)
  · rw [← h.order, length_map] at hlost
    omega
  · rw [h.empty] at hd
    exact absurd hd not_mem_nil

end SendState

/-- When no batch is open, batched sending has been transparent exactly when all events were safe.
-/
theorem batched_sending_transparent_iff (batching : Bool) (sockets : ℕ → Option EngineSocket)
    (fdTos : ℕ → ℤ) (udpGso : Bool) (es : List UdpEvent)
    (hend : (Machine.run (SendState.step batching) (.init sockets fdTos udpGso) es).batch.depth =
      0) :
    (Machine.run (SendState.step batching) (.init sockets fdTos udpGso) es).Transparent ↔
      Machine.Along (SendState.step batching) SendState.Safe (.init sockets fdTos udpGso) es := by
  have hinit : (SendState.init sockets fdTos udpGso).Inside batching ∧
      (SendState.init sockets fdTos udpGso).Kept :=
    ⟨fun hne => absurd rfl hne, SendState.kept_init sockets fdTos udpGso⟩
  have hstep : ∀ st e, SendState.Inside batching st ∧ st.Kept → st.Safe e →
      (st.step batching e).Inside batching ∧ (st.step batching e).Kept :=
    fun st e h hsafe => ⟨h.1.step e, h.2.step h.1 hsafe⟩
  constructor
  · intro h
    exact (Machine.along_iff_of_lasting hstep (fun st e h hsafe => h.2.broken_step h.1 hsafe)
      (fun st e h => h.step e) (fun st h => h.2.not_broken) hinit es).mpr h.not_broken
  · intro halong
    obtain ⟨hinside, hkept⟩ := Machine.run_invariant hstep halong hinit
    have hempty : (Machine.run (SendState.step batching) (.init sockets fdTos udpGso)
        es).batch.entries = [] := by
      by_contra hne
      exact absurd hend (hinside hne).2.ne'
    have horder := hkept.order
    rw [hempty, append_nil] at horder
    exact ⟨horder, hkept.exact, hempty⟩

/-- Five datagrams in two nested batches; the kernel fails with its second `sendmmsg`. -/
theorem batched_sending_transparent_partial :
    let k : KernelAnswers := ⟨.failed, [2, 0]⟩
    let es := [UdpEvent.batchBegin, .send (exampleCall 1 none (-1)) k, .batchBegin,
      .send (exampleCall 1 none (-1)) k, .send (exampleCall 2 none (-1)) k, .batchEnd k,
      .send (exampleCall 2 none (-1)) k, .send (exampleCall 1 none (-1)) k, .batchEnd k]
    let st := Machine.run (SendState.step true) (.init exampleSockets (fun _ => 0) true) es
    st.reported.map Datagram.socket = [1, 1, 2, 2, 1] ∧ st.Transparent := by
  refine ⟨by decide, ?_⟩
  exact (batched_sending_transparent_iff true exampleSockets (fun _ => 0) true _ (by decide)).mpr
    (by decide)

/-- A client is closed while its answer is queued; two scopes of one link-local address are mixed
up. -/
theorem batched_sending_not_transparent :
    let k : KernelAnswers := ⟨.accepted, []⟩
    ¬ (Machine.run (SendState.step true) (.init exampleSockets (fun _ => 0) true)
        [.batchBegin, .send (exampleCall 1 none (-1)) k, .close 1, .batchEnd k]).Transparent ∧
      ¬ (Machine.run (SendState.step true) (.init exampleSockets (fun _ => 0) true)
        [.batchBegin, .send (exampleCall 3 (some ⟨.s6 (.replicate 16 254) 1000, 0, 1⟩) (-1)) k,
          .send (exampleCall 3 (some ⟨.s6 (.replicate 16 254) 1000, 0, 2⟩) (-1)) k,
          .batchEnd k]).Transparent := by
  refine ⟨fun h => absurd h.order (by decide), fun h => ?_⟩
  have hexact : ∀ o ∈ (Machine.run (SendState.step true) (.init exampleSockets (fun _ => 0) true)
      [.batchBegin, .send (exampleCall 3 (some ⟨.s6 (.replicate 16 254) 1000, 0, 1⟩) (-1))
        ⟨.accepted, []⟩,
        .send (exampleCall 3 (some ⟨.s6 (.replicate 16 254) 1000, 0, 2⟩) (-1)) ⟨.accepted, []⟩,
        .batchEnd ⟨.accepted, []⟩]).handed, o.destAddr = o.datagram.destAddr :=
    fun o ho => (h.exact o ho).2.1
  exact absurd hexact (by decide)

end Coturn
