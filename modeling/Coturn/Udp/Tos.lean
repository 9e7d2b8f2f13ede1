/-
# The type of service of a datagram

The type of service is an option of the descriptor, and `set_socket_tos` tells it to the kernel only
when it differs from what the socket remembers. A client socket shares the descriptor of its
listener with all other clients and remembers its own requests only.
-/
import Coturn.Udp.Send

namespace Coturn

open Function

/-! ## Changes of mind -/

/-- The type of service that the socket has asked for last, or was created with. -/
def lastTos (sockets : ℕ → Option EngineSocket) (s : ℕ) : List TosRequest → ℤ
  | [] => ((sockets s).map EngineSocket.currentTos).getD tosDefault
  | r :: older => if r.socket = s then r.tos else lastTos sockets s older

/-- The type of service of the last request over the descriptor that differs from what its socket
had asked for before, or else that of the descriptor. -/
def lastChange (sockets : ℕ → Option EngineSocket) (fdTos : ℕ → ℤ) (fd : ℕ) : List TosRequest → ℤ
  | [] => fdTos fd
  | r :: older =>
    if r.fd = fd ∧ r.tos ≠ lastTos sockets r.socket older then r.tos
    else lastChange sockets fdTos fd older

namespace SendState

variable {sockets : ℕ → Option EngineSocket} {fdTos : ℕ → ℤ} {st : SendState}

/-- Sockets remember their last request, and descriptors and what has been handed over follow the
last change. -/
structure Traced (sockets : ℕ → Option EngineSocket) (fdTos : ℕ → ℤ) (st : SendState) : Prop where
  cache : ∀ s x, st.sockets s = some x → x.currentTos = lastTos sockets s st.asked
  descriptor : ∀ fd, st.fdTos fd = lastChange sockets fdTos fd st.asked
  handed : ∀ h ∈ st.handed, h.tos = lastChange sockets fdTos h.fd h.asked

lemma traced_init (sockets : ℕ → Option EngineSocket) (fdTos : ℕ → ℤ) (udpGso : Bool) :
    (init sockets fdTos udpGso).Traced sockets fdTos := by
  refine ⟨fun s x hx => ?_, fun fd => rfl, fun h hmem => absurd hmem List.not_mem_nil⟩
  have hx' : sockets s = some x := hx
  simp [init, lastTos, hx']

lemma Traced.hand (h : st.Traced sockets fdTos) {hs : List HandOver}
    (hhs : ∀ o ∈ hs, ∃ fd destAddr d, o = st.handOver fd destAddr d) :
    (st.hand hs).Traced sockets fdTos := by
  refine ⟨h.cache, h.descriptor, fun o ho => ?_⟩
  rcases List.mem_append.mp ho with ho | ho
  · exact h.handed o ho
  · obtain ⟨fd, destAddr, d, rfl⟩ := hhs o ho
    exact h.descriptor fd

lemma Traced.flush (h : st.Traced sockets fdTos) (k : KernelAnswers) :
    (st.udpSendmmsgFlush k).Traced sockets fdTos := by
  obtain ⟨fd, n, dest, gso, -, -, hflush⟩ := st.flush_spec k
  have hhand := h.hand (fun o (ho : o ∈ (st.batch.entries.take n).map
      (fun d => st.handOver fd (dest d) d) ++
        (st.batch.entries.drop n).filterMap st.plainOver) => by
    rcases List.mem_append.mp ho with ho | ho
    · obtain ⟨d, -, rfl⟩ := List.mem_map.mp ho
      exact ⟨fd, dest d, d, rfl⟩
    · obtain ⟨d, -, hd⟩ := List.mem_filterMap.mp ho
      obtain ⟨fd', -, rfl⟩ := Option.map_eq_some_iff.mp hd
      exact ⟨fd', d.destAddr, d, rfl⟩)
  rw [hflush]
  exact ⟨hhand.cache, hhand.descriptor, hhand.handed⟩

lemma Traced.setSocketTos (h : st.Traced sockets fdTos) {s : ℕ} {x : EngineSocket}
    (hx : st.sockets s = some x) (fd : ℕ) (tos : ℤ) :
    (st.setSocketTos s fd x tos).Traced sockets fdTos := by
  have hcache := h.cache s x hx
  simp only [SendState.setSocketTos]
  split_ifs with hunsupported hchange
  · exact h
  · refine ⟨fun s' x' hx' => ?_, fun fd' => ?_, h.handed⟩
    · have hput : update st.sockets s
          (some { x with currentTos := x.wantedTos tos }) s' = some x' := hx'
      by_cases hs : s' = s
      · subst hs
        rw [update_self, Option.some_inj] at hput
        subst hput
        simp [putSocket, lastTos]
      · rw [update_of_ne hs] at hput
        simpa [putSocket, lastTos, Ne.symm hs] using h.cache s' x' hput
    · show update st.fdTos fd (x.wantedTos tos) fd' = _
      have hne : x.wantedTos tos ≠ lastTos sockets s st.asked := by
        rw [← hcache]
        exact Ne.symm hchange
      by_cases hfd : fd' = fd
      · subst hfd
        simp [putSocket, lastChange, hne]
      · rw [update_of_ne hfd, h.descriptor fd']
        simp [putSocket, lastChange, Ne.symm hfd]
  · -- the socket remembers this type of service already
    have hsame : x.wantedTos tos = lastTos sockets s st.asked := by
      rw [← hcache]
      exact (not_not.mp hchange).symm
    refine ⟨fun s' x' hx' => ?_, fun fd' => ?_, h.handed⟩
    · by_cases hs : s' = s
      · subst hs
        simpa [lastTos, hsame] using h.cache s' x' hx'
      · simpa [lastTos, Ne.symm hs] using h.cache s' x' hx'
    · rw [h.descriptor fd']
      simp [lastChange, hsame]

lemma Traced.markToBeClosed (h : st.Traced sockets fdTos) (s : ℕ) :
    (st.markToBeClosed s).Traced sockets fdTos := by
  rw [SendState.markToBeClosed]
  cases hx : st.sockets s with
  | none => exact h
  | some x =>
    refine ⟨fun s' x' hx' => ?_, h.descriptor, h.handed⟩
    have hput : update st.sockets s (some { x with toBeClosed := true }) s' = some x' :=
      hx'
    by_cases hs : s' = s
    · subst hs
      rw [update_self, Option.some_inj] at hput
      subst hput
      exact h.cache s' x hx
    · rw [update_of_ne hs] at hput
      exact h.cache s' x' hput

lemma Traced.sendNow (h : st.Traced sockets fdTos) (d : Datagram) :
    (st.sendNow d).Traced sockets fdTos := by
  have hhand := h.hand (fun o (ho : o ∈ [st.handOver d.fd d.destAddr d]) =>
    ⟨d.fd, d.destAddr, d, List.mem_singleton.mp ho⟩)
  exact ⟨hhand.cache, hhand.descriptor, hhand.handed⟩

lemma Traced.step (h : st.Traced sockets fdTos) (batching : Bool) (e : UdpEvent) :
    (st.step batching e).Traced sockets fdTos := by
  cases e with
  | batchBegin =>
    simp only [SendState.step, SendState.batchBegin]
    split_ifs
    · exact ⟨h.cache, h.descriptor, h.handed⟩
    · exact h
  | batchEnd k =>
    simp only [SendState.step, SendState.batchEnd]
    have hdown : Traced sockets fdTos
        { st with batch := { st.batch with depth := st.batch.depth - 1 } } :=
      ⟨h.cache, h.descriptor, h.handed⟩
    split_ifs
    · exact hdown.flush k
    · exact hdown
    · exact h
  | send c k =>
    exact sendData_preserves (fun _ h => h.flush k) (fun _ s h => h.markToBeClosed s)
      (fun _ _ _ _ _ _ h => ⟨h.cache, h.descriptor, h.handed⟩) (fun _ d h => h.sendNow d)
      (fun _ _ fd _ tos hx h => h.setSocketTos hx fd tos) h
  | close s =>
    refine ⟨fun s' x hx => ?_, h.descriptor, h.handed⟩
    have hupdate : update st.sockets s none s' = some x := hx
    by_cases hs : s' = s
    · subst hs
      rw [update_self] at hupdate
      exact absurd hupdate (by simp)
    · rw [update_of_ne hs] at hupdate
      exact h.cache s' x hupdate

end SendState

/-- Every datagram has left with the type of service of its request exactly when for each of them
the last change over its descriptor was to that type of service. -/
theorem datagrams_leave_with_own_tos_iff (batching : Bool) (sockets : ℕ → Option EngineSocket)
    (fdTos : ℕ → ℤ) (udpGso : Bool) (es : List UdpEvent) :
    let st := Machine.run (SendState.step batching) (.init sockets fdTos udpGso) es
    (∀ h ∈ st.handed, h.tos = h.datagram.tos) ↔
      ∀ h ∈ st.handed, lastChange sockets fdTos h.fd h.asked = h.datagram.tos := by
  intro st
  have hstep : ∀ (st : SendState) e, st.Traced sockets fdTos →
      (st.step batching e).Traced sockets fdTos := fun st e h => h.step batching e
  have htraced : st.Traced sockets fdTos :=
    Machine.run_preserves hstep es (SendState.traced_init sockets fdTos udpGso)
  constructor
  · intro h o ho
    rw [← htraced.handed o ho]
    exact h o ho
  · intro h o ho
    rw [htraced.handed o ho]
    exact h o ho

/-- A datagram leaves with type of service 46, although its socket has asked for 0. -/
theorem datagram_leaves_with_other_tos :
    let st := Machine.run (SendState.step false) (.init exampleSockets (fun _ => 0) false)
      [.send (exampleCall 1 none 46) ⟨.failed, []⟩, .send (exampleCall 2 none (-1)) ⟨.failed, []⟩]
    ¬ ∀ h ∈ st.handed, h.tos = h.datagram.tos := by
  decide

end Coturn
