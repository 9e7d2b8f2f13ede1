/-
# The traffic totals of a session

A session counts packets and bytes in 32-bit counters, which `turn_report_session_usage` of
`apps/relay/ns_ioalib_engine_impl.c` adds to the totals when the number of packets is a multiple of
4096 and when the client connection is shut down. The totals have 64 bits for the client and 32 for
the peers. The handlers of TCP relay connections count two packets before they report, so a multiple
of 4096 can be passed without a report.
-/
import Coturn.Lib.Run
import Mathlib.Algebra.Group.Nat.Defs
import Mathlib.Tactic.SplitIfs

namespace Coturn

/-! ## Counters and totals -/

/-- The four kinds of traffic a session counts. -/
inductive Traffic where
  | received
  | sent
  | peerReceived
  | peerSent
  deriving DecidableEq

/-- What is counted of a packet. -/
inductive TrafficUnit where
  | packets
  | bytes
  deriving DecidableEq

/-- The statistics of a `ts_ur_super_session`, all zero in a new session. -/
structure SessionUsage where
  receivedPackets : UInt32 := 0
  sentPackets : UInt32 := 0
  receivedBytes : UInt32 := 0
  sentBytes : UInt32 := 0
  tReceivedPackets : UInt64 := 0
  tSentPackets : UInt64 := 0
  tReceivedBytes : UInt64 := 0
  tSentBytes : UInt64 := 0
  peerReceivedPackets : UInt32 := 0
  peerSentPackets : UInt32 := 0
  peerReceivedBytes : UInt32 := 0
  peerSentBytes : UInt32 := 0
  tPeerReceivedPackets : UInt32 := 0
  tPeerSentPackets : UInt32 := 0
  tPeerReceivedBytes : UInt32 := 0
  tPeerSentBytes : UInt32 := 0
  deriving DecidableEq

namespace SessionUsage

variable (s : SessionUsage)

/-- The counter of this interval. -/
def counter : Traffic → TrafficUnit → UInt32
  | .received, .packets => s.receivedPackets
  | .received, .bytes => s.receivedBytes
  | .sent, .packets => s.sentPackets
  | .sent, .bytes => s.sentBytes
  | .peerReceived, .packets => s.peerReceivedPackets
  | .peerReceived, .bytes => s.peerReceivedBytes
  | .peerSent, .packets => s.peerSentPackets
  | .peerSent, .bytes => s.peerSentBytes

/-- The total so far. -/
def total : Traffic → TrafficUnit → ℕ
  | .received, .packets => s.tReceivedPackets.toNat
  | .received, .bytes => s.tReceivedBytes.toNat
  | .sent, .packets => s.tSentPackets.toNat
  | .sent, .bytes => s.tSentBytes.toNat
  | .peerReceived, .packets => s.tPeerReceivedPackets.toNat
  | .peerReceived, .bytes => s.tPeerReceivedBytes.toNat
  | .peerSent, .packets => s.tPeerSentPackets.toNat
  | .peerSent, .bytes => s.tPeerSentBytes.toNat

/-- A packet of the given size is counted. -/
def count (bytes : UInt32) : Traffic → SessionUsage
  | .received => { s with
      receivedPackets := s.receivedPackets + 1, receivedBytes := s.receivedBytes + bytes }
  | .sent => { s with
      sentPackets := s.sentPackets + 1, sentBytes := s.sentBytes + bytes }
  | .peerReceived => { s with
      peerReceivedPackets := s.peerReceivedPackets + 1
      peerReceivedBytes := s.peerReceivedBytes + bytes }
  | .peerSent => { s with
      peerSentPackets := s.peerSentPackets + 1, peerSentBytes := s.peerSentBytes + bytes }

/-- The counters are added to the totals and cleared. -/
def fold : SessionUsage where
  tReceivedPackets := s.tReceivedPackets + s.receivedPackets.toUInt64
  tReceivedBytes := s.tReceivedBytes + s.receivedBytes.toUInt64
  tSentPackets := s.tSentPackets + s.sentPackets.toUInt64
  tSentBytes := s.tSentBytes + s.sentBytes.toUInt64
  tPeerReceivedPackets := s.tPeerReceivedPackets + s.peerReceivedPackets
  tPeerReceivedBytes := s.tPeerReceivedBytes + s.peerReceivedBytes
  tPeerSentPackets := s.tPeerSentPackets + s.peerSentPackets
  tPeerSentBytes := s.tPeerSentBytes + s.peerSentBytes

/-- The packets counted since the counters were last cleared, in 32 bits. -/
def packets : UInt32 :=
  s.receivedPackets + s.sentPackets + s.peerReceivedPackets + s.peerSentPackets

end SessionUsage

/-- `turn_report_session_usage`. The session's pointer to its server is set when the session is
created and kept. -/
def turnReportSessionUsage (s : SessionUsage) (forceInvalid : Bool) : SessionUsage :=
  if s.receivedPackets ≠ 0 ∨ s.sentPackets ≠ 0 ∨ forceInvalid then
    if s.packets &&& 4095 = 0 ∨ forceInvalid then s.fold else s
  else s

/-! ## The places that count -/

/-- The places in `ns_turn_server.c` that count packets, with the size counted. -/
inductive TrafficEvent where
  | clientInput (bytes : UInt16)
  /-- `write_client_connection` and `tcp_deliver_delayed_buffer`, when the packet is sent -/
  | clientOutput (bytes : UInt16)
  | peerInput (bytes : UInt16)
  /-- `handle_turn_send` and `write_to_peerchannel`, when the packet is sent -/
  | peerOutput (bytes : UInt16)
  /-- `tcp_peer_input_handler`; the flag says whether the client could be sent the data -/
  | tcpPeerInput (bytes : UInt16) (sent : Bool)
  /-- `tcp_client_input_handler_rfc6062data`; the flag says whether sending was skipped -/
  | tcpClientInput (bytes : UInt16) (skip : Bool)
  /-- `shutdown_client_connection` on a mobile session, which waits for another client socket -/
  | softShutdown
  deriving DecidableEq

namespace TrafficEvent

/-- What the place counts. -/
def counts : TrafficEvent → List (Traffic × UInt16)
  | clientInput bytes => [(.received, bytes)]
  | clientOutput bytes => [(.sent, bytes)]
  | peerInput bytes => [(.peerReceived, bytes)]
  | peerOutput bytes => [(.peerSent, bytes)]
  | tcpPeerInput bytes sent => (.peerReceived, bytes) :: if sent then [(.sent, bytes)] else []
  | tcpClientInput bytes skip => (.received, bytes) :: if skip then [] else [(.peerSent, bytes)]
  | softShutdown => []

/-- The `force_invalid` of the report. -/
def forced : TrafficEvent → Bool
  | softShutdown => true
  | _ => false

end TrafficEvent

/-- One place counts and reports. -/
def SessionUsage.step (s : SessionUsage) (e : TrafficEvent) : SessionUsage :=
  turnReportSessionUsage (e.counts.foldl (fun s c => s.count c.2.toUInt32 c.1) s) e.forced

/-- How much a packet of this size is, in this unit. -/
def TrafficUnit.amount (bytes : UInt16) : TrafficUnit → ℕ
  | .packets => 1
  | .bytes => bytes.toNat

/-- How much of one kind of traffic a list of packets is. -/
def countedAmount (cs : List (Traffic × UInt16)) (t : Traffic) (u : TrafficUnit) : ℕ :=
  cs.foldr (fun c n => (if c.1 = t then u.amount c.2 else 0) + n) 0

def trafficSum (es : List TrafficEvent) (t : Traffic) (u : TrafficUnit) : ℕ :=
  es.foldr (fun e n => countedAmount e.counts t u + n) 0

lemma trafficSum_cons (e : TrafficEvent) (es : List TrafficEvent) (t : Traffic) (u : TrafficUnit) :
    trafficSum (e :: es) t u = countedAmount e.counts t u + trafficSum es t u := rfl

lemma trafficSum_replicate (n : ℕ) (e : TrafficEvent) (t : Traffic) (u : TrafficUnit) :
    trafficSum (List.replicate n e) t u = n * countedAmount e.counts t u := by
  induction n with
  | zero => exact (Nat.zero_mul _).symm
  | succ n ih => rw [List.replicate_succ, trafficSum_cons, ih, Nat.succ_mul, Nat.add_comm]

/-! ## One step -/

/-- The number of bits of the total of this traffic. -/
def Traffic.width : Traffic → ℕ
  | .received | .sent => 64
  | .peerReceived | .peerSent => 32

namespace SessionUsage

variable (s : SessionUsage) (t : Traffic) (u : TrafficUnit)

lemma counter_count (bytes : UInt16) (t' : Traffic) :
    ((s.count bytes.toUInt32 t').counter t u).toNat =
      ((s.counter t u).toNat + if t' = t then u.amount bytes else 0) % 2 ^ 32 := by
  have hlt := (s.counter t u).toNat_lt
  by_cases h : t' = t
  · subst h
    rw [if_pos rfl]
    cases t' <;> cases u <;> simp [count, counter, TrafficUnit.amount]
  · rw [if_neg h, Nat.add_zero, Nat.mod_eq_of_lt hlt]
    cases t <;> cases t' <;> first | exact absurd rfl h | (cases u <;> rfl)

lemma total_count (bytes : UInt32) (t' : Traffic) :
    (s.count bytes t').total t u = s.total t u := by
  cases t' <;> cases t <;> cases u <;> rfl

lemma counter_fold : s.fold.counter t u = 0 := by
  cases t <;> cases u <;> rfl

lemma total_fold :
    s.fold.total t u = (s.total t u + (s.counter t u).toNat) % 2 ^ t.width := by
  cases t <;> cases u <;> simp [fold, total, counter, Traffic.width]

lemma counter_countAll (cs : List (Traffic × UInt16)) :
    ((cs.foldl (fun s c => s.count c.2.toUInt32 c.1) s).counter t u).toNat =
      ((s.counter t u).toNat + countedAmount cs t u) % 2 ^ 32 := by
  induction cs generalizing s with
  | nil => exact (Nat.mod_eq_of_lt (s.counter t u).toNat_lt).symm
  | cons c cs ih =>
    rw [List.foldl_cons, ih, counter_count, Nat.mod_add_mod, Nat.add_assoc]
    rfl

lemma total_countAll (cs : List (Traffic × UInt16)) :
    (cs.foldl (fun s c => s.count c.2.toUInt32 c.1) s).total t u = s.total t u := by
  induction cs generalizing s with
  | nil => rfl
  | cons c cs ih => rw [List.foldl_cons, ih, total_count]

/-- What the totals will show once the counters have been added to them. -/
def due : ℕ := s.total t u + (s.counter t u).toNat

lemma report_cases (force : Bool) :
    turnReportSessionUsage s force = s ∨ turnReportSessionUsage s force = s.fold := by
  unfold turnReportSessionUsage
  split_ifs
  · exact Or.inr rfl
  · exact Or.inl rfl
  · exact Or.inl rfl

lemma report_force : turnReportSessionUsage s true = s.fold := by
  simp [turnReportSessionUsage]

lemma due_fold : s.fold.due t u = s.due t u % 2 ^ t.width := by
  rw [due, counter_fold, total_fold]
  rfl

lemma due_report_mod (force : Bool) :
    (turnReportSessionUsage s force).due t u % 2 ^ t.width = s.due t u % 2 ^ t.width := by
  rcases s.report_cases force with h | h
  · rw [h]
  · rw [h, due_fold, Nat.mod_mod]

lemma due_report (force : Bool) (hlt : s.due t u < 2 ^ t.width) :
    (turnReportSessionUsage s force).due t u = s.due t u := by
  rcases s.report_cases force with h | h
  · rw [h]
  · rw [h, due_fold, Nat.mod_eq_of_lt hlt]

/-- The counter of this traffic takes what the place counts. -/
def Fits (e : TrafficEvent) : Prop :=
  (s.counter t u).toNat + countedAmount e.counts t u < 2 ^ 32

variable (e : TrafficEvent)

/-- What is due grows by what is counted, less what runs over the counter. -/
lemma due_step (hlt : s.due t u + countedAmount e.counts t u < 2 ^ t.width) :
    (s.step e).due t u +
        2 ^ 32 * (((s.counter t u).toNat + countedAmount e.counts t u) / 2 ^ 32) =
      s.due t u + countedAmount e.counts t u := by
  have hmod := Nat.mod_add_div ((s.counter t u).toNat + countedAmount e.counts t u) (2 ^ 32)
  have hcounted : (e.counts.foldl (fun s c => s.count c.2.toUInt32 c.1) s).due t u =
      s.total t u + ((s.counter t u).toNat + countedAmount e.counts t u) % 2 ^ 32 := by
    rw [due, counter_countAll, total_countAll]
  rw [step, due_report, hcounted, due]
  · omega
  · rw [hcounted]
    rw [due] at hlt
    omega

/-- What is due is right up to 32 bits in any case. -/
lemma due_step_mod :
    (s.step e).due t u % 2 ^ 32 = (s.due t u + countedAmount e.counts t u) % 2 ^ 32 := by
  have hdvd : 2 ^ 32 ∣ 2 ^ t.width := by cases t <;> decide
  rw [step, ← Nat.mod_mod_of_dvd _ hdvd, due_report_mod, Nat.mod_mod_of_dvd _ hdvd, due,
    counter_countAll, total_countAll, Nat.add_mod_mod, ← Nat.add_assoc]
  rfl

/-! ## A whole session -/

variable (es : List TrafficEvent)

lemma due_run_mod :
    (Machine.run step s es).due t u % 2 ^ 32 = (s.due t u + trafficSum es t u) % 2 ^ 32 := by
  induction es generalizing s with
  | nil => rfl
  | cons e es ih =>
    rw [Machine.run_cons, ih, ← Nat.mod_add_mod, due_step_mod, Nat.mod_add_mod, Nat.add_assoc]
    rfl

/-- What is due is at most the sum, and it is the sum exactly when the counter never runs over. -/
lemma due_run (hlt : s.due t u + trafficSum es t u < 2 ^ t.width) :
    (Machine.run step s es).due t u ≤ s.due t u + trafficSum es t u ∧
      ((Machine.run step s es).due t u = s.due t u + trafficSum es t u ↔
        Machine.Along step (fun s e => s.Fits t u e) s es) := by
  induction es generalizing s with
  | nil => exact ⟨Nat.le_refl _, iff_of_true rfl trivial⟩
  | cons e es ih =>
    rw [trafficSum_cons] at hlt ⊢
    have hstep := s.due_step t u e (by omega)
    obtain ⟨hle, hiff⟩ := ih (s.step e) (by omega)
    rw [Machine.run_cons]
    refine ⟨by omega, ?_⟩
    by_cases hfits : s.Fits t u e
    · -- nothing is lost at this step
      have hdiv : ((s.counter t u).toNat + countedAmount e.counts t u) / 2 ^ 32 = 0 :=
        Nat.div_eq_of_lt hfits
      have hdue : (s.step e).due t u = s.due t u + countedAmount e.counts t u := by
        rw [hdiv] at hstep
        omega
      rw [← Nat.add_assoc, ← hdue, hiff]
      exact ⟨fun hlater => ⟨hfits, hlater⟩, And.right⟩
    · -- what runs over here is never made up for
      have hdiv : 0 < ((s.counter t u).toNat + countedAmount e.counts t u) / 2 ^ 32 :=
        Nat.div_pos (Nat.le_of_not_lt hfits) (by decide)
      refine iff_of_false ?_ fun halong => hfits halong.1
      intro heq
      omega

/-- The counters of the traffic whose totals have 64 bits take what the place counts. -/
def ClientFits : Prop := ∀ t u, t.width = 64 → s.Fits t u e

def closingTotal : ℕ := (turnReportSessionUsage s true).total t u

lemma closingTotal_eq : s.closingTotal t u = s.due t u % 2 ^ t.width := by
  rw [closingTotal, report_force, total_fold]
  rfl

lemma due_zero : ({} : SessionUsage).due t u = 0 := by
  cases t <;> cases u <;> rfl

lemma closingTotal_client (ht : t.width = 64) (hsum : trafficSum es t u < 2 ^ 64) :
    (Machine.run step {} es).closingTotal t u = trafficSum es t u ↔
      Machine.Along step (fun s e => s.Fits t u e) {} es := by
  have hdue := due_run {} t u es (by rw [due_zero, ht]; omega)
  rw [due_zero, Nat.zero_add] at hdue
  rw [closingTotal_eq, ht, Nat.mod_eq_of_lt (by omega), hdue.2]

lemma closingTotal_peer (ht : t.width = 32) :
    (Machine.run step {} es).closingTotal t u = trafficSum es t u ↔ trafficSum es t u < 2 ^ 32 := by
  rw [closingTotal_eq, ht, due_run_mod, due_zero, Nat.zero_add]
  constructor
  · intro heq
    rw [← heq]
    exact Nat.mod_lt _ (by decide)
  · exact Nat.mod_eq_of_lt

end SessionUsage

/-! ## Sessions in which every packet is reported -/

/-- The place reports after every packet, as all do that are not on a TCP relay connection. -/
def TrafficEvent.Single (e : TrafficEvent) : Prop := e.counts.length ≤ 1

lemma TrafficEvent.Single.cases {e : TrafficEvent} (he : e.Single) :
    (∃ t bytes, e.counts = [(t, bytes)] ∧ e.forced = false) ∨ e = .softShutdown := by
  cases e with
  | softShutdown => exact Or.inr rfl
  | clientInput | clientOutput | peerInput | peerOutput => exact Or.inl ⟨_, _, rfl, rfl⟩
  | tcpPeerInput bytes flag | tcpClientInput bytes flag =>
    cases flag <;> first | exact Or.inl ⟨_, _, rfl, rfl⟩ | exact absurd he (Nat.not_succ_le_self 1)

namespace SessionUsage

/-- Since the last report that cleared the counters, no multiple of 4096 has been passed. -/
structure Regular (s : SessionUsage) : Prop where
  packets : s.receivedPackets.toNat + s.sentPackets.toNat ≤ s.packets.toNat % 4096
  received : s.receivedBytes.toNat ≤ 65535 * s.receivedPackets.toNat
  sent : s.sentBytes.toNat ≤ 65535 * s.sentPackets.toNat

lemma packets_count (s : SessionUsage) (bytes : UInt32) (t : Traffic) :
    (s.count bytes t).packets = s.packets + 1 := by
  cases t <;> simp only [count, SessionUsage.packets] <;> ac_rfl

lemma packets_and (n : UInt32) : n &&& 4095 = 0 ↔ n.toNat % 4096 = 0 := by
  rw [← UInt32.toNat_inj, UInt32.toNat_and]
  exact iff_of_eq (congrArg (· = 0) (Nat.and_two_pow_sub_one_eq_mod n.toNat 12))

lemma packets_count_mod (s : SessionUsage) (bytes : UInt32) (t : Traffic) :
    (s.count bytes t).packets.toNat % 4096 = (s.packets.toNat + 1) % 4096 := by
  rw [packets_count, UInt32.toNat_add]
  exact Nat.mod_mod_of_dvd _ (by decide)

/-- A report clears the counters, unless the number of packets is no multiple of 4096. -/
lemma report_false_cases (s : SessionUsage) :
    turnReportSessionUsage s false = s.fold ∨
      turnReportSessionUsage s false = s ∧
        (s.packets.toNat % 4096 ≠ 0 ∨ s.receivedPackets = 0 ∧ s.sentPackets = 0) := by
  unfold turnReportSessionUsage
  by_cases hclient : s.receivedPackets ≠ 0 ∨ s.sentPackets ≠ 0 ∨ false = true
  · rw [if_pos hclient]
    by_cases hmask : s.packets &&& 4095 = 0 ∨ false = true
    · exact Or.inl (if_pos hmask)
    · refine Or.inr ⟨if_neg hmask, Or.inl fun hmod => hmask (Or.inl ?_)⟩
      exact (packets_and _).mpr hmod
  · rw [if_neg hclient]
    refine Or.inr ⟨rfl, Or.inr ?_⟩
    simpa using hclient

namespace Regular

variable {s : SessionUsage} (hs : s.Regular)
include hs

/-- Between two reports that clear the counters, those of the client's traffic stay small. -/
lemma counter_le {t : Traffic} (ht : t.width = 64) (u : TrafficUnit) :
    (s.counter t u).toNat ≤ 4095 * u.amount 65535 := by
  obtain ⟨hpackets, hreceived, hsent⟩ := hs
  have hlt : s.packets.toNat % 4096 < 4096 := Nat.mod_lt _ (by decide)
  cases t with
  | received | sent => cases u <;> simp only [counter, TrafficUnit.amount, UInt16.reduceToNat] <;> omega
  | peerReceived | peerSent => cases ht

lemma counter_add_lt {t : Traffic} (ht : t.width = 64) (u : TrafficUnit) (t' : Traffic)
    (bytes : UInt16) :
    (s.counter t u).toNat + (if t' = t then u.amount bytes else 0) < 2 ^ 32 := by
  have hle := hs.counter_le ht u
  have hbytes := bytes.toNat_lt
  cases u <;> simp only [TrafficUnit.amount, UInt16.reduceToNat] at hle ⊢ <;> split_ifs <;> omega

lemma report_count (bytes : UInt16) (t' : Traffic) :
    (turnReportSessionUsage (s.count bytes.toUInt32 t') false).Regular := by
  have hcount : ∀ t : Traffic, t.width = 64 → ∀ u,
      ((s.count bytes.toUInt32 t').counter t u).toNat =
        (s.counter t u).toNat + if t' = t then u.amount bytes else 0 := by
    intro t ht u
    rw [counter_count, Nat.mod_eq_of_lt (hs.counter_add_lt ht u t' bytes)]
  have hbytes := bytes.toNat_lt
  have hmod := s.packets_count_mod bytes.toUInt32 t'
  have hrp := hcount .received rfl .packets
  have hrb := hcount .received rfl .bytes
  have hsp := hcount .sent rfl .packets
  have hsb := hcount .sent rfl .bytes
  simp only [counter, TrafficUnit.amount] at hrp hrb hsp hsb
  obtain ⟨hpackets, hreceived, hsent⟩ := hs
  rcases (s.count bytes.toUInt32 t').report_false_cases with hfold | ⟨hsame, hcases⟩
  · rw [hfold]
    exact ⟨Nat.zero_le _, Nat.le_refl _, Nat.le_refl _⟩
  · rw [hsame]
    refine ⟨?_, ?_, ?_⟩
    · rcases hcases with hmultiple | ⟨hr, hsent⟩
      · -- the number of packets has not reached a multiple of 4096
        cases t' <;> simp only [reduceCtorEq, if_true, if_false] at hrp hsp <;> omega
      · rw [hr, hsent]
        exact Nat.zero_le _
    · rw [hrb, hrp]
      split_ifs <;> omega
    · rw [hsb, hsp]
      split_ifs <;> omega

lemma clientFits {e : TrafficEvent} (he : e.Single) : s.ClientFits e := by
  intro t u ht
  rcases he.cases with ⟨t', bytes, hcounts, -⟩ | rfl
  · have hlt := hs.counter_add_lt ht u t' bytes
    rw [Fits, hcounts]
    exact hlt
  · exact (s.counter t u).toNat_lt

lemma step {e : TrafficEvent} (he : e.Single) : (s.step e).Regular := by
  rcases he.cases with ⟨t', bytes, hcounts, hforced⟩ | rfl
  · rw [SessionUsage.step, hcounts, hforced]
    exact hs.report_count bytes t'
  · rw [show s.step .softShutdown = s.fold from s.report_force]
    exact ⟨Nat.zero_le _, Nat.le_refl _, Nat.le_refl _⟩

end Regular

end SessionUsage

/-- In a session in which every packet is reported no counter of the client's traffic runs over. -/
theorem along_clientFits_of_single (es : List TrafficEvent) (hsingle : ∀ e ∈ es, e.Single) :
    Machine.Along SessionUsage.step SessionUsage.ClientFits {} es := by
  refine Machine.along_of_invariant ?_ (Machine.along_of_forall_mem hsingle)
    (⟨Nat.le_refl _, Nat.le_refl _, Nat.le_refl _⟩ : SessionUsage.Regular {})
  intro s e hs he
  exact ⟨hs.step he, hs.clientFits he⟩

/-! ## Data on TCP relay connections

Each packet of a peer that is handed on to the client adds two to the number of packets. Once this
number is odd it stays so, and no report sees a multiple of 4096. -/

namespace SessionUsage

variable {s : SessionUsage} (hodd : s.packets.toNat % 2 = 1)
include hodd

lemma step_tcpPeerInput (bytes : UInt16) :
    s.step (.tcpPeerInput bytes true) =
      (s.count bytes.toUInt32 .peerReceived).count bytes.toUInt32 .sent := by
  have hpeer := s.packets_count_mod bytes.toUInt32 .peerReceived
  have hsent := (s.count bytes.toUInt32 .peerReceived).packets_count_mod bytes.toUInt32 .sent
  have hnot : ¬ ((s.count bytes.toUInt32 .peerReceived).count bytes.toUInt32 .sent).packets &&&
      4095 = 0 := by
    rw [packets_and]
    omega
  change turnReportSessionUsage
    ((s.count bytes.toUInt32 .peerReceived).count bytes.toUInt32 .sent) false = _
  rw [turnReportSessionUsage]
  split_ifs <;> simp_all

lemma odd_step_tcpPeerInput (bytes : UInt16) :
    (s.step (.tcpPeerInput bytes true)).packets.toNat % 2 = 1 := by
  have hpeer := s.packets_count_mod bytes.toUInt32 .peerReceived
  have hsent := (s.count bytes.toUInt32 .peerReceived).packets_count_mod bytes.toUInt32 .sent
  rw [step_tcpPeerInput hodd]
  omega

lemma run_tcpPeerInput (bytes : UInt16) (n : ℕ) (t : Traffic) (u : TrafficUnit) :
    (Machine.run step s (List.replicate n (.tcpPeerInput bytes true))).total t u = s.total t u := by
  induction n generalizing s with
  | zero => rfl
  | succ n ih =>
    rw [List.replicate_succ, Machine.run_cons, ih (odd_step_tcpPeerInput hodd bytes),
      step_tcpPeerInput hodd, total_count, total_count]

end SessionUsage

lemma SessionUsage.step_first_clientInput (bytes : UInt16) :
    ({} : SessionUsage).step (.clientInput bytes) =
      ({} : SessionUsage).count bytes.toUInt32 .received := by
  change turnReportSessionUsage (({} : SessionUsage).count bytes.toUInt32 .received) false = _
  have hnot : ¬ ((0 + 1 + 0 + 0 + 0 : UInt32) &&& 4095 = 0 ∨ false = true) := by decide
  exact (if_pos (Or.inl (by decide : (0 + 1 : UInt32) ≠ 0))).trans (if_neg hnot)

/-- The total of a TCP relay connection is right up to 32 bits only, although it has 64. -/
lemma SessionUsage.closingTotal_tcpPeerInputs (first : UInt16) (n : ℕ) (bytes : UInt16) :
    (Machine.run SessionUsage.step {}
        (.clientInput first :: List.replicate n (.tcpPeerInput bytes true))).closingTotal .sent
          .bytes =
      n * bytes.toNat % 2 ^ 32 := by
  have hfirst : (({} : SessionUsage).step (.clientInput first)).packets.toNat % 2 = 1 := by
    rw [step_first_clientInput]
    rfl
  have hsum : trafficSum (.clientInput first :: List.replicate n (.tcpPeerInput bytes true)) .sent
      .bytes = n * bytes.toNat := by
    rw [trafficSum_cons, trafficSum_replicate]
    simp [countedAmount, TrafficEvent.counts, TrafficUnit.amount]
  have hdue := due_run_mod {} .sent .bytes
    (.clientInput first :: List.replicate n (.tcpPeerInput bytes true))
  rw [hsum, due_zero, Nat.zero_add] at hdue
  have htotal := run_tcpPeerInput hfirst bytes n .sent .bytes
  rw [Machine.run_cons] at hdue ⊢
  generalize Machine.run step (({} : SessionUsage).step (.clientInput first))
    (List.replicate n (.tcpPeerInput bytes true)) = s at hdue htotal ⊢
  -- the counter holds all that was counted, up to its width
  have hlt := (s.counter .sent .bytes).toNat_lt
  have hzero : s.total .sent .bytes = 0 := by
    rw [htotal, step_first_clientInput]
    rfl
  rw [due, hzero, Nat.zero_add, Nat.mod_eq_of_lt hlt] at hdue
  rw [closingTotal_eq, due, hzero, Nat.zero_add, hdue, Traffic.width]
  exact Nat.mod_eq_of_lt (Nat.lt_trans (Nat.mod_lt _ (by decide)) (by decide))

lemma SessionUsage.closingTotal_peerInputs (n : ℕ) (bytes : UInt16) :
    (Machine.run SessionUsage.step {} (List.replicate n (.peerInput bytes))).closingTotal
      .peerReceived .bytes = n * bytes.toNat % 2 ^ 32 := by
  rw [closingTotal_eq, Traffic.width, due_run_mod, due_zero, trafficSum_replicate, Nat.zero_add]
  rfl

/-! ## The totals after the closing report -/

/-- The totals are the sums of what was counted exactly when no counter of the client's traffic has
run over between two reports that clear it, and the sums of the peers' traffic fit in 32 bits. -/
theorem session_totals_exact_iff (es : List TrafficEvent)
    (hsum : ∀ t u, trafficSum es t u < 2 ^ 64) :
    (∀ t u, (Machine.run SessionUsage.step {} es).closingTotal t u = trafficSum es t u) ↔
      Machine.Along SessionUsage.step SessionUsage.ClientFits {} es ∧
        ∀ t u, t.width = 32 → trafficSum es t u < 2 ^ 32 := by
  have hwidth : ∀ t : Traffic, t.width = 64 ∨ t.width = 32 := by
    intro t
    cases t <;> decide
  have halong : Machine.Along SessionUsage.step SessionUsage.ClientFits {} es ↔
      ∀ t u, t.width = 64 → Machine.Along SessionUsage.step (fun s e => s.Fits t u e) {} es := by
    refine Machine.along_forall.trans (forall_congr' fun t => ?_)
    exact Machine.along_forall.trans (forall_congr' fun u => Machine.along_forall)
  rw [halong]
  constructor
  · intro hexact
    refine ⟨fun t u ht => ?_, fun t u ht => ?_⟩
    · exact (SessionUsage.closingTotal_client t u es ht (hsum t u)).mp (hexact t u)
    · exact (SessionUsage.closingTotal_peer t u es ht).mp (hexact t u)
  · rintro ⟨hclient, hpeer⟩ t u
    rcases hwidth t with ht | ht
    · exact (SessionUsage.closingTotal_client t u es ht (hsum t u)).mpr (hclient t u ht)
    · exact (SessionUsage.closingTotal_peer t u es ht).mpr (hpeer t u ht)

/-- A packet in ChannelData in both directions. -/
def relayedBothWays : List TrafficEvent :=
  [.clientInput 104, .peerOutput 100, .peerInput 1200, .clientOutput 1204]

theorem session_totals_exact_relayed :
    (∀ t u, trafficSum relayedBothWays t u < 2 ^ 64) ∧
    ∀ t u, (Machine.run SessionUsage.step {} relayedBothWays).closingTotal t u =
      trafficSum relayedBothWays t u := by
  have hsum : ∀ t u, trafficSum relayedBothWays t u < 2 ^ 32 := by
    intro t u
    cases t <;> cases u <;> decide
  have hwide : ∀ t u, trafficSum relayedBothWays t u < 2 ^ 64 :=
    fun t u => Nat.lt_trans (hsum t u) (by decide)
  refine ⟨hwide, (session_totals_exact_iff _ hwide).mpr ⟨?_, fun t u _ => hsum t u⟩⟩
  exact along_clientFits_of_single _
    (by simp [relayedBothWays, TrafficEvent.Single, TrafficEvent.counts])

/-- Two sessions whose totals are short by `2 ^ 32` bytes: one relays UDP, the other one TCP, in the
largest packets that there are. -/
theorem session_totals_lose_bytes :
    ((∀ t u, trafficSum (List.replicate 262209 (.peerInput 16380)) t u < 2 ^ 64) ∧
      trafficSum (List.replicate 262209 (.peerInput 16380)) .peerReceived .bytes = 2 ^ 32 + 16124 ∧
      (Machine.run SessionUsage.step {} (List.replicate 262209 (.peerInput 16380))).closingTotal
        .peerReceived .bytes = 16124) ∧
    (∀ t u, trafficSum (.clientInput 20 :: List.replicate 65570 (.tcpPeerInput 65507 true)) t u <
        2 ^ 64) ∧
      trafficSum (.clientInput 20 :: List.replicate 65570 (.tcpPeerInput 65507 true)) .sent .bytes =
        2 ^ 32 + 326694 ∧
      (Machine.run SessionUsage.step {}
        (.clientInput 20 :: List.replicate 65570 (.tcpPeerInput 65507 true))).closingTotal
        .sent .bytes = 326694 := by
  refine ⟨⟨?_, ?_, ?_⟩, ?_, ?_, ?_⟩
  · intro t u
    rw [trafficSum_replicate]
    cases t <;> cases u <;> decide
  · rw [trafficSum_replicate]
    decide
  · exact (SessionUsage.closingTotal_peerInputs 262209 16380).trans (by decide)
  · intro t u
    rw [trafficSum_cons, trafficSum_replicate]
    cases t <;> cases u <;> decide
  · rw [trafficSum_cons, trafficSum_replicate]
    decide
  · exact (SessionUsage.closingTotal_tcpPeerInputs 20 65570 65507).trans (by decide)

end Coturn
