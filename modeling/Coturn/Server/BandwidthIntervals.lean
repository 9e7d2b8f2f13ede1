/-
# The bandwidth check over the intervals

`ioa_socket_check_bandwidth` counts data and control traffic apart, in both directions, but with one
stamp of the interval for all four counters. The first packet of an interval renews the stamp and
clears the counters of its own class only; those of the other go on with what they have counted
before.
-/
import Coturn.Server.BandwidthLimit

namespace Coturn

/-! ## Runs -/

/-- What happens at a socket: the engine's timer sets the interval, or a packet is checked. -/
inductive MeterEvent where
  | timer (now : UInt32)
  | packet (buf : List UInt8) (read : Bool)

/-- Bytes of each class (control traffic or not) and direction (read or not). -/
abbrev ByteCounts := Bool → Bool → ℕ

def ByteCounts.add (counts : ByteCounts) (control read : Bool) (n : ℕ) : ByteCounts :=
  fun control' read' =>
    if control' = control ∧ read' = read then counts control' read' + n else counts control' read'

/-- A socket, the interval of its engine, and the bytes accepted in this interval. -/
structure Metered where
  engine : UInt32
  socket : SocketTraffic
  accepted : ByteCounts

/-- A socket is created with all its fields zero. -/
def Metered.init (engine : UInt32) : Metered :=
  ⟨engine, ⟨0, ⟨0, 0⟩, ⟨0, 0⟩⟩, fun _ _ => 0⟩

variable {m : Metered}

section

variable (bps : ℕ) (sat : SessionSocket)

def Metered.step (m : Metered) : MeterEvent → Metered
  | .timer now => if now = m.engine then m else { m with engine := now, accepted := fun _ _ => 0 }
  | .packet buf read =>
    let r := ioaSocketCheckBandwidth m.engine bps sat buf read m.socket
    { m with
      socket := r.2
      accepted :=
        if r.1 then m.accepted.add (isControlTraffic sat buf) read buf.length else m.accepted }

/-- A packet is accepted exactly when what was accepted in this interval, in its direction and
class, leaves room for it. -/
def Metered.Exact (m : Metered) : MeterEvent → Prop
  | .timer _ => True
  | .packet buf read =>
    (ioaSocketCheckBandwidth m.engine bps sat buf read m.socket).1 = true ↔
      m.accepted (isControlTraffic sat buf) read + buf.length ≤ bps

instance (m : Metered) (e : MeterEvent) : Decidable (m.Exact bps sat e) :=
  match e with
  | .timer _ => inferInstanceAs (Decidable True)
  | .packet _ _ => inferInstanceAs (Decidable (_ ↔ _))

/-! ## What is carried over -/

/-- The two intervals, the bytes accepted in this one, and those carried over from earlier ones. -/
structure Intervals where
  engine : UInt32
  last : UInt32
  accepted : ByteCounts
  carried : ByteCounts

variable {t : Intervals}

def Intervals.init (engine : UInt32) : Intervals := ⟨engine, 0, fun _ _ => 0, fun _ _ => 0⟩

/-- What is carried over when a packet of the class has come. -/
def Intervals.kept (t : Intervals) (control : Bool) : ByteCounts := fun control' read' =>
  if t.last ≠ t.engine ∧ control' = control then 0 else t.carried control' read'

/-- A packet is accepted when the interval leaves room for it. -/
def Intervals.step (t : Intervals) : MeterEvent → Intervals
  | .timer now =>
    if now = t.engine then t
    else
      { t with
        engine := now
        accepted := fun _ _ => 0
        carried := fun control read => t.carried control read + t.accepted control read }
  | .packet buf read =>
    let control := isControlTraffic sat buf
    { t with
      last := t.engine
      carried := t.kept control
      accepted :=
        if t.accepted control read + buf.length ≤ bps then t.accepted.add control read buf.length
        else t.accepted }

/-- The packet is the first one of its interval, or what is carried over does not decide about it.
-/
def Intervals.Unaffected (t : Intervals) : MeterEvent → Prop
  | .timer _ => True
  | .packet buf read =>
    let control := isControlTraffic sat buf
    t.last ≠ t.engine ∨
      t.carried control read + t.accepted control read + buf.length ≤ bps ∨
      bps < t.accepted control read + buf.length

/-! ## One packet -/

/-- The counter of a class and a direction. -/
def SocketTraffic.count (s : SocketTraffic) : ByteCounts := fun control read =>
  (if control then s.controlTraffic else s.dataTraffic).count read

/-- The counters that a packet of the class is compared with. -/
def SocketTraffic.base (s : SocketTraffic) (jiffie : UInt32) (control : Bool) : ByteCounts :=
  fun control' read' => if s.jiffie ≠ jiffie ∧ control' = control then 0 else s.count control' read'

lemma TrafficBytes.count_zero (read : Bool) : TrafficBytes.count ⟨0, 0⟩ read = 0 := by
  cases read <;> rfl

lemma SocketTraffic.count_put (s : SocketTraffic) (t : TrafficBytes) (control : Bool) :
    SocketTraffic.count (if control then { s with controlTraffic := t }
      else { s with dataTraffic := t }) = fun control' read' =>
        if control' = control then t.count read' else s.count control' read' := by
  funext control' read'
  cases control <;> cases control' <;> rfl

lemma ioaSocketCheckBandwidth_spec {bps : ℕ} (hbps : 0 < bps) (jiffie : UInt32) (buf : List UInt8)
    (read : Bool) (s : SocketTraffic) :
    ((ioaSocketCheckBandwidth jiffie bps sat buf read s).1 = true ↔
      s.base jiffie (isControlTraffic sat buf) (isControlTraffic sat buf) read + buf.length ≤
        bps) ∧
    (ioaSocketCheckBandwidth jiffie bps sat buf read s).2.jiffie = jiffie ∧
    (ioaSocketCheckBandwidth jiffie bps sat buf read s).2.count =
      if (ioaSocketCheckBandwidth jiffie bps sat buf read s).1 then
        (s.base jiffie (isControlTraffic sat buf)).add (isControlTraffic sat buf) read buf.length
      else s.base jiffie (isControlTraffic sat buf) := by
  have hpos : ¬ bps < 1 := by omega
  simp only [ioaSocketCheckBandwidth, if_neg hpos]
  generalize isControlTraffic sat buf = control
  have hput : ∀ (s : SocketTraffic) (t : TrafficBytes), (if control then
      { s with controlTraffic := t } else { s with dataTraffic := t }).jiffie = s.jiffie := by
    intro s t
    cases control <;> rfl
  by_cases hjiffie : s.jiffie = jiffie
  · have hbase : s.base jiffie control = s.count := by
      funext control' read'
      simp [SocketTraffic.base, hjiffie]
    have hcount : (if control then s.controlTraffic else s.dataTraffic).count read =
        s.count control read := rfl
    rw [if_neg (not_not.mpr hjiffie), hbase, hcount]
    by_cases hover : bps < s.count control read + buf.length
    · rw [if_pos hover]
      simp only [Bool.false_eq_true, if_false, false_iff, hjiffie, and_true]
      omega
    · rw [if_neg hover]
      refine ⟨iff_of_true rfl (by omega), (hput _ _).trans hjiffie, ?_⟩
      simp only [if_true]
      rw [SocketTraffic.count_put]
      funext control' read'
      by_cases hcontrol : control' = control
      · subst hcontrol
        simp only [if_true, TrafficBytes.count_set, ByteCounts.add, true_and]
        by_cases hread : read' = read
        · rw [if_pos hread, if_pos hread, hread]
        · rw [if_neg hread, if_neg hread]
          rfl
      · simp [ByteCounts.add, hcontrol]
  · -- the first packet of an interval: the counters of the class are cleared
    have hbase : s.base jiffie control = fun control' read' =>
        if control' = control then 0 else s.count control' read' := by
      funext control' read'
      simp [SocketTraffic.base, hjiffie]
    rw [if_pos hjiffie, hbase]
    simp only [if_true, Nat.zero_add]
    by_cases hover : bps < buf.length
    · rw [if_pos hover]
      refine ⟨iff_of_false Bool.false_ne_true (by omega), hput { s with jiffie := jiffie } _, ?_⟩
      simp only [Bool.false_eq_true, if_false]
      refine (SocketTraffic.count_put { s with jiffie := jiffie } ⟨0, 0⟩ control).trans ?_
      simp only [TrafficBytes.count_zero]
      rfl
    · rw [if_neg hover]
      refine ⟨iff_of_true rfl (by omega), hput { s with jiffie := jiffie } _, ?_⟩
      simp only [if_true]
      refine (SocketTraffic.count_put { s with jiffie := jiffie } _ control).trans ?_
      funext control' read'
      by_cases hcontrol : control' = control
      · subst hcontrol
        simp [TrafficBytes.count_set, TrafficBytes.count_zero, ByteCounts.add]
      · simp only [ByteCounts.add, hcontrol, false_and, if_false]
        rfl

/-! ## Whole runs -/

/-- The counters are what is carried over and what was accepted in the interval. -/
structure Metered.Split (m : Metered) (t : Intervals) : Prop where
  engine : t.engine = m.engine
  last : t.last = m.socket.jiffie
  accepted : t.accepted = m.accepted
  count : ∀ control read,
    m.socket.count control read = t.carried control read + t.accepted control read
  fresh : t.last ≠ t.engine → ∀ control read, t.accepted control read = 0

lemma Metered.Split.init (engine : UInt32) : (Metered.init engine).Split (.init engine) where
  engine := rfl
  last := rfl
  accepted := rfl
  count control read := by cases control <;> cases read <;> rfl
  fresh _ _ _ := rfl

variable {bps} {sat}

lemma Metered.Split.base (h : m.Split t) (control control' read : Bool) :
    m.socket.base m.engine control control' read =
      t.kept control control' read + t.accepted control' read := by
  rw [SocketTraffic.base, Intervals.kept, ← h.engine, ← h.last]
  by_cases hfirst : t.last ≠ t.engine ∧ control' = control
  · rw [if_pos hfirst, if_pos hfirst, h.fresh hfirst.1]
  · rw [if_neg hfirst, if_neg hfirst, h.count]

lemma Metered.Split.exact_iff (hbps : 0 < bps) (h : m.Split t) (e : MeterEvent) :
    m.Exact bps sat e ↔ t.Unaffected bps sat e := by
  cases e with
  | timer now => exact Iff.rfl
  | packet buf read =>
    rw [Metered.Exact, (ioaSocketCheckBandwidth_spec sat hbps _ buf read _).1, h.base, ← h.accepted]
    simp only [Intervals.Unaffected, Intervals.kept, and_true]
    split_ifs with hfirst
    · simp [hfirst]
    · simp only [hfirst, false_or]
      omega

lemma Metered.Split.step (hbps : 0 < bps) (h : m.Split t) (e : MeterEvent)
    (hexact : m.Exact bps sat e) : (m.step bps sat e).Split (t.step bps sat e) := by
  cases e with
  | timer now =>
    rw [Metered.step, Intervals.step, h.engine]
    split_ifs with hsame
    · exact h
    · refine ⟨rfl, h.last, rfl, fun control read => ?_, fun _ _ _ => rfl⟩
      rw [h.count, Nat.add_zero]
  | packet buf read =>
    obtain ⟨-, hjiffie, hcount⟩ := ioaSocketCheckBandwidth_spec sat hbps m.engine buf read m.socket
    have hsame : (if (ioaSocketCheckBandwidth m.engine bps sat buf read m.socket).1 = true then
        m.accepted.add (isControlTraffic sat buf) read buf.length else m.accepted) =
          (t.step bps sat (.packet buf read)).accepted := by
      rw [Metered.Exact, ← h.accepted] at hexact
      simp only [Intervals.step, hexact, h.accepted]
    refine ⟨h.engine, h.engine.trans hjiffie.symm, hsame.symm, fun control' read' => ?_,
      fun hne => ?_⟩
    · rw [← hsame]
      show (ioaSocketCheckBandwidth m.engine bps sat buf read m.socket).2.count control' read' =
        t.kept (isControlTraffic sat buf) control' read' + _
      rw [hcount, ← h.accepted]
      split_ifs
      · simp only [ByteCounts.add]
        split_ifs
        · rw [h.base, Nat.add_assoc]
        · rw [h.base]
      · rw [h.base]
    · exact absurd rfl hne

/-- The timer does not set the interval of the last packet again after another one. -/
def Intervals.NoReturn (t : Intervals) : MeterEvent → Prop
  | .timer now => now = t.engine ∨ now ≠ t.last
  | .packet _ _ => True

/-- No data is carried over, or the next packet will clear it. -/
def Intervals.DataFresh (t : Intervals) : Prop :=
  t.last ≠ t.engine ∨ ∀ read, t.carried false read = 0

/-- On a relay socket all traffic is data, so the first packet of an interval clears what it is
compared with. -/
lemma unaffected_of_relay (hsat : sat ≠ .client) {es : List MeterEvent}
    (hreturn : Machine.Along (Intervals.step bps sat) Intervals.NoReturn t es) (ht : t.DataFresh) :
    Machine.Along (Intervals.step bps sat) (Intervals.Unaffected bps sat) t es := by
  refine Machine.along_of_invariant (fun t e (ht : t.DataFresh) he => ?_) hreturn ht
  cases e with
  | timer now =>
    refine ⟨?_, trivial⟩
    rw [Intervals.step]
    split_ifs with hsame
    · exact ht
    · exact Or.inl (he.resolve_left hsame).symm
  | packet buf read =>
    have hdata : isControlTraffic sat buf = false := by simp [isControlTraffic, hsat]
    refine ⟨Or.inr fun read' => ?_, ?_⟩
    · show t.kept (isControlTraffic sat buf) false read' = 0
      rw [Intervals.kept, hdata]
      split_ifs with hfirst
      · rfl
      · exact ht.resolve_left (fun hne => hfirst ⟨hne, rfl⟩) read'
    · simp only [Intervals.Unaffected, hdata]
      rcases ht with hne | hzero
      · exact Or.inl hne
      · rw [hzero read]
        omega

end

/-- The check is exact on all packets of a run when none of them is affected by what is carried
over, and only then. -/
theorem bandwidth_check_exact_iff (bps : ℕ) (hbps : 0 < bps) (sat : SessionSocket) (engine : UInt32)
    (es : List MeterEvent) :
    Machine.Along (Metered.step bps sat) (Metered.Exact bps sat) (.init engine) es ↔
      Machine.Along (Intervals.step bps sat) (Intervals.Unaffected bps sat) (.init engine) es :=
  Machine.along_iff_of_simulation (fun _ _ e h => h.exact_iff hbps e)
    (fun _ _ e h hexact => h.step hbps e hexact) (Metered.Split.init engine) es

/-- A relay socket of a session with 100 bytes an interval. -/
theorem bandwidth_check_exact_relay :
    Machine.Along (Metered.step 100 .relay) (Metered.Exact 100 .relay) (.init 1)
      [.packet (List.replicate 60 0) true, .packet (List.replicate 60 0) true, .timer 2,
        .packet (List.replicate 60 0) true] :=
  (bandwidth_check_exact_iff 100 (by decide) .relay 1 _).mpr
    (unaffected_of_relay (by decide) ⟨trivial, trivial, Or.inr (by decide), trivial, trivial⟩
      (Or.inr fun _ => rfl))

/-- After a Binding request in the second interval the data of the first one still counts. -/
theorem bandwidth_check_carries_over :
    ¬ Machine.Along (Metered.step 100 .client) (Metered.Exact 100 .client) (.init 1)
      [.packet (List.replicate 60 0) true, .timer 2,
        .packet (stunInitRequest stunMethodBinding (List.replicate 12 0)) true,
        .packet (List.replicate 60 0) true] := by
  decide

end Coturn
