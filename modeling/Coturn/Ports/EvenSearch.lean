/-
# The search for an even port

`turnports_allocate_even` takes ports from the head of the queue and returns those that cannot be
the first of a pair to the tail, for as many rounds as the queue had entries. Every round moves the
head on, so a pair whose first port stands in the queue is found in time.
-/
import Coturn.Ports.IpPorts

namespace Coturn

open Turnports

variable {start stop : Nat} {tp : Turnports}

/-- Two ports of the range, the first one even and both available. -/
structure Turnports.FreePair (tp : Turnports) (q : Nat) : Prop where
  even : q % 2 = 0
  first_mem : tp.InRange q
  second_mem : tp.InRange (q + 1)
  first : turnportsIsAvailable tp q = true
  second : turnportsIsAvailable tp (q + 1) = true

lemma Turnports.Sound.isAvailable_iff (h : tp.Sound) {p : Nat} (hrange : tp.InRange p) :
    turnportsIsAvailable tp p = true ↔ ¬ tp.Taken p := by
  refine ⟨fun hav htaken => ?_, h.isAvailable hrange⟩
  have htaken : isTaken (tp.status p) = true := htaken
  simp [turnportsIsAvailable, htaken] at hav

lemma turnportsIsAvailable_popAt (l : Nat) :
    turnportsIsAvailable (tp.popAt l) (tp.entry l + 1) =
      turnportsIsAvailable tp (tp.entry l + 1) := by
  have hstatus : (tp.popAt l).status (tp.entry l + 1) = tp.status (tp.entry l + 1) :=
    Function.update_of_ne (by omega) _ _
  simp only [turnportsIsAvailable, hstatus, popAt_ports]

/-! ## A round that returns its port -/

lemma Turnports.status_rotate {l p : Nat} (hp : p ≠ tp.entry l) :
    ((tp.popAt l).pushPort (tp.entry l)).status p = tp.status p := by
  simp [pushPort, popAt, hp]

lemma Turnports.FreePair.rotate (h : tp.Sound) {l : Nat} (hlive : tp.Live l)
    (hhigh : tp.high < tpsTakenOdd) (hnew : ((tp.popAt l).pushPort (tp.entry l)).Sound) {q : Nat} :
    ((tp.popAt l).pushPort (tp.entry l)).FreePair q ↔ tp.FreePair q := by
  have hsame : ∀ p, tp.InRange p → (turnportsIsAvailable ((tp.popAt l).pushPort (tp.entry l)) p =
      true ↔ turnportsIsAvailable tp p = true) := by
    intro p hp
    rw [h.isAvailable_iff hp, hnew.isAvailable_iff hp, taken_rotate hlive hhigh]
  constructor
  · rintro ⟨heven, h₁, h₂, hav₁, hav₂⟩
    exact ⟨heven, h₁, h₂, (hsame q h₁).mp hav₁, (hsame (q + 1) h₂).mp hav₂⟩
  · rintro ⟨heven, h₁, h₂, hav₁, hav₂⟩
    exact ⟨heven, h₁, h₂, (hsame q h₁).mpr hav₁, (hsame (q + 1) h₂).mpr hav₂⟩

/-! ## The search -/

/-- A free pair is found when there are at least as many rounds as entries up to its first port. -/
lemma turnportsAllocateEvenLoop_finds (rnd : Nat) {n q : Nat} (h : tp.Sound)
    (hcount : tp.high + n ≤ tpsTakenOdd) (hpair : tp.FreePair q)
    (hnear : tp.status q < tp.low + n) :
    ∃ port : Nat, (turnportsAllocateEvenLoop rnd n tp).1 = port := by
  have hfree := (h.isAvailable_iff hpair.first_mem).mp hpair.first
  obtain ⟨hlow, -, hcell⟩ := h.status_mem hpair.first_mem hfree
  induction n generalizing tp with
  | zero => omega
  | succ n ih =>
    obtain ⟨l, hl, hskip, ⟨hfail, -, -⟩ | ⟨hlt, hrange, hlive, ⟨hnot, heq⟩ | ⟨-, -, -, heq⟩⟩⟩ :=
      turnportsAllocateEvenLoop_cases rnd n h.high_lt h.rangeStop_lt
    · exact absurd (turnportsAllocate_eq_neg_one h hfail hpair.first_mem) hfree
    · -- the port that is returned is not the first one of the pair
      have hne : q ≠ tp.entry l := by
        rintro rfl
        refine hnot ⟨hpair.even, hpair.second_mem.2, ?_⟩
        rw [turnportsIsAvailable_popAt]
        exact hpair.second
      -- so its entry stands behind the head
      have hbehind : l < tp.status q := by
        have hentry : tp.entry (tp.status q) = q := hcell
        have hqlive : tp.Live (tp.status q) := ⟨by rwa [hentry], by rw [hentry]⟩
        rcases Nat.lt_trichotomy (tp.status q) l with hbefore | hat | hafter
        · exact absurd hqlive (hskip _ hlow hbefore).2.2
        · exact absurd (hat ▸ hentry).symm hne
        · exact hafter
      have hmark : tp.high < tpsTakenOdd := by omega
      have hnew := h.rotate hl hskip hlt hrange hlive hmark
      have hstatus := Turnports.status_rotate hne
      have hpair' := (FreePair.rotate h hlive hmark hnew).mpr hpair
      have hfree' := (hnew.isAvailable_iff hpair'.first_mem).mp hpair'.first
      obtain ⟨hlow', -, hcell'⟩ := hnew.status_mem hpair'.first_mem hfree'
      rw [heq]
      refine ih hnew ?_ hpair' ?_ hfree' hlow' hcell'
      · show (tp.high + 1) % 4294967296 + n ≤ tpsTakenOdd
        have := Nat.mod_le (tp.high + 1) 4294967296
        omega
      · rw [hstatus]
        show tp.status q < l + 1 + n
        omega
    · exact ⟨_, by rw [heq]⟩

/-! ## Runs of the pool -/

/-- The counter `high` is far enough from its end. -/
def Turnports.LowCounter (tp : Turnports) : Prop := tp.high < 2 ^ 32 - 2 ^ 17
  deriving Decidable

/-- The pool of a range of at most 40000 ports. -/
structure Turnports.SmallPool (start stop : Nat) (tp : Turnports) : Prop where
  sound : tp.Sound
  rangeStart_eq : tp.rangeStart = start
  rangeStop_eq : tp.rangeStop = stop
  small : stop + 1 - start ≤ 40000

lemma Turnports.SmallPool.fits (h : tp.SmallPool start stop) (hlow : tp.LowCounter) (op : PoolOp) :
    tp.Fits op := by
  have hsmall := h.small
  have hhigh : tp.high < 2 ^ 32 - 2 ^ 17 := hlow
  cases op with
  | allocate => trivial
  | allocateEven rnd =>
    have hsize : turnportsSize tp < 65536 := Nat.mod_lt _ (by decide)
    show tp.high + turnportsSize tp ≤ tpsTakenOdd
    simp only [tpsTakenOdd]
    omega
  | release port =>
    intro _ _
    refine ⟨by simp only [tpsTakenOdd]; omega, Or.inl ?_⟩
    rw [h.rangeStart_eq, h.rangeStop_eq]
    omega

lemma Turnports.SmallPool.step (h : tp.SmallPool start stop) {op : PoolOp} (hlow : tp.LowCounter) :
    (tp.step op).SmallPool start stop := by
  have hfits := h.fits hlow op
  obtain ⟨hstart, hstop⟩ := (PoolOp.outcome h.sound hfits).range
  exact ⟨h.sound.after hfits, hstart.trans h.rangeStart_eq, hstop.trans h.rangeStop_eq, h.small⟩

lemma Turnports.SmallPool.size_eq (h : tp.SmallPool start stop) :
    turnportsSize tp = tp.high - tp.low := by
  have hsmall := h.small
  have hlen := h.sound.length_le fun p hp _ => Finset.mem_Icc.mpr hp
  rw [Nat.card_Icc, h.rangeStart_eq, h.rangeStop_eq] at hlen
  have hle : tp.low ≤ tp.high := h.sound.ring.low_le_high
  rw [turnportsSize, if_pos hle]
  omega

/-- The port that is found starts a free pair, and both its ports are taken then. -/
lemma Turnports.SmallPool.allocateEven_found (h : tp.SmallPool start stop) (hlow : tp.LowCounter)
    (rnd port : Nat) (hport : (turnportsAllocateEven rnd tp).1 = port) : tp.FreePair port ∧
      (turnportsAllocateEven rnd tp).2.2.Taken port ∧
      (turnportsAllocateEven rnd tp).2.2.Taken (port + 1) := by
  have hcount : tp.high + turnportsSize tp ≤ tpsTakenOdd := h.fits hlow (.allocateEven rnd)
  obtain ⟨⟨heven, hfirst, hsecond⟩, ⟨hfree, hfree'⟩, htaken⟩ :=
    (turnportsAllocateEven_outcome rnd h.sound hcount).found port hport
  refine ⟨⟨heven, hfirst, hsecond, h.sound.isAvailable hfirst hfree,
    h.sound.isAvailable hsecond hfree'⟩, (htaken _).mpr ?_, (htaken _).mpr ?_⟩ <;> simp

lemma Turnports.SmallPool.allocateEven_finds (h : tp.SmallPool start stop) (hlow : tp.LowCounter)
    (rnd : Nat) {q : Nat} (hpair : tp.FreePair q) :
    ∃ port : Nat, (turnportsAllocateEven rnd tp).1 = port := by
  have hcount : tp.high + turnportsSize tp ≤ tpsTakenOdd := h.fits hlow (.allocateEven rnd)
  -- both ports of the pair stand in the queue, so it has two entries
  have hfirst := h.sound.status_mem hpair.first_mem
    ((h.sound.isAvailable_iff hpair.first_mem).mp hpair.first)
  have hsecond := h.sound.status_mem hpair.second_mem
    ((h.sound.isAvailable_iff hpair.second_mem).mp hpair.second)
  have hne : tp.status q ≠ tp.status (q + 1) := by
    intro heq
    rw [heq, hsecond.2.2] at hfirst
    omega
  have hsize := h.size_eq
  rw [turnportsAllocateEven, if_pos (show turnportsSize tp > 1 by omega)]
  exact turnportsAllocateEvenLoop_finds rnd h.sound hcount hpair (by omega)

/-- In a range of at most 40000 ports, while the counter stays low, an even port is returned exactly
when there is a free pair, and it is such a pair. -/
theorem turnports_allocate_even_complete (rnd₀ : Nat → Nat) (start stop : Nat) (hle : start ≤ stop)
    (hstop : stop ≤ 65535) (hsmall : stop + 1 - start ≤ 40000) (ops : List PoolOp)
    (hops : Machine.Along Turnports.step (fun tp _ => tp.LowCounter)
      (turnportsInit rnd₀ start stop) ops)
    (hlow : (Machine.run Turnports.step (turnportsInit rnd₀ start stop) ops).LowCounter)
    (rnd : Nat) :
    let tp := Machine.run Turnports.step (turnportsInit rnd₀ start stop) ops
    ((∃ port : Nat, (turnportsAllocateEven rnd tp).1 = port) ↔ ∃ q, tp.FreePair q) ∧
      ∀ port : Nat, (turnportsAllocateEven rnd tp).1 = port → tp.FreePair port ∧
        (turnportsAllocateEven rnd tp).2.2.Taken port ∧
        (turnportsAllocateEven rnd tp).2.2.Taken (port + 1) := by
  intro tp
  have hshuffled := turnportsInit_shuffled rnd₀ hle (show stop < 65536 by omega)
  have hinit : (turnportsInit rnd₀ start stop).SmallPool start stop :=
    ⟨hshuffled.sound hle hstop, hshuffled.rangeStart_eq, hshuffled.rangeStop_eq, hsmall⟩
  have hpool : tp.SmallPool start stop :=
    Machine.run_invariant (fun _ _ h hlow => h.step hlow) hops hinit
  have hfound := hpool.allocateEven_found hlow rnd
  exact ⟨⟨fun hport => hport.imp fun port h => (hfound port h).1,
    fun ⟨_, hpair⟩ => hpool.allocateEven_finds hlow rnd hpair⟩, hfound⟩

/-- After one port of four has been taken, an even port is found. -/
theorem turnports_allocate_even_complete_four :
    (∃ port : Nat, (turnportsAllocateEven 0 (Machine.run Turnports.step
      (turnportsInit swapSecondThird 49152 49155) [.allocate])).1 = port) ∧
    ∃ q, (Machine.run Turnports.step (turnportsInit swapSecondThird 49152 49155)
      [.allocate]).FreePair q := by
  have hpair : (Machine.run Turnports.step (turnportsInit swapSecondThird 49152 49155)
      [.allocate]).FreePair 49154 := by
    refine ⟨?_, ?_, ?_, ?_, ?_⟩ <;> decide +kernel
  exact ⟨(turnports_allocate_even_complete swapSecondThird 49152 49155 (by decide) (by decide)
    (by decide) [.allocate] (by decide +kernel) (by decide +kernel) 0).1.mpr ⟨_, hpair⟩, _, hpair⟩

end Coturn
