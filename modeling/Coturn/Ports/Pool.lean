/-
# The pool of relay ports

The port pool of `apps/relay/turn_ports.c`. `status` holds for every port its position in the queue
of free ports or one of four marks above all positions; `ports` is the ring of 65536 cells with the
queue, and `low` and `high` are its ends, counters of 32 bits. The second half says once what each
operation can do to a pool.
-/
import Mathlib.Logic.Function.Basic
import Mathlib.Data.Int.Init
import Mathlib.Order.Basic
import Mathlib.Tactic.Common

namespace Coturn

/-- `TPS_OUT_OF_RANGE`, `(uint32_t)(-1)`. -/
def tpsOutOfRange : Nat := 4294967295

/-- `TPS_TAKEN_SINGLE`, `(uint32_t)(-2)`. -/
def tpsTakenSingle : Nat := 4294967294

/-- `TPS_TAKEN_EVEN`, `(uint32_t)(-3)`. -/
def tpsTakenEven : Nat := 4294967293

/-- `TPS_TAKEN_ODD`, `(uint32_t)(-4)`. -/
def tpsTakenOdd : Nat := 4294967292

/-- `turnports` without its lock. -/
structure Turnports where
  status : Nat → Nat
  low : Nat
  high : Nat
  rangeStart : Nat
  rangeStop : Nat
  ports : Nat → Nat

def isTaken (status : Nat) : Bool :=
  status == tpsTakenSingle || status == tpsTakenEven || status == tpsTakenOdd

/-! ## Creation -/

/-- One cycle of `turnports_randomize`, with the two random numbers it draws. -/
def turnportsSwap (tp : Turnports) (r₁ r₂ : Nat) : Turnports :=
  let size := tp.high - tp.low
  let port₁ := (tp.low + r₁ % size % 65536) % 65536
  let port₂ := (tp.low + r₂ % size % 65536) % 65536
  if port₁ ≠ port₂ then
    let pos₁ := tp.status port₁
    let pos₂ := tp.status port₂
    { tp with
      status := Function.update (Function.update tp.status port₁ pos₂) port₂ pos₁
      ports := Function.update (Function.update tp.ports pos₁ (tp.ports pos₂)) pos₂
        (tp.ports pos₁) }
  else tp

/-- The pool after `n` cycles of `turnports_randomize`; `rnd` is what `turn_random_number` returns.
-/
def turnportsRandomizeLoop (rnd : Nat → Nat) (tp : Turnports) : Nat → Turnports
  | 0 => tp
  | n + 1 => turnportsSwap (turnportsRandomizeLoop rnd tp n) (rnd (2 * n)) (rnd (2 * n + 1))

/-- The queue is shuffled. -/
def turnportsRandomize (rnd : Nat → Nat) (tp : Turnports) : Turnports :=
  turnportsRandomizeLoop rnd tp ((tp.high - tp.low) * 10)

/-- The pool that the three filling loops of `turnports_init` leave: every port of the range
stands in its own cell. -/
def turnportsFill (start stop : Nat) : Turnports where
  status i := if start ≤ i ∧ i ≤ stop then i else tpsOutOfRange
  low := start
  high := stop + 1
  rangeStart := start
  rangeStop := stop
  ports i := i

/-- A full pool, shuffled. -/
def turnportsInit (rnd : Nat → Nat) (start stop : Nat) : Turnports :=
  turnportsRandomize rnd (turnportsFill start stop)

def turnportsCreate (rnd : Nat → Nat) (start stop : Nat) : Option Turnports :=
  if start > stop then none else some (turnportsInit rnd start stop)

/-! ## Operations -/

def Turnports.nextLow (tp : Turnports) : Turnports := { tp with low := (tp.low + 1) % 4294967296 }

/-- The uint32_t difference of the counters, cut to a uint16_t. -/
def turnportsSize (tp : Turnports) : Nat :=
  (if tp.low ≤ tp.high then tp.high - tp.low else 4294967296 - (tp.low - tp.high)) % 65536

/-- The loop of `turnports_allocate`. It moves `low` towards `high` in every round, so
`high - low` rounds are enough. -/
def turnportsAllocateLoop : Nat → Turnports → Int × Turnports
  | 0, tp => (-1, tp)
  | n + 1, tp =>
    if tp.high ≤ tp.low then (-1, tp)
    else
      let port := tp.ports (tp.low % 65536)
      if port < tp.rangeStart ∨ port > tp.rangeStop then (-1, tp)
      else if isTaken (tp.status port) then turnportsAllocateLoop n tp.nextLow
      else if tp.status port ≠ tp.low then turnportsAllocateLoop n tp.nextLow
      else (port, { tp.nextLow with status := Function.update tp.status port tpsTakenSingle })

/-- A port, or -1. -/
def turnportsAllocate (tp : Turnports) : Int × Turnports :=
  turnportsAllocateLoop (tp.high - tp.low) tp

/-- A taken port returns to the tail. -/
def turnportsRelease (tp : Turnports) (port : Nat) : Turnports :=
  if port ≥ tp.rangeStart ∧ port ≤ tp.rangeStop then
    if isTaken (tp.status port) then
      { tp with
        status := Function.update tp.status port tp.high
        ports := Function.update tp.ports (tp.high % 65536) port
        high := (tp.high + 1) % 4294967296 }
    else tp
  else tp

def turnportsIsAvailable (tp : Turnports) (port : Nat) : Bool :=
  let status := tp.status port
  if status != tpsOutOfRange && !isTaken status then tp.ports (status % 65536) == port
  else false

/-- Two cells of the ring and a random number, as the bytes of a little-endian uint64_t. -/
def reservationToken (tp : Turnports) (rnd : Nat) : Nat :=
  tp.ports (tp.low % 65536) + tp.ports (tp.high % 65536) * 65536 + rnd % 4294967296 * 4294967296

/-- The loop of `turnports_allocate_even`. When `turnports_allocate` fails, the port -1 is odd, and
the port given back is `(uint16_t)(-1)`. -/
def turnportsAllocateEvenLoop (rnd : Nat) : Nat → Turnports → Int × Nat × Turnports
  | 0, tp => (-1, 0, tp)
  | n + 1, tp =>
    let port := (turnportsAllocate tp).1
    let tp₁ := (turnportsAllocate tp).2
    if port % 2 ≠ 0 then
      turnportsAllocateEvenLoop rnd n (turnportsRelease tp₁ (port % 65536).toNat)
    else
      let rtcpPort := port.toNat + 1
      if rtcpPort > tp₁.rangeStop then
        turnportsAllocateEvenLoop rnd n (turnportsRelease tp₁ port.toNat)
      else if !turnportsIsAvailable tp₁ rtcpPort then
        turnportsAllocateEvenLoop rnd n (turnportsRelease tp₁ port.toNat)
      else
        (port, reservationToken tp₁ rnd,
          { tp₁ with
            status := Function.update (Function.update tp₁.status port.toNat tpsTakenEven)
              rtcpPort tpsTakenOdd })

/-- The port (or -1), the reservation token and the pool afterwards. -/
def turnportsAllocateEven (rnd : Nat) (tp : Turnports) : Int × Nat × Turnports :=
  let size := turnportsSize tp
  if size > 1 then turnportsAllocateEvenLoop rnd size tp else (-1, 0, tp)

/-! ## What the operations can do -/

variable (x : Nat)

namespace Turnports

variable (tp : Turnports)

/-- The port belongs to the pool. -/
def InRange (port : Nat) : Prop := tp.rangeStart ≤ port ∧ port ≤ tp.rangeStop
  deriving Decidable

/-- A port that has been handed out and not been given back. -/
def Taken (port : Nat) : Prop := isTaken (tp.status port) = true
  deriving Decidable

/-- The port in the ring cell of a queue position. -/
def entry (x : Nat) : Nat := tp.ports (x % 65536)

/-- The entry at `x` is the one that its port points to. -/
def Live (x : Nat) : Prop := ¬ tp.Taken (tp.entry x) ∧ tp.status (tp.entry x) = x

/-- The entries before `l` are in the queue, and none is live. -/
def PassesTo (l : Nat) : Prop :=
  ∀ x, tp.low ≤ x → x < l → x < tp.high ∧ tp.InRange (tp.entry x) ∧ ¬ tp.Live x

/-- The first live entry leaves the queue. -/
def popAt (x : Nat) : Turnports :=
  { tp with status := Function.update tp.status (tp.entry x) tpsTakenSingle, low := x + 1 }

/-- The port returns to the tail. -/
def pushPort (port : Nat) : Turnports :=
  { tp with
    status := Function.update tp.status port tp.high
    ports := Function.update tp.ports (tp.high % 65536) port
    high := (tp.high + 1) % 4294967296 }

/-- The pair is taken. -/
def markPair (port : Nat) : Turnports :=
  { tp with
    status := Function.update (Function.update tp.status port tpsTakenEven) (port + 1)
      tpsTakenOdd }

variable {tp}

@[simp] lemma popAt_high : (tp.popAt x).high = tp.high := rfl

lemma pushPort_high_le (port : Nat) : (tp.pushPort port).high ≤ tp.high + 1 := Nat.mod_le _ _

@[simp] lemma popAt_ports : (tp.popAt x).ports = tp.ports := rfl

@[simp] lemma popAt_rangeStart : (tp.popAt x).rangeStart = tp.rangeStart := rfl

@[simp] lemma popAt_rangeStop : (tp.popAt x).rangeStop = tp.rangeStop := rfl

end Turnports

open Turnports

variable {tp : Turnports}

/-- The loop passes over entries that are not live; then it fails or takes a live entry. -/
lemma turnportsAllocateLoop_cases {n : Nat} (hn : tp.high - tp.low ≤ n)
    (hhigh : tp.high < 4294967296) :
    ∃ l, tp.low ≤ l ∧ tp.PassesTo l ∧
      ((turnportsAllocateLoop n tp = (-1, { tp with low := l }) ∧
          (tp.high ≤ l ∨ ¬ tp.InRange (tp.entry l))) ∨
        (l < tp.high ∧ tp.InRange (tp.entry l) ∧ tp.Live l ∧
          turnportsAllocateLoop n tp = ((tp.entry l : Int), tp.popAt l))) := by
  induction n generalizing tp with
  | zero =>
    refine ⟨tp.low, Nat.le_refl _, fun x hx hxl => by omega, Or.inl ⟨rfl, Or.inl (by omega)⟩⟩
  | succ n ih =>
    by_cases hend : tp.high ≤ tp.low
    · refine ⟨tp.low, Nat.le_refl _, fun x hx hxl => by omega, Or.inl ⟨?_, Or.inl hend⟩⟩
      simp [turnportsAllocateLoop, hend]
    by_cases hrange : tp.InRange (tp.entry tp.low)
    swap
    · refine ⟨tp.low, Nat.le_refl _, fun x hx hxl => by omega, Or.inl ⟨?_, Or.inr hrange⟩⟩
      have hout : tp.ports (tp.low % 65536) < tp.rangeStart ∨
          tp.ports (tp.low % 65536) > tp.rangeStop := by
        simp only [InRange, entry] at hrange
        omega
      simp [turnportsAllocateLoop, hend, hout]
    have hin : ¬ (tp.ports (tp.low % 65536) < tp.rangeStart ∨
        tp.ports (tp.low % 65536) > tp.rangeStop) := by
      simp only [InRange, entry] at hrange
      omega
    have hwrap : (tp.low + 1) % 4294967296 = tp.low + 1 := Nat.mod_eq_of_lt (by omega)
    by_cases hlive : tp.Live tp.low
    · refine ⟨tp.low, Nat.le_refl _, fun x hx hxl => by omega, Or.inr ⟨by omega, hrange, hlive, ?_⟩⟩
      obtain ⟨htaken, hstatus⟩ := hlive
      simp only [Taken, entry] at htaken hstatus
      rw [hstatus] at htaken
      simp [turnportsAllocateLoop, hend, hin, htaken, hstatus, nextLow, popAt, entry, hwrap]
    · -- the head is passed over, and the rest of the loop runs on the shorter queue
      have hstep : turnportsAllocateLoop (n + 1) tp = turnportsAllocateLoop n tp.nextLow := by
        by_cases htaken : isTaken (tp.status (tp.ports (tp.low % 65536))) = true
        · simp [turnportsAllocateLoop, hend, hin, htaken]
        · have hne : tp.status (tp.ports (tp.low % 65536)) ≠ tp.low :=
            fun h => hlive ⟨htaken, h⟩
          simp [turnportsAllocateLoop, hend, hin, htaken, hne]
      have hlow : tp.nextLow.low = tp.low + 1 := hwrap
      obtain ⟨l, hl, hskip, hres⟩ := @ih tp.nextLow
        (by rw [hlow]; show tp.high - (tp.low + 1) ≤ n; omega) hhigh
      rw [hlow] at hl
      refine ⟨l, by omega, fun x hx hxl => ?_, ?_⟩
      · by_cases hxlow : x = tp.low
        · subst hxlow
          exact ⟨by omega, hrange, hlive⟩
        · exact hskip x (by omega) hxl
      · rw [hstep]
        exact hres

lemma turnportsAllocate_cases (hhigh : tp.high < 4294967296) :
    ∃ l, tp.low ≤ l ∧ tp.PassesTo l ∧
      ((turnportsAllocate tp = (-1, { tp with low := l }) ∧
          (tp.high ≤ l ∨ ¬ tp.InRange (tp.entry l))) ∨
        (l < tp.high ∧ tp.InRange (tp.entry l) ∧ tp.Live l ∧
          turnportsAllocate tp = ((tp.entry l : Int), tp.popAt l))) :=
  turnportsAllocateLoop_cases (Nat.le_refl _) hhigh

lemma turnportsRelease_cases (tp : Turnports) (port : Nat) :
    (tp.InRange port ∧ tp.Taken port ∧ turnportsRelease tp port = tp.pushPort port) ∨
      ((¬ tp.InRange port ∨ ¬ tp.Taken port) ∧ turnportsRelease tp port = tp) := by
  by_cases hrange : tp.InRange port
  · have hguard : port ≥ tp.rangeStart ∧ port ≤ tp.rangeStop := hrange
    by_cases htaken : tp.Taken port
    · refine Or.inl ⟨hrange, htaken, ?_⟩
      have htaken' : isTaken (tp.status port) = true := htaken
      simp [turnportsRelease, hguard, htaken', pushPort]
    · refine Or.inr ⟨Or.inr htaken, ?_⟩
      have htaken' : isTaken (tp.status port) = false := by simpa [Taken] using htaken
      simp [turnportsRelease, htaken']
  · refine Or.inr ⟨Or.inl hrange, ?_⟩
    have hguard : ¬ (port ≥ tp.rangeStart ∧ port ≤ tp.rangeStop) := hrange
    simp [turnportsRelease, hguard]

@[simp] lemma isTaken_single : isTaken tpsTakenSingle = true := rfl

@[simp] lemma isTaken_even : isTaken tpsTakenEven = true := rfl

@[simp] lemma isTaken_odd : isTaken tpsTakenOdd = true := rfl

lemma isTaken_eq_false_of_lt {s : Nat} (h : s < tpsTakenOdd) : isTaken s = false := by
  simp only [isTaken, tpsTakenSingle, tpsTakenEven, tpsTakenOdd, Bool.or_eq_false_iff,
    beq_eq_false_iff_ne] at h ⊢
  omega

lemma turnportsRelease_popAt {l : Nat} (hrange : tp.InRange (tp.entry l)) :
    turnportsRelease (tp.popAt l) (tp.entry l) = (tp.popAt l).pushPort (tp.entry l) := by
  rcases turnportsRelease_cases (tp.popAt l) (tp.entry l) with ⟨-, -, h⟩ | ⟨hno | hno, -⟩
  · exact h
  · exact absurd hrange hno
  · exact absurd (show isTaken _ = true by simp [popAt]) hno

/-- One round gives 65535 back, or takes a live entry, which is paired or returns to the tail. -/
lemma turnportsAllocateEvenLoop_cases (rnd n : Nat) (hhigh : tp.high < 4294967296)
    (hstop : tp.rangeStop < 65536) :
    ∃ l, tp.low ≤ l ∧ tp.PassesTo l ∧
      (((turnportsAllocate tp).1 = -1 ∧ (tp.high ≤ l ∨ ¬ tp.InRange (tp.entry l)) ∧
          turnportsAllocateEvenLoop rnd (n + 1) tp =
            turnportsAllocateEvenLoop rnd n (turnportsRelease { tp with low := l } 65535)) ∨
        (l < tp.high ∧ tp.InRange (tp.entry l) ∧ tp.Live l ∧
          ((¬ (tp.entry l % 2 = 0 ∧ tp.entry l + 1 ≤ tp.rangeStop ∧
                turnportsIsAvailable (tp.popAt l) (tp.entry l + 1) = true) ∧
              turnportsAllocateEvenLoop rnd (n + 1) tp =
                turnportsAllocateEvenLoop rnd n ((tp.popAt l).pushPort (tp.entry l))) ∨
            (tp.entry l % 2 = 0 ∧ tp.entry l + 1 ≤ tp.rangeStop ∧
              turnportsIsAvailable (tp.popAt l) (tp.entry l + 1) = true ∧
              turnportsAllocateEvenLoop rnd (n + 1) tp =
                ((tp.entry l : Int), reservationToken (tp.popAt l) rnd,
                  (tp.popAt l).markPair (tp.entry l)))))) := by
  obtain ⟨l, hl, hskip, ⟨halloc, hfail⟩ | ⟨hlt, hrange, hlive, halloc⟩⟩ :=
    turnportsAllocate_cases hhigh
  · refine ⟨l, hl, hskip, Or.inl ⟨by rw [halloc], hfail, ?_⟩⟩
    simp [turnportsAllocateEvenLoop, halloc]
  · refine ⟨l, hl, hskip, Or.inr ⟨hlt, hrange, hlive, ?_⟩⟩
    have hback := turnportsRelease_popAt hrange
    have hcast : ((tp.entry l : Int) % 65536).toNat = tp.entry l := by
      have := hrange.2
      omega
    by_cases hodd : (tp.entry l : Int) % 2 ≠ 0
    · refine Or.inl ⟨fun h => by omega, ?_⟩
      simp only [turnportsAllocateEvenLoop, halloc, if_pos hodd, hcast, hback]
    by_cases hstop' : tp.entry l + 1 > tp.rangeStop
    · refine Or.inl ⟨fun h => by omega, ?_⟩
      simp only [turnportsAllocateEvenLoop, halloc, if_neg hodd, Int.toNat_natCast,
        popAt_rangeStop, if_pos hstop', hback]
    by_cases hav : turnportsIsAvailable (tp.popAt l) (tp.entry l + 1) = true
    · right
      refine ⟨by omega, by omega, hav, ?_⟩
      simp only [turnportsAllocateEvenLoop, halloc, if_neg hodd, Int.toNat_natCast,
        popAt_rangeStop, if_neg hstop', hav, Bool.not_true, Bool.false_eq_true, if_false]
      rfl
    · refine Or.inl ⟨fun h => hav h.2.2, ?_⟩
      simp only [turnportsAllocateEvenLoop, halloc, if_neg hodd, Int.toNat_natCast,
        popAt_rangeStop, if_neg hstop', hav, Bool.not_false, if_true, hback]

lemma turnportsAllocate_result (tp : Turnports) :
    (turnportsAllocate tp).1 = -1 ∨ ∃ port : Nat, (turnportsAllocate tp).1 = port := by
  have hloop : ∀ n (tp : Turnports), (turnportsAllocateLoop n tp).1 = -1 ∨
      ∃ port : Nat, (turnportsAllocateLoop n tp).1 = port := by
    intro n
    induction n with
    | zero => exact fun tp => Or.inl rfl
    | succ n ih =>
      intro tp
      simp only [turnportsAllocateLoop]
      split_ifs
      · exact Or.inl rfl
      · exact Or.inl rfl
      · exact ih _
      · exact ih _
      · exact Or.inr ⟨_, rfl⟩
  exact hloop _ tp

lemma turnportsAllocateEven_result (rnd : Nat) (tp : Turnports) :
    (turnportsAllocateEven rnd tp).1 = -1 ∨
      ∃ port : Nat, (turnportsAllocateEven rnd tp).1 = port := by
  have hloop : ∀ n (tp : Turnports), (turnportsAllocateEvenLoop rnd n tp).1 = -1 ∨
      ∃ port : Nat, (turnportsAllocateEvenLoop rnd n tp).1 = port := by
    intro n
    induction n with
    | zero => exact fun tp => Or.inl rfl
    | succ n ih =>
      intro tp
      simp only [turnportsAllocateEvenLoop]
      split_ifs
      · exact ih _
      · exact ih _
      · exact ih _
      · exact turnportsAllocate_result tp
  rw [turnportsAllocateEven]
  split
  · exact hloop _ tp
  · exact Or.inl rfl

end Coturn
