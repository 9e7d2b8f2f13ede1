/-
# No port is handed out twice

A run of the pool keeps the set of the ports that are held. The pool marks a held port as taken, and
both allocators touch only ports that are not taken. The exception is the failure path of
`turnports_allocate_even`: it releases the port `(uint16_t)(-1) = 65535`, held or not.
-/
import Mathlib.Data.Finset.Lattice.Lemmas
import Mathlib.Data.Finset.Basic
import Coturn.Lib.Run
import Coturn.Ports.Pool

namespace Coturn

open Turnports

/-! ## The shuffled queue -/

/-- The cells of the range hold the ports of the range in some order, and `status` is the inverse.
-/
structure Turnports.Shuffled (start stop : Nat) (tp : Turnports) : Prop where
  low_eq : tp.low = start
  high_eq : tp.high = stop + 1
  rangeStart_eq : tp.rangeStart = start
  rangeStop_eq : tp.rangeStop = stop
  status_mem : ∀ p, start ≤ p → p ≤ stop → start ≤ tp.status p ∧ tp.status p ≤ stop ∧
    tp.ports (tp.status p) = p
  ports_mem : ∀ x, start ≤ x → x ≤ stop → start ≤ tp.ports x ∧ tp.ports x ≤ stop ∧
    tp.status (tp.ports x) = x

variable {start stop : Nat} {tp : Turnports}

lemma turnportsFill_shuffled (start stop : Nat) :
    (turnportsFill start stop).Shuffled start stop := by
  refine ⟨rfl, rfl, rfl, rfl, fun p hp hp' => ?_, fun x hx hx' => ?_⟩
  · simp [turnportsFill, hp, hp']
  · simp [turnportsFill, hx, hx']

lemma turnportsSwap_self (r : Nat) : turnportsSwap tp r r = tp := by
  simp [turnportsSwap]

variable {p l : Nat}

lemma Turnports.Shuffled.swap (h : tp.Shuffled start stop) {q : Nat} (hp : start ≤ p ∧ p ≤ stop)
    (hq : start ≤ q ∧ q ≤ stop) (hpq : p ≠ q) :
    Shuffled start stop
      { tp with
        status := Function.update (Function.update tp.status p (tp.status q)) q (tp.status p)
        ports := Function.update
          (Function.update tp.ports (tp.status p) (tp.ports (tp.status q))) (tp.status q)
          (tp.ports (tp.status p)) } := by
  obtain ⟨hp₁, hp₂, hpp⟩ := h.status_mem p hp.1 hp.2
  obtain ⟨hq₁, hq₂, hqq⟩ := h.status_mem q hq.1 hq.2
  have hpos : tp.status p ≠ tp.status q := by
    intro he
    exact hpq (by rw [← hpp, he, hqq])
  rw [hpp, hqq]
  refine ⟨h.low_eq, h.high_eq, h.rangeStart_eq, h.rangeStop_eq, fun z hz hz' => ?_,
    fun x hx hx' => ?_⟩
  · by_cases hzq : z = q
    · subst hzq
      simp [hp₁, hp₂, hpos]
    · by_cases hzp : z = p
      · subst hzp
        simp [hzq, hq₁, hq₂]
      · obtain ⟨hz₁, hz₂, hzz⟩ := h.status_mem z hz hz'
        have hne : tp.status z ≠ tp.status q := fun he => hzq (by rw [← hzz, he, hqq])
        have hne' : tp.status z ≠ tp.status p := fun he => hzp (by rw [← hzz, he, hpp])
        simp [hzq, hzp, hne, hne', hz₁, hz₂, hzz]
  · by_cases hxq : x = tp.status q
    · subst hxq
      simp [hpq, hp.1, hp.2]
    · by_cases hxp : x = tp.status p
      · subst hxp
        simp [hpos, hq.1, hq.2]
      · obtain ⟨hx₁, hx₂, hxx⟩ := h.ports_mem x hx hx'
        have hne : tp.ports x ≠ q := fun he => hxq (by rw [← hxx, he])
        have hne' : tp.ports x ≠ p := fun he => hxp (by rw [← hxx, he])
        simp [hxq, hxp, hne, hne', hx₁, hx₂, hxx]

lemma Turnports.Shuffled.turnportsSwap (h : tp.Shuffled start stop) (hle : start ≤ stop)
    (hstop : stop < 65536) (r₁ r₂ : Nat) : (turnportsSwap tp r₁ r₂).Shuffled start stop := by
  have hport : ∀ r, start ≤ (tp.low + r % (tp.high - tp.low) % 65536) % 65536 ∧
      (tp.low + r % (tp.high - tp.low) % 65536) % 65536 ≤ stop := by
    intro r
    rw [h.low_eq, h.high_eq]
    have hlt := Nat.mod_lt r (show 0 < stop + 1 - start by omega)
    omega
  unfold Coturn.turnportsSwap
  simp only
  split
  · next hne => exact h.swap (hport r₁) (hport r₂) hne
  · exact h

lemma turnportsInit_shuffled (rnd : Nat → Nat) (hle : start ≤ stop) (hstop : stop < 65536) :
    (turnportsInit rnd start stop).Shuffled start stop := by
  have hloop : ∀ n, (turnportsRandomizeLoop rnd (turnportsFill start stop) n).Shuffled
      start stop := by
    intro n
    induction n with
    | zero => exact turnportsFill_shuffled start stop
    | succ n ih => exact ih.turnportsSwap hle hstop _ _
  exact hloop _

/-! ## Runs with holders -/

/-- A call on the pool; `allocateEven` carries the random number of its reservation token. -/
inductive PoolOp where
  | allocate
  | allocateEven (rnd : Nat)
  | release (port : Nat)

/-- A pool, and what has been handed out. -/
structure HeldPool where
  tp : Turnports
  held : Finset Nat

/-- The ports that a call hands out, the RTCP partner included; none when it fails. -/
def PoolOp.returned (op : PoolOp) (tp : Turnports) : Finset Nat :=
  match op with
  | .allocate =>
    let port := (turnportsAllocate tp).1
    if port < 0 then ∅ else {port.toNat}
  | .allocateEven rnd =>
    let port := (turnportsAllocateEven rnd tp).1
    if port < 0 then ∅ else {port.toNat, port.toNat + 1}
  | .release _ => ∅

lemma PoolOp.returned_allocate {port : Nat} (h : (turnportsAllocate tp).1 = port) :
    PoolOp.allocate.returned tp = {port} := by
  simp [PoolOp.returned, h]

lemma PoolOp.returned_allocate_fail (h : (turnportsAllocate tp).1 = -1) :
    PoolOp.allocate.returned tp = ∅ := by
  simp [PoolOp.returned, h]

lemma PoolOp.returned_allocateEven {rnd port : Nat} (h : (turnportsAllocateEven rnd tp).1 = port) :
    (PoolOp.allocateEven rnd).returned tp = {port, port + 1} := by
  simp [PoolOp.returned, h]

lemma PoolOp.returned_allocateEven_fail {rnd : Nat} (h : (turnportsAllocateEven rnd tp).1 = -1) :
    (PoolOp.allocateEven rnd).returned tp = ∅ := by
  simp [PoolOp.returned, h]

/-- The pool after a call. -/
def PoolOp.after (op : PoolOp) (tp : Turnports) : Turnports :=
  match op with
  | .allocate => (turnportsAllocate tp).2
  | .allocateEven rnd => (turnportsAllocateEven rnd tp).2.2
  | .release port => turnportsRelease tp port

/-- What a call hands out is held. -/
def HeldPool.step (s : HeldPool) (op : PoolOp) : HeldPool where
  tp := op.after s.tp
  held := match op with
    | .release port => s.held.erase port
    | _ => s.held ∪ op.returned s.tp

variable (s : HeldPool)

@[simp] lemma HeldPool.step_tp (op : PoolOp) : (s.step op).tp = op.after s.tp := rfl

@[simp] lemma HeldPool.step_held_allocate :
    (s.step .allocate).held = s.held ∪ PoolOp.allocate.returned s.tp := rfl

@[simp] lemma HeldPool.step_held_allocateEven (rnd : Nat) :
    (s.step (.allocateEven rnd)).held = s.held ∪ (PoolOp.allocateEven rnd).returned s.tp := rfl

@[simp] lemma HeldPool.step_held_release (port : Nat) :
    (s.step (.release port)).held = s.held.erase port := rfl

def HeldPool.init (rnd : Nat → Nat) (start stop : Nat) : HeldPool :=
  ⟨turnportsInit rnd start stop, ∅⟩

/-- Some entry of the queue is live: the pool has an available port. -/
def Turnports.HasLive (tp : Turnports) : Prop := ∃ x, tp.low ≤ x ∧ x < tp.high ∧ tp.Live x

/-- A port is released by its holder, and an even port is asked for only when 65535 is not held, or
there is nothing to search, or the search finds a port and the counter stays below the marks. -/
def HeldPool.Safe (s : HeldPool) : PoolOp → Prop
  | .allocate => True
  | .allocateEven _ =>
    s.tp.rangeStop ≠ 65535 ∨ 65535 ∉ s.held ∨ turnportsSize s.tp ≤ 1 ∨
      (s.tp.HasLive ∧ s.tp.high + turnportsSize s.tp ≤ tpsTakenOdd)
  | .release port => port ∈ s.held

/-- The call hands out no port that is held, and afterwards no port that stays held is available. -/
def HeldPool.Exclusive (s : HeldPool) (op : PoolOp) : Prop :=
  (∀ p ∈ op.returned s.tp, p ∉ s.held) ∧
    ∀ p ∈ (s.step op).held, turnportsIsAvailable (s.step op).tp p = false

/-- The ports of `held` are taken, the queue holds ports of the range, and the numbers fit their
types. -/
structure Turnports.Holds (held : Finset Nat) (tp : Turnports) : Prop where
  taken : ∀ p ∈ held, tp.Taken p
  entry_mem : ∀ x, tp.low ≤ x → x < tp.high → tp.InRange (tp.entry x)
  high_lt : tp.high < 4294967296
  rangeStop_lt : tp.rangeStop < 65536

variable {held : Finset Nat}

lemma Turnports.Holds.lowTo (h : tp.Holds held) (hl : tp.low ≤ l) :
    Holds held { tp with low := l } :=
  ⟨h.taken, fun x hx => h.entry_mem x (hl.trans hx), h.high_lt, h.rangeStop_lt⟩

lemma Turnports.Holds.entry_notMem (h : tp.Holds held) (hlive : tp.Live l) : tp.entry l ∉ held :=
  fun hmem => hlive.1 (h.taken _ hmem)

lemma Turnports.Holds.popAt (h : tp.Holds held) (hl : tp.low ≤ l) :
    (tp.popAt l).Holds (insert (tp.entry l) held) := by
  refine ⟨fun p hp => ?_, fun x hx => h.entry_mem x (hl.trans ((Nat.le_succ l).trans hx)),
    h.high_lt, h.rangeStop_lt⟩
  by_cases hpe : p = tp.entry l
  · subst hpe
    simp [Taken, Turnports.popAt]
  · have hheld : p ∈ held := (Finset.mem_insert.mp hp).resolve_left hpe
    have htaken : isTaken (tp.status p) = true := h.taken p hheld
    simp [Taken, Turnports.popAt, hpe, htaken]

lemma Turnports.Holds.pushPort (h : tp.Holds held) (hrange : tp.InRange p)
    (hp : p ∉ held) : (tp.pushPort p).Holds held := by
  refine ⟨fun q hq => ?_, fun x hlow hx => ?_, Nat.mod_lt _ (by decide), h.rangeStop_lt⟩
  · have hne : q ≠ p := fun he => hp (he ▸ hq)
    have htaken : isTaken (tp.status q) = true := h.taken q hq
    simp [Taken, Turnports.pushPort, hne, htaken]
  · -- a cell holds what it held, or the new port
    by_cases hcell : x % 65536 = tp.high % 65536
    · have hentry : (tp.pushPort p).entry x = p := by
        simp [Turnports.entry, Turnports.pushPort, hcell]
      rw [hentry]
      exact hrange
    · have hentry : (tp.pushPort p).entry x = tp.entry x := by
        simp [Turnports.entry, Turnports.pushPort, hcell]
      have hle : (tp.high + 1) % 4294967296 ≤ tp.high + 1 := Nat.mod_le _ _
      have hxh : x < tp.high + 1 := lt_of_lt_of_le hx hle
      have hne : x ≠ tp.high := fun he => hcell (by rw [he])
      rw [hentry]
      exact h.entry_mem x hlow (by omega)

lemma Turnports.Holds.markPair (h : tp.Holds held) (p : Nat) :
    (tp.markPair p).Holds (insert (p + 1) (insert p held)) := by
  refine ⟨fun q hq => ?_, h.entry_mem, h.high_lt, h.rangeStop_lt⟩
  by_cases hq₁ : q = p + 1
  · subst hq₁
    simp [Taken, Turnports.markPair]
  · by_cases hq₀ : q = p
    · subst hq₀
      simp [Taken, Turnports.markPair]
    · have hheld : q ∈ held := by simpa [hq₁, hq₀] using hq
      have htaken : isTaken (tp.status q) = true := h.taken q hheld
      simp [Taken, Turnports.markPair, hq₁, hq₀, htaken]

lemma Turnports.Holds.mono (h : tp.Holds held) {held' : Finset Nat} (hsub : held' ⊆ held) :
    tp.Holds held' :=
  ⟨fun p hp => h.taken p (hsub hp), h.entry_mem, h.high_lt, h.rangeStop_lt⟩

lemma Turnports.Holds.release (h : tp.Holds held) (hp : p ∉ held) :
    (turnportsRelease tp p).Holds held := by
  rcases turnportsRelease_cases tp p with ⟨hrange, -, heq⟩ | ⟨-, heq⟩
  · rw [heq]
    exact h.pushPort hrange hp
  · rw [heq]
    exact h

lemma turnportsAllocate_holds (h : tp.Holds held) :
    (∀ p ∈ PoolOp.allocate.returned tp, p ∉ held) ∧
      (turnportsAllocate tp).2.Holds (held ∪ PoolOp.allocate.returned tp) := by
  obtain ⟨l, hl, -, ⟨halloc, -⟩ | ⟨-, -, hlive, halloc⟩⟩ := turnportsAllocate_cases h.high_lt
  · rw [PoolOp.returned_allocate_fail (by rw [halloc]), halloc, Finset.union_empty]
    exact ⟨fun p hp => absurd hp (Finset.notMem_empty p), h.lowTo hl⟩
  · rw [PoolOp.returned_allocate (by rw [halloc]), halloc, Finset.union_comm]
    refine ⟨fun p hp => ?_, h.popAt hl⟩
    rw [Finset.mem_singleton.mp hp]
    exact h.entry_notMem hlive

/-- The condition under which the remaining rounds of `turnports_allocate_even` release no
held port. -/
def Turnports.EvenSafe (held : Finset Nat) (tp : Turnports) (n : Nat) : Prop :=
  tp.rangeStop ≠ 65535 ∨ 65535 ∉ held ∨ (tp.HasLive ∧ tp.high + n ≤ tpsTakenOdd)

/-- A port that returns to the tail is available there, as long as the counter is below the
marks. -/
lemma Turnports.hasLive_pushPort (hlow : tp.low ≤ tp.high)
    (hhigh : tp.high < tpsTakenOdd) : (tp.pushPort p).HasLive := by
  have hentry : (tp.pushPort p).entry tp.high = p := by
    simp [Turnports.entry, Turnports.pushPort]
  have hstatus : (tp.pushPort p).status p = tp.high := by simp [Turnports.pushPort]
  have hwrap : (tp.pushPort p).high = tp.high + 1 :=
    Nat.mod_eq_of_lt (by simp only [tpsTakenOdd] at hhigh; omega)
  refine ⟨tp.high, hlow, by rw [hwrap]; exact Nat.lt_succ_self _, ?_, by rw [hentry, hstatus]⟩
  rw [hentry, Taken, hstatus, Bool.not_eq_true]
  exact isTaken_eq_false_of_lt hhigh

lemma turnportsAllocateEvenLoop_holds (rnd : Nat) {n : Nat} (h : tp.Holds held)
    (hsafe : tp.EvenSafe held n) :
    ((turnportsAllocateEvenLoop rnd n tp).1 = -1 ∧
        (turnportsAllocateEvenLoop rnd n tp).2.2.Holds held) ∨
      ∃ port : Nat, (turnportsAllocateEvenLoop rnd n tp).1 = port ∧ port ∉ held ∧
        port + 1 ∉ held ∧
        (turnportsAllocateEvenLoop rnd n tp).2.2.Holds (insert (port + 1) (insert port held)) := by
  induction n generalizing tp with
  | zero => exact Or.inl ⟨rfl, h⟩
  | succ n ih =>
    obtain ⟨l, hl, hskip, ⟨-, hfail, heq⟩ | ⟨hlt, hrange, hlive, ⟨-, heq⟩ | ⟨-, -, hav, heq⟩⟩⟩ :=
      turnportsAllocateEvenLoop_cases rnd n h.high_lt h.rangeStop_lt
    · -- `turnports_allocate` failed, so 65535 is released: it is not held
      have hnolive : ¬ tp.HasLive := by
        rintro ⟨x, hx, hxh, hxlive⟩
        rcases hfail with hend | hout
        · exact (hskip x hx (by omega)).2.2 hxlive
        · rcases Nat.lt_or_ge x l with hxl | hlx
          · exact (hskip x hx hxl).2.2 hxlive
          · exact hout (h.entry_mem l hl (by omega))
      have hstate : Holds held { tp with low := l } := h.lowTo hl
      have hfree : tp.rangeStop ≠ 65535 ∨ 65535 ∉ held := by
        rcases hsafe with hstop | hnot | ⟨hhas, -⟩
        · exact Or.inl hstop
        · exact Or.inr hnot
        · exact absurd hhas hnolive
      rw [heq]
      rcases turnportsRelease_cases { tp with low := l } 65535 with ⟨hin, -, hrel⟩ | ⟨-, hrel⟩
      · have hstop : tp.rangeStop = 65535 := by
          have h₁ : 65535 ≤ tp.rangeStop := hin.2
          have h₂ := h.rangeStop_lt
          omega
        have hnot : 65535 ∉ held := hfree.resolve_left (fun hne => hne hstop)
        rw [hrel]
        exact ih (hstate.pushPort hin hnot) (Or.inr (Or.inl hnot))
      · rw [hrel]
        refine ih hstate ?_
        rcases hfree with hstop | hnot
        · exact Or.inl hstop
        · exact Or.inr (Or.inl hnot)
    · -- a live entry was taken and returned to the tail
      rw [heq]
      have hpush : ((tp.popAt l).pushPort (tp.entry l)).Holds held :=
        ((h.popAt hl).mono (Finset.subset_insert _ _)).pushPort hrange (h.entry_notMem hlive)
      refine ih hpush ?_
      rcases hsafe with hstop | hnot | ⟨-, hcount⟩
      · exact Or.inl hstop
      · exact Or.inr (Or.inl hnot)
      · refine Or.inr (Or.inr ⟨hasLive_pushPort (show l + 1 ≤ tp.high from hlt) ?_, ?_⟩)
        · show tp.high < tpsTakenOdd
          omega
        · show (tp.high + 1) % 4294967296 + n ≤ tpsTakenOdd
          have := Nat.mod_le (tp.high + 1) 4294967296
          omega
    · -- a live entry was taken together with the port after it
      rw [heq]
      refine Or.inr ⟨tp.entry l, rfl, h.entry_notMem hlive, fun hmem => ?_, ?_⟩
      · have htaken : isTaken ((tp.popAt l).status (tp.entry l + 1)) = true :=
          (h.popAt hl).taken _ (Finset.mem_insert_of_mem hmem)
        simp [turnportsIsAvailable, htaken] at hav
      · have hpair := (h.popAt hl).markPair (tp.entry l)
        rwa [Finset.insert_idem] at hpair

lemma turnportsAllocateEven_holds (rnd : Nat) {s : HeldPool} (h : s.tp.Holds s.held)
    (hsafe : s.Safe (.allocateEven rnd)) :
    (∀ p ∈ (PoolOp.allocateEven rnd).returned s.tp, p ∉ s.held) ∧
      (turnportsAllocateEven rnd s.tp).2.2.Holds
        (s.held ∪ (PoolOp.allocateEven rnd).returned s.tp) := by
  by_cases hsize : turnportsSize s.tp > 1
  · have heven : turnportsAllocateEven rnd s.tp =
        turnportsAllocateEvenLoop rnd (turnportsSize s.tp) s.tp := by
      simp [turnportsAllocateEven, hsize]
    have hloop : s.tp.EvenSafe s.held (turnportsSize s.tp) := by
      rcases hsafe with hstop | hnot | hsmall | hlive
      · exact Or.inl hstop
      · exact Or.inr (Or.inl hnot)
      · exact absurd hsize (Nat.not_lt.mpr hsmall)
      · exact Or.inr (Or.inr hlive)
    rcases turnportsAllocateEvenLoop_holds rnd h hloop with ⟨hres, hh⟩ | ⟨port, hres, h₀, h₁, hh⟩
    · rw [PoolOp.returned_allocateEven_fail (by rw [heven, hres]), Finset.union_empty, heven]
      exact ⟨fun p hp => absurd hp (Finset.notMem_empty p), hh⟩
    · rw [PoolOp.returned_allocateEven (by rw [heven, hres]), heven]
      refine ⟨fun p hp => ?_, hh.mono fun p hp => ?_⟩
      · rcases Finset.mem_insert.mp hp with rfl | hp
        · exact h₀
        · rw [Finset.mem_singleton.mp hp]
          exact h₁
      · simp only [Finset.mem_union, Finset.mem_insert, Finset.mem_singleton] at hp ⊢
        tauto
  · have heven : turnportsAllocateEven rnd s.tp = (-1, 0, s.tp) := by
      simp [turnportsAllocateEven, hsize]
    rw [PoolOp.returned_allocateEven_fail (by rw [heven]), Finset.union_empty, heven]
    exact ⟨fun p hp => absurd hp (Finset.notMem_empty p), h⟩

lemma HeldPool.step_holds {s : HeldPool} {op : PoolOp} (h : s.tp.Holds s.held) (hsafe : s.Safe op) :
    (∀ p ∈ op.returned s.tp, p ∉ s.held) ∧ (s.step op).tp.Holds (s.step op).held := by
  cases op with
  | allocate =>
    rw [step_tp, step_held_allocate, PoolOp.after]
    exact turnportsAllocate_holds h
  | allocateEven rnd =>
    rw [step_tp, step_held_allocateEven, PoolOp.after]
    exact turnportsAllocateEven_holds rnd h hsafe
  | release port =>
    rw [step_tp, step_held_release, PoolOp.after]
    refine ⟨fun p hp => absurd hp (Finset.notMem_empty p), ?_⟩
    exact (h.mono (Finset.erase_subset _ _)).release (Finset.notMem_erase port s.held)

lemma HeldPool.init_holds (rnd : Nat → Nat) (hle : start ≤ stop) (hstop : stop ≤ 65535) :
    (HeldPool.init rnd start stop).tp.Holds (HeldPool.init rnd start stop).held := by
  have h := turnportsInit_shuffled rnd hle (by omega : stop < 65536)
  refine ⟨fun p hp => absurd hp (Finset.notMem_empty p), fun x hlow hhigh => ?_, ?_, ?_⟩
  · have hx : start ≤ x := h.low_eq ▸ hlow
    have hx' : x < stop + 1 := h.high_eq ▸ hhigh
    obtain ⟨h₁, h₂, -⟩ := h.ports_mem x hx (by omega)
    have hmod : x % 65536 = x := Nat.mod_eq_of_lt (by omega)
    show (turnportsInit rnd start stop).rangeStart ≤
        (turnportsInit rnd start stop).ports (x % 65536) ∧
      (turnportsInit rnd start stop).ports (x % 65536) ≤ (turnportsInit rnd start stop).rangeStop
    rw [hmod, h.rangeStart_eq, h.rangeStop_eq]
    exact ⟨h₁, h₂⟩
  · show (turnportsInit rnd start stop).high < _
    rw [h.high_eq]
    omega
  · show (turnportsInit rnd start stop).rangeStop < _
    rw [h.rangeStop_eq]
    omega

/-- In every run of safe calls, no held port is handed out or becomes available. -/
theorem turnports_exclusive (rnd : Nat → Nat) (start stop : Nat) (hle : start ≤ stop)
    (hstop : stop ≤ 65535) (ops : List PoolOp) (op : PoolOp)
    (hops : Machine.Along HeldPool.step HeldPool.Safe (HeldPool.init rnd start stop) ops)
    (hop : (Machine.run HeldPool.step (HeldPool.init rnd start stop) ops).Safe op) :
    (Machine.run HeldPool.step (HeldPool.init rnd start stop) ops).Exclusive op := by
  have hrun : ∀ s op, s.tp.Holds s.held → HeldPool.Safe s op →
      (s.step op).tp.Holds (s.step op).held :=
    fun s op h hsafe => (HeldPool.step_holds h hsafe).2
  have hinv := Machine.run_invariant hrun hops (HeldPool.init_holds rnd hle hstop)
  obtain ⟨hret, hafter⟩ := HeldPool.step_holds hinv hop
  refine ⟨hret, fun p hp => ?_⟩
  have htaken : isTaken _ = true := hafter.taken p hp
  rw [turnportsIsAvailable, htaken, Bool.not_true, Bool.and_false]
  rfl

/-- Random numbers that exchange the second and the third port of the range and nothing
else. -/
def swapSecondThird : Nat → Nat
  | 0 => 1
  | 1 => 2
  | _ => 0

lemma turnportsInit_swapSecondThird (hle : start ≤ stop) :
    turnportsInit swapSecondThird start stop = turnportsSwap (turnportsFill start stop) 1 2 := by
  have hloop : ∀ n, turnportsRandomizeLoop swapSecondThird (turnportsFill start stop) (n + 1) =
      turnportsSwap (turnportsFill start stop) 1 2 := by
    intro n
    induction n with
    | zero => rfl
    | succ n ih =>
      rw [turnportsRandomizeLoop, ih]
      exact turnportsSwap_self 0
  obtain ⟨n, hn⟩ : ∃ n, (stop + 1 - start) * 10 = n + 1 :=
    ⟨(stop + 1 - start) * 10 - 1, by omega⟩
  rw [turnportsInit, turnportsRandomize]
  simp only [turnportsFill] at hloop ⊢
  rw [hn, hloop n]

/-- The pool of 65532..65535 after two pairs have been handed out; two stale entries are left in the
queue. -/
def fullPool : HeldPool :=
  Machine.run HeldPool.step (HeldPool.init swapSecondThird 65532 65535)
    [.allocateEven 0, .allocateEven 0]

/-- A third request for an even port fails and makes the held port 65535 available. -/
theorem turnportsAllocateEven_frees_held :
    fullPool.held = {65532, 65533, 65534, 65535} ∧
      (turnportsAllocateEven 0 fullPool.tp).1 = -1 ∧
      65535 ∈ (fullPool.step (.allocateEven 0)).held ∧
      turnportsIsAvailable (fullPool.step (.allocateEven 0)).tp 65535 = true ∧
      (turnportsAllocate (fullPool.step (.allocateEven 0)).tp).1 = 65535 := by
  rw [fullPool, HeldPool.init, turnportsInit_swapSecondThird (by decide)]
  decide +kernel

theorem turnports_exclusive_one_pair :
    Machine.Along HeldPool.step HeldPool.Safe (HeldPool.init swapSecondThird 65532 65535)
        [.allocateEven 0] ∧
      (Machine.run HeldPool.step (HeldPool.init swapSecondThird 65532 65535)
        [.allocateEven 0]).Exclusive .allocate :=
  have hsafe : Machine.Along HeldPool.step HeldPool.Safe
      (HeldPool.init swapSecondThird 65532 65535) [.allocateEven 0] :=
    ⟨Or.inr (Or.inl (Finset.notMem_empty _)), trivial⟩
  ⟨hsafe, turnports_exclusive swapSecondThird 65532 65535 (by decide) (by decide)
    [.allocateEven 0] .allocate hsafe trivial⟩

end Coturn
