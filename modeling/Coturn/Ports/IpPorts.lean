/-
# The pools of the relay addresses

`turnipports` of `apps/relay/turn_ports.c`: one pool for every transport and relay address (with
port 0), created at its first use. The record also keeps the calls made on the pools, so that
conditions on them can be stated; what each call does to the set of taken ports is said once here.
-/
import Coturn.Ioaddr
import Coturn.Ports.NoLoss

namespace Coturn

open Turnports

variable {tp : Turnports}

/-! ## What the calls mark -/

/-- The range is the same. -/
structure Turnports.SameRange (tp tp' : Turnports) : Prop where
  start_eq : tp'.rangeStart = tp.rangeStart
  stop_eq : tp'.rangeStop = tp.rangeStop

lemma Turnports.SameRange.inRange_iff {tp' : Turnports} (h : tp.SameRange tp') {p : Nat} :
    tp'.InRange p ↔ tp.InRange p := by
  rw [InRange, InRange, h.start_eq, h.stop_eq]

lemma Turnports.taken_pushPort {port : Nat} (hhigh : tp.high < tpsTakenOdd) (p : Nat) :
    (tp.pushPort port).Taken p ↔ tp.Taken p ∧ p ≠ port := by
  by_cases hp : p = port
  · subst hp
    simp [Taken, pushPort, isTaken_eq_false_of_lt hhigh]
  · simp [Taken, pushPort, hp]

lemma Turnports.taken_popAt (l p : Nat) :
    (tp.popAt l).Taken p ↔ tp.Taken p ∨ p = tp.entry l := by
  by_cases hp : p = tp.entry l
  · simp [Taken, popAt, hp]
  · simp [Taken, popAt, hp]

lemma Turnports.taken_rotate {l : Nat} (hlive : tp.Live l) (hhigh : tp.high < tpsTakenOdd)
    (p : Nat) : ((tp.popAt l).pushPort (tp.entry l)).Taken p ↔ tp.Taken p := by
  have hpush : (tp.popAt l).high < tpsTakenOdd := hhigh
  rw [taken_pushPort hpush, taken_popAt]
  by_cases hp : p = tp.entry l
  · simp [hp, hlive.1]
  · simp [hp]

/-- No port of the range is free. -/
def Turnports.Full (tp : Turnports) : Prop := ∀ p, tp.InRange p → tp.Taken p

/-- The search for an even port goes through a full pool, and gives 65535 back, which is taken. -/
structure Turnports.GivesBack (tp : Turnports) : Prop where
  size : 1 < turnportsSize tp
  last : tp.InRange 65535
  full : tp.Full

/-- What the search for an even port does to the taken ports; `freed` says that it gives 65535 back.
-/
structure Turnports.EvenOutcome (tp : Turnports) (freed : Prop) (res : Int × Nat × Turnports) :
    Prop where
  range : tp.SameRange res.2.2
  failed : res.1 = -1 → ∀ p, tp.InRange p → (res.2.2.Taken p ↔ tp.Taken p ∧ ¬ (freed ∧ p = 65535))
  found : ∀ port : Nat, res.1 = port → (port % 2 = 0 ∧ tp.InRange port ∧ tp.InRange (port + 1)) ∧
    (¬ tp.Taken port ∧ ¬ tp.Taken (port + 1)) ∧
    ∀ p, res.2.2.Taken p ↔ tp.Taken p ∨ p = port ∨ p = port + 1

lemma Turnports.EvenOutcome.refl {freed : Prop} (token : Nat) (h : ¬ freed) :
    tp.EvenOutcome freed (-1, token, tp) := by
  refine ⟨⟨rfl, rfl⟩, fun _ p _ => by simp [h], fun port hport => ?_⟩
  have hneg : (-1 : Int) = port := hport
  omega

/-- A round that leaves the taken ports as they are. -/
lemma Turnports.EvenOutcome.of_same {tp' : Turnports} {freed freed' : Prop}
    {res : Int × Nat × Turnports} (h : tp'.EvenOutcome freed' res) (hrange : tp.SameRange tp')
    (htaken : ∀ p, tp'.Taken p ↔ tp.Taken p) (hfreed : tp.InRange 65535 → (freed ↔ freed')) :
    tp.EvenOutcome freed res := by
  refine ⟨⟨h.range.start_eq.trans hrange.start_eq, h.range.stop_eq.trans hrange.stop_eq⟩,
    fun hres p hp => ?_, fun port hport => ?_⟩
  · rw [h.failed hres p (hrange.inRange_iff.mpr hp), htaken]
    have heq : freed ∧ p = 65535 ↔ freed' ∧ p = 65535 :=
      and_congr_left fun hlast => hfreed (hlast ▸ hp)
    rw [heq]
  · simpa only [htaken, hrange.inRange_iff] using h.found port hport

lemma turnportsAllocateEvenLoop_outcome (rnd : Nat) {n : Nat} (h : tp.Sound)
    (hcount : tp.high + n ≤ tpsTakenOdd) :
    tp.EvenOutcome (0 < n ∧ tp.InRange 65535 ∧ tp.Full) (turnportsAllocateEvenLoop rnd n tp) := by
  induction n generalizing tp with
  | zero => exact .refl _ fun hfreed => absurd hfreed.1 (by decide)
  | succ n ih =>
    have hmark : tp.high < tpsTakenOdd := by omega
    have hwrap : (tp.high + 1) % 4294967296 ≤ tp.high + 1 := Nat.mod_le _ _
    obtain ⟨l, hl, hskip, ⟨hneg, hfail, heq⟩ | ⟨hlt, hrange, hlive, ⟨-, heq⟩ |
        ⟨heven, hstop, hav, heq⟩⟩⟩ :=
      turnportsAllocateEvenLoop_cases rnd n h.high_lt h.rangeStop_lt
    · -- no port is free then, and a free 65535 is no pair
      have hfull : tp.Full := fun p => turnportsAllocate_eq_neg_one h hneg
      have hnew := h.giveBack hl hskip hfail hmark
      have hhigh : (turnportsRelease { tp with low := l } 65535).high ≤ tp.high + 1 :=
        turnportsRelease_high_le { tp with low := l } 65535
      have hout := ih hnew (by omega)
      rw [heq]
      rcases turnportsRelease_cases { tp with low := l } 65535 with ⟨hlast, -, hrel⟩ | ⟨hno, hrel⟩
      · rw [hrel] at hout ⊢
        have htaken : ∀ p, (pushPort { tp with low := l } 65535).Taken p ↔
            tp.Taken p ∧ p ≠ 65535 := taken_pushPort hmark
        have hnotFull : ¬ (pushPort { tp with low := l } 65535).Full := fun hf =>
          ((htaken _).mp (hf 65535 hlast)).2 rfl
        refine ⟨⟨hout.range.start_eq, hout.range.stop_eq⟩, fun hres p hp => ?_,
          fun port hport => ?_⟩
        · rw [hout.failed hres p hp, htaken]
          have hfreed : 0 < n + 1 ∧ tp.InRange 65535 ∧ tp.Full := ⟨n.succ_pos, hlast, hfull⟩
          simp [hnotFull, hfreed]
        · obtain ⟨⟨-, hmem, hmem'⟩, ⟨hfree, -⟩, -⟩ := hout.found port hport
          have hne : port ≠ 65535 := by
            have h₁ : port + 1 ≤ tp.rangeStop := hmem'.2
            have := h.rangeStop_lt
            omega
          exact absurd ((htaken port).mpr ⟨hfull port hmem, hne⟩) hfree
      · rw [hrel] at hout ⊢
        have hout' : tp.InRange 65535 → False := fun hlast =>
          hno.elim (fun h' => h' hlast) fun h' => h' (hfull 65535 hlast)
        exact hout.of_same ⟨rfl, rfl⟩ (fun p => Iff.rfl) fun hlast => (hout' hlast).elim
    · rw [heq]
      have hnew := h.rotate hl hskip hlt hrange hlive hmark
      refine (ih hnew (by show (tp.high + 1) % 4294967296 + n ≤ _; omega)).of_same ⟨rfl, rfl⟩
        (taken_rotate hlive hmark) fun _ => ?_
      refine iff_of_false (fun hfreed => hlive.1 (hfreed.2.2 _ hrange)) fun hfreed => ?_
      exact hlive.1 ((taken_rotate hlive hmark _).mp (hfreed.2.2 _ hrange))
    · rw [heq]
      have hsecond : tp.InRange (tp.entry l + 1) := ⟨by have := hrange.1; omega, hstop⟩
      have hfree : ¬ tp.Taken (tp.entry l + 1) := by
        intro htaken
        have htaken : isTaken ((tp.popAt l).status (tp.entry l + 1)) = true :=
          (taken_popAt l _).mpr (Or.inl htaken)
        simp [turnportsIsAvailable, htaken] at hav
      refine ⟨⟨rfl, rfl⟩, fun hres => ?_, fun port hport => ?_⟩
      · have : (tp.entry l : Int) = -1 := hres
        omega
      · obtain rfl : tp.entry l = port := by
          have : (tp.entry l : Int) = port := hport
          omega
        refine ⟨⟨heven, hrange, hsecond⟩, ⟨hlive.1, hfree⟩, fun p => ?_⟩
        by_cases hp₁ : p = tp.entry l + 1
        · simp [Taken, markPair, hp₁]
        · by_cases hp₀ : p = tp.entry l
          · simp [Taken, markPair, hp₀]
          · simp [Taken, markPair, popAt, hp₀, hp₁]

lemma turnportsAllocateEven_outcome (rnd : Nat) (h : tp.Sound)
    (hfits : tp.Fits (.allocateEven rnd)) :
    tp.EvenOutcome tp.GivesBack (turnportsAllocateEven rnd tp) := by
  rw [turnportsAllocateEven]
  split
  · next hsize =>
    refine (turnportsAllocateEvenLoop_outcome rnd h hfits).of_same ⟨rfl, rfl⟩ (fun p => Iff.rfl)
      fun _ => ⟨fun hback => ⟨by omega, hback.last, hback.full⟩, fun hloop => ?_⟩
    exact ⟨hsize, hloop.2.1, hloop.2.2⟩
  · next hsize => exact .refl _ fun hback => hsize hback.size

/-- The call frees a port. -/
def PoolOp.Frees (tp : Turnports) (p : Nat) : PoolOp → Prop
  | .allocate => False
  | .allocateEven _ => tp.GivesBack ∧ p = 65535
  | .release port => p = port

/-- A call that fits adds what it hands out to the taken ports, which was free, and removes what it
frees. -/
structure PoolOp.Outcome (op : PoolOp) (tp : Turnports) : Prop where
  range : tp.SameRange (op.after tp)
  free : ∀ p ∈ op.returned tp, tp.InRange p ∧ ¬ tp.Taken p
  taken : ∀ p, tp.InRange p →
    ((op.after tp).Taken p ↔ (tp.Taken p ∨ p ∈ op.returned tp) ∧ ¬ op.Frees tp p)

lemma PoolOp.outcome (h : tp.Sound) {op : PoolOp} (hfits : tp.Fits op) : op.Outcome tp := by
  cases op with
  | allocate =>
    obtain ⟨l, -, -, ⟨halloc, -⟩ | ⟨-, hrange, hlive, halloc⟩⟩ := turnportsAllocate_cases h.high_lt
    · have hnone := PoolOp.returned_allocate_fail (congrArg Prod.fst halloc)
      refine ⟨?_, by simp [hnone], fun p _ => ?_⟩
      · rw [PoolOp.after, halloc]
        exact ⟨rfl, rfl⟩
      · rw [hnone, PoolOp.after, halloc]
        simp [PoolOp.Frees, Taken]
    · have hone := PoolOp.returned_allocate (congrArg Prod.fst halloc)
      refine ⟨?_, by simp [hone, hrange, hlive.1], fun p _ => ?_⟩
      · rw [PoolOp.after, halloc]
        exact ⟨rfl, rfl⟩
      · rw [hone, PoolOp.after, halloc, taken_popAt]
        simp [PoolOp.Frees]
  | allocateEven rnd =>
    have hout := turnportsAllocateEven_outcome rnd h hfits
    rcases turnportsAllocateEven_result rnd tp with hres | ⟨port, hres⟩
    · have hnone := PoolOp.returned_allocateEven_fail hres
      refine ⟨hout.range, by simp [hnone], fun p hp => ?_⟩
      have htaken : ((PoolOp.allocateEven rnd).after tp).Taken p ↔ _ := hout.failed hres p hp
      rw [htaken, hnone]
      simp [PoolOp.Frees]
    · obtain ⟨⟨-, hmem, hmem'⟩, ⟨hfree, hfree'⟩, htaken⟩ := hout.found port hres
      have hpair := PoolOp.returned_allocateEven hres
      have hback : ¬ tp.GivesBack := fun hback => hfree (hback.full port hmem)
      refine ⟨hout.range, by simp [hpair, hmem, hmem', hfree, hfree'], fun p _ => ?_⟩
      have htaken : ((PoolOp.allocateEven rnd).after tp).Taken p ↔ _ := htaken p
      rw [htaken, hpair]
      simp [PoolOp.Frees, hback]
  | release port =>
    rcases turnportsRelease_cases tp port with ⟨hin, hport, hrel⟩ | ⟨hno, hrel⟩
    · refine ⟨by rw [PoolOp.after, hrel]; exact ⟨rfl, rfl⟩, by simp [PoolOp.returned], fun p _ => ?_⟩
      rw [PoolOp.after, hrel, taken_pushPort (hfits hin hport).1]
      simp [PoolOp.returned, PoolOp.Frees]
    · refine ⟨by rw [PoolOp.after, hrel]; exact ⟨rfl, rfl⟩, by simp [PoolOp.returned],
        fun p hp => ?_⟩
      rw [PoolOp.after, hrel]
      have hne : tp.Taken p → p ≠ port := by
        rintro htaken rfl
        exact hno.elim (fun h' => h' hp) fun h' => h' htaken
      simpa [PoolOp.returned, PoolOp.Frees] using hne

/-! ## The pools -/

/-- The transports for which pools are kept; every transport that is not TCP uses the UDP
map. -/
inductive RelayTransport where
  | udp
  | tcp
  deriving DecidableEq

/-- The pools by transport and relay address, and the calls made on them so far. -/
structure Turnipports where
  start : Nat
  stop : Nat
  pools : RelayTransport → IoaAddr → Option Turnports
  calls : List (Turnports × PoolOp)

def Turnipports.call (tp : Turnipports) (tr : RelayTransport) (ba : IoaAddr) (t : Turnports)
    (op : PoolOp) : Turnipports :=
  { tp with
    pools := fun tr' ba' => if tr' = tr ∧ ba' = ba then some (op.after t) else tp.pools tr' ba'
    calls := (t, op) :: tp.calls }

/-- The pool of an address, created when there is none. -/
def turnipportsAdd (rnd : Nat → Nat) (tp : Turnipports) (tr : RelayTransport) (addr : IoaAddr) :
    Option Turnports :=
  match tp.pools tr (addrSetPort 0 addr) with
  | some t => some t
  | none => turnportsCreate rnd tp.start tp.stop

/-- A port of the address. -/
def turnipportsAllocate (rnd : Nat → Nat) (tp : Turnipports) (tr : RelayTransport)
    (addr : IoaAddr) : Int × Turnipports :=
  match turnipportsAdd rnd tp tr addr with
  | some t => ((turnportsAllocate t).1, tp.call tr (addrSetPort 0 addr) t .allocate)
  | none => (-1, tp)

/-- Even ports always come from the UDP map. -/
def turnipportsAllocateEven (rnd : Nat → Nat) (tokenRnd : Nat) (tp : Turnipports)
    (addr : IoaAddr) : Int × Nat × Turnipports :=
  match turnipportsAdd rnd tp .udp addr with
  | some t =>
    ((turnportsAllocateEven tokenRnd t).1, (turnportsAllocateEven tokenRnd t).2.1,
      tp.call .udp (addrSetPort 0 addr) t (.allocateEven tokenRnd))
  | none => (-1, 0, tp)

/-- The port is given back. -/
def turnipportsRelease (tp : Turnipports) (tr : RelayTransport) (socketAddr : IoaAddr) :
    Turnipports :=
  match tp.pools tr (addrSetPort 0 socketAddr) with
  | some t =>
    tp.call tr (addrSetPort 0 socketAddr) t (.release (addrGetPort socketAddr).toNat)
  | none => tp

/-- An address without a pool has every port available. -/
def turnipportsIsAvailable (tp : Turnipports) (tr : RelayTransport) (addr : IoaAddr)
    (port : Nat) : Bool :=
  match tp.pools tr (addrSetPort 0 addr) with
  | some t => turnportsIsAvailable t port
  | none => true

/-! ## The taken ports -/

/-- A configured range of relay ports. Port 0 is left out: binding to it lets the kernel
choose another port. -/
structure PortRange where
  start : Nat
  stop : Nat
  start_pos : 0 < start
  start_le_stop : start ≤ stop
  stop_le : stop ≤ 65535

/-- Ports by transport, relay address without port, and number. -/
abbrev PortSet := Set (RelayTransport × IoaAddr × Nat)

variable {rnd : Nat → Nat}

namespace Turnipports

/-- Every call on a pool so far found a free counter value and room. -/
def Fitting (tp : Turnipports) : Prop := ∀ c ∈ tp.calls, c.1.Fits c.2
  deriving Decidable

/-- The ports that have been handed out and not been given back. -/
def taken (tp : Turnipports) : PortSet :=
  {x | ∃ t ∈ tp.pools x.1 x.2.1, t.InRange x.2.2 ∧ t.Taken x.2.2}

/-- Every pool is sound and has the configured range. -/
structure Sound (R : PortRange) (tp : Turnipports) : Prop where
  start_eq : tp.start = R.start
  stop_eq : tp.stop = R.stop
  sound : ∀ tr ba t, tp.pools tr ba = some t →
    t.Sound ∧ t.rangeStart = R.start ∧ t.rangeStop = R.stop

/-- The search for an even port of the address would give 65535 back. -/
def GivesBack (tp : Turnipports) (addr : IoaAddr) : Prop :=
  ∃ t ∈ tp.pools .udp (addrSetPort 0 addr), t.GivesBack

variable {R : PortRange} {tp : Turnipports} {tr : RelayTransport} {ba addr : IoaAddr}
  {t : Turnports} {op : PoolOp}

@[simp] lemma fitting_call :
    (tp.call tr ba t op).Fitting ↔ t.Fits op ∧ tp.Fitting := by
  simp [Fitting, call]

/-- The pool that a call is made on: the one of its address, or a new one. -/
structure PoolOf (R : PortRange) (tp : Turnipports) (tr : RelayTransport) (ba : IoaAddr)
    (t : Turnports) : Prop where
  sound : t.Sound
  start_eq : t.rangeStart = R.start
  stop_eq : t.rangeStop = R.stop
  taken_iff : ∀ p, t.InRange p → (t.Taken p ↔ (tr, ba, p) ∈ tp.taken)

lemma Sound.poolOf (h : tp.Sound R) (ht : tp.pools tr ba = some t) : PoolOf R tp tr ba t := by
  obtain ⟨hsound, hstart, hstop⟩ := h.sound _ _ _ ht
  refine ⟨hsound, hstart, hstop, fun p hp => ⟨fun htaken => ⟨t, ht, hp, htaken⟩, ?_⟩⟩
  rintro ⟨t', ht', -, htaken⟩
  exact (Option.mem_unique ht ht') ▸ htaken

lemma Sound.add (h : tp.Sound R) (ht : turnipportsAdd rnd tp tr addr = some t) :
    PoolOf R tp tr (addrSetPort 0 addr) t ∧ (tr = .udp → (t.GivesBack ↔ tp.GivesBack addr)) := by
  unfold turnipportsAdd at ht
  split at ht
  · next t' hpool =>
    cases ht
    refine ⟨h.poolOf hpool, ?_⟩
    rintro rfl
    simp [GivesBack, hpool]
  · next hpool =>
    have hinit : turnportsInit rnd R.start R.stop = t := by
      rw [turnportsCreate, h.start_eq, h.stop_eq, if_neg (Nat.not_lt.mpr R.start_le_stop)] at ht
      exact Option.some.inj ht
    have hshuf := turnportsInit_shuffled rnd R.start_le_stop (Nat.lt_succ_of_le R.stop_le)
    rw [hinit] at hshuf
    -- a fresh pool marks nothing
    have hfree : ∀ p, t.InRange p → ¬ t.Taken p := by
      intro p hp
      have hst := hshuf.status_mem p (hshuf.rangeStart_eq ▸ hp.1) (hshuf.rangeStop_eq ▸ hp.2)
      have hstop := R.stop_le
      rw [Taken, Bool.not_eq_true]
      exact isTaken_eq_false_of_lt (by simp only [tpsTakenOdd]; omega)
    refine ⟨⟨hshuf.sound R.start_le_stop R.stop_le, hshuf.rangeStart_eq, hshuf.rangeStop_eq,
      fun p hp => iff_of_false (hfree p hp) ?_⟩, ?_⟩
    · rintro ⟨t', ht', -⟩
      simp [hpool] at ht'
    · rintro rfl
      have hmem : t.InRange R.start := by
        rw [InRange, hshuf.rangeStart_eq, hshuf.rangeStop_eq]
        exact ⟨le_rfl, R.start_le_stop⟩
      refine iff_of_false (fun hback => hfree _ hmem (hback.full _ hmem)) ?_
      simp [GivesBack, hpool]

lemma Sound.call (h : tp.Sound R) (hpool : PoolOf R tp tr ba t) (hfits : t.Fits op) :
    (tp.call tr ba t op).Sound R ∧ ∀ x, x ∈ (tp.call tr ba t op).taken ↔
      (x ∈ tp.taken ∨ (x.1 = tr ∧ x.2.1 = ba) ∧ x.2.2 ∈ op.returned t) ∧
        ¬ ((x.1 = tr ∧ x.2.1 = ba) ∧ op.Frees t x.2.2) := by
  have hout := PoolOp.outcome hpool.sound hfits
  refine ⟨⟨h.start_eq, h.stop_eq, fun tr' ba' t' ht' => ?_⟩, fun ⟨tr', ba', p⟩ => ?_⟩
  · by_cases hkey : tr' = tr ∧ ba' = ba
    · simp only [Turnipports.call, if_pos hkey, Option.some.injEq] at ht'
      subst ht'
      exact ⟨hpool.sound.after hfits, hout.range.start_eq.trans hpool.start_eq,
        hout.range.stop_eq.trans hpool.stop_eq⟩
    · simp only [Turnipports.call, if_neg hkey] at ht'
      exact h.sound tr' ba' t' ht'
  · by_cases hkey : tr' = tr ∧ ba' = ba
    · obtain ⟨rfl, rfl⟩ := hkey
      have hmem : (tr', ba', p) ∈ (tp.call tr' ba' t op).taken ↔
          t.InRange p ∧ (op.after t).Taken p := by
        simp [taken, Turnipports.call, hout.range.inRange_iff]
      have hold : (tr', ba', p) ∈ tp.taken → t.InRange p := by
        rintro ⟨t', ht', hp, -⟩
        obtain ⟨-, hstart, hstop⟩ := h.sound _ _ _ ht'
        rwa [InRange, hpool.start_eq, hpool.stop_eq, ← hstart, ← hstop]
      rw [hmem]
      by_cases hp : t.InRange p
      · rw [hout.taken p hp, hpool.taken_iff p hp]
        simp [hp]
      · have hnew : p ∉ op.returned t := fun hp' => hp (hout.free p hp').1
        simp [hp, hnew, mt hold hp]
    · simp [taken, Turnipports.call, hkey]

end Turnipports

open Turnipports

variable {R : PortRange} {pools : Turnipports} {tr : RelayTransport} {addr : IoaAddr}

/-- A call for one port hands out a free one, or changes nothing. -/
lemma turnipportsAllocate_taken {r : Int × Turnipports} (h : pools.Fitting → pools.Sound R)
    (hr : turnipportsAllocate rnd pools tr addr = r) (hfit : r.2.Fitting) :
    pools.Fitting ∧ r.2.Sound R ∧ ((r.1 = -1 ∧ r.2.taken = pools.taken) ∨
      ∃ port : Nat, r.1 = port ∧ (0 < port ∧ port ≤ 65535) ∧
        (tr, addrSetPort 0 addr, port) ∉ pools.taken ∧
        r.2.taken = insert (tr, addrSetPort 0 addr, port) pools.taken) := by
  cases ht : turnipportsAdd rnd pools tr addr with
  | none =>
    obtain rfl : (-1, pools) = r := by simp [← hr, turnipportsAllocate, ht]
    exact ⟨hfit, h hfit, Or.inl ⟨rfl, rfl⟩⟩
  | some t =>
    obtain rfl : ((turnportsAllocate t).1, pools.call tr (addrSetPort 0 addr) t .allocate) = r := by
      simp [← hr, turnipportsAllocate, ht]
    obtain ⟨hfits, hfit⟩ := fitting_call.mp hfit
    obtain ⟨hpool, -⟩ := (h hfit).add ht
    obtain ⟨hsound, htaken⟩ := (h hfit).call hpool hfits
    refine ⟨hfit, hsound, ?_⟩
    rcases turnportsAllocate_result t with hres | ⟨port, hres⟩
    · refine Or.inl ⟨hres, Set.ext fun x => ?_⟩
      rw [htaken, PoolOp.returned_allocate_fail hres]
      simp [PoolOp.Frees]
    · have hone := PoolOp.returned_allocate hres
      obtain ⟨hmem, hfree⟩ := (PoolOp.outcome hpool.sound hfits).free port (by simp [hone])
      refine Or.inr ⟨port, hres, ?_, mt (hpool.taken_iff port hmem).mpr hfree, Set.ext fun x => ?_⟩
      · rw [InRange, hpool.start_eq, hpool.stop_eq] at hmem
        exact ⟨R.start_pos.trans_le hmem.1, hmem.2.trans R.stop_le⟩
      · rw [htaken, hone]
        simp [PoolOp.Frees, Prod.ext_iff, and_assoc, or_comm]

/-- The search hands out a free pair, or changes nothing but that it may give back 65535 of a full
pool. -/
lemma turnipportsAllocateEven_taken {tokenRnd : Nat} {r : Int × Nat × Turnipports}
    (h : pools.Fitting → pools.Sound R)
    (hr : turnipportsAllocateEven rnd tokenRnd pools addr = r) (hfit : r.2.2.Fitting) :
    pools.Fitting ∧ r.2.2.Sound R ∧
      ((r.1 = -1 ∧ r.2.2.taken =
          pools.taken \ {x | x = (.udp, addrSetPort 0 addr, 65535) ∧ pools.GivesBack addr}) ∨
        ∃ port : Nat, r.1 = port ∧ port % 2 = 0 ∧ (R.start ≤ port ∧ port + 1 ≤ R.stop) ∧
          (.udp, addrSetPort 0 addr, port) ∉ pools.taken ∧
          (.udp, addrSetPort 0 addr, port + 1) ∉ pools.taken ∧
          r.2.2.taken = insert (.udp, addrSetPort 0 addr, port)
            (insert (.udp, addrSetPort 0 addr, port + 1) pools.taken)) := by
  cases ht : turnipportsAdd rnd pools .udp addr with
  | none =>
    obtain rfl : (-1, 0, pools) = r := by simp [← hr, turnipportsAllocateEven, ht]
    have hback : ¬ pools.GivesBack addr := by
      rintro ⟨t, hpool, -⟩
      have hpool : pools.pools .udp (addrSetPort 0 addr) = some t := hpool
      simp [turnipportsAdd, hpool] at ht
    exact ⟨hfit, h hfit, Or.inl ⟨rfl, by simp [hback]⟩⟩
  | some t =>
    obtain rfl : ((turnportsAllocateEven tokenRnd t).1, (turnportsAllocateEven tokenRnd t).2.1,
        pools.call .udp (addrSetPort 0 addr) t (.allocateEven tokenRnd)) = r := by
      simp [← hr, turnipportsAllocateEven, ht]
    obtain ⟨hfits, hfit⟩ := fitting_call.mp hfit
    obtain ⟨hpool, hback⟩ := (h hfit).add ht
    obtain ⟨hsound, htaken⟩ := (h hfit).call hpool hfits
    refine ⟨hfit, hsound, ?_⟩
    rcases turnportsAllocateEven_result tokenRnd t with hres | ⟨port, hres⟩
    · refine Or.inl ⟨hres, Set.ext fun x => ?_⟩
      rw [htaken, PoolOp.returned_allocateEven_fail hres, ← hback rfl]
      simp [PoolOp.Frees, Prod.ext_iff]
      tauto
    · obtain ⟨⟨heven, hmem, hmem'⟩, ⟨hfree, hfree'⟩, -⟩ :=
        (turnportsAllocateEven_outcome tokenRnd hpool.sound hfits).found port hres
      have hno : ¬ t.GivesBack := fun hback => hfree (hback.full port hmem)
      refine Or.inr ⟨port, hres, heven, ?_, mt (hpool.taken_iff port hmem).mpr hfree,
        mt (hpool.taken_iff _ hmem').mpr hfree', Set.ext fun x => ?_⟩
      · rw [InRange, hpool.start_eq, hpool.stop_eq] at hmem hmem'
        exact ⟨hmem.1, hmem'.2⟩
      · rw [htaken, PoolOp.returned_allocateEven hres]
        simp [PoolOp.Frees, hno, Prod.ext_iff]
        tauto

lemma turnipportsRelease_taken (h : pools.Fitting → pools.Sound R)
    (hfit : (turnipportsRelease pools tr addr).Fitting) :
    pools.Fitting ∧ (turnipportsRelease pools tr addr).Sound R ∧
      (turnipportsRelease pools tr addr).taken =
        pools.taken \ {(tr, addrSetPort 0 addr, (addrGetPort addr).toNat)} := by
  cases ht : pools.pools tr (addrSetPort 0 addr) with
  | none =>
    have heq : turnipportsRelease pools tr addr = pools := by simp [turnipportsRelease, ht]
    rw [heq] at hfit ⊢
    refine ⟨hfit, h hfit, (Set.sdiff_singleton_eq_self ?_).symm⟩
    rintro ⟨t, hpool, -⟩
    simp [ht] at hpool
  | some t =>
    have heq : turnipportsRelease pools tr addr =
        pools.call tr (addrSetPort 0 addr) t (.release (addrGetPort addr).toNat) := by
      simp [turnipportsRelease, ht]
    rw [heq] at hfit ⊢
    obtain ⟨hfits, hfit⟩ := fitting_call.mp hfit
    obtain ⟨hsound, htaken⟩ := (h hfit).call ((h hfit).poolOf ht) hfits
    refine ⟨hfit, hsound, Set.ext fun x => ?_⟩
    rw [htaken]
    simp [PoolOp.returned, PoolOp.Frees, Prod.ext_iff, and_assoc]

end Coturn
