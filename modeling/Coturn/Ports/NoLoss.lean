/-
# No port is lost

The pool read as a lazily cleaned ring queue: every call is a sequence of moves of that queue
(`PoolOp.steps`), provided the counter `high` stays below the marks and a released port finds room.
A range of `n` ports has at most `n / 2` pairs, and `n + n / 2 ≤ 65536` is enough; for larger ranges
a cell of a free port can be overwritten.
-/
import Mathlib.Tactic.Linarith
import Coturn.Lib.LazyRing
import Coturn.Ports.Exclusive

namespace Coturn

open Turnports Function

variable {p : Nat}

/-- A port and the one after it, when they can be taken as a pair. -/
def PortMate (start stop k m : Nat) : Prop := k % 2 = 0 ∧ m = k + 1 ∧ start ≤ k ∧ m ≤ stop

/-- The pool as a lazily cleaned ring queue. -/
def Turnports.toRing (tp : Turnports) : LazyRing Nat where
  pos p := if tp.InRange p ∧ ¬ tp.Taken p then some (tp.status p) else none
  cell := tp.ports
  low := tp.low
  high := tp.high

/-- A move of the ring. -/
abbrev Turnports.RingStep (tp : Turnports) : LazyRing Nat → LazyRing Nat → Prop :=
  LazyRing.Step 65536 (PortMate tp.rangeStart tp.rangeStop)

/-- The queue is sound, and its counters fit. -/
structure Turnports.Sound (tp : Turnports) : Prop where
  ring : tp.toRing.Sound 65536 (PortMate tp.rangeStart tp.rangeStop)
  high_le : tp.high ≤ tpsTakenOdd
  rangeStop_lt : tp.rangeStop < 65536

variable {start stop : Nat} {tp : Turnports}

variable {x l : Nat}

lemma Turnports.toRing_pos_eq_some :
    tp.toRing.pos p = some x ↔ (tp.InRange p ∧ ¬ tp.Taken p) ∧ tp.status p = x := by
  simp [toRing]

lemma Turnports.toRing_pos_eq_none : tp.toRing.pos p = none ↔ ¬ tp.InRange p ∨ tp.Taken p := by
  simp only [toRing, ite_eq_right_iff, reduceCtorEq, imp_false, not_and_or, not_not]

lemma Turnports.toRing_live_iff (hrange : tp.InRange (tp.entry x)) :
    tp.toRing.pos (tp.toRing.entry 65536 x) = some x ↔ tp.Live x := by
  rw [toRing_pos_eq_some]
  exact ⟨fun h => ⟨h.1.2, h.2⟩, fun h => ⟨⟨hrange, h.1⟩, h.2⟩⟩

lemma Turnports.Sound.entry_mem (h : tp.Sound) (hlow : tp.low ≤ x) (hx : x < tp.high) :
    tp.InRange (tp.entry x) := by
  by_cases hlive : tp.toRing.pos (tp.toRing.entry 65536 x) = some x
  · exact (toRing_pos_eq_some.mp hlive).1.1
  · obtain ⟨k, ⟨-, hm, hstart, hstop⟩, -⟩ := h.ring.stale_mate x ⟨hlow, hx, hlive⟩
    have hentry : tp.toRing.entry 65536 x = tp.entry x := rfl
    rw [hentry] at hm hstop
    exact ⟨by omega, hstop⟩

lemma Turnports.Sound.status_mem (h : tp.Sound) (hrange : tp.InRange p) (hfree : ¬ tp.Taken p) :
    tp.low ≤ tp.status p ∧ tp.status p < tp.high ∧ tp.ports (tp.status p % 65536) = p :=
  h.ring.pos_entry p (tp.status p) (toRing_pos_eq_some.mpr ⟨⟨hrange, hfree⟩, rfl⟩)

lemma Turnports.Sound.isAvailable (h : tp.Sound) (hrange : tp.InRange p) (hfree : ¬ tp.Taken p) :
    turnportsIsAvailable tp p = true := by
  obtain ⟨-, hlt, hcell⟩ := h.status_mem hrange hfree
  have hle := h.high_le
  have hne : tp.status p ≠ tpsOutOfRange := by
    simp only [tpsTakenOdd] at hle
    simp only [tpsOutOfRange]
    omega
  have hfree' : isTaken (tp.status p) = false := by simpa [Taken] using hfree
  simp [turnportsIsAvailable, hne, hfree', hcell]

/-! ## The moves of the calls -/

lemma Turnports.steps_skip (hl : tp.low ≤ l) (hskip : tp.PassesTo l) :
    Relation.ReflTransGen tp.RingStep tp.toRing { tp.toRing with low := l } := by
  induction l, hl using Nat.le_induction with
  | base => exact Relation.ReflTransGen.refl
  | succ l hl ih =>
    refine (ih fun x hx hxl => hskip x hx (by omega)).tail ?_
    obtain ⟨hx, hrange, hlive⟩ := hskip l hl (Nat.lt_succ_self l)
    exact LazyRing.Step.skip { tp.toRing with low := l } hx
      (fun h => hlive ((toRing_live_iff hrange).mp h))

lemma Turnports.toRing_popAt (x : Nat) :
    (tp.popAt x).toRing =
      { tp.toRing with pos := update tp.toRing.pos (tp.entry x) none, low := x + 1 } := by
  have hpos : (tp.popAt x).toRing.pos = update tp.toRing.pos (tp.entry x) none := by
    funext p
    by_cases hp : p = tp.entry x
    · subst hp
      rw [update_self, toRing_pos_eq_none]
      exact Or.inr (by simp [Taken, popAt])
    · rw [update_of_ne hp]
      simp [toRing, popAt, InRange, Taken, update_of_ne hp]
  exact LazyRing.ext hpos rfl rfl rfl

lemma Turnports.step_pop (hlt : l < tp.high) (hrange : tp.InRange (tp.entry l))
    (hlive : tp.Live l) : tp.RingStep { tp.toRing with low := l } (tp.popAt l).toRing := by
  rw [toRing_popAt]
  exact LazyRing.Step.pop { tp.toRing with low := l } (tp.entry l) hlt rfl
    ((toRing_live_iff hrange).mpr hlive)

lemma Turnports.toRing_pushPort (hrange : tp.InRange p) (hhigh : tp.high < tpsTakenOdd) :
    (tp.pushPort p).toRing =
      { tp.toRing with
        pos := update tp.toRing.pos p (some tp.high)
        cell := update tp.toRing.cell (tp.high % 65536) p
        high := tp.high + 1 } := by
  have hpos : (tp.pushPort p).toRing.pos = update tp.toRing.pos p (some tp.high) := by
    funext q
    by_cases hq : q = p
    · subst hq
      rw [update_self, toRing_pos_eq_some]
      refine ⟨⟨hrange, ?_⟩, by simp [pushPort]⟩
      simp [Taken, pushPort, isTaken_eq_false_of_lt hhigh]
    · rw [update_of_ne hq]
      simp [toRing, pushPort, InRange, Taken, update_of_ne hq]
  have hwrap : (tp.pushPort p).high = tp.high + 1 :=
    Nat.mod_eq_of_lt (by simp only [tpsTakenOdd] at hhigh; omega)
  exact LazyRing.ext hpos rfl rfl hwrap

lemma Turnports.step_push (hrange : tp.InRange p) (htaken : tp.Taken p)
    (hhigh : tp.high < tpsTakenOdd) (hroom : tp.high < tp.low + 65536) :
    tp.RingStep tp.toRing (tp.pushPort p).toRing := by
  rw [toRing_pushPort hrange hhigh]
  exact LazyRing.Step.push tp.toRing p (toRing_pos_eq_none.mpr (Or.inr htaken)) hroom

lemma Turnports.step_popPair (hlt : l < tp.high) (hrange : tp.InRange (tp.entry l))
    (hlive : tp.Live l) (heven : tp.entry l % 2 = 0) (hstop : tp.entry l + 1 ≤ tp.rangeStop)
    (hav : turnportsIsAvailable (tp.popAt l) (tp.entry l + 1) = true) :
    tp.RingStep { tp.toRing with low := l } ((tp.popAt l).markPair (tp.entry l)).toRing := by
  have hne : tp.entry l + 1 ≠ tp.entry l := by omega
  have hrange' : tp.InRange (tp.entry l + 1) := ⟨by have := hrange.1; omega, hstop⟩
  have hfree : ¬ tp.Taken (tp.entry l + 1) := by
    intro htaken
    have hst : (tp.popAt l).status (tp.entry l + 1) = tp.status (tp.entry l + 1) :=
      update_of_ne hne _ _
    have htaken' : isTaken (tp.status (tp.entry l + 1)) = true := htaken
    simp [turnportsIsAvailable, hst, htaken'] at hav
  have hpos : ((tp.popAt l).markPair (tp.entry l)).toRing.pos =
      update (update tp.toRing.pos (tp.entry l) none) (tp.entry l + 1) none := by
    funext p
    by_cases hp₁ : p = tp.entry l + 1
    · subst hp₁
      rw [update_self, toRing_pos_eq_none]
      exact Or.inr (by simp [Taken, markPair])
    · rw [update_of_ne hp₁]
      by_cases hp₀ : p = tp.entry l
      · subst hp₀
        rw [update_self, toRing_pos_eq_none]
        exact Or.inr (by simp [Taken, markPair])
      · rw [update_of_ne hp₀]
        simp [toRing, markPair, popAt, InRange, Taken, hp₀, hp₁]
  have heq : ((tp.popAt l).markPair (tp.entry l)).toRing =
      { tp.toRing with
        pos := update (update tp.toRing.pos (tp.entry l) none)
          (tp.entry l + 1) none
        low := l + 1 } := LazyRing.ext hpos rfl rfl rfl
  rw [heq]
  exact LazyRing.Step.popPair { tp.toRing with low := l } (tp.entry l) (tp.entry l + 1)
    (tp.status (tp.entry l + 1)) hlt rfl ((toRing_live_iff hrange).mpr hlive)
    ⟨heven, rfl, hrange.1, hstop⟩ hne (toRing_pos_eq_some.mpr ⟨⟨hrange', hfree⟩, rfl⟩)

lemma portMate_unique {k k' m : Nat} (h : PortMate start stop k m) (h' : PortMate start stop k' m) :
    k = k' := by
  obtain ⟨-, hm, -⟩ := h
  obtain ⟨-, hm', -⟩ := h'
  omega

lemma Turnports.Sound.of_steps (h : tp.Sound) {tp' : Turnports}
    (hsteps : Relation.ReflTransGen tp.RingStep tp.toRing tp'.toRing)
    (hstart : tp'.rangeStart = tp.rangeStart) (hstop : tp'.rangeStop = tp.rangeStop)
    (hhigh : tp'.high ≤ tpsTakenOdd) : tp'.Sound := by
  refine ⟨?_, hhigh, hstop ▸ h.rangeStop_lt⟩
  rw [hstart, hstop]
  exact LazyRing.Steps.sound (fun k k' m => portMate_unique) hsteps h.ring

lemma Turnports.Sound.high_lt (h : tp.Sound) : tp.high < 4294967296 := by
  have hle := h.high_le
  simp only [tpsTakenOdd] at hle
  omega

lemma Turnports.Sound.skip_le (h : tp.Sound) (hl : tp.low ≤ l) (hskip : tp.PassesTo l) :
    l ≤ tp.high := by
  have hle : tp.low ≤ tp.high := h.ring.low_le_high
  rcases Nat.eq_or_lt_of_le hl with rfl | hlt
  · exact hle
  · have := (hskip (l - 1) (by omega) (by omega)).1
    omega

lemma turnportsAllocate_steps (h : tp.Sound) :
    Relation.ReflTransGen tp.RingStep tp.toRing (turnportsAllocate tp).2.toRing := by
  obtain ⟨l, hl, hskip, ⟨halloc, -⟩ | ⟨hlt, hrange, hlive, halloc⟩⟩ :=
    turnportsAllocate_cases h.high_lt
  · rw [halloc]
    exact steps_skip hl hskip
  · rw [halloc]
    exact (steps_skip hl hskip).tail (step_pop hlt hrange hlive)

lemma turnportsAllocate_eq_neg_one (h : tp.Sound) (hfail : (turnportsAllocate tp).1 = -1)
    (hrange : tp.InRange p) : tp.Taken p := by
  by_contra hfree
  obtain ⟨hlow, hhigh, hcell⟩ := h.status_mem hrange hfree
  have hentry : tp.entry (tp.status p) = p := hcell
  have hlive : tp.Live (tp.status p) := ⟨by rw [hentry]; exact hfree, by rw [hentry]⟩
  obtain ⟨l, hl, hskip, ⟨-, hend⟩ | ⟨-, -, -, halloc⟩⟩ := turnportsAllocate_cases h.high_lt
  · have hpast : tp.status p < l := by
      rcases hend with hend | hout
      · omega
      · by_contra hle
        exact hout (h.entry_mem hl (by omega))
    exact (hskip _ hlow hpast).2.2 hlive
  · rw [halloc] at hfail
    simp only at hfail
    omega

/-- The counter `high` stays below the marks, and a released port finds room in the ring. -/
def Turnports.Fits (tp : Turnports) : PoolOp → Prop
  | .allocate => True
  | .allocateEven _ => tp.high + turnportsSize tp ≤ tpsTakenOdd
  | .release port => tp.InRange port → tp.Taken port → tp.high < tpsTakenOdd ∧
      ((tp.rangeStop + 1 - tp.rangeStart) + (tp.rangeStop + 1 - tp.rangeStart) / 2 ≤ 65536 ∨
        tp.high < tp.low + 65536)

instance (tp : Turnports) : (op : PoolOp) → Decidable (tp.Fits op)
  | .allocate => isTrue trivial
  | .allocateEven _ => inferInstanceAs (Decidable (_ ≤ _))
  | .release port => inferInstanceAs (Decidable (tp.InRange port → tp.Taken port → _ ∧ (_ ∨ _)))

/-- The port that is popped makes the room for the one that returns to the tail. -/
lemma Turnports.Sound.rotate (h : tp.Sound) (hl : tp.low ≤ l) (hskip : tp.PassesTo l)
    (hlt : l < tp.high) (hrange : tp.InRange (tp.entry l)) (hlive : tp.Live l)
    (hhigh : tp.high < tpsTakenOdd) : ((tp.popAt l).pushPort (tp.entry l)).Sound := by
  have hroom : tp.high ≤ tp.low + 65536 := h.ring.high_le
  have hpush : (tp.popAt l).RingStep (tp.popAt l).toRing
      ((tp.popAt l).pushPort (tp.entry l)).toRing := by
    refine step_push hrange (by simp [Taken, popAt]) hhigh ?_
    show tp.high < l + 1 + 65536
    omega
  refine h.of_steps (((steps_skip hl hskip).tail (step_pop hlt hrange hlive)).tail hpush) rfl rfl ?_
  exact (pushPort_high_le _).trans hhigh

/-- When `turnports_allocate` fails, the queue is exhausted. -/
lemma Turnports.Sound.giveBack (h : tp.Sound) (hl : tp.low ≤ l) (hskip : tp.PassesTo l)
    (hfail : tp.high ≤ l ∨ ¬ tp.InRange (tp.entry l)) (hhigh : tp.high < tpsTakenOdd) :
    (turnportsRelease { tp with low := l } 65535).Sound := by
  have hend : l = tp.high := by
    have hle := h.skip_le hl hskip
    rcases hfail with hend | hout
    · omega
    · by_contra hne
      exact hout (h.entry_mem hl (by omega))
  have hskipped : Turnports.Sound { tp with low := l } :=
    h.of_steps (steps_skip hl hskip) rfl rfl h.high_le
  rcases turnportsRelease_cases { tp with low := l } 65535 with ⟨hin, htaken, hrel⟩ | ⟨-, hrel⟩
  · rw [hrel]
    refine hskipped.of_steps (.single (step_push hin htaken hhigh ?_)) rfl rfl ?_
    · show tp.high < l + 65536
      omega
    · exact (pushPort_high_le _).trans hhigh
  · rw [hrel]
    exact hskipped

lemma turnportsRelease_high_le (tp : Turnports) (port : Nat) :
    (turnportsRelease tp port).high ≤ tp.high + 1 := by
  rcases turnportsRelease_cases tp port with ⟨-, -, hrel⟩ | ⟨-, hrel⟩ <;> rw [hrel]
  · exact pushPort_high_le port
  · exact Nat.le_succ _

lemma turnportsAllocateEvenLoop_sound (rnd : Nat) {n : Nat} (h : tp.Sound)
    (hcount : tp.high + n ≤ tpsTakenOdd) : (turnportsAllocateEvenLoop rnd n tp).2.2.Sound := by
  induction n generalizing tp with
  | zero => exact h
  | succ n ih =>
    obtain ⟨l, hl, hskip, ⟨-, hfail, heq⟩ | ⟨hlt, hrange, hlive, ⟨-, heq⟩ |
        ⟨heven, hstop, hav, heq⟩⟩⟩ :=
      turnportsAllocateEvenLoop_cases rnd n h.high_lt h.rangeStop_lt
    · rw [heq]
      refine ih (h.giveBack hl hskip hfail (by omega)) ?_
      have hle : (turnportsRelease { tp with low := l } 65535).high ≤ tp.high + 1 :=
        turnportsRelease_high_le { tp with low := l } 65535
      omega
    · rw [heq]
      have hwrap : (tp.high + 1) % 4294967296 ≤ tp.high + 1 := Nat.mod_le _ _
      refine ih (h.rotate hl hskip hlt hrange hlive (by omega)) ?_
      show (tp.high + 1) % 4294967296 + n ≤ tpsTakenOdd
      omega
    · rw [heq]
      exact h.of_steps ((steps_skip hl hskip).tail
        (step_popPair hlt hrange hlive heven hstop hav)) rfl rfl h.high_le

/-! ## Room in the ring -/

/-- The ports that can be taken as the second of a pair. -/
def pairedPorts (start stop : Nat) : Finset Nat :=
  (Finset.Icc start stop).filter fun m => m % 2 = 1 ∧ start < m

lemma card_pairedPorts_le (start stop : Nat) :
    (pairedPorts start stop).card ≤ (stop + 1 - start) / 2 := by
  -- the ports before them are as many, and all are different ports of the range
  let firsts := (pairedPorts start stop).image fun m => m - 1
  have hmem : ∀ m ∈ pairedPorts start stop, start < m ∧ m ≤ stop ∧ m % 2 = 1 := by
    intro m hm
    simp only [pairedPorts, Finset.mem_filter, Finset.mem_Icc] at hm
    exact ⟨hm.2.2, hm.1.2, hm.2.1⟩
  have hcard : firsts.card = (pairedPorts start stop).card := by
    refine Finset.card_image_of_injOn fun m hm m' hm' he => ?_
    have h₁ := hmem m hm
    have h₂ := hmem m' hm'
    have he' : m - 1 = m' - 1 := he
    omega
  have hdisj : Disjoint firsts (pairedPorts start stop) := by
    rw [Finset.disjoint_left]
    intro k hk hk'
    obtain ⟨m, hm, rfl⟩ := Finset.mem_image.mp hk
    have h₁ := hmem m hm
    have h₂ := hmem (m - 1) hk'
    omega
  have hsub : firsts ∪ pairedPorts start stop ⊆ Finset.Icc start stop := by
    intro k hk
    rw [Finset.mem_Icc]
    rcases Finset.mem_union.mp hk with hk | hk
    · obtain ⟨m, hm, rfl⟩ := Finset.mem_image.mp hk
      have h₁ := hmem m hm
      omega
    · have h₁ := hmem k hk
      omega
  have hle := Finset.card_le_card hsub
  rw [Finset.card_union_of_disjoint hdisj, hcard, Nat.card_Icc] at hle
  omega

/-- The queue has no more entries than there are free ports and pairs. -/
lemma Turnports.Sound.length_le (h : tp.Sound) {free : Finset Nat}
    (hfree : ∀ p, tp.InRange p → ¬ tp.Taken p → p ∈ free) :
    tp.high - tp.low ≤ free.card + (tp.rangeStop + 1 - tp.rangeStart) / 2 := by
  have hkeys : ∀ k x, tp.toRing.pos k = some x → k ∈ free := by
    intro k x hk
    obtain ⟨⟨hin, hnot⟩, -⟩ := toRing_pos_eq_some.mp hk
    exact hfree k hin hnot
  have hmates : ∀ k m, PortMate tp.rangeStart tp.rangeStop k m →
      m ∈ pairedPorts tp.rangeStart tp.rangeStop := by
    rintro k m ⟨heven, rfl, hstart, hstop⟩
    simp only [pairedPorts, Finset.mem_filter, Finset.mem_Icc]
    omega
  have hlen : tp.high - tp.low ≤ _ := h.ring.length_le hkeys hmates
  have hpairs := card_pairedPorts_le tp.rangeStart tp.rangeStop
  omega

lemma Turnports.Sound.room (h : tp.Sound) (hrange : tp.InRange p) (htaken : tp.Taken p)
    (hsmall : (tp.rangeStop + 1 - tp.rangeStart) + (tp.rangeStop + 1 - tp.rangeStart) / 2 ≤ 65536) :
    tp.high < tp.low + 65536 := by
  have hfree : ∀ k, tp.InRange k → ¬ tp.Taken k →
      k ∈ (Finset.Icc tp.rangeStart tp.rangeStop).erase p := by
    intro k hin hnot
    rw [Finset.mem_erase, Finset.mem_Icc]
    exact ⟨fun he => hnot (he ▸ htaken), hin⟩
  have hlen := h.length_le hfree
  have hmem : p ∈ Finset.Icc tp.rangeStart tp.rangeStop := Finset.mem_Icc.mpr hrange
  rw [Finset.card_erase_of_mem hmem, Nat.card_Icc] at hlen
  have hle := hrange.1
  have hle' := hrange.2
  omega

/-! ## Runs -/

def Turnports.step (tp : Turnports) (op : PoolOp) : Turnports := op.after tp

lemma Turnports.Sound.after (h : tp.Sound) {op : PoolOp} (hfits : tp.Fits op) :
    (op.after tp).Sound := by
  cases op with
  | allocate =>
    have hsteps := turnportsAllocate_steps h
    obtain ⟨l, -, -, ⟨halloc, -⟩ | ⟨-, -, -, halloc⟩⟩ := turnportsAllocate_cases h.high_lt
    all_goals
      rw [halloc] at hsteps
      rw [PoolOp.after, halloc]
      exact h.of_steps hsteps rfl rfl h.high_le
  | allocateEven rnd =>
    rw [PoolOp.after, turnportsAllocateEven]
    split
    · exact turnportsAllocateEvenLoop_sound rnd h hfits
    · exact h
  | release port =>
    rw [PoolOp.after]
    rcases turnportsRelease_cases tp port with ⟨hrange, htaken, hrel⟩ | ⟨-, hrel⟩
    · obtain ⟨hhigh, hroom⟩ := hfits hrange htaken
      have hroom' : tp.high < tp.low + 65536 := hroom.elim (h.room hrange htaken) id
      rw [hrel]
      refine h.of_steps (.single (step_push hrange htaken hhigh hroom')) rfl rfl ?_
      exact (pushPort_high_le _).trans hhigh
    · rw [hrel]
      exact h

lemma Turnports.Shuffled.sound (h : tp.Shuffled start stop) (hle : start ≤ stop)
    (hstop : stop ≤ 65535) : tp.Sound := by
  have hmod : ∀ x, x ≤ stop → x % 65536 = x := fun x hx => Nat.mod_eq_of_lt (by omega)
  have hfree : ∀ p, start ≤ p → p ≤ stop → ¬ tp.Taken p := by
    intro p hp hp'
    have hst := h.status_mem p hp hp'
    rw [Taken, Bool.not_eq_true]
    exact isTaken_eq_false_of_lt (by simp only [tpsTakenOdd]; omega)
  have hnostale : ∀ x, ¬ tp.toRing.Stale 65536 x := by
    rintro x ⟨hlow, hhigh, hstale⟩
    have hx : start ≤ x := h.low_eq ▸ hlow
    have hx' : x < stop + 1 := h.high_eq ▸ hhigh
    obtain ⟨h₁, h₂, hst⟩ := h.ports_mem x hx (by omega)
    apply hstale
    have hentry : tp.toRing.entry 65536 x = tp.ports x := by
      show tp.ports (x % 65536) = tp.ports x
      rw [hmod x (by omega)]
    rw [hentry, toRing_pos_eq_some]
    exact ⟨⟨⟨h.rangeStart_eq ▸ h₁, h.rangeStop_eq ▸ h₂⟩, hfree _ h₁ h₂⟩, hst⟩
  refine ⟨⟨?_, ?_, fun p x hp => ?_, fun x hx => absurd hx (hnostale x),
    fun x y hx => absurd hx (hnostale x)⟩, ?_, ?_⟩
  · show tp.low ≤ tp.high
    rw [h.low_eq, h.high_eq]
    omega
  · show tp.high ≤ tp.low + 65536
    rw [h.low_eq, h.high_eq]
    omega
  · obtain ⟨⟨⟨h₁, h₂⟩, -⟩, rfl⟩ := toRing_pos_eq_some.mp hp
    rw [h.rangeStart_eq] at h₁
    rw [h.rangeStop_eq] at h₂
    obtain ⟨hs₁, hs₂, hs⟩ := h.status_mem p h₁ h₂
    refine ⟨?_, ?_, ?_⟩
    · show tp.low ≤ tp.status p
      rw [h.low_eq]
      exact hs₁
    · show tp.status p < tp.high
      rw [h.high_eq]
      omega
    · show tp.ports (tp.status p % 65536) = p
      rw [hmod _ hs₂, hs]
  · rw [h.high_eq]
    simp only [tpsTakenOdd]
    omega
  · rw [h.rangeStop_eq]
    omega

/-- In every run of calls that fit, a port that is not taken stands in the queue; so
`turnports_allocate` fails only when every port is taken. -/
theorem turnports_no_port_lost (rnd : Nat → Nat) (start stop : Nat) (hle : start ≤ stop)
    (hstop : stop ≤ 65535) (ops : List PoolOp)
    (hops : Machine.Along Turnports.step Turnports.Fits
      (turnportsInit rnd start stop) ops) :
    let tp := Machine.run Turnports.step (turnportsInit rnd start stop) ops
    (∀ p, tp.InRange p → ¬ tp.Taken p →
        tp.low ≤ tp.status p ∧ tp.status p < tp.high ∧ tp.ports (tp.status p % 65536) = p) ∧
      ((turnportsAllocate tp).1 = -1 → ∀ p, tp.InRange p → tp.Taken p) := by
  intro tp
  have hinit : (turnportsInit rnd start stop).Sound :=
    (turnportsInit_shuffled rnd hle (by omega)).sound hle hstop
  have hstep : ∀ tp op, Turnports.Sound tp → tp.Fits op → (tp.step op).Sound :=
    fun tp op h hfits => h.after hfits
  have hsound : tp.Sound := Machine.run_invariant hstep hops hinit
  exact ⟨fun p hrange hfree => hsound.status_mem hrange hfree,
    fun hfail p hrange => turnportsAllocate_eq_neg_one hsound hfail hrange⟩

/-- With all ports in the pool, a stale entry fills the ring. -/
def overflown : Turnports :=
  Machine.run Turnports.step (turnportsInit swapSecondThird 0 65535)
    [.allocate, .allocateEven 0, .release 0, .release 2, .release 3]

/-- The cell of the free port 1 is overwritten. -/
theorem turnportsRelease_loses_port :
    overflown.InRange 1 ∧ ¬ overflown.Taken 1 ∧ overflown.status 1 = 2 ∧ overflown.ports 2 = 3 := by
  rw [overflown, turnportsInit_swapSecondThird (by decide)]
  decide +kernel

/-- A pair is allocated and its even port released, which then stands in the queue again. -/
theorem turnports_no_port_lost_small :
    let tp := Machine.run Turnports.step (turnportsInit swapSecondThird 49152 49155)
      [.allocateEven 0, .release 49152]
    tp.Taken 49153 ∧ ¬ tp.Taken 49152 ∧
      (tp.low ≤ tp.status 49152 ∧ tp.status 49152 < tp.high ∧
        tp.ports (tp.status 49152 % 65536) = 49152) ∧
      (turnportsAllocate tp).1 ≠ -1 := by
  have hinit : turnportsInit swapSecondThird 49152 49155 = _ :=
    turnportsInit_swapSecondThird (by decide)
  have hlost := turnports_no_port_lost swapSecondThird 49152 49155 (by decide) (by decide)
    [.allocateEven 0, .release 49152] (by rw [hinit]; decide +kernel)
  rw [hinit] at hlost ⊢
  have hfree : ¬ (Machine.run Turnports.step (turnportsSwap (turnportsFill 49152 49155) 1 2)
      [.allocateEven 0, .release 49152]).Taken 49152 := by decide +kernel
  have hrange : (Machine.run Turnports.step (turnportsSwap (turnportsFill 49152 49155) 1 2)
      [.allocateEven 0, .release 49152]).InRange 49152 := by decide +kernel
  exact ⟨by decide +kernel, hfree, hlost.1 _ hrange hfree,
    fun hfail => hfree (hlost.2 hfail _ hrange)⟩

end Coturn
