/-
# The bandwidth capacity of the server

`allocate_bps` of `apps/relay/netengine.c` gives out parts of `bps_capacity` and takes them back,
for all relay threads and without a lock: it loads `bps_capacity_allocated` and stores the new value
by a compare-and-swap. Each access to the atomics is one step of one thread, and a run is any
interleaving of steps.
-/
import Coturn.Lib.Run
import Mathlib.Algebra.BigOperators.Group.Finset.Basic
import Mathlib.Algebra.Order.BigOperators.Group.Finset

namespace Coturn

open Function

/-! ## Threads -/

/-- Where a thread is in `allocate_bps`, with its variables. A grant is given back under its number.
-/
inductive BpsPc where
  | idle
  /-- Before `bps_capacity` is loaded. -/
  | start (bps : ℕ)
  /-- Before the `fetch_add` of a server without a capacity. -/
  | add (bps : ℕ)
  /-- Before `bps_capacity_allocated` is loaded, at first or again. -/
  | load (bps : ℕ)
  /-- Before the test of the loop and its compare-and-swap. -/
  | swap (bps oldAlloc : ℕ)
  | returned (ret : ℕ)
  | releaseLoad (grant : ℕ)
  | releaseSwap (grant oldAlloc : ℕ)
  deriving DecidableEq

variable {pc : BpsPc}

/-- The thread is in no call. -/
def BpsPc.free : BpsPc → Bool
  | .idle | .returned _ => true
  | _ => false

/-- The grant that is being given back. -/
def BpsPc.releasing : BpsPc → Option ℕ
  | .releaseLoad grant | .releaseSwap grant _ => some grant
  | _ => none

/-- `bps_capacity_allocated`, the threads, and the grants: their number and amounts, those that are
live, and those whose release has been called. -/
structure BpsState (τ : Type) where
  allocated : ℕ
  pc : τ → BpsPc
  made : ℕ
  amount : ℕ → ℕ
  live : Finset ℕ
  claimed : Finset ℕ

def BpsState.init (τ : Type) : BpsState τ := ⟨0, fun _ => .idle, 0, fun _ => 0, ∅, ∅⟩

/-- What a thread does next: it calls `allocate_bps` for a session, or for the end of one, or it
goes on with its call. -/
inductive BpsAction where
  | allocate (bps : ℕ)
  | release (grant : ℕ)
  | go
  deriving DecidableEq

variable {τ : Type}

variable {i : τ × BpsAction}

namespace BpsState

section Steps

variable [DecidableEq τ]

/-- The thread goes on at `pc`. -/
def goto (s : BpsState τ) (t : τ) (pc : BpsPc) : BpsState τ :=
  { s with pc := Function.update s.pc t pc }

/-- The thread has stored the new value and returns the amount. -/
def grant (s : BpsState τ) (t : τ) (newAlloc amount : ℕ) : BpsState τ :=
  { s with
    allocated := newAlloc
    pc := Function.update s.pc t (.returned amount)
    made := s.made + 1
    amount := Function.update s.amount s.made amount
    live := insert s.made s.live }

/-- The thread returns from the release of a grant. -/
def ungrant (s : BpsState τ) (t : τ) (newAlloc grant : ℕ) : BpsState τ :=
  { s with
    allocated := newAlloc
    pc := Function.update s.pc t .idle
    live := s.live.erase grant }

/-- The next access of the thread. The atomics have 32 bits, the variables of the thread are
wider. -/
def go (cap : ℕ) (s : BpsState τ) (t : τ) : BpsState τ :=
  match s.pc t with
  | .idle | .returned _ => s
  | .start bps => s.goto t (if cap = 0 then .add bps else .load bps)
  | .add bps => s.grant t ((s.allocated + bps) % 2 ^ 32) bps
  | .load bps => s.goto t (.swap bps s.allocated)
  | .swap bps oldAlloc =>
    if oldAlloc < cap then
      let reserve := cap - oldAlloc
      let toAlloc := if reserve ≤ bps then reserve else bps
      if s.allocated = oldAlloc % 2 ^ 32 then s.grant t ((oldAlloc + toAlloc) % 2 ^ 32) toAlloc
      else s.goto t (.load bps)
    else s.goto t (.returned 0)
  | .releaseLoad grant => s.goto t (.releaseSwap grant s.allocated)
  | .releaseSwap grant oldAlloc =>
    let bps := s.amount grant
    if 0 < oldAlloc then
      let newAlloc := if bps ≤ oldAlloc then oldAlloc - bps else 0
      if s.allocated = oldAlloc % 2 ^ 32 then s.ungrant t (newAlloc % 2 ^ 32) grant
      else s.goto t (.releaseLoad grant)
    else s.ungrant t s.allocated grant

/-- A thread without a call may begin one; a grant is released at most once. -/
def step (cap : ℕ) (s : BpsState τ) (i : τ × BpsAction) : BpsState τ :=
  match i.2 with
  | .allocate bps =>
    if (s.pc i.1).free then s.goto i.1 (if 0 < bps then .start bps else .returned 0) else s
  | .release grant =>
    if (s.pc i.1).free ∧ grant < s.made ∧ grant ∉ s.claimed then
      { s.goto i.1 (.releaseLoad grant) with claimed := insert grant s.claimed }
    else s
  | .go => s.go cap i.1

end Steps

/-! ## The balance -/

/-- What was loaded is within the capacity, and includes a grant that is being released. -/
def Sound (cap : ℕ) (s : BpsState τ) : BpsPc → Prop
  | .idle | .returned _ => True
  | .start bps | .load bps => 0 < bps
  | .add _ => False
  | .swap bps oldAlloc => 0 < bps ∧ oldAlloc ≤ cap
  | .releaseLoad grant => grant ∈ s.live ∧ grant ∈ s.claimed
  | .releaseSwap grant oldAlloc =>
    grant ∈ s.live ∧ grant ∈ s.claimed ∧ s.amount grant ≤ oldAlloc ∧ oldAlloc ≤ cap

/-- The counter is the sum of the live grants, within the capacity; a grant is released by one
thread. -/
structure Balanced (cap : ℕ) (s : BpsState τ) : Prop where
  total : s.allocated = ∑ g ∈ s.live, s.amount g
  le_cap : s.allocated ≤ cap
  positive : ∀ g ∈ s.live, 0 < s.amount g
  live_lt : ∀ g ∈ s.live, g < s.made
  claimed_lt : ∀ g ∈ s.claimed, g < s.made
  unclaimed : ∀ g < s.made, g ∉ s.claimed → g ∈ s.live
  sound : ∀ t, s.Sound cap (s.pc t)
  once : ∀ t t' g, (s.pc t).releasing = some g → (s.pc t').releasing = some g → t = t'

lemma balanced_init (cap : ℕ) : (init τ).Balanced cap where
  total := rfl
  le_cap := Nat.zero_le _
  positive g hg := absurd hg (Finset.notMem_empty g)
  live_lt g hg := absurd hg (Finset.notMem_empty g)
  claimed_lt g hg := absurd hg (Finset.notMem_empty g)
  unclaimed g hg := absurd hg (Nat.not_lt_zero g)
  sound _ := trivial
  once t t' g h := by simp [init, BpsPc.releasing] at h

lemma Sound.claimed {cap : ℕ} {s : BpsState τ} {g : ℕ} (h : s.Sound cap pc)
    (hg : pc.releasing = some g) : g ∈ s.live ∧ g ∈ s.claimed := by
  cases pc with
  | releaseLoad grant =>
    obtain rfl := Option.some.inj hg
    exact h
  | releaseSwap grant oldAlloc =>
    obtain rfl := Option.some.inj hg
    exact ⟨h.1, h.2.1⟩
  | _ => exact absurd hg (by simp [BpsPc.releasing])

lemma Sound.mono {cap : ℕ} {s s' : BpsState τ} (h : s.Sound cap pc)
    (hlive : ∀ g, pc.releasing = some g → g ∈ s'.live) (hclaimed : s.claimed ⊆ s'.claimed)
    (hamount : ∀ g ∈ s.live, s'.amount g = s.amount g) : s'.Sound cap pc := by
  cases pc with
  | releaseLoad grant => exact ⟨hlive grant rfl, hclaimed h.2⟩
  | releaseSwap grant oldAlloc =>
    refine ⟨hlive grant rfl, hclaimed h.2.1, ?_, h.2.2.2⟩
    rw [hamount grant h.1]
    exact h.2.2.1
  | _ => exact h

variable [DecidableEq τ] {cap : ℕ} {s : BpsState τ} {t : τ}

/-! ## One step -/

lemma once_update (h : s.Balanced cap)
    (hpc : ∀ g, pc.releasing = some g → ∀ t' ≠ t, (s.pc t').releasing ≠ some g) (t₁ t₂ : τ) (g : ℕ)
    (h₁ : (update s.pc t pc t₁).releasing = some g)
    (h₂ : (update s.pc t pc t₂).releasing = some g) : t₁ = t₂ := by
  rw [update_apply] at h₁ h₂
  split_ifs at h₁ h₂ with ht₁ ht₂ ht₂
  · rw [ht₁, ht₂]
  · exact absurd h₂ (hpc g h₁ t₂ ht₂)
  · exact absurd h₁ (hpc g h₂ t₁ ht₁)
  · exact h.once t₁ t₂ g h₁ h₂

lemma Balanced.goto (h : s.Balanced cap) (hsound : s.Sound cap pc)
    (hpc : ∀ g, pc.releasing = some g → ∀ t' ≠ t, (s.pc t').releasing ≠ some g) :
    (s.goto t pc).Balanced cap := by
  refine ⟨h.total, h.le_cap, h.positive, h.live_lt, h.claimed_lt, h.unclaimed, fun t' => ?_,
    once_update h hpc⟩
  show Sound cap _ (update s.pc t pc t')
  rw [update_apply]
  split_ifs
  · exact hsound
  · exact h.sound t'

lemma Balanced.goto_same (h : s.Balanced cap) (hsound : s.Sound cap pc)
    (hpc : ∀ g, pc.releasing = some g → (s.pc t).releasing = some g) : (s.goto t pc).Balanced cap :=
  h.goto hsound fun g hg t' hne hg' => hne (h.once t' t g hg' (hpc g hg))

lemma Balanced.grant {amount : ℕ} (h : s.Balanced cap) (hpos : 0 < amount)
    (hcap : s.allocated + amount ≤ cap) :
    (s.grant t (s.allocated + amount) amount).Balanced cap := by
  have hnew : s.made ∉ s.live := fun hmem => Nat.lt_irrefl _ (h.live_lt _ hmem)
  have hamount : ∀ g ∈ s.live, update s.amount s.made amount g = s.amount g := by
    intro g hg
    exact update_of_ne (h.live_lt g hg).ne _ _
  refine ⟨?_, hcap, ?_, ?_, ?_, ?_, fun t' => ?_, ?_⟩
  · show s.allocated + amount = ∑ g ∈ insert s.made s.live, update s.amount s.made amount g
    rw [Finset.sum_insert hnew, update_self, Finset.sum_congr rfl hamount, h.total,
      Nat.add_comm]
  · intro g hg
    show 0 < update s.amount s.made amount g
    rcases Finset.mem_insert.mp hg with rfl | hg
    · rwa [update_self]
    · rw [hamount g hg]
      exact h.positive g hg
  · intro g hg
    rcases Finset.mem_insert.mp hg with rfl | hg
    · exact Nat.lt_succ_self _
    · exact (h.live_lt g hg).trans (Nat.lt_succ_self _)
  · exact fun g hg => (h.claimed_lt g hg).trans (Nat.lt_succ_self _)
  · intro g hg hunclaimed
    rcases Nat.lt_succ_iff_lt_or_eq.mp hg with hlt | rfl
    · exact Finset.mem_insert_of_mem (h.unclaimed g hlt hunclaimed)
    · exact Finset.mem_insert_self _ _
  · show Sound cap _ (update s.pc t (.returned amount) t')
    rw [update_apply]
    split_ifs
    · trivial
    · exact (h.sound t').mono
        (fun g hg => Finset.mem_insert_of_mem ((h.sound t').claimed hg).1) (fun _ hg => hg) hamount
  · exact once_update h fun g hg => absurd hg (by simp [BpsPc.releasing])

lemma Balanced.ungrant {g : ℕ} (h : s.Balanced cap) (hg : (s.pc t).releasing = some g) :
    (s.ungrant t (s.allocated - s.amount g) g).Balanced cap := by
  obtain ⟨hlive, hclaimed⟩ := (h.sound t).claimed hg
  have hsum : s.amount g + ∑ g' ∈ s.live.erase g, s.amount g' = s.allocated := by
    rw [Finset.add_sum_erase _ _ hlive, h.total]
  refine ⟨?_, (Nat.sub_le _ _).trans h.le_cap, ?_, ?_, h.claimed_lt, ?_, fun t' => ?_, ?_⟩
  · show s.allocated - s.amount g = ∑ g' ∈ s.live.erase g, s.amount g'
    omega
  · exact fun g' hg' => h.positive g' (Finset.mem_of_mem_erase hg')
  · exact fun g' hg' => h.live_lt g' (Finset.mem_of_mem_erase hg')
  · intro g' hg' hunclaimed
    refine Finset.mem_erase.mpr ⟨?_, h.unclaimed g' hg' hunclaimed⟩
    rintro rfl
    exact hunclaimed hclaimed
  · show Sound cap _ (update s.pc t .idle t')
    rw [update_apply]
    split_ifs with ht'
    · trivial
    · -- another thread releases another grant
      refine (h.sound t').mono (fun g' hg' => ?_) (fun _ hg => hg) (fun _ _ => rfl)
      refine Finset.mem_erase.mpr ⟨?_, ((h.sound t').claimed hg').1⟩
      rintro rfl
      exact ht' (h.once t' t g' hg' hg)
  · exact once_update h fun g hg => absurd hg (by simp [BpsPc.releasing])

lemma Balanced.go (hpos : 0 < cap) (hcap : cap < 2 ^ 32) (h : s.Balanced cap) :
    (s.go cap t).Balanced cap := by
  have hsound := h.sound t
  rw [BpsState.go]
  cases hpc : s.pc t with
  | idle => exact h
  | returned ret => exact h
  | start bps =>
    rw [hpc] at hsound
    simp only [if_neg hpos.ne']
    exact h.goto_same hsound fun g hg => absurd hg (by simp [BpsPc.releasing])
  | add bps =>
    rw [hpc] at hsound
    exact hsound.elim
  | load bps =>
    rw [hpc] at hsound
    exact h.goto_same ⟨hsound, h.le_cap⟩ fun g hg => absurd hg (by simp [BpsPc.releasing])
  | swap bps oldAlloc =>
    rw [hpc] at hsound
    have hold : oldAlloc % 2 ^ 32 = oldAlloc := Nat.mod_eq_of_lt (hsound.2.trans_lt hcap)
    simp only [hold]
    generalize htoAlloc : (if cap - oldAlloc ≤ bps then cap - oldAlloc else bps) = toAlloc
    split_ifs with hroom hswap
    · have hfits : 0 < toAlloc ∧ oldAlloc + toAlloc ≤ cap := by
        rw [← htoAlloc]
        have hbps := hsound.1
        split_ifs <;> omega
      rw [Nat.mod_eq_of_lt (hfits.2.trans_lt hcap), ← hswap]
      exact h.grant hfits.1 (hswap ▸ hfits.2)
    · exact h.goto_same hsound.1 fun g hg => absurd hg (by simp [BpsPc.releasing])
    · exact h.goto_same trivial fun g hg => absurd hg (by simp [BpsPc.releasing])
  | releaseLoad grant =>
    rw [hpc] at hsound
    have hle : s.amount grant ≤ s.allocated := by
      rw [h.total]
      exact Finset.single_le_sum (fun _ _ => Nat.zero_le _) hsound.1
    exact h.goto_same ⟨hsound.1, hsound.2, hle, h.le_cap⟩ fun g hg => by rw [hpc]; exact hg
  | releaseSwap grant oldAlloc =>
    rw [hpc] at hsound
    obtain ⟨hlive, hclaimed, hle, hcap'⟩ := hsound
    have hamount := h.positive grant hlive
    have hold : oldAlloc % 2 ^ 32 = oldAlloc := Nat.mod_eq_of_lt (hcap'.trans_lt hcap)
    simp only [hold]
    rw [if_pos (by omega), if_pos hle]
    split_ifs with hswap
    · rw [Nat.mod_eq_of_lt (by omega), ← hswap]
      exact h.ungrant (by rw [hpc]; rfl)
    · exact h.goto_same ⟨hlive, hclaimed⟩ fun g hg => by rw [hpc]; exact hg

lemma Balanced.step (hpos : 0 < cap) (hcap : cap < 2 ^ 32) (h : s.Balanced cap)
    (i : τ × BpsAction) : (s.step cap i).Balanced cap := by
  obtain ⟨t, action⟩ := i
  cases action with
  | go => exact h.go hpos hcap
  | allocate bps =>
    simp only [BpsState.step]
    split_ifs with hfree hbps
    · exact h.goto_same hbps fun g hg => absurd hg (by simp [BpsPc.releasing])
    · exact h.goto_same trivial fun g hg => absurd hg (by simp [BpsPc.releasing])
    · exact h
  | release g =>
    simp only [BpsState.step]
    split_ifs with hallowed
    · obtain ⟨-, hmade, hunclaimed⟩ := hallowed
      have hlive := h.unclaimed g hmade hunclaimed
      -- no thread releases a grant that has not been claimed
      have hfresh : ∀ t', (s.pc t').releasing ≠ some g :=
        fun t' hg => hunclaimed ((h.sound t').claimed hg).2
      have hclaim : ({ s with claimed := insert g s.claimed } : BpsState τ).Balanced cap := by
        refine ⟨h.total, h.le_cap, h.positive, h.live_lt, ?_, ?_, fun t' => ?_, h.once⟩
        · intro g' hg'
          rcases Finset.mem_insert.mp hg' with rfl | hg'
          · exact hmade
          · exact h.claimed_lt g' hg'
        · intro g' hg' hnot
          exact h.unclaimed g' hg' fun hmem => hnot (Finset.mem_insert_of_mem hmem)
        · exact (h.sound t').mono (fun g' hg' => ((h.sound t').claimed hg').1)
            (Finset.subset_insert _ _) (fun _ _ => rfl)
      refine hclaim.goto ⟨hlive, Finset.mem_insert_self _ _⟩ ?_
      intro g' hg' t' _
      obtain rfl := Option.some.inj hg'
      exact hfresh t'
    · exact h

/-! ## One call -/

/-- The thread makes no further call, and the counter is below the capacity. -/
def BelowCapacity (cap : ℕ) (t : τ) (s : BpsState τ) (i : τ × BpsAction) : Prop :=
  s.allocated < cap ∧ (i.1 = t → i.2 = .go)

instance (cap : ℕ) (t : τ) (s : BpsState τ) (i : τ × BpsAction) :
    Decidable (BelowCapacity cap t s i) :=
  inferInstanceAs (Decidable (_ ∧ _))

/-- A positive request while the counter is below the capacity: what is returned is positive and
within the request. -/
def Served (cap bps : ℕ) : BpsPc → Prop
  | .start bps' | .load bps' => bps' = bps
  | .swap bps' oldAlloc => bps' = bps ∧ oldAlloc < cap
  | .returned ret => 0 < ret ∧ ret ≤ bps
  | _ => False

lemma step_pc_of_ne (hne : i.1 ≠ t) : (s.step cap i).pc t = s.pc t := by
  obtain ⟨t', action⟩ := i
  have hpc : ∀ pc, update s.pc t' pc t = s.pc t :=
    fun pc => update_of_ne (Ne.symm hne) _ _
  cases action with
  | allocate bps =>
    simp only [BpsState.step]
    split_ifs
    · exact hpc _
    · exact hpc _
    · rfl
  | release g =>
    simp only [BpsState.step]
    split_ifs
    · exact hpc _
    · rfl
  | go =>
    simp only [BpsState.step, BpsState.go]
    cases s.pc t' with
    | idle => rfl
    | returned ret => rfl
    | swap bps oldAlloc =>
      simp only []
      split_ifs <;> exact hpc _
    | releaseSwap g oldAlloc =>
      simp only []
      split_ifs <;> exact hpc _
    | _ => exact hpc _

lemma Served.step {bps : ℕ} (hpos : 0 < cap) (hbps : 0 < bps) (h : Served cap bps (s.pc t))
    (hok : BelowCapacity cap t s i) : Served cap bps ((s.step cap i).pc t) := by
  by_cases ht : i.1 = t
  · obtain ⟨t', action⟩ := i
    obtain rfl : t' = t := ht
    obtain rfl : action = .go := hok.2 rfl
    simp only [BpsState.step, BpsState.go]
    cases hpc : s.pc t' with
    | start bps' =>
      rw [hpc] at h
      simp only [BpsState.goto, update_self, if_neg hpos.ne']
      exact h
    | load bps' =>
      rw [hpc] at h
      simp only [BpsState.goto, update_self]
      exact ⟨h, hok.1⟩
    | swap bps' oldAlloc =>
      rw [hpc] at h
      obtain ⟨rfl, hroom⟩ := h
      simp only [if_pos hroom]
      generalize htoAlloc : (if cap - oldAlloc ≤ bps' then cap - oldAlloc else bps') = toAlloc
      split_ifs
      · have hamount : 0 < toAlloc ∧ toAlloc ≤ bps' := by
          rw [← htoAlloc]
          split_ifs <;> omega
        simp only [BpsState.grant, update_self]
        exact hamount
      · simp only [BpsState.goto, update_self]
        rfl
    | returned ret =>
      rw [hpc] at h
      simp only [hpc]
      exact h
    | _ =>
      rw [hpc] at h
      exact h.elim
  · rw [step_pc_of_ne ht]
    exact h

lemma served_allocate {bps : ℕ} (hbps : 0 < bps) (hfree : (s.pc t).free) :
    Served cap bps ((s.step cap (t, .allocate bps)).pc t) := by
  simp [BpsState.step, hfree, hbps, BpsState.goto, Served]

/-- A call returns a positive amount with the step that makes a grant of it. -/
lemma grant_of_returned {ret : ℕ} (hret : 0 < ret) (hnot : s.pc i.1 ≠ .returned ret)
    (h : (s.step cap i).pc i.1 = .returned ret) :
    (s.step cap i).amount s.made = ret ∧ (s.step cap i).live = insert s.made s.live := by
  obtain ⟨t, action⟩ := i
  cases action with
  | allocate bps =>
    simp only [BpsState.step] at h
    split_ifs at h
    · simp [BpsState.goto] at h
    · simp only [BpsState.goto, update_self, BpsPc.returned.injEq] at h
      omega
    · exact absurd h hnot
  | release grant =>
    simp only [BpsState.step] at h
    split_ifs at h
    · simp [BpsState.goto] at h
    · exact absurd h hnot
  | go =>
    simp only [BpsState.step, BpsState.go] at h ⊢
    -- only the two accesses that grant return a positive amount
    split at h
    case h_1 | h_2 => exact absurd h hnot
    case h_3 => split_ifs at h <;> simp [BpsState.goto] at h
    case h_4 => simp_all [BpsState.grant]
    case h_5 | h_7 => simp [BpsState.goto] at h
    case h_6 => split_ifs at h ⊢ <;> simp_all [BpsState.goto, BpsState.grant]
    case h_8 => split_ifs at h <;> simp [BpsState.goto, BpsState.ungrant] at h

end BpsState

/-- After every interleaving the counter is the sum of the grants that are not released, and within
the capacity; a call returns a positive amount by making a grant of it; and a call for a positive
amount during which the counter is below the capacity is granted a positive amount within its
request. -/
theorem bps_capacity_kept {τ : Type} [DecidableEq τ] (cap : ℕ) (hpos : 0 < cap)
    (hcap : cap < 2 ^ 32) (is : List (τ × BpsAction)) :
    let s := Machine.run (BpsState.step cap) (BpsState.init τ) is
    s.allocated = ∑ g ∈ s.live, s.amount g ∧ s.allocated ≤ cap ∧
      (∀ (i : τ × BpsAction) (ret : ℕ), 0 < ret → s.pc i.1 ≠ .returned ret →
        (s.step cap i).pc i.1 = .returned ret →
        (s.step cap i).amount s.made = ret ∧ (s.step cap i).live = insert s.made s.live) ∧
      ∀ (t : τ) (bps : ℕ) (js : List (τ × BpsAction)) (ret : ℕ), (s.pc t).free → 0 < bps →
        Machine.Along (BpsState.step cap) (BpsState.BelowCapacity cap t)
          (s.step cap (t, .allocate bps)) js →
        (Machine.run (BpsState.step cap) (s.step cap (t, .allocate bps)) js).pc t = .returned ret →
        0 < ret ∧ ret ≤ bps := by
  intro s
  have hstep : ∀ (s : BpsState τ) i, s.Balanced cap → (s.step cap i).Balanced cap :=
    fun s i h => h.step hpos hcap i
  have h : s.Balanced cap := Machine.run_preserves hstep is (BpsState.balanced_init cap)
  refine ⟨h.total, h.le_cap, fun i ret => BpsState.grant_of_returned, ?_⟩
  intro t bps js ret hfree hbps halong hret
  have hcall : ∀ (s : BpsState τ) i, BpsState.Served cap bps (s.pc t) →
      BpsState.BelowCapacity cap t s i → BpsState.Served cap bps ((s.step cap i).pc t) :=
    fun s i h hok => h.step hpos hbps hok
  have hserved := Machine.run_invariant hcall halong (BpsState.served_allocate hbps hfree)
  rw [hret] at hserved
  exact hserved

/-- The second of two sessions loses the race for the first value, and is granted the rest. -/
theorem bps_capacity_kept_race :
    let s := Machine.run (BpsState.step 10) (BpsState.init Bool)
      [(true, .allocate 6), (true, .go), (true, .go)]
    let s' := Machine.run (BpsState.step 10) (s.step 10 (false, .allocate 8))
      [(false, .go), (false, .go), (true, .go), (false, .go), (false, .go), (false, .go)]
    s'.pc true = .returned 6 ∧ s'.pc false = .returned 4 ∧ s'.allocated = 10 ∧
      s.allocated = ∑ g ∈ s.live, s.amount g ∧ s.allocated ≤ 10 ∧ 0 < 4 ∧ 4 ≤ 8 := by
  have h := bps_capacity_kept 10 (by decide) (by decide)
    [(true, .allocate 6), (true, .go), (true, .go)]
  refine ⟨by decide, by decide, by decide, h.1, h.2.1, ?_⟩
  exact h.2.2.2 false 8 [(false, .go), (false, .go), (true, .go), (false, .go), (false, .go),
    (false, .go)] 4 (by decide) (by decide) (by decide) (by decide)

end Coturn
