/-
# A lazily cleaned ring queue

A queue of keys in a ring of `cap` cells, with two ends that only ever grow. A key can leave the
middle of the queue, as the mate of a key that is popped; its cell stays behind as a stale entry,
which the reader skips. A key has at most one stale entry at a time, which bounds the length of the
queue (`LazyRing.length_le`).
-/
import Mathlib.Data.Finset.Sum
import Mathlib.Order.Interval.Finset.Nat
import Mathlib.Logic.Relation
import Mathlib.Data.Nat.ModEq

/-- The queue: where each free key stands, the cells of the ring, and the two ends. -/
@[ext] structure LazyRing (κ : Type*) where
  pos : κ → Option ℕ
  cell : ℕ → κ
  low : ℕ
  high : ℕ

namespace LazyRing

variable {κ : Type*}

/-- The key at a position. -/
def entry (cap : ℕ) (r : LazyRing κ) (x : ℕ) : κ := r.cell (x % cap)

/-- A position whose cell holds a key that stands elsewhere or is not free. -/
def Stale (cap : ℕ) (r : LazyRing κ) (x : ℕ) : Prop :=
  r.low ≤ x ∧ x < r.high ∧ r.pos (r.entry cap x) ≠ some x

/-- Keys and positions agree. -/
structure Sound (cap : ℕ) (mate : κ → κ → Prop) (r : LazyRing κ) : Prop where
  low_le_high : r.low ≤ r.high
  high_le : r.high ≤ r.low + cap
  /-- A free key stands between the ends, and its cell holds it. -/
  pos_entry : ∀ k x, r.pos k = some x → r.low ≤ x ∧ x < r.high ∧ r.entry cap x = k
  /-- A stale entry belongs to a mate, and the key it was taken with is either not free or
  stands behind the entry. -/
  stale_mate : ∀ x, r.Stale cap x →
    ∃ k, mate k (r.entry cap x) ∧ ∀ y, r.pos k = some y → x < y
  /-- A key has at most one stale entry. -/
  stale_unique : ∀ x y, r.Stale cap x → r.Stale cap y → r.entry cap x = r.entry cap y → x = y

variable {cap : ℕ} {mate : κ → κ → Prop} {r r' : LazyRing κ}

lemma mod_ne_of_lt {low high x : ℕ} (hroom : high < low + cap) (hlow : low ≤ x) (hx : x < high) :
    x % cap ≠ high % cap := by
  intro hmod
  have hdvd : cap ∣ high - x := (Nat.modEq_iff_dvd' hx.le).mp hmod
  have hle := Nat.le_of_dvd (by omega) hdvd
  omega

lemma Sound.skip (h : r.Sound cap mate) (hlt : r.low < r.high)
    (hstale : r.pos (r.entry cap r.low) ≠ some r.low) :
    Sound cap mate { r with low := r.low + 1 } := by
  have hsub : ∀ x, Stale cap { r with low := r.low + 1 } x → r.Stale cap x :=
    fun x hx => ⟨(Nat.le_succ _).trans hx.1, hx.2⟩
  refine ⟨hlt, h.high_le.trans (by simp), fun k x hk => ?_, fun x hx => h.stale_mate x (hsub x hx),
    fun x y hx hy => h.stale_unique x y (hsub x hx) (hsub y hy)⟩
  obtain ⟨hlow, hhigh, hentry⟩ := h.pos_entry k x hk
  have hne : x ≠ r.low := by
    rintro rfl
    rw [hentry] at hstale
    exact hstale hk
  exact ⟨show r.low + 1 ≤ x by omega, hhigh, hentry⟩

variable {k : κ}

lemma Sound.pos_entry_of_pop (h : r.Sound cap mate) (hk : r.entry cap r.low = k)
    {pos' : κ → Option ℕ} (hpos : ∀ k' x, pos' k' = some x → k' ≠ k ∧ r.pos k' = some x) {k' : κ}
    {x : ℕ} (hk' : pos' k' = some x) : r.low + 1 ≤ x ∧ x < r.high ∧ r.entry cap x = k' := by
  obtain ⟨hne, hold⟩ := hpos k' x hk'
  obtain ⟨hlow, hhigh, hentry⟩ := h.pos_entry k' x hold
  have hx : x ≠ r.low := by
    rintro rfl
    exact hne (hentry.symm.trans hk)
  exact ⟨by omega, hhigh, hentry⟩

/-- The queue is no longer than the free keys and the mates together. -/
theorem Sound.length_le (h : r.Sound cap mate) {free mates : Finset κ}
    (hfree : ∀ k x, r.pos k = some x → k ∈ free) (hmates : ∀ k m, mate k m → m ∈ mates) :
    r.high - r.low ≤ free.card + mates.card := by
  -- a position goes to its key, in the left copy when it is live and in the right one when stale
  let tag : ℕ → κ ⊕ κ := fun x =>
    if r.pos (r.entry cap x) = some x then Sum.inl (r.entry cap x) else Sum.inr (r.entry cap x)
  have hmaps : ∀ x ∈ Finset.Ico r.low r.high, tag x ∈ free.disjSum mates := by
    intro x hx
    rw [Finset.mem_Ico] at hx
    by_cases hlive : r.pos (r.entry cap x) = some x
    · simpa [tag, hlive] using hfree _ x hlive
    · obtain ⟨k, hk, -⟩ := h.stale_mate x ⟨hx.1, hx.2, hlive⟩
      simpa [tag, hlive] using hmates k _ hk
  have hinj : Set.InjOn tag (Finset.Ico r.low r.high) := by
    intro x hx y hy hxy
    rw [Finset.coe_Ico, Set.mem_Ico] at hx hy
    by_cases hlx : r.pos (r.entry cap x) = some x <;>
      by_cases hly : r.pos (r.entry cap y) = some y <;> simp [tag, hlx, hly] at hxy
    · rw [hxy, hly, Option.some_inj] at hlx
      exact hlx.symm
    · exact h.stale_unique x y ⟨hx.1, hx.2, hlx⟩ ⟨hy.1, hy.2, hly⟩ hxy
  calc r.high - r.low = (Finset.Ico r.low r.high).card := (Nat.card_Ico _ _).symm
    _ ≤ (free.disjSum mates).card := Finset.card_le_card_of_injOn tag hmaps hinj
    _ = free.card + mates.card := Finset.card_disjSum _ _

/-! ## The moves -/

variable [DecidableEq κ]

/-- The key `k` at the head is taken. -/
abbrev take (r : LazyRing κ) (k : κ) : LazyRing κ :=
  { r with pos := Function.update r.pos k none, low := r.low + 1 }

/-- The key `k` at the head is taken, and `m` with it. -/
abbrev takePair (r : LazyRing κ) (k m : κ) : LazyRing κ :=
  { r with pos := Function.update (Function.update r.pos k none) m none, low := r.low + 1 }

/-- The key `k` enters at the tail. -/
abbrev append (r : LazyRing κ) (cap : ℕ) (k : κ) : LazyRing κ :=
  { r with pos := Function.update r.pos k (some r.high),
           cell := Function.update r.cell (r.high % cap) k, high := r.high + 1 }

/-- One move of the queue. `mate k m` says that `m` may be taken along when `k` is popped. -/
inductive Step (cap : ℕ) (mate : κ → κ → Prop) : LazyRing κ → LazyRing κ → Prop
  /-- The head is stale and is passed over. -/
  | skip (r : LazyRing κ) : r.low < r.high → r.pos (r.entry cap r.low) ≠ some r.low →
      Step cap mate r { r with low := r.low + 1 }
  /-- The head is free and is taken. -/
  | pop (r : LazyRing κ) (k : κ) : r.low < r.high → r.entry cap r.low = k →
      r.pos k = some r.low →
      Step cap mate r (r.take k)
  /-- The head is taken together with its mate, wherever that stands. -/
  | popPair (r : LazyRing κ) (k m : κ) (y : ℕ) : r.low < r.high → r.entry cap r.low = k →
      r.pos k = some r.low → mate k m → m ≠ k → r.pos m = some y →
      Step cap mate r (r.takePair k m)
  /-- A key that is not free enters at the tail. -/
  | push (r : LazyRing κ) (k : κ) : r.pos k = none → r.high < r.low + cap →
      Step cap mate r (r.append cap k)

lemma Sound.pop (h : r.Sound cap mate) (hlt : r.low < r.high)
    (hk : r.entry cap r.low = k) (hpos : r.pos k = some r.low) :
    (r.take k).Sound cap mate := by
  have hold : ∀ k' x, Function.update r.pos k none k' = some x → k' ≠ k ∧ r.pos k' = some x := by
    intro k' x hx
    by_cases hkk : k' = k
    · simp [hkk] at hx
    · rw [Function.update_of_ne hkk] at hx
      exact ⟨hkk, hx⟩
  have hsub : ∀ x, (r.take k).Stale cap x →
      r.Stale cap x := by
    rintro x ⟨hlow, hhigh, hst⟩
    refine ⟨(Nat.le_succ _).trans hlow, hhigh, fun hx => hst ?_⟩
    -- a live entry of the old queue behind the head is not the popped key
    have hne : r.entry cap x ≠ k := by
      intro he
      rw [he, hpos, Option.some_inj] at hx
      have : r.low + 1 ≤ x := hlow
      omega
    exact (Function.update_of_ne hne _ _).trans hx
  refine ⟨hlt, h.high_le.trans (by simp), fun k' x hx => h.pos_entry_of_pop hk hold hx,
    fun x hx => ?_, fun x y hx hy => h.stale_unique x y (hsub x hx) (hsub y hy)⟩
  obtain ⟨k', hmate, hafter⟩ := h.stale_mate x (hsub x hx)
  exact ⟨k', hmate, fun y hy => hafter y (hold k' y hy).2⟩

lemma Sound.popPair (hfun : ∀ k k' m, mate k m → mate k' m → k = k') (h : r.Sound cap mate)
    {m : κ} {y : ℕ} (hlt : r.low < r.high) (hk : r.entry cap r.low = k)
    (hpos : r.pos k = some r.low) (hmate : mate k m) (hne : m ≠ k) (hy : r.pos m = some y) :
    (r.takePair k m).Sound cap mate := by
  set r₁ := r.takePair k m with hr₁
  have hold : ∀ k' x, r₁.pos k' = some x → k' ≠ k ∧ r.pos k' = some x := by
    intro k' x hx
    by_cases hkm : k' = m
    · simp [hr₁, hkm] at hx
    · by_cases hkk : k' = k
      · simp [hr₁, hkk, hne.symm] at hx
      · rw [hr₁] at hx
        simp only [Function.update_of_ne hkm, Function.update_of_ne hkk] at hx
        exact ⟨hkk, hx⟩
  have hentry : ∀ x, r₁.entry cap x = r.entry cap x := fun x => rfl
  -- the only new stale entry is the one the mate leaves behind
  have hsub : ∀ x, r₁.Stale cap x → r.Stale cap x ∨ (r.entry cap x = m ∧ x = y) := by
    rintro x ⟨hlow, hhigh, hst⟩
    by_cases hx : r.pos (r.entry cap x) = some x
    · right
      by_cases hxm : r.entry cap x = m
      · rw [hxm, hy, Option.some_inj] at hx
        exact ⟨hxm, hx.symm⟩
      · exfalso
        have hxk : r.entry cap x ≠ k := by
          intro he
          rw [he, hpos, Option.some_inj] at hx
          have : r.low + 1 ≤ x := hlow
          omega
        refine hst ?_
        rw [hentry, hr₁]
        simp only [Function.update_of_ne hxm, Function.update_of_ne hxk]
        exact hx
    · exact Or.inl ⟨(Nat.le_succ _).trans hlow, hhigh, hx⟩
  -- an old stale entry of the mate would stand before the head
  have hno : ∀ x, r₁.Stale cap x → r.Stale cap x → r.entry cap x ≠ m := by
    intro x hx₁ hx he
    obtain ⟨k', hk', hafter⟩ := h.stale_mate x hx
    rw [he] at hk'
    have := hafter r.low (by rw [hfun k' k m hk' hmate]; exact hpos)
    have : r.low + 1 ≤ x := hx₁.1
    omega
  refine ⟨hlt, h.high_le.trans (by simp [hr₁]), fun k' x hx => h.pos_entry_of_pop hk hold hx,
    fun x hx => ?_, fun x z hx hz he => ?_⟩
  · rcases hsub x hx with hx' | ⟨hxm, -⟩
    · obtain ⟨k', hk', hafter⟩ := h.stale_mate x hx'
      exact ⟨k', hk', fun z hz => hafter z (hold k' z hz).2⟩
    · refine ⟨k, by rw [hentry, hxm]; exact hmate, fun z hz => absurd rfl (hold k z hz).1⟩
  · rw [hentry, hentry] at he
    rcases hsub x hx with hx' | ⟨hxm, rfl⟩ <;> rcases hsub z hz with hz' | ⟨hzm, rfl⟩
    · exact h.stale_unique x z hx' hz' he
    · exact absurd (he.trans hzm) (hno x hx hx')
    · exact absurd (he.symm.trans hxm) (hno z hz hz')
    · rfl

lemma Sound.push (h : r.Sound cap mate) (hk : r.pos k = none) (hroom : r.high < r.low + cap) :
    (r.append cap k).Sound cap mate := by
  set r₁ := r.append cap k with hr₁
  have hentry : ∀ x, r.low ≤ x → x < r.high → r₁.entry cap x = r.entry cap x :=
    fun x hlow hx => Function.update_of_ne (mod_ne_of_lt hroom hlow hx) _ _
  have hlast : r₁.entry cap r.high = k := Function.update_self ..
  have hposk : r₁.pos k = some r.high := Function.update_self ..
  have hpos : ∀ k', k' ≠ k → r₁.pos k' = r.pos k' := fun k' hne => Function.update_of_ne hne _ _
  have hsub : ∀ x, r₁.Stale cap x → r.Stale cap x := by
    rintro x ⟨hlow, hhigh, hst⟩
    have hx : x < r.high := by
      rcases Nat.lt_succ_iff_lt_or_eq.mp hhigh with hx | rfl
      · exact hx
      · rw [hlast, hposk] at hst
        exact absurd rfl hst
    rw [hentry x hlow hx] at hst
    refine ⟨hlow, hx, fun hold => ?_⟩
    by_cases he : r.entry cap x = k
    · rw [he, hk] at hold
      cases hold
    · exact hst ((hpos _ he).trans hold)
  refine ⟨h.low_le_high.trans (Nat.le_succ _), hroom, fun k' x hx => ?_, fun x hx => ?_,
    fun x y hx hy he => ?_⟩
  · by_cases hkk : k' = k
    · subst hkk
      rw [hposk, Option.some_inj] at hx
      subst hx
      exact ⟨h.low_le_high, Nat.lt_succ_self _, hlast⟩
    · rw [hpos k' hkk] at hx
      obtain ⟨hlow, hhigh, he⟩ := h.pos_entry k' x hx
      exact ⟨hlow, hhigh.trans (Nat.lt_succ_self _), (hentry x hlow hhigh).trans he⟩
  · have hx' := hsub x hx
    obtain ⟨k', hmate, hafter⟩ := h.stale_mate x hx'
    rw [hentry x hx'.1 hx'.2.1]
    refine ⟨k', hmate, fun y hy => ?_⟩
    by_cases hkk : k' = k
    · subst hkk
      rw [hposk, Option.some_inj] at hy
      exact hy ▸ hx'.2.1
    · rw [hpos k' hkk] at hy
      exact hafter y hy
  · have hx' := hsub x hx
    have hy' := hsub y hy
    rw [hentry x hx'.1 hx'.2.1, hentry y hy'.1 hy'.2.1] at he
    exact h.stale_unique x y hx' hy' he

/-- Every move keeps the invariant, when a key is the mate of one key at most. -/
theorem Step.sound (hfun : ∀ k k' m, mate k m → mate k' m → k = k')
    (hstep : Step cap mate r r') (h : r.Sound cap mate) : r'.Sound cap mate := by
  cases hstep with
  | skip hlt hstale => exact h.skip hlt hstale
  | pop k hlt hk hpos => exact h.pop hlt hk hpos
  | popPair k m y hlt hk hpos hmate hne hy => exact h.popPair hfun hlt hk hpos hmate hne hy
  | push k hk hroom => exact h.push hk hroom

theorem Steps.sound (hfun : ∀ k k' m, mate k m → mate k' m → k = k')
    (hsteps : Relation.ReflTransGen (Step cap mate) r r') (h : r.Sound cap mate) :
    r'.Sound cap mate := by
  induction hsteps with
  | refl => exact h
  | tail _ hstep ih => exact hstep.sound hfun ih

end LazyRing
