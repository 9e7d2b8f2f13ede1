/-
# Registries

A registry has an entry for a name when someone holds it, and the entry says who. The holders know
their names themselves, so the two can disagree: an entry is stale when its holder is gone or has
another name, and a holder is lost when it is not found under its name.
-/
import Mathlib.Tactic.SplitIfs

namespace Registry

variable {N H : Type*} {entry entry' : N → Option H} {holds holds' : H → N → Prop}

/-- No entry is stale. -/
def Sound (entry : N → Option H) (holds : H → N → Prop) : Prop :=
  ∀ n h, entry n = some h → holds h n

/-- No holder of a name is lost. -/
def Complete (entry : N → Option H) (holds : H → N → Prop) : Prop :=
  ∀ n h, holds h n → entry n = some h

lemma Complete.unique (hc : Complete entry holds) {n : N} {h h' : H} (hn : holds h n)
    (hn' : holds h' n) : h = h' :=
  Option.some.inj ((hc n h hn).symm.trans (hc n h' hn'))

lemma eq_some_iff_of_enter [DecidableEq H] {name name' : H → Option N} {h : H} {n : N}
    (hname : ∀ g, name' g = if g = h then some n else name g) (hnone : name h = none) (g : H)
    (m : N) : name' g = some m ↔ (g = h ∧ m = n) ∨ name g = some m := by
  rw [hname]
  split_ifs with hg
  · subst hg
    simp [hnone, eq_comm]
  · simp [hg]

section Enter

variable [DecidableEq N] {n : N} {h : H}
  (hentry : ∀ m, entry' m = if m = n then some h else entry m)
  (hholds : ∀ g m, holds' g m ↔ (g = h ∧ m = n) ∨ holds g m)

include hentry hholds

lemma Sound.enter (hs : Sound entry holds) : Sound entry' holds' := by
  intro m g hm
  rw [hentry] at hm
  rw [hholds]
  split_ifs at hm with hmn
  · exact Or.inl ⟨(Option.some.inj hm).symm, hmn⟩
  · exact Or.inr (hs m g hm)

lemma Complete.enter (hc : Complete entry holds) (hfree : entry n = none) :
    Complete entry' holds' := by
  intro m g hg
  rw [hentry]
  rcases (hholds g m).mp hg with ⟨rfl, rfl⟩ | hold
  · exact if_pos rfl
  · have hm := hc m g hold
    rw [if_neg, hm]
    rintro rfl
    rw [hfree] at hm
    cases hm

end Enter

section Strike

variable {out : N → Prop} (hentry : ∀ n h, entry' n = some h ↔ ¬ out n ∧ entry n = some h)

include hentry

lemma Sound.strike (hs : Sound entry holds) (hkeeps : ∀ n h, ¬ out n → holds h n → holds' h n) :
    Sound entry' holds' := by
  intro n h hn
  obtain ⟨hout, hn⟩ := (hentry n h).mp hn
  exact hkeeps n h hout (hs n h hn)

/-- Nobody is lost exactly when no name is struck out of a holder that keeps it. -/
lemma Complete.strike_iff (hc : Complete entry holds) (hholds : ∀ n h, holds' h n → holds h n) :
    Complete entry' holds' ↔ ∀ n h, holds' h n → ¬ out n := by
  constructor
  · intro hc' n h hn
    exact ((hentry n h).mp (hc' n h hn)).1
  · intro hstays n h hn
    exact (hentry n h).mpr ⟨hstays n h hn, hc n h (hholds n h hn)⟩

end Strike

end Registry
