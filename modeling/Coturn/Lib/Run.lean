/-
# Runs of a deterministic machine

A run folds a machine over a list of inputs. A condition on steps is a predicate on the state before
a step and the input; `Along` says that every step of a run meets it, `Occurs` that some step does.
What every such step preserves holds at the end of every such run.
-/
import Mathlib.Logic.Function.Basic

namespace Machine

variable {σ ι : Type*} (step : σ → ι → σ)

/-- The state after a list of inputs. -/
def run : σ → List ι → σ
  | s, [] => s
  | s, i :: is => run (step s i) is

/-- Every step of the run meets the condition, in the state in which it is taken. -/
def Along (ok : σ → ι → Prop) : σ → List ι → Prop
  | _, [] => True
  | s, i :: is => ok s i ∧ Along ok (step s i) is

/-- Some step of the run is of the given kind, in the state in which it is taken. -/
def Occurs (kind : σ → ι → Prop) : σ → List ι → Prop
  | _, [] => False
  | s, i :: is => kind s i ∨ Occurs kind (step s i) is

instance decidableAlong (ok : σ → ι → Prop) [∀ s i, Decidable (ok s i)] (s : σ) (is : List ι) :
    Decidable (Along step ok s is) :=
  match is with
  | [] => inferInstanceAs (Decidable True)
  | i :: is =>
    have : Decidable (Along step ok (step s i) is) := decidableAlong ok (step s i) is
    inferInstanceAs (Decidable (_ ∧ _))

variable {step}

@[simp] lemma run_nil (s : σ) : run step s [] = s := rfl

@[simp] lemma run_cons (s : σ) (i : ι) (is : List ι) :
    run step s (i :: is) = run step (step s i) is := rfl

variable {ok K : σ → ι → Prop} {Inv : σ → Prop} {s : σ} {is : List ι}

/-- What the steps that meet a condition preserve holds after every run of such steps. -/
theorem run_invariant (hstep : ∀ s i, Inv s → ok s i → Inv (step s i)) (hok : Along step ok s is)
    (hs : Inv s) : Inv (run step s is) := by
  induction is generalizing s with
  | nil => exact hs
  | cons i is ih => exact ih hok.2 (hstep s i hs hok.1)

/-- When the steps that meet a condition preserve an invariant and are good where it holds, all
steps are good. -/
theorem along_of_invariant {good : σ → ι → Prop}
    (hstep : ∀ s i, Inv s → ok s i → Inv (step s i) ∧ good s i)
    (hok : Along step ok s is) (hs : Inv s) : Along step good s is := by
  induction is generalizing s with
  | nil => trivial
  | cons i is ih =>
    obtain ⟨hinv, hgood⟩ := hstep s i hs hok.1
    exact ⟨hgood, ih hok.2 hinv⟩

/-- The steps of a run meet several conditions at once when they meet each of them. -/
theorem along_forall {κ : Sort*} {ok : κ → σ → ι → Prop} :
    Along step (fun s i => ∀ k, ok k s i) s is ↔ ∀ k, Along step (ok k) s is := by
  induction is generalizing s with
  | nil => exact ⟨fun _ _ => trivial, fun _ => trivial⟩
  | cons i is ih =>
    constructor
    · intro h k
      exact ⟨h.1 k, ih.mp h.2 k⟩
    · intro h
      exact ⟨fun k => (h k).1, ih.mpr fun k => (h k).2⟩

/-- Two machines that take the same inputs and stay related. -/
theorem along_iff_of_simulation {τ : Type*} {step' : τ → ι → τ}
    {ok' : τ → ι → Prop} {R : σ → τ → Prop} (hok : ∀ s t i, R s t → (ok s i ↔ ok' t i))
    (hstep : ∀ s t i, R s t → ok s i → R (step s i) (step' t i)) {t : τ} (h : R s t)
    (is : List ι) : Along step ok s is ↔ Along step' ok' t is := by
  induction is generalizing s t with
  | nil => exact Iff.rfl
  | cons i is ih =>
    constructor
    · intro hs
      exact ⟨(hok s t i h).mp hs.1, (ih (hstep s t i h hs.1)).mp hs.2⟩
    · intro ht
      have hi := (hok s t i h).mpr ht.1
      exact ⟨hi, (ih (hstep s t i h hi)).mpr ht.2⟩

/-- A condition on the inputs alone is met along a run when every input meets it. -/
theorem along_of_forall_mem {ok : ι → Prop} (h : ∀ i ∈ is, ok i) :
    Along step (fun _ i => ok i) s is := by
  induction is generalizing s with
  | nil => trivial
  | cons i is ih => exact ⟨h i (by simp), ih fun j hj => h j (by simp [hj])⟩

/-- What every step preserves holds after every run. -/
theorem run_preserves (hstep : ∀ s i, Inv s → Inv (step s i))
    (is : List ι) (hs : Inv s) : Inv (run step s is) := by
  induction is generalizing s with
  | nil => exact hs
  | cons i is ih => exact ih (hstep s i hs)

/-- A run meets the condition exactly when there is no damage at its end, if the condition keeps an
invariant that excludes damage and its violation does lasting damage. -/
theorem along_iff_of_lasting {Bad : σ → Prop} (hstep : ∀ s i, Inv s → ok s i → Inv (step s i))
    (hfail : ∀ s i, Inv s → ¬ ok s i → Bad (step s i)) (hlast : ∀ s i, Bad s → Bad (step s i))
    (hexcl : ∀ s, Inv s → ¬ Bad s) (hs : Inv s) (is : List ι) :
    Along step ok s is ↔ ¬ Bad (run step s is) := by
  induction is generalizing s with
  | nil => exact ⟨fun _ => hexcl s hs, fun _ => trivial⟩
  | cons i is ih =>
    by_cases hok : ok s i
    · have hnext := ih (hstep s i hs hok)
      exact ⟨fun h => hnext.mp h.2, fun h => ⟨hok, hnext.mpr h⟩⟩
    · have hbad : Bad (run step (step s i) is) := run_preserves hlast is (hfail s i hs hok)
      exact ⟨fun h => absurd h.1 hok, fun h => absurd hbad h⟩

/-- What holds at the end of a run has held at its start or was brought about by a step of the
run. -/
theorem run_origin {I P : σ → Prop} (hinv : ∀ s i, I s → I (step s i))
    (hstep : ∀ s i, I s → P (step s i) → P s ∨ K s i) (hs : I s) (hP : P (run step s is)) :
    P s ∨ Occurs step K s is := by
  induction is generalizing s with
  | nil => exact Or.inl hP
  | cons i is ih =>
    rcases ih (hinv s i hs) hP with hnext | hlater
    · exact (hstep s i hs hnext).imp_right Or.inl
    · exact Or.inr (Or.inr hlater)

/-- A step of a run meets the condition that all steps of the run meet. -/
theorem Occurs.and_along {Q : σ → ι → Prop} (h : Occurs step K s is)
    (hall : Along step Q s is) : Occurs step (fun s i => K s i ∧ Q s i) s is := by
  induction is generalizing s with
  | nil => exact h
  | cons i is ih => exact h.imp (fun hK => ⟨hK, hall.1⟩) fun hlater => ih hlater hall.2

theorem Occurs.exists (h : Occurs step K s is) : ∃ s i, K s i := by
  induction is generalizing s with
  | nil => exact h.elim
  | cons i is ih => exact h.elim (fun hK => ⟨s, i, hK⟩) ih

theorem Occurs.mono {Q : σ → ι → Prop} (hKQ : ∀ s i, K s i → Q s i)
    (h : Occurs step K s is) : Occurs step Q s is := by
  induction is generalizing s with
  | nil => exact h
  | cons i is ih => exact h.imp (hKQ s i) ih

end Machine
