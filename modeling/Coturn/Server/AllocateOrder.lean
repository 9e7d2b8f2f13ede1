/-
# The order of the attributes of an Allocate

Some attributes of an Allocate exclude each other, and the loop of `handle_turn_allocate` compares
each one with those read before. The token zero counts as none, and only the last EVEN-PORT is kept,
so some requests are accepted in one order and rejected in another. Which ones is found by counting
kinds, on a small automaton over them.
-/
import Mathlib.Data.List.Perm.Basic
import Coturn.Server.Permissions
import Coturn.Server.RelayedAddresses

namespace Coturn

open List Option

/-! ## The automaton -/

/-- The address families that a request asks for. -/
inductive FamilyOption where
  | ipv4
  | ipv6
  | dual
  deriving DecidableEq

/-- The attributes with which the loop is concerned, as far as it looks at them. -/
inductive AllocateOption where
  | transport (t : Transport)
  | evenPort (reserve : Bool)
  | token (nonzero : Bool)
  | family (f : FamilyOption)
  /-- An attribute that is rejected wherever it stands. -/
  | bad
  deriving DecidableEq

/-- What has been read so far. -/
structure OptionsRead where
  transport : Option Transport
  evenPort : Option Bool
  /-- A token other than zero. -/
  token : Bool
  family : Option FamilyOption
  deriving DecidableEq

namespace OptionsRead

def init : OptionsRead := ⟨none, none, false, none⟩

/-- One round; `none` is an error. -/
def step (σ : OptionsRead) : AllocateOption → Option OptionsRead
  | .transport t => if σ.transport.isSome then none else some { σ with transport := some t }
  | .evenPort reserve =>
    if σ.token || (reserve && σ.family == some .dual) then none
    else some { σ with evenPort := some reserve }
  | .token nonzero =>
    if σ.family.isSome || σ.evenPort.isSome || σ.token then none
    else some { σ with token := nonzero }
  | .family f =>
    if (f == .dual && σ.evenPort == some true) || σ.token || σ.family.isSome then none
    else some { σ with family := some f }
  | .bad => none

/-- What is read of a list. -/
def run : OptionsRead → List AllocateOption → Option OptionsRead
  | σ, [] => some σ
  | σ, x :: l => (σ.step x).bind fun σ' => σ'.run l

/-- The test behind the loop. -/
def final (σ : OptionsRead) : Bool :=
  σ.transport.any fun t => t == .udp || (!σ.token && σ.evenPort.isNone)

lemma run_append (σ : OptionsRead) (l₁ l₂ : List AllocateOption) :
    σ.run (l₁ ++ l₂) = (σ.run l₁).bind fun σ' => σ'.run l₂ := by
  induction l₁ generalizing σ with
  | nil => rfl
  | cons x l₁ ih =>
    rw [cons_append, run, run, bind_assoc]
    congr 1
    funext σ'
    exact ih σ'

end OptionsRead

/-- The attributes are accepted in this order. -/
def accepted (l : List AllocateOption) : Bool := (OptionsRead.init.run l).any OptionsRead.final

/-! ## Counting kinds -/

section Counts

variable (l : List AllocateOption)

def evenPorts : ℕ := l.count (.evenPort true) + l.count (.evenPort false)

def families : ℕ := l.count (.family .ipv4) + l.count (.family .ipv6) + l.count (.family .dual)

/-- Some order of the attributes is accepted. -/
structure Acceptable : Prop where
  bad : l.count .bad = 0
  transport : l.count (.transport .udp) + l.count (.transport .tcp) = 1
  family : families l ≤ 1
  token : l.count (.token true) ≤ 1
  tokenAlone : 0 < l.count (.token true) → evenPorts l = 0 ∧ families l = 0
  dual : 0 < l.count (.family .dual) → 0 < l.count (.evenPort true) →
    0 < l.count (.evenPort false)
  tcp : 0 < l.count (.transport .tcp) → l.count (.token true) = 0 ∧ evenPorts l = 0

/-- The token zero with something that excludes a token, or two families with both kinds of
EVEN-PORT. -/
def Mixed : Prop :=
  (0 < l.count (.token false) ∧ 0 < l.count (.token true) + evenPorts l + families l) ∨
    (0 < l.count (.family .dual) ∧ 0 < l.count (.evenPort true) ∧ 0 < l.count (.evenPort false))
  deriving Decidable

/-- What the automaton has in its state after it has read the attributes. -/
structure ReadsOptions (σ : OptionsRead) : Prop where
  bad : l.count .bad = 0
  transport : ∀ t, l.count (.transport t) = if σ.transport = some t then 1 else 0
  token : l.count (.token true) = if σ.token then 1 else 0
  family : ∀ f, l.count (.family f) = if σ.family = some f then 1 else 0
  evenPort : ∀ reserve, σ.evenPort = some reserve → 0 < l.count (.evenPort reserve)
  noEvenPort : σ.evenPort = none → ∀ reserve, l.count (.evenPort reserve) = 0
  tokenAlone : σ.token = true → σ.evenPort = none ∧ σ.family = none
  dual : σ.family = some .dual → 0 < l.count (.evenPort true) → 0 < l.count (.evenPort false)

end Counts

variable {l : List AllocateOption} {x : AllocateOption} {σ σ' : OptionsRead}

lemma reads_init : ReadsOptions [] .init where
  bad := rfl
  transport _ := rfl
  token := rfl
  family _ := rfl
  evenPort _ h := nomatch h
  noEvenPort _ _ := rfl
  tokenAlone h := nomatch h
  dual h := nomatch h

lemma count_snoc (l : List AllocateOption) (x y : AllocateOption) :
    (l ++ [x]).count y = l.count y + if x = y then 1 else 0 := by
  rw [count_append, count_singleton]
  simp only [beq_iff_eq]

lemma ReadsOptions.transport_step {t : Transport} (h : ReadsOptions l σ)
    (hnone : σ.transport = none) :
    ReadsOptions (l ++ [.transport t]) { σ with transport := some t } where
  bad := by simpa [count_snoc] using h.bad
  transport t' := by
    rw [count_snoc, h.transport t', hnone]
    simp
  token := by simpa [count_snoc] using h.token
  family f := by simpa [count_snoc] using h.family f
  evenPort reserve hr := by simpa [count_snoc] using h.evenPort reserve hr
  noEvenPort hnone reserve := by simpa [count_snoc] using h.noEvenPort hnone reserve
  tokenAlone := h.tokenAlone
  dual := by simpa [count_snoc] using h.dual

lemma ReadsOptions.evenPort_step {reserve : Bool} (h : ReadsOptions l σ) (htoken : σ.token = false)
    (hdual : reserve = true → σ.family ≠ some .dual) :
    ReadsOptions (l ++ [.evenPort reserve]) { σ with evenPort := some reserve } where
  bad := by simpa [count_snoc] using h.bad
  transport t := by simpa [count_snoc] using h.transport t
  token := by simpa [count_snoc] using h.token
  family f := by simpa [count_snoc] using h.family f
  evenPort r hr := by
    obtain rfl := Option.some.inj hr
    rw [count_snoc, if_pos rfl]
    exact Nat.succ_pos _
  noEvenPort hnone := nomatch hnone
  tokenAlone h := absurd (htoken.symm.trans h) (by decide)
  dual hfamily := by
    cases reserve with
    | false =>
      intro _
      rw [count_snoc, if_pos rfl]
      exact Nat.succ_pos _
    | true => exact absurd hfamily (hdual rfl)

lemma ReadsOptions.token_step {nonzero : Bool} (h : ReadsOptions l σ) (hfamily : σ.family = none)
    (heven : σ.evenPort = none) (htoken : σ.token = false) :
    ReadsOptions (l ++ [.token nonzero]) { σ with token := nonzero } where
  bad := by simpa [count_snoc] using h.bad
  transport t := by simpa [count_snoc] using h.transport t
  token := by
    rw [count_snoc, h.token, htoken]
    cases nonzero <;> rfl
  family f := by simpa [count_snoc] using h.family f
  evenPort reserve hr := by simpa [count_snoc] using h.evenPort reserve hr
  noEvenPort hnone reserve := by simpa [count_snoc] using h.noEvenPort hnone reserve
  tokenAlone _ := ⟨heven, hfamily⟩
  dual := by simpa [count_snoc] using h.dual

lemma ReadsOptions.family_step {f : FamilyOption} (h : ReadsOptions l σ) (htoken : σ.token = false)
    (hnone : σ.family = none) (heven : f = .dual → σ.evenPort ≠ some true) :
    ReadsOptions (l ++ [.family f]) { σ with family := some f } where
  bad := by simpa [count_snoc] using h.bad
  transport t := by simpa [count_snoc] using h.transport t
  token := by simpa [count_snoc] using h.token
  family f' := by
    rw [count_snoc, h.family f', hnone]
    simp
  evenPort reserve hr := by simpa [count_snoc] using h.evenPort reserve hr
  noEvenPort hnone reserve := by simpa [count_snoc] using h.noEvenPort hnone reserve
  tokenAlone h := absurd (htoken.symm.trans h) (by decide)
  dual hdual htrue := by
    rw [count_snoc, if_neg (by simp)] at htrue ⊢
    -- the last EVEN-PORT before the families was not the one that asks for the next port
    rcases hσ : σ.evenPort with _ | reserve
    · rw [h.noEvenPort hσ true] at htrue
      exact absurd htrue (by decide)
    · cases reserve with
      | false => exact h.evenPort false hσ
      | true => exact absurd hσ (heven (Option.some.inj hdual))

lemma ReadsOptions.step (h : ReadsOptions l σ) (hstep : σ.step x = some σ') :
    ReadsOptions (l ++ [x]) σ' := by
  cases x with
  | transport t =>
    simp only [OptionsRead.step, ite_none_left_eq_some, some_inj] at hstep
    obtain ⟨hnone, rfl⟩ := hstep
    exact h.transport_step (by simpa using hnone)
  | evenPort reserve =>
    simp only [OptionsRead.step, ite_none_left_eq_some, some_inj] at hstep
    obtain ⟨hnone, rfl⟩ := hstep
    simp only [Bool.or_eq_true, Bool.and_eq_true, beq_iff_eq, not_or, not_and,
      Bool.not_eq_true] at hnone
    exact h.evenPort_step hnone.1 hnone.2
  | token nonzero =>
    simp only [OptionsRead.step, ite_none_left_eq_some, some_inj] at hstep
    obtain ⟨hnone, rfl⟩ := hstep
    simp only [Bool.or_eq_true, not_or, Bool.not_eq_true, isSome_eq_false_iff,
      isNone_iff_eq_none] at hnone
    exact h.token_step hnone.1.1 hnone.1.2 hnone.2
  | family f =>
    simp only [OptionsRead.step, ite_none_left_eq_some, some_inj] at hstep
    obtain ⟨hnone, rfl⟩ := hstep
    simp only [Bool.or_eq_true, Bool.and_eq_true, beq_iff_eq, not_or, not_and, Bool.not_eq_true,
      isSome_eq_false_iff, isNone_iff_eq_none] at hnone
    exact h.family_step hnone.1.2 hnone.2 hnone.1.1
  | bad => exact nomatch hstep

lemma ReadsOptions.run {l l' : List AllocateOption} (h : ReadsOptions l σ)
    (hrun : σ.run l' = some σ') : ReadsOptions (l ++ l') σ' := by
  induction l' generalizing l σ with
  | nil =>
    obtain rfl := Option.some.inj hrun
    rwa [append_nil]
  | cons x l' ih =>
    obtain ⟨σ₁, hstep, hrest⟩ := bind_eq_some_iff.mp hrun
    rw [← singleton_append, ← append_assoc]
    exact ih (h.step hstep) hrest

lemma acceptable_of_accepted (h : accepted l = true) : Acceptable l := by
  obtain ⟨σ, hrun, hfinal⟩ := (Option.any_eq_true _ _).mp h
  have hreads : ReadsOptions l σ := by
    have := reads_init.run hrun
    rwa [nil_append] at this
  obtain ⟨t, ht, hfinal⟩ := (Option.any_eq_true _ _).mp hfinal
  have htransport := hreads.transport
  have hfamily := hreads.family
  have htoken := hreads.token
  refine ⟨hreads.bad, ?_, ?_, ?_, ?_, ?_, ?_⟩
  · rw [htransport, htransport, ht]
    cases t <;> rfl
  · rw [families, hfamily, hfamily, hfamily]
    rcases σ.family with _ | f
    · decide
    · cases f <;> decide
  · rw [htoken]
    split_ifs <;> decide
  · intro hpos
    have hσ : σ.token = true := by
      by_contra hno
      rw [htoken, if_neg hno] at hpos
      exact absurd hpos (by decide)
    obtain ⟨heven, hnone⟩ := hreads.tokenAlone hσ
    rw [evenPorts, families, hreads.noEvenPort heven, hreads.noEvenPort heven, hfamily, hfamily,
      hfamily, hnone]
    exact ⟨rfl, rfl⟩
  · intro hpos
    refine hreads.dual ?_
    by_contra hno
    rw [hfamily, if_neg hno] at hpos
    exact absurd hpos (by decide)
  · intro hpos
    have htcp : t = .tcp := by
      by_contra hno
      rw [htransport, ht, if_neg (by simpa using hno)] at hpos
      exact absurd hpos (by decide)
    rw [htcp] at hfinal
    simp only [Bool.or_eq_true, beq_iff_eq, reduceCtorEq, false_or, Bool.and_eq_true,
      Bool.not_eq_true', isNone_iff_eq_none] at hfinal
    rw [htoken, hfinal.1, evenPorts, hreads.noEvenPort hfinal.2, hreads.noEvenPort hfinal.2]
    exact ⟨rfl, rfl⟩

/-! ## Attributes of which any order is accepted -/

lemma OptionsRead.exists_step_eq_none (h : σ.run l = none) :
    ∃ l₁ x l₂ σ', l = l₁ ++ x :: l₂ ∧ σ.run l₁ = some σ' ∧ σ'.step x = none := by
  induction l generalizing σ with
  | nil => cases h
  | cons x l ih =>
    cases hstep : σ.step x with
    | none => exact ⟨[], x, l, σ, rfl, rfl, hstep⟩
    | some σ₁ =>
      rw [run, hstep] at h
      obtain ⟨l₁, y, l₂, σ', rfl, hrun, hy⟩ := ih h
      refine ⟨x :: l₁, y, l₂, σ', rfl, ?_, hy⟩
      rw [run, hstep]
      exact hrun

lemma evenPorts_pos {reserve : Bool} (h : .evenPort reserve ∈ l) : 0 < evenPorts l := by
  have hcount := count_pos_iff.mpr h
  rw [evenPorts]
  cases reserve <;> omega

lemma families_pos {f : FamilyOption} (h : .family f ∈ l) : 0 < families l := by
  have hcount := count_pos_iff.mpr h
  rw [families]
  cases f <;> omega

lemma ReadsOptions.token_false (h : ReadsOptions l σ) (hzero : l.count (.token true) = 0) :
    σ.token = false := by
  have hcount := h.token
  rw [hzero] at hcount
  by_contra hσ
  rw [if_pos (by simpa using hσ)] at hcount
  exact absurd hcount (by decide)

lemma ReadsOptions.evenPort_none (h : ReadsOptions l σ) (hzero : evenPorts l = 0) :
    σ.evenPort = none := by
  rcases hσ : σ.evenPort with _ | reserve
  · rfl
  · exact absurd (evenPorts_pos (count_pos_iff.mp (h.evenPort reserve hσ))) (by omega)

/-- An attribute is rejected after others because it always is, or by one that excludes it. -/
lemma ReadsOptions.not_acceptable {l₁ l₂ : List AllocateOption} (h : ReadsOptions l₁ σ)
    (hstep : σ.step x = none) : ¬ Acceptable (l₁ ++ x :: l₂) ∨ Mixed (l₁ ++ x :: l₂) := by
  have hle : ∀ y, l₁.count y ≤ (l₁ ++ x :: l₂).count y :=
    fun y => (sublist_append_left l₁ (x :: l₂)).count_le y
  have hself : l₁.count x < (l₁ ++ x :: l₂).count x := by
    rw [count_append, count_cons_self]
    omega
  have htoken : σ.token = true → 0 < l₁.count (.token true) := fun ht => by
    rw [h.token, if_pos ht]
    exact Nat.one_pos
  have hfamily : ∀ f, σ.family = some f → 0 < l₁.count (.family f) := fun f hf => by
    rw [h.family, if_pos hf]
    exact Nat.one_pos
  have hlet := hle (.token true)
  have hle₄ := hle (.family .ipv4)
  have hle₆ := hle (.family .ipv6)
  have hled := hle (.family .dual)
  have hleo := hle (.evenPort false)
  have hlee := hle (.evenPort true)
  by_contra hnot
  rw [not_or, not_not, Mixed, not_or] at hnot
  obtain ⟨⟨hbad, htransports, hfamilies, htokens, halone, hdual, -⟩, hzero, hevens⟩ := hnot
  rw [families] at hfamilies
  rw [evenPorts, families] at halone hzero
  cases x with
  | transport t =>
    obtain ⟨t', ht'⟩ : ∃ t', σ.transport = some t' := by
      simpa [OptionsRead.step, isSome_iff_exists] using hstep
    have hone := h.transport t'
    have hudp := hle (.transport .udp)
    have htcp := hle (.transport .tcp)
    rw [if_pos ht'] at hone
    cases t <;> cases t' <;> omega
  | evenPort reserve =>
    cases ht : σ.token with
    | true =>
      have hpos := htoken ht
      cases reserve <;> omega
    | false =>
      obtain ⟨rfl, hf⟩ : reserve = true ∧ σ.family = some .dual := by
        simpa [OptionsRead.step, ht] using hstep
      have hpos := hfamily _ hf
      omega
  | token nonzero =>
    rcases hf : σ.family with _ | f
    swap
    · have hpos := hfamily f hf
      cases nonzero <;> cases f <;> omega
    rcases he : σ.evenPort with _ | reserve
    swap
    · have hpos := h.evenPort reserve he
      cases nonzero <;> cases reserve <;> omega
    have hpos := htoken (by simpa [OptionsRead.step, hf, he] using hstep)
    cases nonzero <;> omega
  | family f =>
    cases ht : σ.token with
    | true =>
      have hpos := htoken ht
      cases f <;> omega
    | false =>
      rcases hf : σ.family with _ | f'
      · obtain ⟨rfl, he⟩ : f = .dual ∧ σ.evenPort = some true := by
          simpa [OptionsRead.step, ht, hf] using hstep
        have hpos := h.evenPort true he
        omega
      · have hpos := hfamily f' hf
        cases f <;> cases f' <;> omega
  | bad => omega

lemma accepted_of_not_mixed (h : Acceptable l) (hmixed : ¬ Mixed l) : accepted l = true := by
  cases hrun : OptionsRead.init.run l with
  | none =>
    obtain ⟨l₁, x, l₂, σ, rfl, hrun, hstep⟩ := OptionsRead.exists_step_eq_none hrun
    exact absurd h ((reads_init.run hrun).not_acceptable hstep |>.resolve_right hmixed)
  | some σ =>
    have hreads : ReadsOptions l σ := reads_init.run hrun
    rw [accepted, hrun, any_some, OptionsRead.final]
    rcases hσ : σ.transport with _ | t
    · have htransport := h.transport
      rw [hreads.transport, hreads.transport, hσ] at htransport
      exact absurd htransport (by decide)
    · cases t with
      | udp => rfl
      | tcp =>
        obtain ⟨htoken, heven⟩ := h.tcp (by rw [hreads.transport, if_pos hσ]; exact Nat.one_pos)
        rw [hreads.token_false htoken, hreads.evenPort_none heven]
        rfl

/-! ## Attributes of which some order is accepted -/

/-- The order that is accepted if any is: zero tokens first, and EVEN-PORTs for the next port first.
-/
def goodOrder (zeros evens odds : ℕ) (token : Bool) (family : Option FamilyOption) (t : Transport) :
    List AllocateOption :=
  List.replicate zeros (.token false) ++ (List.replicate evens (.evenPort true) ++
    (List.replicate odds (.evenPort false) ++ ((if token then [.token true] else []) ++
      (family.toList.map .family ++ [.transport t]))))

lemma count_goodOrder (zeros evens odds : ℕ) (token : Bool) (family : Option FamilyOption)
    (t : Transport) (y : AllocateOption) :
    (goodOrder zeros evens odds token family t).count y =
      (if .token false = y then zeros else 0) + ((if .evenPort true = y then evens else 0) +
        ((if .evenPort false = y then odds else 0) + ((if token ∧ .token true = y then 1 else 0) +
          ((if family.map .family = some y then 1 else 0) +
            if .transport t = y then 1 else 0)))) := by
  simp only [goodOrder, count_append, count_replicate, count_singleton, beq_iff_eq]
  congr 4
  · cases token
    · rfl
    · simp [count_singleton]
  · cases family with
    | none => rfl
    | some f => simp [count_singleton]

lemma run_zeros (n : ℕ) :
    OptionsRead.init.run (List.replicate n (.token false)) = some OptionsRead.init := by
  induction n with
  | zero => rfl
  | succ n ih =>
    rw [replicate_succ, OptionsRead.run]
    exact ih

lemma run_evens (n : ℕ) (reserve : Bool) (e : Option Bool) :
    OptionsRead.run ⟨none, e, false, none⟩ (List.replicate n (.evenPort reserve)) =
      some ⟨none, if n = 0 then e else some reserve, false, none⟩ := by
  induction n generalizing e with
  | zero => rfl
  | succ n ih =>
    have hstep : OptionsRead.step ⟨none, e, false, none⟩ (.evenPort reserve) =
        some ⟨none, some reserve, false, none⟩ := by
      cases reserve <;> rfl
    rw [replicate_succ, OptionsRead.run, hstep, bind_some, ih, if_neg n.succ_ne_zero,
      ite_self]

lemma goodOrder_accepted {zeros evens odds : ℕ} {token : Bool} {family : Option FamilyOption}
    {t : Transport}
    (htoken : token = true → evens = 0 ∧ odds = 0 ∧ family = none)
    (hdual : family = some .dual → 0 < evens → 0 < odds)
    (htcp : t = .tcp → token = false ∧ evens = 0 ∧ odds = 0) :
    accepted (goodOrder zeros evens odds token family t) = true := by
  have hinit : OptionsRead.init = ⟨none, none, false, none⟩ := rfl
  rw [accepted, goodOrder, OptionsRead.run_append, run_zeros, bind_some,
    OptionsRead.run_append, hinit, run_evens, bind_some, OptionsRead.run_append, run_evens,
    bind_some]
  cases token with
  | true =>
    obtain ⟨rfl, rfl, rfl⟩ := htoken rfl
    cases t with
    | udp => rfl
    | tcp => exact absurd (htcp rfl).1 (by decide)
  | false =>
    obtain ⟨e, heq, hdual', htcp'⟩ : ∃ e : Option Bool,
        (if odds = 0 then if evens = 0 then none else some true else some false) = e ∧
        (family = some .dual → e ≠ some true) ∧ (t = .tcp → e = none) := by
      refine ⟨_, rfl, fun hfamily => ?_, fun ht => ?_⟩
      · have hodds := hdual hfamily
        split_ifs with hzero heven
        · simp
        · omega
        · simp
      · obtain ⟨-, rfl, rfl⟩ := htcp ht
        rfl
    have hrest : OptionsRead.run ⟨none, e, false, none⟩
        ((if false = true then [.token true] else []) ++
          (family.toList.map .family ++ [.transport t])) = some ⟨some t, e, false, family⟩ := by
      cases family with
      | none => rfl
      | some f =>
        have hok : (f == .dual && e == some true) = false := by
          by_contra hbad
          simp only [Bool.not_eq_false, Bool.and_eq_true, beq_iff_eq] at hbad
          exact hdual' (congrArg some hbad.1) hbad.2
        show (OptionsRead.step ⟨none, e, false, none⟩ (.family f)).bind
          (OptionsRead.run · [.transport t]) = _
        rw [OptionsRead.step, hok]
        rfl
    rw [heq, hrest]
    cases t with
    | udp => rfl
    | tcp =>
      rw [htcp' rfl]
      rfl

lemma Acceptable.exists_family (h : Acceptable l) : ∃ f : Option FamilyOption, ∀ f',
    l.count (.family f') = if f = some f' then 1 else 0 := by
  have hone := h.family
  rw [families] at hone
  by_cases h4 : l.count (.family .ipv4) = 1
  · exact ⟨some .ipv4, fun f' => by cases f' <;> simp <;> omega⟩
  by_cases h6 : l.count (.family .ipv6) = 1
  · exact ⟨some .ipv6, fun f' => by cases f' <;> simp <;> omega⟩
  by_cases hd : l.count (.family .dual) = 1
  · exact ⟨some .dual, fun f' => by cases f' <;> simp <;> omega⟩
  · exact ⟨none, fun f' => by cases f' <;> simp <;> omega⟩

lemma Acceptable.exists_transport (h : Acceptable l) :
    ∃ t, ∀ t', l.count (.transport t') = if t = t' then 1 else 0 := by
  have hone := h.transport
  by_cases hudp : l.count (.transport .udp) = 1
  · exact ⟨.udp, fun t' => by cases t' <;> simp <;> omega⟩
  · exact ⟨.tcp, fun t' => by cases t' <;> simp <;> omega⟩

lemma Acceptable.exists_accepted (h : Acceptable l) : ∃ l', l'.Perm l ∧ accepted l' = true := by
  obtain ⟨f, hf⟩ := h.exists_family
  obtain ⟨t, ht⟩ := h.exists_transport
  have htoken := h.token
  refine ⟨goodOrder (l.count (.token false)) (l.count (.evenPort true)) (l.count (.evenPort false))
    (decide (0 < l.count (.token true))) f t, perm_iff_count.mpr fun y => ?_,
    goodOrder_accepted ?_ ?_ ?_⟩
  · rw [count_goodOrder]
    cases y with
    | transport t' => simp [ht]
    | evenPort reserve => cases reserve <;> simp
    | token nonzero =>
      cases nonzero with
      | false => simp
      | true =>
        simp only [decide_eq_true_eq, reduceCtorEq, if_false, map_eq_some_iff, and_false,
          exists_false, AllocateOption.token.injEq, Bool.false_eq_true, and_true]
        split_ifs <;> omega
    | family f' =>
      rw [hf]
      cases f <;> simp
    | bad => simp [h.bad]
  · intro hpos
    obtain ⟨heven, hfamily⟩ := h.tokenAlone (by simpa using hpos)
    rw [evenPorts] at heven
    refine ⟨by omega, by omega, ?_⟩
    rcases f with _ | f
    · rfl
    · have hone := hf f
      rw [if_pos rfl] at hone
      rw [families] at hfamily
      cases f <;> omega
  · rintro rfl
    exact h.dual (by rw [hf, if_pos rfl]; exact Nat.one_pos)
  · rintro rfl
    obtain ⟨hnone, heven⟩ := h.tcp (by rw [ht, if_pos rfl]; exact Nat.one_pos)
    rw [evenPorts] at heven
    exact ⟨by simp [hnone], by omega, by omega⟩

/-! ## Attributes of which some order is rejected -/

/-- Two attributes that are rejected one after the other can be put in front. -/
lemma exists_rejected_of_pair {y : AllocateOption} (hx : 0 < l.count x) (hy : 0 < l.count y)
    (hne : y ≠ x) (hreject : (OptionsRead.init.step x).bind (OptionsRead.step · y) = none) :
    ∃ l', l'.Perm l ∧ accepted l' = false := by
  have hx := count_pos_iff.mp hx
  have hy := (mem_erase_of_ne hne).mpr (count_pos_iff.mp hy)
  refine ⟨x :: y :: (l.erase x).erase y, ?_, ?_⟩
  · exact (((perm_cons_erase hy).symm).cons x).trans (perm_cons_erase hx).symm
  · have hrun : OptionsRead.init.run (x :: y :: (l.erase x).erase y) =
        ((OptionsRead.init.step x).bind (OptionsRead.step · y)).bind
          (OptionsRead.run · ((l.erase x).erase y)) := by
      rw [bind_assoc]
      rfl
    rw [accepted, hrun, hreject]
    rfl

/-- Where the order matters, some order is rejected. -/
lemma Mixed.exists_rejected (h : Mixed l) : ∃ l', l'.Perm l ∧ accepted l' = false := by
  rcases h with ⟨hzero, hpos⟩ | ⟨hdual, htrue, -⟩
  · have hbefore : ∃ y, 0 < l.count y ∧ y ≠ .token false ∧
        (OptionsRead.init.step y).bind (OptionsRead.step · (.token false)) = none := by
      by_contra hno
      have hall : ∀ y, y ≠ .token false →
          (OptionsRead.init.step y).bind (OptionsRead.step · (.token false)) = none →
          l.count y = 0 := by
        intro y hne hreject
        by_contra hy
        exact hno ⟨y, Nat.pos_of_ne_zero hy, hne, hreject⟩
      rw [evenPorts, families, hall (.token true) (by decide) rfl,
        hall (.evenPort true) (by decide) rfl, hall (.evenPort false) (by decide) rfl,
        hall (.family .ipv4) (by decide) rfl, hall (.family .ipv6) (by decide) rfl,
        hall (.family .dual) (by decide) rfl] at hpos
      exact absurd hpos (by decide)
    obtain ⟨y, hy, hne, hreject⟩ := hbefore
    exact exists_rejected_of_pair hy hzero hne.symm hreject
  · exact exists_rejected_of_pair hdual htrue (by decide) rfl

/-! ## The loop -/

section Loop

variable (cfg : Config) (clientSocket : Option IoaSocket)

/-- REQUESTED-TRANSPORT is for a transport that the server allows and the client can use. -/
def transportAllowed (t : Transport) : Bool :=
  match t with
  | .tcp => !cfg.noTcpRelay && clientSocket.all fun s => isStreamSocket s.type
  | .udp => !cfg.noUdpRelay

def transportOption (sar : StunAttr) : AllocateOption :=
  if sar.value.length ≠ 4 then .bad
  else
    match getTransportValue sar.value with
    | none => .bad
    | some t => if transportAllowed cfg clientSocket t then .transport t else .bad

def tokenOption (sar : StunAttr) : AllocateOption :=
  if sar.value.length ≠ 8 then .bad
  else .token (decide (stunAttrGetReservationTokenValue sar ≠ 0))

def familyOption (additional : Bool) (sar : StunAttr) : AllocateOption :=
  match stunGetRequestedAddressFamily sar with
  | .ipv4 => if additional then .bad else .family .ipv4
  | .ipv6 => .family (if additional then .dual else .ipv6)
  | .dflt | .invalid => .bad

def allocateOption (sar : StunAttr) : AllocateOption :=
  match sar.type with
  | attrRequestedTransport => transportOption cfg clientSocket sar
  | attrEvenPort => .evenPort (stunAttrGetEvenPort sar)
  | attrReservationToken => tokenOption sar
  | attrAdditionalAddressFamily => familyOption true sar
  | attrRequestedAddressFamily => familyOption false sar
  | _ => .bad

def exclusiveTypes : List ℕ :=
  [attrRequestedTransport, attrEvenPort, attrReservationToken, attrAdditionalAddressFamily,
    attrRequestedAddressFamily]

end Loop

def familyOf : Bool → Bool → Option FamilyOption
  | false, false => none
  | true, false => some .ipv4
  | false, true => some .ipv6
  | true, true => some .dual

def AllocateVars.options (v : AllocateVars) : OptionsRead :=
  ⟨v.transport, v.evenPort, decide (v.inReservationToken ≠ 0), familyOf v.af4 v.af6⟩

/-- A round of the loop from `p` to `q` does what the automaton does. -/
structure FollowsOptions (p q : Parsed AllocateVars) (o : Option OptionsRead) : Prop where
  rejects : o = none → q.errCode ≠ 0
  accepts : ∀ σ, o = some σ →
    q.Quiet ∧ q.val.options = σ ∧ q.val.dontFragment = p.val.dontFragment

variable {p q : Parsed AllocateVars} {cfg : Config} {clientSocket : Option IoaSocket}

lemma followsOptions_error (h : q.errCode ≠ 0) : FollowsOptions p q none :=
  ⟨fun _ => h, fun _ hσ => (nomatch hσ)⟩

lemma followsOptions_set {v : AllocateVars} (hp : p.Quiet)
    (hfragment : v.dontFragment = p.val.dontFragment) :
    FollowsOptions p (p.set v) (some v.options) :=
  ⟨fun h => (nomatch h), fun _ hσ => ⟨hp, Option.some.inj hσ, hfragment⟩⟩

lemma bad_code {p : Parsed AllocateVars} (reason : String) : (p.fail 400 reason).errCode ≠ 0 :=
  (by decide : 400 ≠ 0)

lemma transportOption_cases (cfg : Config) (clientSocket : Option IoaSocket) (sar : StunAttr) :
    (transportOption cfg clientSocket sar = .bad ∧ ∀ t, getTransportValue sar.value = some t →
      sar.value.length = 4 → transportAllowed cfg clientSocket t = false) ∨
    ∃ t, transportOption cfg clientSocket sar = .transport t ∧ sar.value.length = 4 ∧
      getTransportValue sar.value = some t ∧ transportAllowed cfg clientSocket t = true := by
  rw [transportOption]
  by_cases hlen : sar.value.length ≠ 4
  · rw [if_pos hlen]
    exact Or.inl ⟨rfl, fun _ _ h => absurd h hlen⟩
  rw [if_neg hlen]
  cases hvalue : getTransportValue sar.value with
  | none => exact Or.inl ⟨rfl, fun _ h => (nomatch h)⟩
  | some t =>
    by_cases hallowed : transportAllowed cfg clientSocket t = true
    · exact Or.inr ⟨t, if_pos hallowed, not_not.mp hlen, rfl, hallowed⟩
    · refine Or.inl ⟨if_neg hallowed, fun t' ht' _ => ?_⟩
      obtain rfl := Option.some.inj ht'
      simpa using hallowed

lemma allocateTransport_bad {sar : StunAttr}
    (hbad : ∀ t, getTransportValue sar.value = some t → sar.value.length = 4 →
      transportAllowed cfg clientSocket t = false) :
    (allocateTransport cfg clientSocket p sar).errCode ≠ 0 := by
  rw [allocateTransport]
  by_cases hlen : sar.value.length ≠ 4
  · rw [if_pos hlen]
    exact bad_code _
  rw [if_neg hlen]
  by_cases hdouble : p.val.transport.isSome = true
  · rw [if_pos hdouble]
    exact bad_code _
  rw [if_neg hdouble]
  cases hvalue : getTransportValue sar.value with
  | none =>
    cases clientSocket with
    | none => simp [Parsed.failCode]
    | some s => simp [Parsed.failCode, Parsed.set]
  | some t =>
    have hforbidden := hbad t hvalue (not_not.mp hlen)
    cases t with
    | udp =>
      have hcfg : cfg.noUdpRelay = true := by simpa [transportAllowed] using hforbidden
      simp [hcfg, Parsed.fail]
    | tcp =>
      cases hcfg : cfg.noTcpRelay with
      | true => simp [Parsed.fail]
      | false =>
        cases clientSocket with
        | none => simp [transportAllowed, hcfg] at hforbidden
        | some s =>
          have hstream : isStreamSocket s.type = false := by
            simpa [transportAllowed, hcfg] using hforbidden
          simp [hstream, Parsed.fail]

lemma allocateTransport_good {sar : StunAttr} {t : Transport} (hlen : sar.value.length = 4)
    (hvalue : getTransportValue sar.value = some t)
    (hallowed : transportAllowed cfg clientSocket t = true)
    (hnone : ¬ p.val.transport.isSome = true) :
    ∃ isTcpRelay, allocateTransport cfg clientSocket p sar =
      p.set { p.val with transport := some t, isTcpRelay := isTcpRelay } := by
  rw [allocateTransport, if_neg (not_not_intro hlen), if_neg hnone, hvalue]
  cases t with
  | udp =>
    have hcfg : cfg.noUdpRelay = false := by simpa [transportAllowed] using hallowed
    cases clientSocket with
    | none => exact ⟨p.val.isTcpRelay, by simp [hcfg]⟩
    | some s => exact ⟨false, by simp [hcfg, Parsed.set]⟩
  | tcp =>
    rw [transportAllowed, Bool.and_eq_true, Bool.not_eq_true'] at hallowed
    cases clientSocket with
    | none => exact ⟨p.val.isTcpRelay, by simp [hallowed.1]⟩
    | some s =>
      have hstream : isStreamSocket s.type = true := by simpa using hallowed.2
      exact ⟨true, by simp [hallowed.1, hstream, Parsed.set]⟩

lemma allocateTransport_follows (hp : p.Quiet) (sar : StunAttr) :
    FollowsOptions p (allocateTransport cfg clientSocket p sar)
      (p.val.options.step (transportOption cfg clientSocket sar)) := by
  rcases transportOption_cases cfg clientSocket sar with
    ⟨hoption, hbad⟩ | ⟨t, hoption, hlen, hvalue, hallowed⟩
  · rw [hoption]
    exact followsOptions_error (allocateTransport_bad hbad)
  · rw [hoption]
    show FollowsOptions p _ (if p.val.transport.isSome = true then none else _)
    by_cases hdouble : p.val.transport.isSome = true
    · rw [if_pos hdouble, allocateTransport, if_neg (not_not_intro hlen), if_pos hdouble]
      exact followsOptions_error (bad_code _)
    · rw [if_neg hdouble]
      obtain ⟨isTcpRelay, heq⟩ := allocateTransport_good hlen hvalue hallowed hdouble
      rw [heq]
      exact followsOptions_set hp rfl

lemma familyOf_isSome (af4 af6 : Bool) : (familyOf af4 af6).isSome = (af4 || af6) := by
  cases af4 <;> cases af6 <;> rfl

lemma allocateToken_follows (hp : p.Quiet) (sar : StunAttr) :
    FollowsOptions p (allocateReservationToken p sar) (p.val.options.step (tokenOption sar)) := by
  rw [allocateReservationToken, tokenOption]
  by_cases hlen : sar.value.length ≠ 8
  · rw [if_pos hlen, if_pos hlen]
    exact followsOptions_error (bad_code _)
  rw [if_neg hlen, if_neg hlen]
  show FollowsOptions p _ (if (familyOf p.val.af4 p.val.af6).isSome || p.val.evenPort.isSome ||
    decide (p.val.inReservationToken ≠ 0) then none else _)
  rw [familyOf_isSome]
  by_cases hfamily : (p.val.af4 || p.val.af6) = true
  · rw [if_pos hfamily, hfamily]
    exact followsOptions_error (bad_code _)
  rw [if_neg hfamily]
  by_cases heven : p.val.evenPort.isSome = true
  · rw [if_pos heven, heven, Bool.or_true]
    exact followsOptions_error (bad_code _)
  rw [if_neg heven]
  by_cases htoken : p.val.inReservationToken ≠ 0
  · rw [if_pos htoken, decide_eq_true htoken, Bool.or_true]
    exact followsOptions_error (bad_code _)
  rw [if_neg htoken, if_neg (by simp [hfamily, heven, htoken])]
  exact followsOptions_set hp rfl

lemma allocateFamily_follows (hp : p.Quiet) (additional : Bool) (sar : StunAttr)
    (heven : additional = true → p.val.evenPort ≠ some true) :
    FollowsOptions p (allocateAddressFamily additional p sar)
      (p.val.options.step (familyOption additional sar)) := by
  rw [allocateAddressFamily]
  have hstep : ∀ f, (f = .dual → additional = true) → p.val.options.step (.family f) =
      if p.val.inReservationToken ≠ 0 ∨ (p.val.af4 || p.val.af6) = true then none
      else some { p.val.options with family := some f } := by
    intro f hdual
    have hfree : (f == .dual && p.val.evenPort == some true) = false := by
      by_contra hboth
      simp only [Bool.not_eq_false, Bool.and_eq_true, beq_iff_eq] at hboth
      exact heven (hdual hboth.1) hboth.2
    show (if (f == .dual && p.val.evenPort == some true) || decide (p.val.inReservationToken ≠ 0) ||
      (familyOf p.val.af4 p.val.af6).isSome then none else _) = _
    rw [hfree, familyOf_isSome]
    simp only [Bool.false_or, Bool.or_eq_true, decide_eq_true_eq]
  -- a token or a family that was there before is an error, whatever the attribute asks for
  have hearlier : (p.val.inReservationToken ≠ 0 ∨ (p.val.af4 || p.val.af6) = true) →
      p.val.options.step (familyOption additional sar) = none := by
    intro hthere
    rw [familyOption]
    split
    · split_ifs
      · rfl
      · rw [hstep _ (by simp), if_pos hthere]
    · rw [hstep _ (by split_ifs <;> simp_all), if_pos hthere]
    · rfl
    · rfl
  by_cases htoken : p.val.inReservationToken ≠ 0
  · rw [if_pos htoken, hearlier (Or.inl htoken)]
    exact followsOptions_error (bad_code _)
  rw [if_neg htoken]
  by_cases hextra : (p.val.af4 || p.val.af6) = true
  · rw [if_pos hextra, hearlier (Or.inr hextra)]
    exact followsOptions_error (bad_code _)
  rw [if_neg hextra, familyOption]
  have hnothing : ¬ (p.val.inReservationToken ≠ 0 ∨ (p.val.af4 || p.val.af6) = true) :=
    fun h => h.elim htoken hextra
  obtain ⟨h4, h6⟩ : p.val.af4 = false ∧ p.val.af6 = false := by simpa using hextra
  cases stunGetRequestedAddressFamily sar with
  | ipv4 =>
    cases additional with
    | true => exact followsOptions_error (bad_code _)
    | false =>
      have hσ : { p.val with af4 := true }.options =
          { p.val.options with family := some .ipv4 } := by
        simp [AllocateVars.options, familyOf, h6]
      rw [if_neg (by decide), if_neg (by decide), hstep _ (by simp), if_neg hnothing, ← hσ]
      exact followsOptions_set hp rfl
  | ipv6 =>
    have hσ : { p.val with af4 := p.val.af4 || additional, af6 := true }.options =
        { p.val.options with family := some (if additional = true then .dual else .ipv6) } := by
      cases additional <;> simp [AllocateVars.options, familyOf, h4]
    dsimp only
    rw [hstep _ (by cases additional <;> simp), if_neg hnothing, ← hσ]
    exact followsOptions_set hp rfl
  | dflt => exact followsOptions_error (by decide : 440 ≠ 0)
  | invalid => exact followsOptions_error (by decide : 440 ≠ 0)

lemma allocateEvenPort_follows (hp : p.Quiet) (evenPort : Bool) :
    FollowsOptions p
      (if p.val.inReservationToken ≠ 0 then
        p.fail 400 "Even Port and Reservation Token cannot be used together"
      else if evenPort && p.val.af4 && p.val.af6 then
        (p.set { p.val with evenPort := some evenPort }).fail 400
          "Even Port cannot be used with Dual Allocation"
      else p.set { p.val with evenPort := some evenPort })
      (p.val.options.step (.evenPort evenPort)) := by
  have hdual : (evenPort && p.val.options.family == some .dual) =
      (evenPort && p.val.af4 && p.val.af6) := by
    show (evenPort && familyOf p.val.af4 p.val.af6 == some .dual) = _
    cases evenPort <;> cases p.val.af4 <;> cases p.val.af6 <;> rfl
  show FollowsOptions p _ (if decide (p.val.inReservationToken ≠ 0) ||
    (evenPort && p.val.options.family == some .dual) then none else _)
  rw [hdual]
  by_cases htoken : p.val.inReservationToken ≠ 0
  · rw [if_pos htoken, decide_eq_true htoken]
    exact followsOptions_error (bad_code _)
  rw [if_neg htoken, decide_eq_false htoken, Bool.false_or]
  split_ifs
  · exact followsOptions_error (bad_code _)
  · exact followsOptions_set hp rfl

lemma allocateAttr_follows (hp : p.Quiet) {sar : StunAttr} (htype : sar.type ∈ exclusiveTypes) :
    FollowsOptions p (allocateAttr cfg clientSocket p sar)
      (p.val.options.step (allocateOption cfg clientSocket sar)) := by
  have hplain : ∀ t ∈ exclusiveTypes, t ≠ attrUsername ∧ skipAttribute t = false := by decide
  obtain ⟨hname, hskip⟩ := hplain _ htype
  rw [allocateAttr, if_neg hname, hskip, if_neg (by decide)]
  simp only [exclusiveTypes, mem_cons, not_mem_nil, or_false] at htype
  rcases htype with h | h | h | h | h
  · simp only [allocateOption, h]
    exact allocateTransport_follows hp sar
  · simp only [allocateOption, h]
    exact allocateEvenPort_follows hp (stunAttrGetEvenPort sar)
  · simp only [allocateOption, h]
    exact allocateToken_follows hp sar
  · simp only [allocateOption, h]
    by_cases heven : p.val.evenPort = some true
    · have hnone : p.val.options.step (familyOption true sar) = none := by
        rw [familyOption]
        cases stunGetRequestedAddressFamily sar with
        | ipv6 =>
          show (if (_ && p.val.evenPort == some true) || _ || _ then none else _) = none
          rw [heven]
          rfl
        | _ => rfl
      rw [if_pos heven, hnone]
      exact followsOptions_error (bad_code _)
    · rw [if_neg heven]
      exact allocateFamily_follows hp true sar fun _ => heven
  · simp only [allocateOption, h]
    exact allocateFamily_follows hp false sar fun h => absurd h (by decide)

/-- The loop does what the automaton does. -/
lemma readAttrs_follows (hp : p.Quiet) {attrs : List StunAttr}
    (htypes : ∀ sar ∈ attrs, sar.type ∈ exclusiveTypes) :
    FollowsOptions p (readAttrs (allocateAttr cfg clientSocket) p attrs)
      (p.val.options.run (attrs.map (allocateOption cfg clientSocket))) := by
  induction attrs generalizing p with
  | nil => exact ⟨fun h => (nomatch h), fun σ hσ => ⟨hp, Option.some.inj hσ, rfl⟩⟩
  | cons sar attrs ih =>
    obtain ⟨htype, htypes⟩ := forall_mem_cons.mp htypes
    have hround := @allocateAttr_follows p cfg clientSocket hp sar htype
    rw [readAttrs, if_pos hp.live, map_cons, OptionsRead.run]
    cases hstep : p.val.options.step (allocateOption cfg clientSocket sar) with
    | none =>
      have herr := hround.rejects hstep
      rw [readAttrs_of_error herr]
      exact followsOptions_error herr
    | some σ =>
      obtain ⟨hquiet, hσ, hfragment⟩ := hround.accepts σ hstep
      have hrest := ih hquiet htypes
      rw [hσ] at hrest
      refine ⟨hrest.rejects, fun σ' hσ' => ?_⟩
      obtain ⟨hquiet', hoptions, hfragment'⟩ := hrest.accepts σ' hσ'
      exact ⟨hquiet', hoptions, hfragment'.trans hfragment⟩

variable (cfg : Config) (ss : Session) (attrs : List StunAttr)

/-- The parsing stage of an Allocate accepts the attributes. -/
def acceptsAttrs : Bool := (allocateTransport? (readAllocate cfg ss attrs)).isSome

variable {cfg ss attrs}

lemma acceptsAttrs_eq (htypes : ∀ sar ∈ attrs, sar.type ∈ exclusiveTypes) :
    acceptsAttrs cfg ss attrs = accepted (attrs.map (allocateOption cfg ss.clientSocket)) := by
  have hfollows : FollowsOptions _ (readAllocate cfg ss attrs) _ :=
    readAttrs_follows (p := .start (.init ss)) ⟨rfl, rfl⟩ htypes
  have hinit : (Parsed.start (AllocateVars.init ss)).val.options = OptionsRead.init := rfl
  rw [hinit] at hfollows
  rw [acceptsAttrs, accepted, allocateTransport?]
  cases hrun : OptionsRead.init.run (attrs.map (allocateOption cfg ss.clientSocket)) with
  | none =>
    have herr := hfollows.rejects hrun
    rw [any_none, isSome_eq_false_iff, isNone_iff_eq_none,
      filter_eq_none_iff]
    intro t ht
    simp [herr]
  | some σ =>
    obtain ⟨⟨herr, hunknown⟩, rfl, hfragment⟩ := hfollows.accepts σ hrun
    rw [any_some, OptionsRead.final]
    show _ = (readAllocate cfg ss attrs).val.transport.any fun t =>
      t == .udp || (!decide ((readAllocate cfg ss attrs).val.inReservationToken ≠ 0) &&
        (readAllocate cfg ss attrs).val.evenPort.isNone)
    have hfragment : (readAllocate cfg ss attrs).val.dontFragment = false := hfragment
    cases (readAllocate cfg ss attrs).val.transport with
    | none => rfl
    | some t =>
      cases t with
      | udp => simp [Option.filter, herr, hunknown]
      | tcp =>
        have hne : (Transport.tcp == Transport.udp) = false := rfl
        cases (readAllocate cfg ss attrs).val.evenPort with
        | none =>
          by_cases htoken : (readAllocate cfg ss attrs).val.inReservationToken = 0
          · simp [Option.filter, herr, hunknown, hfragment, htoken]
          · simp [Option.filter, htoken, hne]
        | some reserve => simp [Option.filter, hne]

/-! ## All orders -/

/-- Every order of the attributes is accepted, or every order is rejected; and a RESERVATION-TOKEN
is not accepted with an EVEN-PORT or an address family. -/
structure OrderIrrelevant (cfg : Config) (ss : Session) (attrs : List StunAttr) : Prop where
  same : (∀ l, l.Perm attrs → acceptsAttrs cfg ss l = true) ∨
    ∀ l, l.Perm attrs → acceptsAttrs cfg ss l = false
  tokenAlone : ∀ l, l.Perm attrs → acceptsAttrs cfg ss l = true →
    ∀ sar ∈ l, sar.type = attrReservationToken → ∀ sar' ∈ l,
      sar'.type ≠ attrEvenPort ∧ sar'.type ≠ attrRequestedAddressFamily ∧
        sar'.type ≠ attrAdditionalAddressFamily

lemma Acceptable.perm {l l' : List AllocateOption} (h : Acceptable l) (hperm : l'.Perm l) :
    Acceptable l' := by
  have hcount : ∀ y, l'.count y = l.count y := fun y => hperm.count_eq y
  have heven : evenPorts l' = evenPorts l := by rw [evenPorts, evenPorts, hcount, hcount]
  have hfamily : families l' = families l := by rw [families, families, hcount, hcount, hcount]
  obtain ⟨h₁, h₂, h₃, h₄, h₅, h₆, h₇⟩ := h
  simp only [← hcount, ← heven, ← hfamily] at h₁ h₂ h₃ h₄ h₅ h₆ h₇
  exact ⟨h₁, h₂, h₃, h₄, h₅, h₆, h₇⟩

lemma Mixed.perm {l l' : List AllocateOption} (h : Mixed l) (hperm : l'.Perm l) : Mixed l' := by
  have hcount : ∀ y, l'.count y = l.count y := fun y => hperm.count_eq y
  rw [Mixed, evenPorts, families] at h ⊢
  simp only [hcount]
  exact h

lemma exists_perm_of_map (kind : StunAttr → AllocateOption) {l : List AllocateOption}
    (h : l.Perm (attrs.map kind)) : ∃ l' : List StunAttr, l'.Perm attrs ∧ l'.map kind = l := by
  have hkinds : List.Forall₂ (fun x sar => kind sar = x) (attrs.map kind) attrs := by
    rw [List.forall₂_map_left_iff, List.forall₂_same]
    exact fun _ _ => rfl
  obtain ⟨l', hl', hperm⟩ := perm_comp_forall₂ h hkinds
  refine ⟨l', hperm, ?_⟩
  clear h hperm
  induction hl' with
  | nil => rfl
  | cons hx _ ih => rw [map_cons, hx, ih]

/-- A token with something that excludes it is acceptable only if it is zero, and then the order
matters. -/
lemma Acceptable.mixed_of_token {l : List AllocateOption} (h : Acceptable l) {nonzero : Bool}
    (htoken : .token nonzero ∈ l) (hpos : 0 < evenPorts l + families l) : Mixed l := by
  have hcount := count_pos_iff.mpr htoken
  cases nonzero with
  | false => exact Or.inl ⟨hcount, by omega⟩
  | true =>
    have halone := h.tokenAlone hcount
    omega

lemma Acceptable.not_bad {l : List AllocateOption} (h : Acceptable l) : .bad ∉ l :=
  count_eq_zero.mp h.bad

lemma tokenOption_of_ne {sar : StunAttr} (h : tokenOption sar ≠ .bad) :
    ∃ nonzero, tokenOption sar = .token nonzero := by
  rw [tokenOption] at h ⊢
  split_ifs at h ⊢
  · exact absurd rfl h
  · exact ⟨_, rfl⟩

lemma familyOption_of_ne {additional : Bool} {sar : StunAttr}
    (h : familyOption additional sar ≠ .bad) : ∃ f, familyOption additional sar = .family f := by
  rw [familyOption] at h ⊢
  generalize stunGetRequestedAddressFamily sar = value at h ⊢
  cases value with
  | ipv4 =>
    cases additional with
    | true => exact absurd rfl h
    | false => exact ⟨_, rfl⟩
  | ipv6 => exact ⟨_, rfl⟩
  | _ => exact absurd rfl h

lemma Acceptable.tokenAlone_attrs {l : List StunAttr} {os : List AllocateOption}
    (hos : l.map (allocateOption cfg ss.clientSocket) = os) (h : Acceptable os)
    (hmixed : ¬ Mixed os) {sar sar' : StunAttr} (hsar : sar ∈ l)
    (htype : sar.type = attrReservationToken) (hsar' : sar' ∈ l) :
    sar'.type ≠ attrEvenPort ∧ sar'.type ≠ attrRequestedAddressFamily ∧
      sar'.type ≠ attrAdditionalAddressFamily := by
  have hmem : ∀ sar ∈ l, allocateOption cfg ss.clientSocket sar ∈ os :=
    fun sar hsar => hos ▸ List.mem_map_of_mem hsar
  have hgood : ∀ sar ∈ l, allocateOption cfg ss.clientSocket sar ≠ .bad :=
    fun sar hsar hbad => h.not_bad (hbad ▸ hmem sar hsar)
  have htoken : ∃ nonzero, .token nonzero ∈ os := by
    have hkind : allocateOption cfg ss.clientSocket sar = tokenOption sar := by
      simp only [allocateOption, htype]
    obtain ⟨nonzero, heq⟩ := tokenOption_of_ne (hkind ▸ hgood sar hsar)
    exact ⟨nonzero, heq ▸ hkind ▸ hmem sar hsar⟩
  obtain ⟨nonzero, htoken⟩ := htoken
  have hnone : ¬ 0 < evenPorts os + families os :=
    fun hpos => hmixed (h.mixed_of_token htoken hpos)
  have hfamily : ∀ additional,
      allocateOption cfg ss.clientSocket sar' ≠ familyOption additional sar' := by
    intro additional hkind
    obtain ⟨f, heq⟩ := familyOption_of_ne (hkind ▸ hgood sar' hsar')
    exact hnone (Nat.add_pos_right _ (families_pos (heq ▸ hkind ▸ hmem sar' hsar')))
  refine ⟨fun heven => ?_, fun hrequested => ?_, fun hadditional => ?_⟩
  · have hkind : allocateOption cfg ss.clientSocket sar' =
        .evenPort (stunAttrGetEvenPort sar') := by
      simp only [allocateOption, heven]
    exact hnone (Nat.add_pos_left (evenPorts_pos (hkind ▸ hmem sar' hsar')) _)
  · exact hfamily false (by simp only [allocateOption, hrequested])
  · exact hfamily true (by simp only [allocateOption, hadditional])

/-- The order does not matter exactly when no order is acceptable, or the attributes are not of the
kinds that make it matter. -/
theorem order_irrelevant_iff (cfg : Config) (ss : Session) (attrs : List StunAttr)
    (htypes : ∀ sar ∈ attrs, sar.type ∈ exclusiveTypes) :
    OrderIrrelevant cfg ss attrs ↔
      ¬ (Acceptable (attrs.map (allocateOption cfg ss.clientSocket)) ∧
        Mixed (attrs.map (allocateOption cfg ss.clientSocket))) := by
  have haccepts : ∀ l : List StunAttr, l.Perm attrs → acceptsAttrs cfg ss l =
      accepted (l.map (allocateOption cfg ss.clientSocket)) :=
    fun l hperm => acceptsAttrs_eq fun sar hsar => htypes sar (hperm.mem_iff.mp hsar)
  constructor
  · rintro hsame ⟨hacceptable, hmixed⟩
    obtain ⟨m₁, hm₁, haccepted⟩ := hacceptable.exists_accepted
    obtain ⟨m₂, hm₂, hrejected⟩ := hmixed.exists_rejected
    obtain ⟨l₁, hl₁, rfl⟩ := exists_perm_of_map _ hm₁
    obtain ⟨l₂, hl₂, rfl⟩ := exists_perm_of_map _ hm₂
    rw [← haccepts l₁ hl₁] at haccepted
    rw [← haccepts l₂ hl₂] at hrejected
    rcases hsame.same with hall | hnone
    · exact absurd (hrejected.symm.trans (hall l₂ hl₂)) (by decide)
    · exact absurd (haccepted.symm.trans (hnone l₁ hl₁)) (by decide)
  · intro hnot
    -- an order that is accepted is acceptable, and so the kinds are not mixed
    have hunmixed : ∀ l : List StunAttr, l.Perm attrs → acceptsAttrs cfg ss l = true →
        Acceptable (l.map (allocateOption cfg ss.clientSocket)) ∧
          ¬ Mixed (l.map (allocateOption cfg ss.clientSocket)) := by
      intro l hl haccepted
      rw [haccepts l hl] at haccepted
      have hperm := hl.map (allocateOption cfg ss.clientSocket)
      have hacceptable := acceptable_of_accepted haccepted
      exact ⟨hacceptable, fun hmixed => hnot ⟨hacceptable.perm hperm.symm, hmixed.perm hperm.symm⟩⟩
    refine ⟨?_, fun l hl haccepted sar hsar htype sar' hsar' => ?_⟩
    · by_cases hsome : ∃ l : List StunAttr, l.Perm attrs ∧ acceptsAttrs cfg ss l = true
      · obtain ⟨l, hl, haccepted⟩ := hsome
        obtain ⟨hacceptable, hmixed⟩ := hunmixed l hl haccepted
        refine Or.inl fun l' hl' => ?_
        have hperm := (hl'.trans hl.symm).map (allocateOption cfg ss.clientSocket)
        rw [haccepts l' hl']
        exact accepted_of_not_mixed (hacceptable.perm hperm)
          fun hmixed' => hmixed (hmixed'.perm hperm.symm)
      · refine Or.inr fun l' hl' => ?_
        by_contra haccepted
        exact hsome ⟨l', hl', by simpa using haccepted⟩
    · obtain ⟨hacceptable, hmixed⟩ := hunmixed l hl haccepted
      exact Acceptable.tokenAlone_attrs rfl hacceptable hmixed hsar htype hsar'

def evenPortAttr : ℕ × List UInt8 := (attrEvenPort, [0x80])

def zeroTokenAttr : ℕ × List UInt8 := (attrReservationToken, List.replicate 8 0)

def ipv4FamilyAttr : ℕ × List UInt8 := (attrRequestedAddressFamily, [1, 0, 0, 0])

/-- An EVEN-PORT, an address family and a transport. -/
def evenPortAttrs : List StunAttr := requestAttrs [udpTransportAttr, evenPortAttr, ipv4FamilyAttr]

theorem order_irrelevant_evenPort :
    ∃ ss ∈ connected.sessionsMap 1,
      acceptsAttrs plainParams ss evenPortAttrs = true ∧
      OrderIrrelevant plainParams ss evenPortAttrs := by
  obtain ⟨ss, hss, haccepts, hmixed⟩ : ∃ ss ∈ connected.sessionsMap 1,
      acceptsAttrs plainParams ss evenPortAttrs = true ∧
      ¬ Mixed (evenPortAttrs.map (allocateOption plainParams ss.clientSocket)) := by
    decide +kernel
  exact ⟨ss, hss, haccepts, (order_irrelevant_iff plainParams ss evenPortAttrs
    (by decide +kernel)).mpr fun h => hmixed h.2⟩

/-- An Allocate with a token that is zero, an EVEN-PORT, an address family and a transport. -/
def zeroTokenFirst : List StunAttr :=
  requestAttrs [zeroTokenAttr, evenPortAttr, ipv4FamilyAttr, udpTransportAttr]

/-- A zero token passes with an EVEN-PORT and a family if it comes first, and is rejected if it
comes last. -/
theorem order_matters_for_zero_token :
    ∃ ss ∈ connected.sessionsMap 1,
      acceptsAttrs plainParams ss zeroTokenFirst = true ∧
      acceptsAttrs plainParams ss zeroTokenFirst.reverse = false ∧
      ¬ OrderIrrelevant plainParams ss zeroTokenFirst := by
  obtain ⟨ss, hss, haccepted, hrejected⟩ : ∃ ss ∈ connected.sessionsMap 1,
      acceptsAttrs plainParams ss zeroTokenFirst = true ∧
      acceptsAttrs plainParams ss zeroTokenFirst.reverse = false := by
    decide +kernel
  refine ⟨ss, hss, haccepted, hrejected, fun h => ?_⟩
  rcases h.same with hall | hnone
  · exact absurd (hrejected.symm.trans (hall _ (reverse_perm _))) (by decide)
  · exact absurd (haccepted.symm.trans (hnone _ (List.Perm.refl _))) (by decide)

end Coturn
