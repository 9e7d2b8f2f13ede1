/-
# SASLprep

`SASLprep` of `client/ns_turn_msg.c` prepares a user name in place: one pointer reads, another one
writes, and never gets ahead of the first. The string is refused at the first prohibited byte.
The comparison with the end of the ASCII control characters is `c < 0x1F`, so that the last of them
is let through.
-/
import Mathlib.Data.List.Basic
import Mathlib.Tactic.SplitIfs

namespace Coturn

open List

variable {s : List UInt8}

/-! ## The loop -/

/-- The loop of `SASLprep`, with at most `n` turns: what it returns, and the buffer. -/
def saslPrepLoop : ℕ → List UInt8 → ℕ → ℕ → Option (Bool × List UInt8)
  | 0, _, _, _ => none
  | n + 1, buf, strin, strout =>
    match buf[strin]? with
    | none => none
    | some c =>
      if c = 0 then some (true, buf.set strout 0)
      else if c = 0xAD then saslPrepLoop n buf (strin + 1) strout
      else if c = 0xA0 ∨ c = 0x20 then
        saslPrepLoop n (buf.set strout 0x20) (strin + 1) (strout + 1)
      else if c = 0x7F then some (false, buf)
      else if c < 0x1F then some (false, buf)
      else if 0x80 ≤ c ∧ c ≤ 0x9F then some (false, buf)
      else saslPrepLoop n (buf.set strout c) (strin + 1) (strout + 1)

def saslPrep (buf : List UInt8) : Option (Bool × List UInt8) := saslPrepLoop buf.length buf 0 0

/-! ## The string that is left -/

/-- The bytes that are not allowed in a user name. -/
def Prohibited (c : UInt8) : Prop := (0x01 ≤ c ∧ c ≤ 0x1F) ∨ c = 0x7F ∨ (0x80 ≤ c ∧ c ≤ 0x9F)
  deriving Decidable

/-- The string without soft hyphens, with a space for each no-break space. -/
def prepared (s : List UInt8) : List UInt8 :=
  (s.filter (· ≠ 0xAD)).map fun c => if c = 0xA0 then 0x20 else c

/-- The buffer has the string at its start. -/
def Holds (buf s : List UInt8) : Prop := ∃ rest, buf = s ++ 0 :: rest

lemma set_behind (out gap : List UInt8) (c x : UInt8) (unread : List UInt8) :
    ∃ gap', (out ++ gap ++ c :: unread).set out.length x = (out ++ [x]) ++ gap' ++ unread ∧
      gap'.length = gap.length := by
  cases gap with
  | nil => exact ⟨[], by simp, rfl⟩
  | cons g gap => exact ⟨gap ++ [c], by simp, by simp⟩

lemma prepared_cons (c : UInt8) (s : List UInt8) :
    prepared (c :: s) = prepared [c] ++ prepared s := by
  rw [prepared, prepared, prepared, ← map_append, ← filter_append]
  rfl

variable {c : UInt8}

lemma stops_of_prohibited (h : Prohibited c) (hne : c ≠ 0x1F) :
    c ≠ 0xAD ∧ ¬ (c = 0xA0 ∨ c = 0x20) ∧ (c = 0x7F ∨ c < 0x1F ∨ (0x80 ≤ c ∧ c ≤ 0x9F)) := by
  unfold Prohibited at h
  grind

/-- A turn of the loop at a byte that it lets through. -/
lemma saslPrepLoop_turn (hc : c ≠ 0) (hok : Prohibited c → c = 0x1F) (n : ℕ)
    (out gap unread : List UInt8) :
    ∃ gap', saslPrepLoop (n + 1) (out ++ gap ++ c :: unread) (out ++ gap).length out.length =
      saslPrepLoop n (out ++ prepared [c] ++ gap' ++ unread) (out ++ prepared [c] ++ gap').length
        (out ++ prepared [c]).length := by
  have hread : (out ++ gap ++ c :: unread)[(out ++ gap).length]? = some c := by simp
  have hwrite : ∀ x, ∃ gap', saslPrepLoop n ((out ++ gap ++ c :: unread).set out.length x)
      ((out ++ gap).length + 1) (out.length + 1) =
        saslPrepLoop n (out ++ [x] ++ gap' ++ unread) (out ++ [x] ++ gap').length
          (out ++ [x]).length := by
    intro x
    obtain ⟨gap', hset, hlen⟩ := set_behind out gap c x unread
    refine ⟨gap', ?_⟩
    rw [hset]
    congr 1 <;> simp only [length_append, length_cons, length_nil, hlen]
    omega
  simp only [saslPrepLoop, hread, if_neg hc]
  by_cases had : c = 0xAD
  · subst had
    exact ⟨gap ++ [0xAD], by simp [prepared, ← Nat.add_assoc]⟩
  rw [if_neg had]
  by_cases hspace : c = 0xA0 ∨ c = 0x20
  · have hprepared : prepared [c] = [0x20] := by
      rcases hspace with rfl | rfl <;> decide
    rw [if_pos hspace, hprepared]
    exact hwrite 0x20
  · have hprepared : prepared [c] = [c] := by
      rw [not_or] at hspace
      simp [prepared, had, hspace.1]
    have hpass : ¬ c = 0x7F ∧ ¬ c < 0x1F ∧ ¬ (0x80 ≤ c ∧ c ≤ 0x9F) := by
      refine ⟨fun h => ?_, fun h => ?_, fun h => ?_⟩
      · exact absurd (hok (Or.inr (Or.inl h))) (by rw [h]; decide)
      · have hpos : 0x01 ≤ c := UInt8.pos_iff_ne_zero.mpr hc
        exact absurd (hok (Or.inl ⟨hpos, UInt8.le_of_lt h⟩)) (UInt8.ne_of_lt h)
      · have heq := hok (Or.inr (Or.inr h))
        rw [heq] at h
        exact absurd h.1 (by decide)
    rw [if_neg hspace, if_neg hpass.1, if_neg hpass.2.1, if_neg hpass.2.2, hprepared]
    exact hwrite c

lemma saslPrepLoop_accepts (h0 : 0 ∉ s) (hok : ∀ c ∈ s, Prohibited c → c = 0x1F)
    (rest out gap : List UInt8) {n : ℕ} (hn : s.length < n) :
    ∃ tail, saslPrepLoop n (out ++ gap ++ (s ++ 0 :: rest)) (out ++ gap).length out.length =
      some (true, out ++ prepared s ++ 0 :: tail) := by
  induction s generalizing n out gap with
  | nil =>
    obtain ⟨n, rfl⟩ := Nat.exists_eq_succ_of_ne_zero (by omega : n ≠ 0)
    obtain ⟨gap', hset, -⟩ := set_behind out gap 0 0 rest
    have hread : (out ++ gap ++ 0 :: rest)[(out ++ gap).length]? = some 0 := by simp
    refine ⟨gap' ++ rest, ?_⟩
    rw [nil_append, saslPrepLoop, hread]
    simp only [if_true, hset]
    simp [prepared]
  | cons c s ih =>
    obtain ⟨n, rfl⟩ := Nat.exists_eq_succ_of_ne_zero (by omega : n ≠ 0)
    rw [mem_cons, not_or] at h0
    obtain ⟨gap', hturn⟩ := saslPrepLoop_turn (Ne.symm h0.1) (hok c mem_cons_self) n out gap
      (s ++ 0 :: rest)
    obtain ⟨tail, hloop⟩ := ih h0.2 (fun d hd => hok d (mem_cons_of_mem c hd))
      (out ++ prepared [c]) gap' (by simpa using hn)
    refine ⟨tail, ?_⟩
    rw [cons_append, hturn, hloop, prepared_cons c s, append_assoc out]

lemma saslPrepLoop_refuses (h0 : 0 ∉ s) (hbad : ∃ c ∈ s, Prohibited c ∧ c ≠ 0x1F)
    (rest out gap : List UInt8) {n : ℕ} (hn : s.length < n) :
    ∃ buf, saslPrepLoop n (out ++ gap ++ (s ++ 0 :: rest)) (out ++ gap).length out.length =
      some (false, buf) := by
  induction s generalizing n out gap with
  | nil => simp at hbad
  | cons c s ih =>
    obtain ⟨n, rfl⟩ := Nat.exists_eq_succ_of_ne_zero (by omega : n ≠ 0)
    rw [mem_cons, not_or] at h0
    by_cases hc : Prohibited c ∧ c ≠ 0x1F
    · have hread : (out ++ gap ++ c :: (s ++ 0 :: rest))[(out ++ gap).length]? = some c := by simp
      refine ⟨out ++ gap ++ c :: (s ++ 0 :: rest), ?_⟩
      rw [cons_append, saslPrepLoop, hread]
      obtain ⟨had, hspace, hstop⟩ := stops_of_prohibited hc.1 hc.2
      simp only [if_neg (Ne.symm h0.1), if_neg had, if_neg hspace]
      split_ifs with h7F hlow hhigh
      · rfl
      · rfl
      · rfl
      · exact absurd hstop (by simp [h7F, hlow, hhigh])
    · obtain ⟨gap', hturn⟩ := saslPrepLoop_turn (Ne.symm h0.1)
        (fun h => by_contra fun hne => hc ⟨h, hne⟩) n out gap (s ++ 0 :: rest)
      have hbad' : ∃ d ∈ s, Prohibited d ∧ d ≠ 0x1F := by
        obtain ⟨d, hd, hprohibited⟩ := hbad
        rcases mem_cons.mp hd with rfl | hd
        · exact absurd hprohibited hc
        · exact ⟨d, hd, hprohibited⟩
      obtain ⟨buf, hloop⟩ := ih h0.2 hbad' (out ++ prepared [c]) gap' (by simpa using hn)
      exact ⟨buf, by rw [cons_append, hturn, hloop]⟩

lemma prepared_prepared (s : List UInt8) : prepared (prepared s) = prepared s := by
  have hne : ∀ c ∈ prepared s, c ≠ 0xAD ∧ c ≠ 0xA0 := by
    intro c hc
    obtain ⟨d, hd, rfl⟩ := mem_map.mp hc
    have hd' : d ≠ 0xAD := by simpa using (mem_filter.mp hd).2
    split_ifs with h
    · decide
    · exact ⟨hd', h⟩
  generalize prepared s = t at hne
  rw [prepared, filter_eq_self.mpr fun c hc => by simpa using (hne c hc).1]
  exact (map_congr_left fun c hc => if_neg (hne c hc).2).trans t.map_id

lemma mem_of_mem_prepared (h : c ∈ prepared s) : c ∈ s ∨ c = 0x20 := by
  obtain ⟨d, hd, rfl⟩ := mem_map.mp h
  split_ifs
  · exact Or.inr rfl
  · exact Or.inl (mem_filter.mp hd).1

/-- What `SASLprep` has to do with the string `s`, in any buffer. -/
def SaslPrepExact (s : List UInt8) : Prop :=
  ∀ rest, ((∃ buf, saslPrep (s ++ 0 :: rest) = some (true, buf)) ↔ ∀ c ∈ s, ¬ Prohibited c) ∧
    ∀ buf, saslPrep (s ++ 0 :: rest) = some (true, buf) →
      Holds buf (prepared s) ∧ ∃ buf', saslPrep buf = some (true, buf') ∧ Holds buf' (prepared s)

lemma saslPrep_accepts (h0 : 0 ∉ s) (hok : ∀ c ∈ s, Prohibited c → c = 0x1F) (rest : List UInt8) :
    ∃ buf, saslPrep (s ++ 0 :: rest) = some (true, buf) ∧ Holds buf (prepared s) := by
  obtain ⟨tail, hloop⟩ :=
    saslPrepLoop_accepts h0 hok rest [] [] (n := (s ++ 0 :: rest).length) (by simp)
  exact ⟨_, hloop, tail, rfl⟩

/-- `SASLprep` is exact on the strings without the byte `0x1F`, and on those that are refused for
another byte. -/
theorem saslPrep_exact_iff (s : List UInt8) (h0 : 0 ∉ s) :
    SaslPrepExact s ↔ 0x1F ∉ s ∨ ∃ c ∈ s, Prohibited c ∧ c ≠ 0x1F := by
  by_cases hbad : ∃ c ∈ s, Prohibited c ∧ c ≠ 0x1F
  · refine iff_of_true (fun rest => ?_) (Or.inr hbad)
    obtain ⟨buf, hloop⟩ :=
      saslPrepLoop_refuses h0 hbad rest [] [] (n := (s ++ 0 :: rest).length) (by simp)
    have hfalse : ∀ buf', saslPrep (s ++ 0 :: rest) ≠ some (true, buf') := by
      intro buf' h
      have heq := (show _ = some (false, buf) from hloop).symm.trans h
      cases heq
    obtain ⟨c, hc, hprohibited, -⟩ := hbad
    exact ⟨iff_of_false (fun h => h.elim hfalse) fun h => h c hc hprohibited,
      fun buf' h => absurd h (hfalse buf')⟩
  · rw [or_iff_left hbad]
    have hok : ∀ c ∈ s, Prohibited c → c = 0x1F := fun c hc h =>
      by_contra fun hne => hbad ⟨c, hc, h, hne⟩
    constructor
    · intro h hmem
      obtain ⟨buf, hprep, -⟩ := saslPrep_accepts h0 hok []
      exact ((h []).1.mp ⟨buf, hprep⟩) _ hmem (by decide)
    · intro hnone rest
      obtain ⟨buf, hprep, hholds⟩ := saslPrep_accepts h0 hok rest
      refine ⟨iff_of_true ⟨buf, hprep⟩ fun c hc h => hnone (hok c hc h ▸ hc), ?_⟩
      intro buf' hbuf'
      obtain rfl : buf = buf' := by
        rw [hprep] at hbuf'
        exact (Prod.mk.inj (Option.some.inj hbuf')).2
      -- the prepared string is let through again, and is its own preparation
      have h0' : 0 ∉ prepared s := fun h => (mem_of_mem_prepared h).elim h0 (by decide)
      have hok' : ∀ c ∈ prepared s, Prohibited c → c = 0x1F := by
        intro c hc h
        rcases mem_of_mem_prepared hc with hc | rfl
        · exact hok c hc h
        · exact absurd h (by decide)
      obtain ⟨rest', rfl⟩ := hholds
      obtain ⟨buf', hprep', hholds'⟩ := saslPrep_accepts h0' hok' rest'
      rw [prepared_prepared] at hholds'
      exact ⟨⟨rest', rfl⟩, buf', hprep', hholds'⟩

/-- A name with a soft hyphen and a no-break space. -/
theorem saslPrep_exact_iff_plain : SaslPrepExact [0x61, 0xAD, 0xA0, 0x62] ∧
    saslPrep [0x61, 0xAD, 0xA0, 0x62, 0] = some (true, [0x61, 0x20, 0x62, 0, 0]) :=
  ⟨(saslPrep_exact_iff _ (by decide)).mpr (Or.inl (by decide)), by decide⟩

/-- The control character `0x1F` is let through. -/
theorem saslPrep_accepts_unitSeparator :
    Prohibited 0x1F ∧ saslPrep [0x61, 0x1F, 0] = some (true, [0x61, 0x1F, 0]) ∧
      ¬ SaslPrepExact [0x61, 0x1F] := by
  refine ⟨by decide, by decide, fun h => ?_⟩
  exact (h []).1.mp ⟨[0x61, 0x1F, 0], by decide⟩ 0x1F (by decide) (by decide)

end Coturn
