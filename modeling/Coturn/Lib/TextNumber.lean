/-
# Numbers in texts

How the C library reads a number from a text, a list of bytes: white space, a sign, and then digits,
up to the first byte that is none. And decimal numbers as `printf` writes them.
-/
import Mathlib.Data.Nat.Digits.Defs

namespace TextNumber

def isSpace (c : UInt8) : Bool := c == 0x20 || (0x09 ≤ c && c ≤ 0x0D)

def hexDigit? (c : UInt8) : Option ℕ :=
  if 0x30 ≤ c ∧ c ≤ 0x39 then some (c.toNat - 0x30)
  else if 0x41 ≤ c ∧ c ≤ 0x46 then some (c.toNat - 0x41 + 10)
  else if 0x61 ≤ c ∧ c ≤ 0x66 then some (c.toNat - 0x61 + 10)
  else none

def decDigit? (c : UInt8) : Option ℕ :=
  if 0x30 ≤ c ∧ c ≤ 0x39 then some (c.toNat - 0x30) else none

/-- The number in the digits at the start of a text, after digits with the value `acc`. -/
def digitsValue (base : ℕ) (digit? : UInt8 → Option ℕ) : ℕ → List UInt8 → ℕ
  | acc, [] => acc
  | acc, c :: s =>
    match digit? c with
    | none => acc
    | some d => digitsValue base digit? (acc * base + d) s

/-- The sign and the number after it. -/
def signed (value : List UInt8 → ℕ) (s : List UInt8) : ℤ :=
  match s.dropWhile isSpace with
  | 0x2D :: s => - value s
  | 0x2B :: s => value s
  | s => value s

/-- `strtoul` to the base 16, without overflow: a prefix `0x` is skipped when a digit follows it. -/
def strtoul16 (s : List UInt8) : ℤ :=
  signed (fun s =>
    match s with
    | 0x30 :: x :: c :: s =>
      if (x = 0x78 ∨ x = 0x58) ∧ (hexDigit? c).isSome then digitsValue 16 hexDigit? 0 (c :: s)
      else digitsValue 16 hexDigit? 0 (0x30 :: x :: c :: s)
    | s => digitsValue 16 hexDigit? 0 s) s

/-- `atoi`, of a text that is too short for an overflow. -/
def atoi (s : List UInt8) : ℤ := signed (digitsValue 10 decDigit? 0) s

/-- The decimal digits of a number that is not 0. -/
def decText (n : ℕ) : List UInt8 := (Nat.digits 10 n).reverse.map fun d => UInt8.ofNat (0x30 + d)

lemma decDigit?_ofNat {d : ℕ} (h : d < 10) : decDigit? (UInt8.ofNat (0x30 + d)) = some d := by
  have hall : ∀ d : Fin 10, decDigit? (UInt8.ofNat (0x30 + d)) = some d.val := by decide
  exact hall ⟨d, h⟩

lemma decDigit?_of_mem_decText {n : ℕ} {c : UInt8} (h : c ∈ decText n) :
    (decDigit? c).isSome = true := by
  obtain ⟨d, hd, rfl⟩ := List.mem_map.mp h
  rw [decDigit?_ofNat (Nat.digits_lt_base (by decide) (List.mem_reverse.mp hd))]
  rfl

lemma digitsValue_map {ds : List ℕ} (h : ∀ d ∈ ds, d < 10) (acc : ℕ) :
    digitsValue 10 decDigit? acc (ds.map fun d => UInt8.ofNat (0x30 + d)) =
      ds.foldl (fun acc d => acc * 10 + d) acc := by
  induction ds generalizing acc with
  | nil => rfl
  | cons d ds ih =>
    rw [List.map_cons, digitsValue, decDigit?_ofNat (h d List.mem_cons_self)]
    exact ih (fun e he => h e (List.mem_cons_of_mem d he)) _

lemma digitsValue_decText (n : ℕ) : digitsValue 10 decDigit? 0 (decText n) = n := by
  have hlt : ∀ d ∈ (Nat.digits 10 n).reverse, d < 10 := fun d hd =>
    Nat.digits_lt_base (by decide) (List.mem_reverse.mp hd)
  rw [decText, digitsValue_map hlt, List.foldl_reverse]
  conv_rhs => rw [← Nat.ofDigits_digits 10 n, Nat.ofDigits_eq_foldr]
  congr 1
  funext d acc
  simp [Nat.mul_comm, Nat.add_comm]

lemma atoi_decText (n : ℕ) : atoi (decText n) = n := by
  have hdigit : ∀ c : UInt8, (decDigit? c).isSome = true →
      isSpace c = false ∧ c ≠ 0x2D ∧ c ≠ 0x2B := by
    intro c hc
    refine ⟨?_, ?_, ?_⟩
    · rw [Bool.eq_false_iff]
      intro hspace
      grind [isSpace, decDigit?]
    · rintro rfl
      cases hc
    · rintro rfl
      cases hc
  rw [atoi, signed]
  cases htext : decText n with
  | nil => simpa [htext] using congrArg (Nat.cast (R := ℤ)) (digitsValue_decText n)
  | cons c s =>
    obtain ⟨hspace, hminus, hplus⟩ := hdigit c (decDigit?_of_mem_decText (htext ▸ List.mem_cons_self))
    rw [List.dropWhile_cons_of_neg (by simp [hspace])]
    split
    · next heq => exact absurd (List.cons.inj heq).1 hminus
    · next heq => exact absurd (List.cons.inj heq).1 hplus
    · rw [← htext, digitsValue_decText]

end TextNumber
