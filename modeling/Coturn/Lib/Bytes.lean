/-
# Byte strings as big-endian numbers

A byte string is a list of octets, most significant first. Strings of one length are compared as
numbers, byte by byte, and by a loop that stops at the first byte that is too large. The last
section writes and reads fixed-width fields.
-/
import Mathlib.Data.Vector.Basic
import Mathlib.Data.List.Forall2
import Mathlib.Tactic.Ring

namespace ByteSeq

variable {ys : List UInt8} (xs : List UInt8)

/-- The number written by a byte string, most significant byte first. -/
def beNat : List UInt8 → Nat
  | [] => 0
  | x :: xs => x.toNat * 256 ^ xs.length + beNat xs

/-- The loop `for i: if (a[i] > b[i]) return 0; return 1`. -/
def noByteAbove : List UInt8 → List UInt8 → Bool
  | x :: xs, y :: ys => if x > y then false else noByteAbove xs ys
  | _, _ => true

@[simp] lemma beNat_nil : beNat [] = 0 := rfl

@[simp] lemma beNat_cons (x : UInt8) (xs : List UInt8) :
    beNat (x :: xs) = x.toNat * 256 ^ xs.length + beNat xs := rfl

lemma beNat_lt : beNat xs < 256 ^ xs.length := by
  induction xs with
  | nil => simp
  | cons x xs ih =>
    have hx : x.toNat + 1 ≤ 256 := by
      have := x.toNat_lt
      omega
    calc beNat (x :: xs) < x.toNat * 256 ^ xs.length + 256 ^ xs.length := by
          rw [beNat_cons]; omega
      _ = (x.toNat + 1) * 256 ^ xs.length := by ring
      _ ≤ 256 * 256 ^ xs.length := Nat.mul_le_mul_right _ hx
      _ = 256 ^ (x :: xs).length := by rw [List.length_cons, Nat.pow_succ, Nat.mul_comm]

lemma beNat_injective {xs : List UInt8} (hlen : xs.length = ys.length) (h : beNat xs = beNat ys) :
    xs = ys := by
  induction xs generalizing ys with
  | nil => exact (List.length_eq_zero_iff.mp hlen.symm).symm
  | cons x xs ih =>
    cases ys with
    | nil => simp at hlen
    | cons y ys =>
      have hlen' : xs.length = ys.length := by simpa using hlen
      rw [beNat_cons, beNat_cons, hlen'] at h
      have hx := beNat_lt xs
      have hy := beNat_lt ys
      rw [hlen'] at hx
      have hpos : 0 < 256 ^ ys.length := Nat.pow_pos (by decide)
      -- the leading byte is the quotient by the weight of the rest
      have hhead : x.toNat = y.toNat := by
        have hdiv := congrArg (· / 256 ^ ys.length) h
        simpa [Nat.mul_comm, Nat.mul_add_div hpos, Nat.div_eq_of_lt hx,
          Nat.div_eq_of_lt hy] using hdiv
      have htail : beNat xs = beNat ys := by
        rw [hhead] at h
        omega
      rw [UInt8.toNat_inj.mp hhead, ih hlen' htail]

lemma beNat_eq_zero_iff : beNat xs = 0 ↔ ∀ x ∈ xs, x = 0 := by
  induction xs with
  | nil => simp
  | cons x xs ih =>
    rw [beNat_cons, Nat.add_eq_zero_iff, ih, List.forall_mem_cons, Nat.mul_eq_zero]
    have hpow : 256 ^ xs.length ≠ 0 := (Nat.pow_pos (by decide)).ne'
    constructor
    · rintro ⟨hx | hx, hxs⟩
      · exact ⟨UInt8.toNat_inj.mp hx, hxs⟩
      · exact absurd hx hpow
    · rintro ⟨rfl, hxs⟩
      exact ⟨Or.inl rfl, hxs⟩

lemma beNat_le_of_forall₂ {xs : List UInt8} (h : List.Forall₂ (· ≤ ·) xs ys) :
    beNat xs ≤ beNat ys := by
  induction h with
  | nil => exact Nat.le_refl _
  | cons hxy htail ih =>
    rw [beNat_cons, beNat_cons, htail.length_eq]
    exact Nat.add_le_add (Nat.mul_le_mul_right _ (UInt8.le_iff_toNat_le.mp hxy)) ih

lemma noByteAbove_iff {xs : List UInt8} (hlen : xs.length = ys.length) :
    noByteAbove xs ys = true ↔ List.Forall₂ (· ≤ ·) xs ys := by
  induction xs generalizing ys with
  | nil =>
    obtain rfl := List.length_eq_zero_iff.mp hlen.symm
    simp [noByteAbove]
  | cons x xs ih =>
    cases ys with
    | nil => simp at hlen
    | cons y ys =>
      have hlen' : xs.length = ys.length := by simpa using hlen
      rw [List.forall₂_cons, ← ih hlen']
      by_cases hxy : x > y
      · simp [noByteAbove, hxy]
      · simp [noByteAbove, hxy, UInt8.not_lt.mp hxy]

/-- The loop agrees with the numeric order exactly when the numeric order is the
byte-by-byte order on the two strings. -/
lemma noByteAbove_eq_beNat_le_iff {xs : List UInt8} (hlen : xs.length = ys.length) :
    (noByteAbove xs ys = true ↔ beNat xs ≤ beNat ys) ↔
      (beNat xs ≤ beNat ys → List.Forall₂ (· ≤ ·) xs ys) := by
  rw [noByteAbove_iff hlen]
  exact ⟨fun h => h.mpr, fun h => ⟨beNat_le_of_forall₂, h⟩⟩

/-! ## Fields of a byte string -/

/-- The `k` low bytes of a number, most significant first. -/
def beBytes : Nat → Nat → List UInt8
  | 0, _ => []
  | k + 1, v => UInt8.ofNat (v / 256 ^ k) :: beBytes k v

/-- A length as an `int`, with 0 for a negative one: what a loop that counts with one reaches. -/
def intBound (n : Nat) : Nat := if n % 2 ^ 32 < 2 ^ 31 then n % 2 ^ 32 else 0

/-- The number in the `k` bytes from position `i` on. -/
def beAt (xs : List UInt8) (i k : Nat) : Nat := beNat ((xs.drop i).take k)

lemma intBound_eq {n : Nat} (h : n < 2 ^ 31) : intBound n = n := by
  rw [intBound, Nat.mod_eq_of_lt (by omega), if_pos h]

@[simp] lemma length_beBytes (k v : Nat) : (beBytes k v).length = k := by
  induction k with
  | zero => rfl
  | succ k ih => simp [beBytes, ih]

lemma beNat_beBytes (k v : Nat) : beNat (beBytes k v) = v % 256 ^ k := by
  induction k with
  | zero => simp [beBytes, Nat.mod_one]
  | succ k ih =>
    have hsplit : v % 256 ^ (k + 1) = v % 256 ^ k + 256 ^ k * (v / 256 ^ k % 256) := by
      rw [Nat.pow_succ, Nat.mod_mul]
    rw [beBytes, beNat_cons, ih, length_beBytes, UInt8.toNat_ofNat', hsplit]
    ring

lemma beAt_lt (i k : Nat) : beAt xs i k < 256 ^ k :=
  (beNat_lt _).trans_le (Nat.pow_le_pow_right (by decide) (List.length_take_le _ _))

lemma beAt_append_left {xs : List UInt8} {i k : Nat} (h : i + k ≤ xs.length) (ys : List UInt8) :
    beAt (xs ++ ys) i k = beAt xs i k := by
  unfold beAt
  rw [List.drop_append_of_le_length (by omega), List.take_append_of_le_length]
  rw [List.length_drop]
  omega

lemma beAt_append_right (ys : List UInt8) (i k : Nat) :
    beAt (xs ++ ys) (xs.length + i) k = beAt ys i k := by
  rw [beAt, List.drop_append, List.drop_eq_nil_of_le (by omega), List.nil_append,
    Nat.add_sub_cancel_left, beAt]

lemma beAt_drop (n i k : Nat) : beAt (xs.drop n) i k = beAt xs (n + i) k := by
  rw [beAt, List.drop_drop, beAt]

lemma beAt_take {i k n : Nat} (h : i + k ≤ n) (xs : List UInt8) :
    beAt (xs.take n) i k = beAt xs i k := by
  rw [beAt, List.drop_take, List.take_take, min_eq_left (by omega), beAt]

lemma beAt_set {i j k : Nat} (h : i < j ∨ j + k ≤ i) (xs : List UInt8) (b : UInt8) :
    beAt (xs.set i b) j k = beAt xs j k := by
  unfold beAt
  rw [List.drop_set]
  split_ifs with hij
  · rfl
  · rw [List.take_set_of_le (by omega)]

lemma beAt_beBytes {k v : Nat} (hv : v < 256 ^ k) (ys : List UInt8) :
    beAt (beBytes k v ++ ys) 0 k = v := by
  rw [beAt, List.drop_zero, List.take_append_of_le_length (by simp), List.take_of_length_le (by simp),
    beNat_beBytes, Nat.mod_eq_of_lt hv]

lemma beAt_two_fields {k v w : Nat} (hv : v < 256 ^ k) (hw : w < 256 ^ k) (ys : List UInt8) :
    beAt (beBytes k v ++ (beBytes k w ++ ys)) 0 k = v ∧
      beAt (beBytes k v ++ (beBytes k w ++ ys)) k k = w := by
  refine ⟨beAt_beBytes hv _, ?_⟩
  have hright := beAt_append_right (beBytes k v) (beBytes k w ++ ys) 0 k
  rwa [length_beBytes, beAt_beBytes hw] at hright

lemma beBytes_beNat {xs : List UInt8} {k : Nat} (h : xs.length = k) : beBytes k (beNat xs) = xs := by
  refine beNat_injective (by rw [length_beBytes, h]) ?_
  rw [beNat_beBytes, Nat.mod_eq_of_lt (h ▸ beNat_lt xs)]

end ByteSeq
