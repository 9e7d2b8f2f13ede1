/-
# Cyclic redundancy checks

One step of a reflected cyclic redundancy check divides the register by the polynomial. It is linear
over exclusive or, and can be undone when the polynomial has its leading coefficient. So a byte can
be taken in at once, with a table; and two messages that differ in one byte leave different
registers.
-/
import Mathlib.Logic.Function.Iterate
import Mathlib.Tactic.Common

namespace Crc

variable {w : ℕ} (poly : BitVec w)

/-! ## One bit -/

/-- One bit is shifted out. -/
def bitStep (c : BitVec w) : BitVec w :=
  if c.getLsbD 0 then (c >>> 1) ^^^ poly else c >>> 1

lemma bitStep_xor (c d : BitVec w) :
    bitStep poly (c ^^^ d) = bitStep poly c ^^^ bitStep poly d := by
  unfold bitStep
  rw [BitVec.getLsbD_xor, BitVec.ushiftRight_xor_distrib]
  cases c.getLsbD 0 <;> cases d.getLsbD 0
  · simp
  · simp [BitVec.xor_assoc]
  · simp only [Bool.xor_false, if_true, Bool.false_eq_true, if_false]
    ac_rfl
  · -- the polynomial is added twice on the right, and not at all on the left
    have hcancel : c >>> 1 ^^^ poly ^^^ (d >>> 1 ^^^ poly) =
        (c >>> 1 ^^^ d >>> 1) ^^^ (poly ^^^ poly) := by ac_rfl
    simp [hcancel]

/-- The leading coefficient of the polynomial shows whether it was added. -/
lemma bitStep_eq_zero (hpoly : poly.msb = true) {c : BitVec w} (h : bitStep poly c = 0#w) :
    c = 0#w := by
  unfold bitStep at h
  by_cases hbit : c.getLsbD 0 = true
  · rw [if_pos hbit] at h
    have hmsb := congrArg BitVec.msb h
    simp [BitVec.msb_xor, hpoly, BitVec.msb_ushiftRight] at hmsb
  · rw [if_neg hbit] at h
    refine BitVec.eq_of_getLsbD_eq fun i hi => ?_
    rw [BitVec.getLsbD_zero]
    cases i with
    | zero => exact Bool.eq_false_iff.mpr hbit
    | succ i =>
      have hshift := congrArg (·.getLsbD i) h
      simpa [BitVec.getLsbD_ushiftRight, Nat.add_comm] using hshift

lemma bitStep_injective (hpoly : poly.msb = true) : Function.Injective (bitStep poly) := by
  intro c d h
  have hzero : bitStep poly (c ^^^ d) = 0#w := by
    rw [bitStep_xor, h, BitVec.xor_self]
  exact BitVec.xor_eq_zero_iff.mp (bitStep_eq_zero poly hpoly hzero)

/-! ## One byte -/

/-- Eight bits are shifted out. -/
def byteStep (c : BitVec w) : BitVec w := (bitStep poly)^[8] c

lemma iterate_bitStep_xor (n : ℕ) (c d : BitVec w) :
    (bitStep poly)^[n] (c ^^^ d) = (bitStep poly)^[n] c ^^^ (bitStep poly)^[n] d := by
  induction n generalizing c d with
  | zero => rfl
  | succ n ih =>
    rw [Function.iterate_succ_apply, bitStep_xor, ih]
    rfl

lemma iterate_bitStep_of_low {n : ℕ} {c : BitVec w} (h : ∀ i < n, c.getLsbD i = false) :
    (bitStep poly)^[n] c = c >>> n := by
  induction n with
  | zero => simp
  | succ n ih =>
    have hlow : (c >>> n).getLsbD 0 = false := by
      simpa [BitVec.getLsbD_ushiftRight] using h n (by omega)
    rw [Function.iterate_succ_apply', ih fun i hi => h i (by omega), bitStep, hlow,
      if_neg Bool.false_ne_true, ← BitVec.shiftRight_add]

lemma byteStep_injective (hpoly : poly.msb = true) : Function.Injective (byteStep poly) :=
  (bitStep_injective poly hpoly).iterate 8

/-- The register after eight steps, from a table for its low byte: the rest only moves down. -/
lemma byteStep_eq_table (c : BitVec w) :
    byteStep poly c = byteStep poly ((c.setWidth 8).setWidth w) ^^^ (c >>> 8) := by
  -- the part of the register above its low byte
  have hhigh : (bitStep poly)^[8] (c ^^^ (c.setWidth 8).setWidth w) = c >>> 8 := by
    rw [iterate_bitStep_of_low]
    · refine BitVec.eq_of_getLsbD_eq fun i hi => ?_
      simp [BitVec.getLsbD_ushiftRight]
    · intro i hi
      simp only [BitVec.getLsbD_xor, BitVec.getLsbD_setWidth, hi, decide_true, Bool.true_and]
      by_cases hw : i < w
      · simp [hw]
      · simp [BitVec.getLsbD_of_ge c i (by omega)]
  have hsplit : c = (c.setWidth 8).setWidth w ^^^ (c ^^^ (c.setWidth 8).setWidth w) := by
    have hcancel : (c.setWidth 8).setWidth w ^^^ (c ^^^ (c.setWidth 8).setWidth w) =
        c ^^^ ((c.setWidth 8).setWidth w ^^^ (c.setWidth 8).setWidth w) := by ac_rfl
    rw [hcancel, BitVec.xor_self, BitVec.xor_zero]
  conv_lhs => rw [hsplit]
  rw [byteStep, iterate_bitStep_xor, hhigh]
  rfl

/-! ## Messages -/

/-- A byte is taken in. -/
def feed (c : BitVec w) (b : BitVec 8) : BitVec w := byteStep poly (c ^^^ b.setWidth w)

lemma feed_left_injective (hpoly : poly.msb = true) (b : BitVec 8) :
    Function.Injective fun c => feed poly c b := by
  intro c d h
  have hxor := byteStep_injective poly hpoly h
  exact (BitVec.xor_left_inj _).mp hxor

lemma feed_right_injective (hpoly : poly.msb = true) (hw : 8 ≤ w) (c : BitVec w) :
    Function.Injective (feed poly c) := by
  intro a b h
  have hxor := (BitVec.xor_right_inj _).mp (byteStep_injective poly hpoly h)
  have hwidth := congrArg (BitVec.setWidth 8) hxor
  simpa [BitVec.setWidth_setWidth_of_le, hw] using hwidth

/-- The register after a message depends on every byte of it, and on the register before. -/
lemma foldl_feed_injective (hpoly : poly.msb = true) (bs : List (BitVec 8)) :
    Function.Injective fun c => bs.foldl (feed poly) c := by
  induction bs with
  | nil => exact Function.injective_id
  | cons b bs ih => exact ih.comp (feed_left_injective poly hpoly b)

/-- Two messages that differ in one byte leave different registers. -/
lemma foldl_feed_ne (hpoly : poly.msb = true) (hw : 8 ≤ w) (c : BitVec w)
    (before after : List (BitVec 8)) {a b : BitVec 8} (hne : a ≠ b) :
    (before ++ a :: after).foldl (feed poly) c ≠ (before ++ b :: after).foldl (feed poly) c := by
  intro h
  rw [List.foldl_append, List.foldl_append, List.foldl_cons, List.foldl_cons] at h
  exact hne (feed_right_injective poly hpoly hw _ (foldl_feed_injective poly hpoly after h))

end Crc
