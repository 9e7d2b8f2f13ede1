/-
# Rates in messages

The bandwidth attribute carries a rate in units of 128 bytes. `stun_attr_add_bandwidth_str` shifts
the 64-bit rate before it is cut to 32 bits, but `stun_attr_get_bandwidth` shifts the 32-bit number
back before it is widened, and loses the seven high bits of it.
-/
import Coturn.Stun.Responses

namespace Coturn

open ByteSeq

lemma stunAttrGetBandwidth_encoded (len b : ℕ) :
    stunAttrGetBandwidth ⟨len, attrNewBandwidth, beBytes 4 (b / 128)⟩ = b / 128 * 128 % 2 ^ 32 := by
  have hread : beAt (beBytes 4 (b / 128)) 0 4 = b / 128 % 2 ^ 32 := by
    rw [beAt, List.drop_zero, List.take_of_length_le (length_beBytes 4 _).le, beNat_beBytes]
    norm_num
  rw [stunAttrGetBandwidth, if_pos (length_beBytes 4 _).ge, hread, Nat.mod_mul_mod]

/-- Rounding to a multiple of 128 loses nothing more exactly when the rate has 32 bits. -/
lemma rounded_mod_iff (b : ℕ) : b / 128 * 128 % 2 ^ 32 = b / 128 * 128 ↔ b < 2 ^ 32 := by
  omega

/-- A rate is read as it was written, rounded down to a multiple of 128, exactly when it has 32
bits. -/
theorem bandwidth_roundTrip_iff (buf : List UInt8) (attrs : List StunAttr) (b : ℕ)
    (h : WellFormedMessage buf attrs) (hroom : buf.length + 8 < maxStunMessageSize) :
    ∃ sar, stunAttrs (stunAttrAddBandwidth buf b) = attrs ++ [sar] ∧ sar.type = attrNewBandwidth ∧
      (stunAttrGetBandwidth sar = b / 128 * 128 ↔ b < 2 ^ 32) := by
  have hfits : buf.length + 4 + paddedLength (beBytes 4 (b / 128)).length < maxStunMessageSize := by
    rw [length_beBytes]
    exact hroom
  have hattr : attrNewBandwidth < 2 ^ 16 := by decide
  obtain ⟨buf', hadd, -, hmessage, -⟩ := h.add_fits hattr hfits
  refine ⟨⟨buf.length, attrNewBandwidth, beBytes 4 (b / 128)⟩, ?_, rfl, ?_⟩
  · rw [stunAttrAddBandwidth, stunAttrAddIgnore, hadd]
    exact hmessage.attrs
  · rw [stunAttrGetBandwidth_encoded]
    exact rounded_mod_iff b

/-- 300 bytes per second become 256. -/
theorem bandwidth_roundTrip_iff_small :
    ∃ sar, stunAttrs (stunAttrAddBandwidth (stunInitCommand 3 (List.replicate 12 0)) 300) = [sar] ∧
      stunAttrGetBandwidth sar = 256 := by
  have hempty := stunInitCommand_wellFormed 3 (List.length_replicate (n := 12) (a := (0 : UInt8)))
  obtain ⟨sar, hsar, -, hiff⟩ :=
    bandwidth_roundTrip_iff _ [] 300 hempty (by decide)
  exact ⟨sar, hsar, hiff.mpr (by decide)⟩

/-- 4 GiB per second, which is a multiple of 128, are written and read as 0. -/
theorem bandwidth_lost_above_32_bits :
    ∃ sar, stunAttrs (stunAttrAddBandwidth (stunInitCommand 3 (List.replicate 12 0)) (2 ^ 32)) =
        [sar] ∧ sar.type = attrNewBandwidth ∧ sar.value = [2, 0, 0, 0] ∧
      stunAttrGetBandwidth sar = 0 :=
  ⟨⟨20, attrNewBandwidth, [2, 0, 0, 0]⟩, by decide, rfl, rfl, by decide⟩

end Coturn
