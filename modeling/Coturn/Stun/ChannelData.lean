/-
# ChannelData

`stun_init_channel_message_str` and `stun_is_channel_message_str` of `client/ns_turn_msg.c`. The
parser accepts whatever the builder makes. It accepts more than that: it measures the padding only
where the length of the data is not a multiple of four, and it does not ask for padding where the data
ends the buffer.
-/
import Coturn.Stun.Codec

namespace Coturn

open ByteSeq List

variable (buf : List UInt8) {chnumber : UInt16} {payload : List UInt8}

/-! ## The parser and the form of ChannelData -/

/-- `stun_is_channel_message_str` with `*blen` and `*chnumber` as they are before and after the
call. -/
def stunIsChannelMessageStr (buf : List UInt8) (blen : ℕ) (chnumber : UInt16)
    (mandatoryPadding : Bool) : Bool × ℕ × UInt16 :=
  if blen < 4 then (false, blen, chnumber)
  else if !startsWithChannel buf then (false, blen, chnumber)
  else
    let blen16 := if 0xFFFF < blen then 0xFFFF else blen
    let datalenActual := blen16 - 4
    let datalenHeader := beAt buf 2 2
    if datalenActual < datalenHeader then (false, blen, chnumber)
    else if datalenHeader ≠ datalenActual ∧ datalenActual % 4 ≠ 0 ∧
        (mandatoryPadding = true ∨ datalenHeader = 0 ∨ 3 < datalenActual - datalenHeader) then
      (false, blen, chnumber)
    else (true, datalenHeader + 4, UInt16.ofNat (beAt buf 0 2))

lemma stunIsChannelMessageStr_eq (chnumber : UInt16) (mandatoryPadding : Bool) :
    stunIsChannelMessageStr buf buf.length chnumber mandatoryPadding =
      match stunIsChannelMessage buf mandatoryPadding with
      | none => (false, buf.length, chnumber)
      | some (chn, len) => (true, len, chn) := by
  have hclamp : (if 0xFFFF < buf.length then 0xFFFF else buf.length) = min buf.length 0xFFFF := by
    rw [min_def]
    split_ifs <;> omega
  rw [stunIsChannelMessageStr, stunIsChannelMessage]
  simp only [hclamp]
  split_ifs <;> rfl

lemma stunIsChannelMessageStr_refused {buf : List UInt8} {blen : ℕ} {mandatoryPadding : Bool}
    (h : (stunIsChannelMessageStr buf blen chnumber mandatoryPadding).1 = false) :
    stunIsChannelMessageStr buf blen chnumber mandatoryPadding = (false, blen, chnumber) := by
  rw [stunIsChannelMessageStr] at h ⊢
  simp only at h ⊢
  split_ifs at h ⊢
  all_goals rfl

/-- The header, the payload that it declares, and at most three bytes of padding, which make a
multiple of four bytes if padding is mandatory. -/
structure IsChannelData (buf : List UInt8) (mandatoryPadding : Bool) (chnumber : UInt16)
    (payload padding : List UInt8) : Prop where
  bytes : buf = beBytes 2 chnumber.toNat ++ (beBytes 2 payload.length ++ (payload ++ padding))
  channel : 0x4000 ≤ chnumber.toNat ∧ chnumber.toNat ≤ 0x7FFF
  payload : payload.length < 2 ^ 16
  padding : padding.length ≤ 3
  mandatory : mandatoryPadding = true → buf.length % 4 = 0

/-! ## What the builder makes -/

def channelPadding (doPadding : Bool) (len : ℕ) : ℕ :=
  if doPadding then paddedLength len - len else 0

lemma channelPadding_spec (doPadding : Bool) (len : ℕ) :
    channelPadding doPadding len ≤ 3 ∧
      (channelPadding doPadding len ≠ 0 → (len + channelPadding doPadding len) % 4 = 0) := by
  unfold channelPadding paddedLength
  split_ifs <;> omega

/-- The bytes that the builder makes: the padding is what the buffer holds after the payload. -/
lemma stunInitChannelMessage_eq (chnumber : UInt16) (hlen : payload.length ≤ 65503)
    (room : List UInt8) (doPadding : Bool) :
    stunInitChannelMessage chnumber payload room doPadding =
      some (beBytes 2 chnumber.toNat ++ (beBytes 2 payload.length ++
        (payload ++ room.take (channelPadding doPadding payload.length)))) := by
  have hrlen : (if doPadding = true then paddedLength payload.length else payload.length) =
      payload.length + channelPadding doPadding payload.length := by
    have hle := le_paddedLength payload.length
    unfold channelPadding
    split_ifs <;> omega
  rw [stunInitChannelMessage, if_neg (by unfold maxStunMessageSize; omega), hrlen]
  simp only [take_length_add_append, append_assoc]

/-- Data with the padding that it needs, or without any, is accepted in both modes. -/
lemma stunIsChannelMessage_bytes (hlow : 0x4000 ≤ chnumber.toNat) (hhigh : chnumber.toNat ≤ 0x7FFF)
    {padding : List UInt8} (hlen : payload.length + padding.length + 4 ≤ 0xFFFF)
    (hpadding : padding ≠ [] → (payload.length + padding.length) % 4 = 0) (mandatoryPadding : Bool) :
    stunIsChannelMessage
        (beBytes 2 chnumber.toNat ++ (beBytes 2 payload.length ++ (payload ++ padding)))
        mandatoryPadding =
      some (chnumber, payload.length + 4) := by
  have htotal : (beBytes 2 chnumber.toNat ++ (beBytes 2 payload.length ++
      (payload ++ padding))).length = payload.length + padding.length + 4 := by
    simp only [length_append, length_beBytes]
    omega
  obtain ⟨htype, hfield⟩ := beAt_two_fields (k := 2) (v := chnumber.toNat) (w := payload.length)
    (by omega) (by omega) (payload ++ padding)
  have hchannel : startsWithChannel (beBytes 2 chnumber.toNat ++ (beBytes 2 payload.length ++
      (payload ++ padding))) = true := by
    rw [startsWithChannel, htype]
    simp [hlow, hhigh]
  have hactual : min (payload.length + padding.length + 4) 0xFFFF - 4 =
      payload.length + padding.length := by omega
  rw [stunIsChannelMessage, if_neg (by omega), hchannel]
  simp only [htotal, hfield, htype, hactual, Bool.not_true, Bool.false_eq_true, if_false]
  rw [if_neg (by omega), if_neg]
  · rw [UInt16.ofNat_toNat]
  · rintro ⟨hne, hrem, -⟩
    refine hrem (hpadding fun hnil => hne ?_)
    rw [hnil]
    rfl

/-! ## What the parser accepts -/

/-- More than three bytes follow the data and the length is a multiple of four, or there is no
padding where it is mandatory and needed. The parser sees the first 65535 bytes only. -/
def AcceptedWrongly (buf : List UInt8) (mandatoryPadding : Bool) : Prop :=
  4 ≤ buf.length ∧ startsWithChannel buf = true ∧
    if buf.length ≤ 0xFFFF then
      (buf.length % 4 = 0 ∧ beAt buf 2 2 + 7 < buf.length) ∨
        (mandatoryPadding = true ∧ buf.length % 4 ≠ 0 ∧ beAt buf 2 2 + 4 = buf.length)
    else
      (beAt buf 2 2 = 65531 ∨ (mandatoryPadding = false ∧ 65528 ≤ beAt buf 2 2 ∧
          beAt buf 2 2 ≤ 65531)) ∧
        (beAt buf 2 2 + 7 < buf.length ∨ (mandatoryPadding = true ∧ buf.length % 4 ≠ 0))

lemma stunIsChannelMessage_some {buf : List UInt8} {mandatoryPadding : Bool} {r : UInt16 × ℕ} :
    stunIsChannelMessage buf mandatoryPadding = some r ↔
      4 ≤ buf.length ∧ startsWithChannel buf = true ∧
        beAt buf 2 2 + 4 ≤ min buf.length 0xFFFF ∧
        (beAt buf 2 2 + 4 = min buf.length 0xFFFF ∨ min buf.length 0xFFFF % 4 = 0 ∨
          (mandatoryPadding = false ∧ beAt buf 2 2 ≠ 0 ∧
            min buf.length 0xFFFF ≤ beAt buf 2 2 + 7)) ∧
        r = (UInt16.ofNat (beAt buf 0 2), beAt buf 2 2 + 4) := by
  rw [stunIsChannelMessage]
  by_cases hshort : buf.length < 4
  · rw [if_pos hshort]
    simp only [reduceCtorEq, false_iff]
    omega
  rw [if_neg hshort]
  cases hchannel : startsWithChannel buf with
  | false => simp
  | true =>
    simp only [Bool.not_true, Bool.false_eq_true, if_false, true_and]
    have hfour : 4 ≤ min buf.length 0xFFFF := by omega
    generalize min buf.length 0xFFFF = n at hfour ⊢
    generalize beAt buf 2 2 = d
    by_cases hlong : n - 4 < d
    · rw [if_pos hlong]
      simp only [reduceCtorEq, false_iff]
      omega
    rw [if_neg hlong]
    by_cases hbad : d ≠ n - 4 ∧ (n - 4) % 4 ≠ 0 ∧ (mandatoryPadding = true ∨ d = 0 ∨ 3 < n - 4 - d)
    · rw [if_pos hbad]
      obtain ⟨hne, hmod, hwhy⟩ := hbad
      simp only [reduceCtorEq, false_iff]
      rintro ⟨-, -, hcase, -⟩
      rcases hcase with heq | hzero | ⟨hfalse, hd, hle⟩
      · omega
      · omega
      · rcases hwhy with htrue | hwhy
        · rw [hfalse] at htrue
          exact absurd htrue (by decide)
        · omega
    · rw [if_neg hbad, Option.some_inj, eq_comm]
      refine ⟨fun hr => ⟨by omega, by omega, ?_, hr⟩, fun h => h.2.2.2⟩
      by_cases heq : d + 4 = n
      · exact Or.inl heq
      by_cases hzero : n % 4 = 0
      · exact Or.inr (Or.inl hzero)
      refine Or.inr (Or.inr ⟨?_, ?_, ?_⟩)
      · by_contra hmandatory
        exact hbad ⟨by omega, by omega, Or.inl (by simpa using hmandatory)⟩
      · intro hd
        exact hbad ⟨by omega, by omega, Or.inr (Or.inl hd)⟩
      · by_contra hmore
        exact hbad ⟨by omega, by omega, Or.inr (Or.inr (by omega))⟩

/-- An accepted buffer is ChannelData unless too much or too little follows the data. -/
lemma isChannelData_iff {buf : List UInt8} {mandatoryPadding : Bool} (hfour : 4 ≤ buf.length)
    (hchannel : startsWithChannel buf = true) (hdata : beAt buf 2 2 + 4 ≤ buf.length) :
    (∃ payload padding, IsChannelData buf mandatoryPadding (UInt16.ofNat (beAt buf 0 2)) payload
        padding ∧ payload.length = beAt buf 2 2) ↔
      buf.length ≤ beAt buf 2 2 + 7 ∧ (mandatoryPadding = true → buf.length % 4 = 0) := by
  have htype : beAt buf 0 2 < 2 ^ 16 := beAt_lt buf 0 2
  have hfield : beAt buf 2 2 < 2 ^ 16 := beAt_lt buf 2 2
  constructor
  · rintro ⟨payload, padding, h, hlen⟩
    refine ⟨?_, h.mandatory⟩
    have hlength := congrArg List.length h.bytes
    simp only [length_append, length_beBytes] at hlength
    have := h.padding
    omega
  · rintro ⟨hle, hmandatory⟩
    have hsplit : buf = beBytes 2 (beAt buf 0 2) ++ (beBytes 2 (beAt buf 2 2) ++
        ((buf.drop 4).take (beAt buf 2 2) ++ (buf.drop 4).drop (beAt buf 2 2))) := by
      rw [take_append_drop, beAt, beAt, beBytes_beNat (by simp; omega),
        beBytes_beNat (by simp; omega)]
      rw [← append_assoc, drop_zero, ← take_add, take_append_drop]
    have hpayload : ((buf.drop 4).take (beAt buf 2 2)).length = beAt buf 2 2 :=
      length_take_of_le (by rw [length_drop]; omega)
    have hnumber : (UInt16.ofNat (beAt buf 0 2)).toNat = beAt buf 0 2 :=
      Nat.mod_eq_of_lt htype
    refine ⟨(buf.drop 4).take (beAt buf 2 2), (buf.drop 4).drop (beAt buf 2 2), ⟨?_, ?_, ?_, ?_,
      hmandatory⟩, hpayload⟩
    · rw [hpayload, hnumber]
      exact hsplit
    · rw [hnumber]
      simpa [startsWithChannel] using hchannel
    · rw [hpayload]
      exact hfield
    · simp only [length_drop]
      omega

/-- These are the buffers that are accepted though too much follows the data, or too little. -/
lemma acceptedWrongly_iff (mandatoryPadding : Bool) :
    AcceptedWrongly buf mandatoryPadding ↔
      (∃ r, stunIsChannelMessage buf mandatoryPadding = some r) ∧
        ¬(buf.length ≤ beAt buf 2 2 + 7 ∧ (mandatoryPadding = true → buf.length % 4 = 0)) := by
  have haccepted : (∃ r, stunIsChannelMessage buf mandatoryPadding = some r) ↔
      4 ≤ buf.length ∧ startsWithChannel buf = true ∧
        beAt buf 2 2 + 4 ≤ min buf.length 0xFFFF ∧
        (beAt buf 2 2 + 4 = min buf.length 0xFFFF ∨ min buf.length 0xFFFF % 4 = 0 ∨
          (mandatoryPadding = false ∧ beAt buf 2 2 ≠ 0 ∧
            min buf.length 0xFFFF ≤ beAt buf 2 2 + 7)) := by
    constructor
    · rintro ⟨r, hr⟩
      obtain ⟨hfour, hchannel, hle, hcase, -⟩ := stunIsChannelMessage_some.mp hr
      exact ⟨hfour, hchannel, hle, hcase⟩
    · rintro ⟨hfour, hchannel, hle, hcase⟩
      exact ⟨_, stunIsChannelMessage_some.mpr ⟨hfour, hchannel, hle, hcase, rfl⟩⟩
  rw [haccepted, AcceptedWrongly, and_assoc, and_assoc]
  refine and_congr_right fun hfour => and_congr_right fun _ => ?_
  generalize beAt buf 2 2 = d
  generalize buf.length = n at hfour
  cases mandatoryPadding with
  | false =>
    simp only [Bool.false_eq_true, false_and, or_false, true_and, IsEmpty.forall_iff, and_true]
    split_ifs <;> omega
  | true =>
    simp only [true_and, Bool.true_eq_false, false_and, or_false, forall_const]
    split_ifs <;> omega

lemma stunIsChannelMessageStr_built (hlow : 0x4000 ≤ chnumber.toNat)
    (hhigh : chnumber.toNat ≤ 0x7FFF) {room : List UInt8} (hlen : payload.length ≤ 65503)
    (hroom : 3 ≤ room.length) (chn : UInt16) (doPadding mandatoryPadding : Bool) :
    ∃ buf, stunInitChannelMessage chnumber payload room doPadding = some buf ∧
      stunIsChannelMessageStr buf buf.length chn mandatoryPadding =
        (true, 4 + payload.length, chnumber) := by
  obtain ⟨hthree, hmod⟩ := channelPadding_spec doPadding payload.length
  have hpadding : (room.take (channelPadding doPadding payload.length)).length =
      channelPadding doPadding payload.length := length_take_of_le (by omega)
  refine ⟨_, stunInitChannelMessage_eq chnumber hlen room doPadding, ?_⟩
  rw [stunIsChannelMessageStr_eq, stunIsChannelMessage_bytes hlow hhigh, Nat.add_comm]
  · rw [hpadding]
    omega
  · intro hne
    rw [hpadding]
    exact hmod fun hzero => hne (by rw [hzero, take_zero])

lemma isChannelData_of_accepted_iff (chn : UInt16) (mandatoryPadding : Bool) :
    (∀ len chnumber, stunIsChannelMessageStr buf buf.length chn mandatoryPadding =
        (true, len, chnumber) →
      ∃ payload padding, IsChannelData buf mandatoryPadding chnumber payload padding ∧
        payload.length + 4 = len) ↔
    ¬ AcceptedWrongly buf mandatoryPadding := by
  rw [acceptedWrongly_iff, stunIsChannelMessageStr_eq]
  cases haccept : stunIsChannelMessage buf mandatoryPadding with
  | none => simp
  | some r =>
    obtain ⟨hfour, hchannel, hle, -, rfl⟩ := stunIsChannelMessage_some.mp haccept
    have hdata := @isChannelData_iff buf mandatoryPadding hfour hchannel (by omega)
    constructor
    · rintro h ⟨-, hwrong⟩
      obtain ⟨payload, padding, hform, hlen⟩ := h _ _ rfl
      exact hwrong (hdata.mp ⟨payload, padding, hform, by omega⟩)
    · intro hright len chnumber heq
      obtain ⟨rfl, rfl⟩ := Prod.mk.inj (Prod.mk.inj heq).2
      obtain ⟨payload, padding, hform, hlen⟩ :=
        hdata.mpr (by_contra fun hwrong => hright ⟨⟨_, rfl⟩, hwrong⟩)
      exact ⟨payload, padding, hform, by omega⟩

/-- The parser accepts what the builder makes, with the channel and the length without padding; what
it accepts is ChannelData; and a refusal leaves the caller's length as it is. -/
structure InvertsBuilder (buf : List UInt8) (chn : UInt16) (mandatoryPadding : Bool) : Prop where
  built : ∀ (chnumber : UInt16) (payload room : List UInt8) (doPadding : Bool),
    0x4000 ≤ chnumber.toNat → chnumber.toNat ≤ 0x7FFF → payload.length ≤ 65503 → 3 ≤ room.length →
    ∃ made, stunInitChannelMessage chnumber payload room doPadding = some made ∧
      stunIsChannelMessageStr made made.length chn mandatoryPadding =
        (true, 4 + payload.length, chnumber)
  accepted : ∀ len chnumber, stunIsChannelMessageStr buf buf.length chn mandatoryPadding =
      (true, len, chnumber) →
    ∃ payload padding, IsChannelData buf mandatoryPadding chnumber payload padding ∧
      payload.length + 4 = len
  refused : ∀ blen, (stunIsChannelMessageStr buf blen chn mandatoryPadding).1 = false →
    (stunIsChannelMessageStr buf blen chn mandatoryPadding).2.1 = blen

/-- The parser is the inverse of the builder except for the buffers of `AcceptedWrongly`. -/
theorem channelData_parser_iff (buf : List UInt8) (chn : UInt16) (mandatoryPadding : Bool) :
    InvertsBuilder buf chn mandatoryPadding ↔ ¬ AcceptedWrongly buf mandatoryPadding := by
  rw [← isChannelData_of_accepted_iff buf chn]
  constructor
  · intro h
    exact h.accepted
  · intro haccepted
    refine ⟨?_, haccepted, ?_⟩
    · intro chnumber payload room doPadding hlow hhigh hlen hroom
      exact stunIsChannelMessageStr_built hlow hhigh hlen hroom chn doPadding mandatoryPadding
    · intro blen hrefused
      rw [stunIsChannelMessageStr_refused hrefused]

/-- Eight bytes after a header that declares none are accepted, and five bytes without mandatory
padding. -/
theorem channelData_parser_lax :
    stunIsChannelMessageStr [0x40, 0, 0, 0, 1, 2, 3, 4, 5, 6, 7, 8] 12 0 true = (true, 4, 0x4000) ∧
      (∀ payload padding, ¬ IsChannelData [0x40, 0, 0, 0, 1, 2, 3, 4, 5, 6, 7, 8] true 0x4000 payload
        padding ∨ payload.length + 4 ≠ 4) ∧
      stunIsChannelMessageStr [0x40, 0, 0, 1, 9] 5 0 true = (true, 5, 0x4000) ∧
      ∀ payload padding, ¬ IsChannelData [0x40, 0, 0, 1, 9] true 0x4000 payload padding := by
  refine ⟨by decide, ?_, by decide, ?_⟩
  · intro payload padding
    by_contra hform
    rw [not_or, not_not, not_not] at hform
    obtain ⟨hform, hlen⟩ := hform
    have hlength := congrArg List.length hform.bytes
    simp only [length_append, length_beBytes, length_cons, length_nil] at hlength
    have := hform.padding
    omega
  · intro payload padding hform
    exact absurd (hform.mandatory rfl) (by decide)

end Coturn
