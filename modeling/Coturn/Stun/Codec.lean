/-
# The attributes of a message

The bytes after the header of a well-formed message are its attributes: `Encodes off bytes attrs`
says that `bytes` is exactly the list `attrs`, from the offset `off` on. Such parts can be put
together and taken apart, and the walk passes through them whatever follows.
-/
import Coturn.Stun.Build

namespace Coturn

open ByteSeq List

variable {buf : List UInt8}

lemma le_paddedLength (n : ℕ) : n ≤ paddedLength n := by
  unfold paddedLength
  omega

lemma paddedLength_mod (n : ℕ) : paddedLength n % 4 = 0 := by
  unfold paddedLength
  omega

lemma paddedLength_add {m : ℕ} (hm : m % 4 = 0) (n : ℕ) :
    paddedLength (m + n) = m + paddedLength n := by
  unfold paddedLength
  omega

/-! ## Parts of a message -/

/-- The bytes are exactly the attributes, the first one at the offset `off`. -/
inductive Encodes : ℕ → List UInt8 → List StunAttr → Prop
  | nil (off : ℕ) : Encodes off [] []
  | cons {off : ℕ} {chunk bytes : List UInt8} {attrs : List StunAttr}
    (hlen : chunk.length = 4 + paddedLength (beAt chunk 2 2))
    (h : Encodes (off + chunk.length) bytes attrs) :
    Encodes off (chunk ++ bytes)
      (⟨off, beAt chunk 0 2, (chunk.drop 4).take (beAt chunk 2 2)⟩ :: attrs)

namespace Encodes

variable {off : ℕ} {bytes bytes' : List UInt8} {attrs attrs' : List StunAttr}

lemma append (h : Encodes off bytes attrs) (h' : Encodes (off + bytes.length) bytes' attrs') :
    Encodes off (bytes ++ bytes') (attrs ++ attrs') := by
  induction h with
  | nil off => exact h'
  | cons hlen h ih =>
    rw [append_assoc]
    refine cons hlen (ih ?_)
    rwa [length_append, ← Nat.add_assoc] at h'

lemma split (h : Encodes off bytes (attrs ++ attrs')) :
    ∃ bytes₁ bytes₂, bytes = bytes₁ ++ bytes₂ ∧ Encodes off bytes₁ attrs ∧
      Encodes (off + bytes₁.length) bytes₂ attrs' := by
  induction attrs generalizing off bytes with
  | nil => exact ⟨[], bytes, rfl, nil off, h⟩
  | cons sar attrs ih =>
    cases h with
    | @cons _ chunk bytes _ hlen h =>
      obtain ⟨bytes₁, bytes₂, rfl, h₁, h₂⟩ := ih h
      refine ⟨chunk ++ bytes₁, bytes₂, (append_assoc ..).symm, cons hlen h₁, ?_⟩
      rwa [length_append, ← Nat.add_assoc]

lemma length_mod (h : Encodes off bytes attrs) : bytes.length % 4 = 0 := by
  induction h with
  | nil => rfl
  | @cons off chunk bytes attrs hlen _ ih =>
    have hpad := paddedLength_mod (beAt chunk 2 2)
    rw [length_append, hlen]
    omega

lemma length_le (h : Encodes off bytes attrs) : attrs.length ≤ bytes.length := by
  induction h with
  | nil => exact le_rfl
  | cons hlen _ ih =>
    rw [length_append, length_cons, hlen]
    omega

lemma value_length {chunk : List UInt8} (hlen : chunk.length = 4 + paddedLength (beAt chunk 2 2)) :
    ((chunk.drop 4).take (beAt chunk 2 2)).length = beAt chunk 2 2 := by
  rw [length_take, length_drop, hlen, Nat.add_sub_cancel_left]
  exact min_eq_left (le_paddedLength _)

lemma length_singleton {sar : StunAttr} (h : Encodes off bytes [sar]) :
    bytes.length = 4 + paddedLength sar.value.length ∧ sar.offset = off := by
  cases h with
  | cons hlen h =>
    cases h
    rw [append_nil, value_length hlen]
    exact ⟨hlen, rfl⟩

lemma walk (h : Encodes off bytes attrs) {fuel : ℕ} (hfuel : attrs.length ≤ fuel)
    (rest : List UInt8) :
    stunAttrWalk fuel off (bytes ++ rest) =
      attrs ++ stunAttrWalk (fuel - attrs.length) (off + bytes.length) rest := by
  induction h generalizing fuel with
  | nil => simp
  | @cons off chunk bytes attrs hlen h ih =>
    obtain ⟨fuel, rfl⟩ : ∃ n, fuel = n + 1 := Nat.exists_eq_add_of_le' (hfuel.trans' (by simp))
    have htype : beAt (chunk ++ bytes ++ rest) 0 2 = beAt chunk 0 2 := by
      rw [append_assoc, beAt_append_left (by omega)]
    have hvalue : beAt (chunk ++ bytes ++ rest) 2 2 = beAt chunk 2 2 := by
      rw [append_assoc, beAt_append_left (by omega)]
    have htake : ((chunk ++ bytes ++ rest).drop 4).take (beAt chunk 2 2) =
        (chunk.drop 4).take (beAt chunk 2 2) := by
      have hpad := le_paddedLength (beAt chunk 2 2)
      rw [append_assoc, drop_append_of_le_length (by omega),
        take_append_of_le_length]
      rw [length_drop]
      omega
    have hdrop : (chunk ++ bytes ++ rest).drop (4 + paddedLength (beAt chunk 2 2)) =
        bytes ++ rest := by
      rw [← hlen, append_assoc, drop_left]
    -- the header of the first attribute is in the buffer and its value fits
    have hfits : 4 ≤ (chunk ++ bytes ++ rest).length ∧
        paddedLength (beAt chunk 2 2) ≤ (chunk ++ bytes ++ rest).length - 4 := by
      simp only [length_append]
      omega
    rw [stunAttrWalk]
    simp only [htype, hvalue, htake, hdrop]
    rw [if_pos hfits, Nat.add_assoc off 4, ← hlen,
      ih (by simpa using hfuel), length_append, ← Nat.add_assoc, length_cons,
      Nat.add_sub_add_right, cons_append]

end Encodes

/-- What the walk visits is a first part of the bytes; it ends where no attribute fits. -/
lemma stunAttrWalk_encodes {fuel off : ℕ} {rest : List UInt8} (hfuel : rest.length ≤ fuel) :
    ∃ bytes tail, rest = bytes ++ tail ∧ Encodes off bytes (stunAttrWalk fuel off rest) ∧
      ¬ (4 ≤ tail.length ∧ paddedLength (beAt tail 2 2) ≤ tail.length - 4) := by
  induction fuel generalizing off rest with
  | zero =>
    obtain rfl : rest = [] := eq_nil_of_length_eq_zero (by omega)
    exact ⟨[], [], rfl, .nil off, by simp⟩
  | succ fuel ih =>
    by_cases hfits : 4 ≤ rest.length ∧ paddedLength (beAt rest 2 2) ≤ rest.length - 4
    · -- the first attribute is the first part, and the walk goes on after it
      generalize hn : 4 + paddedLength (beAt rest 2 2) = n
      have hpad := le_paddedLength (beAt rest 2 2)
      have hlength : (rest.take n).length = n := by
        rw [length_take]
        omega
      have hdrop : (rest.drop n).length ≤ fuel := by
        rw [length_drop]
        omega
      have hfield : beAt (rest.take n) 2 2 = beAt rest 2 2 := beAt_take (by omega) rest
      have htype : beAt (rest.take n) 0 2 = beAt rest 0 2 := beAt_take (by omega) rest
      have hvalue : ((rest.take n).drop 4).take (beAt rest 2 2) =
          (rest.drop 4).take (beAt rest 2 2) := by
        rw [drop_take, take_take, min_eq_left (by omega)]
      obtain ⟨bytes, tail, hrest, hencodes, hend⟩ :
        ∃ bytes tail, rest.drop n = bytes ++ tail ∧
          Encodes (off + n) bytes (stunAttrWalk fuel (off + n) (rest.drop n)) ∧ _ := ih hdrop
      refine ⟨rest.take n ++ bytes, tail, ?_, ?_, hend⟩
      · rw [append_assoc, ← hrest, take_append_drop]
      · have hcons : Encodes off (rest.take n ++ bytes)
            (⟨off, beAt (rest.take n) 0 2, ((rest.take n).drop 4).take (beAt (rest.take n) 2 2)⟩ ::
              stunAttrWalk fuel (off + n) (rest.drop n)) := by
          refine .cons ?_ ?_
          · rw [hfield, hlength, hn]
          · rw [hlength]
            exact hencodes
        rw [hfield, htype, hvalue] at hcons
        rw [stunAttrWalk, if_pos hfits, Nat.add_assoc, hn]
        exact hcons
    · refine ⟨[], rest, rfl, ?_, hfits⟩
      rw [stunAttrWalk, if_neg hfits]
      exact .nil off

/-! ## Messages -/

/-- A message that the recogniser accepts and whose attributes fill it. -/
structure WellFormedMessage (buf : List UInt8) (attrs : List StunAttr) : Prop where
  command : stunIsCommandMessage buf = true
  body : Encodes stunHeaderLength (buf.drop stunHeaderLength) attrs

lemma stunIsCommandMessage_iff :
    stunIsCommandMessage buf = true ↔
      stunHeaderLength ≤ buf.length ∧ startsWithChannel buf = false ∧ beAt buf 0 1 &&& 0xC0 = 0 ∧
        beAt buf 4 4 = stunMagicCookie ∧ beAt buf 2 2 &&& 0x0003 = 0 ∧
        beAt buf 2 2 + stunHeaderLength = buf.length := by
  simp [stunIsCommandMessage, isCommandMessageWith, and_assoc]

lemma WellFormedMessage.long {attrs : List StunAttr} (h : WellFormedMessage buf attrs) :
    20 ≤ buf.length :=
  (stunIsCommandMessage_iff.mp h.command).1

lemma stunGetCommandMessageLen_of_command (h : stunIsCommandMessage buf = true) :
    stunGetCommandMessageLen buf = some buf.length := by
  obtain ⟨hlong, -, -, -, -, hlen⟩ := stunIsCommandMessage_iff.mp h
  rw [stunGetCommandMessageLen, if_neg (by omega), hlen, if_neg (by omega)]

lemma stunAttrs_of_len (h : stunGetCommandMessageLen buf = some buf.length) :
    stunAttrs buf = stunAttrWalk buf.length stunHeaderLength (buf.drop stunHeaderLength) := by
  rw [stunAttrs, h]
  simp only
  rw [take_length]

lemma stunAttrs_of_encodes {attrs : List StunAttr}
    (hlen : stunGetCommandMessageLen buf = some buf.length)
    (h : Encodes stunHeaderLength (buf.drop stunHeaderLength) attrs) : stunAttrs buf = attrs := by
  have hfuel : attrs.length ≤ buf.length := by
    have hle := h.length_le
    rw [length_drop] at hle
    omega
  have hwalk := h.walk hfuel []
  rw [append_nil] at hwalk
  rw [stunAttrs_of_len hlen, hwalk]
  -- nothing is left for the walk
  cases buf.length - attrs.length with
  | zero => exact append_nil _
  | succ fuel => simp [stunAttrWalk]

lemma WellFormedMessage.attrs {attrs : List StunAttr} (h : WellFormedMessage buf attrs) :
    stunAttrs buf = attrs :=
  stunAttrs_of_encodes (stunGetCommandMessageLen_of_command h.command) h.body

/-! ## The length in the header -/

lemma and_three (n : ℕ) : n &&& 0x0003 = n % 4 := Nat.and_two_pow_sub_one_eq_mod n 2

lemma stunSetCommandMessageLen_eq {len : ℕ} (hlen : stunHeaderLength ≤ len) :
    stunSetCommandMessageLen buf len =
      buf.take 2 ++ beBytes 2 (len - stunHeaderLength) ++ buf.drop 4 := by
  rw [stunSetCommandMessageLen, if_neg (by omega)]

lemma stunSetCommandMessageLen_drop (len : ℕ) {n : ℕ} (hn : 4 ≤ n) (hbuf : 4 ≤ buf.length) :
    (stunSetCommandMessageLen buf len).drop n = buf.drop n := by
  unfold stunSetCommandMessageLen
  split_ifs
  · rfl
  · obtain ⟨k, rfl⟩ := Nat.exists_eq_add_of_le hn
    have hfour : (buf.take 2 ++ beBytes 2 (len - stunHeaderLength)).length = 4 := by
      rw [length_append, length_take, length_beBytes]
      omega
    rw [← drop_drop, drop_left' hfour, drop_drop]

lemma stunSetCommandMessageLen_take (len : ℕ) {n : ℕ} (hn : n ≤ 2) (hbuf : 4 ≤ buf.length) :
    (stunSetCommandMessageLen buf len).take n = buf.take n := by
  unfold stunSetCommandMessageLen
  split_ifs
  · rfl
  · rw [append_assoc, take_append_of_le_length (by rw [length_take]; omega),
      take_take, min_eq_left hn]

lemma stunSetCommandMessageLen_field {len : ℕ} (hlen : stunHeaderLength ≤ len)
    (hmax : len < stunHeaderLength + 2 ^ 16) (hbuf : 4 ≤ buf.length) :
    beAt (stunSetCommandMessageLen buf len) 2 2 = len - stunHeaderLength := by
  have htwo : (buf.take 2).length = 2 := by
    rw [length_take]
    omega
  have hright := beAt_append_right (buf.take 2)
    (beBytes 2 (len - stunHeaderLength) ++ buf.drop 4) 0 2
  rw [htwo, beAt_beBytes (by omega)] at hright
  rw [stunSetCommandMessageLen_eq hlen, append_assoc]
  exact hright

lemma stunIsCommandMessage_append {body : List UInt8} (h : stunIsCommandMessage buf = true)
    (hbody : body.length % 4 = 0) (hmax : buf.length + body.length < maxStunMessageSize) :
    stunIsCommandMessage (stunSetCommandMessageLen buf (buf.length + body.length) ++ body) =
      true := by
  obtain ⟨hlong, hchannel, hbits, hcookie, hmod, hlen⟩ := stunIsCommandMessage_iff.mp h
  rw [and_three] at hmod
  unfold stunHeaderLength at hlong hlen
  unfold maxStunMessageSize at hmax
  have hfield : beAt (stunSetCommandMessageLen buf (buf.length + body.length)) 2 2 =
      buf.length + body.length - stunHeaderLength :=
    stunSetCommandMessageLen_field (by unfold stunHeaderLength; omega)
      (by unfold stunHeaderLength; omega) (by omega)
  have hlength : (stunSetCommandMessageLen buf (buf.length + body.length)).length = buf.length :=
    stunSetCommandMessageLen_length _ (by omega)
  have hstart : ∀ k ≤ 2, beAt (stunSetCommandMessageLen buf (buf.length + body.length) ++ body) 0 k =
      beAt buf 0 k := by
    intro k hk
    rw [beAt_append_left (by omega), beAt, drop_zero, stunSetCommandMessageLen_take _ hk
      (by omega), beAt, drop_zero]
  refine stunIsCommandMessage_iff.mpr ⟨?_, ?_, ?_, ?_, ?_, ?_⟩
  · rw [length_append, hlength]
    unfold stunHeaderLength
    omega
  · rw [startsWithChannel, hstart 2 le_rfl]
    exact hchannel
  · rw [hstart 1 (by decide)]
    exact hbits
  · rw [beAt_append_left (by omega), beAt, stunSetCommandMessageLen_drop _ le_rfl (by omega)]
    exact hcookie
  · rw [beAt_append_left (by omega), hfield, and_three]
    unfold stunHeaderLength
    omega
  · rw [beAt_append_left (by omega), hfield, length_append, hlength]
    unfold stunHeaderLength
    omega

/-! ## Adding an attribute -/

def attrBytes (attr : ℕ) (avalue : List UInt8) : List UInt8 :=
  beBytes 2 attr ++ beBytes 2 avalue.length ++ avalue ++
    List.replicate (paddedLength avalue.length - avalue.length) 0

lemma attrBytes_length (attr : ℕ) (avalue : List UInt8) :
    (attrBytes attr avalue).length = 4 + paddedLength avalue.length := by
  have hpad := le_paddedLength avalue.length
  simp only [attrBytes, length_append, length_beBytes, length_replicate]
  omega

variable {avalue : List UInt8}

lemma attrBytes_encodes (off : ℕ) {attr : ℕ} (hattr : attr < 2 ^ 16)
    (hlen : avalue.length < 2 ^ 16) : Encodes off (attrBytes attr avalue) [⟨off, attr, avalue⟩] := by
  obtain ⟨htype, hfield⟩ : beAt (attrBytes attr avalue) 0 2 = attr ∧
      beAt (attrBytes attr avalue) 2 2 = avalue.length := by
    rw [attrBytes, append_assoc, append_assoc]
    exact beAt_two_fields hattr hlen _
  have hvalue : ((attrBytes attr avalue).drop 4).take avalue.length = avalue := by
    rw [attrBytes, append_assoc, drop_left' (by simp), take_left]
  have hcons : Encodes off (attrBytes attr avalue ++ [])
      [⟨off, beAt (attrBytes attr avalue) 0 2,
        ((attrBytes attr avalue).drop 4).take (beAt (attrBytes attr avalue) 2 2)⟩] :=
    .cons (by rw [attrBytes_length, hfield]) (.nil _)
  rwa [htype, hfield, hvalue, append_nil] at hcons

lemma stunAttrAdd_of_command (h : stunIsCommandMessage buf = true) (attr : ℕ) (avalue :
  List UInt8) :
    stunAttrAdd buf attr avalue =
      if maxStunMessageSize ≤ buf.length + (attrBytes attr avalue).length then none
      else
        some (stunSetCommandMessageLen buf (buf.length + (attrBytes attr avalue).length) ++
          attrBytes attr avalue) := by
  obtain ⟨-, -, -, -, hmod, hlen⟩ := stunIsCommandMessage_iff.mp h
  rw [and_three] at hmod
  unfold stunHeaderLength at hlen
  have hnew : paddedLength (buf.length + 4 + avalue.length) =
      buf.length + (attrBytes attr avalue).length := by
    rw [paddedLength_add (by omega), attrBytes_length, Nat.add_assoc]
  have hpadding : buf.length + (attrBytes attr avalue).length - (buf.length + 4 + avalue.length) =
      paddedLength avalue.length - avalue.length := by
    rw [attrBytes_length]
    omega
  rw [stunAttrAdd, stunGetCommandMessageLen_of_command h]
  simp only [hnew, hpadding, take_length]
  rw [attrBytes]
  simp only [append_assoc]

/-- What the caller of `stun_attr_add_str` gets: whether the attribute was added, and the buffer. -/
def stunAttrAddStr (buf : List UInt8) (attr : ℕ) (avalue : List UInt8) : Bool × List UInt8 :=
  match stunAttrAdd buf attr avalue with
  | none => (false, buf)
  | some buf => (true, buf)

lemma WellFormedMessage.add {buf' : List UInt8} {attrs : List StunAttr}
    (h : WellFormedMessage buf attrs) {attr : ℕ} (hattr : attr < 2 ^ 16)
    (hadd : stunAttrAdd buf attr avalue = some buf') :
    WellFormedMessage buf' (attrs ++ [⟨buf.length, attr, avalue⟩]) ∧
      buf' = stunSetCommandMessageLen buf (buf.length + (attrBytes attr avalue).length) ++
        attrBytes attr avalue := by
  rw [stunAttrAdd_of_command h.command] at hadd
  split_ifs at hadd with hmax
  obtain rfl := Option.some.inj hadd
  have hlong := h.long
  have hbytes := attrBytes_length attr avalue
  have hpad := le_paddedLength avalue.length
  unfold maxStunMessageSize at hmax
  have hlength : avalue.length < 2 ^ 16 := by omega
  refine ⟨⟨?_, ?_⟩, rfl⟩
  · refine stunIsCommandMessage_append h.command ?_ (by unfold maxStunMessageSize; omega)
    exact (attrBytes_encodes 0 hattr hlength).length_mod
  · have hdrop : (stunSetCommandMessageLen buf (buf.length + (attrBytes attr avalue).length) ++
        attrBytes attr avalue).drop stunHeaderLength =
          buf.drop stunHeaderLength ++ attrBytes attr avalue := by
      rw [drop_append_of_le_length, stunSetCommandMessageLen_drop _ (by decide) (by omega)]
      rw [stunSetCommandMessageLen_length _ (by omega)]
      exact hlong
    have hoff : stunHeaderLength + (buf.drop stunHeaderLength).length = buf.length := by
      rw [length_drop]
      unfold stunHeaderLength
      omega
    rw [hdrop]
    refine h.body.append ?_
    rw [hoff]
    exact attrBytes_encodes buf.length hattr hlength

end Coturn
