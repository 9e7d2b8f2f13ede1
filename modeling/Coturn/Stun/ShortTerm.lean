/-
# Short-term credentials

`stun_attr_add_integrity_by_user_short_term_str` adds a USERNAME and then signs the message with the
password. It gives up when the USERNAME has been added, and goes on when it has not: so it signs
exactly the messages that have room for the signature and none for the user name.
-/
import Coturn.Stun.RoundTrip

namespace Coturn

open ByteSeq List

/-- The result and the buffer. The key array is not initialised. -/
def stunAttrAddIntegrityByUserShortTermStr (calculateHmac : CalculateHmac)
    (buf uname key pwd : List UInt8) (shatype : Shatype) : Bool × List UInt8 :=
  match stunAttrAddStr buf attrUsername (uname.takeWhile (· ≠ 0)) with
  | (true, buf) => (false, buf)
  | (false, buf) => stunAttrAddIntegrityStr calculateHmac true buf key pwd shatype

section

variable
  (hmac : (shatype : Shatype) → List UInt8 → List UInt8 → List.Vector UInt8 shatype.sizeBytes)
  {buf buf' : List UInt8} {attrs : List StunAttr} {shatype : Shatype}

/-- The user name has no place in the buffer. -/
lemma stunAttrAddStr_username (h : stunIsCommandMessage buf = true) (name : List UInt8) :
    (stunAttrAddStr buf attrUsername name).1 = false ↔
      maxStunMessageSize ≤ buf.length + 4 + paddedLength name.length := by
  rw [stunAttrAddStr, stunAttrAdd_of_command h, attrBytes_length, ← Nat.add_assoc]
  split_ifs with hroom
  · simp [hroom]
  · simp [hroom]

lemma stunAttrAddStr_unchanged {name : List UInt8}
    (hfails : (stunAttrAddStr buf attrUsername name).1 = false) :
    stunAttrAddStr buf attrUsername name = (false, buf) := by
  rw [stunAttrAddStr] at hfails ⊢
  cases hadd : stunAttrAdd buf attrUsername name with
  | none => rfl
  | some buf' =>
    rw [hadd] at hfails
    exact absurd hfails (by simp)

/-- When the message has a MESSAGE-INTEGRITY already, the check looks at that one only. -/
lemma stunCheckMessageIntegrityByKeyStr_add {sar : StunAttr} (key pwd : List UInt8)
    (h : WellFormedMessage buf attrs) {value : List UInt8}
    (hmessage : WellFormedMessage buf' (attrs ++ [⟨buf.length, attrMessageIntegrity, value⟩]))
    (hbytes : buf' = stunSetCommandMessageLen buf (buf.length +
      (attrBytes attrMessageIntegrity value).length) ++ attrBytes attrMessageIntegrity value)
    (hfirst : stunAttrGetFirstByType attrs attrMessageIntegrity = some sar) :
    (stunCheckMessageIntegrityByKeyStr (totalHmac hmac) true buf' key pwd shatype).1 =
      (stunCheckMessageIntegrityByKeyStr (totalHmac hmac) true buf key pwd shatype).1 := by
  have hlong := h.long
  have hfound : stunAttrGetFirstByType (stunAttrs buf) attrMessageIntegrity = some sar := by
    rw [h.attrs, hfirst]
  have hfound' : stunAttrGetFirstByType (stunAttrs buf') attrMessageIntegrity = some sar := by
    rw [hmessage.attrs, stunAttrGetFirstByType, find?_append]
    rw [stunAttrGetFirstByType] at hfirst
    rw [hfirst]
    rfl
  by_cases hsize : sar.value.length = shatype.sizeBytes
  · obtain ⟨-, -, -, horig, hheader, hinside⟩ := stunAttrGetFirstByType_some hfound
    have hend := (stunGetCommandMessageLen_some horig).2
    -- the header is rewritten, and the bytes before the attribute are those of the old message
    rw [stunCheckMessageIntegrityByKeyStr_of_first hmac true key pwd hfound hsize,
      stunCheckMessageIntegrityByKeyStr_of_first hmac true key pwd hfound' hsize, hbytes,
      stunSetCommandMessageLen_append _ (by omega) (by omega), take_append_of_le_length]
    rw [stunSetCommandMessageLen_length _ (by omega)]
    omega
  · rw [stunCheckMessageIntegrityByKeyStr_of_other true key pwd hfound hsize,
      stunCheckMessageIntegrityByKeyStr_of_other true key pwd hfound' hsize]

/-- A message signed with short-term credentials passes the check exactly when there is no room for
the user name, there is room for the signature, and no other MESSAGE-INTEGRITY that fails. -/
theorem short_term_works_iff (uname key key' pwd : List UInt8) (h : WellFormedMessage buf attrs) :
    ((stunAttrAddIntegrityByUserShortTermStr (totalHmac hmac) buf uname key pwd shatype).1 = true ∧
      (stunCheckMessageIntegrityByKeyStr (totalHmac hmac) true
        (stunAttrAddIntegrityByUserShortTermStr (totalHmac hmac) buf uname key pwd shatype).2
        key' pwd shatype).1 = 1) ↔
      maxStunMessageSize ≤ buf.length + 4 + paddedLength (uname.takeWhile (· ≠ 0)).length ∧
      buf.length + 4 + shatype.sizeBytes < maxStunMessageSize ∧
      ((∀ sar ∈ attrs, sar.type ≠ attrMessageIntegrity) ∨
        (stunCheckMessageIntegrityByKeyStr (totalHmac hmac) true buf key' pwd shatype).1 = 1) := by
  have hlong := h.long
  rw [← stunAttrAddStr_username h.command, stunAttrAddIntegrityByUserShortTermStr]
  cases hadded : (stunAttrAddStr buf attrUsername (uname.takeWhile (· ≠ 0))).1 with
  | true =>
    -- the user name has been added, and that is reported as a failure
    generalize stunAttrAddStr buf attrUsername (uname.takeWhile (· ≠ 0)) = r at hadded
    obtain ⟨added, buf'⟩ := r
    obtain rfl : added = true := hadded
    simp
  | false =>
    rw [stunAttrAddStr_unchanged hadded]
    simp only [true_and]
    by_cases hroom : buf.length + 4 + shatype.sizeBytes < maxStunMessageSize
    · obtain ⟨value, buf', hright, hadd, hmessage, hbytes⟩ :=
        stunAttrAddIntegrityStr_of_room hmac true key pwd h hroom
      rw [hadd]
      simp only [true_and, hroom]
      cases hfirst : stunAttrGetFirstByType attrs attrMessageIntegrity with
      | none =>
        have hnone : ∀ sar ∈ attrs, sar.type ≠ attrMessageIntegrity := by
          intro sar hsar
          simpa using find?_eq_none.mp hfirst sar hsar
        refine iff_of_true ?_ (Or.inl hnone)
        rw [hbytes] at hmessage ⊢
        exact stunCheckMessageIntegrityByKeyStr_signed hmac true key' pwd (by omega) hright hnone
          hmessage
      | some sar =>
        rw [stunCheckMessageIntegrityByKeyStr_add hmac key' pwd h hmessage hbytes hfirst,
          or_iff_right]
        intro hnone
        exact hnone sar (mem_of_find?_eq_some hfirst)
          (by simpa using find?_some hfirst)
    · rw [stunAttrAddIntegrityStr_of_no_room hmac true key pwd h.command (by omega)]
      simp [hroom]

end

/-- A binding request with a user name of 65507 bytes, which has no place in it. -/
theorem short_term_works_without_name :
    ∃ buf', buf' = stunAttrAddIntegrityByUserShortTermStr
        (totalHmac fun _ _ _ => List.Vector.replicate _ 7) (stunInitCommand 1 (List.replicate 12 0))
        (List.replicate 65507 1) [] [1] .sha1 ∧
      buf'.1 = true ∧
      (stunCheckMessageIntegrityByKeyStr (totalHmac fun _ _ _ => List.Vector.replicate _ 7) true
        buf'.2 [] [1] .sha1).1 = 1 := by
  have hempty := stunInitCommand_wellFormed 1 (length_replicate (n := 12) (a := (0 : UInt8)))
  have hlong : ((List.replicate 65507 (1 : UInt8)).takeWhile (· ≠ 0)).length = 65507 := by
    rw [takeWhile_replicate, if_pos (by decide), length_replicate]
  refine ⟨_, rfl, (short_term_works_iff (fun _ _ _ => List.Vector.replicate _ 7) _ [] [] [1]
    hempty).mpr ⟨?_, by decide, Or.inl (by simp)⟩⟩
  rw [hlong]
  decide

/-- A binding request has room for the name and for the signature, and is not signed. -/
theorem short_term_request_refused :
    WellFormedMessage (stunInitCommand 1 (List.replicate 12 0)) [] ∧
    (stunInitCommand 1 (List.replicate 12 0)).length + (4 + paddedLength 1) +
      (4 + Shatype.sha1.sizeBytes) < maxStunMessageSize ∧
    (stunAttrAddIntegrityByUserShortTermStr (totalHmac fun _ _ _ => List.Vector.replicate _ 7)
      (stunInitCommand 1 (List.replicate 12 0)) [117] [] [112] .sha1).1 = false :=
  ⟨stunInitCommand_wellFormed 1 (length_replicate ..), by decide, by decide⟩

end Coturn
