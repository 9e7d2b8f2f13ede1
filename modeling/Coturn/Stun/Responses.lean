/-
# Building a message

What the calls that build a message do to the attributes that are already in it: an attribute that
fits is added behind them, one that does not fit is dropped, and nothing else changes. Then the
lifetimes, the error codes and the relayed addresses of responses, as a client reads them.
-/
import Coturn.Stun.RoundTrip

namespace Coturn

open ByteSeq List

/-! ## Attributes that are added -/

variable {attrs : List StunAttr} {attr : ℕ} {l : List (ℕ × List UInt8)}

lemma WellFormedMessage.add_fits {buf : List UInt8}
    (h : WellFormedMessage buf attrs) (hattr : attr < 2 ^ 16) {avalue : List UInt8}
    (hfits : buf.length + 4 + paddedLength avalue.length < maxStunMessageSize) :
    ∃ buf', stunAttrAdd buf attr avalue = some buf' ∧
      buf'.length = buf.length + 4 + paddedLength avalue.length ∧
      WellFormedMessage buf' (attrs ++ [⟨buf.length, attr, avalue⟩]) ∧
      stunTidFromMessage buf' = stunTidFromMessage buf := by
  obtain ⟨buf', hadd⟩ : ∃ buf', stunAttrAdd buf attr avalue = some buf' := by
    rw [stunAttrAdd_of_command h.command, attrBytes_length, ← Nat.add_assoc, if_neg (by omega)]
    exact ⟨_, rfl⟩
  have hlong := h.long
  refine ⟨buf', hadd, ?_, (h.add hattr hadd).1, h.add_tid hattr hadd⟩
  rw [(h.add hattr hadd).2, length_append, stunSetCommandMessageLen_length _ (by omega),
    attrBytes_length, Nat.add_assoc]

lemma stunAddrEncode_length_le (addr : IoaAddr) (xored : Bool) (tid : List UInt8) :
    (stunAddrEncode addr xored tid).length ≤ 20 := by
  cases addr <;> simp [stunAddrEncode, IoaAddr.family, IoaAddr.bytes]

/-- What may be done to a message: attributes of the given types are added to it. -/
def Extends (types : Set ℕ) (buf buf' : List UInt8) : Prop :=
  ∀ attrs, WellFormedMessage buf attrs →
    (∃ added, WellFormedMessage buf' (attrs ++ added) ∧ ∀ sar ∈ added, sar.type ∈ types) ∧
      stunTidFromMessage buf' = stunTidFromMessage buf

variable {types : Set ℕ}

lemma Extends.refl (buf : List UInt8) : Extends types buf buf :=
  fun _ h => ⟨⟨[], by rwa [append_nil], by simp⟩, rfl⟩

lemma Extends.trans {buf₁ buf₂ buf₃ : List UInt8} (h₁ : Extends types buf₁ buf₂)
    (h₂ : Extends types buf₂ buf₃) : Extends types buf₁ buf₃ := by
  intro attrs h
  obtain ⟨⟨added, hmessage, hadded⟩, htid⟩ := h₁ attrs h
  obtain ⟨⟨added', hmessage', hadded'⟩, htid'⟩ := h₂ _ hmessage
  rw [append_assoc] at hmessage'
  refine ⟨⟨_, hmessage', ?_⟩, htid'.trans htid⟩
  intro sar hsar
  exact (mem_append.mp hsar).elim (hadded sar) (hadded' sar)

lemma extends_add (hattr : attr < 2 ^ 16) (htype : attr ∈ types) {buf buf' avalue : List UInt8}
    (hadd : stunAttrAdd buf attr avalue = some buf') : Extends types buf buf' := by
  intro attrs h
  refine ⟨⟨_, (h.add hattr hadd).1, ?_⟩, h.add_tid hattr hadd⟩
  intro sar hsar
  obtain rfl := mem_singleton.mp hsar
  exact htype

lemma extends_addIgnore (hattr : attr < 2 ^ 16) (htype : attr ∈ types)
    (buf avalue : List UInt8) : Extends types buf (stunAttrAddIgnore buf attr avalue) := by
  rw [stunAttrAddIgnore]
  cases hadd : stunAttrAdd buf attr avalue with
  | none => exact .refl buf
  | some buf' => exact extends_add hattr htype hadd

lemma extends_addFingerprint (htype : attrFingerprint ∈ types) (buf : List UInt8) :
    Extends types buf ((stunAttrAddFingerprint buf).getD buf) := by
  cases hadd : stunAttrAddFingerprint buf with
  | none => exact .refl buf
  | some buf' =>
    intro attrs h
    have hvalue := stunAttrAddFingerprint_some h.command hadd
    exact extends_add (by decide) htype hvalue attrs h

lemma extends_addIntegrity {hmac : List UInt8 → List UInt8 → List UInt8}
    (hhmac : ∀ key covered, (hmac key covered).length = sha1SizeBytes)
    (htype : attrMessageIntegrity ∈ types) (buf key : List UInt8) :
    Extends types buf (stunAttrAddIntegrity hmac buf key) := by
  rw [stunAttrAddIntegrity]
  cases hadd : stunAttrAdd buf attrMessageIntegrity (List.replicate sha1SizeBytes 0) with
  | none => exact .refl buf
  | some buf' =>
    intro attrs h
    generalize hvalue : hmac (key.take getHmackeySize) (buf'.take (buf'.length - 4 - sha1SizeBytes))
      = value
    have hlen : value.length = sha1SizeBytes := by rw [← hvalue, hhmac]
    have hover := (stunAttrAdd_overwrite value h.command (by simp [hlen]) (by rw [hlen]; rfl)
      hadd).1
    rw [hlen, ← hvalue] at hover
    exact extends_add (by decide) htype hover attrs h

lemma extends_attrsAdd (hl : ∀ attr ∈ l, attr.1 < 2 ^ 16 ∧ attr.1 ∈ types) (buf : List UInt8) :
    Extends types buf (stunAttrsAdd buf l) := by
  induction l generalizing buf with
  | nil => exact .refl buf
  | cons attr l ih =>
    obtain ⟨⟨hattr, htype⟩, hl⟩ := forall_mem_cons.mp hl
    rw [stunAttrsAdd]
    cases hadd : stunAttrAdd buf attr.1 attr.2 with
    | none => exact .refl buf
    | some buf' => exact (extends_add hattr htype hadd).trans (ih hl buf')

lemma WellFormedMessage.attrsAdd_fits {buf : List UInt8} (h : WellFormedMessage buf attrs)
    (l' : List (ℕ × List UInt8)) (hl : ∀ attr ∈ l, attr.1 < 2 ^ 16)
    (hfits : buf.length + (l.map fun attr => 4 + paddedLength attr.2.length).sum <
      maxStunMessageSize) :
    ∃ buf' added, stunAttrsAdd buf (l ++ l') = stunAttrsAdd buf' l' ∧
      WellFormedMessage buf' (attrs ++ added) ∧
      added.map (fun sar => (sar.type, sar.value)) = l ∧
      stunTidFromMessage buf' = stunTidFromMessage buf := by
  induction l generalizing buf attrs with
  | nil => exact ⟨buf, [], rfl, by rwa [append_nil], rfl, rfl⟩
  | cons attr l ih =>
    obtain ⟨hattr, hl⟩ := forall_mem_cons.mp hl
    rw [map_cons, sum_cons] at hfits
    obtain ⟨buf₁, hadd, hlen, hmessage, htid⟩ :=
      h.add_fits hattr (show buf.length + 4 + paddedLength attr.2.length < _ by omega)
    obtain ⟨buf', added, hbuild, hmessage', hadded, htid'⟩ := ih hmessage hl (by omega)
    rw [append_assoc] at hmessage'
    refine ⟨buf', _, ?_, hmessage', ?_, htid'.trans htid⟩
    · rw [cons_append, stunAttrsAdd, hadd]
      exact hbuild
    · rw [singleton_append, map_cons, hadded]

/-! ## The values of a type -/

def attrValues (type : ℕ) (buf : List UInt8) : List (List UInt8) :=
  ((stunAttrs buf).filter fun sar => sar.type = type).map StunAttr.value

lemma WellFormedMessage.attrValues {buf : List UInt8} (h : WellFormedMessage buf attrs)
    (hattrs : attrs.map (fun sar => (sar.type, sar.value)) = l) (type : ℕ) :
    attrValues type buf = (l.filter fun attr => attr.1 = type).map Prod.snd := by
  rw [Coturn.attrValues, h.attrs, ← hattrs, filter_map, map_map]
  rfl

lemma attrValues_extends {buf buf' : List UInt8} {type : ℕ} (h : WellFormedMessage buf attrs)
    (hbuf : Extends {type}ᶜ buf buf') : attrValues type buf' = attrValues type buf := by
  obtain ⟨⟨added, hmessage, hadded⟩, -⟩ := hbuf attrs h
  have hnone : added.filter (fun sar => sar.type = type) = [] := by
    rw [filter_eq_nil_iff]
    intro sar hsar
    simpa using hadded sar hsar
  rw [attrValues, attrValues, hmessage.attrs, h.attrs, filter_append, hnone, append_nil]

/-! ## Lifetimes -/

def lifetimeOf (buf : List UInt8) : Option UInt32 :=
  (stunAttrGetFirstByType (stunAttrs buf) attrLifetime).map fun sar =>
    UInt32.ofNat (beAt sar.value 0 4)

lemma beAt_lifetime (lifetime : UInt32) :
    UInt32.ofNat (beAt (beBytes 4 lifetime.toNat) 0 4) = lifetime := by
  have hread := beAt_beBytes (show lifetime.toNat < 256 ^ 4 from lifetime.toNat_lt) []
  rw [append_nil] at hread
  rw [hread, UInt32.ofNat_toNat]

lemma lifetimeOf_of_values {buf : List UInt8} {lifetime : UInt32}
    (h : attrValues attrLifetime buf = [beBytes 4 lifetime.toNat]) :
    lifetimeOf buf = some lifetime := by
  have hfirst : (stunAttrGetFirstByType (stunAttrs buf) attrLifetime).map StunAttr.value =
      (attrValues attrLifetime buf).head? := by
    rw [attrValues, head?_map, head?_filter]
    rfl
  rw [h, head?_cons] at hfirst
  obtain ⟨sar, hsar, hvalue⟩ := Option.map_eq_some_iff.mp hfirst
  rw [lifetimeOf, hsar, Option.map_some, hvalue, beAt_lifetime]

lemma lifetimeOf_add {buf buf' : List UInt8} {lifetime : UInt32} (h : WellFormedMessage buf attrs)
    (hnone : ∀ sar ∈ attrs, sar.type ≠ attrLifetime)
    (hbuf : Extends {attrLifetime}ᶜ (stunAttrAddIgnore buf attrLifetime
      (beBytes 4 lifetime.toNat)) buf') : ∀ L ∈ lifetimeOf buf', L = lifetime := by
  intro L hL
  have hfirst : ∀ added : List StunAttr, stunAttrGetFirstByType (attrs ++ added) attrLifetime =
      stunAttrGetFirstByType added attrLifetime := by
    intro added
    rw [stunAttrGetFirstByType, find?_append, find?_eq_none.mpr, Option.none_or]
    · rfl
    · simpa using hnone
  rw [stunAttrAddIgnore] at hbuf
  cases hadd : stunAttrAdd buf attrLifetime (beBytes 4 lifetime.toNat) with
  | none =>
    -- it did not fit, and none was added later
    rw [hadd] at hbuf
    obtain ⟨⟨added, hmessage, hadded⟩, -⟩ := hbuf attrs h
    rw [lifetimeOf, hmessage.attrs, hfirst, stunAttrGetFirstByType, find?_eq_none.mpr] at hL
    · cases hL
    · simpa using hadded
  | some buf₁ =>
    rw [hadd] at hbuf
    obtain ⟨⟨added, hmessage, hadded⟩, -⟩ := hbuf _ (h.add (by decide) hadd).1
    rw [append_assoc] at hmessage
    rw [lifetimeOf, hmessage.attrs, hfirst] at hL
    have hthis : stunAttrGetFirstByType ([⟨buf.length, attrLifetime, beBytes 4 lifetime.toNat⟩] ++
        added) attrLifetime = some ⟨buf.length, attrLifetime, beBytes 4 lifetime.toNat⟩ := by
      simp [stunAttrGetFirstByType]
    rw [hthis, Option.map_some, beAt_lifetime] at hL
    exact (Option.some.inj hL).symm

/-! ## Error codes -/

def errorCodeOf (buf : List UInt8) : Option ℕ :=
  (stunAttrGetFirstByType (stunAttrs buf) attrErrorCode).map fun sar =>
    beAt sar.value 2 1 * 100 + beAt sar.value 3 1

lemma errorCodeValue_length_le (family errorCode : ℕ) (text : List UInt8) :
    (errorCodeValue family errorCode text).length ≤ 512 := by
  have htext : (text.take 508).length ≤ 508 := length_take_le 508 text
  rw [errorCodeValue]
  generalize text.take 508 = t at htext
  simp only [length_append, length_replicate, length_cons, length_nil,
    paddedLength]
  omega

lemma beAt_errorCodeValue {errorCode : ℕ} (hcode : errorCode < 25600) (family : ℕ)
    (text : List UInt8) :
    beAt (errorCodeValue family errorCode text) 2 1 * 100 +
      beAt (errorCodeValue family errorCode text) 3 1 = errorCode := by
  have hclass : errorCode / 100 % 256 = errorCode / 100 := Nat.mod_eq_of_lt (by omega)
  have hnumber : errorCode % 100 % 256 = errorCode % 100 := Nat.mod_eq_of_lt (by omega)
  simp only [errorCodeValue, beAt, cons_append, drop_succ_cons, drop_zero,
    take_succ_cons, take_zero, beNat, length_nil, pow_zero, mul_one, add_zero]
  simp only [UInt8.toNat_ofNat', Nat.reducePow, hclass, hnumber]
  omega

lemma errorCodeOf_errorResponse {tid buf : List UInt8} {method errorCode : ℕ}
    {reason : Option String} {includeReasonString : Bool} (htid : tid.length = 12)
    (hcode : errorCode < 25600)
    (hbuf : Extends {attrErrorCode}ᶜ
      (stunInitErrorResponse method errorCode reason tid includeReasonString) buf) :
    errorCodeOf buf = some errorCode := by
  have hinit := stunInitCommand_wellFormed (stunMakeErrorResponse method) htid
  have hlen : (stunInitCommand (stunMakeErrorResponse method) tid).length = 20 := by
    simp [stunInitCommand, oldStunInitCommand, htid]
  rw [stunInitErrorResponse, oldStunInitErrorResponse, ← stunInitCommand] at hbuf
  unfold addErrorCode at hbuf
  dsimp only at hbuf
  generalize (if includeReasonString = true then asciiBytes _ else []) = text at hbuf
  have hvalue := errorCodeValue_length_le 0 errorCode text
  have hread := beAt_errorCodeValue hcode 0 text
  generalize errorCodeValue 0 errorCode text = value at hbuf hvalue hread
  have hfits : (stunInitCommand (stunMakeErrorResponse method) tid).length + 4 +
      paddedLength value.length < maxStunMessageSize := by
    rw [hlen, paddedLength, maxStunMessageSize]
    omega
  obtain ⟨buf₁, hadd, -, hmessage, -⟩ :=
    hinit.add_fits (show attrErrorCode < 2 ^ 16 by decide) hfits
  rw [stunAttrAddIgnore, hadd] at hbuf
  obtain ⟨⟨added, hattrs, -⟩, -⟩ := hbuf _ hmessage
  rw [errorCodeOf, hattrs.attrs]
  simp [stunAttrGetFirstByType, hread]

/-! ## Relayed addresses -/

/-- The addresses in the XOR-RELAYED-ADDRESS attributes of a message; one that cannot be read
counts as cleared. -/
def relayedAddrs (buf : List UInt8) : List IoaAddr :=
  ((stunAttrs buf).filter fun sar => sar.type = attrXorRelayedAddress).map fun sar =>
    (stunAddrDecode sar.value true (stunTidFromMessage buf)).getD .unset

/-- What is read where an address was written: a cleared one is written as 0.0.0.0. -/
def readBack (addr : IoaAddr) : IoaAddr :=
  if addr.family = 0 then .s4 (List.Vector.replicate 4 0) 0 else addr

lemma stunAddrDecode_readBack (addr : IoaAddr) (xored : Bool) (tid : List UInt8) :
    stunAddrDecode (stunAddrEncode addr xored tid) xored tid = some (readBack addr) := by
  cases addr with
  | unset =>
    have hzero : stunAddrEncode .unset xored tid =
        stunAddrEncode (.s4 (List.Vector.replicate 4 0) 0) xored tid := rfl
    rw [hzero, stunAddrDecode_encode (Or.inl rfl)]
    rfl
  | s4 ip port => exact stunAddrDecode_encode (Or.inl rfl) xored tid
  | s6 ip port => exact stunAddrDecode_encode (Or.inr rfl) xored tid

lemma decode_addrAttrs (m : AddrMapping) (tid : List UInt8) (l : List IoaAddr) :
    ((l.map (addrAttr m tid attrXorRelayedAddress)).map Prod.snd).map
        (fun value => (stunAddrDecode value true tid).getD .unset) =
      l.map fun addr => readBack (mapAddrFromPrivateToPublic m addr) := by
  induction l with
  | nil => rfl
  | cons addr l ih =>
    have hxor : xorEd attrXorRelayedAddress = true := rfl
    rw [map_cons, map_cons, map_cons, ih, map_cons, addrAttr, hxor,
      stunAddrDecode_readBack, Option.getD_some]

lemma addrAttr_sum_le (m : AddrMapping) (tid : List UInt8) (attrType : ℕ) (l : List IoaAddr) :
    ((l.map (addrAttr m tid attrType)).map fun attr => 4 + paddedLength attr.2.length).sum ≤
      24 * l.length := by
  induction l with
  | nil => exact le_rfl
  | cons addr l ih =>
    have hle : (addrAttr m tid attrType addr).2.length ≤ 20 := stunAddrEncode_length_le _ _ _
    rw [map_cons, map_cons, sum_cons, length_cons]
    unfold paddedLength at ih ⊢
    omega

variable {m : AddrMapping} {tid buf : List UInt8} {relayedAddr1 relayedAddr2 : Option IoaAddr}
  {reflexiveAddr : IoaAddr} {lifetime maxLifetime : UInt32} {reservationToken : ℕ}
  {mobileId : List UInt8} (htid : tid.length = 12)

include htid

/-- The attributes of an Allocate response: all but the ticket fit. -/
lemma stunSetAllocateResponse_message
    (hbuf : stunSetAllocateResponse m tid relayedAddr1 relayedAddr2 reflexiveAddr lifetime
      maxLifetime reservationToken mobileId = buf) :
    ∃ attrs ticket, WellFormedMessage buf attrs ∧ stunTidFromMessage buf = tid ∧
      attrs.map (fun sar => (sar.type, sar.value)) =
        (relayedAddr1.toList ++ relayedAddr2.toList).map (addrAttr m tid attrXorRelayedAddress) ++
        ([addrAttr m tid attrXorMappedAddress reflexiveAddr] ++ (tokenAttr reservationToken ++
        ([(attrLifetime, beBytes 4 (if lifetime < 1 then 600 else if maxLifetime < lifetime then
          maxLifetime else lifetime).toNat)] ++ ticket))) ∧
      ∀ attr ∈ ticket, attr.1 = attrMobilityTicket := by
  subst hbuf
  have hinit := stunInitCommand_wellFormed (stunMakeSuccessResponse stunMethodAllocate) htid
  have hlen : (stunInitCommand (stunMakeSuccessResponse stunMethodAllocate) tid).length = 20 := by
    simp [stunInitCommand, oldStunInitCommand, htid]
  have htid₀ := stunInitCommand_tid (stunMakeSuccessResponse stunMethodAllocate) htid
  rw [stunSetAllocateResponse, stunInitSuccessResponse]
  generalize stunInitCommand (stunMakeSuccessResponse stunMethodAllocate) tid = buf₀
    at hinit hlen htid₀ ⊢
  generalize hl : relayedAddr1.toList ++ relayedAddr2.toList = l
  have hcount : l.length ≤ 2 := by
    rw [← hl]
    cases relayedAddr1 <;> cases relayedAddr2 <;> simp
  generalize (if lifetime < 1 then 600 else if maxLifetime < lifetime then maxLifetime else
    lifetime) = granted
  generalize hfixed : l.map (addrAttr m tid attrXorRelayedAddress) ++
    [addrAttr m tid attrXorMappedAddress reflexiveAddr] ++ tokenAttr reservationToken ++
    [(attrLifetime, beBytes 4 granted.toNat)] = fixed
  have htypes : ∀ attr ∈ fixed, attr.1 < 2 ^ 16 := by
    rw [← hfixed]
    intro attr hattr
    simp only [mem_append, mem_map, mem_singleton, tokenAttr, mem_ite_nil_right] at hattr
    rcases hattr with ((⟨addr, -, rfl⟩ | rfl) | ⟨-, rfl⟩) | rfl
    all_goals
      simp [addrAttr, attrXorRelayedAddress, attrXorMappedAddress, attrReservationToken,
        attrLifetime]
  -- three addresses, a token and a lifetime fit into the empty message
  have hfits : buf₀.length + (fixed.map fun attr => 4 + paddedLength attr.2.length).sum <
      maxStunMessageSize := by
    have hsum := addrAttr_sum_le m tid attrXorRelayedAddress l
    have hmapped := addrAttr_sum_le m tid attrXorMappedAddress [reflexiveAddr]
    have htoken : ((tokenAttr reservationToken).map fun attr =>
        4 + paddedLength attr.2.length).sum ≤ 12 := by
      unfold tokenAttr
      split_ifs <;> simp [paddedLength]
    rw [← hfixed, map_append, map_append, map_append, sum_append,
      sum_append, sum_append]
    simp only [map_cons, map_nil, sum_cons, sum_nil, length_beBytes,
      paddedLength, length_singleton] at hsum hmapped htoken ⊢
    unfold maxStunMessageSize
    omega
  obtain ⟨buf₁, added, hbuild, hmessage, hadded, htid₁⟩ := hinit.attrsAdd_fits
    (if mobileId = [] then [] else [(attrMobilityTicket, mobileId)]) htypes hfits
  have hticket : ∀ attr ∈ (if mobileId = [] then [] else [(attrMobilityTicket, mobileId)]),
      attr.1 < 2 ^ 16 ∧ attr.1 ∈ ({attrMobilityTicket} : Set ℕ) := by
    intro attr hattr
    obtain ⟨-, hattr⟩ := mem_ite_nil_left.mp hattr
    obtain rfl := mem_singleton.mp hattr
    exact ⟨(by decide : attrMobilityTicket < 2 ^ 16), rfl⟩
  obtain ⟨⟨ticket, hmessage', hticket'⟩, htid'⟩ := extends_attrsAdd hticket buf₁ _ hmessage
  rw [hbuild]
  refine ⟨_, ticket.map fun sar => (sar.type, sar.value), hmessage', ?_, ?_, ?_⟩
  · rw [htid', htid₁, htid₀]
  · rw [nil_append, map_append, hadded, ← hfixed]
    simp only [append_assoc]
  · intro attr hattr
    obtain ⟨sar, hsar, rfl⟩ := mem_map.mp hattr
    exact hticket' sar hsar

lemma stunSetAllocateResponse_values
    (hbuf : stunSetAllocateResponse m tid relayedAddr1 relayedAddr2 reflexiveAddr lifetime
      maxLifetime reservationToken mobileId = buf) :
    attrValues attrXorRelayedAddress buf = ((relayedAddr1.toList ++ relayedAddr2.toList).map
        (addrAttr m tid attrXorRelayedAddress)).map Prod.snd ∧
      attrValues attrReservationToken buf =
        (if reservationToken ≠ 0 then [beBytes 8 reservationToken] else []) ∧
      attrValues attrLifetime buf = [beBytes 4 (if lifetime < 1 then 600 else
        if maxLifetime < lifetime then maxLifetime else lifetime).toNat] ∧
      attrValues attrAddressErrorCode buf = [] := by
  obtain ⟨attrs, ticket, hmessage, -, hattrs, hticket⟩ := stunSetAllocateResponse_message htid hbuf
  have haddrs : ∀ (l : List IoaAddr) (type : ℕ),
      (l.map (addrAttr m tid attrXorRelayedAddress)).filter (fun attr => attr.1 = type) =
        if type = attrXorRelayedAddress then l.map (addrAttr m tid attrXorRelayedAddress)
        else [] := by
    intro l type
    induction l with
    | nil => simp
    | cons addr l ih =>
      rw [map_cons, filter_cons, ih]
      by_cases htype : type = attrXorRelayedAddress <;> simp [addrAttr, htype, eq_comm]
  have hlast : ∀ type, type ≠ attrMobilityTicket →
      ticket.filter (fun attr => attr.1 = type) = [] := by
    intro type htype
    rw [filter_eq_nil_iff]
    intro attr hattr
    simpa [hticket attr hattr] using htype.symm
  have htoken : ∀ type : ℕ, (tokenAttr reservationToken).filter (fun attr => attr.1 = type) =
      if type = attrReservationToken then tokenAttr reservationToken else [] := by
    intro type
    unfold tokenAttr
    by_cases htype : type = attrReservationToken <;> split_ifs <;> simp [htype, eq_comm]
  refine ⟨?_, ?_, ?_, ?_⟩ <;>
    rw [hmessage.attrValues hattrs, filter_append, haddrs, filter_append,
      filter_append, htoken, filter_append, hlast _ (by decide)]
  · show (((relayedAddr1.toList ++ relayedAddr2.toList).map
      (addrAttr m tid attrXorRelayedAddress)) ++ []).map Prod.snd = _
    rw [append_nil]
  · show (tokenAttr reservationToken ++ []).map Prod.snd = _
    unfold tokenAttr
    by_cases hzero : reservationToken ≠ 0
    · rw [if_pos hzero, if_pos hzero]
      rfl
    · rw [if_neg hzero, if_neg hzero]
      rfl
  · rfl
  · rfl

lemma relayedAddrs_allocateResponse
    (hbuf : Extends {attrXorRelayedAddress}ᶜ
      (stunSetAllocateResponse m tid relayedAddr1 relayedAddr2 reflexiveAddr lifetime maxLifetime
        reservationToken mobileId) buf) :
    relayedAddrs buf = (relayedAddr1.toList ++ relayedAddr2.toList).map fun addr =>
      readBack (mapAddrFromPrivateToPublic m addr) := by
  obtain ⟨attrs, -, hmessage, htid₀, -, -⟩ := stunSetAllocateResponse_message htid rfl
  have hvalues : relayedAddrs buf = (attrValues attrXorRelayedAddress buf).map fun value =>
      (stunAddrDecode value true (stunTidFromMessage buf)).getD .unset := by
    rw [relayedAddrs, attrValues, map_map]
    rfl
  rw [hvalues, attrValues_extends hmessage hbuf, (hbuf attrs hmessage).2, htid₀,
    (stunSetAllocateResponse_values htid rfl).1, decode_addrAttrs]

end Coturn
