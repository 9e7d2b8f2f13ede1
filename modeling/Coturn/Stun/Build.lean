/-
# Building STUN messages

The writers of `client/ns_turn_msg.c` that the server uses, and the address encoder of
`client/ns_turn_msg_addr.c`. A writer takes the bytes of the message so far and returns the
longer message; `stun_attr_add_str` fails when the result would not fit into a buffer.
-/
import Coturn.Stun.Message

namespace Coturn

open ByteSeq

variable {buf : List UInt8}

/-! ## Message types and headers -/

def stunMakeType (method : ℕ) : ℕ :=
  let method := method &&& 0x0FFF
  (method &&& 0x000F) ||| ((method &&& 0x0070) <<< 1) ||| ((method &&& 0x0380) <<< 2) |||
    ((method &&& 0x0C00) <<< 2)

def stunMakeRequest (method : ℕ) : ℕ := stunMakeType method &&& 0xFEEF

def stunMakeIndication (method : ℕ) : ℕ := (stunMakeType method &&& 0xFEEF) ||| 0x0010

def stunMakeSuccessResponse (method : ℕ) : ℕ := (stunMakeType method &&& 0xFEEF) ||| 0x0100

def stunMakeErrorResponse (method : ℕ) : ℕ := stunMakeType method ||| 0x0110

/-- `old_stun_init_command_str` followed by the copy of the transaction id: a header without
attributes. -/
def oldStunInitCommand (messageType cookie : ℕ) (tid : List UInt8) : List UInt8 :=
  beBytes 2 (messageType &&& 0x3FFF) ++ beBytes 2 0 ++ beBytes 4 cookie ++ tid

/-- A header with the magic cookie. -/
def stunInitCommand (messageType : ℕ) (tid : List UInt8) : List UInt8 :=
  oldStunInitCommand messageType stunMagicCookie tid

/-- The transaction id is a random one. -/
def stunInitRequest (method : ℕ) (tid : List UInt8) : List UInt8 :=
  stunInitCommand (stunMakeRequest method) tid

def stunInitIndication (method : ℕ) (tid : List UInt8) : List UInt8 :=
  stunInitCommand (stunMakeIndication method) tid

def stunInitSuccessResponse (method : ℕ) (tid : List UInt8) : List UInt8 :=
  stunInitCommand (stunMakeSuccessResponse method) tid

def oldStunInitSuccessResponse (method : ℕ) (tid : List UInt8) (cookie : ℕ) : List UInt8 :=
  oldStunInitCommand (stunMakeSuccessResponse method) cookie tid

/-- Write the length into the header. -/
def stunSetCommandMessageLen (buf : List UInt8) (len : ℕ) : List UInt8 :=
  if len < stunHeaderLength then buf
  else buf.take 2 ++ beBytes 2 (len - stunHeaderLength) ++ buf.drop 4

/-! ## Attributes -/

/-- Append an attribute, padded with zeros to a multiple of four. -/
def stunAttrAdd (buf : List UInt8) (attr : ℕ) (avalue : List UInt8) : Option (List UInt8) :=
  match stunGetCommandMessageLen buf with
  | none => none
  | some clen =>
    let len := clen + 4 + avalue.length
    let newlen := paddedLength len
    if maxStunMessageSize ≤ newlen then none
    else
      some (stunSetCommandMessageLen (buf.take clen) newlen ++ beBytes 2 attr ++
        beBytes 2 avalue.length ++ avalue ++ List.replicate (newlen - len) 0)

/-- A call of `stun_attr_add_str` whose result is ignored. -/
def stunAttrAddIgnore (buf : List UInt8) (attr : ℕ) (avalue : List UInt8) : List UInt8 :=
  (stunAttrAdd buf attr avalue).getD buf

/-- A cleared address is written as the IPv4 address 0.0.0.0. -/
def stunAddrEncode (addr : IoaAddr) (xored : Bool) (tid : List UInt8) : List UInt8 :=
  let mask := addrMask xored tid
  let port := beBytes 2 (addrGetPort addr).toNat
  let famByte : UInt8 := if addr.family = 10 then 2 else 1
  let ip := if addr.family = 0 then List.replicate 4 0 else addr.bytes
  [0, famByte, unmask port mask 0 0, unmask port mask 1 1] ++
    (List.range ip.length).map fun i => unmask ip mask i i

def stunAttrAddAddr (m : AddrMapping) (buf : List UInt8) (attrType : ℕ) (ca : IoaAddr) :
    Option (List UInt8) :=
  stunAttrAdd buf attrType
    (stunAddrEncode (mapAddrFromPrivateToPublic m ca) (xorEd attrType) (stunTidFromMessage buf))

def stunAttrAddBandwidth (buf : List UInt8) (bps : ℕ) : List UInt8 :=
  stunAttrAddIgnore buf attrNewBandwidth (beBytes 4 (bps / 128))

/-! ## Error responses -/

/-- The texts of the source are ASCII. -/
def asciiBytes (s : String) : List UInt8 := s.toList.map fun c => UInt8.ofNat c.toNat

def getDefaultReason (errorCode : ℕ) : String :=
  match errorCode with
  | 300 => "Try Alternate"
  | 400 => "Bad Request"
  | 401 => "Unauthorized"
  | 403 => "Forbidden"
  | 404 => "Not Found"
  | 420 => "Unknown Attribute"
  | 437 => "Allocation Mismatch"
  | 438 => "Stale Nonce"
  | 440 => "Address Family not Supported"
  | 441 => "Wrong Credentials"
  | 442 => "Unsupported Transport Protocol"
  | 443 => "Peer Address Family Mismatch"
  | 446 => "Connection Already Exists"
  | 447 => "Connection Timeout or Failure"
  | 486 => "Allocation Quota Reached"
  | 487 => "Role Conflict"
  | 500 => "Server Error"
  | 508 => "Insufficient Capacity"
  | _ => "Unknown error"

/-- The value of an ERROR-CODE attribute: class, number and text, padded by hand. At most 508
bytes of the text fit. -/
def errorCodeValue (family errorCode : ℕ) (text : List UInt8) : List UInt8 :=
  let v := [UInt8.ofNat family, 0, UInt8.ofNat (errorCode / 100), UInt8.ofNat (errorCode % 100)] ++
    text.take 508
  v ++ List.replicate (paddedLength v.length - v.length) 0

/-- ERROR-CODE is added. -/
def addErrorCode (buf : List UInt8) (errorCode : ℕ) (reason : Option String)
    (includeReasonString : Bool) : List UInt8 :=
  let reason :=
    match reason with
    | some r => if r = "Unknown error" then getDefaultReason errorCode else r
    | none => getDefaultReason errorCode
  let text := if includeReasonString then asciiBytes reason else []
  stunAttrAddIgnore buf attrErrorCode (errorCodeValue 0 errorCode text)

def oldStunInitErrorResponse (method errorCode : ℕ) (reason : Option String) (tid : List UInt8)
    (cookie : ℕ) (includeReasonString : Bool) : List UInt8 :=
  addErrorCode (oldStunInitCommand (stunMakeErrorResponse method) cookie tid) errorCode reason
    includeReasonString

def stunInitErrorResponse (method errorCode : ℕ) (reason : Option String) (tid : List UInt8)
    (includeReasonString : Bool) : List UInt8 :=
  oldStunInitErrorResponse method errorCode reason tid stunMagicCookie includeReasonString

def stunAttrAddAddressErrorCode (buf : List UInt8) (requestedAddressFamily errorCode : ℕ) :
    List UInt8 :=
  stunAttrAddIgnore buf attrAddressErrorCode
    (errorCodeValue requestedAddressFamily errorCode (asciiBytes (getDefaultReason errorCode)))

/-! ## Responses -/

/-- Attributes added one after the other; the first one that does not fit ends the building. -/
def stunAttrsAdd (buf : List UInt8) : List (ℕ × List UInt8) → List UInt8
  | [] => buf
  | (attr, avalue) :: attrs =>
    match stunAttrAdd buf attr avalue with
    | none => buf
    | some buf => stunAttrsAdd buf attrs

lemma stunSetCommandMessageLen_length (len : ℕ) (h : 4 ≤ buf.length) :
    (stunSetCommandMessageLen buf len).length = buf.length := by
  unfold stunSetCommandMessageLen
  split_ifs
  · rfl
  · simp only [List.length_append, List.length_take, List.length_drop, length_beBytes]
    omega

lemma stunAttrAdd_length_lt {buf' avalue : List UInt8} {attr : ℕ}
    (h : stunAttrAdd buf attr avalue = some buf') : buf'.length < maxStunMessageSize := by
  unfold stunAttrAdd at h
  cases hlen : stunGetCommandMessageLen buf with
  | none => simp [hlen] at h
  | some clen =>
    simp only [hlen] at h
    split_ifs at h with hmax
    obtain rfl := Option.some.inj h
    have hclen : 20 ≤ clen ∧ clen ≤ buf.length := by
      unfold stunGetCommandMessageLen stunHeaderLength at hlen
      simp only at hlen
      split_ifs at hlen
      obtain rfl := Option.some.inj hlen
      omega
    have htake : (buf.take clen).length = clen := by
      rw [List.length_take]
      omega
    have hpad : clen + 4 + avalue.length ≤ paddedLength (clen + 4 + avalue.length) := by
      unfold paddedLength
      omega
    simp only [List.length_append, List.length_replicate, length_beBytes,
      stunSetCommandMessageLen_length _ (htake.symm ▸ hclen.1.trans' (by decide)), htake]
    omega

lemma stunAttrsAdd_length_lt (h : buf.length < maxStunMessageSize) (attrs : List (ℕ × List UInt8)) :
    (stunAttrsAdd buf attrs).length < maxStunMessageSize := by
  induction attrs generalizing buf with
  | nil => exact h
  | cons attr attrs ih =>
    unfold stunAttrsAdd
    cases hadd : stunAttrAdd buf attr.1 attr.2 with
    | none => exact h
    | some buf' => exact ih (stunAttrAdd_length_lt hadd)

/-- The attribute that `stun_attr_add_addr_str` adds to a message with the given transaction
id. -/
def addrAttr (m : AddrMapping) (tid : List UInt8) (attrType : ℕ) (ca : IoaAddr) : ℕ × List UInt8 :=
  (attrType, stunAddrEncode (mapAddrFromPrivateToPublic m ca) (xorEd attrType) tid)

/-- The RESERVATION-TOKEN of a response; 0 stands for none. -/
def tokenAttr (reservationToken : ℕ) : List (ℕ × List UInt8) :=
  if reservationToken ≠ 0 then [(attrReservationToken, beBytes 8 reservationToken)] else []

/-- `stun_set_allocate_response_str` without an error code. -/
def stunSetAllocateResponse (m : AddrMapping) (tid : List UInt8)
    (relayedAddr1 relayedAddr2 : Option IoaAddr) (reflexiveAddr : IoaAddr)
    (lifetime maxLifetime : UInt32) (reservationToken : ℕ) (mobileId : List UInt8) : List UInt8 :=
  let lifetime :=
    if lifetime < 1 then 600 else if maxLifetime < lifetime then maxLifetime else lifetime
  stunAttrsAdd (stunInitSuccessResponse stunMethodAllocate tid)
    ((relayedAddr1.toList ++ relayedAddr2.toList).map (addrAttr m tid attrXorRelayedAddress) ++
      [addrAttr m tid attrXorMappedAddress reflexiveAddr] ++ tokenAttr reservationToken ++
      [(attrLifetime, beBytes 4 lifetime.toNat)] ++
      (if mobileId = [] then [] else [(attrMobilityTicket, mobileId)]))

/-- `stun_set_binding_response_str` without an error code; `cookie` is that of a message in the
old format. -/
def stunSetBindingResponse (m : AddrMapping) (tid : List UInt8) (reflexiveAddr : IoaAddr)
    (cookie : Option ℕ) (stunBackwardCompatibility : Bool) : List UInt8 :=
  let mapped :=
    if stunBackwardCompatibility then [addrAttr m tid attrMappedAddress reflexiveAddr] else []
  match cookie with
  | none =>
    stunAttrsAdd (stunInitSuccessResponse stunMethodBinding tid)
      (addrAttr m tid attrXorMappedAddress reflexiveAddr :: mapped)
  | some cookie => stunAttrsAdd (oldStunInitSuccessResponse stunMethodBinding tid cookie) mapped

/-- `stun_init_channel_message_str` with the payload in the buffer; `room` stands behind it, as
padding. -/
def stunInitChannelMessage (chnumber : UInt16) (payload room : List UInt8) (doPadding : Bool) :
    Option (List UInt8) :=
  if maxStunMessageSize < 4 + payload.length then none
  else
    let rlen := if doPadding then paddedLength payload.length else payload.length
    some (beBytes 2 chnumber.toNat ++ beBytes 2 payload.length ++
      (payload ++ room).take rlen)

end Coturn
