/-
# Reading STUN messages

The readers of `client/ns_turn_msg.c` and the address decoder of `client/ns_turn_msg_addr.c`. A
message is the list of its bytes. The walk of `stun_attr_get_first_str` and `stun_attr_get_next_str`
is one function that lists the attributes with their offsets, and every loop over a message is a
recursion on that list.
-/
import Coturn.Ioaddr

namespace Coturn

open ByteSeq List

def stunHeaderLength : ℕ := 20

def stunMagicCookie : ℕ := 0x2112A442

/-- `MAX_STUN_MESSAGE_SIZE`, the size of a network buffer. -/
def maxStunMessageSize : ℕ := 65507

/-! ## Methods and attribute types -/

@[match_pattern] abbrev stunMethodBinding : ℕ := 0x0001
@[match_pattern] abbrev stunMethodAllocate : ℕ := 0x0003
@[match_pattern] abbrev stunMethodRefresh : ℕ := 0x0004
@[match_pattern] abbrev stunMethodSend : ℕ := 0x0006
@[match_pattern] abbrev stunMethodData : ℕ := 0x0007
@[match_pattern] abbrev stunMethodCreatePermission : ℕ := 0x0008
@[match_pattern] abbrev stunMethodChannelBind : ℕ := 0x0009
@[match_pattern] abbrev stunMethodConnect : ℕ := 0x000a
@[match_pattern] abbrev stunMethodConnectionBind : ℕ := 0x000b
@[match_pattern] abbrev stunMethodConnectionAttempt : ℕ := 0x000c

@[match_pattern] abbrev attrMappedAddress : ℕ := 0x0001
@[match_pattern] abbrev attrOldResponseAddress : ℕ := 0x0002
@[match_pattern] abbrev attrChangeRequest : ℕ := 0x0003
@[match_pattern] abbrev attrOldSourceAddress : ℕ := 0x0004
@[match_pattern] abbrev attrOldChangedAddress : ℕ := 0x0005
@[match_pattern] abbrev attrUsername : ℕ := 0x0006
@[match_pattern] abbrev attrMessageIntegrity : ℕ := 0x0008
@[match_pattern] abbrev attrErrorCode : ℕ := 0x0009
@[match_pattern] abbrev attrUnknownAttributes : ℕ := 0x000A
@[match_pattern] abbrev attrOldReflectedFrom : ℕ := 0x000B
@[match_pattern] abbrev attrChannelNumber : ℕ := 0x000C
@[match_pattern] abbrev attrLifetime : ℕ := 0x000D
@[match_pattern] abbrev attrXorPeerAddress : ℕ := 0x0012
@[match_pattern] abbrev attrData : ℕ := 0x0013
@[match_pattern] abbrev attrRealm : ℕ := 0x0014
@[match_pattern] abbrev attrNonce : ℕ := 0x0015
@[match_pattern] abbrev attrXorRelayedAddress : ℕ := 0x0016
@[match_pattern] abbrev attrRequestedAddressFamily : ℕ := 0x0017
@[match_pattern] abbrev attrEvenPort : ℕ := 0x0018
@[match_pattern] abbrev attrRequestedTransport : ℕ := 0x0019
@[match_pattern] abbrev attrDontFragment : ℕ := 0x001A
@[match_pattern] abbrev attrOauthAccessToken : ℕ := 0x001B
@[match_pattern] abbrev attrXorMappedAddress : ℕ := 0x0020
@[match_pattern] abbrev attrReservationToken : ℕ := 0x0022
@[match_pattern] abbrev attrPriority : ℕ := 0x0024
@[match_pattern] abbrev attrPadding : ℕ := 0x0026
@[match_pattern] abbrev attrResponsePort : ℕ := 0x0027
@[match_pattern] abbrev attrConnectionId : ℕ := 0x002A
@[match_pattern] abbrev attrAdditionalAddressFamily : ℕ := 0x8000
@[match_pattern] abbrev attrAddressErrorCode : ℕ := 0x8001
@[match_pattern] abbrev attrNewBandwidth : ℕ := 0x8010
@[match_pattern] abbrev attrSoftware : ℕ := 0x8022
@[match_pattern] abbrev attrAlternateServer : ℕ := 0x8023
@[match_pattern] abbrev attrFingerprint : ℕ := 0x8028
@[match_pattern] abbrev attrResponseOrigin : ℕ := 0x802B
@[match_pattern] abbrev attrOtherAddress : ℕ := 0x802C
@[match_pattern] abbrev attrThirdPartyAuthorization : ℕ := 0x802E
@[match_pattern] abbrev attrOrigin : ℕ := 0x802F
@[match_pattern] abbrev attrMobilityTicket : ℕ := 0x8030

/-! ## The header -/

/-- The length that the header declares, header included; `none` for the result -1. -/
def stunGetCommandMessageLen (buf : List UInt8) : Option ℕ :=
  if buf.length < stunHeaderLength then none
  else
    let bufLen := beAt buf 2 2 + stunHeaderLength
    if buf.length < bufLen then none else some bufLen

/-- The method in the header. -/
def stunGetMethod (buf : List UInt8) : ℕ :=
  if buf.length < 2 then 0xFFFF
  else
    let tt := beAt buf 0 2
    (tt &&& 0x000F) ||| ((tt &&& 0x00E0) >>> 1) ||| ((tt &&& 0x0E00) >>> 2) |||
      ((tt &&& 0x3000) >>> 2)

def stunGetMsgType (buf : List UInt8) : ℕ :=
  if buf.length < 2 then 0xFFFF else beAt buf 0 2 &&& 0x3FFF

/-- `STUN_VALID_CHANNEL` of the first two bytes. -/
def startsWithChannel (buf : List UInt8) : Bool :=
  0x4000 ≤ beAt buf 0 2 && beAt buf 0 2 ≤ 0x7FFF

def isChannelMsg (buf : List UInt8) : Bool := 4 ≤ buf.length && startsWithChannel buf

/-- What the two recognisers of command messages have in common: they differ in what they ask of
the cookie. -/
def isCommandMessageWith (cookieOk : ℕ → Bool) (buf : List UInt8) : Bool :=
  stunHeaderLength ≤ buf.length && !startsWithChannel buf && beAt buf 0 1 &&& 0xC0 == 0 &&
    cookieOk (beAt buf 4 4) && beAt buf 2 2 &&& 0x0003 == 0 &&
    beAt buf 2 2 + stunHeaderLength == buf.length

def stunIsCommandMessage (buf : List UInt8) : Bool :=
  isCommandMessageWith (· == stunMagicCookie) buf

/-- The cookie of a message in the format of RFC 3489. -/
def oldStunIsCommandMessage (buf : List UInt8) : Option ℕ :=
  if isCommandMessageWith (· != stunMagicCookie) buf then some (beAt buf 4 4) else none

def stunIsRequest (buf : List UInt8) : Bool :=
  !isChannelMsg buf && stunGetMsgType buf &&& 0x0110 == 0x0000

def stunIsIndication (buf : List UInt8) : Bool :=
  !isChannelMsg buf && stunGetMsgType buf &&& 0x0110 == 0x0010

def stunIsErrorResponse (buf : List UInt8) : Bool :=
  !isChannelMsg buf && stunGetMsgType buf &&& 0x0110 == 0x0110

lemma stunIsIndication_of_request {buf : List UInt8} (h : stunIsRequest buf = true) :
    stunIsIndication buf = false := by
  unfold stunIsRequest at h
  unfold stunIsIndication
  rw [Bool.and_eq_true, beq_iff_eq] at h
  rw [h.2]
  simp

/-- The transaction id. -/
def stunTidFromMessage (buf : List UInt8) : List UInt8 := (buf.drop 8).take 12

/-- `stun_is_channel_message_str`: the channel number and the reported length. -/
def stunIsChannelMessage (buf : List UInt8) (mandatoryPadding : Bool) : Option (UInt16 × ℕ) :=
  if buf.length < 4 then none
  else if !startsWithChannel buf then none
  else
    let datalenActual := min buf.length 0xFFFF - 4
    let datalenHeader := beAt buf 2 2
    if datalenActual < datalenHeader then none
    else if datalenHeader ≠ datalenActual ∧ datalenActual % 4 ≠ 0 ∧
        (mandatoryPadding = true ∨ datalenHeader = 0 ∨ 3 < datalenActual - datalenHeader) then
      none
    else some (UInt16.ofNat (beAt buf 0 2), datalenHeader + 4)

/-! ## Attributes -/

/-- Where the header of the attribute starts, its type and its value, which may be empty. -/
structure StunAttr where
  offset : ℕ
  type : ℕ
  value : List UInt8
  deriving DecidableEq

/-- A length rounded up to the next multiple of four. -/
def paddedLength (n : ℕ) : ℕ := (n + 3) / 4 * 4

/-- The attributes from offset `off` on. The walk ends at the first one that does not fit into the
rest. -/
def stunAttrWalk : ℕ → ℕ → List UInt8 → List StunAttr
  | 0, _, _ => []
  | fuel + 1, off, rest =>
    let len := beAt rest 2 2
    if 4 ≤ rest.length ∧ paddedLength len ≤ rest.length - 4 then
      ⟨off, beAt rest 0 2, (rest.drop 4).take len⟩ ::
        stunAttrWalk fuel (off + 4 + paddedLength len) (rest.drop (4 + paddedLength len))
    else []

/-- The attributes that the walk visits. An attribute takes at least four bytes, so the length of
the message is enough fuel. -/
def stunAttrs (buf : List UInt8) : List StunAttr :=
  match stunGetCommandMessageLen buf with
  | none => []
  | some n => stunAttrWalk n stunHeaderLength ((buf.take n).drop stunHeaderLength)

lemma mem_stunAttrWalk {fuel off : ℕ} {msg : List UInt8} {sar : StunAttr}
    (h : sar ∈ stunAttrWalk fuel off (msg.drop off)) :
    sar.offset + 4 + sar.value.length ≤ msg.length ∧
      sar.value = (msg.drop (sar.offset + 4)).take sar.value.length := by
  induction fuel generalizing off with
  | zero => exact absurd h not_mem_nil
  | succ fuel ih =>
    unfold stunAttrWalk at h
    simp only at h
    split_ifs at h with hfits
    · rcases mem_cons.mp h with rfl | hrest
      · have hpad : beAt (msg.drop off) 2 2 ≤ paddedLength (beAt (msg.drop off) 2 2) := by
          unfold paddedLength
          omega
        rw [length_drop] at hfits
        simp only [drop_drop, length_take, length_drop]
        refine ⟨by omega, ?_⟩
        rw [min_eq_left (by omega)]
      · rw [drop_drop, ← Nat.add_assoc] at hrest
        exact ih hrest
    · exact absurd h not_mem_nil

lemma mem_stunAttrs {buf : List UInt8} {sar : StunAttr} (h : sar ∈ stunAttrs buf) :
    sar.offset + 4 + sar.value.length ≤ buf.length ∧
      sar.value = (buf.drop (sar.offset + 4)).take sar.value.length := by
  unfold stunAttrs at h
  cases hlen : stunGetCommandMessageLen buf with
  | none =>
    rw [hlen] at h
    exact absurd h not_mem_nil
  | some n =>
    rw [hlen] at h
    obtain ⟨hle, hvalue⟩ := mem_stunAttrWalk h
    have hn : sar.offset + 4 + sar.value.length ≤ n := hle.trans (length_take_le ..)
    refine ⟨hle.trans (length_take_le' ..), hvalue.trans ?_⟩
    rw [drop_take, take_take, min_eq_left (by omega)]

/-- The first attribute of a type. -/
def stunAttrGetFirstByType (attrs : List StunAttr) (attrType : ℕ) : Option StunAttr :=
  attrs.find? fun attr => attr.type == attrType

/-- The values of REQUESTED-ADDRESS-FAMILY. -/
inductive AddressFamilyValue where
  | ipv4
  | ipv6
  | dflt
  | invalid
  deriving DecidableEq

variable (attr : StunAttr)

def stunGetRequestedAddressFamily : AddressFamilyValue :=
  if attr.value.length ≠ 4 then .invalid
  else
    match beAt attr.value 0 1 with
    | 1 => .ipv4
    | 2 => .ipv6
    | _ => .invalid

def stunAttrGetChannelNumber : UInt16 :=
  if 2 ≤ attr.value.length && startsWithChannel attr.value then UInt16.ofNat (beAt attr.value 0 2)
  else 0

/-- Bits are shifted out of a 32-bit number. -/
def stunAttrGetBandwidth : ℕ :=
  if 4 ≤ attr.value.length then beAt attr.value 0 4 * 128 % 2 ^ 32 else 0

def stunAttrGetReservationTokenValue : ℕ :=
  if attr.value.length = 8 then beAt attr.value 0 8 else 0

def stunAttrGetEvenPort : Bool := 0x7F < beAt attr.value 0 1

/-- `change_ip` and `change_port`. -/
def stunAttrGetChangeRequest : Option (Bool × Bool) :=
  if attr.value.length = 4 then
    some (beAt attr.value 3 1 &&& 0x04 != 0, beAt attr.value 3 1 &&& 0x02 != 0)
  else none

def stunAttrGetResponsePort : Option UInt16 :=
  if 2 ≤ attr.value.length then some (UInt16.ofNat (beAt attr.value 0 2)) else none

/-! ## Addresses in attributes -/

/-- The pairs of `ioa_addr_add_mapping`: public address, private address. -/
abbrev AddrMapping := List (IoaAddr × IoaAddr)

def mapAddrFromPublicToPrivate (m : AddrMapping) (addr : IoaAddr) : IoaAddr :=
  match m.find? fun p => addrEqNoPort addr p.1 with
  | some p => addrSetPort (addrGetPort addr) p.2
  | none => addr

def mapAddrFromPrivateToPublic (m : AddrMapping) (addr : IoaAddr) : IoaAddr :=
  match m.find? fun p => addrEqNoPort addr p.2 with
  | some p => addrSetPort (addrGetPort addr) p.1
  | none => addr

/-- The attribute types whose address is XORed. -/
def xorEd (attrType : ℕ) : Bool :=
  attrType == attrXorMappedAddress || attrType == attrXorPeerAddress ||
    attrType == attrXorRelayedAddress

/-- What the bytes of a port and of an address are XORed with: the cookie and the transaction
id. -/
def addrMask (xored : Bool) (tid : List UInt8) : List UInt8 :=
  if xored then beBytes 4 stunMagicCookie ++ tid else []

/-- Byte `i` of a field XORed with byte `j` of the mask. -/
def unmask (field mask : List UInt8) (i j : ℕ) : UInt8 := field.getD i 0 ^^^ mask.getD j 0

/-- The address in an attribute. -/
def stunAddrDecode (cfield : List UInt8) (xored : Bool) (tid : List UInt8) : Option IoaAddr :=
  let mask := addrMask xored tid
  let port := UInt16.ofNat (beNat [unmask cfield mask 2 0, unmask cfield mask 3 1])
  if cfield.length < 8 then none
  else if beAt cfield 0 1 ≠ 0 then none
  else
    match beAt cfield 1 1 with
    | 1 =>
      if cfield.length ≠ 8 then none
      else some (.s4 (List.Vector.ofFn fun i => unmask cfield mask (4 + i) i) port)
    | 2 =>
      if cfield.length ≠ 20 then none
      else some (.s6 (List.Vector.ofFn fun i => unmask cfield mask (4 + i) i) port)
    | _ => none

/-- `stun_attr_get_addr_str`: whether the address was decoded, and the address; it is cleared
when it was not. -/
def stunAttrGetAddr (m : AddrMapping) (tid : List UInt8) (attr : StunAttr)
    (defaultAddr : Option IoaAddr) : Bool × IoaAddr :=
  match stunAddrDecode attr.value (xorEd attr.type) tid with
  | none => (false, .unset)
  | some publicAddr =>
    let ca := mapAddrFromPublicToPrivate m publicAddr
    match defaultAddr with
    | none => (true, ca)
    | some d =>
      if addrAnyNoPort ca && !addrAnyNoPort d then
        (true, addrSetPort (addrGetPort ca) d)
      else (true, ca)

end Coturn
