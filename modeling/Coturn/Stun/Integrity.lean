/-
# Fingerprint and message integrity

FINGERPRINT and MESSAGE-INTEGRITY of `client/ns_turn_msg.c`, as they are added and as they are
checked. The HMAC is a parameter: any function of a key and the covered bytes. The server uses SHA-1
only, so the attribute has 20 bytes, and 16 bytes of the key array are the key.
-/
import Coturn.Stun.Build

namespace Coturn

open ByteSeq

/-! ## FINGERPRINT -/

/-- The table of the source: the CRC of one byte, by eight steps of the division. -/
def crctable (i : UInt8) : UInt32 :=
  Nat.repeat (fun c => if c &&& 1 = 1 then (c >>> 1) ^^^ (0xEDB88320 : UInt32) else c >>> 1) 8
    i.toUInt32

example : crctable 1 = 0x77073096 ∧ crctable 255 = 0x2d02ef8d := by decide

def updateCrc (crc : UInt32) (c : UInt8) : UInt32 := crctable (crc.toUInt8 ^^^ c) ^^^ (crc >>> 8)

def nsCrc32 (buf : List UInt8) : UInt32 := ~~~(buf.foldl updateCrc 0xFFFFFFFF)

/-- The value of a FINGERPRINT attribute after the given bytes. -/
def fingerprintValue (covered : List UInt8) : List UInt8 :=
  beBytes 4 (nsCrc32 covered ^^^ (0x5354554e : UInt32)).toNat

/-- The attribute is added with a value of zeros, which the checksum of what stands before the
attribute then replaces. -/
def stunAttrAddFingerprint (buf : List UInt8) : Option (List UInt8) :=
  (stunAttrAdd buf attrFingerprint (List.replicate 4 0)).map fun buf =>
    buf.take (buf.length - 4) ++ fingerprintValue (buf.take (buf.length - 8))

/-- `stun_is_command_message_full_check_str`: the result, and the new value of
`*fingerprint_present`. -/
def stunIsCommandMessageFullCheck (buf : List UInt8) (mustCheckFingerprint : Bool)
    (fingerprintPresent : Bool) : Bool × Bool :=
  if !stunIsCommandMessage buf then (false, fingerprintPresent)
  else
    match stunAttrGetFirstByType (stunAttrs buf) attrFingerprint with
    | none => (stunGetMethod buf == stunMethodBinding || !mustCheckFingerprint, false)
    | some sar =>
      if sar.value.length ≠ 4 then (false, fingerprintPresent)
      else if sar.value = fingerprintValue (buf.take sar.offset) then (true, true)
      else (false, fingerprintPresent)

/-! ## MESSAGE-INTEGRITY -/

def sha1SizeBytes : ℕ := 20

/-- `get_hmackey_size` for SHA-1: how much of the key array is the key. -/
def getHmackeySize : ℕ := 16

variable (hmac : List UInt8 → List UInt8 → List UInt8)

/-- `stun_attr_add_integrity_str` with SHA-1: the HMAC of what stands before the attribute replaces
the zeros it is added with. -/
def stunAttrAddIntegrity (buf key : List UInt8) : List UInt8 :=
  match stunAttrAdd buf attrMessageIntegrity (List.replicate sha1SizeBytes 0) with
  | none => buf
  | some buf =>
    buf.take (buf.length - sha1SizeBytes) ++
      hmac (key.take getHmackeySize) (buf.take (buf.length - 4 - sha1SizeBytes))

/-- The check with SHA-1: `none` for a failure (-1), otherwise whether the HMAC is right, under a
header that ends the message with the attribute. -/
def stunCheckMessageIntegrityByKey (buf key : List UInt8) : Option Bool :=
  match stunAttrGetFirstByType (stunAttrs buf) attrMessageIntegrity with
  | none => none
  | some sar =>
    if sar.value.length ≠ sha1SizeBytes then none
    else
      match stunGetCommandMessageLen buf with
      | none => none
      | some origLen =>
        let newLen := sar.offset + 4 + sha1SizeBytes
        if origLen < newLen then none
        else
          some (sar.value = hmac (key.take getHmackeySize)
            ((stunSetCommandMessageLen buf newLen).take sar.offset))

end Coturn
