/-
# Stored passwords

The passwords of administrators are stored as `$5$`, the salt, `$` and the SHA-256 digest of salt and
password, with two hexadecimal digits a byte; see `generate_enc_password`, `encrypted_password` and
`check_password_equal` of `client/ns_turn_msg.c`. A string is the list of its bytes, without the zero
at its end.
-/
import Coturn.Lib.TextNumber
import Coturn.Stun.Build

namespace Coturn

open TextNumber

def pwdSaltSize : ℕ := 8

/-- The digits of `%02x`. -/
def hexPair (b : UInt8) : List UInt8 :=
  [b / 16, b % 16].map fun d => if d < 10 then 0x30 + d else 0x61 + (d - 10)

def readableString (orig : List UInt8) : List UInt8 := orig.flatMap hexPair

def readHexPair (sc : List UInt8) : UInt8 := UInt8.ofNat (strtoul16 sc % 256).toNat

section

variable (sha256 : List UInt8 → List.Vector UInt8 32)

/-- The stored form of a password, with a salt of `pwdSaltSize` bytes. -/
def generateEncPassword (pwd salt : List UInt8) : List UInt8 :=
  asciiBytes "$5$" ++ readableString salt ++ asciiBytes "$" ++
    readableString (sha256 (salt ++ pwd)).toList

/-- The salt of a stored form, when the string looks like one. -/
def encryptedPassword (pin : List UInt8) : Option (List UInt8) :=
  if 3 + pwdSaltSize + pwdSaltSize + 1 + 32 ≤ pin.length ∧ pin[0]? = some 0x24 ∧
      pin[1]? = some 0x35 ∧ pin[2]? = some 0x24 ∧
      pin[3 + pwdSaltSize + pwdSaltSize]? = some 0x24 then
    some ((List.range pwdSaltSize).map fun i => readHexPair ((pin.drop (3 + i + i)).take 2))
  else none

def checkPasswordEqual (pin pwd : List UInt8) : Bool :=
  match encryptedPassword pwd with
  | none => pin == pwd
  | some salt => generateEncPassword sha256 pin salt == pwd

end

lemma readHexPair_hexPair (b : UInt8) : readHexPair (hexPair b) = b := by
  have hall : ∀ n : Fin 256, readHexPair (hexPair (UInt8.ofNat n)) = UInt8.ofNat n := by
    decide +kernel
  simpa using hall ⟨b.toNat, b.toNat_lt⟩

lemma hexPair_injective : Function.Injective hexPair :=
  Function.LeftInverse.injective readHexPair_hexPair

lemma readableString_injective : Function.Injective readableString := by
  intro s
  induction s with
  | nil =>
    rintro (_ | ⟨c, t⟩) h
    · rfl
    · simp [readableString, hexPair] at h
  | cons b s ih =>
    rintro (_ | ⟨c, t⟩) h
    · simp [readableString, hexPair] at h
    · obtain ⟨hpair, hrest⟩ := List.append_inj (h : hexPair b ++ _ = hexPair c ++ _) rfl
      rw [hexPair_injective hpair, ih hrest]

lemma readableString_length (s : List UInt8) : (readableString s).length = s.length * 2 := by
  simp [readableString, hexPair]

lemma encryptedPassword_generateEncPassword (sha256 : List UInt8 → List.Vector UInt8 32)
    (pwd : List UInt8) (salt : List.Vector UInt8 8) :
    encryptedPassword (generateEncPassword sha256 pwd salt.toList) = some salt.toList := by
  obtain ⟨salt, hsalt⟩ := salt
  match salt, hsalt with
  | [a, b, c, d, e, f, g, h], _ =>
    have hlong : 52 ≤ (generateEncPassword sha256 pwd [a, b, c, d, e, f, g, h]).length := by
      simp [generateEncPassword, readableString_length, asciiBytes]
    refine (if_pos ⟨hlong, rfl, rfl, rfl, rfl⟩).trans (congrArg some ?_)
    change [readHexPair (hexPair a), readHexPair (hexPair b), readHexPair (hexPair c),
      readHexPair (hexPair d), readHexPair (hexPair e), readHexPair (hexPair f),
      readHexPair (hexPair g), readHexPair (hexPair h)] = _
    simp only [readHexPair_hexPair]
    rfl

/-- A pin passes exactly when its digest with the salt of the password is that of the password. -/
theorem checkPasswordEqual_iff (sha256 : List UInt8 → List.Vector UInt8 32) (pin pwd : List UInt8)
    (salt : List.Vector UInt8 8) :
    checkPasswordEqual sha256 pin (generateEncPassword sha256 pwd salt.toList) = true ↔
      sha256 (salt.toList ++ pin) = sha256 (salt.toList ++ pwd) := by
  rw [checkPasswordEqual, encryptedPassword_generateEncPassword]
  simp only [beq_iff_eq, generateEncPassword, List.append_cancel_left_eq]
  constructor
  · intro h
    exact Subtype.ext (readableString_injective h)
  · intro h
    rw [h]

end Coturn
