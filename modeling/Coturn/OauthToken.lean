/-
# OAuth tokens

`encode_oauth_token` and `decode_oauth_token` of `client/ns_turn_msg.c`: a nonce with its length,
the encrypted block with key, timestamp and lifetime, and a tag; the name of the server is
authenticated with it. The cipher is a parameter, which decrypts what it has encrypted, piece by
piece, and keeps the lengths.
-/
import Coturn.Lib.Bytes

namespace Coturn

open ByteSeq List Option

/-- The states of an encryption and a decryption; `Mirrors e d` when both have had the same
inputs. -/
structure Gcm where
  Enc : Type
  Dec : Type
  encInit : List UInt8 → List UInt8 → Enc
  decInit : List UInt8 → List UInt8 → Option Dec
  encAad : Enc → List UInt8 → Enc
  decAad : Dec → List UInt8 → Dec
  encUpdate : Enc → List UInt8 → Enc × List UInt8
  decUpdate : Dec → List UInt8 → Option (Dec × List UInt8)
  tag : Enc → List.Vector UInt8 16
  checkTag : Dec → List UInt8 → Bool
  Mirrors : Enc → Dec → Prop
  mirrors_init : ∀ key nonce, nonce.length = 12 →
    ∃ d, decInit key nonce = some d ∧ Mirrors (encInit key nonce) d
  mirrors_aad : ∀ {e d} aad, Mirrors e d → Mirrors (encAad e aad) (decAad d aad)
  mirrors_update : ∀ {e d} plain, Mirrors e d →
    ∃ d', decUpdate d (encUpdate e plain).2 = some (d', plain) ∧ Mirrors (encUpdate e plain).1 d'
  checkTag_tag : ∀ {e d}, Mirrors e d → checkTag d (tag e).toList = true
  encUpdate_length : ∀ e plain, (encUpdate e plain).2.length = plain.length
  decUpdate_length : ∀ {d c r}, decUpdate d c = some r → r.2.length = c.length

/-- `ENC_ALG`. -/
inductive EncAlg where
  | error
  | a256gcm
  | a128gcm
  deriving DecidableEq

/-- What is read of `oauth_key`. -/
structure OauthKey where
  asRsAlg : EncAlg
  asRsKey : List UInt8

/-- `oauth_encrypted_block`; of the array `mac_key` only the first `key_length` bytes. -/
@[ext] structure OauthBlock where
  macKey : List UInt8
  timestamp : UInt64
  lifetime : UInt32

/-- The memory from the array on, and the size that is said to be in use. -/
structure EncodedOauthToken where
  token : List UInt8
  size : ℕ
  size_le : size ≤ token.length

/-- The loop of `my_EVP_EncryptUpdate` and `my_EVP_DecryptUpdate`, for 127 calls at most. -/
def evpUpdate {σ : Type} (step : σ → List UInt8 → Option (σ × List UInt8)) :
    ℕ → σ → List UInt8 → Option (σ × List UInt8)
  | 0, s, _ => some (s, [])
  | cycles + 1, s, input =>
    if input = [] then some (s, [])
    else (step s input).bind fun r =>
      (evpUpdate step cycles r.1 (input.drop r.2.length)).map fun r' => (r'.1, r.2 ++ r'.2)

/-- A call without output: it reports the length of its input. -/
def evpAad {σ : Type} (aad : σ → List UInt8 → σ) (s : σ) (name : List UInt8) : Option σ :=
  (evpUpdate (fun s a => some (aad s a, a)) 127 s (name.take (intBound name.length))).map Prod.fst

/-- The block as it is encrypted. -/
def OauthBlock.bytes (b : OauthBlock) : List UInt8 :=
  beBytes 2 b.macKey.length ++
    (b.macKey ++ (beBytes 8 b.timestamp.toNat ++ beBytes 4 b.lifetime.toNat))

/-- The block in the decrypted bytes. -/
def oauthBlock (plain : List UInt8) : Option OauthBlock :=
  let keyLength := beAt plain 0 2
  if plain.length < 2 then none
  else if 128 < keyLength then none
  else if plain.length < 2 + keyLength + 8 + 4 then none
  else some ⟨(plain.drop 2).take keyLength, .ofNat (beAt plain (2 + keyLength) 8),
    .ofNat (beAt plain (2 + keyLength + 8) 4)⟩

variable (a256 a128 : Gcm) (serverName : List UInt8) (key : OauthKey)

def getCipherType : EncAlg → Option Gcm
  | .a256gcm => some a256
  | .a128gcm => some a128
  | .error => none

/-- The nonce, the encrypted block and the tag. -/
def encodeOauthTokenGcm (gcm : Gcm) (nonce : List.Vector UInt8 12) (b : OauthBlock) :
    Option EncodedOauthToken :=
  if b.macKey.length ≤ 128 then
    (evpAad gcm.encAad (gcm.encInit key.asRsKey nonce.toList) serverName).bind fun e =>
    (evpUpdate (fun e p => some (gcm.encUpdate e p)) 127 e b.bytes).map fun r =>
      let token := beBytes 2 12 ++ (nonce.toList ++ (r.2 ++ (gcm.tag r.1).toList))
      ⟨token, token.length, Nat.le_refl _⟩
  else none

def encodeOauthToken (nonce : List.Vector UInt8 12) (b : OauthBlock) : Option EncodedOauthToken :=
  (getCipherType a256 a128 key.asRsAlg).bind fun gcm =>
    encodeOauthTokenGcm serverName key gcm nonce b

/-- What `decode_oauth_token_gcm` decrypts; `encoded_field_size` is an `unsigned int`. -/
def decryptOauthToken (gcm : Gcm) (t : EncodedOauthToken) : Option (List UInt8) :=
  let nonceLen := beAt t.token 0 2
  let fieldSize := (t.size - nonceLen - 2 - 16) % 2 ^ 32
  if 256 < nonceLen then none
  else if t.size < 2 + 4 + 8 + nonceLen + 2 + 16 + 1 then none
  else
    (gcm.decInit key.asRsKey ((t.token.drop 2).take nonceLen)).bind fun d =>
    (evpAad gcm.decAad d serverName).bind fun d =>
    (evpUpdate gcm.decUpdate 127 d
      ((t.token.drop (nonceLen + 2)).take (intBound fieldSize))).bind fun r =>
    if gcm.checkTag r.1 ((t.token.drop (nonceLen + 2 + fieldSize)).take 16) then some r.2 else none

def decodeOauthToken (t : EncodedOauthToken) : Option OauthBlock :=
  (getCipherType a256 a128 key.asRsAlg).bind fun gcm =>
    (decryptOauthToken serverName key gcm t).bind oauthBlock

/-! ## The block -/

lemma OauthBlock.length_bytes (b : OauthBlock) : b.bytes.length = 2 + b.macKey.length + 8 + 4 := by
  simp [OauthBlock.bytes]
  omega

lemma oauthBlock_bytes (b : OauthBlock) (hkey : b.macKey.length ≤ 128) :
    oauthBlock b.bytes = some b := by
  have hkeyLength : beAt b.bytes 0 2 = b.macKey.length := beAt_beBytes (by omega) _
  have hmacKey : (b.bytes.drop 2).take b.macKey.length = b.macKey := by
    rw [OauthBlock.bytes, drop_left' (length_beBytes 2 _), take_left]
  have hrest : ∀ i k, beAt b.bytes (2 + b.macKey.length + i) k =
      beAt (beBytes 8 b.timestamp.toNat ++ beBytes 4 b.lifetime.toNat) i k := by
    intro i k
    have hright := beAt_append_right (beBytes 2 b.macKey.length ++ b.macKey)
      (beBytes 8 b.timestamp.toNat ++ beBytes 4 b.lifetime.toNat) i k
    rwa [length_append, length_beBytes, append_assoc] at hright
  have htimestamp : beAt b.bytes (2 + b.macKey.length) 8 = b.timestamp.toNat :=
    (hrest 0 8).trans (beAt_beBytes b.timestamp.toNat_lt _)
  have hlifetime : beAt b.bytes (2 + b.macKey.length + 8) 4 = b.lifetime.toNat := by
    have hright := beAt_append_right (beBytes 8 b.timestamp.toNat) (beBytes 4 b.lifetime.toNat) 0 4
    rw [length_beBytes] at hright
    rw [hrest, hright, ← append_nil (beBytes 4 _), beAt_beBytes b.lifetime.toNat_lt]
  rw [oauthBlock, hkeyLength, b.length_bytes, if_neg (by omega), if_neg (by omega),
    if_neg (by omega), hmacKey, htimestamp, hlifetime]
  simp

variable {plain : List UInt8}

lemma oauthBlock_length {b : OauthBlock} (h : oauthBlock plain = some b) :
    2 + b.macKey.length + 8 + 4 ≤ plain.length := by
  simp only [oauthBlock] at h
  split_ifs at h
  cases h
  rw [length_take]
  omega

/-! ## The cipher -/

variable {σ : Type} {step : σ → List UInt8 → Option (σ × List UInt8)} {s : σ} {input : List UInt8}
  {r : σ × List UInt8}

/-- A step that takes all its input is the only one. -/
lemma evpUpdate_of_step {n : ℕ} (hinput : input ≠ []) (hstep : step s input = some r)
    (hlen : r.2.length = input.length) : evpUpdate step (n + 2) s input = some r := by
  rw [evpUpdate, if_neg hinput, hstep, bind_some, hlen, drop_length, evpUpdate,
    if_pos rfl]
  simp

lemma evpUpdate_length (hstep : ∀ {s input r}, step s input = some r → r.2.length = input.length)
    {n : ℕ} (h : evpUpdate step (n + 2) s input = some r) : r.2.length = input.length := by
  by_cases hinput : input = []
  · rw [evpUpdate, if_pos hinput] at h
    cases h
    rw [hinput]
  · rw [evpUpdate, if_neg hinput, bind_eq_some_iff] at h
    obtain ⟨r', hr', h⟩ := h
    rw [hstep hr', drop_length, evpUpdate, if_pos rfl] at h
    cases h
    simp [hstep hr']

variable {gcm : Gcm} {e : gcm.Enc} {d : gcm.Dec}

lemma evpAad_mirrors (h : gcm.Mirrors e d) (name : List UInt8) :
    ∃ e' d', evpAad gcm.encAad e name = some e' ∧ evpAad gcm.decAad d name = some d' ∧
      gcm.Mirrors e' d' := by
  unfold evpAad
  generalize name.take (intBound name.length) = aad
  by_cases haad : aad = []
  · subst haad
    exact ⟨e, d, rfl, rfl, h⟩
  · refine ⟨_, _, ?_, ?_, gcm.mirrors_aad aad h⟩
    · rw [evpUpdate_of_step haad rfl rfl]
      rfl
    · rw [evpUpdate_of_step haad rfl rfl]
      rfl

lemma evpUpdate_mirrors (h : gcm.Mirrors e d) (hplain : plain ≠ []) :
    ∃ e' c d', evpUpdate (fun e p => some (gcm.encUpdate e p)) 127 e plain = some (e', c) ∧
      evpUpdate gcm.decUpdate 127 d c = some (d', plain) ∧ gcm.Mirrors e' d' ∧
      c.length = plain.length := by
  obtain ⟨d', hdec, hmirrors⟩ := gcm.mirrors_update plain h
  have hlen := gcm.encUpdate_length e plain
  have hc : (gcm.encUpdate e plain).2 ≠ [] := by
    rw [← length_pos_iff, hlen]
    exact length_pos_of_ne_nil hplain
  exact ⟨_, _, d', evpUpdate_of_step hplain rfl hlen, evpUpdate_of_step hc hdec hlen.symm, hmirrors,
    hlen⟩

/-! ## The token -/

/-- The parts of an encoded token are found again. -/
lemma decryptOauthToken_encoded (serverName : List UInt8) (key : OauthKey) (gcm : Gcm)
    (nonce : List.Vector UInt8 12) {b : OauthBlock} (hpos : 0 < b.macKey.length)
    (hkey : b.macKey.length ≤ 128) :
    ∃ t, encodeOauthTokenGcm serverName key gcm nonce b = some t ∧
      decryptOauthToken serverName key gcm t = some b.bytes := by
  have hlen := b.length_bytes
  obtain ⟨d₀, hinit, hmirrors⟩ := gcm.mirrors_init key.asRsKey nonce.toList nonce.toList_length
  obtain ⟨e₁, d₁, henc, hdec, hmirrors⟩ := evpAad_mirrors hmirrors serverName
  obtain ⟨e₂, c, d₂, hencrypt, hdecrypt, hmirrors, hc⟩ :=
    evpUpdate_mirrors hmirrors (ne_nil_of_length_pos (by omega : 0 < b.bytes.length))
  have htag : (gcm.tag e₂).toList.length = 16 := (gcm.tag e₂).toList_length
  have hnonce : nonce.toList.length = 12 := nonce.toList_length
  generalize htoken : beBytes 2 12 ++ (nonce.toList ++ (c ++ (gcm.tag e₂).toList)) = token
  have htlen : token.length = 44 + b.macKey.length := by
    rw [← htoken]
    simp [hc, hlen]
    omega
  refine ⟨⟨token, token.length, Nat.le_refl _⟩, ?_, ?_⟩
  · rw [encodeOauthTokenGcm, if_pos hkey, henc, bind_some, hencrypt]
    subst htoken
    rfl
  · have hnonceLen : beAt token 0 2 = 12 := htoken ▸ beAt_beBytes (by decide) _
    have hfield : (token.length - 12 - 2 - 16) % 2 ^ 32 = c.length := by omega
    have hafter : token.drop 2 = nonce.toList ++ (c ++ (gcm.tag e₂).toList) := by
      rw [← htoken, drop_left' (length_beBytes 2 12)]
    have hbody : token.drop (12 + 2) = c ++ (gcm.tag e₂).toList := by
      rw [Nat.add_comm, ← drop_drop, hafter, drop_left' hnonce]
    have hend : token.drop (12 + 2 + c.length) = (gcm.tag e₂).toList := by
      rw [← drop_drop, hbody, drop_left]
    simp only [decryptOauthToken, hnonceLen, hfield]
    rw [if_neg (by decide), if_neg (by omega), hafter, take_left' hnonce, hinit,
      bind_some, hdec, bind_some, hbody, intBound_eq (by omega), take_left,
      hdecrypt, bind_some, hend, take_of_length_le (by omega),
      if_pos (gcm.checkTag_tag hmirrors)]

lemma decryptOauthToken_length {serverName : List UInt8} {key : OauthKey} {t : EncodedOauthToken}
    (h : decryptOauthToken serverName key gcm t = some plain) :
    2 + beAt t.token 0 2 + plain.length + 16 ≤ t.size := by
  simp only [decryptOauthToken] at h
  split_ifs at h with hnonce hsize
  simp only [bind_eq_some_iff] at h
  obtain ⟨d, -, d', -, r, hr, h⟩ := h
  split_ifs at h
  cases h
  have hlen := evpUpdate_length gcm.decUpdate_length hr
  have hbound : intBound ((t.size - beAt t.token 0 2 - 2 - 16) % 2 ^ 32) ≤
      t.size - beAt t.token 0 2 - 2 - 16 := by
    rw [intBound]
    split_ifs <;> omega
  rw [length_take] at hlen
  omega

/-- A token with a key of 1 to 128 bytes is decoded as it was encoded. Whatever is decoded, the
declared parts fit in the size of the token and in the decrypted bytes. -/
theorem oauth_token_roundTrip (a256 a128 : Gcm) (serverName : List UInt8) (key : OauthKey) :
    (∀ gcm nonce b, getCipherType a256 a128 key.asRsAlg = some gcm → 0 < b.macKey.length →
      b.macKey.length ≤ 128 →
      ∃ t, encodeOauthToken a256 a128 serverName key nonce b = some t ∧
        decodeOauthToken a256 a128 serverName key t = some b) ∧
    ∀ t b, decodeOauthToken a256 a128 serverName key t = some b →
      ∃ gcm plain, getCipherType a256 a128 key.asRsAlg = some gcm ∧
        decryptOauthToken serverName key gcm t = some plain ∧ oauthBlock plain = some b ∧
        2 + beAt t.token 0 2 + plain.length + 16 ≤ t.size ∧
        2 + b.macKey.length + 8 + 4 ≤ plain.length := by
  constructor
  · intro gcm nonce b hcipher hpos hkey
    obtain ⟨t, hencode, hdecrypt⟩ := decryptOauthToken_encoded serverName key gcm nonce hpos hkey
    refine ⟨t, ?_, ?_⟩
    · rw [encodeOauthToken, hcipher, bind_some, hencode]
    · rw [decodeOauthToken, hcipher, bind_some, hdecrypt, bind_some,
        oauthBlock_bytes b hkey]
  · intro t b h
    simp only [decodeOauthToken, bind_eq_some_iff] at h
    obtain ⟨gcm, hcipher, plain, hdecrypt, hblock⟩ := h
    exact ⟨gcm, plain, hcipher, hdecrypt, hblock, decryptOauthToken_length hdecrypt,
      oauthBlock_length hblock⟩

/-- The cipher that changes nothing. -/
def plainGcm : Gcm where
  Enc := Unit
  Dec := Unit
  encInit _ _ := ()
  decInit _ _ := some ()
  encAad _ _ := ()
  decAad _ _ := ()
  encUpdate _ plain := ((), plain)
  decUpdate _ c := some ((), c)
  tag _ := .replicate 16 0
  checkTag _ _ := true
  Mirrors _ _ := True
  mirrors_init _ _ _ := ⟨(), rfl, trivial⟩
  mirrors_aad _ _ := trivial
  mirrors_update _ _ := ⟨(), rfl, trivial⟩
  checkTag_tag _ := rfl
  encUpdate_length _ _ := rfl
  decUpdate_length h := by cases h; rfl

theorem oauth_token_roundTrip_plain :
    ∃ t, encodeOauthToken plainGcm plainGcm [97] ⟨.a128gcm, [1]⟩ (.replicate 12 7) ⟨[5], 3, 600⟩ =
        some t ∧
      decodeOauthToken plainGcm plainGcm [97] ⟨.a128gcm, [1]⟩ t = some ⟨[5], 3, 600⟩ :=
  (oauth_token_roundTrip plainGcm plainGcm [97] ⟨.a128gcm, [1]⟩).1 plainGcm _ _ rfl (by decide)
    (by decide)

end Coturn
