/-
# Fingerprints

The table of `ns_crc32` is that of the division by the polynomial, so the update loop is the
register of `Lib/Crc.lean`. The walk over the attributes reads no transaction id and no value, so it
finds the same FINGERPRINT in messages that differ in one byte of these, and the check of one of
them fails.
-/
import Coturn.Lib.Crc
import Coturn.Stun.RoundTrip
import Mathlib.Data.List.TakeWhile

namespace Coturn

open ByteSeq List

variable {buf : List UInt8}

/-! ## The table -/

/-- The words of `crctable` as they are in the source. -/
def crctableWords : Array UInt32 :=
  #[0x00000000, 0x77073096, 0xee0e612c, 0x990951ba, 0x076dc419, 0x706af48f, 0xe963a535, 0x9e6495a3,
    0x0edb8832, 0x79dcb8a4, 0xe0d5e91e, 0x97d2d988, 0x09b64c2b, 0x7eb17cbd, 0xe7b82d07, 0x90bf1d91,
    0x1db71064, 0x6ab020f2, 0xf3b97148, 0x84be41de, 0x1adad47d, 0x6ddde4eb, 0xf4d4b551, 0x83d385c7,
    0x136c9856, 0x646ba8c0, 0xfd62f97a, 0x8a65c9ec, 0x14015c4f, 0x63066cd9, 0xfa0f3d63, 0x8d080df5,
    0x3b6e20c8, 0x4c69105e, 0xd56041e4, 0xa2677172, 0x3c03e4d1, 0x4b04d447, 0xd20d85fd, 0xa50ab56b,
    0x35b5a8fa, 0x42b2986c, 0xdbbbc9d6, 0xacbcf940, 0x32d86ce3, 0x45df5c75, 0xdcd60dcf, 0xabd13d59,
    0x26d930ac, 0x51de003a, 0xc8d75180, 0xbfd06116, 0x21b4f4b5, 0x56b3c423, 0xcfba9599, 0xb8bda50f,
    0x2802b89e, 0x5f058808, 0xc60cd9b2, 0xb10be924, 0x2f6f7c87, 0x58684c11, 0xc1611dab, 0xb6662d3d,
    0x76dc4190, 0x01db7106, 0x98d220bc, 0xefd5102a, 0x71b18589, 0x06b6b51f, 0x9fbfe4a5, 0xe8b8d433,
    0x7807c9a2, 0x0f00f934, 0x9609a88e, 0xe10e9818, 0x7f6a0dbb, 0x086d3d2d, 0x91646c97, 0xe6635c01,
    0x6b6b51f4, 0x1c6c6162, 0x856530d8, 0xf262004e, 0x6c0695ed, 0x1b01a57b, 0x8208f4c1, 0xf50fc457,
    0x65b0d9c6, 0x12b7e950, 0x8bbeb8ea, 0xfcb9887c, 0x62dd1ddf, 0x15da2d49, 0x8cd37cf3, 0xfbd44c65,
    0x4db26158, 0x3ab551ce, 0xa3bc0074, 0xd4bb30e2, 0x4adfa541, 0x3dd895d7, 0xa4d1c46d, 0xd3d6f4fb,
    0x4369e96a, 0x346ed9fc, 0xad678846, 0xda60b8d0, 0x44042d73, 0x33031de5, 0xaa0a4c5f, 0xdd0d7cc9,
    0x5005713c, 0x270241aa, 0xbe0b1010, 0xc90c2086, 0x5768b525, 0x206f85b3, 0xb966d409, 0xce61e49f,
    0x5edef90e, 0x29d9c998, 0xb0d09822, 0xc7d7a8b4, 0x59b33d17, 0x2eb40d81, 0xb7bd5c3b, 0xc0ba6cad,
    0xedb88320, 0x9abfb3b6, 0x03b6e20c, 0x74b1d29a, 0xead54739, 0x9dd277af, 0x04db2615, 0x73dc1683,
    0xe3630b12, 0x94643b84, 0x0d6d6a3e, 0x7a6a5aa8, 0xe40ecf0b, 0x9309ff9d, 0x0a00ae27, 0x7d079eb1,
    0xf00f9344, 0x8708a3d2, 0x1e01f268, 0x6906c2fe, 0xf762575d, 0x806567cb, 0x196c3671, 0x6e6b06e7,
    0xfed41b76, 0x89d32be0, 0x10da7a5a, 0x67dd4acc, 0xf9b9df6f, 0x8ebeeff9, 0x17b7be43, 0x60b08ed5,
    0xd6d6a3e8, 0xa1d1937e, 0x38d8c2c4, 0x4fdff252, 0xd1bb67f1, 0xa6bc5767, 0x3fb506dd, 0x48b2364b,
    0xd80d2bda, 0xaf0a1b4c, 0x36034af6, 0x41047a60, 0xdf60efc3, 0xa867df55, 0x316e8eef, 0x4669be79,
    0xcb61b38c, 0xbc66831a, 0x256fd2a0, 0x5268e236, 0xcc0c7795, 0xbb0b4703, 0x220216b9, 0x5505262f,
    0xc5ba3bbe, 0xb2bd0b28, 0x2bb45a92, 0x5cb36a04, 0xc2d7ffa7, 0xb5d0cf31, 0x2cd99e8b, 0x5bdeae1d,
    0x9b64c2b0, 0xec63f226, 0x756aa39c, 0x026d930a, 0x9c0906a9, 0xeb0e363f, 0x72076785, 0x05005713,
    0x95bf4a82, 0xe2b87a14, 0x7bb12bae, 0x0cb61b38, 0x92d28e9b, 0xe5d5be0d, 0x7cdcefb7, 0x0bdbdf21,
    0x86d3d2d4, 0xf1d4e242, 0x68ddb3f8, 0x1fda836e, 0x81be16cd, 0xf6b9265b, 0x6fb077e1, 0x18b74777,
    0x88085ae6, 0xff0f6a70, 0x66063bca, 0x11010b5c, 0x8f659eff, 0xf862ae69, 0x616bffd3, 0x166ccf45,
    0xa00ae278, 0xd70dd2ee, 0x4e048354, 0x3903b3c2, 0xa7672661, 0xd06016f7, 0x4969474d, 0x3e6e77db,
    0xaed16a4a, 0xd9d65adc, 0x40df0b66, 0x37d83bf0, 0xa9bcae53, 0xdebb9ec5, 0x47b2cf7f, 0x30b5ffe9,
    0xbdbdf21c, 0xcabac28a, 0x53b39330, 0x24b4a3a6, 0xbad03605, 0xcdd70693, 0x54de5729, 0x23d967bf,
    0xb3667a2e, 0xc4614ab8, 0x5d681b02, 0x2a6f2b94, 0xb40bbe37, 0xc30c8ea1, 0x5a05df1b, 0x2d02ef8d]

lemma crctable_eq_word (i : UInt8) : crctableWords[i.toNat]? = some (crctable i) := by
  have hwords : ∀ n < 256, crctableWords[n]? = some (crctable (UInt8.ofNat n)) := by decide +kernel
  have hword := hwords i.toNat i.toNat_lt
  rwa [UInt8.ofNat_toNat] at hword

def crcPoly : BitVec 32 := 0xEDB88320

lemma crcPoly_msb : crcPoly.msb = true := by decide

lemma toBitVec_bit (c : UInt32) :
    (if c &&& 1 = 1 then (c >>> 1) ^^^ (0xEDB88320 : UInt32) else c >>> 1).toBitVec =
      Crc.bitStep crcPoly c.toBitVec := by
  have hbit : c &&& 1 = 1 ↔ c.toBitVec.getLsbD 0 = true := by
    have hand : (c &&& 1).toBitVec = BitVec.setWidth 32 (BitVec.ofBool (c.toBitVec.getLsbD 0)) := by
      rw [UInt32.toBitVec_and]
      exact BitVec.and_one_eq_setWidth_ofBool_getLsbD
    rw [← UInt32.toBitVec_inj, hand]
    cases c.toBitVec.getLsbD 0 <;> decide
  rw [Crc.bitStep]
  by_cases hlow : c &&& 1 = 1
  · rw [if_pos hlow, if_pos (hbit.mp hlow)]
    rfl
  · rw [if_neg hlow, if_neg fun h => hlow (hbit.mpr h)]
    rfl

lemma toBitVec_crctable (i : UInt8) :
    (crctable i).toBitVec = Crc.byteStep crcPoly i.toUInt32.toBitVec := by
  have hrepeat : ∀ n c, (Nat.repeat (fun c : UInt32 =>
      if c &&& 1 = 1 then (c >>> 1) ^^^ (0xEDB88320 : UInt32) else c >>> 1) n c).toBitVec =
        (Crc.bitStep crcPoly)^[n] c.toBitVec := by
    intro n c
    induction n with
    | zero => rfl
    | succ n ih =>
      rw [Function.iterate_succ_apply', ← ih]
      exact toBitVec_bit _
  exact hrepeat 8 _

lemma toBitVec_updateCrc (crc : UInt32) (c : UInt8) :
    (updateCrc crc c).toBitVec = Crc.feed crcPoly crc.toBitVec c.toBitVec := by
  have hlow : (crc.toUInt8 ^^^ c).toUInt32.toBitVec =
      ((crc.toBitVec ^^^ c.toBitVec.setWidth 32).setWidth 8).setWidth 32 := by
    rw [BitVec.setWidth_xor, BitVec.setWidth_setWidth_of_le _ (by decide), BitVec.setWidth_eq]
    rfl
  have hhigh : (crc.toBitVec ^^^ c.toBitVec.setWidth 32) >>> 8 = crc.toBitVec >>> 8 := by
    refine BitVec.eq_of_getLsbD_eq fun i hi => ?_
    simp [BitVec.getLsbD_ushiftRight, BitVec.getLsbD_setWidth]
  rw [Crc.feed, Crc.byteStep_eq_table, hhigh, ← hlow, ← toBitVec_crctable]
  rfl

lemma toBitVec_foldl_updateCrc (buf : List UInt8) (crc : UInt32) :
    (buf.foldl updateCrc crc).toBitVec =
      (buf.map UInt8.toBitVec).foldl (Crc.feed crcPoly) crc.toBitVec := by
  induction buf generalizing crc with
  | nil => rfl
  | cons b buf ih => rw [foldl_cons, ih, toBitVec_updateCrc, map_cons, foldl_cons]

/-- A round of `ns_crc32` with the words of the source. -/
def updateCrcWords (crc : UInt32) (c : UInt8) : UInt32 :=
  crctableWords[(crc.toUInt8 ^^^ c).toNat]! ^^^ (crc >>> 8)

def nsCrc32Words (buf : List UInt8) : UInt32 := ~~~ (buf.foldl updateCrcWords 0xFFFFFFFF)

/-- The reflected CRC-32 bit by bit: a byte is added to the low end of the register, and eight bits
are shifted out. -/
def crc32Bitwise (buf : List UInt8) : BitVec 32 :=
  (buf.map UInt8.toBitVec).foldl (Crc.feed crcPoly) 0xFFFFFFFF ^^^ 0xFFFFFFFF

lemma updateCrcWords_eq : updateCrcWords = updateCrc := by
  ext1 crc
  ext1 c
  rw [updateCrcWords, getElem!_def, crctable_eq_word]
  rfl

/-- The CRC of the table is the bitwise one, and that of a longer message continues that of its
beginning. -/
theorem nsCrc32_bitwise (a b : List UInt8) :
    (nsCrc32Words a).toBitVec = crc32Bitwise a ∧ nsCrc32 a = nsCrc32Words a ∧
      nsCrc32Words (a ++ b) = ~~~ (b.foldl updateCrcWords (~~~ (nsCrc32Words a))) := by
  have hwords : nsCrc32Words a = nsCrc32 a := by rw [nsCrc32Words, updateCrcWords_eq, nsCrc32]
  refine ⟨?_, hwords.symm, ?_⟩
  · rw [hwords, nsCrc32, UInt32.toBitVec_not, toBitVec_foldl_updateCrc, crc32Bitwise]
    exact (BitVec.xor_allOnes).symm
  · rw [nsCrc32Words, nsCrc32Words, UInt32.not_not, foldl_append]

/-! ## A changed byte -/

/-- A fingerprint tells apart what differs in one byte. -/
lemma fingerprintValue_ne (before after : List UInt8) {a b : UInt8} (hne : a ≠ b) :
    fingerprintValue (before ++ a :: after) ≠ fingerprintValue (before ++ b :: after) := by
  intro h
  have hnat := congrArg beNat h
  have hfits : ∀ v : UInt32, v.toNat % 256 ^ 4 = v.toNat := fun v => Nat.mod_eq_of_lt v.toNat_lt
  rw [fingerprintValue, fingerprintValue, beNat_beBytes, beNat_beBytes, hfits, hfits] at hnat
  have hcrc : nsCrc32 (before ++ a :: after) = nsCrc32 (before ++ b :: after) :=
    (UInt32.xor_left_inj _).mp (UInt32.toNat_inj.mp hnat)
  have hregister := congrArg UInt32.toBitVec (UInt32.not_inj.mp hcrc)
  rw [toBitVec_foldl_updateCrc, toBitVec_foldl_updateCrc, map_append, map_append,
    map_cons, map_cons] at hregister
  exact Crc.foldl_feed_ne crcPoly crcPoly_msb (by decide) _ _ _
    (fun hbits => hne (UInt8.toBitVec_inj.mp hbits)) hregister

variable {i : ℕ} {sar : StunAttr}

lemma fingerprintValue_set {covered : List UInt8} {a b : UInt8} (ha : covered[i]? = some a)
    (hne : a ≠ b) : fingerprintValue (covered.set i b) ≠ fingerprintValue covered := by
  obtain ⟨hi, hget⟩ := List.getElem?_eq_some_iff.mp ha
  have hset : covered.set i b = covered.take i ++ b :: covered.drop (i + 1) :=
    set_eq_take_append_cons_drop.trans (if_pos hi)
  have hsplit : covered = covered.take i ++ a :: covered.drop (i + 1) := by
    rw [← hget, getElem_cons_drop, take_append_drop]
  rw [hset]
  nth_rewrite 3 [hsplit]
  exact fingerprintValue_ne _ _ hne.symm

lemma stunIsCommandMessage_set (hi : 8 ≤ i) (b : UInt8) :
    stunIsCommandMessage (buf.set i b) = stunIsCommandMessage buf := by
  simp only [stunIsCommandMessage, isCommandMessageWith, startsWithChannel, length_set]
  rw [beAt_set (by omega), beAt_set (by omega), beAt_set (by omega), beAt_set (by omega)]

lemma stunGetCommandMessageLen_set (hi : 8 ≤ i) (b : UInt8) :
    stunGetCommandMessageLen (buf.set i b) = stunGetCommandMessageLen buf := by
  simp only [stunGetCommandMessageLen, length_set]
  rw [beAt_set (by omega)]

lemma stunAttrs_set_tid (hi : 8 ≤ i) (hi' : i < stunHeaderLength) (b : UInt8) :
    stunAttrs (buf.set i b) = stunAttrs buf := by
  rw [stunAttrs, stunAttrs, stunGetCommandMessageLen_set hi]
  cases stunGetCommandMessageLen buf with
  | none => rfl
  | some n =>
    simp only
    rw [take_set, drop_set_of_lt hi']

lemma Encodes.walk_attr {off fuel : ℕ} {front chunk : List UInt8} {attrs : List StunAttr}
    (hfront : Encodes off front attrs) (hchunk : chunk.length = 4 + paddedLength (beAt chunk 2 2))
    (hfuel : (front ++ chunk).length ≤ fuel) (rest : List UInt8) :
    stunAttrWalk fuel off (front ++ chunk ++ rest) =
      attrs ++ ⟨off + front.length, beAt chunk 0 2, (chunk.drop 4).take (beAt chunk 2 2)⟩ ::
        stunAttrWalk (fuel - (attrs.length + 1)) (off + (front ++ chunk).length) rest := by
  have hattr : Encodes (off + front.length) (chunk ++ [])
      [⟨off + front.length, beAt chunk 0 2, (chunk.drop 4).take (beAt chunk 2 2)⟩] :=
    .cons hchunk (.nil _)
  rw [append_nil] at hattr
  have hboth := hfront.append hattr
  rw [hboth.walk (hboth.length_le.trans hfuel), append_assoc, singleton_append,
    length_append, List.length_singleton]

/-- A byte of a value is written: the other attributes stay, and so does the type of this one. -/
lemma stunAttrs_set_value {attrs attrs' : List StunAttr}
    (h : stunAttrs buf = attrs ++ sar :: attrs') (hi : sar.offset + 4 ≤ i)
    (hi' : i < sar.offset + 4 + sar.value.length) (b : UInt8) :
    ∃ sar', sar'.type = sar.type ∧ stunAttrs (buf.set i b) = attrs ++ sar' :: attrs' := by
  cases hlen : stunGetCommandMessageLen buf with
  | none =>
    rw [stunAttrs, hlen] at h
    simp at h
  | some n =>
    have hwalk : ∀ buf' : List UInt8, stunGetCommandMessageLen buf' = some n → stunAttrs buf' =
        stunAttrWalk n stunHeaderLength ((buf'.take n).drop stunHeaderLength) := by
      intro buf' hlen'
      rw [stunAttrs, hlen']
    rw [hwalk buf hlen] at h
    generalize hbody : (buf.take n).drop stunHeaderLength = body at h
    have hfuel : body.length ≤ n := by
      rw [← hbody, length_drop, length_take]
      omega
    obtain ⟨bytes, tail, rfl, hencodes, -⟩ :
      ∃ bytes tail, body = bytes ++ tail ∧
        Encodes stunHeaderLength bytes (stunAttrWalk n stunHeaderLength body) ∧ _ :=
      stunAttrWalk_encodes hfuel
    rw [h] at hencodes
    obtain ⟨front, back, rfl, hfront, hback⟩ := hencodes.split
    cases hback with
    | @cons _ chunk rest _ hchunk hrest =>
      simp only [Encodes.value_length hchunk] at hi hi'
      have hpad := le_paddedLength (beAt chunk 2 2)
      obtain ⟨j, rfl⟩ : ∃ j, i = stunHeaderLength + (front.length + (4 + j)) :=
        ⟨i - (stunHeaderLength + front.length + 4), by omega⟩
      rw [← append_assoc, append_assoc (front ++ chunk)] at h hbody hfuel
      -- the attribute with the new byte has the same header, and what follows is the same
      have htype : beAt (chunk.set (4 + j) b) 0 2 = beAt chunk 0 2 := beAt_set (by omega) chunk b
      have hfield : beAt (chunk.set (4 + j) b) 2 2 = beAt chunk 2 2 := beAt_set (by omega) chunk b
      have hbody' : ((buf.set (stunHeaderLength + (front.length + (4 + j))) b).take n).drop
          stunHeaderLength = front ++ chunk.set (4 + j) b ++ (rest ++ tail) := by
        rw [take_set, drop_set, if_neg (by omega), Nat.add_sub_cancel_left, hbody,
          append_assoc, set_append_right _ _ (by omega), Nat.add_sub_cancel_left,
          set_append_left _ _ (by omega), append_assoc]
      have hfits : (front ++ chunk).length ≤ n := by
        rw [length_append] at hfuel
        omega
      have hchunk' : (chunk.set (4 + j) b).length =
          4 + paddedLength (beAt (chunk.set (4 + j) b) 2 2) := by
        rw [hfield, length_set, hchunk]
      have hfits' : (front ++ chunk.set (4 + j) b).length ≤ n := by
        simpa only [length_append, length_set] using hfits
      have hafter := hfront.walk_attr hchunk' hfits' (rest ++ tail)
      rw [hfront.walk_attr hchunk hfits] at h
      obtain ⟨-, htail⟩ := List.cons.inj (append_cancel_left h)
      refine ⟨⟨stunHeaderLength + front.length, beAt (chunk.set (4 + j) b) 0 2,
        ((chunk.set (4 + j) b).drop 4).take (beAt (chunk.set (4 + j) b) 2 2)⟩, htype, ?_⟩
      rw [hwalk _ (by rw [stunGetCommandMessageLen_set (by unfold stunHeaderLength; omega), hlen]),
        hbody', hafter]
      simp only [length_append, length_set] at htail ⊢
      rw [htail]

/-! ## Round trip -/

/-- A byte of the transaction id, or of the value of an attribute before the first FINGERPRINT. -/
def FingerprintedByte (buf : List UInt8) (i : ℕ) : Prop :=
  (8 ≤ i ∧ i < stunHeaderLength) ∨
    ∃ sar ∈ (stunAttrs buf).takeWhile (·.type ≠ attrFingerprint),
      sar.offset + 4 ≤ i ∧ i < sar.offset + 4 + sar.value.length

/-- The first FINGERPRINT of a message with such a byte changed is the one that stood there. -/
lemma FingerprintedByte.first_set (hi : FingerprintedByte buf i) (b : UInt8) :
    stunAttrGetFirstByType (stunAttrs (buf.set i b)) attrFingerprint =
      stunAttrGetFirstByType (stunAttrs buf) attrFingerprint := by
  rcases hi with ⟨hi, hi'⟩ | ⟨sar, hsar, hi, hi'⟩
  · rw [stunAttrs_set_tid hi hi']
  · -- the attribute and those before it are no FINGERPRINT, and those after it stay
    obtain ⟨attrs, attrs', hsplit⟩ := append_of_mem hsar
    obtain ⟨rest, hwhole⟩ := takeWhile_prefix (l := stunAttrs buf)
      fun sar : StunAttr => decide (sar.type ≠ attrFingerprint)
    rw [hsplit, append_assoc, cons_append] at hwhole
    have hother : sar.type ≠ attrFingerprint := by simpa using mem_takeWhile_imp hsar
    obtain ⟨sar', htype, hset⟩ := stunAttrs_set_value hwhole.symm hi hi' b
    have hother' : sar'.type ≠ attrFingerprint := htype ▸ hother
    rw [hset, ← hwhole, stunAttrGetFirstByType, stunAttrGetFirstByType, find?_append,
      find?_append, find?_cons_of_neg (by simpa using hother'),
      find?_cons_of_neg (by simpa using hother)]

lemma fullCheck_of_first (hcommand : stunIsCommandMessage buf = true)
    (hfirst : stunAttrGetFirstByType (stunAttrs buf) attrFingerprint = some sar)
    (must present : Bool) :
    stunIsCommandMessageFullCheck buf must present =
      if sar.value.length = 4 ∧ sar.value = fingerprintValue (buf.take sar.offset) then (true, true)
      else (false, present) := by
  simp only [stunIsCommandMessageFullCheck, hcommand, hfirst]
  by_cases hfour : sar.value.length = 4
  · simp [hfour]
  · simp [hfour]

/-- An accepted message has a FINGERPRINT that is the CRC of what stands before it. -/
lemma fullCheck_accepted {must present : Bool}
    (hfirst : stunAttrGetFirstByType (stunAttrs buf) attrFingerprint = some sar)
    (h : (stunIsCommandMessageFullCheck buf must present).1 = true) :
    stunIsCommandMessage buf = true ∧ sar.value = fingerprintValue (buf.take sar.offset) := by
  have hcommand : stunIsCommandMessage buf = true := by
    cases hcase : stunIsCommandMessage buf with
    | false => simp [stunIsCommandMessageFullCheck, hcase] at h
    | true => rfl
  refine ⟨hcommand, ?_⟩
  rw [fullCheck_of_first hcommand hfirst] at h
  split_ifs at h with hvalue
  exact hvalue.2

lemma stunAttrs_pairwise (buf : List UInt8) :
    (stunAttrs buf).Pairwise fun sar sar' => sar.offset + 4 + sar.value.length ≤ sar'.offset := by
  rw [stunAttrs_eq_visited, pairwise_map]
  refine (stunAttrVisitFrom_pairwise buf _).imp fun {a a'} h => ?_
  have hpad := le_paddedLength (stunAttrGetLen buf a)
  have hvalue : (stunAttrGetValue buf a).length ≤ stunAttrGetLen buf a := length_take_le ..
  show a + 4 + (stunAttrGetValue buf a).length ≤ a'
  omega

lemma FingerprintedByte.lt_offset {fp : StunAttr} (hi : FingerprintedByte buf i)
    (hfirst : stunAttrGetFirstByType (stunAttrs buf) attrFingerprint = some fp) :
    8 ≤ i ∧ i < fp.offset := by
  have hheader : stunHeaderLength ≤ fp.offset := (stunAttrGetFirstByType_some hfirst).2.2.2.2.1
  rcases hi with ⟨hi, hi'⟩ | ⟨sar, hsar, hi, hi'⟩
  · omega
  · obtain ⟨hfp, before, after, hsplit, hbefore⟩ := find?_eq_some_iff_append.mp hfirst
    have htake : (stunAttrs buf).takeWhile (·.type ≠ attrFingerprint) = before := by
      rw [hsplit, takeWhile_append_of_pos, takeWhile_cons_of_neg, append_nil]
      · simpa using hfp
      · intro sar' hsar'
        simpa using hbefore sar' hsar'
    have hvisited : stunHeaderLength ≤ sar.offset := by
      have hmem : sar ∈ stunAttrs buf := ( takeWhile_prefix _).subset hsar
      rw [stunAttrs_eq_visited] at hmem
      obtain ⟨a, ha, rfl⟩ := mem_map.mp hmem
      exact (stunAttrVisited_inside ha).1
    have hpairwise := stunAttrs_pairwise buf
    rw [hsplit, pairwise_append] at hpairwise
    have hbelow := hpairwise.2.2 sar (htake ▸ hsar) fp mem_cons_self
    unfold stunHeaderLength at hvisited
    omega

/-- A fingerprint that has been added is accepted; when a byte that it covers is changed, the
message is not accepted any more. -/
theorem fingerprint_roundTrip :
    (∀ (buf : List UInt8) (attrs : List StunAttr), WellFormedMessage buf attrs →
      (∀ sar ∈ attrs, sar.type ≠ attrFingerprint) → buf.length + 8 < maxStunMessageSize →
      ∃ buf', stunAttrAddFingerprint buf = some buf' ∧
        ∀ must present, stunIsCommandMessageFullCheck buf' must present = (true, true)) ∧
    ∀ (buf : List UInt8) (must present : Bool) (i : ℕ) (a b : UInt8),
      (stunIsCommandMessageFullCheck buf must present).1 = true →
      (stunAttrGetFirstByType (stunAttrs buf) attrFingerprint).isSome = true →
      FingerprintedByte buf i → buf[i]? = some a → a ≠ b →
      ∀ must' present', (stunIsCommandMessageFullCheck (buf.set i b) must' present').1 = false := by
  constructor
  · intro buf attrs h hnone hroom
    have hlong := h.long
    obtain ⟨buf', hbuf'⟩ : ∃ buf', stunAttrAddFingerprint buf = some buf' := by
      rw [stunAttrAddFingerprint, stunAttrAdd_of_command h.command, if_neg]
      · exact ⟨_, rfl⟩
      · rw [attrBytes_length, length_replicate]
        have hfour : paddedLength 4 = 4 := by decide
        omega
    have hadd := stunAttrAddFingerprint_some h.command hbuf'
    obtain ⟨hmessage, hbytes⟩ := h.add (by decide) hadd
    have hlength : (attrBytes attrFingerprint (fingerprintValue
        (stunSetCommandMessageLen buf (buf.length + 8)))).length = 8 := by
      rw [attrBytes_length, fingerprintValue_length]
      rfl
    have hfirst : stunAttrGetFirstByType (stunAttrs buf') attrFingerprint =
        some ⟨buf.length, attrFingerprint,
          fingerprintValue (stunSetCommandMessageLen buf (buf.length + 8))⟩ := by
      rw [hmessage.attrs, stunAttrGetFirstByType, find?_append, find?_eq_none.mpr]
      · simp
      · intro sar hsar
        simpa using hnone sar hsar
    have hcovered : buf'.take buf.length = stunSetCommandMessageLen buf (buf.length + 8) := by
      rw [hbytes, hlength]
      exact take_left' (stunSetCommandMessageLen_length _ (by omega))
    refine ⟨buf', hbuf', fun must present => ?_⟩
    rw [fullCheck_of_first hmessage.command hfirst, if_pos]
    exact ⟨fingerprintValue_length _, by rw [hcovered]⟩
  · intro buf must present i a b haccepted hpresent hi ha hne must' present'
    obtain ⟨fp, hfp⟩ := Option.isSome_iff_exists.mp hpresent
    obtain ⟨hcommand, hvalue⟩ := fullCheck_accepted hfp haccepted
    obtain ⟨hcookie, hlt⟩ := hi.lt_offset hfp
    have hcommand' : stunIsCommandMessage (buf.set i b) = true := by
      rw [stunIsCommandMessage_set hcookie, hcommand]
    have hfp' := (hi.first_set b).trans hfp
    -- the two CRCs differ, and the FINGERPRINT is the same
    have hcovered : (buf.take fp.offset)[i]? = some a := by
      rw [getElem?_take_of_lt hlt, ha]
    have hdiffers := fingerprintValue_set hcovered hne
    rw [fullCheck_of_first hcommand' hfp', if_neg]
    rintro ⟨-, hvalue'⟩
    rw [take_set] at hvalue'
    exact hdiffers (hvalue'.symm.trans hvalue)

/-- A binding request with a SOFTWARE attribute. -/
def softwareRequest : Option (List UInt8) :=
  stunAttrAdd (stunInitCommand 1 (List.replicate 12 0)) attrSoftware [1, 2, 3]

/-- The request gets a fingerprint, and then a byte of the attribute is changed. -/
theorem fingerprint_roundTrip_software :
    ∃ buf buf', softwareRequest = some buf ∧
      stunAttrAddFingerprint buf = some buf' ∧
      stunIsCommandMessageFullCheck buf' true false = (true, true) ∧
      (stunIsCommandMessageFullCheck (buf'.set 25 7) false false).1 = false := by
  obtain ⟨buf, hbuf⟩ := Option.isSome_iff_exists.mp (show softwareRequest.isSome = true by decide)
  have hempty := stunInitCommand_wellFormed 1 (length_replicate (n := 12) (a := (0 : UInt8)))
  have hmessage := (hempty.add (by decide) hbuf).1
  have hroom : ∀ buf ∈ softwareRequest,
      buf.length + 8 < maxStunMessageSize := by decide
  obtain ⟨buf', hbuf', hcheck⟩ := fingerprint_roundTrip.1 buf _ hmessage (by simp)
    (hroom buf hbuf)
  have hall : ∀ buf ∈ softwareRequest,
      ∀ buf' ∈ stunAttrAddFingerprint buf,
        (stunAttrGetFirstByType (stunAttrs buf') attrFingerprint).isSome = true ∧
        (stunAttrs buf').takeWhile (·.type ≠ attrFingerprint) = [⟨20, attrSoftware, [1, 2, 3]⟩] ∧
        buf'[25]? = some 2 := by decide +kernel
  obtain ⟨hpresent, hbefore, hbyte⟩ := hall buf hbuf buf' hbuf'
  refine ⟨buf, buf', hbuf, hbuf', hcheck true false, ?_⟩
  refine fingerprint_roundTrip.2 buf' true false 25 2 7 (by rw [hcheck]) hpresent (Or.inr ?_) hbyte
    (by decide) false false
  rw [hbefore]
  exact ⟨_, mem_singleton_self _, by decide, by decide⟩

end Coturn
