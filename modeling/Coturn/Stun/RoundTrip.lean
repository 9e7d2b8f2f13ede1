/-
# Messages that are built and read back

The writers and the readers of `client/ns_turn_msg.c` together: the attributes that were added to a
message are those that the walk visits, and a message whose integrity attribute was written with a
key passes the check with it, also when a fingerprint was added afterwards. The check rewrites the
length in the header, so it returns the buffer too.
-/
import Coturn.Stun.Walk
import Coturn.Stun.Integrity

namespace Coturn

open ByteSeq List

/-! ## Added attributes -/

variable {buf avalue : List UInt8} {attrs : List StunAttr} {sar : StunAttr} {attr n : ℕ}

lemma startsWithChannel_of_lt (h : beAt buf 0 2 < 0x4000) : startsWithChannel buf = false := by
  simp [startsWithChannel, h]

lemma stunInitCommand_wellFormed (messageType : ℕ) {tid : List UInt8} (htid : tid.length = 12) :
    WellFormedMessage (stunInitCommand messageType tid) [] := by
  have hlength : (stunInitCommand messageType tid).length = stunHeaderLength := by
    simp [stunInitCommand, oldStunInitCommand, htid, stunHeaderLength]
  have htype : messageType &&& 0x3FFF < 2 ^ 14 := Nat.and_lt_two_pow _ (by decide)
  have hfield : beAt (stunInitCommand messageType tid) 2 2 = 0 := by
    have hright := beAt_append_right (beBytes 2 (messageType &&& 0x3FFF))
      (beBytes 2 0 ++ (beBytes 4 stunMagicCookie ++ tid)) 0 2
    rw [length_beBytes, beAt_beBytes (by decide)] at hright
    rw [stunInitCommand, oldStunInitCommand, append_assoc, append_assoc]
    exact hright
  refine ⟨stunIsCommandMessage_iff.mpr ⟨hlength.ge, ?_, ?_, ?_, ?_, ?_⟩, ?_⟩
  · refine startsWithChannel_of_lt ?_
    rw [stunInitCommand, oldStunInitCommand, append_assoc, append_assoc,
      beAt_beBytes (by omega)]
    exact htype
  · -- the type has no more than fourteen bits, so the two upper bits of the first byte are clear
    have hbyte : beAt (stunInitCommand messageType tid) 0 1 = (messageType &&& 0x3FFF) / 256 := by
      have hlt : (messageType &&& 0x3FFF) / 256 < 256 := by omega
      simp [stunInitCommand, oldStunInitCommand, beAt, beBytes, Nat.mod_eq_of_lt hlt]
    have hclear : ∀ n < 64, n &&& 0xC0 = 0 := by decide
    rw [hbyte]
    exact hclear _ (by omega)
  · have hright := beAt_append_right (beBytes 2 (messageType &&& 0x3FFF) ++ beBytes 2 0)
      (beBytes 4 stunMagicCookie ++ tid) 0 4
    rw [beAt_beBytes (by decide), length_append, length_beBytes, length_beBytes] at hright
    rw [stunInitCommand, oldStunInitCommand, append_assoc]
    exact hright
  · rw [hfield]
    rfl
  · rw [hfield, hlength, Nat.zero_add]
  · rw [drop_eq_nil_of_le hlength.le]
    exact .nil _

/-- The bytes between the value of an attribute and the next attribute. -/
def paddingBytes (buf : List UInt8) (attr : ℕ) : List UInt8 :=
  (buf.drop (attr + 4 + stunAttrGetLen buf attr)).take
    (paddedLength (stunAttrGetLen buf attr) - stunAttrGetLen buf attr)

/-- Every padding byte of the attributes is zero. -/
def ZeroPadded (buf : List UInt8) (attrs : List StunAttr) : Prop :=
  ∀ sar ∈ attrs, ∀ b ∈ paddingBytes buf sar.offset, b = 0

lemma stunAttrVisited_value_length {a : ℕ} (ha : a ∈ stunAttrVisited buf) :
    (stunAttrGetValue buf a).length = stunAttrGetLen buf a := by
  have hinside : _ ≤ min _ _ := (stunAttrVisited_inside ha).2
  have hpad := le_paddedLength (stunAttrGetLen buf a)
  rw [stunAttrGetValue, length_take, length_drop]
  omega

lemma WellFormedMessage.visited
    (h : WellFormedMessage buf attrs) : (stunAttrVisited buf).map (stunAttrAt buf) = attrs := by
  rw [← stunAttrs_eq_visited, h.attrs]

lemma WellFormedMessage.at (h : WellFormedMessage buf attrs) (hsar : sar ∈ attrs) :
    sar.offset ∈ stunAttrVisited buf ∧ stunAttrAt buf sar.offset = sar := by
  rw [← h.visited] at hsar
  obtain ⟨a, ha, rfl⟩ := mem_map.mp hsar
  exact ⟨ha, rfl⟩

/-- One more attribute leaves the padding of the others as it is, and its own padding is zero. -/
lemma ZeroPadded.add {buf' : List UInt8} (hzero : ZeroPadded buf attrs)
    (h : WellFormedMessage buf attrs) (hattr : attr < 2 ^ 16)
    (hadd : stunAttrAdd buf attr avalue = some buf') :
    ZeroPadded buf' (attrs ++ [⟨buf.length, attr, avalue⟩]) := by
  obtain ⟨hnew, hbytes⟩ := h.add hattr hadd
  have hlong := h.long
  generalize hhead : stunSetCommandMessageLen buf (buf.length + (attrBytes attr avalue).length) =
    head at hbytes
  have hlength : head.length = buf.length := by
    rw [← hhead]
    exact stunSetCommandMessageLen_length _ (by omega)
  have hdrop : ∀ n, 4 ≤ n → head.drop n = buf.drop n := by
    intro n hn
    rw [← hhead]
    exact stunSetCommandMessageLen_drop _ hn (by omega)
  intro sar hsar b hb
  rcases mem_append.mp hsar with hold | hlast
  · have hinside := stunAttrVisited_inside (h.at hold).1
    obtain ⟨hoff, hinside⟩ : 20 ≤ sar.offset ∧ _ ≤ min _ _ := hinside
    have hpad := le_paddedLength (stunAttrGetLen buf sar.offset)
    have hfield : stunAttrGetLen buf' sar.offset = stunAttrGetLen buf sar.offset := by
      rw [hbytes, stunAttrGetLen, beAt_append_left (by omega), stunAttrGetLen, beAt,
        hdrop _ (by omega), beAt]
    refine hzero sar hold b ?_
    rw [paddingBytes, hfield, hbytes, drop_append_of_le_length (by omega), hdrop _ (by omega),
      take_append_of_le_length] at hb
    · exact hb
    · rw [length_drop]
      omega
  · -- the bytes after the added value are those that were written there
    obtain rfl := mem_singleton.mp hlast
    obtain ⟨hvisited, hat⟩ := hnew.at hsar
    have hlen : stunAttrGetLen buf' buf.length = avalue.length := by
      rw [← stunAttrVisited_value_length hvisited]
      exact congrArg (fun sar => sar.value.length) hat
    have hpadding : paddingBytes buf' buf.length =
        List.replicate (paddedLength avalue.length - avalue.length) 0 := by
      rw [paddingBytes, hlen, hbytes, Nat.add_assoc, ← hlength, ← drop_drop, drop_left,
        attrBytes, drop_left' (by simp; omega), take_of_length_le (by simp)]
    rw [hpadding] at hb
    exact eq_of_mem_replicate hb

lemma stunAttrAdd_foldlM {buf' : List UInt8} (h : WellFormedMessage buf attrs)
    (hzero : ZeroPadded buf attrs) (pairs : List (UInt16 × List UInt8))
    (hadd : pairs.foldlM (fun buf a => stunAttrAdd buf a.1.toNat a.2) buf = some buf') :
    ∃ added, WellFormedMessage buf' (attrs ++ added) ∧ ZeroPadded buf' (attrs ++ added) ∧
      added.map (fun sar => (sar.type, sar.value)) = pairs.map fun a => (a.1.toNat, a.2) := by
  induction pairs generalizing buf attrs with
  | nil =>
    obtain rfl : buf = buf' := Option.some.inj hadd
    refine ⟨[], ?_, ?_, rfl⟩
    · rwa [append_nil]
    · rwa [append_nil]
  | cons a pairs ih =>
    rw [foldlM_cons] at hadd
    obtain ⟨next, hfirst, hrest⟩ := Option.bind_eq_some_iff.mp hadd
    have htype : a.1.toNat < 2 ^ 16 := a.1.toNat_lt
    obtain ⟨added, hmessage, hpadded, hpairs⟩ :=
      ih (h.add htype hfirst).1 (hzero.add h htype hfirst) hrest
    rw [append_assoc] at hmessage hpadded
    refine ⟨_ :: added, hmessage, hpadded, ?_⟩
    rw [map_cons, map_cons, hpairs]

/-- The walk visits the attributes that were added, in order; the padding is zero; the length in the
header is right; the message is accepted; and an attribute that does not fit is not added. -/
theorem stunAttrAdd_walk (messageType : UInt16) (tid : List.Vector UInt8 12)
    (pairs : List (UInt16 × List UInt8)) (buf : List UInt8)
    (hadd : pairs.foldlM (fun buf a => stunAttrAdd buf a.1.toNat a.2)
      (stunInitCommand messageType.toNat tid.toList) = some buf) :
    ((stunAttrVisited buf).map fun a =>
        (stunAttrGetType buf a, stunAttrGetLen buf a, stunAttrGetValue buf a)) =
      pairs.map (fun a => (a.1.toNat, a.2.length, a.2)) ∧
    (∀ a ∈ stunAttrVisited buf, ∀ b ∈ paddingBytes buf a, b = 0) ∧
    beAt buf 2 2 % 4 = 0 ∧ beAt buf 2 2 + stunHeaderLength = buf.length ∧
    stunIsCommandMessage buf = true ∧
    ∀ (attr : UInt16) (avalue : List UInt8),
      if buf.length + 4 + paddedLength avalue.length < maxStunMessageSize then
        (stunAttrAddStr buf attr.toNat avalue).1 = true
      else stunAttrAddStr buf attr.toNat avalue = (false, buf) := by
  have hinit := stunInitCommand_wellFormed messageType.toNat tid.toList_length
  obtain ⟨added, hmessage, hpadded, hpairs⟩ :=
    stunAttrAdd_foldlM hinit (fun sar hsar => absurd hsar not_mem_nil) pairs hadd
  rw [nil_append] at hmessage hpadded
  obtain ⟨-, -, -, -, hmod, hlen⟩ := stunIsCommandMessage_iff.mp hmessage.command
  rw [and_three] at hmod
  refine ⟨?_, ?_, hmod, hlen, hmessage.command, ?_⟩
  · have htriple : ∀ a ∈ stunAttrVisited buf,
        (stunAttrGetType buf a, stunAttrGetLen buf a, stunAttrGetValue buf a) =
          (fun sar : StunAttr => (sar.type, sar.value.length, sar.value)) (stunAttrAt buf a) := by
      intro a ha
      rw [← stunAttrVisited_value_length ha]
      rfl
    have hvalues : added.map (fun sar => (sar.type, sar.value.length, sar.value)) =
        pairs.map fun a => (a.1.toNat, a.2.length, a.2) := by
      have hcong := congrArg (List.map fun p : ℕ × List UInt8 => (p.1, p.2.length, p.2)) hpairs
      rwa [map_map, map_map] at hcong
    rw [map_congr_left htriple, ← hvalues, ← hmessage.visited, map_map]
    rfl
  · intro a ha
    refine hpadded (stunAttrAt buf a) ?_
    rw [← hmessage.visited]
    exact mem_map_of_mem ha
  · intro attr avalue
    rw [stunAttrAddStr, stunAttrAdd_of_command hmessage.command, attrBytes_length, ← Nat.add_assoc]
    by_cases hfits : buf.length + 4 + paddedLength avalue.length < maxStunMessageSize
    · rw [if_pos hfits, if_neg (by omega)]
    · rw [if_neg hfits, if_pos (by omega)]

/-- Two attributes are added, the first one with three bytes of padding. -/
theorem stunAttrAdd_walk_two :
    ∃ buf : List UInt8,
      [((0x0006 : UInt16), [(0x61 : UInt8)]), (0x0013, [1, 2, 3, 4])].foldlM
        (fun buf a => stunAttrAdd buf a.1.toNat a.2)
        (stunInitCommand 1 (List.Vector.replicate 12 0).toList) = some buf ∧
      ((stunAttrVisited buf).map fun a =>
          (stunAttrGetType buf a, stunAttrGetLen buf a, stunAttrGetValue buf a)) =
        [(0x0006, 1, [0x61]), (0x0013, 4, [1, 2, 3, 4])] := by
  obtain ⟨buf, hbuf⟩ := Option.isSome_iff_exists.mp
    (show ([((0x0006 : UInt16), [(0x61 : UInt8)]), (0x0013, [1, 2, 3, 4])].foldlM
      (fun buf a => stunAttrAdd buf a.1.toNat a.2)
      (stunInitCommand 1 (List.Vector.replicate 12 0).toList)).isSome = true by decide +kernel)
  exact ⟨buf, hbuf, (stunAttrAdd_walk 1 (List.Vector.replicate 12 0) _ buf hbuf).1⟩

/-! ## Addresses -/

lemma WellFormedMessage.add_tid {buf' : List UInt8} (h : WellFormedMessage buf attrs)
    (hattr : attr < 2 ^ 16) (hadd : stunAttrAdd buf attr avalue = some buf') :
    stunTidFromMessage buf' = stunTidFromMessage buf := by
  have hlong := h.long
  rw [(h.add hattr hadd).2]
  generalize hlen : buf.length + (attrBytes attr avalue).length = len
  have hlength : (stunSetCommandMessageLen buf len).length = buf.length :=
    stunSetCommandMessageLen_length _ (by omega)
  rw [stunTidFromMessage, stunTidFromMessage, drop_append_of_le_length (by omega),
    stunSetCommandMessageLen_drop _ (by omega) (by omega), take_append_of_le_length]
  rw [length_drop]
  omega

lemma stunInitCommand_tid (messageType : ℕ) {tid : List UInt8} (htid : tid.length = 12) :
    stunTidFromMessage (stunInitCommand messageType tid) = tid := by
  rw [stunTidFromMessage, stunInitCommand, oldStunInitCommand, drop_left' (by simp),
    take_of_length_le htid.le]

lemma unmask_unmask (field mask : List UInt8) (i j : ℕ) :
    unmask field mask i j ^^^ mask.getD j 0 = field.getD i 0 := by
  rw [unmask, UInt8.xor_assoc, UInt8.xor_self, UInt8.xor_zero]

lemma getD_masked (header ip mask : List UInt8) {i : ℕ} (hi : i < ip.length) :
    unmask (header ++ (List.range ip.length).map fun k => unmask ip mask k k) mask
      (header.length + i) i = ip.getD i 0 := by
  have hget : (header ++ (List.range ip.length).map fun k => unmask ip mask k k).getD
      (header.length + i) 0 = unmask ip mask i i := by
    simp [getD_eq_getElem?_getD, hi]
  rw [unmask, hget, unmask_unmask]

lemma ofFn_masked (header : List UInt8) (ip : List.Vector UInt8 n) (mask : List UInt8) :
    (List.Vector.ofFn fun i : Fin n =>
      unmask (header ++ (List.range ip.toList.length).map fun k => unmask ip.toList mask k k) mask
        (header.length + i) i) = ip := by
  refine List.Vector.ext fun i => ?_
  have hi : (i : ℕ) < ip.toList.length := by
    rw [ip.toList_length]
    exact i.isLt
  rw [List.Vector.get_ofFn, getD_masked header ip.toList mask hi, getD_eq_getElem?_getD,
    getElem?_eq_getElem hi, Option.getD_some, List.Vector.get_eq_get_toList]
  rfl

lemma ofNat_masked (port : UInt16) (a b : UInt8) (tail mask : List UInt8) :
    UInt16.ofNat (beNat
      [unmask (a :: b :: unmask (beBytes 2 port.toNat) mask 0 0 ::
          unmask (beBytes 2 port.toNat) mask 1 1 :: tail) mask 2 0,
        unmask (a :: b :: unmask (beBytes 2 port.toNat) mask 0 0 ::
          unmask (beBytes 2 port.toNat) mask 1 1 :: tail) mask 3 1]) = port := by
  have hbytes : [unmask (beBytes 2 port.toNat) mask 0 0 ^^^ mask.getD 0 0,
      unmask (beBytes 2 port.toNat) mask 1 1 ^^^ mask.getD 1 0] = beBytes 2 port.toNat := by
    rw [unmask_unmask, unmask_unmask]
    rfl
  refine (congrArg (fun l => UInt16.ofNat (beNat l)) hbytes).trans ?_
  have hmod : port.toNat % 256 ^ 2 = port.toNat := Nat.mod_eq_of_lt port.toNat_lt
  rw [beNat_beBytes, hmod, UInt16.ofNat_toNat]

lemma stunAddrDecode_encode {addr : IoaAddr} (haddr : addr.IsInet) (xored : Bool)
    (tid : List UInt8) :
    stunAddrDecode (stunAddrEncode addr xored tid) xored tid = some addr := by
  cases addr with
  | unset => exact absurd haddr (by decide)
  | s4 ip port =>
    have hlength : (stunAddrEncode (.s4 ip port) xored tid).length = 8 := by
      simp [stunAddrEncode, IoaAddr.family, IoaAddr.bytes]
    have hfamily : beAt (stunAddrEncode (.s4 ip port) xored tid) 1 1 = 1 := rfl
    have hzero : beAt (stunAddrEncode (.s4 ip port) xored tid) 0 1 = 0 := rfl
    rw [stunAddrDecode, if_neg (by omega), if_neg (not_not.mpr hzero), hfamily]
    simp only
    rw [if_neg (not_not.mpr hlength)]
    refine congrArg some ?_
    rw [IoaAddr.s4.injEq]
    exact ⟨ofFn_masked _ ip _, ofNat_masked port _ _ _ _⟩
  | s6 ip port =>
    have hlength : (stunAddrEncode (.s6 ip port) xored tid).length = 20 := by
      simp [stunAddrEncode, IoaAddr.family, IoaAddr.bytes]
    have hfamily : beAt (stunAddrEncode (.s6 ip port) xored tid) 1 1 = 2 := rfl
    have hzero : beAt (stunAddrEncode (.s6 ip port) xored tid) 0 1 = 0 := rfl
    rw [stunAddrDecode, if_neg (by omega), if_neg (not_not.mpr hzero), hfamily]
    simp only
    rw [if_neg (not_not.mpr hlength)]
    refine congrArg some ?_
    rw [IoaAddr.s6.injEq]
    exact ⟨ofFn_masked _ ip _, ofNat_masked port _ _ _ _⟩

/-! ## Message integrity with any hash -/

/-- The types of which `stun_calculate_hmac` knows the hash. -/
inductive Shatype where
  | sha1
  | sha256
  | sha384
  | sha512
  deriving DecidableEq, Repr

namespace Shatype

def sizeBytes : Shatype → ℕ
  | sha1 => sha1SizeBytes
  | sha256 => 32
  | sha384 => 48
  | sha512 => 64

def hmackeySize : Shatype → ℕ
  | sha1 => getHmackeySize
  | sha256 => 32
  | sha384 => 48
  | sha512 => 64

def ofSize? : ℕ → Option Shatype
  | 32 => some sha256
  | 48 => some sha384
  | 64 => some sha512
  | 20 => some sha1
  | _ => none

lemma ofSize?_eq_some_iff {t : Shatype} : ofSize? n = some t ↔ n = t.sizeBytes := by
  constructor
  · intro h
    unfold ofSize? at h
    split at h <;> cases h <;> rfl
  · rintro rfl
    cases t <;> rfl

lemma sizeBytes_mod (t : Shatype) : t.sizeBytes % 4 = 0 := by
  cases t <;> rfl

end Shatype

variable {shatype : Shatype}

/-- What `stun_calculate_hmac` writes for a key and the covered bytes, or that it fails. -/
abbrev CalculateHmac : Type :=
  (shatype : Shatype) → List UInt8 → List UInt8 → Option (List.Vector UInt8 shatype.sizeBytes)

/-- The key of the HMAC: the password up to its end with short-term credentials, otherwise a part
of the key array. -/
def hmacKey (shortTerm : Bool) (key pwd : List UInt8) (shatype : Shatype) : List UInt8 :=
  if shortTerm then pwd.takeWhile (· ≠ 0) else key.take shatype.hmackeySize

variable (calculateHmac : CalculateHmac)

/-- The attribute is added with zeros, in whose place the HMAC of what stands before it is written.
-/
def stunAttrAddIntegrityStr (shortTerm : Bool) (buf key pwd : List UInt8) (shatype : Shatype) :
    Bool × List UInt8 :=
  match stunAttrAdd buf attrMessageIntegrity (List.replicate shatype.sizeBytes 0) with
  | none => (false, buf)
  | some buf =>
    match calculateHmac shatype (hmacKey shortTerm key pwd shatype)
      (buf.take (buf.length - 4 - shatype.sizeBytes)) with
    | none => (false, buf)
    | some hmac => (true, buf.take (buf.length - shatype.sizeBytes) ++ hmac.toList)

/-- The result of the check and the buffer after it. -/
def stunCheckMessageIntegrityByKeyStr (shortTerm : Bool) (buf key pwd : List UInt8)
    (shatype : Shatype) : ℤ × List UInt8 :=
  match stunAttrGetFirstByTypeStr buf attrMessageIntegrity with
  | none => (-1, buf)
  | some sar =>
    match Shatype.ofSize? (stunAttrGetLen buf sar) with
    | none => (-1, buf)
    | some found =>
      if shatype ≠ found then (-1, buf)
      else
        match stunGetCommandMessageLen buf with
        | none => (-1, buf)
        | some origLen =>
          let newLen := sar + 4 + shatype.sizeBytes
          if origLen < newLen then (-1, buf)
          else if newLen < stunHeaderLength then (-1, buf)
          else
            let buf := stunSetCommandMessageLen buf newLen
            let newHmac := calculateHmac shatype (hmacKey shortTerm key pwd shatype)
              (buf.take (newLen - 4 - shatype.sizeBytes))
            -- the length is put back before the result is looked at
            let buf := stunSetCommandMessageLen buf origLen
            match newHmac with
            | none => (-1, buf)
            | some newHmac =>
              if (stunAttrGetValue buf sar).take shatype.sizeBytes ≠ newHmac.toList then (0, buf)
              else (1, buf)

/-! ## The length is put back -/

lemma stunSetCommandMessageLen_append (rest : List UInt8) {a b : ℕ}
    (hbuf : 4 ≤ buf.length) (hb : stunHeaderLength ≤ b) :
    stunSetCommandMessageLen (stunSetCommandMessageLen buf a ++ rest) b =
      stunSetCommandMessageLen buf b ++ rest := by
  have hlength := stunSetCommandMessageLen_length a hbuf
  rw [stunSetCommandMessageLen_eq hb, stunSetCommandMessageLen_eq hb,
    take_append_of_le_length (by omega), stunSetCommandMessageLen_take a le_rfl hbuf,
    drop_append_of_le_length (by omega), stunSetCommandMessageLen_drop a le_rfl hbuf]
  simp only [append_assoc]

lemma stunSetCommandMessageLen_self
    (h : stunGetCommandMessageLen buf = some n) : stunSetCommandMessageLen buf n = buf := by
  obtain ⟨hn, hle⟩ := stunGetCommandMessageLen_some h
  have hlong : stunHeaderLength ≤ buf.length := by omega
  unfold stunHeaderLength at hlong
  have hfield : ((buf.drop 2).take 2).length = 2 := by
    rw [length_take, length_drop]
    omega
  rw [stunSetCommandMessageLen_eq (by omega), hn, Nat.add_sub_cancel_left, beAt,
    beBytes_beNat hfield, append_assoc]
  have hdrop : buf.drop 4 = (buf.drop 2).drop 2 := by rw [drop_drop]
  rw [hdrop, take_append_drop, take_append_drop]

lemma stunSetCommandMessageLen_restore (h : stunGetCommandMessageLen buf = some n) (m : ℕ) :
    stunSetCommandMessageLen (stunSetCommandMessageLen buf m) n = buf := by
  obtain ⟨hn, hle⟩ := stunGetCommandMessageLen_some h
  have hlong : stunHeaderLength ≤ buf.length := by omega
  unfold stunHeaderLength at hlong
  have happend := stunSetCommandMessageLen_append [] (show 4 ≤ buf.length by omega)
    (show stunHeaderLength ≤ n by omega) (a := m)
  rw [append_nil, append_nil] at happend
  rw [happend, stunSetCommandMessageLen_self h]

lemma stunCheckMessageIntegrityByKeyStr_buffer (shortTerm : Bool) (buf key pwd : List UInt8)
    (shatype : Shatype) :
    (stunCheckMessageIntegrityByKeyStr calculateHmac shortTerm buf key pwd shatype).2 = buf := by
  unfold stunCheckMessageIntegrityByKeyStr
  split
  · rfl
  · split
    · rfl
    · split_ifs
      · rfl
      · split
        · rfl
        · next origLen horig =>
          -- from here on the header was rewritten once, and then again
          simp only [stunSetCommandMessageLen_restore horig]
          split_ifs
          · rfl
          · rfl
          · split
            · rfl
            · split_ifs <;> rfl

/-! ## The check after the writing -/

lemma stunAttrGetFirstByType_eq (buf : List UInt8) (attrType : ℕ) :
    stunAttrGetFirstByType (stunAttrs buf) attrType =
      (stunAttrGetFirstByTypeStr buf attrType).map (stunAttrAt buf) := by
  rw [stunAttrGetFirstByType, stunAttrs_eq_visited, find?_map, stunAttrGetFirstByTypeStr,
    stunAttrFindFrom_eq]
  rfl

lemma stunAttrGetFirstByType_some {attrType : ℕ}
    (h : stunAttrGetFirstByType (stunAttrs buf) attrType = some sar) :
    stunAttrGetFirstByTypeStr buf attrType = some sar.offset ∧
      stunAttrGetValue buf sar.offset = sar.value ∧
      stunAttrGetLen buf sar.offset = sar.value.length ∧
      stunGetCommandMessageLen buf = some (stunHeaderLength + beAt buf 2 2) ∧
      stunHeaderLength ≤ sar.offset ∧
      sar.offset + 4 + paddedLength sar.value.length ≤ stunHeaderLength + beAt buf 2 2 := by
  rw [stunAttrGetFirstByType_eq] at h
  obtain ⟨a, ha, rfl⟩ := Option.map_eq_some_iff.mp h
  have hvisited : a ∈ stunAttrVisited buf := by
    rw [stunAttrGetFirstByTypeStr, stunAttrFindFrom_eq] at ha
    exact mem_of_find?_eq_some ha
  have hlen : stunAttrGetLen buf a = (stunAttrGetValue buf a).length :=
    (stunAttrVisited_value_length hvisited).symm
  obtain ⟨hoff, hinside⟩ : stunHeaderLength ≤ a ∧ _ ≤ min _ _ := stunAttrVisited_inside hvisited
  refine ⟨ha, rfl, hlen, ?_, hoff, ?_⟩
  · cases hmessage : stunGetCommandMessageLen buf with
    | none => simp [stunAttrGetFirstByTypeStr, stunAttrGetFirst, hmessage, stunAttrFindFrom] at ha
    | some n => rw [(stunGetCommandMessageLen_some hmessage).1]
  · show a + 4 + paddedLength (stunAttrGetValue buf a).length ≤ _
    rw [← hlen]
    omega

variable (hmac : (shatype : Shatype) → List UInt8 → List UInt8 → List.Vector UInt8 shatype.sizeBytes)

def totalHmac : CalculateHmac := fun shatype key covered => some (hmac shatype key covered)

/-- The check compares the value with the HMAC of the bytes before it, under a changed header. -/
lemma stunCheckMessageIntegrityByKeyStr_of_first (shortTerm : Bool) (key pwd : List UInt8)
    (hfirst : stunAttrGetFirstByType (stunAttrs buf) attrMessageIntegrity = some sar)
    (hsize : sar.value.length = shatype.sizeBytes) :
    (stunCheckMessageIntegrityByKeyStr (totalHmac hmac) shortTerm buf key pwd shatype).1 =
      if sar.value = (hmac shatype (hmacKey shortTerm key pwd shatype)
        ((stunSetCommandMessageLen buf (sar.offset + 4 + shatype.sizeBytes)).take
          sar.offset)).toList then 1
      else 0 := by
  obtain ⟨hfound, hvalue, hlen, horig, hoff, hinside⟩ := stunAttrGetFirstByType_some hfirst
  rw [hsize] at hlen hinside
  have hpad := le_paddedLength shatype.sizeBytes
  have hcovered : sar.offset + 4 + shatype.sizeBytes - 4 - shatype.sizeBytes = sar.offset := by
    omega
  unfold stunCheckMessageIntegrityByKeyStr
  simp only [hfound, Shatype.ofSize?_eq_some_iff.mpr hlen, horig, ne_eq, not_true_eq_false,
    if_false, totalHmac, hcovered, stunSetCommandMessageLen_restore horig, ite_not, hvalue]
  rw [if_neg (by omega), if_neg (by omega), take_of_length_le hsize.le]
  split_ifs <;> rfl

lemma stunCheckMessageIntegrityByKeyStr_of_other {calculateHmac : CalculateHmac} (shortTerm : Bool)
    (key pwd : List UInt8)
    (hfirst : stunAttrGetFirstByType (stunAttrs buf) attrMessageIntegrity = some sar)
    (hsize : sar.value.length ≠ shatype.sizeBytes) :
    (stunCheckMessageIntegrityByKeyStr calculateHmac shortTerm buf key pwd shatype).1 = -1 := by
  obtain ⟨hfound, -, hlen, -⟩ := stunAttrGetFirstByType_some hfirst
  rw [stunCheckMessageIntegrityByKeyStr]
  simp only [hfound]
  cases hof : Shatype.ofSize? (stunAttrGetLen buf sar.offset) with
  | none => rfl
  | some found =>
    have hother : shatype ≠ found := by
      rintro rfl
      exact hsize (hlen ▸ Shatype.ofSize?_eq_some_iff.mp hof)
    simp only
    rw [if_pos hother]

lemma attrBytes_of_mod (attr : ℕ) (hmod : avalue.length % 4 = 0) :
    attrBytes attr avalue = (beBytes 2 attr ++ beBytes 2 avalue.length) ++ avalue := by
  have hpadded : paddedLength avalue.length - avalue.length = 0 := by
    unfold paddedLength
    omega
  rw [attrBytes, hpadded, replicate_zero, append_nil]

/-- To add an attribute and then to write over its value is to add it with the new value. -/
lemma stunAttrAdd_overwrite {buf' old : List UInt8} (new : List UInt8)
    (h : stunIsCommandMessage buf = true) (hlen : old.length = new.length)
    (hmod : new.length % 4 = 0) (hadd : stunAttrAdd buf attr old = some buf') :
    stunAttrAdd buf attr new = some (buf'.take (buf'.length - new.length) ++ new) ∧
      buf'.take (buf'.length - 4 - new.length) =
        stunSetCommandMessageLen buf (buf.length + 4 + new.length) := by
  have hlong : 20 ≤ buf.length := (stunIsCommandMessage_iff.mp h).1
  have hsame : (attrBytes attr old).length = (attrBytes attr new).length := by
    rw [attrBytes_length, attrBytes_length, hlen]
  have htotal : buf.length + (attrBytes attr new).length = buf.length + 4 + new.length := by
    rw [attrBytes_of_mod attr hmod]
    simp only [length_append, length_beBytes]
    omega
  rw [stunAttrAdd_of_command h, hsame] at hadd
  rw [stunAttrAdd_of_command h]
  split_ifs at hadd ⊢ with hmax
  obtain rfl := Option.some.inj hadd
  rw [htotal, attrBytes_of_mod attr hmod, attrBytes_of_mod attr (hlen ▸ hmod), hlen]
  generalize stunSetCommandMessageLen buf (buf.length + 4 + new.length) = head
  have hfour : (beBytes 2 attr ++ beBytes 2 new.length).length = 4 := by simp
  generalize beBytes 2 attr ++ beBytes 2 new.length = fields at hfour
  constructor
  · have htake : (head ++ (fields ++ old)).take ((head ++ (fields ++ old)).length - new.length) =
        head ++ fields := by
      rw [← append_assoc]
      refine take_left' ?_
      simp only [length_append, hlen]
      omega
    rw [htake, append_assoc]
  · refine take_left' ?_
    simp only [length_append, hfour, hlen]
    omega

lemma fingerprintValue_length (covered : List UInt8) : (fingerprintValue covered).length = 4 := by
  rw [fingerprintValue, length_beBytes]

lemma stunAttrAddFingerprint_some {buf' : List UInt8} (h : stunIsCommandMessage buf = true)
    (hadd : stunAttrAddFingerprint buf = some buf') :
    stunAttrAdd buf attrFingerprint
      (fingerprintValue (stunSetCommandMessageLen buf (buf.length + 8))) = some buf' := by
  rw [stunAttrAddFingerprint] at hadd
  obtain ⟨zeros, hzeros, rfl⟩ := Option.map_eq_some_iff.mp hadd
  have hlen := fingerprintValue_length
  obtain ⟨hover, hcovered⟩ := stunAttrAdd_overwrite
    (fingerprintValue (zeros.take (zeros.length - 8))) h (by rw [hlen]; rfl) (by rw [hlen]) hzeros
  rw [hlen] at hover hcovered
  have hbytes : zeros.take (zeros.length - 8) = stunSetCommandMessageLen buf (buf.length + 8) := by
    rw [← hcovered, Nat.sub_sub]
  rw [hbytes] at hover ⊢
  exact hover

/-- A message that begins with signed bytes passes the check, whatever attributes follow. -/
lemma stunCheckMessageIntegrityByKeyStr_signed {rest : List UInt8} {tail : List StunAttr} {len : ℕ}
    (shortTerm : Bool) (key pwd : List UInt8)
    {value : List UInt8} (hbuf : 4 ≤ buf.length)
    (hvalue : value = (hmac shatype (hmacKey shortTerm key pwd shatype)
      (stunSetCommandMessageLen buf (buf.length + 4 + shatype.sizeBytes))).toList)
    (hnone : ∀ sar ∈ attrs, sar.type ≠ attrMessageIntegrity)
    (h : WellFormedMessage (stunSetCommandMessageLen buf len ++ rest)
      (attrs ++ ⟨buf.length, attrMessageIntegrity, value⟩ :: tail)) :
    (stunCheckMessageIntegrityByKeyStr (totalHmac hmac) shortTerm
      (stunSetCommandMessageLen buf len ++ rest) key pwd shatype).1 = 1 := by
  have hfirst : stunAttrGetFirstByType (stunAttrs (stunSetCommandMessageLen buf len ++ rest))
      attrMessageIntegrity = some ⟨buf.length, attrMessageIntegrity, value⟩ := by
    rw [h.attrs, stunAttrGetFirstByType, find?_append, find?_eq_none.mpr]
    · simp
    · intro sar hsar
      simpa using hnone sar hsar
  have hsize : value.length = shatype.sizeBytes := by
    rw [hvalue]
    exact List.Vector.toList_length _
  have hlong : stunHeaderLength ≤ buf.length := (stunAttrGetFirstByType_some hfirst).2.2.2.2.1
  rw [stunCheckMessageIntegrityByKeyStr_of_first hmac shortTerm key pwd hfirst hsize, if_pos]
  -- the covered bytes are those that were signed
  have hnew : stunHeaderLength ≤ buf.length + 4 + shatype.sizeBytes := by omega
  show value = _
  rw [stunSetCommandMessageLen_append rest hbuf hnew,
    take_left' (stunSetCommandMessageLen_length _ hbuf)]
  exact hvalue

/-- The server signs with SHA-1 and long-term credentials. -/
lemma stunAttrAddIntegrity_eq (buf key pwd : List UInt8) :
    stunAttrAddIntegrity (fun key covered => (hmac .sha1 key covered).toList) buf key =
      (stunAttrAddIntegrityStr (totalHmac hmac) false buf key pwd .sha1).2 := by
  unfold stunAttrAddIntegrity stunAttrAddIntegrityStr
  cases hadd : stunAttrAdd buf attrMessageIntegrity (List.replicate sha1SizeBytes 0) with
  | none => simp only [Shatype.sizeBytes, hadd]
  | some zeros =>
    simp only [Shatype.sizeBytes, hadd, totalHmac]
    rfl

lemma stunCheckMessageIntegrityByKey_eq (buf key pwd : List UInt8) :
    (stunCheckMessageIntegrityByKeyStr (totalHmac hmac) false buf key pwd .sha1).1 =
      match stunCheckMessageIntegrityByKey (fun key covered => (hmac .sha1 key covered).toList)
        buf key with
      | none => -1
      | some right => if right then 1 else 0 := by
  rw [stunCheckMessageIntegrityByKey]
  cases hfirst : stunAttrGetFirstByType (stunAttrs buf) attrMessageIntegrity with
  | none =>
    rw [stunAttrGetFirstByType_eq, Option.map_eq_none_iff] at hfirst
    rw [stunCheckMessageIntegrityByKeyStr, hfirst]
  | some sar =>
    by_cases hsize : sar.value.length = Shatype.sha1.sizeBytes
    · obtain ⟨-, -, -, horig, -, hinside⟩ := stunAttrGetFirstByType_some hfirst
      have hpad := le_paddedLength sar.value.length
      have hsha : sar.value.length = sha1SizeBytes := hsize
      have hfits : ¬ stunHeaderLength + beAt buf 2 2 < sar.offset + 4 + sha1SizeBytes := by omega
      rw [stunCheckMessageIntegrityByKeyStr_of_first hmac false key pwd hfirst hsize]
      simp only [hsha, ne_eq, not_true_eq_false, if_false, horig, hfits, decide_eq_true_eq]
      rfl
    · have hsha : sar.value.length ≠ sha1SizeBytes := hsize
      rw [stunCheckMessageIntegrityByKeyStr_of_other false key pwd hfirst hsize]
      simp only [hsha, ne_eq, not_false_eq_true, if_true]

lemma stunAttrAddIntegrityStr_of_no_room (shortTerm : Bool)
    (key pwd : List UInt8) (h : stunIsCommandMessage buf = true)
    (hroom : maxStunMessageSize ≤ buf.length + 4 + shatype.sizeBytes) :
    stunAttrAddIntegrityStr (totalHmac hmac) shortTerm buf key pwd shatype = (false, buf) := by
  have hmod := shatype.sizeBytes_mod
  rw [stunAttrAddIntegrityStr, stunAttrAdd_of_command h, if_pos]
  rw [attrBytes_of_mod _ (by rw [length_replicate]; exact hmod)]
  simp only [length_append, length_beBytes, length_replicate]
  omega

lemma stunAttrAddIntegrityStr_of_room
    (shortTerm : Bool) (key pwd : List UInt8) (h : WellFormedMessage buf attrs)
    (hroom : buf.length + 4 + shatype.sizeBytes < maxStunMessageSize) :
    ∃ value buf', value = (hmac shatype (hmacKey shortTerm key pwd shatype)
        (stunSetCommandMessageLen buf (buf.length + 4 + shatype.sizeBytes))).toList ∧
      stunAttrAddIntegrityStr (totalHmac hmac) shortTerm buf key pwd shatype = (true, buf') ∧
      WellFormedMessage buf' (attrs ++ [⟨buf.length, attrMessageIntegrity, value⟩]) ∧
      buf' = stunSetCommandMessageLen buf (buf.length +
        (attrBytes attrMessageIntegrity value).length) ++ attrBytes attrMessageIntegrity value := by
  have hmod := shatype.sizeBytes_mod
  generalize hsigned : hmac shatype (hmacKey shortTerm key pwd shatype)
    (stunSetCommandMessageLen buf (buf.length + 4 + shatype.sizeBytes)) = signed
  have hsize : signed.toList.length = shatype.sizeBytes := signed.toList_length
  obtain ⟨zeros, hzeros⟩ : ∃ zeros, stunAttrAdd buf attrMessageIntegrity
      (List.replicate shatype.sizeBytes 0) = some zeros := by
    rw [stunAttrAdd_of_command h.command, if_neg]
    · exact ⟨_, rfl⟩
    · rw [attrBytes_of_mod _ (by rw [length_replicate]; exact hmod)]
      simp only [length_append, length_beBytes, length_replicate]
      omega
  obtain ⟨hover, hcovered⟩ := stunAttrAdd_overwrite signed.toList h.command
    (by rw [length_replicate, hsize]) (by rw [hsize]; exact hmod) hzeros
  rw [hsize] at hover hcovered
  have hadd : stunAttrAddIntegrityStr (totalHmac hmac) shortTerm buf key pwd shatype =
      (true, zeros.take (zeros.length - shatype.sizeBytes) ++ signed.toList) := by
    rw [stunAttrAddIntegrityStr, hzeros]
    simp only [totalHmac, hcovered]
    rw [← hsigned]
  exact ⟨_, _, rfl, hadd, h.add (by decide) hover⟩

/-- A signed message passes the check, also with a fingerprint behind the signature; and the check
leaves every buffer as it was. -/
theorem integrity_roundTrip :
    (∀ (buf : List UInt8) (attrs : List StunAttr) (key pwd pwd' : List UInt8) (shatype : Shatype),
      WellFormedMessage buf attrs → (∀ sar ∈ attrs, sar.type ≠ attrMessageIntegrity) →
      buf.length + 4 + shatype.sizeBytes < maxStunMessageSize →
      ∃ buf', stunAttrAddIntegrityStr (totalHmac hmac) false buf key pwd shatype = (true, buf') ∧
        (stunCheckMessageIntegrityByKeyStr (totalHmac hmac) false buf' key pwd' shatype).1 = 1 ∧
        ∀ buf'', stunAttrAddFingerprint buf' = some buf'' →
          (stunCheckMessageIntegrityByKeyStr (totalHmac hmac) false buf'' key pwd' shatype).1 =
            1) ∧
    ∀ (calculateHmac : CalculateHmac) (shortTerm : Bool) (buf key pwd : List UInt8)
      (shatype : Shatype),
      (stunCheckMessageIntegrityByKeyStr calculateHmac shortTerm buf key pwd shatype).2 = buf := by
  refine ⟨?_, stunCheckMessageIntegrityByKeyStr_buffer⟩
  intro buf attrs key pwd pwd' shatype h hnone hroom
  have hlong := h.long
  obtain ⟨value, buf', hright, hadd, hmessage, hbytes⟩ :=
    stunAttrAddIntegrityStr_of_room hmac false key pwd h hroom
  refine ⟨buf', hadd, ?_, ?_⟩
  · rw [hbytes] at hmessage ⊢
    exact stunCheckMessageIntegrityByKeyStr_signed hmac false key pwd' (by omega) hright hnone
      hmessage
  · intro buf'' hfinger
    obtain ⟨hmessage'', hbytes''⟩ :=
      hmessage.add (by decide) (stunAttrAddFingerprint_some hmessage.command hfinger)
    generalize fingerprintValue _ = fingerprint at hmessage'' hbytes''
    have hheader := (stunIsCommandMessage_iff.mp hmessage.command).1.trans
      (Nat.le_add_right _ (attrBytes attrFingerprint fingerprint).length)
    rw [append_assoc, singleton_append] at hmessage''
    rw [hbytes] at hheader
    rw [hbytes, stunSetCommandMessageLen_append _ (by omega) hheader, append_assoc] at hbytes''
    rw [hbytes''] at hmessage'' ⊢
    exact stunCheckMessageIntegrityByKeyStr_signed hmac false key pwd' (by omega) hright hnone
      hmessage''

/-- A binding request without attributes is signed. -/
theorem integrity_roundTrip_request :
    ∃ buf', stunAttrAddIntegrityStr (totalHmac fun _ _ _ => List.Vector.replicate _ 7) false
        (stunInitCommand 1 (List.replicate 12 0)) [] [] .sha256 = (true, buf') ∧
      (stunCheckMessageIntegrityByKeyStr (totalHmac fun _ _ _ => List.Vector.replicate _ 7) false
        buf' [] [] .sha256).1 = 1 := by
  obtain ⟨buf', hadd, hcheck, -⟩ := (integrity_roundTrip
    fun _ _ _ => List.Vector.replicate _ 7).1 (stunInitCommand 1 (List.replicate 12 0)) [] [] [] []
    .sha256
    (stunInitCommand_wellFormed 1 (length_replicate ..)) (by simp) (by decide)
  exact ⟨buf', hadd, hcheck⟩

end Coturn
