/-
# What follows MESSAGE-INTEGRITY

A message with attributes after its first MESSAGE-INTEGRITY is compared with the message that ends
there, apart from the FINGERPRINT attributes, which stay, with the checksum of what is left. The two
have the same header but for the length, the same attributes up to the HMAC, and the same covered
bytes.
-/
import Coturn.Stun.Codec
import Coturn.Stun.Integrity
import Mathlib.Data.List.TakeWhile

namespace Coturn

open ByteSeq List

/-! ## The message without the other attributes -/

/-- The attributes that the HMAC covers. -/
def beforeIntegrity (attrs : List StunAttr) : List StunAttr :=
  attrs.takeWhile fun sar => sar.type != attrMessageIntegrity

/-- The first MESSAGE-INTEGRITY and all that follows. -/
def fromIntegrity (attrs : List StunAttr) : List StunAttr :=
  attrs.dropWhile fun sar => sar.type != attrMessageIntegrity

def trailingAttrs (attrs : List StunAttr) : List StunAttr := (fromIntegrity attrs).tail

/-- Where an attribute ends, padding included. -/
def StunAttr.stop (sar : StunAttr) : ℕ := sar.offset + 4 + paddedLength sar.value.length

/-- The bytes of FINGERPRINT attributes after the given bytes; the first one gets the right
value. -/
def fingerprintBytes (covered : List UInt8) : List StunAttr → List UInt8
  | [] => []
  | sar :: others =>
    attrBytes attrFingerprint
        (if sar.value.length = 4 then fingerprintValue covered else sar.value) ++
      others.flatMap fun sar => attrBytes attrFingerprint sar.value

/-- The message up to the end of the attribute `mi`, when the given attributes follow. -/
def coveredPart (buf : List UInt8) (mi : StunAttr) (kept : List StunAttr) : List UInt8 :=
  stunSetCommandMessageLen (buf.take mi.stop)
    (mi.stop + (kept.flatMap fun sar => attrBytes attrFingerprint sar.value).length)

/-- The message without the attributes after its first MESSAGE-INTEGRITY, except for FINGERPRINT. -/
def withoutTrailing (buf : List UInt8) : List UInt8 :=
  if !stunIsCommandMessage buf then buf
  else
    match fromIntegrity (stunAttrs buf) with
    | [] => buf
    | mi :: trailing =>
      let kept := trailing.filter fun sar => sar.type == attrFingerprint
      coveredPart buf mi kept ++ fingerprintBytes (coveredPart buf mi kept) kept

lemma beforeIntegrity_append (attrs : List StunAttr) :
    beforeIntegrity attrs ++ fromIntegrity attrs = attrs :=
  takeWhile_append_dropWhile

lemma fromIntegrity_head {attrs rest : List StunAttr} {mi : StunAttr}
    (h : fromIntegrity attrs = mi :: rest) : mi.type = attrMessageIntegrity := by
  have hnot := head?_dropWhile_not (fun sar : StunAttr => sar.type != attrMessageIntegrity)
    attrs
  rw [← fromIntegrity, h] at hnot
  simpa using hnot

/-! ## Two messages that agree but for the length -/

/-- The first `n` bytes agree, but for the length in the header. -/
structure AgreeUpTo (n : ℕ) (buf buf' : List UInt8) : Prop where
  header : stunHeaderLength ≤ n
  left : n ≤ buf.length
  right : n ≤ buf'.length
  start : buf'.take 2 = buf.take 2
  rest : (buf'.drop 4).take (n - 4) = (buf.drop 4).take (n - 4)

namespace AgreeUpTo

variable {n : ℕ} {buf buf' : List UInt8} (h : AgreeUpTo n buf buf')
include h

lemma long : 20 ≤ n ∧ n ≤ buf.length ∧ n ≤ buf'.length := ⟨h.header, h.left, h.right⟩

lemma beAt_start {k : ℕ} (hk : k ≤ 2) : beAt buf' 0 k = beAt buf 0 k := by
  rw [← beAt_take (n := 2) (by omega) buf', h.start, beAt_take (by omega)]

lemma beAt_rest {i k : ℕ} (hi : 4 ≤ i) (hk : i + k ≤ n) : beAt buf' i k = beAt buf i k := by
  obtain ⟨j, rfl⟩ := Nat.exists_eq_add_of_le hi
  rw [← beAt_drop, ← beAt_drop, ← beAt_take (n := n - 4) (by omega) (buf'.drop 4), h.rest,
    beAt_take (by omega)]

lemma drop_take {i k : ℕ} (hi : 4 ≤ i) (hk : i + k ≤ n) :
    (buf'.drop i).take k = (buf.drop i).take k := by
  obtain ⟨j, rfl⟩ := Nat.exists_eq_add_of_le hi
  have hpart : ∀ x : List UInt8,
      (x.drop (4 + j)).take k = (((x.drop 4).take (n - 4)).drop j).take k := by
    intro x
    rw [List.drop_take, take_take, drop_drop, Nat.min_eq_left (by omega)]
  rw [hpart, hpart, h.rest]

lemma startsWithChannel_eq : startsWithChannel buf' = startsWithChannel buf := by
  rw [startsWithChannel, h.beAt_start le_rfl, startsWithChannel]

lemma stunGetMethod_eq : stunGetMethod buf' = stunGetMethod buf := by
  have hlong := h.long
  rw [stunGetMethod, if_neg (by omega), h.beAt_start le_rfl, stunGetMethod, if_neg (by omega)]

lemma stunGetMsgType_eq : stunGetMsgType buf' = stunGetMsgType buf := by
  have hlong := h.long
  rw [stunGetMsgType, if_neg (by omega), h.beAt_start le_rfl, stunGetMsgType, if_neg (by omega)]

lemma isChannelMsg_eq : isChannelMsg buf' = isChannelMsg buf := by
  have hlong := h.long
  rw [isChannelMsg, isChannelMsg, h.startsWithChannel_eq, decide_eq_true (by omega),
    decide_eq_true (by omega)]

lemma stunIsRequest_eq : stunIsRequest buf' = stunIsRequest buf := by
  rw [stunIsRequest, stunIsRequest, h.isChannelMsg_eq, h.stunGetMsgType_eq]

lemma stunIsIndication_eq : stunIsIndication buf' = stunIsIndication buf := by
  rw [stunIsIndication, stunIsIndication, h.isChannelMsg_eq, h.stunGetMsgType_eq]

lemma stunTidFromMessage_eq : stunTidFromMessage buf' = stunTidFromMessage buf :=
  h.drop_take (by decide) h.header

lemma stunSetCommandMessageLen_eq_take {len k : ℕ} (hlen : stunHeaderLength ≤ len) (hk : 4 ≤ k)
    (hkn : k ≤ n) :
    (stunSetCommandMessageLen buf' len).take k = (stunSetCommandMessageLen buf len).take k := by
  have hlong := h.long
  have hpart : ∀ x : List UInt8, n ≤ x.length → (stunSetCommandMessageLen x len).take k =
      x.take 2 ++ beBytes 2 (len - stunHeaderLength) ++ (x.drop 4).take (k - 4) := by
    intro x hx
    have hfour : (x.take 2 ++ beBytes 2 (len - stunHeaderLength)).length = 4 := by
      rw [length_append, length_beBytes, length_take]
      omega
    rw [stunSetCommandMessageLen_eq hlen, take_append, hfour,
      take_of_length_le (by omega)]
  rw [hpart _ h.right, hpart _ h.left, h.start, h.drop_take le_rfl (by omega)]

end AgreeUpTo

/-! ## The parts of the message without the other attributes -/

lemma Encodes.value_lt {off : ℕ} {bytes : List UInt8} {attrs : List StunAttr}
    (h : Encodes off bytes attrs) : ∀ sar ∈ attrs, sar.value.length < 2 ^ 16 := by
  induction h with
  | nil => exact fun sar hsar => absurd hsar not_mem_nil
  | @cons off chunk bytes attrs hlen _ ih =>
    intro sar hsar
    rcases mem_cons.mp hsar with rfl | hsar
    · rw [Encodes.value_length hlen]
      exact beAt_lt chunk 2 2
    · exact ih sar hsar

lemma Encodes.le_offset {off : ℕ} {bytes : List UInt8} {attrs : List StunAttr}
    (h : Encodes off bytes attrs) : ∀ sar ∈ attrs, off ≤ sar.offset := by
  induction h with
  | nil => exact fun sar hsar => absurd hsar not_mem_nil
  | cons hlen _ ih =>
    intro sar hsar
    rcases mem_cons.mp hsar with rfl | hsar
    · exact le_rfl
    · exact (Nat.le_add_right ..).trans (ih sar hsar)

lemma Encodes.filter_length_le {off : ℕ} {bytes : List UInt8} {attrs : List StunAttr}
    (h : Encodes off bytes attrs) (attr : ℕ) (p : StunAttr → Bool) :
    ((attrs.filter p).flatMap fun sar => attrBytes attr sar.value).length ≤ bytes.length := by
  induction h with
  | nil => exact le_rfl
  | @cons off chunk bytes attrs hlen _ ih =>
    rw [length_append, filter_cons]
    split
    · rw [flatMap_cons, length_append, attrBytes_length, Encodes.value_length hlen, hlen]
      omega
    · omega

lemma Encodes.stop_last {off : ℕ} {bytes : List UInt8} {attrs : List StunAttr} {sar : StunAttr}
    (h : Encodes off bytes (attrs ++ [sar])) : sar.stop = off + bytes.length := by
  obtain ⟨bytes₁, bytes₂, rfl, -, hlast⟩ := h.split
  obtain ⟨hlength, hoffset⟩ := hlast.length_singleton
  rw [StunAttr.stop, hoffset, length_append, hlength]
  omega

lemma flatMap_attrBytes_encodes (off : ℕ) {fps : List StunAttr}
    (hlt : ∀ sar ∈ fps, sar.value.length < 2 ^ 16) :
    ∃ attrs, Encodes off (fps.flatMap fun sar => attrBytes attrFingerprint sar.value) attrs ∧
      ∀ sar ∈ attrs, sar.type = attrFingerprint := by
  induction fps generalizing off with
  | nil => exact ⟨[], .nil off, fun sar hsar => absurd hsar not_mem_nil⟩
  | cons fp fps ih =>
    have hfirst := attrBytes_encodes off (by decide : attrFingerprint < 2 ^ 16)
      (hlt fp (mem_cons_self ..))
    obtain ⟨attrs, hrest, htypes⟩ := ih
      (off + (attrBytes attrFingerprint fp.value).length)
      fun sar hsar => hlt sar (mem_cons_of_mem _ hsar)
    refine ⟨_, hfirst.append hrest, ?_⟩
    intro sar hsar
    rcases mem_cons.mp hsar with rfl | hsar
    · rfl
    · exact htypes sar hsar

lemma fingerprintBytes_encodes (off : ℕ) (covered : List UInt8) {fps : List StunAttr}
    (hlt : ∀ sar ∈ fps, sar.value.length < 2 ^ 16) :
    (fingerprintBytes covered fps).length =
        (fps.flatMap fun sar => attrBytes attrFingerprint sar.value).length ∧
      ∃ attrs, Encodes off (fingerprintBytes covered fps) attrs ∧
        (∀ sar ∈ attrs, sar.type = attrFingerprint) ∧ (fps = [] → attrs = []) ∧
        ∀ fp others, fps = fp :: others → fp.value.length = 4 →
          ∃ rest, attrs = ⟨off, attrFingerprint, fingerprintValue covered⟩ :: rest := by
  cases fps with
  | nil =>
    refine ⟨rfl, [], .nil off, fun sar hsar => absurd hsar not_mem_nil, fun _ => rfl, ?_⟩
    intro fp others heq
    cases heq
  | cons fp others =>
    have hvalue : (if fp.value.length = 4 then fingerprintValue covered else fp.value).length =
        fp.value.length := by
      split_ifs with hfour
      · rw [hfour, fingerprintValue, length_beBytes]
      · rfl
    have hfirst := attrBytes_encodes off (by decide : attrFingerprint < 2 ^ 16)
      (hvalue ▸ hlt fp (mem_cons_self ..))
    obtain ⟨attrs, hrest, htypes⟩ := flatMap_attrBytes_encodes
      (off + (attrBytes attrFingerprint
        (if fp.value.length = 4 then fingerprintValue covered else fp.value)).length)
      fun sar hsar => hlt sar (mem_cons_of_mem fp hsar)
    refine ⟨?_, _, hfirst.append hrest, ?_, (by intro heq; cases heq), ?_⟩
    · rw [fingerprintBytes, length_append, flatMap_cons, length_append,
        attrBytes_length, attrBytes_length, hvalue]
    · intro sar hsar
      rcases mem_cons.mp hsar with rfl | hsar
      · rfl
      · exact htypes sar hsar
    · rintro fp' others' heq hfour
      cases heq
      rw [if_pos hfour]
      exact ⟨attrs, rfl⟩

/-- What is known of the message without the other attributes. -/
structure Shortened (buf : List UInt8) (mi : StunAttr) (trailing kept : List StunAttr) : Prop where
  agree : AgreeUpTo mi.stop buf (withoutTrailing buf)
  wellFormed : WellFormedMessage (withoutTrailing buf)
    (beforeIntegrity (stunAttrs buf) ++ mi :: kept)
  types : ∀ sar ∈ kept, sar.type = attrFingerprint
  none_kept : (trailing.filter fun sar => sar.type == attrFingerprint) = [] → kept = []
  first_kept : ∀ fp others,
    (trailing.filter fun sar => sar.type == attrFingerprint) = fp :: others →
    fp.value.length = 4 → ∃ rest, kept =
      ⟨mi.stop, attrFingerprint, fingerprintValue ((withoutTrailing buf).take mi.stop)⟩ :: rest
  length_le : (withoutTrailing buf).length ≤ buf.length

lemma agreeUpTo_append {buf : List UInt8} {k : ℕ} (hk : stunHeaderLength ≤ k) (hle : k ≤ buf.length)
    (len : ℕ) (rest : List UInt8) :
    AgreeUpTo k buf (stunSetCommandMessageLen (buf.take k) len ++ rest) := by
  have hfour : 4 ≤ (buf.take k).length := by
    rw [length_take]
    unfold stunHeaderLength at hk
    omega
  have hlength : (stunSetCommandMessageLen (buf.take k) len).length = k := by
    rw [stunSetCommandMessageLen_length _ hfour, length_take, Nat.min_eq_left hle]
  unfold stunHeaderLength at hk
  refine ⟨hk, hle, ?_, ?_, ?_⟩
  · rw [length_append, hlength]
    omega
  · rw [take_append_of_le_length (by omega), stunSetCommandMessageLen_take _ le_rfl hfour,
      take_take, Nat.min_eq_left (by omega)]
  · rw [drop_append_of_le_length (by omega), take_append_of_le_length
      (by rw [length_drop, hlength]), stunSetCommandMessageLen_drop _ le_rfl hfour,
      drop_take, take_take, Nat.min_self]

/-- The beginning of a message, up to the end of an attribute, and other attributes after it. -/
lemma length_setLen_take {n : ℕ} (hheader : stunHeaderLength ≤ n) {buf : List UInt8}
    (hn : n ≤ buf.length) (len : ℕ) :
    (stunSetCommandMessageLen (buf.take n) len).length = n := by
  have htake : (buf.take n).length = n := length_take_of_le hn
  rw [stunSetCommandMessageLen_length, htake]
  rw [htake]
  exact (by decide : 4 ≤ stunHeaderLength).trans hheader

lemma wellFormedMessage_append {buf : List UInt8} (hcommand : stunIsCommandMessage buf = true)
    {bytes bytes' rest : List UInt8} {attrs attrs' : List StunAttr} {n : ℕ}
    (hn : n = stunHeaderLength + bytes.length) (hbody : buf.drop stunHeaderLength = bytes ++ rest)
    (h : Encodes stunHeaderLength bytes attrs) (h' : Encodes n bytes' attrs')
    (hle : bytes'.length ≤ rest.length) :
    WellFormedMessage (stunSetCommandMessageLen (buf.take n) (n + bytes'.length) ++ bytes')
      (attrs ++ attrs') := by
  obtain ⟨hlong, hchannel, hbits, hcookie, hmod, hlen⟩ := stunIsCommandMessage_iff.mp hcommand
  have hlength : buf.length = n + rest.length := by
    have hparts := congrArg List.length hbody
    rw [length_drop, length_append] at hparts
    omega
  have hfield := beAt_lt buf 2 2
  have hheader : stunHeaderLength ≤ n := by omega
  have htwenty : 20 ≤ n := hheader
  have hshort : n ≤ buf.length := by omega
  have hagree := agreeUpTo_append hheader hshort (n + bytes'.length) bytes'
  have hcovered := length_setLen_take hheader hshort (n + bytes'.length)
  have hfour : 4 ≤ (buf.take n).length := by
    rw [length_take]
    omega
  have hfirst : beAt (stunSetCommandMessageLen (buf.take n) (n + bytes'.length)) 2 2 =
      bytes.length + bytes'.length := by
    rw [stunSetCommandMessageLen_field (by omega) (by omega) hfour]
    omega
  have hrest : (stunSetCommandMessageLen (buf.take n) (n + bytes'.length)).drop stunHeaderLength =
      bytes := by
    rw [stunSetCommandMessageLen_drop _ (by decide) hfour, drop_take, hbody, hn,
      Nat.add_sub_cancel_left, take_left]
  generalize stunSetCommandMessageLen (buf.take n) (n + bytes'.length) = part at *
  have hdeclared : beAt (part ++ bytes') 2 2 = bytes.length + bytes'.length := by
    rw [beAt_append_left (by omega), hfirst]
  constructor
  · refine stunIsCommandMessage_iff.mpr ⟨?_, ?_, ?_, ?_, ?_, ?_⟩
    · rw [length_append, hcovered]
      omega
    · rw [hagree.startsWithChannel_eq, hchannel]
    · rw [hagree.beAt_start (by decide), hbits]
    · rw [hagree.beAt_rest le_rfl (by omega), hcookie]
    · have hmod₁ := h.length_mod
      have hmod₂ := h'.length_mod
      rw [hdeclared, and_three]
      omega
    · rw [hdeclared, length_append, hcovered]
      omega
  · rw [drop_append_of_le_length (by omega), hrest]
    exact h.append (hn ▸ h')

lemma withoutTrailing_shortened {buf : List UInt8} (hcommand : stunIsCommandMessage buf = true)
    {mi : StunAttr} {trailing : List StunAttr}
    (hfrom : fromIntegrity (stunAttrs buf) = mi :: trailing) :
    ∃ kept, Shortened buf mi trailing kept := by
  -- the body of the message, cut after the attribute
  have hfuel : (buf.drop stunHeaderLength).length ≤ buf.length := by
    rw [length_drop]
    omega
  obtain ⟨bytes, tail, hbody, hencodes, -⟩ := stunAttrWalk_encodes hfuel
  rw [← stunAttrs_of_len (stunGetCommandMessageLen_of_command hcommand),
    ← beforeIntegrity_append (stunAttrs buf), hfrom, append_cons] at hencodes
  obtain ⟨bytes₁, bytes₂, rfl, hfirst, hsecond⟩ := hencodes.split
  have hstop : mi.stop = stunHeaderLength + bytes₁.length := hfirst.stop_last
  rw [append_assoc] at hbody
  have hlength : buf.length = stunHeaderLength + (bytes₁ ++ (bytes₂ ++ tail)).length := by
    rw [← hbody, length_drop]
    have hlong := (stunIsCommandMessage_iff.mp hcommand).1
    omega
  rw [length_append, length_append] at hlength
  have hroom := hsecond.filter_length_le attrFingerprint fun sar => sar.type == attrFingerprint
  generalize hfps : trailing.filter (fun sar => sar.type == attrFingerprint) = fps at hroom
  have hvalues : ∀ sar ∈ fps, sar.value.length < 2 ^ 16 := by
    subst hfps
    exact fun sar hsar => hsecond.value_lt sar (mem_of_mem_filter hsar)
  have hwithout : withoutTrailing buf =
      coveredPart buf mi fps ++ fingerprintBytes (coveredPart buf mi fps) fps := by
    rw [withoutTrailing, if_neg (by simp [hcommand]), hfrom, ← hfps]
  obtain ⟨hsize, kept, hkept, htypes, hnone, hsome⟩ :=
    fingerprintBytes_encodes mi.stop (coveredPart buf mi fps) hvalues
  have hpart : coveredPart buf mi fps = stunSetCommandMessageLen (buf.take mi.stop)
      (mi.stop + (fingerprintBytes (coveredPart buf mi fps) fps).length) := by
    rw [hsize, coveredPart]
  generalize fingerprintBytes (coveredPart buf mi fps) fps = bytes' at hsize hkept hwithout hpart
  rw [hpart] at hwithout hsome
  have hmessage := wellFormedMessage_append hcommand hstop hbody hfirst hkept
    (by rw [length_append]; omega)
  have hstart : mi.stop ≤ buf.length := by omega
  have hheader : stunHeaderLength ≤ mi.stop := by omega
  have hagree := agreeUpTo_append hheader hstart (mi.stop + bytes'.length) bytes'
  have hcovered := length_setLen_take hheader hstart (mi.stop + bytes'.length)
  rw [← hwithout] at hmessage
  rw [← hwithout] at hagree
  refine ⟨kept, hagree, ?_, htypes, ?_, ?_, ?_⟩
  · rw [append_cons]
    exact hmessage
  · rw [hfps]
    exact hnone
  · have htake : (withoutTrailing buf).take mi.stop =
        stunSetCommandMessageLen (buf.take mi.stop) (mi.stop + bytes'.length) := by
      rw [hwithout]
      exact take_left' hcovered
    rw [hfps, htake]
    exact hsome
  · rw [hwithout, length_append, hcovered]
    omega

lemma withoutTrailing_length_le (buf : List UInt8) : (withoutTrailing buf).length ≤ buf.length := by
  by_cases hcommand : stunIsCommandMessage buf = true
  · cases hfrom : fromIntegrity (stunAttrs buf) with
    | nil =>
      rw [withoutTrailing, if_neg (by simp [hcommand]), hfrom]
    | cons mi trailing =>
      obtain ⟨kept, hshort⟩ := withoutTrailing_shortened hcommand hfrom
      exact hshort.length_le
  · rw [withoutTrailing, if_pos (by simpa using hcommand)]

/-! ## What the two messages have in common -/

variable {buf : List UInt8} {mi : StunAttr} {trailing kept : List StunAttr}

lemma Shortened.integrity (h : Shortened buf mi trailing kept)
    (hcommand : stunIsCommandMessage buf = true)
    (hfrom : fromIntegrity (stunAttrs buf) = mi :: trailing)
    (hmac : List UInt8 → List UInt8 → List UInt8) (key : List UInt8) :
    stunCheckMessageIntegrityByKey hmac (withoutTrailing buf) key =
      stunCheckMessageIntegrityByKey hmac buf key := by
  have hfirst : ∀ rest, stunAttrGetFirstByType
      (beforeIntegrity (stunAttrs buf) ++ mi :: rest) attrMessageIntegrity = some mi := by
    intro rest
    have htype := fromIntegrity_head hfrom
    rw [stunAttrGetFirstByType, find?_append, find?_cons_of_pos (by simp [htype]),
      find?_eq_none.mpr]
    · rfl
    · intro sar hsar
      simpa using mem_takeWhile_imp hsar
  have hattrs := hfirst trailing
  rw [← hfrom, beforeIntegrity_append] at hattrs
  rw [stunCheckMessageIntegrityByKey, stunCheckMessageIntegrityByKey, h.wellFormed.attrs, hfirst,
    hattrs, stunGetCommandMessageLen_of_command hcommand,
    stunGetCommandMessageLen_of_command h.wellFormed.command]
  simp only
  by_cases hsize : mi.value.length = sha1SizeBytes
  · have hstop : mi.stop = mi.offset + 4 + sha1SizeBytes := by
      rw [StunAttr.stop, hsize]
      rfl
    have hleft := h.agree.left
    have hright := h.agree.right
    have hoffset : stunHeaderLength ≤ mi.offset := h.wellFormed.body.le_offset mi (by simp)
    unfold stunHeaderLength at hoffset
    rw [if_neg (by simp [hsize]), if_neg (by omega), if_neg (by simp [hsize]), if_neg (by omega),
      h.agree.stunSetCommandMessageLen_eq_take (by unfold stunHeaderLength; omega) (by omega)
        (by omega)]
  · rw [if_pos hsize, if_pos hsize]

lemma fullCheck_of_none {buf : List UInt8} (hcommand : stunIsCommandMessage buf = true)
    (hnone : stunAttrGetFirstByType (stunAttrs buf) attrFingerprint = none) (enforce : Bool) :
    stunIsCommandMessageFullCheck buf false enforce = (true, false) := by
  rw [stunIsCommandMessageFullCheck, if_neg (by simp [hcommand]), hnone]
  simp

lemma fullCheck_of_some {buf : List UInt8} (hcommand : stunIsCommandMessage buf = true)
    {sar : StunAttr} (hsome : stunAttrGetFirstByType (stunAttrs buf) attrFingerprint = some sar)
    (hlen : sar.value.length = 4) (hvalue : sar.value = fingerprintValue (buf.take sar.offset))
    (enforce : Bool) : stunIsCommandMessageFullCheck buf false enforce = (true, true) := by
  rw [stunIsCommandMessageFullCheck, if_neg (by simp [hcommand]), hsome]
  simp only
  rw [if_neg (by simp [hlen]), if_pos hvalue]

lemma fullCheck_cases {buf : List UInt8} {enforce : Bool}
    (hcheck : (stunIsCommandMessageFullCheck buf false enforce).1 = true) :
    stunIsCommandMessage buf = true ∧
      (stunAttrGetFirstByType (stunAttrs buf) attrFingerprint = none ∨
        ∃ sar, stunAttrGetFirstByType (stunAttrs buf) attrFingerprint = some sar ∧
          sar.value.length = 4 ∧ sar.value = fingerprintValue (buf.take sar.offset)) := by
  unfold stunIsCommandMessageFullCheck at hcheck
  split_ifs at hcheck with hcommand
  · refine ⟨by simpa using hcommand, ?_⟩
    cases hfirst : stunAttrGetFirstByType (stunAttrs buf) attrFingerprint with
    | none => exact Or.inl rfl
    | some sar =>
      rw [hfirst] at hcheck
      simp only at hcheck
      split_ifs at hcheck with hlen hvalue
      · exact Or.inr ⟨sar, rfl, by simpa using hlen, hvalue⟩

/-- The full check says the same about the shorter message. -/
lemma Shortened.fullCheck (h : Shortened buf mi trailing kept)
    (hfrom : fromIntegrity (stunAttrs buf) = mi :: trailing)
    (hbefore : ∀ sar ∈ beforeIntegrity (stunAttrs buf), sar.type ≠ attrFingerprint)
    {enforce : Bool} (hcheck : (stunIsCommandMessageFullCheck buf false enforce).1 = true) :
    stunIsCommandMessageFullCheck (withoutTrailing buf) false enforce =
      stunIsCommandMessageFullCheck buf false enforce := by
  have hmi := fromIntegrity_head hfrom
  -- the first FINGERPRINT stands after the HMAC
  have hfirst : ∀ rest, stunAttrGetFirstByType
      (beforeIntegrity (stunAttrs buf) ++ mi :: rest) attrFingerprint =
        (rest.filter fun sar => sar.type == attrFingerprint).head? := by
    intro rest
    rw [stunAttrGetFirstByType, find?_append, find?_cons_of_neg (by simp [hmi]),
      find?_eq_none.mpr, head?_filter]
    · rfl
    · intro sar hsar
      simpa using hbefore sar hsar
  have hattrs := hfirst trailing
  rw [← hfrom, beforeIntegrity_append] at hattrs
  have hattrs' := hfirst kept
  rw [← h.wellFormed.attrs] at hattrs'
  obtain ⟨hcommand, hnone | ⟨fp, hsome, hlen, hvalue⟩⟩ := fullCheck_cases hcheck
  · rw [fullCheck_of_none hcommand hnone]
    refine fullCheck_of_none h.wellFormed.command ?_ _
    rw [hattrs, head?_eq_none_iff] at hnone
    rw [hattrs', h.none_kept hnone]
    rfl
  · rw [fullCheck_of_some hcommand hsome hlen hvalue]
    rw [hattrs, head?_eq_some_iff] at hsome
    obtain ⟨others, hothers⟩ := hsome
    obtain ⟨rest, rfl⟩ := h.first_kept fp others hothers hlen
    refine fullCheck_of_some h.wellFormed.command hattrs' ?_ ?_ _
    · exact length_beBytes 4 _
    · rfl

lemma Shortened.attrs (h : Shortened buf mi trailing kept) :
    stunAttrs (withoutTrailing buf) = (beforeIntegrity (stunAttrs buf) ++ [mi]) ++ kept := by
  rw [h.wellFormed.attrs, append_cons]

end Coturn
