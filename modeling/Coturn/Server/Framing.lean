/-
# Messages on a stream

`stun_get_message_len_str` of `client/ns_turn_msg.c` cuts the bytes of a stream into messages, with
recognisers for STUN, HTTP and ChannelData in turn. The one for HTTP searches everything that has
been received, so it may take ChannelData for an HTTP request: the messages are cut exactly when it
does not.
-/
import Coturn.Server.Command
import Coturn.Stun.Codec

namespace Coturn

open ByteSeq List

/-! ## HTTP requests -/

lemma sheadof_false (head full : List UInt8) : sheadof false head full = head.isPrefixOf full := by
  induction head generalizing full with
  | nil => rfl
  | cons h head ih =>
    cases full with
    | nil => rfl
    | cons f full =>
      rw [sheadof, ih, isPrefixOf_cons_cons, Bool.false_and, Bool.or_false]

/-! ## One message -/

/-- The length of the message in 16 bits. -/
def stunLen (buf : List UInt8) : ℕ := (beAt buf 2 2 + stunHeaderLength) % 2 ^ 16

/-- The bytes begin with a STUN message that has been received completely. -/
def StunFits (buf : List UInt8) : Prop :=
  stunHeaderLength ≤ buf.length ∧ startsWithChannel buf = false ∧ beAt buf 0 1 &&& 0xC0 = 0 ∧
    beAt buf 4 4 = stunMagicCookie ∧ beAt buf 2 2 &&& 0x0003 = 0 ∧ stunLen buf ≤ buf.length
  deriving Decidable

/-- The bytes are taken for an HTTP request that has been received completely. -/
def HttpFits (buf room : List UInt8) : Prop :=
  0 < isHttp buf room ∧ isHttp buf room ≤ buf.length
  deriving Decidable

/-- The length of the first message, -1 if there is none, and `*app_len`. -/
def stunGetMessageLen (buf room : List UInt8) (padding : Bool) (appLen : ℕ) : ℤ × ℕ :=
  if StunFits buf then (stunLen buf, stunLen buf)
  else if HttpFits buf room then (isHttp buf room, isHttp buf room)
  else if 4 ≤ buf.length ∧ startsWithChannel buf = true then
    let bret := 4 + beAt buf 2 2
    let len := if padding then paddedLength bret else bret
    (if len ≤ buf.length then len else -1, bret)
  else (-1, appLen)

/-- A message as it stands on a stream. -/
inductive StreamMessage where
  | stun (buf : List UInt8) (hcommand : stunIsCommandMessage buf = true)
    (hmax : buf.length ≤ maxStunMessageSize)
  | channelData (chnumber : UInt16) (hchn : 0x4000 ≤ chnumber.toNat ∧ chnumber.toNat ≤ 0x7FFF)
    (payload : List UInt8) (hlen : payload.length ≤ 0xFFFF) (padding : List UInt8)
    (hpadding : padding.length = paddedLength payload.length - payload.length)

variable (m : StreamMessage)

namespace StreamMessage

/-- The message as it is sent. -/
def bytes : StreamMessage → List UInt8
  | stun buf _ _ => buf
  | channelData chnumber _ payload _ padding _ =>
    beBytes 2 chnumber.toNat ++ beBytes 2 payload.length ++ payload ++ padding

/-- The length without padding. -/
def appLen : StreamMessage → ℕ
  | stun buf _ _ => buf.length
  | channelData _ _ payload _ _ _ => 4 + payload.length

/-- The message is ChannelData. -/
structure Channel (m : StreamMessage) : Prop where
  channel : startsWithChannel m.bytes = true
  field : 4 + beAt m.bytes 2 2 = m.appLen
  padded : paddedLength m.appLen = m.bytes.length

/-- The message is a STUN message. -/
structure Stun (m : StreamMessage) : Prop where
  command : stunIsCommandMessage m.bytes = true
  len : stunLen m.bytes = m.bytes.length
  app : m.appLen = m.bytes.length

lemma kinds : ∀ m : StreamMessage, m.Stun ∨ m.Channel
  | stun buf hcommand hmax => by
    obtain ⟨-, -, -, -, -, hlen⟩ := stunIsCommandMessage_iff.mp hcommand
    refine Or.inl ⟨hcommand, ?_, rfl⟩
    unfold maxStunMessageSize at hmax
    -- the length does not leave the range of its 16 bits
    show (beAt buf 2 2 + stunHeaderLength) % 2 ^ 16 = buf.length
    rw [hlen, Nat.mod_eq_of_lt (by omega)]
  | channelData chnumber hchn payload hlen padding hpadding => by
    have hpad := le_paddedLength payload.length
    obtain ⟨htype, hfield⟩ :
        beAt (bytes (channelData chnumber hchn payload hlen padding hpadding)) 0 2 =
            chnumber.toNat ∧
          beAt (bytes (channelData chnumber hchn payload hlen padding hpadding)) 2 2 =
            payload.length := by
      simp only [bytes, append_assoc]
      exact beAt_two_fields (by omega) (by omega) _
    refine Or.inr ⟨?_, ?_, ?_⟩
    · rw [startsWithChannel, htype]
      simp [hchn.1, hchn.2]
    · rw [hfield, appLen]
    · rw [appLen, paddedLength_add (by decide)]
      simp only [bytes, length_append, length_beBytes]
      omega

lemma four_le_length : 4 ≤ m.bytes.length := by
  rcases m.kinds with h | h
  · exact (stunIsCommandMessage_iff.mp h.command).1.trans' (by decide)
  · rw [← h.padded, ← h.field]
    exact (Nat.le_add_right _ _).trans (le_paddedLength _)

end StreamMessage

/-- The first two bytes of the methods. -/
def httpStarts : List ℕ := [0x4745, 0x504F, 0x4445, 0x5055]

lemma isHttp_of_start {s : List UInt8} (h : beAt s 0 2 ∉ httpStarts) (room : List UInt8) :
    isHttp s room = 0 := by
  have hmethods : ∀ m ∈ ["GET ", "POST ", "DELETE ", "PUT "],
      beAt (asciiBytes m) 0 2 ∈ httpStarts ∧ 2 ≤ (asciiBytes m).length := by decide
  rw [isHttp, if_neg]
  rintro ⟨-, hmethod⟩
  obtain ⟨m, hm, hhead⟩ := any_eq_true.mp hmethod
  obtain ⟨hstart, hlen⟩ := hmethods m hm
  rw [sheadof_false, isPrefixOf_iff_prefix] at hhead
  obtain ⟨rest, rfl⟩ := hhead
  rw [beAt_append_left hlen] at h
  exact h hstart

lemma not_httpFits {s : List UInt8} (h : beAt s 0 2 ∉ httpStarts) (room : List UInt8) :
    ¬ HttpFits s room := by
  rintro ⟨hpos, -⟩
  rw [isHttp_of_start h] at hpos
  exact absurd hpos (by decide)

lemma notMem_httpStarts_of_not_channel {s : List UInt8} (h : startsWithChannel s = false) :
    beAt s 0 2 ∉ httpStarts := by
  have hchannels : ∀ v ∈ httpStarts, 0x4000 ≤ v ∧ v ≤ 0x7FFF := by decide
  intro hmem
  simp [startsWithChannel, hchannels _ hmem] at h

lemma not_stunFits_of_channel {buf : List UInt8} (h : startsWithChannel buf = true) :
    ¬ StunFits buf := by
  rintro ⟨-, hnot, -⟩
  rw [h] at hnot
  exact absurd hnot (by decide)

lemma stunGetMessageLen_append (rest room : List UInt8) (appLen : ℕ) :
    stunGetMessageLen (m.bytes ++ rest) room true appLen =
      if HttpFits (m.bytes ++ rest) room then
        ((isHttp (m.bytes ++ rest) room : ℤ), isHttp (m.bytes ++ rest) room)
      else ((m.bytes.length : ℤ), m.appLen) := by
  have hlong : m.bytes.length ≤ (m.bytes ++ rest).length := by simp
  have hfour := m.four_le_length
  have hread : ∀ i k, i + k ≤ m.bytes.length → beAt (m.bytes ++ rest) i k = beAt m.bytes i k :=
    fun i k hik => beAt_append_left hik rest
  rcases m.kinds with h | h
  · obtain ⟨hheader, hchannel, hbits, hcookie, hmod, -⟩ := stunIsCommandMessage_iff.mp h.command
    unfold stunHeaderLength at hheader
    have hchannel' : startsWithChannel (m.bytes ++ rest) = false := by
      rwa [startsWithChannel, hread 0 2 (by omega)]
    have hhttp := not_httpFits (notMem_httpStarts_of_not_channel hchannel') room
    have hlen : stunLen (m.bytes ++ rest) = m.bytes.length := by
      rw [stunLen, hread 2 2 (by omega)]
      exact h.len
    have hstun : StunFits (m.bytes ++ rest) := by
      refine ⟨hlong.trans' hheader, hchannel', ?_, ?_, ?_, hlen.le.trans hlong⟩
      · rwa [hread 0 1 (by omega)]
      · rwa [hread 4 4 (by omega)]
      · rwa [hread 2 2 (by omega)]
    rw [stunGetMessageLen, if_pos hstun, if_neg hhttp, hlen, h.app]
  · have hchannel : startsWithChannel (m.bytes ++ rest) = true := by
      rw [startsWithChannel, hread 0 2 (by omega)]
      exact h.channel
    rw [stunGetMessageLen, if_neg (not_stunFits_of_channel hchannel)]
    refine if_congr Iff.rfl rfl ?_
    rw [if_pos ⟨hlong.trans' hfour, hchannel⟩]
    simp only [hread 2 2 hfour, h.field, if_true, h.padded]
    rw [if_pos hlong]

lemma stunGetMessageLen_take {n : ℕ} (hn : n < m.bytes.length) (room : List UInt8) (appLen : ℕ) :
    (stunGetMessageLen (m.bytes.take n) room true appLen).1 = -1 ↔
      ¬ HttpFits (m.bytes.take n) room := by
  have hlength : (m.bytes.take n).length = n := by
    rw [length_take]
    omega
  have hread : ∀ i k, i + k ≤ n → beAt (m.bytes.take n) i k = beAt m.bytes i k :=
    fun i k hik => beAt_take hik _
  have hstun : ¬ StunFits (m.bytes.take n) := by
    rintro ⟨hheader, hchannel, -, -, -, hlen⟩
    rw [hlength] at hheader hlen
    unfold stunHeaderLength at hheader
    rw [startsWithChannel, hread 0 2 (by omega)] at hchannel
    rw [stunLen, hread 2 2 (by omega)] at hlen
    rcases m.kinds with h | h
    · -- the header gives the whole length
      have := h.len
      rw [stunLen] at this
      omega
    · have := h.channel
      rw [startsWithChannel, hchannel] at this
      exact absurd this (by decide)
  rw [stunGetMessageLen, if_neg hstun]
  by_cases hhttp : HttpFits (m.bytes.take n) room
  · rw [if_pos hhttp]
    have hpos := hhttp.1
    constructor
    · intro heq
      simp only at heq
      omega
    · exact fun hnot => absurd hhttp hnot
  · rw [if_neg hhttp]
    refine iff_of_true ?_ hhttp
    by_cases hchannel : 4 ≤ (m.bytes.take n).length ∧ startsWithChannel (m.bytes.take n) = true
    · rw [if_pos hchannel]
      obtain ⟨hfour, hchannel⟩ := hchannel
      rw [hlength] at hfour
      rw [startsWithChannel, hread 0 2 (by omega)] at hchannel
      rcases m.kinds with h | h
      · have hnot := (stunIsCommandMessage_iff.mp h.command).2.1
        rw [startsWithChannel, hchannel] at hnot
        exact absurd hnot (by decide)
      · simp only [hread 2 2 (by omega), h.field, if_true, h.padded]
        rw [if_neg (by omega)]
    · rw [if_neg hchannel]

/-! ## The whole stream -/

def streamBytes (ms : List StreamMessage) : List UInt8 := ms.flatMap StreamMessage.bytes

/-- The lengths that the socket layer gets when it takes one message after the other off the
stream. -/
def stunMessageLens (room : List UInt8) : ℕ → List UInt8 → List (ℤ × ℕ)
  | 0, _ => []
  | fuel + 1, buf =>
    let r := stunGetMessageLen buf room true 0
    if 0 < r.1 then r :: stunMessageLens room fuel (buf.drop r.1.toNat) else []

/-- The bytes from the message `m` on are not taken for HTTP, or the HTTP request is as long as
`m`. -/
def NotHttp (room : List UInt8) (m : StreamMessage) (post : List StreamMessage) : Prop :=
  HttpFits (streamBytes (m :: post)) room →
    isHttp (streamBytes (m :: post)) room = m.bytes.length ∧ m.bytes.length = m.appLen

lemma notHttp_of_start {m : StreamMessage} (h : beAt m.bytes 0 2 ∉ httpStarts)
    (room : List UInt8) :
    (∀ post, NotHttp room m post) ∧ ∀ n, ¬ HttpFits (m.bytes.take n) room := by
  have hfour := m.four_le_length
  constructor
  · intro post hfits
    refine absurd hfits (not_httpFits ?_ room)
    rwa [streamBytes, flatMap_cons, beAt_append_left (by omega)]
  · intro n
    by_cases hn : 2 ≤ n
    · refine not_httpFits ?_ room
      rwa [beAt_take hn]
    · rintro ⟨hpos, -⟩
      rw [isHttp, if_neg] at hpos
      · exact absurd hpos (by decide)
      · rw [length_take]
        omega

lemma stunMessageLens_eq_iff (room : List UInt8) (ms : List StreamMessage) {fuel : ℕ}
    (hfuel : (streamBytes ms).length ≤ fuel) :
    stunMessageLens room fuel (streamBytes ms) = ms.map (fun m => ((m.bytes.length : ℤ), m.appLen)) ↔
      ∀ m post, (m :: post) <:+ ms → NotHttp room m post := by
  induction ms generalizing fuel with
  | nil =>
    refine iff_of_true ?_ fun m post hsuffix => absurd hsuffix.length_le (by simp)
    cases fuel <;> rfl
  | cons m ms ih =>
    have hbytes : streamBytes (m :: ms) = m.bytes ++ streamBytes ms := flatMap_cons ..
    have hfour := m.four_le_length
    rw [hbytes, length_append] at hfuel
    obtain ⟨fuel, rfl⟩ : ∃ n, fuel = n + 1 := Nat.exists_eq_add_of_le' (by omega)
    have hdrop : (m.bytes ++ streamBytes ms).drop m.bytes.length = streamBytes ms :=
      drop_left
    -- the first message is cut off as it should be if and only if it is not taken for HTTP
    have hsplit : (∀ m' post, (m' :: post) <:+ (m :: ms) → NotHttp room m' post) ↔
        NotHttp room m ms ∧ ∀ m' post, (m' :: post) <:+ ms → NotHttp room m' post := by
      constructor
      · intro h
        exact ⟨h m ms suffix_rfl, fun m' post hs => h m' post (hs.trans (suffix_cons ..))⟩
      · rintro ⟨hfirst, hrest⟩ m' post hs
        rcases suffix_cons_iff.mp hs with heq | hs
        · obtain ⟨rfl, rfl⟩ := List.cons.inj heq
          exact hfirst
        · exact hrest m' post hs
    have hih : stunMessageLens room fuel (streamBytes ms) = _ ↔ _ := ih (by omega)
    rw [hsplit, ← hih, stunMessageLens, hbytes, stunGetMessageLen_append, map_cons]
    have hpos : (0 : ℤ) < m.bytes.length := by omega
    by_cases hhttp : HttpFits (m.bytes ++ streamBytes ms) room
    · have hlen : (0 : ℤ) < isHttp (m.bytes ++ streamBytes ms) room := by
        have := hhttp.1
        omega
      simp only [if_pos hhttp, if_pos hlen, Int.toNat_natCast, List.cons.injEq, Prod.mk.injEq,
        Nat.cast_inj]
      constructor
      · rintro ⟨⟨hfirst, happ⟩, hrest⟩
        rw [hfirst, hdrop] at hrest
        refine ⟨fun _ => ?_, hrest⟩
        rw [hbytes]
        exact ⟨hfirst, hfirst.symm.trans happ⟩
      · rintro ⟨hfirst, hrest⟩
        rw [NotHttp, hbytes] at hfirst
        obtain ⟨hfirst, happ⟩ := hfirst hhttp
        rw [hfirst, hdrop]
        exact ⟨⟨rfl, happ⟩, hrest⟩
    · simp only [if_neg hhttp, if_pos hpos, Int.toNat_natCast, hdrop, List.cons.injEq, true_and]
      refine (and_iff_right ?_).symm
      rw [NotHttp, hbytes]
      exact fun h => absurd h hhttp

/-- The lengths of the messages of a stream are found in order exactly when no ChannelData with what
follows it is taken for an HTTP request of another length; and none is found in a part of a message
exactly when the part is not taken for one. -/
theorem stream_framing_iff (room : List UInt8) :
    (∀ ms : List StreamMessage,
      stunMessageLens room (streamBytes ms).length (streamBytes ms) =
          ms.map (fun m => ((m.bytes.length : ℤ), m.appLen)) ↔
        ∀ m post, (m :: post) <:+ ms → NotHttp room m post) ∧
    ∀ m : StreamMessage,
      (∀ n, 0 < n → n < m.bytes.length →
          (stunGetMessageLen (m.bytes.take n) room true 0).1 = -1) ↔
        ∀ n, 0 < n → n < m.bytes.length → ¬ HttpFits (m.bytes.take n) room := by
  refine ⟨fun ms => stunMessageLens_eq_iff room ms le_rfl, fun m => ?_⟩
  refine forall_congr' fun n => forall_congr' fun _ => forall_congr' fun hn => ?_
  exact stunGetMessageLen_take m hn room 0

def shortGet : List UInt8 := asciiBytes "GET  HTTP/" ++ [0x0D, 0x0A, 0x0D, 0x0A]

lemma isHttp_shortGet (tail room : List UInt8) : isHttp (shortGet ++ tail) room = 14 := by
  have hlength : (shortGet ++ tail).length = 14 + tail.length := length_append
  have hstart : 12 ≤ (shortGet ++ tail).length ∧
      (["GET ", "POST ", "DELETE ", "PUT "].any fun m =>
        sheadof false (asciiBytes m) (shortGet ++ tail)) = true := ⟨by omega, rfl⟩
  have hversion : findstr ((shortGet ++ tail).drop 4) (asciiBytes " HTTP/") false = some 0 := rfl
  have hend : findstr ((shortGet ++ tail).drop 10) [0x0D, 0x0A, 0x0D, 0x0A] false = some 0 := rfl
  have hheader : findstr ((shortGet ++ tail).take 10) (asciiBytes "content-length: ") true = none :=
    rfl
  rw [isHttp, if_pos hstart, hversion]
  simp only [Nat.add_zero, Nat.reduceAdd, hend, hheader]
  rw [if_pos (by omega)]

def getPayload : List UInt8 := shortGet.drop 4 ++ List.replicate 21526 0

lemma getPayload_length : getPayload.length = 21536 := by
  rw [getPayload, length_append, length_replicate]
  rfl

/-- ChannelData whose header reads "GET ": it is on the channel 0x4745 and has 0x5420 bytes. -/
def getMessage : StreamMessage :=
  .channelData 0x4745 (by decide) getPayload (by rw [getPayload_length]; decide) []
    (by rw [getPayload_length]; rfl)

lemma getMessage_bytes : getMessage.bytes = shortGet ++ List.replicate 21526 0 := by
  show beBytes 2 (0x4745 : UInt16).toNat ++ beBytes 2 getPayload.length ++ getPayload ++ [] = _
  rw [getPayload_length, getPayload, append_nil, ← append_assoc]
  rfl

/-- The first 14 bytes of this message are taken for a request to a web server. -/
theorem stream_framing_get :
    stunMessageLens [] (streamBytes [getMessage]).length (streamBytes [getMessage]) ≠
        [((getMessage.bytes.length : ℤ), getMessage.appLen)] ∧
      getMessage.bytes.length = 21540 ∧
      stunGetMessageLen getMessage.bytes [] true 0 = (14, 14) ∧
      stunGetMessageLen (getMessage.bytes.take 14) [] true 0 = (14, 14) := by
  have hlength : getMessage.bytes.length = 21540 := by
    rw [getMessage_bytes, length_append, length_replicate]
    rfl
  have hhttp : HttpFits getMessage.bytes [] := by
    rw [HttpFits, hlength, getMessage_bytes, isHttp_shortGet]
    decide
  have hget : stunGetMessageLen getMessage.bytes [] true 0 = (14, 14) := by
    have happend := stunGetMessageLen_append getMessage [] [] 0
    rw [append_nil, if_pos hhttp, getMessage_bytes, isHttp_shortGet] at happend
    rw [getMessage_bytes]
    exact happend
  refine ⟨?_, hlength, hget, ?_⟩
  · have hstream : streamBytes [getMessage] = getMessage.bytes := append_nil _
    rw [hstream, hlength, stunMessageLens]
    simp only [hget]
    intro heq
    have hhead := congrArg List.head? heq
    exact absurd hhead (by decide)
  · have htake : getMessage.bytes.take 14 = shortGet := by
      rw [getMessage_bytes]
      exact take_left' rfl
    rw [htake]
    decide +kernel

/-! ## The length of a STUN message -/

/-- The lengths are those that the header declares, and within the bytes that have been received. -/
structure StunLengthExact (buf : List UInt8) (r : ℤ × ℕ) : Prop where
  declared : r.1 = stunHeaderLength + beAt buf 2 2
  header : (stunHeaderLength : ℤ) ≤ r.1
  received : r.1 ≤ buf.length
  app : (r.2 : ℤ) = r.1
  handed : stunGetCommandMessageLen (buf.take r.1.toNat) = some r.1.toNat

/-- A message that has been received completely is measured by the attribute walker as declared. -/
lemma stunGetCommandMessageLen_take {buf : List UInt8}
    (hle : beAt buf 2 2 + stunHeaderLength ≤ buf.length) :
    stunGetCommandMessageLen (buf.take (beAt buf 2 2 + stunHeaderLength)) =
      some (beAt buf 2 2 + stunHeaderLength) := by
  have hlength : (buf.take (beAt buf 2 2 + stunHeaderLength)).length =
      beAt buf 2 2 + stunHeaderLength := length_take_of_le hle
  have hfield : beAt (buf.take (beAt buf 2 2 + stunHeaderLength)) 2 2 = beAt buf 2 2 :=
    beAt_take (by unfold stunHeaderLength; omega) buf
  rw [stunGetCommandMessageLen, hlength, if_neg (by omega)]
  simp only [hfield, Nat.lt_irrefl, if_false]

/-- The length of a STUN message is found exactly when the declared length with the header stays
within 16 bits. -/
theorem stun_length_exact_iff (buf room : List UInt8) (padding : Bool) (appLen : ℕ)
    (hstun : StunFits buf) :
    StunLengthExact buf (stunGetMessageLen buf room padding appLen) ↔
      beAt buf 2 2 + stunHeaderLength < 2 ^ 16 := by
  have hlen : stunLen buf ≤ buf.length := hstun.2.2.2.2.2
  rw [stunGetMessageLen, if_pos hstun]
  constructor
  · intro h
    have hdeclared : stunLen buf = beAt buf 2 2 + stunHeaderLength := by
      have := h.declared
      simp only at this
      omega
    rw [← hdeclared]
    exact Nat.mod_lt _ (by decide)
  · intro hsmall
    have heq : stunLen buf = beAt buf 2 2 + stunHeaderLength := Nat.mod_eq_of_lt hsmall
    rw [heq] at hlen ⊢
    refine ⟨?_, ?_, ?_, rfl, ?_⟩
    · simp only
      omega
    · simp only
      omega
    · simp only
      omega
    · exact stunGetCommandMessageLen_take hlen

/-- The header of a binding request that declares a length. -/
def bindingHeader (declared : ℕ) : List UInt8 :=
  beBytes 2 stunMethodBinding ++ beBytes 2 declared ++ beBytes 4 stunMagicCookie ++
    List.replicate 12 0

/-- A binding request with two attributes, of which the second is padded. -/
def bindingWithAttrs : List UInt8 :=
  bindingHeader 20 ++ attrBytes attrUsername (asciiBytes "user") ++
    attrBytes attrSoftware (asciiBytes "coturn")

theorem stun_length_exact_attrs :
    StunFits bindingWithAttrs ∧
      StunLengthExact bindingWithAttrs (stunGetMessageLen bindingWithAttrs [] true 0) ∧
      stunGetMessageLen bindingWithAttrs [] true 0 = (40, 40) :=
  ⟨by decide, (stun_length_exact_iff bindingWithAttrs [] true 0 (by decide)).mpr (by decide),
    by decide⟩

/-- A header alone that declares 65532 bytes is taken for a message of 16 bytes, less than the header
itself. -/
theorem stun_length_wraps :
    StunFits (bindingHeader 65532) ∧
      stunGetMessageLen (bindingHeader 65532) [] true 0 = (16, 16) ∧
      ¬ StunLengthExact (bindingHeader 65532) (stunGetMessageLen (bindingHeader 65532) [] true 0) := by
  have hlen : stunGetMessageLen (bindingHeader 65532) [] true 0 = (16, 16) := by decide +kernel
  refine ⟨by decide, hlen, fun h => ?_⟩
  have hheader := h.header
  rw [hlen] at hheader
  exact absurd hheader (by decide)

end Coturn
