/-
# Addresses as texts

`addr_to_string` and `make_ioa_addr_from_full_string` of `client/ns_turn_ioaddr.c`, on lists of
bytes. The port is written after a colon, with an IPv6 address in brackets; one with port 0 is
written without brackets, and then the first of its own colons is taken for the one before the port.
-/
import Coturn.Passwords
import Coturn.PeerAddr
import Mathlib.Data.List.DropRight
import Mathlib.Data.Nat.Digits.Lemmas
import Mathlib.Logic.Function.Basic

namespace Coturn

open ByteSeq IoaAddr TextNumber List Option

/-- `inet_ntop` and `inet_pton` for the two families: what the one writes is read by the other. -/
structure InetText where
  ntop4 : List.Vector UInt8 4 → List UInt8
  ntop6 : List.Vector UInt8 16 → List UInt8
  pton4 : List UInt8 → Option (List.Vector UInt8 4)
  pton6 : List UInt8 → Option (List.Vector UInt8 16)
  pton4_ntop4 : ∀ ip, pton4 (ntop4 ip) = some ip
  pton6_ntop6 : ∀ ip, pton6 (ntop6 ip) = some ip
  /-- `INET_ADDRSTRLEN` -/
  ntop4_length : ∀ ip, (ntop4 ip).length < 16
  /-- `INET6_ADDRSTRLEN` -/
  ntop6_length : ∀ ip, (ntop6 ip).length < 46
  pton4_chars : ∀ {s ip}, pton4 s = some ip →
    s ≠ [] ∧ ∀ c ∈ s, c = 0x2E ∨ (decDigit? c).isSome = true
  pton6_chars : ∀ {s ip}, pton6 s = some ip →
    0x3A ∈ s ∧ ∀ c ∈ s, c = 0x3A ∨ c = 0x2E ∨ (hexDigit? c).isSome = true
  ntop6_any : ntop6 (.replicate 16 0) = asciiBytes "::"

/-- The addresses that `getaddrinfo` finds for a name. -/
abbrev Resolver := List UInt8 → List (List.Vector UInt8 4 ⊕ List.Vector UInt8 16)

variable (inet : InetText) (resolve : Resolver)

/-- The text has `MAX_IOA_ADDR_STRING` bytes with its end. -/
def addrToString : IoaAddr → Option (List UInt8)
  | unset => none
  | s4 ip port =>
    some ((if 0 < port then inet.ntop4 ip ++ 0x3A :: decText port.toNat else inet.ntop4 ip).take 63)
  | s6 ip port =>
    some ((if 0 < port then 0x5B :: (inet.ntop6 ip ++ 0x5D :: 0x3A :: decText port.toNat)
      else inet.ntop6 ip).take 63)

/-- The text before the first `b`, and what follows that. -/
def cutAt (b : UInt8) (s : List UInt8) : Option (List UInt8 × List UInt8) :=
  match s.dropWhile (· != b) with
  | [] => none
  | _ :: tail => some (s.takeWhile (· != b), tail)

/-- The number as a `uint16_t`. -/
def portOf (s : List UInt8) : UInt16 := UInt16.ofNat (atoi s % 65536).toNat

/-- The text is split at its port. -/
def getAddrStringAndPort (s0 : List UInt8) : Option (List UInt8 × UInt16) :=
  let s := s0.dropWhile (· == 0x20)
  if s.head? = some 0x5B then
    (cutAt 0x5D s.tail).bind fun r =>
      let tail := r.2.dropWhile (· == 0x20)
      if tail.head? = some 0x3A then some (r.1, portOf tail.tail)
      else if tail = [] then some (r.1, 0)
      else none
  else
    match cutAt 0x3A s with
    | some r => some (r.1, portOf r.2)
    | none => some (s, 0)

/-- An IP or a name, for which the first IPv4 address is taken, or else the first IPv6 address. -/
def readIp (saddr : List UInt8) : Option (List.Vector UInt8 4 ⊕ List.Vector UInt8 16) :=
  if saddr = [] then some (.inl (.replicate 4 0))
  else
    match inet.pton4 saddr with
    | some ip => some (.inl ip)
    | none =>
      match inet.pton6 saddr with
      | some ip => some (.inr ip)
      | none =>
        ((resolve saddr).find? Sum.isLeft).or ((resolve saddr).find? Sum.isRight)

/-- How `make_ioa_addr` finds the IP of a text: the text is copied into 257 bytes, and loses the
blanks around it. -/
def textToIp : TextToIp := fun saddr0 =>
  readIp inet resolve (((saddr0.take 256).dropWhile (· == 0x20)).rdropWhile (· == 0x20))

/-- The address of a text with a port. -/
def makeIoaAddrFromFullString (saddr : List UInt8) (defaultPort : UInt16) : Option IoaAddr :=
  (getAddrStringAndPort saddr).bind fun r =>
    makeIoaAddr (textToIp inet resolve) r.1 (if r.2 < 1 then defaultPort else r.2)

/-! ## Reading the parts -/

section Parts

variable {b : UInt8} {s t : List UInt8}

lemma cutAt_append (h : b ∉ s) : cutAt b (s ++ b :: t) = some (s, t) := by
  have hne : ∀ c ∈ s, (c != b) = true := fun c hc => bne_iff_ne.mpr (ne_of_mem_of_not_mem hc h)
  rw [cutAt, dropWhile_append_of_pos hne, takeWhile_append_of_pos hne]
  simp

lemma cutAt_eq_none (h : b ∉ s) : cutAt b s = none := by
  have hne : ∀ c ∈ s, (c != b) = true := fun c hc => bne_iff_ne.mpr (ne_of_mem_of_not_mem hc h)
  rw [cutAt, dropWhile_eq_nil_iff.mpr hne]

lemma dropWhile_of_not_mem (h : b ∉ s) : s.dropWhile (· == b) = s := by
  cases s with
  | nil => rfl
  | cons c s =>
    refine dropWhile_cons_of_neg fun hc => h ?_
    rw [beq_iff_eq.mp hc]
    exact mem_cons_self

lemma getAddrStringAndPort_plain (hblank : 0x20 ∉ s) (hbracket : 0x5B ∉ s) :
    getAddrStringAndPort s = match cutAt 0x3A s with
      | some r => some (r.1, portOf r.2)
      | none => some (s, 0) := by
  have hhead : s.head? ≠ some 0x5B := fun hhead => hbracket (mem_of_mem_head? hhead)
  rw [getAddrStringAndPort, dropWhile_of_not_mem hblank, if_neg hhead]

lemma textToIp_plain {inet : InetText} {resolve : Resolver} (hlen : s.length < 64)
    (hblank : 0x20 ∉ s) : textToIp inet resolve s = readIp inet resolve s := by
  have hrdrop : s.rdropWhile (· == 0x20) = s := by
    rw [List.rdropWhile, dropWhile_of_not_mem (by simpa using hblank), reverse_reverse]
  rw [textToIp, take_of_length_le (by omega), dropWhile_of_not_mem hblank, hrdrop]

lemma portOf_decText (port : UInt16) : portOf (decText port.toNat) = port := by
  have hlt : port.toNat < 65536 := port.toNat_lt
  rw [portOf, atoi_decText, Int.emod_eq_of_lt (by omega) (by omega), Int.toNat_natCast]
  exact UInt16.ofNat_toNat

lemma decText_length_le (port : UInt16) : (decText port.toNat).length ≤ 5 := by
  have hlt : port.toNat < 10 ^ 5 := Nat.lt_of_lt_of_le port.toNat_lt (by decide)
  rw [decText, length_map, length_reverse]
  exact (Nat.digits_length_le_iff (by decide) _).mpr hlt

end Parts

variable {inet resolve}

variable {c : UInt8}

lemma not_mem_ntop4 (ip : List.Vector UInt8 4)
    (h : ¬ (c = 0x2E ∨ (decDigit? c).isSome = true)) : c ∉ inet.ntop4 ip :=
  fun hc => h ((inet.pton4_chars (inet.pton4_ntop4 ip)).2 c hc)

variable (ip : List.Vector UInt8 16)

lemma not_mem_ntop6
    (h : ¬ (c = 0x3A ∨ c = 0x2E ∨ (hexDigit? c).isSome = true)) : c ∉ inet.ntop6 ip :=
  fun hc => h ((inet.pton6_chars (inet.pton6_ntop6 ip)).2 c hc)

lemma not_mem_decText (n : ℕ) (h : (decDigit? c).isSome = false) : c ∉ decText n :=
  fun hc => absurd (decDigit?_of_mem_decText hc) (by rw [h]; exact Bool.false_ne_true)

lemma makeIoaAddr_ntop4 (ip : List.Vector UInt8 4) (port : UInt16) :
    makeIoaAddr (textToIp inet resolve) (inet.ntop4 ip) port = some (s4 ip port) := by
  have hlen : (inet.ntop4 ip).length < 64 := Nat.lt_trans (inet.ntop4_length ip) (by decide)
  rw [makeIoaAddr, textToIp_plain hlen (not_mem_ntop4 ip (by decide)), readIp,
    if_neg (inet.pton4_chars (inet.pton4_ntop4 ip)).1, inet.pton4_ntop4]

lemma makeIoaAddr_ntop6 (port : UInt16) :
    makeIoaAddr (textToIp inet resolve) (inet.ntop6 ip) port = some (s6 ip port) := by
  have hlen : (inet.ntop6 ip).length < 64 := Nat.lt_trans (inet.ntop6_length ip) (by decide)
  have hcolon : 0x3A ∈ inet.ntop6 ip := (inet.pton6_chars (inet.pton6_ntop6 ip)).1
  have hpton4 : inet.pton4 (inet.ntop6 ip) = none := by
    rw [eq_none_iff_forall_ne_some]
    intro ip' h
    exact absurd ((inet.pton4_chars h).2 0x3A hcolon) (by decide)
  rw [makeIoaAddr, textToIp_plain hlen (not_mem_ntop6 ip (by decide)), readIp,
    if_neg (ne_nil_of_mem hcolon), hpton4, inet.pton6_ntop6]

/-! ## The round trip -/

lemma roundTrip_s4 (ip : List.Vector UInt8 4) (port : UInt16) :
    (addrToString inet (s4 ip port)).bind (makeIoaAddrFromFullString inet resolve · 0) =
      some (s4 ip port) := by
  have hlen := inet.ntop4_length ip
  have hblank : 0x20 ∉ inet.ntop4 ip := not_mem_ntop4 ip (by decide)
  have hbracket : 0x5B ∉ inet.ntop4 ip := not_mem_ntop4 ip (by decide)
  have hcolon : 0x3A ∉ inet.ntop4 ip := not_mem_ntop4 ip (by decide)
  rw [addrToString, bind_some]
  by_cases hport : 0 < port
  · have hdigits := decText_length_le port
    rw [if_pos hport, take_of_length_le (by simp; omega), makeIoaAddrFromFullString,
      getAddrStringAndPort_plain, cutAt_append hcolon]
    · rw [bind_some, portOf_decText, if_neg (by grind), makeIoaAddr_ntop4]
    · simp [hblank, not_mem_decText port.toNat (c := 0x20) rfl]
    · simp [hbracket, not_mem_decText port.toNat (c := 0x5B) rfl]
  · obtain rfl : port = 0 := by grind
    rw [if_neg hport, take_of_length_le (by omega), makeIoaAddrFromFullString,
      getAddrStringAndPort_plain hblank hbracket, cutAt_eq_none hcolon]
    exact makeIoaAddr_ntop4 ip 0

lemma roundTrip_s6 {port : UInt16} (hport : port ≠ 0) :
    (addrToString inet (s6 ip port)).bind (makeIoaAddrFromFullString inet resolve · 0) =
      some (s6 ip port) := by
  have hlen := inet.ntop6_length ip
  have hdigits := decText_length_le port
  have hpos : 0 < port := by grind
  have hparts : getAddrStringAndPort
      (0x5B :: (inet.ntop6 ip ++ 0x5D :: 0x3A :: decText port.toNat)) =
      some (inet.ntop6 ip, port) := by
    rw [getAddrStringAndPort, dropWhile_cons_of_neg (by decide), head?_cons, if_pos rfl,
      tail_cons, cutAt_append (not_mem_ntop6 ip (by decide)), bind_some,
      dropWhile_cons_of_neg (by decide)]
    simp only [head?_cons, if_true, tail_cons, portOf_decText]
  rw [addrToString, bind_some, if_pos hpos, take_of_length_le (by simp; omega),
    makeIoaAddrFromFullString, hparts, bind_some, if_neg (by grind), makeIoaAddr_ntop6]

/-- The part of an IPv6 text before its first colon is no IPv6 text. -/
lemma makeIoaAddr_ne_s6 {s : List UInt8} (hlen : s.length < 64) (hblank : 0x20 ∉ s)
    (hcolon : 0x3A ∉ s) (port port' : UInt16) (ip : List.Vector UInt8 16) :
    makeIoaAddr (textToIp inet fun _ => []) s port ≠ some (s6 ip port') := by
  have hpton6 : inet.pton6 s = none := by
    rw [eq_none_iff_forall_ne_some]
    exact fun ip' h => hcolon (inet.pton6_chars h).1
  rw [makeIoaAddr, textToIp_plain hlen hblank, readIp, hpton6]
  split_ifs
  · simp
  · cases inet.pton4 s <;> simp

/-- An IPv6 address with port 0 is cut at its first colon. -/
lemma makeIoaAddrFromFullString_s6_zero :
    ∃ s t, inet.ntop6 ip = s ++ 0x3A :: t ∧ 0x3A ∉ s ∧
      (addrToString inet (s6 ip 0)).bind (makeIoaAddrFromFullString inet resolve · 0) =
        makeIoaAddr (textToIp inet resolve) s (portOf t) := by
  obtain ⟨s, t, htext, hcolon⟩ :=
    eq_append_cons_of_mem (inet.pton6_chars (inet.pton6_ntop6 ip)).1
  have hlen := inet.ntop6_length ip
  have hdefault : (if portOf t < 1 then (0 : UInt16) else portOf t) = portOf t := by
    split_ifs with hzero
    · grind
    · rfl
  refine ⟨s, t, htext, hcolon, ?_⟩
  rw [addrToString, bind_some, if_neg (by decide), take_of_length_le (by omega),
    makeIoaAddrFromFullString, getAddrStringAndPort_plain (not_mem_ntop6 ip (by decide))
      (not_mem_ntop6 ip (by decide)), htext, cutAt_append hcolon, bind_some, hdefault]

/-- The text of an address is read as the address exactly when it is IPv4 or has a port. -/
theorem addr_text_roundTrip_iff (inet : InetText) (addr : IoaAddr) :
    (∀ resolve, (addrToString inet addr).bind (makeIoaAddrFromFullString inet resolve · 0) =
      some addr) ↔ addr.family = 2 ∨ (addr.family = 10 ∧ addrGetPort addr ≠ 0) := by
  cases addr with
  | unset => simp [addrToString, family]
  | s4 ip port => exact iff_of_true (fun resolve => roundTrip_s4 ip port) (Or.inl rfl)
  | s6 ip port =>
    constructor
    · intro h
      refine Or.inr ⟨rfl, ?_⟩
      rintro (rfl : port = 0)
      obtain ⟨s, t, htext, hcolon, hread⟩ :=
        @makeIoaAddrFromFullString_s6_zero inet (fun _ => []) ip
      have hlen := inet.ntop6_length ip
      have hblank : 0x20 ∉ inet.ntop6 ip := not_mem_ntop6 ip (by decide)
      rw [htext] at hlen hblank
      rw [length_append] at hlen
      exact makeIoaAddr_ne_s6 (by omega) (fun hs => hblank (mem_append_left _ hs)) hcolon _ _
        ip (hread.symm.trans (h fun _ => []))
    · rintro (h | ⟨-, hport⟩) resolve
      · cases h
      · exact roundTrip_s6 ip hport

def numberText (ip : List.Vector UInt8 4) : List UInt8 := decText (beNat ip.toList + 1)

lemma numberText_injective : Function.Injective numberText := by
  intro ip ip' heq
  have hnat := congrArg (digitsValue 10 decDigit? 0) heq
  simp only [numberText, digitsValue_decText, Nat.add_right_cancel_iff] at hnat
  exact List.Vector.toList_injective (beNat_injective (by simp) hnat)

def colonText (ip : List.Vector UInt8 16) : List UInt8 :=
  if ip = .replicate 16 0 then asciiBytes "::" else 0x3A :: readableString ip.toList

lemma length_readableString_ipv6 : (readableString ip.toList).length = 32 := by
  rw [readableString_length, List.Vector.toList_length]

lemma colonText_injective : Function.Injective colonText := by
  intro ip ip' heq
  have hne : ∀ ip : List.Vector UInt8 16, asciiBytes "::" ≠ 0x3A :: readableString ip.toList :=
    fun ip h => absurd (congrArg List.length h)
      (by rw [length_cons, length_readableString_ipv6]; decide)
  simp only [colonText] at heq
  split_ifs at heq with hany hany'
  · rw [hany, hany']
  · exact absurd heq (hne ip')
  · exact absurd heq.symm (hne ip)
  · exact List.Vector.toList_injective (readableString_injective (List.cons.inj heq).2)

lemma numberText_length (ip : List.Vector UInt8 4) : (numberText ip).length < 16 := by
  have hlt := beNat_lt ip.toList
  rw [List.Vector.toList_length] at hlt
  rw [numberText, decText, length_map, length_reverse]
  exact Nat.lt_succ_of_le ((Nat.digits_length_le_iff (by decide) _).mpr (by omega))

lemma colonText_length : (colonText ip).length < 46 := by
  rw [colonText]
  split_ifs
  · decide
  · rw [length_cons, length_readableString_ipv6]
    decide

lemma numberText_chars (ip : List.Vector UInt8 4) :
    numberText ip ≠ [] ∧ ∀ c ∈ numberText ip, c = 0x2E ∨ (decDigit? c).isSome = true := by
  refine ⟨fun hnil => ?_, fun c hc => Or.inr (decDigit?_of_mem_decText hc)⟩
  have hvalue := digitsValue_decText (beNat ip.toList + 1)
  rw [← numberText, hnil] at hvalue
  cases hvalue

lemma colonText_chars : 0x3A ∈ colonText ip ∧
    ∀ c ∈ colonText ip, c = 0x3A ∨ c = 0x2E ∨ (hexDigit? c).isSome = true := by
  have hhex : ∀ n : Fin 256, ∀ c ∈ hexPair (UInt8.ofNat n), (hexDigit? c).isSome = true := by
    decide +kernel
  rw [colonText]
  split_ifs
  · decide +kernel
  · refine ⟨mem_cons_self, fun c hc => (mem_cons.mp hc).imp_right fun hc => Or.inr ?_⟩
    obtain ⟨b, -, hc⟩ := mem_flatMap.mp hc
    exact hhex ⟨b.toNat, b.toNat_lt⟩ c (by simpa using hc)

/-- An IPv4 address as a number, an IPv6 address as a colon and digits. -/
noncomputable def sampleInet : InetText where
  ntop4 := numberText
  ntop6 := colonText
  pton4 := Function.partialInv numberText
  pton6 := Function.partialInv colonText
  pton4_ntop4 ip := (numberText_injective.isPartialInv ip _).mpr rfl
  pton6_ntop6 ip := (colonText_injective.isPartialInv ip _).mpr rfl
  ntop4_length := numberText_length
  ntop6_length := colonText_length
  pton4_chars h := (numberText_injective.isPartialInv _ _).mp h ▸ numberText_chars _
  pton6_chars h := (colonText_injective.isPartialInv _ _).mp h ▸ colonText_chars _
  ntop6_any := if_pos rfl

/-- The IPv6 address `::` with port 0 is written as `::` and read as the IPv4 address `0.0.0.0`. -/
theorem unspecified_text_read_as_ipv4 :
    addrToString sampleInet (s6 (.replicate 16 0) 0) = some (asciiBytes "::") ∧
      makeIoaAddrFromFullString sampleInet (fun _ => []) (asciiBytes "::") 0 =
        some (s4 (.replicate 4 0) 0) := by
  refine ⟨?_, rfl⟩
  rw [addrToString, if_neg (by decide), sampleInet.ntop6_any]
  rfl

end Coturn
