/-
# Base 64 and mobility tickets

A mobility ticket is the base 64 text of a mobile id. `base64_decode` of `apps/common/apputils.c`
gives the encoded bytes back as long as the length of the text is a positive `int`. It reads a
character that is no digit as well, so a Refresh finds a mobile id also in texts that no encoding
has produced.
-/
import Coturn.Server.Defaults

namespace Coturn

open ByteSeq List

variable {d s : List UInt8} {low : UInt8 → UInt8} {memory : ℕ → UInt8}

/-- `base64_decode` for a text of any length; a byte that the loop does not reach is as `malloc` has
left it. -/
def base64DecodeIn (low : UInt8 → UInt8) (memory : ℕ → UInt8) (data : List UInt8) :
    Option (List UInt8) :=
  if data.length % 4 ≠ 0 then none
  else
    some ((List.range (data.length / 4 * 3 - (data.reverse.take 2).count 0x3D)).map fun j =>
      (base64Groups low (data.take (intBound data.length)))[j]?.getD (memory j))

/-! ## The round trip -/

lemma base64Value_of_lt {c : UInt8} (hc : c < 0x80) :
    base64Value low c = base64Value (fun _ => 0) c := by
  rw [base64Value, base64Value, if_pos hc, if_pos hc]

lemma base64Value_digit (n : ℕ) : base64Value low (base64Digit (n % 64)) = n % 64 := by
  have hall : ∀ k : Fin 64, base64Digit k < 0x80 ∧ base64Value (fun _ => 0) (base64Digit k) = k := by
    decide +kernel
  obtain ⟨hlt, hvalue⟩ := hall ⟨n % 64, Nat.mod_lt _ (by decide)⟩
  exact (base64Value_of_lt hlt).trans hvalue

lemma base64Digit_ne (n : ℕ) : base64Digit (n % 64) ≠ 0x3D := by
  have hall : ∀ k : Fin 64, base64Digit k ≠ 0x3D := by decide +kernel
  exact hall ⟨n % 64, Nat.mod_lt _ (by decide)⟩

lemma base64Value_lt {c : UInt8} (hc : c < 0x80) : base64Value low c < 64 := by
  rw [base64Value, if_pos hc]
  cases h : (List.range 64).find? fun n => base64Digit n == c with
  | none => decide
  | some n => exact mem_range.mp (mem_of_find?_eq_some h)

lemma base64Groups_length (s : List UInt8) : (base64Groups low s).length = s.length / 4 * 3 := by
  fun_induction base64Groups low s with
  | case1 a b c d rest ih =>
    simp only [length_append, length_beBytes, ih, length_cons]
    omega
  | case2 s h =>
    obtain _ | ⟨a, _ | ⟨b, _ | ⟨c, _ | ⟨d, rest⟩⟩⟩⟩ := s
    case cons.cons.cons.cons => exact (h a b c d rest rfl).elim
    all_goals simp

lemma base64Encode_length (d : List UInt8) : (base64Encode d).length = (d.length + 2) / 3 * 4 := by
  fun_induction base64Encode d with
  | case4 a b c rest ih =>
    simp only [length_append, length_map, length_cons, length_nil, ih]
    omega
  | _ => simp

lemma group_digits (a b c : UInt8) :
    beBytes 3 (beNat [a, b, c] / 64 ^ 3 % 64 * 64 ^ 3 + beNat [a, b, c] / 64 ^ 2 % 64 * 64 ^ 2 +
      beNat [a, b, c] / 64 ^ 1 % 64 * 64 + beNat [a, b, c] / 64 ^ 0 % 64) = [a, b, c] := by
  have hlt : beNat [a, b, c] < 256 ^ 3 := beNat_lt [a, b, c]
  generalize hn : beNat [a, b, c] = n at hlt
  have hsum : n / 64 ^ 3 % 64 * 64 ^ 3 + n / 64 ^ 2 % 64 * 64 ^ 2 + n / 64 ^ 1 % 64 * 64 +
      n / 64 ^ 0 % 64 = n := by omega
  rw [hsum, ← hn]
  exact beBytes_beNat rfl

lemma base64Number_four (a b c d : UInt8) :
    base64Number low [a, b, c, d] = base64Value low a * 64 ^ 3 + base64Value low b * 64 ^ 2 +
      base64Value low c * 64 + base64Value low d := by
  simp only [base64Number, foldl_cons, foldl_nil]
  ring

/-- What is missing in the last group is read as zeros. -/
lemma base64Groups_encode (d : List UInt8) :
    base64Groups low (base64Encode d) = d ++ List.replicate ((3 - d.length % 3) % 3) 0 := by
  have hpad : base64Value low 0x3D = 0 := (base64Value_of_lt (by decide)).trans (by decide +kernel)
  fun_induction base64Encode d with
  | case1 => rfl
  | case2 a =>
    refine Eq.trans ?_ (group_digits a 0 0)
    simp [base64Groups, base64Number_four, base64Value_digit, hpad, beNat]
    refine congrArg (beBytes 3) ?_
    omega
  | case3 a b =>
    refine Eq.trans ?_ (group_digits a b 0)
    simp [base64Groups, base64Number_four, base64Value_digit, hpad, beNat]
    refine congrArg (beBytes 3) ?_
    omega
  | case4 a b c rest ih =>
    simp only [map_cons, map_nil, cons_append, nil_append, base64Groups, base64Number_four,
      base64Value_digit, ih]
    rw [group_digits]
    have hpads : (3 - (rest.length + 1 + 1 + 1) % 3) % 3 = (3 - rest.length % 3) % 3 := by omega
    simp [hpads]

lemma count_pad_encode (d : List UInt8) :
    ((base64Encode d).reverse.take 2).count 0x3D = (3 - d.length % 3) % 3 := by
  fun_induction base64Encode d with
  | case1 => rfl
  | case2 a => simp
  | case3 a b => simp [base64Digit_ne]
  | case4 a b c rest ih =>
    cases rest with
    | nil => simp [base64Encode, base64Digit_ne]
    | cons x rest =>
      rw [reverse_append, take_append_of_le_length, ih]
      · simp only [length_cons]
        omega
      · rw [length_reverse, base64Encode_length, length_cons]
        omega

lemma base64Decode_encode (d : List UInt8) : base64Decode low (base64Encode d) = some d := by
  have hmod : (d.length + 2) / 3 * 4 % 4 = 0 := Nat.mul_mod_left _ _
  have hlen : (d.length + 2) / 3 * 4 / 4 * 3 - (3 - d.length % 3) % 3 = d.length := by omega
  rw [base64Decode, base64Encode_length, count_pad_encode, base64Groups_encode, hlen]
  simp [hmod]

/-- While the length is an `int`, every byte of the result is written. -/
lemma base64DecodeIn_eq (hlen : s.length < 2 ^ 31) :
    base64DecodeIn low memory s = base64Decode low s := by
  rw [base64DecodeIn, base64Decode, intBound_eq hlen, take_length]
  refine if_congr Iff.rfl rfl (congrArg some (ext_getElem ?_ ?_))
  · simp [base64Groups_length]
  · intro j hj hj'
    rw [length_take, base64Groups_length] at hj'
    simp [base64Groups_length, show j < s.length / 4 * 3 by omega]

/-- With more characters, the last byte of the result is not. -/
lemma base64DecodeIn_ne (hlen : 1610612733 < d.length)
    (hmemory : d[d.length - 1]? ≠ some (memory (d.length - 1))) :
    base64DecodeIn low memory (base64Encode d) ≠ some d := by
  intro h
  have hbound : intBound ((d.length + 2) / 3 * 4) / 4 * 3 < d.length := by
    rw [intBound]
    split_ifs <;> omega
  have hpads : (d.length + 2) / 3 * 4 / 4 * 3 - (3 - d.length % 3) % 3 = d.length := by omega
  rw [base64DecodeIn, if_neg (by rw [base64Encode_length]; omega), count_pad_encode,
    base64Encode_length, hpads, Option.some_inj] at h
  have hlast := congrArg (·[d.length - 1]?) h
  have hgroups : (base64Groups low
      ((base64Encode d).take (intBound ((d.length + 2) / 3 * 4)))).length ≤ d.length - 1 := by
    rw [base64Groups_length, length_take, base64Encode_length]
    omega
  rw [getElem?_map, getElem?_range (by omega), Option.map_some,
    getElem?_eq_none hgroups, Option.getD_none] at hlast
  exact hmemory hlast.symm

/-- Base 64 is read back, whatever the memory from `malloc` holds, exactly for data of at most
1610612733 bytes; and every mobile id is read back from its ticket. -/
theorem base64_roundTrip_iff (low : UInt8 → UInt8) (d : List UInt8) (mid : UInt64) :
    ((∀ memory, base64DecodeIn low memory (base64Encode d) = some d) ↔ d.length ≤ 1610612733) ∧
      stringToMobileId low (mobileIdToString mid) = mid := by
  refine ⟨⟨fun h => ?_, fun hlen memory => ?_⟩, ?_⟩
  · by_contra hlen
    refine base64DecodeIn_ne (by omega) ?_ (h fun j => d[j]?.getD 0 + 1)
    rw [getElem?_eq_getElem (by omega)]
    intro heq
    simp at heq
  · rw [base64DecodeIn_eq (by rw [base64Encode_length]; omega), base64Decode_encode]
  · rw [stringToMobileId, mobileIdToString, base64Decode_encode]
    simp [beNat_beBytes]

/-- The text has 2147483648 characters, and fresh memory is returned as it was. -/
theorem large_data_not_read_back :
    base64DecodeIn (fun _ => 0) (fun _ => 0) (base64Encode (List.replicate 1610612734 1)) ≠
      some (List.replicate 1610612734 1) := by
  refine base64DecodeIn_ne ?_ ?_
  · rw [length_replicate]
    decide
  · rw [length_replicate, getElem?_replicate_of_lt (by decide)]
    decide

/-! ## What is read as a ticket -/

/-- Eleven characters of the alphabet and the padding. -/
def IsTicketText (s : List UInt8) : Prop :=
  ∃ body, s = body ++ [0x3D] ∧ body.length = 11 ∧ ∀ c ∈ body, ∃ n < 64, base64Digit n = c

/-- The digits of twelve characters leave the mobile id zero. Of the last group eight bits are cut
off. -/
def ZeroDigits (low : UInt8 → UInt8) (s : List UInt8) : Prop :=
  base64Number low (s.take 4) % 256 ^ 3 = 0 ∧ base64Number low ((s.drop 4).take 4) % 256 ^ 3 = 0 ∧
    base64Number low ((s.drop 8).take 4) / 256 % 256 ^ 2 = 0

/-- Without characters from 0x80 on: the first ten digits are zero, and the eleventh has no more
than the two bits that are cut off. -/
lemma zeroDigits_iff (hlen : s.length = 12) (hascii : ∀ c ∈ s, c < 0x80) : ZeroDigits low s ↔
    (∀ c ∈ s.take 10, base64Value low c = 0) ∧ base64Value low (s.getD 10 0) < 4 := by
  have hgroup : ∀ {a b c d : ℕ}, a < 64 → b < 64 → c < 64 → d < 64 →
      ((a * 64 ^ 3 + b * 64 ^ 2 + c * 64 + d) % 256 ^ 3 = 0 ↔ a = 0 ∧ b = 0 ∧ c = 0 ∧ d = 0) := by
    omega
  have hlast : ∀ {a b c d : ℕ}, a < 64 → b < 64 → c < 64 → d < 64 →
      ((a * 64 ^ 3 + b * 64 ^ 2 + c * 64 + d) / 256 % 256 ^ 2 = 0 ↔ a = 0 ∧ b = 0 ∧ c < 4) := by
    intro a b c d ha hb hc hd
    rw [Nat.mod_eq_of_lt (by omega)]
    omega
  have hlt : ∀ c ∈ s, base64Value low c < 64 := fun c hc => base64Value_lt (hascii c hc)
  obtain _ | ⟨a, _ | ⟨b, _ | ⟨c, _ | ⟨d, _ | ⟨e, _ | ⟨f, _ | ⟨g, _ | ⟨h, _ | ⟨i, _ | ⟨j, _ | ⟨k, _ |
    ⟨l, _ | ⟨m, s⟩⟩⟩⟩⟩⟩⟩⟩⟩⟩⟩⟩⟩ := s
  case cons.cons.cons.cons.cons.cons.cons.cons.cons.cons.cons.cons.nil =>
    simp only [forall_mem_cons] at hlt
    obtain ⟨ha, hb, hc, hd, he, hf, hg, hh, hi, hj, hk, hl, -⟩ := hlt
    simp only [ZeroDigits, take_succ_cons, take_zero, drop_succ_cons, drop_zero, base64Number_four]
    rw [hgroup ha hb hc hd, hgroup he hf hg hh, hlast hi hj hk hl]
    simp [and_assoc]
  all_goals simp at hlen

/-- The mobile id has the first eight of the nine bytes that twelve characters make. -/
lemma stringToMobileId_twelve (hlen : s.length = 12) (hcount : (s.drop 10).count 0x3D = 1) :
    stringToMobileId low s = UInt64.ofNat (beNat ((base64Groups low s).take 8).reverse) := by
  rw [stringToMobileId, base64Decode, take_reverse, count_reverse, hlen, hcount]
  simp [base64Groups_length, hlen]

lemma beBytes_zero_iff (k n : ℕ) : (∀ x ∈ beBytes k n, x = 0) ↔ n % 256 ^ k = 0 := by
  rw [← beNat_eq_zero_iff, beNat_beBytes]

lemma take_groups_zero_iff (hlen : s.length = 12) :
    (∀ x ∈ (base64Groups low s).take 8, x = 0) ↔ ZeroDigits low s := by
  obtain _ | ⟨a, _ | ⟨b, _ | ⟨c, _ | ⟨d, _ | ⟨e, _ | ⟨f, _ | ⟨g, _ | ⟨h, _ | ⟨i, _ | ⟨j, _ | ⟨k, _ |
    ⟨l, _ | ⟨m, s⟩⟩⟩⟩⟩⟩⟩⟩⟩⟩⟩⟩⟩ := s
  case cons.cons.cons.cons.cons.cons.cons.cons.cons.cons.cons.cons.nil =>
    -- of the last group, the low byte is cut off
    have hcut : ∀ n, (beBytes 3 n).take 2 = beBytes 2 (n / 256) := fun n => by
      simp [beBytes, Nat.div_div_eq_div_mul]
    have htake : (base64Groups low [a, b, c, d, e, f, g, h, i, j, k, l]).take 8 =
        beBytes 3 _ ++ (beBytes 3 _ ++ (beBytes 3 _).take 2) := rfl
    rw [htake, forall_mem_append, forall_mem_append, hcut]
    simp only [beBytes_zero_iff]
    exact Iff.rfl
  all_goals simp at hlen

lemma stringToMobileId_ne_zero_iff : stringToMobileId low s ≠ 0 ↔
    s.length = 12 ∧ (s.drop 10).count 0x3D = 1 ∧ ¬ ZeroDigits low s := by
  constructor
  · intro h
    obtain ⟨hlen, hcount⟩ : s.length = 12 ∧ (s.drop 10).count 0x3D = 1 := by
      rw [stringToMobileId, base64Decode, take_reverse, count_reverse] at h
      split_ifs at h with hmod
      · exact absurd rfl h
      · simp only [length_take, base64Groups_length] at h
        have hle : (s.drop (s.length - 2)).count 0x3D ≤ 2 :=
          count_le_length.trans (by rw [length_drop]; omega)
        split_ifs at h with height
        · have hlen : s.length = 12 := by omega
          simp only [hlen, Nat.reduceSub] at height
          exact ⟨hlen, by omega⟩
        · exact absurd rfl h
    refine ⟨hlen, hcount, fun hzero => h ?_⟩
    rw [stringToMobileId_twelve hlen hcount, (beNat_eq_zero_iff _).mpr]
    · rfl
    · simpa using (take_groups_zero_iff hlen).mpr hzero
  · rintro ⟨hlen, hcount, hdigits⟩ h
    rw [stringToMobileId_twelve hlen hcount] at h
    have hlt : beNat ((base64Groups low s).take 8).reverse < 2 ^ 64 := by
      refine (beNat_lt _).trans_le ((Nat.pow_le_pow_right (by decide) ?_).trans_eq
        (by decide : 256 ^ 8 = 2 ^ 64))
      rw [length_reverse]
      exact length_take_le _ _
    have hzero := congrArg UInt64.toNat h
    rw [UInt64.toNat_ofNat', Nat.mod_eq_of_lt hlt] at hzero
    refine hdigits ((take_groups_zero_iff hlen).mp ?_)
    simpa using (beNat_eq_zero_iff _).mp hzero

/-- The array has, after the value, the rest of an earlier ticket of the message. -/
def ticketText (p : Parsed RefreshVars) (value : List UInt8) : List UInt8 :=
  cStr (value ++ p.val.smid.drop value.length)

lemma refreshAttr_mid {cfg : Config} (hmobility : cfg.mobility = true) (v : RefreshView)
    (p : Parsed RefreshVars) (offset : ℕ) {value : List UInt8}
    (hlen : value ≠ [] ∧ value.length < 33) :
    (refreshAttr cfg v p ⟨offset, attrMobilityTicket, value⟩).val.mid =
      stringToMobileId cfg.beforeTable (ticketText p value) := by
  simp only [refreshAttr, hmobility, if_pos hlen]
  rw [if_neg (by decide)]
  simp only [Bool.not_true, Bool.false_eq_true, if_false]
  split_ifs <;> rfl

/-- A value in which a Refresh finds a mobile id is the text of a ticket, exactly when it is one or
the string in the array has not twelve characters, has not one `=` in its last two places, or has
only zero digits, with the digits from 0x80 on as the memory before the table has them. -/
theorem ticket_found_iff (cfg : Config) (v : RefreshView) (p : Parsed RefreshVars) (offset : ℕ)
    (value : List UInt8) (hmobility : cfg.mobility = true)
    (hlen : value ≠ [] ∧ value.length < 33) :
    ((refreshAttr cfg v p ⟨offset, attrMobilityTicket, value⟩).val.mid ≠ 0 →
        IsTicketText (cStr value)) ↔
      IsTicketText (cStr value) ∨ (ticketText p value).length ≠ 12 ∨
        ((ticketText p value).drop 10).count 0x3D ≠ 1 ∨
          ZeroDigits cfg.beforeTable (ticketText p value) := by
  rw [refreshAttr_mid hmobility v p offset hlen, stringToMobileId_ne_zero_iff]
  tauto

/-- A Refresh with the value in its MOBILITY-TICKET. -/
def ticketRead (value : List UInt8) : Parsed RefreshVars :=
  refreshAttr { plainParams with mobility := true } ⟨false, false, false, 0⟩
    (.start ⟨0, false, 0, [], false, false⟩) ⟨20, attrMobilityTicket, value⟩

theorem ticket_found_iff_ticket :
    (ticketRead (mobileIdToString 1)).val.mid ≠ 0 ∧ IsTicketText (cStr (mobileIdToString 1)) := by
  have hfound : (ticketRead (mobileIdToString 1)).val.mid ≠ 0 := by decide +kernel
  refine ⟨hfound, (ticket_found_iff _ _ _ 20 _ rfl (by decide +kernel)).mpr ?_ hfound⟩
  exact Or.inl ⟨(mobileIdToString 1).take 11, by decide +kernel, by decide +kernel,
    by decide +kernel⟩

/-- A character outside of the alphabet is read as the digit 0. -/
theorem non_alphabet_ticket_found :
    (ticketRead (asciiBytes "B!!!!!!!!!!=")).val.mid = 4 ∧
      ¬ IsTicketText (cStr (asciiBytes "B!!!!!!!!!!=")) := by
  constructor
  · decide +kernel
  · rintro ⟨body, hbody, -, halphabet⟩
    have hdrop := congrArg List.dropLast hbody
    rw [dropLast_concat] at hdrop
    have hmem : (0x21 : UInt8) ∈ body := hdrop ▸ by decide +kernel
    exact absurd (halphabet _ hmem) (by decide +kernel)

end Coturn
