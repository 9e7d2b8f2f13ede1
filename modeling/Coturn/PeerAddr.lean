/-
# Peer address filters

The white and black lists of peer addresses: how `add_ip_list_range` (`apps/relay/userdb.c`) builds
a range from its text, when `ioa_addr_in_range` finds an address in it, and the check
`good_peer_addr` that every peer has to pass. The text-to-address conversion is a parameter.
-/
import Coturn.Ioaddr

namespace Coturn

open ByteSeq IoaAddr

variable {realm : List UInt8} {peer : IoaAddr}

/-- Text-to-address conversion (`inet_pton`, then `getaddrinfo`): an IPv4 or an IPv6 address. -/
abbrev TextToIp := List UInt8 → Option (List.Vector UInt8 4 ⊕ List.Vector UInt8 16)

def makeIoaAddr (toIp : TextToIp) (saddr : List UInt8) (port : UInt16) : Option IoaAddr :=
  match toIp saddr with
  | some (.inl ip) => some (s4 ip port)
  | some (.inr ip) => some (s6 ip port)
  | none => none

/-- An `ip_range_t`; the texts are C strings, cut to the sizes of their arrays. -/
structure IpRange where
  str : List UInt8
  realm : List UInt8
  enc : IoaAddrRange
  deriving DecidableEq

/-- The upper bound, from the text that starts at the separator; without a separator the
range is a single address. -/
def ipRangeMax (toIp : TextToIp) (min : IoaAddr) : List UInt8 → Option IoaAddr
  | [] => some min
  | _ :: rest => makeIoaAddr toIp rest 0

/-- The list with the new range at its end, or `none` for a wrong address format. The byte
45 is the separator `-`. -/
def addIpListRange (toIp : TextToIp) (range0 : List UInt8) (realm : Option (List UInt8))
    (list : List IpRange) : Option (List IpRange) := do
  let min ← makeIoaAddr toIp (range0.takeWhile (· != 45)) 0
  let max ← ipRangeMax toIp min (range0.dropWhile (· != 45))
  return list ++ [⟨range0.take 256, (realm.getD []).take 512, ⟨min, max⟩⟩]

/-! ## Membership in a range -/

/-- The unwrapped peer has the family of the range and lies between the bounds as a number. -/
def IoaAddrRange.NumericMem (range : IoaAddrRange) (peer : IoaAddr) : Prop :=
  (range.unwrap peer).family = range.min.family ∧
    range.min.ipNat ≤ (range.unwrap peer).ipNat ∧ (range.unwrap peer).ipNat ≤ range.max.ipNat
  deriving Decidable

/-- The inputs on which the wildcard bounds, the family fall-through and the byte loop do not show.
-/
structure IoaAddrRange.Plain (range : IoaAddrRange) (peer : IoaAddr) : Prop where
  /-- A range that ends in the all-zero address is asked about that address only. -/
  zero_max : range.max.ipNat = 0 → range.NumericMem peer
  /-- An IPv6 range from `::` is not asked about an IPv4 peer. -/
  zero_min : range.min.family = 10 → range.min.ipNat = 0 → peer.family = 10
  /-- A peer inside an IPv6 range has every byte between the bytes of the bounds. -/
  bytes_between : range.min.family = 10 → range.NumericMem peer →
    List.Forall₂ (· ≤ ·) range.min.bytes peer.bytes ∧
      List.Forall₂ (· ≤ ·) peer.bytes range.max.bytes

section Range

variable {lo hi ip : List.Vector UInt8 4} {lo6 hi6 ip6 : List.Vector UInt8 16} {port : UInt16}

lemma unwrap_s6 (h : isV4Mapped ip6 = true) :
    (⟨s4 lo 0, s4 hi 0⟩ : IoaAddrRange).unwrap (s6 ip6 port) = s4 (embeddedV4 ip6) 0 := by
  simp [IoaAddrRange.unwrap, IoaAddrRange.family, family, h]

lemma unwrap_s6_of_not_mapped (h : isV4Mapped ip6 = false) :
    (⟨s4 lo 0, s4 hi 0⟩ : IoaAddrRange).unwrap (s6 ip6 port) = s6 ip6 port := by
  simp [IoaAddrRange.unwrap, h]

@[simp] lemma unwrap_s4 (range : IoaAddrRange) : range.unwrap (s4 ip port) = s4 ip port := rfl

@[simp] lemma unwrap_v6Range (peer : IoaAddr) :
    (⟨s6 lo6 0, s6 hi6 0⟩ : IoaAddrRange).unwrap peer = peer := by
  cases peer <;> rfl

/-- What the wildcard treatment of an all-zero upper bound leaves of the IPv4 test. -/
lemma inRange_s4 (peer : IoaAddr)
    (hpeer : (⟨s4 lo 0, s4 hi 0⟩ : IoaAddrRange).unwrap peer = s4 ip port)
    (hle : beNat lo.toList ≤ beNat hi.toList) :
    ioaAddrInRange ⟨s4 lo 0, s4 hi 0⟩ peer = true ↔ beNat hi.toList = 0 ∨
      (beNat lo.toList ≤ beNat ip.toList ∧ beNat ip.toList ≤ beNat hi.toList) := by
  have hmin : beNat lo.toList = 0 ∨ beNat lo.toList ≤ beNat ip.toList ↔
      beNat lo.toList ≤ beNat ip.toList :=
    or_iff_right_of_imp fun h => by omega
  simp only [ioaAddrInRange, hpeer, addrLessEq_s4, Bool.or_eq_true, decide_eq_true_eq,
    addrAny_s4_iff, hmin]
  by_cases hz : beNat hi.toList = 0
  · have hzlo : beNat lo.toList = 0 := by omega
    simp [hz, hzlo]
  · simp [hz]

/-- An IPv6 peer that is not mapped is found in an IPv4 range only through the wildcard. -/
lemma inRange_s4_of_not_mapped (h : isV4Mapped ip6 = false) :
    ioaAddrInRange ⟨s4 lo 0, s4 hi 0⟩ (s6 ip6 port) = true ↔ beNat hi.toList = 0 := by
  simp [ioaAddrInRange, unwrap_s6_of_not_mapped h, addrAny_s4_iff]

lemma inRange_s6_s4 :
    ioaAddrInRange ⟨s6 lo6 0, s6 hi6 0⟩ (s4 ip port) = true ↔ beNat lo6.toList = 0 := by
  simp [ioaAddrInRange, addrAny_s6_iff]

lemma forall₂_of_beNat_eq_zero (h : beNat lo6.toList = 0) :
    List.Forall₂ (· ≤ ·) lo6.toList ip6.toList := by
  rw [List.forall₂_iff_get]
  refine ⟨by simp, fun i hi _ => ?_⟩
  have hzero := (beNat_eq_zero_iff _).mp h _ (List.get_mem lo6.toList ⟨i, hi⟩)
  rw [hzero]
  exact UInt8.zero_le

lemma inRange_s6_s6 (hle : beNat lo6.toList ≤ beNat hi6.toList) :
    ioaAddrInRange ⟨s6 lo6 0, s6 hi6 0⟩ (s6 ip6 port) = true ↔ beNat hi6.toList = 0 ∨
      (List.Forall₂ (· ≤ ·) lo6.toList ip6.toList ∧
        List.Forall₂ (· ≤ ·) ip6.toList hi6.toList) := by
  have hmin : beNat lo6.toList = 0 ∨ List.Forall₂ (· ≤ ·) lo6.toList ip6.toList ↔
      List.Forall₂ (· ≤ ·) lo6.toList ip6.toList :=
    or_iff_right_of_imp forall₂_of_beNat_eq_zero
  simp only [ioaAddrInRange, unwrap_v6Range, addrLessEq_s6, Bool.or_eq_true, addrAny_s6_iff,
    noByteAbove_iff (show lo6.toList.length = ip6.toList.length by simp), hmin]
  by_cases hz : beNat hi6.toList = 0
  · have hzlo : beNat lo6.toList = 0 := by omega
    simp [hz, forall₂_of_beNat_eq_zero hzlo]
  · simp [hz, noByteAbove_iff (show ip6.toList.length = hi6.toList.length by simp)]

lemma inRange_s4_numeric_iff (hpeer : peer.IsInet) (hle : beNat lo.toList ≤ beNat hi.toList) :
    (ioaAddrInRange ⟨s4 lo 0, s4 hi 0⟩ peer = true ↔
        (⟨s4 lo 0, s4 hi 0⟩ : IoaAddrRange).NumericMem peer) ↔
      (⟨s4 lo 0, s4 hi 0⟩ : IoaAddrRange).Plain peer := by
  -- the conditions on IPv6 ranges are void here
  have hplain : (⟨s4 lo 0, s4 hi 0⟩ : IoaAddrRange).Plain peer ↔
      (beNat hi.toList = 0 → (⟨s4 lo 0, s4 hi 0⟩ : IoaAddrRange).NumericMem peer) :=
    ⟨fun h => h.zero_max, fun h => ⟨h, fun hf => absurd hf (by decide : (2 : Nat) ≠ 10),
      fun hf => absurd hf (by decide : (2 : Nat) ≠ 10)⟩⟩
  rw [hplain]
  -- either the unwrapped peer is an IPv4 address, or no IPv4 range holds it
  have hcases : (∃ ip port, (⟨s4 lo 0, s4 hi 0⟩ : IoaAddrRange).unwrap peer = s4 ip port) ∨
      ∃ ip6 port, peer = s6 ip6 port ∧ isV4Mapped ip6 = false := by
    cases peer with
    | unset => exact absurd hpeer (by decide)
    | s4 ip port => exact Or.inl ⟨ip, port, rfl⟩
    | s6 ip6 port =>
      cases hm : isV4Mapped ip6 with
      | false => exact Or.inr ⟨ip6, port, rfl, hm⟩
      | true => exact Or.inl ⟨embeddedV4 ip6, 0, unwrap_s6 hm⟩
  rcases hcases with ⟨ip, port, hu⟩ | ⟨ip6, port, rfl, hm⟩
  · have hnum : (⟨s4 lo 0, s4 hi 0⟩ : IoaAddrRange).NumericMem peer ↔
        beNat lo.toList ≤ beNat ip.toList ∧ beNat ip.toList ≤ beNat hi.toList := by
      simp [IoaAddrRange.NumericMem, hu, family, ipNat, bytes]
    rw [inRange_s4 peer hu hle, hnum]
    tauto
  · have hnum : ¬ (⟨s4 lo 0, s4 hi 0⟩ : IoaAddrRange).NumericMem (s6 ip6 port) := by
      rintro ⟨hf, -⟩
      rw [unwrap_s6_of_not_mapped hm] at hf
      exact absurd hf (by simp [family])
    rw [inRange_s4_of_not_mapped hm]
    tauto

lemma inRange_s6_numeric_iff (hpeer : peer.IsInet) (hle : beNat lo6.toList ≤ beNat hi6.toList) :
    (ioaAddrInRange ⟨s6 lo6 0, s6 hi6 0⟩ peer = true ↔
        (⟨s6 lo6 0, s6 hi6 0⟩ : IoaAddrRange).NumericMem peer) ↔
      (⟨s6 lo6 0, s6 hi6 0⟩ : IoaAddrRange).Plain peer := by
  cases peer with
  | unset => exact absurd hpeer (by decide)
  | s4 ip port =>
    have hnum : ¬ (⟨s6 lo6 0, s6 hi6 0⟩ : IoaAddrRange).NumericMem (s4 ip port) := by
      rintro ⟨hf, -⟩
      exact absurd hf (by simp [family])
    rw [inRange_s6_s4]
    constructor
    · intro h
      have hlo : beNat lo6.toList ≠ 0 := fun hz => hnum (h.mp hz)
      have hhi : beNat hi6.toList ≠ 0 := by omega
      exact ⟨fun hz => absurd hz hhi, fun _ hz => absurd hz hlo, fun _ hm => absurd hm hnum⟩
    · intro h
      refine ⟨fun hz => absurd (h.zero_min rfl hz) (by simp [family]), fun hm => absurd hm hnum⟩
  | s6 ip6 port =>
    have hnum : (⟨s6 lo6 0, s6 hi6 0⟩ : IoaAddrRange).NumericMem (s6 ip6 port) ↔
        beNat lo6.toList ≤ beNat ip6.toList ∧ beNat ip6.toList ≤ beNat hi6.toList := by
      simp [IoaAddrRange.NumericMem, family, ipNat, bytes]
    rw [inRange_s6_s6 hle]
    constructor
    · intro h
      refine ⟨fun hz => h.mp (Or.inl hz), fun _ _ => rfl, fun _ hm => ?_⟩
      rcases h.mpr hm with hz | hbytes
      · -- the range is the single address `::`, so the peer is that address
        have hbounds := hnum.mp hm
        have hpz : beNat ip6.toList = 0 := by
          have : beNat hi6.toList = 0 := hz
          omega
        exact ⟨forall₂_of_beNat_eq_zero (by omega), forall₂_of_beNat_eq_zero hpz⟩
      · exact hbytes
    · intro h
      constructor
      · rintro (hz | ⟨hlo, hhi⟩)
        · exact h.zero_max hz
        · exact hnum.mpr ⟨beNat_le_of_forall₂ hlo, beNat_le_of_forall₂ hhi⟩
      · exact fun hm => Or.inr (h.bytes_between rfl hm)

end Range

lemma makeIoaAddr_eq_some {toIp : TextToIp} {saddr : List UInt8} {port : UInt16} {a : IoaAddr}
    (h : makeIoaAddr toIp saddr port = some a) :
    (∃ ip, a = s4 ip port) ∨ ∃ ip, a = s6 ip port := by
  unfold makeIoaAddr at h
  split at h
  · exact Or.inl ⟨_, (Option.some.inj h).symm⟩
  · exact Or.inr ⟨_, (Option.some.inj h).symm⟩
  · cases h

variable {list : List IpRange}

/-- A range that `add_ip_list_range` appends has bounds without port. -/
lemma addIpListRange_enc {toIp : TextToIp} {range0 : List UInt8} {realm : Option (List UInt8)}
    {e : IpRange}
    (h : addIpListRange toIp range0 realm list = some (list ++ [e]))
    (hfam : e.enc.min.family = e.enc.max.family) :
    (∃ lo hi, e.enc = ⟨s4 lo 0, s4 hi 0⟩) ∨ ∃ lo hi, e.enc = ⟨s6 lo 0, s6 hi 0⟩ := by
  simp only [addIpListRange, Option.pure_def, Option.bind_eq_bind, Option.bind_eq_some_iff,
    Option.some.injEq, List.append_cancel_left_eq, List.cons.injEq, and_true] at h
  obtain ⟨min, hmin, max, hmax, rfl⟩ := h
  have hmax' : (∃ ip, max = s4 ip 0) ∨ ∃ ip, max = s6 ip 0 := by
    cases hrest : range0.dropWhile (· != 45) with
    | nil =>
      rw [hrest] at hmax
      cases hmax
      exact makeIoaAddr_eq_some hmin
    | cons _ rest =>
      rw [hrest] at hmax
      exact makeIoaAddr_eq_some hmax
  rcases makeIoaAddr_eq_some hmin with ⟨lo, rfl⟩ | ⟨lo, rfl⟩ <;>
    rcases hmax' with ⟨hi, rfl⟩ | ⟨hi, rfl⟩
  · exact Or.inl ⟨lo, hi, rfl⟩
  · exact absurd hfam (by simp [family])
  · exact absurd hfam (by simp [family])
  · exact Or.inr ⟨lo, hi, rfl⟩

lemma addrLessEq_iff_of_s4 {a b : IoaAddr} (ha : a.family = 2) (hb : b.family = 2) :
    addrLessEq a b = true ↔ a.ipNat ≤ b.ipNat := by
  obtain ⟨ip, port, rfl⟩ := family_eq_two_iff.mp ha
  obtain ⟨ip', port', rfl⟩ := family_eq_two_iff.mp hb
  simp [ipNat, bytes]

/-- On IPv6 addresses `addr_less_eq` is the byte-by-byte order. -/
lemma addrLessEq_iff_of_s6 {a b : IoaAddr} (ha : a.family = 10) (hb : b.family = 10) :
    (addrLessEq a b = true ↔ a.ipNat ≤ b.ipNat) ↔
      (a.ipNat ≤ b.ipNat → List.Forall₂ (· ≤ ·) a.bytes b.bytes) := by
  obtain ⟨ip, port, rfl⟩ := family_eq_ten_iff.mp ha
  obtain ⟨ip', port', rfl⟩ := family_eq_ten_iff.mp hb
  exact noByteAbove_eq_beNat_le_iff (by simp)

/-- Membership in a range is numeric exactly on the plain inputs; `addr_less_eq` is numeric on IPv4,
and on IPv6 exactly where the numeric order is the byte-by-byte one. -/
theorem ioaAddrInRange_numeric_iff (toIp : TextToIp) (range0 : List UInt8)
    (realm : Option (List UInt8)) (list : List IpRange) (e : IpRange) (peer : IoaAddr)
    (hadd : addIpListRange toIp range0 realm list = some (list ++ [e]))
    (hfam : e.enc.min.family = e.enc.max.family) (hle : e.enc.min.ipNat ≤ e.enc.max.ipNat)
    (hpeer : peer.IsInet) :
    ((ioaAddrInRange e.enc peer = true ↔ e.enc.NumericMem peer) ↔ e.enc.Plain peer) ∧
      (∀ a b : IoaAddr, a.family = 2 → b.family = 2 →
        (addrLessEq a b = true ↔ a.ipNat ≤ b.ipNat)) ∧
      ∀ a b : IoaAddr, a.family = 10 → b.family = 10 →
        ((addrLessEq a b = true ↔ a.ipNat ≤ b.ipNat) ↔
          (a.ipNat ≤ b.ipNat → List.Forall₂ (· ≤ ·) a.bytes b.bytes)) := by
  refine ⟨?_, fun a b => addrLessEq_iff_of_s4, fun a b => addrLessEq_iff_of_s6⟩
  rcases addIpListRange_enc hadd hfam with ⟨lo, hi, he⟩ | ⟨lo, hi, he⟩
  · rw [he] at hle ⊢
    exact inRange_s4_numeric_iff hpeer hle
  · rw [he] at hle ⊢
    exact inRange_s6_numeric_iff hpeer hle

def sampleToIp : TextToIp
  | [58, 58, 102, 102] => some (.inr ⟨[0, 0, 0, 0, 0, 0, 0, 0, 0, 0, 0, 0, 0, 0, 0, 0xff], rfl⟩)
  | [58, 58, 49, 58, 48] => some (.inr ⟨[0, 0, 0, 0, 0, 0, 0, 0, 0, 0, 0, 0, 0, 1, 0, 0], rfl⟩)
  | _ => none

def sampleText : List UInt8 := [58, 58, 102, 102, 45, 58, 58, 49, 58, 48]

def sampleLo : IoaAddr := s6 ⟨[0, 0, 0, 0, 0, 0, 0, 0, 0, 0, 0, 0, 0, 0, 0, 0xff], rfl⟩ 0

def sampleHi : IoaAddr := s6 ⟨[0, 0, 0, 0, 0, 0, 0, 0, 0, 0, 0, 0, 0, 1, 0, 0], rfl⟩ 0

/-- The range `::ff-::1:0` does not contain its own upper bound. -/
theorem ioaAddrInRange_misses_max :
    addIpListRange sampleToIp sampleText none [] =
        some ([] ++ [⟨sampleText, [], ⟨sampleLo, sampleHi⟩⟩]) ∧
      sampleLo.family = sampleHi.family ∧ sampleLo.ipNat ≤ sampleHi.ipNat ∧
      (⟨sampleLo, sampleHi⟩ : IoaAddrRange).NumericMem sampleHi ∧
      ioaAddrInRange ⟨sampleLo, sampleHi⟩ sampleHi = false ∧
      addrLessEq sampleLo sampleHi = false ∧ addrLessEq sampleHi sampleLo = false := by
  decide

theorem ioaAddrInRange_numeric_iff_sample :
    addIpListRange sampleToIp sampleText none [] =
        some ([] ++ [⟨sampleText, [], ⟨sampleLo, sampleHi⟩⟩]) ∧
      ((ioaAddrInRange ⟨sampleLo, sampleHi⟩ sampleLo = true ↔
          (⟨sampleLo, sampleHi⟩ : IoaAddrRange).NumericMem sampleLo) ↔
        (⟨sampleLo, sampleHi⟩ : IoaAddrRange).Plain sampleLo) :=
  ⟨by decide,
    (ioaAddrInRange_numeric_iff sampleToIp sampleText none []
      ⟨sampleText, [], ⟨sampleLo, sampleHi⟩⟩ sampleLo (by decide) (by decide) (by decide)
      (by decide)).1⟩

/-! ## The check of a peer address -/

/-- What `good_peer_addr` reads: the two switches, the configured lists and the lists that
are loaded at run time. -/
structure PeerFilter where
  noMulticastPeers : Bool
  allowLoopbackPeers : Bool
  ipWhitelist : List IpRange
  whitelist : List IpRange
  ipBlacklist : List IpRange
  blacklist : List IpRange
  deriving DecidableEq

variable {f : PeerFilter}

/-- `CHECK_REALM`: a range of another realm is passed over, unless one of the realms is
empty. -/
def checkRealm (realm r : List UInt8) : Bool := r == [] || realm == [] || r == realm

/-- The scan of one list, from its last range to its first. -/
def inIpList (realm : List UInt8) (peer : IoaAddr) (list : List IpRange) : Bool :=
  list.reverse.any fun r => checkRealm realm r.realm && ioaAddrInRange r.enc peer

/-- The four scans of `good_peer_addr`. -/
def ipListsAllow (f : PeerFilter) (realm : List UInt8) (peer : IoaAddr) : Bool :=
  if inIpList realm peer f.ipWhitelist then true
  else if inIpList realm peer f.whitelist then true
  else if inIpList realm peer f.ipBlacklist then false
  else if inIpList realm peer f.blacklist then false
  else true

/-- The filter of peer addresses. -/
def goodPeerAddr (f : PeerFilter) (realm : List UInt8) (peer : IoaAddr) : Bool :=
  if f.noMulticastPeers && ioaAddrIsMulticast peer then false
  else if !f.allowLoopbackPeers && ioaAddrIsLoopback peer then false
  else if ioaAddrIsZero peer then false
  else ipListsAllow f realm peer

/-- The ranges are IPv4 ranges. -/
def PeerFilter.V4Only (f : PeerFilter) : Prop :=
  ∀ r ∈ f.ipWhitelist ++ f.whitelist ++ f.ipBlacklist ++ f.blacklist,
    r.enc.min.family = 2 ∧ r.enc.max.family = 2

/-- The lists deny `peer`: a black-listed range of the realm holds it and no white-listed
range does. -/
def PeerFilter.Denies (f : PeerFilter) (realm : List UInt8) (peer : IoaAddr) : Prop :=
  (∀ r ∈ f.ipWhitelist ++ f.whitelist,
      checkRealm realm r.realm = true → ioaAddrInRange r.enc peer = false) ∧
    ∃ r ∈ f.ipBlacklist ++ f.blacklist,
      checkRealm realm r.realm = true ∧ ioaAddrInRange r.enc peer = true

lemma inIpList_iff :
    inIpList realm peer list = true ↔
      ∃ r ∈ list, checkRealm realm r.realm = true ∧ ioaAddrInRange r.enc peer = true := by
  simp [inIpList]

lemma ipListsAllow_eq_false_iff : ipListsAllow f realm peer = false ↔ f.Denies realm peer := by
  have hwhite : (∀ r ∈ f.ipWhitelist ++ f.whitelist,
      checkRealm realm r.realm = true → ioaAddrInRange r.enc peer = false) ↔
      ¬ inIpList realm peer f.ipWhitelist = true ∧ ¬ inIpList realm peer f.whitelist = true := by
    rw [inIpList_iff, inIpList_iff]
    simp only [List.forall_mem_append, not_exists, not_and, Bool.not_eq_true]
  have hblack : (∃ r ∈ f.ipBlacklist ++ f.blacklist,
      checkRealm realm r.realm = true ∧ ioaAddrInRange r.enc peer = true) ↔
      inIpList realm peer f.ipBlacklist = true ∨ inIpList realm peer f.blacklist = true := by
    rw [inIpList_iff, inIpList_iff]
    simp only [List.mem_append, or_and_right, exists_or]
  rw [PeerFilter.Denies, hwhite, hblack, ipListsAllow]
  cases inIpList realm peer f.ipWhitelist <;> cases inIpList realm peer f.whitelist <;>
    cases inIpList realm peer f.ipBlacklist <;> cases inIpList realm peer f.blacklist <;> simp

section Mapped

variable {a : List.Vector UInt8 4} (port port' : UInt16)

@[simp] lemma isV4Mapped_v4Mapped (a : List.Vector UInt8 4) : isV4Mapped (v4Mapped a) = true :=
  rfl

@[simp] lemma embeddedV4_v4Mapped (a : List.Vector UInt8 4) : embeddedV4 (v4Mapped a) = a := rfl

lemma ioaAddrIsMulticast_v4Mapped :
    ioaAddrIsMulticast (s6 (v4Mapped a) port') = ioaAddrIsMulticast (s4 a port) := by
  obtain ⟨bytes, hlen⟩ := a
  match bytes, hlen with
  | [_, _, _, _], _ => rfl

lemma ioaAddrIsLoopback_v4Mapped :
    ioaAddrIsLoopback (s6 (v4Mapped a) port') = ioaAddrIsLoopback (s4 a port) := by
  obtain ⟨bytes, hlen⟩ := a
  match bytes, hlen with
  | [_, _, _, _], _ => rfl

/-- Of the mapped forms only `::ffff:0.0.0.0` counts as zero. -/
lemma ioaAddrIsZero_v4Mapped :
    ioaAddrIsZero (s6 (v4Mapped a) port') = true ↔ a.toList = [0, 0, 0, 0] := by
  obtain ⟨bytes, hlen⟩ := a
  match bytes, hlen with
  | [x, y, z, w], _ =>
    have hget : ioaAddrIsZero (s6 (v4Mapped ⟨[x, y, z, w], rfl⟩) port') =
        (x == 0 && y == 0 && z == 0 && w == 0) := rfl
    simp [hget, and_assoc]

/-- An IPv4 range does not tell an IPv4 peer from its mapped form. -/
lemma ioaAddrInRange_v4Mapped {range : IoaAddrRange} (hmin : range.min.family = 2)
    (hmax : range.max.family = 2) :
    ioaAddrInRange range (s6 (v4Mapped a) port') = ioaAddrInRange range (s4 a port) := by
  obtain ⟨lo, hi⟩ := range
  obtain ⟨lo, p, rfl⟩ := family_eq_two_iff.mp hmin
  obtain ⟨hi, q, rfl⟩ := family_eq_two_iff.mp hmax
  simp [ioaAddrInRange, IoaAddrRange.unwrap, IoaAddrRange.family, family]

lemma ipListsAllow_v4Mapped (hf : f.V4Only) (realm : List UInt8) :
    ipListsAllow f realm (s6 (v4Mapped a) port') = ipListsAllow f realm (s4 a port) := by
  have hscan : ∀ list, (∀ r ∈ list, r.enc.min.family = 2 ∧ r.enc.max.family = 2) →
      inIpList realm (s6 (v4Mapped a) port') list = inIpList realm (s4 a port) list := by
    intro list hlist
    rw [Bool.eq_iff_iff, inIpList_iff, inIpList_iff]
    refine exists_congr fun r => and_congr_right fun hr => ?_
    rw [ioaAddrInRange_v4Mapped port port' (hlist r hr).1 (hlist r hr).2]
  simp only [PeerFilter.V4Only, List.forall_mem_append] at hf
  obtain ⟨⟨⟨hw, hw'⟩, hb⟩, hb'⟩ := hf
  simp only [ipListsAllow, hscan _ hw, hscan _ hw', hscan _ hb, hscan _ hb']

lemma goodPeerAddr_of_first_zero (ha : a.get 0 = 0) : goodPeerAddr f realm (s4 a port) = false := by
  have hz : ioaAddrIsZero (s4 a port) = true := by simp [ioaAddrIsZero, ha]
  simp [goodPeerAddr, hz]

end Mapped

/-- With IPv4 lists `a` and `::ffff:a` are treated alike exactly when the first octet of `a` is not
0, or `a` is `0.0.0.0`, or it is denied anyway. -/
theorem goodPeerAddr_v4Mapped_iff (f : PeerFilter) (hf : f.V4Only) (realm : List UInt8)
    (a : List.Vector UInt8 4) (port port' : UInt16) :
    goodPeerAddr f realm (s4 a port) = goodPeerAddr f realm (s6 (v4Mapped a) port') ↔
      a.get 0 ≠ 0 ∨ a.toList = [0, 0, 0, 0] ∨ f.Denies realm (s4 a port) := by
  have hlists : ipListsAllow f realm (s6 (v4Mapped a) port') = ipListsAllow f realm (s4 a port) :=
    ipListsAllow_v4Mapped port port' hf realm
  by_cases ha : a.get 0 = 0
  · have hm : ioaAddrIsMulticast (s4 a port) = false := by simp [ioaAddrIsMulticast, ha]
    have hl : ioaAddrIsLoopback (s4 a port) = false := by simp [ioaAddrIsLoopback, ha]
    have hmapped : goodPeerAddr f realm (s6 (v4Mapped a) port') = false ↔
        a.toList = [0, 0, 0, 0] ∨ f.Denies realm (s4 a port) := by
      rw [← ipListsAllow_eq_false_iff, ← hlists, ← ioaAddrIsZero_v4Mapped port']
      simp only [goodPeerAddr, ioaAddrIsMulticast_v4Mapped port, hm,
        ioaAddrIsLoopback_v4Mapped port, hl]
      cases ioaAddrIsZero (s6 (v4Mapped a) port') <;> simp
    rw [goodPeerAddr_of_first_zero port ha, eq_comm, hmapped]
    simp [ha]
  · have hz : ioaAddrIsZero (s4 a port) = false := by simpa [ioaAddrIsZero] using ha
    have hz' : ioaAddrIsZero (s6 (v4Mapped a) port') = false := by
      rw [Bool.eq_false_iff, Ne, ioaAddrIsZero_v4Mapped]
      intro hzero
      apply ha
      obtain rfl : a = ⟨[0, 0, 0, 0], rfl⟩ := Subtype.ext hzero
      rfl
    have hsame : goodPeerAddr f realm (s4 a port) =
        goodPeerAddr f realm (s6 (v4Mapped a) port') := by
      simp only [goodPeerAddr, hz, hz', hlists, ioaAddrIsMulticast_v4Mapped port,
        ioaAddrIsLoopback_v4Mapped port]
    exact ⟨fun _ => Or.inl ha, fun _ => hsame⟩

def emptyFilter : PeerFilter := ⟨false, false, [], [], [], []⟩

/-- With empty lists `0.1.2.3` is refused and `::ffff:0.1.2.3` is accepted. -/
theorem goodPeerAddr_v4Mapped_zero_net :
    emptyFilter.V4Only ∧ goodPeerAddr emptyFilter [] (s4 ⟨[0, 1, 2, 3], rfl⟩ 0) = false ∧
      goodPeerAddr emptyFilter [] (s6 (v4Mapped ⟨[0, 1, 2, 3], rfl⟩) 0) = true :=
  ⟨by simp [PeerFilter.V4Only, emptyFilter], by decide, by decide⟩

theorem goodPeerAddr_v4Mapped_private :
    emptyFilter.V4Only ∧ goodPeerAddr emptyFilter [] (s4 ⟨[10, 1, 2, 3], rfl⟩ 0) =
      goodPeerAddr emptyFilter [] (s6 (v4Mapped ⟨[10, 1, 2, 3], rfl⟩) 0) :=
  ⟨by simp [PeerFilter.V4Only, emptyFilter],
    (goodPeerAddr_v4Mapped_iff emptyFilter (by simp [PeerFilter.V4Only, emptyFilter]) [] _ 0
      0).mpr (Or.inl (by decide))⟩

end Coturn
