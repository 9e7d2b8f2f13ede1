/-
# Transport addresses

The `ioa_addr` union of `client/ns_turn_ioaddr.c`: an address family with the bytes of the IP address
in network order and a port. A cleared union (`addr_set_any`) has family 0.
-/
import Coturn.Lib.Bytes

namespace Coturn

open ByteSeq

variable (ip : List.Vector UInt8 16)

/-- An `ioa_addr`: cleared (family 0), IPv4 or IPv6, with the bytes in memory order. -/
inductive IoaAddr where
  | unset
  | s4 (ip : List.Vector UInt8 4) (port : UInt16)
  | s6 (ip : List.Vector UInt8 16) (port : UInt16)
  deriving DecidableEq

variable {a b : IoaAddr}

namespace IoaAddr

/-- `ss.sa_family`: `AF_INET` is 2 and `AF_INET6` is 10. -/
def family : IoaAddr → Nat
  | unset => 0
  | s4 _ _ => 2
  | s6 _ _ => 10

/-- The IP. -/
def bytes : IoaAddr → List UInt8
  | unset => []
  | s4 ip _ => ip.toList
  | s6 ip _ => ip.toList

/-- The IP address as a big-endian unsigned integer. -/
def ipNat (a : IoaAddr) : Nat := beNat a.bytes

lemma family_eq_two_iff : a.family = 2 ↔ ∃ ip port, a = s4 ip port := by
  cases a <;> simp [family]

lemma family_eq_ten_iff : a.family = 10 ↔ ∃ ip port, a = s6 ip port := by
  cases a <;> simp [family]

/-- IPv4 or IPv6. -/
def IsInet (a : IoaAddr) : Prop := a.family = 2 ∨ a.family = 10
  deriving Decidable

end IoaAddr

open IoaAddr

/-- A cleared address counts as "any"; otherwise IP and port must both be zero. -/
def addrAny : IoaAddr → Bool
  | unset => true
  | s4 ip port => ip.toList.all (· == 0) && port == 0
  | s6 ip port => if port != 0 then false else ip.toList.all (· == 0)

/-- The IP is zero. -/
def addrAnyNoPort (addr : IoaAddr) : Bool := addr.bytes.all (· == 0)

def addrGetPort : IoaAddr → UInt16
  | unset => 0
  | s4 _ port => port
  | s6 _ port => port

def addrSetPort (port : UInt16) : IoaAddr → IoaAddr
  | unset => unset
  | s4 ip _ => s4 ip port
  | s6 ip _ => s6 ip port

@[simp] lemma addrSetPort_addrSetPort (p q : UInt16) (a : IoaAddr) :
    addrSetPort p (addrSetPort q a) = addrSetPort p a := by
  cases a <;> rfl

lemma addrGetPort_addrSetPort (p : UInt16) (ha : a.IsInet) : addrGetPort (addrSetPort p a) = p := by
  cases a with
  | unset => exact absurd ha (by decide)
  | s4 ip port => rfl
  | s6 ip port => rfl

lemma isInet_addrSetPort {port : UInt16} {addr : IoaAddr} (h : addr.IsInet) :
    (addrSetPort port addr).IsInet := by
  cases addr with
  | unset => exact h
  | s4 ip _ => exact Or.inl rfl
  | s6 ip _ => exact Or.inr rfl

lemma addrGetPort_addrSetPort_zero (a : IoaAddr) : addrGetPort (addrSetPort 0 a) = 0 := by
  cases a <;> rfl

/-- Same family, IP and port; two cleared addresses are not equal. -/
def addrEq : IoaAddr → IoaAddr → Bool
  | s4 ip port, s4 ip' port' => port == port' && ip == ip'
  | s6 ip port, s6 ip' port' => port == port' && ip == ip'
  | _, _ => false

/-- The IPs are the same. -/
def addrEqNoPort : IoaAddr → IoaAddr → Bool
  | s4 ip _, s4 ip' _ => ip == ip'
  | s6 ip _, s6 ip' _ => ip == ip'
  | _, _ => false

/-! ## The hash of the permission table -/

def hashInt32 (a : UInt32) : UInt32 :=
  let a := a ^^^ (a >>> 4)
  let a := (a ^^^ (0xdeadbeef : UInt32)) + (a <<< 5)
  a ^^^ (a >>> 11)

def hashInt64 (a : UInt64) : UInt64 :=
  let a := a ^^^ (a >>> 4)
  let a := (a ^^^ (0xdeadbeefdeadbeef : UInt64)) + (a <<< 5)
  a ^^^ (a >>> 11)

/-- The words `a[0]`, `a[1]` are loaded in the byte order of the host, little-endian here. -/
def addrHashNoPort : IoaAddr → UInt32
  | s4 ip _ => hashInt32 (UInt32.ofNat (beNat ip.toList.reverse))
  | a =>
    let a0 := UInt64.ofNat (beNat (a.bytes.take 8).reverse)
    let a1 := UInt64.ofNat (beNat (a.bytes.drop 8).reverse)
    ((hashInt64 a0 <<< 3) + hashInt64 a1).toUInt32

lemma addrHashNoPort_addrSetPort (port : UInt16) (a : IoaAddr) :
    addrHashNoPort (addrSetPort port a) = addrHashNoPort a := by
  cases a <;> rfl

lemma addrEqNoPort_iff :
    addrEqNoPort a b = true ↔ a.IsInet ∧ addrSetPort 0 a = addrSetPort 0 b := by
  cases a <;> cases b <;> simp [addrEqNoPort, addrSetPort, IsInet, family]

lemma addrEqNoPort_symm (h : addrEqNoPort a b = true) : addrEqNoPort b a = true := by
  cases a <;> cases b <;> simp_all [addrEqNoPort]

lemma addrEqNoPort_trans {c : IoaAddr} (hab : addrEqNoPort a b = true)
    (hbc : addrEqNoPort b c = true) : addrEqNoPort a c = true := by
  rw [addrEqNoPort_iff] at hab hbc ⊢
  exact ⟨hab.1, hab.2.trans hbc.2⟩

lemma addrHashNoPort_eq (h : addrEqNoPort a b = true) : addrHashNoPort a = addrHashNoPort b := by
  rw [← addrHashNoPort_addrSetPort 0 a, (addrEqNoPort_iff.mp h).2, addrHashNoPort_addrSetPort]

lemma addrEq_iff : addrEq a b = true ↔ addrEqNoPort a b = true ∧ addrGetPort a = addrGetPort b := by
  cases a <;> cases b <;> simp [addrEq, addrEqNoPort, addrGetPort, and_comm]

/-- Equal addresses are equal values, and a cleared address is equal to none. -/
lemma addrEq_iff_eq : addrEq a b = true ↔ a.IsInet ∧ a = b := by
  cases a <;> cases b <;> simp [addrEq, IsInet, family, and_comm]

lemma addrEq_symm (h : addrEq a b = true) : addrEq b a = true := by
  obtain ⟨hinet, rfl⟩ := addrEq_iff_eq.mp h
  exact h

/-! ## Ranges of addresses -/

/-- Across families the family number decides; IPv6 addresses are compared by a loop that only ever
leaves with "no". -/
def addrLessEq (addr1 addr2 : IoaAddr) : Bool :=
  if addr1.family ≠ addr2.family then addr1.family < addr2.family
  else match addr1, addr2 with
    | s4 ip _, s4 ip' _ => beNat ip.toList ≤ beNat ip'.toList
    | s6 ip _, s6 ip' _ => noByteAbove ip.toList ip'.toList
    | _, _ => true

@[simp] lemma addrLessEq_s4 (ip ip' : List.Vector UInt8 4) (port port' : UInt16) :
    addrLessEq (s4 ip port) (s4 ip' port') = decide (beNat ip.toList ≤ beNat ip'.toList) := rfl

@[simp] lemma addrLessEq_s6 (ip' : List.Vector UInt8 16) (port port' : UInt16) :
    addrLessEq (s6 ip port) (s6 ip' port') = noByteAbove ip.toList ip'.toList := rfl

@[simp] lemma addrLessEq_s4_s6 (ip : List.Vector UInt8 4) (ip' : List.Vector UInt8 16)
    (port port' : UInt16) : addrLessEq (s4 ip port) (s6 ip' port') = true := rfl

@[simp] lemma addrLessEq_s6_s4 (ip' : List.Vector UInt8 4) (port port' : UInt16) :
    addrLessEq (s6 ip port) (s4 ip' port') = false := rfl

/-- On a bound without port, "any" means that the IP is the number zero. -/
lemma addrAny_s4_iff (ip : List.Vector UInt8 4) :
    addrAny (s4 ip 0) = true ↔ beNat ip.toList = 0 := by
  simp [addrAny, beNat_eq_zero_iff]

lemma addrAny_s6_iff : addrAny (s6 ip 0) = true ↔ beNat ip.toList = 0 := by
  simp [addrAny, beNat_eq_zero_iff]

/-- The bounds belong to the range. -/
structure IoaAddrRange where
  min : IoaAddr
  max : IoaAddr
  deriving DecidableEq

/-- `IN6_IS_ADDR_V4MAPPED`: ten zero bytes, then `ff ff`. -/
def isV4Mapped (ip : List.Vector UInt8 16) : Bool :=
  (ip.toList.take 10).all (· == 0) && (ip.toList.drop 10).take 2 == [0xff, 0xff]

/-- The IPv4 address in the last four bytes of an IPv6 address. -/
def embeddedV4 (ip : List.Vector UInt8 16) : List.Vector UInt8 4 :=
  ⟨ip.toList.drop 12, by simp⟩

/-- The IPv4-mapped form `::ffff:a` of an IPv4 address. -/
def v4Mapped (ip : List.Vector UInt8 4) : List.Vector UInt8 16 :=
  ⟨[0, 0, 0, 0, 0, 0, 0, 0, 0, 0, 0xff, 0xff] ++ ip.toList, by simp⟩

/-- The family by which it is decided whether to unwrap: that of the lower bound, unless it is
cleared. -/
def IoaAddrRange.family (range : IoaAddrRange) : Nat :=
  if range.min.family = 0 then range.max.family else range.min.family

/-- The address that is compared with the bounds: a mapped peer of an IPv4 range is unwrapped. -/
def IoaAddrRange.unwrap (range : IoaAddrRange) (addr : IoaAddr) : IoaAddr :=
  match addr with
  | s6 ip _ => if range.family = 2 && isV4Mapped ip then s4 (embeddedV4 ip) 0 else addr
  | _ => addr

/-- The address is in the range, after unwrapping. -/
def ioaAddrInRange (range : IoaAddrRange) (addr : IoaAddr) : Bool :=
  let addr := range.unwrap addr
  if addrAny range.min || addrLessEq range.min addr then
    if addrAny range.max then true else addrLessEq addr range.max
  else false

/-! ## Special addresses -/

/-- From 224.0.0.0 on, or `ff00::/8`. -/
def ioaAddrIsMulticast : IoaAddr → Bool
  | s4 ip _ => ip.get 0 > 223
  | s6 ip _ => if isV4Mapped ip then ip.get 12 > 223 else ip.get 0 == 255
  | unset => false

/-- 127.0.0.0/8, or `::1`. -/
def ioaAddrIsLoopback : IoaAddr → Bool
  | s4 ip _ => ip.get 0 == 127
  | s6 ip _ =>
    if isV4Mapped ip then ip.get 12 == 127
    else if ip.get 15 == 1 then (ip.toList.take 15).all (· == 0)
    else false
  | unset => false

/-- The IPv4 branch takes the whole of `0.0.0.0/8`, the mapped one `::ffff:0.0.0.0` only. -/
def ioaAddrIsZero : IoaAddr → Bool
  | s4 ip _ => ip.get 0 == 0
  | s6 ip _ =>
    if isV4Mapped ip then
      ip.get 12 == 0 && ip.get 13 == 0 && ip.get 14 == 0 && ip.get 15 == 0
    else ip.toList.all (· == 0)
  | unset => false

end Coturn
