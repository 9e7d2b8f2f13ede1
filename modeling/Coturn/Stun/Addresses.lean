/-
# Addresses in messages

An address attribute carries the public address of what the server knows by a private one: the
writer looks the address up among the private addresses of the mapping table, the reader among the
public ones. A public address that is not also a private one is taken for the private address that
it stands for.
-/
import Coturn.Stun.RoundTrip

namespace Coturn

open ByteSeq List

variable {addr : IoaAddr}

/-- Pairwise distinct public addresses and pairwise distinct private addresses; ports do not count.
-/
structure AddrMapping.Distinct (m : AddrMapping) : Prop where
  inet : ∀ p ∈ m, p.1.IsInet ∧ p.2.IsInet
  publicAddrs : m.Pairwise fun p q => addrEqNoPort p.1 q.1 = false
  privateAddrs : m.Pairwise fun p q => addrEqNoPort p.2 q.2 = false

def AddrMapping.IsPublic (m : AddrMapping) (addr : IoaAddr) : Prop :=
  ∃ p ∈ m, addrEqNoPort addr p.1 = true

def AddrMapping.IsPrivate (m : AddrMapping) (addr : IoaAddr) : Prop :=
  ∃ p ∈ m, addrEqNoPort addr p.2 = true

lemma addrEqNoPort_refl (h : addr.IsInet) : addrEqNoPort addr addr = true :=
  addrEqNoPort_iff.mpr ⟨h, rfl⟩

lemma addrEqNoPort_addrSetPort {addr' : IoaAddr} (port : UInt16) :
    addrEqNoPort (addrSetPort port addr) addr' = addrEqNoPort addr addr' := by
  cases addr <;> cases addr' <;> rfl

lemma addrSetPort_of_eqNoPort {addr' : IoaAddr} (h : addrEqNoPort addr addr' = true) :
    addrSetPort (addrGetPort addr) addr' = addr := by
  cases addr <;> cases addr' <;> simp_all [addrEqNoPort, addrSetPort, addrGetPort]

variable {m : AddrMapping}

lemma AddrMapping.Distinct.find?_public (hm : m.Distinct) {p : IoaAddr × IoaAddr} (hp : p ∈ m)
    (h : addrEqNoPort addr p.1 = true) : m.find? (fun q => addrEqNoPort addr q.1) = some p := by
  obtain ⟨before, after, rfl⟩ := append_of_mem hp
  have hpairwise := (pairwise_append.mp hm.publicAddrs).2.2
  rw [find?_append, find?_eq_none.mpr, find?_cons, h]
  · rfl
  · -- no pair before it has the same public address
    intro q hq heq
    have hsame := addrEqNoPort_trans (addrEqNoPort_symm heq) h
    rw [hpairwise q hq p mem_cons_self] at hsame
    exact Bool.false_ne_true hsame

lemma mapAddr_roundTrip (hm : m.Distinct) (h : ¬ m.IsPublic addr ∨ m.IsPrivate addr) :
    mapAddrFromPublicToPrivate m (mapAddrFromPrivateToPublic m addr) = addr := by
  rw [mapAddrFromPrivateToPublic]
  cases hfind : m.find? fun p => addrEqNoPort addr p.2 with
  | none =>
    have hprivate : ¬ m.IsPrivate addr := by
      rintro ⟨p, hp, heq⟩
      exact find?_eq_none.mp hfind p hp heq
    have hpublic := h.resolve_right hprivate
    have hnone : m.find? (fun p => addrEqNoPort addr p.1) = none :=
      find?_eq_none.mpr fun p hp heq => hpublic ⟨p, hp, heq⟩
    simp only [mapAddrFromPublicToPrivate, hnone]
  | some p =>
    have hp := mem_of_find?_eq_some hfind
    have hprivate : addrEqNoPort addr p.2 = true := by simpa using find?_some hfind
    have hinet := (hm.inet p hp).1
    have hback := hm.find?_public hp
      ((addrEqNoPort_addrSetPort (addrGetPort addr)).trans (addrEqNoPort_refl hinet))
    simp only [mapAddrFromPublicToPrivate, hback]
    rw [addrGetPort_addrSetPort _ hinet, addrSetPort_of_eqNoPort hprivate]

lemma isInet_mapAddrFromPrivateToPublic (hm : m.Distinct) (haddr : addr.IsInet) :
    (mapAddrFromPrivateToPublic m addr).IsInet := by
  rw [mapAddrFromPrivateToPublic]
  split
  · next p hfind => exact isInet_addrSetPort (hm.inet p (mem_of_find?_eq_some hfind)).1
  · exact haddr

/-- What `stun_attr_get_addr_str` gives for the address `ca`, which is the default when it is "any".
-/
def orDefault (ca : IoaAddr) : Option IoaAddr → IoaAddr
  | none => ca
  | some d => if addrAnyNoPort ca && !addrAnyNoPort d then addrSetPort (addrGetPort ca) d else ca

/-- Addresses are read as they were written, plain and xored, and through a table unless the address
is a public one only. -/
theorem addr_roundTrip :
    (∀ (addr : IoaAddr) (xored : Bool) (tid : List.Vector UInt8 12), addr.IsInet →
      stunAddrDecode (stunAddrEncode addr xored tid.toList) xored tid.toList = some addr) ∧
    ∀ (m : AddrMapping) (buf buf' : List UInt8) (attrs : List StunAttr) (attrType : UInt16)
      (ca : IoaAddr), m.Distinct → WellFormedMessage buf attrs → ca.IsInet →
      (¬ m.IsPublic ca ∨ m.IsPrivate ca) → stunAttrAddAddr m buf attrType.toNat ca = some buf' →
      ∃ sar, stunAttrs buf' = attrs ++ [sar] ∧ sar.type = attrType.toNat ∧
        ∀ defaultAddr, stunAttrGetAddr m (stunTidFromMessage buf') sar defaultAddr =
          (true, orDefault ca defaultAddr) := by
  refine ⟨fun addr xored tid haddr => stunAddrDecode_encode haddr xored tid.toList, ?_⟩
  intro m buf buf' attrs attrType ca hm h hca hrole hadd
  have hmessage := (h.add attrType.toNat_lt hadd).1
  refine ⟨_, hmessage.attrs, rfl, fun defaultAddr => ?_⟩
  rw [stunAttrGetAddr, h.add_tid attrType.toNat_lt hadd,
    stunAddrDecode_encode (isInet_mapAddrFromPrivateToPublic hm hca)]
  simp only [mapAddr_roundTrip hm hrole]
  cases defaultAddr with
  | none => rfl
  | some d =>
    simp only [orDefault]
    split_ifs <;> rfl

def oneMapping : AddrMapping :=
  [(.s4 (List.Vector.replicate 4 7) 0, .s4 (List.Vector.replicate 4 1) 0)]

/-- The private address is written as the public one, and read back. -/
theorem addr_roundTrip_private :
    ∃ buf' sar, stunAttrAddAddr oneMapping (stunInitCommand 1 (List.replicate 12 0))
        attrXorMappedAddress (.s4 (List.Vector.replicate 4 1) 49152) = some buf' ∧
      stunAttrs buf' = [sar] ∧
      stunAttrGetAddr oneMapping (stunTidFromMessage buf') sar none =
        (true, .s4 (List.Vector.replicate 4 1) 49152) := by
  obtain ⟨buf', hadd⟩ := Option.isSome_iff_exists.mp (show (stunAttrAddAddr oneMapping
    (stunInitCommand 1 (List.replicate 12 0)) (0x0020 : UInt16).toNat
    (.s4 (List.Vector.replicate 4 1) 49152)).isSome = true by decide)
  have hempty := stunInitCommand_wellFormed 1 (length_replicate (n := 12) (a := (0 : UInt8)))
  have hprivate : oneMapping.IsPrivate (.s4 (List.Vector.replicate 4 1) 49152) :=
    ⟨_, mem_cons_self, by decide⟩
  obtain ⟨sar, hsar, -, hget⟩ := addr_roundTrip.2 oneMapping _ buf' [] 0x0020 _
    ⟨by decide, by decide, by decide⟩ hempty (by decide) (Or.inr hprivate) hadd
  exact ⟨buf', sar, hadd, hsar, hget none⟩

end Coturn
