/-
# The relayed addresses of an Allocate response

A success response of `handle_turn_allocate` should give the address of every relay socket and
nothing else. It is put together from the sockets and from the failure marks of the two families,
which are written as the address 0.0.0.0 and are never cleared.
-/
import Coturn.Server.AllocateCases
import Coturn.Server.Defaults
import Coturn.Stun.Responses

namespace Coturn

open ByteSeq

variable {lifetime : UInt32} {buf : List UInt8}

variable {cfg : Config} {env : Env} {tid : List UInt8} {attrs : List StunAttr} {c : Ctx}

/-! ## What a response should say -/

/-- The address of a relay socket, as clients know it. -/
def relayAddr (cfg : Config) (s : RelayIoaSocket) : IoaAddr :=
  mapAddrFromPrivateToPublic cfg.addrMapping
    (match cfg.externalIp with
    | some ip => addrSetPort (addrGetPort s.localAddr) ip
    | none => s.localAddr)

/-- The message gives the address of every relay socket, and no address that is unset or zero. -/
structure TellsRelays (cfg : Config) (a : Allocation) (buf : List UInt8) : Prop where
  tells : ∀ family ∈ [2, 10], ∀ s ∈ a.getRelaySocket family, relayAddr cfg s ∈ relayedAddrs buf
  nonzero : ∀ addr ∈ relayedAddrs buf, addrAnyNoPort addr = false

def Allocation.Unmarked (a : Allocation) : Prop := ∀ family, a.getRelaySessionFailure family = false

/-- The relay sockets have addresses that can be told. -/
def Allocation.Addressed (cfg : Config) (a : Allocation) : Prop :=
  ∀ family ∈ [2, 10], ∀ s ∈ a.getRelaySocket family, addrAnyNoPort (relayAddr cfg s) = false

/-- The same once more sockets are given. A held socket that one of them replaces does not count. -/
structure Allocation.AddressedWith (cfg : Config) (a : Allocation) (news : List RelayIoaSocket) :
    Prop where
  given : ∀ s ∈ news, addrAnyNoPort (relayAddr cfg s) = false
  held : ∀ family ∈ [2, 10], (∀ s ∈ news, sameIndex s.family family = false) →
    ∀ s ∈ a.getRelaySocket family, addrAnyNoPort (relayAddr cfg s) = false

lemma readBack_of_nonzero {addr : IoaAddr} (h : addrAnyNoPort addr = false) :
    readBack addr = addr := by
  cases addr with
  | unset => cases h
  | s4 ip port => rfl
  | s6 ip port => rfl

lemma addrAnyNoPort_readBack (addr : IoaAddr) :
    addrAnyNoPort (readBack addr) = addrAnyNoPort addr := by
  cases addr with
  | unset => decide
  | s4 ip port => rfl
  | s6 ip port => rfl

lemma mapAddrFromPrivateToPublic_unset (m : AddrMapping) :
    mapAddrFromPrivateToPublic m .unset = .unset := by
  have hnone : m.find? (fun p => addrEqNoPort .unset p.2) = none := by
    rw [List.find?_eq_none]
    intro p _
    cases p.2 <;> simp [addrEqNoPort]
  rw [mapAddrFromPrivateToPublic, hnone]

variable {a : Allocation} {token : ℕ}

lemma Allocation.unmarked_iff :
    a.Unmarked ↔ ∀ family ∈ [2, 10], a.getRelaySessionFailure family = false := by
  refine ⟨fun h family _ => h family, ?_⟩
  intro h family
  by_cases hten : family = 10
  · rw [hten]
    exact h 10 (by decide)
  · have htwo := h 2 (by decide)
    rw [Allocation.getRelaySessionFailure, if_neg (by decide)] at htwo
    rwa [Allocation.getRelaySessionFailure, if_neg hten]

lemma xorRelayedAddr_of_unmarked {family : ℕ} (h : a.getRelaySessionFailure family = false) :
    (xorRelayedAddr cfg a family).map (mapAddrFromPrivateToPublic cfg.addrMapping) =
      (a.getRelaySocket family).map (relayAddr cfg) := by
  rw [xorRelayedAddr, if_neg (by simp [h]), Option.map_map]
  rfl

lemma tellsRelays_iff (hbuf : relayedAddrs buf = ((xorRelayedAddr cfg a 2).toList ++
      (xorRelayedAddr cfg a 10).toList).map fun addr =>
      readBack (mapAddrFromPrivateToPublic cfg.addrMapping addr)) :
    TellsRelays cfg a buf ↔ a.Unmarked ∧ a.Addressed cfg := by
  have hmem : ∀ addr, addr ∈ relayedAddrs buf ↔ ∃ family ∈ [2, 10], ∃ told ∈ (xorRelayedAddr cfg a
      family).map (mapAddrFromPrivateToPublic cfg.addrMapping), readBack told = addr := by
    intro addr
    simp [hbuf, or_and_right, exists_or]
  constructor
  · intro h
    refine ⟨Allocation.unmarked_iff.mpr ?_, ?_⟩
    · intro family hfamily
      by_contra hmark
      rw [Bool.not_eq_false] at hmark
      have htold : readBack .unset ∈ relayedAddrs buf := by
        refine (hmem _).mpr ⟨family, hfamily, .unset, ?_, rfl⟩
        rw [xorRelayedAddr, if_pos hmark, Option.map_some, mapAddrFromPrivateToPublic_unset]
        rfl
      exact absurd (h.nonzero _ htold) (by decide)
    · intro family hfamily s hs
      exact h.nonzero _ (h.tells family hfamily s hs)
  · rintro ⟨hunmarked, haddressed⟩
    constructor
    · intro family hfamily s hs
      refine (hmem _).mpr ⟨family, hfamily, relayAddr cfg s, ?_,
        readBack_of_nonzero (haddressed family hfamily s hs)⟩
      rw [xorRelayedAddr_of_unmarked (hunmarked family)]
      exact Option.mem_map_of_mem _ hs
    · intro addr haddr
      obtain ⟨family, hfamily, told, htold, rfl⟩ := (hmem addr).mp haddr
      rw [xorRelayedAddr_of_unmarked (hunmarked family)] at htold
      obtain ⟨s, hs, rfl⟩ := Option.mem_map.mp htold
      rw [addrAnyNoPort_readBack]
      exact haddressed family hfamily s hs

/-! ## The response that is built -/

@[simp] lemma allocateFinish_ss (err4 err6 : ℕ) (c : Ctx) :
    (allocateFinish cfg tid err4 err6 c).ss = c.ss := by
  rw [allocateFinish]
  split
  · simp only
    split_ifs <;> rfl
  · split_ifs <;> rfl

/-- A success response was there before, and relayed addresses are not added to it. -/
lemma allocateFinish_success {err4 err6 : ℕ}
    (herr : (allocateFinish cfg tid err4 err6 c).reply.errCode = 0)
    (hbuf : (allocateFinish cfg tid err4 err6 c).reply.resp = some buf) :
    c.reply.errCode = 0 ∧
      ∃ buf₀, c.reply.resp = some buf₀ ∧ Extends {attrXorRelayedAddress}ᶜ buf₀ buf := by
  rw [allocateFinish] at herr hbuf
  cases hresp : c.reply.resp with
  | none =>
    rw [hresp] at herr
    simp only at herr
    by_cases hcode : c.reply.errCode = 0
    · rw [if_pos hcode] at herr
      exact absurd herr (by simp [Ctx.respond, Ctx.failCode])
    · rw [if_neg hcode] at herr
      exact absurd herr hcode
  | some buf₀ =>
    rw [hresp] at herr hbuf
    simp only at herr hbuf
    by_cases hcode : c.reply.errCode = 0
    · rw [if_neg (not_not.mpr hcode)] at hbuf
      refine ⟨hcode, buf₀, rfl, ?_⟩
      have hcodes : ∀ family errCode (b : List UInt8), Extends {attrXorRelayedAddress}ᶜ b
          (if errCode ≠ 0 then stunAttrAddAddressErrorCode b family errCode else b) := by
        intro family errCode b
        split_ifs
        · exact extends_addIgnore (by decide) (by decide) _ _
        · exact .refl b
      obtain rfl := Option.some.inj hbuf
      exact (hcodes 1 err4 buf₀).trans (hcodes 2 err6 _)
    · rw [if_pos hcode] at herr
      exact absurd herr hcode

lemma relayedAddrs_of_response {ss : Session} {buf₀ : List UInt8}
    (htid : tid.length = 12) (hresponse : allocateResponse cfg tid ss lifetime token = some buf₀)
    (hbuf : Extends {attrXorRelayedAddress}ᶜ buf₀ buf) :
    relayedAddrs buf = ((xorRelayedAddr cfg ss.alloc 2).toList ++
      (xorRelayedAddr cfg ss.alloc 10).toList).map fun addr =>
        readBack (mapAddrFromPrivateToPublic cfg.addrMapping addr) := by
  rw [allocateResponse] at hresponse
  split_ifs at hresponse
  obtain rfl := Option.some.inj hresponse
  exact relayedAddrs_allocateResponse htid hbuf

lemma allocateAgain_ss : (allocateAgain cfg tid c).ss = c.ss := by
  rw [allocateAgain]
  simp only
  split_ifs
  · rfl
  · split <;> rfl

lemma allocateAgain_resp (hresp : c.reply.resp = none)
    (h : (allocateAgain cfg tid c).reply.resp = some buf) :
    ∃ lifetime token, allocateResponse cfg tid c.ss lifetime token = some buf := by
  rw [allocateAgain] at h
  simp only at h
  split_ifs at h
  · exact absurd h (by simp [Ctx.fail, hresp])
  · split at h
    · exact absurd h (by simp [hresp])
    · next buf' hbuf => exact ⟨_, _, hbuf.trans h⟩

lemma allocateAccept_resp (hresp : c.reply.resp = none)
    (h : (allocateAccept cfg tid lifetime token c).reply.resp = some buf) :
    ∃ buf₀, allocateResponse cfg tid (allocateAccept cfg tid lifetime token c).ss lifetime token =
      some buf₀ ∧ Extends {attrXorRelayedAddress}ᶜ buf₀ buf := by
  rw [allocateAccept] at h ⊢
  simp only at h ⊢
  split at h
  · exact absurd h (by simp [Ctx.emit, hresp])
  · next buf₀ hbuf =>
    refine ⟨buf₀, hbuf, ?_⟩
    obtain rfl := Option.some.inj h
    split_ifs
    · exact extends_addIgnore (by decide) (by decide) _ _
    · exact .refl buf₀

lemma allocateRelays_unmarked (cfg : Config) (env : Env) (transport : Transport) (v : AllocateVars)
    (lifetime : UInt32) (c : Ctx) :
    (allocateRelays cfg env transport v lifetime c).2.ss.alloc.Unmarked ↔
      c.ss.alloc.Unmarked ∧ ∀ family ∈ allocateFamilyList cfg c.ss v,
        relayCreated cfg env c.ss transport v.inReservationToken family = true := by
  simp only [Allocation.Unmarked, allocateRelays_mark, Bool.or_eq_false_iff, forall_and]
  refine and_congr_right fun _ => ⟨fun h family hfamily => ?_, fun h family' => ?_⟩
  · have hnone := List.any_eq_false.mp (h family) family hfamily
    simpa [sameIndex] using hnone
  · refine List.any_eq_false.mpr fun family hfamily => ?_
    simp [h family hfamily]

/-! ## The sockets of the endpoints -/

lemma Allocation.addressedWith_nil : a.AddressedWith cfg [] ↔ a.Addressed cfg :=
  ⟨fun h family hfamily => h.held family hfamily (by simp),
    fun h => ⟨by simp, fun family hfamily _ => h family hfamily⟩⟩

lemma Allocation.addressedWith_cons {a' : Allocation} {s : RelayIoaSocket}
    {news : List RelayIoaSocket} (hput : ∀ family, a'.getRelaySocket family =
      if sameIndex s.family family then some s else a.getRelaySocket family)
    (hinj : ∀ s' ∈ news, sameIndex s'.family s.family = true → s' = s) :
    a'.AddressedWith cfg news ↔ a.AddressedWith cfg (s :: news) := by
  constructor
  · intro h
    refine ⟨List.forall_mem_cons.mpr ⟨?_, h.given⟩, ?_⟩
    · by_cases hagain : ∃ s' ∈ news, sameIndex s'.family s.family = true
      · obtain ⟨s', hs', hsame⟩ := hagain
        exact hinj s' hs' hsame ▸ h.given s' hs'
      · refine h.held s.family (by simpa using s.inet) (fun s' hs' => ?_) s ?_
        · exact Bool.eq_false_of_not_eq_true fun hsame => hagain ⟨s', hs', hsame⟩
        · rw [hput, if_pos (by simp [sameIndex])]
          rfl
    · intro family hfamily hfree s' hs'
      obtain ⟨hother, hfree⟩ := List.forall_mem_cons.mp hfree
      refine h.held family hfamily hfree s' ?_
      rwa [hput, if_neg (by simp [hother])]
  · intro h
    obtain ⟨hs, hgiven⟩ := List.forall_mem_cons.mp h.given
    refine ⟨hgiven, fun family hfamily hfree s' hs' => ?_⟩
    rw [hput] at hs'
    cases hsame : sameIndex s.family family with
    | true =>
      rw [if_pos hsame] at hs'
      exact Option.some.inj hs' ▸ hs
    | false =>
      rw [if_neg (by simp [hsame])] at hs'
      exact h.held family hfamily (List.forall_mem_cons.mpr ⟨hsame, hfree⟩) s' hs'

lemma allocateRelay_socket {transport : Transport} {v : AllocateVars} {family : ℕ} {ss : Session}
    (h : relayCreated cfg env ss transport v.inReservationToken family = true) (ctime : UInt32)
    (family' : ℕ) :
    (allocateRelay cfg env ctime transport v lifetime family token
        ss).2.2.alloc.getRelaySocket family' =
      (relayGiven env ss v.inReservationToken family).elim (ss.alloc.getRelaySocket family')
        fun s => if sameIndex s.family family' then some s else ss.alloc.getRelaySocket family' := by
  obtain ⟨r, hr⟩ : ∃ r, createRelayConnection cfg env ctime ss lifetime family transport
    v.inReservationToken token = r := ⟨_, rfl⟩
  have hnone : r.error = none := by
    rw [← Option.isNone_iff_eq_none, ← hr, createRelayConnection_error rfl, h]
  rw [allocateRelay, hr, hnone]
  rcases createRelayConnection_created hr hnone with ⟨hgone, hsame⟩ | ⟨s, hs, hopened⟩
  · simp only [hsame]
    rw [relayGiven, if_neg hgone]
    rfl
  · simp only [hopened, hs]
    exact opened_socket _ _ _ _

lemma relayGiven_congr {ss ss' : Session} (h : ss'.clientSocket = ss.clientSocket) :
    relayGiven env ss' = relayGiven env ss := by
  have hanswer : ss'.Answerable ↔ ss.Answerable := by rw [Session.Answerable, h]; rfl
  funext inReservationToken family
  simp only [relayGiven, hanswer]

lemma relayGiven_eq_some {ss : Session} {inReservationToken family : ℕ} {s : RelayIoaSocket}
    (h : relayGiven env ss inReservationToken family = some s) :
    if inReservationToken ≠ 0 then env.reservedSocket inReservationToken = some s
    else s.family = family := by
  rw [relayGiven] at h
  split_ifs at h ⊢
  · exact h
  · cases hcreate : env.createRelay family with
    | failure errCode reason =>
      rw [hcreate] at h
      cases h
    | ok s' rtcp token =>
      rw [hcreate] at h
      exact env.createRelay_family (hcreate.trans (congrArg (RelayResult.ok · rtcp token) h))

/-- The families of one request that get sockets in the same place get the same socket. -/
lemma relayGiven_inj {ss : Session} {inReservationToken family family' : ℕ}
    {s s' : RelayIoaSocket} (hfamily : family ∈ [2, 10]) (hfamily' : family' ∈ [2, 10])
    (hs : relayGiven env ss inReservationToken family = some s)
    (hs' : relayGiven env ss inReservationToken family' = some s')
    (h : sameIndex s.family s'.family = true) : s = s' := by
  have hgiven := relayGiven_eq_some hs
  have hgiven' := relayGiven_eq_some hs'
  split_ifs at hgiven hgiven'
  · exact Option.some.inj (hgiven.symm.trans hgiven')
  · rw [hgiven, hgiven'] at h
    obtain rfl : family = family' := by
      simp only [List.mem_cons, List.not_mem_nil, or_false] at hfamily hfamily'
      rcases hfamily with rfl | rfl <;> rcases hfamily' with rfl | rfl <;> simp [sameIndex] at h ⊢
    exact Option.some.inj (hs.symm.trans hs')

lemma mem_of_allocateFamilyList {ss : Session} {v : AllocateVars} {family : ℕ}
    (h : family ∈ allocateFamilyList cfg ss v) : family ∈ [2, 10] := by
  rw [allocateFamilyList] at h
  split_ifs at h <;> simp_all

lemma allocateRelays_addressed {transport : Transport} {v : AllocateVars}
    (hcreated : ∀ family ∈ allocateFamilyList cfg c.ss v,
      relayCreated cfg env c.ss transport v.inReservationToken family = true) :
    (allocateRelays cfg env transport v lifetime c).2.ss.alloc.Addressed cfg ↔
      c.ss.alloc.AddressedWith cfg ((allocateFamilyList cfg c.ss v).filterMap
        (relayGiven env c.ss v.inReservationToken)) := by
  have hfamilies : ∀ family ∈ allocateFamilyList cfg c.ss v, family ∈ [2, 10] :=
    fun _ => mem_of_allocateFamilyList
  rw [allocateRelays_ss]
  generalize allocateFamilyList cfg c.ss v = families at hcreated hfamilies ⊢
  suffices hrun : ∀ r : ℕ × Session, r.2.clientSocket = c.ss.clientSocket →
      ((families.foldl (allocateRelayStep cfg env c.srv.ctime transport v lifetime)
        r).2.alloc.Addressed cfg ↔ r.2.alloc.AddressedWith cfg
          (families.filterMap (relayGiven env c.ss v.inReservationToken))) from hrun (0, c.ss) rfl
  induction families with
  | nil => exact fun r _ => Allocation.addressedWith_nil.symm
  | cons family families ih =>
    intro r hsocket
    obtain ⟨hcreate, hcreated⟩ := List.forall_mem_cons.mp hcreated
    obtain ⟨hfamily, hfamilies⟩ := List.forall_mem_cons.mp hfamilies
    have hkeeps := allocateRelay_clientSocket cfg env c.srv.ctime transport v lifetime family r.1 r.2
    have hput := @allocateRelay_socket lifetime cfg env r.1 transport v family r.2
      ((createRelayConnection_error hsocket).trans hcreate) c.srv.ctime
    rw [relayGiven_congr hsocket] at hput
    rw [List.foldl_cons, allocateRelayStep, ih hcreated hfamilies _ (hkeeps.trans hsocket)]
    cases hs : relayGiven env c.ss v.inReservationToken family with
    | none =>
      rw [List.filterMap_cons_none hs]
      simp only [hs, Option.elim_none] at hput
      have hsame : _ = r.2.alloc.getRelaySocket := funext hput
      exact ⟨fun h => ⟨h.given, hsame ▸ h.held⟩, fun h => ⟨h.given, hsame.symm ▸ h.held⟩⟩
    | some s =>
      rw [List.filterMap_cons_some hs]
      rw [hs] at hput
      refine Allocation.addressedWith_cons hput fun s' hs' hsame => ?_
      obtain ⟨family', hfamily', hgiven⟩ := List.mem_filterMap.mp hs'
      exact relayGiven_inj (hfamilies family' hfamily') hfamily hgiven hs hsame

/-! ## Allocate requests -/

/-- No family is marked when the request comes, and every endpoint that it asks for can be
created. -/
structure CreatesAll (cfg : Config) (env : Env) (attrs : List StunAttr) (ss : Session) : Prop where
  unmarked : ss.alloc.Unmarked
  created : ss.alloc.isValid = false →
    ∀ transport ∈ allocateTransport? (readAllocate cfg ss attrs),
      ∀ family ∈ allocateFamilyList cfg ss (readAllocate cfg ss attrs).val,
        relayCreated cfg env ss transport (readAllocate cfg ss attrs).val.inReservationToken
          family = true

/-- The sockets that a request which creates the allocation is given. -/
def relaysGiven (cfg : Config) (env : Env) (attrs : List StunAttr) (ss : Session) :
    List RelayIoaSocket :=
  if ss.alloc.isValid then []
  else
    (allocateFamilyList cfg ss (readAllocate cfg ss attrs).val).filterMap
      (relayGiven env ss (readAllocate cfg ss attrs).val.inReservationToken)

lemma allocateRelays_resp (cfg : Config) (env : Env) (transport : Transport) (v : AllocateVars)
    (lifetime : UInt32) (c : Ctx) :
    (allocateRelays cfg env transport v lifetime c).2.reply.resp = c.reply.resp := by
  simp only [allocateRelays]
  split <;> split <;> rfl

lemma allocateAccept_unmarked :
    (allocateAccept cfg tid lifetime token c).ss.alloc.Unmarked ↔ c.ss.alloc.Unmarked := by
  rw [allocateAccept]
  simp only
  split <;> rfl

lemma allocateAccept_addressed :
    (allocateAccept cfg tid lifetime token c).ss.alloc.Addressed cfg ↔
      c.ss.alloc.Addressed cfg := by
  rw [allocateAccept]
  simp only
  split <;> rfl

lemma allocateEndpoints_unmarked {transport : Transport}
    (hattrs : allocateTransport? (readAllocate cfg c.ss attrs) = some transport)
    (hvalid : c.ss.alloc.isValid = false) :
    (allocateEndpoints cfg env attrs c transport).2.ss.alloc.Unmarked ↔
      CreatesAll cfg env attrs c.ss := by
  have hsame : SameEndpoints c (allocateReady cfg env attrs c) := allocateReady_same
  have hfamilies : allocateFamilyList cfg (allocateReady cfg env attrs c).ss =
      allocateFamilyList cfg c.ss := allocateFamilyList_congr hsame.clientSocket
  have hcreated : ∀ inReservationToken family,
      relayCreated cfg env (allocateReady cfg env attrs c).ss transport inReservationToken family =
        relayCreated cfg env c.ss transport inReservationToken family :=
    fun _ _ => createRelayConnection_error hsame.clientSocket
  rw [allocateEndpoints, allocateRelays_unmarked, hsame.alloc, hfamilies]
  simp only [hcreated]
  constructor
  · rintro ⟨hunmarked, hall⟩
    refine ⟨hunmarked, fun _ transport' htransport' => ?_⟩
    obtain rfl : transport = transport' := Option.mem_unique hattrs htransport'
    exact hall
  · rintro ⟨hunmarked, hall⟩
    exact ⟨hunmarked, hall hvalid transport hattrs⟩

lemma allocateEndpoints_addressed {transport : Transport}
    (hattrs : allocateTransport? (readAllocate cfg c.ss attrs) = some transport)
    (hvalid : c.ss.alloc.isValid = false) (h : CreatesAll cfg env attrs c.ss) :
    (allocateEndpoints cfg env attrs c transport).2.ss.alloc.Addressed cfg ↔
      c.ss.alloc.AddressedWith cfg (relaysGiven cfg env attrs c.ss) := by
  have hsame : SameEndpoints c (allocateReady cfg env attrs c) := allocateReady_same
  have hfamilies : allocateFamilyList cfg (allocateReady cfg env attrs c).ss =
      allocateFamilyList cfg c.ss := allocateFamilyList_congr hsame.clientSocket
  have hgiven : relayGiven env (allocateReady cfg env attrs c).ss = relayGiven env c.ss :=
    relayGiven_congr hsame.clientSocket
  rw [allocateEndpoints, allocateRelays_addressed, hsame.alloc, hfamilies, hgiven, relaysGiven,
    if_neg (by simp [hvalid])]
  rw [hfamilies]
  exact fun family hfamily => (createRelayConnection_error hsame.clientSocket).trans
    (h.created hvalid transport hattrs family hfamily)

/-- Nothing but other attributes is added to the response of the allocation. -/
lemma handleTurnAllocate_response (hstart : c.reply.resp = none)
    (herr : (handleTurnAllocate cfg env tid attrs c).reply.errCode = 0)
    (hbuf : (handleTurnAllocate cfg env tid attrs c).reply.resp = some buf) :
    ∃ lifetime token buf₀, allocateResponse cfg tid (handleTurnAllocate cfg env tid attrs c).ss
        lifetime token = some buf₀ ∧ Extends {attrXorRelayedAddress}ᶜ buf₀ buf := by
  cases hvalid : c.ss.alloc.isValid with
  | true =>
    rw [handleTurnAllocate_of_valid hvalid] at herr hbuf ⊢
    obtain ⟨-, buf₀, hbuf₀, hextends⟩ := allocateFinish_success herr hbuf
    obtain ⟨lifetime, token, hresponse⟩ := allocateAgain_resp hstart hbuf₀
    rw [allocateFinish_ss, allocateAgain_ss]
    exact ⟨lifetime, token, buf₀, hresponse, hextends⟩
  | false =>
    rw [handleTurnAllocate_of_invalid hvalid] at herr hbuf ⊢
    obtain ⟨hcode, buf₀, hbuf₀, hextends⟩ := allocateFinish_success herr hbuf
    rw [allocateFinish_ss]
    obtain ⟨transport, -, hfresh⟩ := allocateFresh_of_success hcode
    rw [hfresh] at hbuf₀ ⊢
    have hnone : (allocateEndpoints cfg env attrs c transport).2.reply.resp = none := by
      rw [allocateEndpoints, allocateRelays_resp, allocateReady_same.resp, hstart]
    obtain ⟨buf₁, hresponse, hextends₁⟩ := allocateAccept_resp hnone hbuf₀
    exact ⟨_, _, buf₁, hresponse, hextends₁.trans hextends⟩

/-- A success response to an Allocate tells the truth about the relay sockets exactly when no family
was marked, every endpoint could be created, and the sockets have addresses that can be told. -/
theorem allocate_tells_relays_iff (cfg : Config) (env : Env) (tid : List.Vector UInt8 12)
    (attrs : List StunAttr) (c : Ctx) (buf : List UInt8) (hstart : c.reply.resp = none)
    (herr : (handleTurnAllocate cfg env tid.toList attrs c).reply.errCode = 0)
    (hbuf : (handleTurnAllocate cfg env tid.toList attrs c).reply.resp = some buf) :
    TellsRelays cfg (handleTurnAllocate cfg env tid.toList attrs c).ss.alloc buf ↔
      CreatesAll cfg env attrs c.ss ∧
        c.ss.alloc.AddressedWith cfg (relaysGiven cfg env attrs c.ss) := by
  obtain ⟨_, _, _, hresponse, hextends⟩ := handleTurnAllocate_response hstart herr hbuf
  rw [tellsRelays_iff (relayedAddrs_of_response tid.toList_length hresponse hextends)]
  cases hvalid : c.ss.alloc.isValid with
  | true =>
    -- a retransmission: nothing is created
    rw [handleTurnAllocate_of_valid hvalid, allocateFinish_ss, allocateAgain_ss, relaysGiven,
      if_pos hvalid, Allocation.addressedWith_nil]
    refine and_congr_left fun _ => ⟨fun h => ⟨h, fun hnot => ?_⟩, fun h => h.unmarked⟩
    exact absurd (hvalid.symm.trans hnot) (by decide)
  | false =>
    rw [handleTurnAllocate_of_invalid hvalid] at herr hbuf ⊢
    obtain ⟨hcode, -⟩ := allocateFinish_success herr hbuf
    rw [allocateFinish_ss]
    obtain ⟨transport, hattrs, hfresh⟩ := allocateFresh_of_success hcode
    rw [hfresh, allocateAccept_unmarked, allocateAccept_addressed,
      allocateEndpoints_unmarked hattrs hvalid]
    exact and_congr_right fun h => allocateEndpoints_addressed hattrs hvalid h

def requestAttrs (attrs : List (ℕ × List UInt8)) : List StunAttr :=
  stunAttrs (clientRequest stunMethodAllocate attrs).buf

def connected : Server :=
  served [plainInput (.openSession udpClient none false)]

def firstAllocate (srv : Server) (attrs : List (ℕ × List UInt8)) (ss : Session) : Ctx :=
  handleTurnAllocate plainParams plainEnv clientTid
    (requestAttrs attrs) ⟨srv, ss, .init, []⟩

/-- The first Allocate of a client is told the address of its relay socket. -/
theorem allocate_tells_relays_first :
    ∃ ss ∈ connected.sessionsMap 1, ∃ buf,
      relayedAddrs buf = [hostAddr 1 49152] ∧
      TellsRelays plainParams
        (firstAllocate connected [udpTransportAttr] ss).ss.alloc buf := by
  generalize hsrv : connected = srv
  obtain ⟨ss, hss, herr, buf, hbuf, haddrs⟩ : ∃ ss ∈ srv.sessionsMap 1,
      (firstAllocate srv [udpTransportAttr] ss).reply.errCode = 0 ∧
      ∃ buf ∈ (firstAllocate srv [udpTransportAttr] ss).reply.resp,
        relayedAddrs buf = [hostAddr 1 49152] := by
    subst hsrv
    decide +kernel
  have hcreates : ∀ ss ∈ srv.sessionsMap 1,
      (∀ family ∈ [2, 10], ss.alloc.getRelaySessionFailure family = false) ∧
      ∀ transport ∈ allocateTransport? (readAllocate plainParams ss
          (requestAttrs [udpTransportAttr])),
        ∀ family ∈ allocateFamilyList plainParams ss
            (readAllocate plainParams ss (requestAttrs [udpTransportAttr])).val,
          relayCreated plainParams plainEnv ss transport
            (readAllocate plainParams ss
              (requestAttrs [udpTransportAttr])).val.inReservationToken family = true := by
    subst hsrv
    decide +kernel
  have haddressed : ∀ ss ∈ srv.sessionsMap 1,
      (∀ s ∈ relaysGiven plainParams plainEnv
          (requestAttrs [udpTransportAttr]) ss,
        addrAnyNoPort (relayAddr plainParams s) = false) ∧
      ∀ family ∈ [2, 10], ss.alloc.getRelaySocket family = none := by
    subst hsrv
    decide +kernel
  obtain ⟨hunmarked, hcreated⟩ := hcreates ss hss
  obtain ⟨hgiven, hnone⟩ := haddressed ss hss
  refine ⟨ss, hss, buf, haddrs, ?_⟩
  exact (allocate_tells_relays_iff _ _ ⟨clientTid, rfl⟩ _ _ buf rfl herr hbuf).mpr
    ⟨⟨Allocation.unmarked_iff.mpr hunmarked, fun _ => hcreated⟩,
      hgiven, fun family hfamily _ => by simp [hnone family hfamily]⟩

def asksForIpv6 : Input where
  cfg := plainParams
  env := plainEnv
  ev := .clientInput 1 (clientRequest stunMethodAllocate
    [udpTransportAttr, (attrRequestedAddressFamily, [2, 0, 0, 0])]) true

def messagesTo (sid : ℕ) (log : List Effect) : List (List UInt8) :=
  log.filterMap fun
    | .toClient sid' buf => if sid' = sid then some buf else none
    | _ => none

/-- The response of the next Allocate has a relayed address that is zero. -/
theorem allocate_after_failure_tells_zero :
    ∃ buf ∈ messagesTo 1 ((connected.step asksForIpv6).handle
        (plainInput (.clientInput 1 plainAllocate true))).2,
      stunGetMsgType buf = stunMakeSuccessResponse stunMethodAllocate ∧
      relayedAddrs buf = [hostAddr 1 49152, .s4 (List.Vector.replicate 4 0) 0] ∧
      ∀ a, ¬ TellsRelays plainParams a buf := by
  have hsent : ∃ buf ∈ messagesTo 1 ((connected.step asksForIpv6).handle
        (plainInput (.clientInput 1 plainAllocate true))).2,
      stunGetMsgType buf = stunMakeSuccessResponse stunMethodAllocate ∧
      relayedAddrs buf = [hostAddr 1 49152, .s4 (List.Vector.replicate 4 0) 0] := by
    decide +kernel
  obtain ⟨buf, hbuf, hsuccess, haddrs⟩ := hsent
  refine ⟨buf, hbuf, hsuccess, haddrs, ?_⟩
  intro a htells
  have hzero := htells.nonzero (.s4 (List.Vector.replicate 4 0) 0) (by rw [haddrs]; simp)
  exact absurd hzero (by decide)

end Coturn
