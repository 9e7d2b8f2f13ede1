/-
# A retransmitted Allocate

For an Allocate with the same transaction id `handle_turn_allocate` builds the answer again from the
allocation. But this remembers neither the reservation token nor the error code of a family that
failed, and the lifetime is read from the relay session of the first address, which after a failure
of IPv4 does not exist.
-/
import Coturn.Server.Lifetimes

namespace Coturn

open ByteSeq

variable {cfg : Config} {env : Env} {tid : List UInt8} {attrs : List StunAttr} {c : Ctx}

/-! ## The repeated answer -/

/-- The addresses that an answer gives for the allocation. -/
def Allocation.told (cfg : Config) (a : Allocation) : List IoaAddr :=
  ((xorRelayedAddr cfg a 2).toList ++ (xorRelayedAddr cfg a 10).toList).map fun addr =>
    readBack (mapAddrFromPrivateToPublic cfg.addrMapping addr)

/-- The time until the timer of a relay session. -/
def Allocation.remaining (a : Allocation) (ctime : UInt32) (family : ℕ) : UInt32 :=
  a.expires family - ctime

/-- The family whose relay session gives the lifetime: that of the first address, where a cleared
one counts as IPv4. -/
def Allocation.toldFamily (cfg : Config) (a : Allocation) : ℕ :=
  if (((xorRelayedAddr cfg a 2).or (xorRelayedAddr cfg a 10)).getD .unset).family = 10 then 10
  else 2

def repeatedAnswer (cfg : Config) (tid : List UInt8) (c : Ctx) : List UInt8 :=
  stunSetAllocateResponse cfg.addrMapping tid (xorRelayedAddr cfg c.ss.alloc 2)
    (xorRelayedAddr cfg c.ss.alloc 10) ((c.ss.clientSocket.map IoaSocket.remoteAddr).getD .unset)
    (c.ss.alloc.remaining c.srv.ctime (c.ss.alloc.toldFamily cfg)) cfg.maxAllocateLifetime 0
    c.ss.sMobileId

lemma told_eq_nil_iff {a : Allocation} :
    a.told cfg = [] ↔
      ((xorRelayedAddr cfg a 2).isNone && (xorRelayedAddr cfg a 10).isNone) = true := by
  rw [Allocation.told, List.map_eq_nil_iff, List.append_eq_nil_iff]
  cases xorRelayedAddr cfg a 2 <;> cases xorRelayedAddr cfg a 10 <;> simp

lemma told_of_response {ss : Session} {lifetime : UInt32} {token : ℕ} {buf : List UInt8}
    (h : allocateResponse cfg tid ss lifetime token = some buf) : ss.alloc.told cfg ≠ [] := by
  intro hnil
  rw [allocateResponse] at h
  rw [if_pos (told_eq_nil_iff.mp hnil)] at h
  cases h

lemma handleTurnAllocate_again (hvalid : c.ss.alloc.isValid = true) (htid : c.ss.alloc.tid = tid)
    (hcode : c.reply.errCode = 0) (hresp : c.reply.resp = none) :
    if c.ss.alloc.told cfg = [] then (handleTurnAllocate cfg env tid attrs c).reply.errCode = 437
    else handleTurnAllocate cfg env tid attrs c = c.respond (repeatedAnswer cfg tid c) := by
  have hfamily : (c.ss.alloc.getRelaySession (((xorRelayedAddr cfg c.ss.alloc 2).or
      (xorRelayedAddr cfg c.ss.alloc 10)).getD .unset).family).expirationTime =
      c.ss.alloc.expires (c.ss.alloc.toldFamily cfg) := by
    rw [Allocation.expires, Allocation.toldFamily, Allocation.getRelaySession]
    split_ifs <;> rfl
  rw [handleTurnAllocate_of_valid hvalid, allocateAgain, if_neg (not_not.mpr htid.symm)]
  simp only [hfamily, allocateResponse]
  by_cases hnil : c.ss.alloc.told cfg = []
  · rw [if_pos hnil, if_pos (told_eq_nil_iff.mp hnil)]
    simp only [allocateFinish, hresp, if_pos hcode]
    rfl
  · rw [if_neg hnil, if_neg (mt told_eq_nil_iff.mpr hnil)]
    show allocateFinish cfg tid 0 0 (c.respond (repeatedAnswer cfg tid c)) = _
    rw [allocateFinish]
    show (if c.reply.errCode ≠ 0 then _ else _) = _
    rw [if_neg (not_not.mpr hcode)]
    rfl

lemma repeatedAnswer_lifetime (htid : tid.length = 12) :
    lifetimeOf (repeatedAnswer cfg tid c) = some (cutLifetime cfg
      (c.ss.alloc.remaining c.srv.ctime (c.ss.alloc.toldFamily cfg))) :=
  lifetimeOf_of_values (stunSetAllocateResponse_values htid rfl).2.2.1

lemma repeatedAnswer_relayedAddrs (htid : tid.length = 12) :
    relayedAddrs (repeatedAnswer cfg tid c) = c.ss.alloc.told cfg :=
  relayedAddrs_allocateResponse htid (.refl _)

/-! ## The lifetime -/

/-- The session of the first address exists and its time is not cut, or the cut time is that of the
other family. -/
def Allocation.TellsRemaining (cfg : Config) (ctime : UInt32) (a : Allocation) : Prop :=
  ((a.getRelaySocket (a.toldFamily cfg)).isSome = true ∧
    1 ≤ a.remaining ctime (a.toldFamily cfg) ∧
    a.remaining ctime (a.toldFamily cfg) ≤ cfg.maxAllocateLifetime) ∨
  ∃ family ∈ [2, 10], family ≠ a.toldFamily cfg ∧ (a.getRelaySocket family).isSome = true ∧
    cutLifetime cfg (a.remaining ctime (a.toldFamily cfg)) = a.remaining ctime family

lemma cutLifetime_eq_self_iff (lifetime : UInt32) :
    cutLifetime cfg lifetime = lifetime ↔ 1 ≤ lifetime ∧ lifetime ≤ cfg.maxAllocateLifetime := by
  unfold cutLifetime
  grind

lemma tellsRemaining_iff {ctime : UInt32} {a : Allocation} :
    a.TellsRemaining cfg ctime ↔ ∃ family ∈ [2, 10], (a.getRelaySocket family).isSome = true ∧
      cutLifetime cfg (a.remaining ctime (a.toldFamily cfg)) = a.remaining ctime family := by
  constructor
  · rintro (⟨hsocket, hrange⟩ | ⟨family, hfamily, -, hsocket, hcut⟩)
    · refine ⟨a.toldFamily cfg, ?_, hsocket, (cutLifetime_eq_self_iff _).mpr hrange⟩
      rw [Allocation.toldFamily]
      split_ifs <;> decide
    · exact ⟨family, hfamily, hsocket, hcut⟩
  · rintro ⟨family, hfamily, hsocket, hcut⟩
    by_cases hsame : family = a.toldFamily cfg
    · subst hsame
      exact Or.inl ⟨hsocket, (cutLifetime_eq_self_iff _).mp hcut⟩
    · exact Or.inr ⟨family, hfamily, hsame, hsocket, hcut⟩

/-! ## Retransmissions -/

/-- The request leaves everything as it is and is answered like the one answered with `buf`, with
the remaining time of a relay session. -/
structure Repeats (cfg : Config) (env : Env) (tid : List UInt8) (attrs : List StunAttr) (c : Ctx)
    (buf : List UInt8) : Prop where
  session : (handleTurnAllocate cfg env tid attrs c).ss = c.ss
  server : (handleTurnAllocate cfg env tid attrs c).srv = c.srv
  success : (handleTurnAllocate cfg env tid attrs c).reply.errCode = 0
  answer : ∃ buf' ∈ (handleTurnAllocate cfg env tid attrs c).reply.resp,
    relayedAddrs buf' = relayedAddrs buf ∧
    attrValues attrReservationToken buf' = attrValues attrReservationToken buf ∧
    attrValues attrAddressErrorCode buf' = attrValues attrAddressErrorCode buf ∧
    ∃ family ∈ [2, 10], (c.ss.alloc.getRelaySocket family).isSome = true ∧
      lifetimeOf buf' = some (c.ss.alloc.expires family - c.srv.ctime)

/-- A retransmission is answered in the same way exactly when the allocation still has the same
addresses, the first answer had neither a token nor the error code of a family, and the lifetime is
that of a relay session. -/
theorem allocate_repeats_iff (cfg : Config) (env env' : Env) (tid : List.Vector UInt8 12)
    (attrs attrs' : List StunAttr) (c c' : Ctx) (buf : List UInt8)
    (hstart : c.reply.resp = none)
    (herr : (handleTurnAllocate cfg env tid.toList attrs c).reply.errCode = 0)
    (hbuf : (handleTurnAllocate cfg env tid.toList attrs c).reply.resp = some buf)
    (hvalid : c'.ss.alloc.isValid = true) (htid : c'.ss.alloc.tid = tid.toList)
    (hcode : c'.reply.errCode = 0) (hresp : c'.reply.resp = none) :
    Repeats cfg env' tid.toList attrs' c' buf ↔
      c'.ss.alloc.told cfg = (handleTurnAllocate cfg env tid.toList attrs c).ss.alloc.told cfg ∧
      attrValues attrReservationToken buf = [] ∧ attrValues attrAddressErrorCode buf = [] ∧
      c'.ss.alloc.TellsRemaining cfg c'.srv.ctime := by
  have hlength := tid.toList_length
  obtain ⟨_, _, _, hresponse, hextends⟩ := handleTurnAllocate_response hstart herr hbuf
  have hfirst : relayedAddrs buf =
      (handleTurnAllocate cfg env tid.toList attrs c).ss.alloc.told cfg :=
    relayedAddrs_of_response hlength hresponse hextends
  have htold := told_of_response hresponse
  have hagain := @handleTurnAllocate_again cfg env' _ attrs' c' hvalid htid hcode hresp
  obtain ⟨-, htoken, -, hcodes⟩ := stunSetAllocateResponse_values hlength
    (show _ = repeatedAnswer cfg tid.toList c' from rfl)
  rw [if_neg (not_not.mpr rfl)] at htoken
  rw [tellsRemaining_iff]
  constructor
  · intro h
    have hsome : c'.ss.alloc.told cfg ≠ [] := by
      intro hnil
      rw [if_pos hnil, h.success] at hagain
      exact absurd hagain (by decide)
    rw [if_neg hsome] at hagain
    obtain ⟨buf', hbuf', haddrs, htokens, hcodes', family, hfamily, hsocket, hlifetime⟩ := h.answer
    rw [hagain] at hbuf'
    obtain rfl : repeatedAnswer cfg tid.toList c' = buf' := Option.some.inj hbuf'
    rw [repeatedAnswer_lifetime hlength] at hlifetime
    refine ⟨?_, ?_, ?_, family, hfamily, hsocket, Option.some.inj hlifetime⟩
    · rw [← hfirst, ← haddrs, repeatedAnswer_relayedAddrs hlength]
    · rw [← htokens, htoken]
    · rw [← hcodes', hcodes]
  · rintro ⟨hsame, htokens, hcodes', family, hfamily, hsocket, hcut⟩
    rw [if_neg (hsame ▸ htold)] at hagain
    refine ⟨by rw [hagain]; rfl, by rw [hagain]; rfl, by rw [hagain]; exact hcode, ?_⟩
    rw [hagain]
    refine ⟨repeatedAnswer cfg tid.toList c', rfl, ?_, ?_, ?_, family, hfamily, hsocket, ?_⟩
    · rw [repeatedAnswer_relayedAddrs hlength, hfirst, hsame]
    · rw [htokens, htoken]
    · rw [hcodes', hcodes]
    · rw [repeatedAnswer_lifetime hlength, hcut]
      rfl

def allocateFrom (env : Env) (attrs : List (ℕ × List UInt8)) (srv : Server) (ss : Session) : Ctx :=
  handleTurnAllocate plainParams env clientTid (requestAttrs attrs) ⟨srv, ss, .init, []⟩

def laterThan (env : Env) (attrs : List (ℕ × List UInt8)) : Server :=
  (connected.step ⟨plainParams, env,
    .clientInput 1 (clientRequest stunMethodAllocate attrs) true⟩).step
    ⟨plainParams, env, .tick 1100⟩

/-- A retransmission of a plain request. -/
theorem allocate_repeats_plain :
    ∃ ss ∈ connected.sessionsMap 1,
      ∃ buf ∈ (allocateFrom plainEnv [udpTransportAttr] connected
        ss).reply.resp,
      ∃ ss' ∈ (laterThan plainEnv [udpTransportAttr]).sessionsMap 1,
        Repeats plainParams plainEnv clientTid
          (requestAttrs [udpTransportAttr])
          ⟨laterThan plainEnv [udpTransportAttr], ss', .init, []⟩ buf := by
  generalize hsrv : connected = srv
  generalize hlater : laterThan plainEnv [udpTransportAttr] = srv'
  obtain ⟨ss, hss, herr, htold, buf, hbuf, htoken, hcodes⟩ : ∃ ss ∈ srv.sessionsMap 1,
      (allocateFrom plainEnv [udpTransportAttr] srv ss).reply.errCode = 0 ∧
      (allocateFrom plainEnv [udpTransportAttr] srv ss).ss.alloc.told
        plainParams = [hostAddr 1 49152] ∧
      ∃ buf ∈ (allocateFrom plainEnv [udpTransportAttr] srv ss).reply.resp,
        attrValues attrReservationToken buf = [] ∧ attrValues attrAddressErrorCode buf = [] := by
    subst hsrv
    decide +kernel
  obtain ⟨ss', hss', hvalid, htid, htold', hsocket, hremaining⟩ :
      ∃ ss' ∈ srv'.sessionsMap 1, ss'.alloc.isValid = true ∧ ss'.alloc.tid = clientTid ∧
      ss'.alloc.told plainParams = [hostAddr 1 49152] ∧
      (ss'.alloc.getRelaySocket (ss'.alloc.toldFamily plainParams)).isSome = true ∧
      ss'.alloc.remaining srv'.ctime (ss'.alloc.toldFamily plainParams) = 500 := by
    subst hlater
    decide +kernel
  refine ⟨ss, hss, buf, hbuf, ss', hss', ?_⟩
  refine (allocate_repeats_iff _ plainEnv _ ⟨clientTid, rfl⟩
    (requestAttrs [udpTransportAttr]) _ ⟨srv, ss, .init, []⟩ ⟨srv', ss', .init, []⟩ buf rfl herr
    hbuf hvalid htid rfl rfl).mpr ⟨htold'.trans htold.symm, htoken, hcodes, Or.inl ⟨hsocket, ?_⟩⟩
  rw [hremaining]
  decide

def ipv6Relay : RelayIoaSocket :=
  ⟨.udp, 10, Or.inr rfl, .s6 (List.Vector.replicate 16 1) 49152, false, false⟩

def dualAttrs : List (ℕ × List UInt8) :=
  [udpTransportAttr, (attrAdditionalAddressFamily, [2, 0, 0, 0])]

def dualAgain (srv : Server) (ss : Session) : Ctx :=
  handleTurnAllocate plainParams (.plain ipv6Relay) clientTid (requestAttrs dualAttrs)
    ⟨srv, ss, .init, []⟩

/-- A server without IPv4 does not repeat the error code for IPv4, and tells an hour although 500
seconds are left. -/
theorem allocate_repeats_without_error :
    ∃ ss ∈ connected.sessionsMap 1,
      (allocateFrom (.plain ipv6Relay) dualAttrs connected ss).reply.errCode = 0 ∧
      ∃ buf ∈ (allocateFrom (.plain ipv6Relay) dualAttrs connected ss).reply.resp,
      ∃ ss' ∈ (laterThan (.plain ipv6Relay) dualAttrs).sessionsMap 1,
        ss'.alloc.isValid = true ∧ ss'.alloc.tid = clientTid ∧
        ss'.alloc.getRelaySocket 2 = none ∧ ss'.alloc.remaining 1100 10 = 500 ∧
        (∃ buf' ∈ (dualAgain (laterThan (.plain ipv6Relay) dualAttrs) ss').reply.resp,
          lifetimeOf buf' = some 3600) ∧
        ¬ Repeats plainParams (.plain ipv6Relay) clientTid (requestAttrs dualAttrs)
          ⟨laterThan (.plain ipv6Relay) dualAttrs, ss', .init, []⟩ buf := by
  generalize hsrv : connected = srv
  generalize hlater : laterThan (.plain ipv6Relay) dualAttrs = srv'
  obtain ⟨ss, hss, herr, buf, hbuf, hcodes⟩ : ∃ ss ∈ srv.sessionsMap 1,
      (allocateFrom (.plain ipv6Relay) dualAttrs srv ss).reply.errCode = 0 ∧
      ∃ buf ∈ (allocateFrom (.plain ipv6Relay) dualAttrs srv ss).reply.resp,
        attrValues attrAddressErrorCode buf ≠ [] := by
    subst hsrv
    decide +kernel
  obtain ⟨ss', hss', hvalid, htid, hsocket, hremaining, buf', hbuf', hlifetime, hnone⟩ :
      ∃ ss' ∈ srv'.sessionsMap 1, ss'.alloc.isValid = true ∧ ss'.alloc.tid = clientTid ∧
      ss'.alloc.getRelaySocket 2 = none ∧ ss'.alloc.remaining 1100 10 = 500 ∧
      ∃ buf' ∈ (dualAgain srv' ss').reply.resp,
        lifetimeOf buf' = some 3600 ∧ attrValues attrAddressErrorCode buf' = [] := by
    subst hlater
    decide +kernel
  refine ⟨ss, hss, herr, buf, hbuf, ss', hss', hvalid, htid, hsocket, hremaining,
    ⟨buf', hbuf', hlifetime⟩, ?_⟩
  intro hrepeats
  obtain ⟨buf'', hbuf'', -, -, hsame, -⟩ := hrepeats.answer
  obtain rfl : buf' = buf'' := Option.mem_unique hbuf' hbuf''
  exact hcodes (hsame.symm.trans hnone)

end Coturn
