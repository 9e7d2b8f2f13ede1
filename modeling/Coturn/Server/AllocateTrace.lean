/-
# What a failed Allocate leaves behind

An Allocate that is answered with an error should leave the quota, the bandwidth, the flags and the
failure marks of the session and the relay ports as they were. `handle_turn_allocate` has no
rollback: it leaves nothing behind exactly when all of this was there before it or is never reached.
-/
import Coturn.Server.AllocateFlags
import Coturn.Server.AllocatePorts
import Coturn.Server.RelayedAddresses

namespace Coturn

open Option Function

variable {ctime : UInt32} {transport : Transport} {v : AllocateVars} {lifetime : UInt32}
  {ss : Session} {family token : ℕ}

variable {cfg : Config} {env : Env} {tid : List UInt8} {attrs : List StunAttr} {c : Ctx}

/-! ## What should stay -/

/-- The allocations of a realm. -/
def RealmTable.total (t : RealmTable) (realm : List UInt8) : ℕ :=
  (t.find realm).elim 0 RealmParams.totalCurrentAllocs

/-- The allocations of a user. -/
def RealmTable.counter (t : RealmTable) (realm user : List UInt8) : ℕ :=
  (t.find realm).elim 0 fun rp => rp.allocCounters user

/-- The counters of the realms, and what the session holds of quota, bandwidth, flags, marks and
relay sockets. -/
@[ext] structure Holdings where
  total : List UInt8 → ℕ
  counter : List UInt8 → List UInt8 → ℕ
  quotaUsed : Bool
  bps : ℕ
  isMobile : Bool
  isTcpRelay : Bool
  mark : ℕ → Bool
  socket : ℕ → Option RelayIoaSocket

def Ctx.holdings (c : Ctx) : Holdings where
  total := c.srv.realms.total
  counter := c.srv.realms.counter
  quotaUsed := c.ss.quotaUsed
  bps := c.ss.bps
  isMobile := c.ss.isMobile
  isTcpRelay := c.ss.isTcpRelay
  mark := c.ss.alloc.getRelaySessionFailure
  socket := c.ss.alloc.getRelaySocket

/-! ## Realms -/

variable (t : RealmTable) (a : Allocation)

lemma RealmTable.find_getRealm (name other : List UInt8) :
    (t.getRealm name).2.find other =
      if t.find name = none ∧ other = name then some (t.newRealm name) else t.find other := by
  rw [RealmTable.getRealm]
  cases hfind : t.find name with
  | some rp => simp
  | none =>
    have hdflt : t.toDflt name = false := by
      rw [RealmTable.find] at hfind
      split_ifs at hfind with hdflt
      exact Bool.not_eq_true _ ▸ hdflt
    simp only [RealmTable.set, hdflt, Bool.false_eq_true, if_false, true_and]
    by_cases hother : other = name
    · rw [if_pos hother, hother, RealmTable.find]
      show (if t.toDflt name = true then some t.dflt else _) = _
      rw [if_neg (by simp [hdflt])]
      exact update_self _ _ _
    · rw [if_neg hother, RealmTable.find, RealmTable.find]
      show (if t.toDflt other = true then some t.dflt else _) = _
      congr 1
      exact update_of_ne hother _ _

lemma RealmTable.counter_getRealm (name : List UInt8) :
    (t.getRealm name).2.counter = t.counter := by
  ext other user
  rw [RealmTable.counter, RealmTable.counter, RealmTable.find_getRealm]
  split_ifs with h
  · rw [h.2, h.1]
    rfl
  · rfl

/-- A realm that is not in the map begins with the count of the default realm. -/
lemma RealmTable.total_getRealm_iff (name : List UInt8) :
    (t.getRealm name).2.total = t.total ↔
      (t.find name).isSome = true ∨ t.dflt.totalCurrentAllocs = 0 := by
  constructor
  · intro h
    by_contra hnot
    rw [not_or, Bool.not_eq_true, isSome_eq_false_iff, isNone_iff_eq_none] at hnot
    have hname := congrFun h name
    rw [RealmTable.total, RealmTable.total, RealmTable.find_getRealm, if_pos ⟨hnot.1, rfl⟩,
      hnot.1] at hname
    exact hnot.2 hname
  · intro h
    ext other
    rw [RealmTable.total, RealmTable.total, RealmTable.find_getRealm]
    split_ifs with hnew
    · rw [hnew.2, hnew.1]
      rw [hnew.1] at h
      exact h.resolve_left (by decide)
    · rfl

variable {realms : RealmTable} {username : List UInt8} {inReservationToken : ℕ}

/-- The quota does not allow the session's next allocation. -/
def RefusesQuota (cfg : Config) (realms : RealmTable) (ss : Session) (username : List UInt8) : Prop :=
  cfg.ct = .longTerm ∧ ss.originSet = false ∨
    (realms.getRealm ss.realmOptions.name).1.take
      (quotaUser cfg.restApiSeparator username ss.oauth) = none

/-- The session has its quota, or it is refused without a new realm that begins with the count of
the default realm. -/
def QuotaStays (cfg : Config) (realms : RealmTable) (ss : Session) (username : List UInt8) : Prop :=
  ss.quotaUsed = true ∨
    RefusesQuota cfg realms ss username ∧
      (cfg.ct = .longTerm ∧ ss.originSet = false ∨
        (realms.find ss.realmOptions.name).isSome = true ∨ realms.dflt.totalCurrentAllocs = 0)

lemma incQuota_refused_iff : (incQuota cfg realms ss username).1 = false ↔
    ss.quotaUsed = false ∧ RefusesQuota cfg realms ss username := by
  rw [incQuota, RefusesQuota]
  split_ifs with hused horigin
  · simp [hused]
  · simp [horigin, hused]
  · rw [or_iff_right horigin]
    simp only [checkNewAllocationQuota]
    cases (realms.getRealm ss.realmOptions.name).1.take
      (quotaUser cfg.restApiSeparator username ss.oauth) with
    | none => simp [hused]
    | some rp => simp

lemma incQuota_refused (h : (incQuota cfg realms ss username).1 = false) :
    (incQuota cfg realms ss username).2 =
      (if cfg.ct = .longTerm ∧ ss.originSet = false then realms
        else (realms.getRealm ss.realmOptions.name).2, ss) := by
  obtain ⟨hused, hrefuses⟩ := incQuota_refused_iff.mp h
  rw [incQuota, if_neg (by simp [hused])]
  split_ifs with horigin
  · rfl
  · simp only [checkNewAllocationQuota, hrefuses.resolve_left horigin]

/-! ## The steps before the endpoints -/

lemma allocateStart_eq : ∃ mobileMap mobileId sMobileId, allocateStart cfg attrs c =
    { allocateRead cfg attrs c with
      srv := { c.srv with mobileConnectionsMap := mobileMap }
      ss := { (allocateRead cfg attrs c).ss with mobileId := mobileId, sMobileId := sMobileId } } := by
  rw [allocateStart, allocateUnlist]
  split_ifs
  · simp only [deleteSessionFromMobileMap]
    split_ifs <;> exact ⟨_, _, _, rfl⟩
  · exact ⟨c.srv.mobileConnectionsMap, c.ss.mobileId, c.ss.sMobileId, rfl⟩

/-- The bandwidth that is asked for. -/
def askedBps (maxBps bps : ℕ) : ℕ := if maxBps ≠ 0 ∧ (bps = 0 ∨ maxBps < bps) then maxBps else bps

/-- The bandwidth that a session without bandwidth gets. -/
def grantedBps (env : Env) (maxBps bps : ℕ) : ℕ :=
  match env.allocateBps with
  | none => 0
  | some allocate => if askedBps maxBps bps = 0 then 0 else allocate (askedBps maxBps bps)

lemma allocateBandwidth_eq (env : Env) (bps : ℕ) (c : Ctx) :
    ∃ reply, allocateBandwidth env bps c =
      { c with
        ss := { c.ss with
          bps := if c.ss.bps = 0 then grantedBps env c.ss.realmOptions.maxBps bps else c.ss.bps }
        reply := reply } := by
  have hsame : ∀ bps', c.ss.bps = bps' → ∃ reply, c =
      { c with ss := { c.ss with bps := bps' }, reply := reply } := by
    rintro bps' rfl
    exact ⟨c.reply, rfl⟩
  rw [allocateBandwidth, grantedBps]
  cases env.allocateBps with
  | none =>
    refine hsame _ ?_
    by_cases hbps : c.ss.bps = 0
    · rw [if_pos hbps, hbps]
    · rw [if_neg hbps]
  | some allocate =>
    simp only
    rw [← askedBps]
    generalize askedBps c.ss.realmOptions.maxBps bps = bps'
    by_cases hask : bps' ≠ 0 ∧ c.ss.bps = 0
    · rw [if_pos hask, if_pos hask.2, if_neg hask.1]
      split_ifs
      · exact ⟨_, rfl⟩
      · exact ⟨_, rfl⟩
    · rw [if_neg hask]
      refine hsame _ ?_
      split_ifs with hbps hzero
      · exact hbps
      · exact absurd ⟨hzero, hbps⟩ hask
      · rfl

lemma allocateChecks_eq (cfg : Config) (v : AllocateVars) (c : Ctx) :
    ∃ reply, allocateChecks cfg v c = { c with reply := reply } := by
  rw [allocateChecks]
  split_ifs <;> exact ⟨_, rfl⟩

lemma allocateReady_eq : ∃ reply, allocateReady cfg env attrs c =
    { (allocateStart cfg attrs c).account (allocateQuota cfg attrs c).2 with
      ss := { (allocateQuota cfg attrs c).2.2 with
        bps :=
          if (allocateQuota cfg attrs c).2.2.bps = 0 then
            grantedBps env (allocateQuota cfg attrs c).2.2.realmOptions.maxBps
              (readAllocate cfg c.ss attrs).val.bps
          else (allocateQuota cfg attrs c).2.2.bps }
      reply := reply } := by
  rw [allocateReady]
  obtain ⟨reply, hbandwidth⟩ := allocateBandwidth_eq env (readAllocate cfg c.ss attrs).val.bps
    (allocateCharged cfg attrs c)
  rw [hbandwidth]
  obtain ⟨reply', hchecks⟩ := allocateChecks_eq cfg (readAllocate cfg c.ss attrs).val _
  exact ⟨reply', hchecks⟩

/-- What stands between the attributes and the endpoints of a session that holds its quota. -/
structure ComesToEndpoints (cfg : Config) (env : Env) (ss : Session) (v : AllocateVars) : Prop where
  quota : ss.quotaUsed = true
  bandwidth : ∀ allocate ∈ env.allocateBps, ss.bps = 0 →
    askedBps ss.realmOptions.maxBps v.bps ≠ 0 → allocate (askedBps ss.realmOptions.maxBps v.bps) ≠ 0
  dual : v.af4 = true → v.af6 = true → cfg.externalIp = none ∧ v.evenPort ≠ some true
  draining : cfg.isDraining = false

lemma allocateBandwidth_errCode (env : Env) (bps : ℕ) (h : c.reply.errCode = 0) :
    (allocateBandwidth env bps c).reply.errCode = 0 ↔ ∀ allocate ∈ env.allocateBps, c.ss.bps = 0 →
      askedBps c.ss.realmOptions.maxBps bps ≠ 0 →
        allocate (askedBps c.ss.realmOptions.maxBps bps) ≠ 0 := by
  rw [allocateBandwidth]
  cases env.allocateBps with
  | none => simp [h]
  | some allocate =>
    simp only [mem_some_iff, forall_eq']
    rw [← askedBps]
    generalize askedBps c.ss.realmOptions.maxBps bps = bps'
    by_cases hask : bps' ≠ 0 ∧ c.ss.bps = 0
    · rw [if_pos hask]
      split_ifs with hzero
      · simp [hask, hzero, Ctx.fail]
      · simp [hask, hzero, h]
    · rw [if_neg hask]
      exact iff_of_true h fun hbps hne => absurd ⟨hne, hbps⟩ hask

lemma allocateChecks_errCode (v : AllocateVars) : (allocateChecks cfg v c).reply.errCode = 0 ↔
    c.reply.errCode = 0 ∧
      (v.af4 = true → v.af6 = true → cfg.externalIp = none ∧ v.evenPort ≠ some true) ∧
      cfg.isDraining = false := by
  rw [allocateChecks]
  split_ifs <;> simp_all [Ctx.fail, isSome_iff_ne_none]

lemma allocateQuota_of_used (h : c.ss.quotaUsed = true) :
    allocateQuota cfg attrs c =
      (true, (allocateStart cfg attrs c).srv.realms, (allocateStart cfg attrs c).ss) := by
  obtain ⟨mobileMap, mobileId, sMobileId, hstart⟩ := @allocateStart_eq cfg attrs c
  rw [allocateQuota, incQuota, hstart, if_pos]
  exact h

lemma incQuota_used (h : (incQuota cfg realms ss username).1 = true) :
    (incQuota cfg realms ss username).2.2.quotaUsed = true := by
  rw [incQuota] at h ⊢
  split_ifs with hused horigin
  · exact hused
  · rw [if_neg hused, if_pos horigin] at h
    cases h
  · rw [if_neg hused, if_neg horigin] at h
    split
    · next realms' hcheck =>
      rw [hcheck] at h
      cases h
    · rfl

/-! ## Endpoints that fail -/

lemma createRelayConnection_failed {e : TurnError}
    (hreserved : keepsReserved cfg env transport inReservationToken) {r : RelayOutcome}
    (hr : createRelayConnection cfg env ctime ss lifetime family transport inReservationToken
      token = r) (h : r.error = some e) (family' : ℕ) :
    r.alloc.getRelaySocket family' =
      if inReservationToken = 0 ∧ sameIndex family family' = true then none
      else ss.alloc.getRelaySocket family' := by
  subst hr
  simp only [createRelayConnection] at h ⊢
  by_cases hgone : (ss.clientSocket.isNone || ioaSocketTobeclosed ss.clientSocket) = true
  · rw [if_pos hgone] at h
    cases h
  rw [if_neg hgone] at h ⊢
  by_cases htoken : inReservationToken = 0
  · -- the socket of the family is closed before a new one is created
    rw [if_neg (fun hmultiplex => hmultiplex.2 htoken), if_neg (not_not.mpr htoken)] at h ⊢
    have hclosed : ∀ a : Allocation, a = ss.alloc.setRelaySession family .empty →
        a.getRelaySocket family' =
          if inReservationToken = 0 ∧ sameIndex family family' = true then none
          else ss.alloc.getRelaySocket family' := by
      rintro a rfl
      rw [setRelaySession_socket]
      simp only [htoken, true_and]
      rfl
    split at h
    · exact hclosed _ rfl
    next s rtcp token' hcreate =>
      rcases @setupRelaySocket_cases cfg env ctime ss.alloc lifetime family
        (cfg.multiplexPeerMode && transport == .udp) s rtcp token'
        (fun s' hs' => env.createRelay_family (hs' ▸ hcreate)) with ⟨_, heq⟩ | ⟨_, -, heq⟩
      · exact hclosed _ (congrArg RelayOutcome.alloc heq)
      · rw [heq] at h
        cases h
  · have hkeeps : (if inReservationToken = 0 ∧ sameIndex family family' = true then none
        else ss.alloc.getRelaySocket family') = ss.alloc.getRelaySocket family' :=
      if_neg fun hboth => htoken hboth.1
    rw [hkeeps]
    by_cases hmultiplex : (cfg.multiplexPeerMode && transport == .udp) = true ∧
        inReservationToken ≠ 0
    · rw [if_pos hmultiplex]
    · have hnone : env.reservedSocket inReservationToken = none := by
        refine (hreserved htoken).resolve_left fun hudp => hmultiplex ⟨?_, htoken⟩
        simp [hudp]
      rw [if_neg hmultiplex, if_pos htoken, hnone]
      rfl

lemma allocateRelay_failed (hreserved : keepsReserved cfg env transport v.inReservationToken)
    (h : relayCreated cfg env ss transport v.inReservationToken family = false) (family' : ℕ) :
    (allocateRelay cfg env ctime transport v lifetime family token ss).2.2.alloc.getRelaySocket
        family' =
      if v.inReservationToken = 0 ∧ sameIndex family family' = true then none
      else ss.alloc.getRelaySocket family' := by
  obtain ⟨r, hr⟩ : ∃ r, createRelayConnection cfg env ctime ss lifetime family transport
    v.inReservationToken token = r := ⟨_, rfl⟩
  have herror : r.error.isNone = false := (hr ▸ createRelayConnection_error rfl).trans h
  rw [allocateRelay, hr]
  cases hcreate : r.error with
  | none =>
    rw [hcreate] at herror
    cases herror
  | some e =>
    simp only
    rw [setRelaySessionFailure_socket, createRelayConnection_failed hreserved hr hcreate]

lemma allocateRelays_failed (hreserved : keepsReserved cfg env transport v.inReservationToken)
    (h : ∀ family ∈ allocateFamilyList cfg c.ss v, relayCreated cfg env c.ss transport
      v.inReservationToken family = false)
    (family' : ℕ) :
    (allocateRelays cfg env transport v lifetime c).2.ss.alloc.getRelaySocket family' =
      if v.inReservationToken = 0 ∧ ∃ family ∈ allocateFamilyList cfg c.ss v,
        sameIndex family family' = true then none
      else c.ss.alloc.getRelaySocket family' := by
  rw [allocateRelays_ss]
  generalize allocateFamilyList cfg c.ss v = families at h ⊢
  have hrun : ∀ r : ℕ × Session, r.2.clientSocket = c.ss.clientSocket →
      (families.foldl (allocateRelayStep cfg env c.srv.ctime transport v lifetime)
        r).2.alloc.getRelaySocket family' =
          if v.inReservationToken = 0 ∧ ∃ family ∈ families, sameIndex family family' = true
          then none else r.2.alloc.getRelaySocket family' := by
    induction families with
    | nil => simp
    | cons family families ih =>
      intro r hsocket
      obtain ⟨hfamily, hfamilies⟩ := List.forall_mem_cons.mp h
      have hkeeps := allocateRelay_clientSocket cfg env c.srv.ctime transport v lifetime family
        r.1 r.2
      have hfailed : relayCreated cfg env r.2 transport v.inReservationToken family = false :=
        (createRelayConnection_error hsocket).trans hfamily
      rw [List.foldl_cons, allocateRelayStep, ih hfamilies _ (hkeeps.trans hsocket),
        allocateRelay_failed hreserved hfailed]
      simp only [List.mem_cons, exists_eq_or_imp]
      by_cases hrest : ∃ family ∈ families, sameIndex family family' = true
      · by_cases htoken : v.inReservationToken = 0
        · rw [if_pos ⟨htoken, hrest⟩, if_pos ⟨htoken, Or.inr hrest⟩]
        · simp [htoken]
      · simp [hrest]
  exact hrun (0, c.ss) rfl

/-- When the endpoints fail, none of the families that were asked for could be created. -/
lemma allocateRelays_error (hstart : c.reply.errCode = 0)
    (herr : (allocateRelays cfg env transport v lifetime c).2.reply.errCode ≠ 0) :
    ∀ family ∈ allocateFamilyList cfg c.ss v,
      relayCreated cfg env c.ss transport v.inReservationToken family = false := by
  have hresult : ∀ family token (ss : Session), ss.clientSocket = c.ss.clientSocket →
      (allocateRelay cfg env c.srv.ctime transport v lifetime family token ss).1.isNone =
        relayCreated cfg env c.ss transport v.inReservationToken family := by
    intro family token ss hsocket
    have herror : (createRelayConnection cfg env c.srv.ctime ss lifetime family transport
        v.inReservationToken token).error.isNone =
          relayCreated cfg env c.ss transport v.inReservationToken family :=
      createRelayConnection_error hsocket
    rw [← herror, allocateRelay]
    split <;> simp_all
  have hfamilies := allocateFamilies_ne cfg c.ss v
  simp only [allocateRelays] at herr
  simp only [allocateFamilyList]
  generalize allocateFamilies cfg c.ss v = families at hfamilies herr ⊢
  rcases families with ⟨_ | _, _ | _⟩
  · exact absurd rfl hfamilies
  · have hten := hresult 10 0 c.ss rfl
    simp only [Bool.false_eq_true, if_false] at herr
    split at herr
    · next hsome => simpa [hsome] using hten.symm
    · exact absurd hstart herr
  · have htwo := hresult 2 0 c.ss rfl
    simp only [if_true] at herr
    split at herr
    · next hsome => simpa [hsome] using htwo.symm
    · exact absurd hstart herr
  · have htwo := hresult 2 0 c.ss rfl
    have hten := hresult 10 (allocateRelay cfg env c.srv.ctime transport v lifetime 2 0 c.ss).2.1
      (allocateRelay cfg env c.srv.ctime transport v lifetime 2 0 c.ss).2.2
      (allocateRelay_clientSocket _ _ _ _ _ _ _ _ _)
    simp only at herr
    split at herr
    · next hsome₂ hsome₁₀ =>
      rw [hsome₂] at htwo
      rw [hsome₁₀] at hten
      simpa using ⟨htwo.symm, hten.symm⟩
    · exact absurd hstart herr

/-! ## Endpoints that do not fail -/

/-- The response has something to say about a family. -/
def Allocation.Reports (a : Allocation) : Prop :=
  ∃ family ∈ [2, 10], a.getRelaySessionFailure family = true ∨
    (a.getRelaySocket family).isSome = true

lemma allocateRelay_reports (hfamily : family ∈ [2, 10]) (hss : ss.Answerable) :
    (allocateRelay cfg env ctime transport v lifetime family token ss).2.2.alloc.Reports := by
  have hmark := allocateRelay_mark cfg env ctime transport v lifetime family token ss family
  obtain ⟨r, hr⟩ : ∃ r, createRelayConnection cfg env ctime ss lifetime family transport
    v.inReservationToken token = r := ⟨_, rfl⟩
  have hcreated : r.error.isNone = relayCreated cfg env ss transport v.inReservationToken family :=
    hr ▸ createRelayConnection_error rfl
  cases hcreate : r.error with
  | some e =>
    refine ⟨family, hfamily, Or.inl ?_⟩
    rw [hmark, ← hcreated, hcreate]
    simp [sameIndex]
  | none =>
    rcases createRelayConnection_created hr hcreate with ⟨hgone, -⟩ | ⟨s, -, hopened⟩
    · exact absurd hss hgone
    · refine ⟨s.family, by simpa using s.inet, Or.inr ?_⟩
      rw [allocateRelay, hr, hcreate]
      simp only [hopened]
      rw [opened_socket, if_pos (by simp [sameIndex])]
      rfl

lemma allocateRelays_reports (hss : c.ss.Answerable) :
    (allocateRelays cfg env transport v lifetime c).2.ss.alloc.Reports := by
  have hfamilies := allocateFamilies_ne cfg c.ss v
  have hkeeps := allocateRelay_clientSocket cfg env c.srv.ctime transport v lifetime 2 0 c.ss
  rw [allocateRelays_ss]
  simp only [allocateFamilyList]
  generalize allocateFamilies cfg c.ss v = families at hfamilies ⊢
  rcases families with ⟨_ | _, _ | _⟩
  · exact absurd rfl hfamilies
  · exact allocateRelay_reports (by decide) hss
  · exact allocateRelay_reports (by decide) hss
  · -- the second endpoint is the one that is looked at
    refine allocateRelay_reports (by decide) ?_
    rw [Session.Answerable, allocateRelayStep, hkeeps]
    exact hss

lemma allocateAccept_responds (h : c.ss.alloc.Reports) :
    (allocateAccept cfg tid lifetime token c).reply.resp.isSome = true := by
  obtain ⟨family, hfamily, hreports⟩ := h
  have htold : (xorRelayedAddr cfg c.ss.alloc family).isSome = true := by
    rw [xorRelayedAddr]
    split_ifs with hmark
    · rfl
    · rw [isSome_map]
      exact hreports.resolve_left hmark
  rw [allocateAccept]
  simp only
  split
  · next hnone =>
    rw [allocateResponse] at hnone
    split_ifs at hnone with hnothing
    rw [Bool.and_eq_true, isNone_iff_eq_none, isNone_iff_eq_none] at hnothing
    have hother : xorRelayedAddr cfg c.ss.alloc family = none := by
      rcases List.mem_pair.mp hfamily with rfl | rfl
      · exact hnothing.1
      · exact hnothing.2
    rw [hother] at htold
    cases htold
  · rfl

lemma allocateAccept_errCode :
    (allocateAccept cfg tid lifetime token c).reply.errCode = c.reply.errCode := by
  rw [allocateAccept]
  simp only
  split <;> rfl

lemma allocateFinish_errCode {err4 err6 : ℕ} (h : c.reply.resp.isSome = true) :
    (allocateFinish cfg tid err4 err6 c).reply.errCode = c.reply.errCode := by
  obtain ⟨buf, hbuf⟩ := isSome_iff_exists.mp h
  rw [allocateFinish, hbuf]
  simp only
  split_ifs <;> rfl

/-! ## Failed requests -/

lemma allocateFinish_holdings (err4 err6 : ℕ) (c : Ctx) :
    (allocateFinish cfg tid err4 err6 c).holdings = c.holdings := by
  rw [allocateFinish]
  split
  · simp only
    split_ifs <;> rfl
  · split_ifs <;> rfl

/-- The families of failing endpoints have their marks and no sockets, a reserved socket is not
taken, and no search for an even port changes the taken ports for good. -/
structure EndpointsStay (engine : RelayEngine cfg env attrs c) (transport : Transport)
    (v : AllocateVars) : Prop where
  marked : ∀ family ∈ allocateFamilyList cfg c.ss v, c.ss.alloc.getRelaySessionFailure family = true ∧
    (v.inReservationToken = 0 → c.ss.alloc.getRelaySocket family = none)
  reserved : keepsReserved cfg env transport v.inReservationToken
  ports : v.inReservationToken = 0 → ¬ DisturbsAlong (evenPortValue v.evenPort)
    (failedVisits (relayCall cfg engine.system transport v) (allocateFamilyList cfg c.ss v)
      engine.pools)

/-- The flags, the quota and the bandwidth are as a request in which `p` is read leaves them, and so
are the endpoints that it comes to. -/
structure LeavesNothing (engine : RelayEngine cfg env attrs c) (p : Parsed AllocateVars) : Prop where
  flags : FlagsStay cfg c.ss attrs
  quota : (allocateTransport? p).isSome = true →
    QuotaStays cfg c.srv.realms c.ss p.val.username
  bandwidth : (allocateTransport? p).isSome = true → c.ss.quotaUsed = true →
    c.ss.bps ≠ 0 ∨ grantedBps env c.ss.realmOptions.maxBps p.val.bps = 0
  endpoints : ∀ transport ∈ allocateTransport? p, ComesToEndpoints cfg env c.ss p.val →
    EndpointsStay engine transport p.val

lemma rejected_holdings_iff {reply : Reply} :
    ({ allocateRead cfg attrs c with reply := reply } : Ctx).holdings = c.holdings ↔
      FlagsStay cfg c.ss attrs := by
  rw [Holdings.ext_iff, ← flagsStay_iff]
  simp [Ctx.holdings, allocateRead, Ctx.afterLoop]

lemma allocateQuota_refused_iff : (allocateQuota cfg attrs c).1 = false ↔
    c.ss.quotaUsed = false ∧
      RefusesQuota cfg c.srv.realms c.ss (readAllocate cfg c.ss attrs).val.username := by
  obtain ⟨mobileMap, mobileId, sMobileId, hstart⟩ := @allocateStart_eq cfg attrs c
  rw [allocateQuota, incQuota_refused_iff, hstart]
  rfl

lemma overQuota_holdings_iff (hquota : (allocateQuota cfg attrs c).1 = false) :
    ((allocateCharged cfg attrs c).failCode 486).holdings =
        c.holdings ↔
      FlagsStay cfg c.ss attrs ∧
        QuotaStays cfg c.srv.realms c.ss (readAllocate cfg c.ss attrs).val.username := by
  obtain ⟨mobileMap, mobileId, sMobileId, hstart⟩ := @allocateStart_eq cfg attrs c
  have hresult := incQuota_refused hquota
  obtain ⟨hunused, hrefuses⟩ := allocateQuota_refused_iff.mp hquota
  have hsession : (allocateQuota cfg attrs c).2.2 = (allocateStart cfg attrs c).ss :=
    congrArg Prod.snd hresult
  have hrealms : (allocateQuota cfg attrs c).2.1 =
      if cfg.ct = .longTerm ∧ c.ss.originSet = false then c.srv.realms
      else (c.srv.realms.getRealm c.ss.realmOptions.name).2 := by
    refine (congrArg Prod.fst hresult).trans ?_
    rw [hstart]
    rfl
  have hcounters : (allocateQuota cfg attrs c).2.1.counter = c.srv.realms.counter := by
    rw [hrealms]
    split_ifs
    · rfl
    · exact RealmTable.counter_getRealm _ _
  have htotals : (allocateQuota cfg attrs c).2.1.total = c.srv.realms.total ↔
      (cfg.ct = .longTerm ∧ c.ss.originSet = false ∨
        (c.srv.realms.find c.ss.realmOptions.name).isSome = true ∨
        c.srv.realms.dflt.totalCurrentAllocs = 0) := by
    rw [hrealms]
    split_ifs with horigin
    · simp [horigin]
    · rw [RealmTable.total_getRealm_iff, or_iff_right horigin]
  rw [Holdings.ext_iff, ← flagsStay_iff, QuotaStays]
  simp only [Ctx.holdings, Ctx.failCode, Ctx.account, hcounters, htotals, hsession, hstart,
    allocateRead, hunused, hrefuses, Bool.false_eq_true, false_or, true_and]
  tauto

lemma QuotaStays.used
    (h : QuotaStays cfg c.srv.realms c.ss (readAllocate cfg c.ss attrs).val.username)
    (hquota : (allocateQuota cfg attrs c).1 = true) : c.ss.quotaUsed = true := by
  by_contra hunused
  have hrefuses := (h.resolve_left hunused).1
  have hnot := allocateQuota_refused_iff.mpr ⟨Bool.eq_false_of_not_eq_true hunused, hrefuses⟩
  exact absurd (hquota.symm.trans hnot) (by decide)

/-- A granted quota: the session had it before, and gets no more bandwidth. -/
lemma ready_holdings_iff (hquota : (allocateQuota cfg attrs c).1 = true) :
    (allocateReady cfg env attrs c).holdings = c.holdings ↔
      FlagsStay cfg c.ss attrs ∧ c.ss.quotaUsed = true ∧
        (c.ss.bps ≠ 0 ∨ grantedBps env c.ss.realmOptions.maxBps
          (readAllocate cfg c.ss attrs).val.bps = 0) := by
  obtain ⟨mobileMap, mobileId, sMobileId, hstart⟩ := @allocateStart_eq cfg attrs c
  obtain ⟨reply, hready⟩ := @allocateReady_eq cfg env attrs c
  cases hused : c.ss.quotaUsed with
  | false =>
    have hnow : (allocateQuota cfg attrs c).2.2.quotaUsed = true := incQuota_used hquota
    have hne : (allocateReady cfg env attrs c).holdings ≠ c.holdings := by
      intro heq
      have hflag := congrArg Holdings.quotaUsed heq
      rw [hready] at hflag
      exact absurd (hflag.symm.trans hnow) (by simp [Ctx.holdings, hused])
    simp [hne]
  | true =>
    have hbps : (if c.ss.bps = 0 then grantedBps env c.ss.realmOptions.maxBps
        (readAllocate cfg c.ss attrs).val.bps else c.ss.bps) = c.ss.bps ↔
          (c.ss.bps ≠ 0 ∨ grantedBps env c.ss.realmOptions.maxBps
            (readAllocate cfg c.ss attrs).val.bps = 0) := by
      split_ifs with hzero
      · simp [hzero]
      · simp [hzero]
    rw [allocateQuota_of_used hused, hstart] at hready
    rw [Holdings.ext_iff, hready, ← flagsStay_iff]
    simp only [Ctx.holdings, Ctx.account, allocateRead]
    tauto

lemma getRelaySession_of_sameIndex {a : Allocation} {family' : ℕ}
    (h : sameIndex family family' = true) :
    a.getRelaySessionFailure family' = a.getRelaySessionFailure family ∧
      a.getRelaySocket family' = a.getRelaySocket family := by
  have hiff : family = 10 ↔ family' = 10 := by
    rwa [sameIndex, beq_iff_eq, Bool.eq_iff_iff, beq_iff_eq, beq_iff_eq] at h
  unfold Allocation.getRelaySessionFailure Allocation.getRelaySocket Allocation.getRelaySession
  simp only [hiff, and_self]

/-- Endpoints that all fail: their families were marked before and had no sockets. -/
lemma allocateRelays_same_iff (lifetime : UInt32)
    (hreserved : keepsReserved cfg env transport v.inReservationToken)
    (hfailed : ∀ family ∈ allocateFamilyList cfg c.ss v, relayCreated cfg env c.ss transport
      v.inReservationToken family = false) :
    ((allocateRelays cfg env transport v lifetime c).2.ss.alloc.getRelaySessionFailure =
        c.ss.alloc.getRelaySessionFailure ∧
      (allocateRelays cfg env transport v lifetime c).2.ss.alloc.getRelaySocket =
        c.ss.alloc.getRelaySocket) ↔
      ∀ family ∈ allocateFamilyList cfg c.ss v,
        c.ss.alloc.getRelaySessionFailure family = true ∧
          (v.inReservationToken = 0 → c.ss.alloc.getRelaySocket family = none) := by
  constructor
  · rintro ⟨hmark, hsocket⟩ family hfamily
    constructor
    · rw [← congrFun hmark family, allocateRelays_mark, Bool.or_eq_true]
      refine Or.inr (List.any_eq_true.mpr ⟨family, hfamily, ?_⟩)
      simp [sameIndex, hfailed family hfamily]
    · intro htoken
      rw [← congrFun hsocket family, allocateRelays_failed hreserved hfailed, if_pos]
      exact ⟨htoken, family, hfamily, by simp [sameIndex]⟩
  · intro h
    constructor
    · ext family'
      rw [allocateRelays_mark]
      cases hany : (allocateFamilyList cfg c.ss v).any fun family => sameIndex family family' &&
          !relayCreated cfg env c.ss transport v.inReservationToken family with
      | false => rw [Bool.or_false]
      | true =>
        obtain ⟨family, hfamily, hindex⟩ := List.any_eq_true.mp hany
        rw [(getRelaySession_of_sameIndex (Bool.and_eq_true_iff.mp hindex).1).1,
          (h family hfamily).1, Bool.or_true]
    · ext1 family'
      rw [allocateRelays_failed hreserved hfailed]
      split_ifs with hlost
      · obtain ⟨htoken, family, hfamily, hindex⟩ := hlost
        rw [(getRelaySession_of_sameIndex hindex).2, (h family hfamily).2 htoken]
      · rfl

lemma failed_holdings_iff
    (hreserved :
      keepsReserved cfg env transport (readAllocate cfg c.ss attrs).val.inReservationToken)
    (hready : (allocateReady cfg env attrs c).reply.errCode = 0)
    (herr : (allocateEndpoints cfg env attrs c transport).2.reply.errCode ≠ 0) :
    (allocateEndpoints cfg env attrs c transport).2.endpointReason.holdings = c.holdings ↔
      (allocateReady cfg env attrs c).holdings = c.holdings ∧
        ∀ family ∈ allocateFamilyList cfg c.ss (readAllocate cfg c.ss attrs).val,
          c.ss.alloc.getRelaySessionFailure family = true ∧
            ((readAllocate cfg c.ss attrs).val.inReservationToken = 0 →
              c.ss.alloc.getRelaySocket family = none) := by
  have hsame : SameEndpoints c (allocateReady cfg env attrs c) := allocateReady_same
  have hiff := allocateRelays_same_iff (allocateLifetime cfg attrs c) hreserved
    (allocateRelays_error hready herr)
  rw [allocateFamilyList_congr hsame.clientSocket, hsame.alloc] at hiff
  obtain ⟨a, reply, -, heq⟩ := @allocateRelays_rule cfg env (allocateLifetime cfg attrs c)
    (fun _ => True) (allocateReady cfg env attrs c) (fun _ _ => id) (fun _ _ => id) (fun _ _ => id)
    transport (readAllocate cfg c.ss attrs).val trivial
  rw [← hiff, heq, Holdings.ext_iff, Holdings.ext_iff]
  simp only [Ctx.holdings, Ctx.endpointReason, allocateEndpoints, heq, hsame.alloc]
  tauto

/-- A session that holds its quota comes to the endpoints when nothing before them fails. -/
lemma comesToEndpoints_iff {transport : Transport}
    (hattrs : allocateTransport? (readAllocate cfg c.ss attrs) = some transport)
    (hused : c.ss.quotaUsed = true) : (allocateReady cfg env attrs c).reply.errCode = 0 ↔
      ComesToEndpoints cfg env c.ss (readAllocate cfg c.ss attrs).val := by
  obtain ⟨mobileMap, mobileId, sMobileId, hstart⟩ := @allocateStart_eq cfg attrs c
  have hcode : (readAllocate cfg c.ss attrs).errCode = 0 := by
    rw [allocateTransport?, filter_eq_some_iff] at hattrs
    exact (of_decide_eq_true hattrs.2).2.1
  rw [allocateReady, allocateChecks_errCode, allocateCharged, allocateQuota_of_used hused, hstart,
    allocateBandwidth_errCode env _ hcode]
  exact ⟨fun h => ⟨hused, h.1, h.2.1, h.2.2⟩, fun h => ⟨h.bandwidth, h.dual, h.draining⟩⟩

lemma RelayEngine.after_of_none (engine : RelayEngine cfg env attrs c)
    (h : reachesEndpoints cfg env attrs c = none) : engine.before.Same engine.after := by
  rw [RelayEngine.after, h]
  exact ⟨rfl, rfl⟩

/-- No endpoint of the request could be created, seen from the session before it. -/
lemma relayCreated_of_failed (hready : (allocateReady cfg env attrs c).reply.errCode = 0)
    (hfailed : (allocateEndpoints cfg env attrs c transport).2.reply.errCode ≠ 0)
    (htoken : (readAllocate cfg c.ss attrs).val.inReservationToken = 0) :
    ∀ family ∈ allocateFamilyList cfg c.ss (readAllocate cfg c.ss attrs).val,
      relayCreated cfg env c.ss transport 0 family = false := by
  intro family hfamily
  have hsocket := (@allocateReady_same cfg env attrs c).clientSocket
  rw [← allocateFamilyList_congr hsocket] at hfamily
  have hnot := allocateRelays_error hready hfailed family hfamily
  rw [htoken] at hnot
  rw [← hnot]
  exact (createRelayConnection_error hsocket).symm

/-- An Allocate that is answered with an error leaves everything as it was exactly when there was
nothing left to change. -/
theorem failed_allocate_leaves_nothing_iff (cfg : Config) (env : Env) (tid : List UInt8)
    (attrs : List StunAttr) (c : Ctx) (engine : RelayEngine cfg env attrs c)
    (hvalid : c.ss.alloc.isValid = false) (hss : c.ss.Answerable)
    (herr : (handleTurnAllocate cfg env tid attrs c).reply.errCode ≠ 0)
    (hfit : engine.after.pools.Fitting) :
    (handleTurnAllocate cfg env tid attrs c).holdings = c.holdings ∧
        engine.before.Same engine.after ↔ LeavesNothing engine (readAllocate cfg c.ss attrs) := by
  rw [handleTurnAllocate_of_invalid hvalid] at herr ⊢
  rw [allocateFinish_holdings]
  have hcases : AllocateCase cfg env tid attrs c _ := allocateFresh_cases
  generalize allocateFresh cfg env tid attrs c = result at hcases herr ⊢
  cases hcases with
  | rejected reply hattrs _ _ =>
    have hnone : reachesEndpoints cfg env attrs c = none := by
      rw [reachesEndpoints, hattrs]
      rfl
    rw [rejected_holdings_iff, and_iff_left (engine.after_of_none hnone)]
    refine ⟨fun hflags => ⟨hflags, ?_, ?_, ?_⟩, LeavesNothing.flags⟩ <;> simp [hattrs]
  | overQuota transport hattrs hquota =>
    have hnone : reachesEndpoints cfg env attrs c = none := by
      rw [reachesEndpoints, hattrs]
      simp [hquota]
    obtain ⟨hunused, -⟩ := allocateQuota_refused_iff.mp hquota
    rw [overQuota_holdings_iff hquota, and_iff_left (engine.after_of_none hnone)]
    refine ⟨fun ⟨hflags, hstays⟩ => ⟨hflags, fun _ => hstays, by simp [hunused],
      fun _ _ hcomes => ?_⟩, fun h => ⟨h.flags, h.quota (by simp [hattrs])⟩⟩
    exact absurd (hunused.symm.trans hcomes.quota) (by decide)
  | refused transport hattrs hquota hready =>
    have hnone : reachesEndpoints cfg env attrs c = none := by
      rw [reachesEndpoints, hattrs]
      simp [hready]
    have hreason : (allocateReady cfg env attrs c).endpointReason.holdings =
        (allocateReady cfg env attrs c).holdings := rfl
    rw [hreason, ready_holdings_iff hquota, and_iff_left (engine.after_of_none hnone)]
    constructor
    · rintro ⟨hflags, hused, hbps⟩
      refine ⟨hflags, fun _ => Or.inl hused, fun _ _ => hbps, fun _ _ hcomes => ?_⟩
      exact absurd ((comesToEndpoints_iff hattrs hused).mpr hcomes) hready
    · intro h
      have hused := (h.quota (by simp [hattrs])).used hquota
      exact ⟨h.flags, hused, h.bandwidth (by simp [hattrs]) hused⟩
  | failed transport hattrs hquota hready hfailed =>
    have hsome : reachesEndpoints cfg env attrs c = some transport := by
      rw [reachesEndpoints, hattrs]
      simp [hquota, hready]
    rw [engine.same_iff rfl hsome (relayCreated_of_failed hready hfailed) hfit]
    constructor
    · rintro ⟨hsame, hreserved, hports⟩
      obtain ⟨hbefore, hmarked⟩ := (failed_holdings_iff hreserved hready hfailed).mp hsame
      obtain ⟨hflags, hused, hbps⟩ := (ready_holdings_iff hquota).mp hbefore
      refine ⟨hflags, fun _ => Or.inl hused, fun _ _ => hbps, fun transport' htransport' _ => ?_⟩
      obtain rfl : transport = transport' := mem_unique hattrs htransport'
      exact ⟨hmarked, hreserved, hports⟩
    · intro h
      have hused := (h.quota (by simp [hattrs])).used hquota
      have hstay := h.endpoints transport hattrs ((comesToEndpoints_iff hattrs hused).mp hready)
      have hbefore : (allocateReady cfg env attrs c).holdings = c.holdings :=
        (ready_holdings_iff hquota).mpr ⟨h.flags, hused, h.bandwidth (by simp [hattrs]) hused⟩
      exact ⟨(failed_holdings_iff hstay.reserved hready hfailed).mpr ⟨hbefore, hstay.marked⟩,
        hstay.reserved, hstay.ports⟩
  | accepted transport hattrs hquota hready hcode =>
    -- the client is there, so there is a response, and no error
    have hanswerable : (allocateReady cfg env attrs c).ss.Answerable := by
      rw [Session.Answerable, allocateReady_same.clientSocket]
      exact hss
    have hresp : (allocateAccept cfg tid (allocateLifetime cfg attrs c)
        (allocateEndpoints cfg env attrs c transport).1.2.2
        (allocateEndpoints cfg env attrs c transport).2).reply.resp.isSome = true :=
      allocateAccept_responds (allocateRelays_reports hanswerable)
    rw [allocateFinish_errCode hresp, allocateAccept_errCode] at herr
    exact absurd hcode herr

/-- The attributes of a request for an IPv6 endpoint. -/
def ipv6Attrs : List (ℕ × List UInt8) :=
  [udpTransportAttr, (attrRequestedAddressFamily, [2, 0, 0, 0])]

/-- The server after such a request, which has failed. -/
def afterIpv6 : Server := connected.step asksForIpv6

def readIpv6 (ss : Session) : AllocateVars :=
  (readAllocate plainParams ss (requestAttrs ipv6Attrs)).val

/-- When a request for IPv6 has failed, the next one finds nothing left to change. -/
theorem failed_allocate_leaves_nothing_again :
    ∃ ss ∈ afterIpv6.sessionsMap 1, (firstAllocate afterIpv6 ipv6Attrs ss).reply.errCode = 508 ∧
      (firstAllocate afterIpv6 ipv6Attrs ss).holdings =
        (⟨afterIpv6, ss, .init, []⟩ : Ctx).holdings := by
  obtain ⟨ss, hss, hvalid, hanswerable, herr, hflags, hstate, hread, hfamilies⟩ :
      ∃ ss ∈ afterIpv6.sessionsMap 1, ss.alloc.isValid = false ∧
      (ss.clientSocket.isNone || ioaSocketTobeclosed ss.clientSocket) = false ∧
      (firstAllocate afterIpv6 ipv6Attrs ss).reply.errCode = 508 ∧
      ((readIpv6 ss).isMobile = ss.isMobile ∧ (readIpv6 ss).isTcpRelay = ss.isTcpRelay) ∧
      (ss.quotaUsed = true ∧ ss.alloc.getRelaySessionFailure 10 = true ∧
        ss.alloc.getRelaySocket 10 = none) ∧
      ((readIpv6 ss).inReservationToken = 0 ∧ (readIpv6 ss).evenPort = none) ∧
      allocateFamilyList plainParams ss (readIpv6 ss) = [10] := by
    decide +kernel
  rw [readIpv6] at hflags hread hfamilies
  generalize afterIpv6 = srv at *
  -- the server has no IPv6 address to offer
  let engine : RelayEngine plainParams plainEnv
      (requestAttrs ipv6Attrs) ⟨srv, ss, .init, []⟩ :=
    { range := smallRange
      pools := (RelayState.init 49152 49155).pools
      sound := fun _ => RelayState.init_sound smallRange
      system := ⟨fun _ => false, fun _ => [⟨.error 508, fun _ => smoothAttempt⟩], fun _ => true⟩
      reported := fun _ _ _ => by
        rw [hfamilies]
        exact ⟨⟨rfl, rfl⟩, trivial⟩ }
  have hfit : engine.after.pools.Fitting := by
    rw [RelayEngine.after]
    split
    · exact fun _ h => (List.not_mem_nil h).elim
    · simp only [endpointPorts, hread, hfamilies, if_true, List.foldl, endpointPools]
      split <;> exact fun _ h => (List.not_mem_nil h).elim
  refine ⟨ss, hss, herr, ((failed_allocate_leaves_nothing_iff _ _ _ _ _ engine hvalid hanswerable
    ?_ hfit).mpr ⟨flagsStay_iff.mp hflags, ?_, ?_, fun _ _ _ => ⟨?_, ?_, fun _ => ?_⟩⟩).1⟩
  · exact fun hzero => absurd (herr.symm.trans hzero) (by decide)
  · exact fun _ => Or.inl hstate.1
  · exact fun _ _ => Or.inr rfl
  · simp [hfamilies, hstate]
  · exact fun htoken => absurd hread.1 htoken
  · rintro ⟨visit, -, ⟨heven, -⟩ | ⟨heven, -⟩⟩ <;> simp [hread, evenPortValue] at heven

/-- An Allocate for a family that the server does not have leaves its quota taken. -/
theorem failed_allocate_keeps_quota :
    (∃ buf ∈ messagesTo 1 (connected.handle asksForIpv6).2,
      stunIsErrorResponse buf = true) ∧
    ((connected.sessionsMap 1).map fun ss =>
      (ss.quotaUsed, ss.alloc.getRelaySessionFailure 10)) = some (false, false) ∧
    ((connected.step asksForIpv6).sessionsMap 1).map (fun ss =>
      (ss.quotaUsed, ss.alloc.getRelaySessionFailure 10)) = some (true, true) ∧
    connected.realms.total [] = 0 ∧
    (connected.step asksForIpv6).realms.total [] = 1 := by
  decide +kernel

end Coturn
