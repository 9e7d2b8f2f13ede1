/-
# How an Allocate can end

`handle_turn_allocate` takes the quota, the bandwidth and the endpoints one after the other, and
can fail after each of them. Here every way out of it is named once, with the state in which the
request leaves it; what holds of all Allocate requests is then shown by going through these cases.
-/
import Coturn.Server.TableFrames

namespace Coturn

variable (cfg : Config) (env : Env) (tid : List UInt8) (attrs : List StunAttr) (c : Ctx)

/-- The transport of a request whose attributes are in order. -/
def allocateTransport? (p : Parsed AllocateVars) : Option Transport :=
  p.val.transport.filter fun transport =>
    p.unknown = [] ∧ p.errCode = 0 ∧
      ¬ (transport = .tcp ∧
        (p.val.dontFragment = true ∨ p.val.inReservationToken ≠ 0 ∨ p.val.evenPort.isSome = true))

/-- The state after the loop. -/
def allocateRead : Ctx :=
  let p := readAllocate cfg c.ss attrs
  { c.afterLoop p with
    ss := { c.ss with isMobile := p.val.isMobile, isTcpRelay := p.val.isTcpRelay } }

/-- The state in which the quota is asked for. -/
def allocateStart : Ctx := allocateUnlist cfg (allocateRead cfg attrs c)

/-- The outcome of the quota. -/
def allocateQuota : Bool × RealmTable × Session :=
  incQuota cfg (allocateStart cfg attrs c).srv.realms (allocateStart cfg attrs c).ss
    (readAllocate cfg c.ss attrs).val.username

/-- After the quota has been asked for. -/
abbrev allocateCharged : Ctx :=
  (allocateStart cfg attrs c).account (allocateQuota cfg attrs c).2

/-- The state in which the endpoints are created, when there is no error until then. -/
def allocateReady : Ctx :=
  let v := (readAllocate cfg c.ss attrs).val
  allocateChecks cfg v (allocateBandwidth env v.bps (allocateCharged cfg attrs c))

/-- The lifetime that is granted. -/
def allocateLifetime : UInt32 :=
  stunAdjustAllocateLifetime (readAllocate cfg c.ss attrs).val.lifetime cfg.maxAllocateLifetime
    (allocateStart cfg attrs c).ss.maxSessionTimeAuth

/-- The outcome of the endpoints. -/
def allocateEndpoints (transport : Transport) : (ℕ × ℕ × ℕ) × Ctx :=
  allocateRelays cfg env transport (readAllocate cfg c.ss attrs).val
    (allocateLifetime cfg attrs c) (allocateReady cfg env attrs c)

/-- The reason that is given when there is none. -/
def Ctx.endpointReason (c : Ctx) : Ctx :=
  { c with
    reply :=
      { c.reply with reason := some (c.reply.reason.getD "Cannot create relay endpoint(s)") } }

/-- The ways out of an Allocate without a valid allocation. -/
inductive AllocateCase : (ℕ × ℕ) × Ctx → Prop
  | rejected (reply : Reply)
      (hattrs : allocateTransport? (readAllocate cfg c.ss attrs) = none)
      (herr : reply.errCode ≠ 0) (hresp : reply.resp = c.reply.resp) :
      AllocateCase ((0, 0), { allocateRead cfg attrs c with reply := reply })
  | overQuota (transport : Transport)
      (hattrs : allocateTransport? (readAllocate cfg c.ss attrs) = some transport)
      (hquota : (allocateQuota cfg attrs c).1 = false) :
      AllocateCase ((0, 0), (allocateCharged cfg attrs c).failCode 486)
  | refused (transport : Transport)
      (hattrs : allocateTransport? (readAllocate cfg c.ss attrs) = some transport)
      (hquota : (allocateQuota cfg attrs c).1 = true)
      (hready : (allocateReady cfg env attrs c).reply.errCode ≠ 0) :
      AllocateCase ((0, 0), (allocateReady cfg env attrs c).endpointReason)
  | failed (transport : Transport)
      (hattrs : allocateTransport? (readAllocate cfg c.ss attrs) = some transport)
      (hquota : (allocateQuota cfg attrs c).1 = true)
      (hready : (allocateReady cfg env attrs c).reply.errCode = 0)
      (herr : (allocateEndpoints cfg env attrs c transport).2.reply.errCode ≠ 0) :
      AllocateCase (((allocateEndpoints cfg env attrs c transport).1.1,
          (allocateEndpoints cfg env attrs c transport).1.2.1),
        (allocateEndpoints cfg env attrs c transport).2.endpointReason)
  | accepted (transport : Transport)
      (hattrs : allocateTransport? (readAllocate cfg c.ss attrs) = some transport)
      (hquota : (allocateQuota cfg attrs c).1 = true)
      (hready : (allocateReady cfg env attrs c).reply.errCode = 0)
      (herr : (allocateEndpoints cfg env attrs c transport).2.reply.errCode = 0) :
      AllocateCase (((allocateEndpoints cfg env attrs c transport).1.1,
          (allocateEndpoints cfg env attrs c transport).1.2.1),
        allocateAccept cfg tid (allocateLifetime cfg attrs c)
          (allocateEndpoints cfg env attrs c transport).1.2.2
          (allocateEndpoints cfg env attrs c transport).2)

variable {cfg env tid attrs c}

lemma handleTurnAllocate_of_valid (h : c.ss.alloc.isValid = true) :
    handleTurnAllocate cfg env tid attrs c =
      allocateFinish cfg tid 0 0 (allocateAgain cfg tid c) := by
  rw [handleTurnAllocate, if_pos h]

lemma handleTurnAllocate_of_invalid (h : c.ss.alloc.isValid = false) :
    handleTurnAllocate cfg env tid attrs c =
      allocateFinish cfg tid (allocateFresh cfg env tid attrs c).1.1
        (allocateFresh cfg env tid attrs c).1.2 (allocateFresh cfg env tid attrs c).2 := by
  rw [handleTurnAllocate, if_neg (by simp [h])]

lemma handleTurnAllocate_of_read {attrs' : List StunAttr}
    (h : readAllocate cfg c.ss attrs' = readAllocate cfg c.ss attrs) :
    handleTurnAllocate cfg env tid attrs' c = handleTurnAllocate cfg env tid attrs c := by
  have hfresh : allocateFresh cfg env tid attrs' c = allocateFresh cfg env tid attrs c := by
    rw [allocateFresh, h, allocateFresh]
  rw [handleTurnAllocate, hfresh, handleTurnAllocate]

lemma allocateFresh_of_none (h : allocateTransport? (readAllocate cfg c.ss attrs) = none) :
    ∃ reply : Reply, reply.errCode ≠ 0 ∧ reply.resp = c.reply.resp ∧
      allocateFresh cfg env tid attrs c =
        ((0, 0), { allocateRead cfg attrs c with reply := reply }) := by
  rw [allocateTransport?, Option.filter_eq_none_iff] at h
  rw [allocateFresh]
  simp only
  cases htransport : (readAllocate cfg c.ss attrs).val.transport with
  | none =>
    exact ⟨((allocateRead cfg attrs c).fail 400 ((readAllocate cfg c.ss attrs).reason.getD
      "Transport field missed or wrong")).reply, (by decide : 400 ≠ 0), rfl, rfl⟩
  | some transport =>
    simp only
    by_cases hunknown : (readAllocate cfg c.ss attrs).unknown = []
    · rw [if_neg (not_not.mpr hunknown)]
      by_cases hcode : (readAllocate cfg c.ss attrs).errCode = 0
      · rw [if_neg (not_not.mpr hcode), if_pos]
        · exact ⟨((allocateRead cfg attrs c).fail 400
            "Request parameters are incompatible with TCP transport").reply,
            (by decide : 400 ≠ 0), rfl, rfl⟩
        · by_contra hcompatible
          exact h transport htransport (by simp [hunknown, hcode, hcompatible])
      · rw [if_pos hcode]
        exact ⟨(allocateRead cfg attrs c).reply, hcode, rfl, rfl⟩
    · rw [if_pos hunknown]
      exact ⟨((allocateRead cfg attrs c).failCode 420).reply, (by decide : 420 ≠ 0), rfl, rfl⟩

variable {transport : Transport}

lemma allocateFresh_of_some
    (h : allocateTransport? (readAllocate cfg c.ss attrs) = some transport) :
    allocateFresh cfg env tid attrs c =
      allocateNew cfg env tid transport (readAllocate cfg c.ss attrs).val
        (allocateRead cfg attrs c) := by
  obtain ⟨htransport, hread⟩ := Option.filter_eq_some_iff.mp h
  obtain ⟨hunknown, hcode, hcompatible⟩ := of_decide_eq_true hread
  rw [allocateFresh]
  simp only [htransport]
  rw [if_neg (not_not.mpr hunknown), if_neg (not_not.mpr hcode), if_neg hcompatible]
  rfl

lemma allocateNew_eq (transport : Transport) :
    allocateNew cfg env tid transport (readAllocate cfg c.ss attrs).val (allocateRead cfg attrs c) =
      match allocateQuota cfg attrs c with
      | (false, r) => ((0, 0), ((allocateStart cfg attrs c).account r).failCode 486)
      | (true, r) =>
        let v := (readAllocate cfg c.ss attrs).val
        let ready := allocateChecks cfg v (allocateBandwidth env v.bps
          ((allocateStart cfg attrs c).account r))
        let e :=
          if ready.reply.errCode = 0 then
            allocateRelays cfg env transport v (allocateLifetime cfg attrs c) ready
          else ((0, 0, 0), ready)
        if e.2.reply.errCode ≠ 0 then ((e.1.1, e.1.2.1), e.2.endpointReason)
        else
          ((e.1.1, e.1.2.1),
            allocateAccept cfg tid (allocateLifetime cfg attrs c) e.1.2.2 e.2) := rfl

/-- Every Allocate without a valid allocation ends in one of these ways. -/
lemma allocateFresh_cases :
    AllocateCase cfg env tid attrs c (allocateFresh cfg env tid attrs c) := by
  cases hattrs : allocateTransport? (readAllocate cfg c.ss attrs) with
  | none =>
    obtain ⟨reply, herr, hresp, h⟩ := @allocateFresh_of_none cfg env tid attrs c hattrs
    rw [h]
    exact .rejected reply hattrs herr hresp
  | some transport =>
    rw [allocateFresh_of_some hattrs, allocateNew_eq]
    rcases hquota : allocateQuota cfg attrs c with ⟨_ | _, r⟩
    · have hcase : AllocateCase cfg env tid attrs c _ :=
        .overQuota transport hattrs (by rw [hquota])
      rwa [allocateCharged, hquota] at hcase
    · have hready : allocateChecks cfg (readAllocate cfg c.ss attrs).val
          (allocateBandwidth env (readAllocate cfg c.ss attrs).val.bps
            ((allocateStart cfg attrs c).account r)) = allocateReady cfg env attrs c := by
        rw [allocateReady, allocateCharged, hquota]
      have hgranted : (allocateQuota cfg attrs c).1 = true := by rw [hquota]
      simp only [hready]
      by_cases hcode : (allocateReady cfg env attrs c).reply.errCode = 0
      · rw [if_pos hcode]
        by_cases herr : (allocateEndpoints cfg env attrs c transport).2.reply.errCode = 0
        · have hcase : AllocateCase cfg env tid attrs c _ :=
            .accepted transport hattrs hgranted hcode herr
          exact (if_neg (not_not.mpr herr)).symm ▸ hcase
        · have hcase : AllocateCase cfg env tid attrs c _ :=
            .failed transport hattrs hgranted hcode herr
          exact (if_pos herr).symm ▸ hcase
      · rw [if_neg hcode, if_pos hcode]
        exact .refused transport hattrs hgranted hcode

lemma allocateFresh_of_success (h : (allocateFresh cfg env tid attrs c).2.reply.errCode = 0) :
    ∃ transport, allocateTransport? (readAllocate cfg c.ss attrs) = some transport ∧
      allocateFresh cfg env tid attrs c =
        (((allocateEndpoints cfg env attrs c transport).1.1,
          (allocateEndpoints cfg env attrs c transport).1.2.1),
        allocateAccept cfg tid (allocateLifetime cfg attrs c)
          (allocateEndpoints cfg env attrs c transport).1.2.2
          (allocateEndpoints cfg env attrs c transport).2) := by
  have hcases : AllocateCase cfg env tid attrs c _ := allocateFresh_cases
  generalize allocateFresh cfg env tid attrs c = result at hcases h ⊢
  cases hcases with
  | rejected reply _ hreply _ => exact absurd h hreply
  | overQuota => exact absurd h (by simp [Ctx.failCode])
  | refused _ _ _ hready => exact absurd h hready
  | failed _ _ _ _ hfailed => exact absurd h hfailed
  | accepted transport hattrs => exact ⟨transport, hattrs, rfl⟩

/-! ## The state in which the endpoints are created -/

/-- What the steps before the endpoints leave alone. -/
structure SameEndpoints (c c' : Ctx) : Prop where
  alloc : c'.ss.alloc = c.ss.alloc
  clientSocket : c'.ss.clientSocket = c.ss.clientSocket
  resp : c'.reply.resp = c.reply.resp

lemma SameEndpoints.trans {c₁ c₂ c₃ : Ctx} (h₁ : SameEndpoints c₁ c₂) (h₂ : SameEndpoints c₂ c₃) :
    SameEndpoints c₁ c₃ :=
  ⟨h₂.alloc.trans h₁.alloc, h₂.clientSocket.trans h₁.clientSocket, h₂.resp.trans h₁.resp⟩

lemma allocateStart_same : SameEndpoints c (allocateStart cfg attrs c) := by
  rw [allocateStart, allocateUnlist]
  split_ifs
  · simp only [deleteSessionFromMobileMap]
    split_ifs <;> exact ⟨rfl, rfl, rfl⟩
  · exact ⟨rfl, rfl, rfl⟩

lemma incQuota_same (cfg : Config) (realms : RealmTable) (ss : Session) (username : List UInt8) :
    (incQuota cfg realms ss username).2.2.alloc = ss.alloc ∧
      (incQuota cfg realms ss username).2.2.clientSocket = ss.clientSocket := by
  rw [incQuota]
  split_ifs
  · exact ⟨rfl, rfl⟩
  · exact ⟨rfl, rfl⟩
  · split <;> exact ⟨rfl, rfl⟩

lemma allocateBandwidth_same (env : Env) (bps : ℕ) (c : Ctx) :
    SameEndpoints c (allocateBandwidth env bps c) := by
  rw [allocateBandwidth]
  split
  · exact ⟨rfl, rfl, rfl⟩
  · simp only
    split_ifs <;> exact ⟨rfl, rfl, rfl⟩

lemma allocateChecks_same (cfg : Config) (v : AllocateVars) (c : Ctx) :
    SameEndpoints c (allocateChecks cfg v c) := by
  rw [allocateChecks]
  split_ifs <;> exact ⟨rfl, rfl, rfl⟩

lemma allocateReady_same : SameEndpoints c (allocateReady cfg env attrs c) := by
  have hquota : SameEndpoints (allocateStart cfg attrs c) (allocateCharged cfg attrs c) := by
    obtain ⟨halloc, hsocket⟩ := incQuota_same cfg (allocateStart cfg attrs c).srv.realms
      (allocateStart cfg attrs c).ss (readAllocate cfg c.ss attrs).val.username
    exact ⟨halloc, hsocket, rfl⟩
  exact ((allocateStart_same.trans hquota).trans (allocateBandwidth_same env _ _)).trans
    (allocateChecks_same cfg _ _)

/-! ## The endpoints -/

lemma setupRelaySocket_error (ctime : UInt32) (a : Allocation) (lifetime : UInt32) (family : ℕ)
    (multiplexPeerUdp : Bool) (s : Option RelayIoaSocket) (rtcp : Bool) (token : ℕ) :
    (setupRelaySocket cfg env ctime a lifetime family multiplexPeerUdp s rtcp
      token).error.isNone =
        s.any fun s => ¬ (rtcp = true ∧ token = 0) ∧
          ¬ (s.type ≠ .tcp ∧ multiplexPeerUdp = false ∧ env.registerCallback = false) := by
  cases s with
  | none => rfl
  | some s =>
    simp only [setupRelaySocket]
    by_cases htoken : rtcp = true ∧ token = 0
    · rw [if_pos htoken]
      simp [htoken]
    · rw [if_neg htoken]
      by_cases hcallback :
          s.type ≠ .tcp ∧ multiplexPeerUdp = false ∧ env.registerCallback = false
      · rw [if_pos hcallback]
        simp [hcallback]
      · rw [if_neg hcallback, Option.any_some, decide_eq_true ⟨htoken, hcallback⟩]
        rfl

/-- The endpoint of a family can be created; what it depends on is read from the session and not
from its allocation. -/
def relayCreated (cfg : Config) (env : Env) (ss : Session) (transport : Transport)
    (inReservationToken family : ℕ) : Bool :=
  (createRelayConnection cfg env 0 ss 0 family transport inReservationToken 0).error.isNone

lemma createRelayConnection_error {ctime lifetime : UInt32} {ss ss' : Session} {family : ℕ}
    {inReservationToken token : ℕ}
    (hsocket : ss'.clientSocket = ss.clientSocket) :
    (createRelayConnection cfg env ctime ss' lifetime family transport inReservationToken
      token).error.isNone = relayCreated cfg env ss transport inReservationToken family := by
  simp only [relayCreated, createRelayConnection, hsocket]
  split_ifs
  · rfl
  · rfl
  · split
    · rfl
    · rw [setupRelaySocket_error, setupRelaySocket_error]
      simp
  · split
    · rfl
    · rw [setupRelaySocket_error, setupRelaySocket_error]

/-- The session has a client that can be answered. -/
def Session.Answerable (ss : Session) : Prop :=
  (ss.clientSocket.isNone || ioaSocketTobeclosed ss.clientSocket) = false
  deriving Decidable

/-- The socket of an endpoint that can be created: the reserved one under a token, a new one
otherwise. -/
def relayGiven (env : Env) (ss : Session) (inReservationToken family : ℕ) :
    Option RelayIoaSocket :=
  if ss.Answerable then
    if inReservationToken ≠ 0 then env.reservedSocket inReservationToken
    else
      match env.createRelay family with
      | .failure _ _ => none
      | .ok s _ _ => s
  else none

lemma createRelayConnection_created {ctime lifetime : UInt32} {ss : Session}
    {family inReservationToken token : ℕ} {r : RelayOutcome}
    (hr : createRelayConnection cfg env ctime ss lifetime family transport inReservationToken
      token = r) (h : r.error = none) :
    (¬ ss.Answerable ∧ r.alloc = ss.alloc) ∨
      ∃ s, relayGiven env ss inReservationToken family = some s ∧
        r.alloc = ss.alloc.opened s (ctime + cutLifetime cfg lifetime) := by
  subst hr
  simp only [createRelayConnection] at h ⊢
  by_cases hgone : (ss.clientSocket.isNone || ioaSocketTobeclosed ss.clientSocket) = true
  · rw [if_pos hgone]
    exact Or.inl ⟨by simp [Session.Answerable, hgone], rfl⟩
  have hanswer : ss.Answerable := Bool.eq_false_of_not_eq_true hgone
  right
  rw [if_neg hgone] at h ⊢
  rw [relayGiven, if_pos hanswer]
  split_ifs at h ⊢ with hmultiplex htoken
  · split at h
    · cases h
    next s hs =>
      rcases setupRelaySocket_cases cfg env ctime ss.alloc lifetime
        (cfg.multiplexPeerMode && transport == .udp) false token
        (fun s' hs' => congrArg RelayIoaSocket.family (Option.some.inj hs').symm) with
        ⟨e, heq⟩ | ⟨s', hs', heq⟩
      · rw [heq] at h
        cases h
      · obtain rfl := Option.some.inj hs'
        exact ⟨s, (Option.filter_eq_some_iff.mp hs).1, congrArg RelayOutcome.alloc heq⟩
  · cases hcreate : env.createRelay family with
    | failure errCode reason =>
      rw [hcreate] at h
      cases h
    | ok s rtcp token' =>
      rw [hcreate] at h
      rcases @setupRelaySocket_cases cfg env ctime ss.alloc lifetime family
        (cfg.multiplexPeerMode && transport == .udp) s rtcp token'
        (fun s' hs' => env.createRelay_family (hs' ▸ hcreate)) with ⟨e, heq⟩ | ⟨s', rfl, heq⟩
      · exact absurd ((congrArg RelayOutcome.error heq).symm.trans h) (Option.some_ne_none e)
      · exact ⟨s', rfl, congrArg RelayOutcome.alloc heq⟩

/-- The families asked for. -/
def allocateFamilyList (cfg : Config) (ss : Session) (v : AllocateVars) : List ℕ :=
  (if (allocateFamilies cfg ss v).1 then [2] else []) ++
    (if (allocateFamilies cfg ss v).2 then [10] else [])

lemma allocateFamilyList_congr {ss ss' : Session} (h : ss'.clientSocket = ss.clientSocket) :
    allocateFamilyList cfg ss' = allocateFamilyList cfg ss := by
  ext v
  simp only [allocateFamilyList, allocateFamilies, h]

lemma allocateFamilies_ne (cfg : Config) (ss : Session) (v : AllocateVars) :
    allocateFamilies cfg ss v ≠ (false, false) := by
  rw [allocateFamilies]
  split_ifs with hasked
  · intro h
    rw [(Prod.mk.inj h).1, (Prod.mk.inj h).2] at hasked
    cases hasked
  · cases cfg.allocationDefaultAddressFamily with
    | ipv4 => simp
    | ipv6 => simp
    | keep =>
      rw [Ne, Prod.mk.injEq]
      rintro ⟨hleft, hright⟩
      rw [hright] at hleft
      cases hleft

/-- One endpoint after the other, with the reservation token. -/
def allocateRelayStep (cfg : Config) (env : Env) (ctime : UInt32) (transport : Transport)
    (v : AllocateVars) (lifetime : UInt32) (r : ℕ × Session) (family : ℕ) : ℕ × Session :=
  (allocateRelay cfg env ctime transport v lifetime family r.1 r.2).2

lemma allocateRelays_ss (cfg : Config) (env : Env) (transport : Transport) (v : AllocateVars)
    (lifetime : UInt32) (c : Ctx) :
    (allocateRelays cfg env transport v lifetime c).2.ss =
      ((allocateFamilyList cfg c.ss v).foldl
        (allocateRelayStep cfg env c.srv.ctime transport v lifetime) (0, c.ss)).2 := by
  have hfamilies := allocateFamilies_ne cfg c.ss v
  simp only [allocateRelays, allocateFamilyList]
  generalize allocateFamilies cfg c.ss v = families at hfamilies ⊢
  rcases families with ⟨_ | _, _ | _⟩
  · exact absurd rfl hfamilies
  · simp only
    split <;> rfl
  · simp only
    split <;> rfl
  · simp only
    split <;> rfl

/-! ## Marks and sockets -/

/-- `ALLOC_INDEX` is the same for both families. -/
def sameIndex (family family' : ℕ) : Bool := (family == 10) == (family' == 10)

variable (a : Allocation)

lemma setRelaySessionFailure_mark (family family' : ℕ) :
    (a.setRelaySessionFailure family).getRelaySessionFailure family' =
      (a.getRelaySessionFailure family' || sameIndex family family') := by
  unfold Allocation.setRelaySessionFailure Allocation.getRelaySessionFailure sameIndex
  split_ifs <;> simp_all

@[simp] lemma setRelaySession_failure (family : ℕ) (r : RelayEndpointSession) (family' : ℕ) :
    (a.setRelaySession family r).getRelaySessionFailure family' =
      a.getRelaySessionFailure family' := by
  unfold Allocation.setRelaySession
  split_ifs <;> rfl

@[simp] lemma setAllocationLifetimeEv_failure (expTime : UInt32) (family family' : ℕ) :
    (a.setAllocationLifetimeEv expTime family).getRelaySessionFailure family' =
      a.getRelaySessionFailure family' :=
  setRelaySession_failure _ _ _ _

lemma setRelaySession_socket (family : ℕ) (r : RelayEndpointSession) (family' : ℕ) :
    (a.setRelaySession family r).getRelaySocket family' =
      if sameIndex family family' then r.s else a.getRelaySocket family' := by
  unfold Allocation.setRelaySession Allocation.getRelaySocket Allocation.getRelaySession sameIndex
  split_ifs <;> simp_all

lemma setRelaySessionFailure_socket (family family' : ℕ) :
    (a.setRelaySessionFailure family).getRelaySocket family' = a.getRelaySocket family' := by
  unfold Allocation.setRelaySessionFailure
  split_ifs <;> rfl

lemma setAllocationLifetimeEv_socket (expTime : UInt32) (family family' : ℕ) :
    (a.setAllocationLifetimeEv expTime family).getRelaySocket family' =
      a.getRelaySocket family' := by
  rw [Allocation.setAllocationLifetimeEv, setRelaySession_socket]
  unfold Allocation.getRelaySocket Allocation.getRelaySession sameIndex
  split_ifs <;> simp_all

lemma opened_socket (s : RelayIoaSocket) (expires : UInt32) (family' : ℕ) :
    (a.opened s expires).getRelaySocket family' =
      if sameIndex s.family family' then some s else a.getRelaySocket family' := by
  rw [Allocation.opened, setAllocationLifetimeEv_socket, setRelaySession_socket]

lemma createRelayConnection_failure {ctime lifetime : UInt32} {ss : Session}
    {family inReservationToken token : ℕ} {r : RelayOutcome}
    (hr : createRelayConnection cfg env ctime ss lifetime family transport inReservationToken
      token = r) (family' : ℕ) :
    r.alloc.getRelaySessionFailure family' = ss.alloc.getRelaySessionFailure family' := by
  rcases createRelayConnection_cases cfg env hr with heq | ⟨_, heq⟩ | ⟨_, heq⟩ <;> rw [heq]
  · exact setRelaySession_failure _ _ _ _
  · rw [Allocation.opened, setAllocationLifetimeEv_failure, setRelaySession_failure]

lemma allocateRelay_mark (cfg : Config) (env : Env) (ctime : UInt32) (transport : Transport)
    (v : AllocateVars) (lifetime : UInt32) (family token : ℕ) (ss : Session) (family' : ℕ) :
    (allocateRelay cfg env ctime transport v lifetime family token
        ss).2.2.alloc.getRelaySessionFailure family' =
      (ss.alloc.getRelaySessionFailure family' || (sameIndex family family' &&
        !relayCreated cfg env ss transport v.inReservationToken family)) := by
  obtain ⟨r, hr⟩ : ∃ r, createRelayConnection cfg env ctime ss lifetime family transport
    v.inReservationToken token = r := ⟨_, rfl⟩
  have hcreated : r.error.isNone = relayCreated cfg env ss transport v.inReservationToken family :=
    hr ▸ createRelayConnection_error rfl
  have hmark := createRelayConnection_failure hr family'
  rw [← hcreated, allocateRelay, hr]
  cases r.error with
  | none => simp [hmark]
  | some e =>
    simp only [Option.isNone_some, Bool.not_false, Bool.and_true]
    rw [setRelaySessionFailure_mark, hmark]

lemma allocateRelay_clientSocket (cfg : Config) (env : Env) (ctime : UInt32)
    (transport : Transport) (v : AllocateVars) (lifetime : UInt32) (family token : ℕ)
    (ss : Session) :
    (allocateRelay cfg env ctime transport v lifetime family token ss).2.2.clientSocket =
      ss.clientSocket := by
  rw [allocateRelay]
  split <;> rfl

lemma allocateRelays_mark (cfg : Config) (env : Env) (transport : Transport) (v : AllocateVars)
    (lifetime : UInt32) (c : Ctx) (family' : ℕ) :
    (allocateRelays cfg env transport v lifetime c).2.ss.alloc.getRelaySessionFailure family' =
      (c.ss.alloc.getRelaySessionFailure family' ||
        (allocateFamilyList cfg c.ss v).any fun family => sameIndex family family' &&
          !relayCreated cfg env c.ss transport v.inReservationToken family) := by
  rw [allocateRelays_ss]
  generalize allocateFamilyList cfg c.ss v = families
  have hrun : ∀ r : ℕ × Session, r.2.clientSocket = c.ss.clientSocket →
      (families.foldl (allocateRelayStep cfg env c.srv.ctime transport v lifetime)
        r).2.alloc.getRelaySessionFailure family' =
          (r.2.alloc.getRelaySessionFailure family' || families.any fun family =>
            sameIndex family family' &&
              !relayCreated cfg env c.ss transport v.inReservationToken family) := by
    induction families with
    | nil => simp
    | cons family families ih =>
      intro r hsocket
      have hkeeps := allocateRelay_clientSocket cfg env c.srv.ctime transport v lifetime family
        r.1 r.2
      have hmark := allocateRelay_mark cfg env c.srv.ctime transport v lifetime family r.1 r.2
        family'
      have hcreated : relayCreated cfg env r.2 transport v.inReservationToken family =
          relayCreated cfg env c.ss transport v.inReservationToken family :=
        createRelayConnection_error hsocket
      rw [List.foldl_cons, allocateRelayStep, ih _ (hkeeps.trans hsocket), hmark, hcreated,
        List.any_cons, Bool.or_assoc]
  exact hrun (0, c.ss) rfl

end Coturn
