/-
# The lifetimes that are put into effect

`stun_adjust_allocate_lifetime` knows a default, a minimum, the maximum of the server and the limit
that came with the user's key, and applies the maximum neither to the default nor to the minimum.
`create_relay_connection` cuts the lifetime a second time; when an allocation is refreshed nothing
does.
-/
import Coturn.Server.RefreshMeaning

namespace Coturn

variable (expires : UInt32)

variable {cfg : Config} {env : Env} {tid : List UInt8} {canResume : Bool} {nd : NetData}
  {attrs : List StunAttr} {c : Ctx}

/-! ## The limits -/

/-- A lifetime within the maximum of the server and the limit of the session, where it has one. -/
def LifetimeWithin (maxAllocateLifetime limit lifetime : UInt32) : Prop :=
  lifetime ≤ maxAllocateLifetime ∧ (limit ≠ 0 → lifetime ≤ limit)
  deriving Decidable

lemma adjusted_within_iff (requested max limit : UInt32) :
    LifetimeWithin max limit (stunAdjustAllocateLifetime requested max limit) ↔
      600 ≤ requested ∨ 600 ≤ max ∨ (limit ≠ 0 ∧ limit ≤ max) := by
  unfold LifetimeWithin stunAdjustAllocateLifetime
  grind

lemma adjusted_pos {requested max limit : UInt32} (hmax : 0 < max) :
    1 ≤ stunAdjustAllocateLifetime requested max limit := by
  unfold stunAdjustAllocateLifetime
  grind

lemma cut_adjusted_within (hmax : 0 < cfg.maxAllocateLifetime) (requested limit : UInt32) :
    LifetimeWithin cfg.maxAllocateLifetime limit
      (cutLifetime cfg (stunAdjustAllocateLifetime requested cfg.maxAllocateLifetime limit)) := by
  unfold LifetimeWithin cutLifetime stunAdjustAllocateLifetime
  grind

/-! ## Allocate -/

/-- What creating endpoints may do to a relay session: nothing, close it, or start its timer. -/
def RelayEndpointSession.Timed (expires : UInt32) (r r' : RelayEndpointSession) : Prop :=
  r' = r ∨ r'.lifetimeEv = false ∨ r'.expirationTime = expires

/-- Every timer that is started in the allocation fires at that time. -/
def Allocation.Timed (expires : UInt32) (a a' : Allocation) : Prop :=
  ∀ family, (a.getRelaySession family).Timed expires (a'.getRelaySession family)

variable (a : Allocation)

lemma Allocation.Timed.refl : a.Timed expires a :=
  fun _ => Or.inl rfl

lemma Allocation.Timed.trans {expires : UInt32} {a₁ a₂ a₃ : Allocation} (h₁ : a₁.Timed expires a₂)
    (h₂ : a₂.Timed expires a₃) : a₁.Timed expires a₃ := by
  intro family
  rcases h₂ family with hsame | hnew
  · rw [hsame]
    exact h₁ family
  · exact Or.inr hnew

lemma Allocation.Timed.closed (family : ℕ) : a.Timed expires (a.setRelaySession family .empty) := by
  intro family'
  unfold Allocation.setRelaySession Allocation.getRelaySession
  split_ifs
  · exact Or.inr (Or.inl rfl)
  · exact Or.inl rfl
  · exact Or.inl rfl
  · exact Or.inr (Or.inl rfl)

lemma Allocation.Timed.failure {expires : UInt32} {a a' : Allocation} (h : a.Timed expires a')
    (family : ℕ) : a.Timed expires (a'.setRelaySessionFailure family) := by
  intro family'
  have hsame : (a'.setRelaySessionFailure family).getRelaySession family' =
      a'.getRelaySession family' := by
    unfold Allocation.setRelaySessionFailure
    split_ifs <;> rfl
  rw [hsame]
  exact h family'

lemma Allocation.Timed.opened (s : RelayIoaSocket) : a.Timed expires (a.opened s expires) := by
  intro family'
  unfold Allocation.opened Allocation.setAllocationLifetimeEv Allocation.setRelaySession
    Allocation.getRelaySession
  split_ifs <;> first | exact Or.inl rfl | exact Or.inr (Or.inr rfl)

lemma allocateRelays_timed (transport : Transport) (v : AllocateVars) (lifetime : UInt32)
    (c : Ctx) :
    c.ss.alloc.Timed (c.srv.ctime + cutLifetime cfg lifetime)
      (allocateRelays cfg env transport v lifetime c).2.ss.alloc := by
  obtain ⟨a, reply, htimed, heq⟩ := @allocateRelays_rule cfg env lifetime
    (c.ss.alloc.Timed (c.srv.ctime + cutLifetime cfg lifetime)) c
    (fun a family h => h.trans (.closed _ a family)) (fun a s h => h.trans (.opened _ a s))
    (fun a family h => h.failure family) transport v (.refl _ _)
  rw [heq]
  exact htimed

lemma allocateStart_limit :
    (allocateStart cfg attrs c).ss.maxSessionTimeAuth = c.ss.maxSessionTimeAuth := by
  unfold allocateStart allocateUnlist deleteSessionFromMobileMap
  simp only
  split_ifs <;> rfl

lemma allocateReady_ctime : (allocateReady cfg env attrs c).srv.ctime = c.srv.ctime := by
  have hstart : (allocateStart cfg attrs c).srv.ctime = c.srv.ctime := by
    unfold allocateStart allocateUnlist deleteSessionFromMobileMap
    simp only
    split_ifs <;> rfl
  have hchecks := (allocateBandwidth_frame (p := fun _ => True) env
    (readAllocate cfg c.ss attrs).val.bps (allocateCharged cfg attrs c)).trans
    (allocateChecks_frame cfg (readAllocate cfg c.ss attrs).val _)
  exact (congrArg (·.2.1) hchecks.fixed).trans hstart

lemma errCode_of_allocateFinish {err4 err6 : ℕ}
    (h : (allocateFinish cfg tid err4 err6 c).reply.errCode = 0) : c.reply.errCode = 0 := by
  by_contra hcode
  rw [allocateFinish] at h
  split at h
  · simp only [if_neg hcode] at h
    exact hcode h
  · rw [if_pos hcode] at h
    exact hcode h

lemma handleTurnAllocate_timed (hvalid : c.ss.alloc.isValid = false)
    (herr : (handleTurnAllocate cfg env tid attrs c).reply.errCode = 0) :
    c.ss.alloc.Timed (c.srv.ctime + cutLifetime cfg (allocateLifetime cfg attrs c))
      (handleTurnAllocate cfg env tid attrs c).ss.alloc := by
  rw [handleTurnAllocate_of_invalid hvalid] at herr ⊢
  rw [allocateFinish_ss]
  obtain ⟨transport, -, hfresh⟩ := allocateFresh_of_success (errCode_of_allocateFinish herr)
  have hrelays : (allocateReady cfg env attrs c).ss.alloc.Timed
      ((allocateReady cfg env attrs c).srv.ctime + cutLifetime cfg (allocateLifetime cfg attrs c))
      (allocateEndpoints cfg env attrs c transport).2.ss.alloc := allocateRelays_timed _ _ _ _
  rw [allocateReady_ctime, allocateReady_same.alloc] at hrelays
  -- accepting the allocation leaves the relay sessions alone
  intro family
  have hsame : ∀ token c', (allocateAccept cfg tid (allocateLifetime cfg attrs c) token
      c').ss.alloc.getRelaySession family = c'.ss.alloc.getRelaySession family := by
    intro token c'
    rw [allocateAccept]
    simp only
    split <;> rfl
  rw [hfresh, hsame]
  exact hrelays family

/-! ## Both requests -/

/-- The limit of the session of the request, which with a ticket is the one that the check has left.
-/
def Ctx.refreshLimit (cfg : Config) (env : Env) (tid : List UInt8) (canResume : Bool) (nd : NetData)
    (attrs : List StunAttr) (before : Session) (c : Ctx) : UInt32 :=
  if c.ss.alloc.isValid then c.ss.maxSessionTimeAuth
  else ((c.refreshRead cfg attrs).transferChecked cfg env tid canResume nd attrs
    before).ss.maxSessionTimeAuth

/-- The time until the timer of a relay session that a successful request has started; with the
method and the limit of the session. -/
inductive PutsIntoEffect (cfg : Config) (env : Env) (tid : List UInt8) (canResume : Bool)
    (nd : NetData) (attrs : List StunAttr) (c : Ctx) : ℕ → UInt32 → UInt32 → Prop
  | allocate (family : ℕ) (hvalid : c.ss.alloc.isValid = false)
      (herr : (handleTurnAllocate cfg env tid attrs c).reply.errCode = 0)
      (hoff : (c.ss.alloc.getRelaySession family).lifetimeEv = false)
      (hon : ((handleTurnAllocate cfg env tid attrs c).ss.alloc.getRelaySession
        family).lifetimeEv = true) :
      PutsIntoEffect cfg env tid canResume nd attrs c stunMethodAllocate c.ss.maxSessionTimeAuth
        ((handleTurnAllocate cfg env tid attrs c).ss.alloc.expires family - c.srv.ctime)
  | refresh (family : ℕ) {before after : Session} {buf : List UInt8} {effects : List Effect}
      (hanswered : RefreshAnswered cfg attrs c
        (handleTurnRefresh cfg env tid canResume nd attrs c) before after buf)
      (hlog : (handleTurnRefresh cfg env tid canResume nd attrs c).log = c.log ++ effects)
      (hrefreshed : .allocationRefreshed before.id family ∈ effects) :
      PutsIntoEffect cfg env tid canResume nd attrs c stunMethodRefresh
        (c.refreshLimit cfg env tid canResume nd attrs before)
        (after.alloc.expires family - c.srv.ctime)

variable {family : ℕ}

lemma mem_refreshEffects {sid : ℕ} {af4 af6 : Bool} :
    .allocationRefreshed sid family ∈ refreshEffects sid af4 af6 ↔
      family ∈ [2, 10] ∧ (if family = 10 then af6 else af4) = true := by
  unfold refreshEffects
  cases af4 <;> cases af6 <;> simp <;> grind

lemma add_sub_ctime (ctime lifetime : UInt32) : ctime + lifetime - ctime = lifetime := by
  rw [UInt32.add_comm, UInt32.add_sub_cancel]

lemma RefreshAnswered.granted {before after : Session} {buf : List UInt8} {effects : List Effect}
    (h : RefreshAnswered cfg attrs c (handleTurnRefresh cfg env tid canResume nd attrs c) before
      after buf)
    (hlog : (handleTurnRefresh cfg env tid canResume nd attrs c).log = c.log ++ effects)
    (hrefreshed : .allocationRefreshed before.id family ∈ effects) :
    ∃ ss, ss.maxSessionTimeAuth = c.refreshLimit cfg env tid canResume nd attrs before ∧
      after.alloc.expires family - c.srv.ctime =
        atLeastOne (refreshLifetime cfg (refreshVars cfg attrs c.ss) ss) := by
  cases hvalid : c.ss.alloc.isValid with
  | true =>
    refine ⟨c.ss, by rw [Ctx.refreshLimit, if_pos hvalid], ?_⟩
    cases h with
    | moved hinvalid => exact absurd (hvalid.symm.trans hinvalid) (by decide)
    | own _ herr _ =>
      obtain ⟨reply, heq⟩ := handleTurnRefresh_own hvalid herr
      rw [heq] at hlog ⊢
      obtain rfl := List.append_cancel_left hlog
      obtain ⟨hfamily, hflag⟩ := mem_refreshEffects.mp hrefreshed
      refine (congrArg (· - c.srv.ctime) (refreshFamilies_expires _ _ _ _ c.ss hfamily)).trans ?_
      rw [if_pos hflag]
      exact add_sub_ctime _ _
  | false =>
    obtain ⟨l, c₁, _, hc₁, hlog₁, hl, hlog', -, halloc⟩ := h.transfer hvalid
    refine ⟨c₁.ss, by rw [Ctx.refreshLimit, hvalid, hc₁, if_neg Bool.false_ne_true], ?_⟩
    -- neither the check nor the response is a refresh
    have hrefreshed : .allocationRefreshed before.id family ∈
        refreshEffects before.id (refreshView c.ss).af4c (refreshView c.ss).af6c := by
      rw [hlog', hlog₁, List.append_assoc, List.append_assoc] at hlog
      obtain rfl := List.append_cancel_left hlog
      rcases List.mem_append.mp hrefreshed with hin | hin
      · exact absurd rfl ((hl _ hin).2 _ _)
      · rcases List.mem_append.mp hin with hin | hin
        · exact hin
        · cases List.mem_singleton.mp hin
    obtain ⟨hfamily, hflag⟩ := mem_refreshEffects.mp hrefreshed
    rw [Allocation.expires, halloc]
    refine (congrArg (· - c.srv.ctime) (refreshFamilies_expires _ _ _ _ before hfamily)).trans ?_
    rw [if_pos hflag]
    exact add_sub_ctime _ _

lemma refreshLifetime_within_iff (hmax : 0 < cfg.maxAllocateLifetime) (v : RefreshVars)
    (ss : Session) :
    LifetimeWithin cfg.maxAllocateLifetime ss.maxSessionTimeAuth
        (atLeastOne (refreshLifetime cfg v ss)) ↔
      v.toDelete = true ∨ 600 ≤ v.lifetime ∨ 600 ≤ cfg.maxAllocateLifetime ∨
        (ss.maxSessionTimeAuth ≠ 0 ∧ ss.maxSessionTimeAuth ≤ cfg.maxAllocateLifetime) := by
  rw [refreshLifetime]
  cases v.toDelete with
  | true =>
    -- a second is within all limits
    simp only [if_true, true_or, iff_true]
    refine ⟨?_, fun hlimit => ?_⟩
    · show (1 : UInt32) ≤ _
      grind
    · show (1 : UInt32) ≤ _
      grind
  | false =>
    have hpos : atLeastOne (stunAdjustAllocateLifetime v.lifetime cfg.maxAllocateLifetime
        ss.maxSessionTimeAuth) = stunAdjustAllocateLifetime v.lifetime cfg.maxAllocateLifetime
        ss.maxSessionTimeAuth :=
      if_neg (UInt32.not_lt.mpr (adjusted_pos hmax))
    rw [if_neg Bool.false_ne_true, hpos, adjusted_within_iff]
    simp only [Bool.false_eq_true, false_or]

/-- The lifetime of an Allocate is within the limits. That of a Refresh is so exactly when it ends
the allocation, asks for the minimum or more, or a limit keeps the minimum below the maximum. -/
theorem granted_lifetime_iff (cfg : Config) (env : Env) (tid : List UInt8) (canResume : Bool)
    (nd : NetData) (attrs : List StunAttr) (c : Ctx) (method : ℕ) (limit lifetime : UInt32)
    (hmax : 0 < cfg.maxAllocateLifetime)
    (h : PutsIntoEffect cfg env tid canResume nd attrs c method limit lifetime) :
    (lifetime ≠ 0 → LifetimeWithin cfg.maxAllocateLifetime limit lifetime) ↔
      (method = stunMethodRefresh →
        (refreshVars cfg attrs c.ss).toDelete = true ∨
        600 ≤ (refreshVars cfg attrs c.ss).lifetime ∨ 600 ≤ cfg.maxAllocateLifetime ∨
        (limit ≠ 0 ∧ limit ≤ cfg.maxAllocateLifetime)) := by
  cases h with
  | allocate family hvalid herr hoff hon =>
    refine iff_of_true (fun _ => ?_) (fun hmethod => absurd hmethod (by decide))
    rcases handleTurnAllocate_timed hvalid herr family with hsame | hclosed | hexpires
    · rw [hsame, hoff] at hon
      cases hon
    · rw [hclosed] at hon
      cases hon
    · rw [Allocation.expires, hexpires, add_sub_ctime, allocateLifetime, allocateStart_limit]
      exact cut_adjusted_within hmax _ _
  | refresh family hanswered hlog hrefreshed =>
    obtain ⟨ss, hlimit, hgranted⟩ := hanswered.granted hlog hrefreshed
    have hpos : atLeastOne (refreshLifetime cfg (refreshVars cfg attrs c.ss) ss) ≠ 0 := by
      unfold atLeastOne
      grind
    rw [hgranted, ← hlimit, ← refreshLifetime_within_iff hmax]
    exact ⟨fun hwithin _ => hwithin hpos, fun hwithin _ => hwithin rfl⟩

def shortParams : Config := { plainParams with maxAllocateLifetime := 300 }

def allocatedWith (cfg : Config) : Server :=
  connected.step ⟨cfg, plainEnv,
    .clientInput 1 plainAllocate true⟩

/-- A Refresh without attributes. -/
def emptyRefresh : NetData := clientRequest stunMethodRefresh []

def plainRefresh (cfg : Config) (srv : Server) (ss : Session) : Ctx :=
  handleTurnRefresh cfg plainEnv clientTid true emptyRefresh (stunAttrs emptyRefresh.buf)
    ⟨srv, ss, .init, []⟩

lemma refreshValid_log (hvalid : c.ss.alloc.isValid = true) (v : RefreshVars) :
    (refreshValid cfg tid v c).log =
      c.log ++ refreshEffects c.ss.id (c.ss.refreshes v 2) (c.ss.refreshes v 10) := by
  rw [refreshValid, Session.refreshes, Session.refreshes, hvalid]
  cases v.af4 || v.af6 <;> simp [Ctx.respond]

/-- On the normal path a lifetime is put into effect for the families that the session selects. -/
lemma putsIntoEffect_own {buf : List UInt8} (hfamily : family ∈ [2, 10])
    (hvalid : c.ss.alloc.isValid = true)
    (herr : (handleTurnRefresh cfg env tid canResume nd attrs c).reply.errCode = 0)
    (hbuf : (handleTurnRefresh cfg env tid canResume nd attrs c).reply.resp = some buf)
    (hselected : c.ss.refreshes (refreshVars cfg attrs c.ss) family = true) :
    PutsIntoEffect cfg env tid canResume nd attrs c stunMethodRefresh c.ss.maxSessionTimeAuth
      ((handleTurnRefresh cfg env tid canResume nd attrs c).ss.alloc.expires family -
        c.srv.ctime) := by
  have hlimit : c.ss.maxSessionTimeAuth = c.refreshLimit cfg env tid canResume nd attrs c.ss := by
    rw [Ctx.refreshLimit, if_pos hvalid]
  obtain ⟨reply, heq⟩ := handleTurnRefresh_own hvalid herr
  have hlog : (handleTurnRefresh cfg env tid canResume nd attrs c).log = _ :=
    (congrArg Ctx.log heq).trans (@refreshValid_log cfg tid { c with reply := reply } hvalid _)
  rw [hlimit]
  refine .refresh family (.own hvalid herr hbuf) hlog ?_
  refine mem_refreshEffects.mpr ⟨hfamily, ?_⟩
  rcases List.mem_pair.mp hfamily with rfl | rfl
  · exact hselected
  · exact hselected

/-- At the time 1000 a Refresh without a lifetime gives the session ten minutes. -/
def GivesTenMinutes (cfg : Config) (srv : Server) (ss : Session) : Prop :=
  srv.ctime = 1000 ∧ ss.maxSessionTimeAuth = 0 ∧ ss.alloc.isValid = true ∧
    (plainRefresh cfg srv ss).reply.errCode = 0 ∧
    (plainRefresh cfg srv ss).reply.resp.isSome = true ∧
    (plainRefresh cfg srv ss).ss.alloc.expires 2 = 1600 ∧
    ss.refreshes (refreshVars cfg (stunAttrs emptyRefresh.buf) ss) 2 = true
  deriving Decidable

lemma GivesTenMinutes.granted {srv : Server} {ss : Session} (h : GivesTenMinutes cfg srv ss) :
    PutsIntoEffect cfg plainEnv clientTid true emptyRefresh (stunAttrs emptyRefresh.buf)
      ⟨srv, ss, .init, []⟩ stunMethodRefresh 0 600 := by
  obtain ⟨hctime, hlimit, hvalid, herr, hresp, hexpires, hselected⟩ := h
  obtain ⟨buf, hbuf⟩ := Option.isSome_iff_exists.mp hresp
  have hgranted := putsIntoEffect_own (by decide) hvalid herr hbuf hselected
  rw [plainRefresh] at hexpires
  simp only [hexpires, hctime, hlimit] at hgranted
  exact hgranted

/-- With the default maximum a Refresh without a lifetime gives ten minutes, which is within the
limits. -/
theorem granted_lifetime_default :
    ∃ ss ∈ (allocatedWith plainParams).sessionsMap 1,
      GivesTenMinutes plainParams (allocatedWith plainParams) ss ∧
        LifetimeWithin plainParams.maxAllocateLifetime 0 600 := by
  generalize hsrv : allocatedWith plainParams = srv
  obtain ⟨ss, hss, hgives⟩ :
      ∃ ss ∈ srv.sessionsMap 1, GivesTenMinutes plainParams srv ss := by
    subst hsrv
    decide +kernel
  refine ⟨ss, hss, hgives, ?_⟩
  exact (granted_lifetime_iff _ _ _ _ _ _ _ _ _ _ (by decide) hgives.granted).mpr
    (fun _ => Or.inr (Or.inr (Or.inl (by decide)))) (by decide)

/-- Where allocations last five minutes at most, a Refresh without a lifetime gives ten. -/
theorem refresh_grants_beyond_maximum :
    ∃ ss ∈ (allocatedWith shortParams).sessionsMap 1, ss.alloc.expires 2 = 1300 ∧
      PutsIntoEffect shortParams plainEnv clientTid true emptyRefresh (stunAttrs emptyRefresh.buf)
        ⟨allocatedWith shortParams, ss, .init, []⟩ stunMethodRefresh 0 600 ∧
      ¬ LifetimeWithin shortParams.maxAllocateLifetime 0 600 := by
  generalize hsrv : allocatedWith shortParams = srv
  obtain ⟨ss, hss, hbefore, hgives⟩ : ∃ ss ∈ srv.sessionsMap 1,
      ss.alloc.expires 2 = 1300 ∧ GivesTenMinutes shortParams srv ss := by
    subst hsrv
    decide +kernel
  exact ⟨ss, hss, hbefore, hgives.granted, by decide⟩

end Coturn
