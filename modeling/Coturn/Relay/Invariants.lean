/-
# What the moves of the relay keep

Shown for one move and then for a sequence of moves: the sessions are sound, no deadline has passed
(`RelayView.Timely`), every endpoint belongs to a session that permits it (`RelayView.Hygienic`),
and so do the peers of channels on shared sockets (`RelayView.Owned`), as long as no channel is
bound to a peer of another session.
-/
import Coturn.Relay

namespace Coturn

open Relation Option

variable {cfg : Config} {who : ℕ} {G B : IoaAddr → Prop} {v v' : RelayView} {sid : ℕ}

/-! ## One session -/

variable {rs' rs : RelaySession} {ctime : UInt32} {time : Option UInt32} {addr : IoaAddr}

lemma RelayMove.session_cases (h : RelayMove cfg who G B v v') (hrs' : v'.sessions sid = some rs') :
    rs' = .init ∨ ∃ rs, v.sessions sid = some rs ∧
      ((rs'.tables = rs.tables ∧ (rs.valid = true → rs'.valid = true) ∧
          (rs.Placed → rs'.Placed)) ∨
        (sid = who ∧ rs.valid = true ∧ ∃ t, rs' = { rs with tables := t } ∧
          (rs.tables.Consistent → ∃ Q, rs.tables.Request (v.clock cfg) G Q t))) := by
  cases h with
  | opened sid₁ hnone =>
    rcases v.put_sessions_eq_some hrs' with ⟨-, hnew⟩ | ⟨-, hold⟩
    · exact Or.inl (Option.some.inj hnew).symm
    · exact Or.inr ⟨rs', hold, Or.inl ⟨rfl, id, id⟩⟩
  | request rs t owner hrs hvalid hrequest hregisters =>
    rcases v.put_sessions_eq_some hrs' with ⟨rfl, ⟨⟩⟩ | ⟨-, hold⟩
    · exact Or.inr ⟨rs, hrs, Or.inr ⟨rfl, hvalid, t, rfl, fun h => ⟨_, hrequest h⟩⟩⟩
    · exact Or.inr ⟨rs', hold, Or.inl ⟨rfl, id, id⟩⟩
  | allocated sid₁ rs rs₁ hrs hvalid htables hplaced =>
    rcases v.put_sessions_eq_some hrs' with ⟨rfl, ⟨⟩⟩ | ⟨-, hold⟩
    · refine Or.inr ⟨rs, hrs, Or.inl ⟨htables, fun h => ?_, hplaced⟩⟩
      exact absurd (hvalid.symm.trans h) (by simp)
    · exact Or.inr ⟨rs', hold, Or.inl ⟨rfl, id, id⟩⟩
  | expired sid₁ rs family owner hrs hfamily howner =>
    rcases v.put_sessions_eq_some hrs' with ⟨rfl, ⟨⟩⟩ | ⟨-, hold⟩
    · exact Or.inr ⟨rs, hrs,
        Or.inl ⟨rs.clear_tables, fun h => rs.clear_valid.trans h, fun h => h.clear⟩⟩
    · exact Or.inr ⟨rs', hold, Or.inl ⟨rfl, id, id⟩⟩
  | closed sid₁ owner howner =>
    rcases v.put_sessions_eq_some hrs' with ⟨-, ⟨⟩⟩ | ⟨-, hold⟩
    exact Or.inr ⟨rs', hold, Or.inl ⟨rfl, id, id⟩⟩

/-- A session's tables are consistent, and there is nothing in them without a valid allocation. -/
structure RelaySession.Sound (rs : RelaySession) : Prop where
  placed : rs.Placed
  consistent : rs.tables.Consistent
  bare : rs.valid = false → rs.Bare

lemma RelaySession.sound_init : RelaySession.init.Sound :=
  ⟨placed_init, AddrTables.init_consistent, fun _ => bare_init⟩

lemma RelaySession.Sound.sweep (h : rs.Sound) (ctime : UInt32) : (rs.sweep ctime).Sound := by
  by_cases hvalid : rs.valid = true
  · rw [rs.sweep_of_valid ctime hvalid]
    refine ⟨⟨h.placed.ipv4, h.placed.ipv6⟩, ?_, fun hfalse => absurd (hvalid.symm.trans hfalse) ?_⟩
    · exact (sweepAllocationTimedEvents_moves ctime rs.tables).consistent h.consistent
    · simp
  · rwa [rs.sweep_of_not_valid ctime (by simpa using hvalid)]

namespace RelayView

lemma Ticks.session (h : v.Ticks cfg ctime v')
    (hrs' : v'.sessions sid = some rs') : ∃ rs, v.sessions sid = some rs ∧ rs.sweep ctime = rs' :=
  map_eq_some_iff.mp ((h.sessions sid).symm.trans hrs')

/-- All sessions are sound. -/
def Sound (v : RelayView) : Prop := ∀ sid rs, v.sessions sid = some rs → rs.Sound

lemma Sound.placed (h : v.Sound) : v.Placed := fun sid rs hrs => (h sid rs hrs).placed

lemma Sound.move (hv : v.Sound) (h : RelayMove cfg who G B v v') : v'.Sound := by
  intro sid rs' hrs'
  rcases h.session_cases hrs' with rfl | ⟨rs, hrs, hcases⟩
  · exact RelaySession.sound_init
  have hsound := hv sid rs hrs
  rcases hcases with ⟨htables, hvalid, hplaced⟩ | ⟨-, hvalid, t, rfl, hrequest⟩
  · refine ⟨hplaced hsound.placed, htables ▸ hsound.consistent, fun hfalse => ?_⟩
    have hbare := hsound.bare (Bool.eq_false_iff.mpr fun h => Bool.eq_false_iff.mp hfalse (hvalid h))
    exact ⟨htables ▸ hbare.perm, htables ▸ hbare.ch⟩
  · obtain ⟨Q, hrequest⟩ := hrequest hsound.consistent
    refine ⟨⟨hsound.placed.ipv4, hsound.placed.ipv6⟩, ?_, fun hfalse => ?_⟩
    · exact hrequest.moves.consistent hsound.consistent
    · exact absurd (hvalid.symm.trans hfalse) (by simp)

lemma Sound.moves (hv : v.Sound) (h : ReflTransGen (RelayMove cfg who G B) v v') : v'.Sound := by
  induction h with
  | refl => exact hv
  | tail _ hmove ih => exact ih.move hmove

lemma Sound.tick (hv : v.Sound) (h : v.Ticks cfg ctime v') : v'.Sound := by
  intro sid rs' hrs'
  obtain ⟨rs, hrs, rfl⟩ := h.session hrs'
  exact (hv sid rs hrs).sweep ctime

lemma Sound.step (hv : v.Sound) (h : RelayStep cfg who G B time v v') : v'.Sound := by
  cases h with
  | moves h => exact hv.moves h
  | tick h => exact hv.tick h

end RelayView

/-! ## Deadlines -/

/-- The deadline lies ahead, by less than half of the range of the clock's differences. -/
def Ahead (ctime exp : UInt32) : Prop := (exp - ctime).toNat < 2 ^ 30

lemma Ahead.not_before {exp : UInt32} (h : Ahead ctime exp) : turnTimeBefore exp ctime = false := by
  simp only [turnTimeBefore, decide_eq_false_iff_not, not_le]
  unfold Ahead at h
  omega

/-- When the clock advances, a deadline is before the new time if and only if less time was left
than has passed. -/
lemma Ahead.before_iff {ctime' exp : UInt32} (h : Ahead ctime exp)
    (hclock : (ctime' - ctime).toNat < 2 ^ 30) :
    turnTimeBefore exp ctime' = true ↔ (exp - ctime).toNat < (ctime' - ctime).toNat := by
  unfold Ahead at h
  rw [turnTimeBefore, decide_eq_true_eq]
  rw [UInt32.toNat_sub] at h hclock ⊢
  rw [UInt32.toNat_sub, UInt32.toNat_sub]
  have := exp.toNat_lt
  have := ctime.toNat_lt
  have := ctime'.toNat_lt
  omega

lemma Ahead.advance {ctime' exp : UInt32} (h : Ahead ctime exp)
    (hclock : (ctime' - ctime).toNat < 2 ^ 30) (hnot : turnTimeBefore exp ctime' = false) :
    Ahead ctime' exp := by
  unfold Ahead at h ⊢
  simp only [turnTimeBefore, decide_eq_false_iff_not, not_le] at hnot
  rw [UInt32.toNat_sub] at h hclock hnot ⊢
  have := exp.toNat_lt
  have := ctime.toNat_lt
  have := ctime'.toNat_lt
  omega

lemma ahead_add {lifetime : UInt32} (h : lifetime.toNat < 2 ^ 30) :
    Ahead ctime (ctime + lifetime) := by
  unfold Ahead
  rw [UInt32.toNat_sub, UInt32.toNat_add]
  have := ctime.toNat_lt
  omega

/-- No deadline has passed. -/
structure AddrTables.Timely (ctime : UInt32) (a : AddrTables) : Prop where
  perm : ∀ r info, a.LivePerm r info → Ahead ctime info.expirationTime
  ch : ∀ c chn, a.LiveCh c chn → Ahead ctime chn.expirationTime

/-- The lifetimes are short enough for the clock. -/
structure ServerClock.Short (clk : ServerClock) : Prop where
  perm : clk.permissionLifetime.toNat < 2 ^ 30
  ch : clk.channelLifetime.toNat < 2 ^ 30

lemma AddrTables.Timely.refreshed {clk : ServerClock} {Q : IoaAddr → Prop} {a a' : AddrTables}
    (h : a.Timely clk.ctime) (hclk : clk.Short) (hr : a.Refreshed clk Q a') :
    a'.Timely clk.ctime where
  perm r info' hinfo' := by
    have hchannel : clk.channelPermLifetime.toNat < 2 ^ 30 := by
      unfold ServerClock.channelPermLifetime
      split_ifs
      · exact hclk.perm
      · exact hclk.ch
    rcases hr.perm r info' hinfo' with ⟨info, hinfo, heq⟩ | heq | heq
    · exact heq ▸ h.perm r info hinfo
    · exact heq ▸ ahead_add hclk.perm
    · exact heq ▸ ahead_add hchannel
  ch c chn' hchn' := by
    rcases hr.ch c chn' hchn' with ⟨chn, hchn, heq⟩ | heq
    · exact heq ▸ h.ch c chn hchn
    · exact heq ▸ ahead_add hclk.ch

lemma AddrTables.Timely.sweep {ctime' : UInt32} {a : AddrTables} (h : a.Timely ctime)
    (hclock : (ctime' - ctime).toNat < 2 ^ 30) (hcons : a.Consistent) :
    (sweepAllocationTimedEvents ctime' a).Timely ctime' := by
  have hremoves := hcons.sweepAllocationTimedEvents_removes ctime'
  refine ⟨fun r info hr => ?_, fun c chn hc => ?_⟩
  · obtain ⟨hnot, chns, hold⟩ := hremoves.perm r info hr
    refine (h.perm r _ hold).advance hclock (Bool.eq_false_iff.mpr fun hbefore => hnot ?_)
    exact ⟨_, hold, hbefore⟩
  · obtain ⟨hold, hnot, -⟩ := (hremoves.ch c chn).mp hc
    refine (h.ch c chn hold).advance hclock (Bool.eq_false_iff.mpr fun hbefore => hnot ?_)
    exact ⟨chn, hold, hbefore⟩

lemma RelaySession.Bare.timely (h : rs.Bare) (ctime : UInt32) : rs.tables.Timely ctime :=
  ⟨fun r info hr => absurd hr (h.perm r info), fun c chn hc => absurd hc (h.ch c chn)⟩

namespace RelayView

/-- No deadline has passed. -/
def Timely (v : RelayView) : Prop :=
  ∀ sid rs, v.sessions sid = some rs → rs.tables.Timely v.ctime

lemma Timely.move (hv : v.Timely) (hsound : v.Sound) (hclk : (v.clock cfg).Short)
    (h : RelayMove cfg who G B v v') : v'.Timely := by
  intro sid rs' hrs'
  rw [h.ctime]
  rcases h.session_cases hrs' with rfl | ⟨rs, hrs, hcases⟩
  · exact RelaySession.bare_init.timely v.ctime
  have htimely : rs.tables.Timely (v.clock cfg).ctime := hv sid rs hrs
  rcases hcases with ⟨htables, -, -⟩ | ⟨-, -, t, rfl, hrequest⟩
  · rw [htables]
    exact htimely
  · obtain ⟨Q, hrequest⟩ := hrequest (hsound sid rs hrs).consistent
    exact htimely.refreshed hclk hrequest.refreshed

lemma Timely.moves (hv : v.Timely) (hsound : v.Sound) (hclk : (v.clock cfg).Short)
    (h : ReflTransGen (RelayMove cfg who G B) v v') : v'.Timely := by
  induction h with
  | refl => exact hv
  | tail hmoves hmove ih => exact ih.move (hsound.moves hmoves) ⟨hclk.perm, hclk.ch⟩ hmove

lemma Timely.tick (hv : v.Timely) (hsound : v.Sound)
    (hclock : (ctime - v.ctime).toNat < 2 ^ 30) (h : v.Ticks cfg ctime v') : v'.Timely := by
  intro sid rs' hrs'
  rw [h.time]
  obtain ⟨rs, hrs, rfl⟩ := h.session hrs'
  by_cases hvalid : rs.valid = true
  · rw [rs.sweep_of_valid ctime hvalid]
    exact (hv sid rs hrs).sweep hclock (hsound sid rs hrs).consistent
  · have hfalse : rs.valid = false := by simpa using hvalid
    rw [rs.sweep_of_not_valid ctime hfalse]
    exact ((hsound sid rs hrs).bare hfalse).timely ctime

end RelayView

/-! ## Where permissions come from -/

/-- The session has a permission for the address. -/
def RelayView.Holds (v : RelayView) (sid : ℕ) (addr : IoaAddr) : Prop :=
  ∃ rs r info, v.sessions sid = some rs ∧ rs.tables.LivePerm r info ∧ info.addr = addr

lemma RelayMove.holds (h : RelayMove cfg who G B v v') (hsound : v.Sound)
    (hholds : v'.Holds sid addr) : v.Holds sid addr ∨ (sid = who ∧ G addr) := by
  obtain ⟨rs', r, info, hrs', hr, rfl⟩ := hholds
  rcases h.session_cases hrs' with rfl | ⟨rs, hrs, hcases⟩
  · exact absurd hr (RelaySession.bare_init.perm r info)
  rcases hcases with ⟨htables, -, -⟩ | ⟨rfl, -, t, rfl, hrequest⟩
  · exact Or.inl ⟨rs, r, info, hrs, htables ▸ hr, rfl⟩
  · obtain ⟨Q, hrequest⟩ := hrequest (hsound sid rs hrs).consistent
    rcases hrequest.moves.origin hr with ⟨r₁, info₁, hr₁, heq⟩ | hG
    · exact Or.inl ⟨rs, r₁, info₁, hrs, hr₁, heq⟩
    · exact Or.inr ⟨rfl, hG⟩

lemma RelayView.Ticks.holds (h : v.Ticks cfg ctime v') (hsound : v.Sound)
    (hholds : v'.Holds sid addr) : v.Holds sid addr := by
  obtain ⟨rs', r, info, hrs', hr, rfl⟩ := hholds
  obtain ⟨rs, hrs, rfl⟩ := h.session hrs'
  by_cases hvalid : rs.valid = true
  · rw [rs.sweep_of_valid ctime hvalid] at hr
    have hremoves := (hsound sid rs hrs).consistent.sweepAllocationTimedEvents_removes ctime
    obtain ⟨-, chns, hold⟩ := hremoves.perm r info hr
    exact ⟨rs, r, _, hrs, hold, rfl⟩
  · rw [rs.sweep_of_not_valid ctime (by simpa using hvalid)] at hr
    exact ⟨rs, r, info, hrs, hr, rfl⟩

lemma RelayStep.holds (h : RelayStep cfg who G B time v v') (hsound : v.Sound)
    (hholds : v'.Holds sid addr) : v.Holds sid addr ∨ (sid = who ∧ G addr) := by
  cases h with
  | moves h =>
    induction h with
    | refl => exact Or.inl hholds
    | tail hmoves hmove ih =>
      rcases hmove.holds (hsound.moves hmoves) hholds with hold | hnew
      · exact ih hold
      · exact Or.inr hnew
  | tick h => exact Or.inl (h.holds hsound hholds)

/-! ## The table of multiplexed peers -/

namespace RelayView

/-- Every endpoint belongs to a session that has a permission for it. -/
def Hygienic (v : RelayView) : Prop :=
  ∀ key sid, v.owner key = some sid → ∃ rs, v.sessions sid = some rs ∧ rs.tables.Permits key

/-- The peers of channels on shared sockets belong to the sessions of the channels. -/
def Owned (v : RelayView) : Prop :=
  ∀ sid rs c chn, v.sessions sid = some rs → rs.tables.LiveCh c chn →
    rs.SharedFor chn.peerAddr.family → v.owner chn.peerAddr = some sid

lemma permits_sweep {key : IoaAddr} (hsound : rs.Sound)
    (hrs : v.sessions sid = some rs) (hpermits : rs.tables.Permits key)
    (hswept : ¬ v.Swept ctime key sid) : (rs.sweep ctime).tables.Permits key := by
  by_cases hvalid : rs.valid = true
  · rw [rs.sweep_of_valid ctime hvalid]
    obtain ⟨r, info, hr, haddr⟩ := hpermits
    have hremoves := hsound.consistent.sweepAllocationTimedEvents_removes ctime
    obtain ⟨chns, hr'⟩ := hremoves.perm_stays r info hr <| by
      rintro ⟨x, hx, hbefore⟩
      obtain rfl := hr.unique hx
      exact hswept ⟨rs, r, info, hrs, hvalid, hr, hbefore, addrEqNoPort_symm haddr⟩
    exact ⟨r, _, hr', haddr⟩
  · rwa [rs.sweep_of_not_valid ctime (by simpa using hvalid)]

lemma Hygienic.move (hv : v.Hygienic) (hsound : v.Sound) (hmp : cfg.multiplexPeerMode = true)
    (hrelay : cfg.serverRelay = false) (h : RelayMove cfg who G B v v') : v'.Hygienic := by
  intro key sid howned
  cases h with
  | opened sid₁ hnone =>
    obtain ⟨rs, hrs, hpermits⟩ := hv key sid howned
    have hne : sid ≠ sid₁ := by
      rintro rfl
      exact absurd (hnone.symm.trans hrs) (by simp)
    exact ⟨rs, (v.put_sessions_of_ne _ hne).trans hrs, hpermits⟩
  | request rs t owner hrs hvalid hrequest hregisters =>
    have hcons := (hsound who rs hrs).consistent
    rcases hregisters hcons key with heq | ⟨-, hsome, hnew⟩
    · obtain ⟨rs₁, hrs₁, hpermits⟩ := hv key sid (heq.symm.trans howned)
      by_cases hsid : sid = who
      · subst hsid
        obtain rfl := mem_unique hrs hrs₁
        exact ⟨_, v.put_sessions_self sid _, (hrequest hcons).moves.permits hpermits⟩
      · exact ⟨rs₁, (v.put_sessions_of_ne _ hsid).trans hrs₁, hpermits⟩
    · obtain rfl : who = sid := mem_unique hsome howned
      exact ⟨_, v.put_sessions_self who _, hnew hrelay⟩
  | allocated sid₁ rs rs₁ hrs hvalid htables hplaced =>
    obtain ⟨rs₂, hrs₂, hpermits⟩ := hv key sid howned
    by_cases hsid : sid = sid₁
    · subst hsid
      obtain rfl := mem_unique hrs hrs₂
      exact ⟨rs₁, v.put_sessions_self sid _, htables ▸ hpermits⟩
    · exact ⟨rs₂, (v.put_sessions_of_ne _ hsid).trans hrs₂, hpermits⟩
  | expired sid₁ rs family owner hrs hfamily howner =>
    obtain ⟨hold, -⟩ := (howner key sid).mp howned
    obtain ⟨rs₂, hrs₂, hpermits⟩ := hv key sid hold
    by_cases hsid : sid = sid₁
    · subst hsid
      obtain rfl := mem_unique hrs hrs₂
      exact ⟨_, v.put_sessions_self sid _, rs.clear_tables.symm ▸ hpermits⟩
    · exact ⟨rs₂, (v.put_sessions_of_ne _ hsid).trans hrs₂, hpermits⟩
  | closed sid₁ owner howner =>
    obtain ⟨hold, hnot⟩ := (howner key sid).mp howned
    obtain ⟨rs, hrs, hpermits⟩ := hv key sid hold
    exact ⟨rs, (v.put_sessions_of_ne _ fun hsid => hnot ⟨hmp, hsid⟩).trans hrs, hpermits⟩

lemma Hygienic.tick (hv : v.Hygienic) (hsound : v.Sound) (hmp : cfg.multiplexPeerMode = true)
    (h : v.Ticks cfg ctime v') : v'.Hygienic := by
  intro key sid howned
  obtain ⟨hold, hnot⟩ := (h.owner key sid).mp howned
  obtain ⟨rs, hrs, hpermits⟩ := hv key sid hold
  refine ⟨rs.sweep ctime, by rw [h.sessions, hrs]; rfl, ?_⟩
  exact permits_sweep (hsound sid rs hrs) hrs hpermits fun hswept => hnot ⟨hmp, hswept⟩

lemma Hygienic.step (hv : v.Hygienic) (hsound : v.Sound) (hmp : cfg.multiplexPeerMode = true)
    (hrelay : cfg.serverRelay = false) (h : RelayStep cfg who G B time v v') : v'.Hygienic := by
  cases h with
  | moves h =>
    induction h with
    | refl => exact hv
    | tail hmoves hmove ih => exact ih.move (hsound.moves hmoves) hmp hrelay hmove
  | tick h => exact hv.tick hsound hmp h

lemma not_swept_of_liveCh {c : ChPtr} {chn : ChInfo} (hsound : rs.Sound)
    (hrs : v.sessions sid = some rs) (hc : (rs.sweep ctime).tables.LiveCh c chn) :
    rs.tables.LiveCh c chn ∧ ¬ v.Swept ctime chn.peerAddr sid := by
  by_cases hvalid : rs.valid = true
  · rw [rs.sweep_of_valid ctime hvalid] at hc
    obtain ⟨hc', -, howner⟩ :=
      ((hsound.consistent.sweepAllocationTimedEvents_removes ctime).ch c chn).mp hc
    refine ⟨hc', ?_⟩
    rintro ⟨rs₁, r, info, hrs₁, -, hr, hbefore, haddr⟩
    obtain rfl := mem_unique hrs hrs₁
    -- the overdue permission is the one of the channel
    obtain ⟨s, x, hs, hlive, hx, -⟩ := hsound.consistent.ch_owner c chn hc'
    obtain rfl := hsound.consistent.perm_unique s r x info hlive hr (addrEqNoPort_trans hx haddr)
    exact howner s hs ⟨info, hr, hbefore⟩
  · have hfalse : rs.valid = false := by simpa using hvalid
    rw [rs.sweep_of_not_valid ctime hfalse] at hc
    exact absurd hc ((hsound.bare hfalse).ch c chn)

/-- A move keeps the peers of the channels, when the peers that it binds channels to belong to no
other session. -/
lemma Owned.move (hv : v.Owned) (hsound : v.Sound) (hmp : cfg.multiplexPeerMode = true)
    (hB : ∀ key other, B key → v.owner key = some other → other = who)
    (h : RelayMove cfg who G B v v') : v'.Owned := by
  intro sid rs' c chn hrs' hc hshared
  cases h with
  | opened sid₁ hnone =>
    rcases v.put_sessions_eq_some hrs' with ⟨-, ⟨⟩⟩ | ⟨-, hold⟩
    · exact absurd hc (RelaySession.bare_init.ch c chn)
    · exact hv sid rs' c chn hold hc hshared
  | request rs t owner hrs hvalid hrequest hregisters =>
    have hcons := (hsound who rs hrs).consistent
    have hreg := hregisters hcons
    rcases v.put_sessions_eq_some hrs' with ⟨rfl, ⟨⟩⟩ | ⟨-, hold⟩
    · rcases (hrequest hcons).refreshed.bound c chn hc with ⟨chn₁, hc₁, hpeer⟩ | ⟨hbound, hfilled⟩
      · rw [← hpeer] at hshared ⊢
        exact hreg.of_some (hv sid rs c chn₁ hrs hc₁ hshared)
      · -- the peer of the new channel is somebody's, and not another session's
        obtain ⟨other, hother⟩ := isSome_iff_exists.mp (hfilled hmp hshared)
        rcases hreg chn.peerAddr with heq | ⟨-, hsome, -⟩
        · obtain rfl := hB _ other hbound (heq.symm.trans hother)
          exact hother
        · exact hsome
    · exact hreg.of_some (hv sid rs' c chn hold hc hshared)
  | allocated sid₁ rs rs₁ hrs hvalid htables hplaced =>
    rcases v.put_sessions_eq_some hrs' with ⟨rfl, ⟨⟩⟩ | ⟨-, hold⟩
    · rw [htables] at hc
      exact absurd hc (((hsound sid rs hrs).bare hvalid).ch c chn)
    · exact hv sid rs' c chn hold hc hshared
  | expired sid₁ rs family owner hrs hfamily howner =>
    refine (howner chn.peerAddr sid).mpr ?_
    rcases v.put_sessions_eq_some hrs' with ⟨rfl, ⟨⟩⟩ | ⟨hsid, hold⟩
    · rw [rs.clear_tables] at hc
      obtain ⟨r, info, -, -, haddr, -⟩ := (hsound sid rs hrs).consistent.ch_owner c chn hc
      have hinet := (addrEqNoPort_iff.mp (addrEqNoPort_symm haddr)).1
      obtain ⟨hne, hshared'⟩ := RelaySession.sharedFor_of_clear hfamily hshared hinet
      exact ⟨hv sid rs c chn hrs hc hshared', fun hnot => hne hnot.2.2.2⟩
    · refine ⟨hv sid rs' c chn hold hc hshared, ?_⟩
      rintro ⟨-, -, hsid', -⟩
      exact hsid hsid'
  | closed sid₁ owner howner =>
    refine (howner chn.peerAddr sid).mpr ?_
    rcases v.put_sessions_eq_some hrs' with ⟨-, ⟨⟩⟩ | ⟨hsid, hold⟩
    exact ⟨hv sid rs' c chn hold hc hshared, fun hnot => hsid hnot.2⟩

lemma owner_of_moves (h : ReflTransGen (RelayMove cfg who G B) v v') (hsound : v.Sound)
    {key : IoaAddr} {other : ℕ} (howned : v'.owner key = some other) :
    v.owner key = some other ∨ other = who := by
  induction h with
  | refl => exact Or.inl howned
  | tail hmoves hmove ih =>
    cases hmove with
    | opened sid₁ hnone => exact ih howned
    | request rs t owner hrs hvalid hrequest hregisters =>
      rcases hregisters ((hsound.moves hmoves) who rs hrs).consistent key with heq | ⟨-, hsome, -⟩
      · exact ih (heq.symm.trans howned)
      · exact Or.inr (mem_unique howned hsome)
    | allocated sid₁ rs rs₁ hrs hvalid htables hplaced => exact ih howned
    | expired sid₁ rs family owner hrs hfamily howner =>
      exact ih ((howner key other).mp howned).1
    | closed sid₁ owner howner => exact ih ((howner key other).mp howned).1

lemma Owned.tick (hv : v.Owned) (hsound : v.Sound) (h : v.Ticks cfg ctime v') : v'.Owned := by
  intro sid rs' c chn hrs' hc hshared
  obtain ⟨rs, hrs, rfl⟩ := h.session hrs'
  obtain ⟨hc', hnot⟩ := not_swept_of_liveCh (hsound sid rs hrs) hrs hc
  refine (h.owner chn.peerAddr sid).mpr ⟨hv sid rs c chn hrs hc' ?_, fun hswept => hnot hswept.2⟩
  obtain ⟨s, hs, hudp⟩ := hshared
  exact ⟨s, (rs.sweep_socket ctime).symm.trans hs, hudp⟩

lemma Owned.step (hv : v.Owned) (hsound : v.Sound) (hmp : cfg.multiplexPeerMode = true)
    (hB : ∀ key other, B key → v.owner key = some other → other = who)
    (h : RelayStep cfg who G B time v v') : v'.Owned := by
  cases h with
  | moves h =>
    induction h with
    | refl => exact hv
    | tail hmoves hmove ih =>
      refine ih.move (hsound.moves hmoves) hmp (fun key other hbinds howned => ?_) hmove
      rcases owner_of_moves hmoves hsound howned with hold | hwho
      · exact hB key other hbinds hold
      · exact hwho
  | tick h => exact hv.tick hsound h

end RelayView

end Coturn
