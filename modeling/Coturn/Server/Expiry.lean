/-
# Nothing expired is ever used

The server compares deadlines with its clock in the timer only. Since the clock changes nowhere
else, no permission and no channel of a valid allocation is overdue when anything but the timer is
handled, and the timer removes exactly what is overdue at the new time.
-/
import Coturn.Server.Defaults
import Coturn.Server.Refine

namespace Coturn

open AddrTables

/-- The lifetimes are below 2^30 seconds, and so is the time between two ticks of the clock, which
never goes back. -/
structure Server.Timed (srv : Server) (i : Input) : Prop where
  perm : i.cfg.permissionLifetime.toNat < 2 ^ 30
  ch : i.cfg.channelLifetime.toNat < 2 ^ 30
  clock : ∀ ctime ∈ i.ev.time, (ctime - srv.ctime).toNat < 2 ^ 30

instance (srv : Server) (i : Input) : Decidable (srv.Timed i) :=
  -- the quantifier is over at most one time, not over all of them
  letI := i.ev.time.decidableForallMem (p := fun ctime => (ctime - srv.ctime).toNat < 2 ^ 30)
  decidable_of_iff (i.cfg.permissionLifetime.toNat < 2 ^ 30 ∧
    i.cfg.channelLifetime.toNat < 2 ^ 30 ∧ ∀ ctime ∈ i.ev.time, (ctime - srv.ctime).toNat < 2 ^ 30)
    ⟨fun h => ⟨h.1, h.2.1, h.2.2⟩, fun h => ⟨h.perm, h.ch, h.clock⟩⟩

/-- The time left until `exp` is less than the time from `ctime` to `ctime'`. -/
def RunsOut (ctime ctime' exp : UInt32) : Prop := (exp - ctime).toNat < (ctime' - ctime).toNat

/-- Expiry is exact in the state `srv`. -/
structure Server.ExpiresExactly (srv : Server) : Prop where
  perm : ∀ sid ss, srv.sessionsMap sid = some ss → ss.alloc.isValid = true →
    ∀ r info, ss.alloc.LivePerm r info → turnTimeBefore info.expirationTime srv.ctime = false
  ch : ∀ sid ss, srv.sessionsMap sid = some ss → ss.alloc.isValid = true →
    ∀ c chn, ss.alloc.LiveCh c chn → turnTimeBefore chn.expirationTime srv.ctime = false
  /-- The timer sweeps every session, and nothing else about the sessions changes. -/
  tick : ∀ cfg env ctime sid, (srv.step ⟨cfg, env, .tick ctime⟩).sessionsMap sid =
    (srv.sessionsMap sid).map (sweepSession ctime)
  /-- The sweep removes the permissions that run out with their channels, and the channels that run
  out themselves. -/
  removes : ∀ ctime, (ctime - srv.ctime).toNat < 2 ^ 30 →
    ∀ sid ss, srv.sessionsMap sid = some ss →
      ss.alloc.Removes
        (fun r => ∃ info, ss.alloc.LivePerm r info ∧ RunsOut srv.ctime ctime info.expirationTime)
        (fun c => ∃ chn, ss.alloc.LiveCh c chn ∧ RunsOut srv.ctime ctime chn.expirationTime)
        (sweepSession ctime ss).alloc.toAddrTables

variable {srv : Server}

/-- Well formed, and no deadline has passed. -/
structure Server.Punctual (srv : Server) : Prop extends srv.WellFormed where
  timely : srv.view.Timely

/-- While the lifetimes and the clock are in their ranges, no deadline passes. -/
lemma Server.Punctual.step (h : srv.Punctual) {i : Input} (hok : srv.Timed i) :
    (srv.step i).Punctual := by
  refine ⟨h.toWellFormed.step i, ?_⟩
  have hrefines := h.refines i
  have hclock := hok.clock
  generalize i.ev.time = time at hrefines hclock
  cases hrefines with
  | moves hmoves => exact h.timely.moves h.sound ⟨hok.perm, hok.ch⟩ hmoves
  | tick hticks => exact h.timely.tick h.sound (hclock _ rfl) hticks

lemma sweepSession_removes {ctime : UInt32} {ss : Session} (hsound : ss.alloc.relay.Sound) :
    ss.alloc.Removes (ss.alloc.OverduePerm ctime) (ss.alloc.OverdueCh ctime)
      (sweepSession ctime ss).alloc.toAddrTables := by
  unfold sweepSession
  by_cases hvalid : ss.alloc.isValid = true
  · rw [if_pos hvalid]
    exact hsound.consistent.sweepAllocationTimedEvents_removes ctime
  · -- an invalid allocation has nothing that could be overdue
    rw [if_neg hvalid]
    have hbare := hsound.bare (Bool.eq_false_iff.mpr hvalid)
    refine (Removes.refl _).congr (fun r => ⟨False.elim, ?_⟩) fun c => ⟨False.elim, ?_⟩
    · rintro ⟨info, hr, -⟩
      exact hbare.perm r info hr
    · rintro ⟨chn, hc, -⟩
      exact hbare.ch c chn hc

lemma Server.Punctual.expiresExactly (h : srv.Punctual) : srv.ExpiresExactly where
  perm sid ss hss _ r info hr :=
    ((h.timely sid _ (view_sessions_of_some hss)).perm r info hr).not_before
  ch sid ss hss _ c chn hc := ((h.timely sid _ (view_sessions_of_some hss)).ch c chn hc).not_before
  tick _ _ _ _ := rfl
  removes ctime hclock sid ss hss := by
    have hahead := h.timely sid _ (view_sessions_of_some hss)
    refine (sweepSession_removes (h.sound sid _ (view_sessions_of_some hss))).congr
      (fun r => ?_) fun c => ?_
    · refine exists_congr fun info => and_congr_right fun hr => ?_
      exact (hahead.perm r info hr).before_iff hclock
    · refine exists_congr fun chn => and_congr_right fun hc => ?_
      exact (hahead.ch c chn hc).before_iff hclock

/-- Expiry is exact in every state that the server can reach. -/
theorem expiry_exact (id : UInt8) (ctime : UInt32) (realms : RealmTable) (is : List Input)
    (hok : Machine.Along Server.step Server.Timed (initServer id ctime realms) is) :
    (Machine.run Server.step (initServer id ctime realms) is).ExpiresExactly := by
  have hinit : (initServer id ctime realms).Punctual :=
    ⟨wellFormed_init id ctime realms, fun _ _ h => (nomatch h)⟩
  have hrun : (Machine.run Server.step (initServer id ctime realms) is).Punctual :=
    Machine.run_invariant (fun srv i h hok => h.step hok) hok hinit
  exact hrun.expiresExactly

/-- A client allocates, gets a permission and binds a channel to another peer, and the clock goes on
by a minute. -/
def permissionAndChannel : List Input :=
  [.openSession udpClient none false,
    .clientInput 1 plainAllocate true,
    .clientInput 1 (clientRequest stunMethodCreatePermission
      [peerAttr (hostAddr 3 7000)]) true,
    .clientInput 1 (clientRequest stunMethodChannelBind
      [channelAttr 0x4000, peerAttr (hostAddr 4 7000)]) true,
    .tick 1060].map plainInput

theorem expiry_exact_permissionAndChannel :
    (((served permissionAndChannel).sessionsMap 1).map fun ss =>
        allocationCountPermissions ss.alloc.toAddrTables) = some 2 ∧
    (served permissionAndChannel).ExpiresExactly :=
  ⟨by decide +kernel, expiry_exact 0 1000 defaultRealms _ (by decide +kernel)⟩

end Coturn
