/-
# Deadlines of permissions and channels

CreatePermission uses the lifetime of permissions, and ChannelBind that of channels, for the channel
and for its permission alike. So the deadline of a permission can move back when the two lifetimes
differ, and the sweep then removes the channel with its permission before the channel's own
deadline.
-/
import Coturn.Allocation.Moves

namespace Coturn

open AddrTables Relation Option

/-! ## Times without overflow -/

/-- While the times are in the range of a signed 32-bit number, "before" is the order. -/
lemma turnTimeBefore_iff {t1 t2 : UInt32} (h1 : t1.toNat < 2 ^ 31) (h2 : t2.toNat < 2 ^ 31) :
    turnTimeBefore t1 t2 = true ↔ t1.toNat < t2.toNat := by
  rw [turnTimeBefore, decide_eq_true_eq, UInt32.toNat_sub]
  omega

lemma toNat_add_of_lt {t d : UInt32} (h : t.toNat + d.toNat < 2 ^ 31) :
    (t + d).toNat = t.toNat + d.toNat := by
  rw [UInt32.toNat_add]
  omega

/-! ## What a request does to the deadlines -/

/-- The lifetimes of the configuration agree as far as permissions are concerned. -/
def ServerClock.Agree (clk : ServerClock) : Prop :=
  clk.channelLifetime = 0 ∨ clk.channelLifetime = clk.permissionLifetime

/-- No deadline of this clock leaves the range of a signed 32-bit number. -/
def ServerClock.InRange (clk : ServerClock) : Prop :=
  clk.ctime.toNat + clk.permissionLifetime.toNat < 2 ^ 31 ∧
    clk.ctime.toNat + clk.channelLifetime.toNat < 2 ^ 31

/-- Every deadline comes from a request up to the time of `clk`, and a channel does not outlive
its permission. -/
structure AddrTables.Deadlines (clk : ServerClock) (a : AddrTables) : Prop where
  perm_le : ∀ r info, a.LivePerm r info →
    info.expirationTime.toNat ≤ clk.ctime.toNat + clk.permissionLifetime.toNat
  ch_le : ∀ c chn, a.LiveCh c chn →
    chn.expirationTime.toNat ≤ clk.ctime.toNat + clk.channelLifetime.toNat
  ch_le_owner : ∀ c chn r info, a.LiveCh c chn → chn.owner = some r → a.LivePerm r info →
    chn.expirationTime.toNat ≤ info.expirationTime.toNat

/-- Permissions and channels stay in their slots, and no deadline moves back. -/
structure AddrTables.Forward (a a' : AddrTables) : Prop where
  perm : ∀ r info, a.LivePerm r info → ∃ info', a'.LivePerm r info' ∧ info'.addr = info.addr ∧
    info.expirationTime.toNat ≤ info'.expirationTime.toNat
  ch : ∀ c chn, a.LiveCh c chn → ∃ chn', a'.LiveCh c chn' ∧ chn'.chnum = chn.chnum ∧
    chn.expirationTime.toNat ≤ chn'.expirationTime.toNat

variable {a a' a'' : AddrTables} {clk : ServerClock} {P : IoaAddr → Prop}

lemma AddrTables.Forward.refl (a : AddrTables) : a.Forward a where
  perm _ info hr := ⟨info, hr, rfl, le_rfl⟩
  ch _ chn hc := ⟨chn, hc, rfl, le_rfl⟩

lemma AddrTables.Forward.trans (h : a.Forward a') (h' : a'.Forward a'') : a.Forward a'' where
  perm r info hr := by
    obtain ⟨info', hr', haddr, hle⟩ := h.perm r info hr
    obtain ⟨info'', hr'', haddr', hle'⟩ := h'.perm r info' hr'
    exact ⟨info'', hr'', haddr'.trans haddr, hle.trans hle'⟩
  ch c chn hc := by
    obtain ⟨chn', hc', hnum, hle⟩ := h.ch c chn hc
    obtain ⟨chn'', hc'', hnum', hle'⟩ := h'.ch c chn' hc'
    exact ⟨chn'', hc'', hnum'.trans hnum, hle.trans hle'⟩

section Requests

variable (hagree : clk.Agree) (hrange : clk.InRange)

include hagree in
lemma ServerClock.Agree.channelPermLifetime_eq : clk.channelPermLifetime = clk.permissionLifetime := by
  unfold ServerClock.channelPermLifetime
  split_ifs with hzero
  · rfl
  · exact hagree.resolve_left hzero

include hagree in
lemma ServerClock.Agree.channelLifetime_le :
    clk.channelLifetime.toNat ≤ clk.permissionLifetime.toNat := by
  rcases hagree with hzero | heq
  · rw [hzero]
    exact Nat.zero_le _
  · rw [heq]

lemma forward_addPerm (addr : IoaAddr) : a.Forward (a.addPerm addr) where
  perm _ info hr := ⟨info, (livePerm_fill_iff a addr).mpr (Or.inr hr), rfl, le_rfl⟩
  ch _ chn hc := ⟨chn, hc, rfl, le_rfl⟩

lemma AddrTables.Deadlines.addPerm (h : a.Consistent) (hd : a.Deadlines clk) (addr : IoaAddr) :
    (a.addPerm addr).Deadlines clk where
  perm_le r info hr := by
    rcases (livePerm_fill_iff a addr).mp hr with ⟨-, rfl⟩ | hold
    · exact Nat.zero_le _
    · exact hd.perm_le r info hold
  ch_le := hd.ch_le
  ch_le_owner c chn r info hc howner hr := by
    -- the owner was live before, so it is not the new permission
    obtain ⟨s, x, howner', hs, -, -⟩ := h.ch_owner c chn hc
    obtain rfl : r = s := mem_unique howner howner'
    obtain rfl := ((livePerm_fill_iff a addr).mpr (Or.inr hs)).unique hr
    exact hd.ch_le_owner c chn r x hc howner hs

variable {r : PermPtr} {info : TurnPermissionInfo} {chnum : UInt16} {peerAddr : IoaAddr}

lemma AddrTables.Consistent.forward_addCh (h : a.Consistent) (hr : a.LivePerm r info) :
    a.Forward (addChInfo a r chnum peerAddr).2 where
  perm s x hs := by
    by_cases hsr : s = r
    · subst hsr
      obtain rfl := hs.unique hr
      exact ⟨_, (livePerm_addChInfo_iff hr).mpr (Or.inl ⟨rfl, rfl⟩), rfl, le_rfl⟩
    · exact ⟨x, (livePerm_addChInfo_iff hr).mpr (Or.inr ⟨hsr, hs⟩), rfl, le_rfl⟩
  ch c chn hc := ⟨chn, h.liveCh_addChInfo_iff.mpr (Or.inr hc), rfl, le_rfl⟩

lemma AddrTables.Deadlines.addCh (h : a.Consistent) (hd : a.Deadlines clk)
    (hr : a.LivePerm r info) : (addChInfo a r chnum peerAddr).2.Deadlines clk where
  perm_le s x hs := by
    rcases (livePerm_addChInfo_iff hr).mp hs with ⟨rfl, rfl⟩ | ⟨-, hold⟩
    · exact (hd.perm_le s info hr :)
    · exact hd.perm_le s x hold
  ch_le c chn hc := by
    rcases h.liveCh_addChInfo_iff.mp hc with ⟨-, rfl⟩ | hold
    · exact Nat.zero_le _
    · exact hd.ch_le c chn hold
  ch_le_owner c chn s x hc howner hs := by
    rcases h.liveCh_addChInfo_iff.mp hc with ⟨-, rfl⟩ | hold
    · exact Nat.zero_le _
    · rcases (livePerm_addChInfo_iff hr).mp hs with ⟨rfl, rfl⟩ | ⟨-, hold'⟩
      · exact (hd.ch_le_owner c chn s info hold howner hr :)
      · exact hd.ch_le_owner c chn s x hold howner hold'

lemma livePerm_touch {t : UInt32} {s : PermPtr} {x : TurnPermissionInfo}
    (hs : (a.touchPerm r t).LivePerm s x) :
    ∃ y, a.LivePerm s y ∧ ((s = r ∧ x = { y with expirationTime := t }) ∨ x = y) := by
  rcases SlotTable.get?_modify_eq_some hs.1 with ⟨rfl, y, hy, rfl⟩ | ⟨-, hold⟩
  · exact ⟨y, ⟨hy, hs.2⟩, Or.inl ⟨rfl, rfl⟩⟩
  · exact ⟨x, ⟨hold, hs.2⟩, Or.inr rfl⟩

include hrange in
lemma AddrTables.Deadlines.touchPerm (hd : a.Deadlines clk) (r : PermPtr) :
    a.Forward (a.touchPerm r (clk.ctime + clk.permissionLifetime)) ∧
      (a.touchPerm r (clk.ctime + clk.permissionLifetime)).Deadlines clk := by
  have htime := toNat_add_of_lt hrange.1
  refine ⟨⟨fun s x hs => ?_, fun c chn hc => ⟨chn, hc, rfl, le_rfl⟩⟩, ⟨fun s x hs => ?_,
    hd.ch_le, fun c chn s x hc howner hs => ?_⟩⟩
  · by_cases hsr : s = r
    · subst hsr
      refine ⟨{ x with expirationTime := clk.ctime + clk.permissionLifetime },
        ⟨by simp [hs.1], hs.2⟩, rfl, ?_⟩
      rw [htime]
      exact hd.perm_le s x hs
    · exact ⟨x, ⟨by rw [SlotTable.get?_modify_of_ne hsr, hs.1], hs.2⟩, rfl, le_rfl⟩
  · obtain ⟨y, hy, ⟨rfl, rfl⟩ | rfl⟩ := livePerm_touch hs
    · exact htime.le
    · exact hd.perm_le s x hy
  · obtain ⟨y, hy, ⟨rfl, rfl⟩ | rfl⟩ := livePerm_touch hs
    · have hold := hd.ch_le_owner c chn s y hc howner hy
      have hle := hd.perm_le s y hy
      rw [htime]
      exact hold.trans hle
    · exact hd.ch_le_owner c chn s x hc howner hy

include hagree hrange in
lemma AddrTables.Deadlines.touchCh (hd : a.Deadlines clk) {c : ChPtr} {chn : ChInfo}
    (hc : a.LiveCh c chn) (howner : chn.owner = some r) (hr : a.LivePerm r info)
    (htouch : info.expirationTime = clk.ctime + clk.channelPermLifetime) :
    a.Forward (a.touchCh c (clk.ctime + clk.channelLifetime)) ∧
      (a.touchCh c (clk.ctime + clk.channelLifetime)).Deadlines clk := by
  have htime := toNat_add_of_lt hrange.2
  refine ⟨⟨fun s x hs => ⟨x, hs, rfl, le_rfl⟩, fun d x hdx => ?_⟩,
    ⟨hd.perm_le, fun d x hdx => ?_, fun d x s y hdx hdo hs => ?_⟩⟩
  · by_cases hdc : d = c
    · subst hdc
      refine ⟨{ x with expirationTime := clk.ctime + clk.channelLifetime },
        ⟨by simp [hdx.1], hdx.2⟩, rfl, ?_⟩
      rw [htime]
      exact hd.ch_le d x hdx
    · exact ⟨x, ⟨by rw [SlotTable.get?_modify_of_ne hdc, hdx.1], hdx.2⟩, rfl, le_rfl⟩
  · rcases SlotTable.get?_modify_eq_some hdx.1 with ⟨-, z, -, rfl⟩ | ⟨-, hold⟩
    · exact htime.le
    · exact hd.ch_le d x ⟨hold, hdx.2⟩
  · rcases SlotTable.get?_modify_eq_some hdx.1 with ⟨rfl, z, hz, rfl⟩ | ⟨-, hold⟩
    · obtain rfl : chn = z := mem_unique hc.1 hz
      obtain rfl : r = s := mem_unique howner hdo
      obtain rfl := hr.unique hs
      have hle := hagree.channelLifetime_le
      rw [htouch, hagree.channelPermLifetime_eq, htime, toNat_add_of_lt hrange.1]
      omega
    · exact hd.ch_le_owner d x s y ⟨hold, hdx.2⟩ hdo hs

include hagree hrange in
lemma RequestMove.forward (hmove : RequestMove clk P a a') (h : a.Consistent)
    (hd : a.Deadlines clk) : a.Forward a' ∧ a'.Deadlines clk := by
  cases hmove with
  | addPerm addr _ _ => exact ⟨forward_addPerm addr, hd.addPerm h addr⟩
  | addCh r info chnum peerAddr hr _ _ _ _ _ => exact ⟨h.forward_addCh hr, hd.addCh h hr⟩
  | touchPerm r timeDelta hdelta =>
    have hdelta' : timeDelta = clk.permissionLifetime := by
      rcases hdelta with rfl | rfl
      · rfl
      · exact hagree.channelPermLifetime_eq
    subst hdelta'
    exact hd.touchPerm hrange r
  | touchCh c chn r info hc howner hr htouch =>
    exact hd.touchCh hagree hrange hc howner hr htouch

include hagree hrange in
lemma RequestMoves.forward (hmoves : RequestMoves clk P a a') (h : a.Consistent)
    (hd : a.Deadlines clk) : a.Forward a' ∧ a'.Deadlines clk := by
  induction hmoves with
  | refl => exact ⟨AddrTables.Forward.refl a, hd⟩
  | tail hbefore hmove ih =>
    obtain ⟨hforward, hd'⟩ := ih
    obtain ⟨hforward', hd''⟩ := hmove.forward hagree hrange (RequestMoves.consistent hbefore h) hd'
    exact ⟨hforward.trans hforward', hd''⟩

end Requests

/-! ## What the sweep removes -/

/-- What is left has its deadline, and every channel that is gone had reached its own. -/
structure AddrTables.Swept (ctime : UInt32) (a a' : AddrTables) : Prop where
  perm : ∀ r info', a'.LivePerm r info' →
    ∃ info, a.LivePerm r info ∧ info'.expirationTime = info.expirationTime
  ch : ∀ c chn, a'.LiveCh c chn → a.LiveCh c chn
  gone : ∀ c chn, a.LiveCh c chn →
    a'.LiveCh c chn ∨ chn.expirationTime.toNat < ctime.toNat

lemma AddrTables.Swept.refl (ctime : UInt32) (a : AddrTables) : a.Swept ctime a where
  perm _ info hr := ⟨info, hr, rfl⟩
  ch _ _ hc := hc
  gone _ _ hc := Or.inl hc

lemma AddrTables.Swept.trans {ctime : UInt32} (h : a.Swept ctime a') (h' : a'.Swept ctime a'') :
    a.Swept ctime a'' where
  perm r info hr := by
    obtain ⟨info', hr', heq⟩ := h'.perm r info hr
    obtain ⟨info'', hr'', heq'⟩ := h.perm r info' hr'
    exact ⟨info'', hr'', heq.trans heq'⟩
  ch c chn hc := h.ch c chn (h'.ch c chn hc)
  gone c chn hc := by
    rcases h.gone c chn hc with hstay | hdead
    · exact h'.gone c chn hstay
    · exact Or.inr hdead

lemma AddrTables.Swept.deadlines {ctime : UInt32} (h : a.Swept ctime a') (hd : a.Deadlines clk) :
    a'.Deadlines clk where
  perm_le r info hr := by
    obtain ⟨info', hr', heq⟩ := h.perm r info hr
    rw [heq]
    exact hd.perm_le r info' hr'
  ch_le c chn hc := hd.ch_le c chn (h.ch c chn hc)
  ch_le_owner c chn r info hc howner hr := by
    obtain ⟨info', hr', heq⟩ := h.perm r info hr
    rw [heq]
    exact hd.ch_le_owner c chn r info' (h.ch c chn hc) howner hr'

section Sweep

variable (hrange : clk.InRange)

include hrange in
/-- A permission that the sweep cleans takes its channels along, which had expired before it. -/
lemma AddrTables.Deadlines.swept_perm (h : a.Consistent) (hd : a.Deadlines clk) (r : PermPtr) :
    a.Swept clk.ctime (sweepPermission clk.ctime a r) := by
  unfold sweepPermission
  split_ifs with hexp
  · obtain ⟨info, hget, hcond⟩ := (any_eq_true _ _).mp hexp
    rw [Bool.and_eq_true] at hcond
    obtain ⟨hlive, hbefore⟩ := hcond
    have hr : a.LivePerm r info := ⟨hget, hlive⟩
    have hle := hd.perm_le r info hr
    have hlt : info.expirationTime.toNat < clk.ctime.toNat :=
      (turnTimeBefore_iff (hle.trans_lt hrange.1) (by have := hrange.1; omega)).mp hbefore
    refine ⟨fun s x hs => ⟨x, ((livePerm_turnPermissionClean_iff hr).mp hs).2, rfl⟩,
      fun c chn hc => ((h.liveCh_turnPermissionClean_iff hr).mp hc).1, fun c chn hc => ?_⟩
    by_cases howner : chn.owner = some r
    · have hch := hd.ch_le_owner c chn r info hc howner hr
      exact Or.inr (hch.trans_lt hlt)
    · exact Or.inl ((h.liveCh_turnPermissionClean_iff hr).mpr ⟨hc, howner⟩)
  · exact AddrTables.Swept.refl clk.ctime a

include hrange in
lemma AddrTables.Deadlines.swept_ch (h : a.Consistent) (hd : a.Deadlines clk) (c : ChPtr) :
    a.Swept clk.ctime (sweepChannel clk.ctime a c) := by
  unfold sweepChannel
  split_ifs with hexp
  · obtain ⟨chn, hget, hcond⟩ := (any_eq_true _ _).mp hexp
    rw [Bool.and_eq_true] at hcond
    obtain ⟨hlive, hbefore⟩ := hcond
    have hc : a.LiveCh c chn := ⟨hget, hlive⟩
    have hle := hd.ch_le c chn hc
    have hlt : chn.expirationTime.toNat < clk.ctime.toNat :=
      (turnTimeBefore_iff (hle.trans_lt hrange.2) (by have := hrange.2; omega)).mp hbefore
    obtain ⟨r, info, howner, hr, -, -⟩ := h.ch_owner c chn hc
    refine ⟨fun s x hs => ?_, fun d x hdx => ((liveCh_turnChannelDelete_iff hc).mp hdx).2,
      fun d x hdx => ?_⟩
    · rcases (livePerm_turnChannelDelete_iff hc howner hr).mp hs with ⟨rfl, rfl⟩ | ⟨-, hold⟩
      · exact ⟨info, hr, rfl⟩
      · exact ⟨x, hold, rfl⟩
    · by_cases hdc : d = c
      · subst hdc
        rw [hdx.unique hc]
        exact Or.inr hlt
      · exact Or.inl ((liveCh_turnChannelDelete_iff hc).mpr ⟨hdc, hdx⟩)
  · exact AddrTables.Swept.refl clk.ctime a

lemma swept_foldl {α : Type} {f : AddrTables → α → AddrTables}
    (hmoves : ∀ a x, ExpiryMoves a (f a x))
    (hf : ∀ (a : AddrTables) x, a.Consistent → a.Deadlines clk → a.Swept clk.ctime (f a x))
    (xs : List α)
    {a : AddrTables} (h : a.Consistent) (hd : a.Deadlines clk) :
    a.Swept clk.ctime (xs.foldl f a) := by
  induction xs generalizing a with
  | nil => exact AddrTables.Swept.refl clk.ctime a
  | cons x xs ih =>
    have hstep := hf a x h hd
    exact hstep.trans (ih (ExpiryMoves.consistent (hmoves a x) h) (hstep.deadlines hd))

include hrange in
lemma AddrTables.Deadlines.swept (h : a.Consistent) (hd : a.Deadlines clk) :
    a.Swept clk.ctime (sweepAllocationTimedEvents clk.ctime a) := by
  have hperms := swept_foldl (sweepPermission_moves clk.ctime)
    (fun _ r h hd => AddrTables.Deadlines.swept_perm hrange h hd r) a.addrToPerm.places h hd
  have h₁ := ExpiryMoves.consistent (foldl_moves (sweepPermission_moves clk.ctime) a.addrToPerm.places a) h
  exact hperms.trans (swept_foldl (sweepChannel_moves clk.ctime)
    (fun _ c h hd => AddrTables.Deadlines.swept_ch hrange h hd c) _ h₁ (hperms.deadlines hd))

end Sweep

/-! ## Runs with a non-decreasing clock -/

/-- A CreatePermission or ChannelBind request or a sweep at a time of the server. -/
inductive TimedOp where
  | createPermission (ctime : UInt32) (peers : List IoaAddr)
  | channelBind (ctime : UInt32) (goodPeer : IoaAddr → Bool) (chnum : UInt16) (peer : IoaAddr)
  | sweep (ctime : UInt32)

namespace TimedOp

variable (permissionLifetime channelLifetime : UInt32)

/-- The time of the operation. -/
def ctime : TimedOp → UInt32
  | createPermission t _ => t
  | channelBind t _ _ _ => t
  | sweep t => t

/-- The operation on the tables, under a configuration. -/
def toTableOp : TimedOp → TableOp
  | createPermission t peers => .createPermission ⟨t, permissionLifetime, channelLifetime⟩ peers
  | channelBind t goodPeer chnum peer =>
    .channelBind ⟨t, permissionLifetime, channelLifetime⟩ goodPeer chnum peer
  | sweep t => .sweep t

/-- The request gets no error. -/
def Succeeds (a : AddrTables) : TimedOp → Prop
  | createPermission t peers =>
    (createPermissions ⟨t, permissionLifetime, channelLifetime⟩ a peers).1 = true
  | channelBind t goodPeer chnum peer => addrGetPort peer ≠ 0 ∧
    (bindChannel ⟨t, permissionLifetime, channelLifetime⟩ goodPeer a chnum peer true).1 = none
  | sweep _ => True

/-- No request moves a deadline back, and the sweep removes no channel that has not reached its
own deadline. -/
def PushesForward (a : AddrTables) : TimedOp → Prop
  | sweep t => ∀ c chn, a.LiveCh c chn →
    (¬ ∃ chn', (a.step (.sweep t)).LiveCh c chn') → chn.expirationTime.toNat < t.toNat
  | op => a.Forward (a.step (op.toTableOp permissionLifetime channelLifetime))

def step (s : UInt32 × AddrTables) (op : TimedOp) : UInt32 × AddrTables :=
  (op.ctime, s.2.step (op.toTableOp permissionLifetime channelLifetime))

/-- The clock does not go back, the deadlines stay in the range of a signed 32-bit number, and
a request succeeds. -/
def Valid (s : UInt32 × AddrTables) (op : TimedOp) : Prop :=
  s.1.toNat ≤ op.ctime.toNat ∧
    ServerClock.InRange ⟨op.ctime, permissionLifetime, channelLifetime⟩ ∧
    op.Succeeds permissionLifetime channelLifetime s.2

/-- Consistent tables with sound deadlines. -/
def Sound (s : UInt32 × AddrTables) : Prop :=
  s.2.Consistent ∧ s.2.Deadlines ⟨s.1, permissionLifetime, channelLifetime⟩

variable {permissionLifetime channelLifetime}

lemma deadlines_mono {t t' : UInt32} (hle : t.toNat ≤ t'.toNat)
    (hd : a.Deadlines ⟨t, permissionLifetime, channelLifetime⟩) :
    a.Deadlines ⟨t', permissionLifetime, channelLifetime⟩ where
  perm_le r info hr := (hd.perm_le r info hr).trans (Nat.add_le_add_right hle _)
  ch_le c chn hc := (hd.ch_le c chn hc).trans (Nat.add_le_add_right hle _)
  ch_le_owner := hd.ch_le_owner

lemma step_forward (hagree : channelLifetime = 0 ∨ channelLifetime = permissionLifetime)
    (s : UInt32 × AddrTables) (op : TimedOp) (hs : Sound permissionLifetime channelLifetime s)
    (hvalid : op.Valid permissionLifetime channelLifetime s) :
    Sound permissionLifetime channelLifetime (op.step permissionLifetime channelLifetime s) ∧
      op.PushesForward permissionLifetime channelLifetime s.2 := by
  obtain ⟨h, hd⟩ := hs
  obtain ⟨hclock, hrange, -⟩ := hvalid
  have hd' := deadlines_mono hclock hd
  have hagree' : ServerClock.Agree ⟨op.ctime, permissionLifetime, channelLifetime⟩ := hagree
  have hcons := h.step (op.toTableOp permissionLifetime channelLifetime)
  cases op with
  | createPermission t peers =>
    have hmoves := h.createPermissions_moves (P := fun _ => True)
      ⟨t, permissionLifetime, channelLifetime⟩ (fun p (_ : p ∈ peers) => trivial)
    obtain ⟨hforward, hdeadlines⟩ := RequestMoves.forward hagree' hrange hmoves h hd'
    exact ⟨⟨hcons, hdeadlines⟩, hforward⟩
  | channelBind t goodPeer chnum peer =>
    simp only [Sound, PushesForward, step, toTableOp, AddrTables.step] at hcons ⊢
    split_ifs at hcons ⊢ with hport
    · exact ⟨⟨hcons, hd'⟩, AddrTables.Forward.refl s.2⟩
    · have hmoves : RequestMoves _ (fun _ => True) s.2 (bindChannel
          ⟨t, permissionLifetime, channelLifetime⟩ goodPeer s.2 chnum peer true).2 :=
        h.bindChannel_moves _ (fun _ => hport) fun _ => trivial
      obtain ⟨hforward, hdeadlines⟩ := RequestMoves.forward hagree' hrange hmoves h hd'
      exact ⟨⟨hcons, hdeadlines⟩, hforward⟩
  | sweep t =>
    have hswept := AddrTables.Deadlines.swept hrange h hd'
    refine ⟨⟨hcons, hswept.deadlines hd'⟩, fun c chn hc hgone => ?_⟩
    rcases hswept.gone c chn hc with hstay | hdead
    · exact absurd ⟨chn, hstay⟩ hgone
    · exact hdead

end TimedOp

/-! ## Runs that move a deadline back -/

lemma AddrTables.Forward.expirationTime_le (h : a.Forward a') {r : PermPtr} {t u : UInt32}
    (ht : (a.addrToPerm.get? r).map (fun info => (info.allocated, info.expirationTime)) =
      some (true, t))
    (hu : (a'.addrToPerm.get? r).map TurnPermissionInfo.expirationTime = some u) :
    t.toNat ≤ u.toNat := by
  obtain ⟨info, hget, heq⟩ := map_eq_some_iff.mp ht
  obtain ⟨hlive, rfl⟩ := Prod.mk.inj heq
  obtain ⟨info', hr', -, hle⟩ := h.perm r info ⟨hget, hlive⟩
  rw [hr'.1, map_some, some_inj] at hu
  rwa [hu] at hle

def samplePeer : IoaAddr := .s4 ⟨[192, 0, 2, 1], rfl⟩ 3478

def bindSample (ctime : UInt32) : TimedOp := .channelBind ctime (fun _ => true) 0x4000 samplePeer

def permitSample (ctime : UInt32) : TimedOp := .createPermission ctime [samplePeer]

/-- Deadlines are only pushed forward in every run if and only if the lifetimes agree, or that of
channels is 0. -/
theorem deadlines_forward_iff {permissionLifetime channelLifetime : UInt32}
    (hperm : permissionLifetime.toNat < 2 ^ 31) (hch : channelLifetime.toNat < 2 ^ 31) :
    (∀ ops, Machine.Along (TimedOp.step permissionLifetime channelLifetime)
        (TimedOp.Valid permissionLifetime channelLifetime) (0, AddrTables.init) ops →
      Machine.Along (TimedOp.step permissionLifetime channelLifetime)
        (fun s op => op.PushesForward permissionLifetime channelLifetime s.2)
        (0, AddrTables.init) ops) ↔
    channelLifetime = 0 ∨ channelLifetime = permissionLifetime := by
  constructor
  · intro hall
    by_contra hne
    obtain ⟨hzero, hdiff⟩ := not_or.mp hne
    have hrange : ServerClock.InRange ⟨0, permissionLifetime, channelLifetime⟩ := by
      simpa [ServerClock.InRange] using ⟨hperm, hch⟩
    rcases lt_or_gt_of_ne (fun h => hdiff (UInt32.toNat_inj.mp h)) with hlt | hgt
    · -- permissions live longer: a ChannelBind moves the deadline of the permission back
      obtain ⟨-, hforward, -⟩ := hall [permitSample 0, bindSample 0]
        ⟨⟨le_rfl, hrange, rfl⟩, ⟨le_rfl, hrange, by decide, rfl⟩, trivial⟩
      have hle := AddrTables.Forward.expirationTime_le hforward (r := (permIndex samplePeer, 0))
        (t := 0 + permissionLifetime)
        (u := 0 + if channelLifetime = 0 then permissionLifetime else channelLifetime) rfl rfl
      rw [if_neg hzero, UInt32.zero_add, UInt32.zero_add] at hle
      omega
    · -- permissions live shorter: a CreatePermission does
      obtain ⟨-, hforward, -⟩ := hall [bindSample 0, permitSample 0]
        ⟨⟨le_rfl, hrange, by decide, rfl⟩, ⟨le_rfl, hrange, rfl⟩, trivial⟩
      have hle := AddrTables.Forward.expirationTime_le hforward (r := (permIndex samplePeer, 0))
        (t := 0 + if channelLifetime = 0 then permissionLifetime else channelLifetime)
        (u := 0 + permissionLifetime) rfl rfl
      rw [if_neg hzero, UInt32.zero_add, UInt32.zero_add] at hle
      omega
  · intro hagree ops hvalid
    have hinit : AddrTables.init.Deadlines ⟨0, permissionLifetime, channelLifetime⟩ :=
      ⟨fun r info hr => absurd hr init_not_livePerm, fun c chn hc => absurd hc init_not_liveCh,
        fun c chn r info hc => absurd hc init_not_liveCh⟩
    exact Machine.along_of_invariant (TimedOp.step_forward hagree) hvalid
      ⟨AddrTables.init_consistent, hinit⟩

theorem deadlines_forward_iff_equal_lifetimes :
    (∀ ops, Machine.Along (TimedOp.step 600 600) (TimedOp.Valid 600 600) (0, AddrTables.init) ops →
      Machine.Along (TimedOp.step 600 600) (fun s op => op.PushesForward 600 600 s.2)
        (0, AddrTables.init) ops) ↔ (600 : UInt32) = 0 ∨ (600 : UInt32) = 600 :=
  deadlines_forward_iff (by decide) (by decide)

/-- By default a CreatePermission after a ChannelBind moves the deadline from 1600 to 1301, and the
sweep removes the channel with the permission. -/
theorem createPermission_moves_deadline_back :
    let ops := [bindSample 1000, permitSample 1001, .sweep 1400]
    let s := Machine.run (TimedOp.step 300 600) (0, AddrTables.init) (ops.take 2)
    Machine.Along (TimedOp.step 300 600) (TimedOp.Valid 300 600) (0, AddrTables.init) ops ∧
      ¬ Machine.Along (TimedOp.step 300 600) (fun s op => op.PushesForward 300 600 s.2)
        (0, AddrTables.init) ops ∧
      (s.2.chns.get? (0, 0)).map (fun c => (c.chnum, c.expirationTime)) = some (0x4000, 1600) ∧
      ((s.2.step (.sweep 1400)).chns.get? (0, 0)).map ChInfo.allocated = some false := by
  refine ⟨⟨⟨by decide, ⟨by decide, by decide⟩, by decide, rfl⟩, ⟨by decide, ⟨by decide, by decide⟩,
    rfl⟩, ⟨by decide, ⟨by decide, by decide⟩, trivial⟩, trivial⟩, ?_, by decide +kernel,
    by decide +kernel⟩
  rintro ⟨-, hforward, -⟩
  have hle := AddrTables.Forward.expirationTime_le hforward (r := (permIndex samplePeer, 0))
    (t := 1600) (u := 1301) rfl rfl
  exact absurd hle (by decide)

end Coturn
