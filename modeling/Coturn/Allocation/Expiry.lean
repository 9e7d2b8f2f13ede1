/-
# Requests give deadlines, the sweep removes what is overdue

After a request every deadline is an old one or lies one lifetime ahead (`AddrTables.Refreshed`).
The sweep clears slots while it walks over them; it removes exactly the permissions that are overdue
with their channels, and the channels that are overdue themselves (`AddrTables.Removes`).
-/
import Coturn.Allocation.Moves

namespace Coturn

open AddrTables Relation Option

variable {addrFound : Bool}

variable {a a' a'' : AddrTables} {clk : ServerClock} {P : IoaAddr → Prop}

/-! ## Permissions for an address -/

/-- There is a permission for the address. -/
def AddrTables.Permits (a : AddrTables) (addr : IoaAddr) : Prop :=
  ∃ r info, a.LivePerm r info ∧ addrEqNoPort info.addr addr = true

variable {addr peerAddr : IoaAddr} {r : PermPtr} {c : ChPtr}

lemma AddrTables.permits_of_get
    (h : (allocationGetPermission a addr).isSome = true) : a.Permits addr := by
  obtain ⟨r, hr⟩ := isSome_iff_exists.mp h
  obtain ⟨info, hlive, haddr⟩ := livePerm_of_allocationGetPermission hr
  exact ⟨r, info, hlive, haddr⟩

lemma RequestMove.livePerm (hmove : RequestMove clk P a a') {info : TurnPermissionInfo}
    (hr : a.LivePerm r info) : ∃ info', a'.LivePerm r info' ∧ info'.addr = info.addr := by
  cases hmove with
  | addPerm addr _ _ => exact ⟨info, (livePerm_fill_iff a addr).mpr (Or.inr hr), rfl⟩
  | addCh s x chnum peerAddr hs _ _ _ _ _ =>
    by_cases hrs : r = s
    · subst hrs
      obtain rfl := hr.unique hs
      exact ⟨_, (livePerm_addChInfo_iff hs).mpr (Or.inl ⟨rfl, rfl⟩), rfl⟩
    · exact ⟨info, (livePerm_addChInfo_iff hs).mpr (Or.inr ⟨hrs, hr⟩), rfl⟩
  | touchPerm s timeDelta _ =>
    by_cases hrs : r = s
    · subst hrs
      refine ⟨{ info with expirationTime := clk.ctime + timeDelta }, ⟨?_, hr.2⟩, rfl⟩
      rw [SlotTable.get?_modify_self, hr.1]
      rfl
    · exact ⟨info, ⟨by rw [SlotTable.get?_modify_of_ne hrs, hr.1], hr.2⟩, rfl⟩
  | touchCh c chn s x _ _ _ _ => exact ⟨info, hr, rfl⟩

lemma RequestMoves.permits (hmoves : RequestMoves clk P a a')
    (h : a.Permits addr) : a'.Permits addr := by
  induction hmoves with
  | refl => exact h
  | tail _ hmove ih =>
    obtain ⟨r, info, hr, haddr⟩ := ih
    obtain ⟨info', hr', heq⟩ := hmove.livePerm hr
    exact ⟨r, info', hr', by rw [heq]; exact haddr⟩

lemma RequestMoves.origin (hmoves : RequestMoves clk P a a') {info' : TurnPermissionInfo}
    (hr : a'.LivePerm r info') :
    (∃ r₁ info, a.LivePerm r₁ info ∧ info.addr = info'.addr) ∨ P info'.addr := by
  induction hmoves generalizing r info' with
  | refl => exact Or.inl ⟨r, info', hr, rfl⟩
  | tail _ hmove ih =>
    cases hmove with
    | addPerm addr haddr hnew =>
      rcases (livePerm_fill_iff _ addr).mp hr with ⟨rfl, rfl⟩ | hold
      · exact Or.inr haddr
      · exact ih hold
    | addCh s x chnum peerAddr hs _ _ _ _ _ =>
      rcases (livePerm_addChInfo_iff hs).mp hr with ⟨rfl, rfl⟩ | ⟨-, hold⟩
      · exact (ih hs :)
      · exact ih hold
    | touchPerm s timeDelta _ =>
      rcases SlotTable.get?_modify_eq_some hr.1 with ⟨rfl, y, hy, rfl⟩ | ⟨-, hold⟩
      · have hold : AddrTables.LivePerm _ r y := ⟨hy, hr.2⟩
        exact (ih hold :)
      · exact ih ⟨hold, hr.2⟩
    | touchCh c chn s x _ _ _ _ => exact ih hr

/-! ## What a request does to the deadlines -/

/-- Every deadline is an old one or has just been set, and every channel is an old one or was bound
to a peer with `Q`. -/
structure AddrTables.Refreshed (clk : ServerClock) (Q : IoaAddr → Prop) (a a' : AddrTables) :
    Prop where
  perm : ∀ r info', a'.LivePerm r info' →
    (∃ info, a.LivePerm r info ∧ info.expirationTime = info'.expirationTime) ∨
      info'.expirationTime = clk.ctime + clk.permissionLifetime ∨
      info'.expirationTime = clk.ctime + clk.channelPermLifetime
  ch : ∀ c chn', a'.LiveCh c chn' →
    (∃ chn, a.LiveCh c chn ∧ chn.expirationTime = chn'.expirationTime) ∨
      chn'.expirationTime = clk.ctime + clk.channelLifetime
  bound : ∀ c chn', a'.LiveCh c chn' →
    (∃ chn, a.LiveCh c chn ∧ chn.peerAddr = chn'.peerAddr) ∨ Q chn'.peerAddr

variable {Q : IoaAddr → Prop}

lemma AddrTables.Refreshed.refl (a : AddrTables) : a.Refreshed clk Q a where
  perm _ info hr := Or.inl ⟨info, hr, rfl⟩
  ch _ chn hc := Or.inl ⟨chn, hc, rfl⟩
  bound _ chn hc := Or.inl ⟨chn, hc, rfl⟩

lemma AddrTables.Refreshed.trans (h : a.Refreshed clk Q a') (h' : a'.Refreshed clk Q a'') :
    a.Refreshed clk Q a'' where
  perm r info hr := by
    rcases h'.perm r info hr with ⟨info', hr', heq⟩ | hset
    · rw [← heq]
      exact h.perm r info' hr'
    · exact Or.inr hset
  ch c chn hc := by
    rcases h'.ch c chn hc with ⟨chn', hc', heq⟩ | hset
    · rw [← heq]
      exact h.ch c chn' hc'
    · exact Or.inr hset
  bound c chn hc := by
    rcases h'.bound c chn hc with ⟨chn', hc', heq⟩ | hnew
    · rw [← heq]
      exact h.bound c chn' hc'
    · exact Or.inr hnew

lemma AddrTables.Refreshed.mono {Q' : IoaAddr → Prop} (h : a.Refreshed clk Q a')
    (hQ : ∀ addr, Q addr → Q' addr) : a.Refreshed clk Q' a' :=
  ⟨h.perm, h.ch, fun c chn hc => (h.bound c chn hc).imp_right (hQ _)⟩

section Requests

variable (clk)

lemma livePerm_updateTurnPermissionLifetime (a : AddrTables) (r : PermPtr) (timeDelta : UInt32)
    (hok : (updateTurnPermissionLifetime clk a r timeDelta).1 = true) (s : PermPtr)
    (x : TurnPermissionInfo)
    (hs : (updateTurnPermissionLifetime clk a r timeDelta).2.LivePerm s x) :
    (s ≠ r ∧ a.LivePerm s x) ∨ (s = r ∧ x.expirationTime =
      clk.ctime + if timeDelta = 0 then clk.permissionLifetime else timeDelta) := by
  unfold updateTurnPermissionLifetime at hok hs
  split_ifs at hok hs
  all_goals
    rcases SlotTable.get?_modify_eq_some hs.1 with ⟨rfl, y, -, rfl⟩ | ⟨hne, hold⟩
  all_goals first
    | exact Or.inr ⟨rfl, by simp [*]⟩
    | exact Or.inl ⟨hne, hold, hs.2⟩

lemma chns_updateTurnPermissionLifetime (a : AddrTables) (r : PermPtr) (timeDelta : UInt32) :
    (updateTurnPermissionLifetime clk a r timeDelta).2.chns = a.chns := by
  unfold updateTurnPermissionLifetime
  split_ifs <;> rfl

lemma updateChannelLifetime_live (howner : (a.chns.get? c).bind ChInfo.owner = some r)
    (hok : (updateChannelLifetime clk a c).1 = true) :
    (∀ s x, (updateChannelLifetime clk a c).2.LivePerm s x → (s ≠ r ∧ a.LivePerm s x) ∨
      x.expirationTime = clk.ctime + clk.channelPermLifetime) ∧
    ∀ d x, (updateChannelLifetime clk a c).2.LiveCh d x → (d ≠ c ∧ a.LiveCh d x) ∨
      (d = c ∧ ∃ y, a.LiveCh c y ∧
        x = { y with expirationTime := clk.ctime + clk.channelLifetime }) := by
  unfold updateChannelLifetime at hok ⊢
  rw [howner] at hok ⊢
  have hperm := livePerm_updateTurnPermissionLifetime clk a r clk.channelLifetime
  have hchns := chns_updateTurnPermissionLifetime clk a r clk.channelLifetime
  rcases hupd : updateTurnPermissionLifetime clk a r clk.channelLifetime with ⟨_ | _, a₁⟩ <;>
    simp only [hupd] at hok hperm hchns ⊢
  · exact absurd hok (by simp)
  · refine ⟨fun s x hs => ?_, fun d x hd => ?_⟩
    · rcases hperm trivial s x hs with hold | ⟨-, htime⟩
      · exact Or.inl hold
      · exact Or.inr htime
    · rcases SlotTable.get?_modify_eq_some hd.1 with ⟨rfl, y, hy, rfl⟩ | ⟨hne, hold⟩
      · rw [hchns] at hy
        exact Or.inr ⟨rfl, y, ⟨hy, hd.2⟩, rfl⟩
      · rw [hchns] at hold
        exact Or.inl ⟨hne, hold, hd.2⟩

lemma AddrTables.Consistent.updateChannelLifetime_refreshed (h : a.Consistent) {chn : ChInfo}
    (hc : a.LiveCh c chn) : a.Refreshed clk Q (updateChannelLifetime clk a c).2 := by
  obtain ⟨r, info, howner, -, -, -⟩ := h.ch_owner c chn hc
  have howner' : (a.chns.get? c).bind ChInfo.owner = some r := by rw [hc.1]; exact howner
  obtain ⟨hperm, hch⟩ := updateChannelLifetime_live clk howner'
    (h.updateChannelLifetime_moves (P := fun _ => True) clk hc).1
  refine ⟨fun s x hs => ?_, fun d x hd => ?_, fun d x hd => ?_⟩
  · rcases hperm s x hs with ⟨-, hold⟩ | htime
    · exact Or.inl ⟨x, hold, rfl⟩
    · exact Or.inr (Or.inr htime)
  · rcases hch d x hd with ⟨-, hold⟩ | ⟨-, y, -, rfl⟩
    · exact Or.inl ⟨x, hold, rfl⟩
    · exact Or.inr rfl
  · rcases hch d x hd with ⟨-, hold⟩ | ⟨rfl, y, hy, rfl⟩
    · exact Or.inl ⟨x, hold, rfl⟩
    · exact Or.inl ⟨y, hy, rfl⟩

lemma getOrAddPermission_live (a : AddrTables) (addr : IoaAddr) :
    (getOrAddPermission a addr).2.chns = a.chns ∧
    ∀ s x, (getOrAddPermission a addr).2.LivePerm s x →
      a.LivePerm s x ∨ (getOrAddPermission a addr).1 = some s := by
  unfold getOrAddPermission
  cases allocationGetPermission a addr with
  | some r => exact ⟨rfl, fun s x hs => Or.inl hs⟩
  | none =>
    simp only [allocationAddPermission]
    split_ifs
    · exact ⟨rfl, fun s x hs => Or.inl hs⟩
    · refine ⟨rfl, fun s x hs => ?_⟩
      rcases (livePerm_fill_iff a addr).mp hs with ⟨rfl, -⟩ | hold
      · exact Or.inr rfl
      · exact Or.inl hold

/-- The permission `r` gets the lifetime of permissions. -/
def AddrTables.setDeadline (a : AddrTables) (r : PermPtr) : AddrTables :=
  a.touchPerm r (clk.ctime + clk.permissionLifetime)

/-- An update does nothing, or it refreshes the permission, and then a channel of it, if any. -/
lemma AddrTables.Consistent.updatePermission_cases (h : a.Consistent) (peerAddr : IoaAddr)
    {q : Option PermPtr × AddrTables} (hq : getOrAddPermission a peerAddr = q) :
    (q.1 = none ∧ updatePermission clk a peerAddr = (false, q.2)) ∨
    ∃ r info, q.1 = some r ∧ q.2.LivePerm r info ∧
      (peerAddr.IsInet → addrEqNoPort info.addr peerAddr = true) ∧
      (updatePermission clk a peerAddr = (true, q.2.setDeadline clk r) ∨
        ∃ c chn, addrGetPort peerAddr ≠ 0 ∧ (q.2.setDeadline clk r).LiveCh c chn ∧
          updatePermission clk a peerAddr =
            updateChannelLifetime clk (q.2.setDeadline clk r) c) := by
  subst hq
  have hmoves : RequestMoves clk (fun _ => True) a (getOrAddPermission a peerAddr).2 :=
    h.getOrAddPermission_moves clk trivial
  unfold updatePermission
  rcases hfound : getOrAddPermission a peerAddr with ⟨_ | r, a₁⟩ <;> rw [hfound] at hmoves
  · exact Or.inl ⟨rfl, rfl⟩
  right
  have h₁ := hmoves.consistent h
  obtain ⟨info, hr, hip, -⟩ := livePerm_getOrAddPermission (a := a) (by rw [hfound])
  rw [hfound] at hr
  have htouch : (a₁.setDeadline clk r).Consistent := RequestMoves.consistent (P := fun _ => True)
    (ReflTransGen.single (RequestMove.touchPerm a₁ r clk.permissionLifetime (Or.inl rfl))) h₁
  have hr' : (a₁.setDeadline clk r).LivePerm r
      { info with expirationTime := clk.ctime + clk.permissionLifetime } := by
    refine ⟨?_, hr.2⟩
    rw [setDeadline, SlotTable.get?_modify_self, hr.1]
    rfl
  have hupd : updateTurnPermissionLifetime clk a₁ r 0 = (true, a₁.setDeadline clk r) := by
    rw [h₁.updateTurnPermissionLifetime_eq clk hr 0, if_pos rfl]
    rfl
  refine ⟨r, info, rfl, hr, hip, ?_⟩
  simp only [hupd]
  split
  · exact Or.inl rfl
  · next c hc =>
    right
    obtain ⟨x, hx, hget⟩ := bind_eq_some_iff.mp hc
    obtain rfl := mem_unique hr'.1 hx
    have hholds := (htouch.getTurnChannel_eq_some_iff hr').mp hget
    obtain ⟨chn, hch, -, -⟩ := htouch.perm_entry r _ hr' _ c hholds
    refine ⟨c, chn, fun hport => hholds.1 ?_, hch, rfl⟩
    rw [hport]
    rfl

lemma AddrTables.Consistent.updatePermission_refreshed (h : a.Consistent) (peerAddr : IoaAddr) :
    a.Refreshed clk Q (updatePermission clk a peerAddr).2 := by
  have hmoves : RequestMoves clk (fun _ => True) a (getOrAddPermission a peerAddr).2 :=
    h.getOrAddPermission_moves clk trivial
  obtain ⟨hchns, hlive⟩ := getOrAddPermission_live a peerAddr
  rcases h.updatePermission_cases clk peerAddr rfl with
    ⟨hnone, heq⟩ | ⟨r, info, hsome, hr, -, hcases⟩
  · rw [heq]
    refine ⟨fun s x hs => ?_, fun d x hd => ?_, fun d x hd => ?_⟩
    · refine Or.inl ⟨x, (hlive s x hs).resolve_right fun h => ?_, rfl⟩
      exact absurd (hnone.symm.trans h) (by simp)
    · exact Or.inl ⟨x, ⟨hchns ▸ hd.1, hd.2⟩, rfl⟩
    · exact Or.inl ⟨x, ⟨hchns ▸ hd.1, hd.2⟩, rfl⟩
  · generalize (getOrAddPermission a peerAddr).2 = a₁ at *
    have h₁ := hmoves.consistent h
    have htouch : (a₁.setDeadline clk r).Consistent := RequestMoves.consistent (P := fun _ => True)
      (ReflTransGen.single (RequestMove.touchPerm a₁ r clk.permissionLifetime (Or.inl rfl))) h₁
    -- the permission has its deadline now, also when it is new
    have hset : a.Refreshed clk Q (a₁.setDeadline clk r) := by
      refine ⟨fun s x hs => ?_, fun d x hd => ?_, fun d x hd => ?_⟩
      · rcases SlotTable.get?_modify_eq_some hs.1 with ⟨-, y, -, rfl⟩ | ⟨hne, hold⟩
        · exact Or.inr (Or.inl rfl)
        · refine Or.inl ⟨x, (hlive s x ⟨hold, hs.2⟩).resolve_right fun h => ?_, rfl⟩
          exact hne (mem_unique hsome h).symm
      · exact Or.inl ⟨x, ⟨hchns ▸ hd.1, hd.2⟩, rfl⟩
      · exact Or.inl ⟨x, ⟨hchns ▸ hd.1, hd.2⟩, rfl⟩
    rcases hcases with heq | ⟨c, chn, -, hch, heq⟩
    · rw [heq]
      exact hset
    · rw [heq]
      exact hset.trans (htouch.updateChannelLifetime_refreshed clk hch)

lemma AddrTables.Consistent.updatePermission_permits (h : a.Consistent)
    (hinet : peerAddr.IsInet) (hok : (updatePermission clk a peerAddr).1 = true) :
    (updatePermission clk a peerAddr).2.Permits peerAddr := by
  have hmoves : RequestMoves clk (fun _ => True) a (getOrAddPermission a peerAddr).2 :=
    h.getOrAddPermission_moves clk trivial
  rcases h.updatePermission_cases clk peerAddr rfl with
    ⟨-, heq⟩ | ⟨r, info, -, hr, hip, hcases⟩
  · rw [heq] at hok
    exact absurd hok (by simp)
  · generalize (getOrAddPermission a peerAddr).2 = a₁ at *
    have htouch : RequestMoves clk (fun _ => True) a₁ (a₁.setDeadline clk r) :=
      ReflTransGen.single (RequestMove.touchPerm a₁ r clk.permissionLifetime (Or.inl rfl))
    have hpermits := htouch.permits ⟨r, info, hr, hip hinet⟩
    rcases hcases with heq | ⟨c, chn, -, hch, heq⟩
    · rw [heq]
      exact hpermits
    · rw [heq]
      have h₂ := htouch.consistent (hmoves.consistent h)
      exact (h₂.updateChannelLifetime_moves (P := fun _ => True) clk hch).2.permits hpermits

lemma AddrTables.Consistent.refreshChannel_live (h : a.Consistent) {chn : ChInfo}
    (hc : a.LiveCh c chn) :
    (refreshChannel clk a c).1 = none ∧
    (refreshChannel clk a c).2 = (updateChannelLifetime clk a c).2 ∧
    ∃ t, (refreshChannel clk a c).2.LiveCh c { chn with expirationTime := t } := by
  obtain ⟨r, info, howner, hr, -, -⟩ := h.ch_owner c chn hc
  have howner' : (a.chns.get? c).bind ChInfo.owner = some r := by rw [hc.1]; exact howner
  have heq := h.updateTurnPermissionLifetime_eq clk hr clk.channelLifetime
  unfold refreshChannel updateChannelLifetime
  simp only [howner', heq]
  refine ⟨trivial, trivial, clk.ctime + clk.channelLifetime, ?_, hc.2⟩
  rw [SlotTable.get?_modify_self, hc.1]
  rfl

lemma getOrAddPermission_eq_of_none (hnone : (getOrAddPermission a addr).1 = none)
    (ha : (getOrAddPermission a addr).2 = a') : a' = a := by
  unfold getOrAddPermission at hnone ha
  cases hget : allocationGetPermission a addr with
  | some r =>
    rw [hget] at hnone
    exact absurd hnone (by simp)
  | none =>
    simp only [hget, allocationAddPermission] at hnone ha
    split_ifs at hnone ha
    exact ha.symm

lemma liveCh_allocationGetNewChInfo (h : a.Consistent) {chnum : UInt16}
    (hnew : allocationGetNewChInfo a chnum peerAddr = (some c, a')) :
    ∃ r, a'.LiveCh c (newChInfo r chnum peerAddr) ∧
      (∀ s x, a'.LivePerm s x → s = r ∨ a.LivePerm s x) ∧
      ∀ d y, a'.LiveCh d y → d = c ∨ a.LiveCh d y := by
  have hmoves : RequestMoves ⟨0, 0, 0⟩ (fun _ => True) a (getOrAddPermission a peerAddr).2 :=
    h.getOrAddPermission_moves ⟨0, 0, 0⟩ trivial
  obtain ⟨hchns, hlive⟩ := getOrAddPermission_live a peerAddr
  unfold allocationGetNewChInfo at hnew
  rcases hadd : getOrAddPermission a peerAddr with ⟨_ | r, a₁⟩ <;>
    rw [hadd] at hnew hmoves hchns hlive
  · exact absurd (congrArg Prod.fst hnew) (by simp)
  obtain ⟨info, hr, -, -⟩ := livePerm_getOrAddPermission (a := a) (by rw [hadd])
  rw [hadd] at hr
  have h₁ : a₁.Consistent := RequestMoves.consistent hmoves h
  simp only [Prod.mk.injEq, some_inj] at hnew
  obtain ⟨rfl, rfl⟩ := hnew
  refine ⟨r, h₁.liveCh_addChInfo_iff.mpr (Or.inl ⟨rfl, rfl⟩), fun s x hs => ?_, fun d y hd => ?_⟩
  · rcases (livePerm_addChInfo_iff hr).mp hs with ⟨rfl, -⟩ | ⟨-, hold⟩
    · exact Or.inl rfl
    · rcases hlive s x hold with hold | hnew
      · exact Or.inr hold
      · exact Or.inl (Option.some.inj hnew).symm
  · rcases h₁.liveCh_addChInfo_iff.mp hd with ⟨rfl, -⟩ | hold
    · exact Or.inl rfl
    · exact Or.inr ⟨hchns ▸ hold.1, hold.2⟩

/-- The row of the address has a slot that is not in use. -/
def AddrTables.HasFreeSlot (a : AddrTables) (addr : IoaAddr) : Prop :=
  (a.addrToPerm.find? (permIndex addr) fun info => !info.allocated).isSome = true
  deriving Decidable

/-- There is a permission for the address, or room for one. -/
def AddrTables.HasRoom (a : AddrTables) (addr : IoaAddr) : Prop :=
  (allocationGetPermission a addr).isSome = true ∨ a.HasFreeSlot addr ∨
    allocationCountPermissions a < turnMaxPermissionsPerAllocation
  deriving Decidable

lemma getOrAddPermission_isSome_iff :
    (getOrAddPermission a addr).1.isSome = true ↔ a.HasRoom addr := by
  unfold getOrAddPermission HasRoom HasFreeSlot
  cases allocationGetPermission a addr with
  | some r => simp
  | none =>
    simp only [allocationAddPermission]
    split_ifs with hfull
    · simp_all
    · simp only [Bool.and_eq_true, decide_eq_true_eq, not_and_or, not_le] at hfull
      simpa [isSome_iff_ne_none] using hfull

lemma allocationGetNewChInfo_isSome (chnum : UInt16) :
    (allocationGetNewChInfo a chnum peerAddr).1.isSome =
      (getOrAddPermission a peerAddr).1.isSome := by
  unfold allocationGetNewChInfo
  rcases getOrAddPermission a peerAddr with ⟨_ | r, a₂⟩ <;> rfl

/-- What a ChannelBind is checked for: its number is that of a channel to the peer, or neither of
them is bound, the filter accepts the peer, and it has a permission or room for one. -/
def AddrTables.Binds (goodPeer : IoaAddr → Bool) (a : AddrTables) (chnum : UInt16)
    (peerAddr : IoaAddr) : Prop :=
  stunValidChannel chnum = true ∧ addrAny peerAddr = false ∧
    (∀ c ∈ allocationGetChInfo a chnum, ∀ chn ∈ a.chns.get? c, chn.peerAddr = peerAddr) ∧
    (allocationGetChInfo a chnum = none → allocationGetChInfoByPeerAddr a peerAddr = none ∧
      goodPeer peerAddr = true ∧ a.HasRoom peerAddr)
  deriving Decidable

lemma peerAddr_of_checkBoundChannel {chn : ChInfo} (h : checkBoundChannel a chn peerAddr = none) :
    chn.peerAddr = peerAddr := by
  by_contra hne
  have hfalse : addrEq peerAddr chn.peerAddr = false :=
    Bool.eq_false_iff.mpr fun heq => hne (addrEq_iff_eq.mp heq).2.symm
  simp [checkBoundChannel, hfalse] at h

lemma AddrTables.Consistent.checkBoundChannel_self (h : a.Consistent) {chn : ChInfo}
    (hc : a.LiveCh c chn) : checkBoundChannel a chn chn.peerAddr = none := by
  obtain ⟨r, info, howner, hr, haddr, -⟩ := h.ch_owner c chn hc
  have haddr' := addrEqNoPort_symm haddr
  have heq := addrEq_iff_eq.mpr ⟨(addrEqNoPort_iff.mp haddr').1, rfl⟩
  simp [checkBoundChannel, heq, howner, hr.1, haddr', h.ch_port c chn hc]

lemma binds_of_bindChannel {goodPeer : IoaAddr → Bool} {chnum : UInt16}
    (hok : (bindChannel clk goodPeer a chnum peerAddr addrFound).1 = none) :
    addrFound = true ∧ a.Binds goodPeer chnum peerAddr := by
  unfold bindChannel at hok
  by_cases hbad : (chnum == 0 || addrAny peerAddr || !addrFound) = true
  · rw [if_pos hbad] at hok
    cases hok
  rw [if_neg hbad] at hok
  by_cases hinvalid : (!stunValidChannel chnum) = true
  · rw [if_pos hinvalid] at hok
    cases hok
  rw [if_neg hinvalid] at hok
  simp only [Bool.or_eq_true, Bool.not_eq_true', not_or, Bool.not_eq_true, Bool.not_eq_false]
    at hbad hinvalid
  refine ⟨hbad.2, hinvalid, hbad.1.2, fun c hc chn hchn => ?_, fun hnone => ?_⟩
  · rw [mem_def.mp hc] at hok
    simp only [mem_def.mp hchn, bind_some] at hok
    split at hok
    · cases hok
    · next hcheck => exact peerAddr_of_checkBoundChannel hcheck
  · rw [hnone] at hok
    simp only at hok
    split at hok
    · cases hok
    next hpeer =>
    split at hok
    · cases hok
    next hgood =>
    refine ⟨by simpa using hpeer, by simpa using hgood, ?_⟩
    rw [← getOrAddPermission_isSome_iff, ← allocationGetNewChInfo_isSome chnum]
    split at hok
    · cases hok
    · next hnew => rw [hnew]; rfl

/-- A ChannelBind that does not pass its checks fails; others refresh the channel of their number
and their peer. -/
lemma AddrTables.Consistent.bindChannel_cases (h : a.Consistent) (goodPeer : IoaAddr → Bool)
    (chnum : UInt16) (peerAddr : IoaAddr) (hport : addrFound = true → addrGetPort peerAddr ≠ 0) :
    (¬ (addrFound = true ∧ a.Binds goodPeer chnum peerAddr) ∧
      ∃ e, bindChannel clk goodPeer a chnum peerAddr addrFound = (some e, a)) ∨
    ∃ a₁ c chn, bindChannel clk goodPeer a chnum peerAddr addrFound =
        (none, (updateChannelLifetime clk a₁ c).2) ∧
      a₁.Consistent ∧ a₁.LiveCh c chn ∧ chn.chnum = chnum ∧ chn.peerAddr = peerAddr ∧
      ((a₁ = a ∧ allocationGetChInfo a chnum = some c) ∨
        (allocationGetChInfo a chnum = none ∧
          allocationGetNewChInfo a chnum peerAddr = (some c, a₁))) := by
  unfold bindChannel
  by_cases hbad : (chnum == 0 || addrAny peerAddr || !addrFound) = true
  · rw [if_pos hbad]
    refine Or.inl ⟨?_, _, rfl⟩
    rintro ⟨rfl, hvalid, hany, -⟩
    obtain rfl : chnum = 0 := by simpa [hany] using hbad
    cases hvalid
  rw [if_neg hbad]
  by_cases hinvalid : (!stunValidChannel chnum) = true
  · rw [if_pos hinvalid]
    exact Or.inl ⟨fun hbinds => by simp [hbinds.2.1] at hinvalid, _, rfl⟩
  rw [if_neg hinvalid]
  cases hnum : allocationGetChInfo a chnum with
  | some c =>
    obtain ⟨chn, hc, hchnum⟩ := liveCh_of_allocationGetChInfo hnum
    obtain ⟨hok, htables, -⟩ := h.refreshChannel_live clk hc
    simp only [hc.1, bind_some]
    cases hcheck : checkBoundChannel a chn peerAddr with
    | some e =>
      refine Or.inl ⟨?_, e, rfl⟩
      rintro ⟨-, -, -, hbound, -⟩
      rw [← hbound c hnum chn hc.1, h.checkBoundChannel_self hc] at hcheck
      cases hcheck
    | none =>
      exact Or.inr ⟨a, c, chn, Prod.ext hok htables, h, hc, hchnum,
        peerAddr_of_checkBoundChannel hcheck, Or.inl ⟨rfl, rfl⟩⟩
  | none =>
    simp only
    split_ifs with hpeer hgood
    · exact Or.inl ⟨fun hbinds => by simp [(hbinds.2.2.2.2 hnum).1] at hpeer, _, rfl⟩
    · exact Or.inl ⟨fun hbinds => by simp [(hbinds.2.2.2.2 hnum).2.1] at hgood, _, rfl⟩
    have hfound : addrFound = true := by
      simp only [Bool.or_eq_true, Bool.not_eq_true', not_or, Bool.not_eq_false] at hbad
      exact hbad.2
    obtain ⟨hmoves, -⟩ := h.getNewChInfo_moves clk (P := fun _ => True) trivial
      (by simpa using hinvalid) (hport hfound) hnum (by simpa using hpeer)
    have hroom := @allocationGetNewChInfo_isSome a peerAddr chnum
    rcases hnew : allocationGetNewChInfo a chnum peerAddr with ⟨_ | c, a₁⟩ <;>
      rw [hnew] at hroom
    · -- there was no room for the permission
      have hnone : (getOrAddPermission a peerAddr).1 = none := by simpa using hroom.symm
      refine Or.inl ⟨?_, _, Prod.ext rfl ?_⟩
      · rintro ⟨-, -, -, -, hbinds⟩
        have hsome := getOrAddPermission_isSome_iff.mpr (hbinds hnum).2.2
        rw [hnone] at hsome
        cases hsome
      · unfold allocationGetNewChInfo at hnew
        rcases hadd : getOrAddPermission a peerAddr with ⟨_ | r, a₂⟩ <;> rw [hadd] at hnew hnone
        · obtain rfl : a₂ = a₁ := congrArg Prod.snd hnew
          exact getOrAddPermission_eq_of_none (by rw [hadd]) (by rw [hadd])
        · cases hnone
    · rw [hnew] at hmoves
      have h₁ := hmoves.consistent h
      obtain ⟨r, hlive, -, -⟩ := liveCh_allocationGetNewChInfo h hnew
      obtain ⟨hok, htables, -⟩ := h₁.refreshChannel_live clk hlive
      refine Or.inr ⟨a₁, c, _, ?_, h₁, hlive, rfl, rfl, Or.inr ⟨trivial, rfl⟩⟩
      simp only [hlive.1, bind_some, newChInfo]
      exact Prod.ext hok htables

/-- A ChannelBind is not refused exactly when it passes its checks. -/
lemma AddrTables.Consistent.bindChannel_eq_none_iff (h : a.Consistent) {goodPeer : IoaAddr → Bool}
    {chnum : UInt16} (hport : addrFound = true → addrGetPort peerAddr ≠ 0) :
    (bindChannel clk goodPeer a chnum peerAddr addrFound).1 = none ↔
      addrFound = true ∧ a.Binds goodPeer chnum peerAddr := by
  refine ⟨binds_of_bindChannel clk, fun hbinds => ?_⟩
  rcases h.bindChannel_cases clk goodPeer chnum peerAddr hport with
    ⟨hnot, -⟩ | ⟨_, _, _, heq, -⟩
  · exact absurd hbinds hnot
  · rw [heq]

lemma AddrTables.Consistent.bindChannel_refreshed (h : a.Consistent) (goodPeer : IoaAddr → Bool)
    (chnum : UInt16) (peerAddr : IoaAddr) (hport : addrFound = true → addrGetPort peerAddr ≠ 0) :
    a.Refreshed clk (· = peerAddr) (bindChannel clk goodPeer a chnum peerAddr addrFound).2 := by
  rcases h.bindChannel_cases clk goodPeer chnum peerAddr hport with
    ⟨-, e, heq⟩ | ⟨a₁, c, chn, heq, h₁, hc, -, hpeer, ⟨rfl, -⟩ | ⟨-, hnew⟩⟩
  · rw [heq]
    exact AddrTables.Refreshed.refl a
  · rw [heq]
    exact h₁.updateChannelLifetime_refreshed clk hc
  rw [heq]
  -- the new channel and its permission, which may be new, get their deadlines
  obtain ⟨r, hlive, hperms, hchs⟩ := liveCh_allocationGetNewChInfo h hnew
  have howner : (a₁.chns.get? c).bind ChInfo.owner = some r := by rw [hlive.1]; rfl
  obtain ⟨hperm, hch⟩ := updateChannelLifetime_live clk howner
    (h₁.updateChannelLifetime_moves (P := fun _ => True) clk hlive).1
  refine ⟨fun s x hs => ?_, fun d x hd => ?_, fun d x hd => ?_⟩
  · rcases hperm s x hs with ⟨hne, hold⟩ | htime
    · exact Or.inl ⟨x, (hperms s x hold).resolve_left hne, rfl⟩
    · exact Or.inr (Or.inr htime)
  · rcases hch d x hd with ⟨hne, hold⟩ | ⟨-, y, -, rfl⟩
    · exact Or.inl ⟨x, (hchs d x hold).resolve_left hne, rfl⟩
    · exact Or.inr rfl
  · rcases hch d x hd with ⟨hne, hold⟩ | ⟨rfl, y, hy, rfl⟩
    · exact Or.inl ⟨x, (hchs d x hold).resolve_left hne, rfl⟩
    · rw [hy.unique hc]
      exact Or.inr hpeer

lemma AddrTables.Consistent.bindChannel_permits (h : a.Consistent) (goodPeer : IoaAddr → Bool)
    (chnum : UInt16) (peerAddr : IoaAddr) (hport : addrFound = true → addrGetPort peerAddr ≠ 0)
    (hok : (bindChannel clk goodPeer a chnum peerAddr addrFound).1 = none) :
    (bindChannel clk goodPeer a chnum peerAddr addrFound).2.Permits peerAddr := by
  rcases h.bindChannel_cases clk goodPeer chnum peerAddr hport with
    ⟨-, e, heq⟩ | ⟨a₁, c, chn, heq, h₁, hc, -, rfl, -⟩
  · rw [heq] at hok
    exact absurd hok (by simp)
  · rw [heq]
    obtain ⟨r, info, -, hr, haddr, -⟩ := h₁.ch_owner c chn hc
    exact (h₁.updateChannelLifetime_moves (P := fun _ => True) clk hc).2.permits ⟨r, info, hr, haddr⟩

end Requests

/-! ## Requests -/

/-- Moves that add permissions with `P` only and channels to peers with `Q` only, and new deadlines
for all that is added. -/
structure AddrTables.Request (clk : ServerClock) (P Q : IoaAddr → Prop) (a a' : AddrTables) :
    Prop where
  moves : RequestMoves clk P a a'
  refreshed : a.Refreshed clk Q a'

namespace AddrTables.Request

lemma refl (a : AddrTables) : a.Request clk P Q a := ⟨ReflTransGen.refl, .refl a⟩

lemma trans (h : a.Request clk P Q a') (h' : a'.Request clk P Q a'') : a.Request clk P Q a'' :=
  ⟨h.moves.trans h'.moves, h.refreshed.trans h'.refreshed⟩

lemma mono {P' Q' : IoaAddr → Prop} (h : a.Request clk P Q a') (hP : ∀ addr, P addr → P' addr)
    (hQ : ∀ addr, Q addr → Q' addr) : a.Request clk P' Q' a' :=
  ⟨h.moves.mono hP, h.refreshed.mono hQ⟩

end AddrTables.Request

/-! ## The sweep -/

/-- The permissions of `S` are gone with their channels, and so are the channels of `T`; everything
else is as it was. -/
structure AddrTables.Removes (S : PermPtr → Prop) (T : ChPtr → Prop) (a a' : AddrTables) :
    Prop where
  perm : ∀ r info', a'.LivePerm r info' → ¬ S r ∧
    ∃ chns, a.LivePerm r { info' with chns := chns }
  perm_stays : ∀ r info, a.LivePerm r info → ¬ S r →
    ∃ chns, a'.LivePerm r { info with chns := chns }
  ch : ∀ c chn, a'.LiveCh c chn ↔
    a.LiveCh c chn ∧ ¬ T c ∧ ∀ r, chn.owner = some r → ¬ S r

namespace AddrTables.Removes

variable {S S' : PermPtr → Prop} {T T' : ChPtr → Prop}

lemma trans (h : a.Removes S T a') (h' : a'.Removes S' T' a'') :
    a.Removes (fun r => S r ∨ S' r) (fun c => T c ∨ T' c) a'' where
  perm r info hr := by
    obtain ⟨hS', chns, hr'⟩ := h'.perm r info hr
    obtain ⟨hS, chns', hr''⟩ := h.perm r _ hr'
    exact ⟨not_or.mpr ⟨hS, hS'⟩, chns', hr''⟩
  perm_stays r info hr hS := by
    obtain ⟨chns, hr'⟩ := h.perm_stays r info hr fun h => hS (Or.inl h)
    obtain ⟨chns', hr''⟩ := h'.perm_stays r _ hr' fun h => hS (Or.inr h)
    exact ⟨chns', hr''⟩
  ch c chn := by
    rw [h'.ch, h.ch]
    constructor
    · rintro ⟨⟨hc, hT, hS⟩, hT', hS'⟩
      exact ⟨hc, not_or.mpr ⟨hT, hT'⟩, fun r hr => not_or.mpr ⟨hS r hr, hS' r hr⟩⟩
    · rintro ⟨hc, hT, hS⟩
      exact ⟨⟨hc, (not_or.mp hT).1, fun r hr => (not_or.mp (hS r hr)).1⟩, (not_or.mp hT).2,
        fun r hr => (not_or.mp (hS r hr)).2⟩

lemma congr (h : a.Removes S T a') (hS : ∀ r, S r ↔ S' r) (hT : ∀ c, T c ↔ T' c) :
    a.Removes S' T' a' := by
  obtain rfl : S = S' := funext fun r => propext (hS r)
  obtain rfl : T = T' := funext fun c => propext (hT c)
  exact h

lemma refl (a : AddrTables) : a.Removes (fun _ => False) (fun _ => False) a where
  perm _ info hr := ⟨id, info.chns, hr⟩
  perm_stays _ info hr _ := ⟨info.chns, hr⟩
  ch _ _ := ⟨fun hc => ⟨hc, id, fun _ _ => id⟩, And.left⟩

end AddrTables.Removes

/-- The deadline of the permission has passed. -/
def AddrTables.OverduePerm (ctime : UInt32) (a : AddrTables) (r : PermPtr) : Prop :=
  ∃ info, a.LivePerm r info ∧ turnTimeBefore info.expirationTime ctime = true

/-- The deadline of the channel has passed. -/
def AddrTables.OverdueCh (ctime : UInt32) (a : AddrTables) (c : ChPtr) : Prop :=
  ∃ chn, a.LiveCh c chn ∧ turnTimeBefore chn.expirationTime ctime = true

section Sweep

variable (ctime : UInt32)

lemma AddrTables.Consistent.sweepPermission_removes (h : a.Consistent) (r : PermPtr) :
    a.Removes (fun s => s = r ∧ a.OverduePerm ctime s) (fun _ => False)
      (sweepPermission ctime a r) := by
  unfold sweepPermission
  split_ifs with hexp
  · obtain ⟨info, hget, hcond⟩ := (any_eq_true _ _).mp hexp
    rw [Bool.and_eq_true] at hcond
    have hr : a.LivePerm r info := ⟨hget, hcond.1⟩
    have hset : ∀ s, s = r ∧ a.OverduePerm ctime s ↔ s = r := by
      intro s
      refine and_iff_left_of_imp ?_
      rintro rfl
      exact ⟨info, hr, hcond.2⟩
    refine Removes.congr (S := (· = r)) (T := fun _ => False) ?_ (fun s => (hset s).symm)
      fun _ => Iff.rfl
    refine ⟨fun s x hs => ?_, fun s x hs hne => ?_, fun c chn => ?_⟩
    · obtain ⟨hne, hold⟩ := (livePerm_turnPermissionClean_iff hr).mp hs
      exact ⟨hne, x.chns, hold⟩
    · exact ⟨x.chns, (livePerm_turnPermissionClean_iff hr).mpr ⟨hne, hs⟩⟩
    · rw [clientSsPermTimeoutHandler, h.liveCh_turnPermissionClean_iff hr]
      refine and_congr_right fun _ => ?_
      constructor
      · rintro hne
        exact ⟨id, fun s hs heq => hne (heq ▸ hs)⟩
      · rintro ⟨-, hall⟩ howner
        exact hall r howner rfl
  · refine (Removes.refl a).congr (fun s => ?_) fun _ => Iff.rfl
    refine ⟨False.elim, ?_⟩
    rintro ⟨rfl, info, hr, hbefore⟩
    exact hexp ((any_eq_true _ _).mpr ⟨info, hr.1, by simp [hr.2, hbefore]⟩)

lemma AddrTables.Consistent.sweepChannel_removes (h : a.Consistent) (c : ChPtr) :
    a.Removes (fun _ => False) (fun d => d = c ∧ a.OverdueCh ctime d)
      (sweepChannel ctime a c) := by
  unfold sweepChannel
  split_ifs with hexp
  · obtain ⟨chn, hget, hcond⟩ := (any_eq_true _ _).mp hexp
    rw [Bool.and_eq_true] at hcond
    have hc : a.LiveCh c chn := ⟨hget, hcond.1⟩
    obtain ⟨r, info, howner, hr, -, -⟩ := h.ch_owner c chn hc
    have hset : ∀ d, d = c ∧ a.OverdueCh ctime d ↔ d = c := by
      intro d
      refine and_iff_left_of_imp ?_
      rintro rfl
      exact ⟨chn, hc, hcond.2⟩
    refine Removes.congr (S := fun _ => False) (T := (· = c)) ?_ (fun _ => Iff.rfl)
      fun d => (hset d).symm
    refine ⟨fun s x hs => ⟨id, ?_⟩, fun s x hs _ => ?_, fun d x => ?_⟩
    · rcases (livePerm_turnChannelDelete_iff hc howner hr).mp hs with ⟨rfl, rfl⟩ | ⟨-, hold⟩
      · exact ⟨info.chns, hr⟩
      · exact ⟨x.chns, hold⟩
    · by_cases hsr : s = r
      · subst hsr
        obtain rfl := hs.unique hr
        exact ⟨_, (livePerm_turnChannelDelete_iff hc howner hr).mpr (Or.inl ⟨rfl, rfl⟩)⟩
      · exact ⟨x.chns, (livePerm_turnChannelDelete_iff hc howner hr).mpr (Or.inr ⟨hsr, hs⟩)⟩
    · rw [clientSsChannelTimeoutHandler, liveCh_turnChannelDelete_iff hc]
      constructor
      · rintro ⟨hne, hold⟩
        exact ⟨hold, hne, fun _ _ => id⟩
      · rintro ⟨hold, hne, -⟩
        exact ⟨hne, hold⟩
  · refine (Removes.refl a).congr (fun _ => Iff.rfl) fun d => ?_
    refine ⟨False.elim, ?_⟩
    rintro ⟨rfl, chn, hc, hbefore⟩
    exact hexp ((any_eq_true _ _).mpr ⟨chn, hc.1, by simp [hc.2, hbefore]⟩)

/-- What is overdue is removed; that does not change what is overdue elsewhere. -/
lemma AddrTables.Consistent.foldl_sweepPermission_removes (h : a.Consistent)
    (places : List PermPtr) :
    a.Removes (fun r => r ∈ places ∧ a.OverduePerm ctime r) (fun _ => False)
      (places.foldl (sweepPermission ctime) a) := by
  induction places generalizing a with
  | nil => exact (Removes.refl a).congr (by simp) (by simp)
  | cons r places ih =>
    have hstep := h.sweepPermission_removes ctime r
    have hrest := ih ((sweepPermission_moves ctime a r).consistent h)
    refine (hstep.trans hrest).congr (fun s => ?_) (by simp)
    constructor
    · rintro (⟨rfl, hover⟩ | ⟨hmem, info, hs, hbefore⟩)
      · exact ⟨List.mem_cons_self, hover⟩
      · obtain ⟨-, chns, hold⟩ := hstep.perm s info hs
        exact ⟨List.mem_cons_of_mem r hmem, _, hold, hbefore⟩
    · rintro ⟨hmem, info, hs, hbefore⟩
      by_cases hsr : s = r
      · exact Or.inl ⟨hsr, info, hs, hbefore⟩
      · obtain ⟨chns, hs'⟩ := hstep.perm_stays s info hs fun h => hsr h.1
        exact Or.inr ⟨(List.mem_cons.mp hmem).resolve_left hsr, _, hs', hbefore⟩

lemma AddrTables.Consistent.foldl_sweepChannel_removes (h : a.Consistent) (places : List ChPtr) :
    a.Removes (fun _ => False) (fun c => c ∈ places ∧ a.OverdueCh ctime c)
      (places.foldl (sweepChannel ctime) a) := by
  induction places generalizing a with
  | nil => exact (Removes.refl a).congr (by simp) (by simp)
  | cons c places ih =>
    have hstep := h.sweepChannel_removes ctime c
    have hrest := ih ((sweepChannel_moves ctime a c).consistent h)
    refine (hstep.trans hrest).congr (by simp) fun d => ?_
    constructor
    · rintro (⟨rfl, hover⟩ | ⟨hmem, chn, hd, hbefore⟩)
      · exact ⟨List.mem_cons_self, hover⟩
      · exact ⟨List.mem_cons_of_mem c hmem, chn, ((hstep.ch d chn).mp hd).1, hbefore⟩
    · rintro ⟨hmem, chn, hd, hbefore⟩
      by_cases hdc : d = c
      · exact Or.inl ⟨hdc, chn, hd, hbefore⟩
      · refine Or.inr ⟨(List.mem_cons.mp hmem).resolve_left hdc, chn, ?_, hbefore⟩
        exact (hstep.ch d chn).mpr ⟨hd, fun h => hdc h.1, fun _ _ => id⟩

/-- The sweep removes exactly what is overdue, and the channels of permissions that are overdue. -/
theorem AddrTables.Consistent.sweepAllocationTimedEvents_removes (h : a.Consistent) :
    a.Removes (a.OverduePerm ctime) (a.OverdueCh ctime) (sweepAllocationTimedEvents ctime a) := by
  have hperms := h.foldl_sweepPermission_removes ctime a.addrToPerm.places
  unfold sweepAllocationTimedEvents
  simp only
  have h₁ : (a.addrToPerm.places.foldl (sweepPermission ctime) a).Consistent :=
    ExpiryMoves.consistent (foldl_moves (sweepPermission_moves ctime) a.addrToPerm.places a) h
  generalize a.addrToPerm.places.foldl (sweepPermission ctime) a = a₁ at hperms h₁ ⊢
  have hchs := h₁.foldl_sweepChannel_removes ctime a₁.chns.places
  have hall := hperms.trans hchs
  refine ⟨fun r info hr => ?_, fun r info hr hS => ?_, fun c chn => ?_⟩
  · obtain ⟨hS, chns, hold⟩ := hall.perm r info hr
    refine ⟨fun hover => hS (Or.inl ⟨?_, hover⟩), chns, hold⟩
    exact SlotTable.mem_places_of_get? hold.1
  · refine hall.perm_stays r info hr ?_
    rintro (hover | hfalse)
    · exact hS hover.2
    · exact hfalse
  · rw [hall.ch]
    refine and_congr_right fun hc => ?_
    constructor
    · rintro ⟨hT, hS⟩
      refine ⟨?_, fun r howner hover => ?_⟩
      · rintro ⟨x, hx, hbefore⟩
        obtain rfl := hc.unique hx
        -- the channel is still there after the first loop
        have hc₁ : a₁.LiveCh c chn := by
          refine (hperms.ch c chn).mpr ⟨hc, id, fun r howner hr => hS r howner (Or.inl hr)⟩
        exact hT (Or.inr ⟨SlotTable.mem_places_of_get? hc₁.1, chn, hc₁, hbefore⟩)
      · obtain ⟨info, hr, -⟩ := id hover
        exact hS r howner (Or.inl ⟨SlotTable.mem_places_of_get? hr.1, hover⟩)
    · rintro ⟨hT, hS⟩
      refine ⟨?_, fun r howner => ?_⟩
      · rintro (hfalse | ⟨-, x, hx, hbefore⟩)
        · exact hfalse
        · exact hT ⟨x, ((hperms.ch c x).mp hx).1, hbefore⟩
      · rintro (hover | hfalse)
        · exact hS r howner hover.2
        · exact hfalse

end Sweep

end Coturn
