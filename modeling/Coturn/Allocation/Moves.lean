/-
# The functions of the server as moves on the tables

Each function of the server that changes the permission or channel table is a sequence of
the moves of `Coturn.Allocation.Consistent`. From this the consistency of the tables follows
for any sequence of requests, timeouts and sweeps.
-/
import Coturn.Allocation.Consistent

namespace Coturn

open AddrTables Relation

variable {chnum : UInt16} {addr : IoaAddr} {r : PermPtr} {peerAddr : IoaAddr}
  {info : TurnPermissionInfo}

variable {a a' : AddrTables} {clk : ServerClock} {P : IoaAddr → Prop}

/-- What a request can do. -/
abbrev RequestMoves (clk : ServerClock) (P : IoaAddr → Prop) : AddrTables → AddrTables → Prop :=
  ReflTransGen (RequestMove clk P)

/-- What the timers can do. -/
abbrev ExpiryMoves : AddrTables → AddrTables → Prop := ReflTransGen ExpiryMove

lemma RequestMoves.consistent (hmoves : RequestMoves clk P a a') (h : a.Consistent) :
    a'.Consistent := by
  induction hmoves with
  | refl => exact h
  | tail _ hmove ih => exact hmove.consistent ih

lemma RequestMoves.mono {Q : IoaAddr → Prop} (hmoves : RequestMoves clk P a a')
    (hPQ : ∀ addr, P addr → Q addr) : RequestMoves clk Q a a' := by
  refine ReflTransGen.mono (fun x y hmove => ?_) _ _ hmoves
  cases hmove with
  | addPerm addr haddr hnew => exact .addPerm _ addr (hPQ addr haddr) hnew
  | addCh r info chnum peerAddr hr hip hvalid hnum hport hmap =>
    exact .addCh _ r info chnum peerAddr hr hip hvalid hnum hport hmap
  | touchPerm r timeDelta hdelta => exact .touchPerm _ r timeDelta hdelta
  | touchCh c chn r info hc howner hr htime => exact .touchCh _ c chn r info hc howner hr htime

lemma ExpiryMoves.consistent (hmoves : ExpiryMoves a a') (h : a.Consistent) : a'.Consistent := by
  induction hmoves with
  | refl => exact h
  | tail _ hmove ih => exact hmove.consistent ih

/-! ## Looking up -/

lemma livePerm_of_allocationGetPermission (hget : allocationGetPermission a addr = some r) :
    ∃ info, a.LivePerm r info ∧ addrEqNoPort info.addr addr = true := by
  obtain ⟨-, info, hinfo, hq⟩ := SlotTable.find?_eq_some hget
  rw [Bool.and_eq_true] at hq
  exact ⟨info, ⟨hinfo, hq.1⟩, hq.2⟩

/-- The lookup goes through one row only, but this is where a permission for the IP would be. -/
lemma AddrTables.Consistent.not_livePerm_of_get_none (h : a.Consistent)
    (hget : allocationGetPermission a addr = none) (hr : a.LivePerm r info) :
    addrEqNoPort info.addr addr = false := by
  by_contra heq
  rw [Bool.not_eq_false] at heq
  have hrow : r.1 = permIndex addr := by
    rw [h.perm_row r info hr, permIndex, permIndex, Fin.mk.injEq, addrHashNoPort_eq heq]
  have hnot := SlotTable.find?_eq_none hget hrow hr.1
  simp [hr.2, heq] at hnot

variable {c : ChPtr} {chn : ChInfo}

lemma liveCh_of_allocationGetChInfo (hget : allocationGetChInfo a chnum = some c) :
    ∃ chn, a.LiveCh c chn ∧ chn.chnum = chnum := by
  obtain ⟨-, chn, hchn, hq⟩ := SlotTable.find?_eq_some hget
  rw [Bool.and_eq_true, beq_iff_eq] at hq
  exact ⟨chn, ⟨hchn, hq.1⟩, hq.2⟩

lemma AddrTables.Consistent.chnum_ne_of_get_none (h : a.Consistent)
    (hget : allocationGetChInfo a chnum = none) (hc : a.LiveCh c chn) : chn.chnum ≠ chnum := by
  rintro rfl
  have hnot := SlotTable.find?_eq_none hget (h.ch_row c chn hc) hc.1
  simp [hc.2] at hnot

/-- The port map of a live permission leads to the live channel of the port, which is valid. -/
lemma AddrTables.Consistent.getTurnChannel_eq_some_iff (h : a.Consistent) (hr : a.LivePerm r info) :
    getTurnChannel a info addr = some c ↔ info.chns.Holds (addrGetPort addr).toNat c := by
  rw [getTurnChannel, Option.filter_eq_some_iff, Option.join_eq_some_iff,
    (h.perm_map_wf r info hr).get_eq_some_iff]
  refine ⟨fun hc => hc.1, fun hc => ⟨hc, ?_⟩⟩
  obtain ⟨chn, hchn, -, -⟩ := h.perm_entry r info hr _ c hc
  simp [hchn.1, h.ch_valid c chn hchn]

/-! ## Requests -/

section Requests

variable (clk)

lemma AddrTables.Consistent.getOrAddPermission_moves (h : a.Consistent) (hP : P addr) :
    RequestMoves clk P a (getOrAddPermission a addr).2 := by
  unfold getOrAddPermission
  cases hget : allocationGetPermission a addr with
  | some r => exact ReflTransGen.refl
  | none =>
    simp only [allocationAddPermission]
    split_ifs
    · exact ReflTransGen.refl
    · exact ReflTransGen.single (RequestMove.addPerm a addr hP fun r info hr =>
        h.not_livePerm_of_get_none hget hr)

lemma livePerm_getOrAddPermission (hfound : (getOrAddPermission a addr).1 = some r) :
    ∃ info, (getOrAddPermission a addr).2.LivePerm r info ∧
      (addr.IsInet → addrEqNoPort info.addr addr = true) ∧
      (allocationGetPermission a addr = none → info.chns = lmMapInit) := by
  unfold getOrAddPermission at hfound ⊢
  cases hget : allocationGetPermission a addr with
  | some s =>
    simp only [hget, Option.some_inj] at hfound
    obtain ⟨info, hr, heq⟩ := livePerm_of_allocationGetPermission hget
    subst hfound
    exact ⟨info, hr, fun _ => heq, fun hnone => absurd hnone (by simp)⟩
  | none =>
    simp only [hget, allocationAddPermission] at hfound ⊢
    split_ifs at hfound ⊢
    obtain rfl := Option.some.inj hfound
    exact ⟨.new addr, (livePerm_fill_iff a addr).mpr (Or.inl ⟨rfl, rfl⟩),
      fun hinet => addrEqNoPort_iff.mpr ⟨hinet, rfl⟩, fun _ => rfl⟩

lemma AddrTables.Consistent.updateTurnPermissionLifetime_eq (h : a.Consistent)
    (hr : a.LivePerm r info) (timeDelta : UInt32) :
    updateTurnPermissionLifetime clk a r timeDelta = (true,
      { a with
        addrToPerm := a.addrToPerm.modify r fun info =>
          { info with
            expirationTime := clk.ctime +
              if timeDelta = 0 then clk.permissionLifetime else timeDelta } }) := by
  simp [updateTurnPermissionLifetime, hr.1, h.perm_owned r info hr]

lemma AddrTables.Consistent.updateChannelLifetime_moves (h : a.Consistent) (hc : a.LiveCh c chn) :
    (updateChannelLifetime clk a c).1 = true ∧
      RequestMoves clk P a (updateChannelLifetime clk a c).2 := by
  obtain ⟨r, info, howner, hr, -, -⟩ := h.ch_owner c chn hc
  have howner' : (a.chns.get? c).bind ChInfo.owner = some r := by rw [hc.1]; exact howner
  have heq := h.updateTurnPermissionLifetime_eq clk hr clk.channelLifetime
  simp only [updateChannelLifetime, howner', heq]
  refine ⟨trivial, ReflTransGen.tail (ReflTransGen.single
    (RequestMove.touchPerm a r clk.channelPermLifetime (Or.inr rfl))) ?_⟩
  refine RequestMove.touchCh _ c chn r
    { info with expirationTime := clk.ctime + clk.channelPermLifetime } hc howner ?_ rfl
  exact ⟨by simp [hr.1], hr.2⟩

lemma AddrTables.Consistent.updatePermission_moves (h : a.Consistent) (hP : P peerAddr) :
    RequestMoves clk P a (updatePermission clk a peerAddr).2 := by
  have hfind := h.getOrAddPermission_moves clk hP
  unfold updatePermission
  rcases hfound : getOrAddPermission a peerAddr with ⟨_ | r, a₁⟩
  · rw [hfound] at hfind
    exact hfind
  · obtain ⟨info, hr, -, -⟩ := livePerm_getOrAddPermission (a := a) (by rw [hfound])
    rw [hfound] at hfind hr
    have h₁ : a₁.Consistent := RequestMoves.consistent hfind h
    have htouch : RequestMove clk P a₁ _ := RequestMove.touchPerm a₁ r _ (Or.inl rfl)
    have h₂ := htouch.consistent h₁
    simp only [h₁.updateTurnPermissionLifetime_eq clk hr, if_true]
    have hmoves := hfind.tail htouch
    split
    · exact hmoves
    · next c hc =>
      obtain ⟨info', hget, hchan⟩ := Option.bind_eq_some_iff.mp hc
      have hr' : (a₁.touchPerm r (clk.ctime + clk.permissionLifetime)).LivePerm r info' := by
        refine ⟨hget, ?_⟩
        rcases SlotTable.get?_modify_eq_some hget with ⟨-, x, hx, rfl⟩ | ⟨hne, -⟩
        · obtain rfl : info = x := Option.mem_unique hr.1 hx
          exact hr.2
        · exact absurd rfl hne
      obtain ⟨chn, hchn, -, -⟩ :=
        h₂.perm_entry r info' hr' _ c ((h₂.getTurnChannel_eq_some_iff hr').mp hchan)
      exact hmoves.trans (h₂.updateChannelLifetime_moves clk hchn).2

lemma AddrTables.Consistent.createPermissions_moves (h : a.Consistent) {peers : List IoaAddr}
    (hP : ∀ peer ∈ peers, P (addrSetPort 0 peer)) :
    RequestMoves clk P a (createPermissions clk a peers).2 := by
  induction peers generalizing a with
  | nil => exact ReflTransGen.refl
  | cons peer peers ih =>
    have hmoves := h.updatePermission_moves clk (hP peer List.mem_cons_self)
    exact hmoves.trans
      (ih (hmoves.consistent h) fun p hp => hP p (List.mem_cons_of_mem peer hp))

lemma AddrTables.Consistent.not_holds_of_get_none (h : a.Consistent)
    (hnone : allocationGetChInfoByPeerAddr a peerAddr = none)
    (hget : allocationGetPermission a peerAddr = some r) (hr : a.LivePerm r info) (c : ChPtr) :
    ¬ info.chns.Holds (addrGetPort peerAddr).toNat c := by
  intro hc
  have hsome := (h.getTurnChannel_eq_some_iff hr).mpr hc
  simp [allocationGetChInfoByPeerAddr, hget, hr.1, hsome] at hnone

lemma AddrTables.Consistent.getNewChInfo_moves (h : a.Consistent) (hP : P peerAddr)
    (hvalid : stunValidChannel chnum = true) (hport : addrGetPort peerAddr ≠ 0)
    (hnum : allocationGetChInfo a chnum = none)
    (hpeer : allocationGetChInfoByPeerAddr a peerAddr = none) :
    RequestMoves clk P a (allocationGetNewChInfo a chnum peerAddr).2 ∧
      ∀ c, (allocationGetNewChInfo a chnum peerAddr).1 = some c →
        ∃ chn, (allocationGetNewChInfo a chnum peerAddr).2.LiveCh c chn := by
  have hinet : peerAddr.IsInet := by
    cases peerAddr with
    | unset => exact absurd rfl hport
    | s4 ip port => exact Or.inl rfl
    | s6 ip port => exact Or.inr rfl
  have hfind := h.getOrAddPermission_moves clk hP
  unfold allocationGetNewChInfo
  rcases hfound : getOrAddPermission a peerAddr with ⟨_ | r, a₁⟩
  · rw [hfound] at hfind
    exact ⟨hfind, fun c hc => absurd hc (by simp)⟩
  · obtain ⟨info, hr, hip, hfresh⟩ := livePerm_getOrAddPermission (a := a) (by rw [hfound])
    rw [hfound] at hfind hr
    have h₁ : a₁.Consistent := RequestMoves.consistent hfind h
    -- the channels have not changed yet
    have hchns : a₁.chns = a.chns := by
      have hsame : (getOrAddPermission a peerAddr).2.chns = a.chns := by
        unfold getOrAddPermission
        cases allocationGetPermission a peerAddr with
        | some s => rfl
        | none =>
          simp only [allocationAddPermission]
          split_ifs <;> rfl
      rw [← hsame, hfound]
    have hnum₁ : ∀ c chn, a₁.LiveCh c chn → chn.chnum ≠ chnum := by
      intro c chn hc
      rw [LiveCh, hchns] at hc
      exact h.chnum_ne_of_get_none hnum hc
    have hmap : ∀ c, ¬ info.chns.Holds (addrGetPort peerAddr).toNat c := by
      cases hget : allocationGetPermission a peerAddr with
      | none =>
        rw [hfresh hget]
        exact fun c => lmMapInit_not_holds
      | some s =>
        simp only [getOrAddPermission, hget, Prod.mk.injEq, Option.some_inj] at hfound
        obtain ⟨rfl, rfl⟩ := hfound
        exact h.not_holds_of_get_none hpeer hget hr
    refine ⟨hfind.tail (RequestMove.addCh a₁ r info chnum peerAddr hr (hip hinet) hvalid hnum₁
      hport hmap), fun c hc => ?_⟩
    obtain rfl := Option.some.inj hc
    exact ⟨_, h₁.liveCh_addChInfo_iff.mpr (Or.inl ⟨rfl, rfl⟩)⟩

lemma AddrTables.Consistent.refreshChannel_moves (h : a.Consistent)
    (hc : a.LiveCh c chn) : RequestMoves clk P a (refreshChannel clk a c).2 := by
  obtain ⟨-, hmoves⟩ := h.updateChannelLifetime_moves (P := P) clk hc
  unfold refreshChannel
  rcases hupd : updateChannelLifetime clk a c with ⟨_ | _, a₁⟩ <;>
    rw [hupd] at hmoves <;> exact hmoves

lemma AddrTables.Consistent.bindChannel_moves (h : a.Consistent) {goodPeer : IoaAddr → Bool}
    {addrFound : Bool} (hport : addrFound = true → addrGetPort peerAddr ≠ 0)
    (hP : goodPeer peerAddr = true → P peerAddr) :
    RequestMoves clk P a (bindChannel clk goodPeer a chnum peerAddr addrFound).2 := by
  unfold bindChannel
  by_cases hbad : (chnum == 0 || addrAny peerAddr || !addrFound) = true
  · rw [if_pos hbad]
  rw [if_neg hbad]
  by_cases hinvalid : (!stunValidChannel chnum) = true
  · rw [if_pos hinvalid]
  rw [if_neg hinvalid]
  cases hnum : allocationGetChInfo a chnum with
  | some c =>
    obtain ⟨chn, hc, -⟩ := liveCh_of_allocationGetChInfo hnum
    simp only
    split
    · exact ReflTransGen.refl
    · exact h.refreshChannel_moves clk hc
  | none =>
    simp only
    split_ifs with hpeer hgood
    · exact ReflTransGen.refl
    · exact ReflTransGen.refl
    · have hfound : addrFound = true := by
        simp only [Bool.or_eq_true, Bool.not_eq_true', not_or, Bool.not_eq_false] at hbad
        exact hbad.2
      have hpeer' : allocationGetChInfoByPeerAddr a peerAddr = none := by simpa using hpeer
      obtain ⟨hmoves, hlive⟩ := h.getNewChInfo_moves clk (hP (by simpa using hgood))
        (by simpa using hinvalid) (hport hfound) hnum hpeer'
      rcases hnew : allocationGetNewChInfo a chnum peerAddr with ⟨_ | c, a₁⟩
      · rw [hnew] at hmoves
        exact hmoves
      · rw [hnew] at hmoves hlive
        obtain ⟨chn, hc⟩ := hlive c rfl
        simp only
        split
        · exact hmoves
        · exact hmoves.trans ((hmoves.consistent h).refreshChannel_moves clk hc)

end Requests

/-! ## Timeouts -/

variable (ctime : UInt32)

lemma sweepPermission_moves (a : AddrTables) (r : PermPtr) :
    ExpiryMoves a (sweepPermission ctime a r) := by
  unfold sweepPermission
  split_ifs
  · exact ReflTransGen.single (ExpiryMove.cleanPerm a r)
  · exact ReflTransGen.refl

lemma sweepChannel_moves (a : AddrTables) (c : ChPtr) : ExpiryMoves a (sweepChannel ctime a c) := by
  unfold sweepChannel
  split_ifs
  · exact ReflTransGen.single (ExpiryMove.delCh a c)
  · exact ReflTransGen.refl

lemma foldl_moves {α : Type} {R : AddrTables → AddrTables → Prop} {f : AddrTables → α → AddrTables}
    (hf : ∀ a x, ReflTransGen R a (f a x)) (xs : List α) (a : AddrTables) :
    ReflTransGen R a (xs.foldl f a) := by
  induction xs generalizing a with
  | nil => exact ReflTransGen.refl
  | cons x xs ih => exact (hf a x).trans (ih (f a x))

lemma sweepAllocationTimedEvents_moves (a : AddrTables) :
    ExpiryMoves a (sweepAllocationTimedEvents ctime a) :=
  (foldl_moves (sweepPermission_moves ctime) _ a).trans
    (foldl_moves (sweepChannel_moves ctime) _ _)

/-! ## Any sequence of requests, timeouts and sweeps -/

/-- What can happen to the tables, with the clock, lifetimes and filter of that moment. -/
inductive TableOp where
  | createPermission (clk : ServerClock) (peers : List IoaAddr)
  | channelBind (clk : ServerClock) (goodPeer : IoaAddr → Bool) (chnum : UInt16) (peer : IoaAddr)
  | channelTimeout (c : ChPtr)
  | permissionTimeout (r : PermPtr)
  | sweep (ctime : UInt32)

/-- A ChannelBind request with an empty port is refused while its attributes are read. -/
def AddrTables.step (a : AddrTables) : TableOp → AddrTables
  | .createPermission clk peers => (createPermissions clk a peers).2
  | .channelBind clk goodPeer chnum peer =>
    if addrGetPort peer = 0 then a else (bindChannel clk goodPeer a chnum peer true).2
  | .channelTimeout c => clientSsChannelTimeoutHandler a c
  | .permissionTimeout r => clientSsPermTimeoutHandler a r
  | .sweep ctime => sweepAllocationTimedEvents ctime a

lemma AddrTables.Consistent.step (h : a.Consistent) (op : TableOp) : (a.step op).Consistent := by
  cases op with
  | createPermission clk peers =>
    exact (h.createPermissions_moves clk (P := fun _ => True) fun _ _ => trivial).consistent h
  | channelBind clk goodPeer chnum peer =>
    simp only [AddrTables.step]
    split_ifs with hport
    · exact h
    · exact (h.bindChannel_moves clk (P := fun _ => True) (fun _ => hport)
        fun _ => trivial).consistent h
  | channelTimeout c => exact h.delCh c
  | permissionTimeout r => exact h.cleanPerm r
  | sweep ctime => exact (sweepAllocationTimedEvents_moves ctime a).consistent h

/-- Channels and port maps agree. -/
structure AddrTables.Coherent (a : AddrTables) : Prop where
  /-- The owner of a channel is a live permission with the same IP, whose port map sends the peer's
  port to this channel. -/
  owner : ∀ c chn, a.LiveCh c chn → ∃ r info, chn.owner = some r ∧ a.LivePerm r info ∧
    addrEqNoPort info.addr chn.peerAddr = true ∧
    ∀ d, lmMapGet info.chns (addrGetPort chn.peerAddr).toNat = some (some d) ↔ d = c
  /-- Every cell of the port map of a permission leads to a live channel of this permission,
  with that port. -/
  entry : ∀ r info, a.LivePerm r info → ∀ p key c, info.chns.get? p = some ⟨key, some c⟩ →
    key ≠ 0 → ∃ chn, a.LiveCh c chn ∧ chn.owner = some r ∧ (addrGetPort chn.peerAddr).toNat = key
  /-- Channel numbers and peer addresses determine each other, and the slot of the channel. -/
  bijection : ∀ c d chn chn', a.LiveCh c chn → a.LiveCh d chn' →
    (chn.chnum = chn'.chnum ↔ addrEq chn.peerAddr chn'.peerAddr = true) ∧
    (chn.chnum = chn'.chnum → c = d)
  perm_unique : ∀ r s info info', a.LivePerm r info → a.LivePerm s info' →
    addrEqNoPort info.addr info'.addr = true → r = s

lemma AddrTables.Consistent.coherent (h : a.Consistent) : a.Coherent where
  owner c chn hc := by
    obtain ⟨r, info, howner, hr, haddr, hmap⟩ := h.ch_owner c chn hc
    refine ⟨r, info, howner, hr, haddr, fun d => ?_⟩
    rw [(h.perm_map_wf r info hr).get_eq_some_iff]
    constructor
    · intro hd
      exact (h.perm_map_wf r info hr).holds_unique hd hmap
    · rintro rfl
      exact hmap
  entry r info hr p key c hp hkey := h.perm_entry r info hr key c ⟨hkey, p, hp⟩
  bijection c d chn chn' hc hd := by
    refine ⟨⟨fun heq => ?_, fun heq => ?_⟩, h.ch_num_unique c d chn chn' hc hd⟩
    · obtain rfl := h.ch_num_unique c d chn chn' hc hd heq
      obtain rfl := hc.unique hd
      obtain ⟨r, info, -, -, haddr, -⟩ := h.ch_owner c chn hc
      exact addrEq_iff.mpr ⟨addrEqNoPort_trans (addrEqNoPort_symm haddr) haddr, rfl⟩
    · obtain rfl := h.ch_peer_unique hc hd heq
      rw [hc.unique hd]
  perm_unique := h.perm_unique

/-- The tables agree after any sequence of requests, timeouts and sweeps at any times. -/
theorem addrTables_coherent (ops : List TableOp) :
    (Machine.run AddrTables.step AddrTables.init ops).Coherent := by
  have hcons : (Machine.run AddrTables.step AddrTables.init ops).Consistent :=
    Machine.run_preserves (fun _ op h => h.step op) ops AddrTables.init_consistent
  exact hcons.coherent

end Coturn
