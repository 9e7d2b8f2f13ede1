/-
# The number of permissions

An allocation is to have at most 1024 permissions. The number is compared with this cap only when a
new slot has to be created; but three slots of each row are there from the start, and the slots of
removed permissions stay.
-/
import Coturn.Allocation.Contents

namespace Coturn

open AddrTables Relation List

variable {peers : List IoaAddr}

variable {a a' : AddrTables} {clk : ServerClock} {addr : IoaAddr}

/-! ## Counting -/

/-- The places of the permissions. -/
def AddrTables.livePlaces (a : AddrTables) : Set PermPtr := {r | ∃ info, a.LivePerm r info}

lemma allocationCountPermissions_eq (a : AddrTables) :
    allocationCountPermissions a = a.livePlaces.ncard := a.addrToPerm.countP_slots _

lemma finite_livePlaces (a : AddrTables) : a.livePlaces.Finite := a.addrToPerm.finite_placesOf _

lemma count_eq_of_livePlaces (h : a'.livePlaces = a.livePlaces) :
    allocationCountPermissions a' = allocationCountPermissions a := by
  rw [allocationCountPermissions_eq, allocationCountPermissions_eq, h]

variable {info : TurnPermissionInfo} {q : PermPtr}

lemma livePlaces_addChInfo {r : PermPtr} (hr : a.LivePerm r info) (chnum : UInt16)
    (peerAddr : IoaAddr) : (addChInfo a r chnum peerAddr).2.livePlaces = a.livePlaces := by
  ext s
  constructor
  · rintro ⟨x, hs⟩
    rcases (livePerm_addChInfo_iff hr).mp hs with ⟨rfl, -⟩ | ⟨-, hold⟩
    · exact ⟨info, hr⟩
    · exact ⟨x, hold⟩
  · rintro ⟨x, hs⟩
    by_cases hsr : s = r
    · exact ⟨_, (livePerm_addChInfo_iff hr).mpr (Or.inl ⟨hsr, rfl⟩)⟩
    · exact ⟨x, (livePerm_addChInfo_iff hr).mpr (Or.inr ⟨hsr, hs⟩)⟩

lemma RequestMoves.livePlaces_eq (h : RequestMoves clk (fun _ => False) a a') :
    a'.livePlaces = a.livePlaces := by
  induction h with
  | refl => rfl
  | tail _ hmove ih =>
    rw [← ih]
    cases hmove with
    | addPerm addr haddr _ => exact haddr.elim
    | addCh s x chnum peerAddr hs _ _ _ _ _ => exact livePlaces_addChInfo hs chnum peerAddr
    | touchPerm s timeDelta hdelta =>
      ext r
      constructor
      · rintro ⟨info, hr⟩
        rcases SlotTable.get?_modify_eq_some hr.1 with ⟨rfl, y, hy, rfl⟩ | ⟨-, hold⟩
        · exact ⟨y, hy, hr.2⟩
        · exact ⟨info, hold, hr.2⟩
      · rintro ⟨info, hr⟩
        obtain ⟨info', hr', -⟩ :=
          (RequestMove.touchPerm (P := fun _ => False) _ s timeDelta hdelta).livePerm hr
        exact ⟨info', hr'⟩
    | touchCh c chn s x _ _ _ _ => rfl

lemma count_fill (a : AddrTables) (addr : IoaAddr) :
    allocationCountPermissions (a.addPerm addr) = allocationCountPermissions a + 1 := by
  have hnew : a.addrToPerm.freePlace (permIndex addr) (fun info => !info.allocated) ∉
      a.livePlaces := by
    rintro ⟨info, hr⟩
    have hfree := SlotTable.free_of_get?_freePlace hr.1
    simp [hr.2] at hfree
  rw [allocationCountPermissions_eq, allocationCountPermissions_eq,
    ← Set.ncard_insert_of_notMem hnew (finite_livePlaces a)]
  congr 1
  ext r
  constructor
  · rintro ⟨info, hr⟩
    rcases (livePerm_fill_iff a addr).mp hr with ⟨rfl, -⟩ | hold
    · exact Set.mem_insert _ _
    · exact Set.mem_insert_of_mem _ ⟨info, hold⟩
  · rintro (rfl | ⟨info, hr⟩)
    · exact ⟨.new addr, (livePerm_fill_iff a addr).mpr (Or.inl ⟨rfl, rfl⟩)⟩
    · exact ⟨info, (livePerm_fill_iff a addr).mpr (Or.inr hr)⟩

/-! ## Adding and removing -/

/-- A permission is added if its row has a free slot or the cap has not been reached. -/
lemma count_getOrAddPermission (a : AddrTables) (addr : IoaAddr) :
    allocationCountPermissions (getOrAddPermission a addr).2 =
      if allocationGetPermission a addr = none ∧ (a.HasFreeSlot addr ∨
          allocationCountPermissions a < turnMaxPermissionsPerAllocation) then
        allocationCountPermissions a + 1
      else allocationCountPermissions a := by
  unfold getOrAddPermission
  cases hget : allocationGetPermission a addr with
  | some r => rw [if_neg (by simp)]
  | none =>
    simp only [allocationAddPermission, true_and]
    by_cases hfull : ((a.addrToPerm.find? (permIndex addr) fun info => !info.allocated).isNone &&
        decide (turnMaxPermissionsPerAllocation ≤ allocationCountPermissions a)) = true
    · rw [if_pos hfull, if_neg]
      rw [Bool.and_eq_true, decide_eq_true_eq, Option.isNone_iff_eq_none] at hfull
      rw [HasFreeSlot, hfull.1, not_or, not_lt]
      exact ⟨by simp, hfull.2⟩
    · rw [if_neg hfull, if_pos, count_fill]
      rwa [Bool.and_eq_true, decide_eq_true_eq, not_and_or, Bool.not_eq_true,
        Option.isNone_eq_false_iff, not_le] at hfull

section Requests

variable (clk)

lemma AddrTables.Consistent.count_updatePermission (h : a.Consistent) (addr : IoaAddr) :
    allocationCountPermissions (updatePermission clk a addr).2 =
      allocationCountPermissions (getOrAddPermission a addr).2 := by
  have h₁ : (getOrAddPermission a addr).2.Consistent :=
    (h.getOrAddPermission_moves clk (P := fun _ => True) trivial).consistent h
  refine count_eq_of_livePlaces ?_
  rcases h.updatePermission_cases clk addr rfl with ⟨-, heq⟩ | ⟨r, -, -, -, -, hcases⟩
  · rw [heq]
  have htouch : RequestMoves clk (fun _ => False) (getOrAddPermission a addr).2
      ((getOrAddPermission a addr).2.setDeadline clk r) :=
    ReflTransGen.single (.touchPerm _ r clk.permissionLifetime (Or.inl rfl))
  rcases hcases with heq | ⟨c, chn, -, hc, heq⟩
  · rw [heq]
    exact htouch.livePlaces_eq
  · have hupdate := ((htouch.consistent h₁).updateChannelLifetime_moves clk
      (P := fun _ => False) hc).2
    rw [heq]
    exact RequestMoves.livePlaces_eq (htouch.trans hupdate)

lemma AddrTables.Consistent.count_bindChannel (h : a.Consistent) (goodPeer : IoaAddr → Bool)
    (chnum : UInt16) {peer : IoaAddr} (hport : addrGetPort peer ≠ 0) :
    allocationCountPermissions (bindChannel clk goodPeer a chnum peer true).2 =
        allocationCountPermissions a ∨
      (a.Binds goodPeer chnum peer ∧
        allocationCountPermissions (bindChannel clk goodPeer a chnum peer true).2 =
          allocationCountPermissions (getOrAddPermission a peer).2) := by
  rcases h.bindChannel_cases clk goodPeer chnum peer (fun _ => hport) with
    ⟨-, e, heq⟩ | ⟨a₁, c, chn, heq, h₁, hc, -, -, hcases⟩
  · rw [heq]
    exact Or.inl rfl
  have hbinds := (binds_of_bindChannel clk (by rw [heq])).2
  have hupdate := (h₁.updateChannelLifetime_moves clk (P := fun _ => False) hc).2
  rw [heq, count_eq_of_livePlaces hupdate.livePlaces_eq]
  rcases hcases with ⟨rfl, -⟩ | ⟨-, hnew⟩
  · exact Or.inl rfl
  · refine Or.inr ⟨hbinds, ?_⟩
    unfold allocationGetNewChInfo at hnew
    rcases hadd : getOrAddPermission a peer with ⟨_ | r, a₂⟩ <;> rw [hadd] at hnew
    · exact absurd (congrArg Prod.fst hnew) (by simp)
    obtain ⟨info, hr, -, -⟩ := livePerm_getOrAddPermission (a := a) (by rw [hadd])
    rw [hadd] at hr
    obtain rfl : (addChInfo a₂ r chnum peer).2 = a₁ := congrArg Prod.snd hnew
    exact count_eq_of_livePlaces (livePlaces_addChInfo hr chnum peer)

end Requests

lemma ExpiryMove.livePerm (hmove : ExpiryMove a a') {r : PermPtr} {info' : TurnPermissionInfo}
    (hr : a'.LivePerm r info') : ∃ info, a.LivePerm r info := by
  cases hmove with
  | delCh c =>
    unfold turnChannelDelete at hr
    split at hr
    · exact ⟨info', hr⟩
    next chn _ =>
      cases howner : chn.owner with
      | none =>
        rw [howner] at hr
        exact ⟨info', hr⟩
      | some s =>
        rw [howner] at hr
        rcases SlotTable.get?_modify_eq_some hr.1 with ⟨rfl, x, hx, rfl⟩ | ⟨-, hold⟩
        · exact ⟨x, hx, hr.2⟩
        · exact ⟨info', hold, hr.2⟩
  | cleanPerm s =>
    unfold turnPermissionClean at hr
    split at hr
    · exact ⟨info', hr⟩
    split_ifs at hr
    · exact ⟨info', hr⟩
    · rcases SlotTable.get?_modify_eq_some hr.1 with ⟨rfl, x, hx, rfl⟩ | ⟨-, hold⟩
      · exact absurd hr.2 (by decide)
      · exact ⟨info', hold, hr.2⟩

lemma ExpiryMoves.livePlaces_subset (h : ExpiryMoves a a') : a'.livePlaces ⊆ a.livePlaces := by
  induction h with
  | refl => exact subset_rfl
  | tail _ hmove ih =>
    rintro r ⟨info, hr⟩
    exact ih (hmove.livePerm hr)

/-! ## The cap -/

/-- No free slot is used for a new permission once the cap has been reached. -/
def AddrTables.CapTested (a : AddrTables) (addr : IoaAddr) : Prop :=
  allocationGetPermission a addr = none →
    turnMaxPermissionsPerAllocation ≤ allocationCountPermissions a → ¬ a.HasFreeSlot addr

/-- No round of a CreatePermission uses a free slot once the cap has been reached. -/
def AddrTables.CapTestedAll (clk : ServerClock) (a : AddrTables) : List IoaAddr → Prop
  | [] => True
  | peer :: peers =>
    a.CapTested (addrSetPort 0 peer) ∧
      (updatePermission clk a (addrSetPort 0 peer)).2.CapTestedAll clk peers

/-- The cap is tested before a slot is reused. -/
def TableOp.CapTested (a : AddrTables) : TableOp → Prop
  | .createPermission clk peers => a.CapTestedAll clk peers
  | .channelBind _ goodPeer chnum peer =>
    addrGetPort peer ≠ 0 → a.Binds goodPeer chnum peer → a.CapTested peer
  | _ => True

/-- Consistent tables within the cap. -/
structure AddrTables.Capped (a : AddrTables) : Prop where
  consistent : a.Consistent
  count_le : allocationCountPermissions a ≤ turnMaxPermissionsPerAllocation

lemma AddrTables.Capped.count_getOrAddPermission_le (h : a.Capped) (hok : a.CapTested addr) :
    allocationCountPermissions (getOrAddPermission a addr).2 ≤ turnMaxPermissionsPerAllocation := by
  rw [count_getOrAddPermission]
  split_ifs with hnew
  · obtain ⟨hnone, hfree | hlt⟩ := hnew
    · by_contra hle
      have hcap : turnMaxPermissionsPerAllocation ≤ allocationCountPermissions a := by omega
      exact hok hnone hcap hfree
    · exact hlt
  · exact h.count_le

lemma AddrTables.Capped.updatePermission (h : a.Capped) (hok : a.CapTested addr) :
    (updatePermission clk a addr).2.Capped := by
  refine ⟨?_, ?_⟩
  · exact (h.consistent.updatePermission_moves clk (P := fun _ => True) trivial).consistent
      h.consistent
  · rw [h.consistent.count_updatePermission clk]
    exact h.count_getOrAddPermission_le hok

lemma AddrTables.Capped.createPermissions (h : a.Capped) (hok : a.CapTestedAll clk peers) :
    (createPermissions clk a peers).2.Capped := by
  induction peers generalizing a with
  | nil => exact h
  | cons peer peers ih => exact ih (h.updatePermission hok.1) hok.2

lemma AddrTables.Consistent.capTestedAll (h : a.Consistent) (clk : ServerClock)
    (hroom : allocationCountPermissions a + peers.length ≤ turnMaxPermissionsPerAllocation) :
    a.CapTestedAll clk peers := by
  induction peers generalizing a with
  | nil => trivial
  | cons peer peers ih =>
    rw [length_cons] at hroom
    refine ⟨fun _ hcap => by omega,
      ih ((h.updatePermission_moves clk (P := fun _ => True) trivial).consistent h) ?_⟩
    rw [h.count_updatePermission clk, count_getOrAddPermission]
    split_ifs <;> omega

lemma AddrTables.Consistent.along_createPermission (h : a.Consistent) {peer : IoaAddr}
    (hroom : allocationCountPermissions a + peers.length ≤ turnMaxPermissionsPerAllocation)
    (hpeer : (createPermissions clk a peers).2.CapTested (addrSetPort 0 peer)) :
    Machine.Along AddrTables.step (fun a op => op.CapTested a) a
      [.createPermission clk peers, .createPermission clk [peer]] :=
  ⟨h.capTestedAll clk hroom, ⟨hpeer, trivial⟩, trivial⟩

lemma AddrTables.Capped.of_expiry (h : a.Capped) (hmoves : ExpiryMoves a a') : a'.Capped := by
  refine ⟨ExpiryMoves.consistent hmoves h.consistent, le_trans ?_ h.count_le⟩
  rw [allocationCountPermissions_eq, allocationCountPermissions_eq]
  exact Set.ncard_le_ncard (ExpiryMoves.livePlaces_subset hmoves) (finite_livePlaces a)

lemma AddrTables.Capped.step (h : a.Capped) {op : TableOp} (hok : op.CapTested a) :
    (a.step op).Capped := by
  cases op with
  | createPermission clk peers => exact h.createPermissions hok
  | channelBind clk goodPeer chnum peer =>
    refine ⟨h.consistent.step _, ?_⟩
    simp only [AddrTables.step]
    split_ifs with hport
    · exact h.count_le
    · rcases h.consistent.count_bindChannel clk goodPeer chnum hport with heq | ⟨hbinds, heq⟩ <;>
        rw [heq]
      · exact h.count_le
      · exact h.count_getOrAddPermission_le (hok hport hbinds)
  | channelTimeout c => exact h.of_expiry (ReflTransGen.single (.delCh a c))
  | permissionTimeout r => exact h.of_expiry (ReflTransGen.single (.cleanPerm a r))
  | sweep ctime => exact h.of_expiry (sweepAllocationTimedEvents_moves ctime a)

/-! ## Rows -/

lemma permIndex_addrSetPort (port : UInt16) (addr : IoaAddr) :
    permIndex (addrSetPort port addr) = permIndex addr := by
  rw [permIndex, permIndex, Fin.mk.injEq, addrHashNoPort_addrSetPort]

lemma permIndex_eq_of_addrEqNoPort {addr addr' : IoaAddr} (h : addrEqNoPort addr addr' = true) :
    permIndex addr = permIndex addr' := by
  rw [permIndex, permIndex, Fin.mk.injEq, addrHashNoPort_eq h]

section Rows

variable (clk)

lemma AddrTables.Consistent.get?_updatePermission_of_ne (h : a.Consistent) (hinet : addr.IsInet)
    (hport : addrGetPort addr = 0) (hq : q.1 ≠ permIndex addr) :
    (updatePermission clk a addr).2.addrToPerm.get? q = a.addrToPerm.get? q := by
  rcases h.updatePermission_noPort clk hport with ⟨-, heq⟩ | ⟨r, info, hfound, hr, heq⟩
  · rw [heq]
  have h₁ : (getOrAddPermission a addr).2.Consistent :=
    (h.getOrAddPermission_moves clk (P := fun _ => True) trivial).consistent h
  have hrow : r.1 = permIndex addr := by
    obtain ⟨info', hr', haddr, -⟩ := livePerm_getOrAddPermission hfound
    rw [h₁.perm_row r info' hr', permIndex_eq_of_addrEqNoPort (haddr hinet)]
  have hqr : q ≠ r := fun hqr => hq (by rw [hqr, hrow])
  rw [heq, setDeadline, SlotTable.get?_modify_of_ne hqr]
  unfold getOrAddPermission
  cases allocationGetPermission a addr with
  | some s => rfl
  | none =>
    simp only [allocationAddPermission]
    split_ifs
    · rfl
    · rw [SlotTable.get?_fill, if_neg fun hfree => hq (congrArg Prod.fst hfree)]

lemma AddrTables.Consistent.get?_createPermissions_of_ne (h : a.Consistent)
    (hinet : ∀ peer ∈ peers, peer.IsInet) (hq : ∀ peer ∈ peers, q.1 ≠
      permIndex peer) :
    (createPermissions clk a peers).2.addrToPerm.get? q = a.addrToPerm.get? q := by
  induction peers generalizing a with
  | nil => rfl
  | cons peer peers ih =>
    have hmoves : RequestMoves clk (fun _ => True) a
        (updatePermission clk a (addrSetPort 0 peer)).2 := h.updatePermission_moves clk trivial
    have hrow := permIndex_addrSetPort 0 peer
    rw [createPermissions, ih (hmoves.consistent h)
      (fun p hp => hinet p (mem_cons_of_mem peer hp))
      (fun p hp => hq p (mem_cons_of_mem peer hp))]
    refine h.get?_updatePermission_of_ne clk (isInet_addrSetPort (hinet peer mem_cons_self))
      (addrGetPort_addrSetPort_zero peer) ?_
    rw [hrow]
    exact hq peer mem_cons_self

lemma AddrTables.Consistent.count_createPermissions (h : a.Consistent)
    (hinet : ∀ peer ∈ peers, peer.IsInet) (hnodup : (peers.map (addrSetPort 0)).Nodup)
    (hnew : ∀ peer ∈ peers, ¬ a.Permits (addrSetPort 0 peer))
    (hroom : allocationCountPermissions a + peers.length ≤ turnMaxPermissionsPerAllocation) :
    allocationCountPermissions (createPermissions clk a peers).2 =
      allocationCountPermissions a + peers.length := by
  induction peers generalizing a with
  | nil => rfl
  | cons peer peers ih =>
    have hmoves : RequestMoves clk (· = addrSetPort 0 peer) a
        (updatePermission clk a (addrSetPort 0 peer)).2 := h.updatePermission_moves clk rfl
    rw [length_cons] at hroom ⊢
    rw [map_cons, nodup_cons] at hnodup
    have hnone : allocationGetPermission a (addrSetPort 0 peer) = none := by
      by_contra hsome
      exact hnew peer mem_cons_self (permits_of_get (Option.isSome_iff_ne_none.mpr hsome))
    have hcount : allocationCountPermissions (updatePermission clk a (addrSetPort 0 peer)).2 =
        allocationCountPermissions a + 1 := by
      rw [h.count_updatePermission clk, count_getOrAddPermission,
        if_pos ⟨hnone, Or.inr (by omega)⟩]
    rw [createPermissions, ih (hmoves.consistent h)
      (fun p hp => hinet p (mem_cons_of_mem peer hp)) hnodup.2 ?_ (by omega), hcount]
    · omega
    · -- the other IPs still have no permission
      rintro p hp ⟨r, info, hr, heq⟩
      rcases hmoves.origin hr with ⟨s, info₀, hs, haddr⟩ | haddr
      · exact hnew p (mem_cons_of_mem peer hp) ⟨s, info₀, hs, haddr ▸ heq⟩
      · rw [haddr] at heq
        have hsame := (addrEqNoPort_iff.mp heq).2
        rw [addrSetPort_addrSetPort, addrSetPort_addrSetPort] at hsame
        exact hnodup.1 (mem_map.mpr ⟨p, hp, hsame.symm⟩)

lemma AddrTables.hasFreeSlot_of_get?
    (hq : q.1 = permIndex addr) (hget : a.addrToPerm.get? q = some info)
    (hfree : info.allocated = false) : a.HasFreeSlot addr := by
  unfold HasFreeSlot
  by_contra hnone
  rw [Bool.not_eq_true, Option.isSome_eq_false_iff, Option.isNone_iff_eq_none] at hnone
  have hnot := SlotTable.find?_eq_none hnone hq hget
  simp [hfree] at hnot

/-- The cap is not tested while the row of the peer has a free slot. -/
lemma count_beyond_cap {peer : IoaAddr} (hinet : ∀ p ∈ peers, p.IsInet)
    (hnodup : (peers.map (addrSetPort 0)).Nodup)
    (hlength : peers.length = turnMaxPermissionsPerAllocation)
    (hrow : ∀ p ∈ peers, permIndex p ≠ permIndex peer) :
    allocationCountPermissions (Machine.run AddrTables.step AddrTables.init
      [.createPermission clk peers, .createPermission clk [peer]]) =
        turnMaxPermissionsPerAllocation + 1 := by
  have hcons := AddrTables.init_consistent
  have hzero : allocationCountPermissions AddrTables.init = 0 := by decide
  have hrow' := permIndex_addrSetPort 0 peer
  simp only [Machine.run_cons, Machine.run_nil, AddrTables.step, createPermissions]
  generalize ha : (createPermissions clk AddrTables.init peers).2 = a
  have hcount : allocationCountPermissions a = turnMaxPermissionsPerAllocation := by
    rw [← ha, hcons.count_createPermissions clk hinet hnodup ?_ ?_, hzero, hlength, zero_add]
    · rintro peer - ⟨r, info, hr, -⟩
      exact AddrTables.init_not_livePerm hr
    · rw [hzero, hlength, zero_add]
  -- the first slot of the row is as it was at the start
  have hslot : a.addrToPerm.get? (permIndex peer, 0) = some .empty := by
    rw [← ha, hcons.get?_createPermissions_of_ne clk hinet fun p hp => (hrow p hp).symm]
    rfl
  have hfree : a.HasFreeSlot (addrSetPort 0 peer) :=
    AddrTables.hasFreeSlot_of_get? hrow'.symm hslot rfl
  have hmoves : RequestMoves clk (fun addr => permIndex addr ≠ permIndex peer) AddrTables.init a := by
    rw [← ha]
    refine hcons.createPermissions_moves clk fun p hp => ?_
    rw [permIndex_addrSetPort]
    exact hrow p hp
  have hnone : allocationGetPermission a (addrSetPort 0 peer) = none := by
    by_contra hsome
    obtain ⟨r, hr⟩ := Option.ne_none_iff_exists'.mp hsome
    obtain ⟨info, hlive, heq⟩ := livePerm_of_allocationGetPermission hr
    rcases hmoves.origin hlive with ⟨_, _, hinit, -⟩ | haddr
    · exact AddrTables.init_not_livePerm hinit
    · exact haddr ((permIndex_eq_of_addrEqNoPort heq).trans hrow')
  rw [(hmoves.consistent hcons).count_updatePermission clk, count_getOrAddPermission,
    if_pos ⟨hnone, Or.inl hfree⟩, hcount]

lemma AddrTables.Consistent.hasFreeSlot_of_updatePermission (h : a.Consistent)
    (hport : addrGetPort addr = 0) {x : IoaAddr}
    (hfree : (updatePermission clk a addr).2.HasFreeSlot x) : a.HasFreeSlot x := by
  obtain ⟨q, hq⟩ := Option.isSome_iff_exists.mp hfree
  obtain ⟨hrow, info, hget, hno⟩ := SlotTable.find?_eq_some hq
  have hno : info.allocated = false := by simpa using hno
  suffices hget : a.addrToPerm.get? q = some info from hasFreeSlot_of_get? hrow hget hno
  rcases h.updatePermission_noPort clk hport with ⟨-, heq⟩ | ⟨r, info', -, hr, heq⟩
  · rwa [heq] at hget
  rw [heq, setDeadline] at hget
  rcases SlotTable.get?_modify_eq_some hget with ⟨rfl, y, hy, rfl⟩ | ⟨-, hget⟩
  · rw [Option.mem_unique hy hr.1] at hno
    exact absurd (hr.2.symm.trans hno) (by decide)
  unfold getOrAddPermission at hget
  cases hold : allocationGetPermission a addr with
  | some s => rwa [hold] at hget
  | none =>
    simp only [hold, allocationAddPermission] at hget
    split_ifs at hget
    · exact hget
    · rcases SlotTable.get?_fill_eq_some hget with ⟨-, rfl⟩ | ⟨-, hget⟩
      · cases hno
      · exact hget

/-- Requests never clear a slot. -/
lemma AddrTables.Consistent.hasFreeSlot_of_createPermissions (h : a.Consistent)
    (first rest : List IoaAddr) {x : IoaAddr}
    (hfree : (createPermissions clk a (first ++ rest)).2.HasFreeSlot x) :
    (createPermissions clk a first).2.HasFreeSlot x := by
  have hstep : ∀ {a : AddrTables} (peers : List IoaAddr), a.Consistent →
      (createPermissions clk a peers).2.HasFreeSlot x → a.HasFreeSlot x := by
    intro a peers h hfree
    induction peers generalizing a with
    | nil => exact hfree
    | cons peer peers ih =>
      exact h.hasFreeSlot_of_updatePermission clk (addrGetPort_addrSetPort_zero peer)
        (ih ((h.updatePermission_moves clk (P := fun _ => True) trivial).consistent h) hfree)
  induction first generalizing a with
  | nil => exact hstep rest h hfree
  | cons peer first ih =>
    exact ih ((h.updatePermission_moves clk (P := fun _ => True) trivial).consistent h) hfree

end Rows

/-- Addresses that all have the same hash: it depends on the first two bytes and the lowest bits of
the third one only. -/
def rowPeer (n : ℕ) : IoaAddr :=
  .s4 ⟨[10, 0, UInt8.ofNat (n / 256 * 4), UInt8.ofNat (n % 256)], rfl⟩ 0

/-- As many peers of one row as the cap allows, and then a peer of another row. -/
def peersOfOneRow : List IoaAddr := (List.range 1024).map rowPeer

def peerOfOtherRow : IoaAddr := .s4 ⟨[10, 1, 0, 0], rfl⟩ 0

lemma rowPeer_injOn {m n : ℕ} (hm : m < 1024) (hn : n < 1024) (h : rowPeer m = rowPeer n) :
    m = n := by
  injection h with hip _
  have hbytes := congrArg List.Vector.toList hip
  simp only [List.Vector.toList, List.cons.injEq, and_true, true_and] at hbytes
  have hthird := congrArg UInt8.toNat hbytes.1
  have hfourth := congrArg UInt8.toNat hbytes.2
  rw [UInt8.toNat_ofNat', UInt8.toNat_ofNat'] at hthird hfourth
  omega

lemma permIndex_rowPeer {n : ℕ} (hn : n < 1024) : permIndex (rowPeer n) = 5 := by
  have hall : ∀ q < 4, ∀ r < 256, permIndex
      (.s4 ⟨[10, 0, UInt8.ofNat (q * 4), UInt8.ofNat r], rfl⟩ 0) = 5 := by decide +kernel
  exact hall (n / 256) (by omega) (n % 256) (by omega)

def sampleClock : ServerClock := ⟨1000, 300, 600⟩

/-! ## Below and beyond the cap -/

/-- There are never more permissions than the cap allows, while no free slot is used for a new one
once the cap has been reached. -/
theorem permissions_le_cap (ops : List TableOp)
    (hok : Machine.Along AddrTables.step (fun a op => op.CapTested a) AddrTables.init ops) :
    allocationCountPermissions (Machine.run AddrTables.step AddrTables.init ops) ≤
      turnMaxPermissionsPerAllocation := by
  have hinit : AddrTables.init.Capped := ⟨AddrTables.init_consistent, by decide⟩
  have hrun : (Machine.run AddrTables.step AddrTables.init ops).Capped :=
    Machine.run_invariant (fun a op h hok => h.step hok) hok hinit
  exact hrun.count_le

/-- With 1024 permissions in one row, another peer of that row gets none. -/
theorem permissions_le_cap_fullRow :
    allocationCountPermissions (Machine.run AddrTables.step AddrTables.init
      [.createPermission sampleClock peersOfOneRow,
        .createPermission sampleClock [rowPeer 1024]]) ≤ turnMaxPermissionsPerAllocation := by
  refine permissions_le_cap _
    (AddrTables.init_consistent.along_createPermission ?_ fun _ _ hfree => ?_)
  · rw [peersOfOneRow, length_map, length_range]
    decide
  · -- three permissions fill the row, and no slot of it becomes free again
    rw [← take_append_drop 3 peersOfOneRow] at hfree
    exact absurd (AddrTables.init_consistent.hasFreeSlot_of_createPermissions _ _ _ hfree)
      (by decide +kernel)

/-- With 1024 permissions in one row, a peer of another row gets the next one. -/
theorem permissions_exceed_cap :
    turnMaxPermissionsPerAllocation < allocationCountPermissions
      (Machine.run AddrTables.step AddrTables.init
        [.createPermission sampleClock peersOfOneRow,
          .createPermission sampleClock [peerOfOtherRow]]) := by
  have hlength : peersOfOneRow.length = turnMaxPermissionsPerAllocation := by
    rw [peersOfOneRow, length_map, length_range, turnMaxPermissionsPerAllocation]
  rw [count_beyond_cap sampleClock ?_ ?_ hlength ?_]
  · omega
  · intro peer hpeer
    obtain ⟨n, -, rfl⟩ := mem_map.mp hpeer
    exact Or.inl rfl
  · rw [peersOfOneRow, List.map_map]
    refine List.Nodup.map_on (fun m hm n hn h => ?_) nodup_range
    exact rowPeer_injOn (mem_range.mp hm) (mem_range.mp hn) h
  · intro peer hpeer
    obtain ⟨n, hn, rfl⟩ := mem_map.mp hpeer
    rw [permIndex_rowPeer (mem_range.mp hn)]
    decide

end Coturn
