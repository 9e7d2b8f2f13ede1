/-
# What the tables hold

A client notices which permissions and channels there are and when they expire. A CreatePermission
leaves that as it is when every permission that it visits has its new deadline already, and a
ChannelBind that is not refused when the channel and its permission have theirs.
-/
import Coturn.Allocation.Expiry

namespace Coturn

open AddrTables Relation Option

variable {addr : IoaAddr}

variable {a a' a'' : AddrTables} {clk : ServerClock} {r s : PermPtr} {info : TurnPermissionInfo}

/-- The live permission at a place: its address and its deadline. -/
def AddrTables.permAt (a : AddrTables) (r : PermPtr) : Option (IoaAddr × UInt32) :=
  ((a.addrToPerm.get? r).filter TurnPermissionInfo.allocated).map fun info =>
    (info.addr, info.expirationTime)

/-- The live channel at a place: its number, its peer and its deadline. -/
def AddrTables.chAt (a : AddrTables) (c : ChPtr) : Option (UInt16 × IoaAddr × UInt32) :=
  ((a.chns.get? c).filter ChInfo.allocated).map fun chn =>
    (chn.chnum, chn.peerAddr, chn.expirationTime)

/-- The live permissions and channels are the same, and so are their deadlines. -/
structure AddrTables.SameContents (a a' : AddrTables) : Prop where
  perm : ∀ r, a'.permAt r = a.permAt r
  ch : ∀ c, a'.chAt c = a.chAt c

lemma AddrTables.SameContents.refl (a : AddrTables) : a.SameContents a := ⟨fun _ => rfl, fun _ => rfl⟩

lemma AddrTables.LivePerm.permAt_eq (h : a.LivePerm r info) :
    a.permAt r = some (info.addr, info.expirationTime) := by
  rw [permAt, h.1, filter_some, if_pos h.2]
  rfl

variable {c : ChPtr}

lemma AddrTables.LiveCh.chAt_eq {chn : ChInfo} (h : a.LiveCh c chn) :
    a.chAt c = some (chn.chnum, chn.peerAddr, chn.expirationTime) := by
  rw [chAt, h.1, filter_some, if_pos h.2]
  rfl

lemma AddrTables.exists_livePerm_of_permAt {x : IoaAddr × UInt32} (h : a.permAt r = some x) :
    ∃ info, a.LivePerm r info ∧ (info.addr, info.expirationTime) = x := by
  obtain ⟨info, hinfo, heq⟩ := map_eq_some_iff.mp h
  obtain ⟨hget, hlive⟩ := filter_eq_some_iff.mp hinfo
  exact ⟨info, ⟨hget, hlive⟩, heq⟩

lemma AddrTables.exists_liveCh_of_chAt {x : UInt16 × IoaAddr × UInt32} (h : a.chAt c = some x) :
    ∃ chn, a.LiveCh c chn ∧ (chn.chnum, chn.peerAddr, chn.expirationTime) = x := by
  obtain ⟨chn, hchn, heq⟩ := map_eq_some_iff.mp h
  obtain ⟨hget, hlive⟩ := filter_eq_some_iff.mp hchn
  exact ⟨chn, ⟨hget, hlive⟩, heq⟩

lemma permAt_modify (t : UInt32) (chns : SlotTable 8 ChInfo) :
    AddrTables.permAt
        ⟨a.addrToPerm.modify r fun info => { info with expirationTime := t }, chns⟩ s =
      if s = r then (a.permAt s).map fun x => (x.1, t) else a.permAt s := by
  rw [permAt, SlotTable.get?_modify]
  split_ifs with hs
  · rw [permAt]
    cases a.addrToPerm.get? s with
    | none => rfl
    | some info => cases hlive : info.allocated <;> simp [filter_some, hlive]
  · rfl

lemma chAt_modify (t : UInt32) (addrToPerm : SlotTable 8 TurnPermissionInfo) {d : ChPtr} :
    AddrTables.chAt
        ⟨addrToPerm, a.chns.modify c fun chn => { chn with expirationTime := t }⟩ d =
      if d = c then (a.chAt d).map fun x => (x.1, x.2.1, t) else a.chAt d := by
  rw [chAt, SlotTable.get?_modify]
  split_ifs with hd
  · rw [chAt]
    cases a.chns.get? d with
    | none => rfl
    | some chn => cases hlive : chn.allocated <;> simp [filter_some, hlive]
  · rfl

/-! ## CreatePermission -/

lemma permAt_getOrAddPermission (h : (getOrAddPermission a addr).1 ≠ some s) :
    (getOrAddPermission a addr).2.permAt s = a.permAt s := by
  unfold getOrAddPermission at h ⊢
  cases hget : allocationGetPermission a addr with
  | some r => rfl
  | none =>
    simp only [hget, allocationAddPermission] at h ⊢
    split_ifs at h ⊢
    · rfl
    · have hs : s ≠ a.addrToPerm.freePlace (permIndex addr) fun info => !info.allocated :=
        fun hs => h (congrArg some hs.symm)
      rw [permAt, SlotTable.get?_fill, if_neg hs]
      rfl

variable (clk)

/-- An update of a permission for a whole IP fails or sets the deadline of the permission. -/
lemma AddrTables.Consistent.updatePermission_noPort (h : a.Consistent)
    (hport : addrGetPort addr = 0) :
    ((getOrAddPermission a addr).1 = none ∧ (updatePermission clk a addr).2 = a) ∨
    ∃ r info, (getOrAddPermission a addr).1 = some r ∧
      (getOrAddPermission a addr).2.LivePerm r info ∧
      (updatePermission clk a addr).2 = (getOrAddPermission a addr).2.setDeadline clk r := by
  rcases h.updatePermission_cases clk addr rfl with
    ⟨hnone, heq⟩ | ⟨r, info, hsome, hr, -, heq | ⟨c, chn, hne, -⟩⟩
  · refine Or.inl ⟨hnone, ?_⟩
    rw [heq]
    exact getOrAddPermission_eq_of_none hnone rfl
  · exact Or.inr ⟨r, info, hsome, hr, by rw [heq]⟩
  · exact absurd hport hne

/-- The permission that an update for the address finds, if it finds or can add one, has its new
deadline already. -/
def AddrTables.Idle (a : AddrTables) (addr : IoaAddr) : Prop :=
  ∀ r ∈ (getOrAddPermission a addr).1,
    (a.permAt r).map Prod.snd = some (clk.ctime + clk.permissionLifetime)

lemma getOrAddPermission_eq_of_livePerm (hr : a.LivePerm r info)
    (hfound : (getOrAddPermission a addr).1 = some r) : (getOrAddPermission a addr).2 = a := by
  unfold getOrAddPermission at hfound ⊢
  cases hget : allocationGetPermission a addr with
  | some s => rfl
  | none =>
    simp only [hget, allocationAddPermission] at hfound ⊢
    split_ifs at hfound ⊢
    -- a new permission goes to a free slot
    obtain rfl := Option.some.inj hfound
    have hfree := SlotTable.free_of_get?_freePlace hr.1
    simp [hr.2] at hfree

lemma AddrTables.Consistent.updatePermission_of_idle (h : a.Consistent)
    (hport : addrGetPort addr = 0) (hidle : a.Idle clk addr) :
    (updatePermission clk a addr).2 = a := by
  rcases h.updatePermission_noPort clk hport with ⟨-, heq⟩ | ⟨r, -, hfound, -, heq⟩
  · exact heq
  obtain ⟨x, hx, htime⟩ := map_eq_some_iff.mp (hidle r hfound)
  obtain ⟨info, hr, rfl⟩ := exists_livePerm_of_permAt hx
  rw [heq, getOrAddPermission_eq_of_livePerm hr hfound, setDeadline]
  refine congrArg (AddrTables.mk · a.chns) (SlotTable.modify_eq_self fun y hy => ?_)
  obtain rfl := mem_unique hr.1 hy
  rw [← htime]

lemma AddrTables.Consistent.permTime_updatePermission (h : a.Consistent)
    (hport : addrGetPort addr = 0) (s : PermPtr) :
    ((updatePermission clk a addr).2.permAt s).map Prod.snd = (a.permAt s).map Prod.snd ∨
      ((updatePermission clk a addr).2.permAt s).map Prod.snd =
        some (clk.ctime + clk.permissionLifetime) := by
  rcases h.updatePermission_noPort clk hport with ⟨-, heq⟩ | ⟨r, info, hfound, hr, heq⟩
  · rw [heq]
    exact Or.inl rfl
  rw [heq, setDeadline, permAt_modify]
  split_ifs with hs
  · subst hs
    rw [hr.permAt_eq]
    exact Or.inr rfl
  · rw [permAt_getOrAddPermission fun hs' => hs (mem_unique hfound hs').symm]
    exact Or.inl rfl

lemma AddrTables.Consistent.permTime_createPermissions (h : a.Consistent) (peers : List IoaAddr)
    (s : PermPtr) :
    ((createPermissions clk a peers).2.permAt s).map Prod.snd = (a.permAt s).map Prod.snd ∨
      ((createPermissions clk a peers).2.permAt s).map Prod.snd =
        some (clk.ctime + clk.permissionLifetime) := by
  induction peers generalizing a with
  | nil => exact Or.inl rfl
  | cons peer peers ih =>
    have hstep := h.permTime_updatePermission clk (addrGetPort_addrSetPort_zero peer) s
    have hmoves : RequestMoves clk (fun _ => True) a
        (updatePermission clk a (addrSetPort 0 peer)).2 := h.updatePermission_moves clk trivial
    rcases ih (hmoves.consistent h) with hlater | hlater
    · rw [createPermissions, hlater]
      exact hstep
    · exact Or.inr hlater

/-- A CreatePermission leaves the tables as they are exactly when all permissions that it visits
have their new deadline. -/
theorem AddrTables.Consistent.createPermissions_sameContents_iff (h : a.Consistent)
    (peers : List IoaAddr) :
    a.SameContents (createPermissions clk a peers).2 ↔
      ∀ peer ∈ peers, a.Idle clk (addrSetPort 0 peer) := by
  induction peers with
  | nil => exact iff_of_true (SameContents.refl a) (by simp)
  | cons peer peers ih =>
    have hport := addrGetPort_addrSetPort_zero peer
    rw [List.forall_mem_cons, createPermissions]
    constructor
    · intro hsame
      have hidle : a.Idle clk (addrSetPort 0 peer) := by
        intro r hfound
        rcases h.updatePermission_noPort clk hport with ⟨hnone, -⟩ | ⟨s, info, hfound', hs, heq⟩
        · exact absurd (hnone.symm.trans hfound) (by simp)
        obtain rfl := mem_unique hfound' hfound
        -- the deadline that this round sets is there at the end, and so it was there before
        have hmoves : RequestMoves clk (fun _ => True) a
            (updatePermission clk a (addrSetPort 0 peer)).2 := h.updatePermission_moves clk trivial
        have hset : ((updatePermission clk a (addrSetPort 0 peer)).2.permAt s).map Prod.snd =
            some (clk.ctime + clk.permissionLifetime) := by
          rw [heq, setDeadline, permAt_modify, if_pos rfl, hs.permAt_eq]
          rfl
        rw [← hsame.perm s]
        rcases (hmoves.consistent h).permTime_createPermissions clk peers s with hend | hend
        · exact hend.trans hset
        · exact hend
      rw [h.updatePermission_of_idle clk hport hidle] at hsame
      exact ⟨hidle, ih.mp hsame⟩
    · rintro ⟨hidle, hrest⟩
      rw [h.updatePermission_of_idle clk hport hidle]
      exact ih.mpr hrest

/-! ## ChannelBind -/

/-- The channel of the number has its new deadline already, and so has its permission. -/
def AddrTables.ChIdle (a : AddrTables) (chnum : UInt16) : Prop :=
  ∃ c chn r info, allocationGetChInfo a chnum = some c ∧ a.LiveCh c chn ∧ chn.owner = some r ∧
    a.LivePerm r info ∧ chn.expirationTime = clk.ctime + clk.channelLifetime ∧
    info.expirationTime = clk.ctime + clk.channelPermLifetime

lemma AddrTables.Consistent.updateChannelLifetime_eq (h : a.Consistent) {chn : ChInfo}
    (hc : a.LiveCh c chn) (howner : chn.owner = some r) (hr : a.LivePerm r info) :
    (updateChannelLifetime clk a c).2 =
      ⟨a.addrToPerm.modify r fun info =>
          { info with expirationTime := clk.ctime + clk.channelPermLifetime },
        a.chns.modify c fun chn =>
          { chn with expirationTime := clk.ctime + clk.channelLifetime }⟩ := by
  have howner' : (a.chns.get? c).bind ChInfo.owner = some r := by rw [hc.1]; exact howner
  simp only [updateChannelLifetime, howner', h.updateTurnPermissionLifetime_eq clk hr]
  rfl

/-- So does a ChannelBind exactly when it refreshes a channel that has its new deadline already. -/
theorem AddrTables.Consistent.bindChannel_sameContents_iff (h : a.Consistent)
    {goodPeer : IoaAddr → Bool} {chnum : UInt16} {peerAddr : IoaAddr} {addrFound : Bool}
    (hport : addrFound = true → addrGetPort peerAddr ≠ 0)
    (hok : (bindChannel clk goodPeer a chnum peerAddr addrFound).1 = none) :
    a.SameContents (bindChannel clk goodPeer a chnum peerAddr addrFound).2 ↔
      a.ChIdle clk chnum := by
  rcases h.bindChannel_cases clk goodPeer chnum peerAddr hport with
    ⟨-, e, heq⟩ | ⟨a₁, c, chn, heq, h₁, hc, hchnum, -, hcases⟩
  · rw [heq] at hok
    exact absurd hok (by simp)
  obtain ⟨r, info, howner, hr, -, -⟩ := h₁.ch_owner c chn hc
  rw [heq, h₁.updateChannelLifetime_eq clk hc howner hr]
  rcases hcases with ⟨rfl, hfound⟩ | ⟨hnone, hnew⟩
  · constructor
    · intro hsame
      have hperm := hsame.perm r
      have hch := hsame.ch c
      rw [permAt_modify, if_pos rfl, hr.permAt_eq] at hperm
      rw [chAt_modify, if_pos rfl, hc.chAt_eq] at hch
      simp only [map_some, some_inj, Prod.mk.injEq, true_and] at hperm hch
      exact ⟨c, chn, r, info, hfound, hc, howner, hr, hch.symm, hperm.symm⟩
    · rintro ⟨c', chn', r', info', hfound', hc', howner', hr', hchTime, hpermTime⟩
      obtain rfl := mem_unique hfound hfound'
      obtain rfl := hc.unique hc'
      obtain rfl := mem_unique howner howner'
      obtain rfl := hr.unique hr'
      refine ⟨fun s => ?_, fun d => ?_⟩
      · rw [permAt_modify]
        split_ifs with hs
        · rw [hs, hr.permAt_eq, ← hpermTime]
          rfl
        · rfl
      · rw [chAt_modify]
        split_ifs with hd
        · rw [hd, hc.chAt_eq, ← hchTime]
          rfl
        · rfl
  · -- the channel is new, so the tables are not what they were
    constructor
    · intro hsame
      have hch := hsame.ch c
      rw [chAt_modify, if_pos rfl, hc.chAt_eq, map_some] at hch
      obtain ⟨chn', hc', hchn'⟩ := exists_liveCh_of_chAt hch.symm
      exact absurd ((congrArg Prod.fst hchn').trans hchnum) (h.chnum_ne_of_get_none hnone hc')
    · rintro ⟨c', -, -, -, hfound, -⟩
      exact absurd (hnone.symm.trans hfound) (by simp)

end Coturn
