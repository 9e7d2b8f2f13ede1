/-
# The tables stay consistent

A channel points to its owner, and the owner's port map points to the channel. Slots are used again,
so nothing but this invariant keeps a pointer from leading to the wrong channel. The requests and
timeouts are sequences of five moves: a new permission, a new channel, new lifetimes, and the
removal of either.
-/
import Coturn.Allocation.Tables
import Mathlib.Logic.Relation

namespace Coturn

open Option

namespace AddrTables

/-- The slot holds the permission `info`. -/
def LivePerm (a : AddrTables) (r : PermPtr) (info : TurnPermissionInfo) : Prop :=
  a.addrToPerm.get? r = some info ∧ info.allocated = true

/-- The slot holds the channel `chn`. -/
def LiveCh (a : AddrTables) (c : ChPtr) (chn : ChInfo) : Prop :=
  a.chns.get? c = some chn ∧ chn.allocated = true

/-- Permissions and channels refer to each other. -/
structure Consistent (a : AddrTables) : Prop where
  perm_row : ∀ r info, a.LivePerm r info → r.1 = permIndex info.addr
  perm_owned : ∀ r info, a.LivePerm r info → info.owned = true
  perm_map_wf : ∀ r info, a.LivePerm r info → info.chns.Wf
  perm_unique : ∀ r s info info', a.LivePerm r info → a.LivePerm s info' →
    addrEqNoPort info.addr info'.addr = true → r = s
  /-- An entry of a port map leads to a live channel of that permission and port. -/
  perm_entry : ∀ r info, a.LivePerm r info → ∀ k c, info.chns.Holds k c →
    ∃ chn, a.LiveCh c chn ∧ chn.owner = some r ∧ (addrGetPort chn.peerAddr).toNat = k
  ch_row : ∀ c chn, a.LiveCh c chn → c.1 = chIndex chn.chnum
  ch_valid : ∀ c chn, a.LiveCh c chn → stunValidChannel chn.chnum = true
  ch_port : ∀ c chn, a.LiveCh c chn → chn.port = addrGetPort chn.peerAddr
  /-- A live channel has a live owner with the same IP, which points back to it. -/
  ch_owner : ∀ c chn, a.LiveCh c chn → ∃ r info, chn.owner = some r ∧ a.LivePerm r info ∧
    addrEqNoPort info.addr chn.peerAddr = true ∧
    info.chns.Holds (addrGetPort chn.peerAddr).toNat c
  ch_num_unique : ∀ c d chn chn', a.LiveCh c chn → a.LiveCh d chn' →
    chn.chnum = chn'.chnum → c = d
  /-- A channel slot that is not in use is cleared. -/
  ch_free : ∀ c chn, a.chns.get? c = some chn → chn.allocated = false → chn = ChInfo.empty

variable {a : AddrTables}

lemma LivePerm.unique {r : PermPtr} {info info' : TurnPermissionInfo} (h : a.LivePerm r info)
    (h' : a.LivePerm r info') : info = info' :=
  mem_unique h.1 h'.1

lemma LiveCh.unique {c : ChPtr} {chn chn' : ChInfo} (h : a.LiveCh c chn)
    (h' : a.LiveCh c chn') : chn = chn' :=
  mem_unique h.1 h'.1

lemma init_not_livePerm {r : PermPtr} {info : TurnPermissionInfo} :
    ¬ init.LivePerm r info := by
  rintro ⟨hget, hlive⟩
  have hempty : info = TurnPermissionInfo.empty :=
    List.eq_of_mem_replicate (List.mem_of_getElem? hget)
  rw [hempty] at hlive
  exact absurd hlive (by simp [TurnPermissionInfo.empty])

lemma init_get?_chns {c : ChPtr} {chn : ChInfo} (h : init.chns.get? c = some chn) :
    chn = ChInfo.empty :=
  List.eq_of_mem_replicate (List.mem_of_getElem? h)

lemma init_not_liveCh {c : ChPtr} {chn : ChInfo} : ¬ init.LiveCh c chn := by
  rintro ⟨hget, hlive⟩
  rw [init_get?_chns hget] at hlive
  exact absurd hlive (by simp [ChInfo.empty])

lemma init_consistent : init.Consistent where
  perm_row _ _ h := absurd h init_not_livePerm
  perm_owned _ _ h := absurd h init_not_livePerm
  perm_map_wf _ _ h := absurd h init_not_livePerm
  perm_unique _ _ _ _ h := absurd h init_not_livePerm
  perm_entry _ _ h := absurd h init_not_livePerm
  ch_row _ _ h := absurd h init_not_liveCh
  ch_valid _ _ h := absurd h init_not_liveCh
  ch_port _ _ h := absurd h init_not_liveCh
  ch_owner _ _ h := absurd h init_not_liveCh
  ch_num_unique _ _ _ _ h := absurd h init_not_liveCh
  ch_free _ _ h _ := init_get?_chns h

lemma Consistent.ch_peer_unique (h : a.Consistent) {c d : ChPtr} {chn chn' : ChInfo}
    (hc : a.LiveCh c chn) (hd : a.LiveCh d chn') (heq : addrEq chn.peerAddr chn'.peerAddr = true) :
    c = d := by
  obtain ⟨hip, hport⟩ := addrEq_iff.mp heq
  obtain ⟨r, info, -, hr, haddr, hmap⟩ := h.ch_owner c chn hc
  obtain ⟨s, info', -, hs, haddr', hmap'⟩ := h.ch_owner d chn' hd
  have hsame : addrEqNoPort info.addr info'.addr = true :=
    addrEqNoPort_trans (addrEqNoPort_trans haddr hip) (addrEqNoPort_symm haddr')
  obtain rfl := h.perm_unique r s info info' hr hs hsame
  obtain rfl := hr.unique hs
  rw [hport] at hmap
  exact (h.perm_map_wf r info hr).holds_unique hmap hmap'

end AddrTables

/-! ## The moves -/

open AddrTables

/-- One thing that a request does to the tables; `P` holds of the addresses that get permissions. -/
inductive RequestMove (clk : ServerClock) (P : IoaAddr → Prop) : AddrTables → AddrTables → Prop
  | addPerm (a : AddrTables) (addr : IoaAddr) : P addr →
      (∀ r info, a.LivePerm r info → addrEqNoPort info.addr addr = false) →
      RequestMove clk P a (a.addPerm addr)
  | addCh (a : AddrTables) (r : PermPtr) (info : TurnPermissionInfo) (chnum : UInt16)
      (peerAddr : IoaAddr) : a.LivePerm r info → addrEqNoPort info.addr peerAddr = true →
      stunValidChannel chnum = true → (∀ c chn, a.LiveCh c chn → chn.chnum ≠ chnum) →
      addrGetPort peerAddr ≠ 0 → (∀ c, ¬ info.chns.Holds (addrGetPort peerAddr).toNat c) →
      RequestMove clk P a (addChInfo a r chnum peerAddr).2
  | touchPerm (a : AddrTables) (r : PermPtr) (timeDelta : UInt32) :
      timeDelta = clk.permissionLifetime ∨ timeDelta = clk.channelPermLifetime →
      RequestMove clk P a (a.touchPerm r (clk.ctime + timeDelta))
  /-- A new lifetime for a channel, whose permission has just got one. -/
  | touchCh (a : AddrTables) (c : ChPtr) (chn : ChInfo) (r : PermPtr) (info : TurnPermissionInfo) :
      a.LiveCh c chn → chn.owner = some r → a.LivePerm r info →
      info.expirationTime = clk.ctime + clk.channelPermLifetime →
      RequestMove clk P a (a.touchCh c (clk.ctime + clk.channelLifetime))

/-- Something expires. -/
inductive ExpiryMove : AddrTables → AddrTables → Prop
  | delCh (a : AddrTables) (c : ChPtr) : ExpiryMove a (turnChannelDelete a c)
  | cleanPerm (a : AddrTables) (r : PermPtr) : ExpiryMove a (turnPermissionClean a r)

variable {a a' : AddrTables}

/-! ## New lifetimes -/

lemma AddrTables.Consistent.of_times (h : a.Consistent)
    (hperm : ∀ r info', a'.LivePerm r info' → ∃ t, a.LivePerm r { info' with expirationTime := t })
    (hperm' : ∀ r info, a.LivePerm r info → ∃ t, a'.LivePerm r { info with expirationTime := t })
    (hch : ∀ c chn', a'.LiveCh c chn' → ∃ t, a.LiveCh c { chn' with expirationTime := t })
    (hch' : ∀ c chn, a.LiveCh c chn → ∃ t, a'.LiveCh c { chn with expirationTime := t })
    (hfree : ∀ c chn, a'.chns.get? c = some chn → chn.allocated = false → chn = ChInfo.empty) :
    a'.Consistent where
  perm_row r info hr := by
    obtain ⟨t, hr'⟩ := hperm r info hr
    exact (h.perm_row r _ hr' :)
  perm_owned r info hr := by
    obtain ⟨t, hr'⟩ := hperm r info hr
    exact (h.perm_owned r _ hr' :)
  perm_map_wf r info hr := by
    obtain ⟨t, hr'⟩ := hperm r info hr
    exact (h.perm_map_wf r _ hr' :)
  perm_unique r s info info' hr hs heq := by
    obtain ⟨t, hr'⟩ := hperm r info hr
    obtain ⟨t', hs'⟩ := hperm s info' hs
    exact h.perm_unique r s _ _ hr' hs' heq
  perm_entry r info hr k c hk := by
    obtain ⟨t, hr'⟩ := hperm r info hr
    obtain ⟨chn, hc, howner, hport⟩ := h.perm_entry r _ hr' k c hk
    obtain ⟨t', hc'⟩ := hch' c chn hc
    exact ⟨_, hc', howner, hport⟩
  ch_row c chn hc := by
    obtain ⟨t, hc'⟩ := hch c chn hc
    exact (h.ch_row c _ hc' :)
  ch_valid c chn hc := by
    obtain ⟨t, hc'⟩ := hch c chn hc
    exact (h.ch_valid c _ hc' :)
  ch_port c chn hc := by
    obtain ⟨t, hc'⟩ := hch c chn hc
    exact (h.ch_port c _ hc' :)
  ch_owner c chn hc := by
    obtain ⟨t, hc'⟩ := hch c chn hc
    obtain ⟨r, info, howner, hr, haddr, hmap⟩ := h.ch_owner c _ hc'
    obtain ⟨t', hr'⟩ := hperm' r info hr
    exact ⟨r, _, howner, hr', haddr, hmap⟩
  ch_num_unique c d chn chn' hc hd heq := by
    obtain ⟨t, hc'⟩ := hch c chn hc
    obtain ⟨t', hd'⟩ := hch d chn' hd
    exact h.ch_num_unique c d _ _ hc' hd' heq
  ch_free := hfree

lemma AddrTables.Consistent.touchPerm (h : a.Consistent) (r : PermPtr) (t : UInt32) :
    (a.touchPerm r t).Consistent := by
  refine h.of_times (fun s info' hs => ?_) (fun s info hs => ?_) (fun c chn hc => ⟨_, hc⟩)
    (fun c chn hc => ⟨_, hc⟩) h.ch_free
  · rcases SlotTable.get?_modify_eq_some hs.1 with ⟨rfl, info, hget, rfl⟩ | ⟨-, hget⟩
    · exact ⟨info.expirationTime, hget, hs.2⟩
    · exact ⟨_, hget, hs.2⟩
  · by_cases hsr : s = r
    · subst hsr
      exact ⟨t, by simp [LivePerm, hs.1, hs.2]⟩
    · exact ⟨info.expirationTime, by simpa [LivePerm, SlotTable.get?_modify_of_ne hsr] using hs⟩

lemma AddrTables.Consistent.touchCh (h : a.Consistent) {c : ChPtr} {chn : ChInfo}
    (hc : a.LiveCh c chn) (t : UInt32) : (a.touchCh c t).Consistent := by
  refine h.of_times (fun r info hr => ⟨_, hr⟩) (fun r info hr => ⟨_, hr⟩) (fun d chn' hd => ?_)
    (fun d chn' hd => ?_) (fun d chn' hd hfree => ?_)
  · rcases SlotTable.get?_modify_eq_some hd.1 with ⟨rfl, chn, hget, rfl⟩ | ⟨-, hget⟩
    · exact ⟨chn.expirationTime, hget, hd.2⟩
    · exact ⟨_, hget, hd.2⟩
  · by_cases hdc : d = c
    · subst hdc
      exact ⟨t, by simp [LiveCh, hd.1, hd.2]⟩
    · exact ⟨chn'.expirationTime, by simpa [LiveCh, SlotTable.get?_modify_of_ne hdc] using hd⟩
  · rcases SlotTable.get?_modify_eq_some hd with ⟨rfl, x, hget, rfl⟩ | ⟨-, hget⟩
    · obtain rfl : chn = x := mem_unique hc.1 hget
      exact absurd (hc.2.symm.trans hfree) (by simp)
    · exact h.ch_free d chn' hget hfree

/-! ## A new permission -/

section AddPerm

variable (a) (addr : IoaAddr)

lemma livePerm_fill_iff {r : PermPtr} {info : TurnPermissionInfo} :
    (a.addPerm addr).LivePerm r info ↔
      (r = a.addrToPerm.freePlace (permIndex addr) (fun info => !info.allocated) ∧
        info = .new addr) ∨ a.LivePerm r info :=
  SlotTable.fill_live_iff rfl

lemma AddrTables.Consistent.addPerm (h : a.Consistent)
    (hnew : ∀ r info, a.LivePerm r info → addrEqNoPort info.addr addr = false) :
    (a.addPerm addr).Consistent where
  perm_row r info hr := by
    rcases (livePerm_fill_iff a addr).mp hr with ⟨rfl, rfl⟩ | hold
    · rfl
    · exact h.perm_row r info hold
  perm_owned r info hr := by
    rcases (livePerm_fill_iff a addr).mp hr with ⟨rfl, rfl⟩ | hold
    · rfl
    · exact h.perm_owned r info hold
  perm_map_wf r info hr := by
    rcases (livePerm_fill_iff a addr).mp hr with ⟨rfl, rfl⟩ | hold
    · exact lmMapInit_wf
    · exact h.perm_map_wf r info hold
  perm_unique r s info info' hr hs heq := by
    rcases (livePerm_fill_iff a addr).mp hr with ⟨rfl, rfl⟩ | hold <;>
      rcases (livePerm_fill_iff a addr).mp hs with ⟨rfl, rfl⟩ | hold'
    · rfl
    · exact absurd (addrEqNoPort_symm heq) (Bool.eq_false_iff.mp (hnew s info' hold'))
    · exact absurd heq (Bool.eq_false_iff.mp (hnew r info hold))
    · exact h.perm_unique r s info info' hold hold' heq
  perm_entry r info hr k c hk := by
    rcases (livePerm_fill_iff a addr).mp hr with ⟨rfl, rfl⟩ | hold
    · exact absurd hk lmMapInit_not_holds
    · exact h.perm_entry r info hold k c hk
  ch_row := h.ch_row
  ch_valid := h.ch_valid
  ch_port := h.ch_port
  ch_owner c chn hc := by
    obtain ⟨r, info, howner, hr, hrest⟩ := h.ch_owner c chn hc
    exact ⟨r, info, howner, (livePerm_fill_iff a addr).mpr (Or.inr hr), hrest⟩
  ch_num_unique := h.ch_num_unique
  ch_free := h.ch_free

end AddPerm

/-! ## A new channel -/

section AddCh

variable {r : PermPtr} {info : TurnPermissionInfo} {chnum : UInt16} {peerAddr : IoaAddr}

/-- A channel that is bound. -/
def newChInfo (r : PermPtr) (chnum : UInt16) (peerAddr : IoaAddr) : ChInfo :=
  ⟨chnum, true, addrGetPort peerAddr, peerAddr, 0, some r⟩

lemma AddrTables.Consistent.liveCh_addChInfo_iff (h : a.Consistent) {c : ChPtr} {chn : ChInfo} :
    (addChInfo a r chnum peerAddr).2.LiveCh c chn ↔
      (c = (addChInfo a r chnum peerAddr).1 ∧ chn = newChInfo r chnum peerAddr) ∨
        a.LiveCh c chn := by
  have hslot : (a.chns.get? (addChInfo a r chnum peerAddr).1).getD ChInfo.empty =
      ChInfo.empty := by
    cases hget : a.chns.get? (addChInfo a r chnum peerAddr).1 with
    | none => rfl
    | some x =>
      have hfree : x.allocated = false := by
        simpa using SlotTable.free_of_get?_freePlace hget
      exact h.ch_free _ x hget hfree
  have hnew : (addChInfo a r chnum peerAddr).2.chns =
      a.chns.fill (chIndex chnum) (fun c => !c.allocated) (newChInfo r chnum peerAddr) := by
    show a.chns.fill _ _ { (a.chns.get? (addChInfo a r chnum peerAddr).1).getD ChInfo.empty with
      allocated := true, chnum := chnum, port := addrGetPort peerAddr, peerAddr := peerAddr,
      owner := some r } = _
    rw [hslot]
    rfl
  rw [LiveCh, hnew]
  exact SlotTable.fill_live_iff rfl

lemma livePerm_addChInfo_iff (hr : a.LivePerm r info) {s : PermPtr} {x : TurnPermissionInfo} :
    (addChInfo a r chnum peerAddr).2.LivePerm s x ↔
      (s = r ∧ x = { info with chns := (lmMapPut info.chns (addrGetPort peerAddr).toNat
        (addChInfo a r chnum peerAddr).1).2 }) ∨ (s ≠ r ∧ a.LivePerm s x) :=
  SlotTable.modify_live_iff hr.1 hr.2

variable (h : a.Consistent) (hr : a.LivePerm r info)
  (hip : addrEqNoPort info.addr peerAddr = true) (hvalid : stunValidChannel chnum = true)
  (hnum : ∀ c chn, a.LiveCh c chn → chn.chnum ≠ chnum) (hport : addrGetPort peerAddr ≠ 0)
  (hmap : ∀ c, ¬ info.chns.Holds (addrGetPort peerAddr).toNat c)

include h hr hport hmap in
lemma holds_addChInfo_iff {k : ℕ} {c : ChPtr} :
    (lmMapPut info.chns (addrGetPort peerAddr).toNat (addChInfo a r chnum peerAddr).1).2.Holds k c ↔
      (k = (addrGetPort peerAddr).toNat ∧ c = (addChInfo a r chnum peerAddr).1) ∨
        info.chns.Holds k c :=
  (h.perm_map_wf r info hr).holds_put_iff (fun hzero => hport (UInt16.toNat_inj.mp hzero)) hmap

include h hr hip hvalid hnum hport hmap in
lemma AddrTables.Consistent.addCh : (addChInfo a r chnum peerAddr).2.Consistent where
  perm_row s x hs := by
    rcases (livePerm_addChInfo_iff hr).mp hs with ⟨rfl, rfl⟩ | ⟨-, hold⟩
    · exact (h.perm_row s info hr :)
    · exact h.perm_row s x hold
  perm_owned s x hs := by
    rcases (livePerm_addChInfo_iff hr).mp hs with ⟨rfl, rfl⟩ | ⟨-, hold⟩
    · exact (h.perm_owned s info hr :)
    · exact h.perm_owned s x hold
  perm_map_wf s x hs := by
    rcases (livePerm_addChInfo_iff hr).mp hs with ⟨rfl, rfl⟩ | ⟨-, hold⟩
    · exact (h.perm_map_wf s info hr).put (fun hzero => hport (UInt16.toNat_inj.mp hzero)) hmap
    · exact h.perm_map_wf s x hold
  perm_unique s s' x x' hs hs' heq := by
    rcases (livePerm_addChInfo_iff hr).mp hs with ⟨rfl, rfl⟩ | ⟨-, hold⟩ <;>
      rcases (livePerm_addChInfo_iff hr).mp hs' with ⟨rfl, rfl⟩ | ⟨-, hold'⟩
    · rfl
    · exact h.perm_unique s s' info x' hr hold' heq
    · exact h.perm_unique s s' x info hold hr heq
    · exact h.perm_unique s s' x x' hold hold' heq
  perm_entry s x hs k c hk := by
    rcases (livePerm_addChInfo_iff hr).mp hs with ⟨rfl, rfl⟩ | ⟨-, hold⟩
    · rcases (holds_addChInfo_iff h hr hport hmap).mp hk with ⟨rfl, rfl⟩ | hk'
      · exact ⟨_, h.liveCh_addChInfo_iff.mpr (Or.inl ⟨rfl, rfl⟩), rfl, rfl⟩
      · obtain ⟨chn, hc, hrest⟩ := h.perm_entry s info hr k c hk'
        exact ⟨chn, h.liveCh_addChInfo_iff.mpr (Or.inr hc), hrest⟩
    · obtain ⟨chn, hc, hrest⟩ := h.perm_entry s x hold k c hk
      exact ⟨chn, h.liveCh_addChInfo_iff.mpr (Or.inr hc), hrest⟩
  ch_row c chn hc := by
    rcases h.liveCh_addChInfo_iff.mp hc with ⟨rfl, rfl⟩ | hold
    · rfl
    · exact h.ch_row c chn hold
  ch_valid c chn hc := by
    rcases h.liveCh_addChInfo_iff.mp hc with ⟨rfl, rfl⟩ | hold
    · exact hvalid
    · exact h.ch_valid c chn hold
  ch_port c chn hc := by
    rcases h.liveCh_addChInfo_iff.mp hc with ⟨rfl, rfl⟩ | hold
    · rfl
    · exact h.ch_port c chn hold
  ch_owner c chn hc := by
    rcases h.liveCh_addChInfo_iff.mp hc with ⟨rfl, rfl⟩ | hold
    · exact ⟨r, _, rfl, (livePerm_addChInfo_iff hr).mpr (Or.inl ⟨rfl, rfl⟩), hip,
        (holds_addChInfo_iff h hr hport hmap).mpr (Or.inl ⟨rfl, rfl⟩)⟩
    · obtain ⟨s, x, howner, hs, haddr, hk⟩ := h.ch_owner c chn hold
      by_cases hsr : s = r
      · subst hsr
        obtain rfl := hs.unique hr
        exact ⟨s, _, howner, (livePerm_addChInfo_iff hr).mpr (Or.inl ⟨rfl, rfl⟩), haddr,
          (holds_addChInfo_iff h hr hport hmap).mpr (Or.inr hk)⟩
      · exact ⟨s, x, howner, (livePerm_addChInfo_iff hr).mpr (Or.inr ⟨hsr, hs⟩), haddr, hk⟩
  ch_num_unique c d chn chn' hc hd heq := by
    rcases h.liveCh_addChInfo_iff.mp hc with ⟨rfl, rfl⟩ | hold <;>
      rcases h.liveCh_addChInfo_iff.mp hd with ⟨rfl, rfl⟩ | hold'
    · rfl
    · exact absurd heq.symm (hnum d chn' hold')
    · exact absurd heq (hnum c chn hold)
    · exact h.ch_num_unique c d chn chn' hold hold' heq
  ch_free c chn hget hfree := by
    rcases SlotTable.get?_fill_eq_some hget with ⟨rfl, rfl⟩ | ⟨-, hold⟩
    · exact absurd hfree (by simp)
    · exact h.ch_free c chn hold hfree

end AddCh

/-! ## Removing a channel -/

section DelCh

variable {c : ChPtr} {chn : ChInfo} {r : PermPtr} {info : TurnPermissionInfo}

lemma liveCh_turnChannelDelete_iff (hc : a.LiveCh c chn) {d : ChPtr} {x : ChInfo} :
    (turnChannelDelete a c).LiveCh d x ↔ d ≠ c ∧ a.LiveCh d x := by
  simp only [LiveCh, turnChannelDelete, hc.1, chInfoClean]
  exact SlotTable.clear_live_iff rfl

lemma livePerm_turnChannelDelete_iff (hc : a.LiveCh c chn) (howner : chn.owner = some r)
    (hr : a.LivePerm r info) {s : PermPtr} {x : TurnPermissionInfo} :
    (turnChannelDelete a c).LivePerm s x ↔
      (s = r ∧ x = { info with
        chns := (lmMapDel info.chns (addrGetPort chn.peerAddr).toNat).2 }) ∨
      (s ≠ r ∧ a.LivePerm s x) := by
  simp only [LivePerm, turnChannelDelete, hc.1, howner, elim_some]
  exact SlotTable.modify_live_iff hr.1 hr.2

lemma AddrTables.Consistent.get?_turnChannelDelete_free (h : a.Consistent)
    (hc : a.chns.get? c = some chn) (hfree : chn.allocated = false) :
    (turnChannelDelete a c).addrToPerm = a.addrToPerm ∧
      ∀ d, (turnChannelDelete a c).chns.get? d = a.chns.get? d := by
  obtain rfl := h.ch_free c chn hc hfree
  simp only [turnChannelDelete, hc, chInfoClean]
  refine ⟨rfl, fun d => ?_⟩
  rw [SlotTable.get?_modify]
  split_ifs with hd
  · rw [hd, hc]
    rfl
  · rfl

lemma AddrTables.Consistent.entry_of_delCh (h : a.Consistent) (hc : a.LiveCh c chn)
    (howner : chn.owner = some r) (hr : a.LivePerm r info) {k : ℕ} {d : ChPtr} :
    (lmMapDel info.chns (addrGetPort chn.peerAddr).toNat).2.Holds k d ↔
      d ≠ c ∧ info.chns.Holds k d := by
  rw [(h.perm_map_wf r info hr).holds_del_iff]
  obtain ⟨s, x, howner', hs, -, hmap⟩ := h.ch_owner c chn hc
  obtain rfl : r = s := mem_unique howner howner'
  obtain rfl := hr.unique hs
  refine and_congr_left fun hk => not_congr ⟨?_, ?_⟩
  · rintro rfl
    exact (h.perm_map_wf r info hr).holds_unique hk hmap
  · rintro rfl
    obtain ⟨y, hy, -, hport⟩ := h.perm_entry r info hr k d hk
    rw [← hport, hy.unique hc]

lemma AddrTables.Consistent.delCh_live (h : a.Consistent) (hc : a.LiveCh c chn) :
    (turnChannelDelete a c).Consistent := by
  obtain ⟨r, info, howner, hr, -, -⟩ := h.ch_owner c chn hc
  have hperm := @livePerm_turnChannelDelete_iff _ _ _ _ _ hc howner hr
  have hch := @liveCh_turnChannelDelete_iff _ _ _ hc
  have hentry := @AddrTables.Consistent.entry_of_delCh _ _ _ _ _ h hc howner hr
  refine ⟨fun s x hs => ?_, fun s x hs => ?_, fun s x hs => ?_, fun s s' x x' hs hs' heq => ?_,
    fun s x hs k d hk => ?_, fun d x hd => h.ch_row d x (hch.mp hd).2,
    fun d x hd => h.ch_valid d x (hch.mp hd).2, fun d x hd => h.ch_port d x (hch.mp hd).2,
    fun d x hd => ?_,
    fun d e x y hd he => h.ch_num_unique d e x y (hch.mp hd).2 (hch.mp he).2,
    fun d x hget hfree => ?_⟩
  · rcases hperm.mp hs with ⟨rfl, rfl⟩ | ⟨-, hold⟩
    · exact (h.perm_row s info hr :)
    · exact h.perm_row s x hold
  · rcases hperm.mp hs with ⟨rfl, rfl⟩ | ⟨-, hold⟩
    · exact (h.perm_owned s info hr :)
    · exact h.perm_owned s x hold
  · rcases hperm.mp hs with ⟨rfl, rfl⟩ | ⟨-, hold⟩
    · exact (h.perm_map_wf s info hr).del
    · exact h.perm_map_wf s x hold
  · rcases hperm.mp hs with ⟨rfl, rfl⟩ | ⟨-, hold⟩ <;>
      rcases hperm.mp hs' with ⟨rfl, rfl⟩ | ⟨-, hold'⟩
    · rfl
    · exact h.perm_unique s s' info x' hr hold' heq
    · exact h.perm_unique s s' x info hold hr heq
    · exact h.perm_unique s s' x x' hold hold' heq
  · rcases hperm.mp hs with ⟨rfl, rfl⟩ | ⟨hne, hold⟩
    · obtain ⟨hdc, hk'⟩ := hentry.mp hk
      obtain ⟨y, hy, hrest⟩ := h.perm_entry s info hr k d hk'
      exact ⟨y, hch.mpr ⟨hdc, hy⟩, hrest⟩
    · obtain ⟨y, hy, howner', hport⟩ := h.perm_entry s x hold k d hk
      have hdc : d ≠ c := by
        rintro rfl
        obtain rfl := hy.unique hc
        exact hne (mem_unique howner' howner)
      exact ⟨y, hch.mpr ⟨hdc, hy⟩, howner', hport⟩
  · obtain ⟨hdc, hd'⟩ := hch.mp hd
    obtain ⟨s, y, howner', hs, haddr, hmap⟩ := h.ch_owner d x hd'
    by_cases hsr : s = r
    · subst hsr
      obtain rfl := hs.unique hr
      exact ⟨s, _, howner', hperm.mpr (Or.inl ⟨rfl, rfl⟩), haddr, hentry.mpr ⟨hdc, hmap⟩⟩
    · exact ⟨s, y, howner', hperm.mpr (Or.inr ⟨hsr, hs⟩), haddr, hmap⟩
  · simp only [turnChannelDelete, hc.1, chInfoClean] at hget
    rcases SlotTable.get?_modify_eq_some hget with ⟨-, y, -, rfl⟩ | ⟨-, hold⟩
    · rfl
    · exact h.ch_free d x hold hfree

lemma AddrTables.Consistent.delCh (h : a.Consistent) (c : ChPtr) :
    (turnChannelDelete a c).Consistent := by
  cases hget : a.chns.get? c with
  | none => simpa only [turnChannelDelete, hget] using h
  | some chn =>
    cases hlive : chn.allocated with
    | true => exact h.delCh_live ⟨hget, hlive⟩
    | false =>
      obtain ⟨hperm, hch⟩ := h.get?_turnChannelDelete_free hget hlive
      refine h.of_times (fun r info hr => ⟨info.expirationTime, ?_⟩)
        (fun r info hr => ⟨info.expirationTime, ?_⟩) (fun d x hd => ⟨x.expirationTime, ?_⟩)
        (fun d x hd => ⟨x.expirationTime, ?_⟩) (fun d x hd => h.ch_free d x (hch d ▸ hd))
      · simpa only [LivePerm, hperm] using hr
      · simpa only [LivePerm, hperm] using hr
      · simpa only [LiveCh, hch] using hd
      · simpa only [LiveCh, hch] using hd

end DelCh

/-! ## Removing a permission -/

section CleanPerm

variable {r : PermPtr} {info : TurnPermissionInfo}

lemma get?_foldl_chInfoClean (cs : List ChPtr) (chns : SlotTable 8 ChInfo) (d : ChPtr) :
    (cs.foldl chInfoClean chns).get? d =
      if d ∈ cs then (chns.get? d).map fun _ => ChInfo.empty else chns.get? d := by
  induction cs generalizing chns with
  | nil => rfl
  | cons c cs ih =>
    rw [List.foldl_cons, ih, chInfoClean, SlotTable.get?_modify]
    by_cases hdc : d = c <;> by_cases hd : d ∈ cs <;> simp [hdc, hd]
    · simp [← hdc, hd, Function.comp_def]
    · simp [← hdc, hd]

lemma livePerm_turnPermissionClean_iff (hr : a.LivePerm r info) {s : PermPtr}
    {x : TurnPermissionInfo} :
    (turnPermissionClean a r).LivePerm s x ↔ s ≠ r ∧ a.LivePerm s x := by
  simp only [LivePerm, turnPermissionClean, hr.1, hr.2, Bool.not_true, Bool.false_eq_true,
    if_false]
  exact SlotTable.clear_live_iff rfl

lemma get?_chns_turnPermissionClean (hr : a.LivePerm r info) (d : ChPtr) :
    (turnPermissionClean a r).chns.get? d =
      if d ∈ lmMapValues info.chns then (a.chns.get? d).map fun _ => ChInfo.empty
      else a.chns.get? d := by
  simp only [turnPermissionClean, hr.1, hr.2, Bool.not_true, Bool.false_eq_true, if_false]
  exact get?_foldl_chInfoClean _ _ d

lemma AddrTables.Consistent.liveCh_turnPermissionClean_iff (h : a.Consistent)
    (hr : a.LivePerm r info) {d : ChPtr} {x : ChInfo} :
    (turnPermissionClean a r).LiveCh d x ↔ a.LiveCh d x ∧ x.owner ≠ some r := by
  rw [LiveCh, get?_chns_turnPermissionClean hr]
  constructor
  · rintro ⟨hget, hlive⟩
    split_ifs at hget with hd
    · obtain ⟨y, -, rfl⟩ := map_eq_some_iff.mp hget
      exact absurd hlive (by simp [ChInfo.empty])
    · refine ⟨⟨hget, hlive⟩, fun howner => hd (mem_lmMapValues.mpr ?_)⟩
      obtain ⟨s, y, howner', hs, -, hmap⟩ := h.ch_owner d x ⟨hget, hlive⟩
      obtain rfl : r = s := mem_unique howner howner'
      obtain rfl := hr.unique hs
      exact ⟨_, hmap⟩
  · rintro ⟨hd, hne⟩
    rw [if_neg]
    · exact hd
    · intro hmem
      obtain ⟨k, hk⟩ := mem_lmMapValues.mp hmem
      obtain ⟨y, hy, howner, -⟩ := h.perm_entry r info hr k d hk
      rw [hy.unique hd] at howner
      exact hne howner

lemma AddrTables.Consistent.cleanPerm_live (h : a.Consistent) (hr : a.LivePerm r info) :
    (turnPermissionClean a r).Consistent := by
  have hperm := @livePerm_turnPermissionClean_iff _ _ _ hr
  have hch := @AddrTables.Consistent.liveCh_turnPermissionClean_iff _ _ _ h hr
  refine ⟨fun s x hs => h.perm_row s x (hperm.mp hs).2,
    fun s x hs => h.perm_owned s x (hperm.mp hs).2,
    fun s x hs => h.perm_map_wf s x (hperm.mp hs).2,
    fun s s' x x' hs hs' => h.perm_unique s s' x x' (hperm.mp hs).2 (hperm.mp hs').2,
    fun s x hs k d hk => ?_, fun d x hd => h.ch_row d x (hch.mp hd).1,
    fun d x hd => h.ch_valid d x (hch.mp hd).1, fun d x hd => h.ch_port d x (hch.mp hd).1,
    fun d x hd => ?_,
    fun d e x y hd he => h.ch_num_unique d e x y (hch.mp hd).1 (hch.mp he).1,
    fun d x hget hfree => ?_⟩
  · obtain ⟨hne, hs'⟩ := hperm.mp hs
    obtain ⟨y, hy, howner, hport⟩ := h.perm_entry s x hs' k d hk
    refine ⟨y, hch.mpr ⟨hy, ?_⟩, howner, hport⟩
    rw [howner]
    exact fun heq => hne (Option.some.inj heq)
  · obtain ⟨hd', hne⟩ := hch.mp hd
    obtain ⟨s, y, howner, hs, hrest⟩ := h.ch_owner d x hd'
    refine ⟨s, y, howner, hperm.mpr ⟨?_, hs⟩, hrest⟩
    rintro rfl
    exact hne howner
  · rw [get?_chns_turnPermissionClean hr] at hget
    split_ifs at hget
    · obtain ⟨y, -, rfl⟩ := map_eq_some_iff.mp hget
      rfl
    · exact h.ch_free d x hget hfree

lemma AddrTables.Consistent.cleanPerm (h : a.Consistent) (r : PermPtr) :
    (turnPermissionClean a r).Consistent := by
  cases hget : a.addrToPerm.get? r with
  | none => simpa only [turnPermissionClean, hget] using h
  | some info =>
    cases hlive : info.allocated with
    | true => exact h.cleanPerm_live ⟨hget, hlive⟩
    | false => simpa [turnPermissionClean, hget, hlive] using h

end CleanPerm

/-- Every move of a request keeps the tables consistent. -/
theorem RequestMove.consistent {clk : ServerClock} {P : IoaAddr → Prop}
    (hmove : RequestMove clk P a a') (h : a.Consistent) : a'.Consistent := by
  cases hmove with
  | addPerm addr _ hnew => exact h.addPerm a addr hnew
  | addCh r info chnum peerAddr hr hip hvalid hnum hport hmap =>
    exact h.addCh hr hip hvalid hnum hport hmap
  | touchPerm r timeDelta _ => exact h.touchPerm r _
  | touchCh c chn r info hc _ _ _ => exact h.touchCh hc _

/-- Every timeout keeps the tables consistent. -/
theorem ExpiryMove.consistent (hmove : ExpiryMove a a') (h : a.Consistent) : a'.Consistent := by
  cases hmove with
  | delCh c => exact h.delCh c
  | cleanPerm r => exact h.cleanPerm r

end Coturn
