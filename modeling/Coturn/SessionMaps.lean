/-
# The maps of sessions and tickets

A relay thread finds its sessions through `sessions_map`, by id, and `mobile_connections_map`, by
the mobile id of the ticket. A session that is freed must have left both before. Modelled are the
functions of `ns_turn_server.c` that write the maps or the two ids, on a heap of their own, and the
places that call them.
-/
import Coturn.Lib.Registry
import Coturn.Lib.Run
import Mathlib.Data.UInt

namespace Coturn

open Option

variable {mobility : Bool} {draws : List UInt64}

/-! ## Heap and maps -/

def turnSessionIdFactor : UInt64 := 1000000000000000

/-- What the maps know of a session; the ids are zero until they are set. -/
structure StoredSession where
  id : UInt64
  mobileId : UInt64
  isMobile : Bool
  deriving DecidableEq

variable {ss : StoredSession}

/-- The sessions of a thread by their addresses, and its two maps. -/
structure SessionMaps where
  serverId : UInt8
  sessionIdCounter : UInt64
  heap : ℕ → Option StoredSession
  sessionsMap : UInt64 → Option ℕ
  mobileConnectionsMap : UInt64 → Option ℕ

namespace SessionMaps

def init (serverId : UInt8) : SessionMaps :=
  ⟨serverId, 0, fun _ => none, fun _ => none, fun _ => none⟩

/-- What is stored at an address; `none` when the memory there is free. -/
def write (p : ℕ) (ss : Option StoredSession) (m : SessionMaps) : SessionMaps :=
  { m with heap := fun q => if q = p then ss else m.heap q }

/-- `get_new_mobile_id`, from the numbers that are drawn: `none` when none of them ends the loop. -/
def getNewMobileId (draws : List UInt64) (m : SessionMaps) : Option UInt64 :=
  let ids := (draws.map fun r => r &&& 0x00FFFFFFFFFFFFFF).filter (· != 0)
  (ids.map fun r => r ||| (m.serverId.toUInt64 <<< 56)).find? fun id =>
    (m.mobileConnectionsMap id).isNone

def putSessionIntoMobileMap (mobility : Bool) (draws : List UInt64) (p : ℕ) (m : SessionMaps) :
    Option SessionMaps :=
  match m.heap p with
  | none => some m
  | some ss =>
    let put (mid : UInt64) (m : SessionMaps) : SessionMaps :=
      { m with
        mobileConnectionsMap := fun id => if id = mid then some p else m.mobileConnectionsMap id }
    if !mobility then some m
    else if ss.mobileId = 0 then
      (m.getNewMobileId draws).map fun mid => put mid (m.write p (some { ss with mobileId := mid }))
    else some (put ss.mobileId m)

/-- The session gets an id. -/
def putSessionIntoMap (mobility : Bool) (draws : List UInt64) (p : ℕ) (m : SessionMaps) :
    Option SessionMaps :=
  match m.heap p with
  | none => some m
  | some ss =>
    let counter := m.sessionIdCounter + 1
    let (id, m) :=
      if ss.id = 0 then
        let id := m.serverId.toUInt64 * turnSessionIdFactor + counter
        (id, { m with sessionIdCounter := counter }.write p (some { ss with id := id }))
      else (ss.id, m)
    { m with sessionsMap := fun i => if i = id then some p else m.sessionsMap i
      }.putSessionIntoMobileMap mobility draws p

def deleteSessionFromMobileMap (p : ℕ) (m : SessionMaps) : SessionMaps :=
  match m.heap p with
  | none => m
  | some ss =>
    if ss.mobileId = 0 then m
    else
      { m with
        mobileConnectionsMap := fun id =>
          if id = ss.mobileId then none else m.mobileConnectionsMap id
        }.write p (some { ss with mobileId := 0 })

/-- The id is free again. -/
def deleteSessionFromMap (p : ℕ) (m : SessionMaps) : SessionMaps :=
  match m.heap p with
  | none => m
  | some ss =>
    { m with sessionsMap := fun i => if i = ss.id then none else m.sessionsMap i
      }.deleteSessionFromMobileMap p

def getSessionFromMobileMap (mobility : Bool) (mid : UInt64) (m : SessionMaps) : Option ℕ :=
  if mobility && mid != 0 then m.mobileConnectionsMap mid else none

/-- `create_new_ss`, at the address that `calloc` has returned. -/
def createNewSs (mobility : Bool) (draws : List UInt64) (p : ℕ) (m : SessionMaps) :
    Option SessionMaps :=
  (m.write p (some ⟨0, 0, false⟩)).putSessionIntoMap mobility draws p

def deleteUrMapSs (p : ℕ) (m : SessionMaps) : SessionMaps :=
  (m.deleteSessionFromMap p).write p none

/-- `handle_turn_allocate`: a mobility attribute without a value makes the session mobile; an
Allocate that gets as far as the quota (`accepted`) takes the ticket from one that is not. -/
def handleTurnAllocate (mobility ticket accepted : Bool) (p : ℕ) (m : SessionMaps) : SessionMaps :=
  match m.heap p with
  | none => m
  | some ss =>
    let isMobile := ss.isMobile || (mobility && ticket)
    let m := m.write p (some { ss with isMobile := isMobile })
    if accepted && mobility && !isMobile then m.deleteSessionFromMobileMap p else m

/-- `handle_turn_refresh` without an allocation, with the ticket `mid`; `passed` tells whether all
other checks and the transfer have succeeded. -/
def handleTurnRefresh (mobility : Bool) (draws : List UInt64) (mid : UInt64) (passed : Bool)
    (p : ℕ) (m : SessionMaps) : Option SessionMaps :=
  match m.getSessionFromMobileMap mobility mid with
  | none => some m
  | some orig =>
    if orig = p || !((m.heap orig).any StoredSession.isMobile) || !passed then some m
    else
      ((m.deleteSessionFromMobileMap p).deleteSessionFromMobileMap orig).putSessionIntoMobileMap
        mobility draws orig

end SessionMaps

/-! ## Runs -/

/-- What happens to the session at an address, with the setting `mobility` in force. -/
inductive SessionEvent where
  | create (mobility : Bool) (draws : List UInt64) (p : ℕ)
  | allocate (mobility ticket accepted : Bool) (p : ℕ)
  | handOver (mobility : Bool) (draws : List UInt64) (mid : UInt64) (passed : Bool) (p : ℕ)
  | remove (p : ℕ)

namespace SessionEvent

def isCreate : SessionEvent → Bool
  | .create .. => true
  | _ => false

def address : SessionEvent → ℕ
  | .create _ _ p | .allocate _ _ _ p | .handOver _ _ _ _ p | .remove p => p

end SessionEvent

variable {p : ℕ}

namespace SessionMaps

/-- Memory in use is not handed out again; `none` also when the search for a mobile id does not end.
-/
def exec (m : SessionMaps) (e : SessionEvent) : Option SessionMaps :=
  if e.isCreate = (m.heap e.address).isSome then none
  else
    match e with
    | .create mobility draws p => m.createNewSs mobility draws p
    | .allocate mobility ticket accepted p =>
      some (m.handleTurnAllocate mobility ticket accepted p)
    | .handOver mobility draws mid passed p => m.handleTurnRefresh mobility draws mid passed p
    | .remove p => some (m.deleteUrMapSs p)

/-- An event that cannot take place changes nothing. -/
def step (m : SessionMaps) (e : SessionEvent) : SessionMaps := (m.exec e).getD m

/-! ## What the maps keep -/

variable {m m' : SessionMaps} {n : ℕ}

def idOf (m : SessionMaps) (p : ℕ) : Option UInt64 := (m.heap p).map StoredSession.id

/-- The mobile id of the session at an address, if it has one. -/
def ticketOf (m : SessionMaps) (p : ℕ) : Option UInt64 :=
  (m.heap p).bind fun ss => if ss.mobileId = 0 then none else some ss.mobileId

/-- The map of sessions and the sessions agree on the ids, and all ids are of this thread. -/
structure IdsKept (m : SessionMaps) : Prop where
  sound : Registry.Sound m.sessionsMap fun p id => m.idOf p = some id
  complete : Registry.Complete m.sessionsMap fun p id => m.idOf p = some id
  numbered : ∀ p id, m.idOf p = some id → ∃ n, 0 < n ∧ n ≤ m.sessionIdCounter.toNat ∧
    id.toNat = m.serverId.toNat * turnSessionIdFactor.toNat + n

/-- The map of tickets and the sessions agree on the mobile ids. -/
structure TicketsKept (m : SessionMaps) : Prop where
  sound : Registry.Sound m.mobileConnectionsMap fun p mid => m.ticketOf p = some mid
  complete : Registry.Complete m.mobileConnectionsMap fun p mid => m.ticketOf p = some mid

/-- Both, and at most `n` sessions have been created. -/
structure Kept (n : ℕ) (m : SessionMaps) : Prop where
  ids : m.IdsKept
  tickets : m.TicketsKept
  created : m.sessionIdCounter.toNat ≤ n

lemma IdsKept.congr (h : m.IdsKept) (hserver : m'.serverId = m.serverId)
    (hcounter : m'.sessionIdCounter = m.sessionIdCounter) (hmap : m'.sessionsMap = m.sessionsMap)
    (hid : m'.idOf = m.idOf) : m'.IdsKept := by
  refine ⟨?_, ?_, ?_⟩
  · rw [hmap, hid]
    exact h.sound
  · rw [hmap, hid]
    exact h.complete
  · rw [hid, hcounter, hserver]
    exact h.numbered

lemma TicketsKept.congr (h : m.TicketsKept)
    (hmap : m'.mobileConnectionsMap = m.mobileConnectionsMap)
    (hticket : m'.ticketOf = m.ticketOf) : m'.TicketsKept := by
  constructor
  · rw [hmap, hticket]
    exact h.sound
  · rw [hmap, hticket]
    exact h.complete

@[simp] lemma idOf_write (p : ℕ) (ss : Option StoredSession) (m : SessionMaps) (q : ℕ) :
    (m.write p ss).idOf q = if q = p then ss.map StoredSession.id else m.idOf q := by
  simp only [idOf, write]
  split_ifs <;> rfl

@[simp] lemma ticketOf_write (p : ℕ) (ss : Option StoredSession) (m : SessionMaps) (q : ℕ) :
    (m.write p ss).ticketOf q =
      if q = p then ss.bind fun ss => if ss.mobileId = 0 then none else some ss.mobileId
      else m.ticketOf q := by
  simp only [ticketOf, write]
  split_ifs <;> rfl

lemma idOf_write_same (ss' : StoredSession) (hss : m.heap p = some ss)
    (hid : ss'.id = ss.id) : (m.write p (some ss')).idOf = m.idOf := by
  funext q
  rw [idOf_write]
  split_ifs with hq
  · rw [hq, idOf, hss, map_some, map_some, hid]
  · rfl

lemma ticketOf_write_same (ss' : StoredSession) (hss : m.heap p = some ss)
    (hid : ss'.mobileId = ss.mobileId) : (m.write p (some ss')).ticketOf = m.ticketOf := by
  funext q
  rw [ticketOf_write]
  split_ifs with hq
  · rw [hq, ticketOf, hss, bind_some, bind_some, hid]
  · rfl

/-! ## Tickets -/

lemma getNewMobileId_spec {mid : UInt64} (h : m.getNewMobileId draws = some mid) :
    mid ≠ 0 ∧ m.mobileConnectionsMap mid = none := by
  have hfree := List.find?_some h
  have hmem := List.mem_of_find?_eq_some h
  simp only [List.mem_map, List.mem_filter, bne_iff_ne] at hmem
  obtain ⟨r, ⟨-, hr⟩, rfl⟩ := hmem
  refine ⟨fun hzero => hr ?_, isNone_iff_eq_none.mp hfree⟩
  exact (UInt64.or_eq_zero_iff.mp hzero).1

lemma deleteSessionFromMobileMap_kept (p : ℕ) (h : m.Kept n) :
    (m.deleteSessionFromMobileMap p).Kept n := by
  rw [deleteSessionFromMobileMap]
  split
  · exact h
  next ss hss =>
  split_ifs with hzero
  · exact h
  have hheld : m.ticketOf p = some ss.mobileId := by
    rw [ticketOf, hss, bind_some, if_neg hzero]
  generalize hm' : write p (some { ss with mobileId := 0 }) _ = m'
  have hentry : ∀ mid q, m'.mobileConnectionsMap mid = some q ↔
      ¬ mid = ss.mobileId ∧ m.mobileConnectionsMap mid = some q := by
    intro mid q
    rw [← hm', write]
    exact ite_none_left_eq_some
  have hticket : ∀ q mid, m'.ticketOf q = some mid ↔ ¬ q = p ∧ m.ticketOf q = some mid := by
    intro q mid
    rw [← hm', ticketOf_write]
    exact ite_none_left_eq_some
  have hid : m'.idOf = m.idOf := by
    rw [← hm']
    exact idOf_write_same { ss with mobileId := 0 } hss rfl
  refine ⟨h.ids.congr (by rw [← hm', write]) (by rw [← hm', write]) (by rw [← hm', write]) hid,
    ⟨h.tickets.sound.strike hentry fun mid q hmid hq => (hticket q mid).mpr ⟨?_, hq⟩,
      (h.tickets.complete.strike_iff hentry fun mid q hq => ((hticket q mid).mp hq).2).mpr ?_⟩,
    by rw [← hm']; exact h.created⟩
  · -- the ticket that is struck out is the one of the session
    rintro rfl
    exact hmid (mem_unique hq hheld)
  · rintro mid q hq rfl
    obtain ⟨hne, hq⟩ := (hticket q _).mp hq
    exact hne (h.tickets.complete.unique hq hheld)

lemma putSessionIntoMobileMap_kept
    (hput : m.putSessionIntoMobileMap mobility draws p = some m') (h : m.Kept n) : m'.Kept n := by
  rw [putSessionIntoMobileMap] at hput
  split at hput
  · obtain rfl := Option.some.inj hput
    exact h
  next ss hss =>
  simp only at hput
  split_ifs at hput with hoff hzero
  · obtain rfl := Option.some.inj hput
    exact h
  · obtain ⟨mid, hnew, hm'⟩ := map_eq_some_iff.mp hput
    obtain ⟨hmid, hfree⟩ := getNewMobileId_spec hnew
    have hentry : ∀ id, m'.mobileConnectionsMap id =
        if id = mid then some p else m.mobileConnectionsMap id := by
      intro id
      rw [← hm']
      rfl
    have hnone : m.ticketOf p = none := by
      rw [ticketOf, hss, bind_some, if_pos hzero]
    have hticket : ∀ q, m'.ticketOf q = if q = p then some mid else m.ticketOf q := by
      intro q
      have hq := ticketOf_write p (some { ss with mobileId := mid }) m q
      rw [bind_some, if_neg hmid] at hq
      rw [← hm', ← hq]
      rfl
    have hholds := Registry.eq_some_iff_of_enter hticket hnone
    have hid : m'.idOf = m.idOf := by
      rw [← hm']
      exact idOf_write_same { ss with mobileId := mid } hss rfl
    exact ⟨h.ids.congr (by rw [← hm', write]) (by rw [← hm', write]) (by rw [← hm', write]) hid,
      ⟨h.tickets.sound.enter hentry hholds, h.tickets.complete.enter hentry hholds hfree⟩,
      by rw [← hm']; exact h.created⟩
  · -- it is in the map already
    obtain rfl := Option.some.inj hput
    have hheld : m.ticketOf p = some ss.mobileId := by
      rw [ticketOf, hss, bind_some, if_neg hzero]
    refine ⟨h.ids.congr rfl rfl rfl rfl, h.tickets.congr ?_ rfl, h.created⟩
    funext id
    simp only
    split_ifs with hid
    · rw [hid, h.tickets.complete _ _ hheld]
    · rfl

/-! ## Sessions -/

def nextId (m : SessionMaps) : UInt64 :=
  m.serverId.toUInt64 * turnSessionIdFactor + (m.sessionIdCounter + 1)

lemma toNat_turnSessionIdFactor : turnSessionIdFactor.toNat = 1000000000000000 := rfl

section Next

variable (hcounter : m.sessionIdCounter.toNat + 1 < turnSessionIdFactor.toNat)

include hcounter

lemma toNat_nextCounter : (m.sessionIdCounter + 1).toNat = m.sessionIdCounter.toNat + 1 := by
  rw [toNat_turnSessionIdFactor] at hcounter
  rw [UInt64.toNat_add, UInt64.toNat_one]
  omega

lemma toNat_nextId : m.nextId.toNat =
    m.serverId.toNat * turnSessionIdFactor.toNat + (m.sessionIdCounter.toNat + 1) := by
  have hserver : m.serverId.toNat < 256 := m.serverId.toNat_lt
  rw [nextId, UInt64.toNat_add, UInt64.toNat_mul, toNat_nextCounter hcounter, UInt8.toNat_toUInt64]
  rw [toNat_turnSessionIdFactor] at hcounter ⊢
  omega

lemma IdsKept.fresh (h : m.IdsKept) : m.sessionsMap m.nextId = none := by
  by_contra hsome
  obtain ⟨p, hp⟩ := ne_none_iff_exists'.mp hsome
  obtain ⟨n, -, hle, hn⟩ := h.numbered p _ (h.sound _ p hp)
  rw [toNat_nextId hcounter] at hn
  omega

end Next

lemma createNewSs_kept (hnew : m.createNewSs mobility draws p = some m') (hfree : m.heap p = none)
    (h : m.Kept n) (hn : n + 1 < turnSessionIdFactor.toNat) : m'.Kept (n + 1) := by
  have hcounter := lt_of_le_of_lt (Nat.succ_le_succ h.created) hn
  have hstored : (m.write p (some ⟨0, 0, false⟩)).heap p = some ⟨0, 0, false⟩ := if_pos rfl
  rw [createNewSs, putSessionIntoMap, hstored] at hnew
  simp only [if_true] at hnew
  generalize hm₁ : SessionMaps.mk _ _ _ _ _ = m₁ at hnew
  have hentry : ∀ i, m₁.sessionsMap i = if i = m.nextId then some p else m.sessionsMap i := by
    intro i
    rw [← hm₁]
    rfl
  have hheap : ∀ q, m₁.heap q = if q = p then some ⟨m.nextId, 0, false⟩ else m.heap q := by
    intro q
    rw [← hm₁]
    simp only [write]
    split_ifs <;> rfl
  have hid : ∀ q, m₁.idOf q = if q = p then some m.nextId else m.idOf q := by
    intro q
    rw [idOf, hheap]
    split_ifs <;> rfl
  have hticket : m₁.ticketOf = m.ticketOf := by
    funext q
    rw [ticketOf, ticketOf, hheap]
    split_ifs with hq
    · rw [hq, hfree]
      rfl
    · rfl
  have hnone : m.idOf p = none := by
    rw [idOf, hfree]
    rfl
  have hserver : m₁.serverId = m.serverId := by rw [← hm₁, write, write]
  have hnumber : m₁.sessionIdCounter.toNat = m.sessionIdCounter.toNat + 1 := by
    rw [← hm₁]
    exact toNat_nextCounter hcounter
  have hholds := Registry.eq_some_iff_of_enter hid hnone
  refine putSessionIntoMobileMap_kept hnew ⟨⟨h.ids.sound.enter hentry hholds,
    h.ids.complete.enter hentry hholds (h.ids.fresh hcounter), ?_⟩,
    h.tickets.congr (by rw [← hm₁, write, write]) hticket, ?_⟩
  · intro q id hq
    rw [hid] at hq
    rw [hserver, hnumber]
    split_ifs at hq with hqp
    · obtain rfl := Option.some.inj hq
      exact ⟨_, Nat.succ_pos _, le_rfl, toNat_nextId hcounter⟩
    · obtain ⟨k, hpos, hle, hk⟩ := h.ids.numbered q id hq
      exact ⟨k, hpos, Nat.le_succ_of_le hle, hk⟩
  · rw [hnumber]
    exact Nat.succ_le_succ h.created

lemma deleteSessionFromMobileMap_parts (p : ℕ) (m : SessionMaps) :
    (m.deleteSessionFromMobileMap p).sessionsMap = m.sessionsMap ∧
      (m.deleteSessionFromMobileMap p).idOf = m.idOf ∧
      (m.deleteSessionFromMobileMap p).ticketOf p = none := by
  rw [deleteSessionFromMobileMap]
  split
  · next hnone =>
    refine ⟨rfl, rfl, ?_⟩
    rw [ticketOf, hnone]
    rfl
  next ss hss =>
  split_ifs with hzero
  · refine ⟨rfl, rfl, ?_⟩
    rw [ticketOf, hss, bind_some, if_pos hzero]
  · refine ⟨rfl, idOf_write_same { ss with mobileId := 0 } hss rfl, ?_⟩
    rw [ticketOf_write, if_pos rfl]
    rfl

lemma deleteSessionFromMobileMap_sessionsMap (p : ℕ) (f : UInt64 → Option ℕ) (m : SessionMaps) :
    { m with sessionsMap := f }.deleteSessionFromMobileMap p =
      { m.deleteSessionFromMobileMap p with sessionsMap := f } := by
  simp only [deleteSessionFromMobileMap]
  cases m.heap p with
  | none => rfl
  | some ss =>
    simp only
    split_ifs <;> rfl

/-- A session leaves both maps before it is freed. -/
lemma deleteUrMapSs_kept (hss : m.heap p = some ss) (h : m.Kept n) :
    (m.deleteUrMapSs p).Kept n := by
  have h₁ := deleteSessionFromMobileMap_kept p h
  obtain ⟨hmap₁, hid₁, hnone₁⟩ := deleteSessionFromMobileMap_parts p m
  have hheld : (m.deleteSessionFromMobileMap p).idOf p = some ss.id := by
    rw [hid₁, idOf, hss]
    rfl
  rw [deleteUrMapSs, deleteSessionFromMap, hss]
  simp only [deleteSessionFromMobileMap_sessionsMap]
  rw [← hmap₁]
  generalize m.deleteSessionFromMobileMap p = m₁ at h₁ hheld hnone₁
  have hentry : ∀ i q, (if i = ss.id then none else m₁.sessionsMap i) = some q ↔
      ¬ i = ss.id ∧ m₁.sessionsMap i = some q := fun i q => ite_none_left_eq_some
  have hid : ∀ q id, (write p none { m₁ with sessionsMap := fun i =>
      if i = ss.id then none else m₁.sessionsMap i }).idOf q = some id ↔
        ¬ q = p ∧ m₁.idOf q = some id := by
    intro q id
    rw [idOf_write]
    exact ite_none_left_eq_some
  refine ⟨⟨h₁.ids.sound.strike hentry fun id q hne hq => (hid q id).mpr ⟨?_, hq⟩,
    (h₁.ids.complete.strike_iff hentry fun id q hq => ((hid q id).mp hq).2).mpr ?_, ?_⟩,
    h₁.tickets.congr rfl ?_, h₁.created⟩
  · rintro rfl
    exact hne (mem_unique hq hheld)
  · rintro id q hq rfl
    obtain ⟨hne, hq⟩ := (hid q _).mp hq
    exact hne (h₁.ids.complete.unique hq hheld)
  · intro q id hq
    exact h₁.ids.numbered q id ((hid q id).mp hq).2
  · funext q
    rw [ticketOf_write]
    split_ifs with hq
    · rw [hq, hnone₁]
      rfl
    · rfl

lemma handleTurnAllocate_kept (mobility ticket accepted : Bool) (p : ℕ) (h : m.Kept n) :
    (m.handleTurnAllocate mobility ticket accepted p).Kept n := by
  rw [handleTurnAllocate]
  split
  · exact h
  next ss hss =>
  simp only
  generalize (ss.isMobile || (mobility && ticket)) = isMobile
  have hmarked : (m.write p (some { ss with isMobile := isMobile })).Kept n :=
    ⟨h.ids.congr rfl rfl rfl (idOf_write_same { ss with isMobile := isMobile } hss rfl),
      h.tickets.congr rfl (ticketOf_write_same { ss with isMobile := isMobile } hss rfl),
      h.created⟩
  split_ifs
  · exact deleteSessionFromMobileMap_kept p hmarked
  · exact hmarked

lemma handleTurnRefresh_kept {mid : UInt64} {passed : Bool}
    (hmoved : m.handleTurnRefresh mobility draws mid passed p = some m') (h : m.Kept n) :
    m'.Kept n := by
  rw [handleTurnRefresh] at hmoved
  split at hmoved
  · obtain rfl := Option.some.inj hmoved
    exact h
  split_ifs at hmoved
  · obtain rfl := Option.some.inj hmoved
    exact h
  · exact putSessionIntoMobileMap_kept hmoved
      (deleteSessionFromMobileMap_kept _ (deleteSessionFromMobileMap_kept p h))

/-! ## Whole runs -/

lemma kept_init (serverId : UInt8) : (init serverId).Kept 0 := by
  refine ⟨⟨?_, ?_, ?_⟩, ⟨?_, ?_⟩, le_rfl⟩
  · intro id p hp
    cases hp
  · intro id p hp
    cases hp
  · intro p id hp
    cases hp
  · intro mid p hp
    cases hp
  · intro mid p hp
    cases hp

lemma Kept.step (h : m.Kept n) (e : SessionEvent)
    (hn : n + (if e.isCreate then 1 else 0) < turnSessionIdFactor.toNat) :
    (m.step e).Kept (n + (if e.isCreate then 1 else 0)) := by
  have hmono : ∀ k, m.Kept (n + k) := fun k => ⟨h.ids, h.tickets, Nat.le_add_right_of_le h.created⟩
  rw [SessionMaps.step]
  cases hexec : m.exec e with
  | none => exact hmono _
  | some m' =>
    rw [exec.eq_def] at hexec
    split_ifs at hexec with hwrong
    rw [getD_some]
    cases e with
    | create mobility draws p =>
      have hfree : m.heap p = none := by
        simpa [SessionEvent.isCreate, SessionEvent.address] using hwrong
      exact createNewSs_kept hexec hfree h hn
    | allocate mobility ticket accepted p =>
      obtain rfl := Option.some.inj hexec
      exact handleTurnAllocate_kept mobility ticket accepted p h
    | handOver mobility draws mid passed p => exact handleTurnRefresh_kept hexec h
    | remove p =>
      obtain rfl := Option.some.inj hexec
      have hsome : m.heap p ≠ none := by
        simpa [SessionEvent.isCreate, SessionEvent.address] using hwrong
      obtain ⟨ss, hss⟩ := ne_none_iff_exists'.mp hsome
      exact deleteUrMapSs_kept hss h

/-- A run that creates fewer sessions than there are numbers for them. -/
lemma Kept.run (h : m.Kept n) (es : List SessionEvent)
    (hn : n + es.countP SessionEvent.isCreate < turnSessionIdFactor.toNat) :
    (Machine.run SessionMaps.step m es).Kept (n + es.countP SessionEvent.isCreate) := by
  induction es generalizing m n with
  | nil => exact h
  | cons e es ih =>
    rw [List.countP_cons, Nat.add_comm (es.countP _), ← Nat.add_assoc] at hn ⊢
    exact ih (h.step e (lt_of_le_of_lt (Nat.le_add_right _ _) hn)) hn

/-- The two maps and the sessions that exist agree. -/
structure NeverDangle (m : SessionMaps) : Prop where
  /-- The map of sessions has exactly the sessions that exist, each under its own id. -/
  sessions : ∀ id p, m.sessionsMap id = some p ↔ ∃ ss, m.heap p = some ss ∧ ss.id = id
  distinct : ∀ p p' ss ss', m.heap p = some ss → m.heap p' = some ss' → ss.id = ss'.id → p = p'
  /-- The id of a session tells its thread. -/
  thread : ∀ p ss, m.heap p = some ss →
    ss.id.toNat / turnSessionIdFactor.toNat = m.serverId.toNat
  tickets : ∀ mid p, m.mobileConnectionsMap mid = some p →
    ∃ ss, m.heap p = some ss ∧ ss.mobileId = mid
  found : ∀ p ss, m.heap p = some ss → ss.mobileId ≠ 0 →
    m.mobileConnectionsMap ss.mobileId = some p
  unshared : ∀ p p' ss ss', m.heap p = some ss → m.heap p' = some ss' → ss.mobileId ≠ 0 →
    ss.mobileId = ss'.mobileId → p = p'

lemma Kept.neverDangle (h : m.Kept n) (hn : n < turnSessionIdFactor.toNat) : m.NeverDangle := by
  have hid : ∀ {p : ℕ} {ss : StoredSession}, m.heap p = some ss → m.idOf p = some ss.id := by
    intro p ss hss
    rw [idOf, hss]
    rfl
  have hticket : ∀ {p : ℕ} {ss : StoredSession}, m.heap p = some ss → ss.mobileId ≠ 0 →
      m.ticketOf p = some ss.mobileId := by
    intro p ss hss hne
    rw [ticketOf, hss, bind_some, if_neg hne]
  refine ⟨?_, ?_, ?_, ?_, ?_, ?_⟩
  · intro id p
    constructor
    · intro hp
      exact map_eq_some_iff.mp (h.ids.sound id p hp)
    · rintro ⟨ss, hss, rfl⟩
      exact h.ids.complete _ p (hid hss)
  · intro p p' ss ss' hss hss' heq
    exact h.ids.complete.unique (hid hss) (heq ▸ hid hss')
  · intro p ss hss
    obtain ⟨k, -, hle, hk⟩ := h.ids.numbered p _ (hid hss)
    rw [hk, Nat.mul_comm, Nat.mul_add_div (Nat.zero_lt_of_lt hn),
      Nat.div_eq_of_lt (lt_of_le_of_lt (le_trans hle h.created) hn), Nat.add_zero]
  · intro mid p hp
    obtain ⟨ss, hss, hmid⟩ := bind_eq_some_iff.mp (h.tickets.sound mid p hp)
    split_ifs at hmid
    exact ⟨ss, hss, Option.some.inj hmid⟩
  · intro p ss hss hne
    exact h.tickets.complete _ p (hticket hss hne)
  · intro p p' ss ss' hss hss' hne heq
    exact h.tickets.complete.unique (hticket hss hne)
      (heq ▸ hticket hss' (heq ▸ hne))

/-- After every run in which a thread creates fewer than 10¹⁵ sessions its two maps and its sessions
agree. -/
theorem session_maps_never_dangle (serverId : UInt8) (es : List SessionEvent)
    (hcreated : es.countP SessionEvent.isCreate < turnSessionIdFactor.toNat) :
    (Machine.run SessionMaps.step (init serverId) es).NeverDangle := by
  have hkept := (kept_init serverId).run es (by rwa [Nat.zero_add])
  rw [Nat.zero_add] at hkept
  exact hkept.neverDangle hcreated

/-- The second session draws the number of the first one before its own, and hands its socket over.
-/
theorem session_maps_never_dangle_handOver :
    let es : List SessionEvent :=
      [.create true [5] 10, .create true [5, 6] 11, .allocate true true true 10,
        .handOver true [7] 0x0100000000000005 true 11, .remove 11]
    let m := Machine.run SessionMaps.step (init 1) es
    es.countP SessionEvent.isCreate < turnSessionIdFactor.toNat ∧ m.NeverDangle ∧
      m.heap 10 = some ⟨1000000000000001, 0x0100000000000007, true⟩ ∧ m.heap 11 = none ∧
      m.mobileConnectionsMap 0x0100000000000007 = some 10 ∧
      m.mobileConnectionsMap 0x0100000000000006 = none ∧
      m.mobileConnectionsMap 0x0100000000000005 = none :=
  ⟨by decide, session_maps_never_dangle 1 _ (by decide), by decide, by decide, by decide, by decide,
    by decide⟩

end SessionMaps

end Coturn
