/-
# The relay as its peers see it

What the relaying of data depends on: the time, the relay sockets, permissions and channels of each
session, and which session the endpoint of a peer belongs to. `RelayMove` lists everything that can
happen to it between two ticks; the invariants of the relay are those that every move and every tick
keep.
-/
import Coturn.Allocation.Expiry
import Coturn.Server.State

namespace Coturn

open Relation

variable {owner owner' : IoaAddr → Option ℕ}

/-! ## States -/

/-- What the relaying for a session depends on. -/
structure RelaySession where
  valid : Bool
  ipv4 : Option RelayIoaSocket
  ipv6 : Option RelayIoaSocket
  tables : AddrTables

/-- The time, the sessions and the owners of endpoints. -/
@[ext]
structure RelayView where
  ctime : UInt32
  sessions : ℕ → Option RelaySession
  /-- Which session the endpoint of a peer belongs to. -/
  owner : IoaAddr → Option ℕ

namespace RelaySession

def init : RelaySession := ⟨false, none, none, .init⟩

def socket (rs : RelaySession) (family : ℕ) : Option RelayIoaSocket :=
  if family = 10 then rs.ipv6 else rs.ipv4

/-- The relay socket of the family is the one that all sessions share. -/
def SharedFor (rs : RelaySession) (family : ℕ) : Prop :=
  ∃ s, rs.socket family = some s ∧ s.type = .udp ∧ s.shared = true

/-- Each socket is at its family. -/
structure Placed (rs : RelaySession) : Prop where
  ipv4 : ∀ s, rs.ipv4 = some s → s.family = 2
  ipv6 : ∀ s, rs.ipv6 = some s → s.family = 10

/-- The endpoint is given up. -/
def clear (rs : RelaySession) (family : ℕ) : RelaySession :=
  if family = 10 then { rs with ipv6 := none } else { rs with ipv4 := none }

/-- There is neither a permission nor a channel. -/
structure Bare (rs : RelaySession) : Prop where
  perm : ∀ r info, ¬ rs.tables.LivePerm r info
  ch : ∀ c chn, ¬ rs.tables.LiveCh c chn

/-- The timers of a valid allocation. -/
def sweep (ctime : UInt32) (rs : RelaySession) : RelaySession :=
  if rs.valid then { rs with tables := sweepAllocationTimedEvents ctime rs.tables } else rs

lemma bare_init : init.Bare :=
  ⟨fun _ _ => AddrTables.init_not_livePerm, fun _ _ => AddrTables.init_not_liveCh⟩

lemma placed_init : init.Placed := ⟨fun _ h => (nomatch h), fun _ h => (nomatch h)⟩

variable {rs : RelaySession} {family : ℕ}

@[simp] lemma clear_tables : (rs.clear family).tables = rs.tables := by
  unfold clear
  split_ifs <;> rfl

@[simp] lemma clear_valid : (rs.clear family).valid = rs.valid := by
  unfold clear
  split_ifs <;> rfl

lemma Placed.clear (h : rs.Placed) : (rs.clear family).Placed := by
  unfold RelaySession.clear
  split_ifs
  · exact ⟨h.ipv4, fun _ hs => (nomatch hs)⟩
  · exact ⟨fun _ hs => (nomatch hs), h.ipv6⟩

lemma sharedFor_of_clear {family' : ℕ} (hfamily : family = 2 ∨ family = 10)
    (h : (rs.clear family).SharedFor family') (hfamily' : family' = 2 ∨ family' = 10) :
    family' ≠ family ∧ rs.SharedFor family' := by
  obtain ⟨s, hs, hshared⟩ := h
  rcases hfamily with rfl | rfl <;> rcases hfamily' with rfl | rfl <;>
    simp [RelaySession.clear, socket] at hs
  · exact ⟨by decide, s, by simpa [socket] using hs, hshared⟩
  · exact ⟨by decide, s, by simpa [socket] using hs, hshared⟩

lemma sweep_of_valid (ctime : UInt32) (h : rs.valid = true) :
    rs.sweep ctime = { rs with tables := sweepAllocationTimedEvents ctime rs.tables } := if_pos h

lemma sweep_of_not_valid (ctime : UInt32) (h : rs.valid = false) : rs.sweep ctime = rs :=
  if_neg (by simp [h])

lemma sweep_socket (ctime : UInt32) : (rs.sweep ctime).socket family = rs.socket family := by
  unfold sweep
  split_ifs <;> rfl

end RelaySession

/-- The session `sid` has got endpoints with `P` that belonged to nobody. -/
def Registers (owner owner' : IoaAddr → Option ℕ) (sid : ℕ) (P : IoaAddr → Prop) : Prop :=
  ∀ key, owner' key = owner key ∨ (owner key = none ∧ owner' key = some sid ∧ P key)

variable {sid : ℕ} {P : IoaAddr → Prop}

lemma Registers.trans {owner'' : IoaAddr → Option ℕ} (h : Registers owner owner' sid P)
    (h' : Registers owner' owner'' sid P) : Registers owner owner'' sid P := by
  intro key
  rcases h' key with heq | ⟨hnone, hsome, hP⟩
  · rw [heq]
    exact h key
  · rcases h key with heq | ⟨-, hsome', -⟩
    · exact Or.inr ⟨heq ▸ hnone, hsome, hP⟩
    · rw [hnone] at hsome'
      exact absurd hsome' (by simp)

lemma Registers.mono {Q : IoaAddr → Prop} (h : Registers owner owner' sid P)
    (hPQ : ∀ key, owner' key = some sid → P key → Q key) : Registers owner owner' sid Q := by
  intro key
  rcases h key with heq | ⟨hnone, hsome, hP⟩
  · exact Or.inl heq
  · exact Or.inr ⟨hnone, hsome, hPQ key hsome hP⟩

lemma Registers.of_some {other : ℕ} (h : Registers owner owner' sid P)
    {key : IoaAddr} (hkey : owner key = some other) : owner' key = some other := by
  rcases h key with heq | ⟨hnone, -, -⟩
  · rw [heq, hkey]
  · rw [hnone] at hkey
    exact absurd hkey (by simp)

namespace RelayView

variable (v : RelayView)

/-- A session is put in or, with `none`, taken out. -/
def put (sid : ℕ) (rs : Option RelaySession) : RelayView :=
  { v with sessions := Function.update v.sessions sid rs }

def Placed : Prop :=
  ∀ sid rs, v.sessions sid = some rs → rs.Placed

/-- The entry of an endpoint belongs to a permission that the sweep removes. -/
def Swept (ctime : UInt32) (key : IoaAddr) (sid : ℕ) : Prop :=
  ∃ rs r info, v.sessions sid = some rs ∧ rs.valid = true ∧ rs.tables.LivePerm r info ∧
    turnTimeBefore info.expirationTime ctime = true ∧ addrEqNoPort key info.addr = true

def clock (cfg : Config) : ServerClock :=
  ⟨v.ctime, cfg.permissionLifetime, cfg.channelLifetime⟩

@[simp] lemma put_sessions_self (sid : ℕ) (rs : Option RelaySession) :
    (v.put sid rs).sessions sid = rs := Function.update_self ..

lemma put_sessions_of_ne {sid' : ℕ} (rs : Option RelaySession)
    (h : sid' ≠ sid) : (v.put sid rs).sessions sid' = v.sessions sid' := Function.update_of_ne h ..

lemma put_sessions_eq_some {sid' : ℕ} {o : Option RelaySession}
    {rs : RelaySession} (h : (v.put sid o).sessions sid' = some rs) :
    (sid' = sid ∧ o = some rs) ∨ (sid' ≠ sid ∧ v.sessions sid' = some rs) := by
  by_cases hsid : sid' = sid
  · subst hsid
    exact Or.inl ⟨rfl, (v.put_sessions_self sid' o).symm.trans h⟩
  · exact Or.inr ⟨hsid, (v.put_sessions_of_ne o hsid).symm.trans h⟩

end RelayView

/-! ## Moves -/

/-- What can happen between two ticks, with requests of the session `who` for addresses with `G` and
channels to addresses with `B`. -/
inductive RelayMove (cfg : Config) (who : ℕ) (G B : IoaAddr → Prop) :
    RelayView → RelayView → Prop
  | opened (v : RelayView) (sid : ℕ) : v.sessions sid = none →
      RelayMove cfg who G B v (v.put sid (some .init))
  /-- A ChannelBind or CreatePermission request or a Send indication. -/
  | request (v : RelayView) (rs : RelaySession) (t : AddrTables) (owner : IoaAddr → Option ℕ) :
      v.sessions who = some rs → rs.valid = true →
      (rs.tables.Consistent → rs.tables.Request (v.clock cfg) G
        (fun key => B key ∧
          (cfg.multiplexPeerMode = true → rs.SharedFor key.family → (owner key).isSome = true)) t) →
      (rs.tables.Consistent → Registers v.owner owner who fun key =>
        cfg.serverRelay = false → t.Permits key) →
      RelayMove cfg who G B v { v.put who (some { rs with tables := t }) with owner := owner }
  | allocated (v : RelayView) (sid : ℕ) (rs rs' : RelaySession) : v.sessions sid = some rs →
      rs.valid = false → rs'.tables = rs.tables → (rs.Placed → rs'.Placed) →
      RelayMove cfg who G B v (v.put sid (some rs'))
  | expired (v : RelayView) (sid : ℕ) (rs : RelaySession) (family : ℕ)
      (owner : IoaAddr → Option ℕ) : v.sessions sid = some rs → (family = 2 ∨ family = 10) →
      (∀ key other, owner key = some other ↔ v.owner key = some other ∧
        ¬ (cfg.multiplexPeerMode = true ∧ rs.SharedFor family ∧ other = sid ∧
          key.family = family)) →
      RelayMove cfg who G B v { v.put sid (some (rs.clear family)) with owner := owner }
  | closed (v : RelayView) (sid : ℕ) (owner : IoaAddr → Option ℕ) :
      (∀ key other, owner key = some other ↔ v.owner key = some other ∧
        ¬ (cfg.multiplexPeerMode = true ∧ other = sid)) →
      RelayMove cfg who G B v { v.put sid none with owner := owner }

lemma RelayMove.ctime {cfg : Config} {who : ℕ} {G B : IoaAddr → Prop} {v v' : RelayView}
    (h : RelayMove cfg who G B v v') : v'.ctime = v.ctime := by
  cases h <;> rfl

/-- The timer: the clock is set, and all sessions are swept. -/
structure RelayView.Ticks (cfg : Config) (ctime : UInt32) (v v' : RelayView) : Prop where
  time : v'.ctime = ctime
  sessions : ∀ sid, v'.sessions sid = (v.sessions sid).map (RelaySession.sweep ctime)
  owner : ∀ key other, v'.owner key = some other ↔ v.owner key = some other ∧
    ¬ (cfg.multiplexPeerMode = true ∧ v.Swept ctime key other)

/-- A step of the relay is a sequence of moves, or it is the timer. -/
inductive RelayStep (cfg : Config) (who : ℕ) (G B : IoaAddr → Prop) :
    Option UInt32 → RelayView → RelayView → Prop
  | moves {v v' : RelayView} : ReflTransGen (RelayMove cfg who G B) v v' →
      RelayStep cfg who G B none v v'
  | tick {v v' : RelayView} {ctime : UInt32} : v.Ticks cfg ctime v' →
      RelayStep cfg who G B (some ctime) v v'

end Coturn
