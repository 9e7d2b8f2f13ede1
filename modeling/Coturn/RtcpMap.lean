/-
# Reserved sockets

The map of `server/ns_turn_maps_rtcp.c` keeps the sockets that requests have reserved with EVEN-PORT
under their tokens. All relay threads put and get, and a timer collects the tokens of expired
sockets under the lock, 1024 at most, and then deletes them one by one. A step is what a thread does
under the lock, and a run is any interleaving of steps.
-/
import Coturn.Allocation.Tables
import Mathlib.Data.List.Nodup

namespace Coturn

open List Function

/-! ## States and steps -/

def rtcpTimeout : ℕ := 300

def maxTokenDel : ℕ := 1024

/-- An entry of the map. -/
structure RtcpAlloc (σ : Type) where
  s : σ
  t : UInt32

/-- A call of `rtcp_map_put`: the token, the socket, and the time that the call has read. -/
structure Reservation (σ : Type) where
  token : UInt64
  socket : σ
  time : ℕ

/-- What becomes of a reserved socket. -/
inductive RtcpFate where
  | handedOut
  | closed
  deriving DecidableEq

/-- A socket that has left the map, with its token, its fate and the time. -/
structure Departure (σ : Type) where
  token : UInt64
  socket : σ
  fate : RtcpFate
  time : ℕ

/-- The token and the socket, of a socket that was handed out. -/
def Departure.handed {σ : Type} (e : Departure σ) : Option (UInt64 × σ) :=
  if e.fate = .handedOut then some (e.token, e.socket) else none

/-- The clock, the map, the tokens that each sweep has still to delete, and the logs. -/
structure RtcpState (τ σ : Type) where
  clock : ℕ
  map : UInt64 → Option (RtcpAlloc σ)
  sweeps : τ → List UInt64
  reserved : List (Reservation σ)
  departed : List (Departure σ)

/-- What a thread does under the lock, or the time that passes. `put` has read the clock before it
gets the lock. -/
inductive RtcpAction (σ : Type) where
  | wait (seconds : ℕ)
  | put (token : UInt64) (s : σ) (delay : ℕ)
  | get (token : UInt64)
  | collect (order : List UInt64)
  | delete

def turnTime (clock : ℕ) : UInt32 := UInt32.ofNat clock

variable {τ σ : Type}

namespace RtcpState

def init (τ σ : Type) (clock : ℕ) : RtcpState τ σ := ⟨clock, fun _ => none, fun _ => [], [], []⟩

def rtcpMapPut (st : RtcpState τ σ) (token : UInt64) (s : σ) (time : ℕ) : RtcpState τ σ :=
  { st with
    map := Function.update st.map token (some ⟨s, turnTime time + UInt32.ofNat rtcpTimeout⟩)
    reserved := ⟨token, s, time⟩ :: st.reserved }

/-- `ur_map_del`, for a get or with the callback that closes the socket. -/
def urMapDel (st : RtcpState τ σ) (token : UInt64) (fate : RtcpFate) : RtcpState τ σ :=
  match st.map token with
  | some v =>
    { st with
      map := Function.update st.map token none
      departed := ⟨token, v.s, fate, st.clock⟩ :: st.departed }
  | none => st

/-- The socket that a get returns, and the state after it. -/
def rtcpMapGet (st : RtcpState τ σ) (token : UInt64) : Option σ × RtcpState τ σ :=
  match st.map token with
  | some v => (some v.s, st.urMapDel token .handedOut)
  | none => (none, st)

/-- The entry is due. -/
def timeoutCheck (st : RtcpState τ σ) (token : UInt64) : Bool :=
  (st.map token).any fun v => turnTimeBefore v.t (turnTime st.clock)

variable [DecidableEq τ]

/-- The first phase of `rtcp_map_timeout_handler`. -/
def collect (st : RtcpState τ σ) (t : τ) (order : List UInt64) : RtcpState τ σ :=
  { st with
    sweeps := Function.update st.sweeps t ((order.filter st.timeoutCheck).take maxTokenDel) }

/-- One call of `rtcp_map_del` in the second phase. -/
def deleteNext (st : RtcpState τ σ) (t : τ) : RtcpState τ σ :=
  match st.sweeps t with
  | [] => st
  | token :: rest =>
    { st with sweeps := Function.update st.sweeps t rest }.urMapDel token .closed

/-- A thread begins a sweep when it has ended the one before. -/
def step (st : RtcpState τ σ) (i : τ × RtcpAction σ) : RtcpState τ σ :=
  match i.2 with
  | .wait seconds => { st with clock := st.clock + seconds }
  | .put token s delay => st.rtcpMapPut token s (st.clock - delay)
  | .get token => (st.rtcpMapGet token).2
  | .collect order => if st.sweeps i.1 = [] then st.collect i.1 order else st
  | .delete => st.deleteNext i.1

/-- The token and the socket that a step hands out: a get has returned it. -/
def handedOut (st : RtcpState τ σ) (i : τ × RtcpAction σ) : Option (UInt64 × σ) :=
  match i.2 with
  | .get token => (st.rtcpMapGet token).1.map fun s => (token, s)
  | _ => none

/-- What the gets of a run return, in their order, with the tokens they were called with. -/
def gets : RtcpState τ σ → List (τ × RtcpAction σ) → List (UInt64 × σ)
  | _, [] => []
  | st, i :: is => (st.handedOut i).toList ++ (st.step i).gets is

end RtcpState

def RtcpAction.putToken : RtcpAction σ → Option UInt64
  | .put token _ _ => some token
  | _ => none

namespace RtcpState

/-! ## The clock -/

lemma turnTimeBefore_timeout {time clock : ℕ} (hle : time ≤ clock)
    (hbefore : turnTimeBefore (turnTime time + UInt32.ofNat rtcpTimeout) (turnTime clock) = true) :
    time + rtcpTimeout < clock := by
  by_contra hnot
  have hdiff : (turnTime time + UInt32.ofNat rtcpTimeout - turnTime clock).toNat =
      time + rtcpTimeout - clock := by
    simp only [turnTime, rtcpTimeout, UInt32.toNat_sub, UInt32.toNat_add,
      UInt32.toNat_ofNat'] at hnot ⊢
    omega
  simp only [turnTimeBefore, hdiff, decide_eq_true_eq] at hbefore
  simp only [rtcpTimeout] at hbefore hnot
  omega

/-! ## What every step keeps -/

/-- The token has been reserved so long ago that its time is over. -/
def Expired (st : RtcpState τ σ) (token : UInt64) : Prop :=
  ∃ r ∈ st.reserved, r.token = token ∧ r.time + rtcpTimeout < st.clock

/-- Tokens are reserved once and leave the map once; what is closed or going to be had expired. -/
structure Accounted (st : RtcpState τ σ) : Prop where
  tokens : (st.reserved.map Reservation.token).Nodup
  once : (st.departed.map Departure.token).Nodup
  past : ∀ r ∈ st.reserved, r.time ≤ st.clock
  held : ∀ token v, st.map token = some v → ∃ r ∈ st.reserved, r.token = token ∧ r.socket = v.s ∧
    v.t = turnTime r.time + UInt32.ofNat rtcpTimeout
  left : ∀ e ∈ st.departed, st.map e.token = none
  swept : ∀ t, ∀ token ∈ st.sweeps t, st.Expired token
  origin : ∀ e ∈ st.departed, ∃ r ∈ st.reserved, r.token = e.token ∧ r.socket = e.socket ∧
    (e.fate = .closed → r.time + rtcpTimeout < e.time)

lemma accounted_init (clock : ℕ) : (init τ σ clock).Accounted where
  tokens := nodup_nil
  once := nodup_nil
  past _ hr := absurd hr not_mem_nil
  held _ _ h := absurd h (by simp [init])
  left _ he := absurd he not_mem_nil
  swept _ _ h := absurd h not_mem_nil
  origin _ he := absurd he not_mem_nil

variable {st : RtcpState τ σ}

lemma Accounted.wait (h : st.Accounted) (seconds : ℕ) :
    Accounted { st with clock := st.clock + seconds } := by
  refine ⟨h.tokens, h.once, fun r hr => ?_, h.held, h.left, fun t token htoken => ?_, h.origin⟩
  · exact (h.past r hr).trans (Nat.le_add_right _ _)
  · obtain ⟨r, hr, htok, hlt⟩ := h.swept t token htoken
    exact ⟨r, hr, htok, hlt.trans_le (Nat.le_add_right _ _)⟩

lemma Accounted.put (h : st.Accounted) {token : UInt64}
    (hfresh : token ∉ st.reserved.map Reservation.token) (s : σ) {time : ℕ}
    (htime : time ≤ st.clock) : (st.rtcpMapPut token s time).Accounted := by
  have hne : ∀ r ∈ st.reserved, r.token ≠ token := by
    rintro r hr rfl
    exact hfresh (mem_map_of_mem hr)
  refine ⟨nodup_cons.mpr ⟨hfresh, h.tokens⟩, h.once, ?_, ?_, ?_, ?_, ?_⟩
  · intro r hr
    rcases mem_cons.mp hr with rfl | hr
    · exact htime
    · exact h.past r hr
  · intro token' v hv
    have hupdate : update st.map token
        (some ⟨s, turnTime time + UInt32.ofNat rtcpTimeout⟩) token' = some v := hv
    by_cases htok : token' = token
    · subst htok
      rw [update_self, Option.some_inj] at hupdate
      subst hupdate
      exact ⟨_, mem_cons_self, rfl, rfl, rfl⟩
    · rw [update_of_ne htok] at hupdate
      obtain ⟨r, hr, hrest⟩ := h.held token' v hupdate
      exact ⟨r, mem_cons_of_mem _ hr, hrest⟩
  · intro e he
    obtain ⟨r, hr, htok, -⟩ := h.origin e he
    show update st.map token _ e.token = none
    rw [update_of_ne (htok ▸ hne r hr)]
    exact h.left e he
  · intro t token' htoken
    obtain ⟨r, hr, hrest⟩ := h.swept t token' htoken
    exact ⟨r, mem_cons_of_mem _ hr, hrest⟩
  · intro e he
    obtain ⟨r, hr, hrest⟩ := h.origin e he
    exact ⟨r, mem_cons_of_mem _ hr, hrest⟩

lemma Accounted.urMapDel (h : st.Accounted) (token : UInt64) {fate : RtcpFate}
    (hfate : fate = .closed → st.Expired token) : (st.urMapDel token fate).Accounted := by
  rw [RtcpState.urMapDel]
  cases hv : st.map token with
  | none => exact h
  | some v =>
    obtain ⟨r, hr, htok, hsocket, -⟩ := h.held token v hv
    refine ⟨h.tokens, nodup_cons.mpr ⟨fun hmem => ?_, h.once⟩, h.past, ?_, ?_, h.swept, ?_⟩
    · obtain ⟨e, he, hetok⟩ := mem_map.mp hmem
      have hleft := h.left e he
      rw [hetok] at hleft
      exact absurd (hleft.symm.trans hv) (by simp)
    · intro token' v' hv'
      have hupdate : update st.map token none token' = some v' := hv'
      by_cases hsame : token' = token
      · subst hsame
        exact absurd hupdate (by simp)
      · rw [update_of_ne hsame] at hupdate
        exact h.held token' v' hupdate
    · intro e he
      show update st.map token none e.token = none
      by_cases hsame : e.token = token
      · rw [hsame, update_self]
      · rw [update_of_ne hsame]
        rcases mem_cons.mp he with rfl | he
        · exact absurd rfl hsame
        · exact h.left e he
    · intro e he
      rcases mem_cons.mp he with rfl | he
      · refine ⟨r, hr, htok, hsocket, fun hclosed => ?_⟩
        -- tokens are reserved once, so that it is this reservation that has expired
        obtain ⟨r', hr', htok', hlt⟩ := hfate hclosed
        obtain rfl : r' = r :=
          inj_on_of_nodup_map h.tokens hr' hr (htok'.trans htok.symm)
        exact hlt
      · exact h.origin e he

lemma Accounted.get (h : st.Accounted) (token : UInt64) : (st.rtcpMapGet token).2.Accounted := by
  rw [rtcpMapGet]
  cases hv : st.map token with
  | none => exact h
  | some v => exact h.urMapDel token fun hfate => absurd hfate (by simp)

lemma Accounted.expired (h : st.Accounted) {token : UInt64}
    (hcheck : st.timeoutCheck token = true) : st.Expired token := by
  cases hv : st.map token with
  | none => simp [timeoutCheck, hv] at hcheck
  | some v =>
    obtain ⟨r, hr, htok, -, ht⟩ := h.held token v hv
    simp only [timeoutCheck, hv, Option.any_some, ht] at hcheck
    exact ⟨r, hr, htok, turnTimeBefore_timeout (h.past r hr) hcheck⟩

variable [DecidableEq τ]

lemma Accounted.collect (h : st.Accounted) (t : τ) (order : List UInt64) :
    (st.collect t order).Accounted := by
  refine ⟨h.tokens, h.once, h.past, h.held, h.left, fun t' token htoken => ?_, h.origin⟩
  have hupdate : token ∈ update st.sweeps t
    ((order.filter st.timeoutCheck).take maxTokenDel) t' := htoken
  by_cases ht : t' = t
  · subst ht
    rw [update_self] at hupdate
    exact h.expired (mem_filter.mp (mem_of_mem_take hupdate)).2
  · rw [update_of_ne ht] at hupdate
    exact h.swept t' token hupdate

lemma Accounted.deleteNext (h : st.Accounted) (t : τ) : (st.deleteNext t).Accounted := by
  rw [RtcpState.deleteNext]
  cases hsweep : st.sweeps t with
  | nil => exact h
  | cons token rest =>
    have hrest : Accounted { st with sweeps := update st.sweeps t rest } := by
      refine ⟨h.tokens, h.once, h.past, h.held, h.left, fun t' token' htoken => ?_, h.origin⟩
      have hupdate : token' ∈ update st.sweeps t rest t' := htoken
      by_cases ht : t' = t
      · subst ht
        rw [update_self] at hupdate
        exact h.swept t' token' (by rw [hsweep]; exact mem_cons_of_mem _ hupdate)
      · rw [update_of_ne ht] at hupdate
        exact h.swept t' token' hupdate
    exact hrest.urMapDel token fun _ => h.swept t token (by rw [hsweep]; exact mem_cons_self)

/-- A put has a token that no put before had. -/
def Fresh (st : RtcpState τ σ) (i : τ × RtcpAction σ) : Prop :=
  ∀ token, i.2.putToken = some token → token ∉ st.reserved.map Reservation.token

lemma Accounted.step (h : st.Accounted) {i : τ × RtcpAction σ} (hfresh : st.Fresh i) :
    (st.step i).Accounted := by
  obtain ⟨t, action⟩ := i
  cases action with
  | wait seconds => exact h.wait seconds
  | put token s delay => exact h.put (hfresh token rfl) s (Nat.sub_le _ _)
  | get token => exact h.get token
  | collect order =>
    simp only [RtcpState.step]
    split_ifs
    · exact h.collect t order
    · exact h
  | delete => exact h.deleteNext t

lemma step_reserved (st : RtcpState τ σ) (i : τ × RtcpAction σ) :
    (st.step i).reserved.map Reservation.token =
      i.2.putToken.toList ++ st.reserved.map Reservation.token := by
  have hdel : ∀ (st : RtcpState τ σ) token fate,
      (st.urMapDel token fate).reserved = st.reserved := by
    intro st token fate
    rw [RtcpState.urMapDel]
    split <;> rfl
  obtain ⟨t, action⟩ := i
  cases action with
  | wait seconds => rfl
  | put token s delay => rfl
  | get token =>
    show (st.rtcpMapGet token).2.reserved.map _ = _
    rw [rtcpMapGet]
    split
    · rw [hdel]
      rfl
    · rfl
  | collect order =>
    simp only [RtcpState.step]
    split_ifs <;> rfl
  | delete =>
    show (st.deleteNext t).reserved.map _ = _
    rw [RtcpState.deleteNext]
    split
    · rfl
    · rw [hdel]
      rfl

lemma along_fresh {is : List (τ × RtcpAction σ)}
    (htokens : (is.filterMap fun i => i.2.putToken).Nodup)
    (hnew : ∀ token ∈ is.filterMap fun i => i.2.putToken,
      token ∉ st.reserved.map Reservation.token) :
    Machine.Along RtcpState.step Fresh st is := by
  induction is generalizing st with
  | nil => trivial
  | cons i is ih =>
    refine ⟨fun token htoken => hnew token ?_, ih ?_ ?_⟩
    · exact mem_filterMap.mpr ⟨i, mem_cons_self, htoken⟩
    · exact ((sublist_cons_self i is).filterMap _).nodup htokens
    · intro token htoken hmem
      rw [step_reserved, mem_append] at hmem
      rcases hmem with hmem | hmem
      · -- the token of this put comes again
        have hi : i.2.putToken = some token := by simpa using hmem
        rw [filterMap_cons, hi] at htokens
        exact (nodup_cons.mp htokens).1 htoken
      · refine hnew token ?_ hmem
        exact ((sublist_cons_self i is).filterMap _).subset htoken

lemma step_handed (st : RtcpState τ σ) (i : τ × RtcpAction σ) :
    (st.step i).departed.filterMap Departure.handed =
      (st.handedOut i).toList ++ st.departed.filterMap Departure.handed := by
  obtain ⟨t, action⟩ := i
  cases action with
  | wait seconds => rfl
  | put token s delay => rfl
  | get token =>
    show (st.rtcpMapGet token).2.departed.filterMap _ =
      ((st.rtcpMapGet token).1.map fun s => (token, s)).toList ++ _
    rw [rtcpMapGet, RtcpState.urMapDel]
    cases st.map token <;> rfl
  | collect order =>
    simp only [RtcpState.step]
    split_ifs <;> rfl
  | delete =>
    show (st.deleteNext t).departed.filterMap _ = st.departed.filterMap _
    rw [RtcpState.deleteNext]
    split
    · rfl
    · rw [RtcpState.urMapDel]
      split <;> rfl

/-- The departures to be handed out are what the gets have returned. -/
lemma run_handed (st : RtcpState τ σ) (is : List (τ × RtcpAction σ)) :
    (Machine.run RtcpState.step st is).departed.filterMap Departure.handed =
      (st.gets is).reverse ++ st.departed.filterMap Departure.handed := by
  induction is generalizing st with
  | nil => rfl
  | cons i is ih =>
    rw [Machine.run_cons, ih, step_handed, gets, reverse_append, append_assoc]
    cases st.handedOut i <;> rfl

end RtcpState

/-- For any interleaving of puts with different tokens: the gets return what is handed out; each
token leaves the map at most once, with the socket that was reserved under it, which is closed only
after its expiry; and a get for a token that has left returns none. -/
theorem rtcp_sockets_change_hands_once [DecidableEq τ] [DecidableEq σ] (clock : ℕ)
    (is : List (τ × RtcpAction σ)) (htokens : (is.filterMap fun i => i.2.putToken).Nodup) :
    let st := Machine.run RtcpState.step (RtcpState.init τ σ clock) is
    ((RtcpState.init τ σ clock).gets is).reverse = st.departed.filterMap Departure.handed ∧
      (st.departed.map Departure.token).Nodup ∧
      (∀ e ∈ st.departed, ∃ r ∈ st.reserved, r.token = e.token ∧ r.socket = e.socket ∧
        (e.fate = .closed → r.time + rtcpTimeout < e.time)) ∧
      (∀ s, st.departed.countP (·.socket = s) ≤ st.reserved.countP (·.socket = s)) ∧
      ∀ e ∈ st.departed, (st.rtcpMapGet e.token).1 = none := by
  intro st
  have halong : Machine.Along RtcpState.step RtcpState.Fresh (RtcpState.init τ σ clock) is :=
    RtcpState.along_fresh htokens fun token _ hmem => absurd hmem not_mem_nil
  have hstep : ∀ (st : RtcpState τ σ) i, st.Accounted → st.Fresh i → (st.step i).Accounted :=
    fun st i h hfresh => h.step hfresh
  have h : st.Accounted := Machine.run_invariant hstep halong (RtcpState.accounted_init clock)
  have hgets : ((RtcpState.init τ σ clock).gets is).reverse =
      st.departed.filterMap Departure.handed := by
    rw [RtcpState.run_handed]
    exact (append_nil _).symm
  refine ⟨hgets, h.once, h.origin, fun s => ?_, fun e he => ?_⟩
  · have hnodup : ((st.departed.filter (·.socket = s)).map Departure.token).Nodup :=
      (filter_sublist.map _).nodup h.once
    have hsubset : (st.departed.filter (·.socket = s)).map Departure.token ⊆
        (st.reserved.filter (·.socket = s)).map Reservation.token := by
      intro token htoken
      obtain ⟨e, he, rfl⟩ := mem_map.mp htoken
      obtain ⟨he, hs⟩ := mem_filter.mp he
      obtain ⟨r, hr, htok, hsocket, -⟩ := h.origin e he
      refine mem_map.mpr ⟨r, mem_filter.mpr ⟨hr, ?_⟩, htok⟩
      rw [hsocket]
      exact hs
    have hle := (hnodup.subperm hsubset).length_le
    rw [countP_eq_length_filter, countP_eq_length_filter]
    simpa using hle
  · simp only [RtcpState.rtcpMapGet, h.left e he]

/-- A sweep collects two expired sockets; before it deletes them one of them is handed out. -/
def sweepRace : List (Bool × RtcpAction ℕ) :=
  [(true, .put 7 70 0), (false, .put 8 80 1), (true, .wait 301), (true, .collect [8, 7]),
    (false, .get 7), (true, .delete), (true, .delete)]

theorem rtcp_sockets_change_hands_once_race :
    let st := Machine.run RtcpState.step (RtcpState.init Bool ℕ 1000) sweepRace
    st.departed.map (fun e => (e.token, e.socket, e.fate)) =
        [(8, 80, .closed), (7, 70, .handedOut)] ∧
      ((RtcpState.init Bool ℕ 1000).gets sweepRace).reverse =
        st.departed.filterMap Departure.handed ∧
      (st.departed.map Departure.token).Nodup ∧
      ∀ e ∈ st.departed, (st.rtcpMapGet e.token).1 = none := by
  have h := rtcp_sockets_change_hands_once 1000 sweepRace (by decide)
  exact ⟨by decide, h.1, h.2.1, h.2.2.2.2⟩

end Coturn
