/-
# The ports of relay sockets

What `create_relay_ioa_sockets` does to the ports that are taken, over all relay addresses that it
tries, and what is left of it when the sockets are closed. A port leaks when a request for a lone
even port uses the first port of a pair: the second one stays taken.
-/
import Coturn.RelaySockets

namespace Coturn

open IoaAddr Turnipports List

variable {evenPort : Int} {R : PortRange} {pools : Turnipports} {relayAddr : IoaAddr}
  {transport : RelayTransport}

/-! ## A call -/

/-- Only the first round can disturb the ports: a round is repeated when its ports are free again. -/
lemma createRelayRounds_reaches (attempts : Nat → Attempt) (hinet : relayAddr.IsInet)
    (hudp : 0 ≤ evenPort → transport = .udp) (n : Nat) (h : pools.Fitting → pools.Sound R) :
    Reaches R (Leaks evenPort relayAddr (attempts (0xFFFF - (n + 1))) pools)
      (Disturbs evenPort relayAddr (attempts (0xFFFF - (n + 1))) pools) pools
      (createRelayRounds transport evenPort relayAddr attempts (n + 1) pools).sockets
      (createRelayRounds transport evenPort relayAddr attempts (n + 1) pools).pools := by
  induction n generalizing pools with
  | zero =>
    obtain ⟨hround, -⟩ := createRelayRound_reaches (attempts (0xFFFF - (0 + 1))) hinet hudp h
    rw [createRelayRounds]
    cases hres : createRelayRound transport evenPort relayAddr (attempts (0xFFFF - (0 + 1))) pools
    all_goals
      rw [hres] at hround
      exact hround
  | succ n ih =>
    obtain ⟨hround, hretry⟩ :=
      createRelayRound_reaches (attempts (0xFFFF - (n + 1 + 1))) hinet hudp h
    rw [createRelayRounds]
    cases hres : createRelayRound transport evenPort relayAddr (attempts (0xFFFF - (n + 1 + 1)))
      pools with
    | retry tp =>
      rw [hres] at hround hretry
      intro hfit
      have hboth := Reaches.trans hround (@ih tp) hfit
      obtain ⟨hd, hl⟩ := hretry tp (attempts (0xFFFF - (n + 1))) rfl
        (ih (fun hf => (hround hf).2.choose_spec.opened.sound) hfit).1
      rwa [or_iff_left_of_imp hl, or_iff_left_of_imp hd] at hboth
    | noPort tp | failed tp | created tp rtp rtcp token =>
      rw [hres] at hround
      exact hround

/-- A relay address that a call tries, with the outcomes of the first round and the pools. -/
structure Visit where
  relayAddr : IoaAddr
  out : Attempt
  pools : Turnipports

/-- The relay addresses that a call tries one after the other. -/
def visits (transport : RelayTransport) (evenPort : Int) :
    List RelayChoice → Turnipports → List Visit
  | [], _ => []
  | c :: cs, tp =>
    match c.relayAddr with
    | .error _ => []
    | .ok relayAddr =>
      ⟨relayAddr.1, c.attempts 0, tp⟩ ::
        match createRelayRounds transport evenPort relayAddr.1 c.attempts 0xFFFF tp with
        | .retry tp' | .noPort tp' => visits transport evenPort cs tp'
        | .failed _ | .created _ _ _ _ => []

/-- At one of the relay addresses a pair is found, of which only one port is used. -/
def LeaksAlong (evenPort : Int) (vs : List Visit) : Prop :=
  ∃ v ∈ vs, Leaks evenPort v.relayAddr v.out v.pools

/-- At one of the relay addresses the taken ports change for good. -/
def DisturbsAlong (evenPort : Int) (vs : List Visit) : Prop :=
  ∃ v ∈ vs, Disturbs evenPort v.relayAddr v.out v.pools

lemma createRelayLoop_reaches (rtcpMapPut : Bool) (hudp : 0 ≤ evenPort → transport = .udp)
    (choices : List RelayChoice) (h : pools.Fitting → pools.Sound R) :
    Reaches R (LeaksAlong evenPort (visits transport evenPort choices pools))
      (DisturbsAlong evenPort (visits transport evenPort choices pools)) pools
      (createRelayLoop transport evenPort rtcpMapPut choices pools).2.sockets'
      (createRelayLoop transport evenPort rtcpMapPut choices pools).1 := by
  induction choices generalizing pools with
  | nil => exact .refl h (by simp [DisturbsAlong, visits])
  | cons c cs ih =>
    rw [createRelayLoop, visits]
    cases hrelay : c.relayAddr with
    | error code => exact .refl h (by simp [DisturbsAlong])
    | ok relayAddr =>
      have hrounds := createRelayRounds_reaches c.attempts relayAddr.2 hudp 0xFFFE h
      simp only [LeaksAlong, DisturbsAlong]
      cases hres : createRelayRounds transport evenPort relayAddr.1 c.attempts 0xFFFF pools with
      | retry tp | noPort tp =>
        rw [hres] at hrounds
        simpa [LeaksAlong, DisturbsAlong] using Reaches.trans hrounds (@ih tp)
      | failed tp =>
        rw [hres] at hrounds
        simp only [mem_singleton, exists_eq_left]
        exact hrounds
      | created tp rtp rtcp token =>
        rw [hres] at hrounds
        simp only [mem_singleton, exists_eq_left]
        split_ifs with hput
        · -- the reservation map refused the RTCP socket: both sockets are closed
          obtain ⟨s, rfl⟩ : ∃ s, rtcp = some s := by
            cases rtcp with
            | none => simp at hput
            | some s => exact ⟨s, rfl⟩
          exact hrounds.close.close
        · exact hrounds

/-- The relay addresses that a call tries; there are none for the shared socket. -/
def CreateCall.visits (c : CreateCall) (tp : Turnipports) : List Visit :=
  if c.multiplexPeerMode && c.transport = .udp then []
  else Coturn.visits c.transport c.evenPort c.choices tp

lemma createRelayIoaSockets_reaches {c : CreateCall} (hudp : 0 ≤ c.evenPort → c.transport = .udp)
    (h : pools.Fitting → pools.Sound R) :
    Reaches R (LeaksAlong c.evenPort (c.visits pools)) (DisturbsAlong c.evenPort (c.visits pools))
      pools (createRelayIoaSockets c pools).2.sockets' (createRelayIoaSockets c pools).1 := by
  rw [createRelayIoaSockets, CreateCall.visits]
  split_ifs
  · exact .refl h (by simp [DisturbsAlong])
  · exact .refl h (by simp [DisturbsAlong])
  · exact .refl h (by simp [DisturbsAlong])
  · exact createRelayLoop_reaches c.rtcpMapPut hudp c.choices h

/-! ## Runs -/

/-- The ports, and the sockets that use them. -/
structure RelayState where
  pools : Turnipports
  sockets : List RelaySocket

/-- A socket is opened or closed. -/
inductive RelayOp where
  | create (c : CreateCall)
  | close (s : RelaySocket)

def RelayState.step (st : RelayState) : RelayOp → RelayState
  | .create c =>
    let res := createRelayIoaSockets c st.pools
    ⟨res.1, res.2.sockets' ++ st.sockets⟩
  | .close s =>
    if s ∈ st.sockets then ⟨closeIoaSocket st.pools s, st.sockets.erase s⟩ else st

def RelayState.init (start stop : Nat) : RelayState := ⟨⟨start, stop, fun _ _ => none, []⟩, []⟩

lemma RelayState.init_sound (R : PortRange) : (RelayState.init R.start R.stop).pools.Sound R :=
  ⟨rfl, rfl, fun _ _ _ h => nomatch h⟩

/-- Even ports are for UDP, and a request for one without reservation finds no pair. -/
def RelayOp.Paired (st : RelayState) : RelayOp → Prop
  | .create c => (0 ≤ c.evenPort → c.transport = .udp) ∧
      ¬ LeaksAlong c.evenPort (c.visits st.pools)
  | .close _ => True

/-- The taken ports are those of open sockets, if all calls on the pools fitted. -/
def RelayState.Covered (R : PortRange) (st : RelayState) : Prop :=
  st.pools.Fitting → st.pools.Sound R ∧
    st.pools.taken ⊆ {x | ∃ s ∈ st.sockets, s.bound = true ∧ s.place = x}

lemma RelayState.step_covered {st : RelayState} {op : RelayOp} (h : st.Covered R)
    (hop : op.Paired st) : (st.step op).Covered R := by
  cases op with
  | create c =>
    intro hfit
    obtain ⟨hfit, T, hout⟩ := createRelayIoaSockets_reaches hop.1 (fun hf => (h hf).1) hfit
    obtain ⟨-, hcov⟩ := h hfit
    refine ⟨hout.opened.sound, fun x hx => ?_⟩
    have hx : x ∈ {x | x ∈ _} ∪ T := hout.opened.taken_eq ▸ hx
    rcases hx with hnew | hold
    · obtain ⟨s, hs, rfl⟩ := mem_map.mp hnew
      exact ⟨s, mem_append_left _ hs, hout.opened.bound s hs, rfl⟩
    · obtain ⟨s, hs, hrest⟩ := hcov (hout.subset hop.2 hold)
      exact ⟨s, mem_append_right _ hs, hrest⟩
  | close s =>
    rw [RelayState.step]
    split
    · next hs =>
      have hothers : ∀ x ∈ st.pools.taken, st.pools.Fitting → (s.bound = true → x ≠ s.place) →
          ∃ s' ∈ st.sockets.erase s, s'.bound = true ∧ s'.place = x := by
        intro x hx hfit hne
        obtain ⟨s', hs', hbound, hplace⟩ := (h hfit).2 hx
        refine ⟨s', (mem_erase_of_ne ?_).mpr hs', hbound, hplace⟩
        rintro rfl
        exact hne hbound hplace.symm
      intro hfit
      simp only [closeIoaSocket] at hfit ⊢
      split_ifs at hfit ⊢ with hbound
      · obtain ⟨hfit, hsound, htaken⟩ := turnipportsRelease_taken (fun hf => (h hf).1) hfit
        refine ⟨hsound, fun x hx => ?_⟩
        rw [htaken] at hx
        exact hothers x hx.1 hfit fun _ => hx.2
      · exact ⟨(h hfit).1, fun x hx => hothers x hx hfit fun hb => absurd hb hbound⟩
    · exact h

/-- In every run in which no request for a lone even port finds a pair and every call on a pool
fits: once every socket is closed, every port is available again. -/
theorem relayPorts_available_after_close (R : PortRange) (ops : List RelayOp)
    (hops : Machine.Along RelayState.step (fun st op => op.Paired st)
      (RelayState.init R.start R.stop) ops)
    (hfit : (Machine.run RelayState.step (RelayState.init R.start R.stop) ops).pools.Fitting)
    (hclosed : (Machine.run RelayState.step (RelayState.init R.start R.stop) ops).sockets = []) :
    ∀ tr addr p, R.start ≤ p → p ≤ R.stop →
      turnipportsIsAvailable
        (Machine.run RelayState.step (RelayState.init R.start R.stop) ops).pools tr addr p
        = true := by
  intro tr addr p hstart hstop
  have hinit : (RelayState.init R.start R.stop).Covered R := by
    refine fun _ => ⟨RelayState.init_sound R, ?_⟩
    rintro x ⟨t, ht, -⟩
    cases ht
  have hstep : ∀ st op, RelayState.Covered R st → RelayOp.Paired st op → (st.step op).Covered R :=
    fun st op => RelayState.step_covered
  obtain ⟨hsound, hcov⟩ := Machine.run_invariant hstep hops hinit hfit
  rw [turnipportsIsAvailable]
  split
  · next t ht =>
    obtain ⟨hpool, hr₁, hr₂⟩ := hsound.sound _ _ t ht
    have hrange : t.InRange p := ⟨by rw [hr₁]; exact hstart, by rw [hr₂]; exact hstop⟩
    refine hpool.isAvailable hrange fun htaken => ?_
    have hmem : (tr, addrSetPort 0 addr, p) ∈ (Machine.run RelayState.step
        (RelayState.init R.start R.stop) ops).pools.taken := ⟨t, ht, hrange, htaken⟩
    obtain ⟨s, hs, -⟩ := hcov hmem
    rw [hclosed] at hs
    cases hs
  · rfl

def smoothAttempt : Attempt := ⟨fun _ => 0, 0, true, some .unset, true, some .unset⟩

def smoothCall (evenPort : Int) : CreateCall where
  transport := .udp
  evenPort := evenPort
  multiplexPeerMode := false
  sharedSocket := false
  choices := [⟨.ok ⟨s4 ⟨[10, 0, 0, 1], rfl⟩ 0, by decide⟩, fun _ => smoothAttempt⟩]
  rtcpMapPut := true

def firstSocket : RelaySocket := ⟨.udp, true, s4 ⟨[10, 0, 0, 1], rfl⟩ 49152⟩

def smallRange : PortRange := ⟨49152, 49155, by decide, by decide, by decide⟩

/-- After the call, and after the socket has been closed. -/
def createdAndClosed (evenPort : Int) : RelayState :=
  Machine.run RelayState.step (RelayState.init smallRange.start smallRange.stop)
    [.create (smoothCall evenPort), .close firstSocket]

/-- A request for an even port without reservation takes two ports and returns one socket. -/
theorem lone_even_port_leaks :
    ((RelayState.init smallRange.start smallRange.stop).step
        (.create (smoothCall 0))).sockets = [firstSocket] ∧
      (createdAndClosed 0).sockets = [] ∧
      turnipportsIsAvailable (createdAndClosed 0).pools .udp (s4 ⟨[10, 0, 0, 1], rfl⟩ 0) 49153 =
        false := by
  decide +kernel

theorem relayPorts_available_after_close_small :
    (createdAndClosed (-1)).pools.Fitting ∧ (createdAndClosed (-1)).sockets = [] ∧
      turnipportsIsAvailable (createdAndClosed (-1)).pools .udp (s4 ⟨[10, 0, 0, 1], rfl⟩ 0) 49152 =
        true := by
  have hfit : (createdAndClosed (-1)).pools.Fitting := by decide +kernel
  have hclosed : (createdAndClosed (-1)).sockets = [] := by decide +kernel
  refine ⟨hfit, hclosed, relayPorts_available_after_close smallRange _ ?_ hfit hclosed _ _ _
    (by decide) (by decide)⟩
  refine ⟨⟨fun h => absurd h (by decide), ?_⟩, trivial, trivial⟩
  rintro ⟨v, -, h, -⟩
  exact absurd h (by decide)

end Coturn
