/-
# Creation of relay sockets

`create_relay_ioa_sockets` of `apps/relay/ns_ioalib_engine_impl.c` takes a port, or an even port and
the next one, from the pool of a relay address, creates and binds the sockets, and tries another
port when binding fails. Closing a bound socket gives its port back. The system calls are inputs of
the model.
-/
import Coturn.Ports.IpPorts

namespace Coturn

open IoaAddr Turnipports List

/-- A relay or RTCP socket, as far as its port goes: its type, whether it is bound, and the
address it is bound to. -/
structure RelaySocket where
  st : RelayTransport
  bound : Bool
  localAddr : IoaAddr
  deriving DecidableEq

def createUnboundRelayIoaSocket (st : RelayTransport) : RelaySocket := ⟨st, false, .unset⟩

/-- `sockName` is `none` when the bind call fails, else what the kernel reports as the bound
address. -/
def bindIoaSocket (s : RelaySocket) (addr : IoaAddr) (sockName : Option IoaAddr) :
    Option RelaySocket :=
  sockName.map fun tmpaddr =>
    { s with
      bound := true
      localAddr :=
        if addrGetPort addr = 0 then
          if addrAny addr then tmpaddr else addrSetPort (addrGetPort tmpaddr) addr
        else addr }

/-- The port is given back with the socket. -/
def closeIoaSocket (tp : Turnipports) (s : RelaySocket) : Turnipports :=
  if s.bound then turnipportsRelease tp s.st s.localAddr else tp

/-- `IOA_CLOSE_SOCKET` of a pointer that may be NULL. -/
def ioaCloseSocket (tp : Turnipports) : Option RelaySocket → Turnipports
  | some s => closeIoaSocket tp s
  | none => tp

/-- The outcomes of the system calls of one round, and the random numbers it draws. -/
structure Attempt where
  poolRnd : Nat → Nat
  tokenRnd : Nat
  rtcpCreated : Bool
  rtcpBound : Option IoaAddr
  rtpCreated : Bool
  rtpBound : Option IoaAddr

/-- How a round ends. -/
inductive RoundResult where
  /-- Binding failed; the loop goes on. -/
  | retry (tp : Turnipports)
  /-- The pool has no port; the loop is left. -/
  | noPort (tp : Turnipports)
  /-- A socket could not be created; the function returns -1. -/
  | failed (tp : Turnipports)
  /-- The relay socket is bound; the loop is left. -/
  | created (tp : Turnipports) (rtp : RelaySocket) (rtcp : Option RelaySocket) (token : Nat)

/-- The second half of a round: the relay socket is bound to `port`, the RTCP socket to the port
after it. -/
def createRtpSocket (transport : RelayTransport) (relayAddr : IoaAddr) (out : Attempt)
    (tp : Turnipports) (port : Int) (rtcp : Option RelaySocket) (token : Nat) : RoundResult :=
  if port < 0 then .noPort (ioaCloseSocket tp rtcp)
  else
    let localAddr := addrSetPort (UInt16.ofNat port.toNat) relayAddr
    let rtcpPort : Int := if rtcp.isSome then port + 1 else -1
    -- the cleanup of both failure paths
    let cleanup : Turnipports :=
      let rtcpBound := match rtcp with
        | some s => s.bound
        | none => false
      let tp := turnipportsRelease (ioaCloseSocket tp rtcp) transport localAddr
      if rtcpPort ≥ 0 && !rtcpBound then
        turnipportsRelease tp transport (addrSetPort (UInt16.ofNat rtcpPort.toNat) relayAddr)
      else tp
    if !out.rtpCreated then .failed cleanup
    else match bindIoaSocket (createUnboundRelayIoaSocket transport) localAddr out.rtpBound with
      | some rtp => .created tp rtp rtcp token
      | none => .retry cleanup

/-- One round of the inner loop. Both socket pointers are NULL when it starts. -/
def createRelayRound (transport : RelayTransport) (evenPort : Int) (relayAddr : IoaAddr)
    (out : Attempt) (tp : Turnipports) : RoundResult :=
  if evenPort < 0 then
    let res := turnipportsAllocate out.poolRnd tp transport relayAddr
    createRtpSocket transport relayAddr out res.2 res.1 none 0
  else
    let res := turnipportsAllocateEven out.poolRnd out.tokenRnd tp relayAddr
    let port := res.1
    let tp := res.2.2
    if port ≥ 0 && evenPort > 0 then
      let localAddr := addrSetPort (UInt16.ofNat port.toNat) relayAddr
      let rtcpLocalAddr := addrSetPort (UInt16.ofNat (port.toNat + 1)) relayAddr
      let released := turnipportsRelease (turnipportsRelease tp transport localAddr) transport
        rtcpLocalAddr
      if !out.rtcpCreated then .failed released
      else match bindIoaSocket (createUnboundRelayIoaSocket .udp) rtcpLocalAddr out.rtcpBound with
        | none => .retry released
        | some rtcp => createRtpSocket transport relayAddr out tp port (some rtcp) res.2.1
    else createRtpSocket transport relayAddr out tp port none res.2.1

/-- The inner loop, with the number of rounds left; `attempts i` is round `i`. -/
def createRelayRounds (transport : RelayTransport) (evenPort : Int) (relayAddr : IoaAddr)
    (attempts : Nat → Attempt) : Nat → Turnipports → RoundResult
  | 0, tp => .noPort tp
  | n + 1, tp =>
    match createRelayRound transport evenPort relayAddr (attempts (0xFFFF - (n + 1))) tp with
    | .retry tp' => createRelayRounds transport evenPort relayAddr attempts n tp'
    | res => res

/-- An error code with a reason, sockets of its own, or the shared socket of the multiplex-peer
mode. -/
inductive CreateResult where
  | error (errCode : Nat) (reason : Option String)
  | sockets (rtp : RelaySocket) (rtcp : Option RelaySocket) (token : Nat)
  | shared

/-- One round of the outer loop: the relay address that is picked, or its error code, and the
outcomes of the system calls. -/
structure RelayChoice where
  relayAddr : Except Nat { a : IoaAddr // a.IsInet }
  attempts : Nat → Attempt

/-- The outer loop, until a socket is bound. -/
def createRelayLoop (transport : RelayTransport) (evenPort : Int) (rtcpMapPut : Bool) :
    List RelayChoice → Turnipports → Turnipports × CreateResult
  | [], tp => (tp, .error 0 none)
  | c :: cs, tp =>
    match c.relayAddr with
    | .error code =>
      (tp, .error code (if code = 440 then some "Unsupported address family" else none))
    | .ok relayAddr =>
      match createRelayRounds transport evenPort relayAddr.1 c.attempts 0xFFFF tp with
      | .retry tp' => createRelayLoop transport evenPort rtcpMapPut cs tp'
      | .noPort tp' => createRelayLoop transport evenPort rtcpMapPut cs tp'
      | .failed tp' => (tp', .error 0 none)
      | .created tp' rtp rtcp token =>
        -- the RTCP socket is put into the reservation map
        if rtcp.isSome && token != 0 && !rtcpMapPut then
          (ioaCloseSocket (closeIoaSocket tp' rtp) rtcp, .error 0 none)
        else (tp', .sockets rtp rtcp token)

/-- The arguments, and what the system answers. -/
structure CreateCall where
  transport : RelayTransport
  evenPort : Int
  multiplexPeerMode : Bool
  sharedSocket : Bool
  choices : List RelayChoice
  rtcpMapPut : Bool

def createRelayIoaSockets (c : CreateCall) (tp : Turnipports) : Turnipports × CreateResult :=
  if c.multiplexPeerMode && c.transport = .udp then
    if c.evenPort ≥ 0 then
      (tp, .error 400 (some "EVEN-PORT is not supported with multiplex-peer"))
    else if c.sharedSocket then (tp, .shared)
    else (tp, .error 508 (some "No multiplex-peer socket for requested address family"))
  else createRelayLoop c.transport c.evenPort c.rtcpMapPut c.choices tp

/-! ## The ports of open sockets -/

/-- The port that a socket gives back when it is closed. -/
def RelaySocket.place (s : RelaySocket) : RelayTransport × IoaAddr × Nat :=
  (s.st, addrSetPort 0 s.localAddr, (addrGetPort s.localAddr).toNat)

/-- A socket that is bound to a port of a relay address. Releasing the port is closing it. -/
def boundTo (st : RelayTransport) (relayAddr : IoaAddr) (port : Nat) : RelaySocket :=
  ⟨st, true, addrSetPort (UInt16.ofNat port) relayAddr⟩

/-- Besides the ports of `T`, those of some bound sockets are taken. -/
structure Opened (R : PortRange) (T : PortSet) (socks : List RelaySocket) (tp : Turnipports) :
    Prop where
  sound : tp.Sound R
  bound : ∀ s ∈ socks, s.bound = true
  distinct : (socks.map RelaySocket.place).Nodup
  fresh : ∀ s ∈ socks, s.place ∉ T
  taken_eq : tp.taken = {x | x ∈ socks.map RelaySocket.place} ∪ T

/-- The pools that a round leaves. -/
def RoundResult.pools : RoundResult → Turnipports
  | .retry tp | .noPort tp | .failed tp | .created tp _ _ _ => tp

/-- The sockets that a round leaves open. -/
def RoundResult.sockets : RoundResult → List RelaySocket
  | .created _ rtp rtcp _ => rtp :: rtcp.toList
  | _ => []

/-- The sockets that a call leaves open. -/
def CreateResult.sockets' : CreateResult → List RelaySocket
  | .sockets rtp rtcp _ => rtp :: rtcp.toList
  | _ => []

variable {R : PortRange} {T : PortSet} {socks : List RelaySocket} {pools : Turnipports}
  {relayAddr : IoaAddr} {transport : RelayTransport} {port : Nat} {s : RelaySocket}
  {rtcp : Option RelaySocket} {evenPort : Int} (out : Attempt)

lemma opened_nil (h : pools.Sound R) (htaken : pools.taken = T) : Opened R T [] pools :=
  ⟨h, by simp, by simp, by simp, by simp [htaken]⟩

lemma Opened.perm {socks' : List RelaySocket} (h : Opened R T socks pools)
    (hperm : socks.Perm socks') : Opened R T socks' pools := by
  have hplaces := hperm.map RelaySocket.place
  refine ⟨h.sound, fun s hs => h.bound s (hperm.mem_iff.mpr hs), hplaces.nodup_iff.mp h.distinct,
    fun s hs => h.fresh s (hperm.mem_iff.mpr hs), ?_⟩
  simp only [h.taken_eq, hplaces.mem_iff]

/-- A socket may be forgotten: its port stays taken. -/
lemma Opened.forget (h : Opened R T (s :: socks) pools) :
    Opened R (insert s.place T) socks pools := by
  obtain ⟨hfirst, hrest⟩ := nodup_cons.mp h.distinct
  refine ⟨h.sound, fun s' hs' => h.bound s' (mem_cons_of_mem _ hs'), hrest, fun s' hs' => ?_, ?_⟩
  · rintro (heq | hmem)
    · exact hfirst (heq ▸ mem_map_of_mem hs')
    · exact h.fresh s' (mem_cons_of_mem _ hs') hmem
  · rw [h.taken_eq]
    ext x
    simp [or_comm, or_left_comm]

lemma Opened.close (h : pools.Fitting → Opened R T (s :: socks) pools)
    (hfit : (closeIoaSocket pools s).Fitting) :
    pools.Fitting ∧ Opened R T socks (closeIoaSocket pools s) := by
  unfold closeIoaSocket at hfit ⊢
  split at hfit
  · next hbound =>
    obtain ⟨hfit, hsound, htaken⟩ := turnipportsRelease_taken (fun hf => (h hf).sound) hfit
    have hforget := (h hfit).forget
    have hplace : s.place ∉ {x | x ∈ socks.map RelaySocket.place} ∪ T := by
      rintro (hmem | hmem)
      · exact (nodup_cons.mp (h hfit).distinct).1 hmem
      · exact (h hfit).fresh s mem_cons_self hmem
    rw [if_pos hbound]
    refine ⟨hfit, hsound, hforget.bound, hforget.distinct,
      fun s' hs' => fun hmem => hforget.fresh s' hs' (Or.inr hmem), ?_⟩
    rw [htaken, hforget.taken_eq, Set.union_insert]
    exact Set.insert_sdiff_self_of_notMem hplace
  · next hbound => exact absurd ((h hfit).bound s mem_cons_self) hbound

lemma place_boundTo (hinet : relayAddr.IsInet) (hport : port ≤ 65535) (st : RelayTransport) :
    (boundTo st relayAddr port).place = (st, addrSetPort 0 relayAddr, port) := by
  have hnat : (addrGetPort (addrSetPort (UInt16.ofNat port) relayAddr)).toNat = port := by
    rw [addrGetPort_addrSetPort _ hinet, UInt16.toNat_ofNat']
    exact Nat.mod_eq_of_lt (by omega)
  rw [RelaySocket.place, boundTo, hnat, addrSetPort_addrSetPort]

lemma bindIoaSocket_bound {s' : RelaySocket} {addr : IoaAddr} {sockName : Option IoaAddr}
    (h : bindIoaSocket s addr sockName = some s') : s'.bound = true := by
  obtain ⟨a, -, rfl⟩ := Option.map_eq_some_iff.mp h
  rfl

lemma bindIoaSocket_eq_some {sockName : Option IoaAddr} (hinet : relayAddr.IsInet)
    (hport : 0 < port ∧ port ≤ 65535) {st : RelayTransport}
    (h : bindIoaSocket (createUnboundRelayIoaSocket st)
      (addrSetPort (UInt16.ofNat port) relayAddr) sockName = some s) :
    s = boundTo st relayAddr port := by
  have hne : addrGetPort (addrSetPort (UInt16.ofNat port) relayAddr) ≠ 0 := by
    intro hz
    have hplace := congrArg (·.2.2) (place_boundTo hinet hport.2 st)
    simp only [RelaySocket.place, boundTo, hz, UInt16.toNat_zero] at hplace
    omega
  cases sockName with
  | none => cases h
  | some a =>
    simp only [bindIoaSocket, Option.map_some, if_neg hne, Option.some.injEq] at h
    exact h.symm

/-! ## A round -/

/-- On both failure paths the RTCP socket is closed, which gives its port back, and the relay port is
released. -/
lemma createRtpSocket_eq {token : Nat} (hbound : ∀ s ∈ rtcp, s.bound = true) :
    createRtpSocket transport relayAddr out pools port rtcp token =
      let cleanup := closeIoaSocket (ioaCloseSocket pools rtcp) (boundTo transport relayAddr port)
      if !out.rtpCreated then .failed cleanup
      else match bindIoaSocket (createUnboundRelayIoaSocket transport)
          (addrSetPort (UInt16.ofNat port) relayAddr) out.rtpBound with
        | some rtp => .created pools rtp rtcp token
        | none => .retry cleanup := by
  have hneg : ¬ (port : Int) < 0 := by omega
  cases rtcp with
  | none =>
    simp only [createRtpSocket, if_neg hneg, Int.toNat_natCast, Option.isSome_none,
      Bool.false_eq_true, if_false]
    rfl
  | some s =>
    simp only [createRtpSocket, if_neg hneg, Int.toNat_natCast, hbound s rfl, Bool.not_true,
      Bool.and_false, Bool.false_eq_true, if_false]
    rfl

/-- The relay port and the RTCP socket are given back, or a socket is bound to the port. -/
lemma createRtpSocket_opened {token : Nat} (hinet : relayAddr.IsInet)
    (hbound : ∀ s ∈ rtcp, s.bound = true)
    (h : pools.Fitting → (0 < port ∧ port ≤ 65535) ∧
      Opened R T (boundTo transport relayAddr port :: rtcp.toList) pools)
    (hfit : (createRtpSocket transport relayAddr out pools port rtcp token).pools.Fitting) :
    pools.Fitting ∧
      Opened R T (createRtpSocket transport relayAddr out pools port rtcp token).sockets
        (createRtpSocket transport relayAddr out pools port rtcp token).pools := by
  have hcleanup : (closeIoaSocket (ioaCloseSocket pools rtcp)
      (boundTo transport relayAddr port)).Fitting → pools.Fitting ∧ Opened R T []
        (closeIoaSocket (ioaCloseSocket pools rtcp) (boundTo transport relayAddr port)) := by
    intro hfit
    cases rtcp with
    | none => exact Opened.close (fun hf => (h hf).2) hfit
    | some s =>
      have hswap : pools.Fitting → Opened R T [s, boundTo transport relayAddr port] pools :=
        fun hf => (h hf).2.perm (.swap _ _ _)
      obtain ⟨hfit', hclosed⟩ := Opened.close (fun hf => (Opened.close hswap hf).2) hfit
      exact ⟨(Opened.close hswap hfit').1, hclosed⟩
  rw [createRtpSocket_eq out hbound] at hfit ⊢
  by_cases hcreated : out.rtpCreated = true
  · simp only [hcreated, Bool.not_true, Bool.false_eq_true, if_false] at hfit ⊢
    cases hbind : bindIoaSocket (createUnboundRelayIoaSocket transport)
      (addrSetPort (UInt16.ofNat port) relayAddr) out.rtpBound with
    | none =>
      rw [hbind] at hfit
      exact hcleanup hfit
    | some rtp =>
      rw [hbind] at hfit
      obtain ⟨hport, hopen⟩ := h hfit
      rw [← bindIoaSocket_eq_some hinet hport hbind] at hopen
      exact ⟨hfit, hopen⟩
  · simp only [hcreated, Bool.not_false, if_true] at hfit ⊢
    exact hcleanup hfit

/-- The second port of a pair stays taken although its socket does not exist, or port 65535 of a
full pool is given back. -/
inductive Drift (R : PortRange) : PortSet → PortSet → Prop
  | leak {T : PortSet} (ba : IoaAddr) (port : Nat) (heven : port % 2 = 0) (hstart : R.start ≤ port)
      (hfirst : (.udp, ba, port) ∉ T) (hsecond : (.udp, ba, port + 1) ∉ T) :
      Drift R T (insert (.udp, ba, port + 1) T)
  | giveBack {T : PortSet} (ba : IoaAddr) (hlast : (.udp, ba, 65535) ∈ T)
      (hfull : R.start ≤ 65534 → (.udp, ba, 65534) ∈ T) : Drift R T (T \ {(.udp, ba, 65535)})

/-- The port that has changed cannot change back: the one before it stays as it is. -/
lemma ne_of_drift {T' : PortSet} (h : Relation.TransGen (Drift R) T T') : T' ≠ T := by
  have hmark : (∃ ba port, (port % 2 = 0 ∧ R.start ≤ port) ∧ (.udp, ba, port + 1) ∉ T ∧
      (.udp, ba, port + 1) ∈ T' ∧ (.udp, ba, port) ∉ T') ∨
      ∃ ba, (.udp, ba, 65535) ∈ T ∧ (.udp, ba, 65535) ∉ T' ∧
        (R.start ≤ 65534 → (.udp, ba, 65534) ∈ T') := by
    induction h with
    | single hstep =>
      cases hstep with
      | leak ba port heven hstart hfirst hsecond =>
        exact Or.inl ⟨ba, port, ⟨heven, hstart⟩, hsecond, by simp, by simpa using hfirst⟩
      | giveBack ba hlast hfull =>
        exact Or.inr ⟨ba, hlast, by simp, by simpa using hfull⟩
    | tail _ hstep ih =>
      rcases ih with ⟨ba, port, hport, hbefore, hafter, hfree⟩ | ⟨ba, hbefore, hafter, hkept⟩
      · refine Or.inl ⟨ba, port, hport, hbefore, ?_⟩
        cases hstep with
        | leak ba' port' heven _ _ _ =>
          refine ⟨Or.inr hafter, ?_⟩
          rintro (heq | hmem)
          · have : port = port' + 1 := congrArg (·.2.2) heq
            omega
          · exact hfree hmem
        | giveBack ba' _ hfull =>
          refine ⟨⟨hafter, fun heq => ?_⟩, fun hmem => hfree hmem.1⟩
          obtain ⟨rfl, hlast⟩ : ba = ba' ∧ port + 1 = 65535 := by simpa using heq
          obtain rfl : port = 65534 := by omega
          exact hfree (hfull hport.2)
      · refine Or.inr ⟨ba, hbefore, ?_⟩
        cases hstep with
        | leak ba' port' _ hstart hfirst _ =>
          refine ⟨?_, fun hle => Or.inr (hkept hle)⟩
          rintro (heq | hmem)
          · obtain ⟨rfl, hlast⟩ : ba = ba' ∧ 65535 = port' + 1 := by simpa using heq
            obtain rfl : port' = 65534 := by omega
            exact hfirst (hkept hstart)
          · exact hafter hmem
        | giveBack ba' _ _ =>
          refine ⟨fun hmem => hafter hmem.1, fun hle => ⟨hkept hle, ?_⟩⟩
          simp
  rintro rfl
  rcases hmark with ⟨ba, port, -, hbefore, hafter, -⟩ | ⟨ba, hbefore, hafter, -⟩
  · exact hbefore hafter
  · exact hafter hbefore

/-- The search for an even port finds a pair, of which a request without reservation uses only one. -/
def Leaks (evenPort : Int) (relayAddr : IoaAddr) (out : Attempt) (tp : Turnipports) : Prop :=
  evenPort = 0 ∧ 0 ≤ (turnipportsAllocateEven out.poolRnd out.tokenRnd tp relayAddr).1

/-- A round changes the taken ports for good. -/
def Disturbs (evenPort : Int) (relayAddr : IoaAddr) (out : Attempt) (tp : Turnipports) : Prop :=
  0 ≤ evenPort ∧ tp.GivesBack relayAddr ∨ Leaks evenPort relayAddr out tp

/-- What creating sockets does to the pools, with `T` for the ports that are left when the sockets
are closed: the same as before unless the ports are disturbed, and no more unless one leaks. -/
structure Outcome (R : PortRange) (leaks disturbs : Prop) (tp : Turnipports)
    (socks : List RelaySocket) (tp' : Turnipports) (T : PortSet) : Prop where
  opened : Opened R T socks tp'
  quiet : ¬ disturbs → T = tp.taken
  drift : disturbs → Relation.TransGen (Drift R) tp.taken T
  subset : ¬ leaks → T ⊆ tp.taken

/-- If all calls on the pools fitted, those until then did, and the others had such an outcome. -/
def Reaches (R : PortRange) (leaks disturbs : Prop) (tp : Turnipports) (socks : List RelaySocket)
    (tp' : Turnipports) : Prop :=
  tp'.Fitting → tp.Fitting ∧ ∃ T, Outcome R leaks disturbs tp socks tp' T

variable {leaks leaks' disturbs disturbs' : Prop} {tp tp₁ tp₂ : Turnipports}

lemma Reaches.of_quiet (hno : ¬ disturbs)
    (h : tp₁.Fitting → tp.Fitting ∧ Opened R tp.taken socks tp₁) :
    Reaches R leaks disturbs tp socks tp₁ := fun hfit =>
  ⟨(h hfit).1, tp.taken, (h hfit).2, fun _ => rfl, fun hd => (hno hd).elim, fun _ => subset_rfl⟩

lemma Reaches.refl (h : tp.Fitting → tp.Sound R) (hno : ¬ disturbs) :
    Reaches R leaks disturbs tp [] tp :=
  .of_quiet hno fun hfit => ⟨hfit, opened_nil (h hfit) rfl⟩

lemma Reaches.trans (h : Reaches R leaks disturbs tp [] tp₁)
    (h' : (tp₁.Fitting → tp₁.Sound R) → Reaches R leaks' disturbs' tp₁ socks tp₂) :
    Reaches R (leaks ∨ leaks') (disturbs ∨ disturbs') tp socks tp₂ := by
  intro hfit
  have hsound : tp₁.Fitting → tp₁.Sound R := fun hf =>
    let ⟨_, _, hout⟩ := h hf
    hout.opened.sound
  obtain ⟨hfit₁, T', hout'⟩ := h' hsound hfit
  obtain ⟨hfit₀, T, hout⟩ := h hfit₁
  have htaken : tp₁.taken = T := by simpa using hout.opened.taken_eq
  refine ⟨hfit₀, T', hout'.opened, fun hno => ?_, fun hor => ?_, fun hno => ?_⟩
  · rw [not_or] at hno
    rw [hout'.quiet hno.2, htaken, hout.quiet hno.1]
  · by_cases hfirst : disturbs
    · by_cases hsecond : disturbs'
      · exact (hout.drift hfirst).trans (htaken ▸ hout'.drift hsecond)
      · rw [hout'.quiet hsecond, htaken]
        exact hout.drift hfirst
    · have hdrift := hout'.drift (hor.resolve_left hfirst)
      rwa [htaken, hout.quiet hfirst] at hdrift
  · rw [not_or] at hno
    exact (hout'.subset hno.2).trans (htaken ▸ hout.subset hno.1)

lemma Reaches.close (h : Reaches R leaks disturbs tp (s :: socks) tp₁) :
    Reaches R leaks disturbs tp socks (closeIoaSocket tp₁ s) := by
  intro hfit
  by_cases hfit₁ : tp₁.Fitting
  · obtain ⟨hfit₀, T, hout⟩ := h hfit₁
    exact ⟨hfit₀, T, (Opened.close (fun _ => hout.opened) hfit).2, hout.quiet, hout.drift,
      hout.subset⟩
  · have hopened : tp₁.Fitting → Opened R ∅ [s] tp₁ := fun hf => absurd hf hfit₁
    exact absurd (Opened.close hopened hfit).1 hfit₁

/-- With every socket closed, what is left is the change that outlasts them. -/
lemma Reaches.closeAll (h : Reaches R leaks disturbs tp socks tp₁) :
    Reaches R leaks disturbs tp [] (socks.foldl closeIoaSocket tp₁) := by
  induction socks generalizing tp₁ with
  | nil => exact h
  | cons s socks ih => exact ih h.close

/-- Whether the ports are disturbed can be read off the ports that are taken in the end. -/
lemma Reaches.taken_eq_iff (h : Reaches R leaks disturbs tp [] tp₁) (hfit : tp₁.Fitting) :
    tp₁.taken = tp.taken ↔ ¬ disturbs := by
  obtain ⟨-, T, hout⟩ := h hfit
  have htaken : tp₁.taken = T := by simpa using hout.opened.taken_eq
  rw [htaken]
  exact ⟨fun heq hdisturbs => ne_of_drift (hout.drift hdisturbs) heq, hout.quiet⟩

lemma not_givesBack_of_free (h : pools.Sound R) (hport : R.start ≤ port ∧ port ≤ R.stop)
    (hnot : (.udp, addrSetPort 0 relayAddr, port) ∉ pools.taken) : ¬ pools.GivesBack relayAddr := by
  rintro ⟨t, ht, hback⟩
  obtain ⟨-, hstart, hstop⟩ := h.sound _ _ _ ht
  have hmem : t.InRange port := by
    rw [Turnports.InRange, hstart, hstop]
    exact hport
  exact hnot ⟨t, ht, hmem, hback.full port hmem⟩

/-- Full pools give 65535 back, which was taken like all other ports. -/
lemma drift_of_givesBack (h : pools.Sound R) (hback : pools.GivesBack relayAddr) :
    Drift R pools.taken (pools.taken \ {(.udp, addrSetPort 0 relayAddr, 65535)}) := by
  obtain ⟨t, ht, hback⟩ := hback
  obtain ⟨-, hstart, -⟩ := h.sound _ _ _ ht
  have hmem : ∀ p, R.start ≤ p → p ≤ 65535 →
      (.udp, addrSetPort 0 relayAddr, p) ∈ pools.taken := by
    intro p hle hle'
    have hrange : t.InRange p := ⟨hstart ▸ hle, hle'.trans hback.last.2⟩
    exact ⟨t, ht, hrange, hback.full p hrange⟩
  refine .giveBack _ (hmem _ (hstart ▸ hback.last.1) le_rfl) fun hle => hmem _ hle ?_
  decide

/-- The round is as described, and when it is repeated, the next one disturbs nothing either. -/
def RoundReaches (R : PortRange) (evenPort : Int) (relayAddr : IoaAddr) (out : Attempt)
    (tp : Turnipports) (res : RoundResult) : Prop :=
  Reaches R (Leaks evenPort relayAddr out tp) (Disturbs evenPort relayAddr out tp) tp res.sockets
      res.pools ∧
    ∀ tp' out', res = .retry tp' → tp'.Fitting →
      (Disturbs evenPort relayAddr out' tp' → Disturbs evenPort relayAddr out tp) ∧
        (Leaks evenPort relayAddr out' tp' → Leaks evenPort relayAddr out tp)

lemma singleRound_reaches (hinet : relayAddr.IsInet) (heven : evenPort < 0)
    (h : pools.Fitting → pools.Sound R) : RoundReaches R evenPort relayAddr out pools
      (createRelayRound transport evenPort relayAddr out pools) := by
  have hquiet : ∀ out tp, ¬ Disturbs evenPort relayAddr out tp := by
    rintro out tp (⟨hle, -⟩ | ⟨rfl, -⟩) <;> omega
  refine ⟨.of_quiet (hquiet _ _) ?_,
    fun tp' out' _ _ => ⟨fun hd => (hquiet _ _ hd).elim, fun hl => (hquiet _ _ (Or.inr hl)).elim⟩⟩
  simp only [createRelayRound, if_pos heven]
  obtain ⟨r, hr⟩ : ∃ r, turnipportsAllocate out.poolRnd pools transport relayAddr = r := ⟨_, rfl⟩
  have hpool := turnipportsAllocate_taken h hr
  rw [hr]
  intro hfit
  by_cases hneg : r.1 < 0
  · simp only [createRtpSocket, if_pos hneg] at hfit ⊢
    obtain ⟨hfit, hsound, ⟨-, htaken⟩ | ⟨port, hport, -⟩⟩ := hpool hfit
    · exact ⟨hfit, opened_nil hsound htaken⟩
    · omega
  · obtain ⟨port, hres⟩ := Int.eq_ofNat_of_zero_le (not_lt.mp hneg)
    rw [hres] at hfit ⊢
    have hopen : r.2.Fitting → (0 < port ∧ port ≤ 65535) ∧
        Opened R pools.taken [boundTo transport relayAddr port] r.2 := by
      intro hfit
      obtain ⟨-, hsound, ⟨hneg, -⟩ | ⟨port', hport', hbounds, hnot, htaken⟩⟩ := hpool hfit
      · omega
      · obtain rfl : port = port' := by omega
        have hplace := place_boundTo hinet hbounds.2 transport
        refine ⟨hbounds, hsound, by simp [boundTo], by simp, by simpa [hplace] using hnot, ?_⟩
        rw [htaken]
        ext x
        simp [hplace]
    obtain ⟨hfitr, hopened⟩ := createRtpSocket_opened out hinet (by simp) hopen hfit
    exact ⟨(hpool hfitr).1, hopened⟩

lemma evenRound_reaches (hinet : relayAddr.IsInet) (heven : 0 ≤ evenPort)
    (h : pools.Fitting → pools.Sound R) : RoundReaches R evenPort relayAddr out pools
      (createRelayRound .udp evenPort relayAddr out pools) := by
  obtain ⟨r, hr⟩ : ∃ r, turnipportsAllocateEven out.poolRnd out.tokenRnd pools relayAddr = r :=
    ⟨_, rfl⟩
  have hpool := turnipportsAllocateEven_taken h hr
  simp only [createRelayRound, if_neg (Int.not_lt.mpr heven), hr]
  by_cases hneg : r.1 < 0
  · -- no pair is found
    have hleaks : ¬ Leaks evenPort relayAddr out pools := fun hl => by
      have := hr ▸ hl.2
      omega
    have hdisturbs : Disturbs evenPort relayAddr out pools ↔ pools.GivesBack relayAddr := by
      rw [Disturbs, or_iff_left hleaks, and_iff_right heven]
    have hguard : (decide (r.1 ≥ 0) && decide (evenPort > 0)) = false := by simp [hneg]
    simp only [hguard, Bool.false_eq_true, if_false, createRtpSocket, if_pos hneg]
    refine ⟨fun hfit => ?_, fun tp' out' hretry => by cases hretry⟩
    obtain ⟨hfit, hsound, ⟨-, htaken⟩ | ⟨port, hport, -⟩⟩ := hpool hfit
    swap
    · omega
    refine ⟨hfit, r.2.2.taken, opened_nil hsound rfl, fun hquiet => ?_, fun hdrift => ?_, fun _ => ?_⟩
    · rw [htaken]
      simp [hdisturbs.not.mp hquiet]
    · have hset : r.2.2.taken = pools.taken \ {(.udp, addrSetPort 0 relayAddr, 65535)} := by
        rw [htaken]
        simp [hdisturbs.mp hdrift]
      rw [hset]
      exact .single (drift_of_givesBack (h hfit) (hdisturbs.mp hdrift))
    · rw [htaken]
      exact Set.sdiff_subset
  · obtain ⟨port, hres⟩ := Int.eq_ofNat_of_zero_le (not_lt.mp hneg)
    have hfound : r.2.2.Fitting → pools.Fitting ∧ (port % 2 = 0 ∧ 0 < port ∧ port + 1 ≤ 65535) ∧
        (R.start ≤ port ∧ port ≤ R.stop) ∧ (.udp, addrSetPort 0 relayAddr, port) ∉ pools.taken ∧
        (.udp, addrSetPort 0 relayAddr, port + 1) ∉ pools.taken ∧
        Opened R pools.taken [boundTo .udp relayAddr port, boundTo .udp relayAddr (port + 1)]
          r.2.2 := by
      intro hfit
      obtain ⟨hfit, hsound, ⟨hneg, -⟩ | ⟨port', hport', hpair, hrange, hfirst, hsecond, htaken⟩⟩ :=
        hpool hfit
      · omega
      obtain rfl : port = port' := by omega
      have hstop := R.stop_le
      have hstart := R.start_pos
      have hplace := @place_boundTo relayAddr port hinet (by omega) .udp
      have hplace' := @place_boundTo relayAddr (port + 1) hinet (by omega) .udp
      refine ⟨hfit, ⟨hpair, by omega, by omega⟩, ⟨hrange.1, by omega⟩, hfirst, hsecond, hsound,
        by simp [boundTo], by simp [hplace, hplace'], ?_, ?_⟩
      · simp [hplace, hplace', hfirst, hsecond]
      · rw [htaken]
        ext x
        simp [hplace, hplace', or_assoc]
    rw [hres]
    rcases heven.eq_or_lt with rfl | hpos
    · -- only one of the two ports is used
      have hleaks : Leaks 0 relayAddr out pools := ⟨rfl, by rw [hr, hres]; omega⟩
      have hguard : (decide ((port : Int) ≥ 0) && decide ((0 : Int) > 0)) = false := by simp
      simp only [hguard, Bool.false_eq_true, if_false]
      refine ⟨fun hfit => ?_, fun _ _ _ _ => ⟨fun _ => Or.inr hleaks, fun _ => hleaks⟩⟩
      have hopen : r.2.2.Fitting → (0 < port ∧ port ≤ 65535) ∧
          Opened R (insert (.udp, addrSetPort 0 relayAddr, port + 1) pools.taken)
            [boundTo .udp relayAddr port] r.2.2 := by
        intro hf
        obtain ⟨-, hport, -, -, -, hopened⟩ := hfound hf
        refine ⟨⟨hport.2.1, by omega⟩, ?_⟩
        rw [← place_boundTo hinet hport.2.2 .udp]
        exact (hopened.perm (.swap _ _ _)).forget
      obtain ⟨hfitr, hopened⟩ := createRtpSocket_opened out hinet (by simp) hopen hfit
      obtain ⟨hfit', hport, hrange, hfirst, hsecond, -⟩ := hfound hfitr
      exact ⟨hfit', _, hopened, fun hquiet => (hquiet (Or.inr hleaks)).elim,
        fun _ => .single (.leak _ port hport.1 hrange.1 hfirst hsecond),
        fun hno => (hno hleaks).elim⟩
    · have hleaks : ∀ out tp, ¬ Leaks evenPort relayAddr out tp := fun _ _ hl =>
        absurd hl.1 hpos.ne'
      have hguard : (decide ((port : Int) ≥ 0) && decide (evenPort > 0)) = true := by simp [hpos]
      simp only [hguard, if_true, Int.toNat_natCast]
      have hreleased : ∀ tp, tp = closeIoaSocket (closeIoaSocket r.2.2 (boundTo .udp relayAddr port))
          (boundTo .udp relayAddr (port + 1)) → tp.Fitting →
          r.2.2.Fitting ∧ Opened R pools.taken [] tp := by
        rintro tp rfl hfit
        have hfirst := fun hf => Opened.close (fun hf => (hfound hf).2.2.2.2.2) hf
        obtain ⟨hfit', hclosed⟩ := Opened.close (fun hf => (hfirst hf).2) hfit
        exact ⟨(hfirst hfit').1, hclosed⟩
      suffices hopen : ∀ res : RoundResult,
          (res.pools.Fitting → r.2.2.Fitting ∧ Opened R pools.taken res.sockets res.pools) →
          RoundReaches R evenPort relayAddr out pools res by
        refine hopen _ ?_
        split_ifs
        · exact hreleased _ rfl
        · cases hbind : bindIoaSocket (createUnboundRelayIoaSocket .udp)
            (addrSetPort (UInt16.ofNat (port + 1)) relayAddr) out.rtcpBound with
          | none => exact hreleased _ rfl
          | some rtcp =>
            refine createRtpSocket_opened out hinet ?_ fun hf => ?_
            · rintro s ⟨⟩
              exact bindIoaSocket_bound hbind
            · obtain ⟨-, hport, -, -, -, hopened⟩ := hfound hf
              rw [bindIoaSocket_eq_some hinet ⟨by omega, hport.2.2⟩ hbind]
              exact ⟨⟨hport.2.1, by omega⟩, hopened⟩
      intro res hopen
      have hback : ∀ (tp : Turnipports), r.2.2.Fitting → tp.Sound R → tp.taken = pools.taken →
          ∀ out, ¬ Disturbs evenPort relayAddr out tp := by
        rintro tp hf hsound htaken out (⟨-, hback⟩ | hl)
        · obtain ⟨-, -, hrange, hfirst, -⟩ := hfound hf
          exact not_givesBack_of_free hsound hrange (htaken ▸ hfirst) hback
        · exact hleaks _ _ hl
      refine ⟨fun hfit => ?_, ?_⟩
      · obtain ⟨hfitr, hopened⟩ := hopen hfit
        have hfit' := (hfound hfitr).1
        exact ⟨hfit', pools.taken, hopened, fun _ => rfl,
          fun hd => (hback pools hfitr (h hfit') rfl out hd).elim, fun _ => subset_rfl⟩
      · rintro tp' out' rfl hfit
        obtain ⟨hfitr, hopened⟩ := hopen hfit
        have htaken : tp'.taken = pools.taken := by
          simpa [RoundResult.sockets, RoundResult.pools] using hopened.taken_eq
        exact ⟨fun hd => (hback tp' hfitr hopened.sound htaken out' hd).elim,
          fun hl => (hleaks _ _ hl).elim⟩

lemma createRelayRound_reaches (hinet : relayAddr.IsInet) (hudp : 0 ≤ evenPort → transport = .udp)
    (h : pools.Fitting → pools.Sound R) : RoundReaches R evenPort relayAddr out pools
      (createRelayRound transport evenPort relayAddr out pools) := by
  by_cases heven : evenPort < 0
  · exact singleRound_reaches out hinet heven h
  · obtain rfl := hudp (not_lt.mp heven)
    exact evenRound_reaches out hinet (not_lt.mp heven) h

end Coturn
