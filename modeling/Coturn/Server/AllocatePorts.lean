/-
# The relay ports of an Allocate

`create_relay_connection` gets its sockets from `create_relay_ioa_sockets`, or takes a reserved one
out of the map of reservations, and closes them again when the endpoint fails after that.
-/
import Coturn.RelayCalls
import Coturn.Server.AllocateCases

namespace Coturn

open List

variable {cfg : Config} {env : Env} {attrs : List StunAttr} {c : Ctx} {ss : Session}
  {transport : Transport}

/-! ## The calls of a request -/

/-- The pools of relay ports, and the sockets that are reserved for a token. -/
structure RelayPorts where
  pools : Turnipports
  reserved : ℕ → Option RelayIoaSocket

/-- The same ports are taken, and the same sockets reserved. -/
def RelayPorts.Same (p p' : RelayPorts) : Prop :=
  p'.pools.taken = p.pools.taken ∧ p'.reserved = p.reserved

/-- What the system answers to the calls of `create_relay_ioa_sockets`, by address family. -/
structure SystemAnswers where
  sharedSocket : ℕ → Bool
  choices : ℕ → List RelayChoice
  rtcpMapPut : ℕ → Bool

/-- `even_port`. -/
def evenPortValue : Option Bool → Int
  | none => -1
  | some false => 0
  | some true => 1

/-- The pools that a transport uses. -/
def Transport.relay : Transport → RelayTransport
  | .tcp => .tcp
  | .udp => .udp

/-- The call for the endpoint of a family. -/
def relayCall (cfg : Config) (sys : SystemAnswers) (transport : Transport) (v : AllocateVars)
    (family : ℕ) : CreateCall where
  transport := transport.relay
  evenPort := evenPortValue v.evenPort
  multiplexPeerMode := cfg.multiplexPeerMode
  sharedSocket := sys.sharedSocket family
  choices := sys.choices family
  rtcpMapPut := sys.rtcpMapPut family

/-- The pools after a call whose sockets are closed again. -/
def failedCall (tp : Turnipports) (call : CreateCall) : Turnipports :=
  (createRelayIoaSockets call tp).2.sockets'.foldl closeIoaSocket (createRelayIoaSockets call tp).1

/-- The pools after the endpoint of a family: its sockets are closed again when it fails. -/
def endpointPools (cfg : Config) (env : Env) (ss : Session) (transport : Transport)
    (calls : ℕ → CreateCall) (tp : Turnipports) (family : ℕ) : Turnipports :=
  if relayCreated cfg env ss transport 0 family then (createRelayIoaSockets (calls family) tp).1
  else failedCall tp (calls family)

/-- The ports after the endpoints of some families. With a token the reserved socket is taken out of
the map. -/
def endpointPorts (cfg : Config) (env : Env) (ss : Session) (transport : Transport)
    (calls : ℕ → CreateCall) (inReservationToken : ℕ) (families : List ℕ) (p : RelayPorts) :
    RelayPorts :=
  if inReservationToken = 0 then
    { p with pools := families.foldl (endpointPools cfg env ss transport calls) p.pools }
  else if cfg.multiplexPeerMode = true ∧ transport = .udp then p
  else { p with reserved := Function.update p.reserved inReservationToken none }

/-- The transport of a request that comes to the creation of its endpoints. -/
def reachesEndpoints (cfg : Config) (env : Env) (attrs : List StunAttr) (c : Ctx) :
    Option Transport :=
  (allocateTransport? (readAllocate cfg c.ss attrs)).filter fun _ =>
    (allocateQuota cfg attrs c).1 ∧ (allocateReady cfg env attrs c).reply.errCode = 0

/-- The result that `create_relay_connection` gets from a call. -/
def CreateResult.Reported : CreateResult → RelayResult → Prop
  | .error errCode reason, .failure errCode' reason' => errCode' = errCode ∧ reason' = reason
  | .sockets rtp rtcp token, .ok (some s) rtcp' token' =>
    s.localAddr = rtp.localAddr ∧ (s.type = .tcp ↔ rtp.st = .tcp) ∧ rtcp' = rtcp.isSome ∧
      token' = token
  | .shared, .ok (some s) rtcp token => s.shared = true ∧ rtcp = false ∧ token = 0
  | _, _ => False

/-- The endpoints are created from the results of the calls, one family after the other. -/
def CallsReported (cfg : Config) (env : Env) (ss : Session) (transport : Transport)
    (calls : ℕ → CreateCall) : List ℕ → Turnipports → Prop
  | [], _ => True
  | family :: families, tp =>
    (createRelayIoaSockets (calls family) tp).2.Reported (env.createRelay family) ∧
      CallsReported cfg env ss transport calls families
        (endpointPools cfg env ss transport calls tp family)

/-- The pools from which the relay sockets of a request come. -/
structure RelayEngine (cfg : Config) (env : Env) (attrs : List StunAttr) (c : Ctx) where
  range : PortRange
  pools : Turnipports
  sound : pools.Fitting → pools.Sound range
  system : SystemAnswers
  reported : ∀ transport ∈ reachesEndpoints cfg env attrs c,
    (readAllocate cfg c.ss attrs).val.inReservationToken = 0 →
      CallsReported cfg env c.ss transport
        (relayCall cfg system transport (readAllocate cfg c.ss attrs).val)
        (allocateFamilyList cfg c.ss (readAllocate cfg c.ss attrs).val) pools

/-- The ports before the request. -/
def RelayEngine.before (engine : RelayEngine cfg env attrs c) : RelayPorts :=
  ⟨engine.pools, env.reservedSocket⟩

/-- The ports after the request. -/
def RelayEngine.after (engine : RelayEngine cfg env attrs c) : RelayPorts :=
  let v := (readAllocate cfg c.ss attrs).val
  match reachesEndpoints cfg env attrs c with
  | none => engine.before
  | some transport =>
    endpointPorts cfg env c.ss transport (relayCall cfg engine.system transport v)
      v.inReservationToken (allocateFamilyList cfg c.ss v) engine.before

/-! ## Endpoints that fail -/

/-- The reserved socket of the request stays where it is. -/
def keepsReserved (cfg : Config) (env : Env) (transport : Transport) (inReservationToken : ℕ) :
    Prop :=
  inReservationToken ≠ 0 → cfg.multiplexPeerMode = true ∧ transport = .udp ∨
    env.reservedSocket inReservationToken = none

/-- The relay addresses that the calls for some families try, when all of them fail. -/
def failedVisits (calls : ℕ → CreateCall) : List ℕ → Turnipports → List Visit
  | [], _ => []
  | family :: families, tp =>
    (calls family).visits tp ++ failedVisits calls families (failedCall tp (calls family))

lemma failedCalls_reach {R : PortRange} {calls : ℕ → CreateCall} {evenPort : Int}
    (heven : ∀ family, (calls family).evenPort = evenPort)
    (hudp : ∀ family, 0 ≤ (calls family).evenPort → (calls family).transport = .udp)
    (families : List ℕ) {tp : Turnipports} (h : tp.Fitting → tp.Sound R) :
    Reaches R (LeaksAlong evenPort (failedVisits calls families tp))
      (DisturbsAlong evenPort (failedVisits calls families tp)) tp []
      (families.foldl (fun tp family => failedCall tp (calls family)) tp) := by
  induction families generalizing tp with
  | nil => exact .refl h (by simp [DisturbsAlong, failedVisits])
  | cons family families ih =>
    have hcall := (createRelayIoaSockets_reaches (hudp family) h).closeAll
    rw [heven family] at hcall
    simpa [LeaksAlong, DisturbsAlong, failedVisits, or_and_right, exists_or] using
      Reaches.trans hcall (@ih (failedCall tp (calls family)))

/-- Requests for an even port are for UDP, or they are refused. -/
lemma relayCall_udp {sys : SystemAnswers} {p : Parsed AllocateVars}
    (h : allocateTransport? p = some transport) (family : ℕ)
    (heven : 0 ≤ (relayCall cfg sys transport p.val family).evenPort) :
    (relayCall cfg sys transport p.val family).transport = .udp := by
  rw [allocateTransport?, Option.filter_eq_some_iff] at h
  cases transport with
  | udp => rfl
  | tcp =>
    have hnone : p.val.evenPort = none := by
      by_contra hsome
      simp [Option.isSome_iff_ne_none, hsome] at h
    have hneg : (0 : Int) ≤ evenPortValue none := hnone ▸ heven
    exact absurd hneg (by decide)

/-- What failed endpoints leave of the ports. -/
lemma RelayEngine.same_iff (engine : RelayEngine cfg env attrs c) {v : AllocateVars}
    (hv : (readAllocate cfg c.ss attrs).val = v)
    (htransport : reachesEndpoints cfg env attrs c = some transport)
    (hfailed : v.inReservationToken = 0 → ∀ family ∈ allocateFamilyList cfg c.ss v,
      relayCreated cfg env c.ss transport 0 family = false)
    (hfit : engine.after.pools.Fitting) :
    engine.before.Same engine.after ↔
      keepsReserved cfg env transport v.inReservationToken ∧
        (v.inReservationToken = 0 → ¬ DisturbsAlong (evenPortValue v.evenPort)
          (failedVisits (relayCall cfg engine.system transport v)
            (allocateFamilyList cfg c.ss v) engine.pools)) := by
  have htransport' := (Option.filter_eq_some_iff.mp htransport).1
  have hudp := @relayCall_udp cfg transport engine.system _ htransport'
  rw [RelayEngine.after, htransport] at hfit ⊢
  simp only [endpointPorts, hv] at hfit hudp ⊢
  by_cases htoken : v.inReservationToken = 0
  · rw [if_pos htoken] at hfit ⊢
    have hpools : (allocateFamilyList cfg c.ss v).foldl (endpointPools cfg env c.ss transport
        (relayCall cfg engine.system transport v)) engine.pools =
          (allocateFamilyList cfg c.ss v).foldl (fun tp family => failedCall tp
            (relayCall cfg engine.system transport v family)) engine.pools :=
      List.foldl_ext _ _ _ fun tp family hfamily => if_neg (by simp [hfailed htoken family hfamily])
    have hreach := @failedCalls_reach engine.range (relayCall cfg engine.system transport v)
      (evenPortValue v.evenPort) (fun _ => rfl) hudp (allocateFamilyList cfg c.ss v) engine.pools
      engine.sound
    simp only [RelayPorts.Same, RelayEngine.before] at hfit ⊢
    rw [hpools] at hfit ⊢
    rw [hreach.taken_eq_iff hfit]
    simp [htoken, keepsReserved]
  · rw [if_neg htoken, keepsReserved]
    simp only [htoken, not_false_eq_true, ne_eq, forall_const, false_imp_iff, and_true]
    by_cases hmultiplex : cfg.multiplexPeerMode = true ∧ transport = .udp
    · simp [hmultiplex, RelayPorts.Same]
    · rw [if_neg hmultiplex, or_iff_right hmultiplex]
      simp [RelayPorts.Same, RelayEngine.before, eq_comm]

end Coturn
