/-
# The flags that an Allocate sets

The attribute loop of `handle_turn_allocate` writes `is_mobile` and `is_tcp_relay` straight into the
session. What it leaves there is said by the attributes that the loop comes to: a MOBILITY-TICKET
sets the one flag, and the first REQUESTED-TRANSPORT decides about the other.
-/
import Coturn.Server.Requests

namespace Coturn

open List

/-- The attributes that a loop comes to before it ends. -/
def attrsRead {α : Type} (body : Parsed α → StunAttr → Parsed α) :
    Parsed α → List StunAttr → List StunAttr
  | _, [] => []
  | p, sar :: attrs => if p.live then sar :: attrsRead body (body p sar) attrs else []

/-- The attributes that the loop of an Allocate comes to. -/
def allocateReads (cfg : Config) (ss : Session) (attrs : List StunAttr) : List StunAttr :=
  attrsRead (allocateAttr cfg ss.clientSocket) (.start (.init ss)) attrs

/-- A MOBILITY-TICKET that makes the session mobile. -/
def asksMobile (cfg : Config) (sar : StunAttr) : Prop :=
  sar.type = attrMobilityTicket ∧ cfg.mobility = true ∧ sar.value = []

/-- What a REQUESTED-TRANSPORT stores in `is_tcp_relay`, unless it is refused before that. -/
def requestedTcpRelay (cfg : Config) (clientSocket : Option IoaSocket) (sar : StunAttr) :
    Option Bool :=
  let transport := getTransportValue sar.value
  if sar.value.length ≠ 4 ∨ transport = some .tcp ∧ cfg.noTcpRelay = true ∨
      transport = some .udp ∧ cfg.noUdpRelay = true then none
  else
    clientSocket.bind fun s =>
      if transport = some .tcp ∧ isStreamSocket s.type = false then none
      else some (transport = some .tcp)

variable {cfg : Config} {clientSocket : Option IoaSocket} {p : Parsed AllocateVars}
  {sar : StunAttr}

/-! ## One attribute -/

/-- An attribute leaves the transport and both flags as they are. -/
def KeepsFlags (p p' : Parsed AllocateVars) : Prop :=
  p'.val.isMobile = p.val.isMobile ∧ p'.val.isTcpRelay = p.val.isTcpRelay ∧
    p'.val.transport = p.val.transport

lemma allocateUsername_flags : KeepsFlags p (allocateUsername p sar) := by
  unfold allocateUsername
  simp only
  split_ifs <;> exact ⟨rfl, rfl, rfl⟩

lemma allocateReservationToken_flags : KeepsFlags p (allocateReservationToken p sar) := by
  unfold allocateReservationToken
  split_ifs <;> exact ⟨rfl, rfl, rfl⟩

lemma allocateAddressFamily_flags (additional : Bool) :
    KeepsFlags p (allocateAddressFamily additional p sar) := by
  unfold allocateAddressFamily
  split_ifs
  · exact ⟨rfl, rfl, rfl⟩
  · exact ⟨rfl, rfl, rfl⟩
  · split <;> exact ⟨rfl, rfl, rfl⟩
  · split <;> exact ⟨rfl, rfl, rfl⟩

lemma allocateAttr_mobilityTicket (h : sar.type = attrMobilityTicket) :
    allocateAttr cfg clientSocket p sar =
      if !cfg.mobility then p.fail 405 "Mobility Forbidden"
      else if sar.value ≠ [] then p.fail 400 "Wrong Mobility Field"
      else p.set { p.val with isMobile := true } := by
  simp only [allocateAttr, h]
  rfl

lemma allocateAttr_requestedTransport (h : sar.type = attrRequestedTransport) :
    allocateAttr cfg clientSocket p sar = allocateTransport cfg clientSocket p sar := by
  simp only [allocateAttr, h]
  rfl

lemma allocateAttr_flags (hmobile : sar.type ≠ attrMobilityTicket)
    (htransport : sar.type ≠ attrRequestedTransport) :
    KeepsFlags p (allocateAttr cfg clientSocket p sar) := by
  unfold allocateAttr
  by_cases hname : sar.type = attrUsername
  · rw [if_pos hname]
    exact allocateUsername_flags
  rw [if_neg hname]
  by_cases hskip : skipAttribute sar.type = true
  · rw [if_pos hskip]
    exact ⟨rfl, rfl, rfl⟩
  rw [if_neg hskip]
  split
  · exact ⟨rfl, rfl, rfl⟩
  · next h => exact absurd h hmobile
  · next h => exact absurd h htransport
  · dsimp only
    split_ifs <;> exact ⟨rfl, rfl, rfl⟩
  · split_ifs <;> exact ⟨rfl, rfl, rfl⟩
  · dsimp only
    split_ifs <;> exact ⟨rfl, rfl, rfl⟩
  · exact allocateReservationToken_flags
  · split_ifs
    · exact ⟨rfl, rfl, rfl⟩
    · exact allocateAddressFamily_flags true
  · exact allocateAddressFamily_flags false
  · unfold Parsed.other
    split_ifs <;> exact ⟨rfl, rfl, rfl⟩

lemma allocateTransport_isMobile :
    (allocateTransport cfg clientSocket p sar).val.isMobile = p.val.isMobile := by
  unfold allocateTransport
  cases clientSocket <;> simp only <;> split_ifs <;> rfl

/-- A second transport is refused. -/
lemma allocateTransport_again (h : p.val.transport.isSome = true) :
    (allocateTransport cfg clientSocket p sar).val = p.val := by
  unfold allocateTransport
  split_ifs <;> rfl

/-- The first transport stores its flag, and after it the loop has a transport or an error. -/
lemma allocateTransport_first (h : p.val.transport = none) :
    (allocateTransport cfg clientSocket p sar).val.isTcpRelay =
        (requestedTcpRelay cfg clientSocket sar).getD p.val.isTcpRelay ∧
      ((allocateTransport cfg clientSocket p sar).val.transport.isSome = true ∨
        (allocateTransport cfg clientSocket p sar).live = false) := by
  unfold allocateTransport requestedTcpRelay
  by_cases hlength : sar.value.length ≠ 4
  · rw [if_pos hlength, if_pos (Or.inl hlength)]
    exact ⟨rfl, Or.inr rfl⟩
  rw [if_neg hlength, if_neg (by simp [h])]
  simp only [hlength, false_or]
  cases getTransportValue sar.value with
  | none =>
    cases clientSocket with
    | none => exact ⟨rfl, Or.inr rfl⟩
    | some s => exact ⟨rfl, Or.inr rfl⟩
  | some transport =>
    refine ⟨?_, Or.inl ?_⟩
    · by_cases htcp : some transport = some .tcp ∧ cfg.noTcpRelay = true
      · rw [if_pos htcp, if_pos (Or.inl htcp)]
        rfl
      by_cases hudp : some transport = some .udp ∧ cfg.noUdpRelay = true
      · rw [if_neg htcp, if_pos hudp, if_pos (Or.inr hudp)]
        rfl
      rw [if_neg htcp, if_neg hudp, if_neg (not_or.mpr ⟨htcp, hudp⟩)]
      cases clientSocket with
      | none => rfl
      | some s =>
        simp only [Option.bind_some]
        split_ifs <;> rfl
    · cases clientSocket <;> simp only <;> split_ifs <;> rfl

/-! ## The loop -/

lemma allocateAttr_isMobile :
    (allocateAttr cfg clientSocket p sar).val.isMobile = true ↔
      p.val.isMobile = true ∨ asksMobile cfg sar := by
  unfold asksMobile
  by_cases hmobile : sar.type = attrMobilityTicket
  · rw [allocateAttr_mobilityTicket hmobile]
    split_ifs <;> simp_all [Parsed.fail, Parsed.set]
  · by_cases htransport : sar.type = attrRequestedTransport
    · rw [allocateAttr_requestedTransport htransport, allocateTransport_isMobile]
      simp [hmobile]
    · rw [(allocateAttr_flags hmobile htransport).1]
      simp [hmobile]

lemma readAllocate_isMobile (cfg : Config) (ss : Session) (attrs : List StunAttr) :
    (readAllocate cfg ss attrs).val.isMobile = true ↔
      ss.isMobile = true ∨ ∃ sar ∈ allocateReads cfg ss attrs, asksMobile cfg sar := by
  have hloop : ∀ p : Parsed AllocateVars,
      (readAttrs (allocateAttr cfg ss.clientSocket) p attrs).val.isMobile = true ↔
        p.val.isMobile = true ∨
          ∃ sar ∈ attrsRead (allocateAttr cfg ss.clientSocket) p attrs, asksMobile cfg sar := by
    induction attrs with
    | nil => simp [readAttrs, attrsRead]
    | cons sar attrs ih =>
      intro p
      rw [readAttrs, attrsRead]
      split_ifs
      · rw [ih, allocateAttr_isMobile, or_assoc]
        simp
      · simp
  exact hloop _

/-- Only a REQUESTED-TRANSPORT changes the transport and the flag that goes with it. -/
lemma allocateAttr_isTcpRelay (h : sar.type ≠ attrRequestedTransport) :
    (allocateAttr cfg clientSocket p sar).val.isTcpRelay = p.val.isTcpRelay ∧
      (allocateAttr cfg clientSocket p sar).val.transport = p.val.transport := by
  by_cases hmobile : sar.type = attrMobilityTicket
  · rw [allocateAttr_mobilityTicket hmobile]
    split_ifs <;> exact ⟨rfl, rfl⟩
  · exact (allocateAttr_flags hmobile h).2

/-- Once there is a transport, or an error, the flag stays. -/
lemma readAttrs_isTcpRelay (attrs : List StunAttr)
    (h : p.val.transport.isSome = true ∨ p.live = false) :
    (readAttrs (allocateAttr cfg clientSocket) p attrs).val.isTcpRelay = p.val.isTcpRelay := by
  induction attrs generalizing p with
  | nil => rfl
  | cons sar attrs ih =>
    rw [readAttrs]
    split_ifs with hlive
    swap
    · rfl
    have hsome : p.val.transport.isSome = true := h.resolve_right (by simp [hlive])
    have hval : (allocateAttr cfg clientSocket p sar).val.isTcpRelay = p.val.isTcpRelay ∧
        (allocateAttr cfg clientSocket p sar).val.transport = p.val.transport := by
      by_cases htransport : sar.type = attrRequestedTransport
      · rw [allocateAttr_requestedTransport htransport, allocateTransport_again hsome]
        exact ⟨rfl, rfl⟩
      · exact allocateAttr_isTcpRelay htransport
    rw [ih (Or.inl (by rw [hval.2, hsome])), hval.1]

/-- The first REQUESTED-TRANSPORT that the loop comes to. -/
def transportRead (cfg : Config) (ss : Session) (attrs : List StunAttr) : Option StunAttr :=
  (allocateReads cfg ss attrs).find? fun sar => sar.type = attrRequestedTransport

lemma readAllocate_isTcpRelay (cfg : Config) (ss : Session) (attrs : List StunAttr) :
    (readAllocate cfg ss attrs).val.isTcpRelay =
      ((transportRead cfg ss attrs).bind (requestedTcpRelay cfg ss.clientSocket)).getD
        ss.isTcpRelay := by
  have hloop : ∀ p : Parsed AllocateVars, p.val.transport = none →
      (readAttrs (allocateAttr cfg ss.clientSocket) p attrs).val.isTcpRelay =
        (((attrsRead (allocateAttr cfg ss.clientSocket) p attrs).find? fun sar =>
          sar.type = attrRequestedTransport).bind
            (requestedTcpRelay cfg ss.clientSocket)).getD p.val.isTcpRelay := by
    induction attrs with
    | nil => intro p _; rfl
    | cons sar attrs ih =>
      intro p hnone
      rw [readAttrs, attrsRead]
      split_ifs
      swap
      · rfl
      by_cases htransport : sar.type = attrRequestedTransport
      · obtain ⟨hflag, hend⟩ := @allocateTransport_first cfg ss.clientSocket p sar hnone
        rw [← allocateAttr_requestedTransport htransport] at hflag hend
        rw [readAttrs_isTcpRelay attrs hend, hflag]
        simp [htransport]
      · obtain ⟨hflag, hsame⟩ := @allocateAttr_isTcpRelay cfg ss.clientSocket p sar htransport
        rw [ih _ (hsame.trans hnone), hflag]
        simp [htransport]
  exact hloop _ rfl

/-- The session is mobile already or nothing asks for it, and the transport stores what is there. -/
structure FlagsStay (cfg : Config) (ss : Session) (attrs : List StunAttr) : Prop where
  isMobile : ss.isMobile = true ∨ ∀ sar ∈ allocateReads cfg ss attrs, ¬ asksMobile cfg sar
  isTcpRelay : ∀ sar ∈ transportRead cfg ss attrs,
    ∀ tcp ∈ requestedTcpRelay cfg ss.clientSocket sar, tcp = ss.isTcpRelay

lemma flagsStay_iff {ss : Session} {attrs : List StunAttr} :
    ((readAllocate cfg ss attrs).val.isMobile = ss.isMobile ∧
      (readAllocate cfg ss attrs).val.isTcpRelay = ss.isTcpRelay) ↔ FlagsStay cfg ss attrs := by
  have hmobile : (readAllocate cfg ss attrs).val.isMobile = ss.isMobile ↔
      ss.isMobile = true ∨ ∀ sar ∈ allocateReads cfg ss attrs, ¬ asksMobile cfg sar := by
    rw [Bool.eq_iff_iff, readAllocate_isMobile]
    by_cases hmobile : ss.isMobile = true
    · simp [hmobile]
    · simp [hmobile]
  have htcp : (readAllocate cfg ss attrs).val.isTcpRelay = ss.isTcpRelay ↔
      ∀ sar ∈ transportRead cfg ss attrs,
        ∀ tcp ∈ requestedTcpRelay cfg ss.clientSocket sar, tcp = ss.isTcpRelay := by
    rw [readAllocate_isTcpRelay]
    cases transportRead cfg ss attrs with
    | none => simp
    | some sar =>
      simp only [Option.bind_some, Option.mem_some_iff, forall_eq']
      cases requestedTcpRelay cfg ss.clientSocket sar with
      | none => simp
      | some tcp => simp only [Option.getD_some, Option.mem_some_iff, forall_eq']
  rw [hmobile, htcp]
  exact ⟨fun h => ⟨h.1, h.2⟩, fun h => ⟨h.1, h.2⟩⟩

end Coturn
