/-
# The error codes of Allocate responses

The loop of `handle_turn_allocate` stops at the first attribute that it cannot accept, with an error
code. The conditions behind it answer 400 if the transport has not been read. So the code is lost
where the loop stops before REQUESTED-TRANSPORT, and where it stops because of it.
-/
import Coturn.Server.Permissions
import Coturn.Server.RelayedAddresses

namespace Coturn

open Ctx

variable {cfg : Config} {env : Env} {tid : List UInt8} {attrs : List StunAttr} {c : Ctx}

/-! ## The codes of the loop -/

/-- The error codes of the loop, and no error. -/
def allocateLoopCodes : List ℕ := [0, 400, 405, 440, 442]

lemma bad_request_mem : 400 ∈ allocateLoopCodes := by decide

lemma bad_transport_mem : 442 ∈ allocateLoopCodes := by decide

lemma bad_family_mem : 440 ∈ allocateLoopCodes := by decide

lemma no_mobility_mem : 405 ∈ allocateLoopCodes := by decide

variable {p : Parsed AllocateVars}

variable (clientSocket : Option IoaSocket) (sar : StunAttr)

lemma allocateUsername_code (hp : p.errCode ∈ allocateLoopCodes) :
    (allocateUsername p sar).errCode ∈ allocateLoopCodes := by
  unfold allocateUsername
  dsimp only
  split_ifs
  · exact hp
  · exact bad_request_mem
  · exact bad_request_mem
  · exact hp

lemma allocateTransport_code (hp : p.errCode ∈ allocateLoopCodes) :
    (allocateTransport cfg clientSocket p sar).errCode ∈ allocateLoopCodes := by
  unfold allocateTransport
  by_cases hlen : sar.value.length ≠ 4
  · rw [if_pos hlen]
    exact bad_request_mem
  rw [if_neg hlen]
  by_cases hdouble : p.val.transport.isSome = true
  · rw [if_pos hdouble]
    exact bad_request_mem
  rw [if_neg hdouble]
  dsimp only
  generalize getTransportValue sar.value = transport
  have hset : (if transport = none then (p.set { p.val with transport := transport }).failCode 442
      else p.set { p.val with transport := transport }).errCode ∈ allocateLoopCodes := by
    split_ifs
    · exact bad_transport_mem
    · exact hp
  generalize (if transport = none then (p.set { p.val with transport := transport }).failCode 442
      else p.set { p.val with transport := transport }) = q at hset ⊢
  split_ifs
  · exact bad_transport_mem
  · exact bad_transport_mem
  · cases clientSocket with
    | none => exact hset
    | some s =>
      dsimp only
      split_ifs
      · exact bad_request_mem
      · exact hset

lemma allocateReservationToken_code (hp : p.errCode ∈ allocateLoopCodes) :
    (allocateReservationToken p sar).errCode ∈ allocateLoopCodes := by
  unfold allocateReservationToken
  split_ifs
  · exact bad_request_mem
  · exact bad_request_mem
  · exact bad_request_mem
  · exact bad_request_mem
  · exact hp

lemma allocateAddressFamily_code (additional : Bool) (sar : StunAttr)
    (hp : p.errCode ∈ allocateLoopCodes) :
    (allocateAddressFamily additional p sar).errCode ∈ allocateLoopCodes := by
  unfold allocateAddressFamily
  by_cases htoken : p.val.inReservationToken ≠ 0
  · rw [if_pos htoken]
    exact bad_request_mem
  rw [if_neg htoken]
  by_cases hextra : (p.val.af4 || p.val.af6) = true
  · rw [if_pos hextra]
    exact bad_request_mem
  rw [if_neg hextra]
  split
  · split_ifs
    · exact bad_request_mem
    · exact hp
  · exact hp
  · exact bad_family_mem
  · exact bad_family_mem

lemma allocateAttr_code (hp : p.errCode ∈ allocateLoopCodes) :
    (allocateAttr cfg clientSocket p sar).errCode ∈ allocateLoopCodes := by
  unfold allocateAttr
  by_cases hname : sar.type = attrUsername
  · rw [if_pos hname]
    exact allocateUsername_code sar hp
  rw [if_neg hname]
  by_cases hskip : skipAttribute sar.type = true
  · rw [if_pos hskip]
    exact hp
  rw [if_neg hskip]
  split
  · exact hp
  · split_ifs
    · exact no_mobility_mem
    · exact bad_request_mem
    · exact hp
  · exact allocateTransport_code clientSocket sar hp
  · dsimp only
    split_ifs
    · exact hp
    · exact hp
  · split_ifs
    · exact bad_request_mem
    · exact hp
  · dsimp only
    split_ifs
    · exact bad_request_mem
    · exact bad_request_mem
    · exact hp
  · exact allocateReservationToken_code sar hp
  · split_ifs
    · exact bad_request_mem
    · exact allocateAddressFamily_code true sar hp
  · exact allocateAddressFamily_code false sar hp
  · unfold Parsed.other
    split_ifs
    · exact hp
    · exact hp

lemma readAllocate_code (cfg : Config) (ss : Session) (attrs : List StunAttr) :
    (readAllocate cfg ss attrs).errCode ∈ allocateLoopCodes :=
  readAttrs_invariant (I := fun p : Parsed AllocateVars => p.errCode ∈ allocateLoopCodes)
    (fun _ sar _ _ hp => allocateAttr_code ss.clientSocket sar hp)
    (show 0 ∈ allocateLoopCodes by decide)

/-! ## The response -/

/-- The response to an Allocate that has passed the check, as `handle_turn_command` leaves it. -/
def allocateAnswer (cfg : Config) (env : Env) (tid : List UInt8) (attrs : List StunAttr) (c : Ctx) :
    Option (List UInt8) :=
  (finishCommand cfg stunMethodAllocate tid false
    (handleTurnAllocate cfg env tid attrs c)).reply.resp

def Session.answerable (ss : Session) : Bool :=
  !(ss.toBeClosed || ss.clientSocket.isNone || ioaSocketTobeclosed ss.clientSocket)

lemma finishCommand_extends (hhmac : ∀ key covered, (cfg.hmac key covered).length = sha1SizeBytes)
    (method : ℕ) (tid : List UInt8) {buf buf₁ : List UInt8} (hlive : c.ss.answerable = true)
    (hsilent : c.reply.noResponse = false) (hbuf : c.reply.resp = some buf)
    (hbuf₁ : buf₁ = if c.reply.unknownAttrs ≠ [] then
      unknownAttrsResponse cfg method tid c.reply.unknownAttrs else buf) :
    ∃ buf', (finishCommand cfg method tid false c).reply.resp = some buf' ∧
      Extends {attrErrorCode}ᶜ buf₁ buf' := by
  have hopen : ¬ (c.ss.toBeClosed || c.ss.clientSocket.isNone ||
      ioaSocketTobeclosed c.ss.clientSocket) = true := by
    rw [Session.answerable, Bool.not_eq_true'] at hlive
    rw [hlive]
    decide
  have hsoftware : ∀ b, Extends {attrErrorCode}ᶜ b (maybeAddSoftwareAttribute cfg b) := by
    intro b
    unfold maybeAddSoftwareAttribute
    split_ifs
    · exact extends_addIgnore (by decide) (by decide) _ _
    · exact .refl b
  have hsigned : ∀ b : List UInt8, Extends {attrErrorCode}ᶜ b
      (if c.reply.messageIntegrity = true then stunAttrAddIntegrity cfg.hmac b c.ss.hmackey
        else b) := by
    intro b
    split_ifs
    · exact extends_addIntegrity hhmac (by decide) b _
    · exact .refl b
  rw [finishCommand, if_neg hopen]
  have hchosen : ∃ c₁ : Ctx, (if c.reply.unknownAttrs ≠ [] ∧ false = false then
        (c.failCode 420).respond (unknownAttrsResponse cfg method tid c.reply.unknownAttrs)
      else c) = c₁ ∧ c₁.ss = c.ss ∧ c₁.reply.noResponse = false ∧
      c₁.reply.messageIntegrity = c.reply.messageIntegrity ∧ c₁.reply.resp = some buf₁ := by
    by_cases hunknown : c.reply.unknownAttrs = []
    · refine ⟨c, if_neg fun h => h.1 hunknown, rfl, hsilent, rfl, ?_⟩
      rw [hbuf₁, if_neg (not_not_intro hunknown)]
      exact hbuf
    · refine ⟨_, if_pos ⟨hunknown, rfl⟩, rfl, hsilent, rfl, ?_⟩
      rw [hbuf₁, if_pos hunknown]
      rfl
  obtain ⟨c₁, heq, hss, hsilent₁, hsigned₁, hresp⟩ := hchosen
  rw [heq]
  have hready : ¬ (c₁.reply.resp.isNone = true ∧ c₁.reply.errCode = 0) := by
    rw [hresp]
    exact fun h => Bool.false_ne_true h.1
  refine ⟨_, ?_, (hsoftware buf₁).trans (hsigned _)⟩
  dsimp only
  rw [hsilent₁, if_neg (by decide), if_neg hready, hresp, hss, hsigned₁]
  rfl

/-- The error code that the chain behind the loop leaves. -/
def Parsed.stoppedCode (p : Parsed AllocateVars) : ℕ :=
  if p.val.transport = none then 400 else if p.unknown ≠ [] then 420 else p.errCode

/-- What the handler leaves when its loop has stopped. -/
structure StoppedAt (p : Parsed AllocateVars) (c c' : Ctx) : Prop where
  answerable : c'.ss.answerable = c.ss.answerable
  errCode : c'.reply.errCode = p.stoppedCode
  resp : c'.reply.resp = c.reply.resp
  unknownAttrs : c'.reply.unknownAttrs = p.unknown
  noResponse : c'.reply.noResponse = c.reply.noResponse

lemma allocateFinish_of_error (herr : c.reply.errCode ≠ 0) (hresp : c.reply.resp = none) :
    allocateFinish cfg tid 0 0 c = c.respond (stunInitErrorResponse stunMethodAllocate
      c.reply.errCode c.reply.reason tid cfg.includeReasonString) := by
  unfold allocateFinish
  rw [hresp]
  dsimp only
  rw [if_neg herr]

section Stopped

variable (hp : readAllocate cfg c.ss attrs = p) (hstop : p.errCode ≠ 0 ∨ p.unknown ≠ [])

include hp hstop

lemma allocateFresh_stopped :
    ∃ c', allocateFresh cfg env tid attrs c = ((0, 0), c') ∧ StoppedAt p c c' := by
  rw [allocateFresh, hp]
  dsimp only
  cases htransport : p.val.transport with
  | none =>
    have hcode : p.stoppedCode = 400 := if_pos htransport
    exact ⟨_, rfl, rfl, hcode.symm, rfl, rfl, rfl⟩
  | some transport =>
    have hsome : p.val.transport ≠ none := by
      rw [htransport]
      simp
    have hcode : p.stoppedCode = if p.unknown ≠ [] then 420 else p.errCode := if_neg hsome
    dsimp only
    by_cases hunknown : p.unknown = []
    · rw [if_neg (not_not_intro hunknown)] at hcode ⊢
      rw [if_pos (hstop.resolve_right (not_not_intro hunknown))]
      exact ⟨_, rfl, rfl, hcode.symm, rfl, rfl, rfl⟩
    · rw [if_pos hunknown] at hcode ⊢
      exact ⟨_, rfl, rfl, hcode.symm, rfl, rfl, rfl⟩

lemma stoppedCode_mem : p.stoppedCode ∈ [400, 405, 420, 440, 442] := by
  rw [Parsed.stoppedCode]
  split_ifs with htransport hunknown
  · decide
  · decide
  · have hcode : p.errCode ≠ 0 := hstop.resolve_right hunknown
    have hmem := readAllocate_code cfg c.ss attrs
    rw [hp] at hmem
    simp only [allocateLoopCodes, List.mem_cons, List.not_mem_nil, or_false] at hmem ⊢
    omega

/-- The code is 420 with unknown attributes, else what the chain has left. -/
lemma allocateAnswer_code
    (hhmac : ∀ key covered, (cfg.hmac key covered).length = sha1SizeBytes)
    (htid : tid.length = 12) (hopen : c.open = true) (hlive : c.ss.answerable = true)
    (hfree : c.ss.alloc.isValid = false) :
    ∃ buf, allocateAnswer cfg env tid attrs c = some buf ∧
      errorCodeOf buf = some (if p.unknown ≠ [] then 420 else p.stoppedCode) := by
  simp only [Ctx.open, Bool.and_eq_true, Option.isNone_iff_eq_none, Bool.not_eq_true'] at hopen
  obtain ⟨⟨-, hresp⟩, hsilent⟩ := hopen
  have hcode := stoppedCode_mem hp hstop
  have hne : p.stoppedCode ≠ 0 := fun h => by
    rw [h] at hcode
    exact absurd hcode (by decide)
  have hsmall : ∀ code ∈ [400, 405, 420, 440, 442], code < 25600 := by decide
  obtain ⟨c', hfresh, hstopped⟩ := @allocateFresh_stopped cfg env tid attrs c p hp hstop
  have hhandler : handleTurnAllocate cfg env tid attrs c =
      c'.respond (stunInitErrorResponse stunMethodAllocate c'.reply.errCode c'.reply.reason tid
        cfg.includeReasonString) := by
    rw [handleTurnAllocate_of_invalid hfree, hfresh]
    refine allocateFinish_of_error ?_ (hstopped.resp.trans hresp)
    rw [hstopped.errCode]
    exact hne
  obtain ⟨buf, hbuf, hextends⟩ := finishCommand_extends hhmac stunMethodAllocate tid
    (c := handleTurnAllocate cfg env tid attrs c) (by
      rw [hhandler]
      exact hstopped.answerable.trans hlive) (by
      rw [hhandler]
      exact hstopped.noResponse.trans hsilent) (by
      rw [hhandler]
      rfl) rfl
  have hunknowns : (handleTurnAllocate cfg env tid attrs c).reply.unknownAttrs = p.unknown := by
    rw [hhandler]
    exact hstopped.unknownAttrs
  refine ⟨buf, hbuf, ?_⟩
  rw [hunknowns] at hextends
  by_cases hunknown : p.unknown = []
  · rw [if_neg (not_not_intro hunknown), hstopped.errCode] at hextends
    rw [if_neg (not_not_intro hunknown)]
    exact errorCodeOf_errorResponse htid (hsmall _ hcode) hextends
  · rw [if_pos hunknown] at hextends ⊢
    exact errorCodeOf_errorResponse htid (by decide)
      ((extends_addIgnore (by decide) (by decide) _ _).trans hextends)

end Stopped

/-- The response to an Allocate whose loop has stopped has the code of the loop, or 420, exactly
when the loop has read a transport, or has found 400 or an unknown attribute. -/
theorem allocate_reports_iff (cfg : Config) (env : Env) (tid : List.Vector UInt8 12)
    (attrs : List StunAttr) (c : Ctx)
    (hhmac : ∀ key covered, (cfg.hmac key covered).length = sha1SizeBytes)
    (hopen : c.open = true) (hlive : c.ss.answerable = true) (hfree : c.ss.alloc.isValid = false)
    (hstop : (readAllocate cfg c.ss attrs).errCode ≠ 0 ∨
      (readAllocate cfg c.ss attrs).unknown ≠ []) :
    (∃ buf, allocateAnswer cfg env tid.toList attrs c = some buf ∧
      errorCodeOf buf = some (if (readAllocate cfg c.ss attrs).unknown = [] then
        (readAllocate cfg c.ss attrs).errCode else 420)) ↔
    (readAllocate cfg c.ss attrs).val.transport.isSome = true ∨
      (readAllocate cfg c.ss attrs).errCode = 400 ∨ (readAllocate cfg c.ss attrs).unknown ≠ [] := by
  obtain ⟨buf, hbuf, hcode⟩ := @allocateAnswer_code cfg env tid.toList attrs c _ rfl hstop
    hhmac tid.toList_length hopen hlive hfree
  rw [hbuf]
  simp only [Option.some_inj, exists_eq_left', hcode]
  generalize readAllocate cfg c.ss attrs = p
  by_cases hunknown : p.unknown = []
  · rw [if_neg (not_not_intro hunknown), if_pos hunknown, Parsed.stoppedCode,
      if_neg (not_not_intro hunknown)]
    cases p.val.transport with
    | none =>
      rw [if_pos rfl]
      simp [hunknown, eq_comm]
    | some transport => simp
  · simp [hunknown]

def badFamilyAttr : ℕ × List UInt8 := (attrRequestedAddressFamily, [3, 0, 0, 0])

/-- A transport, and a family that there is not. -/
def badFamilyAttrs : List StunAttr := requestAttrs [udpTransportAttr, badFamilyAttr]

def badTransportAttr : ℕ × List UInt8 := (attrRequestedTransport, [132, 0, 0, 0])

/-- The state in which an Allocate of the client that has connected is handled. -/
def firstRequest (ss : Session) : Ctx := ⟨connected, ss, .init, []⟩

theorem allocate_reports_family :
    ∃ ss ∈ connected.sessionsMap 1, ∃ buf,
      (readAllocate plainParams ss badFamilyAttrs).errCode = 440 ∧
      allocateAnswer plainParams plainEnv clientTid badFamilyAttrs (firstRequest ss) = some buf ∧
      errorCodeOf buf = some 440 := by
  obtain ⟨ss, hss, hlive, hfree, hcode, hunknown, htransport⟩ :
      ∃ ss ∈ connected.sessionsMap 1, ss.answerable = true ∧ ss.alloc.isValid = false ∧
      (readAllocate plainParams ss badFamilyAttrs).errCode = 440 ∧
      (readAllocate plainParams ss badFamilyAttrs).unknown = [] ∧
      (readAllocate plainParams ss badFamilyAttrs).val.transport.isSome = true := by
    decide +kernel
  obtain ⟨buf, hbuf, hread⟩ := (allocate_reports_iff plainParams plainEnv
    ⟨clientTid, rfl⟩ badFamilyAttrs (firstRequest ss)
    (fun _ _ => List.length_replicate) rfl hlive hfree
    (Or.inl (by rw [firstRequest, hcode]; decide))).mpr (Or.inl htransport)
  refine ⟨ss, hss, buf, hcode, hbuf, ?_⟩
  rw [hread, firstRequest, if_pos hunknown, hcode]

def allocateInput (attrs : List (ℕ × List UInt8)) : Input :=
  plainInput (.clientInput 1 (clientRequest stunMethodAllocate attrs) true)

/-- The same two attributes are answered with 440 in one order and with 400 in the other. -/
theorem allocate_error_lost :
    (∃ ss ∈ connected.sessionsMap 1,
      (readAllocate plainParams ss
        (requestAttrs [badFamilyAttr, udpTransportAttr])).errCode = 440 ∧
      (readAllocate plainParams ss
        (requestAttrs [badTransportAttr])).errCode = 442) ∧
    (messagesTo 1 (connected.handle
      (allocateInput [udpTransportAttr, badFamilyAttr])).2).map errorCodeOf = [some 440] ∧
    (messagesTo 1 (connected.handle
      (allocateInput [badFamilyAttr, udpTransportAttr])).2).map errorCodeOf = [some 400] ∧
    (messagesTo 1 (connected.handle
      (allocateInput [badTransportAttr])).2).map errorCodeOf = [some 400] := by
  decide +kernel

end Coturn
