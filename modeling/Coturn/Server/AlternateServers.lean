/-
# The rotation of the alternate servers

`set_alternate_server` sends a client to another server: it goes through the list from a counter
that the server keeps, and takes the first address of the family that the client came by. The
place that the counter stands for is the number of addresses of the family before it.
-/
import Coturn.Server.RelayedAddresses
import Mathlib.Tactic.SplitIfs

namespace Coturn

open List

variable {addr : IoaAddr}

variable {asl : List IoaAddr} {family : ℕ}

/-! ## The place of the counter -/

/-- The index at which the search begins. -/
def alternateStart (asl : List IoaAddr) (counter : ℕ) : ℕ :=
  if asl.length ≤ counter then 0 else counter

/-- The servers of a family. -/
def alternatesOf (asl : List IoaAddr) (family : ℕ) : List IoaAddr :=
  asl.filter fun addr => decide (addr.family = family)

def familyRank (asl : List IoaAddr) (family i : ℕ) : ℕ := (alternatesOf (asl.take i) family).length

/-- The place among the addresses of the family that the counter stands for. -/
def alternatePlace (asl : List IoaAddr) (family counter : ℕ) : ℕ :=
  familyRank asl family (alternateStart asl counter)

lemma alternateStart_lt (hpos : 0 < asl.length) (counter : ℕ) :
    alternateStart asl counter < asl.length := by
  rw [alternateStart]
  split_ifs <;> omega

lemma familyRank_zero : familyRank asl family 0 = 0 := rfl

lemma familyRank_length : familyRank asl family asl.length = (alternatesOf asl family).length := by
  rw [familyRank, take_length]

lemma familyRank_succ {i : ℕ} (h : asl[i]? = some addr) :
    familyRank asl family (i + 1) =
      familyRank asl family i + if addr.family = family then 1 else 0 := by
  rw [familyRank, familyRank, take_add_one, h, Option.toList_some, alternatesOf,
    filter_append, length_append, ← alternatesOf, filter_singleton]
  split_ifs <;> simp_all

lemma alternatesOf_getElem? {i : ℕ} (h : asl[i]? = some addr) (hfamily : addr.family = family) :
    (alternatesOf asl family)[familyRank asl family i]? = some addr := by
  have hsplit : asl = asl.take i ++ addr :: asl.drop (i + 1) := by
    obtain ⟨hi, rfl⟩ := List.getElem?_eq_some_iff.mp h
    rw [getElem_cons_drop, take_append_drop]
  have hmembers : alternatesOf asl family = alternatesOf (asl.take i) family ++
      addr :: alternatesOf (asl.drop (i + 1)) family := by
    conv_lhs => rw [hsplit]
    rw [alternatesOf, filter_append, filter_cons_of_pos (by simpa using hfamily)]
    rfl
  rw [hmembers, familyRank, getElem?_append_right le_rfl, Nat.sub_self]
  rfl

variable {counter : ℕ}

/-- The counter goes on by one: the place moves if the address was of the family. -/
lemma alternatePlace_next (family : ℕ) (h : asl[alternateStart asl counter]? = some addr) :
    alternatePlace asl family (alternateStart asl counter + 1) % (alternatesOf asl family).length =
      (alternatePlace asl family counter + if addr.family = family then 1 else 0) %
        (alternatesOf asl family).length := by
  rw [alternatePlace, alternatePlace, ← familyRank_succ h]
  generalize alternateStart asl counter = i at h
  have hi : i < asl.length := (List.getElem?_eq_some_iff.mp h).1
  rw [alternateStart]
  split_ifs with hend
  · -- past the end, the counter starts again and all addresses of the family have been counted
    rw [show i + 1 = asl.length by omega, familyRank_length, familyRank_zero, Nat.zero_mod,
      Nat.mod_self]
  · rfl

/-! ## The search -/

/-- The indices that the search reads. -/
def alternateReads (asl : List IoaAddr) (family : ℕ) : ℕ → ℕ → List ℕ
  | 0, _ => []
  | n + 1, counter =>
    let counter := alternateStart asl counter
    counter ::
      match asl[counter]? with
      | none => []
      | some addr =>
        if addr.family = family then [] else alternateReads asl family n (counter + 1)

lemma nextAlternate_succ {n : ℕ} (h : asl[alternateStart asl counter]? = some addr) :
    nextAlternate asl family (n + 1) counter =
      if addr.family = family then (some addr, alternateStart asl counter + 1)
      else nextAlternate asl family n (alternateStart asl counter + 1) := by
  rw [alternateStart] at h ⊢
  simp only [nextAlternate, h]

/-- The search ends at the last index that it reads. -/
lemma nextAlternate_eq_last (n counter : ℕ) :
    nextAlternate asl family n counter =
      match (alternateReads asl family n counter).getLast? with
      | none => (none, counter)
      | some i => (asl[i]?.filter fun addr => addr.family = family, i + 1) := by
  induction n generalizing counter with
  | zero => rfl
  | succ n ih =>
    rw [alternateReads, getLast?_cons, nextAlternate, ← alternateStart]
    cases haddr : asl[alternateStart asl counter]? with
    | none => simp [haddr]
    | some addr =>
      by_cases hfamily : addr.family = family
      · simp [haddr, hfamily, Option.filter]
      · simp only [hfamily, if_false, ih]
        cases (alternateReads asl family n (alternateStart asl counter + 1)).getLast? with
        | none => simp [haddr, hfamily, Option.filter]
        | some i => rfl

lemma alternateStart_getElem? (hpos : 0 < asl.length) (counter : ℕ) :
    ∃ addr, asl[alternateStart asl counter]? = some addr :=
  ⟨_, getElem?_eq_getElem (alternateStart_lt hpos counter)⟩

lemma nextAlternate_nil (n counter : ℕ) : (nextAlternate [] family n counter).1 = none := by
  cases n <;> rfl

lemma alternateReads_lt (hpos : 0 < asl.length) (n counter : ℕ) :
    ∀ i ∈ alternateReads asl family n counter, i < asl.length := by
  induction n generalizing counter with
  | zero => simp [alternateReads]
  | succ n ih =>
    obtain ⟨addr, haddr⟩ := alternateStart_getElem? hpos counter
    intro i hi
    simp only [alternateReads, haddr, mem_cons] at hi
    obtain rfl | hi := hi
    · exact alternateStart_lt hpos counter
    · split_ifs at hi
      · exact absurd hi not_mem_nil
      · exact ih _ i hi

/-- A search takes the address at the place of the counter and goes on by one place. -/
lemma nextAlternate_place {n : ℕ} (h : (nextAlternate asl family n counter).1 = some addr) :
    (alternatesOf asl family)[alternatePlace asl family counter %
        (alternatesOf asl family).length]? = some addr ∧
      alternatePlace asl family (nextAlternate asl family n counter).2 %
          (alternatesOf asl family).length =
        (alternatePlace asl family counter + 1) % (alternatesOf asl family).length := by
  have hpos : 0 < asl.length := by
    rw [length_pos_iff]
    rintro rfl
    rw [nextAlternate_nil] at h
    cases h
  induction n generalizing counter with
  | zero => cases h
  | succ n ih =>
    obtain ⟨addr', haddr'⟩ := alternateStart_getElem? hpos counter
    have hnext := alternatePlace_next family haddr'
    rw [nextAlternate_succ haddr'] at h ⊢
    split_ifs at h hnext ⊢ with hfamily
    · obtain rfl : addr' = addr := Option.some.inj h
      have hplace := alternatesOf_getElem? haddr' hfamily
      refine ⟨?_, hnext⟩
      rwa [alternatePlace, Nat.mod_eq_of_lt (List.getElem?_eq_some_iff.mp hplace).1]
    · -- an address of another family is passed over, and the place stays
      rw [Nat.add_zero] at hnext
      obtain ⟨hfound, hplace⟩ := ih h
      rw [hnext] at hfound
      exact ⟨hfound, by rw [hplace, Nat.add_mod, hnext, ← Nat.add_mod]⟩

lemma nextAlternate_visits (n counter : ℕ)
    (hnone : (nextAlternate asl family n counter).1 = none) (hpos : 0 < asl.length) :
    ∀ k < n, ∀ addr, asl[(alternateStart asl counter + k) % asl.length]? = some addr →
      addr.family ≠ family := by
  induction n generalizing counter with
  | zero => intro k hk; omega
  | succ n ih =>
    intro k hk addr haddr
    have hlt := alternateStart_lt hpos counter
    obtain ⟨first, hfirst⟩ := alternateStart_getElem? hpos counter
    rw [nextAlternate_succ hfirst] at hnone
    split_ifs at hnone with hfamily
    cases k with
    | zero =>
      rw [Nat.add_zero, Nat.mod_eq_of_lt hlt, hfirst] at haddr
      rw [← Option.some.inj haddr]
      exact hfamily
    | succ k =>
      refine ih _ hnone k (by omega) addr ?_
      rw [← haddr]
      congr 1
      generalize alternateStart asl counter = start at hlt
      rw [alternateStart]
      split_ifs with hwrap
      · have hlast : start + (k + 1) = k + asl.length := by omega
        rw [hlast, Nat.add_mod_right, Nat.zero_add]
      · congr 1
        omega

lemma nextAlternate_eq_none (h : ∀ addr ∈ asl, addr.family ≠ family) (n counter : ℕ) :
    (nextAlternate asl family n counter).1 = none := by
  obtain rfl | hlist := eq_or_ne asl []
  · exact nextAlternate_nil n counter
  induction n generalizing counter with
  | zero => rfl
  | succ n ih =>
    obtain ⟨addr, haddr⟩ := alternateStart_getElem? (length_pos_iff.mpr hlist) counter
    rw [nextAlternate_succ haddr, if_neg (h addr (mem_of_getElem? haddr))]
    exact ih _

/-- The search fails only when there is no address of the family, wherever the counter stands. -/
lemma family_ne_of_nextAlternate (hnone : (nextAlternate asl family asl.length counter).1 = none) :
    ∀ addr ∈ asl, addr.family ≠ family := by
  intro addr haddr
  obtain ⟨i, hi, rfl⟩ := getElem_of_mem haddr
  have hlt := alternateStart_lt (Nat.zero_lt_of_lt hi) counter
  generalize hstart : alternateStart asl counter = start at hlt
  -- the position of the server, counted from where the search begins
  refine nextAlternate_visits asl.length counter hnone (by omega)
    ((i + (asl.length - start)) % asl.length) (Nat.mod_lt _ (by omega)) _ ?_
  rw [hstart, Nat.add_mod_mod, show start + (i + (asl.length - start)) = i + asl.length by omega,
    Nat.add_mod_right, Nat.mod_eq_of_lt hi, getElem?_eq_getElem hi]

/-! ## Calls -/

/-- What a call reads. -/
structure AlternateCall where
  localAddr : IoaAddr
  method : ℕ
  tid : List UInt8
  ctx : Ctx

namespace AlternateCall

def result (cfg : Config) (asl : List IoaAddr) (call : AlternateCall) : Ctx :=
  setAlternateServer cfg asl call.localAddr call.method call.tid call.ctx

def search (asl : List IoaAddr) (call : AlternateCall) : Option IoaAddr × ℕ :=
  nextAlternate asl call.localAddr.family asl.length call.ctx.srv.asCounter

/-- The reply that sends the client to the address. -/
def redirectedTo (cfg : Config) (call : AlternateCall) (addr : IoaAddr) : Reply :=
  { call.ctx.reply with
    errCode := 300
    resp := some (addAddrIgnore cfg (stunInitErrorResponse call.method 300 call.ctx.reply.reason
      call.tid cfg.includeReasonString) attrAlternateServer addr) }

/-- The client may be redirected: its server is not in the list, and the list has an address of the
family it came by. -/
def Redirectable (asl : List IoaAddr) (call : AlternateCall) : Prop :=
  (∀ addr ∈ asl, addrEq addr call.localAddr = false) ∧
    ∃ addr ∈ asl, addr.family = call.localAddr.family

variable {cfg : Config} {call : AlternateCall}

lemma result_of_redirectable (cfg : Config) (h : call.Redirectable asl) :
    ∃ addr, (call.search asl).1 = some addr ∧
      (call.result cfg asl).reply = call.redirectedTo cfg addr ∧
      (call.result cfg asl).srv.asCounter = (call.search asl).2 := by
  obtain ⟨hunlisted, addr, haddr, hfamily⟩ := h
  have hopen : ¬(asl = [] ∨ (asl.any fun addr => addrEq addr call.localAddr) = true) := by
    rintro (rfl | hany)
    · exact absurd haddr not_mem_nil
    · obtain ⟨listed, hlisted, heq⟩ := any_eq_true.mp hany
      exact absurd heq (by rw [hunlisted listed hlisted]; decide)
  cases hsearch : (call.search asl).1 with
  | none => exact absurd hfamily (family_ne_of_nextAlternate hsearch addr haddr)
  | some found =>
    refine ⟨found, rfl, ?_⟩
    rw [search] at hsearch
    rw [result, setAlternateServer, if_neg hopen]
    simp only [hsearch]
    exact ⟨rfl, rfl⟩

lemma result_of_not_redirectable (h : ¬call.Redirectable asl) :
    (call.result cfg asl).reply = call.ctx.reply := by
  rw [result, setAlternateServer]
  split_ifs with hstop
  · rfl
  · have hunlisted : ∀ addr ∈ asl, addrEq addr call.localAddr = false := by
      intro addr haddr
      refine Bool.eq_false_iff.mpr fun heq => hstop (Or.inr ?_)
      exact any_eq_true.mpr ⟨addr, haddr, heq⟩
    have hother : ∀ addr ∈ asl, addr.family ≠ call.localAddr.family :=
      fun addr haddr hfamily => h ⟨hunlisted, addr, haddr, hfamily⟩
    simp only [nextAlternate_eq_none hother]

lemma redirects_iff (herr : call.ctx.reply.errCode = 0) :
    (call.result cfg asl).reply.errCode = 300 ↔ call.Redirectable asl := by
  constructor
  · intro hcode
    by_contra hnot
    rw [result_of_not_redirectable hnot, herr] at hcode
    cases hcode
  · intro h
    obtain ⟨addr, -, hreply, -⟩ := result_of_redirectable cfg h
    rw [hreply]
    rfl

end AlternateCall

/-- A call is answered with 300 exactly when the client may be redirected; calls that redirect
clients of one family take its addresses in turn; and the search stays within the list. -/
theorem setAlternateServer_rotates (cfg : Config) (asl : List IoaAddr) :
    (∀ call : AlternateCall, call.ctx.reply.errCode = 0 →
      ((call.result cfg asl).reply.errCode = 300 ↔ call.Redirectable asl)) ∧
    (∀ (family : ℕ) (calls : ℕ → AlternateCall) (n : ℕ),
      (∀ k < n, (calls k).localAddr.family = family ∧ (calls k).ctx.reply.errCode = 0 ∧
        ((calls k).result cfg asl).reply.errCode = 300) →
      (∀ k, k + 1 < n →
        (calls (k + 1)).ctx.srv.asCounter = ((calls k).result cfg asl).srv.asCounter) →
      ∀ k < n, ∃ addr,
        (alternatesOf asl family)[(alternatePlace asl family (calls 0).ctx.srv.asCounter + k) %
          (alternatesOf asl family).length]? = some addr ∧
        ((calls k).result cfg asl).reply = (calls k).redirectedTo cfg addr) ∧
    ∀ family counter, ∀ i ∈ alternateReads asl family asl.length counter, i < asl.length := by
  refine ⟨fun call herr => AlternateCall.redirects_iff herr, ?_, ?_⟩
  · intro family calls n hcalls hchain
    have hturn : ∀ k < n, ∃ addr, ((calls k).search asl).1 = some addr ∧
        ((calls k).result cfg asl).reply = (calls k).redirectedTo cfg addr ∧
        ((calls k).result cfg asl).srv.asCounter = ((calls k).search asl).2 := by
      intro k hk
      obtain ⟨-, herr, hcode⟩ := hcalls k hk
      exact AlternateCall.result_of_redirectable cfg ((AlternateCall.redirects_iff herr).mp hcode)
    -- each call leaves the counter one place further
    have hplace : ∀ k < n, alternatePlace asl family (calls k).ctx.srv.asCounter %
          (alternatesOf asl family).length =
        (alternatePlace asl family (calls 0).ctx.srv.asCounter + k) %
          (alternatesOf asl family).length := by
      intro k
      induction k with
      | zero => intro _; rfl
      | succ k ih =>
        intro hk
        obtain ⟨addr, hsearch, -, hcounter⟩ := hturn k (by omega)
        obtain ⟨hfamily, -⟩ := hcalls k (by omega)
        rw [AlternateCall.search, hfamily] at hsearch hcounter
        rw [hchain k hk, hcounter, (nextAlternate_place hsearch).2, Nat.add_mod, ih (by omega),
          ← Nat.add_mod, Nat.add_assoc]
    intro k hk
    obtain ⟨addr, hsearch, hreply, -⟩ := hturn k hk
    obtain ⟨hfamily, -⟩ := hcalls k hk
    rw [AlternateCall.search, hfamily] at hsearch
    exact ⟨addr, by rw [← hplace k hk]; exact (nextAlternate_place hsearch).1, hreply⟩
  · intro family counter
    obtain rfl | hlist := eq_or_ne asl []
    · simp [alternateReads]
    · exact alternateReads_lt (length_pos_iff.mpr hlist) _ _

def mixedServers : List IoaAddr :=
  [hostAddr 1 3478, .s6 ⟨List.replicate 16 0, rfl⟩ 3478, hostAddr 2 3478]

def mixedCall (ss : Session) (counter : ℕ) : AlternateCall where
  localAddr := hostAddr 9 3478
  method := stunMethodAllocate
  tid := clientTid
  ctx := ⟨{ connected with asCounter := counter }, ss, .init, []⟩

/-- The second of two clients is sent past the IPv6 server. -/
theorem setAlternateServer_rotates_mixed :
    ∃ ss ∈ connected.sessionsMap 1,
      ((mixedCall ss 0).result plainParams mixedServers).srv.asCounter = 1 ∧
      ((mixedCall ss 1).result plainParams mixedServers).reply =
        (mixedCall ss 1).redirectedTo plainParams (hostAddr 2 3478) := by
  obtain ⟨ss, hss⟩ := Option.isSome_iff_exists.mp
    (show (connected.sessionsMap 1).isSome = true by decide +kernel)
  obtain ⟨hredirects, hrotates, -⟩ := setAlternateServer_rotates plainParams mixedServers
  have hunlisted : ∀ addr ∈ mixedServers, addrEq addr (hostAddr 9 3478) = false := by decide
  have hcode : ∀ k, ((mixedCall ss k).result plainParams mixedServers).reply.errCode =
      300 :=
    fun k => (hredirects (mixedCall ss k) rfl).mpr
      ⟨hunlisted, hostAddr 1 3478, mem_cons_self, rfl⟩
  have hcounter : ((mixedCall ss 0).result plainParams mixedServers).srv.asCounter = 1 :=
    rfl
  refine ⟨ss, hss, hcounter, ?_⟩
  obtain ⟨addr, haddr, hreply⟩ := hrotates 2 (mixedCall ss) 2 (fun k _ => ⟨rfl, rfl, hcode k⟩)
    (fun k hk => by
      obtain rfl : k = 0 := by omega
      exact hcounter.symm) 1 (by decide)
  obtain rfl : hostAddr 2 3478 = addr := Option.some.inj haddr
  exact hreply

end Coturn
