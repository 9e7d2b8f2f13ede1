/-
# The pages of the admin server

`apps/relay/http_buffer.c`: a page is put together in a buffer that grows, from strings that are
appended as they are and strings in which the characters that mean something in HTML are replaced.
An append that gets no memory leaves the text as it was, and nobody is told; here it is reported.
-/
import Mathlib.Algebra.Group.Nat.Defs
import Mathlib.Data.List.Basic
import Mathlib.Tactic.SplitIfs

namespace Coturn

open List

/-- `realloc`: it may fail; if not, it keeps what was in the memory. -/
structure Realloc where
  resize : List UInt8 → ℕ → Option (List UInt8)
  keeps : ∀ {mem n mem'}, resize mem n = some mem' → mem.length ≤ n → mem <+: mem' ∧ mem'.length = n

/-- `str_buffer`. -/
structure StrBuffer where
  capacity : ℕ
  sz : ℕ
  buffer : List UInt8

/-! ## The buffer -/

section Buffer

def sizeMax : ℕ := 2 ^ 64 - 1

def strBufferNew : StrBuffer := ⟨1, 0, [0]⟩

variable (mem : Realloc)

/-- The loop that makes room: whether there was memory, and the buffer. -/
def growBuffer (len requiredCapacity : ℕ) (sb : StrBuffer) : Bool × StrBuffer :=
  if requiredCapacity ≤ sb.capacity then (true, sb)
  else if (len + 1024) % 2 ^ 64 < len ∨ sizeMax - (len + 1024) % 2 ^ 64 < sb.capacity then
    (false, sb)
  else
    match mem.resize sb.buffer (sb.capacity + (len + 1024) % 2 ^ 64) with
    | none => (false, sb)
    | some newBuffer =>
      growBuffer len requiredCapacity
        { sb with buffer := newBuffer, capacity := sb.capacity + (len + 1024) % 2 ^ 64 }
termination_by requiredCapacity - sb.capacity

/-- Whether there was memory, and the buffer. -/
def strBufferAppend (sb : StrBuffer) (str : List UInt8) : Bool × StrBuffer :=
  if str = [] then (true, sb)
  else if sb.sz = sizeMax ∨ sizeMax - sb.sz - 1 < str.length then (false, sb)
  else
    let r := growBuffer mem str.length (sb.sz + str.length + 1) sb
    if r.1 then
      (true, { r.2 with
        buffer := r.2.buffer.take r.2.sz ++ str ++ [0] ++ r.2.buffer.drop (r.2.sz + str.length + 1)
        sz := r.2.sz + str.length })
    else r

/-- What is appended for each of the characters that are replaced: `&amp;`, `&lt;`, `&gt;`, `&quot;`
and `&#x27;`. -/
def htmlEntities : List (UInt8 × List UInt8) :=
  [(0x26, [0x26, 0x61, 0x6D, 0x70, 0x3B]), (0x3C, [0x26, 0x6C, 0x74, 0x3B]),
    (0x3E, [0x26, 0x67, 0x74, 0x3B]), (0x22, [0x26, 0x71, 0x75, 0x6F, 0x74, 0x3B]),
    (0x27, [0x26, 0x23, 0x78, 0x32, 0x37, 0x3B])]

/-- What stands for a character. -/
def htmlEscape (c : UInt8) : List UInt8 :=
  ((htmlEntities.find? (·.1 == c)).map Prod.snd).getD [c]

/-- One append after the other: whether there was memory for all of them, and the buffer. -/
def appendAll {α : Type} (append : StrBuffer → α → Bool × StrBuffer) (sb : StrBuffer) :
    List α → Bool × StrBuffer
  | [] => (true, sb)
  | a :: as =>
    let r := append sb a
    let r' := appendAll append r.2 as
    (r.1 && r'.1, r'.2)

def strBufferAppendHtmlEscaped (sb : StrBuffer) (str : List UInt8) : Bool × StrBuffer :=
  appendAll (fun sb c => strBufferAppend mem sb (htmlEscape c)) sb str

/-- A call that appends. -/
inductive BufferCall where
  | append (str : List UInt8)
  | appendHtmlEscaped (str : List UInt8)

def BufferCall.str : BufferCall → List UInt8
  | .append str | .appendHtmlEscaped str => str

/-- What the call adds to the text. -/
def BufferCall.image : BufferCall → List UInt8
  | .append str => str
  | .appendHtmlEscaped str => str.flatMap htmlEscape

def BufferCall.perform (sb : StrBuffer) : BufferCall → Bool × StrBuffer
  | .append str => strBufferAppend mem sb str
  | .appendHtmlEscaped str => strBufferAppendHtmlEscaped mem sb str

def performAll (sb : StrBuffer) (calls : List BufferCall) : Bool × StrBuffer :=
  appendAll (BufferCall.perform mem) sb calls

/-- The buffer holds the text: it has the memory that it says, and the text with its terminator is
in it. -/
structure StrBuffer.Holds (sb : StrBuffer) (text : List UInt8) : Prop where
  size : sb.sz = text.length
  room : sb.sz < sb.capacity
  memory : sb.buffer.length = sb.capacity
  content : text ++ [0] <+: sb.buffer

variable {mem} {sb sb' : StrBuffer} {text str : List UInt8}

lemma growBuffer_of_le {len requiredCapacity : ℕ} (h : requiredCapacity ≤ sb.capacity) :
    growBuffer mem len requiredCapacity sb = (true, sb) := by
  rw [growBuffer, if_pos h]

lemma growBuffer_holds {len requiredCapacity : ℕ} (h : sb.Holds text)
    (hgrow : growBuffer mem len requiredCapacity sb = (true, sb')) :
    sb'.Holds text ∧ requiredCapacity ≤ sb'.capacity := by
  induction sb using growBuffer.induct mem len requiredCapacity with
  | case1 sb henough =>
    rw [growBuffer_of_le henough] at hgrow
    obtain ⟨-, rfl⟩ := Prod.mk.inj hgrow
    exact ⟨h, henough⟩
  | case2 sb henough hlimit =>
    rw [growBuffer, if_neg henough, if_pos hlimit] at hgrow
    cases hgrow
  | case3 sb henough hlimit hnone =>
    rw [growBuffer, if_neg henough, if_neg hlimit, hnone] at hgrow
    cases hgrow
  | case4 sb henough hlimit newBuffer hsome ih =>
    rw [growBuffer, if_neg henough, if_neg hlimit, hsome] at hgrow
    obtain ⟨hkept, hlen⟩ := mem.keeps hsome (by rw [h.memory]; exact Nat.le_add_right _ _)
    exact ih ⟨h.size, Nat.lt_of_lt_of_le h.room (Nat.le_add_right _ _), hlen, h.content.trans hkept⟩ hgrow

lemma strBufferAppend_holds (h : sb.Holds text)
    (happend : strBufferAppend mem sb str = (true, sb')) : sb'.Holds (text ++ str) := by
  rw [strBufferAppend] at happend
  split_ifs at happend with hempty hlimit
  · obtain ⟨-, rfl⟩ := Prod.mk.inj happend
    rwa [hempty, append_nil]
  · cases happend
  · rcases hr : growBuffer mem str.length (sb.sz + str.length + 1) sb with ⟨ok, sb₁⟩
    rw [hr] at happend
    cases ok with
    | false => cases happend
    | true =>
      obtain ⟨-, rfl⟩ := Prod.mk.inj happend
      obtain ⟨hholds, hroom⟩ := growBuffer_holds h hr
      have hsz : sb₁.sz = sb.sz := hholds.size.trans h.size.symm
      have htake : sb₁.buffer.take sb₁.sz = text := by
        rw [hholds.size]
        exact prefix_iff_eq_take.mp ((prefix_append _ _).trans hholds.content) |>.symm
      refine ⟨?_, ?_, ?_, ?_⟩
      · rw [length_append, hholds.size]
      · change sb₁.sz + str.length < sb₁.capacity
        omega
      · change (_ ++ _ ++ _ ++ _ : List UInt8).length = sb₁.capacity
        simp only [length_append, length_take, length_drop, hholds.memory,
          length_singleton]
        omega
      · change _ <+: _ ++ _ ++ _ ++ _
        rw [htake]
        exact prefix_append _ _

/-- When every append adds its image to the text, all of them together add all images. -/
lemma appendAll_holds {α : Type} {append : StrBuffer → α → Bool × StrBuffer} {image : α → List UInt8}
    {as : List α} (h : sb.Holds text) (hall : appendAll append sb as = (true, sb'))
    (hstep : ∀ {sb sb' text a}, sb.Holds text → append sb a = (true, sb') →
      sb'.Holds (text ++ image a)) : sb'.Holds (text ++ as.flatMap image) := by
  induction as generalizing sb text with
  | nil =>
    obtain ⟨-, rfl⟩ := Prod.mk.inj hall
    rwa [flatMap_nil, append_nil]
  | cons a as ih =>
    obtain ⟨hok, hrest⟩ := Prod.mk.inj hall
    rw [Bool.and_eq_true] at hok
    rw [flatMap_cons, ← append_assoc]
    exact ih (hstep h (Prod.ext hok.1 rfl)) (Prod.ext hok.2 hrest)

lemma BufferCall.perform_holds {call : BufferCall} (h : sb.Holds text)
    (hperform : call.perform mem sb = (true, sb')) : sb'.Holds (text ++ call.image) := by
  cases call with
  | append str => exact strBufferAppend_holds h hperform
  | appendHtmlEscaped str => exact appendAll_holds h hperform strBufferAppend_holds

end Buffer

/-! ## The escaped strings -/

/-- The characters that could end a tag, an attribute or a text. -/
def htmlDelimiters : List UInt8 := [0x3C, 0x3E, 0x22, 0x27]

/-- Replace the entities by the characters they stand for, from the left. -/
def htmlUnescapeLoop : ℕ → List UInt8 → List UInt8
  | 0, _ => []
  | _, [] => []
  | n + 1, c :: s =>
    match htmlEntities.find? fun e => e.2.isPrefixOf (c :: s) with
    | some e => e.1 :: htmlUnescapeLoop n ((c :: s).drop e.2.length)
    | none => c :: htmlUnescapeLoop n s

def htmlUnescape (s : List UInt8) : List UInt8 := htmlUnescapeLoop s.length s

lemma htmlEscape_cases (c : UInt8) :
    (∃ e ∈ htmlEntities, e.1 = c ∧ htmlEscape c = e.2) ∨
      htmlEscape c = [c] ∧ c ∉ htmlDelimiters ∧ c ≠ 0x26 := by
  rw [htmlEscape]
  cases hfind : htmlEntities.find? (·.1 == c) with
  | some e =>
    exact Or.inl ⟨e, mem_of_find?_eq_some hfind, by simpa using find?_some hfind, rfl⟩
  | none =>
    simp only [htmlEntities, find?_eq_none, mem_cons, not_mem_nil, or_false,
      beq_iff_eq, forall_eq_or_imp, forall_eq] at hfind
    obtain ⟨hamp, hlt, hgt, hquot, hapos⟩ := hfind
    refine Or.inr ⟨rfl, ?_, fun h => hamp h.symm⟩
    simp only [htmlDelimiters, mem_cons, not_mem_nil, or_false, not_or]
    exact ⟨fun h => hlt h.symm, fun h => hgt h.symm, fun h => hquot h.symm, fun h => hapos h.symm⟩

lemma mem_htmlEntities {e : UInt8 × List UInt8} (he : e ∈ htmlEntities) :
    (∃ s, e.2 = 0x26 :: s ∧ 0x26 ∉ s) ∧ (∀ c ∈ e.2, c ∉ htmlDelimiters ∧ c ≠ 0) ∧
      ∀ rest, (htmlEntities.find? fun e' => e'.2.isPrefixOf (e.2 ++ rest)) = some e := by
  simp only [htmlEntities, mem_cons, not_mem_nil, or_false] at he
  rcases he with rfl | rfl | rfl | rfl | rfl
  all_goals exact ⟨⟨_, rfl, by decide +kernel⟩, by decide +kernel, fun _ => rfl⟩

variable (s : List UInt8)

lemma flatMap_htmlEscape_plain : ∀ c ∈ s.flatMap htmlEscape, c ∉ htmlDelimiters := by
  intro c hc
  obtain ⟨b, -, hc⟩ := mem_flatMap.mp hc
  rcases htmlEscape_cases b with ⟨e, he, -, heq⟩ | ⟨heq, hplain, -⟩
  · rw [heq] at hc
    exact ((mem_htmlEntities he).2.1 c hc).1
  · rw [heq, mem_singleton] at hc
    rwa [hc]

/-- Behind every `&` is the rest of an entity. -/
lemma flatMap_htmlEscape_amp {i : ℕ} (h : (s.flatMap htmlEscape)[i]? = some 0x26) :
    ∃ e ∈ htmlEntities, e.2 <+: (s.flatMap htmlEscape).drop i := by
  induction s generalizing i with
  | nil => cases h
  | cons b s ih =>
    rw [flatMap_cons] at h ⊢
    by_cases hi : i < (htmlEscape b).length
    · rw [getElem?_append_left hi] at h
      rcases htmlEscape_cases b with ⟨e, he, -, heq⟩ | ⟨heq, -, hne⟩
      · -- the only `&` of an entity is its first character
        obtain ⟨⟨tail, htail, hnone⟩, -⟩ := mem_htmlEntities he
        rw [heq, htail] at h
        cases i with
        | zero => exact ⟨e, he, by rw [drop_zero, heq]; exact prefix_append _ _⟩
        | succ i => exact absurd (mem_of_getElem? (getElem?_cons_succ ▸ h)) hnone
      · rw [heq] at h
        exact absurd (mem_singleton.mp (mem_of_getElem? h)).symm hne
    · rw [Nat.not_lt] at hi
      rw [getElem?_append_right hi] at h
      rw [drop_append, drop_eq_nil_of_le hi, nil_append]
      exact ih h

lemma htmlUnescapeLoop_flatMap {n : ℕ} (hn : (s.flatMap htmlEscape).length ≤ n) :
    htmlUnescapeLoop n (s.flatMap htmlEscape) = s := by
  induction s generalizing n with
  | nil => cases n <;> rfl
  | cons b s ih =>
    rw [flatMap_cons] at hn ⊢
    rw [length_append] at hn
    rcases htmlEscape_cases b with ⟨e, he, rfl, heq⟩ | ⟨heq, -, hne⟩
    · obtain ⟨⟨tail, htail, -⟩, -, hfind⟩ := mem_htmlEntities he
      rw [heq] at hn ⊢
      have hpos : 0 < e.2.length := by rw [htail]; exact Nat.succ_pos _
      obtain ⟨n, rfl⟩ := Nat.exists_eq_succ_of_ne_zero (show n ≠ 0 by omega)
      have hfind := hfind (s.flatMap htmlEscape)
      have hdrop : (e.2 ++ s.flatMap htmlEscape).drop e.2.length = s.flatMap htmlEscape :=
        drop_left
      rw [htail, cons_append] at hfind hdrop ⊢
      rw [htmlUnescapeLoop, hfind]
      simp only [htail, hdrop]
      rw [ih (by omega)]
    · rw [heq] at hn ⊢
      rw [length_singleton] at hn
      obtain ⟨n, rfl⟩ := Nat.exists_eq_succ_of_ne_zero (show n ≠ 0 by omega)
      have hnone : (htmlEntities.find? fun e => e.2.isPrefixOf (b :: s.flatMap htmlEscape)) =
          none := by
        rw [find?_eq_none]
        intro e he
        obtain ⟨⟨tail, htail, -⟩, -⟩ := mem_htmlEntities he
        rw [htail, isPrefixOf_cons_cons, beq_false_of_ne hne.symm]
        exact Bool.false_ne_true
      rw [singleton_append, htmlUnescapeLoop, hnone, ih (by omega)]

lemma StrBuffer.Holds.takeWhile_buffer {sb : StrBuffer} {text : List UInt8} (h : sb.Holds text)
    (hnul : 0 ∉ text) : sb.buffer.takeWhile (· != 0) = text := by
  obtain ⟨rest, hrest⟩ := h.content
  rw [← hrest, append_assoc, takeWhile_append_of_pos, singleton_append,
    takeWhile_cons_of_neg (by decide), append_nil]
  intro c hc
  exact bne_iff_ne.mpr (ne_of_mem_of_not_mem hc hnul)

lemma BufferCall.image_nul {call : BufferCall} (h : 0 ∉ call.str) : 0 ∉ call.image := by
  cases call with
  | append str => exact h
  | appendHtmlEscaped str =>
    intro hmem
    obtain ⟨b, hb, hmem⟩ := mem_flatMap.mp hmem
    rcases htmlEscape_cases b with ⟨e, he, -, heq⟩ | ⟨heq, -, -⟩
    · rw [heq] at hmem
      exact ((mem_htmlEntities he).2.1 0 hmem).2 rfl
    · rw [heq, mem_singleton] at hmem
      exact h (hmem ▸ hb)

/-- When there is memory, the buffer holds the strings that were appended; and an escaped string has
none of the delimiters, has `&` only where an entity begins, and can be unescaped. -/
theorem pages_safe_and_lossless (mem : Realloc) (calls : List BufferCall) (sb : StrBuffer)
    (hnul : ∀ call ∈ calls, 0 ∉ call.str) (hmemory : performAll mem strBufferNew calls = (true, sb)) :
    (sb.buffer.takeWhile (· != 0) = calls.flatMap BufferCall.image ∧
      sb.Holds (calls.flatMap BufferCall.image)) ∧
    ∀ s : List UInt8,
      (∀ c ∈ s.flatMap htmlEscape, c ∉ htmlDelimiters) ∧
      (∀ i, (s.flatMap htmlEscape)[i]? = some 0x26 →
        ∃ e ∈ htmlEntities, e.2 <+: (s.flatMap htmlEscape).drop i) ∧
      htmlUnescape (s.flatMap htmlEscape) = s := by
  have hnew : strBufferNew.Holds [] := ⟨rfl, by decide, rfl, prefix_refl _⟩
  have hholds := appendAll_holds hnew hmemory BufferCall.perform_holds
  rw [nil_append] at hholds
  refine ⟨⟨hholds.takeWhile_buffer ?_, hholds⟩, fun s => ⟨flatMap_htmlEscape_plain s,
    fun i => flatMap_htmlEscape_amp s, htmlUnescapeLoop_flatMap s (Nat.le_refl _)⟩⟩
  intro hmem
  obtain ⟨call, hcall, hmem⟩ := mem_flatMap.mp hmem
  exact BufferCall.image_nul (hnul call hcall) hmem

def plentiful : Realloc where
  resize mem n := some (mem ++ List.replicate (n - mem.length) 0)
  keeps := by
    intro mem n mem' h hle
    obtain rfl := Option.some.inj h
    refine ⟨List.prefix_append _ _, ?_⟩
    rw [List.length_append, List.length_replicate]
    omega

/-- A realm named `<` in a page. -/
theorem pages_safe_and_lossless_tag : ∃ sb,
    performAll plentiful strBufferNew [.appendHtmlEscaped [0x3C]] = (true, sb) ∧
      sb.buffer.takeWhile (· != 0) = [0x26, 0x6C, 0x74, 0x3B] := by
  have hgrow : (growBuffer plentiful 4 5 strBufferNew).1 = true := by
    rw [growBuffer, if_neg (by decide), if_neg (by decide)]
    exact congrArg Prod.fst (growBuffer_of_le (by decide))
  have happend : (strBufferAppend plentiful strBufferNew [0x26, 0x6C, 0x74, 0x3B]).1 = true := by
    rw [strBufferAppend, if_neg (by decide), if_neg (by decide)]
    exact congrArg Prod.fst (if_pos hgrow)
  have hrun : (performAll plentiful strBufferNew [.appendHtmlEscaped [0x3C]]).1 = true := by
    simp only [performAll, appendAll, BufferCall.perform, strBufferAppendHtmlEscaped,
      Bool.and_eq_true]
    exact ⟨⟨happend, trivial⟩, trivial⟩
  exact ⟨_, Prod.ext hrun rfl,
    (pages_safe_and_lossless plentiful _ _ (by simp [BufferCall.str]) (Prod.ext hrun rfl)).1.1⟩

end Coturn
