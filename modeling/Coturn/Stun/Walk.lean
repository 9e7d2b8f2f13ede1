/-
# The walk over the attributes

`stun_attr_get_first_str` and `stun_attr_get_next_str` of `client/ns_turn_msg.c` on arbitrary bytes,
with attributes as offsets. Each step goes on behind the padded value of the attribute it leaves,
and only to an attribute inside the message, so the walk ends. It visits the list `stunAttrs`.
-/
import Coturn.Stun.Codec

namespace Coturn

open ByteSeq List

/-! ## Steps -/

variable (buf : List UInt8)

def stunAttrGetType (attr : ℕ) : ℕ := beAt buf attr 2

def stunAttrGetLen (attr : ℕ) : ℕ := beAt buf (attr + 2) 2

/-- The bytes that `stun_attr_get_value` points to, as many as the header gives. -/
def stunAttrGetValue (attr : ℕ) : List UInt8 :=
  (buf.drop (attr + 4)).take (stunAttrGetLen buf attr)

def stunAttrCheckValid (attr remaining : ℕ) : Option ℕ :=
  if 4 ≤ remaining ∧ paddedLength (stunAttrGetLen buf attr) ≤ remaining - 4 then some attr else none

def stunAttrGetFirst : Option ℕ :=
  match stunGetCommandMessageLen buf with
  | none => none
  | some bufLen =>
    if stunHeaderLength < bufLen then
      stunAttrCheckValid buf stunHeaderLength (bufLen - stunHeaderLength)
    else none

/-- `stun_attr_get_next_str` after the attribute `prev`. Without a message the end is before the
start of the buffer. -/
def stunAttrGetNext (prev : ℕ) : Option ℕ :=
  match stunGetCommandMessageLen buf with
  | none => none
  | some bufEnd =>
    let attrEnd := prev + 4 + paddedLength (stunAttrGetLen buf prev)
    if attrEnd < bufEnd then stunAttrCheckValid buf attrEnd (bufEnd - attrEnd) else none

variable {buf} {a : ℕ}

lemma stunGetCommandMessageLen_some {n : ℕ} (h : stunGetCommandMessageLen buf = some n) :
    n = stunHeaderLength + beAt buf 2 2 ∧ n ≤ buf.length := by
  unfold stunGetCommandMessageLen at h
  simp only at h
  split_ifs at h with hshort hlong
  obtain rfl := Option.some.inj h
  omega

lemma stunAttrCheckValid_some {attr remaining : ℕ}
    (h : stunAttrCheckValid buf attr remaining = some a) :
    a = attr ∧ attr + 4 + paddedLength (stunAttrGetLen buf attr) ≤ attr + remaining := by
  unfold stunAttrCheckValid at h
  split_ifs at h with hvalid
  obtain rfl := Option.some.inj h
  omega

lemma stunAttrGetNext_some {prev : ℕ} (h : stunAttrGetNext buf prev = some a) :
    a = prev + 4 + paddedLength (stunAttrGetLen buf prev) ∧ a + 4 ≤ buf.length := by
  unfold stunAttrGetNext at h
  cases hlen : stunGetCommandMessageLen buf with
  | none =>
    rw [hlen] at h
    exact absurd h (by simp)
  | some n =>
    rw [hlen] at h
    simp only at h
    split_ifs at h with hin
    have hn := (stunGetCommandMessageLen_some hlen).2
    obtain ⟨rfl, hfits⟩ := stunAttrCheckValid_some h
    omega

lemma stunAttrGetNext_rest (buf : List UInt8) (attr : ℕ) :
    (stunAttrGetNext buf attr).elim 0 (fun a => buf.length - a + 1) < buf.length - attr + 1 := by
  cases hnext : stunAttrGetNext buf attr with
  | none => simp
  | some a =>
    obtain ⟨ha, hle⟩ := stunAttrGetNext_some hnext
    simp only [Option.elim_some]
    omega

/-! ## The whole walk -/

def stunAttrVisitFrom (buf : List UInt8) : Option ℕ → List ℕ
  | none => []
  | some attr => attr :: stunAttrVisitFrom buf (stunAttrGetNext buf attr)
termination_by attr => attr.elim 0 fun a => buf.length - a + 1
decreasing_by exact stunAttrGetNext_rest buf attr

def stunAttrVisited (buf : List UInt8) : List ℕ := stunAttrVisitFrom buf (stunAttrGetFirst buf)

def stunAttrVisit (buf : List UInt8) : ℕ → Option ℕ
  | 0 => stunAttrGetFirst buf
  | k + 1 => (stunAttrVisit buf k).bind (stunAttrGetNext buf)

/-- The loop of `stun_attr_get_first_by_type_str`. -/
def stunAttrFindFrom (buf : List UInt8) (attrType : ℕ) : Option ℕ → Option ℕ
  | none => none
  | some attr =>
    if stunAttrGetType buf attr = attrType then some attr
    else stunAttrFindFrom buf attrType (stunAttrGetNext buf attr)
termination_by attr => attr.elim 0 fun a => buf.length - a + 1
decreasing_by exact stunAttrGetNext_rest buf attr

def stunAttrGetFirstByTypeStr (buf : List UInt8) (attrType : ℕ) : Option ℕ :=
  stunAttrFindFrom buf attrType (stunAttrGetFirst buf)

def stunAttrAt (buf : List UInt8) (attr : ℕ) : StunAttr :=
  ⟨attr, stunAttrGetType buf attr, stunAttrGetValue buf attr⟩

/-- The recursion of the model and the walk visit the same attributes. -/
lemma stunAttrWalk_eq_visit {n : ℕ} (hlen : stunGetCommandMessageLen buf = some n)
    {fuel off : ℕ} (hoff : off ≤ n) (hfuel : n - off ≤ fuel) :
    stunAttrWalk fuel off ((buf.take n).drop off) =
      (stunAttrVisitFrom buf (stunAttrCheckValid buf off (n - off))).map (stunAttrAt buf) := by
  have hn := (stunGetCommandMessageLen_some hlen).2
  induction fuel generalizing off with
  | zero =>
    rw [stunAttrCheckValid, if_neg (by omega), stunAttrVisitFrom]
    rfl
  | succ fuel ih =>
    have hrest : ((buf.take n).drop off).length = n - off := by
      rw [length_drop, length_take]
      omega
    have hread : ∀ i k, off + i + k ≤ n →
        beAt ((buf.take n).drop off) i k = beAt buf (off + i) k := by
      intro i k hik
      rw [beAt_drop, beAt_take hik]
    by_cases hvalid : 4 ≤ n - off ∧ paddedLength (stunAttrGetLen buf off) ≤ n - off - 4
    · have hfield : beAt ((buf.take n).drop off) 2 2 = stunAttrGetLen buf off :=
        hread 2 2 (by omega)
      have hpad := le_paddedLength (stunAttrGetLen buf off)
      have hvalue : (((buf.take n).drop off).drop 4).take (stunAttrGetLen buf off) =
          stunAttrGetValue buf off := by
        rw [stunAttrGetValue, drop_drop, drop_take, take_take, min_eq_left (by omega)]
      -- the next attribute is looked for behind the padded value
      have hnext : stunAttrGetNext buf off =
          stunAttrCheckValid buf (off + 4 + paddedLength (stunAttrGetLen buf off))
            (n - (off + 4 + paddedLength (stunAttrGetLen buf off))) := by
        rw [stunAttrGetNext, hlen]
        simp only
        split_ifs with hin
        · rfl
        · rw [stunAttrCheckValid, if_neg (by omega)]
      rw [stunAttrCheckValid, if_pos hvalid, stunAttrVisitFrom, hnext, map_cons,
        ← ih (by omega) (by omega), stunAttrWalk]
      simp only [hfield, hvalue, hrest, hread 0 2 (by omega)]
      rw [if_pos hvalid, drop_drop, ← Nat.add_assoc]
      rfl
    · have hinvalid : ¬ (4 ≤ ((buf.take n).drop off).length ∧
          paddedLength (beAt ((buf.take n).drop off) 2 2) ≤ ((buf.take n).drop off).length - 4) := by
        rw [hrest]
        rintro ⟨hfour, hfits⟩
        rw [hread 2 2 (by omega)] at hfits
        exact hvalid ⟨hfour, hfits⟩
      rw [stunAttrWalk, if_neg hinvalid, stunAttrCheckValid, if_neg hvalid, stunAttrVisitFrom]
      rfl

lemma stunAttrs_eq_visited (buf : List UInt8) :
    stunAttrs buf = (stunAttrVisited buf).map (stunAttrAt buf) := by
  rw [stunAttrs, stunAttrVisited, stunAttrGetFirst]
  cases hlen : stunGetCommandMessageLen buf with
  | none =>
    rw [stunAttrVisitFrom]
    rfl
  | some n =>
    have hn := (stunGetCommandMessageLen_some hlen).1
    simp only
    rw [stunAttrWalk_eq_visit hlen (by omega) (by omega)]
    split_ifs with hin
    · rfl
    · rw [stunAttrCheckValid, if_neg (by omega)]

/-! ## Safety -/

/-- The header of the attribute and its padded value lie inside the message and the buffer. -/
def AttrInside (buf : List UInt8) (attr : ℕ) : Prop :=
  attr + 4 + paddedLength (stunAttrGetLen buf attr) ≤
    min buf.length (stunHeaderLength + beAt buf 2 2)

lemma stunAttrCheckValid_inside {n attr : ℕ}
    (hlen : stunGetCommandMessageLen buf = some n) (hattr : attr < n)
    (h : stunAttrCheckValid buf attr (n - attr) = some a) : a = attr ∧ AttrInside buf a := by
  obtain ⟨hn, hle⟩ := stunGetCommandMessageLen_some hlen
  obtain ⟨rfl, hfits⟩ := stunAttrCheckValid_some h
  refine ⟨rfl, ?_⟩
  show _ ≤ min _ _
  omega

lemma stunAttrGetFirst_inside (h : stunAttrGetFirst buf = some a) :
    a = stunHeaderLength ∧ AttrInside buf a := by
  unfold stunAttrGetFirst at h
  cases hlen : stunGetCommandMessageLen buf with
  | none =>
    rw [hlen] at h
    exact absurd h (by simp)
  | some n =>
    rw [hlen] at h
    simp only at h
    split_ifs at h with hin
    exact stunAttrCheckValid_inside hlen hin h

lemma stunAttrGetNext_inside {prev : ℕ}
    (h : stunAttrGetNext buf prev = some a) : AttrInside buf a := by
  unfold stunAttrGetNext at h
  cases hlen : stunGetCommandMessageLen buf with
  | none =>
    rw [hlen] at h
    exact absurd h (by simp)
  | some n =>
    rw [hlen] at h
    simp only at h
    split_ifs at h with hin
    exact (stunAttrCheckValid_inside hlen hin h).2

lemma stunAttrVisitFrom_inside (o : Option ℕ)
    (ho : ∀ a, o = some a → AttrInside buf a) : ∀ a ∈ stunAttrVisitFrom buf o, AttrInside buf a := by
  induction o using stunAttrVisitFrom.induct buf with
  | case1 =>
    intro a ha
    rw [stunAttrVisitFrom] at ha
    exact absurd ha not_mem_nil
  | case2 attr ih =>
    intro a ha
    rw [stunAttrVisitFrom] at ha
    rcases mem_cons.mp ha with rfl | ha
    · exact ho a rfl
    · exact ih (fun b hb => stunAttrGetNext_inside hb) a ha

lemma le_of_mem_stunAttrVisitFrom (o : Option ℕ)
    (ha : a ∈ stunAttrVisitFrom buf o) : ∃ b, o = some b ∧ b ≤ a := by
  induction o using stunAttrVisitFrom.induct buf with
  | case1 =>
    rw [stunAttrVisitFrom] at ha
    exact absurd ha not_mem_nil
  | case2 attr ih =>
    rw [stunAttrVisitFrom] at ha
    refine ⟨attr, rfl, ?_⟩
    rcases mem_cons.mp ha with rfl | ha
    · exact le_rfl
    · obtain ⟨b, hb, hle⟩ := ih ha
      have := (stunAttrGetNext_some hb).1
      omega

lemma stunAttrVisited_inside (ha : a ∈ stunAttrVisited buf) :
    stunHeaderLength ≤ a ∧ AttrInside buf a := by
  refine ⟨?_, stunAttrVisitFrom_inside _ (fun b hb => (stunAttrGetFirst_inside hb).2) a ha⟩
  obtain ⟨b, hb, hle⟩ := le_of_mem_stunAttrVisitFrom _ ha
  exact (stunAttrGetFirst_inside hb).1 ▸ hle

lemma stunAttrVisitFrom_pairwise (buf : List UInt8) (o : Option ℕ) :
    (stunAttrVisitFrom buf o).Pairwise fun a b =>
      a + 4 + paddedLength (stunAttrGetLen buf a) ≤ b := by
  induction o using stunAttrVisitFrom.induct buf with
  | case1 =>
    rw [stunAttrVisitFrom]
    exact List.Pairwise.nil
  | case2 attr ih =>
    rw [stunAttrVisitFrom]
    refine List.Pairwise.cons ?_ ih
    intro a ha
    obtain ⟨b, hb, hle⟩ := le_of_mem_stunAttrVisitFrom _ ha
    rw [← (stunAttrGetNext_some hb).1]
    exact hle

lemma stunAttrVisitFrom_getElem? (buf : List UInt8) (k : ℕ) (o : Option ℕ) :
    (stunAttrVisitFrom buf o)[0]? = o ∧
      (stunAttrVisitFrom buf o)[k + 1]? =
        (stunAttrVisitFrom buf o)[k]?.bind (stunAttrGetNext buf) := by
  have hhead : ∀ o, (stunAttrVisitFrom buf o)[0]? = o := by
    intro o
    cases o <;> simp [stunAttrVisitFrom]
  refine ⟨hhead o, ?_⟩
  induction k generalizing o with
  | zero =>
    rw [hhead o]
    cases o with
    | none => simp [stunAttrVisitFrom]
    | some attr =>
      rw [stunAttrVisitFrom, getElem?_cons_succ, hhead]
      rfl
  | succ k ih =>
    cases o with
    | none => simp [stunAttrVisitFrom]
    | some attr =>
      rw [stunAttrVisitFrom, getElem?_cons_succ, getElem?_cons_succ]
      exact ih _

lemma stunAttrVisit_eq (buf : List UInt8) (k : ℕ) :
    stunAttrVisit buf k = (stunAttrVisited buf)[k]? := by
  induction k with
  | zero => exact (stunAttrVisitFrom_getElem? buf 0 _).1.symm
  | succ k ih =>
    rw [stunAttrVisit, ih]
    exact (stunAttrVisitFrom_getElem? buf k _).2.symm

lemma stunAttrFindFrom_eq (buf : List UInt8) (attrType : ℕ) (o : Option ℕ) :
    stunAttrFindFrom buf attrType o =
      (stunAttrVisitFrom buf o).find? fun a => stunAttrGetType buf a = attrType := by
  induction o using stunAttrVisitFrom.induct buf with
  | case1 =>
    rw [stunAttrFindFrom, stunAttrVisitFrom]
    rfl
  | case2 attr ih =>
    rw [stunAttrFindFrom, stunAttrVisitFrom, find?_cons, ih]
    by_cases htype : stunAttrGetType buf attr = attrType
    · simp [htype]
    · simp [htype]

/-- The walk over any bytes ends; each attribute begins behind the padded value of those before and
lies inside the message and the buffer; and the search by type finds the first of its type. -/
theorem stunAttr_walk_safe (buf : List UInt8) :
    ∃ attrs : List ℕ,
      (∀ k, stunAttrVisit buf k = attrs[k]?) ∧
      attrs.Pairwise (· < ·) ∧
      (∀ a ∈ attrs, stunHeaderLength ≤ a ∧ a + 4 + paddedLength (stunAttrGetLen buf a) ≤
        min buf.length (stunHeaderLength + beAt buf 2 2)) ∧
      (attrs.Pairwise fun a b => a + 4 + paddedLength (stunAttrGetLen buf a) ≤ b) ∧
      ∀ attrType, stunAttrGetFirstByTypeStr buf attrType =
        attrs.find? fun a => stunAttrGetType buf a = attrType := by
  have hpairwise := stunAttrVisitFrom_pairwise buf (stunAttrGetFirst buf)
  refine ⟨stunAttrVisited buf, stunAttrVisit_eq buf, ?_, ?_, hpairwise,
    fun attrType => stunAttrFindFrom_eq buf attrType _⟩
  · refine hpairwise.imp fun {a b} hab => ?_
    omega
  · intro a ha
    exact stunAttrVisited_inside ha

end Coturn
