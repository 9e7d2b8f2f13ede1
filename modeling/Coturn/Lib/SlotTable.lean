/-
# Tables of reusable slots

A hash table whose rows are arrays of slots. A slot is never moved and a row never shrinks, so the
place of a slot (its row and its index) serves as a pointer to it. A new value goes to the first
free slot of its row, or to a new slot at the end of the row.
-/
import Mathlib.Data.List.FinRange
import Mathlib.Data.Set.Card
import Mathlib.Tactic.Common

/-- Rows of slots. -/
structure SlotTable (n : ℕ) (α : Type*) where
  row : Fin n → List α

namespace SlotTable

variable {n : ℕ} {α : Type*} (t : SlotTable n α)

/-- A pointer into the table: the row and the index in the row. -/
abbrev Place (n : ℕ) := Fin n × ℕ

/-- The slot at a place. -/
def get? (p : Place n) : Option α := (t.row p.1)[p.2]?

/-- The slot at a place is changed. -/
def modify (p : Place n) (f : α → α) : SlotTable n α :=
  ⟨fun i => if i = p.1 then (t.row i).modify p.2 f else t.row i⟩

/-- The first slot of a row with `q`. -/
def find? (i : Fin n) (q : α → Bool) : Option (Place n) :=
  ((t.row i).findIdx? q).map fun j => (i, j)

/-- The place that the next new value of row `i` gets. -/
def freePlace (i : Fin n) (free : α → Bool) : Place n :=
  (i, (t.row i).findIdx free)

/-- Put `x` into the first free slot of row `i`, or into a new slot at its end. -/
def fill (i : Fin n) (free : α → Bool) (x : α) : SlotTable n α :=
  ⟨fun j => if j = i then
      if (t.row i).findIdx free < (t.row i).length then
        (t.row i).set ((t.row i).findIdx free) x
      else t.row i ++ [x]
    else t.row j⟩

/-- All slots of a row are changed. -/
def mapRow (i : Fin n) (f : α → α) : SlotTable n α :=
  ⟨fun j => if j = i then (t.row j).map f else t.row j⟩

/-- All places that there are. -/
def places : List (Place n) :=
  (List.finRange n).flatMap fun i => (List.range (t.row i).length).map fun j => (i, j)

/-- The slots of all rows. -/
def slots : List α := (List.finRange n).flatMap t.row

lemma get?_modify (p q : Place n) (f : α → α) :
    (t.modify p f).get? q = if q = p then (t.get? q).map f else t.get? q := by
  obtain ⟨i, j⟩ := p
  obtain ⟨i', j'⟩ := q
  by_cases hi : i' = i
  · subst hi
    by_cases hj : j' = j
    · simp [get?, modify, hj]
    · have hj' : ¬ j = j' := fun h => hj h.symm
      simp [get?, modify, hj, hj']
  · simp [get?, modify, hi]

@[simp] lemma get?_modify_self (p : Place n) (f : α → α) :
    (t.modify p f).get? p = (t.get? p).map f := by
  rw [get?_modify, if_pos rfl]

variable {p q : Place n} {f : α → α} {i : Fin n} {free live : α → Bool} {x : α}

lemma get?_modify_of_ne {t : SlotTable n α} (h : q ≠ p) (f : α → α) :
    (t.modify p f).get? q = t.get? q := by
  rw [get?_modify, if_neg h]

lemma get?_fill (i : Fin n) (free : α → Bool) (x : α) (q : Place n) :
    (t.fill i free x).get? q = if q = t.freePlace i free then some x else t.get? q := by
  obtain ⟨i', j'⟩ := q
  by_cases hi : i' = i
  · subst hi
    by_cases hfree : (t.row i').findIdx free < (t.row i').length
    · by_cases hj : j' = (t.row i').findIdx free
      · simp [get?, fill, freePlace, hfree, hj]
      · have hj' : ¬ (t.row i').findIdx free = j' := fun h => hj h.symm
        simp [get?, fill, freePlace, hfree, hj, hj']
    · have hlen : (t.row i').findIdx free = (t.row i').length :=
        le_antisymm List.findIdx_le_length (not_lt.mp hfree)
      by_cases hj : j' = (t.row i').length
      · simp [get?, fill, freePlace, hlen, hj]
      · have hrow : (t.row i' ++ [x])[j']? = (t.row i')[j']? := by
          rcases lt_or_gt_of_ne hj with hlt | hgt
          · exact List.getElem?_append_left hlt
          · rw [List.getElem?_eq_none (by simpa using Nat.succ_le_of_lt hgt), List.getElem?_eq_none hgt.le]
        simp [get?, fill, freePlace, hlen, hj, hrow]
  · simp [get?, fill, freePlace, hi]

lemma get?_mapRow (i : Fin n) (f : α → α) (q : Place n) :
    (t.mapRow i f).get? q = if q.1 = i then (t.get? q).map f else t.get? q := by
  by_cases hi : q.1 = i <;> simp [get?, mapRow, hi]

lemma ext_get? {t t' : SlotTable n α} (h : ∀ p, t.get? p = t'.get? p) : t = t' := by
  obtain ⟨row⟩ := t
  obtain ⟨row'⟩ := t'
  congr 1
  ext1 i
  exact List.ext_getElem? fun j => h (i, j)

variable {t}

lemma modify_eq_self (h : ∀ x, t.get? p = some x → f x = x) : t.modify p f = t := by
  refine ext_get? fun q => ?_
  rw [get?_modify]
  split_ifs with hq
  · subst hq
    cases hget : t.get? q with
    | none => rfl
    | some x => exact congrArg some (h x hget)
  · rfl

lemma get?_modify_eq_some {y : α} (h : (t.modify p f).get? q = some y) :
    (q = p ∧ ∃ x, t.get? p = some x ∧ f x = y) ∨ (q ≠ p ∧ t.get? q = some y) := by
  rw [get?_modify] at h
  split_ifs at h with hq
  · subst hq
    exact Or.inl ⟨rfl, Option.map_eq_some_iff.mp h⟩
  · exact Or.inr ⟨hq, h⟩

lemma get?_fill_eq_some {y : α} (h : (t.fill i free x).get? q = some y) :
    (q = t.freePlace i free ∧ y = x) ∨ (q ≠ t.freePlace i free ∧ t.get? q = some y) := by
  rw [get?_fill] at h
  split_ifs at h with hq
  · exact Or.inl ⟨hq, (Option.some.inj h).symm⟩
  · exact Or.inr ⟨hq, h⟩

lemma free_of_get?_freePlace (h : t.get? (t.freePlace i free) = some x) : free x = true := by
  obtain ⟨hlt, hx⟩ := List.getElem?_eq_some_iff.mp h
  rw [← hx]
  exact List.findIdx_getElem

/-- The values in use after a new value has been put into the table. -/
lemma fill_live_iff {y : α} (hx : live x = true) :
    (t.fill i (fun z => !live z) x).get? q = some y ∧ live y = true ↔
      (q = t.freePlace i (fun z => !live z) ∧ y = x) ∨ (t.get? q = some y ∧ live y = true) := by
  constructor
  · rintro ⟨hget, hlive⟩
    rcases get?_fill_eq_some hget with ⟨rfl, rfl⟩ | ⟨-, hold⟩
    · exact Or.inl ⟨rfl, rfl⟩
    · exact Or.inr ⟨hold, hlive⟩
  · rintro (⟨rfl, rfl⟩ | ⟨hget, hlive⟩)
    · exact ⟨by rw [get?_fill, if_pos rfl], hx⟩
    · refine ⟨?_, hlive⟩
      rw [get?_fill, if_neg, hget]
      rintro rfl
      have hfree := free_of_get?_freePlace hget
      simp [hlive] at hfree

/-- The values in use after one of them has been changed. -/
lemma modify_live_iff {y : α} (hx : t.get? p = some x) (hf : live (f x) = true) :
    (t.modify p f).get? q = some y ∧ live y = true ↔
      (q = p ∧ y = f x) ∨ (q ≠ p ∧ t.get? q = some y ∧ live y = true) := by
  constructor
  · rintro ⟨hget, hlive⟩
    rcases get?_modify_eq_some hget with ⟨rfl, z, hz, rfl⟩ | ⟨hne, hold⟩
    · obtain rfl : x = z := Option.mem_unique hx hz
      exact Or.inl ⟨rfl, rfl⟩
    · exact Or.inr ⟨hne, hold, hlive⟩
  · rintro (⟨rfl, rfl⟩ | ⟨hne, hget, hlive⟩)
    · exact ⟨by rw [get?_modify_self, hx, Option.map_some], hf⟩
    · exact ⟨by rw [get?_modify_of_ne hne, hget], hlive⟩

/-- The values in use after a place has been cleared. -/
lemma clear_live_iff {y : α} (hx : live x = false) :
    (t.modify p fun _ => x).get? q = some y ∧ live y = true ↔
      q ≠ p ∧ t.get? q = some y ∧ live y = true := by
  constructor
  · rintro ⟨hget, hlive⟩
    rcases get?_modify_eq_some hget with ⟨rfl, z, -, rfl⟩ | ⟨hne, hold⟩
    · exact absurd hlive (by simp [hx])
    · exact ⟨hne, hold, hlive⟩
  · rintro ⟨hne, hget, hlive⟩
    exact ⟨by rw [get?_modify_of_ne hne, hget], hlive⟩

lemma find?_eq_some {q : α → Bool}
    (h : t.find? i q = some p) : p.1 = i ∧ ∃ x, t.get? p = some x ∧ q x = true := by
  obtain ⟨j, hj, rfl⟩ := Option.map_eq_some_iff.mp h
  obtain ⟨hlt, hq, -⟩ := List.findIdx?_eq_some_iff_getElem.mp hj
  exact ⟨rfl, _, List.getElem?_eq_getElem hlt, hq⟩

lemma find?_eq_none {q : α → Bool}
    (h : t.find? i q = none) (hp : p.1 = i) (hx : t.get? p = some x) :
    q x = false := by
  subst hp
  have hnone := List.findIdx?_eq_none_iff.mp (Option.map_eq_none_iff.mp h)
  exact hnone x (List.mem_of_getElem? hx)

lemma mem_places_of_get? (h : t.get? p = some x) : p ∈ t.places := by
  obtain ⟨i, j⟩ := p
  obtain ⟨hlt, -⟩ := List.getElem?_eq_some_iff.mp h
  refine List.mem_flatMap.mpr ⟨i, List.mem_finRange i, ?_⟩
  exact List.mem_map.mpr ⟨j, List.mem_range.mpr hlt, rfl⟩

lemma mem_slots : x ∈ t.slots ↔ ∃ p, t.get? p = some x := by
  constructor
  · intro hx
    obtain ⟨i, -, hi⟩ := List.mem_flatMap.mp hx
    obtain ⟨j, hj⟩ := List.mem_iff_getElem?.mp hi
    exact ⟨(i, j), hj⟩
  · rintro ⟨⟨i, j⟩, hj⟩
    exact List.mem_flatMap.mpr ⟨i, List.mem_finRange i, List.mem_of_getElem? hj⟩

/-! ## Counting -/

lemma filterMap_getElem?_range (l : List α) :
    (List.range l.length).filterMap (fun j => l[j]?) = l := by
  induction l with
  | nil => rfl
  | cons x l ih =>
    rw [List.length_cons, List.range_succ_eq_map, List.filterMap_cons, List.filterMap_map]
    simpa using ih

variable (t)

lemma slots_eq_filterMap : t.slots = t.places.filterMap t.get? := by
  rw [slots, places, List.filterMap_flatMap]
  congr 1
  ext1 i
  rw [List.filterMap_map]
  exact (filterMap_getElem?_range (t.row i)).symm

lemma nodup_places : t.places.Nodup := by
  rw [places, List.nodup_flatMap]
  refine ⟨fun i _ => List.nodup_range.map fun j k h => congrArg Prod.snd h, ?_⟩
  refine (List.nodup_finRange n).pairwise_of_forall_ne fun i _ j _ hij p hp hp' => ?_
  obtain ⟨_, _, rfl⟩ := List.mem_map.mp hp
  obtain ⟨_, _, h⟩ := List.mem_map.mp hp'
  exact hij (congrArg Prod.fst h).symm

/-- The places of the slots with `q`. -/
def placesOf (q : α → Bool) : Set (Place n) :=
  {p | ∃ x, t.get? p = some x ∧ q x = true}

lemma placesOf_eq_toFinset (q : α → Bool) :
    t.placesOf q = ((t.places.filter fun p => (t.get? p).any q).toFinset : Set (Place n)) := by
  ext p
  simp only [placesOf, Set.mem_ofPred_eq, List.coe_toFinset, List.mem_filter, Option.any_eq_true]
  constructor
  · rintro ⟨x, hx, hq⟩
    exact ⟨mem_places_of_get? hx, x, hx, hq⟩
  · rintro ⟨-, h⟩
    exact h

lemma finite_placesOf (q : α → Bool) : (t.placesOf q).Finite := by
  rw [placesOf_eq_toFinset]
  exact Finset.finite_toSet _

lemma countP_slots (q : α → Bool) :
    t.slots.countP q = (t.placesOf q).ncard := by
  rw [placesOf_eq_toFinset, Set.ncard_coe_finset,
    List.toFinset_card_of_nodup (t.nodup_places.filter _), slots_eq_filterMap,
    List.countP_filterMap, List.countP_eq_length_filter]
  congr 2
  ext p
  cases t.get? p <;> rfl

end SlotTable
