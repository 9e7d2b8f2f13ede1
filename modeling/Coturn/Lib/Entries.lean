/-
# The entries of a partial function

A list of keys and values has the entries of a partial function, each of them once. The keys with
a value are then as many as the list is long. A change of the list at one key is a change of the
function there, and the rows of a hash table have together the entries of one function.
-/
import Coturn.Lib.SlotTable
import Mathlib.Data.List.Sigma

namespace List

variable {κ β : Type*} [DecidableEq κ] {l : List (Σ _ : κ, β)} {f : κ → Option β}

/-- The list has every entry of `f` once. -/
structure Enumerates (l : List (Σ _ : κ, β)) (f : κ → Option β) : Prop where
  once : l.NodupKeys
  lookup : ∀ k, l.dlookup k = f k

lemma NodupKeys.enumerates (h : l.NodupKeys) (hmem : ∀ k v, ⟨k, v⟩ ∈ l ↔ f k = some v) :
    l.Enumerates f :=
  ⟨h, fun k => Option.ext fun v => (mem_dlookup_iff h).trans (hmem k v)⟩

lemma Enumerates.encard_keys (h : l.Enumerates f) : {k | (f k).isSome}.encard = l.length := by
  have hset : {k | (f k).isSome} = (l.keys.toFinset : Set κ) := by
    ext k
    simp [← h.lookup, dlookup_isSome]
  rw [hset, Set.encard_coe_eq_coe_finsetCard, toFinset_card_of_nodup h.once, keys, length_map]

lemma Enumerates.mem_iff (h : l.Enumerates f) {k : κ} {v : β} : ⟨k, v⟩ ∈ l ↔ f k = some v := by
  rw [← h.lookup, ← Option.mem_def, mem_dlookup_iff h.once]

lemma Enumerates.cons (h : l.Enumerates f) {k : κ} (hk : f k = none) (v : β) :
    (⟨k, v⟩ :: l).Enumerates (Function.update f k (some v)) := by
  refine ⟨nodupKeys_cons.mpr ⟨dlookup_eq_none.mp ((h.lookup k).trans hk), h.once⟩, fun k' => ?_⟩
  by_cases hk' : k' = k
  · subst hk'
    simp
  · rw [dlookup_cons_ne _ _ hk', h.lookup, Function.update_of_ne hk']

lemma Enumerates.filter (h : l.Enumerates f) (k : κ) :
    (l.filter fun e => e.1 ≠ k).Enumerates (Function.update f k none) := by
  refine (h.once.sublist filter_sublist).enumerates fun k' v => ?_
  by_cases hk : k' = k <;> simp [h.mem_iff, hk]

lemma Enumerates.kreplace (h : l.Enumerates f) {k : κ} (hk : (f k).isSome) (v : β) :
    (l.kreplace k v).Enumerates (Function.update f k (some v)) := by
  have hnodup := (kreplace_nodupKeys k v).mpr h.once
  have hmem : k ∈ l.keys := dlookup_isSome.mp (by rwa [h.lookup])
  obtain ⟨w, l₁, l₂, -, hl, herase⟩ := exists_of_kerase hmem
  have hperm : l.Perm (⟨k, w⟩ :: l.kerase k) := by
    rw [herase]
    exact hl ▸ perm_middle
  have hinsert : (l.kreplace k v).Perm (l.kinsert k v) := by
    have hcons : List.kreplace k v (⟨k, w⟩ :: l.kerase k) = l.kinsert k v :=
      lookmap_cons_some _ _ (dif_pos rfl)
    exact hcons ▸ hperm.kreplace h.once
  refine ⟨hnodup, fun k' => ?_⟩
  rw [perm_dlookup k' hnodup hinsert]
  by_cases hk' : k' = k
  · rw [hk', dlookup_kinsert, Function.update_self]
  · rw [dlookup_kinsert_ne hk', h.lookup, Function.update_of_ne hk']

/-- The rows of a hash table, one after the other. -/
lemma Enumerates.flatMap {n : ℕ} {index : κ → Fin n} {rows : Fin n → List (Σ _ : κ, β)}
    (h : ∀ i, (rows i).Enumerates fun k => if index k = i then f k else none) :
    ((finRange n).flatMap rows).Enumerates f := by
  have hrow : ∀ i k v, ⟨k, v⟩ ∈ rows i ↔ index k = i ∧ f k = some v := by
    intro i k v
    rw [(h i).mem_iff, Option.ite_none_right_eq_some]
  refine NodupKeys.enumerates ?_ fun k v => ?_
  · rw [NodupKeys, keys, map_flatMap, nodup_flatMap]
    refine ⟨fun i _ => (h i).once, (nodup_finRange n).pairwise_of_forall_ne ?_⟩
    intro i _ j _ hij k hi hj
    obtain ⟨v, hv⟩ := mem_keys.mp hi
    obtain ⟨w, hw⟩ := mem_keys.mp hj
    exact hij (((hrow i k v).mp hv).1.symm.trans ((hrow j k w).mp hw).1)
  · simp [hrow]

end List

/-- The entries of the slots have different keys when no key is in two places. -/
lemma SlotTable.nodupKeys_entries {n : ℕ} {α κ β : Type*} {t : SlotTable n α}
    {entry : α → Option (Σ _ : κ, β)}
    (h : ∀ p q x y k v w, t.get? p = some x → t.get? q = some y → entry x = some ⟨k, v⟩ →
      entry y = some ⟨k, w⟩ → p = q) :
    (t.slots.filterMap entry).NodupKeys := by
  rw [List.NodupKeys, List.keys, List.map_filterMap, slots_eq_filterMap, List.filterMap_filterMap]
  refine t.nodup_places.filterMap fun p q k hp hq => ?_
  obtain ⟨x, hx, hxk⟩ := Option.bind_eq_some_iff.mp hp
  obtain ⟨y, hy, hyk⟩ := Option.bind_eq_some_iff.mp hq
  obtain ⟨⟨k, v⟩, hv, rfl⟩ := Option.map_eq_some_iff.mp hxk
  obtain ⟨⟨_, w⟩, hw, rfl⟩ := Option.map_eq_some_iff.mp hyk
  exact h p q x y _ v w hx hy hv hw
