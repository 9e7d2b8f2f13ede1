/-
# The map from addresses

`ur_addr_map` of `server/ns_turn_maps.c`: 1024 rows of key/value elements, of which those without a
value are free. In multiplex-peer mode it says which session a peer's endpoint belongs to, and
entries are deleted while the map is walked. A map carries the proof that every element lies in the
row of its key and no key has two.
-/
import Coturn.Lib.Entries
import Coturn.Lib.Run
import Coturn.Ioaddr

namespace Coturn

open SlotTable List Option

/-! ## The hash of an address with its port -/

/-- A port as a number in the byte order of the host, little-endian here. -/
def portInMemory (port : UInt16) : ℕ := port.toNat % 256 * 256 + port.toNat / 256

/-- A cleared address is hashed as an IPv6 address. -/
def addrHash : IoaAddr → UInt32
  | .s4 ip port =>
    hashInt32 (UInt32.ofNat (ByteSeq.beNat ip.toList.reverse) + UInt32.ofNat (portInMemory port))
  | a =>
    let a0 := UInt64.ofNat (ByteSeq.beNat (a.bytes.take 8).reverse)
    let a1 := UInt64.ofNat (ByteSeq.beNat (a.bytes.drop 8).reverse)
    let port := UInt64.ofNat (portInMemory (addrGetPort a))
    ((hashInt64 a0 <<< 3) + hashInt64 (a1 + port)).toUInt32

/-- The list of an address. -/
def addrMapIndex (key : IoaAddr) : Fin 1024 :=
  ⟨(addrHash key &&& 1023).toNat, by
    have hle : (addrHash key &&& 1023).toNat ≤ (1023 : UInt32).toNat := by
      rw [UInt32.toNat_and]
      exact Nat.and_le_right
    exact Nat.lt_succ_of_le hle⟩

/-! ## Elements -/

/-- An address and its value, if any. -/
structure AddrElem (V : Type*) where
  key : IoaAddr
  value : Option V

def AddrElem.empty {V : Type*} : AddrElem V := ⟨.unset, none⟩

/-- The slot can be used again. -/
def AddrElem.isFree {V : Type*} (e : AddrElem V) : Bool := e.value.isNone

/-- The element that the key is looked up by: it has a value and its key is equal. -/
def AddrElem.holds {V : Type*} (key : IoaAddr) (e : AddrElem V) : Bool :=
  e.value.isSome && addrEq e.key key

abbrev AddrLists (V : Type*) := SlotTable 1024 (AddrElem V)

variable {key : IoaAddr} {q : Place 1024}

section Lists

variable {V : Type*}

/-- `addr_list_get` in the row of the key. -/
def addrListGet (t : AddrLists V) (key : IoaAddr) : Option (Place 1024) :=
  t.find? (addrMapIndex key) (AddrElem.holds key)

/-- `ur_addr_map_put`: the element of the key gets the value, or else a free one gets both. -/
def addrListPut (t : AddrLists V) (key : IoaAddr) (value : V) : AddrLists V :=
  match addrListGet t key with
  | some p => t.modify p fun e => { e with value := some value }
  | none => t.fill (addrMapIndex key) AddrElem.isFree ⟨key, some value⟩

/-- `addr_list_remove` in the row of the key: every element of the key loses its value. -/
def addrListRemove (t : AddrLists V) (key : IoaAddr) : AddrLists V :=
  t.mapRow (addrMapIndex key) fun e => if e.holds key then { e with value := none } else e

/-- One round of a walk with a callback that deletes the keys for which `p` holds. -/
def addrListVisit (p : IoaAddr → V → Bool) (t : AddrLists V) (place : Place 1024) : AddrLists V :=
  match t.get? place with
  | some ⟨key, some value⟩ => if p key value then addrListRemove t key else t
  | _ => t

/-- The key and the value of an element that has one. -/
def AddrElem.entry (e : AddrElem V) : Option (Σ _ : IoaAddr, V) := e.value.map (Sigma.mk e.key)

/-- What a walk with such a callback passes to it. -/
def addrListVisited (p : IoaAddr → V → Bool) :
    AddrLists V → List (Place 1024) → List (Σ _ : IoaAddr, V)
  | _, [] => []
  | t, place :: places =>
    ((t.get? place).bind AddrElem.entry).toList ++
      addrListVisited p (addrListVisit p t place) places

/-- An element with a value: where it is, its key and its value. -/
def AddrLists.Live (t : AddrLists V) (p : Place 1024) (key : IoaAddr) (value : V) : Prop :=
  t.get? p = some ⟨key, some value⟩

/-- Elements with values lie in the rows of their keys, and equal keys are in one element. -/
structure AddrLists.Wf (t : AddrLists V) : Prop where
  placed : ∀ {p key value}, t.Live p key value → p.1 = addrMapIndex key
  unique : ∀ {p q key key' value value'}, t.Live p key value → t.Live q key' value' →
    addrEq key key' = true → p = q

lemma AddrElem.holds_iff {e : AddrElem V} :
    e.holds key = true ↔ ∃ value, e.value = some value ∧ addrEq e.key key = true := by
  rw [AddrElem.holds, Bool.and_eq_true, isSome_iff_exists, exists_and_right]

lemma AddrElem.entry_eq_some_iff {e : AddrElem V} {value : V} :
    e.entry = some ⟨key, value⟩ ↔ e = ⟨key, some value⟩ := by
  obtain ⟨k, _ | v⟩ := e <;> simp [entry]

namespace AddrLists

variable {t t' : AddrLists V}

lemma Wf.mono (h : t.Wf) (hsub : ∀ {p key value}, t'.Live p key value → t.Live p key value) :
    t'.Wf where
  placed hp := h.placed (hsub hp)
  unique hp hq := h.unique (hsub hp) (hsub hq)

lemma wf_init : AddrLists.Wf (⟨fun _ => List.replicate 4 AddrElem.empty⟩ : AddrLists V) := by
  have hnone : ∀ {p key value},
      ¬ AddrLists.Live (⟨fun _ => List.replicate 4 AddrElem.empty⟩ : AddrLists V) p key value := by
    intro p key value hlive
    have hmem := mem_of_getElem? hlive
    exact nomatch eq_of_mem_replicate hmem
  exact ⟨fun hp => absurd hp hnone, fun hp => absurd hp hnone⟩

lemma addrListGet_eq_some_iff (h : t.Wf) {p : Place 1024} :
    addrListGet t key = some p ↔ key.IsInet ∧ ∃ value, t.Live p key value := by
  constructor
  · intro hget
    obtain ⟨-, ⟨k, v⟩, he, hholds⟩ := find?_eq_some hget
    obtain ⟨value, rfl, heq⟩ := AddrElem.holds_iff.mp hholds
    obtain ⟨hinet, rfl⟩ := addrEq_iff_eq.mp heq
    exact ⟨hinet, value, he⟩
  · rintro ⟨hinet, value, hlive⟩
    have hself : addrEq key key = true := addrEq_iff_eq.mpr ⟨hinet, rfl⟩
    cases hget : addrListGet t key with
    | none =>
      have hfalse := find?_eq_none hget (h.placed hlive) hlive
      rw [AddrElem.holds_iff.mpr ⟨value, rfl, hself⟩] at hfalse
      exact absurd hfalse (by decide)
    | some q =>
      obtain ⟨-, ⟨k, v⟩, he, hholds⟩ := find?_eq_some hget
      obtain ⟨value', rfl, heq⟩ := AddrElem.holds_iff.mp hholds
      rw [h.unique he hlive heq]

/-- What a `put` does: one place gets the key and the value, and no other place had the key. -/
lemma addrListPut_live (h : t.Wf) (key : IoaAddr) (value : V) :
    ∃ p : Place 1024, p.1 = addrMapIndex key ∧
      (∀ {q k v}, t.Live q k v → addrEq k key = true → q = p) ∧
      (∀ {k v}, t.Live p k v → k = key) ∧
      ∀ {q k v}, (addrListPut t key value).Live q k v ↔
        (q = p ∧ k = key ∧ v = value) ∨ (q ≠ p ∧ t.Live q k v) := by
  unfold addrListPut
  cases hget : addrListGet t key with
  | some p =>
    obtain ⟨hinet, old, hold⟩ := (addrListGet_eq_some_iff h).mp hget
    refine ⟨p, h.placed hold, ?_, ?_, ?_⟩
    · intro q k v hq heq
      exact h.unique hq hold heq
    · intro k v hk
      have heq := hold.symm.trans hk
      simp only [Option.some.injEq, AddrElem.mk.injEq] at heq
      exact heq.1.symm
    · intro q k v
      unfold Live at hold ⊢
      rw [get?_modify]
      by_cases hq : q = p
      · subst hq
        simp [hold, eq_comm]
      · simp [hq]
  | none =>
    refine ⟨t.freePlace (addrMapIndex key) AddrElem.isFree, rfl, ?_, ?_, ?_⟩
    · intro q k v hq heq
      obtain ⟨hinet, rfl⟩ := addrEq_iff_eq.mp heq
      rw [(addrListGet_eq_some_iff h).mpr ⟨hinet, v, hq⟩] at hget
      exact nomatch hget
    · intro k v hk
      exact absurd (free_of_get?_freePlace hk) (by simp [AddrElem.isFree])
    · intro q k v
      unfold Live
      rw [get?_fill]
      by_cases hq : q = t.freePlace (addrMapIndex key) AddrElem.isFree
      · simp [hq, eq_comm]
      · simp [hq]

lemma Wf.put (h : t.Wf) (key : IoaAddr) (value : V) : (addrListPut t key value).Wf := by
  obtain ⟨p, hp, hfound, -, hlive⟩ := addrListPut_live h key value
  constructor
  · intro q k v hq
    rcases hlive.mp hq with ⟨rfl, rfl, -⟩ | ⟨-, hq⟩
    · exact hp
    · exact h.placed hq
  · intro q q' k k' v v' hq hq' heq
    rcases hlive.mp hq with ⟨rfl, rfl, -⟩ | ⟨hne, hold⟩ <;>
      rcases hlive.mp hq' with ⟨rfl, rfl, -⟩ | ⟨hne', hold'⟩
    · rfl
    · exact absurd (hfound hold' (addrEq_symm heq)) hne'
    · exact absurd (hfound hold heq) hne
    · exact h.unique hold hold' heq

lemma addrListRemove_live (h : t.Wf) (key : IoaAddr) {k : IoaAddr} {v : V} :
    (addrListRemove t key).Live q k v ↔ t.Live q k v ∧ addrEq k key = false := by
  unfold addrListRemove Live
  rw [get?_mapRow]
  by_cases hq : q.1 = addrMapIndex key
  · rw [if_pos hq]
    rcases hget : t.get? q with _ | ⟨k', _ | v'⟩
    · simp
    · simp [AddrElem.holds]
    · cases heq : addrEq k' key
      · simp only [map_some, AddrElem.holds, heq, isSome_some, Bool.and_false,
          Bool.false_eq_true, if_false, Option.some.injEq, AddrElem.mk.injEq]
        constructor
        · rintro ⟨rfl, rfl⟩
          exact ⟨⟨rfl, rfl⟩, heq⟩
        · exact And.left
      · simp only [map_some, AddrElem.holds, heq, isSome_some, Bool.and_true,
          if_true, Option.some.injEq, AddrElem.mk.injEq, reduceCtorEq, and_false, false_iff]
        rintro ⟨⟨rfl, -⟩, hne⟩
        rw [heq] at hne
        exact absurd hne (by decide)
  · rw [if_neg hq]
    constructor
    · intro hlive
      refine ⟨hlive, Bool.eq_false_iff.mpr fun heq => hq ?_⟩
      rw [h.placed hlive, (addrEq_iff_eq.mp heq).2]
    · exact And.left

lemma addrListVisit_live (h : t.Wf) (p : IoaAddr → V → Bool) (place : Place 1024)
    {k : IoaAddr} {v : V} :
    (addrListVisit p t place).Live q k v ↔
      t.Live q k v ∧ (place = q → p k v = true → ¬ k.IsInet) := by
  unfold addrListVisit
  rcases hget : t.get? place with _ | ⟨key, _ | value⟩
  · refine (and_iff_left_of_imp fun hlive hq => ?_).symm
    subst hq
    exact nomatch hget.symm.trans hlive
  · refine (and_iff_left_of_imp fun hlive hq => ?_).symm
    subst hq
    have heq := hget.symm.trans hlive
    simp at heq
  · have hlive : t.Live place key value := hget
    by_cases hp : p key value = true
    · simp only [hp, if_true]
      rw [addrListRemove_live h]
      refine and_congr_right fun hq => ?_
      constructor
      · rintro hne rfl -
        have heq := hlive.symm.trans hq
        simp only [Option.some.injEq, AddrElem.mk.injEq] at heq
        intro hinet
        rw [← heq.1, addrEq_iff_eq.mpr ⟨heq.1 ▸ hinet, rfl⟩] at hne
        exact absurd hne (by decide)
      · intro himp
        refine Bool.eq_false_iff.mpr fun heq => ?_
        obtain rfl := h.unique hq hlive heq
        obtain ⟨hinet, rfl⟩ := addrEq_iff_eq.mp heq
        have hv := hlive.symm.trans hq
        simp only [Option.some.injEq, AddrElem.mk.injEq, true_and] at hv
        exact himp rfl (hv ▸ hp) hinet
    · simp only [hp]
      refine (and_iff_left_of_imp fun hq hplace => ?_).symm
      subst hplace
      have heq := hlive.symm.trans hq
      simp only [Option.some.injEq, AddrElem.mk.injEq] at heq
      intro hp'
      exact absurd (heq.1 ▸ heq.2 ▸ hp') hp

/-- A walk loses none of the elements for which the callback asks, because no element is moved. -/
lemma foldl_addrListVisit_live (h : t.Wf) (p : IoaAddr → V → Bool) (places : List (Place 1024)) :
    (places.foldl (addrListVisit p) t).Wf ∧
      ∀ {q k v}, (places.foldl (addrListVisit p) t).Live q k v ↔
        t.Live q k v ∧ (q ∈ places → p k v = true → ¬ k.IsInet) := by
  induction places generalizing t with
  | nil => exact ⟨h, fun {q k v} => by simp⟩
  | cons place places ih =>
    have hvisit := fun {q k v} => addrListVisit_live h p place (q := q) (k := k) (v := v)
    obtain ⟨hwf, hlive⟩ := ih (h.mono fun hq => (hvisit.mp hq).1)
    refine ⟨hwf, fun {q k v} => ?_⟩
    rw [foldl_cons, hlive, hvisit, mem_cons, and_assoc]
    refine and_congr_right fun _ => ?_
    constructor
    · rintro ⟨hhead, htail⟩ (rfl | hmem)
      · exact hhead rfl
      · exact htail hmem
    · intro himp
      exact ⟨fun heq => himp (Or.inl heq.symm), fun hmem => himp (Or.inr hmem)⟩

/-- Deleting visited keys hides none of the others from the walk. -/
lemma Wf.visited_eq (h : t.Wf) (p : IoaAddr → V → Bool)
    {places : List (Place 1024)} (hnodup : places.Nodup) :
    addrListVisited p t places = places.filterMap fun q => (t.get? q).bind AddrElem.entry := by
  induction places generalizing t with
  | nil => rfl
  | cons place places ih =>
    obtain ⟨hnot, hnodup⟩ := nodup_cons.mp hnodup
    have hvisit := fun {q k v} => addrListVisit_live h p place (q := q) (k := k) (v := v)
    have hrest : ∀ q ∈ places, ((addrListVisit p t place).get? q).bind AddrElem.entry =
        (t.get? q).bind AddrElem.entry := by
      intro q hq
      have hne : place ≠ q := fun heq => hnot (heq ▸ hq)
      ext ⟨k, v⟩
      simp only [bind_eq_some_iff, AddrElem.entry_eq_some_iff, exists_eq_right]
      exact hvisit.trans (and_iff_left fun heq => absurd heq hne)
    rw [addrListVisited, ih (h.mono fun hq => (hvisit.mp hq).1) hnodup, filterMap_congr hrest]
    cases hentry : (t.get? place).bind AddrElem.entry <;> simp [hentry]

end AddrLists

end Lists

/-! ## The map -/

/-- `ur_addr_map` without its lock. -/
structure UrAddrMap (V : Type*) where
  lists : AddrLists V
  wf : lists.Wf

namespace UrAddrMap

variable {V : Type*} (m : UrAddrMap V)

def init : UrAddrMap V := ⟨⟨fun _ => List.replicate 4 AddrElem.empty⟩, AddrLists.wf_init⟩

/-- The value of an address. -/
def get (key : IoaAddr) : Option V :=
  (addrListGet m.lists key).bind fun p => (m.lists.get? p).bind AddrElem.value

/-- A value is added, or replaced. -/
def put (key : IoaAddr) (value : V) : UrAddrMap V :=
  ⟨addrListPut m.lists key value, m.wf.put key value⟩

/-- `ur_addr_map_foreach_key_arg` with a callback that deletes the keys for which `p` holds. -/
def delWhere (p : IoaAddr → V → Bool) : UrAddrMap V :=
  ⟨m.lists.places.foldl (addrListVisit p) m.lists,
    (AddrLists.foldl_addrListVisit_live m.wf p m.lists.places).1⟩

/-- `ur_addr_map_del`: whether there was an entry, and the map without it. -/
def del (key : IoaAddr) : Bool × UrAddrMap V :=
  ((m.lists.row (addrMapIndex key)).any (AddrElem.holds key), ⟨addrListRemove m.lists key,
    m.wf.mono fun hq => ((AddrLists.addrListRemove_live m.wf key).mp hq).1⟩)

def numElements : ℕ := m.lists.slots.countP fun e => e.value.isSome

/-- What a walk finds. -/
def visited (p : IoaAddr → V → Bool) : List (Σ _ : IoaAddr, V) :=
  addrListVisited p m.lists m.lists.places

variable {value : V}

lemma get_eq_some_iff {m : UrAddrMap V} :
    m.get key = some value ↔ key.IsInet ∧ ∃ p, m.lists.Live p key value := by
  unfold get
  constructor
  · intro h
    obtain ⟨p, hp, hvalue⟩ := bind_eq_some_iff.mp h
    obtain ⟨hinet, v, hlive⟩ := (AddrLists.addrListGet_eq_some_iff m.wf).mp hp
    rw [show m.lists.get? p = some ⟨key, some v⟩ from hlive] at hvalue
    obtain rfl : v = value := by simpa using hvalue
    exact ⟨hinet, p, hlive⟩
  · rintro ⟨hinet, p, hlive⟩
    rw [(AddrLists.addrListGet_eq_some_iff m.wf).mpr ⟨hinet, value, hlive⟩]
    simp [show m.lists.get? p = some ⟨key, some value⟩ from hlive]

lemma isInet_of_get {m : UrAddrMap V} (h : m.get key = some value) :
    key.IsInet := (get_eq_some_iff.mp h).1

@[simp] lemma get_init (key : IoaAddr) : (init : UrAddrMap V).get key = none := by
  refine eq_none_iff_forall_ne_some.mpr fun value h => ?_
  obtain ⟨-, p, hlive⟩ := get_eq_some_iff.mp h
  exact nomatch eq_of_mem_replicate (mem_of_getElem? hlive)

lemma get_put (key : IoaAddr) (value : V) (k : IoaAddr) :
    (m.put key value).get k = if addrEq k key then some value else m.get k := by
  obtain ⟨p, -, hfound, hkey, hlive⟩ := AddrLists.addrListPut_live m.wf key value
  ext v
  by_cases hk : addrEq k key = true
  · obtain ⟨hinet, rfl⟩ := addrEq_iff_eq.mp hk
    rw [if_pos hk, get_eq_some_iff, Option.some.injEq]
    constructor
    · rintro ⟨-, q, hq⟩
      rcases hlive.mp hq with ⟨-, -, rfl⟩ | ⟨hne, hq⟩
      · rfl
      · exact absurd (hfound hq hk) hne
    · rintro rfl
      exact ⟨hinet, p, hlive.mpr (Or.inl ⟨rfl, rfl, rfl⟩)⟩
  · rw [if_neg hk, get_eq_some_iff, get_eq_some_iff]
    refine and_congr_right fun hinet => ?_
    have hne : k ≠ key := fun heq => hk (addrEq_iff_eq.mpr ⟨hinet, heq⟩)
    constructor
    · rintro ⟨q, hq⟩
      rcases hlive.mp hq with ⟨-, heq, -⟩ | ⟨-, hq⟩
      · exact absurd heq hne
      · exact ⟨q, hq⟩
    · rintro ⟨q, hq⟩
      refine ⟨q, hlive.mpr (Or.inr ⟨?_, hq⟩)⟩
      rintro rfl
      exact hne (hkey hq)

lemma get_del (key k : IoaAddr) :
    (m.del key).2.get k = if addrEq k key then none else m.get k := by
  ext v
  rw [get_eq_some_iff, del, exists_congr fun _ => AddrLists.addrListRemove_live m.wf key]
  by_cases hk : addrEq k key = true
  · simp [hk]
  · simp [hk, get_eq_some_iff]

lemma live_delWhere (p : IoaAddr → V → Bool) :
    (m.delWhere p).lists.Live q key value ↔
      m.lists.Live q key value ∧ (p key value = true → ¬ key.IsInet) := by
  unfold delWhere
  rw [(AddrLists.foldl_addrListVisit_live m.wf p m.lists.places).2]
  refine and_congr_right fun hq => ?_
  exact ⟨fun himp => himp (mem_places_of_get? hq), fun himp _ => himp⟩

/-- The walk with a deleting callback removes exactly the entries that the callback asks for. -/
lemma get_delWhere (p : IoaAddr → V → Bool) (key : IoaAddr) :
    (m.delWhere p).get key = (m.get key).filter fun value => !p key value := by
  ext v
  rw [filter_eq_some_iff, get_eq_some_iff, get_eq_some_iff]
  constructor
  · rintro ⟨hinet, q, hq⟩
    obtain ⟨hq, himp⟩ := (live_delWhere m p).mp hq
    have hp : ¬ p key v = true := fun hp => himp hp hinet
    exact ⟨⟨hinet, q, hq⟩, by simpa using hp⟩
  · rintro ⟨⟨hinet, q, hq⟩, hp⟩
    refine ⟨hinet, q, (live_delWhere m p).mpr ⟨hq, fun hp' => ?_⟩⟩
    rw [hp'] at hp
    exact absurd hp (by decide)

variable {m} {f : IoaAddr → Option V}

/-- Get, count and walk of the map are those of the function. -/
structure IsMap (m : UrAddrMap V) (f : IoaAddr → Option V) : Prop where
  get : ∀ key, m.get key = f key
  count : (m.numElements : ℕ∞) = {key | (f key).isSome}.encard
  foreach : ∀ p, (m.visited p).Enumerates f

/-- A map without cleared addresses. -/
lemma isMap_of_get (hinet : ∀ {p key value}, m.lists.Live p key value → key.IsInet)
    (hget : ∀ key, m.get key = f key) : m.IsMap f := by
  have hentries : (m.lists.slots.filterMap AddrElem.entry).Enumerates f := by
    refine List.NodupKeys.enumerates ?_ fun key value => ?_
    · refine nodupKeys_entries fun p q c d k v w hc hd hv hw => ?_
      obtain rfl := AddrElem.entry_eq_some_iff.mp hv
      obtain rfl := AddrElem.entry_eq_some_iff.mp hw
      exact m.wf.unique hc hd (addrEq_iff_eq.mpr ⟨hinet hc, rfl⟩)
    · simp only [mem_filterMap, AddrElem.entry_eq_some_iff, exists_eq_right, mem_slots, ← hget,
        get_eq_some_iff]
      exact ⟨fun ⟨p, hp⟩ => ⟨hinet hp, p, hp⟩, And.right⟩
  refine ⟨hget, ?_, fun p => ?_⟩
  · rw [hentries.encard_keys, length_filterMap_eq_countP, numElements]
    refine congrArg _ (countP_congr fun e _ => ?_)
    simp [AddrElem.entry]
  · rwa [visited, m.wf.visited_eq p m.lists.nodup_places, ← filterMap_filterMap,
      ← slots_eq_filterMap]

end UrAddrMap

/-! ## Calls -/

section Calls

variable {V : Type*}

/-- A call; the callback of a walk deletes the visited keys for which `p` holds. -/
inductive AddrOp (V : Type*) where
  | put (key : {a : IoaAddr // a.IsInet}) (value : V)
  | get (key : {a : IoaAddr // a.IsInet})
  | del (key : {a : IoaAddr // a.IsInet})
  | foreach (p : IoaAddr → V → Bool)

/-- The map after a call, and the function that it should be. -/
def AddrOp.step (s : UrAddrMap V × (IoaAddr → Option V)) :
    AddrOp V → UrAddrMap V × (IoaAddr → Option V)
  | put key value => (s.1.put key value, Function.update s.2 key (some value))
  | get _ => s
  | del key => ((s.1.del key).2, Function.update s.2 key none)
  | foreach p => (s.1.delWhere p, fun key => (s.2 key).filter fun value => !p key value)

/-- The keys are IPv4 or IPv6 addresses, and the map is the function. -/
def AddrOp.Inv (s : UrAddrMap V × (IoaAddr → Option V)) : Prop :=
  (∀ {p key value}, s.1.lists.Live p key value → key.IsInet) ∧ ∀ key, s.1.get key = s.2 key

lemma AddrOp.Inv.step {s : UrAddrMap V × (IoaAddr → Option V)} (op : AddrOp V) (h : Inv s) :
    Inv (op.step s) := by
  obtain ⟨m, f⟩ := s
  obtain ⟨hinet, hget⟩ := h
  have hkey : ∀ (key : {a : IoaAddr // a.IsInet}) k, addrEq k key = true ↔ k = key :=
    fun key k => addrEq_iff_eq.trans ⟨And.right, fun heq => ⟨heq ▸ key.2, heq⟩⟩
  cases op with
  | put key value =>
    obtain ⟨p, -, -, -, hlive⟩ := AddrLists.addrListPut_live m.wf key.1 value
    refine ⟨fun {q k v} hq => ?_, fun k => ?_⟩
    · rcases hlive.mp hq with ⟨-, rfl, -⟩ | ⟨-, hq⟩
      · exact key.2
      · exact hinet hq
    · simp only [AddrOp.step, UrAddrMap.get_put, hkey, Function.update_apply, hget]
  | get key => exact ⟨hinet, hget⟩
  | del key =>
    refine ⟨fun {q k v} hq => hinet ((AddrLists.addrListRemove_live m.wf key.1).mp hq).1, fun k => ?_⟩
    simp only [AddrOp.step, UrAddrMap.get_del, hkey, Function.update_apply, hget]
  | foreach p =>
    refine ⟨fun {q k v} hq => hinet ((UrAddrMap.live_delWhere m p).mp hq).1, fun k => ?_⟩
    simp only [AddrOp.step, UrAddrMap.get_delWhere, hget]

/-- A `ur_addr_map` is a finite map from families, IPs and ports to values, and equal addresses have
equal hashes. -/
theorem urAddrMap_isMap (ops : List (AddrOp V)) :
    (Machine.run AddrOp.step (.init, fun _ => none) ops).1.IsMap
        (Machine.run AddrOp.step (.init, fun _ => none) ops).2 ∧
      ∀ a b, addrEq a b = true → addrHash a = addrHash b := by
  have hinit : AddrOp.Inv ((.init, fun _ => none) : UrAddrMap V × (IoaAddr → Option V)) :=
    ⟨fun hp => (nomatch eq_of_mem_replicate (mem_of_getElem? hp)), UrAddrMap.get_init⟩
  have hrun := Machine.run_preserves (fun s op => AddrOp.Inv.step op) ops hinit
  refine ⟨UrAddrMap.isMap_of_get hrun.1 hrun.2, fun a b heq => ?_⟩
  rw [(addrEq_iff_eq.mp heq).2]

end Calls

end Coturn

