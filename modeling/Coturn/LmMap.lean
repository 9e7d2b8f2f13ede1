/-
# The small local maps

`lm_map` of `server/ns_turn_maps.c`: eight rows of key/value cells, three of them inside the row, in
which a permission keeps its channels by the peer's port. `put` reuses the first hole of the row and
looks for its key among the inner cells only, and there not behind a hole, so a key can get a second
cell.
-/
import Coturn.Lib.Entries
import Coturn.Lib.Run
import Mathlib.Data.PNat.Defs

namespace Coturn

open List Option

variable {p : SlotTable.Place 8}

/-- A key/value cell; both are zero in a cell that was never used or was cleared. -/
structure LmCell (V : Type*) where
  key : ℕ
  value : Option V

/-- An `lm_map`: the first three cells of a row are the main ones, the others the extra ones. -/
abbrev LmMap (V : Type*) := SlotTable 8 (LmCell V)

section Operations

variable {V : Type*}

def LmCell.empty : LmCell V := ⟨0, none⟩

/-- The cell can be used again. -/
def LmCell.isHole (c : LmCell V) : Bool := c.key == 0 || c.value.isNone

def lmMapInit : LmMap V := ⟨fun _ => List.replicate 3 LmCell.empty⟩

/-- The row of a key. -/
def lmMapIndex (key : ℕ) : Fin 8 := ⟨key % 8, Nat.mod_lt _ (by decide)⟩

/-- The loop over the inner cells stops at the key or at a hole; outside only holes are looked for.
-/
def lmMapPut [DecidableEq V] (map : LmMap V) (key : ℕ) (value : V) : Bool × LmMap V :=
  if key = 0 then (false, map)
  else
    let i := lmMapIndex key
    match ((map.row i).take 3).find? fun c => c.key == key || c.isHole with
    | some c =>
      if c.key = key then (c.value == some value, map)
      else (true, map.fill i LmCell.isHole ⟨key, some value⟩)
    | none => (true, map.fill i LmCell.isHole ⟨key, some value⟩)

/-- The cell that `get` and `del` find: an inner cell needs a value, an outer one does not. -/
def lmMapFind (map : LmMap V) (key : ℕ) : Option (SlotTable.Place 8) :=
  if key = 0 then none
  else
    let i := lmMapIndex key
    let inner := ((map.row i).take 3).findIdx? fun c => c.key == key && c.value.isSome
    let outer := ((map.row i).drop 3).findIdx? fun c => c.key == key
    (inner.or (outer.map (· + 3))).map fun j => (i, j)

/-- `none` when the key is not found, else what is stored in `*value`. -/
def lmMapGet (map : LmMap V) (key : ℕ) : Option (Option V) :=
  (lmMapFind map key).bind fun p => (map.get? p).map LmCell.value

/-- Whether the key was there, and the map without it. -/
def lmMapDel (map : LmMap V) (key : ℕ) : Bool × LmMap V :=
  match lmMapFind map key with
  | some p => (true, map.modify p fun _ => LmCell.empty)
  | none => (false, map)

/-- The values that `lm_map_foreach` passes to a callback that never stops it. -/
def lmMapValues (map : LmMap V) : List V :=
  map.slots.filterMap fun c => if c.key = 0 then none else c.value

/-- What `lm_map_foreach` passes to its callback for a cell. -/
def LmCell.entry (c : LmCell V) : Option (Σ _ : ℕ, V) :=
  if c.key = 0 then none else c.value.map (Sigma.mk c.key)

/-- What a walk finds. -/
def lmMapForeach (map : LmMap V) : List (Σ _ : ℕ, V) := map.slots.filterMap LmCell.entry

def lmMapSize (map : LmMap V) : ℕ := map.slots.countP fun c => !c.isHole

/-- `put` sees the key: an inner cell of the row holds it, and no hole comes before. -/
def LmMap.Sees (map : LmMap V) (key : ℕ) : Prop :=
  ∃ c ∈ ((map.row (lmMapIndex key)).take 3).find? fun c => c.key == key || c.isHole, c.key = key

end Operations

/-! ## The map as a partial function -/

section WellFormed

variable {V : Type*} {map : LmMap V} {key : ℕ} {value : V}

/-- A cell of the map holds `value` under `key`. -/
def LmMap.Holds (map : LmMap V) (key : ℕ) (value : V) : Prop :=
  key ≠ 0 ∧ ∃ p, map.get? p = some ⟨key, some value⟩

/-- Every key is in its row, once. -/
structure LmMap.Wf (map : LmMap V) : Prop where
  /-- A cell is cleared as a whole. -/
  value_of_key : ∀ p c, map.get? p = some c → c.key ≠ 0 → c.value.isSome
  key_row : ∀ p c, map.get? p = some c → c.key ≠ 0 → p.1 = lmMapIndex c.key
  key_unique : ∀ p q c d, map.get? p = some c → map.get? q = some d → c.key ≠ 0 →
    c.key = d.key → p = q

lemma LmMap.Wf.holds_unique (h : map.Wf) {v w : V} (hv : map.Holds key v)
    (hw : map.Holds key w) : v = w := by
  obtain ⟨hkey, p, hp⟩ := hv
  obtain ⟨-, q, hq⟩ := hw
  have hpq : p = q := h.key_unique p q _ _ hp hq hkey rfl
  subst hpq
  simpa using hp.symm.trans hq

lemma key_of_lmMapFind (hfind : lmMapFind map key = some p) :
    key ≠ 0 ∧ ∃ c, map.get? p = some c ∧ c.key = key := by
  have hkey : key ≠ 0 := by
    rintro rfl
    simp [lmMapFind] at hfind
  refine ⟨hkey, ?_⟩
  simp only [lmMapFind, if_neg hkey, map_eq_some_iff, or_eq_some_iff] at hfind
  obtain ⟨j, hj, rfl⟩ := hfind
  rcases hj with hin | ⟨-, j', hout, rfl⟩
  · obtain ⟨hlt, hq, -⟩ := findIdx?_eq_some_iff_getElem.mp hin
    rw [length_take, lt_min_iff] at hlt
    rw [getElem_take, Bool.and_eq_true, beq_iff_eq] at hq
    exact ⟨_, getElem?_eq_getElem hlt.2, hq.1⟩
  · obtain ⟨hlt, hq, -⟩ := findIdx?_eq_some_iff_getElem.mp hout
    rw [length_drop] at hlt
    rw [getElem_drop, beq_iff_eq] at hq
    refine ⟨_, ?_, hq⟩
    rw [SlotTable.get?, Nat.add_comm j' 3]
    exact getElem?_eq_getElem _

variable {c : LmCell V}

lemma LmMap.Wf.key_ne_of_find_eq_none (h : map.Wf) (hkey : key ≠ 0)
    (hfind : lmMapFind map key = none) (hc : map.get? p = some c) : c.key ≠ key := by
  rintro rfl
  obtain ⟨i, j⟩ := p
  obtain rfl : i = lmMapIndex c.key := h.key_row _ c hc hkey
  simp only [lmMapFind, if_neg hkey, map_eq_none_iff, or_eq_none_iff,
    findIdx?_eq_none_iff] at hfind
  obtain ⟨hin, hout⟩ := hfind
  have hmem : c ∈ (map.row (lmMapIndex c.key)).take 3 ++ (map.row (lmMapIndex c.key)).drop 3 := by
    rw [take_append_drop]
    exact mem_of_getElem? hc
  rcases mem_append.mp hmem with hmain | hextra
  · have hvalue := h.value_of_key _ c hc hkey
    simpa [hvalue] using hin c hmain
  · simpa using hout c hextra

lemma LmMap.Wf.find_eq_some_iff (h : map.Wf) :
    lmMapFind map key = some p ↔ key ≠ 0 ∧ ∃ c, map.get? p = some c ∧ c.key = key := by
  refine ⟨key_of_lmMapFind, ?_⟩
  rintro ⟨hkey, c, hc, rfl⟩
  cases hfind : lmMapFind map c.key with
  | none => exact absurd rfl (h.key_ne_of_find_eq_none hkey hfind hc)
  | some q =>
    obtain ⟨-, d, hd, hdkey⟩ := key_of_lmMapFind hfind
    rw [h.key_unique p q c d hc hd hkey hdkey.symm]

lemma LmMap.Wf.get_eq_some_iff (h : map.Wf) :
    lmMapGet map key = some (some value) ↔ map.Holds key value := by
  simp only [lmMapGet, bind_eq_some_iff, map_eq_some_iff, h.find_eq_some_iff]
  constructor
  · rintro ⟨p, ⟨hkey, c, hc, rfl⟩, d, hd, hvalue⟩
    obtain rfl : c = d := mem_unique hc hd
    exact ⟨hkey, p, by rw [hc, ← hvalue]⟩
  · rintro ⟨hkey, p, hp⟩
    exact ⟨p, ⟨hkey, _, hp, rfl⟩, _, hp, rfl⟩

/-! ### The operations keep a map well formed -/

lemma lmMapInit_get? (hc : (lmMapInit : LmMap V).get? p = some c) : c = LmCell.empty :=
  eq_of_mem_replicate (mem_of_getElem? hc)

lemma lmMapInit_wf : (lmMapInit : LmMap V).Wf := by
  refine ⟨fun p c hc hkey => ?_, fun p c hc hkey => ?_, fun p q c d hc _ hkey => ?_⟩
  all_goals
    rw [lmMapInit_get? hc] at hkey
    exact absurd rfl hkey

lemma lmMapInit_not_holds : ¬ (lmMapInit : LmMap V).Holds key value := by
  rintro ⟨-, p, hp⟩
  exact absurd (lmMapInit_get? hp) (by simp [LmCell.empty])

lemma LmMap.Wf.del (h : map.Wf) : (lmMapDel map key).2.Wf := by
  unfold lmMapDel
  cases hfind : lmMapFind map key with
  | none => exact h
  | some p =>
    have hcell : ∀ q c, (map.modify p fun _ => LmCell.empty).get? q = some c → c.key ≠ 0 →
        map.get? q = some c := by
      intro q c hc hkey
      rcases SlotTable.get?_modify_eq_some hc with ⟨-, d, -, rfl⟩ | ⟨-, hold⟩
      · exact absurd rfl hkey
      · exact hold
    exact ⟨fun q c hc hkey => h.value_of_key q c (hcell q c hc hkey) hkey,
      fun q c hc hkey => h.key_row q c (hcell q c hc hkey) hkey,
      fun q r c d hc hd hkey heq =>
        h.key_unique q r c d (hcell q c hc hkey) (hcell r d hd (heq ▸ hkey)) hkey heq⟩

lemma LmMap.Wf.holds_del_iff (h : map.Wf) {k : ℕ} {v : V} :
    (lmMapDel map key).2.Holds k v ↔ k ≠ key ∧ map.Holds k v := by
  unfold lmMapDel
  cases hfind : lmMapFind map key with
  | none =>
    refine ⟨fun hk => ⟨?_, hk⟩, fun hk => hk.2⟩
    rintro rfl
    obtain ⟨hkey, p, hp⟩ := hk
    exact h.key_ne_of_find_eq_none hkey hfind hp rfl
  | some p =>
    obtain ⟨hkey, c, hc, hck⟩ := key_of_lmMapFind hfind
    constructor
    · rintro ⟨hk, q, hq⟩
      rcases SlotTable.get?_modify_eq_some hq with ⟨-, d, -, hd⟩ | ⟨hqp, hold⟩
      · exact absurd hd (by simp [LmCell.empty])
      · refine ⟨?_, hk, q, hold⟩
        rintro rfl
        exact hqp (h.key_unique q p _ c hold hc hk hck.symm)
    · rintro ⟨hne, hk, q, hq⟩
      have hqp : q ≠ p := by
        rintro rfl
        obtain rfl : c = ⟨k, some v⟩ := mem_unique hc hq
        exact hne hck
      exact ⟨hk, q, by rw [SlotTable.get?_modify_of_ne hqp, hq]⟩

lemma LmMap.Wf.key_ne_of_not_holds (h : map.Wf) (hkey : key ≠ 0) (hnew : ∀ v, ¬ map.Holds key v)
    (hc : map.get? p = some c) : c.key ≠ key := by
  rintro rfl
  obtain ⟨v, hv⟩ := isSome_iff_exists.mp (h.value_of_key p c hc hkey)
  exact hnew v ⟨hkey, p, by rw [hc, ← hv]⟩

variable [DecidableEq V]

lemma lmMapPut_of_not_sees (hkey : key ≠ 0) (h : ¬ map.Sees key) : lmMapPut map key value =
    (true, map.fill (lmMapIndex key) LmCell.isHole ⟨key, some value⟩) := by
  simp only [lmMapPut, if_neg hkey]
  split
  · next c hc => rw [if_neg fun hck => h ⟨c, hc, hck⟩]
  · rfl

lemma lmMapPut_of_sees (hkey : key ≠ 0) (h : map.Sees key) : (lmMapPut map key value).2 = map := by
  obtain ⟨c, hc, hck⟩ := h
  rw [mem_def] at hc
  simp only [lmMapPut, if_neg hkey, hc, if_pos hck]

lemma LmMap.Wf.put_eq (h : map.Wf) (hkey : key ≠ 0) (hnew : ∀ v, ¬ map.Holds key v) :
    lmMapPut map key value =
      (true, map.fill (lmMapIndex key) LmCell.isHole ⟨key, some value⟩) := by
  refine lmMapPut_of_not_sees hkey ?_
  rintro ⟨c, hc, hck⟩
  obtain ⟨j, hj⟩ := mem_iff_getElem?.mp (mem_of_mem_take (mem_of_find?_eq_some hc))
  exact h.key_ne_of_not_holds hkey hnew (p := (lmMapIndex key, j)) hj hck

lemma LmMap.Wf.put (h : map.Wf) (hkey : key ≠ 0) (hnew : ∀ v, ¬ map.Holds key v) :
    (lmMapPut map key value).2.Wf := by
  rw [h.put_eq hkey hnew]
  refine ⟨fun p c hc hck => ?_, fun p c hc hck => ?_, fun p q c d hc hd hck hcd => ?_⟩
  · rcases SlotTable.get?_fill_eq_some hc with ⟨-, rfl⟩ | ⟨-, hold⟩
    · rfl
    · exact h.value_of_key p c hold hck
  · rcases SlotTable.get?_fill_eq_some hc with ⟨rfl, rfl⟩ | ⟨-, hold⟩
    · rfl
    · exact h.key_row p c hold hck
  · rcases SlotTable.get?_fill_eq_some hc with ⟨rfl, rfl⟩ | ⟨-, hold⟩ <;>
      rcases SlotTable.get?_fill_eq_some hd with ⟨rfl, rfl⟩ | ⟨-, hold'⟩
    · rfl
    · exact absurd hcd.symm (h.key_ne_of_not_holds hkey hnew hold')
    · exact absurd hcd (h.key_ne_of_not_holds hkey hnew hold)
    · exact h.key_unique p q c d hold hold' hck hcd

lemma LmMap.Wf.holds_put_iff (h : map.Wf) (hkey : key ≠ 0) (hnew : ∀ v, ¬ map.Holds key v)
    {k : ℕ} {v : V} :
    (lmMapPut map key value).2.Holds k v ↔ (k = key ∧ v = value) ∨ map.Holds k v := by
  rw [h.put_eq hkey hnew]
  constructor
  · rintro ⟨hk, p, hp⟩
    rcases SlotTable.get?_fill_eq_some hp with ⟨-, heq⟩ | ⟨-, hold⟩
    · simp only [LmCell.mk.injEq, some_inj] at heq
      exact Or.inl heq
    · exact Or.inr ⟨hk, p, hold⟩
  · rintro (⟨rfl, rfl⟩ | ⟨hk, p, hp⟩)
    · exact ⟨hkey, _, by rw [SlotTable.get?_fill, if_pos rfl]⟩
    · refine ⟨hk, p, ?_⟩
      rw [SlotTable.get?_fill, if_neg, hp]
      -- a cell with a key and a value is no hole
      rintro rfl
      have hhole := SlotTable.free_of_get?_freePlace hp
      simp [LmCell.isHole, hk] at hhole

end WellFormed

lemma mem_lmMapValues {V : Type*} {map : LmMap V} {v : V} :
    v ∈ lmMapValues map ↔ ∃ key, map.Holds key v := by
  simp only [lmMapValues, mem_filterMap, SlotTable.mem_slots]
  constructor
  · rintro ⟨c, ⟨p, hp⟩, hc⟩
    split_ifs at hc with hkey
    exact ⟨c.key, hkey, p, by rw [hp, ← hc]⟩
  · rintro ⟨key, hkey, p, hp⟩
    exact ⟨_, ⟨p, hp⟩, by simp [hkey]⟩

/-! ## Calls -/

section Calls

variable {V : Type*} {map : LmMap V} {key : ℕ} {value : V} {f : ℕ → Option V}

lemma LmCell.entry_eq_some_iff {c : LmCell V} :
    c.entry = some ⟨key, value⟩ ↔ key ≠ 0 ∧ c = ⟨key, some value⟩ := by
  obtain ⟨k, _ | v⟩ := c
  · simp [entry]
  · simp only [entry, map_some]
    split_ifs with hk <;> aesop

lemma mem_lmMapForeach : ⟨key, value⟩ ∈ lmMapForeach map ↔ map.Holds key value := by
  rw [lmMapForeach, mem_filterMap]
  constructor
  · rintro ⟨c, hc, hentry⟩
    obtain ⟨hkey, rfl⟩ := LmCell.entry_eq_some_iff.mp hentry
    exact ⟨hkey, SlotTable.mem_slots.mp hc⟩
  · rintro ⟨hkey, hp⟩
    exact ⟨_, SlotTable.mem_slots.mpr hp, LmCell.entry_eq_some_iff.mpr ⟨hkey, rfl⟩⟩

lemma lmMapSize_eq_length (map : LmMap V) : lmMapSize map = (lmMapForeach map).length := by
  rw [lmMapForeach, length_filterMap_eq_countP]
  refine countP_congr fun c _ => ?_
  obtain ⟨k, _ | v⟩ := c <;> by_cases hk : k = 0 <;> simp [LmCell.isHole, LmCell.entry, hk]

/-- The map is the partial function. -/
structure LmMap.IsMap (map : LmMap V) (f : ℕ → Option V) : Prop where
  get : ∀ key, lmMapGet map key = (f key).map some
  unique : ∀ p q c d, map.get? p = some c → map.get? q = some d → c.key ≠ 0 → c.key = d.key → p = q
  size : (lmMapSize map : ℕ∞) = {key | (f key).isSome}.encard
  foreach : (lmMapForeach map).Enumerates f

lemma LmMap.Wf.isSome_of_get (h : map.Wf) {o : Option V} (hget : lmMapGet map key = some o) :
    o.isSome := by
  obtain ⟨p, hp, hvalue⟩ := bind_eq_some_iff.mp hget
  obtain ⟨hkey, c, hc, rfl⟩ := key_of_lmMapFind hp
  obtain rfl : c.value = o := by simpa [hc] using hvalue
  exact h.value_of_key p c hc hkey

lemma LmMap.Wf.isMap (h : map.Wf) (hf : ∀ k v, map.Holds k v ↔ f k = some v) : map.IsMap f := by
  have hforeach : (lmMapForeach map).Enumerates f := by
    refine List.NodupKeys.enumerates ?_ fun k v => mem_lmMapForeach.trans (hf k v)
    refine SlotTable.nodupKeys_entries fun p q c d k v w hc hd hv hw => ?_
    obtain ⟨hkey, rfl⟩ := LmCell.entry_eq_some_iff.mp hv
    obtain ⟨-, rfl⟩ := LmCell.entry_eq_some_iff.mp hw
    exact h.key_unique p q _ _ hc hd hkey rfl
  refine ⟨fun key => ?_, h.key_unique, ?_, hforeach⟩
  · ext1 o
    cases o with
    | none => simpa using fun hget => nomatch h.isSome_of_get hget
    | some v => simp [h.get_eq_some_iff, hf]
  · rw [hforeach.encard_keys, lmMapSize_eq_length]

/-- A call of one of the functions; its key is not zero. -/
inductive LmOp (V : Type*) where
  | put (key : ℕ+) (value : V)
  | get (key : ℕ+)
  | del (key : ℕ+)

variable [DecidableEq V]

/-- The map after a call, and the partial function: a key that is put keeps the value that it has. -/
def LmOp.step (s : LmMap V × (ℕ → Option V)) : LmOp V → LmMap V × (ℕ → Option V)
  | put key value =>
    ((lmMapPut s.1 key value).2, Function.update s.2 key (some ((s.2 key).getD value)))
  | get _ => s
  | del key => ((lmMapDel s.1 key).2, Function.update s.2 key none)

/-- The call does not put a key that is present and that `put` does not see. -/
def LmOp.Sound (s : LmMap V × (ℕ → Option V)) : LmOp V → Prop
  | put key _ => (s.2 key).isSome → s.1.Sees key
  | _ => True

/-- A present key that is not seen gets a second cell. -/
lemma LmMap.Holds.not_isMap_put (h : map.Holds key value) (hsees : ¬ map.Sees key) {v : V} :
    ¬ (lmMapPut map key v).2.IsMap f := by
  intro hmap
  obtain ⟨hkey, p, hp⟩ := h
  rw [lmMapPut_of_not_sees hkey hsees] at hmap
  have hne : p ≠ map.freePlace (lmMapIndex key) LmCell.isHole := by
    rintro rfl
    have hhole := SlotTable.free_of_get?_freePlace hp
    simp [LmCell.isHole, hkey] at hhole
  refine hne (hmap.unique p _ ⟨key, some value⟩ ⟨key, some v⟩ ?_ ?_ hkey rfl)
  · rw [SlotTable.get?_fill, if_neg hne, hp]
  · rw [SlotTable.get?_fill, if_pos rfl]

/-- The map is well formed and the partial function. -/
def LmOp.Inv (s : LmMap V × (ℕ → Option V)) : Prop :=
  s.1.Wf ∧ ∀ k v, s.1.Holds k v ↔ s.2 k = some v

lemma LmOp.Inv.step {s : LmMap V × (ℕ → Option V)} (h : Inv s) {op : LmOp V} (hop : op.Sound s) :
    Inv (op.step s) := by
  obtain ⟨map, f⟩ := s
  obtain ⟨hwf, hf⟩ := h
  cases op with
  | get key => exact ⟨hwf, hf⟩
  | del key =>
    refine ⟨hwf.del, fun k v => ?_⟩
    by_cases hk : k = key <;> simp [LmOp.step, hwf.holds_del_iff, hf, hk]
  | put key value =>
    have hkey : (key : ℕ) ≠ 0 := key.ne_zero
    cases hget : f key with
    | some v =>
      have hsame : LmOp.step (map, f) (.put key value) = (map, f) := by
        refine Prod.ext (lmMapPut_of_sees hkey (hop (by simp [hget]))) ?_
        simp only [LmOp.step, hget, getD_some]
        rw [← hget, Function.update_eq_self]
      rw [hsame]
      exact ⟨hwf, hf⟩
    | none =>
      have hnew : ∀ v, ¬ map.Holds key v := fun v hv => by simp [hf, hget] at hv
      refine ⟨hwf.put hkey hnew, fun k v => ?_⟩
      by_cases hk : k = key <;> simp [LmOp.step, hwf.holds_put_iff hkey hnew, hf, hk, hget, eq_comm]

/-- An `lm_map` behaves as a finite map exactly as long as no key is put that is present but not
seen. -/
theorem lmMap_isMap_iff (ops : List (LmOp V)) :
    Machine.Along LmOp.step (fun s op => (op.step s).1.IsMap (op.step s).2)
        (lmMapInit, fun _ => none) ops ↔
      Machine.Along LmOp.step (fun s op => op.Sound s) (lmMapInit, fun _ => none) ops := by
  have hsound : ∀ s (op : LmOp V), LmOp.Inv s → (op.step s).1.IsMap (op.step s).2 → op.Sound s := by
    intro s op hinv hmap
    cases op with
    | put key value =>
      intro hsome
      obtain ⟨v, hv⟩ := isSome_iff_exists.mp hsome
      exact by_contra fun hsees => ((hinv.2 key v).mpr hv).not_isMap_put hsees hmap
    | _ => trivial
  refine Machine.along_iff_of_simulation (R := fun s t => s = t ∧ LmOp.Inv s) ?_ ?_
    ⟨rfl, lmMapInit_wf, by simp [lmMapInit_not_holds]⟩ ops
  · rintro s _ op ⟨rfl, hinv⟩
    exact ⟨hsound s op hinv, fun h => (hinv.step h).1.isMap (hinv.step h).2⟩
  · rintro s _ op ⟨rfl, hinv⟩ hmap
    exact ⟨rfl, hinv.step (hsound s op hinv hmap)⟩

/-- The fourth key of a row is put twice. -/
theorem fourth_key_put_twice :
    ¬ Machine.Along LmOp.step (fun s op => (op.step s).1.IsMap (op.step s).2)
      (lmMapInit, fun _ => none) ([8, 16, 24, 32, 32].map fun key => LmOp.put key true) := by
  intro h
  have hunique := h.2.2.2.2.1.unique (0, 3) (0, 4) ⟨32, some true⟩ ⟨32, some true⟩ rfl rfl
  exact absurd (hunique (by decide) rfl) (by decide)

end Calls

end Coturn
