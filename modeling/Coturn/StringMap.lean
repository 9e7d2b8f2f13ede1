/-
# The string map

A `ur_string_map` is a hash table with lists of copied keys, and it owns its values: a value goes to
the destructor when it is replaced, deleted, or freed with the map.
-/
import Coturn.Lib.Entries
import Coturn.Lib.Run
import Mathlib.Algebra.Group.Nat.Defs

namespace Coturn

open List

/-- The elements of a list: the C string at the copy of the key, and the value. -/
abbrev StringList (V : Type*) := List (Σ _ : List UInt8, V)

/-- The lists of a `ur_string_map`. -/
abbrev StringMap (V : Type*) := Fin 1024 → StringList V

/-- The hash of a key. -/
def stringHash (key : List UInt8) : UInt32 :=
  key.foldl (fun hash c => c.toUInt32 + (hash <<< 6) + (hash <<< 16) - hash) 0

def stringMapIndex (key : List UInt8) : Fin 1024 :=
  ⟨(stringHash key).toNat % 1024, Nat.mod_lt _ (by decide)⟩

/-- `key_size`, of type `uint32_t`. -/
def keySize (key : List UInt8) : ℕ := (key.length + 1) % 2 ^ 32

/-- The C string at the copy of a key. A key that is too long for `key_size` is copied in part and
without its terminator; `beyond` is what stands there up to the next one. -/
def keyCopy (key beyond : List UInt8) : List UInt8 :=
  if keySize key = key.length + 1 then key else key.take (keySize key) ++ beyond

section Functions

variable {V : Type*} (map : StringMap V) (key : List UInt8)

def urStringMapGet : Option V := (map (stringMapIndex key)).dlookup key

/-- The map, and the values that the destructor gets. -/
def urStringMapPut [DecidableEq V] (beyond : List UInt8) (value : V) : StringMap V × List V :=
  let i := stringMapIndex key
  match urStringMapGet map key with
  | some old =>
    if old ≠ value then (Function.update map i ((map i).kreplace key value), [old]) else (map, [])
  | none => (Function.update map i (⟨keyCopy key beyond, value⟩ :: map i), [])

/-- Every element of the key goes, and its value to the destructor. -/
def urStringMapDel : StringMap V × List V :=
  let i := stringMapIndex key
  (Function.update map i ((map i).filter fun e => e.1 ≠ key), (map i).lookupAll key)

/-- The values that the destructor gets when the map is freed. -/
def urStringMapFree : List V := ((finRange 1024).flatMap map).map Sigma.snd

end Functions

/-! ## Calls -/

/-- A call; `beyond` is the memory behind the copy of a key. -/
inductive StringOp (V : Type*) where
  | put (key beyond : List UInt8) (value : V)
  | get (key : List UInt8)
  | del (key : List UInt8)
  | free

/-- The map until it is freed, and the partial function that it should be. -/
abbrev StringState (V : Type*) := Option (StringMap V) × (List UInt8 → Option V)

namespace StringOp

variable {V : Type*}

section Law

variable [DecidableEq V]

/-- What a call does to the map, and the values that the destructor gets. -/
def call : Option (StringMap V) → StringOp V → Option (StringMap V) × List V
  | some map, .put key beyond value => Prod.map some id (urStringMapPut map key beyond value)
  | some map, .del key => Prod.map some id (urStringMapDel map key)
  | some map, .free => (none, urStringMapFree map)
  | m, _ => (m, [])

def spec (f : List UInt8 → Option V) : StringOp V → List UInt8 → Option V
  | .put key _ value => Function.update f key (some value)
  | .get _ => f
  | .del key => Function.update f key none
  | .free => fun _ => none

def step (s : StringState V) (op : StringOp V) : StringState V :=
  ((op.call s.1).1, if s.1.isSome then op.spec s.2 else s.2)

/-- The bindings that are not there any more. -/
def ended (f f' : List UInt8 → Option V) (key : List UInt8) : Option V :=
  if f' key = f key then none else f key

/-- After the call `get` is the partial function, and the destructor got the value of every binding
that ended, once, and no other. -/
structure Law (s : StringState V) (op : StringOp V) : Prop where
  get : ∀ key, ((op.step s).1.bind fun map => urStringMapGet map key) = (op.step s).2 key
  destroyed : ∃ l : StringList V,
    l.Enumerates (ended s.2 (op.step s).2) ∧ (op.call s.1).2 = l.map Sigma.snd

end Law

/-- A key that is new to the map is read back from its copy. -/
def Fits (s : StringState V) : StringOp V → Prop
  | .put key beyond _ => s.1.isSome → s.2 key = none → keyCopy key beyond = key
  | _ => True

/-- What belongs to one list. -/
def part (f : List UInt8 → Option V) (i : Fin 1024) (key : List UInt8) : Option V :=
  if stringMapIndex key = i then f key else none

def Inv : StringState V → Prop
  | (some map, f) => ∀ i, (map i).Enumerates (part f i)
  | (none, f) => f = fun _ => none

lemma inv_init : Inv ((some fun _ => [], fun _ => none) : StringState V) :=
  fun i => nodupKeys_nil.enumerates (by simp [part])

variable {map : StringMap V} {f : List UInt8 → Option V} {key : List UInt8} {s : StringState V}
  {op : StringOp V}

lemma Inv.get (h : Inv s) (key : List UInt8) :
    (s.1.bind fun map => urStringMapGet map key) = s.2 key := by
  obtain ⟨_ | map, f⟩ := s
  · exact (congrFun h key).symm
  · exact ((h _).lookup key).trans (if_pos rfl)

/-- A list that is changed at one key changes the map at that key. -/
lemma Inv.update (h : Inv (some map, f)) {sl : StringList V} {o : Option V}
    (hsl : sl.Enumerates (Function.update (part f (stringMapIndex key)) key o)) :
    Inv (some (Function.update map (stringMapIndex key) sl), Function.update f key o) := by
  intro i
  have hpart : ∀ k, part (Function.update f key o) i k =
      if i = stringMapIndex key then Function.update (part f i) key o k else part f i k := by
    intro k
    by_cases hi : i = stringMapIndex key
    · by_cases hk : k = key <;> simp [part, hk, hi]
    · have hk : stringMapIndex k = i → k ≠ key := fun hik hk => hi (hk ▸ hik.symm)
      by_cases hik : stringMapIndex k = i <;> simp [part, hi, hik, hk]
  rw [funext hpart]
  by_cases hi : i = stringMapIndex key
  · subst hi
    simpa using hsl
  · simpa [hi] using h i

lemma Inv.del (h : Inv (some map, f)) (key : List UInt8) :
    Inv (some (urStringMapDel map key).1, Function.update f key none) ∧
      (urStringMapDel map key).2 = (f key).toList :=
  ⟨h.update ((h _).filter key),
    (lookupAll_eq_dlookup key (h _).once).trans (congrArg Option.toList (h.get key))⟩

variable [DecidableEq V]

/-- The binding that a change at one key ends. -/
lemma exists_enumerates_update (key : List UInt8) (o : Option V) :
    ∃ l : StringList V, l.Enumerates (ended f (Function.update f key o)) ∧
      (if o = f key then [] else (f key).toList) = l.map Sigma.snd := by
  by_cases ho : o = f key
  · exact ⟨[], nodupKeys_nil.enumerates (by simp [ended, ho]), by simp [ho]⟩
  · refine ⟨((f key).map (Sigma.mk key)).toList, NodupKeys.enumerates ?_ fun k v => ?_, ?_⟩
    · cases f key <;> simp
    · by_cases hk : k = key
      · subst hk
        simp [ended, ho]
      · have hne : ¬ key = k := fun h => hk h.symm
        simp [ended, hk, hne]
    · rw [if_neg ho]
      cases f key <;> rfl

lemma Inv.put (h : Inv (some map, f)) (value : V) {beyond : List UInt8}
    (hfit : f key = none → keyCopy key beyond = key) :
    Inv (some (urStringMapPut map key beyond value).1, Function.update f key (some value)) ∧
      (urStringMapPut map key beyond value).2 =
        if some value = f key then [] else (f key).toList := by
  have hpart : part f (stringMapIndex key) key = f key := if_pos rfl
  rw [urStringMapPut, show urStringMapGet map key = f key from h.get key]
  cases hget : f key with
  | some old =>
    by_cases hv : old = value
    · subst hv
      simpa [← hget] using h
    · have hv' : ¬ value = old := fun heq => hv heq.symm
      simp only [hv, hv', Option.some.injEq, ne_eq, not_false_eq_true, if_true, if_false]
      exact ⟨h.update ((h _).kreplace (by rw [hpart, hget]; rfl) value), rfl⟩
  | none =>
    rw [hfit hget]
    exact ⟨h.update ((h _).cons (hpart.trans hget) value), rfl⟩

lemma Inv.law (h : Inv s) (hfits : op.Fits s) : op.Law s ∧ Inv (op.step s) := by
  have hnil : ∀ f : List UInt8 → Option V, ([] : StringList V).Enumerates (ended f f) :=
    fun f => nodupKeys_nil.enumerates (by simp [ended])
  suffices hstep : Inv (op.step s) ∧ ∃ l : StringList V,
      l.Enumerates (ended s.2 (op.step s).2) ∧ (op.call s.1).2 = l.map Sigma.snd from
    ⟨⟨hstep.1.get, hstep.2⟩, hstep.1⟩
  obtain ⟨_ | map, f⟩ := s
  · cases op <;> exact ⟨h, [], hnil f, rfl⟩
  · cases op with
    | put key beyond value =>
      obtain ⟨hinv, hsnd⟩ := h.put value (hfits rfl)
      exact ⟨hinv, hsnd ▸ exists_enumerates_update key (some value)⟩
    | get key => exact ⟨h, [], hnil f, rfl⟩
    | del key =>
      obtain ⟨hinv, hsnd⟩ := h.del key
      obtain ⟨l, hl, hl'⟩ := exists_enumerates_update (f := f) key none
      refine ⟨hinv, l, hl, hsnd.trans (Eq.trans ?_ hl')⟩
      cases f key <;> rfl
    | free =>
      refine ⟨rfl, (finRange 1024).flatMap map, ?_, by rw [call, urStringMapFree]⟩
      convert Enumerates.flatMap h using 1
      ext1 key
      cases hget : f key <;> simp [ended, step, spec, hget]

lemma Law.fits (h : Inv s) (hlaw : op.Law s) : op.Fits s := by
  cases op with
  | put key beyond value =>
    obtain ⟨_ | map, f⟩ := s
    · exact nofun
    intro _ hnone
    have hget : urStringMapGet map key = none := (h.get key).trans hnone
    have hkey : urStringMapGet (urStringMapPut map key beyond value).1 key = some value :=
      (hlaw.get key).trans (Function.update_self ..)
    by_contra hne
    simp only [urStringMapPut, hget] at hkey
    rw [urStringMapGet, Function.update_self, dlookup_cons_ne _ _ (Ne.symm hne)] at hkey
    exact nomatch hget.symm.trans hkey
  | _ => exact True.intro

end StringOp

variable {V : Type*}

/-- A `ur_string_map` is a finite map that owns its values exactly as long as new keys are read back
from their copies. -/
theorem stringMap_law_iff [DecidableEq V] (ops : List (StringOp V)) :
    Machine.Along StringOp.step (fun s op => op.Law s) (some fun _ => [], fun _ => none) ops ↔
      Machine.Along StringOp.step (fun s op => op.Fits s) (some fun _ => [], fun _ => none)
        ops := by
  refine Machine.along_iff_of_simulation (R := fun s t => s = t ∧ StringOp.Inv s) ?_ ?_
    ⟨rfl, StringOp.inv_init⟩ ops
  · rintro s _ op ⟨rfl, hinv⟩
    exact ⟨fun hlaw => hlaw.fits hinv, fun hfits => (hinv.law hfits).1⟩
  · rintro s _ op ⟨rfl, hinv⟩ hlaw
    exact ⟨rfl, (hinv.law (hlaw.fits hinv)).2⟩

lemma keyCopy_ne {key : List UInt8} (hlength : key.length = 2 ^ 32) : keyCopy key [] ≠ key := by
  intro hcopy
  have hsize : keySize key = 1 := by simp [keySize, hlength]
  rw [keyCopy, hsize, hlength, if_neg (by decide), append_nil] at hcopy
  have hlength' := congrArg length hcopy
  rw [length_take, hlength] at hlength'
  omega

/-- A key of `2 ^ 32` characters is stored as its first character. -/
theorem long_key_not_found :
    ¬ Machine.Along StringOp.step (fun s op => op.Law s) (some fun _ => [], fun _ => none)
      [.put (replicate (2 ^ 32) 97) [] true] := by
  rintro ⟨hlaw, -⟩
  exact keyCopy_ne (length_replicate ..) (hlaw.fits StringOp.inv_init rfl rfl)

end Coturn
