/-
# Realms and their quotas

The table of realms of `apps/relay/userdb.c`, which all relay threads share, and the two
callbacks by which a session takes and gives back its share of a realm's quota. A realm counts
its allocations, all together and for each user. A realm that is named for the first time is
made from a copy of the default realm.
-/
import Mathlib.Algebra.Group.Int.Defs
import Mathlib.Data.Int.Notation
import Mathlib.Logic.Function.Basic
import Mathlib.Tactic.Common

namespace Coturn

/-- What a session keeps of its realm. -/
structure RealmOptions where
  name : List UInt8
  maxBps : ℕ
  /-- 0 for no limit. -/
  totalQuota : ℤ
  userQuota : ℤ
  deriving DecidableEq

/-- A realm with its counters. -/
structure RealmParams where
  options : RealmOptions
  totalCurrentAllocs : ℕ
  /-- `alloc_counters`, with 0 for a user who has no entry. -/
  allocCounters : List UInt8 → ℕ

/-- `default_realm_params_ptr` and the map `realms`. -/
structure RealmTable where
  dflt : RealmParams
  /-- The names under which the default realm is in the map. -/
  isDflt : List UInt8 → Bool
  /-- The other realms of the map, by their names. -/
  own : List UInt8 → Option RealmParams

/-- The real name of a user whose name has a time stamp: `separator` is set when the REST API is
in use. -/
def getRealUsername (separator : Option UInt8) (usname : List UInt8) : List UInt8 :=
  match separator with
  | none => usname
  | some c =>
    let start := usname.takeWhile (· != c)
    if start.length = usname.length then usname
    else if start.all fun b => 0x30 ≤ b && b ≤ 0x39 then usname.drop (start.length + 1)
    else start

namespace RealmTable

variable (t : RealmTable) (name : List UInt8)

/-- The default realm is meant. -/
def toDflt : Bool := name.isEmpty || t.isDflt name

def find : Option RealmParams :=
  if t.toDflt name then some t.dflt else t.own name

def set (rp : RealmParams) : RealmTable :=
  if t.toDflt name then { t with dflt := rp }
  else { t with own := Function.update t.own name (some rp) }

/-- The parameters are copied from the default realm; only the name and the map of counters are
new. -/
def newRealm : RealmParams :=
  { t.dflt with
    options := { t.dflt.options with name := name }
    allocCounters := fun _ => 0 }

/-- The realm, which is added if it is new. -/
def getRealm : RealmParams × RealmTable :=
  match t.find name with
  | some rp => (rp, t)
  | none => (t.newRealm name, t.set name (t.newRealm name))

def getRealmOptionsByName : RealmOptions × RealmTable :=
  let r := t.getRealm name
  (r.1.options, r.2)

end RealmTable

/-- The name under which a user is counted; OAuth users are not counted one by one. -/
def quotaUser (separator : Option UInt8) (user : List UInt8) (oauth : Bool) : List UInt8 :=
  if oauth then [] else getRealUsername separator user

/-- Count one more allocation of a user, when the quotas allow it. A user without an entry in the
map is not compared with the quota. -/
def RealmParams.take (rp : RealmParams) (user : List UInt8) : Option RealmParams :=
  let value := rp.allocCounters user
  if rp.options.totalQuota ≠ 0 ∧ rp.options.totalQuota ≤ rp.totalCurrentAllocs then none
  else if user = [] then some { rp with totalCurrentAllocs := rp.totalCurrentAllocs + 1 }
  else if value ≠ 0 ∧ rp.options.userQuota ≠ 0 ∧ rp.options.userQuota % 2 ^ 64 ≤ value then none
  else
    some
      { rp with
        totalCurrentAllocs := rp.totalCurrentAllocs + 1
        allocCounters := Function.update rp.allocCounters user (value + 1) }

/-- Count one allocation of a user less; no counter goes below 0. -/
def RealmParams.release (rp : RealmParams) (user : List UInt8) : RealmParams :=
  { rp with
    totalCurrentAllocs := rp.totalCurrentAllocs - 1
    allocCounters :=
      if user = [] then rp.allocCounters
      else Function.update rp.allocCounters user (rp.allocCounters user - 1) }

/-- `check_new_allocation_quota`: whether the quotas allow it, and the table. -/
def checkNewAllocationQuota (separator : Option UInt8) (t : RealmTable) (user : List UInt8)
    (oauth : Bool) (realm : List UInt8) : Bool × RealmTable :=
  let r := t.getRealm realm
  match r.1.take (quotaUser separator user oauth) with
  | none => (false, r.2)
  | some rp => (true, r.2.set realm rp)

/-- One allocation less. -/
def releaseAllocationQuota (separator : Option UInt8) (t : RealmTable) (user : List UInt8)
    (oauth : Bool) (realm : List UInt8) : RealmTable :=
  let r := t.getRealm realm
  r.2.set realm (r.1.release (quotaUser separator user oauth))

end Coturn
