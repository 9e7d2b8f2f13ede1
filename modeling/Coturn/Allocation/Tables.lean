/-
# Permissions and channels of an allocation

The permissions (hashed by the peer's IP) and the channels (hashed by their number) of
`server/ns_turn_allocation.c`, with their lifetimes, sweep and requests from
`server/ns_turn_server.c`. Both tables have eight rows of slots, which are never moved and are used
again when they are free. A channel points to the permission that owns it, and the permission points
back from its port map; a pointer is the place of a slot.
-/
import Coturn.Ioaddr
import Coturn.LmMap

namespace Coturn

/-- A pointer to a permission. -/
abbrev PermPtr := SlotTable.Place 8

/-- A pointer to a channel. -/
abbrev ChPtr := SlotTable.Place 8

/-- `ch_info`. -/
structure ChInfo where
  chnum : UInt16
  allocated : Bool
  port : UInt16
  peerAddr : IoaAddr
  expirationTime : UInt32
  owner : Option PermPtr

/-- `turn_permission_info`. -/
structure TurnPermissionInfo where
  allocated : Bool
  /-- The channels of the permission, by the port of the peer. -/
  chns : LmMap ChPtr
  addr : IoaAddr
  expirationTime : UInt32
  /-- The `owner` pointer is set; it can only point to the allocation that holds the table. -/
  owned : Bool

/-- `addr_to_perm` and `chns` of an allocation. -/
structure AddrTables where
  addrToPerm : SlotTable 8 TurnPermissionInfo
  chns : SlotTable 8 ChInfo

/-- A slot after `memset(…, 0, …)`. -/
def ChInfo.empty : ChInfo := ⟨0, false, 0, .unset, 0, none⟩

def TurnPermissionInfo.empty : TurnPermissionInfo := ⟨false, lmMapInit, .unset, 0, false⟩

/-- A permission that is added. -/
def TurnPermissionInfo.new (addr : IoaAddr) : TurnPermissionInfo :=
  { TurnPermissionInfo.empty with allocated := true, addr := addr, owned := true }

def AddrTables.init : AddrTables where
  addrToPerm := ⟨fun _ => List.replicate 3 .empty⟩
  chns := ⟨fun _ => List.replicate 3 .empty⟩

/-! ## Looking up and adding -/

/-- The row of a permission. -/
def permIndex (addr : IoaAddr) : Fin 8 :=
  ⟨(addrHashNoPort addr).toNat % 8, Nat.mod_lt _ (by decide)⟩

/-- The row of a channel number. -/
def chIndex (chnum : UInt16) : Fin 8 := ⟨chnum.toNat % 8, Nat.mod_lt _ (by decide)⟩

/-- `STUN_VALID_CHANNEL`. -/
def stunValidChannel (chnum : UInt16) : Bool := 0x4000 ≤ chnum.toNat && chnum.toNat ≤ 0x7FFF

section

variable (a : AddrTables)

/-- The permission for the IP of the address. -/
def allocationGetPermission (addr : IoaAddr) : Option PermPtr :=
  a.addrToPerm.find? (permIndex addr) fun info => info.allocated && addrEqNoPort info.addr addr

def allocationCountPermissions : ℕ :=
  a.addrToPerm.slots.countP fun info => info.allocated

def turnMaxPermissionsPerAllocation : ℕ := 1024

/-- The tables with a new permission in the first free slot of its row. -/
abbrev AddrTables.addPerm (addr : IoaAddr) : AddrTables :=
  { a with
    addrToPerm := a.addrToPerm.fill (permIndex addr) (fun info => !info.allocated) (.new addr) }

/-- The first free slot of the row is used, or a new one when there are fewer permissions than the
cap. -/
def allocationAddPermission (addr : IoaAddr) : Option PermPtr × AddrTables :=
  let i := permIndex addr
  let isFree : TurnPermissionInfo → Bool := fun info => !info.allocated
  if (a.addrToPerm.find? i isFree).isNone &&
      turnMaxPermissionsPerAllocation ≤ allocationCountPermissions a then (none, a)
  else
    (some (a.addrToPerm.freePlace i isFree), a.addPerm addr)

/-- The permission of an address, which is added when there is none. -/
def getOrAddPermission (addr : IoaAddr) : Option PermPtr × AddrTables :=
  match allocationGetPermission a addr with
  | some tinfo => (some tinfo, a)
  | none => allocationAddPermission a addr

/-- The channel with the number. -/
def allocationGetChInfo (chnum : UInt16) : Option ChPtr :=
  a.chns.find? (chIndex chnum) fun c => c.allocated && c.chnum == chnum

/-- The channel of a permission for the port of `addr`. -/
def getTurnChannel (tinfo : TurnPermissionInfo) (addr : IoaAddr) : Option ChPtr :=
  ((lmMapGet tinfo.chns (addrGetPort addr).toNat).join).filter fun c =>
    (a.chns.get? c).any fun chn => stunValidChannel chn.chnum

/-- The number of the channel for the port, or 0. -/
def getTurnChannelNumber (tinfo : TurnPermissionInfo) (addr : IoaAddr) : UInt16 :=
  ((getTurnChannel a tinfo addr).bind a.chns.get?).elim 0 ChInfo.chnum

/-- The channel of the peer. -/
def allocationGetChInfoByPeerAddr (peerAddr : IoaAddr) : Option ChPtr :=
  ((allocationGetPermission a peerAddr).bind a.addrToPerm.get?).bind fun tinfo =>
    getTurnChannel a tinfo peerAddr

/-- The second half of `allocation_get_new_ch_info`: the new channel and its entry in the port map.
-/
def addChInfo (tinfo : PermPtr) (chnum : UInt16) (peerAddr : IoaAddr) : ChPtr × AddrTables :=
  let i := chIndex chnum
  let isFree : ChInfo → Bool := fun c => !c.allocated
  let chn := a.chns.freePlace i isFree
  let slot := (a.chns.get? chn).getD ChInfo.empty
  (chn,
    { addrToPerm := a.addrToPerm.modify tinfo fun info =>
        { info with chns := (lmMapPut info.chns (addrGetPort peerAddr).toNat chn).2 }
      chns := a.chns.fill i isFree
        { slot with
          allocated := true
          chnum := chnum
          port := addrGetPort peerAddr
          peerAddr := peerAddr
          owner := some tinfo } })

/-- A new channel, with a permission for it. -/
def allocationGetNewChInfo (chnum : UInt16) (peerAddr : IoaAddr) : Option ChPtr × AddrTables :=
  match getOrAddPermission a peerAddr with
  | (none, a) => (none, a)
  | (some tinfo, a) =>
    let (chn, a) := addChInfo a tinfo chnum peerAddr
    (some chn, a)

/-! ## Removing -/

/-- The slot of the channel is cleared. -/
def chInfoClean (chns : SlotTable 8 ChInfo) (c : ChPtr) : SlotTable 8 ChInfo :=
  chns.modify c fun _ => ChInfo.empty

/-- Clean the channels of the port map, then the permission itself. -/
def turnPermissionClean (tinfo : PermPtr) : AddrTables :=
  match a.addrToPerm.get? tinfo with
  | none => a
  | some info =>
    if !info.allocated then a
    else
      { addrToPerm := a.addrToPerm.modify tinfo fun _ => TurnPermissionInfo.empty
        chns := (lmMapValues info.chns).foldl chInfoClean a.chns }

/-- Remove the channel from the port map of its owner, then clean it. -/
def turnChannelDelete (c : ChPtr) : AddrTables :=
  match a.chns.get? c with
  | none => a
  | some chn =>
    let port := addrGetPort chn.peerAddr
    { addrToPerm := chn.owner.elim a.addrToPerm fun tinfo =>
        a.addrToPerm.modify tinfo fun info => { info with chns := (lmMapDel info.chns port.toNat).2 }
      chns := chInfoClean a.chns c }

end

/-! ## Lifetimes -/

/-- The clock and the configured lifetimes, converted to `turn_time_t`. -/
structure ServerClock where
  ctime : UInt32
  permissionLifetime : UInt32
  channelLifetime : UInt32

/-- The lifetime that `update_channel_lifetime` gives to the permission: 0 stands for that of
permissions. -/
def ServerClock.channelPermLifetime (clk : ServerClock) : UInt32 :=
  if clk.channelLifetime = 0 then clk.permissionLifetime else clk.channelLifetime

/-- The difference as a signed number is negative. -/
def turnTimeBefore (t1 t2 : UInt32) : Bool := 0x80000000 ≤ (t1 - t2).toNat

variable (ctime : UInt32) (clk : ServerClock) (a : AddrTables)

/-- The tables with the deadline `t` for a permission. -/
abbrev AddrTables.touchPerm (r : PermPtr) (t : UInt32) : AddrTables :=
  { a with addrToPerm := a.addrToPerm.modify r fun info => { info with expirationTime := t } }

/-- The tables with the deadline `t` for a channel. -/
abbrev AddrTables.touchCh (c : ChPtr) (t : UInt32) : AddrTables :=
  { a with chns := a.chns.modify c fun chn => { chn with expirationTime := t } }

/-- A new deadline; 0 stands for the default. -/
def updateTurnPermissionLifetime (tinfo : PermPtr) (timeDelta : UInt32) : Bool × AddrTables :=
  if (a.addrToPerm.get? tinfo).any TurnPermissionInfo.owned then
    let timeDelta := if timeDelta = 0 then clk.permissionLifetime else timeDelta
    (true, a.touchPerm tinfo (clk.ctime + timeDelta))
  else (false, a)

/-- The permission of the channel gets the lifetime of channels too. -/
def updateChannelLifetime (chn : ChPtr) : Bool × AddrTables :=
  match (a.chns.get? chn).bind ChInfo.owner with
  | none => (false, a)
  | some tinfo =>
    match updateTurnPermissionLifetime clk a tinfo clk.channelLifetime with
    | (false, a) => (false, a)
    | (true, a) => (true, a.touchCh chn (clk.ctime + clk.channelLifetime))

/-- The timer of a channel. -/
def clientSsChannelTimeoutHandler (chn : ChPtr) : AddrTables :=
  turnChannelDelete a chn

/-- The timer of a permission. -/
def clientSsPermTimeoutHandler (tinfo : PermPtr) : AddrTables :=
  turnPermissionClean a tinfo

/-- The sweep comes to a permission. -/
def sweepPermission (tinfo : PermPtr) : AddrTables :=
  if (a.addrToPerm.get? tinfo).any fun info =>
      info.allocated && turnTimeBefore info.expirationTime ctime then
    clientSsPermTimeoutHandler a tinfo
  else a

/-- The sweep comes to a channel. -/
def sweepChannel (chn : ChPtr) : AddrTables :=
  if (a.chns.get? chn).any fun c => c.allocated && turnTimeBefore c.expirationTime ctime then
    clientSsChannelTimeoutHandler a chn
  else a

/-- `sweep_allocation_timed_events` on a valid allocation: permissions first, with their channels.
-/
def sweepAllocationTimedEvents : AddrTables :=
  let a := a.addrToPerm.places.foldl (sweepPermission ctime) a
  a.chns.places.foldl (sweepChannel ctime) a

/-! ## What the requests do to the tables -/

/-- `err_code` and `reason` of a request that fails. -/
structure TurnError where
  code : ℕ
  reason : Option String
  deriving DecidableEq

/-- `update_permission`: add or refresh the permission, and refresh its channel for the port of
`peerAddr`, if any. -/
def updatePermission (peerAddr : IoaAddr) : Bool × AddrTables :=
  match getOrAddPermission a peerAddr with
  | (none, a) => (false, a)
  | (some tinfo, a) =>
    match updateTurnPermissionLifetime clk a tinfo 0 with
    | (false, a) => (false, a)
    | (true, a) =>
      match (a.addrToPerm.get? tinfo).bind fun info => getTurnChannel a info peerAddr with
      | none => (true, a)
      | some chn => updateChannelLifetime clk a chn

/-- The checks of a ChannelBind request for a channel number that is in use. -/
def checkBoundChannel (chn : ChInfo) (peerAddr : IoaAddr) : Option TurnError :=
  if !addrEq peerAddr chn.peerAddr then
    some ⟨400, some "You cannot use the same channel number with different peer"⟩
  else
    match chn.owner.bind a.addrToPerm.get? with
    | none => some ⟨500, some "Wrong permission info"⟩
    | some tinfo =>
      if !addrEqNoPort peerAddr tinfo.addr then
        some ⟨500, some "Wrong permission info and peer addr combination"⟩
      else if chn.port != addrGetPort peerAddr then some ⟨500, some "Wrong port number"⟩
      else none

/-- The end of a ChannelBind request. -/
def refreshChannel (chn : ChPtr) : Option TurnError × AddrTables :=
  match updateChannelLifetime clk a chn with
  | (false, a) => (some ⟨500, some "Cannot update channel lifetime (internal error)"⟩, a)
  | (true, a) => (none, a)

/-- `handle_turn_channel_bind` behind its loop; `addrFound` says that a peer address with a port was
read. -/
def bindChannel (goodPeer : IoaAddr → Bool) (a : AddrTables) (chnum : UInt16) (peerAddr : IoaAddr)
    (addrFound : Bool) : Option TurnError × AddrTables :=
  if chnum == 0 || addrAny peerAddr || !addrFound then
    (some ⟨400, some "Bad channel bind request"⟩, a)
  else if !stunValidChannel chnum then (some ⟨400, some "Bad channel number"⟩, a)
  else
    match allocationGetChInfo a chnum with
    | some c =>
      match (a.chns.get? c).bind fun chn => checkBoundChannel a chn peerAddr with
      | some e => (some e, a)
      | none => refreshChannel clk a c
    | none =>
      if (allocationGetChInfoByPeerAddr a peerAddr).isSome then
        (some ⟨400, some "You cannot use the same peer with different channel number"⟩, a)
      else if !goodPeer peerAddr then (some ⟨403, some "Forbidden IP"⟩, a)
      else
        match allocationGetNewChInfo a chnum peerAddr with
        | (none, a) => (some ⟨500, some "Cannot find channel data"⟩, a)
        | (some c, a) =>
          match (a.chns.get? c).bind ChInfo.owner with
          | none => (some ⟨500, some "Wrong turn permission info"⟩, a)
          | some _ => refreshChannel clk a c

/-- The second loop of `handle_turn_create_permission`; a failure does not stop it. Says whether all
permissions were updated. -/
def createPermissions (clk : ServerClock) (a : AddrTables) : List IoaAddr → Bool × AddrTables
  | [] => (true, a)
  | peer :: peers =>
    let r := updatePermission clk a (addrSetPort 0 peer)
    let rs := createPermissions clk r.2 peers
    (r.1 && rs.1, rs.2)

end Coturn
