import RustyCore.Library.Dict
import RustyCore.Library.Heap
import RustyCore.Model.ObjectGuid

/-! # Instance locks

A lock binds a player to one instance of a map until the lock expires. -/

namespace RustyCore.Instances

/-- A map id and the lock id of its difficulty. -/
abbrev InstanceLockKey := BitVec 32 × BitVec 32

/-- Unix seconds. -/
abbrev InstanceResetTime := BitVec 64

inductive MapDifficultyResetInterval where
  | anytime
  | daily
  | weekly
deriving DecidableEq

def MapDifficultyResetInterval.raidDurationSecs : MapDifficultyResetInterval → BitVec 64
  | daily => 86400
  | weekly => 604800
  | anytime => 0

structure InstanceLockData where
  data : String
  completedEncountersMask : BitVec 32
  entranceWorldSafeLocId : BitVec 32
deriving DecidableEq

def InstanceLockData.default : InstanceLockData := ⟨"", 0, 0⟩

structure SharedInstanceLockData where
  instanceId : BitVec 32
  data : InstanceLockData
deriving DecidableEq

def SharedInstanceLockData.default : SharedInstanceLockData := ⟨0, InstanceLockData.default⟩

/-- The address of a reference-counted `SharedInstanceLockData`. -/
abbrev SharedCell := ℕ

structure InstanceLock where
  mapId : BitVec 32
  difficultyId : BitVec 8
  instanceId : BitVec 32
  expiryTime : InstanceResetTime
  extended : Bool
  data : InstanceLockData
  isInUse : Bool
  isNew : Bool
  sharedData : Option SharedCell
deriving DecidableEq

structure MapDb2Entries where
  mapId : BitVec 32
  difficultyId : BitVec 8
  lockId : BitVec 32
  resetInterval : MapDifficultyResetInterval
  maxPlayers : BitVec 32
  isFlexLocking : Bool
  isUsingEncounterLocks : Bool
deriving DecidableEq

namespace MapDb2Entries

def key (entries : MapDb2Entries) : InstanceLockKey := (entries.mapId, entries.lockId)

def isInstanceIdBound (entries : MapDb2Entries) : Bool :=
  !entries.isFlexLocking && !entries.isUsingEncounterLocks

def hasResetSchedule (entries : MapDb2Entries) : Bool :=
  entries.resetInterval != .anytime

end MapDb2Entries

/-- The hour of the day and, Sunday being 0, the day of the week at which locks expire. -/
structure ResetSchedule where
  hour : BitVec 8
  weekDay : BitVec 8

/-- The day and the hour of the next reset. The source computes them on `i64` and `i32`,
far inside their ranges. -/
def nextResetDayHour (entries : MapDb2Entries) (schedule : ResetSchedule)
    (now : InstanceResetTime) : ℤ × ℤ :=
  let days : ℤ := (now.toNat / 86400 : ℕ)
  let hour : ℤ := (now.toNat % 86400 / 3600 : ℕ)
  let resetHour : ℤ := schedule.hour.toNat
  match entries.resetInterval with
  | .daily => (if hour ≥ resetHour then days + 1 else days, resetHour)
  | .weekly =>
    let resetDay : ℤ := schedule.weekDay.toNat
    let weekDay := (days + 4) % 7
    let daysAdjust :=
      if weekDay > resetDay ∨ (weekDay = resetDay ∧ hour ≥ resetHour) then
        resetDay - weekDay + 7
      else resetDay - weekDay
    (days + daysAdjust, resetHour)
  | .anytime => (days, hour)

/-- The product and the sum are those of `u64`. -/
def nextResetTimeAt (entries : MapDb2Entries) (schedule : ResetSchedule)
    (now : InstanceResetTime) : InstanceResetTime :=
  if entries.hasResetSchedule then
    let dayHour := nextResetDayHour entries schedule now
    BitVec.ofInt 64 dayHour.1 * 86400 + BitVec.ofInt 64 dayHour.2 * 3600
  else now

structure InstanceLockUpdateEvent where
  instanceId : BitVec 32
  newData : String
  instanceCompletedEncountersMask : BitVec 32
  completedEncounterBit : Option (BitVec 8)
  entranceWorldSafeLocId : Option (BitVec 32)

namespace InstanceLock

def new (mapId : BitVec 32) (difficultyId : BitVec 8) (expiryTime : InstanceResetTime)
    (instanceId : BitVec 32) : InstanceLock where
  mapId := mapId
  difficultyId := difficultyId
  instanceId := instanceId
  expiryTime := expiryTime
  extended := false
  data := InstanceLockData.default
  isInUse := false
  isNew := false
  sharedData := none

def newShared (mapId : BitVec 32) (difficultyId : BitVec 8) (expiryTime : InstanceResetTime)
    (instanceId : BitVec 32) (sharedData : SharedCell) : InstanceLock :=
  { new mapId difficultyId expiryTime instanceId with sharedData := some sharedData }

def isExpiredAt (lock : InstanceLock) (now : InstanceResetTime) : Bool :=
  decide (lock.expiryTime < now)

/-- The test `!lock.is_expired_at(now) || lock.extended` of the manager. -/
def isActiveAt (lock : InstanceLock) (now : InstanceResetTime) : Bool :=
  !lock.isExpiredAt now || lock.extended

def effectiveExpiryTimeAt (lock : InstanceLock) (entries : MapDb2Entries)
    (schedule : ResetSchedule) (now : InstanceResetTime) : InstanceResetTime :=
  if !lock.extended then lock.expiryTime
  else if lock.isExpiredAt now then nextResetTimeAt entries schedule now
  else lock.expiryTime + entries.resetInterval.raidDurationSecs

/-- A lock after a reset; the difference is that of `u64`. -/
def forceExpire (lock : InstanceLock) (entries : MapDb2Entries) (schedule : ResetSchedule)
    (now : InstanceResetTime) : InstanceLock :=
  { lock with
    expiryTime := nextResetTimeAt entries schedule now - entries.resetInterval.raidDurationSecs
    extended := false }

end InstanceLock

namespace InstanceLockData

/-- The bit, the data and the entrance of an event; `1_u32 << bit` shifts modulo 32. -/
def record (data : InstanceLockData) (updateEvent : InstanceLockUpdateEvent) :
    InstanceLockData where
  data := updateEvent.newData
  completedEncountersMask :=
    match updateEvent.completedEncounterBit with
    | some bit => data.completedEncountersMask ||| ((1 : BitVec 32) <<< (bit.toNat % 32))
    | none => data.completedEncountersMask
  entranceWorldSafeLocId :=
    updateEvent.entranceWorldSafeLocId.getD data.entranceWorldSafeLocId

/-- The mask of the whole instance, for locks that do not lock single encounters. -/
def recordInstanceMask (data : InstanceLockData) (entries : MapDb2Entries)
    (updateEvent : InstanceLockUpdateEvent) : InstanceLockData :=
  if !entries.isUsingEncounterLocks then
    { data with
      completedEncountersMask :=
        data.completedEncountersMask ||| updateEvent.instanceCompletedEncountersMask }
  else data

end InstanceLockData

/-- What `update_instance_lock_for_player_at` writes to the lock in force. -/
def InstanceLock.recordUpdate (lock : InstanceLock) (entries : MapDb2Entries)
    (updateEvent : InstanceLockUpdateEvent) (schedule : ResetSchedule)
    (now : InstanceResetTime) : InstanceLock :=
  { lock with
    instanceId := updateEvent.instanceId
    isNew := false
    data := (lock.data.record updateEvent).recordInstanceMask entries updateEvent
    expiryTime :=
      if lock.isExpiredAt now then nextResetTimeAt entries schedule now else lock.expiryTime
    extended := !lock.isExpiredAt now && lock.extended }

end RustyCore.Instances

/-! ## The instance lock manager -/

namespace RustyCore.Instances

/-- The manager together with the cells it shares between locks. `heldElsewhere` are the
cells of the lock clones that its callers hold. -/
structure InstanceLockMgr where
  temporaryInstanceLocksByPlayer : NestedDict ObjectGuid InstanceLockKey InstanceLock
  instanceLocksByPlayer : NestedDict ObjectGuid InstanceLockKey InstanceLock
  instanceLockDataById : Dict (BitVec 32) SharedCell
  loadedCharacterInstanceIds : List (BitVec 32)
  sharedCells : Heap SharedInstanceLockData
  heldElsewhere : List SharedCell

namespace InstanceLockMgr

def default : InstanceLockMgr where
  temporaryInstanceLocksByPlayer := ∅
  instanceLocksByPlayer := ∅
  instanceLockDataById := ∅
  loadedCharacterInstanceIds := []
  sharedCells := Heap.empty SharedInstanceLockData.default
  heldElsewhere := []

/-- Whether the strong count of a cell is positive. -/
def isReferenced (mgr : InstanceLockMgr) (cell : SharedCell) : Bool :=
  mgr.temporaryInstanceLocksByPlayer.anyValue (fun lock => lock.sharedData == some cell) ||
    mgr.instanceLocksByPlayer.anyValue (fun lock => lock.sharedData == some cell) ||
    mgr.heldElsewhere.contains cell

/-- `instance_lock_data_by_id.get(id).and_then(Weak::upgrade)`. -/
def upgradeShared (mgr : InstanceLockMgr) (instanceId : BitVec 32) : Option SharedCell :=
  (mgr.instanceLockDataById.lookup instanceId).filter mgr.isReferenced

/-- A new cell, registered under an instance id; its address is the old `next`. -/
def registerShared (mgr : InstanceLockMgr) (instanceId : BitVec 32)
    (sharedData : SharedInstanceLockData) : InstanceLockMgr :=
  { mgr with
    sharedCells := mgr.sharedCells.alloc sharedData
    instanceLockDataById :=
      AList.insert instanceId mgr.sharedCells.next mgr.instanceLockDataById }

def instanceInitializationData (mgr : InstanceLockMgr) (lock : InstanceLock) :
    InstanceLockData :=
  match lock.sharedData with
  | some cell => (mgr.sharedCells.read cell).data
  | none => lock.data

def findActiveInstanceLockInner (mgr : InstanceLockMgr) (playerGuid : ObjectGuid)
    (entries : MapDb2Entries) (now : InstanceResetTime) (ignoreTemporary ignoreExpired : Bool) :
    Option InstanceLock :=
  if !entries.hasResetSchedule then none
  else
    match (mgr.instanceLocksByPlayer.get playerGuid entries.key).filter
        (fun lock => !ignoreExpired || lock.isActiveAt now) with
    | some lock => some lock
    | none =>
      if ignoreTemporary then none
      else mgr.temporaryInstanceLocksByPlayer.get playerGuid entries.key

def findActiveInstanceLockAt (mgr : InstanceLockMgr) (playerGuid : ObjectGuid)
    (entries : MapDb2Entries) (now : InstanceResetTime) : Option InstanceLock :=
  mgr.findActiveInstanceLockInner playerGuid entries now false true

/-! ## Binding a lock to an instance -/

def setActiveInstanceLockInstanceIdAt (mgr : InstanceLockMgr) (playerGuid : ObjectGuid)
    (entries : MapDb2Entries) (now : InstanceResetTime) (instanceId : BitVec 32) :
    InstanceLockMgr × Bool :=
  if !entries.hasResetSchedule then (mgr, false)
  else if (mgr.instanceLocksByPlayer.get playerGuid entries.key).any
      (fun lock => lock.isActiveAt now) then
    ({ mgr with
      instanceLocksByPlayer := mgr.instanceLocksByPlayer.update playerGuid entries.key
        fun lock => { lock with instanceId := instanceId } }, true)
  else
    ({ mgr with
      temporaryInstanceLocksByPlayer :=
        mgr.temporaryInstanceLocksByPlayer.update playerGuid entries.key
          fun lock => { lock with instanceId := instanceId } },
      (mgr.temporaryInstanceLocksByPlayer.get playerGuid entries.key).isSome)

/-- The lock of a new instance; it always shares a new cell. -/
def newTemporaryLock (mgr : InstanceLockMgr) (entries : MapDb2Entries)
    (instanceId : BitVec 32) (schedule : ResetSchedule) (now : InstanceResetTime) :
    InstanceLockMgr × InstanceLock :=
  let expiryTime := nextResetTimeAt entries schedule now
  if entries.isInstanceIdBound then
    (mgr.registerShared instanceId SharedInstanceLockData.default,
      { InstanceLock.newShared entries.mapId entries.difficultyId expiryTime instanceId
          mgr.sharedCells.next with isNew := true })
  else
    (mgr, { InstanceLock.new entries.mapId entries.difficultyId expiryTime instanceId with
      isNew := true })

def createInstanceLockForNewInstanceAt (mgr : InstanceLockMgr) (playerGuid : ObjectGuid)
    (entries : MapDb2Entries) (instanceId : BitVec 32) (schedule : ResetSchedule)
    (now : InstanceResetTime) : InstanceLockMgr × Option InstanceLock :=
  if !entries.hasResetSchedule then (mgr, none)
  else
    let created := mgr.newTemporaryLock entries instanceId schedule now
    ({ created.1 with
      temporaryInstanceLocksByPlayer :=
        created.1.temporaryInstanceLocksByPlayer.put playerGuid entries.key created.2 },
      some created.2)

/-! ## Updates -/

/-- A permanent lock that is no longer in force makes way for the temporary lock of its
key, or is removed. -/
def replaceInactive (mgr : InstanceLockMgr) (playerGuid : ObjectGuid) (key : InstanceLockKey)
    (now : InstanceResetTime) : InstanceLockMgr :=
  if (mgr.instanceLocksByPlayer.get playerGuid key).any (fun lock => lock.isActiveAt now) then
    mgr
  else
    match mgr.temporaryInstanceLocksByPlayer.get playerGuid key with
    | some temp =>
      { mgr with
        temporaryInstanceLocksByPlayer :=
          (mgr.temporaryInstanceLocksByPlayer.remove playerGuid key).dropEmpty playerGuid
        instanceLocksByPlayer := mgr.instanceLocksByPlayer.put playerGuid key temp }
    | none =>
      { mgr with
        temporaryInstanceLocksByPlayer :=
          mgr.temporaryInstanceLocksByPlayer.dropEmpty playerGuid
        instanceLocksByPlayer := mgr.instanceLocksByPlayer.remove playerGuid key }

/-- The cell of an instance id, new if no lock shares one yet. -/
def sharedCellFor (mgr : InstanceLockMgr) (instanceId : BitVec 32) :
    InstanceLockMgr × SharedCell :=
  match mgr.upgradeShared instanceId with
  | some cell => (mgr, cell)
  | none =>
    (mgr.registerShared instanceId ⟨instanceId, InstanceLockData.default⟩,
      mgr.sharedCells.next)

/-- The lock that an update creates for an instance id. -/
def newPermanentLock (mgr : InstanceLockMgr) (entries : MapDb2Entries)
    (instanceId : BitVec 32) (schedule : ResetSchedule) (now : InstanceResetTime) :
    InstanceLockMgr × InstanceLock :=
  let expiryTime := nextResetTimeAt entries schedule now
  if entries.isInstanceIdBound then
    let shared := mgr.sharedCellFor instanceId
    (shared.1, InstanceLock.newShared entries.mapId entries.difficultyId expiryTime instanceId
      shared.2)
  else (mgr, InstanceLock.new entries.mapId entries.difficultyId expiryTime instanceId)

/-- A key without a permanent lock gets a new one. -/
def createMissing (mgr : InstanceLockMgr) (playerGuid : ObjectGuid) (entries : MapDb2Entries)
    (instanceId : BitVec 32) (schedule : ResetSchedule) (now : InstanceResetTime) :
    InstanceLockMgr :=
  if (mgr.instanceLocksByPlayer.get playerGuid entries.key).isSome then mgr
  else
    let created := mgr.newPermanentLock entries instanceId schedule now
    { created.1 with
      instanceLocksByPlayer :=
        created.1.instanceLocksByPlayer.put playerGuid entries.key created.2 }

def updateInstanceLockForPlayerAt (mgr : InstanceLockMgr) (playerGuid : ObjectGuid)
    (entries : MapDb2Entries) (updateEvent : InstanceLockUpdateEvent)
    (schedule : ResetSchedule) (now : InstanceResetTime) :
    InstanceLockMgr × Option InstanceLock :=
  if !entries.hasResetSchedule then (mgr, none)
  else
    let prepared := (mgr.replaceInactive playerGuid entries.key now).createMissing playerGuid
      entries updateEvent.instanceId schedule now
    let updated := { prepared with
      instanceLocksByPlayer := prepared.instanceLocksByPlayer.update playerGuid entries.key
        fun lock => lock.recordUpdate entries updateEvent schedule now }
    (updated, updated.instanceLocksByPlayer.get playerGuid entries.key)

/-- The data of the cell after the event; the cell has to be alive. -/
def updateSharedInstanceLock (mgr : InstanceLockMgr) (updateEvent : InstanceLockUpdateEvent) :
    InstanceLockMgr × Option SharedInstanceLockData :=
  match mgr.upgradeShared updateEvent.instanceId with
  | none => (mgr, none)
  | some cell =>
    let cells := mgr.sharedCells.modify cell fun shared =>
      ⟨updateEvent.instanceId, shared.data.record updateEvent⟩
    ({ mgr with sharedCells := cells }, some (cells.read cell))

/-! ## Extension and reset -/

def updateInstanceLockExtensionForPlayerAt (mgr : InstanceLockMgr) (playerGuid : ObjectGuid)
    (entries : MapDb2Entries) (extended : Bool) (schedule : ResetSchedule)
    (now : InstanceResetTime) :
    InstanceLockMgr × Option (InstanceResetTime × InstanceResetTime) :=
  match (mgr.instanceLocksByPlayer.get playerGuid entries.key).filter
      (fun lock => lock.isActiveAt now) with
  | none => (mgr, none)
  | some lock =>
    ({ mgr with
      instanceLocksByPlayer := mgr.instanceLocksByPlayer.update playerGuid entries.key
        fun lock => { lock with extended := extended } },
      some (lock.effectiveExpiryTimeAt entries schedule now,
        { lock with extended := extended }.effectiveExpiryTimeAt entries schedule now))

/-- Which locks a reset looks at. -/
def resetSelects (mapId : Option (BitVec 32)) (difficultyId : Option (BitVec 8))
    (now : InstanceResetTime) (lock : InstanceLock) : Bool :=
  mapId.all (fun expected => expected == lock.mapId) &&
    difficultyId.all (fun expected => expected == lock.difficultyId) && !lock.isExpiredAt now

/-- The lock that a reset leaves in place of `lock`, if it resets it. -/
def resetTo (mapId : Option (BitVec 32)) (difficultyId : Option (BitVec 8))
    (entriesByKey : Dict InstanceLockKey MapDb2Entries) (schedule : ResetSchedule)
    (now : InstanceResetTime) (key : InstanceLockKey) (lock : InstanceLock) :
    Option InstanceLock :=
  if resetSelects mapId difficultyId now lock && !lock.isInUse then
    (entriesByKey.lookup key).map fun entries => lock.forceExpire entries schedule now
  else none

structure InstanceLockResetResult where
  reset : List InstanceLock
  failedToReset : List InstanceLock

def resetInstanceLocksForPlayerAt (mgr : InstanceLockMgr) (playerGuid : ObjectGuid)
    (mapId : Option (BitVec 32)) (difficultyId : Option (BitVec 8))
    (entriesByKey : Dict InstanceLockKey MapDb2Entries) (schedule : ResetSchedule)
    (now : InstanceResetTime) : InstanceLockMgr × InstanceLockResetResult :=
  match mgr.instanceLocksByPlayer.lookup playerGuid with
  | none => (mgr, ⟨[], []⟩)
  | some playerLocks =>
    let resetLock := resetTo mapId difficultyId entriesByKey schedule now
    ({ mgr with
      instanceLocksByPlayer := AList.insert playerGuid
        (Dict.mapValues (fun key lock => (resetLock key lock).getD lock) playerLocks)
        mgr.instanceLocksByPlayer },
      { reset := playerLocks.entries.filterMap fun entry => resetLock entry.1 entry.2
        failedToReset := playerLocks.values.filter fun lock =>
          resetSelects mapId difficultyId now lock && lock.isInUse })

end InstanceLockMgr

end RustyCore.Instances
