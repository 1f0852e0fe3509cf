import RustyCore.Library.KeyedTable
import RustyCore.Model.Instances.InstanceLock

/-! # Persistence of instance locks

The mutations that the manager emits, the two tables they are applied to, and the loader
that rebuilds a manager from the rows. -/

namespace RustyCore.Instances

structure SharedInstanceLockRow where
  instanceId : BitVec 32
  data : InstanceLockData
deriving DecidableEq

structure CharacterInstanceLockRow where
  playerGuidCounter : BitVec 64
  mapId : BitVec 32
  lockId : BitVec 32
  instanceId : BitVec 32
  difficultyId : BitVec 8
  data : InstanceLockData
  expiryTime : BitVec 64
  extended : Bool
deriving DecidableEq

/-- What the `WHERE` of a character lock statement compares. -/
abbrev CharacterLockKey := BitVec 64 × InstanceLockKey

def CharacterInstanceLockRow.key (row : CharacterInstanceLockRow) : CharacterLockKey :=
  (row.playerGuidCounter, row.mapId, row.lockId)

inductive InstanceLockPersistenceMutation where
  | deleteCharacterLock (playerGuidCounter : BitVec 64) (mapId lockId : BitVec 32)
  | insertCharacterLock (row : CharacterInstanceLockRow)
  | deleteSharedInstance (instanceId : BitVec 32)
  | insertSharedInstance (row : SharedInstanceLockRow)
  | updateCharacterLockExtension (extended : Bool) (playerGuidCounter : BitVec 64)
      (mapId lockId : BitVec 32)
  | forceExpireCharacterLock (expiryTime : BitVec 64) (playerGuidCounter : BitVec 64)
      (mapId lockId : BitVec 32)

/-- The `instance` and the `character_instance_lock` table. -/
structure InstanceLockTables where
  shared : RowTable SharedInstanceLockRow
  character : RowTable CharacterInstanceLockRow

namespace InstanceLockTables

def empty : InstanceLockTables := ⟨[], []⟩

/-- The statement of a mutation. -/
def apply (tables : InstanceLockTables) :
    InstanceLockPersistenceMutation → InstanceLockTables
  | .deleteCharacterLock playerGuidCounter mapId lockId =>
    { tables with
      character := RowTable.deleteAt CharacterInstanceLockRow.key
        (playerGuidCounter, mapId, lockId) tables.character }
  | .insertCharacterLock row =>
    { tables with character := RowTable.insertRow tables.character row }
  | .deleteSharedInstance instanceId =>
    { tables with
      shared := RowTable.deleteAt SharedInstanceLockRow.instanceId instanceId tables.shared }
  | .insertSharedInstance row =>
    { tables with shared := RowTable.insertRow tables.shared row }
  | .updateCharacterLockExtension extended playerGuidCounter mapId lockId =>
    { tables with
      character := RowTable.updateAt CharacterInstanceLockRow.key
        (playerGuidCounter, mapId, lockId) (fun row => { row with extended := extended })
        tables.character }
  | .forceExpireCharacterLock expiryTime playerGuidCounter mapId lockId =>
    { tables with
      character := RowTable.updateAt CharacterInstanceLockRow.key
        (playerGuidCounter, mapId, lockId)
        (fun row => { row with expiryTime := expiryTime, extended := false })
        tables.character }

def applyAll (tables : InstanceLockTables) (mutations : List InstanceLockPersistenceMutation) :
    InstanceLockTables :=
  mutations.foldl apply tables

end InstanceLockTables

/-! ## Mutations -/

def deleteCharacterInstanceLockMutation (playerGuid : ObjectGuid) (entries : MapDb2Entries) :
    InstanceLockPersistenceMutation :=
  .deleteCharacterLock playerGuid.counter entries.mapId entries.lockId

def insertCharacterInstanceLockMutation (playerGuid : ObjectGuid) (entries : MapDb2Entries)
    (lock : InstanceLock) : InstanceLockPersistenceMutation :=
  .insertCharacterLock
    { playerGuidCounter := playerGuid.counter
      mapId := entries.mapId
      lockId := entries.lockId
      instanceId := lock.instanceId
      difficultyId := entries.difficultyId
      data := lock.data
      expiryTime := lock.expiryTime
      extended := lock.extended }

def updateCharacterInstanceLockExtensionMutation (playerGuid : ObjectGuid)
    (entries : MapDb2Entries) (extended : Bool) : InstanceLockPersistenceMutation :=
  .updateCharacterLockExtension extended playerGuid.counter entries.mapId entries.lockId

def forceExpireCharacterInstanceLockMutation (playerGuid : ObjectGuid)
    (entries : MapDb2Entries) (expiryTime : InstanceResetTime) :
    InstanceLockPersistenceMutation :=
  .forceExpireCharacterLock expiryTime playerGuid.counter entries.mapId entries.lockId

def deleteInstanceMutation (instanceId : BitVec 32) : InstanceLockPersistenceMutation :=
  .deleteSharedInstance instanceId

def insertInstanceMutation (sharedData : SharedInstanceLockData) :
    InstanceLockPersistenceMutation :=
  .insertSharedInstance ⟨sharedData.instanceId, sharedData.data⟩

namespace InstanceLockMgr

/-! ## Operations with their mutations -/

def updateInstanceLockForPlayerWithPersistenceAt (mgr : InstanceLockMgr)
    (playerGuid : ObjectGuid) (entries : MapDb2Entries) (updateEvent : InstanceLockUpdateEvent)
    (schedule : ResetSchedule) (now : InstanceResetTime) :
    InstanceLockMgr × List InstanceLockPersistenceMutation :=
  let updated := mgr.updateInstanceLockForPlayerAt playerGuid entries updateEvent schedule now
  match updated.2 with
  | none => (updated.1, [])
  | some lock =>
    (updated.1, [deleteCharacterInstanceLockMutation playerGuid entries,
      insertCharacterInstanceLockMutation playerGuid entries lock])

def updateSharedInstanceLockWithPersistence (mgr : InstanceLockMgr)
    (updateEvent : InstanceLockUpdateEvent) :
    InstanceLockMgr × List InstanceLockPersistenceMutation :=
  let updated := mgr.updateSharedInstanceLock updateEvent
  match updated.2 with
  | none => (updated.1, [])
  | some sharedData =>
    (updated.1, [deleteInstanceMutation sharedData.instanceId,
      insertInstanceMutation sharedData])

def cleanupUnreferencedSharedInstanceLockData (mgr : InstanceLockMgr)
    (instanceId : BitVec 32) : InstanceLockMgr × List InstanceLockPersistenceMutation :=
  match mgr.instanceLockDataById.lookup instanceId with
  | none => (mgr, [])
  | some cell =>
    if mgr.isReferenced cell then (mgr, [])
    else
      ({ mgr with instanceLockDataById := AList.erase instanceId mgr.instanceLockDataById },
        [deleteInstanceMutation instanceId])

def updateInstanceLockExtensionForPlayerWithPersistenceAt (mgr : InstanceLockMgr)
    (playerGuid : ObjectGuid) (entries : MapDb2Entries) (extended : Bool)
    (schedule : ResetSchedule) (now : InstanceResetTime) :
    InstanceLockMgr × List InstanceLockPersistenceMutation :=
  let updated :=
    mgr.updateInstanceLockExtensionForPlayerAt playerGuid entries extended schedule now
  match updated.2 with
  | none => (updated.1, [])
  | some _ =>
    (updated.1, [updateCharacterInstanceLockExtensionMutation playerGuid entries extended])

/-- The entries that a reset of `lock` is written with: the first of the map and difficulty
of the lock, whatever key they are filed under. -/
def resetEntries (entriesByKey : Dict InstanceLockKey MapDb2Entries) (lock : InstanceLock) :
    Option MapDb2Entries :=
  entriesByKey.values.find? fun entries =>
    entries.mapId == lock.mapId && entries.difficultyId == lock.difficultyId

def resetInstanceLocksForPlayerWithPersistenceAt (mgr : InstanceLockMgr)
    (playerGuid : ObjectGuid) (mapId : Option (BitVec 32)) (difficultyId : Option (BitVec 8))
    (entriesByKey : Dict InstanceLockKey MapDb2Entries) (schedule : ResetSchedule)
    (now : InstanceResetTime) : InstanceLockMgr × List InstanceLockPersistenceMutation :=
  let result := mgr.resetInstanceLocksForPlayerAt playerGuid mapId difficultyId entriesByKey
    schedule now
  (result.1, result.2.reset.filterMap fun lock =>
    (resetEntries entriesByKey lock).map fun entries =>
      forceExpireCharacterInstanceLockMutation playerGuid entries lock.expiryTime)

/-! ## Loading -/

structure MissingSharedInstanceData where
  playerGuidCounter : BitVec 64
  instanceId : BitVec 32

/-- The cells of the rows read so far are kept alive by the loader. -/
def loadSharedRow (acc : InstanceLockMgr × Dict (BitVec 32) SharedCell)
    (row : SharedInstanceLockRow) : InstanceLockMgr × Dict (BitVec 32) SharedCell :=
  (acc.1.registerShared row.instanceId ⟨row.instanceId, row.data⟩,
    AList.insert row.instanceId acc.1.sharedCells.next acc.2)

/-- What the loader assumes about a map that the stores do not know. -/
def unknownEntries (row : CharacterInstanceLockRow) : MapDb2Entries where
  mapId := row.mapId
  difficultyId := row.difficultyId
  lockId := row.lockId
  resetInterval := .anytime
  maxPlayers := 0
  isFlexLocking := true
  isUsingEncounterLocks := true

/-- The lock of a row, or `none` if the data it shares is missing. -/
def loadedLock (sharedDataById : Dict (BitVec 32) SharedCell) (entries : MapDb2Entries)
    (row : CharacterInstanceLockRow) : Option InstanceLock :=
  if entries.isInstanceIdBound then
    (sharedDataById.lookup row.instanceId).map fun cell =>
      { InstanceLock.newShared row.mapId row.difficultyId row.expiryTime row.instanceId cell with
        data := row.data
        extended := row.extended }
  else
    some { InstanceLock.new row.mapId row.difficultyId row.expiryTime row.instanceId with
      data := row.data
      extended := row.extended }

def loadCharacterRow (sharedDataById : Dict (BitVec 32) SharedCell)
    (entriesFor : BitVec 32 → BitVec 8 → Option MapDb2Entries)
    (acc : InstanceLockMgr × List MissingSharedInstanceData)
    (row : CharacterInstanceLockRow) : InstanceLockMgr × List MissingSharedInstanceData :=
  let noted := { acc.1 with
    loadedCharacterInstanceIds := acc.1.loadedCharacterInstanceIds ++ [row.instanceId] }
  let entries := (entriesFor row.mapId row.difficultyId).getD (unknownEntries row)
  match loadedLock sharedDataById entries row with
  | none => (noted, acc.2 ++ [⟨row.playerGuidCounter, row.instanceId⟩])
  | some lock =>
    ({ noted with
      instanceLocksByPlayer := noted.instanceLocksByPlayer.put
        (ObjectGuid.createGlobal ObjectGuid.highGuidPlayer 0 row.playerGuidCounter)
        (row.mapId, row.lockId) lock }, acc.2)

def loadFromRows (mgr : InstanceLockMgr) (sharedRows : List SharedInstanceLockRow)
    (characterRows : List CharacterInstanceLockRow)
    (entriesFor : BitVec 32 → BitVec 8 → Option MapDb2Entries) :
    InstanceLockMgr × List MissingSharedInstanceData :=
  let cleared := { mgr with
    temporaryInstanceLocksByPlayer := ∅
    instanceLocksByPlayer := ∅
    instanceLockDataById := ∅
    loadedCharacterInstanceIds := [] }
  let shared := sharedRows.foldl loadSharedRow (cleared, ∅)
  characterRows.foldl (loadCharacterRow shared.2 entriesFor) (shared.1, [])

end InstanceLockMgr

/-! ## Runs -/

/-- A step of the server: an operation of the manager, whose mutations are applied, or a
caller that takes or drops a clone of a lock. Players are named by realm and counter. -/
inductive InstanceLockCall where
  | createForNewInstance (realm : BitVec 16) (counter : BitVec 64) (entries : MapDb2Entries)
      (instanceId : BitVec 32) (schedule : ResetSchedule) (now : InstanceResetTime)
  | setActiveInstanceId (realm : BitVec 16) (counter : BitVec 64) (entries : MapDb2Entries)
      (now : InstanceResetTime) (instanceId : BitVec 32)
  | update (realm : BitVec 16) (counter : BitVec 64) (entries : MapDb2Entries)
      (updateEvent sharedEvent : InstanceLockUpdateEvent) (schedule : ResetSchedule)
      (now : InstanceResetTime)
  | updateShared (updateEvent : InstanceLockUpdateEvent)
  | updateExtension (realm : BitVec 16) (counter : BitVec 64) (entries : MapDb2Entries)
      (extended : Bool) (schedule : ResetSchedule) (now : InstanceResetTime)
  | reset (realm : BitVec 16) (counter : BitVec 64) (mapId : Option (BitVec 32))
      (difficultyId : Option (BitVec 8)) (entriesByKey : Dict InstanceLockKey MapDb2Entries)
      (schedule : ResetSchedule) (now : InstanceResetTime)
  | cleanup (instanceId : BitVec 32)
  | holdClone (cell : SharedCell)
  | dropClone (cell : SharedCell)

/-- The manager and the tables. -/
structure InstanceLockServer where
  mgr : InstanceLockMgr
  tables : InstanceLockTables

namespace InstanceLockServer

def initial : InstanceLockServer := ⟨InstanceLockMgr.default, InstanceLockTables.empty⟩

/-- Take over what an operation returns. -/
def commit (server : InstanceLockServer)
    (result : InstanceLockMgr × List InstanceLockPersistenceMutation) : InstanceLockServer :=
  ⟨result.1, server.tables.applyAll result.2⟩

/-- The update of a lock that is bound to an instance id is followed by the update of the
shared data of that instance. -/
def updateBoth (server : InstanceLockServer) (playerGuid : ObjectGuid)
    (entries : MapDb2Entries) (updateEvent sharedEvent : InstanceLockUpdateEvent)
    (schedule : ResetSchedule) (now : InstanceResetTime) : InstanceLockServer :=
  let updated := server.commit (server.mgr.updateInstanceLockForPlayerWithPersistenceAt
    playerGuid entries updateEvent schedule now)
  if entries.hasResetSchedule && entries.isInstanceIdBound then
    updated.commit (updated.mgr.updateSharedInstanceLockWithPersistence
      { sharedEvent with instanceId := updateEvent.instanceId })
  else updated

def call (server : InstanceLockServer) : InstanceLockCall → InstanceLockServer
  | .createForNewInstance realm counter entries instanceId schedule now =>
    { server with
      mgr := (server.mgr.createInstanceLockForNewInstanceAt
        (ObjectGuid.createPlayer realm counter) entries instanceId schedule now).1 }
  | .setActiveInstanceId realm counter entries now instanceId =>
    { server with
      mgr := (server.mgr.setActiveInstanceLockInstanceIdAt
        (ObjectGuid.createPlayer realm counter) entries now instanceId).1 }
  | .update realm counter entries updateEvent sharedEvent schedule now =>
    server.updateBoth (ObjectGuid.createPlayer realm counter) entries updateEvent sharedEvent
      schedule now
  | .updateShared updateEvent =>
    server.commit (server.mgr.updateSharedInstanceLockWithPersistence updateEvent)
  | .updateExtension realm counter entries extended schedule now =>
    server.commit (server.mgr.updateInstanceLockExtensionForPlayerWithPersistenceAt
      (ObjectGuid.createPlayer realm counter) entries extended schedule now)
  | .reset realm counter mapId difficultyId entriesByKey schedule now =>
    server.commit (server.mgr.resetInstanceLocksForPlayerWithPersistenceAt
      (ObjectGuid.createPlayer realm counter) mapId difficultyId entriesByKey schedule now)
  | .cleanup instanceId =>
    server.commit (server.mgr.cleanupUnreferencedSharedInstanceLockData instanceId)
  | .holdClone cell =>
    if server.mgr.isReferenced cell then
      { server with mgr := { server.mgr with heldElsewhere := cell :: server.mgr.heldElsewhere } }
    else server
  | .dropClone cell =>
    { server with
      mgr := { server.mgr with heldElsewhere := server.mgr.heldElsewhere.erase cell } }

end InstanceLockServer

end RustyCore.Instances
