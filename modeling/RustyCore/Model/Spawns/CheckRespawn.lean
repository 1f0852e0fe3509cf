import RustyCore.Model.ObjectGuid
import RustyCore.Model.Spawns.SpawnStore

/-! # The respawn check

What `Map::check_respawn_like_cpp` finds out about a timer: whether its spawn group is active,
whether an object of the spawn is alive on the map, and until when a linked spawn holds it
back. -/

namespace RustyCore.Spawns

open Pools (SpawnObjectType SpawnedPoolData)

/-- The largest time. -/
def i64Max : ℤ := 2 ^ 63 - 1

/-- A sum as the 64-bit time that release builds wrap it to. -/
def wrapI64 (time : ℤ) : ℤ := Int.bmod time (2 ^ 64)

def SpawnGroupFlags.manualSpawn : SpawnGroupFlags := 0x04

def SpawnGroupFlags.escortquestnpc : SpawnGroupFlags := 0x10

/-- The groups that were toggled away from their default. -/
structure SpawnGroupRuntimeState where
  toggledSpawnGroupIds : Finset ℕ

def SpawnGroupRuntimeState.isSpawnGroupActive (state : SpawnGroupRuntimeState)
    (group : SpawnGroupTemplateData) : Bool :=
  if group.isSystem then true
  else
    decide (group.groupId ∈ state.toggledSpawnGroupIds) !=
      (group.flags &&& SpawnGroupFlags.manualSpawn == 0)

/-- `LinkedRespawnStoreLikeCpp` -/
structure LinkedRespawnStore where
  linkedRespawns : Dict ObjectGuid ObjectGuid

def LinkedRespawnStore.getLinkedRespawnGuid (store : LinkedRespawnStore) (guid : ObjectGuid) :
    ObjectGuid :=
  (store.linkedRespawns.lookup guid).getD .empty

structure Creature where
  guid : ObjectGuid
  spawnId : ℕ
  isAlive : Bool

/-- What a record stands for, as far as a respawn asks. -/
inductive MapObjectBody where
  | creature (creature : Creature)
  | gameObject (spawnId : ℕ)
  | other

/-- `ρ` is the rest of the record. -/
structure MapObjectRecord (ρ : Type) where
  body : MapObjectBody
  rest : ρ

namespace MapObjectRecord

variable {ρ : Type} (record : MapObjectRecord ρ)

def creature : Option Creature :=
  match record.body with
  | .creature creature => some creature
  | _ => none

def gameObjectSpawnId : Option ℕ :=
  match record.body with
  | .gameObject spawnId => some spawnId
  | _ => none

end MapObjectRecord

/-- A map without its respawn timers; `ω` is what a respawn does not read. -/
structure MapBody (ω ρ : Type) where
  mapId : ℕ
  spawnGroupState : SpawnGroupRuntimeState
  poolData : SpawnedPoolData
  entityWorld : Dict ObjectGuid (MapObjectRecord ρ)
  creaturesBySpawnId : Dict ℕ (List ObjectGuid)
  gameobjectsBySpawnId : Dict ℕ (List ObjectGuid)
  loadedGrids : Finset (ℕ × ℕ)
  rest : ω

structure Map (ω ρ : Type) extends MapBody ω ρ where
  respawnStore : RespawnStore

inductive CheckRespawnSpawnGroupGuardOutcome where
  | allowed
  | inactiveSpawnGroupDeletedTimer
  | missingSpawnData
deriving DecidableEq

inductive CheckRespawnLiveObjectGuardOutcome where
  | allowed
  | aliveCreatureBlocksRespawn
  | gameObjectBlocksRespawn
  | missingSpawnData
  | unsupportedSpawnType
deriving DecidableEq

inductive CheckRespawnLinkedRespawnGuardOutcome where
  | allowed
  | linkedInfinite
  | linkedSelfNeverRespawn
  | linkedDelayed
  | unsupportedSpawnType
deriving DecidableEq

inductive CheckRespawnCompositeOutcome where
  | allowed
  | inactiveSpawnGroupDeletedTimer
  | aliveCreatureBlocksRespawn
  | gameObjectBlocksRespawn
  | linkedInfinite
  | linkedSelfNeverRespawn
  | linkedDelayed
  | missingSpawnData
  | unsupportedSpawnType
deriving DecidableEq

def weekSecs : ℤ := 7 * 24 * 60 * 60

/-- The number of grids along one side of a map. -/
def maxNumberOfGrids : ℕ := 64

namespace Map

variable {ω ρ σ : Type} (map : Map ω ρ)

/-- A grid outside the map is not loaded. -/
def isGridLoaded (coord : ℕ × ℕ) : Bool :=
  decide (coord.1 < maxNumberOfGrids ∧ coord.2 < maxNumberOfGrids ∧ coord ∈ map.loadedGrids)

def isGridIdLoaded (gridId : ℕ) : Bool :=
  map.isGridLoaded (gridId % maxNumberOfGrids, gridId / maxNumberOfGrids)

def getRespawnTime (objectType : SpawnObjectType) (spawnId : ℕ) : ℤ :=
  ((map.respawnStore.getRespawnInfoLikeCpp objectType spawnId).map RespawnInfo.respawnTime).getD 0

def getLinkedRespawnTime (guid : ObjectGuid) (linkedStore : LinkedRespawnStore) : ℤ :=
  let linkedGuid := linkedStore.getLinkedRespawnGuid guid
  if linkedGuid.highType = ObjectGuid.highGuidCreature then
    map.getRespawnTime .creature linkedGuid.counter.toNat
  else if linkedGuid.highType = ObjectGuid.highGuidGameObject then
    map.getRespawnTime .gameObject linkedGuid.counter.toNat
  else 0

def checkRespawnSpawnGroupGuard (info : RespawnInfo) (spawnStore : SpawnStore) :
    CheckRespawnSpawnGroupGuardOutcome × RespawnInfo :=
  match spawnStore.spawnData info.objectType info.spawnId with
  | none => (.missingSpawnData, info)
  | some spawnData =>
    if map.spawnGroupState.isSpawnGroupActive spawnData.spawnGroup then (.allowed, info)
    else (.inactiveSpawnGroupDeletedTimer, { info with respawnTime := 0 })

/-- Whether one of the creatures blocks the spawn; an escorted one does not. -/
def creatureBlocks (info : RespawnInfo) (isEscort : Bool)
    (isCreatureEscorted : ObjectGuid → MapObjectRecord ρ → σ → Bool × σ) :
    List ObjectGuid → σ → Bool × σ
  | [], seed => (false, seed)
  | guid :: rest, seed =>
    match map.entityWorld.lookup guid with
    | none => creatureBlocks info isEscort isCreatureEscorted rest seed
    | some record =>
      match record.creature with
      | none => creatureBlocks info isEscort isCreatureEscorted rest seed
      | some creature =>
        if creature.spawnId ≠ info.spawnId ∨ creature.isAlive = false then
          creatureBlocks info isEscort isCreatureEscorted rest seed
        else if isEscort then
          match isCreatureEscorted creature.guid record seed with
          | (true, seed) => creatureBlocks info isEscort isCreatureEscorted rest seed
          | (false, seed) => (true, seed)
        else (true, seed)

def gameObjectBlocks (spawnId : ℕ) : Bool :=
  ((map.gameobjectsBySpawnId.lookup spawnId).getD []).any fun guid =>
    (map.entityWorld.lookup guid).any fun record => record.gameObjectSpawnId == some spawnId

def checkRespawnLiveObjectGuard (info : RespawnInfo) (spawnStore : SpawnStore)
    (respawnDynamicEscortnpc : Bool)
    (isCreatureEscorted : ObjectGuid → MapObjectRecord ρ → σ → Bool × σ) (seed : σ) :
    CheckRespawnLiveObjectGuardOutcome × RespawnInfo × σ :=
  match spawnStore.spawnData info.objectType info.spawnId with
  | none => (.missingSpawnData, info, seed)
  | some spawnData =>
    match info.objectType with
    | .creature =>
      let isEscort := respawnDynamicEscortnpc &&
        spawnData.spawnGroup.flags &&& SpawnGroupFlags.escortquestnpc != 0
      match map.creatureBlocks info isEscort isCreatureEscorted
          ((map.creaturesBySpawnId.lookup info.spawnId).getD []) seed with
      | (true, seed) => (.aliveCreatureBlocksRespawn, { info with respawnTime := 0 }, seed)
      | (false, seed) => (.allowed, info, seed)
    | .gameObject =>
      if map.gameObjectBlocks info.spawnId then
        (.gameObjectBlocksRespawn, { info with respawnTime := 0 }, seed)
      else (.allowed, info, seed)
    | .areaTrigger => (.unsupportedSpawnType, info, seed)

def linkedHighGuid : SpawnObjectType → Option (BitVec 64)
  | .creature => some ObjectGuid.highGuidCreature
  | .gameObject => some ObjectGuid.highGuidGameObject
  | .areaTrigger => none

def checkRespawnLinkedRespawnGuard (info : RespawnInfo) (linkedStore : LinkedRespawnStore)
    (now : ℤ) (jitterSecs : ℕ) : CheckRespawnLinkedRespawnGuardOutcome × RespawnInfo :=
  match linkedHighGuid info.objectType with
  | none => (.unsupportedSpawnType, info)
  | some guidHigh =>
    let thisGuid := ObjectGuid.createWorldObject guidHigh 0 0 (BitVec.ofNat 16 map.mapId) 0
      (BitVec.ofNat 32 info.entry) (BitVec.ofNat 64 info.spawnId)
    let linkedTime := map.getLinkedRespawnTime thisGuid linkedStore
    if linkedTime = 0 then (.allowed, info)
    else if linkedTime = i64Max then (.linkedInfinite, { info with respawnTime := linkedTime })
    else if linkedStore.getLinkedRespawnGuid thisGuid = thisGuid then
      (.linkedSelfNeverRespawn, { info with respawnTime := wrapI64 (now + weekSecs) })
    else
      (.linkedDelayed, { info with respawnTime := wrapI64 (max now linkedTime + jitterSecs) })

def linkedOutcome : CheckRespawnLinkedRespawnGuardOutcome → CheckRespawnCompositeOutcome
  | .allowed => .allowed
  | .linkedInfinite => .linkedInfinite
  | .linkedSelfNeverRespawn => .linkedSelfNeverRespawn
  | .linkedDelayed => .linkedDelayed
  | .unsupportedSpawnType => .unsupportedSpawnType

def checkRespawn (info : RespawnInfo) (spawnStore : SpawnStore)
    (linkedStore : LinkedRespawnStore) (now : ℤ) (jitterSecs : ℕ) (respawnDynamicEscortnpc : Bool)
    (isCreatureEscorted : ObjectGuid → MapObjectRecord ρ → σ → Bool × σ) (seed : σ) :
    CheckRespawnCompositeOutcome × RespawnInfo × σ :=
  if info.objectType = .areaTrigger then (.unsupportedSpawnType, info, seed)
  else
    match map.checkRespawnSpawnGroupGuard info spawnStore with
    | (.inactiveSpawnGroupDeletedTimer, info) => (.inactiveSpawnGroupDeletedTimer, info, seed)
    | (.missingSpawnData, info) => (.missingSpawnData, info, seed)
    | (.allowed, info) =>
      match map.checkRespawnLiveObjectGuard info spawnStore respawnDynamicEscortnpc
          isCreatureEscorted seed with
      | (.aliveCreatureBlocksRespawn, info, seed) => (.aliveCreatureBlocksRespawn, info, seed)
      | (.gameObjectBlocksRespawn, info, seed) => (.gameObjectBlocksRespawn, info, seed)
      | (.missingSpawnData, info, seed) => (.missingSpawnData, info, seed)
      | (.unsupportedSpawnType, info, seed) => (.unsupportedSpawnType, info, seed)
      | (.allowed, info, seed) =>
        let (outcome, info) :=
          map.checkRespawnLinkedRespawnGuard info linkedStore now jitterSecs
        (linkedOutcome outcome, info, seed)

end Map

end RustyCore.Spawns
