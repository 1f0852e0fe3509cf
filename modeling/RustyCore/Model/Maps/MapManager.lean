import RustyCore.Library.Dict
import RustyCore.Library.FixedWidth
import RustyCore.Model.ObjectGuid

/-! # The map manager

The allocator of the instance ids and the maps that are managed. -/

/-! ## Instance ids

`InstanceIdAllocator`: one bit for each id that is free, and the next id to hand out. -/

namespace RustyCore.Maps

def u32Max : ℕ := 2 ^ 32 - 1

structure InstanceIdAllocator where
  freeInstanceIds : List Bool
  nextInstanceId : ℕ
deriving DecidableEq

namespace InstanceIdAllocator

def new : InstanceIdAllocator := ⟨[false, true], 1⟩

def initInstanceIds (maxExistingInstanceId : ℕ) : InstanceIdAllocator :=
  ⟨(List.replicate (maxExistingInstanceId + 2) true).set 0 false, 1⟩

/-- `Vec::resize(len, true)`, only ever to a greater length. -/
def ensureLen (ids : InstanceIdAllocator) (len : ℕ) : InstanceIdAllocator :=
  if ids.freeInstanceIds.length < len then
    { ids with
      freeInstanceIds :=
        (ids.freeInstanceIds ++ List.replicate (len - ids.freeInstanceIds.length) true).set 0 false }
  else ids

def mark (ids : InstanceIdAllocator) (instanceId : ℕ) (free : Bool) : InstanceIdAllocator :=
  { ids with freeInstanceIds := ids.freeInstanceIds.set instanceId free }

def registerInstanceId (ids : InstanceIdAllocator) (instanceId : ℕ) : InstanceIdAllocator :=
  let marked := (ids.ensureLen (instanceId + 1)).mark instanceId false
  if marked.nextInstanceId = instanceId then
    { marked with nextInstanceId := wrappingAdd 32 marked.nextInstanceId 1 }
  else marked

/-- The first free id from `start` on. -/
def firstFree (ids : InstanceIdAllocator) (start : ℕ) : Option ℕ :=
  ((ids.freeInstanceIds.drop start).findIdx? (· = true)).map (· + start)

def generateInstanceId (ids : InstanceIdAllocator) : Option ℕ × InstanceIdAllocator :=
  if ids.nextInstanceId = u32Max then (none, ids)
  else
    let newInstanceId := ids.nextInstanceId
    let marked := (ids.ensureLen (newInstanceId + 1)).mark newInstanceId false
    match marked.firstFree (saturatingAdd 32 newInstanceId 1) with
    | some next => (some newInstanceId, { marked with nextInstanceId := next % 2 ^ 32 })
    | none =>
      (some newInstanceId,
        { freeInstanceIds := marked.freeInstanceIds ++ [true]
          nextInstanceId := marked.freeInstanceIds.length % 2 ^ 32 })

def freeInstanceId (ids : InstanceIdAllocator) (instanceId : ℕ) : InstanceIdAllocator :=
  let grown := ids.ensureLen (instanceId + 1)
  { grown.mark instanceId true with nextInstanceId := min grown.nextInstanceId instanceId }

end InstanceIdAllocator

end RustyCore.Maps

/-! ## Managed maps

The maps with their players, the instance ids, and the map tick, which is split in two:
`begin` decides which maps are updated or destroyed, `resume` does it after the sessions ran.

The phases that a map runs after its sessions are the work of the whole game world. They
are kept as a parameter: functions on the records of the map. -/

namespace RustyCore.Maps

structure MapKey where
  mapId : ℕ
  instanceId : ℕ
deriving DecidableEq

/-- The derived order: by map, then by instance. -/
def MapKey.le (k k' : MapKey) : Prop :=
  k.mapId < k'.mapId ∨ (k.mapId = k'.mapId ∧ k.instanceId ≤ k'.instanceId)

instance : DecidableRel MapKey.le := fun _ _ => inferInstanceAs (Decidable (_ ∨ _))

inductive ManagedMapKind where
  | world
  | dungeon (hasResetSchedule : Bool)
  | battleground
deriving DecidableEq

namespace ManagedMapKind

def isDungeon : ManagedMapKind → Bool
  | dungeon _ => true
  | _ => false

def isBattlegroundOrArena : ManagedMapKind → Bool
  | battleground => true
  | _ => false

def freesInstanceIdOnDestroy : ManagedMapKind → Bool
  | battleground => true
  | dungeon hasResetSchedule => !hasResetSchedule
  | world => false

end ManagedMapKind

/-! ## Players and maps -/

/-- What the manager reads and writes of a player; `Data` is the rest of it. -/
structure Player (Position Data : Type) where
  guid : ObjectGuid
  inWorld : Bool
  currentMap : Option MapKey
  position : Position
  data : Data

/-- A record of a map's `entity_world`: a player, or an object of another kind. -/
inductive MapObjectRecord (Position Data : Type) where
  | player (player : Player Position Data)
  | other

abbrev EntityWorld (Position Data : Type) := Dict ObjectGuid (MapObjectRecord Position Data)

variable {Position Data : Type}

namespace EntityWorld

def getTypedPlayer (world : EntityWorld Position Data) (guid : ObjectGuid) :
    Option (Player Position Data) :=
  match world.lookup guid with
  | some (.player player) => some player
  | _ => none

def players (world : EntityWorld Position Data) : List ObjectGuid :=
  (world.entries.filter fun entry =>
    match entry.2 with
    | .player _ => true
    | .other => false).map Sigma.fst

/-- `typed_player_counts_like_cpp().0`, a `u32` raised by `saturating_add(1)`. -/
def playerCount (world : EntityWorld Position Data) : ℕ :=
  world.players.foldl (fun total _ => saturatingAdd 32 total 1) 0

end EntityWorld

structure ManagedMap (Position Data : Type) where
  mapId : ℕ
  instanceId : ℕ
  difficulty : ℕ
  kind : ManagedMapKind
  canUnload : Bool
  entityWorld : EntityWorld Position Data
  updateCalls : List ℕ
  delayedUpdateCalls : List ℕ
  unloadAllCalls : ℕ

namespace ManagedMap

def new (mapId instanceId difficulty : ℕ) (kind : ManagedMapKind) : ManagedMap Position Data where
  mapId := mapId
  instanceId := instanceId
  difficulty := difficulty
  kind := kind
  canUnload := false
  entityWorld := ∅
  updateCalls := []
  delayedUpdateCalls := []
  unloadAllCalls := 0

def havePlayers (map : ManagedMap Position Data) : Bool := 0 < map.entityWorld.playerCount

def unloadAll (map : ManagedMap Position Data) : ManagedMap Position Data :=
  { map with unloadAllCalls := map.unloadAllCalls + 1 }

def updateDynamicTreePhaseLikeCpp (map : ManagedMap Position Data) (diffMs : ℕ) :
    ManagedMap Position Data :=
  { map with updateCalls := map.updateCalls ++ [diffMs] }

end ManagedMap

/-- The phases of the game world that a resumed tick runs on a map. -/
structure MapPhases (Position Data : Type) where
  afterSessions : ℕ → EntityWorld Position Data → EntityWorld Position Data
  delayedUpdate : ℕ → EntityWorld Position Data → EntityWorld Position Data

def ManagedMap.updateAfterSessions (phases : MapPhases Position Data)
    (map : ManagedMap Position Data) (diffMs : ℕ) : ManagedMap Position Data :=
  { map with entityWorld := phases.afterSessions diffMs map.entityWorld }

def ManagedMap.delayedUpdate (phases : MapPhases Position Data) (map : ManagedMap Position Data)
    (diffMs : ℕ) : ManagedMap Position Data :=
  { map with
    delayedUpdateCalls := map.delayedUpdateCalls ++ [diffMs]
    entityWorld := phases.delayedUpdate diffMs map.entityWorld }

/-! ## The manager -/

structure IntervalTimer where
  intervalMs : ℕ
  currentMs : ℕ
deriving DecidableEq

def IntervalTimer.update (timer : IntervalTimer) (diffMs : ℕ) : IntervalTimer :=
  { timer with currentMs := saturatingAdd 32 timer.currentMs diffMs }

def IntervalTimer.passed (timer : IntervalTimer) : Bool := timer.intervalMs ≤ timer.currentMs

inductive MapTickCoordinationState where
  | idle
  | awaitingSessions (epoch : ℕ)
  | resuming (epoch : ℕ)
deriving DecidableEq

structure MapTickParticipant where
  key : MapKey
  incarnation : ℕ
deriving DecidableEq

structure MapTickPlan where
  epoch : ℕ
  effectiveDiffMs : ℕ
  updated : List MapTickParticipant
  destroyed : List MapTickParticipant
deriving DecidableEq

inductive MapTickBegin where
  | started (plan : MapTickPlan)
  | timerNotPassed
  | busy (epoch : ℕ)
deriving DecidableEq

inductive MapTickResume where
  | resumed
  | rejected (state : MapTickCoordinationState) (planEpoch : ℕ)
deriving DecidableEq

inductive PlayerResidence where
  | detached
  | active (key : MapKey)
deriving DecidableEq

/-- `PlayerOwnershipLikeCpp` without its pending visibility refresh. -/
structure PlayerOwnership where
  generation : ℕ
  residence : PlayerResidence
  residenceRevision : ℕ
deriving DecidableEq

structure MapManager (Position Data : Type) where
  maps : Dict MapKey (ManagedMap Position Data)
  timer : IntervalTimer
  instanceIds : InstanceIdAllocator
  playerOwners : Dict ObjectGuid PlayerOwnership
  detachedPlayers : Dict ObjectGuid (Player Position Data)
  nextPlayerGeneration : ℕ
  mapIncarnations : Dict MapKey ℕ
  nextMapIncarnation : ℕ
  tickCoordination : MapTickCoordinationState
  nextTickEpoch : ℕ

namespace MapManager

def minMapUpdateDelayMs : ℕ := 1

def new (mapUpdateIntervalMs : ℕ) : MapManager Position Data where
  maps := ∅
  timer := ⟨max mapUpdateIntervalMs minMapUpdateDelayMs, 0⟩
  instanceIds := InstanceIdAllocator.new
  playerOwners := ∅
  detachedPlayers := ∅
  nextPlayerGeneration := 1
  mapIncarnations := ∅
  nextMapIncarnation := 1
  tickCoordination := .idle
  nextTickEpoch := 1

variable (manager : MapManager Position Data)

def findMap (key : MapKey) : Option (ManagedMap Position Data) := manager.maps.lookup key

def createMapEntry (key : MapKey) (difficulty : ℕ) (kind : ManagedMapKind) :
    MapManager Position Data :=
  match manager.maps.lookup key with
  | some _ => manager
  | none =>
    { manager with
      maps := manager.maps.insert key (.new key.mapId key.instanceId difficulty kind)
      instanceIds :=
        if key.instanceId ≠ 0 ∧ (kind.isDungeon || kind.isBattlegroundOrArena) then
          manager.instanceIds.registerInstanceId key.instanceId
        else manager.instanceIds
      mapIncarnations := manager.mapIncarnations.insert key manager.nextMapIncarnation
      nextMapIncarnation := saturatingAdd 64 manager.nextMapIncarnation 1 }

/-- `destroy_map_inner`: the unloaded map and the ids without its own, unless it is occupied. -/
def destroyMapInner (map : ManagedMap Position Data) (instanceIds : InstanceIdAllocator) :
    Option (ManagedMap Position Data × InstanceIdAllocator) :=
  if map.havePlayers then none
  else
    some (map.unloadAll,
      if map.kind.freesInstanceIdOnDestroy then instanceIds.freeInstanceId map.instanceId
      else instanceIds)

def destroyMap (key : MapKey) : Bool × MapManager Position Data :=
  match manager.maps.lookup key with
  | none => (false, manager)
  | some map =>
    match destroyMapInner map manager.instanceIds with
    | none => (false, manager)
    | some (_, instanceIds) =>
      (true,
        { manager with
          maps := manager.maps.erase key
          instanceIds := instanceIds
          mapIncarnations := manager.mapIncarnations.erase key })

/-! ## The tick -/

/-- The keys of a `BTreeMap`, in order. -/
def keys : List MapKey := manager.maps.keys.insertionSort MapKey.le

/-- The loop of `begin` over the keys: the manager and the two lists of the plan. -/
def beginMap (current : ℕ)
    (state : MapManager Position Data × List MapTickParticipant × List MapTickParticipant)
    (key : MapKey) :
    MapManager Position Data × List MapTickParticipant × List MapTickParticipant :=
  let (manager, updated, destroyed) := state
  let participant : MapTickParticipant := ⟨key, (manager.mapIncarnations.lookup key).getD 0⟩
  match manager.maps.lookup key with
  | none => state
  | some map =>
    if map.canUnload then
      match destroyMapInner map manager.instanceIds with
      | none => state
      | some (unloaded, instanceIds) =>
        ({ manager with
            maps := manager.maps.insert key unloaded
            instanceIds := instanceIds },
          updated, destroyed ++ [participant])
    else
      ({ manager with
          maps := manager.maps.insert key (map.updateDynamicTreePhaseLikeCpp current) },
        updated ++ [participant], destroyed)

def beginTickLikeCpp (diffMs : ℕ) : MapTickBegin × MapManager Position Data :=
  match manager.tickCoordination with
  | .awaitingSessions epoch => (.busy epoch, manager)
  | .resuming epoch => (.busy epoch, manager)
  | .idle =>
    let manager := { manager with timer := manager.timer.update diffMs }
    if !manager.timer.passed then (.timerNotPassed, manager)
    else
      let current := manager.timer.currentMs
      let (manager, updated, destroyed) :=
        manager.keys.foldl (beginMap current) (manager, [], [])
      let epoch := manager.nextTickEpoch
      (.started ⟨epoch, current, updated, destroyed⟩,
        { manager with
          nextTickEpoch := saturatingAdd 64 epoch 1
          tickCoordination := .awaitingSessions epoch })

def abandonTickLikeCpp (plan : MapTickPlan) : MapTickResume × MapManager Position Data :=
  if manager.tickCoordination ≠ .awaitingSessions plan.epoch then
    (.rejected manager.tickCoordination plan.epoch, manager)
  else (.resumed, { manager with tickCoordination := .idle })

variable (phases : MapPhases Position Data)

/-- The loop of `resume` over the maps to update: it also lists the updated maps, each with
the time it was given. -/
def resumeMap (current : ℕ) (state : MapManager Position Data × List (MapTickParticipant × ℕ))
    (participant : MapTickParticipant) :
    MapManager Position Data × List (MapTickParticipant × ℕ) :=
  let (manager, resumed) := state
  if manager.mapIncarnations.lookup participant.key ≠ some participant.incarnation then state
  else
    match manager.maps.lookup participant.key with
    | none => state
    | some map =>
      ({ manager with
          maps := manager.maps.insert participant.key (map.updateAfterSessions phases current) },
        resumed ++ [(participant, current)])

/-- The loop of `resume` over the maps to destroy. -/
def removeMap (manager : MapManager Position Data) (participant : MapTickParticipant) :
    MapManager Position Data :=
  if manager.mapIncarnations.lookup participant.key ≠ some participant.incarnation then manager
  else
    { manager with
      maps := manager.maps.erase participant.key
      mapIncarnations := manager.mapIncarnations.erase participant.key }

/-- The delayed update of every map that is left. -/
def delayedUpdateAll (current : ℕ) (manager : MapManager Position Data) :
    MapManager Position Data :=
  { manager with
    maps := manager.keys.foldl
      (fun maps key => maps.modify key fun map => map.delayedUpdate phases current) manager.maps }

/-- `resume_tick`, whatever its entry point, with the maps whose phases were resumed. -/
def resumeTick (plan : MapTickPlan) :
    MapTickResume × MapManager Position Data × List (MapTickParticipant × ℕ) :=
  if manager.tickCoordination ≠ .awaitingSessions plan.epoch then
    (.rejected manager.tickCoordination plan.epoch, manager, [])
  else
    let current := plan.effectiveDiffMs
    let (manager, resumed) := plan.updated.foldl (resumeMap phases current)
      ({ manager with tickCoordination := .resuming plan.epoch }, [])
    let manager := delayedUpdateAll phases current (plan.destroyed.foldl removeMap manager)
    (.resumed,
      { manager with
        timer := { manager.timer with currentMs := 0 }
        tickCoordination := .idle },
      resumed)

end MapManager

end RustyCore.Maps
