import RustyCore.Model.Maps.MapManager

/-! # Which map a player enters

Two decisions over the same inputs: the instance that a player would enter, and the map to
create for it. The second may hand out a new instance id on its way. -/

namespace RustyCore.Maps

inductive CreateMapEntryKind where
  | world
  | dungeon
  | battlegroundOrArena
  | garrison
deriving DecidableEq

structure CreateMapEntryContext where
  mapId : ℕ
  kind : CreateMapEntryKind
  splitByFaction : Bool
  flexLocking : Bool
deriving DecidableEq

structure CreateMapDifficultyContext where
  hasResetSchedule : Bool
  isInstanceIdBound : Bool
deriving DecidableEq

structure CreateMapInstanceLockContext where
  instanceId : ℕ
  difficultyId : ℕ
  token : ℕ
deriving DecidableEq

structure CreateMapGroupContext where
  difficultyId : ℕ
  recentInstanceOwnerGuidCounter : ℕ
  recentInstanceId : ℕ
deriving DecidableEq

structure CreateMapPlayerContext where
  guidCounter : ℕ
  teamId : ℕ
  battlegroundId : ℕ
  hasBattleground : Bool
  playerDifficultyId : ℕ
  playerRecentInstanceId : ℕ
  group : Option CreateMapGroupContext
deriving DecidableEq

inductive CreateMapSideEffect where
  | teleportToBattlegroundEntryPoint
  | createInstanceLockForNewInstance (ownerGuidCounter instanceId : ℕ)
  | setInstanceLockInstanceId (instanceId : ℕ)
  | setGroupRecentInstance (ownerGuidCounter instanceId : ℕ)
  | setPlayerRecentInstance (instanceId : ℕ)
deriving DecidableEq

inductive CreateMapDecision where
  | existing (key : MapKey) (difficultyId : ℕ) (sideEffects : List CreateMapSideEffect)
  | create (key : MapKey) (difficultyId : ℕ) (kind : ManagedMapKind)
      (sideEffects : List CreateMapSideEffect)
  | reject (sideEffects : List CreateMapSideEffect)
deriving DecidableEq

/-- The lock token of an instance map. -/
structure ExistingInstanceMapContext where
  instanceLockToken : Option ℕ
deriving DecidableEq

/-- The arguments of the two decisions. -/
structure CreateMapRequest where
  entry : Option CreateMapEntryContext
  player : Option CreateMapPlayerContext
  mapDifficulty : ℕ → ℕ → Option CreateMapDifficultyContext
  activeInstanceLock : Option CreateMapInstanceLockContext
  existingInstanceMap : ℕ → ℕ → Option ExistingInstanceMapContext

namespace CreateMapPlayerContext

variable (player : CreateMapPlayerContext)

/-- The difficulty of the group, or else of the player. -/
def dungeonDifficulty : ℕ :=
  (player.group.map CreateMapGroupContext.difficultyId).getD player.playerDifficultyId

def recentInstanceId : ℕ :=
  (player.group.map CreateMapGroupContext.recentInstanceId).getD player.playerRecentInstanceId

def ownerGuidCounter : ℕ :=
  (player.group.map CreateMapGroupContext.recentInstanceOwnerGuidCounter).getD player.guidCounter

end CreateMapPlayerContext

/-- The map belongs to another lock than the active one. -/
def hasForeignLock (difficulty : CreateMapDifficultyContext)
    (lock : Option CreateMapInstanceLockContext) (existing : Option ExistingInstanceMapContext) :
    Bool :=
  match lock, existing with
  | some lock, some existing =>
    !difficulty.isInstanceIdBound && existing.instanceLockToken != some lock.token
  | _, _ => false

variable {Position Data : Type}

/-- A manager together with the lock tokens of its maps. -/
structure InstanceMaps (Position Data : Type) where
  manager : MapManager Position Data
  instanceLockToken : MapKey → Option ℕ

namespace InstanceMaps

variable (maps : InstanceMaps Position Data)

def findMap (mapId instanceId : ℕ) : Option (ManagedMap Position Data) :=
  maps.manager.findMap ⟨mapId, instanceId⟩

def generateInstanceId : Option ℕ × InstanceMaps Position Data :=
  let (generated, instanceIds) := maps.manager.instanceIds.generateInstanceId
  (generated, { maps with manager := { maps.manager with instanceIds := instanceIds } })

/-- The id as it is, or a new one in place of zero. -/
def orGenerated (instanceId : ℕ) : Option ℕ × InstanceMaps Position Data :=
  if instanceId = 0 then maps.generateInstanceId else (some instanceId, maps)

/-- Without a lock the recent instance is entered, unless the dungeon has a reset schedule. -/
def unlockedInstanceId (context : CreateMapDifficultyContext) (player : CreateMapPlayerContext) :
    ℕ :=
  if context.hasResetSchedule then 0 else player.recentInstanceId

/-- The id of the active lock, or else the unlocked one. -/
def dungeonInstanceId (request : CreateMapRequest) (context : CreateMapDifficultyContext)
    (player : CreateMapPlayerContext) : ℕ :=
  match request.activeInstanceLock with
  | some lock => lock.instanceId
  | none => unlockedInstanceId context player

/-- The map of the manager, or else the one of the caller. -/
def existingInstance (request : CreateMapRequest) (mapId instanceId : ℕ) :
    Option ExistingInstanceMapContext :=
  ((maps.findMap mapId instanceId).map fun _ =>
      ⟨maps.instanceLockToken ⟨mapId, instanceId⟩⟩).or
    (request.existingInstanceMap mapId instanceId)

/-- The difficulty of a locked dungeon is that of the lock, unless it locks flexibly. -/
def lockedDifficulty (entry : CreateMapEntryContext) (lock : CreateMapInstanceLockContext)
    (difficulty : ℕ) : ℕ :=
  if entry.flexLocking then difficulty else lock.difficultyId

/-- The last part for a dungeon, once its instance id is settled. -/
def enterDungeon (entry : CreateMapEntryContext) (player : CreateMapPlayerContext)
    (difficulty : ℕ) (context : CreateMapDifficultyContext) (instanceId : ℕ)
    (sideEffects : List CreateMapSideEffect) : CreateMapDecision :=
  let key : MapKey := ⟨entry.mapId, instanceId⟩
  if (maps.findMap entry.mapId instanceId).isSome then .existing key difficulty sideEffects
  else
    let recent : CreateMapSideEffect := match player.group with
      | some group => .setGroupRecentInstance group.recentInstanceOwnerGuidCounter instanceId
      | none => .setPlayerRecentInstance instanceId
    .create key difficulty (.dungeon context.hasResetSchedule) (sideEffects ++ [recent])

/-- A dungeon whose first instance id is known: a map of another lock gets a new id. -/
def checkDungeonLock (request : CreateMapRequest) (entry : CreateMapEntryContext)
    (player : CreateMapPlayerContext) (difficulty : ℕ) (context : CreateMapDifficultyContext)
    (instanceId : ℕ) (sideEffects : List CreateMapSideEffect) :
    CreateMapDecision × InstanceMaps Position Data :=
  if hasForeignLock context request.activeInstanceLock
      (maps.existingInstance request entry.mapId instanceId) then
    match maps.generateInstanceId with
    | (none, maps) => (.reject sideEffects, maps)
    | (some generated, maps) =>
      (maps.enterDungeon entry player difficulty context generated
        (sideEffects ++ [.setInstanceLockInstanceId generated]), maps)
  else (maps.enterDungeon entry player difficulty context instanceId sideEffects, maps)

def createDungeonDecision (request : CreateMapRequest) (entry : CreateMapEntryContext)
    (player : CreateMapPlayerContext) : CreateMapDecision × InstanceMaps Position Data :=
  let difficulty := player.dungeonDifficulty
  match request.mapDifficulty entry.mapId difficulty with
  | none => (.reject [], maps)
  | some context =>
    match request.activeInstanceLock with
    | some lock =>
      maps.checkDungeonLock request entry player (lockedDifficulty entry lock difficulty)
        context lock.instanceId []
    | none =>
      match maps.orGenerated (unlockedInstanceId context player) with
      | (none, maps) => (.reject [], maps)
      | (some instanceId, maps) =>
        maps.checkDungeonLock request entry player difficulty context instanceId
          (if context.hasResetSchedule then
            [.createInstanceLockForNewInstance player.ownerGuidCounter instanceId]
          else [])

/-- `guid_counter as u32`. -/
def garrisonInstanceId (player : CreateMapPlayerContext) : ℕ := player.guidCounter % 2 ^ 32

/-- Some world maps have an instance for each faction. -/
def worldInstanceId (entry : CreateMapEntryContext) (player : CreateMapPlayerContext) : ℕ :=
  if entry.splitByFaction then player.teamId else 0

def createMapDecisionLikeCpp (request : CreateMapRequest) :
    CreateMapDecision × InstanceMaps Position Data :=
  match request.player, request.entry with
  | none, _ => (.reject [], maps)
  | some _, none => (.reject [], maps)
  | some player, some entry =>
    match entry.kind with
    | .battlegroundOrArena =>
      let instanceId := player.battlegroundId
      if instanceId = 0 then (.reject [], maps)
      else
        let key : MapKey := ⟨entry.mapId, instanceId⟩
        if (maps.findMap entry.mapId instanceId).isSome then (.existing key 0 [], maps)
        else if !player.hasBattleground then
          (.reject [.teleportToBattlegroundEntryPoint], maps)
        else (.create key 0 .battleground [], maps)
    | .dungeon => maps.createDungeonDecision request entry player
    | .garrison => (.create ⟨entry.mapId, garrisonInstanceId player⟩ 0 .world [], maps)
    | .world =>
      let instanceId := worldInstanceId entry player
      let key : MapKey := ⟨entry.mapId, instanceId⟩
      if (maps.findMap entry.mapId instanceId).isSome then (.existing key 0 [], maps)
      else (.create key 0 .world [], maps)

def findInstanceIdForPlayerLikeCpp (request : CreateMapRequest) : ℕ :=
  match request.player, request.entry with
  | none, _ => 0
  | some _, none => 0
  | some player, some entry =>
    match entry.kind with
    | .battlegroundOrArena => player.battlegroundId
    | .dungeon =>
      match request.mapDifficulty entry.mapId player.dungeonDifficulty with
      | none => 0
      | some context =>
        let instanceId := dungeonInstanceId request context player
        if instanceId = 0 then 0
        else if hasForeignLock context request.activeInstanceLock
            (maps.existingInstance request entry.mapId instanceId) then 0
        else instanceId
    | .garrison => garrisonInstanceId player
    | .world => worldInstanceId entry player

end InstanceMaps

end RustyCore.Maps
