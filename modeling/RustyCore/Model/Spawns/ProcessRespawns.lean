import RustyCore.Model.Pools.PoolMgr
import RustyCore.Model.Spawns.CheckRespawn

/-! # Processing the due respawn timers of a map

`Map::process_due_respawns_composite_loaded_grid_respawns_like_cpp`: the timer at the head of
the queue is taken up again and again until none is due. A pooled timer updates its pool, and
the actions of the pool plan are applied to the map; any other timer goes through the respawn
check. -/

namespace RustyCore.Spawns

open Pools

/-- A manager of pools, with the pool of each spawn. -/
structure SpawnPoolMgr extends PoolMgr where
  creatureSpawnToPool : Dict ℕ ℕ
  gameobjectSpawnToPool : Dict ℕ ℕ

/-- The pool id 0 stands for no pool; no branch fails. -/
def SpawnPoolMgr.isPartOfAPool (mgr : SpawnPoolMgr) (spawnType : SpawnObjectType)
    (spawnId : ℕ) : Except PoolMgrPlanError ℕ :=
  match spawnType with
  | .creature => .ok ((mgr.creatureSpawnToPool.lookup spawnId).getD 0)
  | .gameObject => .ok ((mgr.gameobjectSpawnToPool.lookup spawnId).getD 0)
  | .areaTrigger => .ok 0

def poolMemberKindToSpawnObjectType : PoolMemberKind → Option SpawnObjectType
  | .creature => some .creature
  | .gameObject => some .gameObject
  | .pool => none

structure LoadedGridRespawnRecords (ρ : Type) where
  preAddRecords : List (MapObjectRecord ρ)
  primaryRecord : MapObjectRecord ρ

structure PoolSpawnActionLoadPlan where
  objectType : SpawnObjectType
  spawnId : ℕ
  respawn : Bool

inductive RemoveFromMapError where
  | objectNotFound
  | resetMap

abbrev TypedSpawnPlan := PoolTypedSpawnPlan PoolSpawnPoolPlan PoolDespawnPoolPlan

/-- `ProcessRespawnsSafeSideEffectsSummaryLikeCpp` -/
structure ProcessRespawnsSummary (ρ : Type) where
  deletedInactiveSpawnGroup : ℕ
  deletedLiveObjectBlocker : ℕ
  rescheduledLinkedRespawns : List RespawnInfo
  processedPoolTimers : ℕ
  processedUnloadedGridRespawns : ℕ
  poolUpdatePlans : List TypedSpawnPlan
  poolObjectsRemoved : ℕ
  poolRespawnTimersRemoved : ℕ
  poolRespawnTimersMissing : ℕ
  poolStaleIndexEntries : ℕ
  poolRemoveErrors : ℕ
  poolSpawnActionsSkippedUnloadedGrid : ℕ
  poolSpawnActionsBlockedLoadedGrid : ℕ
  poolSpawnActionLoadPlans : List PoolSpawnActionLoadPlan
  poolSpawnActionsMissingSpawnData : ℕ
  poolUnsupportedActionKind : ℕ
  blockedPoolPlanErrors : List PoolMgrPlanError
  blockedMissingSpawnData : ℕ
  executedLoadedGridRespawns : ℕ
  blockedLoadedGridRespawnLoads : ℕ
  blockedLoadedGridRespawnAddToMap : ℕ
  loadedGridPrimaryRecords : List (MapObjectRecord ρ)
  blockedDoRespawnRuntime : ℕ
  blockedLinkedRespawnNonFuture : ℕ
  blockedUnsupportedSpawnType : ℕ

def ProcessRespawnsSummary.default (ρ : Type) : ProcessRespawnsSummary ρ :=
  ⟨0, 0, [], 0, 0, [], 0, 0, 0, 0, 0, 0, 0, [], 0, 0, [], 0, 0, 0, 0, [], 0, 0, 0⟩

/-- What a call goes by: its arguments, and the parts of the map outside this model. The
closures share a state `σ`; no other call reaches the respawn timers. -/
structure RespawnCall (σ ω ρ : Type) where
  now : ℤ
  spawnStore : SpawnStore
  /-- The grid of a spawn, as `cell_from_world` computes it from the spawn point. -/
  spawnGrid : SpawnObjectType → ℕ → ℕ × ℕ
  linkedStore : LinkedRespawnStore
  poolMgr : SpawnPoolMgr
  jitterSecs : ℕ
  respawnDynamicEscortnpc : Bool
  isCreatureEscorted : ObjectGuid → MapObjectRecord ρ → σ → Bool × σ
  dice : PoolDice σ
  consumeDueTimerOnLoadFailure : Bool
  loadRecord : Map ω ρ → SpawnObjectType → ℕ → σ →
    Option (LoadedGridRespawnRecords ρ) × Map ω ρ × σ
  /-- `add_map_object_record_to_map_like_cpp`; the flag tells whether it succeeds. -/
  addMapObjectRecordToMap : MapBody ω ρ → MapObjectRecord ρ → Bool × MapBody ω ρ
  /-- `remove_from_map_like_cpp`, with the object deleted from the world. -/
  removeFromMap : MapBody ω ρ → ObjectGuid → Except RemoveFromMapError Unit × MapBody ω ρ

/-- Where a call stands. -/
structure Respawning (σ ω ρ : Type) where
  map : Map ω ρ
  seed : σ
  summary : ProcessRespawnsSummary ρ

namespace Respawning

section Steps

variable {σ ω ρ : Type} (s : Respawning σ ω ρ) (call : RespawnCall σ ω ρ)

def count (update : ProcessRespawnsSummary ρ → ProcessRespawnsSummary ρ) : Respawning σ ω ρ :=
  { s with summary := update s.summary }

def withStore (store : RespawnStore) : Respawning σ ω ρ :=
  { s with map := { s.map with respawnStore := store } }

def withBody (body : MapBody ω ρ) : Respawning σ ω ρ :=
  { s with map := { s.map with toMapBody := body } }

/-- What a loader leaves. -/
def loaded (map : Map ω ρ) (seed : σ) : Respawning σ ω ρ := ⟨map, seed, s.summary⟩

def removeRespawnTime (objectType : SpawnObjectType) (spawnId : ℕ) : Respawning σ ω ρ :=
  s.withStore (s.map.respawnStore.removeRespawnTimeLikeCpp objectType spawnId).2

/-- The records of a loader; the result for the first ones is dropped. -/
def addLoadedRecords (records : LoadedGridRespawnRecords ρ) : Respawning σ ω ρ :=
  let s := s.withBody <| records.preAddRecords.foldl
    (fun body record => (call.addMapObjectRecordToMap body record).2) s.map.toMapBody
  match call.addMapObjectRecordToMap s.map.toMapBody records.primaryRecord with
  | (true, body) =>
    (s.withBody body).count fun summary =>
      { summary with
        executedLoadedGridRespawns := summary.executedLoadedGridRespawns + 1
        loadedGridPrimaryRecords := summary.loadedGridPrimaryRecords ++ [records.primaryRecord] }
  | (false, body) =>
    (s.withBody body).count fun summary =>
      { summary with
        blockedLoadedGridRespawnAddToMap := summary.blockedLoadedGridRespawnAddToMap + 1 }

/-! ## Actions of a pool plan -/

def poolUnsupported : Respawning σ ω ρ :=
  s.count fun summary =>
    { summary with poolUnsupportedActionKind := summary.poolUnsupportedActionKind + 1 }

def despawnObject (guid : ObjectGuid) : Respawning σ ω ρ :=
  if (s.map.entityWorld.lookup guid).isNone then
    s.count fun summary =>
      { summary with poolStaleIndexEntries := summary.poolStaleIndexEntries + 1 }
  else
    match call.removeFromMap s.map.toMapBody guid with
    | (.ok _, body) =>
      (s.withBody body).count fun summary =>
        { summary with poolObjectsRemoved := summary.poolObjectsRemoved + 1 }
    | (.error .objectNotFound, body) =>
      (s.withBody body).count fun summary =>
        { summary with poolStaleIndexEntries := summary.poolStaleIndexEntries + 1 }
    | (.error .resetMap, body) =>
      (s.withBody body).count fun summary =>
        { summary with poolRemoveErrors := summary.poolRemoveErrors + 1 }

/-- The guids of an index entry, in order. -/
def storeGuids (index : Dict ℕ (List ObjectGuid)) (spawnId : ℕ) : List ObjectGuid :=
  ((index.lookup spawnId).getD []).mergeSort ObjectGuid.le

/-- `apply_pool_despawn_one_safe_map_action_like_cpp` -/
def applyPoolDespawnOne (kind : PoolMemberKind) (spawnId : ℕ) : Respawning σ ω ρ :=
  match kind with
  | .creature =>
    (storeGuids s.map.creaturesBySpawnId spawnId).foldl (fun s guid => s.despawnObject call guid)
      s
  | .gameObject =>
    (storeGuids s.map.gameobjectsBySpawnId spawnId).foldl
      (fun s guid => s.despawnObject call guid) s
  | .pool => s.poolUnsupported

/-- `report_pool_spawn_one_action_like_cpp`, where the caller has a loader. -/
def reportPoolSpawnOne (kind : PoolMemberKind) (spawnId : ℕ) (respawn : Bool) :
    Respawning σ ω ρ :=
  match poolMemberKindToSpawnObjectType kind with
  | none => s.poolUnsupported
  | some objectType =>
    if (call.spawnStore.spawnData objectType spawnId).isNone then
      s.count fun summary =>
        { summary with
          poolSpawnActionsMissingSpawnData := summary.poolSpawnActionsMissingSpawnData + 1 }
    else if s.map.isGridLoaded (call.spawnGrid objectType spawnId) = false then
      s.count fun summary =>
        { summary with
          poolSpawnActionsSkippedUnloadedGrid :=
            summary.poolSpawnActionsSkippedUnloadedGrid + 1 }
    else
      match call.loadRecord s.map objectType spawnId s.seed with
      | (none, map, seed) =>
        (s.loaded map seed).count fun summary =>
          { summary with
            poolSpawnActionsBlockedLoadedGrid := summary.poolSpawnActionsBlockedLoadedGrid + 1
            poolSpawnActionLoadPlans :=
              summary.poolSpawnActionLoadPlans ++ [⟨objectType, spawnId, respawn⟩] }
      | (some records, map, seed) =>
        (s.loaded map seed).addLoadedRecords call records

/-- A timer that a plan drops. -/
def removePoolRespawnTime (objectType : SpawnObjectType) (spawnId : ℕ) : Respawning σ ω ρ :=
  match s.map.respawnStore.removeRespawnTimeLikeCpp objectType spawnId with
  | (some _, store) =>
    (s.withStore store).count fun summary =>
      { summary with poolRespawnTimersRemoved := summary.poolRespawnTimersRemoved + 1 }
  | (none, store) =>
    (s.withStore store).count fun summary =>
      { summary with poolRespawnTimersMissing := summary.poolRespawnTimersMissing + 1 }

/-- `apply_pool_spawn_object_action_loaded_grid_records_like_cpp` -/
def applyPoolSpawnObjectAction (action : PoolSpawnObjectAction) : Respawning σ ω ρ :=
  match action with
  | .despawnOne kind guid => s.applyPoolDespawnOne call kind guid
  | .respawnOne kind guid =>
    (s.applyPoolDespawnOne call kind guid).reportPoolSpawnOne call kind guid true
  | .removeRespawnTime kind guid =>
    match poolMemberKindToSpawnObjectType kind with
    | none => s
    | some objectType => s.removePoolRespawnTime objectType guid
  | .spawnOne kind guid => s.reportPoolSpawnOne call kind guid false

end Steps

/-! ## Pool plans

A plan runs its actions in order; an action on a child pool runs the next of its plans, which
come here as the programs that they are. -/

section Plans

variable {σ ω ρ : Type} (call : RespawnCall σ ω ρ)

/-- The actions of a despawn plan; one that drops the timer of a child pool ends them. -/
def applyDespawnActions :
    List PoolSpawnObjectAction → List (Respawning σ ω ρ → Respawning σ ω ρ) → Respawning σ ω ρ →
      Respawning σ ω ρ
  | [], _, s => s
  | .despawnOne .pool _ :: rest, [], s => applyDespawnActions rest [] s.poolUnsupported
  | .despawnOne .pool _ :: rest, child :: children, s => applyDespawnActions rest children (child s)
  | .despawnOne kind guid :: rest, children, s =>
    applyDespawnActions rest children (s.applyPoolDespawnOne call kind guid)
  | .removeRespawnTime kind guid :: rest, children, s =>
    match poolMemberKindToSpawnObjectType kind with
    | none => s
    | some objectType =>
      applyDespawnActions rest children (s.removePoolRespawnTime objectType guid)
  | .spawnOne _ _ :: rest, children, s => applyDespawnActions rest children s
  | .respawnOne _ _ :: rest, children, s => applyDespawnActions rest children s

def applySpawnActions :
    List PoolSpawnObjectAction → List (Respawning σ ω ρ → Respawning σ ω ρ) →
      List (Respawning σ ω ρ → Respawning σ ω ρ) → Respawning σ ω ρ → Respawning σ ω ρ
  | [], _, _, s => s
  | .spawnOne .pool _ :: rest, [], despawns, s =>
    applySpawnActions rest [] despawns s.poolUnsupported
  | .spawnOne .pool _ :: rest, child :: spawns, despawns, s =>
    applySpawnActions rest spawns despawns (child s)
  | .despawnOne .pool _ :: rest, spawns, [], s =>
    applySpawnActions rest spawns [] s.poolUnsupported
  | .despawnOne .pool _ :: rest, spawns, child :: despawns, s =>
    applySpawnActions rest spawns despawns (child s)
  | .respawnOne .pool _ :: rest, spawns, despawns, s => applySpawnActions rest spawns despawns s
  | .removeRespawnTime .pool _ :: rest, spawns, despawns, s =>
    applySpawnActions rest spawns despawns s
  | action :: rest, spawns, despawns, s =>
    applySpawnActions rest spawns despawns (s.applyPoolSpawnObjectAction call action)

mutual

def applyDespawnPoolPlan : PoolDespawnPoolPlan → Respawning σ ω ρ → Respawning σ ω ρ
  | .mk _ _ subplans => applyDespawnSubplans subplans

def applyDespawnSubplans :
    List (PoolTypedDespawnPlan PoolDespawnPoolPlan) → Respawning σ ω ρ → Respawning σ ω ρ
  | [] => id
  | subplan :: rest => applyDespawnSubplans rest ∘ applyTypedDespawnPlan subplan

def applyTypedDespawnPlan :
    PoolTypedDespawnPlan PoolDespawnPoolPlan → Respawning σ ω ρ → Respawning σ ω ρ
  | ⟨_, _, _, _, objectPlan, _⟩ => applyDespawnObjectPlan objectPlan

def applyDespawnObjectPlan :
    Option (PoolDespawnObjectPlan PoolDespawnPoolPlan) → Respawning σ ω ρ → Respawning σ ω ρ
  | none => id
  | some ⟨actions, _, _, _, _, childPoolPlans⟩ =>
    applyDespawnActions call actions (applyDespawnChildren childPoolPlans)

def applyDespawnChildren :
    List PoolDespawnPoolPlan → List (Respawning σ ω ρ → Respawning σ ω ρ)
  | [] => []
  | child :: rest => applyDespawnPoolPlan child :: applyDespawnChildren rest

end

mutual

def applySpawnPoolPlan : PoolSpawnPoolPlan → Respawning σ ω ρ → Respawning σ ω ρ
  | .mk _ subplans => applySpawnSubplans subplans

def applySpawnSubplans : List TypedSpawnPlan → Respawning σ ω ρ → Respawning σ ω ρ
  | [] => id
  | subplan :: rest => applySpawnSubplans rest ∘ applyTypedSpawnPlan subplan

/-- `apply_pool_typed_spawn_plan_loaded_grid_records_like_cpp` -/
def applyTypedSpawnPlan : TypedSpawnPlan → Respawning σ ω ρ → Respawning σ ω ρ
  | ⟨_, _, _, _, objectPlan, _⟩ => applySpawnObjectPlan objectPlan

def applySpawnObjectPlan :
    Option (PoolSpawnObjectPlan PoolSpawnPoolPlan PoolDespawnPoolPlan) →
      Respawning σ ω ρ → Respawning σ ω ρ
  | none => id
  | some ⟨actions, _, _, _, childPoolSpawnPlans, childPoolDespawnPlans⟩ =>
    applySpawnActions call actions (applySpawnChildren childPoolSpawnPlans)
      (applyDespawnChildren call childPoolDespawnPlans)

def applySpawnChildren : List PoolSpawnPoolPlan → List (Respawning σ ω ρ → Respawning σ ω ρ)
  | [] => []
  | child :: rest => applySpawnPoolPlan child :: applySpawnChildren rest

end

end Plans

/-! ## The loop -/

section Loop

variable {σ ω ρ : Type} (s : Respawning σ ω ρ) (call : RespawnCall σ ω ρ)

/-- The update of a pool; the data keep what a failed plan has done. -/
def updatePool (poolId : ℕ) (objectType : SpawnObjectType) (spawnId : ℕ) :
    Except PoolMgrPlanError TypedSpawnPlan × Respawning σ ω ρ :=
  match call.poolMgr.updatePoolPlan call.dice poolId objectType spawnId
      ⟨s.map.poolData, s.seed⟩ with
  | .ok plan state =>
    (.ok plan, ⟨{ s.map with poolData := state.spawns }, state.dice, s.summary⟩)
  | .error error state =>
    (.error error, ⟨{ s.map with poolData := state.spawns }, state.dice, s.summary⟩)

/-- A timer that may respawn: the flag tells whether the loop is left. -/
def doRespawn (objectType : SpawnObjectType) (spawnId gridId : ℕ) : Respawning σ ω ρ × Bool :=
  if s.map.isGridIdLoaded gridId then
    match call.loadRecord s.map objectType spawnId s.seed with
    | (none, map, seed) =>
      let s := (s.loaded map seed).count fun summary =>
        { summary with
          blockedLoadedGridRespawnLoads := summary.blockedLoadedGridRespawnLoads + 1
          blockedDoRespawnRuntime := summary.blockedDoRespawnRuntime + 1 }
      if call.consumeDueTimerOnLoadFailure then (s.removeRespawnTime objectType spawnId, false)
      else (s, true)
    | (some records, map, seed) =>
      (((s.loaded map seed).removeRespawnTime objectType spawnId).addLoadedRecords call records,
        false)
  else
    ((s.removeRespawnTime objectType spawnId).count fun summary =>
      { summary with processedUnloadedGridRespawns := summary.processedUnloadedGridRespawns + 1 },
      false)

/-- A timer that a linked spawn holds back. -/
def reschedule (checkedInfo : RespawnInfo) (objectType : SpawnObjectType) (spawnId : ℕ) :
    Respawning σ ω ρ × Bool :=
  if checkedInfo.respawnTime = i64Max ∨ call.now < checkedInfo.respawnTime then
    let s := s.removeRespawnTime objectType spawnId
    ((s.withStore (s.map.respawnStore.addRespawnInfoLikeCpp checkedInfo).2).count fun summary =>
      { summary with
        rescheduledLinkedRespawns := summary.rescheduledLinkedRespawns ++ [checkedInfo] }, false)
  else
    (s.count fun summary =>
      { summary with blockedLinkedRespawnNonFuture := summary.blockedLinkedRespawnNonFuture + 1 },
      true)

def blockedMissingSpawnData : Respawning σ ω ρ :=
  s.count fun summary =>
    { summary with blockedMissingSpawnData := summary.blockedMissingSpawnData + 1 }

def blockedDoRespawnRuntime : Respawning σ ω ρ :=
  s.count fun summary =>
    { summary with blockedDoRespawnRuntime := summary.blockedDoRespawnRuntime + 1 }

/-- A live object holds the spawn back: its timer goes. -/
def deleteLiveObjectBlocker (checkedInfo : RespawnInfo) (objectType : SpawnObjectType)
    (spawnId : ℕ) : Respawning σ ω ρ × Bool :=
  if checkedInfo.respawnTime = 0 then
    ((s.removeRespawnTime objectType spawnId).count fun summary =>
      { summary with deletedLiveObjectBlocker := summary.deletedLiveObjectBlocker + 1 }, false)
  else (s.blockedDoRespawnRuntime, true)

def deleteInactiveSpawnGroup (checkedInfo : RespawnInfo) (objectType : SpawnObjectType)
    (spawnId : ℕ) : Respawning σ ω ρ × Bool :=
  if checkedInfo.respawnTime = 0 then
    ((s.removeRespawnTime objectType spawnId).count fun summary =>
      { summary with deletedInactiveSpawnGroup := summary.deletedInactiveSpawnGroup + 1 }, false)
  else (s.blockedDoRespawnRuntime, true)

/-- A due timer that no pool has. -/
def processSpawn (objectType : SpawnObjectType) (spawnId : ℕ) (info : RespawnInfo) :
    Respawning σ ω ρ × Bool :=
  if (call.spawnStore.spawnData objectType spawnId).isNone then
    if call.consumeDueTimerOnLoadFailure then
      (s.blockedMissingSpawnData.removeRespawnTime objectType spawnId, false)
    else (s.blockedMissingSpawnData, true)
  else
    match s.map.checkRespawn info call.spawnStore call.linkedStore call.now call.jitterSecs
        call.respawnDynamicEscortnpc call.isCreatureEscorted s.seed with
    | (outcome, checkedInfo, seed) =>
      let s := s.loaded s.map seed
      match outcome with
      | .inactiveSpawnGroupDeletedTimer =>
        s.deleteInactiveSpawnGroup checkedInfo objectType spawnId
      | .aliveCreatureBlocksRespawn => s.deleteLiveObjectBlocker checkedInfo objectType spawnId
      | .gameObjectBlocksRespawn => s.deleteLiveObjectBlocker checkedInfo objectType spawnId
      | .allowed => s.doRespawn call objectType spawnId checkedInfo.gridId
      | .linkedInfinite => s.reschedule call checkedInfo objectType spawnId
      | .linkedSelfNeverRespawn => s.reschedule call checkedInfo objectType spawnId
      | .linkedDelayed => s.reschedule call checkedInfo objectType spawnId
      | .missingSpawnData => (s.blockedMissingSpawnData, true)
      | .unsupportedSpawnType =>
        (s.count fun summary =>
          { summary with
            blockedUnsupportedSpawnType := summary.blockedUnsupportedSpawnType + 1 }, true)

def blockedPoolPlanError (error : PoolMgrPlanError) : Respawning σ ω ρ :=
  s.count fun summary =>
    { summary with blockedPoolPlanErrors := summary.blockedPoolPlanErrors ++ [error] }

/-- A due timer of a pool. -/
def processPooled (poolId : ℕ) (objectType : SpawnObjectType) (spawnId : ℕ) :
    Respawning σ ω ρ × Bool :=
  match s.updatePool call poolId objectType spawnId with
  | (.error error, s) => (s.blockedPoolPlanError error, true)
  | (.ok plan, s) =>
    (((applyTypedSpawnPlan call plan s).removeRespawnTime objectType spawnId).count
      fun summary =>
        { summary with
          processedPoolTimers := summary.processedPoolTimers + 1
          poolUpdatePlans := summary.poolUpdatePlans ++ [plan] }, false)

def processTimer (objectType : SpawnObjectType) (spawnId : ℕ) (info : RespawnInfo) :
    Respawning σ ω ρ × Bool :=
  match call.poolMgr.isPartOfAPool objectType spawnId with
  | .error error => (s.blockedPoolPlanError error, true)
  | .ok poolId =>
    if poolId = 0 then s.processSpawn call objectType spawnId info
    else s.processPooled call poolId objectType spawnId

/-- One round, for the head of the queue. -/
def processRound : Respawning σ ω ρ × Bool :=
  match s.map.respawnStore.respawnTimes.toList with
  | [] => (s, true)
  | key :: _ =>
    match s.map.respawnStore.getRespawnInfoLikeCpp key.objectType key.spawnId with
    | none => (s.blockedMissingSpawnData, true)
    | some info =>
      if call.now < info.respawnTime then (s, true)
      else s.processTimer call key.objectType key.spawnId info

/-- `none` when the loop does not end within the rounds that the fuel allows. -/
def processRounds : ℕ → Respawning σ ω ρ → Option (Respawning σ ω ρ)
  | 0, _ => none
  | fuel + 1, s =>
    match s.processRound call with
    | (s, true) => some s
    | (s, false) => processRounds fuel s

end Loop

end Respawning

/-- The call ends with this map and summary after some number of rounds. -/
def Map.processDueRespawns {σ ω ρ : Type} (map : Map ω ρ) (call : RespawnCall σ ω ρ) (seed : σ)
    (fuel : ℕ) : Option (Respawning σ ω ρ) :=
  Respawning.processRounds call fuel ⟨map, seed, .default ρ⟩

end RustyCore.Spawns
