import RustyCore.Model.Pools.PoolGroup

/-! # Pool manager

The templates and groups of all pools, and the calls that spawn, update and despawn a pool
with the child pools below it. -/

namespace RustyCore.Pools

structure PoolTemplateData where
  maxLimit : ℕ

inductive PoolMgrPlanSkipReason where
  | missingGroup
  | emptyGroup

/-- One group of a pool; `δ` are the plans of whole pools. -/
structure PoolTypedDespawnPlan (δ : Type) where
  kind : PoolMemberKind
  poolId : ℕ
  requestedGuid : ℕ
  alwaysDeleteRespawnTime : Bool
  objectPlan : Option (PoolDespawnObjectPlan δ)
  skipReason : Option PoolMgrPlanSkipReason

inductive PoolDespawnPoolPlan where
  | mk (poolId : ℕ) (alwaysDeleteRespawnTime : Bool)
      (subplans : List (PoolTypedDespawnPlan PoolDespawnPoolPlan))

/-- One group of a pool; `ρ` and `δ` are the plans of whole pools. -/
structure PoolTypedSpawnPlan (ρ δ : Type) where
  kind : PoolMemberKind
  poolId : ℕ
  triggerFrom : ℕ
  maxLimit : Option ℕ
  objectPlan : Option (PoolSpawnObjectPlan ρ δ)
  skipReason : Option PoolMgrPlanSkipReason

inductive PoolSpawnPoolPlan where
  | mk (poolId : ℕ) (subplans : List (PoolTypedSpawnPlan PoolSpawnPoolPlan PoolDespawnPoolPlan))

/-- The closures a caller brings along: the roll for a group with explicit chances, and the
choice among the equally likely. -/
structure PoolDice (σ : Type) where
  explicitRollFor : PoolMemberKind → ℕ → σ → Float32 × σ
  chooseEqual : List PoolObject → ℕ → σ → List ℕ × σ

structure PoolMgr where
  templates : Dict ℕ PoolTemplateData
  creatureGroups : Dict ℕ PoolGroup
  gameobjectGroups : Dict ℕ PoolGroup
  poolGroups : Dict ℕ PoolGroup
  childPoolToParent : Dict ℕ ℕ

namespace PoolMgr

def group (mgr : PoolMgr) (kind : PoolMemberKind) (poolId : ℕ) : Option PoolGroup :=
  match kind with
  | .creature => mgr.creatureGroups.lookup poolId
  | .gameObject => mgr.gameobjectGroups.lookup poolId
  | .pool => mgr.poolGroups.lookup poolId

def insertOrReplaceGroup (mgr : PoolMgr) (kind : PoolMemberKind) (poolId : ℕ)
    (group : PoolGroup) : Except PoolMgrPlanError PoolMgr :=
  if group.memberKind ≠ kind then .error (.wrongGroupKind kind group.memberKind)
  else
    let group := { group with poolId := poolId }
    match kind with
    | .creature => .ok { mgr with creatureGroups := mgr.creatureGroups.insert poolId group }
    | .gameObject => .ok { mgr with gameobjectGroups := mgr.gameobjectGroups.insert poolId group }
    | .pool => .ok { mgr with poolGroups := mgr.poolGroups.insert poolId group }

/-- The id of the first child pool that does not fit, explicit chances first. -/
def childPoolOverflow (group : PoolGroup) : Option ℕ :=
  if group.memberKind ≠ .pool then none
  else ((group.explicitlyChanced ++ group.equalChanced).find?
    fun child => (childPoolIdOf child.guid).isNone).map PoolObject.guid

def despawnTypedPoolPlan {σ : Type} (mgr : PoolMgr) (kind : PoolMemberKind)
    (poolId requestedGuid : ℕ) (alwaysDeleteRespawnTime : Bool)
    (despawnChildPool : ℕ → Bool → PlanM σ PoolDespawnPoolPlan) :
    PlanM σ (PoolTypedDespawnPlan PoolDespawnPoolPlan) :=
  let skip := PoolTypedDespawnPlan.mk kind poolId requestedGuid alwaysDeleteRespawnTime none
  match mgr.group kind poolId with
  | none => return skip (some .missingGroup)
  | some group =>
    if group.isEmpty then return skip (some .emptyGroup)
    else do
      let objectPlan ← group.despawnObjectPlan requestedGuid alwaysDeleteRespawnTime
        despawnChildPool
      return { skip none with objectPlan := some objectPlan }

/-- `visiting` are the pools whose calls are still open. With `fuel` above the number of pools
that have child pools, the recursion ends before the fuel does. -/
def despawnPoolPlanWithVisited {σ : Type} (mgr : PoolMgr) :
    (fuel : ℕ) → (visiting : List ℕ) → (poolId : ℕ) → (alwaysDeleteRespawnTime : Bool) →
      PlanM σ PoolDespawnPoolPlan
  | 0, _, poolId, _ => throw (.childPoolCycle poolId)
  | fuel + 1, visiting, poolId, alwaysDeleteRespawnTime =>
    if poolId ∈ visiting then throw (.childPoolCycle poolId)
    else do
      let subplans ← [PoolMemberKind.creature, .gameObject, .pool].mapM fun kind =>
        mgr.despawnTypedPoolPlan kind poolId 0 alwaysDeleteRespawnTime
          (mgr.despawnPoolPlanWithVisited fuel (poolId :: visiting))
      return .mk poolId alwaysDeleteRespawnTime subplans

def spawnTypedPoolPlan {σ : Type} (mgr : PoolMgr) (dice : PoolDice σ) (kind : PoolMemberKind)
    (poolId triggerFrom : ℕ) (spawnChildPool : ℕ → PlanM σ PoolSpawnPoolPlan)
    (despawnChildPool : ℕ → Bool → PlanM σ PoolDespawnPoolPlan) :
    PlanM σ (PoolTypedSpawnPlan PoolSpawnPoolPlan PoolDespawnPoolPlan) :=
  let skip := PoolTypedSpawnPlan.mk kind poolId triggerFrom none none
  match mgr.group kind poolId with
  | none => return skip (some .missingGroup)
  | some group =>
    if group.isEmpty then return skip (some .emptyGroup)
    else
      match childPoolOverflow group with
      | some childPoolId => throw (.childPoolIdOverflow childPoolId)
      | none =>
        match mgr.templates.lookup poolId with
        | none => throw (.missingTemplate poolId)
        | some template => do
            let objectPlan ←
              if kind = .pool then
                group.spawnObjectPlanWithChildPools template.maxLimit triggerFrom
                  (dice.explicitRollFor kind poolId) dice.chooseEqual spawnChildPool
                  despawnChildPool
              else
                -- No child pools: the calls for them are placeholders.
                unwrapOr (group.spawnObjectPlanWithChildPools template.maxLimit triggerFrom
                  (dice.explicitRollFor kind poolId) dice.chooseEqual
                  (fun _ => return .mk 0 []) (fun _ _ => return .mk 0 false [])) .empty
            return ⟨kind, poolId, triggerFrom, some template.maxLimit, some objectPlan, none⟩

def spawnPoolPlanWithVisited {σ : Type} (mgr : PoolMgr) (dice : PoolDice σ) :
    (fuel : ℕ) → (visiting : List ℕ) → (poolId : ℕ) → PlanM σ PoolSpawnPoolPlan
  | 0, _, poolId => throw (.childPoolCycle poolId)
  | fuel + 1, visiting, poolId =>
    if poolId ∈ visiting then throw (.childPoolCycle poolId)
    else do
      let subplans ← [PoolMemberKind.pool, .gameObject, .creature].mapM fun kind =>
        mgr.spawnTypedPoolPlan dice kind poolId 0
          (mgr.spawnPoolPlanWithVisited dice fuel (poolId :: visiting))
          (mgr.despawnPoolPlanWithVisited fuel (poolId :: visiting))
      return .mk poolId subplans

/-- One level for each pool that has child pools, and one for a pool that has none. -/
def fuel (mgr : PoolMgr) : ℕ := mgr.poolGroups.keys.length + 1

def spawnPoolPlan {σ : Type} (mgr : PoolMgr) (dice : PoolDice σ) (poolId : ℕ) :
    PlanM σ PoolSpawnPoolPlan :=
  mgr.spawnPoolPlanWithVisited dice mgr.fuel [] poolId

def despawnPoolPlan {σ : Type} (mgr : PoolMgr) (poolId : ℕ) (alwaysDeleteRespawnTime : Bool) :
    PlanM σ PoolDespawnPoolPlan :=
  mgr.despawnPoolPlanWithVisited mgr.fuel [] poolId alwaysDeleteRespawnTime

/-- A child pool is updated through its mother pool, where the child itself is the trigger. -/
def updatePoolPlan {σ : Type} (mgr : PoolMgr) (dice : PoolDice σ) (poolId : ℕ)
    (spawnType : SpawnObjectType) (spawnId : ℕ) :
    PlanM σ (PoolTypedSpawnPlan PoolSpawnPoolPlan PoolDespawnPoolPlan) :=
  let spawnTyped := fun kind poolId triggerFrom =>
    mgr.spawnTypedPoolPlan dice kind poolId triggerFrom
      (mgr.spawnPoolPlanWithVisited dice mgr.fuel [])
      (mgr.despawnPoolPlanWithVisited mgr.fuel [])
  if spawnType = .areaTrigger then throw (.unsupportedSpawnType spawnType)
  else
    match mgr.childPoolToParent.lookup poolId with
    | some motherPoolId => spawnTyped .pool motherPoolId poolId
    | none => spawnTyped (if spawnType = .creature then .creature else .gameObject) poolId spawnId

end PoolMgr

/-! ## Runs of calls -/

/-- A call on the spawned pool data of a map, with the closures it is given. -/
inductive PoolCall : Type 1 where
  | spawn {σ : Type} (dice : PoolDice σ) (seed : σ) (poolId : ℕ)
  | despawn (poolId : ℕ) (alwaysDeleteRespawnTime : Bool)
  | update {σ : Type} (dice : PoolDice σ) (seed : σ) (poolId : ℕ) (spawnType : SpawnObjectType)
      (spawnId : ℕ)

/-- The data after a call, whether it succeeds or not. -/
def poolStep (mgr : PoolMgr) (spawns : SpawnedPoolData) : PoolCall → SpawnedPoolData
  | .spawn dice seed poolId => (finalState (mgr.spawnPoolPlan dice poolId) ⟨spawns, seed⟩).spawns
  | .despawn poolId alwaysDeleteRespawnTime =>
    (finalState (mgr.despawnPoolPlan poolId alwaysDeleteRespawnTime) ⟨spawns, ()⟩).spawns
  | .update dice seed poolId spawnType spawnId =>
    (finalState (mgr.updatePoolPlan dice poolId spawnType spawnId) ⟨spawns, seed⟩).spawns

end RustyCore.Pools
