import Mathlib.Algebra.Group.Nat.Defs
import Mathlib.Data.Finset.Erase
import Mathlib.Data.Finset.Insert
import RustyCore.Library.Dict
import RustyCore.Library.Fallible

/-! # Pool groups and what they spawn

What a map remembers of its pools: the creatures and game objects that are spawned, and one
map from pools to counters. A child pool is spawned when it has an entry in that map. -/

namespace RustyCore.Pools

inductive SpawnObjectType where
  | creature
  | gameObject
  | areaTrigger
deriving DecidableEq

inductive SpawnedPoolDataError where
  | unsupportedSpawnObjectType (objectType : SpawnObjectType)

structure SpawnedPoolData where
  spawnedCreatures : Finset ℕ
  spawnedGameobjects : Finset ℕ
  spawnedPools : Dict ℕ ℕ

/-- `*spawned_pools.entry(pool_id).or_insert(0) += 1`, on a 32-bit counter. -/
def incrementPoolCounter (spawnedPools : Dict ℕ ℕ) (poolId : ℕ) : Dict ℕ ℕ :=
  AList.insert poolId (((spawnedPools.lookup poolId).getD 0 + 1) % 2 ^ 32) spawnedPools

def decrementPoolCounter (spawnedPools : Dict ℕ ℕ) (poolId : ℕ) : Dict ℕ ℕ :=
  let counter := (spawnedPools.lookup poolId).getD 0
  AList.insert poolId (if 0 < counter then counter - 1 else counter) spawnedPools

namespace SpawnedPoolData

def empty : SpawnedPoolData := ⟨∅, ∅, ∅⟩

def getSpawnedObjects (spawns : SpawnedPoolData) (poolId : ℕ) : ℕ :=
  (spawns.spawnedPools.lookup poolId).getD 0

def isSpawnedCreature (spawns : SpawnedPoolData) (spawnId : ℕ) : Bool :=
  decide (spawnId ∈ spawns.spawnedCreatures)

def isSpawnedGameobject (spawns : SpawnedPoolData) (spawnId : ℕ) : Bool :=
  decide (spawnId ∈ spawns.spawnedGameobjects)

def isSpawnedPool (spawns : SpawnedPoolData) (subPoolId : ℕ) : Bool :=
  (spawns.spawnedPools.lookup subPoolId).isSome

def isSpawnedObject (spawns : SpawnedPoolData) (objectType : SpawnObjectType) (spawnId : ℕ) :
    Except SpawnedPoolDataError Bool :=
  match objectType with
  | .creature => .ok (spawns.isSpawnedCreature spawnId)
  | .gameObject => .ok (spawns.isSpawnedGameobject spawnId)
  | .areaTrigger => .error (.unsupportedSpawnObjectType objectType)

def addSpawn (spawns : SpawnedPoolData) (objectType : SpawnObjectType) (spawnId poolId : ℕ) :
    Except SpawnedPoolDataError SpawnedPoolData :=
  match objectType with
  | .creature => .ok
      { spawns with
        spawnedCreatures := insert spawnId spawns.spawnedCreatures
        spawnedPools := incrementPoolCounter spawns.spawnedPools poolId }
  | .gameObject => .ok
      { spawns with
        spawnedGameobjects := insert spawnId spawns.spawnedGameobjects
        spawnedPools := incrementPoolCounter spawns.spawnedPools poolId }
  | .areaTrigger => .error (.unsupportedSpawnObjectType objectType)

def removeSpawn (spawns : SpawnedPoolData) (objectType : SpawnObjectType) (spawnId poolId : ℕ) :
    Except SpawnedPoolDataError SpawnedPoolData :=
  match objectType with
  | .creature => .ok
      { spawns with
        spawnedCreatures := spawns.spawnedCreatures.erase spawnId
        spawnedPools := decrementPoolCounter spawns.spawnedPools poolId }
  | .gameObject => .ok
      { spawns with
        spawnedGameobjects := spawns.spawnedGameobjects.erase spawnId
        spawnedPools := decrementPoolCounter spawns.spawnedPools poolId }
  | .areaTrigger => .error (.unsupportedSpawnObjectType objectType)

/-- The entry of the child pool is reset: it marks the child as spawned. -/
def addPoolSpawn (spawns : SpawnedPoolData) (subPoolId poolId : ℕ) : SpawnedPoolData :=
  { spawns with
    spawnedPools := incrementPoolCounter (AList.insert subPoolId 0 spawns.spawnedPools) poolId }

def removePoolSpawn (spawns : SpawnedPoolData) (subPoolId poolId : ℕ) : SpawnedPoolData :=
  { spawns with
    spawnedPools := decrementPoolCounter (AList.erase subPoolId spawns.spawnedPools) poolId }

end SpawnedPoolData

end RustyCore.Pools

/-! ## Pool groups

A group holds the members of one kind that a pool may spawn: those with a chance of their
own, and those that are equally likely. Spawning and despawning its members changes the
spawned pool data and reports the actions to take. The calls for child pools come from
outside. -/

namespace RustyCore.Pools

structure PoolObject where
  guid : ℕ
  chance : Float32

inductive PoolMemberKind where
  | creature
  | gameObject
  | pool
deriving DecidableEq

inductive PoolSpawnObjectAction where
  | spawnOne (kind : PoolMemberKind) (guid : ℕ)
  | respawnOne (kind : PoolMemberKind) (guid : ℕ)
  | despawnOne (kind : PoolMemberKind) (guid : ℕ)
  | removeRespawnTime (kind : PoolMemberKind) (guid : ℕ)

inductive PoolMgrPlanError where
  | missingTemplate (poolId : ℕ)
  | wrongGroupKind (expected actual : PoolMemberKind)
  | unsupportedSpawnType (spawnType : SpawnObjectType)
  | childPoolIdOverflow (childPoolId : ℕ)
  | childPoolCycle (poolId : ℕ)

/-- What despawning the members of a group did; `δ` are the plans of its child pools. -/
structure PoolDespawnObjectPlan (δ : Type) where
  actions : List PoolSpawnObjectAction
  requestedGuid : ℕ
  alwaysDeleteRespawnTime : Bool
  despawned : List ℕ
  removedRespawnTimes : List (PoolMemberKind × ℕ)
  childPoolPlans : List δ

/-- What spawning from a group did; `ρ` and `δ` are the plans of its child pools. -/
structure PoolSpawnObjectPlan (ρ δ : Type) where
  actions : List PoolSpawnObjectAction
  selected : List PoolObject
  despawnedTrigger : Option ℕ
  respawnedTrigger : Bool
  childPoolSpawnPlans : List ρ
  childPoolDespawnPlans : List δ

def PoolSpawnObjectPlan.empty {ρ δ : Type} : PoolSpawnObjectPlan ρ δ :=
  ⟨[], [], none, false, [], []⟩

structure PoolGroup where
  poolId : ℕ
  memberKind : PoolMemberKind
  explicitlyChanced : List PoolObject
  equalChanced : List PoolObject

/-- `u32::try_from`, of the id of a child pool. -/
def childPoolIdOf (guid : ℕ) : Option ℕ := if guid < 2 ^ 32 then some guid else none

/-- The candidates at the chosen indices: at most `requested` of them, and none twice. -/
def takeChosen (candidates : List PoolObject) (requested : ℕ) :
    List ℕ → List ℕ → List PoolObject → List PoolObject
  | [], _, rolled => rolled
  | index :: rest, used, rolled =>
    if requested ≤ rolled.length then rolled
    else
      match candidates[index]? with
      | none => takeChosen candidates requested rest used rolled
      | some candidate =>
        if index ∈ used then takeChosen candidates requested rest used rolled
        else takeChosen candidates requested rest (index :: used) (rolled ++ [candidate])

/-! ## Programs on the spawned pool data -/

/-- The spawned pool data, and the state of the closures that roll the dice. -/
structure PlanState (σ : Type) where
  spawns : SpawnedPoolData
  dice : σ

/-- On an error the caller keeps the spawned pool data as they were left. -/
abbrev PlanM (σ : Type) := EStateM PoolMgrPlanError (PlanState σ)

section Programs

variable {σ ρ δ : Type}

def draw {α : Type} (closure : σ → α × σ) : PlanM σ α :=
  modifyGet fun state => ((closure state.dice).1, { state with dice := (closure state.dice).2 })

def readSpawns : PlanM σ SpawnedPoolData := do return (← get).spawns

def tryWrite (spawns : Option SpawnedPoolData) : PlanM σ Bool :=
  match spawns with
  | none => return false
  | some spawns => modifyGet fun state => (true, { state with spawns := spawns })

/-- `Result::unwrap_or`; the error is dropped and the state kept. -/
def unwrapOr {α : Type} (program : PlanM σ α) (default : α) : PlanM σ α :=
  tryCatch program fun _ => return default

namespace PoolGroup

def isEmpty (group : PoolGroup) : Bool :=
  group.explicitlyChanced.isEmpty && group.equalChanced.isEmpty

def containsGuid (group : PoolGroup) (guid : ℕ) : Bool :=
  (group.explicitlyChanced ++ group.equalChanced).any (·.guid == guid)

def isSpawnedInMap (group : PoolGroup) (spawns : SpawnedPoolData) (guid : ℕ) : Bool :=
  match group.memberKind with
  | .creature => spawns.isSpawnedCreature guid
  | .gameObject => spawns.isSpawnedGameobject guid
  | .pool => (childPoolIdOf guid).any spawns.isSpawnedPool

/-- Whether the spawn is accepted; a refused one changes nothing. -/
def addSpawnToMap (group : PoolGroup) (guid : ℕ) : PlanM σ Bool := do
  let spawns ← readSpawns
  tryWrite <| match group.memberKind with
    | .creature => (spawns.addSpawn .creature guid group.poolId).toOption
    | .gameObject => (spawns.addSpawn .gameObject guid group.poolId).toOption
    | .pool => (childPoolIdOf guid).map fun subPoolId => spawns.addPoolSpawn subPoolId group.poolId

def removeSpawnFromMap (group : PoolGroup) (guid : ℕ) : PlanM σ Bool := do
  let spawns ← readSpawns
  tryWrite <| match group.memberKind with
    | .creature => (spawns.removeSpawn .creature guid group.poolId).toOption
    | .gameObject => (spawns.removeSpawn .gameObject guid group.poolId).toOption
    | .pool =>
      (childPoolIdOf guid).map fun subPoolId => spawns.removePoolSpawn subPoolId group.poolId

/-- The members that may be chosen: those that are not spawned, and the trigger. -/
def eligible (group : PoolGroup) (spawns : SpawnedPoolData) (triggerFrom : ℕ)
    (obj : PoolObject) : Bool :=
  obj.guid == triggerFrom || !group.isSpawnedInMap spawns obj.guid

/-- Each chance is taken from the roll, until it falls below zero at a member that is
eligible. -/
def rollExplicit (group : PoolGroup) (spawns : SpawnedPoolData) (triggerFrom : ℕ) :
    Float32 → List PoolObject → Option PoolObject
  | _, [] => none
  | roll, obj :: rest =>
    if roll - obj.chance < 0 && group.eligible spawns triggerFrom obj then some obj
    else rollExplicit group spawns triggerFrom (roll - obj.chance) rest

/-- The member with a chance of its own that the roll falls on. -/
def rollExplicitlyChanced (group : PoolGroup) (triggerFrom : ℕ)
    (explicitRoll : σ → Float32 × σ) : PlanM σ (List PoolObject) :=
  if group.explicitlyChanced.isEmpty then return []
  else do
    let roll ← draw explicitRoll
    let spawns ← readSpawns
    return (group.rollExplicit spawns triggerFrom roll group.explicitlyChanced).toList

def chooseEqualChanced (group : PoolGroup) (count triggerFrom : ℕ)
    (chooseEqual : List PoolObject → ℕ → σ → List ℕ × σ) : PlanM σ (List PoolObject) := do
  let spawns ← readSpawns
  let candidates := group.equalChanced.filter (group.eligible spawns triggerFrom)
  let requested := min count candidates.length
  let chosenIndices ← draw (chooseEqual candidates requested)
  return takeChosen candidates requested chosenIndices [] []

def rollObjects (group : PoolGroup) (count triggerFrom : ℕ) (explicitRoll : σ → Float32 × σ)
    (chooseEqual : List PoolObject → ℕ → σ → List ℕ × σ) : PlanM σ (List PoolObject) := do
  let rolled ← group.rollExplicitlyChanced triggerFrom explicitRoll
  if group.equalChanced.isEmpty || !rolled.isEmpty then return rolled
  else group.chooseEqualChanced count triggerFrom chooseEqual

/-- The call for a member that is a child pool, with the plan it returns. -/
def callChildPool {α : Type} (group : PoolGroup) (guid : ℕ) (call : ℕ → PlanM σ α) :
    PlanM σ (List α) :=
  if group.memberKind = .pool then
    match childPoolIdOf guid with
    | none => throw (.childPoolIdOverflow guid)
    | some childPoolId => (fun plan => [plan]) <$> call childPoolId
  else return []

/-- Spawn one of the chosen members. The trigger itself is respawned, and is then no trigger
any more. -/
def spawnRolled (group : PoolGroup) (spawnChildPool : ℕ → PlanM σ ρ)
    (progress : ℕ × PoolSpawnObjectPlan ρ δ) (obj : PoolObject) :
    PlanM σ (ℕ × PoolSpawnObjectPlan ρ δ) :=
  let triggerFrom := progress.1
  let plan := { progress.2 with selected := progress.2.selected ++ [obj] }
  if obj.guid = triggerFrom then
    let respawned := if group.memberKind = .pool then []
      else [PoolSpawnObjectAction.respawnOne group.memberKind obj.guid]
    return (0, { plan with respawnedTrigger := true, actions := plan.actions ++ respawned })
  else do
    let added ← group.addSpawnToMap obj.guid
    if added then do
      let childPlans ← group.callChildPool obj.guid spawnChildPool
      return (triggerFrom,
        { plan with
          actions := plan.actions ++ [.spawnOne group.memberKind obj.guid]
          childPoolSpawnPlans := plan.childPoolSpawnPlans ++ childPlans })
    else return (triggerFrom, plan)

/-- Despawn a member that is spawned, a child pool before its relation is removed. -/
def despawnMember (group : PoolGroup) (guid : ℕ) (despawnChildPool : ℕ → PlanM σ δ) :
    PlanM σ (List δ × Bool) := do
  let childPlans ← group.callChildPool guid despawnChildPool
  let removed ← group.removeSpawnFromMap guid
  return (childPlans, removed)

/-- Despawn the trigger, when it was not chosen again. -/
def despawnTrigger (group : PoolGroup) (despawnChildPool : ℕ → Bool → PlanM σ δ)
    (triggerFrom : ℕ) (plan : PoolSpawnObjectPlan ρ δ) : PlanM σ (PoolSpawnObjectPlan ρ δ) := do
  let spawns ← readSpawns
  if triggerFrom ≠ 0 ∧ group.containsGuid triggerFrom ∧
      group.isSpawnedInMap spawns triggerFrom then do
    let (childPlans, removed) ← group.despawnMember triggerFrom fun childPoolId =>
      despawnChildPool childPoolId false
    return { plan with
      actions := plan.actions ++ [.despawnOne group.memberKind triggerFrom]
      childPoolDespawnPlans := plan.childPoolDespawnPlans ++ childPlans
      despawnedTrigger := if removed then some triggerFrom else plan.despawnedTrigger }
  else return plan

/-- Roll for the room that is left below `limit`; the trigger leaves room for one more. -/
def rollForRoom (group : PoolGroup) (limit spawned triggerFrom : ℕ)
    (explicitRoll : σ → Float32 × σ) (chooseEqual : List PoolObject → ℕ → σ → List ℕ × σ) :
    PlanM σ (List PoolObject) :=
  let count : ℤ := if triggerFrom ≠ 0 then limit - spawned + 1 else limit - spawned
  if 0 < count then group.rollObjects count.toNat triggerFrom explicitRoll chooseEqual
  else return []

def spawnObjectPlanWithChildPools (group : PoolGroup) (limit triggerFrom : ℕ)
    (explicitRoll : σ → Float32 × σ) (chooseEqual : List PoolObject → ℕ → σ → List ℕ × σ)
    (spawnChildPool : ℕ → PlanM σ ρ) (despawnChildPool : ℕ → Bool → PlanM σ δ) :
    PlanM σ (PoolSpawnObjectPlan ρ δ) := do
  let spawns ← readSpawns
  let rolledObjects ← group.rollForRoom limit (spawns.getSpawnedObjects group.poolId)
    triggerFrom explicitRoll chooseEqual
  let progress ← rolledObjects.foldlM (group.spawnRolled spawnChildPool) (triggerFrom, .empty)
  group.despawnTrigger despawnChildPool progress.1 progress.2

/-- Despawn one member, when it is requested. -/
def despawnObject (group : PoolGroup) (despawnChildPool : ℕ → Bool → PlanM σ δ)
    (plan : PoolDespawnObjectPlan δ) (object : PoolObject) :
    PlanM σ (PoolDespawnObjectPlan δ) :=
  if group.memberKind = .pool ∧ childPoolIdOf object.guid = none then
    throw (.childPoolIdOverflow object.guid)
  else do
    let spawns ← readSpawns
    if group.isSpawnedInMap spawns object.guid then
      if plan.requestedGuid = 0 ∨ object.guid = plan.requestedGuid then do
        let (childPlans, removed) ← group.despawnMember object.guid fun childPoolId =>
          despawnChildPool childPoolId plan.alwaysDeleteRespawnTime
        return { plan with
          actions := plan.actions ++ [.despawnOne group.memberKind object.guid]
          childPoolPlans := plan.childPoolPlans ++ childPlans
          despawned := plan.despawned ++ if removed then [object.guid] else [] }
      else return plan
    else if plan.alwaysDeleteRespawnTime ∧ group.memberKind ≠ .pool then
      return { plan with
        actions := plan.actions ++ [.removeRespawnTime group.memberKind object.guid]
        removedRespawnTimes := plan.removedRespawnTimes ++ [(group.memberKind, object.guid)] }
    else return plan

def despawnObjectPlan (group : PoolGroup) (requestedGuid : ℕ) (alwaysDeleteRespawnTime : Bool)
    (despawnChildPool : ℕ → Bool → PlanM σ δ) : PlanM σ (PoolDespawnObjectPlan δ) :=
  (group.equalChanced ++ group.explicitlyChanced).foldlM (group.despawnObject despawnChildPool)
    ⟨[], requestedGuid, alwaysDeleteRespawnTime, [], [], []⟩

end PoolGroup

end Programs

end RustyCore.Pools
