import Mathlib.Data.Prod.Lex
import RustyCore.Library.FixedWidth
import RustyCore.Model.Pools.PoolGroup

/-! # Spawn and respawn stores

The loaded spawns with their groups, the indexes from groups to members and from maps to
groups, and the pass that applies the `spawn_group` rows to them. -/

namespace RustyCore.Spawns

open Pools (SpawnObjectType)

def spawnTypeFromRaw (raw : ℕ) : Option SpawnObjectType :=
  match raw with
  | 0 => some .creature
  | 1 => some .gameObject
  | 2 => some .areaTrigger
  | _ => none

abbrev SpawnGroupFlags := BitVec 32

def SpawnGroupFlags.system : SpawnGroupFlags := 0x01

def spawnGroupMapUnset : ℕ := 0xffffffff

structure SpawnGroupTemplateData where
  groupId : ℕ
  name : String
  mapId : ℕ
  flags : SpawnGroupFlags
deriving DecidableEq

def SpawnGroupTemplateData.isSystem (template : SpawnGroupTemplateData) : Bool :=
  template.flags &&& SpawnGroupFlags.system != 0

structure SpawnData where
  mapId : ℕ
  spawnGroup : SpawnGroupTemplateData
deriving DecidableEq

abbrev SpawnGroupMember := SpawnObjectType × ℕ

structure SpawnGroupMemberRow where
  groupId : ℕ
  spawnType : ℕ
  spawnId : ℕ
deriving DecidableEq

inductive SpawnGroupApplyIssueKind where
  | invalidType
  | missingSpawn
  | duplicateSpawnGroup
  | missingGroup
  | mapMismatch
deriving DecidableEq

structure SpawnGroupApplyIssue where
  kind : SpawnGroupApplyIssueKind
  groupId : ℕ
  spawnType : ℕ
  spawnId : ℕ
  existingGroupId : Option ℕ
  groupMapId : Option ℕ
  spawnMapId : Option ℕ
deriving DecidableEq

structure SpawnGroupApplyReport where
  assigned : ℕ
  invalidType : ℕ
  missingSpawn : ℕ
  duplicateSpawnGroup : ℕ
  missingGroup : ℕ
  mapMismatch : ℕ
  issues : List SpawnGroupApplyIssue
deriving DecidableEq

namespace SpawnGroupApplyReport

def default : SpawnGroupApplyReport := ⟨0, 0, 0, 0, 0, 0, []⟩

def push (report : SpawnGroupApplyReport) (issue : SpawnGroupApplyIssue) :
    SpawnGroupApplyReport :=
  let counted := match issue.kind with
    | .invalidType => { report with invalidType := report.invalidType + 1 }
    | .missingSpawn => { report with missingSpawn := report.missingSpawn + 1 }
    | .duplicateSpawnGroup =>
      { report with duplicateSpawnGroup := report.duplicateSpawnGroup + 1 }
    | .missingGroup => { report with missingGroup := report.missingGroup + 1 }
    | .mapMismatch => { report with mapMismatch := report.mapMismatch + 1 }
  { counted with issues := counted.issues ++ [issue] }

end SpawnGroupApplyReport

structure SpawnStore where
  spawns : Dict SpawnGroupMember SpawnData
  spawnGroupsByMap : Dict ℕ (Finset ℕ)
  spawnGroupMembers : Dict ℕ (Finset SpawnGroupMember)

abbrev SpawnGroupTemplates := Dict ℕ SpawnGroupTemplateData

/-- `index.entry(key).or_default().insert(value)` -/
def insertIndexed {ν : Type} [DecidableEq ν] (index : Dict ℕ (Finset ν)) (key : ℕ) (value : ν) :
    Dict ℕ (Finset ν) :=
  AList.insert key (insert value ((index.lookup key).getD ∅)) index

/-- What the pass over the rows works on. -/
structure ApplyState where
  store : SpawnStore
  templates : SpawnGroupTemplates
  report : SpawnGroupApplyReport

namespace ApplyState

/-- The row is refused: only the report changes. -/
def reject (state : ApplyState) (row : SpawnGroupMemberRow) (kind : SpawnGroupApplyIssueKind)
    (existingGroupId groupMapId spawnMapId : Option ℕ) : ApplyState :=
  { state with
    report := state.report.push
      ⟨kind, row.groupId, row.spawnType, row.spawnId, existingGroupId, groupMapId, spawnMapId⟩ }

/-- The spawn takes a copy of the template and, unless the group is a system group, becomes
one of its members. -/
def assign (state : ApplyState) (row : SpawnGroupMemberRow) (objectType : SpawnObjectType)
    (spawn : SpawnData) (template : SpawnGroupTemplateData) : ApplyState where
  store :=
    { state.store with
      spawns := AList.insert (objectType, row.spawnId) { spawn with spawnGroup := template }
        state.store.spawns
      spawnGroupMembers :=
        if template.isSystem then state.store.spawnGroupMembers
        else insertIndexed state.store.spawnGroupMembers row.groupId (objectType, row.spawnId) }
  templates := state.templates
  report := { state.report with assigned := state.report.assigned + 1 }

/-- The first spawn fixes the map of its group. -/
def setMap (state : ApplyState) (groupId mapId : ℕ) (template : SpawnGroupTemplateData) :
    ApplyState :=
  { state with
    store :=
      { state.store with
        spawnGroupsByMap := insertIndexed state.store.spawnGroupsByMap mapId groupId }
    templates := AList.insert groupId { template with mapId := mapId } state.templates }

def applyRow (state : ApplyState) (row : SpawnGroupMemberRow) : ApplyState :=
  match spawnTypeFromRaw row.spawnType with
  | none => state.reject row .invalidType none none none
  | some objectType =>
    match state.store.spawns.lookup (objectType, row.spawnId) with
    | none => state.reject row .missingSpawn none none none
    | some spawn =>
      if spawn.spawnGroup.groupId ≠ 0 then
        state.reject row .duplicateSpawnGroup (some spawn.spawnGroup.groupId) none
          (some spawn.mapId)
      else
        match state.templates.lookup row.groupId with
        | none => state.reject row .missingGroup none none (some spawn.mapId)
        | some template =>
          if template.mapId = spawnGroupMapUnset then
            (state.setMap row.groupId spawn.mapId template).assign row objectType spawn
              { template with mapId := spawn.mapId }
          else if template.mapId ≠ spawn.mapId ∧ template.isSystem = false then
            state.reject row .mapMismatch none (some template.mapId) (some spawn.mapId)
          else state.assign row objectType spawn template

end ApplyState

namespace SpawnStore

def applySpawnGroups (store : SpawnStore) (templates : SpawnGroupTemplates)
    (rows : List SpawnGroupMemberRow) : ApplyState :=
  rows.foldl ApplyState.applyRow ⟨store, templates, .default⟩

def spawnData (store : SpawnStore) (objectType : SpawnObjectType) (spawnId : ℕ) :
    Option SpawnData :=
  store.spawns.lookup (objectType, spawnId)

/-- The groups whose map was first resolved by a spawn row. -/
def spawnGroupIdsByMap (store : SpawnStore) (mapId : ℕ) : Option (Finset ℕ) :=
  store.spawnGroupsByMap.lookup mapId

/-- The non-system spawn members of a group. -/
def groupMembers (store : SpawnStore) (groupId : ℕ) : Option (Finset SpawnGroupMember) :=
  store.spawnGroupMembers.lookup groupId

end SpawnStore

end RustyCore.Spawns

/-! ## Respawn timers

`RespawnStoreLikeCpp`: the timers of creatures and game objects by spawn id, and the queue of
their keys, the next one first. -/

namespace RustyCore.Spawns

open Pools (SpawnObjectType)

/-- The discriminant, by which object types are ordered. -/
def spawnTypeRaw : SpawnObjectType → ℕ
  | .creature => 0
  | .gameObject => 1
  | .areaTrigger => 2

structure RespawnInfo where
  objectType : SpawnObjectType
  spawnId : ℕ
  entry : ℕ
  respawnTime : ℤ
  gridId : ℕ
deriving DecidableEq

structure RespawnQueueKey where
  respawnTime : ℤ
  spawnId : ℕ
  objectType : SpawnObjectType
deriving DecidableEq

namespace RespawnQueueKey

def fromInfo (info : RespawnInfo) : RespawnQueueKey :=
  ⟨info.respawnTime, info.spawnId, info.objectType⟩

/-- By time, then by larger spawn id, then by larger type. -/
def rank (key : RespawnQueueKey) : ℤ ×ₗ ℕᵒᵈ ×ₗ ℕᵒᵈ :=
  toLex (key.respawnTime,
    toLex (OrderDual.toDual key.spawnId, OrderDual.toDual (spawnTypeRaw key.objectType)))

theorem rank_injective : Function.Injective rank := by
  rintro ⟨time, id, type⟩ ⟨time', id', type'⟩ same
  simp only [rank, toLex_inj, Prod.mk.injEq, OrderDual.toDual_inj] at same
  obtain ⟨rfl, rfl, raw⟩ := same
  cases type <;> cases type' <;> first | rfl | cases raw

instance : LinearOrder RespawnQueueKey := LinearOrder.lift' rank rank_injective

end RespawnQueueKey

inductive AddRespawnInfoOutcome where
  | inserted
  | replacedExisting
  | rejectedZeroSpawnId
  | rejectedUnsupportedType
  | rejectedExistingSoonerOrEqual
deriving DecidableEq

inductive CheckRespawnOutcome where
  | allowed
  | blocked
deriving DecidableEq

inductive ProcessRespawnAction where
  | updatePool (poolId : ℕ) (objectType : SpawnObjectType) (spawnId : ℕ)
  | doRespawn (objectType : SpawnObjectType) (spawnId gridId : ℕ)
  | deleteRespawn (objectType : SpawnObjectType) (spawnId : ℕ)
  | rescheduleAndSave (info : RespawnInfo)
  | invalidRescheduleNotFuture (info : RespawnInfo)
deriving DecidableEq

structure RespawnStore where
  creatureRespawnTimesBySpawnId : Dict ℕ RespawnInfo
  gameobjectRespawnTimesBySpawnId : Dict ℕ RespawnInfo
  respawnTimes : SortedSet RespawnQueueKey

namespace RespawnStore

def new : RespawnStore := ⟨∅, ∅, .empty⟩

variable (store : RespawnStore)

def mapForType : SpawnObjectType → Option (Dict ℕ RespawnInfo)
  | .creature => some store.creatureRespawnTimesBySpawnId
  | .gameObject => some store.gameobjectRespawnTimesBySpawnId
  | .areaTrigger => none

/-- A write through `map_mut_for_type_like_cpp`. -/
def updateMap (objectType : SpawnObjectType)
    (update : Dict ℕ RespawnInfo → Dict ℕ RespawnInfo) : RespawnStore :=
  match objectType with
  | .creature =>
    { store with creatureRespawnTimesBySpawnId := update store.creatureRespawnTimesBySpawnId }
  | .gameObject =>
    { store with
      gameobjectRespawnTimesBySpawnId := update store.gameobjectRespawnTimesBySpawnId }
  | .areaTrigger => store

def hasRespawnMapLikeCpp : SpawnObjectType → Bool
  | .creature => true
  | .gameObject => true
  | .areaTrigger => false

def getRespawnInfoLikeCpp (objectType : SpawnObjectType) (spawnId : ℕ) : Option RespawnInfo :=
  (store.mapForType objectType).bind fun map => map.lookup spawnId

def removeRespawnTimeLikeCpp (objectType : SpawnObjectType) (spawnId : ℕ) :
    Option RespawnInfo × RespawnStore :=
  match store.getRespawnInfoLikeCpp objectType spawnId with
  | none => (none, store)
  | some info =>
    let store := store.updateMap objectType fun map => map.erase spawnId
    (some info, { store with respawnTimes := store.respawnTimes.erase (.fromInfo info) })

/-- The key goes into the queue, and the timer into the map of its type. -/
def insertRespawnInfo (info : RespawnInfo) : RespawnStore :=
  let store := { store with respawnTimes := store.respawnTimes.insert (.fromInfo info) }
  store.updateMap info.objectType fun map => map.insert info.spawnId info

def addRespawnInfoLikeCpp (info : RespawnInfo) : AddRespawnInfoOutcome × RespawnStore :=
  if info.spawnId = 0 then (.rejectedZeroSpawnId, store)
  else if hasRespawnMapLikeCpp info.objectType = false then (.rejectedUnsupportedType, store)
  else
    match store.getRespawnInfoLikeCpp info.objectType info.spawnId with
    | none => (.inserted, store.insertRespawnInfo info)
    | some existing =>
      if info.respawnTime ≤ existing.respawnTime then
        let (_, store) := store.removeRespawnTimeLikeCpp info.objectType info.spawnId
        (.replacedExisting, store.insertRespawnInfo info)
      else (.rejectedExistingSoonerOrEqual, store)

def unloadAllRespawnInfosLikeCpp : RespawnStore := .new

/-- The closures of one call, with the state that they keep: the pool of a spawn, and the check
of a timer, which may change the time of that timer. -/
structure RespawnChecks (γ : Type) where
  isPartOfPool : SpawnObjectType → ℕ → γ → Option ℕ × γ
  checkRespawn : RespawnInfo → γ → CheckRespawnOutcome × ℤ × γ

/-- What a call has done so far. -/
structure RespawnProgress (γ : Type) where
  store : RespawnStore
  seed : γ
  actions : List ProcessRespawnAction

namespace RespawnProgress

variable {γ : Type} (progress : RespawnProgress γ)

def act (action : ProcessRespawnAction) : RespawnProgress γ :=
  { progress with actions := progress.actions ++ [action] }

/-- A removed timer that the check leaves: the flag tells whether the loop is left. -/
def processInfo (checks : RespawnChecks γ) (now : ℤ) (info : RespawnInfo) :
    RespawnProgress γ × Bool :=
  match checks.isPartOfPool info.objectType info.spawnId progress.seed with
  | (some poolId, seed) =>
    ({ progress with seed := seed }.act (.updatePool poolId info.objectType info.spawnId), false)
  | (none, seed) =>
    match checks.checkRespawn info seed with
    | (.allowed, _, seed) =>
      ({ progress with seed := seed }.act
        (.doRespawn info.objectType info.spawnId info.gridId), false)
    | (.blocked, respawnTime, seed) =>
      let info := { info with respawnTime := respawnTime }
      let progress := { progress with seed := seed }
      if respawnTime = 0 then
        (progress.act (.deleteRespawn info.objectType info.spawnId), false)
      else
        let (_, store) := progress.store.addRespawnInfoLikeCpp info
        let progress := { progress with store := store }
        if now < respawnTime then (progress.act (.rescheduleAndSave info), false)
        else (progress.act (.invalidRescheduleNotFuture info), true)

/-- The rounds of the loop; `none` when the fuel runs out before the loop ends. -/
def processRounds (checks : RespawnChecks γ) (now : ℤ) :
    ℕ → RespawnProgress γ → Option (RespawnProgress γ)
  | 0, _ => none
  | fuel + 1, progress =>
    match progress.store.respawnTimes.toList with
    | [] => some progress
    | nextKey :: _ =>
      if now < nextKey.respawnTime then some progress
      else
        match progress.store.removeRespawnTimeLikeCpp nextKey.objectType nextKey.spawnId with
        | (none, store) =>
          processRounds checks now fuel
            { progress with
              store := { store with respawnTimes := store.respawnTimes.erase nextKey } }
        | (some info, store) =>
          match { progress with store := store }.processInfo checks now info with
          | (progress, true) => some progress
          | (progress, false) => processRounds checks now fuel progress

end RespawnProgress

/-- The loop ends within one round for each key and one more. -/
def processDueRespawnsLikeCpp {γ : Type} (checks : RespawnChecks γ) (now : ℤ) (seed : γ) :
    Option (RespawnProgress γ) :=
  RespawnProgress.processRounds checks now (store.respawnTimes.toList.length + 1)
    ⟨store, seed, []⟩

end RespawnStore

/-! ## Runs -/

inductive RespawnOp where
  | add (info : RespawnInfo)
  | remove (objectType : SpawnObjectType) (spawnId : ℕ)
  | unloadAll
  | process {γ : Type} (checks : RespawnStore.RespawnChecks γ) (now : ℤ) (seed : γ)

def RespawnStore.step (store : RespawnStore) : RespawnOp → Option RespawnStore
  | .add info => some (store.addRespawnInfoLikeCpp info).2
  | .remove objectType spawnId => some (store.removeRespawnTimeLikeCpp objectType spawnId).2
  | .unloadAll => some unloadAllRespawnInfosLikeCpp
  | .process checks now seed =>
    (store.processDueRespawnsLikeCpp checks now seed).map RespawnProgress.store

end RustyCore.Spawns
