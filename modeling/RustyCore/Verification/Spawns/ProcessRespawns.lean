import RustyCore.Verification.Spawns.RespawnMoves
import RustyCore.Verification.Spawns.RespawnStore

/-! # A due timer leaves the queue or stops the loop

With failed loads consumed, a round drops the timer at the head of the queue or puts it back for
later. The loop is left with a due timer at the head only where the update of its pool fails or
its linked spawn gives no later time. -/

namespace RustyCore.Spawns

open Pools

variable {σ ω ρ : Type}
variable {time : ℤ}

/-! ## The respawn check -/

theorem wrapI64_of_le (low : -2 ^ 63 ≤ time) (high : time ≤ i64Max) : wrapI64 time = time := by
  unfold i64Max at high
  unfold wrapI64
  rw [Int.bmod_eq_of_le] <;> omega

/-- What the check says of a timer of a known spawn, and the time that it sets. -/
inductive CheckResult (map : Map ω ρ) (now : ℤ) (jitterSecs : ℕ) (info : RespawnInfo) :
    CheckRespawnCompositeOutcome → RespawnInfo → Prop
  | allowed : CheckResult map now jitterSecs info .allowed info
  | inactive :
      CheckResult map now jitterSecs info .inactiveSpawnGroupDeletedTimer
        { info with respawnTime := 0 }
  | creature :
      CheckResult map now jitterSecs info .aliveCreatureBlocksRespawn { info with respawnTime := 0 }
  | gameObject :
      CheckResult map now jitterSecs info .gameObjectBlocksRespawn { info with respawnTime := 0 }
  | infinite :
      CheckResult map now jitterSecs info .linkedInfinite { info with respawnTime := i64Max }
  | self :
      CheckResult map now jitterSecs info .linkedSelfNeverRespawn
        { info with respawnTime := wrapI64 (now + weekSecs) }
  | delayed (objectType : SpawnObjectType) (spawnId : ℕ) :
      CheckResult map now jitterSecs info .linkedDelayed
        { info with
          respawnTime := wrapI64 (max now (map.getRespawnTime objectType spawnId) + jitterSecs) }

namespace Map

variable {map : Map ω ρ} {info : RespawnInfo} {spawnStore : SpawnStore}
variable {linkedStore : LinkedRespawnStore} {now : ℤ} {jitterSecs : ℕ}

theorem exists_getRespawnTime {guid : ObjectGuid}
    (nonzero : map.getLinkedRespawnTime guid linkedStore ≠ 0) :
    ∃ objectType spawnId,
      map.getLinkedRespawnTime guid linkedStore = map.getRespawnTime objectType spawnId := by
  unfold getLinkedRespawnTime at nonzero ⊢
  dsimp only at nonzero ⊢
  split_ifs at nonzero ⊢
  · exact ⟨_, _, rfl⟩
  · exact ⟨_, _, rfl⟩
  · exact absurd rfl nonzero

theorem checkRespawnLinkedRespawnGuard_spec (notArea : info.objectType ≠ .areaTrigger) :
    CheckResult map now jitterSecs info
      (linkedOutcome (map.checkRespawnLinkedRespawnGuard info linkedStore now jitterSecs).1)
      (map.checkRespawnLinkedRespawnGuard info linkedStore now jitterSecs).2 := by
  unfold checkRespawnLinkedRespawnGuard
  cases high : linkedHighGuid info.objectType with
  | none => cases type : info.objectType <;> simp_all [linkedHighGuid]
  | some guidHigh =>
    dsimp only
    split_ifs with zero infinite self
    · exact .allowed
    · rw [infinite]
      exact .infinite
    · exact .self
    · obtain ⟨type, id, time⟩ := exists_getRespawnTime zero
      rw [time]
      exact .delayed type id

theorem checkRespawnLiveObjectGuard_spec (respawnDynamicEscortnpc : Bool)
    (isCreatureEscorted : ObjectGuid → MapObjectRecord ρ → σ → Bool × σ) (seed : σ)
    (notArea : info.objectType ≠ .areaTrigger) {spawnData : SpawnData}
    (known : spawnStore.spawnData info.objectType info.spawnId = some spawnData) :
    ∃ seed', map.checkRespawnLiveObjectGuard info spawnStore respawnDynamicEscortnpc
        isCreatureEscorted seed ∈
      [(.allowed, info, seed'),
        (.aliveCreatureBlocksRespawn, { info with respawnTime := 0 }, seed'),
        (.gameObjectBlocksRespawn, { info with respawnTime := 0 }, seed')] := by
  unfold checkRespawnLiveObjectGuard
  rw [known]
  dsimp only
  split
  · split
    next seed' _ => exact ⟨seed', by simp⟩
    next seed' _ => exact ⟨seed', by simp⟩
  · split_ifs
    · exact ⟨seed, by simp⟩
    · exact ⟨seed, by simp⟩
  next area => exact absurd area notArea

theorem checkRespawn_spec {respawnDynamicEscortnpc : Bool}
    {isCreatureEscorted : ObjectGuid → MapObjectRecord ρ → σ → Bool × σ} {seed seed' : σ}
    {outcome : CheckRespawnCompositeOutcome} {checked : RespawnInfo}
    (notArea : info.objectType ≠ .areaTrigger) {spawnData : SpawnData}
    (known : spawnStore.spawnData info.objectType info.spawnId = some spawnData)
    (result : map.checkRespawn info spawnStore linkedStore now jitterSecs respawnDynamicEscortnpc
      isCreatureEscorted seed = (outcome, checked, seed')) :
    CheckResult map now jitterSecs info outcome checked := by
  obtain ⟨seed'', guarded⟩ := map.checkRespawnLiveObjectGuard_spec respawnDynamicEscortnpc
    isCreatureEscorted seed notArea known
  rw [checkRespawn, if_neg notArea, checkRespawnSpawnGroupGuard, known] at result
  dsimp only at result
  split_ifs at result
  · dsimp only at result
    simp only [List.mem_cons, List.not_mem_nil, or_false] at guarded
    rcases guarded with guarded | guarded | guarded
    · rw [guarded] at result
      cases result
      exact checkRespawnLinkedRespawnGuard_spec notArea
    · rw [guarded] at result
      cases result
      exact .creature
    · rw [guarded] at result
      cases result
      exact .gameObject
  · cases result
    exact .inactive

end Map

/-! ## One timer -/

/-- What a round does with the due timer that it takes up: the flag tells whether the loop is
left. -/
inductive Handles (call : RespawnCall σ ω ρ) (R : RespawnStore → RespawnStore → Prop)
    (info : RespawnInfo) (s : Respawning σ ω ρ) : Respawning σ ω ρ × Bool → Prop
  | consumed {s' : Respawning σ ω ρ} (moves : Moves R s s')
      (gone : s'.map.respawnStore.getRespawnInfoLikeCpp info.objectType info.spawnId = none) :
      Handles call R info s (s', false)
  | rescheduled {s' : Respawning σ ω ρ} (time : ℤ) (later : time = i64Max ∨ call.now < time)
      (store : s'.map.respawnStore =
        ((s.map.respawnStore.removeRespawnTimeLikeCpp info.objectType
          info.spawnId).2.addRespawnInfoLikeCpp { info with respawnTime := time }).2)
      (errors : s'.summary.blockedPoolPlanErrors = s.summary.blockedPoolPlanErrors)
      (nonFuture : s'.summary.blockedLinkedRespawnNonFuture =
        s.summary.blockedLinkedRespawnNonFuture) : Handles call R info s (s', false)
  | poolFailed {s' : Respawning σ ω ρ} (poolId : ℕ) (error : PoolMgrPlanError)
      (pooled : call.poolMgr.isPartOfAPool info.objectType info.spawnId = .ok poolId)
      (nonzero : poolId ≠ 0)
      (failed : ∃ state state', call.poolMgr.updatePoolPlan call.dice poolId info.objectType
        info.spawnId state = .error error state')
      (store : s'.map.respawnStore = s.map.respawnStore)
      (errors : s'.summary.blockedPoolPlanErrors = s.summary.blockedPoolPlanErrors ++ [error])
      (nonFuture : s'.summary.blockedLinkedRespawnNonFuture =
        s.summary.blockedLinkedRespawnNonFuture) : Handles call R info s (s', true)
  | notFuture {s' : Respawning σ ω ρ}
      (unpooled : call.poolMgr.isPartOfAPool info.objectType info.spawnId = .ok 0)
      (reason : call.jitterSecs = 0 ∨ i64Max < call.now + weekSecs ∨
        ∃ objectType spawnId,
          i64Max < max call.now (s.map.getRespawnTime objectType spawnId) + call.jitterSecs)
      (store : s'.map.respawnStore = s.map.respawnStore)
      (errors : s'.summary.blockedPoolPlanErrors = s.summary.blockedPoolPlanErrors)
      (nonFuture : s'.summary.blockedLinkedRespawnNonFuture =
        s.summary.blockedLinkedRespawnNonFuture + 1) : Handles call R info s (s', true)

namespace Respawning

variable {call : RespawnCall σ ω ρ} {R : RespawnStore → RespawnStore → Prop}
variable {s : Respawning σ ω ρ} {info : RespawnInfo}
variable {start after : Respawning σ ω ρ} {queue : List RespawnQueueKey}

theorem addLoadedRecords_store (s : Respawning σ ω ρ) (records : LoadedGridRespawnRecords ρ) :
    (s.addLoadedRecords call records).map.respawnStore = s.map.respawnStore := by
  unfold addLoadedRecords
  dsimp only
  split <;> rfl

theorem removeRespawnTime_gone (s : Respawning σ ω ρ) (objectType : SpawnObjectType)
    (spawnId : ℕ) :
    (s.removeRespawnTime objectType spawnId).map.respawnStore.getRespawnInfoLikeCpp objectType
      spawnId = none := by
  simp [removeRespawnTime, withStore, RespawnStore.getRespawnInfo_removeRespawnTime]

theorem doRespawn_handles (h : Respects call R)
    (consume : call.consumeDueTimerOnLoadFailure = true) (moves : Moves R start s) (gridId : ℕ) :
    Handles call R info start (s.doRespawn call info.objectType info.spawnId gridId) := by
  unfold doRespawn
  split_ifs with onLoadedGrid
  · split
    next loads =>
      refine .consumed ?_ (removeRespawnTime_gone _ _ _)
      refine moves.trans h ((loaded_moves h s _ _ loads).trans h ?_)
      refine Moves.trans h ?_ (removeRespawnTime_moves h _ _ _)
      exact .of_eq h rfl rfl rfl
    next loads =>
      refine .consumed ?_ ?_
      · refine (moves.trans h (loaded_moves h s _ _ loads)).trans h ?_
        exact (removeRespawnTime_moves h _ _ _).trans h (addLoadedRecords_moves h _ _)
      · rw [addLoadedRecords_store]
        exact removeRespawnTime_gone _ _ _
  · refine .consumed ?_ (removeRespawnTime_gone s _ _)
    exact (moves.trans h (removeRespawnTime_moves h s _ _)).trans h (.of_eq h rfl rfl rfl)

theorem deleteLiveObjectBlocker_handles (h : Respects call R) (moves : Moves R start s) :
    Handles call R info start
      (s.deleteLiveObjectBlocker { info with respawnTime := 0 } info.objectType info.spawnId) := by
  unfold deleteLiveObjectBlocker
  rw [if_pos rfl]
  refine .consumed ?_ (removeRespawnTime_gone s _ _)
  exact (moves.trans h (removeRespawnTime_moves h s _ _)).trans h (.of_eq h rfl rfl rfl)

theorem deleteInactiveSpawnGroup_handles (h : Respects call R) (moves : Moves R start s) :
    Handles call R info start
      (s.deleteInactiveSpawnGroup { info with respawnTime := 0 } info.objectType info.spawnId) := by
  unfold deleteInactiveSpawnGroup
  rw [if_pos rfl]
  refine .consumed ?_ (removeRespawnTime_gone s _ _)
  exact (moves.trans h (removeRespawnTime_moves h s _ _)).trans h (.of_eq h rfl rfl rfl)

theorem reschedule_rescheduled (store : s.map.respawnStore = start.map.respawnStore)
    (summary : s.summary = start.summary) (later : time = i64Max ∨ call.now < time) :
    Handles call R info start
      (s.reschedule call { info with respawnTime := time } info.objectType info.spawnId) := by
  unfold reschedule
  rw [if_pos later]
  refine .rescheduled time later ?_ ?_ ?_
  · rw [← store]
    rfl
  · rw [← summary]
    rfl
  · rw [← summary]
    rfl

theorem reschedule_handles (store : s.map.respawnStore = start.map.respawnStore)
    (summary : s.summary = start.summary)
    (unpooled : call.poolMgr.isPartOfAPool info.objectType info.spawnId = .ok 0)
    (reason : time ≤ call.now → call.jitterSecs = 0 ∨ i64Max < call.now + weekSecs ∨
      ∃ objectType spawnId,
        i64Max < max call.now (start.map.getRespawnTime objectType spawnId) + call.jitterSecs) :
    Handles call R info start
      (s.reschedule call { info with respawnTime := time } info.objectType info.spawnId) := by
  by_cases later : time = i64Max ∨ call.now < time
  · exact reschedule_rescheduled store summary later
  · unfold reschedule
    rw [if_neg later]
    refine .notFuture unpooled (reason (not_lt.mp fun lt => later (.inr lt))) store ?_ ?_
    · rw [← summary]
      rfl
    · rw [← summary]
      rfl

theorem processSpawn_handles (h : Respects call R)
    (consume : call.consumeDueTimerOnLoadFailure = true)
    (low : -2 ^ 63 ≤ call.now) (notArea : info.objectType ≠ .areaTrigger)
    (unpooled : call.poolMgr.isPartOfAPool info.objectType info.spawnId = .ok 0) :
    Handles call R info s (s.processSpawn call info.objectType info.spawnId info) := by
  unfold processSpawn
  cases known : call.spawnStore.spawnData info.objectType info.spawnId with
  | none =>
    rw [if_pos Option.isNone_none, if_pos consume]
    refine .consumed ?_ (removeRespawnTime_gone _ _ _)
    have counted : Moves R s s.blockedMissingSpawnData := .of_eq h rfl rfl rfl
    exact counted.trans h (removeRespawnTime_moves h _ _ _)
  | some spawnData =>
    rw [if_neg (by simp)]
    split
    next outcome checkedInfo seed result =>
      have moves : Moves R s (s.loaded s.map seed) := .of_eq h rfl rfl rfl
      cases Map.checkRespawn_spec notArea known result with
      | allowed => exact doRespawn_handles h consume moves info.gridId
      | inactive => exact deleteInactiveSpawnGroup_handles h moves
      | creature => exact deleteLiveObjectBlocker_handles h moves
      | gameObject => exact deleteLiveObjectBlocker_handles h moves
      | infinite => exact reschedule_rescheduled rfl rfl (.inl rfl)
      | self =>
        refine reschedule_handles rfl rfl unpooled fun past => .inr (.inl ?_)
        by_contra fits
        rw [wrapI64_of_le (by unfold weekSecs; omega) (not_lt.mp fits)] at past
        unfold weekSecs at past
        omega
      | delayed type id =>
        refine reschedule_handles rfl rfl unpooled fun past => ?_
        by_cases fits : max call.now (s.map.getRespawnTime type id) + call.jitterSecs ≤ i64Max
        · rw [wrapI64_of_le (by omega) fits] at past
          exact .inl (by omega)
        · exact .inr (.inr ⟨type, id, not_le.mp fits⟩)

theorem updatePool_store (s : Respawning σ ω ρ) (poolId : ℕ) (objectType : SpawnObjectType)
    (spawnId : ℕ) {result : Except PoolMgrPlanError TypedSpawnPlan} {s' : Respawning σ ω ρ}
    (updated : s.updatePool call poolId objectType spawnId = (result, s')) :
    s'.map.respawnStore = s.map.respawnStore ∧ s'.summary = s.summary ∧
      ∀ error, result = .error error → ∃ state state',
        call.poolMgr.updatePoolPlan call.dice poolId objectType spawnId state =
          .error error state' := by
  unfold updatePool at updated
  split at updated
  · cases updated
    exact ⟨rfl, rfl, by simp⟩
  next error state failed =>
    cases updated
    refine ⟨rfl, rfl, fun error' same => ?_⟩
    cases same
    exact ⟨_, _, failed⟩

theorem processPooled_handles (h : Respects call R) {poolId : ℕ}
    (pooled : call.poolMgr.isPartOfAPool info.objectType info.spawnId = .ok poolId)
    (nonzero : poolId ≠ 0) :
    Handles call R info s (s.processPooled call poolId info.objectType info.spawnId) := by
  unfold processPooled
  split
  next error s' updated =>
    obtain ⟨store, summary, failed⟩ := updatePool_store s poolId _ _ updated
    refine .poolFailed poolId error pooled nonzero (failed error rfl) store ?_ ?_
    · rw [← summary]
      rfl
    · rw [← summary]
      rfl
  next plan s' updated =>
    obtain ⟨store, summary, _⟩ := updatePool_store s poolId _ _ updated
    have moves : Moves R s s' := .of_eq h store (summary ▸ rfl) (summary ▸ rfl)
    refine .consumed ?_ (removeRespawnTime_gone _ _ _)
    refine (moves.trans h (applyTypedSpawnPlan_moving h plan s')).trans h ?_
    exact (removeRespawnTime_moves h _ _ _).trans h (.of_eq h rfl rfl rfl)

theorem processTimer_handles (h : Respects call R)
    (consume : call.consumeDueTimerOnLoadFailure = true)
    (low : -2 ^ 63 ≤ call.now) (notArea : info.objectType ≠ .areaTrigger) :
    Handles call R info s (s.processTimer call info.objectType info.spawnId info) := by
  unfold processTimer
  cases pooled : call.poolMgr.isPartOfAPool info.objectType info.spawnId with
  | error error =>
    cases type : info.objectType <;> simp [SpawnPoolMgr.isPartOfAPool, type] at pooled
  | ok poolId =>
    dsimp only
    split_ifs with unpooled
    · subst unpooled
      exact processSpawn_handles h consume low notArea pooled
    · exact processPooled_handles h pooled unpooled

/-! ## Rounds -/

theorem notArea_of_get {store : RespawnStore} {objectType : SpawnObjectType} {spawnId : ℕ}
    (stored : store.getRespawnInfoLikeCpp objectType spawnId = some info) :
    objectType ≠ .areaTrigger := by
  rintro rfl
  simpa [RespawnStore.hasRespawnMapLikeCpp] using RespawnStore.hasRespawnMap_of_get stored

theorem processRound_eq_processSpawn
    (headed : s.map.respawnStore.respawnTimes.toList = .fromInfo info :: queue)
    (stored : s.map.respawnStore.getRespawnInfoLikeCpp info.objectType info.spawnId = some info)
    (isDue : info.respawnTime ≤ call.now)
    (unpooled : call.poolMgr.isPartOfAPool info.objectType info.spawnId = .ok 0) :
    s.processRound call = s.processSpawn call info.objectType info.spawnId info := by
  rw [processRound, headed]
  dsimp only [RespawnQueueKey.fromInfo]
  rw [stored]
  dsimp only
  rw [if_neg (not_lt.mpr isDue), processTimer, unpooled]
  exact if_pos rfl

/-- A round ends the loop without a due timer, or takes up the first one. -/
theorem processRound_cases (h : Respects call R)
    (consume : call.consumeDueTimerOnLoadFailure = true) (low : -2 ^ 63 ≤ call.now)
    (inStep : s.map.respawnStore.InStep) :
    (s.processRound call = (s, true) ∧ s.map.respawnStore.due call.now = []) ∨
      ∃ info queue, s.map.respawnStore.respawnTimes.toList = .fromInfo info :: queue ∧
        s.map.respawnStore.getRespawnInfoLikeCpp info.objectType info.spawnId = some info ∧
        info.respawnTime ≤ call.now ∧ Handles call R info s (s.processRound call) := by
  unfold processRound
  split
  next empty =>
    refine .inl ⟨rfl, ?_⟩
    rw [RespawnStore.due, empty]
    rfl
  next key queue headed =>
    obtain ⟨info, stored, same, _⟩ := inStep.remove_head headed
    obtain ⟨type, id, _⟩ := inStep.named _ _ _ stored
    rw [stored]
    dsimp only
    split_ifs with later
    · exact .inl ⟨rfl, RespawnStore.due_eq_nil_of_head headed (same ▸ later)⟩
    · refine .inr ⟨info, queue, same ▸ headed, type ▸ id ▸ stored, not_lt.mp later, ?_⟩
      rw [← type, ← id]
      exact processTimer_handles h consume low (type ▸ notArea_of_get stored)

/-- The loop was left with a due timer at the head: the update of its pool failed, or its linked
spawn gave no later time, which takes a jitter of zero or a sum that does not fit. -/
def Pinned (call : RespawnCall σ ω ρ) (after : Respawning σ ω ρ) : Prop :=
  ∃ info queue, after.map.respawnStore.respawnTimes.toList = .fromInfo info :: queue ∧
    after.map.respawnStore.getRespawnInfoLikeCpp info.objectType info.spawnId = some info ∧
    info.respawnTime ≤ call.now ∧
    ((∃ poolId error,
        call.poolMgr.isPartOfAPool info.objectType info.spawnId = .ok poolId ∧ poolId ≠ 0 ∧
        (∃ state state', call.poolMgr.updatePoolPlan call.dice poolId info.objectType
          info.spawnId state = .error error state') ∧
        after.summary.blockedPoolPlanErrors = [error] ∧
        after.summary.blockedLinkedRespawnNonFuture = 0) ∨
      (call.poolMgr.isPartOfAPool info.objectType info.spawnId = .ok 0 ∧
        (call.jitterSecs = 0 ∨ i64Max < call.now + weekSecs ∨
          ∃ objectType spawnId,
            i64Max < max call.now (after.map.getRespawnTime objectType spawnId) +
              call.jitterSecs) ∧
        after.summary.blockedPoolPlanErrors = [] ∧
        after.summary.blockedLinkedRespawnNonFuture = 1))

/-- No timer is due, and the summary has no reason why one should be. -/
def NoneDue (call : RespawnCall σ ω ρ) (after : Respawning σ ω ρ) : Prop :=
  after.summary.blockedPoolPlanErrors = [] ∧ after.summary.blockedLinkedRespawnNonFuture = 0 ∧
    ∀ objectType spawnId info,
      after.map.respawnStore.getRespawnInfoLikeCpp objectType spawnId = some info →
        call.now < info.respawnTime

theorem pinned_of_handles (errors : s.summary.blockedPoolPlanErrors = [])
    (nonFuture : s.summary.blockedLinkedRespawnNonFuture = 0)
    (headed : s.map.respawnStore.respawnTimes.toList = .fromInfo info :: queue)
    (stored : s.map.respawnStore.getRespawnInfoLikeCpp info.objectType info.spawnId = some info)
    (isDue : info.respawnTime ≤ call.now) (left : Handles call R info s (after, true)) :
    after.map.respawnStore = s.map.respawnStore ∧ Pinned call after := by
  cases left with
  | poolFailed poolId error pooled nonzero failed store errors' nonFuture' =>
    refine ⟨store, info, queue, store ▸ headed, store ▸ stored, isDue, .inl ?_⟩
    rw [errors, List.nil_append] at errors'
    exact ⟨poolId, error, pooled, nonzero, failed, errors', nonFuture'.trans nonFuture⟩
  | notFuture unpooled reason store errors' nonFuture' =>
    refine ⟨store, info, queue, store ▸ headed, store ▸ stored, isDue, .inr ?_⟩
    refine ⟨unpooled, ?_, errors'.trans errors, by rw [nonFuture', nonFuture]⟩
    simpa only [Map.getRespawnTime, store] using reason

/-- A round that goes on leaves a store that the store's own operations make. -/
theorem Handles.valid (valid : s.map.respawnStore.Valid)
    (goesOn : Handles call (fun store store' => store.Valid → store'.Valid) info s (after, false)) :
    after.map.respawnStore.Valid ∧
      after.summary.blockedPoolPlanErrors = s.summary.blockedPoolPlanErrors ∧
      after.summary.blockedLinkedRespawnNonFuture = s.summary.blockedLinkedRespawnNonFuture := by
  cases goesOn with
  | consumed moves gone => exact ⟨moves.store valid, moves.errors, moves.nonFuture⟩
  | rescheduled time later store errors nonFuture =>
    refine ⟨?_, errors, nonFuture⟩
    have removed := valid.step (.remove info.objectType info.spawnId) rfl
    exact store ▸ removed.step (.add { info with respawnTime := time }) rfl

/-- By induction on the rounds: the loop ends without a due timer or at one that stops it. -/
theorem processRounds_ends
    (keeps : ∀ map objectType spawnId seed, map.respawnStore.Valid →
      (call.loadRecord map objectType spawnId seed).2.1.respawnStore.Valid)
    (consume : call.consumeDueTimerOnLoadFailure = true) (low : -2 ^ 63 ≤ call.now) {fuel : ℕ}
    (valid : s.map.respawnStore.Valid) (errors : s.summary.blockedPoolPlanErrors = [])
    (nonFuture : s.summary.blockedLinkedRespawnNonFuture = 0)
    (ends : processRounds call fuel s = some after) :
    after.map.respawnStore.Valid ∧ (NoneDue call after ∨ Pinned call after) := by
  have h : Respects call fun store store' => store.Valid → store'.Valid := {
    refl := fun _ => id
    trans := fun _ _ _ first second valid => second (first valid)
    remove := fun _ objectType spawnId valid => valid.step (.remove objectType spawnId) rfl
    load := keeps }
  induction fuel generalizing s with
  | zero => cases ends
  | succ fuel ih =>
    rw [processRounds] at ends
    rcases processRound_cases h consume low valid.inStep with
      ⟨stops, nothing⟩ | ⟨info, queue, headed, stored, isDue, handled⟩
    · rw [stops] at ends
      cases ends
      refine ⟨valid, .inl ⟨errors, nonFuture, fun objectType spawnId info stored => ?_⟩⟩
      exact valid.inStep.later_of_due_eq_nil nothing stored
    · rcases result : s.processRound call with ⟨next, left⟩
      rw [result] at ends handled
      cases left with
      | true =>
        cases ends
        obtain ⟨store, pinned⟩ :=
          pinned_of_handles errors nonFuture headed stored isDue handled
        exact ⟨store ▸ valid, .inr pinned⟩
      | false =>
        obtain ⟨valid, errors', nonFuture'⟩ := Handles.valid valid handled
        exact ih valid (errors'.trans errors) (nonFuture'.trans nonFuture) ends

/-! ## The number of rounds -/

/-- The stores that valid ones may become with no timer due that was not due before. -/
def AddsNoDue (now : ℤ) (store store' : RespawnStore) : Prop :=
  store.Valid → store'.Valid ∧ ∀ key ∈ store'.due now, key ∈ store.due now

theorem AddsNoDue.trans {now : ℤ} {store store' store'' : RespawnStore}
    (first : AddsNoDue now store store') (second : AddsNoDue now store' store'') :
    AddsNoDue now store store'' := by
  intro valid
  obtain ⟨valid', sub⟩ := first valid
  obtain ⟨valid'', sub'⟩ := second valid'
  exact ⟨valid'', fun key mem => sub key (sub' key mem)⟩

theorem addsNoDue_remove (now : ℤ) (store : RespawnStore) (objectType : SpawnObjectType)
    (spawnId : ℕ) :
    AddsNoDue now store (store.removeRespawnTimeLikeCpp objectType spawnId).2 := by
  refine fun valid => ⟨valid.step (.remove objectType spawnId) rfl, fun key mem => ?_⟩
  cases stored : store.getRespawnInfoLikeCpp objectType spawnId with
  | none =>
    rw [RespawnStore.removeRespawnTime_of_get_none stored] at mem
    exact mem
  | some info =>
    obtain ⟨queued, isDue⟩ := List.mem_filter.mp mem
    rw [(RespawnStore.removeRespawnTime_of_get stored).2] at queued
    exact List.mem_filter.mpr ⟨(SortedSet.mem_erase.mp queued).2, isDue⟩

theorem Handles.fewer_due (future : call.now < i64Max) (valid : s.map.respawnStore.Valid)
    (headed : s.map.respawnStore.respawnTimes.toList = .fromInfo info :: queue)
    (stored : s.map.respawnStore.getRespawnInfoLikeCpp info.objectType info.spawnId = some info)
    (isDue : info.respawnTime ≤ call.now)
    (goesOn : Handles call (AddsNoDue call.now) info s (after, false)) :
    after.map.respawnStore.Valid ∧
      (after.map.respawnStore.due call.now).length < (s.map.respawnStore.due call.now).length := by
  have wasDue : RespawnQueueKey.fromInfo info ∈ s.map.respawnStore.due call.now := by
    refine List.mem_filter.mpr ⟨?_, decide_eq_true isDue⟩
    rw [headed]
    exact List.mem_cons_self
  cases goesOn with
  | consumed moves gone =>
    obtain ⟨valid', sub⟩ := moves.store valid
    exact ⟨valid', valid'.inStep.fewer_due wasDue sub gone⟩
  | rescheduled time later store _ _ =>
    obtain ⟨removed, sub⟩ :=
      addsNoDue_remove call.now s.map.respawnStore info.objectType info.spawnId valid
    have gone := removeRespawnTime_gone s info.objectType info.spawnId
    obtain ⟨_, _, id⟩ := valid.inStep.named _ _ _ stored
    have hasMap := RespawnStore.hasRespawnMap_of_get stored
    have inFuture : call.now < time := by
      rcases later with rfl | later
      · exact future
      · exact later
    have kept : after.map.respawnStore.due call.now =
        (s.removeRespawnTime info.objectType info.spawnId).map.respawnStore.due call.now :=
      store ▸ @RespawnStore.due_addRespawnInfo _ _ { info with respawnTime := time } id hasMap
        gone inFuture
    refine ⟨store ▸ removed.step (.add { info with respawnTime := time }) rfl, ?_⟩
    rw [kept]
    exact removed.inStep.fewer_due wasDue sub gone

theorem exists_processRounds (future : call.now < i64Max)
    (adds : ∀ map objectType spawnId seed, AddsNoDue call.now map.respawnStore
      (call.loadRecord map objectType spawnId seed).2.1.respawnStore)
    (consume : call.consumeDueTimerOnLoadFailure = true) (low : -2 ^ 63 ≤ call.now) {fuel : ℕ}
    (valid : s.map.respawnStore.Valid)
    (enough : (s.map.respawnStore.due call.now).length < fuel) :
    ∃ after, processRounds call fuel s = some after := by
  have h : Respects call (AddsNoDue call.now) := {
    refl := fun _ valid => ⟨valid, fun _ => id⟩
    trans := fun _ _ _ => .trans
    remove := addsNoDue_remove call.now
    load := adds }
  induction fuel generalizing s with
  | zero => exact absurd enough (Nat.not_lt_zero _)
  | succ fuel ih =>
    rw [processRounds]
    rcases processRound_cases h consume low valid.inStep with
      ⟨stops, _⟩ | ⟨info, queue, headed, stored, isDue, handled⟩
    · rw [stops]
      exact ⟨s, rfl⟩
    · rcases result : s.processRound call with ⟨next, left⟩
      rw [result] at handled
      cases left with
      | true => exact ⟨next, rfl⟩
      | false =>
        obtain ⟨valid, fewer⟩ := Handles.fewer_due future valid headed stored isDue handled
        exact ih valid (fewer.trans_le (Nat.le_of_lt_succ enough))

end Respawning

/-! ## Small maps -/

def RespawnStore.ofTimers (timers : List RespawnInfo) : RespawnStore :=
  timers.foldl (fun store info => (store.addRespawnInfoLikeCpp info).2) .new

theorem RespawnStore.ofTimers_valid (timers : List RespawnInfo) : (ofTimers timers).Valid := by
  have all : ∀ store : RespawnStore, store.Valid →
      (timers.foldl (fun store info => (store.addRespawnInfoLikeCpp info).2) store).Valid := by
    induction timers with
    | nil => exact fun _ valid => valid
    | cons info timers ih => exact fun store valid => ih _ (valid.step (.add info) rfl)
  exact all .new ⟨[], rfl⟩

def creatureTimer (spawnId : ℕ) (respawnTime : ℤ) : RespawnInfo :=
  ⟨.creature, spawnId, 0, respawnTime, 0⟩

/-- A map with these timers and no objects, where grid 0 is loaded. -/
def emptyMap (timers : List RespawnInfo) : Map Unit Unit where
  mapId := 0
  spawnGroupState := ⟨∅⟩
  poolData := ⟨∅, ∅, ∅⟩
  entityWorld := ∅
  creaturesBySpawnId := ∅
  gameobjectsBySpawnId := ∅
  loadedGrids := {(0, 0)}
  rest := ()
  respawnStore := .ofTimers timers

/-- A group that is always active. -/
def systemSpawn : SpawnData := ⟨0, ⟨0, "Default Group", 0, .system⟩⟩

def creatureGuid (spawnId : ℕ) : ObjectGuid :=
  .createWorldObject ObjectGuid.highGuidCreature 0 0 0 0 0 (BitVec.ofNat 64 spawnId)

/-- A call with creatures 1 and 2 as the spawns, a link between two creatures, and a loader that
puts timers next to the one it is called for. -/
def sampleCall (now : ℤ) (jitterSecs : ℕ) (links : List (ℕ × ℕ))
    (loaderTimers : ℕ → List RespawnInfo) : RespawnCall Unit Unit Unit where
  now := now
  spawnStore :=
    ⟨(AList.singleton (.creature, 1) systemSpawn).insert (.creature, 2) systemSpawn, ∅, ∅⟩
  spawnGrid _ _ := (0, 0)
  linkedStore := ⟨links.foldl (fun linked link =>
    linked.insert (creatureGuid link.1) (creatureGuid link.2)) ∅⟩
  poolMgr := ⟨⟨∅, AList.singleton 55 ⟨55, .creature, [], [⟨47, 0⟩]⟩, ∅, ∅, ∅⟩,
    AList.singleton 47 55, ∅⟩
  jitterSecs := jitterSecs
  respawnDynamicEscortnpc := false
  isCreatureEscorted _ _ seed := (false, seed)
  dice := ⟨fun _ _ seed => (0, seed), fun _ _ seed => ([], seed)⟩
  consumeDueTimerOnLoadFailure := true
  loadRecord map _ spawnId seed :=
    (none, { map with respawnStore := (loaderTimers spawnId).foldl (fun store info =>
      (store.addRespawnInfoLikeCpp info).2) map.respawnStore }, seed)
  addMapObjectRecordToMap body _ := (true, body)
  removeFromMap body _ := (.ok (), body)

/-- With a loader that puts a due timer for one creature next to that of the other. -/
def greedyCall : RespawnCall Unit Unit Unit :=
  sampleCall 100 5 [] fun spawnId => [creatureTimer (3 - spawnId) 50]

namespace Respawning

section Endless

variable {call : RespawnCall Unit Unit Unit} {map map' : Map Unit Unit} {info : RespawnInfo}
variable {queue : List RespawnQueueKey} {spawnData : SpawnData}

section Round

variable (headed : map.respawnStore.respawnTimes.toList = .fromInfo info :: queue)
  (stored : map.respawnStore.getRespawnInfoLikeCpp info.objectType info.spawnId = some info)
  (isDue : info.respawnTime ≤ call.now)
  (unpooled : call.poolMgr.isPartOfAPool info.objectType info.spawnId = .ok 0)
  (known : call.spawnStore.spawnData info.objectType info.spawnId = some spawnData)
include headed stored isDue unpooled known

/-- A round whose timer may respawn, with a loader that fails, whatever was counted before. -/
theorem processRound_loadFails
    (checks : map.checkRespawn info call.spawnStore call.linkedStore call.now call.jitterSecs
      call.respawnDynamicEscortnpc call.isCreatureEscorted () = (.allowed, info, ()))
    (onLoadedGrid : map.isGridIdLoaded info.gridId = true)
    (loads : call.loadRecord map info.objectType info.spawnId () = (none, map', ()))
    (consume : call.consumeDueTimerOnLoadFailure = true) (summary : ProcessRespawnsSummary Unit) :
    (processRound ⟨map, (), summary⟩ call).2 = false ∧
      (processRound ⟨map, (), summary⟩ call).1.map =
        { map' with
          respawnStore :=
            (map'.respawnStore.removeRespawnTimeLikeCpp info.objectType info.spawnId).2 } := by
  have head := @processRound_eq_processSpawn _ _ _ call ⟨map, (), summary⟩ info queue headed
    stored isDue unpooled
  rw [head, processSpawn, known, if_neg (by simp)]
  dsimp only
  rw [checks]
  dsimp only [loaded]
  rw [doRespawn, if_pos onLoadedGrid]
  dsimp only
  rw [loads]
  dsimp only
  rw [if_pos consume]
  exact ⟨rfl, rfl⟩

theorem processRound_linkedInfinite
    (checks : map.checkRespawn info call.spawnStore call.linkedStore call.now call.jitterSecs
      call.respawnDynamicEscortnpc call.isCreatureEscorted () =
        (.linkedInfinite, { info with respawnTime := i64Max }, ()))
    (summary : ProcessRespawnsSummary Unit) :
    (processRound ⟨map, (), summary⟩ call).2 = false ∧
      (processRound ⟨map, (), summary⟩ call).1.map =
        { map with
          respawnStore :=
            ((map.respawnStore.removeRespawnTimeLikeCpp info.objectType
              info.spawnId).2.addRespawnInfoLikeCpp { info with respawnTime := i64Max }).2 } := by
  have head := @processRound_eq_processSpawn _ _ _ call ⟨map, (), summary⟩ info queue headed
    stored isDue unpooled
  rw [head, processSpawn, known, if_neg (by simp)]
  dsimp only
  rw [checks]
  dsimp only
  rw [reschedule, if_pos (.inl rfl)]
  exact ⟨rfl, rfl⟩

end Round

theorem processRounds_eq_none (K : Map Unit Unit → Prop)
    (goesOn : ∀ map, K map → ∀ summary, (processRound ⟨map, (), summary⟩ call).2 = false ∧
      K (processRound ⟨map, (), summary⟩ call).1.map) (start : K map)
    (summary : ProcessRespawnsSummary Unit) (fuel : ℕ) :
    processRounds call fuel ⟨map, (), summary⟩ = none := by
  induction fuel generalizing map summary with
  | zero => rfl
  | succ fuel ih =>
    obtain ⟨on, next⟩ := goesOn map start summary
    rw [processRounds]
    rcases result : processRound ⟨map, (), summary⟩ call with ⟨⟨map', _, summary'⟩, left⟩
    rw [result] at on next
    cases on
    exact ih next summary'

end Endless
end Respawning

end RustyCore.Spawns
