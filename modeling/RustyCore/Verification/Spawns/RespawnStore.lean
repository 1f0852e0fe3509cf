import RustyCore.Model.Spawns.SpawnStore

/-! # The respawn queue follows the timers

Each stored timer has one key in the queue. A call that processes the due timers takes their
keys from the front of the queue, and what it puts back is later than now. -/

namespace RustyCore.Spawns

open Pools (SpawnObjectType)

namespace RespawnQueueKey

theorem lt_iff {a b : RespawnQueueKey} :
    a < b ↔ a.respawnTime < b.respawnTime ∨ a.respawnTime = b.respawnTime ∧
      (b.spawnId < a.spawnId ∨ a.spawnId = b.spawnId ∧
        spawnTypeRaw b.objectType < spawnTypeRaw a.objectType) := by
  change a.rank < b.rank ↔ _
  simp only [rank, Prod.Lex.toLex_lt_toLex, OrderDual.toDual_lt_toDual, OrderDual.toDual_inj]

theorem respawnTime_le {a b : RespawnQueueKey} (h : a ≤ b) : a.respawnTime ≤ b.respawnTime := by
  rcases h.lt_or_eq with lt | rfl
  · rcases lt_iff.mp lt with sooner | ⟨same, _⟩
    · exact sooner.le
    · exact same.le
  · exact le_rfl

/-- The timer that a key is for. -/
def target (key : RespawnQueueKey) : SpawnObjectType × ℕ := (key.objectType, key.spawnId)

end RespawnQueueKey

/-- The timer that an action is about. -/
def ProcessRespawnAction.target : ProcessRespawnAction → SpawnObjectType × ℕ
  | .updatePool _ objectType spawnId => (objectType, spawnId)
  | .doRespawn objectType spawnId _ => (objectType, spawnId)
  | .deleteRespawn objectType spawnId => (objectType, spawnId)
  | .rescheduleAndSave info => (info.objectType, info.spawnId)
  | .invalidRescheduleNotFuture info => (info.objectType, info.spawnId)

namespace RespawnStore

variable {key : RespawnQueueKey} {now : ℤ} {rest : List RespawnQueueKey}

/-! ## The maps -/

section Maps

variable (store : RespawnStore) (objectType objectType' : SpawnObjectType) (spawnId spawnId' : ℕ)
variable (info : RespawnInfo)

@[simp] theorem getRespawnInfo_new : new.getRespawnInfoLikeCpp objectType spawnId = none := by
  cases objectType <;> rfl

theorem hasRespawnMap_of_get {store : RespawnStore} {objectType : SpawnObjectType} {spawnId : ℕ}
    {info : RespawnInfo} (stored : store.getRespawnInfoLikeCpp objectType spawnId = some info) :
    hasRespawnMapLikeCpp objectType = true := by
  cases objectType with
  | creature => rfl
  | gameObject => rfl
  | areaTrigger => simp [getRespawnInfoLikeCpp, mapForType] at stored

@[simp] theorem respawnTimes_updateMap (update : Dict ℕ RespawnInfo → Dict ℕ RespawnInfo) :
    (store.updateMap objectType update).respawnTimes = store.respawnTimes := by
  cases objectType <;> rfl

theorem respawnTimes_insertRespawnInfo :
    (store.insertRespawnInfo info).respawnTimes = store.respawnTimes.insert (.fromInfo info) := by
  simp [insertRespawnInfo]

theorem getRespawnInfo_insertRespawnInfo (hasMap : hasRespawnMapLikeCpp info.objectType = true) :
    (store.insertRespawnInfo info).getRespawnInfoLikeCpp objectType spawnId =
      if objectType = info.objectType ∧ spawnId = info.spawnId then some info
      else store.getRespawnInfoLikeCpp objectType spawnId := by
  obtain ⟨type, id, entry, time, grid⟩ := info
  cases type <;> cases objectType <;>
    simp_all [insertRespawnInfo, updateMap, getRespawnInfoLikeCpp, mapForType,
      hasRespawnMapLikeCpp, Dict.lookup_insert_eq]

theorem getRespawnInfo_removeRespawnTime :
    (store.removeRespawnTimeLikeCpp objectType spawnId).2.getRespawnInfoLikeCpp
        objectType' spawnId' =
      if objectType' = objectType ∧ spawnId' = spawnId then none
      else store.getRespawnInfoLikeCpp objectType' spawnId' := by
  unfold removeRespawnTimeLikeCpp
  cases stored : store.getRespawnInfoLikeCpp objectType spawnId with
  | none =>
    by_cases same : objectType' = objectType ∧ spawnId' = spawnId
    · obtain ⟨rfl, rfl⟩ := same
      simpa using stored
    · simp [same]
  | some info =>
    cases objectType <;> cases objectType' <;>
      simp_all [updateMap, getRespawnInfoLikeCpp, mapForType, Dict.lookup_erase_eq]

variable {store objectType spawnId info}

theorem removeRespawnTime_of_get
    (stored : store.getRespawnInfoLikeCpp objectType spawnId = some info) :
    (store.removeRespawnTimeLikeCpp objectType spawnId).1 = some info ∧
      (store.removeRespawnTimeLikeCpp objectType spawnId).2.respawnTimes =
        store.respawnTimes.erase (.fromInfo info) := by
  simp [removeRespawnTimeLikeCpp, stored]

theorem removeRespawnTime_of_get_none
    (missing : store.getRespawnInfoLikeCpp objectType spawnId = none) :
    store.removeRespawnTimeLikeCpp objectType spawnId = (none, store) := by
  simp [removeRespawnTimeLikeCpp, missing]

end Maps

/-! ## The invariant -/

/-- A timer is stored under its own type and spawn id, and the keys of the queue are those of
the stored timers. -/
structure InStep (store : RespawnStore) : Prop where
  named : ∀ objectType spawnId info,
    store.getRespawnInfoLikeCpp objectType spawnId = some info →
      info.objectType = objectType ∧ info.spawnId = spawnId ∧ spawnId ≠ 0
  queued : ∀ key, key ∈ store.respawnTimes ↔
    ∃ info, store.getRespawnInfoLikeCpp key.objectType key.spawnId = some info ∧
      RespawnQueueKey.fromInfo info = key

theorem InStep.new : new.InStep where
  named _ _ _ stored := by simp at stored
  queued key := by
    refine iff_of_false SortedSet.not_mem_empty ?_
    simp

variable {store : RespawnStore} {objectType : SpawnObjectType} {spawnId : ℕ} {info : RespawnInfo}

theorem InStep.insert (h : store.InStep) (id : info.spawnId ≠ 0)
    (hasMap : hasRespawnMapLikeCpp info.objectType = true)
    (free : store.getRespawnInfoLikeCpp info.objectType info.spawnId = none) :
    (store.insertRespawnInfo info).InStep where
  named type spawn other stored := by
    rw [getRespawnInfo_insertRespawnInfo _ _ _ _ hasMap] at stored
    split_ifs at stored with same
    · obtain ⟨rfl, rfl⟩ := same
      cases stored
      exact ⟨rfl, rfl, id⟩
    · exact h.named type spawn other stored
  queued key := by
    rw [respawnTimes_insertRespawnInfo, SortedSet.mem_insert, h.queued,
      getRespawnInfo_insertRespawnInfo _ _ _ _ hasMap]
    by_cases same : key.objectType = info.objectType ∧ key.spawnId = info.spawnId
    · simp only [same, and_self, if_true, free]
      constructor
      · rintro (rfl | ⟨other, stored, _⟩)
        · exact ⟨info, rfl, rfl⟩
        · cases stored
      · rintro ⟨other, stored, rfl⟩
        cases stored
        exact .inl rfl
    · rw [if_neg same]
      refine or_iff_right ?_
      rintro rfl
      exact same ⟨rfl, rfl⟩

theorem InStep.remove (h : store.InStep) :
    (store.removeRespawnTimeLikeCpp objectType spawnId).2.InStep := by
  cases stored : store.getRespawnInfoLikeCpp objectType spawnId with
  | none =>
    rw [removeRespawnTime_of_get_none stored]
    exact h
  | some info =>
    obtain ⟨type, id, _⟩ := h.named _ _ _ stored
    constructor
    case named =>
      intro type spawn other stored
      rw [getRespawnInfo_removeRespawnTime] at stored
      split_ifs at stored
      exact h.named type spawn other stored
    case queued =>
      intro key
      rw [(removeRespawnTime_of_get stored).2, SortedSet.mem_erase, h.queued,
        getRespawnInfo_removeRespawnTime]
      by_cases same : key.objectType = objectType ∧ key.spawnId = spawnId
      · simp only [same, and_self, if_true, stored, Option.some.injEq, exists_eq_left',
          reduceCtorEq, false_and, exists_false, iff_false]
        rintro ⟨ne, eq⟩
        exact ne eq.symm
      · rw [if_neg same]
        refine and_iff_right_of_imp fun _ => ?_
        rintro rfl
        exact same ⟨type, id⟩

theorem addRespawnInfo_of_free (id : info.spawnId ≠ 0)
    (hasMap : hasRespawnMapLikeCpp info.objectType = true)
    (free : store.getRespawnInfoLikeCpp info.objectType info.spawnId = none) :
    store.addRespawnInfoLikeCpp info = (.inserted, store.insertRespawnInfo info) := by
  simp [addRespawnInfoLikeCpp, id, hasMap, free]

theorem InStep.add (h : store.InStep) : (store.addRespawnInfoLikeCpp info).2.InStep := by
  unfold addRespawnInfoLikeCpp
  split_ifs with id noMap
  · exact h
  · exact h
  · have hasMap : hasRespawnMapLikeCpp info.objectType = true := by simpa using noMap
    split
    next free => exact h.insert id hasMap free
    next existing stored =>
      split_ifs
      · refine h.remove.insert id hasMap ?_
        simp [getRespawnInfo_removeRespawnTime]
      · exact h

/-! ## One round -/

/-- The keys that are due, in queue order. -/
def due (now : ℤ) (store : RespawnStore) : List RespawnQueueKey :=
  store.respawnTimes.toList.filter (·.respawnTime ≤ now)

theorem due_pairwise (now : ℤ) (store : RespawnStore) : (store.due now).Pairwise (· < ·) :=
  store.respawnTimes.sorted.sublist List.filter_sublist

theorem InStep.fewer_due {store' : RespawnStore} (h' : store'.InStep)
    (wasDue : key ∈ store.due now) (sub : ∀ other ∈ store'.due now, other ∈ store.due now)
    (gone : store'.getRespawnInfoLikeCpp key.objectType key.spawnId = none) :
    (store'.due now).length < (store.due now).length := by
  have absent : key ∉ store'.due now := by
    intro mem
    obtain ⟨info, stored, _⟩ := (h'.queued key).mp (List.mem_filter.mp mem).1
    simp [gone] at stored
  have nodup' : (store'.due now).Nodup := (due_pairwise now store').imp ne_of_lt
  have within : store'.due now ⊆ (store.due now).erase key := by
    intro other mem
    have ne : other ≠ key := by
      rintro rfl
      exact absent mem
    exact (List.mem_erase_of_ne ne).mpr (sub other mem)
  calc (store'.due now).length ≤ ((store.due now).erase key).length :=
        (List.subperm_of_subset nodup' within).length_le
    _ < (store.due now).length := by
        rw [List.length_erase_of_mem wasDue]
        exact Nat.pred_lt (List.length_pos_of_mem wasDue).ne'

theorem InStep.later_of_due_eq_nil (h : store.InStep) (nothing : store.due now = [])
    (stored : store.getRespawnInfoLikeCpp objectType spawnId = some info) :
    now < info.respawnTime := by
  obtain ⟨rfl, rfl, _⟩ := h.named _ _ _ stored
  have mem : RespawnQueueKey.fromInfo info ∈ store.respawnTimes :=
    (h.queued _).mpr ⟨info, stored, rfl⟩
  have later := List.filter_eq_nil_iff.mp nothing _ mem
  exact not_le.mp fun le => later (decide_eq_true le)

theorem queue_of_due_eq_cons (keys : store.due now = key :: rest) :
    key.respawnTime ≤ now ∧ ∃ queue, store.respawnTimes.toList = key :: queue ∧
      queue.filter (·.respawnTime ≤ now) = rest := by
  have mem : key ∈ store.due now := keys ▸ List.mem_cons_self
  obtain ⟨stored, isDue⟩ := List.mem_filter.mp mem
  have le : key.respawnTime ≤ now := of_decide_eq_true isDue
  refine ⟨le, ?_⟩
  cases queue : store.respawnTimes.toList with
  | nil => simp [queue] at stored
  | cons head queue' =>
    have headDue : head.respawnTime ≤ now :=
      (RespawnQueueKey.respawnTime_le (SortedSet.le_of_toList_eq_cons queue stored)).trans le
    rw [due, queue, List.filter_cons_of_pos (by simpa using headDue)] at keys
    obtain ⟨rfl, rfl⟩ := List.cons.inj keys
    exact ⟨queue', rfl, rfl⟩

theorem due_eq_nil_of_head {queue : List RespawnQueueKey}
    (headed : store.respawnTimes.toList = key :: queue) (later : now < key.respawnTime) :
    store.due now = [] := by
  refine List.filter_eq_nil_iff.mpr fun other mem isDue => ?_
  have le := RespawnQueueKey.respawnTime_le (SortedSet.le_of_toList_eq_cons headed mem)
  exact absurd (of_decide_eq_true isDue) (not_le.mpr (later.trans_le le))

theorem InStep.remove_head (h : store.InStep) (queue : store.respawnTimes.toList = key :: rest) :
    ∃ info, store.getRespawnInfoLikeCpp key.objectType key.spawnId = some info ∧
      RespawnQueueKey.fromInfo info = key ∧
      (store.removeRespawnTimeLikeCpp key.objectType key.spawnId).1 = some info ∧
      (store.removeRespawnTimeLikeCpp key.objectType key.spawnId).2.respawnTimes.toList = rest := by
  have mem : key ∈ store.respawnTimes := by
    rw [SortedSet.mem_iff, queue]
    exact List.mem_cons_self
  obtain ⟨info, stored, same⟩ := (h.queued key).mp mem
  obtain ⟨removed, erased⟩ := removeRespawnTime_of_get stored
  refine ⟨info, stored, same, removed, ?_⟩
  rw [erased, same]
  exact SortedSet.erase_head queue

theorem due_addRespawnInfo (id : info.spawnId ≠ 0)
    (hasMap : hasRespawnMapLikeCpp info.objectType = true)
    (free : store.getRespawnInfoLikeCpp info.objectType info.spawnId = none)
    (later : now < info.respawnTime) :
    (store.addRespawnInfoLikeCpp info).2.due now = store.due now := by
  rw [addRespawnInfo_of_free id hasMap free]
  simp only [due, respawnTimes_insertRespawnInfo]
  refine filter_insertSorted_of_false ?_ _
  exact decide_eq_false (not_le.mpr later)

namespace RespawnProgress

variable {γ : Type} {progress : RespawnProgress γ} {checks : RespawnChecks γ} {now : ℤ}

/-- What a round does with the timer that it took: one action about it, and unless the loop is
left, no change of the due keys. -/
structure RoundSpec (now : ℤ) (info : RespawnInfo) (before : RespawnProgress γ)
    (result : RespawnProgress γ × Bool) : Prop where
  inStep : result.1.store.InStep
  acts : ∃ action, result.1.actions = before.actions ++ [action] ∧
    action.target = (info.objectType, info.spawnId) ∧
    (result.2 = true → ∃ left, action = .invalidRescheduleNotFuture left)
  due_eq : result.2 = false → result.1.store.due now = before.store.due now

theorem processInfo_spec (h : progress.store.InStep) (id : info.spawnId ≠ 0)
    (hasMap : hasRespawnMapLikeCpp info.objectType = true)
    (free : progress.store.getRespawnInfoLikeCpp info.objectType info.spawnId = none) :
    RoundSpec now info progress (progress.processInfo checks now info) := by
  unfold processInfo
  split
  next pool seed _ => exact ⟨h, ⟨_, rfl, rfl, by simp⟩, fun _ => rfl⟩
  next seed _ =>
    split
    next => exact ⟨h, ⟨_, rfl, rfl, by simp⟩, fun _ => rfl⟩
    next respawnTime seed _ =>
      dsimp only
      split_ifs with deleted later
      · exact ⟨h, ⟨_, rfl, rfl, by simp⟩, fun _ => rfl⟩
      · exact ⟨h.add, ⟨_, rfl, rfl, by simp⟩, fun _ => due_addRespawnInfo id hasMap free later⟩
      · exact ⟨h.add, ⟨_, rfl, rfl, fun _ => ⟨_, rfl⟩⟩, by simp⟩

/-- What a call has done: one action for each of the first due keys, and unless it was left by
an invalid time, for all of them. -/
structure Processed (now : ℤ) (before after : RespawnProgress γ) : Prop where
  inStep : after.store.InStep
  actions : ∃ processed actions, processed <+: before.store.due now ∧
    after.actions = before.actions ++ actions ∧
    actions.map ProcessRespawnAction.target = processed.map RespawnQueueKey.target ∧
    (after.store.due now = [] ∨
      ∃ left, actions.getLast? = some (.invalidRescheduleNotFuture left))

/-- The rounds up to one that takes a timer, and those after it. -/
theorem Processed.cons {before after : RespawnProgress γ} {result : RespawnProgress γ × Bool}
    {start : RespawnProgress γ} (round : RoundSpec now info before result)
    (goOn : result.2 = false) (keys : start.store.due now = key :: rest)
    (same : before.actions = start.actions) (restDue : before.store.due now = rest)
    (target : (info.objectType, info.spawnId) = key.target) (later : Processed now result.1 after) :
    Processed now start after where
  inStep := later.inStep
  actions := by
    obtain ⟨action, acted, about, _⟩ := round.acts
    obtain ⟨processed, actions, initial, appended, targets, ends⟩ := later.actions
    rw [round.due_eq goOn, restDue] at initial
    refine ⟨key :: processed, action :: actions, ?_, ?_, ?_, ?_⟩
    · rw [keys]
      exact List.cons_prefix_cons.mpr ⟨rfl, initial⟩
    · rw [appended, acted, same, List.append_assoc, List.singleton_append]
    · rw [List.map_cons, List.map_cons, targets, about, target]
    · refine ends.imp_right ?_
      rintro ⟨left, last⟩
      cases actions with
      | nil => cases last
      | cons first actions => exact ⟨left, by simpa using last⟩

/-- A round whose head is due takes the timer and goes on with what its info says. -/
theorem processRounds_of_head {fuel : ℕ} {queue : List RespawnQueueKey}
    (headed : progress.store.respawnTimes.toList = key :: queue) (le : key.respawnTime ≤ now)
    (removed : (progress.store.removeRespawnTimeLikeCpp key.objectType key.spawnId).1 = some info) :
    processRounds checks now (fuel + 1) progress =
      match { progress with
        store := (progress.store.removeRespawnTimeLikeCpp key.objectType key.spawnId).2
        }.processInfo checks now info with
      | (progress, true) => some progress
      | (progress, false) => processRounds checks now fuel progress := by
  rw [processRounds, headed]
  dsimp only
  rw [if_neg (not_lt.mpr le)]
  rcases h : progress.store.removeRespawnTimeLikeCpp key.objectType key.spawnId with ⟨found, store⟩
  rw [h] at removed
  cases removed
  rfl

/-- By induction on the due keys: a round takes the first of them. -/
theorem processRounds_spec {fuel : ℕ} (h : progress.store.InStep)
    (enough : (progress.store.due now).length < fuel) :
    ∃ after, processRounds checks now fuel progress = some after ∧
      Processed now progress after := by
  induction keys : progress.store.due now generalizing progress fuel with
  | nil =>
    obtain ⟨fuel, rfl⟩ := Nat.exists_eq_add_of_lt enough
    have done : Processed now progress progress :=
      ⟨h, [], [], List.nil_prefix, by simp, rfl, .inl keys⟩
    refine ⟨progress, ?_, done⟩
    unfold processRounds
    split
    · rfl
    next key rest queue =>
      refine if_pos ?_
      rw [due, queue] at keys
      simpa using List.filter_eq_nil_iff.mp keys key List.mem_cons_self
  | cons key rest ih =>
    obtain ⟨le, queue, headed, restDue⟩ := queue_of_due_eq_cons keys
    obtain ⟨info, stored, same, removed, popped⟩ := h.remove_head headed
    obtain ⟨type, id, nonzero⟩ := h.named _ _ _ stored
    cases fuel with
    | zero => exact absurd enough (Nat.not_lt_zero _)
    | succ fuel =>
      let taken := (progress.store.removeRespawnTimeLikeCpp key.objectType key.spawnId).2
      have takenDue : taken.due now = rest := by
        rw [due, popped, restDue]
      have round : RoundSpec now info { progress with store := taken }
          (processInfo { progress with store := taken } checks now info) := by
        refine processInfo_spec h.remove (id ▸ nonzero) (type ▸ hasRespawnMap_of_get stored) ?_
        rw [getRespawnInfo_removeRespawnTime, if_pos ⟨type, id⟩]
      have target : (info.objectType, info.spawnId) = key.target := by
        rw [type, id]
        rfl
      rw [processRounds_of_head headed le removed]
      split
      next after left =>
        rw [left] at round
        obtain ⟨action, acted, about, leaves⟩ := round.acts
        obtain ⟨last, rfl⟩ := leaves rfl
        refine ⟨after, rfl, round.inStep, [key], [_], ?_, acted, ?_, .inr ⟨last, rfl⟩⟩
        · rw [keys]
          exact List.cons_prefix_cons.mpr ⟨rfl, List.nil_prefix⟩
        · rw [List.map_singleton, List.map_singleton, about, target]
      next next goOn =>
        rw [goOn] at round
        have nextDue : next.store.due now = rest := (round.due_eq rfl).trans takenDue
        have fewer : (next.store.due now).length < fuel := by
          rw [keys, List.length_cons] at enough
          rw [nextDue]
          exact Nat.lt_of_succ_lt_succ enough
        obtain ⟨after, ran, later⟩ := ih round.inStep fewer nextDue
        exact ⟨after, ran, .cons round rfl keys rfl takenDue target later⟩

end RespawnProgress

/-! ## Calls and runs -/

theorem InStep.due_targets_nodup (h : store.InStep) (now : ℤ) :
    ((store.due now).map RespawnQueueKey.target).Nodup := by
  refine List.Nodup.map_on ?_ ((due_pairwise now store).imp ne_of_lt)
  intro key mem key' mem' same
  obtain ⟨info, stored, rfl⟩ := (h.queued _).mp (List.mem_filter.mp mem).1
  obtain ⟨info', stored', rfl⟩ := (h.queued _).mp (List.mem_filter.mp mem').1
  obtain ⟨type, id⟩ := Prod.mk.inj same
  rw [type, id, stored'] at stored
  rw [Option.some.inj stored]

theorem processDueRespawns_spec {γ : Type} (checks : RespawnChecks γ) (now : ℤ) (seed : γ)
    (h : store.InStep) :
    ∃ after, store.processDueRespawnsLikeCpp checks now seed = some after ∧
      RespawnProgress.Processed now ⟨store, seed, []⟩ after := by
  have h' : (⟨store, seed, []⟩ : RespawnProgress γ).store.InStep := h
  refine RespawnProgress.processRounds_spec h' ?_
  exact Nat.lt_succ_of_le (List.length_filter_le _ _)

theorem step_inStep (h : store.InStep) (op : RespawnOp) :
    ∃ after, store.step op = some after ∧ after.InStep := by
  cases op with
  | add info => exact ⟨_, rfl, h.add⟩
  | remove objectType spawnId => exact ⟨_, rfl, h.remove⟩
  | unloadAll => exact ⟨_, rfl, .new⟩
  | process checks now seed =>
    obtain ⟨after, ran, done⟩ := processDueRespawns_spec checks now seed h
    exact ⟨after.store, by rw [step, ran, Option.map_some], done.inStep⟩

theorem run_inStep (h : store.InStep) (ops : List RespawnOp) :
    ∃ after, ops.foldlM step store = some after ∧ after.InStep := by
  induction ops generalizing store with
  | nil => exact ⟨store, rfl, h⟩
  | cons op ops ih =>
    obtain ⟨next, stepped, h⟩ := step_inStep h op
    obtain ⟨after, ran, h⟩ := ih h
    refine ⟨after, ?_, h⟩
    rw [List.foldlM_cons, stepped]
    exact ran

/-- A store that the operations of the store have made. -/
def Valid (store : RespawnStore) : Prop :=
  ∃ ops : List RespawnOp, ops.foldlM step new = some store

theorem Valid.inStep (h : store.Valid) : store.InStep := by
  obtain ⟨ops, ran⟩ := h
  obtain ⟨after, ran', inStep⟩ := run_inStep .new ops
  rw [ran] at ran'
  exact Option.some.inj ran' ▸ inStep

theorem Valid.step (h : store.Valid) (op : RespawnOp) {after : RespawnStore}
    (stepped : store.step op = some after) : after.Valid := by
  obtain ⟨ops, ran⟩ := h
  refine ⟨ops ++ [op], ?_⟩
  rw [List.foldlM_append, ran]
  simp [stepped]

/-- Every run ends, with one key in the queue for each timer, which carries its time and type,
and no other key. From there a call that processes the due timers ends, its actions are about
the first due timers, each once and in queue order, and unless the last one tells of an invalid
time only timers later than now are left. -/
theorem respawnQueue_integrity (ops : List RespawnOp) :
    ∃ store, ops.foldlM step RespawnStore.new = some store ∧
      (∀ objectType spawnId info,
        store.getRespawnInfoLikeCpp objectType spawnId = some info →
          ∃! key, key ∈ store.respawnTimes.toList ∧ key.target = (objectType, spawnId)) ∧
      (∀ key, key ∈ store.respawnTimes.toList ↔
        ∃ info, store.getRespawnInfoLikeCpp key.objectType key.spawnId = some info ∧
          key = ⟨info.respawnTime, info.spawnId, info.objectType⟩) ∧
      store.respawnTimes.toList.Nodup ∧
      ∀ {γ : Type} (checks : RespawnChecks γ) (now : ℤ) (seed : γ),
        ∃ after, store.processDueRespawnsLikeCpp checks now seed = some after ∧
          (after.actions.map ProcessRespawnAction.target).Nodup ∧
          (∃ processed,
            processed.Pairwise (fun key key' => key.respawnTime < key'.respawnTime ∨
              key.respawnTime = key'.respawnTime ∧ (key'.spawnId < key.spawnId ∨
                key.spawnId = key'.spawnId ∧
                  spawnTypeRaw key'.objectType < spawnTypeRaw key.objectType)) ∧
            processed <+: store.respawnTimes.toList.filter (·.respawnTime ≤ now) ∧
            after.actions.map ProcessRespawnAction.target =
              processed.map RespawnQueueKey.target) ∧
          ((∃ info, after.actions.getLast? = some (.invalidRescheduleNotFuture info)) ∨
            ∀ objectType spawnId info,
              after.store.getRespawnInfoLikeCpp objectType spawnId = some info →
                now < info.respawnTime) := by
  obtain ⟨store, ran, h⟩ := run_inStep .new ops
  refine ⟨store, ran, ?_, ?_, store.respawnTimes.nodup, ?_⟩
  case refine_1 =>
    intro objectType spawnId info stored
    obtain ⟨rfl, rfl, _⟩ := h.named _ _ _ stored
    refine ⟨.fromInfo info, ⟨(h.queued _).mpr ⟨info, stored, rfl⟩, rfl⟩, ?_⟩
    rintro key ⟨mem, target⟩
    obtain ⟨info', stored', rfl⟩ := (h.queued key).mp mem
    obtain ⟨type, id⟩ := Prod.mk.inj target
    rw [type, id, stored] at stored'
    rw [Option.some.inj stored']
  case refine_2 =>
    intro key
    rw [← SortedSet.mem_iff, h.queued]
    refine exists_congr fun info => and_congr_right fun _ => ?_
    exact eq_comm
  case refine_3 =>
    intro γ checks now seed
    obtain ⟨after, ended, done⟩ := processDueRespawns_spec checks now seed h
    obtain ⟨processed, actions, initial, appended, targets, ends⟩ := done.actions
    rw [List.nil_append] at appended
    subst appended
    refine ⟨after, ended, ?_, ⟨processed, ?_, initial, targets⟩, ?_⟩
    · rw [targets]
      exact (h.due_targets_nodup now).sublist (initial.map _).sublist
    · refine ((due_pairwise now store).sublist initial.sublist).imp ?_
      exact fun lt => RespawnQueueKey.lt_iff.mp lt
    · refine ends.symm.imp_right ?_
      intro nothing objectType spawnId info stored
      exact done.inStep.later_of_due_eq_nil nothing stored

end RespawnStore

end RustyCore.Spawns
