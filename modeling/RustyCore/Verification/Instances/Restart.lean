import RustyCore.Library.Run
import RustyCore.Verification.Instances.SavedSteps

/-! # Instance locks over a restart

The tables follow the permanent locks through every run whose steps are recorded as they
are made. -/

namespace RustyCore.Instances

variable {entriesFor : BitVec 32 → BitVec 8 → Option MapDb2Entries}
variable {entries : MapDb2Entries}

/-! ## Steps that change no permanent lock -/

section Quiet

variable {server server' : InstanceLockServer}

theorem Saved.of_locks (h : Saved entriesFor server)
    (hlocks : LocksSaved entriesFor none server')
    (hpermanent : ∀ playerGuid key, server'.mgr.instanceLocksByPlayer.get playerGuid key =
      server.mgr.instanceLocksByPlayer.get playerGuid key)
    (hrows : server'.tables.character = server.tables.character) :
    Saved entriesFor server' where
  toLocksSaved := hlocks
  character := by
    intro counter key
    rw [hrows, hpermanent]
    exact h.character counter key

theorem Saved.createForNewInstance (h : Saved entriesFor server) (playerGuid : ObjectGuid)
    (hknown : Known entriesFor entries) (instanceId : BitVec 32) (schedule : ResetSchedule)
    (now : InstanceResetTime) :
    Saved entriesFor { server with
      mgr := (server.mgr.createInstanceLockForNewInstanceAt playerGuid entries instanceId schedule
        now).1 } := by
  rw [InstanceLockMgr.createInstanceLockForNewInstanceAt]
  cases hreset : entries.hasResetSchedule with
  | false => exact h
  | true =>
    have hput : ∀ (mgr : InstanceLockMgr) (lock : InstanceLock),
        LocksSaved entriesFor none { server with mgr := mgr } →
        Filed entriesFor entries.key lock →
        (∀ cell ∈ lock.sharedData, cell < mgr.sharedCells.next) →
        LocksSaved entriesFor none { server with mgr := { mgr with
          temporaryInstanceLocksByPlayer :=
            mgr.temporaryInstanceLocksByPlayer.put playerGuid entries.key lock } } := by
      intro mgr lock hmgr hfiled hcells
      refine hmgr.of_locks rfl rfl rfl hmgr.permanent fun guid key lock' hlock' => ?_
      dsimp only at hlock'
      rw [NestedDict.get_put] at hlock'
      split at hlock'
      case isTrue hthis =>
        cases hlock'
        rw [hthis.2]
        exact ⟨hfiled, hcells⟩
      case isFalse => exact hmgr.temporary guid key lock' hlock'
    rw [InstanceLockMgr.newTemporaryLock]
    cases hbound : entries.isInstanceIdBound with
    | false =>
      refine h.of_locks (hput _ _ h.toLocksSaved ⟨entries, hknown, rfl, rfl, rfl, hbound⟩ ?_)
        (fun _ _ => rfl) rfl
      intro cell hcell
      cases hcell
    | true =>
      refine h.of_locks (hput _ _ (h.registerShared instanceId SharedInstanceLockData.default)
        ⟨entries, hknown, rfl, rfl, rfl, hbound⟩ ?_) (fun _ _ => rfl) rfl
      intro cell hcell
      cases hcell
      exact Nat.lt_succ_self _

theorem Saved.setActiveInstanceId (h : Saved entriesFor server) (playerGuid : ObjectGuid)
    (entries : MapDb2Entries) (now : InstanceResetTime) (instanceId : BitVec 32)
    (hrecorded : entries.hasResetSchedule = true →
      ∀ lock ∈ server.mgr.instanceLocksByPlayer.get playerGuid entries.key,
        lock.isActiveAt now = true → lock.instanceId = instanceId) :
    Saved entriesFor { server with
      mgr := (server.mgr.setActiveInstanceLockInstanceIdAt playerGuid entries now
        instanceId).1 } := by
  rw [InstanceLockMgr.setActiveInstanceLockInstanceIdAt]
  cases hreset : entries.hasResetSchedule with
  | false => exact h
  | true =>
    rw [Bool.not_true, if_neg Bool.false_ne_true]
    by_cases hactive : (server.mgr.instanceLocksByPlayer.get playerGuid entries.key).any
        (fun lock => lock.isActiveAt now) = true
    · -- The permanent lock has this instance id already.
      rw [if_pos hactive]
      have hsame : ∀ guid key, (server.mgr.instanceLocksByPlayer.update playerGuid entries.key
          fun lock => { lock with instanceId := instanceId }).get guid key =
            server.mgr.instanceLocksByPlayer.get guid key := by
        intro guid key
        rw [NestedDict.get_update]
        split
        case isFalse => rfl
        case isTrue hthis =>
          rw [hthis.1, hthis.2]
          obtain ⟨lock, hlock, hlive⟩ := (Option.any_eq_true _ _).mp hactive
          rw [hlock, Option.map_some, ← hrecorded hreset lock hlock hlive]
      refine h.of_locks (h.toLocksSaved.of_locks rfl rfl rfl ?_ h.temporary) hsame rfl
      intro guid key lock hlock
      exact h.permanent guid key lock ((hsame guid key).symm.trans hlock)
    · rw [if_neg hactive]
      refine h.of_locks (h.toLocksSaved.of_locks rfl rfl rfl h.permanent ?_)
        (fun _ _ => rfl) rfl
      intro guid key lock hlock
      dsimp only at hlock
      rw [NestedDict.get_update] at hlock
      split at hlock
      case isFalse => exact h.temporary guid key lock hlock
      case isTrue hthis =>
        obtain ⟨before, hbefore, rfl⟩ := Option.map_eq_some_iff.mp hlock
        rw [hthis.2]
        have hsaved := h.temporary playerGuid entries.key before hbefore
        exact ⟨hsaved.1.of_same rfl rfl rfl, hsaved.2⟩

theorem Saved.updateShared (h : Saved entriesFor server) (updateEvent : InstanceLockUpdateEvent)
    (hrecorded : (server.mgr.upgradeShared updateEvent.instanceId).isSome →
      server.mgr.SharesRegistered updateEvent.instanceId) :
    Saved entriesFor (server.commit
      (server.mgr.updateSharedInstanceLockWithPersistence updateEvent)) := by
  cases hcell : server.mgr.upgradeShared updateEvent.instanceId with
  | none =>
    have hsame : server.mgr.updateSharedInstanceLockWithPersistence updateEvent =
        (server.mgr, []) := by
      simp [InstanceLockMgr.updateSharedInstanceLockWithPersistence,
        InstanceLockMgr.updateSharedInstanceLock, hcell]
    rw [hsame]
    exact h
  | some cell =>
    rw [hcell] at hrecorded
    refine h.of_locks ((h.toLocksSaved.leaveOpen _).updateShared updateEvent cell hcell
      (hrecorded rfl))
      (fun guid key => ?_) (character_commit_updateShared server updateEvent)
    rw [permanent_commit_updateShared]

theorem Saved.cleanup (h : Saved entriesFor server) (instanceId : BitVec 32)
    (hrecorded : ∀ cell ∈ server.mgr.instanceLockDataById.lookup instanceId,
      server.mgr.isReferenced cell = false → ∀ playerGuid key lock,
        server.mgr.instanceLocksByPlayer.get playerGuid key = some lock →
        lock.sharedData.isSome → lock.instanceId ≠ instanceId) :
    Saved entriesFor (server.commit
      (server.mgr.cleanupUnreferencedSharedInstanceLockData instanceId)) := by
  rw [InstanceLockMgr.cleanupUnreferencedSharedInstanceLockData]
  cases hlookup : server.mgr.instanceLockDataById.lookup instanceId with
  | none => exact h
  | some cell =>
    dsimp only
    cases hreferenced : server.mgr.isReferenced cell with
    | true => exact h
    | false =>
      rw [if_neg Bool.false_ne_true]
      have herase : ∀ id cell',
          (AList.erase instanceId server.mgr.instanceLockDataById).lookup id = some cell' →
          server.mgr.instanceLockDataById.lookup id = some cell' := by
        intro id cell' hcell'
        rw [Dict.lookup_erase_eq] at hcell'
        split at hcell'
        · cases hcell'
        · exact hcell'
      refine h.of_locks ⟨fun guid key lock hlock => ?_, h.temporary, ?_, ?_⟩
        (fun _ _ => rfl) rfl
      · have hsaved := h.permanent guid key lock hlock
        refine ⟨hsaved.player, hsaved.filed, hsaved.allocated,
          fun cell' hcell' id hid => hsaved.registered cell' hcell' id (herase id cell' hid),
          fun cell' hcell' _ => ?_⟩
        have hother := hrecorded cell hlookup hreferenced guid key lock hlock
          (Option.isSome_iff_exists.mpr ⟨cell', hcell'⟩)
        refine (RowTable.rowsAt_deleteAt SharedInstanceLockRow.instanceId instanceId
          lock.instanceId server.tables.shared).trans ?_
        rw [if_neg hother]
        exact hsaved.shared cell' hcell' nofun
      · exact fun id cell' hid => h.registered id cell' (herase id cell' hid)
      · exact fun id id' cell' hid hid' =>
          h.registeredOnce id id' cell' (herase id cell' hid) (herase id' cell' hid')

end Quiet

/-! ## Steps that edit permanent locks -/

section Edits

variable {server : InstanceLockServer} {playerGuid : ObjectGuid}
variable {key : InstanceLockKey} {lock : InstanceLock}

/-- An edit of one lock that leaves its place and its instance alone. -/
theorem LocksSaved.editPermanent {server' : InstanceLockServer}
    (h : LocksSaved entriesFor none server)
    (hcells : server'.mgr.sharedCells = server.mgr.sharedCells)
    (hbyId : server'.mgr.instanceLockDataById = server.mgr.instanceLockDataById)
    (hrows : server'.tables.shared = server.tables.shared)
    (htemporary : server'.mgr.temporaryInstanceLocksByPlayer =
      server.mgr.temporaryInstanceLocksByPlayer)
    (hedit : ∀ guid key lock', server'.mgr.instanceLocksByPlayer.get guid key = some lock' →
      ∃ lock, server.mgr.instanceLocksByPlayer.get guid key = some lock ∧
        lock'.mapId = lock.mapId ∧ lock'.difficultyId = lock.difficultyId ∧
        lock'.sharedData = lock.sharedData ∧ lock'.instanceId = lock.instanceId) :
    LocksSaved entriesFor none server' := by
  refine h.of_locks hcells hbyId hrows (fun guid key lock' hlock' => ?_) ?_
  · obtain ⟨lock, hlock, hmap, hdifficulty, hshared, hinstance⟩ := hedit guid key lock' hlock'
    exact (h.permanent guid key lock hlock).of_same hmap hdifficulty hshared hinstance
  · rw [htemporary]
    exact h.temporary

/-- The statements of a player's locks name them by the counter of the player. -/
theorem LocksSaved.playerOf_eq_iff (h : LocksSaved entriesFor none server)
    (hlock : server.mgr.instanceLocksByPlayer.get playerGuid key = some lock)
    (counter : BitVec 64) : playerOf counter = playerGuid ↔ counter = playerGuid.counter := by
  have hplayer := (h.permanent playerGuid key lock hlock).player
  constructor
  · intro heq
    exact playerOf_injective (heq.trans hplayer)
  · rintro rfl
    exact hplayer.symm

theorem lockKey_eq_iff {counter counter' : BitVec 64} :
    ((counter, key) : CharacterLockKey) = (counter', entries.mapId, entries.lockId) ↔
      counter = counter' ∧ key = entries.key :=
  Prod.ext_iff

theorem Saved.updateExtension (h : Saved entriesFor server) (entries : MapDb2Entries)
    (extended : Bool) (schedule : ResetSchedule) (now : InstanceResetTime) :
    Saved entriesFor (server.commit
      (server.mgr.updateInstanceLockExtensionForPlayerWithPersistenceAt playerGuid entries
        extended schedule now)) := by
  rw [InstanceLockMgr.updateInstanceLockExtensionForPlayerWithPersistenceAt,
    InstanceLockMgr.updateInstanceLockExtensionForPlayerAt]
  cases hactive : (server.mgr.instanceLocksByPlayer.get playerGuid entries.key).filter
      (fun lock => lock.isActiveAt now) with
  | none => exact h
  | some lock =>
    have hlock := (Option.filter_eq_some_iff.mp hactive).1
    refine ⟨h.toLocksSaved.editPermanent rfl rfl rfl rfl fun guid key lock' hlock' => ?_,
      fun counter key => ?_⟩
    · dsimp only [InstanceLockServer.commit] at hlock'
      rw [NestedDict.get_update] at hlock'
      split at hlock'
      case isTrue hthis =>
        obtain ⟨before, hbefore, rfl⟩ := Option.map_eq_some_iff.mp hlock'
        rw [hthis.1, hthis.2]
        exact ⟨before, hbefore, rfl, rfl, rfl, rfl⟩
      case isFalse => exact ⟨lock', hlock', rfl, rfl, rfl, rfl⟩
    · dsimp only [InstanceLockServer.commit, InstanceLockTables.applyAll, List.foldl_cons,
        List.foldl_nil, updateCharacterInstanceLockExtensionMutation, InstanceLockTables.apply]
      have hkeeps : ∀ row : CharacterInstanceLockRow,
          CharacterInstanceLockRow.key { row with extended := extended } = row.key :=
        fun _ => rfl
      rw [RowTable.rowsAt_updateAt _ hkeeps, NestedDict.get_update, h.character]
      simp only [h.toLocksSaved.playerOf_eq_iff hlock, lockKey_eq_iff]
      by_cases hthis : counter = playerGuid.counter ∧ key = entries.key
      · obtain ⟨rfl, rfl⟩ := hthis
        rw [if_pos ⟨rfl, rfl⟩, if_pos ⟨rfl, rfl⟩, (h.toLocksSaved.playerOf_eq_iff hlock _).mpr rfl,
          hlock]
        rfl
      · rw [if_neg hthis, if_neg hthis]

def resetMutation (counter : BitVec 64)
    (reset : InstanceLockKey → InstanceLock → Option InstanceLock)
    (entry : Sigma fun _ : InstanceLockKey => InstanceLock) :
    Option InstanceLockPersistenceMutation :=
  (reset entry.1 entry.2).map fun lock =>
    .forceExpireCharacterLock lock.expiryTime counter entry.1.1 entry.1.2

/-- A row after its lock was reset. -/
def expiredRow (lock : InstanceLock) (row : CharacterInstanceLockRow) :
    CharacterInstanceLockRow :=
  { row with expiryTime := lock.expiryTime, extended := false }

theorem rowsAt_forceExpire (tables : InstanceLockTables) (lock : InstanceLock)
    (counter counter' : BitVec 64) (key key' : InstanceLockKey) :
    RowTable.rowsAt CharacterInstanceLockRow.key (counter', key') (tables.apply
        (.forceExpireCharacterLock lock.expiryTime counter key.1 key.2)).character =
      if counter' = counter ∧ key' = key then
        (RowTable.rowsAt CharacterInstanceLockRow.key (counter', key') tables.character).map
          (expiredRow lock)
      else RowTable.rowsAt CharacterInstanceLockRow.key (counter', key') tables.character := by
  have hkeeps : ∀ row, CharacterInstanceLockRow.key (expiredRow lock row) = row.key :=
    fun _ => rfl
  refine (RowTable.rowsAt_updateAt _ hkeeps _ _ _).trans ?_
  simp only [Prod.mk.eta, Prod.mk.injEq]

theorem rowsAt_resets (counter : BitVec 64)
    (reset : InstanceLockKey → InstanceLock → Option InstanceLock)
    {locks : List (Sigma fun _ : InstanceLockKey => InstanceLock)} (hnodup : locks.NodupKeys)
    (tables : InstanceLockTables) (counter' : BitVec 64) (key : InstanceLockKey) :
    RowTable.rowsAt CharacterInstanceLockRow.key (counter', key)
        (tables.applyAll (locks.filterMap (resetMutation counter reset))).character =
      if counter' = counter then
        ((locks.dlookup key).bind (reset key)).elim
          (RowTable.rowsAt CharacterInstanceLockRow.key (counter', key) tables.character)
          fun lock => (RowTable.rowsAt CharacterInstanceLockRow.key (counter', key)
            tables.character).map (expiredRow lock)
      else RowTable.rowsAt CharacterInstanceLockRow.key (counter', key) tables.character := by
  induction locks generalizing tables with
  | nil => simp [InstanceLockTables.applyAll]
  | cons entry locks ih =>
    obtain ⟨key', lock⟩ := entry
    obtain ⟨hfresh, hnodup⟩ := List.nodupKeys_cons.mp hnodup
    have hnone : locks.dlookup key' = none := List.dlookup_eq_none.mpr hfresh
    have hother : key ≠ key' →
        List.dlookup key (⟨key', lock⟩ :: locks) = List.dlookup key locks :=
      fun hkey => List.dlookup_cons_ne _ _ hkey
    cases hreset : reset key' lock with
    | none =>
      rw [List.filterMap_cons_none (by simp [resetMutation, hreset]), ih hnodup]
      by_cases hkey : key = key'
      · subst hkey
        simp [hnone, hreset]
      · rw [hother hkey]
    | some lock' =>
      have hmutation : resetMutation counter reset ⟨key', lock⟩ =
          some (.forceExpireCharacterLock lock'.expiryTime counter key'.1 key'.2) := by
        rw [resetMutation, hreset, Option.map_some]
      rw [List.filterMap_cons_some hmutation]
      refine (ih hnodup _).trans ?_
      rw [rowsAt_forceExpire]
      by_cases hcounter : counter' = counter
      · rw [if_pos hcounter, if_pos hcounter]
        by_cases hkey : key = key'
        · subst hkey
          simp [hnone, hreset, hcounter]
        · rw [if_neg fun h => hkey h.2, hother hkey]
      · rw [if_neg hcounter, if_neg hcounter, if_neg fun h => hcounter h.1]

theorem shared_resets (counter : BitVec 64)
    (reset : InstanceLockKey → InstanceLock → Option InstanceLock)
    (locks : List (Sigma fun _ : InstanceLockKey => InstanceLock)) (tables : InstanceLockTables) :
    (tables.applyAll (locks.filterMap (resetMutation counter reset))).shared =
      tables.shared := by
  induction locks generalizing tables with
  | nil => rfl
  | cons entry locks ih =>
    cases hreset : reset entry.1 entry.2 with
    | none => rw [List.filterMap_cons_none (by simp [resetMutation, hreset]), ih]
    | some lock =>
      have hmutation : resetMutation counter reset entry =
          some (.forceExpireCharacterLock lock.expiryTime counter entry.1.1 entry.1.2) := by
        rw [resetMutation, hreset, Option.map_some]
      rw [List.filterMap_cons_some hmutation]
      exact ih _

theorem forceExpire_of_resetTo {mapId : Option (BitVec 32)} {difficultyId : Option (BitVec 8)}
    {entriesByKey : Dict InstanceLockKey MapDb2Entries} {schedule : ResetSchedule}
    {now : InstanceResetTime} {lock' : InstanceLock}
    (hreset : InstanceLockMgr.resetTo mapId difficultyId entriesByKey schedule now key lock =
      some lock') :
    ∃ entries, lock.forceExpire entries schedule now = lock' := by
  rw [InstanceLockMgr.resetTo] at hreset
  split at hreset
  · obtain ⟨entries, -, hlock'⟩ := Option.map_eq_some_iff.mp hreset
    exact ⟨entries, hlock'⟩
  · cases hreset

/-- A reset writes the expiry of every lock it resets, if it finds the entries under which
the lock is filed. -/
theorem Saved.reset (h : Saved entriesFor server) (mapId : Option (BitVec 32))
    (difficultyId : Option (BitVec 8)) (entriesByKey : Dict InstanceLockKey MapDb2Entries)
    (schedule : ResetSchedule) (now : InstanceResetTime)
    (hrecorded : ∀ key lock, server.mgr.instanceLocksByPlayer.get playerGuid key = some lock →
      (InstanceLockMgr.resetTo mapId difficultyId entriesByKey schedule now key lock).isSome →
      ∃ entries, InstanceLockMgr.resetEntries entriesByKey lock = some entries ∧
        entries.key = key) :
    Saved entriesFor (server.commit
      (server.mgr.resetInstanceLocksForPlayerWithPersistenceAt playerGuid mapId difficultyId
        entriesByKey schedule now)) := by
  rw [InstanceLockMgr.resetInstanceLocksForPlayerWithPersistenceAt,
    InstanceLockMgr.resetInstanceLocksForPlayerAt]
  cases hplayer : server.mgr.instanceLocksByPlayer.lookup playerGuid with
  | none => exact h
  | some locks =>
    let reset := InstanceLockMgr.resetTo mapId difficultyId entriesByKey schedule now
    have hget : ∀ key, server.mgr.instanceLocksByPlayer.get playerGuid key =
        locks.lookup key := fun key => by rw [NestedDict.get, hplayer, Option.bind_some]
    have hmutations : (locks.entries.filterMap fun entry => reset entry.1 entry.2).filterMap
          (fun lock => (InstanceLockMgr.resetEntries entriesByKey lock).map fun entries =>
            forceExpireCharacterInstanceLockMutation playerGuid entries lock.expiryTime) =
        locks.entries.filterMap (resetMutation playerGuid.counter reset) := by
      rw [List.filterMap_filterMap]
      refine List.filterMap_congr fun entry hentry => ?_
      have hlookup : locks.lookup entry.1 = some entry.2 := Dict.mem_entries_iff.mp hentry
      rw [resetMutation]
      cases hreset : reset entry.1 entry.2 with
      | none => rfl
      | some lock =>
        obtain ⟨entries, hentries, hkey⟩ := hrecorded entry.1 entry.2
          ((hget entry.1).trans hlookup) (Option.isSome_iff_exists.mpr ⟨lock, hreset⟩)
        obtain ⟨_, rfl⟩ := forceExpire_of_resetTo hreset
        refine (congrArg (Option.map _) hentries).trans ?_
        rw [← hkey]
        rfl
    have hlocks : ∀ guid key, NestedDict.get (AList.insert playerGuid
        (Dict.mapValues (fun key lock => (reset key lock).getD lock) locks)
          server.mgr.instanceLocksByPlayer) guid key =
        if guid = playerGuid then
          (server.mgr.instanceLocksByPlayer.get playerGuid key).map fun lock =>
            (reset key lock).getD lock
        else server.mgr.instanceLocksByPlayer.get guid key := by
      intro guid key
      rw [NestedDict.get, Dict.lookup_insert_eq]
      split
      · rw [Option.bind_some, Dict.lookup_mapValues, hget]
      · rfl
    dsimp only
    rw [hmutations]
    refine ⟨h.toLocksSaved.editPermanent rfl rfl (shared_resets _ reset _ _) rfl
      fun guid key lock' hlock' => ?_, fun counter key => ?_⟩
    · have hlock' := (hlocks guid key).symm.trans hlock'
      split at hlock'
      case isTrue hguid =>
        obtain ⟨lock, hlock, rfl⟩ := Option.map_eq_some_iff.mp hlock'
        rw [hguid]
        refine ⟨lock, hlock, ?_⟩
        cases hreset : reset key lock with
        | none => exact ⟨rfl, rfl, rfl, rfl⟩
        | some lock' =>
          obtain ⟨_, rfl⟩ := forceExpire_of_resetTo hreset
          exact ⟨rfl, rfl, rfl, rfl⟩
      case isFalse => exact ⟨lock', hlock', rfl, rfl, rfl, rfl⟩
    · dsimp only [InstanceLockServer.commit]
      rw [rowsAt_resets _ reset locks.nodupKeys, hlocks, h.character]
      change (if _ then ((locks.lookup key).bind (reset key)).elim _ _ else _) = _
      rw [← hget key]
      cases hlock : server.mgr.instanceLocksByPlayer.get playerGuid key with
      | none =>
        rw [Option.bind_none, Option.elim_none, ite_self]
        split
        case isTrue hguid =>
          rw [hguid, hlock]
          rfl
        case isFalse => rfl
      | some lock =>
        simp only [h.toLocksSaved.playerOf_eq_iff hlock]
        by_cases hcounter : counter = playerGuid.counter
        · rw [if_pos hcounter, if_pos hcounter,
            (h.toLocksSaved.playerOf_eq_iff hlock counter).mpr hcounter, hlock,
            Option.bind_some]
          cases hreset : reset key lock with
          | none => simp [hreset]
          | some lock' =>
            obtain ⟨_, rfl⟩ := forceExpire_of_resetTo hreset
            simp [hreset, expiredRow, rowOf, InstanceLock.forceExpire]
        · rw [if_neg hcounter, if_neg hcounter]

end Edits

/-! ## Runs -/

/-- The entries of a call are those of the stores. -/
def InstanceLockCall.EntriesKnown (entriesFor : BitVec 32 → BitVec 8 → Option MapDb2Entries) :
    InstanceLockCall → Prop
  | .createForNewInstance _ _ entries _ _ _ => Known entriesFor entries
  | .setActiveInstanceId _ _ entries _ _ => Known entriesFor entries
  | .update _ _ entries _ _ _ _ => Known entriesFor entries
  | .updateExtension _ _ entries _ _ _ => Known entriesFor entries
  | .updateShared _ | .reset .. | .cleanup _ | .holdClone _ | .dropClone _ => True

/-- When what a call changes also reaches the tables: a permanent lock keeps its instance id
outside of updates, updates are recorded, the locks of an instance share the data that is
written or deleted for it, and a reset finds the entries of the locks it resets. -/
def Recorded (server : InstanceLockServer) : InstanceLockCall → Prop
  | .createForNewInstance .. => True
  | .setActiveInstanceId realm counter entries now instanceId =>
    entries.hasResetSchedule = true →
    ∀ lock ∈ server.mgr.instanceLocksByPlayer.get (ObjectGuid.createPlayer realm counter)
        entries.key, lock.isActiveAt now = true → lock.instanceId = instanceId
  | .update realm counter entries updateEvent _ _ now =>
    entries.hasResetSchedule = true →
    UpdateRecorded server.mgr realm counter entries updateEvent.instanceId now
  | .updateShared updateEvent =>
    (server.mgr.upgradeShared updateEvent.instanceId).isSome →
    server.mgr.SharesRegistered updateEvent.instanceId
  | .updateExtension .. => True
  | .reset realm counter mapId difficultyId entriesByKey schedule now =>
    ∀ key lock, server.mgr.instanceLocksByPlayer.get (ObjectGuid.createPlayer realm counter)
        key = some lock →
      (InstanceLockMgr.resetTo mapId difficultyId entriesByKey schedule now key lock).isSome →
      ∃ entries, InstanceLockMgr.resetEntries entriesByKey lock = some entries ∧
        entries.key = key
  | .cleanup instanceId =>
    ∀ cell ∈ server.mgr.instanceLockDataById.lookup instanceId,
      server.mgr.isReferenced cell = false → ∀ playerGuid key lock,
      server.mgr.instanceLocksByPlayer.get playerGuid key = some lock →
      lock.sharedData.isSome → lock.instanceId ≠ instanceId
  | .holdClone _ | .dropClone _ => True

theorem Saved.initial : Saved entriesFor InstanceLockServer.initial where
  permanent := fun _ _ _ hlock => nomatch hlock
  temporary := fun _ _ _ hlock => nomatch hlock
  registered := fun _ _ hcell => nomatch hcell
  registeredOnce := fun _ _ _ hcell => nomatch hcell
  character := fun _ _ => rfl

theorem Saved.call {server : InstanceLockServer} (h : Saved entriesFor server)
    {call : InstanceLockCall} (hknown : call.EntriesKnown entriesFor)
    (hrecorded : Recorded server call) : Saved entriesFor (server.call call) := by
  cases call with
  | createForNewInstance realm counter entries instanceId schedule now =>
    exact h.createForNewInstance _ hknown instanceId schedule now
  | setActiveInstanceId realm counter entries now instanceId =>
    exact h.setActiveInstanceId _ entries now instanceId hrecorded
  | update realm counter entries updateEvent sharedEvent schedule now =>
    exact h.updateBoth hknown hrecorded sharedEvent schedule
  | updateShared updateEvent => exact h.updateShared updateEvent hrecorded
  | updateExtension realm counter entries extended schedule now =>
    exact h.updateExtension entries extended schedule now
  | reset realm counter mapId difficultyId entriesByKey schedule now =>
    exact h.reset mapId difficultyId entriesByKey schedule now hrecorded
  | cleanup instanceId => exact h.cleanup instanceId hrecorded
  | holdClone cell =>
    rw [InstanceLockServer.call]
    split
    · exact h.of_locks (h.toLocksSaved.of_locks rfl rfl rfl h.permanent h.temporary)
        (fun _ _ => rfl) rfl
    · exact h
  | dropClone cell =>
    exact h.of_locks (h.toLocksSaved.of_locks rfl rfl rfl h.permanent h.temporary)
      (fun _ _ => rfl) rfl

/-- In a run whose steps are recorded as they are made, a restart at any point brings back
the permanent locks of every player. -/
theorem locks_survive_restart (entriesFor : BitVec 32 → BitVec 8 → Option MapDb2Entries)
    (calls : List InstanceLockCall) (hknown : ∀ call ∈ calls, call.EntriesKnown entriesFor)
    (hrecorded : EachStep InstanceLockServer.call Recorded InstanceLockServer.initial calls) :
    ∀ calls', calls' <+: calls →
      SurvivesRestart entriesFor
        (run InstanceLockServer.call InstanceLockServer.initial calls') := by
  intro calls' hinit
  have hlegal : EachStep InstanceLockServer.call (fun _ call => call.EntriesKnown entriesFor)
      InstanceLockServer.initial calls := EachStep.of_forall (fun call hcall _ => hknown call hcall) _
  have hsaved := run_invariant (Saved entriesFor)
    (fun server call h hcall => h.call hcall.1 hcall.2) Saved.initial
    ((hlegal.and hrecorded).of_initial hinit)
  exact hsaved.survivesRestart

/-- The stores of a server with the one raid of `sampleEntries`. -/
def sampleEntriesFor (mapId : BitVec 32) (difficultyId : BitVec 8) : Option MapDb2Entries :=
  if mapId = 631 ∧ difficultyId = 3 then some sampleEntries else none

/-- A player of the given realm enters the raid of `sampleEvent` and kills its first boss. -/
def sampleCalls (realm : BitVec 16) : List InstanceLockCall :=
  [.createForNewInstance realm 7 sampleEntries 9001 ⟨8, 2⟩ 1000,
    .update realm 7 sampleEntries sampleEvent sampleEvent ⟨8, 2⟩ 1000]

theorem locks_survive_restart_sample :
    SurvivesRestart sampleEntriesFor
      (run InstanceLockServer.call InstanceLockServer.initial (sampleCalls 0)) := by
  refine locks_survive_restart sampleEntriesFor (sampleCalls 0) ?_ ?_ (sampleCalls 0)
    List.prefix_rfl
  · intro call hcall
    rcases List.mem_pair.mp hcall with rfl | rfl
    · exact (by decide : sampleEntriesFor 631 3 = some sampleEntries)
    · exact (by decide : sampleEntriesFor 631 3 = some sampleEntries)
  · refine ⟨trivial, fun _ => ⟨by decide, by decide, by decide, fun _ => by decide, ?_⟩, trivial⟩
    exact fun _ playerGuid key lock hlock => nomatch hlock

/-- The loader names every player by realm zero. -/
theorem locks_lost_on_restart :
    ¬SurvivesRestart sampleEntriesFor
      (run InstanceLockServer.call InstanceLockServer.initial (sampleCalls 1)) := by
  intro h
  have hlocks := (h _ _ (List.Perm.refl _) (List.Perm.refl _)).2 1 7 sampleEntries.key
  revert hlocks
  decide

end RustyCore.Instances
