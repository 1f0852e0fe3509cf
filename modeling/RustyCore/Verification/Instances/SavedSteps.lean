import RustyCore.Verification.Instances.Reload
import RustyCore.Verification.Instances.Updates

/-! # Steps keep the saved locks

Each operation of the manager writes what it changes to the tables. -/

namespace RustyCore.Instances

variable {entriesFor : BitVec 32 → BitVec 8 → Option MapDb2Entries}
variable {lock : InstanceLock} {key : InstanceLockKey} {cell : SharedCell}
  {server : InstanceLockServer} {stale : Option (BitVec 32)}

/-! ## Frames -/

theorem Filed.of_same {lock' : InstanceLock} (h : Filed entriesFor key lock)
    (hmap : lock'.mapId = lock.mapId) (hdifficulty : lock'.difficultyId = lock.difficultyId)
    (hshared : lock'.sharedData = lock.sharedData) : Filed entriesFor key lock' := by
  rw [Filed, hmap, hdifficulty, hshared]
  exact h

section Frames

variable {server server' : InstanceLockServer} {stale : Option (BitVec 32)}
  {playerGuid : ObjectGuid} {key : InstanceLockKey}

theorem PermanentSaved.of_same {lock' : InstanceLock}
    (h : PermanentSaved entriesFor server stale playerGuid key lock)
    (hmap : lock'.mapId = lock.mapId) (hdifficulty : lock'.difficultyId = lock.difficultyId)
    (hshared : lock'.sharedData = lock.sharedData)
    (hinstance : lock'.instanceId = lock.instanceId) :
    PermanentSaved entriesFor server stale playerGuid key lock' where
  player := h.player
  filed := h.filed.of_same hmap hdifficulty hshared
  allocated := by
    rw [hshared]
    exact h.allocated
  registered := by
    rw [hshared, hinstance]
    exact h.registered
  shared := by
    rw [hshared, hinstance]
    exact h.shared

theorem PermanentSaved.of_server (h : PermanentSaved entriesFor server stale playerGuid key lock)
    (hcells : server'.mgr.sharedCells = server.mgr.sharedCells)
    (hbyId : server'.mgr.instanceLockDataById = server.mgr.instanceLockDataById)
    (hrows : server'.tables.shared = server.tables.shared) :
    PermanentSaved entriesFor server' stale playerGuid key lock where
  player := h.player
  filed := h.filed
  allocated := by
    rw [hcells]
    exact h.allocated
  registered := by
    rw [hbyId]
    exact h.registered
  shared := by
    rw [hcells, hrows]
    exact h.shared

theorem LocksSaved.of_locks (h : LocksSaved entriesFor stale server)
    (hcells : server'.mgr.sharedCells = server.mgr.sharedCells)
    (hbyId : server'.mgr.instanceLockDataById = server.mgr.instanceLockDataById)
    (hrows : server'.tables.shared = server.tables.shared)
    (hpermanent : ∀ playerGuid key lock,
      server'.mgr.instanceLocksByPlayer.get playerGuid key = some lock →
      PermanentSaved entriesFor server stale playerGuid key lock)
    (htemporary : ∀ playerGuid key lock,
      server'.mgr.temporaryInstanceLocksByPlayer.get playerGuid key = some lock →
      Filed entriesFor key lock ∧
        ∀ cell ∈ lock.sharedData, cell < server.mgr.sharedCells.next) :
    LocksSaved entriesFor stale server' where
  permanent := fun playerGuid key lock hlock =>
    (hpermanent playerGuid key lock hlock).of_server hcells hbyId hrows
  temporary := by
    rw [hcells]
    exact htemporary
  registered := by
    rw [hcells, hbyId]
    exact h.registered
  registeredOnce := by
    rw [hbyId]
    exact h.registeredOnce

theorem LocksSaved.leaveOpen (h : LocksSaved entriesFor none server) (stale : Option (BitVec 32)) :
    LocksSaved entriesFor stale server where
  permanent := fun playerGuid key lock hlock =>
    { h.permanent playerGuid key lock hlock with
      shared := fun cell hcell _ =>
        (h.permanent playerGuid key lock hlock).shared cell hcell nofun }
  temporary := h.temporary
  registered := h.registered
  registeredOnce := h.registeredOnce

end Frames

/-! ## Shared data -/

theorem LocksSaved.registerShared (h : LocksSaved entriesFor stale server) (id : BitVec 32)
    (data : SharedInstanceLockData) :
    LocksSaved entriesFor stale { server with mgr := server.mgr.registerShared id data } := by
  have hold : ∀ id' cell, cell < server.mgr.sharedCells.next →
      (server.mgr.registerShared id data).instanceLockDataById.lookup id' = some cell →
      server.mgr.instanceLockDataById.lookup id' = some cell := by
    intro id' cell hlt hcell
    rw [InstanceLockMgr.registerShared, Dict.lookup_insert_eq] at hcell
    split at hcell
    · cases hcell
      exact absurd hlt (Nat.lt_irrefl _)
    · exact hcell
  have hcases : ∀ id' cell,
      (server.mgr.registerShared id data).instanceLockDataById.lookup id' = some cell →
      (id' = id ∧ cell = server.mgr.sharedCells.next) ∨
        (server.mgr.instanceLockDataById.lookup id' = some cell ∧
          cell < server.mgr.sharedCells.next) := by
    intro id' cell hcell
    rw [InstanceLockMgr.registerShared, Dict.lookup_insert_eq] at hcell
    split at hcell
    case isTrue hid =>
      cases hcell
      exact .inl ⟨hid, rfl⟩
    case isFalse => exact .inr ⟨hcell, h.registered id' cell hcell⟩
  refine ⟨fun playerGuid key lock hlock => ?_, fun playerGuid key lock hlock => ?_, ?_, ?_⟩
  · have hsaved := h.permanent playerGuid key lock hlock
    refine ⟨hsaved.player, hsaved.filed, fun cell hcell => ?_, fun cell hcell id' hid => ?_,
      fun cell hcell hstale => ?_⟩
    · exact Nat.lt_succ_of_lt (hsaved.allocated cell hcell)
    · exact hsaved.registered cell hcell id' (hold id' cell (hsaved.allocated cell hcell) hid)
    · rw [hsaved.shared cell hcell hstale]
      congr 3
      exact (Heap.read_alloc_of_lt (hsaved.allocated cell hcell) data).symm
  · have hsaved := h.temporary playerGuid key lock hlock
    exact ⟨hsaved.1, fun cell hcell => Nat.lt_succ_of_lt (hsaved.2 cell hcell)⟩
  · intro id' cell hcell
    rcases hcases id' cell hcell with ⟨-, rfl⟩ | ⟨-, hlt⟩
    · exact Nat.lt_succ_self _
    · exact Nat.lt_succ_of_lt hlt
  · intro id₁ id₂ cell h₁ h₂
    rcases hcases id₁ cell h₁ with ⟨rfl, rfl⟩ | ⟨h₁, hlt⟩
    · rcases hcases id₂ _ h₂ with ⟨rfl, -⟩ | ⟨-, hlt⟩
      · rfl
      · exact absurd hlt (Nat.lt_irrefl _)
    · rcases hcases id₂ _ h₂ with ⟨-, rfl⟩ | ⟨h₂, -⟩
      · exact absurd hlt (Nat.lt_irrefl _)
      · exact h.registeredOnce id₁ id₂ cell h₁ h₂

namespace InstanceLockMgr

theorem isReferenced_of_permanent {mgr : InstanceLockMgr} {playerGuid : ObjectGuid}
    (hlock : mgr.instanceLocksByPlayer.get playerGuid key = some lock)
    (hcell : lock.sharedData = some cell) : mgr.isReferenced cell = true := by
  have hany : mgr.instanceLocksByPlayer.anyValue (fun lock => lock.sharedData == some cell) :=
    NestedDict.anyValue_iff.mpr ⟨playerGuid, key, lock, hlock, by simp [hcell]⟩
  simp [isReferenced, hany]

theorem upgradeShared_of_permanent {mgr : InstanceLockMgr} {playerGuid : ObjectGuid}
    {id : BitVec 32} (hlock : mgr.instanceLocksByPlayer.get playerGuid key = some lock)
    (hcell : lock.sharedData = some cell) (hid : mgr.instanceLockDataById.lookup id = some cell) :
    mgr.upgradeShared id = some cell := by
  rw [upgradeShared, hid]
  exact Option.filter_eq_some_iff.mpr ⟨rfl, isReferenced_of_permanent hlock hcell⟩

def SharesRegistered (mgr : InstanceLockMgr) (id : BitVec 32) : Prop :=
  ∀ playerGuid key lock, mgr.instanceLocksByPlayer.get playerGuid key = some lock →
    lock.instanceId = id → lock.sharedData.isSome →
    mgr.instanceLockDataById.lookup id = lock.sharedData

end InstanceLockMgr

theorem character_commit_updateShared (server : InstanceLockServer)
    (updateEvent : InstanceLockUpdateEvent) :
    (server.commit (server.mgr.updateSharedInstanceLockWithPersistence
      updateEvent)).tables.character = server.tables.character := by
  unfold InstanceLockMgr.updateSharedInstanceLockWithPersistence
    InstanceLockMgr.updateSharedInstanceLock
  cases server.mgr.upgradeShared updateEvent.instanceId with
  | none => rfl
  | some cell => rfl

theorem permanent_commit_updateShared (server : InstanceLockServer)
    (updateEvent : InstanceLockUpdateEvent) :
    (server.commit (server.mgr.updateSharedInstanceLockWithPersistence
      updateEvent)).mgr.instanceLocksByPlayer = server.mgr.instanceLocksByPlayer := by
  unfold InstanceLockMgr.updateSharedInstanceLockWithPersistence
    InstanceLockMgr.updateSharedInstanceLock
  cases server.mgr.upgradeShared updateEvent.instanceId with
  | none => rfl
  | some cell => rfl

/-- The shared update writes the open row: every lock of the instance shares its data. -/
theorem LocksSaved.updateShared (updateEvent : InstanceLockUpdateEvent) (cell : SharedCell)
    (h : LocksSaved entriesFor (some updateEvent.instanceId) server)
    (hcell : server.mgr.upgradeShared updateEvent.instanceId = some cell)
    (hshares : server.mgr.SharesRegistered updateEvent.instanceId) :
    LocksSaved entriesFor none
      (server.commit (server.mgr.updateSharedInstanceLockWithPersistence updateEvent)) := by
  have hregistered : server.mgr.instanceLockDataById.lookup updateEvent.instanceId = some cell :=
    (Option.filter_eq_some_iff.mp hcell).1
  rw [InstanceLockMgr.updateSharedInstanceLockWithPersistence,
    InstanceLockMgr.updateSharedInstanceLock, hcell]
  refine ⟨fun playerGuid key lock hlock => ?_, h.temporary, h.registered, h.registeredOnce⟩
  have hsaved := h.permanent playerGuid key lock hlock
  refine ⟨hsaved.player, hsaved.filed, hsaved.allocated, hsaved.registered, ?_⟩
  intro lockCell hlockCell _
  dsimp only [InstanceLockServer.commit, InstanceLockTables.applyAll, List.foldl_cons,
    List.foldl_nil, insertInstanceMutation, deleteInstanceMutation, InstanceLockTables.apply]
  rw [RowTable.rowsAt_insertRow, RowTable.rowsAt_deleteAt, Heap.read_modify, Heap.read_modify,
    if_pos rfl]
  by_cases hid : lock.instanceId = updateEvent.instanceId
  · have hsame : lockCell = cell := by
      have hregistered' := hshares playerGuid key lock hlock hid (by rw [hlockCell]; rfl)
      rw [hregistered, hlockCell] at hregistered'
      exact (Option.some.inj hregistered').symm
    rw [if_pos hid, if_pos hid.symm, if_pos hsame, hid]
    rfl
  · have hother : lockCell ≠ cell := by
      rintro rfl
      exact hid (hsaved.registered lockCell hlockCell _ hregistered).symm
    rw [if_neg hid, if_neg (fun h => hid h.symm), if_neg hother, List.append_nil]
    exact hsaved.shared lockCell hlockCell fun hstale => hid (Option.some.inj hstale).symm

/-! ## The data an updated lock shares -/

namespace InstanceLockMgr

section Update

variable (mgr : InstanceLockMgr) (playerGuid : ObjectGuid) (entries : MapDb2Entries)
  (instanceId : BitVec 32) (schedule : ResetSchedule) (now : InstanceResetTime)

/-- The manager whose registry and cells an update leaves behind. -/
def sharedAfterUpdate : InstanceLockMgr :=
  if (mgr.lockInForce playerGuid entries.key now).isNone ∧ entries.isInstanceIdBound = true ∧
      (mgr.replaceInactive playerGuid entries.key now).upgradeShared instanceId = none then
    mgr.registerShared instanceId ⟨instanceId, InstanceLockData.default⟩
  else mgr

theorem permanent_sharedAfterUpdate :
    (mgr.sharedAfterUpdate playerGuid entries instanceId now).instanceLocksByPlayer =
      mgr.instanceLocksByPlayer := by
  rw [sharedAfterUpdate]
  split <;> rfl

theorem temporary_sharedAfterUpdate :
    (mgr.sharedAfterUpdate playerGuid entries instanceId now).temporaryInstanceLocksByPlayer =
      mgr.temporaryInstanceLocksByPlayer := by
  rw [sharedAfterUpdate]
  split <;> rfl

@[simp] theorem sharedCells_replaceInactive (key : InstanceLockKey) :
    (mgr.replaceInactive playerGuid key now).sharedCells = mgr.sharedCells := by
  unfold replaceInactive
  split
  · rfl
  · split <;> rfl

@[simp] theorem byId_replaceInactive (key : InstanceLockKey) :
    (mgr.replaceInactive playerGuid key now).instanceLockDataById =
      mgr.instanceLockDataById := by
  unfold replaceInactive
  split
  · rfl
  · split <;> rfl

theorem shared_createMissing :
    ((mgr.replaceInactive playerGuid entries.key now).createMissing playerGuid entries instanceId
        schedule now).sharedCells =
      (mgr.sharedAfterUpdate playerGuid entries instanceId now).sharedCells ∧
    ((mgr.replaceInactive playerGuid entries.key now).createMissing playerGuid entries instanceId
        schedule now).instanceLockDataById =
      (mgr.sharedAfterUpdate playerGuid entries instanceId now).instanceLockDataById := by
  have hget := mgr.permanent_replaceInactive playerGuid now entries.key playerGuid entries.key
  rw [if_pos ⟨rfl, rfl⟩] at hget
  rw [createMissing, hget, sharedAfterUpdate]
  cases hforce : mgr.lockInForce playerGuid entries.key now with
  | some lock => simp
  | none =>
    by_cases hbound : entries.isInstanceIdBound = true
    · cases hup : (mgr.replaceInactive playerGuid entries.key now).upgradeShared instanceId with
      | none => simp [newPermanentLock, sharedCellFor, hbound, hup, registerShared]
      | some cell => simp [newPermanentLock, sharedCellFor, hbound, hup]
    · simp [newPermanentLock, hbound]

theorem sharedData_updatedLock_of_none
    (hforce : mgr.lockInForce playerGuid entries.key now = none)
    (hcell : (mgr.updatedLock playerGuid now entries instanceId schedule).sharedData = some cell) :
    (mgr.sharedAfterUpdate playerGuid entries instanceId now).instanceLockDataById.lookup
      instanceId = some cell := by
  rw [updatedLock, hforce, Option.getD_none, newPermanentLock] at hcell
  rw [sharedAfterUpdate, hforce]
  by_cases hbound : entries.isInstanceIdBound = true
  · rw [if_pos hbound, sharedCellFor] at hcell
    cases hup : (mgr.replaceInactive playerGuid entries.key now).upgradeShared instanceId with
    | none =>
      simp only [hup, InstanceLock.newShared, sharedCells_replaceInactive] at hcell
      simpa [hbound, registerShared] using hcell
    | some cell' =>
      simp only [hup, InstanceLock.newShared] at hcell
      have hlookup := (Option.filter_eq_some_iff.mp hup).1
      simpa [hbound, ← Option.some.inj hcell] using hlookup
  · rw [if_neg hbound] at hcell
    cases hcell

theorem byId_sharedAfterUpdate_of_other {guid : ObjectGuid}
    (hlock : mgr.instanceLocksByPlayer.get guid key = some lock)
    (hother : ¬(guid = playerGuid ∧ key = entries.key)) (hcell : lock.sharedData = some cell)
    (hid : mgr.instanceLockDataById.lookup instanceId = some cell) :
    (mgr.sharedAfterUpdate playerGuid entries instanceId now).instanceLockDataById.lookup
      instanceId = some cell := by
  rw [sharedAfterUpdate]
  split
  case isFalse => exact hid
  case isTrue hnew =>
    have hkept := mgr.permanent_replaceInactive playerGuid now entries.key guid key
    rw [if_neg hother, hlock] at hkept
    have hup := upgradeShared_of_permanent hkept hcell
      (by rw [byId_replaceInactive]; exact hid)
    rw [hnew.2.2] at hup
    cases hup

end Update

end InstanceLockMgr

theorem LocksSaved.sharedAfterUpdate (h : LocksSaved entriesFor stale server)
    (playerGuid : ObjectGuid) (entries : MapDb2Entries) (instanceId : BitVec 32)
    (now : InstanceResetTime) :
    LocksSaved entriesFor stale
      { server with mgr := server.mgr.sharedAfterUpdate playerGuid entries instanceId now } := by
  rw [InstanceLockMgr.sharedAfterUpdate]
  split
  · exact h.registerShared instanceId _
  · exact h

/-! ## Updates -/

/-- When an update is written to the tables as it is made: the loader can name the player,
the lock in force has the difficulty of the entries, and for a lock that is bound to an
instance, it and the other locks of that instance share the data registered for it. -/
structure UpdateRecorded (mgr : InstanceLockMgr) (realm : BitVec 16) (counter : BitVec 64)
    (entries : MapDb2Entries) (instanceId : BitVec 32) (now : InstanceResetTime) : Prop where
  realmZero : realm.toNat % 2 ^ 13 = 0
  counterFits : counter.toNat < 2 ^ 40
  difficulty : ∀ lock ∈ mgr.lockInForce (ObjectGuid.createPlayer realm counter) entries.key now,
    lock.difficultyId = entries.difficultyId
  sharesInForce : entries.isInstanceIdBound = true →
    ∀ lock ∈ mgr.lockInForce (ObjectGuid.createPlayer realm counter) entries.key now,
      mgr.instanceLockDataById.lookup instanceId = lock.sharedData
  sharesOther : entries.isInstanceIdBound = true → ∀ playerGuid key lock,
    mgr.instanceLocksByPlayer.get playerGuid key = some lock →
    ¬(playerGuid = ObjectGuid.createPlayer realm counter ∧ key = entries.key) →
    lock.instanceId = instanceId → lock.sharedData.isSome →
    mgr.instanceLockDataById.lookup instanceId = lock.sharedData

theorem createPlayer_eq_playerOf {realm : BitVec 16} {counter : BitVec 64}
    (hrealm : realm.toNat % 2 ^ 13 = 0) (hcounter : counter.toNat < 2 ^ 40) :
    ObjectGuid.createPlayer realm counter =
      playerOf (ObjectGuid.createPlayer realm counter).counter := by
  have hzero : realm.zeroExtend 64 &&& 0x1FFF = (0 : BitVec 64) := by
    apply BitVec.eq_of_toNat_eq
    have hmask := Nat.and_two_pow_sub_one_eq_mod realm.toNat 13
    rw [hrealm] at hmask
    have hlt : realm.toNat % 18446744073709551616 = realm.toNat := Nat.mod_eq_of_lt (by omega)
    simpa [hlt] using hmask
  have hkeep : counter &&& 0xFFFFFFFFFF = counter := by
    apply BitVec.eq_of_toNat_eq
    have hmask := Nat.and_two_pow_sub_one_eq_mod counter.toNat 40
    rw [Nat.mod_eq_of_lt hcounter] at hmask
    exact hmask
  have hplayer : ObjectGuid.createPlayer realm counter = playerOf counter := by
    rw [ObjectGuid.createPlayer, hzero]
    rfl
  have hcounter : (playerOf counter).counter = counter &&& 0xFFFFFFFFFF :=
    if_neg (show ¬(playerOf 0).highType = ObjectGuid.highGuidTransport by decide)
  rw [hplayer, hcounter, hkeep]

section Update

variable {server : InstanceLockServer} {realm : BitVec 16} {counter : BitVec 64}
  {entries : MapDb2Entries} {updateEvent : InstanceLockUpdateEvent} {now : InstanceResetTime}

theorem filed_updatedLock (h : LocksSaved entriesFor none server)
    (hknown : Known entriesFor entries)
    (hrecorded : UpdateRecorded server.mgr realm counter entries updateEvent.instanceId now)
    (schedule : ResetSchedule) :
    let source := server.mgr.updatedLock (ObjectGuid.createPlayer realm counter) now entries
      updateEvent.instanceId schedule
    Filed entriesFor entries.key source ∧ source.difficultyId = entries.difficultyId ∧
      source.sharedData.isSome = entries.isInstanceIdBound := by
  intro source
  cases hforce : server.mgr.lockInForce (ObjectGuid.createPlayer realm counter) entries.key
      now with
  | none =>
    have hsource : source = (((server.mgr.replaceInactive
        (ObjectGuid.createPlayer realm counter) entries.key now).newPermanentLock entries
          updateEvent.instanceId schedule now).2) := by
      simp only [source, InstanceLockMgr.updatedLock, hforce, Option.getD_none]
    have hshared : source.sharedData.isSome = entries.isInstanceIdBound := by
      rw [hsource, InstanceLockMgr.newPermanentLock]
      split <;> simp_all [InstanceLock.newShared, InstanceLock.new]
    have hnew : source.mapId = entries.mapId ∧ source.difficultyId = entries.difficultyId := by
      rw [hsource, InstanceLockMgr.newPermanentLock]
      split <;> exact ⟨rfl, rfl⟩
    exact ⟨⟨entries, hknown, hnew.1, hnew.2, rfl, hshared.symm⟩, hnew.2, hshared⟩
  | some lock =>
    have hsource : source = lock := by
      simp only [source, InstanceLockMgr.updatedLock, hforce, Option.getD_some]
    have hfiled : Filed entriesFor entries.key lock := by
      rcases Option.or_eq_some_iff.mp hforce with hperm | ⟨-, htemp⟩
      · exact (h.permanent _ _ _ (Option.filter_eq_some_iff.mp hperm).1).filed
      · exact (h.temporary _ _ _ htemp).1
    have hdifficulty := hrecorded.difficulty lock hforce
    rw [hsource]
    refine ⟨hfiled, hdifficulty, ?_⟩
    obtain ⟨entries', hknown', hmap, hdiff, hkey, hbound⟩ := hfiled
    have hsame : some entries' = some entries := by
      rw [← hknown', ← hknown, ← hdiff, hdifficulty]
      exact congrArg (entriesFor · _) (congrArg Prod.fst hkey)
    rw [← hbound, Option.some.inj hsame]

theorem registered_updatedLock (h : LocksSaved entriesFor none server)
    (hknown : Known entriesFor entries)
    (hrecorded : UpdateRecorded server.mgr realm counter entries updateEvent.instanceId now)
    (schedule : ResetSchedule) (cell : SharedCell)
    (hcell : (server.mgr.updatedLock (ObjectGuid.createPlayer realm counter) now entries
      updateEvent.instanceId schedule).sharedData = some cell) :
    (server.mgr.sharedAfterUpdate (ObjectGuid.createPlayer realm counter) entries
      updateEvent.instanceId now).instanceLockDataById.lookup updateEvent.instanceId =
        some cell := by
  cases hforce : server.mgr.lockInForce (ObjectGuid.createPlayer realm counter) entries.key
      now with
  | none => exact server.mgr.sharedData_updatedLock_of_none _ entries _ schedule now hforce hcell
  | some lock =>
    have hbound := (filed_updatedLock h hknown hrecorded schedule).2.2
    rw [hcell, Option.isSome_some] at hbound
    have hshares := hrecorded.sharesInForce hbound.symm lock hforce
    rw [InstanceLockMgr.updatedLock, hforce, Option.getD_some] at hcell
    rw [InstanceLockMgr.sharedAfterUpdate, hforce, if_neg (by simp), hshares, hcell]

theorem commit_update (server : InstanceLockServer) (playerGuid : ObjectGuid)
    (hreset : entries.hasResetSchedule = true) (schedule : ResetSchedule) :
    server.commit (server.mgr.updateInstanceLockForPlayerWithPersistenceAt playerGuid entries
        updateEvent schedule now) =
      ⟨(server.mgr.updateInstanceLockForPlayerAt playerGuid entries updateEvent schedule now).1,
        server.tables.applyAll [deleteCharacterInstanceLockMutation playerGuid entries,
          insertCharacterInstanceLockMutation playerGuid entries
            ((server.mgr.updatedLock playerGuid now entries updateEvent.instanceId
              schedule).recordUpdate entries updateEvent schedule now)]⟩ := by
  rw [InstanceLockMgr.updateInstanceLockForPlayerWithPersistenceAt,
    server.mgr.update_snd playerGuid hreset updateEvent schedule now]
  rfl

theorem shared_update (mgr : InstanceLockMgr) (playerGuid : ObjectGuid)
    (hreset : entries.hasResetSchedule = true) (updateEvent : InstanceLockUpdateEvent)
    (schedule : ResetSchedule) (now : InstanceResetTime) :
    let after := (mgr.updateInstanceLockForPlayerAt playerGuid entries updateEvent schedule now).1
    let shared := mgr.sharedAfterUpdate playerGuid entries updateEvent.instanceId now
    after.sharedCells = shared.sharedCells ∧
      after.instanceLockDataById = shared.instanceLockDataById := by
  have hmissing := mgr.shared_createMissing playerGuid entries updateEvent.instanceId schedule now
  rw [InstanceLockMgr.updateInstanceLockForPlayerAt, hreset]
  exact hmissing

/-- After the update of the lock itself, only the row of its instance is open. -/
theorem LocksSaved.update (h : LocksSaved entriesFor none server)
    (hreset : entries.hasResetSchedule = true) (hknown : Known entriesFor entries)
    (hrecorded : UpdateRecorded server.mgr realm counter entries updateEvent.instanceId now)
    (schedule : ResetSchedule)
    (hstale : entries.isInstanceIdBound = true → stale = some updateEvent.instanceId) :
    LocksSaved entriesFor stale
      (server.commit (server.mgr.updateInstanceLockForPlayerWithPersistenceAt
        (ObjectGuid.createPlayer realm counter) entries updateEvent schedule now)) := by
  have hshared := (h.sharedAfterUpdate (ObjectGuid.createPlayer realm counter) entries
    updateEvent.instanceId now).leaveOpen stale
  have hsource := filed_updatedLock h hknown hrecorded schedule
  have hafter := shared_update server.mgr (ObjectGuid.createPlayer realm counter) hreset
    updateEvent schedule now
  rw [commit_update server _ hreset]
  refine hshared.of_locks hafter.1 hafter.2 rfl (fun guid key lock hlock => ?_)
    (fun guid key lock hlock => ?_)
  · change NestedDict.get _ guid key = _ at hlock
    rw [InstanceLockMgr.permanent_update _ _ hreset] at hlock
    split at hlock
    case isTrue hthis =>
      cases hlock
      obtain ⟨rfl, rfl⟩ := hthis
      have hregistered := fun cell => registered_updatedLock h hknown hrecorded schedule cell
      refine ⟨createPlayer_eq_playerOf hrecorded.realmZero hrecorded.counterFits,
        hsource.1.of_same rfl rfl rfl, fun cell hcell => ?_, fun cell hcell id hid => ?_,
        fun cell hcell hopen => ?_⟩
      · exact hshared.registered _ cell (hregistered cell hcell)
      · exact hshared.registeredOnce id _ cell hid (hregistered cell hcell)
      · have hbound := (congrArg Option.isSome hcell).symm.trans hsource.2.2
        exact absurd (hstale hbound.symm) hopen
    case isFalse =>
      refine hshared.permanent guid key lock ?_
      rw [InstanceLockMgr.permanent_sharedAfterUpdate]
      exact hlock
  · change NestedDict.get _ guid key = _ at hlock
    rw [InstanceLockMgr.temporary_update _ _ hreset] at hlock
    split at hlock
    · cases hlock
    · refine hshared.temporary guid key lock ?_
      rw [InstanceLockMgr.temporary_sharedAfterUpdate]
      exact hlock

/-- The two character statements of an update leave exactly the row of the new lock. -/
theorem rowsAt_update (tables : InstanceLockTables) (playerGuid : ObjectGuid)
    (hdifficulty : lock.difficultyId = entries.difficultyId) (counter : BitVec 64)
    (key : InstanceLockKey) :
    RowTable.rowsAt CharacterInstanceLockRow.key (counter, key)
        (tables.applyAll [deleteCharacterInstanceLockMutation playerGuid entries,
          insertCharacterInstanceLockMutation playerGuid entries lock]).character =
      if counter = playerGuid.counter ∧ key = entries.key then [rowOf counter key lock]
      else RowTable.rowsAt CharacterInstanceLockRow.key (counter, key) tables.character := by
  dsimp only [InstanceLockTables.applyAll, List.foldl_cons, List.foldl_nil,
    deleteCharacterInstanceLockMutation, insertCharacterInstanceLockMutation,
    InstanceLockTables.apply]
  rw [RowTable.rowsAt_insertRow, RowTable.rowsAt_deleteAt]
  by_cases hat : counter = playerGuid.counter ∧ key = entries.key
  · obtain ⟨rfl, rfl⟩ := hat
    simp [CharacterInstanceLockRow.key, MapDb2Entries.key, rowOf, hdifficulty]
  · have hne : ¬(counter, key) = (playerGuid.counter, entries.mapId, entries.lockId) :=
      fun h => hat ⟨congrArg Prod.fst h, congrArg Prod.snd h⟩
    have hne' : ¬((playerGuid.counter, entries.mapId, entries.lockId) : CharacterLockKey) =
        (counter, key) := fun h => hne h.symm
    rw [if_neg hat, if_neg hne]
    exact (congrArg _ (if_neg hne')).trans (List.append_nil _)

theorem rows_update (h : Saved entriesFor server) (hreset : entries.hasResetSchedule = true)
    (hknown : Known entriesFor entries)
    (hrecorded : UpdateRecorded server.mgr realm counter entries updateEvent.instanceId now)
    (schedule : ResetSchedule) (counter' : BitVec 64) (key : InstanceLockKey) :
    let after := server.commit (server.mgr.updateInstanceLockForPlayerWithPersistenceAt
      (ObjectGuid.createPlayer realm counter) entries updateEvent schedule now)
    RowTable.rowsAt CharacterInstanceLockRow.key (counter', key) after.tables.character =
      ((after.mgr.instanceLocksByPlayer.get (playerOf counter') key).map
        (rowOf counter' key)).toList := by
  intro after
  have hsource := filed_updatedLock h.toLocksSaved hknown hrecorded schedule
  have hplayer := createPlayer_eq_playerOf hrecorded.realmZero hrecorded.counterFits
  simp only [after, commit_update server _ hreset,
    InstanceLockMgr.permanent_update _ _ hreset]
  rw [rowsAt_update _ _ (by exact hsource.2.1)]
  have hiff : playerOf counter' = ObjectGuid.createPlayer realm counter ↔
      counter' = (ObjectGuid.createPlayer realm counter).counter := by
    constructor
    · intro heq
      exact playerOf_injective (heq.trans hplayer)
    · rintro rfl
      exact hplayer.symm
  simp only [hiff]
  split
  · rfl
  · exact h.character counter' key

theorem sharesRegistered_update (h : LocksSaved entriesFor none server)
    (hreset : entries.hasResetSchedule = true) (hknown : Known entriesFor entries)
    (hrecorded : UpdateRecorded server.mgr realm counter entries updateEvent.instanceId now)
    (hbound : entries.isInstanceIdBound = true) (schedule : ResetSchedule) :
    (server.commit (server.mgr.updateInstanceLockForPlayerWithPersistenceAt
      (ObjectGuid.createPlayer realm counter) entries updateEvent schedule
        now)).mgr.SharesRegistered updateEvent.instanceId := by
  intro guid key lock hlock hid hsome
  obtain ⟨cell, hcell⟩ := Option.isSome_iff_exists.mp hsome
  rw [commit_update server _ hreset] at hlock ⊢
  dsimp only at hlock ⊢
  rw [(shared_update server.mgr _ hreset updateEvent schedule now).2, hcell]
  rw [InstanceLockMgr.permanent_update _ _ hreset] at hlock
  split at hlock
  case isTrue =>
    cases hlock
    exact registered_updatedLock h hknown hrecorded schedule cell hcell
  case isFalse hother =>
    have hbefore := hrecorded.sharesOther hbound guid key lock hlock hother hid hsome
    exact server.mgr.byId_sharedAfterUpdate_of_other _ entries _ now hlock hother hcell
      (hbefore.trans hcell)

theorem Saved.updateBoth (h : Saved entriesFor server) (hknown : Known entriesFor entries)
    (hrecorded : entries.hasResetSchedule = true →
      UpdateRecorded server.mgr realm counter entries updateEvent.instanceId now)
    (sharedEvent : InstanceLockUpdateEvent) (schedule : ResetSchedule) :
    Saved entriesFor (server.updateBoth (ObjectGuid.createPlayer realm counter) entries
      updateEvent sharedEvent schedule now) := by
  rw [InstanceLockServer.updateBoth]
  cases hreset : entries.hasResetSchedule with
  | false =>
    have hsame : server.commit (server.mgr.updateInstanceLockForPlayerWithPersistenceAt
        (ObjectGuid.createPlayer realm counter) entries updateEvent schedule now) = server := by
      simp [InstanceLockMgr.updateInstanceLockForPlayerWithPersistenceAt,
        InstanceLockMgr.updateInstanceLockForPlayerAt, hreset, InstanceLockServer.commit,
        InstanceLockTables.applyAll]
    rw [hsame]
    exact h
  | true =>
    have hrecorded := hrecorded hreset
    have hrows := rows_update h hreset hknown hrecorded schedule
    cases hbound : entries.isInstanceIdBound with
    | false =>
      exact ⟨h.toLocksSaved.update hreset hknown hrecorded schedule (by simp [hbound]), hrows⟩
    | true =>
      have hlocks : LocksSaved entriesFor (some updateEvent.instanceId) _ :=
        h.toLocksSaved.update hreset hknown hrecorded schedule fun _ => rfl
      obtain ⟨cell, hcell⟩ := Option.isSome_iff_exists.mp <|
        (filed_updatedLock h.toLocksSaved hknown hrecorded schedule).2.2.trans hbound
      have hshares := sharesRegistered_update h.toLocksSaved hreset hknown hrecorded hbound
        schedule
      refine ⟨hlocks.updateShared { sharedEvent with instanceId := updateEvent.instanceId } cell
        ?_ hshares, ?_⟩
      · have hnew := server.mgr.permanent_update (ObjectGuid.createPlayer realm counter)
          hreset updateEvent schedule now (ObjectGuid.createPlayer realm counter) entries.key
        rw [if_pos ⟨rfl, rfl⟩] at hnew
        have hid := registered_updatedLock h.toLocksSaved hknown hrecorded schedule cell hcell
        rw [← (shared_update server.mgr _ hreset updateEvent schedule now).2] at hid
        rw [commit_update server _ hreset]
        exact InstanceLockMgr.upgradeShared_of_permanent hnew hcell hid
      · simp only [if_pos, Bool.and_self, character_commit_updateShared,
          permanent_commit_updateShared]
        exact hrows

end Update

end RustyCore.Instances
