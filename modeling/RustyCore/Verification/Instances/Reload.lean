import RustyCore.Model.Instances.LockPersistence

/-! # Reloading instance locks

When the tables hold exactly the permanent locks, the loader rebuilds them. -/

namespace RustyCore.Instances

variable {server : InstanceLockServer} {entriesFor : BitVec 32 → BitVec 8 → Option MapDb2Entries}

/-- The guid that the loader makes from a counter. -/
def playerOf (counter : BitVec 64) : ObjectGuid :=
  ObjectGuid.createGlobal ObjectGuid.highGuidPlayer 0 counter

theorem playerOf_injective : Function.Injective playerOf :=
  fun _ _ h => congrArg ObjectGuid.low h

/-- What a lock keeps over a restart. -/
structure SavedLock where
  mapId : BitVec 32
  difficultyId : BitVec 8
  instanceId : BitVec 32
  expiryTime : InstanceResetTime
  extended : Bool
  data : InstanceLockData
  instanceInitializationData : InstanceLockData
deriving DecidableEq

def InstanceLockMgr.savedLock (mgr : InstanceLockMgr) (lock : InstanceLock) : SavedLock where
  mapId := lock.mapId
  difficultyId := lock.difficultyId
  instanceId := lock.instanceId
  expiryTime := lock.expiryTime
  extended := lock.extended
  data := lock.data
  instanceInitializationData := mgr.instanceInitializationData lock

/-- A fresh manager that loads the rows, in whatever order the queries return them, has the
permanent locks of every player and meets no issue. -/
def SurvivesRestart (entriesFor : BitVec 32 → BitVec 8 → Option MapDb2Entries)
    (server : InstanceLockServer) : Prop :=
  ∀ sharedRows characterRows, sharedRows.Perm server.tables.shared →
    characterRows.Perm server.tables.character →
    let loaded := InstanceLockMgr.default.loadFromRows sharedRows characterRows entriesFor
    loaded.2 = [] ∧ ∀ realm counter key,
      let playerGuid := ObjectGuid.createPlayer realm counter
      (loaded.1.instanceLocksByPlayer.get playerGuid key).map loaded.1.savedLock =
        (server.mgr.instanceLocksByPlayer.get playerGuid key).map server.mgr.savedLock

/-! ## Locks and rows -/

/-- The entries of the stores at their own map and difficulty. -/
def Known (entriesFor : BitVec 32 → BitVec 8 → Option MapDb2Entries)
    (entries : MapDb2Entries) : Prop :=
  entriesFor entries.mapId entries.difficultyId = some entries

def Filed (entriesFor : BitVec 32 → BitVec 8 → Option MapDb2Entries) (key : InstanceLockKey)
    (lock : InstanceLock) : Prop :=
  ∃ entries, Known entriesFor entries ∧ lock.mapId = entries.mapId ∧
    lock.difficultyId = entries.difficultyId ∧ entries.key = key ∧
    entries.isInstanceIdBound = lock.sharedData.isSome

def rowOf (counter : BitVec 64) (key : InstanceLockKey) (lock : InstanceLock) :
    CharacterInstanceLockRow where
  playerGuidCounter := counter
  mapId := key.1
  lockId := key.2
  instanceId := lock.instanceId
  difficultyId := lock.difficultyId
  data := lock.data
  expiryTime := lock.expiryTime
  extended := lock.extended

/-- What the invariant says of one permanent lock. With `stale = some id` the row of the
instance `id` is left open. -/
structure PermanentSaved (entriesFor : BitVec 32 → BitVec 8 → Option MapDb2Entries)
    (server : InstanceLockServer) (stale : Option (BitVec 32)) (playerGuid : ObjectGuid)
    (key : InstanceLockKey) (lock : InstanceLock) : Prop where
  player : playerGuid = playerOf playerGuid.counter
  filed : Filed entriesFor key lock
  allocated : ∀ cell ∈ lock.sharedData, cell < server.mgr.sharedCells.next
  registered : ∀ cell ∈ lock.sharedData, ∀ id,
    server.mgr.instanceLockDataById.lookup id = some cell → id = lock.instanceId
  shared : ∀ cell ∈ lock.sharedData, stale ≠ some lock.instanceId →
    RowTable.rowsAt SharedInstanceLockRow.instanceId lock.instanceId server.tables.shared =
      [⟨lock.instanceId, (server.mgr.sharedCells.read cell).data⟩]

/-- What the invariant says of the locks and the data they share. -/
structure LocksSaved (entriesFor : BitVec 32 → BitVec 8 → Option MapDb2Entries)
    (stale : Option (BitVec 32)) (server : InstanceLockServer) : Prop where
  permanent : ∀ playerGuid key lock,
    server.mgr.instanceLocksByPlayer.get playerGuid key = some lock →
    PermanentSaved entriesFor server stale playerGuid key lock
  temporary : ∀ playerGuid key lock,
    server.mgr.temporaryInstanceLocksByPlayer.get playerGuid key = some lock →
    Filed entriesFor key lock ∧ ∀ cell ∈ lock.sharedData, cell < server.mgr.sharedCells.next
  registered : ∀ id cell, server.mgr.instanceLockDataById.lookup id = some cell →
    cell < server.mgr.sharedCells.next
  registeredOnce : ∀ id id' cell, server.mgr.instanceLockDataById.lookup id = some cell →
    server.mgr.instanceLockDataById.lookup id' = some cell → id = id'

/-- The tables hold exactly the permanent locks. -/
structure Saved (entriesFor : BitVec 32 → BitVec 8 → Option MapDb2Entries)
    (server : InstanceLockServer) : Prop extends LocksSaved entriesFor none server where
  character : ∀ counter key,
    RowTable.rowsAt CharacterInstanceLockRow.key (counter, key) server.tables.character =
      ((server.mgr.instanceLocksByPlayer.get (playerOf counter) key).map
        (rowOf counter key)).toList

/-! ## The loader -/

section Load

variable {entriesFor : BitVec 32 → BitVec 8 → Option MapDb2Entries}

def sharedContents (acc : InstanceLockMgr × Dict (BitVec 32) SharedCell) (id : BitVec 32) :
    Option SharedInstanceLockData :=
  (acc.2.lookup id).map acc.1.sharedCells.read

theorem sharedContents_load (rows : List SharedInstanceLockRow) (mgr : InstanceLockMgr)
    (id : BitVec 32) :
    sharedContents (rows.foldl InstanceLockMgr.loadSharedRow (mgr, ∅)) id =
      (RowTable.rowsAt SharedInstanceLockRow.instanceId id rows).getLast?.elim none
        fun row => some ⟨row.instanceId, row.data⟩ := by
  refine (RowTable.read_foldl SharedInstanceLockRow.instanceId InstanceLockMgr.loadSharedRow
    sharedContents (fun row => some ⟨row.instanceId, row.data⟩)
    (fun acc => ∀ id cell, acc.2.lookup id = some cell → cell < acc.1.sharedCells.next) rows
    (fun acc hacc row _ => ⟨?_, ?_⟩) (mgr, ∅) ?_).2 id
  · intro id cell hcell
    simp only [InstanceLockMgr.loadSharedRow, InstanceLockMgr.registerShared,
      Dict.lookup_insert_eq, Heap.next_alloc] at hcell ⊢
    split at hcell
    · cases hcell
      exact Nat.lt_succ_self _
    · exact Nat.lt_succ_of_lt (hacc id cell hcell)
  · intro id
    simp only [sharedContents, InstanceLockMgr.loadSharedRow, InstanceLockMgr.registerShared,
      Dict.lookup_insert_eq]
    split
    · rw [Option.map_some, Heap.read_alloc_next]
    · refine Option.map_congr fun cell hcell => ?_
      exact Heap.read_alloc_of_lt (hacc id cell hcell) _
  · intro id cell hcell
    cases hcell

theorem permanent_loadSharedRows (rows : List SharedInstanceLockRow)
    (acc : InstanceLockMgr × Dict (BitVec 32) SharedCell) :
    (rows.foldl InstanceLockMgr.loadSharedRow acc).1.instanceLocksByPlayer =
      acc.1.instanceLocksByPlayer := by
  induction rows generalizing acc with
  | nil => rfl
  | cons row rows ih => exact ih (InstanceLockMgr.loadSharedRow acc row)

/-- The lock the loader makes of a row. -/
def lockOfRow (entriesFor : BitVec 32 → BitVec 8 → Option MapDb2Entries)
    (sharedDataById : Dict (BitVec 32) SharedCell) (row : CharacterInstanceLockRow) :
    Option InstanceLock :=
  InstanceLockMgr.loadedLock sharedDataById
    ((entriesFor row.mapId row.difficultyId).getD (InstanceLockMgr.unknownEntries row)) row

def loadedKey (row : CharacterInstanceLockRow) : ObjectGuid × InstanceLockKey :=
  (playerOf row.playerGuidCounter, row.mapId, row.lockId)

/-- When every row finds the data it shares, there is no issue and the last row of a key is
the lock of that key. -/
theorem load_characterRows {sharedDataById : Dict (BitVec 32) SharedCell}
    {rows : List CharacterInstanceLockRow}
    (hfound : ∀ row ∈ rows, (lockOfRow entriesFor sharedDataById row).isSome)
    {mgr : InstanceLockMgr} (hmgr : mgr.instanceLocksByPlayer = ∅) :
    let loaded := rows.foldl (InstanceLockMgr.loadCharacterRow sharedDataById entriesFor) (mgr, [])
    (loaded.2 = [] ∧ loaded.1.sharedCells = mgr.sharedCells) ∧
      ∀ filedAt : ObjectGuid × InstanceLockKey,
        loaded.1.instanceLocksByPlayer.get filedAt.1 filedAt.2 =
          (RowTable.rowsAt loadedKey filedAt rows).getLast?.elim none
            (lockOfRow entriesFor sharedDataById) := by
  have hload := RowTable.read_foldl loadedKey
    (InstanceLockMgr.loadCharacterRow sharedDataById entriesFor)
    (fun acc filedAt => acc.1.instanceLocksByPlayer.get filedAt.1 filedAt.2)
    (lockOfRow entriesFor sharedDataById)
    (fun acc => acc.2 = [] ∧ acc.1.sharedCells = mgr.sharedCells) rows ?_ (mgr, []) ⟨rfl, rfl⟩
  · simpa [hmgr] using hload
  · intro acc hacc row hrow
    obtain ⟨lock, hlock⟩ := Option.isSome_iff_exists.mp (hfound row hrow)
    rw [InstanceLockMgr.loadCharacterRow, hlock]
    rw [lockOfRow] at hlock
    rw [hlock]
    refine ⟨hacc, fun filedAt => ?_⟩
    rw [NestedDict.get_put]
    simp [Prod.ext_iff, loadedKey, playerOf]

theorem lockOfRow_rowOf {playerGuid : ObjectGuid} {key : InstanceLockKey} {lock : InstanceLock}
    (hlock : PermanentSaved entriesFor server none playerGuid key lock)
    {sharedRows : List SharedInstanceLockRow} (hrows : sharedRows.Perm server.tables.shared)
    (mgr : InstanceLockMgr) (counter : BitVec 64) :
    let shared := sharedRows.foldl InstanceLockMgr.loadSharedRow (mgr, ∅)
    let row := rowOf counter key lock
    ∃ loaded, lockOfRow entriesFor shared.2 row = some loaded ∧
      ∀ mgr' : InstanceLockMgr, mgr'.sharedCells = shared.1.sharedCells →
        mgr'.savedLock loaded = server.mgr.savedLock lock := by
  intro shared row
  obtain ⟨entries, hknown, hmap, hdiff, hkey, hbound⟩ := hlock.filed
  have hentries : entriesFor row.mapId row.difficultyId = some entries := by
    rw [← hknown, ← hdiff]
    exact congrArg (entriesFor · _) (congrArg Prod.fst hkey).symm
  have hrowMap : key.1 = lock.mapId := by rw [hmap, ← hkey]; rfl
  rw [lockOfRow, hentries, Option.getD_some, InstanceLockMgr.loadedLock, hbound]
  cases hdata : lock.sharedData with
  | none =>
    refine ⟨_, rfl, fun mgr' _ => ?_⟩
    simp [InstanceLockMgr.savedLock, InstanceLockMgr.instanceInitializationData,
      InstanceLock.new, hdata, row, rowOf, hrowMap]
  | some cell =>
    have hcontents := sharedContents_load sharedRows mgr lock.instanceId
    have hsaved := hlock.shared cell hdata nofun
    have hloaded := RowTable.rowsAt_eq_of_perm SharedInstanceLockRow.instanceId hrows
      (hsaved.trans (Option.toList_some _).symm)
    rw [hloaded] at hcontents
    obtain ⟨loadedCell, hlookup, hread⟩ := Option.map_eq_some_iff.mp hcontents
    refine ⟨_, by rw [if_pos Option.isSome_some]; exact congrArg _ hlookup, ?_⟩
    intro mgr' hcells
    simp [InstanceLockMgr.savedLock, InstanceLockMgr.instanceInitializationData,
      InstanceLock.newShared, InstanceLock.new, hdata, row, rowOf, hrowMap, hcells, shared, hread]

end Load

theorem Saved.row_of_lock (h : Saved entriesFor server) {row : CharacterInstanceLockRow}
    (hrow : row ∈ server.tables.character) :
    ∃ lock, server.mgr.instanceLocksByPlayer.get (loadedKey row).1 (loadedKey row).2 = some lock ∧
      rowOf row.playerGuidCounter (row.mapId, row.lockId) lock = row := by
  have hat := (RowTable.mem_rowsAt CharacterInstanceLockRow.key).mpr ⟨hrow, rfl⟩
  rw [CharacterInstanceLockRow.key, h.character] at hat
  simpa [loadedKey] using hat

theorem Saved.rowsAt_loadedKey (h : Saved entriesFor server)
    {rows : List CharacterInstanceLockRow} (hrows : rows.Perm server.tables.character)
    (playerGuid : ObjectGuid) (key : InstanceLockKey) :
    RowTable.rowsAt loadedKey (playerGuid, key) rows =
      ((server.mgr.instanceLocksByPlayer.get playerGuid key).map
        (rowOf playerGuid.counter key)).toList := by
  refine RowTable.rowsAt_eq_of_perm loadedKey hrows ?_
  cases hlock : server.mgr.instanceLocksByPlayer.get playerGuid key with
  | none =>
    apply List.eq_nil_iff_forall_not_mem.mpr
    intro row hrow
    obtain ⟨hmem, hkey⟩ := (RowTable.mem_rowsAt loadedKey).mp hrow
    obtain ⟨lock, hsome, -⟩ := h.row_of_lock hmem
    rw [hkey, hlock] at hsome
    cases hsome
  | some lock =>
    have hplayer := (h.permanent playerGuid key lock hlock).player
    have hinjective : Function.Injective fun at_ : CharacterLockKey => (playerOf at_.1, at_.2) :=
      fun at_ at_' hat => Prod.ext (playerOf_injective (Prod.ext_iff.mp hat).1)
        (Prod.ext_iff.mp hat).2
    have hat := RowTable.rowsAt_comp CharacterInstanceLockRow.key hinjective
      (playerGuid.counter, key) server.tables.character
    rw [h.character, ← hplayer, hlock] at hat
    exact hat

/-- What the tables hold is what a restart brings back. -/
theorem Saved.survivesRestart (h : Saved entriesFor server) :
    SurvivesRestart entriesFor server := by
  intro sharedRows characterRows hshared hcharacter
  let shared := sharedRows.foldl InstanceLockMgr.loadSharedRow (InstanceLockMgr.default, ∅)
  have hfound : ∀ row ∈ characterRows, (lockOfRow entriesFor shared.2 row).isSome := by
    intro row hmem
    obtain ⟨lock, hlock, hrow⟩ := h.row_of_lock (hcharacter.mem_iff.mp hmem)
    obtain ⟨loaded, hloaded, -⟩ := lockOfRow_rowOf (h.permanent _ _ _ hlock) hshared
      InstanceLockMgr.default row.playerGuidCounter
    rw [← hrow]
    exact Option.isSome_iff_exists.mpr ⟨loaded, hloaded⟩
  have hempty : shared.1.instanceLocksByPlayer = ∅ := permanent_loadSharedRows sharedRows _
  obtain ⟨⟨hissues, hcells⟩, hlocks⟩ := load_characterRows hfound hempty
  refine ⟨hissues, fun realm counter key => ?_⟩
  have hget := hlocks (ObjectGuid.createPlayer realm counter, key)
  rw [h.rowsAt_loadedKey hcharacter] at hget
  refine (congrArg (Option.map _) hget).trans ?_
  cases hlock : server.mgr.instanceLocksByPlayer.get (ObjectGuid.createPlayer realm counter)
      key with
  | none => rfl
  | some lock =>
    obtain ⟨loaded, hloaded, hsaved⟩ := lockOfRow_rowOf (h.permanent _ _ _ hlock) hshared
      InstanceLockMgr.default (ObjectGuid.createPlayer realm counter).counter
    have hlast : lockOfRow entriesFor shared.2 (rowOf _ key lock) = some loaded := hloaded
    simp only [Option.map_some, Option.toList_some, List.getLast?_singleton, Option.elim_some,
      hlast]
    exact congrArg some (hsaved _ hcells)

end RustyCore.Instances
