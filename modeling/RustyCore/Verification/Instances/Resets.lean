import RustyCore.Model.Instances.LockPersistence
import RustyCore.Verification.Instances.ResetTime

/-! # Resetting the locks of a player

A reset dates every lock one period before the next reset. That is in the past only if the
last reset is, and the row that is written is the one of the lock only if its map and
difficulty lead back to its key. -/

namespace RustyCore.Instances

open InstanceLockMgr

/-- Strictly between two resets, neither of them before the epoch. -/
def BetweenResets (entries : MapDb2Entries) (schedule : ResetSchedule)
    (now : InstanceResetTime) : Prop :=
  ∃ t : ℕ, IsResetInstant entries schedule t ∧ t < now.toNat ∧
    now.toNat < t + resetPeriod entries

theorem resetPeriod_le (entries : MapDb2Entries) : resetPeriod entries ≤ 604800 := by
  rw [resetPeriod]
  cases entries.resetInterval <;> decide

theorem isExpiredAt_forceExpire_iff {entries : MapDb2Entries} {schedule : ResetSchedule}
    (hreset : entries.hasResetSchedule = true) (hhour : schedule.hour < 24)
    (hday : schedule.weekDay < 7) (now : InstanceResetTime) (lock : InstanceLock) :
    (lock.forceExpire entries schedule now).isExpiredAt now = true ↔
      BetweenResets entries schedule now := by
  obtain ⟨next, hnext, hnear, ⟨hafter, hinstant⟩, hleast⟩ :=
    nextResetSeconds_isLeast hreset hhour hday now
  have hnow := now.isLt
  have hperiod := resetPeriod_le entries
  have hexpiry : (lock.forceExpire entries schedule now).expiryTime.toNat =
      (2 ^ 64 - resetPeriod entries + next % 2 ^ 64) % 2 ^ 64 := by
    rw [InstanceLock.forceExpire, nextResetTimeAt_eq_ofInt hreset, hnext, BitVec.toNat_sub,
      resetPeriod, BitVec.ofInt_natCast, BitVec.toNat_ofNat]
  rw [InstanceLock.isExpiredAt, decide_eq_true_eq, BitVec.lt_def, hexpiry]
  constructor
  · intro hexpired
    have hle : resetPeriod entries ≤ next := by omega
    refine ⟨next - resetPeriod entries, ?_, by omega, by omega⟩
    rwa [← isResetInstant_add_period hreset, Nat.sub_add_cancel hle]
  · rintro ⟨t, ht, hbefore, hbehind⟩
    have hupper : next ≤ t + resetPeriod entries :=
      hleast ⟨hbehind, (isResetInstant_add_period hreset t).mpr ht⟩
    have hlower := ht.add_period_le hreset hinstant (hbefore.trans hafter)
    omega

section Reset

variable (mgr : InstanceLockMgr) (playerGuid : ObjectGuid) (mapId : Option (BitVec 32))
  (difficultyId : Option (BitVec 8)) (entriesByKey : Dict InstanceLockKey MapDb2Entries)
  (schedule : ResetSchedule) (now : InstanceResetTime)
variable {key : InstanceLockKey} {lock' lock : InstanceLock}

def lockResets : List (InstanceLockKey × InstanceLock) :=
  ((mgr.instanceLocksByPlayer.lookup playerGuid).elim [] AList.entries).filterMap fun entry =>
    (resetTo mapId difficultyId entriesByKey schedule now entry.1 entry.2).map (entry.1, ·)

variable {mgr playerGuid mapId difficultyId entriesByKey schedule now}

theorem resetTo_eq_some_iff :
    resetTo mapId difficultyId entriesByKey schedule now key lock = some lock' ↔
      resetSelects mapId difficultyId now lock = true ∧ lock.isInUse = false ∧
        ∃ entries, entriesByKey.lookup key = some entries ∧
          lock.forceExpire entries schedule now = lock' := by
  rw [resetTo]
  split
  case isTrue h => simp_all
  case isFalse h =>
    refine ⟨nofun, fun ⟨hselects, hfree, _⟩ => absurd ?_ h⟩
    rw [hselects, hfree]
    rfl

theorem get_resetInstanceLocksForPlayerAt (key : InstanceLockKey) :
    (mgr.resetInstanceLocksForPlayerAt playerGuid mapId difficultyId entriesByKey schedule
        now).1.instanceLocksByPlayer.get playerGuid key =
      (mgr.instanceLocksByPlayer.get playerGuid key).map fun lock =>
        (resetTo mapId difficultyId entriesByKey schedule now key lock).getD lock := by
  rw [resetInstanceLocksForPlayerAt]
  cases hplayer : mgr.instanceLocksByPlayer.lookup playerGuid with
  | none => simp [NestedDict.get, hplayer]
  | some playerLocks =>
    dsimp only
    rw [NestedDict.get, Dict.lookup_insert_eq, if_pos rfl, Option.bind_some,
      Dict.lookup_mapValues, NestedDict.get, hplayer, Option.bind_some]

theorem mem_lockResets :
    (key, lock') ∈ lockResets mgr playerGuid mapId difficultyId entriesByKey schedule now ↔
      ∃ lock, mgr.instanceLocksByPlayer.get playerGuid key = some lock ∧
        resetTo mapId difficultyId entriesByKey schedule now key lock = some lock' := by
  rw [lockResets, NestedDict.get]
  cases mgr.instanceLocksByPlayer.lookup playerGuid with
  | none => simp
  | some playerLocks =>
    rw [List.mem_filterMap, Option.bind_some]
    constructor
    · rintro ⟨⟨key', lock⟩, hmem, hreset⟩
      obtain ⟨_, hreset, heq⟩ := Option.map_eq_some_iff.mp hreset
      cases heq
      exact ⟨lock, Dict.mem_entries_iff.mp hmem, hreset⟩
    · rintro ⟨lock, hlock, hreset⟩
      exact ⟨⟨key, lock⟩, Dict.mem_entries_iff.mpr hlock, by rw [hreset]; rfl⟩

theorem snd_lockResets :
    (lockResets mgr playerGuid mapId difficultyId entriesByKey schedule now).map Prod.snd =
      (mgr.resetInstanceLocksForPlayerAt playerGuid mapId difficultyId entriesByKey schedule
        now).2.reset := by
  rw [lockResets, resetInstanceLocksForPlayerAt]
  cases mgr.instanceLocksByPlayer.lookup playerGuid with
  | none => rfl
  | some playerLocks =>
    dsimp only [Option.elim_some]
    rw [List.map_filterMap]
    refine List.filterMap_congr fun entry _ => ?_
    rw [Option.map_map]
    exact Option.map_id'

theorem mem_reset :
    lock' ∈ (mgr.resetInstanceLocksForPlayerAt playerGuid mapId difficultyId entriesByKey
        schedule now).2.reset ↔
      ∃ key lock, mgr.instanceLocksByPlayer.get playerGuid key = some lock ∧
        resetTo mapId difficultyId entriesByKey schedule now key lock = some lock' := by
  simp only [← snd_lockResets, List.mem_map, Prod.exists, exists_eq_right, mem_lockResets]

theorem get_of_mem_lockResets
    (h : (key, lock') ∈ lockResets mgr playerGuid mapId difficultyId entriesByKey schedule now) :
    (mgr.resetInstanceLocksForPlayerAt playerGuid mapId difficultyId entriesByKey schedule
      now).1.instanceLocksByPlayer.get playerGuid key = some lock' := by
  obtain ⟨lock, hlock, hreset⟩ := mem_lockResets.mp h
  rw [get_resetInstanceLocksForPlayerAt, hlock, Option.map_some, hreset, Option.getD_some]

theorem mem_failedToReset (hlock : mgr.instanceLocksByPlayer.get playerGuid key = some lock)
    (hselects : resetSelects mapId difficultyId now lock = true) (huse : lock.isInUse = true) :
    lock ∈ (mgr.resetInstanceLocksForPlayerAt playerGuid mapId difficultyId entriesByKey
      schedule now).2.failedToReset := by
  rw [NestedDict.get] at hlock
  obtain ⟨playerLocks, hplayer, hlock⟩ := Option.bind_eq_some_iff.mp hlock
  rw [resetInstanceLocksForPlayerAt, hplayer, List.mem_filter, hselects, huse]
  exact ⟨Dict.mem_values_iff.mpr ⟨key, hlock⟩, rfl⟩

/-! ## Expiry -/

theorem get_reset_of_isInUse (hlock : mgr.instanceLocksByPlayer.get playerGuid key = some lock)
    (huse : lock.isInUse = true) :
    (mgr.resetInstanceLocksForPlayerAt playerGuid mapId difficultyId entriesByKey schedule
      now).1.instanceLocksByPlayer.get playerGuid key = some lock := by
  have hkept : resetTo mapId difficultyId entriesByKey schedule now key lock = none := by
    rw [resetTo, huse, Bool.not_true, Bool.and_false, if_neg Bool.false_ne_true]
  rw [get_resetInstanceLocksForPlayerAt, hlock, Option.map_some, hkept, Option.getD_none]

/-- A reset expires the locks it resets exactly if it happens between two resets of each. -/
theorem reset_expires_locks (hhour : schedule.hour < 24) (hday : schedule.weekDay < 7)
    (hscheduled : ∀ key entries, entriesByKey.lookup key = some entries →
      entries.hasResetSchedule = true) :
    ((∀ lock ∈ (mgr.resetInstanceLocksForPlayerAt playerGuid mapId difficultyId entriesByKey
          schedule now).2.reset, lock.isExpiredAt now = true ∧ lock.extended = false) ∧
        ∀ key lock, mgr.instanceLocksByPlayer.get playerGuid key = some lock →
          resetSelects mapId difficultyId now lock = true → lock.isInUse = true →
          (mgr.resetInstanceLocksForPlayerAt playerGuid mapId difficultyId entriesByKey
              schedule now).1.instanceLocksByPlayer.get playerGuid key = some lock ∧
            lock ∈ (mgr.resetInstanceLocksForPlayerAt playerGuid mapId difficultyId
              entriesByKey schedule now).2.failedToReset) ↔
      ∀ key lock entries, mgr.instanceLocksByPlayer.get playerGuid key = some lock →
        resetSelects mapId difficultyId now lock = true → lock.isInUse = false →
        entriesByKey.lookup key = some entries → BetweenResets entries schedule now := by
  constructor
  · rintro ⟨hexpired, -⟩ key lock entries hlock hselects hfree hentries
    have hreset : resetTo mapId difficultyId entriesByKey schedule now key lock =
        some (lock.forceExpire entries schedule now) :=
      resetTo_eq_some_iff.mpr ⟨hselects, hfree, entries, hentries, rfl⟩
    exact (isExpiredAt_forceExpire_iff (hscheduled key entries hentries) hhour hday now
      lock).mp (hexpired _ (mem_reset.mpr ⟨key, lock, hlock, hreset⟩)).1
  · intro hbetween
    refine ⟨fun lock' hmem => ?_, fun key lock hlock hselects huse => ?_⟩
    · obtain ⟨key, lock, hlock, hreset⟩ := mem_reset.mp hmem
      obtain ⟨hselects, hfree, entries, hentries, rfl⟩ := resetTo_eq_some_iff.mp hreset
      exact ⟨(isExpiredAt_forceExpire_iff (hscheduled key entries hentries) hhour hday now
        lock).mpr (hbetween key lock entries hlock hselects hfree hentries), rfl⟩
    · exact ⟨get_reset_of_isInUse hlock huse, mem_failedToReset hlock hselects huse⟩

end Reset

/-- A player with one lock, until 2000000, on the map of the sample entries. -/
def sampleLocked : InstanceLockMgr :=
  { InstanceLockMgr.default with
    instanceLocksByPlayer := NestedDict.put ∅ (ObjectGuid.createPlayer 1 7) (631, 4)
      (InstanceLock.new 631 3 2000000 9001) }

theorem reset_expires_locks_sample :
    (sampleLocked.resetInstanceLocksForPlayerAt (ObjectGuid.createPlayer 1 7) none none
        (AList.singleton (631, 4) ⟨631, 3, 4, .daily, 10, false, false⟩) ⟨8, 2⟩
        900000).2.reset.length = 1 ∧
      ∀ lock ∈ (sampleLocked.resetInstanceLocksForPlayerAt (ObjectGuid.createPlayer 1 7) none
        none (AList.singleton (631, 4) ⟨631, 3, 4, .daily, 10, false, false⟩) ⟨8, 2⟩
        900000).2.reset, lock.isExpiredAt 900000 = true ∧ lock.extended = false := by
  refine ⟨by decide, ((reset_expires_locks (by decide) (by decide) fun key entries hentries =>
    ?_).mpr fun key lock entries _ _ _ hentries => ?_).1⟩
  all_goals
    rw [Dict.lookup_singleton_eq, Option.ite_none_right_eq_some, Option.some.injEq] at hentries
    obtain ⟨-, rfl⟩ := hentries
  · rfl
  · exact ⟨892800, by decide, by decide, by decide⟩

/-- At the very second of a reset the locks keep an expiry that has not passed. -/
theorem reset_leaves_live_lock :
    ¬ ∀ lock ∈ (sampleLocked.resetInstanceLocksForPlayerAt (ObjectGuid.createPlayer 1 7) none
        none (AList.singleton (631, 4) ⟨631, 3, 4, .daily, 10, false, false⟩) ⟨8, 2⟩
        892800).2.reset, lock.isExpiredAt 892800 = true ∧ lock.extended = false := by
  decide

/-! ## Persistence -/

section Persistence

variable {mgr : InstanceLockMgr} {playerGuid : ObjectGuid} {mapId : Option (BitVec 32)}
  {difficultyId : Option (BitVec 8)} {entriesByKey : Dict InstanceLockKey MapDb2Entries}
  {schedule : ResetSchedule} {now : InstanceResetTime}

/-- The first of the entries with the map and difficulty of the lock have the key under which
the lock is stored. -/
def LeadsBack (entriesByKey : Dict InstanceLockKey MapDb2Entries) (key : InstanceLockKey)
    (lock : InstanceLock) : Prop :=
  ∃ before entries after, entriesByKey.values = before ++ entries :: after ∧
    (∀ other ∈ before,
      ¬ (other.mapId = lock.mapId ∧ other.difficultyId = lock.difficultyId)) ∧
    entries.mapId = lock.mapId ∧ entries.difficultyId = lock.difficultyId ∧ entries.key = key

theorem leadsBack_iff {key : InstanceLockKey} {lock : InstanceLock} :
    LeadsBack entriesByKey key lock ↔
      ∃ entries, resetEntries entriesByKey lock = some entries ∧ entries.key = key := by
  simp only [LeadsBack, resetEntries, List.find?_eq_some_iff_append, Bool.and_eq_true,
    beq_iff_eq, Bool.not_eq_true', Bool.and_eq_false_iff, beq_eq_false_iff_ne]
  constructor
  · rintro ⟨before, entries, after, hvalues, hbefore, hmap, hdifficulty, hkey⟩
    refine ⟨entries, ⟨⟨hmap, hdifficulty⟩, before, after, hvalues, fun other hother => ?_⟩, hkey⟩
    exact not_and_or.mp (hbefore other hother)
  · rintro ⟨entries, ⟨⟨hmap, hdifficulty⟩, before, after, hvalues, hbefore⟩, hkey⟩
    exact ⟨before, entries, after, hvalues,
      fun other hother => not_and_or.mpr (hbefore other hother), hmap, hdifficulty, hkey⟩

def expireRow (playerGuid : ObjectGuid) (entry : InstanceLockKey × InstanceLock) :
    InstanceLockPersistenceMutation :=
  .forceExpireCharacterLock entry.2.expiryTime playerGuid.counter entry.1.1 entry.1.2

theorem mutation_eq_iff {entry : InstanceLockKey × InstanceLock} :
    ((resetEntries entriesByKey entry.2).map fun entries =>
        forceExpireCharacterInstanceLockMutation playerGuid entries entry.2.expiryTime) =
          some (expireRow playerGuid entry) ↔
      LeadsBack entriesByKey entry.1 entry.2 := by
  rw [leadsBack_iff, Option.map_eq_some_iff]
  refine exists_congr fun entries => and_congr_right fun _ => ?_
  simp [forceExpireCharacterInstanceLockMutation, expireRow, MapDb2Entries.key, Prod.ext_iff]

/-- A partial map drops nothing and agrees with `g` exactly if it does on each element. -/
theorem filterMap_eq_map_iff {α β : Type*} {f : α → Option β} {g : α → β} {l : List α} :
    l.filterMap f = l.map g ↔ ∀ a ∈ l, f a = some (g a) := by
  induction l with
  | nil => simp
  | cons a l ih =>
    rw [List.forall_mem_cons, ← ih, List.map_cons]
    cases ha : f a with
    | none =>
      rw [List.filterMap_cons_none ha]
      refine iff_of_false (fun h => ?_) (fun h => by cases h.1)
      have hlength := congrArg List.length h
      have hle := List.length_filterMap_le f l
      simp only [List.length_cons, List.length_map] at hlength
      omega
    | some b => rw [List.filterMap_cons_some ha, List.cons.injEq, Option.some.injEq]

theorem plan_eq_iff {locks : List (InstanceLockKey × InstanceLock)} :
    ((locks.map Prod.snd).filterMap fun lock => (resetEntries entriesByKey lock).map
        fun entries => forceExpireCharacterInstanceLockMutation playerGuid entries
          lock.expiryTime) = locks.map (expireRow playerGuid) ↔
      ∀ entry ∈ locks, LeadsBack entriesByKey entry.1 entry.2 := by
  rw [List.filterMap_map, filterMap_eq_map_iff]
  exact forall₂_congr fun entry _ => mutation_eq_iff

/-- A reset appends one statement per lock it resets, for the row of that lock, exactly if the
map and difficulty of each lead back to the key under which it is stored. -/
theorem reset_persisted :
    (lockResets mgr playerGuid mapId difficultyId entriesByKey schedule now).map Prod.snd =
        (mgr.resetInstanceLocksForPlayerAt playerGuid mapId difficultyId entriesByKey schedule
          now).2.reset ∧
      (∀ entry ∈ lockResets mgr playerGuid mapId difficultyId entriesByKey schedule now,
        (mgr.resetInstanceLocksForPlayerWithPersistenceAt playerGuid mapId difficultyId
          entriesByKey schedule now).1.instanceLocksByPlayer.get playerGuid entry.1 =
            some entry.2) ∧
      ((mgr.resetInstanceLocksForPlayerWithPersistenceAt playerGuid mapId difficultyId
          entriesByKey schedule now).2 =
            (lockResets mgr playerGuid mapId difficultyId entriesByKey schedule now).map
              (expireRow playerGuid) ↔
        ∀ key lock, mgr.instanceLocksByPlayer.get playerGuid key = some lock →
          resetSelects mapId difficultyId now lock = true → lock.isInUse = false →
          (entriesByKey.lookup key).isSome → LeadsBack entriesByKey key lock) := by
  refine ⟨snd_lockResets, fun entry hentry => get_of_mem_lockResets hentry, ?_⟩
  rw [resetInstanceLocksForPlayerWithPersistenceAt]
  dsimp only
  rw [← snd_lockResets, plan_eq_iff]
  constructor
  · intro hleads key lock hlock hselects hfree hfiled
    obtain ⟨entries, hentries⟩ := Option.isSome_iff_exists.mp hfiled
    have hreset : resetTo mapId difficultyId entriesByKey schedule now key lock =
        some (lock.forceExpire entries schedule now) :=
      resetTo_eq_some_iff.mpr ⟨hselects, hfree, entries, hentries, rfl⟩
    exact hleads (key, lock.forceExpire entries schedule now)
      (mem_lockResets.mpr ⟨lock, hlock, hreset⟩)
  · rintro hleads ⟨key, lock'⟩ hmem
    obtain ⟨lock, hlock, hreset⟩ := mem_lockResets.mp hmem
    obtain ⟨hselects, hfree, entries, hentries, rfl⟩ := resetTo_eq_some_iff.mp hreset
    exact hleads key lock hlock hselects hfree (Option.isSome_iff_exists.mpr ⟨_, hentries⟩)

end Persistence

/-- Entries of another difficulty with the same lock id reset the lock but not its row. -/
theorem reset_not_persisted :
    ¬ (sampleLocked.resetInstanceLocksForPlayerWithPersistenceAt (ObjectGuid.createPlayer 1 7)
          none none (AList.singleton (631, 4) ⟨631, 5, 4, .daily, 10, false, false⟩) ⟨8, 2⟩
          900000).2 =
        (lockResets sampleLocked (ObjectGuid.createPlayer 1 7) none none
          (AList.singleton (631, 4) ⟨631, 5, 4, .daily, 10, false, false⟩) ⟨8, 2⟩ 900000).map
            (expireRow (ObjectGuid.createPlayer 1 7)) :=
  fun h => absurd (congrArg List.length h) (by decide)

end RustyCore.Instances
