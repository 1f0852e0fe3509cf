import RustyCore.Verification.Instances.ResetTime

/-! # Updates of instance locks

An update works on the lock in force: the permanent lock while it is active, else the
temporary one, else a new one. -/

namespace RustyCore.Instances

namespace InstanceLockMgr

/-- The active permanent lock of a key, else its temporary lock. -/
def lockInForce (mgr : InstanceLockMgr) (playerGuid : ObjectGuid) (key : InstanceLockKey)
    (now : InstanceResetTime) : Option InstanceLock :=
  ((mgr.instanceLocksByPlayer.get playerGuid key).filter (·.isActiveAt now)).or
    (mgr.temporaryInstanceLocksByPlayer.get playerGuid key)

theorem findActiveInstanceLockAt_eq {entries : MapDb2Entries}
    (hreset : entries.hasResetSchedule = true) (mgr : InstanceLockMgr) (playerGuid : ObjectGuid)
    (now : InstanceResetTime) :
    mgr.findActiveInstanceLockAt playerGuid entries now =
      mgr.lockInForce playerGuid entries.key now := by
  simp only [findActiveInstanceLockAt, findActiveInstanceLockInner, lockInForce, hreset,
    Bool.not_true, Bool.false_eq_true, if_false, Bool.false_or]
  cases (mgr.instanceLocksByPlayer.get playerGuid entries.key).filter (·.isActiveAt now) with
  | none => rfl
  | some lock => rfl

theorem lockInForce_of_unexpired {mgr : InstanceLockMgr} {playerGuid : ObjectGuid}
    {key : InstanceLockKey} {now : InstanceResetTime} {lock : InstanceLock}
    (hget : mgr.instanceLocksByPlayer.get playerGuid key = some lock)
    (hlive : lock.isExpiredAt now = false) :
    mgr.lockInForce playerGuid key now = some lock := by
  have hactive : lock.isActiveAt now = true := by simp [InstanceLock.isActiveAt, hlive]
  simp [lockInForce, hget, Option.filter, hactive]

/-! ## The lock an update works on -/

section Steps

variable (mgr : InstanceLockMgr) (playerGuid : ObjectGuid) (now : InstanceResetTime)

@[simp] theorem temporary_sharedCellFor (instanceId : BitVec 32) :
    (mgr.sharedCellFor instanceId).1.temporaryInstanceLocksByPlayer =
      mgr.temporaryInstanceLocksByPlayer := by
  unfold sharedCellFor
  cases mgr.upgradeShared instanceId with
  | none => rfl
  | some cell => rfl

@[simp] theorem permanent_sharedCellFor (instanceId : BitVec 32) :
    (mgr.sharedCellFor instanceId).1.instanceLocksByPlayer = mgr.instanceLocksByPlayer := by
  unfold sharedCellFor
  cases mgr.upgradeShared instanceId with
  | none => rfl
  | some cell => rfl

/-- An active permanent lock stays; otherwise the temporary lock takes the key. -/
theorem permanent_replaceInactive (key : InstanceLockKey) (guid : ObjectGuid)
    (key' : InstanceLockKey) :
    (mgr.replaceInactive playerGuid key now).instanceLocksByPlayer.get guid key' =
      if guid = playerGuid ∧ key' = key then mgr.lockInForce playerGuid key now
      else mgr.instanceLocksByPlayer.get guid key' := by
  unfold replaceInactive lockInForce
  cases hperm : mgr.instanceLocksByPlayer.get playerGuid key with
  | none =>
    cases htemp : mgr.temporaryInstanceLocksByPlayer.get playerGuid key with
    | none => simp [NestedDict.get_remove]
    | some temp => simp [NestedDict.get_put]
  | some lock =>
    by_cases hactive : lock.isActiveAt now = true
    · simp only [Option.any_some, hactive, if_true]
      split
      case isTrue h => simp [h.1, h.2, hperm, hactive, Option.filter]
      case isFalse => rfl
    · cases htemp : mgr.temporaryInstanceLocksByPlayer.get playerGuid key with
      | none => simp [NestedDict.get_remove, hactive, Option.filter]
      | some temp => simp [NestedDict.get_put, hactive, Option.filter]

theorem temporary_replaceInactive (key : InstanceLockKey) (guid : ObjectGuid)
    (key' : InstanceLockKey) :
    (mgr.replaceInactive playerGuid key now).temporaryInstanceLocksByPlayer.get guid key' =
      if guid = playerGuid ∧ key' = key ∧
          (mgr.instanceLocksByPlayer.get playerGuid key).any (·.isActiveAt now) = false then
        none
      else mgr.temporaryInstanceLocksByPlayer.get guid key' := by
  unfold replaceInactive
  by_cases hactive : (mgr.instanceLocksByPlayer.get playerGuid key).any (·.isActiveAt now)
  · simp [hactive]
  · rw [Bool.not_eq_true] at hactive
    cases htemp : mgr.temporaryInstanceLocksByPlayer.get playerGuid key with
    | none =>
      simp only [hactive, Bool.false_eq_true, if_false, NestedDict.get_dropEmpty, and_true]
      split
      case isTrue h => rw [h.1, h.2, htemp]
      case isFalse => rfl
    | some temp => simp [hactive, NestedDict.get_remove]

variable (entries : MapDb2Entries) (instanceId : BitVec 32) (schedule : ResetSchedule)

@[simp] theorem temporary_newPermanentLock :
    (mgr.newPermanentLock entries instanceId schedule now).1.temporaryInstanceLocksByPlayer =
      mgr.temporaryInstanceLocksByPlayer := by
  rw [newPermanentLock]
  split
  · exact temporary_sharedCellFor mgr instanceId
  · rfl

@[simp] theorem permanent_newPermanentLock :
    (mgr.newPermanentLock entries instanceId schedule now).1.instanceLocksByPlayer =
      mgr.instanceLocksByPlayer := by
  rw [newPermanentLock]
  split
  · exact permanent_sharedCellFor mgr instanceId
  · rfl

@[simp] theorem temporary_createMissing :
    (mgr.createMissing playerGuid entries instanceId schedule
        now).temporaryInstanceLocksByPlayer = mgr.temporaryInstanceLocksByPlayer := by
  rw [createMissing]
  split
  · rfl
  · exact temporary_newPermanentLock mgr now entries instanceId schedule

theorem permanent_createMissing (guid : ObjectGuid) (key : InstanceLockKey) :
    (mgr.createMissing playerGuid entries instanceId schedule
        now).instanceLocksByPlayer.get guid key =
      if guid = playerGuid ∧ key = entries.key then
        some ((mgr.instanceLocksByPlayer.get playerGuid entries.key).getD
          (mgr.newPermanentLock entries instanceId schedule now).2)
      else mgr.instanceLocksByPlayer.get guid key := by
  rw [createMissing]
  cases hlock : mgr.instanceLocksByPlayer.get playerGuid entries.key with
  | some lock =>
    rw [Option.isSome_some, if_pos rfl]
    split
    case isTrue h => rw [h.1, h.2, hlock, Option.getD_some]
    case isFalse => rfl
  | none =>
    rw [Option.isSome_none, if_neg Bool.false_ne_true]
    dsimp only
    rw [NestedDict.get_put, permanent_newPermanentLock, Option.getD_none]

def updatedLock : InstanceLock :=
  (mgr.lockInForce playerGuid entries.key now).getD
    ((mgr.replaceInactive playerGuid entries.key now).newPermanentLock entries instanceId
      schedule now).2

end Steps

section Update

variable (mgr : InstanceLockMgr) (playerGuid : ObjectGuid) {entries : MapDb2Entries}
  (hreset : entries.hasResetSchedule = true) (updateEvent : InstanceLockUpdateEvent)
  (schedule : ResetSchedule) (now : InstanceResetTime)

include hreset

theorem permanent_update (guid : ObjectGuid) (key : InstanceLockKey) :
    (mgr.updateInstanceLockForPlayerAt playerGuid entries updateEvent schedule
        now).1.instanceLocksByPlayer.get guid key =
      if guid = playerGuid ∧ key = entries.key then
        some ((mgr.updatedLock playerGuid now entries updateEvent.instanceId
          schedule).recordUpdate entries updateEvent schedule now)
      else mgr.instanceLocksByPlayer.get guid key := by
  rw [updateInstanceLockForPlayerAt, hreset, Bool.not_true, if_neg Bool.false_ne_true]
  dsimp only
  rw [NestedDict.get_update]
  split
  case isTrue h =>
    rw [permanent_createMissing, if_pos ⟨rfl, rfl⟩, permanent_replaceInactive,
      if_pos ⟨rfl, rfl⟩]
    rfl
  case isFalse h =>
    rw [permanent_createMissing, if_neg h, permanent_replaceInactive, if_neg h]

theorem temporary_update (guid : ObjectGuid) (key : InstanceLockKey) :
    (mgr.updateInstanceLockForPlayerAt playerGuid entries updateEvent schedule
        now).1.temporaryInstanceLocksByPlayer.get guid key =
      if guid = playerGuid ∧ key = entries.key ∧
          (mgr.instanceLocksByPlayer.get playerGuid entries.key).any (·.isActiveAt now) =
            false then
        none
      else mgr.temporaryInstanceLocksByPlayer.get guid key := by
  rw [updateInstanceLockForPlayerAt, hreset, Bool.not_true, if_neg Bool.false_ne_true]
  dsimp only
  rw [temporary_createMissing, temporary_replaceInactive]

theorem update_snd :
    (mgr.updateInstanceLockForPlayerAt playerGuid entries updateEvent schedule now).2 =
      some ((mgr.updatedLock playerGuid now entries updateEvent.instanceId
        schedule).recordUpdate entries updateEvent schedule now) := by
  have hget := mgr.permanent_update playerGuid hreset updateEvent schedule now playerGuid
    entries.key
  rw [if_pos ⟨rfl, rfl⟩] at hget
  rw [← hget, updateInstanceLockForPlayerAt, hreset, Bool.not_true,
    if_neg Bool.false_ne_true]

end Update

end InstanceLockMgr

/-! ## What the update records -/

section Record

variable (lock : InstanceLock) (entries : MapDb2Entries) (updateEvent : InstanceLockUpdateEvent)
  (schedule : ResetSchedule) (now : InstanceResetTime)

theorem mask_recordInstanceMask {data : InstanceLockData} {i : ℕ}
    (h : data.completedEncountersMask.getLsbD i = true) :
    (data.recordInstanceMask entries updateEvent).completedEncountersMask.getLsbD i = true := by
  rw [InstanceLockData.recordInstanceMask]
  split
  · simp [h]
  · exact h

theorem mask_recordUpdate_of_before {i : ℕ}
    (h : lock.data.completedEncountersMask.getLsbD i = true) :
    (lock.recordUpdate entries updateEvent schedule
      now).data.completedEncountersMask.getLsbD i = true := by
  refine mask_recordInstanceMask entries updateEvent ?_
  rw [InstanceLockData.record]
  cases updateEvent.completedEncounterBit with
  | none => exact h
  | some bit => simp [h]

theorem mask_recordUpdate_of_bit {bit : BitVec 8}
    (h : updateEvent.completedEncounterBit = some bit) (hbit : bit < 32) :
    (lock.recordUpdate entries updateEvent schedule
      now).data.completedEncountersMask.getLsbD bit.toNat = true := by
  have hlt : bit.toNat < 32 := hbit
  refine mask_recordInstanceMask entries updateEvent ?_
  simp [InstanceLockData.record, h, Nat.mod_eq_of_lt hlt, hlt]

theorem isExpiredAt_recordUpdate
    (h : lock.isExpiredAt now = false ∨ now ≤ nextResetTimeAt entries schedule now) :
    (lock.recordUpdate entries updateEvent schedule now).isExpiredAt now = false := by
  rw [InstanceLock.isExpiredAt, InstanceLock.recordUpdate, decide_eq_false_iff_not]
  cases hexp : lock.isExpiredAt now with
  | false => simpa [InstanceLock.isExpiredAt] using hexp
  | true =>
    rw [hexp] at h
    exact BitVec.not_lt.mpr (h.resolve_left Bool.noConfusion)

end Record

/-- An update leaves a live lock for the instance of the event, keeps every kill of the lock
that was in force and touches no other lock, as long as the next reset has a timestamp. -/
theorem update_leaves_live_lock (mgr : InstanceLockMgr) (playerGuid : ObjectGuid)
    (entries : MapDb2Entries) (updateEvent : InstanceLockUpdateEvent)
    (schedule : ResetSchedule) (now : InstanceResetTime)
    (hreset : entries.hasResetSchedule = true) (hhour : schedule.hour < 24)
    (hday : schedule.weekDay < 7) (hbit : ∀ bit ∈ updateEvent.completedEncounterBit, bit < 32) :
    let after :=
      (mgr.updateInstanceLockForPlayerAt playerGuid entries updateEvent schedule now).1
    let active := mgr.findActiveInstanceLockAt playerGuid entries now
    ∃ lock,
      (mgr.updateInstanceLockForPlayerAt playerGuid entries updateEvent schedule now).2 =
        some lock ∧
      lock.instanceId = updateEvent.instanceId ∧ lock.isNew = false ∧
      (∀ bit ∈ updateEvent.completedEncounterBit,
        lock.data.completedEncountersMask.getLsbD bit.toNat = true) ∧
      (∀ before ∈ active, ∀ i, before.data.completedEncountersMask.getLsbD i = true →
        lock.data.completedEncountersMask.getLsbD i = true) ∧
      ((∃ before ∈ active, before.isExpiredAt now = false) ∨
          nextResetSeconds entries schedule now < 2 ^ 64 →
        lock.isExpiredAt now = false ∧
          after.findActiveInstanceLockAt playerGuid entries now = some lock) ∧
      ((mgr.instanceLocksByPlayer.get playerGuid entries.key).any (·.isActiveAt now) = false →
        after.temporaryInstanceLocksByPlayer.get playerGuid entries.key = none) ∧
      ∀ guid key, ¬(guid = playerGuid ∧ key = entries.key) →
        after.instanceLocksByPlayer.get guid key = mgr.instanceLocksByPlayer.get guid key ∧
        after.temporaryInstanceLocksByPlayer.get guid key =
          mgr.temporaryInstanceLocksByPlayer.get guid key := by
  intro after active
  have hactive : active = mgr.lockInForce playerGuid entries.key now :=
    InstanceLockMgr.findActiveInstanceLockAt_eq hreset mgr playerGuid now
  have hperm := mgr.permanent_update playerGuid hreset updateEvent schedule now
  have htemp := mgr.temporary_update playerGuid hreset updateEvent schedule now
  let source := mgr.updatedLock playerGuid now entries updateEvent.instanceId schedule
  have hsource : ∀ before ∈ active, source = before := by
    intro before hbefore
    rw [hactive] at hbefore
    exact congrArg (Option.getD · _) hbefore
  refine ⟨source.recordUpdate entries updateEvent schedule now,
    mgr.update_snd playerGuid hreset updateEvent schedule now, rfl, rfl, ?_, ?_, ?_, ?_, ?_⟩
  · exact fun bit h => mask_recordUpdate_of_bit source entries updateEvent schedule now h
      (hbit bit h)
  · intro before hbefore i hi
    rw [← hsource before hbefore] at hi
    exact mask_recordUpdate_of_before source entries updateEvent schedule now hi
  · intro hfits
    have hlive := isExpiredAt_recordUpdate source entries updateEvent schedule now <| by
      rcases hfits with ⟨before, hbefore, hno⟩ | hfits
      · exact .inl (hsource before hbefore ▸ hno)
      · exact .inr (le_nextResetTimeAt hreset hhour hday hfits)
    refine ⟨hlive, ?_⟩
    have hget := hperm playerGuid entries.key
    rw [if_pos ⟨rfl, rfl⟩] at hget
    rw [InstanceLockMgr.findActiveInstanceLockAt_eq hreset]
    exact InstanceLockMgr.lockInForce_of_unexpired hget hlive
  · intro hno
    rw [htemp, if_pos ⟨rfl, rfl, hno⟩]
  · intro guid key hne
    rw [hperm, htemp, if_neg hne, if_neg fun h => hne ⟨h.1, h.2.1⟩]
    exact ⟨rfl, rfl⟩

/-- A daily raid whose first boss is the bit 0 of the mask. -/
def sampleEntries : MapDb2Entries := ⟨631, 3, 4, .daily, 10, false, false⟩

def sampleEvent : InstanceLockUpdateEvent := ⟨9001, "", 0, some 0, none⟩

theorem update_leaves_live_lock_sample :
    ∃ lock,
      (InstanceLockMgr.default.updateInstanceLockForPlayerAt (ObjectGuid.createPlayer 1 7)
        sampleEntries sampleEvent ⟨8, 2⟩ 1000).2 = some lock ∧
      lock.isExpiredAt 1000 = false := by
  have hlive := update_leaves_live_lock InstanceLockMgr.default (ObjectGuid.createPlayer 1 7)
    sampleEntries sampleEvent ⟨8, 2⟩ 1000 (by decide) (by decide) (by decide) (by decide)
  obtain ⟨lock, hlock, -, -, -, -, hlive, -⟩ := hlive
  exact ⟨lock, hlock, (hlive (.inr (by decide))).1⟩

/-- In the last day that a timestamp can name, the next reset wraps around. -/
theorem update_leaves_expired_lock :
    ¬∀ (mgr : InstanceLockMgr) (playerGuid : ObjectGuid) (entries : MapDb2Entries)
      (updateEvent : InstanceLockUpdateEvent) (schedule : ResetSchedule)
      (now : InstanceResetTime), entries.hasResetSchedule = true → schedule.hour < 24 →
      schedule.weekDay < 7 → (∀ bit ∈ updateEvent.completedEncounterBit, bit < 32) →
      ∃ lock,
        (mgr.updateInstanceLockForPlayerAt playerGuid entries updateEvent schedule now).2 =
          some lock ∧ lock.isExpiredAt now = false := by
  intro h
  obtain ⟨lock, hlock, hlive⟩ := h InstanceLockMgr.default (ObjectGuid.createPlayer 1 7)
    sampleEntries sampleEvent ⟨8, 2⟩ (BitVec.allOnes 64) (by decide) (by decide) (by decide)
    (by decide)
  have hexp : ((InstanceLockMgr.default.updateInstanceLockForPlayerAt
      (ObjectGuid.createPlayer 1 7) sampleEntries sampleEvent ⟨8, 2⟩
      (BitVec.allOnes 64)).2.all fun lock => lock.isExpiredAt (BitVec.allOnes 64)) = true := by
    decide
  rw [hlock, Option.all_some, hlive] at hexp
  cases hexp

end RustyCore.Instances
