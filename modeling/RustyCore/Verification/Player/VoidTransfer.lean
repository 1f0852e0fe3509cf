import RustyCore.Model.Player.VoidTransfer

/-! # Void storage follows its table

The slots that the planning reserves are the ones that the publication finds free, one
after the other. -/

namespace RustyCore.Player

variable {s : VoidStorage}
variable {slot : ℕ} {item : VoidStorageItem}

/-! ## Slots -/

namespace VoidStorage

variable (s : VoidStorage)
variable {slot : ℕ}

theorem itemAt_set (hslot : slot < voidStorageMaxSlots) (item : Option VoidStorageItem)
    (slot' : ℕ) :
    (s.set slot item).itemAt slot' = if slot' = slot then item else s.itemAt slot' := by
  have hlength : slot < s.items.length := s.length_eq ▸ hslot
  rw [itemAt, set, List.getElem?_set]
  by_cases h : slot = slot'
  · subst h
    simp [hlength]
  · simp [h, Ne.symm h, itemAt]

theorem itemAt_of_le (h : voidStorageMaxSlots ≤ slot) : s.itemAt slot = none := by
  rw [itemAt, List.getElem?_eq_none (s.length_eq ▸ h)]
  rfl

theorem itemAt_eq_none_iff (h : slot < s.items.length) :
    s.itemAt slot = none ↔ s.items[slot].isNone = true := by
  rw [itemAt, List.getElem?_eq_getElem h]
  simp

theorem nextFreeSlot_eq_some (hslot : slot < voidStorageMaxSlots) (hfree : s.itemAt slot = none)
    (hbefore : ∀ j < slot, s.itemAt j ≠ none) : s.nextFreeSlot = some slot := by
  have hlength : slot < s.items.length := s.length_eq ▸ hslot
  refine List.findIdx?_eq_some_iff_getElem.mpr ⟨hlength, ?_, fun j hj => ?_⟩
  · exact (s.itemAt_eq_none_iff hlength).mp hfree
  · exact fun hnone => hbefore j hj ((s.itemAt_eq_none_iff (hj.trans hlength)).mpr hnone)

theorem itemAt_of_itemById {itemId : ℕ} (h : s.itemById itemId = some (slot, item)) :
    s.itemAt slot = some item := by
  obtain ⟨⟨entry, slot'⟩, hmem, hentry⟩ := List.exists_of_findSome?_eq_some h
  cases entry with
  | none => cases hentry
  | some item' =>
    dsimp only [Option.bind_some] at hentry
    split at hentry
    · cases hentry
      rw [itemAt, List.mk_mem_zipIdx_iff_getElem?.mp hmem]
      rfl
    · cases hentry

theorem itemAt_delete (slot slot' : ℕ) :
    (s.delete slot).1.itemAt slot' = if slot' = slot then none else s.itemAt slot' := by
  by_cases hslot : slot < voidStorageMaxSlots
  · exact s.itemAt_set hslot none slot'
  · have hset : (s.delete slot).1.items = s.items :=
      List.set_eq_of_length_le (by rw [s.length_eq]; exact Nat.le_of_not_lt hslot)
    rw [itemAt, hset]
    split
    case isTrue h =>
      subst h
      exact s.itemAt_of_le (Nat.le_of_not_lt hslot)
    case isFalse => rfl

end VoidStorage

/-! ## The table -/

/-- Every slot has the row of its item and no other. -/
def Persisted (playerGuid : BitVec 64) (s : VoidStorage) (rows : RowTable VoidStorageRow) : Prop :=
  ∀ slot, RowTable.rowsAt VoidStorageRow.key (playerGuid, slot) rows =
    ((s.itemAt slot).map fun item => ⟨playerGuid, slot, item.write⟩).toList

section Persisted

variable {playerGuid : BitVec 64} {s : VoidStorage} {rows : RowTable VoidStorageRow}
variable {nextId : ℕ}
variable {row : VoidStorageRow}

/-- No row has an id that is still to be generated. -/
def IdsBelow (nextId : ℕ) (rows : RowTable VoidStorageRow) : Prop :=
  ∀ row ∈ rows, row.item.itemId < nextId

theorem rowsAt_replaceRow (hids : IdsBelow nextId rows) (hrow : nextId ≤ row.item.itemId)
    (key : BitVec 64 × ℕ) :
    RowTable.rowsAt VoidStorageRow.key key (replaceRow rows row) =
      if key = row.key then [row] else RowTable.rowsAt VoidStorageRow.key key rows := by
  have hkept : RowTable.deleteAt (fun row : VoidStorageRow => row.item.itemId) row.item.itemId rows =
      rows := by
    refine List.filter_eq_self.mpr fun row' hrow' => ?_
    exact decide_eq_true (Nat.ne_of_lt ((hids row' hrow').trans_le hrow))
  rw [replaceRow, hkept, RowTable.rowsAt_insertRow, RowTable.rowsAt_deleteAt]
  by_cases h : key = row.key
  · simp [h]
  · simp [h, Ne.symm h]

theorem IdsBelow.replaceRow (hids : IdsBelow nextId rows) (hrow : nextId ≤ row.item.itemId) :
    IdsBelow (row.item.itemId + 1) (replaceRow rows row) := by
  intro row' hrow'
  rcases List.mem_append.mp hrow' with hrow' | hrow'
  · have hmem := (List.mem_filter.mp (List.mem_filter.mp hrow').1).1
    have hlt := hids row' hmem
    omega
  · rw [List.mem_singleton.mp hrow']
    exact Nat.lt_succ_self _

theorem Persisted.add (h : Persisted playerGuid s rows) (hids : IdsBelow nextId rows)
    (hslot : slot < voidStorageMaxSlots) (hfree : s.nextFreeSlot = some slot)
    (hitem : nextId ≤ item.itemId) :
    Persisted playerGuid (s.add item).1 (replaceRow rows ⟨playerGuid, slot, item.write⟩) := by
  intro slot'
  rw [rowsAt_replaceRow hids hitem, VoidStorage.add, hfree]
  dsimp only
  rw [s.itemAt_set hslot]
  by_cases hslot' : slot' = slot
  · subst hslot'
    rw [if_pos rfl]
    exact if_pos rfl
  · rw [if_neg hslot', ← h slot']
    exact if_neg fun hkey => hslot' (congrArg Prod.snd hkey)

theorem Persisted.delete (h : Persisted playerGuid s rows) (slot : ℕ) :
    Persisted playerGuid (s.delete slot).1 (deleteRow rows playerGuid slot) := by
  intro slot'
  rw [deleteRow, RowTable.rowsAt_deleteAt, s.itemAt_delete]
  by_cases hslot : slot' = slot
  · simp [hslot]
  · rw [if_neg hslot, if_neg (fun hkey => hslot (Prod.mk.inj hkey).2)]
    exact h slot'

end Persisted

/-! ## Deposits -/

def addDeposits (s : VoidStorage) (deposits : List PlannedVoidDeposit) : VoidStorage :=
  deposits.foldl (fun s deposit => (s.add deposit.voidItem).1) s

def storeDeposits (playerGuid : BitVec 64) (rows : RowTable VoidStorageRow)
    (deposits : List PlannedVoidDeposit) : RowTable VoidStorageRow :=
  deposits.foldl
    (fun rows deposit => replaceRow rows ⟨playerGuid, deposit.voidSlot, deposit.voidItem.write⟩) rows

theorem addDeposits_concat (s : VoidStorage) (deposits : List PlannedVoidDeposit)
    (deposit : PlannedVoidDeposit) :
    addDeposits s (deposits ++ [deposit]) = ((addDeposits s deposits).add deposit.voidItem).1 :=
  List.foldl_concat _ _ _ _

theorem storeDeposits_concat (playerGuid : BitVec 64) (rows : RowTable VoidStorageRow)
    (deposits : List PlannedVoidDeposit) (deposit : PlannedVoidDeposit) :
    storeDeposits playerGuid rows (deposits ++ [deposit]) =
      replaceRow (storeDeposits playerGuid rows deposits)
        ⟨playerGuid, deposit.voidSlot, deposit.voidItem.write⟩ :=
  List.foldl_concat _ _ _ _

theorem freeVoidSlot_eq_some {reservedSlots : List ℕ}
    (h : freeVoidSlot s reservedSlots = some slot) :
    slot < voidStorageMaxSlots ∧ s.itemAt slot = none ∧ slot ∉ reservedSlots ∧
      ∀ j < slot, s.itemAt j = none → j ∈ reservedSlots := by
  obtain ⟨hfree, hmem, hbefore⟩ := List.find?_range_eq_some.mp h
  have hfree : s.itemAt slot = none ∧ slot ∉ reservedSlots := by simpa using hfree
  refine ⟨List.mem_range.mp hmem, hfree.1, hfree.2, fun j hj hnone => ?_⟩
  have hj := hbefore j hj
  simpa [hnone] using hj

section Planned

variable (playerGuid : BitVec 64) (s : VoidStorage) (rows : RowTable VoidStorageRow)

/-- The planning against the storage as it was runs along with the publication. -/
structure Planned (plan : DepositPlan) : Prop where
  reserved : plan.reservedSlots = plan.deposits.map (·.voidSlot)
  free : ∀ slot ∈ plan.reservedSlots, s.itemAt slot = none
  placed : ∀ deposit ∈ plan.deposits,
    (addDeposits s plan.deposits).itemAt deposit.voidSlot = some deposit.voidItem
  kept : ∀ slot ∉ plan.reservedSlots, (addDeposits s plan.deposits).itemAt slot = s.itemAt slot
  ids : IdsBelow plan.nextId (storeDeposits playerGuid rows plan.deposits)
  persisted : Persisted playerGuid (addDeposits s plan.deposits)
    (storeDeposits playerGuid rows plan.deposits)

variable {playerGuid s rows} {plan : DepositPlan}

theorem Planned.nextFreeSlot (h : Planned playerGuid s rows plan)
    (hslot : freeVoidSlot s plan.reservedSlots = some slot) :
    (addDeposits s plan.deposits).nextFreeSlot = some slot := by
  obtain ⟨hrange, hfree, hreserved, hbefore⟩ := freeVoidSlot_eq_some hslot
  refine VoidStorage.nextFreeSlot_eq_some _ hrange ?_ fun j hj hnone => ?_
  · rw [h.kept slot hreserved]
    exact hfree
  · by_cases hmem : j ∈ plan.reservedSlots
    · have hplanned := hmem
      rw [h.reserved] at hplanned
      obtain ⟨deposit, hdeposit, rfl⟩ := List.mem_map.mp hplanned
      rw [h.placed deposit hdeposit] at hnone
      cases hnone
    · rw [h.kept j hmem] at hnone
      exact hmem (hbefore j hj hnone)

theorem Planned.concat (h : Planned playerGuid s rows plan) {deposit : PlannedVoidDeposit}
    (hslot : freeVoidSlot s plan.reservedSlots = some deposit.voidSlot)
    (hitem : plan.nextId ≤ deposit.voidItem.itemId) {plan' : DepositPlan}
    (hnext : plan'.nextId = deposit.voidItem.itemId + 1)
    (hreserved : plan'.reservedSlots = plan.reservedSlots ++ [deposit.voidSlot])
    (hdeposits : plan'.deposits = plan.deposits ++ [deposit]) :
    Planned playerGuid s rows plan' := by
  obtain ⟨hrange, hfree, hnew, -⟩ := freeVoidSlot_eq_some hslot
  have hnextFree := h.nextFreeSlot hslot
  have hadd : ∀ slot', (addDeposits s plan'.deposits).itemAt slot' =
      if slot' = deposit.voidSlot then some deposit.voidItem
      else (addDeposits s plan.deposits).itemAt slot' := by
    intro slot'
    rw [hdeposits, addDeposits_concat, VoidStorage.add, hnextFree]
    exact VoidStorage.itemAt_set _ hrange _ slot'
  refine ⟨?_, fun slot' hslot' => ?_, fun deposit' hdeposit' => ?_, fun slot' hslot' => ?_, ?_, ?_⟩
  · rw [hreserved, hdeposits, h.reserved, List.map_append, List.map_singleton]
  · rw [hreserved, List.mem_append, List.mem_singleton] at hslot'
    rcases hslot' with hslot' | rfl
    · exact h.free slot' hslot'
    · exact hfree
  · rw [hadd]
    rw [hdeposits, List.mem_append, List.mem_singleton] at hdeposit'
    rcases hdeposit' with hdeposit' | rfl
    · have hne : deposit'.voidSlot ≠ deposit.voidSlot := by
        intro heq
        rw [h.reserved, ← heq] at hnew
        exact hnew (List.mem_map_of_mem hdeposit')
      rw [if_neg hne]
      exact h.placed deposit' hdeposit'
    · rw [if_pos rfl]
  · rw [hreserved, List.mem_append, List.mem_singleton, not_or] at hslot'
    rw [hadd, if_neg hslot'.2]
    exact h.kept slot' hslot'.1
  · rw [hnext, hdeposits, storeDeposits_concat]
    exact h.ids.replaceRow hitem
  · rw [hdeposits, addDeposits_concat, storeDeposits_concat]
    exact h.persisted.add h.ids hrange hnextFree hitem

end Planned

/-! ## Loops -/

section Loops

variable {session : TransferSession} {s : VoidStorage} {taken : ObjectGuid → ℕ}
variable {plan plan' : DepositPlan}
variable {guid : ObjectGuid} {guids : List ObjectGuid}

/-- A deposit is skipped, or its slot is reserved and its item planned: the enchantments are
unavailable only where the item object is, and that is checked before the reservation. -/
theorem planDeposit_ok (h : planDeposit session s taken plan guid = .ok plan') :
    (plan'.nextId = plan.nextId ∧ plan'.reservedSlots = plan.reservedSlots ∧
        plan'.deposits = plan.deposits) ∨
      ∃ deposit : PlannedVoidDeposit,
        freeVoidSlot s plan.reservedSlots = some deposit.voidSlot ∧
        plan.nextId ≤ deposit.voidItem.itemId ∧
        plan'.nextId = deposit.voidItem.itemId + 1 ∧
        plan'.reservedSlots = plan.reservedSlots ++ [deposit.voidSlot] ∧
        plan'.deposits = plan.deposits ++ [deposit] := by
  unfold planDeposit at h
  dsimp only at h
  split at h
  · cases h
    exact .inl ⟨rfl, rfl, rfl⟩
  split at h
  · cases h
    exact .inl ⟨rfl, rfl, rfl⟩
  next bag slot inventoryItem _ =>
  split at h
  · cases h
    exact .inl ⟨rfl, rfl, rfl⟩
  next runtimeItem hobject =>
  split at h
  · cases h
  next voidItemId nextId hid =>
  split at h
  · cases h
  next voidSlot hslot =>
  rw [TransferSession.removeEnchantmentPersistence, hobject] at h
  dsimp only [Option.map_some] at h
  split at h
  · cases h
  next destroyedItems _ =>
  cases h
  rw [generateItemId] at hid
  split at hid
  · cases hid
    exact .inr ⟨_, hslot, Nat.le_add_right _ _, rfl, rfl, rfl⟩
  · cases hid

variable {playerGuid : BitVec 64} {rows : RowTable VoidStorageRow}

theorem Planned.planDeposit (hplan : Planned playerGuid s rows plan)
    (h : planDeposit session s taken plan guid = .ok plan') : Planned playerGuid s rows plan' := by
  rcases planDeposit_ok h with ⟨hnext, hreserved, hdeposits⟩ | ⟨deposit, hslot, hitem, hplan'⟩
  · refine ⟨?_, ?_, ?_, ?_, ?_, ?_⟩
    · rw [hreserved, hdeposits]
      exact hplan.reserved
    · rw [hreserved]
      exact hplan.free
    · rw [hdeposits]
      exact hplan.placed
    · rw [hreserved, hdeposits]
      exact hplan.kept
    · rw [hnext, hdeposits]
      exact hplan.ids
    · rw [hdeposits]
      exact hplan.persisted
  · exact hplan.concat hslot hitem hplan'.1 hplan'.2.1 hplan'.2.2

theorem Planned.planDeposits (hplan : Planned playerGuid s rows plan)
    (h : planDeposits session s taken plan guids = .ok plan') :
    Planned playerGuid s rows plan' := by
  induction guids generalizing plan with
  | nil =>
    cases h
    exact hplan
  | cons guid guids ih =>
    rw [RustyCore.Player.planDeposits] at h
    split at h
    · cases h
    next next hnext => exact ih (hplan.planDeposit hnext) h

theorem itemAt_of_planWithdrawals {deposits : List PlannedVoidDeposit} {usedIds : List ℕ}
    {withdrawals withdrawals' : List PlannedVoidWithdrawal}
    (hstored : ∀ withdrawal ∈ withdrawals,
      s.itemAt withdrawal.oldVoidSlot = some withdrawal.voidItem)
    (h : planWithdrawals session s deposits usedIds withdrawals guids = .ok withdrawals') :
    ∀ withdrawal ∈ withdrawals', s.itemAt withdrawal.oldVoidSlot = some withdrawal.voidItem := by
  induction guids generalizing usedIds withdrawals with
  | nil =>
    cases h
    exact hstored
  | cons guid guids ih =>
    unfold planWithdrawals at h
    dsimp only at h
    split at h
    · exact ih hstored h
    split at h
    · exact ih hstored h
    next oldVoidSlot voidItem hitem =>
    split at h
    · cases h
    refine ih (fun withdrawal hmem => ?_) h
    rcases List.mem_append.mp hmem with hmem | hmem
    · exact hstored withdrawal hmem
    · rw [List.mem_singleton.mp hmem]
      exact s.itemAt_of_itemById hitem

end Loops

/-! ## Withdrawals -/

section Withdrawals

variable {playerGuid : BitVec 64} {withdrawals : List PlannedVoidWithdrawal}

theorem Persisted.withdraw {rows : RowTable VoidStorageRow} (h : Persisted playerGuid s rows) :
    Persisted playerGuid
      (withdrawals.foldl (fun s withdrawal => (s.delete withdrawal.oldVoidSlot).1) s)
      (withdrawals.foldl
        (fun rows withdrawal => deleteRow rows playerGuid withdrawal.oldVoidSlot) rows) := by
  induction withdrawals generalizing s rows with
  | nil => exact h
  | cons withdrawal withdrawals ih => exact ih (h.delete withdrawal.oldVoidSlot)

theorem itemAt_withdraw (s : VoidStorage) (slot : ℕ) :
    (withdrawals.foldl (fun s withdrawal => (s.delete withdrawal.oldVoidSlot).1) s).itemAt slot =
      if slot ∈ withdrawals.map (·.oldVoidSlot) then none else s.itemAt slot := by
  induction withdrawals generalizing s with
  | nil => rfl
  | cons withdrawal withdrawals ih =>
    rw [List.foldl_cons, ih, s.itemAt_delete]
    by_cases hslot : slot = withdrawal.oldVoidSlot <;>
      by_cases hmem : slot ∈ withdrawals.map (·.oldVoidSlot) <;> simp_all

end Withdrawals

/-! ## Transfers -/

theorem planTransfer_ok {session : TransferSession} {nextId : ℕ} {taken : ObjectGuid → ℕ}
    {transfer : VoidStorageTransfer} {plan : TransferPlan}
    (h : planTransfer session s nextId taken transfer = .ok plan) :
    ∃ depositPlan,
      planDeposits session s taken ⟨nextId, [], [], [], []⟩ transfer.deposits = .ok depositPlan ∧
      plan.deposits = depositPlan.deposits ∧
      planWithdrawals session s plan.deposits [] [] transfer.withdrawals = .ok plan.withdrawals := by
  unfold planTransfer at h
  split at h
  · cases h
  split at h
  · cases h
  split at h
  · cases h
  split at h
  · cases h
  split at h
  · cases h
  next depositPlan hdeposits =>
  split at h
  · cases h
  next withdrawals hwithdrawals =>
  cases h
  exact ⟨depositPlan, hdeposits, rfl, hwithdrawals⟩

/-- After a transfer the table holds the storage, slot by slot; the withdrawn slots are empty
in both and the announced slots hold the announced items in both. -/
theorem transfer_persisted {session : TransferSession} {s : VoidStorage} {nextId : ℕ}
    {taken : ObjectGuid → ℕ} {transfer : VoidStorageTransfer} {plan : TransferPlan}
    {playerGuid : BitVec 64} {rows : RowTable VoidStorageRow}
    (hstored : Persisted playerGuid s rows) (hids : IdsBelow nextId rows)
    (hplan : planTransfer session s nextId taken transfer = .ok plan) :
    Persisted playerGuid (plan.publish s) (plan.persist playerGuid rows) ∧
      (∀ withdrawal ∈ plan.withdrawals,
        (plan.publish s).itemAt withdrawal.oldVoidSlot = none ∧
        RowTable.rowsAt VoidStorageRow.key (playerGuid, withdrawal.oldVoidSlot)
          (plan.persist playerGuid rows) = []) ∧
      ∀ added ∈ plan.addedItems,
        (plan.publish s).itemAt added.1 = some added.2 ∧
        RowTable.rowsAt VoidStorageRow.key (playerGuid, added.1) (plan.persist playerGuid rows) =
          [⟨playerGuid, added.1, added.2.write⟩] := by
  obtain ⟨depositPlan, hdeposits, heq, hwithdrawals⟩ := planTransfer_ok hplan
  have hstart : Planned playerGuid s rows ⟨nextId, [], [], [], []⟩ :=
    ⟨rfl, by simp, by simp, fun _ _ => rfl, hids, hstored⟩
  have hplanned := hstart.planDeposits hdeposits
  have hpersisted : Persisted playerGuid (plan.publish s) (plan.persist playerGuid rows) := by
    have h := hplanned.persisted
    rw [← heq] at h
    exact h.withdraw
  have hslots : ∀ slot, (plan.publish s).itemAt slot =
      if slot ∈ plan.withdrawals.map (·.oldVoidSlot) then none
      else (addDeposits s plan.deposits).itemAt slot := itemAt_withdraw _
  have hold := itemAt_of_planWithdrawals (by simp) hwithdrawals
  refine ⟨hpersisted, fun withdrawal hmem => ?_, fun added hadded => ?_⟩
  · have hnone : (plan.publish s).itemAt withdrawal.oldVoidSlot = none := by
      rw [hslots, if_pos (List.mem_map_of_mem hmem)]
    refine ⟨hnone, ?_⟩
    rw [hpersisted, hnone]
    rfl
  · obtain ⟨deposit, hdeposit, rfl⟩ := List.mem_map.mp hadded
    rw [heq] at hdeposit
    -- A withdrawn slot held an item when the deposit was planned.
    have hfree : s.itemAt deposit.voidSlot = none := by
      refine hplanned.free _ ?_
      rw [hplanned.reserved]
      exact List.mem_map_of_mem hdeposit
    have hnot : deposit.voidSlot ∉ plan.withdrawals.map (·.oldVoidSlot) := by
      intro hmem
      obtain ⟨withdrawal, hwithdrawal, hslot⟩ := List.mem_map.mp hmem
      have hsome := hold withdrawal hwithdrawal
      rw [hslot, hfree] at hsome
      cases hsome
    have hsome : (plan.publish s).itemAt deposit.voidSlot = some deposit.voidItem := by
      rw [hslots, if_neg hnot, heq]
      exact hplanned.placed deposit hdeposit
    refine ⟨hsome, ?_⟩
    rw [hpersisted, hsome]
    rfl

/-- The player has one item in a bag, which is worth the item id 9 of the storage. -/
def sampleSession : TransferSession where
  unlocked := true
  loaded := true
  canInteract := true
  emptyPositions := 1
  money := 2 * voidStorageStoreItemCost
  inventoryItemByGuid guid := if guid = ⟨0, 5⟩ then some (19, 2, ⟨⟨0, 5⟩, 2092, 5⟩) else none
  itemObject guid := if guid = ⟨0, 5⟩ then some ⟨2092, .empty, 0, 0, 0, 0⟩ else none
  clearedEnchantments _ _ := []
  descendants _ := some []
  store _ _ _ := none

def sampleVoidItem (itemId : ℕ) : VoidStorageItem := ⟨itemId, 2092, .empty, 0, 0, 0, 0⟩

def sampleTransferPlan : TransferPlan where
  deposits := [⟨[⟨19, 2, ⟨⟨0, 5⟩, 2092, 5⟩, []⟩], sampleVoidItem 9, 1⟩]
  withdrawals := [⟨0, sampleVoidItem 8⟩]

/-- The item 8 is withdrawn from the first slot, and another one is deposited next to it. -/
theorem transfer_persisted_sample :
    Persisted 1 (sampleTransferPlan.publish (VoidStorage.empty.add (sampleVoidItem 8)).1)
        (sampleTransferPlan.persist 1 [⟨1, 0, (sampleVoidItem 8).write⟩]) ∧
      (sampleTransferPlan.publish (VoidStorage.empty.add (sampleVoidItem 8)).1).itemAt 0 = none ∧
      (sampleTransferPlan.publish (VoidStorage.empty.add (sampleVoidItem 8)).1).itemAt 1 =
        some (sampleVoidItem 9) := by
  have hempty : Persisted 1 VoidStorage.empty [] := by
    intro slot
    rw [VoidStorage.itemAt, VoidStorage.empty, List.getElem?_replicate]
    split <;> rfl
  have hstored : Persisted 1 (VoidStorage.empty.add (sampleVoidItem 8)).1
      [⟨1, 0, (sampleVoidItem 8).write⟩] :=
    hempty.add (by simp [IdsBelow]) (by decide)
      (VoidStorage.nextFreeSlot_eq_some _ (by decide) rfl (by simp)) (Nat.le_refl 8)
  have hids : IdsBelow 9 [⟨1, 0, (sampleVoidItem 8).write⟩] := by
    simp [IdsBelow, sampleVoidItem, VoidStorageItem.write]
  have hplan : planTransfer sampleSession (VoidStorage.empty.add (sampleVoidItem 8)).1 9
      (fun _ => 0) ⟨[⟨0, 5⟩, ⟨0, 5⟩], [⟨0, 8⟩]⟩ = .ok sampleTransferPlan := by
    decide +kernel
  have h := transfer_persisted hstored hids hplan
  exact ⟨h.1, (h.2.1 ⟨0, sampleVoidItem 8⟩ (by simp [sampleTransferPlan])).1,
    (h.2.2 (1, sampleVoidItem 9) (by simp [sampleTransferPlan, TransferPlan.addedItems])).1⟩

end RustyCore.Player
