import RustyCore.Library.KeyedTable
import RustyCore.Model.Player.Items

/-! # Void storage

The fixed slots of a player's void storage, and the rows of `character_void_storage`. -/

namespace RustyCore.Player

/-- `PLAYER_VOID_STORAGE_MAX_SLOTS`, and `VOID_STORAGE_MAX_SLOT` of the packets. -/
abbrev voidStorageMaxSlots : ℕ := 160

structure VoidStorageItem where
  itemId : ℕ
  itemEntry : ℕ
  creatorGuid : ObjectGuid
  fixedScalingLevel : ℕ
  randomPropertiesId : ℤ
  randomPropertiesSeed : ℤ
  context : ℕ
deriving DecidableEq

/-- The slots, normalized to their number. -/
structure VoidStorage where
  items : List (Option VoidStorageItem)
  length_eq : items.length = voidStorageMaxSlots
deriving DecidableEq

namespace VoidStorage

def empty : VoidStorage := ⟨List.replicate voidStorageMaxSlots none, List.length_replicate⟩

def itemAt (s : VoidStorage) (slot : ℕ) : Option VoidStorageItem := s.items[slot]?.join

def freeSlots (s : VoidStorage) : ℕ := s.items.countP Option.isNone

def nextFreeSlot (s : VoidStorage) : Option ℕ := s.items.findIdx? Option.isNone

def itemById (s : VoidStorage) (itemId : ℕ) : Option (ℕ × VoidStorageItem) :=
  s.items.zipIdx.findSome? fun entry =>
    entry.1.bind fun item => if item.itemId = itemId then some (entry.2, item) else none

def set (s : VoidStorage) (slot : ℕ) (item : Option VoidStorageItem) : VoidStorage :=
  ⟨s.items.set slot item, by rw [List.length_set, s.length_eq]⟩

/-- `add_void_storage_item`; returns the allocated slot. -/
def add (s : VoidStorage) (item : VoidStorageItem) : VoidStorage × Option ℕ :=
  match s.nextFreeSlot with
  | none => (s, none)
  | some slot => (s.set slot (some item), some slot)

/-- `delete_void_storage_item`; returns the removed item. -/
def delete (s : VoidStorage) (slot : ℕ) : VoidStorage × Option VoidStorageItem :=
  (s.set slot none, s.itemAt slot)

end VoidStorage

/-! ## The table -/

structure VoidStorageItemWrite where
  itemId : ℕ
  itemEntry : ℕ
  creatorGuid : BitVec 64
  fixedScalingLevel : ℕ
  randomPropertiesId : ℤ
  randomPropertiesSeed : ℤ
  context : ℕ
deriving DecidableEq

def VoidStorageItem.write (item : VoidStorageItem) : VoidStorageItemWrite where
  itemId := item.itemId
  itemEntry := item.itemEntry
  creatorGuid := item.creatorGuid.counter
  fixedScalingLevel := item.fixedScalingLevel
  randomPropertiesId := item.randomPropertiesId
  randomPropertiesSeed := item.randomPropertiesSeed
  context := item.context

/-- A row of `character_void_storage`. -/
structure VoidStorageRow where
  playerGuid : BitVec 64
  slot : ℕ
  item : VoidStorageItemWrite
deriving DecidableEq

def VoidStorageRow.key (row : VoidStorageRow) : BitVec 64 × ℕ := (row.playerGuid, row.slot)

/-- `REPLACE`: the rows with the slot or with the item id go. -/
def replaceRow (rows : RowTable VoidStorageRow) (row : VoidStorageRow) : RowTable VoidStorageRow :=
  RowTable.insertRow (RowTable.deleteAt VoidStorageRow.key row.key
    (RowTable.deleteAt (fun row => row.item.itemId) row.item.itemId rows)) row

/-- `DELETE .. WHERE slot = ? AND playerGuid = ?`. -/
def deleteRow (rows : RowTable VoidStorageRow) (playerGuid : BitVec 64) (slot : ℕ) :
    RowTable VoidStorageRow :=
  RowTable.deleteAt VoidStorageRow.key (playerGuid, slot) rows

end RustyCore.Player

/-! ## Void storage transfers

`handle_void_storage_transfer`: deposits and withdrawals are planned against the storage as
it is, written in one transaction, and then published. -/

namespace RustyCore.Player

inductive VoidTransferError where
  | noError
  | internalError1
  | full
  | notEnoughMoney
  | inventoryFull
deriving DecidableEq

/-- Why a transfer is not planned; an `abort` ends the process. -/
inductive TransferRefusal where
  | silent
  | result (error : VoidTransferError)
  | abort
deriving DecidableEq

structure InventoryItem where
  guid : ObjectGuid
  entryId : ℕ
  dbGuid : ℕ
deriving DecidableEq

/-- What the planning reads of an item object. -/
structure RuntimeItem where
  entry : ℕ
  creator : ObjectGuid
  timewalkerLevel : ℕ
  randomPropertiesId : ℤ
  propertySeed : ℤ
  context : ℤ
deriving DecidableEq

structure PlannedVoidDestroyedItem where
  bag : ℕ
  slot : ℕ
  inventoryItem : InventoryItem
  clearedMainhandEnchantments : List ℕ
deriving DecidableEq

structure PlannedVoidDeposit where
  destroyedItems : List PlannedVoidDestroyedItem
  voidItem : VoidStorageItem
  voidSlot : ℕ
deriving DecidableEq

structure PlannedVoidWithdrawal where
  oldVoidSlot : ℕ
  voidItem : VoidStorageItem
deriving DecidableEq

/-- What the session knows of the inventory while it plans. -/
structure TransferSession where
  unlocked : Bool
  loaded : Bool
  canInteract : Bool
  emptyPositions : ℕ
  money : ℕ
  inventoryItemByGuid : ObjectGuid → Option (ℕ × ℕ × InventoryItem)
  itemObject : ObjectGuid → Option RuntimeItem
  /-- The enchantments of an item that only a main hand keeps. -/
  clearedEnchantments : RuntimeItem → Bool → List ℕ
  /-- The items in a bag, the inner ones first. -/
  descendants : ObjectGuid → Option (List (ℕ × ℕ × InventoryItem))
  /-- Whether the inventory takes a withdrawn item after the ones planned before. -/
  store : List PlannedVoidDeposit → List PlannedVoidWithdrawal → VoidStorageItem →
    Option VoidTransferError

namespace TransferSession

/-- `inventory_remove_enchantment_persistence`; it needs the item object and no more. -/
def removeEnchantmentPersistence (session : TransferSession) (guid : ObjectGuid)
    (clearMainhandOnly : Bool) : Option (List ℕ) :=
  (session.itemObject guid).map fun item => session.clearedEnchantments item clearMainhandOnly

def planDestroyedItems (session : TransferSession) (bag slot : ℕ) (item : InventoryItem)
    (cleared : List ℕ) : Option (List PlannedVoidDestroyedItem) :=
  (session.descendants item.guid).map fun items =>
    items.map (fun (bag, slot, item) => ⟨bag, slot, item, []⟩) ++ [⟨bag, slot, item, cleared⟩]

end TransferSession

def equipmentSlotMainhand : ℕ := 15

def voidStorageStoreItemCost : ℕ := 10 * 10000

def voidStorageItemIdLimit : ℕ := 0x10000000000

/-- `VoidStorageItemIdGenerator::generate` after `taken` ids went to other sessions; at the
limit the process aborts. -/
def generateItemId (nextId taken : ℕ) : Option (ℕ × ℕ) :=
  if nextId + taken < voidStorageItemIdLimit then some (nextId + taken, nextId + taken + 1)
  else none

/-! ## Planning -/

/-- What the loop over the deposits has so far. -/
structure DepositPlan where
  nextId : ℕ
  usedGuids : List ObjectGuid
  destroyedGuids : List ObjectGuid
  reservedSlots : List ℕ
  deposits : List PlannedVoidDeposit

def freeVoidSlot (storage : VoidStorage) (reservedSlots : List ℕ) : Option ℕ :=
  (List.range voidStorageMaxSlots).find? fun slot =>
    (storage.itemAt slot).isNone && !reservedSlots.contains slot

def voidItemOf (itemId : ℕ) (item : RuntimeItem) : VoidStorageItem where
  itemId := itemId
  itemEntry := item.entry
  creatorGuid := item.creator
  fixedScalingLevel := item.timewalkerLevel
  randomPropertiesId := item.randomPropertiesId
  randomPropertiesSeed := item.propertySeed
  context := if 0 ≤ item.context ∧ item.context < 256 then item.context.toNat else 0

/-- One deposit of the request; `taken` counts the ids that other sessions take before. -/
def planDeposit (session : TransferSession) (storage : VoidStorage) (taken : ObjectGuid → ℕ)
    (plan : DepositPlan) (guid : ObjectGuid) : Except TransferRefusal DepositPlan :=
  let used := plan.usedGuids.contains guid
  let plan := { plan with usedGuids := guid :: plan.usedGuids }
  if used || plan.destroyedGuids.contains guid then .ok plan
  else
    match session.inventoryItemByGuid guid with
    | none => .ok plan
    | some (bag, slot, inventoryItem) =>
      match session.itemObject inventoryItem.guid with
      | none => .ok plan
      | some runtimeItem =>
        match generateItemId plan.nextId (taken guid) with
        | none => .error .abort
        | some (voidItemId, nextId) =>
          match freeVoidSlot storage plan.reservedSlots with
          | none => .error (.result .full)
          | some voidSlot =>
            let plan := { plan with
              nextId, reservedSlots := plan.reservedSlots ++ [voidSlot] }
            match session.removeEnchantmentPersistence inventoryItem.guid
                (bag == inventorySlotBag0 && slot == equipmentSlotMainhand) with
            | none => .ok plan
            | some cleared =>
              match session.planDestroyedItems bag slot inventoryItem cleared with
              | none => .error (.result .internalError1)
              | some destroyedItems =>
                let destroyedItems := destroyedItems.filter fun destroyed =>
                  !plan.destroyedGuids.contains destroyed.inventoryItem.guid
                .ok { plan with
                  destroyedGuids := plan.destroyedGuids ++
                    destroyedItems.map (·.inventoryItem.guid)
                  deposits := plan.deposits ++
                    [⟨destroyedItems, voidItemOf voidItemId runtimeItem, voidSlot⟩] }

def planDeposits (session : TransferSession) (storage : VoidStorage) (taken : ObjectGuid → ℕ)
    (plan : DepositPlan) : List ObjectGuid → Except TransferRefusal DepositPlan
  | [] => .ok plan
  | guid :: guids =>
    match planDeposit session storage taken plan guid with
    | .error refusal => .error refusal
    | .ok plan => planDeposits session storage taken plan guids

/-- The withdrawals of the request; an id that is listed twice or not stored is skipped. -/
def planWithdrawals (session : TransferSession) (storage : VoidStorage)
    (deposits : List PlannedVoidDeposit) (usedIds : List ℕ)
    (withdrawals : List PlannedVoidWithdrawal) :
    List ObjectGuid → Except TransferRefusal (List PlannedVoidWithdrawal)
  | [] => .ok withdrawals
  | guid :: guids =>
    let itemId := guid.counter.toNat
    if itemId ∈ usedIds then
      planWithdrawals session storage deposits usedIds withdrawals guids
    else
      match storage.itemById itemId with
      | none => planWithdrawals session storage deposits (itemId :: usedIds) withdrawals guids
      | some (oldVoidSlot, voidItem) =>
        match session.store deposits withdrawals voidItem with
        | some error => .error (.result error)
        | none =>
          planWithdrawals session storage deposits (itemId :: usedIds)
            (withdrawals ++ [⟨oldVoidSlot, voidItem⟩]) guids

structure VoidStorageTransfer where
  deposits : List ObjectGuid
  withdrawals : List ObjectGuid
deriving DecidableEq

structure TransferPlan where
  deposits : List PlannedVoidDeposit
  withdrawals : List PlannedVoidWithdrawal
deriving DecidableEq

/-- The checks of the request, in order, and the two loops. -/
def planTransfer (session : TransferSession) (storage : VoidStorage) (nextId : ℕ)
    (taken : ObjectGuid → ℕ) (transfer : VoidStorageTransfer) :
    Except TransferRefusal TransferPlan :=
  if ¬(session.canInteract ∧ session.unlocked ∧ session.loaded) then .error .silent
  else if transfer.deposits.length > storage.freeSlots then .error (.result .full)
  else if transfer.withdrawals.length > session.emptyPositions then
    .error (.result .inventoryFull)
  else if session.money < transfer.deposits.length * voidStorageStoreItemCost then
    .error (.result .notEnoughMoney)
  else
    match planDeposits session storage taken ⟨nextId, [], [], [], []⟩ transfer.deposits with
    | .error refusal => .error refusal
    | .ok plan =>
      match planWithdrawals session storage plan.deposits [] [] transfer.withdrawals with
      | .error refusal => .error refusal
      | .ok withdrawals => .ok ⟨plan.deposits, withdrawals⟩

/-! ## Transaction and publication -/

/-- The statements on `character_void_storage` of `void_storage_transfer_statements`. -/
def TransferPlan.persist (plan : TransferPlan) (playerGuid : BitVec 64)
    (rows : RowTable VoidStorageRow) : RowTable VoidStorageRow :=
  let rows := plan.deposits.foldl
    (fun rows deposit => replaceRow rows ⟨playerGuid, deposit.voidSlot, deposit.voidItem.write⟩) rows
  plan.withdrawals.foldl (fun rows withdrawal => deleteRow rows playerGuid withdrawal.oldVoidSlot) rows

/-- The storage after the publication. -/
def TransferPlan.publish (plan : TransferPlan) (storage : VoidStorage) : VoidStorage :=
  let storage := plan.deposits.foldl (fun storage deposit => (storage.add deposit.voidItem).1) storage
  plan.withdrawals.foldl (fun storage withdrawal => (storage.delete withdrawal.oldVoidSlot).1) storage

/-- `added_items`: the slot and the item that the client is told, one for each deposit. -/
def TransferPlan.addedItems (plan : TransferPlan) : List (ℕ × VoidStorageItem) :=
  plan.deposits.map fun deposit => (deposit.voidSlot, deposit.voidItem)

end RustyCore.Player
