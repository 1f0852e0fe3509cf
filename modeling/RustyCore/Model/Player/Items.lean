import RustyCore.Library.FixedWidth
import RustyCore.Model.ObjectGuid

/-! # Items and the slots they lie in

Slot numbers are bytes. An item position is the packed pair of a bag and a slot; the top level
of a player's inventory is bag 255. -/

namespace RustyCore.Player

/-! ## Slots -/

def inventorySlotBag0 : ℕ := 255

def nullBag : ℕ := 0

def nullSlot : ℕ := 255

def maxBagSize : ℕ := 36

def playerSlotEnd : ℕ := 141

def equipmentSlotHead : ℕ := 0

def equipmentSlotEnd : ℕ := 19

def professionSlotStart : ℕ := 19

def professionSlotEnd : ℕ := 30

def inventorySlotBagStart : ℕ := 30

def inventorySlotBagEnd : ℕ := 34

def reagentBagSlotStart : ℕ := 34

def reagentBagSlotEnd : ℕ := 35

def inventorySlotItemStart : ℕ := 35

def inventorySlotItemEnd : ℕ := 59

def bankSlotItemStart : ℕ := 59

def bankSlotItemEnd : ℕ := 87

def bankSlotBagStart : ℕ := 87

def bankSlotBagEnd : ℕ := 94

def buybackSlotStart : ℕ := 94

def buybackSlotEnd : ℕ := 106

def keyringSlotStart : ℕ := 106

def keyringSlotEnd : ℕ := 138

def childEquipmentSlotStart : ℕ := 138

def childEquipmentSlotEnd : ℕ := 141

/-- The slots of `start..end`. -/
def slotRange (start stop : ℕ) : List ℕ := List.range' start (stop - start)

theorem mem_slotRange {start stop slot : ℕ} :
    slot ∈ slotRange start stop ↔ start ≤ slot ∧ slot < stop := by
  rw [slotRange, List.mem_range'_1]
  omega

def isBuybackSlot (slot : ℕ) : Bool := buybackSlotStart ≤ slot && slot < buybackSlotEnd

def isBagStorageSlot (slot : ℕ) : Bool :=
  (inventorySlotBagStart ≤ slot && slot < inventorySlotBagEnd) ||
    (bankSlotBagStart ≤ slot && slot < bankSlotBagEnd) ||
    (reagentBagSlotStart ≤ slot && slot < reagentBagSlotEnd)

/-- A packed position, `u16::from_be_bytes([bag, slot])`. -/
structure ItemPos where
  bag : ℕ
  slot : ℕ
deriving DecidableEq

/-! ## Results -/

inductive InventoryResult where
  | ok | cantEquipLevelI | cantEquipSkill | wrongSlot | bagFull | bagInBag | tradeEquippedBag
  | ammoOnly | proficiencyNeeded | noSlotAvailable | cantEquipEver | cantEquipEver2
  | noSlotAvailable2 | equipped2handed | twoHandSkillNotFound | wrongBagType | wrongBagType2
  | itemMaxCount | noSlotAvailable3 | cantStack | notEquippable | cantSwap | slotEmpty
  | itemNotFound | dropBoundItem | outOfRange | tooFewToSplit | splitFailed
  | spellFailedReagentsGeneric | cantTradeGold | notEnoughMoney | notABag | destroyNonemptyBag
  | notOwner | onlyOneQuiver | noBankSlot | noBankHere | itemLocked | genericStunned | playerDead
  | clientLockedOut | internalBagError | onlyOneBolt | onlyOneAmmo | cantWrapStackable
  | cantWrapEquipped | cantWrapWrapped | cantWrapBound | cantWrapUnique | cantWrapBags | lootGone
  | invFull | bankFull | vendorSoldOut | bagFull2 | itemNotFound2 | cantStack2 | bagFull3
  | vendorSoldOut2 | objectIsBusy | cantBeDisenchanted | notInCombat | notWhileDisarmed
  | bagFull4 | cantEquipRank | cantEquipReputation | tooManySpecialBags | lootCantLootThatNow
  | itemUniqueEquippable | vendorMissingTurnins | notEnoughHonorPoints | notEnoughArenaPoints
  | itemMaxCountSocketed | mailBoundItem | internalBagError2 | bagFull5
  | itemMaxCountEquippedSocketed | itemUniqueEquippableSocketed | tooMuchGold
  | notDuringArenaMatch | tradeBoundItem | cantEquipRating | eventAutoequipBindConfirm
  | notSameAccount | equipNone3 | itemMaxLimitCategoryCountExceededIs
  | itemMaxLimitCategorySocketedExceededIs | scalingStatItemLevelExceeded | purchaseLevelTooLow
  | cantEquipNeedTalent | itemMaxLimitCategoryEquippedExceededIs | shapeshiftFormCannotEquip
  | itemInventoryFullSatchel | scalingStatItemLevelTooLow | cantBuyQuantity
  | itemIsBattlePayLocked | reagentBankFull | reagentBankLocked | wrongBagType3 | cantUseItem
  | cantBeObliterated | guildBankConjuredItem | bagFull6 | bagFull7 | cantBeScrapped | bagFull8
  | notInPetBattle | bagFull9 | cantDoThatRightNow | cantDoThatRightNow2 | notInNPE
  | itemCooldown | notInRatedBattleground | equipableSpellsSlotsFull | cantBeRecrafted
  | reagentBagWrongSlot | slotOnlyReagentBag | reagentBagItemType | cantBulkSellItemWithRefund
deriving DecidableEq

/-! ## Items and templates -/

inductive ItemClass where
  | none | consumable | container | weapon | gem | armor | reagent | projectile | tradeGoods
  | itemEnhancement | recipe | money | quiver | quest | key | permanent | miscellaneous | glyph
  | battlePets | wowToken | profession
deriving DecidableEq

inductive ItemBondingType where
  | none | onAcquire | onEquip | onUse | quest
deriving DecidableEq

/-- What inventory code reads of an item. `dynamicFlags` is a word of `ItemFieldFlags`. -/
structure Item where
  guid : ObjectGuid
  entry : ℕ
  count : ℕ
  ownerGuid : ObjectGuid
  dynamicFlags : ℕ
  lootGenerated : Bool
  inTrade : Bool
deriving DecidableEq

end RustyCore.Player

/-! ## Destroying items by entry

The plan that takes a number of items of one entry from a player. The regions of the inventory
are scanned one after the other until enough is taken; the last stack may be split. -/

namespace RustyCore.Player

/-- An item at its position, and whether it could be taken off. -/
structure DestroyItemCountItemRef where
  bag : ℕ
  slot : ℕ
  item : Item
  canUnequipResult : InventoryResult
deriving DecidableEq

structure DestroyItemCountAction where
  bag : ℕ
  slot : ℕ
  removedCount : ℕ
  remainingCount : ℕ
  destroyStack : Bool
deriving DecidableEq

structure DestroyItemCountPlan where
  removedCount : ℕ
  actions : List DestroyItemCountAction
deriving DecidableEq

def destroyItemCountItemByPos (items : List DestroyItemCountItemRef) (bag slot : ℕ) :
    Option DestroyItemCountItemRef :=
  items.find? fun itemRef => itemRef.bag == bag && itemRef.slot == slot

/-- The two counts never exceed a word: a stack is taken whole only when no more than what is
still needed. -/
def destroyItemCountConsiderItem (plan : DestroyItemCountPlan) (itemRef : DestroyItemCountItemRef)
    (itemEntry requestedCount : ℕ) (requireUnequipForFullStack unequipCheck : Bool) :
    DestroyItemCountPlan :=
  if requestedCount ≤ plan.removedCount ∨ itemRef.item.entry ≠ itemEntry ∨
      itemRef.item.inTrade = true then plan
  else
    let needed := requestedCount - plan.removedCount
    let itemCount := itemRef.item.count
    if itemCount ≤ needed then
      if requireUnequipForFullStack && unequipCheck && itemRef.canUnequipResult != .ok then plan
      else
        { removedCount := plan.removedCount + itemCount
          actions := plan.actions ++ [{
            bag := itemRef.bag
            slot := itemRef.slot
            removedCount := itemCount
            remainingCount := 0
            destroyStack := true }] }
    else
      { removedCount := requestedCount
        actions := plan.actions ++ [{
          bag := itemRef.bag
          slot := itemRef.slot
          removedCount := needed
          remainingCount := itemCount - needed
          destroyStack := false }] }

section

variable (items : List DestroyItemCountItemRef) (itemEntry requestedCount : ℕ)

/-- The loop over the slots of one bag, left as soon as enough is taken. The flag tells whether
it was. -/
def destroyItemCountScanSlots (bag : ℕ) (requireUnequipForFullStack unequipCheck : Bool)
    (plan : DestroyItemCountPlan) : List ℕ → DestroyItemCountPlan × Bool
  | [] => (plan, false)
  | slot :: slots =>
    match destroyItemCountItemByPos items bag slot with
    | none =>
      destroyItemCountScanSlots bag requireUnequipForFullStack unequipCheck plan slots
    | some itemRef =>
      let plan := destroyItemCountConsiderItem plan itemRef itemEntry requestedCount
        requireUnequipForFullStack unequipCheck
      if requestedCount ≤ plan.removedCount then (plan, true)
      else destroyItemCountScanSlots bag requireUnequipForFullStack unequipCheck plan slots

def destroyItemCountScanTopLevelRange (plan : DestroyItemCountPlan) (start stop : ℕ)
    (requireUnequipForFullStack unequipCheck : Bool) : DestroyItemCountPlan :=
  (destroyItemCountScanSlots items itemEntry requestedCount inventorySlotBag0
    requireUnequipForFullStack unequipCheck plan (slotRange start stop)).1

/-- The loop over the bags; a return inside the inner loop leaves both. -/
def destroyItemCountScanBags (plan : DestroyItemCountPlan) : List ℕ → DestroyItemCountPlan
  | [] => plan
  | bag :: bags =>
    match destroyItemCountScanSlots items itemEntry requestedCount bag false false plan
      (slotRange 0 maxBagSize) with
    | (plan, true) => plan
    | (plan, false) => destroyItemCountScanBags plan bags

def destroyItemCountScanBagRanges (plan : DestroyItemCountPlan) (startBag endBag : ℕ) :
    DestroyItemCountPlan :=
  destroyItemCountScanBags items itemEntry requestedCount plan (slotRange startBag endBag)

end

def destroyItemCountByEntryPlan (itemEntry count : ℕ) (unequipCheck : Bool)
    (inventorySlotCount : ℕ) (items : List DestroyItemCountItemRef) : DestroyItemCountPlan :=
  let scan := destroyItemCountScanTopLevelRange items itemEntry count
  let scanBags := destroyItemCountScanBagRanges items itemEntry count
  let plan : DestroyItemCountPlan := { removedCount := 0, actions := [] }
  if count = 0 then plan
  else
  let plan := scan plan inventorySlotItemStart
    (saturatingAdd 8 inventorySlotItemStart inventorySlotCount) false unequipCheck
  if count ≤ plan.removedCount then plan
  else
  let plan := scan plan keyringSlotStart keyringSlotEnd false unequipCheck
  if count ≤ plan.removedCount then plan
  else
  let plan := scanBags plan inventorySlotBagStart inventorySlotBagEnd
  if count ≤ plan.removedCount then plan
  else
  let plan := scan plan equipmentSlotHead inventorySlotBagEnd true unequipCheck
  if count ≤ plan.removedCount then plan
  else
  let plan := scan plan bankSlotItemStart bankSlotItemEnd false unequipCheck
  if count ≤ plan.removedCount then plan
  else
  let plan := scanBags plan bankSlotBagStart bankSlotBagEnd
  if count ≤ plan.removedCount then plan
  else
  let plan := scan plan bankSlotBagStart bankSlotBagEnd true unequipCheck
  if count ≤ plan.removedCount then plan
  else scan plan childEquipmentSlotStart childEquipmentSlotEnd false unequipCheck

end RustyCore.Player

/-! ## Buyback slots

The last slots of a player's inventory keep what was sold. The items, the guids and the
prices and times that the client sees are arrays of their own. -/

namespace RustyCore.Player

/-- The items and guids by slot, the prices and times from the first buyback slot on. -/
structure BuybackState where
  items : ℕ → Option ObjectGuid
  invSlots : ℕ → ObjectGuid
  buybackPrice : ℕ → ℕ
  buybackTimestamp : ℕ → ℤ
  currentBuybackSlot : ℕ

/-- What an add reads of an item: its guid and its count. -/
structure SoldItem where
  guid : ObjectGuid
  count : ℕ
deriving DecidableEq

/-- `PlayerStorageError::MismatchedItemGuid`. -/
structure MismatchedItemGuid where
  slot : ℕ
  expected : ObjectGuid
  actual : ObjectGuid
deriving DecidableEq

namespace BuybackState

/-- The buyback of a new player. -/
def default : BuybackState where
  items _ := none
  invSlots _ := .empty
  buybackPrice _ := 0
  buybackTimestamp _ := 0
  currentBuybackSlot := buybackSlotStart

variable (s : BuybackState)

def setInvSlot (slot : ℕ) (guid : ObjectGuid) : BuybackState :=
  { s with invSlots := Function.update s.invSlots slot guid }

def setBuybackPrice (index price : ℕ) : BuybackState :=
  { s with buybackPrice := Function.update s.buybackPrice index price }

def setBuybackTimestamp (index : ℕ) (timestamp : ℤ) : BuybackState :=
  { s with buybackTimestamp := Function.update s.buybackTimestamp index timestamp }

def setSlot (slot : ℕ) (item : Option ObjectGuid) (guid : ObjectGuid) (price : ℕ)
    (timestamp : ℤ) : BuybackState :=
  let s := { s with items := Function.update s.items slot item }
  let buybackIndex := slot - buybackSlotStart
  ((s.setInvSlot slot guid).setBuybackPrice buybackIndex price).setBuybackTimestamp buybackIndex
    timestamp

/-- Returns the item that was in the slot. -/
def removeItemFromBuybackSlot (slot : ℕ) : BuybackState × Option ObjectGuid :=
  if isBuybackSlot slot = false then (s, none)
  else
    let removed := s.items slot
    let s := s.setSlot slot none .empty 0 0
    if (s.items s.currentBuybackSlot).isSome then
      ({ s with currentBuybackSlot := slot }, removed)
    else (s, removed)

/-- The item that a caller brings along has to be the one in the slot. -/
def removeItemFromBuybackSlotObject (slot : ℕ) (item : Option ObjectGuid) :
    Except MismatchedItemGuid (BuybackState × Option ObjectGuid) :=
  if isBuybackSlot slot = false then .ok (s, none)
  else
    match s.items slot, item with
    | some expected, some actual =>
      if expected ≠ actual then .error ⟨slot, expected, actual⟩
      else .ok (s.removeItemFromBuybackSlot slot)
    | _, _ => .ok (s.removeItemFromBuybackSlot slot)

/-- The loop over the candidates behind the first slot: the first empty one, or the one with
the smallest time. -/
def findOldestSlot (s : BuybackState) (oldestSlot : ℕ) (oldestTime : ℤ) : List ℕ → ℕ
  | [] => oldestSlot
  | candidate :: rest =>
    if (s.items candidate).isNone then candidate
    else
      let candidateTime := s.buybackTimestamp (candidate - buybackSlotStart)
      if candidateTime < oldestTime then s.findOldestSlot candidate candidateTime rest
      else s.findOldestSlot oldestSlot oldestTime rest

/-- The slots from `buybackSlotStart + 1` up to the end. -/
def buybackCandidates : List ℕ :=
  (List.range (buybackSlotEnd - buybackSlotStart - 1)).map (buybackSlotStart + 1 + ·)

/-- Where the next item goes. -/
def chooseBuybackSlot : ℕ :=
  if (s.items s.currentBuybackSlot).isSome then
    s.findOldestSlot buybackSlotStart (s.buybackTimestamp 0) buybackCandidates
  else s.currentBuybackSlot

def advanceBuybackSlot : BuybackState :=
  if s.currentBuybackSlot < buybackSlotEnd - 1 then
    { s with currentBuybackSlot := s.currentBuybackSlot + 1 }
  else s

/-- Returns the slot. -/
def addItemToBuybackSlot (guid : ObjectGuid) (price : ℕ) (timestamp : ℤ) : BuybackState × ℕ :=
  let slot := s.chooseBuybackSlot
  let s := (s.removeItemFromBuybackSlot slot).1
  ((s.setSlot slot (some guid) guid price timestamp).advanceBuybackSlot, slot)

/-- `(game_time - login_time + 30 * 3600) as u32 as i64`. -/
def objectTimestamp (gameTime loginTime : ℤ) : ℤ := (gameTime - loginTime + 30 * 3600) % 2 ^ 32

/-- `sellPrice` is that of the template, if there is one. -/
def addItemObjectToBuybackSlot (item : SoldItem) (sellPrice : Option ℕ) (gameTime loginTime : ℤ)
    (overwrittenItem : Option ObjectGuid) : Except MismatchedItemGuid (BuybackState × ℕ) := do
  let slot := s.chooseBuybackSlot
  let (s, _) ← s.removeItemFromBuybackSlotObject slot overwrittenItem
  let price := match sellPrice with
    | some sellPrice => sellPrice * item.count % 2 ^ 32
    | none => 0
  return ((s.setSlot slot (some item.guid) item.guid price
    (objectTimestamp gameTime loginTime)).advanceBuybackSlot, slot)

end BuybackState

/-! ## Runs -/

inductive BuybackOp where
  | add (guid : ObjectGuid) (price : ℕ) (timestamp : ℤ)
  | addObject (item : SoldItem) (sellPrice : Option ℕ) (gameTime loginTime : ℤ)
      (overwrittenItem : Option ObjectGuid)
  | remove (slot : ℕ)
deriving DecidableEq

def BuybackState.step (s : BuybackState) : BuybackOp → BuybackState
  | .add guid price timestamp => (s.addItemToBuybackSlot guid price timestamp).1
  | .addObject item sellPrice gameTime loginTime overwrittenItem =>
    match s.addItemObjectToBuybackSlot item sellPrice gameTime loginTime overwrittenItem with
    | .ok (s', _) => s'
    | .error _ => s
  | .remove slot => (s.removeItemFromBuybackSlot slot).1

end RustyCore.Player
