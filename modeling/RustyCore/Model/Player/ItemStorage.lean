import RustyCore.Model.Player.Items

/-! # Storing items

Where a stack goes in a player's inventory. A request runs through a dozen passes, which share
the destinations found so far and the count that is still to be placed; every pass may end the
request. -/

namespace RustyCore.Player

/-! ## Positions -/

def makeItemPos (bag slot : ℕ) : ItemPos := ⟨bag, slot⟩

def isChildEquipmentPos (bag slot : ℕ) : Bool :=
  bag == inventorySlotBag0 && childEquipmentSlotStart ≤ slot && slot < childEquipmentSlotEnd

def isInventoryPos (bag slot : ℕ) : Bool :=
  (bag == inventorySlotBag0 && slot == nullSlot) ||
    (bag == inventorySlotBag0 && inventorySlotItemStart ≤ slot && slot < inventorySlotItemEnd) ||
    (inventorySlotBagStart ≤ bag && bag < inventorySlotBagEnd) ||
    (bag == inventorySlotBag0 && keyringSlotStart ≤ slot && slot < keyringSlotEnd) ||
    isChildEquipmentPos bag slot

def isEquipmentPos (bag slot : ℕ) : Bool :=
  bag == inventorySlotBag0 &&
    (slot < equipmentSlotEnd || (professionSlotStart ≤ slot && slot < professionSlotEnd) ||
      (inventorySlotBagStart ≤ slot && slot < inventorySlotBagEnd) ||
      (reagentBagSlotStart ≤ slot && slot < reagentBagSlotEnd))

def isBankPos (bag slot : ℕ) : Bool :=
  (bag == inventorySlotBag0 && bankSlotItemStart ≤ slot && slot < bankSlotItemEnd) ||
    (bag == inventorySlotBag0 && bankSlotBagStart ≤ slot && slot < bankSlotBagEnd) ||
    (bankSlotBagStart ≤ bag && bag < bankSlotBagEnd)

def isBagPos (pos : ItemPos) : Bool := pos.bag == inventorySlotBag0 && isBagStorageSlot pos.slot

/-- The range ends before it starts: no slot is gated. -/
def cppKeyringFamilyGateApplies (slot : ℕ) : Bool :=
  keyringSlotStart ≤ slot && slot < keyringSlotStart + keyringSlotStart - keyringSlotEnd

/-! ## Items and templates -/

namespace ItemFieldFlags

def soulbound : ℕ := 0x01

def bopTradeable : ℕ := 0x100

def child : ℕ := 0x00080000

end ItemFieldFlags

namespace BagFamilyMask

def arrows : ℕ := 0x01

def bullets : ℕ := 0x02

def soulShards : ℕ := 0x04

def leatherworkingSupp : ℕ := 0x08

def inscriptionSupp : ℕ := 0x10

def herbs : ℕ := 0x20

def enchantingSupp : ℕ := 0x40

def engineeringSupp : ℕ := 0x80

def keys : ℕ := 0x100

def gems : ℕ := 0x200

def miningSupp : ℕ := 0x400

def fishingSupp : ℕ := 0x8000

def cookingSupp : ℕ := 0x10000

end BagFamilyMask

/-- `ItemFlags::IS_BOUND_TO_ACCOUNT`. -/
def isBoundToAccount : ℕ := 0x8000000

/-- All the bits of `flag` are set in a mask. -/
def containsFlag (mask flag : ℕ) : Bool := mask &&& flag == flag

structure ItemStorageTemplate where
  entry : ℕ
  classId : ItemClass
  subclassId : ℕ
  bonding : ItemBondingType
  bagFamily : ℕ
  maxStackSize : ℕ
  maxCount : ℤ
  itemLimitCategory : ℕ
  containerSlots : ℕ
  isCraftingReagent : Bool
  flags : ℕ
deriving DecidableEq

/-- The subclass of a plain bag, `ItemSubClassContainer::Container`. -/
def plainContainer : ℕ := 0

def itemCanGoIntoBag (proto bagProto : ItemStorageTemplate) : Bool :=
  match bagProto.classId, bagProto.subclassId with
  | .container, 0 => true
  | .container, 1 => containsFlag proto.bagFamily BagFamilyMask.soulShards
  | .container, 2 => containsFlag proto.bagFamily BagFamilyMask.herbs
  | .container, 3 => containsFlag proto.bagFamily BagFamilyMask.enchantingSupp
  | .container, 4 => containsFlag proto.bagFamily BagFamilyMask.engineeringSupp
  | .container, 5 => containsFlag proto.bagFamily BagFamilyMask.gems
  | .container, 6 => containsFlag proto.bagFamily BagFamilyMask.miningSupp
  | .container, 7 => containsFlag proto.bagFamily BagFamilyMask.leatherworkingSupp
  | .container, 8 => containsFlag proto.bagFamily BagFamilyMask.inscriptionSupp
  | .container, 9 => containsFlag proto.bagFamily BagFamilyMask.fishingSupp
  | .container, 10 => containsFlag proto.bagFamily BagFamilyMask.cookingSupp
  | .container, 11 => proto.isCraftingReagent
  | .quiver, 2 => containsFlag proto.bagFamily BagFamilyMask.arrows
  | .quiver, 3 => containsFlag proto.bagFamily BagFamilyMask.bullets
  | _, _ => false

namespace Item

def hasItemFlag (item : Item) (flag : ℕ) : Bool := item.dynamicFlags &&& flag != 0

def isChild (item : Item) : Bool := item.hasItemFlag ItemFieldFlags.child

def isBindedNotWith (item : Item) (playerGuid : ObjectGuid) (template : ItemStorageTemplate)
    (bopTradeAllowedForPlayer : Bool) : Bool :=
  if !item.hasItemFlag ItemFieldFlags.soulbound then false
  else if item.ownerGuid = playerGuid then false
  else if item.hasItemFlag ItemFieldFlags.bopTradeable && bopTradeAllowedForPlayer then false
  else if containsFlag template.flags isBoundToAccount then false
  else true

def canBeMergedPartlyWith (item : Item) (entry maxStackSize : ℕ) : InventoryResult :=
  if item.lootGenerated then .lootGone
  else if item.entry ≠ entry then .cantStack
  else if maxStackSize ≤ item.count then .cantStack
  else .ok

end Item

structure ItemPosCount where
  pos : ItemPos
  count : ℕ
deriving DecidableEq

def ItemPosCount.isContainedIn (position : ItemPosCount) (positions : List ItemPosCount) : Bool :=
  positions.any fun other => other.pos == position.pos

structure ItemSlotRef where
  bag : ℕ
  slot : ℕ
  item : Item
deriving DecidableEq

structure ItemStorageRef where
  bag : ℕ
  slot : ℕ
  item : Item
  template : Option ItemStorageTemplate
deriving DecidableEq

structure BagTemplateRef where
  bag : ℕ
  template : ItemStorageTemplate
deriving DecidableEq

structure ItemLimitCategoryTemplate where
  quantity : ℕ
  flags : ℕ
deriving DecidableEq

def itemLimitCategoryModeHave : ℕ := 0

def itemRefByPos (items : List ItemSlotRef) (bag slot : ℕ) : Option Item :=
  (items.find? fun slotItem => slotItem.bag == bag && slotItem.slot == slot).map ItemSlotRef.item

def bagTemplateByPos (templates : List BagTemplateRef) (bag : ℕ) : Option ItemStorageTemplate :=
  (templates.find? fun bagTemplate => bagTemplate.bag == bag).map BagTemplateRef.template

/-- An equipped bag; its size is a byte. -/
structure PlayerBagStorage where
  bagGuid : ObjectGuid
  bagSize : ℕ
  isByte : bagSize < 256
deriving DecidableEq

/-- What the storage code reads of a player. -/
structure PlayerStorage where
  guid : ObjectGuid
  bags : ℕ → Option PlayerBagStorage
  numBackpackSlots : ℕ

namespace PlayerStorage

/-- The bags are an array over the player's slots. -/
def bagAt (player : PlayerStorage) (bag : ℕ) : Option PlayerBagStorage :=
  if bag < playerSlotEnd then player.bags bag else none

def getBagByPos (player : PlayerStorage) (bag : ℕ) : Option ObjectGuid :=
  if isBagStorageSlot bag then (player.bagAt bag).map PlayerBagStorage.bagGuid else none

end PlayerStorage

/-! ## Item limits -/

structure CanTakeMoreSimilarItemsOutcome where
  result : InventoryResult
  noSpaceCount : Option ℕ
  offendingItemId : Option ℕ
deriving DecidableEq

def canTakeMoreSimilarOk : CanTakeMoreSimilarItemsOutcome := ⟨.ok, none, none⟩

/-- `i32::MAX`. -/
def maxCountUnlimited : ℤ := 2147483647

def canTakeMoreSimilarItems (proto : Option ItemStorageTemplate) (count : ℕ)
    (sourceItem : Option Item) (currentItemCount : ℕ)
    (limitCategory : Option ItemLimitCategoryTemplate) (currentLimitCategoryCount : ℕ) :
    CanTakeMoreSimilarItemsOutcome :=
  match proto with
  | none => ⟨.itemMaxCount, some count, none⟩
  | some proto =>
  if sourceItem.any Item.lootGenerated then ⟨.lootGone, none, none⟩
  else if (proto.maxCount ≤ 0 ∧ proto.itemLimitCategory = 0) ∨ proto.maxCount = maxCountUnlimited then
    canTakeMoreSimilarOk
  else if 0 < proto.maxCount ∧
      proto.maxCount.toNat < saturatingAdd 32 currentItemCount count then
    ⟨.itemMaxCount, some (saturatingAdd 32 currentItemCount count - proto.maxCount.toNat), none⟩
  else if proto.itemLimitCategory ≠ 0 then
    match limitCategory with
    | none => ⟨.notEquippable, some count, none⟩
    | some limitCategory =>
      if limitCategory.flags = itemLimitCategoryModeHave ∧
          limitCategory.quantity < saturatingAdd 32 currentLimitCategoryCount count then
        ⟨.itemMaxLimitCategoryCountExceededIs,
          some (saturatingAdd 32 currentLimitCategoryCount count - limitCategory.quantity),
          some proto.entry⟩
      else canTakeMoreSimilarOk
  else canTakeMoreSimilarOk

def Item.isOtherThan (item : Item) (skipItem : Option Item) : Bool :=
  skipItem.all fun skip => item.guid != skip.guid

/-- The sum wraps in a word. -/
def itemCountByEntry (entry : ℕ) (inBankAlso : Bool) (skipItem : Option Item)
    (storedItems : List ItemStorageRef) : ℕ :=
  (((storedItems.filter fun stored => isEquipmentPos stored.bag stored.slot ||
    isInventoryPos stored.bag stored.slot || (inBankAlso && isBankPos stored.bag stored.slot)).filter
      fun stored => stored.item.isOtherThan skipItem && stored.item.entry == entry).map
        fun stored => stored.item.count).sum % 2 ^ 32

def itemCountWithLimitCategory (limitCategory : ℕ) (skipItem : Option Item)
    (storedItems : List ItemStorageRef) : ℕ :=
  ((storedItems.filter fun stored => stored.item.isOtherThan skipItem &&
    stored.template.any fun template => template.itemLimitCategory == limitCategory).map
      fun stored => stored.item.count).sum % 2 ^ 32

/-! ## Passes -/

structure CanStoreItemOutcome where
  result : InventoryResult
  noSpaceCount : Option ℕ
deriving DecidableEq

/-- What a request has placed, and what it still has to place. -/
structure Placement where
  dest : List ItemPosCount
  count : ℕ
deriving DecidableEq

/-- How a request ends inside a pass: with its answer, or in a subtraction below zero. -/
inductive StoreExit where
  | outcome (outcome : CanStoreItemOutcome)
  | underflow
deriving DecidableEq

abbrev StoreM := EStateM StoreExit Placement

/-- A subtraction of unsigned words. -/
def checkedSub (x y : ℕ) : StoreM ℕ :=
  if y ≤ x then pure (x - y) else throw .underflow

/-- Adds a destination unless the position has one, and tells whether it did. -/
def pushPosition (pos : ItemPos) (needSpace : ℕ) : StoreM Bool := do
  let s ← get
  let needSpace := min needSpace s.count
  let newPosition : ItemPosCount := ⟨pos, needSpace⟩
  if newPosition.isContainedIn s.dest then pure false
  else
    let count ← checkedSub s.count needSpace
    set { s with dest := s.dest ++ [newPosition], count := count }
    pure true

/-- The item in a slot; the item that is being moved does not count. -/
def existingItem (sourceItem : Option Item) (item : Option Item) : Option Item :=
  item.filter fun existing => existing.isOtherThan sourceItem

/-- The space that a slot has for one more stack, or that is left on the stack it holds. `none`
when that stack takes nothing. -/
def needSpaceFor (proto : ItemStorageTemplate) : Option Item → StoreM (Option ℕ)
  | none => pure (some proto.maxStackSize)
  | some existing =>
    if existing.canBeMergedPartlyWith proto.entry proto.maxStackSize ≠ .ok then pure none
    else some <$> checkedSub proto.maxStackSize existing.count

section

variable (player : PlayerStorage) (proto : ItemStorageTemplate) (sourceItem : Option Item)
  (sourceIsNotEmptyBag : Bool)

/-- The checks on the moved item before it goes into a specific slot. -/
def specificSlotSourceCheck (bag slot : ℕ) : InventoryResult :=
  match sourceItem with
  | none => .ok
  | some source =>
    if sourceIsNotEmptyBag && !isBagPos (makeItemPos bag slot) then .destroyNonemptyBag
    else if source.isChild && !isEquipmentPos bag slot && !isChildEquipmentPos bag slot then
      .wrongBagType3
    else if !source.isChild && isChildEquipmentPos bag slot then .wrongBagType3
    else .ok

/-- The checks on a specific slot that is free or to be swapped. -/
def specificSlotCheck (bag slot : ℕ) (bagProto : Option ItemStorageTemplate) : InventoryResult :=
  if slot = reagentBagSlotStart then .wrongBagType
  else if bag = inventorySlotBag0 then
    if cppKeyringFamilyGateApplies slot && !containsFlag proto.bagFamily BagFamilyMask.keys then
      .wrongBagType
    else if isBuybackSlot slot || playerSlotEnd ≤ slot then .wrongBagType
    else .ok
  else if (player.getBagByPos bag).isNone then .wrongBagType
  else
    match bagProto with
    | none => .wrongBagType
    | some bagProto =>
      if bagProto.containerSlots ≤ slot then .wrongBagType
      else if !itemCanGoIntoBag proto bagProto then .wrongBagType
      else .ok

def canStoreItemInSpecificSlot (bag slot : ℕ) (swap : Bool) (item : Option Item)
    (bagProto : Option ItemStorageTemplate) : StoreM InventoryResult :=
  let sourceCheck := specificSlotSourceCheck sourceItem sourceIsNotEmptyBag bag slot
  if sourceCheck ≠ .ok then pure sourceCheck
  else
    match existingItem sourceItem item, swap with
    | some existing, false =>
      let result := existing.canBeMergedPartlyWith proto.entry proto.maxStackSize
      if result ≠ .ok then pure result
      else do
        let needSpace ← checkedSub proto.maxStackSize existing.count
        let _ ← pushPosition (makeItemPos bag slot) needSpace
        pure .ok
    | _, _ =>
      let result := specificSlotCheck player proto bag slot bagProto
      if result ≠ .ok then pure result
      else do
        let _ ← pushPosition (makeItemPos bag slot) proto.maxStackSize
        pure .ok

/-- The loop over the slots of a bag. `merge` looks at the slots that hold an item, otherwise at
the free ones. -/
def storeInSlots (bag : ℕ) (merge : Bool) (skip : ℕ → Bool) (slotItems : List ItemSlotRef) :
    List ℕ → StoreM InventoryResult
  | [] => pure .ok
  | slot :: slots =>
    if skip slot then storeInSlots bag merge skip slotItems slots
    else
      let existing := existingItem sourceItem (itemRefByPos slotItems bag slot)
      if existing.isSome ≠ merge then storeInSlots bag merge skip slotItems slots
      else do
        match ← needSpaceFor proto existing with
        | none => storeInSlots bag merge skip slotItems slots
        | some needSpace =>
          let pushed ← pushPosition (makeItemPos bag slot) needSpace
          let s ← get
          if pushed = true ∧ s.count = 0 then pure .ok
          else storeInSlots bag merge skip slotItems slots

def canStoreItemInInventorySlots (slotBegin slotEnd : ℕ) (merge : Bool) (skipBag skipSlot : ℕ)
    (slotItems : List ItemSlotRef) : StoreM InventoryResult :=
  if sourceItem.isSome && sourceIsNotEmptyBag then pure .destroyNonemptyBag
  else
    storeInSlots proto sourceItem inventorySlotBag0 merge
      (fun slot => (skipBag == inventorySlotBag0 && slot == skipSlot) ||
        slot == reagentBagSlotStart)
      slotItems (slotRange slotBegin slotEnd)

/-- The checks before the slots of a bag are looked at. -/
def bagCheck (bag : ℕ) (nonSpecialized : Bool) (skipBag : ℕ)
    (bagProto : Option ItemStorageTemplate) : Except InventoryResult PlayerBagStorage :=
  if bag = skipBag then .error .wrongBagType
  else
    match player.bagAt bag with
    | none => .error .wrongBagType
    | some bagStorage =>
      if sourceItem.any fun source => source.guid == bagStorage.bagGuid then
        .error .wrongBagType
      else if sourceItem.isSome && sourceIsNotEmptyBag then .error .destroyNonemptyBag
      else if sourceItem.any Item.isChild then .error .wrongBagType3
      else
        match bagProto with
        | none => .error .wrongBagType
        | some bagProto =>
          let bagIsRegularContainer :=
            bagProto.classId == .container && bagProto.subclassId == plainContainer
          if nonSpecialized ≠ bagIsRegularContainer then .error .wrongBagType
          else if !itemCanGoIntoBag proto bagProto then .error .wrongBagType
          else .ok bagStorage

def canStoreItemInBag (bag : ℕ) (merge nonSpecialized : Bool) (skipBag skipSlot : ℕ)
    (bagProto : Option ItemStorageTemplate) (slotItems : List ItemSlotRef) :
    StoreM InventoryResult :=
  match bagCheck player proto sourceItem sourceIsNotEmptyBag bag nonSpecialized skipBag bagProto with
  | .error result => pure result
  | .ok bagStorage =>
    storeInSlots proto sourceItem bag merge (fun slot => slot == skipSlot) slotItems
      (slotRange 0 bagStorage.bagSize)

end

/-! ## The request -/

structure CanStoreItemArgs where
  bag : ℕ
  slot : ℕ
  count : ℕ
  proto : Option ItemStorageTemplate
  sourceItem : Option Item
  sourceIsNotEmptyBag : Bool
  sourceBopTradeAllowedForPlayer : Bool
  swap : Bool
  limitCategory : Option ItemLimitCategoryTemplate
  slotItems : List ItemSlotRef
  storedItems : List ItemStorageRef
  bagTemplates : List BagTemplateRef

def canStoreItemError (result : InventoryResult) (count noSimilarCount : ℕ) :
    CanStoreItemOutcome :=
  ⟨result, some (count + noSimilarCount)⟩

def canStoreItemCountZero (count noSimilarCount : ℕ) : Option CanStoreItemOutcome :=
  if count = 0 then
    if noSimilarCount = 0 then some ⟨.ok, none⟩
    else some (canStoreItemError .itemMaxCount count noSimilarCount)
  else none

def returnOutcome (outcome : CanStoreItemOutcome) : StoreM Unit := throw (.outcome outcome)

/-- Ends the request when nothing is left to place. -/
def returnIfPlaced (noSimilarCount : ℕ) : StoreM Unit := do
  let s ← get
  match canStoreItemCountZero s.count noSimilarCount with
  | some outcome => returnOutcome outcome
  | none => pure ()

/-- A pass whose refusal ends the request. -/
def storeOrReturn (noSimilarCount : ℕ) (pass : StoreM InventoryResult) : StoreM Unit := do
  let result ← pass
  if result ≠ .ok then
    let s ← get
    returnOutcome (canStoreItemError result s.count noSimilarCount)
  else returnIfPlaced noSimilarCount

/-- A pass over a bag, whose refusal is skipped. -/
def storeOrContinue (noSimilarCount : ℕ) (pass : StoreM InventoryResult) : StoreM Unit := do
  let result ← pass
  if result ≠ .ok then pure () else returnIfPlaced noSimilarCount

/-- A statement under an `if` without an `else`. -/
def storeWhen (condition : Prop) [Decidable condition] (statement : StoreM Unit) : StoreM Unit :=
  if condition then statement else pure ()

/-- The second pass runs when the first one refuses. -/
def storeOrElse (pass pass' : StoreM InventoryResult) : StoreM InventoryResult := do
  let result ← pass
  if result ≠ .ok then pass' else pure result

section

variable (player : PlayerStorage) (args : CanStoreItemArgs) (proto : ItemStorageTemplate)
  (noSimilarCount : ℕ)

/-- The backpack ends where it is not unlocked yet. -/
def inventoryEnd : ℕ :=
  min (saturatingAdd 8 inventorySlotItemStart player.numBackpackSlots) inventorySlotItemEnd

/-- A pass over top-level slots with the arguments of the request. -/
def storeInInventory (slotBegin slotEnd : ℕ) (merge : Bool) : StoreM Unit :=
  storeOrReturn noSimilarCount (canStoreItemInInventorySlots proto args.sourceItem
    args.sourceIsNotEmptyBag slotBegin slotEnd merge args.bag args.slot args.slotItems)

/-- A pass over the bag that the request names. -/
def storeInNamedBag (merge nonSpecialized : Bool) : StoreM InventoryResult :=
  canStoreItemInBag player proto args.sourceItem args.sourceIsNotEmptyBag args.bag merge
    nonSpecialized nullBag args.slot (bagTemplateByPos args.bagTemplates args.bag) args.slotItems

/-- A pass over each of the equipped bags. -/
def storeInBags (merge nonSpecialized : Bool) : StoreM Unit :=
  (slotRange inventorySlotBagStart inventorySlotBagEnd).forM fun bagSlot =>
    storeOrContinue noSimilarCount (canStoreItemInBag player proto args.sourceItem
      args.sourceIsNotEmptyBag bagSlot merge nonSpecialized args.bag args.slot
      (bagTemplateByPos args.bagTemplates bagSlot) args.slotItems)

/-- The slot that the request names. -/
def storeInNamedSlot : StoreM Unit :=
  storeWhen (args.bag ≠ nullBag ∧ args.slot ≠ nullSlot)
    (storeOrReturn noSimilarCount (canStoreItemInSpecificSlot player proto args.sourceItem
      args.sourceIsNotEmptyBag args.bag args.slot args.swap
      (itemRefByPos args.slotItems args.bag args.slot)
      (bagTemplateByPos args.bagTemplates args.bag)))

/-- The stacks in the bag that the request names. -/
def mergeInNamedBag : StoreM Unit :=
  storeWhen (args.bag ≠ nullBag ∧ proto.maxStackSize ≠ 1) <|
    if args.bag = inventorySlotBag0 then do
      storeInInventory args proto noSimilarCount childEquipmentSlotStart childEquipmentSlotEnd true
      storeInInventory args proto noSimilarCount inventorySlotItemStart (inventoryEnd player) true
    else
      storeOrReturn noSimilarCount
        (storeOrElse (storeInNamedBag player args proto true false)
          (storeInNamedBag player args proto true true))

/-- The free slots of the bag that the request names. -/
def fillNamedBag : StoreM Unit :=
  storeWhen (args.bag ≠ nullBag) <|
    if args.bag = inventorySlotBag0 then do
      storeWhen (containsFlag proto.bagFamily BagFamilyMask.keys)
        (storeInInventory args proto noSimilarCount keyringSlotStart keyringSlotEnd false)
      storeWhen (args.sourceItem.any Item.isChild)
        (storeInInventory args proto noSimilarCount childEquipmentSlotStart childEquipmentSlotEnd
          false)
      storeInInventory args proto noSimilarCount inventorySlotItemStart (inventoryEnd player) false
    else
      storeOrReturn noSimilarCount
        (storeOrElse (storeInNamedBag player args proto false false)
          (storeInNamedBag player args proto false true))

/-- The stacks anywhere. -/
def mergeAnywhere : StoreM Unit :=
  storeWhen (proto.maxStackSize ≠ 1) do
    storeInInventory args proto noSimilarCount childEquipmentSlotStart childEquipmentSlotEnd true
    storeInInventory args proto noSimilarCount inventorySlotItemStart (inventoryEnd player) true
    storeWhen (proto.bagFamily ≠ 0) (storeInBags player args proto noSimilarCount true false)
    storeInBags player args proto noSimilarCount true true

/-- The free slots of the keyring and of the specialized bags. -/
def fillSpecialBags : StoreM Unit :=
  storeWhen (proto.bagFamily ≠ 0) do
    storeWhen (containsFlag proto.bagFamily BagFamilyMask.keys)
      (storeInInventory args proto noSimilarCount keyringSlotStart keyringSlotEnd false)
    storeInBags player args proto noSimilarCount false false

def searchSlotStart : ℕ :=
  if args.sourceItem.isNone && proto.classId == .container &&
      proto.subclassId == plainContainer &&
      (proto.bonding == .none || proto.bonding == .onAcquire) then inventorySlotBagStart
  else inventorySlotItemStart

/-- The free slots of the backpack and of the plain bags. -/
def fillAnywhere : StoreM Unit := do
  storeWhen (args.sourceItem.any Item.isChild)
    (storeInInventory args proto noSimilarCount childEquipmentSlotStart childEquipmentSlotEnd false)
  storeInInventory args proto noSimilarCount (searchSlotStart args proto) (inventoryEnd player) false
  storeInBags player args proto noSimilarCount false true

/-- The passes of a request, after its checks. -/
def storePasses : StoreM CanStoreItemOutcome := do
  storeInNamedSlot player args proto noSimilarCount
  mergeInNamedBag player args proto noSimilarCount
  fillNamedBag player args proto noSimilarCount
  mergeAnywhere player args proto noSimilarCount
  fillSpecialBags player args proto noSimilarCount
  storeWhen args.sourceIsNotEmptyBag (returnOutcome ⟨.bagInBag, none⟩)
  fillAnywhere player args proto noSimilarCount
  let s ← get
  pure (canStoreItemError .invFull s.count noSimilarCount)

end

def similarItemsOutcome (args : CanStoreItemArgs) (proto : ItemStorageTemplate) :
    CanTakeMoreSimilarItemsOutcome :=
  canTakeMoreSimilarItems args.proto args.count args.sourceItem
    (itemCountByEntry proto.entry true args.sourceItem args.storedItems) args.limitCategory
    (itemCountWithLimitCategory proto.itemLimitCategory args.sourceItem args.storedItems)

/-- The item limits leave a part of the count, or nothing. -/
def storeWithinLimits (player : PlayerStorage) (args : CanStoreItemArgs)
    (proto : ItemStorageTemplate) : StoreM CanStoreItemOutcome := do
  let similarResult := similarItemsOutcome args proto
  if similarResult.result = .ok then storePasses player args proto 0
  else
    let noSimilarCount := similarResult.noSpaceCount.getD 0
    if args.count = noSimilarCount then
      pure (canStoreItemError similarResult.result noSimilarCount 0)
    else
      let count ← checkedSub args.count noSimilarCount
      modify fun s => { s with count := count }
      storePasses player args proto noSimilarCount

def canStoreItemM (player : PlayerStorage) (args : CanStoreItemArgs) :
    StoreM CanStoreItemOutcome :=
  match args.proto with
  | none =>
    pure (canStoreItemError (if args.swap then .cantSwap else .itemNotFound) args.count 0)
  | some proto =>
    if args.sourceItem.any Item.lootGenerated then
      pure (canStoreItemError .lootGone args.count 0)
    else if args.sourceItem.any fun source => source.isBindedNotWith player.guid proto
        args.sourceBopTradeAllowedForPlayer then
      pure (canStoreItemError .notOwner args.count 0)
    else storeWithinLimits player args proto

/-- The answer with the destinations. `none` is a subtraction below zero. -/
def canStoreItem (player : PlayerStorage) (dest : List ItemPosCount) (args : CanStoreItemArgs) :
    Option (CanStoreItemOutcome × List ItemPosCount) :=
  match canStoreItemM player args ⟨dest, args.count⟩ with
  | .ok outcome s => some (outcome, s.dest)
  | .error (.outcome outcome) s => some (outcome, s.dest)
  | .error .underflow _ => none

end RustyCore.Player
