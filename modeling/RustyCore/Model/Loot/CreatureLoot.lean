import RustyCore.Library.FixedWidth
import RustyCore.Library.ModifyFirst
import RustyCore.Model.ObjectGuid

/-! # Loot pools

One loot pool of a creature or game object, with the marks that record what has
been taken from it. -/

namespace RustyCore.Loot

/-- One free-for-all item of one player's private list. -/
structure NotNormalLootItem where
  lootListId : ℕ
  isLooted : Bool
deriving DecidableEq

structure LootEntryFlags where
  followLootRules : Bool := false
  freeforall : Bool := false
  blocked : Bool := false
  counted : Bool := false
  underThreshold : Bool := false
  needsQuest : Bool := false
deriving DecidableEq

structure LootEntry where
  lootListId : ℕ
  itemId : ℕ
  quantity : ℕ
  randomPropertiesId : ℤ
  randomPropertiesSeed : ℤ
  itemContext : ℕ
  flags : LootEntryFlags
  allowedLooters : List ObjectGuid
  rollWinner : ObjectGuid
  ffaLootedBy : List ObjectGuid
  taken : Bool
deriving DecidableEq

namespace LootEntry

def addAllowedLooterLikeCpp (entry : LootEntry) (player : ObjectGuid) : LootEntry :=
  if !player.isEmpty && !entry.allowedLooters.contains player then
    { entry with allowedLooters := entry.allowedLooters ++ [player] }
  else entry

def hasAllowedLooterLikeCpp (entry : LootEntry) (player : ObjectGuid) : Bool :=
  entry.allowedLooters.contains player

def rollWinnerAllowsLikeCpp (entry : LootEntry) (player : ObjectGuid) : Bool :=
  entry.rollWinner.isEmpty || entry.rollWinner == player

def isLootedForPlayerLikeCpp (entry : LootEntry) (player : ObjectGuid) : Bool :=
  if entry.flags.freeforall then entry.ffaLootedBy.contains player else entry.taken

def markLootedForPlayerLikeCpp (entry : LootEntry) (player : ObjectGuid) : LootEntry :=
  if entry.flags.freeforall then
    if !player.isEmpty && !entry.ffaLootedBy.contains player then
      { entry with ffaLootedBy := entry.ffaLootedBy ++ [player] }
    else entry
  else { entry with taken := true }

end LootEntry

/-- Server-side loot state for one loot object. -/
structure CreatureLoot where
  lootGuid : ObjectGuid
  coins : ℕ
  unlootedCount : ℕ
  lootType : ℕ
  dungeonEncounterId : ℕ
  lootMethod : ℕ
  lootMaster : ObjectGuid
  roundRobinPlayer : ObjectGuid
  playerFfaItems : List (ObjectGuid × List NotNormalLootItem)
  playersLooting : List ObjectGuid
  allowedLooters : List ObjectGuid
  items : List LootEntry
  lootedByPlayer : Bool
deriving DecidableEq

namespace CreatureLoot

def isLootedLikeCpp (loot : CreatureLoot) : Bool := loot.coins == 0 && loot.unlootedCount == 0

def itemLikeCpp (loot : CreatureLoot) (lootListId : ℕ) : Option LootEntry :=
  loot.items.find? (fun entry => entry.lootListId == lootListId)

/-- Mark the private copy of a free-for-all item in the player's own list. -/
def markPlayerFfaItem (player : ObjectGuid) (lootListId : ℕ)
    (lists : List (ObjectGuid × List NotNormalLootItem)) :
    List (ObjectGuid × List NotNormalLootItem) :=
  modifyFirst (fun l => l.1 == player)
    (fun l => (l.1, modifyFirst (fun item => item.lootListId == lootListId)
      (fun item => { item with isLooted := true }) l.2)) lists

/-- Mark an item as looted by `player`; `false` when there is nothing left to mark. -/
def markItemLootedForPlayerLikeCpp (loot : CreatureLoot) (lootListId : ℕ)
    (player : ObjectGuid) : Bool × CreatureLoot :=
  match loot.itemLikeCpp lootListId with
  | none => (false, loot)
  | some entry =>
    if entry.isLootedForPlayerLikeCpp player then (false, loot)
    else
      (true, { loot with
        items := modifyFirst (fun e => e.lootListId == lootListId)
          (fun e => e.markLootedForPlayerLikeCpp player) loot.items
        playerFfaItems :=
          if entry.flags.freeforall then markPlayerFfaItem player lootListId loot.playerFfaItems
          else loot.playerFfaItems
        unlootedCount := loot.unlootedCount - 1 })

end CreatureLoot

/-! ## Preparing a shared creature pool

What is completed before a generation is published: who may loot which item, the
private lists of the free-for-all items, and the 8-bit count of what is left. -/

/-- Append `items` to the list of `player`, or start one. -/
def pushPlayerFfaItems (player : ObjectGuid) (items : List NotNormalLootItem)
    (lists : List (ObjectGuid × List NotNormalLootItem)) :
    List (ObjectGuid × List NotNormalLootItem) :=
  match lists.find? (fun l => l.1 == player) with
  | some _ => modifyFirst (fun l => l.1 == player) (fun l => (l.1, l.2 ++ items)) lists
  | none => lists ++ [(player, items)]

/-- What `mark_loot_allowed_for_player_like_cpp` carries through its second loop. -/
structure AllowAcc where
  items : List LootEntry
  ffaItems : List NotNormalLootItem
  unlootedCount : ℕ

def allowEntry (playerGuid : ObjectGuid) (existingFfaItemIds : List ℕ) (acc : AllowAcc)
    (entry : LootEntry) : AllowAcc :=
  if entry.flags.freeforall && entry.hasAllowedLooterLikeCpp playerGuid &&
      !existingFfaItemIds.contains entry.lootListId then
    { items := acc.items ++ [entry]
      ffaItems := acc.ffaItems ++ [{ lootListId := entry.lootListId, isLooted := false }]
      unlootedCount := saturatingAdd 8 acc.unlootedCount 1 }
  else if !entry.flags.freeforall && entry.hasAllowedLooterLikeCpp playerGuid &&
      !entry.flags.counted then
    { acc with
      items := acc.items ++ [{ entry with flags := { entry.flags with counted := true } }]
      unlootedCount := saturatingAdd 8 acc.unlootedCount 1 }
  else { acc with items := acc.items ++ [entry] }

/-- The first loop: an item nobody was named for, or one free for all, admits the player. -/
def admitLooter (playerGuid : ObjectGuid) (entry : LootEntry) : LootEntry :=
  if entry.allowedLooters.isEmpty || entry.flags.freeforall then
    entry.addAllowedLooterLikeCpp playerGuid
  else entry

def markLootAllowedForPlayerLikeCpp (loot : CreatureLoot) (playerGuid : ObjectGuid) :
    CreatureLoot :=
  let allowedLooters :=
    if !playerGuid.isEmpty && !loot.allowedLooters.contains playerGuid then
      loot.allowedLooters ++ [playerGuid]
    else loot.allowedLooters
  let existingFfaItemIds :=
    ((loot.playerFfaItems.find? (fun l => l.1 == playerGuid)).map
      (fun l => l.2.map NotNormalLootItem.lootListId)).getD []
  let acc := (loot.items.map (admitLooter playerGuid)).foldl (allowEntry playerGuid existingFfaItemIds)
    { items := [], ffaItems := [], unlootedCount := loot.unlootedCount }
  { loot with
    allowedLooters := allowedLooters
    items := acc.items
    unlootedCount := acc.unlootedCount
    playerFfaItems :=
      if acc.ffaItems.isEmpty then loot.playerFfaItems
      else pushPlayerFfaItems playerGuid acc.ffaItems loot.playerFfaItems }

/-- What the rebuild carries through its loop over the items. -/
structure RebuildAcc where
  items : List LootEntry
  playerFfaItems : List (ObjectGuid × List NotNormalLootItem)
  unlootedCount : ℕ

/-- The inner loop over the looters of one free-for-all item. -/
def rebuildLooter (entry : LootEntry) (acc : RebuildAcc) (looter : ObjectGuid) : RebuildAcc :=
  let isLooted := entry.ffaLootedBy.contains looter
  { acc with
    playerFfaItems :=
      pushPlayerFfaItems looter [{ lootListId := entry.lootListId, isLooted }] acc.playerFfaItems
    unlootedCount :=
      if isLooted then acc.unlootedCount else saturatingAdd 8 acc.unlootedCount 1 }

def rebuildEntry (acc : RebuildAcc) (entry : LootEntry) : RebuildAcc :=
  if entry.flags.freeforall then
    let acc := entry.allowedLooters.foldl (rebuildLooter entry) acc
    { acc with
      items := acc.items ++ [{ entry with flags := { entry.flags with counted := false } }] }
  else
    let counted := !entry.allowedLooters.isEmpty
    { acc with
      items := acc.items ++ [{ entry with flags := { entry.flags with counted := counted } }]
      unlootedCount :=
        if counted && !entry.taken then saturatingAdd 8 acc.unlootedCount 1
        else acc.unlootedCount }

def rebuildRepresentedPersonalLootCountsPreservingConsumedLikeCpp (loot : CreatureLoot) :
    CreatureLoot :=
  let acc := loot.items.foldl rebuildEntry { items := [], playerFfaItems := [], unlootedCount := 0 }
  { loot with
    items := acc.items
    playerFfaItems := acc.playerFfaItems
    unlootedCount := acc.unlootedCount }

def prepareRepresentedSharedCreatureLootGenerationLikeCpp (loot : CreatureLoot)
    (allowedLooters : List ObjectGuid) : CreatureLoot :=
  rebuildRepresentedPersonalLootCountsPreservingConsumedLikeCpp
    (allowedLooters.foldl markLootAllowedForPlayerLikeCpp loot)

/-! ## Claims on a prepared pool -/

/-- What a committed claim does to its pool. -/
inductive PoolCommit where
  | item (lootListId : ℕ) (player : ObjectGuid)
  | money
deriving DecidableEq

def PoolCommit.apply (loot : CreatureLoot) : PoolCommit → CreatureLoot
  | .item lootListId player => (loot.markItemLootedForPlayerLikeCpp lootListId player).2
  | .money => { loot with coins := 0 }

end RustyCore.Loot
