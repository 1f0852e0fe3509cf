import RustyCore.Library.KeyedTable
import RustyCore.Model.Group.Invites

/-! # Loading groups from the database

The rows of the two tables, the loads of one group and one member, and the start-up loop
over all rows. -/

namespace RustyCore.Group

structure GroupDbRow where
  leaderGuidLow : ℕ
  lootMethod : ℕ
  looterGuidLow : ℕ
  lootThreshold : ℕ
  groupFlags : BitVec 16
  dungeonDifficultyId : ℕ
  raidDifficultyId : ℕ
  legacyRaidDifficultyId : ℕ
  masterLooterGuidLow : ℕ
  dbStoreId : ℕ
  lfgDungeonId : Option ℕ
  lfgState : Option ℕ
deriving DecidableEq

structure GroupMemberDbRow where
  dbStoreId : ℕ
  memberGuidLow : ℕ
  memberFlags : BitVec 8
  subgroup : ℕ
  roles : ℕ
deriving DecidableEq

/-- `GroupDifficultyValidatorLikeCpp`: the loaded-difficulty checks of the data store. -/
structure GroupDifficultyValidator where
  checkLoadedDungeonDifficultyId : ℕ → ℕ
  checkLoadedRaidDifficultyId : ℕ → ℕ
  checkLoadedLegacyRaidDifficultyId : ℕ → ℕ

/-- `i64::try_from` of a `u64`, and the player of realm 1 with that id. -/
def playerFromLow (guidLow : ℕ) : Option ObjectGuid :=
  if guidLow < 2 ^ 63 then some (ObjectGuid.createPlayer 1 (BitVec.ofNat 64 guidLow)) else none

def representedLfgDbStateLikeCpp (groupFlags : BitVec 16) (dungeonId state : Option ℕ) :
    Option GroupLfgDbState :=
  if groupFlags &&& groupFlagLfg = 0 then none
  else if dungeonId.getD 0 = 0 || state.getD 0 = 0 then none
  else
    some
      { dungeonId := dungeonId.getD 0
        state :=
          if state.getD 0 = lfgStateDungeon || state.getD 0 = lfgStateFinishedDungeon then
            some (state.getD 0)
          else none }

namespace GroupInfo

/-- `loaded_from_db_like_cpp` on the fields of a row whose guids were converted. -/
def loadedFromDbLikeCpp (runtimeGroupGuid : ℕ) (row : GroupDbRow)
    (leaderGuid looterGuid masterLooterGuid : ObjectGuid) : GroupInfo where
  groupGuid := runtimeGroupGuid
  dbStoreId := row.dbStoreId
  leaderGuid := leaderGuid
  groupCategory := groupCategoryHome
  members := []
  memberSlots := []
  lootMethod := row.lootMethod
  looterGuid := looterGuid
  lootThreshold := row.lootThreshold
  masterLooterGuid := masterLooterGuid
  dungeonDifficultyId := row.dungeonDifficultyId
  raidDifficultyId := row.raidDifficultyId
  legacyRaidDifficultyId := row.legacyRaidDifficultyId
  lfgDbState := none
  lfgKicksLeft := if row.groupFlags &&& groupFlagLfg != 0 then lfgGroupMaxKicks else 0
  raidSubgroupCounts :=
    if row.groupFlags &&& groupFlagRaid != 0 then some (Vector.replicate maxRaidSubgroups 0)
    else none
  groupFlags := row.groupFlags
  readyCheckStarted := false
  readyCheckTimerMs := 0

def loadGroupFromDbRowValidatedLikeCpp (runtimeGroupGuid : ℕ) (row : GroupDbRow)
    (leader : Option GroupMemberCharacter) (difficultyStore : GroupDifficultyValidator) :
    Option GroupInfo :=
  match leader, playerFromLow row.leaderGuidLow, playerFromLow row.looterGuidLow,
      playerFromLow row.masterLooterGuidLow with
  | some _, some leaderGuid, some looterGuid, some masterLooterGuid =>
    let group := loadedFromDbLikeCpp runtimeGroupGuid
      { row with
        dungeonDifficultyId :=
          difficultyStore.checkLoadedDungeonDifficultyId row.dungeonDifficultyId
        raidDifficultyId := difficultyStore.checkLoadedRaidDifficultyId row.raidDifficultyId
        legacyRaidDifficultyId :=
          difficultyStore.checkLoadedLegacyRaidDifficultyId row.legacyRaidDifficultyId }
      leaderGuid looterGuid masterLooterGuid
    some { group with
      lfgDbState := representedLfgDbStateLikeCpp row.groupFlags row.lfgDungeonId row.lfgState }
  | _, _, _, _ => none

def loadedMemberFlags (group : GroupInfo) (memberFlags : BitVec 8) : BitVec 8 :=
  if group.everyoneIsAssistant then memberFlags ||| memberFlagAssistant else memberFlags

def loadMemberFromDbLikeCpp (group : GroupInfo) (guidLow : ℕ) (memberFlags : BitVec 8)
    (subgroup roles : ℕ) (character : Option GroupMemberCharacter) : Bool × GroupInfo :=
  match character, playerFromLow guidLow with
  | some character, some guid =>
    if group.raidSubgroupCounts.isSome && maxRaidSubgroups ≤ subgroup then (false, group)
    else
      -- A member that was loaded before is loaded again.
      let dropped := group.removeMember guid
      match dropped.subgroupCounterIncreaseLikeCpp subgroup with
      | none => (false, dropped)
      | some counted =>
        (true, { counted with
          members := counted.members ++ [guid]
          memberSlots := counted.memberSlots ++
            [{ guid := guid
               name := character.name
               race := character.race
               classId := character.classId
               subgroup := subgroup
               flags := group.loadedMemberFlags memberFlags
               roles := roles
               readyChecked := false }] })
  | _, _ => (false, group)

end GroupInfo

structure GroupLoadSummary where
  loadedGroups : ℕ
  loadedMemberRows : ℕ
  loadedMembers : ℕ
  skippedGroupRows : ℕ
  skippedMemberRows : ℕ
deriving DecidableEq

structure LoadState where
  registry : GroupRegistry
  summary : GroupLoadSummary

/-- The character cache that loading consults. -/
abbrev CharacterCache := Dict ℕ GroupMemberCharacter

variable (characterCache : CharacterCache) (difficultyStore : GroupDifficultyValidator)

/-- The loop over the group rows; a skipped row still draws a runtime id. -/
def loadGroupRow (state : LoadState) (row : GroupDbRow) : LoadState :=
  let (runtimeGroupGuid, ids) := state.registry.ids.generateGroupIdLikeCpp
  let registry : GroupRegistry := { state.registry with ids := ids }
  match GroupInfo.loadGroupFromDbRowValidatedLikeCpp runtimeGroupGuid row
      (characterCache.lookup row.leaderGuidLow) difficultyStore with
  | none =>
    { registry := registry
      summary := { state.summary with skippedGroupRows := state.summary.skippedGroupRows + 1 } }
  | some group =>
    let registry := registry.registerGroupLikeCpp group
    let ids := (registry.ids.registerGroupDbStoreIdLikeCpp row.dbStoreId group.groupGuid)
    { registry := { registry with
        ids := ids.advanceNextGroupDbStoreIdAfterLoadLikeCpp row.dbStoreId }
      summary := { state.summary with loadedGroups := state.summary.loadedGroups + 1 } }

/-- The loop over the member rows. -/
def loadMemberRow (state : LoadState) (row : GroupMemberDbRow) : LoadState :=
  let summary := { state.summary with loadedMemberRows := state.summary.loadedMemberRows + 1 }
  let skipped := { summary with skippedMemberRows := summary.skippedMemberRows + 1 }
  match state.registry.ids.groupGuidByDbStoreIdLikeCpp row.dbStoreId with
  | none => { state with summary := skipped }
  | some runtimeGroupGuid =>
    match state.registry.groups.lookup runtimeGroupGuid with
    | none => { state with summary := skipped }
    | some group =>
      let (loaded, group) := group.loadMemberFromDbLikeCpp row.memberGuidLow row.memberFlags
        row.subgroup row.roles (characterCache.lookup row.memberGuidLow)
      { registry := { state.registry with
          groups := state.registry.groups.insert runtimeGroupGuid group }
        summary :=
          if loaded then { summary with loadedMembers := summary.loadedMembers + 1 }
          else skipped }

def loadGroupsFromDbRowsLikeCpp (registry : GroupRegistry) (groupRows : List GroupDbRow)
    (memberRows : List GroupMemberDbRow) : LoadState :=
  memberRows.foldl (loadMemberRow characterCache)
    (groupRows.foldl (loadGroupRow characterCache difficultyStore) ⟨registry, ⟨0, 0, 0, 0, 0⟩⟩)

end RustyCore.Group

/-! ## The database image of a group

The tables that the persistence intents write, the reload of one group from them, and runs of
registry transitions on one group with the intents they emit. -/

namespace RustyCore.Group

/-- The tables `groups` and `group_member`, with their primary keys. -/
structure GroupTables where
  groups : KeyedTable GroupDbRow.dbStoreId
  members : KeyedTable GroupMemberDbRow.memberGuidLow

/-- `guid.counter() as u64` -/
def counterLow (guid : ObjectGuid) : ℕ := guid.counter.toNat

namespace GroupTables

def empty : GroupTables := ⟨.empty, .empty⟩

def updateGroup (tables : GroupTables) (dbStoreId : ℕ) (change : GroupDbRow → GroupDbRow)
    (hchange : ∀ row, (change row).dbStoreId = row.dbStoreId) : GroupTables :=
  { tables with groups := tables.groups.update dbStoreId change hchange }

def updateMember (tables : GroupTables) (memberGuid : ObjectGuid)
    (change : GroupMemberDbRow → GroupMemberDbRow)
    (hchange : ∀ row, (change row).memberGuidLow = row.memberGuidLow) : GroupTables :=
  { tables with members := tables.members.update (counterLow memberGuid) change hchange }

/-- The statement of an intent. An `INSERT` of a key that is there fails and changes nothing. -/
def execute (tables : GroupTables) : GroupPersistenceIntent → GroupTables
  | .insertGroup dbStoreId leaderGuid lootMethod looterGuid lootThreshold groupFlags
      dungeonDifficultyId raidDifficultyId legacyRaidDifficultyId masterLooterGuid =>
      { tables with
        groups := (tables.groups.insert
          { leaderGuidLow := counterLow leaderGuid
            lootMethod
            looterGuidLow := counterLow looterGuid
            lootThreshold
            groupFlags
            dungeonDifficultyId
            raidDifficultyId
            legacyRaidDifficultyId
            masterLooterGuidLow := counterLow masterLooterGuid
            dbStoreId
            lfgDungeonId := none
            lfgState := none }).getD tables.groups }
  | .insertMember dbStoreId memberGuid memberFlags subgroup roles =>
    { tables with
      members := (tables.members.insert
        ⟨dbStoreId, counterLow memberGuid, memberFlags, subgroup, roles⟩).getD tables.members }
  | .deleteGroup dbStoreId => { tables with groups := tables.groups.delete dbStoreId }
  | .deleteAllMembers dbStoreId =>
    { tables with members := tables.members.deleteWhere fun row => row.dbStoreId = dbStoreId }
  -- The rows of the dungeon finder are in a table of their own.
  | .deleteLfgData _ => tables
  | .deleteMember memberGuid =>
    { tables with members := tables.members.delete (counterLow memberGuid) }
  | .updateLeader dbStoreId leaderGuid =>
    tables.updateGroup dbStoreId (fun row => { row with leaderGuidLow := counterLow leaderGuid })
      fun _ => rfl
  | .updateGroupType dbStoreId groupFlags =>
    tables.updateGroup dbStoreId (fun row => { row with groupFlags }) fun _ => rfl
  | .updateMemberSubgroup memberGuid subgroup =>
    tables.updateMember memberGuid (fun row => { row with subgroup }) fun _ => rfl
  | .updateMemberFlags memberGuid flags =>
    tables.updateMember memberGuid (fun row => { row with memberFlags := flags }) fun _ => rfl
  | .updateDifficulty dbStoreId .dungeon difficultyId =>
    tables.updateGroup dbStoreId (fun row => { row with dungeonDifficultyId := difficultyId })
      fun _ => rfl
  | .updateDifficulty dbStoreId .raid difficultyId =>
    tables.updateGroup dbStoreId (fun row => { row with raidDifficultyId := difficultyId })
      fun _ => rfl
  | .updateDifficulty dbStoreId .legacyRaid difficultyId =>
    tables.updateGroup dbStoreId (fun row => { row with legacyRaidDifficultyId := difficultyId })
      fun _ => rfl

/-- The statements of the intents, one after the other. -/
def replay (tables : GroupTables) (intents : List GroupPersistenceIntent) : GroupTables :=
  intents.foldl execute tables

end GroupTables

/-- The validator that leaves every difficulty as it is. -/
def GroupDifficultyValidator.unchanged : GroupDifficultyValidator := ⟨id, id, id⟩

/-- The load of one group and of the member rows that name it, where every character is cached. -/
def reloadGroup (characters : ℕ → GroupMemberCharacter) (runtimeGroupGuid : ℕ) (row : GroupDbRow)
    (memberRows : List GroupMemberDbRow) : Option GroupInfo :=
  (GroupInfo.loadGroupFromDbRowValidatedLikeCpp runtimeGroupGuid row
    (some (characters row.leaderGuidLow)) .unchanged).map fun group =>
      (memberRows.filter fun member => member.dbStoreId = row.dbStoreId).foldl (fun group member =>
        (group.loadMemberFromDbLikeCpp member.memberGuidLow member.memberFlags member.subgroup
          member.roles (some (characters member.memberGuidLow))).2) group

/-! ## Runs of one group -/

/-- A call of a registry transition on one group. -/
inductive GroupChange where
  /-- The accepted invite of another player to the group. -/
  | join (pending : PendingInvites) (inviteeGuid : ObjectGuid) (partyIndex : Option ℕ)
      (availableNewGroupLeader : Option ObjectGuid)
  | call (call : GroupCall)

namespace GroupRegistry

/-- What a call makes of the registry and the intents it emits, if it succeeds. -/
def change (registry : GroupRegistry) (groupGuid : ℕ) :
    GroupChange → Option (GroupRegistry × List GroupPersistenceIntent)
  | .join pending inviteeGuid partyIndex availableNewGroupLeader =>
    if (pending.lookup inviteeGuid).bind PendingInvite.groupGuid = some groupGuid then
      match registry.acceptInviteLikeCpp pending inviteeGuid partyIndex
          availableNewGroupLeader with
      | (.joinedExisting _ _ persistence, registry, _) => some (registry, persistence)
      | _ => none
    else none
  | .call call => (registry.transition groupGuid call).toOption

/-- The successful calls one after the other, with all their intents. -/
def changes (registry : GroupRegistry) (groupGuid : ℕ) :
    List GroupChange → Option (GroupRegistry × List GroupPersistenceIntent)
  | [] => some (registry, [])
  | change :: rest =>
    (registry.change groupGuid change).bind fun result =>
      (result.1.changes groupGuid rest).map fun final => (final.1, result.2 ++ final.2)

end GroupRegistry

end RustyCore.Group
