import RustyCore.Library.Dict
import RustyCore.Model.Group.GroupInfo

/-! # The group registry

The allocators of the group ids, the transitions on one group, and the registry of all. -/

/-! ## Identifiers

The process-wide allocators: the runtime counter, the counter of the persistent ids,
the ids that were freed, and the index from persistent to runtime ids. -/

namespace RustyCore.Group

structure Identifiers where
  nextGroupId : ℕ
  nextGroupDbStoreId : ℕ
  freedGroupDbStoreIds : List ℕ
  /-- `GROUP_DB_STORE`, an array of optional runtime ids that grows on demand. -/
  groupDbStore : Dict ℕ ℕ
deriving DecidableEq

namespace Identifiers

/-- The allocators when the process starts. -/
def initial : Identifiers where
  nextGroupId := 1
  nextGroupDbStoreId := 1
  freedGroupDbStoreIds := []
  groupDbStore := ∅

def generateGroupIdLikeCpp (ids : Identifiers) : ℕ × Identifiers :=
  (ids.nextGroupId, { ids with nextGroupId := wrappingAdd 64 ids.nextGroupId 1 })

/-- The smallest freed id, else the next one of the counter. No freed id is listed
twice and the order of the list is not observed, so `swap_remove` is `erase`. -/
def generateGroupDbStoreIdLikeCpp (ids : Identifiers) : ℕ × Identifiers :=
  match ids.freedGroupDbStoreIds.min? with
  | some id => (id, { ids with freedGroupDbStoreIds := ids.freedGroupDbStoreIds.erase id })
  | none =>
    (ids.nextGroupDbStoreId,
      { ids with nextGroupDbStoreId := wrappingAdd 32 ids.nextGroupDbStoreId 1 })

def advanceNextGroupDbStoreIdAfterLoadLikeCpp (ids : Identifiers) (storageId : ℕ) : Identifiers :=
  if ids.nextGroupDbStoreId = storageId then
    { ids with nextGroupDbStoreId := saturatingAdd 32 storageId 1 }
  else ids

def freeGroupDbStoreIdLikeCpp (ids : Identifiers) (storageId : ℕ) : Identifiers :=
  if storageId = 0 then ids
  else
    { ids with
      groupDbStore := ids.groupDbStore.erase storageId
      freedGroupDbStoreIds :=
        if ids.freedGroupDbStoreIds.contains storageId then ids.freedGroupDbStoreIds
        else ids.freedGroupDbStoreIds ++ [storageId] }

def registerGroupDbStoreIdLikeCpp (ids : Identifiers) (storageId runtimeGroupGuid : ℕ) :
    Identifiers :=
  { ids with groupDbStore := ids.groupDbStore.insert storageId runtimeGroupGuid }

def groupGuidByDbStoreIdLikeCpp (ids : Identifiers) (storageId : ℕ) : Option ℕ :=
  ids.groupDbStore.lookup storageId

end Identifiers

end RustyCore.Group

/-! ## Registry transitions

Every transition either fails and changes nothing, or returns the new group with the
persistence intents it emits. -/

namespace RustyCore.Group

inductive GroupAuthorityError where
  | missingGroup
  | missingMember
  | notLeader
  | notLeaderOrAssistant
  | invalidSubgroup
  | subgroupFull
  | notRaid
  | groupTooLarge
  | noChange
  | lfgGroup
  | lfgBootLimit
  | lfgBootTooFewPlayers
  | lfgBootDungeonComplete
  | lfgBootLootRolls
  | lfgBootInCombat
  | lfgKickOwnedByVote
  | inviteRestricted
  | targetIsLeader
deriving DecidableEq

inductive GroupPersistenceIntent where
  | insertGroup (dbStoreId : ℕ) (leaderGuid : ObjectGuid) (lootMethod : ℕ)
      (looterGuid : ObjectGuid) (lootThreshold : ℕ) (groupFlags : BitVec 16)
      (dungeonDifficultyId raidDifficultyId legacyRaidDifficultyId : ℕ)
      (masterLooterGuid : ObjectGuid)
  | insertMember (dbStoreId : ℕ) (memberGuid : ObjectGuid) (memberFlags : BitVec 8)
      (subgroup roles : ℕ)
  | deleteGroup (dbStoreId : ℕ)
  | deleteAllMembers (dbStoreId : ℕ)
  | deleteLfgData (dbStoreId : ℕ)
  | deleteMember (memberGuid : ObjectGuid)
  | updateLeader (dbStoreId : ℕ) (leaderGuid : ObjectGuid)
  | updateGroupType (dbStoreId : ℕ) (groupFlags : BitVec 16)
  | updateMemberSubgroup (memberGuid : ObjectGuid) (subgroup : ℕ)
  | updateMemberFlags (memberGuid : ObjectGuid) (flags : BitVec 8)
  | updateDifficulty (dbStoreId : ℕ) (kind : GroupDifficultyKind) (difficultyId : ℕ)
deriving DecidableEq

structure GroupTransitionOutcome (τ : Type) where
  group : GroupInfo
  facts : τ
  persistence : List GroupPersistenceIntent

inductive GroupMemberRemovalKind where
  | leave
  | kick (actorGuid : ObjectGuid)
      (actorInBattleground targetHasLootRolls anyMemberInActorMapCombat : Bool)
deriving DecidableEq

structure GroupMemberRemovalFacts where
  removedGuid : ObjectGuid
  dbStoreId : ℕ
  disbanded : Bool
  newLeaderGuid : Option ObjectGuid
  remainingMembers : List ObjectGuid
deriving DecidableEq

/-- A transition on one group that reports facts of type `τ`. -/
abbrev GroupTransition (τ : Type) :=
  GroupInfo → Except GroupAuthorityError (GroupTransitionOutcome τ)

namespace GroupInfo

/-! ## Joining and leaving -/

/-- The intent for a member that has just been added. -/
def insertMemberIntent (group : GroupInfo) (guid : ObjectGuid) : GroupPersistenceIntent :=
  .insertMember group.dbStoreId guid 0
    (((group.memberSlotLikeCpp guid).map GroupMemberSlot.subgroup).getD 0) 0

def insertGroupIntent (group : GroupInfo) : GroupPersistenceIntent :=
  .insertGroup group.dbStoreId group.leaderGuid group.lootMethod group.looterGuid
    group.lootThreshold group.groupFlags group.dungeonDifficultyId group.raidDifficultyId
    group.legacyRaidDifficultyId group.masterLooterGuid

/-- The guards of a kick, before the target is looked up. -/
def kickError (group : GroupInfo) (memberGuid actorGuid : ObjectGuid)
    (actorInBattleground targetHasLootRolls anyMemberInActorMapCombat : Bool) :
    Option GroupAuthorityError :=
  if group.isLfgGroupLikeCpp then
    if group.lfgKicksLeft = 0 then some .lfgBootLimit
    else if group.members.length ≤ lfgGroupKickVotesNeeded then some .lfgBootTooFewPlayers
    else if group.lfgDbState.bind GroupLfgDbState.state = some lfgStateFinishedDungeon then
      some .lfgBootDungeonComplete
    else if targetHasLootRolls then some .lfgBootLootRolls
    else if anyMemberInActorMapCombat then some .lfgBootInCombat
    else none
  else if !group.isLeaderLikeCpp actorGuid && !group.isAssistantLikeCpp actorGuid then
    some .notLeaderOrAssistant
  else if actorInBattleground then some .inviteRestricted
  else if group.leaderGuid = memberGuid then some .targetIsLeader
  else none

def removalError (group : GroupInfo) (memberGuid : ObjectGuid) :
    GroupMemberRemovalKind → Option GroupAuthorityError
  | .leave => if !group.members.contains memberGuid then some .missingMember else none
  | .kick actorGuid battleground rolls combat =>
    match group.kickError memberGuid actorGuid battleground rolls combat with
    | some error => some error
    | none =>
      if !group.members.contains memberGuid then some .missingMember
      else if group.isLfgGroupLikeCpp then some .lfgKickOwnedByVote
      else none

/-- The connected member that takes over from a leader who left. -/
def successor (group : GroupInfo) (previousLeader memberGuid : ObjectGuid)
    (connectedMembersInOrder : List ObjectGuid) : Option ObjectGuid :=
  if 2 ≤ group.members.length && previousLeader == memberGuid then
    connectedMembersInOrder.find? (fun candidate => group.members.contains candidate)
  else none

def removeMemberLikeCpp (memberGuid : ObjectGuid) (kind : GroupMemberRemovalKind)
    (connectedMembersInOrder : List ObjectGuid) : GroupTransition GroupMemberRemovalFacts :=
  fun group =>
  match group.removalError memberGuid kind with
  | some error => .error error
  | none =>
    let removed := group.removeMember memberGuid
    let led := (removed.successor group.leaderGuid memberGuid connectedMembersInOrder).bind
      fun successor => (removed.changeLeaderLikeCpp successor).map fun r => (r.1, successor)
    let final := (led.map Prod.fst).getD removed
    let newLeaderGuid := led.map Prod.snd
    let disbanded := decide (final.members.length < 2)
    .ok
      { group := final
        facts :=
          { removedGuid := memberGuid
            dbStoreId := final.dbStoreId
            disbanded := disbanded
            newLeaderGuid := newLeaderGuid
            remainingMembers := final.members }
        persistence :=
          if disbanded then
            [.deleteGroup final.dbStoreId, .deleteAllMembers final.dbStoreId,
              .deleteLfgData final.dbStoreId]
          else
            .deleteMember memberGuid ::
              (newLeaderGuid.map (GroupPersistenceIntent.updateLeader final.dbStoreId)).toList }

/-! ## Raids and subgroups -/

def convertGroupLikeCpp (actorGuid : ObjectGuid) (raid : Bool) :
    GroupTransition (BitVec 16 × ℕ) := fun group =>
  if !group.isLeaderLikeCpp actorGuid then .error .notLeader
  else if group.members.length < 2 then .error .missingMember
  else
    match if raid then some group.convertToRaidLikeCpp else group.convertToGroupLikeCpp with
    | none => .error .groupTooLarge
    | some group =>
      .ok ⟨group, (group.groupFlags, group.dbStoreId),
        [.updateGroupType group.dbStoreId group.groupFlags]⟩

def changeMemberSubgroupLikeCpp (actorGuid memberGuid : ObjectGuid) (subgroup : ℕ) :
    GroupTransition (ObjectGuid × ℕ) := fun group =>
  if !group.isLeaderLikeCpp actorGuid && !group.isAssistantLikeCpp actorGuid then
    .error .notLeaderOrAssistant
  else if !group.isRaidGroup then .error .notRaid
  else if maxRaidSubgroups ≤ subgroup then .error .invalidSubgroup
  else if !group.hasFreeSlotSubGroupLikeCpp subgroup then .error .subgroupFull
  else if !group.members.contains memberGuid then .error .missingMember
  else
    match group.changeMemberGroupLikeCpp memberGuid subgroup with
    | none => .error .noChange
    | some group =>
      .ok ⟨group, (memberGuid, subgroup), [.updateMemberSubgroup memberGuid subgroup]⟩

def swapMemberSubgroupsLikeCpp (actorGuid first second : ObjectGuid) :
    GroupTransition (List (ObjectGuid × ℕ)) := fun group =>
  if !group.isLeaderLikeCpp actorGuid && !group.isAssistantLikeCpp actorGuid then
    .error .notLeaderOrAssistant
  else
    match group.swapMembersGroupsLikeCpp first second with
    | none => .error .noChange
    | some (group, facts) =>
      .ok ⟨group, facts, facts.map fun fact => .updateMemberSubgroup fact.1 fact.2⟩

/-! ## Leader and flags -/

def changeLeaderTransitionLikeCpp (actorGuid newLeaderGuid : ObjectGuid) :
    GroupTransition (ℕ × BitVec 8) := fun group =>
  if !group.isLeaderLikeCpp actorGuid then .error .notLeader
  else if !group.members.contains newLeaderGuid then .error .missingMember
  else
    match group.changeLeaderLikeCpp newLeaderGuid with
    | none => .error .noChange
    | some (group, finalFlags) =>
      .ok ⟨group, (group.dbStoreId, finalFlags),
        (if group.dbStoreId ≠ 0 then [.updateLeader group.dbStoreId newLeaderGuid] else []) ++
          [.updateMemberFlags newLeaderGuid finalFlags]⟩

def setMemberFlagTransitionLikeCpp (actorGuid memberGuid : ObjectGuid) (apply : Bool)
    (flag : BitVec 8) : GroupTransition (BitVec 8) := fun group =>
  if !group.isLeaderLikeCpp actorGuid then .error .notLeader
  else
    match group.setGroupMemberFlagLikeCpp memberGuid apply flag with
    | none => .error .missingMember
    | some (group, flags) => .ok ⟨group, flags, [.updateMemberFlags memberGuid flags]⟩

def setEveryoneAssistantTransitionLikeCpp (actorGuid : ObjectGuid) (apply : Bool) :
    GroupTransition (BitVec 16 × ℕ) := fun group =>
  if !group.isLeaderLikeCpp actorGuid then .error .notLeader
  else
    let group := group.setEveryoneIsAssistantLikeCpp apply
    .ok ⟨group, (group.groupFlags, group.dbStoreId),
      [.updateGroupType group.dbStoreId group.groupFlags]⟩

/-- The member flag of a party assignment. -/
def assignmentFlag (assignment : ℕ) : Option (BitVec 8) :=
  if assignment = groupAssignMainassist then some memberFlagMainassist
  else if assignment = groupAssignMaintank then some memberFlagMaintank
  else none

def setPartyAssignmentTransitionLikeCpp (actorGuid memberGuid : ObjectGuid) (assignment : ℕ)
    (apply : Bool) : GroupTransition (List (ObjectGuid × BitVec 8)) := fun group =>
  if !group.isLeaderLikeCpp actorGuid && !group.isAssistantLikeCpp actorGuid then
    .error .notLeaderOrAssistant
  else
    match assignmentFlag assignment with
    | none => .ok ⟨group, [], []⟩
    | some flag =>
      let cleared := group.removeUniqueGroupMemberFlagLikeCpp flag
      -- A failed update leaves the cleared flags behind and emits nothing.
      let (group, facts) :=
        (cleared.setGroupMemberFlagUpdatesLikeCpp memberGuid apply flag).getD (cleared, [])
      .ok ⟨group, facts, facts.map fun fact => .updateMemberFlags fact.1 fact.2⟩

def setDifficultyTransitionLikeCpp (actorGuid : ObjectGuid) (difficultyId : ℕ)
    (kind : GroupDifficultyKind) : GroupTransition ℕ := fun group =>
  if !group.isLeaderLikeCpp actorGuid then .error .notLeader
  else if group.isLfgGroupLikeCpp then .error .lfgGroup
  else
    match group.setDifficultyIdLikeCpp kind difficultyId with
    | none => .error .noChange
    | some group =>
      .ok ⟨group, group.dbStoreId, [.updateDifficulty group.dbStoreId kind difficultyId]⟩

end GroupInfo

/-- A call of one of the transitions on an existing group. -/
inductive GroupCall where
  | removeMember (memberGuid : ObjectGuid) (kind : GroupMemberRemovalKind)
      (connectedMembersInOrder : List ObjectGuid)
  | convertGroup (actorGuid : ObjectGuid) (raid : Bool)
  | changeMemberSubgroup (actorGuid memberGuid : ObjectGuid) (subgroup : ℕ)
  | swapMemberSubgroups (actorGuid first second : ObjectGuid)
  | changeLeader (actorGuid newLeaderGuid : ObjectGuid)
  | setMemberFlag (actorGuid memberGuid : ObjectGuid) (apply : Bool) (flag : BitVec 8)
  | setEveryoneAssistant (actorGuid : ObjectGuid) (apply : Bool)
  | setPartyAssignment (actorGuid memberGuid : ObjectGuid) (assignment : ℕ) (apply : Bool)
  | setDifficulty (actorGuid : ObjectGuid) (difficultyId : ℕ) (kind : GroupDifficultyKind)
deriving DecidableEq

/-- The group a call leaves in the registry, `none` if it is disbanded, and the intents. -/
abbrev GroupCallResult := Option GroupInfo × List GroupPersistenceIntent

def GroupTransitionOutcome.kept {τ : Type} (outcome : GroupTransitionOutcome τ) :
    GroupCallResult := (some outcome.group, outcome.persistence)

def GroupCall.apply (group : GroupInfo) : GroupCall → Except GroupAuthorityError GroupCallResult
  | .removeMember memberGuid kind connected =>
    (group.removeMemberLikeCpp memberGuid kind connected).map fun outcome =>
      (if outcome.facts.disbanded then none else some outcome.group, outcome.persistence)
  | .convertGroup actorGuid raid => (group.convertGroupLikeCpp actorGuid raid).map GroupTransitionOutcome.kept
  | .changeMemberSubgroup actorGuid memberGuid subgroup =>
    (group.changeMemberSubgroupLikeCpp actorGuid memberGuid subgroup).map GroupTransitionOutcome.kept
  | .swapMemberSubgroups actorGuid first second =>
    (group.swapMemberSubgroupsLikeCpp actorGuid first second).map GroupTransitionOutcome.kept
  | .changeLeader actorGuid newLeaderGuid =>
    (group.changeLeaderTransitionLikeCpp actorGuid newLeaderGuid).map GroupTransitionOutcome.kept
  | .setMemberFlag actorGuid memberGuid apply flag =>
    (group.setMemberFlagTransitionLikeCpp actorGuid memberGuid apply flag).map GroupTransitionOutcome.kept
  | .setEveryoneAssistant actorGuid apply =>
    (group.setEveryoneAssistantTransitionLikeCpp actorGuid apply).map GroupTransitionOutcome.kept
  | .setPartyAssignment actorGuid memberGuid assignment apply =>
    (group.setPartyAssignmentTransitionLikeCpp actorGuid memberGuid assignment apply).map GroupTransitionOutcome.kept
  | .setDifficulty actorGuid difficultyId kind =>
    (group.setDifficultyTransitionLikeCpp actorGuid difficultyId kind).map GroupTransitionOutcome.kept

/-! ## The registry -/

/-- `GroupRegistry` together with the allocators it draws from. -/
structure GroupRegistry where
  groups : Dict ℕ GroupInfo
  ids : Identifiers
deriving DecidableEq

namespace GroupRegistry

def initial : GroupRegistry where
  groups := ∅
  ids := Identifiers.initial

/-- Store what a call left of the group under this key; a disbanded group gives its
persistent id back. -/
def settle (registry : GroupRegistry) (groupGuid dbStoreId : ℕ) (group : Option GroupInfo) :
    GroupRegistry :=
  match group with
  | some group => { registry with groups := registry.groups.insert groupGuid group }
  | none =>
    { groups := registry.groups.erase groupGuid
      ids := registry.ids.freeGroupDbStoreIdLikeCpp dbStoreId }

/-- Run a call on the group under this key. -/
def transition (registry : GroupRegistry) (groupGuid : ℕ) (call : GroupCall) :
    Except GroupAuthorityError (GroupRegistry × List GroupPersistenceIntent) :=
  match registry.groups.lookup groupGuid with
  | none => .error .missingGroup
  | some group =>
    (call.apply group).map fun result =>
      (registry.settle groupGuid group.dbStoreId result.1, result.2)

/-- Register a fully materialised group under its own runtime id. -/
def registerGroupLikeCpp (registry : GroupRegistry) (group : GroupInfo) : GroupRegistry :=
  let ids := registry.ids.registerGroupDbStoreIdLikeCpp group.dbStoreId group.groupGuid
  { groups := registry.groups.insert group.groupGuid group
    ids :=
      match registry.groups.lookup group.groupGuid with
      | none => ids
      | some previous =>
        if previous.dbStoreId ≠ group.dbStoreId then
          ids.freeGroupDbStoreIdLikeCpp previous.dbStoreId
        else ids }

def unregisterGroupLikeCpp (registry : GroupRegistry) (groupGuid : ℕ) : GroupRegistry :=
  match registry.groups.lookup groupGuid with
  | none => registry
  | some group =>
    { groups := registry.groups.erase groupGuid
      ids := registry.ids.freeGroupDbStoreIdLikeCpp group.dbStoreId }

/-- `GroupInfo::new`: a group with the next runtime id and a persistent id. -/
def newGroup (registry : GroupRegistry) (leader : ObjectGuid) : GroupInfo × GroupRegistry :=
  let (groupGuid, ids) := registry.ids.generateGroupIdLikeCpp
  let (dbStoreId, ids) := ids.generateGroupDbStoreIdLikeCpp
  (GroupInfo.new groupGuid dbStoreId leader, { registry with ids := ids })

def advanceLooterTransitionLikeCpp (registry : GroupRegistry) (groupGuid : ℕ)
    (eligibleMembers : List ObjectGuid) :
    Except GroupAuthorityError (GroupTransitionOutcome Bool) × GroupRegistry :=
  match registry.groups.lookup groupGuid with
  | none => (.error .missingGroup, registry)
  | some group =>
    let (facts, group) := group.updateLooterGuidLikeCpp eligibleMembers false
    (.ok { group, facts, persistence := [] },
      { registry with groups := registry.groups.insert groupGuid group })

def getGroupByDbStoreIdLikeCpp (registry : GroupRegistry) (storageId : ℕ) : Option GroupInfo :=
  (registry.ids.groupGuidByDbStoreIdLikeCpp storageId).bind registry.groups.lookup

end GroupRegistry

end RustyCore.Group
