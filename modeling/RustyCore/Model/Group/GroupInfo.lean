import Mathlib.Data.Vector.Basic
import RustyCore.Library.FixedWidth
import RustyCore.Library.ModifyFirst
import RustyCore.Model.ObjectGuid

/-! # One group

The in-memory group with its three views of the roster: the member list, the member
slots and the counters of the raid subgroups. -/

namespace RustyCore.Group

def groupFlagRaid : BitVec 16 := 0x002

def groupFlagLfg : BitVec 16 := 0x008

def groupFlagEveryoneAssistant : BitVec 16 := 0x040

def groupCategoryHome : ℕ := 0

def memberFlagAssistant : BitVec 8 := 0x01

def memberFlagMaintank : BitVec 8 := 0x02

def memberFlagMainassist : BitVec 8 := 0x04

def groupAssignMaintank : ℕ := 0

def groupAssignMainassist : ℕ := 1

def maxGroupSize : ℕ := 5

def maxRaidSize : ℕ := 40

def maxRaidSubgroups : ℕ := maxRaidSize / maxGroupSize

def lfgGroupMaxKicks : ℕ := 3

def lfgGroupKickVotesNeeded : ℕ := 3

def lfgStateDungeon : ℕ := 5

def lfgStateFinishedDungeon : ℕ := 6

def lootMethodFreeForAll : ℕ := 0

def lootMethodPersonal : ℕ := 5

def itemQualityUncommon : ℕ := 2

def difficultyNormal : ℕ := 1

def difficultyNormalRaid : ℕ := 14

def difficulty10N : ℕ := 3

/-- The character-cache projection that loading a member reads. -/
structure GroupMemberCharacter where
  name : String
  race : ℕ
  classId : ℕ
deriving DecidableEq

structure GroupMemberSlot where
  guid : ObjectGuid
  name : String
  race : ℕ
  classId : ℕ
  subgroup : ℕ
  flags : BitVec 8
  roles : ℕ
  readyChecked : Bool
deriving DecidableEq

def GroupMemberSlot.joined (guid : ObjectGuid) (subgroup : ℕ) : GroupMemberSlot where
  guid := guid
  name := ""
  race := 0
  classId := 0
  subgroup := subgroup
  flags := 0
  roles := 0
  readyChecked := false

structure GroupLfgDbState where
  dungeonId : ℕ
  state : Option ℕ
deriving DecidableEq

inductive GroupDifficultyKind where
  | dungeon
  | raid
  | legacyRaid
deriving DecidableEq

structure GroupInfo where
  groupGuid : ℕ
  dbStoreId : ℕ
  leaderGuid : ObjectGuid
  groupCategory : ℕ
  members : List ObjectGuid
  memberSlots : List GroupMemberSlot
  lootMethod : ℕ
  looterGuid : ObjectGuid
  lootThreshold : ℕ
  masterLooterGuid : ObjectGuid
  dungeonDifficultyId : ℕ
  raidDifficultyId : ℕ
  legacyRaidDifficultyId : ℕ
  lfgDbState : Option GroupLfgDbState
  lfgKicksLeft : ℕ
  raidSubgroupCounts : Option (Vector ℕ maxRaidSubgroups)
  groupFlags : BitVec 16
  readyCheckStarted : Bool
  readyCheckTimerMs : ℤ
deriving DecidableEq

namespace GroupInfo

/-- `GroupInfo::new` with the identifiers it draws. -/
def new (groupGuid dbStoreId : ℕ) (leader : ObjectGuid) : GroupInfo where
  groupGuid := groupGuid
  dbStoreId := dbStoreId
  leaderGuid := leader
  groupCategory := groupCategoryHome
  members := [leader]
  memberSlots := [GroupMemberSlot.joined leader 0]
  lootMethod := lootMethodPersonal
  looterGuid := leader
  lootThreshold := itemQualityUncommon
  masterLooterGuid := ObjectGuid.empty
  dungeonDifficultyId := difficultyNormal
  raidDifficultyId := difficultyNormalRaid
  legacyRaidDifficultyId := difficulty10N
  lfgDbState := none
  lfgKicksLeft := 0
  raidSubgroupCounts := none
  groupFlags := 0
  readyCheckStarted := false
  readyCheckTimerMs := 0

def isRaidGroup (group : GroupInfo) : Bool := group.groupFlags &&& groupFlagRaid != 0

def isLfgGroupLikeCpp (group : GroupInfo) : Bool := group.groupFlags &&& groupFlagLfg != 0

/-- Whether every member is an assistant. -/
def everyoneIsAssistant (group : GroupInfo) : Bool :=
  group.groupFlags &&& groupFlagEveryoneAssistant != 0

def isFullLikeCpp (group : GroupInfo) : Bool :=
  decide ((if group.isRaidGroup then maxRaidSize else maxGroupSize) ≤ group.members.length)

def isLeaderLikeCpp (group : GroupInfo) (guid : ObjectGuid) : Bool := group.leaderGuid == guid

def isAssistantLikeCpp (group : GroupInfo) (guid : ObjectGuid) : Bool :=
  group.memberSlots.any fun slot => slot.guid == guid && slot.flags &&& memberFlagAssistant != 0

def memberSlotLikeCpp (group : GroupInfo) (guid : ObjectGuid) : Option GroupMemberSlot :=
  group.memberSlots.find? (fun slot => slot.guid == guid)

/-- The position of a member's slot. -/
def slotIndex (group : GroupInfo) (guid : ObjectGuid) : Option ℕ :=
  group.memberSlots.findIdx? (fun slot => slot.guid == guid)

/-! ## Subgroup counters -/

/-- `none` when the subgroup has no counter; a party keeps no counters at all. -/
def subgroupCounterIncreaseLikeCpp (group : GroupInfo) (subgroup : ℕ) : Option GroupInfo :=
  match group.raidSubgroupCounts with
  | none => some group
  | some counts =>
    if h : subgroup < maxRaidSubgroups then
      some { group with
        raidSubgroupCounts := some (counts.set subgroup (saturatingAdd 8 counts[subgroup] 1)) }
    else none

def subgroupCounterDecreaseLikeCpp (group : GroupInfo) (subgroup : ℕ) : GroupInfo :=
  match group.raidSubgroupCounts with
  | none => group
  | some counts =>
    if h : subgroup < maxRaidSubgroups then
      { group with raidSubgroupCounts := some (counts.set subgroup (counts[subgroup] - 1)) }
    else group

/-- One counter after a slot with this subgroup was seen. -/
def countSlot (counts : Vector ℕ maxRaidSubgroups) (slot : GroupMemberSlot) :
    Vector ℕ maxRaidSubgroups :=
  if h : slot.subgroup < maxRaidSubgroups then
    counts.set slot.subgroup (saturatingAdd 8 counts[slot.subgroup] 1)
  else counts

def initRaidSubgroupsCounterLikeCpp (group : GroupInfo) : GroupInfo :=
  { group with
    raidSubgroupCounts :=
      some (group.memberSlots.foldl countSlot (Vector.replicate maxRaidSubgroups 0)) }

def hasFreeSlotSubGroupLikeCpp (group : GroupInfo) (subgroup : ℕ) : Bool :=
  match group.raidSubgroupCounts with
  | none => false
  | some counts => counts[subgroup]?.any (fun count => count < maxGroupSize)

/-! ## Membership -/

/-- The subgroup a new member is put in: the first raid subgroup with room. -/
def joinSubgroup (group : GroupInfo) : Option ℕ :=
  match group.raidSubgroupCounts with
  | none => some 0
  | some counts => counts.toList.findIdx? (fun count => count < maxGroupSize)

/-- `none` when the member was not added. -/
def addMember (group : GroupInfo) (guid : ObjectGuid) : Option GroupInfo :=
  if group.members.contains guid then none
  else
    match group.joinSubgroup with
    | none => none
    | some subgroup =>
      (group.subgroupCounterIncreaseLikeCpp subgroup).map fun group =>
        { group with
          members := group.members ++ [guid]
          memberSlots := group.memberSlots ++ [GroupMemberSlot.joined guid subgroup] }

/-- `if let Some(slot) = …find` followed by the decrease of that slot's subgroup. -/
def releaseSubgroup (group : GroupInfo) (guid : ObjectGuid) : GroupInfo :=
  match group.memberSlotLikeCpp guid with
  | none => group
  | some slot => group.subgroupCounterDecreaseLikeCpp slot.subgroup

/-- Drop every entry of this member from the list and the slots. -/
def dropMember (group : GroupInfo) (guid : ObjectGuid) : GroupInfo :=
  { group with
    members := group.members.filter (fun member => member != guid)
    memberSlots := group.memberSlots.filter (fun slot => slot.guid != guid) }

def removeMember (group : GroupInfo) (guid : ObjectGuid) : GroupInfo :=
  (group.releaseSubgroup guid).dropMember guid

/-- Assign a subgroup to the slot at this position. -/
def setSlotSubgroup (group : GroupInfo) (index subgroup : ℕ) : GroupInfo :=
  { group with
    memberSlots := group.memberSlots.modify index (fun slot => { slot with subgroup := subgroup }) }

/-- The subgroup of the slot at this position. -/
def slotSubgroup (group : GroupInfo) (index : ℕ) : ℕ :=
  (group.memberSlots[index]?.map GroupMemberSlot.subgroup).getD 0

def swapMembersGroupsLikeCpp (group : GroupInfo) (first second : ObjectGuid) :
    Option (GroupInfo × List (ObjectGuid × ℕ)) :=
  if !group.isRaidGroup then none
  else
    match group.slotIndex first, group.slotIndex second with
    | some firstIndex, some secondIndex =>
      if firstIndex = secondIndex then none
      else
        let firstSubgroup := group.slotSubgroup firstIndex
        let secondSubgroup := group.slotSubgroup secondIndex
        if firstSubgroup = secondSubgroup then none
        else
          some ((group.setSlotSubgroup firstIndex secondSubgroup).setSlotSubgroup secondIndex
              firstSubgroup,
            [(first, secondSubgroup), (second, firstSubgroup)])
    | _, _ => none

/-- `none` when nothing was changed. -/
def changeMemberGroupLikeCpp (group : GroupInfo) (guid : ObjectGuid) (subgroup : ℕ) :
    Option GroupInfo :=
  if !group.isRaidGroup then none
  else if maxRaidSubgroups ≤ subgroup then none
  else if !group.hasFreeSlotSubGroupLikeCpp subgroup then none
  else
    match group.slotIndex guid with
    | none => none
    | some slotIndex =>
      let previousSubgroup := group.slotSubgroup slotIndex
      if previousSubgroup = subgroup then none
      else
        let moved := group.setSlotSubgroup slotIndex subgroup
        -- The result of the increase is not looked at.
        let moved := (moved.subgroupCounterIncreaseLikeCpp subgroup).getD moved
        some (moved.subgroupCounterDecreaseLikeCpp previousSubgroup)

def convertToRaidLikeCpp (group : GroupInfo) : GroupInfo :=
  if group.isRaidGroup then group
  else { group with groupFlags := group.groupFlags ||| groupFlagRaid }.initRaidSubgroupsCounterLikeCpp

/-- `none` when there are too many members for a party. -/
def convertToGroupLikeCpp (group : GroupInfo) : Option GroupInfo :=
  if 5 < group.members.length then none
  else if group.isRaidGroup then
    some { group with groupFlags := group.groupFlags &&& ~~~groupFlagRaid, raidSubgroupCounts := none }
  else some group

/-! ## Leader and member flags -/

def mapSlots (group : GroupInfo) (f : GroupMemberSlot → GroupMemberSlot) : GroupInfo :=
  { group with memberSlots := group.memberSlots.map f }

def isUniqueMemberFlag (flag : BitVec 8) : Bool :=
  flag == memberFlagMaintank || flag == memberFlagMainassist

def removeUniqueGroupMemberFlagLikeCpp (group : GroupInfo) (flag : BitVec 8) : GroupInfo :=
  if !isUniqueMemberFlag flag then group
  else group.mapSlots fun slot => { slot with flags := slot.flags &&& ~~~flag }

def setGroupMemberFlagUpdatesLikeCpp (group : GroupInfo) (guid : ObjectGuid) (apply : Bool)
    (flag : BitVec 8) : Option (GroupInfo × List (ObjectGuid × BitVec 8)) :=
  if !group.isRaidGroup then none
  else
    match group.slotIndex guid with
    | none => none
    | some slotIndex =>
      if !(flag == memberFlagAssistant || isUniqueMemberFlag flag) then none
      else
        let cleared := group.removeUniqueGroupMemberFlagLikeCpp flag
        let changed := { cleared with
          memberSlots := cleared.memberSlots.modify slotIndex
            (fun slot => { slot with flags := applyFlag apply flag slot.flags }) }
        some (changed,
          [(guid, (changed.memberSlots[slotIndex]?.map GroupMemberSlot.flags).getD 0)])

def setGroupMemberFlagLikeCpp (group : GroupInfo) (guid : ObjectGuid) (apply : Bool)
    (flag : BitVec 8) : Option (GroupInfo × BitVec 8) :=
  (group.setGroupMemberFlagUpdatesLikeCpp guid apply flag).bind fun r =>
    (r.2.find? (fun update => update.1 == guid)).map fun update => (r.1, update.2)

/-- The new leader gives up the assistant flag. -/
def changeLeaderLikeCpp (group : GroupInfo) (newLeaderGuid : ObjectGuid) :
    Option (GroupInfo × BitVec 8) :=
  match group.memberSlotLikeCpp newLeaderGuid with
  | none => none
  | some slot =>
    some ({ group with
        leaderGuid := newLeaderGuid
        memberSlots := modifyFirst (fun slot => slot.guid == newLeaderGuid)
          (fun slot => { slot with flags := slot.flags &&& ~~~memberFlagAssistant })
          group.memberSlots },
      slot.flags &&& ~~~memberFlagAssistant)

def setEveryoneIsAssistantLikeCpp (group : GroupInfo) (apply : Bool) : GroupInfo :=
  { group with groupFlags := applyFlag apply groupFlagEveryoneAssistant group.groupFlags }.mapSlots
    fun slot => { slot with flags := applyFlag apply memberFlagAssistant slot.flags }

/-! ## Settings -/

def difficultyId (group : GroupInfo) : GroupDifficultyKind → ℕ
  | .dungeon => group.dungeonDifficultyId
  | .raid => group.raidDifficultyId
  | .legacyRaid => group.legacyRaidDifficultyId

/-- `none` when the difficulty is the same already. -/
def setDifficultyIdLikeCpp (group : GroupInfo) (kind : GroupDifficultyKind) (id : ℕ) :
    Option GroupInfo :=
  if group.difficultyId kind = id then none
  else
    match kind with
    | .dungeon => some { group with dungeonDifficultyId := id }
    | .raid => some { group with raidDifficultyId := id }
    | .legacyRaid => some { group with legacyRaidDifficultyId := id }

def looterGuidLikeCpp (group : GroupInfo) : ObjectGuid :=
  if group.lootMethod = lootMethodFreeForAll then ObjectGuid.empty else group.looterGuid

/-- The slot the search for the next looter starts with. -/
def looterSearchStart (group : GroupInfo) : ℕ :=
  match group.slotIndex group.looterGuidLikeCpp with
  | some index => index + 1
  | none => 0

/-- The first eligible member, from the start to the end and then around to the start. -/
def nextLooter (group : GroupInfo) (eligible : List ObjectGuid) : Option ObjectGuid :=
  (group.memberSlots.drop group.looterSearchStart ++
    group.memberSlots.take group.looterSearchStart).findSome?
      fun slot => if eligible.contains slot.guid then some slot.guid else none

/-- `true` when the group has to be sent to its members again. -/
def updateLooterGuidLikeCpp (group : GroupInfo) (eligible : List ObjectGuid) (ifneed : Bool) :
    Bool × GroupInfo :=
  if group.lootMethod = lootMethodFreeForAll then (false, group)
  else if (group.slotIndex group.looterGuidLikeCpp).isSome && ifneed &&
      eligible.contains group.looterGuidLikeCpp then (false, group)
  else if group.nextLooter eligible = some group.looterGuidLikeCpp then (false, group)
  else (true, { group with looterGuid := (group.nextLooter eligible).getD ObjectGuid.empty })

end GroupInfo

end RustyCore.Group
