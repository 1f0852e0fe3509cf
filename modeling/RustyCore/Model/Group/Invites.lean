import RustyCore.Model.Group.Registry

/-! # Invites and ready checks

The pending invites, one for each invited player, and the transitions that create,
answer and withdraw them. -/

namespace RustyCore.Group

structure PendingInvite where
  leaderGuid : ObjectGuid
  groupGuid : Option ℕ
  groupCategory : ℕ
deriving DecidableEq

namespace PendingInvite

def newPendingGroup (leaderGuid : ObjectGuid) (groupCategory : ℕ) : PendingInvite :=
  ⟨leaderGuid, none, groupCategory⟩

def newExistingGroup (leaderGuid : ObjectGuid) (groupGuid groupCategory : ℕ) : PendingInvite :=
  ⟨leaderGuid, some groupGuid, groupCategory⟩

end PendingInvite

abbrev PendingInvites := Dict ObjectGuid PendingInvite

inductive CreateGroupInviteResult where
  | created (invite : PendingInvite)
  | targetAlreadyInvited
  | targetAlreadyGrouped
  | inviterNotLeaderOrAssistant
  | groupFull
  | missingInviterGroup
  | wrongCategory
deriving DecidableEq

inductive AcceptGroupInviteResult where
  | noInvite
  | wrongCategory
  | selfInvite
  | groupFull
  | addFailed
  | alreadyMember
  | missingGroup
  | missingLeader
  | joinedExisting (group : GroupInfo) (subgroup : ℕ) (persistence : List GroupPersistenceIntent)
  | created (group : GroupInfo) (subgroup : ℕ) (persistence : List GroupPersistenceIntent)
deriving DecidableEq

namespace PendingInvites

/-- Whether more than one player holds this invite. -/
def matchingGuids (pending : PendingInvites) (invite : PendingInvite) : List ObjectGuid :=
  (pending.retain (fun _ other => other == invite)).entries.map Sigma.fst

/-- Remove every copy of this invite. -/
def removeMatching (pending : PendingInvites) (invite : PendingInvite) : PendingInvites :=
  pending.retain (fun _ other => other != invite)

/-- Replace every copy of `invite` by `promoted`. -/
def promoteMatching (pending : PendingInvites) (invite promoted : PendingInvite) :
    PendingInvites :=
  (pending.matchingGuids invite).foldl (fun pending guid => pending.insert guid promoted) pending

def cancelInviteUnlockedLikeCpp (pending : PendingInvites) (inviteeGuid : ObjectGuid)
    (expected : PendingInvite) : Bool × PendingInvites :=
  if pending.lookup inviteeGuid ≠ some expected then (false, pending)
  else
    let pending : PendingInvites := pending.erase inviteeGuid
    if expected.groupGuid.isNone && decide ((pending.matchingGuids expected).length ≤ 1) then
      (true, pending.removeMatching expected)
    else (true, pending)

def replaceInviteLikeCpp (pending : PendingInvites) (inviteeGuid : ObjectGuid)
    (expected replacement : PendingInvite) : Bool × PendingInvites :=
  match pending.cancelInviteUnlockedLikeCpp inviteeGuid expected with
  | (false, pending) => (false, pending)
  | (true, pending) =>
    let pending : PendingInvites :=
      if replacement.groupGuid.isNone && (pending.lookup replacement.leaderGuid).isNone then
        pending.insert replacement.leaderGuid replacement
      else pending
    (true, pending.insert inviteeGuid replacement)

def cancelPendingGroupLikeCpp (pending : PendingInvites) (expected : PendingInvite) :
    ℕ × PendingInvites :=
  ((pending.matchingGuids expected).length, pending.removeMatching expected)

def declineInviteLikeCpp (pending : PendingInvites) (inviteeGuid : ObjectGuid)
    (partyIndex : Option ℕ) : Option PendingInvite × PendingInvites :=
  match pending.lookup inviteeGuid with
  | none => (none, pending)
  | some invite =>
    if partyIndex.any (fun index => invite.groupCategory != index) then (none, pending)
    else
      match pending.cancelInviteUnlockedLikeCpp inviteeGuid invite with
      | (true, pending) => (some invite, pending)
      | (false, pending) => (none, pending)

end PendingInvites

def groupLists (category : ℕ) (guid : ObjectGuid) (group : GroupInfo) : Bool :=
  group.groupCategory == category && group.members.contains guid

namespace GroupRegistry

/-- The group an inviter speaks for: the one the caller names if it lists the inviter,
else the first that does. -/
def resolvedInviterGroupGuid (registry : GroupRegistry) (rank : ℕ → ℕ) (inviterGuid : ObjectGuid)
    (inviterGroupGuid : Option ℕ) (lookupGroupCategory : ℕ) : Option ℕ :=
  (inviterGroupGuid.filter fun groupGuid =>
      (registry.groups.lookup groupGuid).any (groupLists lookupGroupCategory inviterGuid)).or
    (registry.groups.findKey rank fun _ group => groupLists lookupGroupCategory inviterGuid group)

def createInviteLikeCpp (registry : GroupRegistry) (pending : PendingInvites) (rank : ℕ → ℕ)
    (inviterGuid inviteeGuid : ObjectGuid) (inviterGroupGuid : Option ℕ)
    (lookupGroupCategory newGroupCategory : ℕ) : CreateGroupInviteResult × PendingInvites :=
  if (pending.lookup inviteeGuid).isSome then (.targetAlreadyInvited, pending)
  else if registry.groups.anyEntry fun _ group => groupLists lookupGroupCategory inviteeGuid group then
    (.targetAlreadyGrouped, pending)
  else
    let resolved := registry.resolvedInviterGroupGuid rank inviterGuid inviterGroupGuid
      lookupGroupCategory
    if inviterGroupGuid.isSome && resolved.isNone then (.missingInviterGroup, pending)
    else
      match resolved with
      | some groupGuid =>
        match registry.groups.lookup groupGuid with
        | none => (.missingInviterGroup, pending)
        | some group =>
          if group.groupCategory != lookupGroupCategory then (.wrongCategory, pending)
          else if !group.isLeaderLikeCpp inviterGuid && !group.isAssistantLikeCpp inviterGuid then
            (.inviterNotLeaderOrAssistant, pending)
          else if group.isFullLikeCpp then (.groupFull, pending)
          else
            let invite := PendingInvite.newExistingGroup group.leaderGuid groupGuid
              group.groupCategory
            (.created invite, pending.insert inviteeGuid invite)
      | none =>
        match pending.lookup inviterGuid with
        | some invite => (.created invite, pending.insert inviteeGuid invite)
        | none =>
          let invite := PendingInvite.newPendingGroup inviterGuid newGroupCategory
          (.created invite, (pending.insert inviterGuid invite).insert inviteeGuid invite)

/-- The new group of a pending leader, without its first invitee when that one could not
be added. -/
def createFromInvite (registry : GroupRegistry) (pending : PendingInvites)
    (inviteeGuid : ObjectGuid) (invite : PendingInvite) :
    AcceptGroupInviteResult × GroupRegistry × PendingInvites :=
  let (created, registry) := registry.newGroup invite.leaderGuid
  match created.addMember inviteeGuid with
  | none => (.addFailed, registry, pending)
  | some group =>
    let registry :=
      { groups := registry.groups.insert group.groupGuid group
        ids := registry.ids.registerGroupDbStoreIdLikeCpp group.dbStoreId group.groupGuid }
    let pending : PendingInvites := pending.erase invite.leaderGuid
    let promoted := PendingInvite.newExistingGroup invite.leaderGuid group.groupGuid
      invite.groupCategory
    let subgroup := ((group.memberSlotLikeCpp inviteeGuid).map GroupMemberSlot.subgroup).getD 0
    (.created group subgroup
        [group.insertGroupIntent, .insertMember group.dbStoreId group.leaderGuid 0 0 0,
          group.insertMemberIntent inviteeGuid],
      registry, pending.promoteMatching invite promoted)

def joinFromInvite (registry : GroupRegistry) (pending : PendingInvites) (inviteeGuid : ObjectGuid)
    (invite : PendingInvite) (groupGuid : ℕ) :
    AcceptGroupInviteResult × GroupRegistry × PendingInvites :=
  match registry.groups.lookup groupGuid with
  | none => (.missingGroup, registry, pending)
  | some group =>
    if group.groupCategory != invite.groupCategory then (.wrongCategory, registry, pending)
    else
      let pending : PendingInvites := pending.erase inviteeGuid
      if group.isFullLikeCpp then (.groupFull, registry, pending)
      else if group.members.contains inviteeGuid then (.alreadyMember, registry, pending)
      else
        match group.addMember inviteeGuid with
        | none => (.addFailed, registry, pending)
        | some group =>
          let subgroup :=
            ((group.memberSlotLikeCpp inviteeGuid).map GroupMemberSlot.subgroup).getD 0
          (.joinedExisting group subgroup [group.insertMemberIntent inviteeGuid],
            { registry with groups := registry.groups.insert groupGuid group }, pending)

def acceptInviteLikeCpp (registry : GroupRegistry) (pending : PendingInvites)
    (inviteeGuid : ObjectGuid) (partyIndex : Option ℕ)
    (availableNewGroupLeader : Option ObjectGuid) :
    AcceptGroupInviteResult × GroupRegistry × PendingInvites :=
  match pending.lookup inviteeGuid with
  | none => (.noInvite, registry, pending)
  | some invite =>
    if partyIndex.any (fun index => invite.groupCategory != index) then
      (.wrongCategory, registry, pending)
    else if invite.leaderGuid = inviteeGuid then
      -- The invite is gone although its own leader may not accept it.
      (.selfInvite, registry, pending.erase inviteeGuid)
    else
      match invite.groupGuid with
      | some groupGuid => registry.joinFromInvite pending inviteeGuid invite groupGuid
      | none =>
        let pending : PendingInvites := pending.erase inviteeGuid
        if availableNewGroupLeader ≠ some invite.leaderGuid then
          (.missingLeader, registry, pending.removeMatching invite)
        else registry.createFromInvite pending inviteeGuid invite

end GroupRegistry

/-! ## The directory -/

/-- The registry together with the pending invites, as the session handlers share them. -/
structure GroupDirectory where
  registry : GroupRegistry
  pending : PendingInvites

inductive GroupOp where
  | createInvite (rank : ℕ → ℕ) (inviterGuid inviteeGuid : ObjectGuid)
      (inviterGroupGuid : Option ℕ) (lookupGroupCategory newGroupCategory : ℕ)
  | acceptInvite (inviteeGuid : ObjectGuid) (partyIndex : Option ℕ)
      (availableNewGroupLeader : Option ObjectGuid)
  | declineInvite (inviteeGuid : ObjectGuid) (partyIndex : Option ℕ)
  | cancelInvite (inviteeGuid : ObjectGuid) (expected : PendingInvite)
  | expireInvite (inviteeGuid : ObjectGuid) (expected : PendingInvite)
  | replaceInvite (inviteeGuid : ObjectGuid) (expected replacement : PendingInvite)
  | cancelPendingGroup (expected : PendingInvite)
  | call (groupGuid : ℕ) (call : GroupCall)

namespace GroupDirectory

def initial : GroupDirectory where
  registry := GroupRegistry.initial
  pending := ∅

def step (directory : GroupDirectory) : GroupOp → GroupDirectory
  | .createInvite rank inviter invitee inviterGroup lookupCategory newCategory =>
    { directory with
      pending := (directory.registry.createInviteLikeCpp directory.pending rank inviter invitee
        inviterGroup lookupCategory newCategory).2 }
  | .acceptInvite invitee partyIndex leader =>
    let result := directory.registry.acceptInviteLikeCpp directory.pending invitee partyIndex leader
    { registry := result.2.1, pending := result.2.2 }
  | .declineInvite invitee partyIndex =>
    { directory with pending := (directory.pending.declineInviteLikeCpp invitee partyIndex).2 }
  | .cancelInvite invitee expected =>
    { directory with pending := (directory.pending.cancelInviteUnlockedLikeCpp invitee expected).2 }
  | .expireInvite invitee expected =>
    { directory with pending := (directory.pending.cancelInviteUnlockedLikeCpp invitee expected).2 }
  | .replaceInvite invitee expected replacement =>
    { directory with
      pending := (directory.pending.replaceInviteLikeCpp invitee expected replacement).2 }
  | .cancelPendingGroup expected =>
    { directory with pending := (directory.pending.cancelPendingGroupLikeCpp expected).2 }
  | .call groupGuid call =>
    match directory.registry.transition groupGuid call with
    | .error _ => directory
    | .ok (registry, _) => { directory with registry := registry }

end GroupDirectory

end RustyCore.Group

/-! ## Ready checks

A check is started by one member and ends with the last response, with the offline
members it answers for at its start, or with its timeout. -/

namespace RustyCore.Group

def readycheckDurationMs : ℤ := 35000

inductive ReadyCheckEvent where
  | started (partyIndex partyGuid : ℕ) (initiatorGuid : ObjectGuid) (durationMs : ℤ)
  | response (partyGuid : ℕ) (player : ObjectGuid) (isReady : Bool)
  | completed (partyIndex partyGuid : ℕ)
deriving DecidableEq

namespace GroupInfo

def resetMemberReadyCheckedLikeCpp (group : GroupInfo) : GroupInfo :=
  group.mapSlots fun slot => { slot with readyChecked := false }

def isReadyCheckCompletedLikeCpp (group : GroupInfo) : Bool :=
  group.memberSlots.all GroupMemberSlot.readyChecked

def endReadyCheckLikeCpp (group : GroupInfo) (events : List ReadyCheckEvent) :
    GroupInfo × List ReadyCheckEvent :=
  if !group.readyCheckStarted then (group, events)
  else
    ({ group with readyCheckStarted := false, readyCheckTimerMs := 0 }.resetMemberReadyCheckedLikeCpp,
      events ++ [.completed 0 group.groupGuid])

def updateReadyCheckLikeCpp (group : GroupInfo) (diffMs : ℕ) : GroupInfo × List ReadyCheckEvent :=
  if !group.readyCheckStarted then (group, [])
  else
    let group := { group with readyCheckTimerMs := group.readyCheckTimerMs - diffMs }
    if group.readyCheckTimerMs ≤ 0 then group.endReadyCheckLikeCpp [] else (group, [])

def setMemberReadyCheckedLikeCpp (group : GroupInfo) (slotIndex : ℕ)
    (events : List ReadyCheckEvent) : GroupInfo × List ReadyCheckEvent :=
  let group := { group with
    memberSlots := group.memberSlots.modify slotIndex
      (fun slot => { slot with readyChecked := true }) }
  if group.isReadyCheckCompletedLikeCpp then group.endReadyCheckLikeCpp events
  else (group, events)

/-- The member whose slot is at this position. -/
def slotGuid (group : GroupInfo) (index : ℕ) : ObjectGuid :=
  (group.memberSlots[index]?.map GroupMemberSlot.guid).getD ObjectGuid.empty

def setMemberReadyCheckSlotLikeCpp (group : GroupInfo) (slotIndex : ℕ) (ready : Bool)
    (events : List ReadyCheckEvent) : GroupInfo × List ReadyCheckEvent :=
  group.setMemberReadyCheckedLikeCpp slotIndex
    (events ++ [.response group.groupGuid (group.slotGuid slotIndex) ready])

/-- The positions of the members that are not connected. -/
def offlineIndices (group : GroupInfo) (connected : List ObjectGuid) : List ℕ :=
  group.memberSlots.zipIdx.filterMap fun (slot, index) =>
    if connected.contains slot.guid then none else some index

/-- The answer for one offline member, unless the check has ended by then. -/
def answerOffline (state : GroupInfo × List ReadyCheckEvent) (index : ℕ) :
    GroupInfo × List ReadyCheckEvent :=
  if state.1.readyCheckStarted then state.1.setMemberReadyCheckSlotLikeCpp index false state.2
  else state

def startReadyCheckLikeCpp (group : GroupInfo) (starterGuid : ObjectGuid)
    (connectedMembers : List ObjectGuid) : GroupInfo × List ReadyCheckEvent :=
  if group.readyCheckStarted then (group, [])
  else
    match group.slotIndex starterGuid with
    | none => (group, [])
    | some starterIndex =>
      let opened := { group with
        readyCheckStarted := true
        readyCheckTimerMs := readycheckDurationMs }
      let answered := (opened.offlineIndices connectedMembers).foldl answerOffline (opened, [])
      let settled :=
        if answered.1.readyCheckStarted then
          answered.1.setMemberReadyCheckedLikeCpp starterIndex answered.2
        else answered
      (settled.1,
        settled.2 ++ [.started 0 group.groupGuid starterGuid readycheckDurationMs])

def setMemberReadyCheckLikeCpp (group : GroupInfo) (guid : ObjectGuid) (ready : Bool) :
    GroupInfo × List ReadyCheckEvent :=
  if !group.readyCheckStarted then (group, [])
  else
    match group.slotIndex guid with
    | none => (group, [])
    | some slotIndex => group.setMemberReadyCheckSlotLikeCpp slotIndex ready []

end GroupInfo

/-! ## Histories -/

/-- What can happen to a group while checks come and go. -/
inductive ReadyCheckOp where
  | start (starterGuid : ObjectGuid) (connectedMembers : List ObjectGuid)
  | respond (guid : ObjectGuid) (ready : Bool)
  | tick (diffMs : ℕ)
  | addMember (guid : ObjectGuid)
  | removeMember (guid : ObjectGuid)
deriving DecidableEq

/-- The group after an operation, and the events it emits. -/
def ReadyCheckOp.apply (group : GroupInfo) : ReadyCheckOp → GroupInfo × List ReadyCheckEvent
  | .start starterGuid connectedMembers => group.startReadyCheckLikeCpp starterGuid connectedMembers
  | .respond guid ready => group.setMemberReadyCheckLikeCpp guid ready
  | .tick diffMs => group.updateReadyCheckLikeCpp diffMs
  | .addMember guid => ((group.addMember guid).getD group, [])
  | .removeMember guid => (group.removeMember guid, [])

/-- One operation on a group, with all events so far. -/
def readyCheckStep (state : GroupInfo × List ReadyCheckEvent) (op : ReadyCheckOp) :
    GroupInfo × List ReadyCheckEvent :=
  ((op.apply state.1).1, state.2 ++ (op.apply state.1).2)

end RustyCore.Group
