import RustyCore.Model.Group.Registry

/-! # What a call does

One case for each way a call on a group succeeds, with the group it leaves behind and
the intents it emits. Every invariant of the groups is read off these cases. -/

namespace RustyCore.Group

variable {group : GroupInfo} {memberGuid : ObjectGuid} {result : GroupCallResult}

/-- `Called group call result`: the call succeeds on the group with this result. -/
inductive Called (group : GroupInfo) : GroupCall → GroupCallResult → Prop where
  | disband {memberGuid : ObjectGuid} {kind : GroupMemberRemovalKind}
      {connected : List ObjectGuid} :
      memberGuid ∈ group.members → (group.removeMember memberGuid).members.length < 2 →
      Called group (.removeMember memberGuid kind connected)
        (none, [.deleteGroup group.dbStoreId, .deleteAllMembers group.dbStoreId,
          .deleteLfgData group.dbStoreId])
  | leave {memberGuid : ObjectGuid} {kind : GroupMemberRemovalKind}
      {connected : List ObjectGuid} :
      memberGuid ∈ group.members → 2 ≤ (group.removeMember memberGuid).members.length →
      Called group (.removeMember memberGuid kind connected)
        (some (group.removeMember memberGuid), [.deleteMember memberGuid])
  | succeed {memberGuid : ObjectGuid} {kind : GroupMemberRemovalKind}
      {connected : List ObjectGuid} {successor : ObjectGuid} {led : GroupInfo} {flags : BitVec 8} :
      memberGuid ∈ group.members → 2 ≤ (group.removeMember memberGuid).members.length →
      (group.removeMember memberGuid).successor group.leaderGuid memberGuid connected =
        some successor →
      (group.removeMember memberGuid).changeLeaderLikeCpp successor = some (led, flags) →
      Called group (.removeMember memberGuid kind connected)
        (some led, [.deleteMember memberGuid, .updateLeader group.dbStoreId successor])
  | toRaid {actorGuid : ObjectGuid} :
      Called group (.convertGroup actorGuid true)
        (some group.convertToRaidLikeCpp,
          [.updateGroupType group.convertToRaidLikeCpp.dbStoreId
            group.convertToRaidLikeCpp.groupFlags])
  | toParty {actorGuid : ObjectGuid} {party : GroupInfo} :
      group.convertToGroupLikeCpp = some party →
      Called group (.convertGroup actorGuid false)
        (some party, [.updateGroupType party.dbStoreId party.groupFlags])
  | changeSubgroup {actorGuid memberGuid : ObjectGuid} {subgroup : ℕ} {moved : GroupInfo} :
      group.changeMemberGroupLikeCpp memberGuid subgroup = some moved →
      Called group (.changeMemberSubgroup actorGuid memberGuid subgroup)
        (some moved, [.updateMemberSubgroup memberGuid subgroup])
  | swapSubgroups {actorGuid first second : ObjectGuid} {swapped : GroupInfo}
      {facts : List (ObjectGuid × ℕ)} :
      group.swapMembersGroupsLikeCpp first second = some (swapped, facts) →
      Called group (.swapMemberSubgroups actorGuid first second)
        (some swapped, facts.map fun fact => .updateMemberSubgroup fact.1 fact.2)
  | changeLeader {actorGuid newLeaderGuid : ObjectGuid} {led : GroupInfo} {flags : BitVec 8} :
      newLeaderGuid ∈ group.members →
      group.changeLeaderLikeCpp newLeaderGuid = some (led, flags) →
      Called group (.changeLeader actorGuid newLeaderGuid)
        (some led,
          (if led.dbStoreId ≠ 0 then [.updateLeader led.dbStoreId newLeaderGuid] else []) ++
            [.updateMemberFlags newLeaderGuid flags])
  | setFlag {actorGuid memberGuid : ObjectGuid} {apply : Bool} {flag flags : BitVec 8}
      {flagged : GroupInfo} :
      group.setGroupMemberFlagLikeCpp memberGuid apply flag = some (flagged, flags) →
      Called group (.setMemberFlag actorGuid memberGuid apply flag)
        (some flagged, [.updateMemberFlags memberGuid flags])
  | setEveryone {actorGuid : ObjectGuid} {apply : Bool} :
      Called group (.setEveryoneAssistant actorGuid apply)
        (some (group.setEveryoneIsAssistantLikeCpp apply),
          [.updateGroupType (group.setEveryoneIsAssistantLikeCpp apply).dbStoreId
            (group.setEveryoneIsAssistantLikeCpp apply).groupFlags])
  | assignNothing {actorGuid memberGuid : ObjectGuid} {assignment : ℕ} {apply : Bool} :
      GroupInfo.assignmentFlag assignment = none →
      Called group (.setPartyAssignment actorGuid memberGuid assignment apply) (some group, [])
  | assignNobody {actorGuid memberGuid : ObjectGuid} {assignment : ℕ} {apply : Bool}
      {flag : BitVec 8} :
      GroupInfo.assignmentFlag assignment = some flag →
      (group.removeUniqueGroupMemberFlagLikeCpp flag).setGroupMemberFlagUpdatesLikeCpp memberGuid
        apply flag = none →
      Called group (.setPartyAssignment actorGuid memberGuid assignment apply)
        (some (group.removeUniqueGroupMemberFlagLikeCpp flag), [])
  | assign {actorGuid memberGuid : ObjectGuid} {assignment : ℕ} {apply : Bool} {flag : BitVec 8}
      {flagged : GroupInfo} {facts : List (ObjectGuid × BitVec 8)} :
      GroupInfo.assignmentFlag assignment = some flag →
      (group.removeUniqueGroupMemberFlagLikeCpp flag).setGroupMemberFlagUpdatesLikeCpp memberGuid
        apply flag = some (flagged, facts) →
      Called group (.setPartyAssignment actorGuid memberGuid assignment apply)
        (some flagged, facts.map fun fact => .updateMemberFlags fact.1 fact.2)
  | setDifficulty {actorGuid : ObjectGuid} {difficultyId : ℕ} {kind : GroupDifficultyKind}
      {changed : GroupInfo} :
      group.setDifficultyIdLikeCpp kind difficultyId = some changed →
      Called group (.setDifficulty actorGuid difficultyId kind)
        (some changed, [.updateDifficulty changed.dbStoreId kind difficultyId])

/-! ## Fields that an edit keeps -/

namespace GroupInfo

theorem subgroupCounterIncrease_eq {increased : GroupInfo} {subgroup : ℕ}
    (h : group.subgroupCounterIncreaseLikeCpp subgroup = some increased) :
    ∃ counts, increased = { group with raidSubgroupCounts := counts } := by
  unfold subgroupCounterIncreaseLikeCpp at h
  split at h
  · exact ⟨group.raidSubgroupCounts, (Option.some.inj h).symm⟩
  · split_ifs at h
    exact ⟨_, (Option.some.inj h).symm⟩

theorem subgroupCounterDecrease_eq (group : GroupInfo) (subgroup : ℕ) :
    ∃ counts, group.subgroupCounterDecreaseLikeCpp subgroup =
      { group with raidSubgroupCounts := counts } := by
  unfold subgroupCounterDecreaseLikeCpp
  split
  · exact ⟨group.raidSubgroupCounts, rfl⟩
  · split_ifs
    · exact ⟨_, rfl⟩
    · exact ⟨group.raidSubgroupCounts, rfl⟩

theorem releaseSubgroup_eq (group : GroupInfo) (guid : ObjectGuid) :
    ∃ counts, group.releaseSubgroup guid = { group with raidSubgroupCounts := counts } := by
  unfold releaseSubgroup
  split
  · exact ⟨group.raidSubgroupCounts, rfl⟩
  · exact subgroupCounterDecrease_eq group _

theorem removeMember_eq (group : GroupInfo) (guid : ObjectGuid) :
    ∃ counts, group.removeMember guid =
      { group with
        members := group.members.filter (fun member => member != guid)
        memberSlots := group.memberSlots.filter (fun slot => slot.guid != guid)
        raidSubgroupCounts := counts } := by
  obtain ⟨counts, hrelease⟩ := group.releaseSubgroup_eq guid
  exact ⟨counts, by rw [removeMember, hrelease, dropMember]⟩

@[simp] theorem removeMember_dbStoreId (group : GroupInfo) (guid : ObjectGuid) :
    (group.removeMember guid).dbStoreId = group.dbStoreId := by
  obtain ⟨counts, h⟩ := group.removeMember_eq guid
  rw [h]

theorem changeLeader_eq {led : GroupInfo} {guid : ObjectGuid} {flags : BitVec 8}
    (h : group.changeLeaderLikeCpp guid = some (led, flags)) :
    led = { group with
      leaderGuid := guid
      memberSlots := modifyFirst (fun slot => slot.guid == guid)
        (fun slot => { slot with flags := slot.flags &&& ~~~memberFlagAssistant })
        group.memberSlots } := by
  unfold changeLeaderLikeCpp at h
  split at h
  · cases h
  · exact (congrArg Prod.fst (Option.some.inj h)).symm

end GroupInfo

/-! ## Inversion -/

namespace GroupInfo

theorem mem_of_removalError_eq_none {kind : GroupMemberRemovalKind}
    (h : group.removalError memberGuid kind = none) : memberGuid ∈ group.members := by
  cases kind with
  | leave => simpa [removalError] using h
  | kick actorGuid battleground rolls combat =>
    simp only [removalError] at h
    cases hkick : group.kickError memberGuid actorGuid battleground rolls combat with
    | some error => simp [hkick] at h
    | none =>
      simp only [hkick] at h
      split_ifs at h with hmissing
      simpa using hmissing

theorem two_le_of_successor {previousLeader successor : ObjectGuid} {connected : List ObjectGuid}
    (h : group.successor previousLeader memberGuid connected = some successor) :
    2 ≤ group.members.length ∧ previousLeader = memberGuid ∧ successor ∈ group.members := by
  unfold GroupInfo.successor at h
  split_ifs at h with hled
  simp only [Bool.and_eq_true, decide_eq_true_eq, beq_iff_eq] at hled
  exact ⟨hled.1, hled.2, by simpa using List.find?_some h⟩

end GroupInfo

theorem called_removeMember {kind : GroupMemberRemovalKind} {connected : List ObjectGuid}
    (h : (GroupCall.removeMember memberGuid kind connected).apply group = .ok result) :
    Called group (.removeMember memberGuid kind connected) result := by
  unfold GroupCall.apply GroupInfo.removeMemberLikeCpp at h
  cases herror : group.removalError memberGuid kind with
  | some error => simp [herror, Except.map] at h
  | none =>
    have hmem := GroupInfo.mem_of_removalError_eq_none herror
    -- Without a successor in charge the removal itself decides.
    have hplain : (group.removeMember memberGuid).dbStoreId = group.dbStoreId :=
      group.removeMember_dbStoreId memberGuid
    cases hsuccessor : (group.removeMember memberGuid).successor group.leaderGuid memberGuid
      connected with
    | none =>
      by_cases hlen : (group.removeMember memberGuid).members.length < 2
      · simp [herror, hsuccessor, hlen, Except.map] at h
        rw [← h]
        exact .disband hmem hlen
      · simp [herror, hsuccessor, hlen, Except.map] at h
        rw [← h]
        exact .leave hmem (by omega)
    | some successor =>
      have hlen := (GroupInfo.two_le_of_successor hsuccessor).1
      cases hled : (group.removeMember memberGuid).changeLeaderLikeCpp successor with
      | none =>
        simp [herror, hsuccessor, hled, Nat.not_lt.mpr hlen, Except.map] at h
        rw [← h]
        exact .leave hmem hlen
      | some led =>
        obtain ⟨led, flags⟩ := led
        obtain ⟨hstore, hmembers⟩ : led.dbStoreId = group.dbStoreId ∧
            led.members = (group.removeMember memberGuid).members := by
          rw [GroupInfo.changeLeader_eq hled]
          exact ⟨hplain, rfl⟩
        simp [herror, hsuccessor, hled, hstore, hmembers, Nat.not_lt.mpr hlen, Except.map] at h
        rw [← h]
        exact .succeed hmem hlen hsuccessor hled

theorem kept_of_map {τ : Type} {x : Except GroupAuthorityError (GroupTransitionOutcome τ)}
    (h : x.map GroupTransitionOutcome.kept = .ok result) :
    ∃ outcome, x = .ok outcome ∧ outcome.kept = result := by
  cases x with
  | error error => simp [Except.map] at h
  | ok outcome => exact ⟨outcome, rfl, by simpa [Except.map] using h⟩

theorem called_of_apply {call : GroupCall} (h : call.apply group = .ok result) :
    Called group call result := by
  cases call with
  | removeMember memberGuid kind connected => exact called_removeMember h
  | convertGroup actorGuid raid =>
    obtain ⟨outcome, hok, rfl⟩ := kept_of_map h
    unfold GroupInfo.convertGroupLikeCpp at hok
    split_ifs at hok with hleader hsize hraid
    · subst hraid
      cases hok
      exact .toRaid
    · obtain rfl : raid = false := by simpa using hraid
      cases hparty : group.convertToGroupLikeCpp with
      | none => simp [hparty] at hok
      | some party =>
        simp only [hparty] at hok
        cases hok
        exact .toParty hparty
  | changeMemberSubgroup actorGuid memberGuid subgroup =>
    obtain ⟨outcome, hok, rfl⟩ := kept_of_map h
    unfold GroupInfo.changeMemberSubgroupLikeCpp at hok
    split_ifs at hok
    cases hmoved : group.changeMemberGroupLikeCpp memberGuid subgroup with
    | none => simp [hmoved] at hok
    | some moved =>
      simp only [hmoved] at hok
      cases hok
      exact .changeSubgroup hmoved
  | swapMemberSubgroups actorGuid first second =>
    obtain ⟨outcome, hok, rfl⟩ := kept_of_map h
    unfold GroupInfo.swapMemberSubgroupsLikeCpp at hok
    split_ifs at hok
    cases hswapped : group.swapMembersGroupsLikeCpp first second with
    | none => simp [hswapped] at hok
    | some swapped =>
      simp only [hswapped] at hok
      cases hok
      exact .swapSubgroups hswapped
  | changeLeader actorGuid newLeaderGuid =>
    obtain ⟨outcome, hok, rfl⟩ := kept_of_map h
    unfold GroupInfo.changeLeaderTransitionLikeCpp at hok
    split_ifs at hok with hleader hmember
    cases hled : group.changeLeaderLikeCpp newLeaderGuid with
    | none => simp [hled] at hok
    | some led =>
      simp only [hled] at hok
      cases hok
      exact .changeLeader (by simpa using hmember) hled
  | setMemberFlag actorGuid memberGuid apply flag =>
    obtain ⟨outcome, hok, rfl⟩ := kept_of_map h
    unfold GroupInfo.setMemberFlagTransitionLikeCpp at hok
    split_ifs at hok
    cases hflagged : group.setGroupMemberFlagLikeCpp memberGuid apply flag with
    | none => simp [hflagged] at hok
    | some flagged =>
      simp only [hflagged] at hok
      cases hok
      exact .setFlag hflagged
  | setEveryoneAssistant actorGuid apply =>
    obtain ⟨outcome, hok, rfl⟩ := kept_of_map h
    unfold GroupInfo.setEveryoneAssistantTransitionLikeCpp at hok
    split_ifs at hok
    cases hok
    exact .setEveryone
  | setPartyAssignment actorGuid memberGuid assignment apply =>
    obtain ⟨outcome, hok, rfl⟩ := kept_of_map h
    unfold GroupInfo.setPartyAssignmentTransitionLikeCpp at hok
    split_ifs at hok
    cases hflag : GroupInfo.assignmentFlag assignment with
    | none =>
      simp only [hflag] at hok
      cases hok
      exact .assignNothing hflag
    | some flag =>
      cases hflagged : (group.removeUniqueGroupMemberFlagLikeCpp
        flag).setGroupMemberFlagUpdatesLikeCpp memberGuid apply flag with
      | none =>
        simp only [hflag, hflagged] at hok
        cases hok
        exact .assignNobody hflag hflagged
      | some flagged =>
        simp only [hflag, hflagged] at hok
        cases hok
        exact .assign hflag hflagged
  | setDifficulty actorGuid difficultyId kind =>
    obtain ⟨outcome, hok, rfl⟩ := kept_of_map h
    unfold GroupInfo.setDifficultyTransitionLikeCpp at hok
    split_ifs at hok
    cases hchanged : group.setDifficultyIdLikeCpp kind difficultyId with
    | none => simp [hchanged] at hok
    | some changed =>
      simp only [hchanged] at hok
      cases hok
      exact .setDifficulty hchanged

end RustyCore.Group
