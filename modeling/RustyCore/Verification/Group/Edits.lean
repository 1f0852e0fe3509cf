import RustyCore.Verification.Group.Calls

/-! # What an edit of a group keeps

Leader, flag and difficulty edits keep every seat. Conversions and moves keep the
members. No call on a group changes its identity or adds a member. -/

namespace RustyCore.Group

/-- Who sits in the slot and in which subgroup. -/
def GroupMemberSlot.seat (slot : GroupMemberSlot) : ObjectGuid × ℕ := (slot.guid, slot.subgroup)

namespace GroupInfo

variable {group flagged : GroupInfo} {guid : ObjectGuid} {apply : Bool} {flag : BitVec 8}
variable {facts : List (ObjectGuid × BitVec 8)}

/-- What identifies a group in the registry, the database and the lookups. -/
def identity (group : GroupInfo) : ℕ × ℕ × ℕ :=
  (group.groupGuid, group.dbStoreId, group.groupCategory)

/-- The edit left roster, counters and raid flag alone. -/
structure SeatsKept (group edited : GroupInfo) : Prop where
  identity : edited.identity = group.identity
  members : edited.members = group.members
  seats : edited.memberSlots.map GroupMemberSlot.seat = group.memberSlots.map GroupMemberSlot.seat
  counts : edited.raidSubgroupCounts = group.raidSubgroupCounts
  raid : edited.isRaidGroup = group.isRaidGroup

namespace SeatsKept

variable {f : GroupMemberSlot → GroupMemberSlot}

theorem refl (group : GroupInfo) : SeatsKept group group := ⟨rfl, rfl, rfl, rfl, rfl⟩

theorem trans {edited final : GroupInfo} (h : SeatsKept group edited)
    (h' : SeatsKept edited final) : SeatsKept group final :=
  ⟨h'.identity.trans h.identity, h'.members.trans h.members, h'.seats.trans h.seats,
    h'.counts.trans h.counts, h'.raid.trans h.raid⟩

theorem mapSlots (group : GroupInfo) (hf : ∀ slot, (f slot).seat = slot.seat) :
    SeatsKept group (group.mapSlots f) where
  identity := rfl
  members := rfl
  seats := by
    rw [GroupInfo.mapSlots, List.map_map]
    exact List.map_congr_left fun slot _ => hf slot
  counts := rfl
  raid := rfl

theorem modifySlot (group : GroupInfo) (hf : ∀ slot, (f slot).seat = slot.seat) (index : ℕ) :
    SeatsKept group { group with memberSlots := group.memberSlots.modify index f } where
  identity := rfl
  members := rfl
  seats := map_modify_of_eq GroupMemberSlot.seat hf group.memberSlots index
  counts := rfl
  raid := rfl

end SeatsKept

/-! ## Leader, flags and difficulty -/

theorem seatsKept_changeLeader {led : GroupInfo} {flags : BitVec 8}
    (h : group.changeLeaderLikeCpp guid = some (led, flags)) : SeatsKept group led := by
  rw [changeLeader_eq h]
  refine ⟨rfl, rfl, ?_, rfl, rfl⟩
  refine map_modifyFirst GroupMemberSlot.seat (fun slot _ => ?_) group.memberSlots
  rfl

theorem seatsKept_removeUnique (group : GroupInfo) (flag : BitVec 8) :
    SeatsKept group (group.removeUniqueGroupMemberFlagLikeCpp flag) := by
  unfold removeUniqueGroupMemberFlagLikeCpp
  split_ifs
  · exact SeatsKept.refl group
  · exact SeatsKept.mapSlots group fun _ => rfl

theorem setGroupMemberFlagUpdates_eq
    (h : group.setGroupMemberFlagUpdatesLikeCpp guid apply flag = some (flagged, facts)) :
    ∃ index slot, group.slotIndex guid = some index ∧
      (group.removeUniqueGroupMemberFlagLikeCpp flag).memberSlots[index]? = some slot ∧
      flagged = { group.removeUniqueGroupMemberFlagLikeCpp flag with
        memberSlots := (group.removeUniqueGroupMemberFlagLikeCpp flag).memberSlots.modify index
          (fun slot => { slot with flags := applyFlag apply flag slot.flags }) } ∧
      facts = [(guid, applyFlag apply flag slot.flags)] := by
  unfold setGroupMemberFlagUpdatesLikeCpp at h
  cases hindex : group.slotIndex guid with
  | none => simp [hindex] at h
  | some index =>
    simp only [hindex] at h
    split_ifs at h
    obtain ⟨hflagged, hfacts⟩ := Prod.mk.inj (Option.some.inj h)
    have hlength : index < (group.removeUniqueGroupMemberFlagLikeCpp flag).memberSlots.length := by
      have hkept := congrArg List.length (seatsKept_removeUnique group flag).seats
      rw [List.length_map, List.length_map] at hkept
      rw [hkept]
      exact (List.findIdx?_eq_some_iff_findIdx_eq.mp hindex).1
    refine ⟨index, _, rfl, List.getElem?_eq_getElem hlength, hflagged.symm, ?_⟩
    rw [← hfacts, List.getElem?_modify_eq, List.getElem?_eq_getElem hlength]
    rfl

theorem seatsKept_flagUpdates
    (h : group.setGroupMemberFlagUpdatesLikeCpp guid apply flag = some (flagged, facts)) :
    SeatsKept group flagged := by
  obtain ⟨index, slot, -, -, rfl, -⟩ := setGroupMemberFlagUpdates_eq h
  refine (seatsKept_removeUnique group flag).trans (SeatsKept.modifySlot _ (fun slot => ?_) index)
  rfl

theorem setGroupMemberFlag_eq {flags : BitVec 8}
    (h : group.setGroupMemberFlagLikeCpp guid apply flag = some (flagged, flags)) :
    group.setGroupMemberFlagUpdatesLikeCpp guid apply flag = some (flagged, [(guid, flags)]) := by
  unfold setGroupMemberFlagLikeCpp at h
  obtain ⟨⟨updated, facts⟩, hupdate, hfind⟩ := Option.bind_eq_some_iff.mp h
  obtain ⟨index, slot, -, -, -, rfl⟩ := setGroupMemberFlagUpdates_eq hupdate
  simp only [List.find?_cons, beq_self_eq_true, Option.map_some, Option.some.injEq,
    Prod.mk.injEq] at hfind
  rw [hupdate, hfind.1, hfind.2]

theorem isRaidGroup_applyFlag (flag flags : BitVec 16) (apply : Bool)
    (h : flag &&& groupFlagRaid = 0) (group : GroupInfo) :
    ({ group with groupFlags := applyFlag apply flag flags } : GroupInfo).isRaidGroup =
      ({ group with groupFlags := flags } : GroupInfo).isRaidGroup := by
  simp only [isRaidGroup, applyFlag_and_of_disjoint h]

theorem seatsKept_setEveryone (group : GroupInfo) (apply : Bool) :
    SeatsKept group (group.setEveryoneIsAssistantLikeCpp apply) := by
  have hflags : SeatsKept group { group with
      groupFlags := applyFlag apply groupFlagEveryoneAssistant group.groupFlags } :=
    ⟨rfl, rfl, rfl, rfl, isRaidGroup_applyFlag _ _ apply (by decide) group⟩
  exact hflags.trans (SeatsKept.mapSlots _ fun _ => rfl)

theorem seatsKept_setDifficulty {changed : GroupInfo} {kind : GroupDifficultyKind} {id : ℕ}
    (h : group.setDifficultyIdLikeCpp kind id = some changed) : SeatsKept group changed := by
  unfold setDifficultyIdLikeCpp at h
  split_ifs at h
  cases kind <;> (cases h; exact ⟨rfl, rfl, rfl, rfl, rfl⟩)

/-! ## Joins, conversions and moves -/

theorem addMember_eq {joined : GroupInfo} (h : group.addMember guid = some joined) :
    guid ∉ group.members ∧ ∃ subgroup counts, group.joinSubgroup = some subgroup ∧
      group.subgroupCounterIncreaseLikeCpp subgroup =
        some { group with raidSubgroupCounts := counts } ∧
      joined = { group with
        members := group.members ++ [guid]
        memberSlots := group.memberSlots ++ [GroupMemberSlot.joined guid subgroup]
        raidSubgroupCounts := counts } := by
  unfold GroupInfo.addMember at h
  split_ifs at h with hmem
  refine ⟨by simpa using hmem, ?_⟩
  cases hsubgroup : group.joinSubgroup with
  | none => simp [hsubgroup] at h
  | some subgroup =>
    simp only [hsubgroup] at h
    obtain ⟨increased, hincrease, rfl⟩ := Option.map_eq_some_iff.mp h
    obtain ⟨counts, rfl⟩ := subgroupCounterIncrease_eq hincrease
    exact ⟨subgroup, counts, rfl, hincrease, rfl⟩

theorem convertToRaid_eq (group : GroupInfo) :
    ∃ flags counts, group.convertToRaidLikeCpp =
      { group with groupFlags := flags, raidSubgroupCounts := counts } := by
  unfold convertToRaidLikeCpp
  split_ifs
  · exact ⟨group.groupFlags, group.raidSubgroupCounts, rfl⟩
  · exact ⟨_, _, rfl⟩

theorem convertToGroup_eq {party : GroupInfo} (h : group.convertToGroupLikeCpp = some party) :
    ∃ flags counts, party = { group with groupFlags := flags, raidSubgroupCounts := counts } := by
  unfold convertToGroupLikeCpp at h
  split_ifs at h
  · exact ⟨_, _, (Option.some.inj h).symm⟩
  · exact ⟨group.groupFlags, group.raidSubgroupCounts, (Option.some.inj h).symm⟩

theorem changeMemberGroup_eq {moved : GroupInfo} {subgroup : ℕ}
    (h : group.changeMemberGroupLikeCpp guid subgroup = some moved) :
    ∃ index counts, group.slotIndex guid = some index ∧
      moved = { group.setSlotSubgroup index subgroup with raidSubgroupCounts := counts } := by
  unfold changeMemberGroupLikeCpp at h
  cases hindex : group.slotIndex guid with
  | none => simp [hindex] at h
  | some index =>
    simp only [hindex] at h
    split_ifs at h
    have hincrease : ∃ counts, ((group.setSlotSubgroup index subgroup).subgroupCounterIncreaseLikeCpp
        subgroup).getD (group.setSlotSubgroup index subgroup) =
          { group.setSlotSubgroup index subgroup with raidSubgroupCounts := counts } := by
      cases hinc : (group.setSlotSubgroup index subgroup).subgroupCounterIncreaseLikeCpp subgroup with
      | none => exact ⟨_, rfl⟩
      | some increased => exact subgroupCounterIncrease_eq hinc
    obtain ⟨counts, hcounts⟩ := hincrease
    rw [hcounts] at h
    obtain ⟨counts', hcounts'⟩ := subgroupCounterDecrease_eq
      { group.setSlotSubgroup index subgroup with raidSubgroupCounts := counts }
      (group.slotSubgroup index)
    exact ⟨index, counts', rfl, (Option.some.inj h).symm.trans hcounts'⟩

theorem swapMembersGroups_eq {swapped : GroupInfo} {first second : ObjectGuid}
    {facts : List (ObjectGuid × ℕ)}
    (h : group.swapMembersGroupsLikeCpp first second = some (swapped, facts)) :
    ∃ i j, group.slotIndex first = some i ∧ group.slotIndex second = some j ∧ i ≠ j ∧
      swapped = (group.setSlotSubgroup i (group.slotSubgroup j)).setSlotSubgroup j
        (group.slotSubgroup i) ∧
      facts = [(first, group.slotSubgroup j), (second, group.slotSubgroup i)] := by
  unfold swapMembersGroupsLikeCpp at h
  cases hi : group.slotIndex first with
  | none => simp [hi] at h
  | some i =>
    cases hj : group.slotIndex second with
    | none => simp [hi, hj] at h
    | some j =>
      simp only [hi, hj] at h
      split_ifs at h with hraid hne hsame
      obtain ⟨hswapped, hfacts⟩ := Prod.mk.inj (Option.some.inj h)
      exact ⟨i, j, rfl, rfl, hne, hswapped.symm, hfacts.symm⟩

end GroupInfo

/-! ## All calls -/

theorem Called.identity {group kept : GroupInfo} {call : GroupCall}
    {intents : List GroupPersistenceIntent} (h : Called group call (some kept, intents)) :
    kept.identity = group.identity ∧ kept.members ⊆ group.members := by
  have hseats : ∀ {edited : GroupInfo}, GroupInfo.SeatsKept group edited →
      edited.identity = group.identity ∧ edited.members ⊆ group.members :=
    fun hkept => ⟨hkept.identity, hkept.members ▸ List.Subset.refl _⟩
  cases h with
  | leave hmem hlen =>
    obtain ⟨counts, heq⟩ := group.removeMember_eq _
    rw [heq]
    exact ⟨rfl, List.filter_subset_self _⟩
  | succeed hmem hlen hsuccessor hled =>
    have hkept := GroupInfo.seatsKept_changeLeader hled
    obtain ⟨counts, heq⟩ := group.removeMember_eq _
    rw [hkept.identity, hkept.members, heq]
    exact ⟨rfl, List.filter_subset_self _⟩
  | toRaid =>
    obtain ⟨flags, counts, heq⟩ := group.convertToRaid_eq
    rw [heq]
    exact ⟨rfl, List.Subset.refl _⟩
  | toParty hparty =>
    obtain ⟨flags, counts, rfl⟩ := GroupInfo.convertToGroup_eq hparty
    exact ⟨rfl, List.Subset.refl _⟩
  | changeSubgroup hmoved =>
    obtain ⟨index, counts, -, rfl⟩ := GroupInfo.changeMemberGroup_eq hmoved
    exact ⟨rfl, List.Subset.refl _⟩
  | swapSubgroups hswapped =>
    obtain ⟨i, j, -, -, -, rfl, -⟩ := GroupInfo.swapMembersGroups_eq hswapped
    exact ⟨rfl, List.Subset.refl _⟩
  | changeLeader hmem hled => exact hseats (GroupInfo.seatsKept_changeLeader hled)
  | setFlag hflagged =>
    exact hseats (GroupInfo.seatsKept_flagUpdates (GroupInfo.setGroupMemberFlag_eq hflagged))
  | setEveryone => exact hseats (GroupInfo.seatsKept_setEveryone group _)
  | assignNothing => exact hseats (GroupInfo.SeatsKept.refl group)
  | assignNobody => exact hseats (GroupInfo.seatsKept_removeUnique group _)
  | assign hflag hflagged =>
    exact hseats ((GroupInfo.seatsKept_removeUnique group _).trans
      (GroupInfo.seatsKept_flagUpdates hflagged))
  | setDifficulty hchanged => exact hseats (GroupInfo.seatsKept_setDifficulty hchanged)

end RustyCore.Group
