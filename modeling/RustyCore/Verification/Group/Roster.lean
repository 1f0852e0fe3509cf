import RustyCore.Verification.Group.Steps

/-! # The roster

Member list, member slots and raid counters describe the same roster. The invariant is
stated over the seats, so every edit that keeps the seats keeps it. -/

namespace RustyCore.Group

namespace GroupInfo

variable {guid : ObjectGuid} {subgroup index : ℕ} {slot : GroupMemberSlot}
  {slots : List GroupMemberSlot}

/-- How many members sit in this subgroup. -/
def countIn (group : GroupInfo) (subgroup : ℕ) : ℕ :=
  group.memberSlots.countP (fun slot => slot.subgroup == subgroup)

def maxMembers (group : GroupInfo) : ℕ := if group.isRaidGroup then maxRaidSize else maxGroupSize

/-- The three views of the roster agree and respect the sizes. -/
structure Roster (group : GroupInfo) : Prop where
  members_nodup : group.members.Nodup
  members_eq : group.members = group.memberSlots.map GroupMemberSlot.guid
  size : group.members.length ≤ group.maxMembers
  subgroup_lt : ∀ slot ∈ group.memberSlots, slot.subgroup < maxRaidSubgroups
  counted : group.raidSubgroupCounts.isSome = group.isRaidGroup
  counts : ∀ counts, group.raidSubgroupCounts = some counts →
    ∀ (i : ℕ) (h : i < maxRaidSubgroups), counts[i] = group.countIn i ∧ counts[i] ≤ maxGroupSize

variable {group : GroupInfo}

theorem countIn_eq_countP_seats (group : GroupInfo) (subgroup : ℕ) :
    group.countIn subgroup = (group.memberSlots.map GroupMemberSlot.seat).countP
      (fun seat => seat.2 == subgroup) := by
  rw [List.countP_map]
  rfl

theorem guids_eq_seats (group : GroupInfo) :
    group.memberSlots.map GroupMemberSlot.guid =
      (group.memberSlots.map GroupMemberSlot.seat).map Prod.fst := by
  rw [List.map_map]
  rfl

theorem countIn_le_length (group : GroupInfo) (subgroup : ℕ) :
    group.countIn subgroup ≤ group.memberSlots.length := List.countP_le_length

theorem Roster.length_eq (h : group.Roster) : group.members.length = group.memberSlots.length := by
  rw [h.members_eq, List.length_map]

theorem Roster.of_seatsKept {edited : GroupInfo} (h : group.Roster) (hkept : SeatsKept group edited) :
    edited.Roster where
  members_nodup := by rw [hkept.members]; exact h.members_nodup
  members_eq := by
    rw [hkept.members, guids_eq_seats, hkept.seats, ← guids_eq_seats]
    exact h.members_eq
  size := by
    rw [hkept.members, maxMembers, hkept.raid]
    exact h.size
  subgroup_lt := fun slot hslot => by
    have hseat : slot.seat ∈ group.memberSlots.map GroupMemberSlot.seat := by
      rw [← hkept.seats]
      exact List.mem_map_of_mem hslot
    obtain ⟨before, hbefore, heq⟩ := List.mem_map.mp hseat
    have hsub : before.subgroup = slot.subgroup := congrArg Prod.snd heq
    exact hsub ▸ h.subgroup_lt before hbefore
  counted := by rw [hkept.counts, hkept.raid]; exact h.counted
  counts := fun counts hcounts i hi => by
    rw [countIn_eq_countP_seats, hkept.seats, ← countIn_eq_countP_seats]
    exact h.counts counts (hkept.counts ▸ hcounts) i hi

/-! ## Joining -/

theorem roster_new (groupGuid dbStoreId : ℕ) (leader : ObjectGuid) :
    (GroupInfo.new groupGuid dbStoreId leader).Roster where
  members_nodup := List.nodup_singleton leader
  members_eq := rfl
  size := by simp [GroupInfo.new, maxMembers, isRaidGroup, maxGroupSize]
  subgroup_lt := by simp [GroupInfo.new, GroupMemberSlot.joined, maxRaidSubgroups, maxRaidSize,
    maxGroupSize]
  counted := by simp [GroupInfo.new, isRaidGroup]
  counts := fun counts hcounts => by simp [GroupInfo.new] at hcounts

theorem Roster.slot_of_mem (h : group.Roster) (hmem : guid ∈ group.members) :
    ∃ slot ∈ group.memberSlots, slot.guid = guid := by
  rw [h.members_eq] at hmem
  exact List.mem_map.mp hmem

theorem countIn_append (group : GroupInfo) (guid : ObjectGuid) (members : List ObjectGuid)
    (counts : Option (Vector ℕ maxRaidSubgroups)) (subgroup i : ℕ) :
    ({ group with
        members := members
        memberSlots := group.memberSlots ++ [GroupMemberSlot.joined guid subgroup]
        raidSubgroupCounts := counts } : GroupInfo).countIn i =
      group.countIn i + if subgroup = i then 1 else 0 := by
  simp [countIn, List.countP_append, GroupMemberSlot.joined, List.countP_cons]

theorem joinSubgroup_spec {counts : Vector ℕ maxRaidSubgroups}
    (hcounts : group.raidSubgroupCounts = some counts) (h : group.joinSubgroup = some subgroup) :
    ∃ hlt : subgroup < maxRaidSubgroups, counts[subgroup] < maxGroupSize := by
  simp only [joinSubgroup, hcounts] at h
  obtain ⟨hlt, hroom, -⟩ := List.findIdx?_eq_some_iff_getElem.mp h
  rw [Vector.length_toList] at hlt
  exact ⟨hlt, by simpa using hroom⟩

theorem counts_of_increase {counts : Option (Vector ℕ maxRaidSubgroups)}
    (hlt : subgroup < maxRaidSubgroups)
    (h : group.subgroupCounterIncreaseLikeCpp subgroup =
      some { group with raidSubgroupCounts := counts }) :
    counts = group.raidSubgroupCounts.map
      (fun counts => counts.set subgroup (saturatingAdd 8 counts[subgroup] 1)) := by
  unfold subgroupCounterIncreaseLikeCpp at h
  cases hcounts : group.raidSubgroupCounts with
  | none =>
    simp only [hcounts] at h
    exact (congrArg raidSubgroupCounts (Option.some.inj h)).symm.trans hcounts
  | some before =>
    simp only [hcounts, dif_pos hlt] at h
    exact (congrArg raidSubgroupCounts (Option.some.inj h)).symm

theorem Roster.addMember {joined : GroupInfo} (h : group.Roster)
    (hfull : group.members.length < group.maxMembers) (hadd : group.addMember guid = some joined) :
    joined.Roster := by
  obtain ⟨hnew, subgroup, counts, hsubgroup, hincrease, rfl⟩ := addMember_eq hadd
  have hsub : subgroup < maxRaidSubgroups := by
    cases hcounts : group.raidSubgroupCounts with
    | none =>
      simp only [joinSubgroup, hcounts, Option.some.injEq] at hsubgroup
      rw [← hsubgroup]
      decide
    | some before => exact (joinSubgroup_spec hcounts hsubgroup).1
  have hcounts := counts_of_increase hsub hincrease
  constructor
  · rw [List.nodup_append]
    exact ⟨h.members_nodup, List.nodup_singleton guid, by
      rintro member hmember other hother rfl
      exact hnew (List.mem_singleton.mp hother ▸ hmember)⟩
  · simp [h.members_eq, GroupMemberSlot.joined]
  · rw [List.length_append]
    exact hfull
  · intro slot hslot
    rcases List.mem_append.mp hslot with hslot | hslot
    · exact h.subgroup_lt slot hslot
    · rw [List.mem_singleton.mp hslot]
      exact hsub
  · rw [hcounts, Option.isSome_map]
    exact h.counted
  · intro final hfinal i hi
    rw [countIn_append]
    obtain ⟨before, hbefore, rfl⟩ := Option.map_eq_some_iff.mp (hcounts.symm.trans hfinal)
    have hroom := (joinSubgroup_spec hbefore hsubgroup).2
    have hold := h.counts before hbefore i hi
    rw [Vector.getElem_set]
    by_cases heq : subgroup = i
    · subst heq
      have hmax : maxGroupSize = 5 := rfl
      rw [if_pos rfl, if_pos rfl, saturatingAdd_of_lt (by omega)]
      omega
    · rw [if_neg heq, if_neg heq]
      exact hold

/-! ## Leaving -/

theorem filter_guid_ne_of_notMem (h : guid ∉ slots.map GroupMemberSlot.guid) :
    slots.filter (fun slot => slot.guid != guid) = slots := by
  rw [List.filter_eq_self]
  intro slot hslot
  rw [bne_iff_ne]
  exact fun heq => h (heq ▸ List.mem_map_of_mem hslot)

theorem countP_filter_guid (p : GroupMemberSlot → Bool)
    (hnodup : (slots.map GroupMemberSlot.guid).Nodup) (hslot : slot ∈ slots) :
    (slots.filter (fun other => other.guid != slot.guid)).countP p + (if p slot then 1 else 0) =
      slots.countP p := by
  induction slots with
  | nil => simp at hslot
  | cons head slots ih =>
    rw [List.map_cons, List.nodup_cons] at hnodup
    rcases List.mem_cons.mp hslot with rfl | hslot
    · rw [List.filter_cons_of_neg (by simp), filter_guid_ne_of_notMem hnodup.1, List.countP_cons]
    · have hne : head.guid ≠ slot.guid := fun heq =>
        hnodup.1 (heq ▸ List.mem_map_of_mem hslot)
      rw [List.filter_cons_of_pos (by simpa using hne), List.countP_cons, List.countP_cons,
        ← ih hnodup.2 hslot]
      omega

theorem counts_of_decrease (group : GroupInfo) (hlt : subgroup < maxRaidSubgroups) :
    (group.subgroupCounterDecreaseLikeCpp subgroup).raidSubgroupCounts =
      group.raidSubgroupCounts.map (fun counts => counts.set subgroup (counts[subgroup] - 1)) := by
  unfold subgroupCounterDecreaseLikeCpp
  cases hcounts : group.raidSubgroupCounts with
  | none => simp [hcounts]
  | some counts => simp [hlt]

theorem find?_guid_of_mem (hnodup : (slots.map GroupMemberSlot.guid).Nodup) (hslot : slot ∈ slots) :
    slots.find? (fun other => other.guid == slot.guid) = some slot := by
  induction slots with
  | nil => simp at hslot
  | cons head slots ih =>
    rw [List.map_cons, List.nodup_cons] at hnodup
    rcases List.mem_cons.mp hslot with rfl | hslot
    · simp
    · have hne : head.guid ≠ slot.guid := fun heq =>
        hnodup.1 (heq ▸ List.mem_map_of_mem hslot)
      rw [List.find?_cons, beq_eq_false_iff_ne.mpr hne]
      exact ih hnodup.2 hslot

theorem Roster.guids_nodup (h : group.Roster) :
    (group.memberSlots.map GroupMemberSlot.guid).Nodup := h.members_eq ▸ h.members_nodup

theorem Roster.removeMember (h : group.Roster) (hmem : guid ∈ group.members) :
    (group.removeMember guid).Roster := by
  obtain ⟨slot, hslot, rfl⟩ := h.slot_of_mem hmem
  have hfind : group.memberSlotLikeCpp slot.guid = some slot :=
    find?_guid_of_mem h.guids_nodup hslot
  have hlt := h.subgroup_lt slot hslot
  have hcounts : (group.removeMember slot.guid).raidSubgroupCounts =
      group.raidSubgroupCounts.map
        (fun counts => counts.set slot.subgroup (counts[slot.subgroup] - 1)) := by
    rw [← counts_of_decrease group hlt]
    simp only [GroupInfo.removeMember, releaseSubgroup, hfind, dropMember]
  obtain ⟨counts, heq⟩ := group.removeMember_eq slot.guid
  have hsame : counts = (group.removeMember slot.guid).raidSubgroupCounts := by rw [heq]
  rw [heq]
  constructor
  · exact h.members_nodup.filter _
  · simp only [h.members_eq, List.filter_map]
    rfl
  · exact le_trans (List.length_filter_le _ _) h.size
  · exact fun other hother => h.subgroup_lt other (List.mem_of_mem_filter hother)
  · rw [hsame, hcounts, Option.isSome_map]
    exact h.counted
  · intro final hfinal i hi
    obtain ⟨before, hbefore, rfl⟩ := Option.map_eq_some_iff.mp
      ((hsame.trans hcounts).symm.trans hfinal)
    have hold := h.counts before hbefore i hi
    have hseat := countP_filter_guid (fun other => other.subgroup == i) h.guids_nodup hslot
    simp only [beq_iff_eq] at hseat
    simp only [countIn] at hold ⊢
    rw [Vector.getElem_set]
    by_cases hsub : slot.subgroup = i
    · subst hsub
      rw [if_pos rfl] at hseat ⊢
      omega
    · rw [if_neg hsub] at hseat ⊢
      omega

/-! ## Conversions -/

theorem getElem_foldl_countSlot (slots : List GroupMemberSlot) (counts : Vector ℕ maxRaidSubgroups)
    {i : ℕ} (hi : i < maxRaidSubgroups) (hroom : counts[i] + slots.length ≤ 255) :
    (slots.foldl countSlot counts)[i] =
      counts[i] + slots.countP (fun slot => slot.subgroup == i) := by
  induction slots generalizing counts with
  | nil => simp
  | cons slot slots ih =>
    rw [List.length_cons] at hroom
    have hstep : (countSlot counts slot)[i] = counts[i] + if slot.subgroup = i then 1 else 0 := by
      unfold countSlot
      by_cases heq : slot.subgroup = i
      · subst heq
        rw [dif_pos hi, Vector.getElem_set_self, saturatingAdd_of_lt (by omega), if_pos rfl]
      · by_cases hlt : slot.subgroup < maxRaidSubgroups
        · rw [dif_pos hlt, Vector.getElem_set_ne _ _ heq, if_neg heq]
          rfl
        · rw [dif_neg hlt, if_neg heq]
          rfl
    rw [List.foldl_cons, ih (countSlot counts slot) (by rw [hstep]; split_ifs <;> omega), hstep,
      List.countP_cons]
    simp only [beq_iff_eq]
    omega

theorem Roster.convertToRaid (h : group.Roster) : group.convertToRaidLikeCpp.Roster := by
  unfold convertToRaidLikeCpp
  split_ifs with hraid
  · exact h
  · have hsize : group.members.length ≤ maxGroupSize := by
      have := h.size
      rwa [maxMembers, if_neg hraid] at this
    have hbig : ({ group with groupFlags := group.groupFlags ||| groupFlagRaid } : GroupInfo).isRaidGroup
        = true := by
      simp only [isRaidGroup, or_and_self_right]
      decide
    constructor
    · exact h.members_nodup
    · exact h.members_eq
    · have hmax : ({ group with groupFlags := group.groupFlags ||| groupFlagRaid } :
          GroupInfo).initRaidSubgroupsCounterLikeCpp.maxMembers = maxRaidSize := if_pos hbig
      rw [hmax]
      exact le_trans hsize (by decide)
    · exact h.subgroup_lt
    · exact hbig.symm
    · intro counts hcounts i hi
      obtain rfl := (Option.some.inj hcounts)
      have hlength : group.memberSlots.length ≤ 5 := h.length_eq ▸ hsize
      have hcount := getElem_foldl_countSlot group.memberSlots (Vector.replicate maxRaidSubgroups 0)
        hi (by rw [Vector.getElem_replicate]; omega)
      rw [Vector.getElem_replicate, Nat.zero_add] at hcount
      rw [hcount]
      exact ⟨rfl, le_trans (group.countIn_le_length i) hlength⟩

theorem Roster.convertToGroup {party : GroupInfo} (h : group.Roster)
    (hparty : group.convertToGroupLikeCpp = some party) : party.Roster := by
  unfold convertToGroupLikeCpp at hparty
  split_ifs at hparty with hsize hraid
  · obtain rfl := Option.some.inj hparty
    have hsmall : ({ group with
        groupFlags := group.groupFlags &&& ~~~groupFlagRaid
        raidSubgroupCounts := none } : GroupInfo).isRaidGroup = false := by
      simp only [isRaidGroup, andNot_and_self]
      rfl
    constructor
    · exact h.members_nodup
    · exact h.members_eq
    · rw [maxMembers, hsmall]
      exact Nat.le_of_not_lt hsize
    · exact h.subgroup_lt
    · exact hsmall.symm
    · intro counts hcounts
      cases hcounts
  · exact Option.some.inj hparty ▸ h

/-! ## Moves between subgroups -/

theorem slotSubgroup_eq (h : group.memberSlots[index]? = some slot) :
    group.slotSubgroup index = slot.subgroup := by
  rw [slotSubgroup, h]
  rfl

theorem slotIndex_spec (h : group.slotIndex guid = some index) :
    ∃ slot, group.memberSlots[index]? = some slot ∧ slot.guid = guid := by
  obtain ⟨hlt, hguid, -⟩ := List.findIdx?_eq_some_iff_getElem.mp h
  exact ⟨_, List.getElem?_eq_getElem hlt, by simpa using hguid⟩

theorem countIn_setSlotSubgroup (h : group.memberSlots[index]? = some slot) (subgroup i : ℕ) :
    (group.setSlotSubgroup index subgroup).countIn i + (if slot.subgroup = i then 1 else 0) =
      group.countIn i + (if subgroup = i then 1 else 0) := by
  have hmove := countP_modify_add (fun slot : GroupMemberSlot => { slot with subgroup := subgroup })
    (fun slot => slot.subgroup == i) h
  simpa [countIn, setSlotSubgroup] using hmove

theorem countIn_withCounts (group : GroupInfo) (counts : Option (Vector ℕ maxRaidSubgroups))
    (i : ℕ) : ({ group with raidSubgroupCounts := counts } : GroupInfo).countIn i = group.countIn i :=
  rfl

theorem guids_setSlotSubgroup (group : GroupInfo) (index subgroup : ℕ) :
    (group.setSlotSubgroup index subgroup).memberSlots.map GroupMemberSlot.guid =
      group.memberSlots.map GroupMemberSlot.guid := by
  refine map_modify_of_eq GroupMemberSlot.guid (fun slot => ?_) group.memberSlots index
  rfl

theorem subgroup_lt_setSlotSubgroup (hlt : subgroup < maxRaidSubgroups)
    (h : ∀ slot ∈ group.memberSlots, slot.subgroup < maxRaidSubgroups) (index : ℕ) :
    ∀ slot ∈ (group.setSlotSubgroup index subgroup).memberSlots,
      slot.subgroup < maxRaidSubgroups := by
  refine forall_mem_modify h (fun slot _ => ?_) index
  exact hlt

theorem changeMemberGroup_spec {moved : GroupInfo} (h : group.Roster)
    (hmoved : group.changeMemberGroupLikeCpp guid subgroup = some moved) :
    ∃ (index : ℕ) (slot : GroupMemberSlot) (before : Vector ℕ maxRaidSubgroups)
      (hlt : subgroup < maxRaidSubgroups) (hslot : slot.subgroup < maxRaidSubgroups),
      group.slotIndex guid = some index ∧ group.memberSlots[index]? = some slot ∧
      slot.subgroup ≠ subgroup ∧ group.raidSubgroupCounts = some before ∧
      before[subgroup] < maxGroupSize ∧
      moved = { group.setSlotSubgroup index subgroup with
        raidSubgroupCounts :=
          some ((before.set subgroup (before[subgroup] + 1)).set slot.subgroup
            (before[slot.subgroup] - 1)) } := by
  unfold changeMemberGroupLikeCpp at hmoved
  cases hindex : group.slotIndex guid with
  | none => simp [hindex] at hmoved
  | some index =>
    obtain ⟨slot, hslot, -⟩ := slotIndex_spec hindex
    simp only [hindex, slotSubgroup_eq hslot] at hmoved
    split_ifs at hmoved with hraid hlt hfree hne
    have hlt : subgroup < maxRaidSubgroups := Nat.lt_of_not_le hlt
    have hslt := h.subgroup_lt slot (List.mem_of_getElem? hslot)
    cases hcounts : group.raidSubgroupCounts with
    | none => simp [hasFreeSlotSubGroupLikeCpp, hcounts] at hfree
    | some before =>
      have hroom : before[subgroup] < maxGroupSize := by
        simpa [hasFreeSlotSubGroupLikeCpp, hcounts, hlt] using hfree
      have hsat : saturatingAdd 8 before[subgroup] 1 = before[subgroup] + 1 :=
        saturatingAdd_of_lt (by simp only [maxGroupSize] at hroom; omega)
      have hother : (before.set subgroup (before[subgroup] + 1))[slot.subgroup] =
          before[slot.subgroup] := Vector.getElem_set_ne _ _ (Ne.symm hne)
      refine ⟨index, slot, before, hlt, hslt, rfl, hslot, hne, rfl, hroom, ?_⟩
      rw [← Option.some.inj hmoved]
      simp only [subgroupCounterIncreaseLikeCpp, setSlotSubgroup, hcounts, dif_pos hlt, hsat,
        Option.getD_some, subgroupCounterDecreaseLikeCpp, dif_pos hslt, hother]

theorem Roster.changeMemberGroup {moved : GroupInfo} (h : group.Roster)
    (hmoved : group.changeMemberGroupLikeCpp guid subgroup = some moved) : moved.Roster := by
  obtain ⟨index, slot, before, hlt, hslt, -, hslot, hne, hcounts, hroom, rfl⟩ :=
    changeMemberGroup_spec h hmoved
  constructor
  · exact h.members_nodup
  · exact h.members_eq.trans (guids_setSlotSubgroup group index subgroup).symm
  · exact h.size
  · exact subgroup_lt_setSlotSubgroup hlt h.subgroup_lt index
  · have hcounted := h.counted
    rw [hcounts] at hcounted
    exact hcounted
  · intro counts hfinal i hi
    obtain rfl := Option.some.inj hfinal
    have hold := h.counts before hcounts
    have hseat := countIn_setSlotSubgroup hslot subgroup i
    rw [countIn_withCounts, Vector.getElem_set]
    have hfrom := hold slot.subgroup hslt
    have hto := hold subgroup hlt
    have hsame := hold i hi
    by_cases hi' : slot.subgroup = i
    · subst hi'
      rw [if_pos rfl, if_neg (Ne.symm hne)] at hseat
      rw [if_pos rfl]
      omega
    · rw [if_neg hi'] at hseat ⊢
      rw [Vector.getElem_set]
      by_cases hi'' : subgroup = i
      · subst hi''
        rw [if_pos rfl] at hseat ⊢
        omega
      · rw [if_neg hi''] at hseat ⊢
        omega

/-- A swap exchanges two seats, so every subgroup keeps its number of members. -/
theorem Roster.swapMembersGroups {swapped : GroupInfo} {first second : ObjectGuid}
    {facts : List (ObjectGuid × ℕ)} (h : group.Roster)
    (hswapped : group.swapMembersGroupsLikeCpp first second = some (swapped, facts)) :
    swapped.Roster := by
  obtain ⟨i, j, hi, hj, hne, rfl, -⟩ := swapMembersGroups_eq hswapped
  obtain ⟨slotI, hslotI, -⟩ := slotIndex_spec hi
  obtain ⟨slotJ, hslotJ, -⟩ := slotIndex_spec hj
  rw [slotSubgroup_eq hslotI, slotSubgroup_eq hslotJ]
  have hltI := h.subgroup_lt slotI (List.mem_of_getElem? hslotI)
  have hltJ := h.subgroup_lt slotJ (List.mem_of_getElem? hslotJ)
  have hslotJ' : (group.setSlotSubgroup i slotJ.subgroup).memberSlots[j]? = some slotJ := by
    simp [setSlotSubgroup, hne, hslotJ]
  have hcount : ∀ x, ((group.setSlotSubgroup i slotJ.subgroup).setSlotSubgroup j
      slotI.subgroup).countIn x = group.countIn x := by
    intro x
    have hfirst := countIn_setSlotSubgroup hslotI slotJ.subgroup x
    have hsecond := countIn_setSlotSubgroup hslotJ' slotI.subgroup x
    omega
  constructor
  · exact h.members_nodup
  · rw [guids_setSlotSubgroup, guids_setSlotSubgroup]
    exact h.members_eq
  · exact h.size
  · exact subgroup_lt_setSlotSubgroup hltI (subgroup_lt_setSlotSubgroup hltJ h.subgroup_lt i) j
  · exact h.counted
  · intro counts hcounts x hx
    rw [hcount]
    exact h.counts counts hcounts x hx

end GroupInfo

/-! ## Every run -/

open GroupInfo in
theorem Called.roster {group kept : GroupInfo} {call : GroupCall}
    {intents : List GroupPersistenceIntent} (h : Called group call (some kept, intents))
    (hroster : group.Roster) : kept.Roster := by
  cases h with
  | leave hmem hlen => exact hroster.removeMember hmem
  | succeed hmem hlen hsuccessor hled =>
    exact (hroster.removeMember hmem).of_seatsKept (seatsKept_changeLeader hled)
  | toRaid => exact hroster.convertToRaid
  | toParty hparty => exact hroster.convertToGroup hparty
  | changeSubgroup hmoved => exact hroster.changeMemberGroup hmoved
  | swapSubgroups hswapped => exact hroster.swapMembersGroups hswapped
  | changeLeader hmem hled => exact hroster.of_seatsKept (seatsKept_changeLeader hled)
  | setFlag hflagged =>
    exact hroster.of_seatsKept (seatsKept_flagUpdates (setGroupMemberFlag_eq hflagged))
  | setEveryone => exact hroster.of_seatsKept (seatsKept_setEveryone group _)
  | assignNothing => exact hroster
  | assignNobody => exact hroster.of_seatsKept (seatsKept_removeUnique group _)
  | assign hflag hflagged =>
    exact hroster.of_seatsKept ((seatsKept_removeUnique group _).trans
      (seatsKept_flagUpdates hflagged))
  | setDifficulty hchanged => exact hroster.of_seatsKept (seatsKept_setDifficulty hchanged)

def GroupRegistry.Rosters (registry : GroupRegistry) : Prop :=
  ∀ groupGuid group, registry.groups.lookup groupGuid = some group → group.Roster

theorem rosters_insert {registry : GroupRegistry} (h : registry.Rosters) {groupGuid : ℕ}
    {group : GroupInfo} (hgroup : group.Roster) (ids : Identifiers) :
    GroupRegistry.Rosters ⟨registry.groups.insert groupGuid group, ids⟩ := by
  intro other found hfound
  rw [Dict.lookup_insert_eq] at hfound
  by_cases heq : other = groupGuid
  · rw [if_pos heq] at hfound
    exact Option.some.inj hfound ▸ hgroup
  · rw [if_neg heq] at hfound
    exact h other found hfound

open GroupInfo in
theorem RegistryChange.rosters {registry registry' : GroupRegistry}
    (h : RegistryChange registry registry') (hrosters : registry.Rosters) : registry'.Rosters := by
  cases h with
  | same => exact hrosters
  | joined hgroup hfull hadd =>
    refine rosters_insert hrosters ((hrosters _ _ hgroup).addMember ?_ hadd) registry.ids
    simpa [isFullLikeCpp, maxMembers] using hfull
  | @founded leader invitee hne =>
    have hnew := roster_new registry.ids.generateGroupIdLikeCpp.1
      registry.ids.generateGroupIdLikeCpp.2.generateGroupDbStoreIdLikeCpp.1 leader
    refine rosters_insert hrosters (hnew.addMember ?_ (addMember_new hne)) _
    simp [GroupInfo.new, maxMembers, isRaidGroup, maxGroupSize]
  | @called groupGuid group call result hgroup hcalled =>
    intro other found hfound
    rw [lookup_settle] at hfound
    by_cases heq : other = groupGuid
    · rw [if_pos heq] at hfound
      obtain ⟨left, intents⟩ := result
      obtain rfl : left = some found := hfound
      exact hcalled.roster (hrosters _ _ hgroup)
    · rw [if_neg heq] at hfound
      exact hrosters other found hfound

/-- Whatever is done to the directory and whatever invites were pending, every group that
is ever registered keeps its three rosters in agreement and within the sizes. -/
theorem rosters_agree (ids : Identifiers) (pending : PendingInvites) (ops : List GroupOp)
    (groupGuid : ℕ) (group : GroupInfo)
    (h : (run GroupDirectory.step ⟨⟨∅, ids⟩, pending⟩ ops).registry.groups.lookup groupGuid =
      some group) :
    group.members.Nodup ∧ group.members = group.memberSlots.map GroupMemberSlot.guid ∧
      group.members.length ≤ (if group.isRaidGroup then 40 else 5) ∧
      group.raidSubgroupCounts.isSome = group.isRaidGroup ∧
      ∀ counts, group.raidSubgroupCounts = some counts →
        (∀ (i : ℕ) (hi : i < 8), counts[i] =
            group.memberSlots.countP (fun slot => slot.subgroup == i) ∧ counts[i] ≤ 5) ∧
          ∀ slot ∈ group.memberSlots, slot.subgroup < 8 := by
  have hstart : GroupRegistry.Rosters (GroupDirectory.mk ⟨∅, ids⟩ pending).registry := by
    intro other found hfound
    cases hfound
  have hrosters := run_invariant_of_all (fun directory : GroupDirectory => directory.registry.Rosters)
    (fun directory op hr => (registryChange_of_step directory op).rosters hr) hstart ops
  obtain ⟨hnodup, heq, hsize, hsubgroup, hcounted, hcounts⟩ := hrosters groupGuid group h
  exact ⟨hnodup, heq, hsize, hcounted, fun counts hc => ⟨hcounts counts hc, hsubgroup⟩⟩

/-- The second player accepts the invite of the first, who then makes the group a raid. -/
theorem rosters_agree_sample :
    ∃ group, (run GroupDirectory.step ⟨⟨∅, Identifiers.initial⟩, ∅⟩
        [.createInvite (fun _ => 0) (player 1) (player 2) none 0 0,
          .acceptInvite (player 2) none (some (player 1)),
          .call 1 (.convertGroup (player 1) true)]).registry.groups.lookup 1 = some group ∧
      group.members = [player 1, player 2] ∧
      group.raidSubgroupCounts.isSome = true ∧ group.members.Nodup := by
  refine ⟨_, rfl, by decide, by decide, ?_⟩
  exact (rosters_agree Identifiers.initial ∅
    [.createInvite (fun _ => 0) (player 1) (player 2) none 0 0,
      .acceptInvite (player 2) none (some (player 1)),
      .call 1 (.convertGroup (player 1) true)] 1 _ rfl).1

end RustyCore.Group
