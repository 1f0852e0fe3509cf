import RustyCore.Model.Group.Loading
import RustyCore.Verification.Group.Roster

/-! # The seats in the database

The row of a group and the rows of its members after the intents of a call. They always
describe the leader, the group flags, the difficulties and the seats. -/

namespace RustyCore.Group

variable {index id : ℕ} {flags : BitVec 8} {group : GroupInfo}
variable {intents : List GroupPersistenceIntent} {tables : GroupTables}

/-! ## Players -/

/-- A player of the realm that loading assumes. -/
def IsPlayer (guid : ObjectGuid) : Prop := ∃ id < 2 ^ 40, guid = player id

theorem counterLow_player (h : id < 2 ^ 40) : counterLow (player id) = id := by
  have htype : (player id).highType ≠ ObjectGuid.highGuidTransport := by
    change (player 0).highType ≠ ObjectGuid.highGuidTransport
    decide
  have hlow : (player id).counter = BitVec.ofNat 64 id &&& 0xFFFFFFFFFF := if_neg htype
  rw [counterLow, hlow, BitVec.toNat_and, BitVec.toNat_ofNat, Nat.mod_eq_of_lt (by omega)]
  exact (Nat.and_two_pow_sub_one_eq_mod id 40).trans (Nat.mod_eq_of_lt h)

theorem playerFromLow_eq (h : id < 2 ^ 40) : playerFromLow id = some (player id) := by
  rw [playerFromLow, if_pos (by omega)]
  rfl

theorem IsPlayer.eq_player {guid : ObjectGuid} (h : IsPlayer guid) :
    guid = player (counterLow guid) := by
  obtain ⟨id, hid, rfl⟩ := h
  rw [counterLow_player hid]

theorem IsPlayer.counterLow_lt {guid : ObjectGuid} (h : IsPlayer guid) :
    counterLow guid < 2 ^ 40 := by
  obtain ⟨id, hid, rfl⟩ := h
  rwa [counterLow_player hid]

theorem IsPlayer.counterLow_eq_iff {guid other : ObjectGuid} (h : IsPlayer guid)
    (h' : IsPlayer other) : counterLow guid = counterLow other ↔ guid = other := by
  refine ⟨fun heq => ?_, congrArg counterLow⟩
  rw [h.eq_player, heq, ← h'.eq_player]

/-! ## Slots -/

namespace GroupInfo

variable {group : GroupInfo}
variable {f : GroupMemberSlot → GroupMemberSlot} {guid : ObjectGuid}

theorem find?_modifyFirst_guid (hf : ∀ slot, (f slot).guid = slot.guid)
    (slots : List GroupMemberSlot) (guid other : ObjectGuid) :
    (modifyFirst (fun slot => slot.guid == guid) f slots).find? (fun slot => slot.guid == other) =
      if other = guid then (slots.find? fun slot => slot.guid == other).map f
      else slots.find? fun slot => slot.guid == other := by
  by_cases hother : other = guid
  · subst hother
    rw [if_pos rfl]
    refine find?_modifyFirst_self (fun slot hslot => ?_) slots
    rw [hf]
    exact hslot
  · rw [if_neg hother]
    refine find?_modifyFirst_of_disjoint (fun slot hslot => ?_) slots
    have hguid : slot.guid = guid := by simpa using hslot
    rw [hf, hguid]
    simpa using Ne.symm hother

theorem find?_modify_slotIndex (hf : ∀ slot, (f slot).guid = slot.guid)
    (h : group.slotIndex guid = some index) (other : ObjectGuid) :
    (group.memberSlots.modify index f).find? (fun slot => slot.guid == other) =
      if other = guid then (group.memberSlotLikeCpp other).map f
      else group.memberSlotLikeCpp other := by
  rw [modify_of_findIdx? h]
  exact find?_modifyFirst_guid hf group.memberSlots guid other

theorem memberSlot_mapSlots (hf : ∀ slot, (f slot).guid = slot.guid) (group : GroupInfo)
    (guid : ObjectGuid) :
    (group.mapSlots f).memberSlotLikeCpp guid = (group.memberSlotLikeCpp guid).map f := by
  rw [memberSlotLikeCpp, mapSlots, List.find?_map, memberSlotLikeCpp]
  simp only [Function.comp_def, hf]

theorem memberSlot_removeMember (group : GroupInfo) (guid other : ObjectGuid) :
    (group.removeMember guid).memberSlotLikeCpp other =
      if other = guid then none else group.memberSlotLikeCpp other := by
  obtain ⟨counts, heq⟩ := group.removeMember_eq guid
  rw [heq, memberSlotLikeCpp, List.find?_filter]
  by_cases hother : other = guid
  · subst hother
    simp
  · rw [if_neg hother, memberSlotLikeCpp]
    refine congrArg (fun p => group.memberSlots.find? p) (funext fun slot => ?_)
    by_cases hslot : slot.guid = other
    · simp [hslot, hother]
    · simp [hslot]

theorem memberSlot_changeLeader {led : GroupInfo}
    (h : group.changeLeaderLikeCpp guid = some (led, flags)) (other : ObjectGuid) :
    led.memberSlotLikeCpp other =
      if other = guid then (group.memberSlotLikeCpp other).map
        fun slot => { slot with flags := slot.flags &&& ~~~memberFlagAssistant }
      else group.memberSlotLikeCpp other := by
  rw [changeLeader_eq h]
  refine find?_modifyFirst_guid (fun slot => ?_) group.memberSlots guid other
  rfl

theorem memberSlot_eq_none (h : group.Roster) (hmem : guid ∉ group.members) :
    group.memberSlotLikeCpp guid = none := by
  rw [h.members_eq] at hmem
  rw [memberSlotLikeCpp, List.find?_eq_none]
  intro slot hslot hguid
  exact hmem (List.mem_map.mpr ⟨slot, hslot, by simpa using hguid⟩)

theorem SeatsKept.subgroup {edited : GroupInfo} (h : SeatsKept group edited) (guid : ObjectGuid) :
    (edited.memberSlotLikeCpp guid).map GroupMemberSlot.subgroup =
      (group.memberSlotLikeCpp guid).map GroupMemberSlot.subgroup := by
  have hseat : ∀ slots : List GroupMemberSlot,
      (slots.find? fun slot => slot.guid == guid).map GroupMemberSlot.subgroup =
        ((slots.map GroupMemberSlot.seat).find? fun seat => seat.1 == guid).map Prod.snd := by
    intro slots
    rw [List.find?_map, Option.map_map]
    rfl
  rw [memberSlotLikeCpp, memberSlotLikeCpp, hseat, hseat, h.seats]

end GroupInfo

/-! ## Rows -/

theorem counterLow_lt (guid : ObjectGuid) : counterLow guid < 2 ^ 40 := by
  rw [counterLow, ObjectGuid.counter]
  split_ifs
  · rw [BitVec.toNat_and]
    exact Nat.lt_of_le_of_lt Nat.and_le_right (by decide)
  · rw [BitVec.toNat_and]
    exact Nat.lt_of_le_of_lt Nat.and_le_right (by decide)

namespace GroupTables

def memberRow (tables : GroupTables) (guid : ObjectGuid) : Option GroupMemberDbRow :=
  tables.members.find (counterLow guid)

theorem replay_append (tables : GroupTables) (intents intents' : List GroupPersistenceIntent) :
    tables.replay (intents ++ intents') = (tables.replay intents).replay intents' :=
  List.foldl_append

variable {tables : GroupTables} {guid other : ObjectGuid}

theorem memberRow_insertMember {dbStoreId subgroup roles : ℕ}
    (hnew : tables.memberRow guid = none) (other : ObjectGuid) :
    (tables.execute (.insertMember dbStoreId guid flags subgroup roles)).memberRow other =
      if counterLow other = counterLow guid then
        some ⟨dbStoreId, counterLow guid, flags, subgroup, roles⟩
      else tables.memberRow other := by
  have hfind : tables.members.find (GroupMemberDbRow.memberGuidLow
      ⟨dbStoreId, counterLow guid, flags, subgroup, roles⟩) = none := hnew
  obtain ⟨members, hmembers⟩ := KeyedTable.insert_of_find hfind
  simp only [execute, memberRow, hmembers, Option.getD_some]
  exact KeyedTable.find_insert hmembers (counterLow other)

theorem rows_insertMember {dbStoreId subgroup roles : ℕ} (hnew : tables.memberRow guid = none) :
    (tables.execute (.insertMember dbStoreId guid flags subgroup roles)).members.rows =
      tables.members.rows ++ [⟨dbStoreId, counterLow guid, flags, subgroup, roles⟩] := by
  have hfind : tables.members.find (GroupMemberDbRow.memberGuidLow
      ⟨dbStoreId, counterLow guid, flags, subgroup, roles⟩) = none := hnew
  obtain ⟨members, hmembers⟩ := KeyedTable.insert_of_find hfind
  simp only [execute, hmembers, Option.getD_some]
  exact (KeyedTable.insert_eq_some hmembers).2

theorem memberRow_deleteMember (tables : GroupTables) (guid other : ObjectGuid) :
    (tables.execute (.deleteMember guid)).memberRow other =
      if counterLow other = counterLow guid then none else tables.memberRow other :=
  KeyedTable.find_delete tables.members (counterLow guid) (counterLow other)

theorem memberRow_updateMember (tables : GroupTables) (guid : ObjectGuid)
    (change : GroupMemberDbRow → GroupMemberDbRow)
    (hchange : ∀ row, (change row).memberGuidLow = row.memberGuidLow) (other : ObjectGuid) :
    (tables.updateMember guid change hchange).memberRow other =
      if counterLow other = counterLow guid then (tables.memberRow other).map change
      else tables.memberRow other :=
  KeyedTable.find_update tables.members (counterLow guid) change hchange (counterLow other)

end GroupTables

/-- The row of a group. The code does not write the leader of a group without a store id. -/
structure GroupDbRow.Describes (row : GroupDbRow) (group : GroupInfo) : Prop where
  dbStoreId : row.dbStoreId = group.dbStoreId
  leader : group.dbStoreId ≠ 0 → row.leaderGuidLow = counterLow group.leaderGuid
  groupFlags : row.groupFlags = group.groupFlags
  dungeonDifficultyId : row.dungeonDifficultyId = group.dungeonDifficultyId
  raidDifficultyId : row.raidDifficultyId = group.raidDifficultyId
  legacyRaidDifficultyId : row.legacyRaidDifficultyId = group.legacyRaidDifficultyId
  leader_lt : row.leaderGuidLow < 2 ^ 40
  looter_lt : row.looterGuidLow < 2 ^ 40
  masterLooter_lt : row.masterLooterGuidLow < 2 ^ 40

/-- The table `groups` holds one row, and it describes the group. -/
def GroupSaved (tables : GroupTables) (group : GroupInfo) : Prop :=
  ∃ row, tables.groups.rows = [row] ∧ row.Describes group

/-- The table `group_member` holds the seats of the group. -/
structure SeatsSaved (tables : GroupTables) (group : GroupInfo) : Prop where
  owned : ∀ row ∈ tables.members.rows,
    row.dbStoreId = group.dbStoreId ∧ row.memberGuidLow < 2 ^ 40
  subgroups : ∀ guid, IsPlayer guid →
    (tables.memberRow guid).map GroupMemberDbRow.subgroup =
      (group.memberSlotLikeCpp guid).map GroupMemberSlot.subgroup

/-- A member is loaded with the flags that it has. -/
def FlagsSaved (tables : GroupTables) (group : GroupInfo) : Prop :=
  ∀ guid, IsPlayer guid →
    (tables.memberRow guid).map (fun row => group.loadedMemberFlags row.memberFlags) =
      (group.memberSlotLikeCpp guid).map GroupMemberSlot.flags

/-! ## The row of the group -/

/-- What the row of a group is compared with. -/
def GroupInfo.profile (group : GroupInfo) : ℕ × ObjectGuid × BitVec 16 × ℕ × ℕ × ℕ :=
  (group.dbStoreId, group.leaderGuid, group.groupFlags, group.dungeonDifficultyId,
    group.raidDifficultyId, group.legacyRaidDifficultyId)

theorem GroupDbRow.Describes.congr {row : GroupDbRow} {edited : GroupInfo}
    (h : row.Describes group) (hprofile : edited.profile = group.profile) :
    row.Describes edited := by
  simp only [GroupInfo.profile, Prod.mk.injEq] at hprofile
  obtain ⟨hid, hleader, hflags, hdungeon, hraid, hlegacy⟩ := hprofile
  constructor
  · exact h.dbStoreId.trans hid.symm
  · rw [hid, hleader]
    exact h.leader
  · exact h.groupFlags.trans hflags.symm
  · exact h.dungeonDifficultyId.trans hdungeon.symm
  · exact h.raidDifficultyId.trans hraid.symm
  · exact h.legacyRaidDifficultyId.trans hlegacy.symm
  · exact h.leader_lt
  · exact h.looter_lt
  · exact h.masterLooter_lt

namespace GroupSaved

variable {tables tables' : GroupTables} {group edited : GroupInfo}

theorem congr (h : GroupSaved tables group) (hgroups : tables'.groups = tables.groups)
    (hprofile : edited.profile = group.profile) : GroupSaved tables' edited := by
  obtain ⟨row, hrow, hdescribes⟩ := h
  exact ⟨row, by rw [hgroups, hrow], hdescribes.congr hprofile⟩

theorem updateGroup (h : GroupSaved tables group) {change : GroupDbRow → GroupDbRow}
    (hchange : ∀ row, (change row).dbStoreId = row.dbStoreId)
    (hedited : ∀ row, row.Describes group → (change row).Describes edited) :
    GroupSaved (tables.updateGroup group.dbStoreId change hchange) edited := by
  obtain ⟨row, hrow, hdescribes⟩ := h
  refine ⟨change row, ?_, hedited row hdescribes⟩
  change (tables.groups.rows.map fun row =>
    if row.dbStoreId = group.dbStoreId then change row else row) = [change row]
  rw [hrow, List.map_singleton, if_pos hdescribes.dbStoreId]

theorem updateLeader (h : GroupSaved tables group) (leaderGuid : ObjectGuid)
    (hprofile : edited.profile = { group with leaderGuid := leaderGuid }.profile) :
    GroupSaved (tables.execute (.updateLeader group.dbStoreId leaderGuid)) edited := by
  refine h.updateGroup _ fun row hrow => GroupDbRow.Describes.congr ?_ hprofile
  exact { hrow with leader := fun _ => rfl, leader_lt := counterLow_lt leaderGuid }

theorem updateGroupType (h : GroupSaved tables group) (groupFlags : BitVec 16)
    (hprofile : edited.profile = { group with groupFlags := groupFlags }.profile) :
    GroupSaved (tables.execute (.updateGroupType group.dbStoreId groupFlags)) edited := by
  refine h.updateGroup _ fun row hrow => GroupDbRow.Describes.congr ?_ hprofile
  exact { hrow with groupFlags := rfl }

theorem updateDifficulty (h : GroupSaved tables group) {kind : GroupDifficultyKind}
    (hchanged : group.setDifficultyIdLikeCpp kind id = some edited) :
    GroupSaved (tables.execute (.updateDifficulty group.dbStoreId kind id)) edited := by
  unfold GroupInfo.setDifficultyIdLikeCpp at hchanged
  split_ifs at hchanged
  cases kind with
  | dungeon =>
    cases hchanged
    exact h.updateGroup _ fun row hrow => { hrow with dungeonDifficultyId := rfl }
  | raid =>
    cases hchanged
    exact h.updateGroup _ fun row hrow => { hrow with raidDifficultyId := rfl }
  | legacyRaid =>
    cases hchanged
    exact h.updateGroup _ fun row hrow => { hrow with legacyRaidDifficultyId := rfl }

end GroupSaved

namespace GroupInfo

variable {group : GroupInfo}
variable {guid : ObjectGuid}

theorem profile_removeMember (group : GroupInfo) (guid : ObjectGuid) :
    (group.removeMember guid).profile = group.profile := by
  obtain ⟨counts, heq⟩ := group.removeMember_eq guid
  rw [heq]
  rfl

theorem profile_changeLeader {led : GroupInfo}
    (h : group.changeLeaderLikeCpp guid = some (led, flags)) :
    led.profile = { group with leaderGuid := guid }.profile := by
  rw [changeLeader_eq h]
  rfl

theorem profile_removeUnique (group : GroupInfo) (flag : BitVec 8) :
    (group.removeUniqueGroupMemberFlagLikeCpp flag).profile = group.profile := by
  unfold removeUniqueGroupMemberFlagLikeCpp
  split_ifs <;> rfl

theorem profile_flagUpdates {flagged : GroupInfo} {apply : Bool} {flag : BitVec 8}
    {facts : List (ObjectGuid × BitVec 8)}
    (h : group.setGroupMemberFlagUpdatesLikeCpp guid apply flag = some (flagged, facts)) :
    flagged.profile = group.profile := by
  obtain ⟨index, slot, -, -, rfl, -⟩ := setGroupMemberFlagUpdates_eq h
  exact profile_removeUnique group flag

end GroupInfo

theorem groups_updateFlags (tables : GroupTables) (facts : List (ObjectGuid × BitVec 8)) :
    (tables.replay (facts.map fun fact => .updateMemberFlags fact.1 fact.2)).groups =
      tables.groups := by
  induction facts generalizing tables with
  | nil => rfl
  | cons fact facts ih => exact ih (tables.execute (.updateMemberFlags fact.1 fact.2))

theorem Called.groupSaved {kept : GroupInfo} {call : GroupCall}
    (h : Called group call (some kept, intents)) (hsaved : GroupSaved tables group) :
    GroupSaved (tables.replay intents) kept := by
  cases h with
  | leave hmem hlen => exact hsaved.congr rfl (group.profile_removeMember _)
  | @succeed memberGuid _ _ successor _ _ hmem hlen hsuccessor hled =>
    have hremoved : GroupSaved (tables.execute (.deleteMember memberGuid))
        (group.removeMember memberGuid) := hsaved.congr rfl (group.profile_removeMember memberGuid)
    have hupdated := hremoved.updateLeader successor (GroupInfo.profile_changeLeader hled)
    rwa [group.removeMember_dbStoreId] at hupdated
  | toRaid =>
    obtain ⟨flags, counts, heq⟩ := group.convertToRaid_eq
    rw [heq]
    exact hsaved.updateGroupType flags rfl
  | toParty hparty =>
    obtain ⟨flags, counts, rfl⟩ := GroupInfo.convertToGroup_eq hparty
    exact hsaved.updateGroupType flags rfl
  | changeSubgroup hmoved =>
    obtain ⟨index, counts, -, rfl⟩ := GroupInfo.changeMemberGroup_eq hmoved
    exact hsaved.congr rfl rfl
  | swapSubgroups hswapped =>
    obtain ⟨i, j, -, -, -, rfl, rfl⟩ := GroupInfo.swapMembersGroups_eq hswapped
    exact hsaved.congr rfl rfl
  | @changeLeader _ newLeaderGuid _ flags hmem hled =>
    have hprofile := GroupInfo.profile_changeLeader hled
    have hid : kept.dbStoreId = group.dbStoreId := congrArg Prod.fst hprofile
    rw [hid, GroupTables.replay_append]
    split_ifs with hzero
    · exact (hsaved.updateLeader newLeaderGuid hprofile).congr rfl rfl
    · obtain ⟨row, hrow, hdescribes⟩ := hsaved
      refine ⟨row, hrow, GroupDbRow.Describes.congr ?_ hprofile⟩
      exact { hdescribes with leader := fun hne => absurd hne hzero }
  | setFlag hflagged =>
    exact hsaved.congr rfl
      (GroupInfo.profile_flagUpdates (GroupInfo.setGroupMemberFlag_eq hflagged))
  | setEveryone => exact hsaved.updateGroupType _ rfl
  | assignNothing => exact hsaved
  | assignNobody => exact hsaved.congr rfl (group.profile_removeUnique _)
  | @assign _ _ _ _ flag _ facts hflag hflagged =>
    refine hsaved.congr (groups_updateFlags tables facts) ?_
    exact (GroupInfo.profile_flagUpdates hflagged).trans (group.profile_removeUnique flag)
  | setDifficulty hchanged =>
    have hstore := (GroupInfo.seatsKept_setDifficulty hchanged).identity
    simp only [GroupInfo.identity, Prod.mk.injEq] at hstore
    rw [hstore.2.1]
    exact hsaved.updateDifficulty hchanged

/-! ## The seats -/

namespace GroupInfo

variable {group : GroupInfo}
variable {guid : ObjectGuid}

theorem mem_of_slotIndex (h : group.Roster) (hindex : group.slotIndex guid = some index) :
    guid ∈ group.members := by
  obtain ⟨slot, hslot, rfl⟩ := slotIndex_spec hindex
  rw [h.members_eq]
  exact List.mem_map_of_mem (List.mem_of_getElem? hslot)

theorem slotIndex_eq_guids (group : GroupInfo) (guid : ObjectGuid) :
    group.slotIndex guid =
      (group.memberSlots.map GroupMemberSlot.guid).findIdx? fun member => member == guid := by
  rw [List.findIdx?_map]
  rfl

theorem slotIndex_setSlotSubgroup (group : GroupInfo) (index subgroup : ℕ) (guid : ObjectGuid) :
    (group.setSlotSubgroup index subgroup).slotIndex guid = group.slotIndex guid := by
  rw [slotIndex_eq_guids, guids_setSlotSubgroup, ← slotIndex_eq_guids]

theorem memberSlot_setSlotSubgroup (h : group.slotIndex guid = some index) (subgroup : ℕ)
    (other : ObjectGuid) :
    (group.setSlotSubgroup index subgroup).memberSlotLikeCpp other =
      if other = guid then
        (group.memberSlotLikeCpp other).map fun slot => { slot with subgroup := subgroup }
      else group.memberSlotLikeCpp other := by
  refine find?_modify_slotIndex (fun slot => ?_) h other
  rfl

end GroupInfo

namespace SeatsSaved

variable {tables tables' : GroupTables} {group edited : GroupInfo} {guid : ObjectGuid}

theorem congr (h : SeatsSaved tables group) (hmembers : tables'.members = tables.members)
    (hid : edited.dbStoreId = group.dbStoreId)
    (hsubgroup : ∀ guid, (edited.memberSlotLikeCpp guid).map GroupMemberSlot.subgroup =
      (group.memberSlotLikeCpp guid).map GroupMemberSlot.subgroup) :
    SeatsSaved tables' edited := by
  constructor
  · rw [hmembers, hid]
    exact h.owned
  · intro guid hguid
    rw [hsubgroup, GroupTables.memberRow, hmembers]
    exact h.subgroups guid hguid

theorem of_seatsKept (h : SeatsSaved tables group) (hkept : GroupInfo.SeatsKept group edited) :
    SeatsSaved tables edited := by
  have hidentity := hkept.identity
  simp only [GroupInfo.identity, Prod.mk.injEq] at hidentity
  exact h.congr rfl hidentity.2.1 hkept.subgroup

theorem owned_update (h : SeatsSaved tables group) {change : GroupMemberDbRow → GroupMemberDbRow}
    (hchange : ∀ row, (change row).memberGuidLow = row.memberGuidLow)
    (hid : ∀ row, (change row).dbStoreId = row.dbStoreId) (guid : ObjectGuid) :
    ∀ row ∈ (tables.updateMember guid change hchange).members.rows,
      row.dbStoreId = group.dbStoreId ∧ row.memberGuidLow < 2 ^ 40 := by
  intro row hrow
  obtain ⟨before, hbefore, rfl⟩ := List.mem_map.mp hrow
  split_ifs
  · rw [hchange, hid]
    exact h.owned before hbefore
  · exact h.owned before hbefore

theorem deleteMember (h : SeatsSaved tables group) (hguid : IsPlayer guid) :
    SeatsSaved (tables.execute (.deleteMember guid)) (group.removeMember guid) := by
  constructor
  · rw [group.removeMember_dbStoreId]
    exact fun row hrow => h.owned row (List.mem_of_mem_filter hrow)
  · intro other hother
    rw [tables.memberRow_deleteMember, group.memberSlot_removeMember]
    simp only [hother.counterLow_eq_iff hguid]
    split_ifs
    · rfl
    · exact h.subgroups other hother

theorem updateFlags (h : SeatsSaved tables group) (guid : ObjectGuid) (flags : BitVec 8) :
    SeatsSaved (tables.execute (.updateMemberFlags guid flags)) group := by
  constructor
  · refine h.owned_update (fun _ => ?_) (fun _ => ?_) guid <;> rfl
  · intro other hother
    rw [← h.subgroups other hother]
    refine (congrArg (Option.map _) (tables.memberRow_updateMember guid _ _ other)).trans ?_
    split_ifs
    · rw [Option.map_map]
      rfl
    · rfl

theorem replayFlags (h : SeatsSaved tables group) (facts : List (ObjectGuid × BitVec 8)) :
    SeatsSaved (tables.replay (facts.map fun fact => .updateMemberFlags fact.1 fact.2)) group := by
  induction facts generalizing tables with
  | nil => exact h
  | cons fact facts ih => exact ih (h.updateFlags fact.1 fact.2)

theorem updateSubgroup (h : SeatsSaved tables group) (hguid : IsPlayer guid)
    (hindex : group.slotIndex guid = some index) (subgroup : ℕ) :
    SeatsSaved (tables.execute (.updateMemberSubgroup guid subgroup))
      (group.setSlotSubgroup index subgroup) := by
  constructor
  · refine h.owned_update (fun _ => ?_) (fun _ => ?_) guid <;> rfl
  · intro other hother
    have hsame := h.subgroups other hother
    rw [GroupInfo.memberSlot_setSlotSubgroup hindex]
    refine (congrArg (Option.map _) (tables.memberRow_updateMember guid _ _ other)).trans ?_
    simp only [hother.counterLow_eq_iff hguid]
    split_ifs
    · -- The row and the slot are there together, and both get the new subgroup.
      have hthere := congrArg (Option.map fun _ => subgroup) hsame
      simpa [Option.map_map, Function.comp_def] using hthere
    · exact hsame

end SeatsSaved

theorem Called.seatsSaved {kept : GroupInfo} {call : GroupCall}
    (h : Called group call (some kept, intents)) (hroster : group.Roster)
    (hplayers : ∀ guid ∈ group.members, IsPlayer guid) (hsaved : SeatsSaved tables group) :
    SeatsSaved (tables.replay intents) kept := by
  cases h with
  | leave hmem hlen => exact hsaved.deleteMember (hplayers _ hmem)
  | succeed hmem hlen hsuccessor hled =>
    refine ((hsaved.deleteMember (hplayers _ hmem)).of_seatsKept
      (GroupInfo.seatsKept_changeLeader hled)).congr rfl rfl fun _ => rfl
  | toRaid =>
    obtain ⟨flags, counts, heq⟩ := group.convertToRaid_eq
    rw [heq]
    exact hsaved.congr rfl rfl fun _ => rfl
  | toParty hparty =>
    obtain ⟨flags, counts, rfl⟩ := GroupInfo.convertToGroup_eq hparty
    exact hsaved.congr rfl rfl fun _ => rfl
  | changeSubgroup hmoved =>
    obtain ⟨index, counts, hindex, rfl⟩ := GroupInfo.changeMemberGroup_eq hmoved
    have hguid := hplayers _ (GroupInfo.mem_of_slotIndex hroster hindex)
    exact (hsaved.updateSubgroup hguid hindex _).congr rfl rfl fun _ => rfl
  | swapSubgroups hswapped =>
    obtain ⟨i, j, hi, hj, -, rfl, rfl⟩ := GroupInfo.swapMembersGroups_eq hswapped
    have hfirst := hplayers _ (GroupInfo.mem_of_slotIndex hroster hi)
    have hsecond := hplayers _ (GroupInfo.mem_of_slotIndex hroster hj)
    refine (hsaved.updateSubgroup hfirst hi _).updateSubgroup hsecond ?_ _
    rw [GroupInfo.slotIndex_setSlotSubgroup, hj]
  | @changeLeader _ newLeaderGuid _ flags hmem hled =>
    have hled' := hsaved.of_seatsKept (GroupInfo.seatsKept_changeLeader hled)
    rw [GroupTables.replay_append]
    refine SeatsSaved.updateFlags (hled'.congr ?_ rfl fun _ => rfl) newLeaderGuid flags
    split_ifs <;> rfl
  | setFlag hflagged =>
    exact (hsaved.of_seatsKept (GroupInfo.seatsKept_flagUpdates
      (GroupInfo.setGroupMemberFlag_eq hflagged))).updateFlags _ _
  | setEveryone =>
    exact (hsaved.of_seatsKept (GroupInfo.seatsKept_setEveryone group _)).congr rfl rfl
      fun _ => rfl
  | assignNothing => exact hsaved
  | assignNobody => exact hsaved.of_seatsKept (GroupInfo.seatsKept_removeUnique group _)
  | assign hflag hflagged =>
    exact (hsaved.of_seatsKept ((GroupInfo.seatsKept_removeUnique group _).trans
      (GroupInfo.seatsKept_flagUpdates hflagged))).replayFlags _
  | @setDifficulty _ _ kind _ hchanged =>
    have hmembers : ∀ id difficultyId, (tables.replay
        [.updateDifficulty id kind difficultyId]).members = tables.members := by
      intro id difficultyId
      cases kind <;> rfl
    exact (hsaved.of_seatsKept (GroupInfo.seatsKept_setDifficulty hchanged)).congr
      (hmembers _ _) rfl fun _ => rfl

end RustyCore.Group
