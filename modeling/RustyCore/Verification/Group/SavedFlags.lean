import RustyCore.Verification.Group.SavedSeats

/-! # The member flags in the database

A row keeps the flags that the last intent for its member carried, and loading adds the
assistant flag while everyone is an assistant. That gives the flags in memory as long as no
call changes the flags of a member and leaves its row alone. -/

namespace RustyCore.Group

variable {flag : BitVec 8} {apply : Bool}
variable {flags : BitVec 8} {slot : GroupMemberSlot} {facts : List (ObjectGuid × BitVec 8)}

/-! ## The member flags -/

/-- Whether a change writes the row of every member whose flags it changes. A new leader, a
new member and the holder of a unique flag are the members in question. -/
def writesFlags (tables : GroupTables) (group : GroupInfo) : GroupChange → Bool
  | .join .. => !group.everyoneIsAssistant
  | .call (.removeMember memberGuid _ connected) =>
    ((group.removeMember memberGuid).successor group.leaderGuid memberGuid connected).all
      fun successor => !group.isAssistantLikeCpp successor
  | .call (.changeLeader ..) => !group.everyoneIsAssistant
  | .call (.setMemberFlag _ memberGuid apply flag) =>
    (!group.everyoneIsAssistant || apply || flag != memberFlagAssistant) &&
      group.memberSlots.all fun slot =>
        slot.guid == memberGuid || !GroupInfo.isUniqueMemberFlag flag || slot.flags &&& flag == 0
  | .call (.setEveryoneAssistant _ apply) =>
    apply || tables.members.rows.all fun row => row.memberFlags &&& memberFlagAssistant == 0
  | .call (.setPartyAssignment _ memberGuid assignment _) =>
    (GroupInfo.assignmentFlag assignment).all fun flag =>
      group.memberSlots.all fun slot =>
        slot.flags &&& flag == 0 || (slot.guid == memberGuid && group.isRaidGroup)
  | .call _ => true

namespace GroupInfo

variable {group : GroupInfo}
variable {guid : ObjectGuid}

theorem loadedMemberFlags_of_everyone (h : group.everyoneIsAssistant = true) (flags : BitVec 8) :
    group.loadedMemberFlags flags = flags ||| memberFlagAssistant := if_pos h

theorem loadedMemberFlags_of_not_everyone (h : group.everyoneIsAssistant = false)
    (flags : BitVec 8) : group.loadedMemberFlags flags = flags :=
  if_neg (Bool.eq_false_iff.mp h)

theorem loadedMemberFlags_congr {edited : GroupInfo}
    (h : edited.everyoneIsAssistant = group.everyoneIsAssistant) (flags : BitVec 8) :
    edited.loadedMemberFlags flags = group.loadedMemberFlags flags := by
  rw [loadedMemberFlags, loadedMemberFlags, h]

/-- The flags of a member after a unique flag was taken from everybody. -/
def clearedFlags (flag flags : BitVec 8) : BitVec 8 :=
  if isUniqueMemberFlag flag then flags &&& ~~~flag else flags

theorem clearedFlags_eq_self (h : isUniqueMemberFlag flag = true → flags &&& flag = 0) :
    clearedFlags flag flags = flags := by
  unfold clearedFlags
  split_ifs with hunique
  · exact andNot_eq_self (h hunique)
  · rfl

theorem memberSlot_removeUnique (group : GroupInfo) (flag : BitVec 8) (guid : ObjectGuid) :
    (group.removeUniqueGroupMemberFlagLikeCpp flag).memberSlotLikeCpp guid =
      (group.memberSlotLikeCpp guid).map
        fun slot => { slot with flags := clearedFlags flag slot.flags } := by
  unfold removeUniqueGroupMemberFlagLikeCpp clearedFlags
  by_cases hunique : isUniqueMemberFlag flag = true
  · simp only [hunique, Bool.not_true, Bool.false_eq_true, if_false, if_true]
    refine memberSlot_mapSlots (fun slot => ?_) group guid
    rfl
  · simp [hunique]

theorem guids_removeUnique (group : GroupInfo) (flag : BitVec 8) :
    (group.removeUniqueGroupMemberFlagLikeCpp flag).memberSlots.map GroupMemberSlot.guid =
      group.memberSlots.map GroupMemberSlot.guid := by
  rw [guids_eq_seats, (seatsKept_removeUnique group flag).seats, ← guids_eq_seats]

theorem memberSlot_of_slotIndex {index : ℕ} (hindex : group.slotIndex guid = some index)
    (hslot : group.memberSlots[index]? = some slot) : group.memberSlotLikeCpp guid = some slot := by
  obtain ⟨hlt, hguid, hbefore⟩ := List.findIdx?_eq_some_iff_getElem.mp hindex
  rw [List.getElem?_eq_getElem hlt, Option.some.injEq] at hslot
  subst hslot
  rw [memberSlotLikeCpp, List.find?_eq_some_iff_getElem]
  exact ⟨hguid, index, hlt, rfl, fun j hj => by simpa using hbefore j hj⟩

theorem memberSlot_flagUpdates {flagged : GroupInfo}
    (h : group.setGroupMemberFlagUpdatesLikeCpp guid apply flag = some (flagged, facts)) :
    ∃ slot, group.memberSlotLikeCpp guid = some slot ∧
      facts = [(guid, applyFlag apply flag (clearedFlags flag slot.flags))] ∧
      ∀ other, (flagged.memberSlotLikeCpp other).map GroupMemberSlot.flags =
        (group.memberSlotLikeCpp other).map fun slot =>
          if other = guid then applyFlag apply flag (clearedFlags flag slot.flags)
          else clearedFlags flag slot.flags := by
  obtain ⟨index, cleared, hindex, hcleared, rfl, rfl⟩ := setGroupMemberFlagUpdates_eq h
  have hindex' : (group.removeUniqueGroupMemberFlagLikeCpp flag).slotIndex guid = some index := by
    rw [slotIndex_eq_guids, guids_removeUnique, ← slotIndex_eq_guids, hindex]
  have hfound := memberSlot_of_slotIndex hindex' hcleared
  rw [memberSlot_removeUnique] at hfound
  obtain ⟨slot, hslot, rfl⟩ := Option.map_eq_some_iff.mp hfound
  refine ⟨slot, hslot, rfl, fun other => ?_⟩
  have hother := find?_modify_slotIndex
    (f := fun slot => { slot with flags := applyFlag apply flag slot.flags }) (fun _ => rfl)
    hindex' other
  refine (congrArg (Option.map GroupMemberSlot.flags) hother).trans ?_
  rw [memberSlot_removeUnique]
  split_ifs
  · simp [Function.comp_def]
  · simp [Function.comp_def]

end GroupInfo

namespace FlagsSaved

variable {tables tables' : GroupTables} {group edited : GroupInfo} {guid : ObjectGuid}

theorem congr (h : FlagsSaved tables group) (hmembers : tables'.members = tables.members)
    (heveryone : edited.everyoneIsAssistant = group.everyoneIsAssistant)
    (hflags : ∀ guid, (edited.memberSlotLikeCpp guid).map GroupMemberSlot.flags =
      (group.memberSlotLikeCpp guid).map GroupMemberSlot.flags) : FlagsSaved tables' edited := by
  intro guid hguid
  rw [hflags, ← h guid hguid, GroupTables.memberRow, hmembers]
  simp only [GroupInfo.loadedMemberFlags_congr heveryone]
  rfl

theorem deleteMember (h : FlagsSaved tables group) (hguid : IsPlayer guid) :
    FlagsSaved (tables.execute (.deleteMember guid)) (group.removeMember guid) := by
  intro other hother
  have heveryone : (group.removeMember guid).everyoneIsAssistant = group.everyoneIsAssistant := by
    obtain ⟨counts, heq⟩ := group.removeMember_eq guid
    rw [heq]
    rfl
  rw [tables.memberRow_deleteMember, group.memberSlot_removeMember]
  simp only [hother.counterLow_eq_iff hguid, GroupInfo.loadedMemberFlags_congr heveryone]
  split_ifs
  · rfl
  · exact h other hother

theorem updateSubgroup (h : FlagsSaved tables group) (guid : ObjectGuid) (subgroup : ℕ) :
    FlagsSaved (tables.execute (.updateMemberSubgroup guid subgroup)) group := by
  intro other hother
  rw [← h other hother]
  refine (congrArg (Option.map _) (tables.memberRow_updateMember guid _ _ other)).trans ?_
  split_ifs
  · rw [Option.map_map]
    rfl
  · rfl

theorem setSlotSubgroup (h : FlagsSaved tables group) {index : ℕ}
    (hindex : group.slotIndex guid = some index) (subgroup : ℕ) :
    FlagsSaved tables (group.setSlotSubgroup index subgroup) := by
  refine h.congr rfl rfl fun other => ?_
  rw [GroupInfo.memberSlot_setSlotSubgroup hindex]
  split_ifs
  · rw [Option.map_map]
    rfl
  · rfl

theorem updateFlags (h : FlagsSaved tables group) (hguid : IsPlayer guid)
    (heveryone : edited.everyoneIsAssistant = group.everyoneIsAssistant)
    (hassistant : group.everyoneIsAssistant = true →
      flags &&& memberFlagAssistant = memberFlagAssistant)
    (hflags : ∀ other, (edited.memberSlotLikeCpp other).map GroupMemberSlot.flags =
      (group.memberSlotLikeCpp other).map fun slot => if other = guid then flags else slot.flags) :
    FlagsSaved (tables.execute (.updateMemberFlags guid flags)) edited := by
  have hloaded : edited.loadedMemberFlags flags = flags := by
    rw [GroupInfo.loadedMemberFlags_congr heveryone]
    cases hset : group.everyoneIsAssistant with
    | false => exact GroupInfo.loadedMemberFlags_of_not_everyone hset flags
    | true =>
      rw [GroupInfo.loadedMemberFlags_of_everyone hset]
      exact or_eq_self (hassistant hset)
  intro other hother
  rw [hflags]
  refine (congrArg (Option.map _) (tables.memberRow_updateMember guid _ _ other)).trans ?_
  simp only [hother.counterLow_eq_iff hguid]
  have hsame := h other hother
  split_ifs
  · have hthere := congrArg (Option.map fun _ => flags) hsame
    simpa [Option.map_map, Function.comp_def, hloaded] using hthere
  · simp only [GroupInfo.loadedMemberFlags_congr heveryone]
    exact hsame

theorem assistant_of_everyone (h : FlagsSaved tables group) (hguid : IsPlayer guid)
    (heveryone : group.everyoneIsAssistant = true)
    (hslot : group.memberSlotLikeCpp guid = some slot) :
    slot.flags &&& memberFlagAssistant = memberFlagAssistant := by
  have hsame := h guid hguid
  rw [hslot, Option.map_some] at hsame
  obtain ⟨row, -, hrow⟩ := Option.map_eq_some_iff.mp hsame
  rw [← hrow, GroupInfo.loadedMemberFlags_of_everyone heveryone, or_and_self_right]

end FlagsSaved

namespace GroupInfo

variable {group edited : GroupInfo} {guid : ObjectGuid} {apply : Bool} {flag : BitVec 8}
  {facts : List (ObjectGuid × BitVec 8)}
variable {flags : BitVec 8}

theorem everyone_of_profile (h : edited.profile = group.profile) :
    edited.everyoneIsAssistant = group.everyoneIsAssistant := by
  simp only [profile, Prod.mk.injEq] at h
  rw [everyoneIsAssistant, everyoneIsAssistant, h.2.2.1]

theorem everyone_changeLeader (h : group.changeLeaderLikeCpp guid = some (edited, flags)) :
    edited.everyoneIsAssistant = group.everyoneIsAssistant := by
  rw [changeLeader_eq h]
  rfl

theorem raid_disjoint_everyone : groupFlagRaid &&& groupFlagEveryoneAssistant = 0 := by decide

theorem everyone_convertToRaid (group : GroupInfo) :
    group.convertToRaidLikeCpp.everyoneIsAssistant = group.everyoneIsAssistant := by
  unfold convertToRaidLikeCpp
  split_ifs
  · rfl
  · have hflags := applyFlag_and_of_disjoint raid_disjoint_everyone true group.groupFlags
    exact congrArg (fun flags => flags != 0) hflags

theorem everyone_convertToGroup (h : group.convertToGroupLikeCpp = some edited) :
    edited.everyoneIsAssistant = group.everyoneIsAssistant := by
  unfold convertToGroupLikeCpp at h
  split_ifs at h
  · obtain rfl := Option.some.inj h
    have hflags := applyFlag_and_of_disjoint raid_disjoint_everyone false group.groupFlags
    exact congrArg (fun flags => flags != 0) hflags
  · rw [Option.some.inj h]

theorem everyone_setEveryone (group : GroupInfo) (apply : Bool) :
    (group.setEveryoneIsAssistantLikeCpp apply).everyoneIsAssistant = apply := by
  cases apply with
  | true =>
    have hset := or_and_self_right group.groupFlags groupFlagEveryoneAssistant
    exact (congrArg (fun flags => flags != 0) hset).trans (by decide)
  | false =>
    have hunset := andNot_and_self group.groupFlags groupFlagEveryoneAssistant
    exact congrArg (fun flags => flags != 0) hunset

theorem memberSlot_setEveryone (group : GroupInfo) (apply : Bool) (guid : ObjectGuid) :
    (group.setEveryoneIsAssistantLikeCpp apply).memberSlotLikeCpp guid =
      (group.memberSlotLikeCpp guid).map
        fun slot => { slot with flags := applyFlag apply memberFlagAssistant slot.flags } := by
  refine memberSlot_mapSlots (fun slot => ?_) _ guid
  rfl

theorem changeLeader_flags (h : group.changeLeaderLikeCpp guid = some (edited, flags)) :
    ∃ slot, group.memberSlotLikeCpp guid = some slot ∧
      flags = slot.flags &&& ~~~memberFlagAssistant := by
  unfold changeLeaderLikeCpp at h
  cases hslot : group.memberSlotLikeCpp guid with
  | none => simp [hslot] at h
  | some slot =>
    simp only [hslot] at h
    exact ⟨slot, rfl, (congrArg Prod.snd (Option.some.inj h)).symm⟩

theorem flagUpdates_removeUnique (group : GroupInfo) (guid : ObjectGuid) (apply : Bool)
    (flag : BitVec 8) :
    (group.removeUniqueGroupMemberFlagLikeCpp flag).setGroupMemberFlagUpdatesLikeCpp guid apply
      flag = group.setGroupMemberFlagUpdatesLikeCpp guid apply flag := by
  have hraid := (seatsKept_removeUnique group flag).raid
  have hindex : (group.removeUniqueGroupMemberFlagLikeCpp flag).slotIndex guid =
      group.slotIndex guid := by
    rw [slotIndex_eq_guids, guids_removeUnique, ← slotIndex_eq_guids]
  have htwice : (group.removeUniqueGroupMemberFlagLikeCpp flag).removeUniqueGroupMemberFlagLikeCpp
      flag = group.removeUniqueGroupMemberFlagLikeCpp flag := by
    unfold removeUniqueGroupMemberFlagLikeCpp
    split_ifs
    · rfl
    · simp only [mapSlots, List.map_map]
      refine congrArg (fun slots => { group with memberSlots := slots }) ?_
      refine List.map_congr_left fun slot _ => ?_
      simp [andNot_eq_self (andNot_and_self slot.flags flag)]
  rw [setGroupMemberFlagUpdatesLikeCpp, setGroupMemberFlagUpdatesLikeCpp, hraid, hindex, htwice]

theorem flag_of_flagUpdates (h : group.setGroupMemberFlagUpdatesLikeCpp guid apply flag =
    some (edited, facts)) : flag = memberFlagAssistant ∨ isUniqueMemberFlag flag = true := by
  obtain ⟨index, slot, hindex, -⟩ := setGroupMemberFlagUpdates_eq h
  unfold setGroupMemberFlagUpdatesLikeCpp at h
  simp only [hindex] at h
  split_ifs at h with hraid hflag
  exact or_iff_not_imp_left.mpr (by simpa using hflag)

theorem unique_assistant (h : isUniqueMemberFlag flag = true) : flag &&& memberFlagAssistant = 0 := by
  simp only [isUniqueMemberFlag, Bool.or_eq_true, beq_iff_eq] at h
  rcases h with rfl | rfl <;> decide

theorem clearedFlags_assistant (flag flags : BitVec 8) :
    clearedFlags flag flags &&& memberFlagAssistant = flags &&& memberFlagAssistant := by
  unfold clearedFlags
  split_ifs with hunique
  · exact applyFlag_and_of_disjoint (unique_assistant hunique) false flags
  · rfl

theorem applyFlag_assistant (h : flag = memberFlagAssistant ∨ isUniqueMemberFlag flag = true)
    (hwrites : apply = true ∨ flag ≠ memberFlagAssistant)
    (hflags : flags &&& memberFlagAssistant = memberFlagAssistant) :
    applyFlag apply flag flags &&& memberFlagAssistant = memberFlagAssistant := by
  rcases h with rfl | hunique
  · rcases hwrites with rfl | hne
    · exact or_and_self_right flags memberFlagAssistant
    · exact absurd rfl hne
  · rw [applyFlag_and_of_disjoint (unique_assistant hunique), hflags]

end GroupInfo

namespace FlagsSaved

variable {tables : GroupTables} {group edited : GroupInfo} {guid : ObjectGuid}

theorem changeLeader (h : FlagsSaved tables group) (hguid : IsPlayer guid)
    (hled : group.changeLeaderLikeCpp guid = some (edited, flags))
    (heveryone : group.everyoneIsAssistant = false) :
    FlagsSaved (tables.execute (.updateMemberFlags guid flags)) edited := by
  obtain ⟨slot, hslot, rfl⟩ := GroupInfo.changeLeader_flags hled
  refine h.updateFlags hguid (GroupInfo.everyone_changeLeader hled)
    (fun hset => absurd hset (Bool.eq_false_iff.mp heveryone)) fun other => ?_
  rw [GroupInfo.memberSlot_changeLeader hled]
  split_ifs with hother
  · subst hother
    rw [hslot]
    rfl
  · rfl

/-- The row of a successor is not written, so it must not have been an assistant. -/
theorem succeed (h : FlagsSaved tables group)
    (hled : group.changeLeaderLikeCpp guid = some (edited, flags))
    (hassistant : group.isAssistantLikeCpp guid = false) : FlagsSaved tables edited := by
  refine h.congr rfl (GroupInfo.everyone_changeLeader hled) fun other => ?_
  rw [GroupInfo.memberSlot_changeLeader hled]
  split_ifs with hother
  · subst hother
    cases hslot : group.memberSlotLikeCpp other with
    | none => rfl
    | some slot =>
      have hguid : slot.guid = other := by simpa using List.find?_some hslot
      have hflag : slot.flags &&& memberFlagAssistant = 0 := by
        have hnone := List.any_eq_false.mp hassistant slot (List.mem_of_find?_eq_some hslot)
        simpa [hguid] using hnone
      simp [andNot_eq_self hflag]
  · rfl

theorem setEveryone (h : FlagsSaved tables group)
    (hrows : apply = true ∨
      ∀ row ∈ tables.members.rows, row.memberFlags &&& memberFlagAssistant = 0) :
    FlagsSaved tables (group.setEveryoneIsAssistantLikeCpp apply) := by
  intro other hother
  have hsame := congrArg (Option.map (applyFlag apply memberFlagAssistant)) (h other hother)
  rw [Option.map_map, Option.map_map] at hsame
  rw [GroupInfo.memberSlot_setEveryone, Option.map_map]
  refine Eq.trans ?_ hsame
  refine Option.map_congr fun row hrow => ?_
  have hmem := KeyedTable.mem_of_find hrow
  have heveryone := group.everyone_setEveryone apply
  cases apply with
  | true =>
    rw [GroupInfo.loadedMemberFlags_of_everyone heveryone, Function.comp_apply, applyFlag_true]
    cases hset : group.everyoneIsAssistant with
    | true =>
      rw [GroupInfo.loadedMemberFlags_of_everyone hset, BitVec.or_assoc, BitVec.or_self]
    | false => rw [GroupInfo.loadedMemberFlags_of_not_everyone hset]
  | false =>
    have hrow := (hrows.resolve_left (by decide)) row hmem
    rw [GroupInfo.loadedMemberFlags_of_not_everyone heveryone, Function.comp_apply,
      applyFlag_false]
    cases hset : group.everyoneIsAssistant with
    | true =>
      rw [GroupInfo.loadedMemberFlags_of_everyone hset, or_andNot_self, andNot_eq_self hrow]
    | false => rw [GroupInfo.loadedMemberFlags_of_not_everyone hset, andNot_eq_self hrow]

theorem flagUpdates (h : FlagsSaved tables group) (hguid : IsPlayer guid)
    (hupdated : group.setGroupMemberFlagUpdatesLikeCpp guid apply flag = some (edited, facts))
    (hwrites : group.everyoneIsAssistant = true → apply = true ∨ flag ≠ memberFlagAssistant)
    (hothers : GroupInfo.isUniqueMemberFlag flag = true →
      ∀ slot ∈ group.memberSlots, slot.guid ≠ guid → slot.flags &&& flag = 0) :
    FlagsSaved (tables.replay (facts.map fun fact => .updateMemberFlags fact.1 fact.2)) edited := by
  obtain ⟨slot, hslot, rfl, hview⟩ := GroupInfo.memberSlot_flagUpdates hupdated
  have hprofile := GroupInfo.profile_flagUpdates hupdated
  refine h.updateFlags hguid (GroupInfo.everyone_of_profile hprofile) ?_ fun other => ?_
  · intro hset
    refine GroupInfo.applyFlag_assistant (GroupInfo.flag_of_flagUpdates hupdated) (hwrites hset) ?_
    rw [GroupInfo.clearedFlags_assistant]
    exact h.assistant_of_everyone hguid hset hslot
  · rw [hview]
    refine Option.map_congr fun found hfound => ?_
    have hfoundGuid : found.guid = other := by simpa using List.find?_some hfound
    split_ifs with hother
    · subst hother
      rw [Option.some.inj (hslot.symm.trans hfound)]
    · refine GroupInfo.clearedFlags_eq_self fun hunique => ?_
      exact hothers hunique found (List.mem_of_find?_eq_some hfound) (hfoundGuid ▸ hother)

end FlagsSaved

theorem Called.flagsSaved {group kept : GroupInfo} {call : GroupCall}
    {intents : List GroupPersistenceIntent} {tables : GroupTables}
    (h : Called group call (some kept, intents)) (hroster : group.Roster)
    (hplayers : ∀ guid ∈ group.members, IsPlayer guid)
    (hwrites : writesFlags tables group (.call call) = true) (hsaved : FlagsSaved tables group) :
    FlagsSaved (tables.replay intents) kept := by
  cases h with
  | leave hmem hlen => exact hsaved.deleteMember (hplayers _ hmem)
  | @succeed memberGuid _ _ successor _ _ hmem hlen hsuccessor hled =>
    simp only [writesFlags, hsuccessor, Option.all_some, Bool.not_eq_eq_eq_not, Bool.not_true]
      at hwrites
    have hassistant : (group.removeMember memberGuid).isAssistantLikeCpp successor = false := by
      obtain ⟨counts, heq⟩ := group.removeMember_eq memberGuid
      rw [heq]
      refine List.any_eq_false.mpr fun slot hslot => ?_
      exact List.any_eq_false.mp hwrites slot (List.mem_of_mem_filter hslot)
    exact ((hsaved.deleteMember (hplayers _ hmem)).succeed hled hassistant).congr rfl rfl
      fun _ => rfl
  | toRaid =>
    obtain ⟨flags, counts, heq⟩ := group.convertToRaid_eq
    refine hsaved.congr rfl group.everyone_convertToRaid fun _ => ?_
    rw [heq]
    rfl
  | toParty hparty =>
    have heveryone := GroupInfo.everyone_convertToGroup hparty
    obtain ⟨flags, counts, rfl⟩ := GroupInfo.convertToGroup_eq hparty
    exact hsaved.congr rfl heveryone fun _ => rfl
  | changeSubgroup hmoved =>
    obtain ⟨index, counts, hindex, rfl⟩ := GroupInfo.changeMemberGroup_eq hmoved
    exact ((hsaved.setSlotSubgroup hindex _).updateSubgroup _ _).congr rfl rfl fun _ => rfl
  | swapSubgroups hswapped =>
    obtain ⟨i, j, hi, hj, -, rfl, rfl⟩ := GroupInfo.swapMembersGroups_eq hswapped
    have hj' := (group.slotIndex_setSlotSubgroup i (group.slotSubgroup j) _).trans hj
    exact (((hsaved.setSlotSubgroup hi _).setSlotSubgroup hj' _).updateSubgroup _ _).updateSubgroup
      _ _
  | @changeLeader _ newLeaderGuid _ flags hmem hled =>
    have heveryone : group.everyoneIsAssistant = false := by simpa [writesFlags] using hwrites
    rw [GroupTables.replay_append]
    refine FlagsSaved.changeLeader (hsaved.congr ?_ rfl fun _ => rfl) (hplayers _ hmem) hled
      heveryone
    split_ifs <;> rfl
  | @setFlag _ memberGuid apply flag flags _ hflagged =>
    have hupdated := GroupInfo.setGroupMemberFlag_eq hflagged
    obtain ⟨index, slot, hindex, -⟩ := GroupInfo.setGroupMemberFlagUpdates_eq hupdated
    simp only [writesFlags, Bool.and_eq_true, Bool.or_eq_true, Bool.not_eq_eq_eq_not, Bool.not_true,
      bne_iff_ne, List.all_eq_true, beq_iff_eq] at hwrites
    refine hsaved.flagUpdates (hplayers _ (GroupInfo.mem_of_slotIndex hroster hindex)) hupdated
      (fun hset => ?_) fun hunique slot hslot hne => ?_
    · simpa [hset] using hwrites.1
    · simpa [hne, hunique] using hwrites.2 slot hslot
  | @setEveryone _ apply =>
    simp only [writesFlags, Bool.or_eq_true, List.all_eq_true, beq_iff_eq] at hwrites
    exact (hsaved.setEveryone hwrites).congr rfl rfl fun _ => rfl
  | assignNothing => exact hsaved
  | @assignNobody _ memberGuid assignment apply flag hflag hnone =>
    simp only [writesFlags, hflag, Option.all_some, List.all_eq_true, Bool.or_eq_true,
      Bool.and_eq_true, beq_iff_eq] at hwrites
    refine hsaved.congr rfl (GroupInfo.everyone_of_profile (group.profile_removeUnique flag))
      fun other => ?_
    rw [GroupInfo.memberSlot_removeUnique, Option.map_map]
    refine Option.map_congr fun slot hslot => ?_
    refine GroupInfo.clearedFlags_eq_self fun hunique => ?_
    refine (hwrites slot (List.mem_of_find?_eq_some hslot)).resolve_right fun hholder => ?_
    -- The holder could have been given the flag again.
    rw [GroupInfo.flagUpdates_removeUnique] at hnone
    have hindex : (group.slotIndex memberGuid).isSome = true := by
      rw [GroupInfo.slotIndex, List.findIdx?_isSome, List.any_eq_true]
      exact ⟨slot, List.mem_of_find?_eq_some hslot, by simpa using hholder.1⟩
    obtain ⟨index, hindex⟩ := Option.isSome_iff_exists.mp hindex
    simp [GroupInfo.setGroupMemberFlagUpdatesLikeCpp, hholder.2, hindex, hunique] at hnone
  | @assign _ memberGuid assignment apply flag _ facts hflag hflagged =>
    rw [GroupInfo.flagUpdates_removeUnique] at hflagged
    obtain ⟨index, slot, hindex, -⟩ := GroupInfo.setGroupMemberFlagUpdates_eq hflagged
    simp only [writesFlags, hflag, Option.all_some, List.all_eq_true, Bool.or_eq_true,
      Bool.and_eq_true, beq_iff_eq] at hwrites
    have hne : flag ≠ memberFlagAssistant := by
      rintro rfl
      revert hflag
      unfold GroupInfo.assignmentFlag
      split_ifs <;> decide
    refine hsaved.flagUpdates (hplayers _ (GroupInfo.mem_of_slotIndex hroster hindex)) hflagged
      (fun _ => .inr hne) fun _ slot hslot hother => ?_
    exact (hwrites slot hslot).resolve_right fun hholder => hother hholder.1
  | @setDifficulty _ _ kind _ hchanged =>
    unfold GroupInfo.setDifficultyIdLikeCpp at hchanged
    split_ifs at hchanged
    cases kind <;> (cases hchanged; exact hsaved.congr rfl rfl fun _ => rfl)

end RustyCore.Group
