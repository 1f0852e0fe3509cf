import RustyCore.Verification.Group.SavedFlags

/-! # The tables after one change

A group and its tables under the calls, the joins and the creation. -/

namespace RustyCore.Group

variable {group kept : GroupInfo} {intents : List GroupPersistenceIntent} {tables : GroupTables}
  {change : GroupChange} {call : GroupCall}

/-! ## One change -/

/-- The tables describe the group, apart from the member flags. -/
structure Saved (tables : GroupTables) (group : GroupInfo) : Prop where
  roster : group.Roster
  players : ∀ guid ∈ group.members, IsPlayer guid
  leader : IsPlayer group.leaderGuid
  row : GroupSaved tables group
  seats : SeatsSaved tables group

/-- The tables hold no rows. -/
def GroupTables.Cleared (tables : GroupTables) : Prop :=
  tables.groups.rows = [] ∧ tables.members.rows = []

/-- What a successful change of a group comes to. -/
inductive Changed (group : GroupInfo) : GroupChange → GroupCallResult → Prop where
  | joined {pending : PendingInvites} {inviteeGuid : ObjectGuid} {partyIndex : Option ℕ}
      {available : Option ObjectGuid} {joined : GroupInfo} :
      group.isFullLikeCpp = false → group.addMember inviteeGuid = some joined →
      Changed group (.join pending inviteeGuid partyIndex available)
        (some joined, [joined.insertMemberIntent inviteeGuid])
  | called {call : GroupCall} {result : GroupCallResult} :
      Called group call result → Changed group (.call call) result

/-- The player that a change would make a member. -/
def GroupChange.invitee : GroupChange → Option ObjectGuid
  | .join _ inviteeGuid _ _ => some inviteeGuid
  | .call _ => none

theorem changed_of_change {registry : GroupRegistry} {groupGuid : ℕ}
    {result : GroupRegistry × List GroupPersistenceIntent}
    (h : registry.change groupGuid change = some result) :
    ∃ group left, registry.groups.lookup groupGuid = some group ∧
      Changed group change (left, result.2) ∧ result.1.groups.lookup groupGuid = left := by
  cases change with
  | call call =>
    simp only [GroupRegistry.change] at h
    cases htransition : registry.transition groupGuid call with
    | error error => simp [htransition, Except.toOption] at h
    | ok called =>
      rw [htransition] at h
      obtain rfl : called = result := Option.some.inj h
      obtain ⟨group, left, hgroup, hcalled, rfl⟩ := called_of_transition htransition
      refine ⟨group, left.1, hgroup, .called hcalled, ?_⟩
      rw [lookup_settle, if_pos rfl]
  | join pending inviteeGuid partyIndex available =>
    simp only [GroupRegistry.change] at h
    split_ifs at h with hinvite
    obtain ⟨invite, hlookup, hguid⟩ := Option.bind_eq_some_iff.mp hinvite
    simp only [GroupRegistry.acceptInviteLikeCpp, hlookup, hguid] at h
    split_ifs at h
    unfold GroupRegistry.joinFromInvite at h
    cases hgroup : registry.groups.lookup groupGuid with
    | none => simp [hgroup] at h
    | some group =>
      simp only [hgroup] at h
      by_cases hcategory : (group.groupCategory != invite.groupCategory) = true
      · simp [hcategory] at h
      · by_cases hfull : group.isFullLikeCpp = true
        · simp [hcategory, hfull] at h
        · by_cases hmember : group.members.contains inviteeGuid = true
          · simp only [hcategory, hfull, hmember, if_true, Bool.false_eq_true, if_false,
              reduceCtorEq] at h
          · cases hadd : group.addMember inviteeGuid with
            | none =>
              simp only [hcategory, hfull, hmember, hadd, Bool.false_eq_true, if_false,
                reduceCtorEq] at h
            | some joined =>
              simp only [hcategory, hfull, hmember, hadd, Bool.false_eq_true, if_false,
                Option.some.injEq] at h
              subst h
              refine ⟨group, some joined, rfl, .joined (by simpa using hfull) hadd, ?_⟩
              exact (Dict.lookup_insert_eq registry.groups groupGuid groupGuid joined).trans
                (if_pos rfl)

theorem Called.leader (h : Called group call (some kept, intents)) :
    kept.leaderGuid = group.leaderGuid ∨ kept.leaderGuid ∈ group.members := by
  have hprofile : ∀ {edited : GroupInfo}, edited.profile = group.profile →
      edited.leaderGuid = group.leaderGuid :=
    fun hedited => congrArg (fun profile => profile.2.1) hedited
  cases h with
  | leave hmem hlen => exact .inl (hprofile (group.profile_removeMember _))
  | @succeed memberGuid _ _ _ _ _ hmem hlen hsuccessor hled =>
    have hmember := (GroupInfo.two_le_of_successor hsuccessor).2.2
    obtain ⟨counts, heq⟩ := group.removeMember_eq memberGuid
    rw [heq] at hmember
    rw [GroupInfo.changeLeader_eq hled]
    exact .inr (List.mem_of_mem_filter hmember)
  | toRaid =>
    obtain ⟨flags, counts, heq⟩ := group.convertToRaid_eq
    rw [heq]
    exact .inl rfl
  | toParty hparty =>
    obtain ⟨flags, counts, rfl⟩ := GroupInfo.convertToGroup_eq hparty
    exact .inl rfl
  | changeSubgroup hmoved =>
    obtain ⟨index, counts, -, rfl⟩ := GroupInfo.changeMemberGroup_eq hmoved
    exact .inl rfl
  | swapSubgroups hswapped =>
    obtain ⟨i, j, -, -, -, rfl, -⟩ := GroupInfo.swapMembersGroups_eq hswapped
    exact .inl rfl
  | changeLeader hmem hled =>
    rw [GroupInfo.changeLeader_eq hled]
    exact .inr hmem
  | setFlag hflagged =>
    exact .inl (hprofile (GroupInfo.profile_flagUpdates (GroupInfo.setGroupMemberFlag_eq hflagged)))
  | setEveryone => exact .inl rfl
  | assignNothing => exact .inl rfl
  | assignNobody => exact .inl (hprofile (group.profile_removeUnique _))
  | assign hflag hflagged =>
    rw [GroupInfo.flagUpdates_removeUnique] at hflagged
    exact .inl (hprofile (GroupInfo.profile_flagUpdates hflagged))
  | setDifficulty hchanged =>
    unfold GroupInfo.setDifficultyIdLikeCpp at hchanged
    split_ifs at hchanged
    split at hchanged <;> (cases hchanged; exact .inl rfl)

theorem Called.saved (h : Called group call (some kept, intents)) (hsaved : Saved tables group) :
    Saved (tables.replay intents) kept := by
  refine ⟨h.roster hsaved.roster, fun guid hguid => hsaved.players guid (h.identity.2 hguid), ?_,
    h.groupSaved hsaved.row, h.seatsSaved hsaved.roster hsaved.players hsaved.seats⟩
  rcases h.leader with heq | hmem
  · rw [heq]
    exact hsaved.leader
  · exact hsaved.players _ hmem

/-- A disbanded group takes its row and the rows of its members along. -/
theorem Called.cleared (h : Called group call (none, intents)) (hsaved : Saved tables group) :
    (tables.replay intents).Cleared := by
  cases h with
  | disband hmem hlen =>
    obtain ⟨row, hrow, hdescribes⟩ := hsaved.row
    constructor
    · change (tables.groups.rows.filter fun row => row.dbStoreId ≠ group.dbStoreId) = []
      rw [hrow]
      simp [hdescribes.dbStoreId]
    · change (tables.members.rows.filter fun row => !decide (row.dbStoreId = group.dbStoreId)) = []
      refine List.filter_eq_nil_iff.mpr fun row hmember => ?_
      simp [(hsaved.seats.owned row hmember).1]

/-! ## Joining -/

namespace GroupInfo

variable {group joined : GroupInfo} {guid : ObjectGuid}

theorem memberSlot_addMember (hroster : group.Roster) (h : group.addMember guid = some joined) :
    ∃ subgroup, ∀ other, joined.memberSlotLikeCpp other =
      if other = guid then some (GroupMemberSlot.joined guid subgroup)
      else group.memberSlotLikeCpp other := by
  obtain ⟨hnew, subgroup, counts, -, -, rfl⟩ := addMember_eq h
  refine ⟨subgroup, fun other => ?_⟩
  have happend : (group.memberSlots ++ [GroupMemberSlot.joined guid subgroup]).find?
      (fun slot => slot.guid == other) = (group.memberSlotLikeCpp other).or
        (if guid == other then some (GroupMemberSlot.joined guid subgroup) else none) := by
    rw [List.find?_append, List.find?_singleton]
    rfl
  refine happend.trans ?_
  by_cases hother : other = guid
  · subst hother
    simp [memberSlot_eq_none hroster hnew]
  · simp [hother, Ne.symm hother]

end GroupInfo

section Joined

variable {tables : GroupTables} {group joined : GroupInfo} {guid : ObjectGuid}

theorem SeatsSaved.insertMember (h : SeatsSaved tables group) (hroster : group.Roster)
    (hguid : IsPlayer guid) (hadd : group.addMember guid = some joined) :
    SeatsSaved (tables.execute (joined.insertMemberIntent guid)) joined := by
  obtain ⟨hnew, _, _, -, -, hjoined⟩ := GroupInfo.addMember_eq hadd
  have hid : joined.dbStoreId = group.dbStoreId := by rw [hjoined]
  obtain ⟨subgroup, hview⟩ := GroupInfo.memberSlot_addMember hroster hadd
  have hnone : tables.memberRow guid = none := by
    have hsame := h.subgroups guid hguid
    rw [GroupInfo.memberSlot_eq_none hroster hnew, Option.map_none] at hsame
    exact Option.map_eq_none_iff.mp hsame
  constructor
  · intro row hrow
    rw [GroupInfo.insertMemberIntent, GroupTables.rows_insertMember hnone] at hrow
    rcases List.mem_append.mp hrow with hrow | hrow
    · rw [hid]
      exact h.owned row hrow
    · rw [List.mem_singleton.mp hrow]
      exact ⟨rfl, hguid.counterLow_lt⟩
  · intro other hother
    rw [GroupInfo.insertMemberIntent, GroupTables.memberRow_insertMember hnone, hview, hview,
      if_pos rfl]
    simp only [hother.counterLow_eq_iff hguid]
    split_ifs
    · rfl
    · exact h.subgroups other hother

theorem FlagsSaved.insertMember (h : FlagsSaved tables group) (hroster : group.Roster)
    (hguid : IsPlayer guid) (hadd : group.addMember guid = some joined)
    (heveryone : group.everyoneIsAssistant = false) :
    FlagsSaved (tables.execute (joined.insertMemberIntent guid)) joined := by
  obtain ⟨hnew, _, _, -, -, hjoined⟩ := GroupInfo.addMember_eq hadd
  obtain ⟨subgroup, hview⟩ := GroupInfo.memberSlot_addMember hroster hadd
  have heveryone' : joined.everyoneIsAssistant = group.everyoneIsAssistant := by
    rw [hjoined]
    rfl
  have hnone : tables.memberRow guid = none := by
    have hsame := h guid hguid
    rw [GroupInfo.memberSlot_eq_none hroster hnew, Option.map_none] at hsame
    exact Option.map_eq_none_iff.mp hsame
  intro other hother
  rw [GroupInfo.insertMemberIntent, GroupTables.memberRow_insertMember hnone, hview, hview,
    if_pos rfl]
  simp only [hother.counterLow_eq_iff hguid, GroupInfo.loadedMemberFlags_congr heveryone']
  split_ifs
  · rw [Option.map_some, GroupInfo.loadedMemberFlags_of_not_everyone heveryone]
    rfl
  · exact h other hother

theorem Saved.insertMember (h : Saved tables group) (hfull : group.isFullLikeCpp = false)
    (hguid : IsPlayer guid) (hadd : group.addMember guid = some joined) :
    Saved (tables.execute (joined.insertMemberIntent guid)) joined := by
  obtain ⟨-, _, _, -, -, hjoined⟩ := GroupInfo.addMember_eq hadd
  constructor
  · refine h.roster.addMember ?_ hadd
    simpa [GroupInfo.isFullLikeCpp, GroupInfo.maxMembers] using hfull
  · rw [hjoined]
    intro other hother
    rcases List.mem_append.mp hother with hother | hother
    · exact h.players other hother
    · rwa [List.mem_singleton.mp hother]
  · rw [hjoined]
    exact h.leader
  · refine h.row.congr rfl ?_
    rw [hjoined]
    rfl
  · exact h.seats.insertMember h.roster hguid hadd

end Joined

theorem Changed.saved (h : Changed group change (some kept, intents))
    (hinvitee : ∀ guid, change.invitee = some guid → IsPlayer guid) (hsaved : Saved tables group) :
    Saved (tables.replay intents) kept := by
  cases h with
  | joined hfull hadd => exact hsaved.insertMember hfull (hinvitee _ rfl) hadd
  | called hcalled => exact hcalled.saved hsaved

theorem Changed.cleared (h : Changed group change (none, intents)) (hsaved : Saved tables group) :
    (tables.replay intents).Cleared := by
  cases h with
  | called hcalled => exact hcalled.cleared hsaved

theorem Changed.flagsSaved (h : Changed group change (some kept, intents))
    (hinvitee : ∀ guid, change.invitee = some guid → IsPlayer guid) (hsaved : Saved tables group)
    (hwrites : writesFlags tables group change = true) (hflags : FlagsSaved tables group) :
    FlagsSaved (tables.replay intents) kept := by
  cases h with
  | joined hfull hadd =>
    have heveryone : group.everyoneIsAssistant = false := by simpa [writesFlags] using hwrites
    exact hflags.insertMember hsaved.roster (hinvitee _ rfl) hadd heveryone
  | called hcalled => exact hcalled.flagsSaved hsaved.roster hsaved.players hwrites hflags

/-! ## Creation -/

theorem isFull_new (groupGuid dbStoreId : ℕ) (leader : ObjectGuid) :
    (GroupInfo.new groupGuid dbStoreId leader).isFullLikeCpp = false := by
  simp [GroupInfo.isFullLikeCpp, GroupInfo.isRaidGroup, GroupInfo.new, maxGroupSize]

theorem everyone_new (groupGuid dbStoreId : ℕ) (leader : ObjectGuid) :
    (GroupInfo.new groupGuid dbStoreId leader).everyoneIsAssistant = false := by
  simp [GroupInfo.everyoneIsAssistant, GroupInfo.new]

/-- The tables after the group and its leader were inserted. -/
def GroupTables.led (group : GroupInfo) : GroupTables :=
  GroupTables.empty.replay
    [group.insertGroupIntent, .insertMember group.dbStoreId group.leaderGuid 0 0 0]

section New

variable (groupGuid dbStoreId : ℕ) {leader : ObjectGuid}

theorem memberRow_led (other : ObjectGuid) :
    (GroupTables.led (GroupInfo.new groupGuid dbStoreId leader)).memberRow other =
      if counterLow other = counterLow leader then some ⟨dbStoreId, counterLow leader, 0, 0, 0⟩
      else none := by
  have hnew : (GroupTables.empty.execute
      (GroupInfo.new groupGuid dbStoreId leader).insertGroupIntent).memberRow leader = none := rfl
  exact GroupTables.memberRow_insertMember hnew other

theorem memberSlot_new (other : ObjectGuid) :
    (GroupInfo.new groupGuid dbStoreId leader).memberSlotLikeCpp other =
      if other = leader then some (GroupMemberSlot.joined leader 0) else none := by
  have hsingle : (GroupInfo.new groupGuid dbStoreId leader).memberSlotLikeCpp other =
      if leader == other then some (GroupMemberSlot.joined leader 0) else none :=
    List.find?_singleton
  rw [hsingle]
  by_cases hother : other = leader
  · simp [hother]
  · simp [hother, Ne.symm hother]

theorem saved_new (hleader : IsPlayer leader) :
    Saved (GroupTables.led (GroupInfo.new groupGuid dbStoreId leader))
      (GroupInfo.new groupGuid dbStoreId leader) := by
  constructor
  · exact GroupInfo.roster_new groupGuid dbStoreId leader
  · intro guid hguid
    rwa [List.mem_singleton.mp hguid]
  · exact hleader
  · refine ⟨_, rfl, rfl, fun _ => rfl, rfl, rfl, rfl, rfl, ?_, ?_, ?_⟩
    · exact counterLow_lt leader
    · exact counterLow_lt leader
    · exact counterLow_lt _
  · constructor
    · intro row hrow
      rw [GroupTables.led] at hrow
      obtain rfl := List.mem_singleton.mp hrow
      exact ⟨rfl, counterLow_lt leader⟩
    · intro other hother
      rw [memberRow_led, memberSlot_new]
      simp only [hother.counterLow_eq_iff hleader]
      split_ifs <;> rfl

theorem flagsSaved_new (hleader : IsPlayer leader) :
    FlagsSaved (GroupTables.led (GroupInfo.new groupGuid dbStoreId leader))
      (GroupInfo.new groupGuid dbStoreId leader) := by
  intro other hother
  rw [memberRow_led, memberSlot_new]
  simp only [hother.counterLow_eq_iff hleader]
  split_ifs
  · rw [Option.map_some, GroupInfo.loadedMemberFlags_of_not_everyone
      (everyone_new groupGuid dbStoreId leader)]
    rfl
  · rfl

end New

theorem created_of_accept {registry registry' : GroupRegistry} {pending pending' : PendingInvites}
    {invitee : ObjectGuid} {partyIndex : Option ℕ} {available : Option ObjectGuid} {subgroup : ℕ}
    {created : List GroupPersistenceIntent}
    (h : registry.acceptInviteLikeCpp pending invitee partyIndex available =
      (.created group subgroup created, registry', pending')) :
    ∃ groupGuid dbStoreId leader, (GroupInfo.new groupGuid dbStoreId leader).addMember invitee =
        some group ∧
      created = [group.insertGroupIntent, .insertMember group.dbStoreId group.leaderGuid 0 0 0,
        group.insertMemberIntent invitee] ∧
      registry'.groups.lookup group.groupGuid = some group := by
  unfold GroupRegistry.acceptInviteLikeCpp at h
  cases hinvite : pending.lookup invitee with
  | none => simp [hinvite] at h
  | some invite =>
    cases hguid : invite.groupGuid with
    | some groupGuid =>
      simp only [hinvite, hguid, GroupRegistry.joinFromInvite] at h
      split_ifs at h
      · cases h
      · cases h
      · split at h
        · cases h
        · split_ifs at h
          all_goals first | cases h | (split at h <;> cases h)
    | none =>
      simp only [hinvite, hguid] at h
      split_ifs at h
      · cases h
      · cases h
      · cases h
      unfold GroupRegistry.createFromInvite at h
      cases hadd : (registry.newGroup invite.leaderGuid).1.addMember invitee with
      | none => simp [hadd] at h
      | some founded =>
        simp only [hadd, Prod.mk.injEq, AcceptGroupInviteResult.created.injEq] at h
        obtain ⟨⟨rfl, -, rfl⟩, rfl, -⟩ := h
        refine ⟨_, _, _, hadd, rfl, ?_⟩
        exact (Dict.lookup_insert_eq _ _ _ _).trans (if_pos rfl)

end RustyCore.Group
