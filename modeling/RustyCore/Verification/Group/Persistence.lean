import RustyCore.Verification.Group.SavedChanges

/-! # What the database keeps of a group

The rows are loaded in any order. The run lemma carries the image of the group through all
changes, and loading it gives the group back. -/

namespace RustyCore.Group

/-! ## Loading -/

namespace GroupInfo

theorem counterIncrease_of_lt (group : GroupInfo) {subgroup : ℕ} (h : subgroup < maxRaidSubgroups) :
    ∃ counts, group.subgroupCounterIncreaseLikeCpp subgroup =
      some { group with raidSubgroupCounts := counts } := by
  cases hincrease : group.subgroupCounterIncreaseLikeCpp subgroup with
  | none =>
    unfold subgroupCounterIncreaseLikeCpp at hincrease
    split at hincrease
    · cases hincrease
    · simp [h] at hincrease
  | some increased =>
    obtain ⟨counts, rfl⟩ := subgroupCounterIncrease_eq hincrease
    exact ⟨counts, rfl⟩

theorem loadMember_spec (group : GroupInfo) {row : GroupMemberDbRow}
    (hlow : row.memberGuidLow < 2 ^ 40) (hsubgroup : row.subgroup < maxRaidSubgroups)
    (character : GroupMemberCharacter) (other : ObjectGuid) :
    (group.loadMemberFromDbLikeCpp row.memberGuidLow row.memberFlags row.subgroup row.roles
        (some character)).2.profile = group.profile ∧
      ((group.loadMemberFromDbLikeCpp row.memberGuidLow row.memberFlags row.subgroup row.roles
          (some character)).2.memberSlotLikeCpp other).map (fun slot => (slot.subgroup, slot.flags)) =
        if other = player row.memberGuidLow then
          some (row.subgroup, group.loadedMemberFlags row.memberFlags)
        else (group.memberSlotLikeCpp other).map fun slot => (slot.subgroup, slot.flags) := by
  have hview := group.memberSlot_removeMember (player row.memberGuidLow) other
  have hprofile := group.profile_removeMember (player row.memberGuidLow)
  obtain ⟨counts, hincrease⟩ :=
    (group.removeMember (player row.memberGuidLow)).counterIncrease_of_lt hsubgroup
  have hguard : (group.raidSubgroupCounts.isSome && decide (maxRaidSubgroups ≤ row.subgroup)) =
      false := by simp [Nat.not_le.mpr hsubgroup]
  simp only [loadMemberFromDbLikeCpp, playerFromLow_eq hlow, hguard, hincrease, Bool.false_eq_true,
    if_false]
  refine ⟨hprofile, ?_⟩
  rw [memberSlotLikeCpp, List.find?_append]
  rw [memberSlotLikeCpp] at hview
  rw [hview, List.find?_singleton]
  by_cases hother : other = player row.memberGuidLow
  · simp [hother]
  · simp [hother, Ne.symm hother]

end GroupInfo

theorem loadGroup_eq {row : GroupDbRow} {group : GroupInfo} (h : row.Describes group)
    (runtimeGroupGuid : ℕ) (character : GroupMemberCharacter) :
    ∃ start, GroupInfo.loadGroupFromDbRowValidatedLikeCpp runtimeGroupGuid row (some character)
        .unchanged = some start ∧
      start.memberSlots = [] ∧ start.leaderGuid = player row.leaderGuidLow ∧
      start.groupFlags = row.groupFlags ∧ start.dungeonDifficultyId = row.dungeonDifficultyId ∧
      start.raidDifficultyId = row.raidDifficultyId ∧
      start.legacyRaidDifficultyId = row.legacyRaidDifficultyId := by
  simp only [GroupInfo.loadGroupFromDbRowValidatedLikeCpp, playerFromLow_eq h.leader_lt,
    playerFromLow_eq h.looter_lt, playerFromLow_eq h.masterLooter_lt]
  exact ⟨_, rfl, rfl, rfl, rfl, rfl, rfl, rfl⟩

def GroupMemberDbRow.guid (row : GroupMemberDbRow) : ObjectGuid := player row.memberGuidLow

namespace Saved

variable {tables : GroupTables} {group : GroupInfo}

theorem subgroup_lt (h : Saved tables group) {row : GroupMemberDbRow}
    (hrow : row ∈ tables.members.rows) : row.subgroup < maxRaidSubgroups := by
  have hlow := (h.seats.owned row hrow).2
  have hsame := h.seats.subgroups (player row.memberGuidLow) ⟨_, hlow, rfl⟩
  rw [GroupTables.memberRow, counterLow_player hlow, KeyedTable.find_of_mem hrow,
    Option.map_some] at hsame
  obtain ⟨slot, hslot, hsubgroup⟩ := Option.map_eq_some_iff.mp hsame.symm
  rw [← hsubgroup]
  exact h.roster.subgroup_lt slot (List.mem_of_find?_eq_some hslot)

theorem rowsAt_guid (h : Saved tables group) {memberRows : List GroupMemberDbRow}
    (hperm : memberRows.Perm tables.members.rows) {guid : ObjectGuid} (hguid : IsPlayer guid) :
    RowTable.rowsAt GroupMemberDbRow.guid guid memberRows = (tables.memberRow guid).toList := by
  refine RowTable.rowsAt_eq_of_perm GroupMemberDbRow.guid hperm ?_
  rw [GroupTables.memberRow, ← RowTable.rowsAt_keyed]
  refine List.filter_congr fun row hrow => ?_
  have hlow := (h.seats.owned row hrow).2
  have hplayer : IsPlayer (player row.memberGuidLow) := ⟨_, hlow, rfl⟩
  have hiff := hplayer.counterLow_eq_iff hguid
  rw [counterLow_player hlow] at hiff
  exact decide_eq_decide.mpr hiff.symm

theorem memberSlot_of_not_player (h : Saved tables group) {guid : ObjectGuid}
    (hguid : ¬ IsPlayer guid) : group.memberSlotLikeCpp guid = none :=
  GroupInfo.memberSlot_eq_none h.roster fun hmem => hguid (h.players guid hmem)

end Saved

/-- What a reload gives back of a group, apart from the member flags. -/
structure Restored (group loaded : GroupInfo) : Prop where
  leader : group.dbStoreId ≠ 0 → loaded.leaderGuid = group.leaderGuid
  groupFlags : loaded.groupFlags = group.groupFlags
  difficulty : ∀ kind, loaded.difficultyId kind = group.difficultyId kind
  subgroups : ∀ guid, (loaded.memberSlotLikeCpp guid).map GroupMemberSlot.subgroup =
    (group.memberSlotLikeCpp guid).map GroupMemberSlot.subgroup

def SameMemberFlags (group loaded : GroupInfo) : Prop :=
  ∀ guid, (loaded.memberSlotLikeCpp guid).map GroupMemberSlot.flags =
    (group.memberSlotLikeCpp guid).map GroupMemberSlot.flags

theorem memberSlot_loaded (characters : ℕ → GroupMemberCharacter) {start : GroupInfo}
    {rows : List GroupMemberDbRow} (hslots : start.memberSlots = [])
    (hrows : ∀ row ∈ rows, row.memberGuidLow < 2 ^ 40 ∧ row.subgroup < maxRaidSubgroups) :
    let loaded := rows.foldl (fun group row =>
      (group.loadMemberFromDbLikeCpp row.memberGuidLow row.memberFlags row.subgroup row.roles
        (some (characters row.memberGuidLow))).2) start
    loaded.profile = start.profile ∧
      ∀ guid, (loaded.memberSlotLikeCpp guid).map (fun slot => (slot.subgroup, slot.flags)) =
        (RowTable.rowsAt GroupMemberDbRow.guid guid rows).getLast?.map fun row =>
          (row.subgroup, start.loadedMemberFlags row.memberFlags) := by
  intro loaded
  have hread := RowTable.read_foldl GroupMemberDbRow.guid
    (fun group row =>
      (group.loadMemberFromDbLikeCpp row.memberGuidLow row.memberFlags row.subgroup row.roles
        (some (characters row.memberGuidLow))).2)
    (fun group guid => (group.memberSlotLikeCpp guid).map fun slot => (slot.subgroup, slot.flags))
    (fun row => some (row.subgroup, start.loadedMemberFlags row.memberFlags))
    (fun group => group.profile = start.profile) rows ?_ start rfl
  · refine ⟨hread.1, fun guid => (hread.2 guid).trans ?_⟩
    have hnone : start.memberSlotLikeCpp guid = none := by
      rw [GroupInfo.memberSlotLikeCpp, hslots]
      rfl
    rw [hnone]
    cases (RowTable.rowsAt GroupMemberDbRow.guid guid rows).getLast? <;> rfl
  · intro group hgroup row hrow
    obtain ⟨hlow, hsubgroup⟩ := hrows row hrow
    have hspec := group.loadMember_spec hlow hsubgroup (characters row.memberGuidLow)
    refine ⟨(hspec ObjectGuid.empty).1.trans hgroup, fun guid => (hspec guid).2.trans ?_⟩
    rw [GroupInfo.loadedMemberFlags_congr (GroupInfo.everyone_of_profile hgroup)]
    rfl

theorem Saved.reload {tables : GroupTables} {group : GroupInfo} (h : Saved tables group)
    (characters : ℕ → GroupMemberCharacter) (runtimeGroupGuid : ℕ) {row : GroupDbRow}
    (hrow : tables.groups.rows = [row]) {memberRows : List GroupMemberDbRow}
    (hperm : memberRows.Perm tables.members.rows) :
    ∃ loaded, reloadGroup characters runtimeGroupGuid row memberRows = some loaded ∧
      Restored group loaded ∧ (FlagsSaved tables group → SameMemberFlags group loaded) := by
  obtain ⟨row', hrow', hdescribes⟩ := h.row
  obtain rfl : row' = row := List.singleton_inj.mp (hrow'.symm.trans hrow)
  obtain ⟨start, hstart, hslots, hleader, hflags, hdungeon, hraid, hlegacy⟩ :=
    loadGroup_eq hdescribes runtimeGroupGuid (characters row'.leaderGuidLow)
  have hmine : (memberRows.filter fun member => member.dbStoreId = row'.dbStoreId) = memberRows := by
    refine List.filter_eq_self.mpr fun member hmember => decide_eq_true ?_
    rw [(h.seats.owned member (hperm.mem_iff.mp hmember)).1, hdescribes.dbStoreId]
  have hloaded := memberSlot_loaded characters hslots fun member hmember =>
    ⟨(h.seats.owned member (hperm.mem_iff.mp hmember)).2,
      h.subgroup_lt (hperm.mem_iff.mp hmember)⟩
  rw [reloadGroup, hstart, Option.map_some, hmine]
  obtain ⟨hprofile, hview⟩ := hloaded
  generalize memberRows.foldl _ start = loaded at hprofile hview ⊢
  have hfound : ∀ guid, IsPlayer guid →
      (loaded.memberSlotLikeCpp guid).map (fun slot => (slot.subgroup, slot.flags)) =
        (tables.memberRow guid).map fun row =>
          (row.subgroup, start.loadedMemberFlags row.memberFlags) := by
    intro guid hguid
    rw [hview, h.rowsAt_guid hperm hguid]
    cases tables.memberRow guid <;> rfl
  have hnone : ∀ guid, ¬ IsPlayer guid → loaded.memberSlotLikeCpp guid = none := by
    intro guid hguid
    have hempty : RowTable.rowsAt GroupMemberDbRow.guid guid memberRows = [] := by
      refine List.filter_eq_nil_iff.mpr fun member hmember hkey => hguid ?_
      have hlow := (h.seats.owned member (hperm.mem_iff.mp hmember)).2
      exact ⟨_, hlow, (of_decide_eq_true hkey).symm⟩
    have hpair := hview guid
    rw [hempty] at hpair
    exact Option.map_eq_none_iff.mp hpair
  simp only [GroupInfo.profile, Prod.mk.injEq] at hprofile
  obtain ⟨-, hleader', hflags', hdungeon', hraid', hlegacy'⟩ := hprofile
  have hgroupFlags : loaded.groupFlags = group.groupFlags := by
    rw [hflags', hflags, hdescribes.groupFlags]
  refine ⟨loaded, rfl, ⟨fun hid => ?_, hgroupFlags, fun kind => ?_, fun guid => ?_⟩,
    fun hsaved guid => ?_⟩
  · rw [hleader', hleader, hdescribes.leader hid, ← h.leader.eq_player]
  · cases kind with
    | dungeon => exact hdungeon'.trans (hdungeon.trans hdescribes.dungeonDifficultyId)
    | raid => exact hraid'.trans (hraid.trans hdescribes.raidDifficultyId)
    | legacyRaid => exact hlegacy'.trans (hlegacy.trans hdescribes.legacyRaidDifficultyId)
  · by_cases hguid : IsPlayer guid
    · have hpair := congrArg (Option.map Prod.fst) (hfound guid hguid)
      rw [Option.map_map, Option.map_map] at hpair
      exact hpair.trans (h.seats.subgroups guid hguid)
    · rw [hnone guid hguid, h.memberSlot_of_not_player hguid]
  · by_cases hguid : IsPlayer guid
    · have heveryone : start.everyoneIsAssistant = group.everyoneIsAssistant := by
        rw [GroupInfo.everyoneIsAssistant, GroupInfo.everyoneIsAssistant, hflags,
          hdescribes.groupFlags]
      have hpair := congrArg (Option.map Prod.snd) (hfound guid hguid)
      rw [Option.map_map, Option.map_map] at hpair
      refine hpair.trans (Eq.trans ?_ (hsaved guid hguid))
      refine Option.map_congr fun member _ => ?_
      exact GroupInfo.loadedMemberFlags_congr heveryone member.memberFlags
    · rw [hnone guid hguid, h.memberSlot_of_not_player hguid]

/-! ## Every run -/

/-- Whether every change of a run writes the member flags that it changes. -/
def flagsWritten (groupGuid : ℕ) : GroupRegistry → GroupTables → List GroupChange → Bool
  | _, _, [] => true
  | registry, tables, change :: rest =>
    ((registry.groups.lookup groupGuid).all fun group => writesFlags tables group change) &&
      (registry.change groupGuid change).all fun result =>
        flagsWritten groupGuid result.1 (tables.replay result.2) rest

/-- The tables describe the group under this key, or are empty if there is none. -/
structure Image (groupGuid : ℕ) (registry : GroupRegistry) (tables : GroupTables) : Prop where
  saved : ∀ group, registry.groups.lookup groupGuid = some group → Saved tables group
  cleared : registry.groups.lookup groupGuid = none → tables.Cleared

/-- The tables hold the member flags of the group under this key. -/
def FlagImage (groupGuid : ℕ) (registry : GroupRegistry) (tables : GroupTables) : Prop :=
  ∀ group, registry.groups.lookup groupGuid = some group → FlagsSaved tables group

section Runs

variable {groupGuid : ℕ} {registry : GroupRegistry} {tables : GroupTables}

theorem Image.change (h : Image groupGuid registry tables) {change : GroupChange}
    {result : GroupRegistry × List GroupPersistenceIntent}
    (hchange : registry.change groupGuid change = some result)
    (hinvitee : ∀ guid, change.invitee = some guid → IsPlayer guid) :
    Image groupGuid result.1 (tables.replay result.2) := by
  obtain ⟨group, left, hgroup, hchanged, hleft⟩ := changed_of_change hchange
  have hsaved := h.saved group hgroup
  refine ⟨fun kept hkept => ?_, fun hnone => ?_⟩
  · obtain rfl : left = some kept := hleft.symm.trans hkept
    exact hchanged.saved hinvitee hsaved
  · obtain rfl : left = none := hleft.symm.trans hnone
    exact hchanged.cleared hsaved

theorem FlagImage.change (hflags : FlagImage groupGuid registry tables)
    (h : Image groupGuid registry tables) {change : GroupChange}
    {result : GroupRegistry × List GroupPersistenceIntent}
    (hchange : registry.change groupGuid change = some result)
    (hinvitee : ∀ guid, change.invitee = some guid → IsPlayer guid)
    (hwrites : ((registry.groups.lookup groupGuid).all fun group =>
      writesFlags tables group change) = true) :
    FlagImage groupGuid result.1 (tables.replay result.2) := by
  obtain ⟨group, left, hgroup, hchanged, hleft⟩ := changed_of_change hchange
  rw [hgroup, Option.all_some] at hwrites
  intro kept hkept
  obtain rfl : left = some kept := hleft.symm.trans hkept
  exact hchanged.flagsSaved hinvitee (h.saved group hgroup) hwrites (hflags group hgroup)

/-- The run keeps the image, and the flags where every change writes them. -/
theorem Image.changes (h : Image groupGuid registry tables) {changes : List GroupChange}
    {final : GroupRegistry} {persistence : List GroupPersistenceIntent}
    (hchanges : registry.changes groupGuid changes = some (final, persistence))
    (hinvitees : ∀ change ∈ changes, ∀ guid, change.invitee = some guid → IsPlayer guid) :
    Image groupGuid final (tables.replay persistence) ∧
      (FlagImage groupGuid registry tables → flagsWritten groupGuid registry tables changes = true →
        FlagImage groupGuid final (tables.replay persistence)) := by
  induction changes generalizing registry tables persistence with
  | nil =>
    obtain ⟨rfl, rfl⟩ := Prod.mk.inj (Option.some.inj hchanges)
    exact ⟨h, fun hflags _ => hflags⟩
  | cons change rest ih =>
    obtain ⟨result, hchange, hmap⟩ := Option.bind_eq_some_iff.mp hchanges
    obtain ⟨⟨final', rest'⟩, hrest, heq⟩ := Option.map_eq_some_iff.mp hmap
    obtain ⟨rfl, rfl⟩ := Prod.mk.inj heq
    have hinvitee := hinvitees change List.mem_cons_self
    have hstep := h.change hchange hinvitee
    have hrun := ih hstep hrest fun change' hmem =>
      hinvitees change' (List.mem_cons_of_mem _ hmem)
    rw [GroupTables.replay_append]
    refine ⟨hrun.1, fun hflags hwritten => ?_⟩
    simp only [flagsWritten, hchange, Option.all_some, Bool.and_eq_true] at hwritten
    exact hrun.2 (hflags.change h hchange hinvitee hwritten.1) hwritten.2

end Runs

/-- Whatever is done to a group that an accepted invite created, replaying all intents on
empty tables and loading the rows in any order gives the group back: its leader, flags,
difficulties and seats, and the member flags if every change wrote those it changed. A
disbanded group leaves no rows. -/
theorem tables_restore_group {registry registry' final : GroupRegistry}
    {pending pending' : PendingInvites} {invitee : ObjectGuid} {partyIndex : Option ℕ}
    {available : Option ObjectGuid} {group : GroupInfo} {subgroup : ℕ}
    {created persistence : List GroupPersistenceIntent} {changes : List GroupChange}
    (hcreated : registry.acceptInviteLikeCpp pending invitee partyIndex available =
      (.created group subgroup created, registry', pending'))
    (hfounders : ∀ guid ∈ group.members, IsPlayer guid)
    (hinvitees : ∀ change ∈ changes, ∀ guid, change.invitee = some guid → IsPlayer guid)
    (hchanges : registry'.changes group.groupGuid changes = some (final, persistence)) :
    let tables := GroupTables.empty.replay (created ++ persistence)
    (final.groups.lookup group.groupGuid = none →
      tables.groups.rows = [] ∧ tables.members.rows = []) ∧
    ∀ last, final.groups.lookup group.groupGuid = some last →
      ∃ row, tables.groups.rows = [row] ∧
        ∀ (characters : ℕ → GroupMemberCharacter) (runtimeGroupGuid : ℕ)
          (memberRows : List GroupMemberDbRow), memberRows.Perm tables.members.rows →
          ∃ loaded, reloadGroup characters runtimeGroupGuid row memberRows = some loaded ∧
            Restored last loaded ∧
            (flagsWritten group.groupGuid registry' (GroupTables.empty.replay created) changes =
              true → SameMemberFlags last loaded) := by
  intro tables
  obtain ⟨groupGuid, dbStoreId, leader, hadd, rfl, hgroup⟩ := created_of_accept hcreated
  obtain ⟨-, _, _, -, -, hjoined⟩ := GroupInfo.addMember_eq hadd
  have hmembers : group.members = [leader, invitee] := by rw [hjoined]; rfl
  have hleader : IsPlayer leader := hfounders leader (by simp [hmembers])
  have hinvitee : IsPlayer invitee := hfounders invitee (by simp [hmembers])
  -- The tables after the creation are those of the leader alone with one more member.
  have hled : GroupTables.empty.replay [group.insertGroupIntent,
      .insertMember group.dbStoreId group.leaderGuid 0 0 0, group.insertMemberIntent invitee] =
        (GroupTables.led (GroupInfo.new groupGuid dbStoreId leader)).execute
          (group.insertMemberIntent invitee) := by
    rw [hjoined]
    rfl
  have hnew := saved_new groupGuid dbStoreId hleader
  have hfirst : Image group.groupGuid registry' (GroupTables.empty.replay
      [group.insertGroupIntent, .insertMember group.dbStoreId group.leaderGuid 0 0 0,
        group.insertMemberIntent invitee]) := by
    refine ⟨fun found hfound => ?_, fun hnone => ?_⟩
    · obtain rfl : group = found := Option.some.inj (hgroup.symm.trans hfound)
      rw [hled]
      exact hnew.insertMember (isFull_new groupGuid dbStoreId leader) hinvitee hadd
    · rw [hgroup] at hnone
      cases hnone
  have hfirstFlags : FlagImage group.groupGuid registry' (GroupTables.empty.replay
      [group.insertGroupIntent, .insertMember group.dbStoreId group.leaderGuid 0 0 0,
        group.insertMemberIntent invitee]) := by
    intro found hfound
    obtain rfl : group = found := Option.some.inj (hgroup.symm.trans hfound)
    rw [hled]
    exact (flagsSaved_new groupGuid dbStoreId hleader).insertMember hnew.roster hinvitee hadd
      (everyone_new groupGuid dbStoreId leader)
  obtain ⟨himage, hflags⟩ := hfirst.changes hchanges hinvitees
  rw [← GroupTables.replay_append] at himage hflags
  refine ⟨himage.cleared, fun last hlast => ?_⟩
  have hsaved := himage.saved last hlast
  obtain ⟨row, hrow, -⟩ := hsaved.row
  refine ⟨row, hrow, fun characters runtimeGroupGuid memberRows hperm => ?_⟩
  obtain ⟨loaded, hloaded, hrestored, hsame⟩ :=
    hsaved.reload characters runtimeGroupGuid hrow hperm
  exact ⟨loaded, hloaded, hrestored, fun hwritten => hsame (hflags hfirstFlags hwritten last hlast)⟩

/-! ## Runs of a raid of two -/

/-- The invite of the first player to the second. -/
def raidInvite : PendingInvites :=
  (GroupRegistry.initial.createInviteLikeCpp ∅ (fun _ => 0) (player 1) (player 2) none 0 0).2

def raidCharacter : GroupMemberCharacter := ⟨"", 1, 1⟩

/-- The second player is moved to another subgroup and becomes an assistant. -/
theorem tables_restore_group_raid :
    ∃ group created registry pending final persistence last row loaded,
      GroupRegistry.initial.acceptInviteLikeCpp raidInvite (player 2) none (some (player 1)) =
        (.created group 0 created, registry, pending) ∧
      registry.changes group.groupGuid [.call (.convertGroup (player 1) true),
        .call (.changeMemberSubgroup (player 1) (player 2) 3),
        .call (.setMemberFlag (player 1) (player 2) true memberFlagAssistant)] =
          some (final, persistence) ∧
      final.groups.lookup group.groupGuid = some last ∧
      reloadGroup (fun _ => raidCharacter) 7 row
        (GroupTables.empty.replay (created ++ persistence)).members.rows = some loaded ∧
      (last.memberSlotLikeCpp (player 2)).map GroupMemberSlot.subgroup = some 3 ∧
      Restored last loaded ∧ SameMemberFlags last loaded := by
  obtain ⟨group, created, registry, pending, final, persistence, last, hcreated, hchanges, hlast,
      hmembers, hseat, hwritten⟩ :
      ∃ group created registry pending final persistence last,
        GroupRegistry.initial.acceptInviteLikeCpp raidInvite (player 2) none (some (player 1)) =
          (.created group 0 created, registry, pending) ∧
        registry.changes group.groupGuid [.call (.convertGroup (player 1) true),
          .call (.changeMemberSubgroup (player 1) (player 2) 3),
          .call (.setMemberFlag (player 1) (player 2) true memberFlagAssistant)] =
            some (final, persistence) ∧
        final.groups.lookup group.groupGuid = some last ∧
        group.members = [player 1, player 2] ∧
        (last.memberSlotLikeCpp (player 2)).map GroupMemberSlot.subgroup = some 3 ∧
        flagsWritten group.groupGuid registry (GroupTables.empty.replay created)
          [.call (.convertGroup (player 1) true),
            .call (.changeMemberSubgroup (player 1) (player 2) 3),
            .call (.setMemberFlag (player 1) (player 2) true memberFlagAssistant)] = true := by
    refine ⟨_, _, _, _, _, _, _, rfl, rfl, rfl, rfl, rfl, ?_⟩
    decide +kernel
  have hfounders : ∀ guid ∈ group.members, IsPlayer guid := by
    intro guid hguid
    rw [hmembers] at hguid
    rcases List.mem_pair.mp hguid with rfl | rfl
    · exact ⟨1, by decide, rfl⟩
    · exact ⟨2, by decide, rfl⟩
  obtain ⟨row, -, hreload⟩ := (tables_restore_group hcreated hfounders
    (by simp [GroupChange.invitee]) hchanges).2 last hlast
  obtain ⟨loaded, hloaded, hrestored, hsame⟩ :=
    hreload (fun _ => raidCharacter) 7 _ (List.Perm.refl _)
  exact ⟨group, created, registry, pending, final, persistence, last, row, loaded, hcreated,
    hchanges, hlast, hloaded, hseat, hrestored, hsame hwritten⟩

/-- The second player is the main tank, then the first: only the flags of the first are
written, and a reload makes both of them main tanks. -/
theorem main_tanks_restored :
    ∃ group created registry pending last row loaded final persistence,
      GroupRegistry.initial.acceptInviteLikeCpp raidInvite (player 2) none (some (player 1)) =
        (.created group 0 created, registry, pending) ∧
      registry.changes 1 [.call (.convertGroup (player 1) true),
        .call (.setMemberFlag (player 1) (player 2) true memberFlagMaintank),
        .call (.setMemberFlag (player 1) (player 1) true memberFlagMaintank)] =
          some (final, persistence) ∧
      final.groups.lookup 1 = some last ∧
      (GroupTables.empty.replay (created ++ persistence)).groups.rows = [row] ∧
      reloadGroup (fun _ => raidCharacter) 7 row
        (GroupTables.empty.replay (created ++ persistence)).members.rows = some loaded ∧
      (last.memberSlotLikeCpp (player 2)).map GroupMemberSlot.flags = some 0 ∧
      (loaded.memberSlotLikeCpp (player 2)).map GroupMemberSlot.flags =
        some memberFlagMaintank := by
  refine ⟨_, _, _, _, _, _, _, _, _, rfl, rfl, rfl, rfl, rfl, ?_, ?_⟩
  · decide +kernel
  · decide +kernel

end RustyCore.Group
