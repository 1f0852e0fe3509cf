import RustyCore.Library.Run
import RustyCore.Model.Group.Invites
import RustyCore.Verification.Group.Edits

/-! # What a step of the directory does

The invitee of an accepted invite joins the group the invite names, or founds one with
its leader; every other step changes the pending invites or edits one group. -/

namespace RustyCore.Group

/-- A player of the first realm. -/
def player (id : ℕ) : ObjectGuid := ObjectGuid.createPlayer 1 id

/-- The registry after a new group was created for `leader` and `invitee` joined it. -/
def GroupRegistry.found (registry : GroupRegistry) (group : GroupInfo) : GroupRegistry where
  groups := registry.groups.insert group.groupGuid group
  ids := registry.ids.registerGroupDbStoreIdLikeCpp group.dbStoreId group.groupGuid

/-- The group that `leader` founds with `invitee`, before it is registered. -/
def GroupInfo.founded (group : GroupInfo) (invitee : ObjectGuid) : GroupInfo :=
  { group with
    members := group.members ++ [invitee]
    memberSlots := group.memberSlots ++ [GroupMemberSlot.joined invitee 0] }

theorem addMember_new {groupGuid dbStoreId : ℕ} {leader invitee : ObjectGuid}
    (h : leader ≠ invitee) :
    (GroupInfo.new groupGuid dbStoreId leader).addMember invitee =
      some ((GroupInfo.new groupGuid dbStoreId leader).founded invitee) := by
  simp [GroupInfo.addMember, GroupInfo.new, GroupInfo.joinSubgroup,
    GroupInfo.subgroupCounterIncreaseLikeCpp, GroupInfo.founded, Ne.symm h]

/-- Accepting founds a new group for the leader of this invite. -/
structure Founds (pending : PendingInvites) (invitee : ObjectGuid) (partyIndex : Option ℕ)
    (available : Option ObjectGuid) (invite : PendingInvite) : Prop where
  received : pending.lookup invitee = some invite
  category : ∀ index, partyIndex = some index → invite.groupCategory = index
  ungrouped : invite.groupGuid = none
  not_self : invite.leaderGuid ≠ invitee
  leader_available : available = some invite.leaderGuid

/-- The invites after a group was founded: those to the pending group now name it. -/
def PendingInvites.promoted (pending : PendingInvites) (invitee : ObjectGuid)
    (invite : PendingInvite) (groupGuid : ℕ) : PendingInvites :=
  PendingInvites.promoteMatching ((pending.erase invitee).erase invite.leaderGuid) invite
    (.newExistingGroup invite.leaderGuid groupGuid invite.groupCategory)

/-- What accepting an invite can make of the registry and the pending invites. -/
inductive Accepted (registry : GroupRegistry) (pending : PendingInvites) (invitee : ObjectGuid)
    (partyIndex : Option ℕ) (available : Option ObjectGuid) :
    GroupRegistry → PendingInvites → Prop where
  | refused : Accepted registry pending invitee partyIndex available registry pending
  | dropped : Accepted registry pending invitee partyIndex available registry
      (pending.erase invitee)
  | abandoned {invite : PendingInvite} : Accepted registry pending invitee partyIndex available
      registry (PendingInvites.removeMatching (pending.erase invitee) invite)
  | joined {invite : PendingInvite} {groupGuid : ℕ} {group joined : GroupInfo} :
      pending.lookup invitee = some invite → invite.leaderGuid ≠ invitee →
      invite.groupGuid = some groupGuid →
      registry.groups.lookup groupGuid = some group → group.isFullLikeCpp = false →
      group.addMember invitee = some joined →
      Accepted registry pending invitee partyIndex available
        { registry with groups := registry.groups.insert groupGuid joined } (pending.erase invitee)
  | founded {invite : PendingInvite} :
      Founds pending invitee partyIndex available invite →
      Accepted registry pending invitee partyIndex available
        ((registry.newGroup invite.leaderGuid).2.found
          ((registry.newGroup invite.leaderGuid).1.founded invitee))
        (pending.promoted invitee invite (registry.newGroup invite.leaderGuid).1.groupGuid)

variable {registry : GroupRegistry} {pending : PendingInvites} {invitee : ObjectGuid}
  {invite : PendingInvite}

theorem accepted_of_join (hinvite : pending.lookup invitee = some invite)
    (hleader : invite.leaderGuid ≠ invitee) {groupGuid : ℕ} (hguid : invite.groupGuid = some groupGuid)
    (partyIndex : Option ℕ) (available : Option ObjectGuid) :
    Accepted registry pending invitee partyIndex available
      (registry.joinFromInvite pending invitee invite groupGuid).2.1
      (registry.joinFromInvite pending invitee invite groupGuid).2.2 := by
  unfold GroupRegistry.joinFromInvite
  cases hgroup : registry.groups.lookup groupGuid with
  | none => exact .refused
  | some group =>
    by_cases hcategory : (group.groupCategory != invite.groupCategory) = true
    · simp only [hcategory, if_true]
      exact .refused
    · by_cases hfull : group.isFullLikeCpp = true
      · simp only [hcategory, hfull, if_true]
        exact .dropped
      · by_cases hmember : group.members.contains invitee = true
        · simp only [hcategory, hfull, hmember, if_true]
          exact .dropped
        · cases hadd : group.addMember invitee with
          | none =>
            simp only [hcategory, hfull, hmember, hadd, Bool.false_eq_true, if_false]
            exact .dropped
          | some joined =>
            simp only [hcategory, hfull, hmember, hadd, Bool.false_eq_true, if_false]
            exact .joined hinvite hleader hguid hgroup (by simpa using hfull) hadd

theorem createFromInvite_eq (registry : GroupRegistry) (pending : PendingInvites)
    (hleader : invite.leaderGuid ≠ invitee) :
    (registry.createFromInvite (pending.erase invitee) invitee invite).2 =
      ((registry.newGroup invite.leaderGuid).2.found
          ((registry.newGroup invite.leaderGuid).1.founded invitee),
        PendingInvites.promoted pending invitee invite
          (registry.newGroup invite.leaderGuid).1.groupGuid) := by
  have hadd : (registry.newGroup invite.leaderGuid).1.addMember invitee =
      some ((registry.newGroup invite.leaderGuid).1.founded invitee) := addMember_new hleader
  unfold GroupRegistry.createFromInvite
  simp only [hadd]
  rfl

theorem acceptInvite_of_founds {partyIndex : Option ℕ} {available : Option ObjectGuid}
    (h : Founds pending invitee partyIndex available invite) (registry : GroupRegistry) :
    (registry.acceptInviteLikeCpp pending invitee partyIndex available).2 =
      ((registry.newGroup invite.leaderGuid).2.found
          ((registry.newGroup invite.leaderGuid).1.founded invitee),
        pending.promoted invitee invite (registry.newGroup invite.leaderGuid).1.groupGuid) := by
  have hcategory : ¬ (partyIndex.any (fun index => invite.groupCategory != index) = true) := by
    cases hindex : partyIndex with
    | none => simp
    | some index => simpa using h.category index hindex
  unfold GroupRegistry.acceptInviteLikeCpp
  simp only [h.received, hcategory, h.not_self, h.ungrouped, h.leader_available, ne_eq,
    not_true_eq_false, Bool.false_eq_true, if_false]
  exact createFromInvite_eq registry pending h.not_self

theorem accepted_of_accept (registry : GroupRegistry) (pending : PendingInvites)
    (invitee : ObjectGuid) (partyIndex : Option ℕ) (available : Option ObjectGuid) :
    Accepted registry pending invitee partyIndex available
      (registry.acceptInviteLikeCpp pending invitee partyIndex available).2.1
      (registry.acceptInviteLikeCpp pending invitee partyIndex available).2.2 := by
  unfold GroupRegistry.acceptInviteLikeCpp
  cases hinvite : pending.lookup invitee with
  | none => exact .refused
  | some invite =>
    by_cases hcategory : partyIndex.any (fun index => invite.groupCategory != index) = true
    · simp only [hcategory, if_true]
      exact .refused
    · by_cases hself : invite.leaderGuid = invitee
      · simp only [hcategory, hself, if_true]
        exact .dropped
      · cases hguid : invite.groupGuid with
        | some groupGuid =>
          simp only [hcategory, hself, hguid]
          exact accepted_of_join hinvite hself hguid partyIndex available
        | none =>
          by_cases havailable : available = some invite.leaderGuid
          · have hfounds : Founds pending invitee partyIndex available invite := by
              refine ⟨hinvite, ?_, hguid, hself, havailable⟩
              rintro index rfl
              simpa using hcategory
            have heq := acceptInvite_of_founds hfounds registry
            simp only [GroupRegistry.acceptInviteLikeCpp, hinvite, hcategory, hself, hguid] at heq
            simp only [hcategory, hself, hguid]
            rw [heq]
            exact .founded hfounds
          · simp only [hcategory, hself, hguid, ne_eq, havailable, not_false_eq_true, if_true]
            exact .abandoned

/-! ## The registry -/

/-- What a step of the directory can make of the registry. -/
inductive RegistryChange (registry : GroupRegistry) : GroupRegistry → Prop where
  | same : RegistryChange registry registry
  | joined {groupGuid : ℕ} {group joined : GroupInfo} {invitee : ObjectGuid} :
      registry.groups.lookup groupGuid = some group → group.isFullLikeCpp = false →
      group.addMember invitee = some joined →
      RegistryChange registry { registry with groups := registry.groups.insert groupGuid joined }
  | founded {leader invitee : ObjectGuid} : leader ≠ invitee →
      RegistryChange registry
        ((registry.newGroup leader).2.found ((registry.newGroup leader).1.founded invitee))
  | called {groupGuid : ℕ} {group : GroupInfo} {call : GroupCall} {result : GroupCallResult} :
      registry.groups.lookup groupGuid = some group → Called group call result →
      RegistryChange registry (registry.settle groupGuid group.dbStoreId result.1)

theorem called_of_transition {groupGuid : ℕ} {call : GroupCall}
    {result : GroupRegistry × List GroupPersistenceIntent}
    (h : registry.transition groupGuid call = .ok result) :
    ∃ group left, registry.groups.lookup groupGuid = some group ∧ Called group call left ∧
      result = (registry.settle groupGuid group.dbStoreId left.1, left.2) := by
  unfold GroupRegistry.transition at h
  cases hgroup : registry.groups.lookup groupGuid with
  | none => simp [hgroup] at h
  | some group =>
    simp only [hgroup] at h
    cases hcall : call.apply group with
    | error error => simp [hcall, Except.map] at h
    | ok left =>
      rw [hcall] at h
      exact ⟨group, left, rfl, called_of_apply hcall, (Except.ok.inj h).symm⟩

theorem Accepted.registryChange {partyIndex : Option ℕ} {available : Option ObjectGuid}
    {registry' : GroupRegistry} {pending' : PendingInvites}
    (h : Accepted registry pending invitee partyIndex available registry' pending') :
    RegistryChange registry registry' := by
  cases h with
  | refused => exact .same
  | dropped => exact .same
  | abandoned => exact .same
  | joined _ _ _ hgroup hfull hadd => exact .joined hgroup hfull hadd
  | founded hfounds => exact .founded hfounds.not_self

theorem registryChange_of_step (directory : GroupDirectory) (op : GroupOp) :
    RegistryChange directory.registry (directory.step op).registry := by
  cases op with
  | acceptInvite invitee partyIndex leader =>
    exact (accepted_of_accept directory.registry directory.pending invitee partyIndex
      leader).registryChange
  | call groupGuid call =>
    cases htransition : directory.registry.transition groupGuid call with
    | error error =>
      simp only [GroupDirectory.step, htransition]
      exact .same
    | ok result =>
      obtain ⟨group, left, hgroup, hcalled, rfl⟩ := called_of_transition htransition
      simp only [GroupDirectory.step, htransition]
      exact .called hgroup hcalled
  | createInvite => exact .same
  | declineInvite => exact .same
  | cancelInvite => exact .same
  | expireInvite => exact .same
  | replaceInvite => exact .same
  | cancelPendingGroup => exact .same

theorem lookup_settle (registry : GroupRegistry) (groupGuid dbStoreId : ℕ)
    (group : Option GroupInfo) (other : ℕ) :
    (registry.settle groupGuid dbStoreId group).groups.lookup other =
      if other = groupGuid then group else registry.groups.lookup other := by
  cases group with
  | none => exact Dict.lookup_erase_eq registry.groups groupGuid other
  | some group => exact Dict.lookup_insert_eq registry.groups groupGuid other group

end RustyCore.Group
