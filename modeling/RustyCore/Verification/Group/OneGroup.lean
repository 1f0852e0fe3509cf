import RustyCore.Verification.Group.Steps

/-! # Invites and groups of one player

Who may invite, and when a player is in at most one group. -/

/-! ## Who may invite

An invite is authorised when its inviter leads or assists the group it names, or is the
leader of the pending group. The branch that hands on the inviter's own invite checks
neither. -/

namespace RustyCore.Group

def PendingInvite.AuthorisedBy (invite : PendingInvite) (registry : GroupRegistry)
    (inviter : ObjectGuid) : Prop :=
  match invite.groupGuid with
  | some groupGuid => ∃ group, registry.groups.lookup groupGuid = some group ∧
      (group.isLeaderLikeCpp inviter = true ∨ group.isAssistantLikeCpp inviter = true)
  | none => inviter = invite.leaderGuid

/-- No group of this category lists the player. -/
def GroupRegistry.Ungrouped (registry : GroupRegistry) (category : ℕ) (guid : ObjectGuid) : Prop :=
  ∀ groupGuid group, registry.groups.lookup groupGuid = some group →
    groupLists category guid group = false

/-- The call hands on an invite that its inviter has received but may not extend. -/
structure RelaysInvite (registry : GroupRegistry) (pending : PendingInvites)
    (inviter invitee : ObjectGuid) (inviterGroupGuid : Option ℕ) (category : ℕ) : Prop where
  invitee_free : pending.lookup invitee = none
  invitee_ungrouped : registry.Ungrouped category invitee
  inviter_unnamed : inviterGroupGuid = none
  inviter_ungrouped : registry.Ungrouped category inviter
  received : ∃ invite, pending.lookup inviter = some invite ∧
    ¬ invite.AuthorisedBy registry inviter

variable {registry : GroupRegistry} {pending : PendingInvites} {rank : ℕ → ℕ}
  {inviter invitee : ObjectGuid} {inviterGroupGuid : Option ℕ} {lookupCategory newCategory : ℕ}

theorem ungrouped_iff {category : ℕ} {guid : ObjectGuid} :
    registry.Ungrouped category guid ↔
      registry.groups.anyEntry (fun _ group => groupLists category guid group) = false :=
  Dict.anyEntry_eq_false_iff.symm

/-- An inviter speaks for no group exactly when none lists them and none was named. -/
theorem resolved_eq_none_iff :
    registry.resolvedInviterGroupGuid rank inviter none lookupCategory = none ↔
      registry.Ungrouped lookupCategory inviter := by
  have hfind : registry.resolvedInviterGroupGuid rank inviter none lookupCategory =
      registry.groups.findKey rank (fun _ group => groupLists lookupCategory inviter group) := rfl
  rw [hfind]
  exact Dict.findKey_eq_none_iff

theorem ungrouped_of_resolved_eq_none
    (h : registry.resolvedInviterGroupGuid rank inviter inviterGroupGuid lookupCategory = none) :
    registry.Ungrouped lookupCategory inviter := by
  rw [GroupRegistry.resolvedInviterGroupGuid, Option.or_eq_none_iff] at h
  exact Dict.findKey_eq_none_iff.mp h.2

/-- What a created invite can be: one for the group the inviter speaks for, the inviter's
own pending invite handed on, or a new pending group. -/
theorem createInvite_cases {invite : PendingInvite}
    (h : (registry.createInviteLikeCpp pending rank inviter invitee inviterGroupGuid lookupCategory
      newCategory).1 = .created invite) :
    pending.lookup invitee = none ∧ registry.Ungrouped lookupCategory invitee ∧
      ((∃ groupGuid group, registry.groups.lookup groupGuid = some group ∧
          (group.isLeaderLikeCpp inviter = true ∨ group.isAssistantLikeCpp inviter = true) ∧
          group.groupCategory = lookupCategory ∧ group.isFullLikeCpp = false ∧
          invite = .newExistingGroup group.leaderGuid groupGuid group.groupCategory) ∨
        inviterGroupGuid = none ∧ registry.Ungrouped lookupCategory inviter ∧
          (pending.lookup inviter = some invite ∨
            pending.lookup inviter = none ∧ invite = .newPendingGroup inviter newCategory)) := by
  simp only [GroupRegistry.createInviteLikeCpp] at h
  split_ifs at h with hinvited hgrouped hmissing
  refine ⟨by simpa using hinvited, ungrouped_iff.mpr (by simpa using hgrouped), ?_⟩
  cases hresolved : registry.resolvedInviterGroupGuid rank inviter inviterGroupGuid
    lookupCategory with
  | some groupGuid =>
    left
    cases hgroup : registry.groups.lookup groupGuid with
    | none => simp [hresolved, hgroup] at h
    | some group =>
      simp only [hresolved, hgroup] at h
      split_ifs at h with hcategory hauthority hfull
      refine ⟨groupGuid, group, hgroup, ?_, by simpa using hcategory, by simpa using hfull,
        (CreateGroupInviteResult.created.inj h).symm⟩
      simpa [or_iff_not_imp_left] using hauthority
  | none =>
    right
    have hunnamed : inviterGroupGuid = none := by simpa [hresolved] using hmissing
    refine ⟨hunnamed, ungrouped_of_resolved_eq_none hresolved, ?_⟩
    cases hreceived : pending.lookup inviter with
    | some received =>
      simp only [hresolved, hreceived] at h
      exact Or.inl (congrArg some (CreateGroupInviteResult.created.inj h))
    | none =>
      simp only [hresolved, hreceived] at h
      exact Or.inr ⟨rfl, (CreateGroupInviteResult.created.inj h).symm⟩

theorem createInvite_of_relays {invite : PendingInvite}
    (h : RelaysInvite registry pending inviter invitee inviterGroupGuid lookupCategory)
    (hreceived : pending.lookup inviter = some invite) :
    (registry.createInviteLikeCpp pending rank inviter invitee inviterGroupGuid lookupCategory
      newCategory).1 = .created invite := by
  obtain ⟨hfree, hungrouped, rfl, hinviter, -⟩ := h
  have hresolved : registry.resolvedInviterGroupGuid rank inviter none lookupCategory = none :=
    resolved_eq_none_iff.mpr hinviter
  simp [GroupRegistry.createInviteLikeCpp, hfree, ungrouped_iff.mp hungrouped, hresolved, hreceived]

/-- A call creates authorised invites only, unless it relays an invite. -/
theorem createInvite_authorised_iff (registry : GroupRegistry) (pending : PendingInvites)
    (rank : ℕ → ℕ) (inviter invitee : ObjectGuid) (inviterGroupGuid : Option ℕ)
    (lookupCategory newCategory : ℕ) :
    (∀ invite, (registry.createInviteLikeCpp pending rank inviter invitee inviterGroupGuid
        lookupCategory newCategory).1 = .created invite → invite.AuthorisedBy registry inviter) ↔
      ¬ RelaysInvite registry pending inviter invitee inviterGroupGuid lookupCategory := by
  constructor
  · intro h hrelays
    obtain ⟨invite, hreceived, hforeign⟩ := hrelays.received
    exact hforeign (h invite (createInvite_of_relays hrelays hreceived))
  · intro h invite hcreated
    obtain ⟨hfree, hungrouped, hcase⟩ := createInvite_cases hcreated
    rcases hcase with ⟨groupGuid, group, hgroup, hauthority, -, -, rfl⟩ |
      ⟨hunnamed, hinviter, hreceived | ⟨-, rfl⟩⟩
    · exact ⟨group, hgroup, hauthority⟩
    · by_contra hforeign
      exact h ⟨hfree, hungrouped, hunnamed, hinviter, invite, hreceived, hforeign⟩
    · rfl

/-! ## An invite handed on -/

/-- The first player leads a group with the second and has invited the third. -/
def invitedDirectory : GroupDirectory :=
  run GroupDirectory.step GroupDirectory.initial
    [.createInvite (fun _ => 0) (player 1) (player 2) none groupCategoryHome groupCategoryHome,
      .acceptInvite (player 2) none (some (player 1)),
      .createInvite (fun _ => 0) (player 1) (player 3) none groupCategoryHome groupCategoryHome]

/-- The third player, who belongs to no group, invites the fourth into the group. -/
theorem createInvite_by_outsider :
    (invitedDirectory.registry.createInviteLikeCpp invitedDirectory.pending (fun _ => 0) (player 3)
        (player 4) none groupCategoryHome groupCategoryHome).1 =
      .created ⟨player 1, some 1, groupCategoryHome⟩ ∧
    ¬ PendingInvite.AuthorisedBy ⟨player 1, some 1, groupCategoryHome⟩ invitedDirectory.registry
      (player 3) := by
  refine ⟨by decide, ?_⟩
  rintro ⟨group, hgroup, hauthority⟩
  have hlookup : (invitedDirectory.registry.groups.lookup 1).all (fun group =>
      !group.isLeaderLikeCpp (player 3) && !group.isAssistantLikeCpp (player 3)) = true := by decide
  rw [hgroup] at hlookup
  simp_all

end RustyCore.Group

/-! ## At most one group a player

Whoever holds another player's invite is in no group. An accepted invite checks nothing
about its leader, so a group must not be founded for a leader who already has one. -/

namespace RustyCore.Group

variable {pending : PendingInvites} {guid invitee : ObjectGuid} {other : PendingInvite}
  {registry : GroupRegistry}

/-- No player is listed by two registered groups. -/
def GroupRegistry.AtMostOneGroup (registry : GroupRegistry) : Prop :=
  ∀ g g' group group' guid, registry.groups.lookup g = some group →
    registry.groups.lookup g' = some group' → guid ∈ group.members → guid ∈ group'.members → g = g'

/-- No registered group lists the player. -/
def GroupRegistry.Free (registry : GroupRegistry) (guid : ObjectGuid) : Prop :=
  ∀ groupGuid group, registry.groups.lookup groupGuid = some group → guid ∉ group.members

/-! ## Conditions on a step -/

/-- Invites are looked up among the home groups, and no invite is replaced for a player who
is in a group. -/
def InvitesUngrouped (directory : GroupDirectory) : GroupOp → Prop
  | .createInvite _ _ _ _ lookupGroupCategory _ => lookupGroupCategory = groupCategoryHome
  | .replaceInvite invitee expected _ =>
    directory.pending.lookup invitee = some expected → directory.registry.Free invitee
  | _ => True

/-- No group is founded for a leader whom another group lists. -/
def FoundsForFree (directory : GroupDirectory) : GroupOp → Prop
  | .acceptInvite invitee partyIndex available =>
    ∀ invite, Founds directory.pending invitee partyIndex available invite →
      ∀ groupGuid group, directory.registry.groups.lookup groupGuid = some group →
        groupGuid ≠ directory.registry.ids.nextGroupId → invite.leaderGuid ∉ group.members
  | _ => True

/-! ## The invariant -/

structure SingleGroups (directory : GroupDirectory) : Prop where
  one : directory.registry.AtMostOneGroup
  home : ∀ groupGuid group, directory.registry.groups.lookup groupGuid = some group →
    group.groupCategory = groupCategoryHome
  free : ∀ guid invite, directory.pending.lookup guid = some invite → invite.leaderGuid ≠ guid →
    directory.registry.Free guid

theorem lookup_promoteMatching {invite promoted : PendingInvite}
    (h : (pending.promoteMatching invite promoted).lookup guid = some other) :
    pending.lookup guid = some invite ∧ other = promoted ∨ pending.lookup guid = some other := by
  have hfold : ∀ (guids : List ObjectGuid) (acc : PendingInvites),
      (guids.foldl (fun pending guid => pending.insert guid promoted) acc).lookup guid = some other →
      guid ∈ guids ∧ other = promoted ∨ acc.lookup guid = some other := by
    intro guids
    induction guids with
    | nil => exact fun acc hacc => Or.inr hacc
    | cons head guids ih =>
      intro acc hacc
      rcases ih _ hacc with ⟨hmem, heq⟩ | hacc
      · exact Or.inl ⟨by simp [hmem], heq⟩
      · rw [Dict.lookup_insert_eq] at hacc
        by_cases hhead : guid = head
        · rw [if_pos hhead] at hacc
          exact Or.inl ⟨by simp [hhead], (Option.some.inj hacc).symm⟩
        · rw [if_neg hhead] at hacc
          exact Or.inr hacc
  rcases hfold _ _ h with ⟨hmem, heq⟩ | hsame
  · obtain ⟨⟨guid', invite'⟩, hentry, rfl⟩ := List.mem_map.mp hmem
    have hlookup := Dict.mem_entries_iff.mp hentry
    rw [Dict.lookup_retain, Option.filter_eq_some_iff] at hlookup
    exact Or.inl ⟨hlookup.1.trans (congrArg some (by simpa using hlookup.2)), heq⟩
  · exact Or.inr hsame

theorem lookup_removeMatching {invite : PendingInvite}
    (h : (pending.removeMatching invite).lookup guid = some other) :
    pending.lookup guid = some other := by
  rw [PendingInvites.removeMatching, Dict.lookup_retain, Option.filter_eq_some_iff] at h
  exact h.1

theorem lookup_erase_some (h : AList.lookup guid (AList.erase invitee pending) = some other) :
    guid ≠ invitee ∧ pending.lookup guid = some other := by
  rw [Dict.lookup_erase_eq] at h
  split_ifs at h with heq
  exact ⟨heq, h⟩

theorem lookup_cancel {expected : PendingInvite}
    (h : AList.lookup guid (pending.cancelInviteUnlockedLikeCpp invitee expected).2 = some other) :
    pending.lookup guid = some other := by
  simp only [PendingInvites.cancelInviteUnlockedLikeCpp] at h
  split_ifs at h
  · exact h
  · exact (lookup_erase_some (lookup_removeMatching h)).2
  · exact (lookup_erase_some h).2

theorem lookup_decline {partyIndex : Option ℕ}
    (h : AList.lookup guid (pending.declineInviteLikeCpp invitee partyIndex).2 = some other) :
    pending.lookup guid = some other := by
  unfold PendingInvites.declineInviteLikeCpp at h
  cases hinvite : pending.lookup invitee with
  | none => simpa [hinvite] using h
  | some invite =>
    simp only [hinvite] at h
    split_ifs at h
    · exact h
    · cases hcancel : pending.cancelInviteUnlockedLikeCpp invitee invite with
      | mk removed left =>
        have hleft : left = (pending.cancelInviteUnlockedLikeCpp invitee invite).2 := by
          rw [hcancel]
        cases removed <;> (simp only [hcancel] at h; exact lookup_cancel (hleft ▸ h))

theorem lookup_replace {expected replacement : PendingInvite}
    (h : AList.lookup guid (pending.replaceInviteLikeCpp invitee expected replacement).2 =
      some other) :
    pending.lookup guid = some other ∨
      guid = invitee ∧ pending.lookup invitee = some expected ∨ other.leaderGuid = guid := by
  unfold PendingInvites.replaceInviteLikeCpp at h
  cases hcancel : pending.cancelInviteUnlockedLikeCpp invitee expected with
  | mk removed left =>
    have hleft : left = (pending.cancelInviteUnlockedLikeCpp invitee expected).2 := by
      rw [hcancel]
    cases removed with
    | false =>
      simp only [hcancel] at h
      exact Or.inl (lookup_cancel (hleft ▸ h))
    | true =>
      have hheld : pending.lookup invitee = some expected := by
        by_contra hne
        simp [PendingInvites.cancelInviteUnlockedLikeCpp, hne] at hcancel
      simp only [hcancel] at h
      rw [Dict.lookup_insert_eq] at h
      by_cases hguid : guid = invitee
      · exact Or.inr (Or.inl ⟨hguid, hheld⟩)
      · rw [if_neg hguid] at h
        split_ifs at h
        · rw [Dict.lookup_insert_eq] at h
          by_cases hleader : guid = replacement.leaderGuid
          · rw [if_pos hleader] at h
            exact Or.inr (Or.inr (Option.some.inj h ▸ hleader.symm))
          · rw [if_neg hleader] at h
            exact Or.inl (lookup_cancel (hleft ▸ h))
        · exact Or.inl (lookup_cancel (hleft ▸ h))

/-! ## Steps -/

variable {directory : GroupDirectory}

theorem SingleGroups.ungrouped_iff_free (h : SingleGroups directory) :
    directory.registry.Ungrouped groupCategoryHome guid ↔ directory.registry.Free guid := by
  unfold GroupRegistry.Ungrouped GroupRegistry.Free groupLists
  constructor
  · intro hun groupGuid group hgroup
    simpa [h.home groupGuid group hgroup] using hun groupGuid group hgroup
  · intro hfree groupGuid group hgroup
    simpa using fun _ => hfree groupGuid group hgroup

/-- Steps that leave the registry alone only have to keep the holders of invites free. -/
theorem SingleGroups.of_pending (h : SingleGroups directory)
    (hfree : ∀ guid invite, pending.lookup guid = some invite → invite.leaderGuid ≠ guid →
      directory.pending.lookup guid = some invite ∨ directory.registry.Free guid) :
    SingleGroups { directory with pending := pending } where
  one := h.one
  home := h.home
  free := fun guid invite hinvite hne =>
    (hfree guid invite hinvite hne).elim (fun hold => h.free guid invite hold hne) id

theorem lookup_createInvite {rank : ℕ → ℕ} {inviter : ObjectGuid} {inviterGroup : Option ℕ}
    {lookupCategory newCategory : ℕ}
    (h : AList.lookup guid (directory.registry.createInviteLikeCpp directory.pending rank inviter
      invitee inviterGroup lookupCategory newCategory).2 = some other) :
    directory.pending.lookup guid = some other ∨ other.leaderGuid = guid ∨
      guid = invitee ∧ directory.registry.Ungrouped lookupCategory invitee := by
  simp only [GroupRegistry.createInviteLikeCpp] at h
  split_ifs at h with hinvited hgrouped hmissing
  · exact Or.inl h
  · exact Or.inl h
  · exact Or.inl h
  have hungrouped : directory.registry.Ungrouped lookupCategory invitee :=
    ungrouped_iff.mpr (by simpa using hgrouped)
  have hinsert : ∀ {pending : PendingInvites} {invite : PendingInvite},
      AList.lookup guid (AList.insert invitee invite pending) = some other →
      pending.lookup guid = some other ∨ guid = invitee := by
    intro pending invite hlookup
    rw [Dict.lookup_insert_eq] at hlookup
    split_ifs at hlookup with heq
    · exact Or.inr heq
    · exact Or.inl hlookup
  cases hresolved : directory.registry.resolvedInviterGroupGuid rank inviter inviterGroup
    lookupCategory with
  | some groupGuid =>
    cases hgroup : directory.registry.groups.lookup groupGuid with
    | none => exact Or.inl (by simpa [hresolved, hgroup] using h)
    | some group =>
      simp only [hresolved, hgroup] at h
      split_ifs at h
      · exact Or.inl h
      · exact Or.inl h
      · exact Or.inl h
      · exact (hinsert h).imp_right fun heq => Or.inr ⟨heq, hungrouped⟩
  | none =>
    cases hreceived : directory.pending.lookup inviter with
    | some received =>
      simp only [hresolved, hreceived] at h
      exact (hinsert h).imp_right fun heq => Or.inr ⟨heq, hungrouped⟩
    | none =>
      simp only [hresolved, hreceived] at h
      rcases hinsert h with h | heq
      · rw [Dict.lookup_insert_eq] at h
        split_ifs at h with heq
        · exact Or.inr (Or.inl (Option.some.inj h ▸ heq.symm))
        · exact Or.inl h
      · exact Or.inr (Or.inr ⟨heq, hungrouped⟩)

/-- Every group descends from one under the same key that listed all its members. -/
def GroupRegistry.Shrinks (registry registry' : GroupRegistry) : Prop :=
  ∀ groupGuid group', registry'.groups.lookup groupGuid = some group' →
    ∃ group, registry.groups.lookup groupGuid = some group ∧
      group'.groupCategory = group.groupCategory ∧ group'.members ⊆ group.members

theorem shrinks_of_called {groupGuid : ℕ} {group : GroupInfo} {call : GroupCall}
    {result : GroupCallResult} (hgroup : registry.groups.lookup groupGuid = some group)
    (hcalled : Called group call result) :
    registry.Shrinks (registry.settle groupGuid group.dbStoreId result.1) := by
  intro other group' hgroup'
  rw [lookup_settle] at hgroup'
  by_cases heq : other = groupGuid
  · rw [if_pos heq] at hgroup'
    obtain ⟨left, intents⟩ := result
    obtain rfl : left = some group' := hgroup'
    obtain ⟨hidentity, hmembers⟩ := hcalled.identity
    refine ⟨group, heq ▸ hgroup, ?_, hmembers⟩
    exact congrArg (fun identity : ℕ × ℕ × ℕ => identity.2.2) hidentity
  · rw [if_neg heq] at hgroup'
    exact ⟨group', hgroup', rfl, List.Subset.refl _⟩

theorem SingleGroups.of_shrinks (h : SingleGroups directory)
    (hshrinks : directory.registry.Shrinks registry) :
    SingleGroups { directory with registry := registry } where
  one := fun g g' group group' guid hg hg' hmem hmem' => by
    obtain ⟨before, hbefore, -, hsub⟩ := hshrinks g group hg
    obtain ⟨before', hbefore', -, hsub'⟩ := hshrinks g' group' hg'
    exact h.one g g' before before' guid hbefore hbefore' (hsub hmem) (hsub' hmem')
  home := fun groupGuid group hgroup => by
    obtain ⟨before, hbefore, hcategory, -⟩ := hshrinks groupGuid group hgroup
    exact hcategory.trans (h.home groupGuid before hbefore)
  free := fun guid invite hinvite hne groupGuid group hgroup hmem => by
    obtain ⟨before, hbefore, -, hsub⟩ := hshrinks groupGuid group hgroup
    exact h.free guid invite hinvite hne groupGuid before hbefore (hsub hmem)

/-- Writing one home group keeps the invariant when each of its members was in that group
or in none, and nobody who was in none still holds a foreign invite. -/
theorem SingleGroups.of_insert (h : SingleGroups directory) {groupGuid : ℕ} {group : GroupInfo}
    (ids : Identifiers) (hhome : group.groupCategory = groupCategoryHome)
    (hmembers : ∀ guid ∈ group.members, ∀ other otherGroup,
      directory.registry.groups.lookup other = some otherGroup → other ≠ groupGuid →
        guid ∉ otherGroup.members)
    (hfree : ∀ guid invite, pending.lookup guid = some invite → invite.leaderGuid ≠ guid →
      directory.registry.Free guid ∧ guid ∉ group.members) :
    SingleGroups ⟨⟨directory.registry.groups.insert groupGuid group, ids⟩, pending⟩ := by
  have hlookup : ∀ {other : ℕ} {found : GroupInfo},
      AList.lookup other (directory.registry.groups.insert groupGuid group) = some found →
      other = groupGuid ∧ found = group ∨
        other ≠ groupGuid ∧ directory.registry.groups.lookup other = some found := by
    intro other found hfound
    rw [Dict.lookup_insert_eq] at hfound
    split_ifs at hfound with heq
    · exact Or.inl ⟨heq, (Option.some.inj hfound).symm⟩
    · exact Or.inr ⟨heq, hfound⟩
  constructor
  · intro g g' found found' guid hg hg' hmem hmem'
    rcases hlookup hg with ⟨rfl, rfl⟩ | ⟨hne, hold⟩ <;>
      rcases hlookup hg' with ⟨rfl, rfl⟩ | ⟨hne', hold'⟩
    · rfl
    · exact absurd hmem' (hmembers guid hmem g' found' hold' hne')
    · exact absurd hmem (hmembers guid hmem' g found hold hne)
    · exact h.one g g' found found' guid hold hold' hmem hmem'
  · intro other found hfound
    rcases hlookup hfound with ⟨rfl, rfl⟩ | ⟨-, hfound⟩
    · exact hhome
    · exact h.home other found hfound
  · intro guid invite hinvite hne other found hfound
    rcases hlookup hfound with ⟨rfl, rfl⟩ | ⟨-, hfound⟩
    · exact (hfree guid invite hinvite hne).2
    · exact (hfree guid invite hinvite hne).1 other found hfound

theorem SingleGroups.accept (h : SingleGroups directory) {partyIndex : Option ℕ}
    {available : Option ObjectGuid}
    (haccept : Accepted directory.registry directory.pending invitee partyIndex available registry
      pending)
    (hfounds : FoundsForFree directory (.acceptInvite invitee partyIndex available)) :
    SingleGroups ⟨registry, pending⟩ := by
  cases haccept with
  | refused => exact h
  | dropped => exact h.of_pending fun guid invite hinvite _ => Or.inl (lookup_erase_some hinvite).2
  | abandoned =>
    exact h.of_pending fun guid invite hinvite _ =>
      Or.inl (lookup_erase_some (lookup_removeMatching hinvite)).2
  | @joined invite groupGuid group joined hinvite hleader hguid hgroup hfull hadd =>
    obtain ⟨-, subgroup, counts, -, -, rfl⟩ := GroupInfo.addMember_eq hadd
    have hinviteeFree := h.free invitee invite hinvite hleader
    refine h.of_insert _ (h.home groupGuid group hgroup) ?_ ?_
    · intro guid hmem other otherGroup hother hne hmem'
      rcases List.mem_append.mp hmem with hmem | hmem
      · exact hne (h.one other groupGuid otherGroup group guid hother hgroup hmem' hmem)
      · exact hinviteeFree other otherGroup hother (List.mem_singleton.mp hmem ▸ hmem')
    · intro guid other hother hne
      obtain ⟨hguid', hold⟩ := lookup_erase_some hother
      have hguidFree := h.free guid other hold hne
      refine ⟨hguidFree, fun hmem => ?_⟩
      rcases List.mem_append.mp hmem with hmem | hmem
      · exact hguidFree groupGuid group hgroup hmem
      · exact hguid' (List.mem_singleton.mp hmem)
  | @founded invite hfounded =>
    have hinviteeFree := h.free invitee invite hfounded.received hfounded.not_self
    have hmem_founded : ∀ guid, guid ∈ ((directory.registry.newGroup
        invite.leaderGuid).1.founded invitee).members ↔
        guid = invite.leaderGuid ∨ guid = invitee := by
      intro guid
      simp [GroupInfo.founded, GroupRegistry.newGroup, GroupInfo.new]
    refine h.of_insert _ rfl ?_ ?_
    · intro guid hmem other otherGroup hother hne
      rcases (hmem_founded guid).mp hmem with rfl | rfl
      · exact hfounds invite hfounded other otherGroup hother hne
      · exact hinviteeFree other otherGroup hother
    · intro guid other hother hne
      have hold : guid ≠ invitee ∧ guid ≠ invite.leaderGuid ∧
          ∃ before, directory.pending.lookup guid = some before ∧ before.leaderGuid ≠ guid := by
        rcases lookup_promoteMatching hother with ⟨hmatch, rfl⟩ | hsame
        · obtain ⟨hleader, hmatch⟩ := lookup_erase_some hmatch
          obtain ⟨hinvitee, hmatch⟩ := lookup_erase_some hmatch
          exact ⟨hinvitee, hleader, invite, hmatch, Ne.symm hleader⟩
        · obtain ⟨hleader, hsame⟩ := lookup_erase_some hsame
          obtain ⟨hinvitee, hsame⟩ := lookup_erase_some hsame
          exact ⟨hinvitee, hleader, other, hsame, hne⟩
      obtain ⟨hinvitee, hleader, before, hbefore, hbeforeNe⟩ := hold
      refine ⟨h.free guid before hbefore hbeforeNe, fun hmem => ?_⟩
      exact ((hmem_founded guid).mp hmem).elim hleader hinvitee

theorem SingleGroups.step (h : SingleGroups directory) {op : GroupOp}
    (hinvites : InvitesUngrouped directory op) (hfounds : FoundsForFree directory op) :
    SingleGroups (directory.step op) := by
  cases op with
  | createInvite rank inviter invitee inviterGroup lookupCategory newCategory =>
    refine h.of_pending fun guid invite hinvite hne => ?_
    rcases lookup_createInvite hinvite with hold | hown | ⟨rfl, hungrouped⟩
    · exact Or.inl hold
    · exact absurd hown hne
    · obtain rfl : lookupCategory = groupCategoryHome := hinvites
      exact Or.inr (h.ungrouped_iff_free.mp hungrouped)
  | acceptInvite invitee partyIndex available =>
    exact h.accept (accepted_of_accept directory.registry directory.pending invitee partyIndex
      available) hfounds
  | declineInvite invitee partyIndex =>
    exact h.of_pending fun guid invite hinvite _ => Or.inl (lookup_decline hinvite)
  | cancelInvite invitee expected =>
    exact h.of_pending fun guid invite hinvite _ => Or.inl (lookup_cancel hinvite)
  | expireInvite invitee expected =>
    exact h.of_pending fun guid invite hinvite _ => Or.inl (lookup_cancel hinvite)
  | replaceInvite invitee expected replacement =>
    refine h.of_pending fun guid invite hinvite hne => ?_
    rcases lookup_replace hinvite with hold | ⟨rfl, hheld⟩ | hown
    · exact Or.inl hold
    · exact Or.inr (hinvites hheld)
    · exact absurd hown hne
  | cancelPendingGroup expected =>
    exact h.of_pending fun guid invite hinvite _ => Or.inl (lookup_removeMatching hinvite)
  | call groupGuid call =>
    cases htransition : directory.registry.transition groupGuid call with
    | error error =>
      simp only [GroupDirectory.step, htransition]
      exact h
    | ok result =>
      obtain ⟨group, left, hgroup, hcalled, rfl⟩ := called_of_transition htransition
      simp only [GroupDirectory.step, htransition]
      exact h.of_shrinks (shrinks_of_called hgroup hcalled)

theorem singleGroups_initial : SingleGroups GroupDirectory.initial where
  one := fun g g' group group' guid hg => by cases hg
  home := fun groupGuid group hgroup => by cases hgroup
  free := fun guid invite hinvite => by cases hinvite

/-- Founding a group for a leader with another group puts the leader in both. -/
theorem foundsForFree_of_atMostOneGroup (directory : GroupDirectory) (op : GroupOp)
    (h : (directory.step op).registry.AtMostOneGroup) : FoundsForFree directory op := by
  cases op with
  | acceptInvite invitee partyIndex available =>
    intro invite hfounds groupGuid group hgroup hne hmem
    have hregistry : (directory.step (.acceptInvite invitee partyIndex available)).registry =
        (directory.registry.newGroup invite.leaderGuid).2.found
          ((directory.registry.newGroup invite.leaderGuid).1.founded invitee) :=
      congrArg Prod.fst (acceptInvite_of_founds hfounds directory.registry)
    rw [hregistry] at h
    refine hne (h groupGuid directory.registry.ids.nextGroupId group
      ((directory.registry.newGroup invite.leaderGuid).1.founded invitee) invite.leaderGuid
      ?_ ?_ hmem ?_)
    · exact (Dict.lookup_insert_eq _ _ _ _).trans ((if_neg hne).trans hgroup)
    · exact (Dict.lookup_insert_eq _ _ _ _).trans (if_pos rfl)
    · simp [GroupInfo.founded, GroupRegistry.newGroup, GroupInfo.new]
  | createInvite => trivial
  | declineInvite => trivial
  | cancelInvite => trivial
  | expireInvite => trivial
  | replaceInvite => trivial
  | cancelPendingGroup => trivial
  | call => trivial

/-- In every run that looks invites up among the home groups and replaces none for a player
with a group, no player is ever in two groups if and only if no accepted invite founds a
group for a leader whom another group lists. -/
theorem atMostOneGroup_iff (ops : List GroupOp)
    (h : EachStep GroupDirectory.step InvitesUngrouped GroupDirectory.initial ops) :
    (∀ ops', ops' <+: ops →
        (run GroupDirectory.step GroupDirectory.initial ops').registry.AtMostOneGroup) ↔
      EachStep GroupDirectory.step FoundsForFree GroupDirectory.initial ops := by
  constructor
  · exact EachStep.of_prefixes (fun directory : GroupDirectory => directory.registry.AtMostOneGroup)
      foundsForFree_of_atMostOneGroup
  · intro hfounds ops' hinit
    have hrun := run_invariant SingleGroups
      (fun directory op hsingle (hgood : InvitesUngrouped directory op ∧ FoundsForFree directory op) =>
        hsingle.step hgood.1 hgood.2)
      singleGroups_initial ((h.and hfounds).of_initial hinit)
    exact hrun.one

/-- The first player invites the second, gives up the own invite by accepting it, joins the
fourth and is then made to lead a group with the second. -/
def twoGroupOps : List GroupOp :=
  [.createInvite (fun _ => 0) (player 1) (player 2) none groupCategoryHome groupCategoryHome,
    .acceptInvite (player 1) none (some (player 1)),
    .createInvite (fun _ => 0) (player 4) (player 1) none groupCategoryHome groupCategoryHome,
    .acceptInvite (player 1) none (some (player 4)),
    .acceptInvite (player 2) none (some (player 1))]

theorem player_in_two_groups :
    EachStep GroupDirectory.step InvitesUngrouped GroupDirectory.initial twoGroupOps ∧
      ¬ (run GroupDirectory.step GroupDirectory.initial twoGroupOps).registry.AtMostOneGroup := by
  refine ⟨⟨rfl, trivial, rfl, trivial, trivial, trivial⟩, fun h => ?_⟩
  have hmembers : ((run GroupDirectory.step GroupDirectory.initial
      twoGroupOps).registry.groups.lookup 1).map GroupInfo.members = some [player 4, player 1] ∧
      ((run GroupDirectory.step GroupDirectory.initial
        twoGroupOps).registry.groups.lookup 2).map GroupInfo.members = some [player 1, player 2] := by
    decide
  obtain ⟨group, hgroup, hlisted⟩ := Option.map_eq_some_iff.mp hmembers.1
  obtain ⟨group', hgroup', hlisted'⟩ := Option.map_eq_some_iff.mp hmembers.2
  have hsame := h 1 2 group group' (player 1) hgroup hgroup' (by simp [hlisted]) (by simp [hlisted'])
  exact absurd hsame (by decide)

/-- The second player accepts the invite of the first. -/
def oneGroupOps : List GroupOp :=
  [.createInvite (fun _ => 0) (player 1) (player 2) none groupCategoryHome groupCategoryHome,
    .acceptInvite (player 2) none (some (player 1))]

theorem atMostOneGroup_sample :
    EachStep GroupDirectory.step FoundsForFree GroupDirectory.initial oneGroupOps ∧
    ∀ ops', ops' <+: oneGroupOps →
      (run GroupDirectory.step GroupDirectory.initial ops').registry.AtMostOneGroup := by
  have hfounds : EachStep GroupDirectory.step FoundsForFree GroupDirectory.initial oneGroupOps := by
    refine ⟨trivial, ?_, trivial⟩
    intro invite hfounds groupGuid group hgroup
    cases hgroup
  exact ⟨hfounds, (atMostOneGroup_iff oneGroupOps ⟨rfl, trivial, trivial⟩).mpr hfounds⟩

end RustyCore.Group
