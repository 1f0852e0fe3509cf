import RustyCore.Verification.Group.Steps

/-! # Persistent group ids

A persistent id is given out when it was freed, or when the counter reaches it. As long
as every id in use lies below the counter, no id is given out twice. -/

namespace RustyCore.Group

/-! ## Properties of a registry -/

/-- Groups have different persistent ids, and each id is looked up as its own group. -/
structure GroupRegistry.IdsConsistent (registry : GroupRegistry) : Prop where
  distinct : ∀ g g' group group', registry.groups.lookup g = some group →
    registry.groups.lookup g' = some group' → group.dbStoreId = group'.dbStoreId → g = g'
  found : ∀ g group, registry.groups.lookup g = some group →
    registry.getGroupByDbStoreIdLikeCpp group.dbStoreId = some group

/-- The counter `next` has given this id out, or it has run past its width. -/
def Drawn (next id : ℕ) : Prop := next = 0 ∨ id < next

/-- What the allocators guarantee about the registered groups. -/
structure IdsInvariant (registry : GroupRegistry) : Prop where
  key : ∀ g group, registry.groups.lookup g = some group → group.groupGuid = g
  runtime : ∀ g group, registry.groups.lookup g = some group → Drawn registry.ids.nextGroupId g
  drawn : ∀ g group, registry.groups.lookup g = some group →
    Drawn registry.ids.nextGroupDbStoreId group.dbStoreId
  alive : ∀ g group, registry.groups.lookup g = some group →
    group.dbStoreId ∉ registry.ids.freedGroupDbStoreIds
  indexed : ∀ g group, registry.groups.lookup g = some group →
    registry.ids.groupDbStore.lookup group.dbStoreId = some g
  freed_drawn : ∀ id ∈ registry.ids.freedGroupDbStoreIds, Drawn registry.ids.nextGroupDbStoreId id
  freed_nodup : registry.ids.freedGroupDbStoreIds.Nodup
  runtime_lt : registry.ids.nextGroupId < 2 ^ 64
  store_lt : registry.ids.nextGroupDbStoreId < 2 ^ 32

theorem IdsInvariant.distinct {registry : GroupRegistry} (h : IdsInvariant registry) {g g' : ℕ}
    {group group' : GroupInfo} (hg : registry.groups.lookup g = some group)
    (hg' : registry.groups.lookup g' = some group') (heq : group.dbStoreId = group'.dbStoreId) :
    g = g' := by
  have hindex := h.indexed g group hg
  rw [heq, h.indexed g' group' hg'] at hindex
  exact (Option.some.inj hindex).symm

theorem IdsInvariant.consistent {registry : GroupRegistry} (h : IdsInvariant registry) :
    registry.IdsConsistent where
  distinct := fun _ _ _ _ hg hg' heq => h.distinct hg hg' heq
  found := fun g group hg => by
    rw [GroupRegistry.getGroupByDbStoreIdLikeCpp, Identifiers.groupGuidByDbStoreIdLikeCpp,
      h.indexed g group hg]
    exact hg

/-! ## Drawing an id -/

/-- Neither counter has run past its width where it is needed. -/
def Identifiers.CanDraw (ids : Identifiers) : Prop :=
  ids.nextGroupId ≠ 0 ∧ (ids.freedGroupDbStoreIds ≠ [] ∨ ids.nextGroupDbStoreId ≠ 0)

theorem drawn_next {w next : ℕ} (hlt : next < 2 ^ w) {id : ℕ}
    (hid : id ≤ next) : Drawn (wrappingAdd w next 1) id := by
  unfold Drawn wrappingAdd
  by_cases hlast : next + 1 = 2 ^ w
  · left
    rw [hlast, Nat.mod_self]
  · right
    rw [Nat.mod_eq_of_lt (by omega)]
    omega

theorem Drawn.next {w next id : ℕ} (h : Drawn next id) (hnext : next ≠ 0) (hlt : next < 2 ^ w) :
    Drawn (wrappingAdd w next 1) id :=
  drawn_next hlt (by
    rcases h with hzero | hid
    · exact absurd hzero hnext
    · omega)

theorem Drawn.ne {next id : ℕ} (h : Drawn next id) (hnext : next ≠ 0) : id ≠ next := by
  rcases h with hzero | hid
  · exact absurd hzero hnext
  · exact Nat.ne_of_lt hid

/-- A persistent id was taken from `ids`, which became `ids'`. -/
structure TookId (ids : Identifiers) (id : ℕ) (ids' : Identifiers) : Prop where
  fresh : ∀ other, Drawn ids.nextGroupDbStoreId other → other ∉ ids.freedGroupDbStoreIds →
    other ≠ id
  drawn : Drawn ids'.nextGroupDbStoreId id
  mono : ∀ other, Drawn ids.nextGroupDbStoreId other → Drawn ids'.nextGroupDbStoreId other
  freed : ids'.freedGroupDbStoreIds ⊆ ids.freedGroupDbStoreIds
  freed_nodup : ids'.freedGroupDbStoreIds.Nodup
  unfreed : id ∉ ids'.freedGroupDbStoreIds
  store_lt : ids'.nextGroupDbStoreId < 2 ^ 32
  index : ids'.groupDbStore = ids.groupDbStore
  runtime : ids'.nextGroupId = ids.nextGroupId

theorem tookId_of_generate {ids : Identifiers}
    (hdraw : ids.freedGroupDbStoreIds ≠ [] ∨ ids.nextGroupDbStoreId ≠ 0)
    (hfreed : ∀ id ∈ ids.freedGroupDbStoreIds, Drawn ids.nextGroupDbStoreId id)
    (hnodup : ids.freedGroupDbStoreIds.Nodup) (hlt : ids.nextGroupDbStoreId < 2 ^ 32) :
    TookId ids ids.generateGroupDbStoreIdLikeCpp.1 ids.generateGroupDbStoreIdLikeCpp.2 := by
  unfold Identifiers.generateGroupDbStoreIdLikeCpp
  cases hmin : ids.freedGroupDbStoreIds.min? with
  | some id =>
    have hmem : id ∈ ids.freedGroupDbStoreIds := List.min?_mem hmin
    exact
      { fresh := fun other _ hother heq => hother (heq ▸ hmem)
        drawn := hfreed id hmem
        mono := fun _ h => h
        freed := List.erase_subset
        freed_nodup := hnodup.erase id
        unfreed := fun h => (hnodup.mem_erase_iff.mp h).1 rfl
        store_lt := hlt
        index := rfl
        runtime := rfl }
  | none =>
    have hnil : ids.freedGroupDbStoreIds = [] := List.min?_eq_none_iff.mp hmin
    have hnext : ids.nextGroupDbStoreId ≠ 0 := hdraw.resolve_left (fun h => h hnil)
    exact
      { fresh := fun other h _ => h.ne hnext
        drawn := drawn_next hlt le_rfl
        mono := fun _ h => h.next hnext hlt
        freed := List.Subset.refl _
        freed_nodup := hnodup
        unfreed := by simp [hnil]
        store_lt := Nat.mod_lt _ (Nat.two_pow_pos 32)
        index := rfl
        runtime := rfl }

/-! ## Steps -/

theorem newGroup_eq (registry : GroupRegistry) (leader : ObjectGuid) :
    registry.newGroup leader =
      (GroupInfo.new registry.ids.nextGroupId registry.ids.generateGroupDbStoreIdLikeCpp.1 leader,
        { registry with
          ids := { registry.ids.generateGroupDbStoreIdLikeCpp.2 with
            nextGroupId := wrappingAdd 64 registry.ids.nextGroupId 1 } }) := by
  simp only [GroupRegistry.newGroup, Identifiers.generateGroupIdLikeCpp,
    Identifiers.generateGroupDbStoreIdLikeCpp]
  cases registry.ids.freedGroupDbStoreIds.min? <;> rfl

namespace IdsInvariant

variable {registry : GroupRegistry}

theorem lookup_next (h : IdsInvariant registry) (hnext : registry.ids.nextGroupId ≠ 0) :
    registry.groups.lookup registry.ids.nextGroupId = none := by
  cases hlookup : registry.groups.lookup registry.ids.nextGroupId with
  | none => rfl
  | some group => exact absurd rfl ((h.runtime _ group hlookup).ne hnext)

theorem add (h : IdsInvariant registry) (hnext : registry.ids.nextGroupId ≠ 0) {id : ℕ}
    {ids : Identifiers} (htook : TookId registry.ids id ids) {group : GroupInfo}
    (hguid : group.groupGuid = registry.ids.nextGroupId) (hid : group.dbStoreId = id) :
    IdsInvariant
      (GroupRegistry.found
        { registry with
          ids := { ids with nextGroupId := wrappingAdd 64 registry.ids.nextGroupId 1 } } group) := by
  have hlookup : ∀ g other,
      (AList.insert group.groupGuid group registry.groups).lookup g = some other →
      (g = registry.ids.nextGroupId ∧ other = group) ∨
        (g ≠ registry.ids.nextGroupId ∧ registry.groups.lookup g = some other) := by
    intro g other hg
    rw [Dict.lookup_insert_eq, hguid] at hg
    split_ifs at hg with hkey
    · exact .inl ⟨hkey, (Option.some.inj hg).symm⟩
    · exact .inr ⟨hkey, hg⟩
  refine ⟨?_, ?_, ?_, ?_, ?_, ?_, htook.freed_nodup, Nat.mod_lt _ (Nat.two_pow_pos 64),
    htook.store_lt⟩
  · intro g other hg
    rcases hlookup g other hg with ⟨rfl, rfl⟩ | ⟨-, hg⟩
    · exact hguid
    · exact h.key g other hg
  · intro g other hg
    rcases hlookup g other hg with ⟨rfl, -⟩ | ⟨-, hg⟩
    · exact drawn_next h.runtime_lt le_rfl
    · exact (h.runtime g other hg).next hnext h.runtime_lt
  · intro g other hg
    rcases hlookup g other hg with ⟨-, rfl⟩ | ⟨-, hg⟩
    · exact hid ▸ htook.drawn
    · exact htook.mono _ (h.drawn g other hg)
  · intro g other hg
    rcases hlookup g other hg with ⟨-, rfl⟩ | ⟨-, hg⟩
    · exact hid ▸ htook.unfreed
    · exact fun hmem => h.alive g other hg (htook.freed hmem)
  · intro g other hg
    change (AList.insert group.dbStoreId group.groupGuid ids.groupDbStore).lookup other.dbStoreId =
      some g
    rw [Dict.lookup_insert_eq, hguid, hid, htook.index]
    rcases hlookup g other hg with ⟨rfl, rfl⟩ | ⟨-, hg⟩
    · rw [if_pos hid]
    · rw [if_neg (htook.fresh _ (h.drawn g other hg) (h.alive g other hg))]
      exact h.indexed g other hg
  · exact fun id hmem => htook.mono id (h.freed_drawn id (htook.freed hmem))

theorem create (h : IdsInvariant registry) (hdraw : registry.ids.CanDraw) {leader : ObjectGuid}
    {group : GroupInfo} (hguid : group.groupGuid = (registry.newGroup leader).1.groupGuid)
    (hid : group.dbStoreId = (registry.newGroup leader).1.dbStoreId) :
    IdsInvariant ((registry.newGroup leader).2.found group) := by
  rw [newGroup_eq] at hguid hid ⊢
  exact h.add hdraw.1 (tookId_of_generate hdraw.2 h.freed_drawn h.freed_nodup h.store_lt) hguid hid

theorem replace (h : IdsInvariant registry) {g : ℕ} {group edited : GroupInfo}
    (hg : registry.groups.lookup g = some group) (hguid : edited.groupGuid = group.groupGuid)
    (hid : edited.dbStoreId = group.dbStoreId) :
    IdsInvariant { registry with groups := registry.groups.insert g edited } := by
  have hlookup : ∀ g' other, (AList.insert g edited registry.groups).lookup g' = some other →
      ∃ old, registry.groups.lookup g' = some old ∧ other.groupGuid = old.groupGuid ∧
        other.dbStoreId = old.dbStoreId := by
    intro g' other hg'
    rw [Dict.lookup_insert_eq] at hg'
    split_ifs at hg' with hkey
    · subst hkey
      obtain rfl := Option.some.inj hg'
      exact ⟨group, hg, hguid, hid⟩
    · exact ⟨other, hg', rfl, rfl⟩
  refine ⟨?_, ?_, ?_, ?_, ?_, h.freed_drawn, h.freed_nodup, h.runtime_lt, h.store_lt⟩ <;>
    intro g' other hg' <;> obtain ⟨old, hold, hguid', hid'⟩ := hlookup g' other hg'
  · exact hguid'.trans (h.key g' old hold)
  · exact h.runtime g' old hold
  · exact hid' ▸ h.drawn g' old hold
  · exact hid' ▸ h.alive g' old hold
  · exact hid' ▸ h.indexed g' old hold

theorem remove (h : IdsInvariant registry) {g : ℕ} {group : GroupInfo}
    (hg : registry.groups.lookup g = some group) :
    IdsInvariant
      { groups := registry.groups.erase g
        ids := registry.ids.freeGroupDbStoreIdLikeCpp group.dbStoreId } := by
  have hlookup : ∀ g' other, (AList.erase g registry.groups).lookup g' = some other →
      registry.groups.lookup g' = some other ∧ other.dbStoreId ≠ group.dbStoreId := by
    intro g' other hg'
    rw [Dict.lookup_erase_eq] at hg'
    split_ifs at hg' with hkey
    exact ⟨hg', fun heq => hkey (h.distinct hg' hg heq)⟩
  unfold Identifiers.freeGroupDbStoreIdLikeCpp
  by_cases hzero : group.dbStoreId = 0
  · simp only [hzero, if_true]
    refine ⟨?_, ?_, ?_, ?_, ?_, h.freed_drawn, h.freed_nodup, h.runtime_lt, h.store_lt⟩ <;>
      intro g' other hg' <;> have hold := (hlookup g' other hg').1
    · exact h.key g' other hold
    · exact h.runtime g' other hold
    · exact h.drawn g' other hold
    · exact h.alive g' other hold
    · exact h.indexed g' other hold
  · simp only [hzero, if_false]
    -- The id of a registered group is not among the freed ones.
    have hnew : registry.ids.freedGroupDbStoreIds.contains group.dbStoreId = false := by
      simpa using h.alive g group hg
    simp only [hnew, Bool.false_eq_true, if_false]
    refine ⟨?_, ?_, ?_, ?_, ?_, ?_, ?_, h.runtime_lt, h.store_lt⟩
    · exact fun g' other hg' => h.key g' other (hlookup g' other hg').1
    · exact fun g' other hg' => h.runtime g' other (hlookup g' other hg').1
    · exact fun g' other hg' => h.drawn g' other (hlookup g' other hg').1
    · intro g' other hg' hmem
      obtain ⟨hold, hne⟩ := hlookup g' other hg'
      rcases List.mem_append.mp hmem with hmem | hmem
      · exact h.alive g' other hold hmem
      · exact hne (List.mem_singleton.mp hmem)
    · intro g' other hg'
      obtain ⟨hold, hne⟩ := hlookup g' other hg'
      change (AList.erase group.dbStoreId registry.ids.groupDbStore).lookup _ = _
      rw [Dict.lookup_erase_eq, if_neg hne]
      exact h.indexed g' other hold
    · intro id hmem
      rcases List.mem_append.mp hmem with hmem | hmem
      · exact h.freed_drawn id hmem
      · exact List.mem_singleton.mp hmem ▸ h.drawn g group hg
    · refine List.nodup_append.mpr ⟨h.freed_nodup, List.nodup_singleton _, ?_⟩
      intro a ha b hb heq
      obtain rfl := List.mem_singleton.mp hb
      exact h.alive g group hg (heq ▸ ha)

end IdsInvariant

/-! ## Runs -/

/-- Creating, unregistering and every operation of the directory. -/
inductive StoreOp where
  | create (leader : ObjectGuid)
  | unregister (groupGuid : ℕ)
  | directory (op : GroupOp)

def storeStep (directory : GroupDirectory) : StoreOp → GroupDirectory
  | .create leader =>
    let (group, registry) := directory.registry.newGroup leader
    { directory with registry := registry.registerGroupLikeCpp group }
  | .unregister groupGuid =>
    { directory with registry := directory.registry.unregisterGroupLikeCpp groupGuid }
  | .directory op => directory.step op

/-- A step that creates a group finds its counters within their widths. -/
def NotExhausted (directory : GroupDirectory) : StoreOp → Prop
  | .create _ => directory.registry.ids.CanDraw
  | .unregister _ => True
  | .directory (.acceptInvite invitee partyIndex available) =>
    ∀ invite, Founds directory.pending invitee partyIndex available invite →
      directory.registry.ids.CanDraw
  | .directory _ => True

namespace IdsInvariant

variable {directory : GroupDirectory}

theorem register_create (h : IdsInvariant directory.registry)
    (hnext : directory.registry.ids.nextGroupId ≠ 0) (leader : ObjectGuid) :
    storeStep directory (.create leader) =
      { directory with
        registry := (directory.registry.newGroup leader).2.found
          (directory.registry.newGroup leader).1 } := by
  have hfree : (directory.registry.newGroup leader).2.groups.lookup
      (directory.registry.newGroup leader).1.groupGuid = none := h.lookup_next hnext
  simp only [storeStep, GroupRegistry.registerGroupLikeCpp, hfree, GroupRegistry.found]

theorem call (h : IdsInvariant directory.registry) (groupGuid : ℕ) (call : GroupCall) :
    IdsInvariant (directory.step (.call groupGuid call)).registry := by
  cases htransition : directory.registry.transition groupGuid call with
  | error error => simpa only [GroupDirectory.step, htransition] using h
  | ok result =>
    obtain ⟨group, ⟨left, intents⟩, hgroup, hcalled, rfl⟩ := called_of_transition htransition
    simp only [GroupDirectory.step, htransition]
    cases left with
    | none => exact h.remove hgroup
    | some kept =>
      have hidentity := hcalled.identity.1
      simp only [GroupInfo.identity, Prod.mk.injEq] at hidentity
      exact h.replace hgroup hidentity.1 hidentity.2.1

theorem accept (h : IdsInvariant directory.registry) {invitee : ObjectGuid}
    {partyIndex : Option ℕ} {available : Option ObjectGuid}
    (hdraw : NotExhausted directory (.directory (.acceptInvite invitee partyIndex available))) :
    IdsInvariant (directory.step (.acceptInvite invitee partyIndex available)).registry := by
  have haccepted := accepted_of_accept directory.registry directory.pending invitee partyIndex
    available
  change IdsInvariant (directory.registry.acceptInviteLikeCpp directory.pending invitee partyIndex
    available).2.1
  generalize (directory.registry.acceptInviteLikeCpp directory.pending invitee
    partyIndex available).2.1 = registry' at haccepted ⊢
  generalize (directory.registry.acceptInviteLikeCpp directory.pending invitee
    partyIndex available).2.2 = pending' at haccepted
  cases haccepted with
  | refused => exact h
  | dropped => exact h
  | abandoned => exact h
  | joined _ _ _ hgroup _ hadd =>
    obtain ⟨-, subgroup, counts, -, -, rfl⟩ := GroupInfo.addMember_eq hadd
    exact h.replace hgroup rfl rfl
  | founded hfounds => exact h.create (hdraw _ hfounds) rfl rfl

theorem step (h : IdsInvariant directory.registry) (op : StoreOp)
    (hdraw : NotExhausted directory op) : IdsInvariant (storeStep directory op).registry := by
  cases op with
  | create leader =>
    rw [h.register_create hdraw.1]
    exact h.create hdraw rfl rfl
  | unregister groupGuid =>
    simp only [storeStep, GroupRegistry.unregisterGroupLikeCpp]
    cases hgroup : directory.registry.groups.lookup groupGuid with
    | none => exact h
    | some group => exact h.remove hgroup
  | directory op =>
    cases op with
    | acceptInvite invitee partyIndex available => exact h.accept hdraw
    | call groupGuid call => exact h.call groupGuid call
    | createInvite => exact h
    | declineInvite => exact h
    | cancelInvite => exact h
    | expireInvite => exact h
    | replaceInvite => exact h
    | cancelPendingGroup => exact h

theorem run (h : IdsInvariant directory.registry) {ops : List StoreOp}
    (hops : EachStep storeStep NotExhausted directory ops) :
    IdsInvariant (run storeStep directory ops).registry :=
  run_invariant (fun directory => IdsInvariant directory.registry)
    (fun _ op hinv hop => hinv.step op hop) h hops

end IdsInvariant

end RustyCore.Group
