import RustyCore.Model.Group.Loading
import RustyCore.Verification.Group.StoreIds

/-! # Loaded persistent ids

Loading moves the counter past an id only if the id stands right before it. The counter
is past all loaded ids exactly if they are loaded as 1, 2, 3, … -/

namespace RustyCore.Group

variable {ids : List ℕ} {state : LoadState} {row : GroupDbRow}

/-! ## The counter -/

/-- The counter after an id was loaded. -/
def advance (next id : ℕ) : ℕ := if next = id then saturatingAdd 32 id 1 else next

/-- The counter after these ids were loaded at start-up. -/
def advanced (ids : List ℕ) : ℕ := ids.foldl advance 1

/-- Apart from zeros the ids are loaded as 1, 2, …, and the counter has room left. -/
def LoadedInOrder (ids : List ℕ) : Prop :=
  ∃ n, n + 1 < 2 ^ 32 ∧ ids.filter (· ≠ 0) = List.range' 1 n

theorem advanced_append (ids : List ℕ) (id : ℕ) :
    advanced (ids ++ [id]) = advance (advanced ids) id := List.foldl_append

theorem advanced_bounds (ids : List ℕ) : 1 ≤ advanced ids ∧ advanced ids < 2 ^ 32 := by
  induction ids using List.reverseRecOn with
  | nil => decide
  | append_singleton ids id ih =>
    rw [advanced_append, advance]
    split_ifs with h
    · unfold saturatingAdd
      omega
    · exact ih

theorem advanced_of_inOrder {n : ℕ} (hn : n + 1 < 2 ^ 32)
    (h : ids.filter (· ≠ 0) = List.range' 1 n) : advanced ids = n + 1 := by
  induction ids using List.reverseRecOn generalizing n with
  | nil =>
    have hlen := congrArg List.length h
    simp only [List.filter_nil, List.length_nil, List.length_range'] at hlen
    subst hlen
    rfl
  | append_singleton ids id ih =>
    rw [advanced_append, advance]
    by_cases hzero : id = 0
    · have hadvanced := ih hn (by simpa [hzero] using h)
      rw [if_neg (by omega), hadvanced]
    · rw [List.filter_append, List.filter_singleton] at h
      simp only [ne_eq, hzero, not_false_eq_true, decide_true] at h
      obtain ⟨m, rfl⟩ : ∃ m, n = m + 1 := by
        refine Nat.exists_eq_succ_of_ne_zero fun hn => ?_
        subst hn
        simp at h
      rw [List.range'_1_concat] at h
      obtain ⟨hinit, hlast⟩ := List.append_inj' h rfl
      have hadvanced := ih (by omega) hinit
      have hid : id = 1 + m := by simpa using hlast
      rw [if_pos (by omega), saturatingAdd_of_lt (by omega)]
      omega

theorem inOrder_of_lt (hnodup : ids.Nodup) (h : ∀ id ∈ ids, id < advanced ids) :
    LoadedInOrder ids := by
  induction ids using List.reverseRecOn with
  | nil => exact ⟨0, by decide, rfl⟩
  | append_singleton ids id ih =>
    obtain ⟨hids, -, hdisjoint⟩ := List.nodup_append.mp hnodup
    have hnew : id ∉ ids := fun hmem => hdisjoint id hmem id (by simp) rfl
    rw [advanced_append, advance] at h
    by_cases hnext : advanced ids = id
    · -- The new id is the one the counter stood at.
      simp only [hnext, if_true] at h
      have hlt := h id (by simp)
      have hbefore : ∀ other ∈ ids, other < advanced ids := by
        intro other hother
        have hother' := h other (by simp [hother])
        have hne : other ≠ id := fun heq => hnew (heq ▸ hother)
        have hle := saturatingAdd_le 32 id 1
        omega
      obtain ⟨n, hn, hfilter⟩ := ih hids hbefore
      have hadvanced := advanced_of_inOrder hn hfilter
      refine ⟨n + 1, ?_, ?_⟩
      · unfold saturatingAdd at hlt
        omega
      · rw [List.filter_append, hfilter, List.range'_1_concat, List.filter_singleton]
        have hid : id = 1 + n := by omega
        simp [hid]
    · -- The counter stays, so the new id is zero or was loaded before.
      simp only [hnext, if_false] at h
      obtain ⟨n, hn, hfilter⟩ := ih hids fun other hother => h other (by simp [hother])
      have hlt := h id (by simp)
      rw [advanced_of_inOrder hn hfilter] at hlt
      have hzero : id = 0 := by
        by_contra hzero
        have hmem : id ∈ ids.filter (· ≠ 0) := by
          rw [hfilter, List.mem_range'_1]
          omega
        exact hnew (List.mem_of_mem_filter hmem)
      refine ⟨n, hn, ?_⟩
      rw [List.filter_append, hfilter, hzero]
      simp

/-- The counter is past all loaded ids exactly if they were loaded in order. -/
theorem lt_advanced_iff (hnodup : ids.Nodup) :
    (∀ id ∈ ids, id < advanced ids) ↔ LoadedInOrder ids := by
  refine ⟨inOrder_of_lt hnodup, ?_⟩
  rintro ⟨n, hn, hfilter⟩ id hid
  rw [advanced_of_inOrder hn hfilter]
  by_cases hzero : id = 0
  · omega
  · have hmem : id ∈ ids.filter (· ≠ 0) := by simp [hid, hzero]
    rw [hfilter, List.mem_range'_1] at hmem
    omega

/-! ## Loading the rows -/

/-- The leader of the row is known and its three players have ids of a player. -/
def GroupDbRow.Loads (row : GroupDbRow) (characterCache : CharacterCache) : Bool :=
  (characterCache.lookup row.leaderGuidLow).isSome && decide (row.leaderGuidLow < 2 ^ 63) &&
    decide (row.looterGuidLow < 2 ^ 63) && decide (row.masterLooterGuidLow < 2 ^ 63)

def loadedStoreIds (characterCache : CharacterCache) (rows : List GroupDbRow) : List ℕ :=
  (rows.filter fun row => row.Loads characterCache).map GroupDbRow.dbStoreId

variable {characterCache : CharacterCache} (difficultyStore : GroupDifficultyValidator)

theorem loadGroupFromDbRow_of_loads (h : row.Loads characterCache = true) (runtimeGroupGuid : ℕ) :
    ∃ group, GroupInfo.loadGroupFromDbRowValidatedLikeCpp runtimeGroupGuid row
        (characterCache.lookup row.leaderGuidLow) difficultyStore = some group ∧
      group.groupGuid = runtimeGroupGuid ∧ group.dbStoreId = row.dbStoreId := by
  simp only [GroupDbRow.Loads, Bool.and_eq_true, decide_eq_true_eq] at h
  obtain ⟨⟨⟨hcached, hleader⟩, hlooter⟩, hmaster⟩ := h
  obtain ⟨character, hcharacter⟩ := Option.isSome_iff_exists.mp hcached
  simp only [GroupInfo.loadGroupFromDbRowValidatedLikeCpp, hcharacter, playerFromLow, hleader,
    hlooter, hmaster, if_true]
  exact ⟨_, rfl, rfl, rfl⟩

theorem loadGroupFromDbRow_of_not_loads (h : row.Loads characterCache = false)
    (runtimeGroupGuid : ℕ) :
    GroupInfo.loadGroupFromDbRowValidatedLikeCpp runtimeGroupGuid row
      (characterCache.lookup row.leaderGuidLow) difficultyStore = none := by
  rw [← Bool.not_eq_true, GroupDbRow.Loads] at h
  simp only [GroupInfo.loadGroupFromDbRowValidatedLikeCpp, playerFromLow]
  cases hcharacter : characterCache.lookup row.leaderGuidLow with
  | none => rfl
  | some character =>
    by_cases hleader : row.leaderGuidLow < 2 ^ 63
    · by_cases hlooter : row.looterGuidLow < 2 ^ 63
      · have hmaster : ¬ row.masterLooterGuidLow < 2 ^ 63 := fun hmaster =>
          h (by rw [hcharacter, decide_eq_true hleader, decide_eq_true hlooter,
            decide_eq_true hmaster]; rfl)
        simp only [hleader, hlooter, hmaster, if_true, if_false]
      · simp only [hleader, hlooter, if_true, if_false]
    · simp only [hleader, if_false]

variable {difficultyStore}

/-- The registry after `count` rows, of which those with these ids loaded. -/
structure LoadedRows (ids : List ℕ) (count : ℕ) (registry : GroupRegistry) : Prop where
  runtime : registry.ids.nextGroupId = count + 1
  next : registry.ids.nextGroupDbStoreId = advanced ids
  freed : registry.ids.freedGroupDbStoreIds = []
  key : ∀ g group, registry.groups.lookup g = some group → group.groupGuid = g
  key_lt : ∀ g group, registry.groups.lookup g = some group → g < count + 1
  mem : ∀ g group, registry.groups.lookup g = some group → group.dbStoreId ∈ ids
  indexed : ∀ g group, registry.groups.lookup g = some group →
    registry.ids.groupDbStore.lookup group.dbStoreId = some g
  loaded : ∀ id ∈ ids, ∃ g group, registry.groups.lookup g = some group ∧ group.dbStoreId = id

namespace LoadedRows

variable {ids : List ℕ} {count : ℕ} {registry : GroupRegistry}

theorem initial : LoadedRows [] 0 GroupRegistry.initial := by
  refine ⟨rfl, rfl, rfl, ?_, ?_, ?_, ?_, by simp⟩ <;> intro g group hg <;> cases hg

theorem skip (h : LoadedRows ids count registry) (hcount : count + 2 < 2 ^ 64) :
    LoadedRows ids (count + 1)
      { registry with ids := registry.ids.generateGroupIdLikeCpp.2 } where
  runtime := by
    change wrappingAdd 64 registry.ids.nextGroupId 1 = _
    rw [h.runtime, wrappingAdd, Nat.mod_eq_of_lt (by omega)]
  next := h.next
  freed := h.freed
  key := h.key
  key_lt := fun g group hg => Nat.lt_succ_of_lt (h.key_lt g group hg)
  mem := h.mem
  indexed := h.indexed
  loaded := h.loaded

theorem register (h : LoadedRows ids (count + 1) registry)
    (hfree : registry.groups.lookup (count + 1) = none) {group : GroupInfo}
    (hguid : group.groupGuid = count + 1) {id : ℕ} (hid : group.dbStoreId = id) (hnew : id ∉ ids) :
    LoadedRows (ids ++ [id]) (count + 1)
      { registry.registerGroupLikeCpp group with
        ids := ((registry.registerGroupLikeCpp group).ids.registerGroupDbStoreIdLikeCpp id
          group.groupGuid).advanceNextGroupDbStoreIdAfterLoadLikeCpp id } := by
  have hregister : registry.registerGroupLikeCpp group = registry.found group := by
    have hfree' : registry.groups.lookup group.groupGuid = none := hguid ▸ hfree
    simp only [GroupRegistry.registerGroupLikeCpp, hfree', GroupRegistry.found]
  rw [hregister]
  have hlookup : ∀ g other, (registry.found group).groups.lookup g = some other →
      (g = count + 1 ∧ other = group) ∨ (g ≠ count + 1 ∧ registry.groups.lookup g = some other) := by
    intro g other hg
    rw [GroupRegistry.found, Dict.lookup_insert_eq, hguid] at hg
    split_ifs at hg with hkey
    · exact .inl ⟨hkey, (Option.some.inj hg).symm⟩
    · exact .inr ⟨hkey, hg⟩
  have hids : ∀ ids' : Identifiers, ∃ next,
      ids'.advanceNextGroupDbStoreIdAfterLoadLikeCpp id = { ids' with nextGroupDbStoreId := next } ∧
        next = advance ids'.nextGroupDbStoreId id := by
    intro ids'
    refine ⟨_, ?_, rfl⟩
    unfold Identifiers.advanceNextGroupDbStoreIdAfterLoadLikeCpp advance
    split_ifs <;> rfl
  obtain ⟨next, heq, hnext⟩ := hids
    ((registry.found group).ids.registerGroupDbStoreIdLikeCpp id group.groupGuid)
  rw [heq]
  refine ⟨h.runtime, ?_, h.freed, ?_, ?_, ?_, ?_, ?_⟩
  · rw [advanced_append, ← h.next]
    exact hnext
  · intro g other hg
    rcases hlookup g other hg with ⟨rfl, rfl⟩ | ⟨-, hg⟩
    · exact hguid
    · exact h.key g other hg
  · intro g other hg
    rcases hlookup g other hg with ⟨rfl, -⟩ | ⟨-, hg⟩
    · omega
    · exact h.key_lt g other hg
  · intro g other hg
    rcases hlookup g other hg with ⟨-, rfl⟩ | ⟨-, hg⟩
    · simp [hid]
    · exact List.mem_append_left _ (h.mem g other hg)
  · intro g other hg
    change (AList.insert id group.groupGuid (AList.insert group.dbStoreId group.groupGuid
      registry.ids.groupDbStore)).lookup other.dbStoreId = some g
    rw [hid, hguid, AList.insert_insert, Dict.lookup_insert_eq]
    rcases hlookup g other hg with ⟨rfl, rfl⟩ | ⟨-, hg⟩
    · rw [if_pos hid]
    · have hother : other.dbStoreId ≠ id := fun heq => hnew (heq ▸ h.mem g other hg)
      rw [if_neg hother]
      exact h.indexed g other hg
  · intro other hother
    rcases List.mem_append.mp hother with hother | hother
    · obtain ⟨g, old, hg, hold⟩ := h.loaded other hother
      refine ⟨g, old, ?_, hold⟩
      have hne : g ≠ count + 1 := fun hkey => by
        rw [hkey, hfree] at hg
        cases hg
      rw [GroupRegistry.found, Dict.lookup_insert_eq, hguid, if_neg hne]
      exact hg
    · obtain rfl := List.mem_singleton.mp hother
      refine ⟨count + 1, group, ?_, hid⟩
      rw [GroupRegistry.found, Dict.lookup_insert_eq, hguid, if_pos rfl]

theorem groupRow (h : LoadedRows ids count state.registry) (hcount : count + 2 < 2 ^ 64)
    (hnew : row.Loads characterCache = true → row.dbStoreId ∉ ids) :
    LoadedRows (ids ++ loadedStoreIds characterCache [row]) (count + 1)
      (loadGroupRow characterCache difficultyStore state row).registry := by
  have hskip := h.skip hcount
  cases hloads : row.Loads characterCache with
  | false =>
    have hnone := loadGroupFromDbRow_of_not_loads difficultyStore hloads
      state.registry.ids.nextGroupId
    simpa [loadGroupRow, loadedStoreIds, hloads, Identifiers.generateGroupIdLikeCpp, hnone]
      using hskip
  | true =>
    obtain ⟨group, hsome, hguid, hid⟩ := loadGroupFromDbRow_of_loads difficultyStore hloads
      state.registry.ids.nextGroupId
    have hfree : state.registry.groups.lookup (count + 1) = none := by
      cases hlookup : state.registry.groups.lookup (count + 1) with
      | none => rfl
      | some other => exact absurd (h.key_lt _ other hlookup) (lt_irrefl _)
    have hregister := hskip.register hfree (hguid.trans h.runtime) hid (hnew hloads)
    simpa [loadGroupRow, loadedStoreIds, hloads, Identifiers.generateGroupIdLikeCpp, hsome]
      using hregister

theorem groupRows (h : LoadedRows [] 0 state.registry) {rows : List GroupDbRow}
    (hnodup : (rows.map GroupDbRow.dbStoreId).Nodup) (hcount : rows.length + 1 < 2 ^ 64) :
    LoadedRows (loadedStoreIds characterCache rows) rows.length
      (rows.foldl (loadGroupRow characterCache difficultyStore) state).registry := by
  induction rows using List.reverseRecOn with
  | nil => exact h
  | append_singleton rows row ih =>
    rw [List.length_append, List.length_singleton] at hcount
    rw [List.map_append, List.nodup_append] at hnodup
    obtain ⟨hrows, -, hdisjoint⟩ := hnodup
    rw [List.foldl_append, List.length_append, List.length_singleton]
    have hsplit : loadedStoreIds characterCache (rows ++ [row]) =
        loadedStoreIds characterCache rows ++ loadedStoreIds characterCache [row] := by
      simp [loadedStoreIds]
    rw [hsplit]
    refine (ih hrows (by omega)).groupRow (by omega) fun _ hmem => ?_
    obtain ⟨other, hother, heq⟩ := List.mem_map.mp hmem
    exact hdisjoint _ (List.mem_map_of_mem (List.mem_of_mem_filter hother)) _ (by simp) heq

theorem replace (h : LoadedRows ids count registry) {g : ℕ} {group edited : GroupInfo}
    (hg : registry.groups.lookup g = some group) (hidentity : edited.identity = group.identity) :
    LoadedRows ids count { registry with groups := registry.groups.insert g edited } := by
  simp only [GroupInfo.identity, Prod.mk.injEq] at hidentity
  have hlookup : ∀ g' other, (AList.insert g edited registry.groups).lookup g' = some other →
      ∃ old, registry.groups.lookup g' = some old ∧ other.groupGuid = old.groupGuid ∧
        other.dbStoreId = old.dbStoreId := by
    intro g' other hg'
    rw [Dict.lookup_insert_eq] at hg'
    split_ifs at hg' with hkey
    · subst hkey
      obtain rfl := Option.some.inj hg'
      exact ⟨group, hg, hidentity.1, hidentity.2.1⟩
    · exact ⟨other, hg', rfl, rfl⟩
  refine ⟨h.runtime, h.next, h.freed, ?_, ?_, ?_, ?_, ?_⟩
  · intro g' other hg'
    obtain ⟨old, hold, hguid, -⟩ := hlookup g' other hg'
    exact hguid.trans (h.key g' old hold)
  · intro g' other hg'
    obtain ⟨old, hold, -, -⟩ := hlookup g' other hg'
    exact h.key_lt g' old hold
  · intro g' other hg'
    obtain ⟨old, hold, -, hid⟩ := hlookup g' other hg'
    exact hid ▸ h.mem g' old hold
  · intro g' other hg'
    obtain ⟨old, hold, -, hid⟩ := hlookup g' other hg'
    exact hid ▸ h.indexed g' old hold
  · intro id hmem
    obtain ⟨g', old, hold, hid⟩ := h.loaded id hmem
    by_cases hkey : g' = g
    · subst hkey
      obtain rfl := Option.some.inj (hg.symm.trans hold)
      refine ⟨g', edited, ?_, hidentity.2.1.trans hid⟩
      rw [Dict.lookup_insert_eq, if_pos rfl]
    · refine ⟨g', old, ?_, hid⟩
      rw [Dict.lookup_insert_eq, if_neg hkey]
      exact hold

end LoadedRows

theorem loadMember_identity (group : GroupInfo) (guidLow : ℕ) (memberFlags : BitVec 8)
    (subgroup roles : ℕ) (character : Option GroupMemberCharacter) :
    (group.loadMemberFromDbLikeCpp guidLow memberFlags subgroup roles character).2.identity =
      group.identity := by
  unfold GroupInfo.loadMemberFromDbLikeCpp
  cases character with
  | none => rfl
  | some character =>
    cases playerFromLow guidLow with
    | none => rfl
    | some guid =>
      simp only
      split_ifs
      · rfl
      · obtain ⟨counts, hremove⟩ := group.removeMember_eq guid
        cases hcounted : (group.removeMember guid).subgroupCounterIncreaseLikeCpp subgroup with
        | none => simp only [hremove, GroupInfo.identity]
        | some counted =>
          obtain ⟨counts', rfl⟩ := GroupInfo.subgroupCounterIncrease_eq hcounted
          simp only [hremove, GroupInfo.identity]

namespace LoadedRows

variable {ids : List ℕ} {count : ℕ}

theorem memberRow (h : LoadedRows ids count state.registry) (row : GroupMemberDbRow) :
    LoadedRows ids count (loadMemberRow characterCache state row).registry := by
  unfold loadMemberRow
  cases hguid : state.registry.ids.groupGuidByDbStoreIdLikeCpp row.dbStoreId with
  | none => exact h
  | some g =>
    cases hg : state.registry.groups.lookup g with
    | none => simpa only [hg] using h
    | some group =>
      simp only [hg]
      exact h.replace hg (loadMember_identity group _ _ _ _ _)

theorem memberRows (h : LoadedRows ids count state.registry) (rows : List GroupMemberDbRow) :
    LoadedRows ids count (rows.foldl (loadMemberRow characterCache) state).registry := by
  induction rows generalizing state with
  | nil => exact h
  | cons row rows ih => exact ih (h.memberRow row)

end LoadedRows

/-- The directory after the rows were loaded into an empty registry at start-up. -/
def GroupDirectory.started (characterCache : CharacterCache)
    (difficultyStore : GroupDifficultyValidator) (groupRows : List GroupDbRow)
    (memberRows : List GroupMemberDbRow) : GroupDirectory where
  registry := (loadGroupsFromDbRowsLikeCpp characterCache difficultyStore GroupRegistry.initial
    groupRows memberRows).registry
  pending := ∅

theorem loadedRows_started (characterCache : CharacterCache)
    (difficultyStore : GroupDifficultyValidator) {groupRows : List GroupDbRow}
    (memberRows : List GroupMemberDbRow)
    (hnodup : (groupRows.map GroupDbRow.dbStoreId).Nodup)
    (hcount : groupRows.length + 1 < 2 ^ 64) :
    LoadedRows (loadedStoreIds characterCache groupRows) groupRows.length
      (GroupDirectory.started characterCache difficultyStore groupRows memberRows).registry := by
  have hrows : LoadedRows (loadedStoreIds characterCache groupRows) groupRows.length
      (groupRows.foldl (loadGroupRow characterCache difficultyStore)
        ⟨GroupRegistry.initial, ⟨0, 0, 0, 0, 0⟩⟩).registry :=
    LoadedRows.initial.groupRows hnodup hcount
  exact hrows.memberRows memberRows

/-! ## What follows from the loaded ids -/

namespace LoadedRows

variable {ids : List ℕ} {count : ℕ} {registry : GroupRegistry}

theorem idsInvariant (h : LoadedRows ids count registry) (hcount : count + 1 < 2 ^ 64)
    (hlt : ∀ id ∈ ids, id < advanced ids) : IdsInvariant registry where
  key := h.key
  runtime := fun g group hg => .inr (h.runtime ▸ h.key_lt g group hg)
  drawn := fun g group hg => .inr (h.next ▸ hlt _ (h.mem g group hg))
  alive := fun g group _ => by simp [h.freed]
  indexed := h.indexed
  freed_drawn := fun id hid => by simp [h.freed] at hid
  freed_nodup := by simp [h.freed]
  runtime_lt := h.runtime ▸ hcount
  store_lt := h.next ▸ (advanced_bounds ids).2

end LoadedRows

/-- The counters of a registry with no freed ids, and one of its groups. -/
structure Counting (runtime next g : ℕ) (group : GroupInfo) (directory : GroupDirectory) :
    Prop where
  runtime_eq : directory.registry.ids.nextGroupId = runtime
  next_eq : directory.registry.ids.nextGroupDbStoreId = next
  freed : directory.registry.ids.freedGroupDbStoreIds = []
  lookup : directory.registry.groups.lookup g = some group
  free : ∀ g', runtime ≤ g' → directory.registry.groups.lookup g' = none

namespace Counting

variable {runtime next g : ℕ} {group : GroupInfo} {directory : GroupDirectory}

theorem lt (h : Counting runtime next g group directory) : g < runtime := by
  by_contra hle
  have hnone := h.free g (Nat.le_of_not_lt hle)
  rw [h.lookup] at hnone
  cases hnone

theorem canDraw (h : Counting runtime next g group directory) (hruntime : 1 ≤ runtime)
    (hnext : 1 ≤ next) : directory.registry.ids.CanDraw :=
  ⟨by rw [h.runtime_eq]; omega, .inr (by rw [h.next_eq]; omega)⟩

theorem create (h : Counting runtime next g group directory) (leader : ObjectGuid) :
    storeStep directory (.create leader) =
      { directory with
        registry :=
          { groups := directory.registry.groups.insert runtime (GroupInfo.new runtime next leader)
            ids :=
              { directory.registry.ids with
                nextGroupId := wrappingAdd 64 runtime 1
                nextGroupDbStoreId := wrappingAdd 32 next 1
                groupDbStore := directory.registry.ids.groupDbStore.insert next runtime } } } := by
  have hmin : directory.registry.ids.freedGroupDbStoreIds.min? = none := by rw [h.freed]; rfl
  have hfree : directory.registry.groups.lookup directory.registry.ids.nextGroupId = none :=
    h.free _ h.runtime_eq.ge
  simp only [storeStep, GroupRegistry.newGroup, Identifiers.generateGroupIdLikeCpp,
    Identifiers.generateGroupDbStoreIdLikeCpp, hmin, h.runtime_eq, h.next_eq,
    GroupRegistry.registerGroupLikeCpp, GroupInfo.new, hfree,
    Identifiers.registerGroupDbStoreIdLikeCpp]

theorem step (h : Counting runtime next g group directory) (hruntime : runtime + 1 < 2 ^ 64)
    (hnext : next + 1 < 2 ^ 32) (leader : ObjectGuid) :
    Counting (runtime + 1) (next + 1) g group (storeStep directory (.create leader)) := by
  rw [h.create]
  refine ⟨Nat.mod_eq_of_lt hruntime, Nat.mod_eq_of_lt hnext, h.freed, ?_, ?_⟩
  · exact (Dict.lookup_insert_eq _ _ _ _).trans ((if_neg h.lt.ne).trans h.lookup)
  · intro g' hg'
    exact (Dict.lookup_insert_eq _ _ _ _).trans
      ((if_neg (by omega)).trans (h.free g' (by omega)))

/-- After enough creations the counter reaches an id at or past it. -/
theorem collide (h : Counting runtime next g group directory) (hruntime : 1 ≤ runtime)
    (hnext : 1 ≤ next) (leader : ObjectGuid) {gap : ℕ} (hid : group.dbStoreId = next + gap)
    (hstore : next + gap < 2 ^ 32) (hguid : runtime + gap < 2 ^ 64) :
    ∃ ops, EachStep storeStep NotExhausted directory ops ∧
      ¬ (run storeStep directory ops).registry.IdsConsistent := by
  induction gap generalizing runtime next directory with
  | zero =>
    refine ⟨[.create leader], ⟨h.canDraw hruntime hnext, trivial⟩, fun hconsistent => ?_⟩
    rw [run_cons, run_nil, h.create] at hconsistent
    have hnew : (AList.insert runtime (GroupInfo.new runtime next leader)
        directory.registry.groups).lookup runtime = some (GroupInfo.new runtime next leader) := by
      rw [Dict.lookup_insert_eq, if_pos rfl]
    have hold : (AList.insert runtime (GroupInfo.new runtime next leader)
        directory.registry.groups).lookup g = some group := by
      rw [Dict.lookup_insert_eq, if_neg h.lt.ne]
      exact h.lookup
    exact h.lt.ne (hconsistent.distinct g runtime group _ hold hnew hid)
  | succ gap ih =>
    obtain ⟨ops, hops, hbroken⟩ := ih (h.step (by omega) (by omega) leader) (by omega) (by omega)
      (by omega) (by omega) (by omega)
    exact ⟨.create leader :: ops, ⟨h.canDraw hruntime hnext, hops⟩, hbroken⟩

end Counting

/-! ## The main result -/

theorem length_le_of_nodup {bound : ℕ} (hnodup : ids.Nodup) (hlt : ∀ id ∈ ids, id < bound) :
    ids.length ≤ bound := by
  have hsub : ids ⊆ List.range bound := fun id hid => List.mem_range.mpr (hlt id hid)
  simpa using (hnodup.subperm hsub).length_le

/-- Persistent ids never collide, whatever is created and removed after start-up, exactly
if the ids of the loaded rows are 1, 2, 3, … in the order of the rows, zeros aside. -/
theorem storeIds_consistent_iff (characterCache : CharacterCache)
    (difficultyStore : GroupDifficultyValidator) (groupRows : List GroupDbRow)
    (memberRows : List GroupMemberDbRow) (hlt : ∀ row ∈ groupRows, row.dbStoreId < 2 ^ 32)
    (hnodup : (groupRows.map GroupDbRow.dbStoreId).Nodup) :
    (∀ ops, EachStep storeStep NotExhausted
        (GroupDirectory.started characterCache difficultyStore groupRows memberRows) ops →
      (run storeStep (GroupDirectory.started characterCache difficultyStore groupRows memberRows)
        ops).registry.IdsConsistent) ↔
      LoadedInOrder (loadedStoreIds characterCache groupRows) := by
  have hlength : groupRows.length ≤ 2 ^ 32 := by
    have hids : ∀ id ∈ groupRows.map GroupDbRow.dbStoreId, id < 2 ^ 32 := by
      intro id hid
      obtain ⟨row, hrow, rfl⟩ := List.mem_map.mp hid
      exact hlt row hrow
    simpa using length_le_of_nodup hnodup hids
  have hloaded := loadedRows_started characterCache difficultyStore memberRows hnodup (by omega)
  have hids : (loadedStoreIds characterCache groupRows).Nodup :=
    hnodup.sublist (List.filter_sublist.map _)
  rw [← lt_advanced_iff hids]
  constructor
  · intro hconsistent id hid
    by_contra hle
    obtain ⟨g, group, hg, rfl⟩ := hloaded.loaded id hid
    obtain ⟨row, hrow, hrowId⟩ := List.mem_map.mp hid
    have hbound := hlt row (List.mem_of_mem_filter hrow)
    have hcounting : Counting (groupRows.length + 1)
        (advanced (loadedStoreIds characterCache groupRows)) g group
        (GroupDirectory.started characterCache difficultyStore groupRows memberRows) := by
      refine ⟨hloaded.runtime, hloaded.next, hloaded.freed, hg, fun g' hg' => ?_⟩
      cases hlookup : (GroupDirectory.started characterCache difficultyStore groupRows
          memberRows).registry.groups.lookup g' with
      | none => rfl
      | some other => exact absurd (hloaded.key_lt g' other hlookup) (by omega)
    obtain ⟨gap, hgap⟩ := Nat.exists_eq_add_of_le (Nat.le_of_not_lt hle)
    obtain ⟨ops, hops, hbroken⟩ := hcounting.collide (by omega)
      (advanced_bounds (loadedStoreIds characterCache groupRows)).1 (player 1) hgap (by omega)
      (by omega)
    exact hbroken (hconsistent ops hops)
  · intro hbelow ops hops
    exact ((hloaded.idsInvariant (by omega) hbelow).run hops).consistent

/-- A row that loads when player 1 is cached. -/
def sampleRow (dbStoreId : ℕ) : GroupDbRow where
  leaderGuidLow := 1
  lootMethod := lootMethodPersonal
  looterGuidLow := 1
  lootThreshold := itemQualityUncommon
  groupFlags := 0
  dungeonDifficultyId := difficultyNormal
  raidDifficultyId := difficultyNormalRaid
  legacyRaidDifficultyId := difficulty10N
  masterLooterGuidLow := 0
  dbStoreId := dbStoreId
  lfgDungeonId := none
  lfgState := none

def sampleCache : CharacterCache := AList.singleton 1 ⟨"leader", 1, 1⟩

def GroupDifficultyValidator.identity : GroupDifficultyValidator := ⟨id, id, id⟩

theorem storeIds_consistent_sample :
    LoadedInOrder (loadedStoreIds sampleCache [sampleRow 1, sampleRow 2]) ∧
    ∀ ops, EachStep storeStep NotExhausted
        (GroupDirectory.started sampleCache .identity [sampleRow 1, sampleRow 2] []) ops →
      (run storeStep (GroupDirectory.started sampleCache .identity [sampleRow 1, sampleRow 2] [])
        ops).registry.IdsConsistent := by
  have hinOrder : LoadedInOrder (loadedStoreIds sampleCache [sampleRow 1, sampleRow 2]) :=
    ⟨2, by decide, by decide⟩
  exact ⟨hinOrder, (storeIds_consistent_iff sampleCache .identity [sampleRow 1, sampleRow 2] []
    (by decide) (by decide)).mpr hinOrder⟩

/-- After ids 1 and 3 were loaded, the second new group gets id 3 again. -/
theorem storeId_given_twice :
    ¬ (run storeStep (GroupDirectory.started sampleCache .identity [sampleRow 1, sampleRow 3] [])
      [.create (player 1), .create (player 1)]).registry.IdsConsistent :=
  fun hconsistent => absurd (hconsistent.distinct 2 4 _ _ rfl rfl rfl) (by decide)

end RustyCore.Group
