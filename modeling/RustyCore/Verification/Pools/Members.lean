import RustyCore.Library.DictSum
import RustyCore.Model.Pools.PoolMgr

/-! # Members of pools

The members of a pool are those of its three groups. What is asked of the managers, the
tally the counters have to agree with, and what adding and removing one member does to it. -/

namespace RustyCore.Pools

variable {poolId : ℕ} {spawns : SpawnedPoolData}

def PoolGroup.guids (group : PoolGroup) : List ℕ :=
  (group.explicitlyChanced ++ group.equalChanced).map PoolObject.guid

namespace PoolMgr

variable (mgr : PoolMgr)

def guids (kind : PoolMemberKind) (poolId : ℕ) : List ℕ :=
  ((mgr.group kind poolId).map PoolGroup.guids).getD []

def members (poolId : ℕ) : List (PoolMemberKind × ℕ) :=
  [PoolMemberKind.creature, .gameObject, .pool].flatMap fun kind =>
    (mgr.guids kind poolId).map fun guid => (kind, guid)

def Child (mother child : ℕ) : Prop := (.pool, child) ∈ mgr.members mother

/-- The groups are registered under their pools and have templates; no member is in two
places, and the pool relation is a forest of 32-bit ids, known from both sides. A pool has
no more members than its counter can count. -/
structure WellFormed : Prop where
  registered : ∀ kind poolId group, mgr.group kind poolId = some group →
    group.poolId = poolId ∧ group.memberKind = kind
  templates : ∀ kind poolId group, mgr.group kind poolId = some group →
    ∃ template, mgr.templates.lookup poolId = some template
  grouped : Grouped mgr.members
  parents : ∀ mother child,
    mgr.childPoolToParent.lookup child = some mother ↔ mgr.Child mother child
  acyclic : ∀ poolId, ¬ Relation.TransGen mgr.Child poolId poolId
  childIds : ∀ mother child, mgr.Child mother child → child < 2 ^ 32
  counted : ∀ poolId, (mgr.members poolId).length < 2 ^ 32

end PoolMgr

def SpawnedPoolData.isSpawned (spawns : SpawnedPoolData) : PoolMemberKind × ℕ → Bool
  | (.creature, guid) => spawns.isSpawnedCreature guid
  | (.gameObject, guid) => spawns.isSpawnedGameobject guid
  | (.pool, guid) => (childPoolIdOf guid).any spawns.isSpawnedPool

/-- Every counter is the number of spawned members of its pool. -/
def Exact (mgr : PoolMgr) (spawns : SpawnedPoolData) : Prop :=
  Tallies mgr.members spawns.isSpawned spawns.getSpawnedObjects

/-- The pool does not have more spawned objects than its template allows. -/
def WithinLimit (mgr : PoolMgr) (spawns : SpawnedPoolData) (poolId : ℕ) : Prop :=
  ∀ template, mgr.templates.lookup poolId = some template →
    spawns.getSpawnedObjects poolId ≤ template.maxLimit

/-- The pool is spawned itself, unless it is nobody's child. -/
def Placed (mgr : PoolMgr) (spawns : SpawnedPoolData) (poolId : ℕ) : Prop :=
  spawns.isSpawnedPool poolId = true ∨ ∀ mother, ¬ mgr.Child mother poolId

namespace PoolMgr

variable {mgr : PoolMgr}
variable {kind : PoolMemberKind}

@[simp] theorem mem_members {guid : ℕ} :
    (kind, guid) ∈ mgr.members poolId ↔ guid ∈ mgr.guids kind poolId := by
  cases kind <;> simp [members]

theorem guids_eq {group : PoolGroup} (h : mgr.group kind poolId = some group) :
    mgr.guids kind poolId = group.guids := by
  rw [guids, h]
  rfl

namespace WellFormed

variable (hmgr : mgr.WellFormed)
variable {mother child : ℕ}

include hmgr

theorem guids_nodup (kind : PoolMemberKind) (poolId : ℕ) : (mgr.guids kind poolId).Nodup := by
  have hsublist : ((mgr.guids kind poolId).map fun guid => (kind, guid)).Sublist
      (mgr.members poolId) :=
    List.sublist_flatten_of_mem (List.mem_map_of_mem (by cases kind <;> simp))
  exact ((hmgr.grouped.distinct poolId).sublist hsublist).of_map _

theorem irrefl (h : mgr.Child mother child) : child ≠ mother := by
  rintro rfl
  exact hmgr.acyclic child (.single h)

theorem oneMother {mother' : ℕ} (h : mgr.Child mother child) (h' : mgr.Child mother' child) :
    mother = mother' :=
  hmgr.grouped.oneGroup mother mother' (.pool, child) h h'

theorem childPoolIdOf_eq (h : mgr.Child mother child) : childPoolIdOf child = some child :=
  if_pos (hmgr.childIds mother child h)

theorem mother_not_below (h : mgr.Child mother child) :
    ¬ Relation.ReflTransGen mgr.Child child mother := fun hbelow =>
  hmgr.acyclic mother (Relation.TransGen.head' h hbelow)

theorem sibling_not_below {child' : ℕ} (h : mgr.Child mother child) (h' : mgr.Child mother child')
    (hne : child' ≠ child) : ¬ Relation.ReflTransGen mgr.Child child child' := by
  intro hbelow
  rcases Relation.ReflTransGen.cases_tail hbelow with heq | ⟨mother', hbelow', hlast⟩
  · exact hne heq
  · rw [hmgr.oneMother hlast h'] at hbelow'
    exact hmgr.mother_not_below h hbelow'

end WellFormed

end PoolMgr

/-! ## Marks and counters -/

theorem childPoolIdOf_any {guid : ℕ} (h : guid < 2 ^ 32) (f : ℕ → Bool) :
    (childPoolIdOf guid).any f = f guid := by
  rw [childPoolIdOf, if_pos h]
  rfl

theorem PoolGroup.isSpawnedInMap_eq (group : PoolGroup) (spawns : SpawnedPoolData) (guid : ℕ) :
    group.isSpawnedInMap spawns guid = spawns.isSpawned (group.memberKind, guid) := by
  rw [isSpawnedInMap]
  cases group.memberKind <;> rfl

theorem isSpawned_pool {mgr : PoolMgr} (hmgr : mgr.WellFormed) (spawns : SpawnedPoolData)
    {mother child : ℕ} (h : mgr.Child mother child) :
    spawns.isSpawned (.pool, child) = spawns.isSpawnedPool child :=
  childPoolIdOf_any (hmgr.childIds mother child h) _

theorem getSpawnedObjects_of_not_isSpawnedPool (h : spawns.isSpawnedPool poolId = false) :
    spawns.getSpawnedObjects poolId = 0 := by
  rw [SpawnedPoolData.isSpawnedPool, Option.isSome_eq_false_iff, Option.isNone_iff_eq_none] at h
  rw [SpawnedPoolData.getSpawnedObjects, h]
  rfl

theorem isSpawnedPool_of_pos (h : 0 < spawns.getSpawnedObjects poolId) :
    spawns.isSpawnedPool poolId = true := by
  by_contra hnot
  rw [getSpawnedObjects_of_not_isSpawnedPool (Bool.eq_false_iff.mpr hnot)] at h
  exact absurd h (lt_irrefl 0)

namespace SpawnedPoolData

@[simp] theorem isSpawnedCreature_addPoolSpawn (spawns : SpawnedPoolData) (sub poolId g : ℕ) :
    (spawns.addPoolSpawn sub poolId).isSpawnedCreature g = spawns.isSpawnedCreature g := rfl

@[simp] theorem isSpawnedGameobject_addPoolSpawn (spawns : SpawnedPoolData) (sub poolId g : ℕ) :
    (spawns.addPoolSpawn sub poolId).isSpawnedGameobject g = spawns.isSpawnedGameobject g := rfl

@[simp] theorem isSpawnedCreature_removePoolSpawn (spawns : SpawnedPoolData)
    (sub poolId g : ℕ) :
    (spawns.removePoolSpawn sub poolId).isSpawnedCreature g = spawns.isSpawnedCreature g := rfl

@[simp] theorem isSpawnedGameobject_removePoolSpawn (spawns : SpawnedPoolData)
    (sub poolId g : ℕ) :
    (spawns.removePoolSpawn sub poolId).isSpawnedGameobject g =
      spawns.isSpawnedGameobject g := rfl

end SpawnedPoolData

@[simp] theorem lookup_incrementPoolCounter (pools : Dict ℕ ℕ) (poolId q : ℕ) :
    (incrementPoolCounter pools poolId).lookup q =
      if q = poolId then some (((pools.lookup poolId).getD 0 + 1) % 2 ^ 32)
      else pools.lookup q :=
  Dict.lookup_insert_eq _ _ _ _

@[simp] theorem lookup_decrementPoolCounter (pools : Dict ℕ ℕ) (poolId q : ℕ) :
    (decrementPoolCounter pools poolId).lookup q =
      if q = poolId then some ((pools.lookup poolId).getD 0 - 1) else pools.lookup q := by
  rw [decrementPoolCounter, Dict.lookup_insert_eq]
  have hcounter : (if 0 < (pools.lookup poolId).getD 0 then (pools.lookup poolId).getD 0 - 1
      else (pools.lookup poolId).getD 0) = (pools.lookup poolId).getD 0 - 1 := by
    split <;> omega
  rw [hcounter]

/-! ## Programs on the spawned pool data -/

section Programs

variable {σ α β : Type} {s : PlanState σ}

theorem succeeds_readSpawns_bind {f : SpawnedPoolData → PlanM σ α} {post : α → PlanState σ → Prop}
    (h : Succeeds (f s.spawns) s post) : Succeeds (readSpawns >>= f) s post := h

theorem succeeds_tryWrite {post : Bool → PlanState σ → Prop}
    (h : post true { s with spawns := spawns }) : Succeeds (tryWrite (some spawns)) s post :=
  ⟨true, { s with spawns := spawns }, rfl, h⟩

theorem succeeds_draw_bind {closure : σ → α × σ} {f : α → PlanM σ β}
    {post : β → PlanState σ → Prop}
    (h : ∀ a dice, Succeeds (f a) { s with dice := dice } post) :
    Succeeds (draw closure >>= f) s post := h _ _

end Programs

/-! ## Changes of one member -/

/-- Member `x` of `poolId` is spawned, and nothing else is. -/
structure Added (mgr : PoolMgr) (spawns : SpawnedPoolData) (poolId : ℕ) (x : PoolMemberKind × ℕ)
    (spawns' : SpawnedPoolData) : Prop where
  marks : ∀ q, ∀ y ∈ mgr.members q,
    spawns'.isSpawned y = (spawns.isSpawned y || decide (y = x))
  counters : ∀ q, spawns'.getSpawnedObjects q =
    if q = poolId then spawns.getSpawnedObjects poolId + 1 else spawns.getSpawnedObjects q
  placed : spawns'.isSpawnedPool poolId = true
  pools : ∀ q, q ≠ poolId → (.pool, q) ≠ x →
    spawns'.spawnedPools.lookup q = spawns.spawnedPools.lookup q

/-- Member `x` of `poolId` is despawned, and nothing else is. -/
structure Removed (spawns : SpawnedPoolData) (poolId : ℕ) (x : PoolMemberKind × ℕ)
    (spawns' : SpawnedPoolData) : Prop where
  marks : ∀ y, spawns'.isSpawned y = (spawns.isSpawned y && !decide (y = x))
  counters : ∀ q, spawns'.getSpawnedObjects q =
    if q = poolId then spawns.getSpawnedObjects poolId - 1 else spawns.getSpawnedObjects q
  placed : spawns'.isSpawnedPool poolId = true
  pools : ∀ q, q ≠ poolId → (.pool, q) ≠ x →
    spawns'.spawnedPools.lookup q = spawns.spawnedPools.lookup q

section Changes

variable {σ : Type} {mgr : PoolMgr} (hmgr : mgr.WellFormed) {spawns spawns' : SpawnedPoolData}
  {poolId guid : ℕ} {x : PoolMemberKind × ℕ} {kind : PoolMemberKind} {group : PoolGroup}
variable {s : PlanState σ}

theorem Added.exact (hmgr : mgr.WellFormed) (h : Added mgr spawns poolId x spawns')
    (hexact : Exact mgr spawns) (hx : x ∈ mgr.members poolId)
    (hfree : spawns.isSpawned x = false) : Exact mgr spawns' :=
  hexact.mark hmgr.grouped hx hfree h.marks h.counters

theorem Removed.exact (hmgr : mgr.WellFormed) (h : Removed spawns poolId x spawns')
    (hexact : Exact mgr spawns) (hx : x ∈ mgr.members poolId)
    (hspawned : spawns.isSpawned x = true) : Exact mgr spawns' :=
  hexact.unmark hmgr.grouped hx hspawned (fun _ y _ => h.marks y) h.counters

theorem Exact.isSpawnedPool (hexact : Exact mgr spawns) (hx : x ∈ mgr.members poolId)
    (hspawned : spawns.isSpawned x = true) : spawns.isSpawnedPool poolId = true :=
  isSpawnedPool_of_pos (Tallies.pos hexact hx hspawned)

theorem Exact.placed (hexact : Exact mgr spawns) (hx : x ∈ mgr.members poolId)
    (hspawned : spawns.isSpawned x = true) : Placed mgr spawns poolId :=
  .inl (hexact.isSpawnedPool hx hspawned)

include hmgr

theorem added_of_lookup (hexact : Exact mgr spawns) (hplaced : Placed mgr spawns poolId)
    (hx : x ∈ mgr.members poolId) (hfree : spawns.isSpawned x = false)
    (hcreatures : ∀ guid, spawns'.isSpawnedCreature guid =
      (spawns.isSpawnedCreature guid || decide ((PoolMemberKind.creature, guid) = x)))
    (hgameobjects : ∀ guid, spawns'.isSpawnedGameobject guid =
      (spawns.isSpawnedGameobject guid || decide ((PoolMemberKind.gameObject, guid) = x)))
    (hlookup : ∀ q, spawns'.spawnedPools.lookup q =
      if q = poolId then some ((spawns.getSpawnedObjects poolId + 1) % 2 ^ 32)
      else if (PoolMemberKind.pool, q) = x then some 0 else spawns.spawnedPools.lookup q) :
    Added mgr spawns poolId x spawns' := by
  have hfits : (spawns.getSpawnedObjects poolId + 1) % 2 ^ 32 =
      spawns.getSpawnedObjects poolId + 1 := by
    have hlt := Tallies.lt_length hexact hx hfree
    have hcounted := hmgr.counted poolId
    exact Nat.mod_eq_of_lt (by omega)
  rw [hfits] at hlookup
  refine ⟨?_, ?_, ?_, ?_⟩
  · rintro q ⟨kind, guid⟩ hy
    cases kind with
    | creature => exact hcreatures guid
    | gameObject => exact hgameobjects guid
    | pool =>
      rw [isSpawned_pool hmgr spawns hy, isSpawned_pool hmgr spawns' hy,
        SpawnedPoolData.isSpawnedPool, hlookup]
      by_cases hpool : guid = poolId
      · subst hpool
        rw [if_pos rfl, hplaced.resolve_right fun hroot => hroot q hy]
        rfl
      · rw [if_neg hpool]
        by_cases hself : (PoolMemberKind.pool, guid) = x
        · simp [hself]
        · simp [hself, SpawnedPoolData.isSpawnedPool]
  · intro q
    rw [SpawnedPoolData.getSpawnedObjects, hlookup]
    by_cases hpool : q = poolId
    · rw [if_pos hpool, if_pos hpool]
      rfl
    · rw [if_neg hpool, if_neg hpool]
      by_cases hself : (PoolMemberKind.pool, q) = x
      · subst hself
        rw [if_pos rfl, getSpawnedObjects_of_not_isSpawnedPool]
        · rfl
        · rw [← hfree, isSpawned_pool hmgr spawns hx]
      · rw [if_neg hself]
        rfl
  · rw [SpawnedPoolData.isSpawnedPool, hlookup, if_pos rfl]
    rfl
  · intro q hpool hself
    rw [hlookup, if_neg hpool, if_neg hself]

theorem addSpawnToMap_spec (hexact : Exact mgr s.spawns) (hplaced : Placed mgr s.spawns poolId)
    (hgroup : mgr.group kind poolId = some group) (hx : (kind, guid) ∈ mgr.members poolId)
    (hfree : s.spawns.isSpawned (kind, guid) = false) :
    Succeeds (group.addSpawnToMap guid) s fun added s' =>
      added = true ∧ Added mgr s.spawns poolId (kind, guid) s'.spawns := by
  obtain ⟨rfl, rfl⟩ := hmgr.registered kind poolId group hgroup
  refine succeeds_readSpawns_bind ?_
  cases hkind : group.memberKind with
  | creature =>
    rw [hkind] at hx hfree
    refine succeeds_tryWrite ⟨rfl, added_of_lookup hmgr hexact hplaced hx hfree ?_ ?_ ?_⟩
    · intro g
      simp [SpawnedPoolData.isSpawnedCreature, Finset.mem_insert, Bool.or_comm]
    · simp [SpawnedPoolData.isSpawnedGameobject]
    · simp [SpawnedPoolData.getSpawnedObjects]
  | gameObject =>
    rw [hkind] at hx hfree
    refine succeeds_tryWrite ⟨rfl, added_of_lookup hmgr hexact hplaced hx hfree ?_ ?_ ?_⟩
    · simp [SpawnedPoolData.isSpawnedCreature]
    · intro g
      simp [SpawnedPoolData.isSpawnedGameobject, Finset.mem_insert, Bool.or_comm]
    · simp [SpawnedPoolData.getSpawnedObjects]
  | pool =>
    rw [hkind] at hx hfree
    have hne := (hmgr.irrefl hx).symm
    simp only [hmgr.childPoolIdOf_eq hx, Option.map_some]
    refine succeeds_tryWrite ⟨rfl, added_of_lookup hmgr hexact hplaced hx hfree ?_ ?_ ?_⟩
    · simp
    · simp
    · intro q
      simp [SpawnedPoolData.addPoolSpawn, SpawnedPoolData.getSpawnedObjects,
        Dict.lookup_insert_eq, hne]

theorem removed_of_lookup (hexact : Exact mgr spawns) (hx : x ∈ mgr.members poolId)
    (hspawned : spawns.isSpawned x = true)
    (hempty : x.1 = .pool → spawns.getSpawnedObjects x.2 = 0)
    (hcreatures : ∀ guid, spawns'.isSpawnedCreature guid =
      (spawns.isSpawnedCreature guid && !decide ((PoolMemberKind.creature, guid) = x)))
    (hgameobjects : ∀ guid, spawns'.isSpawnedGameobject guid =
      (spawns.isSpawnedGameobject guid && !decide ((PoolMemberKind.gameObject, guid) = x)))
    (hlookup : ∀ q, spawns'.spawnedPools.lookup q =
      if q = poolId then some (spawns.getSpawnedObjects poolId - 1)
      else if (PoolMemberKind.pool, q) = x then none else spawns.spawnedPools.lookup q) :
    Removed spawns poolId x spawns' := by
  refine ⟨?_, ?_, ?_, ?_⟩
  · rintro ⟨kind, guid⟩
    cases kind with
    | creature => exact hcreatures guid
    | gameObject => exact hgameobjects guid
    | pool =>
      rw [SpawnedPoolData.isSpawned, SpawnedPoolData.isSpawned, childPoolIdOf]
      split
      · simp only [Option.any_some, SpawnedPoolData.isSpawnedPool, hlookup]
        by_cases hpool : guid = poolId
        · subst hpool
          have hentry := hexact.isSpawnedPool hx hspawned
          rw [SpawnedPoolData.isSpawnedPool] at hentry
          have hne : (PoolMemberKind.pool, guid) ≠ x := by
            rintro rfl
            exact hmgr.irrefl hx rfl
          simp [hentry, hne]
        · rw [if_neg hpool]
          by_cases hself : (PoolMemberKind.pool, guid) = x
          · simp [hself]
          · simp [hself]
      · rfl
  · intro q
    rw [SpawnedPoolData.getSpawnedObjects, hlookup]
    by_cases hpool : q = poolId
    · rw [if_pos hpool, if_pos hpool]
      rfl
    · rw [if_neg hpool, if_neg hpool]
      by_cases hself : (PoolMemberKind.pool, q) = x
      · subst hself
        rw [if_pos rfl, hempty rfl]
        rfl
      · rw [if_neg hself]
        rfl
  · rw [SpawnedPoolData.isSpawnedPool, hlookup, if_pos rfl]
    rfl
  · intro q hpool hself
    rw [hlookup, if_neg hpool, if_neg hself]

theorem removeSpawnFromMap_spec (hexact : Exact mgr s.spawns)
    (hgroup : mgr.group kind poolId = some group) (hx : (kind, guid) ∈ mgr.members poolId)
    (hspawned : s.spawns.isSpawned (kind, guid) = true)
    (hempty : kind = .pool → s.spawns.getSpawnedObjects guid = 0) :
    Succeeds (group.removeSpawnFromMap guid) s fun _ s' =>
      Removed s.spawns poolId (kind, guid) s'.spawns := by
  obtain ⟨rfl, rfl⟩ := hmgr.registered kind poolId group hgroup
  refine succeeds_readSpawns_bind ?_
  cases hkind : group.memberKind with
  | creature =>
    rw [hkind] at hx hspawned hempty
    refine succeeds_tryWrite (removed_of_lookup hmgr hexact hx hspawned hempty ?_ ?_ ?_)
    · intro g
      simp [SpawnedPoolData.isSpawnedCreature, Finset.mem_erase, Bool.and_comm]
    · simp [SpawnedPoolData.isSpawnedGameobject]
    · simp [SpawnedPoolData.getSpawnedObjects]
  | gameObject =>
    rw [hkind] at hx hspawned hempty
    refine succeeds_tryWrite (removed_of_lookup hmgr hexact hx hspawned hempty ?_ ?_ ?_)
    · simp [SpawnedPoolData.isSpawnedCreature]
    · intro g
      simp [SpawnedPoolData.isSpawnedGameobject, Finset.mem_erase, Bool.and_comm]
    · simp [SpawnedPoolData.getSpawnedObjects]
  | pool =>
    rw [hkind] at hx hspawned hempty
    have hne := (hmgr.irrefl hx).symm
    simp only [hmgr.childPoolIdOf_eq hx, Option.map_some]
    refine succeeds_tryWrite (removed_of_lookup hmgr hexact hx hspawned hempty ?_ ?_ ?_)
    · simp
    · simp
    · intro q
      simp [SpawnedPoolData.removePoolSpawn, SpawnedPoolData.getSpawnedObjects,
        Dict.lookup_erase_eq, hne]

end Changes

end RustyCore.Pools

/-! ## Rolled members

Whatever the dice say, the rolled members are distinct members of the group, none of them is
spawned unless it is the trigger, and there are no more than asked for. -/

namespace RustyCore.Pools

variable {spawns : SpawnedPoolData} {obj : PoolObject}

/-! ## Choices by index -/

theorem takeChosen_spec {candidates : List PoolObject}
    (hcandidates : (candidates.map PoolObject.guid).Nodup) (requested : ℕ) (indices used : List ℕ)
    (rolled : List PoolObject) (hrolled : (rolled.map PoolObject.guid).Nodup)
    (hused : ∀ obj ∈ rolled, ∃ i ∈ used, candidates[i]? = some obj)
    (hroom : rolled.length ≤ requested) :
    ((takeChosen candidates requested indices used rolled).map PoolObject.guid).Nodup ∧
    (∀ obj ∈ takeChosen candidates requested indices used rolled, obj ∈ candidates) ∧
    (takeChosen candidates requested indices used rolled).length ≤ requested := by
  induction indices generalizing used rolled with
  | nil =>
    refine ⟨hrolled, fun obj hobj => ?_, hroom⟩
    obtain ⟨i, -, hi⟩ := hused obj hobj
    exact List.mem_of_getElem? hi
  | cons index rest ih =>
    rw [takeChosen]
    by_cases hfull : requested ≤ rolled.length
    · rw [if_pos hfull]
      refine ⟨hrolled, fun obj hobj => ?_, hroom⟩
      obtain ⟨i, -, hi⟩ := hused obj hobj
      exact List.mem_of_getElem? hi
    · rw [if_neg hfull]
      cases hindex : candidates[index]? with
      | none => exact ih used rolled hrolled hused hroom
      | some candidate =>
        by_cases hold : index ∈ used
        · simp only [if_pos hold]
          exact ih used rolled hrolled hused hroom
        · simp only [if_neg hold]
          refine ih (index :: used) (rolled ++ [candidate]) ?_ ?_ ?_
          · rw [List.map_append, List.nodup_append]
            refine ⟨hrolled, by simp, ?_⟩
            -- An equal guid would be at an index that is used already.
            intro guid hguid guid' hguid' heq
            obtain ⟨obj, hobj, rfl⟩ := List.mem_map.mp hguid
            rw [List.map_singleton, List.mem_singleton] at hguid'
            subst hguid'
            obtain ⟨i, hi, hobj_i⟩ := hused obj hobj
            have hsame : (candidates.map PoolObject.guid)[i]? =
                (candidates.map PoolObject.guid)[index]? := by
              rw [List.getElem?_map, List.getElem?_map, hobj_i, hindex, Option.map_some,
                Option.map_some, heq]
            have hlt : i < (candidates.map PoolObject.guid).length := by
              rw [List.length_map]
              exact (List.getElem?_eq_some_iff.mp hobj_i).1
            have hii := (List.getElem?_inj hlt hcandidates).mp hsame
            exact hold (hii ▸ hi)
          · intro obj hobj
            rcases List.mem_append.mp hobj with hobj | hobj
            · obtain ⟨i, hi, hobj_i⟩ := hused obj hobj
              exact ⟨i, List.mem_cons_of_mem _ hi, hobj_i⟩
            · rw [List.mem_singleton] at hobj
              subst hobj
              exact ⟨index, List.mem_cons_self, hindex⟩
          · rw [List.length_append, List.length_singleton]
            omega

theorem rollExplicit_spec {group : PoolGroup} {triggerFrom : ℕ} {roll : Float32}
    {objects : List PoolObject}
    (h : group.rollExplicit spawns triggerFrom roll objects = some obj) :
    obj ∈ objects ∧ group.eligible spawns triggerFrom obj = true := by
  induction objects generalizing roll with
  | nil => cases h
  | cons head rest ih =>
    rw [PoolGroup.rollExplicit] at h
    split at h
    · rename_i hhead
      cases h
      rw [Bool.and_eq_true] at hhead
      exact ⟨List.mem_cons_self, hhead.2⟩
    · exact ⟨List.mem_cons_of_mem _ (ih h).1, (ih h).2⟩

/-- The members are distinct, eligible, and not more than `count`. -/
structure Rollable (group : PoolGroup) (spawns : SpawnedPoolData) (count triggerFrom : ℕ)
    (rolled : List PoolObject) : Prop where
  distinct : (rolled.map PoolObject.guid).Nodup
  members : ∀ obj ∈ rolled, obj.guid ∈ group.guids
  eligible : ∀ obj ∈ rolled, obj.guid = triggerFrom ∨
    spawns.isSpawned (group.memberKind, obj.guid) = false
  room : rolled.length ≤ count

theorem Rollable.nil (group : PoolGroup) (spawns : SpawnedPoolData) (count triggerFrom : ℕ) :
    Rollable group spawns count triggerFrom [] :=
  ⟨by simp, by simp, by simp, Nat.zero_le _⟩

theorem eligible_iff {group : PoolGroup} {triggerFrom : ℕ} :
    group.eligible spawns triggerFrom obj = true ↔
      obj.guid = triggerFrom ∨ spawns.isSpawned (group.memberKind, obj.guid) = false := by
  rw [PoolGroup.eligible, group.isSpawnedInMap_eq, Bool.or_eq_true, beq_iff_eq, Bool.not_eq_true']

section Programs

variable {σ : Type} {group : PoolGroup} {s : PlanState σ} {count triggerFrom : ℕ}

theorem rollExplicitlyChanced_spec (hcount : 0 < count) (explicitRoll : σ → Float32 × σ) :
    Succeeds (group.rollExplicitlyChanced triggerFrom explicitRoll) s fun rolled s' =>
      s'.spawns = s.spawns ∧ Rollable group s.spawns count triggerFrom rolled := by
  rw [PoolGroup.rollExplicitlyChanced]
  split
  · exact .pure ⟨rfl, .nil group s.spawns count triggerFrom⟩
  · refine succeeds_draw_bind fun roll dice => succeeds_readSpawns_bind (.pure ⟨rfl, ?_⟩)
    cases hroll : group.rollExplicit s.spawns triggerFrom roll group.explicitlyChanced with
    | none => exact .nil group s.spawns count triggerFrom
    | some obj =>
      obtain ⟨hmem, heligible⟩ := rollExplicit_spec hroll
      refine ⟨by simp, ?_, ?_, hcount⟩
      · intro obj' hobj'
        rw [Option.toList_some, List.mem_singleton] at hobj'
        subst hobj'
        exact List.mem_map_of_mem (List.mem_append_left _ hmem)
      · intro obj' hobj'
        rw [Option.toList_some, List.mem_singleton] at hobj'
        subst hobj'
        exact eligible_iff.mp heligible

theorem chooseEqualChanced_spec (hdistinct : group.guids.Nodup)
    (chooseEqual : List PoolObject → ℕ → σ → List ℕ × σ) :
    Succeeds (group.chooseEqualChanced count triggerFrom chooseEqual) s fun rolled s' =>
      s'.spawns = s.spawns ∧ Rollable group s.spawns count triggerFrom rolled := by
  refine succeeds_readSpawns_bind (succeeds_draw_bind fun indices dice => .pure ⟨rfl, ?_⟩)
  have hsublist : (group.equalChanced.filter (group.eligible s.spawns triggerFrom)).Sublist
      (group.explicitlyChanced ++ group.equalChanced) :=
    List.filter_sublist.trans (List.sublist_append_right _ _)
  obtain ⟨hnodup, hmem, hroom⟩ := takeChosen_spec
    (hdistinct.sublist (hsublist.map PoolObject.guid)) (min count
      (group.equalChanced.filter (group.eligible s.spawns triggerFrom)).length) indices [] []
    (by simp) (by simp) (Nat.zero_le _)
  refine ⟨hnodup, fun obj hobj => ?_, fun obj hobj => ?_, hroom.trans (min_le_left _ _)⟩
  · exact List.mem_map_of_mem (hsublist.subset (hmem obj hobj))
  · exact eligible_iff.mp (List.mem_filter.mp (hmem obj hobj)).2

theorem rollObjects_spec (hdistinct : group.guids.Nodup) (hcount : 0 < count)
    (explicitRoll : σ → Float32 × σ) (chooseEqual : List PoolObject → ℕ → σ → List ℕ × σ) :
    Succeeds (group.rollObjects count triggerFrom explicitRoll chooseEqual) s fun rolled s' =>
      s'.spawns = s.spawns ∧ Rollable group s.spawns count triggerFrom rolled := by
  refine (rollExplicitlyChanced_spec hcount explicitRoll).bind fun rolled s' h => ?_
  split
  · exact .pure h
  · rw [← h.1]
    exact chooseEqualChanced_spec hdistinct chooseEqual

end Programs

end RustyCore.Pools
