import RustyCore.Library.Run
import RustyCore.Verification.Pools.Spawn

/-! # Pool limits

Over every run of calls the counters are exact and within their limits, as long as no child
pool is spawned on its own. Such a call leaves the child with an entry, and so marked as
spawned, without its mother counting it. -/

namespace RustyCore.Pools

open Relation

def UpdatesSpawned (mgr : PoolMgr) (spawns : SpawnedPoolData) : PoolCall → Prop
  | .update _ _ poolId spawnType spawnId => ∃ kind, spawnType.memberKind = some kind ∧
      (kind, spawnId) ∈ mgr.members poolId ∧ spawns.isSpawned (kind, spawnId) = true
  | _ => True

/-- A child pool is spawned by a call of its own only while it is marked as spawned. -/
def SpawnsPlaced (mgr : PoolMgr) (spawns : SpawnedPoolData) : PoolCall → Prop
  | .spawn _ _ poolId => Placed mgr spawns poolId
  | _ => True

/-- The counters are exact, and no pool is above its limit. -/
structure WithinLimits (mgr : PoolMgr) (spawns : SpawnedPoolData) : Prop where
  exact : Exact mgr spawns
  limits : ∀ poolId, WithinLimit mgr spawns poolId

variable {mgr : PoolMgr}

theorem withinLimits_empty (mgr : PoolMgr) : WithinLimits mgr .empty := by
  have hnone : ∀ x, SpawnedPoolData.empty.isSpawned x = false := by
    rintro ⟨kind, guid⟩
    cases kind with
    | creature => simp [SpawnedPoolData.isSpawned, SpawnedPoolData.isSpawnedCreature,
        SpawnedPoolData.empty]
    | gameObject => simp [SpawnedPoolData.isSpawned, SpawnedPoolData.isSpawnedGameobject,
        SpawnedPoolData.empty]
    | pool =>
      simp only [SpawnedPoolData.isSpawned, childPoolIdOf]
      split <;> rfl
  refine ⟨fun poolId => ?_, fun poolId template _ => Nat.zero_le _⟩
  refine Eq.symm (List.countP_eq_zero.mpr fun x _ => ?_)
  rw [hnone]
  exact Bool.false_ne_true

theorem WithinLimits.poolStep (hmgr : mgr.WellFormed) {spawns : SpawnedPoolData}
    (h : WithinLimits mgr spawns) {call : PoolCall}
    (hlegal : UpdatesSpawned mgr spawns call ∧ SpawnsPlaced mgr spawns call) :
    WithinLimits mgr (poolStep mgr spawns call) := by
  cases call with
  | spawn dice seed poolId =>
    obtain ⟨-, hexact, hlimits⟩ :=
      (spawnPoolPlan_spec hmgr dice (s := ⟨spawns, seed⟩) h.exact hlegal.2).finalState
    exact ⟨hexact, fun q => hlimits q (h.limits q)⟩
  | despawn poolId always =>
    obtain ⟨-, hdespawned, -⟩ :=
      (despawnPoolPlan_spec hmgr (s := ⟨spawns, ()⟩) h.exact always).finalState
    exact ⟨hdespawned.exact, fun q => hdespawned.withinLimit h.exact (h.limits q)⟩
  | update dice seed poolId spawnType spawnId =>
    obtain ⟨kind, hkind, hx, hspawned⟩ := hlegal.1
    obtain ⟨-, hexact, hlimits⟩ :=
      (updatePoolPlan_spec hmgr dice (s := ⟨spawns, seed⟩) h.exact hkind hx hspawned).finalState
    exact ⟨hexact, fun q => hlimits q (h.limits q)⟩

theorem nothing_left_by_despawn (hmgr : mgr.WellFormed) {spawns : SpawnedPoolData}
    (hexact : Exact mgr spawns) (poolId : ℕ) (always : Bool) :
    (poolStep mgr spawns (.despawn poolId always)).getSpawnedObjects poolId = 0 ∧
    ∀ q, ReflTransGen mgr.Child poolId q → ∀ x ∈ mgr.members q,
      (poolStep mgr spawns (.despawn poolId always)).isSpawned x = false := by
  obtain ⟨-, hdespawned, hzero⟩ :=
    (despawnPoolPlan_spec hmgr (s := ⟨spawns, ()⟩) hexact always).finalState
  exact ⟨hzero, fun q hbelow => nothing_below_spawned hmgr hdespawned.exact hzero hbelow⟩

/-- In every run of legal calls the counters are exact and within the limits, and despawning a
pool leaves nothing below it. -/
theorem pools_within_limits (mgr : PoolMgr) (hmgr : mgr.WellFormed) (calls : List PoolCall)
    (hlegal : EachStep (poolStep mgr)
      (fun spawns call => UpdatesSpawned mgr spawns call ∧ SpawnsPlaced mgr spawns call)
      .empty calls) :
    Exact mgr (run (poolStep mgr) .empty calls) ∧
    (∀ poolId, WithinLimit mgr (run (poolStep mgr) .empty calls) poolId) ∧
    ∀ poolId always,
      (run (poolStep mgr) .empty (calls ++ [.despawn poolId always])).getSpawnedObjects poolId = 0 ∧
      ∀ q, ReflTransGen mgr.Child poolId q → ∀ x ∈ mgr.members q,
        (run (poolStep mgr) .empty (calls ++ [.despawn poolId always])).isSpawned x = false := by
  have h : WithinLimits mgr (run (poolStep mgr) .empty calls) :=
    run_invariant (WithinLimits mgr) (fun _ _ h hcall => h.poolStep hmgr hcall)
      (withinLimits_empty mgr) hlegal
  refine ⟨h.exact, h.limits, fun poolId always => ?_⟩
  rw [run_concat]
  exact nothing_left_by_despawn hmgr h.exact poolId always

/-! ## A pool with two child pools -/

def equalGroup (kind : PoolMemberKind) (poolId : ℕ) (guids : List ℕ) : PoolGroup :=
  ⟨poolId, kind, [], guids.map fun guid => ⟨guid, 0⟩⟩

/-- Pool 1 may spawn one of the pools 2 and 3, and each of these its one creature. -/
def familyMgr : PoolMgr where
  templates := (((∅ : Dict ℕ PoolTemplateData).insert 1 ⟨1⟩).insert 2 ⟨1⟩).insert 3 ⟨1⟩
  creatureGroups := ((∅ : Dict ℕ PoolGroup).insert 2 (equalGroup .creature 2 [20])).insert 3
    (equalGroup .creature 3 [30])
  gameobjectGroups := ∅
  poolGroups := (∅ : Dict ℕ PoolGroup).insert 1 (equalGroup .pool 1 [2, 3])
  childPoolToParent := ((∅ : Dict ℕ ℕ).insert 2 1).insert 3 1

/-- The first candidate is always chosen. -/
def chooseFirst : PoolDice Unit where
  explicitRollFor _ _ := fun seed => (0, seed)
  chooseEqual _ _ := fun seed => ([0], seed)

theorem members_familyMgr (poolId : ℕ) : familyMgr.members poolId =
    if poolId = 1 then [(.pool, 2), (.pool, 3)] else if poolId = 2 then [(.creature, 20)]
    else if poolId = 3 then [(.creature, 30)] else [] := by
  by_cases h1 : poolId = 1
  · subst h1
    rfl
  · by_cases h2 : poolId = 2
    · subst h2
      rfl
    · by_cases h3 : poolId = 3
      · subst h3
        rfl
      · simp [PoolMgr.members, PoolMgr.guids, PoolMgr.group, familyMgr, h1, h2, h3]

theorem child_familyMgr {mother child : ℕ} :
    familyMgr.Child mother child ↔ mother = 1 ∧ (child = 2 ∨ child = 3) := by
  rw [PoolMgr.Child, members_familyMgr]
  by_cases h1 : mother = 1
  · simp [h1]
  · by_cases h2 : mother = 2
    · simp [h2]
    · by_cases h3 : mother = 3 <;> simp [h1, h2, h3]

theorem wellFormed_familyMgr : familyMgr.WellFormed where
  registered := by
    intro kind poolId group h
    cases kind <;> simp only [PoolMgr.group, familyMgr, Dict.lookup_insert_eq] at h
    · split at h
      · cases h
        exact ⟨Eq.symm ‹_›, rfl⟩
      · split at h
        · cases h
          exact ⟨Eq.symm ‹_›, rfl⟩
        · cases h
    · cases h
    · split at h
      · cases h
        exact ⟨Eq.symm ‹_›, rfl⟩
      · cases h
  templates := by
    intro kind poolId group h
    have hpool : poolId = 1 ∨ poolId = 2 ∨ poolId = 3 := by
      cases kind <;> simp only [PoolMgr.group, familyMgr, Dict.lookup_insert_eq] at h
      · split_ifs at h <;> simp_all
      · cases h
      · split_ifs at h <;> simp_all
    rcases hpool with rfl | rfl | rfl <;> exact ⟨⟨1⟩, rfl⟩
  grouped := by
    constructor
    · intro poolId
      rw [members_familyMgr]
      split_ifs <;> decide
    · intro p q x hp hq
      rw [members_familyMgr] at hp hq
      split_ifs at hp hq <;> simp_all
  parents := by
    intro mother child
    rw [child_familyMgr]
    simp only [familyMgr, Dict.lookup_insert_eq]
    split_ifs <;> simp_all <;> omega
  acyclic := by
    intro poolId h
    obtain ⟨child, hfirst, -⟩ := TransGen.head'_iff.mp h
    obtain ⟨mother, -, hlast⟩ := TransGen.tail'_iff.mp h
    have h1 := (child_familyMgr.mp hfirst).1
    have h2 := (child_familyMgr.mp hlast).2
    omega
  childIds := by
    intro mother child h
    have h2 := (child_familyMgr.mp h).2
    omega
  counted := by
    intro poolId
    rw [members_familyMgr]
    split_ifs <;> decide

/-- Pool 1 spawns pool 2, is updated, and is despawned. -/
theorem pools_within_limits_sample :
    (run (poolStep familyMgr) .empty [.spawn chooseFirst () 1,
      .update chooseFirst () 2 .creature 20, .despawn 1 true]).getSpawnedObjects 1 = 0 := by
  have hlegal : EachStep (poolStep familyMgr)
      (fun spawns call => UpdatesSpawned familyMgr spawns call ∧ SpawnsPlaced familyMgr spawns call)
      .empty [.spawn chooseFirst () 1, .update chooseFirst () 2 .creature 20] := by
    refine ⟨⟨trivial, .inr fun mother h => ?_⟩, ⟨⟨.creature, rfl, by decide, by decide⟩, trivial⟩,
      trivial⟩
    have h2 := (child_familyMgr.mp h).2
    omega
  exact ((pools_within_limits familyMgr wellFormed_familyMgr _ hlegal).2.2 1 true).1

/-- Pool 2 is spawned on its own, and then pool 1, which picks pool 3 beside it: two of its
children are spawned, where it counts one and may have one. -/
theorem pools_not_exact :
    familyMgr.WellFormed ∧
    EachStep (poolStep familyMgr) (UpdatesSpawned familyMgr) .empty
      [.spawn chooseFirst () 2, .spawn chooseFirst () 1] ∧
    ¬ Exact familyMgr (run (poolStep familyMgr) .empty
      [.spawn chooseFirst () 2, .spawn chooseFirst () 1]) := by
  refine ⟨wellFormed_familyMgr, ⟨trivial, trivial, trivial⟩, fun h => ?_⟩
  have hcount := h 1
  revert hcount
  decide

end RustyCore.Pools
