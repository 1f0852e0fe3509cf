import RustyCore.Verification.Pools.Despawn

/-! # Spawning pools

Spawning a pool keeps the tally and the limits, and touches the pool and what is below it
only. While a trigger waits to be respawned or despawned, its pool may be one above its
limit. -/

namespace RustyCore.Pools

open Relation

variable {spawns spawns' : SpawnedPoolData}

/-- Objects are spawned in `poolId` and below it; no other limit is passed. -/
structure Spawned (mgr : PoolMgr) (poolId : ℕ) (spawns spawns' : SpawnedPoolData) : Prop where
  exact : Exact mgr spawns'
  lookups : ∀ q, ¬ ReflTransGen mgr.Child poolId q →
    spawns'.spawnedPools.lookup q = spawns.spawnedPools.lookup q
  limits : ∀ q, q ≠ poolId → WithinLimit mgr spawns q → WithinLimit mgr spawns' q
  placed : Placed mgr spawns poolId → Placed mgr spawns' poolId

theorem isSpawnedPool_congr {q : ℕ}
    (h : spawns'.spawnedPools.lookup q = spawns.spawnedPools.lookup q) :
    spawns'.isSpawnedPool q = spawns.isSpawnedPool q := by
  rw [SpawnedPoolData.isSpawnedPool, SpawnedPoolData.isSpawnedPool, h]

theorem getSpawnedObjects_congr {q : ℕ}
    (h : spawns'.spawnedPools.lookup q = spawns.spawnedPools.lookup q) :
    spawns'.getSpawnedObjects q = spawns.getSpawnedObjects q := by
  rw [SpawnedPoolData.getSpawnedObjects, SpawnedPoolData.getSpawnedObjects, h]

namespace Spawned

variable {mgr : PoolMgr} {poolId : ℕ} {spawns spawns' spawns'' : SpawnedPoolData}

theorem refl (h : Exact mgr spawns) : Spawned mgr poolId spawns spawns :=
  ⟨h, fun _ _ => rfl, fun _ _ hq => hq, fun hp => hp⟩

theorem trans (h : Spawned mgr poolId spawns spawns') (h' : Spawned mgr poolId spawns' spawns'') :
    Spawned mgr poolId spawns spawns'' :=
  ⟨h'.exact, fun q hq => (h'.lookups q hq).trans (h.lookups q hq),
    fun q hne hq => h'.limits q hne (h.limits q hne hq), fun hp => h'.placed (h.placed hp)⟩

theorem of_child (hmgr : mgr.WellFormed) {child : ℕ} (h : Spawned mgr child spawns spawns')
    (hlimit : WithinLimit mgr spawns child → WithinLimit mgr spawns' child)
    (hchild : mgr.Child poolId child) : Spawned mgr poolId spawns spawns' := by
  refine ⟨h.exact, fun q hq => h.lookups q fun hbelow => hq (.head hchild hbelow), ?_, ?_⟩
  · intro q _ hq
    by_cases hself : q = child
    · subst hself
      exact hlimit hq
    · exact h.limits q hself hq
  · have hsame := isSpawnedPool_congr (h.lookups poolId (hmgr.mother_not_below hchild))
    exact fun hp => hp.imp_left fun hentry => hsame.trans hentry

end Spawned

theorem Added.spawned {mgr : PoolMgr} (hmgr : mgr.WellFormed) {poolId : ℕ}
    {x : PoolMemberKind × ℕ} (h : Added mgr spawns poolId x spawns') (hexact : Exact mgr spawns)
    (hx : x ∈ mgr.members poolId) (hfree : spawns.isSpawned x = false) :
    Spawned mgr poolId spawns spawns' := by
  refine ⟨h.exact hmgr hexact hx hfree, ?_, ?_, fun _ => .inl h.placed⟩
  · intro q hq
    refine h.pools q ?_ ?_
    · rintro rfl
      exact hq .refl
    · rintro rfl
      exact hq (.single hx)
  · intro q hne hq template ht
    rw [h.counters, if_neg hne]
    exact hq template ht

def SpawnsChildren {σ α : Type} (mgr : PoolMgr) (poolId : ℕ) (call : ℕ → PlanM σ α) : Prop :=
  ∀ child s, mgr.Child poolId child → Exact mgr s.spawns → Placed mgr s.spawns child →
    Succeeds (call child) s fun _ s' => Spawned mgr child s.spawns s'.spawns ∧
      (WithinLimit mgr s.spawns child → WithinLimit mgr s'.spawns child)

/-- One more member of a pool is spawned, and what is below it. -/
structure OneMore (mgr : PoolMgr) (kind : PoolMemberKind) (poolId guid : ℕ)
    (spawns spawns' : SpawnedPoolData) : Prop where
  spawned : Spawned mgr poolId spawns spawns'
  counter : spawns'.getSpawnedObjects poolId = spawns.getSpawnedObjects poolId + 1
  others : ∀ g, g ≠ guid → (kind, g) ∈ mgr.members poolId →
    spawns'.isSpawned (kind, g) = spawns.isSpawned (kind, g)

/-- The members that are rolled and still to come. The trigger may be spawned already; `base`
is what the counter may reach without it. -/
structure RolledLeft {σ : Type} (mgr : PoolMgr) (kind : PoolMemberKind) (poolId base : ℕ)
    (s : PlanState σ) (rest : List PoolObject) (triggerFrom : ℕ) (s' : PlanState σ) : Prop where
  spawned : Spawned mgr poolId s.spawns s'.spawns
  placed : Placed mgr s'.spawns poolId
  members : ∀ obj ∈ rest, (kind, obj.guid) ∈ mgr.members poolId
  distinct : (rest.map PoolObject.guid).Nodup
  eligible : ∀ obj ∈ rest,
    obj.guid = triggerFrom ∨ s'.spawns.isSpawned (kind, obj.guid) = false
  room : s'.spawns.getSpawnedObjects poolId + rest.length ≤
    base + if triggerFrom = 0 then 0 else 1
  trigger : triggerFrom = 0 ∨ (kind, triggerFrom) ∈ mgr.members poolId ∧
    s'.spawns.isSpawned (kind, triggerFrom) = true

section Groups

variable {σ ρ δ : Type} {mgr : PoolMgr} (hmgr : mgr.WellFormed) {kind : PoolMemberKind}
  {poolId guid : ℕ} {group : PoolGroup} (hgroup : mgr.group kind poolId = some group)
  {s : PlanState σ}
variable {triggerFrom : ℕ}

include hmgr hgroup

theorem addSpawn_spec {call : ℕ → PlanM σ ρ} (hcall : kind = .pool → SpawnsChildren mgr poolId call)
    (hexact : Exact mgr s.spawns) (hplaced : Placed mgr s.spawns poolId)
    (hx : (kind, guid) ∈ mgr.members poolId) (hfree : s.spawns.isSpawned (kind, guid) = false)
    {α : Type} {rest : List ρ → PlanM σ α} {otherwise : PlanM σ α} {post : α → PlanState σ → Prop}
    (hrest : ∀ plans s', OneMore mgr kind poolId guid s.spawns s'.spawns →
      Succeeds (rest plans) s' post) :
    Succeeds (do
      let added ← group.addSpawnToMap guid
      if added then do
        let childPlans ← group.callChildPool guid call
        rest childPlans
      else otherwise) s post := by
  refine (addSpawnToMap_spec hmgr hexact hplaced hgroup hx hfree).bind fun added s₁ h => ?_
  obtain ⟨rfl, hadded⟩ := h
  rw [if_pos rfl]
  have hspawned := hadded.spawned hmgr hexact hx hfree
  have hothers : ∀ g, g ≠ guid → (kind, g) ∈ mgr.members poolId →
      s₁.spawns.isSpawned (kind, g) = s.spawns.isSpawned (kind, g) := by
    intro g hne hg
    simp [hadded.marks poolId _ hg, hne]
  have hcounter : s₁.spawns.getSpawnedObjects poolId = s.spawns.getSpawnedObjects poolId + 1 := by
    rw [hadded.counters, if_pos rfl]
  refine (succeeds_callChildPool hmgr hgroup
    (fun s' => OneMore mgr kind poolId guid s.spawns s'.spawns) hx ?_ ?_).bind hrest
  · rintro rfl
    have hmarked : s₁.spawns.isSpawnedPool guid = true := by
      rw [← isSpawned_pool hmgr _ hx, hadded.marks poolId _ hx]
      simp
    refine (hcall rfl guid s₁ hx hspawned.exact (.inl hmarked)).mono fun _ s' h => ?_
    refine ⟨hspawned.trans (h.1.of_child hmgr h.2 hx), ?_, ?_⟩
    · rw [getSpawnedObjects_congr (h.1.lookups poolId (hmgr.mother_not_below hx)), hcounter]
    · intro g hne hg
      have hsame := isSpawnedPool_congr (h.1.lookups g (hmgr.sibling_not_below hx hg hne))
      rw [← hothers g hne hg, isSpawned_pool hmgr _ hg, isSpawned_pool hmgr _ hg, hsame]
  · exact fun _ => ⟨hspawned, hcounter, hothers⟩

theorem spawnRolled_spec {call : ℕ → PlanM σ ρ}
    (hcall : kind = .pool → SpawnsChildren mgr poolId call) {base : ℕ} {s₀ : PlanState σ}
    {obj : PoolObject} {rest : List PoolObject} {progress : ℕ × PoolSpawnObjectPlan ρ δ}
    (h : RolledLeft mgr kind poolId base s₀ (obj :: rest) progress.1 s) :
    Succeeds (group.spawnRolled call progress obj) s fun progress' s' =>
      (progress'.1 = progress.1 ∨ progress'.1 = 0) ∧
      RolledLeft mgr kind poolId base s₀ rest progress'.1 s' := by
  have hobj := h.members obj (by simp)
  have hmembers : ∀ o ∈ rest, (kind, o.guid) ∈ mgr.members poolId :=
    fun o ho => h.members o (by simp [ho])
  have hdistinct := h.distinct
  rw [List.map_cons, List.nodup_cons] at hdistinct
  have hne : ∀ o ∈ rest, o.guid ≠ obj.guid := fun o ho heq =>
    hdistinct.1 (heq ▸ List.mem_map_of_mem ho)
  have hroom := h.room
  rw [List.length_cons] at hroom
  rw [PoolGroup.spawnRolled]
  by_cases htrigger : obj.guid = progress.1
  · rw [if_pos htrigger]
    refine .pure ⟨.inr rfl, h.spawned, h.placed, hmembers, hdistinct.2, ?_, ?_, .inl rfl⟩
    · intro o ho
      refine .inr ((h.eligible o (by simp [ho])).resolve_left fun heq => ?_)
      exact hne o ho (heq.trans htrigger.symm)
    · have htr : (if progress.1 = 0 then 0 else 1) ≤ 1 := by split <;> omega
      rw [if_pos rfl]
      omega
  · rw [if_neg htrigger]
    have hfree := (h.eligible obj (by simp)).resolve_left htrigger
    refine addSpawn_spec hmgr hgroup hcall h.spawned.exact h.placed hobj hfree ?_
    intro plans s' hmore
    have hleft : RolledLeft mgr kind poolId base s₀ rest progress.1 s' := by
      refine ⟨h.spawned.trans hmore.spawned, hmore.spawned.placed h.placed, hmembers,
        hdistinct.2, ?_, ?_, ?_⟩
      · intro o ho
        rw [hmore.others o.guid (hne o ho) (hmembers o ho)]
        exact h.eligible o (by simp [ho])
      · rw [hmore.counter]
        omega
      · refine h.trigger.imp_right fun ht => ⟨ht.1, ?_⟩
        rw [hmore.others progress.1 (Ne.symm htrigger) ht.1]
        exact ht.2
    exact .pure ⟨.inl rfl, hleft⟩

theorem despawnTrigger_spec {call : ℕ → Bool → PlanM σ δ}
    (hcall : kind = .pool → ∀ always, DespawnsChildren mgr poolId (call · always))
    (hexact : Exact mgr s.spawns)
    (htrigger : triggerFrom = 0 ∨ (kind, triggerFrom) ∈ mgr.members poolId ∧
      s.spawns.isSpawned (kind, triggerFrom) = true)
    (plan : PoolSpawnObjectPlan ρ δ) :
    Succeeds (group.despawnTrigger call triggerFrom plan) s fun _ s' =>
      Despawned mgr poolId s.spawns s'.spawns ∧ (triggerFrom = 0 → s'.spawns = s.spawns) ∧
      s'.spawns.getSpawnedObjects poolId + (if triggerFrom = 0 then 0 else 1) ≤
        s.spawns.getSpawnedObjects poolId := by
  obtain ⟨hpool, hkind⟩ := hmgr.registered kind poolId group hgroup
  refine succeeds_readSpawns_bind ?_
  by_cases hzero : triggerFrom = 0
  · rw [if_neg (fun h => h.1 hzero)]
    exact .pure ⟨.refl hexact, fun _ => rfl, by rw [if_pos hzero]; exact le_rfl⟩
  · obtain ⟨hx, hspawned⟩ := htrigger.resolve_left hzero
    have hcontained : group.containsGuid triggerFrom = true := by
      rw [PoolMgr.mem_members, PoolMgr.guids_eq hgroup, PoolGroup.guids, List.mem_map] at hx
      obtain ⟨obj, hobj, rfl⟩ := hx
      exact List.any_eq_true.mpr ⟨obj, hobj, beq_self_eq_true _⟩
    rw [group.isSpawnedInMap_eq, hkind, if_pos ⟨hzero, hcontained, hspawned⟩]
    refine (despawnMember_spec hmgr hgroup (fun h => hcall h false) hexact hx hspawned).bind
      fun _ s' h => .pure ⟨h.1, fun h0 => absurd h0 hzero, ?_⟩
    rw [if_neg hzero]
    exact h.2.2

theorem rollForRoom_spec (hexact : Exact mgr s.spawns) (hplaced : Placed mgr s.spawns poolId)
    (htrigger : triggerFrom = 0 ∨ (kind, triggerFrom) ∈ mgr.members poolId ∧
      s.spawns.isSpawned (kind, triggerFrom) = true)
    (limit : ℕ) (explicitRoll : σ → Float32 × σ)
    (chooseEqual : List PoolObject → ℕ → σ → List ℕ × σ) :
    Succeeds (group.rollForRoom limit (s.spawns.getSpawnedObjects poolId) triggerFrom explicitRoll
      chooseEqual) s fun rolled s' =>
      RolledLeft mgr kind poolId (max (s.spawns.getSpawnedObjects poolId) limit) s rolled
        triggerFrom s' := by
  obtain ⟨hpool, hkind⟩ := hmgr.registered kind poolId group hgroup
  have hguids : group.guids.Nodup := by
    rw [← PoolMgr.guids_eq hgroup]
    exact hmgr.guids_nodup kind poolId
  simp only [PoolGroup.rollForRoom]
  generalize hcount : (if triggerFrom ≠ 0 then (limit : ℤ) - s.spawns.getSpawnedObjects poolId + 1
    else limit - s.spawns.getSpawnedObjects poolId) = count
  have hleft : ∀ rolled s', s'.spawns = s.spawns →
      Rollable group s.spawns count.toNat triggerFrom rolled →
      RolledLeft mgr kind poolId (max (s.spawns.getSpawnedObjects poolId) limit) s rolled
        triggerFrom s' := by
    intro rolled s' hsame h
    refine ⟨?_, ?_, ?_, h.distinct, ?_, ?_, ?_⟩
    · rw [hsame]
      exact .refl hexact
    · rw [hsame]
      exact hplaced
    · intro obj hobj
      rw [PoolMgr.mem_members, PoolMgr.guids_eq hgroup]
      exact h.members obj hobj
    · rw [hsame, ← hkind]
      exact h.eligible
    · have hroom := h.room
      rw [hsame]
      by_cases hzero : triggerFrom = 0
      · rw [if_neg (not_not.mpr hzero)] at hcount
        rw [if_pos hzero]
        omega
      · rw [if_pos hzero] at hcount
        rw [if_neg hzero]
        omega
    · rw [hsame]
      exact htrigger
  split
  · exact (rollObjects_spec hguids (by omega) explicitRoll chooseEqual).mono
      fun rolled s' h => hleft rolled s' h.1 h.2
  · exact .pure (hleft [] s rfl (.nil group s.spawns _ _))

/-- A call for a group spawns as many members as there is room for, and the trigger, which
is spawned before, does not count. -/
theorem spawnObjectPlan_spec {spawnChild : ℕ → PlanM σ ρ} {despawnChild : ℕ → Bool → PlanM σ δ}
    (hspawn : kind = .pool → SpawnsChildren mgr poolId spawnChild)
    (hdespawn : kind = .pool → ∀ always, DespawnsChildren mgr poolId (despawnChild · always))
    (hexact : Exact mgr s.spawns) (hplaced : Placed mgr s.spawns poolId)
    (htrigger : triggerFrom = 0 ∨ (kind, triggerFrom) ∈ mgr.members poolId ∧
      s.spawns.isSpawned (kind, triggerFrom) = true)
    (limit : ℕ) (explicitRoll : σ → Float32 × σ)
    (chooseEqual : List PoolObject → ℕ → σ → List ℕ × σ) :
    Succeeds (group.spawnObjectPlanWithChildPools limit triggerFrom explicitRoll chooseEqual
      spawnChild despawnChild) s fun _ s' =>
      (triggerFrom = 0 → Spawned mgr poolId s.spawns s'.spawns) ∧ Exact mgr s'.spawns ∧
      (∀ q, q ≠ poolId → WithinLimit mgr s.spawns q → WithinLimit mgr s'.spawns q) ∧
      s'.spawns.getSpawnedObjects poolId ≤ max (s.spawns.getSpawnedObjects poolId) limit := by
  obtain ⟨hpool, hkind⟩ := hmgr.registered kind poolId group hgroup
  rw [PoolGroup.spawnObjectPlanWithChildPools]
  refine succeeds_readSpawns_bind ?_
  rw [hpool]
  refine (rollForRoom_spec hmgr hgroup hexact hplaced htrigger limit explicitRoll
    chooseEqual).bind fun rolled s₁ hrolled => ?_
  refine (Succeeds.foldlM (fun rest progress s' => (triggerFrom = 0 → progress.1 = 0) ∧
    RolledLeft mgr kind poolId (max (s.spawns.getSpawnedObjects poolId) limit) s rest progress.1 s')
    ?_ ⟨fun hzero => hzero, hrolled⟩).bind fun progress s₂ ⟨hzero, h⟩ => ?_
  · rintro obj rest progress s' ⟨hzero, h⟩
    refine (spawnRolled_spec hmgr hgroup hspawn h).mono fun progress' s'' h' => ⟨fun h0 => ?_, h'.2⟩
    exact h'.1.elim (fun heq => heq.trans (hzero h0)) fun heq => heq
  refine (despawnTrigger_spec hmgr hgroup hdespawn h.spawned.exact h.trigger _).mono
    fun plan s₃ h' => ⟨fun h0 => ?_, h'.1.exact, fun q hne hq => ?_, ?_⟩
  · rw [h'.2.1 (hzero h0)]
    exact h.spawned
  · exact h'.1.withinLimit h.spawned.exact (h.spawned.limits q hne hq)
  · have hroom := h.room
    rw [List.length_nil] at hroom
    omega

end Groups

section Pools

variable {σ : Type} {mgr : PoolMgr} (hmgr : mgr.WellFormed) {poolId : ℕ} {s : PlanState σ}
variable {kind : PoolMemberKind}

include hmgr

theorem childPoolOverflow_eq_none {group : PoolGroup}
    (hgroup : mgr.group kind poolId = some group) : PoolMgr.childPoolOverflow group = none := by
  obtain ⟨hpool, hkind⟩ := hmgr.registered kind poolId group hgroup
  rw [PoolMgr.childPoolOverflow]
  split
  · rfl
  · rename_i hmember
    rw [not_not, hkind] at hmember
    subst hmember
    rw [Option.map_eq_none_iff, List.find?_eq_none]
    intro child hchild
    have hx : mgr.Child poolId child.guid := by
      rw [PoolMgr.Child, PoolMgr.mem_members, PoolMgr.guids_eq hgroup]
      exact List.mem_map_of_mem hchild
    simp [hmgr.childPoolIdOf_eq hx]

/-- What spawning from one group of a pool keeps, with or without a trigger. -/
structure GroupSpawned (mgr : PoolMgr) (poolId triggerFrom : ℕ)
    (spawns spawns' : SpawnedPoolData) : Prop where
  spawned : triggerFrom = 0 → Spawned mgr poolId spawns spawns'
  exact : Exact mgr spawns'
  limits : ∀ q, WithinLimit mgr spawns q → WithinLimit mgr spawns' q

theorem spawnTypedPoolPlan_spec {spawnChild : ℕ → PlanM σ PoolSpawnPoolPlan}
    {despawnChild : ℕ → Bool → PlanM σ PoolDespawnPoolPlan}
    (hspawn : SpawnsChildren mgr poolId spawnChild)
    (hdespawn : ∀ always, DespawnsChildren mgr poolId (despawnChild · always))
    (hexact : Exact mgr s.spawns) (hplaced : Placed mgr s.spawns poolId) {triggerFrom : ℕ}
    (htrigger : triggerFrom = 0 ∨ (kind, triggerFrom) ∈ mgr.members poolId ∧
      s.spawns.isSpawned (kind, triggerFrom) = true)
    (dice : PoolDice σ) :
    Succeeds (mgr.spawnTypedPoolPlan dice kind poolId triggerFrom spawnChild despawnChild) s
      fun _ s' => GroupSpawned mgr poolId triggerFrom s.spawns s'.spawns := by
  have hnothing : GroupSpawned mgr poolId triggerFrom s.spawns s.spawns :=
    ⟨fun _ => .refl hexact, hexact, fun _ h => h⟩
  rw [PoolMgr.spawnTypedPoolPlan]
  cases hgroup : mgr.group kind poolId with
  | none => exact .pure hnothing
  | some group =>
    by_cases hempty : group.isEmpty = true
    · simp only [if_pos hempty]
      exact .pure hnothing
    · obtain ⟨template, htemplate⟩ := hmgr.templates kind poolId group hgroup
      simp only [if_neg hempty, childPoolOverflow_eq_none hmgr hgroup, htemplate]
      have hlimit : ∀ spawns' : SpawnedPoolData, spawns'.getSpawnedObjects poolId ≤
          max (s.spawns.getSpawnedObjects poolId) template.maxLimit →
          WithinLimit mgr s.spawns poolId → WithinLimit mgr spawns' poolId := by
        intro spawns' hmax hwithin template' htemplate'
        rw [htemplate] at htemplate'
        cases htemplate'
        exact hmax.trans (max_le (hwithin template htemplate) le_rfl)
      have hgroupSpawned : ∀ spawns' : SpawnedPoolData,
          (triggerFrom = 0 → Spawned mgr poolId s.spawns spawns') ∧ Exact mgr spawns' ∧
          (∀ q, q ≠ poolId → WithinLimit mgr s.spawns q → WithinLimit mgr spawns' q) ∧
          spawns'.getSpawnedObjects poolId ≤
            max (s.spawns.getSpawnedObjects poolId) template.maxLimit →
          GroupSpawned mgr poolId triggerFrom s.spawns spawns' := by
        rintro spawns' ⟨hspawned, hexact', hothers, hmax⟩
        refine ⟨hspawned, hexact', fun q hq => ?_⟩
        by_cases hself : q = poolId
        · subst hself
          exact hlimit spawns' hmax hq
        · exact hothers q hself hq
      by_cases hkind : kind = .pool
      · simp only [if_pos hkind]
        exact (spawnObjectPlan_spec hmgr hgroup (fun _ => hspawn) (fun _ => hdespawn) hexact
          hplaced htrigger _ _ _).bind fun _ s' h => .pure (hgroupSpawned s'.spawns h)
      · simp only [if_neg hkind]
        exact (Succeeds.tryCatch (spawnObjectPlan_spec hmgr hgroup (fun h => absurd h hkind)
          (fun h => absurd h hkind) hexact hplaced htrigger _ _ _)).bind
          fun _ s' h => .pure (hgroupSpawned s'.spawns h)

theorem spawnPoolPlanWithVisited_spec (dice : PoolDice σ) (fuel : ℕ) (visiting : List ℕ)
    (poolId : ℕ) (s : PlanState σ) (hvisiting : ∀ v ∈ visiting, TransGen mgr.Child v poolId)
    (hfuel : (unvisited mgr visiting).card < fuel) (hexact : Exact mgr s.spawns)
    (hplaced : Placed mgr s.spawns poolId) :
    Succeeds (mgr.spawnPoolPlanWithVisited dice fuel visiting poolId) s fun _ s' =>
      Spawned mgr poolId s.spawns s'.spawns ∧
      (WithinLimit mgr s.spawns poolId → WithinLimit mgr s'.spawns poolId) := by
  induction fuel generalizing visiting poolId s with
  | zero => exact absurd hfuel (Nat.not_lt_zero _)
  | succ fuel ih =>
    have hnew : poolId ∉ visiting := fun hmem => hmgr.acyclic poolId (hvisiting poolId hmem)
    have hopen : ∀ child, mgr.Child poolId child →
        (∀ v ∈ poolId :: visiting, TransGen mgr.Child v child) ∧
        (unvisited mgr (poolId :: visiting)).card < fuel := by
      intro child hchild
      refine ⟨fun v hv => ?_, ?_⟩
      · rcases List.mem_cons.mp hv with rfl | hv
        · exact .single hchild
        · exact .tail (hvisiting v hv) hchild
      · have hlt := card_unvisited_lt hchild hnew
        omega
    have hspawn : SpawnsChildren mgr poolId
        (mgr.spawnPoolPlanWithVisited dice fuel (poolId :: visiting)) :=
      fun child s hchild hexact hplaced => ih (poolId :: visiting) child s
        (hopen child hchild).1 (hopen child hchild).2 hexact hplaced
    have hdespawn : ∀ always, DespawnsChildren mgr poolId fun child =>
        (mgr.despawnPoolPlanWithVisited fuel (poolId :: visiting) child always :
          PlanM σ PoolDespawnPoolPlan) :=
      fun always child s hchild hexact => despawnPoolPlanWithVisited_spec hmgr fuel _ child s
        always (hopen child hchild).1 (hopen child hchild).2 hexact
    rw [PoolMgr.spawnPoolPlanWithVisited, if_neg hnew]
    refine (Succeeds.mapM (fun _ s' => Spawned mgr poolId s.spawns s'.spawns ∧
      (WithinLimit mgr s.spawns poolId → WithinLimit mgr s'.spawns poolId)) ?_
      ⟨.refl hexact, fun h => h⟩).bind fun subplans s' h => .pure h
    rintro kind rest s' ⟨hspawned, hlimit⟩
    refine (spawnTypedPoolPlan_spec hmgr hspawn hdespawn hspawned.exact (hspawned.placed hplaced)
      (.inl rfl) dice).mono fun _ s'' h => ⟨hspawned.trans (h.spawned rfl), fun hq => ?_⟩
    exact h.limits poolId (hlimit hq)

theorem spawnPoolPlan_spec (dice : PoolDice σ) (hexact : Exact mgr s.spawns)
    (hplaced : Placed mgr s.spawns poolId) :
    Succeeds (mgr.spawnPoolPlan dice poolId) s fun _ s' =>
      Exact mgr s'.spawns ∧ ∀ q, WithinLimit mgr s.spawns q → WithinLimit mgr s'.spawns q := by
  refine (spawnPoolPlanWithVisited_spec hmgr dice mgr.fuel [] poolId s (by simp)
    (card_unvisited_nil_lt mgr) hexact hplaced).mono fun _ s' h => ⟨h.1.exact, fun q hq => ?_⟩
  by_cases hself : q = poolId
  · subst hself
    exact h.2 hq
  · exact h.1.limits q hself hq

theorem spawnTypedPoolPlan_top_spec (dice : PoolDice σ) (kind : PoolMemberKind)
    (hexact : Exact mgr s.spawns) (hplaced : Placed mgr s.spawns poolId) {triggerFrom : ℕ}
    (hx : (kind, triggerFrom) ∈ mgr.members poolId)
    (hspawned : s.spawns.isSpawned (kind, triggerFrom) = true) :
    Succeeds (mgr.spawnTypedPoolPlan dice kind poolId triggerFrom
      (mgr.spawnPoolPlanWithVisited dice mgr.fuel [])
      (mgr.despawnPoolPlanWithVisited mgr.fuel [])) s fun _ s' =>
      Exact mgr s'.spawns ∧ ∀ q, WithinLimit mgr s.spawns q → WithinLimit mgr s'.spawns q := by
  refine (spawnTypedPoolPlan_spec hmgr ?_ ?_ hexact hplaced (.inr ⟨hx, hspawned⟩) dice).mono
    fun _ s' h => ⟨h.exact, h.limits⟩
  · exact fun child s _ hexact hplaced => spawnPoolPlanWithVisited_spec hmgr dice mgr.fuel [] child
      s (by simp) (card_unvisited_nil_lt mgr) hexact hplaced
  · exact fun always child s _ hexact => despawnPoolPlanWithVisited_spec hmgr mgr.fuel [] child s
      always (by simp) (card_unvisited_nil_lt mgr) hexact

def SpawnObjectType.memberKind : SpawnObjectType → Option PoolMemberKind
  | .creature => some .creature
  | .gameObject => some .gameObject
  | .areaTrigger => none

theorem updatePoolPlan_spec (dice : PoolDice σ) (hexact : Exact mgr s.spawns)
    {spawnType : SpawnObjectType} {spawnId : ℕ} (hkind : spawnType.memberKind = some kind)
    (hx : (kind, spawnId) ∈ mgr.members poolId)
    (hspawned : s.spawns.isSpawned (kind, spawnId) = true) :
    Succeeds (mgr.updatePoolPlan dice poolId spawnType spawnId) s fun _ s' =>
      Exact mgr s'.spawns ∧ ∀ q, WithinLimit mgr s.spawns q → WithinLimit mgr s'.spawns q := by
  have htype : spawnType ≠ .areaTrigger := by
    rintro rfl
    cases hkind
  simp only [PoolMgr.updatePoolPlan, if_neg htype]
  cases hmother : mgr.childPoolToParent.lookup poolId with
  | some motherPoolId =>
    have hchild := (hmgr.parents motherPoolId poolId).mp hmother
    have hentry := hexact.isSpawnedPool hx hspawned
    rw [← isSpawned_pool hmgr _ hchild] at hentry
    exact spawnTypedPoolPlan_top_spec hmgr dice .pool hexact (hexact.placed hchild hentry) hchild
      hentry
  | none =>
    have hmember : (if spawnType = .creature then PoolMemberKind.creature else .gameObject) =
        kind := by
      cases spawnType <;> cases hkind <;> rfl
    simp only [hmember]
    exact spawnTypedPoolPlan_top_spec hmgr dice kind hexact (hexact.placed hx hspawned) hx hspawned

end Pools

end RustyCore.Pools
