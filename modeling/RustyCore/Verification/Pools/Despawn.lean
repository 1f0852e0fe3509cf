import Mathlib.Data.Finset.Card
import RustyCore.Verification.Pools.Members

/-! # Despawning pools

Despawning a pool keeps the tally, spawns nothing, and leaves no member of the pool. The
recursion ends, as each open call is for another pool that has child pools. -/

namespace RustyCore.Pools

open Relation

/-- The data below `poolId` shrink: no pool outside loses its entry. -/
structure Despawned (mgr : PoolMgr) (poolId : ℕ) (spawns spawns' : SpawnedPoolData) : Prop where
  exact : Exact mgr spawns'
  fewer : ∀ x, spawns'.isSpawned x = true → spawns.isSpawned x = true
  entries : ∀ q, ¬ TransGen mgr.Child poolId q → spawns'.isSpawnedPool q = spawns.isSpawnedPool q

namespace Despawned

variable {mgr : PoolMgr} {poolId : ℕ} {spawns spawns' spawns'' : SpawnedPoolData}

theorem refl (h : Exact mgr spawns) : Despawned mgr poolId spawns spawns :=
  ⟨h, fun _ hx => hx, fun _ _ => rfl⟩

theorem trans (h : Despawned mgr poolId spawns spawns')
    (h' : Despawned mgr poolId spawns' spawns'') : Despawned mgr poolId spawns spawns'' :=
  ⟨h'.exact, fun x hx => h.fewer x (h'.fewer x hx),
    fun q hq => (h'.entries q hq).trans (h.entries q hq)⟩

theorem of_child {child : ℕ} (h : Despawned mgr child spawns spawns')
    (hchild : mgr.Child poolId child) : Despawned mgr poolId spawns spawns' :=
  ⟨h.exact, h.fewer, fun q hq => h.entries q fun hbelow => hq (.head hchild hbelow)⟩

theorem free (h : Despawned mgr poolId spawns spawns') {x : PoolMemberKind × ℕ}
    (hx : spawns.isSpawned x = false) : spawns'.isSpawned x = false :=
  Bool.eq_false_iff.mpr fun hx' => Bool.eq_false_iff.mp hx (h.fewer x hx')

theorem le (h : Despawned mgr poolId spawns spawns') (hexact : Exact mgr spawns) (q : ℕ) :
    spawns'.getSpawnedObjects q ≤ spawns.getSpawnedObjects q :=
  Tallies.le_of_imp hexact h.exact h.fewer q

theorem withinLimit (h : Despawned mgr poolId spawns spawns') (hexact : Exact mgr spawns) {q : ℕ}
    (hq : WithinLimit mgr spawns q) : WithinLimit mgr spawns' q :=
  fun template ht => (h.le hexact q).trans (hq template ht)

end Despawned

theorem Removed.despawned {mgr : PoolMgr} (hmgr : mgr.WellFormed) {poolId : ℕ}
    {x : PoolMemberKind × ℕ} {spawns spawns' : SpawnedPoolData}
    (h : Removed spawns poolId x spawns') (hexact : Exact mgr spawns)
    (hx : x ∈ mgr.members poolId) (hspawned : spawns.isSpawned x = true) :
    Despawned mgr poolId spawns spawns' := by
  refine ⟨h.exact hmgr hexact hx hspawned, ?_, ?_⟩
  · intro y hy
    rw [h.marks, Bool.and_eq_true] at hy
    exact hy.1
  · intro q hq
    by_cases hpool : q = poolId
    · subst hpool
      rw [h.placed, hexact.isSpawnedPool hx hspawned]
    · have hself : (PoolMemberKind.pool, q) ≠ x := by
        rintro rfl
        exact hq (.single hx)
      rw [SpawnedPoolData.isSpawnedPool, h.pools q hpool hself]
      rfl

def DespawnsChildren {σ α : Type} (mgr : PoolMgr) (poolId : ℕ) (call : ℕ → PlanM σ α) : Prop :=
  ∀ child s, mgr.Child poolId child → Exact mgr s.spawns → Succeeds (call child) s fun _ s' =>
    Despawned mgr child s.spawns s'.spawns ∧ s'.spawns.getSpawnedObjects child = 0

/-- The members of `group` that are not despawned yet are among those to come. -/
structure ObjectsLeft {σ δ : Type} (mgr : PoolMgr) (kind : PoolMemberKind) (poolId : ℕ)
    (group : PoolGroup) (s : PlanState σ) (rest : List PoolObject)
    (plan : PoolDespawnObjectPlan δ) (s' : PlanState σ) : Prop where
  all : plan.requestedGuid = 0
  despawned : Despawned mgr poolId s.spawns s'.spawns
  members : ∀ object ∈ rest, object.guid ∈ group.guids
  left : ∀ guid ∈ group.guids,
    guid ∈ rest.map PoolObject.guid ∨ s'.spawns.isSpawned (kind, guid) = false

/-- The members of all kinds but those to come are despawned. -/
structure KindsLeft {σ : Type} (mgr : PoolMgr) (poolId : ℕ) (s : PlanState σ)
    (rest : List PoolMemberKind) (s' : PlanState σ) : Prop where
  despawned : Despawned mgr poolId s.spawns s'.spawns
  done : ∀ kind, kind ∉ rest → ∀ guid ∈ mgr.guids kind poolId,
    s'.spawns.isSpawned (kind, guid) = false

section Groups

variable {σ δ : Type} {mgr : PoolMgr} (hmgr : mgr.WellFormed) {kind : PoolMemberKind}
  {poolId guid : ℕ} {group : PoolGroup} (hgroup : mgr.group kind poolId = some group)
  {s : PlanState σ}
include hmgr hgroup

theorem succeeds_callChildPool {call : ℕ → PlanM σ δ} (P : PlanState σ → Prop)
    (hx : (kind, guid) ∈ mgr.members poolId)
    (hchild : kind = .pool → Succeeds (call guid) s fun _ => P) (hother : kind ≠ .pool → P s) :
    Succeeds (group.callChildPool guid call) s fun _ => P := by
  obtain ⟨rfl, rfl⟩ := hmgr.registered kind poolId group hgroup
  rw [PoolGroup.callChildPool]
  by_cases hkind : group.memberKind = .pool
  · rw [if_pos hkind]
    rw [hkind] at hx
    simp only [hmgr.childPoolIdOf_eq hx]
    exact .map (hchild hkind)
  · rw [if_neg hkind]
    exact .pure (hother hkind)

theorem despawnMember_spec {call : ℕ → PlanM σ δ}
    (hcall : kind = .pool → DespawnsChildren mgr poolId call)
    (hexact : Exact mgr s.spawns) (hx : (kind, guid) ∈ mgr.members poolId)
    (hspawned : s.spawns.isSpawned (kind, guid) = true) :
    Succeeds (group.despawnMember guid call) s fun _ s' =>
      Despawned mgr poolId s.spawns s'.spawns ∧ s'.spawns.isSpawned (kind, guid) = false ∧
      s'.spawns.getSpawnedObjects poolId + 1 ≤ s.spawns.getSpawnedObjects poolId := by
  -- What holds once the pools below the member are empty.
  have hemptied : Succeeds (group.callChildPool guid call) s fun _ s' =>
      Despawned mgr poolId s.spawns s'.spawns ∧ s'.spawns.isSpawned (kind, guid) = true ∧
      (kind = .pool → s'.spawns.getSpawnedObjects guid = 0) := by
    refine succeeds_callChildPool hmgr hgroup _ hx ?_ ?_
    · rintro rfl
      refine (hcall rfl guid s hx hexact).mono fun _ s' h => ?_
      refine ⟨h.1.of_child hx, ?_, fun _ => h.2⟩
      rw [isSpawned_pool hmgr _ hx] at hspawned ⊢
      rw [h.1.entries guid (hmgr.acyclic guid), hspawned]
    · exact fun hkind => ⟨.refl hexact, hspawned, fun h => absurd h hkind⟩
  refine hemptied.bind fun childPlans s' h => ?_
  obtain ⟨hdespawned, hspawned', hempty⟩ := h
  refine (removeSpawnFromMap_spec hmgr hdespawned.exact hgroup hx hspawned' hempty).bind
    fun removed s'' hremoved => ?_
  refine .pure ⟨hdespawned.trans (hremoved.despawned hmgr hdespawned.exact hx hspawned'), ?_, ?_⟩
  · simp [hremoved.marks]
  · have hpos := Tallies.pos hdespawned.exact hx hspawned'
    have hle := hdespawned.le hexact poolId
    rw [hremoved.counters, if_pos rfl]
    omega

theorem despawnObject_spec {call : ℕ → Bool → PlanM σ δ}
    (hcall : ∀ always, DespawnsChildren mgr poolId (call · always))
    (hexact : Exact mgr s.spawns) {object : PoolObject}
    (hx : (kind, object.guid) ∈ mgr.members poolId) {plan : PoolDespawnObjectPlan δ}
    (hall : plan.requestedGuid = 0) :
    Succeeds (group.despawnObject call plan object) s fun plan' s' =>
      plan'.requestedGuid = 0 ∧ Despawned mgr poolId s.spawns s'.spawns ∧
      s'.spawns.isSpawned (kind, object.guid) = false := by
  obtain ⟨hpool, hkind⟩ := hmgr.registered kind poolId group hgroup
  have hfits : ¬ (group.memberKind = .pool ∧ childPoolIdOf object.guid = none) := by
    rintro ⟨hmember, hnone⟩
    rw [← hkind, hmember] at hx
    rw [hmgr.childPoolIdOf_eq hx] at hnone
    cases hnone
  rw [PoolGroup.despawnObject, if_neg hfits]
  refine succeeds_readSpawns_bind ?_
  rw [group.isSpawnedInMap_eq, hkind]
  cases hspawned : s.spawns.isSpawned (kind, object.guid) with
  | true =>
    rw [if_pos rfl, if_pos (.inl hall)]
    refine (despawnMember_spec hmgr hgroup (fun _ => hcall _) hexact hx hspawned).bind fun _ s' h => ?_
    exact .pure ⟨hall, h.1, h.2.1⟩
  | false =>
    rw [if_neg Bool.false_ne_true]
    split
    · exact .pure ⟨hall, .refl hexact, hspawned⟩
    · exact .pure ⟨hall, .refl hexact, hspawned⟩

theorem despawnObjectPlan_spec {call : ℕ → Bool → PlanM σ δ}
    (hcall : ∀ always, DespawnsChildren mgr poolId (call · always))
    (hexact : Exact mgr s.spawns) (always : Bool) :
    Succeeds (group.despawnObjectPlan 0 always call) s fun _ s' =>
      Despawned mgr poolId s.spawns s'.spawns ∧
      ∀ guid ∈ group.guids, s'.spawns.isSpawned (kind, guid) = false := by
  have hmembers : ∀ guid ∈ group.guids, (kind, guid) ∈ mgr.members poolId := by
    intro guid hguid
    rw [PoolMgr.mem_members, PoolMgr.guids_eq hgroup]
    exact hguid
  have hguids : ∀ guid, guid ∈ group.guids ↔
      guid ∈ (group.equalChanced ++ group.explicitlyChanced).map PoolObject.guid := by
    intro guid
    rw [PoolGroup.guids, List.map_append, List.map_append, List.mem_append, List.mem_append,
      or_comm]
  refine (Succeeds.foldlM (ObjectsLeft mgr kind poolId group s) ?_ ?_).mono ?_
  · rintro object rest plan s' h
    have hobject := hmembers _ (h.members object (by simp))
    refine (despawnObject_spec hmgr hgroup hcall h.despawned.exact hobject h.all).mono
      fun plan' s'' h' => ?_
    refine ⟨h'.1, h.despawned.trans h'.2.1, fun o ho => h.members o (by simp [ho]), ?_⟩
    intro guid hguid
    rcases h.left guid hguid with hmem | hfree
    · rw [List.map_cons, List.mem_cons] at hmem
      rcases hmem with rfl | hmem
      · exact .inr h'.2.2
      · exact .inl hmem
    · exact .inr (h'.2.1.free hfree)
  · refine ⟨rfl, .refl hexact, ?_, fun guid hguid => .inl ((hguids guid).mp hguid)⟩
    exact fun object hobject => (hguids object.guid).mpr (List.mem_map_of_mem hobject)
  · intro plan s' h
    exact ⟨h.despawned, fun guid hguid => (h.left guid hguid).resolve_left (by simp)⟩

end Groups

section Pools

variable {σ : Type} {mgr : PoolMgr} (hmgr : mgr.WellFormed) {poolId : ℕ} {s : PlanState σ}
include hmgr

theorem despawnTypedPoolPlan_spec {call : ℕ → Bool → PlanM σ PoolDespawnPoolPlan}
    (hcall : ∀ always, DespawnsChildren mgr poolId (call · always))
    (hexact : Exact mgr s.spawns) (kind : PoolMemberKind) (always : Bool) :
    Succeeds (mgr.despawnTypedPoolPlan kind poolId 0 always call) s fun _ s' =>
      Despawned mgr poolId s.spawns s'.spawns ∧
      ∀ guid ∈ mgr.guids kind poolId, s'.spawns.isSpawned (kind, guid) = false := by
  rw [PoolMgr.despawnTypedPoolPlan]
  cases hgroup : mgr.group kind poolId with
  | none =>
    refine .pure ⟨.refl hexact, ?_⟩
    simp [PoolMgr.guids, hgroup]
  | some group =>
    simp only [PoolMgr.guids_eq hgroup]
    by_cases hempty : group.isEmpty = true
    · rw [if_pos hempty]
      refine .pure ⟨.refl hexact, ?_⟩
      rw [PoolGroup.isEmpty, Bool.and_eq_true, List.isEmpty_iff, List.isEmpty_iff] at hempty
      simp [PoolGroup.guids, hempty]
    · rw [if_neg hempty]
      refine (despawnObjectPlan_spec hmgr hgroup hcall hexact always).bind fun _ s' h => ?_
      exact .pure h

/-- The pools with child pools whose calls are not open yet. -/
def unvisited (mgr : PoolMgr) (visiting : List ℕ) : Finset ℕ :=
  mgr.poolGroups.keys.toFinset \ visiting.toFinset

omit hmgr in
theorem card_unvisited_lt {visiting : List ℕ} {child : ℕ} (hchild : mgr.Child poolId child)
    (hnew : poolId ∉ visiting) :
    (unvisited mgr (poolId :: visiting)).card < (unvisited mgr visiting).card := by
  have hkey : poolId ∈ mgr.poolGroups.keys := by
    rw [PoolMgr.Child, PoolMgr.mem_members, PoolMgr.guids] at hchild
    rw [← AList.mem_keys, ← AList.lookup_isSome]
    cases hgroup : mgr.group .pool poolId with
    | none =>
      rw [hgroup] at hchild
      simp at hchild
    | some group =>
      rw [PoolMgr.group] at hgroup
      rw [hgroup]
      rfl
  refine Finset.card_lt_card ⟨?_, fun hsub => ?_⟩
  · intro q hq
    simp only [unvisited, Finset.mem_sdiff, List.mem_toFinset, List.mem_cons, not_or] at hq ⊢
    exact ⟨hq.1, hq.2.2⟩
  · have hmem : poolId ∈ unvisited mgr visiting := by simp [unvisited, hkey, hnew]
    have hnot := hsub hmem
    simp [unvisited] at hnot

omit hmgr in
/-- The fuel of a call from outside is enough for every pool that has child pools. -/
theorem card_unvisited_nil_lt (mgr : PoolMgr) : (unvisited mgr []).card < mgr.fuel := by
  refine Nat.lt_succ_of_le ((Finset.card_le_card ?_).trans mgr.poolGroups.keys.toFinset_card_le)
  exact Finset.sdiff_subset

/-- The open calls are for pools above, so that a forest is never visited in a circle. -/
theorem despawnPoolPlanWithVisited_spec (fuel : ℕ) (visiting : List ℕ) (poolId : ℕ)
    (s : PlanState σ) (always : Bool) (hvisiting : ∀ v ∈ visiting, TransGen mgr.Child v poolId)
    (hfuel : (unvisited mgr visiting).card < fuel) (hexact : Exact mgr s.spawns) :
    Succeeds (mgr.despawnPoolPlanWithVisited fuel visiting poolId always) s fun _ s' =>
      Despawned mgr poolId s.spawns s'.spawns ∧ s'.spawns.getSpawnedObjects poolId = 0 := by
  induction fuel generalizing visiting poolId s always with
  | zero => exact absurd hfuel (Nat.not_lt_zero _)
  | succ fuel ih =>
    have hnew : poolId ∉ visiting := fun hmem => hmgr.acyclic poolId (hvisiting poolId hmem)
    have hcall : ∀ always, DespawnsChildren mgr poolId fun child =>
        (mgr.despawnPoolPlanWithVisited fuel (poolId :: visiting) child always :
          PlanM σ PoolDespawnPoolPlan) := by
      intro always child s hchild hexact
      refine ih (poolId :: visiting) child s always ?_ ?_ hexact
      · intro v hv
        rcases List.mem_cons.mp hv with rfl | hv
        · exact .single hchild
        · exact .tail (hvisiting v hv) hchild
      · have hlt := card_unvisited_lt hchild hnew
        omega
    rw [PoolMgr.despawnPoolPlanWithVisited, if_neg hnew]
    refine (Succeeds.mapM (KindsLeft mgr poolId s) ?_ ?_).bind fun subplans s' h => ?_
    · rintro kind rest s' h
      refine (despawnTypedPoolPlan_spec hmgr hcall h.despawned.exact kind always).mono
        fun _ s'' h' => ⟨h.despawned.trans h'.1, fun kind' hkind' guid hguid => ?_⟩
      by_cases heq : kind' = kind
      · subst heq
        exact h'.2 guid hguid
      · exact h'.1.free (h.done kind' (by simp [heq, hkind']) guid hguid)
    · refine ⟨.refl hexact, fun kind hkind => ?_⟩
      cases kind <;> simp at hkind
    · refine .pure ⟨h.despawned, ?_⟩
      rw [Tallies.eq_zero_iff h.despawned.exact]
      rintro ⟨kind, guid⟩ hx
      exact h.done kind (by simp) guid (PoolMgr.mem_members.mp hx)

theorem despawnPoolPlan_spec (hexact : Exact mgr s.spawns) (always : Bool) :
    Succeeds (mgr.despawnPoolPlan poolId always) s fun _ s' =>
      Despawned mgr poolId s.spawns s'.spawns ∧ s'.spawns.getSpawnedObjects poolId = 0 :=
  despawnPoolPlanWithVisited_spec hmgr _ [] poolId s always (by simp)
    (card_unvisited_nil_lt mgr) hexact

omit hmgr in
theorem nothing_below_spawned (hmgr : mgr.WellFormed) {spawns : SpawnedPoolData}
    (hexact : Exact mgr spawns) (hzero : spawns.getSpawnedObjects poolId = 0) {q : ℕ}
    (hbelow : ReflTransGen mgr.Child poolId q) :
    ∀ x ∈ mgr.members q, spawns.isSpawned x = false := by
  rw [← Tallies.eq_zero_iff hexact]
  induction hbelow with
  | refl => exact hzero
  | tail _ hchild ih =>
    have hfree := (Tallies.eq_zero_iff hexact).mp ih _ hchild
    rw [isSpawned_pool hmgr spawns hchild] at hfree
    exact getSpawnedObjects_of_not_isSpawnedPool hfree

end Pools

end RustyCore.Pools
