import RustyCore.Verification.Pools.Members

/-! # Failed despawns

A call that fails leaves the data as it has changed them so far. A despawn only takes members
away, so that the data are as before exactly where it is refused before its first change. -/

namespace RustyCore.Pools

variable {spawns' spawns'' : SpawnedPoolData} {opened : List ℕ}
  {refused : SpawnedPoolData → ℕ → Prop}
variable {x : PoolMemberKind × ℕ}

/-! ## Programs that change nothing by themselves -/

section Programs

variable {σ α β : Type} {s : PlanState σ} {fail : PlanState σ → Prop}

theorem ends_readSpawns_bind {f : SpawnedPoolData → PlanM σ α} {post : α → PlanState σ → Prop}
    (h : Ends (f s.spawns) s post fail) : Ends (readSpawns >>= f) s post fail := h

theorem ends_draw_bind {closure : σ → α × σ} {f : α → PlanM σ β} {post : β → PlanState σ → Prop}
    (h : ∀ a dice, Ends (f a) { s with dice := dice } post fail) :
    Ends (draw closure >>= f) s post fail := h _ _

theorem ends_tryWrite {spawns : SpawnedPoolData} {post : Bool → PlanState σ → Prop}
    (h : post true { s with spawns := spawns }) : Ends (tryWrite (some spawns)) s post fail := h

end Programs

/-! ## What a despawn takes away -/

def Outside (opened : List ℕ) (x : PoolMemberKind × ℕ) : Prop := ∀ q ∈ opened, x ≠ (.pool, q)

/-- Nothing is spawned anew, apart from the marks of the open pools. -/
def Shrunk (opened : List ℕ) (spawns spawns' : SpawnedPoolData) : Prop :=
  ∀ x, Outside opened x → spawns'.isSpawned x = true → spawns.isSpawned x = true

structure Lost (opened : List ℕ) (spawns spawns' : SpawnedPoolData) : Prop where
  shrunk : Shrunk opened spawns spawns'
  lost : ∃ x, Outside opened x ∧ spawns.isSpawned x = true ∧ spawns'.isSpawned x = false

section Losses

variable {opened : List ℕ} {spawns spawns' spawns'' : SpawnedPoolData} {child : ℕ}

theorem Shrunk.refl (opened : List ℕ) (spawns : SpawnedPoolData) : Shrunk opened spawns spawns :=
  fun _ _ h => h

theorem Shrunk.trans (h : Shrunk opened spawns spawns') (h' : Shrunk opened spawns' spawns'') :
    Shrunk opened spawns spawns'' :=
  fun x hx hspawned => h x hx (h' x hx hspawned)

theorem Lost.trans (h : Lost opened spawns spawns') (h' : Shrunk opened spawns' spawns'') :
    Lost opened spawns spawns'' := by
  obtain ⟨x, hx, hbefore, hafter⟩ := h.lost
  refine ⟨h.shrunk.trans h', x, hx, hbefore, ?_⟩
  cases hfinal : spawns''.isSpawned x with
  | false => rfl
  | true => exact absurd (h' x hx hfinal) (by rw [hafter]; simp)

theorem Shrunk.close (h : Shrunk (child :: opened) spawns spawns')
    (hchild : spawns.isSpawned (.pool, child) = true) : Shrunk opened spawns spawns' := by
  intro x hx hspawned
  by_cases heq : x = (.pool, child)
  · rw [heq]
    exact hchild
  · refine h x (fun q hq => ?_) hspawned
    rcases List.mem_cons.mp hq with rfl | hq
    · exact heq
    · exact hx q hq

theorem Lost.close (h : Lost (child :: opened) spawns spawns')
    (hchild : spawns.isSpawned (.pool, child) = true) : Lost opened spawns spawns' := by
  obtain ⟨x, hx, hbefore, hafter⟩ := h.lost
  exact ⟨h.shrunk.close hchild, x, fun q hq => hx q (List.mem_cons_of_mem _ hq), hbefore, hafter⟩

theorem Lost.ne (h : Lost opened spawns spawns') : spawns'.isSpawned ≠ spawns.isSpawned := by
  obtain ⟨x, -, hbefore, hafter⟩ := h.lost
  intro heq
  rw [heq, hbefore] at hafter
  cases hafter

end Losses

def Without (opened : List ℕ) (x : PoolMemberKind × ℕ) (spawns spawns' : SpawnedPoolData) : Prop :=
  ∀ y, Outside opened y → spawns'.isSpawned y = (spawns.isSpawned y && !decide (y = x))

theorem Without.shrunk {spawns : SpawnedPoolData} (h : Without opened x spawns spawns') :
    Shrunk opened spawns spawns' := by
  intro y hy hafter
  rw [h y hy, Bool.and_eq_true] at hafter
  exact hafter.1

/-- A member that was spawned before what came first is lost by now. -/
theorem Without.lost {spawns : SpawnedPoolData} (h : Without opened x spawns' spawns'')
    (hx : Outside opened x) (hspawned : spawns.isSpawned x = true)
    (hshrunk : Shrunk opened spawns spawns') : Lost opened spawns spawns'' :=
  ⟨hshrunk.trans h.shrunk, x, hx, hspawned, by simp [h x hx]⟩

theorem isSpawned_pool_of_lookup {spawns : SpawnedPoolData} {guid : ℕ} {keep : Bool}
    (h : (spawns'.spawnedPools.lookup guid).isSome =
      ((spawns.spawnedPools.lookup guid).isSome && keep)) :
    spawns'.isSpawned (.pool, guid) = (spawns.isSpawned (.pool, guid) && keep) := by
  rw [SpawnedPoolData.isSpawned, SpawnedPoolData.isSpawned, childPoolIdOf]
  split
  · exact h
  · rfl

/-- The member is taken away; its pool, which is open, has a counter after that. -/
theorem ends_removeSpawn {σ : Type} {group : PoolGroup} (guid : ℕ) {s : PlanState σ}
    {fail : PlanState σ → Prop} (hopen : group.poolId ∈ opened) :
    Ends (group.removeSpawnFromMap guid) s
      (fun _ s' => Without opened (group.memberKind, guid) s.spawns s'.spawns) fail := by
  have hne : ∀ q, Outside opened (.pool, q) → q ≠ group.poolId := by
    rintro q hq rfl
    exact hq group.poolId hopen rfl
  refine ends_readSpawns_bind ?_
  cases hkind : group.memberKind with
  | creature =>
    refine ends_tryWrite ?_
    rintro ⟨kind, g⟩ hg
    cases kind with
    | creature =>
      simp [SpawnedPoolData.isSpawned, SpawnedPoolData.isSpawnedCreature, Bool.and_comm]
    | gameObject => simp [SpawnedPoolData.isSpawned, SpawnedPoolData.isSpawnedGameobject]
    | pool => exact isSpawned_pool_of_lookup (by simp [hne g hg])
  | gameObject =>
    refine ends_tryWrite ?_
    rintro ⟨kind, g⟩ hg
    cases kind with
    | creature => simp [SpawnedPoolData.isSpawned, SpawnedPoolData.isSpawnedCreature]
    | gameObject =>
      simp [SpawnedPoolData.isSpawned, SpawnedPoolData.isSpawnedGameobject, Bool.and_comm]
    | pool => exact isSpawned_pool_of_lookup (by simp [hne g hg])
  | pool =>
    by_cases hfits : guid < 2 ^ 32
    · rw [childPoolIdOf, if_pos hfits]
      refine ends_tryWrite ?_
      rintro ⟨kind, g⟩ hg
      cases kind with
      | creature => simp [SpawnedPoolData.isSpawned]
      | gameObject => simp [SpawnedPoolData.isSpawned]
      | pool =>
        refine isSpawned_pool_of_lookup ?_
        simp only [SpawnedPoolData.removePoolSpawn, lookup_decrementPoolCounter,
          if_neg (hne g hg), Dict.lookup_erase_eq, Prod.mk.injEq, true_and]
        by_cases heq : g = guid <;> simp [heq]
    · -- An id that does not fit is never spawned.
      rw [childPoolIdOf, if_neg hfits]
      refine Ends.pure ?_
      rintro ⟨kind, g⟩ -
      by_cases heq : (kind, g) = (PoolMemberKind.pool, guid)
      · rw [heq, SpawnedPoolData.isSpawned, childPoolIdOf, if_neg hfits]
        rfl
      · simp [heq]

/-! ## The despawn -/

/-- The first of the objects that is spawned, or whose id does not fit, is one that fails. -/
def FirstFails (spawns : SpawnedPoolData) (fails : ℕ → Prop) : List PoolObject → Prop
  | [] => False
  | object :: rest =>
    match childPoolIdOf object.guid with
    | none => True
    | some child =>
      if spawns.isSpawnedPool child then fails child else FirstFails spawns fails rest

def PoolMgr.despawnOrder (mgr : PoolMgr) (poolId : ℕ) : List PoolObject :=
  ((mgr.group .pool poolId).map fun group => group.equalChanced ++ group.explicitlyChanced).getD []

/-- The despawn of a pool fails before it takes anything away: its call is open already, or
none of its creatures and game objects is spawned, and its first child pool in question does
not fit or is refused in the same way. -/
def PoolMgr.DespawnRefused (mgr : PoolMgr) (spawns : SpawnedPoolData) :
    (fuel : ℕ) → (visiting : List ℕ) → (poolId : ℕ) → Prop
  | 0, _, _ => True
  | fuel + 1, visiting, poolId =>
    poolId ∈ visiting ∨
      (∀ kind, kind ≠ .pool → ∀ guid ∈ mgr.guids kind poolId,
        spawns.isSpawned (kind, guid) = false) ∧
      FirstFails spawns (mgr.DespawnRefused spawns fuel (poolId :: visiting))
        (mgr.despawnOrder poolId)

section Despawn

variable {σ δ : Type}
variable {spawns : SpawnedPoolData} {guid child : ℕ}
variable {call : ℕ → Bool → PlanM σ δ} {object : PoolObject}

/-- A call that fails at once where it is refused, and otherwise only takes members away,
some of them when it fails. -/
def DespawnCall (refused : SpawnedPoolData → ℕ → Prop) (opened : List ℕ) (call : ℕ → PlanM σ δ) :
    Prop :=
  ∀ child s, Ends (call child) s
    (fun _ s' => ¬refused s.spawns child ∧ Shrunk (child :: opened) s.spawns s'.spawns)
    fun s' => refused s.spawns child ∧ s'.spawns = s.spawns ∨
      ¬refused s.spawns child ∧ Lost (child :: opened) s.spawns s'.spawns

variable {group : PoolGroup} {opened : List ℕ} {s : PlanState σ}

/-- One object of a despawn of the whole group: nothing happens to a member that is not
spawned. -/
theorem ends_despawnObject {plan : PoolDespawnObjectPlan δ} (post : PlanState σ → Prop)
    {fail : PlanState σ → Prop} (hall : plan.requestedGuid = 0)
    (hoverflow : group.memberKind = .pool → childPoolIdOf object.guid = none → fail s)
    (hfree : (group.memberKind = .pool → childPoolIdOf object.guid ≠ none) →
      s.spawns.isSpawned (group.memberKind, object.guid) = false → post s)
    (hspawned : s.spawns.isSpawned (group.memberKind, object.guid) = true →
      Ends (group.despawnMember object.guid fun child => call child plan.alwaysDeleteRespawnTime)
        s (fun _ s' => post s') fail) :
    Ends (group.despawnObject call plan object) s
      (fun plan' s' => plan'.requestedGuid = 0 ∧ post s') fail := by
  unfold PoolGroup.despawnObject
  split
  case isTrue h => exact .throw (hoverflow h.1 h.2)
  case isFalse hfits =>
    refine ends_readSpawns_bind ?_
    rw [group.isSpawnedInMap_eq]
    split
    case isTrue hmember =>
      rw [if_pos (.inl hall)]
      refine (hspawned hmember).bind fun result s' hs' => ?_
      exact .pure ⟨hall, hs'⟩
    case isFalse hmember =>
      have hpost := hfree (fun hpool hnone => hfits ⟨hpool, hnone⟩) (Bool.eq_false_iff.mpr hmember)
      split
      · exact .pure ⟨hall, hpost⟩
      · exact .pure ⟨hall, hpost⟩

/-- Nothing was taken away and none of the members is spawned, or some were and one was. -/
def PoolGroup.Cleared (group : PoolGroup) (opened guids : List ℕ)
    (spawns spawns' : SpawnedPoolData) : Prop :=
  spawns' = spawns ∧ (∀ guid ∈ guids, spawns.isSpawned (group.memberKind, guid) = false) ∨
    Lost opened spawns spawns' ∧ ∃ guid ∈ group.guids,
      spawns.isSpawned (group.memberKind, guid) = true

/-- The creatures or the game objects of a pool: no call is made and nothing fails. -/
theorem ends_despawnObjects (hkind : group.memberKind ≠ .pool) (hopen : group.poolId ∈ opened)
    (call : ℕ → Bool → PlanM σ δ) (always : Bool) :
    Ends (group.despawnObjectPlan 0 always call) s
      (fun _ s' => group.Cleared opened group.guids s.spawns s'.spawns) fun _ => False := by
  have houtside : ∀ guid, Outside opened (group.memberKind, guid) := by
    intro guid q _ heq
    exact hkind (congrArg Prod.fst heq)
  unfold PoolGroup.despawnObjectPlan
  refine (Ends.foldlM (fun rest plan s' => plan.requestedGuid = 0 ∧
    (∀ object ∈ rest, object.guid ∈ group.guids) ∧ ∃ guids, group.Cleared opened guids s.spawns
      s'.spawns ∧ ∀ guid ∈ group.guids, guid ∈ guids ∨ guid ∈ rest.map PoolObject.guid) ?_ ?_).mono
    ?_ fun _ h => h
  · rintro object rest plan s' ⟨hall, hrest, guids, hcleared, hguids⟩
    have hobject := hrest object List.mem_cons_self
    refine (ends_despawnObject (fun s' => ∃ guids, group.Cleared opened guids s.spawns
      s'.spawns ∧ ∀ guid ∈ group.guids, guid ∈ guids ∨ guid ∈ rest.map PoolObject.guid) hall
      (fun hpool => absurd hpool hkind) (fun _ hfree => ?_) fun hspawned => ?_).mono
      (fun plan' s'' h => ⟨h.1, fun object' h' => hrest object' (List.mem_cons_of_mem _ h'), h.2⟩)
      fun _ h => h
    · -- The object counts as done.
      refine ⟨object.guid :: guids, ?_, fun guid hguid => ?_⟩
      · rcases hcleared with ⟨hsame, hdone⟩ | hlost
        · rw [hsame] at hfree
          exact .inl ⟨hsame, by simpa [hfree] using hdone⟩
        · exact .inr hlost
      · rcases hguids guid hguid with hdone | hleft
        · exact .inl (List.mem_cons_of_mem _ hdone)
        · rcases List.mem_cons.mp hleft with rfl | hleft
          · exact .inl List.mem_cons_self
          · exact .inr hleft
    · unfold PoolGroup.despawnMember PoolGroup.callChildPool
      rw [if_neg hkind]
      refine (ends_removeSpawn object.guid hopen).bind fun removed s'' hwithout =>
        .pure ⟨group.guids, ?_, fun guid hguid => .inl hguid⟩
      rcases hcleared with ⟨hsame, hdone⟩ | ⟨hlost, hwitness⟩
      · rw [hsame] at hwithout hspawned
        exact .inr ⟨hwithout.lost (houtside object.guid) hspawned (.refl opened _), object.guid,
          hobject, hspawned⟩
      · exact .inr ⟨hlost.trans hwithout.shrunk, hwitness⟩
  · refine ⟨rfl, fun object hobject => ?_, [], .inl ⟨rfl, by simp⟩, fun guid hguid => .inr ?_⟩
    · rw [PoolGroup.guids, List.mem_map]
      exact ⟨object, by simpa [or_comm] using hobject, rfl⟩
    · rw [PoolGroup.guids] at hguid
      simpa [or_comm] using hguid
  · rintro plan s' ⟨-, -, guids, hcleared, hguids⟩
    rcases hcleared with ⟨hsame, hdone⟩ | hlost
    · refine .inl ⟨hsame, fun guid hguid => hdone guid ?_⟩
      simpa using hguids guid hguid
    · exact .inr hlost

/-- The outcome of a despawn that fails first where `refused` says so. -/
def Decided (refused : Prop) (opened : List ℕ) (spawns spawns' : SpawnedPoolData) : Prop :=
  refused ∧ spawns' = spawns ∨ ¬refused ∧ Lost opened spawns spawns'

theorem Lost.decided {refused refused' : Prop} (h : Lost opened spawns spawns') (hnot : ¬refused)
    (h' : Decided refused' opened spawns' spawns'') : Decided refused opened spawns spawns'' := by
  rcases h' with ⟨-, hsame⟩ | ⟨-, hlost⟩
  · rw [hsame]
    exact .inr ⟨hnot, h⟩
  · exact .inr ⟨hnot, h.trans hlost.shrunk⟩

theorem childPoolIdOf_of_fits (h : childPoolIdOf guid = some child) :
    childPoolIdOf child = some child := by
  rw [childPoolIdOf] at h
  split at h
  · cases h
    exact if_pos ‹_›
  · cases h

theorem isSpawned_pool_of_fits (h : childPoolIdOf guid = some child) :
    spawns.isSpawned (.pool, guid) = spawns.isSpawnedPool child := by
  rw [SpawnedPoolData.isSpawned, h]
  rfl

theorem exists_fits_of_isSpawned (h : spawns.isSpawned (.pool, guid) = true) :
    ∃ child, childPoolIdOf guid = some child := by
  rw [SpawnedPoolData.isSpawned] at h
  cases hfits : childPoolIdOf guid with
  | none =>
    rw [hfits] at h
    cases h
  | some child => exact ⟨child, rfl⟩

theorem firstFails_cons {fails : ℕ → Prop} {rest : List PoolObject}
    (hchild : childPoolIdOf object.guid = some child)
    (hmark : spawns.isSpawned (.pool, child) = true) :
    FirstFails spawns fails (object :: rest) ↔ fails child := by
  rw [isSpawned_pool_of_fits (childPoolIdOf_of_fits hchild)] at hmark
  rw [FirstFails, hchild]
  simp [hmark]

theorem ends_despawnChild {call : ℕ → PlanM σ δ} (hkind : group.memberKind = .pool)
    (hopen : group.poolId ∈ opened) (hcall : DespawnCall refused opened call)
    (hrefused : ∀ spawns child, child ∈ opened → refused spawns child)
    (hfits : childPoolIdOf guid = some child)
    (hspawned : s.spawns.isSpawned (.pool, child) = true) :
    Ends (group.despawnMember guid call) s
      (fun _ s' => ¬refused s.spawns child ∧ Lost opened s.spawns s'.spawns)
      fun s' => Decided (refused s.spawns child) opened s.spawns s'.spawns := by
  have hguid : guid = child := by
    rw [childPoolIdOf] at hfits
    split at hfits
    · exact Option.some.inj hfits
    · cases hfits
  subst hguid
  unfold PoolGroup.despawnMember PoolGroup.callChildPool
  rw [if_pos hkind, hfits]
  have hclosed : Ends ((fun plan => [plan]) <$> call guid) s
      (fun _ s' => ¬refused s.spawns guid ∧ Shrunk (guid :: opened) s.spawns s'.spawns)
      fun s' => Decided (refused s.spawns guid) opened s.spawns s'.spawns := by
    refine Ends.map ((hcall guid s).mono (fun _ _ h => h) fun s' h => ?_)
    rcases h with h | ⟨hnot, hlost⟩
    · exact .inl h
    · exact .inr ⟨hnot, hlost.close hspawned⟩
  refine hclosed.bind fun plans s' h => ?_
  · obtain ⟨hnot, hshrunk⟩ := h
    -- A call that succeeds is for a pool that was not open.
    have houtside : Outside opened (group.memberKind, guid) := by
      rintro q hq heq
      have hsame : guid = q := congrArg Prod.snd heq
      subst hsame
      exact hnot (hrefused s.spawns guid hq)
    refine (ends_removeSpawn guid hopen).bind fun removed s'' hwithout => .pure ⟨hnot, ?_⟩
    exact hwithout.lost houtside (hkind ▸ hspawned) (hshrunk.close hspawned)

theorem ends_despawnChildren (hkind : group.memberKind = .pool) (hopen : group.poolId ∈ opened)
    (hcall : ∀ always, DespawnCall refused opened fun child => call child always)
    (hrefused : ∀ spawns child, child ∈ opened → refused spawns child) (always : Bool) :
    Ends (group.despawnObjectPlan 0 always call) s
      (fun _ s' => ¬FirstFails s.spawns (refused s.spawns)
          (group.equalChanced ++ group.explicitlyChanced) ∧ Shrunk opened s.spawns s'.spawns)
      fun s' => Decided (FirstFails s.spawns (refused s.spawns)
        (group.equalChanced ++ group.explicitlyChanced)) opened s.spawns s'.spawns := by
  generalize hobjects : group.equalChanced ++ group.explicitlyChanced = objects
  unfold PoolGroup.despawnObjectPlan
  rw [hobjects]
  refine (Ends.foldlM (fun rest plan s' => plan.requestedGuid = 0 ∧
    (s'.spawns = s.spawns ∧ (FirstFails s.spawns (refused s.spawns) objects ↔
        FirstFails s.spawns (refused s.spawns) rest) ∨
      ¬FirstFails s.spawns (refused s.spawns) objects ∧ Lost opened s.spawns s'.spawns)) ?_
    ⟨rfl, .inl ⟨rfl, Iff.rfl⟩⟩).mono ?_ fun _ h => h
  · rintro object rest plan s' ⟨hall, hstate⟩
    refine ends_despawnObject _ hall (fun _ hoverflow => ?_) (fun hfits hfree => ?_) fun hspawned => ?_
    · rcases hstate with ⟨hsame, hiff⟩ | ⟨hnot, hlost⟩
      · refine .inl ⟨hiff.mpr ?_, hsame⟩
        rw [FirstFails, hoverflow]
        trivial
      · exact .inr ⟨hnot, hlost⟩
    · obtain ⟨child, hchild⟩ := Option.ne_none_iff_exists'.mp (hfits hkind)
      rw [hkind, isSpawned_pool_of_fits hchild] at hfree
      rcases hstate with ⟨hsame, hiff⟩ | hlost
      · rw [hsame] at hfree
        refine .inl ⟨hsame, hiff.trans ?_⟩
        rw [FirstFails, hchild]
        simp [hfree]
      · exact .inr hlost
    · obtain ⟨child, hchild⟩ := exists_fits_of_isSpawned (hkind ▸ hspawned)
      have hmark : s'.spawns.isSpawned (.pool, child) = true := by
        rw [hkind, isSpawned_pool_of_fits hchild] at hspawned
        rw [isSpawned_pool_of_fits (childPoolIdOf_of_fits hchild)]
        exact hspawned
      refine (ends_despawnChild hkind hopen (hcall plan.alwaysDeleteRespawnTime) hrefused hchild
        hmark).mono (fun _ s'' h => ?_) fun s'' h => ?_
      · rcases hstate with ⟨hsame, hiff⟩ | ⟨hnot, hlost⟩
        · rw [hsame] at h hmark
          exact .inr ⟨fun hfirst => h.1 ((firstFails_cons hchild hmark).mp (hiff.mp hfirst)), h.2⟩
        · exact .inr ⟨hnot, hlost.trans h.2.shrunk⟩
      · rcases hstate with ⟨hsame, hiff⟩ | ⟨hnot, hlost⟩
        · rw [hsame] at h hmark
          have hfirst := hiff.trans (firstFails_cons hchild hmark)
          rcases h with ⟨hrefusedChild, hsame'⟩ | ⟨hnot, hlost⟩
          · exact .inl ⟨hfirst.mpr hrefusedChild, hsame'⟩
          · exact .inr ⟨fun h => hnot (hfirst.mp h), hlost⟩
        · exact hlost.decided hnot h
  · rintro plan s' ⟨-, ⟨hsame, hiff⟩ | ⟨hnot, hlost⟩⟩
    · refine ⟨fun h => hiff.mp h, ?_⟩
      rw [hsame]
      exact .refl opened _
    · exact ⟨hnot, hlost.shrunk⟩

end Despawn

/-- Every group is registered under its pool and its kind, as `insertOrReplaceGroup` does it. -/
def PoolMgr.Registered (mgr : PoolMgr) : Prop :=
  ∀ kind poolId group, mgr.group kind poolId = some group →
    group.poolId = poolId ∧ group.memberKind = kind

section DespawnPools

variable {σ : Type} {mgr : PoolMgr} (hmgr : mgr.Registered) {poolId : ℕ} {opened : List ℕ}
  {s : PlanState σ}
variable {kinds : List PoolMemberKind} {spawns : SpawnedPoolData}

/-- Nothing was taken away and no member of the kinds is spawned, or some were and one was. -/
def PoolMgr.Cleared (mgr : PoolMgr) (kinds : List PoolMemberKind) (poolId : ℕ) (opened : List ℕ)
    (spawns spawns' : SpawnedPoolData) : Prop :=
  spawns' = spawns ∧ (∀ kind ∈ kinds, ∀ guid ∈ mgr.guids kind poolId,
      spawns.isSpawned (kind, guid) = false) ∨
    Lost opened spawns spawns' ∧ ∃ kind ∈ kinds, ∃ guid ∈ mgr.guids kind poolId,
      spawns.isSpawned (kind, guid) = true

theorem PoolMgr.Cleared.append {kinds' : List PoolMemberKind}
    (h : mgr.Cleared kinds poolId opened spawns spawns')
    (h' : mgr.Cleared kinds' poolId opened spawns' spawns'') :
    mgr.Cleared (kinds ++ kinds') poolId opened spawns spawns'' := by
  rcases h with ⟨rfl, hfree⟩ | ⟨hlost, kind, hkind, hwitness⟩
  · rcases h' with ⟨rfl, hfree'⟩ | ⟨hlost, kind, hkind, hwitness⟩
    · refine .inl ⟨rfl, fun kind hkind => ?_⟩
      rcases List.mem_append.mp hkind with hkind | hkind
      · exact hfree kind hkind
      · exact hfree' kind hkind
    · exact .inr ⟨hlost, kind, List.mem_append_right _ hkind, hwitness⟩
  · refine .inr ⟨?_, kind, List.mem_append_left _ hkind, hwitness⟩
    rcases h' with ⟨rfl, -⟩ | ⟨hlost', -⟩
    · exact hlost
    · exact hlost.trans hlost'.shrunk

theorem isEmpty_iff_guids {group : PoolGroup} : group.isEmpty = true ↔ group.guids = [] := by
  simp [PoolGroup.isEmpty, PoolGroup.guids]

theorem despawnRefused_succ (mgr : PoolMgr) (spawns : SpawnedPoolData) (fuel : ℕ)
    {visiting : List ℕ} (hnew : poolId ∉ visiting) :
    mgr.DespawnRefused spawns (fuel + 1) visiting poolId ↔
      (∀ kind ∈ [PoolMemberKind.creature] ++ [.gameObject], ∀ guid ∈ mgr.guids kind poolId,
        spawns.isSpawned (kind, guid) = false) ∧
      FirstFails spawns (mgr.DespawnRefused spawns fuel (poolId :: visiting))
        (mgr.despawnOrder poolId) := by
  have hkinds : ∀ kind, kind ∈ [PoolMemberKind.creature] ++ [.gameObject] ↔ kind ≠ .pool := by
    intro kind
    cases kind <;> simp
  simp only [PoolMgr.DespawnRefused, hnew, false_or, hkinds]

theorem not_despawnRefused {refused first : Prop}
    (hiff : refused ↔ (∀ kind ∈ kinds, ∀ guid ∈ mgr.guids kind poolId,
      spawns.isSpawned (kind, guid) = false) ∧ first)
    (hwitness : ∃ kind ∈ kinds, ∃ guid ∈ mgr.guids kind poolId,
      spawns.isSpawned (kind, guid) = true) :
    ¬refused := by
  intro h
  obtain ⟨kind, hkind, guid, hguid, hspawned⟩ := hwitness
  rw [(hiff.mp h).1 kind hkind guid hguid] at hspawned
  cases hspawned

include hmgr

theorem ends_despawnPlain {kind : PoolMemberKind} (hkind : kind ≠ .pool) (hopen : poolId ∈ opened)
    (call : ℕ → Bool → PlanM σ PoolDespawnPoolPlan) (always : Bool) (fail : PlanState σ → Prop) :
    Ends (mgr.despawnTypedPoolPlan kind poolId 0 always call) s
      (fun _ s' => mgr.Cleared [kind] poolId opened s.spawns s'.spawns) fail := by
  unfold PoolMgr.despawnTypedPoolPlan
  cases hgroup : mgr.group kind poolId with
  | none => exact .pure (.inl ⟨rfl, by simp [PoolMgr.guids, hgroup]⟩)
  | some group =>
    dsimp only
    split
    case isTrue hempty =>
      refine .pure (.inl ⟨rfl, ?_⟩)
      simp [PoolMgr.guids_eq hgroup, isEmpty_iff_guids.mp hempty]
    · obtain ⟨rfl, rfl⟩ := hmgr kind poolId group hgroup
      refine ((ends_despawnObjects hkind hopen call always).mono (fun _ _ h => h)
        fun _ h => h.elim).bind fun plan s' h => .pure ?_
      rcases h with ⟨hsame, hfree⟩ | ⟨hlost, hwitness⟩
      · exact .inl ⟨hsame, by simpa [PoolMgr.guids_eq hgroup] using hfree⟩
      · exact .inr ⟨hlost, group.memberKind, by simp,
          by simpa [PoolMgr.guids_eq hgroup] using hwitness⟩

theorem ends_despawnPoolKind (hopen : poolId ∈ opened)
    {call : ℕ → Bool → PlanM σ PoolDespawnPoolPlan}
    (hcall : ∀ always, DespawnCall refused opened fun child => call child always)
    (hrefused : ∀ spawns child, child ∈ opened → refused spawns child) (always : Bool) :
    Ends (mgr.despawnTypedPoolPlan .pool poolId 0 always call) s
      (fun _ s' => ¬FirstFails s.spawns (refused s.spawns) (mgr.despawnOrder poolId) ∧
        Shrunk opened s.spawns s'.spawns)
      fun s' => Decided (FirstFails s.spawns (refused s.spawns) (mgr.despawnOrder poolId)) opened
        s.spawns s'.spawns := by
  unfold PoolMgr.despawnTypedPoolPlan
  cases hgroup : mgr.group .pool poolId with
  | none => exact .pure ⟨by simp [PoolMgr.despawnOrder, hgroup, FirstFails], .refl opened _⟩
  | some group =>
    have horder : mgr.despawnOrder poolId = group.equalChanced ++ group.explicitlyChanced := by
      rw [PoolMgr.despawnOrder, hgroup]
      rfl
    rw [horder]
    dsimp only
    split
    case isTrue hempty =>
      rw [PoolGroup.isEmpty, Bool.and_eq_true, List.isEmpty_iff, List.isEmpty_iff] at hempty
      exact .pure ⟨by simp [hempty, FirstFails], .refl opened _⟩
    · obtain ⟨hpool, hkind⟩ := hmgr .pool poolId group hgroup
      subst hpool
      exact (ends_despawnChildren hkind hopen hcall hrefused always).bind fun plan s' h =>
        .pure h

/-- A call for a pool fails at once where it is refused. Where it is not and fails, some
member was taken away before. -/
theorem despawnCall_visited (fuel : ℕ) (visiting : List ℕ) (always : Bool) :
    DespawnCall (fun spawns => mgr.DespawnRefused spawns fuel visiting) visiting
      fun child => (mgr.despawnPoolPlanWithVisited fuel visiting child always :
        PlanM σ PoolDespawnPoolPlan) := by
  induction fuel generalizing visiting always with
  | zero => exact fun child s => .throw (.inl ⟨trivial, rfl⟩)
  | succ fuel ih =>
    intro poolId s
    unfold PoolMgr.despawnPoolPlanWithVisited
    dsimp only
    split
    case isTrue hmem => exact .throw (.inl ⟨.inl hmem, rfl⟩)
    case isFalse hnew =>
      have hopen : poolId ∈ poolId :: visiting := List.mem_cons_self
      have hrefused : ∀ spawns child, child ∈ poolId :: visiting →
          mgr.DespawnRefused spawns fuel (poolId :: visiting) child := by
        intro spawns child hchild
        cases fuel with
        | zero => trivial
        | succ fuel => exact .inl hchild
      simp only [List.mapM_cons, List.mapM_nil, bind_assoc, pure_bind]
      refine (ends_despawnPlain hmgr (by decide) hopen _ always _).bind fun _ s₁ hcreatures => ?_
      refine (ends_despawnPlain hmgr (by decide) hopen _ always _).bind fun _ s₂ hobjects => ?_
      have hcleared := hcreatures.append hobjects
      have hiff := despawnRefused_succ mgr s.spawns fuel hnew
      refine Ends.bind ((ends_despawnPoolKind hmgr hopen (ih (poolId :: visiting)) hrefused
        always).mono (fun _ s' h => ?_) fun s' h => ?_) fun _ s' h => .pure h
      · rcases hcleared with ⟨hsame, hfree⟩ | ⟨hlost, hwitness⟩
        · rw [hsame] at h
          exact ⟨fun hr => h.1 (hiff.mp hr).2, h.2⟩
        · exact ⟨not_despawnRefused hiff hwitness, hlost.shrunk.trans h.2⟩
      · rcases hcleared with ⟨hsame, hfree⟩ | ⟨hlost, hwitness⟩
        · rw [hsame] at h
          rcases h with ⟨hfirst, hsame'⟩ | ⟨hnot, hlost⟩
          · exact .inl ⟨hiff.mpr ⟨hfree, hfirst⟩, hsame'⟩
          · exact .inr ⟨fun hr => hnot (hiff.mp hr).2, hlost⟩
        · exact hlost.decided (not_despawnRefused hiff hwitness) h

end DespawnPools

end RustyCore.Pools
