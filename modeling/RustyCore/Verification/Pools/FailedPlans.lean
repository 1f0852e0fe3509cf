import RustyCore.Verification.Pools.FailedDespawns

/-! # Failed plans

A spawn only adds members, so that a call that fails leaves the data as they were exactly
where the pool itself is refused, and not one of its child pools. -/

namespace RustyCore.Pools

variable {spawns : SpawnedPoolData} {mgr : PoolMgr}

/-! ## What a spawn adds -/

def Grown (spawns spawns' : SpawnedPoolData) : Prop :=
  ∀ x, spawns.isSpawned x = true → spawns'.isSpawned x = true

structure Grew (spawns spawns' : SpawnedPoolData) : Prop where
  grown : Grown spawns spawns'
  grew : ∃ x, spawns.isSpawned x = false ∧ spawns'.isSpawned x = true

section Gains

variable {spawns spawns' spawns'' : SpawnedPoolData}

theorem Grown.refl (spawns : SpawnedPoolData) : Grown spawns spawns := fun _ h => h

theorem Grown.trans (h : Grown spawns spawns') (h' : Grown spawns' spawns'') :
    Grown spawns spawns'' :=
  fun x hx => h' x (h x hx)

theorem Grew.trans (h : Grew spawns spawns') (h' : Grown spawns' spawns'') :
    Grew spawns spawns'' := by
  obtain ⟨x, hbefore, hafter⟩ := h.grew
  exact ⟨h.grown.trans h', x, hbefore, h' x hafter⟩

theorem Grew.ne (h : Grew spawns spawns') : spawns'.isSpawned ≠ spawns.isSpawned := by
  obtain ⟨x, hbefore, hafter⟩ := h.grew
  intro heq
  rw [heq, hbefore] at hafter
  cases hafter

theorem isSpawned_pool_mono {guid : ℕ}
    (h : (spawns.spawnedPools.lookup guid).isSome = true →
      (spawns'.spawnedPools.lookup guid).isSome = true)
    (hspawned : spawns.isSpawned (.pool, guid) = true) :
    spawns'.isSpawned (.pool, guid) = true := by
  obtain ⟨child, hfits⟩ := exists_fits_of_isSpawned hspawned
  have hsame : guid = child := by
    rw [childPoolIdOf] at hfits
    split at hfits
    · exact Option.some.inj hfits
    · cases hfits
  subst hsame
  rw [isSpawned_pool_of_fits hfits] at hspawned ⊢
  exact h hspawned

end Gains

section Groups

variable {σ ρ δ : Type} {group : PoolGroup} {s : PlanState σ}
variable {fail : PlanState σ → Prop}
variable {call : ℕ → PlanM σ ρ} {obj : PoolObject}

theorem ends_addSpawn (guid : ℕ) :
    Ends (group.addSpawnToMap guid) s (fun added s' => if added
      then Grown s.spawns s'.spawns ∧ s'.spawns.isSpawned (group.memberKind, guid) = true
      else s' = s) fail := by
  -- No counter is taken away.
  have hpools : ∀ pools : Dict ℕ ℕ, ∀ q, (pools.lookup q).isSome = true →
      ((incrementPoolCounter pools group.poolId).lookup q).isSome = true := by
    intro pools q hq
    rw [lookup_incrementPoolCounter]
    split
    · rfl
    · exact hq
  refine ends_readSpawns_bind ?_
  cases hkind : group.memberKind with
  | creature =>
    refine ends_tryWrite ⟨?_, by simp [SpawnedPoolData.isSpawned, SpawnedPoolData.isSpawnedCreature]⟩
    rintro ⟨kind, g⟩ hg
    cases kind with
    | creature =>
      simp only [SpawnedPoolData.isSpawned, SpawnedPoolData.isSpawnedCreature,
        decide_eq_true_eq] at hg ⊢
      exact Finset.mem_insert_of_mem hg
    | gameObject => exact hg
    | pool => exact isSpawned_pool_mono (hpools _ g) hg
  | gameObject =>
    refine ends_tryWrite ⟨?_,
      by simp [SpawnedPoolData.isSpawned, SpawnedPoolData.isSpawnedGameobject]⟩
    rintro ⟨kind, g⟩ hg
    cases kind with
    | creature => exact hg
    | gameObject =>
      simp only [SpawnedPoolData.isSpawned, SpawnedPoolData.isSpawnedGameobject,
        decide_eq_true_eq] at hg ⊢
      exact Finset.mem_insert_of_mem hg
    | pool => exact isSpawned_pool_mono (hpools _ g) hg
  | pool =>
    cases hfits : childPoolIdOf guid with
    | none => exact Ends.pure rfl
    | some child =>
      refine ends_tryWrite ⟨?_, ?_⟩
      · rintro ⟨kind, g⟩ hg
        cases kind with
        | creature => exact hg
        | gameObject => exact hg
        | pool =>
          refine isSpawned_pool_mono (fun hbefore => hpools _ g ?_) hg
          rw [Dict.lookup_insert_eq]
          split
          · rfl
          · exact hbefore
      · rw [isSpawned_pool_of_fits hfits]
        refine hpools _ child ?_
        rw [Dict.lookup_insert_eq, if_pos rfl]
        rfl

/-- A call that never takes anything away, whether it fails or not. -/
def SpawnCall {α : Type} (call : ℕ → PlanM σ α) : Prop :=
  ∀ child s, Ends (call child) s (fun _ s' => Grown s.spawns s'.spawns)
    fun s' => Grown s.spawns s'.spawns

theorem ends_spawnRolled {progress : ℕ × PoolSpawnObjectPlan ρ δ} {post : PlanState σ → Prop}
    (hzero : progress.1 = 0) (hs : post s)
    (hadded : obj.guid ≠ 0 → ∀ s', Grown s.spawns s'.spawns →
      s'.spawns.isSpawned (group.memberKind, obj.guid) = true →
      Ends (group.callChildPool obj.guid call) s' (fun _ s'' => post s'') fail) :
    Ends (group.spawnRolled call progress obj) s
      (fun progress' s' => progress'.1 = 0 ∧ post s') fail := by
  unfold PoolGroup.spawnRolled
  dsimp only
  split
  · exact .pure ⟨rfl, hs⟩
  case isFalse hne =>
    rw [hzero] at hne
    refine (ends_addSpawn obj.guid).bind fun added s' h => ?_
    split
    case isTrue hadd =>
      rw [if_pos hadd] at h
      exact (hadded hne s' h.1 h.2).bind fun plans s'' hs'' => .pure ⟨hzero, hs''⟩
    case isFalse hadd =>
      rw [if_neg hadd] at h
      subst h
      exact .pure ⟨hzero, hs⟩

/-! ## The rolls -/

theorem mem_of_mem_takeChosen {candidates : List PoolObject} {requested : ℕ}
    (indices used : List ℕ) (rolled : List PoolObject)
    (h : obj ∈ takeChosen candidates requested indices used rolled) :
    obj ∈ rolled ∨ obj ∈ candidates := by
  induction indices generalizing used rolled with
  | nil => exact .inl h
  | cons index rest ih =>
    rw [takeChosen] at h
    split at h
    · exact .inl h
    · split at h
      · exact ih used rolled h
      case h_2 candidate hcandidate =>
        split at h
        · exact ih used rolled h
        · rcases ih _ _ h with hmem | hmem
          · rcases List.mem_append.mp hmem with hmem | hmem
            · exact .inl hmem
            · rw [List.mem_singleton.mp hmem]
              exact .inr (List.mem_of_getElem? hcandidate)
          · exact .inr hmem

/-- The rolled members are members of the group, and none but the trigger is spawned. -/
def Eligible (group : PoolGroup) (spawns : SpawnedPoolData) (triggerFrom : ℕ)
    (rolled : List PoolObject) : Prop :=
  ∀ obj ∈ rolled, obj.guid ∈ group.guids ∧
    (obj.guid = triggerFrom ∨ spawns.isSpawned (group.memberKind, obj.guid) = false)

theorem ends_rollObjects (count triggerFrom : ℕ) (explicitRoll : σ → Float32 × σ)
    (chooseEqual : List PoolObject → ℕ → σ → List ℕ × σ) :
    Ends (group.rollObjects count triggerFrom explicitRoll chooseEqual) s (fun rolled s' =>
      s'.spawns = s.spawns ∧ Eligible group s.spawns triggerFrom rolled) fail := by
  have hguid : ∀ obj ∈ group.explicitlyChanced ++ group.equalChanced, obj.guid ∈ group.guids :=
    fun obj hobj => List.mem_map_of_mem hobj
  have hexplicit : Ends (group.rollExplicitlyChanced triggerFrom explicitRoll) s (fun rolled s' =>
      s'.spawns = s.spawns ∧ Eligible group s.spawns triggerFrom rolled) fail := by
    unfold PoolGroup.rollExplicitlyChanced
    split
    · exact .pure ⟨rfl, fun obj hobj => absurd hobj List.not_mem_nil⟩
    · refine ends_draw_bind fun roll dice => ends_readSpawns_bind (.pure ⟨rfl, ?_⟩)
      intro obj hobj
      obtain ⟨hmem, heligible⟩ := rollExplicit_spec (Option.mem_toList.mp hobj)
      exact ⟨hguid obj (List.mem_append_left _ hmem), eligible_iff.mp heligible⟩
  unfold PoolGroup.rollObjects
  refine hexplicit.bind fun rolled s' h => ?_
  split
  · exact .pure h
  · unfold PoolGroup.chooseEqualChanced
    refine ends_readSpawns_bind (ends_draw_bind fun indices dice => .pure ⟨h.1, ?_⟩)
    intro obj hobj
    rcases mem_of_mem_takeChosen _ _ _ hobj with hmem | hmem
    · exact absurd hmem List.not_mem_nil
    · obtain ⟨hmem, heligible⟩ := List.mem_filter.mp hmem
      rw [h.1] at heligible
      exact ⟨hguid obj (List.mem_append_right _ hmem), eligible_iff.mp heligible⟩

theorem ends_rollForRoom (limit spawned triggerFrom : ℕ) (explicitRoll : σ → Float32 × σ)
    (chooseEqual : List PoolObject → ℕ → σ → List ℕ × σ) :
    Ends (group.rollForRoom limit spawned triggerFrom explicitRoll chooseEqual) s
      (fun rolled s' => s'.spawns = s.spawns ∧ Eligible group s.spawns triggerFrom rolled)
      fail := by
  unfold PoolGroup.rollForRoom
  generalize (if triggerFrom ≠ 0 then (limit : ℤ) - spawned + 1 else limit - spawned) = count
  dsimp only
  split
  · exact ends_rollObjects _ triggerFrom explicitRoll chooseEqual
  · exact .pure ⟨rfl, fun obj hobj => absurd hobj List.not_mem_nil⟩

theorem despawnTrigger_zero (despawnChildPool : ℕ → Bool → PlanM σ δ)
    (plan : PoolSpawnObjectPlan ρ δ) : group.despawnTrigger despawnChildPool 0 plan =
      (readSpawns >>= fun _ => pure plan : PlanM σ (PoolSpawnObjectPlan ρ δ)) := by
  simp [PoolGroup.despawnTrigger]

theorem exists_child_of_fits (hkind : group.memberKind = .pool)
    (hfits : PoolMgr.childPoolOverflow group = none) {guid : ℕ} (hguid : guid ∈ group.guids) :
    ∃ child, childPoolIdOf guid = some child := by
  obtain ⟨obj, hobj, rfl⟩ := List.mem_map.mp hguid
  rw [PoolMgr.childPoolOverflow, if_neg (not_not.mpr hkind), Option.map_eq_none_iff,
    List.find?_eq_none] at hfits
  refine Option.ne_none_iff_exists'.mp fun hnone => ?_
  exact hfits obj hobj (by rw [hnone]; rfl)

/-- The creatures or the game objects of a pool: no call is made and nothing fails. -/
theorem ends_spawnObjects (hkind : group.memberKind ≠ .pool) (limit : ℕ)
    (explicitRoll : σ → Float32 × σ) (chooseEqual : List PoolObject → ℕ → σ → List ℕ × σ)
    (call : ℕ → PlanM σ ρ) (despawnChildPool : ℕ → Bool → PlanM σ δ) :
    Ends (group.spawnObjectPlanWithChildPools limit 0 explicitRoll chooseEqual call
      despawnChildPool) s (fun _ s' => Grown s.spawns s'.spawns) fun _ => False := by
  unfold PoolGroup.spawnObjectPlanWithChildPools
  refine ends_readSpawns_bind ((ends_rollForRoom limit _ 0 explicitRoll chooseEqual).bind
    fun rolled s₁ hrolled => ?_)
  refine (Ends.foldlM (fun _ progress s' => progress.1 = 0 ∧ Grown s.spawns s'.spawns) ?_
    ⟨rfl, by rw [hrolled.1]; exact .refl _⟩).bind fun progress s₂ h => ?_
  · rintro obj rest progress s' ⟨hzero, hgrown⟩
    refine ends_spawnRolled hzero hgrown fun _ s'' hadded _ => ?_
    unfold PoolGroup.callChildPool
    rw [if_neg hkind]
    exact .pure (hgrown.trans hadded)
  · rw [h.1, despawnTrigger_zero]
    exact ends_readSpawns_bind (.pure h.2)

/-- The child pools of a pool: a call that fails has been preceded by the mark of its pool. -/
theorem ends_spawnChildren (hkind : group.memberKind = .pool)
    (hfits : PoolMgr.childPoolOverflow group = none) (limit : ℕ) (explicitRoll : σ → Float32 × σ)
    (chooseEqual : List PoolObject → ℕ → σ → List ℕ × σ) (hcall : SpawnCall call)
    (despawnChildPool : ℕ → Bool → PlanM σ δ) :
    Ends (group.spawnObjectPlanWithChildPools limit 0 explicitRoll chooseEqual call
      despawnChildPool) s (fun _ s' => s'.spawns = s.spawns ∨ Grew s.spawns s'.spawns)
      fun s' => Grew s.spawns s'.spawns := by
  unfold PoolGroup.spawnObjectPlanWithChildPools
  refine ends_readSpawns_bind ((ends_rollForRoom limit _ 0 explicitRoll chooseEqual).bind
    fun rolled s₁ hrolled => ?_)
  refine (Ends.foldlM (fun rest progress s' => progress.1 = 0 ∧
    Eligible group s.spawns 0 rest ∧ (s'.spawns = s.spawns ∨ Grew s.spawns s'.spawns)) ?_
    ⟨rfl, hrolled.2, .inl hrolled.1⟩).bind fun progress s₂ h => ?_
  · rintro obj rest progress s' ⟨hzero, heligible, hstate⟩
    have hobj := heligible obj List.mem_cons_self
    have hrest : Eligible group s.spawns 0 rest :=
      fun obj' h' => heligible obj' (List.mem_cons_of_mem _ h')
    refine (ends_spawnRolled hzero hstate fun hne s'' hadded hspawned => ?_).mono
      (fun progress' s'' h => ⟨h.1, hrest, h.2⟩) fun _ h => h
    -- The member was not spawned when it was rolled.
    have hgrew : Grew s.spawns s''.spawns := by
      rcases hstate with hsame | hgrew
      · rw [hsame] at hadded
        exact ⟨hadded, _, hobj.2.resolve_left hne, hspawned⟩
      · exact hgrew.trans hadded
    unfold PoolGroup.callChildPool
    rw [if_pos hkind]
    obtain ⟨child, hchild⟩ := exists_child_of_fits hkind hfits hobj.1
    rw [hchild]
    exact Ends.map ((hcall child s'').mono (fun _ _ h => .inr (hgrew.trans h))
      fun _ h => hgrew.trans h)
  · rw [h.1, despawnTrigger_zero]
    exact ends_readSpawns_bind (.pure h.2.2)

end Groups

/-! ## Whole pools -/

/-- A call for the pool fails before anything is spawned: one of its groups needs a template
that is missing, or one of its child pools has an id that does not fit. -/
def PoolMgr.SpawnRefused (mgr : PoolMgr) (poolId : ℕ) : Prop :=
  (mgr.templates.lookup poolId = none ∧ ∃ kind group, mgr.group kind poolId = some group ∧
      group.isEmpty = false) ∨
    ∃ group, mgr.group .pool poolId = some group ∧ group.isEmpty = false ∧
      PoolMgr.childPoolOverflow group ≠ none

section Pools

variable {σ : Type} {mgr : PoolMgr} (hmgr : mgr.Registered) (dice : PoolDice σ) {poolId : ℕ}
  {s : PlanState σ}
variable {triggerFrom : ℕ}
variable {kind : PoolMemberKind}

include hmgr

/-- The creatures or the game objects of a pool: nothing fails but for the template. -/
theorem ends_spawnPlain (hkind : kind ≠ .pool) (call : ℕ → PlanM σ PoolSpawnPoolPlan)
    (despawnChildPool : ℕ → Bool → PlanM σ PoolDespawnPoolPlan) :
    Ends (mgr.spawnTypedPoolPlan dice kind poolId 0 call despawnChildPool) s
      (fun _ s' => Grown s.spawns s'.spawns ∧ (mgr.templates.lookup poolId = none → s' = s))
      fun s' => mgr.templates.lookup poolId = none ∧ mgr.SpawnRefused poolId ∧ s' = s := by
  unfold PoolMgr.spawnTypedPoolPlan
  cases hgroup : mgr.group kind poolId with
  | none => exact .pure ⟨.refl _, fun _ => rfl⟩
  | some group =>
    obtain ⟨hpool, hmember⟩ := hmgr kind poolId group hgroup
    have hfits : PoolMgr.childPoolOverflow group = none := by
      rw [PoolMgr.childPoolOverflow, if_pos (hmember.trans_ne hkind)]
    dsimp only
    split
    · exact .pure ⟨.refl _, fun _ => rfl⟩
    case isFalse hempty =>
      rw [hfits]
      cases htemplate : mgr.templates.lookup poolId with
      | none =>
        exact .throw ⟨rfl, .inl ⟨htemplate, kind, group, hgroup, Bool.eq_false_iff.mpr hempty⟩,
          rfl⟩
      | some template =>
        refine ((ends_spawnObjects (hmember.trans_ne hkind) _ _ _ _ _).tryCatch
          fun _ _ h => h.elim).bind fun plan s' h => .pure ⟨h, fun h => by cases h⟩

theorem ends_spawnPoolKind {call : ℕ → PlanM σ PoolSpawnPoolPlan} (hcall : SpawnCall call)
    (despawnChildPool : ℕ → Bool → PlanM σ PoolDespawnPoolPlan) :
    Ends (mgr.spawnTypedPoolPlan dice .pool poolId 0 call despawnChildPool) s
      (fun _ s' => Grown s.spawns s'.spawns ∧ (mgr.templates.lookup poolId = none → s' = s) ∧
        ¬∃ group, mgr.group .pool poolId = some group ∧ group.isEmpty = false ∧
          PoolMgr.childPoolOverflow group ≠ none)
      fun s' => mgr.SpawnRefused poolId ∧ s' = s ∨
        ¬mgr.SpawnRefused poolId ∧ Grew s.spawns s'.spawns := by
  unfold PoolMgr.spawnTypedPoolPlan
  cases hgroup : mgr.group .pool poolId with
  | none => exact .pure ⟨.refl _, fun _ => rfl, by simp⟩
  | some group =>
    obtain ⟨hpool, hmember⟩ := hmgr .pool poolId group hgroup
    dsimp only
    split
    case isTrue hempty =>
      exact .pure ⟨.refl _, fun _ => rfl, by simp [hempty]⟩
    case isFalse hempty =>
      have hnonempty := Bool.eq_false_iff.mpr hempty
      cases hfits : PoolMgr.childPoolOverflow group with
      | some child =>
        exact .throw (.inl ⟨.inr ⟨group, hgroup, hnonempty, by simp [hfits]⟩, rfl⟩)
      | none =>
        have hnone : ¬∃ group', some group = some group' ∧ group'.isEmpty = false ∧
            PoolMgr.childPoolOverflow group' ≠ none := by
          rintro ⟨group', heq, -, hoverflow⟩
          cases heq
          exact hoverflow hfits
        cases htemplate : mgr.templates.lookup poolId with
        | none =>
          exact .throw (.inl ⟨.inl ⟨htemplate, .pool, group, hgroup, hnonempty⟩, rfl⟩)
        | some template =>
          have hadmitted : ¬mgr.SpawnRefused poolId := by
            rintro (⟨hmissing, -⟩ | hoverflow)
            · rw [htemplate] at hmissing
              cases hmissing
            · rw [hgroup] at hoverflow
              exact hnone hoverflow
          dsimp only
          rw [if_pos rfl]
          refine ((ends_spawnChildren hmember hfits _ _ _ hcall _).mono
            (fun _ s' h => h) fun _ h => .inr ⟨hadmitted, h⟩).bind fun plan s' h =>
            .pure ⟨?_, (fun h => by cases h), hnone⟩
          rcases h with hsame | hgrew
          · rw [hsame]
            exact .refl _
          · exact hgrew.grown

/-- One level: the pool itself is refused, or the failing call follows the mark of a child. -/
theorem ends_spawnLevel {fuel : ℕ} {visiting : List ℕ} (hnew : poolId ∉ visiting)
    (hcall : SpawnCall fun child => (mgr.spawnPoolPlanWithVisited dice fuel (poolId :: visiting)
      child : PlanM σ PoolSpawnPoolPlan)) :
    Ends (mgr.spawnPoolPlanWithVisited dice (fuel + 1) visiting poolId) s
      (fun _ s' => Grown s.spawns s'.spawns)
      fun s' => mgr.SpawnRefused poolId ∧ s' = s ∨
        ¬mgr.SpawnRefused poolId ∧ Grew s.spawns s'.spawns := by
  unfold PoolMgr.spawnPoolPlanWithVisited
  rw [if_neg hnew]
  simp only [List.mapM_cons, List.mapM_nil, bind_assoc, pure_bind]
  refine (ends_spawnPoolKind hmgr dice hcall _).bind fun _ s₁ hpools => ?_
  have hfailed : ∀ s', mgr.templates.lookup poolId = none ∧ mgr.SpawnRefused poolId ∧ s' = s →
      mgr.SpawnRefused poolId ∧ s' = s ∨ ¬mgr.SpawnRefused poolId ∧ Grew s.spawns s'.spawns :=
    fun s' h => .inl h.2
  refine Ends.bind ((ends_spawnPlain hmgr dice (by decide) _ _).mono (fun _ s' h => h)
    fun s' h => ?_) fun _ s₂ hobjects => ?_
  · rw [hpools.2.1 h.1] at h
    exact hfailed s' h
  · refine Ends.bind ((ends_spawnPlain hmgr dice (by decide) _ _).mono (fun _ s' h => h)
      fun s' h => ?_) fun _ s₃ hcreatures => ?_
    · rw [hobjects.2 h.1, hpools.2.1 h.1] at h
      exact hfailed s' h
    · exact .pure ((hpools.1.trans hobjects.1).trans hcreatures.1)

theorem spawnCall_visited (fuel : ℕ) (visiting : List ℕ) :
    SpawnCall fun child =>
      (mgr.spawnPoolPlanWithVisited dice fuel visiting child : PlanM σ PoolSpawnPoolPlan) := by
  induction fuel generalizing visiting with
  | zero => exact fun child s => .throw (.refl _)
  | succ fuel ih =>
    intro poolId s
    by_cases hmem : poolId ∈ visiting
    · unfold PoolMgr.spawnPoolPlanWithVisited
      dsimp only
      rw [if_pos hmem]
      exact .throw (.refl _)
    · refine (ends_spawnLevel hmgr dice hmem (ih (poolId :: visiting))).mono (fun _ _ h => h)
        fun s' h => ?_
      rcases h with ⟨-, hsame⟩ | ⟨-, hgrew⟩
      · rw [hsame]
        exact .refl _
      · exact hgrew.grown

/-! ## Updates -/

/-- The update of a mother pool fails before it changes anything: its group is refused, or no
member of it is rolled and the despawn of the trigger is refused. -/
def PoolMgr.MotherRefused (mgr : PoolMgr) (dice : PoolDice σ) (poolId triggerFrom : ℕ)
    (s : PlanState σ) : Prop :=
  ∀ group template, mgr.group .pool poolId = some group →
    PoolMgr.childPoolOverflow group = none → mgr.templates.lookup poolId = some template →
    (∃ s', group.rollForRoom template.maxLimit (s.spawns.getSpawnedObjects group.poolId)
      triggerFrom (dice.explicitRollFor .pool poolId) dice.chooseEqual s = .ok [] s') ∧
    ∀ child, childPoolIdOf triggerFrom = some child →
      mgr.DespawnRefused s.spawns mgr.fuel [] child

theorem ends_untriggered {group : PoolGroup} (hmember : group.memberKind = .pool) {limit : ℕ}
    {explicitRoll : σ → Float32 × σ} {chooseEqual : List PoolObject → ℕ → σ → List ℕ × σ}
    {s₀ : PlanState σ}
    (hrun : group.rollForRoom limit (s.spawns.getSpawnedObjects group.poolId) triggerFrom
      explicitRoll chooseEqual s = .ok [] s₀)
    (hdespawn : ∀ child, childPoolIdOf triggerFrom = some child →
      mgr.DespawnRefused s.spawns mgr.fuel [] child)
    (call : ℕ → PlanM σ PoolSpawnPoolPlan) :
    Ends (group.spawnObjectPlanWithChildPools limit triggerFrom explicitRoll chooseEqual call
      (mgr.despawnPoolPlanWithVisited mgr.fuel [])) s (fun _ _ => True)
      fun s' => s'.spawns = s.spawns := by
  have hrolled : Ends (group.rollForRoom limit (s.spawns.getSpawnedObjects group.poolId)
      triggerFrom explicitRoll chooseEqual) s (fun rolled s' => rolled = [] ∧
        s'.spawns = s.spawns) fun s' => s'.spawns = s.spawns := by
    have hroom : Ends (group.rollForRoom limit (s.spawns.getSpawnedObjects group.poolId)
        triggerFrom explicitRoll chooseEqual) s (fun rolled s' => s'.spawns = s.spawns ∧
          Eligible group s.spawns triggerFrom rolled) fun _ => False :=
      ends_rollForRoom _ _ _ _ _
    unfold Ends at hroom ⊢
    rw [hrun] at hroom ⊢
    exact ⟨rfl, hroom.1⟩
  unfold PoolGroup.spawnObjectPlanWithChildPools
  refine ends_readSpawns_bind (hrolled.bind fun rolled s₁ h => ?_)
  obtain ⟨rfl, hsame⟩ := h
  rw [List.foldlM_nil, pure_bind]
  unfold PoolGroup.despawnTrigger
  refine ends_readSpawns_bind ?_
  split
  · -- The call for the trigger fails, whichever pool it is.
    have hcall : Ends (group.callChildPool triggerFrom fun child =>
        (mgr.despawnPoolPlanWithVisited mgr.fuel [] child false : PlanM σ PoolDespawnPoolPlan)) s₁
        (fun _ _ => False) fun s' => s'.spawns = s.spawns := by
      unfold PoolGroup.callChildPool
      rw [if_pos hmember]
      cases hchild : childPoolIdOf triggerFrom with
      | none => exact .throw hsame
      | some child =>
        have hrefused := hdespawn child hchild
        rw [← hsame] at hrefused ⊢
        refine Ends.map ((despawnCall_visited hmgr mgr.fuel [] false child s₁).mono
          (fun _ _ h => h.1 hrefused) fun s' h => ?_)
        exact h.elim (fun h => h.2) fun h => absurd hrefused h.1
    have hmembers : Ends (group.despawnMember triggerFrom fun child =>
        (mgr.despawnPoolPlanWithVisited mgr.fuel [] child false : PlanM σ PoolDespawnPoolPlan)) s₁
        (fun _ _ => False) fun s' => s'.spawns = s.spawns :=
      hcall.bind fun _ _ h => h.elim
    exact hmembers.bind fun _ _ h => h.elim
  · exact .pure trivial

theorem ends_updateMother (hrefused : mgr.MotherRefused dice poolId triggerFrom s)
    (call : ℕ → PlanM σ PoolSpawnPoolPlan) :
    Ends (mgr.spawnTypedPoolPlan dice .pool poolId triggerFrom call
      (mgr.despawnPoolPlanWithVisited mgr.fuel [])) s (fun _ _ => True)
      fun s' => s'.spawns = s.spawns := by
  unfold PoolMgr.spawnTypedPoolPlan
  cases hgroup : mgr.group .pool poolId with
  | none => exact .pure trivial
  | some group =>
    obtain ⟨hpool, hmember⟩ := hmgr .pool poolId group hgroup
    dsimp only
    split
    · exact .pure trivial
    · cases hfits : PoolMgr.childPoolOverflow group with
      | some child => exact .throw rfl
      | none =>
        cases htemplate : mgr.templates.lookup poolId with
        | none => exact .throw rfl
        | some template =>
          obtain ⟨⟨s₀, hrun⟩, hdespawn⟩ := hrefused group template hgroup hfits htemplate
          dsimp only
          rw [if_pos rfl]
          exact (ends_untriggered hmgr hmember hrun hdespawn call).bind
            fun plan s' _ => .pure trivial

/-- Without child pools only the template may be missing. -/
theorem ends_updatePlain (hkind : kind ≠ .pool) (call : ℕ → PlanM σ PoolSpawnPoolPlan)
    (despawnChildPool : ℕ → Bool → PlanM σ PoolDespawnPoolPlan) :
    Ends (mgr.spawnTypedPoolPlan dice kind poolId triggerFrom call despawnChildPool) s
      (fun _ _ => True) fun s' => s'.spawns = s.spawns := by
  unfold PoolMgr.spawnTypedPoolPlan
  cases hgroup : mgr.group kind poolId with
  | none => exact .pure trivial
  | some group =>
    obtain ⟨-, hmember⟩ := hmgr kind poolId group hgroup
    dsimp only
    split
    · exact .pure trivial
    · rw [PoolMgr.childPoolOverflow, if_pos (hmember.trans_ne hkind)]
      cases htemplate : mgr.templates.lookup poolId with
      | none => exact .throw rfl
      | some template =>
        exact ((Ends.trivial _ s).tryCatch fun _ _ _ => .pure trivial).bind
          fun plan s' _ => .pure trivial

end Pools

/-! ## Calls -/

/-- The call returns an error. -/
def PoolCall.Fails (mgr : PoolMgr) (spawns : SpawnedPoolData) : PoolCall → Prop
  | .spawn dice seed poolId =>
    ∃ e s', mgr.spawnPoolPlan dice poolId ⟨spawns, seed⟩ = .error e s'
  | .despawn poolId always =>
    ∃ e s', mgr.despawnPoolPlan poolId always ⟨spawns, ()⟩ = .error e s'
  | .update dice seed poolId spawnType spawnId =>
    ∃ e s', mgr.updatePoolPlan dice poolId spawnType spawnId ⟨spawns, seed⟩ = .error e s'

/-- A call that fails does so before its first change. -/
def PoolCall.Refused (mgr : PoolMgr) (spawns : SpawnedPoolData) : PoolCall → Prop
  | .spawn _ _ poolId => mgr.SpawnRefused poolId
  | .despawn poolId _ => mgr.DespawnRefused spawns mgr.fuel [] poolId
  | .update dice seed poolId spawnType _ =>
    spawnType ≠ .areaTrigger → ∀ mother, mgr.childPoolToParent.lookup poolId = some mother →
      mgr.MotherRefused dice mother poolId ⟨spawns, seed⟩

def SpawnedPoolData.Same (spawns spawns' : SpawnedPoolData) : Prop :=
  spawns.spawnedCreatures = spawns'.spawnedCreatures ∧
    spawns.spawnedGameobjects = spawns'.spawnedGameobjects ∧
    ∀ q, spawns.spawnedPools.lookup q = spawns'.spawnedPools.lookup q

theorem SpawnedPoolData.Same.isSpawned_eq {spawns' : SpawnedPoolData} (h : spawns.Same spawns') :
    spawns.isSpawned = spawns'.isSpawned := by
  funext x
  obtain ⟨kind, guid⟩ := x
  cases kind with
  | creature => simp [SpawnedPoolData.isSpawned, SpawnedPoolData.isSpawnedCreature, h.1]
  | gameObject => simp [SpawnedPoolData.isSpawned, SpawnedPoolData.isSpawnedGameobject, h.2.1]
  | pool =>
    have hmarks : spawns.isSpawnedPool = spawns'.isSpawnedPool := by
      funext q
      rw [SpawnedPoolData.isSpawnedPool, SpawnedPoolData.isSpawnedPool, h.2.2 q]
    simp [SpawnedPoolData.isSpawned, hmarks]

def PoolCall.isUpdate : PoolCall → Bool
  | .update _ _ _ _ _ => true
  | .spawn _ _ _ | .despawn _ _ => false

theorem poolStep_spawn (hmgr : mgr.Registered) {σ : Type} (dice : PoolDice σ) (seed : σ)
    (poolId : ℕ) (hfail : (PoolCall.spawn dice seed poolId).Fails mgr spawns) :
    mgr.SpawnRefused poolId ∧ poolStep mgr spawns (.spawn dice seed poolId) = spawns ∨
      ¬mgr.SpawnRefused poolId ∧
        Grew spawns (poolStep mgr spawns (.spawn dice seed poolId)) := by
  obtain ⟨e, s', hrun⟩ := hfail
  have hlevel : Ends (mgr.spawnPoolPlan dice poolId) ⟨spawns, seed⟩ _ _ :=
    ends_spawnLevel hmgr dice List.not_mem_nil
      (spawnCall_visited hmgr dice mgr.poolGroups.keys.length [poolId])
  have h := hlevel.fail_of_error hrun
  unfold poolStep finalState
  dsimp only
  rw [hrun]
  rcases h with ⟨hrefused, rfl⟩ | hgrew
  · exact .inl ⟨hrefused, rfl⟩
  · exact .inr hgrew

theorem poolStep_despawn (hmgr : mgr.Registered) (poolId : ℕ) (always : Bool)
    (hfail : (PoolCall.despawn poolId always).Fails mgr spawns) :
    mgr.DespawnRefused spawns mgr.fuel [] poolId ∧
        poolStep mgr spawns (.despawn poolId always) = spawns ∨
      ¬mgr.DespawnRefused spawns mgr.fuel [] poolId ∧
        Lost [poolId] spawns (poolStep mgr spawns (.despawn poolId always)) := by
  obtain ⟨e, s', hrun⟩ := hfail
  have h := (despawnCall_visited hmgr mgr.fuel [] always poolId ⟨spawns, ()⟩).fail_of_error hrun
  unfold poolStep finalState
  dsimp only
  rw [hrun]
  exact h

theorem poolStep_update (hmgr : mgr.Registered) {σ : Type} (dice : PoolDice σ) (seed : σ)
    (poolId : ℕ) (spawnType : SpawnObjectType) (spawnId : ℕ)
    (hfail : (PoolCall.update dice seed poolId spawnType spawnId).Fails mgr spawns)
    (hrefused : (PoolCall.update dice seed poolId spawnType spawnId).Refused mgr spawns) :
    poolStep mgr spawns (.update dice seed poolId spawnType spawnId) = spawns := by
  obtain ⟨e, s', hrun⟩ := hfail
  have hends : Ends (mgr.updatePoolPlan dice poolId spawnType spawnId) ⟨spawns, seed⟩
      (fun _ _ => True) fun s' => s'.spawns = spawns := by
    unfold PoolMgr.updatePoolPlan
    dsimp only
    split
    · exact .throw rfl
    case isFalse htype =>
      split
      case h_1 mother hmother =>
        exact ends_updateMother hmgr dice (hrefused htype mother hmother) _
      · exact ends_updatePlain hmgr dice (by split <;> decide) _ _
  have h := hends.fail_of_error hrun
  unfold poolStep finalState
  dsimp only
  rw [hrun]
  exact h

/-- A call that fails leaves the data as they were where it is refused before its first
change. A spawn or a despawn that is not refused so, and fails, has changed them. -/
theorem failed_plan_keeps_spawns (mgr : PoolMgr) (hmgr : mgr.Registered)
    (spawns : SpawnedPoolData) (call : PoolCall) (hfail : call.Fails mgr spawns) :
    (call.Refused mgr spawns → poolStep mgr spawns call = spawns) ∧
      (call.isUpdate = false → (poolStep mgr spawns call).Same spawns →
        call.Refused mgr spawns) := by
  cases call with
  | spawn dice seed poolId =>
    rcases poolStep_spawn hmgr dice seed poolId hfail with ⟨hrefused, hsame⟩ | ⟨hnot, hgrew⟩
    · exact ⟨fun _ => hsame, fun _ _ => hrefused⟩
    · exact ⟨fun h => absurd h hnot, fun _ hsame => absurd hsame.isSpawned_eq hgrew.ne⟩
  | despawn poolId always =>
    rcases poolStep_despawn hmgr poolId always hfail with ⟨hrefused, hsame⟩ | ⟨hnot, hlost⟩
    · exact ⟨fun _ => hsame, fun _ _ => hrefused⟩
    · exact ⟨fun h => absurd h hnot, fun _ hsame => absurd hsame.isSpawned_eq hlost.ne⟩
  | update dice seed poolId spawnType spawnId =>
    exact ⟨poolStep_update hmgr dice seed poolId spawnType spawnId hfail, fun h => by cases h⟩

/-! ## A child pool without a template -/

/-- Pool 1 may spawn pool 2, whose creature has no template. -/
def orphanMgr : PoolMgr where
  templates := (∅ : Dict ℕ PoolTemplateData).insert 1 ⟨1⟩
  creatureGroups := (∅ : Dict ℕ PoolGroup).insert 2 ⟨2, .creature, [], [⟨20, 0⟩]⟩
  gameobjectGroups := ∅
  poolGroups := (∅ : Dict ℕ PoolGroup).insert 1 ⟨1, .pool, [], [⟨2, 0⟩]⟩
  childPoolToParent := (∅ : Dict ℕ ℕ).insert 2 1

/-- The first candidate is always chosen. -/
def firstDice : PoolDice Unit where
  explicitRollFor _ _ := fun seed => (0, seed)
  chooseEqual _ _ := fun seed => ([0], seed)

theorem registered_orphanMgr : orphanMgr.Registered := by
  intro kind poolId group h
  cases kind <;> simp only [PoolMgr.group, orphanMgr, Dict.lookup_insert_eq] at h
  · split at h
    · cases h
      exact ⟨Eq.symm ‹_›, rfl⟩
    · cases h
  · cases h
  · split at h
    · cases h
      exact ⟨Eq.symm ‹_›, rfl⟩
    · cases h

/-- The spawn of pool 2 is refused. -/
theorem failed_plan_keeps_spawns_sample :
    poolStep orphanMgr .empty (.spawn firstDice () 2) = .empty := by
  have hfail : (PoolCall.spawn firstDice () 2).Fails orphanMgr .empty := ⟨_, _, rfl⟩
  refine (failed_plan_keeps_spawns orphanMgr registered_orphanMgr .empty _ hfail).1 ?_
  exact .inl ⟨rfl, .creature, _, rfl, rfl⟩

/-- The spawn of pool 1 fails after pool 2 was marked as spawned. -/
theorem failed_plan_spawns :
    (PoolCall.spawn firstDice () 1).Fails orphanMgr .empty ∧
      ¬(poolStep orphanMgr .empty (.spawn firstDice () 1)).Same .empty := by
  refine ⟨⟨_, _, rfl⟩, fun h => ?_⟩
  have hmark := h.2.2 2
  revert hmark
  decide

end RustyCore.Pools
