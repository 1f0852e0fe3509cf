import RustyCore.Model.Spawns.ProcessRespawns

/-! # What the parts of a respawn call do to the timers

Everything that a call runs between two timers only drops timers or is the caller's loader. So
a relation of stores that both keep holds between the stores before and after it. -/

namespace RustyCore.Spawns

open Pools

variable {σ ω ρ : Type}

/-- A relation of stores that removals and the loader of a call stay within. -/
structure Respects (call : RespawnCall σ ω ρ) (R : RespawnStore → RespawnStore → Prop) :
    Prop where
  refl : ∀ store, R store store
  trans : ∀ store store' store'', R store store' → R store' store'' → R store store''
  remove : ∀ store objectType spawnId,
    R store (store.removeRespawnTimeLikeCpp objectType spawnId).2
  load : ∀ map objectType spawnId seed,
    R map.respawnStore (call.loadRecord map objectType spawnId seed).2.1.respawnStore

/-- The stores are related, and the reasons to leave the loop are those of before. -/
structure Moves (R : RespawnStore → RespawnStore → Prop) (s s' : Respawning σ ω ρ) : Prop where
  store : R s.map.respawnStore s'.map.respawnStore
  errors : s'.summary.blockedPoolPlanErrors = s.summary.blockedPoolPlanErrors
  nonFuture : s'.summary.blockedLinkedRespawnNonFuture = s.summary.blockedLinkedRespawnNonFuture

section Moves

variable {call : RespawnCall σ ω ρ} {R : RespawnStore → RespawnStore → Prop}
variable {s s' s'' : Respawning σ ω ρ}

theorem Moves.trans (h : Respects call R) (first : Moves R s s') (second : Moves R s' s'') :
    Moves R s s'' where
  store := h.trans _ _ _ first.store second.store
  errors := second.errors.trans first.errors
  nonFuture := second.nonFuture.trans first.nonFuture

theorem Moves.of_eq (h : Respects call R) (store : s'.map.respawnStore = s.map.respawnStore)
    (errors : s'.summary.blockedPoolPlanErrors = s.summary.blockedPoolPlanErrors)
    (nonFuture : s'.summary.blockedLinkedRespawnNonFuture =
      s.summary.blockedLinkedRespawnNonFuture) : Moves R s s' :=
  ⟨store ▸ h.refl _, errors, nonFuture⟩

theorem Moves.refl (h : Respects call R) (s : Respawning σ ω ρ) : Moves R s s :=
  .of_eq h rfl rfl rfl

theorem Moves.foldl (h : Respects call R) {α : Type} {f : Respawning σ ω ρ → α → Respawning σ ω ρ}
    (hf : ∀ s a, Moves R s (f s a)) (l : List α) (s : Respawning σ ω ρ) :
    Moves R s (l.foldl f s) := by
  induction l generalizing s with
  | nil => exact .refl h s
  | cons a l ih => exact (hf s a).trans h (ih (f s a))

end Moves

namespace Respawning

variable {call : RespawnCall σ ω ρ} {R : RespawnStore → RespawnStore → Prop}

/-! ## Single actions -/

theorem addLoadedRecords_moves (h : Respects call R) (s : Respawning σ ω ρ)
    (records : LoadedGridRespawnRecords ρ) : Moves R s (s.addLoadedRecords call records) := by
  unfold addLoadedRecords
  dsimp only
  split <;> exact .of_eq h rfl rfl rfl

theorem loaded_moves (h : Respects call R) (s : Respawning σ ω ρ) (objectType : SpawnObjectType)
    (spawnId : ℕ) {result : Option (LoadedGridRespawnRecords ρ) × Map ω ρ × σ}
    (loads : call.loadRecord s.map objectType spawnId s.seed = result) :
    Moves R s (s.loaded result.2.1 result.2.2) where
  store := loads ▸ h.load s.map objectType spawnId s.seed
  errors := rfl
  nonFuture := rfl

theorem despawnObject_moves (h : Respects call R) (s : Respawning σ ω ρ) (guid : ObjectGuid) :
    Moves R s (s.despawnObject call guid) := by
  unfold despawnObject
  split
  · exact .of_eq h rfl rfl rfl
  · split <;> exact .of_eq h rfl rfl rfl

theorem poolUnsupported_moves (h : Respects call R) (s : Respawning σ ω ρ) :
    Moves R s s.poolUnsupported :=
  .of_eq h rfl rfl rfl

theorem applyPoolDespawnOne_moves (h : Respects call R) (s : Respawning σ ω ρ)
    (kind : PoolMemberKind) (spawnId : ℕ) : Moves R s (s.applyPoolDespawnOne call kind spawnId) := by
  cases kind with
  | creature => exact .foldl h (fun s guid => despawnObject_moves h s guid) _ s
  | gameObject => exact .foldl h (fun s guid => despawnObject_moves h s guid) _ s
  | pool => exact poolUnsupported_moves h s

theorem reportPoolSpawnOne_moves (h : Respects call R) (s : Respawning σ ω ρ)
    (kind : PoolMemberKind) (spawnId : ℕ) (respawn : Bool) :
    Moves R s (s.reportPoolSpawnOne call kind spawnId respawn) := by
  unfold reportPoolSpawnOne
  split
  · exact .of_eq h rfl rfl rfl
  next objectType _ =>
    split_ifs
    · exact .of_eq h rfl rfl rfl
    · exact .of_eq h rfl rfl rfl
    · split
      next loads => exact (loaded_moves h s _ _ loads).trans h (.of_eq h rfl rfl rfl)
      next loads => exact (loaded_moves h s _ _ loads).trans h (addLoadedRecords_moves h _ _)

theorem removeRespawnTime_moves (h : Respects call R) (s : Respawning σ ω ρ)
    (objectType : SpawnObjectType) (spawnId : ℕ) :
    Moves R s (s.removeRespawnTime objectType spawnId) :=
  ⟨h.remove _ _ _, rfl, rfl⟩

theorem removePoolRespawnTime_moves (h : Respects call R) (s : Respawning σ ω ρ)
    (objectType : SpawnObjectType) (spawnId : ℕ) :
    Moves R s (s.removePoolRespawnTime objectType spawnId) := by
  have removed := h.remove s.map.respawnStore objectType spawnId
  unfold removePoolRespawnTime
  split
  next result =>
    rw [result] at removed
    exact ⟨removed, rfl, rfl⟩
  next result =>
    rw [result] at removed
    exact ⟨removed, rfl, rfl⟩

theorem applyPoolSpawnObjectAction_moves (h : Respects call R) (s : Respawning σ ω ρ)
    (action : PoolSpawnObjectAction) : Moves R s (s.applyPoolSpawnObjectAction call action) := by
  cases action with
  | despawnOne kind guid => exact applyPoolDespawnOne_moves h s kind guid
  | respawnOne kind guid =>
    exact (applyPoolDespawnOne_moves h s kind guid).trans h
      (reportPoolSpawnOne_moves h _ kind guid true)
  | removeRespawnTime kind guid =>
    cases kind with
    | creature => exact removePoolRespawnTime_moves h s .creature guid
    | gameObject => exact removePoolRespawnTime_moves h s .gameObject guid
    | pool => exact .refl h s
  | spawnOne kind guid => exact reportPoolSpawnOne_moves h s kind guid false

/-! ## Pool plans -/

/-- A program that moves every state. -/
def Moving (R : RespawnStore → RespawnStore → Prop)
    (program : Respawning σ ω ρ → Respawning σ ω ρ) : Prop :=
  ∀ s, Moves R s (program s)

theorem applyDespawnActions_moving (h : Respects call R) (actions : List PoolSpawnObjectAction)
    {children : List (Respawning σ ω ρ → Respawning σ ω ρ)}
    (hchildren : ∀ child ∈ children, Moving R child) :
    Moving R (applyDespawnActions call actions children) := by
  intro s
  fun_induction applyDespawnActions call actions children s with
  | case1 children s => exact .refl h s
  | case2 guid rest s ih => exact (poolUnsupported_moves h s).trans h (ih hchildren)
  | case3 guid rest child children s ih =>
    have both := List.forall_mem_cons.mp hchildren
    exact (both.1 s).trans h (ih both.2)
  | case4 kind guid rest children s _ _ ih =>
    exact (applyPoolDespawnOne_moves h s kind guid).trans h (ih hchildren)
  | case5 => exact .refl h _
  | case6 kind guid rest children s objectType _ ih =>
    exact (removePoolRespawnTime_moves h s objectType guid).trans h (ih hchildren)
  | case7 kind guid rest children s ih => exact ih hchildren
  | case8 kind guid rest children s ih => exact ih hchildren

theorem applySpawnActions_moving (h : Respects call R) (actions : List PoolSpawnObjectAction)
    {spawns despawns : List (Respawning σ ω ρ → Respawning σ ω ρ)}
    (hspawns : ∀ child ∈ spawns, Moving R child)
    (hdespawns : ∀ child ∈ despawns, Moving R child) :
    Moving R (applySpawnActions call actions spawns despawns) := by
  intro s
  fun_induction applySpawnActions call actions spawns despawns s with
  | case1 spawns despawns s => exact .refl h s
  | case2 guid rest despawns s ih =>
    exact (poolUnsupported_moves h s).trans h (ih hspawns hdespawns)
  | case3 guid rest child spawns despawns s ih =>
    have both := List.forall_mem_cons.mp hspawns
    exact (both.1 s).trans h (ih both.2 hdespawns)
  | case4 guid rest spawns s ih =>
    exact (poolUnsupported_moves h s).trans h (ih hspawns hdespawns)
  | case5 guid rest spawns child despawns s ih =>
    have both := List.forall_mem_cons.mp hdespawns
    exact (both.1 s).trans h (ih hspawns both.2)
  | case6 guid rest spawns despawns s ih => exact ih hspawns hdespawns
  | case7 guid rest spawns despawns s ih => exact ih hspawns hdespawns
  | case8 action rest spawns despawns s _ _ _ _ _ _ ih =>
    exact (applyPoolSpawnObjectAction_moves h s action).trans h (ih hspawns hdespawns)

mutual

theorem applyDespawnPoolPlan_moving (h : Respects call R) :
    ∀ plan : PoolDespawnPoolPlan, Moving R (applyDespawnPoolPlan call plan)
  | .mk _ _ subplans => applyDespawnSubplans_moving h subplans

theorem applyDespawnSubplans_moving (h : Respects call R) :
    ∀ subplans : List (PoolTypedDespawnPlan PoolDespawnPoolPlan),
      Moving R (applyDespawnSubplans call subplans)
  | [] => fun s => .refl h s
  | subplan :: rest => fun s =>
    (applyTypedDespawnPlan_moving h subplan s).trans h (applyDespawnSubplans_moving h rest _)

theorem applyTypedDespawnPlan_moving (h : Respects call R) :
    ∀ plan : PoolTypedDespawnPlan PoolDespawnPoolPlan, Moving R (applyTypedDespawnPlan call plan)
  | ⟨_, _, _, _, objectPlan, _⟩ => applyDespawnObjectPlan_moving h objectPlan

theorem applyDespawnObjectPlan_moving (h : Respects call R) :
    ∀ plan : Option (PoolDespawnObjectPlan PoolDespawnPoolPlan),
      Moving R (applyDespawnObjectPlan call plan)
  | none => fun s => .refl h s
  | some ⟨actions, _, _, _, _, childPoolPlans⟩ =>
    applyDespawnActions_moving h actions (applyDespawnChildren_moving h childPoolPlans)

theorem applyDespawnChildren_moving (h : Respects call R) :
    ∀ plans : List PoolDespawnPoolPlan, ∀ child ∈ applyDespawnChildren call plans, Moving R child
  | [] => by simp [applyDespawnChildren]
  | plan :: rest => by
    rw [applyDespawnChildren]
    exact List.forall_mem_cons.mpr
      ⟨applyDespawnPoolPlan_moving h plan, applyDespawnChildren_moving h rest⟩

end

mutual

theorem applySpawnPoolPlan_moving (h : Respects call R) :
    ∀ plan : PoolSpawnPoolPlan, Moving R (applySpawnPoolPlan call plan)
  | .mk _ subplans => applySpawnSubplans_moving h subplans

theorem applySpawnSubplans_moving (h : Respects call R) :
    ∀ subplans : List TypedSpawnPlan, Moving R (applySpawnSubplans call subplans)
  | [] => fun s => .refl h s
  | subplan :: rest => fun s =>
    (applyTypedSpawnPlan_moving h subplan s).trans h (applySpawnSubplans_moving h rest _)

theorem applyTypedSpawnPlan_moving (h : Respects call R) :
    ∀ plan : TypedSpawnPlan, Moving R (applyTypedSpawnPlan call plan)
  | ⟨_, _, _, _, objectPlan, _⟩ => applySpawnObjectPlan_moving h objectPlan

theorem applySpawnObjectPlan_moving (h : Respects call R) :
    ∀ plan : Option (PoolSpawnObjectPlan PoolSpawnPoolPlan PoolDespawnPoolPlan),
      Moving R (applySpawnObjectPlan call plan)
  | none => fun s => .refl h s
  | some ⟨actions, _, _, _, childPoolSpawnPlans, childPoolDespawnPlans⟩ =>
    applySpawnActions_moving h actions (applySpawnChildren_moving h childPoolSpawnPlans)
      (applyDespawnChildren_moving h childPoolDespawnPlans)

theorem applySpawnChildren_moving (h : Respects call R) :
    ∀ plans : List PoolSpawnPoolPlan, ∀ child ∈ applySpawnChildren call plans, Moving R child
  | [] => by simp [applySpawnChildren]
  | plan :: rest => by
    rw [applySpawnChildren]
    exact List.forall_mem_cons.mpr
      ⟨applySpawnPoolPlan_moving h plan, applySpawnChildren_moving h rest⟩

end

end Respawning

end RustyCore.Spawns
