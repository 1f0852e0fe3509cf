import RustyCore.Verification.Maps.Runs

/-! # The history of the ticks

Next to the manager a history keeps what the manager forgets: which plans were settled, a
number for each map ever created, and the phases that the maps ran. -/

namespace RustyCore.Maps

variable {Position Data : Type}
variable {manager manager' : MapManager Position Data} {diffMs : ℕ} {plan : MapTickPlan}
variable {history : MapHistory Position Data} {op : MapOp Position Data}

/-! ## What an operation does to the set of maps -/

namespace MapManager

/-- A key has an incarnation when it has a map. -/
def Numbered (manager : MapManager Position Data) : Prop :=
  ∀ key, (manager.mapIncarnations.lookup key).isSome = (manager.maps.lookup key).isSome

/-- No map was added. -/
structure Shrunk (manager manager' : MapManager Position Data) : Prop where
  incarnations : ∀ key, manager'.mapIncarnations.lookup key =
    if (manager'.maps.lookup key).isSome then manager.mapIncarnations.lookup key else none
  kept : ∀ key, (manager'.maps.lookup key).isSome = true →
    (manager.maps.lookup key).isSome = true
  next : manager'.nextMapIncarnation = manager.nextMapIncarnation

/-- The map `key` was added. -/
structure Grown (key : MapKey) (manager manager' : MapManager Position Data) : Prop where
  absent : manager.maps.lookup key = none
  incarnations : manager'.mapIncarnations =
    manager.mapIncarnations.insert key manager.nextMapIncarnation
  present : ∀ key', (manager'.maps.lookup key').isSome =
    if key' = key then true else (manager.maps.lookup key').isSome
  next : manager'.nextMapIncarnation = saturatingAdd 64 manager.nextMapIncarnation 1

variable {manager manager' : MapManager Position Data}

theorem Shrunk.remove (h : manager.Numbered) (gone : MapKey → Prop) [DecidablePred gone]
    (hpresent : ∀ key, (manager'.maps.lookup key).isSome =
      if gone key then false else (manager.maps.lookup key).isSome)
    (hincarnations : ∀ key, manager'.mapIncarnations.lookup key =
      if gone key then none else manager.mapIncarnations.lookup key)
    (hnext : manager'.nextMapIncarnation = manager.nextMapIncarnation) :
    manager.Shrunk manager' := by
  refine ⟨fun key => ?_, fun key hkey => ?_, hnext⟩
  · rw [hincarnations, hpresent, ← h key]
    by_cases hgone : gone key
    · simp [hgone]
    · rw [if_neg hgone, if_neg hgone]
      cases manager.mapIncarnations.lookup key with
      | none => rfl
      | some incarnation => rfl
  · rw [hpresent] at hkey
    split_ifs at hkey
    exact hkey

theorem Shrunk.same (h : manager.Numbered)
    (hpresent : ∀ key, (manager'.maps.lookup key).isSome = (manager.maps.lookup key).isSome)
    (hincarnations : manager'.mapIncarnations = manager.mapIncarnations)
    (hnext : manager'.nextMapIncarnation = manager.nextMapIncarnation) :
    manager.Shrunk manager' :=
  .remove h (fun _ => False) (fun key => by simpa using hpresent key)
    (fun key => by simp [hincarnations]) hnext

theorem Shrunk.numbered (h : manager.Shrunk manager') (hnumbered : manager.Numbered) :
    manager'.Numbered := by
  intro key
  rw [h.incarnations]
  split_ifs with hkey
  · rw [hnumbered key, h.kept key hkey, hkey]
  · simpa using hkey

theorem Grown.numbered {key : MapKey} (h : manager.Grown key manager')
    (hnumbered : manager.Numbered) : manager'.Numbered := by
  intro key'
  rw [h.incarnations, Dict.lookup_insert_eq, h.present]
  split_ifs with hkey
  · rfl
  · exact hnumbered key'

end MapManager

def MapOp.creates (history : MapHistory Position Data) : MapOp Position Data → Option MapKey
  | .owner (.createMap key _ _) =>
    if (history.manager.maps.lookup key).isSome then none else some key
  | _ => none

variable (world : MapWorld Position Data)

theorem MapOp.grown_of_creates {key : MapKey} (hcreates : op.creates history = some key) :
    history.manager.Grown key (history.step world op).manager := by
  cases op with
  | owner op =>
    cases op with
    | createMap key' difficulty kind =>
      simp only [MapOp.creates] at hcreates
      split_ifs at hcreates with hpresent
      obtain rfl := Option.some.inj hcreates
      have habsent : history.manager.maps.lookup key' = none := by simpa using hpresent
      simp only [MapHistory.step, OwnerOp.apply, MapManager.createMapEntry, habsent]
      refine ⟨habsent, rfl, fun other => ?_, rfl⟩
      rw [Dict.lookup_insert_eq]
      split_ifs <;> rfl
    | adoptActive guid => cases hcreates
    | installDetached player => cases hcreates
    | attach handle key position => cases hcreates
    | detach handle => cases hcreates
    | relocate handle position => cases hcreates
    | retire handle => cases hcreates
  | destroyMap key => cases hcreates
  | setCanUnload key canUnload => cases hcreates
  | beginTick diffMs => cases hcreates
  | resumeTick plan => cases hcreates
  | abandonTick plan => cases hcreates
  | initInstanceIds maxExistingInstanceId => cases hcreates
  | registerInstanceId instanceId => cases hcreates
  | generateInstanceId => cases hcreates

theorem MapOp.shrunk_of_creates (hnumbered : history.manager.Numbered)
    (hcreates : op.creates history = none) :
    history.manager.Shrunk (history.step world op).manager := by
  cases op with
  | owner op =>
    by_cases hop : ∀ key difficulty kind, op ≠ .createMap key difficulty kind
    · have hsame := MapManager.SameMaps.of_apply world.isValidMapCoord2d history.manager hop
      simp only [MapHistory.step]
      exact .same hnumbered hsame.isSome (by rw [hsame.rest]) (by rw [hsame.rest])
    · push Not at hop
      obtain ⟨key, difficulty, kind, rfl⟩ := hop
      simp only [MapOp.creates] at hcreates
      split_ifs at hcreates with hpresent
      obtain ⟨map, hmap⟩ := Option.isSome_iff_exists.mp hpresent
      simp only [MapHistory.step, OwnerOp.apply, MapManager.createMapEntry, hmap]
      exact .same hnumbered (fun _ => rfl) rfl rfl
  | destroyMap key =>
    have hresult := MapManager.destroyed_of_destroy history.manager key
    simp only [MapHistory.step]
    generalize history.manager.destroyMap key = result at hresult ⊢
    cases hresult with
    | refused => exact .same hnumbered (fun _ => rfl) rfl rfl
    | destroyed hmap hplayers =>
      refine .remove hnumbered (· = key) (fun key' => ?_)
        (fun key' => Dict.lookup_erase_eq _ _ _) rfl
      rw [Dict.lookup_erase_eq]
      split_ifs <;> rfl
  | setCanUnload key canUnload =>
    refine .same hnumbered (fun key' => ?_) rfl rfl
    simp only [MapHistory.step, Dict.lookup_modify]
    split_ifs with hkey
    · rw [hkey, Option.isSome_map]
    · rfl
  | beginTick diffMs =>
    have hresult := MapManager.began_of_begin history.manager diffMs
    simp only [MapHistory.step]
    generalize history.manager.beginTickLikeCpp diffMs = result at hresult ⊢
    cases hresult with
    | busy epoch hepoch => exact .same hnumbered (fun _ => rfl) rfl rfl
    | waiting hidle => exact .same hnumbered (fun _ => rfl) rfl rfl
    | started hidle hpassed hepoch hupdated hdestroyed hmaps hids hrest =>
      refine .same hnumbered (fun key => ?_) (by simp only; rw [hrest]) (by simp only; rw [hrest])
      simp only [hmaps, Option.isSome_map]
  | resumeTick i =>
    simp only [MapHistory.step]
    cases hplan : history.plans[i]? with
    | none => exact .same hnumbered (fun _ => rfl) rfl rfl
    | some plan =>
      have hresult := MapManager.resumed_of_resume world.phases history.manager plan
      simp only
      generalize history.manager.resumeTick world.phases plan = result at hresult ⊢
      cases hresult with
      | rejected hcoordination => exact .same hnumbered (fun _ => rfl) rfl rfl
      | @resumed manager' hcoordination hmaps hincarnations hrest =>
        refine .remove hnumbered (history.manager.doomed plan.destroyed · = true)
          (fun key => ?_) hincarnations (by simp only; rw [hrest])
        obtain ⟨n, hn⟩ := hmaps key
        rw [hn]
        split_ifs
        · rfl
        · rw [Option.isSome_map]
  | abandonTick i =>
    simp only [MapHistory.step]
    cases hplan : history.plans[i]? with
    | none => exact .same hnumbered (fun _ => rfl) rfl rfl
    | some plan =>
      simp only [MapManager.abandonTickLikeCpp]
      split_ifs
      · exact .same hnumbered (fun _ => rfl) rfl rfl
      · exact .same hnumbered (fun _ => rfl) rfl rfl
  | initInstanceIds maxExistingInstanceId => exact .same hnumbered (fun _ => rfl) rfl rfl
  | registerInstanceId instanceId => exact .same hnumbered (fun _ => rfl) rfl rfl
  | generateInstanceId => exact .same hnumbered (fun _ => rfl) rfl rfl

/-! ## What an operation does to the tick -/

/-- The time that a map was given by its last dynamic-tree phase, if it ran one since `map`. -/
def ManagedMap.treeUpdate (map map' : ManagedMap Position Data) : Option ℕ :=
  if map.updateCalls.length < map'.updateCalls.length then map'.updateCalls.getLast? else none

/-- The maps that ran their dynamic-tree phase between two states. -/
def ranDynamicTree (before after : MapManager Position Data) : List (MapKey × ℕ) :=
  before.keys.filterMap fun key =>
    ((before.maps.lookup key).bind fun map =>
      (after.maps.lookup key).bind map.treeUpdate).map fun diffMs => (key, diffMs)

theorem ranDynamicTree_same {before after : MapManager Position Data}
    (h : after.maps = before.maps) : ranDynamicTree before after = [] := by
  refine List.filterMap_eq_nil_iff.mpr fun key _ => ?_
  rw [h]
  cases before.maps.lookup key with
  | none => rfl
  | some map => simp [ManagedMap.treeUpdate]

namespace MapOp

variable (history : MapHistory Position Data)

def dynamicTrees : MapOp Position Data → List (MapKey × ℕ)
  | .beginTick diffMs => ranDynamicTree history.manager (history.manager.beginTickLikeCpp diffMs).2
  | _ => []

/-- The numbers of the plans that were answered `Resumed`. -/
def settles : MapOp Position Data → List ℕ
  | .resumeTick i =>
    match history.plans[i]? with
    | none => []
    | some plan =>
      if (history.manager.resumeTick world.phases plan).1 = .resumed then [i] else []
  | .abandonTick i =>
    match history.plans[i]? with
    | none => []
    | some plan => if (history.manager.abandonTickLikeCpp plan).1 = .resumed then [i] else []
  | _ => []

/-- The maps that ran `update_after_sessions`, each with the number of the plan and the
time it was given. -/
def afterSessions : MapOp Position Data → List (ℕ × MapKey × ℕ)
  | .resumeTick i =>
    match history.plans[i]? with
    | none => []
    | some plan =>
      (history.manager.resumeTick world.phases plan).2.2.map fun resumed =>
        (i, resumed.1.key, resumed.2)
  | _ => []

/-- How an operation moves the tick. -/
inductive Moved (op : MapOp Position Data) : MapHistory Position Data → Prop where
  | quiet {manager' : MapManager Position Data} :
      manager'.tickCoordination = history.manager.tickCoordination →
      manager'.nextTickEpoch = history.manager.nextTickEpoch →
      op.dynamicTrees history = [] → op.settles world history = [] →
      op.afterSessions world history = [] → Moved op ⟨manager', history.plans⟩
  | started {diffMs : ℕ} {plan : MapTickPlan} {manager' : MapManager Position Data} :
      op = .beginTick diffMs →
      history.manager.beginTickLikeCpp diffMs = (.started plan, manager') →
      Moved op ⟨manager', history.plans ++ [plan]⟩
  | settled {i : ℕ} {plan : MapTickPlan} {manager' : MapManager Position Data} :
      history.plans[i]? = some plan →
      history.manager.tickCoordination = .awaitingSessions plan.epoch →
      manager'.tickCoordination = .idle →
      manager'.nextTickEpoch = history.manager.nextTickEpoch →
      op.dynamicTrees history = [] → op.settles world history = [i] →
      (op.afterSessions world history = [] ∨ op.afterSessions world history =
        (plan.updated.filter history.manager.live).map fun participant =>
          (i, participant.key, plan.effectiveDiffMs)) →
      Moved op ⟨manager', history.plans⟩

theorem moved_of_step (op : MapOp Position Data) :
    op.Moved world history (history.step world op) := by
  cases op with
  | owner op =>
    by_cases hop : ∀ key difficulty kind, op ≠ .createMap key difficulty kind
    · have hsame := MapManager.SameMaps.of_apply world.isValidMapCoord2d history.manager hop
      exact .quiet (by rw [hsame.rest]) (by rw [hsame.rest]) rfl rfl rfl
    · push Not at hop
      obtain ⟨key, difficulty, kind, rfl⟩ := hop
      have hresult := MapManager.created_of_create history.manager key difficulty kind
      simp only [MapHistory.step, OwnerOp.apply]
      generalize history.manager.createMapEntry key difficulty kind = manager' at hresult ⊢
      cases hresult with
      | present hmap => exact .quiet rfl rfl rfl rfl rfl
      | created hmap => exact .quiet rfl rfl rfl rfl rfl
  | destroyMap key =>
    have hresult := MapManager.destroyed_of_destroy history.manager key
    simp only [MapHistory.step]
    generalize history.manager.destroyMap key = result at hresult ⊢
    cases hresult with
    | refused => exact .quiet rfl rfl rfl rfl rfl
    | destroyed hmap hplayers => exact .quiet rfl rfl rfl rfl rfl
  | setCanUnload key canUnload => exact .quiet rfl rfl rfl rfl rfl
  | beginTick diffMs =>
    have hresult := MapManager.began_of_begin history.manager diffMs
    simp only [MapHistory.step]
    generalize hbegin : history.manager.beginTickLikeCpp diffMs = result at hresult ⊢
    cases hresult with
    | busy epoch hepoch =>
      exact .quiet rfl rfl (by rw [dynamicTrees, hbegin]; exact ranDynamicTree_same rfl) rfl rfl
    | waiting hidle =>
      exact .quiet rfl rfl (by rw [dynamicTrees, hbegin]; exact ranDynamicTree_same rfl) rfl rfl
    | started hidle hpassed hepoch hupdated hdestroyed hmaps hids hrest => exact .started rfl hbegin
  | resumeTick i =>
    simp only [MapHistory.step]
    cases hplan : history.plans[i]? with
    | none => exact .quiet rfl rfl rfl (by simp [settles, hplan]) (by simp [afterSessions, hplan])
    | some plan =>
      have hresult := MapManager.resumed_of_resume world.phases history.manager plan
      simp only
      generalize hresume : history.manager.resumeTick world.phases plan = result at hresult ⊢
      cases hresult with
      | rejected hcoordination =>
        exact .quiet rfl rfl rfl (by simp [settles, hplan, hresume])
          (by simp [afterSessions, hplan, hresume])
      | resumed hcoordination hmaps hincarnations hrest =>
        refine .settled hplan hcoordination (by simp only; rw [hrest])
          (by simp only; rw [hrest]) rfl (by simp [settles, hplan, hresume]) (.inr ?_)
        simp [afterSessions, hplan, hresume, List.map_map, Function.comp_def]
  | abandonTick i =>
    simp only [MapHistory.step]
    cases hplan : history.plans[i]? with
    | none => exact .quiet rfl rfl rfl (by simp [settles, hplan]) rfl
    | some plan =>
      by_cases hcoordination :
          history.manager.tickCoordination = .awaitingSessions plan.epoch
      · refine .settled hplan hcoordination ?_ ?_ rfl ?_ (.inl rfl)
        · simp [MapManager.abandonTickLikeCpp, hcoordination]
        · simp [MapManager.abandonTickLikeCpp, hcoordination]
        · simp [settles, hplan, MapManager.abandonTickLikeCpp, hcoordination]
      · refine .quiet ?_ ?_ rfl ?_ rfl
        · simp [MapManager.abandonTickLikeCpp, hcoordination]
        · simp [MapManager.abandonTickLikeCpp, hcoordination]
        · simp [settles, hplan, MapManager.abandonTickLikeCpp, hcoordination]
  | initInstanceIds maxExistingInstanceId => exact .quiet rfl rfl rfl rfl rfl
  | registerInstanceId instanceId => exact .quiet rfl rfl rfl rfl rfl
  | generateInstanceId => exact .quiet rfl rfl rfl rfl rfl

end MapOp

theorem MapManager.Began.mem_ranDynamicTree (h : Began manager diffMs (.started plan, manager'))
    {participant : MapTickParticipant} (hmem : participant ∈ plan.updated) :
    (participant.key, plan.effectiveDiffMs) ∈ ranDynamicTree manager manager' := by
  cases h with
  | started hidle hpassed hepoch hupdated hdestroyed hmaps hids hrest =>
    rw [hupdated] at hmem
    obtain ⟨key, hkey, rfl⟩ := List.mem_map.mp hmem
    obtain ⟨hkeys, hupdates⟩ := List.mem_filter.mp hkey
    obtain ⟨map, hmap, hunload⟩ := Option.any_eq_true _ _ |>.mp hupdates
    refine List.mem_filterMap.mpr ⟨key, hkeys, ?_⟩
    have hunload' : map.canUnload = false := by simpa using hunload
    simp [hmaps, hmap, ManagedMap.treeUpdate, ManagedMap.begun, hunload',
      ManagedMap.updateDynamicTreePhaseLikeCpp, MapManager.participant]

theorem MapManager.Began.participants (hnumbered : manager.Numbered)
    (h : Began manager diffMs (.started plan, manager')) :
    (plan.updated.map MapTickParticipant.key).Nodup ∧
      ∀ participant ∈ plan.updated,
        manager.mapIncarnations.lookup participant.key = some participant.incarnation := by
  cases h with
  | started hidle hpassed hepoch hupdated hdestroyed hmaps hids hrest =>
    rw [hupdated]
    constructor
    · rw [List.map_map]
      exact (manager.nodup_keys.filter _).map fun key key' hkey => hkey
    · intro participant hmem
      obtain ⟨key, hkey, rfl⟩ := List.mem_map.mp hmem
      obtain ⟨map, hmap⟩ := MapManager.mem_keys.mp (List.mem_filter.mp hkey).1
      have hpresent := hnumbered key
      rw [hmap, Option.isSome_some] at hpresent
      obtain ⟨incarnation, hincarnation⟩ := Option.isSome_iff_exists.mp hpresent
      simp only [MapManager.participant]
      rw [hincarnation]
      rfl

theorem MapManager.Began.coordination (h : Began manager diffMs (.started plan, manager')) :
    manager.tickCoordination = .idle ∧ plan.epoch = manager.nextTickEpoch ∧
      manager'.tickCoordination = .awaitingSessions plan.epoch ∧
      manager'.nextTickEpoch = saturatingAdd 64 plan.epoch 1 := by
  cases h with
  | started hidle hpassed hepoch hupdated hdestroyed hmaps hids hrest =>
    exact ⟨hidle, hepoch, by rw [hrest], by rw [hrest]⟩

theorem nodup_ranDynamicTree (before after : MapManager Position Data) :
    (ranDynamicTree before after).Nodup := by
  refine List.Nodup.filterMap (fun key key' entry hkey hkey' => ?_) before.nodup_keys
  obtain ⟨diffMs, -, rfl⟩ := Option.map_eq_some_iff.mp hkey
  obtain ⟨diffMs', -, heq⟩ := Option.map_eq_some_iff.mp hkey'
  exact (Prod.mk.inj heq).1.symm

end RustyCore.Maps
