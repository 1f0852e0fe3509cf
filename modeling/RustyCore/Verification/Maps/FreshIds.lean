import RustyCore.Verification.Maps.Allocator
import RustyCore.Verification.Maps.Runs

/-! # Fresh instance ids

An id is free again as soon as its map is torn down, which is before the map is removed. -/

namespace RustyCore.Maps

variable {Position Data : Type}
variable {op : MapOp Position Data}

/-! ## Maps that hold an id -/

namespace ManagedMap

variable (map : ManagedMap Position Data)

def instanced : Bool := map.kind.isDungeon || map.kind.isBattlegroundOrArena

/-- Torn down, with its id freed, and not removed yet. -/
def waiting : Bool := map.kind.freesInstanceIdOnDestroy && map.unloadAllCalls != 0

/-- The id of the map must not be handed out. -/
def holdsId : Bool := map.instanced && !map.waiting && map.instanceId != 0

theorem holdsId_shell : map.shell.holdsId = map.holdsId := rfl

theorem holdsId_of_begun {current : ℕ} (h : (map.begun current).holdsId = true) :
    map.holdsId = true := by
  simp only [holdsId, instanced, waiting, begun_kind, begun_instanceId, Bool.and_eq_true,
    Bool.not_eq_true', Bool.and_eq_false_iff, bne_iff_ne, bne_eq_false_iff_eq] at h ⊢
  obtain ⟨⟨hinstanced, hwaiting⟩, hid⟩ := h
  refine ⟨⟨hinstanced, hwaiting.imp_right fun hcalls => ?_⟩, hid⟩
  simp only [begun] at hcalls
  split_ifs at hcalls
  · exact hcalls
  · simp [unloadAll] at hcalls
  · exact hcalls

theorem not_holdsId_of_condemned {current : ℕ} (hcondemned : map.condemned = true)
    (hfrees : map.kind.freesInstanceIdOnDestroy = true) :
    (map.begun current).holdsId = false := by
  simp only [condemned, Bool.and_eq_true, Bool.not_eq_true'] at hcondemned
  simp [holdsId, waiting, begun, hcondemned, hfrees, unloadAll]

theorem holdsId_resumed (phases : MapPhases Position Data) (current n : ℕ) :
    (map.resumed phases current n).holdsId = map.holdsId ∧
      (map.resumed phases current n).instanceId = map.instanceId := by
  have hiterate : ((updateAfterSessions phases · current)^[n] map).holdsId = map.holdsId ∧
      ((updateAfterSessions phases · current)^[n] map).instanceId = map.instanceId := by
    induction n with
    | zero => exact ⟨rfl, rfl⟩
    | succ n ih =>
      rw [Function.iterate_succ_apply']
      exact ih
  exact hiterate

end ManagedMap

/-! ## Registered ids -/

structure IdHistory (Position Data : Type) extends MapHistory Position Data where
  registered : List ℕ

namespace MapOp

variable (history : MapHistory Position Data)

/-- The ids that an operation registers. -/
def registers : MapOp Position Data → List ℕ
  | .registerInstanceId instanceId => [instanceId]
  | .owner (.createMap key _ kind) =>
    if (history.manager.maps.lookup key).isNone ∧ key.instanceId ≠ 0 ∧
        (kind.isDungeon || kind.isBattlegroundOrArena) then [key.instanceId]
    else []
  | _ => []

/-- The ids that an operation frees. -/
def frees : MapOp Position Data → List ℕ
  | .destroyMap key =>
    if (history.manager.destroyMap key).1 then
      (((history.manager.maps.lookup key).toList.filter
        (·.kind.freesInstanceIdOnDestroy)).map (·.instanceId))
    else []
  | .beginTick diffMs =>
    match (history.manager.beginTickLikeCpp diffMs).1 with
    | .started _ =>
      ((history.manager.condemnedMaps history.manager.keys).filter
        (·.kind.freesInstanceIdOnDestroy)).map (·.instanceId)
    | _ => []
  | _ => []

end MapOp

variable (world : MapWorld Position Data)

def IdHistory.step (history : IdHistory Position Data) (op : MapOp Position Data) :
    IdHistory Position Data where
  toMapHistory := history.toMapHistory.step world op
  registered := (history.registered ++ op.registers history.toMapHistory).filter
    (· ∉ op.frees history.toMapHistory)

/-- A generated id is neither registered nor the id of a dungeon or battleground. -/
def HandsOutFresh (history : IdHistory Position Data) (op : MapOp Position Data) : Prop :=
  op = .generateInstanceId →
    ∀ id, history.manager.instanceIds.generateInstanceId.1 = some id →
      id ∉ history.registered ∧
      ∀ key map, history.manager.maps.lookup key = some map → map.instanced = true →
        map.instanceId ≠ 0 → map.instanceId ≠ id

/-- The next id does not move on to a used one when `instanceId` is registered. -/
def InstanceIdAllocator.RegistersInOrder (ids : InstanceIdAllocator) (instanceId : ℕ) : Prop :=
  instanceId ≠ 0 ∧ instanceId < 2 ^ 32 ∧
    (ids.nextInstanceId = instanceId → ¬ids.Used (instanceId + 1))

/-- An operation that frees no id of a map in use and makes no used id the next. -/
def SafeIds (history : IdHistory Position Data) : MapOp Position Data → Prop
  | .registerInstanceId instanceId => history.manager.instanceIds.RegistersInOrder instanceId
  | .owner (.createMap key _ kind) =>
    history.manager.maps.lookup key = none → key.instanceId ≠ 0 →
      (kind.isDungeon || kind.isBattlegroundOrArena) = true →
      history.manager.instanceIds.RegistersInOrder key.instanceId
  | .destroyMap key =>
    ∀ map, history.manager.maps.lookup key = some map →
      map.kind.freesInstanceIdOnDestroy = true → map.havePlayers = false →
      ∀ key' map', key' ≠ key → history.manager.maps.lookup key' = some map' →
        map'.holdsId = true → map'.instanceId ≠ map.instanceId
  | .beginTick diffMs =>
    history.manager.tickCoordination = .idle →
      (history.manager.timer.update diffMs).passed = true →
      ∀ key map key' map', history.manager.maps.lookup key = some map →
        map.kind.freesInstanceIdOnDestroy = true → map.condemned = true →
        history.manager.maps.lookup key' = some map' → map'.holdsId = true →
        map'.instanceId = map.instanceId →
        map'.kind.freesInstanceIdOnDestroy = true ∧ map'.condemned = true
  | .generateInstanceId =>
    ∀ key map, history.manager.maps.lookup key = some map → map.waiting = true →
      map.instanceId ≠ history.manager.instanceIds.nextInstanceId
  | .initInstanceIds _ => False
  | _ => True

/-! ## The allocator -/

namespace InstanceIdAllocator

/-- The next id is not used, and no id of more than 32 bits is. -/
structure Sound (ids : InstanceIdAllocator) : Prop where
  next_lt : ids.nextInstanceId < 2 ^ 32
  next_free : ids.nextInstanceId = 0 ∨ ¬ids.Used ids.nextInstanceId
  high : ∀ i, 2 ^ 32 ≤ i → ¬ids.Used i

variable {ids : InstanceIdAllocator}

theorem Sound.register (h : ids.Sound) {instanceId : ℕ} (horder : ids.RegistersInOrder instanceId) :
    (ids.registerInstanceId instanceId).Sound := by
  obtain ⟨hnonzero, hlt, hnext⟩ := horder
  refine ⟨?_, ?_, fun i hi hused => ?_⟩
  · rw [register_next]
    split_ifs
    · exact Nat.mod_lt _ (Nat.two_pow_pos 32)
    · exact h.next_lt
  · rw [register_next]
    split_ifs with heq
    · rw [heq]
      simp only [wrappingAdd]
      by_cases hwrap : instanceId + 1 < 2 ^ 32
      · right
        rw [Nat.mod_eq_of_lt hwrap, used_register _ _ _ (Nat.succ_ne_zero _)]
        rintro (hsame | hused)
        · omega
        · exact hnext heq hused
      · left
        omega
    · by_cases hzero : ids.nextInstanceId = 0
      · exact .inl hzero
      · right
        rw [used_register _ _ _ hzero]
        rintro (hsame | hused)
        · exact heq hsame
        · exact (h.next_free.resolve_left hzero) hused
  · rw [used_register _ _ _ (by omega)] at hused
    rcases hused with hsame | hold
    · omega
    · exact h.high i hi hold

theorem Sound.free (h : ids.Sound) (instanceId : ℕ) : (ids.freeInstanceId instanceId).Sound := by
  refine ⟨?_, ?_, fun i hi hused => ?_⟩
  · rw [free_next]
    exact lt_of_le_of_lt (Nat.min_le_left _ _) h.next_lt
  · rw [free_next]
    by_cases hzero : min ids.nextInstanceId instanceId = 0
    · exact .inl hzero
    · right
      rw [used_free _ _ _ hzero]
      rintro ⟨hne, hused⟩
      have hmin : min ids.nextInstanceId instanceId = ids.nextInstanceId := by omega
      rw [hmin] at hused hzero
      exact (h.next_free.resolve_left hzero) hused
  · rw [used_free _ _ _ (by omega)] at hused
    exact h.high i hi hused.2

theorem Sound.generate (h : ids.Sound) : ids.generateInstanceId.2.Sound ∧
    ∀ i, i ≠ 0 → ids.Used i → ids.generateInstanceId.2.Used i := by
  cases hgenerate : ids.generateInstanceId with
  | mk generated ids' =>
    cases generated with
    | none =>
      rw [ids.generate_eq_none hgenerate]
      exact ⟨h, fun i _ hused => hused⟩
    | some id =>
      obtain ⟨rfl, hused, hlt, hfree⟩ := ids.generate_eq_some hgenerate h.next_lt h.high
      refine ⟨⟨hlt, hfree, fun i hi hi' => ?_⟩, fun i hi hold => (hused i hi).mpr (.inr hold)⟩
      have hnext := h.next_lt
      rcases (hused i (by omega)).mp hi' with hsame | hold
      · omega
      · exact h.high i hi hold

theorem Sound.init (maxExistingInstanceId : ℕ) :
    (initInstanceIds maxExistingInstanceId).Sound where
  next_lt := by
    simp only [initInstanceIds]
    omega
  next_free := .inr (used_init maxExistingInstanceId 1 (by omega))
  high := fun i hi => used_init maxExistingInstanceId i (by omega)

theorem Sound.teardown (h : ids.Sound) (maps : List (ManagedMap Position Data)) :
    (maps.foldl (fun ids map => map.teardown ids) ids).Sound ∧
      ∀ i, i ≠ 0 → ids.Used i →
        (∀ map ∈ maps, map.kind.freesInstanceIdOnDestroy = true → map.instanceId ≠ i) →
        (maps.foldl (fun ids map => map.teardown ids) ids).Used i := by
  induction maps generalizing ids with
  | nil => exact ⟨h, fun i _ hused _ => hused⟩
  | cons map maps ih =>
    simp only [List.foldl_cons, ManagedMap.teardown]
    split_ifs with hfrees
    · obtain ⟨hsound, hkept⟩ := ih (h.free map.instanceId)
      refine ⟨hsound, fun i hi hused hother => hkept i hi ?_ fun map' hmem =>
        hother map' (List.mem_cons_of_mem _ hmem)⟩
      rw [used_free _ _ _ hi]
      exact ⟨(hother map List.mem_cons_self hfrees).symm, hused⟩
    · obtain ⟨hsound, hkept⟩ := ih h
      exact ⟨hsound, fun i hi hused hother => hkept i hi hused fun map' hmem =>
        hother map' (List.mem_cons_of_mem _ hmem)⟩

end InstanceIdAllocator

/-! ## Steps -/

/-- The registered ids are used, and `Held` asks the same of the ids of maps. -/
structure IdHistory.Registered (history : IdHistory Position Data) : Prop where
  sound : history.manager.instanceIds.Sound
  used : ∀ i ∈ history.registered, i ≠ 0 ∧ history.manager.instanceIds.Used i

def MapManager.Held (manager : MapManager Position Data) : Prop :=
  ∀ key map, manager.maps.lookup key = some map → map.holdsId = true →
    manager.instanceIds.Used map.instanceId

theorem ManagedMap.holdsId_ne_zero {map : ManagedMap Position Data} (h : map.holdsId = true) :
    map.instanceId ≠ 0 := by
  simp only [holdsId, Bool.and_eq_true, bne_iff_ne] at h
  exact h.2

namespace MapManager

variable {manager manager' : MapManager Position Data}

theorem Held.mono (h : manager.Held)
    (hused : ∀ i, i ≠ 0 → manager.instanceIds.Used i → manager'.instanceIds.Used i)
    (hmaps : ∀ key map', manager'.maps.lookup key = some map' → map'.holdsId = true →
      ∃ key' map, manager.maps.lookup key' = some map ∧ map.holdsId = true ∧
        map.instanceId = map'.instanceId) : manager'.Held := by
  intro key map' hmap' hholds
  obtain ⟨key', map, hmap, hholds', hsame⟩ := hmaps key map' hmap' hholds
  have hold := h key' map hmap hholds'
  rw [hsame] at hold
  exact hused _ (ManagedMap.holdsId_ne_zero hholds) hold

theorem Held.of_sameMaps (h : manager.Held) (hsame : manager.SameMaps manager') :
    manager'.Held := by
  refine h.mono (fun i _ hused => by rw [hsame.rest]; exact hused) fun key map' hmap' hholds => ?_
  have hshell := hsame.shells key
  rw [hmap', Option.map_some] at hshell
  obtain ⟨map, hmap, heq⟩ := Option.map_eq_some_iff.mp hshell.symm
  refine ⟨key, map, hmap, ?_, ?_⟩
  · rw [← map.holdsId_shell, heq, map'.holdsId_shell]
    exact hholds
  · have hid : map.shell.instanceId = map'.shell.instanceId :=
      congrArg ManagedMap.instanceId heq
    exact hid

theorem Held.created (h : manager.Held) {key : MapKey} {difficulty : ℕ} {kind : ManagedMapKind}
    (hresult : Created manager key difficulty kind manager') : manager'.Held := by
  cases hresult with
  | present hmap => exact h
  | created habsent =>
    have hkept : ∀ i, i ≠ 0 → manager.instanceIds.Used i →
        InstanceIdAllocator.Used (if key.instanceId ≠ 0 ∧
          (kind.isDungeon || kind.isBattlegroundOrArena) then
            manager.instanceIds.registerInstanceId key.instanceId
          else manager.instanceIds) i := by
      intro i hi hused
      split_ifs
      · exact (InstanceIdAllocator.used_register _ _ _ hi).mpr (.inr hused)
      · exact hused
    intro key' map hmap hholds
    have hnonzero := ManagedMap.holdsId_ne_zero hholds
    rw [Dict.lookup_insert_eq] at hmap
    split_ifs at hmap with hkey
    · obtain rfl := Option.some.inj hmap
      have hinstanced : (kind.isDungeon || kind.isBattlegroundOrArena) = true := by
        simp only [ManagedMap.holdsId, ManagedMap.instanced, Bool.and_eq_true] at hholds
        exact hholds.1.1
      simp only [ManagedMap.new] at hnonzero ⊢
      rw [if_pos ⟨hnonzero, hinstanced⟩]
      exact (InstanceIdAllocator.used_register _ _ _ hnonzero).mpr (.inl rfl)
    · exact hkept _ hnonzero (h key' map hmap hholds)

theorem Held.destroyed (h : manager.Held) {key : MapKey}
    (hsafe : ∀ map, manager.maps.lookup key = some map →
      map.kind.freesInstanceIdOnDestroy = true → map.havePlayers = false →
      ∀ key' map', key' ≠ key → manager.maps.lookup key' = some map' →
        map'.holdsId = true → map'.instanceId ≠ map.instanceId)
    {result : Bool × MapManager Position Data} (hresult : Destroyed manager key result) :
    result.2.Held := by
  cases hresult with
  | refused => exact h
  | @destroyed map hmap hvacant =>
    intro key' map' hmap' hholds
    rw [Dict.lookup_erase_eq] at hmap'
    split_ifs at hmap' with hkey
    have hused := h key' map' hmap' hholds
    simp only [ManagedMap.teardown]
    split_ifs with hfrees
    · rw [InstanceIdAllocator.used_free _ _ _ (ManagedMap.holdsId_ne_zero hholds)]
      exact ⟨hsafe map hmap hfrees hvacant key' map' hkey hmap' hholds, hused⟩
    · exact hused

theorem mem_condemnedMaps {keys : List MapKey} {map : ManagedMap Position Data} :
    map ∈ manager.condemnedMaps keys ↔
      ∃ key ∈ keys, manager.maps.lookup key = some map ∧ map.condemned = true := by
  simp only [condemnedMaps, List.mem_filter, List.mem_filterMap]
  constructor
  · rintro ⟨⟨key, hkey, hmap⟩, hcondemned⟩
    exact ⟨key, hkey, hmap, hcondemned⟩
  · rintro ⟨key, hkey, hmap, hcondemned⟩
    exact ⟨⟨key, hkey, hmap⟩, hcondemned⟩

theorem Held.began (h : manager.Held) (hsound : manager.instanceIds.Sound) {diffMs : ℕ}
    (hsafe : manager.tickCoordination = .idle → (manager.timer.update diffMs).passed = true →
      ∀ key map key' map', manager.maps.lookup key = some map →
        map.kind.freesInstanceIdOnDestroy = true → map.condemned = true →
        manager.maps.lookup key' = some map' → map'.holdsId = true →
        map'.instanceId = map.instanceId →
        map'.kind.freesInstanceIdOnDestroy = true ∧ map'.condemned = true)
    {result : MapTickBegin × MapManager Position Data} (hresult : Began manager diffMs result) :
    result.2.Held := by
  cases hresult with
  | busy epoch hepoch => exact h
  | waiting hidle => exact h
  | @started plan manager' hidle hpassed hepoch hupdated hdestroyed hmaps hids hrest =>
    intro key map' hmap' hholds
    rw [hmaps] at hmap'
    obtain ⟨map, hmap, rfl⟩ := Option.map_eq_some_iff.mp hmap'
    have hholds' := map.holdsId_of_begun hholds
    have hkept := (hsound.teardown (manager.condemnedMaps manager.keys)).2
    rw [ManagedMap.begun_instanceId]
    refine (congrArg (InstanceIdAllocator.Used · map.instanceId) hids).mpr ?_
    refine hkept _ (ManagedMap.holdsId_ne_zero hholds') (h key map hmap hholds') ?_
    intro other hmem hfrees hsame
    obtain ⟨key', -, hother, hcondemned⟩ := mem_condemnedMaps.mp hmem
    obtain ⟨hfrees', hcondemned'⟩ := hsafe hidle hpassed key' other key map hother hfrees
      hcondemned hmap hholds' hsame.symm
    rw [map.not_holdsId_of_condemned hcondemned' hfrees'] at hholds
    cases hholds

theorem Held.resumed (h : manager.Held) {phases : MapPhases Position Data} {plan : MapTickPlan}
    {result : MapTickResume × MapManager Position Data × List (MapTickParticipant × ℕ)}
    (hresult : Resumed phases manager plan result) : result.2.1.Held := by
  cases hresult with
  | rejected hcoordination => exact h
  | @resumed manager' hcoordination hmaps hincarnations hrest =>
    refine h.mono (fun i _ hused => by simp only; rw [hrest]; exact hused)
      fun key map' hmap' hholds => ?_
    obtain ⟨n, hn⟩ := hmaps key
    rw [hn] at hmap'
    split_ifs at hmap'
    obtain ⟨map, hmap, rfl⟩ := Option.map_eq_some_iff.mp hmap'
    obtain ⟨hsame, hid⟩ := map.holdsId_resumed phases plan.effectiveDiffMs n
    exact ⟨key, map, hmap, hsame ▸ hholds, hid.symm⟩

theorem Held.setCanUnload (h : manager.Held) (key : MapKey) (canUnload : Bool) :
    Held { manager with
      maps := manager.maps.modify key fun map => { map with canUnload := canUnload } } := by
  refine h.mono (fun i _ hused => hused) fun key' map' hmap' hholds => ?_
  rw [Dict.lookup_modify] at hmap'
  split_ifs at hmap'
  · obtain ⟨map, hmap, rfl⟩ := Option.map_eq_some_iff.mp hmap'
    exact ⟨key, map, hmap, hholds, rfl⟩
  · exact ⟨key', map', hmap', hholds, rfl⟩

end MapManager

variable {world} {history : IdHistory Position Data}

theorem IdHistory.Registered.of_used (h : history.Registered)
    (hsound : (history.toMapHistory.step world op).manager.instanceIds.Sound)
    (hkept : ∀ i, i ≠ 0 → i ∉ op.frees history.toMapHistory →
      history.manager.instanceIds.Used i →
      (history.toMapHistory.step world op).manager.instanceIds.Used i)
    (hnew : ∀ i ∈ op.registers history.toMapHistory,
      i ≠ 0 ∧ (history.toMapHistory.step world op).manager.instanceIds.Used i) :
    (history.step world op).Registered := by
  refine ⟨hsound, fun i hi => ?_⟩
  obtain ⟨hmem, hfreed⟩ := List.mem_filter.mp hi
  rcases List.mem_append.mp hmem with hold | hfresh
  · obtain ⟨hnonzero, hused⟩ := h.used i hold
    exact ⟨hnonzero, hkept i hnonzero (by simpa using hfreed) hused⟩
  · exact hnew i hfresh

theorem IdHistory.Registered.of_same (h : history.Registered)
    (hids : (history.toMapHistory.step world op).manager.instanceIds = history.manager.instanceIds)
    (hnone : op.registers history.toMapHistory = []) : (history.step world op).Registered :=
  h.of_used (by rw [hids]; exact h.sound) (fun i _ _ hused => by rw [hids]; exact hused)
    (by simp [hnone])

theorem IdHistory.Registered.createMap {key : MapKey} {difficulty : ℕ} {kind : ManagedMapKind}
    (h : history.Registered)
    (hsafe : SafeIds history (.owner (.createMap key difficulty kind))) :
    (history.step world (.owner (.createMap key difficulty kind))).Registered := by
  cases hmap : history.manager.maps.lookup key with
  | some map =>
    refine h.of_same ?_ (by simp [MapOp.registers, hmap])
    simp only [MapHistory.step, OwnerOp.apply, MapManager.createMapEntry, hmap]
  | none =>
    by_cases hinstanced : key.instanceId ≠ 0 ∧
        (kind.isDungeon || kind.isBattlegroundOrArena) = true
    · have hids : (history.toMapHistory.step world
          (.owner (.createMap key difficulty kind))).manager.instanceIds =
            history.manager.instanceIds.registerInstanceId key.instanceId := by
        simp only [MapHistory.step, OwnerOp.apply, MapManager.createMapEntry, hmap]
        rw [if_pos hinstanced]
      have hregisters : MapOp.registers history.toMapHistory
          (.owner (.createMap key difficulty kind)) = [key.instanceId] := by
        simp only [MapOp.registers, hmap, Option.isNone_none, true_and]
        rw [if_pos hinstanced]
      have horder := hsafe hmap hinstanced.1 hinstanced.2
      refine h.of_used (by rw [hids]; exact h.sound.register horder)
        (fun i hi _ hused => ?_) fun i hi => ?_
      · rw [hids, InstanceIdAllocator.used_register _ _ _ hi]
        exact .inr hused
      · rw [hregisters] at hi
        obtain rfl := List.mem_singleton.mp hi
        rw [hids, InstanceIdAllocator.used_register _ _ _ hinstanced.1]
        exact ⟨hinstanced.1, .inl rfl⟩
    · refine h.of_same ?_ ?_
      · simp only [MapHistory.step, OwnerOp.apply, MapManager.createMapEntry, hmap]
        rw [if_neg hinstanced]
      · simp only [MapOp.registers, hmap, Option.isNone_none, true_and]
        rw [if_neg hinstanced]

theorem IdHistory.Registered.destroyMap (h : history.Registered) (key : MapKey) :
    (history.step world (.destroyMap key)).Registered := by
  have hresult := MapManager.destroyed_of_destroy history.manager key
  generalize hdestroy : history.manager.destroyMap key = result at hresult
  have hmanager : (history.toMapHistory.step world (.destroyMap key)).manager = result.2 := by
    simp only [MapHistory.step, hdestroy]
  cases hresult with
  | refused => exact h.of_same (by rw [hmanager]) rfl
  | @destroyed map hmap hvacant =>
    have hteardown := h.sound.teardown [map]
    simp only [List.foldl_cons, List.foldl_nil] at hteardown
    refine h.of_used (by rw [hmanager]; exact hteardown.1) (fun i hi hfreed hused => ?_)
      (fun i hi => absurd hi List.not_mem_nil)
    rw [hmanager]
    refine hteardown.2 i hi hused fun other hother hfrees hsame => ?_
    obtain rfl := List.mem_singleton.mp hother
    refine hfreed ?_
    simp [MapOp.frees, hdestroy, hmap, hfrees, hsame]

theorem IdHistory.Registered.beginTick (h : history.Registered) (diffMs : ℕ) :
    (history.step world (.beginTick diffMs)).Registered := by
  have hresult := MapManager.began_of_begin history.manager diffMs
  generalize hbegin : history.manager.beginTickLikeCpp diffMs = result at hresult
  have hmanager : (history.toMapHistory.step world (.beginTick diffMs)).manager = result.2 := by
    simp only [MapHistory.step, hbegin]
    cases result.1 <;> rfl
  cases hresult with
  | busy epoch hepoch => exact h.of_same (by rw [hmanager]) rfl
  | waiting hidle => exact h.of_same (by rw [hmanager]) rfl
  | @started plan manager' hidle hpassed hepoch hupdated hdestroyed hmaps hids hrest =>
    have hteardown := h.sound.teardown
      (history.manager.condemnedMaps history.manager.keys)
    refine h.of_used (by rw [hmanager, hids]; exact hteardown.1)
      (fun i hi hfreed hused => ?_) fun i hi => absurd hi List.not_mem_nil
    rw [hmanager, hids]
    refine hteardown.2 i hi hused fun other hother hfrees hsame => hfreed ?_
    simp only [MapOp.frees, hbegin]
    exact List.mem_map.mpr ⟨other, List.mem_filter.mpr ⟨hother, hfrees⟩, hsame⟩

theorem IdHistory.Registered.step (h : history.Registered) (hsafe : SafeIds history op) :
    (history.step world op).Registered := by
  cases op with
  | owner op =>
    by_cases hop : ∀ key difficulty kind, op ≠ .createMap key difficulty kind
    · have hsame := MapManager.SameMaps.of_apply world.isValidMapCoord2d history.manager hop
      refine h.of_same (by simp only [MapHistory.step]; rw [hsame.rest]) ?_
      cases op with
      | createMap key difficulty kind => exact absurd rfl (hop key difficulty kind)
      | adoptActive guid => rfl
      | installDetached player => rfl
      | attach handle key position => rfl
      | detach handle => rfl
      | relocate handle position => rfl
      | retire handle => rfl
    · push Not at hop
      obtain ⟨key, difficulty, kind, rfl⟩ := hop
      exact h.createMap hsafe
  | destroyMap key => exact h.destroyMap key
  | setCanUnload key canUnload => exact h.of_same rfl rfl
  | beginTick diffMs => exact h.beginTick diffMs
  | resumeTick i =>
    refine h.of_same ?_ rfl
    simp only [MapHistory.step]
    cases hplan : history.plans[i]? with
    | none => rfl
    | some plan =>
      have hresult := MapManager.resumed_of_resume world.phases history.manager plan
      simp only
      generalize history.manager.resumeTick world.phases plan = result at hresult ⊢
      cases hresult with
      | rejected hcoordination => rfl
      | resumed hcoordination hmaps hincarnations hrest => simp only; rw [hrest]
  | abandonTick i =>
    refine h.of_same ?_ rfl
    simp only [MapHistory.step]
    cases hplan : history.plans[i]? with
    | none => rfl
    | some plan =>
      simp only [MapManager.abandonTickLikeCpp]
      split_ifs <;> rfl
  | initInstanceIds maxExistingInstanceId => exact hsafe.elim
  | registerInstanceId instanceId =>
    refine h.of_used (h.sound.register hsafe) (fun i hi _ hused => ?_) fun i hi => ?_
    · exact (InstanceIdAllocator.used_register _ _ _ hi).mpr (.inr hused)
    · obtain rfl := List.mem_singleton.mp hi
      exact ⟨hsafe.1, (InstanceIdAllocator.used_register _ _ _ hsafe.1).mpr (.inl rfl)⟩
  | generateInstanceId =>
    obtain ⟨hsound, hkept⟩ := h.sound.generate
    exact h.of_used hsound (fun i hi _ hused => hkept i hi hused)
      fun i hi => absurd hi List.not_mem_nil

theorem held_step (h : history.manager.Held) (hregistered : history.Registered)
    (hsafe : SafeIds history op) : (history.step world op).manager.Held := by
  cases op with
  | owner op =>
    by_cases hop : ∀ key difficulty kind, op ≠ .createMap key difficulty kind
    · exact h.of_sameMaps
        (MapManager.SameMaps.of_apply world.isValidMapCoord2d history.manager hop)
    · push Not at hop
      obtain ⟨key, difficulty, kind, rfl⟩ := hop
      exact h.created (MapManager.created_of_create history.manager key difficulty kind)
  | destroyMap key =>
    exact h.destroyed hsafe (MapManager.destroyed_of_destroy history.manager key)
  | setCanUnload key canUnload => exact h.setCanUnload key canUnload
  | beginTick diffMs =>
    have hheld := h.began hregistered.sound hsafe
      (MapManager.began_of_begin history.manager diffMs)
    simp only [IdHistory.step, MapHistory.step]
    generalize history.manager.beginTickLikeCpp diffMs = result at hheld ⊢
    obtain ⟨answer, manager'⟩ := result
    cases answer <;> exact hheld
  | resumeTick i =>
    simp only [IdHistory.step, MapHistory.step]
    cases hplan : history.plans[i]? with
    | none => exact h
    | some plan =>
      exact h.resumed (MapManager.resumed_of_resume world.phases history.manager plan)
  | abandonTick i =>
    simp only [IdHistory.step, MapHistory.step]
    cases hplan : history.plans[i]? with
    | none => exact h
    | some plan =>
      simp only [MapManager.abandonTickLikeCpp]
      split_ifs <;> exact h
  | initInstanceIds maxExistingInstanceId => exact hsafe.elim
  | registerInstanceId instanceId =>
    intro key map hmap hholds
    exact (InstanceIdAllocator.used_register _ _ _ (ManagedMap.holdsId_ne_zero hholds)).mpr
      (.inr (h key map hmap hholds))
  | generateInstanceId =>
    intro key map hmap hholds
    exact hregistered.sound.generate.2 _ (ManagedMap.holdsId_ne_zero hholds)
      (h key map hmap hholds)

theorem handsOutFresh_of_safe (h : history.manager.Held) (hregistered : history.Registered)
    (hsafe : SafeIds history op) : HandsOutFresh history op := by
  rintro rfl id hid
  generalize hgenerate : history.manager.instanceIds.generateInstanceId = result at hid
  obtain ⟨generated, ids'⟩ := result
  obtain rfl := hid
  have hsound := hregistered.sound
  obtain ⟨rfl, -⟩ := InstanceIdAllocator.generate_eq_some _ hgenerate hsound.next_lt hsound.high
  refine ⟨fun hmem => ?_, fun key map hmap hinstanced hnonzero hsame => ?_⟩
  · obtain ⟨hnonzero, hused⟩ := hregistered.used _ hmem
    exact hsound.next_free.resolve_left hnonzero hused
  · cases hwaiting : map.waiting with
    | true => exact hsafe key map hmap hwaiting hsame
    | false =>
      have hholds : map.holdsId = true := by
        simp [ManagedMap.holdsId, hinstanced, hwaiting, hnonzero]
      have hused := h key map hmap hholds
      rw [hsame] at hused hnonzero
      exact hsound.next_free.resolve_left hnonzero hused

/-! ## Runs -/

/-- The ids are registered one after the other: nothing else changes. -/
theorem registered_run (history : IdHistory Position Data) (ids : List ℕ)
    (h : history.Registered)
    (hsafe : EachStep (IdHistory.step world) SafeIds history (ids.map .registerInstanceId)) :
    let registered := run (IdHistory.step world) history (ids.map .registerInstanceId)
    registered.Registered ∧ registered.registered = history.registered ++ ids ∧
      registered.manager.maps = history.manager.maps := by
  induction ids generalizing history with
  | nil => simpa using h
  | cons id ids ih =>
    obtain ⟨hfirst, hrest⟩ := hsafe
    obtain ⟨hregistered, hids, hmaps⟩ := ih _ (h.step hfirst) hrest
    refine ⟨hregistered, ?_, hmaps⟩
    simp only [List.map_cons, run_cons]
    rw [hids]
    simp [IdHistory.step, MapOp.registers, MapOp.frees]

/-- A manager that was told the greatest id that exists, and none of the ids. -/
def IdHistory.initialized (history : MapHistory Position Data) (maxExistingInstanceId : ℕ) :
    IdHistory Position Data where
  manager := { history.manager with instanceIds := .initInstanceIds maxExistingInstanceId }
  plans := history.plans
  registered := []

/-- From any manager: once the ids in use are registered in order, no id that is registered
or held by a map is handed out in a run whose steps are safe. -/
theorem generated_ids_fresh (world : MapWorld Position Data) (history : MapHistory Position Data)
    (maxExistingInstanceId : ℕ) (ids : List ℕ) (ops : List (MapOp Position Data))
    (hids : EachStep (IdHistory.step world) SafeIds
      (.initialized history maxExistingInstanceId) (ids.map .registerInstanceId))
    (hheld : ∀ key map, history.manager.maps.lookup key = some map → map.holdsId = true →
      map.instanceId ∈ ids)
    (hops : EachStep (IdHistory.step world) SafeIds
      (run (IdHistory.step world) (.initialized history maxExistingInstanceId)
        (ids.map .registerInstanceId)) ops) :
    EachStep (IdHistory.step world) HandsOutFresh
      (run (IdHistory.step world) (.initialized history maxExistingInstanceId)
        (ids.map .registerInstanceId)) ops := by
  obtain ⟨hregistered, hall, hmaps⟩ := registered_run (.initialized history maxExistingInstanceId)
    ids ⟨.init maxExistingInstanceId, nofun⟩ hids
  generalize run (IdHistory.step world) _ (ids.map .registerInstanceId) = start at *
  have hstart : start.manager.Held := by
    intro key map hmap hholds
    rw [hmaps] at hmap
    have hmem := hheld key map hmap hholds
    rw [← List.nil_append ids, ← show _ = [] ++ ids from hall] at hmem
    exact (hregistered.used _ hmem).2
  clear hall hmaps hids
  induction ops generalizing start with
  | nil => trivial
  | cons op ops ih =>
    exact ⟨handsOutFresh_of_safe hstart hregistered hops.1,
      ih _ hops.2 (hregistered.step hops.1) (held_step hstart hregistered hops.1)⟩

/-- A battleground is torn down by a tick that is abandoned, and an id is drawn. -/
def abandonedOps : List (MapOp Unit Unit) :=
  [.owner (.createMap ⟨489, 2⟩ 0 .battleground), .setCanUnload ⟨489, 2⟩ true, .beginTick 10,
    .abandonTick 0, .generateInstanceId]

theorem generated_id_of_present_map :
    ¬EachStep (IdHistory.step stillWorld) HandsOutFresh
      (run (IdHistory.step stillWorld) (.initialized (.new 10) 1) [.registerInstanceId 1])
      abandonedOps := by
  intro h
  have hmap : ((run (IdHistory.step stillWorld) (.initialized (.new 10) 1)
      (.registerInstanceId 1 :: abandonedOps)).manager.maps.lookup ⟨489, 2⟩).map
        (fun map => (map.instanced, map.instanceId)) = some (true, 2) := by decide
  obtain ⟨map, hmap, heq⟩ := Option.map_eq_some_iff.mp hmap
  obtain ⟨hinstanced, hid⟩ := Prod.mk.inj heq
  have hfresh := (h.2.2.2.2.1 rfl 2 (by decide)).2 ⟨489, 2⟩ map hmap hinstanced (by omega)
  exact hfresh hid

/-- The tick is resumed before the id is drawn. -/
def resumedOps : List (MapOp Unit Unit) :=
  [.owner (.createMap ⟨489, 2⟩ 0 .battleground), .setCanUnload ⟨489, 2⟩ true, .beginTick 10,
    .resumeTick 0, .generateInstanceId]

theorem generated_ids_fresh_sample :
    EachStep (IdHistory.step stillWorld) SafeIds
      (run (IdHistory.step stillWorld) (.initialized (.new 10) 1) [.registerInstanceId 1])
      resumedOps ∧
    EachStep (IdHistory.step stillWorld) HandsOutFresh
      (run (IdHistory.step stillWorld) (.initialized (.new 10) 1) [.registerInstanceId 1])
      resumedOps := by
  have hids : EachStep (IdHistory.step stillWorld) SafeIds
      (.initialized (.new 10) 1) [.registerInstanceId 1] :=
    ⟨⟨by decide, by decide, fun _ => by decide⟩, trivial⟩
  have hops : EachStep (IdHistory.step stillWorld) SafeIds
      (run (IdHistory.step stillWorld) (.initialized (.new 10) 1) [.registerInstanceId 1])
      resumedOps := by
    refine ⟨fun _ _ _ => ⟨by decide, by decide, fun _ => by decide⟩, trivial, ?_, trivial, ?_,
      trivial⟩
    · intro _ _ key map key' map' _ _ _ hmap' _ _
      have hmaps : (run (IdHistory.step stillWorld) (.initialized (.new 10) 1)
          (.registerInstanceId 1 :: resumedOps.take 2)).manager.maps = .singleton ⟨489, 2⟩
            { (.new 489 2 0 .battleground : ManagedMap Unit Unit) with canUnload := true } := rfl
      replace hmap' := (congrArg (AList.lookup key') hmaps).symm.trans hmap'
      rw [Dict.lookup_singleton_eq] at hmap'
      split_ifs at hmap'
      obtain rfl := Option.some.inj hmap'
      decide
    · intro key map hmap
      cases hmap
  exact ⟨hops, generated_ids_fresh stillWorld (.new 10) 1 [1] resumedOps hids nofun hops⟩

end RustyCore.Maps
