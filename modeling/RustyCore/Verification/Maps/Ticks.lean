import RustyCore.Verification.Maps.Residence

/-! # The two halves of a tick

What `begin` and `resume` do to the maps, from the equations of their loops. -/

namespace RustyCore.Maps

variable {Position Data : Type}

namespace ManagedMap

variable (map : ManagedMap Position Data)

def condemned : Bool := map.canUnload && !map.havePlayers

/-- What `begin` makes of a map. -/
def begun (current : ℕ) : ManagedMap Position Data :=
  if map.canUnload then (if map.havePlayers then map else map.unloadAll)
  else map.updateDynamicTreePhaseLikeCpp current

/-- The ids after the teardown of the map. -/
def teardown (instanceIds : InstanceIdAllocator) : InstanceIdAllocator :=
  if map.kind.freesInstanceIdOnDestroy then instanceIds.freeInstanceId map.instanceId
  else instanceIds

@[simp] theorem begun_entityWorld (current : ℕ) :
    (map.begun current).entityWorld = map.entityWorld := by
  simp only [begun]
  split_ifs <;> rfl

@[simp] theorem begun_mapId (current : ℕ) : (map.begun current).mapId = map.mapId := by
  simp only [begun]
  split_ifs <;> rfl

@[simp] theorem begun_instanceId (current : ℕ) :
    (map.begun current).instanceId = map.instanceId := by
  simp only [begun]
  split_ifs <;> rfl

@[simp] theorem begun_kind (current : ℕ) : (map.begun current).kind = map.kind := by
  simp only [begun]
  split_ifs <;> rfl

end ManagedMap

namespace MapManager

variable (manager : MapManager Position Data)

/-! ## Keys -/

theorem mem_keys {manager : MapManager Position Data} {key : MapKey} :
    key ∈ manager.keys ↔ ∃ map, manager.maps.lookup key = some map := by
  simp only [keys, List.mem_insertionSort, ← AList.mem_keys, ← AList.lookup_isSome,
    Option.isSome_iff_exists]

theorem nodup_keys : manager.keys.Nodup :=
  (List.perm_insertionSort MapKey.le manager.maps.keys).nodup_iff.mpr manager.maps.keys_nodup

/-- The participant that a plan names for a key. -/
def participant (key : MapKey) : MapTickParticipant :=
  ⟨key, (manager.mapIncarnations.lookup key).getD 0⟩

def updates (key : MapKey) : Bool := (manager.maps.lookup key).any fun map => !map.canUnload

def condemns (key : MapKey) : Bool := (manager.maps.lookup key).any ManagedMap.condemned

def condemnedMaps (keys : List MapKey) : List (ManagedMap Position Data) :=
  (keys.filterMap manager.maps.lookup).filter ManagedMap.condemned

/-! ## The loop of begin -/

/-- The loop over `keys` from `manager`, with the participants already chosen. -/
structure BegunFrom (current : ℕ) (keys : List MapKey)
    (updated destroyed : List MapTickParticipant)
    (result : MapManager Position Data × List MapTickParticipant × List MapTickParticipant) :
    Prop where
  maps : ∀ key, result.1.maps.lookup key =
    if key ∈ keys then (manager.maps.lookup key).map (·.begun current)
    else manager.maps.lookup key
  instanceIds : result.1.instanceIds =
    (manager.condemnedMaps keys).foldl (fun ids map => map.teardown ids) manager.instanceIds
  rest : result.1 =
    { manager with maps := result.1.maps, instanceIds := result.1.instanceIds }
  updated : result.2.1 = updated ++ (keys.filter manager.updates).map manager.participant
  destroyed : result.2.2 = destroyed ++ (keys.filter manager.condemns).map manager.participant

theorem begunFrom_beginMap (current : ℕ) (key : MapKey)
    (updated destroyed : List MapTickParticipant) :
    manager.BegunFrom current [key] updated destroyed
      (beginMap current (manager, updated, destroyed) key) := by
  cases hmap : manager.maps.lookup key with
  | none =>
    simp only [beginMap, hmap]
    refine ⟨fun key' => ?_, ?_, rfl, ?_, ?_⟩
    · by_cases hkey : key' = key
      · subst hkey
        simp [hmap]
      · simp [hkey]
    · simp [condemnedMaps, hmap]
    · simp [updates, hmap]
    · simp [condemns, hmap]
  | some map =>
    have hinsert : ∀ edited, map.begun current = edited →
        ∀ key', (AList.insert key edited manager.maps).lookup key' =
          if key' ∈ [key] then (manager.maps.lookup key').map (·.begun current)
          else manager.maps.lookup key' := by
      rintro edited rfl key'
      by_cases hkey : key' = key
      · subst hkey
        simp [hmap]
      · simp [hkey]
    by_cases hunload : map.canUnload = true
    · by_cases hplayers : map.havePlayers = true
      · simp only [beginMap, hmap, hunload, if_true, destroyMapInner, hplayers]
        refine ⟨fun key' => ?_, ?_, rfl, ?_, ?_⟩
        · by_cases hkey : key' = key
          · subst hkey
            simp [hmap, ManagedMap.begun, hunload, hplayers]
          · simp [hkey]
        · simp [condemnedMaps, hmap, ManagedMap.condemned, hplayers]
        · simp [updates, hmap, hunload]
        · simp [condemns, hmap, ManagedMap.condemned, hplayers]
      · simp only [beginMap, hmap, hunload, if_true, destroyMapInner, hplayers,
          Bool.false_eq_true, if_false]
        refine ⟨hinsert _ (by simp [ManagedMap.begun, hunload, hplayers]), ?_, rfl, ?_, ?_⟩
        · simp [condemnedMaps, hmap, ManagedMap.condemned, hunload, hplayers,
            ManagedMap.teardown]
        · simp [updates, hmap, hunload]
        · simp [condemns, hmap, ManagedMap.condemned, hunload, hplayers, participant]
    · simp only [beginMap, hmap, hunload, Bool.false_eq_true, if_false]
      refine ⟨hinsert _ (by simp [ManagedMap.begun, hunload]), ?_, rfl, ?_, ?_⟩
      · simp [condemnedMaps, hmap, ManagedMap.condemned, hunload]
      · simp [updates, hmap, hunload, participant]
      · simp [condemns, hmap, ManagedMap.condemned, hunload]

theorem BegunFrom.cons {manager : MapManager Position Data} {current : ℕ} {key : MapKey}
    {keys : List MapKey} (hfresh : key ∉ keys) {updated destroyed : List MapTickParticipant}
    {first result :
      MapManager Position Data × List MapTickParticipant × List MapTickParticipant}
    (h : manager.BegunFrom current [key] updated destroyed first)
    (h' : first.1.BegunFrom current keys first.2.1 first.2.2 result) :
    manager.BegunFrom current (key :: keys) updated destroyed result := by
  have hkept : ∀ key' ∈ keys, first.1.maps.lookup key' = manager.maps.lookup key' := by
    intro key' hkey'
    rw [h.maps, if_neg]
    intro hmem
    exact hfresh (List.mem_singleton.mp hmem ▸ hkey')
  have hincarnations : first.1.mapIncarnations = manager.mapIncarnations := by rw [h.rest]
  have hcondemned : first.1.condemnedMaps keys = manager.condemnedMaps keys := by
    simp only [condemnedMaps]
    rw [List.filterMap_congr hkept]
  refine ⟨fun key' => ?_, ?_, ?_, ?_, ?_⟩
  · rw [h'.maps]
    by_cases hkey : key' = key
    · subst hkey
      rw [if_neg hfresh, h.maps]
      simp
    · by_cases hmem : key' ∈ keys
      · simp [hmem, hkept key' hmem]
      · simp [hmem, h.maps, hkey]
  · rw [h'.instanceIds, hcondemned, h.instanceIds, ← List.foldl_append]
    have hsplit : manager.condemnedMaps [key] ++ manager.condemnedMaps keys =
        manager.condemnedMaps (key :: keys) := by
      simp only [condemnedMaps, ← List.filter_append, ← List.filterMap_append,
        List.singleton_append]
    rw [hsplit]
  · rw [h'.rest, h.rest]
  · rw [h'.updated, h.updated]
    have hupdates : keys.filter first.1.updates = keys.filter manager.updates :=
      List.filter_congr fun key' hkey' => by rw [updates, updates, hkept key' hkey']
    have hparticipant : first.1.participant = manager.participant := by
      funext key'
      rw [participant, participant, hincarnations]
    rw [hupdates, hparticipant, List.append_assoc, ← List.map_append, ← List.filter_append,
      List.singleton_append]
  · rw [h'.destroyed, h.destroyed]
    have hcondemns : keys.filter first.1.condemns = keys.filter manager.condemns :=
      List.filter_congr fun key' hkey' => by rw [condemns, condemns, hkept key' hkey']
    have hparticipant : first.1.participant = manager.participant := by
      funext key'
      rw [participant, participant, hincarnations]
    rw [hcondemns, hparticipant, List.append_assoc, ← List.map_append, ← List.filter_append,
      List.singleton_append]

theorem begunFrom_foldl (current : ℕ) (keys : List MapKey) (hkeys : keys.Nodup)
    (updated destroyed : List MapTickParticipant) :
    manager.BegunFrom current keys updated destroyed
      (keys.foldl (beginMap current) (manager, updated, destroyed)) := by
  induction keys generalizing manager updated destroyed with
  | nil => exact ⟨by simp, rfl, rfl, by simp, by simp⟩
  | cons key keys ih =>
    obtain ⟨hfresh, hrest⟩ := List.nodup_cons.mp hkeys
    exact (manager.begunFrom_beginMap current key updated destroyed).cons hfresh
      (ih _ hrest _ _)

/-- How the first half of a tick ends. -/
inductive Began (manager : MapManager Position Data) (diffMs : ℕ) :
    MapTickBegin × MapManager Position Data → Prop where
  | busy (epoch : ℕ) :
      manager.tickCoordination = .awaitingSessions epoch ∨
        manager.tickCoordination = .resuming epoch →
      Began manager diffMs (.busy epoch, manager)
  | waiting : manager.tickCoordination = .idle →
      Began manager diffMs
        (.timerNotPassed, { manager with timer := manager.timer.update diffMs })
  | started {plan : MapTickPlan} {manager' : MapManager Position Data} :
      manager.tickCoordination = .idle →
      (manager.timer.update diffMs).passed = true →
      plan.epoch = manager.nextTickEpoch →
      plan.updated = (manager.keys.filter manager.updates).map manager.participant →
      plan.destroyed = (manager.keys.filter manager.condemns).map manager.participant →
      (∀ key, manager'.maps.lookup key =
        (manager.maps.lookup key).map (·.begun plan.effectiveDiffMs)) →
      manager'.instanceIds = (manager.condemnedMaps manager.keys).foldl
        (fun ids map => map.teardown ids) manager.instanceIds →
      manager' = { manager with
        maps := manager'.maps
        instanceIds := manager'.instanceIds
        timer := manager.timer.update diffMs
        nextTickEpoch := saturatingAdd 64 plan.epoch 1
        tickCoordination := .awaitingSessions plan.epoch } →
      Began manager diffMs (.started plan, manager')

theorem began_of_begin (manager : MapManager Position Data) (diffMs : ℕ) :
    Began manager diffMs (manager.beginTickLikeCpp diffMs) := by
  rw [beginTickLikeCpp]
  split
  · rename_i epoch hcoordination
    exact .busy epoch (.inl hcoordination)
  · rename_i epoch hcoordination
    exact .busy epoch (.inr hcoordination)
  · rename_i hcoordination
    by_cases hpassed : (manager.timer.update diffMs).passed = true
    · simp only [hpassed, Bool.not_true, Bool.false_eq_true, if_false]
      generalize htimed : ({ manager with timer := manager.timer.update diffMs } :
        MapManager Position Data) = timed
      have htimer : timed.timer = manager.timer.update diffMs := by rw [← htimed]
      have hbegun := timed.begunFrom_foldl timed.timer.currentMs timed.keys timed.nodup_keys [] []
      rw [htimer] at hbegun
      generalize timed.keys.foldl _ (timed, [], []) = result at hbegun ⊢
      obtain ⟨manager', updated, destroyed⟩ := result
      obtain ⟨hmaps, hids, hrest, hupdated, hdestroyed⟩ := hbegun
      subst htimed
      simp only at hmaps hids hrest hupdated hdestroyed ⊢
      have hepoch : manager'.nextTickEpoch = manager.nextTickEpoch := by rw [hrest]
      refine .started hcoordination hpassed hepoch hupdated hdestroyed (fun key => ?_) hids (by rw [hrest])
      refine (hmaps key).trans ?_
      split_ifs with hkey
      · rfl
      · have hnone : manager.maps.lookup key = none := by
          cases hmap : manager.maps.lookup key with
          | none => rfl
          | some map => exact absurd (mem_keys.mpr ⟨map, hmap⟩) hkey
        rw [hnone]
        rfl
    · simp only [hpassed, Bool.not_false, if_true]
      exact .waiting hcoordination

/-! ## The loops of resume -/

/-- Whether the map that the plan names is the one under its key. -/
def live (participant : MapTickParticipant) : Bool :=
  manager.mapIncarnations.lookup participant.key = some participant.incarnation ∧
    (manager.maps.lookup participant.key).isSome

def doomed (destroyed : List MapTickParticipant) (key : MapKey) : Bool :=
  destroyed.any fun participant =>
    participant.key = key ∧ manager.mapIncarnations.lookup key = some participant.incarnation

variable (phases : MapPhases Position Data)

/-- The loop over the participants from `manager`, with the maps already resumed. -/
structure ResumedFrom (current : ℕ) (participants : List MapTickParticipant)
    (resumed : List (MapTickParticipant × ℕ))
    (result : MapManager Position Data × List (MapTickParticipant × ℕ)) : Prop where
  maps : ∀ key, ∃ n, result.1.maps.lookup key =
    (manager.maps.lookup key).map (ManagedMap.updateAfterSessions phases · current)^[n]
  rest : result.1 = { manager with maps := result.1.maps }
  resumed : result.2 = resumed ++
    (participants.filter manager.live).map fun participant => (participant, current)

theorem resumedFrom_resumeMap (current : ℕ) (participant : MapTickParticipant)
    (resumed : List (MapTickParticipant × ℕ)) :
    manager.ResumedFrom phases current [participant] resumed
      (resumeMap phases current (manager, resumed) participant) := by
  by_cases hincarnation :
      manager.mapIncarnations.lookup participant.key = some participant.incarnation
  · cases hmap : manager.maps.lookup participant.key with
    | none =>
      simp only [resumeMap, hincarnation, ne_eq, not_true_eq_false, if_false, hmap]
      exact ⟨fun key => ⟨0, by simp⟩, rfl, by simp [live, hmap]⟩
    | some map =>
      simp only [resumeMap, hincarnation, ne_eq, not_true_eq_false, if_false, hmap]
      refine ⟨fun key => ?_, rfl, by simp [live, hmap, hincarnation]⟩
      by_cases hkey : key = participant.key
      · subst hkey
        exact ⟨1, by simp [hmap]⟩
      · exact ⟨0, by simp [hkey]⟩
  · simp only [resumeMap, ne_eq, hincarnation, not_false_eq_true, if_true]
    exact ⟨fun key => ⟨0, by simp⟩, rfl, by simp [live, hincarnation]⟩

theorem ResumedFrom.cons {manager : MapManager Position Data} {phases : MapPhases Position Data}
    {current : ℕ} {participant : MapTickParticipant} {participants : List MapTickParticipant}
    {resumed : List (MapTickParticipant × ℕ)}
    {first result : MapManager Position Data × List (MapTickParticipant × ℕ)}
    (h : manager.ResumedFrom phases current [participant] resumed first)
    (h' : first.1.ResumedFrom phases current participants first.2 result) :
    manager.ResumedFrom phases current (participant :: participants) resumed result := by
  have hlive : first.1.live = manager.live := by
    funext other
    obtain ⟨n, hn⟩ := h.maps other.key
    have hincarnations : first.1.mapIncarnations = manager.mapIncarnations := by rw [h.rest]
    simp only [live, hincarnations, hn, Option.isSome_map]
  refine ⟨fun key => ?_, ?_, ?_⟩
  · obtain ⟨n, hn⟩ := h.maps key
    obtain ⟨n', hn'⟩ := h'.maps key
    refine ⟨n' + n, ?_⟩
    rw [hn', hn, Option.map_map, Function.iterate_add]
  · rw [h'.rest, h.rest]
  · rw [h'.resumed, h.resumed, hlive, List.append_assoc, ← List.map_append, ← List.filter_append,
      List.singleton_append]

theorem resumedFrom_foldl (current : ℕ) (participants : List MapTickParticipant)
    (resumed : List (MapTickParticipant × ℕ)) :
    manager.ResumedFrom phases current participants resumed
      (participants.foldl (resumeMap phases current) (manager, resumed)) := by
  induction participants generalizing manager resumed with
  | nil => exact ⟨fun key => ⟨0, by simp⟩, rfl, by simp⟩
  | cons participant participants ih =>
    exact (manager.resumedFrom_resumeMap phases current participant resumed).cons (ih _ _)

theorem foldl_removeMap (destroyed : List MapTickParticipant) :
    let manager' := destroyed.foldl removeMap manager
    (∀ key, manager'.maps.lookup key =
      if manager.doomed destroyed key then none else manager.maps.lookup key) ∧
    (∀ key, manager'.mapIncarnations.lookup key =
      if manager.doomed destroyed key then none else manager.mapIncarnations.lookup key) ∧
    manager' =
      { manager with maps := manager'.maps, mapIncarnations := manager'.mapIncarnations } := by
  induction destroyed generalizing manager with
  | nil => simp [doomed]
  | cons participant destroyed ih =>
    simp only [List.foldl_cons]
    obtain ⟨hmaps, hincarnations, hrest⟩ := ih (removeMap manager participant)
    by_cases hlive :
        manager.mapIncarnations.lookup participant.key = some participant.incarnation
    · have hremoved : removeMap manager participant =
          { manager with
            maps := manager.maps.erase participant.key
            mapIncarnations := manager.mapIncarnations.erase participant.key } := by
        simp [removeMap, hlive]
      have hdoomed : ∀ key, manager.doomed (participant :: destroyed) key =
          (decide (key = participant.key) ||
            (removeMap manager participant).doomed destroyed key) := by
        intro key
        rw [hremoved]
        by_cases hkey : key = participant.key
        · subst hkey
          simp [doomed, hlive]
        · simp [doomed, hkey, Ne.symm hkey]
      refine ⟨fun key => ?_, fun key => ?_, ?_⟩
      · rw [hmaps, hdoomed, hremoved]
        by_cases hkey : key = participant.key
        · subst hkey
          simp
        · simp [hkey]
      · rw [hincarnations, hdoomed, hremoved]
        by_cases hkey : key = participant.key
        · subst hkey
          simp
        · simp [hkey]
      · rw [hrest, hremoved]
    · have hremoved : removeMap manager participant = manager := by simp [removeMap, hlive]
      have hdoomed : ∀ key, manager.doomed (participant :: destroyed) key =
          manager.doomed destroyed key := by
        intro key
        simp only [doomed, List.any_cons]
        by_cases hkey : participant.key = key
        · subst hkey
          simp [hlive]
        · simp [hkey]
      rw [hremoved] at hmaps hincarnations hrest ⊢
      simp only [hdoomed]
      exact ⟨hmaps, hincarnations, hrest⟩

theorem lookup_delayedUpdateAll (current : ℕ) (key : MapKey) :
    (delayedUpdateAll phases current manager).maps.lookup key =
      (manager.maps.lookup key).map (ManagedMap.delayedUpdate phases · current) := by
  have hfold : ∀ (keys : List MapKey) (maps : Dict MapKey (ManagedMap Position Data)),
      keys.Nodup → (keys.foldl (fun maps key => maps.modify key fun map =>
        map.delayedUpdate phases current) maps).lookup key =
        if key ∈ keys then (maps.lookup key).map (ManagedMap.delayedUpdate phases · current)
        else maps.lookup key := by
    intro keys maps hkeys
    induction keys generalizing maps with
    | nil => simp
    | cons key' keys ih =>
      obtain ⟨hfresh, hrest⟩ := List.nodup_cons.mp hkeys
      rw [List.foldl_cons, ih _ hrest, Dict.lookup_modify]
      by_cases hkey : key = key'
      · subst hkey
        simp [hfresh]
      · simp [hkey]
  simp only [delayedUpdateAll]
  rw [hfold _ _ manager.nodup_keys]
  split_ifs with hkey
  · rfl
  · have hnone : manager.maps.lookup key = none := by
      cases hmap : manager.maps.lookup key with
      | none => rfl
      | some map => exact absurd (mem_keys.mpr ⟨map, hmap⟩) hkey
    rw [hnone]
    rfl

end MapManager

namespace ManagedMap

/-- A map after `n` updates that follow the sessions and the delayed update. -/
def resumed (phases : MapPhases Position Data) (current n : ℕ) (map : ManagedMap Position Data) :
    ManagedMap Position Data :=
  ((updateAfterSessions phases · current)^[n] map).delayedUpdate phases current

end ManagedMap

namespace MapManager

/-- How the second half of a tick ends. -/
inductive Resumed (phases : MapPhases Position Data) (manager : MapManager Position Data)
    (plan : MapTickPlan) :
    MapTickResume × MapManager Position Data × List (MapTickParticipant × ℕ) → Prop where
  | rejected : manager.tickCoordination ≠ .awaitingSessions plan.epoch →
      Resumed phases manager plan (.rejected manager.tickCoordination plan.epoch, manager, [])
  | resumed {manager' : MapManager Position Data} :
      manager.tickCoordination = .awaitingSessions plan.epoch →
      (∀ key, ∃ n, manager'.maps.lookup key =
        if manager.doomed plan.destroyed key then none
        else (manager.maps.lookup key).map (ManagedMap.resumed phases plan.effectiveDiffMs n)) →
      (∀ key, manager'.mapIncarnations.lookup key =
        if manager.doomed plan.destroyed key then none else manager.mapIncarnations.lookup key) →
      manager' = { manager with
        maps := manager'.maps
        mapIncarnations := manager'.mapIncarnations
        timer := { manager.timer with currentMs := 0 }
        tickCoordination := .idle } →
      Resumed phases manager plan
        (.resumed, manager',
          (plan.updated.filter manager.live).map fun participant =>
            (participant, plan.effectiveDiffMs))

theorem resumed_of_resume (phases : MapPhases Position Data) (manager : MapManager Position Data)
    (plan : MapTickPlan) : Resumed phases manager plan (manager.resumeTick phases plan) := by
  rw [resumeTick]
  by_cases hcoordination : manager.tickCoordination = .awaitingSessions plan.epoch
  · rw [if_neg (not_not.mpr hcoordination)]
    have hresumed := resumedFrom_foldl
      { manager with tickCoordination := .resuming plan.epoch } phases plan.effectiveDiffMs
      plan.updated []
    simp only
    generalize plan.updated.foldl _ _ = result at hresumed ⊢
    obtain ⟨manager', resumed⟩ := result
    obtain ⟨hmaps, hrest, hresumed⟩ := hresumed
    simp only at hmaps hrest hresumed ⊢
    obtain ⟨hmaps', hincarnations', hrest'⟩ := foldl_removeMap manager' plan.destroyed
    have hdoomed : manager'.doomed plan.destroyed = manager.doomed plan.destroyed := by
      rw [hrest]
      rfl
    obtain rfl := hresumed
    refine .resumed hcoordination (fun key => ?_) (fun key => ?_) ?_
    · obtain ⟨n, hn⟩ := hmaps key
      refine ⟨n, ?_⟩
      simp only [lookup_delayedUpdateAll, hmaps', hdoomed, hn]
      split_ifs with hkey
      · rfl
      · rw [Option.map_map]
        rfl
    · refine (hincarnations' key).trans ?_
      rw [hdoomed, hrest]
    · simp only [delayedUpdateAll]
      rw [hrest', hrest]
  · rw [if_pos hcoordination]
    exact .rejected hcoordination

end MapManager

end RustyCore.Maps
