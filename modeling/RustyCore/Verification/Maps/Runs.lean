import RustyCore.Verification.Maps.OwnerRuns
import RustyCore.Verification.Maps.Ticks

/-! # Runs of the map manager

One operation type for everything that happens to a manager between its creation and its
end: the players and their maps, the two halves of the ticks, and the instance ids. -/

namespace RustyCore.Maps

variable {Position Data : Type}

inductive MapOp (Position Data : Type) where
  | owner (op : OwnerOp Position Data)
  | destroyMap (key : MapKey)
  | setCanUnload (key : MapKey) (canUnload : Bool)
  | beginTick (diffMs : ℕ)
  | resumeTick (plan : ℕ)
  | abandonTick (plan : ℕ)
  | initInstanceIds (maxExistingInstanceId : ℕ)
  | registerInstanceId (instanceId : ℕ)
  | generateInstanceId

/-- A manager and the plans that it has returned so far. -/
structure MapHistory (Position Data : Type) where
  manager : MapManager Position Data
  plans : List MapTickPlan

/-- What the manager is not told of by its operations. -/
structure MapWorld (Position Data : Type) where
  isValidMapCoord2d : Position → Bool
  phases : MapPhases Position Data

/-- A game world in which every position is valid and the phases change nothing. -/
def stillWorld : MapWorld Unit Unit where
  isValidMapCoord2d := fun _ => true
  phases := ⟨fun _ entityWorld => entityWorld, fun _ entityWorld => entityWorld⟩

namespace MapHistory

def new (mapUpdateIntervalMs : ℕ) : MapHistory Position Data where
  manager := .new mapUpdateIntervalMs
  plans := []

variable (world : MapWorld Position Data) (history : MapHistory Position Data)

def step : MapOp Position Data → MapHistory Position Data
  | .owner op =>
    { history with manager := (op.apply world.isValidMapCoord2d history.manager).manager }
  | .destroyMap key => { history with manager := (history.manager.destroyMap key).2 }
  | .setCanUnload key canUnload =>
    { history with
      manager := { history.manager with
        maps := history.manager.maps.modify key fun map => { map with canUnload := canUnload } } }
  | .beginTick diffMs =>
    let (answer, manager) := history.manager.beginTickLikeCpp diffMs
    match answer with
    | .started plan => ⟨manager, history.plans ++ [plan]⟩
    | _ => { history with manager := manager }
  | .resumeTick i =>
    match history.plans[i]? with
    | none => history
    | some plan =>
      { history with manager := (history.manager.resumeTick world.phases plan).2.1 }
  | .abandonTick i =>
    match history.plans[i]? with
    | none => history
    | some plan => { history with manager := (history.manager.abandonTickLikeCpp plan).2 }
  | .initInstanceIds maxExistingInstanceId =>
    { history with
      manager := { history.manager with
        instanceIds := .initInstanceIds maxExistingInstanceId } }
  | .registerInstanceId instanceId =>
    { history with
      manager := { history.manager with
        instanceIds := history.manager.instanceIds.registerInstanceId instanceId } }
  | .generateInstanceId =>
    { history with
      manager := { history.manager with
        instanceIds := history.manager.instanceIds.generateInstanceId.2 } }

end MapHistory

/-! ## Operations on players and on single maps -/

namespace ManagedMap

/-- A map without the objects it holds. -/
def shell (map : ManagedMap Position Data) : ManagedMap Position Data :=
  { map with entityWorld := ∅ }

end ManagedMap

namespace MapManager

/-- The same maps under the same keys, apart from the objects they hold. -/
structure SameMaps (manager manager' : MapManager Position Data) : Prop where
  shells : ∀ key, (manager'.maps.lookup key).map ManagedMap.shell =
    (manager.maps.lookup key).map ManagedMap.shell
  rest : manager' = { manager with
    maps := manager'.maps
    playerOwners := manager'.playerOwners
    detachedPlayers := manager'.detachedPlayers
    nextPlayerGeneration := manager'.nextPlayerGeneration }

namespace SameMaps

variable {manager manager' : MapManager Position Data}
variable {result : Except PlayerOwnerError Unit × MapManager Position Data}

theorem same (hmaps : manager'.maps = manager.maps) (hrest : manager' = { manager with
    maps := manager'.maps
    playerOwners := manager'.playerOwners
    detachedPlayers := manager'.detachedPlayers
    nextPlayerGeneration := manager'.nextPlayerGeneration }) : manager.SameMaps manager' :=
  ⟨fun key => by rw [hmaps], hrest⟩

theorem edit {key : MapKey} {map : ManagedMap Position Data}
    (hmap : manager.maps.lookup key = some map) {entityWorld : EntityWorld Position Data}
    (hmaps : manager'.maps = manager.maps.insert key { map with entityWorld := entityWorld })
    (hrest : manager' = { manager with
      maps := manager'.maps
      playerOwners := manager'.playerOwners
      detachedPlayers := manager'.detachedPlayers
      nextPlayerGeneration := manager'.nextPlayerGeneration }) : manager.SameMaps manager' := by
  refine ⟨fun key' => ?_, hrest⟩
  rw [hmaps, Dict.lookup_insert_eq]
  split_ifs with hkey
  · subst hkey
    rw [hmap]
    rfl
  · rfl

theorem trans {manager'' : MapManager Position Data} (h : manager.SameMaps manager')
    (h' : manager'.SameMaps manager'') : manager.SameMaps manager'' :=
  ⟨fun key => (h'.shells key).trans (h.shells key), by rw [h'.rest, h.rest]⟩

theorem isSome (h : manager.SameMaps manager') (key : MapKey) :
    (manager'.maps.lookup key).isSome = (manager.maps.lookup key).isSome := by
  have hshell := congrArg Option.isSome (h.shells key)
  rwa [Option.isSome_map, Option.isSome_map] at hshell

variable {handle : PlayerHandle}

theorem of_detached (hresult : Detached manager handle result) : manager.SameMaps result.2 := by
  cases hresult with
  | refused error => exact .same rfl rfl
  | lost howner hresidence hmap hrecord hbound => exact .edit hmap rfl rfl
  | detached howner hresidence hmap hrecord hbound => exact .edit hmap rfl rfl

theorem of_retired {result : Option (Player Position Data) × MapManager Position Data}
    (hresult : Retired manager handle result) : manager.SameMaps result.2 := by
  cases hresult with
  | refused => exact .same rfl rfl
  | lost hdetached => exact of_detached hdetached
  | fromTable howner hresidence => exact .same rfl rfl
  | fromMap hdetached => exact (of_detached hdetached).trans (.same rfl rfl)

theorem of_counted {next : ℕ}
    (h : SameMaps { manager with nextPlayerGeneration := next } manager') :
    manager.SameMaps manager' :=
  ⟨h.shells, h.rest⟩

theorem of_installed {player : Player Position Data}
    {result : Except PlayerOwnerError PlayerHandle × MapManager Position Data}
    (hresult : Installed manager player result) : manager.SameMaps result.2 := by
  cases hresult with
  | refused error => exact .same rfl rfl
  | unreplaced next hnext howner hretired => exact of_counted (of_retired hretired)
  | fresh hguid hlt howner => exact .same rfl rfl
  | replaced hguid hlt howner hretired =>
    exact (of_counted (of_retired hretired)).trans (.same rfl rfl)

theorem of_adopted {guid : ObjectGuid}
    {result : Except PlayerOwnerError PlayerHandle × MapManager Position Data}
    (hresult : Adopted manager guid result) : manager.SameMaps result.2 := by
  cases hresult with
  | refused error => exact .same rfl rfl
  | adopted hguid howner hlt hplayer => exact .same rfl rfl

theorem of_attached {key : MapKey} {position : Position}
    (hresult : Attached manager handle key position result) : manager.SameMaps result.2 := by
  cases hresult with
  | refused error => exact .same rfl rfl
  | attached howner hresidence hmap hplayer hfree => exact .edit hmap rfl rfl

theorem of_relocated {position : Position} (hresult : Relocated manager handle position result) :
    manager.SameMaps result.2 := by
  cases hresult with
  | refused error => exact .same rfl rfl
  | relocated howner hresidence hmap hrecord => exact .edit hmap rfl rfl

theorem of_apply (isValidMapCoord2d : Position → Bool) (manager : MapManager Position Data)
    {op : OwnerOp Position Data}
    (hop : ∀ key difficulty kind, op ≠ .createMap key difficulty kind) :
    manager.SameMaps (op.apply isValidMapCoord2d manager).manager := by
  cases op with
  | createMap key difficulty kind => exact absurd rfl (hop key difficulty kind)
  | adoptActive guid => exact of_adopted (adopted_of_adopt manager guid)
  | installDetached player => exact of_installed (installed_of_install manager player)
  | attach handle key position =>
    exact of_attached (attached_of_attach isValidMapCoord2d manager handle key position)
  | detach handle => exact of_detached (detached_of_detach manager handle)
  | relocate handle position =>
    exact of_relocated (relocated_of_relocate isValidMapCoord2d manager handle position)
  | retire handle => exact of_retired (retired_of_retire manager handle)

end SameMaps

/-- How creating a map ends. -/
inductive Created (manager : MapManager Position Data) (key : MapKey) (difficulty : ℕ)
    (kind : ManagedMapKind) : MapManager Position Data → Prop where
  | present {map : ManagedMap Position Data} : manager.maps.lookup key = some map →
      Created manager key difficulty kind manager
  | created : manager.maps.lookup key = none →
      Created manager key difficulty kind
        { manager with
          maps := manager.maps.insert key (.new key.mapId key.instanceId difficulty kind)
          instanceIds :=
            if key.instanceId ≠ 0 ∧ (kind.isDungeon || kind.isBattlegroundOrArena) then
              manager.instanceIds.registerInstanceId key.instanceId
            else manager.instanceIds
          mapIncarnations := manager.mapIncarnations.insert key manager.nextMapIncarnation
          nextMapIncarnation := saturatingAdd 64 manager.nextMapIncarnation 1 }

theorem created_of_create (manager : MapManager Position Data) (key : MapKey) (difficulty : ℕ)
    (kind : ManagedMapKind) :
    Created manager key difficulty kind (manager.createMapEntry key difficulty kind) := by
  simp only [createMapEntry]
  cases hmap : manager.maps.lookup key with
  | some map => exact .present hmap
  | none => exact .created hmap

/-- How destroying a map ends. -/
inductive Destroyed (manager : MapManager Position Data) (key : MapKey) :
    Bool × MapManager Position Data → Prop where
  | refused : Destroyed manager key (false, manager)
  | destroyed {map : ManagedMap Position Data} : manager.maps.lookup key = some map →
      map.havePlayers = false →
      Destroyed manager key
        (true,
          { manager with
            maps := manager.maps.erase key
            instanceIds := map.teardown manager.instanceIds
            mapIncarnations := manager.mapIncarnations.erase key })

theorem destroyed_of_destroy (manager : MapManager Position Data) (key : MapKey) :
    Destroyed manager key (manager.destroyMap key) := by
  simp only [destroyMap, destroyMapInner]
  cases hmap : manager.maps.lookup key with
  | none => exact .refused
  | some map =>
    cases hplayers : map.havePlayers with
    | true => simpa only [hplayers, if_true] using .refused
    | false =>
      simpa only [hplayers, Bool.false_eq_true, if_false] using .destroyed hmap hplayers

end MapManager

end RustyCore.Maps
