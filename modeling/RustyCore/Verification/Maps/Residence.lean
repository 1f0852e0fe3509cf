import RustyCore.Model.Maps.PlayerOwner

/-! # What the player operations do

One case for each way an operation on a player ends, with the manager it leaves behind. -/

namespace RustyCore.Maps

variable {Position Data : Type}
variable {guid : ObjectGuid} {player : Player Position Data} {manager : MapManager Position Data}

/-! ## Players on maps -/

def MapManager.playerAt (manager : MapManager Position Data) (key : MapKey) (guid : ObjectGuid) :
    Option (Player Position Data) :=
  (manager.maps.lookup key).bind fun map => map.entityWorld.getTypedPlayer guid

namespace EntityWorld

variable (world : EntityWorld Position Data)

theorem getTypedPlayer_eq_some {world : EntityWorld Position Data} :
    world.getTypedPlayer guid = some player ↔ world.lookup guid = some (.player player) := by
  simp only [getTypedPlayer]
  cases world.lookup guid with
  | none => simp
  | some record =>
    cases record with
    | player found => simp
    | other => simp

theorem getTypedPlayer_insert (guid : ObjectGuid) (player : Player Position Data)
    (other : ObjectGuid) :
    getTypedPlayer (world.insert guid (.player player)) other =
      if other = guid then some player else world.getTypedPlayer other := by
  simp only [getTypedPlayer, Dict.lookup_insert_eq]
  by_cases h : other = guid
  · simp [h]
  · simp [h]

theorem getTypedPlayer_erase (guid other : ObjectGuid) :
    getTypedPlayer (AList.erase guid world) other =
      if other = guid then none else world.getTypedPlayer other := by
  simp only [getTypedPlayer, Dict.lookup_erase_eq]
  by_cases h : other = guid
  · simp [h]
  · simp [h]

end EntityWorld

namespace MapManager

theorem playerAt_eq_some {key : MapKey} :
    manager.playerAt key guid = some player ↔
      ∃ map, manager.maps.lookup key = some map ∧ map.entityWorld.getTypedPlayer guid = some player :=
  Option.bind_eq_some_iff

theorem playerAt_insert (manager : MapManager Position Data) (key : MapKey)
    (map : ManagedMap Position Data) (key' : MapKey) (guid : ObjectGuid) :
    playerAt { manager with maps := manager.maps.insert key map } key' guid =
      if key' = key then map.entityWorld.getTypedPlayer guid else manager.playerAt key' guid := by
  simp only [playerAt, Dict.lookup_insert_eq]
  by_cases h : key' = key
  · simp [h]
  · simp [h]

end MapManager

/-! ## Attaching -/

section

variable (isValidMapCoord2d : Position → Bool)

theorem ManagedMap.attachPlayer_ok {map attached : ManagedMap Position Data} {position : Position}
    (h : map.attachPlayer isValidMapCoord2d player position = .ok attached) :
    map.entityWorld.lookup player.guid = none ∧
      attached = { map with
        entityWorld := map.entityWorld.insert player.guid
          (.player { player with
            inWorld := true
            currentMap := some ⟨map.mapId, map.instanceId⟩
            position := position }) } := by
  simp only [attachPlayer] at h
  cases hmap : player.currentMap with
  | some key =>
    simp only [hmap] at h
    split_ifs at h
  | none =>
    simp only [hmap] at h
    split_ifs at h with hguid hposition hworld hpresent
    exact ⟨by simpa using hpresent, (Except.ok.inj h).symm⟩

/-- How attaching a player ends. -/
inductive Attached (manager : MapManager Position Data) (handle : PlayerHandle) (key : MapKey)
    (position : Position) : Except PlayerOwnerError Unit × MapManager Position Data → Prop where
  | refused (error : PlayerOwnerError) : Attached manager handle key position (.error error, manager)
  | attached {owner : PlayerOwnership} {map : ManagedMap Position Data}
      {player : Player Position Data} :
      manager.currentPlayerOwner handle = some owner → owner.residence = .detached →
      manager.maps.lookup key = some map →
      manager.detachedPlayers.lookup handle.guid = some player →
      map.entityWorld.lookup player.guid = none →
      Attached manager handle key position
        (.ok (),
          { manager with
            detachedPlayers := manager.detachedPlayers.erase handle.guid
            maps := manager.maps.insert key { map with
              entityWorld := map.entityWorld.insert player.guid
                (.player { player with
                  inWorld := true
                  currentMap := some ⟨map.mapId, map.instanceId⟩
                  position := position }) }
            playerOwners := manager.playerOwners.insert handle.guid
              { owner with
                residence := .active key
                residenceRevision := owner.residenceRevision + 1 } })

theorem checkedSucc_eq_some {n m : ℕ} (h : checkedSucc n = some m) : m = n + 1 := by
  simp only [checkedSucc] at h
  split_ifs at h
  exact (Option.some.inj h).symm

theorem attached_of_attach (manager : MapManager Position Data) (handle : PlayerHandle)
    (key : MapKey) (position : Position) :
    Attached manager handle key position
      (manager.attachPlayer isValidMapCoord2d handle key position) := by
  simp only [MapManager.attachPlayer, MapManager.findMap]
  by_cases hposition : isValidMapCoord2d position = true
  · simp only [hposition, Bool.not_true, Bool.false_eq_true, if_false]
    cases howner : manager.currentPlayerOwner handle with
    | none => exact .refused _
    | some owner =>
      by_cases hresidence : owner.residence = .detached
      · simp only [hresidence, ne_eq, not_true_eq_false, if_false]
        cases hmap : manager.maps.lookup key with
        | none => exact .refused _
        | some map =>
          cases hrevision : checkedSucc owner.residenceRevision with
          | none => exact .refused _
          | some revision =>
            cases hplayer : manager.detachedPlayers.lookup handle.guid with
            | none => exact .refused _
            | some player =>
              cases hattach : map.attachPlayer isValidMapCoord2d player position with
              | error error => simpa only [hattach] using .refused error
              | ok attached =>
                obtain ⟨hfree, rfl⟩ := ManagedMap.attachPlayer_ok _ hattach
                obtain rfl := checkedSucc_eq_some hrevision
                simpa only [hattach] using
                  .attached howner hresidence hmap hplayer hfree
      · simp only [hresidence, ne_eq, not_false_eq_true, if_true]
        exact .refused _
  · simp only [hposition, Bool.not_false, if_true]
    exact .refused _

/-! ## Detaching and retiring -/

/-- How detaching a player ends. -/
inductive Detached (manager : MapManager Position Data) (handle : PlayerHandle) :
    Except PlayerOwnerError Unit × MapManager Position Data → Prop where
  | refused (error : PlayerOwnerError) : Detached manager handle (.error error, manager)
  | lost {owner : PlayerOwnership} {key : MapKey} {map : ManagedMap Position Data}
      {player : Player Position Data} :
      manager.currentPlayerOwner handle = some owner → owner.residence = .active key →
      manager.maps.lookup key = some map →
      map.entityWorld.lookup handle.guid = some (.player player) → player.currentMap = none →
      Detached manager handle
        (.error .removeFromMap,
          { manager with
            maps := manager.maps.insert key
              { map with entityWorld := map.entityWorld.erase handle.guid } })
  | detached {owner : PlayerOwnership} {key : MapKey} {map : ManagedMap Position Data}
      {player : Player Position Data} :
      manager.currentPlayerOwner handle = some owner → owner.residence = .active key →
      manager.maps.lookup key = some map →
      map.entityWorld.lookup handle.guid = some (.player player) →
      player.currentMap ≠ none →
      Detached manager handle
        (.ok (),
          { manager with
            maps := manager.maps.insert key
              { map with entityWorld := map.entityWorld.erase handle.guid }
            detachedPlayers := manager.detachedPlayers.insert handle.guid
              { player with inWorld := false, currentMap := none }
            playerOwners := manager.playerOwners.insert handle.guid
              { owner with residence := .detached } })

theorem detached_of_detach (manager : MapManager Position Data) (handle : PlayerHandle) :
    Detached manager handle (manager.detachPlayer handle) := by
  simp only [MapManager.detachPlayer, MapManager.findMap]
  cases howner : manager.currentPlayerOwner handle with
  | none => exact .refused _
  | some owner =>
    cases hresidence : owner.residence with
    | detached => simpa only [hresidence] using .refused _
    | active key =>
      cases hmap : manager.maps.lookup key with
      | none => simpa only [hresidence, hmap] using .refused _
      | some map =>
        simp only [hresidence, hmap, ManagedMap.detachPlayer]
        cases hrecord : map.entityWorld.lookup handle.guid with
        | none => exact .refused _
        | some record =>
          cases record with
          | other => exact .refused _
          | player player =>
            cases hbound : player.currentMap with
            | none =>
              simp only [hbound, Option.isNone_none, if_true]
              exact .lost howner hresidence hmap hrecord hbound
            | some bound =>
              simp only [hbound, Option.isNone_some, Bool.false_eq_true, if_false]
              exact .detached howner hresidence hmap hrecord (by simp [hbound])

/-- How retiring a player ends. -/
inductive Retired (manager : MapManager Position Data) (handle : PlayerHandle) :
    Option (Player Position Data) × MapManager Position Data → Prop where
  | refused : Retired manager handle (none, manager)
  | lost {error : PlayerOwnerError} {manager' : MapManager Position Data} :
      Detached manager handle (.error error, manager') → Retired manager handle (none, manager')
  | fromTable {owner : PlayerOwnership} :
      manager.currentPlayerOwner handle = some owner → owner.residence = .detached →
      Retired manager handle
        (manager.detachedPlayers.lookup handle.guid,
          { manager with
            playerOwners := manager.playerOwners.erase handle.guid
            detachedPlayers := manager.detachedPlayers.erase handle.guid })
  | fromMap {manager' : MapManager Position Data} :
      Detached manager handle (.ok (), manager') →
      Retired manager handle
        (manager'.detachedPlayers.lookup handle.guid,
          { manager' with
            playerOwners := manager'.playerOwners.erase handle.guid
            detachedPlayers := manager'.detachedPlayers.erase handle.guid })

theorem retired_of_retire (manager : MapManager Position Data) (handle : PlayerHandle) :
    Retired manager handle (manager.retirePlayer handle) := by
  simp only [MapManager.retirePlayer]
  cases howner : manager.currentPlayerOwner handle with
  | none => exact .refused
  | some owner =>
    by_cases hresidence : owner.residence = .detached
    · simp only [hresidence, ne_eq, not_true_eq_false, if_false]
      exact .fromTable howner hresidence
    · simp only [hresidence, ne_eq, not_false_eq_true, if_true]
      have hdetached := detached_of_detach manager handle
      generalize manager.detachPlayer handle = result at hdetached ⊢
      obtain ⟨outcome, manager'⟩ := result
      cases outcome with
      | error error => exact .lost hdetached
      | ok value => exact .fromMap hdetached

/-! ## Relocating -/

/-- How relocating a player ends. -/
inductive Relocated (manager : MapManager Position Data) (handle : PlayerHandle)
    (position : Position) : Except PlayerOwnerError Unit × MapManager Position Data → Prop where
  | refused (error : PlayerOwnerError) : Relocated manager handle position (.error error, manager)
  | relocated {owner : PlayerOwnership} {key : MapKey} {map : ManagedMap Position Data}
      {player : Player Position Data} :
      manager.currentPlayerOwner handle = some owner → owner.residence = .active key →
      manager.maps.lookup key = some map →
      map.entityWorld.lookup handle.guid = some (.player player) →
      Relocated manager handle position
        (.ok (),
          { manager with
            maps := manager.maps.insert key { map with
              entityWorld := map.entityWorld.insert handle.guid
                (.player { player with position := position }) } })

theorem relocated_of_relocate (manager : MapManager Position Data) (handle : PlayerHandle)
    (position : Position) :
    Relocated manager handle position
      (manager.relocatePlayer isValidMapCoord2d handle position) := by
  simp only [MapManager.relocatePlayer, MapManager.findMap]
  by_cases hposition : isValidMapCoord2d position = true
  · simp only [hposition, Bool.not_true, Bool.false_eq_true, if_false]
    cases howner : manager.currentPlayerOwner handle with
    | none => exact .refused _
    | some owner =>
      cases hresidence : owner.residence with
      | detached => simpa only [hresidence] using .refused _
      | active key =>
        cases hmap : manager.maps.lookup key with
        | none => simpa only [hresidence, hmap] using .refused _
        | some map =>
          simp only [hresidence, hmap, ManagedMap.relocatePlayer]
          cases hrecord : map.entityWorld.lookup handle.guid with
          | none => exact .refused _
          | some record =>
            cases record with
            | other => exact .refused _
            | player player => exact .relocated howner hresidence hmap hrecord
  · simp only [hposition, Bool.not_false, if_true]
    exact .refused _

end

/-! ## Installing and adopting -/

/-- How installing a player ends. -/
inductive Installed (manager : MapManager Position Data) (player : Player Position Data) :
    Except PlayerOwnerError PlayerHandle × MapManager Position Data → Prop where
  | refused (error : PlayerOwnerError) : Installed manager player (.error error, manager)
  | unreplaced {previous : PlayerOwnership} {manager' : MapManager Position Data}
      (next : ℕ) : manager.nextPlayerGeneration ≤ next →
      manager.playerOwners.lookup player.guid = some previous →
      Retired { manager with nextPlayerGeneration := next } ⟨player.guid, previous.generation⟩
        (none, manager') →
      Installed manager player (.error (.replacementRetireFailed player.guid), manager')
  | fresh : isPlayerGuid player.guid = true → manager.nextPlayerGeneration + 1 < 2 ^ 64 →
      manager.playerOwners.lookup player.guid = none →
      Installed manager player
        (.ok ⟨player.guid, manager.nextPlayerGeneration⟩,
          { manager with
            nextPlayerGeneration := manager.nextPlayerGeneration + 1
            detachedPlayers := manager.detachedPlayers.insert player.guid
              { player with inWorld := false, currentMap := none }
            playerOwners := manager.playerOwners.insert player.guid
              ⟨manager.nextPlayerGeneration, .detached, 0⟩ })
  | replaced {previous : PlayerOwnership} {old : Player Position Data}
      {manager' : MapManager Position Data} :
      isPlayerGuid player.guid = true → manager.nextPlayerGeneration + 1 < 2 ^ 64 →
      manager.playerOwners.lookup player.guid = some previous →
      Retired { manager with nextPlayerGeneration := manager.nextPlayerGeneration + 1 }
        ⟨player.guid, previous.generation⟩ (some old, manager') →
      Installed manager player
        (.ok ⟨player.guid, manager.nextPlayerGeneration⟩,
          { manager' with
            detachedPlayers := manager'.detachedPlayers.insert player.guid
              { player with inWorld := false, currentMap := none }
            playerOwners := manager'.playerOwners.insert player.guid
              ⟨manager.nextPlayerGeneration, .detached, 0⟩ })

theorem allocate_eq {manager' : MapManager Position Data} {generation : ℕ}
    (h : manager.allocatePlayerGeneration = .ok (generation, manager')) :
    generation = manager.nextPlayerGeneration ∧ manager.nextPlayerGeneration + 1 < 2 ^ 64 ∧
      manager' = { manager with nextPlayerGeneration := manager.nextPlayerGeneration + 1 } := by
  simp only [MapManager.allocatePlayerGeneration, checkedSucc] at h
  split_ifs at h with hlt
  · obtain ⟨rfl, rfl⟩ := Prod.mk.inj (Except.ok.inj h)
    exact ⟨rfl, hlt, rfl⟩

theorem installed_of_install (manager : MapManager Position Data)
    (player : Player Position Data) :
    Installed manager player (manager.installDetachedPlayer player) := by
  simp only [MapManager.installDetachedPlayer]
  split_ifs with hempty hguid
  · exact .refused _
  · exact .refused _
  · have hplayer : isPlayerGuid player.guid = true := by simpa using hguid
    cases hallocate : manager.allocatePlayerGeneration with
    | error error => exact .refused _
    | ok allocated =>
      obtain ⟨generation, counted⟩ := allocated
      obtain ⟨rfl, hlt, rfl⟩ := allocate_eq hallocate
      simp only
      cases howner : manager.playerOwners.lookup player.guid with
      | none =>
        simp only [Bool.not_true, Bool.false_eq_true, if_false]
        exact .fresh hplayer hlt howner
      | some previous =>
        have hretired := retired_of_retire
          { manager with nextPlayerGeneration := manager.nextPlayerGeneration + 1 }
          ⟨player.guid, previous.generation⟩
        simp only
        generalize MapManager.retirePlayer _ _ = result at hretired ⊢
        obtain ⟨old, manager'⟩ := result
        cases old with
        | none =>
          simp only [Option.isSome_none, Bool.not_false, if_true]
          exact .unreplaced _ (Nat.le_succ _) howner hretired
        | some old =>
          simp only [Option.isSome_some, Bool.not_true, Bool.false_eq_true, if_false]
          exact .replaced hplayer hlt howner hretired

/-- How adopting a player ends. -/
inductive Adopted (manager : MapManager Position Data) (guid : ObjectGuid) :
    Except PlayerOwnerError PlayerHandle × MapManager Position Data → Prop where
  | refused (error : PlayerOwnerError) : Adopted manager guid (.error error, manager)
  | adopted {key : MapKey} : isPlayerGuid guid = true →
      manager.playerOwners.lookup guid = none → manager.nextPlayerGeneration + 1 < 2 ^ 64 →
      (manager.playerAt key guid).isSome = true →
      Adopted manager guid
        (.ok ⟨guid, manager.nextPlayerGeneration⟩,
          { manager with
            nextPlayerGeneration := manager.nextPlayerGeneration + 1
            playerOwners := manager.playerOwners.insert guid
              ⟨manager.nextPlayerGeneration, .active key, 1⟩ })

theorem playerAt_of_mem_residences {key : MapKey} (h : key ∈ manager.residencesOf guid) :
    (manager.playerAt key guid).isSome = true := by
  obtain ⟨-, hholds⟩ := List.mem_filter.mp h
  simp only [MapManager.findMap, Option.any_eq_true] at hholds
  obtain ⟨map, hmap, hplayer⟩ := hholds
  simpa [MapManager.playerAt, hmap] using hplayer

theorem adopted_of_adopt (manager : MapManager Position Data) (guid : ObjectGuid) :
    Adopted manager guid (manager.adoptActivePlayer guid) := by
  simp only [MapManager.adoptActivePlayer]
  split_ifs with howned hguid
  · exact .refused _
  · exact .refused _
  · cases hresidences : manager.residencesOf guid with
    | nil => exact .refused _
    | cons key keys =>
      cases keys with
      | cons key' keys => exact .refused _
      | nil =>
        cases hallocate : manager.allocatePlayerGeneration with
        | error error => exact .refused _
        | ok allocated =>
          obtain ⟨generation, counted⟩ := allocated
          obtain ⟨rfl, hlt, rfl⟩ := allocate_eq hallocate
          refine .adopted (by simpa using hguid) (by simpa using howned) hlt ?_
          exact playerAt_of_mem_residences (by simp [hresidences])

end RustyCore.Maps
