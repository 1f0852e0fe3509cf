import RustyCore.Model.Maps.MapManager

/-! # Player owners

Each owned player has an owner row with its incarnation and its residence, and one
value: in the table of detached players or in the map where it resides. -/

namespace RustyCore.Maps

structure PlayerHandle where
  guid : ObjectGuid
  generation : ℕ
deriving DecidableEq

inductive PlayerOwnerError where
  | emptyGuid
  | invalidGuid (guid : ObjectGuid)
  | invalidPosition
  | replacementRetireFailed (guid : ObjectGuid)
  | generationExhausted
  | residenceRevisionExhausted
  | alreadyOwned (guid : ObjectGuid)
  | activePlayerMissing (guid : ObjectGuid)
  | ambiguousActivePlayer (guid : ObjectGuid)
  | staleHandle
  | notDetached
  | notActive
  | missingMap (key : MapKey)
  | missingPlayer (guid : ObjectGuid)
  | detachedPlayerStillInWorld (guid : ObjectGuid)
  | detachedPlayerStillBound (guid : ObjectGuid) (key : MapKey)
  | activeObjectAlreadyPresent (guid : ObjectGuid) (key : MapKey)
  | activeObjectNotPlayer (guid : ObjectGuid) (key : MapKey)
  | removeFromMap
deriving DecidableEq

/-- `AccessorObjectKind::from_guid(guid) == Some(AccessorObjectKind::Player)` -/
def isPlayerGuid (guid : ObjectGuid) : Bool := guid.highType == ObjectGuid.highGuidPlayer

/-- `checked_add(1)` on 64-bit integers. -/
def checkedSucc (n : ℕ) : Option ℕ := if n + 1 < 2 ^ 64 then some (n + 1) else none

variable {Position Data : Type}

/-! ## Inside a map -/

namespace ManagedMap

/-- `MapRuntime::attach_player_like_cpp` -/
def attachPlayer (isValidMapCoord2d : Position → Bool) (map : ManagedMap Position Data)
    (player : Player Position Data) (position : Position) :
    Except PlayerOwnerError (ManagedMap Position Data) :=
  if !isPlayerGuid player.guid then .error (.invalidGuid player.guid)
  else if !isValidMapCoord2d position then .error .invalidPosition
  else if player.inWorld then .error (.detachedPlayerStillInWorld player.guid)
  else
    match player.currentMap with
    | some key => .error (.detachedPlayerStillBound player.guid key)
    | none =>
      if (map.entityWorld.lookup player.guid).isSome then
        .error (.activeObjectAlreadyPresent player.guid ⟨map.mapId, map.instanceId⟩)
      else
        .ok { map with
          entityWorld := map.entityWorld.insert player.guid
            (.player { player with
              inWorld := true
              currentMap := some ⟨map.mapId, map.instanceId⟩
              position := position }) }

/-- `MapRuntime::detach_player_like_cpp`: the player, unless it is bound to no map and
fails to be unbound, and the map without its record. -/
def detachPlayer (map : ManagedMap Position Data) (guid : ObjectGuid) :
    Except PlayerOwnerError (Option (Player Position Data) × ManagedMap Position Data) :=
  match map.entityWorld.lookup guid with
  | none => .error (.missingPlayer guid)
  | some .other => .error (.activeObjectNotPlayer guid ⟨map.mapId, map.instanceId⟩)
  | some (.player player) =>
    .ok
      (if player.currentMap.isNone then none
        else some { player with inWorld := false, currentMap := none },
      { map with entityWorld := map.entityWorld.erase guid })

/-- `MapRuntime::relocate_player_like_cpp`. A player is an active object, so the grid it
moves to is loaded first and the move is not blocked. -/
def relocatePlayer (map : ManagedMap Position Data) (guid : ObjectGuid) (position : Position) :
    Except PlayerOwnerError (ManagedMap Position Data) :=
  match map.entityWorld.lookup guid with
  | none => .error (.missingPlayer guid)
  | some .other => .error (.activeObjectNotPlayer guid ⟨map.mapId, map.instanceId⟩)
  | some (.player player) =>
    .ok { map with
      entityWorld := map.entityWorld.insert guid (.player { player with position := position }) }

end ManagedMap

namespace MapManager

variable (isValidMapCoord2d : Position → Bool) (manager : MapManager Position Data)

/-! ## Queries -/

def currentPlayerOwner (handle : PlayerHandle) : Option PlayerOwnership :=
  (manager.playerOwners.lookup handle.guid).filter (·.generation == handle.generation)

/-- The player behind a handle, as `with_player_like_cpp` reaches it. -/
def withPlayer (handle : PlayerHandle) : Option (Player Position Data) :=
  match manager.currentPlayerOwner handle with
  | none => none
  | some owner =>
    match owner.residence with
    | .detached => manager.detachedPlayers.lookup handle.guid
    | .active key =>
      (manager.findMap key).bind fun map => map.entityWorld.getTypedPlayer handle.guid

/-- `with_player_mut_like_cpp`: the manager after `write`, if the player was reached. -/
def withPlayerMut (handle : PlayerHandle) (write : Player Position Data → Player Position Data) :
    Option (MapManager Position Data) :=
  match manager.currentPlayerOwner handle with
  | none => none
  | some owner =>
    match owner.residence with
    | .detached =>
      (manager.detachedPlayers.lookup handle.guid).map fun player =>
        { manager with
          detachedPlayers := manager.detachedPlayers.insert handle.guid (write player) }
    | .active key =>
      (manager.findMap key).bind fun map =>
        (map.entityWorld.getTypedPlayer handle.guid).map fun player =>
          { manager with
            maps := manager.maps.insert key { map with
              entityWorld := map.entityWorld.insert handle.guid (.player (write player)) } }

def allocatePlayerGeneration : Except PlayerOwnerError (ℕ × MapManager Position Data) :=
  match checkedSucc manager.nextPlayerGeneration with
  | none => .error .generationExhausted
  | some next => .ok (manager.nextPlayerGeneration, { manager with nextPlayerGeneration := next })

/-- The keys of the maps that hold the player, in order. -/
def residencesOf (guid : ObjectGuid) : List MapKey :=
  manager.keys.filter fun key =>
    (manager.findMap key).any fun map => (map.entityWorld.getTypedPlayer guid).isSome

/-! ## Operations

Each returns what it reports together with the manager it leaves behind. -/

def adoptActivePlayer (guid : ObjectGuid) :
    Except PlayerOwnerError PlayerHandle × MapManager Position Data :=
  if (manager.playerOwners.lookup guid).isSome then (.error (.alreadyOwned guid), manager)
  else if !isPlayerGuid guid then (.error (.invalidGuid guid), manager)
  else
    match manager.residencesOf guid with
    | [] => (.error (.activePlayerMissing guid), manager)
    | _ :: _ :: _ => (.error (.ambiguousActivePlayer guid), manager)
    | [key] =>
      match manager.allocatePlayerGeneration with
      | .error error => (.error error, manager)
      | .ok (generation, manager) =>
        (.ok ⟨guid, generation⟩,
          { manager with
            playerOwners := manager.playerOwners.insert guid ⟨generation, .active key, 1⟩ })

def attachPlayer (handle : PlayerHandle) (key : MapKey) (position : Position) :
    Except PlayerOwnerError Unit × MapManager Position Data :=
  if !isValidMapCoord2d position then (.error .invalidPosition, manager)
  else
    match manager.currentPlayerOwner handle with
    | none => (.error .staleHandle, manager)
    | some owner =>
      if owner.residence ≠ .detached then (.error .notDetached, manager)
      else
        match manager.findMap key with
        | none => (.error (.missingMap key), manager)
        | some map =>
          match checkedSucc owner.residenceRevision with
          | none => (.error .residenceRevisionExhausted, manager)
          | some revision =>
            match manager.detachedPlayers.lookup handle.guid with
            | none => (.error (.missingPlayer handle.guid), manager)
            | some player =>
              match map.attachPlayer isValidMapCoord2d player position with
              -- The rejected player goes back to where it was taken from.
              | .error error => (.error error, manager)
              | .ok attached =>
                (.ok (),
                  { manager with
                    detachedPlayers := manager.detachedPlayers.erase handle.guid
                    maps := manager.maps.insert key attached
                    playerOwners := manager.playerOwners.insert handle.guid
                      { owner with
                        residence := .active key
                        residenceRevision := revision } })

def detachPlayer (handle : PlayerHandle) :
    Except PlayerOwnerError Unit × MapManager Position Data :=
  match manager.currentPlayerOwner handle with
  | none => (.error .staleHandle, manager)
  | some owner =>
    match owner.residence with
    | .detached => (.error .notActive, manager)
    | .active key =>
      match manager.findMap key with
      | none => (.error (.missingMap key), manager)
      | some map =>
        match map.detachPlayer handle.guid with
        | .error error => (.error error, manager)
        | .ok (none, map) =>
          (.error .removeFromMap, { manager with maps := manager.maps.insert key map })
        | .ok (some player, map) =>
          (.ok (),
            { manager with
              maps := manager.maps.insert key map
              detachedPlayers := manager.detachedPlayers.insert handle.guid player
              playerOwners := manager.playerOwners.insert handle.guid
                { owner with residence := .detached } })

def relocatePlayer (handle : PlayerHandle) (position : Position) :
    Except PlayerOwnerError Unit × MapManager Position Data :=
  if !isValidMapCoord2d position then (.error .invalidPosition, manager)
  else
    match manager.currentPlayerOwner handle with
    | none => (.error .staleHandle, manager)
    | some owner =>
      match owner.residence with
      | .detached => (.error .notActive, manager)
      | .active key =>
        match manager.findMap key with
        | none => (.error (.missingMap key), manager)
        | some map =>
          match map.relocatePlayer handle.guid position with
          | .error error => (.error error, manager)
          | .ok map => (.ok (), { manager with maps := manager.maps.insert key map })

def retirePlayer (handle : PlayerHandle) :
    Option (Player Position Data) × MapManager Position Data :=
  match manager.currentPlayerOwner handle with
  | none => (none, manager)
  | some owner =>
    let (detached, manager) : Except PlayerOwnerError Unit × MapManager Position Data :=
      if owner.residence ≠ .detached then manager.detachPlayer handle else (.ok (), manager)
    match detached with
    | .error _ => (none, manager)
    | .ok () =>
      (manager.detachedPlayers.lookup handle.guid,
        { manager with
          playerOwners := manager.playerOwners.erase handle.guid
          detachedPlayers := manager.detachedPlayers.erase handle.guid })

def installDetachedPlayer (player : Player Position Data) :
    Except PlayerOwnerError PlayerHandle × MapManager Position Data :=
  if player.guid.isEmpty then (.error .emptyGuid, manager)
  else if !isPlayerGuid player.guid then (.error (.invalidGuid player.guid), manager)
  else
    match manager.allocatePlayerGeneration with
    | .error error => (.error error, manager)
    | .ok (generation, manager) =>
      let (retired, manager) : Bool × MapManager Position Data :=
        match manager.playerOwners.lookup player.guid with
        | none => (true, manager)
        | some previous =>
          let (retired, manager) := manager.retirePlayer ⟨player.guid, previous.generation⟩
          (retired.isSome, manager)
      if !retired then (.error (.replacementRetireFailed player.guid), manager)
      else
        (.ok ⟨player.guid, generation⟩,
          { manager with
            detachedPlayers := manager.detachedPlayers.insert player.guid
              { player with inWorld := false, currentMap := none }
            playerOwners := manager.playerOwners.insert player.guid
              ⟨generation, .detached, 0⟩ })

end MapManager

end RustyCore.Maps
