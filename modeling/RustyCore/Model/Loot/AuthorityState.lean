import RustyCore.Library.Dict
import RustyCore.Model.Loot.CreatureLoot

/-! # State of an owned-loot authority

One authority owns the shared pool and the personal pools of one creature or game
object, the epochs that identify concrete pools, and the reservations on them. -/

namespace RustyCore.Loot

inductive OwnedLootScope where
  | shared
  | personal (player : ObjectGuid)
deriving DecidableEq

inductive OwnedLootAuthorityLifecycle where
  | pristine
  | active
  | retired
  | quarantined
  | detached
deriving DecidableEq

structure OwnedLootAuthorityStamp where
  lifecycle : OwnedLootAuthorityLifecycle
  objectGeneration : ℕ
deriving DecidableEq

structure OwnedLootSnapshot where
  generation : ℕ
  scope : OwnedLootScope
  loot : CreatureLoot
deriving DecidableEq

inductive LootInstallOutcome where
  | installed (generation : ℕ)
  | alreadyInitialized (generation : ℕ)
deriving DecidableEq

structure LootItemClaimKey where
  scope : OwnedLootScope
  lootListId : ℕ
  /-- `some player` for free-for-all items, `none` for globally unique ones. -/
  claimant : Option ObjectGuid
deriving DecidableEq

inductive LootClaimPayload where
  | item (entry : LootEntry)
  | money (coins : ℕ)
deriving DecidableEq

inductive LootClaimError where
  | retired
  | staleGeneration
  | noLootForPlayer
  | responseEnqueueFailed
  | itemNotFound
  | itemAlreadyLooted
  | playerNotAllowed
  | itemBlocked
  | wrongRollWinner
deriving DecidableEq

inductive LootClaimCommitError where
  | rolledBack
  | staleGeneration
  | stateChanged
deriving DecidableEq

inductive ReservationKey where
  | item (key : LootItemClaimKey)
  | money (scope : OwnedLootScope)
deriving DecidableEq

structure AuthorityState where
  generation : ℕ
  retired : Bool
  detached : Bool
  quarantined : Bool
  shared : Option CreatureLoot
  personal : Dict ObjectGuid CreatureLoot
  scopeEpochs : Dict OwnedLootScope ℕ
  nextScopeEpoch : ℕ
  lifecycleRevision : ℕ
  reservations : Dict ReservationKey ℕ
  /-- Claims that crossed the durable-persistence boundary. -/
  persisting : Dict ReservationKey ℕ
  nextToken : ℕ
deriving DecidableEq

namespace AuthorityState

def default : AuthorityState where
  generation := 0
  retired := true
  detached := false
  quarantined := false
  shared := none
  personal := ∅
  scopeEpochs := ∅
  nextScopeEpoch := 1
  lifecycleRevision := 0
  reservations := ∅
  persisting := ∅
  nextToken := 1

/-- The state of `new_retired_tombstone_like_cpp()`. -/
def newRetiredTombstoneLikeCpp : AuthorityState :=
  { default with generation := 1, quarantined := true }

end AuthorityState

def reservationScope : ReservationKey → OwnedLootScope
  | .item key => key.scope
  | .money scope => scope

def retainOnlyPersistingReservations (state : AuthorityState) : AuthorityState :=
  { state with
    reservations := Dict.retain (fun key token => state.persisting.lookup key == some token)
      state.reservations }

def finalizeClosedStateIfDrained (state : AuthorityState) : AuthorityState :=
  if !state.retired || !Dict.isEmpty state.persisting then state
  else { state with shared := none, personal := ∅, scopeEpochs := ∅, reservations := ∅ }

def scopeHasPersistingClaim (state : AuthorityState) (scope : OwnedLootScope) : Bool :=
  Dict.anyEntry (fun key _ => reservationScope key == scope) state.persisting

/-- `next_token`: the token handed out and the state after it. -/
def takeNextToken (state : AuthorityState) : ℕ × AuthorityState :=
  (state.nextToken, { state with nextToken := nextNonzero state.nextToken })

/-- `next_scope_epoch`: the epoch handed out and the state after it. -/
def takeNextScopeEpoch (state : AuthorityState) : ℕ × AuthorityState :=
  (state.nextScopeEpoch, { state with nextScopeEpoch := nextNonzero state.nextScopeEpoch })

def bumpLifecycleRevision (state : AuthorityState) : AuthorityState :=
  { state with lifecycleRevision := max (saturatingAdd 64 state.lifecycleRevision 1) 1 }

def installAllScopeEpochs (state : AuthorityState) (epoch : ℕ) : AuthorityState :=
  let base : Dict OwnedLootScope ℕ :=
    if state.shared.isSome then AList.insert .shared epoch ∅ else ∅
  { state with
    scopeEpochs := state.personal.keys.foldl
      (fun epochs player => AList.insert (.personal player) epoch epochs) base }

def anyScopeEpoch (state : AuthorityState) : Option ℕ := (Dict.values state.scopeEpochs).min?

def scopeEpoch (state : AuthorityState) (scope : OwnedLootScope) : Option ℕ :=
  state.scopeEpochs.lookup scope

def selectedScopeLikeCpp (state : AuthorityState) (player : ObjectGuid) : Option OwnedLootScope :=
  if state.retired then none
  else if Dict.isEmpty state.personal then state.shared.map (fun _ => .shared)
  else if (state.personal.lookup player).isSome then some (.personal player)
  else none

def activeLootPoolsFullyLootedLikeCpp (state : AuthorityState) : Bool :=
  state.shared.all CreatureLoot.isLootedLikeCpp &&
    (Dict.values state.personal).all CreatureLoot.isLootedLikeCpp

def lootTypeSkinning : ℕ := 6

def activeLootPoolsFullySkinnedLikeCpp (state : AuthorityState) : Bool :=
  if state.shared.any (fun loot => loot.lootType == lootTypeSkinning && loot.isLootedLikeCpp) then
    true
  else
    let skinning :=
      (Dict.values state.personal).filter (fun loot => loot.lootType == lootTypeSkinning)
    skinning.all CreatureLoot.isLootedLikeCpp && !skinning.isEmpty

def lootForScope (state : AuthorityState) : OwnedLootScope → Option CreatureLoot
  | .shared => state.shared
  | .personal player => state.personal.lookup player

/-- The write side of `loot_for_scope_mut`, for a scope that has a pool. -/
def setLootForScope (state : AuthorityState) (scope : OwnedLootScope) (loot : CreatureLoot) :
    AuthorityState :=
  match scope with
  | .shared => { state with shared := some loot }
  | .personal player => { state with personal := AList.insert player loot state.personal }

def snapshotForScope (state : AuthorityState) (scope : OwnedLootScope) :
    Option OwnedLootSnapshot := do
  if state.retired then none
  let generation ← scopeEpoch state scope
  let loot ← lootForScope state scope
  return { generation, scope, loot }

/-! ## Reservations -/

inductive ReserveAttempt where
  | acquired (generation token : ℕ) (key : ReservationKey) (payload : LootClaimPayload)
  | wait
  | rejected (error : LootClaimError)
deriving DecidableEq

inductive LootItemClaimMode where
  | direct
  | award
deriving DecidableEq

def itemReservationKey (scope : OwnedLootScope) (lootListId : ℕ) (entry : LootEntry)
    (player : ObjectGuid) : ReservationKey :=
  .item { scope, lootListId, claimant := if entry.flags.freeforall then some player else none }

/-- The tail shared by both reservation attempts: wait for the holder of the key,
or take a fresh token for it. -/
def reserveKey (state : AuthorityState) (generation : ℕ) (key : ReservationKey)
    (payload : LootClaimPayload) : ReserveAttempt × AuthorityState :=
  if (state.reservations.lookup key).isSome then (.wait, state)
  else
    let (token, state) := takeNextToken state
    (.acquired generation token key payload,
      { state with reservations := AList.insert key token state.reservations })

def reserveItemOnce (state : AuthorityState) (player : ObjectGuid) (lootListId : ℕ)
    (mode : LootItemClaimMode) (expectedGeneration : Option ℕ) :
    ReserveAttempt × AuthorityState :=
  if state.retired then (.rejected .retired, state)
  else match selectedScopeLikeCpp state player with
  | none => (.rejected .noLootForPlayer, state)
  | some scope =>
  match scopeEpoch state scope with
  | none => (.rejected .staleGeneration, state)
  | some generation =>
  if expectedGeneration.any (fun expected => expected != generation) then
    (.rejected .staleGeneration, state)
  else match lootForScope state scope with
  | none => (.rejected .noLootForPlayer, state)
  | some loot =>
  match loot.itemLikeCpp lootListId with
  | none => (.rejected .itemNotFound, state)
  | some entry =>
  if entry.isLootedForPlayerLikeCpp player then (.rejected .itemAlreadyLooted, state)
  else if !entry.hasAllowedLooterLikeCpp player then (.rejected .playerNotAllowed, state)
  else if mode == .direct && entry.flags.blocked then (.rejected .itemBlocked, state)
  else if !entry.rollWinnerAllowsLikeCpp player then (.rejected .wrongRollWinner, state)
  else reserveKey state generation (itemReservationKey scope lootListId entry player) (.item entry)

def reserveMoneyOnce (state : AuthorityState) (player : ObjectGuid)
    (expectedGeneration : Option ℕ) : ReserveAttempt × AuthorityState :=
  if state.retired then (.rejected .retired, state)
  else match selectedScopeLikeCpp state player with
  | none => (.rejected .noLootForPlayer, state)
  | some scope =>
  match scopeEpoch state scope with
  | none => (.rejected .staleGeneration, state)
  | some generation =>
  if expectedGeneration.any (fun expected => expected != generation) then
    (.rejected .staleGeneration, state)
  else match lootForScope state scope with
  | none => (.rejected .noLootForPlayer, state)
  | some loot =>
  if !loot.allowedLooters.contains player then (.rejected .playerNotAllowed, state)
  else reserveKey state generation (.money scope) (.money loot.coins)

end RustyCore.Loot
