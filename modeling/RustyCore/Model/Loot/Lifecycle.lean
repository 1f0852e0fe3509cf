import RustyCore.Model.Loot.AuthorityState

/-! # Lifetimes, installs, viewers and rolls

Each function is one critical section of the authority: it takes the state found
under the lock and returns its result with the state left behind. Waking waiters
has no effect on the state and is left out. -/

namespace RustyCore.Loot

def lifecycleLikeCpp (state : AuthorityState) : OwnedLootAuthorityLifecycle :=
  if state.detached then .detached
  else if state.quarantined then .quarantined
  else if !state.retired then .active
  else if state.generation = 0 then .pristine
  else .retired

def stampLikeCpp (state : AuthorityState) : OwnedLootAuthorityStamp :=
  { lifecycle := lifecycleLikeCpp state, objectGeneration := state.generation }

/-! ## Closing -/

/-- The mutation shared by `detach_like_cpp` and `detach_if_stamp_like_cpp`. -/
def detachState (state : AuthorityState) : AuthorityState :=
  finalizeClosedStateIfDrained (retainOnlyPersistingReservations
    { state with
      generation := nextNonzero state.generation
      retired := true
      detached := true
      quarantined := false })

def detachLikeCpp (state : AuthorityState) : ℕ × AuthorityState :=
  if state.detached then (state.generation, state)
  else
    let state := detachState state
    (state.generation, state)

def detachIfStampLikeCpp (state : AuthorityState) (expected : OwnedLootAuthorityStamp) :
    Bool × AuthorityState :=
  if lifecycleLikeCpp state ≠ expected.lifecycle ∨
      state.generation ≠ expected.objectGeneration then (false, state)
  else if state.detached then (true, state)
  else (true, detachState state)

def retireLikeCpp (state : AuthorityState) : ℕ × AuthorityState :=
  if state.retired ∧ state.generation ≠ 0 then (state.generation, state)
  else
    let state := finalizeClosedStateIfDrained (retainOnlyPersistingReservations
      { state with generation := nextNonzero state.generation, retired := true })
    (state.generation, state)

/-! ## Installs -/

/-- The mutation shared by the three whole-object installs: new pools, no
reservation, one fresh epoch for every scope. -/
def installPools (state : AuthorityState) (generation : ℕ) (shared : Option CreatureLoot)
    (personal : Dict ObjectGuid CreatureLoot) : ℕ × AuthorityState :=
  let (epoch, state) := takeNextScopeEpoch
    { state with
      generation := generation
      retired := false
      shared := shared
      personal := personal
      reservations := ∅
      persisting := ∅ }
  (epoch, bumpLifecycleRevision (installAllScopeEpochs state epoch))

def initializePristineLikeCpp (state : AuthorityState) (shared : Option CreatureLoot)
    (personal : Dict ObjectGuid CreatureLoot) : LootInstallOutcome × AuthorityState :=
  if state.detached || state.quarantined || !Dict.isEmpty state.persisting || !state.retired ||
      state.generation != 0 then
    (.alreadyInitialized ((anyScopeEpoch state).getD 0), state)
  else
    let (epoch, state) := installPools state 1 shared personal
    (.installed epoch, state)

def replaceRetiredGenerationLikeCpp (state : AuthorityState) (expectedObjectGeneration : ℕ)
    (shared : Option CreatureLoot) (personal : Dict ObjectGuid CreatureLoot) :
    Option ℕ × AuthorityState :=
  if state.detached || state.quarantined || !Dict.isEmpty state.persisting || !state.retired ||
      state.generation != expectedObjectGeneration then
    (none, state)
  else
    let (epoch, state) := installPools state (nextNonzero state.generation) shared personal
    (some epoch, state)

def replaceLikeCpp (state : AuthorityState) (shared : Option CreatureLoot)
    (personal : Dict ObjectGuid CreatureLoot) : ℕ × AuthorityState :=
  if state.detached || state.quarantined || !Dict.isEmpty state.persisting then (0, state)
  else installPools state (nextNonzero state.generation) shared personal

def initializeSharedLikeCpp (state : AuthorityState) (loot : CreatureLoot) :
    LootInstallOutcome × AuthorityState :=
  if state.detached || state.quarantined || !Dict.isEmpty state.persisting ||
      (state.retired && state.generation != 0) then
    (.alreadyInitialized 0, state)
  else if !state.retired && state.shared.isSome then
    (.alreadyInitialized ((scopeEpoch state .shared).getD 0), state)
  else
    let state :=
      if state.retired then
        { state with
          generation := nextNonzero state.generation
          retired := false
          personal := ∅
          scopeEpochs := ∅
          reservations := ∅
          persisting := ∅ }
      else state
    let (epoch, state) := takeNextScopeEpoch state
    (.installed epoch, bumpLifecycleRevision
      { state with
        shared := some loot
        scopeEpochs := AList.insert .shared epoch state.scopeEpochs })

/-- What `upsert_personal_like_cpp` clears before it stores the new pool. -/
def clearForPersonal (state : AuthorityState) (player : ObjectGuid) : AuthorityState :=
  if state.retired then
    { state with
      generation := nextNonzero state.generation
      retired := false
      shared := none
      scopeEpochs := ∅
      reservations := ∅
      persisting := ∅ }
  else if Dict.isEmpty state.personal && state.shared.isSome then
    -- Switching from shared selection to a personal map changes every player's scope.
    { state with
      generation := nextNonzero state.generation
      scopeEpochs := AList.erase .shared state.scopeEpochs
      reservations := ∅ }
  else if (state.personal.lookup player).isSome then
    { state with
      reservations := Dict.retain (fun key _ => reservationScope key != .personal player)
        state.reservations }
  else state

def upsertPersonalLikeCpp (state : AuthorityState) (player : ObjectGuid) (loot : CreatureLoot)
    (replace : Bool) : LootInstallOutcome × AuthorityState :=
  if state.detached || state.quarantined || (state.retired && state.generation != 0) then
    (.alreadyInitialized 0, state)
  else if scopeHasPersistingClaim state (.personal player) ||
      (Dict.isEmpty state.personal && state.shared.isSome && !Dict.isEmpty state.persisting) then
    (.alreadyInitialized
      (((scopeEpoch state (.personal player)).or (scopeEpoch state .shared)).getD 0), state)
  else if !state.retired && (state.personal.lookup player).isSome && !replace then
    (.alreadyInitialized ((scopeEpoch state (.personal player)).getD 0), state)
  else
    let (epoch, state) := takeNextScopeEpoch (clearForPersonal state player)
    (.installed epoch, bumpLifecycleRevision
      { state with
        personal := AList.insert player loot state.personal
        scopeEpochs := AList.insert (.personal player) epoch state.scopeEpochs })

/-! ## Viewers -/

structure LootViewerOpenOutcome where
  generation : ℕ
  scope : OwnedLootScope
  inserted : Bool
  firstViewer : Bool
deriving DecidableEq

/-- Open one client view; `tryObserveBeforeUnlock` is the enqueue callback, and when
it refuses, the tentative changes are taken back. -/
def tryOpenViewWithSnapshotLikeCpp {R : Type} (state : AuthorityState) (player : ObjectGuid)
    (tryObserveBeforeUnlock : OwnedLootSnapshot → LootViewerOpenOutcome → Option R) :
    Except LootClaimError (LootViewerOpenOutcome × R) × AuthorityState :=
  if state.retired then (.error .retired, state)
  else match selectedScopeLikeCpp state player with
  | none => (.error .noLootForPlayer, state)
  | some scope =>
  match scopeEpoch state scope with
  | none => (.error .staleGeneration, state)
  | some generation =>
  match lootForScope state scope with
  | none => (.error .noLootForPlayer, state)
  | some loot =>
    let firstViewer := !loot.lootedByPlayer
    let inserted := !loot.playersLooting.contains player
    let opened : CreatureLoot :=
      { loot with
        lootedByPlayer := true
        playersLooting := if inserted then loot.playersLooting ++ [player] else loot.playersLooting }
    let outcome : LootViewerOpenOutcome := { generation, scope, inserted, firstViewer }
    match tryObserveBeforeUnlock { generation, scope, loot := opened } outcome with
    | some observed => (.ok (outcome, observed), setLootForScope state scope opened)
    | none =>
      let restored : CreatureLoot :=
        { opened with
          playersLooting :=
            if inserted then opened.playersLooting.filter (fun viewer => viewer != player)
            else opened.playersLooting
          lootedByPlayer := if firstViewer then false else opened.lootedByPlayer }
      (.error .responseEnqueueFailed, setLootForScope state scope restored)

def removeViewer (loot : CreatureLoot) (player : ObjectGuid) : CreatureLoot :=
  { loot with playersLooting := loot.playersLooting.filter (fun viewer => viewer != player) }

def removeViewerLikeCpp (state : AuthorityState) (player : ObjectGuid) : Bool × AuthorityState :=
  match selectedScopeLikeCpp state player with
  | none => (false, state)
  | some scope =>
  match lootForScope state scope with
  | none => (false, state)
  | some loot =>
    let closed := removeViewer loot player
    (loot.playersLooting.length != closed.playersLooting.length, setLootForScope state scope closed)

/-- The pool of the lifetime a session opened, if it is still the current one. -/
def poolIfGeneration (state : AuthorityState) (expectedGeneration : ℕ) (player : ObjectGuid) :
    Option (OwnedLootScope × CreatureLoot) := do
  if state.retired then none
  let scope ← selectedScopeLikeCpp state player
  if scopeEpoch state scope ≠ some expectedGeneration then none
  let loot ← lootForScope state scope
  return (scope, loot)

def removeViewerIfGenerationLikeCpp (state : AuthorityState) (expectedGeneration : ℕ)
    (player : ObjectGuid) : Option Bool × AuthorityState :=
  match poolIfGeneration state expectedGeneration player with
  | none => (none, state)
  | some (scope, loot) =>
    let closed := removeViewer loot player
    (some (loot.playersLooting.length != closed.playersLooting.length),
      setLootForScope state scope closed)

structure LootViewerCloseOutcome where
  snapshot : OwnedLootSnapshot
  removed : Bool
  wholeObjectFullyLooted : Bool
  objectGeneration : ℕ
  lifecycleRevision : ℕ
  wholeObjectFullySkinned : Bool
deriving DecidableEq

def closeViewerIfGenerationLikeCpp (state : AuthorityState) (expectedGeneration : ℕ)
    (player : ObjectGuid) : Option LootViewerCloseOutcome × AuthorityState :=
  match poolIfGeneration state expectedGeneration player with
  | none => (none, state)
  | some (scope, loot) =>
    let closed := removeViewer loot player
    let state := setLootForScope state scope closed
    (some
      { snapshot := { generation := expectedGeneration, scope, loot := closed }
        removed := loot.playersLooting.length != closed.playersLooting.length
        wholeObjectFullyLooted := activeLootPoolsFullyLootedLikeCpp state
        objectGeneration := state.generation
        lifecycleRevision := state.lifecycleRevision
        wholeObjectFullySkinned := activeLootPoolsFullySkinnedLikeCpp state },
      state)

structure LootRoundRobinReleaseOutcome where
  snapshot : OwnedLootSnapshot
  cleared : Bool
deriving DecidableEq

def clearRoundRobinIfGenerationLikeCpp (state : AuthorityState) (expectedGeneration : ℕ)
    (player : ObjectGuid) : Option LootRoundRobinReleaseOutcome × AuthorityState :=
  match poolIfGeneration state expectedGeneration player with
  | none => (none, state)
  | some (scope, loot) =>
    let cleared := loot.roundRobinPlayer == player
    let loot :=
      if cleared then { loot with roundRobinPlayer := ObjectGuid.empty } else loot
    (some { snapshot := { generation := expectedGeneration, scope, loot }, cleared },
      setLootForScope state scope loot)

/-! ## Rolls -/

/-- Publish a finished roll on the first item with this list id. -/
def setItemRoll (loot : CreatureLoot) (lootListId : ℕ) (blocked underThreshold : Bool)
    (rollWinner : ObjectGuid) : CreatureLoot :=
  { loot with
    items := modifyFirst (fun entry => entry.lootListId == lootListId)
      (fun entry =>
        { entry with
          flags := { entry.flags with blocked := blocked, underThreshold := underThreshold }
          rollWinner := rollWinner })
      loot.items }

def finishItemRollLikeCpp (state : AuthorityState) (player : ObjectGuid)
    (expectedGeneration lootListId : ℕ) (underThreshold : Bool) (winner : Option ObjectGuid) :
    Except LootClaimError Bool × AuthorityState :=
  if state.retired then (.error .retired, state)
  else match selectedScopeLikeCpp state player with
  | none => (.error .noLootForPlayer, state)
  | some scope =>
  if scopeEpoch state scope ≠ some expectedGeneration then (.error .staleGeneration, state)
  else match lootForScope state scope with
  | none => (.error .noLootForPlayer, state)
  | some loot =>
  match loot.itemLikeCpp lootListId with
  | none => (.error .itemNotFound, state)
  | some entry =>
    let winner := winner.getD ObjectGuid.empty
    (.ok (entry.flags.blocked || entry.flags.underThreshold != underThreshold ||
        entry.rollWinner != winner),
      setLootForScope state scope (setItemRoll loot lootListId false underThreshold winner))

/-- Publish a winning roll and reserve its item in one critical section; when the
reservation fails the roll fields are put back. -/
def finishItemRollAndReserveAwardLikeCpp (state : AuthorityState) (scopePlayer : ObjectGuid)
    (expectedGeneration lootListId : ℕ) (winner : ObjectGuid) :
    Except LootClaimError (ℕ × ℕ × ReservationKey × LootClaimPayload) × AuthorityState :=
  if state.retired then (.error .retired, state)
  else match selectedScopeLikeCpp state scopePlayer with
  | none => (.error .noLootForPlayer, state)
  | some scope =>
  if selectedScopeLikeCpp state winner ≠ some scope then (.error .noLootForPlayer, state)
  else if scopeEpoch state scope ≠ some expectedGeneration then (.error .staleGeneration, state)
  else match lootForScope state scope with
  | none => (.error .noLootForPlayer, state)
  | some loot =>
  match loot.itemLikeCpp lootListId with
  | none => (.error .itemNotFound, state)
  | some previous =>
    let state := setLootForScope state scope (setItemRoll loot lootListId false false winner)
    match reserveItemOnce state winner lootListId .award (some expectedGeneration) with
    | (.acquired generation token key payload, state) =>
      (.ok (generation, token, key, payload), state)
    | (_, state) =>
      (.error .itemAlreadyLooted,
        match lootForScope state scope with
        | none => state
        | some loot =>
          setLootForScope state scope (setItemRoll loot lootListId previous.flags.blocked
            previous.flags.underThreshold previous.rollWinner))

end RustyCore.Loot
