import RustyCore.Library.Run
import RustyCore.Model.Loot.Lifecycle

/-! # Claim leases and sessions

The durable phase of one claim and its resolution. Every status check of the source
is repeated under the authority lock, and the committed and quarantined statuses
are final, so each function below is one atomic step on the state and the lease. -/

namespace RustyCore.Loot

inductive LeaseStatus where
  | active
  | committed
  | rolledBack
  | quarantined
deriving DecidableEq

structure LootClaimLeaseInner where
  generation : ℕ
  token : ℕ
  key : ReservationKey
  player : ObjectGuid
  payload : LootClaimPayload
  status : LeaseStatus
deriving DecidableEq

def LootClaimLeaseInner.new (generation token : ℕ) (key : ReservationKey) (player : ObjectGuid)
    (payload : LootClaimPayload) : LootClaimLeaseInner :=
  { generation, token, key, player, payload, status := .active }

/-- The claim has crossed the durable boundary and its SQL is still in flight. -/
def isPersisting (state : AuthorityState) (lease : LootClaimLeaseInner) : Bool :=
  state.persisting.lookup lease.key == some lease.token

def beginClaimPersistence (state : AuthorityState) (lease : LootClaimLeaseInner) :
    Except LootClaimCommitError Unit × AuthorityState × LootClaimLeaseInner :=
  match lease.status with
  | .committed => (.error .stateChanged, state, lease)
  | .rolledBack => (.error .rolledBack, state, lease)
  | .quarantined => (.error .stateChanged, state, lease)
  | .active =>
    if isPersisting state lease then (.error .stateChanged, state, lease)
    else if state.retired ∨ scopeEpoch state (reservationScope lease.key) ≠ some lease.generation then
      (.error .staleGeneration, state, { lease with status := .rolledBack })
    else if state.reservations.lookup lease.key ≠ some lease.token then
      (.error .stateChanged, state, { lease with status := .rolledBack })
    else
      (.ok (), { state with persisting := AList.insert lease.key lease.token state.persisting },
        lease)

/-- Remove both entries of the lease's key. -/
def releaseKey (state : AuthorityState) (key : ReservationKey) : AuthorityState :=
  { state with
    persisting := AList.erase key state.persisting
    reservations := AList.erase key state.reservations }

def abortClaimPersistence (state : AuthorityState) (lease : LootClaimLeaseInner) :
    Bool × AuthorityState × LootClaimLeaseInner :=
  if lease.status ≠ .active ∨ !isPersisting state lease then (false, state, lease)
  else
    (true, finalizeClosedStateIfDrained (releaseKey state lease.key),
      { lease with status := .rolledBack })

def quarantineClaimPersistenceCommitUnknown (state : AuthorityState)
    (lease : LootClaimLeaseInner) : Bool × AuthorityState × LootClaimLeaseInner :=
  if lease.status ≠ .active ∨ !isPersisting state lease then (false, state, lease)
  else
    (true,
      finalizeClosedStateIfDrained
        { releaseKey state lease.key with retired := true, quarantined := true },
      { lease with status := .quarantined })

structure LootClaimCommitOutcome where
  firstCommit : Bool
  snapshot : Option OwnedLootSnapshot
deriving DecidableEq

/-- Apply the claim to its pool: mark the item, or take all the coins. -/
def applyClaim (lease : LootClaimLeaseInner) (loot : CreatureLoot) : Bool × CreatureLoot :=
  match lease.key with
  | .item key => loot.markItemLootedForPlayerLikeCpp key.lootListId lease.player
  | .money _ => (true, { loot with coins := 0 })

/-- The failure branches of a commit: the lease is rolled back, and only a
persistence-protected key leaves `persisting`. -/
def failCommit (state : AuthorityState) (lease : LootClaimLeaseInner)
    (persistenceProtected : Bool) : AuthorityState × LootClaimLeaseInner :=
  (if persistenceProtected then
      finalizeClosedStateIfDrained
        { state with persisting := AList.erase lease.key state.persisting }
    else state,
    { lease with status := .rolledBack })

def commitClaimWithSnapshot (state : AuthorityState) (lease : LootClaimLeaseInner)
    (persistenceOwner : Bool) :
    Except LootClaimCommitError LootClaimCommitOutcome × AuthorityState × LootClaimLeaseInner :=
  match lease.status with
  | .committed => (.ok { firstCommit := false, snapshot := none }, state, lease)
  | .rolledBack => (.error .rolledBack, state, lease)
  | .quarantined => (.error .stateChanged, state, lease)
  | .active =>
    let scope := reservationScope lease.key
    let persistenceProtected := isPersisting state lease
    if persistenceProtected && !persistenceOwner then (.error .stateChanged, state, lease)
    else if (state.retired && !persistenceProtected) ∨
        scopeEpoch state scope ≠ some lease.generation then
      (.error .staleGeneration, failCommit state lease persistenceProtected)
    else if state.reservations.lookup lease.key ≠ some lease.token then
      (.error .stateChanged, failCommit state lease persistenceProtected)
    else
      let (committed, state) :=
        match lootForScope state scope with
        | none => (false, state)
        | some loot =>
          let (marked, loot) := applyClaim lease loot
          (marked, setLootForScope state scope loot)
      -- The snapshot is taken before the keys are released and the state is drained.
      let committedSnapshot : Option OwnedLootSnapshot := do
        let generation ← scopeEpoch state scope
        let loot ← lootForScope state scope
        return { generation, scope, loot }
      let state := finalizeClosedStateIfDrained (releaseKey state lease.key)
      if committed then
        (.ok { firstCommit := true, snapshot := committedSnapshot }, state,
          { lease with status := .committed })
      else (.error .stateChanged, state, { lease with status := .rolledBack })

def rollbackClaim (state : AuthorityState) (lease : LootClaimLeaseInner) :
    Bool × AuthorityState × LootClaimLeaseInner :=
  if lease.status ≠ .active then (false, state, lease)
  -- The source looks at `persisting` once more below; after this test that look finds nothing.
  else if isPersisting state lease then (false, state, lease)
  else
    let removed := scopeEpoch state (reservationScope lease.key) = some lease.generation ∧
      state.reservations.lookup lease.key = some lease.token
    (removed,
      finalizeClosedStateIfDrained
        (if removed then
          { state with reservations := AList.erase lease.key state.reservations }
        else state),
      { lease with status := .rolledBack })

end RustyCore.Loot

/-! ## Interleavings on one authority

Sessions share one authority, its leases and their persistence guards. A step is
one critical section of one session; a run is any interleaving of such steps.
Leases and guards are never forgotten: dropping one only changes its counters. -/

namespace RustyCore.Loot

/-- One lease allocation with the number of `LootClaimLease` handles outside guards. -/
structure LeaseCell where
  inner : LootClaimLeaseInner
  handles : ℕ
deriving DecidableEq

/-- One persistence guard: the lease it holds a clone of, whether it was resolved,
and whether it still exists. -/
structure GuardCell where
  claim : ℕ
  resolved : Bool
  live : Bool
deriving DecidableEq

/-- The record of one commit that answered `first_commit = true`. -/
structure FirstCommit where
  scope : OwnedLootScope
  epoch : ℕ
  player : ObjectGuid
  payload : LootClaimPayload
deriving DecidableEq

/-- The record of one install: its epoch and the pools it put in place. -/
structure LootInstall where
  epoch : ℕ
  shared : Option CreatureLoot
  personal : Dict ObjectGuid CreatureLoot

def LootInstall.loot (install : LootInstall) : OwnedLootScope → Option CreatureLoot
  | .shared => install.shared
  | .personal player => install.personal.lookup player

structure World where
  state : AuthorityState
  leases : List LeaseCell
  guards : List GuardCell
  /-- Every first commit so far, newest last. -/
  commits : List FirstCommit
  /-- Every install so far, newest last. -/
  installs : List LootInstall

def World.init (state : AuthorityState) : World :=
  { state, leases := [], guards := [], commits := [], installs := [] }

inductive Op where
  | initializePristine (shared : Option CreatureLoot) (personal : Dict ObjectGuid CreatureLoot)
  | replaceRetiredGeneration (expected : ℕ) (shared : Option CreatureLoot)
      (personal : Dict ObjectGuid CreatureLoot)
  | replace (shared : Option CreatureLoot) (personal : Dict ObjectGuid CreatureLoot)
  | initializeShared (loot : CreatureLoot)
  | upsertPersonal (player : ObjectGuid) (loot : CreatureLoot) (replace : Bool)
  | retire
  | detach
  | detachIfStamp (expected : OwnedLootAuthorityStamp)
  | tryOpenView (player : ObjectGuid) (accept : Bool)
  | removeViewer (player : ObjectGuid)
  | removeViewerIfGeneration (expected : ℕ) (player : ObjectGuid)
  | closeViewerIfGeneration (expected : ℕ) (player : ObjectGuid)
  | clearRoundRobinIfGeneration (expected : ℕ) (player : ObjectGuid)
  | finishItemRoll (player : ObjectGuid) (expected lootListId : ℕ) (underThreshold : Bool)
      (winner : Option ObjectGuid)
  | finishItemRollAndReserveAward (scopePlayer : ObjectGuid) (expected lootListId : ℕ)
      (winner : ObjectGuid)
  | reserveItem (player : ObjectGuid) (lootListId : ℕ) (mode : LootItemClaimMode)
      (expected : Option ℕ)
  | reserveMoney (player : ObjectGuid) (expected : Option ℕ)
  | cloneLease (lease : ℕ)
  | dropLease (lease : ℕ)
  | beginPersistence (lease : ℕ)
  | commitLease (lease : ℕ)
  | rollbackLease (lease : ℕ)
  | commitGuard (guard : ℕ)
  | quarantineGuard (guard : ℕ)
  | dropGuard (guard : ℕ)

/-- The player an operation reserves for. -/
def Op.claimant : Op → Option ObjectGuid
  | .reserveItem player _ _ _ => some player
  | .reserveMoney player _ => some player
  | .finishItemRollAndReserveAward _ _ _ winner => some winner
  | _ => none

/-- Strong count of a lease allocation: its handles and the guards that hold a clone. -/
def strongCount (leases : List LeaseCell) (guards : List GuardCell) (lease : ℕ) : ℕ :=
  (leases[lease]?.elim 0 LeaseCell.handles) +
    guards.countP (fun guard => guard.live && guard.claim == lease)

namespace World

variable (w : World)

/-- The lease behind a handle some session still holds. -/
def leaseOf (lease : ℕ) : Option LootClaimLeaseInner := do
  let cell ← w.leases[lease]?
  if cell.handles = 0 then none
  return cell.inner

/-- The guard behind a handle some session still holds, with its lease. -/
def guardOf (guard : ℕ) : Option (GuardCell × LootClaimLeaseInner) := do
  let cell ← w.guards[guard]?
  if !cell.live then none
  let lease ← w.leases[cell.claim]?
  return (cell, lease.inner)

def setState (state : AuthorityState) : World := { w with state }

def setInner (lease : ℕ) (inner : LootClaimLeaseInner) : World :=
  { w with leases := w.leases.modify lease (fun cell => { cell with inner }) }

def setHandles (lease : ℕ) (f : ℕ → ℕ) : World :=
  { w with leases := w.leases.modify lease (fun cell => { cell with handles := f cell.handles }) }

def setGuard (guard : ℕ) (f : GuardCell → GuardCell) : World :=
  { w with guards := w.guards.modify guard f }

/-- Hand a new lease to the caller of a successful reservation. -/
def addLease (generation token : ℕ) (key : ReservationKey) (player : ObjectGuid)
    (payload : LootClaimPayload) : World :=
  { w with leases := w.leases ++
      [{ inner := .new generation token key player payload, handles := 1 }] }

def addInstall (epoch : ℕ) (shared : Option CreatureLoot)
    (personal : Dict ObjectGuid CreatureLoot) : World :=
  { w with installs := w.installs ++ [{ epoch, shared, personal }] }

/-- Record the pools of an install that took place. -/
def install (shared : Option CreatureLoot) (personal : Dict ObjectGuid CreatureLoot)
    (result : LootInstallOutcome × AuthorityState) : World :=
  match result with
  | (.installed epoch, state) => (w.setState state).addInstall epoch shared personal
  | (.alreadyInitialized _, state) => w.setState state

/-- Record a commit that answered `first_commit = true`. -/
def logCommit (lease : LootClaimLeaseInner)
    (result : Except LootClaimCommitError LootClaimCommitOutcome) : World :=
  match result with
  | .ok outcome =>
    if outcome.firstCommit then
      { w with commits := w.commits ++
          [{ scope := reservationScope lease.key, epoch := lease.generation,
             player := lease.player, payload := lease.payload }] }
    else w
  | .error _ => w

/-- `Drop for LootClaimLeaseInner`: the last handle is gone, so the claim rolls back. -/
def dropInnerIfUnused (lease : ℕ) : World :=
  match w.leases[lease]? with
  | none => w
  | some cell =>
    if strongCount w.leases w.guards lease = 0 then
      let (_, state, inner) := rollbackClaim w.state cell.inner
      (w.setState state).setInner lease inner
    else w

/-- A session reserves: on success the new lease is its own. -/
def reserve (player : ObjectGuid) (attempt : ReserveAttempt × AuthorityState) : World :=
  match attempt with
  | (.acquired generation token key payload, state) =>
    (w.setState state).addLease generation token key player payload
  | (_, state) => w.setState state

def step (w : World) : Op → World
  | .initializePristine shared personal =>
    w.install shared personal (initializePristineLikeCpp w.state shared personal)
  | .replaceRetiredGeneration expected shared personal =>
    match replaceRetiredGenerationLikeCpp w.state expected shared personal with
    | (some epoch, state) => (w.setState state).addInstall epoch shared personal
    | (none, state) => w.setState state
  | .replace shared personal =>
    -- Epoch zero is the refusal; an installed epoch is never zero.
    match replaceLikeCpp w.state shared personal with
    | (0, state) => w.setState state
    | (epoch + 1, state) => (w.setState state).addInstall (epoch + 1) shared personal
  | .initializeShared loot => w.install (some loot) ∅ (initializeSharedLikeCpp w.state loot)
  | .upsertPersonal player loot replace =>
    w.install none (AList.insert player loot ∅)
      (upsertPersonalLikeCpp w.state player loot replace)
  | .retire => w.setState (retireLikeCpp w.state).2
  | .detach => w.setState (detachLikeCpp w.state).2
  | .detachIfStamp expected => w.setState (detachIfStampLikeCpp w.state expected).2
  | .tryOpenView player accept =>
    w.setState (tryOpenViewWithSnapshotLikeCpp w.state player
      (fun _ _ => if accept then some () else none)).2
  | .removeViewer player => w.setState (removeViewerLikeCpp w.state player).2
  | .removeViewerIfGeneration expected player =>
    w.setState (removeViewerIfGenerationLikeCpp w.state expected player).2
  | .closeViewerIfGeneration expected player =>
    w.setState (closeViewerIfGenerationLikeCpp w.state expected player).2
  | .clearRoundRobinIfGeneration expected player =>
    w.setState (clearRoundRobinIfGenerationLikeCpp w.state expected player).2
  | .finishItemRoll player expected lootListId underThreshold winner =>
    w.setState (finishItemRollLikeCpp w.state player expected lootListId underThreshold winner).2
  | .finishItemRollAndReserveAward scopePlayer expected lootListId winner =>
    match finishItemRollAndReserveAwardLikeCpp w.state scopePlayer expected lootListId winner with
    | (.ok (generation, token, key, payload), state) =>
      (w.setState state).addLease generation token key winner payload
    | (.error _, state) => w.setState state
  | .reserveItem player lootListId mode expected =>
    w.reserve player (reserveItemOnce w.state player lootListId mode expected)
  | .reserveMoney player expected =>
    w.reserve player (reserveMoneyOnce w.state player expected)
  | .cloneLease lease =>
    match w.leaseOf lease with
    | none => w
    | some _ => w.setHandles lease (· + 1)
  | .dropLease lease =>
    match w.leaseOf lease with
    | none => w
    | some _ => (w.setHandles lease (· - 1)).dropInnerIfUnused lease
  | .beginPersistence lease =>
    match w.leaseOf lease with
    | none => w
    | some inner =>
      match beginClaimPersistence w.state inner with
      | (.ok (), state, inner) =>
        let w := (w.setState state).setInner lease inner
        { w with guards := w.guards ++ [{ claim := lease, resolved := false, live := true }] }
      | (.error _, state, inner) => (w.setState state).setInner lease inner
  | .commitLease lease =>
    match w.leaseOf lease with
    | none => w
    | some inner =>
      let (result, state, inner') := commitClaimWithSnapshot w.state inner false
      ((w.setState state).setInner lease inner').logCommit inner result
  | .rollbackLease lease =>
    match w.leaseOf lease with
    | none => w
    | some inner =>
      let (_, state, inner) := rollbackClaim w.state inner
      (w.setState state).setInner lease inner
  | .commitGuard guard =>
    match w.guardOf guard with
    | none => w
    | some (cell, inner) =>
      let (result, state, inner') := commitClaimWithSnapshot w.state inner true
      (((w.setState state).setInner cell.claim inner').setGuard guard
        (fun cell => { cell with resolved := cell.resolved || result.isOk })).logCommit inner result
  | .quarantineGuard guard =>
    match w.guardOf guard with
    | none => w
    | some (cell, inner) =>
      let (quarantined, state, inner) := quarantineClaimPersistenceCommitUnknown w.state inner
      ((w.setState state).setInner cell.claim inner).setGuard guard
        (fun cell => { cell with resolved := cell.resolved || quarantined })
  | .dropGuard guard =>
    match w.guardOf guard with
    | none => w
    | some (cell, inner) =>
      let aborted :=
        if cell.resolved then w
        else
          let (_, state, inner) := abortClaimPersistence w.state inner
          (w.setState state).setInner cell.claim inner
      (aborted.setGuard guard (fun cell => { cell with live := false })).dropInnerIfUnused
        cell.claim

end World

end RustyCore.Loot
