import RustyCore.Model.BattlePets.Purchase

/-! # Runs of purchases

The two databases, the account owners of the process and their add workers. A character has
one session at a time; the session may be stopped wherever it awaits, and its workers run on. -/

namespace RustyCore.BattlePets

/-! ## State -/

inductive PersistOutcome where
  | inserted
  | replayed (pet : DurablePetRow) (stillPresent : Bool)
deriving DecidableEq

/-- Where `finish_add_pet_like_cpp` awaits. -/
inductive WorkerStage where
  | allocating
  | finding (row : DurablePetRow)
  | inserting (row : DurablePetRow)
  | reconciling (row : DurablePetRow)
  | finishing (result : Except PersistenceError (DurablePetRow × PersistOutcome))
  | finished (result : Except AddFailure AddOutcome)

/-- A detached add worker. -/
structure AddWorker where
  account : ℕ
  request : AddRequest
  fence : ℕ
  stage : WorkerStage

/-- The request is among the pending adds of its owner. -/
def AddWorker.isPending (worker : AddWorker) : Bool :=
  match worker.stage with
  | .finished _ => false
  | _ => true

/-- The transaction of the worker is not decided yet. -/
def AddWorker.mayInsert (worker : AddWorker) : Bool :=
  match worker.stage with
  | .allocating | .finding _ | .inserting _ => true
  | .reconciling _ | .finishing _ | .finished _ => false

structure PurchaseState where
  character : CharacterDb
  receipts : KeyedTable AddReceipt.requestKey
  /-- The requests for which a pet was inserted, which no code reads. -/
  createdPets : List RequestKey
  /-- `battle_pet_account_fences`. -/
  generation : ℕ → ℕ
  /-- The fence of the process lease that the owner of the account holds. -/
  processLease : ℕ → Option ℕ
  completedAdds : ℕ → List (RequestKey × DurablePetRow)
  workers : List AddWorker

namespace PurchaseState

def pendingAdd (s : PurchaseState) (account : ℕ) (requestKey : RequestKey) : Option AddWorker :=
  s.workers.find? fun worker =>
    worker.account = account && worker.request.requestKey = requestKey && worker.isPending

def hasPendingAdds (s : PurchaseState) (account : ℕ) : Bool :=
  s.workers.any fun worker => worker.account = account && worker.isPending

def findCompleted (s : PurchaseState) (account : ℕ) (requestKey : RequestKey) :
    Option DurablePetRow :=
  (s.completedAdds account).lookup requestKey

def addCompleted (s : PurchaseState) (account : ℕ) (requestKey : RequestKey)
    (durable : DurablePetRow) : PurchaseState :=
  { s with
    completedAdds := Function.update s.completedAdds account
      ((requestKey, durable) :: s.completedAdds account) }

/-- The durable part of `try_acquire_process_lease`: the next generation of the account. -/
def advanceFence (s : PurchaseState) (account : ℕ) : PurchaseState :=
  { s with generation := Function.update s.generation account (s.generation account + 1) }

/-- `ensure_process_lease_like_cpp` acquires and reloads; with adds pending it gives up. -/
def reacquire (s : PurchaseState) (account : ℕ) : PurchaseState :=
  let s := s.advanceFence account
  if s.hasPendingAdds account then s
  else { s with
    processLease := Function.update s.processLease account (some (s.generation account))
    completedAdds := Function.update s.completedAdds account [] }

def loseLease (s : PurchaseState) (account : ℕ) : PurchaseState :=
  { s with processLease := Function.update s.processLease account none }

end PurchaseState

/-! ## Replies -/

/-- What decides a reply besides the state: whether the database answers, and whether a
transaction is committed when its reply is lost; what a failed read or a refusal says;
whether the pet of a receipt is still there, and in which state. -/
structure Circumstance where
  answered : Bool
  committed : Bool
  granted : Bool
  storeError : StoreError
  refusal : Option AddFailure
  persistenceError : Option PersistenceError
  currentPet : Option DurablePetRow
  guidCounter : ℕ

namespace PurchaseState

/-- `validate_process_add_lease_like_cpp`; another session may hold the journal lease. -/
def validateProcessAddLease (s : PurchaseState) (account : ℕ) (w : Circumstance) :
    Except AddFailure ℕ :=
  match s.processLease account with
  | none => .error .missingAuthority
  | some fence => if w.granted then .ok fence else .error .journalLocked

def commitReply (s : PurchaseState) (transaction : CharacterTransaction) (w : Circumstance) :
    CommitReply × PurchaseState :=
  match transaction.apply s.character with
  | none => (if w.answered then .definitelyRolledBack else .outcomeUnknown, s)
  | some character =>
    if w.answered then
      if w.granted then (.ok, { s with character }) else (.definitelyRolledBack, s)
    else (.outcomeUnknown, if w.committed then { s with character } else s)

/-- `find_request_like_cpp` with the pet of the receipt as it is now. -/
def findRequest (s : PurchaseState) (requestKey : RequestKey) (w : Circumstance) :
    Option (ℕ × FoundReceipt) :=
  (s.receipts.find requestKey).map fun receipt => (receipt.accountId, ⟨receipt.pet, w.currentPet⟩)

/-- `lookup_add_request`. -/
def lookupReply (s : PurchaseState) (account : ℕ) (requestKey : RequestKey) (w : Circumstance) :
    Except PersistenceError (Option FoundReceipt) :=
  if !w.answered then .error .database
  else
    match s.findRequest requestKey w with
    | none => .ok none
    | some (receiptAccount, receipt) =>
      if receiptAccount ≠ account then .error .duplicateRequest else .ok (some receipt)

/-- The last step of a replay in `try_add_pet_like_cpp`; the owner may be busy with the pet,
or may not have it. -/
def replayReply (s : PurchaseState) (account : ℕ) (requestKey : RequestKey)
    (receipt : FoundReceipt) (w : Circumstance) : Except AddFailure Unit × PurchaseState :=
  match s.validateProcessAddLease account w with
  | .error failure => (.error failure, s)
  | .ok _ =>
    match w.refusal with
    | some .busy => (.error .busy, s)
    | some _ => (.error .duplicateRequest, s)
    | none => (.ok (), s.addCompleted account requestKey receipt.requestedPet)

/-- The loop of `try_add_pet_like_cpp` that reserves the request; while a worker has it, the
session waits. The species and its cap are not of this model, so that they refuse at will. -/
def reserveReply (catalog : Catalog) (s : PurchaseState) (account : ℕ) (request : AddRequest)
    (w : Circumstance) : Option (Except AddFailure Reservation × PurchaseState) :=
  match s.validateProcessAddLease account w with
  | .error failure => some (.error failure, s)
  | .ok fence =>
    match s.findCompleted account request.requestKey with
    | some durable =>
      if request.matchesDurable catalog durable then some (.ok .replayed, s)
      else some (.error .duplicateRequest, s)
    | none =>
      match s.pendingAdd account request.requestKey with
      | some worker =>
        if worker.request ≠ request then some (.error .duplicateRequest, s) else none
      | none =>
        match w.refusal with
        | some .missingAuthority => some (.error .missingAuthority, s)
        | some .capacity => some (.error .capacity, s)
        | some _ => some (.error .invalidSpecies, s)
        | none => some (.ok .reserved,
            { s with workers := s.workers ++ [⟨account, request, fence, .allocating⟩] })

/-- The result of the worker that the session waits for. -/
def joinReply (s : PurchaseState) (account : ℕ) (requestKey : RequestKey) :
    Option (Except AddFailure AddOutcome × PurchaseState) :=
  match s.workers.reverse.find? fun worker =>
      worker.account = account && worker.request.requestKey = requestKey with
  | none => some (.error .databaseFailure, s)
  | some worker =>
    match worker.stage with
    | .finished result => some (result, s)
    | _ => none

/-- `try_acquire_process_lease` for a probe; the owner of the account excludes it. -/
def acquireReply (s : PurchaseState) (account : ℕ) (w : Circumstance) :
    Except PersistenceError Bool × PurchaseState :=
  if !w.answered then (.error .database, if w.committed then s.advanceFence account else s)
  else if (s.processLease account).isSome || !w.granted then (.ok false, s)
  else (.ok true, s.advanceFence account)

/-- `try_acquire_lease_like_cpp`; `granted` when no other session holds the journal. -/
def journalLeaseReply (s : PurchaseState) (account : ℕ) (w : Circumstance) :
    Bool × PurchaseState :=
  if (s.processLease account).isSome then (w.granted, s)
  else if w.answered then
    let s := s.reacquire account
    ((s.processLease account).isSome && w.granted, s)
  else (false, if w.committed then s.advanceFence account else s)

end PurchaseState

open PurchaseState in
/-- The reply to a call and the state after it; a call that waits has none. -/
def perform (catalog : Catalog) :
    (call : Call) → Circumstance → PurchaseState → Option (Reply call × PurchaseState)
  | .commit transaction, w, s => some (s.commitReply transaction w)
  | .loadCommand requestKey, w, s =>
    some (if w.answered then .ok (s.character.commands.find requestKey)
      else .error w.storeError, s)
  | .loadMoney, w, s =>
    some (if w.answered then .ok s.character.money else .error w.storeError, s)
  | .loadPending limit, w, s =>
    some (if w.answered then .ok (s.character.pendingCommands limit)
      else .error w.storeError, s)
  | .beginExclusiveMoney, w, s => some (w.granted, s)
  | .stageMoney, w, s => some (w.granted, s)
  | .publish, w, s => some (w.granted, s)
  | .acquireJournalLease account, w, s => some (s.journalLeaseReply account w)
  | .beginAdd account requestKey, w, s =>
    some ((s.validateProcessAddLease account w).map fun _ => s.findCompleted account requestKey, s)
  | .completedAdd account requestKey, _, s => some (s.findCompleted account requestKey, s)
  | .lookupAddRequest _ account requestKey, w, s => some (s.lookupReply account requestKey w, s)
  | .replayAdd account requestKey receipt, w, s => some (s.replayReply account requestKey receipt w)
  | .reserveAdd account request, w, s => s.reserveReply catalog account request w
  | .joinAdd account requestKey, _, s => s.joinReply account requestKey
  | .acquireProcessLease account, w, s => some (s.acquireReply account w)

/-! ## Workers -/

namespace AddWorker

/-- What a worker makes of a receipt that is there before its own. -/
def replayOf (worker : AddWorker) (row : DurablePetRow) (found : ℕ × FoundReceipt) :
    Except PersistenceError (DurablePetRow × PersistOutcome) :=
  if found.1 = worker.account && addRequestMatches row found.2.requestedPet then
    .ok (row, .replayed found.2.requestedPet found.2.currentPet.isSome)
  else .error .duplicateRequest

/-- The transaction of `insert_pet_idempotently`; none when it is rolled back with an error. -/
def insertPet (worker : AddWorker) (row : DurablePetRow) (s : PurchaseState) (w : Circumstance) :
    Except (Except PersistenceError (DurablePetRow × PersistOutcome)) PurchaseState :=
  if s.generation worker.account ≠ worker.fence then .error (.error .staleAuthority)
  else
    match s.findRequest worker.request.requestKey w with
    | some found => .error (worker.replayOf row found)
    | none =>
      match w.persistenceError with
      | some error => .error (.error error)
      | none =>
        match s.receipts.insert ⟨worker.request.requestKey, worker.account, row⟩ with
        | none => .error (.error .guidCollision)
        | some receipts => .ok { s with
            receipts, createdPets := worker.request.requestKey :: s.createdPets }

/-- The publication of `finish_add_pet_like_cpp`, after the fence was checked again. -/
def finish (worker : AddWorker) (s : PurchaseState)
    (result : Except PersistenceError (DurablePetRow × PersistOutcome)) :
    Except AddFailure AddOutcome × PurchaseState :=
  match result with
  | .error error => (.error error.addFailure, s)
  | .ok (row, outcome) =>
    if s.processLease worker.account ≠ some worker.fence then (.error .missingAuthority, s)
    else
      match outcome with
      | .inserted => (.ok .added, s.addCompleted worker.account worker.request.requestKey row)
      | .replayed pet true =>
        (.ok .replayed, s.addCompleted worker.account worker.request.requestKey pet)
      | .replayed _ false => (.error .duplicateRequest, s)

/-- One step of the worker: where it is then, and the state. -/
def step (catalog : Catalog) (worker : AddWorker) (w : Circumstance) (s : PurchaseState) :
    WorkerStage × PurchaseState :=
  match worker.stage with
  | .allocating =>
    match w.persistenceError, durableNewPet catalog w.guidCounter worker.request with
    | some error, _ => (.finishing (.error error), s)
    | none, .error .guidCollision => (.finishing (.error .guidCollision), s)
    | none, .error _ => (.finishing (.error .database), s)
    | none, .ok row => (.finding row, s)
  | .finding row =>
    if !w.answered then (.finishing (.error .database), s)
    else
      match s.findRequest worker.request.requestKey w with
      | some found => (.finishing (worker.replayOf row found), s)
      | none => (.inserting row, s)
  | .inserting row =>
    match worker.insertPet row s w with
    | .error result => (.finishing result, s)
    | .ok s' =>
      if w.answered then (.finishing (.ok (row, .inserted)), s')
      else (.reconciling row, if w.committed then s' else s)
  | .reconciling row =>
    if !w.answered then (.finishing (.error .database), s)
    else
      match s.findRequest worker.request.requestKey w with
      | none => (.finishing (.error .database), s)
      | some found =>
        if found.1 = worker.account && addRequestMatches row found.2.requestedPet &&
            found.2.currentPet.isSome then
          (.finishing (.ok (row, .inserted)), s)
        else (.finishing (.error .duplicateRequest), s)
  | .finishing result =>
    let (result, s) := worker.finish s result
    (.finished result, s)
  | .finished result => (.finished result, s)

end AddWorker

def PurchaseState.stepWorker (catalog : Catalog) (s : PurchaseState) (i : ℕ) (w : Circumstance) :
    PurchaseState :=
  match s.workers[i]? with
  | none => s
  | some worker =>
    let (stage, s) := worker.step catalog w s
    { s with workers := s.workers.set i { worker with stage } }

/-! ## Events -/

/-- A session of the character, and what it awaits. -/
structure Session where
  account : ℕ
  task : Task Unit

structure PurchaseSystem where
  state : PurchaseState
  session : Option Session

inductive PurchaseEvent where
  /-- A login under an account, which begins with the recovery. -/
  | login (account : ℕ)
  /-- A purchase by an idle session, under a new request key. -/
  | purchase (offer : PurchaseOffer) (requestKey : RequestKey)
  /-- The call that the session awaits is replied to. -/
  | reply (w : Circumstance)
  /-- The session ends where it awaits. -/
  | stop
  | work (i : ℕ) (w : Circumstance)
  /-- The process lease of an account is lost or given back. -/
  | loseLease (account : ℕ)
  /-- Another session of an account acquires the lease and reloads the journal. -/
  | reacquire (account : ℕ)
  /-- Another process acquires the account. -/
  | otherProcess (account : ℕ)
  /-- The money of the character changes by other means, or its row goes. -/
  | changeMoney (money : Option ℕ)
  /-- The process ends with everything in memory. -/
  | crash

/-- A request key that was never used. -/
def PurchaseState.isFresh (s : PurchaseState) (requestKey : RequestKey) : Bool :=
  (s.character.commands.find requestKey).isNone && (s.receipts.find requestKey).isNone &&
    !s.workers.any fun worker => worker.request.requestKey = requestKey

section Step

variable (catalog : Catalog) (playerGuid : ObjectGuid)

/-- Other parts of the server move. -/
def PurchaseState.interfere (s : PurchaseState) : PurchaseEvent → PurchaseState
  | .work i w => s.stepWorker catalog i w
  | .loseLease account => s.loseLease account
  | .reacquire account => if (s.processLease account).isSome then s else s.reacquire account
  | .otherProcess account => s.advanceFence account
  | .changeMoney money => { s with character := { s.character with money } }
  | _ => s

def PurchaseSystem.step (system : PurchaseSystem) : PurchaseEvent → PurchaseSystem
  | .login account =>
    match system.session with
    | some _ => system
    | none => { system with session := some ⟨account, do
        let _ ← recoverPurchases catalog playerGuid account⟩ }
  | .purchase offer requestKey =>
    match system.session with
    | some ⟨account, .done ()⟩ =>
      if system.state.isFresh requestKey then
        { system with session := some ⟨account, do
          let _ ← executePurchase catalog playerGuid account offer requestKey⟩ }
      else system
    | _ => system
  | .reply w =>
    match system.session with
    | some ⟨account, .call call next⟩ =>
      match perform catalog call w system.state with
      | none => system
      | some (reply, state) => ⟨state, some ⟨account, next reply⟩⟩
    | _ => system
  | .stop => { system with session := none }
  | .crash =>
    { system with
      session := none
      state := { system.state with
        processLease := fun _ => none, completedAdds := fun _ => [], workers := [] } }
  | event => { system with state := system.state.interfere catalog event }

end Step

/-- The server before the first purchase of the character. -/
def PurchaseState.initial (money : Option ℕ) (generation : ℕ → ℕ) : PurchaseState where
  character := ⟨money, .empty, []⟩
  receipts := .empty
  createdPets := []
  generation
  processLease _ := none
  completedAdds _ := []
  workers := []

def PurchaseSystem.initial (money : Option ℕ) (generation : ℕ → ℕ) : PurchaseSystem :=
  ⟨.initial money generation, none⟩

end RustyCore.BattlePets
