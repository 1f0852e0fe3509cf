import RustyCore.Library.Await
import RustyCore.Model.BattlePets.PurchaseCommand

/-! # Battle-pet purchases

The live purchase, the recovery at login and the compensation, as programs over the calls
that they await: statements on the two databases and questions to the account owner. -/

namespace RustyCore.BattlePets

/-- The reply to a `COMMIT`. -/
inductive CommitReply where
  | ok
  | definitelyRolledBack
  | outcomeUnknown
deriving DecidableEq

/-- `DurableBattlePetAddReceiptLikeCpp`. -/
structure FoundReceipt where
  requestedPet : DurablePetRow
  currentPet : Option DurablePetRow
deriving DecidableEq

inductive AddOutcome where
  | added
  | replayed
deriving DecidableEq

/-- For whom a receipt is looked up. -/
inductive ReceiptReader where
  | add
  | probe
  | fencedProbe
deriving DecidableEq

/-- What a session awaits. -/
inductive Call where
  | commit (transaction : CharacterTransaction)
  | loadCommand (requestKey : RequestKey)
  | loadMoney
  | loadPending (limit : ℕ)
  | beginExclusiveMoney
  | stageMoney
  | publish
  | acquireJournalLease (account : ℕ)
  | beginAdd (account : ℕ) (requestKey : RequestKey)
  | completedAdd (account : ℕ) (requestKey : RequestKey)
  | lookupAddRequest (reader : ReceiptReader) (account : ℕ) (requestKey : RequestKey)
  | replayAdd (account : ℕ) (requestKey : RequestKey) (receipt : FoundReceipt)
  | reserveAdd (account : ℕ) (request : AddRequest)
  | joinAdd (account : ℕ) (requestKey : RequestKey)
  | acquireProcessLease (account : ℕ)

/-- What the owner says of a request before it creates a pet for it. -/
inductive Reservation where
  | replayed
  | reserved
deriving DecidableEq

def Reply : Call → Type
  | .commit _ => CommitReply
  | .loadCommand _ => Except StoreError (Option PurchaseCommand)
  | .loadMoney => Except StoreError (Option ℕ)
  | .loadPending _ => Except StoreError (List PurchaseCommand)
  | .beginExclusiveMoney => Bool
  | .stageMoney => Bool
  | .publish => Bool
  | .acquireJournalLease _ => Bool
  | .beginAdd _ _ => Except AddFailure (Option DurablePetRow)
  | .completedAdd _ _ => Option DurablePetRow
  | .lookupAddRequest _ _ _ => Except PersistenceError (Option FoundReceipt)
  | .replayAdd _ _ _ => Except AddFailure Unit
  | .reserveAdd _ _ => Except AddFailure Reservation
  | .joinAdd _ _ => Except AddFailure AddOutcome
  | .acquireProcessLease _ => Except PersistenceError Bool

abbrev Task := Await Call Reply

def commit (transaction : CharacterTransaction) : Task CommitReply :=
  Await.ask (R := Reply) (.commit transaction)

def loadCommand (requestKey : RequestKey) : Task (Except StoreError (Option PurchaseCommand)) :=
  Await.ask (R := Reply) (.loadCommand requestKey)

/-- `load_character_money_impl`. -/
def loadCharacterMoney : Task (Except StoreError (Option ℕ)) := Await.ask (R := Reply) .loadMoney

def loadPendingCommands (limit : ℕ) : Task (Except StoreError (List PurchaseCommand)) :=
  Await.ask (R := Reply) (.loadPending limit)

def beginExclusiveMoney : Task Bool := Await.ask (R := Reply) .beginExclusiveMoney

def stageMoney : Task Bool := Await.ask (R := Reply) .stageMoney

/-- `publish_battle_pet_trainer_purchase_like_cpp`. -/
def publish : Task Bool := Await.ask (R := Reply) .publish

def acquireJournalLease (account : ℕ) : Task Bool :=
  Await.ask (R := Reply) (.acquireJournalLease account)

/-- The lease and the completed adds, under one lock. -/
def beginAdd (account : ℕ) (requestKey : RequestKey) :
    Task (Except AddFailure (Option DurablePetRow)) :=
  Await.ask (R := Reply) (.beginAdd account requestKey)

def completedAdd (account : ℕ) (requestKey : RequestKey) : Task (Option DurablePetRow) :=
  Await.ask (R := Reply) (.completedAdd account requestKey)

def lookupAddRequest (reader : ReceiptReader) (account : ℕ) (requestKey : RequestKey) :
    Task (Except PersistenceError (Option FoundReceipt)) :=
  Await.ask (R := Reply) (.lookupAddRequest reader account requestKey)

def replayAdd (account : ℕ) (requestKey : RequestKey) (receipt : FoundReceipt) :
    Task (Except AddFailure Unit) :=
  Await.ask (R := Reply) (.replayAdd account requestKey receipt)

def reserveAdd (account : ℕ) (request : AddRequest) : Task (Except AddFailure Reservation) :=
  Await.ask (R := Reply) (.reserveAdd account request)

def joinAdd (account : ℕ) (requestKey : RequestKey) : Task (Except AddFailure AddOutcome) :=
  Await.ask (R := Reply) (.joinAdd account requestKey)

def tryAcquireProcessLease (account : ℕ) : Task (Except PersistenceError Bool) :=
  Await.ask (R := Reply) (.acquireProcessLease account)

/-! ## The store of the commands -/

def chargeAndInsertCommand (command : PurchaseCommand) :
    Task (Except StoreError ChargeOutcome) := do
  match ← commit (.charge command) with
  | .ok => return .ok .charged
  | .definitelyRolledBack | .outcomeUnknown =>
    match ← loadCommand command.requestKey with
    | .ok row => return .ok (reconcileCharge row command)
    | .error _ => return .error .indeterminate

def markPublished (requestKey : RequestKey) : Task (Except StoreError MarkOutcome) := do
  match ← commit (.published requestKey) with
  | .ok => return .ok .applied
  | .definitelyRolledBack | .outcomeUnknown =>
    match ← loadCommand requestKey with
    | .ok (some row) =>
      if row.published then return .ok .alreadyApplied
      else if row.status.isTerminal && row.status != .completed then return .error .terminal
      else return .error .retryable
    | .ok none => return .error .terminal
    | .error error => return .error error

/-- The commit of a mark and, where it is not acknowledged, its reconciliation. -/
def commitMark (transaction : CharacterTransaction) (requestKey : RequestKey)
    (target : PurchaseStatus) : Task (Except StoreError MarkOutcome) := do
  match ← commit transaction with
  | .ok => return .ok .applied
  | .definitelyRolledBack | .outcomeUnknown =>
    match ← loadCommand requestKey with
    | .ok row => return reconcileMark row .pendingApplication target
    | .error error => return .error error

def markCompleted (requestKey : RequestKey) : Task (Except StoreError MarkOutcome) :=
  commitMark (.completed requestKey) requestKey .completed

def markCompensationPending (requestKey : RequestKey) (reason : String) :
    Task (Except StoreError MarkOutcome) :=
  commitMark (.compensationPending requestKey reason) requestKey .compensationPending

/-- The durable money after a refund that is known to be committed. -/
def refundedMoney (outcome : ℕ → CompensationOutcome) :
    Task (Except StoreError CompensationOutcome) := do
  match ← loadCharacterMoney with
  | .ok (some money) => return .ok (outcome money)
  | .ok none | .error _ => return .error .indeterminate

/-- `compensate`: the refund and the status in one transaction. -/
def compensate (requestKey : RequestKey) (maxMoney : ℕ) :
    Task (Except StoreError CompensationOutcome) := do
  match ← loadCommand requestKey with
  | .error error => return .error error
  | .ok none => return .error .terminal
  | .ok (some command) =>
    match command.status with
    | .compensated =>
      match ← loadCharacterMoney with
      | .ok (some money) => return .ok (.alreadyCompensated money)
      | .ok none => return .error .terminal
      | .error error => return .error error
    | .completed => return .ok .conflictedCompleted
    | .pendingApplication | .terminalFailure => return .error .terminal
    | .compensationPending =>
      match ← commit (.compensated requestKey command.price maxMoney) with
      | .ok => refundedMoney .compensated
      | reply =>
        let unknown : StoreError → StoreError := fun error =>
          if reply = .outcomeUnknown then .indeterminate else error
        match ← loadCommand requestKey with
        | .ok (some row) =>
          match row.status with
          | .compensated => refundedMoney .alreadyCompensated
          | .completed => return .ok .conflictedCompleted
          | .compensationPending =>
            match ← loadCharacterMoney with
            | .ok none => return .ok .characterMissing
            | .ok (some _) => return .error .retryable
            | .error error => return .error (unknown error)
          | .pendingApplication | .terminalFailure => return .error .terminal
        | .ok none => return .error (unknown .terminal)
        | .error error => return .error (unknown error)

def markTerminalFailure (requestKey : RequestKey) (reason : String) :
    Task (Except StoreError Unit) := do
  match ← commit (.terminalFailure requestKey reason) with
  | .ok => return .ok ()
  | .definitelyRolledBack | .outcomeUnknown =>
    match ← loadCommand requestKey with
    | .ok (some row) =>
      if row.status = .terminalFailure then return .ok () else return .error .retryable
    | .ok none | .error _ => return .error .retryable

/-! ## The account owner -/

/-- `try_add_pet_like_cpp`. The pet is created by a worker of its own; the session waits for
it, or for the one that works on the same request. -/
def tryAddPet (catalog : Catalog) (account : ℕ) (request : AddRequest) :
    Task (Except AddFailure AddOutcome) := do
  match ← beginAdd account request.requestKey with
  | .error failure => return .error failure
  | .ok (some durable) =>
    if request.matchesDurable catalog durable then return .ok .replayed
    else return .error .duplicateRequest
  | .ok none =>
    match ← lookupAddRequest .add account request.requestKey with
    | .error error => return .error error.addFailure
    | .ok (some receipt) =>
      if request.matchesDurable catalog receipt.requestedPet = false then
        return .error .duplicateRequest
      else if receipt.currentPet.isNone then return .error .duplicateRequest
      else
        match ← replayAdd account request.requestKey receipt with
        | .error failure => return .error failure
        | .ok () => return .ok .replayed
    | .ok none =>
      match ← reserveAdd account request with
      | .error failure => return .error failure
      | .ok .replayed => return .ok .replayed
      | .ok .reserved => joinAdd account request.requestKey

/-- `add_request_committed_like_cpp`. -/
def addRequestCommitted (account : ℕ) (requestKey : RequestKey) :
    Task (Except AddFailure Bool) := do
  match ← completedAdd account requestKey with
  | some _ => return .ok true
  | none =>
    match ← lookupAddRequest .probe account requestKey with
    | .ok receipt => return .ok receipt.isSome
    | .error error => return .error error.addFailure

inductive FencedReceiptProbe where
  | committed
  | absent
  | authorityUnavailable
deriving DecidableEq

/-- `receipt_probe_for_account_fenced_like_cpp`. -/
def receiptProbeForAccountFenced (account : ℕ) (requestKey : RequestKey) :
    Task (Except AddFailure FencedReceiptProbe) := do
  match ← tryAcquireProcessLease account with
  | .error error => return .error error.addFailure
  | .ok false => return .ok .authorityUnavailable
  | .ok true =>
    match ← lookupAddRequest .fencedProbe account requestKey with
    | .error error => return .error error.addFailure
    | .ok receipt => return .ok (if receipt.isSome then .committed else .absent)

/-! ## The saga -/

/-- `BATTLE_PET_PURCHASE_MAX_ATTEMPTS`. -/
def purchaseMaxAttempts : ℕ := 3

/-- `BATTLE_PET_PURCHASE_RECOVERY_BATCH_LIMIT`. -/
def purchaseRecoveryBatchLimit : ℕ := 8

def maxMoneyAmount : ℕ := 99999999999

def AddFailure.isRetryable : AddFailure → Bool
  | .missingAuthority | .journalLocked | .busy | .guidCollision | .databaseFailure => true
  | .capacity | .invalidSpecies | .duplicateRequest => false

def AddFailure.isTerminal : AddFailure → Bool
  | .capacity | .invalidSpecies | .duplicateRequest => true
  | .missingAuthority | .journalLocked | .busy | .guidCollision | .databaseFailure => false

def StoreError.isRetryable (error : StoreError) : Bool := error == .retryable

/-- `retry_battle_pet_purchase_step_like_cpp`, for a step of the store. -/
def retryStore {α : Type} (step : Task (Except StoreError α)) : Task (Except StoreError α) :=
  Await.retry StoreError.isRetryable step (purchaseMaxAttempts - 1)

inductive AdmissionFailure where
  | noJournalAuthority
  | journalLocked
  | capacity
  | storeUnavailable
  | selectionUnavailable
deriving DecidableEq

inductive PurchaseExecution where
  | purchased (published : Bool)
  | unavailable (failure : AdmissionFailure)
  | insufficientMoney
  | chargeDeclined
  | chargeIndeterminate
  | retryableDeferred
  | compensated
  | compensationDeferred
  | terminalFailure
  | completedElsewhere
deriving DecidableEq

/-- `record_battle_pet_purchase_publication_like_cpp`. -/
def recordPublication (requestKey : RequestKey) : Task Bool := do
  match ← retryStore (markPublished requestKey) with
  | .ok .applied | .ok .alreadyApplied => return true
  | .ok _ | .error _ => return false

/-- `complete_battle_pet_purchase_like_cpp`. -/
def completePurchase (requestKey : RequestKey) : Task Bool := do
  match ← retryStore (markCompleted requestKey) with
  | .ok .applied | .ok .alreadyApplied => return true
  | .ok _ | .error _ => return false

/-- The request that a command makes of the account owner. -/
def PurchaseCommand.addRequest (command : PurchaseCommand) (playerGuid : ObjectGuid) :
    AddRequest where
  requestKey := command.requestKey
  species := command.species
  displayId := command.displayId
  breed := command.breed
  quality := command.quality
  level := command.level
  ownerGuid := some playerGuid

/-- Enqueue the success packets and record that they are. -/
def publishPurchase (requestKey : RequestKey) : Task Bool := do
  if ← publish then recordPublication requestKey else return false

section Saga

variable (catalog : Catalog) (playerGuid : ObjectGuid) (account : ℕ)

/-- The receipt of a command, asked of its own account. -/
def probeReceipt (command : PurchaseCommand) : Task (Except AddFailure Bool) := do
  if command.accountId ≠ account then
    match ← receiptProbeForAccountFenced command.accountId command.requestKey with
    | .ok .committed => return .ok true
    | .ok .absent => return .ok false
    | .ok .authorityUnavailable => return .error .missingAuthority
    | .error failure => return .error failure
  else addRequestCommitted account command.requestKey

/-- The pet of the command is durable: publish what was not published, and complete it. -/
def completeElsewhere (command : PurchaseCommand) : Task PurchaseExecution := do
  if !command.published && command.accountId ≠ account then
    let _ ← recordPublication command.requestKey
  if !command.published && command.accountId = account then
    if ← acquireJournalLease account then
      match ← tryAddPet catalog account (command.addRequest playerGuid) with
      | .ok _ =>
        let _ ← publishPurchase command.requestKey
      | .error _ => pure ()
  let _ ← completePurchase command.requestKey
  return .completedElsewhere

/-- The refund of a command whose receipt is absent. -/
def refundPurchase (command : PurchaseCommand) : Task PurchaseExecution := do
  if !(← beginExclusiveMoney) then return .compensationDeferred
  else
    match ← retryStore (compensate command.requestKey maxMoneyAmount) with
    | .ok (.compensated _) | .ok (.alreadyCompensated _) => return .compensated
    | .ok .conflictedCompleted => return .completedElsewhere
    | .ok .characterMissing =>
      match ← retryStore (markTerminalFailure command.requestKey
          "battle-pet purchase refund impossible: character row missing") with
      | .ok () => return .terminalFailure
      | .error _ => return .compensationDeferred
    | .error _ => return .compensationDeferred

/-- `compensate_battle_pet_purchase_like_cpp`. -/
def compensatePurchase (command : PurchaseCommand) : Task PurchaseExecution := do
  match ← retryStore (markCompensationPending command.requestKey
      "battle-pet purchase apply failed terminally") with
  | .error _ => return .compensationDeferred
  | .ok .conflictedCompleted => return .completedElsewhere
  | .ok .conflictedCompensated => return .compensated
  | .ok .applied | .ok .alreadyApplied =>
    match ← probeReceipt account command with
    | .error _ => return .compensationDeferred
    | .ok true => completeElsewhere catalog playerGuid account command
    | .ok false => refundPurchase command

/-- What a purchase finds when it is admitted, before it draws its request key. -/
structure PurchaseOffer where
  refusal : Option AdmissionFailure
  selectionAvailable : Bool
  money : Option ℕ
  trainerId : ℕ
  spellId : ℕ
  species : ℕ
  breed : ℕ
  quality : ℕ
  displayId : ℕ
  level : ℕ
  price : ℕ
deriving DecidableEq

/-- The command of an offer that is charged to `money`. -/
def PurchaseOffer.command (offer : PurchaseOffer) (requestKey : RequestKey) (money : ℕ) :
    PurchaseCommand where
  requestKey
  accountId := account
  trainerId := offer.trainerId
  spellId := offer.spellId
  species := offer.species
  breed := offer.breed
  quality := offer.quality
  displayId := offer.displayId
  level := offer.level
  price := offer.price
  moneyBefore := money
  moneyAfter := money - offer.price
  status := .pendingApplication
  published := false
  failureReason := none

/-- The application of a charged command: one pet through the account owner, up to three
times, then the publication and the completion, or the compensation. -/
def applyPurchase (command : PurchaseCommand) : Task PurchaseExecution := do
  match ← Await.retry AddFailure.isRetryable
      (tryAddPet catalog account (command.addRequest playerGuid)) (purchaseMaxAttempts - 1) with
  | .ok _ =>
    let published ← publishPurchase command.requestKey
    if ← completePurchase command.requestKey then return .purchased published
    else return .retryableDeferred
  | .error failure =>
    if failure.isTerminal then compensatePurchase catalog playerGuid account command
    else return .retryableDeferred

/-- `execute_battle_pet_trainer_purchase_with_generator_like_cpp`. -/
def executePurchase (offer : PurchaseOffer) (requestKey : RequestKey) :
    Task PurchaseExecution := do
  match offer.refusal with
  | some failure => return .unavailable failure
  | none =>
    if !(← acquireJournalLease account) then return .unavailable .journalLocked
    else if !offer.selectionAvailable then return .unavailable .selectionUnavailable
    else
      match offer.money with
      | none => return .unavailable .storeUnavailable
      | some money =>
        if money < offer.price then return .insufficientMoney
        else
          let command := offer.command account requestKey money
          match ← retryStore (chargeAndInsertCommand command) with
          | .ok .charged =>
            if !(← stageMoney) then return .chargeIndeterminate
            else applyPurchase catalog playerGuid account command
          | .ok .rolledBack => return .chargeDeclined
          | .error .indeterminate => return .chargeIndeterminate
          | .error _ => return .chargeDeclined

/-! ## Recovery -/

structure PurchaseRecovery where
  applied : ℕ
  compensated : ℕ
  deferred : ℕ
  terminalFailures : ℕ
deriving DecidableEq

/-- The recovery after a compensation; false stops the batch. -/
def PurchaseRecovery.addCompensation (summary : PurchaseRecovery) :
    PurchaseExecution → PurchaseRecovery × Bool
  | .compensated => ({ summary with compensated := summary.compensated + 1 }, true)
  | .terminalFailure => ({ summary with terminalFailures := summary.terminalFailures + 1 }, true)
  | .completedElsewhere => ({ summary with applied := summary.applied + 1 }, true)
  | _ => ({ summary with deferred := summary.deferred + 1 }, false)

def PurchaseRecovery.addApplied (summary : PurchaseRecovery) : PurchaseRecovery :=
  { summary with applied := summary.applied + 1 }

def PurchaseRecovery.addDeferred (summary : PurchaseRecovery) : PurchaseRecovery :=
  { summary with deferred := summary.deferred + 1 }

/-- A command that another account left pending is decided against, and compensated. -/
def recoverMismatched (summary : PurchaseRecovery) (command : PurchaseCommand) :
    Task (PurchaseRecovery × Bool) := do
  match ← retryStore (markCompensationPending command.requestKey
      "battle-pet purchase account changed before application") with
  | .ok .applied | .ok .alreadyApplied =>
    return summary.addCompensation (← compensatePurchase catalog playerGuid account command)
  | .ok _ | .error _ => return (summary.addDeferred, false)

/-- A pending command is applied once more. -/
def recoverPending (summary : PurchaseRecovery) (command : PurchaseCommand) :
    Task (PurchaseRecovery × Bool) := do
  if !(← acquireJournalLease account) then return (summary.addDeferred, false)
  else
    match ← tryAddPet catalog account (command.addRequest playerGuid) with
    | .ok _ =>
      if !command.published then
        let _ ← publishPurchase command.requestKey
      if ← completePurchase command.requestKey then return (summary.addApplied, true)
      else return (summary.addDeferred, true)
    | .error failure =>
      if failure.isTerminal then
        return summary.addCompensation (← compensatePurchase catalog playerGuid account command)
      else return (summary.addDeferred, false)

/-- A completed command that was not published is published. -/
def recoverUnpublished (summary : PurchaseRecovery) (command : PurchaseCommand) :
    Task (PurchaseRecovery × Bool) := do
  if command.published then return (summary, true)
  else if !(← acquireJournalLease account) then return (summary.addDeferred, false)
  else
    match ← tryAddPet catalog account (command.addRequest playerGuid) with
    | .ok _ =>
      let _ ← publishPurchase command.requestKey
      return (summary.addApplied, true)
    | .error .duplicateRequest =>
      let _ ← recordPublication command.requestKey
      return (summary.addApplied, true)
    | .error _ => return (summary.addDeferred, false)

/-- One command of the batch; false stops it. -/
def recoverCommand (summary : PurchaseRecovery) (command : PurchaseCommand) :
    Task (PurchaseRecovery × Bool) := do
  if command.accountId ≠ account ∧ command.status = .completed then
    if !command.published then
      let _ ← recordPublication command.requestKey
      return (summary.addApplied, true)
    else return (summary, true)
  else if command.accountId ≠ account ∧ command.status = .pendingApplication then
    recoverMismatched catalog playerGuid account summary command
  else
    match command.status with
    | .compensationPending =>
      return summary.addCompensation (← compensatePurchase catalog playerGuid account command)
    | .pendingApplication => recoverPending catalog playerGuid account summary command
    | .completed => recoverUnpublished catalog playerGuid account summary command
    | .compensated | .terminalFailure => return (summary, true)

def recoverCommands (summary : PurchaseRecovery) : List PurchaseCommand → Task PurchaseRecovery
  | [] => return summary
  | command :: commands => do
      let (summary, proceed) ← recoverCommand catalog playerGuid account summary command
      if proceed then recoverCommands summary commands else return summary

/-- `recover_battle_pet_trainer_purchases_with_generator_like_cpp`. -/
def recoverPurchases : Task (Option PurchaseRecovery) := do
  match ← loadPendingCommands purchaseRecoveryBatchLimit with
  | .error _ => return none
  | .ok commands => return some (← recoverCommands catalog playerGuid account ⟨0, 0, 0, 0⟩ commands)

end Saga

end RustyCore.BattlePets
