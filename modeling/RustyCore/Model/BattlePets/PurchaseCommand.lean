import RustyCore.Library.KeyedTable
import RustyCore.Model.ObjectGuid

/-! # Durable battle pets

The rows of a pet and the requests that create pets, as the account owner and its
persistence exchange them. -/

namespace RustyCore.BattlePets

/-- `BattlePetAddRequestKeyLikeCpp`: the 16 bytes that identify a request. -/
abbrev RequestKey := BitVec 128

/-! ## Species -/

structure SpeciesEntry where
  flags : BitVec 32
deriving DecidableEq

def speciesFlagWellKnown : BitVec 32 := 0x2

def speciesFlagNotAccountWide : BitVec 32 := 0x4

def speciesFlagLegacyAccountUnique : BitVec 32 := 0x40

def SpeciesEntry.hasFlag (entry : SpeciesEntry) (flag : BitVec 32) : Bool :=
  entry.flags &&& flag != 0

def defaultMaxBattlePetsPerSpecies : ℕ := 3

def SpeciesEntry.maxPets (entry : SpeciesEntry) : ℕ :=
  if entry.hasFlag speciesFlagLegacyAccountUnique then 1 else defaultMaxBattlePetsPerSpecies

/-- The client data that the owner reads: the species, and the health of a new pet by its
breed, species, quality and level. -/
structure Catalog where
  species : ℕ → Option SpeciesEntry
  maxHealth : ℕ → ℕ → ℕ → ℕ → ℕ

/-! ## Rows and requests -/

/-- `DurableBattlePetRowLikeCpp`. -/
structure DurablePetRow where
  guidCounter : ℕ
  species : ℕ
  breed : ℕ
  displayId : ℕ
  level : ℕ
  exp : ℕ
  health : ℕ
  quality : ℕ
  flags : ℕ
  name : String
  nameTimestamp : ℤ
  ownerGuidCounter : Option ℕ
  declinedNames : Option (List String)
deriving DecidableEq

/-- `BattlePetAddRequestLikeCpp`. -/
structure AddRequest where
  requestKey : RequestKey
  species : ℕ
  displayId : ℕ
  breed : ℕ
  quality : ℕ
  level : ℕ
  ownerGuid : Option ObjectGuid
deriving DecidableEq

inductive AddFailure where
  | missingAuthority
  | journalLocked
  | invalidSpecies
  | capacity
  | duplicateRequest
  | busy
  | databaseFailure
  | guidCollision
deriving DecidableEq

inductive PersistenceError where
  | database
  | capacity
  | guidCollision
  | duplicateRequest
  | staleAuthority
deriving DecidableEq

/-- `add_persistence_error_like_cpp`. -/
def PersistenceError.addFailure : PersistenceError → AddFailure
  | .database => .databaseFailure
  | .capacity => .capacity
  | .guidCollision => .guidCollision
  | .duplicateRequest => .duplicateRequest
  | .staleAuthority => .missingAuthority

/-- The owner that the row of a request names; only some species have one. -/
def AddRequest.ownerCounter (request : AddRequest) (entry : SpeciesEntry) : Option ℕ :=
  if entry.hasFlag speciesFlagNotAccountWide then
    request.ownerGuid.map fun guid => guid.counter.toNat
  else none

/-- `request_matches_durable_like_cpp`. -/
def AddRequest.matchesDurable (catalog : Catalog) (request : AddRequest)
    (persisted : DurablePetRow) : Bool :=
  match catalog.species request.species with
  | none => false
  | some entry =>
    request.species == persisted.species && request.breed == persisted.breed &&
      request.displayId == persisted.displayId && request.level == persisted.level &&
      request.quality == persisted.quality &&
      request.ownerCounter entry == persisted.ownerGuidCounter

/-- `add_request_matches_like_cpp`. -/
def addRequestMatches (requested persisted : DurablePetRow) : Bool :=
  requested.species == persisted.species && requested.breed == persisted.breed &&
    requested.displayId == persisted.displayId && requested.level == persisted.level &&
    requested.quality == persisted.quality &&
    requested.ownerGuidCounter == persisted.ownerGuidCounter

/-- `durable_new_pet_like_cpp`. -/
def durableNewPet (catalog : Catalog) (guidCounter : ℕ) (request : AddRequest) :
    Except AddFailure DurablePetRow :=
  match catalog.species request.species with
  | none => .error .invalidSpecies
  | some entry => .ok {
      guidCounter
      species := request.species
      breed := request.breed
      displayId := request.displayId
      level := request.level
      exp := 0
      health := catalog.maxHealth request.breed request.species request.quality request.level
      quality := request.quality
      flags := 0
      name := ""
      nameTimestamp := 0
      ownerGuidCounter := request.ownerCounter entry
      declinedNames := none }

/-! ## Receipts -/

/-- A row of `battle_pet_add_requests`: the request is its primary key, in every account. -/
structure AddReceipt where
  requestKey : RequestKey
  accountId : ℕ
  pet : DurablePetRow
deriving DecidableEq

end RustyCore.BattlePets

/-! ## Purchase commands

The character's money and the rows of `character_battle_pet_purchase`, and the transactions
on them. A transaction whose statement does not find the row it expects is rolled back. -/

namespace RustyCore.BattlePets

inductive PurchaseStatus where
  | pendingApplication
  | completed
  | compensationPending
  | compensated
  | terminalFailure
deriving DecidableEq

def PurchaseStatus.isTerminal : PurchaseStatus → Bool
  | .completed | .compensated | .terminalFailure => true
  | .pendingApplication | .compensationPending => false

/-- `BattlePetPurchaseCommandLikeCpp`, of one character. -/
structure PurchaseCommand where
  requestKey : RequestKey
  accountId : ℕ
  trainerId : ℕ
  spellId : ℕ
  species : ℕ
  breed : ℕ
  quality : ℕ
  displayId : ℕ
  level : ℕ
  price : ℕ
  moneyBefore : ℕ
  moneyAfter : ℕ
  status : PurchaseStatus
  published : Bool
  failureReason : Option String
deriving DecidableEq

/-- What the money statement of a committed transaction moved, for which command. -/
inductive MoneyTransfer where
  | charge (requestKey : RequestKey) (amount : ℕ)
  | refund (requestKey : RequestKey) (amount : ℕ)
deriving DecidableEq

/-- The character database: `money` is missing with the row of the character; `transfers`
is a history that no code reads. -/
structure CharacterDb where
  money : Option ℕ
  commands : KeyedTable PurchaseCommand.requestKey
  transfers : List MoneyTransfer

inductive CharacterTransaction where
  | charge (command : PurchaseCommand)
  | published (requestKey : RequestKey)
  | completed (requestKey : RequestKey)
  | compensationPending (requestKey : RequestKey) (reason : String)
  | compensated (requestKey : RequestKey) (price maxMoney : ℕ)
  | terminalFailure (requestKey : RequestKey) (reason : String)

namespace CharacterDb

/-- `UPD_CHARACTER_MONEY_GUARDED`, left out where the money does not change. -/
def chargeMoney (db : CharacterDb) (command : PurchaseCommand) : Option CharacterDb :=
  if command.moneyAfter = command.moneyBefore then
    some { db with transfers := .charge command.requestKey 0 :: db.transfers }
  else if db.money = some command.moneyBefore then
    some { db with
      money := some command.moneyAfter
      transfers :=
        .charge command.requestKey (command.moneyBefore - command.moneyAfter) :: db.transfers }
  else none

/-- `UPD_CHARACTER_MONEY_REFUND`, left out where the price is zero. -/
def refundMoney (db : CharacterDb) (requestKey : RequestKey) (price maxMoney : ℕ) :
    Option CharacterDb :=
  if price = 0 then some { db with transfers := .refund requestKey 0 :: db.transfers }
  else
    match db.money with
    | none => none
    | some money => some { db with
        money := some (min (money + price) maxMoney)
        transfers := .refund requestKey price :: db.transfers }

/-- An update of one command that expects its row to satisfy `guard`. -/
def mark (db : CharacterDb) (requestKey : RequestKey) (guard : PurchaseCommand → Bool)
    (change : PurchaseCommand → PurchaseCommand)
    (hchange : ∀ command, (change command).requestKey = command.requestKey) :
    Option CharacterDb :=
  match db.commands.find requestKey with
  | none => none
  | some command =>
    if guard command then
      some { db with commands := db.commands.update requestKey change hchange }
    else none

end CharacterDb

/-- The database after the commit; none when a guard fails. -/
def CharacterTransaction.apply (db : CharacterDb) : CharacterTransaction → Option CharacterDb
  | .charge command => do
      let db ← db.chargeMoney command
      let commands ← db.commands.insert { command with
        status := .pendingApplication, published := false, failureReason := none }
      return { db with commands }
  | .published requestKey =>
    db.mark requestKey
      (fun command => !command.published &&
        [.pendingApplication, .completed, .compensationPending].contains command.status)
      (fun command => { command with published := true }) fun _ => rfl
  | .completed requestKey =>
    db.mark requestKey
      (fun command => [.pendingApplication, .compensationPending].contains command.status)
      (fun command => { command with status := .completed, failureReason := none }) fun _ => rfl
  | .compensationPending requestKey reason =>
    db.mark requestKey (fun command => command.status == .pendingApplication)
      (fun command => { command with
        status := .compensationPending, failureReason := some reason }) fun _ => rfl
  | .compensated requestKey price maxMoney => do
      let db ← db.refundMoney requestKey price maxMoney
      db.mark requestKey (fun command => command.status == .compensationPending)
        (fun command => { command with status := .compensated }) fun _ => rfl
  | .terminalFailure requestKey reason =>
    db.mark requestKey (fun command => command.status == .compensationPending)
      (fun command => { command with
        status := .terminalFailure, failureReason := some reason }) fun _ => rfl

/-- `SEL_BATTLE_PET_PURCHASE_PENDING`. -/
def CharacterDb.pendingCommands (db : CharacterDb) (limit : ℕ) : List PurchaseCommand :=
  (db.commands.rows.filter fun command =>
    [.pendingApplication, .compensationPending].contains command.status ||
      (command.status == .completed && !command.published)).take limit

/-! ## Reconciliation -/

inductive ChargeOutcome where
  | charged
  | rolledBack
deriving DecidableEq

inductive MarkOutcome where
  | applied
  | alreadyApplied
  | conflictedCompleted
  | conflictedCompensated
deriving DecidableEq

inductive CompensationOutcome where
  | compensated (durableMoney : ℕ)
  | alreadyCompensated (durableMoney : ℕ)
  | conflictedCompleted
  | characterMissing
deriving DecidableEq

inductive StoreError where
  | retryable
  | terminal
  | indeterminate
deriving DecidableEq

/-- `reconcile_battle_pet_purchase_charge_like_cpp`. -/
def reconcileCharge (row : Option PurchaseCommand) (expected : PurchaseCommand) : ChargeOutcome :=
  match row with
  | some row =>
    if row.requestKey = expected.requestKey ∧ row.accountId = expected.accountId ∧
        row.trainerId = expected.trainerId ∧ row.spellId = expected.spellId ∧
        row.species = expected.species ∧ row.breed = expected.breed ∧
        row.quality = expected.quality ∧ row.displayId = expected.displayId ∧
        row.level = expected.level ∧ row.price = expected.price ∧
        row.moneyBefore = expected.moneyBefore ∧ row.moneyAfter = expected.moneyAfter then
      .charged
    else .rolledBack
  | none => .rolledBack

/-- `reconcile_battle_pet_purchase_mark_like_cpp`. -/
def reconcileMark (row : Option PurchaseCommand) (pendingSource target : PurchaseStatus) :
    Except StoreError MarkOutcome :=
  match row with
  | none => .error .terminal
  | some row =>
    if row.status = target then .ok .alreadyApplied
    else
      match row.status with
      | .completed => .ok .conflictedCompleted
      | .compensated | .terminalFailure => .ok .conflictedCompensated
      | status => if status = pendingSource then .error .retryable else .error .terminal

end RustyCore.BattlePets
