import RustyCore.Library.ModifyFirst
import RustyCore.Model.Traits.Index

/-! # The talent rules

Validation of the entries of a trait config against the index and the facts of a player. -/

namespace RustyCore.Traits

structure TraitConfigEntry where
  traitNodeId : ℤ
  traitNodeEntryId : ℤ
  rank : ℤ
  grantedRanks : ℤ
  deriving DecidableEq

inductive TraitConfigValidationResult
  | ok
  | unknown
  | notEnoughTalentsInPrimaryTree
  deriving DecidableEq

structure TraitPlayerFacts where
  level : ℤ
  primarySpecializationId : ℕ
  money : ℕ
  currencyQuantities : Dict ℕ ℤ
  rewardedQuestIds : List ℕ
  achievementIds : List ℕ

/-- What a config is: its type and, for a combat config, its specialization. -/
structure ConfigKind where
  configType : ℤ
  configSpecializationId : ℤ

/-- `map.get(&k).copied().unwrap_or_default()` -/
def amountAt (amounts : Dict ℕ ℤ) (k : ℕ) : ℤ := (amounts.lookup k).getD 0

/-- Add to the amount at `k`, which saturates. -/
def addAmount (amounts : Dict ℕ ℤ) (k : ℕ) (amount : ℤ) : Dict ℕ ℤ :=
  amounts.insert k (satAdd (amountAt amounts k) amount)

def addTraitCost (target : Dict ℕ ℤ) (cost : TraitCostEntry) (rank : ℤ) : Dict ℕ ℤ :=
  match tryU32 cost.traitCurrencyId with
  | none => target
  | some currencyId => addAmount target currencyId (satMul cost.amount rank)

namespace TraitTreeSkillLineIndex

variable (index : TraitTreeSkillLineIndex)

/-- Whether the node and its entry are known and the ranks fit. -/
def isValidEntry (entry : TraitConfigEntry) : Bool :=
  match tryU32 entry.traitNodeId, tryU32 entry.traitNodeEntryId with
  | some nodeId, some entryId =>
    match index.nodes.find nodeId with
    | none => false
    | some _ =>
      if ¬ (index.entriesForNode nodeId).contains entryId then false
      else match index.nodeEntries.find entryId with
        | none => false
        | some nodeEntry => nodeEntry.maxRanks ≥ satAdd entry.rank entry.grantedRanks
  | _, _ => false

/-- The costs with these ids, for the ranks of a row. -/
def addTraitCosts (costIds : List ℕ) (rank : ℤ) (spent : Dict ℕ ℤ) : Dict ℕ ℤ :=
  costIds.foldl (fun spent costId => match index.costs.find costId with
    | some cost => addTraitCost spent cost rank
    | none => spent) spent

def spentCurrencies (entries : List TraitConfigEntry) : Dict ℕ ℤ :=
  entries.foldl (fun spent entry =>
    match tryU32 entry.traitNodeId with
    | none => spent
    | some nodeId =>
      match index.nodes.find nodeId with
      | none => spent
      | some node =>
        let rank := max entry.rank 0
        let spent := (index.groupsForNode nodeId).foldl (fun spent groupId =>
          index.addTraitCosts (index.costIdsForGroup groupId) rank spent) spent
        let spent := match tryU32 entry.traitNodeEntryId with
          | some entryId =>
            if (index.entriesForNode nodeId).contains entryId then
              index.addTraitCosts (index.costIdsForEntry entryId) rank spent
            else spent
          | none => spent
        let spent := index.addTraitCosts (index.costIdsForNode nodeId) rank spent
        index.addTraitCosts (index.costIdsForTree node.traitTreeId) rank spent) ∅

def conditionMeets (kind : ConfigKind) (condition : TraitCondEntry) (facts : TraitPlayerFacts)
    (spent : Dict ℕ ℤ) : Bool :=
  if condition.questId > 0 ∧ ¬ facts.rewardedQuestIds.contains (asU32 condition.questId) then false
  else if condition.achievementId > 0 ∧
      ¬ facts.achievementIds.contains (asU32 condition.achievementId) then false
  else if condition.specSetId > 0 ∧ ¬ index.specSetMembers.contains (condition.specSetId,
      if kind.configType = 1 then kind.configSpecializationId
      else asI32 facts.primarySpecializationId) then false
  else if condition.traitCurrencyId > 0 ∧ condition.spentAmountRequired > 0 ∧
      (condition.traitNodeGroupId > 0 ∨ condition.traitNodeId > 0) ∧
      amountAt spent (asU32 condition.traitCurrencyId) < condition.spentAmountRequired then false
  else condition.requiredLevel ≤ 0 ∨ facts.level ≥ condition.requiredLevel

/-- Whether some row of the config has ranks in the entry. -/
def activeEntry (entries : List TraitConfigEntry) (entryId : ℤ) : Bool :=
  entries.any fun entry =>
    entry.traitNodeEntryId = entryId && (entry.rank > 0 || entry.grantedRanks > 0)

def sourceQualifies (entries : List TraitConfigEntry) (facts : TraitPlayerFacts)
    (source : TraitCurrencySourceEntry) : Bool :=
  if source.questId > 0 ∧ ¬ facts.rewardedQuestIds.contains (asU32 source.questId) then false
  else if source.achievementId > 0 ∧
      ¬ facts.achievementIds.contains (asU32 source.achievementId) then false
  else if source.playerLevel > 0 ∧ facts.level < source.playerLevel then false
  else if source.traitNodeEntryId > 0 ∧ ¬ activeEntry entries source.traitNodeEntryId then false
  else true

/-- What a currency of a tree adds to the owned currencies. -/
def addOwnedCurrency (entries : List TraitConfigEntry) (facts : TraitPlayerFacts)
    (owned : Dict ℕ ℤ) (currency : TraitCurrencyEntry) : Dict ℕ ℤ :=
  if currency.currencyType = 0 then
    addAmount owned currency.id (min facts.money (2 ^ 31 - 1))
  else if currency.currencyType = 1 then
    addAmount owned currency.id
      (amountAt facts.currencyQuantities (asU32 currency.currencyTypesId))
  else if currency.currencyType = 2 then
    (index.currencySourcesByCurrency.slice currency.id).foldl (fun owned source =>
      if sourceQualifies entries facts source then
        addAmount owned source.traitCurrencyId source.amount
      else owned) owned
  else owned

def ownedCurrencies (treeIds : List ℕ) (entries : List TraitConfigEntry)
    (facts : TraitPlayerFacts) : Dict ℕ ℤ :=
  treeIds.foldl (fun owned treeId =>
    (index.currenciesByTree.slice treeId).foldl (index.addOwnedCurrency entries facts) owned) ∅

/-- Some condition of type 0 or 1 is met, or there is none. An unknown condition is not met. -/
def meetsConditions (kind : ConfigKind) (facts : TraitPlayerFacts) (spent : Dict ℕ ℤ) :
    List ℕ → Bool → Bool
  | [], hasConditions => !hasConditions
  | conditionId :: rest, hasConditions =>
    match index.conditions.find conditionId with
    | none => false
    | some condition =>
      if condition.condType = 0 ∨ condition.condType = 1 then
        if index.conditionMeets kind condition facts spent then true
        else meetsConditions kind facts spent rest true
      else meetsConditions kind facts spent rest hasConditions

/-- The ranks in the first row with the entry, whatever its node. -/
def totals (entries : List TraitConfigEntry) (entryId : ℕ) : Option ℤ :=
  (entries.find? fun entry => entry.traitNodeEntryId = asI32 entryId).map fun entry =>
    satAdd entry.rank entry.grantedRanks

/-- Whether the ranks in the entry are all it has. -/
def entryFilled (entries : List TraitConfigEntry) (entryId : ℕ) : Bool :=
  match index.nodeEntries.find entryId with
  | none => false
  | some nodeEntry => totals entries entryId = some nodeEntry.maxRanks

def nodeFullyFilled (entries : List TraitConfigEntry) (nodeId : ℕ) : Bool :=
  match index.nodes.find nodeId with
  | none => false
  | some node =>
    if node.nodeType = 2 then
      (index.entriesForNode nodeId).any fun entryId => index.entryFilled entries entryId
    else (index.entriesForNode nodeId).all fun entryId => index.entryFilled entries entryId

/-- The edges to a node: one parent is filled, and every parent of type 2. -/
def parentsFilled (entries : List TraitConfigEntry) : List (ℕ × ℤ) → Bool → Bool
  | [], hasAnyParent => hasAnyParent
  | (parentId, edgeType) :: rest, hasAnyParent =>
    if ¬ index.nodeFullyFilled entries parentId then
      if edgeType = 2 then false
      else parentsFilled entries rest hasAnyParent
    else parentsFilled entries rest true

/-- The checks of one row. -/
def validateEntry (treeIds : List ℕ) (kind : ConfigKind) (entries : List TraitConfigEntry)
    (facts : TraitPlayerFacts) (spent : Dict ℕ ℤ) (entry : TraitConfigEntry) :
    TraitConfigValidationResult :=
  let meets := fun conditionIds => index.meetsConditions kind facts spent conditionIds false
  match tryU32 entry.traitNodeId, tryU32 entry.traitNodeEntryId with
  | some nodeId, some entryId =>
    match index.nodes.find nodeId with
    | none => .unknown
    | some node =>
      if ¬ treeIds.contains node.traitTreeId ∨ ¬ (index.entriesForNode nodeId).contains entryId
      then .unknown
      else match index.nodeEntries.find entryId with
        | none => .unknown
        | some nodeEntry =>
          if entry.rank < 0 ∨ entry.grantedRanks < 0 ∨
              satAdd entry.rank entry.grantedRanks > nodeEntry.maxRanks then .unknown
          else if node.nodeType = 2 ∧ (entries.filter fun candidate =>
              candidate.traitNodeId = entry.traitNodeId).length ≠ 1 then .unknown
          else if ¬ ((index.entriesForNode nodeId).all fun candidate =>
                meets (index.conditionIdsForEntry candidate)) ∨
              ¬ meets (index.conditionIdsForNode nodeId) then .unknown
          else if (index.groupsForNode nodeId).any fun groupId =>
              !meets (index.conditionIdsForGroup groupId) then .unknown
          else if index.parentNodesForNode nodeId ≠ [] ∧
              ¬ index.parentsFilled entries (index.parentNodesForNode nodeId) false then
            .notEnoughTalentsInPrimaryTree
          else .ok
  | _, _ => .unknown

/-- Whether the first currency with the id is paid by sources. -/
def hasSources (currencyId : ℕ) : Bool :=
  match (index.currenciesByTree.ascending.flatMap (·.2)).find? fun currency =>
      currency.id = currencyId with
  | some currency => currency.currencyType = 2
  | none => false

/-- No currency with sources is spent beyond what the player owns. -/
def affords (owned spent : Dict ℕ ℤ) : Bool :=
  spent.ascending.all fun amount =>
    amount.2 ≤ 0 || !(index.hasSources amount.1 && amountAt owned amount.1 < amount.2)

/-- The first result that is not `ok`. -/
def firstFailure : List TraitConfigValidationResult → TraitConfigValidationResult
  | [] => .ok
  | .ok :: rest => firstFailure rest
  | result :: _ => result

def validateConfig (treeIds : List ℕ) (kind : ConfigKind) (entries : List TraitConfigEntry)
    (facts : TraitPlayerFacts) : TraitConfigValidationResult :=
  if treeIds.isEmpty ∨ ¬ index.graphLoaded then .unknown
  else
    let treeIds := sortDedup treeIds
    let spent := index.spentCurrencies entries
    match firstFailure (entries.map (index.validateEntry treeIds kind entries facts spent)) with
    | .ok =>
      if index.affords (index.ownedCurrencies treeIds entries facts) spent then .ok
      else .notEnoughTalentsInPrimaryTree
    | failure => failure

/-! ## Granted entries -/

def addGranted (granted : List TraitConfigEntry) (nodeId entryId : ℕ) (ranks : ℤ) :
    List TraitConfigEntry :=
  if ranks ≤ 0 then granted
  else if granted.any fun entry => entry.traitNodeId = asI32 nodeId &&
      entry.traitNodeEntryId = asI32 entryId then
    modifyFirst (fun entry => entry.traitNodeId = asI32 nodeId &&
        entry.traitNodeEntryId = asI32 entryId)
      (fun entry => { entry with grantedRanks := satAdd entry.grantedRanks ranks }) granted
  else granted ++ [⟨asI32 nodeId, asI32 entryId, 0, ranks⟩]

/-- The ranks that the conditions of type 2 among these grant. -/
def grantsOf (kind : ConfigKind) (facts : TraitPlayerFacts) (spent : Dict ℕ ℤ)
    (conditionIds : List ℕ) : List ℤ :=
  conditionIds.filterMap fun conditionId => match index.conditions.find conditionId with
    | some condition =>
      if condition.condType = 2 ∧ index.conditionMeets kind condition facts spent then
        some condition.grantedRanks
      else none
    | none => none

/-- The grants for a node: for each of its entries those of the entry, then for all of them
those of the node and of its groups. -/
def grantedEntriesForNode (kind : ConfigKind) (facts : TraitPlayerFacts) (spent : Dict ℕ ℤ)
    (granted : List TraitConfigEntry) (nodeId : ℕ) : List TraitConfigEntry :=
  let entryIds := index.entriesForNode nodeId
  let addAll := fun granted ranks =>
    entryIds.foldl (fun granted entryId => addGranted granted nodeId entryId ranks) granted
  let granted := entryIds.foldl (fun granted entryId =>
    (index.grantsOf kind facts spent (index.conditionIdsForEntry entryId)).foldl
      (fun granted ranks => addGranted granted nodeId entryId ranks) granted) granted
  let granted :=
    (index.grantsOf kind facts spent (index.conditionIdsForNode nodeId)).foldl addAll granted
  (index.groupsForNode nodeId).foldl (fun granted groupId =>
    (index.grantsOf kind facts spent (index.conditionIdsForGroup groupId)).foldl addAll granted)
    granted

def grantedEntriesForConfig (treeIds : List ℕ) (kind : ConfigKind)
    (entries : List TraitConfigEntry) (facts : TraitPlayerFacts) : List TraitConfigEntry :=
  let spent := index.spentCurrencies entries
  treeIds.foldl (fun granted treeId =>
    (index.nodesForTree treeId).foldl (index.grantedEntriesForNode kind facts spent) granted) []

end TraitTreeSkillLineIndex

/-! ## The configs of a player -/

structure ChrSpecializationEntry where
  id : ℕ
  classId : ℕ
  deriving DecidableEq

/-- A config as it is sent at login. -/
structure TraitConfigCreateData where
  id : ℤ
  configType : ℤ
  skillLineId : ℤ
  chrSpecializationId : ℤ
  combatConfigFlags : ℤ
  localIdentifier : ℤ
  traitSystemId : ℤ
  name : String
  entries : List TraitConfigEntry
  deriving DecidableEq

def TraitConfigCreateData.kind (config : TraitConfigCreateData) : ConfigKind :=
  ⟨config.configType, config.chrSpecializationId⟩

/-- What a session knows about traits: the catalogs, and the facts of its player. -/
structure TraitSession where
  index : Option TraitTreeSkillLineIndex
  chrSpecializations : Option (KeyedTable ChrSpecializationEntry.id)
  playerFacts : Option TraitPlayerFacts

namespace TraitSession

variable (session : TraitSession)

/-- The trees that a config may use by its type, where its class, skill line or system is known. -/
def treesOfType (index : TraitTreeSkillLineIndex) (config : TraitConfigCreateData) :
    Option (List ℕ) :=
  if config.configType = 1 then do
    let specializationId ← tryU32 config.chrSpecializationId
    let specialization ← (← session.chrSpecializations).find specializationId
    if index.hasClass specialization.classId then
      some (index.treesForClass specialization.classId)
    else none
  else if config.configType = 2 then do
    let skillLineId ← tryU32 config.skillLineId
    if index.hasSkillLine skillLineId then some (index.treesForSkillLine skillLineId) else none
  else if config.configType = 3 then do
    let traitSystemId ← tryU32 config.traitSystemId
    if index.hasTraitSystem traitSystemId then some (index.treesForTraitSystem traitSystemId)
    else none
  else none

/-- The trees that a config may use, if there are any. -/
def traitTreeIdsForConfig (config : TraitConfigCreateData) : Option (List ℕ) := do
  let index ← session.index
  let treeIds ← session.treesOfType index config
  if treeIds.isEmpty then none else some treeIds

/-- One config: its valid rows if they obey the rules, else the granted entries. -/
def normalizeTraitConfig (index : TraitTreeSkillLineIndex) (facts : TraitPlayerFacts)
    (config : TraitConfigCreateData) : TraitConfigCreateData :=
  let entries := config.entries.filter index.isValidEntry
  match session.traitTreeIdsForConfig config with
  | none => { config with entries := [] }
  | some treeIds =>
    if index.validateConfig treeIds config.kind entries facts = .ok then
      { config with entries }
    else { config with
      entries := index.grantedEntriesForConfig treeIds config.kind entries facts }

def normalizeTraitConfigs (configs : List TraitConfigCreateData) :
    Option (List TraitConfigCreateData) := do
  let index ← session.index
  if ¬ index.graphLoaded then none
  else
    let facts ← session.playerFacts
    return configs.map (session.normalizeTraitConfig index facts)

/-- Whether an entry is known and its ranks fit. -/
def entryComplete (nodeEntries : KeyedTable TraitNodeEntryEntry.id) (entry : TraitConfigEntry) :
    Bool :=
  match tryU32 entry.traitNodeEntryId with
  | none => false
  | some nodeEntryId =>
    match nodeEntries.find nodeEntryId with
    | none => false
    | some nodeEntry => entry.traitNodeId > 0 && entry.rank ≥ 0 && entry.grantedRanks ≥ 0 &&
        entry.rank + entry.grantedRanks ≤ nodeEntry.maxRanks

/-- The trees of a config for the check of its entries. A config of no known type has none. -/
def treesForCheck (index : TraitTreeSkillLineIndex) (config : TraitConfigCreateData) :
    Option (List ℕ) :=
  if config.configType = 1 ∨ config.configType = 2 ∨ config.configType = 3 then
    session.treesOfType index config
  else some []

/-- Whether the node and entry of a row are those of one of the trees. -/
def entryInTrees (index : TraitTreeSkillLineIndex) (treeIds : List ℕ) (entry : TraitConfigEntry) :
    Bool :=
  match tryU32 entry.traitNodeId, tryU32 entry.traitNodeEntryId with
  | some nodeId, some entryId => index.entryBelongsToTreeSet treeIds nodeId entryId
  | _, _ => false

def traitAuthorityComplete (configs : List TraitConfigCreateData)
    (nodeEntries : KeyedTable TraitNodeEntryEntry.id) : Bool :=
  ((configs.flatMap (·.entries)).all (entryComplete nodeEntries)) &&
    match session.index with
    | none => true
    | some index => configs.all fun config =>
      match session.treesForCheck index config with
      | none => false
      | some treeIds => !index.graphLoaded || config.entries.all (entryInTrees index treeIds)

end TraitSession

end RustyCore.Traits
