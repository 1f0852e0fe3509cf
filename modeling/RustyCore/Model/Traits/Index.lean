import Mathlib.Algebra.Group.Int.Defs
import Mathlib.Algebra.Group.Nat.Defs
import Mathlib.Data.Prod.Lex
import RustyCore.Library.Dict
import RustyCore.Library.KeyedTable

/-! # The index of the trait trees

The stores of the trait tables and the index that is built over them at startup. Ids of
32 bits are natural numbers, signed fields are integers. -/

namespace RustyCore.Traits

/-! ## Machine integers -/

/-- `u32::try_from(x).ok()` of an `i32`, which is below `2 ^ 31` -/
def tryU32 (x : ℤ) : Option ℕ := if 0 ≤ x ∧ x < 2 ^ 31 then some x.toNat else none

/-- `n as i32` -/
def asI32 (n : ℕ) : ℤ := if n % 2 ^ 32 < 2 ^ 31 then n % 2 ^ 32 else n % 2 ^ 32 - 2 ^ 32

/-- `x as u32` -/
def asU32 (x : ℤ) : ℕ := (x % 2 ^ 32).toNat

/-- An integer that an operation on `i32` saturates to. -/
def saturate (x : ℤ) : ℤ := max (-2 ^ 31) (min x (2 ^ 31 - 1))

/-- `x.saturating_add(y)` -/
def satAdd (x y : ℤ) : ℤ := saturate (x + y)

/-- `x.saturating_mul(y)` -/
def satMul (x y : ℤ) : ℤ := saturate (x * y)

/-! ## Records -/

structure TraitCondEntry where
  id : ℕ
  condType : ℤ
  grantedRanks : ℤ
  questId : ℤ
  achievementId : ℤ
  specSetId : ℤ
  traitNodeGroupId : ℤ
  traitNodeId : ℤ
  traitCurrencyId : ℤ
  spentAmountRequired : ℤ
  requiredLevel : ℤ
  deriving DecidableEq

structure TraitCostEntry where
  id : ℕ
  amount : ℤ
  traitCurrencyId : ℤ
  deriving DecidableEq

structure TraitCurrencyEntry where
  id : ℕ
  currencyType : ℤ
  currencyTypesId : ℤ
  deriving DecidableEq

structure TraitCurrencySourceEntry where
  id : ℕ
  traitCurrencyId : ℕ
  amount : ℤ
  questId : ℤ
  achievementId : ℤ
  playerLevel : ℤ
  traitNodeEntryId : ℤ
  orderIndex : ℤ
  deriving DecidableEq

structure TraitEdgeEntry where
  id : ℕ
  leftTraitNodeId : ℕ
  rightTraitNodeId : ℤ
  edgeType : ℤ
  deriving DecidableEq

structure TraitNodeEntry where
  id : ℕ
  traitTreeId : ℕ
  nodeType : ℕ
  deriving DecidableEq

structure TraitNodeEntryEntry where
  id : ℕ
  maxRanks : ℤ
  deriving DecidableEq

structure TraitNodeGroupEntry where
  id : ℕ
  deriving DecidableEq

/-- A row that gives an owner (a node entry, a group, a node or a tree) a cost or a condition. -/
structure TraitLinkEntry where
  id : ℕ
  owner : ℕ
  target : ℤ
  deriving DecidableEq

structure TraitNodeGroupXTraitNodeEntry where
  id : ℕ
  traitNodeGroupId : ℕ
  traitNodeId : ℤ
  deriving DecidableEq

structure TraitNodeXTraitNodeEntryEntry where
  id : ℕ
  traitNodeId : ℕ
  traitNodeEntryId : ℤ
  deriving DecidableEq

structure TraitTreeEntry where
  id : ℕ
  traitSystemId : ℕ
  deriving DecidableEq

structure TraitTreeXTraitCurrencyEntry where
  id : ℕ
  traitTreeId : ℕ
  traitCurrencyId : ℤ
  deriving DecidableEq

structure SkillLineXTraitTreeEntry where
  id : ℕ
  skillLineId : ℕ
  traitTreeId : ℤ
  orderIndex : ℤ
  deriving DecidableEq

structure SpecSetMemberEntry where
  id : ℕ
  chrSpecializationId : ℤ
  specSetId : ℕ
  deriving DecidableEq

/-- All trait tables, after the hotfixes. The order of the rows of a table is one order in
which a hash map may list them. -/
structure TraitStores where
  skillLineTrees : KeyedTable SkillLineXTraitTreeEntry.id := .empty
  trees : KeyedTable TraitTreeEntry.id := .empty
  nodes : KeyedTable TraitNodeEntry.id := .empty
  nodeEntries : KeyedTable TraitNodeEntryEntry.id := .empty
  nodeEntryConditions : KeyedTable TraitLinkEntry.id := .empty
  nodeEntryCosts : KeyedTable TraitLinkEntry.id := .empty
  groups : KeyedTable TraitNodeGroupEntry.id := .empty
  groupConditions : KeyedTable TraitLinkEntry.id := .empty
  groupCosts : KeyedTable TraitLinkEntry.id := .empty
  groupNodes : KeyedTable TraitNodeGroupXTraitNodeEntry.id := .empty
  nodeConditions : KeyedTable TraitLinkEntry.id := .empty
  nodeCosts : KeyedTable TraitLinkEntry.id := .empty
  nodeEntriesByNode : KeyedTable TraitNodeXTraitNodeEntryEntry.id := .empty
  edges : KeyedTable TraitEdgeEntry.id := .empty
  costs : KeyedTable TraitCostEntry.id := .empty
  conditions : KeyedTable TraitCondEntry.id := .empty
  treeCosts : KeyedTable TraitLinkEntry.id := .empty
  currencies : KeyedTable TraitCurrencyEntry.id := .empty
  currencySources : KeyedTable TraitCurrencySourceEntry.id := .empty
  treeCurrencies : KeyedTable TraitTreeXTraitCurrencyEntry.id := .empty
  specSetMembers : KeyedTable SpecSetMemberEntry.id := .empty

/-! ## The index -/

/-- The index that is built at startup. -/
structure TraitTreeSkillLineIndex where
  treesBySkillLine : Dict ℕ (List ℕ)
  treesByTraitSystem : Dict ℕ (List ℕ)
  skillLineByClass : Dict ℕ ℕ
  nodesByTree : Dict ℕ (List ℕ) := ∅
  entriesByNode : Dict ℕ (List ℕ) := ∅
  groupsByNode : Dict ℕ (List ℕ) := ∅
  /-- Left nodes and types of the edges to a node. -/
  parentsByNode : Dict ℕ (List (ℕ × ℤ)) := ∅
  treeCosts : Dict ℕ (List ℕ) := ∅
  nodeCosts : Dict ℕ (List ℕ) := ∅
  groupCosts : Dict ℕ (List ℕ) := ∅
  entryCosts : Dict ℕ (List ℕ) := ∅
  nodeConditions : Dict ℕ (List ℕ) := ∅
  groupConditions : Dict ℕ (List ℕ) := ∅
  entryConditions : Dict ℕ (List ℕ) := ∅
  nodes : KeyedTable TraitNodeEntry.id := .empty
  nodeEntries : KeyedTable TraitNodeEntryEntry.id := .empty
  costs : KeyedTable TraitCostEntry.id := .empty
  conditions : KeyedTable TraitCondEntry.id := .empty
  currenciesByTree : Dict ℕ (List TraitCurrencyEntry) := ∅
  currencySourcesByCurrency : Dict ℕ (List TraitCurrencySourceEntry) := ∅
  specSetMembers : List (ℤ × ℤ) := []
  graphLoaded : Bool := false

/-- `rows.sort_unstable_by_key(|row| row.id)`, where the ids are distinct -/
def sortById {α : Type} (idOf : α → ℕ) (rows : List α) : List α :=
  rows.insertionSort fun row row' => idOf row ≤ idOf row'

/-- `ids.sort_unstable(); ids.dedup();` -/
def sortDedup (ids : List ℕ) : List ℕ := (ids.insertionSort (· ≤ ·)).dedup

/-- The rows of a link table, sorted by id, whose owner and target exist. -/
def pushLinks (links : KeyedTable TraitLinkEntry.id) (ownerExists targetExists : ℕ → Bool) :
    Dict ℕ (List ℕ) :=
  (Dict.pushRows (fun link : TraitLinkEntry =>
    if ownerExists link.owner then
      (tryU32 link.target).bind fun target =>
        if targetExists target then some (link.owner, target) else none
    else none) (sortById TraitLinkEntry.id links.rows)).mapValues fun _ => sortDedup

namespace TraitTreeSkillLineIndex

def fromEffectiveStores (stores : TraitStores) (skillLineExists : ℕ → Bool)
    (classIdsForSkillLine : ℕ → List ℕ) : TraitTreeSkillLineIndex :=
  let validLinks := sortById SkillLineXTraitTreeEntry.id (stores.skillLineTrees.rows.filter
    fun link => match tryU32 link.traitTreeId with
      | none => false
      | some traitTreeId => link.skillLineId ≠ 0 && skillLineExists link.skillLineId &&
          (stores.trees.find traitTreeId).isSome)
  let bySkillLine := Dict.pushRows (fun link : SkillLineXTraitTreeEntry =>
    (tryU32 link.traitTreeId).map fun traitTreeId =>
      (link.skillLineId, toLex (link.orderIndex, traitTreeId))) validLinks
  let skillLineByClass := validLinks.foldl (fun byClass link =>
    (classIdsForSkillLine link.skillLineId).foldl (fun byClass classId =>
      byClass.insert classId link.skillLineId) byClass) ∅
  let treesByTraitSystem := Dict.pushRows (fun tree : TraitTreeEntry =>
    if tree.traitSystemId ≠ 0 then some (tree.traitSystemId, tree.id) else none) stores.trees.rows
  { treesBySkillLine := bySkillLine.mapValues fun _ rows =>
      (rows.insertionSort (· ≤ ·)).map fun row => (ofLex row).2
    treesByTraitSystem := treesByTraitSystem.mapValues fun _ ids => ids.insertionSort (· ≤ ·)
    skillLineByClass }

/-- The nodes, entries, groups and edges, with their costs and conditions. -/
def withTraitGraph (index : TraitTreeSkillLineIndex) (stores : TraitStores) :
    TraitTreeSkillLineIndex :=
  let costExists := fun costId => (stores.costs.find costId).isSome
  let conditionExists := fun conditionId => (stores.conditions.find conditionId).isSome
  let nodeExists := fun nodeId => (stores.nodes.find nodeId).isSome
  let nodeEntryExists := fun entryId => (stores.nodeEntries.find entryId).isSome
  let groupExists := fun groupId => (stores.groups.find groupId).isSome
  let treeExists := fun treeId => (stores.trees.find treeId).isSome
  { index with
    graphLoaded := true
    nodes := stores.nodes
    nodeEntries := stores.nodeEntries
    costs := stores.costs
    conditions := stores.conditions
    nodesByTree := (Dict.pushRows (fun node : TraitNodeEntry =>
      if node.traitTreeId ≠ 0 && treeExists node.traitTreeId then some (node.traitTreeId, node.id)
      else none) stores.nodes.rows).mapValues fun _ => sortDedup
    entriesByNode := (Dict.pushRows (fun link : TraitNodeXTraitNodeEntryEntry =>
      (tryU32 link.traitNodeEntryId).bind fun entryId =>
        if nodeExists link.traitNodeId && nodeEntryExists entryId then
          some (link.traitNodeId, entryId)
        else none) (sortById TraitNodeXTraitNodeEntryEntry.id stores.nodeEntriesByNode.rows)).mapValues
          fun _ => sortDedup
    groupsByNode := (Dict.pushRows (fun link : TraitNodeGroupXTraitNodeEntry =>
      (tryU32 link.traitNodeId).bind fun nodeId =>
        if groupExists link.traitNodeGroupId && nodeExists nodeId then
          some (nodeId, link.traitNodeGroupId)
        else none) (sortById TraitNodeGroupXTraitNodeEntry.id stores.groupNodes.rows)).mapValues
          fun _ => sortDedup
    parentsByNode := Dict.pushRows (fun edge : TraitEdgeEntry =>
      (tryU32 edge.rightTraitNodeId).bind fun right =>
        if nodeExists edge.leftTraitNodeId && nodeExists right then
          some (right, (edge.leftTraitNodeId, edge.edgeType))
        else none) (sortById TraitEdgeEntry.id stores.edges.rows)
    treeCosts := pushLinks stores.treeCosts treeExists costExists
    nodeCosts := pushLinks stores.nodeCosts nodeExists costExists
    groupCosts := pushLinks stores.groupCosts groupExists costExists
    entryCosts := pushLinks stores.nodeEntryCosts nodeEntryExists costExists
    nodeConditions := pushLinks stores.nodeConditions nodeExists conditionExists
    groupConditions := pushLinks stores.groupConditions groupExists conditionExists
    entryConditions := pushLinks stores.nodeEntryConditions nodeEntryExists conditionExists }

/-- Rows sorted by id, one of each id. -/
def sortDedupCurrencies (rows : List TraitCurrencyEntry) : List TraitCurrencyEntry :=
  (sortById TraitCurrencyEntry.id rows).pwFilter fun row row' => row.id ≠ row'.id

def withTraitCurrencyData (index : TraitTreeSkillLineIndex) (stores : TraitStores) :
    TraitTreeSkillLineIndex :=
  { index with
    currenciesByTree := (Dict.pushRows (fun row : TraitTreeXTraitCurrencyEntry =>
      (tryU32 row.traitCurrencyId).bind fun currencyId =>
        (stores.currencies.find currencyId).map fun currency => (row.traitTreeId, currency))
      stores.treeCurrencies.rows).mapValues fun _ => sortDedupCurrencies
    currencySourcesByCurrency := (Dict.pushRows (fun source : TraitCurrencySourceEntry =>
      some (source.traitCurrencyId, source)) stores.currencySources.rows).mapValues
        fun _ rows => rows.insertionSort fun row row' =>
          toLex (row.orderIndex, row.id) ≤ toLex (row'.orderIndex, row'.id)
    specSetMembers := stores.specSetMembers.rows.map fun row =>
      (asI32 row.specSetId, row.chrSpecializationId) }

/-- The index that the server builds over all its tables. -/
def load (stores : TraitStores) (skillLineExists : ℕ → Bool)
    (classIdsForSkillLine : ℕ → List ℕ) : TraitTreeSkillLineIndex :=
  ((fromEffectiveStores stores skillLineExists classIdsForSkillLine).withTraitGraph
    stores).withTraitCurrencyData stores

section Lookups

variable (index : TraitTreeSkillLineIndex)

def nodesForTree (treeId : ℕ) : List ℕ := index.nodesByTree.slice treeId

def entriesForNode (nodeId : ℕ) : List ℕ := index.entriesByNode.slice nodeId

def groupsForNode (nodeId : ℕ) : List ℕ := index.groupsByNode.slice nodeId

def parentNodesForNode (nodeId : ℕ) : List (ℕ × ℤ) := index.parentsByNode.slice nodeId

def costIdsForTree (treeId : ℕ) : List ℕ := index.treeCosts.slice treeId

def costIdsForNode (nodeId : ℕ) : List ℕ := index.nodeCosts.slice nodeId

def costIdsForGroup (groupId : ℕ) : List ℕ := index.groupCosts.slice groupId

def costIdsForEntry (entryId : ℕ) : List ℕ := index.entryCosts.slice entryId

def conditionIdsForNode (nodeId : ℕ) : List ℕ := index.nodeConditions.slice nodeId

def conditionIdsForGroup (groupId : ℕ) : List ℕ := index.groupConditions.slice groupId

def conditionIdsForEntry (entryId : ℕ) : List ℕ := index.entryConditions.slice entryId

def entryBelongsToTreeSet (treeIds : List ℕ) (nodeId entryId : ℕ) : Bool :=
  treeIds.any fun treeId => (index.nodesForTree treeId).contains nodeId &&
    (index.entriesForNode nodeId).contains entryId

def treesForSkillLine (skillLineId : ℕ) : List ℕ := index.treesBySkillLine.slice skillLineId

def hasSkillLine (skillLineId : ℕ) : Bool := ¬ (index.treesForSkillLine skillLineId).isEmpty

def treesForTraitSystem (traitSystemId : ℕ) : List ℕ :=
  index.treesByTraitSystem.slice traitSystemId

def hasTraitSystem (traitSystemId : ℕ) : Bool :=
  ¬ (index.treesForTraitSystem traitSystemId).isEmpty

def treesForClass (classId : ℕ) : List ℕ :=
  ((index.skillLineByClass.lookup classId).map index.treesForSkillLine).getD []

def hasClass (classId : ℕ) : Bool := ¬ (index.treesForClass classId).isEmpty

end Lookups

end TraitTreeSkillLineIndex

end RustyCore.Traits
