import RustyCore.Library.CallTree
import RustyCore.Library.Dict
import Mathlib.Data.List.Destutter
import Mathlib.Data.BitVec

/-! # Loot templates

The stores of loot templates, how they are loaded, and the walks over a template, which follow
its reference rows into the reference store. The arithmetic of `f32` is a parameter, and so are
the generator of random numbers and the callbacks, which share one state. -/

namespace RustyCore.Loot

/-- The operations of `f32`. -/
structure LootFloats (φ : Type) where
  zero : φ
  one : φ
  hundred : φ
  minNonZeroLootChance : φ
  mul : φ → φ → φ
  sub : φ → φ → φ
  eq : φ → φ → Bool
  lt : φ → φ → Bool
  le : φ → φ → Bool
  ofU8 : BitVec 8 → φ
  toU32 : φ → BitVec 32

def maxNrLootItems : ℕ := 18

structure LootStoreItem (φ : Type) where
  itemId : BitVec 32
  reference : BitVec 32
  chance : φ
  needsQuest : Bool
  lootMode : BitVec 16
  groupId : BitVec 8
  minCount : BitVec 8
  maxCount : BitVec 8

inductive LootStoreKind where
  | creature | disenchant | fishing | gameobject | item | mail | milling | pickpocketing
  | prospecting | reference | skinning | spell
deriving DecidableEq

structure LootStoreDefinition where
  tableName : String
  entryName : String
  ratesAllowed : Bool

def LootStoreKind.definition : LootStoreKind → LootStoreDefinition
  | creature => ⟨"creature_loot_template", "creature entry", true⟩
  | disenchant => ⟨"disenchant_loot_template", "item disenchant id", true⟩
  | fishing => ⟨"fishing_loot_template", "area id", true⟩
  | gameobject => ⟨"gameobject_loot_template", "gameobject entry", true⟩
  | item => ⟨"item_loot_template", "item entry", true⟩
  | mail => ⟨"mail_loot_template", "mail template id", false⟩
  | milling => ⟨"milling_loot_template", "item entry (herb)", true⟩
  | pickpocketing => ⟨"pickpocketing_loot_template", "creature pickpocket lootid", true⟩
  | prospecting => ⟨"prospecting_loot_template", "item entry (ore)", true⟩
  | reference => ⟨"reference_loot_template", "reference id", false⟩
  | skinning => ⟨"skinning_loot_template", "creature skinning id", true⟩
  | spell => ⟨"spell_loot_template", "spell id (random item creating)", false⟩

def LootStoreKind.conditionSourceType : LootStoreKind → ℤ
  | creature => 1
  | disenchant => 2
  | fishing => 3
  | gameobject => 4
  | item => 5
  | mail => 6
  | milling => 7
  | pickpocketing => 8
  | prospecting => 9
  | reference => 10
  | skinning => 11
  | spell => 12

structure LootGroup (φ : Type) where
  explicitlyChanced : List (LootStoreItem φ)
  equalChanced : List (LootStoreItem φ)

structure LootTemplate (φ : Type) where
  entries : List (LootStoreItem φ)
  groups : List (LootGroup φ)

structure LootStore (φ : Type) where
  definition : LootStoreDefinition
  templates : Dict (BitVec 32) (LootTemplate φ)

abbrev LootStores (φ : Type) := Dict LootStoreKind (LootStore φ)

variable {φ σ : Type} (floats : LootFloats φ)

/-! ## Loading -/

def LootStoreItem.isValid (item : LootStoreItem φ) (itemExists : Bool) : Bool :=
  if item.minCount = 0 then false
  else if item.reference = 0 then
    if item.itemId == 0 || !itemExists then false
    else if floats.eq item.chance floats.zero && item.groupId == 0 then false
    else if !floats.eq item.chance floats.zero &&
        floats.lt item.chance floats.minNonZeroLootChance then false
    else item.minCount ≤ item.maxCount
  else item.needsQuest || !floats.eq item.chance floats.zero

def LootGroup.addEntry (group : LootGroup φ) (item : LootStoreItem φ) : LootGroup φ :=
  if !floats.eq item.chance floats.zero then
    { group with explicitlyChanced := group.explicitlyChanced ++ [item] }
  else { group with equalChanced := group.equalChanced ++ [item] }

/-- `resize_with(index + 1, LootGroup::default)`, which never shortens here. -/
def growGroups (groups : List (LootGroup φ)) (index : ℕ) : List (LootGroup φ) :=
  groups ++ List.replicate (index + 1 - groups.length) ⟨[], []⟩

def LootTemplate.addEntry (template : LootTemplate φ) (item : LootStoreItem φ) :
    LootTemplate φ :=
  if item.groupId ≠ 0 ∧ item.reference = 0 then
    { template with
      groups := (growGroups template.groups (item.groupId.toNat - 1)).modify
        (item.groupId.toNat - 1) fun group => group.addEntry floats item }
  else { template with entries := template.entries ++ [item] }

structure LootTemplateRow (φ : Type) where
  entry : BitVec 32
  item : LootStoreItem φ

inductive LootStoreLoadError where
  | invalidGroupId (tableName : String) (entry itemId : BitVec 32) (groupId : BitVec 8)

namespace LootStore

def forKind (kind : LootStoreKind) : LootStore φ := ⟨kind.definition, ∅⟩

def getLootFor (store : LootStore φ) (lootId : BitVec 32) : Option (LootTemplate φ) :=
  store.templates.lookup lootId

def addRow (store : LootStore φ) (row : LootTemplateRow φ) : LootStore φ :=
  { store with
    templates := AList.insert row.entry
      (((store.templates.lookup row.entry).getD ⟨[], []⟩).addEntry floats row.item)
      store.templates }

/-- The rows are read one by one; the count saturates. -/
def loadRemaining (itemExists : BitVec 32 → Bool) :
    LootStore φ → ℕ → List (LootTemplateRow φ) → LootStore φ × Except LootStoreLoadError ℕ
  | store, count, [] => (store, .ok count)
  | store, count, row :: rows =>
    if 128 ≤ row.item.groupId.toNat then
      (store, .error (.invalidGroupId store.definition.tableName row.entry row.item.itemId
        row.item.groupId))
    else if row.item.isValid floats (row.item.reference != 0 || itemExists row.item.itemId) then
      loadRemaining itemExists (store.addRow floats row) (min (count + 1) 4294967295) rows
    else loadRemaining itemExists store count rows

def loadRows (store : LootStore φ) (rows : List (LootTemplateRow φ))
    (itemExists : BitVec 32 → Bool) : LootStore φ × Except LootStoreLoadError ℕ :=
  loadRemaining floats itemExists { store with templates := ∅ } 0 rows

end LootStore

/-- The template that a reference row leads to. -/
def LootStores.referenceTemplate (stores : LootStores φ) (reference : BitVec 32) :
    Option (LootTemplate φ) :=
  (stores.lookup .reference).bind fun store => store.getLootFor reference

/-! ## Walks

A walk over one template is a computation that calls the walks over the templates of its
reference rows. -/

/-- One call of a walk. -/
structure TemplateCall (φ : Type) where
  template : LootTemplate φ
  storeKind : LootStoreKind
  entry : BitVec 32
  groupId : BitVec 8

/-- The call for a reference row. -/
def LootStoreItem.referenceCall (item : LootStoreItem φ) (template : LootTemplate φ) :
    TemplateCall φ where
  template := template
  storeKind := .reference
  entry := item.reference
  groupId := item.groupId

/-- The group that a call with a group id is about. -/
def TemplateCall.group (call : TemplateCall φ) : Option (LootGroup φ) :=
  call.template.groups[call.groupId.toNat - 1]?

def LootGroup.items (group : LootGroup φ) : List (LootStoreItem φ) :=
  group.explicitlyChanced ++ group.equalChanced

/-! ### Conditions -/

structure LootConditionId where
  sourceType : ℤ
  sourceGroup : BitVec 32
  sourceEntry : BitVec 32
deriving DecidableEq

def LootConditionId.le (id id' : LootConditionId) : Bool :=
  id.sourceType < id'.sourceType || (id.sourceType == id'.sourceType &&
    (id.sourceGroup < id'.sourceGroup || (id.sourceGroup == id'.sourceGroup &&
      id.sourceEntry ≤ id'.sourceEntry)))

def TemplateCall.conditionId (call : TemplateCall φ) (item : LootStoreItem φ) :
    LootConditionId where
  sourceType := call.storeKind.conditionSourceType
  sourceGroup := call.entry
  sourceEntry := item.itemId

def LootGroup.conditionIds (group : LootGroup φ) (call : TemplateCall φ) :
    List LootConditionId := group.items.map call.conditionId

section Conditions

variable (stores : LootStores φ) (call : TemplateCall φ)

/-- The ids that the plain entries append. -/
def entryConditionIds : List (LootStoreItem φ) →
    CallTree (TemplateCall φ) (List LootConditionId) (List LootConditionId)
  | [] => return []
  | item :: items =>
    if item.reference = 0 then
      return call.conditionId item :: (← entryConditionIds items)
    else
      match stores.referenceTemplate item.reference with
      | none => entryConditionIds items
      | some template => do
          let ids ← CallTree.ask (item.referenceCall template)
          return ids ++ (← entryConditionIds items)

/-- `append_condition_ids_for_fill_like_cpp`, with the ids it appends as its value. -/
def appendConditionIdsForFill :
    CallTree (TemplateCall φ) (List LootConditionId) (List LootConditionId) :=
  if call.groupId ≠ 0 then return call.group.elim [] fun group => group.conditionIds call
  else do
    let ids ← entryConditionIds stores call call.template.entries
    return ids ++ call.template.groups.flatMap fun group => group.conditionIds call

end Conditions

/-- The value of a walk whose calls nest less than `depth` deep. -/
def LootStore.conditionIdsForFill (store : LootStore φ) (lootId : BitVec 32)
    (storeKind : LootStoreKind) (stores : LootStores φ) (depth : ℕ) :
    Option (List LootConditionId) :=
  match store.getLootFor lootId with
  | none => some []
  | some template =>
    (recurse (appendConditionIdsForFill stores) depth ⟨template, storeKind, lootId, 0⟩).map
      fun ids => (ids.mergeSort LootConditionId.le).destutter (· ≠ ·)

/-! ### Quest drops -/

section QuestDrops

variable (stores : LootStores φ) (playerHasQuestForItem : BitVec 32 → Bool)

def LootGroup.hasQuestDrop (group : LootGroup φ) : Bool :=
  group.items.any fun item => item.needsQuest && playerHasQuestForItem item.itemId

def entriesHaveQuestDrop :
    List (LootStoreItem φ) → CallTree (LootTemplate φ × BitVec 8) Bool Bool
  | [] => return false
  | item :: items =>
    if item.reference = 0 then
      if item.needsQuest then return true else entriesHaveQuestDrop items
    else
      match stores.referenceTemplate item.reference with
      | none => entriesHaveQuestDrop items
      | some template => do
          if ← CallTree.ask (template, item.groupId) then return true
          else entriesHaveQuestDrop items

/-- `has_quest_drop_like_cpp` of a template, for a group id. -/
def hasQuestDrop (call : LootTemplate φ × BitVec 8) :
    CallTree (LootTemplate φ × BitVec 8) Bool Bool :=
  if call.2 ≠ 0 then
    return call.1.groups[call.2.toNat - 1]?.any fun group =>
      group.hasQuestDrop playerHasQuestForItem
  else do
    if ← entriesHaveQuestDrop stores call.1.entries then return true
    else return call.1.groups.any fun group => group.hasQuestDrop playerHasQuestForItem

end QuestDrops

def LootStore.haveQuestLootFor (store : LootStore φ) (lootId : BitVec 32)
    (stores : LootStores φ) (depth : ℕ) : Option Bool :=
  match store.getLootFor lootId with
  | none => some false
  | some template => recurse (hasQuestDrop stores fun _ => true) depth (template, 0)

/-! ### Filling -/

structure LootStoreItemContext (φ : Type) where
  storeKind : LootStoreKind
  entry : BitVec 32
  item : LootStoreItem φ

structure LootItemRandomProperties where
  id : BitVec 32
  seed : BitVec 32

structure LootItemTemplateMetadata where
  maxStack : BitVec 32
  hasMultiDropFlag : Bool
  hasFollowLootRulesFlag : Bool

structure GeneratedLootItem (φ : Type) where
  itemId : BitVec 32
  count : BitVec 32
  lootListId : ℕ
  randomPropertiesId : BitVec 32
  randomPropertiesSeed : BitVec 32
  context : BitVec 8
  storeItemContext : LootStoreItemContext φ
  freeForAll : Bool
  followLootRules : Bool
  needsQuest : Bool
  isLooted : Bool
  isBlocked : Bool
  isUnderThreshold : Bool
  isCounted : Bool

structure LootFillOptions (φ : Type) where
  lootMode : BitVec 16
  ratesAllowed : Bool
  referencedAmountRate : φ
  itemContext : BitVec 8

/-- The generator and the callbacks of a fill; all of them may change the state `σ`. -/
structure LootFillEnvironment (φ σ : Type) where
  genPercent : σ → φ × σ
  genCount : BitVec 8 → BitVec 8 → σ → BitVec 32 × σ
  genIndex : ℕ → σ → ℕ × σ
  itemTemplate : BitVec 32 → σ → Option LootItemTemplateMetadata × σ
  itemChanceRate : LootStoreItem φ → σ → φ × σ
  itemAllowed : LootStoreItemContext φ → σ → Bool × σ
  randomProperties : BitVec 32 → σ → LootItemRandomProperties × σ

/-- The state of the environment and what was generated so far. -/
structure LootFillState (φ σ : Type) where
  environment : σ
  generated : List (GeneratedLootItem φ)

def LootFillState.isFull (state : LootFillState φ σ) : Bool :=
  maxNrLootItems ≤ state.generated.length

section Filling

variable (env : LootFillEnvironment φ σ) (options : LootFillOptions φ)

/-- `roll_chance_like_cpp`. -/
def rollChance (chance : φ) (s : σ) : Bool × σ :=
  if floats.le chance floats.zero then (false, s)
  else if floats.le floats.hundred chance then (true, s)
  else
    let rolled := env.genPercent s
    (floats.lt rolled.1 chance, rolled.2)

def LootStoreItem.roll (item : LootStoreItem φ) (chanceMultiplier : φ) (s : σ) : Bool × σ :=
  if floats.le floats.hundred item.chance then (true, s)
  else rollChance floats env (floats.mul item.chance chanceMultiplier) s

/-- `generated.push`, for the stacks that are left. -/
def addStacks (context : LootStoreItemContext φ) (metadata : LootItemTemplateMetadata) :
    ℕ → BitVec 32 → LootFillState φ σ → LootFillState φ σ
  | 0, _, state => state
  | remaining + 1, count, state =>
    if state.isFull then state
    else
      let item := context.item
      let properties := env.randomProperties item.itemId state.environment
      addStacks context metadata remaining
        (BitVec.ofNat 32 (count.toNat - metadata.maxStack.toNat))
        { environment := properties.2
          generated := state.generated ++
            [{ itemId := item.itemId
               count := if count ≤ metadata.maxStack then count else metadata.maxStack
               lootListId := state.generated.length
               randomPropertiesId := properties.1.id
               randomPropertiesSeed := properties.1.seed
               context := options.itemContext
               storeItemContext := context
               freeForAll := metadata.hasMultiDropFlag
               followLootRules := !item.needsQuest || metadata.hasFollowLootRulesFlag
               needsQuest := item.needsQuest
               isLooted := false
               isBlocked := false
               isUnderThreshold := false
               isCounted := false }] }

def addGeneratedLootItem (context : LootStoreItemContext φ) (state : LootFillState φ σ) :
    LootFillState φ σ :=
  let template := env.itemTemplate context.item.itemId state.environment
  match template.1 with
  | none => { state with environment := template.2 }
  | some metadata =>
    if metadata.maxStack = 0 then { state with environment := template.2 }
    else
      let counted := env.genCount context.item.minCount context.item.maxCount template.2
      let count := counted.1.toNat
      let maxStack := metadata.maxStack.toNat
      let stackTotal := count / maxStack + if count % maxStack ≠ 0 then 1 else 0
      addStacks env options context metadata stackTotal counted.1
        { state with environment := counted.2 }

/-- The items of the loot mode that are allowed; asking may change the state. -/
def allowedItems (contextOf : LootStoreItem φ → LootStoreItemContext φ) :
    List (LootStoreItem φ) → σ → List (LootStoreItem φ) × σ
  | [], s => ([], s)
  | item :: items, s =>
    if item.lootMode &&& options.lootMode = 0 then allowedItems contextOf items s
    else
      let allowed := env.itemAllowed (contextOf item) s
      let rest := allowedItems contextOf items allowed.2
      (if allowed.1 then item :: rest.1 else rest.1, rest.2)

/-- The first item whose chance uses up the roll. -/
def pickExplicit : List (LootStoreItem φ) → φ → Option (LootStoreItem φ)
  | [], _ => none
  | item :: items, roll =>
    if floats.le floats.hundred item.chance then some item
    else if floats.lt (floats.sub roll item.chance) floats.zero then some item
    else pickExplicit items (floats.sub roll item.chance)

def LootGroup.rollWithContext (group : LootGroup φ)
    (contextOf : LootStoreItem φ → LootStoreItemContext φ) (s : σ) :
    Option (LootStoreItem φ) × σ :=
  let explicit := allowedItems env options contextOf group.explicitlyChanced s
  let picked : Option (LootStoreItem φ) × σ :=
    if explicit.1.isEmpty then (none, explicit.2)
    else
      let roll := env.genPercent explicit.2
      (pickExplicit floats explicit.1 roll.1, roll.2)
  match picked.1 with
  | some item => (some item, picked.2)
  | none =>
    let equal := allowedItems env options contextOf group.equalChanced picked.2
    if equal.1.isEmpty then (none, equal.2)
    else
      let index := env.genIndex equal.1.length equal.2
      (equal.1[index.1]?, index.2)

def LootGroup.process (group : LootGroup φ) (call : TemplateCall φ)
    (state : LootFillState φ σ) : LootFillState φ σ :=
  let contextOf := LootStoreItemContext.mk call.storeKind call.entry
  let rolled := group.rollWithContext floats env options contextOf state.environment
  match rolled.1 with
  | none => { state with environment := rolled.2 }
  | some item =>
    addGeneratedLootItem env options (contextOf item) { state with environment := rolled.2 }

def processGroups (call : TemplateCall φ) :
    List (LootGroup φ) → LootFillState φ σ → LootFillState φ σ
  | [], state => state
  | group :: groups, state =>
    if state.isFull then state
    else processGroups call groups (group.process floats env options call state)

/-- A fill calls fills of other templates, handing over the state. -/
abbrev LootFill (φ σ : Type) : Type → Type :=
  CallTree (TemplateCall φ × LootFillState φ σ) (LootFillState φ σ)

/-- The repeated fills of one reference row. -/
def processReference (call : TemplateCall φ) :
    ℕ → LootFillState φ σ → LootFill φ σ (LootFillState φ σ)
  | 0, state => return state
  | rounds + 1, state => do
      let filled ← CallTree.ask (call, state)
      if filled.isFull then return filled else processReference call rounds filled

variable (stores : LootStores φ)

def processEntry (call : TemplateCall φ) (item : LootStoreItem φ)
    (state : LootFillState φ σ) : LootFill φ σ (LootFillState φ σ) :=
  if item.lootMode &&& options.lootMode = 0 then return state
  else
    let rate : φ × σ :=
      if options.ratesAllowed then env.itemChanceRate item state.environment
      else (floats.one, state.environment)
    let rolled := item.roll floats env rate.1 rate.2
    if !rolled.1 then return { state with environment := rolled.2 }
    else if item.reference = 0 then
      let context : LootStoreItemContext φ := ⟨call.storeKind, call.entry, item⟩
      let allowed := env.itemAllowed context rolled.2
      if !allowed.1 then return { state with environment := allowed.2 }
      else return addGeneratedLootItem env options context { state with environment := allowed.2 }
    else
      match stores.referenceTemplate item.reference with
      | none => return { state with environment := rolled.2 }
      | some template =>
        let maxCount :=
          floats.toU32 (floats.mul (floats.ofU8 item.maxCount) options.referencedAmountRate)
        processReference (item.referenceCall template) maxCount.toNat
          { state with environment := rolled.2 }

/-- The plain entries; once the loot is full, the groups add nothing either. -/
def processEntries (call : TemplateCall φ) :
    List (LootStoreItem φ) → LootFillState φ σ → LootFill φ σ (LootFillState φ σ)
  | [], state => return state
  | item :: items, state =>
    if state.isFull then return state
    else do
      processEntries call items (← processEntry floats env options stores call item state)

/-- `process_like_cpp` of a template. -/
def processTemplate (start : TemplateCall φ × LootFillState φ σ) :
    LootFill φ σ (LootFillState φ σ) :=
  if start.2.isFull then return start.2
  else if start.1.groupId ≠ 0 then
    match start.1.group with
    | none => return start.2
    | some group => return group.process floats env options start.1 start.2
  else do
    let state ← processEntries floats env options stores start.1 start.1.template.entries start.2
    return processGroups floats env options start.1 start.1.template.groups state

end Filling

inductive LootFillError where
  | missingLootTemplate (lootId : BitVec 32)

def LootStore.fillLootWithContext (store : LootStore φ) (lootId : BitVec 32)
    (storeKind : LootStoreKind) (stores : LootStores φ) (options : LootFillOptions φ)
    (env : LootFillEnvironment φ σ) (s : σ) (depth : ℕ) :
    Option (Except LootFillError (List (GeneratedLootItem φ))) :=
  match store.getLootFor lootId with
  | none => some (.error (.missingLootTemplate lootId))
  | some template =>
    (recurse (processTemplate floats env options stores) depth
      (⟨template, storeKind, lootId, 0⟩, ⟨s, []⟩)).map fun state => .ok state.generated

end RustyCore.Loot
