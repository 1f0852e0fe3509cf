import RustyCore.Model.Loot.CreatureLoot
import RustyCore.Model.Loot.Templates

/-! # Personal loot

A fill that hands each item to one looter out of those who may have it. What a reference row
leads to is filled for one looter at a time, as shared loot is. -/

namespace RustyCore.Loot

variable {φ σ : Type} (floats : LootFloats φ)

structure GeneratedPersonalLootItem (φ : Type) where
  looter : ObjectGuid
  item : GeneratedLootItem φ

/-- The generator and the callbacks of a personal fill; all of them may change the state `σ`. -/
structure PersonalFillEnvironment (φ σ : Type) where
  genPercent : σ → φ × σ
  genCount : BitVec 8 → BitVec 8 → σ → BitVec 32 × σ
  genIndex : ℕ → σ → ℕ × σ
  itemTemplate : BitVec 32 → σ → Option LootItemTemplateMetadata × σ
  itemChanceRate : LootStoreItem φ → σ → φ × σ
  itemAllowed : LootStoreItemContext φ → ObjectGuid → σ → Bool × σ
  randomProperties : BitVec 32 → σ → LootItemRandomProperties × σ

/-- The environment of a shared fill, with its own answer to which items are allowed. -/
def PersonalFillEnvironment.withAllowed (env : PersonalFillEnvironment φ σ)
    (itemAllowed : LootStoreItemContext φ → σ → Bool × σ) : LootFillEnvironment φ σ where
  genPercent := env.genPercent
  genCount := env.genCount
  genIndex := env.genIndex
  itemTemplate := env.itemTemplate
  itemChanceRate := env.itemChanceRate
  itemAllowed := itemAllowed
  randomProperties := env.randomProperties

def PersonalFillEnvironment.forLooter (env : PersonalFillEnvironment φ σ) (looter : ObjectGuid) :
    LootFillEnvironment φ σ := env.withAllowed fun context => env.itemAllowed context looter

/-- The state of the environment and what was generated so far. -/
structure PersonalFillState (φ σ : Type) where
  environment : σ
  generated : List (GeneratedPersonalLootItem φ)

def PersonalFillState.isFull (state : PersonalFillState φ σ) : Bool :=
  maxNrLootItems ≤ state.generated.length

variable (env : PersonalFillEnvironment φ σ) (options : LootFillOptions φ)

/-! ## Adding items -/

/-- `generated.push`, for the stacks that are left. -/
def addPersonalStacks (looter : ObjectGuid) (context : LootStoreItemContext φ)
    (metadata : LootItemTemplateMetadata) :
    ℕ → BitVec 32 → PersonalFillState φ σ → PersonalFillState φ σ
  | 0, _, state => state
  | remaining + 1, count, state =>
    if state.isFull then state
    else
      let item := context.item
      let properties := env.randomProperties item.itemId state.environment
      addPersonalStacks looter context metadata remaining
        (BitVec.ofNat 32 (count.toNat - metadata.maxStack.toNat))
        { environment := properties.2
          generated := state.generated ++
            [{ looter := looter
               item :=
                { itemId := item.itemId
                  count := if count ≤ metadata.maxStack then count else metadata.maxStack
                  lootListId := state.generated.length
                  randomPropertiesId := properties.1.id
                  randomPropertiesSeed := properties.1.seed
                  context := options.itemContext
                  storeItemContext := context
                  freeForAll := metadata.hasMultiDropFlag
                  followLootRules := !item.needsQuest || metadata.hasFollowLootRulesFlag
                  needsQuest := item.needsQuest
                  isLooted := false
                  isBlocked := false
                  isUnderThreshold := false
                  isCounted := false } }] }

def addGeneratedPersonalLootItem (looter : ObjectGuid) (context : LootStoreItemContext φ)
    (state : PersonalFillState φ σ) : PersonalFillState φ σ :=
  let template := env.itemTemplate context.item.itemId state.environment
  match template.1 with
  | none => { state with environment := template.2 }
  | some metadata =>
    if metadata.maxStack = 0 then { state with environment := template.2 }
    else
      let counted := env.genCount context.item.minCount context.item.maxCount template.2
      let count := counted.1.toNat
      let maxStack := metadata.maxStack.toNat
      let stackTotal := count / maxStack + if count % maxStack ≠ 0 then 1 else 0
      addPersonalStacks env options looter context metadata stackTotal counted.1
        { state with environment := counted.2 }

/-- Hand over what was filled for the looter, numbered anew. -/
def pushForLooter (looter : ObjectGuid) :
    List (GeneratedLootItem φ) → List (GeneratedPersonalLootItem φ) →
      List (GeneratedPersonalLootItem φ)
  | [], generated => generated
  | item :: items, generated =>
    pushForLooter looter items
      (generated ++ [⟨looter, { item with lootListId := generated.length }⟩])

/-! ## Who may have something -/

/-- `filter`, with a predicate that may change the state and may get stuck. -/
def filterLooters (allowed : ObjectGuid → σ → Option (Bool × σ)) :
    List ObjectGuid → σ → Option (List ObjectGuid × σ)
  | [], s => some ([], s)
  | looter :: looters, s => do
      let answer ← allowed looter s
      let rest ← filterLooters allowed looters answer.2
      return (if answer.1 then looter :: rest.1 else rest.1, rest.2)

section Drops

variable (looter : ObjectGuid)

/-- `any`, which stops at the first item that is allowed. -/
def anyAllowed (call : TemplateCall φ) : List (LootStoreItem φ) → σ → Bool × σ
  | [], s => (false, s)
  | item :: items, s =>
    let answer := env.itemAllowed ⟨call.storeKind, call.entry, item⟩ looter s
    if answer.1 then (true, answer.2) else anyAllowed call items answer.2

def LootGroup.hasDropForPersonalLooter (group : LootGroup φ) (call : TemplateCall φ) (s : σ) :
    Bool × σ := anyAllowed env looter call group.items s

def groupsHaveDrop (call : TemplateCall φ) : List (LootGroup φ) → σ → Bool × σ
  | [], s => (false, s)
  | group :: groups, s =>
    let answer := group.hasDropForPersonalLooter env looter call s
    if answer.1 then (true, answer.2) else groupsHaveDrop call groups answer.2

/-- Asking whether a template has a drop asks other templates, handing over the state. -/
abbrev DropSearch (φ σ : Type) : Type → Type := CallTree (TemplateCall φ × σ) (Bool × σ)

variable (stores : LootStores φ)

def entriesHaveDrop (call : TemplateCall φ) :
    List (LootStoreItem φ) → σ → DropSearch φ σ (Bool × σ)
  | [], s => return (false, s)
  | item :: items, s =>
    if item.reference = 0 then
      let answer := env.itemAllowed ⟨call.storeKind, call.entry, item⟩ looter s
      if answer.1 then return (true, answer.2) else entriesHaveDrop call items answer.2
    else
      match stores.referenceTemplate item.reference with
      | none => entriesHaveDrop call items s
      | some template => do
          let answer ← CallTree.ask (item.referenceCall template, s)
          if answer.1 then return (true, answer.2) else entriesHaveDrop call items answer.2

/-- `has_drop_for_personal_looter_like_cpp` of a template. -/
def hasDropForPersonalLooter (start : TemplateCall φ × σ) : DropSearch φ σ (Bool × σ) :=
  if start.1.groupId ≠ 0 then
    match start.1.group with
    | none => return (false, start.2)
    | some group => return group.hasDropForPersonalLooter env looter start.1 start.2
  else do
    let answer ← entriesHaveDrop env looter stores start.1 start.1.template.entries start.2
    if answer.1 then return (true, answer.2)
    else return groupsHaveDrop env looter start.1 start.1.template.groups answer.2

end Drops

/-! ## Filling -/

variable (stores : LootStores φ) (looters : List ObjectGuid) (depth : ℕ)

def personalLootersForTemplate (call : TemplateCall φ) (s : σ) : Option (List ObjectGuid × σ) :=
  filterLooters (fun looter s => recurse (hasDropForPersonalLooter env looter stores) depth (call, s))
    looters s

/-- One call of `process_for_personal_looter_like_cpp`. -/
structure LooterRound (φ σ : Type) where
  call : TemplateCall φ
  looter : ObjectGuid
  state : PersonalFillState φ σ

/-- The shared loot of the template for the looter, from an empty list. -/
def LooterRound.filled (round : LooterRound φ σ) : Option (LootFillState φ σ) :=
  recurse (processTemplate floats (env.forLooter round.looter) options stores) depth
    (round.call, ⟨round.state.environment, []⟩)

def processForPersonalLooter (round : LooterRound φ σ) : Option (PersonalFillState φ σ) :=
  (round.filled floats env options stores depth).map fun filled =>
    ⟨filled.environment, pushForLooter round.looter filled.generated round.state.generated⟩

/-- A personal fill runs rounds for single looters, each from where it stands. -/
abbrev PersonalFill (φ σ : Type) : Type → Type :=
  CallTree (LooterRound φ σ) (PersonalFillState φ σ)

/-- The rounds of one reference row. -/
def personalRounds (call : TemplateCall φ) :
    ℕ → List ObjectGuid → PersonalFillState φ σ → PersonalFill φ σ (PersonalFillState φ σ)
  | 0, _, state => return state
  | rounds + 1, gotLoot, state =>
    match personalLootersForTemplate env stores looters depth call state.environment with
    | none => .stuck
    | some (eligible, s) =>
      if eligible.isEmpty then return { state with environment := s }
      else
        let notYetLooted := eligible.filter fun looter => !gotLoot.contains looter
        let candidates := if notYetLooted.isEmpty then eligible else notYetLooted
        let index := env.genIndex candidates.length s
        match candidates[index.1]? with
        | none => .stuck
        | some looter => do
            let filled ← CallTree.ask ⟨call, looter, { state with environment := index.2 }⟩
            personalRounds call rounds
              ((if notYetLooted.isEmpty then [] else gotLoot) ++ [looter]) filled

/-- Hand the item of a plain row to one of those who may have it. -/
def processPlainEntry (call : TemplateCall φ) (item : LootStoreItem φ)
    (state : PersonalFillState φ σ) : PersonalFill φ σ (PersonalFillState φ σ) :=
  let context : LootStoreItemContext φ := ⟨call.storeKind, call.entry, item⟩
  match filterLooters (fun looter s => some (env.itemAllowed context looter s)) looters
      state.environment with
  | none => .stuck
  | some (candidates, s) =>
    if candidates.isEmpty then return { state with environment := s }
    else
      let index := env.genIndex candidates.length s
      match candidates[index.1]? with
      | none => .stuck
      | some looter =>
        return addGeneratedPersonalLootItem env options looter context
          { state with environment := index.2 }

def processPersonalEntry (call : TemplateCall φ) (item : LootStoreItem φ)
    (state : PersonalFillState φ σ) : PersonalFill φ σ (PersonalFillState φ σ) :=
  if item.lootMode &&& options.lootMode = 0 then return state
  else
    let rate : φ × σ :=
      if options.ratesAllowed then env.itemChanceRate item state.environment
      else (floats.one, state.environment)
    -- a roll asks no callback, so any answer to what is allowed does
    let rolled := item.roll floats (env.withAllowed fun _ s => (true, s)) rate.1 rate.2
    if !rolled.1 then return { state with environment := rolled.2 }
    else if item.reference = 0 then
      processPlainEntry env options looters call item { state with environment := rolled.2 }
    else
      match stores.referenceTemplate item.reference with
      | none => return { state with environment := rolled.2 }
      | some template =>
        let maxCount :=
          floats.toU32 (floats.mul (floats.ofU8 item.maxCount) options.referencedAmountRate)
        personalRounds env stores looters depth (item.referenceCall template) maxCount.toNat []
          { state with environment := rolled.2 }

/-- The plain entries; once the loot is full, the groups add nothing either. -/
def processPersonalEntries (call : TemplateCall φ) :
    List (LootStoreItem φ) → PersonalFillState φ σ → PersonalFill φ σ (PersonalFillState φ σ)
  | [], state => return state
  | item :: items, state =>
    if state.isFull then return state
    else do
      processPersonalEntries call items
        (← processPersonalEntry floats env options stores looters depth call item state)

/-- `process_personal_root_like_cpp`: the group is rolled as if all its items were allowed. -/
def LootGroup.processPersonalRoot (group : LootGroup φ) (call : TemplateCall φ)
    (looter : ObjectGuid) (state : PersonalFillState φ σ) : PersonalFillState φ σ :=
  let contextOf := LootStoreItemContext.mk call.storeKind call.entry
  let rolled := group.rollWithContext floats (env.withAllowed fun _ s => (true, s)) options
    contextOf state.environment
  match rolled.1 with
  | none => { state with environment := rolled.2 }
  | some item =>
    addGeneratedPersonalLootItem env options looter (contextOf item)
      { state with environment := rolled.2 }

def processPersonalGroup (call : TemplateCall φ) (group : LootGroup φ)
    (state : PersonalFillState φ σ) : PersonalFill φ σ (PersonalFillState φ σ) :=
  match filterLooters (fun looter s => some (group.hasDropForPersonalLooter env looter call s))
      looters state.environment with
  | none => .stuck
  | some (candidates, s) =>
    if candidates.isEmpty then return { state with environment := s }
    else
      let index := env.genIndex candidates.length s
      match candidates[index.1]? with
      | none => .stuck
      | some looter =>
        return group.processPersonalRoot floats env options call looter
          { state with environment := index.2 }

def processPersonalGroups (call : TemplateCall φ) :
    List (LootGroup φ) → PersonalFillState φ σ → PersonalFill φ σ (PersonalFillState φ σ)
  | [], state => return state
  | group :: groups, state =>
    if state.isFull then return state
    else do
      processPersonalGroups call groups
        (← processPersonalGroup floats env options looters call group state)

/-- `process_personal_like_cpp` of a template. -/
def processPersonal (call : TemplateCall φ) (state : PersonalFillState φ σ) :
    PersonalFill φ σ (PersonalFillState φ σ) := do
  let state ← processPersonalEntries floats env options stores looters depth call
    call.template.entries state
  processPersonalGroups floats env options looters call call.template.groups state

def LootStore.fillPersonalLootWithContext (store : LootStore φ) (lootId : BitVec 32)
    (storeKind : LootStoreKind) (s : σ) :
    Option (Except LootFillError (List (GeneratedPersonalLootItem φ))) :=
  match store.getLootFor lootId with
  | none => some (.error (.missingLootTemplate lootId))
  | some template =>
    ((processPersonal floats env options stores looters depth ⟨template, storeKind, lootId, 0⟩
      ⟨s, []⟩).run (processForPersonalLooter floats env options stores depth)).map
        fun state => .ok state.generated

/-! ## Entries -/

/-- `ITEM_FLAGS_CU_FOLLOW_LOOT_RULES_LIKE_CPP`. -/
def itemFlagsCuFollowLootRules : BitVec 32 := 0x0004

structure ItemTemplateAddonLootMetadata where
  flagsCu : BitVec 32

def ItemTemplateAddonLootMetadata.followsLootRules (metadata : ItemTemplateAddonLootMetadata) :
    Bool := metadata.flagsCu &&& itemFlagsCuFollowLootRules != 0

/-- The entry that the client is shown; the number of the item is cut to eight bits. -/
def generatedCreatureLootItemToEntry (item : GeneratedLootItem φ)
    (addonMetadata : ItemTemplateAddonLootMetadata) : LootEntry where
  lootListId := item.lootListId % 256
  itemId := item.itemId.toNat
  quantity := item.count.toNat
  randomPropertiesId := item.randomPropertiesId.toInt
  randomPropertiesSeed := item.randomPropertiesSeed.toInt
  itemContext := item.context.toNat
  flags :=
    { followLootRules := !item.needsQuest || addonMetadata.followsLootRules
      freeforall := item.freeForAll
      blocked := item.isBlocked
      counted := item.isCounted
      underThreshold := item.isUnderThreshold
      needsQuest := item.needsQuest }
  allowedLooters := []
  rollWinner := .empty
  ffaLootedBy := []
  taken := item.isLooted

end RustyCore.Loot
