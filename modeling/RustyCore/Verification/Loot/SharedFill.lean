import RustyCore.Verification.Loot.TemplateWalks

/-! # Well-formed shared loot

A fill adds the stacks of one accepted roll after the other, until the loot is full.

## The log of a fill

What the callbacks and the generator are asked and what they answer, written down by the
environment itself. Writing it down changes nothing of the fill. -/

namespace RustyCore.Loot

open CallTree

variable {φ σ : Type}
variable {floats : LootFloats φ} {item : LootStoreItem φ} {call : TemplateCall φ}
  {group : LootGroup φ} {store : LootStore φ} {items : List (LootStoreItem φ)}
variable {context : LootStoreItemContext φ} {contextOf : LootStoreItem φ → LootStoreItemContext φ}

inductive FillEvent (φ : Type) where
  | allowed (context : LootStoreItemContext φ) (answer : Bool)
  | template (itemId : BitVec 32) (answer : Option LootItemTemplateMetadata)
  | counted (minCount maxCount : BitVec 8) (answer : BitVec 32)

/-- The environment that also writes down its events. -/
def LootFillEnvironment.recording (env : LootFillEnvironment φ σ) :
    LootFillEnvironment φ (σ × List (FillEvent φ)) where
  genPercent s := ((env.genPercent s.1).1, (env.genPercent s.1).2, s.2)
  genCount minCount maxCount s :=
    ((env.genCount minCount maxCount s.1).1, (env.genCount minCount maxCount s.1).2,
      s.2 ++ [.counted minCount maxCount (env.genCount minCount maxCount s.1).1])
  genIndex n s := ((env.genIndex n s.1).1, (env.genIndex n s.1).2, s.2)
  itemTemplate itemId s :=
    ((env.itemTemplate itemId s.1).1, (env.itemTemplate itemId s.1).2,
      s.2 ++ [.template itemId (env.itemTemplate itemId s.1).1])
  itemChanceRate item s := ((env.itemChanceRate item s.1).1, (env.itemChanceRate item s.1).2, s.2)
  itemAllowed context s :=
    ((env.itemAllowed context s.1).1, (env.itemAllowed context s.1).2,
      s.2 ++ [.allowed context (env.itemAllowed context s.1).1])
  randomProperties itemId s :=
    ((env.randomProperties itemId s.1).1, (env.randomProperties itemId s.1).2, s.2)

/-- The state without the log. -/
def LootFillState.forget (state : LootFillState φ (σ × List (FillEvent φ))) :
    LootFillState φ σ := ⟨state.environment.1, state.generated⟩

@[simp] theorem isFull_forget (state : LootFillState φ (σ × List (FillEvent φ))) :
    state.forget.isFull = state.isFull := rfl

section FillLog

variable (floats : LootFloats φ) (env : LootFillEnvironment φ σ) (options : LootFillOptions φ)
  (stores : LootStores φ)

theorem rollChance_recording (chance : φ) (s : σ × List (FillEvent φ)) :
    Prod.map id Prod.fst (rollChance floats env.recording chance s) =
      rollChance floats env chance s.1 := by
  simp only [rollChance]
  split
  · rfl
  · split <;> rfl

theorem roll_recording (item : LootStoreItem φ) (rate : φ) (s : σ × List (FillEvent φ)) :
    Prod.map id Prod.fst (item.roll floats env.recording rate s) =
      item.roll floats env rate s.1 := by
  simp only [LootStoreItem.roll]
  split
  · rfl
  · exact rollChance_recording floats env _ s

theorem addStacks_recording (context : LootStoreItemContext φ)
    (metadata : LootItemTemplateMetadata) (remaining : ℕ) (count : BitVec 32)
    (state : LootFillState φ (σ × List (FillEvent φ))) :
    (addStacks env.recording options context metadata remaining count state).forget =
      addStacks env options context metadata remaining count state.forget := by
  induction remaining generalizing count state with
  | zero => rfl
  | succ remaining ih =>
    rw [addStacks, addStacks, isFull_forget]
    cases state.isFull with
    | true => rfl
    | false => exact ih _ _

theorem addGeneratedLootItem_recording (context : LootStoreItemContext φ)
    (state : LootFillState φ (σ × List (FillEvent φ))) :
    (addGeneratedLootItem env.recording options context state).forget =
      addGeneratedLootItem env options context state.forget := by
  simp only [addGeneratedLootItem, LootFillEnvironment.recording, LootFillState.forget]
  cases (env.itemTemplate context.item.itemId state.environment.1).1 with
  | none => rfl
  | some metadata =>
    by_cases hstack : metadata.maxStack = 0
    · simp only [if_pos hstack]
    · simp only [if_neg hstack]
      exact addStacks_recording env options context metadata _ _ _

theorem allowedItems_recording (contextOf : LootStoreItem φ → LootStoreItemContext φ)
    (items : List (LootStoreItem φ)) (s : σ × List (FillEvent φ)) :
    Prod.map id Prod.fst (allowedItems env.recording options contextOf items s) =
      allowedItems env options contextOf items s.1 := by
  induction items generalizing s with
  | nil => rfl
  | cons item items ih =>
    by_cases hmode : item.lootMode &&& options.lootMode = 0
    · simp only [allowedItems, if_pos hmode]
      exact ih s
    · simp only [allowedItems, if_neg hmode]
      have hrest := ih (env.recording.itemAllowed (contextOf item) s).2
      exact hrest ▸ rfl

theorem rollWithContext_recording (group : LootGroup φ)
    (contextOf : LootStoreItem φ → LootStoreItemContext φ) (s : σ × List (FillEvent φ)) :
    Prod.map id Prod.fst (group.rollWithContext floats env.recording options contextOf s) =
      group.rollWithContext floats env options contextOf s.1 := by
  have hitems := allowedItems_recording env options contextOf
  simp only [LootGroup.rollWithContext, ← hitems]
  generalize allowedItems env.recording options contextOf group.explicitlyChanced s = explicit
  cases hexplicit : explicit.1.isEmpty with
  | true =>
    simp only [Prod.map, id, hexplicit, if_true, ← hitems]
    split <;> rfl
  | false =>
    have hroll : env.recording.genPercent explicit.2 =
      ((env.genPercent explicit.2.1).1, (env.genPercent explicit.2.1).2, explicit.2.2) := rfl
    simp only [Prod.map, id, hexplicit, hroll, Bool.false_eq_true, if_false]
    cases pickExplicit floats explicit.1 (env.genPercent explicit.2.1).1 with
    | some item => rfl
    | none =>
      have hequal := hitems group.equalChanced ((env.genPercent explicit.2.1).2, explicit.2.2)
      simp only [← hequal, Prod.map, id]
      split <;> rfl

theorem process_recording (group : LootGroup φ) (call : TemplateCall φ)
    (state : LootFillState φ (σ × List (FillEvent φ))) :
    (group.process floats env.recording options call state).forget =
      group.process floats env options call state.forget := by
  have hrolled := rollWithContext_recording floats env options group
    (LootStoreItemContext.mk call.storeKind call.entry) state.environment
  have hadd := addGeneratedLootItem_recording env options
  simp only [LootGroup.process, LootFillState.forget] at hrolled ⊢
  simp only [← hrolled, Prod.map, id]
  cases (group.rollWithContext floats env.recording options
    (LootStoreItemContext.mk call.storeKind call.entry) state.environment).1 with
  | none => rfl
  | some item => exact hadd _ _

theorem processGroups_recording (call : TemplateCall φ) (groups : List (LootGroup φ))
    (state : LootFillState φ (σ × List (FillEvent φ))) :
    (processGroups floats env.recording options call groups state).forget =
      processGroups floats env options call groups state.forget := by
  induction groups generalizing state with
  | nil => rfl
  | cons group groups ih =>
    rw [processGroups, processGroups, isFull_forget]
    cases state.isFull with
    | true => rfl
    | false =>
      rw [← process_recording]
      exact ih _

/-! ## Both fills -/

/-- The second of two fills writes a log, and is else the same as long as their calls are. -/
abbrev FillsAlike (t : LootFill φ σ (LootFillState φ σ))
    (t' : LootFill φ (σ × List (FillEvent φ)) (LootFillState φ (σ × List (FillEvent φ)))) : Prop :=
  Simulates (fun start start' => start'.1 = start.1 ∧ start'.2.forget = start.2)
    (fun _ state state' => state'.forget = state) (fun state state' => state'.forget = state) t t'

theorem fillsAlike_processReference (call : TemplateCall φ) (rounds : ℕ)
    (state : LootFillState φ (σ × List (FillEvent φ))) :
    FillsAlike (processReference call rounds state.forget) (processReference call rounds state) := by
  induction rounds generalizing state with
  | zero => exact .done rfl
  | succ rounds ih =>
    refine .call ⟨rfl, rfl⟩ ?_
    rintro - filled rfl
    change FillsAlike (if filled.forget.isFull then return filled.forget else _)
      (if filled.isFull then return filled else _)
    rw [isFull_forget]
    split
    · exact .done rfl
    · exact ih filled

theorem fillsAlike_processEntry (call : TemplateCall φ) (item : LootStoreItem φ)
    (state : LootFillState φ (σ × List (FillEvent φ))) :
    FillsAlike (processEntry floats env options stores call item state.forget)
      (processEntry floats env.recording options stores call item state) := by
  rw [processEntry, processEntry]
  split
  · exact .done rfl
  have hrate : (if options.ratesAllowed = true then
      env.itemChanceRate item state.forget.environment
      else (floats.one, state.forget.environment)) = Prod.map id Prod.fst
        (if options.ratesAllowed = true then
          env.recording.itemChanceRate item state.environment
          else (floats.one, state.environment)) := by
    split <;> rfl
  rw [hrate]
  generalize (if options.ratesAllowed = true then
    env.recording.itemChanceRate item state.environment
    else (floats.one, state.environment)) = rate
  have hroll := roll_recording floats env item rate.1 rate.2
  simp only [Prod.map_fst, Prod.map_snd, id, ← hroll]
  generalize item.roll floats env.recording rate.1 rate.2 = rolled
  split
  · exact .done rfl
  by_cases hreference : item.reference = 0
  · simp only [if_pos hreference]
    let context : LootStoreItemContext φ := ⟨call.storeKind, call.entry, item⟩
    have hallowed : (env.recording.itemAllowed context rolled.2).1 =
      (env.itemAllowed context rolled.2.1).1 := rfl
    cases hanswer : (env.itemAllowed context rolled.2.1).1 with
    | false =>
      simp only [context] at hanswer hallowed
      simp only [hallowed, hanswer]
      exact .done rfl
    | true =>
      simp only [context] at hanswer hallowed
      simp only [hallowed, hanswer]
      exact .done (addGeneratedLootItem_recording env options _ _)
  · simp only [if_neg hreference]
    cases stores.referenceTemplate item.reference with
    | none => exact .done rfl
    | some template => exact fillsAlike_processReference _ _ ⟨rolled.2, state.generated⟩

theorem fillsAlike_processEntries (call : TemplateCall φ) (items : List (LootStoreItem φ))
    (state : LootFillState φ (σ × List (FillEvent φ))) :
    FillsAlike (processEntries floats env options stores call items state.forget)
      (processEntries floats env.recording options stores call items state) := by
  induction items generalizing state with
  | nil => exact .done rfl
  | cons item items ih =>
    rw [processEntries, processEntries, isFull_forget]
    split
    · exact .done rfl
    · refine (fillsAlike_processEntry floats env options stores call item state).bind ?_
      rintro - filled rfl
      exact ih filled

theorem fillsAlike_processTemplate (call : TemplateCall φ)
    (state : LootFillState φ (σ × List (FillEvent φ))) :
    FillsAlike (processTemplate floats env options stores (call, state.forget))
      (processTemplate floats env.recording options stores (call, state)) := by
  rw [processTemplate, processTemplate, isFull_forget]
  split
  · exact .done rfl
  split
  · dsimp only
    cases call.group with
    | none => exact .done rfl
    | some group => exact .done (process_recording floats env options group call state)
  · refine (fillsAlike_processEntries floats env options stores call _ state).bind ?_
    rintro - filled rfl
    exact .done (processGroups_recording floats env options call _ filled)

/-- What a fill generates, it also generates with a log. -/
theorem exists_recording (call : TemplateCall φ) (s : σ) {depth : ℕ} {state : LootFillState φ σ}
    (h : recurse (processTemplate floats env options stores) depth (call, ⟨s, []⟩) = some state) :
    ∃ state', recurse (processTemplate floats env.recording options stores) depth
      (call, ⟨(s, []), []⟩) = some state' ∧ state'.forget = state := by
  have hbody : ∀ (start : TemplateCall φ × LootFillState φ σ)
      (start' : TemplateCall φ × LootFillState φ (σ × List (FillEvent φ))),
      (start'.1 = start.1 ∧ start'.2.forget = start.2) →
      FillsAlike (processTemplate floats env options stores start)
        (processTemplate floats env.recording options stores start') := by
    rintro ⟨call, -⟩ ⟨-, state⟩ ⟨rfl, rfl⟩
    exact fillsAlike_processTemplate floats env options stores _ state
  exact recurse_simulates hbody ⟨rfl, rfl⟩ h

end FillLog

/-! ## Loaded stores -/

/-- A range of counts that is not empty and starts above zero. -/
def LootStoreItem.CountsValid (item : LootStoreItem φ) : Prop :=
  0 < item.minCount.toNat ∧ item.minCount ≤ item.maxCount

structure LootTemplate.Valid (template : LootTemplate φ) : Prop where
  entries : ∀ item ∈ template.entries, item.reference = 0 → item.CountsValid
  groups : ∀ group ∈ template.groups, ∀ item ∈ group.items, item.CountsValid

def LootStore.Loaded (floats : LootFloats φ) (store : LootStore φ) : Prop :=
  ∃ empty rows itemExists, (LootStore.loadRows floats empty rows itemExists).1 = store

def LootStore.Valid (store : LootStore φ) : Prop :=
  ∀ lootId template, store.getLootFor lootId = some template → template.Valid

theorem countsValid_of_isValid {itemExists : Bool} (h : item.isValid floats itemExists)
    (hreference : item.reference = 0) : item.CountsValid := by
  rw [LootStoreItem.isValid] at h
  split at h
  · cases h
  case isFalse hmin =>
    split at h
    · cases h
    split at h
    · cases h
    split at h
    · cases h
    · exact ⟨Nat.pos_of_ne_zero fun hzero => hmin (BitVec.eq_of_toNat_eq hzero),
        of_decide_eq_true h⟩

theorem LootGroup.mem_items_addEntry {added : LootStoreItem φ}
    (h : item ∈ (group.addEntry floats added).items) : item ∈ group.items ∨ item = added := by
  simp only [LootGroup.addEntry, LootGroup.items] at h ⊢
  split at h <;> simp at h ⊢ <;> tauto

theorem mem_modify {α : Type} {f : α → α} {l : List α} {i : ℕ} {a : α} (h : a ∈ l.modify i f) :
    a ∈ l ∨ ∃ b ∈ l, f b = a := by
  obtain ⟨j, hj⟩ := List.mem_iff_getElem?.mp h
  rw [List.getElem?_modify] at hj
  obtain ⟨b, hb, rfl⟩ := Option.map_eq_some_iff.mp hj
  have hmem := List.mem_of_getElem? hb
  split
  · exact .inr ⟨b, hmem, rfl⟩
  · exact .inl hmem

theorem LootTemplate.Valid.addEntry {template : LootTemplate φ} (h : template.Valid)
    (hitem : item.reference = 0 → item.CountsValid) : (template.addEntry floats item).Valid := by
  rw [LootTemplate.addEntry]
  split
  case isTrue hgroup =>
    refine ⟨h.entries, fun group hmem added hadded => ?_⟩
    have hgrown : ∀ group ∈ growGroups template.groups (item.groupId.toNat - 1),
        ∀ item ∈ group.items, item.CountsValid := by
      intro group hmem added hadded
      rcases List.mem_append.mp hmem with hmem | hmem
      · exact h.groups group hmem added hadded
      · obtain rfl := (List.mem_replicate.mp hmem).2
        cases hadded
    rcases mem_modify hmem with hmem | ⟨other, hother, rfl⟩
    · exact hgrown group hmem added hadded
    · rcases LootGroup.mem_items_addEntry hadded with hadded | rfl
      · exact hgrown other hother added hadded
      · exact hitem hgroup.2
  case isFalse =>
    refine ⟨?_, h.groups⟩
    exact List.forall_mem_append.mpr ⟨h.entries, List.forall_mem_singleton.mpr hitem⟩

theorem LootStore.Valid.addRow (h : store.Valid) {row : LootTemplateRow φ}
    (hrow : row.item.reference = 0 → row.item.CountsValid) : (store.addRow floats row).Valid := by
  intro lootId template htemplate
  rw [LootStore.getLootFor, LootStore.addRow, Dict.lookup_insert_eq] at htemplate
  split at htemplate
  · obtain rfl := Option.some.inj htemplate
    refine LootTemplate.Valid.addEntry ?_ hrow
    cases hold : store.templates.lookup row.entry with
    | none => exact ⟨fun _ hmem => (List.not_mem_nil hmem).elim,
        fun _ hmem => (List.not_mem_nil hmem).elim⟩
    | some template => exact h row.entry template hold
  · exact h lootId template htemplate

theorem LootStore.Valid.loadRemaining {itemExists : BitVec 32 → Bool} (h : store.Valid)
    (count : ℕ) (rows : List (LootTemplateRow φ)) :
    (store.loadRemaining floats itemExists count rows).1.Valid := by
  induction rows generalizing store count with
  | nil => exact h
  | cons row rows ih =>
    rw [LootStore.loadRemaining]
    split
    · exact h
    split
    case isTrue hvalid =>
      refine ih (h.addRow fun hreference => ?_) _
      exact countsValid_of_isValid hvalid hreference
    case isFalse => exact ih h _

theorem LootStore.Loaded.valid (h : store.Loaded floats) : store.Valid := by
  obtain ⟨empty, rows, itemExists, rfl⟩ := h
  exact LootStore.Valid.loadRemaining (fun _ _ h => by cases h) _ _

/-! ## Rolls -/

def FillEvent.isCounted : FillEvent φ → Bool
  | counted _ _ _ => true
  | _ => false

variable {P : LootStoreItemContext φ → Prop}

/-- The rows of the log that were asked about are of a kind. -/
def AskedWithin (P : LootStoreItemContext φ → Prop) (log : List (FillEvent φ)) : Prop :=
  ∀ context answer, .allowed context answer ∈ log → P context

theorem AskedWithin.append {log log' : List (FillEvent φ)} (h : AskedWithin P log)
    (h' : AskedWithin P log') : AskedWithin P (log ++ log') := fun context answer hmem =>
  (List.mem_append.mp hmem).elim (h context answer) (h' context answer)

/-- The log grew by events none of which is a rolled count. -/
structure Asked (P : LootStoreItemContext φ → Prop) (s s' : σ × List (FillEvent φ))
    (events : List (FillEvent φ)) : Prop where
  log : s'.2 = s.2 ++ events
  counted : events.filter FillEvent.isCounted = []
  within : AskedWithin P events

theorem Asked.of_eq {s s' : σ × List (FillEvent φ)} (h : s'.2 = s.2) : Asked P s s' [] :=
  ⟨h.trans (List.append_nil _).symm, rfl, fun _ _ hmem => (List.not_mem_nil hmem).elim⟩

theorem Asked.refl {s : σ × List (FillEvent φ)} : Asked P s s [] := .of_eq rfl

theorem Asked.template {s s' : σ × List (FillEvent φ)} {itemId : BitVec 32}
    {answer : Option LootItemTemplateMetadata} (hlog : s'.2 = s.2 ++ [.template itemId answer]) :
    Asked P s s' [.template itemId answer] :=
  ⟨hlog, rfl, fun _ _ hmem => by cases List.mem_singleton.mp hmem⟩

theorem Asked.allowed {s s' : σ × List (FillEvent φ)} {answer : Bool} (hcontext : P context)
    (hlog : s'.2 = s.2 ++ [.allowed context answer]) : Asked P s s' [.allowed context answer] := by
  refine ⟨hlog, rfl, fun other answer' hmem => ?_⟩
  cases List.mem_singleton.mp hmem
  exact hcontext

theorem Asked.trans {s s' s'' : σ × List (FillEvent φ)} {events events' : List (FillEvent φ)}
    (h : Asked P s s' events) (h' : Asked P s' s'' events') :
    Asked P s s'' (events ++ events') where
  log := by rw [h'.log, h.log, List.append_assoc]
  counted := by rw [List.filter_append, h.counted, h'.counted, List.append_nil]
  within := h.within.append h'.within

/-- The count that was rolled for a row, and the metadata of the row's item. -/
structure AcceptedRoll (φ : Type) where
  context : LootStoreItemContext φ
  metadata : LootItemTemplateMetadata
  count : BitVec 32

namespace AcceptedRoll

def event (roll : AcceptedRoll φ) : FillEvent φ :=
  .counted roll.context.item.minCount roll.context.item.maxCount roll.count

/-- The roll was made for a row of the loot mode that was allowed in its own context. -/
structure Logged (options : LootFillOptions φ) (log : List (FillEvent φ))
    (roll : AcceptedRoll φ) : Prop where
  lootMode : roll.context.item.lootMode &&& options.lootMode ≠ 0
  allowed : .allowed roll.context true ∈ log
  template : .template roll.context.item.itemId (some roll.metadata) ∈ log

/-- The stacks of a roll, each of them neither empty nor too large. -/
def Stacks (roll : AcceptedRoll φ) (items : List (GeneratedLootItem φ)) : Prop :=
  ∀ item ∈ items, item.storeItemContext = roll.context ∧
    item.itemId = roll.context.item.itemId ∧
    1 ≤ item.count.toNat ∧ item.count ≤ roll.metadata.maxStack

end AcceptedRoll

def itemTotal (items : List (GeneratedLootItem φ)) : ℕ := (items.map fun item => item.count.toNat).sum

/-- The loot is no larger than the cap, and numbered in order. -/
structure Numbered (generated : List (GeneratedLootItem φ)) : Prop where
  length_le : generated.length ≤ maxNrLootItems
  lootListIds : generated.map (·.lootListId) = List.range generated.length

theorem Numbered.push {generated : List (GeneratedLootItem φ)} (h : Numbered generated)
    (hroom : generated.length < maxNrLootItems) {item : GeneratedLootItem φ}
    (hid : item.lootListId = generated.length) : Numbered (generated ++ [item]) where
  length_le := by
    rw [List.length_append]
    exact hroom
  lootListIds := by simp [h.lootListIds, hid, List.range_succ]

/-- The chunks of stacks that accepted rolls added, and the events of the log. -/
structure AddsChunks (options : LootFillOptions φ) (P : LootStoreItemContext φ → Prop)
    (start result : LootFillState φ (σ × List (FillEvent φ))) (events : List (FillEvent φ))
    (chunks : List (AcceptedRoll φ × List (GeneratedLootItem φ))) : Prop where
  log : result.environment.2 = start.environment.2 ++ events
  generated : result.generated = start.generated ++ chunks.flatMap Prod.snd
  counted : events.filter FillEvent.isCounted = chunks.map fun chunk => chunk.1.event
  logged : ∀ chunk ∈ chunks, chunk.1.Logged options events
  stacked : ∀ chunk ∈ chunks, chunk.1.Stacks chunk.2
  totals : result.isFull = false → ∀ chunk ∈ chunks, itemTotal chunk.2 = chunk.1.count.toNat
  numbered : Numbered start.generated → Numbered result.generated
  within : AskedWithin P events

def Adds (options : LootFillOptions φ) (P : LootStoreItemContext φ → Prop)
    (start result : LootFillState φ (σ × List (FillEvent φ))) : Prop :=
  ∃ events chunks, AddsChunks options P start result events chunks

variable {options : LootFillOptions φ} {start state result : LootFillState φ (σ × List (FillEvent φ))}

/-- Events other than rolled counts add nothing. -/
theorem Adds.of_asked {events : List (FillEvent φ)}
    (h : Asked P start.environment result.environment events)
    (hgenerated : result.generated = start.generated) : Adds options P start result :=
  ⟨events, [], h.log, by simpa using hgenerated, h.counted, by simp, by simp, by simp,
    fun h => hgenerated ▸ h, h.within⟩

theorem Adds.refl : Adds options P start start := .of_asked .refl rfl

theorem AcceptedRoll.Logged.mono {roll : AcceptedRoll φ} {log log' : List (FillEvent φ)}
    (h : roll.Logged options log) (hsub : log ⊆ log') : roll.Logged options log' where
  lootMode := h.lootMode
  allowed := hsub h.allowed
  template := hsub h.template

theorem AddsChunks.isFull_mono {events : List (FillEvent φ)}
    {chunks : List (AcceptedRoll φ × List (GeneratedLootItem φ))}
    (h : AddsChunks options P start result events chunks) (hresult : result.isFull = false) :
    start.isFull = false := by
  have hlength := congrArg List.length h.generated
  simp only [LootFillState.isFull, decide_eq_false_iff_not, not_le, List.length_append]
    at hresult hlength ⊢
  omega

theorem Adds.trans (h : Adds options P start state) (h' : Adds options P state result) :
    Adds options P start result := by
  obtain ⟨events, chunks, h⟩ := h
  obtain ⟨events', chunks', h'⟩ := h'
  refine ⟨events ++ events', chunks ++ chunks', ?_, ?_, ?_, ?_, ?_, ?_, ?_, ?_⟩
  · rw [h'.log, h.log, List.append_assoc]
  · rw [h'.generated, h.generated, List.flatMap_append, List.append_assoc]
  · rw [List.filter_append, List.map_append, h.counted, h'.counted]
  · rw [List.forall_mem_append]
    exact ⟨fun chunk hmem => (h.logged chunk hmem).mono (List.subset_append_left _ _),
      fun chunk hmem => (h'.logged chunk hmem).mono (List.subset_append_right _ _)⟩
  · exact List.forall_mem_append.mpr ⟨h.stacked, h'.stacked⟩
  · exact fun hroom => List.forall_mem_append.mpr
      ⟨h.totals (h'.isFull_mono hroom), h'.totals hroom⟩
  · exact fun hstart => h'.numbered (h.numbered hstart)
  · exact h.within.append h'.within

/-! ## One roll -/

/-- `remaining` stacks of at most `maxStack` are what `count` needs. -/
def StacksLeft (maxStack remaining count : ℕ) : Prop :=
  count ≤ remaining * maxStack ∧ ∀ fewer, remaining = fewer + 1 → fewer * maxStack < count

theorem stacksLeft_total {maxStack : ℕ} (hmax : 0 < maxStack) (count : ℕ) :
    StacksLeft maxStack (count / maxStack + if count % maxStack ≠ 0 then 1 else 0) count := by
  have hdivision : count / maxStack * maxStack + count % maxStack = count :=
    Nat.div_add_mod' count maxStack
  have hmod := Nat.mod_lt count hmax
  by_cases hrest : count % maxStack = 0
  · rw [if_neg (not_not.mpr hrest), Nat.add_zero]
    refine ⟨by omega, fun fewer hfewer => ?_⟩
    rw [hfewer, Nat.add_mul] at hdivision
    omega
  · rw [if_pos hrest]
    refine ⟨by rw [Nat.add_mul]; omega, fun fewer hfewer => ?_⟩
    obtain rfl : count / maxStack = fewer := Nat.succ_injective hfewer
    omega

theorem StacksLeft.next {maxStack remaining count : ℕ}
    (h : StacksLeft maxStack (remaining + 1) count) :
    StacksLeft maxStack remaining (count - maxStack) := by
  have hlt := h.2 remaining rfl
  have hle := h.1
  rw [Nat.add_mul] at hle
  refine ⟨by omega, ?_⟩
  rintro fewer rfl
  rw [Nat.add_mul] at hlt
  omega

theorem toNat_countLeft (count : BitVec 32) (taken : ℕ) :
    (BitVec.ofNat 32 (count.toNat - taken)).toNat = count.toNat - taken := by
  rw [BitVec.toNat_ofNat, Nat.mod_eq_of_lt (Nat.lt_of_le_of_lt (Nat.sub_le _ _) count.isLt)]

theorem toNat_stackCount (count maxStack : BitVec 32) :
    (if count ≤ maxStack then count else maxStack).toNat = min count.toNat maxStack.toNat := by
  rw [apply_ite BitVec.toNat, min_def]
  rfl

/-- The stacks that `addStacks` pushes. -/
structure PushesStacks (roll : AcceptedRoll φ)
    (start result : LootFillState φ (σ × List (FillEvent φ))) (count : ℕ)
    (items : List (GeneratedLootItem φ)) : Prop where
  log : result.environment.2 = start.environment.2
  generated : result.generated = start.generated ++ items
  stacked : roll.Stacks items
  total : result.isFull = false → itemTotal items = count
  numbered : Numbered start.generated → Numbered result.generated

theorem PushesStacks.cons {roll : AcceptedRoll φ} {item : GeneratedLootItem φ}
    {items : List (GeneratedLootItem φ)} {count left : ℕ}
    (h : PushesStacks roll state result left items)
    (hroom : start.isFull = false) (hlog : state.environment.2 = start.environment.2)
    (hgenerated : state.generated = start.generated ++ [item]) (hitem : roll.Stacks [item])
    (hid : item.lootListId = start.generated.length)
    (hleft : count = item.count.toNat + left) :
    PushesStacks roll start result count (item :: items) where
  log := h.log.trans hlog
  generated := by rw [h.generated, hgenerated, List.append_assoc, List.singleton_append]
  stacked := List.forall_mem_cons.mpr ⟨hitem item (List.mem_singleton.mpr rfl), h.stacked⟩
  total hroom' := by
    have htotal := h.total hroom'
    simp only [itemTotal, List.map_cons, List.sum_cons] at htotal ⊢
    rw [htotal, hleft]
  numbered hnumbered := by
    have hlength : start.generated.length < maxNrLootItems := by
      simpa [LootFillState.isFull] using hroom
    exact h.numbered (hgenerated ▸ hnumbered.push hlength hid)

theorem addStacks_pushes (env : LootFillEnvironment φ σ) (roll : AcceptedRoll φ)
    (hmax : 0 < roll.metadata.maxStack.toNat) {remaining : ℕ} {count : BitVec 32}
    (hleft : StacksLeft roll.metadata.maxStack.toNat remaining count.toNat)
    (start : LootFillState φ (σ × List (FillEvent φ))) :
    ∃ items, PushesStacks roll start (addStacks env.recording options roll.context roll.metadata
      remaining count start) count.toNat items := by
  induction remaining generalizing count start with
  | zero =>
    have hnone : count.toNat = 0 := by simpa using hleft.1
    exact ⟨[], rfl, (List.append_nil _).symm, by simp [AcceptedRoll.Stacks],
      fun _ => hnone.symm, id⟩
  | succ remaining ih =>
    cases hroom : start.isFull with
    | true =>
      rw [addStacks, if_pos hroom]
      exact ⟨[], rfl, (List.append_nil _).symm, by simp [AcceptedRoll.Stacks],
        fun hfree => absurd hroom (by simp [hfree]), id⟩
    | false =>
      have hlt := hleft.2 remaining rfl
      have hstack := toNat_stackCount count roll.metadata.maxStack
      rw [addStacks, if_neg (Bool.eq_false_iff.mp hroom)]
      dsimp only
      obtain ⟨items, hitems⟩ := ih ((toNat_countLeft _ _).symm ▸ hleft.next) _
      rw [toNat_countLeft] at hitems
      refine ⟨_, hitems.cons hroom rfl rfl ?_ rfl ?_⟩
      · refine List.forall_mem_singleton.mpr ⟨rfl, rfl, ?_, ?_⟩
        · rw [hstack]
          omega
        · rw [BitVec.le_def, hstack]
          exact min_le_right _ _
      · rw [hstack]
        omega

theorem addGeneratedLootItem_adds (env : LootFillEnvironment φ σ) {events : List (FillEvent φ)}
    (hasked : Asked P start.environment state.environment events)
    (hgenerated : state.generated = start.generated) (hallowed : .allowed context true ∈ events)
    (hmode : context.item.lootMode &&& options.lootMode ≠ 0) :
    Adds options P start (addGeneratedLootItem env.recording options context state) := by
  have htemplate : Asked P start.environment (env.recording.itemTemplate context.item.itemId
      state.environment).2 (events ++ [.template context.item.itemId
        (env.recording.itemTemplate context.item.itemId state.environment).1]) :=
    hasked.trans (.template rfl)
  rw [addGeneratedLootItem]
  dsimp only
  cases hanswer : (env.recording.itemTemplate context.item.itemId state.environment).1 with
  | none => exact .of_asked htemplate hgenerated
  | some metadata =>
    dsimp only
    split
    · exact .of_asked htemplate hgenerated
    case isFalse hmax =>
      let s := (env.recording.itemTemplate context.item.itemId state.environment).2
      let counted := env.recording.genCount context.item.minCount context.item.maxCount s
      let roll : AcceptedRoll φ := ⟨context, metadata, counted.1⟩
      have hpos : 0 < metadata.maxStack.toNat :=
        Nat.pos_of_ne_zero fun h => hmax (BitVec.eq_of_toNat_eq h)
      obtain ⟨items, hitems⟩ := addStacks_pushes env roll hpos
        (stacksLeft_total hpos counted.1.toNat) ⟨counted.2, state.generated⟩
      have hlog : counted.2.2 = start.environment.2 ++ (events ++
          [.template context.item.itemId (some metadata)] ++ [roll.event]) := by
        rw [← List.append_assoc, ← hanswer]
        exact congrArg (· ++ _) htemplate.log
      refine ⟨_, [(roll, items)], hitems.log.trans hlog, ?_, ?_, ?_, ?_, ?_, ?_, ?_⟩
      · simpa [hgenerated] using hitems.generated
      · rw [List.filter_append, ← hanswer, htemplate.counted]
        rfl
      · refine List.forall_mem_singleton.mpr ⟨hmode, ?_, ?_⟩
        · exact List.mem_append_left _ (List.mem_append_left _ hallowed)
        · exact List.mem_append_left _ (List.mem_append_right _ (List.mem_singleton.mpr rfl))
      · exact List.forall_mem_singleton.mpr hitems.stacked
      · exact fun hroom => List.forall_mem_singleton.mpr (hitems.total hroom)
      · exact fun hnumbered => hitems.numbered (hgenerated ▸ hnumbered)
      · exact (hanswer ▸ htemplate.within).append fun _ _ hmem => by
          cases List.mem_singleton.mp hmem

/-! ## Groups -/

theorem allowedItems_asked (env : LootFillEnvironment φ σ)
    (hcontext : ∀ item ∈ items, P (contextOf item)) (s : σ × List (FillEvent φ)) :
    ∃ events, Asked P s (allowedItems env.recording options contextOf items s).2 events ∧
      ∀ item ∈ (allowedItems env.recording options contextOf items s).1, item ∈ items ∧
        item.lootMode &&& options.lootMode ≠ 0 ∧ .allowed (contextOf item) true ∈ events := by
  induction items generalizing s with
  | nil => exact ⟨[], .refl, by simp [allowedItems]⟩
  | cons item items ih =>
    obtain ⟨hitem, hrest⟩ := List.forall_mem_cons.mp hcontext
    by_cases hmode : item.lootMode &&& options.lootMode = 0
    · obtain ⟨events, hasked, hitems⟩ := ih hrest s
      simp only [allowedItems, if_pos hmode]
      exact ⟨events, hasked, fun other hmem =>
        ⟨List.mem_cons_of_mem _ (hitems other hmem).1, (hitems other hmem).2⟩⟩
    · obtain ⟨events, hasked, hitems⟩ :=
        ih hrest (env.recording.itemAllowed (contextOf item) s).2
      have hfirst : Asked P s (env.recording.itemAllowed (contextOf item) s).2
        [.allowed (contextOf item) (env.recording.itemAllowed (contextOf item) s).1] :=
        .allowed hitem rfl
      simp only [allowedItems, if_neg hmode]
      refine ⟨_, hfirst.trans hasked, fun other hmem => ?_⟩
      have hlater (hrest : other ∈ (allowedItems env.recording options contextOf items
          (env.recording.itemAllowed (contextOf item) s).2).1) :=
        And.intro (List.mem_cons_of_mem item (hitems other hrest).1)
          (And.intro (hitems other hrest).2.1 (List.mem_append_right
            [.allowed (contextOf item) (env.recording.itemAllowed (contextOf item) s).1]
            (hitems other hrest).2.2))
      split at hmem
      case isFalse => exact hlater hmem
      case isTrue hanswer =>
        rcases List.mem_cons.mp hmem with rfl | hmem
        · refine ⟨List.mem_cons_self, hmode, List.mem_append_left _ (List.mem_singleton.mpr ?_)⟩
          exact congrArg (FillEvent.allowed _) hanswer.symm
        · exact hlater hmem

theorem pickExplicit_mem (floats : LootFloats φ) {roll : φ}
    (h : pickExplicit floats items roll = some item) : item ∈ items := by
  induction items generalizing roll with
  | nil => cases h
  | cons other items ih =>
    rw [pickExplicit] at h
    split at h
    · exact Option.some.inj h ▸ List.mem_cons_self
    split at h
    · exact Option.some.inj h ▸ List.mem_cons_self
    · exact List.mem_cons_of_mem _ (ih h)

theorem rollWithContext_asked (floats : LootFloats φ) (env : LootFillEnvironment φ σ)
    (hcontext : ∀ item ∈ group.items, P (contextOf item)) (s : σ × List (FillEvent φ)) :
    ∃ events, Asked P s (group.rollWithContext floats env.recording options contextOf s).2 events ∧
      ∀ item, (group.rollWithContext floats env.recording options contextOf s).1 = some item →
        item ∈ group.items ∧ item.lootMode &&& options.lootMode ≠ 0 ∧
          .allowed (contextOf item) true ∈ events := by
  obtain ⟨events, hasked, hitems⟩ :=
    allowedItems_asked env (fun item hmem => hcontext item (List.mem_append_left _ hmem)) s
  rw [LootGroup.rollWithContext]
  generalize allowedItems env.recording options contextOf group.explicitlyChanced s = explicit
    at hasked hitems
  dsimp only
  have hpicked : ∀ picked : Option (LootStoreItem φ) × σ × List (FillEvent φ),
      (if explicit.1.isEmpty then (none, explicit.2)
        else (pickExplicit floats explicit.1 (env.recording.genPercent explicit.2).1,
          (env.recording.genPercent explicit.2).2)) = picked →
      Asked P s picked.2 events ∧ ∀ item, picked.1 = some item → item ∈ explicit.1 := by
    rintro picked rfl
    split
    · exact ⟨hasked, fun item h => by cases h⟩
    · exact ⟨⟨hasked.log, hasked.counted, hasked.within⟩, fun item h => pickExplicit_mem floats h⟩
  generalize (if explicit.1.isEmpty then (none, explicit.2)
    else (pickExplicit floats explicit.1 (env.recording.genPercent explicit.2).1,
      (env.recording.genPercent explicit.2).2)) = picked at hpicked
  obtain ⟨hpickedAsked, hpickedMem⟩ := hpicked picked rfl
  split
  case h_1 item hitem =>
    refine ⟨events, hpickedAsked, fun other hother => ?_⟩
    obtain rfl : item = other := Option.some.inj hother
    obtain ⟨hmem, hmode, hallowed⟩ := hitems item (hpickedMem item hitem)
    exact ⟨List.mem_append_left _ hmem, hmode, hallowed⟩
  case h_2 =>
    obtain ⟨events', hasked', hitems'⟩ :=
      allowedItems_asked env (fun item hmem => hcontext item (List.mem_append_right _ hmem))
        picked.2
    generalize allowedItems env.recording options contextOf group.equalChanced picked.2 = equal
      at hasked' hitems'
    have hboth := hpickedAsked.trans hasked'
    split
    · exact ⟨_, hboth, fun item h => by cases h⟩
    · refine ⟨_, ⟨hboth.log, hboth.counted, hboth.within⟩, fun item hitem => ?_⟩
      obtain ⟨hmem, hmode, hallowed⟩ := hitems' item (List.mem_of_getElem? hitem)
      exact ⟨List.mem_append_right _ hmem, hmode, List.mem_append_right _ hallowed⟩

theorem LootGroup.process_adds (floats : LootFloats φ) (env : LootFillEnvironment φ σ)
    (hgroup : ∀ item ∈ group.items, P ⟨call.storeKind, call.entry, item⟩)
    (start : LootFillState φ (σ × List (FillEvent φ))) :
    Adds options P start (group.process floats env.recording options call start) := by
  obtain ⟨events, hasked, hrolled⟩ := rollWithContext_asked floats env hgroup
    start.environment
  rw [LootGroup.process]
  split
  · exact .of_asked hasked rfl
  case h_2 item hitem =>
    obtain ⟨-, hmode, hallowed⟩ := hrolled item hitem
    exact addGeneratedLootItem_adds env hasked rfl hallowed hmode

theorem processGroups_adds (floats : LootFloats φ) (env : LootFillEnvironment φ σ)
    {groups : List (LootGroup φ)}
    (hgroups : ∀ group ∈ groups, ∀ item ∈ group.items, P ⟨call.storeKind, call.entry, item⟩)
    (start : LootFillState φ (σ × List (FillEvent φ))) :
    Adds options P start (processGroups floats env.recording options call groups start) := by
  induction groups generalizing start with
  | nil => exact .refl
  | cons group groups ih =>
    obtain ⟨hgroup, hrest⟩ := List.forall_mem_cons.mp hgroups
    rw [processGroups]
    split
    · exact .refl
    · exact (group.process_adds floats env hgroup start).trans (ih hrest _)

/-! ## Templates -/

/-- The calls in `C` are about rows of the kind `P`, and lead to calls in `C`. -/
structure FillScope (stores : LootStores φ) (C : TemplateCall φ → Prop)
    (P : LootStoreItemContext φ → Prop) : Prop where
  group : ∀ call, C call → call.groupId ≠ 0 → ∀ group, call.group = some group →
    ∀ item ∈ group.items, P ⟨call.storeKind, call.entry, item⟩
  groups : ∀ call, C call → call.groupId = 0 → ∀ group ∈ call.template.groups,
    ∀ item ∈ group.items, P ⟨call.storeKind, call.entry, item⟩
  entries : ∀ call, C call → call.groupId = 0 → ∀ item ∈ call.template.entries,
    item.reference = 0 → P ⟨call.storeKind, call.entry, item⟩
  references : ∀ call, C call → call.groupId = 0 → ∀ item ∈ call.template.entries,
    item.reference ≠ 0 → ∀ template, stores.referenceTemplate item.reference = some template →
      C (item.referenceCall template)

abbrev MeetsAdds (options : LootFillOptions φ) (C : TemplateCall φ → Prop)
    (P : LootStoreItemContext φ → Prop) (start : LootFillState φ (σ × List (FillEvent φ))) :
    LootFill φ (σ × List (FillEvent φ)) (LootFillState φ (σ × List (FillEvent φ))) → Prop :=
  Meets (fun call => C call.1) (fun call result => Adds options P call.2 result)
    (Adds options P start)

variable {C : TemplateCall φ → Prop}

theorem MeetsAdds.bind {f : LootFillState φ (σ × List (FillEvent φ)) →
      LootFill φ (σ × List (FillEvent φ)) (LootFillState φ (σ × List (FillEvent φ)))}
    {t : LootFill φ (σ × List (FillEvent φ)) (LootFillState φ (σ × List (FillEvent φ)))}
    (ht : MeetsAdds options C P start t) (hf : ∀ state, MeetsAdds options C P state (f state)) :
    MeetsAdds options C P start (t >>= f) :=
  Meets.bind ht fun state hstate => (hf state).mono fun _ hresult => hstate.trans hresult

theorem processReference_meets (hcall : C call) (rounds : ℕ)
    (start : LootFillState φ (σ × List (FillEvent φ))) :
    MeetsAdds options C P start (processReference call rounds start) := by
  induction rounds generalizing start with
  | zero => exact .done .refl
  | succ rounds ih =>
    have hask : MeetsAdds options C P start (CallTree.ask (call, start)) :=
      .call hcall fun _ hfilled => .done hfilled
    refine hask.bind fun filled => ?_
    split
    · exact .done .refl
    · exact ih filled

section Templates

variable {stores : LootStores φ} (floats : LootFloats φ) (env : LootFillEnvironment φ σ)

theorem roll_asked (item : LootStoreItem φ) (rate : φ) (s : σ × List (FillEvent φ)) :
    Asked P s (item.roll floats env.recording rate s).2 [] := by
  rw [LootStoreItem.roll]
  split
  · exact .refl
  rw [rollChance]
  split
  · exact .refl
  split
  · exact .refl
  · exact .of_eq rfl

theorem processEntry_meets (hplain : item.reference = 0 → P ⟨call.storeKind, call.entry, item⟩)
    (hreferred : item.reference ≠ 0 → ∀ template,
      stores.referenceTemplate item.reference = some template → C (item.referenceCall template))
    (start : LootFillState φ (σ × List (FillEvent φ))) :
    MeetsAdds options C P start
      (processEntry floats env.recording options stores call item start) := by
  rw [processEntry]
  split
  · exact .done .refl
  case isFalse hmode =>
    have hrate : ∃ rate, (if options.ratesAllowed then
        env.recording.itemChanceRate item start.environment
        else (floats.one, start.environment)) = rate ∧ Asked P start.environment rate.2 [] := by
      refine ⟨_, rfl, ?_⟩
      split <;> exact .of_eq rfl
    obtain ⟨rate, hrate, hasked⟩ := hrate
    rw [hrate]
    have hrolled := hasked.trans (roll_asked floats env item rate.1 rate.2)
    dsimp only
    generalize item.roll floats env.recording rate.1 rate.2 = rolled at hrolled
    split
    · exact .done (.of_asked hrolled rfl)
    split
    case isTrue hreference =>
      have hallowed : Asked P start.environment
          (env.recording.itemAllowed ⟨call.storeKind, call.entry, item⟩ rolled.2).2
          [.allowed ⟨call.storeKind, call.entry, item⟩
            (env.recording.itemAllowed ⟨call.storeKind, call.entry, item⟩ rolled.2).1] :=
        hrolled.trans (.allowed (hplain hreference) rfl)
      split
      · exact .done (.of_asked hallowed rfl)
      case isFalse hanswer =>
        refine .done (addGeneratedLootItem_adds env hallowed rfl ?_ hmode)
        exact List.mem_singleton.mpr
          (congrArg (FillEvent.allowed _) (Bool.eq_true_of_not_eq_false (by simpa using hanswer)).symm)
    case isFalse hreference =>
      split
      · exact .done (.of_asked hrolled rfl)
      case h_2 template htemplate =>
        have hreached : Adds options P start ⟨rolled.2, start.generated⟩ := .of_asked hrolled rfl
        exact (processReference_meets (hreferred hreference template htemplate) _ _).mono
          fun _ h => hreached.trans h

theorem processEntries_meets
    (hplain : ∀ item ∈ items, item.reference = 0 → P ⟨call.storeKind, call.entry, item⟩)
    (hreferred : ∀ item ∈ items, item.reference ≠ 0 → ∀ template,
      stores.referenceTemplate item.reference = some template → C (item.referenceCall template))
    (start : LootFillState φ (σ × List (FillEvent φ))) :
    MeetsAdds options C P start
      (processEntries floats env.recording options stores call items start) := by
  induction items generalizing start with
  | nil => exact .done .refl
  | cons item items ih =>
    obtain ⟨hitem, hrest⟩ := List.forall_mem_cons.mp hplain
    obtain ⟨hitem', hrest'⟩ := List.forall_mem_cons.mp hreferred
    rw [processEntries]
    split
    · exact .done .refl
    · exact (processEntry_meets floats env hitem hitem' start).bind (ih hrest hrest')

theorem processTemplate_meets (hscope : FillScope stores C P)
    (start : TemplateCall φ × LootFillState φ (σ × List (FillEvent φ))) (hstart : C start.1) :
    MeetsAdds options C P start.2
      (processTemplate floats env.recording options stores start) := by
  rw [processTemplate]
  split
  · exact .done .refl
  split
  case isTrue hgroup =>
    split
    · exact .done .refl
    case h_2 group hsome =>
      exact .done (group.process_adds floats env
        (hscope.group start.1 hstart hgroup group hsome) start.2)
  case isFalse hgroup =>
    have hwhole := not_not.mp hgroup
    exact (processEntries_meets floats env (hscope.entries start.1 hstart hwhole)
      (hscope.references start.1 hstart hwhole) start.2).bind fun state =>
        .done (processGroups_adds floats env (hscope.groups start.1 hstart hwhole) state)

end Templates

theorem fillScope_valid {stores : LootStores φ}
    (hstores : ∀ reference template, stores.referenceTemplate reference = some template →
      template.Valid) :
    FillScope stores (fun call => call.template.Valid) (fun context => context.item.CountsValid)
    where
  group _ hcall _ group hsome := hcall.groups group (List.mem_of_getElem? hsome)
  groups _ hcall _ := hcall.groups
  entries _ hcall _ := hcall.entries
  references _ _ _ item _ _ template htemplate := hstores item.reference template htemplate

/-! ## The fill -/

/-- Loot as the log tells of it: at most as large as the cap, numbered in order, and made of the
stacks of one accepted roll after the other, which add up to the count of the roll unless the
cap is reached. -/
structure WellFormedLoot (options : LootFillOptions φ) (log : List (FillEvent φ))
    (generated : List (GeneratedLootItem φ)) : Prop where
  length_le : generated.length ≤ 18
  lootListId : ∀ i (item : GeneratedLootItem φ), generated[i]? = some item → item.lootListId = i
  rolls : ∃ chunks : List (AcceptedRoll φ × List (GeneratedLootItem φ)),
    generated = chunks.flatMap Prod.snd ∧
    log.filter FillEvent.isCounted = chunks.map (fun chunk => chunk.1.event) ∧
    ∀ chunk ∈ chunks, chunk.1.Logged options log ∧ chunk.1.context.item.CountsValid ∧
      chunk.1.Stacks chunk.2 ∧
      (generated.length < 18 → itemTotal chunk.2 = chunk.1.count.toNat)

theorem Adds.wellFormed {s : σ}
    (h : Adds options (fun context => context.item.CountsValid) ⟨(s, []), []⟩ result) :
    WellFormedLoot options result.environment.2 result.generated := by
  obtain ⟨events, chunks, h⟩ := h
  have hnumbered := h.numbered ⟨Nat.zero_le _, rfl⟩
  have hlog : result.environment.2 = events := h.log
  refine ⟨hnumbered.length_le, fun i item hitem => ?_, chunks, h.generated, ?_, ?_⟩
  · have hid : (result.generated.map (·.lootListId))[i]? = some item.lootListId := by
      rw [List.getElem?_map, hitem]
      rfl
    rw [hnumbered.lootListIds] at hid
    obtain ⟨hlt, hid⟩ := List.getElem?_eq_some_iff.mp hid
    rw [← hid, List.getElem_range]
  · rw [hlog, h.counted]
  · intro chunk hmem
    have hlogged := h.logged chunk hmem
    refine ⟨hlog ▸ hlogged, h.within _ _ hlogged.allowed, h.stacked chunk hmem, fun hroom => ?_⟩
    exact h.totals (decide_eq_false (Nat.not_le.mpr hroom)) chunk hmem

/-- A fill from loaded stores whose references end returns well-formed loot, for every generator
and all callbacks. -/
theorem shared_loot_wellFormed (floats : LootFloats φ) {stores : LootStores φ}
    (hstores : ∀ kind loaded, stores.lookup kind = some loaded → loaded.Loaded floats)
    {store : LootStore φ} (hstore : store.Loaded floats) {lootId : BitVec 32}
    {template : LootTemplate φ} (htemplate : store.getLootFor lootId = some template)
    (hacyclic : ¬ EndlessReferences stores template) (storeKind : LootStoreKind)
    (options : LootFillOptions φ) (env : LootFillEnvironment φ σ) (s : σ) :
    (∃ depth, (store.fillLootWithContext floats lootId storeKind stores options env s
        depth).isSome) ∧
      ∀ depth generated, store.fillLootWithContext floats lootId storeKind stores options env s
          depth = some (.ok generated) →
        ∃ state, recurse (processTemplate floats env.recording options stores) depth
            (⟨template, storeKind, lootId, 0⟩, ⟨(s, []), []⟩) = some state ∧
          state.generated = generated ∧
          WellFormedLoot options state.environment.2 generated := by
  have hreferences : ∀ reference template, stores.referenceTemplate reference = some template →
      template.Valid := by
    intro reference template hreference
    obtain ⟨loaded, hloaded, hlookup⟩ := Option.bind_eq_some_iff.mp hreference
    exact (hstores _ loaded hloaded).valid reference template hlookup
  simp only [LootStore.fillLootWithContext, htemplate, Option.isSome_map]
  constructor
  · have hfollows := acc_follows (acc_refersTo_iff.mpr hacyclic) 0
    exact terminates_of_within (within_processTemplate floats stores env options)
      (acc_start (fun start : TemplateCall φ × LootFillState φ σ =>
        (start.1.template, start.1.groupId)) hfollows)
  · intro depth generated hfill
    obtain ⟨state, hstate, hgenerated⟩ := Option.map_eq_some_iff.mp hfill
    obtain ⟨recorded, hrecorded, hforget⟩ := exists_recording floats env options stores _ s hstate
    have hadds := recurse_meets (processTemplate_meets floats env (fillScope_valid hreferences))
      (hstore.valid lootId template htemplate) hrecorded
    have hsame : recorded.generated = generated := by
      have h := congrArg LootFillState.generated hforget
      exact h.trans (Except.ok.inj hgenerated)
    exact ⟨recorded, hrecorded, hsame, hsame ▸ hadds.wellFormed⟩

/-- A generator and callbacks that always answer the same. -/
def steadyEnvironment (maxStack : BitVec 32) : LootFillEnvironment ℤ Unit where
  genPercent s := (0, s)
  genCount minCount _ s := (minCount.setWidth 32, s)
  genIndex _ s := (0, s)
  itemTemplate _ s := (some ⟨maxStack, false, false⟩, s)
  itemChanceRate _ s := (1, s)
  itemAllowed _ s := (true, s)
  randomProperties _ s := (⟨0, 0⟩, s)

def fiveItemsRow : LootTemplateRow ℤ := ⟨1, ⟨7, 0, 100, false, 1, 0, 5, 5⟩⟩

def fiveItemsStore : LootStore ℤ :=
  ((LootStore.forKind .creature).loadRows wholeChances [fiveItemsRow] fun _ => true).1

/-- Five items in stacks of two. -/
theorem shared_loot_wellFormed_five_items :
    ((∃ depth, (fiveItemsStore.fillLootWithContext wholeChances 1 .creature ∅ ⟨1, true, 1, 0⟩
        (steadyEnvironment 2) () depth).isSome) ∧
      ∀ depth generated, fiveItemsStore.fillLootWithContext wholeChances 1 .creature ∅
          ⟨1, true, 1, 0⟩ (steadyEnvironment 2) () depth = some (.ok generated) →
        ∃ state, recurse (processTemplate wholeChances (steadyEnvironment 2).recording
            ⟨1, true, 1, 0⟩ ∅) depth
            (⟨⟨[fiveItemsRow.item], []⟩, .creature, 1, 0⟩, ⟨((), []), []⟩) = some state ∧
          state.generated = generated ∧
          WellFormedLoot ⟨1, true, 1, 0⟩ state.environment.2 generated) ∧
      ((fiveItemsStore.fillLootWithContext wholeChances 1 .creature ∅ ⟨1, true, 1, 0⟩
        (steadyEnvironment 2) () 1).map fun result => result.toOption.map fun generated =>
          generated.map fun item => item.count.toNat) = some (some [2, 2, 1]) :=
  ⟨shared_loot_wellFormed wholeChances (by simp) ⟨_, _, _, rfl⟩ rfl
    (not_endlessReferences (by decide)) .creature _ _ (), by decide⟩

end RustyCore.Loot
