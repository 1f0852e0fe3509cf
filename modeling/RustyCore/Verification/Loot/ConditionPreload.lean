import RustyCore.Verification.Loot.PersonalCap

/-! # The conditions a fill asks about

The ids that are collected before a fill cover every row that the fill, shared or personal, asks
its callback about. -/

namespace RustyCore.Loot

open CallTree

variable {φ σ : Type} {stores : LootStores φ}
variable {items : List (LootStoreItem φ)}
variable {call : TemplateCall φ} {ids : List LootConditionId} {item : LootStoreItem φ}
  {groups : List (LootGroup φ)}

/-! ## What is collected -/

def LootStoreItemContext.conditionId (context : LootStoreItemContext φ) : LootConditionId where
  sourceType := context.storeKind.conditionSourceType
  sourceGroup := context.entry
  sourceEntry := context.item.itemId

/-- The rows whose ids are among `ids`. -/
def Preloaded (ids : List LootConditionId) (context : LootStoreItemContext φ) : Prop :=
  context.conditionId ∈ ids

/-- The calls whose walk collects nothing that is not among `ids`. -/
def Collected (stores : LootStores φ) (ids : List LootConditionId) (call : TemplateCall φ) :
    Prop := ∃ collected, Returns (appendConditionIdsForFill stores) call collected ∧ collected ⊆ ids

/-- What is collected for the plain entries: their own ids, and those of the templates that they
refer to. -/
theorem entryConditionIds_run {answer : TemplateCall φ → Option (List LootConditionId)}
    {collected : List LootConditionId}
    (h : (entryConditionIds stores call items).run answer = some collected) :
    ∀ item ∈ items, (item.reference = 0 → call.conditionId item ∈ collected) ∧
      (item.reference ≠ 0 → ∀ template, stores.referenceTemplate item.reference = some template →
        ∃ inner, answer (item.referenceCall template) = some inner ∧ inner ⊆ collected) := by
  induction items generalizing collected with
  | nil => exact fun item hmem => (List.not_mem_nil hmem).elim
  | cons item items ih =>
    rw [entryConditionIds] at h
    split at h
    case isTrue hreference =>
      rw [run_bind] at h
      obtain ⟨rest, hrest, hdone⟩ := Option.bind_eq_some_iff.mp h
      obtain rfl := Option.some.inj hdone
      refine List.forall_mem_cons.mpr ⟨⟨fun _ => List.mem_cons_self,
        fun hne => absurd hreference hne⟩, fun other hmem => ?_⟩
      obtain ⟨hplain, hreferred⟩ := ih hrest other hmem
      refine ⟨fun hzero => List.mem_cons_of_mem _ (hplain hzero), fun hne template htemplate => ?_⟩
      obtain ⟨inner, hinner, hsub⟩ := hreferred hne template htemplate
      exact ⟨inner, hinner, List.Subset.trans hsub (List.subset_cons_self _ _)⟩
    case isFalse hreference =>
      split at h
      case h_1 hnone =>
        refine List.forall_mem_cons.mpr ⟨⟨fun hzero => absurd hzero hreference,
          fun _ template htemplate => ?_⟩, ih h⟩
        rw [hnone] at htemplate
        cases htemplate
      case h_2 template htemplate =>
        rw [run_bind, run_ask] at h
        obtain ⟨inner, hinner, hnext⟩ := Option.bind_eq_some_iff.mp h
        rw [run_bind] at hnext
        obtain ⟨rest, hrest, hdone⟩ := Option.bind_eq_some_iff.mp hnext
        obtain rfl := Option.some.inj hdone
        refine List.forall_mem_cons.mpr ⟨⟨fun hzero => absurd hzero hreference,
          fun _ template' htemplate' => ?_⟩, fun other hmem => ?_⟩
        · obtain rfl := Option.some.inj (htemplate.symm.trans htemplate')
          exact ⟨inner, hinner, List.subset_append_left _ _⟩
        · obtain ⟨hplain, hreferred⟩ := ih hrest other hmem
          refine ⟨fun hzero => List.mem_append_right _ (hplain hzero),
            fun hne template htemplate => ?_⟩
          obtain ⟨inner', hinner', hsub⟩ := hreferred hne template htemplate
          exact ⟨inner', hinner', List.Subset.trans hsub (List.subset_append_right _ _)⟩

theorem collected_whole (h : Collected stores ids call) (hgroup : call.groupId = 0) :
    (∀ item ∈ call.template.entries, (item.reference = 0 → call.conditionId item ∈ ids) ∧
      (item.reference ≠ 0 → ∀ template, stores.referenceTemplate item.reference = some template →
        Collected stores ids (item.referenceCall template))) ∧
      ∀ group ∈ call.template.groups, ∀ item ∈ group.items, call.conditionId item ∈ ids := by
  obtain ⟨collected, ⟨depth, hdepth⟩, hsub⟩ := h
  cases depth with
  | zero => cases hdepth
  | succ depth =>
    rw [recurse, appendConditionIdsForFill, if_neg (not_not.mpr hgroup), run_bind] at hdepth
    obtain ⟨entryIds, hentries, hdone⟩ := Option.bind_eq_some_iff.mp hdepth
    obtain rfl := Option.some.inj hdone
    constructor
    · intro item hmem
      obtain ⟨hplain, hreferred⟩ := entryConditionIds_run hentries item hmem
      refine ⟨fun hzero => hsub (List.mem_append_left _ (hplain hzero)),
        fun hne template htemplate => ?_⟩
      obtain ⟨inner, hinner, hinnerSub⟩ := hreferred hne template htemplate
      exact ⟨inner, ⟨depth, hinner⟩,
        List.Subset.trans (List.Subset.trans hinnerSub (List.subset_append_left _ _)) hsub⟩
    · intro group hgroup item hitem
      refine hsub (List.mem_append_right _ (List.mem_flatMap.mpr ⟨group, hgroup, ?_⟩))
      exact List.mem_map_of_mem hitem

theorem collected_group (h : Collected stores ids call) (hgroup : call.groupId ≠ 0)
    {group : LootGroup φ} (hsome : call.group = some group) (hmem : item ∈ group.items) :
    call.conditionId item ∈ ids := by
  obtain ⟨collected, ⟨depth, hdepth⟩, hsub⟩ := h
  cases depth with
  | zero => cases hdepth
  | succ depth =>
    rw [recurse, appendConditionIdsForFill, if_pos hgroup, hsome] at hdepth
    obtain rfl := Option.some.inj hdepth
    exact hsub (List.mem_map_of_mem hmem)

/-- Fills of calls whose ids are collected ask about rows whose ids are. -/
theorem fillScope_collected (ids : List LootConditionId) :
    FillScope stores (Collected stores ids) (Preloaded ids) where
  group _ hcall hgroup _ hsome _ hmem := collected_group hcall hgroup hsome hmem
  groups _ hcall hgroup := (collected_whole hcall hgroup).2
  entries _ hcall hgroup item hmem := ((collected_whole hcall hgroup).1 item hmem).1
  references _ hcall hgroup item hmem := ((collected_whole hcall hgroup).1 item hmem).2

theorem mem_destutter_ne {α : Type} [DecidableEq α] {a : α} {l : List α} (h : a ∈ l) :
    a ∈ l.destutter (· ≠ ·) := by
  have hcons : ∀ (b : α) (l : List α), a ∈ b :: l → a ∈ l.destutter' (· ≠ ·) b := by
    intro b l hmem
    induction l generalizing b with
    | nil => exact hmem
    | cons c l ih =>
      by_cases hne : b ≠ c
      · rw [List.destutter'_cons_pos l hne]
        rcases List.mem_cons.mp hmem with rfl | hrest
        · exact List.mem_cons_self
        · exact List.mem_cons_of_mem _ (ih c hrest)
      · obtain rfl : b = c := not_not.mp hne
        rw [List.destutter'_cons_neg l hne]
        exact ih b (List.mem_cons.mpr ((List.mem_cons.mp hmem).elim .inl List.mem_cons.mp))
  cases l with
  | nil => cases h
  | cons b l => exact hcons b l h

/-! ## Personal fills -/

/-- The environment that also writes down its events. -/
def PersonalFillEnvironment.recording (env : PersonalFillEnvironment φ σ) :
    PersonalFillEnvironment φ (σ × List (FillEvent φ)) where
  genPercent s := ((env.genPercent s.1).1, (env.genPercent s.1).2, s.2)
  genCount minCount maxCount s :=
    ((env.genCount minCount maxCount s.1).1, (env.genCount minCount maxCount s.1).2,
      s.2 ++ [.counted minCount maxCount (env.genCount minCount maxCount s.1).1])
  genIndex n s := ((env.genIndex n s.1).1, (env.genIndex n s.1).2, s.2)
  itemTemplate itemId s :=
    ((env.itemTemplate itemId s.1).1, (env.itemTemplate itemId s.1).2,
      s.2 ++ [.template itemId (env.itemTemplate itemId s.1).1])
  itemChanceRate item s := ((env.itemChanceRate item s.1).1, (env.itemChanceRate item s.1).2, s.2)
  itemAllowed context looter s :=
    ((env.itemAllowed context looter s.1).1, (env.itemAllowed context looter s.1).2,
      s.2 ++ [.allowed context (env.itemAllowed context looter s.1).1])
  randomProperties itemId s :=
    ((env.randomProperties itemId s.1).1, (env.randomProperties itemId s.1).2, s.2)

theorem forLooter_recording (env : PersonalFillEnvironment φ σ) (looter : ObjectGuid) :
    env.recording.forLooter looter = (env.forLooter looter).recording := rfl

variable {P : LootStoreItemContext φ → Prop} {s : σ × List (FillEvent φ)}

theorem AskedWithin.allowed {log : List (FillEvent φ)} (h : AskedWithin P log)
    {context : LootStoreItemContext φ} (hcontext : P context) (answer : Bool) :
    AskedWithin P (log ++ [.allowed context answer]) :=
  h.append fun other answer' hmem => by
    cases List.mem_singleton.mp hmem
    exact hcontext

section Search

variable (env : PersonalFillEnvironment φ σ) (looter : ObjectGuid) {call : TemplateCall φ}

theorem anyAllowed_within (hitems : ∀ item ∈ items, P ⟨call.storeKind, call.entry, item⟩)
    (h : AskedWithin P s.2) : AskedWithin P (anyAllowed env.recording looter call items s).2.2 := by
  induction items generalizing s with
  | nil => exact h
  | cons item items ih =>
    obtain ⟨hitem, hrest⟩ := List.forall_mem_cons.mp hitems
    have hasked := h.allowed hitem (env.itemAllowed ⟨call.storeKind, call.entry, item⟩ looter s.1).1
    rw [anyAllowed]
    split
    · exact hasked
    · exact ih hrest hasked

theorem groupsHaveDrop_within
    (hgroups : ∀ group ∈ groups, ∀ item ∈ group.items, P ⟨call.storeKind, call.entry, item⟩)
    (h : AskedWithin P s.2) :
    AskedWithin P (groupsHaveDrop env.recording looter call groups s).2.2 := by
  induction groups generalizing s with
  | nil => exact h
  | cons group groups ih =>
    obtain ⟨hgroup, hrest⟩ := List.forall_mem_cons.mp hgroups
    have hasked := anyAllowed_within env looter hgroup h
    rw [groupsHaveDrop]
    split
    · exact hasked
    · exact ih hrest hasked

/-- A search that asks within a kind of rows, if the searches that it calls do. -/
abbrev MeetsWithin (C : TemplateCall φ → Prop) (P : LootStoreItemContext φ → Prop) :
    DropSearch φ (σ × List (FillEvent φ)) (Bool × σ × List (FillEvent φ)) → Prop :=
  Meets (fun start => C start.1 ∧ AskedWithin P start.2.2) (fun _ answer => AskedWithin P answer.2.2)
    (fun answer => AskedWithin P answer.2.2)

variable {C : TemplateCall φ → Prop}

theorem entriesHaveDrop_meets
    (hplain : ∀ item ∈ items, item.reference = 0 → P ⟨call.storeKind, call.entry, item⟩)
    (hreferred : ∀ item ∈ items, item.reference ≠ 0 → ∀ template,
      stores.referenceTemplate item.reference = some template → C (item.referenceCall template))
    (h : AskedWithin P s.2) :
    MeetsWithin C P (entriesHaveDrop env.recording looter stores call items s) := by
  induction items generalizing s with
  | nil => exact .done h
  | cons item items ih =>
    obtain ⟨hitem, hrest⟩ := List.forall_mem_cons.mp hplain
    obtain ⟨hitem', hrest'⟩ := List.forall_mem_cons.mp hreferred
    rw [entriesHaveDrop]
    split
    case isTrue hreference =>
      have hasked := h.allowed (hitem hreference)
        (env.itemAllowed ⟨call.storeKind, call.entry, item⟩ looter s.1).1
      dsimp only
      split
      · exact .done hasked
      · exact ih hrest hrest' hasked
    case isFalse hreference =>
      split
      · exact ih hrest hrest' h
      case h_2 template htemplate =>
        have hask : MeetsWithin C P (CallTree.ask (item.referenceCall template, s)) :=
          .call ⟨hitem' hreference template htemplate, h⟩ fun _ hanswer => .done hanswer
        refine hask.bind fun answer hanswer => ?_
        split
        · exact .done hanswer
        · exact ih hrest hrest' hanswer

theorem hasDropForPersonalLooter_meets (hscope : FillScope stores C P)
    (start : TemplateCall φ × σ × List (FillEvent φ))
    (hstart : C start.1 ∧ AskedWithin P start.2.2) :
    MeetsWithin C P (hasDropForPersonalLooter env.recording looter stores start) := by
  rw [hasDropForPersonalLooter]
  split
  case isTrue hgroup =>
    split
    · exact .done hstart.2
    case h_2 group hsome =>
      exact .done (anyAllowed_within env looter (hscope.group _ hstart.1 hgroup group hsome) hstart.2)
  case isFalse hgroup =>
    have hwhole := not_not.mp hgroup
    refine (entriesHaveDrop_meets env looter (hscope.entries _ hstart.1 hwhole)
      (hscope.references _ hstart.1 hwhole) hstart.2).bind fun answer hanswer => ?_
    split
    · exact .done hanswer
    · exact .done (groupsHaveDrop_within env looter (hscope.groups _ hstart.1 hwhole) hanswer)

end Search

theorem filterLooters_within {allowed : ObjectGuid → σ × List (FillEvent φ) →
      Option (Bool × σ × List (FillEvent φ))}
    (hallowed : ∀ looter s answer, AskedWithin P s.2 → allowed looter s = some answer →
      AskedWithin P answer.2.2)
    {looters : List ObjectGuid} {found : List ObjectGuid × σ × List (FillEvent φ)}
    (h : AskedWithin P s.2) (hfound : filterLooters allowed looters s = some found) :
    AskedWithin P found.2.2 := by
  induction looters generalizing s found with
  | nil =>
    cases hfound
    exact h
  | cons looter looters ih =>
    obtain ⟨answer, hanswer, hnext⟩ := Option.bind_eq_some_iff.mp hfound
    obtain ⟨rest, hrest, hdone⟩ := Option.bind_eq_some_iff.mp hnext
    have hwithin := ih (hallowed looter s answer h hanswer) hrest
    cases hdone
    exact hwithin

section Filling

variable (floats : LootFloats φ) (env : PersonalFillEnvironment φ σ) (options : LootFillOptions φ)
  {state : PersonalFillState φ (σ × List (FillEvent φ))}
variable {call : TemplateCall φ}

theorem addPersonalStacks_environment (looter : ObjectGuid) (context : LootStoreItemContext φ)
    (metadata : LootItemTemplateMetadata) (remaining : ℕ) (count : BitVec 32)
    (state : PersonalFillState φ (σ × List (FillEvent φ))) :
    (addPersonalStacks env.recording options looter context metadata remaining count
      state).environment.2 = state.environment.2 := by
  induction remaining generalizing count state with
  | zero => rfl
  | succ remaining ih =>
    rw [addPersonalStacks]
    split
    · rfl
    · exact ih _ _

theorem addGeneratedPersonalLootItem_within (looter : ObjectGuid)
    (context : LootStoreItemContext φ) (h : AskedWithin P state.environment.2) :
    AskedWithin P (addGeneratedPersonalLootItem env.recording options looter context
      state).environment.2 := by
  have htemplate : AskedWithin P (env.recording.itemTemplate context.item.itemId
      state.environment).2.2 :=
    h.append fun _ _ hmem => by cases List.mem_singleton.mp hmem
  rw [addGeneratedPersonalLootItem]
  split
  · exact htemplate
  split
  · exact htemplate
  · rw [addPersonalStacks_environment]
    exact htemplate.append fun _ _ hmem => by cases List.mem_singleton.mp hmem

theorem allowedItems_silent (contextOf : LootStoreItem φ → LootStoreItemContext φ)
    (items : List (LootStoreItem φ)) (s : σ × List (FillEvent φ)) :
    (allowedItems (env.recording.withAllowed fun _ s => (true, s)) options contextOf items s).2 =
      s := by
  induction items generalizing s with
  | nil => rfl
  | cons item items ih =>
    rw [allowedItems]
    split
    · exact ih s
    · exact ih s

theorem rollWithContext_silent (group : LootGroup φ)
    (contextOf : LootStoreItem φ → LootStoreItemContext φ) (s : σ × List (FillEvent φ)) :
    (group.rollWithContext floats (env.recording.withAllowed fun _ s => (true, s)) options
      contextOf s).2.2 = s.2 := by
  simp only [LootGroup.rollWithContext, allowedItems_silent]
  split
  · split <;> rfl
  · split <;> split <;> rfl

theorem processPersonalRoot_within (group : LootGroup φ) (call : TemplateCall φ)
    (looter : ObjectGuid) (h : AskedWithin P state.environment.2) :
    AskedWithin P (group.processPersonalRoot floats env.recording options call looter
      state).environment.2 := by
  have hsilent := rollWithContext_silent floats env options group
    (LootStoreItemContext.mk call.storeKind call.entry) state.environment
  rw [LootGroup.processPersonalRoot]
  split
  · exact hsilent.symm ▸ h
  · refine addGeneratedPersonalLootItem_within env options looter _ ?_
    exact hsilent.symm ▸ h

theorem roll_silent (item : LootStoreItem φ) (rate : φ) (s : σ × List (FillEvent φ)) :
    (item.roll floats (env.recording.withAllowed fun _ s => (true, s)) rate s).2.2 = s.2 := by
  rw [LootStoreItem.roll]
  split
  · rfl
  rw [rollChance]
  split
  · rfl
  · split <;> rfl

variable (stores) (looters : List ObjectGuid) (depth : ℕ) {C : TemplateCall φ → Prop}

/-- A personal fill that asks within a kind of rows, if its rounds do. -/
abbrev FillsWithin (C : TemplateCall φ → Prop) (P : LootStoreItemContext φ → Prop) :
    PersonalFill φ (σ × List (FillEvent φ)) (PersonalFillState φ (σ × List (FillEvent φ))) → Prop :=
  Meets (fun round => C round.call ∧ AskedWithin P round.state.environment.2)
    (fun _ result => AskedWithin P result.environment.2)
    (fun result => AskedWithin P result.environment.2)

variable {stores}

/-- One round asks within the rows of its template. -/
theorem processForPersonalLooter_within (hscope : FillScope stores C P)
    (round : LooterRound φ (σ × List (FillEvent φ)))
    (result : PersonalFillState φ (σ × List (FillEvent φ)))
    (hround : C round.call ∧ AskedWithin P round.state.environment.2)
    (hresult : processForPersonalLooter floats env.recording options stores depth round =
      some result) : AskedWithin P result.environment.2 := by
  obtain ⟨filled, hfilled, rfl⟩ := Option.map_eq_some_iff.mp hresult
  rw [LooterRound.filled, forLooter_recording] at hfilled
  obtain ⟨events, chunks, hadds⟩ :=
    recurse_meets (processTemplate_meets floats _ hscope) hround.1 hfilled
  change AskedWithin P filled.environment.2
  rw [hadds.log]
  exact hround.2.append hadds.within

theorem personalRounds_within (hscope : FillScope stores C P) (hcall : C call) (rounds : ℕ)
    (gotLoot : List ObjectGuid) (state : PersonalFillState φ (σ × List (FillEvent φ)))
    (h : AskedWithin P state.environment.2) :
    FillsWithin C P (personalRounds env.recording stores looters depth call rounds gotLoot state) := by
  induction rounds generalizing gotLoot state with
  | zero => exact .done h
  | succ rounds ih =>
    rw [personalRounds]
    split
    · exact .stuck
    case h_2 eligible s heligible =>
      have hs : AskedWithin P s.2 := by
        refine filterLooters_within (fun looter s answer hs hanswer => ?_) h heligible
        exact recurse_meets (hasDropForPersonalLooter_meets env looter hscope) ⟨hcall, hs⟩ hanswer
      dsimp only
      split
      · exact .done hs
      split
      · exact .stuck
      · exact .call ⟨hcall, hs⟩ fun filled hfilled => ih _ filled hfilled

theorem processPersonalEntry_within (hscope : FillScope stores C P)
    (hplain : item.reference = 0 → P ⟨call.storeKind, call.entry, item⟩)
    (hreferred : item.reference ≠ 0 → ∀ template,
      stores.referenceTemplate item.reference = some template → C (item.referenceCall template))
    (h : AskedWithin P state.environment.2) :
    FillsWithin C P
      (processPersonalEntry floats env.recording options stores looters depth call item state) := by
  rw [processPersonalEntry]
  split
  · exact .done h
  have hrate : AskedWithin P (if options.ratesAllowed = true then
      env.recording.itemChanceRate item state.environment
      else (floats.one, state.environment)).2.2 := by
    split
    · exact h
    · exact h
  generalize (if options.ratesAllowed = true then
    env.recording.itemChanceRate item state.environment
    else (floats.one, state.environment)) = rate at hrate
  have hrolled : AskedWithin P (item.roll floats
      (env.recording.withAllowed fun _ s => (true, s)) rate.1 rate.2).2.2 :=
    (roll_silent floats env item rate.1 rate.2).symm ▸ hrate
  dsimp only
  split
  · exact .done hrolled
  split
  case isTrue hreference =>
    rw [processPlainEntry]
    split
    · exact .stuck
    case h_2 candidates s hcandidates =>
      have hs : AskedWithin P s.2 := by
        refine filterLooters_within (fun looter s answer hs hanswer => ?_) hrolled hcandidates
        cases hanswer
        exact hs.allowed (hplain hreference) _
      split
      · exact .done hs
      dsimp only
      split
      · exact .stuck
      · exact .done (addGeneratedPersonalLootItem_within env options _ _ hs)
  case isFalse hreference =>
    split
    · exact .done hrolled
    case h_2 template htemplate =>
      exact personalRounds_within env looters depth hscope (hreferred hreference template htemplate)
        _ _ _ hrolled

theorem processPersonalEntries_within (hscope : FillScope stores C P)
    (hplain : ∀ item ∈ items, item.reference = 0 → P ⟨call.storeKind, call.entry, item⟩)
    (hreferred : ∀ item ∈ items, item.reference ≠ 0 → ∀ template,
      stores.referenceTemplate item.reference = some template → C (item.referenceCall template))
    (h : AskedWithin P state.environment.2) :
    FillsWithin C P (processPersonalEntries floats env.recording options stores looters depth call
      items state) := by
  induction items generalizing state with
  | nil => exact .done h
  | cons item items ih =>
    obtain ⟨hitem, hrest⟩ := List.forall_mem_cons.mp hplain
    obtain ⟨hitem', hrest'⟩ := List.forall_mem_cons.mp hreferred
    rw [processPersonalEntries]
    split
    · exact .done h
    · exact (processPersonalEntry_within floats env options looters depth hscope hitem hitem'
        h).bind fun filled hfilled => ih hrest hrest' hfilled

theorem processPersonalGroups_within
    (hgroups : ∀ group ∈ groups, ∀ item ∈ group.items, P ⟨call.storeKind, call.entry, item⟩)
    (h : AskedWithin P state.environment.2) :
    FillsWithin C P
      (processPersonalGroups floats env.recording options looters call groups state) := by
  induction groups generalizing state with
  | nil => exact .done h
  | cons group groups ih =>
    obtain ⟨hgroup, hrest⟩ := List.forall_mem_cons.mp hgroups
    rw [processPersonalGroups]
    split
    · exact .done h
    refine Meets.bind ?_ fun filled hfilled => ih hrest hfilled
    rw [processPersonalGroup]
    split
    · exact .stuck
    case h_2 candidates s hcandidates =>
      have hs : AskedWithin P s.2 := by
        refine filterLooters_within (fun looter s answer hs hanswer => ?_) h hcandidates
        cases hanswer
        exact anyAllowed_within env looter hgroup hs
      split
      · exact .done hs
      dsimp only
      split
      · exact .stuck
      · exact .done (processPersonalRoot_within floats env options group call _ hs)

theorem processPersonal_within (hscope : FillScope stores C P) (hcall : C call)
    (hgroup : call.groupId = 0) (h : AskedWithin P state.environment.2) :
    FillsWithin C P (processPersonal floats env.recording options stores looters depth call state) :=
  (processPersonalEntries_within floats env options looters depth hscope
    (hscope.entries call hcall hgroup) (hscope.references call hcall hgroup) h).bind
      fun _ hstate => processPersonalGroups_within floats env options looters
        (hscope.groups call hcall hgroup) hstate

end Filling

/-! ## Both fills -/

/-- The ids that are collected for a loot id, if its references end, cover every row that a
shared or a personal fill of it asks about, for every generator and all callbacks. -/
theorem condition_preload_covers_fills (floats : LootFloats φ) (stores : LootStores φ)
    {store : LootStore φ} {lootId : BitVec 32} {template : LootTemplate φ}
    (htemplate : store.getLootFor lootId = some template)
    (hacyclic : ¬ EndlessReferences stores template) (storeKind : LootStoreKind) :
    ∃ idDepth ids, store.conditionIdsForFill lootId storeKind stores idDepth = some ids ∧
      (∀ (σ : Type) (env : LootFillEnvironment φ σ) (options : LootFillOptions φ) (s : σ) depth
          state, recurse (processTemplate floats env.recording options stores) depth
            (⟨template, storeKind, lootId, 0⟩, ⟨(s, []), []⟩) = some state →
        ∀ context answer, .allowed context answer ∈ state.environment.2 →
          context.conditionId ∈ ids) ∧
      ∀ (σ : Type) (env : PersonalFillEnvironment φ σ) (options : LootFillOptions φ)
          (looters : List ObjectGuid) (s : σ) depth state,
        (processPersonal floats env.recording options stores looters depth
            ⟨template, storeKind, lootId, 0⟩ ⟨(s, []), []⟩).run
          (processForPersonalLooter floats env.recording options stores depth) = some state →
        ∀ context answer, .allowed context answer ∈ state.environment.2 →
          context.conditionId ∈ ids := by
  have hterminates : Terminates (appendConditionIdsForFill stores) ⟨template, storeKind, lootId, 0⟩ :=
    terminates_of_within (within_appendConditionIdsForFill stores)
      (acc_start (fun call : TemplateCall φ => (call.template, call.groupId))
        (acc_follows (acc_refersTo_iff.mpr hacyclic) 0))
  obtain ⟨collected, idDepth, hcollected⟩ := terminates_iff.mp hterminates
  obtain ⟨ids, hids, hsub⟩ : ∃ ids, store.conditionIdsForFill lootId storeKind stores idDepth =
      some ids ∧ collected ⊆ ids := by
    refine ⟨(collected.mergeSort LootConditionId.le).destutter (· ≠ ·), ?_,
      fun _ hmem => mem_destutter_ne (List.mem_mergeSort.mpr hmem)⟩
    rw [LootStore.conditionIdsForFill, htemplate]
    exact congrArg (Option.map _) hcollected
  have hroot : Collected stores ids ⟨template, storeKind, lootId, 0⟩ :=
    ⟨collected, ⟨idDepth, hcollected⟩, hsub⟩
  have hscope : FillScope stores _ _ := fillScope_collected ids
  refine ⟨idDepth, ids, hids, fun σ env options s depth state hstate => ?_,
    fun σ env options looters s depth state hstate => ?_⟩
  · obtain ⟨events, chunks, hadds⟩ :=
      recurse_meets (processTemplate_meets floats env hscope) hroot hstate
    have hlog : state.environment.2 = events := hadds.log
    exact hlog ▸ hadds.within
  · let start : PersonalFillState φ (σ × List (FillEvent φ)) := ⟨(s, []), []⟩
    have hstart : AskedWithin (Preloaded ids) start.environment.2 :=
      fun _ _ hmem => (List.not_mem_nil hmem).elim
    have hfills := processPersonal_within floats env options looters depth hscope hroot rfl hstart
    exact hfills.run (processForPersonalLooter_within floats env options depth hscope) hstate

/-- Both fills of two rounds over ten items ask about collected rows only. -/
theorem condition_preload_covers_two_rounds :
    ∃ idDepth ids, (roundsStore 2).conditionIdsForFill 1 .creature tenItemStores idDepth =
        some ids ∧
      (∀ (σ : Type) (env : LootFillEnvironment ℤ σ) (options : LootFillOptions ℤ) (s : σ) depth
          state, recurse (processTemplate wholeChances env.recording options tenItemStores) depth
            (⟨⟨[(tenItemsRow 2).item], []⟩, .creature, 1, 0⟩, ⟨(s, []), []⟩) = some state →
        ∀ context answer, .allowed context answer ∈ state.environment.2 →
          context.conditionId ∈ ids) ∧
      ∀ (σ : Type) (env : PersonalFillEnvironment ℤ σ) (options : LootFillOptions ℤ)
          (looters : List ObjectGuid) (s : σ) depth state,
        (processPersonal wholeChances env.recording options tenItemStores looters depth
            ⟨⟨[(tenItemsRow 2).item], []⟩, .creature, 1, 0⟩ ⟨(s, []), []⟩).run
          (processForPersonalLooter wholeChances env.recording options tenItemStores depth) =
            some state →
        ∀ context answer, .allowed context answer ∈ state.environment.2 →
          context.conditionId ∈ ids :=
  condition_preload_covers_fills wholeChances tenItemStores rfl (not_endlessReferences_tenItems 2)
    .creature

end RustyCore.Loot
