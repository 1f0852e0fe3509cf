import RustyCore.Model.Loot.Templates

/-! # When the walks over loot templates end

The walks follow the reference rows of a template that name no group. They end for every
generator and all callbacks exactly if these rows do not lead on for ever. -/

namespace RustyCore.Loot

open CallTree

variable {φ σ : Type} {floats : LootFloats φ} {stores : LootStores φ}
variable {template : LootTemplate φ} {items : List (LootStoreItem φ)}

/-! ## References -/

/-- A plain entry of the template refers to the whole of another one. -/
def RefersTo (stores : LootStores φ) (target template : LootTemplate φ) : Prop :=
  ∃ item ∈ template.entries, item.reference ≠ 0 ∧ item.groupId = 0 ∧
    stores.referenceTemplate item.reference = some target

/-- The references lead on for ever. -/
def EndlessReferences (stores : LootStores φ) (template : LootTemplate φ) : Prop :=
  ∃ chain : ℕ → LootTemplate φ, chain 0 = template ∧
    ∀ n, RefersTo stores (chain (n + 1)) (chain n)

theorem acc_refersTo_iff :
    Acc (RefersTo stores) template ↔ ¬ EndlessReferences stores template := by
  rw [EndlessReferences, ← not_acc_iff_exists_descending_chain, not_not]

theorem not_endlessReferences (h : ∀ item ∈ template.entries, item.reference = 0) :
    ¬ EndlessReferences stores template := by
  rintro ⟨chain, rfl, hnext⟩
  obtain ⟨item, hmem, hreference, -⟩ := hnext 0
  exact hreference (h item hmem)

theorem not_endlessReferences_of_targets
    (h : ∀ item ∈ template.entries, ∀ target, stores.referenceTemplate item.reference = some target →
      ∀ item' ∈ target.entries, item'.reference = 0) :
    ¬ EndlessReferences stores template := by
  rintro ⟨chain, rfl, hnext⟩
  obtain ⟨item, hmem, -, -, htarget⟩ := hnext 0
  obtain ⟨item', hmem', hreference, -⟩ := hnext 1
  exact hreference (h item hmem _ htarget item' hmem')

/-- A walk over a template, with a group id, calls one over the template of a reference row. -/
def Follows (stores : LootStores φ) (target start : LootTemplate φ × BitVec 8) : Prop :=
  start.2 = 0 ∧ ∃ item ∈ start.1.entries, item.reference ≠ 0 ∧ item.groupId = target.2 ∧
    stores.referenceTemplate item.reference = some target.1

/-- Walks over groups call no others, so only references to whole templates matter. -/
theorem acc_follows (h : Acc (RefersTo stores) template) (groupId : BitVec 8) :
    Acc (Follows stores) (template, groupId) := by
  induction h generalizing groupId with
  | intro template _ ih =>
    refine ⟨_, fun ⟨target, targetGroup⟩ ⟨_, item, hmem, hreference, hgroup, htarget⟩ => ?_⟩
    by_cases hwhole : targetGroup = 0
    · exact ih target ⟨item, hmem, hreference, hgroup.trans hwhole, htarget⟩ targetGroup
    · exact ⟨_, fun _ hfollows => absurd hfollows.1 hwhole⟩

/-- The calls of a walk whose start is the template and group `f q`. -/
theorem acc_start {Q : Type} (f : Q → LootTemplate φ × BitVec 8) {q : Q}
    (h : Acc (Follows stores) (f q)) : Acc (fun q' q => Follows stores (f q') (f q)) q :=
  InvImage.accessible f h

/-! ## The walks call what they follow -/

variable (stores) in
theorem within_entryConditionIds (call : TemplateCall φ) (hgroup : call.groupId = 0)
    (hitems : items ⊆ call.template.entries) :
    Within (fun call' : TemplateCall φ => Follows stores (call'.template, call'.groupId)
        (call.template, call.groupId)) (entryConditionIds stores call items) := by
  induction items with
  | nil => exact .done
  | cons item items ih =>
    obtain ⟨hmem, hrest⟩ := List.cons_subset.mp hitems
    rw [entryConditionIds]
    split
    · exact (ih hrest).bind fun _ => .done
    case isFalse hreference =>
      cases htemplate : stores.referenceTemplate item.reference with
      | none => exact ih hrest
      | some template =>
        exact (Within.ask ⟨hgroup, item, hmem, hreference, rfl, htemplate⟩).bind fun _ =>
          (ih hrest).bind fun _ => .done

variable (stores) in
theorem within_appendConditionIdsForFill (call : TemplateCall φ) :
    Within (fun call' : TemplateCall φ => Follows stores (call'.template, call'.groupId)
        (call.template, call.groupId)) (appendConditionIdsForFill stores call) := by
  rw [appendConditionIdsForFill]
  split
  · exact .done
  case isFalse hgroup =>
    exact (within_entryConditionIds stores call (not_not.mp hgroup) (List.Subset.refl _)).bind
      fun _ => .done

variable (stores) in
theorem within_entriesHaveQuestDrop (call : LootTemplate φ × BitVec 8) (hgroup : call.2 = 0)
    (hitems : items ⊆ call.1.entries) :
    Within (fun call' => Follows stores call' call) (entriesHaveQuestDrop stores items) := by
  induction items with
  | nil => exact .done
  | cons item items ih =>
    obtain ⟨hmem, hrest⟩ := List.cons_subset.mp hitems
    rw [entriesHaveQuestDrop]
    split
    · split
      · exact .done
      · exact ih hrest
    case isFalse hreference =>
      cases htemplate : stores.referenceTemplate item.reference with
      | none => exact ih hrest
      | some template =>
        refine (Within.ask ⟨hgroup, item, hmem, hreference, rfl, htemplate⟩).bind fun found => ?_
        split
        · exact .done
        · exact ih hrest

variable (stores) in
theorem within_hasQuestDrop (playerHasQuestForItem : BitVec 32 → Bool)
    (call : LootTemplate φ × BitVec 8) :
    Within (fun call' => Follows stores call' call)
      (hasQuestDrop stores playerHasQuestForItem call) := by
  rw [hasQuestDrop]
  split
  · exact .done
  case isFalse hgroup =>
    refine (within_entriesHaveQuestDrop stores call (not_not.mp hgroup)
      (List.Subset.refl _)).bind fun found => ?_
    split
    · exact .done
    · exact .done

section Fill

variable (floats) (env : LootFillEnvironment φ σ) (options : LootFillOptions φ) (stores)

theorem within_processReference {allowed : TemplateCall φ × LootFillState φ σ → Prop}
    (call : TemplateCall φ) (hcall : ∀ state, allowed (call, state)) (rounds : ℕ)
    (state : LootFillState φ σ) : Within allowed (processReference call rounds state) := by
  induction rounds generalizing state with
  | zero => exact .done
  | succ rounds ih =>
    refine (Within.ask (hcall state)).bind fun filled => ?_
    split
    · exact .done
    · exact ih filled

theorem within_processEntry (call : TemplateCall φ) (hgroup : call.groupId = 0)
    {item : LootStoreItem φ} (hmem : item ∈ call.template.entries)
    (state : LootFillState φ σ) :
    Within (fun start => Follows stores (start.1.template, start.1.groupId)
        (call.template, call.groupId)) (processEntry floats env options stores call item state) := by
  rw [processEntry]
  split
  · exact .done
  generalize (if options.ratesAllowed = true then env.itemChanceRate item state.environment
    else (floats.one, state.environment)) = rate
  dsimp only
  split
  · exact .done
  split
  · split <;> exact .done
  case isFalse hreference =>
    cases htemplate : stores.referenceTemplate item.reference with
    | none => exact .done
    | some template =>
      exact within_processReference _ (fun _ => ⟨hgroup, item, hmem, hreference, rfl, htemplate⟩)
        _ _

theorem within_processEntries (call : TemplateCall φ) (hgroup : call.groupId = 0)
    (hitems : items ⊆ call.template.entries) (state : LootFillState φ σ) :
    Within (fun start => Follows stores (start.1.template, start.1.groupId)
        (call.template, call.groupId))
      (processEntries floats env options stores call items state) := by
  induction items generalizing state with
  | nil => exact .done
  | cons item items ih =>
    obtain ⟨hmem, hrest⟩ := List.cons_subset.mp hitems
    rw [processEntries]
    split
    · exact .done
    · exact (within_processEntry floats stores env options call hgroup hmem state).bind
        fun filled => ih hrest filled

theorem within_processTemplate (start : TemplateCall φ × LootFillState φ σ) :
    Within (fun start' => Follows stores (start'.1.template, start'.1.groupId)
        (start.1.template, start.1.groupId))
      (processTemplate floats env options stores start) := by
  rw [processTemplate]
  split
  · exact .done
  split
  · split <;> exact .done
  case isFalse hgroup =>
    exact (within_processEntries floats stores env options start.1 (not_not.mp hgroup)
      (List.Subset.refl _) start.2).bind fun _ => .done

end Fill

/-! ## The walks end -/

/-- Collecting the conditions calls the walk over every template a plain entry refers to. -/
theorem must_entryConditionIds (call : TemplateCall φ) {item : LootStoreItem φ}
    (hreference : item.reference ≠ 0)
    (htemplate : stores.referenceTemplate item.reference = some template) (hmem : item ∈ items) :
    Must (item.referenceCall template) (entryConditionIds stores call items) := by
  induction items with
  | nil => cases hmem
  | cons item' items ih =>
    rw [entryConditionIds]
    rcases List.mem_cons.mp hmem with rfl | hmem
    · rw [if_neg hreference, htemplate]
      exact .here
    · split
      · exact (ih hmem).bind_left
      · cases stores.referenceTemplate item'.reference with
        | none => exact ih hmem
        | some template' => exact .bind_right _ fun _ => (ih hmem).bind_left

/-- The templates of two calls, the first of them a whole template. -/
def CallRefersTo (stores : LootStores φ) (target call : TemplateCall φ) : Prop :=
  call.groupId = 0 ∧ ∃ item ∈ call.template.entries, item.reference ≠ 0 ∧
    ∃ template, stores.referenceTemplate item.reference = some template ∧
      target = item.referenceCall template

theorem must_appendConditionIdsForFill (call target : TemplateCall φ)
    (h : CallRefersTo stores target call) :
    Must target (appendConditionIdsForFill stores call) := by
  obtain ⟨hgroup, item, hmem, hreference, template, htemplate, rfl⟩ := h
  rw [appendConditionIdsForFill, if_neg (not_not.mpr hgroup)]
  exact (must_entryConditionIds call hreference htemplate hmem).bind_left

theorem acc_refersTo_of_acc {call : TemplateCall φ} (h : Acc (CallRefersTo stores) call)
    (hgroup : call.groupId = 0) : Acc (RefersTo stores) call.template := by
  induction h with
  | intro call _ ih =>
    refine ⟨_, fun target ⟨item, hmem, hreference, hwhole, htarget⟩ => ?_⟩
    exact ih (item.referenceCall target)
      ⟨hgroup, item, hmem, hreference, target, htarget, rfl⟩ hwhole

/-- Collecting the conditions ends only if the references do. -/
theorem acc_refersTo_of_terminates {call : TemplateCall φ} (hgroup : call.groupId = 0)
    (h : Terminates (appendConditionIdsForFill stores) call) :
    Acc (RefersTo stores) call.template :=
  acc_refersTo_of_acc (acc_of_must must_appendConditionIdsForFill h) hgroup

/-- All walks from the template of a loot id end, the fills for every generator and all
callbacks, exactly if its references do not lead on for ever. -/
theorem loot_walks_terminate (floats : LootFloats φ) (stores : LootStores φ)
    (store : LootStore φ) (storeKind : LootStoreKind) (lootId : BitVec 32) :
    ((∃ depth, (store.conditionIdsForFill lootId storeKind stores depth).isSome) ∧
        (∃ depth, (store.haveQuestLootFor lootId stores depth).isSome) ∧
        ∀ (σ : Type) (env : LootFillEnvironment φ σ) (options : LootFillOptions φ) (s : σ),
          ∃ depth, (store.fillLootWithContext floats lootId storeKind stores options env s
            depth).isSome) ↔
      ∀ template, store.getLootFor lootId = some template →
        ¬ EndlessReferences stores template := by
  simp only [LootStore.conditionIdsForFill, LootStore.haveQuestLootFor,
    LootStore.fillLootWithContext]
  cases store.getLootFor lootId with
  | none => simp
  | some template =>
    simp only [Option.isSome_map, Option.some.injEq, forall_eq', ← acc_refersTo_iff]
    constructor
    · rintro ⟨hids, -, -⟩
      exact acc_refersTo_of_terminates rfl hids
    · intro hacc
      have hfollows := acc_follows hacc 0
      refine ⟨?_, ?_, fun σ env options s => ?_⟩
      · exact terminates_of_within (within_appendConditionIdsForFill stores)
          (acc_start (fun call : TemplateCall φ => (call.template, call.groupId)) hfollows)
      · exact terminates_of_within (within_hasQuestDrop stores _) hfollows
      · exact terminates_of_within (within_processTemplate floats stores env options)
          (acc_start (fun start : TemplateCall φ × LootFillState φ σ =>
            (start.1.template, start.1.groupId)) hfollows)

/-- Whole numbers for the chances of the rows below. -/
def wholeChances : LootFloats ℤ where
  zero := 0
  one := 1
  hundred := 100
  minNonZeroLootChance := 1
  mul := (· * ·)
  sub := (· - ·)
  eq := (· == ·)
  lt x y := x < y
  le x y := x ≤ y
  ofU8 n := n.toNat
  toU32 x := BitVec.ofInt 32 x

def selfReferenceRow : LootTemplateRow ℤ := ⟨1, ⟨0, 1, 100, false, 1, 0, 1, 1⟩⟩

def selfReferenceStore : LootStore ℤ :=
  ((LootStore.forKind .reference).loadRows wholeChances [selfReferenceRow] fun _ => true).1

/-- The walk over a template that refers to itself never ends. -/
theorem self_reference_walk_never_ends :
    ¬ ∃ depth, (selfReferenceStore.conditionIdsForFill 1 .reference
      (AList.singleton .reference selfReferenceStore) depth).isSome := by
  have htemplate : selfReferenceStore.getLootFor 1 = some ⟨[selfReferenceRow.item], []⟩ := rfl
  have hself : RefersTo (AList.singleton .reference selfReferenceStore)
      ⟨[selfReferenceRow.item], []⟩ ⟨[selfReferenceRow.item], []⟩ :=
    ⟨selfReferenceRow.item, List.mem_singleton.mpr rfl, by decide, rfl, htemplate⟩
  simp only [LootStore.conditionIdsForFill, htemplate, Option.isSome_map]
  intro hends
  have hacc := acc_refersTo_of_terminates rfl hends
  exact acc_refersTo_iff.mp hacc ⟨fun _ => _, rfl, fun _ => hself⟩

end RustyCore.Loot
