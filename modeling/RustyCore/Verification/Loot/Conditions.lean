import RustyCore.Model.Loot.Rolls

/-! # What a loot condition list means

A list allows a player if it is empty, or if all rows of one of its groups are satisfied. -/

namespace RustyCore.Loot

variable (references : LootConditionReferences) (evaluate : LootConditionRow → Option Bool)
variable {conditions : List LootConditionRow}

mutual

/-- The meaning of a list: one of the groups that it has is satisfied as a whole. -/
inductive Allows : List LootConditionRow → Prop where
  | empty : Allows []
  | group {conditions : List LootConditionRow} {condition : LootConditionRow} :
      condition ∈ conditions →
      (∀ row ∈ conditions, row.elseGroup = condition.elseGroup → Satisfied row) →
      Allows conditions

/-- The meaning of a row. A row that refers to a list asks nothing if there is no such list; a row
that the evaluation cannot decide is not satisfied. -/
inductive Satisfied : LootConditionRow → Prop where
  | missing {row : LootConditionRow} : row.conditionTypeOrReference < 0 →
      references.lookup row.conditionTypeOrReference.natAbs = none → Satisfied row
  | reference {row : LootConditionRow} {conditions : List LootConditionRow} :
      row.conditionTypeOrReference < 0 →
      references.lookup row.conditionTypeOrReference.natAbs = some conditions →
      Allows conditions → Satisfied row
  | condition {row : LootConditionRow} : 0 ≤ row.conditionTypeOrReference →
      row.conditionTarget = 0 → row.stringValue1 = "" → row.scriptName = "" →
      evaluate row = some (!row.negative) → Satisfied row

end

def RefersToConditions (target conditions : List LootConditionRow) : Prop :=
  ∃ row ∈ conditions, row.conditionTypeOrReference < 0 ∧
    references.lookup row.conditionTypeOrReference.natAbs = some target

/-- The chains of references from the list are shorter than `length`. -/
def ChainsShorter : ℕ → List LootConditionRow → Prop
  | 0, _ => False
  | length + 1, conditions =>
    ∀ target, RefersToConditions references target conditions → ChainsShorter length target

variable {references evaluate} {inner : List LootConditionRow → Bool}

/-! ## Groups -/

theorem lookup_elseGroupStore (conditions : List LootConditionRow) (store : Dict ℕ Bool)
    (group : ℕ) :
    (elseGroupStore references evaluate inner conditions store).lookup group =
      if conditions.any (fun row => row.elseGroup = group) then
        some ((store.lookup group).getD true && conditions.all fun row =>
          row.elseGroup ≠ group || nextGroupMeets references evaluate inner row)
      else store.lookup group := by
  induction conditions generalizing store with
  | nil => simp [elseGroupStore]
  | cons condition conditions ih =>
    rw [elseGroupStore, ih, Dict.lookup_insert_eq]
    by_cases hgroup : condition.elseGroup = group
    · subst hgroup
      cases hflag : (store.lookup condition.elseGroup).getD true with
      | true =>
        cases hany : conditions.any fun row => row.elseGroup = condition.elseGroup with
        | true => simp [hany]
        | false =>
          have hnone := List.any_eq_false.mp hany
          simp only [hany, List.any_cons, List.all_cons]
          simp
          exact fun _ row hrow => .inl fun heq => hnone row hrow (decide_eq_true heq)
      | false =>
        cases hany : conditions.any fun row => row.elseGroup = condition.elseGroup with
        | true => simp [hany]
        | false => simp [hany]
    · have hne : group ≠ condition.elseGroup := fun h => hgroup h.symm
      simp [hgroup, hne]

/-- Some group of the list has only rows that meet what they ask. -/
theorem anyGroup_iff (conditions : List LootConditionRow) :
    (elseGroupStore references evaluate inner conditions ∅).anyEntry (fun _ groupMeets => groupMeets)
        = true ↔
      ∃ condition ∈ conditions, ∀ row ∈ conditions, row.elseGroup = condition.elseGroup →
        nextGroupMeets references evaluate inner row = true := by
  simp only [Dict.anyEntry_iff, lookup_elseGroupStore, AList.lookup_empty]
  constructor
  · rintro ⟨group, groupMeets, hlookup, hmeets⟩
    split at hlookup
    case isTrue hany =>
      obtain ⟨condition, hmem, hgroup⟩ := List.any_eq_true.mp hany
      obtain rfl : condition.elseGroup = group := of_decide_eq_true hgroup
      obtain rfl := Option.some.inj hlookup
      refine ⟨condition, hmem, fun row hrow heq => ?_⟩
      simpa [heq] using List.all_eq_true.mp hmeets row hrow
    case isFalse => cases hlookup
  · rintro ⟨condition, hmem, hall⟩
    refine ⟨condition.elseGroup, true, ?_, rfl⟩
    rw [if_pos (List.any_eq_true.mpr ⟨condition, hmem, decide_eq_true rfl⟩)]
    refine congrArg some (List.all_eq_true.mpr fun row hrow => ?_)
    by_cases heq : row.elseGroup = condition.elseGroup
    · simp [hall row hrow heq]
    · simp [heq]

/-! ## Lists -/

theorem nextGroupMeets_iff {row : LootConditionRow}
    (hinner : ∀ target, references.lookup row.conditionTypeOrReference.natAbs = some target →
      row.conditionTypeOrReference < 0 → (inner target = true ↔ Allows references evaluate target)) :
    nextGroupMeets references evaluate inner row = true ↔ Satisfied references evaluate row := by
  rw [nextGroupMeets]
  split
  case isTrue hreference =>
    cases hlookup : references.lookup row.conditionTypeOrReference.natAbs with
    | none => exact iff_of_true rfl (.missing hreference hlookup)
    | some target =>
      dsimp only
      rw [hinner target hlookup hreference]
      constructor
      · exact .reference hreference hlookup
      · intro h
        cases h with
        | missing _ hnone => exact absurd (hlookup.symm.trans hnone) (by simp)
        | reference _ hsome hallows => exact Option.some.inj (hlookup.symm.trans hsome) ▸ hallows
        | condition hle => exact absurd hreference (not_lt.mpr hle)
  case isFalse hplain =>
    have hcases : Satisfied references evaluate row ↔ row.conditionTarget = 0 ∧
        row.stringValue1 = "" ∧ row.scriptName = "" ∧ evaluate row = some (!row.negative) := by
      constructor
      · intro h
        cases h with
        | missing hneg => exact absurd hneg hplain
        | reference hneg => exact absurd hneg hplain
        | condition _ htarget hstring hscript heval => exact ⟨htarget, hstring, hscript, heval⟩
      · rintro ⟨htarget, hstring, hscript, heval⟩
        exact .condition (not_lt.mp hplain) htarget hstring hscript heval
    rw [hcases]
    split
    case isTrue hcannot =>
      refine iff_of_false (by simp) ?_
      rintro ⟨htarget, hstring, hscript, -⟩
      simp [htarget, hstring, hscript] at hcannot
    case isFalse hcan =>
      simp only [not_or, not_not] at hcan
      obtain ⟨htarget, hstring, hscript⟩ := hcan
      cases heval : evaluate row with
      | none => simp
      | some meets => cases hnegative : row.negative <;> simp [htarget, hstring, hscript]

/-- As deep as the references go, the evaluation finds out whether the list allows the player. -/
theorem lootConditionsAllowPlayerInner_iff {remaining : ℕ}
    (hchains : ChainsShorter references remaining conditions) :
    lootConditionsAllowPlayerInner references evaluate remaining conditions = true ↔
      Allows references evaluate conditions := by
  induction remaining generalizing conditions with
  | zero => exact hchains.elim
  | succ remaining ih =>
    rw [lootConditionsAllowPlayerInner, Bool.or_eq_true, anyGroup_iff, List.isEmpty_iff]
    have hmeets : ∀ row ∈ conditions, nextGroupMeets references evaluate
        (lootConditionsAllowPlayerInner references evaluate remaining) row = true ↔
          Satisfied references evaluate row := fun row hrow =>
      nextGroupMeets_iff fun target htarget hreference =>
        ih (hchains target ⟨row, hrow, hreference, htarget⟩)
    constructor
    · rintro (rfl | ⟨condition, hmem, hall⟩)
      · exact .empty
      · exact .group hmem fun row hrow heq => (hmeets row hrow).mp (hall row hrow heq)
    · intro h
      cases h with
      | empty => exact .inl rfl
      | group hmem hall =>
        exact .inr ⟨_, hmem, fun row hrow heq => (hmeets row hrow).mpr (hall row hrow heq)⟩

theorem ChainsShorter.mono {length : ℕ} (h : ChainsShorter references length conditions) :
    ChainsShorter references (length + 1) conditions := by
  induction length generalizing conditions with
  | zero => exact h.elim
  | succ length ih => exact fun target htarget => ih (h target htarget)

theorem chainsShorter_of_plain (h : ∀ row ∈ conditions, 0 ≤ row.conditionTypeOrReference)
    (length : ℕ) : ChainsShorter references (length + 1) conditions := by
  rintro target ⟨row, hmem, hreference, -⟩
  exact absurd hreference (not_lt.mpr (h row hmem))

/-! ## Order -/

/-- Two maps with the same lists, up to the order of the rows. -/
def SameRows (references references' : LootConditionReferences) : Prop :=
  ∀ id, Option.Rel List.Perm (references.lookup id) (references'.lookup id)

theorem nextGroupMeets_congr {references' : LootConditionReferences}
    {inner' : List LootConditionRow → Bool} (hrows : SameRows references references')
    (hinner : ∀ conditions conditions', conditions.Perm conditions' →
      inner conditions = inner' conditions') (row : LootConditionRow) :
    nextGroupMeets references evaluate inner row =
      nextGroupMeets references' evaluate inner' row := by
  rw [nextGroupMeets, nextGroupMeets]
  split
  · have hrow := hrows row.conditionTypeOrReference.natAbs
    revert hrow
    generalize references.lookup row.conditionTypeOrReference.natAbs = target
    generalize references'.lookup row.conditionTypeOrReference.natAbs = target'
    rintro (hperm | -)
    · exact hinner _ _ hperm
    · rfl
  · rfl

theorem lootConditionsAllowPlayerInner_perm {references' : LootConditionReferences}
    (hrows : SameRows references references') (remaining : ℕ)
    {conditions' : List LootConditionRow} (hperm : conditions.Perm conditions') :
    lootConditionsAllowPlayerInner references evaluate remaining conditions =
      lootConditionsAllowPlayerInner references' evaluate remaining conditions' := by
  induction remaining generalizing conditions conditions' with
  | zero =>
    rw [lootConditionsAllowPlayerInner, lootConditionsAllowPlayerInner, Bool.eq_iff_iff,
      List.isEmpty_iff, List.isEmpty_iff]
    exact ⟨fun h => (h ▸ hperm).symm.eq_nil, fun h => (h ▸ hperm).eq_nil⟩
  | succ remaining ih =>
    have hnext : ∀ row, nextGroupMeets references evaluate _ row =
        nextGroupMeets references' evaluate _ row :=
      nextGroupMeets_congr hrows fun _ _ => ih
    rw [lootConditionsAllowPlayerInner, lootConditionsAllowPlayerInner, Bool.eq_iff_iff,
      Bool.or_eq_true, Bool.or_eq_true, anyGroup_iff, anyGroup_iff, List.isEmpty_iff,
      List.isEmpty_iff]
    refine or_congr ⟨fun h => (h ▸ hperm).symm.eq_nil, fun h => (h ▸ hperm).eq_nil⟩ ?_
    simp only [hperm.mem_iff, hnext]

/-- A list that is not empty allows a player exactly if one of its groups is satisfied row by row,
whatever the order of the rows, there and in the lists that they refer to. -/
theorem loot_conditions_else_groups (references : LootConditionReferences)
    (evaluate : LootConditionRow → Option Bool) {conditions : List LootConditionRow}
    (hne : conditions ≠ []) (hchains : ChainsShorter references 16 conditions) :
    (lootConditionsAllowPlayerWithReferences references evaluate conditions = true ↔
        ∃ group, (∃ row ∈ conditions, row.elseGroup = group) ∧
          ∀ row ∈ conditions, row.elseGroup = group → Satisfied references evaluate row) ∧
      (∀ target, RefersToConditions references target conditions →
        (Allows references evaluate target ↔
          lootConditionsAllowPlayerWithReferences references evaluate target = true)) ∧
      ∀ references' conditions', SameRows references references' → conditions.Perm conditions' →
        lootConditionsAllowPlayerWithReferences references' evaluate conditions' =
          lootConditionsAllowPlayerWithReferences references evaluate conditions := by
  refine ⟨?_, fun target htarget => ?_, fun references' conditions' hrows hperm => ?_⟩
  · rw [lootConditionsAllowPlayerWithReferences, lootConditionsAllowPlayerInner_iff hchains]
    constructor
    · intro h
      cases h with
      | empty => exact absurd rfl hne
      | group hmem hall => exact ⟨_, ⟨_, hmem, rfl⟩, hall⟩
    · rintro ⟨_, ⟨condition, hmem, rfl⟩, hall⟩
      exact .group hmem hall
  · have hshorter : ChainsShorter references 16 target := ChainsShorter.mono (hchains target htarget)
    exact (lootConditionsAllowPlayerInner_iff hshorter).symm
  · exact (lootConditionsAllowPlayerInner_perm hrows 16 hperm).symm

/-- A row that must not hold. -/
def negativeRow : LootConditionRow := ⟨1, 8, 0, 24, 0, 0, "", true, ""⟩

/-- A row of its own group that refers to list 5. -/
def referenceRow : LootConditionRow := ⟨0, -5, 0, 0, 0, 0, "", false, ""⟩

def oneReference : LootConditionReferences := AList.singleton 5 [negativeRow]

theorem loot_conditions_else_groups_reference :
    (lootConditionsAllowPlayerWithReferences oneReference (fun _ => some false)
          [referenceRow, negativeRow] = true ↔
        ∃ group, (∃ row ∈ [referenceRow, negativeRow], row.elseGroup = group) ∧
          ∀ row ∈ [referenceRow, negativeRow], row.elseGroup = group →
            Satisfied oneReference (fun _ => some false) row) ∧
      (∀ target, RefersToConditions oneReference target [referenceRow, negativeRow] →
        (Allows oneReference (fun _ => some false) target ↔
          lootConditionsAllowPlayerWithReferences oneReference (fun _ => some false) target =
            true)) ∧
      (∀ references' conditions', SameRows oneReference references' →
        [referenceRow, negativeRow].Perm conditions' →
        lootConditionsAllowPlayerWithReferences references' (fun _ => some false) conditions' =
          lootConditionsAllowPlayerWithReferences oneReference (fun _ => some false)
            [referenceRow, negativeRow]) ∧
      lootConditionsAllowPlayerWithReferences oneReference (fun _ => some false)
        [referenceRow, negativeRow] = true := by
  have hchains : ChainsShorter oneReference 16 [referenceRow, negativeRow] := by
    rintro target ⟨row, -, -, htarget⟩
    rw [oneReference, Dict.lookup_singleton_eq] at htarget
    split at htarget
    · obtain rfl := Option.some.inj htarget
      exact chainsShorter_of_plain (by decide) 14
    · cases htarget
  have h := loot_conditions_else_groups oneReference (fun _ => some false) (by simp) hchains
  exact ⟨h.1, h.2.1, h.2.2, by decide⟩

end RustyCore.Loot
