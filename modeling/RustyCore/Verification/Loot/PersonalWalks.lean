import RustyCore.Model.Loot.PersonalLoot
import RustyCore.Verification.Loot.TemplateWalks

/-! # When personal fills end

The rounds of a personal fill, and the search for who may have something, follow the same
reference rows as the other walks. -/

namespace RustyCore.Loot

open CallTree

variable {φ σ : Type} (floats : LootFloats φ) (env : PersonalFillEnvironment φ σ)
  (options : LootFillOptions φ) (stores : LootStores φ)
variable {items : List (LootStoreItem φ)} {template : LootTemplate φ}

/-! ## Searching for drops -/

theorem within_entriesHaveDrop (looter : ObjectGuid) (call : TemplateCall φ)
    (hgroup : call.groupId = 0) (hitems : items ⊆ call.template.entries) (s : σ) :
    Within (fun start : TemplateCall φ × σ => Follows stores (start.1.template, start.1.groupId)
        (call.template, call.groupId)) (entriesHaveDrop env looter stores call items s) := by
  induction items generalizing s with
  | nil => exact .done
  | cons item items ih =>
    obtain ⟨hmem, hrest⟩ := List.cons_subset.mp hitems
    rw [entriesHaveDrop]
    split
    · dsimp only
      split
      · exact .done
      · exact ih hrest _
    case isFalse hreference =>
      split
      · exact ih hrest _
      case h_2 template htemplate =>
        refine (Within.ask ⟨hgroup, item, hmem, hreference, rfl, htemplate⟩).bind
          fun answer => ?_
        split
        · exact .done
        · exact ih hrest _

theorem within_hasDropForPersonalLooter (looter : ObjectGuid) (start : TemplateCall φ × σ) :
    Within (fun start' => Follows stores (start'.1.template, start'.1.groupId)
        (start.1.template, start.1.groupId))
      (hasDropForPersonalLooter env looter stores start) := by
  rw [hasDropForPersonalLooter]
  split
  · split <;> exact .done
  case isFalse hgroup =>
    refine (within_entriesHaveDrop env stores looter start.1 (not_not.mp hgroup)
      (List.Subset.refl _) start.2).bind fun answer => ?_
    split <;> exact .done

/-! ## Depth -/

/-- The walks that a walk may call. -/
def followed (start : LootTemplate φ × BitVec 8) : List (LootTemplate φ × BitVec 8) :=
  start.1.entries.filterMap fun item =>
    (stores.referenceTemplate item.reference).map fun template => (template, item.groupId)

theorem mem_followed {target start : LootTemplate φ × BitVec 8} (h : Follows stores target start) :
    target ∈ followed stores start := by
  obtain ⟨-, item, hmem, -, hgroup, htemplate⟩ := h
  exact List.mem_filterMap.mpr ⟨item, hmem, by rw [htemplate, hgroup]; rfl⟩

/-- One depth is enough for all rounds and searches of a personal fill. -/
theorem exists_personalDepth (hacyclic : ¬ EndlessReferences stores template) :
    ∃ depth, ∀ call : TemplateCall φ,
      Follows stores (call.template, call.groupId) (template, 0) →
      (∀ looter state, (recurse (processTemplate floats (env.forLooter looter) options stores)
        depth (call, state)).isSome) ∧
      ∀ looter s, (recurse (hasDropForPersonalLooter env looter stores) depth (call, s)).isSome := by
  have hacc := acc_follows (acc_refersTo_iff.mpr hacyclic) 0
  obtain ⟨fillDepth, hfill⟩ := exists_depth
    (fun looter => within_processTemplate floats stores (env.forLooter looter) options)
    (fun _ _ => mem_followed stores) hacc
  obtain ⟨dropDepth, hdrop⟩ := exists_depth
    (fun looter => within_hasDropForPersonalLooter env stores looter)
    (fun _ _ => mem_followed stores) hacc
  refine ⟨max fillDepth dropDepth, fun call hcall => ⟨fun looter state => ?_, fun looter s => ?_⟩⟩
  · exact recurse_isSome_mono (le_max_left _ _) (hfill looter (call, state) (.single hcall))
  · exact recurse_isSome_mono (le_max_right _ _) (hdrop looter (call, s) (.single hcall))

/-! ## The fill -/

/-- A generator that picks one of the candidates, if there are any. -/
def PersonalFillEnvironment.IndexInRange : Prop :=
  ∀ n s, 0 < n → (env.genIndex n s).1 < n

theorem filterLooters_isSome {allowed : ObjectGuid → σ → Option (Bool × σ)}
    (h : ∀ looter s, (allowed looter s).isSome) (looters : List ObjectGuid) (s : σ) :
    (filterLooters allowed looters s).isSome := by
  induction looters generalizing s with
  | nil => rfl
  | cons looter looters ih =>
    obtain ⟨answer, hanswer⟩ := Option.isSome_iff_exists.mp (h looter s)
    obtain ⟨rest, hrest⟩ := Option.isSome_iff_exists.mp (ih answer.2)
    simp [filterLooters, hanswer, hrest]

variable {env} in
theorem PersonalFillEnvironment.IndexInRange.picked (hindex : env.IndexInRange)
    {candidates : List ObjectGuid} (hsome : ¬ candidates.isEmpty) (s : σ) :
    candidates[(env.genIndex candidates.length s).1]? ≠ none := by
  have hpos := List.length_pos_of_ne_nil fun h => hsome (List.isEmpty_iff.mpr h)
  rw [Ne, List.getElem?_eq_none_iff, not_le]
  exact hindex candidates.length s hpos

section Rounds

variable {env} (looters : List ObjectGuid) {depth : ℕ} {call : TemplateCall φ}

def FollowsRound (call : TemplateCall φ) (round : LooterRound φ σ) : Prop :=
  Follows stores (round.call.template, round.call.groupId) (call.template, call.groupId)

variable {stores} in
theorem within_personalRounds (hindex : env.IndexInRange) (target : TemplateCall φ)
    (htarget : Follows stores (target.template, target.groupId) (call.template, call.groupId))
    (hdepth : ∀ looter s,
      (recurse (hasDropForPersonalLooter env looter stores) depth (target, s)).isSome)
    (rounds : ℕ) (gotLoot : List ObjectGuid) (state : PersonalFillState φ σ) :
    Within (FollowsRound stores call)
      (personalRounds env stores looters depth target rounds gotLoot state) := by
  induction rounds generalizing gotLoot state with
  | zero => exact .done
  | succ rounds ih =>
    have hsome := filterLooters_isSome hdepth looters state.environment
    rw [personalRounds]
    split
    case h_1 hnone =>
      rw [personalLootersForTemplate] at hnone
      rw [hnone] at hsome
      cases hsome
    case h_2 eligible s _ =>
      dsimp only
      split
      · exact .done
      case isFalse heligible =>
        split
        case h_1 hnone =>
          refine absurd hnone (hindex.picked ?_ s)
          split
          · exact heligible
          · assumption
        case h_2 looter _ => exact .call htarget fun filled => ih _ filled

theorem within_processPlainEntry (hindex : env.IndexInRange) (allowed : LooterRound φ σ → Prop)
    (item : LootStoreItem φ) (state : PersonalFillState φ σ) :
    Within allowed (processPlainEntry env options looters call item state) := by
  have hsome := filterLooters_isSome (fun looter s => rfl :
    ∀ looter s, (some (env.itemAllowed ⟨call.storeKind, call.entry, item⟩ looter s)).isSome)
    looters state.environment
  rw [processPlainEntry]
  split
  case h_1 hnone =>
    rw [hnone] at hsome
    cases hsome
  case h_2 candidates s _ =>
    split
    · exact .done
    case isFalse hcandidates =>
      dsimp only
      split
      case h_1 hnone => exact absurd hnone (hindex.picked hcandidates s)
      case h_2 => exact .done

variable {stores} in
theorem within_processPersonalEntry (hindex : env.IndexInRange) (hgroup : call.groupId = 0)
    (hdepth : ∀ target : TemplateCall φ,
      Follows stores (target.template, target.groupId) (call.template, call.groupId) →
      ∀ looter s, (recurse (hasDropForPersonalLooter env looter stores) depth (target, s)).isSome)
    {item : LootStoreItem φ} (hmem : item ∈ call.template.entries)
    (state : PersonalFillState φ σ) :
    Within (FollowsRound stores call)
      (processPersonalEntry floats env options stores looters depth call item state) := by
  rw [processPersonalEntry]
  split
  · exact .done
  generalize (if options.ratesAllowed = true then env.itemChanceRate item state.environment
    else (floats.one, state.environment)) = rate
  dsimp only
  split
  · exact .done
  split
  · exact within_processPlainEntry options looters hindex _ item _
  case isFalse hreference =>
    split
    · exact .done
    case h_2 template htemplate =>
      have hfollows : Follows stores (template, item.groupId) (call.template, call.groupId) :=
        ⟨hgroup, item, hmem, hreference, rfl, htemplate⟩
      exact within_personalRounds looters hindex (item.referenceCall template) hfollows
        (hdepth (item.referenceCall template) hfollows) _ _ _

variable {stores} in
theorem within_processPersonalEntries (hindex : env.IndexInRange) (hgroup : call.groupId = 0)
    (hdepth : ∀ target : TemplateCall φ,
      Follows stores (target.template, target.groupId) (call.template, call.groupId) →
      ∀ looter s, (recurse (hasDropForPersonalLooter env looter stores) depth (target, s)).isSome)
    (hitems : items ⊆ call.template.entries) (state : PersonalFillState φ σ) :
    Within (FollowsRound stores call)
      (processPersonalEntries floats env options stores looters depth call items state) := by
  induction items generalizing state with
  | nil => exact .done
  | cons item items ih =>
    obtain ⟨hmem, hrest⟩ := List.cons_subset.mp hitems
    rw [processPersonalEntries]
    split
    · exact .done
    · exact (within_processPersonalEntry floats options looters hindex hgroup hdepth hmem
        state).bind fun filled => ih hrest filled

theorem within_processPersonalGroup (hindex : env.IndexInRange)
    (allowed : LooterRound φ σ → Prop) (group : LootGroup φ) (state : PersonalFillState φ σ) :
    Within allowed (processPersonalGroup floats env options looters call group state) := by
  have hsome := filterLooters_isSome (fun looter s => rfl :
    ∀ looter s, (some (group.hasDropForPersonalLooter env looter call s)).isSome)
    looters state.environment
  rw [processPersonalGroup]
  split
  case h_1 hnone =>
    rw [hnone] at hsome
    cases hsome
  case h_2 candidates s _ =>
    split
    · exact .done
    case isFalse hcandidates =>
      dsimp only
      split
      case h_1 hnone => exact absurd hnone (hindex.picked hcandidates s)
      case h_2 => exact .done

theorem within_processPersonalGroups (hindex : env.IndexInRange)
    (allowed : LooterRound φ σ → Prop) (groups : List (LootGroup φ))
    (state : PersonalFillState φ σ) :
    Within allowed (processPersonalGroups floats env options looters call groups state) := by
  induction groups generalizing state with
  | nil => exact .done
  | cons group groups ih =>
    rw [processPersonalGroups]
    split
    · exact .done
    · exact (within_processPersonalGroup floats options looters hindex allowed group state).bind
        fun filled => ih filled

end Rounds

theorem fillPersonalLoot_isSome {env : PersonalFillEnvironment φ σ} (hindex : env.IndexInRange)
    {store : LootStore φ} {lootId : BitVec 32}
    (htemplate : store.getLootFor lootId = some template)
    (hacyclic : ¬ EndlessReferences stores template) (looters : List ObjectGuid)
    (storeKind : LootStoreKind) (s : σ) :
    ∃ depth, (store.fillPersonalLootWithContext floats env options stores looters depth lootId
      storeKind s).isSome := by
  obtain ⟨depth, hdepth⟩ := exists_personalDepth floats env options stores hacyclic
  refine ⟨depth, ?_⟩
  simp only [LootStore.fillPersonalLootWithContext, htemplate, Option.isSome_map]
  let call : TemplateCall φ := ⟨template, storeKind, lootId, 0⟩
  have hwithin : Within (FollowsRound stores call)
      (processPersonal floats env options stores looters depth call ⟨s, []⟩) :=
    (within_processPersonalEntries floats options looters hindex rfl
      (fun target htarget => (hdepth target htarget).2) (List.Subset.refl _) _).bind fun state =>
        within_processPersonalGroups floats options looters hindex _ _ state
  refine hwithin.isSome fun round hround => ?_
  rw [processForPersonalLooter, Option.isSome_map]
  exact (hdepth round.call hround).1 round.looter _

end RustyCore.Loot
