import RustyCore.Verification.Traits.Amounts

/-! # Granted rows

The granted rows of a config are those of a list of grants, added one after the other. -/

namespace RustyCore.Traits

/-- Ranks that a condition grants for an entry of a node. -/
structure Grant where
  nodeId : ℕ
  entryId : ℕ
  ranks : ℤ

def Grant.addTo (granted : List TraitConfigEntry) (grant : Grant) : List TraitConfigEntry :=
  TraitTreeSkillLineIndex.addGranted granted grant.nodeId grant.entryId grant.ranks

def Grant.isFor (grant : Grant) (row : TraitConfigEntry) : Bool :=
  row.traitNodeId = asI32 grant.nodeId && row.traitNodeEntryId = asI32 grant.entryId

def grantedSum (grants : List Grant) (row : TraitConfigEntry) : ℤ :=
  ((grants.filter (Grant.isFor · row)).map (max 0 ·.ranks)).sum

/-- A row of granted ranks, no more of them than were granted. -/
structure GrantedRow (grants : List Grant) (row : TraitConfigEntry) : Prop where
  grant : ∃ grant ∈ grants, grant.isFor row = true
  rank : row.rank = 0
  positive : 0 < row.grantedRanks
  bound : row.grantedRanks ≤ grantedSum grants row

theorem grantedSum_append (grants : List Grant) (grant : Grant) (row : TraitConfigEntry) :
    grantedSum (grants ++ [grant]) row =
      grantedSum grants row + if grant.isFor row then max 0 grant.ranks else 0 := by
  rw [grantedSum, List.filter_append, List.map_append, List.sum_append, grantedSum]
  cases h : grant.isFor row <;> simp [h]

theorem grantedSum_nonneg (grants : List Grant) (row : TraitConfigEntry) :
    0 ≤ grantedSum grants row := by
  refine List.sum_nonneg fun x hx => ?_
  obtain ⟨grant, -, rfl⟩ := List.mem_map.mp hx
  exact le_max_left 0 grant.ranks

theorem GrantedRow.append {grants : List Grant} {row : TraitConfigEntry}
    (h : GrantedRow grants row) (grant : Grant) : GrantedRow (grants ++ [grant]) row := by
  obtain ⟨⟨other, hmem, hfor⟩, hrank, hpositive, hbound⟩ := h
  refine ⟨⟨other, List.mem_append_left _ hmem, hfor⟩, hrank, hpositive, ?_⟩
  rw [grantedSum_append]
  split <;> omega

theorem grantedRow_of_mem {grants : List Grant} {row : TraitConfigEntry}
    (h : row ∈ grants.foldl Grant.addTo []) : GrantedRow grants row := by
  induction grants using List.reverseRecOn generalizing row with
  | nil => cases h
  | append_singleton grants grant ih =>
    rw [List.foldl_append, List.foldl_cons, List.foldl_nil, Grant.addTo,
      TraitTreeSkillLineIndex.addGranted] at h
    split at h
    case isTrue => exact (ih h).append grant
    case isFalse hranks =>
      split at h
      case isTrue =>
        rcases mem_modifyFirst h with h | ⟨other, hother, hfor, rfl⟩
        · exact (ih h).append grant
        · obtain ⟨-, hrank, hpositive, hbound⟩ := ih hother
          have hadd := satAdd_of_nonneg hpositive.le (Int.not_le.mp hranks).le
          have hsum : grantedSum (grants ++ [grant])
              { other with grantedRanks := satAdd other.grantedRanks grant.ranks } =
                grantedSum grants other + max 0 grant.ranks :=
            (grantedSum_append _ _ _).trans (congrArg _ (if_pos hfor))
          refine ⟨⟨grant, List.mem_append_right _ List.mem_cons_self, hfor⟩, hrank, ?_, ?_⟩
          · dsimp only
            omega
          · rw [hsum]
            dsimp only
            omega
      case isFalse =>
        rcases List.mem_append.mp h with h | h
        · exact (ih h).append grant
        · obtain rfl := List.mem_singleton.mp h
          have hfor : grant.isFor ⟨asI32 grant.nodeId, asI32 grant.entryId, 0, grant.ranks⟩ =
              true := by simp [Grant.isFor]
          refine ⟨⟨grant, List.mem_append_right _ List.mem_cons_self, hfor⟩, rfl,
            Int.not_le.mp hranks, ?_⟩
          rw [grantedSum_append, if_pos hfor]
          have hother := grantedSum_nonneg grants
            ⟨asI32 grant.nodeId, asI32 grant.entryId, 0, grant.ranks⟩
          dsimp only
          omega

namespace TraitTreeSkillLineIndex

section Grants

variable (index : TraitTreeSkillLineIndex)
variable {entries : List TraitConfigEntry} {treeIds : List ℕ}

/-- The grants for a node, in the order they are added. -/
def nodeGrants (kind : ConfigKind) (facts : TraitPlayerFacts) (spent : Dict ℕ ℤ) (nodeId : ℕ) :
    List Grant :=
  let grantAll := fun ranks =>
    (index.entriesForNode nodeId).map fun entryId => (⟨nodeId, entryId, ranks⟩ : Grant)
  (index.entriesForNode nodeId).flatMap (fun entryId =>
    (index.grantsOf kind facts spent (index.conditionIdsForEntry entryId)).map fun ranks =>
      ⟨nodeId, entryId, ranks⟩) ++
  (index.grantsOf kind facts spent (index.conditionIdsForNode nodeId)).flatMap grantAll ++
  (index.groupsForNode nodeId).flatMap fun groupId =>
    (index.grantsOf kind facts spent (index.conditionIdsForGroup groupId)).flatMap grantAll

/-- The grants for a config, node by node, with what the rows spend. -/
def configGrants (treeIds : List ℕ) (kind : ConfigKind) (entries : List TraitConfigEntry)
    (facts : TraitPlayerFacts) : List Grant :=
  treeIds.flatMap fun treeId =>
    (index.nodesForTree treeId).flatMap (index.nodeGrants kind facts (index.spentCurrencies entries))

variable {index} {kind : ConfigKind} {facts : TraitPlayerFacts}

theorem grantedEntriesForNode_eq (spent : Dict ℕ ℤ) (granted : List TraitConfigEntry)
    (nodeId : ℕ) : index.grantedEntriesForNode kind facts spent granted nodeId =
      (index.nodeGrants kind facts spent nodeId).foldl Grant.addTo granted := by
  simp only [nodeGrants, List.foldl_append, List.foldl_flatMap, List.foldl_map]
  rw [grantedEntriesForNode]
  rfl

theorem grantedEntriesForConfig_eq (treeIds : List ℕ) (entries : List TraitConfigEntry) :
    index.grantedEntriesForConfig treeIds kind entries facts =
      (index.configGrants treeIds kind entries facts).foldl Grant.addTo [] := by
  simp only [configGrants, List.foldl_flatMap, ← grantedEntriesForNode_eq]
  rfl

theorem mem_configGrants {grant : Grant}
    (h : grant ∈ index.configGrants treeIds kind entries facts) :
    (∃ treeId ∈ treeIds, grant.nodeId ∈ index.nodesForTree treeId) ∧
      grant.entryId ∈ index.entriesForNode grant.nodeId := by
  obtain ⟨treeId, htree, h⟩ := List.mem_flatMap.mp h
  obtain ⟨nodeId, hnode, h⟩ := List.mem_flatMap.mp h
  have hall : ∀ ranks, ∀ grant ∈ (index.entriesForNode nodeId).map fun entryId =>
      (⟨nodeId, entryId, ranks⟩ : Grant), grant.nodeId = nodeId ∧
        grant.entryId ∈ index.entriesForNode nodeId := by
    intro ranks grant hgrant
    obtain ⟨entryId, hentry, rfl⟩ := List.mem_map.mp hgrant
    exact ⟨rfl, hentry⟩
  have hgrant : grant.nodeId = nodeId ∧ grant.entryId ∈ index.entriesForNode nodeId := by
    rcases List.mem_append.mp h with h | h
    · rcases List.mem_append.mp h with h | h
      · obtain ⟨entryId, hentry, h⟩ := List.mem_flatMap.mp h
        obtain ⟨ranks, -, rfl⟩ := List.mem_map.mp h
        exact ⟨rfl, hentry⟩
      · obtain ⟨ranks, -, h⟩ := List.mem_flatMap.mp h
        exact hall ranks grant h
    · obtain ⟨groupId, -, h⟩ := List.mem_flatMap.mp h
      obtain ⟨ranks, -, h⟩ := List.mem_flatMap.mp h
      exact hall ranks grant h
  obtain ⟨rfl, hentry⟩ := hgrant
  exact ⟨⟨treeId, htree, hnode⟩, hentry⟩

/-! ## What grants depend on -/

theorem grantedEntriesForConfig_congr {entries' : List TraitConfigEntry}
    (h : ∀ condition ∈ index.conditions.rows, condition.condType = 2 →
      index.conditionMeets kind condition facts (index.spentCurrencies entries) =
        index.conditionMeets kind condition facts (index.spentCurrencies entries')) :
    index.grantedEntriesForConfig treeIds kind entries facts =
      index.grantedEntriesForConfig treeIds kind entries' facts := by
  have hgrants : index.grantsOf kind facts (index.spentCurrencies entries) =
      index.grantsOf kind facts (index.spentCurrencies entries') := by
    funext conditionIds
    refine List.filterMap_congr fun conditionId _ => ?_
    cases hfind : index.conditions.find conditionId with
    | none => rfl
    | some condition =>
      dsimp only
      by_cases htype : condition.condType = 2
      · rw [h condition (KeyedTable.mem_of_find hfind) htype]
      · rw [if_neg fun hboth => htype hboth.1, if_neg fun hboth => htype hboth.1]
  have hnodes : index.nodeGrants kind facts (index.spentCurrencies entries) =
      index.nodeGrants kind facts (index.spentCurrencies entries') := by
    funext nodeId
    rw [nodeGrants, nodeGrants, hgrants]
  rw [grantedEntriesForConfig_eq, grantedEntriesForConfig_eq, configGrants, configGrants, hnodes]

def AsksSpending (condition : TraitCondEntry) : Prop :=
  condition.traitCurrencyId > 0 ∧ condition.spentAmountRequired > 0 ∧
    (condition.traitNodeGroupId > 0 ∨ condition.traitNodeId > 0)

theorem grantedEntriesForConfig_of_not_asksSpending
    (h : ∀ condition ∈ index.conditions.rows, condition.condType = 2 → ¬ AsksSpending condition)
    (treeIds : List ℕ) (entries entries' : List TraitConfigEntry) :
    index.grantedEntriesForConfig treeIds kind entries facts =
      index.grantedEntriesForConfig treeIds kind entries' facts := by
  refine grantedEntriesForConfig_congr fun condition hcondition htype => ?_
  have hspending : ∀ spent, ¬ (condition.traitCurrencyId > 0 ∧
      condition.spentAmountRequired > 0 ∧
      (condition.traitNodeGroupId > 0 ∨ condition.traitNodeId > 0) ∧
      amountAt spent (asU32 condition.traitCurrencyId) < condition.spentAmountRequired) :=
    fun spent hasks => h condition hcondition htype ⟨hasks.1, hasks.2.1, hasks.2.2.1⟩
  rw [conditionMeets, conditionMeets, if_neg (hspending _), if_neg (hspending _)]

theorem amountAt_spentCurrencies_of_rank_zero (h : ∀ row ∈ entries, row.rank = 0) (c : ℕ) :
    amountAt (index.spentCurrencies entries) c = 0 := by
  have hzero : ∀ x ∈ index.costsIn entries c, x = 0 := by
    intro x hx
    obtain ⟨row, hrow, hx⟩ := List.mem_flatMap.mp hx
    obtain ⟨costId, -, hx⟩ := List.mem_flatMap.mp hx
    rw [costAmount, h row hrow] at hx
    split at hx
    case h_2 => cases hx
    case h_1 =>
      split at hx
      case isFalse => cases hx
      case isTrue => simpa [satMul, saturate] using hx
  rw [amountAt_spentCurrencies, satTotal, foldl_satAdd_of_nonneg (fun x hx => (hzero x hx).ge) le_rfl
    (by decide), List.sum_eq_zero hzero]
  rfl

theorem grantedEntriesForConfig_of_rank_zero (h : ∀ row ∈ entries, row.rank = 0) :
    index.grantedEntriesForConfig treeIds kind entries facts =
      index.grantedEntriesForConfig treeIds kind [] facts := by
  refine grantedEntriesForConfig_congr fun condition _ _ => conditionMeets_congr _ fun c => ?_
  rw [amountAt_spentCurrencies_of_rank_zero h,
    amountAt_spentCurrencies_of_rank_zero (List.forall_mem_nil _)]

end Grants

end TraitTreeSkillLineIndex

end RustyCore.Traits
