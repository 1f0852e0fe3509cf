import RustyCore.Verification.Traits.Grants
import RustyCore.Verification.Traits.Rules

/-! # Normalized configs -/

namespace RustyCore.Traits

variable {index : TraitTreeSkillLineIndex}

namespace TraitTreeSkillLineIndex

variable {nodeId : ℕ}

/-! ## Rounds

What normalization does to the rows of a config whose trees resolve. -/

section Rounds

variable (index : TraitTreeSkillLineIndex) (treeIds : List ℕ) (kind : ConfigKind)
  (facts : TraitPlayerFacts)

/-- The valid rows if they are accepted, else the granted ones. -/
def round (entries : List TraitConfigEntry) : List TraitConfigEntry :=
  if index.validateConfig treeIds kind (entries.filter index.isValidEntry) facts = .ok then
    entries.filter index.isValidEntry
  else index.grantedEntriesForConfig treeIds kind (entries.filter index.isValidEntry) facts

/-- Rows that a second round leaves as the first one does: they are accepted, or what is granted
instead is valid and accepted, or is what an empty config is granted, and not accepted. -/
def Settled (entries : List TraitConfigEntry) : Prop :=
  index.validateConfig treeIds kind (entries.filter index.isValidEntry) facts = .ok ∨
    ((∀ row ∈ index.grantedEntriesForConfig treeIds kind (entries.filter index.isValidEntry) facts,
        index.isValidEntry row = true) ∧
      index.validateConfig treeIds kind
        (index.grantedEntriesForConfig treeIds kind (entries.filter index.isValidEntry) facts)
        facts = .ok) ∨
    (index.validateConfig treeIds kind
        ((index.grantedEntriesForConfig treeIds kind (entries.filter index.isValidEntry)
          facts).filter index.isValidEntry) facts ≠ .ok ∧
      index.grantedEntriesForConfig treeIds kind [] facts =
        index.grantedEntriesForConfig treeIds kind (entries.filter index.isValidEntry) facts)

variable {index treeIds kind facts} {entries : List TraitConfigEntry}

theorem rank_zero_of_granted :
    ∀ row ∈ index.grantedEntriesForConfig treeIds kind entries facts, row.rank = 0 := by
  intro row hrow
  rw [grantedEntriesForConfig_eq] at hrow
  exact (grantedRow_of_mem hrow).rank

theorem round_of_ok
    (h : index.validateConfig treeIds kind (entries.filter index.isValidEntry) facts = .ok) :
    index.round treeIds kind facts entries = entries.filter index.isValidEntry := if_pos h

theorem round_filter_of_ok
    (h : index.validateConfig treeIds kind (entries.filter index.isValidEntry) facts = .ok) :
    index.round treeIds kind facts (entries.filter index.isValidEntry) =
      entries.filter index.isValidEntry := by
  have htwice : (entries.filter index.isValidEntry).filter index.isValidEntry =
      entries.filter index.isValidEntry := by
    rw [List.filter_filter]
    simp only [Bool.and_self]
  rw [round_of_ok (by rwa [htwice]), htwice]

/-- Rows without ranks that are not accepted make way for what an empty config is granted. -/
theorem round_of_rank_zero (hrank : ∀ row ∈ entries, row.rank = 0)
    (h : index.validateConfig treeIds kind (entries.filter index.isValidEntry) facts ≠ .ok) :
    index.round treeIds kind facts entries =
      index.grantedEntriesForConfig treeIds kind [] facts := by
  rw [round, if_neg h]
  exact grantedEntriesForConfig_of_rank_zero fun row hrow => hrank row (List.mem_of_mem_filter hrow)

theorem round_settles (index : TraitTreeSkillLineIndex) (treeIds : List ℕ) (kind : ConfigKind)
    (facts : TraitPlayerFacts) (entries : List TraitConfigEntry) :
    let next := index.round treeIds kind facts
    next (next (next (next entries))) = next (next (next entries)) := by
  intro next
  have hsettled : ∀ rows, index.validateConfig treeIds kind (rows.filter index.isValidEntry)
      facts = .ok → next (next rows) = next rows := by
    intro rows hok
    change next (index.round treeIds kind facts rows) = index.round treeIds kind facts rows
    rw [round_of_ok hok]
    exact round_filter_of_ok hok
  by_cases hfirst : index.validateConfig treeIds kind (entries.filter index.isValidEntry)
      facts = .ok
  · rw [hsettled entries hfirst, hsettled entries hfirst, hsettled entries hfirst]
  · have hgranted : next entries = index.grantedEntriesForConfig treeIds kind
        (entries.filter index.isValidEntry) facts := if_neg hfirst
    by_cases hsecond : index.validateConfig treeIds kind ((next entries).filter index.isValidEntry)
        facts = .ok
    · rw [hsettled _ hsecond, hsettled _ hsecond]
    · have hempty : next (next entries) = index.grantedEntriesForConfig treeIds kind [] facts :=
        round_of_rank_zero (hgranted ▸ rank_zero_of_granted) hsecond
      rw [hempty]
      by_cases hthird : index.validateConfig treeIds kind
          ((index.grantedEntriesForConfig treeIds kind [] facts).filter index.isValidEntry)
          facts = .ok
      · exact hsettled _ hthird
      · have hsame : next (index.grantedEntriesForConfig treeIds kind [] facts) =
            index.grantedEntriesForConfig treeIds kind [] facts :=
          round_of_rank_zero rank_zero_of_granted hthird
        rw [hsame, hsame]

theorem round_round_iff : index.round treeIds kind facts (index.round treeIds kind facts entries) =
    index.round treeIds kind facts entries ↔ index.Settled treeIds kind facts entries := by
  rw [Settled]
  by_cases hfirst : index.validateConfig treeIds kind (entries.filter index.isValidEntry)
      facts = .ok
  · rw [round_of_ok hfirst]
    exact iff_of_true (round_filter_of_ok hfirst) (.inl hfirst)
  · have hgranted : index.round treeIds kind facts entries = index.grantedEntriesForConfig treeIds
        kind (entries.filter index.isValidEntry) facts := if_neg hfirst
    rw [hgranted, or_iff_right hfirst]
    generalize hrows : index.grantedEntriesForConfig treeIds kind
      (entries.filter index.isValidEntry) facts = rows
    have hrank : ∀ row ∈ rows, row.rank = 0 := hrows ▸ rank_zero_of_granted
    by_cases hsecond : index.validateConfig treeIds kind (rows.filter index.isValidEntry)
        facts = .ok
    · rw [round_of_ok hsecond, List.filter_eq_self,
        or_iff_left fun hfailed => hfailed.1 hsecond]
      refine (and_iff_left_of_imp fun hvalid => ?_).symm
      rwa [List.filter_eq_self.mpr hvalid] at hsecond
    · rw [round_of_rank_zero hrank hsecond]
      constructor
      · exact fun hsame => .inr ⟨hsecond, hsame⟩
      · rintro (⟨hvalid, hok⟩ | ⟨-, hsame⟩)
        · rw [List.filter_eq_self.mpr hvalid] at hsecond
          exact absurd hok hsecond
        · exact hsame

end Rounds

/-! ## Loaded trees -/

section Load

variable {stores : TraitStores} {skillLineExists : ℕ → Bool} {classIds : ℕ → List ℕ}
variable {treeId : ℕ}

theorem mem_nodesForTree_load :
    nodeId ∈ (load stores skillLineExists classIds).nodesForTree treeId ↔
      treeId ≠ 0 ∧ (stores.trees.find treeId).isSome = true ∧
        ∃ node, stores.nodes.find nodeId = some node ∧ node.traitTreeId = treeId := by
  rw [nodesForTree, load, withTraitCurrencyData, withTraitGraph]
  dsimp only
  rw [Dict.slice_mapValues rfl, mem_sortDedup, Dict.mem_slice_pushRows]
  constructor
  · rintro ⟨node, hnode, hkey⟩
    split at hkey
    case isFalse => cases hkey
    case isTrue htree =>
      obtain ⟨rfl, rfl⟩ := Prod.mk.inj (Option.some.inj hkey)
      rw [Bool.and_eq_true] at htree
      exact ⟨of_decide_eq_true htree.1, htree.2, node, KeyedTable.find_of_mem hnode, rfl⟩
  · rintro ⟨hzero, htree, node, hnode, rfl⟩
    refine ⟨node, KeyedTable.mem_of_find hnode, ?_⟩
    rw [if_pos (by simp [hzero, htree]), KeyedTable.key_of_find hnode]

theorem find_of_mem_entriesForNode_load {entryId : ℕ}
    (h : entryId ∈ (load stores skillLineExists classIds).entriesForNode nodeId) :
    (stores.nodeEntries.find entryId).isSome = true := by
  rw [entriesForNode, load, withTraitCurrencyData, withTraitGraph] at h
  dsimp only at h
  rw [Dict.slice_mapValues rfl, mem_sortDedup] at h
  obtain ⟨link, -, hlink⟩ := Dict.mem_slice_pushRows.mp h
  obtain ⟨entryId', -, hlink⟩ := Option.bind_eq_some_iff.mp hlink
  split at hlink
  case isFalse => cases hlink
  case isTrue hknown =>
    obtain ⟨-, rfl⟩ := Prod.mk.inj (Option.some.inj hlink)
    exact (Bool.and_eq_true _ _ ▸ hknown).2

theorem tree_of_skillLine_load {skillLineId : ℕ}
    (h : treeId ∈ (load stores skillLineExists classIds).treesForSkillLine skillLineId) :
    (stores.trees.find treeId).isSome = true := by
  rw [treesForSkillLine, load, withTraitCurrencyData, withTraitGraph, fromEffectiveStores] at h
  dsimp only at h
  rw [Dict.slice_mapValues rfl, List.mem_map] at h
  obtain ⟨row, hrow, rfl⟩ := h
  rw [List.mem_insertionSort] at hrow
  obtain ⟨link, hlink, hkey⟩ := Dict.mem_slice_pushRows.mp hrow
  obtain ⟨traitTreeId, htree, hkey⟩ := Option.map_eq_some_iff.mp hkey
  obtain ⟨-, rfl⟩ := Prod.mk.inj hkey
  have hvalid := (List.mem_filter.mp (mem_sortById.mp hlink)).2
  rw [htree] at hvalid
  dsimp only at hvalid
  rw [Bool.and_eq_true] at hvalid
  exact hvalid.2

theorem tree_of_class_load {classId : ℕ}
    (h : treeId ∈ (load stores skillLineExists classIds).treesForClass classId) :
    (stores.trees.find treeId).isSome = true := by
  rw [treesForClass] at h
  cases hclass : (load stores skillLineExists classIds).skillLineByClass.lookup classId with
  | none => simp [hclass] at h
  | some skillLineId =>
    rw [hclass] at h
    exact tree_of_skillLine_load h

theorem tree_of_traitSystem_load {traitSystemId : ℕ}
    (h : treeId ∈ (load stores skillLineExists classIds).treesForTraitSystem traitSystemId) :
    (stores.trees.find treeId).isSome = true := by
  rw [treesForTraitSystem, load, withTraitCurrencyData, withTraitGraph, fromEffectiveStores] at h
  dsimp only at h
  rw [Dict.slice_mapValues rfl, List.mem_insertionSort] at h
  obtain ⟨tree, htree, hkey⟩ := Dict.mem_slice_pushRows.mp h
  split at hkey
  case isFalse => cases hkey
  case isTrue =>
    obtain ⟨-, rfl⟩ := Prod.mk.inj (Option.some.inj hkey)
    rw [KeyedTable.find_of_mem htree]
    rfl

end Load

/-! ## The check of rows -/

section Checks

/-- A row that passes all checks but that of its ranks against their maximum. -/
structure PassesChecks (index : TraitTreeSkillLineIndex) (treeIds : List ℕ)
    (entry : TraitConfigEntry) : Prop where
  inTrees : TraitSession.entryInTrees index treeIds entry = true
  node_pos : 0 < entry.traitNodeId
  rank_nonneg : 0 ≤ entry.rank
  granted_nonneg : 0 ≤ entry.grantedRanks
  known : (index.nodeEntries.find entry.traitNodeEntryId.toNat).isSome = true

theorem PassesChecks.entryComplete_iff {treeIds : List ℕ} {entry : TraitConfigEntry}
    (h : PassesChecks index treeIds entry) :
    TraitSession.entryComplete index.nodeEntries entry = true ↔
      ∀ nodeEntry, index.nodeEntries.find entry.traitNodeEntryId.toNat = some nodeEntry →
        entry.rank + entry.grantedRanks ≤ nodeEntry.maxRanks := by
  obtain ⟨hin, hnode, hrank, hgranted, hknown⟩ := h
  rw [TraitSession.entryInTrees] at hin
  split at hin
  case h_2 => cases hin
  case h_1 nodeId entryId hnodeId hentryId =>
    rw [(tryU32_eq_some_iff.mp hentryId).1, Int.toNat_natCast] at hknown ⊢
    obtain ⟨nodeEntry, hfind⟩ := Option.isSome_iff_exists.mp hknown
    rw [TraitSession.entryComplete, hentryId]
    simp [hfind, hnode, hrank, hgranted]

/-- Trees have ids other than zero, nodes ids that are positive on 32 bits. -/
structure PositiveIds (stores : TraitStores) : Prop where
  tree : ∀ tree ∈ stores.trees.rows, tree.id ≠ 0
  node : ∀ node ∈ stores.nodes.rows, 0 < node.id ∧ node.id < 2 ^ 31

variable {stores : TraitStores} {skillLineExists : ℕ → Bool} {classIds : ℕ → List ℕ}
  {treeIds : List ℕ} {kind : ConfigKind} {facts : TraitPlayerFacts}
  {entries : List TraitConfigEntry}

theorem entryBelongsToTreeSet_of_mem {treeId entryId : ℕ} (htree : treeId ∈ treeIds)
    (hnode : nodeId ∈ index.nodesForTree treeId) (hentry : entryId ∈ index.entriesForNode nodeId) :
    index.entryBelongsToTreeSet treeIds nodeId entryId = true := by
  rw [entryBelongsToTreeSet, List.any_eq_true]
  refine ⟨treeId, htree, ?_⟩
  rw [List.contains_iff_mem.mpr hnode, List.contains_iff_mem.mpr hentry]
  rfl

theorem passesChecks_of_ok (hids : PositiveIds stores)
    (htrees : ∀ treeId ∈ treeIds, (stores.trees.find treeId).isSome = true)
    (h : (load stores skillLineExists classIds).validateConfig treeIds kind entries facts = .ok) :
    ∀ entry ∈ entries, PassesChecks (load stores skillLineExists classIds) treeIds entry ∧
      ∀ nodeEntry, stores.nodeEntries.find entry.traitNodeEntryId.toNat = some nodeEntry →
        cappedRanks entry ≤ nodeEntry.maxRanks := by
  intro entry hentry
  obtain ⟨nodeId, entryId, node, nodeEntry, hnodeId, hentryId, hnode, hnodeEntry, htree, hlisted,
    hrank, hgranted, hranks, -, -⟩ :=
    validateEntry_eq_ok ((validateConfig_eq_ok_iff.mp h).2.2.1 entry hentry)
  have htree := mem_sortDedup.mp htree
  obtain ⟨tree, hfind⟩ := Option.isSome_iff_exists.mp (htrees _ htree)
  have hzero : node.traitTreeId ≠ 0 :=
    KeyedTable.key_of_find hfind ▸ hids.tree tree (KeyedTable.mem_of_find hfind)
  have hmember : nodeId ∈ (load stores skillLineExists classIds).nodesForTree node.traitTreeId :=
    mem_nodesForTree_load.mpr ⟨hzero, htrees _ htree, node, hnode, rfl⟩
  have hpositive := (hids.node node (KeyedTable.mem_of_find hnode)).1
  rw [show node.id = nodeId from KeyedTable.key_of_find hnode] at hpositive
  have hentryEq := (tryU32_eq_some_iff.mp hentryId).1
  refine ⟨⟨?_, ?_, hrank, hgranted, ?_⟩, fun nodeEntry' hnodeEntry' => ?_⟩
  · rw [TraitSession.entryInTrees, hnodeId, hentryId]
    exact entryBelongsToTreeSet_of_mem htree hmember hlisted
  · rw [(tryU32_eq_some_iff.mp hnodeId).1]
    exact_mod_cast hpositive
  · rw [hentryEq, Int.toNat_natCast, hnodeEntry]
    rfl
  · rw [hentryEq, Int.toNat_natCast] at hnodeEntry'
    obtain rfl := Option.some.inj (hnodeEntry.symm.trans hnodeEntry')
    rwa [cappedRanks, ← satAdd_of_nonneg hrank hgranted]

theorem passesChecks_of_granted (hids : PositiveIds stores) :
    ∀ row ∈ (load stores skillLineExists classIds).grantedEntriesForConfig treeIds kind entries
      facts, PassesChecks (load stores skillLineExists classIds) treeIds row ∧
        GrantedRow ((load stores skillLineExists classIds).configGrants treeIds kind entries facts)
          row := by
  intro row hrow
  rw [grantedEntriesForConfig_eq] at hrow
  have hgranted := grantedRow_of_mem hrow
  obtain ⟨grant, hgrant, hfor⟩ := hgranted.grant
  obtain ⟨⟨treeId, htree, hnode⟩, hentry⟩ := mem_configGrants hgrant
  obtain ⟨-, -, node, hfind, -⟩ := mem_nodesForTree_load.mp hnode
  have hnodeId := hids.node node (KeyedTable.mem_of_find hfind)
  rw [show node.id = grant.nodeId from KeyedTable.key_of_find hfind] at hnodeId
  have hentryId := loaded_load.entry_lt hentry
  rw [Grant.isFor, Bool.and_eq_true, asI32_of_lt hnodeId.2, asI32_of_lt hentryId] at hfor
  have hnodeEq := of_decide_eq_true hfor.1
  have hentryEq := of_decide_eq_true hfor.2
  refine ⟨⟨?_, ?_, hgranted.rank.ge, hgranted.positive.le, ?_⟩, hgranted⟩
  · rw [TraitSession.entryInTrees, tryU32_eq_some_iff.mpr ⟨hnodeEq, hnodeId.2⟩,
      tryU32_eq_some_iff.mpr ⟨hentryEq, hentryId⟩]
    exact entryBelongsToTreeSet_of_mem htree hnode hentry
  · rw [hnodeEq]
    exact_mod_cast hnodeId.1
  · rw [hentryEq, Int.toNat_natCast]
    exact find_of_mem_entriesForNode_load hentry

theorem isValidEntry_of_passesChecks {entry : TraitConfigEntry}
    (h : PassesChecks (load stores skillLineExists classIds) treeIds entry)
    (hranks : ∀ nodeEntry, stores.nodeEntries.find entry.traitNodeEntryId.toNat = some nodeEntry →
      satAdd entry.rank entry.grantedRanks ≤ nodeEntry.maxRanks) :
    (load stores skillLineExists classIds).isValidEntry entry = true := by
  obtain ⟨hin, -, -, -, hknown⟩ := h
  rw [TraitSession.entryInTrees] at hin
  split at hin
  case h_2 => cases hin
  case h_1 nodeId entryId hnodeId hentryId =>
    rw [entryBelongsToTreeSet, List.any_eq_true] at hin
    obtain ⟨treeId, -, hlisted⟩ := hin
    rw [Bool.and_eq_true] at hlisted
    obtain ⟨-, -, node, hnode, -⟩ := mem_nodesForTree_load.mp (List.contains_iff_mem.mp hlisted.1)
    rw [(tryU32_eq_some_iff.mp hentryId).1, Int.toNat_natCast] at hknown hranks
    obtain ⟨nodeEntry, hfind⟩ := Option.isSome_iff_exists.mp hknown
    have hnode' : (load stores skillLineExists classIds).nodes.find nodeId = some node := hnode
    rw [isValidEntry, hnodeId, hentryId]
    dsimp only
    rw [hnode', hfind]
    simp [List.contains_iff_mem.mp hlisted.2, hranks nodeEntry hfind]

variable (stores skillLineExists classIds treeIds kind facts entries) in
/-- Maxima that hold the ranks: below the largest number of 32 bits where the rows are accepted,
and no less than what is granted to the entry where they are not. -/
def RanksFit : Prop :=
  let index := load stores skillLineExists classIds
  let valid := entries.filter index.isValidEntry
  (index.validateConfig treeIds kind valid facts = .ok → ∀ row ∈ valid, ∀ nodeEntry,
    stores.nodeEntries.find row.traitNodeEntryId.toNat = some nodeEntry →
      nodeEntry.maxRanks < 2 ^ 31 - 1) ∧
  (index.validateConfig treeIds kind valid facts ≠ .ok →
    ∀ row ∈ index.grantedEntriesForConfig treeIds kind valid facts, ∀ nodeEntry,
      stores.nodeEntries.find row.traitNodeEntryId.toNat = some nodeEntry →
        grantedSum (index.configGrants treeIds kind valid facts) row ≤ nodeEntry.maxRanks)

theorem passesChecks_round (hids : PositiveIds stores)
    (htrees : ∀ treeId ∈ treeIds, (stores.trees.find treeId).isSome = true) :
    ∀ entry ∈ (load stores skillLineExists classIds).round treeIds kind facts entries,
      PassesChecks (load stores skillLineExists classIds) treeIds entry ∧
        (RanksFit stores skillLineExists classIds treeIds kind facts entries →
          TraitSession.entryComplete stores.nodeEntries entry = true) := by
  intro entry hentry
  rw [round] at hentry
  split at hentry
  case isTrue hok =>
    obtain ⟨hpasses, hcapped⟩ := passesChecks_of_ok hids htrees hok entry hentry
    refine ⟨hpasses, fun hfits => hpasses.entryComplete_iff.mpr fun nodeEntry hfind => ?_⟩
    have hmax := hfits.1 hok entry hentry nodeEntry hfind
    have hranks := hcapped nodeEntry hfind
    rw [cappedRanks] at hranks
    omega
  case isFalse hfailed =>
    obtain ⟨hpasses, hgranted⟩ := passesChecks_of_granted hids entry hentry
    refine ⟨hpasses, fun hfits => hpasses.entryComplete_iff.mpr fun nodeEntry hfind => ?_⟩
    have hsum := hfits.2 hfailed entry hentry nodeEntry hfind
    have hbound := hgranted.bound
    have hrank := hgranted.rank
    omega

/-- Where the ranks fit and no grant asks for spending, one round is enough. -/
theorem settled_of_ranksFit (hids : PositiveIds stores)
    (hfits : RanksFit stores skillLineExists classIds treeIds kind facts entries)
    (hspending : ∀ condition ∈ stores.conditions.rows, condition.condType = 2 →
      ¬ AsksSpending condition) :
    (load stores skillLineExists classIds).Settled treeIds kind facts entries := by
  refine or_iff_not_imp_left.mpr fun hfailed => ?_
  have hvalid : ∀ row ∈ (load stores skillLineExists classIds).grantedEntriesForConfig treeIds kind
      (entries.filter (load stores skillLineExists classIds).isValidEntry) facts,
      (load stores skillLineExists classIds).isValidEntry row = true := by
    intro row hrow
    obtain ⟨hpasses, hgranted⟩ := passesChecks_of_granted hids row hrow
    refine isValidEntry_of_passesChecks hpasses fun nodeEntry hfind => ?_
    have hsum := hfits.2 hfailed row hrow nodeEntry hfind
    have hbound := hgranted.bound
    have hrank := hgranted.rank
    rw [satAdd_of_nonneg hrank.ge hgranted.positive.le]
    omega
  by_cases hok : (load stores skillLineExists classIds).validateConfig treeIds kind
      ((load stores skillLineExists classIds).grantedEntriesForConfig treeIds kind
        (entries.filter (load stores skillLineExists classIds).isValidEntry) facts) facts = .ok
  · exact .inl ⟨hvalid, hok⟩
  · refine .inr ⟨?_, grantedEntriesForConfig_of_not_asksSpending hspending _ _ _⟩
    rwa [List.filter_eq_self.mpr hvalid]

end Checks

end TraitTreeSkillLineIndex

/-! ## Configs -/

namespace TraitSession

open TraitTreeSkillLineIndex

section Configs

variable {stores : TraitStores} {skillLineExists : ℕ → Bool} {classIds : ℕ → List ℕ}
  {specializations : Option (KeyedTable ChrSpecializationEntry.id)} {facts : TraitPlayerFacts}
  {config : TraitConfigCreateData} {treeIds : List ℕ}
variable {session : TraitSession}

theorem tree_of_type
    (h : session.treesOfType (load stores skillLineExists classIds) config = some treeIds) :
    ∀ treeId ∈ treeIds, (stores.trees.find treeId).isSome = true := by
  rw [treesOfType] at h
  split at h
  case isTrue =>
    obtain ⟨specializationId, -, h⟩ := Option.bind_eq_some_iff.mp h
    obtain ⟨table, -, h⟩ := Option.bind_eq_some_iff.mp h
    obtain ⟨specialization, -, h⟩ := Option.bind_eq_some_iff.mp h
    split at h
    · exact Option.some.inj h ▸ fun treeId => tree_of_class_load
    · cases h
  case isFalse =>
    split at h
    case isTrue =>
      obtain ⟨skillLineId, -, h⟩ := Option.bind_eq_some_iff.mp h
      split at h
      · exact Option.some.inj h ▸ fun treeId => tree_of_skillLine_load
      · cases h
    case isFalse =>
      split at h
      case isFalse => cases h
      case isTrue =>
        obtain ⟨traitSystemId, -, h⟩ := Option.bind_eq_some_iff.mp h
        split at h
        · exact Option.some.inj h ▸ fun treeId => tree_of_traitSystem_load
        · cases h

/-- The check looks up the trees that normalization looks up. -/
theorem trees_of_config (hindex : session.index = some index)
    (h : session.traitTreeIdsForConfig config = some treeIds) :
    session.treesOfType index config = some treeIds ∧
      session.treesForCheck index config = some treeIds := by
  rw [traitTreeIdsForConfig, hindex, Option.bind_eq_bind, Option.bind_some] at h
  obtain ⟨found, hfound, h⟩ := Option.bind_eq_some_iff.mp h
  split at h
  case isTrue => cases h
  case isFalse =>
    obtain rfl := Option.some.inj h
    refine ⟨hfound, ?_⟩
    rw [treesForCheck]
    split
    case isTrue => exact hfound
    case isFalse htype =>
      rw [not_or, not_or] at htype
      rw [treesOfType, if_neg htype.1, if_neg htype.2.1, if_neg htype.2.2] at hfound
      cases hfound

section Rounds

variable {session : TraitSession} {index : TraitTreeSkillLineIndex}

theorem normalizeTraitConfig_of_trees (h : session.traitTreeIdsForConfig config = some treeIds) :
    session.normalizeTraitConfig index facts config =
      { config with entries := index.round treeIds config.kind facts config.entries } := by
  rw [normalizeTraitConfig, h, TraitTreeSkillLineIndex.round]
  dsimp only
  split <;> rfl

theorem normalizeTraitConfig_of_none (h : session.traitTreeIdsForConfig config = none) :
    session.normalizeTraitConfig index facts config = { config with entries := [] } := by
  rw [normalizeTraitConfig, h]

theorem normalizeTraitConfig_settles :
    let next := session.normalizeTraitConfig index facts
    next (next (next (next config))) = next (next (next config)) := by
  intro next
  have hnext : ∀ c, next c = session.normalizeTraitConfig index facts c := fun _ => rfl
  cases htrees : session.traitTreeIdsForConfig config with
  | none =>
    have hempty : ∀ entries, next { config with entries } = { config with entries := [] } :=
      fun entries => normalizeTraitConfig_of_none htrees
    rw [show next config = _ from hempty config.entries, hempty, hempty, hempty]
  | some treeIds =>
    have hround : ∀ entries, next { config with entries } =
        { config with entries := index.round treeIds config.kind facts entries } :=
      fun entries => normalizeTraitConfig_of_trees htrees
    rw [show next config = _ from hround config.entries, hround, hround, hround]
    exact congrArg (fun entries => { config with entries })
      (round_settles index treeIds config.kind facts config.entries)

theorem normalizeTraitConfig_twice_iff :
    session.normalizeTraitConfig index facts (session.normalizeTraitConfig index facts config) =
        session.normalizeTraitConfig index facts config ↔
      ∀ treeIds, session.traitTreeIdsForConfig config = some treeIds →
        index.Settled treeIds config.kind facts config.entries := by
  cases htrees : session.traitTreeIdsForConfig config with
  | none =>
    have hempty : ∀ entries, session.normalizeTraitConfig index facts { config with entries } =
        { config with entries := [] } := fun entries => normalizeTraitConfig_of_none htrees
    rw [normalizeTraitConfig_of_none htrees, hempty]
    exact iff_of_true rfl fun treeIds h => by cases h
  | some treeIds =>
    have hround : ∀ entries, session.normalizeTraitConfig index facts { config with entries } =
        { config with entries := index.round treeIds config.kind facts entries } :=
      fun entries => normalizeTraitConfig_of_trees htrees
    rw [normalizeTraitConfig_of_trees htrees, hround]
    simp only [TraitConfigCreateData.mk.injEq, true_and, Option.some.injEq, forall_eq']
    exact round_round_iff

end Rounds

/-- One config passes the whole check if each row does. -/
theorem traitAuthorityComplete_singleton (hindex : session.index = some index)
    {nodeEntries : KeyedTable TraitNodeEntryEntry.id}
    (htrees : session.treesForCheck index config = some treeIds)
    (hrows : ∀ entry ∈ config.entries, entryComplete nodeEntries entry = true ∧
      entryInTrees index treeIds entry = true) :
    session.traitAuthorityComplete [config] nodeEntries = true := by
  rw [traitAuthorityComplete, hindex, Bool.and_eq_true]
  constructor
  · simpa using fun entry hentry => (hrows entry hentry).1
  · simp only [List.all_cons, List.all_nil, Bool.and_true, htrees, Bool.or_eq_true]
    exact .inr (List.all_eq_true.mpr fun entry hentry => (hrows entry hentry).2)

end Configs

/-! ## Normalization at login -/

/-- Three rounds of normalization settle all configs, one round those that obey the rules or whose
granted rows fit; and a normalized config passes the server's own check, but for ranks that are
granted or capped beyond the maximum. -/
theorem normalized_configs (stores : TraitStores) (skillLineExists : ℕ → Bool)
    (classIds : ℕ → List ℕ) (specializations : Option (KeyedTable ChrSpecializationEntry.id))
    (facts : TraitPlayerFacts) (configs : List TraitConfigCreateData) :
    let index := load stores skillLineExists classIds
    let session : TraitSession := ⟨some index, specializations, some facts⟩
    let next := session.normalizeTraitConfig index facts
    session.normalizeTraitConfigs configs = some (configs.map next) ∧
    session.normalizeTraitConfigs (((configs.map next).map next).map next) =
      some (((configs.map next).map next).map next) ∧
    (session.normalizeTraitConfigs (configs.map next) = some (configs.map next) ↔
      ∀ config ∈ configs, ∀ treeIds, session.traitTreeIdsForConfig config = some treeIds →
        index.Settled treeIds config.kind facts config.entries) ∧
    (PositiveIds stores → ∀ config ∈ configs, ∀ treeIds,
      session.traitTreeIdsForConfig config = some treeIds →
        (∀ entry ∈ (next config).entries, PassesChecks index treeIds entry) ∧
        (RanksFit stores skillLineExists classIds treeIds config.kind facts config.entries →
          session.traitAuthorityComplete [next config] stores.nodeEntries = true ∧
          ((∀ condition ∈ stores.conditions.rows, condition.condType = 2 →
            ¬ AsksSpending condition) → next (next config) = next config))) := by
  intro index session next
  have hnormalize : ∀ configs, session.normalizeTraitConfigs configs = some (configs.map next) :=
    fun _ => rfl
  refine ⟨hnormalize configs, ?_, ?_, fun hids config _ treeIds htrees => ?_⟩
  · rw [hnormalize]
    simp only [List.map_map]
    exact congrArg some (List.map_congr_left fun config _ => normalizeTraitConfig_settles)
  · rw [hnormalize, Option.some.injEq, List.map_map, List.map_inj_left]
    exact forall₂_congr fun config _ => normalizeTraitConfig_twice_iff
  · have htypes := trees_of_config (show session.index = some index from rfl) htrees
    have hnext : next config = { config with
        entries := index.round treeIds config.kind facts config.entries } :=
      normalizeTraitConfig_of_trees htrees
    have hrows : ∀ entry ∈ index.round treeIds config.kind facts config.entries,
        PassesChecks index treeIds entry ∧
          (RanksFit stores skillLineExists classIds treeIds config.kind facts config.entries →
            entryComplete stores.nodeEntries entry = true) :=
      passesChecks_round hids (tree_of_type htypes.1)
    refine ⟨fun entry hentry => ?_, fun hfits => ⟨?_, fun hspending => ?_⟩⟩
    · rw [hnext] at hentry
      exact (hrows entry hentry).1
    · rw [hnext]
      refine traitAuthorityComplete_singleton rfl htypes.2 fun entry hentry => ?_
      exact ⟨(hrows entry hentry).2 hfits, (hrows entry hentry).1.inTrees⟩
    · refine normalizeTraitConfig_twice_iff.mpr fun treeIds' htrees' => ?_
      obtain rfl := Option.some.inj (htrees.symm.trans htrees')
      exact settled_of_ranksFit hids hfits hspending

/-- Two grants for one rank on the first tree, a grant that asks for spending on the second, and
on the others nodes at the limits of ids and ranks. -/
def overgrantedStores : TraitStores where
  skillLineTrees := ⟨[⟨1, 1, 1, 0⟩, ⟨2, 2, 2, 0⟩, ⟨3, 3, 3, 0⟩, ⟨4, 4, 0, 0⟩], by decide⟩
  trees := ⟨[⟨0, 0⟩, ⟨1, 0⟩, ⟨2, 0⟩, ⟨3, 0⟩], by decide⟩
  nodes := ⟨[⟨1, 1, 0⟩, ⟨2, 2, 0⟩, ⟨3, 2, 0⟩, ⟨4, 0, 0⟩, ⟨5, 3, 0⟩, ⟨0, 3, 0⟩, ⟨2 ^ 31, 3, 0⟩],
    by decide⟩
  nodeEntries := ⟨[⟨1, 1⟩, ⟨2, 1⟩, ⟨3, 1⟩, ⟨4, 1⟩, ⟨5, 2 ^ 31 - 1⟩], by decide⟩
  nodeEntriesByNode := ⟨[⟨1, 1, 1⟩, ⟨2, 2, 2⟩, ⟨3, 3, 3⟩, ⟨4, 4, 3⟩, ⟨5, 5, 5⟩, ⟨6, 0, 3⟩,
    ⟨7, 2 ^ 31, 4⟩], by decide⟩
  conditions := ⟨[⟨1, 2, 1, 0, 0, 0, 0, 0, 0, 0, 0⟩, ⟨2, 2, 1, 0, 0, 0, 0, 0, 0, 0, 0⟩,
    ⟨3, 2, 1, 0, 0, 0, 0, 1, 1, 1, 0⟩], by decide⟩
  nodeEntryConditions := ⟨[⟨1, 1, 1⟩, ⟨2, 2, 3⟩, ⟨3, 4, 1⟩], by decide⟩
  nodeConditions := ⟨[⟨1, 1, 2⟩], by decide⟩
  edges := ⟨[⟨1, 3, 2, 2⟩], by decide⟩
  costs := ⟨[⟨1, 1, 1⟩], by decide⟩
  nodeCosts := ⟨[⟨1, 3, 1⟩], by decide⟩

def professionConfig (skillLineId : ℤ) (entries : List TraitConfigEntry) : TraitConfigCreateData :=
  ⟨1, 2, skillLineId, 0, 0, 0, 0, "", entries⟩

/-- Granted ranks beyond the maximum and grants that ask for spending do not survive a second
round; capped ranks and ids that are not positive on 32 bits fail the check. -/
theorem normalized_configs_unsettled :
    let index := load overgrantedStores (fun _ => true) fun _ => []
    let session : TraitSession := ⟨some index, none, some newcomer⟩
    let complete := fun config => session.traitAuthorityComplete [config] overgrantedStores.nodeEntries
    (session.normalizeTraitConfigs [professionConfig 1 [⟨3, 3, 1, 0⟩]] =
        some [professionConfig 1 [⟨1, 1, 0, 2⟩]] ∧
      complete (professionConfig 1 [⟨1, 1, 0, 2⟩]) = false ∧
      session.normalizeTraitConfigs [professionConfig 1 [⟨1, 1, 0, 2⟩]] =
        some [professionConfig 1 []]) ∧
    (session.normalizeTraitConfigs [professionConfig 2 [⟨1, 1, 1, 0⟩, ⟨3, 3, 1, 0⟩]] =
        some [professionConfig 2 [⟨2, 2, 0, 1⟩]] ∧
      session.normalizeTraitConfigs [professionConfig 2 [⟨2, 2, 0, 1⟩]] =
        some [professionConfig 2 []]) ∧
    (session.normalizeTraitConfigs [professionConfig 3 [⟨5, 5, 2 ^ 31 - 1, 1⟩]] =
        some [professionConfig 3 [⟨5, 5, 2 ^ 31 - 1, 1⟩]] ∧
      complete (professionConfig 3 [⟨5, 5, 2 ^ 31 - 1, 1⟩]) = false) ∧
    (session.normalizeTraitConfigs [professionConfig 3 [⟨0, 3, 1, 0⟩]] =
        some [professionConfig 3 [⟨0, 3, 1, 0⟩]] ∧
      complete (professionConfig 3 [⟨0, 3, 1, 0⟩]) = false) ∧
    (session.normalizeTraitConfigs [professionConfig 3 [⟨1, 1, 1, 0⟩]] =
        some [professionConfig 3 [⟨-2 ^ 31, 4, 0, 1⟩]] ∧
      complete (professionConfig 3 [⟨-2 ^ 31, 4, 0, 1⟩]) = false) ∧
    (session.normalizeTraitConfigs [professionConfig 4 [⟨4, 3, 1, 0⟩]] =
        some [professionConfig 4 [⟨4, 3, 1, 0⟩]] ∧
      complete (professionConfig 4 [⟨4, 3, 1, 0⟩]) = false) := by
  decide +kernel

/-- The second tree alone. -/
def spendingStores : TraitStores :=
  { overgrantedStores with
    trees := ⟨[⟨2, 0⟩], by decide⟩
    nodes := ⟨[⟨2, 2, 0⟩, ⟨3, 2, 0⟩], by decide⟩
    nodeEntries := ⟨[⟨2, 1⟩, ⟨3, 1⟩], by decide⟩
    conditions := .empty }

theorem normalized_configs_spending :
    let index := load spendingStores (fun _ => true) fun _ => []
    let session : TraitSession := ⟨some index, none, some newcomer⟩
    let next := session.normalizeTraitConfig index newcomer
    let config := professionConfig 2 [⟨3, 3, 1, 0⟩, ⟨5, 5, 1, 0⟩]
    (∀ entry ∈ (next config).entries, PassesChecks index [2] entry) ∧
      session.traitAuthorityComplete [next config] spendingStores.nodeEntries = true ∧
      next (next config) = next config := by
  intro index session next config
  have hclaim := (normalized_configs spendingStores (fun _ => true) (fun _ => []) none newcomer
    [config]).2.2.2 ⟨by decide, by decide⟩ config (List.mem_singleton.mpr rfl) [2]
      (by decide +kernel)
  have hsmall : ∀ nodeEntry ∈ spendingStores.nodeEntries.rows, nodeEntry.maxRanks < 2 ^ 31 - 1 := by
    decide
  have hok : index.validateConfig [2] config.kind (config.entries.filter index.isValidEntry)
      newcomer = .ok := by
    decide +kernel
  have hfits := hclaim.2 ⟨fun _ _ _ nodeEntry hfind => hsmall nodeEntry
    (KeyedTable.mem_of_find hfind), fun hfailed => absurd hok hfailed⟩
  exact ⟨hclaim.1, hfits.1, hfits.2 (List.forall_mem_nil _)⟩

end TraitSession

end RustyCore.Traits
