import RustyCore.Verification.Traits.Amounts

/-! # Accepted configs obey the talent rules -/

namespace RustyCore.Traits

/-- The ranks of a row, on 32 bits. -/
def cappedRanks (entry : TraitConfigEntry) : ℤ := min (entry.rank + entry.grantedRanks) (2 ^ 31 - 1)

namespace TraitTreeSkillLineIndex

variable (index : TraitTreeSkillLineIndex)
variable {entries : List TraitConfigEntry} {treeIds : List ℕ} {kind : ConfigKind}
  {facts : TraitPlayerFacts}

/-! ## The rules -/

/-- A row for an entry of a node of the trees, with ranks that fit. -/
structure KnownRow (treeIds : List ℕ) (entry : TraitConfigEntry) : Prop where
  node : ∃ nodeId entryId : ℕ, entry.traitNodeId = nodeId ∧ entry.traitNodeEntryId = entryId ∧
    entryId ∈ index.entriesForNode nodeId ∧
    (∃ node, index.nodes.find nodeId = some node ∧ node.traitTreeId ∈ treeIds) ∧
    ∃ nodeEntry, index.nodeEntries.find entryId = some nodeEntry ∧
      cappedRanks entry ≤ nodeEntry.maxRanks
  rank_nonneg : 0 ≤ entry.rank
  granted_nonneg : 0 ≤ entry.grantedRanks

def FilledBy (entries : List TraitConfigEntry) (nodeId entryId : ℕ) : Prop :=
  ∃ entry ∈ entries, entry.traitNodeId = nodeId ∧ entry.traitNodeEntryId = entryId ∧
    ∃ nodeEntry, index.nodeEntries.find entryId = some nodeEntry ∧
      cappedRanks entry = nodeEntry.maxRanks

def Filled (entries : List TraitConfigEntry) (nodeId : ℕ) : Prop :=
  ∃ node, index.nodes.find nodeId = some node ∧
    (node.nodeType = 2 → ∃ entryId ∈ index.entriesForNode nodeId,
      index.FilledBy entries nodeId entryId) ∧
    (node.nodeType ≠ 2 → ∀ entryId ∈ index.entriesForNode nodeId,
      index.FilledBy entries nodeId entryId)

/-- No row of another node carries an entry of this one. -/
def OwnRows (entries : List TraitConfigEntry) (nodeId : ℕ) : Prop :=
  ∀ entry ∈ entries, ∀ entryId ∈ index.entriesForNode nodeId,
    entry.traitNodeEntryId = entryId → entry.traitNodeId = nodeId

/-- What an accepted config obeys. -/
structure TalentRules (treeIds : List ℕ) (entries : List TraitConfigEntry)
    (facts : TraitPlayerFacts) : Prop where
  rows : ∀ entry ∈ entries, index.KnownRow treeIds entry
  /-- A choice node has one row. -/
  choice : ∀ entry ∈ entries, ∀ node, index.nodes.find entry.traitNodeId.toNat = some node →
    node.nodeType = 2 →
      (entries.filter fun candidate => candidate.traitNodeId = entry.traitNodeId).length = 1
  /-- Every parent of type 2 is filled. -/
  required : ∀ entry ∈ entries, ∀ parentId,
    (parentId, 2) ∈ index.parentNodesForNode entry.traitNodeId.toNat →
      index.OwnRows entries parentId → index.Filled entries parentId
  /-- Some parent is filled. -/
  parent : ∀ entry ∈ entries, index.parentNodesForNode entry.traitNodeId.toNat ≠ [] →
    (∀ parent ∈ index.parentNodesForNode entry.traitNodeId.toNat,
      index.OwnRows entries parent.1) →
    ∃ parent ∈ index.parentNodesForNode entry.traitNodeId.toNat, index.Filled entries parent.1
  /-- What is spent of a currency is what its sources pay, once for each tree with it. -/
  currencies : ∀ currencyId, index.IsSourced currencyId →
    0 < satTotal (index.costsIn entries currencyId) →
      satTotal (index.costsIn entries currencyId) ≤
        satTotal (index.incomesIn (sortDedup treeIds) entries facts currencyId)

/-! ## The checks -/

theorem firstFailure_eq_ok_iff {results : List TraitConfigValidationResult} :
    firstFailure results = .ok ↔ ∀ result ∈ results, result = .ok := by
  induction results with
  | nil => simp [firstFailure]
  | cons result results ih => cases result <;> simp [firstFailure, ih]

variable {index}

theorem validateConfig_eq_ok_iff :
    index.validateConfig treeIds kind entries facts = .ok ↔
      treeIds ≠ [] ∧ index.graphLoaded = true ∧
      (∀ entry ∈ entries, index.validateEntry (sortDedup treeIds) kind entries facts
        (index.spentCurrencies entries) entry = .ok) ∧
      index.affords (index.ownedCurrencies (sortDedup treeIds) entries facts)
        (index.spentCurrencies entries) = true := by
  have hall : firstFailure (entries.map (index.validateEntry (sortDedup treeIds) kind entries
      facts (index.spentCurrencies entries))) = .ok ↔ ∀ entry ∈ entries,
        index.validateEntry (sortDedup treeIds) kind entries facts
          (index.spentCurrencies entries) entry = .ok := by
    rw [firstFailure_eq_ok_iff, List.forall_mem_map]
  rw [← hall, validateConfig]
  by_cases hready : treeIds.isEmpty ∨ ¬ index.graphLoaded
  · rw [if_pos hready]
    refine iff_of_false (by simp) fun h => ?_
    rcases hready with hempty | hloaded
    · exact h.1 (List.isEmpty_iff.mp hempty)
    · exact hloaded h.2.1
  · rw [if_neg hready]
    rw [not_or, not_not, List.isEmpty_iff] at hready
    dsimp only
    split
    case h_1 hok => simp [hready.1, hready.2, hok]
    case h_2 failure hfailure => exact iff_of_false hfailure fun h => hfailure h.2.2.1

theorem validateEntry_eq_ok {spent : Dict ℕ ℤ} {entry : TraitConfigEntry}
    (h : index.validateEntry treeIds kind entries facts spent entry = .ok) :
    ∃ nodeId entryId node nodeEntry, tryU32 entry.traitNodeId = some nodeId ∧
      tryU32 entry.traitNodeEntryId = some entryId ∧
      index.nodes.find nodeId = some node ∧ index.nodeEntries.find entryId = some nodeEntry ∧
      node.traitTreeId ∈ treeIds ∧ entryId ∈ index.entriesForNode nodeId ∧
      0 ≤ entry.rank ∧ 0 ≤ entry.grantedRanks ∧
      satAdd entry.rank entry.grantedRanks ≤ nodeEntry.maxRanks ∧
      (node.nodeType = 2 → (entries.filter fun candidate =>
        candidate.traitNodeId = entry.traitNodeId).length = 1) ∧
      (index.parentNodesForNode nodeId ≠ [] →
        index.parentsFilled entries (index.parentNodesForNode nodeId) false = true) := by
  rw [validateEntry] at h
  dsimp only at h
  split at h
  case h_2 => cases h
  case h_1 nodeId entryId hnodeId hentryId =>
    split at h
    case h_1 => cases h
    case h_2 node hnode =>
      split at h
      case isTrue => cases h
      case isFalse htree =>
        split at h
        case h_1 => cases h
        case h_2 nodeEntry hnodeEntry =>
          split at h
          case isTrue => cases h
          case isFalse hranks =>
            split at h
            case isTrue => cases h
            case isFalse hchoice =>
              split at h
              case isTrue => cases h
              case isFalse =>
                split at h
                case isTrue => cases h
                case isFalse =>
                  split at h
                  case isTrue => cases h
                  case isFalse hparents =>
                    simp only [not_or, not_not, List.contains_iff_mem] at htree
                    refine ⟨nodeId, entryId, node, nodeEntry, hnodeId, hentryId, hnode,
                      hnodeEntry, htree.1, htree.2, by omega, by omega, by omega, fun htype => ?_,
                      fun hsome => ?_⟩
                    · exact not_not.mp fun hone => hchoice ⟨htype, hone⟩
                    · exact not_not.mp fun hnone => hparents ⟨hsome, hnone⟩

/-! ## Parents -/

theorem parentsFilled_eq_true {parents : List (ℕ × ℤ)} {hasAnyParent : Bool}
    (h : index.parentsFilled entries parents hasAnyParent = true) :
    (∀ parentId, (parentId, 2) ∈ parents → index.nodeFullyFilled entries parentId = true) ∧
      (hasAnyParent = false →
        ∃ parent ∈ parents, index.nodeFullyFilled entries parent.1 = true) := by
  induction parents generalizing hasAnyParent with
  | nil =>
    refine ⟨fun parentId hmem => by simp at hmem, fun hnone => ?_⟩
    rw [parentsFilled, hnone] at h
    cases h
  | cons parent parents ih =>
    rw [parentsFilled] at h
    split at h
    case isTrue hempty =>
      split at h
      case isTrue => cases h
      case isFalse htype =>
        obtain ⟨hrequired, hany⟩ := ih h
        refine ⟨fun parentId hmem => ?_, fun hnone => ?_⟩
        · rcases List.mem_cons.mp hmem with rfl | hmem
          · exact absurd rfl htype
          · exact hrequired parentId hmem
        · obtain ⟨other, hmem, hfilled⟩ := hany hnone
          exact ⟨other, List.mem_cons_of_mem parent hmem, hfilled⟩
    case isFalse hfilled =>
      have hfilled : index.nodeFullyFilled entries parent.1 = true := by simpa using hfilled
      refine ⟨fun parentId hmem => ?_, fun _ => ⟨parent, List.mem_cons_self, hfilled⟩⟩
      rcases List.mem_cons.mp hmem with rfl | hmem
      · exact hfilled
      · exact (ih h).1 parentId hmem

theorem find_of_totals {entryId : ℕ} {ranks : ℤ} (h : totals entries entryId = some ranks) :
    ∃ entry ∈ entries, entry.traitNodeEntryId = asI32 entryId ∧
      satAdd entry.rank entry.grantedRanks = ranks := by
  obtain ⟨entry, hfind, hranks⟩ := Option.map_eq_some_iff.mp h
  exact ⟨entry, List.mem_of_find?_eq_some hfind, by simpa using List.find?_some hfind, hranks⟩

section OwnRows

variable {entries : List TraitConfigEntry} {nodeId entryId : ℕ}

theorem filledBy_of_entryFilled (hindex : Loaded index)
    (hrows : ∀ entry ∈ entries, 0 ≤ entry.rank ∧ 0 ≤ entry.grantedRanks)
    (hown : index.OwnRows entries nodeId) (hentry : entryId ∈ index.entriesForNode nodeId)
    (h : index.entryFilled entries entryId = true) : index.FilledBy entries nodeId entryId := by
  rw [entryFilled] at h
  split at h
  case h_1 => cases h
  case h_2 nodeEntry hnodeEntry =>
    obtain ⟨entry, hmem, hid, hranks⟩ := find_of_totals (of_decide_eq_true h)
    rw [asI32_of_lt (hindex.entry_lt hentry)] at hid
    refine ⟨entry, hmem, hown entry hmem entryId hentry hid, hid, nodeEntry, hnodeEntry, ?_⟩
    rw [cappedRanks, ← satAdd_of_nonneg (hrows entry hmem).1 (hrows entry hmem).2, hranks]

theorem filled_of_nodeFullyFilled (hindex : Loaded index)
    (hrows : ∀ entry ∈ entries, 0 ≤ entry.rank ∧ 0 ≤ entry.grantedRanks)
    (hown : index.OwnRows entries nodeId) (h : index.nodeFullyFilled entries nodeId = true) :
    index.Filled entries nodeId := by
  rw [nodeFullyFilled] at h
  split at h
  case h_1 => cases h
  case h_2 node hnode =>
    refine ⟨node, hnode, fun htype => ?_, fun htype => ?_⟩
    · rw [if_pos htype, List.any_eq_true] at h
      obtain ⟨entryId, hentry, hfilled⟩ := h
      exact ⟨entryId, hentry, filledBy_of_entryFilled hindex hrows hown hentry hfilled⟩
    · rw [if_neg htype, List.all_eq_true] at h
      exact fun entryId hentry =>
        filledBy_of_entryFilled hindex hrows hown hentry (h entryId hentry)

end OwnRows

/-! ## Currencies -/

theorem hasSources_iff (hindex : Loaded index) {currencyId : ℕ} :
    index.hasSources currencyId = true ↔ index.IsSourced currencyId := by
  have hmem : ∀ currency, currency ∈ index.currenciesByTree.ascending.flatMap (·.2) ↔
      ∃ treeId, currency ∈ index.currenciesByTree.slice treeId := by
    intro currency
    rw [List.mem_flatMap]
    constructor
    · rintro ⟨⟨treeId, currencies⟩, hlisted, hcurrency⟩
      refine ⟨treeId, ?_⟩
      rw [Dict.slice, Dict.mem_ascending.mp hlisted]
      exact hcurrency
    · rintro ⟨treeId, hcurrency⟩
      rw [Dict.slice] at hcurrency
      cases hlookup : index.currenciesByTree.lookup treeId with
      | none => simp [hlookup] at hcurrency
      | some currencies =>
        refine ⟨⟨treeId, currencies⟩, Dict.mem_ascending.mpr hlookup, ?_⟩
        simpa [hlookup] using hcurrency
  rw [hasSources]
  constructor
  · intro h
    split at h
    case h_1 currency hfind =>
      obtain ⟨treeId, hcurrency⟩ := (hmem currency).mp (List.mem_of_find?_eq_some hfind)
      exact ⟨treeId, currency, hcurrency, by simpa using List.find?_some hfind,
        of_decide_eq_true h⟩
    case h_2 => cases h
  · rintro ⟨treeId, currency, hcurrency, hid, htype⟩
    split
    case h_1 other hfind =>
      obtain ⟨otherTree, hother⟩ := (hmem other).mp (List.mem_of_find?_eq_some hfind)
      have hotherId : other.id = currencyId := by simpa using List.find?_some hfind
      rw [hindex.currency_eq hother hcurrency (hotherId.trans hid.symm), htype]
      rfl
    case h_2 hfind =>
      refine absurd (List.find?_eq_none.mp hfind currency ((hmem currency).mpr ⟨treeId, hcurrency⟩))
        ?_
      simpa using hid

theorem affords_iff {owned spent : Dict ℕ ℤ} :
    index.affords owned spent = true ↔ ∀ currencyId, 0 < amountAt spent currencyId →
      index.hasSources currencyId = true →
        amountAt spent currencyId ≤ amountAt owned currencyId := by
  rw [affords, List.all_eq_true]
  constructor
  · intro h currencyId hpositive hsources
    cases hlookup : spent.lookup currencyId with
    | none => simp [amountAt, hlookup] at hpositive
    | some amount =>
      have hamount : amountAt spent currencyId = amount := by simp [amountAt, hlookup]
      have hchecked := h ⟨currencyId, amount⟩ (Dict.mem_ascending.mpr hlookup)
      rw [hamount] at hpositive ⊢
      simpa [hsources, Int.not_le.mpr hpositive] using hchecked
  · rintro h ⟨currencyId, amount⟩ hlisted
    have hlookup := Dict.mem_ascending.mp hlisted
    have hamount : amountAt spent currencyId = amount := by simp [amountAt, hlookup]
    have hafforded := h currencyId
    rw [hamount] at hafforded
    by_cases hpositive : 0 < amount
    · cases hsources : index.hasSources currencyId with
      | false => simp
      | true => simp [hafforded hpositive hsources]
    · simp [Int.not_lt.mp hpositive]

/-! ## From the checks to the rules -/

theorem talentRules_of_ok (hindex : Loaded index)
    (h : index.validateConfig treeIds kind entries facts = .ok) :
    index.TalentRules treeIds entries facts := by
  obtain ⟨-, -, hchecked, hafforded⟩ := validateConfig_eq_ok_iff.mp h
  have hrows : ∀ entry ∈ entries, 0 ≤ entry.rank ∧ 0 ≤ entry.grantedRanks := by
    intro entry hentry
    obtain ⟨-, -, -, -, -, -, -, -, -, -, hrank, hgranted, -⟩ :=
      validateEntry_eq_ok (hchecked entry hentry)
    exact ⟨hrank, hgranted⟩
  refine ⟨fun entry hentry => ?_, fun entry hentry => ?_, fun entry hentry => ?_,
    fun entry hentry => ?_, fun currencyId hsourced => ?_⟩
  case refine_5 =>
    intro hpositive
    have hpaid := affords_iff.mp hafforded currencyId
    rw [amountAt_spentCurrencies, amountAt_ownedCurrencies hindex hsourced] at hpaid
    exact hpaid hpositive ((hasSources_iff hindex).mpr hsourced)
  all_goals
    obtain ⟨nodeId, entryId, node, nodeEntry, hnodeId, hentryId, hnode, hnodeEntry, htree,
      hlisted, hrank, hgranted, hranks, hchoice, hparents⟩ :=
      validateEntry_eq_ok (hchecked entry hentry)
    have hnodeEq := (tryU32_eq_some_iff.mp hnodeId).1
    have hentryEq := (tryU32_eq_some_iff.mp hentryId).1
  case refine_1 =>
    rw [satAdd_of_nonneg hrank hgranted] at hranks
    exact ⟨⟨nodeId, entryId, hnodeEq, hentryEq, hlisted, ⟨node, hnode, mem_sortDedup.mp htree⟩,
      nodeEntry, hnodeEntry, hranks⟩, hrank, hgranted⟩
  all_goals rw [hnodeEq, Int.toNat_natCast]
  case refine_2 =>
    intro node' hnode'
    rw [hnode, Option.some.injEq] at hnode'
    subst hnode'
    rw [← hnodeEq]
    exact hchoice
  case refine_3 =>
    intro parentId hparent hown
    exact filled_of_nodeFullyFilled hindex hrows hown
      ((parentsFilled_eq_true (hparents (List.ne_nil_of_mem hparent))).1 parentId hparent)
  case refine_4 =>
    intro hsome hown
    obtain ⟨parent, hparent, hfilled⟩ := (parentsFilled_eq_true (hparents hsome)).2 rfl
    exact ⟨parent, hparent, filled_of_nodeFullyFilled hindex hrows (hown parent hparent) hfilled⟩

/-! ## Order -/

variable (index) in
/-- No row carries an entry of a parent of another row's node, unless it is one of the parent. -/
def OwnParents (entries : List TraitConfigEntry) : Prop :=
  ∀ entry ∈ entries, ∀ parent ∈ index.parentNodesForNode entry.traitNodeId.toNat,
    index.OwnRows entries parent.1

def DistinctRows (entries : List TraitConfigEntry) : Prop :=
  (entries.map fun entry => (entry.traitNodeId, entry.traitNodeEntryId)).Nodup

section Order

variable {entries entries' : List TraitConfigEntry} {spent spent' : Dict ℕ ℤ}

theorem nodeFullyFilled_perm (hindex : Loaded index) (hperm : entries.Perm entries')
    (hdistinct : DistinctRows entries) {nodeId : ℕ} (hown : index.OwnRows entries nodeId) :
    index.nodeFullyFilled entries nodeId = index.nodeFullyFilled entries' nodeId := by
  have hfilled : ∀ entryId ∈ index.entriesForNode nodeId,
      index.entryFilled entries entryId = index.entryFilled entries' entryId := by
    intro entryId hentry
    rw [entryFilled, entryFilled, totals, totals, KeyedTable.find?_eq_of_perm hperm]
    intro x hx y hy hxid hyid
    rw [asI32_of_lt (hindex.entry_lt hentry)] at hxid hyid
    have hxid := of_decide_eq_true hxid
    have hyid := of_decide_eq_true hyid
    refine List.inj_on_of_nodup_map hdistinct hx hy ?_
    rw [hxid, hyid, hown x hx entryId hentry hxid, hown y hy entryId hentry hyid]
  rw [nodeFullyFilled, nodeFullyFilled]
  cases index.nodes.find nodeId with
  | none => rfl
  | some node =>
    dsimp only
    split
    · rw [Bool.eq_iff_iff, List.any_eq_true, List.any_eq_true]
      exact exists_congr fun entryId => and_congr_right fun hentry => by rw [hfilled entryId hentry]
    · rw [Bool.eq_iff_iff, List.all_eq_true, List.all_eq_true]
      exact forall₂_congr fun entryId hentry => by rw [hfilled entryId hentry]

theorem parentsFilled_congr {parents : List (ℕ × ℤ)} {hasAnyParent : Bool}
    (h : ∀ parent ∈ parents,
      index.nodeFullyFilled entries parent.1 = index.nodeFullyFilled entries' parent.1) :
    index.parentsFilled entries parents hasAnyParent =
      index.parentsFilled entries' parents hasAnyParent := by
  induction parents generalizing hasAnyParent with
  | nil => rfl
  | cons parent parents ih =>
    have hrest := fun other hmem => h other (List.mem_cons_of_mem parent hmem)
    rw [parentsFilled, parentsFilled, h parent List.mem_cons_self, ih hrest, ih hrest]

theorem meetsConditions_congr (hspent : ∀ c, amountAt spent c = amountAt spent' c)
    (kind : ConfigKind) (facts : TraitPlayerFacts) (conditionIds : List ℕ)
    (hasConditions : Bool) :
    index.meetsConditions kind facts spent conditionIds hasConditions =
      index.meetsConditions kind facts spent' conditionIds hasConditions := by
  have hmeets : ∀ condition, index.conditionMeets kind condition facts spent =
      index.conditionMeets kind condition facts spent' := fun condition =>
    conditionMeets_congr condition hspent
  induction conditionIds generalizing hasConditions with
  | nil => rfl
  | cons conditionId conditionIds ih =>
    rw [meetsConditions, meetsConditions]
    cases index.conditions.find conditionId with
    | none => rfl
    | some condition => simp only [hmeets, ih]

theorem validateEntry_perm (hindex : Loaded index) (hperm : entries.Perm entries')
    (hdistinct : DistinctRows entries) (hown : index.OwnParents entries)
    (hspent : ∀ c, amountAt spent c = amountAt spent' c) (treeIds : List ℕ) (kind : ConfigKind)
    (facts : TraitPlayerFacts) {entry : TraitConfigEntry} (hentry : entry ∈ entries) :
    index.validateEntry treeIds kind entries facts spent entry =
      index.validateEntry treeIds kind entries' facts spent' entry := by
  have hcount : (entries.filter fun candidate => candidate.traitNodeId = entry.traitNodeId).length =
      (entries'.filter fun candidate => candidate.traitNodeId = entry.traitNodeId).length :=
    (hperm.filter _).length_eq
  rw [validateEntry, validateEntry]
  simp only [hcount, meetsConditions_congr hspent]
  split
  case h_2 => rfl
  case h_1 nodeId entryId hnodeId hentryId =>
    have hparents : index.parentsFilled entries (index.parentNodesForNode nodeId) false =
        index.parentsFilled entries' (index.parentNodesForNode nodeId) false := by
      refine parentsFilled_congr fun parent hparent =>
        nodeFullyFilled_perm hindex hperm hdistinct (hown entry hentry parent ?_)
      rwa [(tryU32_eq_some_iff.mp hnodeId).1, Int.toNat_natCast]
    rw [hparents]

theorem ownedCurrencies_perm (hperm : entries.Perm entries') (treeIds : List ℕ)
    (facts : TraitPlayerFacts) :
    index.ownedCurrencies treeIds entries facts = index.ownedCurrencies treeIds entries' facts := by
  have hactive : activeEntry entries = activeEntry entries' := by
    funext entryId
    exact hperm.any_eq
  have hqualifies : sourceQualifies entries facts = sourceQualifies entries' facts := by
    funext source
    rw [sourceQualifies, sourceQualifies, hactive]
  have hadd : index.addOwnedCurrency entries facts = index.addOwnedCurrency entries' facts := by
    funext owned currency
    rw [addOwnedCurrency, addOwnedCurrency, hqualifies]
  rw [ownedCurrencies, ownedCurrencies, hadd]

theorem amountAt_spentCurrencies_perm (hperm : entries.Perm entries')
    (hfree : ∀ c, OrderFree (index.costsIn entries c)) (c : ℕ) :
    amountAt (index.spentCurrencies entries) c = amountAt (index.spentCurrencies entries') c := by
  rw [amountAt_spentCurrencies, amountAt_spentCurrencies]
  exact (hfree c).perm (hperm.flatMap_right _)

theorem ok_of_perm (hindex : Loaded index) (hperm : entries.Perm entries')
    (hdistinct : DistinctRows entries) (hown : index.OwnParents entries)
    (hfree : ∀ c, OrderFree (index.costsIn entries c)) (treeIds : List ℕ) (kind : ConfigKind)
    (facts : TraitPlayerFacts) :
    index.validateConfig treeIds kind entries facts = .ok ↔
      index.validateConfig treeIds kind entries' facts = .ok := by
  have hspent := amountAt_spentCurrencies_perm hperm hfree
  rw [validateConfig_eq_ok_iff, validateConfig_eq_ok_iff]
  refine and_congr_right fun _ => and_congr_right fun _ => and_congr ?_ ?_
  · rw [forall_congr' fun entry => imp_congr_left hperm.mem_iff.symm]
    refine forall₂_congr fun entry hentry => ?_
    rw [validateEntry_perm hindex hperm hdistinct hown hspent _ _ _ hentry]
  · rw [affords_iff, affords_iff, ownedCurrencies_perm hperm]
    simp only [hspent]

theorem orderFree_of_costs_nonneg (h : ∀ cost ∈ index.costs.rows, 0 ≤ cost.amount) (c : ℕ) :
    OrderFree (index.costsIn entries c) := by
  refine .inl fun amount hamount => ?_
  obtain ⟨entry, -, hamount⟩ := List.mem_flatMap.mp hamount
  obtain ⟨costId, -, hamount⟩ := List.mem_flatMap.mp hamount
  rw [costAmount] at hamount
  split at hamount
  case h_2 => cases hamount
  case h_1 cost hcost =>
    split at hamount
    case isFalse => cases hamount
    case isTrue =>
      rw [List.mem_singleton.mp hamount, satMul, saturate]
      have hproduct := mul_nonneg (h cost (KeyedTable.mem_of_find hcost)) (le_max_right entry.rank 0)
      omega

end Order

/-! ## Accepted configs and the order of rows -/

section Accepted

/-- A config that is accepted obeys the talent rules, and whether it is accepted does not depend
on the order of its rows. -/
theorem accepted_config (stores : TraitStores) (skillLineExists : ℕ → Bool)
    (classIds : ℕ → List ℕ) (treeIds : List ℕ) (kind : ConfigKind)
    (entries : List TraitConfigEntry) (facts : TraitPlayerFacts) :
    ((load stores skillLineExists classIds).validateConfig treeIds kind entries facts = .ok →
      (load stores skillLineExists classIds).TalentRules treeIds entries facts) ∧
    (DistinctRows entries → (load stores skillLineExists classIds).OwnParents entries →
      (∀ c, OrderFree ((load stores skillLineExists classIds).costsIn entries c)) →
      ∀ entries', entries.Perm entries' →
        ((load stores skillLineExists classIds).validateConfig treeIds kind entries facts = .ok ↔
          (load stores skillLineExists classIds).validateConfig treeIds kind entries' facts =
            .ok)) :=
  ⟨talentRules_of_ok loaded_load, fun hdistinct hown hfree _ hperm =>
    ok_of_perm loaded_load hperm hdistinct hown hfree treeIds kind facts⟩

/-- Two trees with one currency, a parent whose entry is one of another node too, and costs of
both signs. -/
def crossedStores : TraitStores where
  trees := ⟨[⟨1, 0⟩, ⟨2, 0⟩], by decide⟩
  nodes := ⟨[⟨1, 1, 0⟩, ⟨2, 1, 0⟩, ⟨3, 1, 0⟩, ⟨4, 1, 0⟩, ⟨5, 1, 0⟩, ⟨6, 1, 0⟩, ⟨7, 1, 0⟩],
    by decide⟩
  nodeEntries := ⟨[⟨1, 1⟩, ⟨2, 2 ^ 31 - 1⟩], by decide⟩
  nodeEntriesByNode := ⟨[⟨1, 1, 1⟩, ⟨2, 2, 1⟩, ⟨3, 3, 2⟩, ⟨4, 4, 2⟩, ⟨5, 5, 2⟩, ⟨6, 6, 2⟩,
    ⟨7, 7, 2⟩], by decide⟩
  edges := ⟨[⟨1, 1, 3, 2⟩], by decide⟩
  costs := ⟨[⟨1, 2 ^ 31 - 1, 1⟩, ⟨2, 1 - 2 ^ 31, 1⟩, ⟨3, 2, 2⟩], by decide⟩
  nodeCosts := ⟨[⟨1, 4, 1⟩, ⟨2, 5, 1⟩, ⟨3, 6, 2⟩, ⟨4, 7, 3⟩], by decide⟩
  currencies := ⟨[⟨1, 2, 0⟩, ⟨2, 2, 0⟩, ⟨3, 2, 0⟩], by decide⟩
  currencySources := ⟨[⟨1, 2, 1, 0, 0, 0, 0, 0⟩, ⟨2, 3, -1, 0, 0, 0, 0, 0⟩], by decide⟩
  treeCurrencies := ⟨[⟨1, 1, 1⟩, ⟨2, 1, 2⟩, ⟨3, 2, 2⟩, ⟨4, 1, 3⟩], by decide⟩

def newcomer : TraitPlayerFacts := ⟨0, 0, 0, ∅, [], []⟩

/-- Capped ranks above the maximum, a currency paid once for each tree, sources below zero, a
parent filled by a row of another node, and results that depend on the order of the rows. -/
theorem crossed_configs_accepted :
    let validate := (load crossedStores (fun _ => false) fun _ => []).validateConfig [1, 2] ⟨2, 0⟩
    validate [⟨3, 2, 2 ^ 31 - 1, 1⟩, ⟨1, 1, 1, 0⟩] newcomer = .ok ∧
    (validate [⟨7, 2, 1, 0⟩] newcomer = .ok ∧
      (load crossedStores (fun _ => false) fun _ => []).costsIn [⟨7, 2, 1, 0⟩] 2 = [2] ∧
      (load crossedStores (fun _ => false) fun _ => []).sourceAmounts [⟨7, 2, 1, 0⟩] newcomer 2 =
        [1]) ∧
    (validate [] newcomer = .ok ∧
      (load crossedStores (fun _ => false) fun _ => []).sourceAmounts [] newcomer 3 = [-1]) ∧
    validate [⟨2, 1, 1, 0⟩, ⟨3, 2, 1, 0⟩] newcomer = .ok ∧
    (validate [⟨1, 1, 1, 0⟩, ⟨2, 1, 0, 0⟩, ⟨3, 2, 1, 0⟩] newcomer = .ok ∧
      validate [⟨2, 1, 0, 0⟩, ⟨1, 1, 1, 0⟩, ⟨3, 2, 1, 0⟩] newcomer ≠ .ok) ∧
    (validate [⟨4, 2, 1, 0⟩, ⟨5, 2, 1, 0⟩, ⟨6, 2, 1, 0⟩] newcomer = .ok ∧
      validate [⟨4, 2, 1, 0⟩, ⟨6, 2, 1, 0⟩, ⟨5, 2, 1, 0⟩] newcomer ≠ .ok) := by
  decide +kernel

theorem accepted_config_crossed :
    (load { crossedStores with costs := ⟨[⟨3, 2, 2⟩], by decide⟩ } (fun _ => false)
      fun _ => []).TalentRules [1, 2] [⟨1, 1, 1, 0⟩, ⟨3, 2, 1, 0⟩, ⟨7, 2, 1, 0⟩] newcomer ∧
    (load { crossedStores with costs := ⟨[⟨3, 2, 2⟩], by decide⟩ } (fun _ => false)
      fun _ => []).validateConfig [1, 2] ⟨2, 0⟩ [⟨7, 2, 1, 0⟩, ⟨3, 2, 1, 0⟩, ⟨1, 1, 1, 0⟩]
        newcomer = .ok := by
  have hok : (load { crossedStores with costs := ⟨[⟨3, 2, 2⟩], by decide⟩ } (fun _ => false)
      fun _ => []).validateConfig [1, 2] ⟨2, 0⟩ [⟨1, 1, 1, 0⟩, ⟨3, 2, 1, 0⟩, ⟨7, 2, 1, 0⟩]
        newcomer = .ok := by
    decide +kernel
  refine ⟨(accepted_config _ _ _ _ ⟨2, 0⟩ _ _).1 hok, ?_⟩
  refine ((accepted_config _ _ _ _ _ _ _).2 (by unfold DistinctRows; decide) ?_
    (orderFree_of_costs_nonneg (by decide +kernel)) _ (List.reverse_perm _).symm).mp hok
  unfold OwnParents OwnRows
  decide +kernel

end Accepted

end TraitTreeSkillLineIndex

end RustyCore.Traits
