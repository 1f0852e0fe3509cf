import Mathlib
import RustyCore.Model.Traits.Semantics

/-! # Spent and owned currencies

What a run over rows, costs and sources leaves in the amount of one currency: the saturating
sum of the amounts it adds there. -/

namespace RustyCore.Traits

variable {amounts : List ℤ} {start : ℤ}

/-! ## Machine integers -/

theorem tryU32_eq_some_iff {x : ℤ} {n : ℕ} : tryU32 x = some n ↔ x = n ∧ n < 2 ^ 31 := by
  rw [tryU32]
  split
  case isTrue h =>
    rw [Option.some.injEq]
    omega
  case isFalse h =>
    refine iff_of_false (by simp) fun hx => h ?_
    omega

theorem asI32_of_lt {n : ℕ} (h : n < 2 ^ 31) : asI32 n = n := by
  rw [asI32]
  split <;> omega

theorem satAdd_of_nonneg {x y : ℤ} (hx : 0 ≤ x) (hy : 0 ≤ y) :
    satAdd x y = min (x + y) (2 ^ 31 - 1) := by
  rw [satAdd, saturate]
  omega

/-! ## Saturating sums -/

/-- The sum of the numbers, added one after the other on 32 bits. -/
def satTotal (amounts : List ℤ) : ℤ := amounts.foldl satAdd 0

/-- Numbers whose saturating sum does not depend on their order: none of them is negative, or
none positive, or neither their gains nor their losses leave the 32 bits. -/
def OrderFree (amounts : List ℤ) : Prop :=
  (∀ x ∈ amounts, 0 ≤ x) ∨ (∀ x ∈ amounts, x ≤ 0) ∨
    ((amounts.map (max 0)).sum ≤ 2 ^ 31 - 1 ∧ -2 ^ 31 ≤ (amounts.map (min 0)).sum)

theorem foldl_satAdd_of_nonneg (h : ∀ x ∈ amounts, 0 ≤ x) (hstart : 0 ≤ start)
    (hfits : start ≤ 2 ^ 31 - 1) :
    amounts.foldl satAdd start = min (start + amounts.sum) (2 ^ 31 - 1) := by
  induction amounts generalizing start with
  | nil => simpa using hfits
  | cons x amounts ih =>
    have hx := h x List.mem_cons_self
    have hrest : 0 ≤ amounts.sum :=
      List.sum_nonneg fun y hy => h y (List.mem_cons_of_mem x hy)
    rw [List.foldl_cons, satAdd_of_nonneg hstart hx, ih (fun y hy =>
      h y (List.mem_cons_of_mem x hy)) (by omega) (by omega), List.sum_cons]
    omega

theorem foldl_satAdd_of_nonpos (h : ∀ x ∈ amounts, x ≤ 0) (hstart : start ≤ 0)
    (hfits : -2 ^ 31 ≤ start) :
    amounts.foldl satAdd start = max (start + amounts.sum) (-2 ^ 31) := by
  induction amounts generalizing start with
  | nil => simpa using hfits
  | cons x amounts ih =>
    have hx := h x List.mem_cons_self
    have hrest : amounts.sum ≤ 0 := by
      simpa using List.sum_le_card_nsmul amounts 0 fun y hy => h y (List.mem_cons_of_mem x hy)
    have hstep : satAdd start x = max (start + x) (-2 ^ 31) := by
      rw [satAdd, saturate]
      omega
    rw [List.foldl_cons, hstep, ih (fun y hy => h y (List.mem_cons_of_mem x hy)) (by omega)
      (by omega), List.sum_cons]
    omega

theorem foldl_satAdd_of_fits (hgains : start + (amounts.map (max 0)).sum ≤ 2 ^ 31 - 1)
    (hlosses : -2 ^ 31 ≤ start + (amounts.map (min 0)).sum) :
    amounts.foldl satAdd start = start + amounts.sum := by
  induction amounts generalizing start with
  | nil => simp
  | cons x amounts ih =>
    rw [List.map_cons, List.sum_cons] at hgains hlosses
    have hmore : 0 ≤ (amounts.map (max 0)).sum := by
      refine List.sum_nonneg fun y hy => ?_
      obtain ⟨z, -, rfl⟩ := List.mem_map.mp hy
      exact le_max_left 0 z
    have hless : (amounts.map (min 0)).sum ≤ 0 := by
      simpa using List.sum_le_card_nsmul (amounts.map (min 0)) 0 (by simp)
    have hstep : satAdd start x = start + x := by
      rw [satAdd, saturate]
      omega
    rw [List.foldl_cons, hstep, ih (by omega) (by omega), List.sum_cons, add_assoc]

theorem OrderFree.perm {amounts' : List ℤ} (h : OrderFree amounts) (hperm : amounts.Perm amounts') :
    satTotal amounts = satTotal amounts' := by
  have hsum := hperm.sum_eq
  rcases h with h | h | ⟨hgains, hlosses⟩
  · rw [satTotal, satTotal, foldl_satAdd_of_nonneg h le_rfl (by decide),
      foldl_satAdd_of_nonneg (fun x hx => h x (hperm.mem_iff.mpr hx)) le_rfl (by decide), hsum]
  · rw [satTotal, satTotal, foldl_satAdd_of_nonpos h le_rfl (by decide),
      foldl_satAdd_of_nonpos (fun x hx => h x (hperm.mem_iff.mpr hx)) le_rfl (by decide), hsum]
  · have hgains' := (hperm.map (max 0)).sum_eq ▸ hgains
    have hlosses' := (hperm.map (min 0)).sum_eq ▸ hlosses
    rw [satTotal, satTotal, foldl_satAdd_of_fits (by simpa using hgains) (by simpa using hlosses),
      foldl_satAdd_of_fits (by simpa using hgains') (by simpa using hlosses'), hsum]

/-! ## What the loading establishes -/

/-- Facts of every loaded index. -/
structure Loaded (index : TraitTreeSkillLineIndex) : Prop where
  /-- A currency is the same record on all trees. -/
  currency_eq : ∀ {treeId treeId' currency currency'},
    currency ∈ index.currenciesByTree.slice treeId →
      currency' ∈ index.currenciesByTree.slice treeId' → currency.id = currency'.id →
        currency = currency'
  /-- A tree lists a currency once. -/
  currency_nodup : ∀ treeId,
    ((index.currenciesByTree.slice treeId).map TraitCurrencyEntry.id).Nodup
  source_currency : ∀ {currencyId source},
    source ∈ index.currencySourcesByCurrency.slice currencyId →
      source.traitCurrencyId = currencyId
  entry_lt : ∀ {nodeId entryId}, entryId ∈ index.entriesForNode nodeId → entryId < 2 ^ 31

@[simp] theorem mem_sortById {α : Type} {idOf : α → ℕ} {rows : List α} {row : α} :
    row ∈ sortById idOf rows ↔ row ∈ rows := List.mem_insertionSort _

@[simp] theorem mem_sortDedup {ids : List ℕ} {id : ℕ} : id ∈ sortDedup ids ↔ id ∈ ids := by
  rw [sortDedup, List.mem_dedup, List.mem_insertionSort]

namespace TraitTreeSkillLineIndex

section Load

variable {stores : TraitStores} {skillLineExists : ℕ → Bool} {classIds : ℕ → List ℕ}

theorem mem_currenciesByTree_load {treeId : ℕ} {currency : TraitCurrencyEntry}
    (h : currency ∈ (load stores skillLineExists classIds).currenciesByTree.slice treeId) :
    stores.currencies.find currency.id = some currency := by
  rw [load, withTraitCurrencyData] at h
  dsimp only at h
  rw [Dict.slice_mapValues rfl] at h
  have hmem := mem_sortById.mp ((List.pwFilter_subset _) h)
  obtain ⟨row, -, hrow⟩ := Dict.mem_slice_pushRows.mp hmem
  obtain ⟨currencyId, -, hfind⟩ := Option.bind_eq_some_iff.mp hrow
  obtain ⟨currency', hcurrency, heq⟩ := Option.map_eq_some_iff.mp hfind
  obtain ⟨-, rfl⟩ := Prod.mk.inj heq
  rwa [KeyedTable.key_of_find hcurrency]

theorem loaded_load : Loaded (load stores skillLineExists classIds) where
  currency_eq h h' heq := by
    have hfind := mem_currenciesByTree_load h
    have hfind' := mem_currenciesByTree_load h'
    rw [heq, hfind'] at hfind
    exact (Option.some.inj hfind).symm
  currency_nodup treeId := by
    rw [load, withTraitCurrencyData]
    dsimp only
    rw [Dict.slice_mapValues rfl]
    exact List.pairwise_map.mpr (List.pairwise_pwFilter _)
  source_currency h := by
    rw [load, withTraitCurrencyData] at h
    dsimp only at h
    rw [Dict.slice_mapValues rfl, List.mem_insertionSort] at h
    obtain ⟨source', -, hsource⟩ := Dict.mem_slice_pushRows.mp h
    obtain ⟨hcurrency, rfl⟩ := Prod.mk.inj (Option.some.inj hsource)
    exact hcurrency
  entry_lt h := by
    rw [entriesForNode, load, withTraitCurrencyData, withTraitGraph] at h
    dsimp only at h
    rw [Dict.slice_mapValues rfl, mem_sortDedup] at h
    obtain ⟨link, -, hlink⟩ := Dict.mem_slice_pushRows.mp h
    obtain ⟨entryId, hentry, hlink⟩ := Option.bind_eq_some_iff.mp hlink
    split at hlink
    · obtain ⟨-, rfl⟩ := Prod.mk.inj (Option.some.inj hlink)
      exact (tryU32_eq_some_iff.mp hentry).2
    · cases hlink

end Load

/-! ## Runs over amounts -/

/-- A step that adds these amounts, one after the other, to that of the currency. -/
def Adds (currencyId : ℕ) (step : Dict ℕ ℤ → Dict ℕ ℤ) (amounts : List ℤ) : Prop :=
  ∀ d, amountAt (step d) currencyId = amounts.foldl satAdd (amountAt d currencyId)

section Adds

variable {c : ℕ}

theorem Adds.nothing : Adds c (fun d => d) [] := fun _ => rfl

theorem Adds.andThen {step step' : Dict ℕ ℤ → Dict ℕ ℤ} {amounts' : List ℤ}
    (h : Adds c step amounts) (h' : Adds c step' amounts') :
    Adds c (fun d => step' (step d)) (amounts ++ amounts') := by
  intro d
  rw [h', h, List.foldl_append]

theorem Adds.foldl {α : Type} {step : Dict ℕ ℤ → α → Dict ℕ ℤ} {amounts : α → List ℤ}
    {l : List α} (h : ∀ x ∈ l, Adds c (fun d => step d x) (amounts x)) :
    Adds c (fun d => l.foldl step d) (l.flatMap amounts) := by
  induction l with
  | nil => exact Adds.nothing
  | cons x l ih =>
    rw [List.flatMap_cons]
    exact (h x List.mem_cons_self).andThen (ih fun y hy => h y (List.mem_cons_of_mem x hy))

theorem Adds.addAmount (k : ℕ) (amount : ℤ) :
    Adds c (fun d => addAmount d k amount) (if k = c then [amount] else []) := by
  intro d
  change ((Traits.addAmount d k amount).lookup c).getD 0 = _
  rw [Traits.addAmount, Dict.lookup_insert_eq]
  by_cases h : k = c
  · subst h
    simp
  · rw [if_neg h, if_neg (Ne.symm h)]
    rfl

theorem Adds.satTotal_eq {step : Dict ℕ ℤ → Dict ℕ ℤ} (h : Adds c step amounts) :
    amountAt (step ∅) c = satTotal amounts := h ∅

end Adds

/-! ## Costs -/

section Costs

variable (index : TraitTreeSkillLineIndex)

/-- The costs that a row pays for each of its ranks: those of the groups of its node, of its
entry, of its node and of its tree. -/
def costIdsOf (entry : TraitConfigEntry) : List ℕ :=
  match tryU32 entry.traitNodeId with
  | none => []
  | some nodeId =>
    match index.nodes.find nodeId with
    | none => []
    | some node =>
      (index.groupsForNode nodeId).flatMap index.costIdsForGroup ++
      (match tryU32 entry.traitNodeEntryId with
        | some entryId =>
          if (index.entriesForNode nodeId).contains entryId then
            index.costIdsForEntry entryId
          else []
        | none => []) ++
      index.costIdsForNode nodeId ++ index.costIdsForTree node.traitTreeId

def costAmount (currencyId : ℕ) (rank : ℤ) (costId : ℕ) : List ℤ :=
  match index.costs.find costId with
  | some cost =>
    if tryU32 cost.traitCurrencyId = some currencyId then [satMul cost.amount rank] else []
  | none => []

/-- What the rows spend of a currency. -/
def costsIn (entries : List TraitConfigEntry) (currencyId : ℕ) : List ℤ :=
  entries.flatMap fun entry =>
    (index.costIdsOf entry).flatMap (index.costAmount currencyId (max entry.rank 0))

variable {index} {c : ℕ}

theorem Adds.addTraitCosts (rank : ℤ) (costIds : List ℕ) :
    Adds c (index.addTraitCosts costIds rank) (costIds.flatMap (index.costAmount c rank)) := by
  refine Adds.foldl fun costId _ => ?_
  rw [costAmount]
  cases index.costs.find costId with
  | none => exact Adds.nothing
  | some cost =>
    dsimp only
    rw [show (fun d => addTraitCost d cost rank) = fun d => (tryU32 cost.traitCurrencyId).elim d
      fun k => Traits.addAmount d k (satMul cost.amount rank) by
        funext d
        rw [addTraitCost]
        cases tryU32 cost.traitCurrencyId <;> rfl]
    cases tryU32 cost.traitCurrencyId with
    | none => exact Adds.nothing
    | some k => simpa using Adds.addAmount k (satMul cost.amount rank)

theorem amountAt_spentCurrencies (entries : List TraitConfigEntry) :
    amountAt (index.spentCurrencies entries) c = satTotal (index.costsIn entries c) := by
  refine Adds.satTotal_eq (Adds.foldl fun entry _ => ?_)
  rw [costIdsOf]
  cases tryU32 entry.traitNodeId with
  | none => exact Adds.nothing
  | some nodeId =>
    dsimp only
    cases index.nodes.find nodeId with
    | none => exact Adds.nothing
    | some node =>
      dsimp only
      simp only [List.flatMap_append, List.flatMap_assoc]
      refine Adds.andThen (Adds.andThen ?_ (Adds.addTraitCosts _ _)) (Adds.addTraitCosts _ _)
      have hgroups : Adds c (fun spent => (index.groupsForNode nodeId).foldl
          (fun spent groupId => index.addTraitCosts (index.costIdsForGroup groupId)
            (max entry.rank 0) spent) spent)
          ((index.groupsForNode nodeId).flatMap fun groupId =>
            (index.costIdsForGroup groupId).flatMap (index.costAmount c (max entry.rank 0))) :=
        Adds.foldl fun groupId _ => Adds.addTraitCosts _ _
      cases tryU32 entry.traitNodeEntryId with
      | none => simpa using hgroups
      | some entryId =>
        dsimp only
        by_cases hentry : (index.entriesForNode nodeId).contains entryId
        · simp only [if_pos hentry]
          exact hgroups.andThen (Adds.addTraitCosts _ _)
        · simp only [if_neg hentry]
          simpa using hgroups

end Costs

/-- Whether a condition is met depends on the spent amounts alone. -/
theorem conditionMeets_congr {index : TraitTreeSkillLineIndex} {kind : ConfigKind}
    {facts : TraitPlayerFacts} {spent spent' : Dict ℕ ℤ} (condition : TraitCondEntry)
    (h : ∀ c, amountAt spent c = amountAt spent' c) :
    index.conditionMeets kind condition facts spent =
      index.conditionMeets kind condition facts spent' := by
  simp only [conditionMeets, h]

/-! ## Incomes -/

section Incomes

variable (index : TraitTreeSkillLineIndex)

/-- A currency of some tree that is paid by its sources. -/
def IsSourced (currencyId : ℕ) : Prop :=
  ∃ treeId, ∃ currency ∈ index.currenciesByTree.slice treeId,
    currency.id = currencyId ∧ currency.currencyType = 2

/-- What the sources pay for which the player and the config qualify, each once. -/
def sourceAmounts (entries : List TraitConfigEntry) (facts : TraitPlayerFacts)
    (currencyId : ℕ) : List ℤ :=
  ((index.currencySourcesByCurrency.slice currencyId).filter
    (sourceQualifies entries facts)).map TraitCurrencySourceEntry.amount

/-- What the sources pay, once for each tree that lists the currency. -/
def incomesIn (treeIds : List ℕ) (entries : List TraitConfigEntry) (facts : TraitPlayerFacts)
    (currencyId : ℕ) : List ℤ :=
  treeIds.flatMap fun treeId =>
    if currencyId ∈ (index.currenciesByTree.slice treeId).map TraitCurrencyEntry.id then
      index.sourceAmounts entries facts currencyId
    else []

variable {index} {c : ℕ}

theorem flatMap_ite_filter {α : Type} (p : α → Bool) (f : α → ℤ) (l : List α) :
    (l.flatMap fun x => if p x then [f x] else []) = (l.filter p).map f := by
  induction l with
  | nil => rfl
  | cons x l ih =>
    rw [List.flatMap_cons, ih, List.filter_cons]
    cases p x <;> rfl

theorem flatMap_ite_of_nodup {α : Type} {key : α → ℕ} {l : List α} (h : (l.map key).Nodup)
    (amounts : List ℤ) :
    (l.flatMap fun x => if key x = c then amounts else []) =
      if c ∈ l.map key then amounts else [] := by
  induction l with
  | nil => rfl
  | cons x l ih =>
    rw [List.map_cons, List.nodup_cons] at h
    rw [List.flatMap_cons, ih h.2, List.map_cons]
    by_cases hx : key x = c
    · rw [if_pos hx, if_neg (hx ▸ h.1), if_pos (hx ▸ List.mem_cons_self), List.append_nil]
    · rw [if_neg hx, List.nil_append]
      simp [Ne.symm hx]

theorem Adds.addOwnedCurrency (hindex : Loaded index) (entries : List TraitConfigEntry)
    (facts : TraitPlayerFacts) {currency : TraitCurrencyEntry}
    (htype : currency.id = c → currency.currencyType = 2) :
    Adds c (fun owned => index.addOwnedCurrency entries facts owned currency)
      (if currency.id = c then index.sourceAmounts entries facts c else []) := by
  have hother : ∀ amount, currency.currencyType ≠ 2 →
      Adds c (fun owned => Traits.addAmount owned currency.id amount)
        (if currency.id = c then index.sourceAmounts entries facts c else []) := by
    intro amount hcurrency
    have hne : currency.id ≠ c := fun h => hcurrency (htype h)
    have hadds := Adds.addAmount (c := c) currency.id amount
    rw [if_neg hne] at hadds ⊢
    exact hadds
  unfold TraitTreeSkillLineIndex.addOwnedCurrency
  split
  case isTrue h => exact hother _ (by rw [h]; decide)
  split
  case isTrue h => exact hother _ (by rw [h]; decide)
  split
  case isFalse h =>
    rw [if_neg fun hc => h (htype hc)]
    exact Adds.nothing
  case isTrue =>
    have hsource : ∀ source ∈ index.currencySourcesByCurrency.slice currency.id,
        Adds c (fun owned => if sourceQualifies entries facts source then
            Traits.addAmount owned source.traitCurrencyId source.amount
          else owned)
          (if sourceQualifies entries facts source then
            if currency.id = c then [source.amount] else []
          else []) := by
      intro source hmem
      split
      · rw [hindex.source_currency hmem]
        exact Adds.addAmount _ _
      · exact Adds.nothing
    have hall := Adds.foldl hsource
    by_cases hc : currency.id = c
    · subst hc
      simp only [if_true] at hall ⊢
      rwa [flatMap_ite_filter] at hall
    · simp only [if_neg hc, ite_self] at hall ⊢
      rwa [List.flatMap_eq_nil_iff.mpr fun _ _ => rfl] at hall

theorem amountAt_ownedCurrencies (hindex : Loaded index) (hc : index.IsSourced c)
    (treeIds : List ℕ) (entries : List TraitConfigEntry) (facts : TraitPlayerFacts) :
    amountAt (index.ownedCurrencies treeIds entries facts) c =
      satTotal (index.incomesIn treeIds entries facts c) := by
  refine Adds.satTotal_eq (Adds.foldl fun treeId _ => ?_)
  rw [← flatMap_ite_of_nodup (hindex.currency_nodup treeId)]
  refine Adds.foldl fun currency hcurrency => Adds.addOwnedCurrency hindex entries facts ?_
  intro hid
  obtain ⟨treeId', currency', hcurrency', hid', htype⟩ := hc
  rwa [hindex.currency_eq hcurrency hcurrency' (hid.trans hid'.symm)]

end Incomes

end TraitTreeSkillLineIndex

end RustyCore.Traits
