import RustyCore.Verification.Loot.FailedOperations

/-! # The looted test against the items

The looted test of a prepared pool agrees with the marks of its items exactly when the
clamped count equals the number of claims and every claim can be remembered. -/

namespace RustyCore.Loot

variable {tally : Tally} {entry : LootEntry}

/-- Nothing is left in the pool for anybody an item is for. -/
def CreatureLoot.FullyLooted (loot : CreatureLoot) : Prop :=
  loot.coins = 0 ∧ ∀ entry ∈ loot.items,
    if entry.flags.freeforall then ∀ player ∈ entry.allowedLooters, player ∈ entry.ffaLootedBy
    else entry.allowedLooters ≠ [] → entry.taken = true

instance (loot : CreatureLoot) : Decidable loot.FullyLooted := by
  unfold CreatureLoot.FullyLooted
  infer_instance

/-- A reservation can stand behind the commit: the item a search finds is for its player. -/
def PoolCommit.Allowed (loot : CreatureLoot) : PoolCommit → Prop
  | .money => True
  | .item lootListId player => ∀ entry, loot.itemLikeCpp lootListId = some entry →
      entry.hasAllowedLooterLikeCpp player = true

instance (loot : CreatureLoot) (commit : PoolCommit) : Decidable (commit.Allowed loot) :=
  match commit with
  | .money => .isTrue trivial
  | .item lootListId player =>
    decidable_of_iff ((loot.itemLikeCpp lootListId).all
        (fun entry => entry.hasAllowedLooterLikeCpp player) = true)
      (by cases h : loot.itemLikeCpp lootListId <;> simp [PoolCommit.Allowed, h])

/-- How often the preparation for `looters` counts this untouched item. -/
def LootEntry.countedFor (entry : LootEntry) (looters : List ObjectGuid) : ℕ :=
  if entry.flags.freeforall then
    entry.allowedLooters.length +
      (looters.filter (fun looter => !entry.allowedLooters.contains looter)).length
  else if entry.allowedLooters.isEmpty && looters.isEmpty then 0 else 1

/-- How many different players can claim this untouched item. -/
def LootEntry.claimsFor (entry : LootEntry) (looters : List ObjectGuid) : ℕ :=
  if entry.flags.freeforall then (entry.allowedLooters ++ looters).dedup.length
  else if entry.allowedLooters.isEmpty && looters.isEmpty then 0 else 1

/-- Every claim can be remembered, and the 8-bit count holds each of them once. -/
def CountFaithful (loot : CreatureLoot) (looters : List ObjectGuid) : Prop :=
  (∀ entry ∈ loot.items, entry.flags.freeforall = true →
    ObjectGuid.empty ∉ entry.allowedLooters) ∧
  min 255 (loot.items.map (fun entry => entry.countedFor looters)).sum =
    (loot.items.map (fun entry => entry.claimsFor looters)).sum

instance (loot : CreatureLoot) (looters : List ObjectGuid) :
    Decidable (CountFaithful loot looters) := by
  unfold CountFaithful
  infer_instance

/-- A pool before anything was looted from it, and the players it is prepared for. -/
structure Preparable (loot : CreatureLoot) (looters : List ObjectGuid) : Prop where
  ids : (loot.items.map LootEntry.lootListId).Nodup
  untouched : ∀ entry ∈ loot.items, entry.taken = false ∧ entry.ffaLootedBy = []
  looters_nodup : looters.Nodup
  looters_real : ∀ looter ∈ looters, looter.isEmpty = false

/-! ## What the tally says about the pool -/

theorem fullyLooted_iff (loot : CreatureLoot) :
    loot.FullyLooted ↔ loot.tally.coins = 0 ∧ loot.tally.left = 0 := by
  unfold CreatureLoot.FullyLooted CreatureLoot.tally Tally.left
  rw [List.sum_eq_zero_iff_forall_eq_nat]
  simp only [List.map_map, List.forall_mem_map, Function.comp, ← ItemView.done_iff]
  rfl

theorem isLootedLikeCpp_iff (loot : CreatureLoot) :
    loot.isLootedLikeCpp = true ↔ loot.tally.coins = 0 ∧ loot.tally.count = 0 := by
  simp [CreatureLoot.isLootedLikeCpp, CreatureLoot.tally]

theorem PoolCommit.allowed_iff {loot : CreatureLoot} (hids : (loot.tally.shape.map Prod.fst).Nodup)
    (commit : PoolCommit) : commit.Allowed loot ↔ commit.Permitted loot.tally.shape := by
  cases commit with
  | money => exact Iff.rfl
  | item lootListId player =>
    simp only [PoolCommit.Allowed, PoolCommit.Permitted, LootEntry.hasAllowedLooterLikeCpp,
      List.contains_eq_mem, decide_eq_true_eq]
    constructor
    · rintro h looters ⟨ffa, hshape⟩
      obtain ⟨item, hitem, heq⟩ := List.mem_map.mp hshape
      obtain ⟨rfl, -, rfl⟩ : item.1 = lootListId ∧ item.2.freeforall = ffa ∧
          item.2.allowedLooters = looters := by simpa using heq
      have hfind := find?_of_nodup (by simpa [Tally.shape, Function.comp_def] using hids) hitem
      rw [find?_tally, Option.map_eq_some_iff] at hfind
      obtain ⟨entry, hentry, rfl⟩ := hfind
      exact h entry hentry
    · intro h entry hentry
      have hid : entry.lootListId = lootListId := by simpa using List.find?_some hentry
      refine h entry.allowedLooters ⟨entry.flags.freeforall, ?_⟩
      rw [← hid]
      exact List.mem_map_of_mem (List.mem_map_of_mem (List.mem_of_find?_eq_some hentry))

/-! ## Tallies that agree -/

/-- After any permitted commits, the count says nothing is left exactly when nothing is. -/
def Tally.Agrees (tally : Tally) : Prop :=
  ∀ commits : List PoolCommit, (∀ commit ∈ commits, commit.Permitted tally.shape) →
    ((run Tally.apply tally commits).coins = 0 ∧ (run Tally.apply tally commits).count = 0 ↔
      (run Tally.apply tally commits).coins = 0 ∧ (run Tally.apply tally commits).left = 0)

theorem Tally.agrees_of_count_eq (hwf : tally.WellFormed) (hcount : tally.count = tally.left) :
    tally.Agrees := by
  intro commits hpermitted
  obtain ⟨paid, hleft, hrest⟩ := Tally.left_run hwf hpermitted
  have hsame : (run Tally.apply tally commits).count = (run Tally.apply tally commits).left := by
    omega
  rw [hsame]

/-- If the count differs, take as many claims as the smaller number: one is used up, the
other is not. -/
theorem Tally.Agrees.count_eq (hwf : tally.WellFormed) (h : tally.Agrees) :
    tally.count = tally.left := by
  obtain ⟨commits, hpermitted, hleft, hcount⟩ :=
    Tally.exists_run hwf (Nat.min_le_right tally.count tally.left)
  have hmoney : ∀ commit ∈ commits ++ [PoolCommit.money], commit.Permitted tally.shape := by
    intro commit hcommit
    rcases List.mem_append.mp hcommit with hcommit | hcommit
    · exact hpermitted commit hcommit
    · rw [List.mem_singleton.mp hcommit]
      trivial
  have hagree := h _ hmoney
  rw [run_concat] at hagree
  have hiff : (run Tally.apply tally commits).count = 0 ↔
      (run Tally.apply tally commits).left = 0 := by
    simpa [Tally.apply, Tally.left] using hagree
  omega

/-- A mark of the empty player is not remembered, but it lowers the count. -/
theorem Tally.apply_item_empty {item : ℕ × ItemView}
    (hfind : tally.items.find? (fun other => other.1 == item.1) = some item)
    (hffa : item.2.freeforall = true) (hnew : ObjectGuid.empty ∉ item.2.ffaLootedBy) :
    tally.apply (.item item.1 ObjectGuid.empty) = { tally with count := tally.count - 1 } := by
  have hmark : item.2.mark ObjectGuid.empty = item.2 := by simp [ItemView.mark, hffa]
  obtain ⟨front, back, hitems, -, -, hmod⟩ := modifyFirst_eq_of_find?_eq_some
    (fun item : ℕ × ItemView => (item.1, item.2.mark ObjectGuid.empty)) hfind
  rw [Tally.apply_of_free hfind (by simpa [ItemView.IsLooted, hffa] using hnew), Tally.take, hmod,
    hmark, ← hitems]

theorem Tally.run_item_empty {item : ℕ × ItemView}
    (hfind : tally.items.find? (fun other => other.1 == item.1) = some item)
    (hffa : item.2.freeforall = true) (hnew : ObjectGuid.empty ∉ item.2.ffaLootedBy) (n : ℕ) :
    run Tally.apply tally (List.replicate n (.item item.1 ObjectGuid.empty)) =
      { tally with count := tally.count - n } := by
  induction n with
  | zero => rfl
  | succ n ih =>
    rw [List.replicate_succ', run_concat, ih]
    exact Tally.apply_item_empty hfind hffa hnew

/-- Repeating a claim of the empty player uses the count up without taking anything. -/
theorem Tally.Agrees.proper (hids : (tally.items.map Prod.fst).Nodup)
    (hnew : ∀ item ∈ tally.items, ObjectGuid.empty ∉ item.2.ffaLootedBy) (h : tally.Agrees) :
    ∀ item ∈ tally.items, item.2.Proper := by
  intro item hitem hffa hempty
  have hfind := find?_of_nodup hids hitem
  have hclaim : (PoolCommit.item item.1 ObjectGuid.empty).Permitted tally.shape := by
    rintro looters ⟨ffa, hshape⟩
    obtain ⟨other, hother, heq⟩ := List.mem_map.mp hshape
    simp only [Prod.mk.injEq] at heq
    have hsame := find?_of_nodup hids hother
    rw [heq.1, hfind] at hsame
    rw [← heq.2.2, ← Option.some.inj hsame]
    exact hempty
  have hagree := h (List.replicate tally.count (.item item.1 ObjectGuid.empty) ++ [.money]) (by
    intro commit hcommit
    rcases List.mem_append.mp hcommit with hcommit | hcommit
    · rw [List.eq_of_mem_replicate hcommit]
      exact hclaim
    · rw [List.mem_singleton.mp hcommit]
      trivial)
  rw [run_concat, Tally.run_item_empty hfind hffa (hnew item hitem)] at hagree
  have hleft : tally.left = 0 := by simpa [Tally.apply, Tally.left] using hagree
  have hdone : item.2.Done := by
    rw [ItemView.done_iff]
    exact List.sum_eq_zero_iff_forall_eq_nat.mp hleft _ (List.mem_map_of_mem hitem)
  rw [ItemView.Done, if_pos hffa] at hdone
  exact hnew item hitem (hdone _ hempty)

theorem Tally.agrees_iff (hids : (tally.items.map Prod.fst).Nodup)
    (hnew : ∀ item ∈ tally.items, ObjectGuid.empty ∉ item.2.ffaLootedBy) :
    tally.Agrees ↔ (∀ item ∈ tally.items, item.2.Proper) ∧ tally.count = tally.left := by
  have hshape : (tally.shape.map Prod.fst).Nodup := by
    simpa [Tally.shape, Function.comp_def] using hids
  constructor
  · intro h
    exact ⟨h.proper hids hnew, h.count_eq ⟨hshape, h.proper hids hnew⟩⟩
  · rintro ⟨hproper, hcount⟩
    exact Tally.agrees_of_count_eq ⟨hshape, hproper⟩ hcount

/-! ## The prepared pool -/

variable {loot : CreatureLoot} {looters : List ObjectGuid}

theorem Preparable.allowedLooters_eq (h : Preparable loot looters)
    (hffa : entry.flags.freeforall = true) :
    (looters.foldl ItemView.allowFor entry.view).allowedLooters =
      entry.allowedLooters ++ looters.filter (fun looter => !entry.allowedLooters.contains looter) :=
  ItemView.foldl_allowFor_of_freeforall (show entry.view.freeforall = true from hffa) h.looters_nodup
    h.looters_real

theorem Preparable.isEmpty_allowedLooters (h : Preparable loot looters)
    (hffa : entry.flags.freeforall = false) :
    (looters.foldl ItemView.allowFor entry.view).allowedLooters.isEmpty =
      (entry.allowedLooters.isEmpty && looters.isEmpty) := by
  rw [ItemView.foldl_allowFor_of_not_freeforall (show entry.view.freeforall = false from hffa)
    h.looters_real]
  have hallowed : entry.view.allowedLooters = entry.allowedLooters := rfl
  rw [hallowed]
  cases entry.allowedLooters <;> cases looters <;> simp

theorem Preparable.untouched_admitted (h : Preparable loot looters) (hentry : entry ∈ loot.items) :
    (looters.foldl ItemView.allowFor entry.view).Untouched := by
  have huntouched : entry.view.Untouched := h.untouched entry hentry
  exact huntouched.foldl_allowFor looters

theorem Preparable.counted_admitted (h : Preparable loot looters) (entry : LootEntry) :
    (looters.foldl ItemView.allowFor entry.view).counted = entry.countedFor looters := by
  have hview : entry.view.freeforall = entry.flags.freeforall := rfl
  unfold ItemView.counted LootEntry.countedFor
  rw [ItemView.foldl_allowFor_freeforall, hview]
  cases hffa : entry.flags.freeforall with
  | true => simp only [h.allowedLooters_eq hffa, if_true, List.length_append]
  | false => simp only [h.isEmpty_allowedLooters hffa, Bool.false_eq_true, if_false]

theorem Preparable.left_admitted (h : Preparable loot looters) (hentry : entry ∈ loot.items) :
    (looters.foldl ItemView.allowFor entry.view).left = entry.claimsFor looters := by
  have hview : entry.view.freeforall = entry.flags.freeforall := rfl
  obtain ⟨htaken, hnew⟩ := h.untouched_admitted hentry
  unfold ItemView.left LootEntry.claimsFor
  rw [ItemView.foldl_allowFor_freeforall, hview, htaken, hnew]
  cases hffa : entry.flags.freeforall with
  | true =>
    have hsame : (entry.allowedLooters ++
          looters.filter (fun looter => !entry.allowedLooters.contains looter)).toFinset =
        (entry.allowedLooters ++ looters).toFinset := by
      ext player
      by_cases hmem : player ∈ entry.allowedLooters <;> simp [hmem]
    have hcard := congrArg Finset.card hsame
    rw [List.card_toFinset, List.card_toFinset] at hcard
    simpa [h.allowedLooters_eq hffa] using hcard
  | false => simp [h.isEmpty_allowedLooters hffa]

theorem Preparable.tally_prepare (h : Preparable loot looters) :
    (prepareRepresentedSharedCreatureLootGenerationLikeCpp loot looters).tally =
      { coins := loot.coins
        count := min 255 (loot.items.map (fun entry => entry.countedFor looters)).sum
        items := admitted loot looters } := by
  rw [RustyCore.Loot.tally_prepare loot looters (fun entry hentry => h.untouched entry hentry)]
  have hcounted : (admitted loot looters).map (fun item => item.2.counted) =
      loot.items.map (fun entry => entry.countedFor looters) := by
    rw [admitted, List.map_map]
    exact List.map_congr_left fun entry _ => h.counted_admitted entry
  rw [hcounted]

theorem Preparable.left_prepare (h : Preparable loot looters) :
    (prepareRepresentedSharedCreatureLootGenerationLikeCpp loot looters).tally.left =
      (loot.items.map (fun entry => entry.claimsFor looters)).sum := by
  rw [h.tally_prepare, Tally.left, admitted, List.map_map]
  exact congrArg List.sum (List.map_congr_left fun entry hentry => h.left_admitted hentry)

theorem Preparable.proper_iff (h : Preparable loot looters) :
    (∀ item ∈ admitted loot looters, item.2.Proper) ↔
      ∀ entry ∈ loot.items, entry.flags.freeforall = true →
        ObjectGuid.empty ∉ entry.allowedLooters := by
  have hreal : ObjectGuid.empty ∉ looters := fun hmem => by
    simpa using h.looters_real _ hmem
  unfold admitted
  rw [List.forall_mem_map]
  refine forall₂_congr fun entry _ => ?_
  unfold ItemView.Proper
  rw [ItemView.foldl_allowFor_freeforall]
  refine imp_congr_right fun hffa => ?_
  rw [h.allowedLooters_eq hffa]
  simp [hreal]

/-- The looted test agrees with the items after every sequence of claims on a prepared
pool if and only if the count is faithful. -/
theorem looted_agrees_iff (loot : CreatureLoot) (looters : List ObjectGuid)
    (h : Preparable loot looters) :
    (∀ commits : List PoolCommit,
      (∀ commit ∈ commits, commit.Allowed
        (prepareRepresentedSharedCreatureLootGenerationLikeCpp loot looters)) →
      ((run PoolCommit.apply (prepareRepresentedSharedCreatureLootGenerationLikeCpp loot looters)
          commits).isLootedLikeCpp = true ↔
        (run PoolCommit.apply (prepareRepresentedSharedCreatureLootGenerationLikeCpp loot looters)
          commits).FullyLooted)) ↔
      CountFaithful loot looters := by
  have htally := h.tally_prepare
  have hleft := h.left_prepare
  have hids : ((prepareRepresentedSharedCreatureLootGenerationLikeCpp loot looters).tally.items.map
      Prod.fst).Nodup := by
    rw [htally]
    simpa [admitted, Function.comp_def] using h.ids
  have hshape : ((prepareRepresentedSharedCreatureLootGenerationLikeCpp
      loot looters).tally.shape.map Prod.fst).Nodup := by
    simpa [Tally.shape, Function.comp_def] using hids
  have hnew : ∀ item ∈ (prepareRepresentedSharedCreatureLootGenerationLikeCpp
      loot looters).tally.items, ObjectGuid.empty ∉ item.2.ffaLootedBy := by
    rw [htally]
    intro item hitem
    obtain ⟨entry, hentry, rfl⟩ := List.mem_map.mp hitem
    simp [(h.untouched_admitted hentry).2]
  have hagrees := Tally.agrees_iff hids hnew
  rw [hleft, htally, h.proper_iff] at hagrees
  rw [CountFaithful, ← hagrees, Tally.Agrees]
  refine forall_congr' fun commits => ?_
  simp only [isLootedLikeCpp_iff, fullyLooted_iff, tally_run, PoolCommit.allowed_iff hshape, htally]

/-! ## A large raid -/

/-- A free-for-all quest item nobody was named for yet. -/
def questDrop (lootListId : ℕ) : LootEntry where
  lootListId := lootListId
  itemId := 12345
  quantity := 1
  randomPropertiesId := 0
  randomPropertiesSeed := 0
  itemContext := 0
  flags := { freeforall := true }
  allowedLooters := []
  rollWinner := ObjectGuid.empty
  ffaLootedBy := []
  taken := false

def questPool (items : ℕ) : CreatureLoot where
  lootGuid := ⟨1, 1⟩
  coins := 10
  unlootedCount := 0
  lootType := 1
  dungeonEncounterId := 0
  lootMethod := 0
  lootMaster := ObjectGuid.empty
  roundRobinPlayer := ObjectGuid.empty
  playerFfaItems := []
  playersLooting := []
  allowedLooters := []
  items := (List.range items).map questDrop
  lootedByPlayer := false

def raid (players : ℕ) : List ObjectGuid :=
  (List.range players).map fun i => ObjectGuid.createPlayer 1 (i + 1)

/-- In a party of five the count of three quest items is faithful. -/
theorem looted_agrees_party :
    CountFaithful (questPool 3) (raid 5) ∧
    ∀ commits : List PoolCommit,
      (∀ commit ∈ commits, commit.Allowed
        (prepareRepresentedSharedCreatureLootGenerationLikeCpp (questPool 3) (raid 5))) →
      ((run PoolCommit.apply (prepareRepresentedSharedCreatureLootGenerationLikeCpp
          (questPool 3) (raid 5)) commits).isLootedLikeCpp = true ↔
        (run PoolCommit.apply (prepareRepresentedSharedCreatureLootGenerationLikeCpp
          (questPool 3) (raid 5)) commits).FullyLooted) :=
  ⟨by decide, (looted_agrees_iff (questPool 3) (raid 5)
    ⟨by decide, by decide, by decide, by decide⟩).mpr (by decide)⟩

/-- The claims on six of seven items by all 40 raiders, on the seventh by 15, and the coins. -/
def raidCommits : List PoolCommit :=
  ((List.range 7).flatMap fun id => (raid 40).map (PoolCommit.item id)).take 255 ++ [.money]

/-- The count of 280 claims stops at 255, so 25 raiders are left without their item when
the pool tests as looted. -/
theorem looted_with_claims_left :
    Preparable (questPool 7) (raid 40) ∧ (questPool 7).items.length ≤ 18 ∧
      (∀ commit ∈ raidCommits, commit.Allowed
        (prepareRepresentedSharedCreatureLootGenerationLikeCpp (questPool 7) (raid 40))) ∧
      (run PoolCommit.apply (prepareRepresentedSharedCreatureLootGenerationLikeCpp
        (questPool 7) (raid 40)) raidCommits).isLootedLikeCpp = true ∧
      ¬ (run PoolCommit.apply (prepareRepresentedSharedCreatureLootGenerationLikeCpp
        (questPool 7) (raid 40)) raidCommits).FullyLooted :=
  ⟨⟨by decide, by decide, by decide, by decide⟩,
    by decide, by decide +kernel, by decide +kernel, by decide +kernel⟩

end RustyCore.Loot
