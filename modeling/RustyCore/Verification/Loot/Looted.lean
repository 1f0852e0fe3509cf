import RustyCore.Verification.Loot.PoolView

/-! # The count of what is left

The looted test reads an 8-bit count that is kept beside the marks of the items. The
tally of a pool keeps the coins, the count and the marks; the prepared count agrees
with the marks exactly when it has not saturated and counts each claim once. -/

namespace RustyCore.Loot

variable {item : ItemView} {player : ObjectGuid}

/-- Coins, count and marks of a pool. -/
structure Tally where
  coins : ℕ
  count : ℕ
  items : List (ℕ × ItemView)

def LootEntry.core (entry : LootEntry) : ℕ × ItemView := (entry.lootListId, entry.view)

def CreatureLoot.tally (loot : CreatureLoot) : Tally where
  coins := loot.coins
  count := loot.unlootedCount
  items := loot.items.map LootEntry.core

/-! ## Items -/

namespace ItemView

instance (item : ItemView) (player : ObjectGuid) : Decidable (item.IsLooted player) := by
  unfold IsLooted
  infer_instance

/-- Nothing is left of the item for anybody it is for. -/
def Done (item : ItemView) : Prop :=
  if item.freeforall then ∀ player ∈ item.allowedLooters, player ∈ item.ffaLootedBy
  else item.allowedLooters ≠ [] → item.taken = true

/-- How many claims the item still has. -/
def left (item : ItemView) : ℕ :=
  if item.freeforall then
    (item.allowedLooters.dedup.filter (fun player => !item.ffaLootedBy.contains player)).length
  else if item.allowedLooters.isEmpty || item.taken then 0 else 1

/-- How often the preparation counts an untouched item. -/
def counted (item : ItemView) : ℕ :=
  if item.freeforall then item.allowedLooters.length
  else if item.allowedLooters.isEmpty then 0 else 1

/-- A mark of anyone the item is for is remembered. -/
def Proper (item : ItemView) : Prop :=
  item.freeforall = true → ObjectGuid.empty ∉ item.allowedLooters

def allowFor (item : ItemView) (player : ObjectGuid) : ItemView :=
  if item.allowedLooters.isEmpty || item.freeforall then
    if !player.isEmpty && !item.allowedLooters.contains player then
      { item with allowedLooters := item.allowedLooters ++ [player] }
    else item
  else item

theorem done_iff : item.Done ↔ item.left = 0 := by
  unfold Done left
  by_cases hffa : item.freeforall = true
  · simp only [hffa, if_true, List.length_eq_zero_iff, List.filter_eq_nil_iff, List.mem_dedup]
    simp
  · simp only [hffa, Bool.false_eq_true, if_false, List.isEmpty_iff, Bool.or_eq_true]
    by_cases hnil : item.allowedLooters = [] <;> by_cases htaken : item.taken = true <;>
      simp [hnil, htaken]

theorem left_mark (hproper : item.Proper) (hallowed : player ∈ item.allowedLooters)
    (hfree : ¬ item.IsLooted player) : (item.mark player).left + 1 = item.left := by
  unfold IsLooted at hfree
  unfold left
  rw [mark_freeforall, mark_allowedLooters]
  by_cases hffa : item.freeforall = true
  · rw [if_pos hffa] at hfree ⊢
    rw [if_pos hffa]
    have hne : player ≠ ObjectGuid.empty := fun h => hproper hffa (h ▸ hallowed)
    -- A mark removes exactly its player from the claims that are left.
    have hmark : (fun other => !(item.mark player).ffaLootedBy.contains other) =
        fun other => other != player && !item.ffaLootedBy.contains other := by
      funext other
      rw [Bool.eq_iff_iff]
      simp only [Bool.not_eq_true', List.contains_eq_mem, decide_eq_false_iff_not,
        mem_mark_ffaLootedBy, hffa, ne_eq, hne, not_false_eq_true, true_and, not_or,
        Bool.and_eq_true, bne_iff_ne]
      exact and_comm
    have hmem : player ∈ item.allowedLooters.dedup.filter
        (fun other => !item.ffaLootedBy.contains other) := by
      simpa [List.mem_filter] using ⟨hallowed, hfree⟩
    have hnodup := (item.allowedLooters.nodup_dedup).filter
      (fun other => !item.ffaLootedBy.contains other)
    rw [hmark, ← List.filter_filter, ← hnodup.erase_eq_filter, List.length_erase_of_mem hmem]
    have := List.length_pos_of_mem hmem
    omega
  · rw [if_neg hffa] at hfree ⊢
    have htaken : (item.mark player).taken = true := by simp [mark, hffa]
    have hne : item.allowedLooters ≠ [] := List.ne_nil_of_mem hallowed
    simp [hffa, htaken, hfree, hne]

end ItemView

/-! ## Tallies -/

namespace Tally

def left (tally : Tally) : ℕ := (tally.items.map (fun item => item.2.left)).sum

def apply (tally : Tally) : PoolCommit → Tally
  | .money => { tally with coins := 0 }
  | .item lootListId player =>
    match tally.items.find? (fun item => item.1 == lootListId) with
    | none => tally
    | some item =>
      if item.2.IsLooted player then tally
      else
        { tally with
          count := tally.count - 1
          items := modifyFirst (fun item => item.1 == lootListId)
            (fun item => (item.1, item.2.mark player)) tally.items }

end Tally

theorem find?_tally (loot : CreatureLoot) (lootListId : ℕ) :
    loot.tally.items.find? (fun item => item.1 == lootListId) =
      (loot.itemLikeCpp lootListId).map LootEntry.core := by
  simp only [CreatureLoot.tally, CreatureLoot.itemLikeCpp, List.find?_map]
  rfl

theorem tally_apply (loot : CreatureLoot) (commit : PoolCommit) :
    (commit.apply loot).tally = loot.tally.apply commit := by
  cases commit with
  | money => rfl
  | item lootListId player =>
    unfold PoolCommit.apply Tally.apply CreatureLoot.markItemLootedForPlayerLikeCpp
    simp only [find?_tally]
    cases hitem : loot.itemLikeCpp lootListId with
    | none => rfl
    | some entry =>
      have hlooted : entry.isLootedForPlayerLikeCpp player = true ↔
          entry.core.2.IsLooted player := LootEntry.isLootedForPlayerLikeCpp_iff
      by_cases h : entry.isLootedForPlayerLikeCpp player = true
      · simp [h, hlooted.mp h]
      · simp only [h, Bool.false_eq_true, if_false, Option.map_some, mt hlooted.mpr h]
        simp only [CreatureLoot.tally, Tally.mk.injEq, true_and]
        refine map_modifyFirst_comm LootEntry.core (fun e => ?_) (fun e _ => ?_) loot.items
        · rfl
        · exact Prod.ext (e.lootListId_mark player) (e.view_mark player)

theorem tally_run (loot : CreatureLoot) (commits : List PoolCommit) :
    (run PoolCommit.apply loot commits).tally = run Tally.apply loot.tally commits := by
  induction commits generalizing loot with
  | nil => rfl
  | cons commit commits ih => rw [run_cons, run_cons, ih, tally_apply]

/-! ## Permitted commits -/

/-- The list ids and looters of the items; no commit changes them. -/
def Tally.shape (tally : Tally) : List (ℕ × Bool × List ObjectGuid) :=
  tally.items.map fun item => (item.1, item.2.freeforall, item.2.allowedLooters)

/-- A reservation was granted for the commit: its player may loot the item. -/
def PoolCommit.Permitted (shape : List (ℕ × Bool × List ObjectGuid)) : PoolCommit → Prop
  | .money => True
  | .item lootListId player => ∀ looters, (∃ ffa, (lootListId, ffa, looters) ∈ shape) →
      player ∈ looters

theorem find?_of_nodup {items : List (ℕ × ItemView)} (hids : (items.map Prod.fst).Nodup)
    {item : ℕ × ItemView} (hmem : item ∈ items) :
    items.find? (fun other => other.1 == item.1) = some item := by
  induction items with
  | nil => simp at hmem
  | cons head items ih =>
    rw [List.map_cons, List.nodup_cons] at hids
    rcases List.mem_cons.mp hmem with rfl | hmem
    · simp
    · have hne : head.1 ≠ item.1 := fun heq =>
        hids.1 (heq ▸ List.mem_map_of_mem hmem)
      rw [List.find?_cons, beq_eq_false_iff_ne.mpr hne]
      exact ih hids.2 hmem

/-- A pool whose list ids are distinct and whose free-for-all items are for real players. -/
structure Tally.WellFormed (tally : Tally) : Prop where
  ids : (tally.shape.map Prod.fst).Nodup
  proper : ∀ item ∈ tally.items, item.2.Proper

def Tally.take (tally : Tally) (lootListId : ℕ) (player : ObjectGuid) : Tally :=
  { tally with
    count := tally.count - 1
    items := modifyFirst (fun item => item.1 == lootListId)
      (fun item => (item.1, item.2.mark player)) tally.items }

theorem Tally.apply_of_free {tally : Tally} {lootListId : ℕ} {item : ℕ × ItemView}
    (hfind : tally.items.find? (fun item => item.1 == lootListId) = some item)
    (hfree : ¬ item.2.IsLooted player) :
    tally.apply (.item lootListId player) = tally.take lootListId player := by
  unfold Tally.apply Tally.take
  simp only [hfind, if_neg hfree]

theorem Tally.apply_item_cases (tally : Tally) (lootListId : ℕ) (player : ObjectGuid) :
    tally.apply (.item lootListId player) = tally ∨
      ∃ item, tally.items.find? (fun item => item.1 == lootListId) = some item ∧
        ¬ item.2.IsLooted player := by
  unfold Tally.apply
  cases hfind : tally.items.find? (fun item => item.1 == lootListId) with
  | none => exact Or.inl (by simp only [hfind])
  | some item =>
    by_cases hlooted : item.2.IsLooted player
    · exact Or.inl (by simp only [hfind, if_pos hlooted])
    · exact Or.inr ⟨item, rfl, hlooted⟩

theorem Tally.shape_apply (tally : Tally) (commit : PoolCommit) :
    (tally.apply commit).shape = tally.shape := by
  cases commit with
  | money => rfl
  | item lootListId player =>
    rcases Tally.apply_item_cases tally lootListId player with hsame | ⟨item, hfind, hfree⟩
    · rw [hsame]
    · rw [Tally.apply_of_free hfind hfree]
      exact map_modifyFirst _ (fun item _ => by simp) tally.items

/-- Taking a claim that its player may take leaves one claim less. -/
theorem Tally.left_take {tally : Tally} (hwf : tally.WellFormed) {lootListId : ℕ}
    {item : ℕ × ItemView}
    (hfind : tally.items.find? (fun item => item.1 == lootListId) = some item)
    (hallowed : player ∈ item.2.allowedLooters) (hfree : ¬ item.2.IsLooted player) :
    (tally.take lootListId player).left + 1 = tally.left := by
  obtain ⟨front, back, hitems, -, -, hmod⟩ := modifyFirst_eq_of_find?_eq_some
    (fun item : ℕ × ItemView => (item.1, item.2.mark player)) hfind
  have hleft := ItemView.left_mark (hwf.proper item (List.mem_of_find?_eq_some hfind)) hallowed hfree
  simp only [Tally.left, Tally.take]
  rw [hmod, hitems]
  simp only [List.map_append, List.map_cons, List.sum_append, List.sum_cons]
  omega

/-- A permitted commit takes one claim and one from the count, or neither. -/
theorem Tally.left_apply {tally : Tally} (hwf : tally.WellFormed) {commit : PoolCommit}
    (hpermitted : commit.Permitted tally.shape) :
    (tally.apply commit).left = tally.left ∧ (tally.apply commit).count = tally.count ∨
      (tally.apply commit).left + 1 = tally.left ∧
        (tally.apply commit).count = tally.count - 1 := by
  cases commit with
  | money => exact Or.inl ⟨rfl, rfl⟩
  | item lootListId player =>
    rcases Tally.apply_item_cases tally lootListId player with hsame | ⟨item, hfind, hfree⟩
    · rw [hsame]
      exact Or.inl ⟨rfl, rfl⟩
    · have hid : item.1 = lootListId := by simpa using List.find?_some hfind
      have hallowed : player ∈ item.2.allowedLooters :=
        hpermitted _ ⟨item.2.freeforall, List.mem_map.mpr
          ⟨item, List.mem_of_find?_eq_some hfind, by rw [hid]⟩⟩
      rw [Tally.apply_of_free hfind hfree]
      exact Or.inr ⟨Tally.left_take hwf hfind hallowed hfree, rfl⟩

theorem Tally.wellFormed_apply {tally : Tally} (hwf : tally.WellFormed) (commit : PoolCommit) :
    (tally.apply commit).WellFormed where
  ids := by rw [Tally.shape_apply]; exact hwf.ids
  proper := fun item hitem => by
    have hshape : (item.1, item.2.freeforall, item.2.allowedLooters) ∈ tally.shape := by
      rw [← Tally.shape_apply tally commit]
      exact List.mem_map.mpr ⟨item, hitem, rfl⟩
    obtain ⟨before, hbefore, heq⟩ := List.mem_map.mp hshape
    simp only [Prod.mk.injEq] at heq
    intro hffa
    rw [← heq.2.2]
    exact hwf.proper before hbefore (heq.2.1 ▸ hffa)

/-- After any permitted commits, as many claims are gone as the count has lost. -/
theorem Tally.left_run {tally : Tally} (hwf : tally.WellFormed) {commits : List PoolCommit}
    (hpermitted : ∀ commit ∈ commits, commit.Permitted tally.shape) :
    ∃ paid, (run Tally.apply tally commits).left + paid = tally.left ∧
      (run Tally.apply tally commits).count = tally.count - paid := by
  induction commits generalizing tally with
  | nil => exact ⟨0, rfl, rfl⟩
  | cons commit commits ih =>
    have hhead := hpermitted commit (by simp)
    have htail : ∀ other ∈ commits, other.Permitted (tally.apply commit).shape := by
      intro other hother
      rw [Tally.shape_apply]
      exact hpermitted other (by simp [hother])
    obtain ⟨paid, hleft, hcount⟩ := ih (Tally.wellFormed_apply hwf commit) htail
    rcases Tally.left_apply hwf hhead with ⟨hl, hc⟩ | ⟨hl, hc⟩
    · exact ⟨paid, by rw [run_cons, hleft, hl], by rw [run_cons, hcount, hc]⟩
    · exact ⟨paid + 1, by rw [run_cons]; omega, by rw [run_cons, hcount, hc]; omega⟩

theorem ItemView.exists_claim (hleft : item.left ≠ 0) :
    ∃ player ∈ item.allowedLooters, ¬ item.IsLooted player := by
  rw [ne_eq, ← ItemView.done_iff] at hleft
  unfold ItemView.Done at hleft
  unfold ItemView.IsLooted
  by_cases hffa : item.freeforall = true
  · simpa [hffa] using hleft
  · rw [if_neg hffa, Classical.not_imp] at hleft
    obtain ⟨player, hplayer⟩ := List.exists_mem_of_ne_nil _ hleft.1
    exact ⟨player, hplayer, by rw [if_neg hffa]; exact hleft.2⟩

theorem Tally.exists_commit {tally : Tally} (hwf : tally.WellFormed) (hleft : tally.left ≠ 0) :
    ∃ commit : PoolCommit, commit.Permitted tally.shape ∧
      (tally.apply commit).left + 1 = tally.left := by
  have hitem : ∃ item ∈ tally.items, item.2.left ≠ 0 := by
    by_contra hnone
    push Not at hnone
    apply hleft
    unfold Tally.left
    rw [List.sum_eq_zero_iff_forall_eq_nat]
    intro n hn
    obtain ⟨item, hmem, rfl⟩ := List.mem_map.mp hn
    exact hnone item hmem
  obtain ⟨item, hmem, hitem⟩ := hitem
  obtain ⟨player, hallowed, hfree⟩ := ItemView.exists_claim hitem
  have hids : (tally.items.map Prod.fst).Nodup := by
    have hids := hwf.ids
    rw [Tally.shape, List.map_map] at hids
    exact hids
  have hfind := find?_of_nodup hids hmem
  refine ⟨.item item.1 player, ?_, ?_⟩
  · rintro looters ⟨ffa, hshape⟩
    obtain ⟨other, hother, heq⟩ := List.mem_map.mp hshape
    simp only [Prod.mk.injEq] at heq
    have hsame := find?_of_nodup hids hother
    rw [heq.1, hfind] at hsame
    rw [← heq.2.2, ← Option.some.inj hsame]
    exact hallowed
  · rw [Tally.apply_of_free hfind hfree]
    exact Tally.left_take hwf hfind hallowed hfree

/-- Any number of claims, up to all of them, can be taken by permitted commits. -/
theorem Tally.exists_run {tally : Tally} (hwf : tally.WellFormed) {n : ℕ} (hn : n ≤ tally.left) :
    ∃ commits : List PoolCommit, (∀ commit ∈ commits, commit.Permitted tally.shape) ∧
      (run Tally.apply tally commits).left + n = tally.left ∧
        (run Tally.apply tally commits).count = tally.count - n := by
  induction n with
  | zero => exact ⟨[], by simp, rfl, rfl⟩
  | succ n ih =>
    obtain ⟨commits, hpermitted, hleft, hcount⟩ := ih (by omega)
    have hrun : (run Tally.apply tally commits).WellFormed ∧
        (run Tally.apply tally commits).shape = tally.shape :=
      run_invariant_of_all (fun t : Tally => t.WellFormed ∧ t.shape = tally.shape)
        (fun t commit h => ⟨Tally.wellFormed_apply h.1 commit, (t.shape_apply commit).trans h.2⟩)
        ⟨hwf, rfl⟩ commits
    obtain ⟨commit, hc, htake⟩ := Tally.exists_commit hrun.1 (by omega)
    rcases Tally.left_apply hrun.1 hc with ⟨hsame, -⟩ | ⟨-, hless⟩
    · omega
    · refine ⟨commits ++ [commit], ?_, ?_, ?_⟩
      · intro other hother
        rcases List.mem_append.mp hother with hother | hother
        · exact hpermitted other hother
        · rw [List.mem_singleton.mp hother, ← hrun.2]
          exact hc
      · rw [run_concat]
        omega
      · rw [run_concat, hless, hcount]
        omega

end RustyCore.Loot
