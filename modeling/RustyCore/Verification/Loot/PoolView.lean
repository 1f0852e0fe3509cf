import RustyCore.Model.Loot.Session

/-! # What a pool owes

The view of a pool keeps only what decides who may still be paid: the coins and, for
each list id, the marks of the item a search finds. Viewers, rolls and round-robin
changes do not touch it; a claim changes it at one key. -/

namespace RustyCore.Loot

variable {loot : CreatureLoot} {lootListId : ℕ} {lease : LootClaimLeaseInner}
variable {player : ObjectGuid} {loot' : CreatureLoot}

/-- The marks of one item. -/
structure ItemView where
  freeforall : Bool
  taken : Bool
  ffaLootedBy : List ObjectGuid
  allowedLooters : List ObjectGuid

namespace ItemView

variable {item : ItemView} {player : ObjectGuid}
variable {claimant : Option ObjectGuid}

/-- Whether nothing is left of this item for `player`. -/
def IsLooted (item : ItemView) (player : ObjectGuid) : Prop :=
  if item.freeforall then player ∈ item.ffaLootedBy else item.taken = true

/-- The item may be paid out to the holder of a key with this claimant. -/
def Claimable (item : ItemView) : Option ObjectGuid → Prop
  | none => item.freeforall = false ∧ item.taken = false
  | some player => item.freeforall = true ∧ player ∉ item.ffaLootedBy

def mark (item : ItemView) (player : ObjectGuid) : ItemView :=
  if item.freeforall then
    if !player.isEmpty && !item.ffaLootedBy.contains player then
      { item with ffaLootedBy := item.ffaLootedBy ++ [player] }
    else item
  else { item with taken := true }

@[simp] theorem mark_freeforall (item : ItemView) (player : ObjectGuid) :
    (item.mark player).freeforall = item.freeforall := by
  unfold mark
  split_ifs <;> rfl

@[simp] theorem mark_allowedLooters (item : ItemView) (player : ObjectGuid) :
    (item.mark player).allowedLooters = item.allowedLooters := by
  unfold mark
  split_ifs <;> rfl

theorem mem_mark_ffaLootedBy {other : ObjectGuid} :
    other ∈ (item.mark player).ffaLootedBy ↔
      other ∈ item.ffaLootedBy ∨
        (item.freeforall = true ∧ player ≠ ObjectGuid.empty ∧ other = player) := by
  unfold mark
  by_cases hffa : item.freeforall = true
  · by_cases hp : player = ObjectGuid.empty
    · simp [hffa, hp]
    · by_cases hmem : player ∈ item.ffaLootedBy
      · simp only [hffa, List.contains_eq_mem, hmem]
        simp only [decide_true, Bool.not_true, Bool.and_false, Bool.false_eq_true, if_false, if_true]
        constructor
        · exact Or.inl
        · rintro (h | ⟨-, -, rfl⟩)
          · exact h
          · exact hmem
      · simp [hffa, hmem, ObjectGuid.isEmpty_eq_false_iff.mpr hp, hp]
  · simp [hffa]

theorem isLooted_mark (item : ItemView) (h : item.freeforall = true → player ≠ ObjectGuid.empty) :
    (item.mark player).IsLooted player := by
  unfold IsLooted
  rw [mark_freeforall]
  by_cases hffa : item.freeforall = true
  · rw [if_pos hffa, mem_mark_ffaLootedBy]
    exact Or.inr ⟨hffa, h hffa, rfl⟩
  · rw [if_neg hffa]
    simp [mark, hffa]

theorem IsLooted.mark (h : item.IsLooted player) (other : ObjectGuid) :
    (item.mark other).IsLooted player := by
  unfold IsLooted at h ⊢
  rw [mark_freeforall]
  by_cases hffa : item.freeforall = true
  · rw [if_pos hffa] at h ⊢
    exact mem_mark_ffaLootedBy.mpr (Or.inl h)
  · rw [if_neg hffa] at h ⊢
    simp [ItemView.mark, hffa]

theorem Claimable.not_isLooted (h : item.Claimable claimant)
    (hp : ∀ p, claimant = some p → player = p) : ¬ item.IsLooted player := by
  unfold IsLooted
  cases claimant with
  | none => simp [h.1, h.2]
  | some p =>
    rw [if_pos h.1, hp p rfl]
    exact h.2

theorem Claimable.freeforall_eq (h : item.Claimable claimant) :
    item.freeforall = claimant.isSome := by
  cases claimant with
  | none => exact h.1
  | some p => exact h.1

theorem Claimable.mark_of_ne {p : ObjectGuid} (h : item.Claimable (some p)) (hne : p ≠ player) :
    (item.mark player).Claimable (some p) := by
  refine ⟨by rw [mark_freeforall]; exact h.1, ?_⟩
  rw [mem_mark_ffaLootedBy]
  rintro (hmem | ⟨-, -, heq⟩)
  · exact h.2 hmem
  · exact hne heq

end ItemView

/-- Coins and item marks of one pool. -/
structure PoolView where
  coins : ℕ
  item : ℕ → Option ItemView

namespace PoolView

def mark (view : PoolView) (lootListId : ℕ) (player : ObjectGuid) : PoolView :=
  { view with
    item := fun id =>
      if id = lootListId then (view.item id).map (fun item => item.mark player)
      else view.item id }

def takeCoins (view : PoolView) : PoolView := { view with coins := 0 }

/-- The claim behind a reservation key can still be paid out of this pool. -/
def Ready (view : PoolView) : ReservationKey → Prop
  | .item key => ∃ item, view.item key.lootListId = some item ∧ item.Claimable key.claimant
  | .money _ => True

def apply (view : PoolView) (lease : LootClaimLeaseInner) : PoolView :=
  match lease.key with
  | .item key => view.mark key.lootListId lease.player
  | .money _ => view.takeCoins

end PoolView

def LootEntry.view (entry : LootEntry) : ItemView where
  freeforall := entry.flags.freeforall
  taken := entry.taken
  ffaLootedBy := entry.ffaLootedBy
  allowedLooters := entry.allowedLooters

def CreatureLoot.view (loot : CreatureLoot) : PoolView where
  coins := loot.coins
  item := fun id => (loot.itemLikeCpp id).map LootEntry.view

theorem LootEntry.isLootedForPlayerLikeCpp_iff {entry : LootEntry} :
    entry.isLootedForPlayerLikeCpp player = true ↔ entry.view.IsLooted player := by
  unfold LootEntry.isLootedForPlayerLikeCpp ItemView.IsLooted LootEntry.view
  by_cases h : entry.flags.freeforall = true <;> simp [h]

theorem LootEntry.view_mark (entry : LootEntry) (player : ObjectGuid) :
    (entry.markLootedForPlayerLikeCpp player).view = entry.view.mark player := by
  unfold LootEntry.markLootedForPlayerLikeCpp ItemView.mark
  by_cases hffa : entry.flags.freeforall = true
  · by_cases hnew : (!player.isEmpty && !entry.ffaLootedBy.contains player) = true
    · simp only [LootEntry.view, hffa, hnew, if_true]
    · simp only [LootEntry.view, hffa, hnew, if_true, Bool.false_eq_true, if_false]
  · simp only [LootEntry.view, hffa, Bool.false_eq_true, if_false]

theorem LootEntry.lootListId_mark (entry : LootEntry) (player : ObjectGuid) :
    (entry.markLootedForPlayerLikeCpp player).lootListId = entry.lootListId := by
  unfold LootEntry.markLootedForPlayerLikeCpp
  split_ifs <;> rfl

/-! ## Edits that leave the view alone -/

theorem view_eq_of_items_eq (hcoins : loot'.coins = loot.coins)
    (hitems : loot'.items = loot.items) : loot'.view = loot.view := by
  simp [CreatureLoot.view, CreatureLoot.itemLikeCpp, hcoins, hitems]

theorem itemLikeCpp_eq_some {id : ℕ} {entry : LootEntry} (h : loot.itemLikeCpp id = some entry) :
    entry.lootListId = id := by
  simpa using List.find?_some h

theorem itemLikeCpp_of_modifyFirst {f : LootEntry → LootEntry}
    (hitems : loot'.items = modifyFirst (fun entry => entry.lootListId == lootListId) f loot.items)
    (hf : ∀ entry, (f entry).lootListId = entry.lootListId) (id : ℕ) :
    loot'.itemLikeCpp id =
      if id = lootListId then (loot.itemLikeCpp id).map f else loot.itemLikeCpp id := by
  unfold CreatureLoot.itemLikeCpp
  rw [hitems]
  by_cases h : id = lootListId
  · subst h
    rw [if_pos rfl]
    exact find?_modifyFirst_self (fun entry he => by simpa [hf] using he) loot.items
  · rw [if_neg h]
    refine find?_modifyFirst_of_disjoint (fun entry he => ?_) loot.items
    have he' : entry.lootListId = lootListId := by simpa using he
    constructor
    · simp [he', Ne.symm h]
    · simp [hf, he', Ne.symm h]

theorem view_setItemRoll (loot : CreatureLoot) (lootListId : ℕ) (blocked underThreshold : Bool)
    (winner : ObjectGuid) :
    (setItemRoll loot lootListId blocked underThreshold winner).view = loot.view := by
  unfold CreatureLoot.view
  congr 1
  funext id
  have hitems : (setItemRoll loot lootListId blocked underThreshold winner).items =
      modifyFirst (fun entry => entry.lootListId == lootListId) _ loot.items := rfl
  rw [itemLikeCpp_of_modifyFirst hitems (fun _ => rfl)]
  split_ifs
  · rw [Option.map_map]
    rfl
  · rfl

theorem view_removeViewer (loot : CreatureLoot) (player : ObjectGuid) :
    (removeViewer loot player).view = loot.view :=
  view_eq_of_items_eq rfl rfl

/-! ## Claims -/

theorem coins_markItemLootedForPlayerLikeCpp (loot : CreatureLoot) (lootListId : ℕ)
    (player : ObjectGuid) :
    (loot.markItemLootedForPlayerLikeCpp lootListId player).2.coins = loot.coins := by
  unfold CreatureLoot.markItemLootedForPlayerLikeCpp
  split
  · rfl
  · split <;> rfl

theorem items_markItemLootedForPlayerLikeCpp
    (h : (loot.markItemLootedForPlayerLikeCpp lootListId player).1 = true) :
    (loot.markItemLootedForPlayerLikeCpp lootListId player).2.items =
      modifyFirst (fun entry => entry.lootListId == lootListId)
        (fun entry => entry.markLootedForPlayerLikeCpp player) loot.items := by
  unfold CreatureLoot.markItemLootedForPlayerLikeCpp at h ⊢
  split at h
  · cases h
  · split at h
    · cases h
    · rename_i hlooted
      simp only [hlooted, Bool.false_eq_true, if_false]

theorem view_markItemLootedForPlayerLikeCpp
    (h : (loot.markItemLootedForPlayerLikeCpp lootListId player).1 = true) :
    (loot.markItemLootedForPlayerLikeCpp lootListId player).2.view =
      loot.view.mark lootListId player := by
  have hcoins := coins_markItemLootedForPlayerLikeCpp loot lootListId player
  have hitem := itemLikeCpp_of_modifyFirst (items_markItemLootedForPlayerLikeCpp h)
    (fun entry => entry.lootListId_mark player)
  simp only [CreatureLoot.view, PoolView.mark, hcoins]
  congr 1
  funext id
  rw [hitem]
  split_ifs
  · rw [Option.map_map, Option.map_map]
    congr 1
    funext entry
    exact entry.view_mark player
  · rfl

theorem markItemLootedForPlayerLikeCpp_fst_iff :
    (loot.markItemLootedForPlayerLikeCpp lootListId player).1 = true ↔
      ∃ item, loot.view.item lootListId = some item ∧ ¬ item.IsLooted player := by
  unfold CreatureLoot.markItemLootedForPlayerLikeCpp CreatureLoot.view
  cases hitem : loot.itemLikeCpp lootListId with
  | none => simp [hitem]
  | some entry =>
    simp only [hitem, Option.map_some, Option.some.injEq, exists_eq_left',
      ← LootEntry.isLootedForPlayerLikeCpp_iff]
    by_cases hlooted : entry.isLootedForPlayerLikeCpp player = true <;> simp [hlooted]

/-- The claimant of an item key, if any, is the player of the lease. -/
def LootClaimLeaseInner.ClaimantAgrees (lease : LootClaimLeaseInner) : Prop :=
  ∀ key player, lease.key = .item key → key.claimant = some player → lease.player = player

theorem applyClaim_fst_of_ready (hwf : lease.ClaimantAgrees) (hready : loot.view.Ready lease.key) :
    (applyClaim lease loot).1 = true := by
  unfold applyClaim
  cases hkey : lease.key with
  | money scope => rfl
  | item key =>
    rw [hkey] at hready
    obtain ⟨item, hitem, hclaim⟩ := hready
    exact markItemLootedForPlayerLikeCpp_fst_iff.mpr
      ⟨item, hitem, hclaim.not_isLooted (fun p hp => hwf key p hkey hp)⟩

theorem view_applyClaim (h : (applyClaim lease loot).1 = true) :
    (applyClaim lease loot).2.view = loot.view.apply lease := by
  unfold applyClaim PoolView.apply at *
  cases hkey : lease.key with
  | money scope => rfl
  | item key =>
    simp only [hkey] at h ⊢
    exact view_markItemLootedForPlayerLikeCpp h

theorem PoolView.Ready.apply_of_ne {view : PoolView} {key : ReservationKey}
    (hwf : lease.ClaimantAgrees) (hlease : view.Ready lease.key) (hready : view.Ready key)
    (hscope : reservationScope key = reservationScope lease.key) (hne : key ≠ lease.key) :
    (view.apply lease).Ready key := by
  cases key with
  | money scope => trivial
  | item key =>
    obtain ⟨item, hitem, hclaim⟩ := hready
    cases hkey : lease.key with
    | money scope => exact ⟨item, by simpa [PoolView.apply, hkey, takeCoins] using hitem, hclaim⟩
    | item key' =>
      rw [hkey] at hlease hscope hne
      simp only [PoolView.apply, hkey, PoolView.Ready, PoolView.mark]
      by_cases hid : key.lootListId = key'.lootListId
      · obtain ⟨item', hitem', hclaim'⟩ := hlease
        rw [← hid, hitem] at hitem'
        obtain rfl : item = item' := Option.some.inj hitem'
        refine ⟨item.mark lease.player, by simp [← hid, hitem], ?_⟩
        -- Same item, different keys: the item is free for all and the claimants differ.
        cases hc : key.claimant with
        | none =>
          cases hc' : key'.claimant with
          | none =>
            refine absurd ?_ hne
            cases key
            cases key'
            simp_all [reservationScope]
          | some p' =>
            rw [hc] at hclaim
            rw [hc'] at hclaim'
            exact absurd hclaim.1 (by simp [hclaim'.1])
        | some p =>
          rw [hc] at hclaim
          apply hclaim.mark_of_ne
          intro hp
          cases hc' : key'.claimant with
          | none =>
            rw [hc'] at hclaim'
            exact absurd hclaim.1 (by simp [hclaim'.1])
          | some p' =>
            have := hwf key' p' hkey hc'
            refine absurd ?_ hne
            cases key
            cases key'
            simp_all [reservationScope]
      · exact ⟨item, by simpa [hid] using hitem, hclaim⟩

end RustyCore.Loot
