import RustyCore.Verification.Loot.Steps

/-! # Durable claims commit

Once a claim has crossed the durable boundary its SQL may be written, so its guard
must be able to commit it whatever the other sessions do in between. -/

namespace RustyCore.Loot

variable {w : World} {guard i : ℕ} {cell : LeaseCell}

/-- The operation resolves or drops this guard. -/
def Op.resolves (guard : ℕ) : Op → Bool
  | .commitGuard g => g == guard
  | .quarantineGuard g => g == guard
  | .dropGuard g => g == guard
  | _ => false

/-! ## Guards of other sessions -/

@[simp] theorem guards_logCommit (w : World) (lease : LootClaimLeaseInner)
    (result : Except LootClaimCommitError LootClaimCommitOutcome) :
    (w.logCommit lease result).guards = w.guards := by
  unfold World.logCommit
  split
  · split <;> rfl
  · rfl

@[simp] theorem guards_dropInnerIfUnused (w : World) (lease : ℕ) :
    (w.dropInnerIfUnused lease).guards = w.guards := by
  unfold World.dropInnerIfUnused
  split
  · rfl
  · split <;> rfl

@[simp] theorem guards_install (w : World) (shared : Option CreatureLoot)
    (personal : Dict ObjectGuid CreatureLoot) (result : LootInstallOutcome × AuthorityState) :
    (w.install shared personal result).guards = w.guards := by
  unfold World.install
  split <;> rfl

@[simp] theorem guards_reserve (w : World) (player : ObjectGuid)
    (attempt : ReserveAttempt × AuthorityState) : (w.reserve player attempt).guards = w.guards := by
  unfold World.reserve
  split <;> rfl

theorem getElem?_setGuard_ne (w : World) {other : ℕ} (f : GuardCell → GuardCell)
    (h : other ≠ guard) : (w.setGuard other f).guards[guard]? = w.guards[guard]? :=
  List.getElem?_modify_ne f w.guards h

theorem guard_step {op : Op} (hop : op.resolves guard = false) (hguard : guard < w.guards.length) :
    (w.step op).guards[guard]? = w.guards[guard]? := by
  cases op with
  | commitGuard g =>
    have hne : g ≠ guard := by simpa [Op.resolves] using hop
    simp only [World.step]
    split
    · rfl
    · simp only [guards_logCommit]
      exact getElem?_setGuard_ne _ _ hne
  | quarantineGuard g =>
    have hne : g ≠ guard := by simpa [Op.resolves] using hop
    simp only [World.step]
    split
    · rfl
    · exact getElem?_setGuard_ne _ _ hne
  | dropGuard g =>
    have hne : g ≠ guard := by simpa [Op.resolves] using hop
    simp only [World.step]
    split
    · rfl
    · rw [guards_dropInnerIfUnused, getElem?_setGuard_ne _ _ hne]
      split <;> rfl
  | beginPersistence lease =>
    simp only [World.step]
    split
    · rfl
    · split
      · exact List.getElem?_append_left hguard
      · rfl
  | replaceRetiredGeneration expected shared personal =>
    simp only [World.step]
    split <;> rfl
  | replace shared personal =>
    simp only [World.step]
    split <;> rfl
  | finishItemRollAndReserveAward scopePlayer expected lootListId winner =>
    simp only [World.step]
    split <;> rfl
  | commitLease lease =>
    simp only [World.step]
    split
    · rfl
    · simp only [guards_logCommit]
      rfl
  | dropLease lease =>
    simp only [World.step]
    split
    · rfl
    · simp only [guards_dropInnerIfUnused]
      rfl
  | cloneLease lease =>
    simp only [World.step]
    split <;> rfl
  | rollbackLease lease =>
    simp only [World.step]
    split <;> rfl
  | _ => simp [World.step, World.setState]

theorem guard_run {ops : List Op} {cell : GuardCell} (hguard : w.guards[guard]? = some cell)
    (hops : ∀ op ∈ ops, op.resolves guard = false) :
    (run World.step w ops).guards[guard]? = some cell := by
  refine run_invariant (fun w => w.guards[guard]? = some cell) (fun w op hcell hop => ?_) hguard
    (EachStep.of_forall (fun op hop _ => hops op hop) w)
  rw [guard_step hop (List.getElem?_eq_some_iff.mp hcell).1]
  exact hcell

/-! ## Leases keep their data -/

variable {named : ObjectGuid → Prop}

theorem Move.lease {w' : World} (h : Move named w w') (hcell : w.leases[i]? = some cell) :
    ∃ cell', w'.leases[i]? = some cell' ∧
      cell'.inner = { cell.inner with status := cell'.inner.status } := by
  have hself : ∃ cell', w.leases[i]? = some cell' ∧
      cell'.inner = { cell.inner with status := cell'.inner.status } := ⟨cell, hcell, rfl⟩
  have hsettled : ∀ {lease : ℕ} {before after : LeaseCell} {leases' : List LeaseCell}
      {guards' : List GuardCell}, Settled w.leases leases' w.guards guards' lease before after →
      ∃ cell', leases'[i]? = some cell' ∧
        cell'.inner = { cell.inner with status := cell'.inner.status } := by
    intro lease before after leases' guards' hs
    by_cases hi : i = lease
    · subst hi
      obtain rfl : before = cell := Option.some.inj (hs.before.symm.trans hcell)
      exact ⟨after, hs.after, hs.same⟩
    · exact ⟨cell, (hs.other i hi).trans hcell, rfl⟩
  cases h with
  | edit => exact hself
  | close => exact hself
  | quarantine => exact hself
  | drain => exact hself
  | install => exact hself
  | reserve =>
    have hi := (List.getElem?_eq_some_iff.mp hcell).1
    exact ⟨cell, (List.getElem?_append_left hi).trans hcell, rfl⟩
  | persist => exact hself
  | hold hh =>
    have hinner := hh.inner i
    rw [hcell, Option.map_some, Option.map_eq_some_iff] at hinner
    obtain ⟨cell', hcell', hsame⟩ := hinner
    exact ⟨cell', hcell', by rw [hsame]⟩
  | fail settled => exact hsettled settled
  | release settled => exact hsettled settled
  | pay settled => exact hsettled settled

theorem Moves.lease {w' : World} (h : Moves named w w') (hcell : w.leases[i]? = some cell) :
    ∃ cell', w'.leases[i]? = some cell' ∧
      cell'.inner = { cell.inner with status := cell'.inner.status } := by
  induction h with
  | refl => exact ⟨cell, hcell, rfl⟩
  | tail _ hmove ih =>
    obtain ⟨middle, hmiddle, hsame⟩ := ih
    obtain ⟨cell', hcell', hsame'⟩ := hmove.lease hmiddle
    exact ⟨cell', hcell', by rw [hsame', hsame]⟩

theorem Consistent.lease_run (h : w.Consistent) (hcell : w.leases[i]? = some cell) (ops : List Op) :
    ∃ cell', (run World.step w ops).leases[i]? = some cell' ∧
      cell'.inner = { cell.inner with status := cell'.inner.status } := by
  induction ops generalizing w cell with
  | nil => exact ⟨cell, hcell, rfl⟩
  | cons op ops ih =>
    obtain ⟨middle, hmiddle, hsame⟩ := (h.moves_step_of_any op).lease hcell
    obtain ⟨cell', hcell', hsame'⟩ := ih (h.step op) hmiddle
    exact ⟨cell', hcell', by rw [hsame', hsame]⟩

/-! ## What a commit does to its pool -/

/-- Exactly the claimed item is marked, or exactly the coins are taken. -/
def PaysExactly (lease : LootClaimLeaseInner) (loot loot' : CreatureLoot) : Prop :=
  match lease.key with
  | .money _ => loot' = { loot with coins := 0 }
  | .item key =>
    ∃ front entry back,
      loot.items = front ++ entry :: back ∧
      (∀ other ∈ front, other.lootListId ≠ key.lootListId) ∧
      entry.lootListId = key.lootListId ∧
      entry.isLootedForPlayerLikeCpp lease.player = false ∧
      (lease.player ≠ ObjectGuid.empty →
        (entry.markLootedForPlayerLikeCpp lease.player).isLootedForPlayerLikeCpp lease.player =
          true) ∧
      loot' =
        { loot with
          items := front ++ entry.markLootedForPlayerLikeCpp lease.player :: back
          playerFfaItems := loot'.playerFfaItems
          unlootedCount := loot.unlootedCount - 1 }

theorem LootEntry.isLooted_mark {entry : LootEntry} {player : ObjectGuid}
    (h : player ≠ ObjectGuid.empty) :
    (entry.markLootedForPlayerLikeCpp player).isLootedForPlayerLikeCpp player = true := by
  rw [LootEntry.isLootedForPlayerLikeCpp_iff, LootEntry.view_mark]
  exact entry.view.isLooted_mark fun _ => h

theorem paysExactly_applyClaim {lease : LootClaimLeaseInner} {loot : CreatureLoot}
    (h : (applyClaim lease loot).1 = true) : PaysExactly lease loot (applyClaim lease loot).2 := by
  unfold PaysExactly applyClaim at *
  cases hkey : lease.key with
  | money scope => rfl
  | item key =>
    simp only [hkey] at h ⊢
    unfold CreatureLoot.markItemLootedForPlayerLikeCpp at h ⊢
    cases hitem : loot.itemLikeCpp key.lootListId with
    | none => simp [hitem] at h
    | some entry =>
      by_cases hlooted : entry.isLootedForPlayerLikeCpp lease.player = true
      · simp [hitem, hlooted] at h
      · simp only [hlooted, Bool.false_eq_true, if_false]
        obtain ⟨front, back, hitems, hfront, hid, hmod⟩ := modifyFirst_eq_of_find?_eq_some
          (fun e => e.markLootedForPlayerLikeCpp lease.player) hitem
        refine ⟨front, entry, back, hitems, fun other hother => ?_, by simpa using hid,
          by simpa using hlooted, LootEntry.isLooted_mark, ?_⟩
        · simpa using hfront other hother
        · rw [hmod]

/-- A player and a pool with one item for him. -/
def samplePlayer : ObjectGuid := ObjectGuid.createPlayer 1 7

def samplePool : CreatureLoot where
  lootGuid := ⟨1, 1⟩
  coins := 25
  unlootedCount := 1
  lootType := 1
  dungeonEncounterId := 0
  lootMethod := 0
  lootMaster := ObjectGuid.empty
  roundRobinPlayer := ObjectGuid.empty
  playerFfaItems := []
  playersLooting := []
  allowedLooters := [samplePlayer]
  items :=
    [{ lootListId := 3, itemId := 117, quantity := 1, randomPropertiesId := 0
       randomPropertiesSeed := 0, itemContext := 0, flags := {}, allowedLooters := [samplePlayer]
       rollWinner := ObjectGuid.empty, ffaLootedBy := [], taken := false }]
  lootedByPlayer := false

def sampleReserved : World :=
  run World.step (World.init .default)
    [.initializePristine (some samplePool) ∅, .reserveItem samplePlayer 3 .direct none]

end RustyCore.Loot
