import RustyCore.Verification.Loot.Invariant

/-! # Beginning and resolving claims

For each claim operation, the outcomes it can have on a sound state and what is known
about the lease in each of them. -/

namespace RustyCore.Loot

variable {lease : LootClaimLeaseInner} {state : AuthorityState}

/-- The lease stands for the reservation of its key under the current epoch. -/
structure Holds (state : AuthorityState) (lease : LootClaimLeaseInner) : Prop where
  epoch : scopeEpoch state (reservationScope lease.key) = some lease.generation
  key : state.reservations.lookup lease.key = some lease.token

/-- A lease without protection that can no longer be paid. -/
def Lost (state : AuthorityState) (lease : LootClaimLeaseInner) : Prop :=
  state.retired = true ∨ scopeEpoch state (reservationScope lease.key) ≠ some lease.generation ∨
    state.reservations.lookup lease.key ≠ some lease.token

theorem isPersisting_iff :
    isPersisting state lease = true ↔ state.persisting.lookup lease.key = some lease.token := by
  simp [isPersisting]

theorem Sound.persisting_eq_none (h : Sound state) (hheld : Holds state lease)
    (hnot : isPersisting state lease = false) : state.persisting.lookup lease.key = none := by
  cases hp : state.persisting.lookup lease.key with
  | none => rfl
  | some token =>
    have hkey := h.persisting _ _ hp
    rw [hheld.key] at hkey
    rw [← Bool.not_eq_true, isPersisting_iff, hp] at hnot
    exact absurd hkey.symm hnot

/-! ## Begin -/

inductive BeginSpec (state : AuthorityState) (lease : LootClaimLeaseInner) :
    Except LootClaimCommitError Unit × AuthorityState × LootClaimLeaseInner → Prop
  | refused {error : LootClaimCommitError} : BeginSpec state lease (.error error, state, lease)
  | failed {error : LootClaimCommitError} (active : lease.status = .active)
      (unprotected : isPersisting state lease = false) (lost : Lost state lease) :
      BeginSpec state lease (.error error, state, { lease with status := .rolledBack })
  | ok (active : lease.status = .active) (unprotected : isPersisting state lease = false)
      (isOpen : state.retired = false) (holds : Holds state lease) :
      BeginSpec state lease (.ok (),
        { state with persisting := AList.insert lease.key lease.token state.persisting }, lease)

theorem beginClaimPersistence_spec (state : AuthorityState) (lease : LootClaimLeaseInner) :
    BeginSpec state lease (beginClaimPersistence state lease) := by
  unfold beginClaimPersistence
  cases hstatus : lease.status with
  | committed => exact .refused
  | rolledBack => exact .refused
  | quarantined => exact .refused
  | active =>
    simp only
    split
    · exact .refused
    rename_i hnot
    replace hnot : isPersisting state lease = false := by simpa using hnot
    split
    · rename_i hstale
      exact .failed hstatus hnot (hstale.imp_right Or.inl)
    rename_i hopen
    rw [not_or, not_not, Bool.not_eq_true] at hopen
    split
    · rename_i hlost
      exact .failed hstatus hnot (Or.inr (Or.inr hlost))
    · rename_i hkey
      exact .ok hstatus hnot hopen.1 ⟨hopen.2, not_not.mp hkey⟩

/-! ## Rollback, abort and quarantine -/

inductive RollbackSpec (state : AuthorityState) (lease : LootClaimLeaseInner) :
    Bool × AuthorityState × LootClaimLeaseInner → Prop
  | refused (settled : lease.status ≠ .active ∨ isPersisting state lease = true) :
      RollbackSpec state lease (false, state, lease)
  | failed (active : lease.status = .active) (unprotected : isPersisting state lease = false)
      (lost : Lost state lease) :
      RollbackSpec state lease
        (false, finalizeClosedStateIfDrained state, { lease with status := .rolledBack })
  | released (active : lease.status = .active) (unprotected : isPersisting state lease = false)
      (holds : Holds state lease) :
      RollbackSpec state lease
        (true,
          finalizeClosedStateIfDrained
            { state with reservations := AList.erase lease.key state.reservations },
          { lease with status := .rolledBack })

theorem rollbackClaim_spec (state : AuthorityState) (lease : LootClaimLeaseInner) :
    RollbackSpec state lease (rollbackClaim state lease) := by
  unfold rollbackClaim
  split
  · rename_i hstatus
    exact .refused (Or.inl hstatus)
  rename_i hstatus
  rw [not_not] at hstatus
  split
  · rename_i hpersisting
    exact .refused (Or.inr hpersisting)
  rename_i hnot
  replace hnot : isPersisting state lease = false := by simpa using hnot
  by_cases hheld : scopeEpoch state (reservationScope lease.key) = some lease.generation ∧
      state.reservations.lookup lease.key = some lease.token
  · simp only [hheld, and_self, decide_true, if_true]
    exact .released hstatus hnot ⟨hheld.1, hheld.2⟩
  · simp only [hheld, decide_false, if_false]
    refine .failed hstatus hnot (Or.inr ?_)
    rw [← not_and_or]
    exact hheld

inductive AbortSpec (state : AuthorityState) (lease : LootClaimLeaseInner) :
    Bool × AuthorityState × LootClaimLeaseInner → Prop
  | refused (settled : lease.status ≠ .active ∨ isPersisting state lease = false) :
      AbortSpec state lease (false, state, lease)
  | released (active : lease.status = .active) (persisting : isPersisting state lease = true) :
      AbortSpec state lease (true, finalizeClosedStateIfDrained (releaseKey state lease.key),
        { lease with status := .rolledBack })

theorem abortClaimPersistence_spec (state : AuthorityState) (lease : LootClaimLeaseInner) :
    AbortSpec state lease (abortClaimPersistence state lease) := by
  unfold abortClaimPersistence
  split
  · rename_i h
    exact .refused (by simpa using h)
  · rename_i h
    rw [not_or] at h
    exact .released (by simpa using h.1) (by simpa using h.2)

inductive QuarantineSpec (state : AuthorityState) (lease : LootClaimLeaseInner) :
    Bool × AuthorityState × LootClaimLeaseInner → Prop
  | refused (settled : lease.status ≠ .active ∨ isPersisting state lease = false) :
      QuarantineSpec state lease (false, state, lease)
  | released (active : lease.status = .active) (persisting : isPersisting state lease = true) :
      QuarantineSpec state lease
        (true,
          finalizeClosedStateIfDrained
            { releaseKey state lease.key with retired := true, quarantined := true },
          { lease with status := .quarantined })

theorem quarantineClaimPersistenceCommitUnknown_spec (state : AuthorityState)
    (lease : LootClaimLeaseInner) :
    QuarantineSpec state lease (quarantineClaimPersistenceCommitUnknown state lease) := by
  unfold quarantineClaimPersistenceCommitUnknown
  split
  · rename_i h
    exact .refused (by simpa using h)
  · rename_i h
    rw [not_or] at h
    exact .released (by simpa using h.1) (by simpa using h.2)

/-! ## Commit -/

/-- The state after a successful commit, before a closed state is drained. -/
def paidState (state : AuthorityState) (lease : LootClaimLeaseInner) (loot : CreatureLoot) :
    AuthorityState :=
  releaseKey (setLootForScope state (reservationScope lease.key) (applyClaim lease loot).2)
    lease.key

theorem paidState_eq (state : AuthorityState) (lease : LootClaimLeaseInner) (loot : CreatureLoot) :
    paidState state lease loot =
      setLootForScope (releaseKey state lease.key) (reservationScope lease.key)
        (applyClaim lease loot).2 := by
  unfold paidState
  cases reservationScope lease.key <;> rfl

theorem lootForScope_paidState (state : AuthorityState) (lease : LootClaimLeaseInner)
    (loot : CreatureLoot) (scope : OwnedLootScope) :
    lootForScope (paidState state lease loot) scope =
      if scope = reservationScope lease.key then some (applyClaim lease loot).2
      else lootForScope state scope := by
  rw [paidState_eq, lootForScope_setLootForScope]
  cases scope <;> rfl

/-- Everything a successful commit relies on. -/
structure Payable (state : AuthorityState) (lease : LootClaimLeaseInner) (loot : CreatureLoot) :
    Prop where
  active : lease.status = .active
  holds : Holds state lease
  isOpen : state.retired = false ∨ isPersisting state lease = true
  pool : lootForScope state (reservationScope lease.key) = some loot
  ready : loot.view.Ready lease.key

def paidOutcome (lease : LootClaimLeaseInner) (loot : CreatureLoot) : LootClaimCommitOutcome where
  firstCommit := true
  snapshot := some
    { generation := lease.generation
      scope := reservationScope lease.key
      loot := (applyClaim lease loot).2 }

inductive CommitSpec (state : AuthorityState) (lease : LootClaimLeaseInner) (owner : Bool) :
    Except LootClaimCommitError LootClaimCommitOutcome × AuthorityState × LootClaimLeaseInner →
      Prop
  | committed (status : lease.status = .committed) :
      CommitSpec state lease owner (.ok { firstCommit := false, snapshot := none }, state, lease)
  | refused {error : LootClaimCommitError}
      (status : lease.status ≠ .active ∨ isPersisting state lease = true ∧ owner = false) :
      CommitSpec state lease owner (.error error, state, lease)
  | failed {error : LootClaimCommitError} (active : lease.status = .active)
      (unprotected : isPersisting state lease = false) (lost : Lost state lease) :
      CommitSpec state lease owner (.error error, state, { lease with status := .rolledBack })
  | paid {loot : CreatureLoot} (payable : Payable state lease loot)
      (permitted : owner = true ∨ isPersisting state lease = false) :
      CommitSpec state lease owner
        (.ok (paidOutcome lease loot), finalizeClosedStateIfDrained (paidState state lease loot),
          { lease with status := .committed })

theorem ClaimOf.claimantAgrees (h : ClaimOf lease.player lease.key lease.payload) :
    lease.ClaimantAgrees := by
  intro key player hkey hclaimant
  rw [hkey] at h
  generalize lease.payload = payload at h
  cases h with
  | item id claimant =>
    rw [claimant] at hclaimant
    split_ifs at hclaimant
    exact Option.some.inj hclaimant

theorem Sound.payable (h : Sound state) (active : lease.status = .active)
    (holds : Holds state lease) (isOpen : state.retired = false ∨ isPersisting state lease = true) :
    ∃ loot, Payable state lease loot := by
  obtain ⟨-, view, hview, hready⟩ := h.reserved _ _ holds.key
  obtain ⟨loot, hloot, rfl⟩ := poolView_eq_some.mp hview
  exact ⟨loot, active, holds, isOpen, hloot, hready⟩

/-- A payable claim is paid, whatever the caller, unless it is protected from this one. -/
theorem commitClaimWithSnapshot_of_payable {loot : CreatureLoot} {owner : Bool}
    (hclaim : ClaimOf lease.player lease.key lease.payload) (h : Payable state lease loot)
    (hpermitted : owner = true ∨ isPersisting state lease = false) :
    commitClaimWithSnapshot state lease owner =
      (.ok (paidOutcome lease loot), finalizeClosedStateIfDrained (paidState state lease loot),
        { lease with status := .committed }) := by
  have hprotected : (isPersisting state lease && !owner) = false := by
    rcases hpermitted with rfl | h <;> simp [*]
  have hstale : ¬ ((state.retired && !isPersisting state lease) = true ∨
      scopeEpoch state (reservationScope lease.key) ≠ some lease.generation) := by
    rw [not_or, not_not]
    refine ⟨?_, h.holds.epoch⟩
    rcases h.isOpen with hopen | hopen <;> simp [hopen]
  have hmarked := applyClaim_fst_of_ready hclaim.claimantAgrees h.ready
  have hepoch : ∀ loot', scopeEpoch (setLootForScope state (reservationScope lease.key) loot')
      (reservationScope lease.key) = some lease.generation := by
    intro loot'
    rw [← h.holds.epoch]
    cases reservationScope lease.key <;> rfl
  unfold commitClaimWithSnapshot
  simp only [h.active, hprotected, Bool.false_eq_true, if_false, hstale, h.holds.key, ne_eq,
    not_true_eq_false, h.pool, hmarked, if_true, hepoch, lootForScope_setLootForScope,
    Option.bind_eq_bind, Option.bind_some, Option.pure_def]
  rfl

theorem commitClaimWithSnapshot_spec {owner : Bool} (hsound : Sound state)
    (hclaim : ClaimOf lease.player lease.key lease.payload)
    (howner : owner = true → lease.status = .active →
      Holds state lease ∧ isPersisting state lease = true) :
    CommitSpec state lease owner (commitClaimWithSnapshot state lease owner) := by
  cases hstatus : lease.status with
  | committed =>
    unfold commitClaimWithSnapshot
    rw [hstatus]
    exact .committed hstatus
  | rolledBack =>
    unfold commitClaimWithSnapshot
    rw [hstatus]
    exact .refused (Or.inl (by simp [hstatus]))
  | quarantined =>
    unfold commitClaimWithSnapshot
    rw [hstatus]
    exact .refused (Or.inl (by simp [hstatus]))
  | active =>
    by_cases hlost : Lost state lease ∧ isPersisting state lease = false
    · obtain ⟨hlost, hnot⟩ := hlost
      unfold commitClaimWithSnapshot
      simp only [hstatus, hnot, Bool.false_and, Bool.false_eq_true, if_false, Bool.not_false,
        Bool.and_true]
      split
      · exact .failed hstatus hnot hlost
      rename_i hopen
      rw [not_or] at hopen
      have hkey : state.reservations.lookup lease.key ≠ some lease.token := by
        rcases hlost with hretired | hstale | hkey
        · exact absurd hretired hopen.1
        · exact absurd hstale hopen.2
        · exact hkey
      rw [if_pos hkey]
      exact .failed hstatus hnot hlost
    · by_cases hprotected : isPersisting state lease = true ∧ owner = false
      · unfold commitClaimWithSnapshot
        simp only [hstatus, hprotected.1, hprotected.2, Bool.not_false, Bool.and_true, if_true]
        exact .refused (Or.inr ⟨hprotected.1, rfl⟩)
      · have hpermitted : owner = true ∨ isPersisting state lease = false := by
          cases owner <;> simp_all
        have hheld : Holds state lease := by
          rcases hpermitted with how | hnot
          · exact (howner how hstatus).1
          · have hno : ¬ Lost state lease := fun hl => hlost ⟨hl, hnot⟩
            simp only [Lost, not_or, not_not] at hno
            exact ⟨hno.2.1, hno.2.2⟩
        have hopen : state.retired = false ∨ isPersisting state lease = true := by
          rcases hpermitted with how | hnot
          · exact Or.inr (howner how hstatus).2
          · have hno : ¬ Lost state lease := fun hl => hlost ⟨hl, hnot⟩
            simp only [Lost, not_or, Bool.not_eq_true] at hno
            exact Or.inl hno.1
        obtain ⟨loot, hpay⟩ := hsound.payable hstatus hheld hopen
        rw [commitClaimWithSnapshot_of_payable hclaim hpay hpermitted]
        exact .paid hpay hpermitted

end RustyCore.Loot
