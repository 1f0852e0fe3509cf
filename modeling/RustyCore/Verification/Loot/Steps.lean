import RustyCore.Verification.Loot.Leases
import RustyCore.Verification.Loot.Resolutions

/-! # The claim protocol

Every operation on an authority is a short sequence of moves. A move says what may
happen to pools, reservations, leases and guards, whichever operation causes it; the
invariants are proved once for each move. -/

namespace RustyCore.Loot

variable {state : AuthorityState} {named : ObjectGuid → Prop}

/-- Handles and guards change, but no lease changes its data or its status. -/
structure Held (leases leases' : List LeaseCell) (guards guards' : List GuardCell) : Prop where
  inner : ∀ i : ℕ, (leases'[i]?).map LeaseCell.inner = (leases[i]?).map LeaseCell.inner
  guarding : ∀ g claim : ℕ,
    guards'[g]? = some ({ claim, resolved := false, live := true } : GuardCell) ↔
      guards[g]? = some ({ claim, resolved := false, live := true } : GuardCell)
  resolved : ∀ (g : ℕ) (guard : GuardCell), guards'[g]? = some guard → ∃ before,
    guards[g]? = some before ∧ before.claim = guard.claim ∧
      (guard.resolved = true → before.resolved = true)

def LootClaimLeaseInner.firstCommit (lease : LootClaimLeaseInner) : FirstCommit where
  scope := reservationScope lease.key
  epoch := lease.generation
  player := lease.player
  payload := lease.payload

/-- No other guard protects the entry of this lease. -/
def Alone (w : World) (lease : ℕ) (inner : LootClaimLeaseInner) : Prop :=
  ∀ g i other, Guarding w.leases w.guards g i other → i ≠ lease →
    ¬ (inner.key = other.key ∧ inner.token = other.token)

/-- One move of a system whose reserving players satisfy `named`. -/
inductive Move (named : ObjectGuid → Prop) (w : World) : World → Prop
  | edit {state' : AuthorityState} (h : Edited w.state state') : Move named w (w.setState state')
  | close {state' : AuthorityState} (h : Closed w.state state') : Move named w (w.setState state')
  | quarantine :
      Move named w (w.setState { w.state with retired := true, quarantined := true })
  | drain : Move named w (w.setState (finalizeClosedStateIfDrained w.state))
  | install {state' : AuthorityState} {install : LootInstall}
      (h : Installed w.state state' install) :
      Move named w { w with state := state', installs := w.installs ++ [install] }
  | reserve {player : ObjectGuid} {generation token : ℕ} {key : ReservationKey}
      {payload : LootClaimPayload} {state' : AuthorityState} (playerNamed : named player)
      (h : Reserved w.state player generation token key payload state') :
      Move named w ((w.setState state').addLease generation token key player payload)
  | persist {lease : ℕ} {cell : LeaseCell} (before : w.leases[lease]? = some cell)
      (active : cell.inner.status = .active)
      (unprotected : isPersisting w.state cell.inner = false)
      (isOpen : w.state.retired = false) (holds : Holds w.state cell.inner) :
      Move named w
        { w with
          state :=
            { w.state with
              persisting := AList.insert cell.inner.key cell.inner.token w.state.persisting }
          guards := w.guards ++ [{ claim := lease, resolved := false, live := true }] }
  | hold {leases' : List LeaseCell} {guards' : List GuardCell}
      (h : Held w.leases leases' w.guards guards')
      (owned : w.state.retired = false → ∀ key token,
        w.state.reservations.lookup key = some token →
        ∃ i, Owner w.state leases' guards' key token i) :
      Move named w { w with leases := leases', guards := guards' }
  | fail {lease : ℕ} {cell cell' : LeaseCell} {leases' : List LeaseCell}
      {guards' : List GuardCell}
      (settled : Settled w.leases leases' w.guards guards' lease cell cell')
      (unprotected : isPersisting w.state cell.inner = false) (lost : Lost w.state cell.inner) :
      Move named w { w with leases := leases', guards := guards' }
  | release {lease : ℕ} {cell cell' : LeaseCell} {leases' : List LeaseCell}
      {guards' : List GuardCell} {state' : AuthorityState}
      (settled : Settled w.leases leases' w.guards guards' lease cell cell')
      (active : cell.inner.status = .active) (holds : Holds w.state cell.inner)
      (alone : Alone w lease cell.inner)
      (sound : Sound state') (pools : ∀ scope, lootForScope state' scope = lootForScope w.state scope)
      (nextScopeEpoch : state'.nextScopeEpoch = w.state.nextScopeEpoch)
      (nextToken : state'.nextToken = w.state.nextToken)
      (released : Released w.state state' cell.inner.key) :
      Move named w { w with state := state', leases := leases', guards := guards' }
  | pay {lease : ℕ} {cell cell' : LeaseCell} {leases' : List LeaseCell}
      {guards' : List GuardCell} {loot : CreatureLoot}
      (settled : Settled w.leases leases' w.guards guards' lease cell cell')
      (payable : Payable w.state cell.inner loot) (alone : Alone w lease cell.inner) :
      Move named w
        { w with
          state := paidState w.state cell.inner loot
          leases := leases'
          guards := guards'
          commits := w.commits ++ [cell.inner.firstCommit] }

/-- A short sequence of moves. -/
abbrev Moves (named : ObjectGuid → Prop) : World → World → Prop :=
  Relation.ReflTransGen (Move named)

/-- The reservation invariant of a world. -/
abbrev World.Consistent (w : World) : Prop := Loot.Consistent w.state w.leases w.guards

theorem released_releaseKey (state : AuthorityState) (key : ReservationKey) :
    Released state (releaseKey state key) key where
  retired := rfl
  epoch := fun _ => rfl
  reservations := fun key' => by simp [releaseKey, Dict.lookup_erase_eq]
  persisting := fun key' => by simp [releaseKey, Dict.lookup_erase_eq]

theorem released_paidState (state : AuthorityState) (lease : LootClaimLeaseInner)
    (loot : CreatureLoot) : Released state (paidState state lease loot) lease.key := by
  rw [paidState_eq]
  have h := released_releaseKey state lease.key
  have haside := samePoolsAside_setLootForScope (releaseKey state lease.key)
    (reservationScope lease.key) (applyClaim lease loot).2
  generalize setLootForScope (releaseKey state lease.key) _ _ = state' at haside
  rw [haside]
  exact ⟨h.retired, h.epoch, h.reservations, h.persisting⟩

theorem Sound.paidState {lease : LootClaimLeaseInner} {loot : CreatureLoot} (h : Sound state)
    (hclaim : ClaimOf lease.player lease.key lease.payload) (hpay : Payable state lease loot) :
    Sound (paidState state lease loot) := by
  rw [paidState_eq]
  refine (h.releaseKey lease.key).setLootForScope fun key token hkey hscope => ?_
  simp only [Loot.releaseKey, Dict.lookup_erase_eq] at hkey
  split_ifs at hkey with hne
  obtain ⟨-, view, hview, hready⟩ := h.reserved key token hkey
  rw [hscope, poolView, hpay.pool] at hview
  obtain rfl : loot.view = view := Option.some.inj hview
  rw [view_applyClaim (applyClaim_fst_of_ready hclaim.claimantAgrees hpay.ready)]
  exact PoolView.Ready.apply_of_ne hclaim.claimantAgrees hpay.ready hready hscope hne

section

variable {leases leases' : List LeaseCell} {guards guards' : List GuardCell} {g i : ℕ}

theorem Held.cell (hh : Held leases leases' guards guards') {cell : LeaseCell}
    (hcell : leases'[i]? = some cell) :
    ∃ before, leases[i]? = some before ∧ before.inner = cell.inner := by
  have hinner := hh.inner i
  rw [hcell, Option.map_some, eq_comm, Option.map_eq_some_iff] at hinner
  exact hinner

theorem Held.guarding_back {inner : LootClaimLeaseInner} (hh : Held leases leases' guards guards')
    (hg : Guarding leases' guards' g i inner) : Guarding leases guards g i inner := by
  obtain ⟨cell, hlease, rfl⟩ := hg.lease
  exact ⟨(hh.guarding g i).mp hg.guard, hh.cell hlease⟩

theorem Consistent.hold (h : Consistent state leases guards) (hh : Held leases leases' guards guards')
    (howned : state.retired = false → ∀ key token, state.reservations.lookup key = some token →
      ∃ i, Owner state leases' guards' key token i) :
    Consistent state leases' guards' := by
  refine
    { sound := h.sound
      claims := fun i cell hi => ?_
      owned := howned
      guarded := fun key token hkey => ?_
      guarding := fun g i inner hg => h.guarding g i inner (hh.guarding_back hg)
      unique := fun g i inner g' i' inner' hg hg' =>
        h.unique g i inner g' i' inner' (hh.guarding_back hg) (hh.guarding_back hg')
      resolved := fun g guard cell hguard hresolved hlease => ?_
      inRange := fun guard hguard => ?_ }
  · obtain ⟨before, hbefore, hinner⟩ := hh.cell hi
    exact hinner ▸ h.claims i before hbefore
  · obtain ⟨g, i, inner, ⟨hguard, cell, hlease, rfl⟩, hinner⟩ := h.guarded key token hkey
    have := hh.inner i
    rw [hlease, Option.map_some, Option.map_eq_some_iff] at this
    exact ⟨g, i, cell.inner, ⟨(hh.guarding g i).mpr hguard, this⟩, hinner⟩
  · obtain ⟨before, hbefore, hclaim, hres⟩ := hh.resolved g guard hguard
    obtain ⟨cell', hcell', hinner⟩ := hh.cell hlease
    rw [← hinner]
    exact h.resolved g before cell' hbefore (hres hresolved) (hclaim ▸ hcell')
  · obtain ⟨g, hg⟩ := List.mem_iff_getElem?.mp hguard
    obtain ⟨before, hbefore, hclaim, -⟩ := hh.resolved g guard hg
    have hlt := h.claim_lt hbefore
    rw [hclaim] at hlt
    have := hh.inner guard.claim
    rw [List.getElem?_eq_getElem hlt, Option.map_some, Option.map_eq_some_iff] at this
    obtain ⟨cell, hlease, -⟩ := this
    exact (List.getElem?_eq_some_iff.mp hlease).1

end

theorem Move.consistent {w w' : World} (hmove : Move named w w') (h : w.Consistent) :
    w'.Consistent := by
  cases hmove with
  | edit he => exact h.edited he
  | close hc => exact h.closed hc
  | quarantine => exact h.quarantine
  | drain => exact h.finalize
  | install hi => exact h.installed hi
  | reserve _ hr => exact h.reserve hr
  | persist before active unprotected isOpen holds =>
    exact h.persist before active unprotected isOpen holds.epoch holds.key
  | hold hh owned => exact h.hold hh owned
  | fail settled unprotected lost => exact h.fail settled unprotected lost
  | release settled _ holds alone sound _ _ _ released =>
    exact h.release settled sound released holds.key alone
  | pay settled payable alone =>
    have hclaim := h.claims _ _ settled.before
    exact h.release settled (h.sound.paidState hclaim payable) (released_paidState _ _ _)
      payable.holds.key alone

theorem Moves.consistent {w w' : World} (hmoves : Moves named w w') (h : w.Consistent) :
    w'.Consistent := by
  induction hmoves with
  | refl => exact h
  | tail _ hmove ih => exact hmove.consistent ih

end RustyCore.Loot

/-! ## The code follows the protocol

Each step of a session, on a consistent world, is a sequence of moves. -/

namespace RustyCore.Loot

variable {w : World} {cell : LeaseCell} {state : AuthorityState}
variable {lease : ℕ} {inner : LootClaimLeaseInner}

-- The equations of `step` are made here, once for all the proofs below.
attribute [local simp] World.step

theorem setInner_self (h : w.leases[lease]? = some cell) (state : AuthorityState) :
    (w.setState state).setInner lease cell.inner = w.setState state := by
  unfold World.setInner World.setState
  rw [modify_eq_self_of_fixed]
  intro other hother
  obtain rfl : cell = other := Option.some.inj (h.symm.trans hother)
  rfl

theorem setGuard_self {guard : ℕ} {cell : GuardCell} {f : GuardCell → GuardCell}
    (h : w.guards[guard]? = some cell) (hf : f cell = cell) : w.setGuard guard f = w := by
  unfold World.setGuard
  rw [modify_eq_self_of_fixed]
  intro other hother
  obtain rfl : cell = other := Option.some.inj (h.symm.trans hother)
  exact hf

theorem leaseOf_eq_some (h : w.leaseOf lease = some inner) :
    ∃ cell, w.leases[lease]? = some cell ∧ cell.handles ≠ 0 ∧ cell.inner = inner := by
  unfold World.leaseOf at h
  cases hcell : w.leases[lease]? with
  | none => simp [hcell] at h
  | some cell =>
    by_cases hzero : cell.handles = 0
    · simp [hcell, hzero] at h
    · exact ⟨cell, rfl, hzero, by simpa [hcell, hzero] using h⟩

theorem guardOf_eq_some {guard : ℕ} {cell : GuardCell} (h : w.guardOf guard = some (cell, inner)) :
    w.guards[guard]? = some cell ∧ cell.live = true ∧
      ∃ lease, w.leases[cell.claim]? = some lease ∧ lease.inner = inner := by
  unfold World.guardOf at h
  cases hguard : w.guards[guard]? with
  | none => simp [hguard] at h
  | some guardCell =>
    by_cases hlive : guardCell.live = true
    · cases hlease : w.leases[guardCell.claim]? with
      | none => simp [hguard, hlive, hlease] at h
      | some lease =>
        obtain ⟨rfl, rfl⟩ : guardCell = cell ∧ lease.inner = inner := by
          simpa [hguard, hlive, hlease] using h
        exact ⟨rfl, hlive, lease, hlease, rfl⟩
    · simp [hguard, hlive] at h

/-! ## Guards and protection -/

namespace Consistent

variable {named : ObjectGuid → Prop} {w : World}
variable {lease guard : ℕ} {inner : LootClaimLeaseInner}

theorem alone_of_unprotected (h : w.Consistent) (hnot : isPersisting w.state inner = false) :
    Alone w lease inner := by
  rintro g i other hg - ⟨hkey, htoken⟩
  have hp := (h.guarding g i other hg).2
  rw [← hkey, ← htoken, ← isPersisting_iff, hnot] at hp
  cases hp

theorem alone_of_guarding (h : w.Consistent) (hg : Guarding w.leases w.guards guard lease inner) :
    Alone w lease inner := by
  rintro g i other hg' hne ⟨hkey, -⟩
  have hsame := h.unique _ _ _ _ _ _ hg' hg hkey.symm
  have hguard := hg'.guard
  rw [hsame, hg.guard] at hguard
  exact hne (congrArg GuardCell.claim (Option.some.inj hguard)).symm

theorem guarding_of_active (h : w.Consistent) {cell : GuardCell} {lease : LeaseCell}
    (hguard : w.guards[guard]? = some cell) (hlive : cell.live = true)
    (hlease : w.leases[cell.claim]? = some lease) (hactive : lease.inner.status = .active) :
    Guarding w.leases w.guards guard cell.claim lease.inner := by
  have hresolved : cell.resolved = false := by
    cases hr : cell.resolved with
    | false => rfl
    | true => exact absurd hactive (h.resolved guard cell lease hguard hr hlease)
  refine ⟨?_, lease, hlease, rfl⟩
  rw [hguard]
  cases cell
  simp_all

theorem resolved_of_inactive (h : w.Consistent) {cell : GuardCell} {lease : LeaseCell}
    (hguard : w.guards[guard]? = some cell) (hlive : cell.live = true)
    (hlease : w.leases[cell.claim]? = some lease) (hstatus : lease.inner.status ≠ .active) :
    cell.resolved = true := by
  by_contra hresolved
  rw [Bool.not_eq_true] at hresolved
  refine hstatus (h.guarding guard cell.claim lease.inner ⟨?_, lease, hlease, rfl⟩).1.active
  rw [hguard]
  cases cell
  simp_all

theorem holds_of_guarding (h : w.Consistent) (hg : Guarding w.leases w.guards guard lease inner) :
    Holds w.state inner ∧ isPersisting w.state inner = true := by
  obtain ⟨hmatch, hp⟩ := h.guarding guard lease inner hg
  exact ⟨⟨hmatch.epoch, h.sound.persisting _ _ hp⟩, isPersisting_iff.mpr hp⟩

theorem settled_handle (h : w.Consistent) (status : LeaseStatus) {f : LeaseCell → LeaseCell}
    (hcell : w.leases[lease]? = some cell) (hnot : isPersisting w.state cell.inner = false)
    (hf : (f cell).inner = { cell.inner with status := status }) (hstatus : status ≠ .active) :
    Settled w.leases (w.leases.modify lease f) w.guards w.guards lease cell (f cell) where
  before := hcell
  after := by simp [hcell]
  other := fun i hi => List.getElem?_modify_ne f w.leases (Ne.symm hi)
  length := List.length_modify f w.leases lease
  same := by rw [hf]
  inactive := by rw [hf]; exact hstatus
  kept := fun _ _ _ => Iff.rfl
  count := fun _ _ => rfl
  done := fun g hg => by
    have hp := (h.holds_of_guarding ⟨hg, cell, hcell, rfl⟩).2
    rw [hnot] at hp
    cases hp

theorem settled_guard (h : w.Consistent) (status : LeaseStatus) (k : GuardCell → GuardCell)
    (hcell : w.leases[lease]? = some cell)
    (hg : Guarding w.leases w.guards guard lease cell.inner) (hstatus : status ≠ .active)
    (hclaim : ∀ g, (k g).claim = g.claim) (hk : ∀ g, (k g).resolved = true ∨ (k g).live = false) :
    Settled w.leases
      (w.leases.modify lease (fun c => { c with inner := { cell.inner with status := status } }))
      w.guards (w.guards.modify guard k) lease cell
      { cell with inner := { cell.inner with status := status } } where
  before := hcell
  after := by simp [hcell]
  other := fun i hi => List.getElem?_modify_ne _ w.leases (Ne.symm hi)
  length := List.length_modify _ w.leases lease
  same := rfl
  inactive := hstatus
  kept := fun g other hother => by
    by_cases hgg : guard = g
    · subst hgg
      rw [List.getElem?_modify_eq, hg.guard]
      constructor
      · intro heq
        have : k _ = other := Option.some.inj heq
        exact absurd (by rw [← this, hclaim]) hother
      · intro heq
        exact absurd (by rw [← Option.some.inj heq]) hother
    · rw [List.getElem?_modify_ne k w.guards hgg]
  count := fun i hi => by
    apply countP_modify
    intro other hother
    obtain rfl := Option.some.inj (hg.guard.symm.trans hother)
    have hne : (lease == i) = false := by simpa using Ne.symm hi
    simp [hclaim, hne]
  done := fun g heq => by
    by_cases hgg : guard = g
    · subst hgg
      rw [List.getElem?_modify_eq, hg.guard] at heq
      have hkeq := Option.some.inj heq
      rcases hk { claim := lease, resolved := false, live := true } with hres | hdead
      · rw [hkeq] at hres
        cases hres
      · rw [hkeq] at hdead
        cases hdead
    · rw [List.getElem?_modify_ne k w.guards hgg] at heq
      exact hgg (h.unique _ _ _ _ _ _ hg ⟨heq, cell, hcell, rfl⟩ rfl)

end Consistent

/-! ## Leases -/

theorem logCommit_error (w : World) (lease : LootClaimLeaseInner) (error : LootClaimCommitError) :
    w.logCommit lease (.error error) = w := rfl

theorem logCommit_repeat (w : World) (lease : LootClaimLeaseInner) :
    w.logCommit lease (.ok { firstCommit := false, snapshot := none }) = w := rfl

theorem rollbackClaim_refused {lease : LootClaimLeaseInner}
    (h : lease.status ≠ .active ∨ isPersisting state lease = true) :
    rollbackClaim state lease = (false, state, lease) := by
  unfold rollbackClaim
  by_cases hstatus : lease.status ≠ .active
  · rw [if_pos hstatus]
  · rw [if_neg hstatus, if_pos (h.resolve_left hstatus)]

theorem rollbackClaim_inner {lease : LootClaimLeaseInner} (hstatus : lease.status = .active)
    (hnot : isPersisting state lease = false) :
    (rollbackClaim state lease).2.2 = { lease with status := .rolledBack } := by
  simp [rollbackClaim, hstatus, hnot]

namespace Consistent

variable {named : ObjectGuid → Prop} {w : World}

theorem moves_commitLease (h : w.Consistent) (lease : ℕ) :
    Moves named w (w.step (.commitLease lease)) := by
  simp only [World.step]
  cases hlease : w.leaseOf lease with
  | none => exact .refl
  | some inner =>
    obtain ⟨cell, hcell, -, rfl⟩ := leaseOf_eq_some hlease
    simp only
    have hspec : CommitSpec w.state cell.inner false _ :=
      commitClaimWithSnapshot_spec h.sound (h.claims lease cell hcell) (by simp)
    generalize commitClaimWithSnapshot w.state cell.inner false = result at hspec ⊢
    cases hspec with
    | committed =>
      rw [logCommit_repeat, setInner_self hcell]
      exact .refl
    | refused =>
      rw [logCommit_error, setInner_self hcell]
      exact .refl
    | failed active unprotected lost =>
      exact .single (.fail (h.settled_handle .rolledBack hcell unprotected rfl nofun) unprotected lost)
    | paid payable permitted =>
      have unprotected := permitted.resolve_left (by simp)
      exact .tail (.single (.pay (h.settled_handle .committed hcell unprotected rfl nofun) payable
        (h.alone_of_unprotected unprotected))) .drain

/-- What a rollback of an unprotected lease does, whatever happens to its handles. -/
theorem moves_rollback (h : w.Consistent) (hcell : w.leases[lease]? = some cell)
    (f : LeaseCell → LeaseCell) (hf : (f cell).inner = { cell.inner with status := .rolledBack })
    (hactive : cell.inner.status = .active) (hnot : isPersisting w.state cell.inner = false) :
    Moves named w
      { w with
        state := (rollbackClaim w.state cell.inner).2.1
        leases := w.leases.modify lease f } := by
  have hspec := rollbackClaim_spec w.state cell.inner
  generalize rollbackClaim w.state cell.inner = result at hspec ⊢
  cases hspec with
  | refused settled =>
    rcases settled with hstatus | hpersisting
    · exact absurd hactive hstatus
    · rw [hnot] at hpersisting
      cases hpersisting
  | failed active unprotected lost =>
    exact .tail (.single (.fail (h.settled_handle .rolledBack hcell unprotected hf nofun) unprotected lost))
      .drain
  | released active unprotected holds =>
    -- The key is not persisting, so releasing it from both maps is the same.
    have hrelease : { w.state with
        reservations := AList.erase cell.inner.key w.state.reservations } =
        releaseKey w.state cell.inner.key := by
      rw [releaseKey, Dict.erase_of_lookup_eq_none (h.sound.persisting_eq_none holds unprotected)]
    rw [hrelease]
    exact .tail (.single (.release (h.settled_handle .rolledBack hcell unprotected hf nofun) active holds
      (h.alone_of_unprotected unprotected) (h.sound.releaseKey _)
      (fun scope => by cases scope <;> rfl) rfl rfl (released_releaseKey _ _))) .drain

theorem moves_rollbackLease (h : w.Consistent) (lease : ℕ) :
    Moves named w (w.step (.rollbackLease lease)) := by
  simp only [World.step]
  cases hlease : w.leaseOf lease with
  | none => exact .refl
  | some inner =>
    obtain ⟨cell, hcell, -, rfl⟩ := leaseOf_eq_some hlease
    simp only
    by_cases hrefused : cell.inner.status ≠ .active ∨ isPersisting w.state cell.inner = true
    · rw [rollbackClaim_refused hrefused, setInner_self hcell]
      exact .refl
    · rw [not_or, not_not, Bool.not_eq_true] at hrefused
      have hinner : (rollbackClaim w.state cell.inner).2.2 =
          { cell.inner with status := .rolledBack } :=
        rollbackClaim_inner hrefused.1 hrefused.2
      simp only [hinner]
      exact h.moves_rollback hcell _ rfl hrefused.1 hrefused.2

theorem moves_beginPersistence (h : w.Consistent) (lease : ℕ) :
    Moves named w (w.step (.beginPersistence lease)) := by
  simp only [World.step]
  cases hlease : w.leaseOf lease with
  | none => exact .refl
  | some inner =>
    obtain ⟨cell, hcell, -, rfl⟩ := leaseOf_eq_some hlease
    simp only
    have hspec := beginClaimPersistence_spec w.state cell.inner
    generalize beginClaimPersistence w.state cell.inner = result at hspec ⊢
    cases hspec with
    | refused =>
      simp only
      rw [setInner_self hcell]
      exact .refl
    | failed active unprotected lost =>
      exact .single (.fail (h.settled_handle .rolledBack hcell unprotected rfl nofun)
        unprotected lost)
    | ok active unprotected isOpen holds =>
      simp only
      rw [setInner_self hcell]
      exact .single (.persist hcell active unprotected isOpen holds)

/-! ## Handles -/

theorem held_handles (leases : List LeaseCell) (guards : List GuardCell) (lease : ℕ)
    (f : ℕ → ℕ) :
    Held leases (leases.modify lease (fun cell => { cell with handles := f cell.handles })) guards
      guards where
  inner := fun i => by
    rw [List.getElem?_modify]
    cases leases[i]? with
    | none => rfl
    | some cell =>
      by_cases hi : lease = i <;> simp [hi]
  guarding := fun _ _ => Iff.rfl
  resolved := fun g guard hguard => ⟨guard, hguard, rfl, id⟩

theorem Owner.of_held {leases leases' : List LeaseCell} {guards guards' : List GuardCell}
    {key : ReservationKey} {token i : ℕ} (ho : Owner state leases guards key token i)
    (hh : Held leases leases' guards guards') (halive : 0 < strongCount leases' guards' i) :
    Owner state leases' guards' key token i := by
  obtain ⟨⟨cell, hcell, hmatch⟩, -⟩ := ho
  have hinner := hh.inner i
  rw [hcell, Option.map_some, Option.map_eq_some_iff] at hinner
  obtain ⟨cell', hcell', hsame⟩ := hinner
  exact ⟨⟨cell', hcell', hsame ▸ hmatch⟩, halive⟩

theorem strongCount_modify (leases : List LeaseCell) (guards : List GuardCell) (lease i : ℕ)
    (f : LeaseCell → LeaseCell) (h : i ≠ lease) :
    strongCount (leases.modify lease f) guards i = strongCount leases guards i := by
  rw [strongCount, List.getElem?_modify_ne f leases (Ne.symm h), strongCount]

theorem moves_cloneLease (h : w.Consistent) (lease : ℕ) :
    Moves named w (w.step (.cloneLease lease)) := by
  simp only [World.step]
  cases hlease : w.leaseOf lease with
  | none => exact .refl
  | some inner =>
    have hheld := held_handles w.leases w.guards lease (· + 1)
    refine .single (.hold hheld fun hactive key token hkey => ?_)
    obtain ⟨i, ho⟩ := h.owned hactive key token hkey
    refine ⟨i, Consistent.Owner.of_held ho hheld ?_⟩
    by_cases hi : i = lease
    · subst hi
      obtain ⟨cell, hcell, -⟩ := ho.cell
      simp only [strongCount, List.getElem?_modify_eq, hcell, Option.map_eq_map, Option.map_some,
        Option.elim_some]
      omega
    · rw [strongCount_modify _ _ _ _ _ hi]
      exact ho.alive

theorem dropInnerIfUnused_of_inactive (hcell : w.leases[lease]? = some cell)
    (hstatus : cell.inner.status ≠ .active) : w.dropInnerIfUnused lease = w := by
  unfold World.dropInnerIfUnused
  simp only [hcell]
  split
  · rw [rollbackClaim_refused (Or.inl hstatus), setInner_self hcell]
    rfl
  · rfl

theorem moves_dropLease (h : w.Consistent) (lease : ℕ) : Moves named w (w.step (.dropLease lease)) := by
  simp only [World.step]
  cases hlease : w.leaseOf lease with
  | none => exact .refl
  | some inner =>
    obtain ⟨cell, hcell, -, rfl⟩ := leaseOf_eq_some hlease
    simp only
    have hheld := held_handles w.leases w.guards lease (· - 1)
    set dropped := w.setHandles lease (· - 1) with hdropped
    have hcell' : dropped.leases[lease]? =
        some { cell with handles := cell.handles - 1 } := by
      simp [hdropped, World.setHandles, hcell]
    -- The handle alone goes away: whoever owned an entry still owns it, or a guard does.
    have hhold : (cell.inner.status ≠ .active ∨ isPersisting w.state cell.inner = true ∨
        strongCount dropped.leases dropped.guards lease ≠ 0) → Moves named w dropped := by
      intro hcase
      refine .single (.hold hheld fun hactive key token hkey => ?_)
      obtain ⟨i, ho⟩ := h.owned hactive key token hkey
      by_cases hi : i = lease
      · subst hi
        obtain ⟨other, hother, hmatch⟩ := ho.cell
        obtain rfl : cell = other := Option.some.inj (hcell.symm.trans hother)
        rcases hcase with hstatus | hpersisting | hcount
        · exact absurd hmatch.active hstatus
        · rw [isPersisting_iff, hmatch.sameKey, hmatch.sameToken] at hpersisting
          obtain ⟨g, j, inner, hg, hkeyEq, htoken⟩ := h.guarded key token hpersisting
          obtain ⟨hmatch', -⟩ := h.guarding g j inner hg
          obtain ⟨jcell, hjcell, rfl⟩ := hg.lease
          rw [hkeyEq, htoken] at hmatch'
          refine ⟨j, Owner.of_held ⟨⟨jcell, hjcell, hmatch'⟩, hg.alive⟩ hheld ?_⟩
          refine Nat.add_pos_right _ (List.countP_pos_iff.mpr
            ⟨_, List.mem_of_getElem? hg.guard, by simp⟩)
        · exact ⟨i, Owner.of_held ho hheld (Nat.pos_of_ne_zero hcount)⟩
      · refine ⟨i, Owner.of_held ho hheld ?_⟩
        rw [strongCount_modify _ _ _ _ _ hi]
        exact ho.alive
    by_cases hsettled : cell.inner.status ≠ .active
    · rw [dropInnerIfUnused_of_inactive hcell' hsettled]
      exact hhold (Or.inl hsettled)
    rw [not_not] at hsettled
    unfold World.dropInnerIfUnused
    simp only [hcell']
    split
    · cases hpersisting : isPersisting w.state cell.inner with
      | true =>
        rw [show dropped.state = w.state from rfl, rollbackClaim_refused (Or.inr hpersisting),
          setInner_self hcell']
        exact hhold (Or.inr (Or.inl hpersisting))
      | false =>
        rw [show dropped.state = w.state from rfl, rollbackClaim_inner hsettled hpersisting]
        have hmodify : ((dropped.setState (rollbackClaim w.state cell.inner).2.1).setInner lease
            { cell.inner with status := .rolledBack }).leases = w.leases.modify lease
              (fun cell' => { cell' with
                inner := { cell.inner with status := .rolledBack }
                handles := cell'.handles - 1 }) := by
          simp [World.setInner, World.setState, hdropped, World.setHandles,
            List.modify_modify_eq, Function.comp_def]
        have hmoves : Moves named w _ := h.moves_rollback hcell
          (fun cell' => { cell' with
            inner := { cell.inner with status := .rolledBack }
            handles := cell'.handles - 1 }) rfl hsettled hpersisting
        rw [← hmodify] at hmoves
        exact hmoves
    · rename_i hcount
      exact hhold (Or.inr (Or.inr hcount))

/-! ## Guards -/

theorem moves_commitGuard (h : w.Consistent) (guard : ℕ) :
    Moves named w (w.step (.commitGuard guard)) := by
  simp only [World.step]
  cases hguardOf : w.guardOf guard with
  | none => exact .refl
  | some pair =>
    obtain ⟨guardCell, inner⟩ := pair
    obtain ⟨hguard, hlive, cell, hcell, rfl⟩ := guardOf_eq_some hguardOf
    simp only
    have hguarding := h.guarding_of_active hguard hlive hcell
    have hspec : CommitSpec w.state cell.inner true _ :=
      commitClaimWithSnapshot_spec h.sound (h.claims _ cell hcell)
        (fun _ hactive => h.holds_of_guarding (hguarding hactive))
    generalize commitClaimWithSnapshot w.state cell.inner true = result at hspec ⊢
    cases hspec with
    | committed status =>
      -- The lease is committed already, so this guard is the one that committed it.
      have hresolved := h.resolved_of_inactive hguard hlive hcell (by rw [status]; nofun)
      simp only
      rw [setInner_self hcell, logCommit_repeat, show w.setState w.state = w from rfl,
        setGuard_self hguard (by rw [hresolved, Bool.true_or, ← hresolved])]
    | refused =>
      simp only
      rw [setInner_self hcell, logCommit_error, show w.setState w.state = w from rfl,
        setGuard_self hguard (by rw [Except.isOk, Except.toBool, Bool.or_false])]
    | failed active unprotected _ =>
      have hp := (h.holds_of_guarding (hguarding active)).2
      rw [unprotected] at hp
      cases hp
    | paid payable =>
      have hg := hguarding payable.active
      have hsettled := h.settled_guard .committed
        (fun cell => { cell with resolved := cell.resolved || true }) hcell hg nofun
        (fun _ => rfl) (fun g => Or.inl (Bool.or_true g.resolved))
      exact .tail (.single (.pay hsettled payable (h.alone_of_guarding hg))) .drain

theorem moves_quarantineGuard (h : w.Consistent) (guard : ℕ) :
    Moves named w (w.step (.quarantineGuard guard)) := by
  simp only [World.step]
  cases hguardOf : w.guardOf guard with
  | none => exact .refl
  | some pair =>
    obtain ⟨guardCell, inner⟩ := pair
    obtain ⟨hguard, hlive, cell, hcell, rfl⟩ := guardOf_eq_some hguardOf
    simp only
    have hspec := quarantineClaimPersistenceCommitUnknown_spec w.state cell.inner
    generalize quarantineClaimPersistenceCommitUnknown w.state cell.inner = result at hspec ⊢
    cases hspec with
    | refused =>
      simp only
      rw [setInner_self hcell, show w.setState w.state = w from rfl,
        setGuard_self hguard (by rw [Bool.or_false])]
    | released active =>
      have hg := h.guarding_of_active hguard hlive hcell active
      have hsettled := h.settled_guard .quarantined
        (fun cell => { cell with resolved := cell.resolved || true }) hcell hg nofun
        (fun _ => rfl) (fun g => Or.inl (Bool.or_true g.resolved))
      exact .tail (.tail (.single (.release hsettled active (h.holds_of_guarding hg).1
        (h.alone_of_guarding hg) (h.sound.releaseKey _) (fun scope => by cases scope <;> rfl)
        rfl rfl (released_releaseKey _ _))) .quarantine) .drain

theorem moves_dropGuard (h : w.Consistent) (guard : ℕ) :
    Moves named w (w.step (.dropGuard guard)) := by
  simp only [World.step]
  cases hguardOf : w.guardOf guard with
  | none => exact .refl
  | some pair =>
    obtain ⟨guardCell, inner⟩ := pair
    obtain ⟨hguard, hlive, cell, hcell, rfl⟩ := guardOf_eq_some hguardOf
    simp only
    by_cases hactive : cell.inner.status = .active
    · have hg := h.guarding_of_active hguard hlive hcell hactive
      have hresolved : guardCell.resolved = false :=
        congrArg GuardCell.resolved (Option.some.inj (hguard.symm.trans hg.guard))
      have hspec := abortClaimPersistence_spec w.state cell.inner
      generalize abortClaimPersistence w.state cell.inner = result at hspec ⊢
      cases hspec with
      | refused settled =>
        rw [(h.holds_of_guarding hg).2] at settled
        rcases settled with hne | hp
        · exact absurd hactive hne
        · cases hp
      | released _ _ =>
        simp only [hresolved, Bool.false_eq_true, if_false]
        have hafter : (((w.setState (finalizeClosedStateIfDrained
            (releaseKey w.state cell.inner.key))).setInner guardCell.claim
              { cell.inner with status := .rolledBack }).setGuard guard
                (fun cell => { cell with live := false })).leases[guardCell.claim]? =
            some { cell with inner := { cell.inner with status := .rolledBack } } := by
          simp [World.setGuard, World.setInner, World.setState, hcell]
        rw [dropInnerIfUnused_of_inactive hafter nofun]
        have hsettled := h.settled_guard .rolledBack (fun cell => { cell with live := false })
          hcell hg nofun (fun _ => rfl) (fun _ => Or.inr rfl)
        exact .tail (.single (.release hsettled hactive (h.holds_of_guarding hg).1
          (h.alone_of_guarding hg) (h.sound.releaseKey _) (fun scope => by cases scope <;> rfl)
          rfl rfl (released_releaseKey _ _))) .drain
    · -- The lease is settled, so only the guard itself goes away.
      have hresolved := h.resolved_of_inactive hguard hlive hcell hactive
      simp only [hresolved, if_true]
      rw [dropInnerIfUnused_of_inactive (show (w.setGuard guard _).leases[guardCell.claim]? = _ from
        hcell) hactive]
      refine .single (.hold ⟨fun _ => rfl, fun g claim => ?_, fun g other hother => ?_⟩ ?_)
      · by_cases hgg : guard = g
        · subst hgg
          rw [List.getElem?_modify_eq, hguard]
          constructor
          · intro heq
            exact absurd (congrArg GuardCell.live (Option.some.inj heq)) nofun
          · intro heq
            rw [Option.some.inj heq] at hresolved
            cases hresolved
        · rw [List.getElem?_modify_ne _ w.guards hgg]
      · by_cases hgg : guard = g
        · subst hgg
          rw [List.getElem?_modify_eq, hguard] at hother
          obtain rfl := Option.some.inj hother
          exact ⟨guardCell, hguard, rfl, id⟩
        · rw [List.getElem?_modify_ne _ w.guards hgg] at hother
          exact ⟨other, hother, rfl, id⟩
      · intro hopen key token hkey
        obtain ⟨i, hcellOwner, halive⟩ := h.owned hopen key token hkey
        refine ⟨i, hcellOwner, ?_⟩
        have hne : (guardCell.claim == i) = false := by
          rw [beq_eq_false_iff_ne]
          rintro rfl
          obtain ⟨other, hother, hmatch⟩ := hcellOwner
          obtain rfl : cell = other := Option.some.inj (hcell.symm.trans hother)
          exact hactive hmatch.active
        unfold strongCount
        rw [countP_modify]
        · exact halive
        · intro other hother
          obtain rfl : guardCell = other := Option.some.inj (hguard.symm.trans hother)
          simp [hne]

/-! ## Every operation -/

theorem moves_install {shared : Option CreatureLoot} {personal : Dict ObjectGuid CreatureLoot}
    {result : LootInstallOutcome × AuthorityState}
    (hspec : InstallSpec w.state shared personal result) :
    Moves named w (w.install shared personal result) := by
  cases hspec with
  | installed hi => exact .single (.install hi)
  | refused => exact .refl

theorem moves_reserve {player : ObjectGuid} {attempt : ReserveAttempt × AuthorityState}
    (hnamed : named player) (hspec : ReserveSpec w.state player attempt) : Moves named w (w.reserve player attempt) := by
  cases hspec with
  | acquired hr => exact .single (.reserve hnamed hr)
  | wait => exact .refl
  | rejected => exact .refl

theorem moves_close {state' : AuthorityState} (h : state' = w.state ∨ Closed w.state state') :
    Moves named w (w.setState state') := by
  rcases h with rfl | hc
  · exact .refl
  · exact .single (.close hc)

/-- Each operation of a session is a sequence of moves. -/
theorem moves_step (h : w.Consistent) {op : Op} (hnamed : ∀ player ∈ op.claimant, named player) :
    Moves named w (w.step op) := by
  cases op with
  | initializePristine shared personal => exact moves_install (initializePristine_spec _ _ _)
  | replaceRetiredGeneration expected shared personal =>
    simp only [World.step]
    rcases replaceRetiredGeneration_spec w.state expected shared personal with heq | ⟨e, s, hi, heq⟩
    · rw [heq]
      exact .refl
    · rw [heq]
      exact .single (.install hi)
  | replace shared personal =>
    simp only [World.step]
    rcases replace_spec w.state shared personal with heq | ⟨e, s, hi, heq⟩
    · rw [heq]
      exact .refl
    · rw [heq]
      cases e with
      | zero => exact absurd hi.epoch.symm h.sound.nextScopeEpoch
      | succ e => exact .single (.install hi)
  | initializeShared loot => exact moves_install (initializeShared_spec h.sound loot)
  | upsertPersonal player loot replace =>
    exact moves_install (upsertPersonal_spec h.sound player loot replace)
  | retire => exact moves_close (closed_retire w.state)
  | detach => exact moves_close (closed_detach w.state)
  | detachIfStamp expected => exact moves_close (closed_detachIfStamp w.state expected)
  | tryOpenView player accept => exact .single (.edit (edited_tryOpenView w.state player _))
  | removeViewer player => exact .single (.edit (edited_removeViewer w.state player))
  | removeViewerIfGeneration expected player =>
    exact .single (.edit (edited_removeViewerIfGeneration w.state expected player))
  | closeViewerIfGeneration expected player =>
    exact .single (.edit (edited_closeViewerIfGeneration w.state expected player))
  | clearRoundRobinIfGeneration expected player =>
    exact .single (.edit (edited_clearRoundRobinIfGeneration w.state expected player))
  | finishItemRoll player expected lootListId underThreshold winner =>
    exact .single (.edit (edited_finishItemRoll w.state player expected lootListId _ winner))
  | finishItemRollAndReserveAward scopePlayer expected lootListId winner =>
    simp only [World.step]
    have hspec := finishItemRollAndReserveAward_spec w.state scopePlayer expected lootListId winner
    generalize finishItemRollAndReserveAwardLikeCpp w.state scopePlayer expected lootListId winner =
      result at hspec ⊢
    cases hspec with
    | ok edit hr => exact .tail (.single (.edit edit)) (.reserve (hnamed winner rfl) hr)
    | error edit => exact .single (.edit edit)
  | reserveItem player lootListId mode expected =>
    exact moves_reserve (hnamed player rfl)
      (reserveItemOnce_spec w.state player lootListId mode expected)
  | reserveMoney player expected =>
    exact moves_reserve (hnamed player rfl) (reserveMoneyOnce_spec w.state player expected)
  | cloneLease lease => exact h.moves_cloneLease lease
  | dropLease lease => exact h.moves_dropLease lease
  | beginPersistence lease => exact h.moves_beginPersistence lease
  | commitLease lease => exact h.moves_commitLease lease
  | rollbackLease lease => exact h.moves_rollbackLease lease
  | commitGuard guard => exact h.moves_commitGuard guard
  | quarantineGuard guard => exact h.moves_quarantineGuard guard
  | dropGuard guard => exact h.moves_dropGuard guard

theorem moves_step_of_any (h : w.Consistent) (op : Op) : Moves (fun _ => True) w (w.step op) :=
  h.moves_step fun _ _ => trivial

theorem step (h : w.Consistent) (op : Op) : (w.step op).Consistent :=
  (h.moves_step_of_any op).consistent h

end Consistent

/-- The two states an authority can be created with. -/
inductive Fresh : AuthorityState → Prop
  | default : Fresh AuthorityState.default
  | tombstone : Fresh AuthorityState.newRetiredTombstoneLikeCpp

theorem Fresh.consistent (h : Fresh state) : (World.init state).Consistent := by
  cases h with
  | default => exact Consistent.init Sound.default (fun _ => rfl) (fun _ => rfl)
  | tombstone => exact Consistent.init Sound.tombstone (fun _ => rfl) (fun _ => rfl)

theorem consistent_run (h : Fresh state) (ops : List Op) :
    (run World.step (World.init state) ops).Consistent :=
  run_invariant_of_all World.Consistent (fun _ op h => h.step op) h.consistent ops

end RustyCore.Loot
