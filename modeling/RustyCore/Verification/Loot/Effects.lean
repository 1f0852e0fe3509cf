import RustyCore.Verification.Loot.PoolView

/-! # What one critical section can do

Every function of the authority does one of a few things to the state: it edits
pools without changing their views, closes the lifetime, installs pools under a
fresh epoch, or takes a reservation. -/

namespace RustyCore.Loot

variable {state : AuthorityState} {scope : OwnedLootScope}

def poolView (state : AuthorityState) (scope : OwnedLootScope) : Option PoolView :=
  (lootForScope state scope).map CreatureLoot.view

theorem poolView_eq_some {view : PoolView} :
    poolView state scope = some view ↔
      ∃ loot, lootForScope state scope = some loot ∧ loot.view = view := by
  simp [poolView]

theorem poolView_isSome : (poolView state scope).isSome = (lootForScope state scope).isSome := by
  simp [poolView]

theorem lootForScope_setLootForScope (state : AuthorityState) (scope scope' : OwnedLootScope)
    (loot : CreatureLoot) :
    lootForScope (setLootForScope state scope loot) scope' =
      if scope' = scope then some loot else lootForScope state scope' := by
  cases scope <;> cases scope' <;> simp [lootForScope, setLootForScope, Dict.lookup_insert_eq]

/-! ## Edits -/

/-- The pools of a state are replaced; nothing else is touched. -/
def SamePoolsAside (state state' : AuthorityState) : Prop :=
  state' = { state with shared := state'.shared, personal := state'.personal }

structure Edited (state state' : AuthorityState) : Prop where
  aside : SamePoolsAside state state'
  view : ∀ scope, poolView state' scope = poolView state scope

theorem samePoolsAside_setLootForScope (state : AuthorityState) (scope : OwnedLootScope)
    (loot : CreatureLoot) : SamePoolsAside state (setLootForScope state scope loot) := by
  cases scope <;> rfl

theorem SamePoolsAside.trans {a b c : AuthorityState} (h : SamePoolsAside a b)
    (h' : SamePoolsAside b c) : SamePoolsAside a c := by
  unfold SamePoolsAside at *
  rw [h', h]

theorem Edited.refl (state : AuthorityState) : Edited state state := ⟨rfl, fun _ => rfl⟩

theorem Edited.trans {a b c : AuthorityState} (h : Edited a b) (h' : Edited b c) : Edited a c :=
  ⟨h.aside.trans h'.aside, fun scope => (h'.view scope).trans (h.view scope)⟩

theorem edited_setLootForScope {loot loot' : CreatureLoot}
    (h : lootForScope state scope = some loot) (hview : loot'.view = loot.view) :
    Edited state (setLootForScope state scope loot') := by
  refine ⟨samePoolsAside_setLootForScope state scope loot', fun scope' => ?_⟩
  unfold poolView
  rw [lootForScope_setLootForScope]
  split_ifs with hs
  · subst hs
    simp [h, hview]
  · rfl

theorem edited_tryOpenView {R : Type} (state : AuthorityState) (player : ObjectGuid)
    (observe : OwnedLootSnapshot → LootViewerOpenOutcome → Option R) :
    Edited state (tryOpenViewWithSnapshotLikeCpp state player observe).2 := by
  unfold tryOpenViewWithSnapshotLikeCpp
  split
  · exact .refl state
  cases hscope : selectedScopeLikeCpp state player with
  | none => exact .refl state
  | some scope =>
    simp only
    cases hepoch : scopeEpoch state scope with
    | none => exact .refl state
    | some generation =>
      simp only
      cases hloot : lootForScope state scope with
      | none => exact .refl state
      | some loot =>
        simp only
        split
        · exact edited_setLootForScope hloot (view_eq_of_items_eq rfl rfl)
        · exact edited_setLootForScope hloot (view_eq_of_items_eq rfl rfl)

theorem edited_removeViewer (state : AuthorityState) (player : ObjectGuid) :
    Edited state (removeViewerLikeCpp state player).2 := by
  unfold removeViewerLikeCpp
  cases hscope : selectedScopeLikeCpp state player with
  | none => exact .refl state
  | some scope =>
    cases hloot : lootForScope state scope with
    | none => simpa only [hloot] using .refl state
    | some loot =>
      simpa only [hloot] using edited_setLootForScope hloot (view_removeViewer loot player)

theorem poolIfGeneration_eq_some {expected : ℕ} {player : ObjectGuid} {loot : CreatureLoot}
    (h : poolIfGeneration state expected player = some (scope, loot)) :
    state.retired = false ∧ selectedScopeLikeCpp state player = some scope ∧
      scopeEpoch state scope = some expected ∧ lootForScope state scope = some loot := by
  unfold poolIfGeneration at h
  by_cases hretired : state.retired = true
  · simp [hretired] at h
  cases hscope : selectedScopeLikeCpp state player with
  | none => simp [hretired, hscope] at h
  | some scope' =>
    by_cases hepoch : scopeEpoch state scope' = some expected
    · cases hloot : lootForScope state scope' with
      | none => simp [hretired, hscope, hepoch, hloot] at h
      | some loot' =>
        simp only [hretired, hscope, hepoch, hloot, Bool.false_eq_true, if_false,
          Option.pure_def, Option.bind_eq_bind, Option.bind_some, ne_eq, not_true_eq_false,
          Option.some.injEq, Prod.mk.injEq] at h
        obtain ⟨rfl, rfl⟩ := h
        exact ⟨by simpa using hretired, rfl, hepoch, hloot⟩
    · simp [hretired, hscope, hepoch] at h

theorem edited_removeViewerIfGeneration (state : AuthorityState) (expected : ℕ)
    (player : ObjectGuid) :
    Edited state (removeViewerIfGenerationLikeCpp state expected player).2 := by
  unfold removeViewerIfGenerationLikeCpp
  cases hpool : poolIfGeneration state expected player with
  | none => exact .refl state
  | some pool =>
    exact edited_setLootForScope (poolIfGeneration_eq_some hpool).2.2.2
      (view_removeViewer pool.2 player)

theorem edited_closeViewerIfGeneration (state : AuthorityState) (expected : ℕ)
    (player : ObjectGuid) :
    Edited state (closeViewerIfGenerationLikeCpp state expected player).2 := by
  unfold closeViewerIfGenerationLikeCpp
  cases hpool : poolIfGeneration state expected player with
  | none => exact .refl state
  | some pool =>
    exact edited_setLootForScope (poolIfGeneration_eq_some hpool).2.2.2
      (view_removeViewer pool.2 player)

theorem edited_clearRoundRobinIfGeneration (state : AuthorityState) (expected : ℕ)
    (player : ObjectGuid) :
    Edited state (clearRoundRobinIfGenerationLikeCpp state expected player).2 := by
  unfold clearRoundRobinIfGenerationLikeCpp
  cases hpool : poolIfGeneration state expected player with
  | none => exact .refl state
  | some pool =>
    refine edited_setLootForScope (poolIfGeneration_eq_some hpool).2.2.2 ?_
    split_ifs
    · exact view_eq_of_items_eq rfl rfl
    · rfl

theorem edited_finishItemRoll (state : AuthorityState) (player : ObjectGuid)
    (expected lootListId : ℕ) (underThreshold : Bool) (winner : Option ObjectGuid) :
    Edited state
      (finishItemRollLikeCpp state player expected lootListId underThreshold winner).2 := by
  unfold finishItemRollLikeCpp
  split
  · exact .refl state
  cases hscope : selectedScopeLikeCpp state player with
  | none => exact .refl state
  | some scope =>
    simp only
    split
    · exact .refl state
    cases hloot : lootForScope state scope with
    | none => exact .refl state
    | some loot =>
      simp only
      cases loot.itemLikeCpp lootListId with
      | none => exact .refl state
      | some entry => exact edited_setLootForScope hloot (view_setItemRoll _ _ _ _ _)

/-! ## Reservations -/

/-- The payload and the claimant of a reservation are those of its key. -/
inductive ClaimOf (player : ObjectGuid) : ReservationKey → LootClaimPayload → Prop
  | item {key : LootItemClaimKey} {entry : LootEntry} (id : entry.lootListId = key.lootListId)
      (claimant : key.claimant = if entry.flags.freeforall then some player else none) :
      ClaimOf player (.item key) (.item entry)
  | money {scope : OwnedLootScope} {coins : ℕ} : ClaimOf player (.money scope) (.money coins)

/-- A successful reservation: a free key of a ready pool, under the pool's epoch. -/
structure Reserved (state : AuthorityState) (player : ObjectGuid) (generation token : ℕ)
    (key : ReservationKey) (payload : LootClaimPayload) (state' : AuthorityState) : Prop where
  active : state.retired = false
  epoch : scopeEpoch state (reservationScope key) = some generation
  free : state.reservations.lookup key = none
  ready : ∃ view, poolView state (reservationScope key) = some view ∧ view.Ready key ∧
    ∀ coins, payload = .money coins → coins = view.coins
  claim : ClaimOf player key payload
  fresh : token = state.nextToken
  eq : state' =
    { state with
      nextToken := nextNonzero state.nextToken
      reservations := AList.insert key token state.reservations }

/-- A reservation attempt either takes a free key or leaves the state alone. -/
inductive ReserveSpec (state : AuthorityState) (player : ObjectGuid) :
    ReserveAttempt × AuthorityState → Prop
  | acquired {generation token : ℕ} {key : ReservationKey} {payload : LootClaimPayload}
      {state' : AuthorityState} (h : Reserved state player generation token key payload state') :
      ReserveSpec state player (.acquired generation token key payload, state')
  | wait : ReserveSpec state player (.wait, state)
  | rejected {error : LootClaimError} : ReserveSpec state player (.rejected error, state)

theorem reserveKey_spec {player : ObjectGuid} {generation : ℕ} {key : ReservationKey}
    {payload : LootClaimPayload} (active : state.retired = false)
    (epoch : scopeEpoch state (reservationScope key) = some generation)
    (ready : ∃ view, poolView state (reservationScope key) = some view ∧ view.Ready key ∧
      ∀ coins, payload = .money coins → coins = view.coins)
    (claim : ClaimOf player key payload) :
    ReserveSpec state player (reserveKey state generation key payload) := by
  unfold reserveKey
  split
  · exact .wait
  · rename_i hfree
    exact .acquired
      { active, epoch, ready, claim
        free := by simpa using hfree
        fresh := rfl
        eq := rfl }

theorem reserveItemOnce_spec (state : AuthorityState) (player : ObjectGuid) (lootListId : ℕ)
    (mode : LootItemClaimMode) (expected : Option ℕ) :
    ReserveSpec state player (reserveItemOnce state player lootListId mode expected) := by
  unfold reserveItemOnce
  split
  · exact .rejected
  rename_i hactive
  cases hscope : selectedScopeLikeCpp state player with
  | none => exact .rejected
  | some scope =>
  cases hepoch : scopeEpoch state scope with
  | none => simpa only [hepoch] using .rejected
  | some generation =>
  simp only [hepoch]
  split
  · exact .rejected
  cases hloot : lootForScope state scope with
  | none => exact .rejected
  | some loot =>
  simp only
  cases hitem : loot.itemLikeCpp lootListId with
  | none => exact .rejected
  | some entry =>
  simp only
  split
  · exact .rejected
  rename_i hlooted
  split
  · exact .rejected
  split
  · exact .rejected
  split
  · exact .rejected
  refine reserveKey_spec (by simpa using hactive) hepoch ⟨loot.view, ?_, ?_, by simp⟩ ?_
  · exact poolView_eq_some.mpr ⟨loot, hloot, rfl⟩
  · refine ⟨entry.view, by simp [CreatureLoot.view, hitem], ?_⟩
    rw [LootEntry.isLootedForPlayerLikeCpp_iff] at hlooted
    unfold ItemView.IsLooted at hlooted
    by_cases hffa : entry.flags.freeforall = true
    · simpa [ItemView.Claimable, LootEntry.view, hffa] using hlooted
    · simpa [ItemView.Claimable, LootEntry.view, hffa] using hlooted
  · exact .item (itemLikeCpp_eq_some hitem) rfl

theorem reserveMoneyOnce_spec (state : AuthorityState) (player : ObjectGuid)
    (expected : Option ℕ) :
    ReserveSpec state player (reserveMoneyOnce state player expected) := by
  unfold reserveMoneyOnce
  split
  · exact .rejected
  rename_i hactive
  cases hscope : selectedScopeLikeCpp state player with
  | none => exact .rejected
  | some scope =>
  cases hepoch : scopeEpoch state scope with
  | none => simpa only [hepoch] using .rejected
  | some generation =>
  simp only [hepoch]
  split
  · exact .rejected
  cases hloot : lootForScope state scope with
  | none => exact .rejected
  | some loot =>
  simp only
  split
  · exact .rejected
  refine reserveKey_spec (by simpa using hactive) hepoch ⟨loot.view, ?_, trivial, ?_⟩ .money
  · exact poolView_eq_some.mpr ⟨loot, hloot, rfl⟩
  · intro coins hcoins
    cases hcoins
    rfl

/-- A finished award roll is an edit, followed by the reservation when it succeeds. -/
inductive AwardSpec (state : AuthorityState) (winner : ObjectGuid) :
    Except LootClaimError (ℕ × ℕ × ReservationKey × LootClaimPayload) × AuthorityState → Prop
  | ok {generation token : ℕ} {key : ReservationKey} {payload : LootClaimPayload}
      {edited state' : AuthorityState} (edit : Edited state edited)
      (h : Reserved edited winner generation token key payload state') :
      AwardSpec state winner (.ok (generation, token, key, payload), state')
  | error {error : LootClaimError} {state' : AuthorityState} (edit : Edited state state') :
      AwardSpec state winner (.error error, state')

theorem finishItemRollAndReserveAward_spec (state : AuthorityState) (scopePlayer : ObjectGuid)
    (expected lootListId : ℕ) (winner : ObjectGuid) :
    AwardSpec state winner
      (finishItemRollAndReserveAwardLikeCpp state scopePlayer expected lootListId winner) := by
  unfold finishItemRollAndReserveAwardLikeCpp
  split
  · exact .error (.refl state)
  cases hscope : selectedScopeLikeCpp state scopePlayer with
  | none => exact .error (.refl state)
  | some scope =>
  simp only
  split
  · exact .error (.refl state)
  split
  · exact .error (.refl state)
  cases hloot : lootForScope state scope with
  | none => exact .error (.refl state)
  | some loot =>
  simp only
  cases loot.itemLikeCpp lootListId with
  | none => exact .error (.refl state)
  | some previous =>
  simp only
  have hedit := edited_setLootForScope hloot (view_setItemRoll loot lootListId false false winner)
  generalize setLootForScope state scope _ = edited at hedit
  have hspec := reserveItemOnce_spec edited winner lootListId .award (some expected)
  generalize reserveItemOnce edited winner lootListId .award (some expected) = attempt at hspec
  have hundo : ∀ loot', lootForScope edited scope = some loot' →
      Edited edited (setLootForScope edited scope (setItemRoll loot' lootListId
        previous.flags.blocked previous.flags.underThreshold previous.rollWinner)) :=
    fun _ hloot' => edited_setLootForScope hloot' (view_setItemRoll _ _ _ _ _)
  cases hspec with
  | acquired h => exact .ok hedit h
  | wait =>
    refine .error (hedit.trans ?_)
    split
    · exact .refl edited
    · exact hundo _ ‹_›
  | rejected =>
    refine .error (hedit.trans ?_)
    split
    · exact .refl edited
    · exact hundo _ ‹_›

/-! ## Closing -/

/-- A closed lifetime keeps its persisting claims; when there is none it is cleared. -/
structure Closed (state state' : AuthorityState) : Prop where
  retired : state'.retired = true
  generation : state'.generation ≠ 0
  nextScopeEpoch : state'.nextScopeEpoch = state.nextScopeEpoch
  nextToken : state'.nextToken = state.nextToken
  persisting : state'.persisting = state.persisting
  reservations : ∀ key token, state'.reservations.lookup key = some token →
    state.reservations.lookup key = some token
  kept : ∀ key token, state.persisting.lookup key = some token →
    state.reservations.lookup key = some token → state'.reservations.lookup key = some token
  pools : (∀ scope, lootForScope state' scope = none ∧ scopeEpoch state' scope = none) ∧
      (∀ key, state.persisting.lookup key = none) ∧ (∀ key, state'.reservations.lookup key = none) ∨
    ∀ scope, lootForScope state' scope = lootForScope state scope ∧
      scopeEpoch state' scope = scopeEpoch state scope

theorem lootForScope_of_empty (hshared : state.shared = none) (hpersonal : state.personal = ∅)
    (scope : OwnedLootScope) : lootForScope state scope = none := by
  cases scope <;> simp [lootForScope, hshared, hpersonal]

theorem finalizeClosedStateIfDrained_cases (state : AuthorityState) :
    finalizeClosedStateIfDrained state = state ∨
      state.retired = true ∧ (∀ key, state.persisting.lookup key = none) ∧
        finalizeClosedStateIfDrained state =
          { state with shared := none, personal := ∅, scopeEpochs := ∅, reservations := ∅ } := by
  unfold finalizeClosedStateIfDrained
  split
  · exact Or.inl rfl
  · rename_i h
    simp only [Bool.or_eq_true, Bool.not_eq_true', not_or, Bool.not_eq_false] at h
    exact Or.inr ⟨h.1, Dict.isEmpty_iff.mp h.2, rfl⟩

theorem closed_finalize {generation : ℕ} {detached quarantined : Bool}
    (hgeneration : generation ≠ 0) :
    Closed state (finalizeClosedStateIfDrained (retainOnlyPersistingReservations
      { state with
        generation := generation
        retired := true
        detached := detached
        quarantined := quarantined })) := by
  set middle := retainOnlyPersistingReservations
    { state with
      generation := generation
      retired := true
      detached := detached
      quarantined := quarantined } with hmiddle
  have hlookup : ∀ key, middle.reservations.lookup key =
      (state.reservations.lookup key).filter
        (fun token => state.persisting.lookup key == some token) :=
    fun key => Dict.lookup_retain _ _ key
  rcases finalizeClosedStateIfDrained_cases middle with h | ⟨-, hdrained, h⟩
  · rw [h]
    refine ⟨rfl, hgeneration, rfl, rfl, rfl, ?_, ?_, Or.inr fun scope => ⟨?_, rfl⟩⟩
    · intro key token hkey
      rw [hlookup, Option.filter_eq_some_iff] at hkey
      exact hkey.1
    · intro key token hpersisting hkey
      rw [hlookup, Option.filter_eq_some_iff]
      exact ⟨hkey, by simpa using hpersisting⟩
    · cases scope <;> rfl
  · rw [h]
    refine ⟨rfl, hgeneration, rfl, rfl, rfl, by simp, ?_, Or.inl ⟨?_, hdrained, by simp⟩⟩
    · intro key token hpersisting
      rw [show state.persisting.lookup key = none from hdrained key] at hpersisting
      cases hpersisting
    · intro scope
      exact ⟨lootForScope_of_empty rfl rfl scope, by simp [scopeEpoch]⟩

theorem closed_detachState (state : AuthorityState) : Closed state (detachState state) :=
  closed_finalize (Nat.one_le_iff_ne_zero.mp (one_le_nextNonzero _))

theorem closed_detach (state : AuthorityState) :
    (detachLikeCpp state).2 = state ∨ Closed state (detachLikeCpp state).2 := by
  unfold detachLikeCpp
  split
  · exact Or.inl rfl
  · exact Or.inr (closed_detachState state)

theorem closed_detachIfStamp (state : AuthorityState) (expected : OwnedLootAuthorityStamp) :
    (detachIfStampLikeCpp state expected).2 = state ∨
      Closed state (detachIfStampLikeCpp state expected).2 := by
  unfold detachIfStampLikeCpp
  split
  · exact Or.inl rfl
  split
  · exact Or.inl rfl
  · exact Or.inr (closed_detachState state)

theorem closed_retire (state : AuthorityState) :
    (retireLikeCpp state).2 = state ∨ Closed state (retireLikeCpp state).2 := by
  unfold retireLikeCpp
  split
  · exact Or.inl rfl
  · exact Or.inr (closed_finalize (Nat.one_le_iff_ne_zero.mp (one_le_nextNonzero _)))

end RustyCore.Loot
