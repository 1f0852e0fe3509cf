import RustyCore.Verification.Loot.Effects

/-! # Installs

Whichever entry point installs pools, each scope meets one of three fates: it gets a
pool under the fresh epoch, it loses its epoch, or it is kept as it was. A scope with
a persisting claim is always kept. -/

namespace RustyCore.Loot

variable {state : AuthorityState}

/-- What holds of every reachable state, whatever the leases are. -/
structure Sound (state : AuthorityState) : Prop where
  pristine : state.generation = 0 →
    state.retired = true ∧ ∀ key, state.persisting.lookup key = none
  epochPool : ∀ scope epoch, scopeEpoch state scope = some epoch →
    (lootForScope state scope).isSome
  reserved : ∀ key token, state.reservations.lookup key = some token →
    (scopeEpoch state (reservationScope key)).isSome ∧
      ∃ view, poolView state (reservationScope key) = some view ∧ view.Ready key
  persisting : ∀ key token, state.persisting.lookup key = some token →
    state.reservations.lookup key = some token
  nextScopeEpoch : state.nextScopeEpoch ≠ 0

theorem Sound.generation_ne_zero (h : Sound state) (hactive : state.retired = false) :
    state.generation ≠ 0 := by
  intro hzero
  rw [(h.pristine hzero).1] at hactive
  cases hactive

theorem Sound.not_reserved (h : Sound state) {key : ReservationKey}
    (hpool : lootForScope state (reservationScope key) = none) :
    state.reservations.lookup key = none := by
  cases hkey : state.reservations.lookup key with
  | none => rfl
  | some token =>
    obtain ⟨-, view, hview, -⟩ := h.reserved key token hkey
    simp [poolView, hpool] at hview

theorem Sound.scopeEpoch_eq_none (h : Sound state) {scope : OwnedLootScope}
    (hpool : lootForScope state scope = none) : scopeEpoch state scope = none := by
  cases hepoch : scopeEpoch state scope with
  | none => rfl
  | some epoch =>
    have := h.epochPool scope epoch hepoch
    simp [hpool] at this

/-- No claim of this scope survives the install. -/
def ScopeFree (state state' : AuthorityState) (scope : OwnedLootScope) : Prop :=
  ∀ key, reservationScope key = scope →
    state'.reservations.lookup key = none ∧ state.persisting.lookup key = none

inductive ScopeInstall (state state' : AuthorityState) (install : LootInstall)
    (scope : OwnedLootScope) : Prop
  | fresh (loot : CreatureLoot) (installed : install.loot scope = some loot)
      (epoch : scopeEpoch state' scope = some install.epoch)
      (pool : lootForScope state' scope = some loot) (free : ScopeFree state state' scope)
  | gone (epoch : scopeEpoch state' scope = none) (free : ScopeFree state state' scope)
  | kept (active : state.retired = false)
      (epoch : scopeEpoch state' scope = scopeEpoch state scope)
      (pool : lootForScope state' scope = lootForScope state scope)
      (reservations : ∀ key, reservationScope key = scope →
        state'.reservations.lookup key = state.reservations.lookup key)

structure Installed (state state' : AuthorityState) (install : LootInstall) : Prop where
  epoch : install.epoch = state.nextScopeEpoch
  nextScopeEpoch : state'.nextScopeEpoch = nextNonzero state.nextScopeEpoch
  nextToken : state'.nextToken = state.nextToken
  active : state'.retired = false
  generation : state'.generation ≠ 0
  persisting : ∀ key, state'.persisting.lookup key = state.persisting.lookup key
  scope : ∀ scope, ScopeInstall state state' install scope

/-! ## Whole-object installs -/

theorem lookup_foldl_insert_personal (epoch : ℕ) (players : List ObjectGuid)
    (base : Dict OwnedLootScope ℕ) (scope : OwnedLootScope) :
    (players.foldl (fun epochs player => AList.insert (.personal player) epoch epochs) base).lookup
        scope =
      if ∃ player ∈ players, scope = .personal player then some epoch else base.lookup scope := by
  induction players generalizing base with
  | nil => simp
  | cons player players ih =>
    rw [List.foldl_cons, ih, Dict.lookup_insert_eq]
    by_cases htail : ∃ p ∈ players, scope = .personal p
    · obtain ⟨p, hp, hscope⟩ := htail
      rw [if_pos ⟨p, hp, hscope⟩, if_pos ⟨p, List.mem_cons_of_mem _ hp, hscope⟩]
    · rw [if_neg htail]
      by_cases hhead : scope = .personal player
      · rw [if_pos hhead, if_pos ⟨player, by simp, hhead⟩]
      · rw [if_neg hhead, if_neg]
        rintro ⟨p, hp, hscope⟩
        rcases List.mem_cons.mp hp with rfl | hp
        · exact hhead hscope
        · exact htail ⟨p, hp, hscope⟩

theorem scopeEpoch_installAllScopeEpochs (state : AuthorityState) (epoch : ℕ)
    (scope : OwnedLootScope) :
    scopeEpoch (installAllScopeEpochs state epoch) scope =
      (lootForScope state scope).map (fun _ => epoch) := by
  unfold scopeEpoch installAllScopeEpochs
  simp only [lookup_foldl_insert_personal]
  cases scope with
  | shared =>
    cases hshared : state.shared with
    | none => simp [lootForScope, hshared]
    | some loot =>
      simp [lootForScope, hshared]
  | personal player =>
    have hbase : (if state.shared.isSome then AList.insert .shared epoch ∅
        else (∅ : Dict OwnedLootScope ℕ)).lookup (.personal player) = none := by
      split_ifs <;> simp
    rw [hbase]
    cases hpool : state.personal.lookup player with
    | none =>
      have hmem : player ∉ state.personal.keys := fun h =>
        (AList.lookup_eq_none.mp hpool) (AList.mem_keys.mpr h)
      simp [lootForScope, hpool, hmem]
    | some loot =>
      have hmem : player ∈ state.personal.keys :=
        AList.mem_keys.mp (AList.lookup_isSome.mp (by simp [hpool]))
      simp [lootForScope, hpool, hmem]

theorem installed_installPools {generation : ℕ}
    (hpersisting : Dict.isEmpty state.persisting = true) (hgeneration : generation ≠ 0)
    (shared : Option CreatureLoot) (personal : Dict ObjectGuid CreatureLoot) :
    Installed state (installPools state generation shared personal).2
      { epoch := (installPools state generation shared personal).1, shared, personal } := by
  have hdrained := Dict.isEmpty_iff.mp hpersisting
  refine
    { epoch := rfl, nextScopeEpoch := rfl, nextToken := rfl, active := rfl
      generation := hgeneration
      persisting := fun key => by simp [installPools, hdrained key, takeNextScopeEpoch,
        bumpLifecycleRevision, installAllScopeEpochs]
      scope := fun scope => ?_ }
  have hfree : ScopeFree state (installPools state generation shared personal).2 scope :=
    fun key _ => ⟨by simp [installPools, takeNextScopeEpoch, bumpLifecycleRevision,
      installAllScopeEpochs], hdrained key⟩
  have hepoch : scopeEpoch (installPools state generation shared personal).2 scope =
      (lootForScope (installPools state generation shared personal).2 scope).map
        (fun _ => (installPools state generation shared personal).1) := by
    refine (scopeEpoch_installAllScopeEpochs _ _ scope).trans ?_
    cases scope <;> rfl
  have hpool : lootForScope (installPools state generation shared personal).2 scope =
      LootInstall.loot
        { epoch := (installPools state generation shared personal).1, shared, personal } scope := by
    cases scope <;> rfl
  cases hloot : lootForScope (installPools state generation shared personal).2 scope with
  | none => exact .gone (by rw [hepoch, hloot]; rfl) hfree
  | some loot => exact .fresh loot (hpool ▸ hloot) (by rw [hepoch, hloot]; rfl) hloot hfree

/-- A whole-object install is refused, or it installs its pools. -/
inductive InstallSpec (state : AuthorityState) (shared : Option CreatureLoot)
    (personal : Dict ObjectGuid CreatureLoot) : LootInstallOutcome × AuthorityState → Prop
  | installed {epoch : ℕ} {state' : AuthorityState}
      (h : Installed state state' { epoch, shared, personal }) :
      InstallSpec state shared personal (.installed epoch, state')
  | refused {epoch : ℕ} : InstallSpec state shared personal (.alreadyInitialized epoch, state)

theorem initializePristine_spec (state : AuthorityState) (shared : Option CreatureLoot)
    (personal : Dict ObjectGuid CreatureLoot) :
    InstallSpec state shared personal (initializePristineLikeCpp state shared personal) := by
  unfold initializePristineLikeCpp
  split
  · exact .refused
  · rename_i h
    simp only [Bool.or_eq_true, not_or, Bool.not_eq_true', Bool.not_eq_false] at h
    exact .installed (installed_installPools h.1.1.2 one_ne_zero shared personal)

theorem replaceRetiredGeneration_spec (state : AuthorityState) (expected : ℕ)
    (shared : Option CreatureLoot) (personal : Dict ObjectGuid CreatureLoot) :
    replaceRetiredGenerationLikeCpp state expected shared personal = (none, state) ∨
      ∃ epoch state', Installed state state' { epoch, shared, personal } ∧
        replaceRetiredGenerationLikeCpp state expected shared personal = (some epoch, state') := by
  unfold replaceRetiredGenerationLikeCpp
  split
  · exact Or.inl rfl
  · rename_i h
    simp only [Bool.or_eq_true, not_or, Bool.not_eq_true', Bool.not_eq_false] at h
    refine Or.inr ⟨_, _, installed_installPools h.1.1.2 ?_ shared personal, rfl⟩
    exact Nat.one_le_iff_ne_zero.mp (one_le_nextNonzero _)

theorem replace_spec (state : AuthorityState) (shared : Option CreatureLoot)
    (personal : Dict ObjectGuid CreatureLoot) :
    replaceLikeCpp state shared personal = (0, state) ∨
      ∃ epoch state', Installed state state' { epoch, shared, personal } ∧
        replaceLikeCpp state shared personal = (epoch, state') := by
  unfold replaceLikeCpp
  split
  · exact Or.inl rfl
  · rename_i h
    simp only [Bool.or_eq_true, not_or, Bool.not_eq_true', Bool.not_eq_false] at h
    refine Or.inr ⟨_, _, installed_installPools h.2 ?_ shared personal, rfl⟩
    exact Nat.one_le_iff_ne_zero.mp (one_le_nextNonzero _)

/-! ## Installs of one scope -/

theorem initializeShared_spec (hsound : Sound state) (loot : CreatureLoot) :
    InstallSpec state (some loot) ∅ (initializeSharedLikeCpp state loot) := by
  unfold initializeSharedLikeCpp
  split
  · exact .refused
  rename_i hguard
  split
  · exact .refused
  rename_i hshared
  simp only [Bool.or_eq_true, not_or, Bool.not_eq_true', Bool.not_eq_false] at hguard
  have hdrained := Dict.isEmpty_iff.mp hguard.1.2
  refine .installed ?_
  by_cases hretired : state.retired = true
  · simp only [hretired, if_true]
    refine
      { epoch := rfl, nextScopeEpoch := rfl, nextToken := rfl, active := rfl
        generation := Nat.one_le_iff_ne_zero.mp (one_le_nextNonzero _)
        persisting := fun key => by
          simp [bumpLifecycleRevision, hdrained key]
        scope := fun scope => ?_ }
    cases scope with
    | shared =>
      refine .fresh loot rfl ?_ rfl fun key _ => ⟨?_, hdrained key⟩
      · simp [scopeEpoch, bumpLifecycleRevision]
      · simp [bumpLifecycleRevision]
    | personal player =>
      refine .gone ?_ fun key _ => ⟨?_, hdrained key⟩
      · simp [scopeEpoch, bumpLifecycleRevision]
      · simp [bumpLifecycleRevision]
  · have hactive : state.retired = false := by simpa using hretired
    have hnone : state.shared = none := by simpa [hactive] using hshared
    simp only [hactive, Bool.false_eq_true, if_false]
    refine
      { epoch := rfl, nextScopeEpoch := rfl, nextToken := rfl, active := rfl
        generation := hsound.generation_ne_zero hactive
        persisting := fun key => rfl
        scope := fun scope => ?_ }
    cases scope with
    | shared =>
      refine .fresh loot rfl ?_ rfl fun key hkey => ⟨?_, hdrained key⟩
      · simp [scopeEpoch, bumpLifecycleRevision]
      · exact hsound.not_reserved (by rw [hkey]; exact hnone)
    | personal player =>
      refine .kept hactive ?_ rfl fun key _ => rfl
      simp [scopeEpoch, bumpLifecycleRevision]

/-- What is cleared before a personal pool is stored: afterwards no claim of the
player's scope is left, and every other scope is kept or loses its epoch. -/
structure ClearedForPersonal (state cleared : AuthorityState) (player : ObjectGuid) : Prop where
  nextScopeEpoch : cleared.nextScopeEpoch = state.nextScopeEpoch
  nextToken : cleared.nextToken = state.nextToken
  active : cleared.retired = false
  generation : cleared.generation ≠ 0
  persisting : ∀ key, cleared.persisting.lookup key = state.persisting.lookup key
  free : ScopeFree state cleared (.personal player)
  scope : ∀ scope, scope ≠ .personal player →
    (scopeEpoch cleared scope = none ∧ ScopeFree state cleared scope) ∨
      (state.retired = false ∧ scopeEpoch cleared scope = scopeEpoch state scope ∧
        lootForScope cleared scope = lootForScope state scope ∧
        ∀ key, reservationScope key = scope →
          cleared.reservations.lookup key = state.reservations.lookup key)

theorem clearedForPersonal (hsound : Sound state) {player : ObjectGuid}
    (hretired : state.retired = true → state.generation = 0)
    (hplayer : scopeHasPersistingClaim state (.personal player) = false)
    (hswitch : Dict.isEmpty state.personal = true → state.shared.isSome = true →
      ∀ key, state.persisting.lookup key = none) :
    ClearedForPersonal state (clearForPersonal state player) player := by
  have hnone : ∀ key, reservationScope key = .personal player →
      state.persisting.lookup key = none := by
    intro key hkey
    cases hlookup : state.persisting.lookup key with
    | none => rfl
    | some token =>
      have := Dict.anyEntry_eq_false_iff.mp hplayer key token hlookup
      simp [hkey] at this
  unfold clearForPersonal
  split
  · -- The pristine object: nothing is persisting yet.
    rename_i h
    have hdrained := (hsound.pristine (hretired h)).2
    exact
      { nextScopeEpoch := rfl, nextToken := rfl, active := rfl
        generation := Nat.one_le_iff_ne_zero.mp (one_le_nextNonzero _)
        persisting := fun key => by simp [hdrained key]
        free := fun key _ => ⟨by simp, hdrained key⟩
        scope := fun scope _ =>
          Or.inl ⟨by simp [scopeEpoch], fun key _ => ⟨by simp, hdrained key⟩⟩ }
  rename_i hactive
  replace hactive : state.retired = false := by simpa using hactive
  split
  · -- Switching from the shared pool: it keeps its data but loses its epoch.
    rename_i h
    rw [Bool.and_eq_true] at h
    have hdrained := hswitch h.1 h.2
    refine
      { nextScopeEpoch := rfl, nextToken := rfl, active := hactive
        generation := Nat.one_le_iff_ne_zero.mp (one_le_nextNonzero _)
        persisting := fun key => rfl
        free := fun key _ => ⟨by simp, hdrained key⟩
        scope := fun scope _ => Or.inl ⟨?_, fun key _ => ⟨by simp, hdrained key⟩⟩ }
    cases scope with
    | shared => simp [scopeEpoch]
    | personal other =>
      have hpool : lootForScope state (.personal other) = none := Dict.isEmpty_iff.mp h.1 other
      simpa [scopeEpoch] using hsound.scopeEpoch_eq_none hpool
  split
  · -- Replacing the player's own pool drops the reservations of that scope only.
    have hlookup : ∀ key, (Dict.retain (fun key _ => reservationScope key != .personal player)
        state.reservations).lookup key =
          if reservationScope key = .personal player then none
          else state.reservations.lookup key := by
      intro key
      rw [Dict.lookup_retain_keys]
      by_cases hkey : reservationScope key = .personal player <;> simp [hkey]
    exact
      { nextScopeEpoch := rfl, nextToken := rfl, active := hactive
        generation := hsound.generation_ne_zero hactive
        persisting := fun key => rfl
        free := fun key hkey => ⟨by simp [hlookup, hkey], hnone key hkey⟩
        scope := fun scope hscope => Or.inr ⟨hactive, rfl, by cases scope <;> rfl,
          fun key hkey => by simp [hlookup, hkey, hscope]⟩ }
  · rename_i hpool
    exact
      { nextScopeEpoch := rfl, nextToken := rfl, active := hactive
        generation := hsound.generation_ne_zero hactive
        persisting := fun key => rfl
        free := fun key hkey =>
          ⟨hsound.not_reserved (by simpa [hkey, lootForScope] using hpool), hnone key hkey⟩
        scope := fun scope hscope => Or.inr ⟨hactive, rfl, rfl, fun key _ => rfl⟩ }

theorem upsertPersonal_spec (hsound : Sound state) (player : ObjectGuid) (loot : CreatureLoot)
    (replace : Bool) :
    InstallSpec state none (AList.insert player loot ∅)
      (upsertPersonalLikeCpp state player loot replace) := by
  unfold upsertPersonalLikeCpp
  split
  · exact .refused
  rename_i hguard
  split
  · exact .refused
  rename_i hpersisting
  split
  · exact .refused
  simp only [Bool.or_eq_true, not_or, Bool.and_eq_true, bne_iff_ne, ne_eq, not_and, not_not] at hguard
  simp only [Bool.or_eq_true, not_or, Bool.and_eq_true, Bool.not_eq_true', not_and,
    Bool.not_eq_false, Bool.not_eq_true] at hpersisting
  have hcleared := clearedForPersonal hsound hguard.2 hpersisting.1
    (fun hp hs => Dict.isEmpty_iff.mp (hpersisting.2 ⟨hp, hs⟩))
  generalize clearForPersonal state player = cleared at hcleared
  refine .installed
    { epoch := hcleared.nextScopeEpoch
      nextScopeEpoch := congrArg nextNonzero hcleared.nextScopeEpoch
      nextToken := hcleared.nextToken
      active := hcleared.active
      generation := hcleared.generation
      persisting := hcleared.persisting
      scope := fun scope => ?_ }
  by_cases hscope : scope = .personal player
  · subst hscope
    refine .fresh loot ?_ ?_ ?_ hcleared.free
    · simp [LootInstall.loot]
    · simp [scopeEpoch, bumpLifecycleRevision]
    · simp [lootForScope, bumpLifecycleRevision]
  · have hepoch : (AList.insert (.personal player) cleared.nextScopeEpoch
        cleared.scopeEpochs).lookup scope = scopeEpoch cleared scope := by
      rw [Dict.lookup_insert_eq, if_neg hscope]
      rfl
    rcases hcleared.scope scope hscope with ⟨hnone, hfree⟩ | ⟨hactive, hsame, hpool, hres⟩
    · exact .gone (hepoch.trans hnone) hfree
    · refine .kept hactive (hepoch.trans hsame) (Eq.trans ?_ hpool) hres
      cases scope with
      | shared => rfl
      | personal other =>
        have hne : other ≠ player := fun h => hscope (by rw [h])
        simp [lootForScope, bumpLifecycleRevision, hne]

end RustyCore.Loot
