import RustyCore.Verification.Loot.Invariant

/-! # Leases and guards

Every reservation of an open authority has a living owner, and every persisting
claim has an unresolved guard. -/

namespace RustyCore.Loot

/-- The lease is active and stands for this entry under the current epoch. -/
structure Matches (state : AuthorityState) (inner : LootClaimLeaseInner) (key : ReservationKey)
    (token : ℕ) : Prop where
  active : inner.status = .active
  sameKey : inner.key = key
  sameToken : inner.token = token
  epoch : scopeEpoch state (reservationScope key) = some inner.generation

/-- Some session still holds this lease, and it owns the entry. -/
structure Owner (state : AuthorityState) (leases : List LeaseCell) (guards : List GuardCell)
    (key : ReservationKey) (token lease : ℕ) : Prop where
  cell : ∃ cell, leases[lease]? = some cell ∧ Matches state cell.inner key token
  alive : 0 < strongCount leases guards lease

/-- The guard is live and unresolved, and holds this lease. -/
structure Guarding (leases : List LeaseCell) (guards : List GuardCell) (guard lease : ℕ)
    (inner : LootClaimLeaseInner) : Prop where
  guard : guards[guard]? = some { claim := lease, resolved := false, live := true }
  lease : ∃ cell, leases[lease]? = some cell ∧ cell.inner = inner

structure Consistent (state : AuthorityState) (leases : List LeaseCell)
    (guards : List GuardCell) : Prop where
  sound : Sound state
  claims : ∀ (i : ℕ) (cell : LeaseCell), leases[i]? = some cell →
    ClaimOf cell.inner.player cell.inner.key cell.inner.payload
  owned : state.retired = false → ∀ key token, state.reservations.lookup key = some token →
    ∃ i, Owner state leases guards key token i
  guarded : ∀ key token, state.persisting.lookup key = some token →
    ∃ g i inner, Guarding leases guards g i inner ∧ inner.key = key ∧ inner.token = token
  guarding : ∀ g i inner, Guarding leases guards g i inner →
    Matches state inner inner.key inner.token ∧
      state.persisting.lookup inner.key = some inner.token
  unique : ∀ g i inner g' i' inner', Guarding leases guards g i inner →
    Guarding leases guards g' i' inner' → inner.key = inner'.key → g = g'
  resolved : ∀ (g : ℕ) (guard : GuardCell) (cell : LeaseCell), guards[g]? = some guard →
    guard.resolved = true → leases[guard.claim]? = some cell → cell.inner.status ≠ .active
  inRange : ∀ guard ∈ guards, guard.claim < leases.length

theorem Matches.of_scopeEpoch_eq {state state' : AuthorityState} {inner : LootClaimLeaseInner}
    {key : ReservationKey} {token : ℕ} (h : Matches state inner key token)
    (hepoch : scopeEpoch state' (reservationScope key) = scopeEpoch state (reservationScope key)) :
    Matches state' inner key token :=
  { h with epoch := hepoch.trans h.epoch }

theorem Guarding.alive {leases : List LeaseCell} {guards : List GuardCell} {g i : ℕ}
    {inner : LootClaimLeaseInner} (h : Guarding leases guards g i inner) :
    0 < strongCount leases guards i := by
  unfold strongCount
  refine Nat.add_pos_right _ (List.countP_pos_iff.mpr ⟨_, List.mem_of_getElem? h.guard, ?_⟩)
  simp

/-- One lease leaves the active status; the other leases and their guards stay. -/
structure Settled (leases leases' : List LeaseCell) (guards guards' : List GuardCell) (lease : ℕ)
    (cell cell' : LeaseCell) : Prop where
  before : leases[lease]? = some cell
  after : leases'[lease]? = some cell'
  other : ∀ i, i ≠ lease → leases'[i]? = leases[i]?
  length : leases'.length = leases.length
  same : cell'.inner = { cell.inner with status := cell'.inner.status }
  inactive : cell'.inner.status ≠ .active
  kept : ∀ (g : ℕ) (guard : GuardCell), guard.claim ≠ lease →
    (guards'[g]? = some guard ↔ guards[g]? = some guard)
  count : ∀ i, i ≠ lease → guards'.countP (fun guard => guard.live && guard.claim == i) =
    guards.countP (fun guard => guard.live && guard.claim == i)
  done : ∀ g : ℕ,
    guards'[g]? ≠ some ({ claim := lease, resolved := false, live := true } : GuardCell)

theorem Settled.guarding_back {leases leases' : List LeaseCell} {guards guards' : List GuardCell}
    {lease : ℕ} {cell cell' : LeaseCell} {g i : ℕ} {inner : LootClaimLeaseInner}
    (h : Settled leases leases' guards guards' lease cell cell')
    (hg : Guarding leases' guards' g i inner) : i ≠ lease ∧ Guarding leases guards g i inner := by
  have hi : i ≠ lease := fun hi => h.done g (hi ▸ hg.guard)
  exact ⟨hi, (h.kept g _ hi).mp hg.guard, h.other i hi ▸ hg.lease⟩

/-- Both entries of one key are gone; nothing else about the claims has changed. -/
structure Released (state state' : AuthorityState) (key : ReservationKey) : Prop where
  retired : state'.retired = state.retired
  epoch : ∀ scope, scopeEpoch state' scope = scopeEpoch state scope
  reservations : ∀ key', state'.reservations.lookup key' =
    if key' = key then none else state.reservations.lookup key'
  persisting : ∀ key', state'.persisting.lookup key' =
    if key' = key then none else state.persisting.lookup key'

namespace Consistent

variable {state state' : AuthorityState} {leases leases' : List LeaseCell}
  {guards guards' : List GuardCell}
variable {lease : ℕ} {cell cell' : LeaseCell}

theorem init (h : Sound state) (hres : ∀ key, state.reservations.lookup key = none)
    (hper : ∀ key, state.persisting.lookup key = none) : Consistent state [] [] where
  sound := h
  claims := fun i cell hcell => by simp at hcell
  owned := fun _ key token hkey => by
    rw [hres key] at hkey
    cases hkey
  guarded := fun key token hkey => by
    rw [hper key] at hkey
    cases hkey
  guarding := fun g i inner hg => by simpa using hg.guard
  unique := fun g i inner g' i' inner' hg => by simpa using hg.guard
  resolved := fun g guard cell hguard => by simp at hguard
  inRange := fun guard hguard => by simp at hguard

/-- A step of the state alone: it may drop reservations, and it keeps the epochs of the
reservations and persisting claims that it leaves. -/
theorem of_state (h : Consistent state leases guards) (hsound : Sound state')
    (howned : state'.retired = false → ∀ key token,
      state'.reservations.lookup key = some token →
      state.retired = false ∧ state.reservations.lookup key = some token ∧
        scopeEpoch state' (reservationScope key) = scopeEpoch state (reservationScope key))
    (hpersisting : ∀ key, state'.persisting.lookup key = state.persisting.lookup key)
    (hepoch : ∀ key token, state.persisting.lookup key = some token →
      scopeEpoch state' (reservationScope key) = scopeEpoch state (reservationScope key)) :
    Consistent state' leases guards where
  sound := hsound
  claims := h.claims
  owned := fun hactive key token hkey => by
    obtain ⟨hactive, hkey, hsame⟩ := howned hactive key token hkey
    obtain ⟨i, ⟨cell, hcell, hmatch⟩, halive⟩ := h.owned hactive key token hkey
    exact ⟨i, ⟨cell, hcell, hmatch.of_scopeEpoch_eq hsame⟩, halive⟩
  guarded := fun key token hkey => h.guarded key token (hpersisting key ▸ hkey)
  guarding := fun g i inner hg => by
    obtain ⟨hmatch, hkey⟩ := h.guarding g i inner hg
    exact ⟨hmatch.of_scopeEpoch_eq (hepoch _ _ hkey),
      (hpersisting _).trans hkey⟩
  unique := h.unique
  resolved := h.resolved
  inRange := h.inRange

theorem edited (h : Consistent state leases guards) (he : Edited state state') :
    Consistent state' leases guards := by
  have hsound := h.sound.edited he
  have haside := he.aside
  refine h.of_state hsound ?_ ?_ ?_ <;> rw [haside]
  · exact fun hactive key token hkey => ⟨hactive, hkey, rfl⟩
  · exact fun key => rfl
  · exact fun key token hkey => rfl

theorem closed (h : Consistent state leases guards) (hc : Closed state state') :
    Consistent state' leases guards := by
  refine h.of_state (h.sound.closed hc) ?_ ?_ ?_
  · intro hactive
    rw [hc.retired] at hactive
    cases hactive
  · intro key
    rw [hc.persisting]
  · intro key token hkey
    rcases hc.pools with ⟨-, hnone, -⟩ | hsame
    · rw [hnone key] at hkey
      cases hkey
    · exact (hsame _).2

theorem installed {install : LootInstall} (h : Consistent state leases guards)
    (hi : Installed state state' install) : Consistent state' leases guards := by
  refine h.of_state (h.sound.installed hi) ?_ hi.persisting ?_
  · intro _ key token hkey
    cases hi.scope (reservationScope key) with
    | fresh _ _ _ _ free =>
      rw [(free key rfl).1] at hkey
      cases hkey
    | gone _ free =>
      rw [(free key rfl).1] at hkey
      cases hkey
    | kept active hsame _ hres => exact ⟨active, hres key rfl ▸ hkey, hsame⟩
  · intro key token hkey
    cases hi.scope (reservationScope key) with
    | fresh _ _ _ _ free =>
      rw [(free key rfl).2] at hkey
      cases hkey
    | gone _ free =>
      rw [(free key rfl).2] at hkey
      cases hkey
    | kept _ hsame _ _ => exact hsame

theorem quarantine (h : Consistent state leases guards) :
    Consistent { state with retired := true, quarantined := true } leases guards := by
  refine h.of_state h.sound.quarantine ?_ (fun _ => rfl) (fun _ _ _ => rfl)
  intro hactive
  cases hactive

theorem finalize (h : Consistent state leases guards) :
    Consistent (finalizeClosedStateIfDrained state) leases guards := by
  have hsound := h.sound.finalize
  rcases finalizeClosedStateIfDrained_cases state with heq | ⟨hretired, hdrained, heq⟩
  · rw [heq]
    exact h
  · rw [heq] at hsound ⊢
    refine h.of_state hsound ?_ (fun _ => rfl) ?_
    · intro _ key token hkey
      simp at hkey
    · intro key token hkey
      rw [hdrained key] at hkey
      cases hkey

/-! ## Reserving and persisting -/

theorem claim_lt (h : Consistent state leases guards) {g : ℕ} {guard : GuardCell}
    (hguard : guards[g]? = some guard) : guard.claim < leases.length :=
  h.inRange guard (List.mem_of_getElem? hguard)

theorem reserve {player : ObjectGuid} {generation token : ℕ} {key : ReservationKey}
    {payload : LootClaimPayload} (h : Consistent state leases guards)
    (hr : Reserved state player generation token key payload state') :
    Consistent state'
      (leases ++ [{ inner := .new generation token key player payload, handles := 1 }]) guards := by
  have hsound := h.sound.reserve hr
  obtain ⟨hactive, hepoch, hfree, -, hclaim, -, rfl⟩ := hr
  set cell : LeaseCell := { inner := .new generation token key player payload, handles := 1 }
  have hold : ∀ i < leases.length, (leases ++ [cell])[i]? = leases[i]? :=
    fun i hi => List.getElem?_append_left hi
  have hnew : (leases ++ [cell])[leases.length]? = some cell := by simp
  have hguarding : ∀ g i inner, Guarding (leases ++ [cell]) guards g i inner →
      Guarding leases guards g i inner := by
    rintro g i inner ⟨hguard, hlease⟩
    rw [hold i (h.claim_lt hguard)] at hlease
    exact ⟨hguard, hlease⟩
  refine
    { sound := hsound
      claims := fun i other hother => ?_
      owned := fun _ key' token' hkey' => ?_
      guarded := fun key' token' hkey' => ?_
      guarding := fun g i inner hg =>
        (h.guarding g i inner (hguarding g i inner hg)).imp_left (·.of_scopeEpoch_eq rfl)
      unique := fun g i inner g' i' inner' hg hg' =>
        h.unique g i inner g' i' inner' (hguarding g i inner hg) (hguarding g' i' inner' hg')
      resolved := fun g guard other hguard hresolved hother => ?_
      inRange := fun guard hguard => ?_ }
  · rcases Nat.lt_or_ge i leases.length with hi | hi
    · exact h.claims i other (hold i hi ▸ hother)
    · obtain rfl : other = cell := by
        have hmem := List.getElem?_append_right hi ▸ hother
        simpa using List.mem_of_getElem? hmem
      exact hclaim
  · by_cases hk : key' = key
    · subst hk
      obtain rfl : token = token' := by simpa using hkey'
      exact ⟨leases.length, ⟨cell, hnew, rfl, rfl, rfl, hepoch⟩, by
        unfold strongCount
        rw [hnew]
        exact Nat.add_pos_left one_pos _⟩
    · obtain ⟨i, ⟨other, hother, hmatch⟩, halive⟩ :=
        h.owned hactive key' token' (by simpa [hk] using hkey')
      have hi := (List.getElem?_eq_some_iff.mp hother).1
      refine ⟨i, ⟨other, (hold i hi).trans hother, hmatch.of_scopeEpoch_eq rfl⟩, ?_⟩
      rwa [strongCount, hold i hi]
  · obtain ⟨g, i, inner, ⟨hguard, hlease⟩, hinner⟩ := h.guarded key' token' hkey'
    exact ⟨g, i, inner, ⟨hguard, (hold i (h.claim_lt hguard)).symm ▸ hlease⟩, hinner⟩
  · exact h.resolved g guard other hguard hresolved (hold _ (h.claim_lt hguard) ▸ hother)
  · have := h.inRange guard hguard
    simp
    omega

/-- A claim crosses the durable boundary: its key is protected and it gets a guard. -/
theorem persist (h : Consistent state leases guards) (hcell : leases[lease]? = some cell)
    (hstatus : cell.inner.status = .active) (hnew : isPersisting state cell.inner = false)
    (hactive : state.retired = false)
    (hepoch : scopeEpoch state (reservationScope cell.inner.key) = some cell.inner.generation)
    (hkey : state.reservations.lookup cell.inner.key = some cell.inner.token) :
    Consistent
      { state with persisting := AList.insert cell.inner.key cell.inner.token state.persisting }
      leases (guards ++ [{ claim := lease, resolved := false, live := true }]) := by
  have hnone : state.persisting.lookup cell.inner.key = none := by
    cases hp : state.persisting.lookup cell.inner.key with
    | none => rfl
    | some token =>
      have := h.sound.persisting _ _ hp
      rw [hkey] at this
      simp [isPersisting, hp, this] at hnew
  have hguarding : ∀ g i inner,
      Guarding leases (guards ++ [{ claim := lease, resolved := false, live := true }]) g i inner →
      Guarding leases guards g i inner ∨ g = guards.length ∧ i = lease ∧ inner = cell.inner := by
    rintro g i inner ⟨hguard, other, hother, rfl⟩
    rcases Nat.lt_or_ge g guards.length with hg | hg
    · rw [List.getElem?_append_left hg] at hguard
      exact Or.inl ⟨hguard, other, hother, rfl⟩
    · rw [List.getElem?_append_right hg] at hguard
      have hg0 : g - guards.length = 0 := by
        have := (List.getElem?_eq_some_iff.mp hguard).1
        simpa using this
      rw [hg0] at hguard
      obtain rfl : lease = i := by simpa using hguard
      rw [hcell] at hother
      exact Or.inr ⟨by omega, rfl, by rw [Option.some.inj hother]⟩
  have hold : ∀ g i inner, Guarding leases guards g i inner →
      Guarding leases (guards ++ [{ claim := lease, resolved := false, live := true }]) g i inner := by
    rintro g i inner ⟨hguard, hlease⟩
    have hg := (List.getElem?_eq_some_iff.mp hguard).1
    exact ⟨(List.getElem?_append_left hg).trans hguard, hlease⟩
  have hne : ∀ g i inner, Guarding leases guards g i inner → inner.key ≠ cell.inner.key := by
    intro g i inner hg hk
    have := (h.guarding g i inner hg).2
    rw [hk, hnone] at this
    cases this
  refine
    { sound := h.sound.persist hactive hkey
      claims := h.claims
      owned := fun _ key token hkey' => ?_
      guarded := fun key token hkey' => ?_
      guarding := fun g i inner hg => ?_
      unique := fun g i inner g' i' inner' hg hg' hk => ?_
      resolved := fun g guard other hguard hresolved => ?_
      inRange := fun guard hguard => ?_ }
  · obtain ⟨i, ⟨other, hother, hmatch⟩, halive⟩ := h.owned hactive key token hkey'
    refine ⟨i, ⟨other, hother, hmatch.of_scopeEpoch_eq rfl⟩, ?_⟩
    unfold strongCount at halive ⊢
    rw [List.countP_append]
    omega
  · by_cases hk : key = cell.inner.key
    · subst hk
      exact ⟨guards.length, lease, cell.inner, ⟨by simp, cell, hcell, rfl⟩, rfl, by simpa using hkey'⟩
    · obtain ⟨g, i, inner, hg, hinner⟩ := h.guarded key token (by simpa [hk] using hkey')
      exact ⟨g, i, inner, hold g i inner hg, hinner⟩
  · rcases hguarding g i inner hg with hg | ⟨-, -, rfl⟩
    · obtain ⟨hmatch, hp⟩ := h.guarding g i inner hg
      exact ⟨hmatch.of_scopeEpoch_eq rfl, by simpa [hne g i inner hg] using hp⟩
    · exact ⟨⟨hstatus, rfl, rfl, hepoch⟩, by simp⟩
  · rcases hguarding g i inner hg with hg | ⟨rfl, -, rfl⟩ <;>
      rcases hguarding g' i' inner' hg' with hg' | ⟨rfl, -, rfl⟩
    · exact h.unique g i inner g' i' inner' hg hg' hk
    · exact absurd hk (hne g i inner hg)
    · exact absurd hk.symm (hne g' i' inner' hg')
    · rfl
  · rcases Nat.lt_or_ge g guards.length with hg | hg
    · rw [List.getElem?_append_left hg] at hguard
      exact h.resolved g guard other hguard hresolved
    · rw [List.getElem?_append_right hg] at hguard
      have hmem := List.mem_of_getElem? hguard
      simp only [List.mem_singleton] at hmem
      simp [hmem] at hresolved
  · rcases List.mem_append.mp hguard with hguard | hguard
    · exact h.inRange guard hguard
    · simp only [List.mem_singleton] at hguard
      rw [hguard]
      exact (List.getElem?_eq_some_iff.mp hcell).1

/-! ## Settling a lease -/

theorem settle (h : Consistent state leases guards)
    (hs : Settled leases leases' guards guards' lease cell cell') (hsound : Sound state')
    (howned : state'.retired = false → ∀ key token,
      state'.reservations.lookup key = some token →
      state.retired = false ∧ state.reservations.lookup key = some token ∧
        ¬ Matches state cell.inner key token)
    (hpersisting : ∀ key token, state'.persisting.lookup key = some token ↔
      state.persisting.lookup key = some token ∧
        ¬ (cell.inner.key = key ∧ cell.inner.token = token))
    (htwin : ∀ g i inner, Guarding leases guards g i inner → i ≠ lease →
      ¬ (cell.inner.key = inner.key ∧ cell.inner.token = inner.token))
    (hepoch : ∀ scope, scopeEpoch state' scope = scopeEpoch state scope) :
    Consistent state' leases' guards' := by
  refine
    { sound := hsound
      claims := fun i other hother => ?_
      owned := fun hactive key token hkey => ?_
      guarded := fun key token hkey => ?_
      guarding := fun g i inner hg => ?_
      unique := fun g i inner g' i' inner' hg hg' =>
        h.unique g i inner g' i' inner' (hs.guarding_back hg).2 (hs.guarding_back hg').2
      resolved := fun g guard other hguard hresolved hother => ?_
      inRange := fun guard hguard => ?_ }
  · by_cases hi : i = lease
    · subst hi
      obtain rfl : cell' = other := Option.some.inj (hs.after.symm.trans hother)
      have hclaim := h.claims i cell hs.before
      rw [hs.same]
      exact hclaim
    · exact h.claims i other (hs.other i hi ▸ hother)
  · obtain ⟨hactive, hkey, hne⟩ := howned hactive key token hkey
    obtain ⟨i, ⟨other, hother, hmatch⟩, halive⟩ := h.owned hactive key token hkey
    have hi : i ≠ lease := by
      rintro rfl
      obtain rfl : cell = other := Option.some.inj (hs.before.symm.trans hother)
      exact hne hmatch
    refine ⟨i, ⟨other, (hs.other i hi).trans hother, hmatch.of_scopeEpoch_eq (hepoch _)⟩, ?_⟩
    rwa [strongCount, hs.other i hi, hs.count i hi]
  · obtain ⟨hkey, hne⟩ := (hpersisting key token).mp hkey
    obtain ⟨g, i, inner, ⟨hguard, hlease⟩, hinner⟩ := h.guarded key token hkey
    have hi : i ≠ lease := by
      rintro rfl
      obtain ⟨other, hother, rfl⟩ := hlease
      obtain rfl : cell = other := Option.some.inj (hs.before.symm.trans hother)
      exact hne hinner
    exact ⟨g, i, inner, ⟨(hs.kept g _ hi).mpr hguard, (hs.other i hi).symm ▸ hlease⟩, hinner⟩
  · obtain ⟨hi, hg⟩ := hs.guarding_back hg
    obtain ⟨hmatch, hkey⟩ := h.guarding g i inner hg
    exact ⟨hmatch.of_scopeEpoch_eq (hepoch _), (hpersisting _ _).mpr ⟨hkey, htwin g i inner hg hi⟩⟩
  · by_cases hi : guard.claim = lease
    · rw [hi] at hother
      obtain rfl : cell' = other := Option.some.inj (hs.after.symm.trans hother)
      exact hs.inactive
    · exact h.resolved g guard other ((hs.kept g guard hi).mp hguard) hresolved
        (hs.other _ hi ▸ hother)
  · rw [hs.length]
    by_cases hi : guard.claim = lease
    · rw [hi]
      exact (List.getElem?_eq_some_iff.mp hs.before).1
    · obtain ⟨g, hg⟩ := List.mem_iff_getElem?.mp hguard
      exact h.claim_lt ((hs.kept g guard hi).mp hg)

theorem release (h : Consistent state leases guards)
    (hs : Settled leases leases' guards guards' lease cell cell') (hsound : Sound state')
    (hrel : Released state state' cell.inner.key)
    (hkey : state.reservations.lookup cell.inner.key = some cell.inner.token)
    (htwin : ∀ g i inner, Guarding leases guards g i inner → i ≠ lease →
      ¬ (cell.inner.key = inner.key ∧ cell.inner.token = inner.token)) :
    Consistent state' leases' guards' := by
  refine h.settle hs hsound ?_ ?_ htwin hrel.epoch
  · intro hactive key token hlookup
    rw [hrel.reservations] at hlookup
    split_ifs at hlookup with hk
    exact ⟨hrel.retired ▸ hactive, hlookup, fun hmatch => hk hmatch.sameKey.symm⟩
  · intro key token
    rw [hrel.persisting]
    split_ifs with hk
    · subst hk
      simp only [true_and, false_iff, not_and, not_not]
      intro hp
      have := h.sound.persisting _ _ hp
      rw [hkey] at this
      exact Option.some.inj this
    · exact ⟨fun hp => ⟨hp, fun he => hk he.1.symm⟩, And.left⟩

/-- A lease that no longer owns its key is rolled back without touching the state. -/
theorem fail (h : Consistent state leases guards)
    (hs : Settled leases leases' guards guards' lease cell cell')
    (hnot : isPersisting state cell.inner = false)
    (hno : state.retired = true ∨
      scopeEpoch state (reservationScope cell.inner.key) ≠ some cell.inner.generation ∨
      state.reservations.lookup cell.inner.key ≠ some cell.inner.token) :
    Consistent state leases' guards' := by
  have hpersisting : state.persisting.lookup cell.inner.key ≠ some cell.inner.token := by
    simpa [isPersisting] using hnot
  refine h.settle hs h.sound ?_ ?_ ?_ (fun _ => rfl)
  · rintro hactive key token hkey
    refine ⟨hactive, hkey, fun hmatch => ?_⟩
    obtain ⟨-, rfl, rfl, hepoch⟩ := hmatch
    rcases hno with hretired | hstale | hlost
    · rw [hactive] at hretired
      cases hretired
    · exact hstale hepoch
    · exact hlost hkey
  · intro key token
    refine ⟨fun hp => ⟨hp, ?_⟩, And.left⟩
    rintro ⟨rfl, rfl⟩
    exact hpersisting hp
  · rintro g i inner hg - ⟨hk, ht⟩
    have := (h.guarding g i inner hg).2
    rw [← hk, ← ht] at this
    exact hpersisting this

end Consistent

end RustyCore.Loot
