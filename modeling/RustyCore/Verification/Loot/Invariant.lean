import RustyCore.Verification.Loot.Installs

/-! # The reservation invariant

Reservations, persisting claims, leases and guards agree in every state that any
interleaving reaches. Nothing here bounds the counters: a wrapped token or epoch may
give two leases the same identity, and the invariant holds all the same. -/

namespace RustyCore.Loot

/-! ## States alone -/

namespace Sound

variable {state state' : AuthorityState}

theorem default : Sound AuthorityState.default where
  pristine := fun _ => ⟨rfl, fun _ => rfl⟩
  epochPool := fun _ _ h => by cases h
  reserved := fun _ _ h => by cases h
  persisting := fun _ _ h => by cases h
  nextScopeEpoch := one_ne_zero

theorem tombstone : Sound AuthorityState.newRetiredTombstoneLikeCpp where
  pristine := fun h => by cases h
  epochPool := fun _ _ h => by cases h
  reserved := fun _ _ h => by cases h
  persisting := fun _ _ h => by cases h
  nextScopeEpoch := one_ne_zero

theorem edited (h : Sound state) (he : Edited state state') : Sound state' := by
  obtain ⟨haside, hview⟩ := he
  have hpool : ∀ scope, (lootForScope state' scope).isSome = (lootForScope state scope).isSome :=
    fun scope => by rw [← poolView_isSome, hview scope, poolView_isSome]
  rw [haside] at hpool hview ⊢
  exact
    { pristine := h.pristine
      epochPool := fun scope epoch hepoch => (hpool scope).trans (h.epochPool scope epoch hepoch)
      reserved := fun key token hkey => by
        obtain ⟨hepoch, view, hpoolView, hready⟩ := h.reserved key token hkey
        exact ⟨hepoch, view, (hview _).trans hpoolView, hready⟩
      persisting := h.persisting
      nextScopeEpoch := h.nextScopeEpoch }

theorem closed (h : Sound state) (hc : Closed state state') : Sound state' where
  pristine := fun hzero => absurd hzero hc.generation
  epochPool := fun scope epoch hepoch => by
    rcases hc.pools with ⟨hnone, -, -⟩ | hsame
    · rw [(hnone scope).2] at hepoch
      cases hepoch
    · rw [(hsame scope).2] at hepoch
      rw [(hsame scope).1]
      exact h.epochPool scope epoch hepoch
  reserved := fun key token hkey => by
    rcases hc.pools with ⟨-, -, hnone⟩ | hsame
    · rw [hnone key] at hkey
      cases hkey
    · obtain ⟨hepoch, view, hview, hready⟩ := h.reserved key token (hc.reservations key token hkey)
      refine ⟨by rw [(hsame _).2]; exact hepoch, view, ?_, hready⟩
      rw [poolView, (hsame _).1]
      exact hview
  persisting := fun key token hkey => by
    rw [hc.persisting] at hkey
    exact hc.kept key token hkey (h.persisting key token hkey)
  nextScopeEpoch := by rw [hc.nextScopeEpoch]; exact h.nextScopeEpoch

theorem installed {install : LootInstall} (h : Sound state)
    (hi : Installed state state' install) : Sound state' where
  pristine := fun hzero => absurd hzero hi.generation
  epochPool := fun scope epoch hepoch => by
    cases hi.scope scope with
    | fresh loot _ _ pool _ => simp [pool]
    | gone hnone _ =>
      rw [hnone] at hepoch
      cases hepoch
    | kept _ hsame pool _ =>
      rw [pool]
      exact h.epochPool scope epoch (hsame ▸ hepoch)
  reserved := fun key token hkey => by
    cases hi.scope (reservationScope key) with
    | fresh _ _ _ _ free =>
      rw [(free key rfl).1] at hkey
      cases hkey
    | gone _ free =>
      rw [(free key rfl).1] at hkey
      cases hkey
    | kept _ hsame pool hres =>
      obtain ⟨hepoch, view, hview, hready⟩ := h.reserved key token (hres key rfl ▸ hkey)
      refine ⟨by rw [hsame]; exact hepoch, view, ?_, hready⟩
      rw [poolView, pool]
      exact hview
  persisting := fun key token hkey => by
    rw [hi.persisting] at hkey
    cases hi.scope (reservationScope key) with
    | fresh _ _ _ _ free =>
      rw [(free key rfl).2] at hkey
      cases hkey
    | gone _ free =>
      rw [(free key rfl).2] at hkey
      cases hkey
    | kept _ _ _ hres =>
      rw [hres key rfl]
      exact h.persisting key token hkey
  nextScopeEpoch := by
    rw [hi.nextScopeEpoch]
    exact Nat.one_le_iff_ne_zero.mp (one_le_nextNonzero _)

theorem reserve {player : ObjectGuid} {generation token : ℕ} {key : ReservationKey}
    {payload : LootClaimPayload} (h : Sound state)
    (hr : Reserved state player generation token key payload state') : Sound state' := by
  obtain ⟨-, hepoch, hfree, ⟨view, hview, hready, -⟩, -, -, rfl⟩ := hr
  refine { h with reserved := fun key' token' hkey' => ?_, persisting := fun key' token' hkey' => ?_ }
  · by_cases hk : key' = key
    · subst hk
      exact ⟨Option.isSome_iff_exists.mpr ⟨generation, hepoch⟩, view, hview, hready⟩
    · exact h.reserved key' token' (by simpa [hk] using hkey')
  · have hkey := h.persisting key' token' hkey'
    have hk : key' ≠ key := fun hk => by
      rw [hk, hfree] at hkey
      cases hkey
    simpa [hk] using hkey

theorem persist {key : ReservationKey} {token : ℕ} (h : Sound state)
    (hactive : state.retired = false) (hkey : state.reservations.lookup key = some token) :
    Sound { state with persisting := AList.insert key token state.persisting } := by
  refine { h with pristine := fun hzero => ?_, persisting := fun key' token' hkey' => ?_ }
  · exact absurd hzero (h.generation_ne_zero hactive)
  · by_cases hk : key' = key
    · subst hk
      have : token = token' := by simpa using hkey'
      exact this ▸ hkey
    · exact h.persisting key' token' (by simpa [hk] using hkey')

theorem releaseKey (h : Sound state) (key : ReservationKey) : Sound (releaseKey state key) where
  pristine := fun hzero => by
    refine ⟨(h.pristine hzero).1, fun key' => ?_⟩
    simp [Loot.releaseKey, Dict.lookup_erase_eq, (h.pristine hzero).2 key']
  epochPool := h.epochPool
  reserved := fun key' token hkey' => by
    have hkey : state.reservations.lookup key' = some token := by
      simp only [Loot.releaseKey, Dict.lookup_erase_eq] at hkey'
      split_ifs at hkey'
      exact hkey'
    exact h.reserved key' token hkey
  persisting := fun key' token hkey' => by
    simp only [Loot.releaseKey, Dict.lookup_erase_eq] at hkey' ⊢
    split_ifs at hkey' ⊢
    exact h.persisting key' token hkey'
  nextScopeEpoch := h.nextScopeEpoch

theorem quarantine (h : Sound state) : Sound { state with retired := true, quarantined := true } :=
  { h with pristine := fun hzero => ⟨rfl, (h.pristine hzero).2⟩ }

/-- A pool may be replaced when every key reserved on it stays ready. -/
theorem setLootForScope {scope : OwnedLootScope} {loot : CreatureLoot} (h : Sound state)
    (hready : ∀ key token, state.reservations.lookup key = some token →
      reservationScope key = scope → loot.view.Ready key) :
    Sound (setLootForScope state scope loot) := by
  have hpool := fun scope' => lootForScope_setLootForScope state scope scope' loot
  have haside := samePoolsAside_setLootForScope state scope loot
  generalize Loot.setLootForScope state scope loot = state' at hpool haside ⊢
  rw [haside] at hpool ⊢
  refine { h with epochPool := fun scope' epoch hepoch => ?_, reserved := fun key token hkey => ?_ }
  · rw [hpool]
    split_ifs
    · rfl
    · exact h.epochPool scope' epoch hepoch
  · obtain ⟨hepoch, view, hview, hreadyView⟩ := h.reserved key token hkey
    unfold poolView
    rw [hpool]
    split_ifs with hscope
    · exact ⟨hepoch, loot.view, rfl, hready key token hkey hscope⟩
    · exact ⟨hepoch, view, hview, hreadyView⟩

theorem finalize (h : Sound state) : Sound (finalizeClosedStateIfDrained state) := by
  rcases finalizeClosedStateIfDrained_cases state with heq | ⟨hretired, hdrained, heq⟩
  · rw [heq]
    exact h
  · rw [heq]
    exact
      { pristine := fun _ => ⟨hretired, hdrained⟩
        epochPool := fun _ _ hepoch => by simp [scopeEpoch] at hepoch
        reserved := fun _ _ hkey => by simp at hkey
        persisting := fun key token hkey => by
          rw [show state.persisting.lookup key = none from hdrained key] at hkey
          cases hkey
        nextScopeEpoch := h.nextScopeEpoch }

end Sound

end RustyCore.Loot
