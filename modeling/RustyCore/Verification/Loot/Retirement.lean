import RustyCore.Verification.Loot.Payout

/-! # Payments of a closed authority

A lifetime that is retired, detached or quarantined pays nothing new. What it still pays are
the claims whose SQL was in flight when it closed, each of them once. -/

namespace RustyCore.Loot

variable {named : ObjectGuid → Prop} {w w' w'' : World} {lease : ℕ} {cell cell' : LeaseCell}
variable {leases' : List LeaseCell} {guards' : List GuardCell}

/-- The guard of the claim is live, and its SQL may still be written. -/
def InFlight (w : World) (guard : ℕ) (claim : LootClaimLeaseInner) : Prop :=
  ∃ lease, Guarding w.leases w.guards guard lease claim

/-- Since the closed `w` nothing was installed and no claim was begun. Each payment since then is
a claim in flight there, whose guard has no claim any more. -/
structure PaidInFlight (w w' : World) : Prop where
  retired : w'.state.retired = true
  installs : w'.installs = w.installs
  inFlight : ∀ guard claim, InFlight w' guard claim → InFlight w guard claim
  paid : ∃ claims : List (ℕ × LootClaimLeaseInner),
    w'.commits = w.commits ++ claims.map (·.2.firstCommit) ∧ (claims.map (·.1)).Nodup ∧
      ∀ claim ∈ claims, InFlight w claim.1 claim.2 ∧ ∀ later, ¬ InFlight w' claim.1 later

namespace PaidInFlight

theorem extend (h : PaidInFlight w w') (new : List (ℕ × LootClaimLeaseInner))
    (hretired : w''.state.retired = true) (hinstalls : w''.installs = w'.installs)
    (hcommits : w''.commits = w'.commits ++ new.map (·.2.firstCommit))
    (hnodup : (new.map (·.1)).Nodup)
    (hback : ∀ guard claim, InFlight w'' guard claim → InFlight w' guard claim)
    (hnew : ∀ claim ∈ new, InFlight w' claim.1 claim.2 ∧ ∀ later, ¬ InFlight w'' claim.1 later) :
    PaidInFlight w w'' := by
  obtain ⟨claims, hpaid, hnodup', hclaims⟩ := h.paid
  refine ⟨hretired, hinstalls.trans h.installs, fun guard claim hafter =>
    h.inFlight guard claim (hback guard claim hafter), claims ++ new, by simp [hcommits, hpaid],
    ?_, fun claim hmem => ?_⟩
  · rw [List.map_append]
    refine hnodup'.append hnodup fun guard hold hguard => ?_
    obtain ⟨claim, hclaim, rfl⟩ := List.mem_map.mp hold
    obtain ⟨later, hlater, heq⟩ := List.mem_map.mp hguard
    exact (hclaims claim hclaim).2 later.2 (heq ▸ (hnew later hlater).1)
  · rcases List.mem_append.mp hmem with hclaim | hclaim
    · obtain ⟨hbefore, hdone⟩ := hclaims claim hclaim
      exact ⟨hbefore, fun later hlater => hdone later (hback _ _ hlater)⟩
    · exact ⟨h.inFlight _ _ (hnew claim hclaim).1, (hnew claim hclaim).2⟩

/-- The claim is paid through its own guard, which no other claim has. -/
theorem pay (h : PaidInFlight w w') (hcons : w'.Consistent) {loot : CreatureLoot}
    (hs : Settled w'.leases leases' w'.guards guards' lease cell cell')
    (hpayable : Payable w'.state cell.inner loot) (halone : Alone w' lease cell.inner) :
    PaidInFlight w
      { w' with
        state := paidState w'.state cell.inner loot
        leases := leases'
        guards := guards'
        commits := w'.commits ++ [cell.inner.firstCommit] } := by
  have hpersisting : isPersisting w'.state cell.inner = true :=
    hpayable.isOpen.resolve_left (by simp [h.retired])
  obtain ⟨g, i, other, hg, hkey, htoken⟩ := hcons.guarded _ _ (isPersisting_iff.mp hpersisting)
  obtain rfl : i = lease := by_contra fun hi => halone g i other hg hi ⟨hkey.symm, htoken.symm⟩
  obtain ⟨before, hbefore, rfl⟩ := hg.lease
  obtain rfl : cell = before := Option.some.inj (hs.before.symm.trans hbefore)
  refine h.extend [(g, cell.inner)] ((released_paidState _ _ _).retired.trans h.retired) rfl rfl
    (List.nodup_singleton g) (fun _ _ ⟨j, hj⟩ => ⟨j, (hs.guarding_back hj).2⟩)
    (List.forall_mem_singleton.mpr ⟨⟨i, hg⟩, fun later ⟨j, hj⟩ => ?_⟩)
  obtain ⟨hne, hj⟩ := hs.guarding_back hj
  exact hne (congrArg GuardCell.claim (Option.some.inj (hj.guard.symm.trans hg.guard)))

theorem move (h : PaidInFlight w w') (hcons : w'.Consistent) (hmove : Move named w' w'')
    (hbound : w''.installs.length ≤ w.installs.length) : PaidInFlight w w'' := by
  have hquiet {w'' : World} (hretired : w''.state.retired = true)
      (hinstalls : w''.installs = w'.installs) (hcommits : w''.commits = w'.commits)
      (hback : ∀ guard claim, InFlight w'' guard claim → InFlight w' guard claim) :
      PaidInFlight w w'' :=
    h.extend [] hretired hinstalls (by simpa using hcommits) .nil hback (by simp)
  cases hmove with
  | edit he =>
    exact hquiet ((congrArg AuthorityState.retired he.aside).trans h.retired) rfl rfl fun _ _ => id
  | close hc => exact hquiet hc.retired rfl rfl fun _ _ => id
  | quarantine => exact hquiet rfl rfl rfl fun _ _ => id
  | drain =>
    refine hquiet ?_ rfl rfl fun _ _ => id
    rcases finalizeClosedStateIfDrained_cases w'.state with heq | ⟨hretired, -, heq⟩
    · exact (congrArg AuthorityState.retired heq).trans h.retired
    · exact (congrArg AuthorityState.retired heq).trans hretired
  | install => exact absurd hbound (by simp [h.installs])
  | reserve _ hr => exact absurd hr.active (by simp [h.retired])
  | persist _ _ _ isOpen => exact absurd isOpen (by simp [h.retired])
  | hold hh => exact hquiet h.retired rfl rfl fun _ _ ⟨i, hi⟩ => ⟨i, hh.guarding_back hi⟩
  | fail hs => exact hquiet h.retired rfl rfl fun _ _ ⟨i, hi⟩ => ⟨i, (hs.guarding_back hi).2⟩
  | release hs _ _ _ _ _ _ _ released =>
    exact hquiet (released.retired.trans h.retired) rfl rfl
      fun _ _ ⟨i, hi⟩ => ⟨i, (hs.guarding_back hi).2⟩
  | pay hs payable alone => exact h.pay hcons hs payable alone

theorem moves (h : PaidInFlight w w') (hcons : w'.Consistent) (hmoves : Moves named w' w'')
    (hbound : w''.installs.length ≤ w.installs.length) : PaidInFlight w w'' := by
  induction hmoves with
  | refl => exact h
  | tail hmoves hmove ih =>
    exact (ih (hmove.installs_le.trans hbound)).move (Moves.consistent hmoves hcons) hmove hbound

end PaidInFlight

/-- Whatever the sessions do after an authority was closed, until something is installed again it
pays only claims that were in flight when it closed, and each of them at most once. -/
theorem closed_pays_claims_in_flight {state : AuthorityState} (hfresh : Fresh state)
    (before after : List Op) {w w' : World} (hw : w = run World.step (World.init state) before)
    (hretired : w.state.retired = true) (hw' : w' = run World.step w after)
    (hinstalls : w'.installs.length ≤ w.installs.length) : PaidInFlight w w' := by
  subst hw'
  refine run_invariant_below World.Consistent (PaidInFlight w) (fun _ op hcons => hcons.step op)
    (fun w' => w'.installs.length) (w.installs.length + 1)
    (fun _ op hcons => (hcons.moves_step_of_any op).installs_le)
    (fun _ op hcons h _ hlt => h.moves hcons (hcons.moves_step_of_any op) (Nat.le_of_lt_succ hlt))
    (hw ▸ consistent_run hfresh before) ⟨hretired, rfl, fun _ _ => id, [], by simp⟩
    (EachStep.of_forall (fun _ _ _ => trivial) _) (Nat.lt_succ_of_le hinstalls)

def sampleRetired : World := run World.step sampleReserved [.beginPersistence 0, .retire]

/-- The claim in flight is paid after the retirement. -/
theorem closed_pays_claims_in_flight_sample :
    (run World.step sampleRetired [.commitGuard 0]).commits.length = 1 ∧
      PaidInFlight sampleRetired (run World.step sampleRetired [.commitGuard 0]) :=
  ⟨by decide, closed_pays_claims_in_flight .default [.initializePristine (some samplePool) ∅,
    .reserveItem samplePlayer 3 .direct none, .beginPersistence 0, .retire] _ rfl (by decide) rfl
    (by decide)⟩

end RustyCore.Loot
