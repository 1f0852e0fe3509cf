import RustyCore.Verification.Units.AuraIndices

/-! # The masks of the auras

The mask of the aura states agrees with the listed auras once an aura has been unapplied. The
masks of the interrupt flags are exact once an aura has been removed, and registering an aura
keeps them exact unless it replaces flags that no other aura has. -/

namespace RustyCore.Units

namespace AuraIndices

variable {x : AuraIndices} {aura other : AppliedAuraRef}

/-! ## The mask of the aura states -/

/-- The listed states are those that fit the mask, each with some aura. -/
def StatesFit (x : AuraIndices) : Prop :=
  ∀ state auras, x.states.lookup state = some auras → 1 ≤ state ∧ state ≤ 32 ∧ auras ≠ []

theorem StatesFit.addState (h : x.StatesFit) (aura : AppliedAuraRef) {state : ℕ}
    (hpos : 1 ≤ state) (hle : state ≤ 32) : (x.addState aura state).StatesFit := by
  intro state' auras hlookup
  have hstates : (x.addState aura state).states =
      x.states.insert state ((x.states.lookup state).getD [] ++ [aura]) := by
    unfold AuraIndices.addState modifyState
    split <;> rfl
  rw [hstates, Dict.lookup_insert_eq] at hlookup
  split at hlookup
  case isTrue heq =>
    cases hlookup
    subst heq
    exact ⟨hpos, hle, by simp⟩
  case isFalse => exact h state' auras hlookup

theorem StatesFit.erase (h : x.StatesFit) (aura : AppliedAuraRef) : (x.erase aura).StatesFit := by
  intro state auras hlookup
  have hlists : (removeFromLists aura x.states).lookup state = some auras := hlookup
  rw [lookup_removeFromLists, Option.filter_eq_some_iff] at hlists
  obtain ⟨auras', hold, -⟩ := Option.map_eq_some_iff.mp hlists.1
  obtain ⟨hpos, hle, -⟩ := h state auras' hold
  exact ⟨hpos, hle, by simpa using hlists.2⟩

theorem StatesFit.modifyState (h : x.StatesFit) (flag : ℕ) (apply : Bool) :
    (x.modifyState flag apply).StatesFit := by
  unfold AuraIndices.modifyState
  split <;> exact h

theorem StatesFit.unapply (h : x.StatesFit) (aura : AppliedAuraRef) :
    (x.unapply aura).StatesFit := by
  unfold AuraIndices.unapply
  split <;> exact h.erase aura

theorem hasState_iff {state : ℕ} :
    x.hasState state = true ↔ ∃ auras, x.states.lookup state = some auras :=
  Option.isSome_iff_exists

theorem getLsbD_rebuilt (h : x.StatesFit) (i : ℕ) : x.rebuilt.getLsbD i = x.hasState (i + 1) := by
  rw [rebuilt, getLsbD_orAll, List.any_map, Bool.eq_iff_iff, List.any_eq_true, hasState_iff]
  constructor
  · intro hany
    obtain ⟨state, hmem, hbit⟩ := hany
    have hkey := AList.mem_keys.mpr (List.mem_of_mem_filter hmem)
    obtain ⟨auras, hlookup⟩ := Option.isSome_iff_exists.mp (AList.lookup_isSome.mpr hkey)
    obtain ⟨hpos, hle, -⟩ := h state auras hlookup
    have heq : i + 1 = state := by simpa [getLsbD_auraStateBit hpos hle] using hbit
    exact ⟨auras, heq ▸ hlookup⟩
  · intro hlisted
    obtain ⟨auras, hlookup⟩ := hlisted
    obtain ⟨hpos, hle, -⟩ := h (i + 1) auras hlookup
    refine ⟨i + 1, List.mem_filter.mpr ⟨?_, by simp [auraStateNone]⟩, ?_⟩
    · exact AList.mem_keys.mp (AList.lookup_isSome.mp (by simp [hlookup]))
    · simp [getLsbD_auraStateBit hpos hle]

/-- The mask agrees with the listed auras on every state that the aura is not listed with. -/
def InSync (x : AuraIndices) (aura : AppliedAuraRef) : Prop :=
  ∀ i, ¬ x.Carries (i + 1) aura → x.stateMask.getLsbD i = x.hasState (i + 1)

/-- Unapplying the aura keeps the mask on every state that the aura is not listed with. -/
def LeavesOtherStates (x : AuraIndices) (aura : AppliedAuraRef) : Prop :=
  ∀ i, ¬ x.Carries (i + 1) aura →
    (x.unapply aura).stateMask.getLsbD i = x.stateMask.getLsbD i

theorem hasState_erase (h : x.StatesFit) {state : ℕ} (hcarries : ¬ x.Carries state aura) :
    (x.erase aura).hasState state = x.hasState state := by
  have hlookup : (x.erase aura).states.lookup state = x.states.lookup state := by
    refine (lookup_removeFromLists aura x.states state).trans ?_
    cases hlist : x.states.lookup state with
    | none => rfl
    | some auras =>
      have hmem : aura ∉ auras := fun hmem => hcarries ⟨auras, hlist, hmem⟩
      have hkept : (auras.filter fun known => known ≠ aura) = auras :=
        List.filter_eq_self.mpr fun known hknown =>
          decide_eq_true fun heq => hmem (heq ▸ hknown)
      obtain ⟨-, -, hne⟩ := h state auras hlist
      rw [Option.map_some, hkept, Option.filter_some_pos]
      simp [hne]
  rw [hasState, hasState, hlookup]

theorem unapply_of_mem (hmem : aura ∈ x.applied) :
    x.unapply aura = { x.erase aura with stateMask := (x.erase aura).rebuilt } :=
  if_pos hmem

theorem StatesFit.leavesOtherStates_iff (h : x.StatesFit) (aura : AppliedAuraRef) :
    x.LeavesOtherStates aura ↔ (aura ∈ x.applied → x.InSync aura) := by
  by_cases hmem : aura ∈ x.applied
  · have hbit (i : ℕ) (hcarries : ¬ x.Carries (i + 1) aura) :
        (x.unapply aura).stateMask.getLsbD i = x.hasState (i + 1) := by
      rw [unapply_of_mem hmem]
      exact (getLsbD_rebuilt (h.erase aura) i).trans (hasState_erase h hcarries)
    constructor
    · intro hleaves _ i hcarries
      rw [← hleaves i hcarries, hbit i hcarries]
    · intro hsync i hcarries
      rw [hbit i hcarries, hsync hmem i hcarries]
  · refine iff_of_true (fun i _ => ?_) fun h => absurd h hmem
    rw [AuraIndices.unapply, if_neg hmem]
    rfl

/-- The mask agrees with the listed auras. -/
def Synced (x : AuraIndices) : Prop := ∀ i, x.stateMask.getLsbD i = x.hasState (i + 1)

theorem synced_unapply (h : x.StatesFit) (hmem : aura ∈ x.applied) : (x.unapply aura).Synced := by
  intro i
  rw [unapply_of_mem hmem]
  exact getLsbD_rebuilt (h.erase aura) i

/-- An aura that is not applied is in no index, so that taking it out changes no state. -/
theorem Synced.unapply (hsync : x.Synced) (h : x.StatesFit) (hindexed : x.Indexed)
    (aura : AppliedAuraRef) : (x.unapply aura).Synced := by
  by_cases hmem : aura ∈ x.applied
  · exact synced_unapply h hmem
  · intro i
    have hcarries : ¬ x.Carries (i + 1) aura := fun hcarries =>
      hmem (hindexed aura (.state hcarries))
    rw [AuraIndices.unapply, if_neg hmem, hasState_erase h hcarries]
    exact hsync i

/-- As long as the mask agrees with the listed auras, any aura can be unapplied. -/
theorem Synced.leavesOtherStates (hsync : x.Synced) (h : x.StatesFit) (hindexed : x.Indexed)
    (auras : List AppliedAuraRef) : EachStep AuraIndices.unapply LeavesOtherStates x auras := by
  induction auras generalizing x with
  | nil => trivial
  | cons aura auras ih =>
    refine ⟨(h.leavesOtherStates_iff aura).mpr fun _ i _ => hsync i, ?_⟩
    exact ih (hsync.unapply h hindexed aura) (h.unapply aura) (hindexed.unapply aura)

/-- Of several applied auras only the first can find the mask out of step: it is rebuilt then. -/
theorem unapplications_leave_iff (h : x.StatesFit) (hindexed : x.Indexed)
    {auras : List AppliedAuraRef} (hmem : ∀ aura ∈ auras, aura ∈ x.applied) :
    EachStep unapply LeavesOtherStates x auras ↔ ∀ aura ∈ auras.head?, x.InSync aura := by
  cases auras with
  | nil => simp [EachStep]
  | cons aura auras =>
    have hfirst : aura ∈ x.applied := hmem aura (by simp)
    have hsynced : (x.unapply aura).Synced := synced_unapply h hfirst
    have hrest : EachStep unapply LeavesOtherStates (x.unapply aura) auras :=
      Synced.leavesOtherStates hsynced (h.unapply aura) (hindexed.unapply aura) auras
    simp [EachStep, hrest, h.leavesOtherStates_iff, hfirst]

/-! ## The masks of the interrupt flags -/

/-- The flags that the aura had before are among its new flags or registered for another aura. -/
def Covered (x : AuraIndices) (aura : AppliedAuraRef) (flags flags2 : BitVec 32) : Prop :=
  ∀ old, x.interrupts.lookup aura = some old → ∀ i,
    (old.1.getLsbD i = true → flags.getLsbD i = true ∨
      ∃ other known, other ≠ aura ∧ x.interrupts.lookup other = some known ∧
        known.1.getLsbD i = true) ∧
    (old.2.getLsbD i = true → flags2.getLsbD i = true ∨
      ∃ other known, other ≠ aura ∧ x.interrupts.lookup other = some known ∧
        known.2.getLsbD i = true)

theorem orAll_insert_iff (d : Dict AppliedAuraRef (BitVec 32 × BitVec 32))
    (word : BitVec 32 × BitVec 32 → BitVec 32) (aura : AppliedAuraRef)
    (flags : BitVec 32 × BitVec 32) :
    orAll (d.values.map word) ||| word flags =
        orAll ((Dict.values (d.insert aura flags)).map word) ↔
      ∀ old, d.lookup aura = some old → ∀ i, (word old).getLsbD i = true →
        (word flags).getLsbD i = true ∨
          ∃ other known, other ≠ aura ∧ d.lookup other = some known ∧
            (word known).getLsbD i = true := by
  have hnew (i : ℕ) :
      (orAll ((Dict.values (d.insert aura flags)).map word)).getLsbD i = true ↔
        (word flags).getLsbD i = true ∨
          ∃ other known, other ≠ aura ∧ d.lookup other = some known ∧
            (word known).getLsbD i = true := by
    rw [getLsbD_orAll_values]
    constructor
    · intro h
      obtain ⟨other, known, hlookup, hbit⟩ := h
      rw [Dict.lookup_insert_eq] at hlookup
      split at hlookup
      case isTrue =>
        cases hlookup
        exact .inl hbit
      case isFalse hne => exact .inr ⟨other, known, hne, hlookup, hbit⟩
    · intro h
      cases h with
      | inl hbit => exact ⟨aura, flags, by simp, hbit⟩
      | inr hother =>
        obtain ⟨other, known, hne, hlookup, hbit⟩ := hother
        exact ⟨other, known, by rw [Dict.lookup_insert_eq, if_neg hne, hlookup], hbit⟩
  constructor
  · intro heq old hold i hbit
    rw [← hnew i, ← heq, BitVec.getLsbD_or, Bool.or_eq_true, getLsbD_orAll_values]
    exact .inl ⟨aura, old, hold, hbit⟩
  · intro hcovered
    apply BitVec.eq_of_getLsbD_eq
    intro i _
    rw [Bool.eq_iff_iff, hnew i, BitVec.getLsbD_or, Bool.or_eq_true, getLsbD_orAll_values]
    constructor
    · intro h
      cases h with
      | inl hany =>
        obtain ⟨other, known, hlookup, hbit⟩ := hany
        by_cases heq : other = aura
        · subst heq
          exact hcovered known hlookup i hbit
        · exact .inr ⟨other, known, heq, hlookup, hbit⟩
      | inr hbit => exact .inl hbit
    · intro h
      cases h with
      | inl hbit => exact .inr hbit
      | inr hother =>
        obtain ⟨other, known, -, hlookup, hbit⟩ := hother
        exact .inl ⟨other, known, hlookup, hbit⟩

theorem masksExact_addInterrupts_iff (h : x.MasksExact) (flags flags2 : BitVec 32) :
    (x.addInterrupts aura flags flags2).MasksExact ↔ x.Covered aura flags flags2 := by
  have hfirst := orAll_insert_iff x.interrupts (·.1) aura (flags, flags2)
  have hsecond := orAll_insert_iff x.interrupts (·.2) aura (flags, flags2)
  have hmask := h.first
  have hmask2 := h.second
  rw [registeredInterrupts] at hmask
  rw [registeredInterrupts2] at hmask2
  rw [← hmask] at hfirst
  rw [← hmask2] at hsecond
  constructor
  · intro hexact old hold i
    exact ⟨hfirst.mp hexact.first old hold i, hsecond.mp hexact.second old hold i⟩
  · intro hcovered
    exact ⟨hfirst.mpr fun old hold i => (hcovered old hold i).1,
      hsecond.mpr fun old hold i => (hcovered old hold i).2⟩

theorem masksExact_modifyState {flag : ℕ} {apply : Bool} :
    (x.modifyState flag apply).MasksExact ↔ x.MasksExact := by
  unfold modifyState
  split
  · exact Iff.rfl
  · exact ⟨fun h => ⟨h.first, h.second⟩, fun h => ⟨h.first, h.second⟩⟩

theorem masksExact_addState {state : ℕ} : (x.addState aura state).MasksExact ↔ x.MasksExact :=
  masksExact_modifyState.trans
    ⟨fun h => ⟨h.first, h.second⟩, fun h => ⟨h.first, h.second⟩⟩

theorem masksExact_erase (x : AuraIndices) (aura : AppliedAuraRef) : (x.erase aura).MasksExact :=
  ⟨rfl, rfl⟩

theorem masksExact_unapply (x : AuraIndices) (aura : AppliedAuraRef) :
    (x.unapply aura).MasksExact := by
  unfold unapply
  split
  · exact ⟨rfl, rfl⟩
  · exact masksExact_erase x aura

end AuraIndices

end RustyCore.Units
