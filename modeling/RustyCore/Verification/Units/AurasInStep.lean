import RustyCore.Verification.Units.AuraMasks

/-! # The indices of the auras stay in step

Every reference of an index stays applied, whatever is called. The masks of the interrupt flags
stay exact as long as no aura is registered anew with fewer flags, and unapplying auras keeps
the other aura states as long as the mask agrees with the listed auras. -/

namespace RustyCore.Units

/-! ## The calls -/

inductive AuraOp
  | registerAppliedAura (aura : AppliedAuraRef) (auraState : Option ℕ)
      (interruptFlags interruptFlags2 : BitVec 32)
  | registerAppliedAuraEffect (aura : AppliedAuraRef) (auraType amount miscValue : ℤ)
  | addSelfCastAddonAuraApplication (spellId : ℕ) (casterGuid : ObjectGuid)
      (effectMask flags : BitVec 32)
  | addSelfCastAddonAuraApplicationWithEffects (spellId : ℕ) (casterGuid : ObjectGuid)
      (effectMask flags : BitVec 32) (effects : List CreatureAddonAuraEffect)
  | removeApplied (aura : AppliedAuraRef)
  | unapplyAura (aura : AppliedAuraRef) (removeModeMarker : ℕ)
  | removeAurasByType (auraType : ℤ)
  | removeAurasDueToSpell (spellId : ℕ) (casterGuid : ObjectGuid) (reqEffMask : BitVec 32)
  | removeInterruptibleAuras (flags flags2 : BitVec 32)
  | removeAllAurasOnDeath
  | setAuraDeathPolicy (aura : AuraRef) (passive deathPersistent : Bool)
  | modifyAuraState (flag : ℕ) (apply : Bool)

def auraStep (auras : AuraSubsystem) : AuraOp → AuraSubsystem
  | .registerAppliedAura aura auraState interruptFlags interruptFlags2 =>
    auras.registerAppliedAura aura auraState interruptFlags interruptFlags2
  | .registerAppliedAuraEffect aura auraType amount miscValue =>
    auras.registerAppliedAuraEffect aura auraType amount miscValue
  | .addSelfCastAddonAuraApplication spellId casterGuid effectMask flags =>
    (auras.addSelfCastAddonAuraApplication spellId casterGuid effectMask flags).2
  | .addSelfCastAddonAuraApplicationWithEffects spellId casterGuid effectMask flags effects =>
    (auras.addSelfCastAddonAuraApplicationWithEffects spellId casterGuid effectMask flags
      effects).2
  | .removeApplied aura => (auras.removeApplied aura).2
  | .unapplyAura aura removeModeMarker => (auras.unapplyAura aura removeModeMarker).2
  | .removeAurasByType auraType => (auras.removeAurasByType auraType).2
  | .removeAurasDueToSpell spellId casterGuid reqEffMask =>
    (auras.removeAurasDueToSpell spellId casterGuid reqEffMask).2
  | .removeInterruptibleAuras flags flags2 => (auras.removeInterruptibleAuras flags flags2).2
  | .removeAllAurasOnDeath => auras.removeAllAurasOnDeath.2
  | .setAuraDeathPolicy aura passive deathPersistent =>
    auras.setAuraDeathPolicy aura passive deathPersistent
  | .modifyAuraState flag apply => auras.modifyAuraState flag apply

namespace AuraOp

/-- Auras are registered with one of the 32 aura states, or with none. -/
def Legal : AuraOp → Prop
  | registerAppliedAura _ auraState _ _ => ∀ state ∈ auraState, state ≤ 32
  | _ => True

/-- The auras that a call unapplies, one after the other. -/
def unapplied (auras : AuraSubsystem) : AuraOp → List AppliedAuraRef
  | unapplyAura aura _ => [aura]
  | removeAurasByType auraType => (auras.appliedAuraTypes.lookup auraType).getD []
  | removeAurasDueToSpell spellId casterGuid reqEffMask =>
    auras.appliedAuras.filter fun aura =>
      aura.spellId = spellId && aura.effectMask &&& reqEffMask = reqEffMask &&
        (casterGuid.isEmpty || aura.casterGuid = casterGuid)
  | removeInterruptibleAuras flags flags2 =>
    auras.interruptibleAuras.filter fun aura =>
      (auras.auraInterruptFlags.lookup aura).any fun known =>
        flags ≠ 0 && known.1 &&& flags ≠ 0 || flags2 ≠ 0 && known.2 &&& flags2 ≠ 0
  | removeAllAurasOnDeath =>
    auras.appliedAuras.filter fun aura => auras.auraRemovedOnDeath aura.auraRef
  | _ => []

/-- Where a call begins to unapply auras. -/
def unapplyStart (auras : AuraSubsystem) : AuraOp → AuraSubsystem
  | removeAurasByType auraType =>
    { auras with appliedAuraTypes := auras.appliedAuraTypes.erase auraType }
  | _ => auras

/-- How a call unapplies one of its auras. -/
def unapplyStep : AuraOp → AuraSubsystem → AppliedAuraRef → AuraSubsystem
  | unapplyAura _ removeModeMarker => fun auras aura => (auras.unapplyAura aura removeModeMarker).2
  | removeAurasDueToSpell _ _ _ => fun auras aura =>
    ((auras.unapplyAura aura 1).2.removeOwnedByAuraRef aura.auraRef).2
  | removeInterruptibleAuras _ _ => fun auras aura =>
    (auras.unapplyAura aura auraRemoveByInterrupt).2
  | _ => fun auras aura => (auras.unapplyAura aura 1).2

end AuraOp

/-- Unapplying the aura leaves every bit of the mask whose state the aura does not carry. -/
def AuraSubsystem.LeavesOtherStates (auras : AuraSubsystem) (aura : AppliedAuraRef) : Prop :=
  ∀ removeModeMarker i, ¬ auras.indices.Carries (i + 1) aura →
    (auras.unapplyAura aura removeModeMarker).2.auraStateMask.getLsbD i =
      auras.auraStateMask.getLsbD i

/-- Each aura that the call unapplies leaves the states of the other auras. -/
def KeepsStates (auras : AuraSubsystem) (op : AuraOp) : Prop :=
  EachStep op.unapplyStep AuraSubsystem.LeavesOtherStates (op.unapplyStart auras)
    (op.unapplied auras)

/-- An aura that is registered anew has its old interrupt flags again, or shares them with other
auras. -/
def FlagsCovered (auras : AuraSubsystem) : AuraOp → Prop
  | .registerAppliedAura aura _ interruptFlags interruptFlags2 =>
    interruptFlags ≠ 0 ∨ interruptFlags2 ≠ 0 →
      auras.indices.Covered aura interruptFlags interruptFlags2
  | _ => True

/-- When a call begins to unapply auras, the mask agrees with the listed auras on the states that
the first of them does not carry. -/
def StatesInSync (auras : AuraSubsystem) (op : AuraOp) : Prop :=
  ∀ aura ∈ (op.unapplied auras).head?, aura ∈ auras.appliedAuras → auras.indices.InSync aura

/-! ## What the calls do to the indices -/

namespace AuraSubsystem

variable (auras : AuraSubsystem)

theorem leavesOtherStates_iff_indices (aura : AppliedAuraRef) :
    auras.LeavesOtherStates aura ↔ auras.indices.LeavesOtherStates aura := by
  have hmask (marker : ℕ) : (auras.unapplyAura aura marker).2.auraStateMask =
      (auras.indices.unapply aura).stateMask :=
    congrArg AuraIndices.stateMask (auras.indices_unapplyAura aura marker)
  constructor
  · intro h i hcarries
    rw [← hmask 0]
    exact h 0 i hcarries
  · intro h marker i hcarries
    rw [hmask marker]
    exact h i hcarries

theorem indices_unapplyStep (op : AuraOp) (aura : AppliedAuraRef) :
    (op.unapplyStep auras aura).indices = auras.indices.unapply aura := by
  cases op <;> exact auras.indices_unapplyAura aura _

theorem indices_run_unapplyStep (op : AuraOp) (removed : List AppliedAuraRef) :
    (run op.unapplyStep auras removed).indices = run AuraIndices.unapply auras.indices removed := by
  induction removed generalizing auras with
  | nil => rfl
  | cons aura removed ih => rw [run_cons, run_cons, ih, indices_unapplyStep]

theorem keepsStates_iff_indices (op : AuraOp) :
    KeepsStates auras op ↔
      EachStep AuraIndices.unapply AuraIndices.LeavesOtherStates (op.unapplyStart auras).indices
        (op.unapplied auras) :=
  eachStep_map_iff indices (fun s aura => s.indices_unapplyStep op aura)
    (fun s aura => s.leavesOtherStates_iff_indices aura) _ _

theorem indices_removeAllAurasOnDeath :
    auras.removeAllAurasOnDeath.2.indices =
      run AuraIndices.unapply auras.indices (AuraOp.removeAllAurasOnDeath.unapplied auras) := by
  simp only [removeAllAurasOnDeath]
  refine List.foldlRecOn _ _ (motive := fun s : AuraSubsystem => s.indices =
    run AuraIndices.unapply auras.indices (AuraOp.removeAllAurasOnDeath.unapplied auras)) ?_ ?_
  · exact auras.indices_run_unapplyStep .removeAllAurasOnDeath _
  · intro s hs aura _
    have hremove := s.indices_removeOwned aura
    cases h : s.removeOwned aura with
    | mk removed s' =>
      rw [h] at hremove
      cases removed with
      | true => exact (s'.indices_markRemoved _).trans (hremove.trans hs)
      | false => exact hremove.trans hs

theorem indices_registerAppliedAura (aura : AppliedAuraRef) (auraState : Option ℕ)
    (interruptFlags interruptFlags2 : BitVec 32) :
    (auras.registerAppliedAura aura auraState interruptFlags interruptFlags2).indices =
      let x := auras.indices.addApplied aura
      let x := if interruptFlags ≠ 0 ∨ interruptFlags2 ≠ 0 then
        x.addInterrupts aura interruptFlags interruptFlags2 else x
      match auraState.filter fun state => state ≠ auraStateNone with
      | none => x
      | some state => x.addState aura state := by
  by_cases hflags : interruptFlags ≠ 0 ∨ interruptFlags2 ≠ 0
  · simp only [registerAppliedAura, if_pos hflags]
    cases auraState.filter fun state => state ≠ auraStateNone with
    | none => rfl
    | some state => exact indices_modifyAuraState _ state true
  · simp only [registerAppliedAura, if_neg hflags]
    cases auraState.filter fun state => state ≠ auraStateNone with
    | none => rfl
    | some state => exact indices_modifyAuraState _ state true

/-- What every change keeps except the registration of interrupt flags and of an aura state. -/
structure KeptByChanges (P : AuraIndices → Prop) : Prop where
  addApplied : ∀ {x}, P x → ∀ aura, P (x.addApplied aura)
  addEffect : ∀ {x}, P x → ∀ aura auraType amount miscValue,
    P (x.addEffect aura auraType amount miscValue)
  modifyState : ∀ {x}, P x → ∀ flag apply, P (x.modifyState flag apply)
  eraseType : ∀ {x}, P x → ∀ auraType, P { x with types := x.types.erase auraType }
  erase : ∀ {x}, P x → ∀ aura, P (x.erase aura)
  unapply : ∀ {x}, P x → ∀ aura, P (x.unapply aura)

variable {auras} {P : AuraIndices → Prop}

theorem KeptByChanges.run (hP : KeptByChanges P) {x : AuraIndices} (h : P x)
    (removed : List AppliedAuraRef) : P (run AuraIndices.unapply x removed) :=
  run_invariant_of_all P (fun _ aura hx => hP.unapply hx aura) h removed

theorem KeptByChanges.addSelfCastAddonAuraApplication (hP : KeptByChanges P) (h : P auras.indices)
    (spellId : ℕ) (casterGuid : ObjectGuid) (effectMask flags : BitVec 32) :
    P (auras.addSelfCastAddonAuraApplication spellId casterGuid effectMask flags).2.indices := by
  simp only [AuraSubsystem.addSelfCastAddonAuraApplication]
  split
  · exact h
  · cases auras.freeSlot with
    | none => exact h
    | some slot =>
      rw [indices_setVisibleWithApplication, indices_addApplied, indices_addOwned]
      exact hP.addApplied h _

theorem KeptByChanges.addSelfCastAddonAuraApplicationWithEffects (hP : KeptByChanges P)
    (h : P auras.indices) (spellId : ℕ) (casterGuid : ObjectGuid) (effectMask flags : BitVec 32)
    (effects : List CreatureAddonAuraEffect) :
    P (auras.addSelfCastAddonAuraApplicationWithEffects spellId casterGuid effectMask flags
      effects).2.indices := by
  simp only [AuraSubsystem.addSelfCastAddonAuraApplicationWithEffects]
  split
  · exact hP.addSelfCastAddonAuraApplication h _ _ _ _
  · split
    · exact h
    · cases auras.freeSlot with
      | none => exact h
      | some slot =>
        rw [indices_setVisibleWithApplication]
        refine List.foldlRecOn effects _ (motive := fun s : AuraSubsystem => P s.indices) h ?_
        exact fun s hs effect _ => hP.addEffect hs _ _ _ _

theorem KeptByChanges.step (hP : KeptByChanges P) (h : P auras.indices) {op : AuraOp}
    (hop : ∀ aura auraState interruptFlags interruptFlags2,
      op ≠ .registerAppliedAura aura auraState interruptFlags interruptFlags2) :
    P (auraStep auras op).indices := by
  cases op with
  | registerAppliedAura aura auraState interruptFlags interruptFlags2 =>
    exact absurd rfl (hop aura auraState interruptFlags interruptFlags2)
  | registerAppliedAuraEffect aura auraType amount miscValue =>
    exact hP.addEffect h aura auraType amount miscValue
  | addSelfCastAddonAuraApplication spellId casterGuid effectMask flags =>
    exact hP.addSelfCastAddonAuraApplication h _ _ _ _
  | addSelfCastAddonAuraApplicationWithEffects spellId casterGuid effectMask flags effects =>
    exact hP.addSelfCastAddonAuraApplicationWithEffects h _ _ _ _ _
  | removeApplied aura =>
    rw [auraStep, auras.indices_removeApplied aura]
    exact hP.erase h aura
  | unapplyAura aura removeModeMarker =>
    rw [auraStep, auras.indices_unapplyAura aura removeModeMarker]
    exact hP.unapply h aura
  | removeAurasByType auraType =>
    have hrun := indices_run_unapplyStep
      { auras with appliedAuraTypes := auras.appliedAuraTypes.erase auraType }
      (.removeAurasByType auraType) (AuraOp.unapplied auras (.removeAurasByType auraType))
    exact hrun ▸ hP.run (hP.eraseType h auraType) _
  | removeAurasDueToSpell spellId casterGuid reqEffMask =>
    have hrun := auras.indices_run_unapplyStep
      (.removeAurasDueToSpell spellId casterGuid reqEffMask)
      (AuraOp.unapplied auras (.removeAurasDueToSpell spellId casterGuid reqEffMask))
    exact hrun ▸ hP.run h _
  | removeInterruptibleAuras flags flags2 =>
    have hrun := auras.indices_run_unapplyStep (.removeInterruptibleAuras flags flags2)
      (AuraOp.unapplied auras (.removeInterruptibleAuras flags flags2))
    exact hrun ▸ hP.run h _
  | removeAllAurasOnDeath =>
    rw [auraStep, auras.indices_removeAllAurasOnDeath]
    exact hP.run h _
  | setAuraDeathPolicy aura passive deathPersistent => exact h
  | modifyAuraState flag apply =>
    rw [auraStep, auras.indices_modifyAuraState flag apply]
    exact hP.modifyState h flag apply

end AuraSubsystem

/-! ## The references -/

/-- Every reference is applied, and the listed states fit the mask. -/
structure AuraIndices.Consistent (x : AuraIndices) : Prop where
  indexed : x.Indexed
  statesFit : x.StatesFit

theorem keptByChanges_consistent : AuraSubsystem.KeptByChanges AuraIndices.Consistent where
  addApplied h aura := ⟨h.indexed.addApplied aura, h.statesFit⟩
  addEffect h aura auraType amount miscValue :=
    ⟨h.indexed.addEffect aura auraType amount miscValue, h.statesFit⟩
  modifyState h flag apply := ⟨h.indexed.modifyState flag apply, h.statesFit.modifyState flag apply⟩
  eraseType h auraType := ⟨h.indexed.eraseType auraType, h.statesFit⟩
  erase h aura := ⟨h.indexed.erase aura, h.statesFit.erase aura⟩
  unapply h aura := ⟨h.indexed.unapply aura, h.statesFit.unapply aura⟩

variable {auras : AuraSubsystem}

theorem consistent_registerAppliedAura (h : auras.indices.Consistent) (aura : AppliedAuraRef)
    {auraState : Option ℕ} (hlegal : ∀ state ∈ auraState, state ≤ 32)
    (interruptFlags interruptFlags2 : BitVec 32) :
    (auras.registerAppliedAura aura auraState interruptFlags
      interruptFlags2).indices.Consistent := by
  have hadded := keptByChanges_consistent.addApplied h aura
  have happlied : aura ∈ (auras.indices.addApplied aura).applied :=
    AuraIndices.mem_pushNew.mpr (.inl rfl)
  have hstate (x : AuraIndices) (hx : x.Consistent) (hmem : aura ∈ x.applied) :
      AuraIndices.Consistent (match auraState.filter fun state => state ≠ auraStateNone with
        | none => x
        | some state => x.addState aura state) := by
    cases hfilter : auraState.filter fun state => state ≠ auraStateNone with
    | none => exact hx
    | some state =>
      obtain ⟨hsome, hne⟩ := Option.filter_eq_some_iff.mp hfilter
      have hpos : 1 ≤ state := Nat.one_le_iff_ne_zero.mpr (of_decide_eq_true hne)
      exact ⟨hx.indexed.addState hmem state,
        hx.statesFit.addState aura hpos (hlegal state hsome)⟩
  rw [AuraSubsystem.indices_registerAppliedAura]
  refine hstate _ ?_ ?_
  · split
    · exact ⟨hadded.indexed.addInterrupts happlied _ _, hadded.statesFit⟩
    · exact hadded
  · split <;> exact happlied

theorem consistent_step (h : auras.indices.Consistent) {op : AuraOp} (hlegal : op.Legal) :
    (auraStep auras op).indices.Consistent := by
  cases op with
  | registerAppliedAura aura auraState interruptFlags interruptFlags2 =>
    exact consistent_registerAppliedAura h aura hlegal interruptFlags interruptFlags2
  | _ => exact keptByChanges_consistent.step h (by simp)

/-! ## The masks of the interrupt flags -/

theorem keptByChanges_masksExact : AuraSubsystem.KeptByChanges AuraIndices.MasksExact where
  addApplied h _ := ⟨h.first, h.second⟩
  addEffect h _ _ _ _ := ⟨h.first, h.second⟩
  modifyState h _ _ := AuraIndices.masksExact_modifyState.mpr h
  eraseType h _ := ⟨h.first, h.second⟩
  erase _ aura := AuraIndices.masksExact_erase _ aura
  unapply _ aura := AuraIndices.masksExact_unapply _ aura

theorem masksExact_registerAppliedAura_iff (h : auras.indices.MasksExact) (aura : AppliedAuraRef)
    (auraState : Option ℕ) (interruptFlags interruptFlags2 : BitVec 32) :
    (auras.registerAppliedAura aura auraState interruptFlags
        interruptFlags2).indices.MasksExact ↔
      (interruptFlags ≠ 0 ∨ interruptFlags2 ≠ 0 →
        auras.indices.Covered aura interruptFlags interruptFlags2) := by
  have hadded : (auras.indices.addApplied aura).MasksExact := ⟨h.first, h.second⟩
  have hstate (x : AuraIndices) :
      AuraIndices.MasksExact (match auraState.filter fun state => state ≠ auraStateNone with
        | none => x
        | some state => x.addState aura state) ↔ x.MasksExact := by
    cases auraState.filter fun state => state ≠ auraStateNone with
    | none => exact Iff.rfl
    | some state => exact AuraIndices.masksExact_addState
  rw [AuraSubsystem.indices_registerAppliedAura]
  refine (hstate _).trans ?_
  by_cases hflags : interruptFlags ≠ 0 ∨ interruptFlags2 ≠ 0
  · rw [if_pos hflags, AuraIndices.masksExact_addInterrupts_iff hadded]
    exact ⟨fun hcovered _ => hcovered, fun hcovered => hcovered hflags⟩
  · rw [if_neg hflags]
    exact iff_of_true hadded fun hflags' => absurd hflags' hflags

theorem masksExact_step_iff (h : auras.indices.MasksExact) (op : AuraOp) :
    (auraStep auras op).indices.MasksExact ↔ FlagsCovered auras op := by
  cases op with
  | registerAppliedAura aura auraState interruptFlags interruptFlags2 =>
    exact masksExact_registerAppliedAura_iff h aura auraState interruptFlags interruptFlags2
  | _ => exact iff_of_true (keptByChanges_masksExact.step h (by simp)) trivial

/-! ## The mask of the aura states -/

theorem unapplied_applied (h : auras.indices.Indexed) {op : AuraOp}
    (hop : ∀ aura removeModeMarker, op ≠ .unapplyAura aura removeModeMarker) :
    ∀ aura ∈ op.unapplied auras, aura ∈ auras.appliedAuras := by
  intro aura hmem
  cases op with
  | unapplyAura aura removeModeMarker => exact absurd rfl (hop aura removeModeMarker)
  | removeAurasByType auraType =>
    have htyped : aura ∈ (auras.appliedAuraTypes.lookup auraType).getD [] := hmem
    cases hlist : auras.appliedAuraTypes.lookup auraType with
    | none => simp [hlist] at htyped
    | some typed => exact h aura (.typed hlist (by simpa [hlist] using htyped))
  | removeAurasDueToSpell spellId casterGuid reqEffMask => exact List.mem_of_mem_filter hmem
  | removeInterruptibleAuras flags flags2 =>
    exact h aura (.interruptible (List.mem_of_mem_filter hmem))
  | removeAllAurasOnDeath => exact List.mem_of_mem_filter hmem
  | _ => cases hmem

theorem keepsStates_iff (h : auras.indices.Consistent) (op : AuraOp) :
    KeepsStates auras op ↔ StatesInSync auras op := by
  rw [AuraSubsystem.keepsStates_iff_indices, StatesInSync]
  have hstart : (op.unapplyStart auras).indices.Consistent := by
    cases op with
    | removeAurasByType auraType => exact keptByChanges_consistent.eraseType h auraType
    | _ => exact h
  have hsync (aura : AppliedAuraRef) :
      (op.unapplyStart auras).indices.InSync aura ↔ auras.indices.InSync aura := by
    cases op <;> exact Iff.rfl
  have happlied : (op.unapplyStart auras).indices.applied = auras.appliedAuras := by
    cases op <;> rfl
  have hmany (hop : ∀ aura removeModeMarker, op ≠ .unapplyAura aura removeModeMarker) :
      EachStep AuraIndices.unapply AuraIndices.LeavesOtherStates (op.unapplyStart auras).indices
          (op.unapplied auras) ↔
        ∀ aura ∈ (op.unapplied auras).head?, aura ∈ auras.appliedAuras →
          auras.indices.InSync aura := by
    have hmem := unapplied_applied h.indexed hop
    rw [AuraIndices.unapplications_leave_iff hstart.statesFit hstart.indexed
      (happlied.symm ▸ hmem)]
    refine forall₂_congr fun aura hhead => ?_
    rw [hsync]
    exact ⟨fun hin _ => hin, fun hin => hin (hmem aura (List.mem_of_mem_head? hhead))⟩
  cases op with
  | unapplyAura aura removeModeMarker =>
    have hone := h.statesFit.leavesOtherStates_iff aura
    simpa [AuraOp.unapplied, AuraOp.unapplyStart, EachStep, AuraSubsystem.indices] using hone
  | _ => exact hmany (by simp)

/-! ## Runs -/

theorem consistent_default : AuraSubsystem.default.indices.Consistent where
  indexed aura h := by
    cases h with
    | typed hlist hmem => cases hlist
    | amount hlookup => cases hlookup
    | miscValue hlookup => cases hlookup
    | interruptible hmem => cases hmem
    | interrupts hlookup => cases hlookup
    | state hcarries =>
      obtain ⟨auras, hlist, -⟩ := hcarries
      cases hlist
  statesFit state auras hlookup := by cases hlookup

theorem in_step_run_iff (h : auras.indices.Consistent) (hexact : auras.indices.MasksExact)
    {ops : List AuraOp} (hops : ∀ op ∈ ops, op.Legal) :
    EachStep auraStep
        (fun auras op => (auraStep auras op).indices.MasksExact ∧ KeepsStates auras op) auras ops ↔
      EachStep auraStep (fun auras op => FlagsCovered auras op ∧ StatesInSync auras op) auras
        ops := by
  induction ops generalizing auras with
  | nil => exact Iff.rfl
  | cons op ops ih =>
    have hstep := and_congr (masksExact_step_iff hexact op) (keepsStates_iff h op)
    have hrest (hexact' : (auraStep auras op).indices.MasksExact) :=
      ih (consistent_step h (hops op (by simp))) hexact' fun op' hop => hops op' (by simp [hop])
    constructor
    · intro hall
      exact ⟨hstep.mp hall.1, (hrest hall.1.1).mp hall.2⟩
    · intro hall
      have hkept := hstep.mpr hall.1
      exact ⟨hkept, (hrest hkept.1).mpr hall.2⟩

/-- Every reference stays applied in every run. The interrupt masks stay exact and unapplied auras
leave the other states exactly along the runs in which no aura is registered anew without flags
that only it had, and in which the mask of the aura states is in step whenever auras are
unapplied. -/
theorem aura_indices_in_step_iff (ops : List AuraOp) (hops : ∀ op ∈ ops, op.Legal) :
    (∀ ops', ops' <+: ops → (run auraStep AuraSubsystem.default ops').indices.Indexed) ∧
      AuraSubsystem.default.indices.MasksExact ∧
      (EachStep auraStep
          (fun auras op => (auraStep auras op).indices.MasksExact ∧ KeepsStates auras op)
          AuraSubsystem.default ops ↔
        EachStep auraStep (fun auras op => FlagsCovered auras op ∧ StatesInSync auras op)
          AuraSubsystem.default ops) := by
  refine ⟨fun ops' hinit => ?_, ⟨rfl, rfl⟩, in_step_run_iff consistent_default ⟨rfl, rfl⟩ hops⟩
  have hlegal : EachStep auraStep (fun _ op => op.Legal) AuraSubsystem.default ops' :=
    EachStep.of_forall (fun op hop _ => hops op (hinit.subset hop)) _
  exact (run_invariant (fun auras : AuraSubsystem => auras.indices.Consistent)
    (fun _ _ h hlegal => consistent_step h hlegal) consistent_default hlegal).indexed

def freeAction : AppliedAuraRef := ⟨6615, ⟨0, 1⟩, 0, 1⟩

theorem aura_indices_in_step_defensive :
    (∀ ops', ops' <+: [.registerAppliedAura freeAction (some 1) 8 0, .unapplyAura freeAction 1] →
        (run auraStep AuraSubsystem.default ops').indices.Indexed) ∧
      AuraSubsystem.default.indices.MasksExact ∧
      (EachStep auraStep
          (fun auras op => (auraStep auras op).indices.MasksExact ∧ KeepsStates auras op)
          AuraSubsystem.default
          [.registerAppliedAura freeAction (some 1) 8 0, .unapplyAura freeAction 1] ↔
        EachStep auraStep (fun auras op => FlagsCovered auras op ∧ StatesInSync auras op)
          AuraSubsystem.default
          [.registerAppliedAura freeAction (some 1) 8 0, .unapplyAura freeAction 1]) :=
  aura_indices_in_step_iff _ (by simp [AuraOp.Legal])

/-- A state that was set by itself is cleared when an aura without any state is unapplied. -/
theorem single_state_cleared :
    ¬ EachStep auraStep KeepsStates AuraSubsystem.default
      [.modifyAuraState 1 true, .registerAppliedAura freeAction none 0 0,
        .unapplyAura freeAction 1] := by
  intro h
  have hkeeps := h.2.2.1.1 1 0 fun hcarries => by
    obtain ⟨auras, hlist, -⟩ := hcarries
    cases hlist
  revert hkeeps
  decide

end RustyCore.Units
