import RustyCore.Library.Dict
import RustyCore.Library.FixedWidth
import RustyCore.Model.ObjectGuid

/-! # The auras of a unit

The applied auras, the indices by type, amount, interrupt flags and aura state that are kept
beside them, and the masks that sum up these indices. -/

namespace RustyCore.Units

structure AuraRef where
  spellId : ℕ
  casterGuid : ObjectGuid
deriving DecidableEq

structure OwnedAuraRef where
  spellId : ℕ
  casterGuid : ObjectGuid
  itemCasterGuid : Option ObjectGuid
deriving DecidableEq

def OwnedAuraRef.auraRef (aura : OwnedAuraRef) : AuraRef := ⟨aura.spellId, aura.casterGuid⟩

structure AppliedAuraRef where
  spellId : ℕ
  casterGuid : ObjectGuid
  slot : ℕ
  effectMask : BitVec 32
deriving DecidableEq

def AppliedAuraRef.auraRef (aura : AppliedAuraRef) : AuraRef := ⟨aura.spellId, aura.casterGuid⟩

structure AuraCastProvenance where
  castId : ObjectGuid
  spellVisualId : ℤ

structure LoadedAuraState where
  maxDurationMs : ℤ
  durationMs : ℤ
  charges : ℕ
  stackAmount : ℕ
  recalculateMask : BitVec 32

structure VisibleAuraEffectAmount where
  effectIndex : ℕ
  amount : ℤ

structure VisibleAuraApplication where
  flags : BitVec 32
  effectAmounts : List VisibleAuraEffectAmount

structure CreatureAddonAuraEffect where
  effectIndex : ℕ
  auraType : ℤ
  amount : ℤ
  miscValue : ℤ

def auraStateNone : ℕ := 0

def auraRemoveByInterrupt : ℕ := 2

structure AuraSubsystem where
  spellHitAuraAuthorityInert : Bool
  spellCastLogAuraAuthorityInert : Bool
  auraCastProvenanceBySlot : Dict ℕ AuraCastProvenance
  ownedAuras : List OwnedAuraRef
  appliedAuras : List AppliedAuraRef
  appliedAuraTypes : Dict ℤ (List AppliedAuraRef)
  appliedAuraAmounts : Dict AppliedAuraRef ℤ
  appliedAuraMiscValues : Dict AppliedAuraRef ℤ
  loadedAuraStates : Dict AuraRef LoadedAuraState
  visibleAuras : Dict ℕ AuraRef
  visibleAuraApplications : Dict ℕ VisibleAuraApplication
  visibleAurasToUpdate : Finset ℕ
  removedAuras : List AuraRef
  removedAurasCount : ℕ
  passiveAuras : Finset AuraRef
  deathPersistentAuras : Finset AuraRef
  interruptibleAuras : List AppliedAuraRef
  auraInterruptFlags : Dict AppliedAuraRef (BitVec 32 × BitVec 32)
  auraStateAuras : Dict ℕ (List AppliedAuraRef)
  auraStateMask : BitVec 32
  interruptFlags : BitVec 32
  interruptFlags2 : BitVec 32

/-- `if !auras.contains(&aura) { auras.push(aura) }`. -/
def pushNew {α : Type*} [DecidableEq α] (aura : α) (auras : List α) : List α :=
  if aura ∈ auras then auras else auras ++ [aura]

/-- `1_u32 << u32::from(effect_index)`, with the index taken modulo the width. -/
def effectBit (effectIndex : ℕ) : BitVec 32 := 1#32 <<< (effectIndex % 32)

/-- `1 << (flag - 1)`, with the shift taken modulo the width. -/
def auraStateBit (flag : ℕ) : BitVec 32 := 1#32 <<< ((flag - 1) % 32)

/-- `aura` taken out of the lists of a map, and the lists that it leaves empty out of the map. -/
def removeFromLists {κ : Type*} [DecidableEq κ] (aura : AppliedAuraRef)
    (lists : Dict κ (List AppliedAuraRef)) : Dict κ (List AppliedAuraRef) :=
  (lists.mapValues fun _ auras => auras.filter fun known => known ≠ aura).retain
    fun _ auras => !auras.isEmpty

namespace AuraSubsystem

def default : AuraSubsystem :=
  ⟨false, false, ∅, [], [], ∅, ∅, ∅, ∅, ∅, ∅, ∅, [], 0, ∅, ∅, [], ∅, ∅, 0, 0, 0⟩

def invalidateSpellHitAuraAuthority (auras : AuraSubsystem) : AuraSubsystem :=
  { auras with spellHitAuraAuthorityInert := false, spellCastLogAuraAuthorityInert := false }

def removeAuraCastProvenance (slot : ℕ) (auras : AuraSubsystem) : AuraSubsystem :=
  match auras.auraCastProvenanceBySlot.lookup slot with
  | none => auras
  | some _ => invalidateSpellHitAuraAuthority
      { auras with auraCastProvenanceBySlot := auras.auraCastProvenanceBySlot.erase slot }

/-! ## Adding -/

def addOwned (aura : OwnedAuraRef) (auras : AuraSubsystem) : AuraSubsystem :=
  let auras := auras.invalidateSpellHitAuraAuthority
  { auras with ownedAuras := pushNew aura auras.ownedAuras }

def addApplied (aura : AppliedAuraRef) (auras : AuraSubsystem) : AuraSubsystem :=
  let auras := auras.invalidateSpellHitAuraAuthority
  { auras with appliedAuras := pushNew aura auras.appliedAuras }

def registerAppliedAuraType (aura : AppliedAuraRef) (auraType : ℤ) (auras : AuraSubsystem) :
    AuraSubsystem :=
  let auras := auras.addApplied aura
  let typedAuras := (auras.appliedAuraTypes.lookup auraType).getD []
  { auras with
    appliedAuraTypes := auras.appliedAuraTypes.insert auraType (pushNew aura typedAuras) }

def registerAppliedAuraModifier (aura : AppliedAuraRef) (auraType amount : ℤ)
    (auras : AuraSubsystem) : AuraSubsystem :=
  let auras := auras.registerAppliedAuraType aura auraType
  { auras with appliedAuraAmounts := auras.appliedAuraAmounts.insert aura amount }

def registerAppliedAuraEffect (aura : AppliedAuraRef) (auraType amount miscValue : ℤ)
    (auras : AuraSubsystem) : AuraSubsystem :=
  let auras := auras.registerAppliedAuraModifier aura auraType amount
  { auras with appliedAuraMiscValues := auras.appliedAuraMiscValues.insert aura miscValue }

def setVisibleWithApplication (slot : ℕ) (aura : AuraRef) (application : VisibleAuraApplication)
    (auras : AuraSubsystem) : AuraSubsystem :=
  let auras := auras.invalidateSpellHitAuraAuthority.removeAuraCastProvenance slot
  { auras with
    visibleAuras := auras.visibleAuras.insert slot aura
    visibleAuraApplications := auras.visibleAuraApplications.insert slot application
    visibleAurasToUpdate := insert slot auras.visibleAurasToUpdate }

/-- The first slot below 255 that shows no aura. -/
def freeSlot (auras : AuraSubsystem) : Option ℕ :=
  (List.range 255).find? fun slot => (auras.visibleAuras.lookup slot).isNone

def addSelfCastAddonAuraApplication (spellId : ℕ) (casterGuid : ObjectGuid)
    (effectMask flags : BitVec 32) (auras : AuraSubsystem) : Option ℕ × AuraSubsystem :=
  if auras.appliedAuras.any fun aura => aura.spellId = spellId && aura.casterGuid = casterGuid then
    (none, auras)
  else
    match auras.freeSlot with
    | none => (none, auras)
    | some slot =>
      let applied : AppliedAuraRef := ⟨spellId, casterGuid, slot, effectMask⟩
      let auras := (auras.addOwned ⟨spellId, casterGuid, none⟩).addApplied applied
      (some slot, auras.setVisibleWithApplication slot applied.auraRef ⟨flags, []⟩)

def addSelfCastAddonAuraApplicationWithEffects (spellId : ℕ) (casterGuid : ObjectGuid)
    (effectMask flags : BitVec 32) (effects : List CreatureAddonAuraEffect)
    (auras : AuraSubsystem) : Option ℕ × AuraSubsystem :=
  if effects.isEmpty then
    auras.addSelfCastAddonAuraApplication spellId casterGuid effectMask flags
  else if auras.appliedAuras.any fun aura =>
      aura.spellId = spellId && aura.casterGuid = casterGuid then
    (none, auras)
  else
    match auras.freeSlot with
    | none => (none, auras)
    | some slot =>
      let auras := auras.addOwned ⟨spellId, casterGuid, none⟩
      let auras := effects.foldl (fun auras effect => auras.registerAppliedAuraEffect
        ⟨spellId, casterGuid, slot, effectBit effect.effectIndex⟩ effect.auraType effect.amount
        effect.miscValue) auras
      (some slot, auras.setVisibleWithApplication slot ⟨spellId, casterGuid⟩
        ⟨flags, effects.map fun effect => ⟨effect.effectIndex, effect.amount⟩⟩)

/-! ## Aura states -/

def modifyAuraState (flag : ℕ) (apply : Bool) (auras : AuraSubsystem) : AuraSubsystem :=
  if flag = auraStateNone then auras
  else
    let auras := auras.invalidateSpellHitAuraAuthority
    let mask := auraStateBit flag
    { auras with auraStateMask :=
        if apply then auras.auraStateMask ||| mask else auras.auraStateMask &&& ~~~mask }

def rebuildAuraStateMask (auras : AuraSubsystem) : AuraSubsystem :=
  let states := auras.auraStateAuras.keys
  states.foldl (fun auras state => auras.modifyAuraState state true)
    { auras with auraStateMask := 0 }

def registerAppliedAura (aura : AppliedAuraRef) (auraState : Option ℕ)
    (interruptFlags interruptFlags2 : BitVec 32) (auras : AuraSubsystem) : AuraSubsystem :=
  let auras := auras.addApplied aura
  let auras :=
    if interruptFlags ≠ 0 ∨ interruptFlags2 ≠ 0 then
      { auras with
        interruptibleAuras := pushNew aura auras.interruptibleAuras
        auraInterruptFlags :=
          auras.auraInterruptFlags.insert aura (interruptFlags, interruptFlags2)
        interruptFlags := auras.interruptFlags ||| interruptFlags
        interruptFlags2 := auras.interruptFlags2 ||| interruptFlags2 }
    else auras
  match auraState.filter fun state => state ≠ auraStateNone with
  | none => auras
  | some auraState =>
    let stateAuras := (auras.auraStateAuras.lookup auraState).getD []
    { auras with
      auraStateAuras := auras.auraStateAuras.insert auraState (stateAuras ++ [aura]) }
    |>.modifyAuraState auraState true

/-! ## Removing -/

def removeOwned (aura : OwnedAuraRef) (auras : AuraSubsystem) : Bool × AuraSubsystem :=
  let auras := auras.invalidateSpellHitAuraAuthority
  let ownedAuras := auras.ownedAuras.filter fun known => known ≠ aura
  (auras.ownedAuras.length ≠ ownedAuras.length, { auras with ownedAuras := ownedAuras })

def removeOwnedByAuraRef (aura : AuraRef) (auras : AuraSubsystem) : Bool × AuraSubsystem :=
  let auras := auras.invalidateSpellHitAuraAuthority
  let ownedAuras := auras.ownedAuras.filter fun known => known.auraRef ≠ aura
  (auras.ownedAuras.length ≠ ownedAuras.length, { auras with ownedAuras := ownedAuras })

def updateInterruptMasks (auras : AuraSubsystem) : AuraSubsystem :=
  auras.auraInterruptFlags.values.foldl
    (fun auras flags =>
      { auras with
        interruptFlags := auras.interruptFlags ||| flags.1
        interruptFlags2 := auras.interruptFlags2 ||| flags.2 })
    { auras with interruptFlags := 0, interruptFlags2 := 0 }

def removeApplied (aura : AppliedAuraRef) (auras : AuraSubsystem) : Bool × AuraSubsystem :=
  let auras := auras.invalidateSpellHitAuraAuthority
  let before := auras.appliedAuras.length
  let auras := { auras with
    appliedAuras := auras.appliedAuras.filter fun known => known ≠ aura
    appliedAuraTypes := removeFromLists aura auras.appliedAuraTypes
    interruptibleAuras := auras.interruptibleAuras.filter fun known => known ≠ aura
    auraInterruptFlags := auras.auraInterruptFlags.erase aura
    auraStateAuras := removeFromLists aura auras.auraStateAuras
    appliedAuraAmounts := auras.appliedAuraAmounts.erase aura
    appliedAuraMiscValues := auras.appliedAuraMiscValues.erase aura
    loadedAuraStates := auras.loadedAuraStates.erase aura.auraRef }
  let removed : Bool := before ≠ auras.appliedAuras.length
  let auras :=
    if removed && !auras.appliedAuras.any fun known => known.slot = aura.slot then
      auras.removeAuraCastProvenance aura.slot
    else auras
  (removed, auras.updateInterruptMasks)

def markRemoved (aura : AuraRef) (auras : AuraSubsystem) : AuraSubsystem :=
  let auras := auras.invalidateSpellHitAuraAuthority
  { auras with
    removedAuras := auras.removedAuras ++ [aura]
    removedAurasCount := saturatingAdd 32 auras.removedAurasCount 1 }

def unapplyAura (aura : AppliedAuraRef) (removeModeMarker : ℕ) (auras : AuraSubsystem) :
    Bool × AuraSubsystem :=
  let (removed, auras) := auras.removeApplied aura
  if removed then
    let auras := auras.markRemoved aura.auraRef
    let auras :=
      if removeModeMarker ≠ 0 then
        { auras with removedAurasCount := saturatingAdd 32 auras.removedAurasCount 0 }
      else auras
    (removed, auras.rebuildAuraStateMask)
  else (removed, auras)

def removeAurasByType (auraType : ℤ) (auras : AuraSubsystem) :
    List AppliedAuraRef × AuraSubsystem :=
  let removed := (auras.appliedAuraTypes.lookup auraType).getD []
  let auras := { auras with appliedAuraTypes := auras.appliedAuraTypes.erase auraType }
  (removed, removed.foldl (fun auras aura => (auras.unapplyAura aura 1).2) auras)

def removeAurasDueToSpell (spellId : ℕ) (casterGuid : ObjectGuid) (reqEffMask : BitVec 32)
    (auras : AuraSubsystem) : List AppliedAuraRef × AuraSubsystem :=
  let removed := auras.appliedAuras.filter fun aura =>
    aura.spellId = spellId && aura.effectMask &&& reqEffMask = reqEffMask &&
      (casterGuid.isEmpty || aura.casterGuid = casterGuid)
  (removed, removed.foldl
    (fun auras aura => ((auras.unapplyAura aura 1).2.removeOwnedByAuraRef aura.auraRef).2) auras)

def removeInterruptibleAuras (flags flags2 : BitVec 32) (auras : AuraSubsystem) :
    List AppliedAuraRef × AuraSubsystem :=
  let removed := auras.interruptibleAuras.filter fun aura =>
    (auras.auraInterruptFlags.lookup aura).any fun known =>
      flags ≠ 0 && known.1 &&& flags ≠ 0 || flags2 ≠ 0 && known.2 &&& flags2 ≠ 0
  (removed,
    removed.foldl (fun auras aura => (auras.unapplyAura aura auraRemoveByInterrupt).2) auras)

def auraRemovedOnDeath (aura : AuraRef) (auras : AuraSubsystem) : Bool :=
  aura ∉ auras.passiveAuras && aura ∉ auras.deathPersistentAuras

def removeAllAurasOnDeath (auras : AuraSubsystem) :
    (List AppliedAuraRef × List OwnedAuraRef) × AuraSubsystem :=
  let removableApplied := auras.appliedAuras.filter fun aura =>
    auras.auraRemovedOnDeath aura.auraRef
  let auras := removableApplied.foldl (fun auras aura => (auras.unapplyAura aura 1).2) auras
  let removableOwned := auras.ownedAuras.filter fun aura => auras.auraRemovedOnDeath aura.auraRef
  ((removableApplied, removableOwned),
    removableOwned.foldl
      (fun auras aura =>
        match auras.removeOwned aura with
        | (true, auras) => auras.markRemoved aura.auraRef
        | (false, auras) => auras)
      auras)

def setAuraDeathPolicy (aura : AuraRef) (passive deathPersistent : Bool) (auras : AuraSubsystem) :
    AuraSubsystem :=
  let auras := auras.invalidateSpellHitAuraAuthority
  { auras with
    passiveAuras :=
      if passive then insert aura auras.passiveAuras else auras.passiveAuras.erase aura
    deathPersistentAuras :=
      if deathPersistent then insert aura auras.deathPersistentAuras
      else auras.deathPersistentAuras.erase aura }

end AuraSubsystem

end RustyCore.Units
