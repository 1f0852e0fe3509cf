import RustyCore.Library.Run
import RustyCore.Model.Units.Auras

/-! # The indices of the auras

What each change of the auras of a unit does to the indices and the masks, seen apart from the
rest of the subsystem. -/

namespace RustyCore.Units

variable {aura other : AppliedAuraRef}

/-- The applied auras, the indices beside them and the masks. -/
structure AuraIndices where
  applied : List AppliedAuraRef
  types : Dict ℤ (List AppliedAuraRef)
  amounts : Dict AppliedAuraRef ℤ
  miscValues : Dict AppliedAuraRef ℤ
  interruptible : List AppliedAuraRef
  interrupts : Dict AppliedAuraRef (BitVec 32 × BitVec 32)
  states : Dict ℕ (List AppliedAuraRef)
  stateMask : BitVec 32
  interruptMask : BitVec 32
  interruptMask2 : BitVec 32

def AuraSubsystem.indices (auras : AuraSubsystem) : AuraIndices where
  applied := auras.appliedAuras
  types := auras.appliedAuraTypes
  amounts := auras.appliedAuraAmounts
  miscValues := auras.appliedAuraMiscValues
  interruptible := auras.interruptibleAuras
  interrupts := auras.auraInterruptFlags
  states := auras.auraStateAuras
  stateMask := auras.auraStateMask
  interruptMask := auras.interruptFlags
  interruptMask2 := auras.interruptFlags2

/-- The bits that some flag word of a list has. -/
def orAll (words : List (BitVec 32)) : BitVec 32 := words.foldl (· ||| ·) 0

namespace AuraIndices

variable (x : AuraIndices)

/-- The interrupt flags registered for the applied auras, summed up. -/
def registeredInterrupts : BitVec 32 := orAll (x.interrupts.values.map (·.1))

def registeredInterrupts2 : BitVec 32 := orAll (x.interrupts.values.map (·.2))

/-- Some applied aura is listed with the state. -/
def hasState (state : ℕ) : Bool := (x.states.lookup state).isSome

def Carries (state : ℕ) (aura : AppliedAuraRef) : Prop :=
  ∃ auras, x.states.lookup state = some auras ∧ aura ∈ auras

/-- An index other than the list of applied auras refers to the aura. -/
inductive Mentions (aura : AppliedAuraRef) : Prop
  | typed {auraType : ℤ} {auras : List AppliedAuraRef}
      (hlist : x.types.lookup auraType = some auras) (hmem : aura ∈ auras)
  | amount {n : ℤ} (hlookup : x.amounts.lookup aura = some n)
  | miscValue {n : ℤ} (hlookup : x.miscValues.lookup aura = some n)
  | interruptible (hmem : aura ∈ x.interruptible)
  | interrupts {flags : BitVec 32 × BitVec 32} (hlookup : x.interrupts.lookup aura = some flags)
  | state {state : ℕ} (hcarries : x.Carries state aura)

def Indexed : Prop := ∀ aura, x.Mentions aura → aura ∈ x.applied

structure MasksExact : Prop where
  first : x.interruptMask = x.registeredInterrupts
  second : x.interruptMask2 = x.registeredInterrupts2

/-! ## Changes -/

def addApplied (aura : AppliedAuraRef) : AuraIndices :=
  { x with applied := pushNew aura x.applied }

def addEffect (aura : AppliedAuraRef) (auraType amount miscValue : ℤ) : AuraIndices :=
  { x.addApplied aura with
    types := x.types.insert auraType (pushNew aura ((x.types.lookup auraType).getD []))
    amounts := x.amounts.insert aura amount
    miscValues := x.miscValues.insert aura miscValue }

def addInterrupts (aura : AppliedAuraRef) (flags flags2 : BitVec 32) : AuraIndices :=
  { x with
    interruptible := pushNew aura x.interruptible
    interrupts := x.interrupts.insert aura (flags, flags2)
    interruptMask := x.interruptMask ||| flags
    interruptMask2 := x.interruptMask2 ||| flags2 }

def modifyState (flag : ℕ) (apply : Bool) : AuraIndices :=
  if flag = auraStateNone then x
  else
    { x with stateMask :=
        if apply then x.stateMask ||| auraStateBit flag else x.stateMask &&& ~~~auraStateBit flag }

def addState (aura : AppliedAuraRef) (state : ℕ) : AuraIndices :=
  { x with states := x.states.insert state ((x.states.lookup state).getD [] ++ [aura]) }
  |>.modifyState state true

/-- The aura taken out of every index, and the interrupt masks summed up anew. -/
def erase (aura : AppliedAuraRef) : AuraIndices :=
  let interrupts : Dict AppliedAuraRef (BitVec 32 × BitVec 32) := x.interrupts.erase aura
  { applied := x.applied.filter fun known => known ≠ aura
    types := removeFromLists aura x.types
    amounts := x.amounts.erase aura
    miscValues := x.miscValues.erase aura
    interruptible := x.interruptible.filter fun known => known ≠ aura
    interrupts := interrupts
    states := removeFromLists aura x.states
    stateMask := x.stateMask
    interruptMask := orAll (interrupts.values.map (·.1))
    interruptMask2 := orAll (interrupts.values.map (·.2)) }

/-- The mask of the states that some aura is listed with. -/
def rebuilt : BitVec 32 :=
  orAll ((x.states.keys.filter fun state => state ≠ auraStateNone).map auraStateBit)

def unapply (aura : AppliedAuraRef) : AuraIndices :=
  if aura ∈ x.applied then { x.erase aura with stateMask := (x.erase aura).rebuilt }
  else x.erase aura

end AuraIndices

/-! ## The calls on the indices -/

namespace AuraSubsystem

variable (auras : AuraSubsystem)

@[simp] theorem indices_invalidate :
    auras.invalidateSpellHitAuraAuthority.indices = auras.indices := rfl

@[simp] theorem indices_removeAuraCastProvenance (slot : ℕ) :
    (auras.removeAuraCastProvenance slot).indices = auras.indices := by
  unfold removeAuraCastProvenance
  split <;> rfl

@[simp] theorem indices_addOwned (aura : OwnedAuraRef) :
    (auras.addOwned aura).indices = auras.indices := rfl

@[simp] theorem indices_addApplied (aura : AppliedAuraRef) :
    (auras.addApplied aura).indices = auras.indices.addApplied aura := rfl

@[simp] theorem indices_registerAppliedAuraEffect (aura : AppliedAuraRef)
    (auraType amount miscValue : ℤ) :
    (auras.registerAppliedAuraEffect aura auraType amount miscValue).indices =
      auras.indices.addEffect aura auraType amount miscValue := rfl

@[simp] theorem indices_setVisibleWithApplication (slot : ℕ) (aura : AuraRef)
    (application : VisibleAuraApplication) :
    (auras.setVisibleWithApplication slot aura application).indices = auras.indices := by
  have h := indices_removeAuraCastProvenance auras.invalidateSpellHitAuraAuthority slot
  exact h

@[simp] theorem indices_modifyAuraState (flag : ℕ) (apply : Bool) :
    (auras.modifyAuraState flag apply).indices = auras.indices.modifyState flag apply := by
  unfold modifyAuraState AuraIndices.modifyState
  split <;> rfl

@[simp] theorem indices_removeOwned (aura : OwnedAuraRef) :
    (auras.removeOwned aura).2.indices = auras.indices := rfl

@[simp] theorem indices_removeOwnedByAuraRef (aura : AuraRef) :
    (auras.removeOwnedByAuraRef aura).2.indices = auras.indices := rfl

@[simp] theorem indices_markRemoved (aura : AuraRef) :
    (auras.markRemoved aura).indices = auras.indices := rfl

theorem indices_updateInterruptMasks :
    auras.updateInterruptMasks.indices =
      { auras.indices with
        interruptMask := auras.indices.registeredInterrupts
        interruptMask2 := auras.indices.registeredInterrupts2 } := by
  have hfold (words : List (BitVec 32 × BitVec 32)) (auras : AuraSubsystem) :
      (words.foldl (fun auras flags =>
          { auras with
            interruptFlags := auras.interruptFlags ||| flags.1
            interruptFlags2 := auras.interruptFlags2 ||| flags.2 }) auras).indices =
        { auras.indices with
          interruptMask := (words.map (·.1)).foldl (· ||| ·) auras.interruptFlags
          interruptMask2 := (words.map (·.2)).foldl (· ||| ·) auras.interruptFlags2 } := by
    induction words generalizing auras with
    | nil => rfl
    | cons flags words ih =>
      rw [List.foldl_cons, ih]
      rfl
  exact hfold _ _

theorem indices_rebuildAuraStateMask :
    auras.rebuildAuraStateMask.indices =
      { auras.indices with stateMask := auras.indices.rebuilt } := by
  have hfold (states : List ℕ) (auras : AuraSubsystem) :
      (states.foldl (fun auras state => auras.modifyAuraState state true) auras).indices =
        { auras.indices with
          stateMask := ((states.filter fun state => state ≠ auraStateNone).map
            auraStateBit).foldl (· ||| ·) auras.auraStateMask } := by
    induction states generalizing auras with
    | nil => rfl
    | cons state states ih =>
      rw [List.foldl_cons, ih, indices_modifyAuraState]
      by_cases hnone : state = auraStateNone
      · simp [modifyAuraState, AuraIndices.modifyState, hnone]
      · simp [modifyAuraState, AuraIndices.modifyState, hnone, indices, invalidateSpellHitAuraAuthority]
  exact hfold _ _

theorem length_filter_ne {α : Type*} [DecidableEq α] (a : α) (l : List α) :
    l.length ≠ (l.filter fun known => known ≠ a).length ↔ a ∈ l := by
  rw [ne_comm, ne_eq, List.length_filter_eq_length_iff]
  simp

theorem removeApplied_fst (aura : AppliedAuraRef) :
    (auras.removeApplied aura).1 = decide (aura ∈ auras.indices.applied) := by
  simp only [removeApplied]
  exact decide_eq_decide.mpr (length_filter_ne aura auras.appliedAuras)

theorem indices_removeApplied (aura : AppliedAuraRef) :
    (auras.removeApplied aura).2.indices = auras.indices.erase aura := by
  simp only [removeApplied, indices_updateInterruptMasks]
  split
  · rw [indices_removeAuraCastProvenance]
    rfl
  · rfl

@[simp] theorem indices_unapplyAura (aura : AppliedAuraRef) (marker : ℕ) :
    (auras.unapplyAura aura marker).2.indices = auras.indices.unapply aura := by
  have hremoved := auras.removeApplied_fst aura
  have hindices := auras.indices_removeApplied aura
  simp only [unapplyAura, AuraIndices.unapply]
  by_cases hmem : aura ∈ auras.indices.applied
  · simp only [hremoved, hmem, decide_true, if_true, indices_rebuildAuraStateMask]
    rw [← hindices]
    split <;> rfl
  · simp [hremoved, hmem, hindices]

end AuraSubsystem

/-! ## Bits of the masks -/

theorem getLsbD_orAll (words : List (BitVec 32)) (i : ℕ) :
    (orAll words).getLsbD i = words.any fun word => word.getLsbD i := by
  have hfold (words : List (BitVec 32)) (mask : BitVec 32) :
      (words.foldl (· ||| ·) mask).getLsbD i =
        (mask.getLsbD i || words.any fun word => word.getLsbD i) := by
    induction words generalizing mask with
    | nil => simp
    | cons word words ih => rw [List.foldl_cons, ih, BitVec.getLsbD_or, List.any_cons, Bool.or_assoc]
  simpa [orAll] using hfold words 0

theorem getLsbD_auraStateBit {flag : ℕ} (hflag : 1 ≤ flag) (hle : flag ≤ 32) (i : ℕ) :
    (auraStateBit flag).getLsbD i = decide (i + 1 = flag) := by
  have hmod : (flag - 1) % 32 = flag - 1 := Nat.mod_eq_of_lt (by omega)
  rw [auraStateBit, hmod, BitVec.getLsbD_shiftLeft, BitVec.getLsbD_one, Bool.eq_iff_iff]
  simp only [Bool.and_eq_true, decide_eq_true_eq, Bool.not_eq_true', decide_eq_false_iff_not]
  omega

theorem getLsbD_orAll_values {κ ν : Type*} [DecidableEq κ] (d : Dict κ ν) (word : ν → BitVec 32)
    (i : ℕ) :
    (orAll (d.values.map word)).getLsbD i = true ↔
      ∃ k v, d.lookup k = some v ∧ (word v).getLsbD i = true := by
  rw [getLsbD_orAll, List.any_map, List.any_eq_true]
  constructor
  · intro h
    obtain ⟨v, hmem, hbit⟩ := h
    obtain ⟨k, hlookup⟩ := Dict.mem_values_iff.mp hmem
    exact ⟨k, v, hlookup, hbit⟩
  · intro h
    obtain ⟨k, v, hlookup, hbit⟩ := h
    exact ⟨v, Dict.mem_values_iff.mpr ⟨k, hlookup⟩, hbit⟩

namespace AuraIndices

/-! ## References -/

theorem mem_pushNew {α : Type*} [DecidableEq α] {a b : α} {l : List α} :
    b ∈ pushNew a l ↔ b = a ∨ b ∈ l := by
  unfold pushNew
  split
  case isTrue h => exact ⟨.inr, fun hb => hb.elim (fun heq => heq ▸ h) id⟩
  case isFalse h => simp [or_comm]

theorem lookup_removeFromLists {κ : Type*} [DecidableEq κ] (aura : AppliedAuraRef)
    (lists : Dict κ (List AppliedAuraRef)) (k : κ) :
    (removeFromLists aura lists).lookup k =
      ((lists.lookup k).map fun auras => auras.filter fun known => known ≠ aura).filter
        fun auras => !auras.isEmpty := by
  rw [removeFromLists, Dict.lookup_retain, Dict.lookup_mapValues]

theorem mem_of_lookup_removeFromLists {κ : Type*} [DecidableEq κ]
    {lists : Dict κ (List AppliedAuraRef)} {k : κ} {auras : List AppliedAuraRef}
    (hlookup : (removeFromLists aura lists).lookup k = some auras) (hmem : other ∈ auras) :
    other ≠ aura ∧ ∃ auras', lists.lookup k = some auras' ∧ other ∈ auras' := by
  rw [lookup_removeFromLists, Option.filter_eq_some_iff] at hlookup
  obtain ⟨auras', hauras', rfl⟩ := Option.map_eq_some_iff.mp hlookup.1
  obtain ⟨hold, hne⟩ := List.mem_filter.mp hmem
  exact ⟨of_decide_eq_true hne, auras', hauras', hold⟩

theorem mem_of_lookup_insert {κ : Type*} [DecidableEq κ] {lists : Dict κ (List AppliedAuraRef)}
    {k k' : κ} {auras auras' : List AppliedAuraRef}
    (hnew : ∀ b ∈ auras', b = aura ∨ b ∈ (lists.lookup k').getD [])
    (hlookup : (AList.insert k' auras' lists : Dict κ _).lookup k = some auras)
    (hmem : other ∈ auras) :
    other = aura ∨ ∃ auras, lists.lookup k = some auras ∧ other ∈ auras := by
  rw [Dict.lookup_insert_eq] at hlookup
  split at hlookup
  case isTrue heq =>
    cases hlookup
    subst heq
    refine (hnew other hmem).imp_right fun hold => ?_
    cases hlist : lists.lookup k with
    | none => simp [hlist] at hold
    | some auras => exact ⟨auras, rfl, by simpa [hlist] using hold⟩
  case isFalse => exact .inr ⟨auras, hlookup, hmem⟩

theorem lookup_of_erase {ν : Type*} {d : Dict AppliedAuraRef ν} {v : ν}
    (hlookup : (AList.erase aura d : Dict AppliedAuraRef ν).lookup other = some v) :
    other ≠ aura ∧ d.lookup other = some v := by
  rw [Dict.lookup_erase_eq] at hlookup
  split at hlookup
  case isTrue => cases hlookup
  case isFalse hne => exact ⟨hne, hlookup⟩

theorem lookup_of_insert {ν : Type*} {d : Dict AppliedAuraRef ν} {v w : ν}
    (hlookup : (AList.insert aura w d : Dict AppliedAuraRef ν).lookup other = some v) :
    other = aura ∨ d.lookup other = some v := by
  rw [Dict.lookup_insert_eq] at hlookup
  split at hlookup
  case isTrue heq => exact .inl heq
  case isFalse => exact .inr hlookup

variable {x : AuraIndices} {aura other : AppliedAuraRef}

theorem Mentions.of_same {applied : List AppliedAuraRef}
    {stateMask interruptMask interruptMask2 : BitVec 32}
    (h : AuraIndices.Mentions
      { x with
        applied := applied
        stateMask := stateMask
        interruptMask := interruptMask
        interruptMask2 := interruptMask2 } other) : x.Mentions other := by
  cases h with
  | typed hlist hmem => exact .typed hlist hmem
  | amount hlookup => exact .amount hlookup
  | miscValue hlookup => exact .miscValue hlookup
  | interruptible hmem => exact .interruptible hmem
  | interrupts hlookup => exact .interrupts hlookup
  | state hcarries => exact .state hcarries

theorem mentions_modifyState {flag : ℕ} {apply : Bool}
    (h : (x.modifyState flag apply).Mentions other) : x.Mentions other := by
  unfold modifyState at h
  split at h
  · exact h
  · exact h.of_same

theorem mentions_addEffect {auraType amount miscValue : ℤ}
    (h : (x.addEffect aura auraType amount miscValue).Mentions other) :
    other = aura ∨ x.Mentions other := by
  cases h with
  | typed hlist hmem =>
    refine (mem_of_lookup_insert (fun b hb => mem_pushNew.mp hb) hlist hmem).imp_right fun h => ?_
    obtain ⟨auras, hlist', hmem'⟩ := h
    exact .typed hlist' hmem'
  | amount hlookup => exact (lookup_of_insert hlookup).imp_right .amount
  | miscValue hlookup => exact (lookup_of_insert hlookup).imp_right .miscValue
  | interruptible hmem => exact .inr (.interruptible hmem)
  | interrupts hlookup => exact .inr (.interrupts hlookup)
  | state hcarries => exact .inr (.state hcarries)

theorem mentions_addInterrupts {flags flags2 : BitVec 32}
    (h : (x.addInterrupts aura flags flags2).Mentions other) :
    other = aura ∨ x.Mentions other := by
  cases h with
  | typed hlist hmem => exact .inr (.typed hlist hmem)
  | amount hlookup => exact .inr (.amount hlookup)
  | miscValue hlookup => exact .inr (.miscValue hlookup)
  | interruptible hmem => exact (mem_pushNew.mp hmem).imp_right .interruptible
  | interrupts hlookup => exact (lookup_of_insert hlookup).imp_right .interrupts
  | state hcarries => exact .inr (.state hcarries)

theorem mentions_addState {state : ℕ} (h : (x.addState aura state).Mentions other) :
    other = aura ∨ x.Mentions other := by
  cases mentions_modifyState h with
  | typed hlist hmem => exact .inr (.typed hlist hmem)
  | amount hlookup => exact .inr (.amount hlookup)
  | miscValue hlookup => exact .inr (.miscValue hlookup)
  | interruptible hmem => exact .inr (.interruptible hmem)
  | interrupts hlookup => exact .inr (.interrupts hlookup)
  | state hcarries =>
    obtain ⟨auras, hlist, hmem⟩ := hcarries
    exact (mem_of_lookup_insert (fun b hb => (List.mem_append.mp hb).symm.imp_left
      List.mem_singleton.mp) hlist hmem).imp_right .state

theorem mentions_eraseType {auraType : ℤ}
    (h : AuraIndices.Mentions { x with types := x.types.erase auraType } other) :
    x.Mentions other := by
  cases h with
  | typed hlist hmem =>
    rw [Dict.lookup_erase_eq] at hlist
    split at hlist
    case isTrue => cases hlist
    case isFalse => exact .typed hlist hmem
  | amount hlookup => exact .amount hlookup
  | miscValue hlookup => exact .miscValue hlookup
  | interruptible hmem => exact .interruptible hmem
  | interrupts hlookup => exact .interrupts hlookup
  | state hcarries => exact .state hcarries

theorem mentions_erase (h : (x.erase aura).Mentions other) : other ≠ aura ∧ x.Mentions other := by
  cases h with
  | typed hlist hmem =>
    obtain ⟨hne, auras', hlist', hmem'⟩ := mem_of_lookup_removeFromLists hlist hmem
    exact ⟨hne, .typed hlist' hmem'⟩
  | amount hlookup => exact (lookup_of_erase hlookup).imp_right .amount
  | miscValue hlookup => exact (lookup_of_erase hlookup).imp_right .miscValue
  | interruptible hmem =>
    obtain ⟨hold, hne⟩ := List.mem_filter.mp hmem
    exact ⟨of_decide_eq_true hne, .interruptible hold⟩
  | interrupts hlookup => exact (lookup_of_erase hlookup).imp_right .interrupts
  | state hcarries =>
    obtain ⟨auras, hlist, hmem⟩ := hcarries
    obtain ⟨hne, auras', hlist', hmem'⟩ := mem_of_lookup_removeFromLists hlist hmem
    exact ⟨hne, .state ⟨auras', hlist', hmem'⟩⟩

/-! ## Every reference is applied -/

theorem Indexed.addApplied (h : x.Indexed) (aura : AppliedAuraRef) :
    (x.addApplied aura).Indexed :=
  fun other hother => mem_pushNew.mpr (.inr (h other hother.of_same))

/-- What mentions only `aura` beside what was mentioned before is indexed once `aura` is
applied. -/
theorem Indexed.of_mentions {y : AuraIndices} (h : x.Indexed) (happlied : y.applied = x.applied)
    (haura : aura ∈ x.applied) (hmentions : ∀ other, y.Mentions other → other = aura ∨
      x.Mentions other) : y.Indexed := by
  intro other hother
  rw [happlied]
  cases hmentions other hother with
  | inl heq => exact heq ▸ haura
  | inr hold => exact h other hold

theorem Indexed.addEffect (h : x.Indexed) (aura : AppliedAuraRef) (auraType amount miscValue : ℤ) :
    (x.addEffect aura auraType amount miscValue).Indexed :=
  (h.addApplied aura).of_mentions rfl (mem_pushNew.mpr (.inl rfl))
    fun _ hother => (mentions_addEffect (x := x.addApplied aura) hother.of_same)

theorem applied_modifyState (flag : ℕ) (apply : Bool) :
    (x.modifyState flag apply).applied = x.applied := by
  unfold modifyState
  split <;> rfl

theorem Indexed.modifyState (h : x.Indexed) (flag : ℕ) (apply : Bool) :
    (x.modifyState flag apply).Indexed := by
  intro other hother
  rw [applied_modifyState]
  exact h other (mentions_modifyState hother)

theorem Indexed.addInterrupts (h : x.Indexed) (haura : aura ∈ x.applied)
    (flags flags2 : BitVec 32) : (x.addInterrupts aura flags flags2).Indexed :=
  h.of_mentions rfl haura fun _ hother => mentions_addInterrupts hother

theorem Indexed.addState (h : x.Indexed) (haura : aura ∈ x.applied) (state : ℕ) :
    (x.addState aura state).Indexed :=
  h.of_mentions (applied_modifyState _ _) haura fun _ hother => mentions_addState hother

theorem Indexed.eraseType (h : x.Indexed) (auraType : ℤ) :
    AuraIndices.Indexed { x with types := x.types.erase auraType } :=
  fun other hother => h other (mentions_eraseType hother)

theorem Indexed.erase (h : x.Indexed) (aura : AppliedAuraRef) : (x.erase aura).Indexed := by
  intro other hother
  obtain ⟨hne, hold⟩ := mentions_erase hother
  exact List.mem_filter.mpr ⟨h other hold, decide_eq_true hne⟩

theorem Indexed.unapply (h : x.Indexed) (aura : AppliedAuraRef) : (x.unapply aura).Indexed := by
  unfold AuraIndices.unapply
  split
  · exact fun other hother => h.erase aura other hother.of_same
  · exact h.erase aura

end AuraIndices

end RustyCore.Units
