import RustyCore.Model.Movement.MotionMaster

/-! # Observed generators

Any family of generators with a number on each generator, which writes every callback to a
log. The observed family is a family like any other, and a master of observed generators
does what the master of the bare ones does. -/

namespace RustyCore.Movement

variable {γ ω : Type}

structure Tagged (γ : Type) where
  id : ℕ
  generator : γ
deriving DecidableEq

inductive Event where
  | created (id : ℕ)
  | init (id : ℕ)
  | reset (id : ℕ)
  | update (id diffMs : ℕ)
  | deactivate (id : ℕ)
  | finalize (id : ℕ) (active movementInform : Bool)
deriving DecidableEq

/-- What a callback has done to its generator and to the world, written down. -/
def recorded (id : ℕ) (event : Event) (log : List Event) (r : γ × ω) :
    Tagged γ × (ω × List Event) :=
  ({ id := id, generator := r.1 }, (r.2, log ++ [event]))

def observed (gen : MovementGenerator γ ω) : MovementGenerator (Tagged γ) (ω × List Event) where
  state g := gen.state g.generator
  kind g := gen.kind g.generator
  init g w := recorded g.id (.init g.id) w.2 (gen.init g.generator w.1)
  reset g w := recorded g.id (.reset g.id) w.2 (gen.reset g.generator w.1)
  update g diffMs w :=
    let updated := gen.update g.generator diffMs w.1
    (updated.1, recorded g.id (.update g.id diffMs) w.2 updated.2)
  deactivate g w := recorded g.id (.deactivate g.id) w.2 (gen.deactivate g.generator w.1)
  finalize g active movementInform w :=
    recorded g.id (.finalize g.id active movementInform) w.2
      (gen.finalize g.generator active movementInform w.1)

/-- A generator gets its number when it is made. -/
def observedMake (id : ℕ) (make : ω → γ × ω) (w : ω × List Event) : Tagged γ × (ω × List Event) :=
  recorded id (.created id) w.2 (make w.1)

/-- The number goes to the generator that the call makes, if it makes one. -/
def Call.observed (id : ℕ) : Call γ ω → Call (Tagged γ) (ω × List Event)
  | add make slot => .add (observedMake id make) slot
  | removeKind kind slot => .removeKind kind slot
  | clear => .clear
  | clearSlot slot => .clearSlot slot
  | clearMode mode => .clearMode mode
  | clearPriority priority => .clearPriority priority
  | update diffMs => .update diffMs
  | stopOnDeath ownerInWorld idleFactory => .stopOnDeath ownerInWorld (observedMake id idleFactory)

/-- The default generator has the number zero, the calls give the numbers from one on. -/
def observe (gen : MovementGenerator γ ω) (make : ω → γ × ω) (world : ω)
    (calls : List (Call γ ω)) : Stage (Tagged γ) (ω × List Event) :=
  (Stage.start (observedMake 0 make) (world, [])).calls (observed gen)
    ((calls.zipIdx 1).map fun c => c.1.observed c.2)

/-! ## What is behind the numbers -/

def DelayedAction.erase : DelayedAction (Tagged γ) → DelayedAction γ
  | add movement slot => .add movement.generator slot
  | removeKind kind slot => .removeKind kind slot
  | clear => .clear
  | clearSlot slot => .clearSlot slot
  | clearMode mode => .clearMode mode
  | clearPriority priority => .clearPriority priority

def MotionMaster.erase (m : MotionMaster (Tagged γ)) : MotionMaster γ where
  defaultGenerator := m.defaultGenerator.map Tagged.generator
  activeGenerators := m.activeGenerators.map Tagged.generator
  delayedActions := m.delayedActions.map DelayedAction.erase
  flags := m.flags
  baseUnitStateRefs := m.baseUnitStateRefs
  lastResolvedDelayedActions := m.lastResolvedDelayedActions

def Stage.erase (s : Stage (Tagged γ) (ω × List Event)) : Stage γ ω where
  master := s.master.erase
  world := s.world.1

section Erasure

variable (gen : MovementGenerator γ ω) (s : Stage (Tagged γ) (ω × List Event))
  (m : MotionMaster (Tagged γ))

@[simp] theorem length_erase :
    s.erase.master.activeGenerators.length = s.master.activeGenerators.length :=
  List.length_map _

theorem erase_clearBaseUnitState (baseUnitState : BitVec 32) :
    (m.clearBaseUnitState baseUnitState).erase = m.erase.clearBaseUnitState baseUnitState := by
  unfold MotionMaster.clearBaseUnitState
  split_ifs <;> rfl

theorem erase_addBaseUnitState (baseUnitState : BitVec 32) :
    (m.addBaseUnitState baseUnitState).erase = m.erase.addBaseUnitState baseUnitState := by
  unfold MotionMaster.addBaseUnitState
  split_ifs <;> rfl

theorem erase_setCurrentGenerator (g : Tagged γ) :
    (m.setCurrentGenerator g).erase = m.erase.setCurrentGenerator g.generator := by
  obtain ⟨default, actives, _, _, _, _⟩ := m
  cases actives <;> rfl

theorem currentGenerator_erase :
    m.erase.currentGenerator = m.currentGenerator.map Tagged.generator := by
  obtain ⟨default, actives, _, _, _, _⟩ := m
  cases actives <;> rfl

theorem isEmpty_erase : m.erase.isEmpty = m.isEmpty := by
  obtain ⟨default, actives, _, _, _, _⟩ := m
  cases default <;> cases actives <;> rfl

/-- The stack after a generator of it was finalized. -/
def withoutActive (gen : MovementGenerator γ ω) (s : Stage γ ω) (active movementInform : Bool)
    (rest : List γ) (movement : γ) : Stage γ ω where
  master := MotionMaster.clearBaseUnitState { s.master with activeGenerators := rest }
    (gen.state (gen.finalize movement active movementInform s.world).1).baseUnitState
  world := (gen.finalize movement active movementInform s.world).2

theorem erase_withoutActive (active movementInform : Bool) (rest : List (Tagged γ))
    (movement : Tagged γ) :
    (withoutActive (observed gen) s active movementInform rest movement).erase =
      withoutActive gen s.erase active movementInform (rest.map Tagged.generator)
        movement.generator := by
  unfold withoutActive Stage.erase
  dsimp only
  rw [erase_clearBaseUnitState]
  rfl

theorem erase_removeActiveIndex (index : ℕ) (h : index < s.master.activeGenerators.length)
    (h' : index < s.erase.master.activeGenerators.length) (active movementInform : Bool) :
    (s.removeActiveIndex (observed gen) ⟨index, h⟩ active movementInform).erase =
      s.erase.removeActiveIndex gen ⟨index, h'⟩ active movementInform :=
  (erase_withoutActive gen s active movementInform _ _).trans
    (congrArg₂ (withoutActive gen s.erase active movementInform)
      (List.eraseIdx_map _ _ _).symm (List.getElem_map _).symm)

theorem erase_deleteDefault (active movementInform : Bool) :
    (s.deleteDefault (observed gen) active movementInform).erase =
      s.erase.deleteDefault gen active movementInform := by
  obtain ⟨⟨default, actives, _, _, _, _⟩, w⟩ := s
  cases default <;> rfl

theorem erase_removeAll : (s.removeAll (observed gen)).erase = s.erase.removeAll gen := by
  induction s using Stage.removeAll.induct (observed gen) with
  | case1 s h ih =>
    have h' : 0 < s.erase.master.activeGenerators.length := by rwa [length_erase]
    rw [Stage.removeAll, dif_pos h, ih, erase_removeActiveIndex gen s 0 h h']
    conv_rhs => rw [Stage.removeAll, dif_pos h']
  | case2 s h =>
    rw [Stage.removeAll, dif_neg h, Stage.removeAll, dif_neg (by rwa [length_erase])]

theorem erase_directClearActive :
    (s.directClearActive (observed gen)).erase = s.erase.directClearActive gen := by
  unfold Stage.directClearActive
  by_cases h : 0 < s.master.activeGenerators.length
  · have h' : 0 < s.erase.master.activeGenerators.length := by rwa [length_erase]
    rw [dif_pos h, dif_pos h', erase_removeAll, erase_removeActiveIndex gen s 0 h h']
  · rw [dif_neg h, dif_neg (by rwa [length_erase])]

theorem isEmpty_activeGenerators_erase :
    s.erase.master.activeGenerators.isEmpty = s.master.activeGenerators.isEmpty :=
  List.isEmpty_map

theorem erase_directClear : (s.directClear (observed gen)).erase = s.erase.directClear gen := by
  unfold Stage.directClear
  dsimp only
  rw [isEmpty_activeGenerators_erase, ← erase_deleteDefault, ← erase_directClearActive]
  rfl

theorem erase_removeWhere (p : MovementGeneratorState → Bool) (index : ℕ) :
    (s.removeWhere (observed gen) p index).erase = s.erase.removeWhere gen p index := by
  induction s, index using Stage.removeWhere.induct (observed gen) p with
  | case1 s index h hp ih =>
    have h' : index < s.erase.master.activeGenerators.length := by rwa [length_erase]
    have hget : gen.state s.erase.master.activeGenerators[index] =
        (observed gen).state s.master.activeGenerators[index] :=
      congrArg gen.state (List.getElem_map _)
    rw [Stage.removeWhere, dif_pos h, if_pos hp, ih, erase_removeActiveIndex gen s index h h']
    conv_rhs => rw [Stage.removeWhere, dif_pos h', hget, if_pos hp]
  | case2 s index h hp ih =>
    have h' : index < s.erase.master.activeGenerators.length := by rwa [length_erase]
    have hget : gen.state s.erase.master.activeGenerators[index] =
        (observed gen).state s.master.activeGenerators[index] :=
      congrArg gen.state (List.getElem_map _)
    rw [Stage.removeWhere, dif_pos h, if_neg hp, ih]
    conv_rhs => rw [Stage.removeWhere, dif_pos h', hget, if_neg hp]
  | case3 s index h =>
    rw [Stage.removeWhere, dif_neg h, Stage.removeWhere, dif_neg (by rwa [length_erase])]

theorem erase_deactivateTop :
    (s.deactivateTop (observed gen)).erase = s.erase.deactivateTop gen := by
  obtain ⟨⟨default, actives, _, _, _, _⟩, w⟩ := s
  cases actives <;> rfl

theorem erase_deactivateDefault :
    (s.deactivateDefault (observed gen)).erase = s.erase.deactivateDefault gen := by
  obtain ⟨⟨default, actives, _, _, _, _⟩, w⟩ := s
  cases default <;> rfl

/-- A search by what is read of the generators finds the same place. -/
theorem findFinIdx?_erase (p : γ → Bool) :
    s.erase.master.activeGenerators.findFinIdx? p =
      (s.master.activeGenerators.findFinIdx? fun g => p g.generator).map
        (Fin.cast (length_erase s).symm) := by
  cases hfound : s.master.activeGenerators.findFinIdx? fun g => p g.generator with
  | none =>
    rw [List.findFinIdx?_eq_none_iff] at hfound
    exact List.findFinIdx?_eq_none_iff.mpr (List.forall_mem_map.mpr hfound)
  | some index =>
    rw [List.findFinIdx?_eq_some_iff] at hfound
    refine List.findFinIdx?_eq_some_iff.mpr ⟨?_, fun j hj => ?_⟩
    · exact (congrArg p (List.getElem_map _)).trans hfound.1
    · exact fun hp => hfound.2 (Fin.cast (length_erase s) j) hj
        ((congrArg p (List.getElem_map _)).symm.trans hp)

theorem erase_removeFirst (p : γ → Bool) (active : ℕ → Bool) :
    (s.removeFirst (observed gen) (fun g => p g.generator) active).erase =
      s.erase.removeFirst gen p active := by
  unfold Stage.removeFirst
  rw [findFinIdx?_erase]
  cases s.master.activeGenerators.findFinIdx? fun g => p g.generator with
  | none => rfl
  | some index => exact erase_removeActiveIndex gen s index index.isLt (by simp) _ false

theorem erase_makeRoom (movement : Tagged γ) :
    (s.makeRoom (observed gen) movement).erase = s.erase.makeRoom gen movement.generator := by
  unfold Stage.makeRoom
  by_cases h : 0 < s.master.activeGenerators.length
  · have h' : 0 < s.erase.master.activeGenerators.length := by rwa [length_erase]
    have hget : gen.state s.erase.master.activeGenerators[0] =
        (observed gen).state s.master.activeGenerators[0] :=
      congrArg gen.state (List.getElem_map _)
    have hmovement : gen.state movement.generator = (observed gen).state movement := rfl
    rw [dif_pos h, dif_pos h']
    dsimp only
    simp only [hget, hmovement]
    split_ifs
    · exact erase_removeActiveIndex gen s 0 h h' true false
    · exact erase_deactivateTop gen s
    · exact erase_removeFirst gen s
        (fun g => (gen.state g).priority = (gen.state movement.generator).priority) _
  · rw [dif_neg h, dif_neg (by rwa [length_erase])]
    exact erase_deactivateDefault gen s

theorem erase_insertActive (movement : Tagged γ) :
    (s.insertActive (observed gen) movement).erase =
      s.erase.insertActive gen movement.generator := by
  unfold Stage.insertActive
  dsimp only [Stage.erase]
  rw [← erase_addBaseUnitState]
  have hstate : gen.state movement.generator = (observed gen).state movement := rfl
  rw [hstate]
  generalize s.master.addBaseUnitState ((observed gen).state movement).baseUnitState = m
  simp only [MotionMaster.erase, List.map_insertIdx, List.findIdx?_map, List.length_map]
  rfl

theorem erase_directAdd (movement : Tagged γ) (slot : MovementSlot) :
    (s.directAdd (observed gen) movement slot).erase =
      s.erase.directAdd gen movement.generator slot := by
  cases slot with
  | default =>
    unfold Stage.directAdd
    dsimp only
    rw [isEmpty_activeGenerators_erase, ← erase_deleteDefault]
    rfl
  | active =>
    unfold Stage.directAdd
    dsimp only
    rw [erase_insertActive, erase_makeRoom]

theorem erase_delayOr (action : DelayedAction (Tagged γ))
    {direct : Stage (Tagged γ) (ω × List Event) → Stage (Tagged γ) (ω × List Event)}
    {direct' : Stage γ ω → Stage γ ω} (hdirect : ∀ s, (direct s).erase = direct' s.erase) :
    (s.delayOr action direct).erase = s.erase.delayOr action.erase direct' := by
  unfold Stage.delayOr
  have hsame : s.erase.intersects MotionMasterFlags.delayed =
      s.intersects MotionMasterFlags.delayed := rfl
  rw [hsame]
  split_ifs
  · unfold Stage.erase MotionMaster.erase
    dsimp only
    rw [List.map_append]
    rfl
  · exact hdirect s

theorem erase_add (movement : Tagged γ) (slot : MovementSlot) :
    (s.add (observed gen) movement slot).erase = s.erase.add gen movement.generator slot :=
  erase_delayOr s _ fun s => erase_directAdd gen s movement slot

theorem any_defaultGenerator_erase (p : γ → Bool) :
    s.erase.master.defaultGenerator.any p =
      s.master.defaultGenerator.any fun g => p g.generator :=
  Option.any_map

theorem erase_removeKind (kind : MovementGeneratorType) (slot : MovementSlot) :
    (s.removeKind (observed gen) kind slot).erase = s.erase.removeKind gen kind slot := by
  refine erase_delayOr s _ fun s => ?_
  cases slot with
  | default =>
    dsimp only
    rw [any_defaultGenerator_erase]
    by_cases hkind : s.master.defaultGenerator.any fun g => gen.kind g.generator = kind
    · rw [if_pos hkind, ← erase_deleteDefault]
      exact congrArg Stage.erase (if_pos hkind)
    · rw [if_neg hkind]
      exact congrArg Stage.erase (if_neg hkind)
  | active => exact erase_removeFirst gen s (fun g => gen.kind g = kind) _

theorem erase_clear : (s.clear (observed gen)).erase = s.erase.clear gen :=
  erase_delayOr s _ (erase_directClear gen)

theorem erase_clearSlot (slot : MovementSlot) :
    (s.clearSlot (observed gen) slot).erase = s.erase.clearSlot gen slot := by
  refine erase_delayOr s _ fun s => ?_
  cases slot with
  | default =>
    dsimp only
    rw [isEmpty_activeGenerators_erase]
    exact erase_deleteDefault gen s _ false
  | active => exact erase_directClearActive gen s

theorem erase_clearMode (mode : MovementGeneratorMode) :
    (s.clearMode (observed gen) mode).erase = s.erase.clearMode gen mode :=
  erase_delayOr s _ fun s => erase_removeWhere gen s _ 0

theorem erase_clearPriority (priority : MovementGeneratorPriority) :
    (s.clearPriority (observed gen) priority).erase = s.erase.clearPriority gen priority :=
  erase_delayOr s _ fun s => erase_removeWhere gen s _ 0

theorem erase_resolve (action : DelayedAction (Tagged γ)) :
    (s.resolve (observed gen) action).erase = s.erase.resolve gen action.erase := by
  cases action with
  | add movement slot => exact erase_add gen s movement slot
  | removeKind kind slot => exact erase_removeKind gen s kind slot
  | clear => exact erase_clear gen s
  | clearSlot slot => exact erase_clearSlot gen s slot
  | clearMode mode => exact erase_clearMode gen s mode
  | clearPriority priority => exact erase_clearPriority gen s priority

theorem erase_resolveAll (actions : List (DelayedAction (Tagged γ))) :
    (actions.foldl (fun s action => s.resolve (observed gen) action) s).erase =
      (actions.map DelayedAction.erase).foldl (fun s action => s.resolve gen action) s.erase := by
  induction actions generalizing s with
  | nil => rfl
  | cons action actions ih =>
    rw [List.foldl_cons, ih, erase_resolve, List.map_cons, List.foldl_cons]

theorem actionType_erase (action : DelayedAction (Tagged γ)) :
    action.erase.actionType = action.actionType := by
  cases action <;> rfl

theorem erase_resolveDelayedActions :
    (s.resolveDelayedActions (observed gen)).erase = s.erase.resolveDelayedActions gen := by
  have hall := erase_resolveAll gen { s with master :=
    { s.master with lastResolvedDelayedActions := [], delayedActions := [] } }
    s.master.delayedActions
  have hresolved : ((s.master.delayedActions.map DelayedAction.erase).map fun action =>
      { actionType := action.actionType, executed := true : ResolvedDelayedAction }) =
      s.master.delayedActions.map fun action =>
        { actionType := action.actionType, executed := true } := by
    rw [List.map_map]
    exact List.map_congr_left fun action _ => by simp [actionType_erase]
  have hresult := congrArg (fun t : Stage γ ω => ({ t with master :=
    { t.master with
      lastResolvedDelayedActions := t.master.lastResolvedDelayedActions ++
        (s.master.delayedActions.map DelayedAction.erase).map fun action =>
          { actionType := action.actionType, executed := true : ResolvedDelayedAction }
      delayedActions := [] } } : Stage γ ω)) hall
  refine Eq.trans ?_ hresult
  dsimp only
  rw [hresolved]
  rfl

theorem erase_updateTop (top : Tagged γ) (diffMs : ℕ) :
    ((s.updateTop (observed gen) top diffMs).1, (s.updateTop (observed gen) top diffMs).2.erase) =
      s.erase.updateTop gen top.generator diffMs := by
  have hflag : ∀ (g : Tagged γ) flag,
      Stage.hasFlag (observed gen) g flag = Stage.hasFlag gen g.generator flag := fun _ _ => rfl
  unfold Stage.updateTop
  simp only [hflag, Stage.erase, erase_setCurrentGenerator]
  by_cases hinit : Stage.hasFlag gen top.generator MovementGeneratorFlags.initializationPending
  · simp only [hinit, if_true]
    by_cases hreset : Stage.hasFlag gen (gen.init top.generator s.world.1).1
        MovementGeneratorFlags.deactivated
    · simp only [observed, recorded, hreset, if_true]
    · simp only [observed, recorded, hreset, Bool.false_eq_true, if_false]
  · simp only [hinit, Bool.false_eq_true, if_false]
    by_cases hreset : Stage.hasFlag gen top.generator MovementGeneratorFlags.deactivated
    · simp only [observed, recorded, hreset, if_true]
    · simp only [observed, recorded, hreset, Bool.false_eq_true, if_false]

theorem erase_removeFinished (keepRunning : Bool) :
    (s.removeFinished (observed gen) keepRunning).erase =
      s.erase.removeFinished gen keepRunning := by
  unfold Stage.removeFinished
  by_cases h : ¬ keepRunning ∧ 0 < s.master.activeGenerators.length
  · have h' : ¬ keepRunning ∧ 0 < s.erase.master.activeGenerators.length := by
      rwa [length_erase]
    rw [dif_pos h, dif_pos h', erase_removeActiveIndex gen s 0 h.2 h'.2]
  · rw [dif_neg h, dif_neg (by rwa [length_erase])]

/-- The flag is taken back. -/
def afterTop (s : Stage γ ω) : Stage γ ω :=
  { s with master := { s.master with flags := s.master.flags &&& ~~~MotionMasterFlags.update } }

theorem erase_update (diffMs : ℕ) :
    (s.update (observed gen) diffMs).erase = s.erase.update gen diffMs := by
  have hflags : ∀ flags, s.erase.intersects flags = s.intersects flags := fun _ => rfl
  unfold Stage.update
  rw [hflags, show s.erase.master.isEmpty = s.master.isEmpty from isEmpty_erase s.master,
    show s.erase.master.currentGenerator = _ from currentGenerator_erase s.master]
  split_ifs
  · rfl
  · cases s.master.currentGenerator with
    | none => rfl
    | some top =>
      dsimp only [Option.map_some]
      have htop := erase_updateTop gen { s with master :=
        { s.master with flags := s.master.flags ||| MotionMasterFlags.update } } top diffMs
      rw [erase_resolveDelayedActions]
      refine congrArg (Stage.resolveDelayedActions gen) ?_
      change afterTop (Stage.erase (Stage.removeFinished _ _ _)) = afterTop _
      rw [erase_removeFinished]
      exact congrArg (fun updated => afterTop (updated.2.removeFinished gen updated.1)) htop

theorem erase_stopOnDeath (ownerInWorld : Bool) (id : ℕ) (idleFactory : ω → γ × ω) :
    (s.stopOnDeath (observed gen) ownerInWorld (observedMake id idleFactory)).2.erase =
      (s.erase.stopOnDeath gen ownerInWorld idleFactory).2 := by
  have hpersist : (s.erase.master.currentGenerator.any fun g =>
      Stage.hasFlag gen g MovementGeneratorFlags.persistOnDeath) =
      s.master.currentGenerator.any fun g =>
        Stage.hasFlag (observed gen) g MovementGeneratorFlags.persistOnDeath := by
    rw [show s.erase.master.currentGenerator = _ from currentGenerator_erase s.master]
    exact Option.any_map
  unfold Stage.stopOnDeath
  rw [hpersist]
  split_ifs
  · rfl
  · dsimp only
    rw [erase_add, ← erase_clear]
    rfl
  · rfl

theorem erase_call (c : Call γ ω) (id : ℕ) :
    (s.call (observed gen) (c.observed id)).erase = s.erase.call gen c := by
  cases c with
  | add make slot => exact erase_add gen _ _ slot
  | removeKind kind slot => exact erase_removeKind gen s kind slot
  | clear => exact erase_clear gen s
  | clearSlot slot => exact erase_clearSlot gen s slot
  | clearMode mode => exact erase_clearMode gen s mode
  | clearPriority priority => exact erase_clearPriority gen s priority
  | update diffMs => exact erase_update gen s diffMs
  | stopOnDeath ownerInWorld idleFactory => exact erase_stopOnDeath gen s ownerInWorld id _

theorem erase_calls (calls : List (Call γ ω)) (id : ℕ) :
    (s.calls (observed gen) ((calls.zipIdx id).map fun c => c.1.observed c.2)).erase =
      s.erase.calls gen calls := by
  induction calls generalizing s id with
  | nil => rfl
  | cons c calls ih =>
    rw [List.zipIdx_cons, List.map_cons]
    exact (ih (s.call (observed gen) (c.observed id)) (id + 1)).trans
      (congrArg (Stage.calls gen · calls) (erase_call gen s c id))

theorem erase_observe (make : ω → γ × ω) (world : ω) (calls : List (Call γ ω)) :
    (observe gen make world calls).erase = (Stage.start make world).calls gen calls :=
  erase_calls gen _ calls 1

end Erasure

end RustyCore.Movement
