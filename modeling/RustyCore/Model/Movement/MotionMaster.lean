import Mathlib.Data.BitVec

/-! # The motion master

The stack of movement generators of one unit: a default generator under the active ones.
The generators are of any family; their callbacks may share a world of the type `ω`. -/

namespace RustyCore.Movement

inductive MovementGeneratorType where
  | idle
  | random
  | waypoint
  | confused
  | chase
  | home
  | flight
  | point
  | fleeing
  | distract
  | assistance
  | assistanceDistract
  | timedFleeing
  | follow
  | rotate
  | effect
  | splineChain
  | formation
deriving DecidableEq

inductive MovementGeneratorMode where
  | default
  | override
deriving DecidableEq

inductive MovementGeneratorPriority where
  | none
  | normal
  | highest
deriving DecidableEq

namespace MovementGeneratorPriority

def toNat : MovementGeneratorPriority → ℕ
  | none => 0
  | normal => 1
  | highest => 2

theorem toNat_injective : Function.Injective toNat := by
  intro p q h
  cases p <;> cases q <;> first | rfl | cases h

instance : LinearOrder MovementGeneratorPriority := LinearOrder.lift' toNat toNat_injective

end MovementGeneratorPriority

inductive MovementSlot where
  | default
  | active
deriving DecidableEq

abbrev MovementGeneratorFlags := BitVec 16

namespace MovementGeneratorFlags

def initializationPending : MovementGeneratorFlags := 0x001

def deactivated : MovementGeneratorFlags := 0x040

def persistOnDeath : MovementGeneratorFlags := 0x200

end MovementGeneratorFlags

structure MovementGeneratorState where
  mode : MovementGeneratorMode
  priority : MovementGeneratorPriority
  flags : MovementGeneratorFlags
  baseUnitState : BitVec 32
deriving DecidableEq

/-- A family of generators: what is read of each, and the callbacks. -/
structure MovementGenerator (γ ω : Type) where
  state : γ → MovementGeneratorState
  kind : γ → MovementGeneratorType
  /-- `initialize` -/
  init : γ → ω → γ × ω
  reset : γ → ω → γ × ω
  /-- Whether to keep running comes first. -/
  update : γ → ℕ → ω → Bool × γ × ω
  deactivate : γ → ω → γ × ω
  /-- The arguments are `active` and `movement_inform`. -/
  finalize : γ → Bool → Bool → ω → γ × ω

abbrev MotionMasterFlags := BitVec 8

namespace MotionMasterFlags

def update : MotionMasterFlags := 0x1

def staticInitializationPending : MotionMasterFlags := 0x2

def initializationPending : MotionMasterFlags := 0x4

def initializing : MotionMasterFlags := 0x8

def delayed : MotionMasterFlags := update ||| initializationPending

end MotionMasterFlags

inductive MotionMasterDelayedActionType where
  | clear
  | clearSlot
  | clearMode
  | clearPriority
  | add
  | remove
  | removeType
  | init
deriving DecidableEq

/-- The call that a delayed action makes later. -/
inductive DelayedAction (γ : Type) where
  | add (movement : γ) (slot : MovementSlot)
  | removeKind (kind : MovementGeneratorType) (slot : MovementSlot)
  | clear
  | clearSlot (slot : MovementSlot)
  | clearMode (mode : MovementGeneratorMode)
  | clearPriority (priority : MovementGeneratorPriority)
deriving DecidableEq

def DelayedAction.actionType {γ : Type} : DelayedAction γ → MotionMasterDelayedActionType
  | add _ _ => .add
  | removeKind _ _ => .removeType
  | clear => .clear
  | clearSlot _ => .clearSlot
  | clearMode _ => .clearMode
  | clearPriority _ => .clearPriority

structure ResolvedDelayedAction where
  actionType : MotionMasterDelayedActionType
  executed : Bool
deriving DecidableEq

structure MotionMaster (γ : Type) where
  defaultGenerator : Option γ
  activeGenerators : List γ
  delayedActions : List (DelayedAction γ)
  flags : MotionMasterFlags
  baseUnitStateRefs : List (BitVec 32)
  lastResolvedDelayedActions : List ResolvedDelayedAction
deriving DecidableEq

namespace MotionMaster

variable {γ : Type}

def new (defaultGenerator : γ) : MotionMaster γ where
  defaultGenerator := some defaultGenerator
  activeGenerators := []
  delayedActions := []
  flags := 0
  baseUnitStateRefs := []
  lastResolvedDelayedActions := []

def isEmpty (m : MotionMaster γ) : Bool :=
  m.defaultGenerator.isNone && m.activeGenerators.isEmpty

/-- The generator on top: the first active one, or the default one below them. -/
def currentGenerator (m : MotionMaster γ) : Option γ :=
  match m.activeGenerators with
  | top :: _ => some top
  | [] => m.defaultGenerator

/-- What a callback has left of the generator on top. -/
def setCurrentGenerator (m : MotionMaster γ) (generator : γ) : MotionMaster γ :=
  match m.activeGenerators with
  | _ :: rest => { m with activeGenerators := generator :: rest }
  | [] => { m with defaultGenerator := some generator }

def addBaseUnitState (m : MotionMaster γ) (baseUnitState : BitVec 32) : MotionMaster γ :=
  if baseUnitState ≠ 0 then
    { m with baseUnitStateRefs := m.baseUnitStateRefs ++ [baseUnitState] }
  else m

/-- Only the first equal one goes. -/
def clearBaseUnitState (m : MotionMaster γ) (baseUnitState : BitVec 32) : MotionMaster γ :=
  if baseUnitState = 0 then m
  else { m with baseUnitStateRefs := m.baseUnitStateRefs.erase baseUnitState }

end MotionMaster

/-- A motion master with the world of its generators. -/
structure Stage (γ ω : Type) where
  master : MotionMaster γ
  world : ω

structure StopOnDeathAction where
  persisted : Bool
  clearedMotionMaster : Bool
  movedIdle : Bool
  stopMoving : Bool
deriving DecidableEq

namespace Stage

variable {γ ω : Type} (gen : MovementGenerator γ ω)

def hasFlag (generator : γ) (flag : MovementGeneratorFlags) : Bool :=
  decide ((gen.state generator).flags &&& flag ≠ 0)

def intersects (s : Stage γ ω) (flags : MotionMasterFlags) : Bool :=
  decide (s.master.flags &&& flags ≠ 0)

/-! ## Removal -/

/-- The reference is cleared by what the generator says after it was finalized. -/
def removeActiveIndex (s : Stage γ ω) (index : Fin s.master.activeGenerators.length)
    (active movementInform : Bool) : Stage γ ω :=
  let movement := s.master.activeGenerators[index]
  let master := { s.master with activeGenerators := s.master.activeGenerators.eraseIdx index }
  let finalized := gen.finalize movement active movementInform s.world
  { master := master.clearBaseUnitState (gen.state finalized.1).baseUnitState
    world := finalized.2 }

theorem length_removeActiveIndex (s : Stage γ ω) (index : Fin s.master.activeGenerators.length)
    (active movementInform : Bool) :
    (s.removeActiveIndex gen index active movementInform).master.activeGenerators.length + 1 =
      s.master.activeGenerators.length := by
  have hpos := index.isLt
  unfold removeActiveIndex MotionMaster.clearBaseUnitState
  dsimp only
  split_ifs <;> simp only [List.length_eraseIdx, index.isLt, if_true] <;> omega

/-- The first one with the property goes; `active` may depend on its place. -/
def removeFirst (s : Stage γ ω) (p : γ → Bool) (active : ℕ → Bool) : Stage γ ω :=
  match s.master.activeGenerators.findFinIdx? p with
  | some index => s.removeActiveIndex gen index (active index) false
  | none => s

def deleteDefault (s : Stage γ ω) (active movementInform : Bool) : Stage γ ω :=
  match s.master.defaultGenerator with
  | none => s
  | some generator =>
    { master := { s.master with defaultGenerator := none }
      world := (gen.finalize generator active movementInform s.world).2 }

/-- The loop of `direct_clear_active`. -/
def removeAll (s : Stage γ ω) : Stage γ ω :=
  if h : 0 < s.master.activeGenerators.length then
    removeAll (s.removeActiveIndex gen ⟨0, h⟩ false false)
  else s
termination_by s.master.activeGenerators.length
decreasing_by
  have := s.length_removeActiveIndex gen ⟨0, h⟩ false false
  omega

def directClearActive (s : Stage γ ω) : Stage γ ω :=
  if h : 0 < s.master.activeGenerators.length then
    (s.removeActiveIndex gen ⟨0, h⟩ true false).removeAll gen
  else s

def directClear (s : Stage γ ω) : Stage γ ω :=
  let s := s.deleteDefault gen s.master.activeGenerators.isEmpty false
  let s := s.directClearActive gen
  { s with master := { s.master with baseUnitStateRefs := [] } }

/-- The loop of `clear_mode` and of `clear_priority`. -/
def removeWhere (p : MovementGeneratorState → Bool) (s : Stage γ ω) (index : ℕ) : Stage γ ω :=
  if h : index < s.master.activeGenerators.length then
    if p (gen.state s.master.activeGenerators[index]) then
      removeWhere p (s.removeActiveIndex gen ⟨index, h⟩ false false) index
    else removeWhere p s (index + 1)
  else s
termination_by s.master.activeGenerators.length - index
decreasing_by
  · have := s.length_removeActiveIndex gen ⟨index, h⟩ false false
    omega
  · omega

/-! ## Insertion -/

/-- The active generator on top, if any, is told that it is covered. -/
def deactivateTop (s : Stage γ ω) : Stage γ ω :=
  match s.master.activeGenerators with
  | [] => s
  | top :: rest =>
    let deactivated := gen.deactivate top s.world
    { master := { s.master with activeGenerators := deactivated.1 :: rest }
      world := deactivated.2 }

def deactivateDefault (s : Stage γ ω) : Stage γ ω :=
  match s.master.defaultGenerator with
  | none => s
  | some generator =>
    let deactivated := gen.deactivate generator s.world
    { master := { s.master with defaultGenerator := some deactivated.1 }
      world := deactivated.2 }

/-- The part of `direct_add` that makes room among the active generators. -/
def makeRoom (s : Stage γ ω) (movement : γ) : Stage γ ω :=
  if h : 0 < s.master.activeGenerators.length then
    let topPriority := (gen.state s.master.activeGenerators[0]).priority
    let priority := (gen.state movement).priority
    if topPriority ≤ priority then
      if priority = topPriority then s.removeActiveIndex gen ⟨0, h⟩ true false
      else s.deactivateTop gen
    else
      s.removeFirst gen (fun g => (gen.state g).priority = priority) fun _ => false
  else s.deactivateDefault gen

def insertActive (s : Stage γ ω) (movement : γ) : Stage γ ω :=
  let master := s.master.addBaseUnitState (gen.state movement).baseUnitState
  let priority := (gen.state movement).priority
  let index := (master.activeGenerators.findIdx? fun g =>
    (gen.state g).priority < priority).getD master.activeGenerators.length
  { s with master :=
      { master with activeGenerators := master.activeGenerators.insertIdx index movement } }

def directAdd (s : Stage γ ω) (movement : γ) (slot : MovementSlot) : Stage γ ω :=
  match slot with
  | .default =>
    let s := s.deleteDefault gen s.master.activeGenerators.isEmpty false
    let flags :=
      if hasFlag gen movement MovementGeneratorFlags.initializationPending then
        s.master.flags ||| MotionMasterFlags.staticInitializationPending
      else s.master.flags
    { s with master := { s.master with flags := flags, defaultGenerator := some movement } }
  | .active => (s.makeRoom gen movement).insertActive gen movement

/-! ## The calls -/

/-- A call made during an update, or before the initialization, waits for its end. -/
def delayOr (s : Stage γ ω) (action : DelayedAction γ) (direct : Stage γ ω → Stage γ ω) :
    Stage γ ω :=
  if s.intersects MotionMasterFlags.delayed then
    { s with master :=
        { s.master with delayedActions := s.master.delayedActions ++ [action] } }
  else direct s

def add (s : Stage γ ω) (movement : γ) (slot : MovementSlot) : Stage γ ω :=
  s.delayOr (.add movement slot) fun s => s.directAdd gen movement slot

def removeKind (s : Stage γ ω) (kind : MovementGeneratorType) (slot : MovementSlot) :
    Stage γ ω :=
  s.delayOr (.removeKind kind slot) fun s =>
    match slot with
    | .default =>
      if s.master.defaultGenerator.any fun g => gen.kind g = kind then
        s.deleteDefault gen false false
      else s
    | .active => s.removeFirst gen (fun g => gen.kind g = kind) fun index => index = 0

def clear (s : Stage γ ω) : Stage γ ω := s.delayOr .clear fun s => s.directClear gen

def clearSlot (s : Stage γ ω) (slot : MovementSlot) : Stage γ ω :=
  s.delayOr (.clearSlot slot) fun s =>
    match slot with
    | .default => s.deleteDefault gen s.master.activeGenerators.isEmpty false
    | .active => s.directClearActive gen

def clearMode (s : Stage γ ω) (mode : MovementGeneratorMode) : Stage γ ω :=
  s.delayOr (.clearMode mode) fun s => s.removeWhere gen (fun state => state.mode = mode) 0

def clearPriority (s : Stage γ ω) (priority : MovementGeneratorPriority) : Stage γ ω :=
  s.delayOr (.clearPriority priority) fun s =>
    s.removeWhere gen (fun state => state.priority = priority) 0

/-- The call of a delayed action, whose validator is always true here. -/
def resolve (s : Stage γ ω) : DelayedAction γ → Stage γ ω
  | .add movement slot => s.add gen movement slot
  | .removeKind kind slot => s.removeKind gen kind slot
  | .clear => s.clear gen
  | .clearSlot slot => s.clearSlot gen slot
  | .clearMode mode => s.clearMode gen mode
  | .clearPriority priority => s.clearPriority gen priority

/-- The loop takes the queue, resolves all of it and puts the drained one back, which ends
it after a round: what the resolved actions have queued meanwhile is overwritten. -/
def resolveDelayedActions (s : Stage γ ω) : Stage γ ω :=
  let actions := s.master.delayedActions
  let s := { s with master :=
    { s.master with lastResolvedDelayedActions := [], delayedActions := [] } }
  let s := actions.foldl (fun s action => s.resolve gen action) s
  let resolved := actions.map fun action =>
    { actionType := action.actionType, executed := true : ResolvedDelayedAction }
  { s with master :=
      { s.master with
        lastResolvedDelayedActions := s.master.lastResolvedDelayedActions ++ resolved
        delayedActions := [] } }

/-- The callbacks of the generator on top. -/
def updateTop (s : Stage γ ω) (top : γ) (diffMs : ℕ) : Bool × Stage γ ω :=
  let initialized :=
    if hasFlag gen top MovementGeneratorFlags.initializationPending then
      gen.init top s.world
    else (top, s.world)
  let activated :=
    if hasFlag gen initialized.1 MovementGeneratorFlags.deactivated then
      gen.reset initialized.1 initialized.2
    else initialized
  let updated := gen.update activated.1 diffMs activated.2
  (updated.1, { master := s.master.setCurrentGenerator updated.2.1, world := updated.2.2 })

/-- An active generator that does not keep running is removed. -/
def removeFinished (s : Stage γ ω) (keepRunning : Bool) : Stage γ ω :=
  if h : ¬ keepRunning ∧ 0 < s.master.activeGenerators.length then
    s.removeActiveIndex gen ⟨0, h.2⟩ true true
  else s

def update (s : Stage γ ω) (diffMs : ℕ) : Stage γ ω :=
  if s.intersects (MotionMasterFlags.initializationPending ||| MotionMasterFlags.initializing) ||
      s.master.isEmpty then s
  else
    match s.master.currentGenerator with
    | none => s
    | some top =>
      let s := { s with master :=
        { s.master with flags := s.master.flags ||| MotionMasterFlags.update } }
      let updated := s.updateTop gen top diffMs
      let s := updated.2.removeFinished gen updated.1
      let s := { s with master :=
        { s.master with flags := s.master.flags &&& ~~~MotionMasterFlags.update } }
      s.resolveDelayedActions gen

def stopOnDeath (s : Stage γ ω) (ownerInWorld : Bool) (idleFactory : ω → γ × ω) :
    StopOnDeathAction × Stage γ ω :=
  if s.master.currentGenerator.any fun g => hasFlag gen g MovementGeneratorFlags.persistOnDeath then
    ({ persisted := true
       clearedMotionMaster := false
       movedIdle := false
       stopMoving := false }, s)
  else
    let s' :=
      if ownerInWorld then
        let s := s.clear gen
        let idle := idleFactory s.world
        { s with world := idle.2 }.add gen idle.1 .default
      else s
    ({ persisted := false
       clearedMotionMaster := ownerInWorld
       movedIdle := ownerInWorld
       stopMoving := true }, s')

end Stage

/-! ## Runs -/

/-- One call from outside. A generator is made right before it is handed over. -/
inductive Call (γ ω : Type) where
  | add (make : ω → γ × ω) (slot : MovementSlot)
  | removeKind (kind : MovementGeneratorType) (slot : MovementSlot)
  | clear
  | clearSlot (slot : MovementSlot)
  | clearMode (mode : MovementGeneratorMode)
  | clearPriority (priority : MovementGeneratorPriority)
  | update (diffMs : ℕ)
  | stopOnDeath (ownerInWorld : Bool) (idleFactory : ω → γ × ω)

variable {γ ω : Type} (gen : MovementGenerator γ ω)

def Stage.call (s : Stage γ ω) : Call γ ω → Stage γ ω
  | .add make slot =>
    let made := make s.world
    { s with world := made.2 }.add gen made.1 slot
  | .removeKind kind slot => s.removeKind gen kind slot
  | .clear => s.clear gen
  | .clearSlot slot => s.clearSlot gen slot
  | .clearMode mode => s.clearMode gen mode
  | .clearPriority priority => s.clearPriority gen priority
  | .update diffMs => s.update gen diffMs
  | .stopOnDeath ownerInWorld idleFactory => (s.stopOnDeath gen ownerInWorld idleFactory).2

/-- A master made with a default generator, before any call. -/
def Stage.start (make : ω → γ × ω) (world : ω) : Stage γ ω where
  master := MotionMaster.new (make world).1
  world := (make world).2

def Stage.calls (s : Stage γ ω) (calls : List (Call γ ω)) : Stage γ ω :=
  calls.foldl (Stage.call gen) s

end RustyCore.Movement
