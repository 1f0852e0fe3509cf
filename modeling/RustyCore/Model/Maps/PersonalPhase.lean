import RustyCore.Library.Dict
import RustyCore.Model.ObjectGuid

/-! # Personal phases

The objects and grids that are tracked for the personal phases of a player, and the countdown
after which the objects of a phase that the player has left are despawned. -/

namespace RustyCore.Maps

def personalPhaseDeleteTimeDefaultMs : ℤ := 60000

structure PhaseRef where
  id : ℕ
  personal : Bool

structure PhaseShift where
  personalGuid : Option ObjectGuid
  phases : List PhaseRef

def PhaseShift.empty : PhaseShift := ⟨none, []⟩

def PhaseShift.hasPhase (phaseShift : PhaseShift) (phaseId : ℕ) : Bool :=
  phaseShift.phases.any fun phase => phase.id = phaseId

/-! ## The spawns of one phase -/

structure PersonalPhaseSpawns where
  objects : SortedSet ObjectGuid
  grids : SortedSet ℕ
  durationRemainingMs : Option ℤ

namespace PersonalPhaseSpawns

def default : PersonalPhaseSpawns := ⟨.empty, .empty, none⟩

def isEmpty (spawns : PersonalPhaseSpawns) : Bool :=
  spawns.objects.toList.isEmpty && spawns.grids.toList.isEmpty

/-- The first loop of `on_owner_phases_changed`. -/
def startCountdown (phaseShift : PhaseShift) (phaseId : ℕ) (spawns : PersonalPhaseSpawns) :
    PersonalPhaseSpawns :=
  if spawns.durationRemainingMs.isNone && !phaseShift.hasPhase phaseId then
    { spawns with durationRemainingMs := some personalPhaseDeleteTimeDefaultMs }
  else spawns

def countDown (diffMs : ℕ) (spawns : PersonalPhaseSpawns) : PersonalPhaseSpawns :=
  { spawns with durationRemainingMs := spawns.durationRemainingMs.map (· - (diffMs : ℤ)) }

/-- Whether the countdown has run out. -/
def isOver (spawns : PersonalPhaseSpawns) : Bool :=
  spawns.durationRemainingMs.any (· ≤ 0)

end PersonalPhaseSpawns

/-! ## The phases of one player -/

structure PlayerPersonalPhasesTracker where
  spawns : Dict ℕ PersonalPhaseSpawns

namespace PlayerPersonalPhasesTracker

def default : PlayerPersonalPhasesTracker := ⟨∅⟩

def isEmpty (tracker : PlayerPersonalPhasesTracker) : Bool := tracker.spawns.isEmpty

def registerTrackedObject (phaseId : ℕ) (object : ObjectGuid)
    (tracker : PlayerPersonalPhasesTracker) : PlayerPersonalPhasesTracker :=
  let spawns := (tracker.spawns.lookup phaseId).getD .default
  ⟨AList.insert phaseId { spawns with objects := spawns.objects.insert object } tracker.spawns⟩

/-- Drop the phases without objects and grids. -/
def dropEmpty (tracker : PlayerPersonalPhasesTracker) : PlayerPersonalPhasesTracker :=
  ⟨tracker.spawns.retain fun _ spawns => !spawns.isEmpty⟩

/-- Whether the object was tracked, and the tracker without it. -/
def unregisterTrackedObject (object : ObjectGuid) (tracker : PlayerPersonalPhasesTracker) :
    Bool × PlayerPersonalPhasesTracker :=
  (tracker.spawns.anyEntry fun _ spawns => spawns.objects.toList.contains object,
    dropEmpty ⟨tracker.spawns.mapValues fun _ spawns =>
      { spawns with objects := spawns.objects.erase object }⟩)

/-- The countdown starts for the phases that are missing, and stops for those that are there. -/
def onOwnerPhasesChanged (phaseShift : PhaseShift) (tracker : PlayerPersonalPhasesTracker) :
    PlayerPersonalPhasesTracker :=
  ⟨phaseShift.phases.foldl
    (fun spawns phase =>
      spawns.modify phase.id fun tracked => { tracked with durationRemainingMs := none })
    (tracker.spawns.mapValues fun phaseId spawns => spawns.startCountdown phaseShift phaseId)⟩

def markAllPhasesForDeletion (tracker : PlayerPersonalPhasesTracker) :
    PlayerPersonalPhasesTracker :=
  ⟨tracker.spawns.mapValues fun _ spawns =>
    { spawns with durationRemainingMs := some personalPhaseDeleteTimeDefaultMs }⟩

/-- The objects of the phases whose countdown has run out, and the phases that are left. -/
def update (diffMs : ℕ) (tracker : PlayerPersonalPhasesTracker) :
    List ObjectGuid × PlayerPersonalPhasesTracker :=
  let spawns := tracker.spawns.mapValues fun _ spawns => spawns.countDown diffMs
  (spawns.ascending.flatMap fun e => if e.2.isOver then e.2.objects.toList else [],
    ⟨spawns.retain fun _ spawns => !spawns.isOver⟩)

def setGridUnloaded (gridId : ℕ) (tracker : PlayerPersonalPhasesTracker) :
    PlayerPersonalPhasesTracker :=
  dropEmpty ⟨tracker.spawns.mapValues fun _ spawns =>
    { spawns with grids := spawns.grids.erase gridId }⟩

end PlayerPersonalPhasesTracker

/-! ## All players -/

structure MultiPersonalPhaseTracker where
  playerData : Dict ObjectGuid PlayerPersonalPhasesTracker

structure PersonalPhaseUnregisterTrackedObjectOutcome where
  phaseOwner : ObjectGuid
  object : ObjectGuid
  attempted : Bool
  trackerFound : Bool
  removed : Bool
  removedOwnerTracker : Bool

namespace MultiPersonalPhaseTracker

def default : MultiPersonalPhaseTracker := ⟨∅⟩

/-- Drop the players without a phase. -/
def dropEmpty (m : MultiPersonalPhaseTracker) : MultiPersonalPhaseTracker :=
  ⟨m.playerData.retain fun _ tracker => !tracker.isEmpty⟩

def unloadGrid (gridId : ℕ) (m : MultiPersonalPhaseTracker) : MultiPersonalPhaseTracker :=
  dropEmpty ⟨m.playerData.mapValues fun _ tracker => tracker.setGridUnloaded gridId⟩

/-- Nothing where one of the assertions fails. -/
def registerTrackedObject (phaseId : ℕ) (phaseOwner object : ObjectGuid)
    (m : MultiPersonalPhaseTracker) : Option MultiPersonalPhaseTracker :=
  if phaseId ≠ 0 ∧ phaseOwner ≠ .empty ∧ object ≠ .empty then
    let tracker := (m.playerData.lookup phaseOwner).getD .default
    some ⟨AList.insert phaseOwner (tracker.registerTrackedObject phaseId object) m.playerData⟩
  else none

def unregisterTrackedObjectForPhaseOwner (phaseOwner object : ObjectGuid)
    (m : MultiPersonalPhaseTracker) :
    PersonalPhaseUnregisterTrackedObjectOutcome × MultiPersonalPhaseTracker :=
  if phaseOwner = .empty then (⟨phaseOwner, object, false, false, false, false⟩, m)
  else
    match m.playerData.lookup phaseOwner with
    | none => (⟨phaseOwner, object, true, false, false, false⟩, m.dropEmpty)
    | some tracker =>
      let (removed, rest) := tracker.unregisterTrackedObject object
      (⟨phaseOwner, object, true, true, removed, rest.isEmpty⟩,
        dropEmpty ⟨AList.insert phaseOwner rest m.playerData⟩)

/-- `on_owner_phase_changed` without a grid to load. -/
def onOwnerPhaseChanged (phaseOwner : ObjectGuid) (phaseShift : PhaseShift)
    (m : MultiPersonalPhaseTracker) : MultiPersonalPhaseTracker :=
  ⟨m.playerData.modify phaseOwner (·.onOwnerPhasesChanged phaseShift)⟩

def markAllPhasesForDeletion (phaseOwner : ObjectGuid) (m : MultiPersonalPhaseTracker) :
    MultiPersonalPhaseTracker :=
  ⟨m.playerData.modify phaseOwner (·.markAllPhasesForDeletion)⟩

/-- The objects to despawn, and the tracker afterwards. -/
def update (diffMs : ℕ) (m : MultiPersonalPhaseTracker) :
    List ObjectGuid × MultiPersonalPhaseTracker :=
  (m.playerData.ascending.flatMap fun e => (e.2.update diffMs).1,
    dropEmpty ⟨m.playerData.mapValues fun _ tracker => (tracker.update diffMs).2⟩)

end MultiPersonalPhaseTracker

/-! ## Calls -/

/-- One call. -/
inductive PhaseCall where
  | register (phaseId : ℕ) (phaseOwner object : ObjectGuid)
  | unregister (phaseOwner object : ObjectGuid)
  | ownerPhaseChanged (phaseOwner : ObjectGuid) (phaseShift : PhaseShift)
  | markAllForDeletion (phaseOwner : ObjectGuid)
  | unloadGrid (gridId : ℕ)
  | update (diffMs : ℕ)

namespace PhaseCall

def apply (m : MultiPersonalPhaseTracker) : PhaseCall → MultiPersonalPhaseTracker
  | register phaseId phaseOwner object =>
    (m.registerTrackedObject phaseId phaseOwner object).getD m
  | unregister phaseOwner object =>
    (m.unregisterTrackedObjectForPhaseOwner phaseOwner object).2
  | ownerPhaseChanged phaseOwner phaseShift => m.onOwnerPhaseChanged phaseOwner phaseShift
  | markAllForDeletion phaseOwner => m.markAllPhasesForDeletion phaseOwner
  | unloadGrid gridId => m.unloadGrid gridId
  | update diffMs => (m.update diffMs).2

def despawned (m : MultiPersonalPhaseTracker) : PhaseCall → List ObjectGuid
  | update diffMs => (m.update diffMs).1
  | _ => []

end PhaseCall

end RustyCore.Maps
