import RustyCore.Library.FixedWidth

/-! # Transports

A transport moves along its path by the millisecond, once around it in every period. The share
of the cycle that clients see, a float, is left out. -/

namespace RustyCore.Transports

inductive GoState where
  | active | ready | destroyed | transportActive | transportStopped
deriving DecidableEq

inductive TransportMovementState where
  | moving | waitingOnPauseWaypoint
deriving DecidableEq

structure TransportPathLeg where
  mapId : BitVec 32

structure TransportTemplate where
  pathLegs : List TransportPathLeg

def transportPositionUpdateDelayMs : BitVec 32 := 200

/-- `x.saturating_add(y)`. -/
def saturatingAddMs (x y : BitVec 32) : BitVec 32 :=
  BitVec.ofNat 32 (saturatingAdd 32 x.toNat y.toNat)

/-- `x.saturating_sub(y)`. -/
def saturatingSubMs (x y : BitVec 32) : BitVec 32 := BitVec.ofNat 32 (x.toNat - y.toNat)

/-- `level` is an `i32` of the game object, `dynflagStopped` its flag `LO_STOPPED`. -/
structure Transport where
  level : BitVec 32
  goState : GoState
  dynflagStopped : Bool
  template : Option TransportTemplate
  movementState : TransportMovementState
  allowStopping : Bool
  eventsToTrigger : List Bool
  currentPathLeg : ℕ
  requestStopTimestampMs : Option (BitVec 32)
  pathProgressMs : BitVec 32
  positionChangeTimerMs : BitVec 32

/-- What an update reports. -/
structure TransportUpdate where
  diffMs : BitVec 32
  nowMs : BitVec 64
  oldPathProgressMs : BitVec 32
  newPathProgressMs : BitVec 32
  timerMs : Option (BitVec 32)
  periodMs : BitVec 32
  allowStopping : Bool
  oldCycleId : Option (BitVec 32)
  newCycleId : Option (BitVec 32)
  cycleReset : Bool
  pathProgressForClientUpdated : Bool
  positionUpdateTimerBeforeMs : BitVec 32
  positionUpdateTimerAfterMs : BitVec 32
  positionUpdateTimerPassed : Bool
  movementStateBefore : TransportMovementState
  movementStateAfter : TransportMovementState
  justStopped : Bool
  stoppedDynflagRepresented : Bool
  expectedMapId : Option (BitVec 32)
  currentMapId : BitVec 32
  expectedMapMatchesCurrentMap : Bool
  positionUpdateDue : Bool
  positionUpdateRepresented : Bool
  computePositionNotRepresented : Bool
  aiUpdateNotRepresented : Bool
  scriptUpdateNotRepresented : Bool
  eventsTriggerNotRepresented : Bool
  unsupportedNoPeriod : Bool

namespace Transport

def new : Transport where
  level := 0
  goState := .active
  dynflagStopped := false
  template := none
  movementState := .moving
  allowStopping := true
  eventsToTrigger := []
  currentPathLeg := 0
  requestStopTimestampMs := none
  pathProgressMs := 0
  positionChangeTimerMs := 0

def setPeriod (t : Transport) (periodMs : BitVec 32) : Transport := { t with level := periodMs }

/-- `level.max(0) as u32`. -/
def getTransportPeriod (t : Transport) : BitVec 32 := if t.level.msb then 0 else t.level

def requestStopAtNextPause (t : Transport) (nextPauseTimestampMs : BitVec 32) : Transport :=
  let period := t.getTransportPeriod
  { t with
    requestStopTimestampMs := some <|
      if period = 0 then nextPauseTimestampMs
      else t.pathProgressMs / period * period + nextPauseTimestampMs }

def enableMovement (t : Transport) : Transport :=
  { t with
    requestStopTimestampMs := none
    goState := .active
    dynflagStopped := false }

def getExpectedMapId (t : Transport) : Option (BitVec 32) := do
  let template ← t.template
  let leg ← template.pathLegs[t.currentPathLeg]?
  return leg.mapId

/-! ## The update -/

/-- Where a transport is after `diffMs`, if it does not stop. -/
def runsOnTo (t : Transport) (diffMs : BitVec 32) : BitVec 32 :=
  saturatingAddMs t.pathProgressMs diffMs

def stopRequestWithinTick (t : Transport) (diffMs : BitVec 32) : Bool :=
  t.allowStopping && t.requestStopTimestampMs.any fun request => decide (request ≤ t.runsOnTo diffMs)

def newPathProgressMs (t : Transport) (diffMs : BitVec 32) (nowMs : BitVec 64) : BitVec 32 :=
  if !t.allowStopping then BitVec.ofNat 32 (min nowMs.toNat 4294967295)
  else
    match t.requestStopTimestampMs with
    | some requestStopTimestampMs =>
      if t.runsOnTo diffMs < requestStopTimestampMs then t.runsOnTo diffMs
      else requestStopTimestampMs
    | none => t.runsOnTo diffMs

def justStops (t : Transport) (diffMs : BitVec 32) (nowMs : BitVec 64) : Bool :=
  t.movementState == .moving && t.stopRequestWithinTick diffMs &&
    t.requestStopTimestampMs == some (t.newPathProgressMs diffMs nowMs)

def stop (t : Transport) : Transport :=
  { t with
    movementState := .waitingOnPauseWaypoint
    goState := .ready
    dynflagStopped := true }

/-- The report on a transport without a period, which an update leaves as it is. -/
def noPeriodUpdate (t : Transport) (diffMs : BitVec 32) (nowMs : BitVec 64)
    (currentMapId : BitVec 32) : TransportUpdate where
  diffMs := diffMs
  nowMs := nowMs
  oldPathProgressMs := t.pathProgressMs
  newPathProgressMs := t.pathProgressMs
  timerMs := none
  periodMs := t.getTransportPeriod
  allowStopping := t.allowStopping
  oldCycleId := none
  newCycleId := none
  cycleReset := false
  pathProgressForClientUpdated := false
  positionUpdateTimerBeforeMs := t.positionChangeTimerMs
  positionUpdateTimerAfterMs := t.positionChangeTimerMs
  positionUpdateTimerPassed := false
  movementStateBefore := t.movementState
  movementStateAfter := t.movementState
  justStopped := false
  stoppedDynflagRepresented := false
  expectedMapId := t.getExpectedMapId
  currentMapId := currentMapId
  expectedMapMatchesCurrentMap := t.getExpectedMapId == some currentMapId
  positionUpdateDue := false
  positionUpdateRepresented := false
  computePositionNotRepresented := false
  aiUpdateNotRepresented := true
  scriptUpdateNotRepresented := true
  eventsTriggerNotRepresented := false
  unsupportedNoPeriod := true

def update (t : Transport) (diffMs : BitVec 32) (nowMs : BitVec 64)
    (currentMapId : BitVec 32) : Transport × TransportUpdate :=
  let periodMs := t.getTransportPeriod
  let expectedMapMatchesCurrentMap := t.getExpectedMapId == some currentMapId
  if periodMs = 0 then (t, t.noPeriodUpdate diffMs nowMs currentMapId)
  else
    let timerAfterUpdate := saturatingSubMs t.positionChangeTimerMs diffMs
    let timerPassed := timerAfterUpdate == 0
    let oldCycleId := t.pathProgressMs / periodMs
    let newPathProgressMs := t.newPathProgressMs diffMs nowMs
    let newCycleId := newPathProgressMs / periodMs
    let cycleReset := oldCycleId != newCycleId
    let moved := { t with
      pathProgressMs := newPathProgressMs
      eventsToTrigger :=
        if cycleReset then t.eventsToTrigger.map fun _ => true else t.eventsToTrigger }
    let justStopped := t.justStops diffMs nowMs
    let halted := if justStopped then moved.stop else moved
    let timerReset := timerPassed && expectedMapMatchesCurrentMap
    let after := { halted with
      positionChangeTimerMs :=
        if timerReset then transportPositionUpdateDelayMs else timerAfterUpdate }
    let positionUpdateDue := timerReset && (after.movementState == .moving || justStopped)
    (after,
      { diffMs := diffMs
        nowMs := nowMs
        oldPathProgressMs := t.pathProgressMs
        newPathProgressMs := newPathProgressMs
        timerMs := some (newPathProgressMs % periodMs)
        periodMs := periodMs
        allowStopping := t.allowStopping
        oldCycleId := some oldCycleId
        newCycleId := some newCycleId
        cycleReset := cycleReset
        pathProgressForClientUpdated := true
        positionUpdateTimerBeforeMs := t.positionChangeTimerMs
        positionUpdateTimerAfterMs := after.positionChangeTimerMs
        positionUpdateTimerPassed := timerPassed
        movementStateBefore := t.movementState
        movementStateAfter := after.movementState
        justStopped := justStopped
        stoppedDynflagRepresented := justStopped
        expectedMapId := t.getExpectedMapId
        currentMapId := currentMapId
        expectedMapMatchesCurrentMap := expectedMapMatchesCurrentMap
        positionUpdateDue := positionUpdateDue
        positionUpdateRepresented := positionUpdateDue
        computePositionNotRepresented := positionUpdateDue
        aiUpdateNotRepresented := true
        scriptUpdateNotRepresented := true
        eventsTriggerNotRepresented := cycleReset
        unsupportedNoPeriod := false })

end Transport

/-- One call of the update. -/
structure Tick where
  diffMs : BitVec 32
  nowMs : BitVec 64
  currentMapId : BitVec 32

namespace Transport

def tick (t : Transport) (tick : Tick) : Transport :=
  (t.update tick.diffMs tick.nowMs tick.currentMapId).1

def report (t : Transport) (tick : Tick) : TransportUpdate :=
  (t.update tick.diffMs tick.nowMs tick.currentMapId).2

/-- The reports of a run of ticks. -/
def reports (t : Transport) : List Tick → List TransportUpdate
  | [] => []
  | tick :: ticks => t.report tick :: (t.tick tick).reports ticks

end Transport

end RustyCore.Transports
