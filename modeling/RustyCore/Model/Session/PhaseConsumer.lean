import RustyCore.Model.Maps.PlayerOwner

/-! # Phase permits and their consumer

The permit of one admitted pass, which the coordinator and the session decide with
compare-and-exchange, and the requests and replies of the rail. -/

namespace RustyCore.Session

/-! ## The permit -/

inductive PermitState where
  | pending
  | running
  | completed
  | revokedBeforeStart
  | refusedBeforeStart
  | interruptedAfterStart
deriving DecidableEq

inductive PhaseClaim where
  | claimed
  | revoked
  | alreadyResolved (state : PermitState)
deriving DecidableEq

inductive PhaseRevoke where
  | revoked
  | alreadyRunning
  | alreadyResolved (state : PermitState)
deriving DecidableEq

/-- `compare_exchange`: whether `word` was the expected one, and the word afterwards. -/
def compareExchange (word expected new : PermitState) : Bool × PermitState :=
  if word = expected then (true, new) else (false, word)

namespace PermitState

def claim (word : PermitState) : PhaseClaim × PermitState :=
  match compareExchange word pending running with
  | (true, word) => (.claimed, word)
  | (false, word) => if word = revokedBeforeStart then (.revoked, word) else (.alreadyResolved word, word)

def revokeBeforeStart (word : PermitState) : PhaseRevoke × PermitState :=
  match compareExchange word pending revokedBeforeStart with
  | (true, word) => (.revoked, word)
  | (false, word) => if word = running then (.alreadyRunning, word) else (.alreadyResolved word, word)

def refuseBeforeStart (word : PermitState) : Bool × PermitState :=
  compareExchange word pending refusedBeforeStart

def complete (word : PermitState) : Bool × PermitState :=
  compareExchange word running completed

/-- The session has claimed the pass, whatever became of it. -/
def claimed : PermitState → Bool
  | running | completed | interruptedAfterStart => true
  | pending | revokedBeforeStart | refusedBeforeStart => false

/-- The pass can no longer start. -/
def unstarted : PermitState → Bool
  | revokedBeforeStart | refusedBeforeStart => true
  | pending | running | completed | interruptedAfterStart => false

end PermitState

/-! ## The rail -/

inductive PacketUpdatePhase where
  | world
  | map
deriving DecidableEq

/-- The incarnation of a session in the directory. -/
structure PlayerRegistration where
  guid : ObjectGuid
  generation : ℕ
deriving DecidableEq

/-- The identity that an admitted map pass was granted to. -/
structure MapPhaseAdmission where
  coordinatorId : ℕ
  tickEpoch : ℕ
  phase : PacketUpdatePhase
  registration : PlayerRegistration
  handle : Maps.PlayerHandle
  mapKey : Maps.MapKey
  mapIncarnation : ℕ
  residenceRevision : ℕ
deriving DecidableEq

/-- A request names its shared permit and its reply channel. -/
inductive SessionPhaseRequest where
  | world (coordinatorId tickEpoch permit responseTx : ℕ)
  | map (admission : MapPhaseAdmission) (permit responseTx : ℕ)
deriving DecidableEq

namespace SessionPhaseRequest

def phase : SessionPhaseRequest → PacketUpdatePhase
  | world .. => .world
  | map .. => .map

def coordinatorId : SessionPhaseRequest → ℕ
  | world coordinatorId _ _ _ => coordinatorId
  | map admission _ _ => admission.coordinatorId

def tickEpoch : SessionPhaseRequest → ℕ
  | world _ tickEpoch _ _ => tickEpoch
  | map admission _ _ => admission.tickEpoch

def permit : SessionPhaseRequest → ℕ
  | world _ _ permit _ => permit
  | map _ permit _ => permit

def responseTx : SessionPhaseRequest → ℕ
  | world _ _ _ responseTx => responseTx
  | map _ _ responseTx => responseTx

end SessionPhaseRequest

inductive PhasePassOutcome where
  | ran
  | revokedBeforeStart
  | refusedBeforeStart
  | alreadyResolved
deriving DecidableEq

inductive PhasePassResult where
  | world (coordinatorId tickEpoch : ℕ) (outcome : PhasePassOutcome) (dispatched : ℕ)
      (disconnecting : Bool)
  | map (tickEpoch : ℕ) (outcome : PhasePassOutcome) (dispatched : ℕ)
      (stoppedAtIneligibleHead disconnecting : Bool)
deriving DecidableEq

def PhasePassResult.outcome : PhasePassResult → PhasePassOutcome
  | world _ _ outcome _ _ => outcome
  | map _ outcome _ _ _ => outcome

/-- What a pass did. -/
structure PassSummary where
  dispatched : ℕ
  stoppedAtIneligibleHead : Bool
deriving DecidableEq

def SessionPhaseRequest.result (request : SessionPhaseRequest) (outcome : PhasePassOutcome)
    (summary : PassSummary) (disconnecting : Bool) : PhasePassResult :=
  match request with
  | world coordinatorId tickEpoch _ _ =>
    .world coordinatorId tickEpoch outcome summary.dispatched disconnecting
  | map admission _ _ =>
    .map admission.tickEpoch outcome summary.dispatched summary.stoppedAtIneligibleHead
      disconnecting

/-- The reply channel, which holds one result. -/
structure ResponseChannel where
  buffer : Option PhasePassResult
  connected : Bool
deriving DecidableEq

/-- `try_send`: whether the result was accepted. -/
def ResponseChannel.trySend (channel : ResponseChannel) (result : PhasePassResult) :
    Bool × ResponseChannel :=
  if channel.connected && channel.buffer.isNone then
    (true, { channel with buffer := some result })
  else (false, channel)

end RustyCore.Session

/-! ## The phase consumer

One session serves the requests of its rail, in steps that have one atomic access to a
permit each, while coordinators deliver requests, revoke permits and receive replies, and
the world changes around the session. -/

namespace RustyCore.Session

/-- What the map manager says about the residence of a player. -/
structure MapView where
  mapIncarnation : Maps.MapKey → Option ℕ
  activeResidenceRevision : Maps.PlayerHandle → Option (Maps.MapKey × ℕ)

/-- What the session reads of itself and of the world around it. -/
structure SessionView where
  playerGuid : Option ObjectGuid
  /-- The generation of each entry of the directory. -/
  playerRegistry : Option (ObjectGuid → Option ℕ)
  playerHandle : Option Maps.PlayerHandle
  mapManager : Option MapView
  disconnecting : Bool

def SessionView.lookupCurrent (view : SessionView) (registration : PlayerRegistration) : Bool :=
  match view.playerRegistry with
  | none => false
  | some registry => registry registration.guid == some registration.generation

def SessionView.admissionStillDescribes (view : SessionView) (admission : MapPhaseAdmission) :
    Bool :=
  if admission.phase ≠ .map then false
  else if view.playerGuid ≠ some admission.registration.guid then false
  else if !view.lookupCurrent admission.registration then false
  else if view.playerHandle ≠ some admission.handle then false
  else
    match view.mapManager with
    | none => false
    | some manager =>
      if manager.mapIncarnation admission.mapKey ≠ some admission.mapIncarnation then false
      else manager.activeResidenceRevision admission.handle ==
        some (admission.mapKey, admission.residenceRevision)

/-- Where the task of the session stands. -/
inductive SessionTask where
  /-- It takes the next request of the rail. -/
  | parked
  /-- The request is stale, and its permit is refused next. -/
  | refusing (request : SessionPhaseRequest)
  | claiming (request : SessionPhaseRequest)
  /-- The permit is claimed, and the pass runs next. -/
  | running (request : SessionPhaseRequest)
  | completing (request : SessionPhaseRequest) (result : PhasePassResult)
  | replying (request : SessionPhaseRequest) (result : PhasePassResult)
  /-- The session refuses every request, as it does at the shutdown. -/
  | refusingAtShutdown (request : SessionPhaseRequest)
  /-- The refusal failed, and the permit is read next. -/
  | readingPermit (request : SessionPhaseRequest)
  /-- A disconnecting world pass, whose permit and reply belong to the task owner. -/
  | pendingFinalization (request : SessionPhaseRequest) (result : PhasePassResult)
  /-- The owner has completed the permit, and the reply is sent next. -/
  | acknowledging (request : SessionPhaseRequest) (result : PhasePassResult)
  | finished
deriving DecidableEq

/-- What happened, for the record. -/
inductive PhaseEvent where
  | claimed (permit : ℕ)
  | effects (request : SessionPhaseRequest)
  | revoked (permit : ℕ)
  | replied (request : SessionPhaseRequest) (result : PhasePassResult)
deriving DecidableEq

structure PhaseSystem where
  permits : ℕ → PermitState
  channels : ℕ → ResponseChannel
  rail : List SessionPhaseRequest
  view : SessionView
  /-- The watermark of each phase: the coordinator and the epoch that were accepted last. -/
  lastPhaseAuthority : PacketUpdatePhase → Option (ℕ × ℕ)
  task : SessionTask
  /-- The latest event first. -/
  log : List PhaseEvent

namespace PhaseSystem

def setPermit (s : PhaseSystem) (permit : ℕ) (word : PermitState) : PhaseSystem :=
  { s with permits := Function.update s.permits permit word }

def record (s : PhaseSystem) (event : PhaseEvent) : PhaseSystem :=
  { s with log := event :: s.log }

/-- `phase_authority_is_current`, without the new watermark. -/
def authorityAccepts (last : Option (ℕ × ℕ)) (coordinatorId tickEpoch : ℕ) : Bool :=
  match last with
  | none => true
  | some (lastCoordinator, lastEpoch) =>
    if coordinatorId < lastCoordinator then false
    else if coordinatorId = lastCoordinator ∧ tickEpoch ≤ lastEpoch then false
    else true

def accepts (s : PhaseSystem) (request : SessionPhaseRequest) : Bool :=
  authorityAccepts (s.lastPhaseAuthority request.phase) request.coordinatorId request.tickEpoch

/-- The session refuses the request before it looks at the permit. -/
def stale (s : PhaseSystem) (request : SessionPhaseRequest) : Bool :=
  match request with
  | .world .. => !s.accepts request
  | .map admission _ _ => !s.accepts request || !s.view.admissionStillDescribes admission

/-- The start of `run_admitted_world_phase_pass` and `run_admitted_map_phase_pass`. -/
def take (s : PhaseSystem) : PhaseSystem :=
  match s.task, s.rail with
  | .parked, request :: rail =>
    { s with
      rail := rail
      lastPhaseAuthority :=
        if s.accepts request then
          Function.update s.lastPhaseAuthority request.phase
            (some (request.coordinatorId, request.tickEpoch))
        else s.lastPhaseAuthority
      task := if s.stale request then .refusing request else .claiming request }
  | _, _ => s

/-- The session has observed the shutdown, before or after it took the request. -/
def takeAtShutdown (s : PhaseSystem) : PhaseSystem :=
  match s.task, s.rail with
  | .parked, request :: rail => { s with rail := rail, task := .refusingAtShutdown request }
  | _, _ => s

/-- The effects of the pass and its tails, after which the session sees `view`. -/
def runPass (s : PhaseSystem) (summary : PassSummary) (view : SessionView) : PhaseSystem :=
  match s.task with
  | .running request =>
    let result := request.result .ran summary view.disconnecting
    let next :=
      if request.phase = .world ∧ view.disconnecting then .pendingFinalization request result
      else SessionTask.completing request result
    { s with view := view, task := next, log := .effects request :: s.log }
  | _ => s

/-- A pass that did not run. -/
def declined (s : PhaseSystem) (request : SessionPhaseRequest) (outcome : PhasePassOutcome) :
    SessionTask :=
  .replying request (request.result outcome ⟨0, false⟩ s.view.disconnecting)

def trySend (s : PhaseSystem) (request : SessionPhaseRequest) (result : PhasePassResult)
    (next : SessionTask) : PhaseSystem :=
  let (accepted, channel) := (s.channels request.responseTx).trySend result
  { s with
    channels := Function.update s.channels request.responseTx channel
    task := next
    log := if accepted then .replied request result :: s.log else s.log }

/-- The next access of the task to the permit or to the reply channel. -/
def advance (s : PhaseSystem) : PhaseSystem :=
  match s.task with
  | .refusing request =>
    let word := ((s.permits request.permit).refuseBeforeStart).2
    { s.setPermit request.permit word with task := s.declined request .refusedBeforeStart }
  | .claiming request =>
    match (s.permits request.permit).claim with
    | (.claimed, word) =>
      { (s.setPermit request.permit word).record (.claimed request.permit) with
        task := .running request }
    | (.revoked, _) => { s with task := s.declined request .revokedBeforeStart }
    | (.alreadyResolved _, _) => { s with task := s.declined request .alreadyResolved }
  | .completing request result =>
    match (s.permits request.permit).complete with
    | (true, word) => { s.setPermit request.permit word with task := .replying request result }
    | (false, _) => { s with task := .replying request result }
  | .replying request result => s.trySend request result .parked
  | .refusingAtShutdown request =>
    match (s.permits request.permit).refuseBeforeStart with
    | (true, word) =>
      { s.setPermit request.permit word with task := s.declined request .refusedBeforeStart }
    | (false, _) => { s with task := .readingPermit request }
  | .readingPermit request =>
    { s with
      task := s.declined request <|
        match s.permits request.permit with
        | .revokedBeforeStart => .revokedBeforeStart
        | .refusedBeforeStart => .refusedBeforeStart
        | _ => .alreadyResolved }
  | .acknowledging request result => s.trySend request result .finished
  | .parked | .running _ | .pendingFinalization _ _ | .finished => s

/-- `PendingWorldPhaseFinalization::complete`, once the session has been finalized. -/
def completeFinalization (s : PhaseSystem) : PhaseSystem :=
  match s.task with
  | .pendingFinalization request result =>
    match (s.permits request.permit).complete with
    | (true, word) =>
      { s.setPermit request.permit word with task := .acknowledging request result }
    | (false, _) => { s with task := .finished }
  | _ => s

/-- `revoke_before_start`, by a coordinator. -/
def revoke (s : PhaseSystem) (permit : ℕ) : PhaseSystem :=
  match (s.permits permit).revokeBeforeStart with
  | (.revoked, word) => (s.setPermit permit word).record (.revoked permit)
  | (_, _) => s

end PhaseSystem

/-- The steps of the coordinators, of the world and of the session, in any order. -/
inductive PhaseOp where
  | deliver (request : SessionPhaseRequest)
  | revoke (permit : ℕ)
  | receive (channel : ℕ)
  | hangUp (channel : ℕ)
  | observe (view : SessionView)
  | take
  | takeAtShutdown
  | advance
  | runPass (summary : PassSummary) (view : SessionView)
  | completeFinalization

def PhaseSystem.setChannel (s : PhaseSystem) (channel : ℕ)
    (f : ResponseChannel → ResponseChannel) : PhaseSystem :=
  { s with channels := Function.update s.channels channel (f (s.channels channel)) }

def phaseStep (s : PhaseSystem) : PhaseOp → PhaseSystem
  | .deliver request => { s with rail := s.rail ++ [request] }
  | .revoke permit => s.revoke permit
  | .receive channel => s.setChannel channel fun c => { c with buffer := none }
  | .hangUp channel => s.setChannel channel fun c => { c with connected := false }
  | .observe view => { s with view := view }
  | .take => s.take
  | .takeAtShutdown => s.takeAtShutdown
  | .advance => s.advance
  | .runPass summary view => s.runPass summary view
  | .completeFinalization => s.completeFinalization

end RustyCore.Session
