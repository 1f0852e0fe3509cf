import RustyCore.Library.Run
import RustyCore.Model.Session.PhaseConsumer

/-! # Phase permits are exact

What the permits, the log and the task of the session say about each other in every
interleaving of the coordinators with the session. -/

namespace RustyCore.Session

open PermitState

variable {s s' : PhaseSystem} {request : SessionPhaseRequest} {result : PhasePassResult}
  {permit : ℕ} {task : SessionTask}
variable {earlier : List PhaseEvent} {word : PermitState}

def SessionPhaseRequest.pass (request : SessionPhaseRequest) : PacketUpdatePhase × ℕ × ℕ :=
  (request.phase, request.coordinatorId, request.tickEpoch)

/-- The requests whose effects have run. -/
def effectsOf (log : List PhaseEvent) : List SessionPhaseRequest :=
  log.filterMap fun event =>
    match event with
    | .effects request => some request
    | _ => none

def PhasePassOutcome.beforeStart (outcome : PhasePassOutcome) : Prop :=
  outcome = .revokedBeforeStart ∨ outcome = .refusedBeforeStart

/-- What the permits promise about the passes of the session. -/
structure PermitsExact (s : PhaseSystem) : Prop where
  claimedFirst : ∀ request earlier, .effects request :: earlier <:+ s.log →
    .claimed request.permit ∈ earlier
  once : ((effectsOf s.log).map SessionPhaseRequest.pass).Nodup
  revokedNever : ∀ request, .revoked request.permit ∈ s.log → .effects request ∉ s.log
  ranCompleted : ∀ request result, .replied request result ∈ s.log → result.outcome = .ran →
    s.permits request.permit = completed
  neverClaimed : ∀ request result, .replied request result ∈ s.log →
    result.outcome.beforeStart → .claimed request.permit ∉ s.log

/-- A request that the session refuses as stale does not come with a claimed permit. -/
def RefusesUnclaimed (s : PhaseSystem) : PhaseOp → Prop
  | .take => ∀ request rail, s.task = .parked → s.rail = request :: rail → s.stale request →
      (s.permits request.permit).claimed = false
  | _ => True

/-! ## The log -/

section Log

variable {log : List PhaseEvent}
variable {event : PhaseEvent}

/-- An event that is not the start of a pass. -/
def PhaseEvent.quiet : PhaseEvent → Prop
  | effects _ => False
  | claimed _ => True
  | revoked _ => True
  | replied _ _ => True

theorem effectsOf_cons_quiet (h : event.quiet) : effectsOf (event :: log) = effectsOf log := by
  cases event with
  | effects _ => exact h.elim
  | claimed _ => rfl
  | revoked _ => rfl
  | replied _ _ => rfl

theorem effects_suffix_cons_quiet (h : event.quiet) :
    .effects request :: earlier <:+ event :: log ↔ .effects request :: earlier <:+ log := by
  rw [List.suffix_cons_iff]
  constructor
  · rintro (heq | hsuffix)
    · cases heq
      exact h.elim
    · exact hsuffix
  · exact .inr

end Log

/-! ## The invariant -/

/-- The log against the permits and the watermarks. -/
structure Recorded (s : PhaseSystem) : Prop where
  claimed : ∀ permit, .claimed permit ∈ s.log ↔ (s.permits permit).claimed = true
  revoked : ∀ permit, .revoked permit ∈ s.log → s.permits permit = revokedBeforeStart
  claimedFirst : ∀ request earlier, .effects request :: earlier <:+ s.log →
    .claimed request.permit ∈ earlier
  covered : ∀ request ∈ effectsOf s.log, s.accepts request = false
  once : ((effectsOf s.log).map SessionPhaseRequest.pass).Nodup
  ran : ∀ request result, .replied request result ∈ s.log → result.outcome = .ran →
    s.permits request.permit = completed
  unstarted : ∀ request result, .replied request result ∈ s.log →
    result.outcome.beforeStart → (s.permits request.permit).unstarted = true

/-- The result may be sent, as far as the permit says. -/
structure Supported (word : PermitState) (result : PhasePassResult) : Prop where
  ran : result.outcome = .ran → word = completed
  unstarted : result.outcome.beforeStart → word.unstarted = true

def TaskSound (s : PhaseSystem) : SessionTask → Prop
  | .parked => True
  | .refusing request => (s.permits request.permit).claimed = false
  | .claiming request =>
    s.accepts request = false ∧ request.pass ∉ (effectsOf s.log).map SessionPhaseRequest.pass
  | .running request =>
    s.accepts request = false ∧
    request.pass ∉ (effectsOf s.log).map SessionPhaseRequest.pass ∧
    s.permits request.permit = running
  | .completing request result => result.outcome = .ran ∧ s.permits request.permit = running
  | .replying request result => Supported (s.permits request.permit) result
  | .refusingAtShutdown _ => True
  | .readingPermit _ => True
  | .pendingFinalization request result =>
    result.outcome = .ran ∧ s.permits request.permit = running
  | .acknowledging request result => Supported (s.permits request.permit) result
  | .finished => True

structure PhaseInvariant (s : PhaseSystem) : Prop where
  recorded : Recorded s
  task : TaskSound s s.task

theorem Recorded.exact (h : Recorded s) : PermitsExact s := by
  refine ⟨h.claimedFirst, h.once, ?_, h.ran, ?_⟩
  · intro request hrevoked heffects
    obtain ⟨later, earlier, hlog⟩ := List.append_of_mem heffects
    have hclaimed := h.claimedFirst request earlier ⟨later, hlog.symm⟩
    have hmem : PhaseEvent.claimed request.permit ∈ s.log := by
      rw [hlog]
      exact List.mem_append_right later (List.mem_cons_of_mem _ hclaimed)
    have hword := (h.claimed request.permit).mp hmem
    rw [h.revoked request.permit hrevoked] at hword
    cases hword
  · intro request result hreplied houtcome hclaimed
    have hword := (h.claimed request.permit).mp hclaimed
    have hunstarted := h.unstarted request result hreplied houtcome
    cases hpermit : s.permits request.permit <;> rw [hpermit] at hword hunstarted <;>
      cases hword <;> cases hunstarted

/-! ## Moves of a permit -/

/-- The moves that the operations on a permit can make, with what they record. -/
inductive PermitMove (permit : ℕ) : PermitState → PermitState → List PhaseEvent → Prop where
  | claim : PermitMove permit pending running [.claimed permit]
  | revoke : PermitMove permit pending revokedBeforeStart [.revoked permit]
  | refuse : PermitMove permit pending refusedBeforeStart []
  | complete : PermitMove permit running completed []

theorem update_of_word_ne {permits : ℕ → PermitState} {other : ℕ} (word : PermitState)
    (h : permits other ≠ permits permit) :
    Function.update permits permit word other = permits other := by
  refine Function.update_of_ne ?_ word permits
  rintro rfl
  exact h rfl

section Move

variable {s : PhaseSystem} {permit : ℕ} {word : PermitState} {events : List PhaseEvent}
variable {word' : PermitState} {log : List PhaseEvent} {other : ℕ}

def PhaseSystem.moved (s : PhaseSystem) (permit : ℕ) (word : PermitState)
    (events : List PhaseEvent) : PhaseSystem :=
  { s.setPermit permit word with log := events ++ s.log }

theorem PermitMove.effectsOf_eq (h : PermitMove permit word word' events) (log : List PhaseEvent) :
    effectsOf (events ++ log) = effectsOf log := by
  cases h with
  | claim => rfl
  | revoke => rfl
  | refuse => rfl
  | complete => rfl

theorem PermitMove.claimed_iff (h : PermitMove permit word word' events)
    (hlog : .claimed permit ∈ log ↔ word.claimed = true) :
    .claimed permit ∈ events ++ log ↔ word'.claimed = true := by
  cases h with
  | claim => simp [PermitState.claimed]
  | revoke => simpa [PermitState.claimed] using hlog
  | refuse => simpa [PermitState.claimed] using hlog
  | complete => simpa [PermitState.claimed] using hlog

theorem PermitMove.mem_of_ne (h : PermitMove permit word word' events) (hne : other ≠ permit) :
    (.claimed other ∈ events ++ log → .claimed other ∈ log) ∧
      (.revoked other ∈ events ++ log → .revoked other ∈ log) := by
  cases h <;> simp [hne]

theorem PermitMove.revoked (h : PermitMove permit word word' events)
    (hlog : .revoked permit ∈ log → word = revokedBeforeStart)
    (hmem : .revoked permit ∈ events ++ log) : word' = revokedBeforeStart := by
  cases h with
  | claim =>
    have hword := hlog (by simpa using hmem)
    cases hword
  | revoke => rfl
  | refuse =>
    have hword := hlog (by simpa using hmem)
    cases hword
  | complete =>
    have hword := hlog (by simpa using hmem)
    cases hword

theorem PermitMove.replied_mem (h : PermitMove permit word word' events)
    (hmem : .replied request result ∈ events ++ log) : .replied request result ∈ log := by
  cases h <;> simpa using hmem

theorem PermitMove.effects_suffix (h : PermitMove permit word word' events)
    (hsuffix : .effects request :: earlier <:+ events ++ log) :
    .effects request :: earlier <:+ log := by
  cases h with
  | claim => exact (effects_suffix_cons_quiet (show PhaseEvent.quiet (.claimed permit) from trivial)).mp hsuffix
  | revoke => exact (effects_suffix_cons_quiet (show PhaseEvent.quiet (.revoked permit) from trivial)).mp hsuffix
  | refuse => exact hsuffix
  | complete => exact hsuffix

theorem PermitMove.final (h : PermitMove permit (s.permits permit) word events)
    (hfinal : s.permits other ≠ pending ∧ s.permits other ≠ running) :
    (s.moved permit word events).permits other = s.permits other := by
  refine update_of_word_ne word ?_
  intro heq
  rw [heq] at hfinal
  cases hword : s.permits permit <;> rw [hword] at h hfinal
  · exact hfinal.1 rfl
  · exact hfinal.2 rfl
  · cases h
  · cases h
  · cases h
  · cases h

theorem final_of_unstarted (h : word.unstarted = true) : word ≠ pending ∧ word ≠ running := by
  cases word <;> cases h <;> decide

theorem Recorded.moved (h : Recorded s) (hmove : PermitMove permit (s.permits permit) word events) :
    Recorded (s.moved permit word events) where
  claimed := by
    intro other
    by_cases hother : other = permit
    · subst hother
      simp only [PhaseSystem.moved, PhaseSystem.setPermit, Function.update_self]
      exact hmove.claimed_iff (h.claimed other)
    · simp only [PhaseSystem.moved, PhaseSystem.setPermit, Function.update_of_ne hother]
      rw [← h.claimed other]
      exact ⟨(hmove.mem_of_ne hother).1, List.mem_append_right events⟩
  revoked := by
    intro other hmem
    by_cases hother : other = permit
    · subst hother
      simp only [PhaseSystem.moved, PhaseSystem.setPermit, Function.update_self]
      exact hmove.revoked (h.revoked other) hmem
    · simp only [PhaseSystem.moved, PhaseSystem.setPermit, Function.update_of_ne hother]
      exact h.revoked other ((hmove.mem_of_ne hother).2 hmem)
  claimedFirst := fun request earlier hsuffix =>
    h.claimedFirst request earlier (hmove.effects_suffix hsuffix)
  covered := by
    intro request hmem
    rw [PhaseSystem.moved, hmove.effectsOf_eq] at hmem
    exact h.covered request hmem
  once := by
    simp only [PhaseSystem.moved, hmove.effectsOf_eq]
    exact h.once
  ran := by
    intro request result hmem houtcome
    have hcompleted := h.ran request result (hmove.replied_mem hmem) houtcome
    rw [hmove.final (by rw [hcompleted]; decide)]
    exact hcompleted
  unstarted := by
    intro request result hmem houtcome
    have hunstarted := h.unstarted request result (hmove.replied_mem hmem) houtcome
    rw [hmove.final (final_of_unstarted hunstarted)]
    exact hunstarted

theorem Supported.moved (h : Supported (s.permits other) result)
    (hmove : PermitMove permit (s.permits permit) word events) :
    Supported ((s.moved permit word events).permits other) result where
  ran := by
    intro houtcome
    have hcompleted := h.ran houtcome
    rw [hmove.final (by rw [hcompleted]; decide)]
    exact hcompleted
  unstarted := by
    intro houtcome
    have hunstarted := h.unstarted houtcome
    rw [hmove.final (final_of_unstarted hunstarted)]
    exact hunstarted

end Move

/-! ## Steps of the coordinators -/

theorem revoke_cases (s : PhaseSystem) (permit : ℕ) :
    s.revoke permit = s ∨ (s.permits permit = pending ∧
      s.revoke permit = s.moved permit revokedBeforeStart [.revoked permit]) := by
  cases hword : s.permits permit with
  | pending =>
    right
    refine ⟨rfl, ?_⟩
    simp only [PhaseSystem.revoke, hword]
    rfl
  | running | completed | revokedBeforeStart | refusedBeforeStart | interruptedAfterStart =>
    left
    simp only [PhaseSystem.revoke, hword]
    rfl

theorem TaskSound.revoked (hpending : s.permits permit = pending) (h : TaskSound s s.task) :
    TaskSound (s.moved permit revokedBeforeStart [.revoked permit]) s.task := by
  have hmove : PermitMove permit (s.permits permit) revokedBeforeStart [.revoked permit] := by
    rw [hpending]
    exact .revoke
  have hrunning : ∀ other, s.permits other = running →
      (s.moved permit revokedBeforeStart [.revoked permit]).permits other = running := by
    intro other hother
    refine (update_of_word_ne _ ?_).trans hother
    rw [hother, hpending]
    decide
  cases htask : s.task with
  | parked => trivial
  | refusing request =>
    rw [htask] at h
    simp only [TaskSound, PhaseSystem.moved, PhaseSystem.setPermit, Function.update_apply]
    split
    · rfl
    · exact h
  | claiming request =>
    rw [htask] at h
    exact h
  | running request =>
    rw [htask] at h
    exact ⟨h.1, h.2.1, hrunning _ h.2.2⟩
  | completing request result =>
    rw [htask] at h
    exact ⟨h.1, hrunning _ h.2⟩
  | replying request result =>
    rw [htask] at h
    exact Supported.moved h hmove
  | refusingAtShutdown request => trivial
  | readingPermit request => trivial
  | pendingFinalization request result =>
    rw [htask] at h
    exact ⟨h.1, hrunning _ h.2⟩
  | acknowledging request result =>
    rw [htask] at h
    exact Supported.moved h hmove
  | finished => trivial

theorem PhaseInvariant.revoke (h : PhaseInvariant s) (permit : ℕ) :
    PhaseInvariant (s.revoke permit) := by
  rcases revoke_cases s permit with hsame | ⟨hpending, hrevoke⟩
  · rw [hsame]
    exact h
  · rw [hrevoke]
    refine ⟨h.recorded.moved ?_, h.task.revoked hpending⟩
    rw [hpending]
    exact .revoke

/-! ## Steps of the session -/

open PhaseSystem

theorem authorityAccepts_self (coordinatorId tickEpoch : ℕ) :
    authorityAccepts (some (coordinatorId, tickEpoch)) coordinatorId tickEpoch = false := by
  simp [authorityAccepts]

theorem authorityAccepts_mono {last : Option (ℕ × ℕ)} {coordinatorId tickEpoch : ℕ}
    (haccepted : authorityAccepts last coordinatorId tickEpoch = true)
    {coordinatorId' tickEpoch' : ℕ}
    (hrefused : authorityAccepts last coordinatorId' tickEpoch' = false) :
    authorityAccepts (some (coordinatorId, tickEpoch)) coordinatorId' tickEpoch' = false := by
  cases last with
  | none => cases hrefused
  | some watermark =>
    simp only [authorityAccepts] at haccepted hrefused ⊢
    split_ifs at haccepted hrefused ⊢ <;> first | rfl | omega

/-- The watermarks after a request has been taken. -/
def PhaseSystem.watermarked (s : PhaseSystem) (request : SessionPhaseRequest) :
    PacketUpdatePhase → Option (ℕ × ℕ) :=
  if s.accepts request then
    Function.update s.lastPhaseAuthority request.phase
      (some (request.coordinatorId, request.tickEpoch))
  else s.lastPhaseAuthority

theorem accepts_watermarked (request : SessionPhaseRequest) {other : SessionPhaseRequest}
    (h : s.accepts other = false) :
    authorityAccepts (s.watermarked request other.phase) other.coordinatorId other.tickEpoch =
      false := by
  rw [watermarked]
  split
  · rename_i haccepted
    by_cases hphase : other.phase = request.phase
    · rw [hphase, Function.update_self]
      rw [accepts, hphase] at h
      exact authorityAccepts_mono haccepted h
    · rw [Function.update_of_ne hphase]
      exact h
  · exact h

theorem accepts_watermarked_self (s : PhaseSystem) (request : SessionPhaseRequest) :
    authorityAccepts (s.watermarked request request.phase) request.coordinatorId
      request.tickEpoch = false := by
  rw [watermarked]
  split
  · rw [Function.update_self]
    exact authorityAccepts_self _ _
  · rename_i hrefused
    simpa only [accepts, Bool.not_eq_true] using hrefused

theorem Recorded.fresh (h : Recorded s) (haccepts : s.accepts request = true) :
    request.pass ∉ (effectsOf s.log).map SessionPhaseRequest.pass := by
  intro hmem
  obtain ⟨other, hother, hpass⟩ := List.mem_map.mp hmem
  have hrefused := h.covered other hother
  simp only [SessionPhaseRequest.pass, Prod.mk.injEq] at hpass
  rw [accepts, hpass.1, hpass.2.1, hpass.2.2] at hrefused
  rw [accepts, hrefused] at haccepts
  cases haccepts

theorem accepts_of_not_stale (h : s.stale request = false) : s.accepts request = true := by
  cases request with
  | world _ _ _ _ => simpa only [stale, Bool.not_eq_false'] using h
  | map _ _ _ =>
    rw [stale, Bool.or_eq_false_iff] at h
    simpa only [Bool.not_eq_false'] using h.1

theorem PhaseInvariant.take (h : PhaseInvariant s) (hop : RefusesUnclaimed s .take) :
    PhaseInvariant s.take := by
  rw [PhaseSystem.take]
  split
  · rename_i request rail htask hrail
    refine ⟨⟨h.recorded.claimed, h.recorded.revoked, h.recorded.claimedFirst, ?_,
      h.recorded.once, h.recorded.ran, h.recorded.unstarted⟩, ?_⟩
    · intro other hother
      exact accepts_watermarked request (h.recorded.covered other hother)
    · simp only
      cases hstale : s.stale request with
      | true => exact hop request rail htask hrail hstale
      | false =>
        exact ⟨accepts_watermarked_self s request, h.recorded.fresh (accepts_of_not_stale hstale)⟩
  · exact h

theorem Recorded.of_same (h : Recorded s) (hpermits : s'.permits = s.permits)
    (hauthority : s'.lastPhaseAuthority = s.lastPhaseAuthority) (hlog : s'.log = s.log) :
    Recorded s' := by
  cases s'
  cases hpermits
  cases hauthority
  cases hlog
  exact ⟨h.claimed, h.revoked, h.claimedFirst, h.covered, h.once, h.ran, h.unstarted⟩

theorem TaskSound.of_same (h : TaskSound s task) (hpermits : s'.permits = s.permits)
    (hauthority : s'.lastPhaseAuthority = s.lastPhaseAuthority) (hlog : s'.log = s.log) :
    TaskSound s' task := by
  cases s'
  cases hpermits
  cases hauthority
  cases hlog
  cases task <;> exact h

theorem PhaseInvariant.goOn (h : PhaseInvariant s) (htask : TaskSound s task) :
    PhaseInvariant { s with task := task } :=
  ⟨h.recorded.of_same rfl rfl rfl, htask.of_same rfl rfl rfl⟩

theorem PhaseInvariant.moveOn (h : PhaseInvariant s) {events : List PhaseEvent}
    (hmove : PermitMove permit (s.permits permit) word events)
    (htask : TaskSound (s.moved permit word events) task) :
    PhaseInvariant { s.moved permit word events with task := task } :=
  ⟨(h.recorded.moved hmove).of_same rfl rfl rfl, htask.of_same rfl rfl rfl⟩

theorem PhaseInvariant.takeAtShutdown (h : PhaseInvariant s) : PhaseInvariant s.takeAtShutdown := by
  rw [PhaseSystem.takeAtShutdown]
  split
  · exact ⟨h.recorded.of_same rfl rfl rfl, trivial⟩
  · exact h

@[simp] theorem moved_permits (s : PhaseSystem) (permit : ℕ) (word : PermitState)
    (events : List PhaseEvent) : (s.moved permit word events).permits permit = word :=
  Function.update_self ..

/-! ### Replies -/

theorem outcome_result (request : SessionPhaseRequest) (outcome : PhasePassOutcome)
    (summary : PassSummary) (disconnecting : Bool) :
    (request.result outcome summary disconnecting).outcome = outcome := by
  cases request <;> rfl

theorem supported_declined {outcome : PhasePassOutcome} (hran : outcome ≠ .ran)
    (hunstarted : outcome.beforeStart → (s.permits request.permit).unstarted = true) :
    TaskSound s (s.declined request outcome) := by
  refine ⟨?_, ?_⟩
  · rw [outcome_result]
    exact fun h => absurd h hran
  · rw [outcome_result]
    exact hunstarted

theorem Recorded.replied (hr : Recorded s)
    (hsupported : Supported (s.permits request.permit) result) :
    Recorded (s.record (.replied request result)) := by
  have hquiet : (PhaseEvent.replied request result).quiet := trivial
  refine ⟨?_, ?_, ?_, ?_, ?_, ?_, ?_⟩
  · intro permit
    simpa [PhaseSystem.record] using hr.claimed permit
  · intro permit hmem
    exact hr.revoked permit (by simpa [PhaseSystem.record] using hmem)
  · intro other earlier hsuffix
    exact hr.claimedFirst other earlier ((effects_suffix_cons_quiet hquiet).mp hsuffix)
  · intro other hmem
    rw [PhaseSystem.record, effectsOf_cons_quiet hquiet] at hmem
    exact hr.covered other hmem
  · rw [PhaseSystem.record, effectsOf_cons_quiet hquiet]
    exact hr.once
  · intro other result' hmem houtcome
    simp only [PhaseSystem.record, List.mem_cons, PhaseEvent.replied.injEq] at hmem
    rcases hmem with ⟨rfl, rfl⟩ | hmem
    · exact hsupported.ran houtcome
    · exact hr.ran other result' hmem houtcome
  · intro other result' hmem houtcome
    simp only [PhaseSystem.record, List.mem_cons, PhaseEvent.replied.injEq] at hmem
    rcases hmem with ⟨rfl, rfl⟩ | hmem
    · exact hsupported.unstarted houtcome
    · exact hr.unstarted other result' hmem houtcome

theorem PhaseInvariant.trySend (h : PhaseInvariant s)
    (hsupported : Supported (s.permits request.permit) result) {next : SessionTask}
    (hnext : ∀ s, TaskSound s next) : PhaseInvariant (s.trySend request result next) := by
  simp only [PhaseSystem.trySend]
  cases hsend : (s.channels request.responseTx).trySend result with
  | mk accepted channel =>
    cases accepted with
    | false =>
      exact ⟨h.recorded.of_same rfl rfl rfl, hnext _⟩
    | true =>
      exact ⟨(h.recorded.replied hsupported).of_same rfl rfl rfl, hnext _⟩

/-! ### The pass -/

theorem Recorded.ranPass (hr : Recorded s) (htask : TaskSound s (.running request)) :
    Recorded (s.record (.effects request)) := by
  obtain ⟨haccepts, hfresh, hrunning⟩ := htask
  have hclaimed : PhaseEvent.claimed request.permit ∈ s.log :=
    (hr.claimed request.permit).mpr (by rw [hrunning]; rfl)
  refine ⟨?_, ?_, ?_, ?_, ?_, ?_, ?_⟩
  · intro permit
    simpa [PhaseSystem.record] using hr.claimed permit
  · intro permit hmem
    exact hr.revoked permit (by simpa [PhaseSystem.record] using hmem)
  · intro other earlier hsuffix
    rcases List.suffix_cons_iff.mp hsuffix with heq | hsuffix
    · cases heq
      exact hclaimed
    · exact hr.claimedFirst other earlier hsuffix
  · intro other hmem
    rcases List.mem_cons.mp hmem with rfl | hmem
    · exact haccepts
    · exact hr.covered other hmem
  · exact List.nodup_cons.mpr ⟨hfresh, hr.once⟩
  · intro other result hmem houtcome
    exact hr.ran other result (by simpa [PhaseSystem.record] using hmem) houtcome
  · intro other result hmem houtcome
    exact hr.unstarted other result (by simpa [PhaseSystem.record] using hmem) houtcome

theorem PhaseInvariant.runPass (h : PhaseInvariant s) (summary : PassSummary) (view : SessionView) :
    PhaseInvariant (s.runPass summary view) := by
  rw [PhaseSystem.runPass]
  cases htask : s.task with
  | running request =>
    have hsound := h.task
    rw [htask] at hsound
    refine ⟨(h.recorded.ranPass hsound).of_same rfl rfl rfl, ?_⟩
    simp only
    split
    · exact ⟨outcome_result .., hsound.2.2⟩
    · exact ⟨outcome_result .., hsound.2.2⟩
  | parked | refusing _ | claiming _ | completing _ _ | replying _ _ | refusingAtShutdown _
  | readingPermit _ | pendingFinalization _ _ | acknowledging _ _ | finished => exact h

/-! ### Permits -/

theorem refuseBeforeStart_cases (word : PermitState) :
    (word = pending ∧ word.refuseBeforeStart = (true, refusedBeforeStart)) ∨
      (word ≠ pending ∧ word.refuseBeforeStart = (false, word)) := by
  cases word <;> decide

theorem supported_completed (h : result.outcome = .ran) : Supported completed result := by
  refine ⟨fun _ => rfl, ?_⟩
  rintro (hcontra | hcontra) <;>
  · rw [h] at hcontra
    cases hcontra

theorem PhaseInvariant.completeFinalization (h : PhaseInvariant s) :
    PhaseInvariant s.completeFinalization := by
  rw [PhaseSystem.completeFinalization]
  cases htask : s.task with
  | pendingFinalization request result =>
    have hsound := h.task
    rw [htask] at hsound
    simp only [hsound.2]
    have hmove : PermitMove request.permit (s.permits request.permit) completed [] := by
      rw [hsound.2]
      exact .complete
    refine h.moveOn hmove ?_
    simp only [TaskSound, moved_permits]
    exact supported_completed hsound.1
  | parked | refusing _ | claiming _ | running _ | completing _ _ | replying _ _
  | refusingAtShutdown _ | readingPermit _ | acknowledging _ _ | finished => exact h

theorem PhaseInvariant.refused (h : PhaseInvariant s)
    (hclaimed : (s.permits request.permit).claimed = false) :
    PhaseInvariant
      { s.setPermit request.permit (s.permits request.permit).refuseBeforeStart.2 with
        task := s.declined request .refusedBeforeStart } := by
  rcases refuseBeforeStart_cases (s.permits request.permit) with ⟨hword, hrefuse⟩ | ⟨hword, hrefuse⟩
  · rw [hrefuse]
    have hmove : PermitMove request.permit (s.permits request.permit) refusedBeforeStart [] := by
      rw [hword]
      exact .refuse
    refine h.moveOn hmove (supported_declined (by decide) fun _ => ?_)
    rw [moved_permits]
    rfl
  · rw [hrefuse, PhaseSystem.setPermit, Function.update_eq_self]
    refine h.goOn (supported_declined (by decide) fun _ => ?_)
    cases hpermit : s.permits request.permit <;> rw [hpermit] at hclaimed hword
    · exact absurd rfl hword
    · cases hclaimed
    · cases hclaimed
    · rfl
    · rfl
    · cases hclaimed

theorem PhaseInvariant.claimed (h : PhaseInvariant s) (htask : s.task = .claiming request) :
    PhaseInvariant s.advance := by
  have hsound := h.task
  rw [htask] at hsound
  rw [PhaseSystem.advance, htask]
  cases hword : s.permits request.permit with
  | pending =>
    simp only [hword]
    have hmove : PermitMove request.permit (s.permits request.permit) PermitState.running
        [.claimed request.permit] := by
      rw [hword]
      exact .claim
    have hnext : TaskSound (s.moved request.permit PermitState.running [.claimed request.permit])
        (.running request) := ⟨hsound.1, hsound.2, moved_permits ..⟩
    exact h.moveOn hmove hnext
  | revokedBeforeStart =>
    simp only [hword]
    have hnext : TaskSound s (s.declined request .revokedBeforeStart) := by
      refine supported_declined (by decide) fun _ => ?_
      rw [hword]
      rfl
    exact h.goOn hnext
  | running | completed | refusedBeforeStart | interruptedAfterStart =>
    simp only [hword]
    have hnext : TaskSound s (s.declined request .alreadyResolved) := by
      refine supported_declined (by decide) ?_
      rintro (hcontra | hcontra) <;> cases hcontra
    exact h.goOn hnext

theorem PhaseInvariant.advance (h : PhaseInvariant s) : PhaseInvariant s.advance := by
  have hsound := h.task
  cases htask : s.task with
  | claiming request => exact h.claimed htask
  | refusing request =>
    rw [htask] at hsound
    rw [PhaseSystem.advance, htask]
    exact h.refused hsound
  | completing request result =>
    rw [htask] at hsound
    rw [PhaseSystem.advance, htask]
    simp only [hsound.2]
    have hmove : PermitMove request.permit (s.permits request.permit) completed [] := by
      rw [hsound.2]
      exact .complete
    refine h.moveOn hmove ?_
    simp only [TaskSound, moved_permits]
    exact supported_completed hsound.1
  | replying request result =>
    rw [htask] at hsound
    rw [PhaseSystem.advance, htask]
    exact h.trySend hsound fun _ => trivial
  | acknowledging request result =>
    rw [htask] at hsound
    rw [PhaseSystem.advance, htask]
    exact h.trySend hsound fun _ => trivial
  | refusingAtShutdown request =>
    rw [PhaseSystem.advance, htask]
    simp only
    rcases refuseBeforeStart_cases (s.permits request.permit) with
      ⟨hword, hrefuse⟩ | ⟨hword, hrefuse⟩
    · rw [hrefuse]
      have hclaimed : (s.permits request.permit).claimed = false := by
        rw [hword]
        rfl
      have hrefused := h.refused hclaimed
      rw [hrefuse] at hrefused
      exact hrefused
    · rw [hrefuse]
      exact h.goOn trivial
  | readingPermit request =>
    rw [PhaseSystem.advance, htask]
    refine h.goOn (supported_declined ?_ ?_)
    · cases s.permits request.permit <;> decide
    · cases hword : s.permits request.permit with
      | revokedBeforeStart => exact fun _ => rfl
      | refusedBeforeStart => exact fun _ => rfl
      | pending | running | completed | interruptedAfterStart =>
        rintro (hcontra | hcontra) <;> cases hcontra
  | parked | running _ | pendingFinalization _ _ | finished =>
    rw [PhaseSystem.advance, htask]
    exact h

/-! ## The result -/

theorem PhaseInvariant.of_same (h : PhaseInvariant s) (hpermits : s'.permits = s.permits)
    (hauthority : s'.lastPhaseAuthority = s.lastPhaseAuthority) (htask : s'.task = s.task)
    (hlog : s'.log = s.log) : PhaseInvariant s' := by
  refine ⟨h.recorded.of_same hpermits hauthority hlog, ?_⟩
  rw [htask]
  exact h.task.of_same hpermits hauthority hlog

theorem PhaseInvariant.step (s : PhaseSystem) (op : PhaseOp) (h : PhaseInvariant s)
    (hop : RefusesUnclaimed s op) : PhaseInvariant (phaseStep s op) := by
  cases op with
  | deliver request => exact h.of_same rfl rfl rfl rfl
  | revoke permit => exact h.revoke permit
  | receive channel => exact h.of_same rfl rfl rfl rfl
  | hangUp channel => exact h.of_same rfl rfl rfl rfl
  | observe view => exact h.of_same rfl rfl rfl rfl
  | take => exact h.take hop
  | takeAtShutdown => exact h.takeAtShutdown
  | advance => exact h.advance
  | runPass summary view => exact h.runPass summary view
  | completeFinalization => exact h.completeFinalization

/-- No request has been handled yet. -/
structure Starting (s : PhaseSystem) : Prop where
  permits : ∀ permit, s.permits permit = pending
  task : s.task = .parked
  log : s.log = []

theorem Starting.invariant (h : Starting s) : PhaseInvariant s := by
  refine ⟨⟨?_, ?_, ?_, ?_, ?_, ?_, ?_⟩, ?_⟩
  · intro permit
    simp [h.log, h.permits permit, PermitState.claimed]
  · simp [h.log]
  · simp [h.log]
  · simp [h.log, effectsOf]
  · simp [h.log, effectsOf]
  · simp [h.log]
  · simp [h.log]
  · rw [h.task]
    trivial

/-- In every interleaving in which no request with a claimed permit is refused as stale, the
permits are exact at every moment. -/
theorem phase_permits_exact (s : PhaseSystem) (hstart : Starting s) (ops : List PhaseOp)
    (hops : EachStep phaseStep RefusesUnclaimed s ops) :
    ∀ ops', ops' <+: ops → PermitsExact (run phaseStep s ops') := by
  intro ops' hinit
  exact (run_invariant PhaseInvariant PhaseInvariant.step hstart.invariant
    (hops.of_initial hinit)).recorded.exact

def sessionWithRail (rail : List SessionPhaseRequest) : PhaseSystem where
  permits := fun _ => pending
  channels := fun _ => ⟨none, true⟩
  rail := rail
  view := ⟨none, none, none, none, false⟩
  lastPhaseAuthority := fun _ => none
  task := .parked
  log := []

theorem starting_sessionWithRail (rail : List SessionPhaseRequest) :
    Starting (sessionWithRail rail) := ⟨fun _ => rfl, rfl, rfl⟩

/-- The map pass of step 1, admitted for a player. -/
def mapAdmission (guid : ObjectGuid) : MapPhaseAdmission :=
  ⟨1, 1, .map, ⟨guid, 1⟩, ⟨guid, 1⟩, ⟨0, 0⟩, 1, 1⟩

/-- A world pass runs, and a map pass for a player that is gone is refused. -/
theorem phase_permits_exact_sample :
    PermitsExact (run phaseStep
      (sessionWithRail [.world 1 1 0 0, .map (mapAdmission ⟨0, 1⟩) 1 1])
      [.take, .advance, .revoke 0, .runPass ⟨2, false⟩ ⟨none, none, none, none, false⟩,
        .advance, .advance, .take, .advance, .advance]) := by
  refine phase_permits_exact _ (starting_sessionWithRail _) _ ?_ _ List.prefix_rfl
  refine ⟨?_, trivial, trivial, trivial, trivial, trivial, ?_, trivial, trivial, trivial⟩
  · intro request rail _ hrail hstale
    cases hrail
    cases hstale
  · intro request rail _ hrail _
    cases hrail
    rfl

/-- The same world request is delivered twice. The second one finds the watermark of the first,
and is reported as refused before its start, although its permit has been claimed. -/
theorem phase_permits_not_exact :
    Starting (sessionWithRail [.world 1 1 0 0, .world 1 1 0 0]) ∧
    ¬ PermitsExact (run phaseStep (sessionWithRail [.world 1 1 0 0, .world 1 1 0 0])
      [.take, .advance, .runPass ⟨0, false⟩ ⟨none, none, none, none, false⟩, .advance, .advance,
        .receive 0, .take, .advance, .advance]) := by
  refine ⟨starting_sessionWithRail _, fun h => ?_⟩
  refine h.neverClaimed (.world 1 1 0 0) (.world 1 1 .refusedBeforeStart 0 false) ?_ (.inr rfl) ?_
  · decide
  · decide

end RustyCore.Session
