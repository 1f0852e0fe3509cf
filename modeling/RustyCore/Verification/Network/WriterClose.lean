import RustyCore.Verification.Network.WriteFence

/-! # The end of the writer

Once the flag is set nothing is acknowledged any more, and the map that `Drop` clears stays
empty: a call that comes too late sees the flag under the lock. -/

namespace RustyCore.Network

namespace FenceSystem

/-- The flag and the map follow the end of the writer. -/
structure Closing (s : FenceSystem) : Prop where
  flag : s.fence.writerClosed = true ↔
    s.writer = .flagSet ∨ s.writer = .cleared ∨ s.writer = .gone
  empty : s.writer = .cleared ∨ s.writer = .gone → ∀ id, s.fence.pending.lookup id = none

theorem Closing.initial : FenceSystem.initial.Closing where
  flag := iff_of_false nofun (by simp [FenceSystem.initial])
  empty := fun _ _ => rfl

section Closing

variable {s s' : FenceSystem} (h : s.Closing)

include h

theorem Closing.of_same (hwriter : s'.writer = s.writer)
    (hflag : s'.fence.writerClosed = s.fence.writerClosed)
    (hempty : (∀ id, s.fence.pending.lookup id = none) → s'.fence.pending = s.fence.pending) :
    s'.Closing where
  flag := by
    rw [hwriter, hflag]
    exact h.flag
  empty := by
    intro hphase
    rw [hwriter] at hphase
    have hnone := h.empty hphase
    rw [hempty hnone]
    exact hnone

omit h in
theorem pending_removePending (hnone : ∀ id, s.fence.pending.lookup id = none)
    (id : BitVec 64) (outcome : Oneshot) :
    (s.removePending id outcome).fence.pending = s.fence.pending := by
  rw [removePending_of_none s id outcome (hnone id)]

theorem Closing.removePending (id : BitVec 64) (outcome : Oneshot) :
    (s.removePending id outcome).Closing := by
  obtain ⟨-, hwriter, -, -, -, -, hflag, -⟩ := s.removePending_frame id outcome
  exact h.of_same hwriter hflag fun hnone => pending_removePending hnone id outcome

theorem Closing.finish (i : ℕ) (w : FenceWait) (phase : WaitPhase) :
    (s.finish i w phase).Closing :=
  (h.removePending w.id .senderDropped).of_same rfl rfl fun _ => rfl

/-- The flag is read in the critical section that inserts. -/
theorem Closing.register (i : ℕ) (w : FenceWait) : (s.register i w).Closing := by
  rw [FenceSystem.register]
  split
  case isTrue => exact h.of_same rfl rfl fun _ => rfl
  case isFalse hopen =>
    obtain ⟨-, hwriter, -, -, -, -, hflag, -⟩ := s.removePending_frame w.id .senderDropped
    have hlive : ¬(s.writer = .flagSet ∨ s.writer = .cleared ∨ s.writer = .gone) :=
      mt h.flag.mpr hopen
    refine ⟨?_, fun hphase => ?_⟩
    · exact ((h.removePending w.id .senderDropped)).flag
    · exact absurd (.inr (hwriter ▸ hphase)) hlive

theorem Closing.waitStep (i : ℕ) (w : FenceWait) (action : WaitAction) :
    (s.waitStep i w action).Closing := by
  cases action with
  | register =>
    rw [FenceSystem.waitStep]
    split
    · exact h.register i w
    · exact h
  | sendMarker =>
    rw [FenceSystem.waitStep]
    split
    · split
      · exact h.finish i w _
      · exact h.of_same rfl rfl fun _ => rfl
    · exact h
  | returnWait =>
    rw [FenceSystem.waitStep]
    split
    · cases w.acknowledgement with
      | acknowledged | senderDropped => exact h.finish i w _
      | empty => exact h
    · exact h
  | timeOut | cancel =>
    rw [FenceSystem.waitStep]
    split
    · exact h.finish i w _
    · exact h

omit h in
theorem Closing.of_live (hflag : s'.fence.writerClosed = false)
    (hlive : s'.writer ≠ .flagSet ∧ s'.writer ≠ .cleared ∧ s'.writer ≠ .gone) : s'.Closing where
  flag := by simp [hflag, hlive]
  empty := by simp [hlive]

theorem Closing.writerClosed_of_live
    (hlive : ¬(s.writer = .flagSet ∨ s.writer = .cleared ∨ s.writer = .gone)) :
    s.fence.writerClosed = false := by
  simpa using mt h.flag.mp hlive

theorem Closing.writerStep (action : WriterAction) : (s.writerStep action).Closing := by
  cases action with
  | receive =>
    rw [FenceSystem.writerStep]
    split
    case h_1 hwriter _ =>
      exact Closing.of_live (h.writerClosed_of_live (by simp [hwriter])) (by simp)
    case h_2 => exact h
  | acknowledge =>
    rw [FenceSystem.writerStep]
    split
    case h_1 data hwriter =>
      have hopen := h.writerClosed_of_live (by simp [hwriter])
      dsimp only
      rw [acknowledgeMarker]
      cases markerId data with
      | none => exact h
      | some id =>
        obtain ⟨-, -, -, -, -, -, hflag, -⟩ := s.removePending_frame id .acknowledged
        exact Closing.of_live (hflag.trans hopen) (by simp)
    case h_2 => exact h
  | beginWrite =>
    rw [FenceSystem.writerStep]
    split
    case h_1 data hwriter =>
      have hopen := h.writerClosed_of_live (by simp [hwriter])
      split
      · exact h
      · exact Closing.of_live hopen (by simp)
    case h_2 => exact h
  | writeOk | writeErr =>
    rw [FenceSystem.writerStep]
    split
    case h_1 data hwriter =>
      exact Closing.of_live (h.writerClosed_of_live (by simp [hwriter])) (by simp)
    case h_2 => exact h
  | stopWriter =>
    rw [FenceSystem.writerStep]
    split
    case h_4 => exact h
    all_goals
      rename_i hwriter
      exact Closing.of_live (h.writerClosed_of_live (by simp [hwriter])) (by simp)
  | setClosed =>
    rw [FenceSystem.writerStep]
    split
    · exact ⟨by simp, by simp⟩
    · exact h
  | clearPending =>
    rw [FenceSystem.writerStep]
    split
    case isTrue hwriter =>
      exact ⟨by simpa [hwriter, FenceSystem.clearPending] using h.flag, fun _ _ => rfl⟩
    case isFalse => exact h
  | dropReceiver =>
    rw [FenceSystem.writerStep]
    split
    case isTrue hwriter =>
      exact ⟨by simpa [hwriter] using h.flag, fun _ => h.empty (.inl hwriter)⟩
    case isFalse => exact h

theorem Closing.step (action : FenceAction) : (s.step action).Closing := by
  cases action with
  | sendPacket data =>
    rw [FenceSystem.step]
    split
    · exact h
    · exact h.of_same rfl rfl fun _ => rfl
  | startWait => exact h.of_same rfl rfl fun _ => rfl
  | wait index action =>
    rw [FenceSystem.step]
    cases s.waits[index]? with
    | none => exact h
    | some w => exact h.waitStep index w action
  | writer action => exact h.writerStep action

end Closing

/-! ## Runs -/

/-- What every step of every task keeps. -/
structure Sound (s : FenceSystem) : Prop where
  registered : s.Registered
  flow : s.Flow
  closing : s.Closing

/-- The one step of the environment that is restricted: packets do not look like markers. -/
def PacketsApart (_ : FenceSystem) (action : FenceAction) : Prop :=
  ∀ data, action = .sendPacket data → ¬writeFencePrefix <+: data

theorem sound_step {s : FenceSystem} (h : s.Sound) {action : FenceAction}
    (hapart : s.PacketsApart action) (hfewer : (s.step action).waits.length < 2 ^ 64) :
    (s.step action).Sound where
  registered := h.registered.step action hfewer
  flow := h.flow.step h.registered action hapart
  closing := h.closing.step action

theorem waitStep_frame (s : FenceSystem) (i : ℕ) (w : FenceWait) (action : WaitAction) :
    (s.waitStep i w action).waits.length = s.waits.length ∧
      (s.waitStep i w action).fence.writerClosed = s.fence.writerClosed := by
  obtain ⟨-, -, -, -, -, -, hflag, hlength⟩ := s.removePending_frame w.id .senderDropped
  have hfinish : ∀ phase, (s.finish i w phase).waits.length = s.waits.length ∧
      (s.finish i w phase).fence.writerClosed = s.fence.writerClosed := fun phase =>
    ⟨by simpa [FenceSystem.finish, setPhase, modifyWait] using hlength, hflag⟩
  cases action with
  | register =>
    rw [waitStep]
    split
    · rw [register]
      split
      · exact ⟨by simp [setPhase, modifyWait], rfl⟩
      · exact ⟨by simpa [setPhase, modifyWait] using hlength, hflag⟩
    · exact ⟨rfl, rfl⟩
  | sendMarker =>
    rw [waitStep]
    split
    · split
      · exact hfinish _
      · exact ⟨by simp [setPhase, modifyWait], rfl⟩
    · exact ⟨rfl, rfl⟩
  | returnWait =>
    rw [waitStep]
    split
    · cases w.acknowledgement with
      | acknowledged | senderDropped => exact hfinish _
      | empty => exact ⟨rfl, rfl⟩
    · exact ⟨rfl, rfl⟩
  | timeOut | cancel =>
    rw [waitStep]
    split
    · exact hfinish _
    · exact ⟨rfl, rfl⟩

theorem writerStep_frame (s : FenceSystem) (action : WriterAction) :
    (s.writerStep action).waits.length = s.waits.length ∧
      (s.fence.writerClosed = true → (s.writerStep action).fence.writerClosed = true) := by
  cases action with
  | acknowledge =>
    rw [writerStep]
    split
    case h_1 data _ =>
      dsimp only
      rw [acknowledgeMarker]
      cases markerId data with
      | none => exact ⟨rfl, id⟩
      | some id =>
        obtain ⟨-, -, -, -, -, -, hflag, hlength⟩ := s.removePending_frame id .acknowledged
        exact ⟨hlength, hflag.trans⟩
    case h_2 => exact ⟨rfl, id⟩
  | beginWrite =>
    rw [writerStep]
    split
    · split
      all_goals exact ⟨rfl, id⟩
    · exact ⟨rfl, id⟩
  | setClosed =>
    rw [writerStep]
    split
    · exact ⟨rfl, fun _ => rfl⟩
    · exact ⟨rfl, id⟩
  | clearPending =>
    rw [writerStep]
    split
    · exact ⟨by simp [FenceSystem.clearPending], id⟩
    · exact ⟨rfl, id⟩
  | receive | writeOk | writeErr | stopWriter | dropReceiver =>
    rw [writerStep]
    split
    all_goals exact ⟨rfl, id⟩

theorem step_frame (s : FenceSystem) (action : FenceAction) :
    s.waits.length ≤ (s.step action).waits.length ∧
      (s.fence.writerClosed = true → (s.step action).fence.writerClosed = true) := by
  cases action with
  | sendPacket data =>
    rw [step]
    split
    all_goals exact ⟨le_rfl, id⟩
  | startWait => exact ⟨by simp [step, FenceSystem.startWait], id⟩
  | wait index action =>
    rw [step]
    cases s.waits[index]? with
    | none => exact ⟨le_rfl, id⟩
    | some w =>
      obtain ⟨hlength, hflag⟩ := waitStep_frame s index w action
      exact ⟨hlength.ge, hflag.trans⟩
  | writer action =>
    obtain ⟨hlength, hflag⟩ := writerStep_frame s action
    exact ⟨hlength.ge, hflag⟩

section Runs

variable {s : FenceSystem} {actions : List FenceAction}
  (hapart : EachStep step PacketsApart s actions)
  (hfewer : (run step s actions).waits.length < 2 ^ 64)

include hapart hfewer

theorem sound_run (h : s.Sound) : (run step s actions).Sound :=
  run_invariant_below (fun _ => True) Sound (fun _ _ _ => trivial) (fun s => s.waits.length)
    (2 ^ 64) (fun s action _ => (step_frame s action).1)
    (fun _ _ _ hsound hapart hfewer => sound_step hsound hapart hfewer) trivial h hapart hfewer

theorem onward_run_of_closed (h : s.Sound) (hclosed : s.fence.writerClosed = true) :
    Onward s (run step s actions) := by
  have hrun := run_invariant_below (fun _ => True)
    (fun s' => s'.Sound ∧ s'.fence.writerClosed = true ∧ Onward s s') (fun _ _ _ => trivial)
    (fun s => s.waits.length) (2 ^ 64) (fun s action _ => (step_frame s action).1)
    (fun s' action _ hs' hapart hfewer => ?_) trivial ⟨h, hclosed, Onward.of_same rfl⟩ hapart hfewer
  · exact hrun.2.2
  · obtain ⟨hsound, hclosed', honward⟩ := hs'
    refine ⟨sound_step hsound hapart hfewer, (step_frame s' action).2 hclosed', honward.trans ?_⟩
    refine Onward.step hsound.registered fun _ data hwriter => ?_
    have hend := hsound.closing.flag.mp hclosed'
    simp [hwriter] at hend

end Runs

/-- Before the marker of an acknowledged call nothing is left to write. -/
theorem Flow.written_before {s : FenceSystem} (h : s.Flow) {i : ℕ} {w : FenceWait}
    (hw : s.waits[i]? = some w) (hack : w.acknowledgement = .acknowledged)
    {before after : List Enqueued} (hall : s.enqueued = before ++ Enqueued.fence i :: after) :
    packetsOf before <+: s.written := by
  obtain ⟨before', after', hall', hwritten⟩ := h.acknowledged i w hw hack
  have honce := h.once
  rw [hall, fencesOf, List.filterMap_append, List.filterMap_cons] at honce
  have hbefore : Enqueued.fence i ∉ before := fun hmem =>
    (List.nodup_append.mp honce).2.2 i (mem_fencesOf.mpr hmem) i List.mem_cons_self rfl
  have hafter : Enqueued.fence i ∉ after := fun hmem =>
    (List.nodup_cons.mp (List.nodup_append.mp honce).2.1).1 (mem_fencesOf.mpr hmem)
  rw [hall] at hall'
  obtain ⟨rfl, -⟩ := List.append_cons_inj_of_notMem hbefore hafter |>.mp hall'
  exact hwritten

end FenceSystem

open FenceSystem in
/-- For every interleaving of sends, waits, timeouts, cancellations and steps of the writer:
a call that returned `written` has every packet before its marker written; no marker is
written and the packets are, once and in order; a close leaves no later acknowledgement;
and the map holds the calls that still run and were neither acknowledged nor woken. -/
theorem writeFence_sound (actions : List FenceAction)
    (hapart : ∀ data, FenceAction.sendPacket data ∈ actions → ¬writeFencePrefix <+: data)
    (hfewer : (run step initial actions).waits.length < 2 ^ 64) :
    (∀ (i : ℕ) (w : FenceWait), (run step initial actions).waits[i]? = some w →
      w.phase = .finished .written →
      Enqueued.fence i ∈ (run step initial actions).enqueued ∧
      ∀ before after, (run step initial actions).enqueued = before ++ .fence i :: after →
        packetsOf before <+: (run step initial actions).written) ∧
    ((∀ data ∈ (run step initial actions).passed, markerId data = none) ∧
      (run step initial actions).passed <+: packetsOf (run step initial actions).enqueued ∧
      (run step initial actions).written <+: (run step initial actions).passed) ∧
    (∀ earlier later, actions = earlier ++ later →
      (run step initial earlier).fence.writerClosed = true →
      ∀ (i : ℕ) (w : FenceWait), (run step initial actions).waits[i]? = some w →
        w.phase = .finished .written →
        ∃ w' : FenceWait, (run step initial earlier).waits[i]? = some w' ∧
          w'.acknowledgement = .acknowledged) ∧
    ∀ id i, (run step initial actions).fence.pending.lookup id = some i ↔
      ∃ w : FenceWait, (run step initial actions).waits[i]? = some w ∧ w.id = id ∧
        w.running = true ∧ w.acknowledgement = .empty := by
  have hsteps : ∀ s, EachStep step PacketsApart s actions :=
    EachStep.of_forall fun action haction _ data hdata => hapart data (hdata ▸ haction)
  have hinitial : initial.Sound := ⟨Registered.initial, Flow.initial, Closing.initial⟩
  have hsound := sound_run (hsteps initial) hfewer hinitial
  refine ⟨?_, ⟨?_, hsound.flow.passed, hsound.flow.written⟩, ?_, hsound.registered.pending⟩
  · intro i w hw hphase
    have hack := hsound.registered.written i w hw hphase
    refine ⟨?_, fun before after hall => hsound.flow.written_before hw hack hall⟩
    obtain ⟨before, after, hall, -⟩ := hsound.flow.acknowledged i w hw hack
    simp [hall]
  · intro data hdata
    have hmem := hsound.flow.passed.subset hdata
    obtain ⟨e, he, hpacket⟩ := List.mem_filterMap.mp hmem
    cases e with
    | packet data' =>
      cases hpacket
      exact markerId_of_not_prefix (hsound.flow.packets data he)
    | fence i => cases hpacket
  · rintro earlier later rfl hclosed i w hw hphase
    rw [run_append] at hfewer hsound hw
    obtain ⟨hearlier, hlater⟩ := (eachStep_append step PacketsApart initial earlier later).mp
      (hsteps initial)
    have hfewer' := (le_run_of_monotone (fun _ => True) (fun _ _ _ => trivial)
      (fun s : FenceSystem => s.waits.length) (fun s action _ => (step_frame s action).1)
      trivial later).trans_lt hfewer
    have honward := onward_run_of_closed hlater hfewer (sound_run hearlier hfewer' hinitial) hclosed
    exact honward.acknowledged i w hw (hsound.registered.written i w hw hphase)

/-- A packet, a fence behind it, and the end of the writer. -/
def fencedRun : List FenceSystem.FenceAction :=
  [.sendPacket [1], .startWait, .wait 0 .register, .wait 0 .sendMarker, .writer .receive,
    .writer .beginWrite, .writer .writeOk, .writer .receive, .writer .acknowledge,
    .wait 0 .returnWait, .writer .stopWriter, .writer .setClosed]

open FenceSystem in
theorem writeFence_sound_sample :
    (run step initial fencedRun).enqueued = [.packet [1]] ++ .fence 0 :: [] ∧
    packetsOf [.packet [1]] <+: (run step initial fencedRun).written := by
  have hsound := writeFence_sound fencedRun (by simp [fencedRun, writeFencePrefix]) (by decide)
  exact ⟨rfl, (hsound.1 0 ⟨0, .finished .written, .acknowledged⟩ rfl rfl).2 _ [] rfl⟩

end RustyCore.Network
