import RustyCore.Library.Run
import RustyCore.Model.Group.Loading
import RustyCore.Verification.Group.Edits

/-! # The ready-check protocol

A check that has ended leaves nothing behind, one that runs has time left, and each
check that was started is completed exactly once or still running. -/

namespace RustyCore.Group

def ReadyCheckEvent.isStarted : ReadyCheckEvent → Bool
  | .started .. => true
  | _ => false

def ReadyCheckEvent.isCompleted : ReadyCheckEvent → Bool
  | .completed .. => true
  | _ => false

/-- How many checks were started. -/
def startedCount (events : List ReadyCheckEvent) : ℕ := events.countP ReadyCheckEvent.isStarted

/-- How many checks were completed. -/
def completedCount (events : List ReadyCheckEvent) : ℕ := events.countP ReadyCheckEvent.isCompleted

@[simp] theorem startedCount_append (events events' : List ReadyCheckEvent) :
    startedCount (events ++ events') = startedCount events + startedCount events' :=
  List.countP_append

@[simp] theorem completedCount_append (events events' : List ReadyCheckEvent) :
    completedCount (events ++ events') = completedCount events + completedCount events' :=
  List.countP_append

namespace GroupInfo

/-- No check runs and none has left a trace. -/
structure Idle (group : GroupInfo) : Prop where
  stopped : group.readyCheckStarted = false
  timer : group.readyCheckTimerMs = 0
  unready : ∀ slot ∈ group.memberSlots, slot.readyChecked = false

/-- A check runs and has time left. -/
structure Running (group : GroupInfo) : Prop where
  started : group.readyCheckStarted = true
  timer_pos : 1 ≤ group.readyCheckTimerMs
  timer_le : group.readyCheckTimerMs ≤ readycheckDurationMs

def ReadyState (group : GroupInfo) : Prop := group.Idle ∨ group.Running

/-- The number of running checks. -/
def openChecks (group : GroupInfo) : ℕ := if group.readyCheckStarted then 1 else 0

variable {group : GroupInfo}

theorem Idle.openChecks (h : group.Idle) : group.openChecks = 0 := by
  rw [GroupInfo.openChecks, h.stopped]
  rfl

theorem Running.openChecks (h : group.Running) : group.openChecks = 1 := by
  rw [GroupInfo.openChecks, if_pos h.started]

/-! ## Groups in which no check has been started -/

theorem idle_new (groupGuid dbStoreId : ℕ) (leader : ObjectGuid) :
    (GroupInfo.new groupGuid dbStoreId leader).Idle :=
  ⟨rfl, rfl, fun slot hslot => by rw [List.mem_singleton.mp hslot]; rfl⟩

/-- A change of the roster keeps the check, and every slot it adds is unready. -/
structure RosterChange (group changed : GroupInfo) : Prop where
  started : changed.readyCheckStarted = group.readyCheckStarted
  timer : changed.readyCheckTimerMs = group.readyCheckTimerMs
  slots : ∀ slot ∈ changed.memberSlots, slot ∈ group.memberSlots ∨ slot.readyChecked = false

namespace RosterChange

theorem refl (group : GroupInfo) : RosterChange group group := ⟨rfl, rfl, fun _ h => .inl h⟩

variable {changed : GroupInfo}

theorem idle (h : RosterChange group changed) (hidle : group.Idle) : changed.Idle where
  stopped := h.started.trans hidle.stopped
  timer := h.timer.trans hidle.timer
  unready := fun slot hslot => (h.slots slot hslot).elim (hidle.unready slot) id

theorem running (h : RosterChange group changed) (hrunning : group.Running) : changed.Running where
  started := h.started.trans hrunning.started
  timer_pos := h.timer ▸ hrunning.timer_pos
  timer_le := h.timer ▸ hrunning.timer_le

theorem readyState (h : RosterChange group changed) (hstate : group.ReadyState) :
    changed.ReadyState :=
  hstate.imp h.idle h.running

theorem openChecks (h : RosterChange group changed) : changed.openChecks = group.openChecks := by
  rw [GroupInfo.openChecks, h.started]
  rfl

end RosterChange

theorem rosterChange_addMember (group : GroupInfo) (guid : ObjectGuid) :
    RosterChange group ((group.addMember guid).getD group) := by
  cases hadd : group.addMember guid with
  | none => exact .refl group
  | some joined =>
    obtain ⟨-, subgroup, counts, -, -, rfl⟩ := addMember_eq hadd
    refine ⟨rfl, rfl, fun slot hslot => ?_⟩
    rcases List.mem_append.mp hslot with hslot | hslot
    · exact .inl hslot
    · exact .inr (by rw [List.mem_singleton.mp hslot]; rfl)

theorem rosterChange_removeMember (group : GroupInfo) (guid : ObjectGuid) :
    RosterChange group (group.removeMember guid) := by
  obtain ⟨counts, hremoved⟩ := group.removeMember_eq guid
  rw [hremoved]
  exact ⟨rfl, rfl, fun slot hslot => .inl (List.mem_of_mem_filter hslot)⟩

/-! ## Inside one call

The parts of a call work on the group and the events so far. None of them starts a
check, and a check that ends is reported as completed. -/

/-- From one point of a call to a later one. -/
structure Progress (before after : GroupInfo × List ReadyCheckEvent) : Prop where
  state : before.1.ReadyState → after.1.ReadyState
  started : startedCount after.2 = startedCount before.2
  completed : completedCount after.2 + after.1.openChecks =
    completedCount before.2 + before.1.openChecks

namespace Progress

variable {a b c : GroupInfo × List ReadyCheckEvent}

theorem refl (a : GroupInfo × List ReadyCheckEvent) : Progress a a := ⟨id, rfl, rfl⟩

theorem trans (h : Progress a b) (h' : Progress b c) : Progress a c :=
  ⟨h'.state ∘ h.state, h'.started.trans h.started, h'.completed.trans h.completed⟩

theorem foldl {f : GroupInfo × List ReadyCheckEvent → ℕ → GroupInfo × List ReadyCheckEvent}
    (hf : ∀ state index, Progress state (f state index)) (indices : List ℕ)
    (state : GroupInfo × List ReadyCheckEvent) : Progress state (indices.foldl f state) := by
  induction indices generalizing state with
  | nil => exact .refl state
  | cons index indices ih => exact (hf state index).trans (ih (f state index))

end Progress

theorem idle_endReadyCheck (h : group.readyCheckStarted = true) (events : List ReadyCheckEvent) :
    (group.endReadyCheckLikeCpp events).1.Idle := by
  unfold endReadyCheckLikeCpp
  rw [h]
  refine ⟨rfl, rfl, fun slot hslot => ?_⟩
  obtain ⟨before, -, rfl⟩ := List.mem_map.mp hslot
  rfl

theorem events_endReadyCheck (h : group.readyCheckStarted = true) (events : List ReadyCheckEvent) :
    (group.endReadyCheckLikeCpp events).2 = events ++ [.completed 0 group.groupGuid] := by
  unfold endReadyCheckLikeCpp
  rw [h]
  rfl

theorem progress_endReadyCheck (group : GroupInfo) (events : List ReadyCheckEvent) :
    Progress (group, events) (group.endReadyCheckLikeCpp events) := by
  cases hstarted : group.readyCheckStarted with
  | false =>
    unfold endReadyCheckLikeCpp
    rw [hstarted]
    exact .refl _
  | true =>
    have hidle := idle_endReadyCheck hstarted events
    refine ⟨fun _ => .inl hidle, ?_, ?_⟩
    · rw [events_endReadyCheck hstarted, startedCount_append]
      rfl
    · rw [hidle.openChecks, events_endReadyCheck hstarted, completedCount_append, openChecks,
        hstarted]
      rfl

theorem progress_setMemberReadyChecked (h : group.readyCheckStarted = true) (slotIndex : ℕ)
    (events : List ReadyCheckEvent) :
    Progress (group, events) (group.setMemberReadyCheckedLikeCpp slotIndex events) := by
  -- A running check may have ready slots, so only its timer is looked at.
  have hmark : ∀ slots, Progress (group, events) ({ group with memberSlots := slots }, events) :=
    fun slots => ⟨fun hstate => .inr (hstate.elim
      (fun hidle => absurd (h.symm.trans hidle.stopped) (by decide))
      fun hrunning => ⟨hrunning.started, hrunning.timer_pos, hrunning.timer_le⟩), rfl, rfl⟩
  unfold setMemberReadyCheckedLikeCpp
  simp only
  split_ifs
  · exact (hmark _).trans (progress_endReadyCheck _ events)
  · exact hmark _

theorem progress_setMemberReadyCheckSlot (h : group.readyCheckStarted = true) (slotIndex : ℕ)
    (ready : Bool) (events : List ReadyCheckEvent) :
    Progress (group, events) (group.setMemberReadyCheckSlotLikeCpp slotIndex ready events) := by
  have hresponse : Progress (group, events)
      (group, events ++ [.response group.groupGuid (group.slotGuid slotIndex) ready]) :=
    ⟨id, by simp [startedCount, ReadyCheckEvent.isStarted],
      by simp [completedCount, ReadyCheckEvent.isCompleted]⟩
  exact hresponse.trans (progress_setMemberReadyChecked h slotIndex _)

theorem progress_answerOffline (state : GroupInfo × List ReadyCheckEvent) (index : ℕ) :
    Progress state (answerOffline state index) := by
  unfold answerOffline
  split_ifs with hstarted
  · exact progress_setMemberReadyCheckSlot hstarted index false state.2
  · exact .refl state

/-! ## One operation -/

/-- Every check that an operation starts or finds running is completed or still runs. -/
structure Accounted (group : GroupInfo) (after : GroupInfo × List ReadyCheckEvent) : Prop where
  state : after.1.ReadyState
  events : completedCount after.2 + after.1.openChecks = startedCount after.2 + group.openChecks

theorem Accounted.refl (h : group.ReadyState) : Accounted group (group, []) := ⟨h, rfl⟩

theorem Progress.accounted {after : GroupInfo × List ReadyCheckEvent}
    (h : Progress (group, []) after) (hstate : group.ReadyState) : Accounted group after := by
  refine ⟨h.state hstate, ?_⟩
  have hstarted := h.started
  have hcompleted := h.completed
  simp only [startedCount, completedCount, List.countP_nil] at hstarted hcompleted ⊢
  omega

theorem accounted_start (h : group.ReadyState) (starterGuid : ObjectGuid)
    (connectedMembers : List ObjectGuid) :
    Accounted group (group.startReadyCheckLikeCpp starterGuid connectedMembers) := by
  unfold startReadyCheckLikeCpp
  split_ifs with hstarted
  · exact .refl h
  cases group.slotIndex starterGuid with
  | none => exact .refl h
  | some starterIndex =>
  simp only
  have hopened : ({ group with
      readyCheckStarted := true
      readyCheckTimerMs := readycheckDurationMs } : GroupInfo).Running :=
    ⟨rfl, (by decide : 1 ≤ readycheckDurationMs), le_rfl⟩
  generalize ({ group with
    readyCheckStarted := true
    readyCheckTimerMs := readycheckDurationMs } : GroupInfo) = opened at hopened
  have hanswered := Progress.foldl progress_answerOffline
    (opened.offlineIndices connectedMembers) (opened, [])
  generalize (opened.offlineIndices connectedMembers).foldl answerOffline (opened, []) = answered
    at hanswered
  have hsettled : Progress (opened, [])
      (if answered.1.readyCheckStarted then
        answered.1.setMemberReadyCheckedLikeCpp starterIndex answered.2 else answered) := by
    split_ifs with hrunning
    · exact hanswered.trans (progress_setMemberReadyChecked hrunning starterIndex answered.2)
    · exact hanswered
  generalize (if answered.1.readyCheckStarted then
    answered.1.setMemberReadyCheckedLikeCpp starterIndex answered.2 else answered) = settled
    at hsettled
  refine ⟨hsettled.state (.inr hopened), ?_⟩
  -- The check itself is reported last, after it may have ended.
  have hbefore : group.openChecks = 0 := by
    rw [openChecks, if_neg hstarted]
  have hstartedCount := hsettled.started
  have hcompleted := hsettled.completed
  rw [hopened.openChecks] at hcompleted
  simp only [startedCount, completedCount, List.countP_append, List.countP_nil,
    List.countP_singleton, ReadyCheckEvent.isStarted, ReadyCheckEvent.isCompleted] at *
  simp only [if_true, Bool.false_eq_true, if_false]
  omega

theorem accounted_respond (h : group.ReadyState) (guid : ObjectGuid) (ready : Bool) :
    Accounted group (group.setMemberReadyCheckLikeCpp guid ready) := by
  unfold setMemberReadyCheckLikeCpp
  split_ifs with hstarted
  · exact .refl h
  cases group.slotIndex guid with
  | none => exact .refl h
  | some slotIndex =>
    exact (progress_setMemberReadyCheckSlot (by simpa using hstarted) slotIndex ready
      []).accounted h

theorem accounted_tick (h : group.ReadyState) (diffMs : ℕ) :
    Accounted group (group.updateReadyCheckLikeCpp diffMs) := by
  unfold updateReadyCheckLikeCpp
  split_ifs with hstarted
  · exact .refl h
  have hstarted : group.readyCheckStarted = true := by simpa using hstarted
  have hrunning : group.Running :=
    h.resolve_left fun hidle => absurd (hstarted.symm.trans hidle.stopped) (by decide)
  simp only
  split_ifs with htimeout
  · -- The timer may have run below zero, so the group is not in a ready state here.
    have hended : ({ group with
        readyCheckTimerMs := group.readyCheckTimerMs - diffMs } : GroupInfo).readyCheckStarted =
        true := hstarted
    have hidle := idle_endReadyCheck hended []
    refine ⟨.inl hidle, ?_⟩
    rw [hidle.openChecks, events_endReadyCheck hended, openChecks, hstarted]
    rfl
  · refine ⟨.inr ⟨hstarted, ?_, ?_⟩, ?_⟩
    · simp only at htimeout ⊢
      omega
    · have hle := hrunning.timer_le
      simp only
      omega
    · rw [openChecks, openChecks]
      rfl

theorem accounted_apply (h : group.ReadyState) (op : ReadyCheckOp) :
    Accounted group (op.apply group) := by
  cases op with
  | start starterGuid connectedMembers => exact accounted_start h starterGuid connectedMembers
  | respond guid ready => exact accounted_respond h guid ready
  | tick diffMs => exact accounted_tick h diffMs
  | addMember guid =>
    have hchange := group.rosterChange_addMember guid
    exact ⟨hchange.readyState h, congrArg (0 + ·) hchange.openChecks⟩
  | removeMember guid =>
    have hchange := group.rosterChange_removeMember guid
    exact ⟨hchange.readyState h, congrArg (0 + ·) hchange.openChecks⟩

/-! ## Every run -/

/-- What holds of a group and of all events so far. -/
def OnRecord (state : GroupInfo × List ReadyCheckEvent) : Prop :=
  state.1.ReadyState ∧ completedCount state.2 + state.1.openChecks = startedCount state.2

theorem OnRecord.step {state : GroupInfo × List ReadyCheckEvent} (h : OnRecord state)
    (op : ReadyCheckOp) : OnRecord (readyCheckStep state op) := by
  have hop := accounted_apply h.1 op
  refine ⟨hop.state, ?_⟩
  have hbefore := h.2
  have hafter := hop.events
  simp only [readyCheckStep, startedCount_append, completedCount_append]
  omega

/-- Whatever happens to a group in which no check was started so far, a check that has
ended leaves nothing behind, one that runs has time left, and the completed checks fall
one behind the started ones exactly while a check runs. -/
theorem ready_check_protocol {group : GroupInfo} (hidle : group.Idle) (ops : List ReadyCheckOp) :
    let after := run readyCheckStep (group, []) ops
    (after.1.readyCheckStarted = false →
      (∀ slot ∈ after.1.memberSlots, slot.readyChecked = false) ∧ after.1.readyCheckTimerMs = 0) ∧
    (after.1.readyCheckStarted = true →
      1 ≤ after.1.readyCheckTimerMs ∧ after.1.readyCheckTimerMs ≤ 35000) ∧
    ((completedCount after.2 : ℤ) = startedCount after.2 - 1 ↔ after.1.readyCheckStarted = true) ∧
    (after.1.readyCheckStarted = false → completedCount after.2 = startedCount after.2) := by
  have hstart : OnRecord (group, []) := ⟨.inl hidle, congrArg (0 + ·) hidle.openChecks⟩
  have hrun := run_invariant_of_all OnRecord (fun state op h => h.step op) hstart ops
  generalize run readyCheckStep (group, []) ops = after at hrun
  obtain ⟨hstate, hevents⟩ := hrun
  cases hstate with
  | inl hidle =>
    rw [hidle.openChecks] at hevents
    refine ⟨fun _ => ⟨hidle.unready, hidle.timer⟩, fun h => ?_, ?_, fun _ => hevents⟩
    · rw [hidle.stopped] at h
      cases h
    · rw [hidle.stopped]
      constructor
      · intro h
        omega
      · intro h
        cases h
  | inr hrunning =>
    rw [hrunning.openChecks] at hevents
    refine ⟨fun h => ?_, fun _ => ⟨hrunning.timer_pos, hrunning.timer_le⟩, ?_, fun h => ?_⟩
    · rw [hrunning.started] at h
      cases h
    · exact ⟨fun _ => hrunning.started, fun _ => by omega⟩
    · rw [hrunning.started] at h
      cases h

/-- A lone leader is ready at once, and a check of two runs until the second answers. -/
theorem ready_check_protocol_two :
    let group := GroupInfo.new 1 1 (ObjectGuid.createPlayer 1 1)
    let after := run readyCheckStep (group, [])
      [.start (ObjectGuid.createPlayer 1 1) [], .addMember (ObjectGuid.createPlayer 1 2),
        .start (ObjectGuid.createPlayer 1 1)
          [ObjectGuid.createPlayer 1 1, ObjectGuid.createPlayer 1 2], .tick 30000]
    after.1.readyCheckStarted = true ∧ 1 ≤ after.1.readyCheckTimerMs ∧
      (completedCount after.2 : ℤ) = startedCount after.2 - 1 :=
  have h := ready_check_protocol (idle_new 1 1 (ObjectGuid.createPlayer 1 1))
    [.start (ObjectGuid.createPlayer 1 1) [], .addMember (ObjectGuid.createPlayer 1 2),
      .start (ObjectGuid.createPlayer 1 1)
        [ObjectGuid.createPlayer 1 1, ObjectGuid.createPlayer 1 2], .tick 30000]
  ⟨by decide +kernel, (h.2.1 (by decide +kernel)).1, h.2.2.1.mpr (by decide +kernel)⟩

end GroupInfo

end RustyCore.Group
