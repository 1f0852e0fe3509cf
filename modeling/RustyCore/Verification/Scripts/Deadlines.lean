import RustyCore.Verification.Scripts.EventMap

/-! # Events in the order of their deadlines

Whatever is scheduled, delayed and cancelled, the queue stays in order. An execution therefore
passes over due events of other phases only, and leaves nothing that is due when it finds none. -/

namespace RustyCore.Scripts

open EventMap

variable {m : EventMap} {queue : EventQueue}

def ByDeadline (queue : EventQueue) : Prop := queue.Pairwise fun a b => a.1 ≤ b.1

theorem ByDeadline.pushBack (h : ByDeadline queue) (deadline : ℤ) (eventData : ℕ) :
    ByDeadline (EventQueue.pushBack deadline eventData queue) := by
  induction queue with
  | nil => exact List.pairwise_singleton _ _
  | cons event queue ih =>
    obtain ⟨hhead, htail⟩ := List.pairwise_cons.mp h
    rw [EventQueue.pushBack]
    split
    case isTrue hle =>
      refine List.pairwise_cons.mpr ⟨fun other hother => ?_, ih htail⟩
      rcases List.mem_cons.mp ((perm_pushBack deadline eventData queue).mem_iff.mp hother) with
        rfl | hother
      · exact hle
      · exact hhead other hother
    case isFalse hlt =>
      refine List.pairwise_cons.mpr ⟨fun other hother => ?_, h⟩
      rcases List.mem_cons.mp hother with rfl | hother
      · omega
      · have := hhead other hother
        omega

theorem ByDeadline.scheduleNext (h : ByDeadline m.events) (eventData : ℕ) :
    ByDeadline (m.scheduleNextFromSeries eventData).events := by
  unfold scheduleNextFromSeries
  split
  · exact h
  · exact h
  · exact h.pushBack _ _

/-- A queue is the events that are passed over, the one that is taken and those that wait. -/
theorem popReady_spec (h : ByDeadline queue) (timeMs : ℤ) (phaseMask : ℕ) :
    ∃ skipped taken, queue = skipped ++ taken ++ (popReady timeMs phaseMask queue).2 ∧
      taken.map (·.2) = (popReady timeMs phaseMask queue).1.toList ∧
      (∀ event ∈ skipped, event.1 ≤ timeMs ∧ skips phaseMask event.2 = true) ∧
      (∀ event ∈ taken, event.1 ≤ timeMs ∧ skips phaseMask event.2 = false) ∧
      (taken = [] → ∀ event ∈ (popReady timeMs phaseMask queue).2, timeMs < event.1) := by
  induction queue with
  | nil => exact ⟨[], [], by simp [popReady]⟩
  | cons event queue ih =>
    obtain ⟨hhead, htail⟩ := List.pairwise_cons.mp h
    rw [popReady]
    split
    case isTrue hfuture =>
      refine ⟨[], [], by simp, rfl, by simp, by simp, fun _ other hother => ?_⟩
      rcases List.mem_cons.mp hother with rfl | hother
      · exact hfuture
      · exact hfuture.trans_le (hhead other hother)
    case isFalse hdue =>
      split
      case isTrue hskips =>
        obtain ⟨skipped, taken, hqueue, htaken, hskipped, hrest⟩ := ih htail
        refine ⟨event :: skipped, taken, congrArg (event :: ·) hqueue, htaken, ?_, hrest⟩
        exact List.forall_mem_cons.mpr ⟨⟨not_lt.mp hdue, hskips⟩, hskipped⟩
      case isFalse hskips => exact ⟨[], [event], by simp, rfl, by simp, by simp_all, by simp⟩

theorem ByDeadline.execute (h : ByDeadline m.events) : ByDeadline m.executeEvent.2.events := by
  obtain ⟨skipped, taken, hqueue, -⟩ := popReady_spec h m.timeMs m.phaseMask
  have hrest : ByDeadline (popReady m.timeMs m.phaseMask m.events).2 :=
    (List.pairwise_append.mp (hqueue ▸ h)).2.1
  unfold executeEvent
  split
  all_goals
    rename_i heq
    rw [heq] at hrest
  · exact hrest
  · exact ByDeadline.scheduleNext (m := { m with events := _, lastEventData := _ }) hrest _

theorem ByDeadline.cancel (h : ByDeadline m.events) (id : ℕ) :
    ByDeadline (m.cancelEvent id).events := by
  unfold cancelEvent
  split
  · exact h
  · exact h.filter _

theorem ByDeadline.apply (h : ByDeadline m.events) (op : EventOp) :
    ByDeadline (op.apply m).events := by
  cases op with
  | reset => exact .nil
  | update | addPhase | removePhase | setPhase =>
    simp only [EventOp.apply, EventMap.update, setPhase, addPhase, removePhase]
    repeat' split
    all_goals exact h
  | schedule | repeatLast => exact h.pushBack _ _
  | reschedule id => exact (h.cancel id).pushBack _ _
  | scheduleSeries =>
    refine ByDeadline.scheduleNext ?_ _
    exact h
  | scheduleNext eventData => exact h.scheduleNext eventData
  | execute => exact h.execute
  | delay delayMs => exact List.pairwise_map.mpr (h.imp fun hle => by simpa using hle)
  | delayGroup delayMs group =>
    simp only [EventOp.apply, delayEventsGroup]
    split
    · exact h
    · exact List.foldlRecOn m.events _ List.Pairwise.nil fun _ hqueue _ _ => hqueue.pushBack _ _
  | cancel id => exact h.cancel id
  | cancelGroup group =>
    simp only [EventOp.apply, cancelEventGroup]
    split
    · exact h
    · exact h.filter _

/-- In every state an event map reaches, an execution passes over the due events of other phases.
Behind them it takes the due event with the first deadline, or leaves nothing that is due. -/
theorem executes_in_deadline_order (ops : List EventOp) :
    let m := run EventOp.apply .empty ops
    let waiting := (popReady m.timeMs m.phaseMask m.events).2
    ∃ skipped taken, m.events = skipped ++ taken ++ waiting ∧
      taken.map (·.2) = m.nextEvent.toList ∧ m.executeEvent.1 = m.nextEvent.elim 0 eventId ∧
      (∀ event ∈ skipped, event.1 ≤ m.timeMs ∧ skips m.phaseMask event.2 = true) ∧
      (∀ event ∈ taken, event.1 ≤ m.timeMs ∧ skips m.phaseMask event.2 = false ∧
        ∀ other ∈ waiting, event.1 ≤ other.1) ∧
      (taken = [] → ∀ other ∈ waiting, m.timeMs < other.1) := by
  intro m waiting
  have hqueue : ByDeadline m.events :=
    run_invariant_of_all (fun m : EventMap => ByDeadline m.events) (fun _ op h => h.apply op)
      (show ByDeadline [] from .nil) ops
  obtain ⟨skipped, taken, hevents, htaken, hskipped, hready, hnone⟩ :=
    popReady_spec hqueue m.timeMs m.phaseMask
  refine ⟨skipped, taken, hevents, htaken, executeEvent_fst m, hskipped, fun event hevent =>
    ⟨(hready event hevent).1, (hready event hevent).2, fun other hother => ?_⟩, hnone⟩
  rw [hevents] at hqueue
  exact (List.pairwise_append.mp hqueue).2.2 event (List.mem_append_right _ hevent) other hother

end RustyCore.Scripts
