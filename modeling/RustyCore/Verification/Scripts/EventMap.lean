import RustyCore.Library.DictSum
import RustyCore.Library.Run
import RustyCore.Model.Scripts.EventMap

/-! # Cancelled events

Every event that is executed was queued, and every one that is queued was scheduled, repeated or
taken from a series. What an event map holds of some kind of event is therefore all that can be
executed of it without a new entry; a cancellation has to empty it. -/

namespace RustyCore.Scripts

open EventMap

variable {m : EventMap} {group id eventData : ℕ} {op : EventOp}

/-! ## Encoded events -/

theorem eventId_encodeEventData {phase : ℕ} (hid : id < 2 ^ 16) :
    eventId (encodeEventData id group phase) = id := by
  have hmod : ∀ n k, 16 ≤ k → (n ||| 1 <<< k) % 2 ^ 16 = n % 2 ^ 16 := fun n k hk => by
    have hbit : (1 <<< k) % 2 ^ 16 = 0 := by
      rw [Nat.one_shiftLeft]
      exact Nat.mod_eq_zero_of_dvd (Nat.pow_dvd_pow 2 hk)
    rw [Nat.or_mod_two_pow, hbit, Nat.or_zero]
  have hvalid : ∀ n, validGroup n = true → 1 ≤ n := fun n hn => by
    simp only [validGroup, Bool.and_eq_true, bne_iff_ne] at hn
    omega
  change encodeEventData id group phase &&& (2 ^ 16 - 1) = id
  rw [Nat.and_two_pow_sub_one_eq_mod]
  unfold encodeEventData
  dsimp only
  split_ifs with hphase hgroup hgroup
  · have := hvalid group hgroup
    rw [hmod _ (phase + 23) (by omega), hmod _ (group + 15) (by omega), Nat.mod_eq_of_lt hid]
  · rw [hmod _ (phase + 23) (by omega), Nat.mod_eq_of_lt hid]
  · have := hvalid group hgroup
    rw [hmod _ (group + 15) (by omega), Nat.mod_eq_of_lt hid]
  · exact Nat.mod_eq_of_lt hid

theorem eventHasGroup_iff :
    eventHasGroup eventData group = true ↔
      validGroup group = true ∧ eventData.testBit (group + 15) = true := by
  rw [eventHasGroup, Bool.and_eq_true, Nat.one_shiftLeft, bne_iff_ne]
  refine and_congr_right fun _ => ?_
  constructor
  · intro hne
    by_contra hbit
    refine hne (Nat.eq_of_testBit_eq fun i => ?_)
    rw [Nat.testBit_and, Nat.testBit_two_pow, Nat.zero_testBit]
    by_cases hi : group + 15 = i
    · subst hi
      simpa using hbit
    · simp [hi]
  · intro hbit hzero
    have := congrArg (Nat.testBit · (group + 15)) hzero
    simp [hbit] at this

theorem eventHasGroup_encodeEventData {group' phase : ℕ} (hid : id < 2 ^ 16) :
    eventHasGroup (encodeEventData id group' phase) group =
      (validGroup group && decide (group' = group)) := by
  rw [Bool.eq_iff_iff, eventHasGroup_iff, Bool.and_eq_true, decide_eq_true_iff]
  refine and_congr_right fun hgroup => ?_
  have hbounds : 1 ≤ group ∧ group ≤ 8 := by
    simp only [validGroup, Bool.and_eq_true, bne_iff_ne, decide_eq_true_eq] at hgroup
    have hmax : maxEventGroupOrPhase = 8 := rfl
    omega
  have hlow : id.testBit (group + 15) = false :=
    Nat.testBit_lt_two_pow (lt_of_lt_of_le hid (Nat.pow_le_pow_right (by decide) (by omega)))
  have hphase : ∀ n, validPhase phase = true →
      (n ||| 1 <<< (phase + 23)).testBit (group + 15) = n.testBit (group + 15) := by
    intro n hvalid
    have : phase ≠ 0 := by
      simp only [validPhase, Bool.and_eq_true, bne_iff_ne] at hvalid
      exact hvalid.1
    rw [Nat.testBit_or, Nat.one_shiftLeft, Nat.testBit_two_pow_of_ne (by omega), Bool.or_false]
  have hencoded : (encodeEventData id group' phase).testBit (group + 15) =
      (if validGroup group' then id ||| 1 <<< (group' + 15) else id).testBit (group + 15) := by
    unfold encodeEventData
    dsimp only
    split
    · rename_i hvalid
      exact hphase _ hvalid
    · rfl
  rw [hencoded]
  split
  · rw [Nat.testBit_or, hlow, Bool.false_or, Nat.one_shiftLeft, Nat.testBit_two_pow,
      decide_eq_true_iff]
    omega
  · rename_i hvalid
    rw [hlow]
    refine iff_of_false (by simp) fun heq => hvalid (heq ▸ hgroup)

/-! ## Returns and entries -/

def returnsId (id : ℕ) (m : EventMap) : EventOp → ℕ
  | .execute => if m.executeEvent.1 = id then 1 else 0
  | _ => 0

def returnsGroup (group : ℕ) (m : EventMap) : EventOp → ℕ
  | .execute => if m.nextEvent.any (eventHasGroup · group) then 1 else 0
  | _ => 0

/-- The entries for the event `id` that an operation makes. -/
def madeForId (id : ℕ) (m : EventMap) : EventOp → ℕ
  | .schedule id' _ _ _ => if id' = id then 1 else 0
  | .reschedule id' _ _ _ => if id' = id then 1 else 0
  | .repeatLast _ => if eventId m.lastEventData = id then 1 else 0
  | .scheduleSeries id' _ _ timeSeriesMs => if id' = id then timeSeriesMs.length else 0
  | _ => 0

/-- The entries for events of the group that an operation makes. -/
def madeForGroup (group : ℕ) (m : EventMap) : EventOp → ℕ
  | .schedule _ _ group' _ => if group' = group then 1 else 0
  | .reschedule _ _ group' _ => if group' = group then 1 else 0
  | .repeatLast _ => if eventHasGroup m.lastEventData group then 1 else 0
  | .scheduleSeries _ group' _ timeSeriesMs => if group' = group then timeSeriesMs.length else 0
  | _ => 0

section Kinds

variable (kind : ℕ → Bool)

def queued (queue : EventQueue) : ℕ := queue.countP fun event => kind event.2

/-- Everything of the kind that the map holds. -/
def pending (m : EventMap) : ℕ :=
  queued kind m.events +
    Dict.sumBy (fun eventData series => if kind eventData then series.length else 0) m.timerSeries

def returnsKind (m : EventMap) : EventOp → ℕ
  | .execute => if m.nextEvent.any kind then 1 else 0
  | _ => 0

def madeForKind (m : EventMap) : EventOp → ℕ
  | .schedule id _ group phase => if kind (encodeEventData id group phase) then 1 else 0
  | .reschedule id _ group phase => if kind (encodeEventData id group phase) then 1 else 0
  | .repeatLast _ => if kind m.lastEventData then 1 else 0
  | .scheduleSeries id group phase timeSeriesMs =>
    if kind (encodeEventData id group phase) then timeSeriesMs.length else 0
  | _ => 0

/-! ## One operation -/

theorem perm_pushBack (deadline : ℤ) (eventData : ℕ) (queue : EventQueue) :
    (EventQueue.pushBack deadline eventData queue).Perm ((deadline, eventData) :: queue) := by
  induction queue with
  | nil => exact .refl _
  | cons event queue ih =>
    unfold EventQueue.pushBack
    split
    · exact (ih.cons event).trans (List.Perm.swap _ _ _)
    · exact .refl _

theorem queued_pushBack (deadline : ℤ) (eventData : ℕ) (queue : EventQueue) :
    queued kind (EventQueue.pushBack deadline eventData queue) =
      queued kind queue + if kind eventData then 1 else 0 := by
  unfold queued
  rw [(perm_pushBack deadline eventData queue).countP_eq, List.countP_cons]

theorem pending_push (m : EventMap) (delayMs : ℤ) (eventData : ℕ) :
    pending kind (m.push delayMs eventData) =
      pending kind m + if kind eventData then 1 else 0 := by
  simp only [pending, push, queued_pushBack]
  omega

theorem pending_scheduleNextFromSeries (m : EventMap) (eventData : ℕ) :
    pending kind (m.scheduleNextFromSeries eventData) = pending kind m := by
  unfold scheduleNextFromSeries
  split
  · rfl
  · rfl
  · rename_i delayMs series hseries
    have hsum := Dict.sumBy_insert
      (fun eventData series => if kind eventData then List.length series else 0)
      m.timerSeries eventData series
    have hencode : encodeEventData eventData 0 0 = eventData := rfl
    rw [scheduleEvent, pending_push, hencode]
    simp only [pending, hseries, Option.elim_some, List.length_cons] at hsum ⊢
    split_ifs at hsum ⊢ <;> omega

theorem pending_scheduleEventSeries (m : EventMap) (id group phase : ℕ)
    (timeSeriesMs : List ℤ) :
    pending kind (m.scheduleEventSeries id group phase timeSeriesMs) =
      pending kind m +
        if kind (encodeEventData id group phase) then timeSeriesMs.length else 0 := by
  unfold scheduleEventSeries
  rw [pending_scheduleNextFromSeries]
  have hsum := Dict.sumBy_insert
    (fun eventData series => if kind eventData then List.length series else 0) m.timerSeries
    (encodeEventData id group phase)
    ((m.timerSeries.lookup (encodeEventData id group phase)).getD [] ++ timeSeriesMs)
  simp only [pending]
  cases hseries : m.timerSeries.lookup (encodeEventData id group phase) with
  | none =>
    simp only [hseries, Option.elim_none, Option.getD_none, List.nil_append] at hsum ⊢
    split_ifs at hsum ⊢ <;> omega
  | some series =>
    simp only [hseries, Option.elim_some, Option.getD_some, List.length_append] at hsum ⊢
    split_ifs at hsum ⊢ <;> omega

/-- Skipped events are dropped, the first other one that is due is taken. -/
theorem queued_popReady (timeMs : ℤ) (phaseMask : ℕ) (queue : EventQueue) :
    (if (popReady timeMs phaseMask queue).1.any kind then 1 else 0) +
      queued kind (popReady timeMs phaseMask queue).2 ≤ queued kind queue := by
  induction queue with
  | nil => simp [popReady]
  | cons event queue ih =>
    obtain ⟨deadline, eventData⟩ := event
    rw [popReady]
    by_cases hdue : timeMs < deadline
    · rw [if_pos hdue]
      simp
    · rw [if_neg hdue]
      by_cases hskip : skips phaseMask eventData = true
      · rw [if_pos hskip]
        refine ih.trans ?_
        simp [queued, List.countP_cons]
      · rw [if_neg hskip]
        simp only [queued, List.countP_cons, Option.any_some]
        omega

theorem pending_executeEvent (m : EventMap) :
    (if m.nextEvent.any kind then 1 else 0) + pending kind m.executeEvent.2 ≤
      pending kind m := by
  have hpop := queued_popReady kind m.timeMs m.phaseMask m.events
  unfold executeEvent nextEvent
  cases hresult : popReady m.timeMs m.phaseMask m.events with
  | mk found queue =>
    rw [hresult] at hpop
    cases found with
    | none =>
      simp only [pending, Option.any_none] at hpop ⊢
      omega
    | some eventData =>
      simp only [pending_scheduleNextFromSeries]
      simp only [pending] at hpop ⊢
      omega

theorem queued_delayEventsGroup (queue queue' : EventQueue) (delay : ℤ × ℕ → ℤ) :
    queued kind (queue.foldl (fun q event => EventQueue.pushBack (delay event) event.2 q) queue') =
      queued kind queue' + queued kind queue := by
  induction queue generalizing queue' with
  | nil => rfl
  | cons event queue ih =>
    rw [List.foldl_cons, ih, queued_pushBack]
    simp only [queued, List.countP_cons]
    omega

theorem pending_retainEvents_le (m : EventMap) (keep : ℕ → Bool) :
    pending kind (m.retainEvents keep) ≤ pending kind m := by
  have hqueue : queued kind (m.events.filter fun event => keep event.2) ≤ queued kind m.events :=
    List.filter_sublist.countP_le
  have hseries := Dict.sumBy_retain_le
    (fun eventData series => if kind eventData then List.length series else 0)
    (fun eventData _ => keep eventData) m.timerSeries
  exact Nat.add_le_add hqueue hseries

theorem pending_cancelEvent_le (m : EventMap) (id : ℕ) :
    pending kind (m.cancelEvent id) ≤ pending kind m := by
  unfold cancelEvent
  split
  · exact le_rfl
  · exact pending_retainEvents_le kind m _

/-- What an operation returns was pending before, or is made by it. -/
theorem returnsKind_add_pending (m : EventMap) (op : EventOp) :
    returnsKind kind m op + pending kind (op.apply m) ≤ madeForKind kind m op + pending kind m := by
  cases op with
  | reset => simp [returnsKind, madeForKind, EventOp.apply, pending, queued, EventMap.empty]
  | update diffMs => exact le_rfl
  | setPhase phase =>
    simp only [EventOp.apply, EventMap.setPhase]
    split_ifs <;> exact le_rfl
  | addPhase phase =>
    simp only [EventOp.apply, EventMap.addPhase]
    split_ifs <;> exact le_rfl
  | removePhase phase =>
    simp only [EventOp.apply, EventMap.removePhase]
    split_ifs <;> exact le_rfl
  | schedule id delayMs group phase =>
    simp only [returnsKind, madeForKind, EventOp.apply, scheduleEvent, pending_push]
    omega
  | reschedule id delayMs group phase =>
    have hcancel := pending_cancelEvent_le kind m id
    simp only [returnsKind, madeForKind, EventOp.apply, rescheduleEvent, scheduleEvent,
      pending_push]
    omega
  | repeatLast delayMs =>
    simp only [returnsKind, madeForKind, EventOp.apply, repeatEvent, pending_push]
    omega
  | scheduleSeries id group phase timeSeriesMs =>
    simp only [returnsKind, madeForKind, EventOp.apply, pending_scheduleEventSeries]
    omega
  | scheduleNext eventData =>
    simp only [returnsKind, madeForKind, EventOp.apply, pending_scheduleNextFromSeries]
    exact le_rfl
  | execute =>
    simp only [returnsKind, madeForKind, EventOp.apply, Nat.zero_add]
    exact pending_executeEvent kind m
  | delay delayMs =>
    simp only [returnsKind, madeForKind, EventOp.apply, delayEvents, pending, queued,
      List.countP_map, Function.comp_def]
    exact le_rfl
  | delayGroup delayMs group =>
    simp only [returnsKind, madeForKind, EventOp.apply, delayEventsGroup]
    split
    · exact le_rfl
    · simp only [pending, queued_delayEventsGroup]
      simp [queued]
  | cancel id =>
    simp only [returnsKind, madeForKind, EventOp.apply]
    have hcancel := pending_cancelEvent_le kind m id
    omega
  | cancelGroup group =>
    simp only [returnsKind, madeForKind, EventOp.apply, cancelEventGroup]
    split
    · exact le_rfl
    · have hretain := pending_retainEvents_le kind m fun eventData => !eventHasGroup eventData group
      omega

/-- Where nothing of the kind is left, nothing of it is returned but for new entries. -/
theorem returnsKind_le_of_pending (h : pending kind m = 0) (later : List EventOp) :
    runSum EventOp.apply (returnsKind kind) m later ≤
      runSum EventOp.apply (madeForKind kind) m later := by
  have hsum : runSum EventOp.apply (returnsKind kind) m later + _ ≤
      runSum EventOp.apply (madeForKind kind) m later + _ :=
    runSum_add_le (pending kind) m fun op _ m => returnsKind_add_pending kind m op
  omega

/-! ## Cancellation -/

/-- A cancellation of the kind empties the map of it, if the queue is not empty. -/
theorem pending_retainEvents_eq_zero (m : EventMap) :
    pending kind (m.retainEvents fun eventData => !kind eventData) = 0 := by
  have hqueue : queued kind (m.events.filter fun event => !kind event.2) = 0 := by
    unfold queued
    rw [List.countP_eq_zero]
    intro event hevent
    simpa using (List.mem_filter.mp hevent).2
  have hseries : Dict.sumBy
      (fun eventData series => if kind eventData then List.length series else 0)
      (m.timerSeries.retain fun eventData _ => !kind eventData) = 0 := by
    rw [Dict.sumBy_eq_zero_iff]
    intro eventData series h
    rw [Dict.lookup_retain_keys] at h
    split at h
    · rename_i hkeep
      simp [by simpa using hkeep]
    · cases h
  simp only [pending, retainEvents, hqueue, hseries]

/-- The series of the kind that still have delays. -/
def SeriesLeft (m : EventMap) : Prop :=
  ∃ eventData series, m.timerSeries.lookup eventData = some series ∧ kind eventData = true ∧
    series ≠ []

theorem pending_eq_zero_of_empty (hempty : m.events = []) (h : ¬ SeriesLeft kind m) :
    pending kind m = 0 := by
  have hseries : Dict.sumBy
      (fun eventData series => if kind eventData then List.length series else 0)
      m.timerSeries = 0 := by
    rw [Dict.sumBy_eq_zero_iff]
    intro eventData series hlookup
    by_contra hlength
    refine h ⟨eventData, series, hlookup, ?_, ?_⟩
    · by_contra hkind
      simp [hkind] at hlength
    · rintro rfl
      simp at hlength
  simp [pending, hempty, queued, hseries]

end Kinds

/-! ## Stored events -/

/-- An event as an operation stores it. -/
def Encoded (eventData : ℕ) : Prop :=
  ∃ id group phase, id < 2 ^ 16 ∧ eventData = encodeEventData id group phase

/-- The series belong to encoded events, and their delays are not negative. -/
def SeriesValid (m : EventMap) : Prop :=
  ∀ eventData series, m.timerSeries.lookup eventData = some series →
    Encoded eventData ∧ ∀ delayMs ∈ series, 0 ≤ delayMs

theorem SeriesValid.retain (h : SeriesValid m) (keep : ℕ → Bool) :
    SeriesValid (m.retainEvents keep) := by
  intro eventData series hlookup
  simp only [retainEvents, Dict.lookup_retain_keys] at hlookup
  split at hlookup
  · exact h eventData series hlookup
  · cases hlookup

theorem SeriesValid.cancelEvent (h : SeriesValid m) (id : ℕ) : SeriesValid (m.cancelEvent id) := by
  unfold EventMap.cancelEvent
  split
  · exact h
  · exact h.retain _

theorem SeriesValid.insert (h : SeriesValid m) {series : List ℤ} (hencoded : Encoded eventData)
    (hdelays : ∀ delayMs ∈ series, 0 ≤ delayMs) :
    SeriesValid { m with timerSeries := AList.insert eventData series m.timerSeries } := by
  intro eventData' series' hlookup
  simp only [Dict.lookup_insert_eq] at hlookup
  split at hlookup
  · cases hlookup
    rename_i heq
    rw [heq]
    exact ⟨hencoded, hdelays⟩
  · exact h eventData' series' hlookup

theorem SeriesValid.scheduleNext (h : SeriesValid m) (eventData : ℕ) :
    SeriesValid (m.scheduleNextFromSeries eventData) := by
  unfold scheduleNextFromSeries
  split
  · exact h
  · exact h
  · rename_i delayMs series hseries
    obtain ⟨hencoded, hdelays⟩ := h eventData _ hseries
    exact h.insert hencoded fun delay hdelay => hdelays delay (List.mem_cons_of_mem _ hdelay)

theorem SeriesValid.apply (h : SeriesValid m) (hop : op.Valid) : SeriesValid (op.apply m) := by
  cases op with
  | reset =>
    intro eventData series hlookup
    cases hlookup
  | update diffMs => exact h
  | setPhase phase =>
    simp only [EventOp.apply, EventMap.setPhase]
    split_ifs <;> exact h
  | addPhase phase =>
    simp only [EventOp.apply, EventMap.addPhase]
    split_ifs <;> exact h
  | removePhase phase =>
    simp only [EventOp.apply, EventMap.removePhase]
    split_ifs <;> exact h
  | schedule id delayMs group phase => exact h
  | reschedule id delayMs group phase => exact h.cancelEvent id
  | repeatLast delayMs => exact h
  | scheduleSeries id group phase timeSeriesMs =>
    refine SeriesValid.scheduleNext (h.insert ⟨id, group, phase, hop.1, rfl⟩ ?_) _
    intro delayMs hdelay
    rcases List.mem_append.mp hdelay with hold | hnew
    · cases hlookup : m.timerSeries.lookup (encodeEventData id group phase) with
      | none => simp [hlookup] at hold
      | some series =>
        rw [hlookup] at hold
        exact (h _ series hlookup).2 delayMs hold
    · exact hop.2 delayMs hnew
  | scheduleNext eventData => exact h.scheduleNext eventData
  | execute =>
    simp only [EventOp.apply, executeEvent]
    split
    · exact h
    · rename_i eventData queue _
      have hpopped : SeriesValid { m with events := queue, lastEventData := eventData } := h
      exact hpopped.scheduleNext eventData
  | delay delayMs => exact h
  | delayGroup delayMs group =>
    simp only [EventOp.apply, delayEventsGroup]
    split <;> exact h
  | cancel id => exact h.cancelEvent id
  | cancelGroup group =>
    simp only [EventOp.apply, cancelEventGroup]
    split
    · exact h
    · exact h.retain _

theorem seriesValid_run {ops : List EventOp} (hops : ∀ op ∈ ops, op.Valid) :
    SeriesValid (run EventOp.apply .empty ops) := by
  have hvalid : EachStep EventOp.apply (fun _ op => op.Valid) .empty ops :=
    EachStep.of_forall (fun op hop _ => hops op hop) _
  refine run_invariant SeriesValid (fun m op h hop => h.apply hop) ?_ hvalid
  intro eventData series hlookup
  cases hlookup

/-! ## A series that is left behind -/

theorem executeEvent_head {deadline : ℤ} {queue : EventQueue}
    (hevents : m.events = (deadline, eventData) :: queue) (hphase : m.phaseMask = 0)
    (hdue : deadline ≤ m.timeMs) :
    m.nextEvent = some eventData ∧
      m.executeEvent = (eventId eventData,
        { m with events := queue, lastEventData := eventData }.scheduleNextFromSeries
          eventData) := by
  have hpop : popReady m.timeMs m.phaseMask m.events = (some eventData, queue) := by
    rw [hevents, hphase, popReady, if_neg (by omega)]
    rfl
  constructor
  · rw [nextEvent, hpop]
  · rw [executeEvent, hpop]

theorem run_updates (m : EventMap) (n : ℕ) :
    run EventOp.apply m (List.replicate n (.update 1)) = { m with timeMs := m.timeMs + n } := by
  induction n generalizing m with
  | zero => simp
  | succ n ih =>
    rw [List.replicate_succ, run_cons, ih]
    simp only [EventOp.apply, EventMap.update]
    congr 1
    push_cast
    omega

theorem runSum_updates {f : EventMap → EventOp → ℕ} (hf : ∀ m, f m (.update 1) = 0)
    (m : EventMap) (n : ℕ) :
    runSum EventOp.apply f m (List.replicate n (.update 1)) = 0 :=
  runSum_eq_zero m fun op hop m => by rw [List.eq_of_mem_replicate hop, hf]

/-- One new entry of the event revives the series: it returns twice. -/
theorem exists_extra_return {kind : ℕ → Bool} (hvalid : SeriesValid m) (hempty : m.events = [])
    (hleft : SeriesLeft kind m) :
    ∃ later : List EventOp, (∀ op ∈ later, op.Valid) ∧
      runSum EventOp.apply (returnsKind kind) m later = 2 ∧
      runSum EventOp.apply (madeForKind kind) m later = 1 := by
  obtain ⟨eventData, series, hseries, hkind, hne⟩ := hleft
  obtain ⟨⟨id, group, phase, hid, hencoded⟩, hdelays⟩ := hvalid eventData series hseries
  obtain ⟨delayMs, rest, rfl⟩ := List.exists_cons_of_ne_nil hne
  have hdelay : 0 ≤ delayMs := hdelays delayMs List.mem_cons_self
  let first : List EventOp := [.setPhase 0, .schedule id 0 group phase, .execute]
  let wait : List EventOp := List.replicate delayMs.toNat (.update 1)
  -- After the first execution the event waits for the next deadline of its series.
  obtain ⟨m₁, hm₁⟩ : ∃ m₁, run EventOp.apply m [.setPhase 0, .schedule id 0 group phase] = m₁ :=
    ⟨_, rfl⟩
  have hscheduled : m₁.events = [(m₁.timeMs + 0, eventData)] ∧ m₁.phaseMask = 0 ∧
      m₁.timerSeries = m.timerSeries := by
    rw [← hm₁, hencoded]
    refine ⟨?_, rfl, rfl⟩
    simp only [run_cons, run_nil, EventOp.apply, EventMap.setPhase, scheduleEvent, push, if_true,
      hempty]
    rfl
  obtain ⟨hnext₁, hexec₁⟩ := executeEvent_head hscheduled.1 hscheduled.2.1 (by omega)
  obtain ⟨m₂, hm₂⟩ : ∃ m₂, m₁.executeEvent.2 = m₂ := ⟨_, rfl⟩
  have hwaiting : m₂.events = [(m₂.timeMs + delayMs, eventData)] ∧ m₂.phaseMask = 0 := by
    rw [← hm₂, hexec₁]
    simp only [scheduleNextFromSeries, hscheduled.2.2, hseries]
    exact ⟨rfl, hscheduled.2.1⟩
  obtain ⟨hnext₂, _⟩ := @executeEvent_head { m₂ with timeMs := m₂.timeMs + delayMs.toNat }
    eventData (m₂.timeMs + delayMs) [] hwaiting.1 hwaiting.2 (by
      simp only
      omega)
  have hrun : run EventOp.apply m first = m₂ := by
    rw [← hm₂, ← hm₁]
    rfl
  have hreturns : runSum EventOp.apply (returnsKind kind) m first = 1 := by
    have : (run EventOp.apply m [.setPhase 0, .schedule id 0 group phase]).nextEvent =
        some eventData := by rw [hm₁, hnext₁]
    simp only [first, runSum, returnsKind]
    simp only [run_cons, run_nil] at this
    simp [this, hkind]
  have hmade : runSum EventOp.apply (madeForKind kind) m first = 1 := by
    simp [first, runSum, madeForKind, ← hencoded, hkind]
  refine ⟨first ++ (wait ++ [.execute]), ?_, ?_, ?_⟩
  · intro op hop
    simp only [first, wait, List.mem_append, List.mem_cons, List.mem_replicate] at hop
    rcases hop with (rfl | rfl | rfl | hop) | ⟨_, rfl⟩ | rfl | hop
    · trivial
    · exact ⟨hid, le_rfl⟩
    · trivial
    · cases hop
    · exact (by decide : 1 < 2 ^ 32)
    · trivial
    · cases hop
  · rw [runSum_append, runSum_append, hrun, hreturns, runSum_updates fun _ => rfl, run_updates]
    simp only [runSum, returnsKind, hnext₂, Option.any_some, hkind, if_true]
  · rw [runSum_append, runSum_append, hrun, hmade, runSum_updates fun _ => rfl, run_updates]
    rfl

/-- A cancellation of the kind, which an empty queue ends before the series are looked at. -/
def cancelKind (kind : ℕ → Bool) (m : EventMap) : EventMap :=
  if m.events.isEmpty then m else m.retainEvents fun eventData => !kind eventData

theorem returnsKind_le_madeForKind_iff (kind : ℕ → Bool) (hvalid : SeriesValid m) :
    (∀ later : List EventOp, (∀ op ∈ later, op.Valid) →
      runSum EventOp.apply (returnsKind kind) (cancelKind kind m) later ≤
        runSum EventOp.apply (madeForKind kind) (cancelKind kind m) later) ↔
      m.events ≠ [] ∨ ¬ SeriesLeft kind m := by
  constructor
  · intro h
    by_contra hneither
    push Not at hneither
    obtain ⟨hempty, hleft⟩ := hneither
    have hcancel : cancelKind kind m = m := by
      rw [cancelKind, hempty]
      rfl
    obtain ⟨later, hlater, hreturns, hmade⟩ := exists_extra_return hvalid hempty hleft
    have hle := h later hlater
    rw [hcancel, hreturns, hmade] at hle
    omega
  · intro h later _
    refine returnsKind_le_of_pending _ ?_ later
    unfold cancelKind
    split
    · rename_i hempty
      rw [List.isEmpty_iff] at hempty
      exact pending_eq_zero_of_empty _ hempty (h.resolve_left fun hne => hne hempty)
    · exact pending_retainEvents_eq_zero _ m

/-! ## Ids and groups -/

theorem executeEvent_fst (m : EventMap) :
    m.executeEvent.1 = m.nextEvent.elim 0 eventId := by
  unfold executeEvent nextEvent
  split
  · rename_i queue hpop
    rw [hpop]
    rfl
  · rename_i eventData queue hpop
    rw [hpop]
    rfl

theorem returnsId_eq (hid : id ≠ 0) (m : EventMap) (op : EventOp) :
    returnsId id m op = returnsKind (fun eventData => eventId eventData == id) m op := by
  cases op with
  | execute =>
    simp only [returnsId, returnsKind, executeEvent_fst]
    cases m.nextEvent with
    | none => simp [hid.symm]
    | some eventData => by_cases h : eventId eventData = id <;> simp [h]
  | _ => rfl

theorem madeForId_eq (id : ℕ) (m : EventMap) (hop : op.Valid) :
    madeForId id m op = madeForKind (fun eventData => eventId eventData == id) m op := by
  cases op with
  | schedule id' delayMs group phase =>
    simp [madeForId, madeForKind, eventId_encodeEventData hop.1]
  | reschedule id' delayMs group phase =>
    simp [madeForId, madeForKind, eventId_encodeEventData hop.1]
  | scheduleSeries id' group phase timeSeriesMs =>
    simp [madeForId, madeForKind, eventId_encodeEventData hop.1]
  | repeatLast delayMs => simp [madeForId, madeForKind]
  | _ => rfl

theorem madeForGroup_eq (hgroup : validGroup group = true) (m : EventMap) (hop : op.Valid) :
    madeForGroup group m op = madeForKind (eventHasGroup · group) m op := by
  cases op with
  | schedule id' delayMs group' phase =>
    simp [madeForGroup, madeForKind, eventHasGroup_encodeEventData hop.1, hgroup]
  | reschedule id' delayMs group' phase =>
    simp [madeForGroup, madeForKind, eventHasGroup_encodeEventData hop.1, hgroup]
  | scheduleSeries id' group' phase timeSeriesMs =>
    simp [madeForGroup, madeForKind, eventHasGroup_encodeEventData hop.1, hgroup]
  | repeatLast delayMs => simp [madeForGroup, madeForKind]
  | _ => rfl

/-- The executions after a cancellation of `id` that return it are at most the entries for it
that were made since. -/
def CancelsEvent (m : EventMap) (id : ℕ) : Prop :=
  ∀ later : List EventOp, (∀ op ∈ later, op.Valid) →
    runSum EventOp.apply (returnsId id) (m.cancelEvent id) later ≤
      runSum EventOp.apply (madeForId id) (m.cancelEvent id) later

/-- The same of a group. -/
def CancelsGroup (m : EventMap) (group : ℕ) : Prop :=
  ∀ later : List EventOp, (∀ op ∈ later, op.Valid) →
    runSum EventOp.apply (returnsGroup group) (m.cancelEventGroup group) later ≤
      runSum EventOp.apply (madeForGroup group) (m.cancelEventGroup group) later

theorem cancelsEvent_iff (hvalid : SeriesValid m) (id : ℕ) :
    CancelsEvent m id ↔
      id ≠ 0 ∧ (m.events ≠ [] ∨ ¬ SeriesLeft (fun eventData => eventId eventData == id) m) := by
  by_cases hid : id = 0
  · -- The id 0 is what an execution returns when there is no event.
    subst hid
    refine iff_of_false (fun h => ?_) fun h => h.1 rfl
    have hle := h [.reset, .execute] (by simp [EventOp.Valid])
    simp [runSum, returnsId, madeForId, EventOp.apply, executeEvent, popReady,
      EventMap.empty] at hle
  · rw [and_iff_right hid, ← returnsKind_le_madeForKind_iff _ hvalid]
    refine forall₂_congr fun later hlater => ?_
    rw [runSum_congr _ fun op _ m => returnsId_eq hid m op,
      runSum_congr _ fun op hop m => madeForId_eq id m (hlater op hop)]
    rfl

theorem cancelsGroup_iff (hvalid : SeriesValid m) (group : ℕ) :
    CancelsGroup m group ↔
      m.events ≠ [] ∨ ¬ SeriesLeft (eventHasGroup · group) m := by
  by_cases hgroup : validGroup group = true
  · rw [← returnsKind_le_madeForKind_iff _ hvalid]
    have hcancel : m.cancelEventGroup group = cancelKind (eventHasGroup · group) m := by
      rw [cancelEventGroup, hgroup]
      rfl
    refine forall₂_congr fun later hlater => ?_
    rw [hcancel, runSum_congr _ fun op hop m => madeForGroup_eq hgroup m (hlater op hop)]
    exact Iff.rfl
  · -- No event is of a group that does not exist.
    have hnone : ∀ eventData, eventHasGroup eventData group = false := fun eventData => by
      simp [eventHasGroup, hgroup]
    refine iff_of_true (fun later _ => ?_) (.inr ?_)
    · rw [runSum_eq_zero _ fun op _ m => by cases op <;> simp [returnsGroup, hnone]]
      exact Nat.zero_le _
    · rintro ⟨eventData, series, _, hkind, _⟩
      simp [hnone] at hkind

/-- After a cancellation, no more executions return the event than entries are made for it, and
the same for a group, exactly when the queue was not empty or no series of it was left. -/
theorem cancelled_events_stay_cancelled_iff (ops : List EventOp) (hops : ∀ op ∈ ops, op.Valid)
    (id group : ℕ) :
    (CancelsEvent (run EventOp.apply .empty ops) id ↔
      id ≠ 0 ∧ ((run EventOp.apply .empty ops).events ≠ [] ∨
        ¬ SeriesLeft (fun eventData => eventId eventData == id) (run EventOp.apply .empty ops))) ∧
    (CancelsGroup (run EventOp.apply .empty ops) group ↔
      (run EventOp.apply .empty ops).events ≠ [] ∨
        ¬ SeriesLeft (eventHasGroup · group) (run EventOp.apply .empty ops)) :=
  ⟨cancelsEvent_iff (seriesValid_run hops) id, cancelsGroup_iff (seriesValid_run hops) group⟩

/-- An event that is queued is cancelled, and so is its group. -/
theorem cancelled_events_stay_cancelled_sample :
    CancelsEvent (run EventOp.apply .empty [.schedule 5 100 1 0]) 5 ∧
      CancelsGroup (run EventOp.apply .empty [.schedule 5 100 1 0]) 1 := by
  have h := cancelled_events_stay_cancelled_iff [.schedule 5 100 1 0]
    (by simp [EventOp.Valid]) 5 1
  exact ⟨h.1.mpr ⟨by decide, .inl (by decide)⟩, h.2.mpr (.inl (by decide))⟩

/-- A series whose event is skipped in another phase. -/
def skippedSeries : List EventOp :=
  [.setPhase 2, .scheduleSeries 5 1 1 [10, 20], .update 10, .execute]

def newEntry : List EventOp := [.setPhase 0, .schedule 5 0 1 1, .execute, .update 20, .execute]

/-- The queue is empty when the event is cancelled, the series stays, and one new entry of the
event is executed twice. -/
theorem cancelled_series_comes_back :
    let m := run EventOp.apply .empty skippedSeries
    (∀ op ∈ skippedSeries ++ newEntry, op.Valid) ∧
      runSum EventOp.apply (returnsId 5) (m.cancelEvent 5) newEntry = 2 ∧
      runSum EventOp.apply (madeForId 5) (m.cancelEvent 5) newEntry = 1 ∧
      runSum EventOp.apply (returnsGroup 1) (m.cancelEventGroup 1) newEntry = 2 ∧
      runSum EventOp.apply (madeForGroup 1) (m.cancelEventGroup 1) newEntry = 1 ∧
      ¬ CancelsEvent m 5 ∧ ¬ CancelsGroup m 1 := by
  intro m
  have hvalid : ∀ op ∈ newEntry, op.Valid := by simp [newEntry, EventOp.Valid]
  have hreturns : runSum EventOp.apply (returnsId 5) (m.cancelEvent 5) newEntry = 2 := by rfl
  have hmade : runSum EventOp.apply (madeForId 5) (m.cancelEvent 5) newEntry = 1 := by rfl
  have hreturnsGroup : runSum EventOp.apply (returnsGroup 1) (m.cancelEventGroup 1) newEntry =
      2 := by rfl
  have hmadeGroup : runSum EventOp.apply (madeForGroup 1) (m.cancelEventGroup 1) newEntry =
      1 := by rfl
  refine ⟨by simp [skippedSeries, newEntry, EventOp.Valid], hreturns, hmade, hreturnsGroup,
    hmadeGroup, fun h => ?_, fun h => ?_⟩
  · have hle := h newEntry hvalid
    omega
  · have hle := h newEntry hvalid
    omega

end RustyCore.Scripts
