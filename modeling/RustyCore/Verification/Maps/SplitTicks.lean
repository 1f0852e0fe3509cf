import RustyCore.Verification.Maps.TickHistory

/-! # Split ticks

At most one plan is outstanding, it is settled once, and the maps that it resumes are those
that ran its first half. -/

namespace RustyCore.Maps

variable {Position Data : Type}

inductive TickPhase where
  | dynamicTree
  | afterSessions
deriving DecidableEq

/-- A map ran a phase of the plan with number `plan`; `serial` tells apart the maps that
followed each other under one key. -/
structure TickEvent where
  phase : TickPhase
  plan : ℕ
  key : MapKey
  serial : ℕ
  diffMs : ℕ
deriving DecidableEq

structure TickHistory (Position Data : Type) extends MapHistory Position Data where
  settled : List ℕ
  created : ℕ
  serials : Dict MapKey ℕ
  events : List TickEvent

namespace TickHistory

def new (mapUpdateIntervalMs : ℕ) : TickHistory Position Data where
  toMapHistory := .new mapUpdateIntervalMs
  settled := []
  created := 0
  serials := ∅
  events := []

variable (world : MapWorld Position Data) (history : TickHistory Position Data)

def serial (key : MapKey) : ℕ := (history.serials.lookup key).getD 0

def step (op : MapOp Position Data) : TickHistory Position Data where
  toMapHistory := history.toMapHistory.step world op
  settled := history.settled ++ op.settles world history.toMapHistory
  created :=
    match op.creates history.toMapHistory with
    | none => history.created
    | some _ => history.created + 1
  serials :=
    match op.creates history.toMapHistory with
    | none => history.serials.retain fun key _ =>
      ((history.toMapHistory.step world op).manager.maps.lookup key).isSome
    | some key => history.serials.insert key history.created
  events := history.events ++
    (op.dynamicTrees history.toMapHistory).map (fun run =>
      ⟨.dynamicTree, history.plans.length, run.1, history.serial run.1, run.2⟩) ++
    (op.afterSessions world history.toMapHistory).map fun run =>
      ⟨.afterSessions, run.1, run.2.1, history.serial run.2.1, run.2.2⟩

theorem moved_step (op : MapOp Position Data) :
    op.Moved world history.toMapHistory (history.step world op).toMapHistory :=
  MapOp.moved_of_step world history.toMapHistory op

/-- A plan that was started and not settled. -/
def Outstanding (i : ℕ) : Prop := i < history.plans.length ∧ i ∉ history.settled

/-! ## Incarnations and serials -/

/-- The counter that gives number `n` the value `n + 1`, as far as 64 bits go. -/
def counted (n : ℕ) : ℕ := min (n + 1) (2 ^ 64 - 1)

theorem counted_succ (n : ℕ) : saturatingAdd 64 (counted n) 1 = counted (n + 1) := by
  simp only [saturatingAdd, counted]
  omega

theorem counted_inj {n m : ℕ} (hn : n < 2 ^ 64 - 1) (hm : m < 2 ^ 64 - 1)
    (h : counted n = counted m) : n = m := by
  simp only [counted] at h
  omega

structure Numbers : Prop where
  numbered : history.manager.Numbered
  next : history.manager.nextMapIncarnation = counted history.created
  serials : ∀ key, history.manager.mapIncarnations.lookup key =
    (history.serials.lookup key).map counted
  serial_lt : ∀ key serial, history.serials.lookup key = some serial → serial < history.created

variable {world history}

theorem Numbers.step (h : history.Numbers) (op : MapOp Position Data) :
    (history.step world op).Numbers := by
  cases hcreates : op.creates history.toMapHistory with
  | none =>
    have hshrunk := MapOp.shrunk_of_creates world h.numbered hcreates
    refine ⟨hshrunk.numbered h.numbered, ?_, fun key => ?_, fun key serial hserial => ?_⟩
    · simp only [TickHistory.step, hcreates]
      exact hshrunk.next.trans h.next
    · simp only [TickHistory.step, hcreates, Dict.lookup_retain_keys]
      rw [hshrunk.incarnations]
      split_ifs
      · exact h.serials key
      · rfl
    · simp only [TickHistory.step, hcreates, Dict.lookup_retain_keys] at hserial ⊢
      split_ifs at hserial
      exact h.serial_lt key serial hserial
  | some key =>
    have hgrown := MapOp.grown_of_creates world hcreates
    refine ⟨hgrown.numbered h.numbered, ?_, fun key' => ?_, fun key' serial hserial => ?_⟩
    · simp only [TickHistory.step, hcreates]
      rw [hgrown.next, h.next, counted_succ]
    · simp only [TickHistory.step, hcreates]
      rw [hgrown.incarnations, Dict.lookup_insert_eq, Dict.lookup_insert_eq]
      split_ifs
      · rw [h.next]
        rfl
      · exact h.serials key'
    · simp only [TickHistory.step, hcreates, Dict.lookup_insert_eq] at hserial ⊢
      split_ifs at hserial
      · obtain rfl := Option.some.inj hserial
        exact Nat.lt_succ_self _
      · exact (h.serial_lt key' serial hserial).trans (Nat.lt_succ_self _)

theorem created_le_step (history : TickHistory Position Data) (op : MapOp Position Data) :
    history.created ≤ (history.step world op).created := by
  simp only [TickHistory.step]
  cases op.creates history.toMapHistory with
  | none => exact le_rfl
  | some key => exact Nat.le_succ _

/-! ## Plans -/

variable (history) in
/-- Every plan has its epoch, and its maps ran the first half. -/
structure Plans : Prop where
  next : history.manager.nextTickEpoch = counted history.plans.length
  epochs : ∀ i plan, history.plans[i]? = some plan → plan.epoch = counted i
  keys : ∀ plan ∈ history.plans, (plan.updated.map MapTickParticipant.key).Nodup
  ran : ∀ i plan, history.plans[i]? = some plan → ∀ participant ∈ plan.updated,
    ∃ serial < history.created, participant.incarnation = counted serial ∧
      ⟨.dynamicTree, i, participant.key, serial, plan.effectiveDiffMs⟩ ∈ history.events

theorem mem_events_step {event : TickEvent} (h : event ∈ history.events)
    (op : MapOp Position Data) : event ∈ (history.step world op).events := by
  simp only [TickHistory.step, List.append_assoc]
  exact List.mem_append_left _ h

theorem getElem?_concat_cases {α : Type} {xs : List α} {x y : α} {i : ℕ}
    (h : (xs ++ [x])[i]? = some y) : xs[i]? = some y ∨ (i = xs.length ∧ y = x) := by
  rcases Nat.lt_trichotomy i xs.length with hlt | heq | hgt
  · rw [List.getElem?_append_left hlt] at h
    exact .inl h
  · subst heq
    simp only [List.getElem?_concat_length, Option.some.injEq] at h
    exact .inr ⟨rfl, h.symm⟩
  · rw [List.getElem?_eq_none (by simp; omega)] at h
    cases h

theorem Plans.keep (h : history.Plans) {op : MapOp Position Data}
    (hplans : (history.step world op).plans = history.plans)
    (hnext : (history.step world op).manager.nextTickEpoch = history.manager.nextTickEpoch) :
    (history.step world op).Plans := by
  refine ⟨?_, ?_, ?_, ?_⟩
  · rw [hnext, hplans]
    exact h.next
  · rw [hplans]
    exact h.epochs
  · rw [hplans]
    exact h.keys
  · intro i plan hplan participant hmem
    rw [hplans] at hplan
    obtain ⟨serial, hlt, hincarnation, hran⟩ := h.ran i plan hplan participant hmem
    exact ⟨serial, hlt.trans_le (created_le_step history op), hincarnation,
      mem_events_step hran op⟩

theorem Plans.step (h : history.Plans) (hnumbers : history.Numbers) (op : MapOp Position Data) :
    (history.step world op).Plans := by
  have hmoved := history.moved_step world op
  generalize hbase : (history.step world op).toMapHistory = next at hmoved
  cases hmoved with
  | quiet hcoordination hnext htrees hsettles hsessions =>
    exact h.keep (by rw [hbase]) (by rw [hbase]; exact hnext)
  | settled hplan hcoordination hidle hnext htrees hsettles hsessions =>
    exact h.keep (by rw [hbase]) (by rw [hbase]; exact hnext)
  | @started diffMs plan manager' hop hbegin =>
    have hresult := MapManager.began_of_begin history.manager diffMs
    rw [hbegin] at hresult
    obtain ⟨hidle, hepoch, hawaiting, hnext⟩ := hresult.coordination
    obtain ⟨hkeys, hlive⟩ := hresult.participants hnumbers.numbered
    refine ⟨?_, fun i plan' hplan' => ?_, fun plan' hplan' => ?_, ?_⟩
    · rw [hbase]
      simp only [List.length_append, List.length_singleton]
      rw [hnext, hepoch, h.next, counted_succ]
    · rw [hbase] at hplan'
      rcases getElem?_concat_cases hplan' with hold | ⟨rfl, rfl⟩
      · exact h.epochs i plan' hold
      · exact hepoch.trans h.next
    · rw [hbase] at hplan'
      rcases List.mem_append.mp hplan' with hold | hnew
      · exact h.keys plan' hold
      · obtain rfl := List.mem_singleton.mp hnew
        exact hkeys
    · intro i plan' hplan' participant hmem
      rw [hbase] at hplan'
      rcases getElem?_concat_cases hplan' with hold | ⟨rfl, rfl⟩
      · obtain ⟨serial, hlt, hincarnation, hran⟩ := h.ran i plan' hold participant hmem
        exact ⟨serial, hlt.trans_le (created_le_step history op), hincarnation,
          mem_events_step hran op⟩
      · have hfound := (hnumbers.serials participant.key).symm.trans (hlive participant hmem)
        obtain ⟨serial, hserial, hcounted⟩ := Option.map_eq_some_iff.mp hfound
        refine ⟨serial, ?_, hcounted.symm, ?_⟩
        · exact (hnumbers.serial_lt _ _ hserial).trans_le (created_le_step history op)
        · have htree : (participant.key, plan'.effectiveDiffMs) ∈
              op.dynamicTrees history.toMapHistory := by
            rw [hop]
            simp only [MapOp.dynamicTrees, hbegin]
            exact hresult.mem_ranDynamicTree hmem
          simp only [TickHistory.step]
          refine List.mem_append_left _ (List.mem_append_right _ ?_)
          refine List.mem_map.mpr ⟨_, htree, ?_⟩
          simp only [TickHistory.serial, hserial, Option.getD_some]

/-! ## The outstanding plan -/

variable (history) in
/-- Sessions are awaited for the one plan that is not settled. -/
structure Ticking : Prop where
  settled_lt : ∀ i ∈ history.settled, i < history.plans.length
  once : history.settled.Nodup
  idle : history.manager.tickCoordination = .idle →
    ∀ i < history.plans.length, i ∈ history.settled
  awaiting : ∀ epoch, history.manager.tickCoordination = .awaitingSessions epoch →
    ∃ i plan, history.plans[i]? = some plan ∧ plan.epoch = epoch ∧ i ∉ history.settled ∧
      ∀ j < history.plans.length, j ∉ history.settled → j = i
  resuming : ∀ epoch, history.manager.tickCoordination ≠ .resuming epoch

theorem lt_of_getElem? {α : Type} {xs : List α} {i : ℕ} {x : α} (h : xs[i]? = some x) :
    i < xs.length :=
  (List.getElem?_eq_some_iff.mp h).1

theorem Ticking.of_awaiting (h : history.Ticking) (hplans : history.Plans)
    (hbound : history.plans.length < 2 ^ 64) {i : ℕ} {plan : MapTickPlan}
    (hplan : history.plans[i]? = some plan)
    (hawaiting : history.manager.tickCoordination = .awaitingSessions plan.epoch) :
    i ∉ history.settled ∧ ∀ j < history.plans.length, j ∉ history.settled → j = i := by
  obtain ⟨j, plan', hplan', hepoch, hopen, hunique⟩ := h.awaiting plan.epoch hawaiting
  have hi := lt_of_getElem? hplan
  have hj := lt_of_getElem? hplan'
  have hcounted : counted i = counted j := by
    rw [← hplans.epochs i plan hplan, ← hplans.epochs j plan' hplan', hepoch]
  obtain rfl := counted_inj (by omega) (by omega) hcounted
  exact ⟨hopen, hunique⟩

theorem Ticking.step (h : history.Ticking) (hplans : history.Plans)
    (hbound : history.plans.length < 2 ^ 64) (op : MapOp Position Data) :
    (history.step world op).Ticking := by
  have hmoved := history.moved_step world op
  generalize hbase : (history.step world op).toMapHistory = next at hmoved
  cases hmoved with
  | quiet hcoordination hnext htrees hsettles hsessions =>
    have hsettled : (history.step world op).settled = history.settled := by
      simp only [TickHistory.step, hsettles, List.append_nil]
    refine ⟨?_, ?_, ?_, ?_, ?_⟩
    · rw [hsettled, hbase]
      exact h.settled_lt
    · rw [hsettled]
      exact h.once
    · rw [hsettled, hbase, hcoordination]
      exact h.idle
    · rw [hsettled, hbase, hcoordination]
      exact h.awaiting
    · rw [hbase, hcoordination]
      exact h.resuming
  | @started diffMs plan manager' hop hbegin =>
    have hresult := MapManager.began_of_begin history.manager diffMs
    rw [hbegin] at hresult
    obtain ⟨hidle, -, hawaiting, -⟩ := hresult.coordination
    have hsettled : (history.step world op).settled = history.settled := by
      subst hop
      simp only [TickHistory.step, MapOp.settles, List.append_nil]
    have hall := h.idle hidle
    refine ⟨fun i hi => ?_, ?_, fun hstill => ?_, fun epoch hepoch => ?_, fun epoch => ?_⟩
    · rw [hsettled] at hi
      rw [hbase]
      exact (h.settled_lt i hi).trans_le (by simp)
    · rw [hsettled]
      exact h.once
    · rw [hbase, hawaiting] at hstill
      cases hstill
    · rw [hbase, hawaiting] at hepoch
      obtain rfl := MapTickCoordinationState.awaitingSessions.inj hepoch
      rw [hsettled, hbase]
      refine ⟨history.plans.length, plan, by simp, rfl, fun hmem => ?_, fun j hj hopen => ?_⟩
      · exact absurd (h.settled_lt _ hmem) (lt_irrefl _)
      · by_contra hne
        exact hopen (hall j (by simp at hj; omega))
    · rw [hbase, hawaiting]
      exact MapTickCoordinationState.noConfusion
  | @settled i plan manager' hplan hcoordination hidle hnext htrees hsettles hsessions =>
    obtain ⟨hopen, hunique⟩ := h.of_awaiting hplans hbound hplan hcoordination
    have hsettled : (history.step world op).settled = history.settled ++ [i] := by
      simp only [TickHistory.step, hsettles]
    refine ⟨fun j hj => ?_, ?_, fun _ j hj => ?_, fun epoch hepoch => ?_, fun epoch => ?_⟩
    · rw [hbase]
      rw [hsettled] at hj
      rcases List.mem_append.mp hj with hold | hnew
      · exact h.settled_lt j hold
      · obtain rfl := List.mem_singleton.mp hnew
        exact lt_of_getElem? hplan
    · rw [hsettled]
      exact h.once.append (List.nodup_singleton i) (by simpa using hopen)
    · rw [hsettled]
      rw [hbase] at hj
      by_cases hmem : j ∈ history.settled
      · exact List.mem_append_left _ hmem
      · exact List.mem_append_right _ (List.mem_singleton.mpr (hunique j hj hmem))
    · rw [hbase, hidle] at hepoch
      cases hepoch
    · rw [hbase, hidle]
      exact MapTickCoordinationState.noConfusion

/-! ## The log -/

/-- Every update after the sessions is preceded by the first half that goes with it. -/
def Justified (log : List TickEvent) : Prop :=
  ∀ before event after, log = before ++ event :: after → event.phase = .afterSessions →
    { event with phase := .dynamicTree } ∈ before

theorem Justified.append {log new : List TickEvent} (h : Justified log)
    (hnew : ∀ event ∈ new, event.phase = .afterSessions →
      { event with phase := .dynamicTree } ∈ log) : Justified (log ++ new) := by
  intro before event after hsplit hphase
  rcases List.append_eq_append_iff.mp hsplit with ⟨rest, rfl, hrest⟩ | ⟨rest, hlog, hrest⟩
  · refine List.mem_append_left _ (hnew event ?_ hphase)
    rw [hrest]
    simp
  · cases rest with
    | nil =>
      have hmem : event ∈ new := by
        rw [List.nil_append] at hrest
        rw [← hrest]
        simp
      rw [List.append_nil] at hlog
      exact hlog ▸ hnew event hmem hphase
    | cons first rest =>
      obtain ⟨rfl, -⟩ := List.cons.inj hrest
      exact h before event rest hlog hphase

variable (history) in
structure Logged : Prop where
  justified : Justified history.events
  plans : ∀ event ∈ history.events, event.plan < history.plans.length ∧
    (event.phase = .afterSessions → event.plan ∈ history.settled)
  once : history.events.Nodup

/-- The phases after the sessions that a resumed plan runs. -/
def sessionEvents (history : TickHistory Position Data) (i : ℕ) (plan : MapTickPlan) :
    List TickEvent :=
  (plan.updated.filter history.manager.live).map fun participant =>
    ⟨.afterSessions, i, participant.key, history.serial participant.key, plan.effectiveDiffMs⟩

/-- A map that is still live is the one that ran the dynamic-tree phase for the plan. -/
theorem Plans.of_mem_sessionEvents (h : history.Plans) (hnumbers : history.Numbers)
    (hmaps : history.created < 2 ^ 64) {i : ℕ} {plan : MapTickPlan}
    (hplan : history.plans[i]? = some plan) {event : TickEvent}
    (hmem : event ∈ history.sessionEvents i plan) :
    event.phase = .afterSessions ∧ event.plan = i ∧
      { event with phase := .dynamicTree } ∈ history.events := by
  obtain ⟨participant, hparticipant, rfl⟩ := List.mem_map.mp hmem
  obtain ⟨hupdated, hlive⟩ := List.mem_filter.mp hparticipant
  obtain ⟨serial, hlt, hincarnation, htree⟩ := h.ran i plan hplan participant hupdated
  have hnow := (hnumbers.serials participant.key).symm.trans (by
    simpa [MapManager.live] using hlive : _ ∧ _).1
  obtain ⟨serial', hserial', hcounted⟩ := Option.map_eq_some_iff.mp hnow
  have hlt' := hnumbers.serial_lt _ _ hserial'
  obtain rfl : serial' = serial :=
    counted_inj (by omega) (by omega) (hcounted.trans hincarnation)
  refine ⟨rfl, rfl, ?_⟩
  simpa only [TickHistory.serial, hserial', Option.getD_some] using htree

theorem Plans.nodup_sessionEvents (h : history.Plans) {i : ℕ} {plan : MapTickPlan}
    (hplan : history.plans[i]? = some plan) : (history.sessionEvents i plan).Nodup := by
  have hsub : ((plan.updated.filter history.manager.live).map
      MapTickParticipant.key).Sublist (plan.updated.map MapTickParticipant.key) :=
    List.Sublist.map _ List.filter_sublist
  refine List.Nodup.of_map TickEvent.key ?_
  rw [sessionEvents, List.map_map]
  exact (h.keys plan (List.mem_of_getElem? hplan)).sublist hsub

theorem Logged.step (h : history.Logged) (hnumbers : history.Numbers) (hplans : history.Plans)
    (hticking : history.Ticking) (hticks : history.plans.length < 2 ^ 64)
    (hmaps : history.created < 2 ^ 64) (op : MapOp Position Data) :
    (history.step world op).Logged := by
  have hmoved := history.moved_step world op
  generalize hbase : (history.step world op).toMapHistory = next at hmoved
  cases hmoved with
  | quiet hcoordination hnext htrees hsettles hsessions =>
    have hevents : (history.step world op).events = history.events := by
      simp only [TickHistory.step, htrees, hsessions, List.map_nil, List.append_nil]
    have hsettled : (history.step world op).settled = history.settled := by
      simp only [TickHistory.step, hsettles, List.append_nil]
    refine ⟨hevents ▸ h.justified, ?_, hevents ▸ h.once⟩
    rw [hevents, hsettled, hbase]
    exact h.plans
  | @started diffMs plan manager' hop hbegin =>
    subst hop
    set trees := (MapOp.dynamicTrees history.toMapHistory (.beginTick diffMs)).map fun run =>
      (⟨.dynamicTree, history.plans.length, run.1, history.serial run.1, run.2⟩ : TickEvent)
      with htrees
    have hevents : (history.step world (.beginTick diffMs)).events = history.events ++ trees := by
      simp only [TickHistory.step, MapOp.afterSessions, List.map_nil, List.append_nil]
      exact congrArg (history.events ++ ·) htrees.symm
    have hsettled : (history.step world (.beginTick diffMs)).settled = history.settled := by
      simp only [TickHistory.step, MapOp.settles, List.append_nil]
    have htree : ∀ event ∈ trees, event.phase = .dynamicTree ∧
        event.plan = history.plans.length := by
      intro event hmem
      obtain ⟨run, -, rfl⟩ := List.mem_map.mp hmem
      exact ⟨rfl, rfl⟩
    refine ⟨?_, fun event hmem => ?_, ?_⟩
    · rw [hevents]
      refine h.justified.append fun event hmem hphase => ?_
      rw [(htree event hmem).1] at hphase
      cases hphase
    · rw [hevents] at hmem
      rw [hsettled, hbase]
      simp only [List.length_append, List.length_singleton]
      rcases List.mem_append.mp hmem with hold | hfresh
      · obtain ⟨hlt, hafter⟩ := h.plans event hold
        exact ⟨by omega, hafter⟩
      · obtain ⟨hphase, hplan⟩ := htree event hfresh
        exact ⟨by omega, fun hafter => by rw [hphase] at hafter; cases hafter⟩
    · rw [hevents]
      refine h.once.append ?_ fun event hold hfresh => ?_
      · refine (nodup_ranDynamicTree _ _).map fun run run' hrun => ?_
        obtain ⟨-, -, hkey, -, hdiff⟩ := TickEvent.mk.inj hrun
        exact Prod.ext hkey hdiff
      · have hlt := (h.plans event hold).1
        rw [(htree event hfresh).2] at hlt
        exact absurd hlt (lt_irrefl _)
  | @settled i plan manager' hplan hcoordination hidle hnext htrees hsettles hsessions =>
    obtain ⟨hopen, -⟩ := hticking.of_awaiting hplans hticks hplan hcoordination
    have hsettled : (history.step world op).settled = history.settled ++ [i] := by
      simp only [TickHistory.step, hsettles]
    rcases hsessions with hnone | hran
    · have hevents : (history.step world op).events = history.events := by
        simp only [TickHistory.step, htrees, hnone, List.map_nil, List.append_nil]
      refine ⟨hevents ▸ h.justified, fun event hmem => ?_, hevents ▸ h.once⟩
      rw [hevents] at hmem
      rw [hsettled, hbase]
      exact ⟨(h.plans event hmem).1,
        fun hafter => List.mem_append_left _ ((h.plans event hmem).2 hafter)⟩
    · have hevents : (history.step world op).events =
          history.events ++ history.sessionEvents i plan := by
        simp only [TickHistory.step, htrees, hran, List.map_nil, List.append_nil, List.map_map]
        rfl
      have hsession : ∀ event ∈ history.sessionEvents i plan, _ := fun event =>
        hplans.of_mem_sessionEvents hnumbers hmaps hplan
      refine ⟨?_, fun event hmem => ?_, ?_⟩
      · rw [hevents]
        exact h.justified.append fun event hmem _ => (hsession event hmem).2.2
      · rw [hevents] at hmem
        rw [hsettled, hbase]
        rcases List.mem_append.mp hmem with hold | hfresh
        · exact ⟨(h.plans event hold).1,
            fun hafter => List.mem_append_left _ ((h.plans event hold).2 hafter)⟩
        · rw [(hsession event hfresh).2.1]
          exact ⟨lt_of_getElem? hplan, fun _ => by simp⟩
      · rw [hevents]
        refine h.once.append (hplans.nodup_sessionEvents hplan) fun event hold hfresh => ?_
        have hafter := (h.plans event hold).2 (hsession event hfresh).1
        rw [(hsession event hfresh).2.1] at hafter
        exact hopen hafter

/-! ## Runs -/

variable (history) in
structure TickInvariant : Prop where
  numbers : history.Numbers
  plans : history.Plans
  ticking : history.Ticking
  logged : history.Logged

theorem TickInvariant.step (h : history.TickInvariant) (hticks : history.plans.length < 2 ^ 64)
    (hmaps : history.created < 2 ^ 64) (op : MapOp Position Data) :
    (history.step world op).TickInvariant where
  numbers := h.numbers.step op
  plans := h.plans.step h.numbers op
  ticking := h.ticking.step h.plans hticks op
  logged := h.logged.step h.numbers h.plans h.ticking hticks hmaps op

theorem tickInvariant_new (mapUpdateIntervalMs : ℕ) :
    (TickHistory.new mapUpdateIntervalMs : TickHistory Position Data).TickInvariant where
  numbers := ⟨fun _ => rfl, rfl, fun _ => rfl, nofun⟩
  plans := ⟨rfl, by simp [TickHistory.new, MapHistory.new], nofun,
    by simp [TickHistory.new, MapHistory.new]⟩
  ticking := ⟨nofun, List.nodup_nil, fun _ i hi => absurd hi (Nat.not_lt_zero i), nofun, nofun⟩
  logged := ⟨fun before event after h => by simp [TickHistory.new] at h, nofun, List.nodup_nil⟩

theorem length_le_step (history : TickHistory Position Data) (op : MapOp Position Data) :
    history.plans.length ≤ (history.step world op).plans.length := by
  have hmoved := history.moved_step world op
  generalize (history.step world op).toMapHistory = next at hmoved ⊢
  cases hmoved with
  | quiet hcoordination hnext htrees hsettles hsessions => exact le_rfl
  | started hop hbegin => simp
  | settled hplan hcoordination hidle hnext htrees hsettles hsessions => exact le_rfl

/-- How many plans or maps there were, whichever are more. -/
def count (history : TickHistory Position Data) : ℕ := max history.plans.length history.created

theorem TickInvariant.run {mapUpdateIntervalMs : ℕ} {ops : List (MapOp Position Data)}
    (hcount : (RustyCore.run (TickHistory.step world) (.new mapUpdateIntervalMs) ops).count <
      2 ^ 64) :
    (RustyCore.run (TickHistory.step world) (.new mapUpdateIntervalMs) ops).TickInvariant := by
  have hmono : ∀ (history : TickHistory Position Data) op,
      history.count ≤ (history.step world op).count := fun history op =>
    max_le_max (length_le_step history op) (created_le_step history op)
  have hops : EachStep (TickHistory.step world) (fun _ _ => True) (.new mapUpdateIntervalMs) ops :=
    EachStep.of_forall (fun _ _ _ => trivial) _
  refine run_invariant_below (fun _ => True) TickInvariant (fun _ _ _ => trivial) count (2 ^ 64)
    (fun history op _ => hmono history op) (fun history op _ h _ hlt => ?_) trivial
    (tickInvariant_new mapUpdateIntervalMs) hops hcount
  have hbelow := (hmono history op).trans_lt hlt
  exact h.step (lt_of_le_of_lt (le_max_left _ _) hbelow)
    (lt_of_le_of_lt (le_max_right _ _) hbelow) op

theorem Ticking.coordination (h : history.Ticking) (hplans : history.Plans)
    (hbound : history.plans.length < 2 ^ 64) {i : ℕ} {plan : MapTickPlan}
    (hplan : history.plans[i]? = some plan) :
    history.Outstanding i ↔ history.manager.tickCoordination = .awaitingSessions plan.epoch := by
  constructor
  · rintro ⟨hlt, hopen⟩
    cases hcoordination : history.manager.tickCoordination with
    | idle => exact absurd (h.idle hcoordination i hlt) hopen
    | resuming epoch => exact absurd hcoordination (h.resuming epoch)
    | awaitingSessions epoch =>
      obtain ⟨j, plan', hplan', hepoch, -, hunique⟩ := h.awaiting epoch hcoordination
      obtain rfl := hunique i hlt hopen
      obtain rfl := Option.some.inj (hplan.symm.trans hplan')
      rw [hepoch]
  · intro hawaiting
    exact ⟨lt_of_getElem? hplan, (h.of_awaiting hplans hbound hplan hawaiting).1⟩

theorem Ticking.busy_iff (h : history.Ticking) (diffMs : ℕ) :
    (∃ i, history.Outstanding i) ↔
      ∃ epoch, history.manager.beginTickLikeCpp diffMs = (.busy epoch, history.manager) := by
  constructor
  · rintro ⟨i, hlt, hopen⟩
    cases hcoordination : history.manager.tickCoordination with
    | idle => exact absurd (h.idle hcoordination i hlt) hopen
    | resuming epoch => exact absurd hcoordination (h.resuming epoch)
    | awaitingSessions epoch =>
      refine ⟨epoch, ?_⟩
      rw [MapManager.beginTickLikeCpp]
      split
      · rename_i found hfound
        obtain rfl := MapTickCoordinationState.awaitingSessions.inj
          (hcoordination.symm.trans hfound)
        rfl
      · rename_i found hfound
        cases hcoordination.symm.trans hfound
      · rename_i hfound
        cases hcoordination.symm.trans hfound
  · rintro ⟨epoch, hbusy⟩
    have hresult := MapManager.began_of_begin history.manager diffMs
    rw [hbusy] at hresult
    generalize hpair : (MapTickBegin.busy epoch, history.manager) = pair at hresult
    cases hresult with
    | waiting hidle => cases (Prod.mk.inj hpair).1
    | started hidle hpassed hepoch hupdated hdestroyed hmaps hids hrest => cases (Prod.mk.inj hpair).1
    | busy epoch hepoch =>
      rcases hepoch with hawaiting | hresuming
      · obtain ⟨i, plan, hplan, -, hopen, -⟩ := h.awaiting epoch hawaiting
        exact ⟨i, lt_of_getElem? hplan, hopen⟩
      · exact absurd hresuming (h.resuming epoch)

end TickHistory

/-- One plan is outstanding at most, and `begin` is busy as long as one is. A plan is settled
at most once and every other use of it is refused. A map runs the phases after the sessions
once for a plan at most, after the dynamic-tree phase of the same map for the same plan with
the same time. -/
theorem split_ticks_once (world : MapWorld Position Data) (mapUpdateIntervalMs : ℕ)
    (ops : List (MapOp Position Data))
    (hcount : (run (TickHistory.step world) (.new mapUpdateIntervalMs) ops).count < 2 ^ 64) :
    let history := run (TickHistory.step world) (.new mapUpdateIntervalMs) ops
    (∀ i j, history.Outstanding i → history.Outstanding j → i = j) ∧
    history.settled.Nodup ∧
    (∀ i plan, history.plans[i]? = some plan → ¬history.Outstanding i →
      history.manager.resumeTick world.phases plan =
        (.rejected history.manager.tickCoordination plan.epoch, history.manager, []) ∧
      history.manager.abandonTickLikeCpp plan =
        (.rejected history.manager.tickCoordination plan.epoch, history.manager)) ∧
    (∀ i plan, history.plans[i]? = some plan → history.Outstanding i →
      (history.manager.resumeTick world.phases plan).1 = .resumed ∧
      (history.manager.resumeTick world.phases plan).2.2 =
        (plan.updated.filter history.manager.live).map (fun participant =>
          (participant, plan.effectiveDiffMs)) ∧
      (history.manager.abandonTickLikeCpp plan).1 = .resumed) ∧
    TickHistory.Justified history.events ∧ history.events.Nodup ∧
    (∀ diffMs, (∃ i, history.Outstanding i) ↔
      ∃ epoch, history.manager.beginTickLikeCpp diffMs = (.busy epoch, history.manager)) := by
  have h := TickHistory.TickInvariant.run hcount
  intro history
  have hticks : history.plans.length < 2 ^ 64 := lt_of_le_of_lt (le_max_left _ _) hcount
  have hopen : ∀ i plan, history.plans[i]? = some plan →
      (history.Outstanding i ↔ history.manager.tickCoordination = .awaitingSessions plan.epoch) :=
    fun i plan hplan => h.ticking.coordination h.plans hticks hplan
  refine ⟨fun i j hi hj => ?_, h.ticking.once, fun i plan hplan hsettled => ?_,
    fun i plan hplan houtstanding => ?_, h.logged.justified, h.logged.once, h.ticking.busy_iff⟩
  · have hplan := List.getElem?_eq_getElem hi.1
    have hunique := h.ticking.of_awaiting h.plans hticks hplan ((hopen i _ hplan).mp hi)
    exact (hunique.2 j hj.1 hj.2).symm
  · rw [hopen i plan hplan] at hsettled
    exact ⟨by rw [MapManager.resumeTick, if_pos hsettled],
      by rw [MapManager.abandonTickLikeCpp, if_pos hsettled]⟩
  · have hawaiting := (hopen i plan hplan).mp houtstanding
    have hresult := MapManager.resumed_of_resume world.phases history.manager plan
    refine ⟨?_, ?_, by rw [MapManager.abandonTickLikeCpp, if_neg (not_not.mpr hawaiting)]⟩
    · generalize history.manager.resumeTick world.phases plan = result at hresult ⊢
      cases hresult with
      | rejected hcoordination => exact absurd hawaiting hcoordination
      | resumed hcoordination hmaps hincarnations hrest => rfl
    · generalize history.manager.resumeTick world.phases plan = result at hresult ⊢
      cases hresult with
      | rejected hcoordination => exact absurd hawaiting hcoordination
      | resumed hcoordination hmaps hincarnations hrest => rfl

/-- A map is updated by one tick and destroyed and created again during the next. -/
def tickOps : List (MapOp Unit Unit) :=
  [.owner (.createMap ⟨571, 0⟩ 0 .world), .beginTick 10, .resumeTick 0, .beginTick 10,
    .destroyMap ⟨571, 0⟩, .owner (.createMap ⟨571, 0⟩ 0 .world), .resumeTick 1, .resumeTick 0]

theorem split_ticks_once_sample :
    (run (TickHistory.step stillWorld) (.new 10) tickOps).count = 2 ∧
      (run (TickHistory.step stillWorld) (.new 10) tickOps).settled.Nodup := by
  have hcount : (run (TickHistory.step stillWorld) (.new 10) tickOps).count = 2 := by decide
  exact ⟨hcount, (split_ticks_once stillWorld 10 tickOps (by rw [hcount]; decide)).2.1⟩

end RustyCore.Maps
