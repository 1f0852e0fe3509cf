import RustyCore.Library.Run
import RustyCore.Model.Transports.Transport
import Mathlib

/-! # Around the path and to a stop

Along a run of ticks a transport follows its clock as long as that fits in 32 bits, it stops
once at the point it was asked to stop at, and it goes on after a restart if it had not stopped
yet. -/

namespace RustyCore.Transports

namespace Transport

variable {t : Transport}
variable {request : BitVec 32} {ticks : List Tick}

/-! ## One tick -/

theorem tick_of_period (hperiod : t.getTransportPeriod ≠ 0) (k : Tick) :
    t.tick k = { (if t.justStops k.diffMs k.nowMs then t.stop else t) with
      pathProgressMs := t.newPathProgressMs k.diffMs k.nowMs
      eventsToTrigger :=
        if t.pathProgressMs / t.getTransportPeriod !=
            t.newPathProgressMs k.diffMs k.nowMs / t.getTransportPeriod then
          t.eventsToTrigger.map fun _ => true
        else t.eventsToTrigger
      positionChangeTimerMs :=
        if saturatingSubMs t.positionChangeTimerMs k.diffMs == 0 &&
            t.getExpectedMapId == some k.currentMapId then transportPositionUpdateDelayMs
        else saturatingSubMs t.positionChangeTimerMs k.diffMs } := by
  simp only [tick, update, if_neg hperiod]
  split <;> rfl

section Kept

variable (hperiod : t.getTransportPeriod ≠ 0) (k : Tick)
include hperiod

theorem pathProgressMs_tick :
    (t.tick k).pathProgressMs = t.newPathProgressMs k.diffMs k.nowMs := by
  rw [tick_of_period hperiod]

theorem requestStopTimestampMs_tick :
    (t.tick k).requestStopTimestampMs = t.requestStopTimestampMs := by
  rw [tick_of_period hperiod]
  split <;> rfl

theorem allowStopping_tick : (t.tick k).allowStopping = t.allowStopping := by
  rw [tick_of_period hperiod]
  split <;> rfl

theorem getTransportPeriod_tick : (t.tick k).getTransportPeriod = t.getTransportPeriod := by
  rw [tick_of_period hperiod]
  split <;> rfl

theorem getExpectedMapId_tick : (t.tick k).getExpectedMapId = t.getExpectedMapId := by
  rw [tick_of_period hperiod]
  split <;> rfl

theorem movementState_tick :
    (t.tick k).movementState =
      if t.justStops k.diffMs k.nowMs then .waitingOnPauseWaypoint else t.movementState := by
  rw [tick_of_period hperiod]
  split <;> rfl

theorem report_of_period :
    (t.report k).timerMs =
        some (t.newPathProgressMs k.diffMs k.nowMs % t.getTransportPeriod) ∧
      (t.report k).cycleReset = (t.pathProgressMs / t.getTransportPeriod !=
        t.newPathProgressMs k.diffMs k.nowMs / t.getTransportPeriod) ∧
      (t.report k).justStopped = t.justStops k.diffMs k.nowMs ∧
      (t.report k).positionUpdateDue =
        (saturatingSubMs t.positionChangeTimerMs k.diffMs == 0 &&
          t.getExpectedMapId == some k.currentMapId &&
          ((t.tick k).movementState == .moving || t.justStops k.diffMs k.nowMs)) := by
  simp only [report, tick, update, if_neg hperiod, and_self]

end Kept

/-! ## Progress -/

theorem toNat_runsOnTo (t : Transport) (diffMs : BitVec 32) :
    (t.runsOnTo diffMs).toNat = min (t.pathProgressMs.toNat + diffMs.toNat) 4294967295 := by
  have hle : min (t.pathProgressMs.toNat + diffMs.toNat) 4294967295 < 4294967296 := by omega
  rw [runsOnTo, saturatingAddMs, BitVec.toNat_ofNat, saturatingAdd]
  exact Nat.mod_eq_of_lt hle

theorem newPathProgressMs_of_none (hstoppable : t.allowStopping = true)
    (hrequest : t.requestStopTimestampMs = none) (diffMs : BitVec 32) (nowMs : BitVec 64) :
    t.newPathProgressMs diffMs nowMs = t.runsOnTo diffMs := by
  simp [newPathProgressMs, hstoppable, hrequest]

theorem toNat_newPathProgressMs_of_some (hstoppable : t.allowStopping = true)
    (hrequest : t.requestStopTimestampMs = some request) (diffMs : BitVec 32) (nowMs : BitVec 64) :
    (t.newPathProgressMs diffMs nowMs).toNat =
      min (t.pathProgressMs.toNat + diffMs.toNat) request.toNat := by
  have hsaturated := t.toNat_runsOnTo diffMs
  have hrequestLt := request.isLt
  simp only [newPathProgressMs, hstoppable, hrequest, Bool.not_true, Bool.false_eq_true, if_false,
    BitVec.lt_def]
  split <;> omega

theorem toNat_newPathProgressMs_of_not_stoppable (hstoppable : t.allowStopping = false)
    (diffMs : BitVec 32) (nowMs : BitVec 64) :
    (t.newPathProgressMs diffMs nowMs).toNat = min nowMs.toNat 4294967295 := by
  have hle : min nowMs.toNat 4294967295 < 4294967296 := by omega
  simp only [newPathProgressMs, hstoppable, Bool.not_false, if_true, BitVec.toNat_ofNat]
  exact Nat.mod_eq_of_lt hle

/-- Where the clock of a transport is after a run of ticks: its own progress with all the time
that passed, or the time of the server. -/
def clockAfter (t : Transport) (ticks : List Tick) : ℕ :=
  if t.allowStopping then
    t.pathProgressMs.toNat + (ticks.map fun k => k.diffMs.toNat).sum
  else ticks.getLast?.elim t.pathProgressMs.toNat fun k => k.nowMs.toNat

@[simp] theorem clockAfter_nil : t.clockAfter [] = t.pathProgressMs.toNat := by
  simp [clockAfter]

theorem clockAfter_cons (hperiod : t.getTransportPeriod ≠ 0)
    (hrequest : t.requestStopTimestampMs = none) (k : Tick) (ticks : List Tick)
    (hfits : t.clockAfter [k] < 4294967296) :
    t.clockAfter (k :: ticks) = (t.tick k).clockAfter ticks ∧
      (t.tick k).pathProgressMs.toNat = t.clockAfter [k] := by
  simp only [clockAfter, allowStopping_tick hperiod, pathProgressMs_tick hperiod] at hfits ⊢
  cases hstoppable : t.allowStopping with
  | true =>
    simp only [hstoppable, if_true, List.map_cons, List.map_nil, List.sum_cons, List.sum_nil,
      newPathProgressMs_of_none hstoppable hrequest, toNat_runsOnTo] at hfits ⊢
    omega
  | false =>
    simp only [hstoppable, Bool.false_eq_true, if_false, List.getLast?_singleton,
      Option.elim_some, toNat_newPathProgressMs_of_not_stoppable hstoppable] at hfits ⊢
    refine ⟨?_, by omega⟩
    cases ticks with
    | nil =>
      simp only [List.getLast?_singleton, Option.elim_some, List.getLast?_nil,
        Option.elim_none]
      omega
    | cons k' ticks => rw [List.getLast?_cons_cons, List.getLast?_eq_some_getLast (by simp)]; rfl

/-- A multiple of the period lies after one point and not after the other. -/
def CrossesBoundary (period before after : ℕ) : Prop :=
  ∃ n, min before after < n * period ∧ n * period ≤ max before after

theorem crossesBoundary_iff {period : ℕ} (hperiod : 0 < period) (before after : ℕ) :
    CrossesBoundary period before after ↔ before / period ≠ after / period := by
  constructor
  · rintro ⟨n, hlow, hhigh⟩ heq
    have hn : n ≤ max before after / period := (Nat.le_div_iff_mul_le hperiod).mpr hhigh
    have hn' : min before after / period < n := (Nat.div_lt_iff_lt_mul hperiod).mpr hlow
    rcases le_total before after with hle | hle <;> simp_all <;> omega
  · intro hne
    refine ⟨max before after / period, ?_, Nat.div_mul_le_self _ _⟩
    refine (Nat.div_lt_iff_lt_mul hperiod).mp ?_
    rcases le_total before after with hle | hle
    · simpa [hle] using lt_of_le_of_ne (Nat.div_le_div_right hle) hne
    · simpa [hle] using lt_of_le_of_ne (Nat.div_le_div_right hle) hne.symm

/-! ## Runs without a stop request -/

theorem run_keeps (hperiod : t.getTransportPeriod ≠ 0) (ticks : List Tick) :
    (run tick t ticks).getTransportPeriod = t.getTransportPeriod ∧
      (run tick t ticks).requestStopTimestampMs = t.requestStopTimestampMs ∧
      (run tick t ticks).allowStopping = t.allowStopping := by
  induction ticks generalizing t with
  | nil => exact ⟨rfl, rfl, rfl⟩
  | cons k ticks ih =>
    obtain ⟨hsame, hrequest, hstoppable⟩ := ih (getTransportPeriod_tick hperiod k ▸ hperiod)
    rw [run_cons, hsame, hrequest, hstoppable, getTransportPeriod_tick hperiod,
      requestStopTimestampMs_tick hperiod, allowStopping_tick hperiod]
    exact ⟨rfl, rfl, rfl⟩

theorem clockAfter_append (hperiod : t.getTransportPeriod ≠ 0)
    (hrequest : t.requestStopTimestampMs = none) (ticks rest : List Tick)
    (hfits : ∀ before, before <+: ticks → t.clockAfter before < 4294967296) :
    t.clockAfter (ticks ++ rest) = (run tick t ticks).clockAfter rest := by
  induction ticks generalizing t with
  | nil => rfl
  | cons k ticks ih =>
    have hfirst : t.clockAfter [k] < 4294967296 := hfits [k] ⟨ticks, rfl⟩
    rw [List.cons_append, (clockAfter_cons hperiod hrequest k _ hfirst).1, run_cons]
    refine ih (getTransportPeriod_tick hperiod k ▸ hperiod)
      (requestStopTimestampMs_tick hperiod k ▸ hrequest) fun before hbefore => ?_
    rw [← (clockAfter_cons hperiod hrequest k before hfirst).1]
    exact hfits _ (List.cons_prefix_cons.mpr ⟨rfl, hbefore⟩)

theorem pathProgressMs_run (hperiod : t.getTransportPeriod ≠ 0)
    (hrequest : t.requestStopTimestampMs = none)
    (hfits : ∀ before, before <+: ticks → t.clockAfter before < 4294967296) :
    (run tick t ticks).pathProgressMs.toNat = t.clockAfter ticks := by
  have h := clockAfter_append hperiod hrequest ticks [] hfits
  rw [List.append_nil, clockAfter_nil] at h
  exact h.symm

/-- A tick reports the clock modulo the period, and whether it passed a multiple of it. -/
theorem report_of_clock (hperiod : t.getTransportPeriod ≠ 0)
    (hrequest : t.requestStopTimestampMs = none) (k : Tick)
    (hfits : t.clockAfter [k] < 4294967296) :
    (t.report k).timerMs.map BitVec.toNat =
        some (t.clockAfter [k] % t.getTransportPeriod.toNat) ∧
      ((t.report k).cycleReset = true ↔ CrossesBoundary t.getTransportPeriod.toNat
        t.pathProgressMs.toNat (t.clockAfter [k])) := by
  obtain ⟨htimer, hreset, -, -⟩ := report_of_period hperiod k
  have hpos : 0 < t.getTransportPeriod.toNat :=
    Nat.pos_of_ne_zero fun h => hperiod (BitVec.eq_of_toNat_eq h)
  have hclock := (clockAfter_cons hperiod hrequest k [] hfits).2
  rw [pathProgressMs_tick hperiod] at hclock
  rw [htimer, hreset, crossesBoundary_iff hpos, Option.map_some, BitVec.toNat_umod, hclock,
    bne_iff_ne, Ne, BitVec.toNat_inj.symm, BitVec.toNat_udiv, BitVec.toNat_udiv, hclock]
  exact ⟨rfl, Iff.rfl⟩

/-! ## Stops -/

/-- The point of the path at which a stop is requested, in the current cycle. -/
def stopPoint (t : Transport) (nextPauseTimestampMs : BitVec 32) : ℕ :=
  t.pathProgressMs.toNat / t.getTransportPeriod.toNat * t.getTransportPeriod.toNat +
    nextPauseTimestampMs.toNat

theorem requestStop_of_fits (hperiod : t.getTransportPeriod ≠ 0) (p : BitVec 32) :
    (t.requestStopAtNextPause p).requestStopTimestampMs =
      some (BitVec.ofNat 32 (t.stopPoint p)) := by
  rw [requestStopAtNextPause, if_neg hperiod, stopPoint]
  refine congrArg some (BitVec.eq_of_toNat_eq ?_)
  simp [BitVec.toNat_add, BitVec.toNat_mul, BitVec.toNat_udiv]

theorem justStops_iff (hstoppable : t.allowStopping = true)
    (hrequest : t.requestStopTimestampMs = some request) (diffMs : BitVec 32) (nowMs : BitVec 64) :
    t.justStops diffMs nowMs = true ↔ t.movementState = .moving ∧
      request.toNat ≤ t.pathProgressMs.toNat + diffMs.toNat := by
  have hsaturated := t.toNat_runsOnTo diffMs
  have hrequestLt := request.isLt
  simp only [justStops, stopRequestWithinTick, newPathProgressMs, hstoppable, hrequest,
    Option.any_some, Bool.true_and, Bool.not_true, Bool.false_eq_true, if_false,
    Bool.and_eq_true, beq_iff_eq, decide_eq_true_eq, Option.some.injEq, BitVec.le_def,
    BitVec.lt_def]
  constructor
  · rintro ⟨⟨hmoving, hwithin⟩, -⟩
    exact ⟨hmoving, by omega⟩
  · rintro ⟨hmoving, hreached⟩
    have hwithin : request.toNat ≤ (t.runsOnTo diffMs).toNat := by omega
    exact ⟨⟨hmoving, hwithin⟩, by rw [if_neg (Nat.not_lt.mpr hwithin)]⟩

theorem justStops_eq_false (h : t.allowStopping = false ∨ t.movementState ≠ .moving ∨
    t.requestStopTimestampMs = none) (diffMs : BitVec 32) (nowMs : BitVec 64) :
    t.justStops diffMs nowMs = false := by
  rw [justStops, stopRequestWithinTick]
  rcases h with h | h | h <;> simp [h]

/-- How often a run of ticks reports a stop. -/
def stopsReported (t : Transport) (ticks : List Tick) : ℕ :=
  (t.reports ticks).countP (·.justStopped)

theorem stopsReported_cons (hperiod : t.getTransportPeriod ≠ 0) (k : Tick) (ticks : List Tick) :
    t.stopsReported (k :: ticks) =
      (t.tick k).stopsReported ticks + if t.justStops k.diffMs k.nowMs then 1 else 0 := by
  rw [stopsReported, reports, List.countP_cons, (report_of_period hperiod k).2.2.1]
  rfl

theorem stopsReported_eq_zero (hperiod : t.getTransportPeriod ≠ 0)
    (h : t.allowStopping = false ∨ t.movementState ≠ .moving ∨
      t.requestStopTimestampMs = none) (ticks : List Tick) : t.stopsReported ticks = 0 := by
  induction ticks generalizing t with
  | nil => rfl
  | cons k ticks ih =>
    have hnot := justStops_eq_false h k.diffMs k.nowMs
    rw [stopsReported_cons hperiod, hnot]
    refine ih (getTransportPeriod_tick hperiod k ▸ hperiod) ?_
    rwa [allowStopping_tick hperiod, movementState_tick hperiod, hnot, if_neg Bool.false_ne_true,
      requestStopTimestampMs_tick hperiod]

/-- A moving transport stops once, as soon as it reaches the point. -/
theorem stopsReported_of_request (hperiod : t.getTransportPeriod ≠ 0)
    (hstoppable : t.allowStopping = true) (hmoving : t.movementState = .moving)
    (hrequest : t.requestStopTimestampMs = some request) (ticks : List Tick) :
    t.stopsReported ticks =
      if ticks ≠ [] ∧ request.toNat ≤
          t.pathProgressMs.toNat + (ticks.map fun k => k.diffMs.toNat).sum then 1 else 0 := by
  induction ticks generalizing t with
  | nil => rfl
  | cons k ticks ih =>
    have hperiod' := getTransportPeriod_tick hperiod k ▸ hperiod
    have hstate := movementState_tick hperiod k
    rw [stopsReported_cons hperiod, List.map_cons, List.sum_cons]
    by_cases hreached : request.toNat ≤ t.pathProgressMs.toNat + k.diffMs.toNat
    · have hstops := (justStops_iff hstoppable hrequest k.diffMs k.nowMs).mpr
        ⟨hmoving, hreached⟩
      rw [if_pos hstops] at hstate ⊢
      rw [stopsReported_eq_zero hperiod' (.inr (.inl (by rw [hstate]; decide))),
        if_pos ⟨List.cons_ne_nil _ _, by omega⟩]
    · have hstops : ¬ t.justStops k.diffMs k.nowMs = true := fun h =>
        hreached ((justStops_iff hstoppable hrequest k.diffMs k.nowMs).mp h).2
      have hprogress := toNat_newPathProgressMs_of_some hstoppable hrequest k.diffMs k.nowMs
      rw [← pathProgressMs_tick hperiod] at hprogress
      rw [if_neg hstops] at hstate ⊢
      rw [ih hperiod' ((allowStopping_tick hperiod k).trans hstoppable)
        (hstate.trans hmoving) ((requestStopTimestampMs_tick hperiod k).trans hrequest)]
      -- without a further tick the point stays ahead
      cases ticks with
      | nil => simp [hreached]
      | cons k' ticks =>
        refine if_congr ?_ rfl rfl
        simp only [ne_eq, reduceCtorEq, not_false_eq_true, true_and]
        omega

/-- With a stop request ahead, a transport runs up to it and no further. -/
theorem pathProgressMs_run_of_request (hperiod : t.getTransportPeriod ≠ 0)
    (hstoppable : t.allowStopping = true) (hrequest : t.requestStopTimestampMs = some request)
    (hahead : t.pathProgressMs.toNat ≤ request.toNat) (ticks : List Tick) :
    (run tick t ticks).pathProgressMs.toNat =
      min (t.pathProgressMs.toNat + (ticks.map fun k => k.diffMs.toNat).sum) request.toNat := by
  induction ticks generalizing t with
  | nil => simpa using (Nat.min_eq_left hahead).symm
  | cons k ticks ih =>
    have hprogress := toNat_newPathProgressMs_of_some hstoppable hrequest k.diffMs k.nowMs
    rw [← pathProgressMs_tick hperiod] at hprogress
    rw [run_cons, ih (getTransportPeriod_tick hperiod k ▸ hperiod)
      ((allowStopping_tick hperiod k).trans hstoppable)
      ((requestStopTimestampMs_tick hperiod k).trans hrequest) (by omega), hprogress,
      List.map_cons, List.sum_cons]
    omega

/-! ## Restarts -/

theorem saturatingSubMs_eq_zero_iff {x y : BitVec 32} :
    saturatingSubMs x y = 0 ↔ x.toNat ≤ y.toNat := by
  have hlt : x.toNat - y.toNat < 2 ^ 32 := by omega
  rw [saturatingSubMs, ← BitVec.toNat_inj, BitVec.toNat_ofNat, Nat.mod_eq_of_lt hlt]
  exact Nat.sub_eq_zero_iff_le

theorem exists_positionUpdateDue (hperiod : t.getTransportPeriod ≠ 0)
    (hmoving : t.movementState = .moving) (hrequest : t.requestStopTimestampMs = none)
    {mapId : BitVec 32} (hmap : t.getExpectedMapId = some mapId)
    (hticks : ∀ k ∈ ticks, k.currentMapId = mapId) (hne : ticks ≠ [])
    (htimer : t.positionChangeTimerMs.toNat ≤ (ticks.map fun k => k.diffMs.toNat).sum) :
    ∃ u ∈ t.reports ticks, u.positionUpdateDue = true := by
  induction ticks generalizing t with
  | nil => exact absurd rfl hne
  | cons k ticks ih =>
    have hnot := justStops_eq_false (.inr (.inr hrequest)) k.diffMs k.nowMs
    have hstate := movementState_tick hperiod k
    rw [hnot, if_neg Bool.false_ne_true] at hstate
    by_cases hpassed : t.positionChangeTimerMs.toNat ≤ k.diffMs.toNat
    · refine ⟨t.report k, List.mem_cons_self, ?_⟩
      rw [(report_of_period hperiod k).2.2.2, saturatingSubMs_eq_zero_iff.mpr hpassed, hmap,
        hticks k List.mem_cons_self, hstate, hmoving]
      simp
    · have htimer' : (t.tick k).positionChangeTimerMs =
          saturatingSubMs t.positionChangeTimerMs k.diffMs := by
        rw [tick_of_period hperiod]
        refine if_neg ?_
        rw [Bool.and_eq_true, beq_iff_eq, saturatingSubMs_eq_zero_iff]
        exact fun h => hpassed h.1
      rw [List.map_cons, List.sum_cons] at htimer
      have hleft : (t.tick k).positionChangeTimerMs.toNat ≤
          (ticks.map fun k => k.diffMs.toNat).sum := by
        rw [htimer', saturatingSubMs, BitVec.toNat_ofNat,
          Nat.mod_eq_of_lt (by omega : _ < 2 ^ 32)]
        omega
      obtain ⟨u, hu, hdue⟩ := ih (getTransportPeriod_tick hperiod k ▸ hperiod)
        (hstate.trans hmoving) ((requestStopTimestampMs_tick hperiod k).trans hrequest)
        ((getExpectedMapId_tick hperiod k).trans hmap)
        (fun k' hk' => hticks k' (List.mem_cons_of_mem _ hk'))
        (fun hnil => by rw [hnil] at htimer; exact hpassed (by simpa using htimer)) hleft
      exact ⟨u, List.mem_cons_of_mem _ hu, hdue⟩

theorem positionUpdateDue_eq_false (hperiod : t.getTransportPeriod ≠ 0)
    (hwaiting : t.movementState ≠ .moving) {u : TransportUpdate} (hu : u ∈ t.reports ticks) :
    u.positionUpdateDue = false := by
  induction ticks generalizing t with
  | nil => cases hu
  | cons k ticks ih =>
    have hnot := justStops_eq_false (.inr (.inl hwaiting)) k.diffMs k.nowMs
    have hstate := movementState_tick hperiod k
    rw [hnot, if_neg Bool.false_ne_true] at hstate
    rcases List.mem_cons.mp hu with rfl | hu
    · rw [(report_of_period hperiod k).2.2.2, hstate, hnot, Bool.or_false,
        beq_eq_false_iff_ne.mpr hwaiting, Bool.and_false]
    · exact ih (getTransportPeriod_tick hperiod k ▸ hperiod) (hstate ▸ hwaiting) hu

/-! ## The whole -/

/-- The reports of a run without a stop request are those of the clock, as long as it fits in
32 bits. -/
theorem reports_of_clock (hperiod : t.getTransportPeriod ≠ 0)
    (hrequest : t.requestStopTimestampMs = none) {before : List Tick} {k : Tick}
    (hfits : ∀ before, before <+: ticks → t.clockAfter before < 4294967296)
    (hbefore : before ++ [k] <+: ticks) :
    ((run tick t before).report k).timerMs.map BitVec.toNat =
        some (t.clockAfter (before ++ [k]) % t.getTransportPeriod.toNat) ∧
      (((run tick t before).report k).cycleReset = true ↔
        CrossesBoundary t.getTransportPeriod.toNat (t.clockAfter before)
          (t.clockAfter (before ++ [k]))) := by
  have hfits' : ∀ first, first <+: before → t.clockAfter first < 4294967296 := fun first h =>
    hfits first ((h.trans (List.prefix_append before [k])).trans hbefore)
  obtain ⟨hsame, hnone, -⟩ := run_keeps (t := t) hperiod before
  have hclock := clockAfter_append hperiod hrequest before [k] hfits'
  have h := report_of_clock (hsame ▸ hperiod) (hnone.trans hrequest) k
    (hclock ▸ hfits _ hbefore)
  rwa [hsame, ← hclock, pathProgressMs_run hperiod hrequest hfits'] at h

/-- The requested point is reached without passing it and reported once, exactly if the
transport can stop, has not stopped already and the point has a 32-bit timestamp. -/
theorem stops_iff (hperiod : t.getTransportPeriod ≠ 0) {p : BitVec 32}
    (hahead : t.pathProgressMs % t.getTransportPeriod ≤ p) :
    (∀ ticks, (run tick (t.requestStopAtNextPause p) ticks).pathProgressMs.toNat ≤
          t.stopPoint p ∧
        (t.requestStopAtNextPause p).stopsReported ticks =
          if ticks ≠ [] ∧ t.stopPoint p ≤
            t.pathProgressMs.toNat + (ticks.map fun k => k.diffMs.toNat).sum then 1 else 0) ↔
      t.allowStopping = true ∧ t.movementState = .moving ∧ t.stopPoint p < 4294967296 := by
  have hrequest := requestStop_of_fits hperiod p
  have hstart : t.pathProgressMs.toNat ≤ t.stopPoint p := by
    rw [BitVec.le_def, BitVec.toNat_umod] at hahead
    have hdivision := Nat.div_add_mod' t.pathProgressMs.toNat t.getTransportPeriod.toNat
    rw [stopPoint]
    omega
  have hcycle : t.stopPoint p < t.pathProgressMs.toNat + 4294967296 := by
    have hdivision := Nat.div_mul_le_self t.pathProgressMs.toNat t.getTransportPeriod.toNat
    have hp := p.isLt
    rw [stopPoint]
    omega
  constructor
  · intro hstops
    by_cases hready : t.allowStopping = true ∧ t.movementState = .moving
    · refine ⟨hready.1, hready.2, ?_⟩
      -- a point whose timestamp wraps around is reported by a tick that takes no time
      by_contra hwraps
      have hreported : (t.requestStopAtNextPause p).stopsReported [⟨0, 0, 0⟩] = 1 := by
        rw [stopsReported_of_request (t := t.requestStopAtNextPause p) hperiod hready.1 hready.2
          hrequest]
        refine if_pos ⟨List.cons_ne_nil _ _, ?_⟩
        have hlt := t.pathProgressMs.isLt
        change (BitVec.ofNat 32 (t.stopPoint p)).toNat ≤ t.pathProgressMs.toNat + _
        rw [BitVec.toNat_ofNat]
        omega
      have hcount := (hstops [⟨0, 0, 0⟩]).2
      rw [hreported, if_neg] at hcount
      · cases hcount
      · have hlt := t.pathProgressMs.isLt
        simp only [List.map_cons, List.map_nil, List.sum_cons, List.sum_nil, BitVec.reduceToNat]
        omega
    · have hnever := stopsReported_eq_zero (t := t.requestStopAtNextPause p) hperiod
        (by
          rcases not_and_or.mp hready with h | h
          · exact .inl (Bool.eq_false_iff.mpr h)
          · exact .inr (.inl h))
        [⟨4294967295, 0, 0⟩, ⟨4294967295, 0, 0⟩]
      have hcount := (hstops [⟨4294967295, 0, 0⟩, ⟨4294967295, 0, 0⟩]).2
      rw [hnever, if_pos] at hcount
      · cases hcount
      · refine ⟨List.cons_ne_nil _ _, ?_⟩
        have hlt := t.pathProgressMs.isLt
        simp only [List.map_cons, List.map_nil, List.sum_cons, List.sum_nil, BitVec.reduceToNat]
        omega
  · rintro ⟨hstoppable, hmoving, hfits⟩ ticks
    have htoNat : (BitVec.ofNat 32 (t.stopPoint p)).toNat = t.stopPoint p :=
      (BitVec.toNat_ofNat _ _).trans (Nat.mod_eq_of_lt hfits)
    refine ⟨?_, ?_⟩
    · rw [pathProgressMs_run_of_request (t := t.requestStopAtNextPause p) hperiod hstoppable
        hrequest (htoNat.symm ▸ hstart), htoNat]
      exact Nat.min_le_right _ _
    · rw [stopsReported_of_request (t := t.requestStopAtNextPause p) hperiod hstoppable hmoving
        hrequest, htoNat]
      rfl

/-- After a restart position updates become due exactly if the transport had not stopped. -/
theorem restarts_iff (hperiod : t.getTransportPeriod ≠ 0) {mapId : BitVec 32}
    (hmap : t.getExpectedMapId = some mapId) :
    (∀ ticks : List Tick, ticks ≠ [] → (∀ k ∈ ticks, k.currentMapId = mapId) →
        t.positionChangeTimerMs.toNat ≤ (ticks.map fun k => k.diffMs.toNat).sum →
        ∃ u ∈ t.enableMovement.reports ticks, u.positionUpdateDue = true) ↔
      t.movementState = .moving := by
  constructor
  · intro hdue
    by_contra hwaiting
    have hlt := t.positionChangeTimerMs.isLt
    obtain ⟨u, hu, hdue⟩ := hdue [⟨4294967295, 0, mapId⟩] (List.cons_ne_nil _ _) (by simp)
      (by
        simp only [List.map_cons, List.map_nil, List.sum_cons, List.sum_nil, BitVec.reduceToNat]
        omega)
    rw [positionUpdateDue_eq_false (t := t.enableMovement) hperiod hwaiting hu] at hdue
    cases hdue
  · intro hmoving ticks hne hticks htimer
    exact exists_positionUpdateDue (t := t.enableMovement) hperiod hmoving rfl hmap hticks hne
      htimer

end Transport

open Transport

/-- What runs of ticks of a transport with a period report, without a stop request, with one,
and after a restart. -/
theorem transport_follows_its_path (t : Transport) (hperiod : 0 < t.getTransportPeriod) :
    (∀ ticks : List Tick, t.requestStopTimestampMs = none →
        (∀ before, before <+: ticks → t.clockAfter before < 4294967296) →
        ∀ before k, before ++ [k] <+: ticks →
          ((run tick t before).report k).timerMs.map BitVec.toNat =
              some (t.clockAfter (before ++ [k]) % t.getTransportPeriod.toNat) ∧
            (((run tick t before).report k).cycleReset = true ↔
              CrossesBoundary t.getTransportPeriod.toNat (t.clockAfter before)
                (t.clockAfter (before ++ [k])))) ∧
      (∀ p, t.pathProgressMs % t.getTransportPeriod ≤ p →
        ((∀ ticks, (run tick (t.requestStopAtNextPause p) ticks).pathProgressMs.toNat ≤
              t.stopPoint p ∧
            (t.requestStopAtNextPause p).stopsReported ticks =
              if ticks ≠ [] ∧ t.stopPoint p ≤
                t.pathProgressMs.toNat + (ticks.map fun k => k.diffMs.toNat).sum
              then 1 else 0) ↔
          t.allowStopping = true ∧ t.movementState = .moving ∧ t.stopPoint p < 4294967296)) ∧
      (∀ ticks : List Tick,
        (∀ before, before <+: ticks → t.clockAfter before < 4294967296) →
        (run tick t.enableMovement ticks).pathProgressMs.toNat = t.clockAfter ticks) ∧
      ∀ mapId, t.getExpectedMapId = some mapId →
        ((∀ ticks : List Tick, ticks ≠ [] → (∀ k ∈ ticks, k.currentMapId = mapId) →
            t.positionChangeTimerMs.toNat ≤ (ticks.map fun k => k.diffMs.toNat).sum →
            ∃ u ∈ t.enableMovement.reports ticks, u.positionUpdateDue = true) ↔
          t.movementState = .moving) := by
  have hperiod' : t.getTransportPeriod ≠ 0 := fun h => by rw [h] at hperiod; cases hperiod
  refine ⟨fun ticks hrequest hfits before k hbefore => ?_, fun p hahead => ?_,
    fun ticks hfits => ?_, fun mapId hmap => ?_⟩
  · exact reports_of_clock hperiod' hrequest hfits hbefore
  · exact stops_iff hperiod' hahead
  · exact pathProgressMs_run (t := t.enableMovement) hperiod' rfl hfits
  · exact restarts_iff hperiod' hmap

/-- At 900 of a cycle of 1000, on the map 571. -/
def sampleTransport : Transport :=
  { Transport.new with level := 1000, pathProgressMs := 900, template := some ⟨[⟨571⟩]⟩ }

theorem transport_follows_its_path_stop :
    (run tick (sampleTransport.requestStopAtNextPause 950)
        [⟨40, 0, 571⟩, ⟨100, 0, 571⟩]).pathProgressMs.toNat ≤ 950 ∧
      (sampleTransport.requestStopAtNextPause 950).stopsReported
        [⟨40, 0, 571⟩, ⟨100, 0, 571⟩] = 1 :=
  ((transport_follows_its_path sampleTransport (by decide)).2.1 950 (by decide)).mpr
    ⟨rfl, rfl, by decide⟩ [⟨40, 0, 571⟩, ⟨100, 0, 571⟩]

/-- The clock stands still at its last millisecond, and a transport that stopped and started
again has no position update due, however long it runs. -/
theorem transport_freezes :
    ((({ sampleTransport with pathProgressMs := 4294967295 }.report
        ⟨1, 0, 571⟩).timerMs.map BitVec.toNat ≠ some ((4294967295 + 1) % 1000))) ∧
      ∀ u ∈ (run tick (sampleTransport.requestStopAtNextPause 950)
          [⟨100, 0, 571⟩]).enableMovement.reports [⟨1000, 0, 571⟩, ⟨1000, 0, 571⟩],
        u.positionUpdateDue = false := by
  decide

end RustyCore.Transports
