import RustyCore.Model.Instances.InstanceLock
import Mathlib.Order.Bounds.Basic

/-! # The next reset

The reset instants of a daily or weekly schedule, and the one that comes next. A reset is never
in the past, as long as it has a `u64` timestamp. -/

namespace RustyCore.Instances

/-- The next reset in unix seconds, before the timestamp is cut to 64 bits. -/
def nextResetSeconds (entries : MapDb2Entries) (schedule : ResetSchedule)
    (now : InstanceResetTime) : ℤ :=
  (nextResetDayHour entries schedule now).1 * 86400 +
    (nextResetDayHour entries schedule now).2 * 3600

theorem le_nextResetSeconds {entries : MapDb2Entries} {schedule : ResetSchedule}
    (hreset : entries.hasResetSchedule = true) (hhour : schedule.hour < 24)
    (hday : schedule.weekDay < 7) (now : InstanceResetTime) :
    (now.toNat : ℤ) ≤ nextResetSeconds entries schedule now := by
  have hh : schedule.hour.toNat < 24 := hhour
  have hd : schedule.weekDay.toNat < 7 := hday
  unfold nextResetSeconds nextResetDayHour
  cases hinterval : entries.resetInterval with
  | anytime => simp [MapDb2Entries.hasResetSchedule, hinterval] at hreset
  | daily =>
    dsimp only
    split <;> omega
  | weekly =>
    dsimp only
    split <;> omega

theorem nextResetTimeAt_eq_ofInt {entries : MapDb2Entries}
    (hreset : entries.hasResetSchedule = true) (schedule : ResetSchedule)
    (now : InstanceResetTime) :
    nextResetTimeAt entries schedule now =
      BitVec.ofInt 64 (nextResetSeconds entries schedule now) := by
  rw [nextResetTimeAt, if_pos hreset, nextResetSeconds, BitVec.ofInt_add, BitVec.ofInt_mul,
    BitVec.ofInt_mul]
  rfl

theorem le_nextResetTimeAt {entries : MapDb2Entries} {schedule : ResetSchedule}
    {now : InstanceResetTime} (hreset : entries.hasResetSchedule = true)
    (hhour : schedule.hour < 24) (hday : schedule.weekDay < 7)
    (hfits : nextResetSeconds entries schedule now < 2 ^ 64) :
    now ≤ nextResetTimeAt entries schedule now := by
  have hle := le_nextResetSeconds hreset hhour hday now
  rw [nextResetTimeAt_eq_ofInt hreset, BitVec.le_def, BitVec.toNat_ofInt]
  omega

/-! ## Reset instants -/

/-- On the hour of the schedule and, for a weekly reset, on its day; the first day, a
Thursday, is day 4 of its week. -/
def IsResetInstant (entries : MapDb2Entries) (schedule : ResetSchedule) (t : ℕ) : Prop :=
  t % 86400 = schedule.hour.toNat * 3600 ∧
    (entries.resetInterval = .weekly → (t / 86400 + 4) % 7 = schedule.weekDay.toNat)

instance (entries : MapDb2Entries) (schedule : ResetSchedule) (t : ℕ) :
    Decidable (IsResetInstant entries schedule t) :=
  inferInstanceAs (Decidable (_ ∧ _))

/-- The time between two resets. -/
def resetPeriod (entries : MapDb2Entries) : ℕ := entries.resetInterval.raidDurationSecs.toNat

variable {entries : MapDb2Entries} {schedule : ResetSchedule}

/-- Maps that are reset are reset every day or every week. -/
theorem daily_or_weekly (hreset : entries.hasResetSchedule = true) :
    entries.resetInterval = .daily ∧ resetPeriod entries = 86400 ∨
      entries.resetInterval = .weekly ∧ resetPeriod entries = 604800 := by
  rw [resetPeriod]
  cases hinterval : entries.resetInterval with
  | anytime => simp [MapDb2Entries.hasResetSchedule, hinterval] at hreset
  | daily => exact .inl ⟨rfl, rfl⟩
  | weekly => exact .inr ⟨rfl, rfl⟩

theorem IsResetInstant.add_period_le (hreset : entries.hasResetSchedule = true) {s t : ℕ}
    (hs : IsResetInstant entries schedule s) (ht : IsResetInstant entries schedule t)
    (hlt : s < t) : s + resetPeriod entries ≤ t := by
  obtain ⟨hsHour, hsDay⟩ := hs
  obtain ⟨htHour, htDay⟩ := ht
  obtain ⟨-, hperiod⟩ | ⟨hinterval, hperiod⟩ := daily_or_weekly hreset
  · omega
  · have hsDay := hsDay hinterval
    have htDay := htDay hinterval
    omega

theorem isResetInstant_add_period (hreset : entries.hasResetSchedule = true) (t : ℕ) :
    IsResetInstant entries schedule (t + resetPeriod entries) ↔
      IsResetInstant entries schedule t := by
  obtain ⟨hinterval, hperiod⟩ | ⟨hinterval, hperiod⟩ := daily_or_weekly hreset
  · simp only [IsResetInstant, hinterval, hperiod, reduceCtorEq, false_implies, and_true]
    omega
  · simp only [IsResetInstant, hinterval, hperiod, true_implies]
    omega

/-- Before it is cut to 64 bits, the next reset is a reset instant after `now`, at most one
period away. -/
theorem nextResetSeconds_instant (hreset : entries.hasResetSchedule = true)
    (hhour : schedule.hour < 24) (hday : schedule.weekDay < 7) (now : InstanceResetTime) :
    ∃ next : ℕ, nextResetSeconds entries schedule now = next ∧
      IsResetInstant entries schedule next ∧ now.toNat < next ∧
      next ≤ now.toNat + resetPeriod entries := by
  have hh : schedule.hour.toNat < 24 := hhour
  have hd : schedule.weekDay.toNat < 7 := hday
  obtain ⟨next, hnext⟩ := Int.eq_ofNat_of_zero_le
    ((Int.natCast_nonneg _).trans (le_nextResetSeconds hreset hhour hday now))
  refine ⟨next, hnext, ?_⟩
  obtain ⟨hinterval, hperiod⟩ | ⟨hinterval, hperiod⟩ := daily_or_weekly hreset
  · simp only [nextResetSeconds, nextResetDayHour, hinterval] at hnext
    simp only [IsResetInstant, hinterval, hperiod, reduceCtorEq, false_implies, and_true]
    split at hnext <;> omega
  · simp only [nextResetSeconds, nextResetDayHour, hinterval] at hnext
    simp only [IsResetInstant, hinterval, hperiod, true_implies]
    split at hnext <;> omega

theorem nextResetSeconds_isLeast (hreset : entries.hasResetSchedule = true)
    (hhour : schedule.hour < 24) (hday : schedule.weekDay < 7) (now : InstanceResetTime) :
    ∃ next : ℕ, nextResetSeconds entries schedule now = next ∧
      next ≤ now.toNat + resetPeriod entries ∧
      IsLeast {t | now.toNat < t ∧ IsResetInstant entries schedule t} next := by
  obtain ⟨next, hnext, hinstant, hlater, hnear⟩ :=
    nextResetSeconds_instant hreset hhour hday now
  refine ⟨next, hnext, hnear, ⟨hlater, hinstant⟩, fun t ⟨hafter, ht⟩ => ?_⟩
  by_contra hbefore
  have hspaced := ht.add_period_le hreset hinstant (Nat.lt_of_not_le hbefore)
  omega

/-- `next_reset_time_at` returns the least timestamp after `now` that is a reset instant,
whenever some timestamp is one. -/
theorem next_reset_is_least (hreset : entries.hasResetSchedule = true)
    (hhour : schedule.hour < 24) (hday : schedule.weekDay < 7) (now : InstanceResetTime) :
    IsLeast {t : InstanceResetTime | now < t ∧ IsResetInstant entries schedule t.toNat}
        (nextResetTimeAt entries schedule now) ↔
      ∃ t : InstanceResetTime, now < t ∧ IsResetInstant entries schedule t.toNat := by
  refine ⟨fun h => ⟨_, h.1⟩, fun ⟨t, hlater, ht⟩ => ?_⟩
  obtain ⟨next, hnext, -, ⟨hafter, hinstant⟩, hleast⟩ :=
    nextResetSeconds_isLeast hreset hhour hday now
  have hle : next ≤ t.toNat := hleast ⟨hlater, ht⟩
  have htoNat : (nextResetTimeAt entries schedule now).toNat = next := by
    rw [nextResetTimeAt_eq_ofInt hreset, hnext, BitVec.toNat_ofInt]
    have hlt := t.isLt
    omega
  refine ⟨⟨BitVec.lt_def.mpr (htoNat ▸ hafter), htoNat ▸ hinstant⟩, fun s ⟨hs, hsInstant⟩ => ?_⟩
  rw [BitVec.le_def, htoNat]
  exact hleast ⟨hs, hsInstant⟩

/-- Thursdays at eight, asked at noon of the first day of 1970, a Thursday. -/
theorem next_reset_is_least_weekly :
    IsLeast {t : InstanceResetTime |
        43200 < t ∧ IsResetInstant ⟨631, 3, 4, .weekly, 10, false, false⟩ ⟨8, 4⟩ t.toNat}
      (nextResetTimeAt ⟨631, 3, 4, .weekly, 10, false, false⟩ ⟨8, 4⟩ 43200) :=
  (next_reset_is_least (by decide) (by decide) (by decide) 43200).mpr ⟨633600, by decide⟩

/-- In the last second of the clock no reset is left. -/
theorem next_reset_past_the_clock :
    ¬ IsLeast {t : InstanceResetTime | 18446744073709551615 < t ∧
          IsResetInstant ⟨631, 3, 4, .daily, 10, false, false⟩ ⟨8, 2⟩ t.toNat}
        (nextResetTimeAt ⟨631, 3, 4, .daily, 10, false, false⟩ ⟨8, 2⟩ 18446744073709551615) :=
  fun h => absurd h.1.1 (by decide)

end RustyCore.Instances
