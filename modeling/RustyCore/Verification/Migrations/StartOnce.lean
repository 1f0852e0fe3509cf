import RustyCore.Verification.Migrations.Runs

/-! # Migrations start once

An open claim ends every later run at the validation of the history. -/

namespace RustyCore.Migrations

variable {δ : Type*} {e : Engine δ} {manifest : MigrationManifest} {database : DatabaseKind}

/-- The phases before the loop, and those of a run that gave up. -/
def Phase.outsideLoop : Phase → Bool
  | .claiming .. | .executing .. | .finishing .. | .recordingFailure | .inspecting => false
  | .releasing succeeded => !succeeded
  | _ => true

namespace State

/-- The row of `m` is there and not marked. -/
def Unfinished (s : State δ) (m : Migration) : Prop :=
  ∃ row ∈ s.rows, row.key = m.key ∧ row.success = false

/-- A run that meets an open claim before its loop. -/
structure Blocked (s : State δ) : Prop where
  outside : s.phase.outsideLoop = true
  unfinished : ∃ row ∈ s.rows, row.success = false

section Blocked

variable {s s' : State δ} (h : Blocked s)

include h

theorem Blocked.of_rows (houtside : s'.phase.outsideLoop = true)
    (hrows : ∀ row ∈ s.rows, row ∈ s'.rows) : Blocked s' where
  outside := houtside
  unfinished := by
    obtain ⟨row, hrow, hsuccess⟩ := h.unfinished
    exact ⟨row, hrows row hrow, hsuccess⟩

theorem Blocked.validate : s.validate manifest database = s.failed := by
  rw [State.validate]
  split
  case isTrue => rfl
  case isFalse =>
    split
    case isTrue => rfl
    case isFalse hproblems =>
      obtain ⟨row, hrow, hsuccess⟩ := h.unfinished
      have hagrees := agrees_of_no_immutable_problem manifest database (by simpa using hproblems)
      have hmarked := (hagrees row (mem_readHistory.mpr hrow)).1
      simp [hsuccess] at hmarked

theorem Blocked.failed : Blocked s.failed ∧ s.failed.claims = s.claims :=
  ⟨h.of_rows rfl fun _ hrow => hrow, rfl⟩

theorem Blocked.returnErr : Blocked s.returnErr ∧ s.returnErr.claims = s.claims :=
  ⟨h.of_rows rfl fun _ hrow => hrow, rfl⟩

theorem Blocked.advance (answer : Answer) :
    Blocked (s.advance e manifest database answer) ∧
      (s.advance e manifest database answer).claims = s.claims := by
  have houtside := h.outside
  have hsame : ∀ phase : Phase, phase.outsideLoop = true →
      Blocked { s with phase := phase } := fun phase hphase => h.of_rows hphase fun _ hrow => hrow
  cases hphase : s.phase with
  | idle =>
    simp only [State.advance, hphase]
    exact ⟨h, trivial⟩
  | checkingBaseline | locking =>
    simp only [State.advance, hphase]
    split
    · exact ⟨hsame _ rfl, rfl⟩
    · exact h.returnErr
  | ensuring =>
    cases answer with
    | ok =>
      simp only [State.advance, hphase, Answer.effective, if_true]
      exact ⟨h.of_rows rfl fun _ hrow => hrow, trivial⟩
    | error effective =>
      simp only [State.advance, hphase, Answer.effective, reduceCtorEq, if_false]
      split
      · exact ⟨h.of_rows rfl fun _ hrow => hrow, rfl⟩
      · exact h.failed
  | counting =>
    simp only [State.advance, hphase]
    split
    · refine ⟨hsame _ ?_, rfl⟩
      split
      · rfl
      · rfl
    · exact h.failed
  | planning =>
    simp only [State.advance, hphase]
    split
    · split
      · exact h.failed
      · exact ⟨hsame _ rfl, rfl⟩
      · exact ⟨hsame _ rfl, rfl⟩
    · exact h.failed
  | importing rest inserted =>
    cases rest with
    | nil =>
      cases answer with
      | ok =>
        simp only [State.advance, hphase, Answer.effective, if_true]
        exact ⟨h.of_rows rfl fun _ hrow => List.mem_append_left _ hrow, trivial⟩
      | error effective =>
        simp only [State.advance, hphase, Answer.effective, reduceCtorEq, if_false]
        split
        · exact ⟨h.of_rows rfl fun _ hrow => List.mem_append_left _ hrow, rfl⟩
        · exact h.failed
    | cons m rest =>
      simp only [State.advance, hphase]
      split
      · split
        · exact h.failed
        · exact ⟨hsame _ rfl, rfl⟩
      · exact h.failed
  | reading =>
    simp only [State.advance, hphase]
    split
    · rw [h.validate]
      exact h.failed
    · exact h.failed
  | releasing succeeded =>
    simp only [State.advance, hphase]
    split
    case isTrue hok => simp [hphase, Phase.outsideLoop, hok.2] at houtside
    case isFalse => exact h.returnErr
  | claiming m rest | executing m statement statements rest | recordingFailure
  | finishing m rest | inspecting => simp [hphase, Phase.outsideLoop] at houtside

theorem Blocked.step (action : Action δ) :
    Blocked (s.step e manifest database action) ∧
      (s.step e manifest database action).claims = s.claims := by
  cases action with
  | startRun =>
    rw [State.step]
    split
    · exact ⟨h.of_rows rfl fun _ hrow => hrow, rfl⟩
    · exact ⟨h, rfl⟩
  | advance answer => exact h.advance answer
  | stop durable =>
    rw [State.step, State.stop]
    split
    · refine ⟨h.of_rows rfl fun row hrow => ?_, rfl⟩
      cases durable with
      | true => exact List.mem_append_left _ hrow
      | false => exact hrow
    · exact ⟨h.of_rows rfl fun _ hrow => hrow, rfl⟩
  | write contents => exact ⟨h.of_rows h.outside fun _ hrow => hrow, rfl⟩

end Blocked

/-- A server before the first run, with whatever it has in its history table. -/
def initial (history : Option (List HistoryRow)) (contents : δ) : State δ where
  history := history
  contents := contents
  phase := .idle
  runs := 0
  claims := []
  executed := []
  returned := none

theorem sound_initial (history : Option (List HistoryRow)) (contents : δ) :
    Sound e manifest database (initial history contents) where
  trace := ⟨nofun, nofun, nofun, List.nodup_nil, List.Pairwise.nil, nofun⟩
  returned := nofun
  quiet := fun hidle => absurd rfl hidle
  atPhase := trivial

end State

open State in
/-- Over all runs, each stopped or failing at any statement: a migration is claimed once and
its statements are of the run that claimed it; the claims of a run go up; while a claim is
open no later run claims anything; and after a run that returned `Ok` the report is that of
the baseline. -/
theorem migrations_start_once (e : Engine δ) (manifest : MigrationManifest)
    (database : DatabaseKind) (history : Option (List HistoryRow)) (contents : δ)
    (actions : List (Action δ)) :
    (((run (step e manifest database) (initial history contents) actions).claims.map
        fun c => c.2.key).Nodup ∧
      ∀ x ∈ (run (step e manifest database) (initial history contents) actions).executed,
        x ∈ (run (step e manifest database) (initial history contents) actions).claims) ∧
    (run (step e manifest database) (initial history contents) actions).claims.Pairwise
      (fun c c' => c.1 = c'.1 → c.2.key < c'.2.key) ∧
    (∀ earlier later, actions = earlier ++ later →
      (run (step e manifest database) (initial history contents) earlier).phase = .idle →
      (∃ c ∈ (run (step e manifest database) (initial history contents) earlier).claims,
        (run (step e manifest database) (initial history contents) earlier).Unfinished c.2) →
      (run (step e manifest database) (initial history contents) actions).claims =
        (run (step e manifest database) (initial history contents) earlier).claims) ∧
    ∀ report,
      (run (step e manifest database) (initial history contents) actions).returned =
        some (some report) →
      ((run (step e manifest database) (initial history contents) actions).inspectDatabase e
        manifest database).compatible =
        e.baselineMatches
          (run (step e manifest database) (initial history contents) actions).contents
          (manifest.baseline database) := by
  have hsound : Sound e manifest database
      (run (step e manifest database) (initial history contents) actions) :=
    run_invariant_of_all _ (fun _ action hs => hs.step action) (sound_initial history contents)
      actions
  refine ⟨⟨hsound.trace.once, hsound.trace.executed⟩, hsound.trace.ordered, ?_, ?_⟩
  · rintro earlier later rfl hidle ⟨c, -, row, hrow, -, hsuccess⟩
    rw [run_append]
    have hblocked : Blocked (run (step e manifest database) (initial history contents) earlier) :=
      ⟨by rw [hidle]; rfl, row, hrow, hsuccess⟩
    refine (run_invariant_of_all
      (fun s : State δ => Blocked s ∧ s.claims =
        (run (step e manifest database) (initial history contents) earlier).claims)
      (fun s action hs => ⟨(hs.1.step action).1, (hs.1.step action).2.trans hs.2⟩)
      ⟨hblocked, rfl⟩ later).2
  · intro report hreport
    have hcomplete := hsound.returned report hreport
    rw [inspectDatabase, hcomplete.present]
    refine compatible_of_complete manifest database _ (fun row hrow => ?_) fun m hm hactive => ?_
    · exact hcomplete.agrees row (mem_readHistory.mp hrow)
    · obtain ⟨row, hrow, hkey⟩ := hcomplete.active m hm hactive
      exact ⟨row, mem_readHistory.mpr hrow, hkey⟩

/-! ## A migration that removes the marker of the baseline -/

/-- A server that has one table, the marker, until a script drops it. -/
def markerEngine : Engine Bool where
  tableExists contents table := contents && table == "account"
  versionRow _ := none
  updates _ := []
  probe _ _ := .absentSchema
  execute _ _ := (false, true)
  collate text := text
  fileName file := some file
  normalizedSource _ := some "DROP TABLE account"
  sha1Hex _ := ""
  splitSql content := [content]

def dropMigration : Migration where
  component := "core"
  database := .auth
  version := "1"
  file := "1.sql"
  sha256 := "00"
  state := .active
  adoptQuery := none

def dropManifest : MigrationManifest where
  baseline _ := ⟨"account", none, none⟩
  migrations := [dropMigration]
  distinct := List.nodup_singleton _

/-- One run whose statements all succeed. -/
def cleanRun : List (State.Action Bool) :=
  .startRun :: List.replicate 11 (.advance .ok)

open State in
/-- The run returns `Ok` with a report that calls the database incompatible. -/
theorem baseline_dropped :
    ∃ report, (run (step markerEngine dropManifest .auth) (initial none true) cleanRun).returned =
        some (some report) ∧
      report.compatible = false ∧
      ((run (step markerEngine dropManifest .auth) (initial none true) cleanRun).inspectDatabase
        markerEngine dropManifest .auth).compatible = false :=
  ⟨_, rfl, rfl, rfl⟩

end RustyCore.Migrations
