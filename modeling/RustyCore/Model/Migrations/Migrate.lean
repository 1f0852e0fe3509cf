import Mathlib.Data.List.Sort
import Mathlib.Data.Prod.Lex
import Mathlib.Data.String.Basic
import RustyCore.Library.Run

/-! # Migrations

The report on the migrations of a database, and the runs that apply them. -/

/-! ## Reports

The manifest of migrations, the rows of the history table, and the comparison of the two
that every command starts from. -/

namespace RustyCore.Migrations

inductive DatabaseKind where
  | auth
  | characters
  | world
  | hotfixes
deriving DecidableEq

inductive MigrationState where
  | active
  | archived
deriving DecidableEq

structure BaselineRequirement where
  markerTable : String
  contentVersion : Option String
  cacheId : Option ℤ
deriving DecidableEq

structure Migration where
  component : String
  database : DatabaseKind
  version : String
  file : String
  sha256 : String
  state : MigrationState
  adoptQuery : Option String
deriving DecidableEq

/-- The pair that `sort_by_key` and the maps of `build_report` compare. -/
abbrev Key := String ×ₗ String

def Migration.key (m : Migration) : Key := toLex (m.component, m.version)

/-- A manifest that `validate_shape` accepts: one baseline for every database, and no
identity twice. -/
structure MigrationManifest where
  baseline : DatabaseKind → BaselineRequirement
  migrations : List Migration
  distinct : (migrations.map fun m => (m.database, m.key)).Nodup

namespace MigrationManifest

def migrationsFor (manifest : MigrationManifest) (database : DatabaseKind) : List Migration :=
  (manifest.migrations.filter fun m => m.database = database).insertionSort
    fun m m' => m.key ≤ m'.key

end MigrationManifest

/-- The columns of `rustycore_schema_history` that are read again. -/
structure HistoryRow where
  installedRank : ℕ
  component : String
  version : String
  checksum : String
  success : Bool
deriving DecidableEq

def HistoryRow.key (row : HistoryRow) : Key := toLex (row.component, row.version)

/-- `SELECT .. ORDER BY installed_rank`. -/
def readHistory (rows : List HistoryRow) : List HistoryRow :=
  rows.insertionSort fun row row' => row.installedRank ≤ row'.installedRank

inductive MigrationStatus where
  | pending
  | transitionImport
  | applied
  | incomplete
deriving DecidableEq

structure MigrationView where
  migration : Migration
  status : MigrationStatus
deriving DecidableEq

structure DatabaseReport where
  database : DatabaseKind
  baselineCompatible : Bool
  historyPresent : Bool
  compatible : Bool
  migrations : List MigrationView
  problems : List String
deriving DecidableEq

/-! ## Problems -/

def baselineProblem : String := "supported baseline marker/version is absent"

def historyProblem : String := "migration history table is absent"

def absentProblem (row : HistoryRow) : String :=
  "applied migration " ++ (row.component ++ ":" ++ row.version ++ " is absent from the manifest")

def checksumProblem (row : HistoryRow) : String :=
  "applied migration " ++
    (row.component ++ ":" ++ row.version ++ " checksum differs from the immutable manifest")

def incompleteProblem (row : HistoryRow) : String :=
  "incomplete migration " ++
    (row.component ++ ":" ++ row.version ++ " requires explicit recovery")

def pendingProblem (m : Migration) : String :=
  "pending migration " ++ (m.component ++ ":" ++ m.version)

/-- `problem.starts_with("pending migration")`. -/
def isPendingProblem (problem : String) : Bool :=
  "pending migration".toList.isPrefixOf problem.toList

/-- What one row of the history contributes. -/
def rowProblems (expected : List Migration) (row : HistoryRow) : List String :=
  match expected.find? fun m => m.key = row.key with
  | none => [absentProblem row]
  | some m =>
    (if row.checksum ≠ m.sha256 then [checksumProblem row] else []) ++
      if row.success then [] else [incompleteProblem row]

/-- The status of a migration; in the map of the rows a later row replaces an earlier one. -/
def statusOf (history : List HistoryRow) (legacyImports : List Key) (m : Migration) :
    MigrationStatus :=
  match history.reverse.find? fun row => row.key = m.key with
  | some row => if row.success then .applied else .incomplete
  | none => if m.key ∈ legacyImports then .transitionImport else .pending

def pendingProblems (history : List HistoryRow) (legacyImports : List Key) (m : Migration) :
    List String :=
  if statusOf history legacyImports m = .pending ∧ m.state = .active then [pendingProblem m]
  else []

def buildReport (manifest : MigrationManifest) (database : DatabaseKind)
    (baselineCompatible historyPresent : Bool) (history : List HistoryRow)
    (legacyImports : List Key) : DatabaseReport :=
  let expected := manifest.migrationsFor database
  let problems :=
    (if baselineCompatible then [] else [baselineProblem]) ++
      (if historyPresent then [] else [historyProblem]) ++
      history.flatMap (rowProblems expected) ++
      expected.flatMap (pendingProblems history legacyImports)
  { database, baselineCompatible, historyPresent
    compatible := problems.isEmpty
    migrations := expected.map fun m => ⟨m, statusOf history legacyImports m⟩
    problems }

end RustyCore.Migrations

/-! ## Migration runs

`migrate_database` as the statements it sends, one after the other. A statement succeeds, or
an error comes back for one that took effect or did not; between two statements the run can
be stopped. Everything besides the history table is the server's. -/

namespace RustyCore.Migrations

/-- The answer to an adoption query. -/
inductive ProbeAnswer where
  | value (v : ℤ)
  | absentSchema
  | failed
deriving DecidableEq

/-- The server, whose contents are of type `δ`, and the migration files. -/
structure Engine (δ : Type*) where
  tableExists : δ → String → Bool
  /-- The first row of `version`. -/
  versionRow : δ → Option (String × ℤ)
  /-- The rows of the old table `updates`, if there is one. -/
  updates : δ → List (String × String)
  probe : δ → String → ProbeAnswer
  /-- One statement of a script, and whether it succeeds. -/
  execute : δ → String → δ × Bool
  /-- What the collation of the history table compares. -/
  collate : String → String
  fileName : String → Option String
  normalizedSource : String → Option String
  sha1Hex : String → String
  splitSql : String → List String

variable {δ : Type*}

namespace Engine

def baselineMatches (e : Engine δ) (contents : δ) (baseline : BaselineRequirement) : Bool :=
  e.tableExists contents baseline.markerTable &&
    match baseline.contentVersion, baseline.cacheId with
    | some version, some cache => e.versionRow contents = some (version, cache)
    | _, _ => true

/-- Whether a migration is to be imported; an error ends the import. -/
def adopts (e : Engine δ) (contents : δ) (m : Migration) : Option Bool :=
  match e.fileName m.file with
  | none => none
  | some fileName =>
    match (e.updates contents).reverse.lookup fileName with
    | some oldHash =>
      match e.normalizedSource m.file with
      | none => none
      | some content => if oldHash = e.sha1Hex content then some true else none
    | none =>
      match m.adoptQuery with
      | none => some false
      | some query =>
        match e.probe contents query with
        | .value v => some (v = 1)
        | .absentSchema => some false
        | .failed => none

def planImports (e : Engine δ) (contents : δ) : List Migration → Option (List Migration)
  | [] => some []
  | m :: ms =>
    match e.adopts contents m with
    | none => none
    | some adopt => (e.planImports contents ms).map fun imports =>
      if adopt then m :: imports else imports

/-- Whether two identities are one for the primary key. -/
def sameKey (e : Engine δ) (row : HistoryRow) (m : Migration) : Bool :=
  e.collate row.component = e.collate m.component && e.collate row.version = e.collate m.version

/-- `INSERT`, unless it breaks the primary key or the unique rank. -/
def insertRow (e : Engine δ) (rows : List HistoryRow) (rank : ℕ) (m : Migration)
    (success : Bool) : Option (List HistoryRow) :=
  if rows.any fun row => e.sameKey row m || row.installedRank = rank then none
  else some (rows ++ [⟨rank, m.component, m.version, m.sha256, success⟩])

/-- `UPDATE .. SET success = 1 WHERE component = ? AND version = ?`. -/
def markSuccess (e : Engine δ) (rows : List HistoryRow) (m : Migration) : List HistoryRow :=
  rows.map fun row => if e.sameKey row m then { row with success := true } else row

end Engine

/-- `COALESCE(MAX(installed_rank), 0) + 1`. -/
def nextRank (rows : List HistoryRow) : ℕ := (rows.map (·.installedRank)).foldl max 0 + 1

/-- The next statement of the run. -/
inductive Phase where
  | idle
  | checkingBaseline
  | locking
  | ensuring
  | counting
  | planning
  | importing (rest : List Migration) (inserted : List HistoryRow)
  | reading
  | claiming (m : Migration) (rest : List Migration)
  | executing (m : Migration) (statement : String) (statements : List String)
      (rest : List Migration)
  | recordingFailure
  | finishing (m : Migration) (rest : List Migration)
  | releasing (succeeded : Bool)
  | inspecting
deriving DecidableEq

/-- The next migration of the loop. -/
def Phase.next : List Migration → Phase
  | [] => .releasing true
  | m :: rest => .claiming m rest

/-- The next statement of a script. -/
def Phase.script (m : Migration) (rest : List Migration) : List String → Phase
  | [] => .finishing m rest
  | statement :: statements => .executing m statement statements rest

/-- The database and the run in progress. The last fields are the history of all runs: their
number, the rows and the statements of each, and what the last one returned. -/
structure State (δ : Type*) where
  history : Option (List HistoryRow)
  contents : δ
  phase : Phase
  runs : ℕ
  claims : List (ℕ × Migration)
  executed : List (ℕ × Migration)
  returned : Option (Option DatabaseReport)

namespace State

def rows (s : State δ) : List HistoryRow := s.history.getD []

/-- What the program sees of a statement, and whether it took effect. -/
inductive Answer where
  | ok
  | error (effective : Bool)
deriving DecidableEq

def Answer.effective : Answer → Bool
  | .ok => true
  | .error effective => effective

def failed (s : State δ) : State δ := { s with phase := .releasing false }

def returnErr (s : State δ) : State δ := { s with phase := .idle, returned := some none }

def inspectDatabase (e : Engine δ) (manifest : MigrationManifest) (database : DatabaseKind)
    (s : State δ) : DatabaseReport :=
  buildReport manifest database (e.baselineMatches s.contents (manifest.baseline database))
    s.history.isSome (readHistory s.rows) []

/-- The migrations that the loop does not skip. -/
def toApply (manifest : MigrationManifest) (database : DatabaseKind) (history : List HistoryRow) :
    List Migration :=
  (manifest.migrationsFor database).filter fun m =>
    !(m.state = .archived || history.any fun row => row.key = m.key)

/-- The validation of the history before the loop. -/
def validate (manifest : MigrationManifest) (database : DatabaseKind) (s : State δ) : State δ :=
  let history := readHistory s.rows
  let report := buildReport manifest database true true history []
  if report.migrations.any fun view => view.status = .incomplete then s.failed
  else if report.problems.any fun problem => !isPendingProblem problem then s.failed
  else { s with phase := .next (toApply manifest database history) }

/-- The row of a claim is in the table. -/
def claimed (s : State δ) (rows : List HistoryRow) (m : Migration) : State δ :=
  { s with history := some rows, claims := s.claims ++ [(s.runs, m)] }

/-- The claim row of a migration, and its script. -/
def claim (e : Engine δ) (m : Migration) (rest : List Migration) (answer : Answer) (s : State δ) :
    State δ :=
  match e.insertRow s.rows (nextRank s.rows) m false with
  | none => s.failed
  | some rows =>
    if answer.effective then
      match answer, e.normalizedSource m.file with
      | .ok, some content =>
        { s.claimed rows m with phase := .script m rest (e.splitSql content) }
      | _, _ => (s.claimed rows m).failed
    else s.failed

/-- The next statement of the run in progress. -/
def advance (e : Engine δ) (manifest : MigrationManifest) (database : DatabaseKind)
    (s : State δ) (answer : Answer) : State δ :=
  match s.phase with
  | .idle => s
  | .checkingBaseline =>
    if answer = .ok ∧ e.baselineMatches s.contents (manifest.baseline database) then
      { s with phase := .locking }
    else s.returnErr
  | .locking => if answer = .ok then { s with phase := .ensuring } else s.returnErr
  | .ensuring =>
    let ensured := if answer.effective then { s with history := some s.rows } else s
    if answer = .ok then { ensured with phase := .counting } else ensured.failed
  | .counting =>
    if answer = .ok then
      { s with phase := if s.rows.length ≠ 0 then .reading else .planning }
    else s.failed
  | .planning =>
    if answer = .ok then
      match e.planImports s.contents (manifest.migrationsFor database) with
      | none => s.failed
      | some [] => { s with phase := .reading }
      | some imports => { s with phase := .importing imports [] }
    else s.failed
  | .importing [] inserted =>
    let committed :=
      if answer.effective then { s with history := some (s.rows ++ inserted) } else s
    if answer = .ok then { committed with phase := .reading } else committed.failed
  | .importing (m :: rest) inserted =>
    if answer = .ok then
      let row : HistoryRow := ⟨inserted.length + 1, m.component, m.version, m.sha256, true⟩
      match e.insertRow (s.rows ++ inserted) row.installedRank m true with
      | none => s.failed
      | some _ => { s with phase := .importing rest (inserted ++ [row]) }
    else s.failed
  | .reading => if answer = .ok then s.validate manifest database else s.failed
  | .claiming m rest => s.claim e m rest answer
  | .executing m statement statements rest =>
    let outcome := e.execute s.contents statement
    let sent :=
      { s with
        contents := if answer.effective then outcome.1 else s.contents
        executed := s.executed ++ [(s.runs, m)] }
    if answer = .ok ∧ outcome.2 then { sent with phase := .script m rest statements }
    else { sent with phase := .recordingFailure }
  | .recordingFailure => s.failed
  | .finishing m rest =>
    let finished :=
      if answer.effective then { s with history := some (e.markSuccess s.rows m) } else s
    if answer = .ok then { finished with phase := .next rest } else finished.failed
  | .releasing succeeded =>
    if answer = .ok ∧ succeeded then { s with phase := .inspecting } else s.returnErr
  | .inspecting =>
    if answer = .ok then
      { s with
        phase := .idle
        returned := some (some (s.inspectDatabase e manifest database)) }
    else s.returnErr

/-- The run ends where it is; rows of an open import are durable or not. -/
def stop (s : State δ) (durable : Bool) : State δ :=
  match s.phase with
  | .importing _ inserted =>
    { s with
      phase := .idle
      history := if durable then some (s.rows ++ inserted) else s.history }
  | _ => { s with phase := .idle }

inductive Action (δ : Type*) where
  | startRun
  | advance (answer : Answer)
  | stop (durable : Bool)
  /-- Other programs write to the other tables. -/
  | write (contents : δ)

def step (e : Engine δ) (manifest : MigrationManifest) (database : DatabaseKind) (s : State δ) :
    Action δ → State δ
  | .startRun =>
    if s.phase = .idle then
      { s with phase := .checkingBaseline, runs := s.runs + 1, returned := none }
    else s
  | .advance answer => s.advance e manifest database answer
  | .stop durable => s.stop durable
  | .write contents => { s with contents := contents }

end State

end RustyCore.Migrations
