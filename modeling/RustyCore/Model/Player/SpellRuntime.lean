import Mathlib.Data.Finset.Image
import RustyCore.Library.Transaction

/-! # The spell runtime

The spell rows of a player, the acquisition planner as far as it changes these rows, the
removal of known spells, and the save of a complete runtime.

The planner learns spells in a recursion that the rank chains, the skills and the casts of
the learned spells drive. The rows decide what happens to a row; which further spells a call
leads to is kept open, as a tree of calls. Trait definitions, overrides and the rows of an
incomplete runtime are left out: no row of a complete one depends on them. -/

namespace RustyCore.Player

inductive SpellLoadState where
  | unchanged
  | new
  | changed
  | removed
  | temporary
deriving DecidableEq

structure KnownSpellRecord where
  spellId : ℤ
  state : SpellLoadState
  active : Bool
  disabled : Bool
  favorite : Bool
  dependent : Bool
deriving DecidableEq

abbrev SpellRows := KeyedMap KnownSpellRecord.spellId

structure SpellRuntimeState where
  knownSpells : Finset ℤ
  rows : SpellRows
  rowsLoaded : Bool
  rowsComplete : Bool
  dependentKnownSpells : Finset ℤ
  removedKnownSpells : Finset ℤ
  favoriteKnownSpells : Finset ℤ

/-- The ids of the rows that satisfy `p`. -/
def SpellRows.ids (rows : SpellRows) (p : KnownSpellRecord → Bool) : Finset ℤ :=
  ((rows.values.filter p).map KnownSpellRecord.spellId).toFinset

/-! ## The acquisition planner -/

structure SpellChainNode where
  firstSpellId : ℤ
  nextSpellId : Option ℤ
  rank : ℕ

/-- The state of a row that is changed: a row that was never saved stays new. -/
def KnownSpellRecord.dirtied (row : KnownSpellRecord) : SpellLoadState :=
  if row.state = .new then .new else .changed

section Planner

variable (chain : ℤ → Option SpellChainNode)

def hasSpell (rows : SpellRows) (spellId : ℤ) : Bool :=
  (rows.get spellId).any fun row => row.state != .removed && !row.disabled

/-- The arguments of `add_spell`, which is always called to learn. -/
structure AddSpellCall where
  spellId : ℤ
  active : Bool
  dependent : Bool
  disabled : Bool
  favorite : Bool

/-- How `add_spell` goes on after it has looked at the row that exists. -/
inductive ExistingSpell where
  /-- It returns. -/
  | returned (rows : SpellRows)
  /-- The row is active again; a passive spell is cast. -/
  | activated (rows : SpellRows)
  /-- The row is enabled again, and the spell's own learning follows. -/
  | enabled (rows : SpellRows)
  /-- There is no row, and one is inserted with this state. -/
  | absent (rows : SpellRows) (state : SpellLoadState) (active : Bool)

/-- A higher rank that is known keeps the rank below it inactive. -/
def activeBelow (rows : SpellRows) (call : AddSpellCall) : Bool :=
  match (chain call.spellId).bind SpellChainNode.nextSpellId with
  | some next => call.active && !hasSpell rows next
  | none => call.active

/-- The row after the promotion to a dependent one and the new favorite flag. -/
def promoted (row : KnownSpellRecord) (call : AddSpellCall) : KnownSpellRecord :=
  if row.state ≠ .removed ∧ row.dependent = false ∧ call.dependent = true then
    { row with dependent := true, state := row.dirtied, favorite := call.favorite }
  else { row with favorite := call.favorite }

def existingSpell (rows : SpellRows) (call : AddSpellCall) : ExistingSpell :=
  match rows.get call.spellId with
  | none => .absent rows .new call.active
  | some existing =>
    if existing.state = .temporary then
      .absent (rows.remove call.spellId) .new call.active
    else
      let active := activeBelow chain rows call
      if existing.state ≠ .removed ∧ existing.active = active ∧
          existing.dependent = call.dependent ∧ existing.disabled = call.disabled then
        .returned rows
      else
        let row := promoted existing call
        if row.active ≠ active ∧ row.state ≠ .removed ∧ row.disabled = false then
          let rows := rows.insert { row with active := active, state := row.dirtied }
          if active then .activated rows else .returned rows
        else if row.disabled ≠ call.disabled ∧ row.state ≠ .removed then
          let rows := rows.insert { row with disabled := call.disabled, state := row.dirtied }
          if call.disabled then .returned rows else .enabled rows
        else if row.state = .removed then
          .absent (rows.remove call.spellId) .changed active
        else .returned (rows.insert row)

/-- Of two active ranks of one chain the lower one becomes inactive. -/
def supersede (current : SpellChainNode) (spellId : ℤ) (rows : SpellRows) (candidateId : ℤ) :
    SpellRows :=
  if candidateId = spellId then rows
  else
    match rows.get candidateId with
    | none => rows
    | some candidate =>
      if candidate.state = .removed ∨ candidate.active = false then rows
      else
        match chain candidateId with
        | none => rows
        | some candidateChain =>
          if candidateChain.firstSpellId ≠ current.firstSpellId then rows
          else if candidateChain.rank < current.rank then
            rows.insert { candidate with active := false, state := candidate.dirtied }
          else
            match rows.get spellId with
            | none => rows
            | some row => rows.insert { row with active := false, state := row.dirtied }

def supersedeRanks (rows : SpellRows) (call : AddSpellCall) (active : Bool) : SpellRows :=
  match chain call.spellId with
  | some current =>
    if active && !call.disabled then
      (rows.keys.insertionSort (· ≤ ·)).foldl (supersede chain current call.spellId) rows
    else rows
  | none => rows

/-- Insert the row of the call; a row that has come back meanwhile is replaced as changed. -/
def insertSpell (rows : SpellRows) (call : AddSpellCall) (state : SpellLoadState)
    (active : Bool) : SpellRows :=
  rows.insert
    { spellId := call.spellId
      state := if rows.get call.spellId = none then state else .changed
      active := active
      disabled := call.disabled
      favorite := call.favorite
      dependent := call.dependent }

/-- `add_spell`, over what the calls for the previous rank and the calls that follow do. -/
def addSpell (previous following : SpellRows → SpellRows) (rows : SpellRows)
    (call : AddSpellCall) : SpellRows :=
  match existingSpell chain rows call with
  | .returned rows => rows
  | .activated rows => following rows
  | .enabled rows => following rows
  | .absent rows state active =>
    let inserted := insertSpell (previous rows) call state active
    let ranked := supersedeRanks chain inserted call active
    if call.disabled then ranked else following ranked

/-- The arguments with which `learn_spell` calls `add_spell`. -/
def learnSpellCall (rows : SpellRows) (spellId : ℤ) (dependent : Bool) : AddSpellCall :=
  let existing := rows.get spellId
  { spellId := spellId
    active := ((existing.filter KnownSpellRecord.disabled).map KnownSpellRecord.active).getD true
    dependent := dependent
    disabled := false
    favorite := existing.any KnownSpellRecord.favorite }

/-- The calls of one acquisition. `previous` is what `add_spell` does for the previous rank,
`following` what it does after the row, and `higher` what a spell enables that was disabled. -/
inductive SpellCall where
  | add (call : AddSpellCall) (previous following : List SpellCall)
  | learn (spellId : ℤ) (dependent : Bool) (previous following higher : List SpellCall)

mutual

def SpellCall.run : SpellCall → SpellRows → SpellRows
  | .add call previous following, rows =>
    addSpell chain (SpellCall.runAll previous) (SpellCall.runAll following) rows call
  | .learn spellId dependent previous following higher, rows =>
    let wasDisabled := (rows.get spellId).any KnownSpellRecord.disabled
    let learned := addSpell chain (SpellCall.runAll previous) (SpellCall.runAll following) rows
      (learnSpellCall rows spellId dependent)
    if wasDisabled then SpellCall.runAll higher learned else learned

def SpellCall.runAll : List SpellCall → SpellRows → SpellRows
  | [], rows => rows
  | call :: rest, rows => SpellCall.runAll rest (SpellCall.run call rows)

end

end Planner

namespace SpellRuntimeState

/-- Whether the rows are the authoritative ones, all of them. -/
def complete (runtime : SpellRuntimeState) : Bool := runtime.rowsLoaded && runtime.rowsComplete

/-! ## Edits -/

/-- `apply_prepared_spell_acquisition`, of the rows that the plan results in. -/
def applyPreparedSpellAcquisition (spells : SpellRows) : SpellRuntimeState where
  knownSpells := spells.ids fun row => row.state != .removed && !row.disabled
  rows := spells
  rowsLoaded := true
  rowsComplete := true
  dependentKnownSpells := spells.ids fun row => row.state != .removed && row.dependent
  removedKnownSpells := spells.ids fun row => row.state == .removed
  favoriteKnownSpells := spells.ids fun row => row.state != .removed && row.favorite

/-- Plan an acquisition on the complete rows, prepare it and install the result. -/
def acquire (chain : ℤ → Option SpellChainNode) (runtime : SpellRuntimeState)
    (calls : List SpellCall) : SpellRuntimeState :=
  if runtime.complete then
    let spells := SpellCall.runAll chain calls runtime.rows
    if spells.values.all fun row => 0 < row.spellId then applyPreparedSpellAcquisition spells
    else runtime
  else runtime

/-- `invalidate_represented_player_spell_rows`. -/
def invalidateRows (runtime : SpellRuntimeState) : SpellRuntimeState :=
  { runtime with rows := KeyedMap.empty, rowsLoaded := false, rowsComplete := false }

def forgetKnownSpell (runtime : SpellRuntimeState) (spellId : ℤ) : SpellRuntimeState :=
  let wasKnown := spellId ∈ runtime.knownSpells
  let wasDependent := spellId ∈ runtime.dependentKnownSpells
  { runtime with
    knownSpells := runtime.knownSpells.erase spellId
    dependentKnownSpells := runtime.dependentKnownSpells.erase spellId
    favoriteKnownSpells := runtime.favoriteKnownSpells.erase spellId
    removedKnownSpells :=
      if wasKnown ∧ ¬ wasDependent then insert spellId runtime.removedKnownSpells
      else runtime.removedKnownSpells }

/-- What `remove_known_spell` does to each spell it removes: higher ranks, the spells that
require the spell, the spell itself and the spells it taught. -/
def removeKnownSpell (runtime : SpellRuntimeState) (spellId : ℤ) : SpellRuntimeState :=
  if spellId ∉ runtime.knownSpells then runtime
  else if runtime.rowsComplete then
    let forgotten := runtime.forgetKnownSpell spellId
    if spellId ∈ runtime.dependentKnownSpells then
      { forgotten with rows := forgotten.rows.remove spellId }
    else
      match forgotten.rows.get spellId with
      | none => forgotten
      | some row =>
        let tombstone := { row with
          active := false, disabled := false, dependent := false, favorite := false
          state := SpellLoadState.removed }
        { forgotten with rows := forgotten.rows.insert tombstone }
  else runtime.invalidateRows.forgetKnownSpell spellId

/-- `learn_known_spell`, which does not keep the rows. -/
def learnKnownSpell (runtime : SpellRuntimeState) (spellId : ℤ) : SpellRuntimeState :=
  let invalidated := runtime.invalidateRows
  { invalidated with
    knownSpells := insert spellId invalidated.knownSpells
    removedKnownSpells := invalidated.removedKnownSpells.erase spellId }

def learnDependentKnownSpell (runtime : SpellRuntimeState) (spellId : ℤ) : SpellRuntimeState :=
  let learned := runtime.learnKnownSpell spellId
  { learned with
    dependentKnownSpells := insert spellId learned.dependentKnownSpells
    favoriteKnownSpells := learned.favoriteKnownSpells.erase spellId }

/-- What `remove_known_spell` does, after the removal of a ranked spell, when the previous
rank is known: it is learned again. -/
def relearnPreviousRank (runtime : SpellRuntimeState) (previous : ℤ) (wasDependent : Bool) :
    SpellRuntimeState :=
  if previous ∉ runtime.knownSpells then runtime
  else if wasDependent then runtime.learnDependentKnownSpell previous
  else
    let learned := runtime.learnKnownSpell previous
    { learned with dependentKnownSpells := learned.dependentKnownSpells.erase previous }

/-! ## Acknowledgement -/

/-- The state of a row that was changed after its save was captured. -/
def acknowledgedState : SpellLoadState → SpellLoadState → SpellLoadState
  | .removed, .removed => .removed
  | .removed, _ => .new
  | _, .removed => .removed
  | .new, _ | .changed, _ | .unchanged, _ => .changed
  | .temporary, other => other

def acknowledgeSpell (rows : SpellRows) (row : KnownSpellRecord) : SpellRows :=
  if row.state = .temporary then rows
  else
    match rows.get row.spellId with
    | some current =>
      if current = row then
        if row.state = .removed then rows.remove row.spellId
        else rows.insert { current with state := .unchanged }
      else if current.state ≠ .temporary then
        rows.insert { current with state := acknowledgedState row.state current.state }
      else rows
    | none =>
      if row.state = .removed then rows
      else rows.insert { row with state := .removed }

/-- The removals that a confirmed `DELETE` settles. -/
def settledRemovals (rows saved : SpellRows) : Finset ℤ :=
  saved.ids fun row => row.state == .removed && decide (rows.get row.spellId = some row)

def acknowledgeSpells (runtime : SpellRuntimeState) (saved : SpellRows) : SpellRuntimeState :=
  let rows := saved.values.foldl acknowledgeSpell runtime.rows
  { runtime with
    rows := rows
    removedKnownSpells := runtime.removedKnownSpells \ settledRemovals runtime.rows saved
    dependentKnownSpells := rows.ids fun row => row.state != .removed && row.dependent
    favoriteKnownSpells := rows.ids fun row => row.state != .removed && row.favorite
    knownSpells := rows.ids fun row => row.state != .removed && !row.disabled }

/-- The spell part of `acknowledge_saved_projection`, for a save of complete rows. -/
def acknowledgeSavedProjection (runtime saved : SpellRuntimeState) : SpellRuntimeState :=
  if saved.complete && runtime.complete then runtime.acknowledgeSpells saved.rows else runtime

end SpellRuntimeState

/-! ## The save plan and the tables -/

inductive SpellSaveStep where
  | deleteSpell (spellId : ℤ)
  | insertSpell (spellId : ℤ) (active disabled : Bool)
  | deleteFavoriteSpell (spellId : ℤ)
  | insertFavoriteSpell (spellId : ℤ)
deriving DecidableEq

/-- The steps of one row. -/
def spellSaveSteps (spell : KnownSpellRecord) : List SpellSaveStep :=
  (if spell.state = .removed ∨ spell.state = .changed then [.deleteSpell spell.spellId] else []) ++
  if spell.state = .new ∨ spell.state = .changed then
    (if spell.dependent then [] else [.insertSpell spell.spellId spell.active spell.disabled]) ++
    .deleteFavoriteSpell spell.spellId ::
      (if spell.favorite then [.insertFavoriteSpell spell.spellId] else [])
  else []

/-- The rows are saved in the order of their ids. -/
def SpellRuntimeState.savePlan (runtime : SpellRuntimeState) : List SpellSaveStep :=
  if runtime.complete then
    (runtime.rows.values.mergeSort fun row row' => row.spellId ≤ row'.spellId).flatMap
      spellSaveSteps
  else []

/-- The player's rows of `character_spell` (`active` and `disabled`) and
`character_spell_favorite`. -/
structure SpellTables where
  characterSpell : Dict ℤ (Bool × Bool)
  favorites : Dict ℤ Unit

def SpellTables.execute (t : SpellTables) : SpellSaveStep → Option SpellTables
  | .deleteSpell spellId =>
    some { t with characterSpell := AList.erase spellId t.characterSpell }
  | .insertSpell spellId active disabled =>
    (t.characterSpell.insertRow spellId (active, disabled)).map fun rows =>
      { t with characterSpell := rows }
  | .deleteFavoriteSpell spellId =>
    some { t with favorites := AList.erase spellId t.favorites }
  | .insertFavoriteSpell spellId =>
    (t.favorites.insertRow spellId ()).map fun rows => { t with favorites := rows }

def SpellRuntimeState.save (t : SpellTables) (runtime : SpellRuntimeState) : Option SpellTables :=
  transaction SpellTables.execute t runtime.savePlan

end RustyCore.Player
