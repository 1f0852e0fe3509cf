import RustyCore.Library.Run
import RustyCore.Verification.Player.SpellTables

/-! # Histories of spell saves

Saves of a complete spell runtime are captured, committed or rolled back while spells are
learned and removed. -/

namespace RustyCore.Player

open SpellLoadState

variable {stored : Option StoredSpell}

/-- The transitions of a runtime: a planned and prepared acquisition, and the two things that
`remove_known_spell` does, the removal of one spell and the relearning of a previous rank. -/
inductive SpellEdit where
  | acquire (calls : List SpellCall)
  | remove (spellId : ℤ)
  | relearn (previous : ℤ) (wasDependent : Bool)

def SpellEdit.apply (chain : ℤ → Option SpellChainNode) (runtime : SpellRuntimeState) :
    SpellEdit → SpellRuntimeState
  | acquire calls => runtime.acquire chain calls
  | remove spellId => runtime.removeKnownSpell spellId
  | relearn previous wasDependent => runtime.relearnPreviousRank previous wasDependent

def spellSaves (chain : ℤ → Option SpellChainNode) :
    DeferredSave SpellRuntimeState SpellTables SpellEdit where
  edit := SpellEdit.apply chain
  save := fun t runtime => runtime.save t
  acknowledge := SpellRuntimeState.acknowledgeSavedProjection

abbrev SpellState := SaveState SpellRuntimeState SpellTables

/-- A complete runtime whose row map is consistent with `character_spell`. -/
structure RuntimeInStep (runtime : SpellRuntimeState) (t : SpellTables) : Prop where
  complete : runtime.complete = true
  agrees : ∀ spellId, SpellAgrees (runtime.rows.get spellId) (t.spell spellId)

/-- The runtime is in step with the table, as it is after a rollback; and a save in flight
inserts missing keys only and leaves a runtime that is in step with the resulting table. -/
structure SpellsInStep (s : SpellState) : Prop where
  current : RuntimeInStep s.memory s.tables
  inFlight : ∀ saved, s.inFlight = some saved →
    AllFit SpellTables.execute SpellTables.Fits s.tables saved.savePlan ∧
    ∃ t', saved.save s.tables = some t' ∧
      RuntimeInStep (s.memory.acknowledgeSavedProjection saved) t'

/-- No dependent spell is removed while the table has a row for it, and no previous rank is
known when a ranked spell is removed. -/
def Removable (s : SpellState) : SaveOp SpellEdit → Prop
  | .edit (.remove spellId) => spellId ∈ s.memory.knownSpells →
      spellId ∈ s.memory.dependentKnownSpells → s.tables.spell spellId = none
  | .edit (.relearn previous _) => previous ∉ s.memory.knownSpells
  | .edit (.acquire _) => True
  | .capture => True
  | .commit => True
  | .rollback => True

/-! ## Acknowledgement -/

open SpellRuntimeState

/-- The acknowledgement of one spell: what was saved against what there is now. -/
def acknowledgedSpell : Option KnownSpellRecord → Option KnownSpellRecord →
    Option KnownSpellRecord
  | none, current => current
  | some row, current =>
    if row.state = temporary then current
    else
      match current with
      | some current =>
        if current = row then
          if row.state = removed then none else some { current with state := unchanged }
        else if current.state ≠ temporary then
          some { current with state := acknowledgedState row.state current.state }
        else some current
      | none => if row.state = removed then none else some { row with state := removed }

theorem get_acknowledgeSpell (rows : SpellRows) (row : KnownSpellRecord) (spellId : ℤ) :
    (acknowledgeSpell rows row).get spellId =
      if spellId = row.spellId then acknowledgedSpell (some row) (rows.get row.spellId)
      else rows.get spellId := by
  by_cases hid : spellId = row.spellId
  · subst hid
    rw [if_pos rfl]
    simp only [acknowledgeSpell, acknowledgedSpell]
    split
    · rfl
    · cases hget : rows.get row.spellId with
      | none =>
        simp only
        split
        · exact hget
        · rw [KeyedMap.get_insert, if_pos rfl]
      | some current =>
        have hkey : row.spellId = current.spellId := (KeyedMap.key_of_get hget).symm
        simp only
        split
        · split
          · rw [KeyedMap.get_remove, if_pos rfl]
          · rw [KeyedMap.get_insert, if_pos hkey]
        · split
          · rw [KeyedMap.get_insert, if_pos hkey]
          · exact hget
  · rw [if_neg hid]
    simp only [acknowledgeSpell]
    split
    · rfl
    · cases hget : rows.get row.spellId with
      | none =>
        simp only
        split
        · rfl
        · rw [KeyedMap.get_insert, if_neg hid]
      | some current =>
        have hkey : spellId ≠ current.spellId := by
          rw [KeyedMap.key_of_get hget]
          exact hid
        simp only
        split
        · split
          · rw [KeyedMap.get_remove, if_neg hid]
          · rw [KeyedMap.get_insert, if_neg hkey]
        · split
          · rw [KeyedMap.get_insert, if_neg hkey]
          · rfl

theorem get_acknowledgeSpells (runtime : SpellRuntimeState) (saved : SpellRows) (spellId : ℤ) :
    (runtime.acknowledgeSpells saved).rows.get spellId =
      acknowledgedSpell (saved.get spellId) (runtime.rows.get spellId) :=
  KeyedMap.get_foldl_values get_acknowledgeSpell (fun _ => rfl) saved runtime.rows spellId

theorem agrees_settledSpell {row : KnownSpellRecord} (h : SpellAgrees (some row) stored)
    (htemporary : row.state ≠ temporary) :
    SpellAgrees (if row.state = removed then none else some { row with state := unchanged })
      (writtenSpell row stored) := by
  cases hstate : row.state with
  | temporary => exact absurd hstate htemporary
  | removed => simp only [writtenSpell, hstate, if_true, SpellAgrees]
  | unchanged => simpa only [writtenSpell, SpellAgrees, hstate, reduceCtorEq, if_false] using h
  | new => simp only [writtenSpell, SpellAgrees, hstate, reduceCtorEq, if_false]
  | changed => simp only [writtenSpell, SpellAgrees, hstate, reduceCtorEq, if_false]

/-- A row that was changed since gets a state from which the next save is right. -/
theorem agrees_rebased {row current : KnownSpellRecord} (htemporary : row.state ≠ temporary) :
    SpellAgrees (some { current with state := acknowledgedState row.state current.state })
      (writtenSpell row stored) := by
  cases hstate : row.state with
  | temporary => exact absurd hstate htemporary
  | removed =>
    cases hcurrent : current.state with
    | removed => exact .of_removed rfl
    | unchanged | new | changed | temporary =>
      exact (agrees_new_iff rfl).mpr (by simp only [writtenSpell, hstate])
  | unchanged | new | changed =>
    cases hcurrent : current.state with
    | removed => exact .of_removed rfl
    | unchanged | new | changed | temporary => exact .of_changed rfl

theorem agrees_acknowledgedSpell {saved current : Option KnownSpellRecord}
    (hsaved : SpellAgrees saved stored) (hcurrent : SpellAgrees current stored)
    (hnone : ∀ row, current = some row → row.state = temporary →
      ∃ row', saved = some row' ∧ row'.state = temporary) :
    SpellAgrees (acknowledgedSpell saved current) (writtenSpellAt saved stored) := by
  cases saved with
  | none => exact hcurrent
  | some row =>
    simp only [acknowledgedSpell, writtenSpellAt]
    by_cases htemporary : row.state = temporary
    · simp only [htemporary, if_true, writtenSpell]
      exact hcurrent
    · rw [if_neg htemporary]
      cases current with
      | none =>
        simp only
        split
        · rename_i hremoved
          simp only [SpellAgrees, writtenSpell, hremoved]
        · exact .of_removed rfl
      | some current =>
        simp only
        by_cases hsame : current = row
        · subst hsame
          rw [if_pos rfl]
          exact agrees_settledSpell hsaved htemporary
        · have hlasting : current.state ≠ temporary := by
            intro hcontra
            obtain ⟨row', hrow', hstate⟩ := hnone current rfl hcontra
            cases hrow'
            exact htemporary hstate
          rw [if_neg hsame, if_pos hlasting]
          exact agrees_rebased htemporary

/-! ## Edits -/

section Edits

variable {chain : ℤ → Option SpellChainNode} {t : SpellTables} {start : SpellRows}
variable {runtime : SpellRuntimeState}

/-- The runtime is complete and agrees with the table; no row has become a temporary one. -/
structure RuntimeKept (t : SpellTables) (start : SpellRows) (runtime : SpellRuntimeState) :
    Prop where
  complete : runtime.complete = true
  rows : RowsKept t.spell start (fun _ => False) runtime.rows

theorem RuntimeKept.inStep (h : RuntimeKept t start runtime) : RuntimeInStep runtime t :=
  ⟨h.complete, fun spellId => h.rows.agrees spellId id⟩

theorem RuntimeInStep.kept (h : RuntimeInStep runtime t) : RuntimeKept t runtime.rows runtime :=
  ⟨h.complete, fun spellId _ => h.agrees spellId, fun _ row hget hstate => ⟨row, hget, hstate⟩⟩

theorem RuntimeKept.acquire (h : RuntimeKept t start runtime) (calls : List SpellCall) :
    RuntimeKept t start (runtime.acquire chain calls) := by
  rw [SpellRuntimeState.acquire, if_pos h.complete]
  simp only
  split
  · exact ⟨rfl, runAll_kept chain calls _ _ h.rows⟩
  · exact h

theorem complete_removeKnownSpell (h : runtime.complete = true) (spellId : ℤ) :
    (runtime.removeKnownSpell spellId).complete = true := by
  have hrows : runtime.rowsComplete = true := (Bool.and_eq_true_iff.mp h).2
  rw [removeKnownSpell, if_pos hrows]
  split
  · exact h
  · split
    · exact h
    · simp only
      split
      · exact h
      · exact h

/-- A removal takes the row of a dependent spell away, and turns any other into a tombstone. -/
theorem rows_removeKnownSpell (h : runtime.complete = true) {spellId : ℤ}
    (hknown : spellId ∈ runtime.knownSpells) :
    if spellId ∈ runtime.dependentKnownSpells then
      (runtime.removeKnownSpell spellId).rows = runtime.rows.remove spellId
    else
      (runtime.removeKnownSpell spellId).rows = runtime.rows ∨
      ∃ row : KnownSpellRecord, row.spellId = spellId ∧ row.state = removed ∧
        (runtime.removeKnownSpell spellId).rows = runtime.rows.insert row := by
  have hrows : runtime.rowsComplete = true := (Bool.and_eq_true_iff.mp h).2
  rw [removeKnownSpell, if_neg (not_not.mpr hknown), if_pos hrows]
  split
  · rfl
  · cases hget : runtime.rows.get spellId with
    | none =>
      left
      simp only [forgetKnownSpell, hget]
    | some row =>
      right
      let tombstone : KnownSpellRecord :=
        { row with
          active := false, disabled := false, dependent := false, favorite := false
          state := removed }
      have hkey : row.spellId = spellId := KeyedMap.key_of_get hget
      refine ⟨tombstone, hkey, rfl, ?_⟩
      simp only [forgetKnownSpell, hget, tombstone]

theorem RuntimeKept.remove (h : RuntimeKept t start runtime) {spellId : ℤ}
    (hremovable : spellId ∈ runtime.knownSpells →
      spellId ∈ runtime.dependentKnownSpells → t.spell spellId = none) :
    RuntimeKept t start (runtime.removeKnownSpell spellId) := by
  refine ⟨complete_removeKnownSpell h.complete spellId, ?_⟩
  by_cases hknown : spellId ∈ runtime.knownSpells
  · have hrows := rows_removeKnownSpell h.complete hknown
    split at hrows
    · rename_i hdependent
      rw [hrows]
      have hremoved := h.rows.remove spellId
      refine ⟨?_, hremoved.noneTemporary⟩
      intro other _
      by_cases hid : other = spellId
      · rw [KeyedMap.get_remove, if_pos hid, hid]
        exact hremovable hknown hdependent
      · exact hremoved.agrees other fun hadding => hadding.elim id hid
    · rcases hrows with hsame | ⟨row, _, hstate, hrows⟩
      · rw [hsame]
        exact h.rows
      · rw [hrows]
        exact h.rows.insert (fun _ => .of_removed hstate) (by rw [hstate]; decide)
  · rw [removeKnownSpell, if_pos hknown]
    exact h.rows

theorem relearnPreviousRank_of_notMem {previous : ℤ} (h : previous ∉ runtime.knownSpells)
    (wasDependent : Bool) :
    runtime.relearnPreviousRank previous wasDependent = runtime := if_pos h

theorem RuntimeKept.edit (h : RuntimeKept t start runtime) {inFlight : Option SpellRuntimeState}
    {e : SpellEdit} (he : Removable ⟨runtime, t, inFlight⟩ (.edit e)) :
    RuntimeKept t start (e.apply chain runtime) := by
  cases e with
  | acquire calls => exact h.acquire calls
  | remove spellId => exact h.remove he
  | relearn previous wasDependent =>
    rw [SpellEdit.apply, relearnPreviousRank_of_notMem he]
    exact h

theorem removable_of_inStep (h : RuntimeInStep runtime t) {inFlight : Option SpellRuntimeState}
    {e : SpellEdit} (hstep : RuntimeInStep (e.apply chain runtime) t) :
    Removable ⟨runtime, t, inFlight⟩ (.edit e) := by
  cases e with
  | acquire calls => trivial
  | remove spellId =>
    intro hknown hdependent
    have hrows := rows_removeKnownSpell h.complete hknown
    rw [if_pos hdependent] at hrows
    have hagrees := hstep.agrees spellId
    rw [SpellEdit.apply, hrows, KeyedMap.get_remove, if_pos rfl] at hagrees
    exact hagrees
  | relearn previous wasDependent =>
    intro hknown
    have hcomplete := hstep.complete
    rw [SpellEdit.apply, relearnPreviousRank, if_neg (not_not.mpr hknown)] at hcomplete
    cases wasDependent <;> cases hcomplete

end Edits

/-! ## The result -/

/-- The captured runtime and the current one, which has been edited since. -/
structure SpellsSaving (t : SpellTables) (saved runtime : SpellRuntimeState) : Prop where
  captured : RuntimeInStep saved t
  current : RuntimeKept t saved.rows runtime

theorem SpellsSaving.save {t : SpellTables} {saved runtime : SpellRuntimeState}
    (h : SpellsSaving t saved runtime) :
    AllFit SpellTables.execute SpellTables.Fits t saved.savePlan ∧
    ∃ t', saved.save t = some t' ∧
      RuntimeInStep (runtime.acknowledgeSavedProjection saved) t' := by
  obtain ⟨hfit, t', hsave, hwritten⟩ := spell_save_spec h.captured.complete h.captured.agrees
  refine ⟨hfit, t', hsave, ?_⟩
  have hboth : (saved.complete && runtime.complete) = true := by
    rw [h.captured.complete, h.current.complete]
    rfl
  rw [acknowledgeSavedProjection, if_pos hboth]
  refine ⟨h.current.complete, fun spellId => ?_⟩
  rw [get_acknowledgeSpells, hwritten]
  exact agrees_acknowledgedSpell (h.captured.agrees spellId) (h.current.rows.agrees spellId id)
    (h.current.rows.noneTemporary spellId)

theorem spell_rules (chain : ℤ → Option SpellChainNode) :
    (spellSaves chain).Rules RuntimeInStep SpellsSaving Removable where
  edit := fun _ _ _ h hop => (h.kept.edit hop).inStep
  editInFlight := fun _ _ _ _ h hop => ⟨h.captured, h.current.edit hop⟩
  capture := fun _ _ h _ => ⟨h, h.kept⟩
  commit := fun _ _ _ h _ => h.save.2
  rollback := fun _ _ _ h => h.current.inStep

abbrev SpellsKept : SpellState → Prop := DeferredSave.Kept RuntimeInStep SpellsSaving

theorem SpellsKept.current {s : SpellState} (h : SpellsKept s) : RuntimeInStep s.memory s.tables := by
  obtain ⟨runtime, t, inFlight⟩ := s
  cases inFlight with
  | none => exact h
  | some saved => exact RuntimeKept.inStep (SpellsSaving.current h)

theorem spellsInStep_of_kept (s : SpellState) (h : SpellsKept s) : SpellsInStep s := by
  refine ⟨h.current, ?_⟩
  obtain ⟨runtime, t, inFlight⟩ := s
  rintro saved hsaved
  cases hsaved
  exact SpellsSaving.save h

theorem removable_of_spellsInStep (chain : ℤ → Option SpellChainNode) (s : SpellState)
    (op : SaveOp SpellEdit) (h : SpellsKept s) (hstep : SpellsInStep ((spellSaves chain).step s op)) :
    Removable s op := by
  cases op with
  | edit e => exact removable_of_inStep h.current hstep.current
  | capture => trivial
  | commit => trivial
  | rollback => trivial

/-- In a history of saves and edits of a consistent runtime, the runtime and the table are in
step at every moment exactly when no removal takes the row of a dependent spell away that the
table still has, and none learns a previous rank again. -/
theorem spell_saves_in_step_iff (chain : ℤ → Option SpellChainNode) (s : SpellState)
    (hquiet : s.inFlight = none) (hstart : RuntimeInStep s.memory s.tables)
    (ops : List (SaveOp SpellEdit)) :
    (∀ ops', ops' <+: ops → SpellsInStep (run (spellSaves chain).step s ops')) ↔
      EachStep (spellSaves chain).step Removable s ops := by
  have hkept : SpellsKept s := by
    simp only [DeferredSave.Kept, hquiet]
    exact hstart
  exact forall_prefixes_iff SpellsKept SpellsInStep spellsInStep_of_kept
    (fun s op h _ hg => (spell_rules chain).step s op h hg)
    (fun s op h _ => removable_of_spellsInStep chain s op h) hkept
    (EachStep.of_forall (fun _ _ _ => trivial) s)

/-- A complete runtime with one saved spell, of id 1, and its row of the table. -/
def oneStoredSpell (dependent : Bool) : SpellState :=
  let row : KnownSpellRecord := ⟨1, unchanged, true, false, false, dependent⟩
  let stored : Dict ℤ (Bool × Bool) := if dependent then ∅ else AList.insert 1 (true, false) ∅
  ⟨applyPreparedSpellAcquisition (KeyedMap.empty.insert row), ⟨stored, ∅⟩, none⟩

theorem inStep_oneStoredSpell (dependent : Bool) :
    RuntimeInStep (oneStoredSpell dependent).memory (oneStoredSpell dependent).tables := by
  refine ⟨rfl, fun spellId => ?_⟩
  by_cases hid : spellId = 1
  · subst hid
    cases dependent <;> rfl
  · have hget : (oneStoredSpell dependent).memory.rows.get spellId = none := by
      simp only [oneStoredSpell, applyPreparedSpellAcquisition, KeyedMap.get_insert, if_neg hid]
      rfl
    rw [hget]
    cases dependent with
    | true => rfl
    | false =>
      simp only [SpellAgrees, oneStoredSpell, SpellTables.spell, Bool.false_eq_true, if_false,
        Dict.lookup_insert_eq, if_neg hid]
      rfl

def learnDependent : SpellCall := .learn 1 true [] [] []

/-- A saved spell is removed and learned again while a save is in flight. -/
theorem spell_saves_in_step_sample :
    SpellsInStep (run (spellSaves fun _ => none).step (oneStoredSpell false)
      [.capture, .edit (.remove 1), .edit (.acquire [learnDependent]), .commit]) := by
  refine (spell_saves_in_step_iff _ _ rfl (inStep_oneStoredSpell false) _).mpr ?_ _ List.prefix_rfl
  refine ⟨trivial, ?_, trivial, trivial, trivial⟩
  intro _ hdependent
  exact absurd hdependent (by decide)

/-- A saved spell becomes a dependent one and is removed: its row is taken away as if it had
never been saved, and the row of the table stays. -/
theorem spell_saves_out_of_step :
    RuntimeInStep (oneStoredSpell false).memory (oneStoredSpell false).tables ∧
    ¬ SpellsInStep (run (spellSaves fun _ => none).step (oneStoredSpell false)
      [.capture, .edit (.acquire [learnDependent]), .edit (.remove 1), .rollback]) := by
  refine ⟨inStep_oneStoredSpell false, fun h => ?_⟩
  have hagrees := h.current.agrees 1
  have hrow : (run (spellSaves fun _ => none).step (oneStoredSpell false)
      [.capture, .edit (.acquire [learnDependent]), .edit (.remove 1), .rollback]).memory.rows.get 1 =
      none := by decide
  rw [hrow] at hagrees
  cases hagrees

end RustyCore.Player
