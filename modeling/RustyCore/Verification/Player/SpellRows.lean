import RustyCore.Model.Player.SpellRuntime

/-! # Spell rows against `character_spell`

When rows agree with the table, and why the planner keeps them so: a row that it takes out
is put back as a changed one, and a row it makes dirty stays new only if it was. -/

namespace RustyCore.Player

open SpellLoadState

variable {r : KnownSpellRecord} {stored : Option StoredSpell}

/-- A row of `character_spell`: the spell is active, and disabled. -/
abbrev StoredSpell := Bool × Bool

/-- What a row of the runtime says about the row of the table. -/
def SpellAgrees (row : Option KnownSpellRecord) (stored : Option StoredSpell) : Prop :=
  match row with
  | none => stored = none
  | some r =>
    match r.state with
    | new | temporary => stored = none
    | unchanged => stored = if r.dependent then none else some (r.active, r.disabled)
    | changed | removed => True

theorem SpellAgrees.of_changed (h : r.state = changed) : SpellAgrees (some r) stored := by
  simp only [SpellAgrees, h]

theorem SpellAgrees.of_removed (h : r.state = removed) : SpellAgrees (some r) stored := by
  simp only [SpellAgrees, h]

theorem agrees_new_iff (h : r.state = new) : SpellAgrees (some r) stored ↔ stored = none := by
  simp only [SpellAgrees, h]

theorem SpellAgrees.dirtied {r' : KnownSpellRecord} (h : SpellAgrees (some r) stored)
    (hstate : r'.state = r.dirtied) : SpellAgrees (some r') stored := by
  by_cases hnew : r.state = new
  · rw [KnownSpellRecord.dirtied, if_pos hnew] at hstate
    exact (agrees_new_iff hstate).mpr ((agrees_new_iff hnew).mp h)
  · rw [KnownSpellRecord.dirtied, if_neg hnew] at hstate
    exact .of_changed hstate

theorem dirtied_ne_temporary (r : KnownSpellRecord) : r.dirtied ≠ temporary := by
  rw [KnownSpellRecord.dirtied]
  split <;> decide

theorem SpellAgrees.promoted (h : SpellAgrees (some r) stored) (call : AddSpellCall) :
    SpellAgrees (some (promoted r call)) stored := by
  rw [Player.promoted]
  split
  · exact h.dirtied rfl
  · exact h

theorem promoted_ne_temporary (h : r.state ≠ temporary) (call : AddSpellCall) :
    (promoted r call).state ≠ temporary := by
  rw [promoted]
  split
  · exact dirtied_ne_temporary r
  · exact h

theorem spellId_promoted (r : KnownSpellRecord) (call : AddSpellCall) :
    (promoted r call).spellId = r.spellId := by
  rw [promoted]
  split <;> rfl

/-! ## The planner -/

section Planner

variable {stored : ℤ → Option StoredSpell} {start : SpellRows} {pending : ℤ → Prop}
variable {rows : SpellRows}

/-- The rows agree with the table, except those of the spells that are just being added, and
no row has become a temporary one since the start. -/
structure RowsKept (stored : ℤ → Option StoredSpell) (start : SpellRows) (pending : ℤ → Prop)
    (rows : SpellRows) : Prop where
  agrees : ∀ spellId, ¬ pending spellId → SpellAgrees (rows.get spellId) (stored spellId)
  noneTemporary : ∀ spellId row, rows.get spellId = some row → row.state = temporary →
    ∃ row', start.get spellId = some row' ∧ row'.state = temporary

def Adding (pending : ℤ → Prop) (spellId : ℤ) : ℤ → Prop :=
  fun other => pending other ∨ other = spellId

theorem RowsKept.insert (h : RowsKept stored start pending rows) {row : KnownSpellRecord}
    (hagrees : ¬ pending row.spellId → SpellAgrees (some row) (stored row.spellId))
    (htemporary : row.state ≠ temporary) : RowsKept stored start pending (rows.insert row) := by
  refine ⟨?_, ?_⟩
  · intro spellId hpending
    rw [KeyedMap.get_insert]
    split
    · rename_i hid
      subst hid
      exact hagrees hpending
    · exact h.agrees spellId hpending
  · intro spellId row' hget hstate
    rw [KeyedMap.get_insert] at hget
    split at hget
    · cases hget
      exact absurd hstate htemporary
    · exact h.noneTemporary spellId row' hget hstate

theorem RowsKept.remove (h : RowsKept stored start pending rows) (spellId : ℤ) :
    RowsKept stored start (Adding pending spellId) (rows.remove spellId) := by
  refine ⟨?_, ?_⟩
  · intro other hpending
    rw [KeyedMap.get_remove, if_neg fun hid => hpending (.inr hid)]
    exact h.agrees other fun hother => hpending (.inl hother)
  · intro other row hget hstate
    rw [KeyedMap.get_remove] at hget
    split at hget
    · cases hget
    · exact h.noneTemporary other row hget hstate

theorem RowsKept.adding (h : RowsKept stored start pending rows) (spellId : ℤ) :
    RowsKept stored start (Adding pending spellId) rows :=
  ⟨fun other hpending => h.agrees other fun hother => hpending (.inl hother), h.noneTemporary⟩

theorem RowsKept.edit (h : RowsKept stored start pending rows) {spellId : ℤ}
    {row : KnownSpellRecord} (hget : rows.get spellId = some row) (row' : KnownSpellRecord)
    (hid : row'.spellId = row.spellId)
    (hagrees : ∀ s, SpellAgrees (some row) s → SpellAgrees (some row') s)
    (htemporary : row'.state ≠ temporary) : RowsKept stored start pending (rows.insert row') := by
  have hkey : row.spellId = spellId := KeyedMap.key_of_get hget
  refine h.insert (fun hpending => hagrees _ ?_) htemporary
  rw [hid, hkey] at hpending ⊢
  have hrow := h.agrees spellId hpending
  rw [hget] at hrow
  exact hrow

/-- What holds after `add_spell` has looked at the row that exists. -/
def ExistingKept (stored : ℤ → Option StoredSpell) (start : SpellRows) (pending : ℤ → Prop)
    (spellId : ℤ) : ExistingSpell → Prop
  | .returned rows => RowsKept stored start pending rows
  | .activated rows => RowsKept stored start pending rows
  | .enabled rows => RowsKept stored start pending rows
  | .absent rows state _ => RowsKept stored start (Adding pending spellId) rows ∧
      (state = changed ∨ (state = new ∧ (¬ pending spellId → stored spellId = none)))

theorem existingSpell_kept (chain : ℤ → Option SpellChainNode)
    (h : RowsKept stored start pending rows) (call : AddSpellCall) :
    ExistingKept stored start pending call.spellId (existingSpell chain rows call) := by
  cases hget : rows.get call.spellId with
  | none =>
    simp only [existingSpell, hget]
    refine ⟨h.adding _, .inr ⟨rfl, fun hpending => ?_⟩⟩
    have hagrees := h.agrees _ hpending
    rw [hget] at hagrees
    exact hagrees
  | some existing =>
    simp only [existingSpell, hget]
    by_cases htemporary : existing.state = temporary
    · rw [if_pos htemporary]
      refine ⟨h.remove _, .inr ⟨rfl, fun hpending => ?_⟩⟩
      have hagrees := h.agrees _ hpending
      rw [hget] at hagrees
      simpa only [SpellAgrees, htemporary] using hagrees
    · rw [if_neg htemporary]
      have hpromoted := spellId_promoted existing call
      have hdirty : ∀ row' : KnownSpellRecord, row'.spellId = (promoted existing call).spellId →
          row'.state = (promoted existing call).dirtied →
          RowsKept stored start pending (rows.insert row') := by
        intro row' hid hstate
        refine h.edit hget row' (hid.trans hpromoted) ?_ ?_
        · exact fun s hs => (hs.promoted call).dirtied hstate
        · rw [hstate]
          exact dirtied_ne_temporary _
      split
      · exact h
      · split
        · split
          · exact hdirty _ rfl rfl
          · exact hdirty _ rfl rfl
        · split
          · split
            · exact hdirty _ rfl rfl
            · exact hdirty _ rfl rfl
          · split
            · exact ⟨h.remove _, .inl rfl⟩
            · exact h.edit hget _ hpromoted (fun s hs => hs.promoted call)
                (promoted_ne_temporary htemporary call)

theorem supersede_kept (chain : ℤ → Option SpellChainNode) (current : SpellChainNode)
    (spellId : ℤ) (h : RowsKept stored start pending rows) (candidateId : ℤ) :
    RowsKept stored start pending (supersede chain current spellId rows candidateId) := by
  have hdirty : ∀ {id : ℤ} {row : KnownSpellRecord}, rows.get id = some row →
      RowsKept stored start pending
        (rows.insert { row with active := false, state := row.dirtied }) := by
    intro id row hget
    exact h.edit hget _ rfl (fun s hs => hs.dirtied rfl) (dirtied_ne_temporary row)
  rw [supersede]
  split
  · exact h
  · split
    · exact h
    · split
      · exact h
      · split
        · exact h
        · split
          · exact h
          · split
            · exact hdirty ‹_›
            · split
              · exact h
              · exact hdirty ‹_›

theorem supersedeRanks_kept (chain : ℤ → Option SpellChainNode)
    (h : RowsKept stored start pending rows) (call : AddSpellCall) (active : Bool) :
    RowsKept stored start pending (supersedeRanks chain rows call active) := by
  rw [supersedeRanks]
  split
  · rename_i current hcurrent
    split
    · generalize rows.keys.insertionSort (· ≤ ·) = candidates
      induction candidates generalizing rows with
      | nil => exact h
      | cons candidate candidates ih =>
        exact ih (supersede_kept chain current call.spellId h candidate)
    · exact h
  · exact h

theorem insertSpell_kept {call : AddSpellCall} {state : SpellLoadState}
    (h : RowsKept stored start (Adding pending call.spellId) rows) (active : Bool)
    (hstate : state = changed ∨
      (state = new ∧ (¬ pending call.spellId → stored call.spellId = none))) :
    RowsKept stored start pending (insertSpell rows call state active) := by
  -- the other spells first, then the row of the call itself
  have hothers : ∀ spellId, spellId ≠ call.spellId → ¬ pending spellId →
      SpellAgrees (rows.get spellId) (stored spellId) := by
    intro spellId hne hpending
    refine h.agrees spellId ?_
    rintro (hp | hid)
    · exact hpending hp
    · exact hne hid
  have hown : ∀ row : KnownSpellRecord,
      row.state = (if rows.get call.spellId = none then state else changed) →
      (¬ pending call.spellId → SpellAgrees (some row) (stored call.spellId)) ∧
        row.state ≠ temporary := by
    intro row hrow
    by_cases hget : rows.get call.spellId = none
    · rw [if_pos hget] at hrow
      rcases hstate with hchanged | ⟨hnew, hnone⟩
      · exact ⟨fun _ => .of_changed (hrow.trans hchanged), by rw [hrow, hchanged]; decide⟩
      · refine ⟨fun hpending => (agrees_new_iff (hrow.trans hnew)).mpr (hnone hpending), ?_⟩
        rw [hrow, hnew]
        decide
    · rw [if_neg hget] at hrow
      exact ⟨fun _ => .of_changed hrow, by rw [hrow]; decide⟩
  rw [insertSpell]
  refine ⟨?_, ?_⟩
  · intro spellId hpending
    by_cases hid : spellId = call.spellId
    · subst hid
      rw [KeyedMap.get_insert, if_pos rfl]
      exact (hown _ rfl).1 hpending
    · rw [KeyedMap.get_insert, if_neg hid]
      exact hothers spellId hid hpending
  · intro spellId row hget htemporary
    by_cases hid : spellId = call.spellId
    · rw [KeyedMap.get_insert, if_pos hid] at hget
      cases hget
      exact absurd htemporary (hown _ rfl).2
    · rw [KeyedMap.get_insert, if_neg hid] at hget
      exact h.noneTemporary spellId row hget htemporary

theorem addSpell_kept (chain : ℤ → Option SpellChainNode)
    {previous following : SpellRows → SpellRows}
    (hprevious : ∀ pending rows, RowsKept stored start pending rows →
      RowsKept stored start pending (previous rows))
    (hfollowing : ∀ pending rows, RowsKept stored start pending rows →
      RowsKept stored start pending (following rows))
    (h : RowsKept stored start pending rows) (call : AddSpellCall) :
    RowsKept stored start pending (addSpell chain previous following rows call) := by
  have hexisting := existingSpell_kept chain h call
  rw [addSpell]
  cases hcase : existingSpell chain rows call with
  | returned rows' =>
    rw [hcase] at hexisting
    exact hexisting
  | activated rows' =>
    rw [hcase] at hexisting
    exact hfollowing pending rows' hexisting
  | enabled rows' =>
    rw [hcase] at hexisting
    exact hfollowing pending rows' hexisting
  | absent rows' state active =>
    rw [hcase] at hexisting
    have hinserted := insertSpell_kept (hprevious _ _ hexisting.1) active hexisting.2
    have hranked := supersedeRanks_kept chain hinserted call active
    simp only
    split
    · exact hranked
    · exact hfollowing pending _ hranked

mutual

/-- A tree of calls keeps the rows: by induction on the tree. -/
theorem run_kept (chain : ℤ → Option SpellChainNode) (call : SpellCall) (pending : ℤ → Prop)
    (rows : SpellRows) (h : RowsKept stored start pending rows) :
    RowsKept stored start pending (call.run chain rows) := by
  cases call with
  | add args previous following =>
    rw [SpellCall.run]
    exact addSpell_kept chain (runAll_kept chain previous) (runAll_kept chain following) h args
  | learn spellId dependent previous following higher =>
    rw [SpellCall.run]
    have hlearned := addSpell_kept chain (runAll_kept chain previous)
      (runAll_kept chain following) h (learnSpellCall rows spellId dependent)
    split
    · exact runAll_kept chain higher pending _ hlearned
    · exact hlearned

theorem runAll_kept (chain : ℤ → Option SpellChainNode) (calls : List SpellCall)
    (pending : ℤ → Prop) (rows : SpellRows) (h : RowsKept stored start pending rows) :
    RowsKept stored start pending (SpellCall.runAll chain calls rows) := by
  cases calls with
  | nil =>
    rw [SpellCall.runAll]
    exact h
  | cons call rest =>
    rw [SpellCall.runAll]
    exact runAll_kept chain rest pending _ (run_kept chain call pending rows h)

end

end Planner

end RustyCore.Player
