import RustyCore.Verification.Player.EquipmentTables

/-! # Equipment sets against their rows

When a container agrees with its tables, what one edit does to a set, and what the
acknowledgement of a saved set does after any number of edits. -/

namespace RustyCore.Player

open EquipmentSetUpdateState

variable {rows : StoredRows} {s : EquipmentSet} {saved : Option EquipmentSet}

/-! ## Consistency -/

def StateAgrees (equipmentSet : EquipmentSet) (row : Option StoredSet) : Prop :=
  match equipmentSet.state with
  | new => row = none
  | unchanged => row = some equipmentSet.stored
  | changed | deleted => row ≠ none

/-- A guid without a set has no row; one with a set has at most the row of that set. -/
def Agrees (equipmentSet : Option EquipmentSet) (rows : StoredRows) : Prop :=
  match equipmentSet with
  | none => ∀ setType, rows setType = none
  | some s => (∀ setType, setType ≠ s.setType → rows setType = none) ∧
      StateAgrees s (rows s.setType)

def Consistent (c : PlayerEquipmentSets) (t : EquipmentTables) : Prop :=
  ∀ guid, Agrees (c.set guid) (t.rows guid)

theorem Agrees.ready {equipmentSet : EquipmentSet} (h : Agrees (some equipmentSet) rows) :
    Ready equipmentSet rows := by
  have hstate := h.2
  cases hs : equipmentSet.state <;> simp only [StateAgrees, Ready, hs] at hstate ⊢ <;> exact hstate

/-! ## Edits -/

/-- The calls a client can make, with what they are made with. -/
inductive EquipmentEdit where
  | create (equipmentSet : EquipmentSet)
  | update (equipmentSet : EquipmentSet)
  | assign (setId : ℕ) (assignedSpecIndex : ℤ)
  | delete (guid : ℕ)

def EquipmentEdit.apply (c : PlayerEquipmentSets) : EquipmentEdit → PlayerEquipmentSets
  | create equipmentSet => c.createSet equipmentSet
  | update equipmentSet => (c.updateSet equipmentSet).1
  | assign setId assignedSpecIndex => (c.assignSetToSpec setId assignedSpecIndex).1
  | delete guid => (c.deleteSet guid).1

/-- What any number of edits does to the set of one guid. -/
inductive Edited : Option EquipmentSet → Option EquipmentSet → Prop
  | created {s : EquipmentSet} (hs : s.state = new) : Edited none (some s)
  | stillNew {old s : EquipmentSet} (hold : old.state = new) (hs : s.state = new)
      (htype : s.setType = old.setType) : Edited (some old) (some s)
  | erased {old : EquipmentSet} (hold : old.state = new) : Edited (some old) none
  | stored {old s : EquipmentSet} (hold : old.state ≠ new) (hs : s.state = changed ∨ s.state = deleted)
      (htype : s.setType = old.setType) : Edited (some old) (some s)

/-- Edits compose, as long as the guid of an erased set is not used again. -/
theorem Edited.trans {a b c : Option EquipmentSet} (hab : Edited a b) (hbc : Edited b c)
    (hfresh : b = none → a = none) : a = c ∨ Edited a c := by
  cases hab with
  | created hs =>
    cases hbc with
    | stillNew _ hs' _ => exact .inr (.created hs')
    | erased _ => exact .inl rfl
    | stored hold _ _ => exact absurd hs hold
  | stillNew hold hs htype =>
    cases hbc with
    | stillNew _ hs' htype' => exact .inr (.stillNew hold hs' (htype'.trans htype))
    | erased _ => exact .inr (.erased hold)
    | stored hold' _ _ => exact absurd hs hold'
  | erased hold => cases hfresh rfl
  | stored hold hs htype =>
    cases hbc with
    | stillNew hold' _ _ => rcases hs with hs | hs <;> cases hs.symm.trans hold'
    | erased hold' => rcases hs with hs | hs <;> cases hs.symm.trans hold'
    | stored _ hs' htype' => exact .inr (.stored hold hs' (htype'.trans htype))

theorem Agrees.edited {a b : Option EquipmentSet} (h : Agrees a rows) (hab : Edited a b) :
    Agrees b rows := by
  cases hab with
  | created hs =>
    refine ⟨fun setType _ => h setType, ?_⟩
    simp only [StateAgrees, hs]
    exact h _
  | stillNew hold hs htype =>
    refine ⟨?_, ?_⟩
    · rw [htype]
      exact h.1
    · have hrow := h.2
      simp only [StateAgrees, hold] at hrow
      simp only [StateAgrees, hs, htype]
      exact hrow
  | @erased old hold =>
    intro setType
    have hrow := h.2
    simp only [StateAgrees, hold] at hrow
    by_cases htype : setType = old.setType
    · rw [htype]
      exact hrow
    · exact h.1 setType htype
  | @stored old s hold hs htype =>
    refine ⟨?_, ?_⟩
    · rw [htype]
      exact h.1
    · have hrow : rows old.setType ≠ none := by
        have hrow := h.2
        cases hstate : old.state <;> simp only [StateAgrees, hstate] at hrow
        · rw [hrow]
          exact Option.some_ne_none _
        · exact hrow
        · exact absurd hstate hold
        · exact hrow
      rcases hs with hs | hs <;> simp only [StateAgrees, hs, htype] <;> exact hrow

/-- Only a new guid is used for a set that is created, and a set keeps its type. -/
def EquipmentEdit.Legal (c : PlayerEquipmentSets) (inFlight : Option PlayerEquipmentSets) :
    EquipmentEdit → Prop
  | create equipmentSet => c.set equipmentSet.guid = none ∧
      ∀ saved, inFlight = some saved → saved.set equipmentSet.guid = none
  | update equipmentSet =>
    ∀ old, c.set equipmentSet.guid = some old → equipmentSet.setType = old.setType
  | assign _ _ => True
  | delete _ => True

def Touched (inFlight : Option PlayerEquipmentSets) (guid : ℕ) (old next : Option EquipmentSet) :
    Prop :=
  old = next ∨ (Edited old next ∧
    (old = none → ∀ saved, inFlight = some saved → saved.set guid = none))

theorem edited_keeping_type {old : EquipmentSet} (htype : s.setType = old.setType)
    (hs : s.state = if old.state = new then new else changed) : Edited (some old) (some s) := by
  by_cases hold : old.state = new
  · rw [if_pos hold] at hs
    exact .stillNew hold hs htype
  · rw [if_neg hold] at hs
    exact .stored hold (.inl hs) htype

theorem setWithId_spec {c : PlayerEquipmentSets} {setId : ℕ} (h : c.setWithId setId = some s) :
    c.set s.guid = some s := by
  obtain ⟨guid, _, hset⟩ := Option.bind_eq_some_iff.mp h
  rw [c.sets.keyed guid s hset]
  exact hset

theorem apply_touched {c : PlayerEquipmentSets} {inFlight : Option PlayerEquipmentSets}
    {e : EquipmentEdit} (h : e.Legal c inFlight) (guid : ℕ) :
    Touched inFlight guid (c.set guid) ((e.apply c).set guid) := by
  cases e with
  | create s =>
    simp only [EquipmentEdit.apply, PlayerEquipmentSets.createSet, PlayerEquipmentSets.set,
      KeyedMap.get_insert]
    split
    · rename_i hguid
      subst hguid
      have hnone : c.sets.get s.guid = none := h.1
      rw [hnone]
      exact .inr ⟨.created rfl, fun _ => h.2⟩
    · exact .inl rfl
  | update s =>
    simp only [EquipmentEdit.apply, PlayerEquipmentSets.updateSet]
    cases hold : c.set s.guid with
    | none => exact .inl rfl
    | some old =>
      simp only [PlayerEquipmentSets.set, KeyedMap.get_insert]
      split
      · rename_i hguid
        subst hguid
        have hget : c.sets.get s.guid = some old := hold
        rw [hget]
        exact .inr ⟨edited_keeping_type (h old hold) rfl, fun hc => by cases hc⟩
      · exact .inl rfl
  | assign setId assignedSpecIndex =>
    simp only [EquipmentEdit.apply, PlayerEquipmentSets.assignSetToSpec]
    cases hold : c.setWithId setId with
    | none => exact .inl rfl
    | some old =>
      simp only [PlayerEquipmentSets.set, KeyedMap.get_insert]
      split
      · rename_i hguid
        subst hguid
        have hget : c.sets.get old.guid = some old := setWithId_spec hold
        rw [hget]
        exact .inr ⟨edited_keeping_type rfl rfl, fun hc => by cases hc⟩
      · exact .inl rfl
  | delete key =>
    simp only [EquipmentEdit.apply, PlayerEquipmentSets.deleteSet]
    cases hold : c.set key with
    | none => exact .inl rfl
    | some old =>
      have hkey : old.guid = key := c.sets.keyed key old hold
      by_cases hnew : old.state = new
      · simp only [hnew, if_true, PlayerEquipmentSets.set, KeyedMap.get_remove]
        split
        · rename_i hguid
          subst hguid
          have hget : c.sets.get guid = some old := hold
          rw [hget]
          exact .inr ⟨.erased hnew, fun hc => by cases hc⟩
        · exact .inl rfl
      · simp only [hnew, if_false, PlayerEquipmentSets.set, KeyedMap.get_insert]
        split
        · rename_i hguid
          have hget : c.sets.get guid = some old := by rw [hguid, hkey]; exact hold
          rw [hget]
          exact .inr ⟨.stored hnew (.inr rfl) rfl, fun hc => by cases hc⟩
        · exact .inl rfl

theorem loaded_apply (c : PlayerEquipmentSets) (e : EquipmentEdit) :
    (e.apply c).loaded = c.loaded := by
  cases e with
  | create s => rfl
  | update s =>
    simp only [EquipmentEdit.apply, PlayerEquipmentSets.updateSet]
    cases c.set s.guid <;> rfl
  | assign setId assignedSpecIndex =>
    simp only [EquipmentEdit.apply, PlayerEquipmentSets.assignSetToSpec]
    cases c.setWithId setId <;> rfl
  | delete guid =>
    simp only [EquipmentEdit.apply, PlayerEquipmentSets.deleteSet]
    cases c.set guid with
    | none => rfl
    | some old =>
      simp only
      split <;> rfl

/-! ## Acknowledgement -/

/-- The acknowledgement of one guid: what was saved against what there is now. -/
def acknowledged : Option EquipmentSet → Option EquipmentSet → Option EquipmentSet
  | none, current => current
  | some row, none => if row.state = deleted then none else some { row with state := deleted }
  | some row, some current =>
    if current = row then
      if row.state = deleted then none else some { current with state := unchanged }
    else
      some { current with
        state := PlayerEquipmentSets.acknowledgedState row.state current.state }

open PlayerEquipmentSets

theorem get_acknowledgeSavedSet (sets : EquipmentSetMap) (row : EquipmentSet) (guid : ℕ) :
    (acknowledgeSavedSet sets row).get guid =
      if guid = row.guid then acknowledged (some row) (sets.get row.guid) else sets.get guid := by
  by_cases hguid : guid = row.guid
  · subst hguid
    rw [if_pos rfl]
    simp only [acknowledgeSavedSet, acknowledged]
    cases hget : sets.get row.guid with
    | none =>
      simp only
      split
      · exact hget
      · rw [KeyedMap.get_insert, if_pos rfl]
    | some current =>
      have hcurrent : row.guid = current.guid := (KeyedMap.key_of_get hget).symm
      simp only
      split
      · split
        · rw [KeyedMap.get_remove, if_pos rfl]
        · rw [KeyedMap.get_insert, if_pos hcurrent]
      · rw [KeyedMap.get_insert, if_pos hcurrent]
  · rw [if_neg hguid]
    simp only [acknowledgeSavedSet]
    cases hget : sets.get row.guid with
    | none =>
      simp only
      split
      · rfl
      · rw [KeyedMap.get_insert, if_neg hguid]
    | some current =>
      have hcurrent : guid ≠ current.guid := by
        rw [KeyedMap.key_of_get hget]
        exact hguid
      simp only
      split
      · split
        · rw [KeyedMap.get_remove, if_neg hguid]
        · rw [KeyedMap.get_insert, if_neg hcurrent]
      · rw [KeyedMap.get_insert, if_neg hcurrent]

theorem set_acknowledgeSavedSets (c : PlayerEquipmentSets) (saved : EquipmentSetMap) (guid : ℕ) :
    (c.acknowledgeSavedSets saved).set guid = acknowledged (saved.get guid) (c.set guid) :=
  KeyedMap.get_foldl_values get_acknowledgeSavedSet (fun _ => rfl) saved c.sets guid

/-! ## A committed save -/

/-- An `UPDATE` of the set finds its row. -/
def RowFound (saved : Option EquipmentSet) (rows : StoredRows) : Prop :=
  ∀ s row, saved = some s → s.state = changed → rows s.setType = some row →
    row.setIndex = s.setId

/-- The set was deleted when the save was captured, and was edited and deleted again since. -/
def DeletedAgain (saved current : Option EquipmentSet) : Prop :=
  ∃ s s', saved = some s ∧ current = some s' ∧ s.state = deleted ∧ s'.state = deleted ∧ s' ≠ s

theorem writtenRow_of_agrees (h : Agrees (some s) rows) (hfound : RowFound (some s) rows) :
    writtenRow s (rows s.setType) = if s.state = deleted then none else some s.stored := by
  have hrow := h.2
  cases hs : s.state with
  | unchanged =>
    simp only [StateAgrees, hs] at hrow
    simp only [writtenRow, hs, hrow]
    rfl
  | changed =>
    simp only [StateAgrees, hs] at hrow
    obtain ⟨row, hrow⟩ := Option.ne_none_iff_exists'.mp hrow
    have hindex := hfound s row rfl hs hrow
    simp only [writtenRow, hs, hrow, Option.map_some, hindex, if_true]
    rfl
  | new =>
    simp only [writtenRow, hs]
    rfl
  | deleted =>
    simp only [writtenRow, hs, if_true]

theorem agrees_written_iff (h : Agrees (some s) rows) (hfound : RowFound (some s) rows)
    (s' : EquipmentSet) (htype : s'.setType = s.setType) :
    Agrees (some s') (written s rows) ↔
      StateAgrees s' (if s.state = deleted then none else some s.stored) := by
  have hown : written s rows s'.setType = if s.state = deleted then none else some s.stored := by
    rw [htype, written, Function.update_self, writtenRow_of_agrees h hfound]
  have hother : ∀ setType, setType ≠ s'.setType → written s rows setType = none := by
    intro setType hne
    rw [htype] at hne
    rw [written, Function.update_of_ne hne]
    exact h.1 setType hne
  constructor
  · intro hagrees
    rw [← hown]
    exact hagrees.2
  · intro hstate
    rw [← hown] at hstate
    exact ⟨hother, hstate⟩

theorem agrees_settled (h : Agrees (some s) rows) (hfound : RowFound (some s) rows) :
    Agrees (if s.state = deleted then none else some { s with state := unchanged })
      (written s rows) := by
  by_cases hs : s.state = deleted
  · rw [if_pos hs]
    intro setType
    by_cases htype : setType = s.setType
    · rw [htype, written, Function.update_self, writtenRow_of_agrees h hfound, if_pos hs]
    · rw [written, Function.update_of_ne htype]
      exact h.1 setType htype
  · rw [if_neg hs, agrees_written_iff h hfound { s with state := unchanged } rfl, if_neg hs]
    rfl

/-- After the commit, the set agrees with its row unless it was deleted again meanwhile. -/
theorem agrees_acknowledged_iff {current : Option EquipmentSet} (hagrees : Agrees saved rows)
    (hdrift : saved = current ∨ Edited saved current) (hfound : RowFound saved rows) :
    Agrees (acknowledged saved current) (writtenAt saved rows) ↔ ¬ DeletedAgain saved current := by
  cases saved with
  | none =>
    have hcurrent : Agrees current rows := by
      rcases hdrift with rfl | hdrift
      · exact hagrees
      · exact hagrees.edited hdrift
    refine iff_of_true hcurrent ?_
    rintro ⟨s, s', hs, _⟩
    cases hs
  | some s =>
    cases current with
    | none =>
      have hnew : s.state = new := by
        rcases hdrift with hdrift | hdrift
        · cases hdrift
        · cases hdrift with
          | erased hold => exact hold
      simp only [acknowledged, writtenAt, hnew, reduceCtorEq, if_false]
      rw [agrees_written_iff hagrees hfound { s with state := deleted } rfl]
      simp [StateAgrees, hnew, DeletedAgain]
    | some s' =>
      by_cases hsame : s' = s
      · subst hsame
        refine iff_of_true ?_ ?_
        · have h := agrees_settled hagrees hfound
          simp only [acknowledged, writtenAt, if_true]
          exact h
        · rintro ⟨s, t, hs, ht, _, _, hne⟩
          cases hs
          cases ht
          exact hne rfl
      · have hedited : Edited (some s) (some s') := by
          rcases hdrift with hdrift | hdrift
          · exact absurd (Option.some.inj hdrift).symm hsame
          · exact hdrift
        have htype : s'.setType = s.setType := by
          cases hedited <;> assumption
        have hagain : DeletedAgain (some s) (some s') ↔
            s.state = deleted ∧ s'.state = deleted := by
          simp [DeletedAgain, hsame]
        simp only [acknowledged, writtenAt, if_neg hsame]
        rw [agrees_written_iff hagrees hfound
          { s' with state := acknowledgedState s.state s'.state } htype, hagain]
        cases hedited with
        | stillNew hold hs _ =>
          simp [StateAgrees, acknowledgedState, hold, hs]
        | stored hold hs _ =>
          cases hstate : s.state with
          | new => exact absurd hstate hold
          | unchanged => rcases hs with hs | hs <;> simp [StateAgrees, acknowledgedState, hs]
          | changed => rcases hs with hs | hs <;> simp [StateAgrees, acknowledgedState, hs]
          | deleted => rcases hs with hs | hs <;> simp [StateAgrees, acknowledgedState, hs]

/-! ## What a save leaves -/

/-- The rows that hold a set, when it is not deleted. -/
def heldRows (equipmentSet : Option EquipmentSet) : StoredRows :=
  match equipmentSet with
  | none => fun _ => none
  | some s => fun setType =>
    if s.state ≠ deleted ∧ setType = s.setType then some s.stored else none

/-- The save leaves exactly the rows of the sets that are not deleted, when its `UPDATE`s find
their rows. -/
theorem writtenAt_eq_heldRows (h : Agrees saved rows) (hfound : RowFound saved rows) :
    writtenAt saved rows = heldRows saved := by
  funext setType
  cases saved with
  | none => exact h setType
  | some s =>
    simp only [writtenAt, heldRows]
    by_cases htype : setType = s.setType
    · subst htype
      rw [written, Function.update_self, writtenRow_of_agrees h hfound]
      by_cases hs : s.state = deleted <;> simp [hs]
    · rw [written, Function.update_of_ne htype, h.1 setType htype, if_neg (fun hc => htype hc.2)]

theorem rowFound_of_writtenAt (h : writtenAt saved rows = heldRows saved) :
    RowFound saved rows := by
  rintro s row rfl hs hrow
  have hown := congrFun h s.setType
  simp only [writtenAt, written, Function.update_self, writtenRow, heldRows, hs, hrow,
    Option.map_some, reduceCtorEq, ne_eq, not_false_eq_true, true_and, if_true,
    Option.some.injEq] at hown
  by_contra hne
  rw [if_neg hne] at hown
  rw [hown, EquipmentSet.setIndex_stored] at hne
  exact hne rfl

end RustyCore.Player
