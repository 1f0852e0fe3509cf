import RustyCore.Model.Player.EquipmentSets

/-! # Equipment-set saves on the tables

What one set of a save does to the two tables, and from it what the whole transaction does. -/

namespace RustyCore.Player

/-- A row of either table. -/
inductive StoredSet where
  | equipment (columns : EquipmentSetColumns)
  | transmog (columns : TransmogOutfitColumns)
deriving DecidableEq

def StoredSet.setIndex : StoredSet → ℕ
  | .equipment columns => columns.setIndex
  | .transmog columns => columns.setIndex

/-- The row that holds a set of this type. -/
def storedAs (equipmentSet : EquipmentSet) : EquipmentSetType → StoredSet
  | .equipment => .equipment equipmentSet.toSave.equipmentColumns
  | .transmog => .transmog equipmentSet.toSave.outfitColumns

/-- The row that holds the set. -/
def EquipmentSet.stored (equipmentSet : EquipmentSet) : StoredSet :=
  storedAs equipmentSet equipmentSet.setType

theorem EquipmentSet.setIndex_stored (equipmentSet : EquipmentSet) :
    equipmentSet.stored.setIndex = equipmentSet.setId := by
  cases h : equipmentSet.setType <;> simp only [stored, storedAs, h] <;> rfl

/-- The rows of one guid: the one in the table of each type. -/
abbrev StoredRows := EquipmentSetType → Option StoredSet

def EquipmentTables.rows (t : EquipmentTables) (guid : ℕ) : StoredRows
  | .equipment => (t.equipmentSets.lookup guid).map StoredSet.equipment
  | .transmog => (t.transmogOutfits.lookup guid).map StoredSet.transmog

/-- An `INSERT` is of a missing guid, an `UPDATE` or a `DELETE` of an existing one. -/
def EquipmentTables.Fits (t : EquipmentTables) : EquipmentSaveStep → Prop
  | .insertEquipmentSet row => t.rows row.setGuid .equipment = none
  | .updateEquipmentSet row => t.rows row.setGuid .equipment ≠ none
  | .deleteEquipmentSet setGuid => t.rows setGuid .equipment ≠ none
  | .insertTransmogOutfit row => t.rows row.setGuid .transmog = none
  | .updateTransmogOutfit row => t.rows row.setGuid .transmog ≠ none
  | .deleteTransmogOutfit setGuid => t.rows setGuid .transmog ≠ none

/-! ## One statement -/

namespace EquipmentSaveStep

def setGuid : EquipmentSaveStep → ℕ
  | insertEquipmentSet row | updateEquipmentSet row => row.setGuid
  | insertTransmogOutfit row | updateTransmogOutfit row => row.setGuid
  | deleteEquipmentSet guid | deleteTransmogOutfit guid => guid

def setType : EquipmentSaveStep → EquipmentSetType
  | insertEquipmentSet _ | updateEquipmentSet _ | deleteEquipmentSet _ => .equipment
  | insertTransmogOutfit _ | updateTransmogOutfit _ | deleteTransmogOutfit _ => .transmog

/-- The row the statement leaves where there was `stored`. -/
def writes (stored : Option StoredSet) : EquipmentSaveStep → Option StoredSet
  | insertEquipmentSet row => some (.equipment row.equipmentColumns)
  | insertTransmogOutfit row => some (.transmog row.outfitColumns)
  | updateEquipmentSet row => stored.map fun old =>
    if old.setIndex = row.setId then .equipment row.equipmentColumns else old
  | updateTransmogOutfit row => stored.map fun old =>
    if old.setIndex = row.setId then .transmog row.outfitColumns else old
  | deleteEquipmentSet _ | deleteTransmogOutfit _ => none

end EquipmentSaveStep

section Tables

variable {γ : Type} (wrap : γ → StoredSet) (table : Dict ℕ γ) (guid guid' : ℕ) (columns : γ)

theorem map_lookup_insert :
    ((AList.insert guid columns table).lookup guid').map wrap =
      if guid' = guid then some (wrap columns) else (table.lookup guid').map wrap := by
  rw [Dict.lookup_insert_eq]
  split <;> rfl

theorem map_lookup_erase :
    ((AList.erase guid table).lookup guid').map wrap =
      if guid' = guid then none else (table.lookup guid').map wrap := by
  rw [Dict.lookup_erase_eq]
  split <;> rfl

theorem map_lookup_updateRow (index : γ → ℕ) (hindex : ∀ c, (wrap c).setIndex = index c)
    (setId : ℕ) :
    ((table.updateRow guid (fun stored => index stored = setId) columns).lookup guid').map wrap =
      if guid' = guid then ((table.lookup guid').map wrap).map fun old =>
        if old.setIndex = setId then wrap columns else old
      else (table.lookup guid').map wrap := by
  rw [Dict.lookup_updateRow]
  by_cases hguid : guid' = guid
  · subst hguid
    rw [if_pos rfl, if_pos rfl, Option.map_map, Option.map_map]
    congr 1
    funext stored
    by_cases hid : index stored = setId <;> simp [hindex, hid]
  · rw [if_neg hguid, if_neg hguid]

end Tables

theorem execute_spec {t : EquipmentTables} {step : EquipmentSaveStep} (h : t.Fits step) :
    ∃ t', t.execute step = some t' ∧ ∀ guid setType, t'.rows guid setType =
      if guid = step.setGuid ∧ setType = step.setType then step.writes (t.rows guid setType)
      else t.rows guid setType := by
  cases step with
  | insertEquipmentSet row =>
    have hnone : t.equipmentSets.lookup row.setGuid = none := Option.map_eq_none_iff.mp h
    refine ⟨_, by rw [EquipmentTables.execute, Dict.insertRow_of_lookup_eq_none hnone]; rfl, ?_⟩
    rintro guid (_ | _) <;> simp [EquipmentTables.rows, map_lookup_insert,
      EquipmentSaveStep.setGuid, EquipmentSaveStep.setType, EquipmentSaveStep.writes]
  | insertTransmogOutfit row =>
    have hnone : t.transmogOutfits.lookup row.setGuid = none := Option.map_eq_none_iff.mp h
    refine ⟨_, by rw [EquipmentTables.execute, Dict.insertRow_of_lookup_eq_none hnone]; rfl, ?_⟩
    rintro guid (_ | _) <;> simp [EquipmentTables.rows, map_lookup_insert,
      EquipmentSaveStep.setGuid, EquipmentSaveStep.setType, EquipmentSaveStep.writes]
  | updateEquipmentSet row =>
    refine ⟨_, rfl, ?_⟩
    rintro guid (_ | _) <;> simp only [EquipmentTables.rows, map_lookup_updateRow
      StoredSet.equipment _ _ _ _ EquipmentSetColumns.setIndex (fun _ => rfl),
      EquipmentSaveStep.setGuid, EquipmentSaveStep.setType, EquipmentSaveStep.writes] <;> simp
  | updateTransmogOutfit row =>
    refine ⟨_, rfl, ?_⟩
    rintro guid (_ | _) <;> simp only [EquipmentTables.rows, map_lookup_updateRow
      StoredSet.transmog _ _ _ _ TransmogOutfitColumns.setIndex (fun _ => rfl),
      EquipmentSaveStep.setGuid, EquipmentSaveStep.setType, EquipmentSaveStep.writes] <;> simp
  | deleteEquipmentSet guid =>
    refine ⟨_, rfl, ?_⟩
    rintro guid' (_ | _) <;> simp [EquipmentTables.rows, map_lookup_erase,
      EquipmentSaveStep.setGuid, EquipmentSaveStep.setType, EquipmentSaveStep.writes]
  | deleteTransmogOutfit guid =>
    refine ⟨_, rfl, ?_⟩
    rintro guid' (_ | _) <;> simp [EquipmentTables.rows, map_lookup_erase,
      EquipmentSaveStep.setGuid, EquipmentSaveStep.setType, EquipmentSaveStep.writes]

/-! ## One set -/

def saveBlock (equipmentSet : EquipmentSet) : List EquipmentSaveStep :=
  (equipmentSaveStep equipmentSet.toSave).toList

/-- The row in the set's table is as its state needs it. -/
def Ready (equipmentSet : EquipmentSet) (rows : StoredRows) : Prop :=
  match equipmentSet.state with
  | .new => rows equipmentSet.setType = none
  | .unchanged => True
  | .changed | .deleted => rows equipmentSet.setType ≠ none

/-- The row in the set's table after the save. -/
def writtenRow (equipmentSet : EquipmentSet) (row : Option StoredSet) : Option StoredSet :=
  match equipmentSet.state with
  | .new => some equipmentSet.stored
  | .unchanged => row
  | .changed => row.map fun stored =>
    if stored.setIndex = equipmentSet.setId then equipmentSet.stored else stored
  | .deleted => none

/-- The rows of the set's guid after the save. -/
def written (equipmentSet : EquipmentSet) (rows : StoredRows) : StoredRows :=
  Function.update rows equipmentSet.setType (writtenRow equipmentSet (rows equipmentSet.setType))

theorem saveStep_spec (equipmentSet : EquipmentSet) :
    (equipmentSet.state = .unchanged ∧ saveBlock equipmentSet = []) ∨
    ∃ step, saveBlock equipmentSet = [step] ∧ step.setGuid = equipmentSet.guid ∧
      step.setType = equipmentSet.setType ∧
      (∀ row, step.writes row = writtenRow equipmentSet row) ∧
      ∀ t : EquipmentTables, Ready equipmentSet (t.rows equipmentSet.guid) → t.Fits step := by
  cases hstate : equipmentSet.state
  case unchanged =>
    left
    simp [saveBlock, equipmentSaveStep, EquipmentSet.toSave, hstate]
  all_goals
    right
    cases htype : equipmentSet.setType
  all_goals
    refine ⟨_, by simp only [saveBlock, equipmentSaveStep, EquipmentSet.toSave, hstate, htype]; rfl,
      rfl, rfl, ?_, ?_⟩
    · intro row
      simp only [EquipmentSaveStep.writes, writtenRow, hstate, EquipmentSet.stored, storedAs,
        htype] <;> rfl
    · intro t h
      simp only [Ready, hstate, htype] at h
      exact h

theorem block_spec (t : EquipmentTables) (equipmentSet : EquipmentSet)
    (h : Ready equipmentSet (t.rows equipmentSet.guid)) :
    ∃ t', RowSpec EquipmentTables.rows EquipmentTables.execute EquipmentTables.Fits t
      (saveBlock equipmentSet) equipmentSet.guid
      (written equipmentSet (t.rows equipmentSet.guid)) t' := by
  rcases saveStep_spec equipmentSet with
    ⟨hstate, hblock⟩ | ⟨step, hblock, hguid, htype, hwrites, hfits⟩
  · refine ⟨t, ?_, ?_, ?_, fun _ _ => rfl⟩
    · rw [hblock]
      trivial
    · rw [hblock]
      rfl
    · simp only [written, writtenRow, hstate, Function.update_eq_self]
  · obtain ⟨t', hexecute, hrows⟩ := execute_spec (hfits t h)
    refine ⟨t', ?_, ?_, ?_, ?_⟩
    · rw [hblock]
      exact ⟨hfits t h, t', hexecute, trivial⟩
    · rw [hblock, transaction_cons, hexecute]
      rfl
    · funext setType
      rw [hrows, hguid, htype, written, Function.update_apply]
      by_cases hsame : setType = equipmentSet.setType
      · rw [if_pos ⟨rfl, hsame⟩, if_pos hsame, hwrites, hsame]
      · rw [if_neg (fun hc => hsame hc.2), if_neg hsame]
    · intro guid hne
      funext setType
      rw [hrows, if_neg]
      exact fun hc => hne (hc.1.trans hguid)

/-! ## The whole save -/

/-- The rows of a guid after the save of the set that is kept under it. -/
def writtenAt (saved : Option EquipmentSet) (rows : StoredRows) : StoredRows :=
  match saved with
  | none => rows
  | some equipmentSet => written equipmentSet rows

theorem equipmentSavePlan_eq {c : PlayerEquipmentSets} (hloaded : c.loaded = true) :
    equipmentSavePlan c.saveRequest = c.sets.values.flatMap saveBlock := by
  simp only [equipmentSavePlan, PlayerEquipmentSets.saveRequest, hloaded, if_true, Option.getD_some,
    List.flatMap_map]
  rfl

/-- A save of sets that are all ready succeeds, every statement of it fits, and each guid is
written by its own set alone. -/
theorem save_spec {c : PlayerEquipmentSets} {t : EquipmentTables} (hloaded : c.loaded = true)
    (hready : ∀ guid equipmentSet, c.set guid = some equipmentSet →
      Ready equipmentSet (t.rows guid)) :
    AllFit EquipmentTables.execute EquipmentTables.Fits t (equipmentSavePlan c.saveRequest) ∧
    ∃ t', c.save t = some t' ∧ ∀ guid, t'.rows guid = writtenAt (c.set guid) (t.rows guid) := by
  have hvalues : ∀ equipmentSet ∈ c.sets.values,
      Ready equipmentSet (t.rows equipmentSet.guid) := by
    intro equipmentSet hmem
    exact hready _ _ (KeyedMap.mem_values.mp hmem)
  obtain ⟨t', h⟩ := transaction_blocks block_spec c.sets.nodup_keys t hvalues
  rw [PlayerEquipmentSets.save, equipmentSavePlan_eq hloaded]
  refine ⟨h.allFit, t', h.commits, ?_⟩
  intro guid
  cases hset : c.set guid with
  | none =>
    refine h.others guid fun hmem => ?_
    exact KeyedMap.mem_map_key_values.mp hmem hset
  | some equipmentSet =>
    have hguid : equipmentSet.guid = guid := KeyedMap.key_of_get hset
    subst hguid
    exact h.written equipmentSet (KeyedMap.mem_values.mpr hset)

end RustyCore.Player
