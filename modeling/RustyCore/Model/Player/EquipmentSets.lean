import RustyCore.Library.Transaction
import RustyCore.Model.ObjectGuid

/-! # Equipment sets

The equipment sets and transmog outfits of a player, the statements of a save and the two
tables these are executed on. -/

namespace RustyCore.Player

inductive EquipmentSetType where
  | equipment
  | transmog
deriving DecidableEq

inductive EquipmentSetUpdateState where
  | unchanged
  | changed
  | new
  | deleted
deriving DecidableEq

/-- `PLAYER_EQUIPMENT_SET_SLOTS`. -/
abbrev equipmentSetSlots : ℕ := 19

structure EquipmentSet where
  rawSetType : ℤ
  setType : EquipmentSetType
  guid : ℕ
  setId : ℕ
  ignoreMask : ℕ
  pieces : Vector ObjectGuid equipmentSetSlots
  appearances : Vector ℤ equipmentSetSlots
  enchants : Vector ℤ 2
  secondaryShoulderAppearanceId : ℤ
  secondaryShoulderSlot : ℤ
  secondaryWeaponAppearanceId : ℤ
  secondaryWeaponSlot : ℤ
  assignedSpecIndex : ℤ
  setName : String
  setIcon : String
  state : EquipmentSetUpdateState
deriving DecidableEq

/-- An empty set of type `Equipment`, as the constructor of the source makes it. -/
def EquipmentSet.ofEquipment (setId : ℕ) (assignedSpecIndex : ℤ)
    (state : EquipmentSetUpdateState) : EquipmentSet where
  rawSetType := 0
  setType := .equipment
  guid := 0
  setId := setId
  ignoreMask := 0
  pieces := Vector.replicate _ ObjectGuid.empty
  appearances := Vector.replicate _ 0
  enchants := Vector.replicate _ 0
  secondaryShoulderAppearanceId := 0
  secondaryShoulderSlot := 0
  secondaryWeaponAppearanceId := 0
  secondaryWeaponSlot := 0
  assignedSpecIndex := assignedSpecIndex
  setName := ""
  setIcon := ""
  state := state

/-- The sets, each under its own guid. -/
abbrev EquipmentSetMap := KeyedMap EquipmentSet.guid

/-- The canonical owner of the sets; `loaded` says whether the stored rows were read. -/
structure PlayerEquipmentSets where
  sets : EquipmentSetMap
  loaded : Bool

namespace PlayerEquipmentSets

def set (c : PlayerEquipmentSets) (guid : ℕ) : Option EquipmentSet := c.sets.get guid

/-! ## Transitions -/

def createSet (c : PlayerEquipmentSets) (equipmentSet : EquipmentSet) : PlayerEquipmentSets :=
  { c with sets := c.sets.insert { equipmentSet with state := .new } }

def updateSet (c : PlayerEquipmentSets) (equipmentSet : EquipmentSet) :
    PlayerEquipmentSets × Bool :=
  match c.set equipmentSet.guid with
  | none => (c, false)
  | some existing =>
    let state : EquipmentSetUpdateState := if existing.state = .new then .new else .changed
    ({ c with sets := c.sets.insert { equipmentSet with state := state } }, true)

/-- The first equipment set with this id, in guid order, whatever its state is. -/
def setWithId (c : PlayerEquipmentSets) (setId : ℕ) : Option EquipmentSet :=
  (c.sets.dict.findKey id fun _ equipmentSet =>
    decide (equipmentSet.setId = setId ∧ equipmentSet.setType = .equipment)).bind c.set

def assignSetToSpec (c : PlayerEquipmentSets) (setId : ℕ) (assignedSpecIndex : ℤ) :
    PlayerEquipmentSets × Bool :=
  match c.setWithId setId with
  | none => (c, false)
  | some equipmentSet =>
    let state : EquipmentSetUpdateState := if equipmentSet.state = .new then .new else .changed
    let assigned := { equipmentSet with assignedSpecIndex := assignedSpecIndex, state := state }
    ({ c with sets := c.sets.insert assigned }, true)

/-- A set that was never saved is erased, a stored one is kept until its row is deleted. -/
def deleteSet (c : PlayerEquipmentSets) (guid : ℕ) : PlayerEquipmentSets × Bool :=
  match c.set guid with
  | none => (c, false)
  | some equipmentSet =>
    if equipmentSet.state = .new then ({ c with sets := c.sets.remove guid }, true)
    else ({ c with sets := c.sets.insert { equipmentSet with state := .deleted } }, true)

/-! ## Acknowledgement -/

/-- The state of a set that was edited after its save was captured. -/
def acknowledgedState : EquipmentSetUpdateState → EquipmentSetUpdateState →
    EquipmentSetUpdateState
  | .deleted, .deleted => .deleted
  | .deleted, _ => .new
  | _, .deleted => .deleted
  | _, _ => .changed

/-- Settle one saved row. Saved rows are kept under their own guids. -/
def acknowledgeSavedSet (sets : EquipmentSetMap) (row : EquipmentSet) : EquipmentSetMap :=
  match sets.get row.guid with
  | some current =>
    if current = row then
      if row.state = .deleted then sets.remove row.guid
      else sets.insert { current with state := .unchanged }
    else sets.insert { current with state := acknowledgedState row.state current.state }
  | none =>
    if row.state = .deleted then sets
    else sets.insert { row with state := .deleted }

def acknowledgeSavedSets (c : PlayerEquipmentSets) (saved : EquipmentSetMap) :
    PlayerEquipmentSets :=
  { c with sets := saved.values.foldl acknowledgeSavedSet c.sets }

end PlayerEquipmentSets

/-! ## The save plan -/

/-- A row of the save request. -/
structure EquipmentSetSave where
  setGuid : ℕ
  setId : ℕ
  setType : EquipmentSetType
  state : EquipmentSetUpdateState
  name : String
  icon : String
  ignoreMask : ℕ
  assignedSpecIndex : ℤ
  pieces : Vector (BitVec 64) equipmentSetSlots
  appearances : Vector ℤ equipmentSetSlots
  enchants : Vector ℤ 2
deriving DecidableEq

def EquipmentSet.toSave (equipmentSet : EquipmentSet) : EquipmentSetSave where
  setGuid := equipmentSet.guid
  setId := equipmentSet.setId
  setType := equipmentSet.setType
  state := equipmentSet.state
  name := equipmentSet.setName
  icon := equipmentSet.setIcon
  ignoreMask := equipmentSet.ignoreMask
  assignedSpecIndex := equipmentSet.assignedSpecIndex
  pieces := equipmentSet.pieces.map ObjectGuid.counter
  appearances := equipmentSet.appearances
  enchants := equipmentSet.enchants

/-- The group of the save request; only a loaded owner is saved. -/
def PlayerEquipmentSets.saveRequest (c : PlayerEquipmentSets) : Option (List EquipmentSetSave) :=
  if c.loaded then some (c.sets.values.map EquipmentSet.toSave) else none

inductive EquipmentSaveStep where
  | insertEquipmentSet (row : EquipmentSetSave)
  | updateEquipmentSet (row : EquipmentSetSave)
  | deleteEquipmentSet (setGuid : ℕ)
  | insertTransmogOutfit (row : EquipmentSetSave)
  | updateTransmogOutfit (row : EquipmentSetSave)
  | deleteTransmogOutfit (setGuid : ℕ)
deriving DecidableEq

def equipmentSaveStep (row : EquipmentSetSave) : Option EquipmentSaveStep :=
  match row.state, row.setType with
  | .unchanged, _ => none
  | .deleted, .equipment => some (.deleteEquipmentSet row.setGuid)
  | .deleted, .transmog => some (.deleteTransmogOutfit row.setGuid)
  | .new, .equipment => some (.insertEquipmentSet row)
  | .changed, .equipment => some (.updateEquipmentSet row)
  | .new, .transmog => some (.insertTransmogOutfit row)
  | .changed, .transmog => some (.updateTransmogOutfit row)

def equipmentSavePlan (request : Option (List EquipmentSetSave)) : List EquipmentSaveStep :=
  (request.getD []).flatMap fun row => (equipmentSaveStep row).toList

/-! ## The tables -/

/-- A row of `character_equipmentsets`, without its two guid columns. -/
structure EquipmentSetColumns where
  setIndex : ℕ
  name : String
  iconName : String
  ignoreMask : ℕ
  assignedSpecIndex : ℤ
  items : Vector (BitVec 64) equipmentSetSlots
deriving DecidableEq

/-- A row of `character_transmog_outfits`, without its two guid columns. -/
structure TransmogOutfitColumns where
  setIndex : ℕ
  name : String
  iconName : String
  ignoreMask : ℕ
  appearances : Vector ℤ equipmentSetSlots
  enchants : Vector ℤ 2
deriving DecidableEq

def EquipmentSetSave.equipmentColumns (row : EquipmentSetSave) : EquipmentSetColumns :=
  ⟨row.setId, row.name, row.icon, row.ignoreMask, row.assignedSpecIndex, row.pieces⟩

def EquipmentSetSave.outfitColumns (row : EquipmentSetSave) : TransmogOutfitColumns :=
  ⟨row.setId, row.name, row.icon, row.ignoreMask, row.appearances, row.enchants⟩

/-- The player's rows of the two tables, by `setguid`. -/
structure EquipmentTables where
  equipmentSets : Dict ℕ EquipmentSetColumns
  transmogOutfits : Dict ℕ TransmogOutfitColumns

/-- An `UPDATE` also asks for the `setindex` of the row, which it does not write. -/
def EquipmentTables.execute (t : EquipmentTables) : EquipmentSaveStep → Option EquipmentTables
  | .insertEquipmentSet row =>
    (t.equipmentSets.insertRow row.setGuid row.equipmentColumns).map fun rows =>
      { t with equipmentSets := rows }
  | .updateEquipmentSet row =>
    let rows := t.equipmentSets.updateRow row.setGuid
      (fun stored => stored.setIndex = row.setId) row.equipmentColumns
    some { t with equipmentSets := rows }
  | .deleteEquipmentSet setGuid =>
    some { t with equipmentSets := AList.erase setGuid t.equipmentSets }
  | .insertTransmogOutfit row =>
    (t.transmogOutfits.insertRow row.setGuid row.outfitColumns).map fun rows =>
      { t with transmogOutfits := rows }
  | .updateTransmogOutfit row =>
    let rows := t.transmogOutfits.updateRow row.setGuid
      (fun stored => stored.setIndex = row.setId) row.outfitColumns
    some { t with transmogOutfits := rows }
  | .deleteTransmogOutfit setGuid =>
    some { t with transmogOutfits := AList.erase setGuid t.transmogOutfits }

/-- The transaction of a save of these sets. -/
def PlayerEquipmentSets.save (t : EquipmentTables) (c : PlayerEquipmentSets) :
    Option EquipmentTables :=
  transaction EquipmentTables.execute t (equipmentSavePlan c.saveRequest)

/-- The equipment part of `acknowledge_saved_projection`: the group was part of the save, and
the owner still has its rows. -/
def PlayerEquipmentSets.acknowledgeSavedProjection (c saved : PlayerEquipmentSets) :
    PlayerEquipmentSets :=
  if saved.saveRequest.isSome ∧ c.loaded then c.acknowledgeSavedSets saved.sets else c

end RustyCore.Player
