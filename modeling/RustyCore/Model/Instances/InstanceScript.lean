import Mathlib.Data.Int.Order.Basic
import Mathlib.Data.List.Basic

/-! # Saved instance scripts

The boss states and persistent values of an instance script, and how they are loaded from the
JSON text that was saved for the instance. `F64` is the type of floating-point numbers; they are
stored and never computed with. -/

namespace RustyCore.Instances

/-- A JSON number, as its accessors see it. -/
structure JsonNumber (F64 : Type) where
  asI64 : Option ℤ
  asF64 : Option F64

/-- A JSON value; the keys of an object are those of a map. -/
inductive Json (F64 : Type) where
  | null
  | bool (value : Bool)
  | number (value : JsonNumber F64)
  | string (value : String)
  | array (values : List (Json F64))
  | object (entries : List (String × Json F64))

namespace Json

variable {F64 : Type}

def asObject : Json F64 → Option (List (String × Json F64))
  | object entries => some entries
  | _ => none

def asArray : Json F64 → Option (List (Json F64))
  | array values => some values
  | _ => none

def asStr : Json F64 → Option String
  | string value => some value
  | _ => none

def asI64 : Json F64 → Option ℤ
  | number value => value.asI64
  | _ => none

def asF64 : Json F64 → Option F64
  | number value => value.asF64
  | _ => none

def isNull : Json F64 → Bool
  | null => true
  | _ => false

end Json

def instanceScriptHeaderKey : String := "Header"

def instanceScriptBossStatesKey : String := "BossStates"

def instanceScriptAdditionalDataKey : String := "AdditionalData"

inductive EncounterState where
  | notStarted
  | inProgress
  | fail
  | done
  | special
  | toBeDecided
deriving DecidableEq

namespace EncounterState

def fromI64 : ℤ → Option EncounterState
  | 0 => some notStarted
  | 1 => some inProgress
  | 2 => some fail
  | 3 => some done
  | 4 => some special
  | 5 => some toBeDecided
  | _ => none

def saveLoadNormalized : EncounterState → EncounterState
  | inProgress | fail | special => notStarted
  | state => state

end EncounterState

inductive PersistentInstanceScriptValue (F64 : Type) where
  | i64 (value : ℤ)
  | f64 (value : F64)
deriving DecidableEq

def PersistentInstanceScriptValue.fromJsonNumber {F64 : Type} (value : Json F64) :
    Option (PersistentInstanceScriptValue F64) :=
  (value.asI64.map i64).or (value.asF64.map f64)

inductive InstanceScriptDataLoadError where
  | malformedJson
  | rootIsNotAnObject
  | missingHeader
  | unexpectedHeader
  | missingBossStates
  | bossStatesIsNotAnArray
  | unknownBoss
  | bossStateIsNotANumber
  | additionalDataIsNotAnObject
  | additionalDataUnexpectedValueType
deriving DecidableEq

structure BossInfo where
  state : EncounterState
  dungeonEncounters : List (Option ℕ)
deriving DecidableEq

/-- The fields that loading reads or writes. -/
structure InstanceScriptBase (F64 : Type) where
  header : String
  bosses : List BossInfo
  persistentValues : List (String × PersistentInstanceScriptValue F64)
deriving DecidableEq

namespace InstanceScriptBase

variable {F64 : Type}

def setBossState (bossId : ℕ) (state : EncounterState) (script : InstanceScriptBase F64) :
    InstanceScriptBase F64 :=
  match script.bosses[bossId]? with
  | none => script
  | some boss => { script with bosses := script.bosses.set bossId { boss with state := state } }

/-- The loop over the boss states, from the given boss on. -/
def loadBossStates (bossId : ℕ) : List (Json F64) → InstanceScriptBase F64 →
    InstanceScriptBase F64 × Except InstanceScriptDataLoadError Unit
  | [], script => (script, .ok ())
  | bossState :: bossStates, script =>
    if script.bosses.length ≤ bossId then (script, .error .unknownBoss)
    else
      match bossState.asI64 with
      | none => (script, .error .bossStateIsNotANumber)
      | some stateValue =>
        match EncounterState.fromI64 stateValue with
        | none => loadBossStates (bossId + 1) bossStates script
        | some state =>
          if state.saveLoadNormalized ≠ .toBeDecided then
            loadBossStates (bossId + 1) bossStates
              (script.setBossState bossId state.saveLoadNormalized)
          else loadBossStates (bossId + 1) bossStates script

/-- The loop over the persistent values. -/
def loadPersistentValues (additionalData : List (String × Json F64)) :
    List (String × PersistentInstanceScriptValue F64) →
    List (String × PersistentInstanceScriptValue F64) × Except InstanceScriptDataLoadError Unit
  | [] => ([], .ok ())
  | (name, value) :: values =>
    match additionalData.lookup name with
    | none =>
      let (loaded, result) := loadPersistentValues additionalData values
      ((name, value) :: loaded, result)
    | some savedValue =>
      if savedValue.isNull then
        let (loaded, result) := loadPersistentValues additionalData values
        ((name, value) :: loaded, result)
      else
        match PersistentInstanceScriptValue.fromJsonNumber savedValue with
        | none => ((name, value) :: values, .error .additionalDataUnexpectedValueType)
        | some newValue =>
          let (loaded, result) := loadPersistentValues additionalData values
          ((name, newValue) :: loaded, result)

/-- The saved text; `quote` writes strings as JSON, and `toJson` the values. -/
def getSaveData (quote : String → String)
    (toJson : PersistentInstanceScriptValue F64 → String) (script : InstanceScriptBase F64) :
    String :=
  let bossStates := ",".intercalate (script.bosses.map fun boss => toString boss.state.ctorIdx)
  let data := "\x7b\"" ++ instanceScriptHeaderKey ++ "\":" ++ quote script.header ++ ",\"" ++
    instanceScriptBossStatesKey ++ "\":[" ++ bossStates ++ "]"
  let data :=
    if script.persistentValues.isEmpty then data
    else data ++ ",\"" ++ instanceScriptAdditionalDataKey ++ "\":\x7b" ++
      ",".intercalate (script.persistentValues.map fun value =>
        quote value.1 ++ ":" ++ toJson value.2) ++ "\x7d"
  data ++ "\x7d"

/-- The array of boss states, after all checks that come before the first write. -/
def savedBossStates (fromStr : String → Option (Json F64)) (data : String)
    (script : InstanceScriptBase F64) :
    Except InstanceScriptDataLoadError (List (String × Json F64) × List (Json F64)) :=
  match fromStr data with
  | none => .error .malformedJson
  | some doc =>
    match doc.asObject with
    | none => .error .rootIsNotAnObject
    | some root =>
      match root.lookup instanceScriptHeaderKey with
      | none => .error .missingHeader
      | some header =>
        if header.asStr ≠ some script.header then .error .unexpectedHeader
        else
          match root.lookup instanceScriptBossStatesKey with
          | none => .error .missingBossStates
          | some bossStates =>
            match bossStates.asArray with
            | none => .error .bossStatesIsNotAnArray
            | some bossStates => .ok (root, bossStates)

/-- Load a saved text; `fromStr` parses JSON. -/
def loadSaveData (fromStr : String → Option (Json F64)) (data : String)
    (script : InstanceScriptBase F64) :
    InstanceScriptBase F64 × Except InstanceScriptDataLoadError Unit :=
  match script.savedBossStates fromStr data with
  | .error error => (script, .error error)
  | .ok (root, bossStates) =>
    match loadBossStates 0 bossStates script with
    | (script, .error error) => (script, .error error)
    | (script, .ok ()) =>
      match root.lookup instanceScriptAdditionalDataKey with
      | none => (script, .ok ())
      | some additionalData =>
        match additionalData.asObject with
        | none => (script, .error .additionalDataIsNotAnObject)
        | some additionalData =>
          let (values, result) :=
            loadPersistentValues additionalData script.persistentValues
          ({ script with persistentValues := values }, result)

end InstanceScriptBase

end RustyCore.Instances
