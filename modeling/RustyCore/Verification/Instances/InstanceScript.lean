import RustyCore.Model.Instances.InstanceScript

/-! # Rejected saves

A save is loaded in one pass that writes as it goes. When it is rejected, everything before the
element it stumbles on has been written, and nothing else. -/

namespace RustyCore.Instances

open InstanceScriptBase

variable {F64 : Type}
variable {script : InstanceScriptBase F64} {bossStates : List (Json F64)}
  {front back : List BossInfo} {error : InstanceScriptDataLoadError}
variable {script' : InstanceScriptBase F64} {additionalData : List (String × Json F64)}
  {fromStr : String → Option (Json F64)}

/-- The boss with the state that a saved value gives it, if any. -/
def BossInfo.load (boss : BossInfo) (bossState : Json F64) : BossInfo :=
  match bossState.asI64.bind EncounterState.fromI64 with
  | none => boss
  | some state =>
    if state.saveLoadNormalized ≠ .toBeDecided then
      { boss with state := state.saveLoadNormalized }
    else boss

/-- The bosses with the states of as many saved values. -/
def writeBossStates : List (Json F64) → List BossInfo → List BossInfo
  | bossState :: bossStates, boss :: bosses =>
    boss.load bossState :: writeBossStates bossStates bosses
  | _, bosses => bosses

@[simp] theorem writeBossStates_nil (bosses : List BossInfo) :
    writeBossStates ([] : List (Json F64)) bosses = bosses := by
  cases bosses <;> rfl

/-- The value with what is saved under its name, if anything. -/
def writeValue (additionalData : List (String × Json F64))
    (entry : String × PersistentInstanceScriptValue F64) :
    String × PersistentInstanceScriptValue F64 :=
  match additionalData.lookup entry.1 with
  | none => entry
  | some savedValue =>
    (entry.1, (PersistentInstanceScriptValue.fromJsonNumber savedValue).getD entry.2)

/-- A saved boss state is for a boss that is not there, or is not an integer. -/
def BossRejected (bossCount bossId : ℕ) (bossState : Json F64) : Prop :=
  bossCount ≤ bossId ∨ bossState.asI64 = none

/-- What is saved under the name of the value is neither null nor a number. -/
def ValueRejected (additionalData : List (String × Json F64))
    (entry : String × PersistentInstanceScriptValue F64) : Prop :=
  ∃ savedValue, additionalData.lookup entry.1 = some savedValue ∧ savedValue.isNull = false ∧
    PersistentInstanceScriptValue.fromJsonNumber savedValue = none

/-- The first position of a list whose element is rejected. -/
def FirstRejected {α : Type} (rejected : ℕ → α → Prop) (l : List α) (i : ℕ) : Prop :=
  (∃ a, l[i]? = some a ∧ rejected i a) ∧ ∀ j a, j < i → l[j]? = some a → ¬ rejected j a

theorem FirstRejected.zero {α : Type} {rejected : ℕ → α → Prop} {a : α} {l : List α}
    (h : rejected 0 a) : FirstRejected rejected (a :: l) 0 :=
  ⟨⟨a, rfl, h⟩, fun _ _ hlt => absurd hlt (Nat.not_lt_zero _)⟩

theorem FirstRejected.succ {α : Type} {rejected : ℕ → α → Prop} {a : α} {l : List α} {i : ℕ}
    (hfirst : ¬ rejected 0 a) (h : FirstRejected (fun j => rejected (j + 1)) l i) :
    FirstRejected rejected (a :: l) (i + 1) := by
  refine ⟨h.1, fun j b hlt hb => ?_⟩
  cases j with
  | zero =>
    cases hb
    exact hfirst
  | succ j => exact h.2 j b (Nat.lt_of_succ_lt_succ hlt) hb

/-! ## The two loops -/

theorem setBossState_append (front : List BossInfo) (boss : BossInfo) (back : List BossInfo)
    (state : EncounterState) (script : InstanceScriptBase F64)
    (hbosses : script.bosses = front ++ boss :: back) :
    script.setBossState front.length state =
      { script with bosses := front ++ { boss with state := state } :: back } := by
  simp [setBossState, hbosses]

theorem loadBossStates_cons {boss : BossInfo} {bossState : Json F64}
    (hbosses : script.bosses = front ++ boss :: back) (hnumber : bossState.asI64 ≠ none) :
    loadBossStates front.length (bossState :: bossStates) script =
      loadBossStates (front ++ [boss.load bossState]).length bossStates
        { script with bosses := (front ++ [boss.load bossState]) ++ back } := by
  obtain ⟨stateValue, hvalue⟩ := Option.ne_none_iff_exists'.mp hnumber
  have hlength : ¬ script.bosses.length ≤ front.length := by
    simp [hbosses]
  have hsame : { script with bosses := front ++ boss :: back } = script := by
    rw [← hbosses]
  rw [loadBossStates, if_neg hlength]
  simp only [hvalue, BossInfo.load, Option.bind_some, List.length_append, List.length_singleton,
    List.append_assoc, List.singleton_append]
  cases EncounterState.fromI64 stateValue with
  | none => rw [hsame]
  | some state =>
    simp only
    split
    · rw [setBossState_append front boss back _ script hbosses]
    · rw [hsame]

theorem loadBossStates_error (hbosses : script.bosses = front ++ back)
    (h : loadBossStates front.length bossStates script = (script', .error error)) :
    (error = .unknownBoss ∨ error = .bossStateIsNotANumber) ∧
      ∃ i, FirstRejected (fun j => BossRejected script.bosses.length (front.length + j))
          bossStates i ∧
        script' = { script with bosses := front ++ writeBossStates (bossStates.take i) back } := by
  induction bossStates generalizing front back script with
  | nil => cases h
  | cons bossState bossStates ih =>
    by_cases hlength : script.bosses.length ≤ front.length
    · rw [loadBossStates, if_pos hlength] at h
      cases h
      refine ⟨.inl rfl, 0, .zero (.inl hlength), ?_⟩
      rw [List.take_zero, writeBossStates_nil, ← hbosses]
    · cases back with
      | nil => simp [hbosses] at hlength
      | cons boss back =>
        by_cases hnumber : bossState.asI64 = none
        · rw [loadBossStates, if_neg hlength, hnumber] at h
          cases h
          refine ⟨.inr rfl, 0, .zero (.inr hnumber), ?_⟩
          rw [List.take_zero, writeBossStates_nil, ← hbosses]
        · rw [loadBossStates_cons hbosses hnumber] at h
          obtain ⟨herror, i, hfirst, rfl⟩ := ih rfl h
          refine ⟨herror, i + 1, .succ (not_or.mpr ⟨hlength, hnumber⟩) ?_, ?_⟩
          · simpa [hbosses, Nat.add_assoc, Nat.add_comm 1] using hfirst
          · simp [writeBossStates]

theorem loadBossStates_ok (hbosses : script.bosses = front ++ back)
    (h : loadBossStates front.length bossStates script = (script', .ok ())) :
    script' = { script with bosses := front ++ writeBossStates bossStates back } := by
  induction bossStates generalizing front back script with
  | nil =>
    cases h
    rw [writeBossStates_nil, ← hbosses]
  | cons bossState bossStates ih =>
    by_cases hlength : script.bosses.length ≤ front.length
    · rw [loadBossStates, if_pos hlength] at h
      cases h
    · cases back with
      | nil => simp [hbosses] at hlength
      | cons boss back =>
        by_cases hnumber : bossState.asI64 = none
        · rw [loadBossStates, if_neg hlength, hnumber] at h
          cases h
        · rw [loadBossStates_cons hbosses hnumber] at h
          rw [ih rfl h]
          simp [writeBossStates]

theorem writeValue_of_null {name : String} {value : PersistentInstanceScriptValue F64}
    {savedValue : Json F64} (hsaved : additionalData.lookup name = some savedValue)
    (hnull : savedValue.isNull = true) :
    writeValue additionalData (name, value) = (name, value) := by
  cases savedValue <;> cases hnull
  simp only [writeValue, hsaved]
  rfl

theorem loadPersistentValues_cons (additionalData : List (String × Json F64))
    (entry : String × PersistentInstanceScriptValue F64)
    (values : List (String × PersistentInstanceScriptValue F64)) :
    (ValueRejected additionalData entry ∧ loadPersistentValues additionalData (entry :: values) =
        (entry :: values, .error .additionalDataUnexpectedValueType)) ∨
      (¬ ValueRejected additionalData entry ∧
        loadPersistentValues additionalData (entry :: values) =
          (writeValue additionalData entry :: (loadPersistentValues additionalData values).1,
            (loadPersistentValues additionalData values).2)) := by
  obtain ⟨name, value⟩ := entry
  cases hsaved : additionalData.lookup name with
  | none =>
    refine .inr ⟨fun ⟨_, hlookup, _⟩ => by simp [hsaved] at hlookup, ?_⟩
    simp [loadPersistentValues, writeValue, hsaved]
  | some savedValue =>
    cases hnull : savedValue.isNull with
    | true =>
      refine .inr ⟨fun ⟨_, hlookup, hnot, _⟩ => ?_, ?_⟩
      · cases hsaved.symm.trans hlookup
        simp [hnull] at hnot
      · rw [writeValue_of_null hsaved hnull]
        simp [loadPersistentValues, hsaved, hnull]
    | false =>
      cases hnumber : PersistentInstanceScriptValue.fromJsonNumber savedValue with
      | none =>
        refine .inl ⟨⟨savedValue, hsaved, hnull, hnumber⟩, ?_⟩
        simp [loadPersistentValues, hsaved, hnull, hnumber]
      | some newValue =>
        refine .inr ⟨fun ⟨_, hlookup, _, hnot⟩ => ?_, ?_⟩
        · cases hsaved.symm.trans hlookup
          simp [hnumber] at hnot
        · simp [loadPersistentValues, writeValue, hsaved, hnull, hnumber]

theorem loadPersistentValues_error
    {values values' : List (String × PersistentInstanceScriptValue F64)}
    (h : loadPersistentValues additionalData values = (values', .error error)) :
    error = .additionalDataUnexpectedValueType ∧
      ∃ i, FirstRejected (fun _ => ValueRejected additionalData) values i ∧
        values' = (values.take i).map (writeValue additionalData) ++ values.drop i := by
  induction values generalizing values' with
  | nil => cases h
  | cons entry values ih =>
    rcases loadPersistentValues_cons additionalData entry values with
      ⟨hrejected, hrun⟩ | ⟨haccepted, hrun⟩
    · rw [hrun] at h
      cases h
      exact ⟨rfl, 0, .zero hrejected, rfl⟩
    · rw [hrun] at h
      rw [Prod.mk.injEq] at h
      obtain ⟨rfl, herror⟩ := h
      obtain ⟨hkind, i, hfirst, hloaded⟩ := ih (Prod.ext rfl herror)
      refine ⟨hkind, i + 1, .succ haccepted hfirst, ?_⟩
      exact congrArg (writeValue additionalData entry :: ·) hloaded

/-! ## Rejected saves -/

/-- The errors of the checks that come before the first write. -/
def checkErrors : List InstanceScriptDataLoadError :=
  [.malformedJson, .rootIsNotAnObject, .missingHeader, .unexpectedHeader, .missingBossStates,
    .bossStatesIsNotAnArray]

theorem mem_checkErrors {data : String} (h : script.savedBossStates fromStr data = .error error) :
    error ∈ checkErrors := by
  unfold savedBossStates at h
  repeat' split at h
  all_goals cases h
  all_goals decide

def SavedIn (fromStr : String → Option (Json F64)) (data : String)
    (root : List (String × Json F64)) (bossStates : List (Json F64)) : Prop :=
  fromStr data = some (.object root) ∧
    root.lookup instanceScriptBossStatesKey = some (.array bossStates)

theorem savedIn_of_ok {data : String} {root : List (String × Json F64)}
    (h : script.savedBossStates fromStr data = .ok (root, bossStates)) :
    SavedIn fromStr data root bossStates := by
  have hobject (doc : Json F64) (h : doc.asObject = some root) : doc = .object root := by
    cases doc <;> cases h
    rfl
  have harray (value : Json F64) (h : value.asArray = some bossStates) :
      value = .array bossStates := by
    cases value <;> cases h
    rfl
  unfold savedBossStates at h
  split at h
  · cases h
  · rename_i doc hdoc
    split at h
    · cases h
    · rename_i root' hroot
      split at h
      · cases h
      · split at h
        · cases h
        · split at h
          · cases h
          · rename_i value hvalue
            split at h
            · cases h
            · rename_i bossStates' hstates
              cases h
              rw [hobject doc hroot] at hdoc
              rw [harray value hstates] at hvalue
              exact ⟨hdoc, hvalue⟩

/-- A rejected save has written the elements before the one that is rejected, and nothing else:
nothing at all where a check before the first write fails, the boss states before the rejected
one and no persistent value where a boss state is, and all boss states and the persistent values
before the rejected one otherwise. -/
theorem rejected_save_writes_before (fromStr : String → Option (Json F64)) (data : String)
    (script script' : InstanceScriptBase F64) (error : InstanceScriptDataLoadError)
    (h : script.loadSaveData fromStr data = (script', .error error)) :
    (error ∈ checkErrors → script' = script) ∧
    (error ∉ checkErrors → ∃ root bossStates, SavedIn fromStr data root bossStates ∧
      (error = .unknownBoss ∨ error = .bossStateIsNotANumber → ∃ i,
        FirstRejected (BossRejected script.bosses.length) bossStates i ∧
        script' =
          { script with bosses := writeBossStates (bossStates.take i) script.bosses }) ∧
      (error = .additionalDataIsNotAnObject →
        script' = { script with bosses := writeBossStates bossStates script.bosses }) ∧
      (error = .additionalDataUnexpectedValueType → ∃ additionalData i,
        root.lookup instanceScriptAdditionalDataKey = some (.object additionalData) ∧
        FirstRejected (fun _ => ValueRejected additionalData) script.persistentValues i ∧
        script' =
          { script with
            bosses := writeBossStates bossStates script.bosses
            persistentValues :=
              (script.persistentValues.take i).map (writeValue additionalData) ++
                script.persistentValues.drop i })) := by
  unfold loadSaveData at h
  split at h
  · rename_i hcheck
    cases h
    exact ⟨fun _ => rfl, fun hnot => absurd (mem_checkErrors hcheck) hnot⟩
  · rename_i root bossStates hsaved
    have hin := savedIn_of_ok hsaved
    split at h
    · rename_i loaded error' hloop
      cases h
      obtain ⟨herror, i, hfirst, hloaded⟩ :=
        loadBossStates_error (List.nil_append script.bosses).symm hloop
      simp only [List.length_nil, Nat.zero_add, List.nil_append] at hfirst hloaded
      refine ⟨fun hcheck => ?_, fun _ => ⟨root, bossStates, hin, fun _ => ⟨i, hfirst, hloaded⟩,
        fun hother => ?_, fun hother => ?_⟩⟩
      · rcases herror with rfl | rfl <;> simp [checkErrors] at hcheck
      · subst hother
        simp at herror
      · subst hother
        simp at herror
    · rename_i loaded hloop
      have hloaded := loadBossStates_ok (List.nil_append script.bosses).symm hloop
      rw [List.nil_append] at hloaded
      subst hloaded
      split at h
      · cases h
      · rename_i value hvalue
        split at h
        · cases h
          refine ⟨fun hcheck => ?_, fun _ => ⟨root, bossStates, hin, fun hother => ?_,
            fun _ => rfl, fun hother => ?_⟩⟩
          · simp [checkErrors] at hcheck
          · simp at hother
          · cases hother
        · rename_i additionalData hobject
          have hkey : root.lookup instanceScriptAdditionalDataKey =
              some (.object additionalData) := by
            cases value <;> cases hobject
            exact hvalue
          cases hrun : loadPersistentValues additionalData script.persistentValues with
          | mk values result =>
            simp only [hrun, Prod.mk.injEq] at h
            obtain ⟨rfl, rfl⟩ := h
            obtain ⟨rfl, i, hfirst, rfl⟩ := loadPersistentValues_error hrun
            refine ⟨fun hcheck => ?_, fun _ => ⟨root, bossStates, hin, fun hother => ?_,
              fun hother => ?_, fun _ => ⟨additionalData, i, hkey, hfirst, rfl⟩⟩⟩
            · simp [checkErrors] at hcheck
            · simp at hother
            · cases hother

def twoBosses : InstanceScriptBase Float := ⟨"TEST", List.replicate 2 ⟨.notStarted, []⟩, []⟩

def halfSavedText : String :=
  "\x7b\"Header\":\"TEST\",\"BossStates\":[3,\"x\"]\x7d"

def parseHalfSaved (data : String) : Option (Json Float) :=
  if data = halfSavedText then
    some (.object [("Header", .string "TEST"),
      ("BossStates", .array [.number ⟨some 3, some 3⟩, .string "x"])])
  else none

/-- The bosses after the first boss state, but not the second one, was written. -/
def firstBossDone : InstanceScriptBase Float :=
  ⟨"TEST", [⟨.done, []⟩, ⟨.notStarted, []⟩], []⟩

/-- The save is rejected for its second boss state, after the first one was written. -/
theorem rejected_save_writes_first_boss :
    twoBosses.loadSaveData parseHalfSaved halfSavedText =
        (firstBossDone, .error .bossStateIsNotANumber) ∧
      firstBossDone.bosses ≠ twoBosses.bosses := by
  refine ⟨?_, by decide⟩
  simp only [loadSaveData, savedBossStates, parseHalfSaved, if_true]
  rfl

theorem rejected_save_writes_before_half : ∃ root bossStates i,
    SavedIn parseHalfSaved halfSavedText root bossStates ∧
      FirstRejected (BossRejected 2) bossStates i ∧
      firstBossDone =
        { twoBosses with bosses := writeBossStates (bossStates.take i) twoBosses.bosses } := by
  have hload : twoBosses.loadSaveData parseHalfSaved halfSavedText =
      (firstBossDone, .error .bossStateIsNotANumber) := by
    simp only [loadSaveData, savedBossStates, parseHalfSaved, if_true]
    rfl
  obtain ⟨root, bossStates, hin, hboss, _⟩ :=
    (rejected_save_writes_before parseHalfSaved halfSavedText twoBosses firstBossDone
      .bossStateIsNotANumber hload).2 (by decide)
  obtain ⟨i, hfirst, hbosses⟩ := hboss (.inr rfl)
  exact ⟨root, bossStates, i, hin, hfirst, hbosses⟩

end RustyCore.Instances
